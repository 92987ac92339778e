/-
This file holds what is kept of wallets between runs, and the places where it is kept. A store in
memory belongs to whoever opened it; a file is shared by all who name its path, and can be opened
only in a directory that is there.
-/

import WalletBridge.Descriptor.Output
import WalletBridge.Native.Engine

namespace WalletBridge

/-! ### Contents -/

/-- The last index that was handed out, for each of a wallet's descriptors. -/
structure LastRevealed where
  external : Option Nat
  internal : Option Nat
  deriving Repr, DecidableEq, Inhabited

namespace LastRevealed

/-- Nothing was handed out. -/
def nothing : LastRevealed := ⟨none, none⟩

/-- What is known after a change: where the change says nothing, what was known before. -/
def updated (known change : LastRevealed) : LastRevealed :=
  ⟨change.external.or known.external, change.internal.or known.internal⟩

end LastRevealed

/-- What is kept of a wallet. -/
structure StoredWallet where
  chain : Chain
  external : Descriptor
  internal : Option Descriptor
  revealed : LastRevealed

/-! ### Places -/

/-- An open store. -/
inductive StoreKey where
  /-- A store in memory, by its number. -/
  | memory (number : Nat)
  | file (path : String)
  deriving Repr, DecidableEq

/-- All stores. -/
structure Disk where
  /-- The directories in which files can be made. -/
  directories : List String
  /-- How many stores in memory were opened. -/
  opened : Nat
  contents : List (StoreKey × StoredWallet)

namespace Disk

/-- Disk space with some directories and no files. -/
def empty (directories : List String) : Disk := ⟨directories, 0, []⟩

/-- The directory and the name of a path. -/
def splitPath (path : String) : String × String :=
  let characters := path.toList.reverse
  let name := characters.takeWhile (· != '/')
  let directory := characters.drop (name.length + 1)
  (String.ofList directory.reverse, String.ofList name.reverse)

/-- Whether a file can be at a path: it has a name, and its directory is there. -/
def admits (disk : Disk) (path : String) : Bool :=
  let (directory, name) := splitPath path
  !name.isEmpty && !disk.directories.contains path && disk.directories.contains directory

/-- The path that names a store in memory. -/
def memoryPath : String := ":memory:"

/-- Opens a new store in memory. -/
def openMemory (disk : Disk) : StoreKey × Disk :=
  (.memory disk.opened, { disk with opened := disk.opened + 1 })

/-- Opens a store. -/
def openStore (place : DatabasePlace) (disk : Disk) : Attempt String StoreKey × Disk :=
  match place with
  | .memory => (.value disk.openMemory.1, disk.openMemory.2)
  | .file path =>
    if path = memoryPath then (.value disk.openMemory.1, disk.openMemory.2)
    else if disk.admits path then (.value (.file path), disk)
    else (.refused "unable to open database file", disk)

/-- What a store holds. -/
def read (disk : Disk) (key : StoreKey) : Option StoredWallet := disk.contents.lookup key

/-- Writes to a store, in place of what it held. -/
def write (disk : Disk) (key : StoreKey) (stored : StoredWallet) : Disk :=
  { disk with contents := (key, stored) :: disk.contents.filter (·.1 != key) }

end Disk

end WalletBridge
