/-
This file decides which native libraries the host accepts. A library is first only a resolver:
names with addresses, and what its contract functions would answer. It is accepted when every
declared symbol has a non-null address, it reports the expected version of the interface and,
where layouts are checked, it describes every declared struct as the host does. Of several faults
the first in this order is reported.
-/

import WalletBridge.Error.Bridge
import WalletBridge.Boundary.Layout
import WalletBridge.Boundary.Symbol

namespace WalletBridge

/-- The version of the interface that the host expects. -/
def abiVersion : UInt32 := 2

/-- What a resolved name points to. -/
inductive CodeAddress where
  | null
  | function
  deriving Repr, DecidableEq

/-- A library before it is accepted. -/
structure Resolver where
  /-- Where it comes from. -/
  origin : String
  /-- The names it knows, each once. -/
  entries : List (String × CodeAddress)
  /-- The version it would report. -/
  reportedAbi : UInt32
  /-- What it would say about a struct. -/
  describe : String → Option LayoutDescription

namespace Resolver

/-- The library that exports every symbol and is laid out as declared. -/
def complete (origin : String) : Resolver :=
  ⟨origin, Symbol.names.map fun name => (name, .function), abiVersion, describeDeclared⟩

/-- A library without any of the symbols. -/
def symbolless (origin : String) : Resolver := ⟨origin, [], abiVersion, fun _ => none⟩

/-- The address of a name. -/
def resolve (resolver : Resolver) (name : String) : Except LinkageError CodeAddress :=
  match resolver.entries.find? (·.1 == name) with
  | some entry => .ok entry.2
  | none => .error (.missingSymbol name)

/-- The resolver with one name resolving to an address, in place of what it resolved to. -/
def withEntry (resolver : Resolver) (name : String) (address : CodeAddress) : Resolver :=
  { resolver with
    entries :=
      if resolver.entries.any (·.1 == name) then
        resolver.entries.map fun entry => if entry.1 == name then (name, address) else entry
      else resolver.entries ++ [(name, address)] }

/-- The resolver without a name. -/
def withoutEntry (resolver : Resolver) (name : String) : Resolver :=
  { resolver with entries := resolver.entries.filter (·.1 != name) }

/-- The resolver with only the names of a list. -/
def restrictedTo (resolver : Resolver) (names : List String) : Resolver :=
  { resolver with entries := resolver.entries.filter (names.contains ·.1) }

/-! ### The check -/

/-- Every name of a list must have a non-null address. -/
def checkSymbols (resolver : Resolver) : List String → Except LinkageError Unit
  | [] => .ok ()
  | name :: rest =>
    match resolver.resolve name with
    | .ok .function => checkSymbols resolver rest
    | .ok .null => .error (.missingSymbol name)
    | .error fault => .error fault

/-- What the library says about a struct; a name with a zero character cannot be asked for. -/
def describeStruct (resolver : Resolver) (name : String) : Option LayoutDescription :=
  if name.toList.contains '\x00' then none else resolver.describe name

/-- Every layout of a list must be described as declared. -/
def checkLayouts (resolver : Resolver) : List StructLayout → Except LinkageError Unit
  | [] => .ok ()
  | layout :: rest =>
    match resolver.describeStruct layout.name with
    | none => .error (.unknownLayout layout.name)
    | some described =>
      if layout.agrees described then checkLayouts resolver rest
      else .error (.layoutMismatch layout.name layout.text described.text)

/-- The reported version must be the expected one. -/
def checkAbi (resolver : Resolver) : Except LinkageError Unit :=
  if resolver.reportedAbi = abiVersion then .ok ()
  else .error (.abiVersion abiVersion resolver.reportedAbi)

/-- The whole check; layouts are compared only where that is asked for. -/
def check (resolver : Resolver) (verify : Bool) : Except LinkageError Unit := do
  resolver.checkSymbols Symbol.names
  resolver.checkAbi
  if verify then resolver.checkLayouts StructLayout.declared else pure ()

end Resolver

/-! ### Accepted libraries -/

/-- The number of an accepted library; two acceptances never share one. -/
abbrev LibraryId := Nat

/-- An accepted library. -/
structure NativeLibrary where
  id : LibraryId
  origin : String
  abi : UInt32
  deriving Repr, DecidableEq

/-- A library in one line. -/
def NativeLibrary.text (library : NativeLibrary) : String :=
  "NativeLibrary \x7b origin: \"" ++ library.origin ++ "\", abi_version: " ++
    toString library.abi ++ ", .. \x7d"

/-- The resolved functions of a library in one line. -/
def Symbol.text : String :=
  "Symbols \x7b count: " ++ toString Symbol.names.length ++ ", .. \x7d"

/-- Accepts a resolver under a fresh number. -/
def Resolver.accept (resolver : Resolver) (verify : Bool) (id : LibraryId) :
    Except LinkageError NativeLibrary := do
  resolver.check verify
  pure ⟨id, resolver.origin, resolver.reportedAbi⟩

/-! ### Where libraries are found -/

/-- The environment variable that names the library to load. -/
def libraryVariable : String := "BDK_BIND_LIBRARY"

/-- The base name of the library. -/
def libraryName : String := "bdk_bind_native"

/-- How a library is found and checked. -/
structure LibraryConfig where
  path : String
  verify : Bool
  deriving Repr, DecidableEq

/-- The settings that hold when nothing is chosen: the path from the environment, else the base
name as a shared object, with layouts compared. -/
def LibraryConfig.default (environment : Option String) : LibraryConfig :=
  ⟨environment.getD ("lib" ++ libraryName ++ ".so"), true⟩

/-- What the system's loader finds at a path: a library, or a reason why there is none. -/
abbrev Loader := String → Except String Resolver

/-- Loads and accepts the library at the configured path. -/
def LibraryConfig.open (config : LibraryConfig) (loader : Loader) (id : LibraryId) :
    Except LinkageError NativeLibrary :=
  match loader config.path with
  | .error reason => .error (.libraryLoad config.path reason)
  | .ok resolver => resolver.accept config.verify id

end WalletBridge
