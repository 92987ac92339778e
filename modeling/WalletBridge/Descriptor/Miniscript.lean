/-
This file holds spending conditions: keys, digests and times, put together with wrappers and
connectives, and the script that each one is written as. Script trees differ from other scripts in
how they write keys and in having a signature count of their own.
-/

import WalletBridge.Bitcoin.Script

namespace WalletBridge

/-- The digests whose preimages can be asked for. -/
inductive DigestKind where
  | sha256
  | hash256
  | ripemd160
  | hash160
  deriving Repr, DecidableEq

namespace DigestKind

/-- How many octets a digest has. -/
def length : DigestKind → Nat
  | .sha256 => 32
  | .hash256 => 32
  | .ripemd160 => 20
  | .hash160 => 20

/-- The operation that computes a digest. -/
def opcode : DigestKind → Opcode
  | .sha256 => Opcode.sha256
  | .hash256 => Opcode.hash256
  | .ripemd160 => Opcode.ripemd160
  | .hash160 => Opcode.hash160

end DigestKind

/-- The wrappers that keep one condition. -/
inductive Wrapper where
  | alt
  | swap
  | check
  | dupIf
  | verify
  | nonZero
  | isNotZero
  deriving Repr, DecidableEq

/-- A spending condition over keys. -/
inductive Miniscript (Key : Type) where
  | always
  | never
  | key (key : Key)
  /-- A key given by its digest. -/
  | keyDigest (key : Key)
  /-- Not before a height or a time. -/
  | after (time : Nat)
  /-- Not before an age. -/
  | older (age : Nat)
  | preimage (kind : DigestKind) (digest : Bytes)
  | wrap (wrapper : Wrapper) (inner : Miniscript Key)
  | andV (left right : Miniscript Key)
  | andB (left right : Miniscript Key)
  | andOr (condition both otherwise : Miniscript Key)
  | orB (left right : Miniscript Key)
  | orC (left right : Miniscript Key)
  | orD (left right : Miniscript Key)
  | orI (left right : Miniscript Key)
  | threshold (count : Nat) (items : List (Miniscript Key))
  | multi (count : Nat) (keys : List Key)
  /-- Signatures counted one by one, in script trees. -/
  | multiAdd (count : Nat) (keys : List Key)

namespace Miniscript

variable {Key : Type}

mutual

/-- The keys of a condition, from left to right. -/
def keys : Miniscript Key → List Key
  | .always | .never | .after _ | .older _ | .preimage .. => []
  | .key one | .keyDigest one => [one]
  | .wrap _ inner => inner.keys
  | .andV left right | .andB left right | .orB left right | .orC left right | .orD left right
  | .orI left right => left.keys ++ right.keys
  | .andOr condition both otherwise => condition.keys ++ both.keys ++ otherwise.keys
  | .threshold _ items => keysOf items
  | .multi _ keys | .multiAdd _ keys => keys

/-- The keys of some conditions. -/
def keysOf : List (Miniscript Key) → List Key
  | [] => []
  | item :: rest => item.keys ++ keysOf rest

end

/-! ### Scripts -/

/-- Makes the last operation of a script fail instead of leaving its result. -/
def verified (script : List ScriptElement) : List ScriptElement :=
  let replaced (opcode : Opcode) : List ScriptElement := script.dropLast ++ [.op opcode]
  match script.getLast? with
  | some (.op opcode) =>
    if opcode = Opcode.equal then replaced Opcode.equalVerify
    else if opcode = Opcode.numEqual then replaced Opcode.numEqualVerify
    else if opcode = Opcode.checkSig then replaced Opcode.checkSigVerify
    else if opcode = Opcode.checkMultiSig then replaced Opcode.checkMultiSigVerify
    else script ++ [.op Opcode.verify]
  | _ => script ++ [.op Opcode.verify]

/-- The script that a wrapper makes of a script. -/
def wrapScript (wrapper : Wrapper) (script : List ScriptElement) : List ScriptElement :=
  match wrapper with
  | .alt => .op Opcode.toAltStack :: script ++ [.op Opcode.fromAltStack]
  | .swap => .op Opcode.swap :: script
  | .check => script ++ [.op Opcode.checkSig]
  | .dupIf => .op Opcode.dup :: .op Opcode.ifTrue :: script ++ [.op Opcode.endIf]
  | .verify => verified script
  | .nonZero =>
    .op Opcode.size :: .op Opcode.isNotZero :: .op Opcode.ifTrue :: script ++ [.op Opcode.endIf]
  | .isNotZero => script ++ [.op Opcode.isNotZero]

/-- The script that counts signatures one by one. -/
def countScript (count : Nat) (keys : List Bytes) : List ScriptElement :=
  let signatures := match keys with
    | [] => []
    | first :: rest =>
      .push first :: .op Opcode.checkSig ::
        rest.flatMap fun key => [.push key, .op Opcode.checkSigAdd]
  signatures ++ [Script.number count, .op Opcode.numEqual]

/-- The script that counts signatures at once. -/
def multiScript (count : Nat) (keys : List Bytes) : List ScriptElement :=
  Script.number count :: keys.map .push ++
    [Script.number keys.length, .op Opcode.checkMultiSig]

mutual

/-- The script of a condition, given how keys are written. -/
def script (write : Key → Bytes) : Miniscript Key → List ScriptElement
  | .always => [Script.number 1]
  | .never => [Script.number 0]
  | .key one => [.push (write one)]
  | .keyDigest one =>
    [.op Opcode.dup, .op Opcode.hash160, .push (hash160 (write one)), .op Opcode.equalVerify]
  | .after time => [Script.number time, .op Opcode.checkLockTime]
  | .older age => [Script.number age, .op Opcode.checkSequence]
  | .preimage kind digest =>
    [.op Opcode.size, Script.number 32, .op Opcode.equalVerify, .op kind.opcode, .push digest,
      .op Opcode.equal]
  | .wrap wrapper inner => wrapScript wrapper (inner.script write)
  | .andV left right => left.script write ++ right.script write
  | .andB left right => left.script write ++ right.script write ++ [.op Opcode.boolAnd]
  | .andOr condition both otherwise =>
    condition.script write ++ .op Opcode.ifFalse :: otherwise.script write ++
      .op Opcode.orElse :: both.script write ++ [.op Opcode.endIf]
  | .orB left right => left.script write ++ right.script write ++ [.op Opcode.boolOr]
  | .orC left right =>
    left.script write ++ .op Opcode.ifFalse :: right.script write ++ [.op Opcode.endIf]
  | .orD left right =>
    left.script write ++ .op Opcode.ifDup :: .op Opcode.ifFalse :: right.script write ++
      [.op Opcode.endIf]
  | .orI left right =>
    .op Opcode.ifTrue :: left.script write ++ .op Opcode.orElse :: right.script write ++
      [.op Opcode.endIf]
  | .threshold count items =>
    sumScript write items ++ [Script.number count, .op Opcode.equal]
  | .multi count keys => multiScript count (keys.map write)
  | .multiAdd count keys => countScript count (keys.map write)

/-- The script that adds up how many of some conditions hold. -/
def sumScript (write : Key → Bytes) : List (Miniscript Key) → List ScriptElement
  | [] => []
  | item :: rest => item.script write ++ addScript write rest

/-- The script that adds more conditions to a sum. -/
def addScript (write : Key → Bytes) : List (Miniscript Key) → List ScriptElement
  | [] => []
  | item :: rest => item.script write ++ .op Opcode.add :: addScript write rest

end

end Miniscript

end WalletBridge
