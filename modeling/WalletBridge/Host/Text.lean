/-
This file moves text across the boundary. Going out, a text must hold no zero octet, because the
native side reads up to the first one. Coming in, the octets before the first zero are read: as
UTF-8 where the host takes a string or a field over, lossily where it only reports an error.
-/

import WalletBridge.Host.Run
import WalletBridge.Boundary.Call
import WalletBridge.Text.Utf8
import WalletBridge.Text.Quoted

namespace WalletBridge

/-! ### Going out -/

/-- The octets of an argument; the position of a zero octet is reported with the argument's
name. -/
def argumentOctets (text name : String) : Except BridgeError Bytes :=
  let octets := Utf8.encode text
  match octets.findIdx? (· == 0) with
  | some position =>
    .error (.invalidInput (name ++ " contains a NUL byte at " ++ toString position))
  | none => .ok octets

/-- The octets of an argument that may be absent. -/
def optionalOctets (text : Option String) (name : String) : Except BridgeError NativeString :=
  match text with
  | none => .ok none
  | some text => (argumentOctets text name).map some

/-! ### Coming in -/

/-- The text of an owned string. -/
def readOwned (octets : Bytes) : Except BridgeError String :=
  match Utf8.decode octets.untilZero with
  | .ok text => .ok text
  | .error fault => .error (.native "Utf8" ("native string is not UTF-8: " ++ fault.message))

/-- The text of a field that its struct owns. -/
def copyField (raw : NativeString) (field : String) : Except BridgeError String :=
  match raw with
  | none => .error (.nullPointer field)
  | some octets =>
    match Utf8.decode octets.untilZero with
    | .ok text => .ok text
    | .error fault => .error (.native "Utf8" (field ++ ": " ++ fault.message))

/-- A string as far as it is readable; null reads as the empty text. -/
def copyLossy : NativeString → String
  | none => ""
  | some octets => Utf8.decodeLossy octets.untilZero

/-- What the native side reported. -/
def readError (raw : RawError) : BridgeError :=
  .native (copyLossy raw.code) (copyLossy raw.message)

/-- A transit struct of a number without an error, in one line. -/
def transitText (value : UInt64) : String :=
  "FfiResult \x7b ok: " ++ toString value ++ ", err: 0x0 \x7d"

/-- An owned string in one line. -/
def ownedText (octets : Bytes) : String :=
  "NativeString(" ++ Quoted.quote octets.untilZero ++ ")"

end WalletBridge
