/-
This file holds the one error type of the host side: what the native side reported, what the host
refused before calling, a released object, a null where a value was due, or an unusable library. A
library is unusable when it does not load, lacks a symbol, reports another version of the interface,
or lays a struct out differently.
-/

import WalletBridge.Boundary.Resource
import WalletBridge.Error.Kind

namespace WalletBridge

/-- Why a native library cannot be used. -/
inductive LinkageError where
  | libraryLoad (path message : String)
  | missingSymbol (name : String)
  | abiVersion (expected found : UInt32)
  | unknownLayout (name : String)
  | layoutMismatch (name declared described : String)
  deriving Repr, DecidableEq

/-- The sentence that reports a linkage error. -/
def LinkageError.message : LinkageError → String
  | .libraryLoad path text => "Failed to load native library " ++ path ++ ": " ++ text
  | .missingSymbol name => "Native symbol \x60" ++ name ++ "\x60 not found"
  | .abiVersion expected found =>
    "ABI version mismatch: bindings expect " ++ toString expected ++ ", library reports " ++
      toString found
  | .unknownLayout name => "Native library does not describe struct " ++ name
  | .layoutMismatch name declared described =>
    "Layout mismatch for " ++ name ++ ": declared " ++ declared ++ ", native " ++ described

/-- Why an operation across the boundary failed. -/
inductive BridgeError where
  /-- The native side reported a failure with a code and a message. -/
  | native (code message : String)
  | useAfterFree (resource : ResourceKind)
  | linkage (cause : LinkageError)
  | nullPointer (operation : String)
  | invalidInput (message : String)
  deriving Repr, DecidableEq

namespace BridgeError

/-- The kind of an error; native codes are classified by the taxonomy. -/
def kind : BridgeError → ErrorKind
  | .native code _ => Taxonomy.classify code
  | .useAfterFree _ => .useAfterFree
  | .linkage _ => .linkage
  | .nullPointer _ => .generic
  | .invalidInput _ => .invalidInput

/-- The native code of an error. -/
def code? : BridgeError → Option String
  | .native code _ => some code
  | _ => none

/-- Whether an error ends the use of the library or of the object. -/
def isFatal (error : BridgeError) : Bool := error.kind.isFatal

/-- The sentence that reports an error. -/
def message (error : BridgeError) : String :=
  match error with
  | .native code text => error.kind.name ++ " error [" ++ code ++ "]: " ++ text
  | .useAfterFree resource => resource.name ++ " used after release"
  | .linkage cause => cause.message
  | .nullPointer operation => "Internal error: " ++ operation ++ " returned null"
  | .invalidInput text => "Invalid input: " ++ text

end BridgeError

end WalletBridge
