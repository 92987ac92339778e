/-
This file holds the closed list of error kinds that callers decide on, and the table that sorts the
open set of native error codes into them. The table is versioned: a new code is a new row, and a
code without a row is of unknown kind.
-/

namespace WalletBridge

/-- What sort of failure an error reports. -/
inductive ErrorKind where
  | descriptor
  | invalidInput
  | resourceExhausted
  | networkFailure
  | notFound
  | chainSync
  | generic
  | useAfterFree
  | linkage
  | unknown
  deriving Repr, DecidableEq

namespace ErrorKind

/-- The kinds, in order. -/
def all : List ErrorKind :=
  [.descriptor, .invalidInput, .resourceExhausted, .networkFailure, .notFound, .chainSync,
   .generic, .useAfterFree, .linkage, .unknown]

/-- The name of a kind. -/
def name : ErrorKind → String
  | .descriptor => "Descriptor"
  | .invalidInput => "InvalidInput"
  | .resourceExhausted => "ResourceExhausted"
  | .networkFailure => "NetworkFailure"
  | .notFound => "NotFound"
  | .chainSync => "ChainSync"
  | .generic => "Generic"
  | .useAfterFree => "UseAfterFree"
  | .linkage => "Linkage"
  | .unknown => "Unknown"

/-- The kind with a name. -/
def ofName? (text : String) : Option ErrorKind := all.find? (·.name == text)

theorem ofName?_name (kind : ErrorKind) : ofName? kind.name = some kind := by
  cases kind <;> decide

/-- Whether the caller's arguments are at fault. -/
def isInvalidInput : ErrorKind → Bool
  | .descriptor | .invalidInput => true
  | _ => false

/-- Whether the program cannot go on as it is: it used a released object or has no usable native
library. -/
def isFatal : ErrorKind → Bool
  | .useAfterFree | .linkage => true
  | _ => false

end ErrorKind

namespace Taxonomy

/-- The version of the table. -/
def version : Nat := 2

/-- The native codes and their kinds, in order. -/
def table : List (String × ErrorKind) :=
  [("Descriptor", .descriptor),
   ("Miniscript", .descriptor),
   ("Bip32", .descriptor),
   ("Key", .descriptor),
   ("ChecksumMismatch", .descriptor),
   ("InvalidNetwork", .invalidInput),
   ("Address", .invalidInput),
   ("AddressNetwork", .invalidInput),
   ("FeeRate", .invalidInput),
   ("Utf8", .invalidInput),
   ("NullArgument", .invalidInput),
   ("PsbtParse", .invalidInput),
   ("NoRecipients", .invalidInput),
   ("OutputBelowDustLimit", .invalidInput),
   ("FeeTooLow", .invalidInput),
   ("FeeRateTooLow", .invalidInput),
   ("Hex", .invalidInput),
   ("Encode", .invalidInput),
   ("InvalidIndex", .invalidInput),
   ("InvalidPath", .invalidInput),
   ("LoadMismatch", .invalidInput),
   ("InsufficientFunds", .resourceExhausted),
   ("NoUtxosSelected", .resourceExhausted),
   ("Electrum", .networkFailure),
   ("TransactionNotFound", .notFound),
   ("UnknownUtxo", .notFound),
   ("CannotConnect", .chainSync),
   ("Generic", .generic),
   ("Signer", .generic),
   ("Psbt", .generic),
   ("Persist", .generic),
   ("Panic", .generic)]

/-- Whether the table has a row for a code. -/
def knows (code : String) : Bool := table.any (·.1 == code)

/-- The kind of a code: that of its row, unknown without one. -/
def classify (code : String) : ErrorKind :=
  ((table.find? (·.1 == code)).map (·.2)).getD .unknown

end Taxonomy

end WalletBridge
