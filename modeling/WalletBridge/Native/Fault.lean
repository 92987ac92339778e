/-
This file lists the errors that the native side can answer with, each by its cause, and gives every
one the code and the message that cross the boundary. What a wallet engine says about an error of
its own is carried along as a text.
-/

import WalletBridge.Text.Utf8

namespace WalletBridge

/-- An amount in satoshi as it is shown: in coins, with all eight decimals unless it is zero. -/
def amountText (satoshi : Nat) : String :=
  if satoshi = 0 then "0 BTC"
  else
    let decimals := toString (satoshi % 100000000)
    toString (satoshi / 100000000) ++ "." ++
      String.ofList (List.replicate (8 - decimals.length) '0') ++ decimals ++ " BTC"

/-- Why a stored wallet could not be loaded. -/
inductive LoadFailure where
  | descriptor (reason : String)
  /-- The stored wallet is another one. -/
  | mismatch (reason : String)
  | store (reason : String)
  deriving Repr, DecidableEq

/-- Why a wallet could not be created. -/
inductive CreateFailure where
  | descriptor (reason : String)
  | store (reason : String)
  deriving Repr, DecidableEq

/-- Why a transaction could not be built. -/
inductive BuildFailure where
  | insufficientFunds (needed available : Nat)
  | noRecipients
  | noOutputsSelected
  /-- The output with this place among the recipients carries too little. -/
  | belowDustLimit (place : Nat)
  | feeTooLow (reason : String)
  | feeRateTooLow (reason : String)
  | unknownOutput (reason : String)
  | descriptor (reason : String)
  | psbt (reason : String)
  | other (reason : String)
  deriving Repr, DecidableEq

namespace LoadFailure

def code : LoadFailure → String
  | .descriptor _ => "Descriptor"
  | .mismatch _ => "LoadMismatch"
  | .store _ => "Persist"

def message : LoadFailure → String
  | .descriptor reason | .mismatch reason | .store reason => reason

end LoadFailure

namespace CreateFailure

def code : CreateFailure → String
  | .descriptor _ => "Descriptor"
  | .store _ => "Persist"

def message : CreateFailure → String
  | .descriptor reason | .store reason => reason

end CreateFailure

namespace BuildFailure

def code : BuildFailure → String
  | .insufficientFunds .. => "InsufficientFunds"
  | .noRecipients => "NoRecipients"
  | .noOutputsSelected => "NoUtxosSelected"
  | .belowDustLimit _ => "OutputBelowDustLimit"
  | .feeTooLow _ => "FeeTooLow"
  | .feeRateTooLow _ => "FeeRateTooLow"
  | .unknownOutput _ => "UnknownUtxo"
  | .descriptor _ => "Descriptor"
  | .psbt _ => "Psbt"
  | .other _ => "Generic"

def message : BuildFailure → String
  | .insufficientFunds needed available =>
    "Insufficient funds: " ++ amountText available ++ " available of " ++ amountText needed ++
      " needed"
  | .noRecipients => "Cannot build tx without recipients"
  | .noOutputsSelected => "No UTXO selected"
  | .belowDustLimit place => "Output below the dust limit: " ++ toString place
  | .feeTooLow reason | .feeRateTooLow reason | .unknownOutput reason | .descriptor reason
  | .psbt reason | .other reason => reason

end BuildFailure

/-- An error that an entry point answers with. -/
inductive NativeFault where
  | nullArgument (name : String)
  | malformedArgument (name : String) (fault : Utf8.Malformed)
  | emptyPath
  | network (text : String)
  | index (index : UInt32)
  | address (text reason : String)
  /-- An address of another network than the wallet's. -/
  | foreignAddress (reason : String)
  | feeRate (satPerVb : UInt64)
  | store (reason : String)
  | load (failure : LoadFailure)
  | create (failure : CreateFailure)
  | connection (reason : String)
  /-- What the chain source told does not fit what the wallet knows. -/
  | disconnected (reason : String)
  | signer (reason : String)
  | build (failure : BuildFailure)
  | psbtText (reason : String)
  | panicked (text : Option String)
  deriving Repr, DecidableEq

namespace NativeFault

/-- The greatest index of an address. -/
def indexLimit : Nat := 0x7FFFFFFF

/-- The code of an error. -/
def code : NativeFault → String
  | .nullArgument _ => "NullArgument"
  | .malformedArgument .. => "Utf8"
  | .emptyPath => "InvalidPath"
  | .network _ => "InvalidNetwork"
  | .index _ => "InvalidIndex"
  | .address .. => "Address"
  | .foreignAddress _ => "AddressNetwork"
  | .feeRate _ => "FeeRate"
  | .store _ => "Persist"
  | .load failure => failure.code
  | .create failure => failure.code
  | .connection _ => "Electrum"
  | .disconnected _ => "CannotConnect"
  | .signer _ => "Signer"
  | .build failure => failure.code
  | .psbtText _ => "PsbtParse"
  | .panicked _ => "Panic"

/-- The message of an error. -/
def message : NativeFault → String
  | .nullArgument name => name ++ " is null"
  | .malformedArgument name fault => name ++ ": " ++ fault.message
  | .emptyPath => "path is empty"
  | .network text => text ++ ": unknown network"
  | .index position =>
    "derivation index " ++ toString position ++ " is above " ++ toString indexLimit
  | .address text reason => text ++ ": " ++ reason
  | .foreignAddress reason => reason
  | .feeRate satPerVb => toString satPerVb ++ " sat/vB overflows"
  | .store reason => reason
  | .load failure => failure.message
  | .create failure => failure.message
  | .connection reason => reason
  | .disconnected reason => reason
  | .signer reason => reason
  | .build failure => failure.message
  | .psbtText reason => reason
  | .panicked text => text.getD "unknown panic"

end NativeFault

end WalletBridge
