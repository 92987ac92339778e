/-
This file holds the values that the host hands to its callers: networks, amounts, outputs and
transactions. Sums and differences of amounts are checked: they are exact or the program stops.
-/

import WalletBridge.Boundary.Call
import WalletBridge.Error.Bridge
import WalletBridge.Word

namespace WalletBridge

/-! ### Networks -/

/-- The networks that a wallet can live on. -/
inductive Network where
  | bitcoin
  | testnet
  | signet
  | regtest
  deriving Repr, DecidableEq, Inhabited

namespace Network

/-- The name of a network. -/
def name : Network → String
  | .bitcoin => "bitcoin"
  | .testnet => "testnet"
  | .signet => "signet"
  | .regtest => "regtest"

/-- The name of a network as a debug text shows it. -/
def label : Network → String
  | .bitcoin => "Bitcoin"
  | .testnet => "Testnet"
  | .signet => "Signet"
  | .regtest => "Regtest"

/-- An ASCII capital in lower case; every other character as it is. -/
def foldCase (character : Char) : Char :=
  if 65 ≤ character.toNat ∧ character.toNat ≤ 90 then Char.ofNat (character.toNat + 32)
  else character

/-- The network that a text names, in any mix of ASCII cases; the main network has two names. -/
def ofText (text : String) : Except BridgeError Network :=
  let folded := String.ofList (text.toList.map foldCase)
  if folded = "bitcoin" ∨ folded = "mainnet" then .ok .bitcoin
  else if folded = "testnet" then .ok .testnet
  else if folded = "signet" then .ok .signet
  else if folded = "regtest" then .ok .regtest
  else .error (.native "InvalidNetwork" ("unknown network: " ++ text))

theorem ofText_name (network : Network) : ofText network.name = .ok network := by
  cases network <;> rfl

end Network

/-! ### Balances -/

/-- The amounts of a wallet, in satoshi. -/
structure Balance where
  immature : UInt64
  trustedPending : UInt64
  untrustedPending : UInt64
  confirmed : UInt64
  deriving Repr, DecidableEq, Inhabited

namespace Balance

/-- All of a wallet's amounts. -/
def total (balance : Balance) : Except Halt UInt64 :=
  Word.sum balance.immature
    [balance.trustedPending, balance.untrustedPending, balance.confirmed]

/-- The amounts that the wallet can count on. -/
def trustedSpendable (balance : Balance) : Except Halt UInt64 :=
  Word.add balance.confirmed balance.trustedPending

end Balance

/-! ### Outputs and transactions -/

/-- The keychain with a number. -/
def Keychain.ofCode (code : UInt16) : Except BridgeError Keychain :=
  if code = 0 then .ok .external
  else if code = 1 then .ok .internal
  else .error (.invalidInput ("unknown keychain " ++ toString code))

/-- A reference to an output of a transaction. -/
structure OutPoint where
  txid : String
  vout : UInt32
  deriving Repr, DecidableEq, Inhabited

/-- An output: its amount and, in hexadecimal, its script. -/
structure TxOut where
  value : UInt64
  scriptPubkey : String
  deriving Repr, DecidableEq, Inhabited

/-- An output that a wallet can spend. -/
structure LocalUtxo where
  outpoint : OutPoint
  txout : TxOut
  keychain : Keychain
  deriving Repr, DecidableEq, Inhabited

/-- The block that confirmed a transaction. -/
structure ConfirmationTime where
  height : UInt32
  timestamp : UInt64
  deriving Repr, DecidableEq, Inhabited

/-- A transaction as a wallet sees it. -/
structure TransactionDetails where
  txid : String
  received : UInt64
  sent : UInt64
  fee : Option UInt64
  confirmationTime : Option ConfirmationTime
  deriving Repr, DecidableEq, Inhabited

namespace TransactionDetails

/-- What the transaction adds to the wallet: both amounts as signed words, then their checked
difference. -/
def net (details : TransactionDetails) : Except Halt Int :=
  Word.subtractSigned (Word.toSigned details.received) (Word.toSigned details.sent)

/-- Whether the transaction is in a block. -/
def isConfirmed (details : TransactionDetails) : Bool := details.confirmationTime.isSome

end TransactionDetails

end WalletBridge
