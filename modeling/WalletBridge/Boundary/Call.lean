/-
This file lists the calls that cross the boundary and what they answer. Every call has a payload
type. An entry point answers through a transit struct, which carries an error or a payload; a
direct call hands its payload over as it is. Strings are byte strings or null, objects are
addresses or null, and nothing is assumed about what a native library answers.
-/

import WalletBridge.Boundary.Resource
import WalletBridge.Boundary.Symbol
import WalletBridge.Text.Bytes
import WalletBridge.Word

namespace WalletBridge

/-- The place of a native object. Null is no address. -/
abbrev Address := Nat

/-- A string that crosses the boundary: null, or the octets up to its end. -/
abbrev NativeString := Option Bytes

/-! ### Keychains -/

/-- Which of a wallet's two descriptors an address comes from. -/
inductive Keychain where
  | external
  | internal
  deriving Repr, DecidableEq, Inhabited

namespace Keychain

/-- The name of a keychain. -/
def name : Keychain → String
  | .external => "external"
  | .internal => "internal"

/-- The number of a keychain on the wire. -/
def code : Keychain → UInt16
  | .external => 0
  | .internal => 1

end Keychain

/-! ### Payloads -/

/-- The kinds of payload. -/
inductive Payload where
  | object (kind : ResourceKind)
  | text
  | unit
  | flag
  | balance
  | outputs
  | transactions
  deriving Repr, DecidableEq

/-- The amounts of a wallet as they cross the boundary. -/
structure RawBalance where
  immature : UInt64
  trustedPending : UInt64
  untrustedPending : UInt64
  confirmed : UInt64
  deriving Repr, DecidableEq, Inhabited

/-- An unspent output as it crosses the boundary. -/
structure RawOutput where
  txid : NativeString
  vout : UInt32
  value : UInt64
  script : NativeString
  keychain : UInt16
  deriving Repr, DecidableEq, Inhabited

/-- A transaction as it crosses the boundary: the fee is negative when unknown, height and time
are meaningful when it is confirmed. -/
structure RawTransaction where
  txid : NativeString
  received : UInt64
  sent : UInt64
  fee : Int64
  isConfirmed : Bool
  height : UInt32
  timestamp : UInt64
  deriving Repr, DecidableEq, Inhabited

/-- A sequence block: a null pointer with the length it claims, or elements with some room behind
them. -/
inductive Block (Element : Type) where
  | null (claimed : UInt64)
  | held (elements : List Element) (spare : Nat)
  deriving Repr, DecidableEq

namespace Payload

/-- The values of a payload as they cross the boundary. -/
abbrev Raw : Payload → Type
  | .object _ => Option Address
  | .text => NativeString
  | .unit => UInt8
  | .flag => Bool
  | .balance => RawBalance
  | .outputs => Block RawOutput
  | .transactions => Block RawTransaction

/-- The meaningless payload beside an error. -/
def blank : (payload : Payload) → payload.Raw
  | .object _ => none
  | .text => none
  | .unit => 0
  | .flag => false
  | .balance => ⟨0, 0, 0, 0⟩
  | .outputs => .null 0
  | .transactions => .null 0

/-- The function that releases a transit struct with this payload. No entry point answers with a
builder, so there is none for it. -/
def transitFree : Payload → Option String
  | .object .databaseConfig => some "bdk_result_free_database"
  | .object .wallet => some "bdk_result_free_wallet"
  | .object .blockchain => some "bdk_result_free_blockchain"
  | .object .txBuilder => none
  | .object .psbt => some "bdk_result_free_psbt"
  | .text => some "bdk_result_free_string"
  | .unit => some "bdk_result_free_unit"
  | .flag => some "bdk_result_free_bool"
  | .balance => some "bdk_result_free_balance"
  | .outputs => some "bdk_result_free_utxos"
  | .transactions => some "bdk_result_free_transactions"

/-- The function that releases the payload, when it is an allocation. -/
def payloadFree : Payload → Option String
  | .object kind => some kind.freeSymbol
  | .text => some "bdk_string_free"
  | .outputs => some "bdk_vec_utxos_free"
  | .transactions => some "bdk_vec_transactions_free"
  | _ => none

end Payload

/-- The error slot of a transit struct, when it is set. -/
structure RawError where
  code : NativeString
  message : NativeString
  deriving Repr, DecidableEq

/-- A transit struct. -/
structure Transit (payload : Payload) where
  value : payload.Raw
  error : Option RawError

/-- The answer of an entry point: null or a transit struct. -/
abbrev Reply (payload : Payload) := Option (Transit payload)

/-! ### Calls -/

/-- The connection settings as they cross the boundary: a negative timeout means none. -/
structure RawConnection where
  url : NativeString
  socks5 : NativeString
  retry : UInt8
  timeout : Int16
  stopGap : UInt64
  batchSize : UInt64
  deriving Repr, DecidableEq

/-- The calls that answer through a transit struct. -/
inductive Entry : Payload → Type where
  | openDatabase (path : NativeString) : Entry (.object .databaseConfig)
  | newWallet (descriptor change network : NativeString) (database : Option Address) :
      Entry (.object .wallet)
  | peekAddress (wallet : Option Address) (index : UInt32) : Entry .text
  | revealNextAddress (wallet : Option Address) : Entry .text
  | balance (wallet : Option Address) : Entry .balance
  | listUnspent (wallet : Option Address) : Entry .outputs
  | listTransactions (wallet : Option Address) : Entry .transactions
  | sync (wallet blockchain : Option Address) : Entry .unit
  | sign (wallet psbt : Option Address) : Entry .flag
  | connect (settings : Option RawConnection) : Entry (.object .blockchain)
  | addRecipient (builder : Option Address) (address : NativeString) (amount : UInt64) :
      Entry .unit
  | feeRate (builder : Option Address) (satPerVb : UInt64) : Entry .unit
  | finish (builder wallet : Option Address) : Entry (.object .psbt)
  | parsePsbt (base64 : NativeString) : Entry (.object .psbt)

/-- The calls that hand their payload over as it is. -/
inductive DirectCall : Payload → Type where
  | memoryDatabase : DirectCall (.object .databaseConfig)
  | newBuilder : DirectCall (.object .txBuilder)
  | serialize (psbt : Option Address) : DirectCall .text
  | txid (psbt : Option Address) : DirectCall .text

/-- The exported function behind an entry point. -/
def Entry.symbol {payload : Payload} : Entry payload → String
  | .openDatabase _ => "bdk_database_config_sqlite"
  | .newWallet .. => "bdk_wallet_new"
  | .peekAddress .. => "bdk_wallet_peek_address"
  | .revealNextAddress _ => "bdk_wallet_reveal_next_address"
  | .balance _ => "bdk_wallet_balance"
  | .listUnspent _ => "bdk_wallet_list_unspent"
  | .listTransactions _ => "bdk_wallet_list_transactions"
  | .sync .. => "bdk_wallet_sync"
  | .sign .. => "bdk_wallet_sign"
  | .connect _ => "bdk_blockchain_new"
  | .addRecipient .. => "bdk_tx_builder_add_recipient"
  | .feeRate .. => "bdk_tx_builder_fee_rate"
  | .finish .. => "bdk_tx_builder_finish"
  | .parsePsbt _ => "bdk_psbt_from_base64"

/-- The exported function behind a direct call. -/
def DirectCall.symbol {payload : Payload} : DirectCall payload → String
  | .memoryDatabase => "bdk_database_config_memory"
  | .newBuilder => "bdk_tx_builder_new"
  | .serialize _ => "bdk_psbt_serialize"
  | .txid _ => "bdk_psbt_txid"

/-! ### Releases -/

/-- A call that gives an allocation back. -/
inductive Release where
  /-- A transit struct, with what its error slot holds. -/
  | transit (payload : Payload) (error : Option RawError)
  | text (octets : Bytes)
  | outputs (elements : List RawOutput) (spare : Nat)
  | transactions (elements : List RawTransaction) (spare : Nat)
  | object (kind : ResourceKind) (address : Address)
  deriving Repr, DecidableEq

/-- The exported function behind a release. -/
def Release.symbol : Release → String
  | .transit payload _ => payload.transitFree.getD ""
  | .text _ => "bdk_string_free"
  | .outputs .. => "bdk_vec_utxos_free"
  | .transactions .. => "bdk_vec_transactions_free"
  | .object kind _ => kind.freeSymbol

/-- A call of a function that gives an allocation back. Null is no allocation. -/
inductive ReleaseCall where
  | null (symbol : String)
  | of (release : Release)
  deriving Repr, DecidableEq

/-- The exported function behind a call that gives an allocation back. -/
def ReleaseCall.symbol : ReleaseCall → String
  | .null symbol => symbol
  | .of release => release.symbol

/-- Every function that releases something, called with null. -/
def ReleaseCall.nulls : List ReleaseCall := Ownership.releasers.map .null

/-! ### Allocations -/

/-- How many allocations a string is. -/
def NativeString.allocations : NativeString → Nat
  | none => 0
  | some _ => 1

/-- How many allocations an error is: itself and its strings. -/
def RawError.allocations (error : RawError) : Nat :=
  1 + NativeString.allocations error.code + NativeString.allocations error.message

/-- How many allocations the strings of an output are. -/
def RawOutput.allocations (output : RawOutput) : Nat :=
  NativeString.allocations output.txid + NativeString.allocations output.script

/-- How many allocations the string of a transaction is. -/
def RawTransaction.allocations (transaction : RawTransaction) : Nat :=
  NativeString.allocations transaction.txid

/-- How many allocations a block is: itself and what its elements own. -/
def Block.allocations {Element : Type} (owned : Element → Nat) : Block Element → Nat
  | .null _ => 0
  | .held elements _ => 1 + total (elements.map owned)

/-- How many allocations a payload is. -/
def Payload.allocations : (payload : Payload) → payload.Raw → Nat
  | .object _, none => 0
  | .object _, some _ => 1
  | .text, value => NativeString.allocations value
  | .unit, _ => 0
  | .flag, _ => 0
  | .balance, _ => 0
  | .outputs, value => value.allocations RawOutput.allocations
  | .transactions, value => value.allocations RawTransaction.allocations

/-- How many allocations the error slot of a transit struct is. -/
def errorAllocations : Option RawError → Nat
  | none => 0
  | some error => error.allocations

/-- How many allocations a release gives back. -/
def Release.allocations : Release → Nat
  | .transit _ error => 1 + errorAllocations error
  | .text _ => 1
  | .outputs elements _ => 1 + total (elements.map RawOutput.allocations)
  | .transactions elements _ => 1 + total (elements.map RawTransaction.allocations)
  | .object .. => 1

end WalletBridge
