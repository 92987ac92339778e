/-
This file says what the native side needs from a wallet engine: stores that wallets are kept in,
wallets that derive addresses and know what they own, and connections to a chain source. Whatever
an engine tries may fail with an error that names its cause, or by a panic that is caught further
out and may carry a text. What lies outside of all objects, such as files and the network,
is the engine's world; an open store is a way into it.
-/

import WalletBridge.Bitcoin.Chain
import WalletBridge.Bitcoin.PartialTransaction
import WalletBridge.Boundary.Call
import WalletBridge.Native.Fault

namespace WalletBridge

/-! ### Attempts -/

/-- How an attempt ended. -/
inductive Attempt (Cause Content : Type) where
  | value (content : Content)
  | refused (cause : Cause)
  | panicked (text : Option String)
  deriving Repr, DecidableEq

namespace Attempt

variable {Cause Other Content Result : Type}

/-- The attempt with another value in place of the value. -/
def map (change : Content → Result) : Attempt Cause Content → Attempt Cause Result
  | .value content => .value (change content)
  | .refused cause => .refused cause
  | .panicked text => .panicked text

/-- The attempt with another cause in place of the cause. -/
def mapCause (change : Cause → Other) : Attempt Cause Content → Attempt Other Content
  | .value content => .value content
  | .refused cause => .refused (change cause)
  | .panicked text => .panicked text

/-- Whether an attempt ended with a value. -/
def isValue : Attempt Cause Content → Bool
  | .value _ => true
  | _ => false

end Attempt

/-! ### What is asked for and what is answered -/

/-- Where a wallet is to be kept. -/
inductive DatabasePlace where
  /-- In memory, for as long as the wallet lives. -/
  | memory
  | file (path : String)
  deriving Repr, DecidableEq

/-- What a wallet is to be. -/
structure WalletRequest where
  descriptor : String
  change : Option String
  chain : Chain
  deriving Repr, DecidableEq

/-- The settings of a connection as the native side works with them. -/
structure ConnectionRequest where
  url : String
  socks5 : Option String
  retry : UInt8
  timeout : Option UInt8
  deriving Repr, DecidableEq

/-- An output that a wallet can spend. -/
structure WalletOutput where
  txid : String
  vout : UInt32
  value : UInt64
  /-- The script in hexadecimal digits. -/
  script : String
  keychain : Keychain
  deriving Repr, DecidableEq

/-- A transaction that a wallet knows of, with the block that confirmed it. -/
structure WalletTransaction where
  txid : String
  received : UInt64
  sent : UInt64
  fee : Option UInt64
  confirmation : Option (UInt32 × UInt64)
  deriving Repr, DecidableEq

/-- What a transaction is to pay, and at which rate, in satoshi for a thousand units of weight. -/
structure PaymentPlan where
  /-- Scripts and amounts, in order. -/
  payments : List (Bytes × UInt64)
  rate : Option UInt64
  deriving Repr, DecidableEq

/-- A wallet engine. -/
structure WalletEngine where
  World : Type
  Store : Type
  Wallet : Type
  Client : Type
  /-- What a chain source tells a wallet. -/
  News : Type
  /-- Opens a store. -/
  openStore : DatabasePlace → World → Attempt String Store × World
  /-- Loads the wallet of a store, if it holds one. -/
  load : WalletRequest → Store → World → Attempt LoadFailure (Option Wallet) × World
  /-- Creates a wallet and keeps it in a store. -/
  create : WalletRequest → Store → World → Attempt CreateFailure Wallet × World
  /-- Writes to a store what changed since the last time. -/
  persist : Wallet → Store → World → Attempt String Unit × Wallet × World
  /-- The address with an index. -/
  peek : Wallet → UInt32 → Attempt Empty String
  /-- The address behind the last one that was handed out. -/
  reveal : Wallet → Attempt Empty String × Wallet
  balance : Wallet → Attempt Empty RawBalance
  /-- The outputs that a wallet can spend, one after another. -/
  unspent : Wallet → List (Attempt Empty WalletOutput)
  /-- The transactions that a wallet knows of, one after another. -/
  transactions : Wallet → List (Attempt Empty WalletTransaction)
  connect : ConnectionRequest → World → Attempt String Client × World
  /-- Asks a chain source about a wallet, given how many unused scripts end the search and how many
  questions are asked at once. -/
  scan : Client → UInt64 → UInt64 → Wallet → World → Attempt String News × World
  /-- Tells a wallet what the chain source said. -/
  learn : News → Wallet → Attempt String Unit × Wallet
  sign : Wallet → PartialTransaction → Attempt String Bool × PartialTransaction
  /-- Builds a transaction out of a wallet's funds. -/
  build : PaymentPlan → Wallet → World → Attempt BuildFailure PartialTransaction × Wallet × World

end WalletBridge
