/-
This file names the kinds of objects that live on the native side of the boundary. Each object
belongs to exactly one kind, and each kind has its own release function.
-/

namespace WalletBridge

/-- The kind of a native object. -/
inductive ResourceKind where
  | databaseConfig
  | wallet
  | blockchain
  | txBuilder
  | psbt
  deriving Repr, DecidableEq

namespace ResourceKind

/-- The kinds, in order. -/
def all : List ResourceKind := [.databaseConfig, .wallet, .blockchain, .txBuilder, .psbt]

/-- The name of a kind. -/
def name : ResourceKind → String
  | .databaseConfig => "DatabaseConfig"
  | .wallet => "Wallet"
  | .blockchain => "Blockchain"
  | .txBuilder => "TxBuilder"
  | .psbt => "Psbt"

/-- The kind with a name. -/
def ofName? (text : String) : Option ResourceKind := all.find? (·.name == text)

theorem ofName?_name (kind : ResourceKind) : ofName? kind.name = some kind := by
  cases kind <;> decide

/-- The function that releases an object of the kind. -/
def freeSymbol : ResourceKind → String
  | .databaseConfig => "bdk_database_config_free"
  | .wallet => "bdk_wallet_free"
  | .blockchain => "bdk_blockchain_free"
  | .txBuilder => "bdk_tx_builder_free"
  | .psbt => "bdk_psbt_free"

end ResourceKind

end WalletBridge
