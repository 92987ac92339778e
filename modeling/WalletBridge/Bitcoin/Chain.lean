/-
This file names the chains that a wallet can live on and says how each one marks its keys and
addresses. All test chains share one set of marks for keys and for addresses in base 58; addresses
in base 32 tell the regression chain apart from the others.
-/

namespace WalletBridge

/-- A chain. -/
inductive Chain where
  | bitcoin
  | testnet
  | testnet4
  | signet
  | regtest
  deriving Repr, DecidableEq, Inhabited

/-- Whether marks are those of the main chain or those of the test chains. -/
inductive ChainKind where
  | main
  | test
  deriving Repr, DecidableEq, Inhabited

namespace Chain

/-- The chains, in order. -/
def all : List Chain := [.bitcoin, .testnet, .testnet4, .signet, .regtest]

/-- The name of a chain. -/
def name : Chain → String
  | .bitcoin => "bitcoin"
  | .testnet => "testnet"
  | .testnet4 => "testnet4"
  | .signet => "signet"
  | .regtest => "regtest"

/-- The chain with exactly this name. -/
def ofName? (text : String) : Option Chain := all.find? (·.name == text)

theorem ofName?_name (chain : Chain) : ofName? chain.name = some chain := by
  cases chain <;> decide

/-- The kind of a chain. -/
def kind : Chain → ChainKind
  | .bitcoin => .main
  | _ => .test

/-- The name in front of a chain's addresses in base 32. -/
def addressName : Chain → String
  | .bitcoin => "bc"
  | .regtest => "bcrt"
  | _ => "tb"

end Chain

end WalletBridge
