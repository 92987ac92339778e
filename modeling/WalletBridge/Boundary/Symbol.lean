/-
This file lists the functions that a native library exports and says who releases what they
allocate. An allocating function may hand out a transit struct, which has a release function of its
own, and a payload inside it or in its place, which has another.
-/

namespace WalletBridge

namespace Symbol

/-- The exported functions, in the order in which they are looked up. -/
def names : List String :=
  ["bdk_abi_version",
   "bdk_struct_layout",
   "bdk_live_allocations",
   "bdk_string_free",
   "bdk_result_free_database",
   "bdk_result_free_wallet",
   "bdk_result_free_blockchain",
   "bdk_result_free_psbt",
   "bdk_result_free_string",
   "bdk_result_free_unit",
   "bdk_result_free_bool",
   "bdk_result_free_balance",
   "bdk_result_free_utxos",
   "bdk_result_free_transactions",
   "bdk_vec_utxos_free",
   "bdk_vec_transactions_free",
   "bdk_database_config_memory",
   "bdk_database_config_sqlite",
   "bdk_database_config_free",
   "bdk_wallet_new",
   "bdk_wallet_free",
   "bdk_wallet_peek_address",
   "bdk_wallet_reveal_next_address",
   "bdk_wallet_balance",
   "bdk_wallet_list_unspent",
   "bdk_wallet_list_transactions",
   "bdk_wallet_sync",
   "bdk_wallet_sign",
   "bdk_blockchain_new",
   "bdk_blockchain_free",
   "bdk_tx_builder_new",
   "bdk_tx_builder_free",
   "bdk_tx_builder_add_recipient",
   "bdk_tx_builder_fee_rate",
   "bdk_tx_builder_finish",
   "bdk_psbt_from_base64",
   "bdk_psbt_free",
   "bdk_psbt_serialize",
   "bdk_psbt_txid"]

end Symbol

/-- Who releases what a function allocates. -/
structure Ownership where
  /-- The allocating function. -/
  allocator : String
  /-- The function that releases its transit struct, if it has one. -/
  transit : Option String
  /-- The function that releases its payload, if the payload is an allocation. -/
  payload : Option String
  deriving Repr, DecidableEq

namespace Ownership

/-- The allocating functions, in order. -/
def table : List Ownership :=
  [⟨"bdk_database_config_memory", none, some "bdk_database_config_free"⟩,
   ⟨"bdk_database_config_sqlite", some "bdk_result_free_database",
     some "bdk_database_config_free"⟩,
   ⟨"bdk_wallet_new", some "bdk_result_free_wallet", some "bdk_wallet_free"⟩,
   ⟨"bdk_wallet_peek_address", some "bdk_result_free_string", some "bdk_string_free"⟩,
   ⟨"bdk_wallet_reveal_next_address", some "bdk_result_free_string", some "bdk_string_free"⟩,
   ⟨"bdk_wallet_balance", some "bdk_result_free_balance", none⟩,
   ⟨"bdk_wallet_list_unspent", some "bdk_result_free_utxos", some "bdk_vec_utxos_free"⟩,
   ⟨"bdk_wallet_list_transactions", some "bdk_result_free_transactions",
     some "bdk_vec_transactions_free"⟩,
   ⟨"bdk_wallet_sync", some "bdk_result_free_unit", none⟩,
   ⟨"bdk_wallet_sign", some "bdk_result_free_bool", none⟩,
   ⟨"bdk_blockchain_new", some "bdk_result_free_blockchain", some "bdk_blockchain_free"⟩,
   ⟨"bdk_tx_builder_new", none, some "bdk_tx_builder_free"⟩,
   ⟨"bdk_tx_builder_add_recipient", some "bdk_result_free_unit", none⟩,
   ⟨"bdk_tx_builder_fee_rate", some "bdk_result_free_unit", none⟩,
   ⟨"bdk_tx_builder_finish", some "bdk_result_free_psbt", some "bdk_psbt_free"⟩,
   ⟨"bdk_psbt_from_base64", some "bdk_result_free_psbt", some "bdk_psbt_free"⟩,
   ⟨"bdk_psbt_serialize", none, some "bdk_string_free"⟩,
   ⟨"bdk_psbt_txid", none, some "bdk_string_free"⟩]

/-- The row of an allocating function. -/
def find? (allocator : String) : Option Ownership := table.find? (·.allocator == allocator)

/-- The functions that release something, each once. -/
def releasers : List String :=
  (table.flatMap fun row => row.transit.toList ++ row.payload.toList).eraseDups

/-- Every exported function tells something about the library, allocates something or releases
something. -/
theorem exported_eq :
    Symbol.names.filter (fun name => !((find? name).isSome || releasers.contains name)) =
      ["bdk_abi_version", "bdk_struct_layout", "bdk_live_allocations"] := by
  decide +kernel

end Ownership

end WalletBridge
