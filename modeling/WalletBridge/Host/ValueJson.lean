/-
This file gives the host's values their JSON form. Names are written as texts and records with
their members in declaration order; reading is strict, in the sense of `Json.Members`.
-/

import WalletBridge.Host.Values
import WalletBridge.Host.ElectrumConfig
import WalletBridge.Json.Record

namespace WalletBridge

open Json

/-- A type whose values have a JSON form. -/
class JsonForm (Content : Type) where
  toJson : Content → Value
  ofJson? : Value → Option Content

/-! ### Names -/

instance : JsonForm Network where
  toJson network := .ofText network.name
  ofJson? value := value.variant?.bind fun name =>
    [Network.bitcoin, .testnet, .signet, .regtest].find? (·.name == name)

instance : JsonForm Keychain where
  toJson keychain := .ofText keychain.name
  ofJson? value := value.variant?.bind fun name =>
    [Keychain.external, .internal].find? (·.name == name)

instance : JsonForm ErrorKind where
  toJson kind := .ofText kind.name
  ofJson? value := value.variant?.bind ErrorKind.ofName?

/-! ### Records -/

instance : JsonForm Balance where
  toJson balance := .ofMembers
    [("immature", .ofNat balance.immature.toNat),
     ("trusted_pending", .ofNat balance.trustedPending.toNat),
     ("untrusted_pending", .ofNat balance.untrustedPending.toNat),
     ("confirmed", .ofNat balance.confirmed.toNat)]
  ofJson? value := do
    let members ←
      members? ["immature", "trusted_pending", "untrusted_pending", "confirmed"] value
    let immature ← members.required 0 Value.uint64?
    let trustedPending ← members.required 1 Value.uint64?
    let untrustedPending ← members.required 2 Value.uint64?
    let confirmed ← members.required 3 Value.uint64?
    pure ⟨immature, trustedPending, untrustedPending, confirmed⟩

instance : JsonForm OutPoint where
  toJson outpoint := .ofMembers
    [("txid", .ofText outpoint.txid), ("vout", .ofNat outpoint.vout.toNat)]
  ofJson? value := do
    let members ← members? ["txid", "vout"] value
    let txid ← members.required 0 Value.text?
    let vout ← members.required 1 Value.uint32?
    pure ⟨txid, vout⟩

instance : JsonForm TxOut where
  toJson txout := .ofMembers
    [("value", .ofNat txout.value.toNat), ("script_pubkey", .ofText txout.scriptPubkey)]
  ofJson? value := do
    let members ← members? ["value", "script_pubkey"] value
    let amount ← members.required 0 Value.uint64?
    let scriptPubkey ← members.required 1 Value.text?
    pure ⟨amount, scriptPubkey⟩

instance : JsonForm LocalUtxo where
  toJson utxo := .ofMembers
    [("outpoint", JsonForm.toJson utxo.outpoint), ("txout", JsonForm.toJson utxo.txout),
     ("keychain", JsonForm.toJson utxo.keychain)]
  ofJson? value := do
    let members ← members? ["outpoint", "txout", "keychain"] value
    let outpoint ← members.required 0 JsonForm.ofJson?
    let txout ← members.required 1 JsonForm.ofJson?
    let keychain ← members.required 2 JsonForm.ofJson?
    pure ⟨outpoint, txout, keychain⟩

instance : JsonForm ConfirmationTime where
  toJson time := .ofMembers
    [("height", .ofNat time.height.toNat), ("timestamp", .ofNat time.timestamp.toNat)]
  ofJson? value := do
    let members ← members? ["height", "timestamp"] value
    let height ← members.required 0 Value.uint32?
    let timestamp ← members.required 1 Value.uint64?
    pure ⟨height, timestamp⟩

instance : JsonForm TransactionDetails where
  toJson details := .ofMembers
    [("txid", .ofText details.txid),
     ("received", .ofNat details.received.toNat),
     ("sent", .ofNat details.sent.toNat),
     ("fee", .ofOption (fun fee => .ofNat fee.toNat) details.fee),
     ("confirmation_time", .ofOption JsonForm.toJson details.confirmationTime)]
  ofJson? value := do
    let members ← members? ["txid", "received", "sent", "fee", "confirmation_time"] value
    let txid ← members.required 0 Value.text?
    let received ← members.required 1 Value.uint64?
    let sent ← members.required 2 Value.uint64?
    let fee ← members.optional 3 Value.uint64?
    let confirmationTime ← members.optional 4 JsonForm.ofJson?
    pure ⟨txid, received, sent, fee, confirmationTime⟩

/-- Every member of the connection settings may be absent and then has its default. -/
instance : JsonForm ElectrumConfig where
  toJson config := .ofMembers
    [("url", .ofText config.url),
     ("socks5", .ofOption .ofText config.socks5),
     ("retry", .ofNat config.retry.toNat),
     ("timeout", .ofOption (fun seconds => .ofNat seconds.toNat) config.timeout),
     ("stop_gap", .ofNat config.stopGap.toNat),
     ("batch_size", .ofNat config.batchSize.toNat)]
  ofJson? value := do
    let members ←
      members? ["url", "socks5", "retry", "timeout", "stop_gap", "batch_size"] value
    let default := ElectrumConfig.default
    let url ← members.defaulted 0 default.url Value.text?
    let socks5 ← members.defaultedOptional 1 default.socks5 Value.text?
    let retry ← members.defaulted 2 default.retry Value.uint8?
    let timeout ← members.defaultedOptional 3 default.timeout Value.uint8?
    let stopGap ← members.defaulted 4 default.stopGap Value.uint64?
    let batchSize ← members.defaulted 5 default.batchSize Value.uint64?
    pure ⟨url, socks5, retry, timeout, stopGap, batchSize⟩

/-- The value of a type that a JSON text spells. -/
def decodeJson? (Content : Type) [JsonForm Content] (text : String) : Option Content :=
  (Json.parse? text).bind JsonForm.ofJson?

/-- The JSON text of a value. -/
def encodeJson {Content : Type} [JsonForm Content] (content : Content) : String :=
  (JsonForm.toJson content).render

end WalletBridge
