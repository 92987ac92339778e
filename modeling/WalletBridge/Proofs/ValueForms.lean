/-
This file proves that the values that the host hands to its callers survive their JSON texts: every
network, keychain, error kind, balance, outpoint, output, confirmation and transaction, and all
connection settings. What a text gives does not depend on the order of its members, and members that
are not known do not count, at any depth; a known member that comes twice is refused.

Each form is read by the places of its known names, so a form is settled by what its fields are read
as. Only the settings have defaults: without some of their members they are the same settings with
the defaults for these.
-/

import WalletBridge.Host.ValueJson
import WalletBridge.Proofs.JsonDocuments
import WalletBridge.Proofs.RecordReading

namespace WalletBridge

open Json

/-! ### Numbers and texts -/

theorem natUpTo?_ofNat {number bound : Nat} (small : number ≤ bound) :
    Value.natUpTo? bound (.ofNat number) = some number := by
  have within : (0 : Int) ≤ number ∧ (number : Int) ≤ bound := by omega
  rw [Value.ofNat, Value.natUpTo?, if_pos within]
  rfl

theorem reads_uint8 (number : UInt8) : Reads Value.uint8? (.ofNat number.toNat) number := by
  refine .of_plain nofun ?_
  rw [Value.uint8?, natUpTo?_ofNat (Nat.le_of_lt_succ number.toNat_lt), Option.map_some,
    UInt8.ofNat_toNat]

theorem reads_uint32 (number : UInt32) : Reads Value.uint32? (.ofNat number.toNat) number := by
  refine .of_plain nofun ?_
  rw [Value.uint32?, natUpTo?_ofNat (Nat.le_of_lt_succ number.toNat_lt), Option.map_some,
    UInt32.ofNat_toNat]

theorem reads_uint64 (number : UInt64) : Reads Value.uint64? (.ofNat number.toNat) number := by
  refine .of_plain nofun ?_
  rw [Value.uint64?, natUpTo?_ofNat (Nat.le_of_lt_succ number.toNat_lt), Option.map_some,
    UInt64.ofNat_toNat]

theorem reads_text (text : String) : Reads Value.text? (.ofText text) text :=
  .of_plain nofun rfl

/-! ### Parts of forms -/

/-- A record is spelled if its fields are. -/
theorem spelled_ofMembers {fields : List (String × Value)}
    (each : ∀ field ∈ fields, field.2.IsSpelled) : (Value.ofMembers fields).IsSpelled := by
  rw [Value.ofMembers, Value.IsSpelled]
  induction fields with
  | nil => trivial
  | cons field fields inductionHypothesis =>
    obtain ⟨first, rest⟩ := List.forall_mem_cons.mp each
    exact ⟨first, inductionHypothesis rest⟩

theorem spelled_ofNat (number : Nat) : (Value.ofNat number).IsSpelled := trivial

theorem spelled_ofText (text : String) : (Value.ofText text).IsSpelled := trivial

theorem spelled_ofOption {Content : Type} {form : Content → Value}
    (spelled : ∀ content, (form content).IsSpelled) (content : Option Content) :
    (Value.ofOption form content).IsSpelled := by
  cases content with
  | none => trivial
  | some content => exact spelled content

theorem ofNat_ne_record (number : Nat) (members : List (Literal × Value)) :
    Value.ofNat number ≠ .record members := nofun

theorem ofText_ne_record (text : String) (members : List (Literal × Value)) :
    Value.ofText text ≠ .record members := nofun

theorem ofOption_ne_record {Content : Type} {form : Content → Value}
    (plain : ∀ content members, form content ≠ .record members) (content : Option Content)
    (members : List (Literal × Value)) : Value.ofOption form content ≠ .record members := by
  cases content with
  | none => nofun
  | some content => exact plain content members

/-! ### Forms -/

/-- A JSON form that can be written, that is read back whatever the order of its members is and
whatever else there is, and that is refused when a member of it is repeated. -/
structure Faithful (Content : Type) [JsonForm Content] : Prop where
  spelled : ∀ content : Content, (JsonForm.toJson content).IsSpelled
  reads : ∀ content : Content, Reads JsonForm.ofJson? (JsonForm.toJson content) content
  refuses : ∀ content : Content,
    Refuses (JsonForm.ofJson? : Value → Option Content) (JsonForm.toJson content)

section Records

variable {Content : Type} {fields : List (String × Value)} {names : List String}
  {next : Members → Option Content} {content : Content}

/-- What is left of a record, read by its sorted members. -/
theorem reads_kept {kept : String → Bool} {list : List (Literal × Value)}
    (named : fields.map Prod.fst = names) (distinct : names.Nodup)
    (rearranged : Rearranged (.ofMembers fields) (.record list))
    (reads : ∀ members, Holds fields kept members → next members = some content) :
    (members? names (.record (keptMembers kept list)) >>= next) = some content := by
  obtain ⟨members, sorted, holds⟩ := exists_holds (named ▸ distinct) rearranged kept
  rw [named] at sorted
  rw [sorted]
  exact reads members holds

/-- A record that is read by its sorted members. -/
theorem reads_record (named : fields.map Prod.fst = names) (distinct : names.Nodup)
    (reads : ∀ members, Holds fields (fun _ => true) members → next members = some content) :
    Reads (fun value => members? names value >>= next) (.ofMembers fields) content := by
  intro changed rearranged
  obtain ⟨list, _, _, rfl, -⟩ := rearranged.exists_of_record
  have whole := reads_kept named distinct rearranged reads
  rw [keptMembers_true rearranged] at whole
  exact whole

/-- A record that is refused where a record in one of its places is. -/
theorem refuses_record (named : fields.map Prod.fst = names)
    (refuses : ∀ members index name value other, fields[index]? = some (name, value) →
      members.place index = some other → Repeated value other → next members = none) :
    Refuses (fun value => members? names value >>= next) (.ofMembers fields) := by
  intro changed repeated
  show members? names changed >>= next = _
  cases sorted : members? names changed with
  | none => rfl
  | some members =>
    rw [← named] at sorted
    obtain ⟨index, name, value, other, here, placed, inside⟩ := repeated.exists_place sorted
    exact refuses members index name value other here placed inside

/-- A record without records in it. -/
theorem refuses_flat (named : fields.map Prod.fst = names)
    (flat : ∀ field ∈ fields, ∀ members, field.2 ≠ .record members) :
    Refuses (fun value => members? names value >>= next) (.ofMembers fields) := by
  refine refuses_record named fun members index name value other here _ inside => ?_
  obtain ⟨inner, isRecord⟩ := inside.is_record
  exact absurd isRecord (flat _ (List.mem_of_getElem? here) inner)

end Records

/-! ### Names -/

theorem faithful_network : Faithful Network where
  spelled _ := trivial
  reads network := .of_plain nofun (by cases network <;> rfl)
  refuses _ := .of_plain nofun

theorem faithful_keychain : Faithful Keychain where
  spelled _ := trivial
  reads keychain := .of_plain nofun (by cases keychain <;> rfl)
  refuses _ := .of_plain nofun

theorem faithful_errorKind : Faithful ErrorKind where
  spelled _ := trivial
  reads kind := .of_plain nofun (ErrorKind.ofName?_name kind)
  refuses _ := .of_plain nofun

/-! ### Records -/

theorem faithful_balance : Faithful Balance where
  spelled balance := spelled_ofMembers <| by
    simp only [List.forall_mem_cons]
    exact ⟨trivial, trivial, trivial, trivial, nofun⟩
  reads balance := reads_record rfl (by decide) fun members holds => by
    have immature := holds.required 0 rfl (reads_uint64 balance.immature)
    have trustedPending := holds.required 1 rfl (reads_uint64 balance.trustedPending)
    have untrustedPending := holds.required 2 rfl (reads_uint64 balance.untrustedPending)
    have confirmed := holds.required 3 rfl (reads_uint64 balance.confirmed)
    rw [immature, trustedPending, untrustedPending, confirmed]
    rfl
  refuses balance := refuses_flat rfl (by simp [Value.ofNat])

theorem faithful_outPoint : Faithful OutPoint where
  spelled outpoint := spelled_ofMembers <| by
    simp only [List.forall_mem_cons]
    exact ⟨trivial, trivial, nofun⟩
  reads outpoint := reads_record rfl (by decide) fun members holds => by
    have txid := holds.required 0 rfl (reads_text outpoint.txid)
    have vout := holds.required 1 rfl (reads_uint32 outpoint.vout)
    rw [txid, vout]
    rfl
  refuses outpoint := refuses_flat rfl (by simp [Value.ofNat, Value.ofText])

theorem faithful_txOut : Faithful TxOut where
  spelled txout := spelled_ofMembers <| by
    simp only [List.forall_mem_cons]
    exact ⟨trivial, trivial, nofun⟩
  reads txout := reads_record rfl (by decide) fun members holds => by
    have amount := holds.required 0 rfl (reads_uint64 txout.value)
    have scriptPubkey := holds.required 1 rfl (reads_text txout.scriptPubkey)
    rw [amount, scriptPubkey]
    rfl
  refuses txout := refuses_flat rfl (by simp [Value.ofNat, Value.ofText])

theorem faithful_confirmationTime : Faithful ConfirmationTime where
  spelled time := spelled_ofMembers <| by
    simp only [List.forall_mem_cons]
    exact ⟨trivial, trivial, nofun⟩
  reads time := reads_record rfl (by decide) fun members holds => by
    have height := holds.required 0 rfl (reads_uint32 time.height)
    have timestamp := holds.required 1 rfl (reads_uint64 time.timestamp)
    rw [height, timestamp]
    rfl
  refuses time := refuses_flat rfl (by simp [Value.ofNat])

/-! ### Records in records -/

theorem required_eq_none {Content : Type} {read : Value → Option Content} {members : Members}
    {index : Nat} {value other : Value} (placed : members.place index = some other)
    (refuses : Refuses read value) (inside : Repeated value other) :
    members.required index read = none := by
  rw [Members.required, placed]
  exact refuses other inside

theorem optional_eq_none {Content : Type} {form : Content → Value} {read : Value → Option Content}
    {members : Members} {index : Nat} {content : Option Content} {other : Value}
    (placed : members.place index = some other) (refuses : ∀ inner, Refuses read (form inner))
    (inside : Repeated (Value.ofOption form content) other) :
    members.optional index read = none := by
  cases content with
  | none =>
    obtain ⟨members, isRecord⟩ := inside.is_record
    cases isRecord
  | some inner =>
    rw [Members.optional_of_place placed inside.ne_null, refuses inner other inside]
    rfl

theorem faithful_localUtxo : Faithful LocalUtxo where
  spelled utxo := spelled_ofMembers <| by
    simp only [List.forall_mem_cons]
    exact ⟨faithful_outPoint.spelled _, faithful_txOut.spelled _, trivial, nofun⟩
  reads utxo := reads_record rfl (by decide) fun members holds => by
    have outpoint := holds.required 0 rfl (faithful_outPoint.reads utxo.outpoint)
    have txout := holds.required 1 rfl (faithful_txOut.reads utxo.txout)
    have keychain := holds.required 2 rfl (faithful_keychain.reads utxo.keychain)
    rw [outpoint, txout, keychain]
    rfl
  refuses utxo := refuses_record rfl fun members index name value other here placed inside => by
    -- The place with the repetition is refused, whatever the places before it hold.
    match index, here with
    | 0, here =>
      cases here
      have none := required_eq_none placed (faithful_outPoint.refuses utxo.outpoint) inside
      rw [none]
      rfl
    | 1, here =>
      cases here
      have none := required_eq_none placed (faithful_txOut.refuses utxo.txout) inside
      simp only [none, Option.bind_eq_bind, Option.bind_none, Option.bind_fun_none]
    | 2, here =>
      cases here
      have none := required_eq_none placed (faithful_keychain.refuses utxo.keychain) inside
      simp only [none, Option.bind_eq_bind, Option.bind_none, Option.bind_fun_none]

theorem faithful_transactionDetails : Faithful TransactionDetails where
  spelled details := spelled_ofMembers <| by
    simp only [List.forall_mem_cons]
    exact ⟨trivial, trivial, trivial,
      spelled_ofOption (fun fee : UInt64 => spelled_ofNat fee.toNat) _,
      spelled_ofOption faithful_confirmationTime.spelled _, nofun⟩
  reads details := reads_record rfl (by decide) fun members holds => by
    have txid := holds.required 0 rfl (reads_text details.txid)
    have received := holds.required 1 rfl (reads_uint64 details.received)
    have sent := holds.required 2 rfl (reads_uint64 details.sent)
    have fee := holds.optional 3 rfl (fun _ => nofun) reads_uint64
    have confirmationTime := holds.optional 4 rfl (fun _ => nofun)
      faithful_confirmationTime.reads
    rw [txid, received, sent, fee, confirmationTime]
    rfl
  refuses details := refuses_record rfl fun members index name value other here placed inside => by
    -- No place but the last holds a record, and only a record has a repetition.
    obtain ⟨inner, isRecord⟩ := inside.is_record
    match index, here with
    | 0, here | 1, here | 2, here => cases here; cases isRecord
    | 3, here =>
      cases here
      exact absurd isRecord
        (ofOption_ne_record (fun fee : UInt64 => ofNat_ne_record fee.toNat) details.fee inner)
    | 4, here =>
      cases here
      have none := optional_eq_none placed faithful_confirmationTime.refuses inside
      simp only [none, Option.bind_eq_bind, Option.bind_none, Option.bind_fun_none]

/-! ### Settings -/

/-- The settings with the members of some names, and the defaults for the others. -/
def ElectrumConfig.keeping (kept : String → Bool) (config : ElectrumConfig) : ElectrumConfig where
  url := if kept "url" then config.url else default.url
  socks5 := if kept "socks5" then config.socks5 else default.socks5
  retry := if kept "retry" then config.retry else default.retry
  timeout := if kept "timeout" then config.timeout else default.timeout
  stopGap := if kept "stop_gap" then config.stopGap else default.stopGap
  batchSize := if kept "batch_size" then config.batchSize else default.batchSize

/-- Settings without some of their members. -/
theorem ElectrumConfig.ofJson?_keptMembers (config : ElectrumConfig) (kept : String → Bool)
    {list : List (Literal × Value)}
    (rearranged : Rearranged (JsonForm.toJson config) (.record list)) :
    JsonForm.ofJson? (Value.record (keptMembers kept list)) = some (config.keeping kept) := by
  refine reads_kept rfl (by decide) rearranged fun members holds => ?_
  have url := holds.defaulted 0 rfl (reads_text config.url) default.url
  have socks5 := holds.defaultedOptional 1 rfl (fun _ => nofun) reads_text default.socks5
  have retry := holds.defaulted 2 rfl (reads_uint8 config.retry) default.retry
  have timeout := holds.defaultedOptional 3 rfl (fun _ => nofun) reads_uint8 default.timeout
  have stopGap := holds.defaulted 4 rfl (reads_uint64 config.stopGap) default.stopGap
  have batchSize := holds.defaulted 5 rfl (reads_uint64 config.batchSize) default.batchSize
  simp only [url, socks5, retry, timeout, stopGap, batchSize]
  rfl

theorem faithful_electrumConfig : Faithful ElectrumConfig where
  spelled config := spelled_ofMembers <| by
    simp only [List.forall_mem_cons]
    exact ⟨trivial, spelled_ofOption spelled_ofText _, trivial,
      spelled_ofOption (fun seconds : UInt8 => spelled_ofNat seconds.toNat) _, trivial, trivial,
      nofun⟩
  reads config changed rearranged := by
    obtain ⟨list, _, _, rfl, -⟩ := rearranged.exists_of_record
    have whole := config.ofJson?_keptMembers (fun _ => true) rearranged
    rw [keptMembers_true rearranged] at whole
    exact whole
  refuses config := refuses_flat rfl <| by
    simp only [List.forall_mem_cons]
    exact ⟨nofun, ofOption_ne_record ofText_ne_record _, nofun,
      ofOption_ne_record (fun seconds : UInt8 => ofNat_ne_record seconds.toNat) _, nofun, nofun,
      nofun⟩

/-! ### Texts -/

/-- The values of a type survive their texts. -/
structure SurvivesText (Content : Type) [JsonForm Content] : Prop where
  /-- A value is written as its form. -/
  parsed : ∀ content : Content, Json.parse? (encodeJson content) = some (JsonForm.toJson content)
  decoded : ∀ content : Content, decodeJson? Content (encodeJson content) = some content
  /-- Any text of a rearranged form gives the value. -/
  rearranged : ∀ (content : Content) (text : String) (changed : Value),
    Json.parse? text = some changed → Rearranged (JsonForm.toJson content) changed →
      decodeJson? Content text = some content
  /-- Any text of a form with a repetition is refused. -/
  repeated : ∀ (content : Content) (text : String) (changed : Value),
    Json.parse? text = some changed → Repeated (JsonForm.toJson content) changed →
      decodeJson? Content text = none

theorem Faithful.survivesText {Content : Type} [JsonForm Content] (faithful : Faithful Content) :
    SurvivesText Content where
  parsed content := Json.parse?_render (faithful.spelled content)
  decoded content := by
    rw [decodeJson?, encodeJson, Json.parse?_render (faithful.spelled content), Option.bind_some]
    exact faithful.reads content _ (.same _)
  rearranged content text changed spells rearranged := by
    rw [decodeJson?, spells, Option.bind_some]
    exact faithful.reads content changed rearranged
  repeated content text changed spells repeated := by
    rw [decodeJson?, spells, Option.bind_some]
    exact faithful.refuses content changed repeated

/-- The host's values survive their JSON texts, whatever the order of the members in any record, and
whatever unknown members there are; a repeated member is refused. Settings that lost members are the
same settings with the defaults for these. Every spelled value has a text to which this applies. -/
theorem values_survive_texts :
    (∀ value : Value, value.IsSpelled → Json.parse? value.render = some value) ∧
      SurvivesText Network ∧ SurvivesText Keychain ∧ SurvivesText ErrorKind ∧
      SurvivesText Balance ∧ SurvivesText OutPoint ∧ SurvivesText TxOut ∧ SurvivesText LocalUtxo ∧
      SurvivesText ConfirmationTime ∧ SurvivesText TransactionDetails ∧
      SurvivesText ElectrumConfig ∧
      ∀ (config : ElectrumConfig) (kept : String → Bool) (text : String)
        (list : List (Literal × Value)),
        Rearranged (JsonForm.toJson config) (.record list) →
          Json.parse? text = some (.record (keptMembers kept list)) →
            decodeJson? ElectrumConfig text = some (config.keeping kept) := by
  refine ⟨fun _ => Json.parse?_render, faithful_network.survivesText,
    faithful_keychain.survivesText, faithful_errorKind.survivesText, faithful_balance.survivesText,
    faithful_outPoint.survivesText, faithful_txOut.survivesText, faithful_localUtxo.survivesText,
    faithful_confirmationTime.survivesText, faithful_transactionDetails.survivesText,
    faithful_electrumConfig.survivesText, fun config kept text list rearranged spells => ?_⟩
  rw [decodeJson?, spells, Option.bind_some]
  exact config.ofJson?_keptMembers kept rearranged

example : decodeJson? OutPoint "\x7b\"vout\":1,\"seen\":[null],\"txid\":\"a\"\x7d" =
    some ⟨"a", 1⟩ := by
  rfl

example : decodeJson? OutPoint "\x7b\"vout\":1,\"txid\":\"a\",\"vout\":1\x7d" = none := by
  rfl

end WalletBridge
