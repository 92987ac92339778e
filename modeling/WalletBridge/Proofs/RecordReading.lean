/-
This file proves on what the reading of a JSON record depends. The members of a record are looked up
by their names, so it makes no difference in which order they stand and what other names there are,
also inside the members that are records themselves. What is looked up must be there once: a known
name that comes twice is refused, wherever the record stands.

A record may also have lost members. Nothing is found in their places, and what their absence means
is left to whoever asks.
-/

import Mathlib.Data.List.Nodup
import Mathlib.Data.Option.Basic
import WalletBridge.Json.Record

namespace WalletBridge.Json

/-! ### Changed records -/

mutual

/-- A value and the same one after a change of its records: members stand in any order, and there
are others, with names that the record does not know. -/
inductive Rearranged : Value → Value → Prop where
  | same (value : Value) : Rearranged value value
  | record {members inner added changed : List (Literal × Value)}
      (inside : RearrangedInside members inner)
      (unknown : ∀ member ∈ added, member.1.isSome ∧ member.1 ∉ members.map Prod.fst)
      (permuted : changed.Perm (inner ++ added)) :
      Rearranged (.record members) (.record changed)

/-- Members with the same names, one by one, and what became of their values. -/
inductive RearrangedInside : List (Literal × Value) → List (Literal × Value) → Prop where
  | nil : RearrangedInside [] []
  | cons {name : Literal} {value changed : Value} {members inner : List (Literal × Value)}
      (first : Rearranged value changed) (rest : RearrangedInside members inner) :
      RearrangedInside ((name, value) :: members) ((name, changed) :: inner)

end

/-- A value and another one, in which a record has a member twice that it knows. -/
inductive Repeated : Value → Value → Prop where
  | here {members changed : List (Literal × Value)} {name : Literal}
      (known : name ∈ members.map Prod.fst)
      (twice : 2 ≤ (changed.filter (·.1 == name)).length) :
      Repeated (.record members) (.record changed)
  | inside {members changed : List (Literal × Value)} {name : Literal} {value other : Value}
      (known : (name, value) ∈ members) (held : (name, other) ∈ changed)
      (repeated : Repeated value other) :
      Repeated (.record members) (.record changed)

/-! ### Looking up a member -/

/-- The value of the only member, when there is at most one. -/
def only? : List (Literal × Value) → Option (Option Value)
  | [] => some none
  | [member] => some (some member.2)
  | _ => none

/-- The members with a name. -/
def membersNamed (members : List (Literal × Value)) (name : String) : List (Literal × Value) :=
  members.filter fun member => member.1 == some name

theorem single?_eq_only? (members : List (Literal × Value)) (name : String) :
    single? members name = only? (membersNamed members name) := by
  rw [single?, membersNamed]
  match members.filter fun member => member.1 == some name with
  | [] | [_] | _ :: _ :: _ => rfl

theorem only?_of_perm {first second : List (Literal × Value)} (same : first.Perm second) :
    only? first = only? second := by
  match first, second, same with
  | [], _, same => rw [same.nil_eq]
  | [_], _, same => rw [same.singleton_eq]
  | _ :: _ :: _, [], same => cases same.length_eq
  | _ :: _ :: _, [_], same => cases same.length_eq
  | _ :: _ :: _, _ :: _ :: _, _ => rfl

section Single

variable {members other : List (Literal × Value)} {name : String} {value : Value}

/-- The order of the members does not matter. -/
theorem single?_of_perm (same : members.Perm other) (name : String) :
    single? members name = single? other name := by
  rw [single?_eq_only?, single?_eq_only?]
  exact only?_of_perm (same.filter _)

/-- Members with other names do not matter. -/
theorem single?_append_of_absent (absent : some name ∉ other.map Prod.fst) :
    single? (members ++ other) name = single? members name := by
  have none : membersNamed other name = [] := by
    refine List.filter_eq_nil_iff.mpr fun member within named => absent ?_
    exact eq_of_beq named ▸ List.mem_map_of_mem within
  rw [single?_eq_only?, single?_eq_only?, membersNamed, List.filter_append]
  exact congrArg only? ((congrArg _ none).trans (List.append_nil _))

theorem single?_of_absent (absent : some name ∉ members.map Prod.fst) :
    single? members name = some none := by
  have none : single? ([] ++ members) name = single? [] name := single?_append_of_absent absent
  exact none

theorem single?_of_mem (distinct : (members.map Prod.fst).Nodup)
    (within : (some name, value) ∈ members) : single? members name = some (some value) := by
  obtain ⟨front, back, rfl⟩ := List.append_of_mem within
  have absent : some name ∉ (front ++ back).map Prod.fst := by
    rw [List.map_append, List.map_cons, List.nodup_middle, ← List.map_append] at distinct
    exact (List.nodup_cons.mp distinct).1
  rw [single?_of_perm List.perm_middle, ← List.singleton_append, single?_append_of_absent absent]
  simp [single?]

theorem single?_of_twice (twice : 2 ≤ (membersNamed members name).length) :
    single? members name = none := by
  rw [single?_eq_only?]
  match membersNamed members name, twice with
  | _ :: _ :: _, _ => rfl

/-- What is found under a name is what stands there. -/
theorem eq_of_single? {found : Option Value} (single : single? members name = some found)
    (within : (some name, value) ∈ members) : found = some value := by
  have member : (some name, value) ∈ membersNamed members name :=
    List.mem_filter.mpr ⟨within, beq_self_eq_true _⟩
  rw [single?_eq_only?] at single
  match membersNamed members name, member, single with
  | [only], member, single =>
    cases single
    exact congrArg (some ∘ Prod.snd) (List.mem_singleton.mp member).symm

end Single

/-! ### Sorting the members -/

theorem getElem?_of_mapM {Item Result : Type} {read : Item → Option Result} {items : List Item}
    {results : List Result} (all : items.mapM read = some results) {index : Nat} {item : Item}
    (here : items[index]? = some item) :
    ∃ result, results[index]? = some result ∧ read item = some result := by
  induction items generalizing results index with
  | nil => cases here
  | cons head tail inductionHypothesis =>
    rw [List.mapM_cons] at all
    obtain ⟨first, firstRead, all⟩ := Option.bind_eq_some_iff.mp all
    obtain ⟨rest, restRead, all⟩ := Option.bind_eq_some_iff.mp all
    cases all
    cases index with
    | zero =>
      cases here
      exact ⟨first, rfl, firstRead⟩
    | succ index => exact inductionHypothesis restRead here

theorem exists_mapM {Item Result : Type} {read : Item → Option Result} {items : List Item}
    (each : ∀ item ∈ items, ∃ result, read item = some result) :
    ∃ results, items.mapM read = some results := by
  induction items with
  | nil => exact ⟨[], rfl⟩
  | cons head tail inductionHypothesis =>
    obtain ⟨first, firstRead⟩ := each head List.mem_cons_self
    obtain ⟨rest, restRead⟩ :=
      inductionHypothesis fun item member => each item (List.mem_cons_of_mem _ member)
    refine ⟨first :: rest, ?_⟩
    rw [List.mapM_cons, firstRead, restRead]
    rfl

section Sorted

variable {names : List String} {list : List (Literal × Value)} {members : Members}

/-- Sorted members have names, and each known name has what is found under it. -/
theorem place_of_members? (sorted : members? names (.record list) = some members) :
    members.named = true ∧ ∀ {index name}, names[index]? = some name →
      single? list name = some (members.place index) := by
  rw [members?] at sorted
  obtain ⟨_, -, sorted⟩ := Option.bind_eq_some_iff.mp sorted
  obtain ⟨places, found, sorted⟩ := Option.bind_eq_some_iff.mp sorted
  cases sorted
  refine ⟨rfl, fun here => ?_⟩
  obtain ⟨place, placed, single⟩ := getElem?_of_mapM found here
  rw [single, Members.place, placed]
  rfl

/-- Members with readable names are sorted if none that is known comes twice. -/
theorem exists_members? (readable : ∀ member ∈ list, member.1.isSome)
    (single : ∀ name ∈ names, ∃ found, single? list name = some found) :
    ∃ members, members? names (.record list) = some members := by
  obtain ⟨places, found⟩ := exists_mapM single
  refine ⟨⟨true, places⟩, ?_⟩
  have all : (list.all fun member => member.1.isSome) = true := List.all_eq_true.mpr readable
  rw [members?, all, found]
  rfl

end Sorted

/-! ### Rearranged records -/

theorem RearrangedInside.refl (members : List (Literal × Value)) :
    RearrangedInside members members := by
  induction members with
  | nil => exact .nil
  | cons member members inductionHypothesis => exact .cons (.same _) inductionHypothesis

theorem RearrangedInside.names_eq {members inner : List (Literal × Value)}
    (inside : RearrangedInside members inner) : inner.map Prod.fst = members.map Prod.fst := by
  induction members generalizing inner with
  | nil => cases inside; rfl
  | cons member members inductionHypothesis =>
    cases inside with
    | cons first rest => exact congrArg (_ :: ·) (inductionHypothesis rest)

theorem RearrangedInside.exists_of_mem {members inner : List (Literal × Value)}
    (inside : RearrangedInside members inner) {name : Literal} {value : Value}
    (within : (name, value) ∈ members) :
    ∃ changed, (name, changed) ∈ inner ∧ Rearranged value changed := by
  induction members generalizing inner with
  | nil => cases within
  | cons member members inductionHypothesis =>
    cases inside with
    | cons first rest =>
      rcases List.mem_cons.mp within with same | later
      · cases same
        exact ⟨_, List.mem_cons_self, first⟩
      · obtain ⟨changed, held, rearranged⟩ := inductionHypothesis rest later
        exact ⟨changed, List.mem_cons_of_mem _ held, rearranged⟩

namespace Rearranged

/-- Only a record is changed. -/
theorem eq_of_not_record {value changed : Value} (rearranged : Rearranged value changed)
    (plain : ∀ members, value ≠ .record members) : changed = value := by
  cases rearranged with
  | same => rfl
  | record => exact absurd rfl (plain _)

/-- What a record has become. -/
theorem exists_of_record {members : List (Literal × Value)} {changed : Value}
    (rearranged : Rearranged (.record members) changed) :
    ∃ list inner added, changed = .record list ∧ RearrangedInside members inner ∧
      (∀ member ∈ added, member.1.isSome ∧ member.1 ∉ members.map Prod.fst) ∧
      list.Perm (inner ++ added) := by
  cases rearranged with
  | same => exact ⟨members, members, [], rfl, .refl members, nofun, by rw [List.append_nil]⟩
  | record inside unknown permuted => exact ⟨_, _, _, rfl, inside, unknown, permuted⟩

end Rearranged

/-! ### Fields and what is found of them -/

/-- The members of a record whose names were kept. -/
def keptMembers (kept : String → Bool) (list : List (Literal × Value)) : List (Literal × Value) :=
  list.filter fun member => member.1.any kept

/-- Sorted members are those of a record: with names, and with the values of the fields that were
kept, in which records may have changed. -/
structure Holds (fields : List (String × Value)) (kept : String → Bool) (members : Members) :
    Prop where
  named : members.named = true
  held : ∀ {index name value}, fields[index]? = some (name, value) → kept name = true →
    ∃ changed, members.place index = some changed ∧ Rearranged value changed
  lost : ∀ {index name value}, fields[index]? = some (name, value) → kept name = false →
    members.place index = none

section Fields

variable {fields : List (String × Value)} {list : List (Literal × Value)} {kept : String → Bool}
  {name : String} {value : Value}

theorem names_ofMembers (fields : List (String × Value)) :
    (fields.map fun field => (some field.1, field.2)).map Prod.fst =
      (fields.map Prod.fst).map some := by
  rw [List.map_map, List.map_map]
  rfl

/-- Of a rearranged record a known name sees the fields alone, and of these the kept ones. -/
theorem exists_single?_eq (kept : String → Bool) (distinct : (fields.map Prod.fst).Nodup)
    (rearranged : Rearranged (.ofMembers fields) (.record list)) (field : (name, value) ∈ fields) :
    ∃ inner changed, (some name, changed) ∈ inner ∧ Rearranged value changed ∧
      (inner.map Prod.fst).Nodup ∧
      single? (keptMembers kept list) name = single? (keptMembers kept inner) name := by
  obtain ⟨_, inner, added, same, inside, unknown, permuted⟩ := rearranged.exists_of_record
  obtain rfl := Value.record.inj same
  obtain ⟨changed, held, rearrangedInside⟩ :=
    inside.exists_of_mem (List.mem_map_of_mem (f := fun field => (some field.1, field.2)) field)
  have innerNames := inside.names_eq
  rw [names_ofMembers] at innerNames unknown
  -- The added members have names of their own, so for a known name they are not there.
  have absent : some name ∉ (keptMembers kept added).map Prod.fst := by
    intro within
    obtain ⟨member, present, named⟩ := List.mem_map.mp within
    refine (unknown member (List.mem_of_mem_filter present)).2 ?_
    exact named ▸ List.mem_map_of_mem (List.mem_map_of_mem field)
  refine ⟨inner, changed, held, rearrangedInside, ?_, ?_⟩
  · rw [innerNames]
    exact distinct.map (Option.some_injective _)
  · rw [keptMembers, single?_of_perm (permuted.filter _), List.filter_append]
    exact single?_append_of_absent absent

theorem single?_of_kept (distinct : (fields.map Prod.fst).Nodup)
    (rearranged : Rearranged (.ofMembers fields) (.record list)) (field : (name, value) ∈ fields)
    (isKept : kept name = true) :
    ∃ changed, single? (keptMembers kept list) name = some (some changed) ∧
      Rearranged value changed := by
  obtain ⟨inner, changed, held, rearrangedInside, innerDistinct, looked⟩ :=
    exists_single?_eq kept distinct rearranged field
  refine ⟨changed, looked.trans ?_, rearrangedInside⟩
  refine single?_of_mem ?_ (List.mem_filter.mpr ⟨held, isKept⟩)
  exact innerDistinct.sublist (List.filter_sublist.map Prod.fst)

theorem single?_of_lost (distinct : (fields.map Prod.fst).Nodup)
    (rearranged : Rearranged (.ofMembers fields) (.record list)) (field : (name, value) ∈ fields)
    (isLost : kept name = false) : single? (keptMembers kept list) name = some none := by
  obtain ⟨inner, _, _, _, _, looked⟩ :=
    exists_single?_eq kept distinct rearranged field
  refine looked.trans (single?_of_absent fun within => ?_)
  obtain ⟨member, present, named⟩ := List.mem_map.mp within
  have isKept := (List.mem_filter.mp present).2
  rw [named, Option.any_some, isLost] at isKept
  cases isKept

/-- What is left of a rearranged record is sorted by its fields. -/
theorem exists_holds (distinct : (fields.map Prod.fst).Nodup)
    (rearranged : Rearranged (.ofMembers fields) (.record list)) (kept : String → Bool) :
    ∃ members, members? (fields.map Prod.fst) (.record (keptMembers kept list)) = some members ∧
      Holds fields kept members := by
  have readable : ∀ member ∈ keptMembers kept list, member.1.isSome := by
    intro member present
    obtain ⟨name, named, -⟩ := (Option.any_eq_true _ _).mp (List.mem_filter.mp present).2
    rw [named]
    rfl
  have single : ∀ name ∈ fields.map Prod.fst, ∃ found,
      single? (keptMembers kept list) name = some found := by
    intro name known
    obtain ⟨⟨_, value⟩, field, rfl⟩ := List.mem_map.mp known
    cases isKept : kept _ with
    | true =>
      obtain ⟨changed, found, -⟩ := single?_of_kept distinct rearranged field isKept
      exact ⟨_, found⟩
    | false => exact ⟨_, single?_of_lost distinct rearranged field isKept⟩
  obtain ⟨members, sorted⟩ := exists_members? readable single
  obtain ⟨named, placed⟩ := place_of_members? sorted
  have place : ∀ {index name value}, fields[index]? = some (name, value) →
      single? (keptMembers kept list) name = some (members.place index) := by
    intro index name value here
    exact placed (by rw [List.getElem?_map, here]; rfl)
  refine ⟨members, sorted, named, fun here isKept => ?_, fun here isLost => ?_⟩
  · obtain ⟨changed, found, rearrangedInside⟩ :=
      single?_of_kept distinct rearranged (List.mem_of_getElem? here) isKept
    exact ⟨changed, Option.some.inj ((place here).symm.trans found), rearrangedInside⟩
  · exact Option.some.inj ((place here).symm.trans
      (single?_of_lost distinct rearranged (List.mem_of_getElem? here) isLost))

/-- A rearranged record has readable names alone, so nothing is lost if all names are kept. -/
theorem keptMembers_true (rearranged : Rearranged (.ofMembers fields) (.record list)) :
    keptMembers (fun _ => true) list = list := by
  obtain ⟨_, inner, added, same, inside, unknown, permuted⟩ := rearranged.exists_of_record
  obtain rfl := Value.record.inj same
  refine List.filter_eq_self.mpr fun member present => ?_
  rw [Option.any_true]
  rcases List.mem_append.mp (permuted.mem_iff.mp present) with own | other
  · have known : member.1 ∈ inner.map Prod.fst := List.mem_map_of_mem own
    rw [inside.names_eq, names_ofMembers] at known
    obtain ⟨name, -, named⟩ := List.mem_map.mp known
    rw [← named]
    rfl
  · exact (unknown member other).1

end Fields

/-! ### Repeated members -/

theorem Repeated.is_record {value other : Value} (repeated : Repeated value other) :
    ∃ members, value = .record members := by
  cases repeated <;> exact ⟨_, rfl⟩

theorem Repeated.ne_null {value other : Value} (repeated : Repeated value other) :
    other ≠ .null := by
  cases repeated <;> nofun

/-- Where a record with a repetition can be sorted, the repetition is inside one of its fields. -/
theorem Repeated.exists_place {fields : List (String × Value)} {changed : Value} {members : Members}
    (repeated : Repeated (.ofMembers fields) changed)
    (sorted : members? (fields.map Prod.fst) changed = some members) :
    ∃ index name value other, fields[index]? = some (name, value) ∧
      members.place index = some other ∧ Repeated value other := by
  rw [Value.ofMembers] at repeated
  cases repeated with
  | here known twice =>
    rw [names_ofMembers] at known
    obtain ⟨name, own, rfl⟩ := List.mem_map.mp known
    obtain ⟨index, here⟩ := List.mem_iff_getElem?.mp own
    have single := (place_of_members? sorted).2 here
    rw [single?_of_twice twice] at single
    cases single
  | inside known held repeated =>
    obtain ⟨⟨name, value⟩, field, same⟩ := List.mem_map.mp known
    cases same
    obtain ⟨index, here⟩ := List.mem_iff_getElem?.mp field
    have named : (fields.map Prod.fst)[index]? = some name := by
      rw [List.getElem?_map, here]
      rfl
    have single := (place_of_members? sorted).2 named
    exact ⟨index, name, value, _, here, eq_of_single? single held, repeated⟩

/-! ### Readers of fields -/

section Readers

variable {Content : Type} {read : Value → Option Content}

/-- A reader gives some content for a value, also when records in it are rearranged. -/
def Reads (read : Value → Option Content) (value : Value) (content : Content) : Prop :=
  ∀ changed, Rearranged value changed → read changed = some content

/-- A reader refuses a value when a record in it has a repetition. -/
def Refuses (read : Value → Option Content) (value : Value) : Prop :=
  ∀ changed, Repeated value changed → read changed = none

/-- What is no record is read as it is. -/
theorem Reads.of_plain {value : Value} {content : Content}
    (plain : ∀ members, value ≠ .record members) (reads : read value = some content) :
    Reads read value content := fun _ rearranged =>
  (rearranged.eq_of_not_record plain) ▸ reads

theorem Refuses.of_plain {value : Value} (plain : ∀ members, value ≠ .record members) :
    Refuses read value := fun _ repeated =>
  let ⟨members, isRecord⟩ := repeated.is_record
  absurd isRecord (plain members)

theorem Rearranged.ne_null {value changed : Value} (rearranged : Rearranged value changed)
    (proper : value ≠ .null) : changed ≠ .null := by
  cases rearranged with
  | same => exact proper
  | record => nofun

section Places

variable {members : Members} {index : Nat} {value : Value}

theorem Members.optional_of_place (placed : members.place index = some value)
    (notNull : value ≠ .null) : members.optional index read = (read value).map some := by
  rw [Members.optional, placed]
  cases value with
  | null => exact absurd rfl notNull
  | flag | integer | decimal | text | list | record => rfl

theorem Members.defaultedOptional_of_place {default : Option Content}
    (placed : members.place index = some value) (notNull : value ≠ .null) :
    members.defaultedOptional index default read = (read value).map some := by
  rw [Members.defaultedOptional, placed]
  cases value with
  | null => exact absurd rfl notNull
  | flag | integer | decimal | text | list | record => rfl

end Places

namespace Holds

variable {fields : List (String × Value)} {kept : String → Bool} {members : Members}
  {name : String}

theorem required (holds : Holds fields (fun _ => true) members) (index : Nat) {value : Value}
    {content : Content} (here : fields[index]? = some (name, value))
    (reads : Reads read value content) :
    members.required index read = some content := by
  obtain ⟨changed, placed, rearranged⟩ := holds.held here rfl
  rw [Members.required, placed]
  exact reads changed rearranged

theorem defaulted (holds : Holds fields kept members) (index : Nat) {value : Value}
    {content : Content} (here : fields[index]? = some (name, value))
    (reads : Reads read value content) (default : Content) :
    members.defaulted index default read = some (if kept name then content else default) := by
  rw [Members.defaulted]
  cases isKept : kept name with
  | true =>
    obtain ⟨changed, placed, rearranged⟩ := holds.held here isKept
    rw [placed]
    exact reads changed rearranged
  | false => rw [holds.lost here isKept]; rfl

/-- What stands in the place of an optional field that was kept: null, or what is no null. -/
theorem optional_place (holds : Holds fields kept members) {index : Nat} {form : Content → Value}
    {content : Option Content} (here : fields[index]? = some (name, .ofOption form content))
    (isKept : kept name = true) (proper : ∀ inner, form inner ≠ .null)
    (reads : ∀ inner, Reads read (form inner) inner) :
    (members.place index = some .null ∧ content = none) ∨
      ∃ changed, members.place index = some changed ∧ changed ≠ .null ∧
        (read changed).map some = some content := by
  obtain ⟨changed, placed, rearranged⟩ := holds.held here isKept
  cases content with
  | none =>
    obtain rfl := rearranged.eq_of_not_record nofun
    exact .inl ⟨placed, rfl⟩
  | some inner =>
    refine .inr ⟨changed, placed, rearranged.ne_null (proper inner), ?_⟩
    rw [reads inner changed rearranged]
    rfl

theorem optional (holds : Holds fields (fun _ => true) members) (index : Nat)
    {form : Content → Value} {content : Option Content}
    (here : fields[index]? = some (name, .ofOption form content))
    (proper : ∀ inner, form inner ≠ .null) (reads : ∀ inner, Reads read (form inner) inner) :
    members.optional index read = some content := by
  rcases holds.optional_place here rfl proper reads with
    ⟨placed, rfl⟩ | ⟨changed, placed, notNull, value⟩
  · rw [Members.optional, placed]
  · rw [Members.optional_of_place placed notNull, value]

theorem defaultedOptional (holds : Holds fields kept members) (index : Nat) {form : Content → Value}
    {content : Option Content} (here : fields[index]? = some (name, .ofOption form content))
    (proper : ∀ inner, form inner ≠ .null) (reads : ∀ inner, Reads read (form inner) inner)
    (default : Option Content) :
    members.defaultedOptional index default read =
      some (if kept name then content else default) := by
  cases isKept : kept name with
  | true =>
    rcases holds.optional_place here isKept proper reads with
      ⟨placed, rfl⟩ | ⟨changed, placed, notNull, value⟩
    · rw [Members.defaultedOptional, placed]
      rfl
    · rw [Members.defaultedOptional_of_place placed notNull, value]
      rfl
  | false =>
    rw [Members.defaultedOptional, holds.lost here isKept]
    rfl

end Holds

end Readers

end WalletBridge.Json
