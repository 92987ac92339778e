/-
This file proves that the load check accepts exactly the compatible libraries, and that of several
faults it reports the first. Symbols and layouts are both checked one after the other up to the
first that fails, so one lemma about such checks serves for both.

A library may describe its structs by any numbers. The check reads offsets only where the number of
fields it was told has been compared with the room for them, or cut to it, so it never reads beyond
that room. To state this the check is written once more with readings that can fail, and none does.
What the check goes by is what comes back when the library is asked by name to describe a struct at
a place.
-/

import WalletBridge.Boundary.Loading
import WalletBridge.Proofs.Utf8RoundTrip

namespace WalletBridge

/-! ### Compatible libraries -/

/-- A description says what the host declares: the same size and alignment, and the same offsets in
the same order. -/
structure LayoutDescription.Fits (described : LayoutDescription) (layout : StructLayout) :
    Prop where
  size : described.size = layout.size
  align : described.align = layout.align
  fieldCount : described.fieldCount = layout.offsets.length
  offsets : ∀ (index offset : Nat), layout.offsets[index]? = some offset →
    described.offsets.toList[index]? = some offset

namespace Resolver

/-- A name has an address, and not the null address. -/
def Exports (resolver : Resolver) (name : String) : Prop := resolver.resolve name = .ok .function

/-- A declared struct is described as it is declared. -/
def Describes (resolver : Resolver) (layout : StructLayout) : Prop :=
  ∃ described, resolver.describe layout.name = some described ∧ described.Fits layout

/-- What the host asks of a library. -/
structure Compatible (resolver : Resolver) (verify : Bool) : Prop where
  symbols : ∀ name ∈ Symbol.names, resolver.Exports name
  abi : resolver.reportedAbi = abiVersion
  layouts : verify = true → ∀ layout ∈ StructLayout.declared, resolver.Describes layout

/-- The fault of a library that comes first: symbols in the order of their declaration, the version,
and layouts in the order of their table. -/
inductive FirstFault (resolver : Resolver) (verify : Bool) : LinkageError → Prop where
  | symbol (earlier later : List String) (name : String)
      (order : Symbol.names = earlier ++ name :: later)
      (exported : ∀ other ∈ earlier, resolver.Exports other) (missing : ¬resolver.Exports name) :
    FirstFault resolver verify (.missingSymbol name)
  | abi (symbols : ∀ name ∈ Symbol.names, resolver.Exports name)
      (other : resolver.reportedAbi ≠ abiVersion) :
    FirstFault resolver verify (.abiVersion abiVersion resolver.reportedAbi)
  | unknown (symbols : ∀ name ∈ Symbol.names, resolver.Exports name)
      (abi : resolver.reportedAbi = abiVersion) (asked : verify = true)
      (earlier later : List StructLayout) (layout : StructLayout)
      (order : StructLayout.declared = earlier ++ layout :: later)
      (agreed : ∀ other ∈ earlier, resolver.Describes other)
      (unknown : resolver.describe layout.name = none) :
    FirstFault resolver verify (.unknownLayout layout.name)
  | mismatch (symbols : ∀ name ∈ Symbol.names, resolver.Exports name)
      (abi : resolver.reportedAbi = abiVersion) (asked : verify = true)
      (earlier later : List StructLayout) (layout : StructLayout) (described : LayoutDescription)
      (order : StructLayout.declared = earlier ++ layout :: later)
      (agreed : ∀ other ∈ earlier, resolver.Describes other)
      (known : resolver.describe layout.name = some described) (differs : ¬described.Fits layout) :
    FirstFault resolver verify (.layoutMismatch layout.name layout.text described.text)

end Resolver

/-- The numbers are found to agree exactly where a description fits. One that fits cannot have more
fields than there is room for, because it shows the offset of each. -/
theorem StructLayout.agrees_iff_fits (layout : StructLayout) (described : LayoutDescription) :
    layout.agrees described = true ↔ described.Fits layout := by
  simp only [StructLayout.agrees, Bool.and_eq_true, beq_iff_eq, decide_eq_true_eq]
  constructor
  · rintro ⟨⟨⟨⟨size, align⟩, fieldCount⟩, room⟩, offsets⟩
    refine ⟨size.symm, align.symm, fieldCount.symm, fun index offset known => ?_⟩
    rw [offsets, List.getElem?_take] at known
    split at known
    · exact known
    · cases known
  · rintro ⟨size, align, fieldCount, offsets⟩
    have room : layout.offsets.length ≤ described.offsets.toList.length := by
      refine Nat.le_of_not_lt fun beyond => ?_
      have known := List.getElem?_eq_getElem beyond
      have shown := offsets _ _ known
      rw [List.getElem?_eq_none (Nat.le_refl _)] at shown
      cases shown
    refine ⟨⟨⟨⟨size.symm, align.symm⟩, fieldCount.symm⟩, ?_⟩, ?_⟩
    · rw [fieldCount]
      exact Nat.le_trans room (Nat.le_of_eq described.offsets.length_toList)
    · rw [fieldCount]
      refine List.ext_getElem? fun index => ?_
      rw [List.getElem?_take]
      split
      · rename_i inside
        rw [offsets index _ (List.getElem?_eq_getElem inside), List.getElem?_eq_getElem inside]
      · rename_i beyond
        exact List.getElem?_eq_none (Nat.le_of_not_lt beyond)

/-! ### Checks one after the other -/

section

variable {Item Fault : Type}

/-- Checks of all items pass exactly if the check of each does. -/
theorem forM_eq_ok_iff (check : Item → Except Fault Unit) (items : List Item) :
    forM items check = .ok () ↔ ∀ item ∈ items, check item = .ok () := by
  induction items with
  | nil => exact ⟨fun _ => nofun, fun _ => rfl⟩
  | cons item rest inductionHypothesis =>
    rw [List.forM_cons, List.forall_mem_cons, ← inductionHypothesis]
    cases check item with
    | ok passed => exact ⟨fun others => ⟨rfl, others⟩, fun both => both.2⟩
    | error fault => exact ⟨nofun, nofun⟩

/-- Checks of all items fail as the check of the first item that does. -/
theorem forM_eq_error_iff (check : Item → Except Fault Unit) (items : List Item) (fault : Fault) :
    forM items check = .error fault ↔
      ∃ earlier item later, items = earlier ++ item :: later ∧
        (∀ other ∈ earlier, check other = .ok ()) ∧ check item = .error fault := by
  induction items with
  | nil => exact ⟨nofun, fun ⟨earlier, item, later, split, _⟩ => by cases earlier <;> cases split⟩
  | cons head rest inductionHypothesis =>
    rw [List.forM_cons]
    cases checked : check head with
    | ok passed =>
      refine inductionHypothesis.trans ⟨?_, ?_⟩
      · rintro ⟨earlier, item, later, rfl, before, failed⟩
        exact ⟨head :: earlier, item, later, rfl,
          List.forall_mem_cons.mpr ⟨checked, before⟩, failed⟩
      · rintro ⟨earlier, item, later, split, before, failed⟩
        cases earlier with
        | nil =>
          cases split
          rw [checked] at failed
          cases failed
        | cons first earlier =>
          cases split
          exact ⟨earlier, item, later, rfl, (List.forall_mem_cons.mp before).2, failed⟩
    | error found =>
      refine ⟨fun failed => ⟨[], head, rest, rfl, nofun, checked.trans failed⟩, ?_⟩
      rintro ⟨earlier, item, later, split, before, failed⟩
      cases earlier with
      | nil =>
        cases split
        exact checked.symm.trans failed
      | cons first earlier =>
        cases split
        cases checked.symm.trans (List.forall_mem_cons.mp before).1

end

namespace Resolver

/-! ### Symbols -/

/-- The check of one name. -/
def checkSymbol (resolver : Resolver) (name : String) : Except LinkageError Unit :=
  resolver.checkSymbols [name]

theorem checkSymbol_eq_ok_iff (resolver : Resolver) (name : String) :
    resolver.checkSymbol name = .ok () ↔ resolver.Exports name := by
  unfold checkSymbol checkSymbols Exports
  cases resolver.resolve name with
  | ok address => cases address <;> simp [checkSymbols]
  | error fault => simp

/-- A name that fails is reported as missing, also where it has the null address. -/
theorem checkSymbol_eq_error_iff (resolver : Resolver) (name : String) (fault : LinkageError) :
    resolver.checkSymbol name = .error fault ↔
      ¬resolver.Exports name ∧ fault = .missingSymbol name := by
  unfold checkSymbol checkSymbols Exports resolve
  cases resolver.entries.find? (·.1 == name) with
  | none => simp [eq_comm]
  | some entry =>
    obtain ⟨known, address⟩ := entry
    cases address <;> simp [checkSymbols, eq_comm]

theorem checkSymbols_eq_forM (resolver : Resolver) (names : List String) :
    resolver.checkSymbols names = forM names resolver.checkSymbol := by
  induction names with
  | nil => rfl
  | cons name rest inductionHypothesis =>
    rw [List.forM_cons, ← inductionHypothesis]
    simp only [checkSymbols, checkSymbol]
    cases resolver.resolve name with
    | ok address => cases address <;> rfl
    | error fault => rfl

/-! ### Layouts -/

/-- The check of one layout. -/
def checkLayout (resolver : Resolver) (layout : StructLayout) : Except LinkageError Unit :=
  resolver.checkLayouts [layout]

/-- A declared name can be asked for: none holds a zero character. -/
theorem describeStruct_eq {layout : StructLayout} (declared : layout ∈ StructLayout.declared)
    (resolver : Resolver) :
    resolver.describeStruct layout.name = resolver.describe layout.name := by
  have askable : ∀ layout ∈ StructLayout.declared,
      layout.name.toList.contains '\x00' = false := by decide
  rw [describeStruct, askable layout declared]
  rfl

theorem checkLayout_eq_ok_iff {layout : StructLayout} (declared : layout ∈ StructLayout.declared)
    (resolver : Resolver) : resolver.checkLayout layout = .ok () ↔ resolver.Describes layout := by
  simp only [checkLayout, checkLayouts, describeStruct_eq declared, Describes]
  cases resolver.describe layout.name with
  | none => simp
  | some described => simp [← layout.agrees_iff_fits]

/-- A struct that the library does not know is told from one that it describes differently. -/
theorem checkLayout_eq_error_iff {layout : StructLayout}
    (declared : layout ∈ StructLayout.declared) (resolver : Resolver) (fault : LinkageError) :
    resolver.checkLayout layout = .error fault ↔
      resolver.describe layout.name = none ∧ fault = .unknownLayout layout.name ∨
        ∃ described, resolver.describe layout.name = some described ∧ ¬described.Fits layout ∧
          fault = .layoutMismatch layout.name layout.text described.text := by
  simp only [checkLayout, checkLayouts, describeStruct_eq declared]
  cases resolver.describe layout.name with
  | none => simp [eq_comm]
  | some described =>
    cases agrees : layout.agrees described with
    | true => simp [agrees, (layout.agrees_iff_fits described).mp agrees]
    | false =>
      have differs : ¬described.Fits layout := fun fits => by
        rw [(layout.agrees_iff_fits described).mpr fits] at agrees
        cases agrees
      simp only [agrees, Bool.false_eq_true, if_false, Except.error.injEq]
      constructor
      · rintro rfl
        exact .inr ⟨described, rfl, differs, rfl⟩
      · rintro (⟨unknown, _⟩ | ⟨_, known, _, same⟩)
        · cases unknown
        · cases known
          exact same.symm

theorem checkLayouts_eq_forM (resolver : Resolver) (layouts : List StructLayout) :
    resolver.checkLayouts layouts = forM layouts resolver.checkLayout := by
  induction layouts with
  | nil => rfl
  | cons layout rest inductionHypothesis =>
    rw [List.forM_cons, ← inductionHypothesis]
    simp only [checkLayouts, checkLayout]
    cases resolver.describeStruct layout.name with
    | none => rfl
    | some described =>
      cases agrees : layout.agrees described with
      | true => simp only [agrees, if_true]; rfl
      | false => simp only [agrees, Bool.false_eq_true, if_false]; rfl

end Resolver

/-! ### Asking for a description -/

/-- A library that can be asked for the name writes what it says about the struct, and nothing when
it does not know it. -/
theorem describeAt_encode (describe : String → Option LayoutDescription) {name : String}
    (zeroFree : '\x00' ∉ name.toList) (before : LayoutDescription) :
    describeAt describe (some (Utf8.encode name)) (some before) =
      ((describe name).isSome, some ((describe name).getD before)) := by
  rw [describeAt, Utf8.untilZero_encode_of_notMem zeroFree, Utf8.decode?, Utf8.decode_encode]
  simp only [Except.toOption, Option.bind_some]
  cases describe name <;> rfl

/-- The check goes by what the library has written, where it says that it wrote. -/
theorem Resolver.describeStruct_eq_describeAt (resolver : Resolver) {name : String}
    (zeroFree : '\x00' ∉ name.toList) :
    resolver.describeStruct name =
      let answer := describeAt resolver.describe (some (Utf8.encode name)) (some .blank)
      if answer.1 then answer.2 else none := by
  rw [Resolver.describeStruct, describeAt_encode _ zeroFree, if_neg (by simpa using zeroFree)]
  cases resolver.describe name <;> rfl

/-! ### Readings that can fail -/

/-- The first so many of the described offsets. There is no such reading beyond the room for
them. -/
def LayoutDescription.slice? (described : LayoutDescription) (count : Nat) : Option (List Nat) :=
  if count ≤ maxFields then some (described.offsets.toList.take count) else none

/-- Whether a description says what the host declares, compared number by number up to the first
difference. -/
def StructLayout.compare? (layout : StructLayout) (described : LayoutDescription) : Option Bool :=
  if layout.size ≠ described.size then some false
  else if layout.align ≠ described.align then some false
  else if layout.offsets.length ≠ described.fieldCount then some false
  else if maxFields < described.fieldCount then some false
  else (described.slice? described.fieldCount).map (layout.offsets == ·)

/-- A description in one line. -/
def LayoutDescription.print? (described : LayoutDescription) : Option String :=
  (described.slice? (min described.fieldCount maxFields)).map
    (StructLayout.summary described.size described.align)

theorem LayoutDescription.print?_eq (described : LayoutDescription) :
    described.print? = some described.text := by
  rw [print?, slice?, if_pos (Nat.min_le_right _ _)]
  rfl

theorem StructLayout.compare?_eq (layout : StructLayout) (described : LayoutDescription) :
    layout.compare? described = some (layout.agrees described) := by
  unfold compare? agrees
  by_cases size : layout.size = described.size
  · by_cases align : layout.align = described.align
    · by_cases fieldCount : layout.offsets.length = described.fieldCount
      · by_cases room : described.fieldCount ≤ maxFields
        · simp [size, align, fieldCount, room, LayoutDescription.slice?, Nat.not_lt.mpr room]
        · simp [size, align, fieldCount, room, Nat.lt_of_not_le room]
      · simp [size, align, fieldCount]
    · simp [size, align]
  · simp [size]

namespace Resolver

/-- Every layout of a list must be described as declared. -/
def readLayouts? (resolver : Resolver) : List StructLayout → Option (Except LinkageError Unit)
  | [] => some (.ok ())
  | layout :: rest =>
    match resolver.describeStruct layout.name with
    | none => some (.error (.unknownLayout layout.name))
    | some described => do
      if ← layout.compare? described then readLayouts? resolver rest
      else some (.error (.layoutMismatch layout.name layout.text (← described.print?)))

/-- Accepts a resolver under a fresh number. -/
def read? (resolver : Resolver) (verify : Bool) (id : LibraryId) :
    Option (Except LinkageError NativeLibrary) :=
  match resolver.checkSymbols Symbol.names, resolver.checkAbi with
  | .error fault, _ => some (.error fault)
  | .ok (), .error fault => some (.error fault)
  | .ok (), .ok () =>
    (if verify then resolver.readLayouts? StructLayout.declared else some (.ok ())).map
      fun result => result.map fun _ => ⟨id, resolver.origin, resolver.reportedAbi⟩

theorem readLayouts?_eq (resolver : Resolver) (layouts : List StructLayout) :
    resolver.readLayouts? layouts = some (resolver.checkLayouts layouts) := by
  induction layouts with
  | nil => rfl
  | cons layout rest inductionHypothesis =>
    simp only [readLayouts?, checkLayouts]
    cases resolver.describeStruct layout.name with
    | none => rfl
    | some described =>
      simp only [layout.compare?_eq, described.print?_eq, inductionHypothesis]
      cases layout.agrees described <;> rfl

/-- No description makes the check read beyond the room for offsets. -/
theorem read?_eq (resolver : Resolver) (verify : Bool) (id : LibraryId) :
    resolver.read? verify id = some (resolver.accept verify id) := by
  unfold read? accept check
  rw [readLayouts?_eq]
  cases resolver.checkSymbols Symbol.names with
  | error fault => rfl
  | ok =>
    cases resolver.checkAbi with
    | error fault => rfl
    | ok =>
      cases verify with
      | false => rfl
      | true => cases resolver.checkLayouts StructLayout.declared <;> rfl

/-! ### The three parts of the check -/

theorem checkSymbols_eq_ok_iff (resolver : Resolver) :
    resolver.checkSymbols Symbol.names = .ok () ↔ ∀ name ∈ Symbol.names, resolver.Exports name := by
  simp only [checkSymbols_eq_forM, forM_eq_ok_iff, checkSymbol_eq_ok_iff]

theorem checkSymbols_eq_error_iff (resolver : Resolver) (fault : LinkageError) :
    resolver.checkSymbols Symbol.names = .error fault ↔
      ∃ earlier name later, Symbol.names = earlier ++ name :: later ∧
        (∀ other ∈ earlier, resolver.Exports other) ∧ ¬resolver.Exports name ∧
          fault = .missingSymbol name := by
  simp only [checkSymbols_eq_forM, forM_eq_error_iff, checkSymbol_eq_ok_iff,
    checkSymbol_eq_error_iff]

theorem checkAbi_eq_ok_iff (resolver : Resolver) :
    resolver.checkAbi = .ok () ↔ resolver.reportedAbi = abiVersion := by
  unfold checkAbi
  split <;> simp [*]

theorem checkAbi_eq_error_iff (resolver : Resolver) (fault : LinkageError) :
    resolver.checkAbi = .error fault ↔ resolver.reportedAbi ≠ abiVersion ∧
      fault = .abiVersion abiVersion resolver.reportedAbi := by
  unfold checkAbi
  split
  · simp [*]
  · rename_i other
    exact ⟨fun failed => ⟨other, (Except.error.inj failed).symm⟩, fun both => both.2 ▸ rfl⟩

theorem checkLayouts_eq_ok_iff (resolver : Resolver) :
    resolver.checkLayouts StructLayout.declared = .ok () ↔
      ∀ layout ∈ StructLayout.declared, resolver.Describes layout := by
  rw [checkLayouts_eq_forM, forM_eq_ok_iff]
  exact forall₂_congr fun layout declared => checkLayout_eq_ok_iff declared resolver

/-- The first layout that is not described as declared is unknown to the library, or described in
another way. -/
theorem checkLayouts_eq_error_iff (resolver : Resolver) (fault : LinkageError) :
    resolver.checkLayouts StructLayout.declared = .error fault ↔
      ∃ earlier layout later, StructLayout.declared = earlier ++ layout :: later ∧
        (∀ other ∈ earlier, resolver.Describes other) ∧
          (resolver.describe layout.name = none ∧ fault = .unknownLayout layout.name ∨
            ∃ described, resolver.describe layout.name = some described ∧
              ¬described.Fits layout ∧
                fault = .layoutMismatch layout.name layout.text described.text) := by
  rw [checkLayouts_eq_forM, forM_eq_error_iff]
  refine exists₃_congr fun earlier layout later => and_congr_right fun order => ?_
  have declared : layout ∈ StructLayout.declared := by simp [order]
  refine and_congr (forall₂_congr fun other member => ?_)
    (checkLayout_eq_error_iff declared resolver fault)
  exact checkLayout_eq_ok_iff (by simp [order, member]) resolver

/-! ### What is accepted -/

/-- The parts of the check come one after the other, the last one only where it is asked for. -/
theorem check_cases (resolver : Resolver) (verify : Bool) (result : Except LinkageError Unit) :
    resolver.check verify = result ↔
      (∃ fault, resolver.checkSymbols Symbol.names = .error fault ∧ result = .error fault) ∨
        resolver.checkSymbols Symbol.names = .ok () ∧
          ((∃ fault, resolver.checkAbi = .error fault ∧ result = .error fault) ∨
            resolver.checkAbi = .ok () ∧
              ((verify = false ∧ result = .ok ()) ∨
                verify = true ∧ resolver.checkLayouts StructLayout.declared = result)) := by
  unfold check
  cases resolver.checkSymbols Symbol.names with
  | error fault => simp [bind, Except.bind, eq_comm]
  | ok =>
    cases resolver.checkAbi with
    | error fault => simp [bind, Except.bind, eq_comm]
    | ok => cases verify <;> simp [bind, Except.bind, pure, Except.pure, eq_comm]

theorem check_eq_ok_iff (resolver : Resolver) (verify : Bool) :
    resolver.check verify = .ok () ↔ resolver.Compatible verify := by
  rw [check_cases, checkSymbols_eq_ok_iff, checkAbi_eq_ok_iff, checkLayouts_eq_ok_iff]
  constructor
  · rintro (⟨_, _, failed⟩ | ⟨symbols, ⟨_, _, failed⟩ | ⟨abi, ⟨skipped, _⟩ | ⟨_, layouts⟩⟩⟩)
    · cases failed
    · cases failed
    · exact ⟨symbols, abi, fun asked => by rw [skipped] at asked; cases asked⟩
    · exact ⟨symbols, abi, fun _ => layouts⟩
  · rintro ⟨symbols, abi, layouts⟩
    cases verify with
    | false => exact .inr ⟨symbols, .inr ⟨abi, .inl ⟨rfl, rfl⟩⟩⟩
    | true => exact .inr ⟨symbols, .inr ⟨abi, .inr ⟨rfl, layouts rfl⟩⟩⟩

theorem check_eq_error_iff (resolver : Resolver) (verify : Bool) (fault : LinkageError) :
    resolver.check verify = .error fault ↔ resolver.FirstFault verify fault := by
  rw [check_cases, checkSymbols_eq_ok_iff, checkAbi_eq_ok_iff, checkLayouts_eq_error_iff]
  constructor
  · rintro (⟨_, failed, same⟩ | ⟨symbols, ⟨_, failed, same⟩ | ⟨abi, ⟨_, passed⟩ | ⟨asked, failed⟩⟩⟩)
    · cases same
      obtain ⟨earlier, name, later, order, exported, missing, rfl⟩ :=
        (resolver.checkSymbols_eq_error_iff fault).mp failed
      exact .symbol earlier later name order exported missing
    · cases same
      obtain ⟨other, rfl⟩ := (resolver.checkAbi_eq_error_iff fault).mp failed
      exact .abi symbols other
    · cases passed
    · obtain ⟨earlier, layout, later, order, agreed, finding⟩ := failed
      rcases finding with ⟨unknown, rfl⟩ | ⟨described, known, differs, rfl⟩
      · exact .unknown symbols abi asked earlier later layout order agreed unknown
      · exact .mismatch symbols abi asked earlier later layout described order agreed known differs
  · intro first
    cases first with
    | symbol earlier later name order exported missing =>
      refine .inl ⟨_, (resolver.checkSymbols_eq_error_iff _).mpr ?_, rfl⟩
      exact ⟨earlier, name, later, order, exported, missing, rfl⟩
    | abi symbols other =>
      exact .inr ⟨symbols, .inl ⟨_, (resolver.checkAbi_eq_error_iff _).mpr ⟨other, rfl⟩, rfl⟩⟩
    | unknown symbols abi asked earlier later layout order agreed unknown =>
      exact .inr ⟨symbols, .inr ⟨abi, .inr ⟨asked, earlier, layout, later, order, agreed,
        .inl ⟨unknown, rfl⟩⟩⟩⟩
    | mismatch symbols abi asked earlier later layout described order agreed known differs =>
      exact .inr ⟨symbols, .inr ⟨abi, .inr ⟨asked, earlier, layout, later, order, agreed,
        .inr ⟨described, known, differs, rfl⟩⟩⟩⟩

/-- Which libraries are accepted. A library is accepted exactly if it is compatible, with the
version that the host expects. Otherwise the first of its faults is reported, and nothing else.
Whatever it says about its structs, the check reads no further than the room for offsets. -/
theorem accepts_exactly_compatible (resolver : Resolver) (verify : Bool) (id : LibraryId) :
    (∀ library, resolver.accept verify id = .ok library ↔
        resolver.Compatible verify ∧ library = ⟨id, resolver.origin, abiVersion⟩) ∧
      (∀ fault, resolver.accept verify id = .error fault ↔ resolver.FirstFault verify fault) ∧
        resolver.read? verify id = some (resolver.accept verify id) := by
  refine ⟨fun library => ?_, fun fault => ?_, resolver.read?_eq verify id⟩
  · rw [← check_eq_ok_iff]
    unfold accept
    cases checked : resolver.check verify with
    | error fault => simp [bind, Except.bind]
    | ok =>
      have abi := ((resolver.check_eq_ok_iff verify).mp checked).abi
      simp [bind, Except.bind, pure, Except.pure, abi, eq_comm]
  · rw [← check_eq_error_iff]
    unfold accept
    cases resolver.check verify with
    | error found => simp [bind, Except.bind]
    | ok => exact ⟨nofun, nofun⟩

/-! ### A library that is laid out as declared -/

theorem describeDeclared_fits {layout : StructLayout} (declared : layout ∈ StructLayout.declared) :
    ∃ described, describeDeclared layout.name = some described ∧ described.Fits layout := by
  have found : ∀ layout ∈ StructLayout.declared,
      StructLayout.find? layout.name = some layout ∧ layout.offsets.length ≤ maxFields := by
    decide
  obtain ⟨found, room⟩ := found layout declared
  refine ⟨.ofLayout layout, by rw [describeDeclared, found]; rfl, rfl, rfl, rfl, ?_⟩
  intro index offset known
  obtain ⟨inside, same⟩ := List.getElem?_eq_some_iff.mp known
  have bound : index < 8 := Nat.lt_of_lt_of_le inside room
  rw [List.getElem?_eq_getElem (by simpa using bound)]
  simp [LayoutDescription.ofLayout, same, inside]

/-- The library that exports every symbol and is laid out as declared is accepted. -/
theorem complete_compatible (origin : String) (verify : Bool) :
    (complete origin).Compatible verify := by
  refine ⟨fun name member => ?_, rfl, fun _ layout declared => describeDeclared_fits declared⟩
  unfold Exports resolve
  cases found : (complete origin).entries.find? (·.1 == name) with
  | none =>
    have absent := List.find?_eq_none.mp found (name, .function)
      (List.mem_map.mpr ⟨name, member, rfl⟩)
    simp at absent
  | some entry =>
    obtain ⟨known, _, rfl⟩ := List.mem_map.mp (List.mem_of_find?_eq_some found)
    rfl

end Resolver

end WalletBridge
