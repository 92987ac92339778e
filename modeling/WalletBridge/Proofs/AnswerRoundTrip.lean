/-
This file proves that the host reads an answer of the native library as what the entry point's body
ended with. A value goes to the conversion, once, and what the conversion makes of it is the
outcome. An error comes back with its code and with its message, in which only zero characters are
replaced, and a panic comes back as an error with a code of its own; the conversion is not asked
then. On every path the release of the transit struct gives back what the answer itself allocated,
so that the memory's count moves by what the body and the conversion keep.

The two sides are written down apart from each other: the native side builds the answer, and the
host takes it to pieces. What joins them is that octets without a zero spell the same text on both
sides, and that the host's table has a row for every code of the native side.
-/

import WalletBridge.Host.Basic
import WalletBridge.Proofs.Utf8RoundTrip

namespace WalletBridge

variable {engine : WalletEngine} {Outside Content : Type} {payload : Payload}

/-! ### Codes -/

namespace NativeFault

/-- The codes of the native side. -/
def codes : List String :=
  ["NullArgument", "Utf8", "InvalidPath", "InvalidNetwork", "InvalidIndex", "Address",
   "AddressNetwork", "FeeRate", "Persist", "Descriptor", "LoadMismatch", "Electrum",
   "CannotConnect", "Signer", "InsufficientFunds", "NoRecipients", "NoUtxosSelected",
   "OutputBelowDustLimit", "FeeTooLow", "FeeRateTooLow", "UnknownUtxo", "Psbt", "Generic",
   "PsbtParse", "Panic"]

theorem code_mem_codes (fault : NativeFault) : fault.code ∈ codes := by
  cases fault with
  | load failure => cases failure <;> simp [code, LoadFailure.code, codes]
  | create failure => cases failure <;> simp [code, CreateFailure.code, codes]
  | build failure => cases failure <;> simp [code, BuildFailure.code, codes]
  | _ => simp [code, codes]

/-- A code crosses the boundary as it is. -/
theorem withoutZeros_code (fault : NativeFault) : Utf8.withoutZeros fault.code = fault.code := by
  have verbatim : ∀ code ∈ codes, Utf8.withoutZeros code = code := by decide
  exact verbatim _ fault.code_mem_codes

/-- The host has a row for every code of the native side, and none of these rows is of a kind that
ends the use of the library or of an object. -/
theorem classify_code (fault : NativeFault) :
    Taxonomy.classify fault.code ≠ .unknown ∧
      (Taxonomy.classify fault.code).isFatal = false := by
  have ordinary : ∀ code ∈ codes,
      Taxonomy.classify code ≠ .unknown ∧ (Taxonomy.classify code).isFatal = false := by decide
  exact ordinary _ fault.code_mem_codes

end NativeFault

/-- What the host reads out of the error that an answer carries. -/
theorem readError_rawError (fault : NativeFault) :
    readError (Body.rawError fault) = .native fault.code (Utf8.withoutZeros fault.message) := by
  rw [readError, Body.rawError, copyLossy_ownedOctets, copyLossy_ownedOctets,
    fault.withoutZeros_code]

/-! ### The memory's count -/

namespace NativeHeap

/-- The memory with its count moved. -/
def counted (heap : NativeHeap engine) (change : Int) : NativeHeap engine :=
  { heap with live := heap.live + change }

theorem counted_counted (heap : NativeHeap engine) (first second : Int) :
    (heap.counted first).counted second = heap.counted (first + second) := by
  rw [counted, counted, counted, Int.add_assoc]

theorem counted_zero (heap : NativeHeap engine) : heap.counted 0 = heap := by
  rw [counted, Int.add_zero]

/-- How many more allocations are counted in a later memory. -/
def growth (earlier later : NativeHeap engine) : Int := later.live - earlier.live

/-- Giving a transit struct back takes it and its error out of the count, and does nothing else. -/
theorem release_transit (heap : NativeHeap engine) (error : Option RawError) :
    heap.release (.transit payload error) = heap.counted (-(1 + errorAllocations error : Nat)) := by
  rw [counted, ← Int.sub_eq_add_neg]
  rfl

/-- An answer with an error is four allocations, and giving it back takes all four. -/
theorem release_refused (payload : Payload) (heap : NativeHeap engine) (fault : NativeFault) :
    (heap.counted 4).release (.transit payload (some (Body.rawError fault))) = heap := by
  rw [release_transit, counted_counted]
  exact heap.counted_zero

end NativeHeap

/-! ### Reading the answer of a body -/

namespace Body

/-- Does a body and reads its answer as the host does. Beside the memory there is whatever else the
process consists of. -/
def read (operation : String) (body : Body engine payload.Raw)
    (convert : payload.Raw → Run (NativeHeap engine × Outside) Content) :
    Run (NativeHeap engine × Outside) Content := fun (heap, outside) =>
  let (reply, answered) := body.respond heap
  decodeWith operation (reply.map fun transit => (transit.value, transit.error))
    (fun (heap, outside) => (heap.release (.transit payload (reply.bind (·.error))), outside))
    convert (answered, outside)

/-- A conversion that writes down, beside what it does, what it was given. -/
def noting {Raw : Type} (convert : Raw → Run (NativeHeap engine × Outside) Content) :
    Raw → Run (NativeHeap engine × List Raw × Outside) Content :=
  fun raw (heap, given, outside) =>
    let (outcome, after, outsideAfter) := convert raw (heap, outside)
    (outcome, after, given ++ [raw], outsideAfter)

/-- What a conversion adds to the memory's count, after a body has answered with a value. -/
def conversionGrowth (body : Body engine payload.Raw)
    (convert : payload.Raw → Run (NativeHeap engine × Outside) Content)
    (heap : NativeHeap engine) (outside : Outside) : Int :=
  match body heap with
  | (.value value, after) =>
    (after.counted 1).growth (convert value (after.counted 1, outside)).2.1
  | _ => 0

/-- What the reading of a body's answer comes to, in terms of the body and the conversion alone. -/
def reading (body : Body engine payload.Raw)
    (convert : payload.Raw → Run (NativeHeap engine × Outside) Content)
    (heap : NativeHeap engine) (outside : Outside) :
    Outcome Content × NativeHeap engine × List payload.Raw × Outside :=
  match body heap with
  | (.value value, after) =>
    let (outcome, converted, outsideAfter) := convert value (after.counted 1, outside)
    (outcome, converted.counted (-1), [value], outsideAfter)
  | (.refused fault, after) =>
    (.failure (.native fault.code (Utf8.withoutZeros fault.message)), after, [], outside)
  | (.panicked text, after) =>
    (.failure (.native "Panic" (Utf8.withoutZeros (text.getD "unknown panic"))), after, [], outside)

/-- The answer of a body that ended without a value is read as its error, and is given back. -/
theorem read_refuse (operation : String) {body : Body engine payload.Raw}
    (convert : payload.Raw → Run (NativeHeap engine × Outside) Content)
    {heap after : NativeHeap engine} {fault : NativeFault}
    (refused : body.respond heap = refuse fault after) (outside : Outside) :
    body.read operation convert (heap, outside) =
      (.failure (.native fault.code (Utf8.withoutZeros fault.message)), after, outside) := by
  have freed := after.release_refused payload fault
  simp only [read, refused]
  show ((Outcome.failure (readError (rawError fault)) : Outcome Content),
    NativeHeap.release (after.counted 4) (.transit payload (some (rawError fault))), outside) = _
  rw [readError_rawError, freed]

/-- Reading the answer of a body comes to what the body and the conversion come to. -/
theorem read_noting (operation : String) (body : Body engine payload.Raw)
    (convert : payload.Raw → Run (NativeHeap engine × Outside) Content)
    (heap : NativeHeap engine) (outside : Outside) :
    body.read operation (noting convert) (heap, [], outside) =
      body.reading convert heap outside := by
  rcases ended : body heap with ⟨attempt, after⟩
  cases attempt with
  | value value =>
    have answer : body.respond heap = (some ⟨value, none⟩, after.counted 1) := by
      rw [respond, ended]
      rfl
    -- The transit struct is still counted while the conversion runs, and taken out after it.
    rw [reading, ended, read, answer]
    rfl
  | refused fault =>
    have answer : body.respond heap = refuse fault after := by rw [respond, ended]
    rw [reading, ended]
    exact read_refuse operation (noting convert) answer ([], outside)
  | panicked text =>
    have answer : body.respond heap = refuse (.panicked text) after := by rw [respond, ended]
    rw [reading, ended]
    exact read_refuse operation (noting convert) answer ([], outside)

/-- Beside what the body and the conversion added to the count, reading leaves nothing in it. -/
theorem growth_reading (body : Body engine payload.Raw)
    (convert : payload.Raw → Run (NativeHeap engine × Outside) Content)
    (heap : NativeHeap engine) (outside : Outside) :
    heap.growth (body.reading convert heap outside).2.1 =
      heap.growth (body heap).2 + body.conversionGrowth convert heap outside := by
  rw [reading, conversionGrowth]
  rcases body heap with ⟨attempt, after⟩
  cases attempt with
  | value value =>
    simp only
    rcases convert value (after.counted 1, outside) with ⟨outcome, converted, outsideAfter⟩
    simp only [NativeHeap.growth, NativeHeap.counted]
    omega
  | refused fault => exact (Int.add_zero _).symm
  | panicked text => exact (Int.add_zero _).symm

/-- The host reads an answer as what the body ended with: the value through the conversion, which is
asked once, or the error, for which the conversion is not asked. The count of live allocations
moves by what the body and the conversion added to it, and by nothing else. Every code that an
entry point answers with is of a kind that the host knows and that is not fatal. -/
theorem read_inverts_respond (operation : String) (body : Body engine payload.Raw)
    (convert : payload.Raw → Run (NativeHeap engine × Outside) Content)
    (heap : NativeHeap engine) (outside : Outside) :
    body.read operation (noting convert) (heap, [], outside) =
        body.reading convert heap outside ∧
      heap.growth (body.read operation (noting convert) (heap, [], outside)).2.1 =
        heap.growth (body heap).2 + body.conversionGrowth convert heap outside ∧
      ∀ (fault : NativeFault) (message : String),
        let error := BridgeError.native fault.code message
        error.kind = Taxonomy.classify fault.code ∧ error.kind ≠ .unknown ∧
          error.isFatal = false := by
  have same := read_noting operation body convert heap outside
  refine ⟨same, ?_, fun fault message => ⟨rfl, fault.classify_code⟩⟩
  rw [same]
  exact growth_reading body convert heap outside

end Body

end WalletBridge
