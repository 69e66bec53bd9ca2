import Salsify.Codec.DecoderState

namespace Salsify.Codec

open Grid (flatten_ofFn_inj length_flatten_ofFn)

/-! The values that the hash functions of `decoder/decoder.cc` and
`decoder/probability_tables.cc` feed into `boost::hash_combine` and
`boost::hash_range`. -/

/-- A hash is named by what was fed into it. -/
inductive HashInput
  | value (value : Int)
  | hash (inputs : List HashInput)

namespace HashInput

def bytes (values : List UInt8) : List HashInput :=
  values.map fun byte => .value byte.toNat

def signedBytes (values : List Int8) : List HashInput :=
  values.map fun byte => .value byte.toInt

theorem bytes_inj {one other : List UInt8} :
    bytes one = bytes other ↔ one = other := by
  apply (List.map_injective_iff.mpr ?_).eq_iff
  intro byte byte' h
  exact UInt8.toNat_inj.mp (Int.ofNat.inj (HashInput.value.inj h))

theorem signedBytes_inj {one other : List Int8} :
    signedBytes one = signedBytes other ↔ one = other := by
  apply (List.map_injective_iff.mpr ?_).eq_iff
  intro byte byte' h
  exact Int8.toInt_inj.mp (HashInput.value.inj h)

end HashInput

/-- The coefficient probabilities in the order of the loops over them. -/
def ProbabilityTables.coeffList (tables : ProbabilityTables) : List UInt8 :=
  (List.ofFn fun i => (List.ofFn fun j => (List.ofFn fun k =>
    List.ofFn (tables.coeffProbs i j k)).flatten).flatten).flatten

def ProbabilityTables.hash (tables : ProbabilityTables) : List HashInput :=
  HashInput.bytes tables.coeffList ++
    HashInput.bytes (List.ofFn tables.yModeProbs) ++
    HashInput.bytes (List.ofFn tables.uvModeProbs) ++
    HashInput.bytes (List.ofFn fun i =>
      List.ofFn (tables.motionVectorProbs i)).flatten

namespace FilterAdjustments

/-- The two arrays, one after the other as the object holds them. -/
def storage (adjustments : FilterAdjustments) : List Int8 :=
  List.ofFn adjustments.loopfilterRefAdjustments ++
    List.ofFn adjustments.loopfilterModeAdjustments

def range (adjustments : FilterAdjustments) (first last : Nat) : List Int8 :=
  (adjustments.storage.take last).drop first

def refBegin : Nat := 0
def refEnd : Nat := 4
def modeBegin : Nat := 4

/-- The second range goes from the start of the mode adjustments to the end of
the reference adjustments. -/
def hash (adjustments : FilterAdjustments) : List HashInput :=
  HashInput.signedBytes (adjustments.range refBegin refEnd) ++
    HashInput.signedBytes (adjustments.range modeBegin refEnd)

end FilterAdjustments

variable {width height : Nat}

def Segmentation.hash (segmentation : Segmentation width height) :
    List HashInput :=
  .value segmentation.absoluteSegmentAdjustments.toNat ::
    HashInput.signedBytes (List.ofFn segmentation.segmentQuantizerAdjustments) ++
    HashInput.signedBytes (List.ofFn segmentation.segmentFilterAdjustments) ++
    HashInput.bytes segmentation.map.toList

def DecoderState.hash (state : DecoderState width height) : List HashInput :=
  [.value width, .value height, .hash state.probabilityTables.hash] ++
    (state.segmentation.map fun segmentation =>
      HashInput.hash segmentation.hash).toList ++
    (state.filterAdjustments.map fun adjustments =>
      HashInput.hash adjustments.hash).toList

theorem bytes_append_inj {one other : List UInt8} {rest rest' : List HashInput}
    (hlength : one.length = other.length) :
    HashInput.bytes one ++ rest = HashInput.bytes other ++ rest' ↔
      one = other ∧ rest = rest' := by
  constructor
  · intro h
    obtain ⟨hone, hrest⟩ := List.append_inj h
      (by simpa [HashInput.bytes] using hlength)
    exact ⟨HashInput.bytes_inj.mp hone, hrest⟩
  · rintro ⟨rfl, rfl⟩
    rfl

theorem signedBytes_append_inj {one other : List Int8}
    {rest rest' : List HashInput} (hlength : one.length = other.length) :
    HashInput.signedBytes one ++ rest = HashInput.signedBytes other ++ rest' ↔
      one = other ∧ rest = rest' := by
  constructor
  · intro h
    obtain ⟨hone, hrest⟩ := List.append_inj h
      (by simpa [HashInput.signedBytes] using hlength)
    exact ⟨HashInput.signedBytes_inj.mp hone, hrest⟩
  · rintro ⟨rfl, rfl⟩
    rfl

namespace ProbabilityTables

theorem coeffList_pieces (probs : SafeArray (SafeArray (SafeArray UInt8 11) 3) 8) :
    (∀ j, (List.ofFn fun k => List.ofFn (probs j k)).flatten.length = 3 * 11) ∧
      (List.ofFn fun j => (List.ofFn fun k =>
        List.ofFn (probs j k)).flatten).flatten.length = 8 * (3 * 11) := by
  have hcontexts (j : Fin 8) :
      (List.ofFn fun k => List.ofFn (probs j k)).flatten.length = 3 * 11 :=
    length_flatten_ofFn fun _ => List.length_ofFn
  exact ⟨hcontexts, length_flatten_ofFn hcontexts⟩

theorem coeffList_length (tables : ProbabilityTables) :
    tables.coeffList.length = 4 * (8 * (3 * 11)) :=
  length_flatten_ofFn fun i => (coeffList_pieces (tables.coeffProbs i)).2

theorem coeffList_inj {one other : ProbabilityTables} :
    one.coeffList = other.coeffList ↔ one.coeffProbs = other.coeffProbs := by
  constructor
  · intro h
    funext i j k
    have hi := congrFun ((flatten_ofFn_inj
      (fun i => (coeffList_pieces (one.coeffProbs i)).2)
      (fun i => (coeffList_pieces (other.coeffProbs i)).2)).mp h) i
    have hj := congrFun ((flatten_ofFn_inj
      (coeffList_pieces (one.coeffProbs i)).1
      (coeffList_pieces (other.coeffProbs i)).1).mp hi) j
    have hk := congrFun ((flatten_ofFn_inj (fun _ => List.length_ofFn)
      (fun _ => List.length_ofFn)).mp hj) k
    exact List.ofFn_injective hk
  · intro h
    rw [coeffList, coeffList, h]

theorem hash_inj {one other : ProbabilityTables} :
    one.hash = other.hash ↔ one = other := by
  refine ⟨fun h => ?_, fun h => by rw [h]⟩
  unfold ProbabilityTables.hash at h
  rw [List.append_assoc, List.append_assoc, List.append_assoc,
    List.append_assoc,
    bytes_append_inj (by rw [coeffList_length, coeffList_length]),
    bytes_append_inj (by simp), bytes_append_inj (by simp),
    HashInput.bytes_inj, coeffList_inj, List.ofFn_inj, List.ofFn_inj,
    flatten_ofFn_inj (fun _ => List.length_ofFn)
      (fun _ => List.length_ofFn)] at h
  obtain ⟨hcoeff, hy, huv, hmv⟩ := h
  cases one
  cases other
  simp only [ProbabilityTables.mk.injEq]
  refine ⟨hcoeff, hy, huv, funext fun i => ?_⟩
  exact List.ofFn_injective (congrFun hmv i)

end ProbabilityTables

theorem toNat_inj {one other : Bool} (h : one.toNat = other.toNat) :
    one = other := by
  cases one <;> cases other <;> first | rfl | cases h

theorem Segmentation.hash_inj {one other : Segmentation width height} :
    one.hash = other.hash ↔ one = other := by
  refine ⟨fun h => ?_, fun h => by rw [h]⟩
  unfold Segmentation.hash at h
  rw [List.append_assoc, List.append_assoc, List.cons_append, List.cons_append,
    List.cons.injEq, signedBytes_append_inj (by simp),
    signedBytes_append_inj (by simp), HashInput.bytes_inj, Grid.toList_inj,
    List.ofFn_inj, List.ofFn_inj] at h
  obtain ⟨habsolute, hquantizer, hfilter, hmap⟩ := h
  cases one
  cases other
  simp only [Segmentation.mk.injEq]
  refine ⟨?_, hquantizer, hfilter, hmap⟩
  exact toNat_inj (Int.ofNat.inj (HashInput.value.inj habsolute))

theorem FilterAdjustments.hash_eq (adjustments : FilterAdjustments) :
    adjustments.hash = HashInput.signedBytes
      (List.ofFn adjustments.loopfilterRefAdjustments) := by
  have href : adjustments.range refBegin refEnd =
      List.ofFn adjustments.loopfilterRefAdjustments := by
    rw [range, storage, refBegin, List.drop_zero]
    exact List.take_left' List.length_ofFn
  have hmode : adjustments.range modeBegin refEnd = [] := by
    rw [range, List.drop_eq_nil_iff, List.length_take]
    exact Nat.min_le_left _ _
  rw [hash, href, hmode]
  exact List.append_nil _

namespace DecoderState

structure SameUpToModeAdjustments (one other : DecoderState width height) :
    Prop where
  probabilityTables : one.probabilityTables = other.probabilityTables
  segmentation : one.segmentation = other.segmentation
  refAdjustments :
    one.filterAdjustments.map FilterAdjustments.loopfilterRefAdjustments =
      other.filterAdjustments.map FilterAdjustments.loopfilterRefAdjustments

theorem adjustments_toList_eq_iff {one other : Option FilterAdjustments} :
    (one.map fun adjustments => HashInput.hash adjustments.hash).toList =
        (other.map fun adjustments => HashInput.hash adjustments.hash).toList ↔
      one.map FilterAdjustments.loopfilterRefAdjustments =
        other.map FilterAdjustments.loopfilterRefAdjustments := by
  cases one with
  | none =>
      cases other with
      | none => simp
      | some adjustments => simp
  | some adjustments =>
      cases other with
      | none => simp
      | some adjustments' =>
          simp only [Option.map_some, Option.toList_some, List.cons.injEq,
            and_true, HashInput.hash.injEq, FilterAdjustments.hash_eq,
            HashInput.signedBytes_inj, List.ofFn_inj, Option.some.injEq]

/-- The hash of a segmentation is no hash of filter adjustments, which is fed
four values. -/
theorem segmentation_hash_ne (segmentation : Segmentation width height)
    (adjustments : FilterAdjustments) :
    segmentation.hash ≠ adjustments.hash := by
  intro h
  have hlength := congrArg List.length h
  rw [FilterAdjustments.hash_eq] at hlength
  simp only [Segmentation.hash, HashInput.signedBytes, HashInput.bytes,
    List.length_append, List.length_cons, List.length_map,
    List.length_ofFn] at hlength
  omega

theorem optionalHashes_eq_iff
    {one other : Option (Segmentation width height)}
    {adjustments adjustments' : Option FilterAdjustments} :
    (one.map fun segmentation => HashInput.hash segmentation.hash).toList ++
          (adjustments.map fun found => HashInput.hash found.hash).toList =
        (other.map fun segmentation => HashInput.hash segmentation.hash).toList ++
          (adjustments'.map fun found => HashInput.hash found.hash).toList ↔
      one = other ∧
        adjustments.map FilterAdjustments.loopfilterRefAdjustments =
          adjustments'.map FilterAdjustments.loopfilterRefAdjustments := by
  rw [← adjustments_toList_eq_iff]
  cases one with
  | none =>
      cases other with
      | none => simp
      | some segmentation =>
          cases adjustments with
          | none => simp
          | some found =>
              simp only [Option.map_none, Option.map_some, Option.toList_none,
                Option.toList_some, List.nil_append, List.cons_append,
                List.cons.injEq, HashInput.hash.injEq, reduceCtorEq,
                false_and, iff_false, not_and]
              intro h
              exact absurd h.symm (segmentation_hash_ne segmentation found)
  | some segmentation =>
      cases other with
      | none =>
          cases adjustments' with
          | none => simp
          | some found =>
              simp only [Option.map_none, Option.map_some, Option.toList_none,
                Option.toList_some, List.nil_append, List.cons_append,
                List.cons.injEq, HashInput.hash.injEq, reduceCtorEq,
                false_and, iff_false, not_and]
              intro h
              exact absurd h (segmentation_hash_ne segmentation found)
      | some segmentation' =>
          simp [Segmentation.hash_inj]

theorem hash_eq_iff {one other : DecoderState width height} :
    one.hash = other.hash ↔ SameUpToModeAdjustments one other := by
  unfold DecoderState.hash
  rw [List.append_assoc, List.append_assoc]
  simp only [List.cons_append, List.nil_append, List.cons.injEq, true_and,
    HashInput.hash.injEq, ProbabilityTables.hash_inj, optionalHashes_eq_iff]
  exact ⟨fun h => ⟨h.1, h.2.1, h.2.2⟩,
    fun h => ⟨h.probabilityTables, h.segmentation, h.refAdjustments⟩⟩

/-- Two states feed different values exactly when they differ in something
else than mode adjustments. -/
theorem hash_separates_iff (one other : DecoderState width height) :
    (one ≠ other → one.hash ≠ other.hash) ↔
      (SameUpToModeAdjustments one other → one = other) := by
  rw [← hash_eq_iff]
  constructor
  · intro h heq
    by_contra hne
    exact h hne heq
  · intro h hne heq
    exact hne (h heq)

/-- A state whose filter adjustments favour one prediction mode. -/
def withModeAdjustments : DecoderState 16 16 where
  filterAdjustments := some { loopfilterModeAdjustments := ![4, 0, 0, 0] }

def withZeroAdjustments : DecoderState 16 16 where
  filterAdjustments := some {}

theorem modeAdjustments_not_hashed :
    ¬ (withModeAdjustments ≠ withZeroAdjustments →
      withModeAdjustments.hash ≠ withZeroAdjustments.hash) := by
  intro h
  have hne : withModeAdjustments ≠ withZeroAdjustments := by
    intro heq
    have hadjustments := congrArg DecoderState.filterAdjustments heq
    have hmode := congrFun (congrArg
      FilterAdjustments.loopfilterModeAdjustments
      (Option.some.inj hadjustments)) 0
    exact absurd hmode (by decide)
  exact h hne (hash_eq_iff.mpr ⟨rfl, rfl, rfl⟩)

end DecoderState

end Salsify.Codec
