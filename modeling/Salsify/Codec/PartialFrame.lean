import Salsify.Codec.FrameContainer
import Salsify.Codec.MacroblockPlaces
import Salsify.Codec.ParserTotality
import Salsify.Codec.Reconstruction
import Salsify.Coder.Exhausted

namespace Salsify.Codec

open Salsify.Coder (Probability BoolDecoder)
open Salsify.Net (Chunk Failure slice_eq_ok_iff sliceFrom_eq_ok_iff)
open BitParser (Completes run_bind)
open Fallible (bind_eq_ok ok_bind)

/-! Decoding the bytes that have come of a frame, with error concealment on. -/

theorem MbMode.intraPredict_ok {mode : MbMode} (h : mode.isWhole = true) :
    mode.intraPredict = .ok () := by
  cases mode with
  | dcPred => rfl
  | vPred => rfl
  | hPred => rfl
  | tmPred => rfl
  | _ => cases h

theorem BMode.intraPredict_ok {mode : BMode} (h : mode.isIntra = true) :
    mode.intraPredict = .ok () := by
  cases mode with
  | left4x4 => cases h
  | above4x4 => cases h
  | zero4x4 => cases h
  | new4x4 => cases h
  | _ => rfl

theorem Macroblock.reconstructIntra_ok {Header : Type} {mb : Macroblock Header}
    (h : IntraModes mb) : mb.reconstructIntra = .ok () := by
  unfold Macroblock.reconstructIntra
  rw [Macroblock.uvPredictionMode, MbMode.intraPredict_ok h.chroma, ok_bind,
    ok_bind]
  split
  · exact Fallible.forM_ok subblocks fun place _ =>
      BMode.intraPredict_ok (h.subblocks place.1 place.2)
  · next hwhole =>
    apply MbMode.intraPredict_ok
    rw [MbMode.isWhole, h.luma, Bool.true_and]
    exact decide_eq_true hwhole

theorem InterFrameMacroblock.Predictable.reconstruct
    {mb : InterFrameMacroblock} (h : Predictable mb) :
    reconstruct mb = .ok () := by
  unfold InterFrameMacroblock.reconstruct
  split
  · next hinter =>
    obtain ⟨reference, hreference, hother⟩ := h.inter hinter
    rw [reconstructInter, hreference]
    cases reference with
    | currentFrame => exact absurd rfl hother
    | lastFrame => rfl
    | goldenFrame => rfl
    | altrefFrame => rfl
  · next hintra =>
    exact Macroblock.reconstructIntra_ok
      (h.intra (Bool.not_eq_true _ ▸ hintra))

theorem Frame.loopfilter_ok {FrameHeader MacroblockHeader : Type}
    (loopFilterLevel : UInt8) (levels : Nat × Nat → Int)
    (frame : Frame FrameHeader MacroblockHeader) :
    frame.loopfilter loopFilterLevel false levels = .ok () := by
  unfold Frame.loopfilter
  split
  · refine Fallible.forM_ok frame.macroblocks fun mb _ => ?_
    unfold Macroblock.loopfilter
    split <;> rfl
  · rfl

theorem intraModes_of_modes {Header : Type} {mb other : Macroblock Header}
    (h : mb.modes = other.modes) (hmodes : IntraModes mb) :
    IntraModes other := by
  obtain ⟨-, h⟩ := Prod.mk.inj h
  obtain ⟨hluma, h⟩ := Prod.mk.inj h
  obtain ⟨hsubblocks, hchroma⟩ := Prod.mk.inj h
  refine ⟨?_, ?_, fun column row => ?_⟩
  · rw [← hluma]
    exact hmodes.luma
  · rw [← congrFun (congrFun hchroma 0) 0]
    exact hmodes.chroma
  · rw [← congrFun (congrFun hsubblocks column) row]
    exact hmodes.subblocks column row

theorem predictable_of_modes {mb other : InterFrameMacroblock}
    (h : mb.modes = other.modes)
    (hmodes : InterFrameMacroblock.Predictable mb) :
    InterFrameMacroblock.Predictable other := by
  have hheader : mb.header = other.header := (Prod.mk.inj h).1
  refine ⟨fun hintra => intraModes_of_modes h (hmodes.intra ?_), ?_⟩
  · rw [InterFrameMacroblock.interCoded, hheader]
    exact hintra
  · rw [← hheader]
    exact hmodes.inter

/-- The fields that both kinds of frame headers have up to the number of
partitions. -/
structure HeaderFields where
  updateSegmentation : Option UpdateSegmentation
  filterType : Bool
  loopFilterLevel : UInt8
  sharpnessLevel : UInt8
  modeLfAdjustments : Option (Option ModeRefLFDeltaUpdate)
  log2NumberOfDctPartitions : UInt8

def HeaderFields.parse : Parser HeaderFields := do
  let updateSegmentation ← flagged UpdateSegmentation.parse
  let filterType ← flag
  let loopFilterLevel ← unsigned 6
  let sharpnessLevel ← unsigned 3
  let modeLfAdjustments ← flagged (flagged ModeRefLFDeltaUpdate.parse)
  let log2NumberOfDctPartitions ← unsigned 2
  return { updateSegmentation, filterType, loopFilterLevel, sharpnessLevel
           modeLfAdjustments, log2NumberOfDctPartitions }

/-- What the start of a frame header decides: whether it asks for something
unsupported, and the number of partitions. -/
structure HeaderFront where
  unsupported : Bool
  log2NumberOfDctPartitions : UInt8

def KeyFrameHeader.front : Parser HeaderFront := do
  let colorSpace ← flag
  let clampingType ← flag
  let fields ← HeaderFields.parse
  return {
    unsupported := colorSpace || clampingType || fields.filterType
    log2NumberOfDctPartitions := fields.log2NumberOfDctPartitions }

def InterFrameHeader.front : Parser HeaderFront := do
  let fields ← HeaderFields.parse
  return {
    unsupported := fields.filterType
    log2NumberOfDctPartitions := fields.log2NumberOfDctPartitions }

def KeyFrameHeader.parseRest (colorSpace clampingType : Bool)
    (fields : HeaderFields) : Parser KeyFrameHeader := do
  let quantIndices ← QuantIndices.parse
  let refreshEntropyProbs ← flag
  let tokenProbUpdate ← parseTokenProbUpdate
  let probSkipFalse ← flagged (unsigned 8)
  if colorSpace || clampingType then
    .fail (.unsupported "VP8 color_space and clamping_type bits")
  else if fields.filterType then
    .fail (.unsupported "VP8 'simple' in-loop deblocking filter")
  else
    return { fields with
      colorSpace, clampingType, quantIndices, refreshEntropyProbs
      tokenProbUpdate, probSkipFalse }

theorem KeyFrameHeader.parse_eq : KeyFrameHeader.parse = (do
    let colorSpace ← flag
    let clampingType ← flag
    let fields ← HeaderFields.parse
    KeyFrameHeader.parseRest colorSpace clampingType fields) := by
  unfold KeyFrameHeader.parse HeaderFields.parse KeyFrameHeader.parseRest
  simp only [BitParser.bind_assoc, BitParser.pure_bind]

def InterFrameHeader.parseRest (fields : HeaderFields) :
    Parser InterFrameHeader := do
  let quantIndices ← QuantIndices.parse
  let refreshGoldenFrame ← flag
  let refreshAlternateFrame ← flag
  let copyBufferToGolden ← optional (!refreshGoldenFrame) (unsigned 2)
  let copyBufferToAlternate ← optional (!refreshAlternateFrame) (unsigned 2)
  let signBiasGolden ← flag
  let signBiasAlternate ← flag
  let refreshEntropyProbs ← flag
  let refreshLast ← flag
  let tokenProbUpdate ← parseTokenProbUpdate
  let probSkipFalse ← flagged (unsigned 8)
  let probInter ← unsigned 8
  let probReferencesLast ← unsigned 8
  let probReferencesGolden ← unsigned 8
  let intra16x16Prob ← flagged (.array 4 fun _ => unsigned 8)
  let intraChromaProb ← flagged (.array 3 fun _ => unsigned 8)
  let mvProbUpdate ← parseMvProbUpdate
  if fields.filterType then
    .fail (.unsupported "VP8 'simple' in-loop deblocking filter")
  else
    return { fields with
      quantIndices, refreshGoldenFrame, refreshAlternateFrame
      copyBufferToGolden, copyBufferToAlternate, signBiasGolden
      signBiasAlternate, refreshEntropyProbs, refreshLast, tokenProbUpdate
      probSkipFalse, probInter, probReferencesLast, probReferencesGolden
      intra16x16Prob, intraChromaProb, mvProbUpdate }

theorem InterFrameHeader.parse_eq : InterFrameHeader.parse =
    HeaderFields.parse >>= InterFrameHeader.parseRest := by
  unfold InterFrameHeader.parse HeaderFields.parse InterFrameHeader.parseRest
  simp only [BitParser.bind_assoc, BitParser.pure_bind]

section Headers

variable {Answers : Bool → Prop}

theorem deltaUpdate_completes :
    ModeRefLFDeltaUpdate.parse.Completes Answers fun _ => True := by
  have helement : (BitParser.array 4 fun _ => flagged (signed 6)).Completes
      Answers fun _ => True :=
    (BitParser.completes_array fun _ =>
      flagged_completes _ (signed_completes 6)).mono fun _ _ => trivial
  exact helement.bind fun _ _ => helement.bind fun _ _ => trivial

theorem segmentFeatureData_completes :
    SegmentFeatureData.parse.Completes Answers fun _ => True := by
  have helement (width : Nat) : (BitParser.array 4 fun _ =>
      flagged (signed width)).Completes Answers fun _ => True :=
    (BitParser.completes_array fun _ =>
      flagged_completes _ (signed_completes width)).mono fun _ _ => trivial
  exact (boolean_completes _).bind fun _ _ =>
    (helement 7).bind fun _ _ => (helement 6).bind fun _ _ => trivial

theorem updateSegmentation_completes :
    UpdateSegmentation.parse.Completes Answers fun _ => True := by
  apply (boolean_completes _).bind
  intro updateMbSegmentationMap _
  apply (flagged_completes _ segmentFeatureData_completes).bind
  intro segmentFeatureData _
  exact (optional_completes _ (BitParser.completes_array fun _ =>
    flagged_completes _ (unsigned_completes 8))).bind fun _ _ => trivial

theorem quantIndices_completes :
    QuantIndices.parse.Completes Answers fun _ => True := by
  have hdelta : (flagged (signed 4)).Completes Answers fun _ => True :=
    flagged_completes _ (signed_completes 4)
  exact (unsigned_completes 7).bind fun _ _ => hdelta.bind fun _ _ =>
    hdelta.bind fun _ _ => hdelta.bind fun _ _ => hdelta.bind fun _ _ =>
      hdelta.bind fun _ _ => trivial

theorem parseTokenProbUpdate_completes :
    parseTokenProbUpdate.Completes Answers fun _ => True :=
  (BitParser.completes_array fun _ => BitParser.completes_array fun _ =>
    BitParser.completes_array fun _ => BitParser.completes_array fun _ =>
      flagged_completes _ (unsigned_completes 8)).mono fun _ _ => trivial

theorem parseMvProbUpdate_completes :
    parseMvProbUpdate.Completes Answers fun _ => True :=
  (BitParser.completes_array fun _ => BitParser.completes_array fun _ =>
    flagged_completes _ (unsigned_completes 7)).mono fun _ _ => trivial

theorem fields_completes : HeaderFields.parse.Completes Answers fun _ => True :=
  (flagged_completes _ updateSegmentation_completes).bind fun _ _ =>
    (boolean_completes _).bind fun _ _ => (unsigned_completes 6).bind
      fun _ _ => (unsigned_completes 3).bind fun _ _ =>
        (flagged_completes _ (flagged_completes _ deltaUpdate_completes)).bind
          fun _ _ => (unsigned_completes 2).bind fun _ _ => trivial

/-- A header that asks for something unsupported is rejected once all of it has
been read, any other is accepted. -/
theorem KeyFrameHeader.parseRest_spec (colorSpace clampingType : Bool)
    (fields : HeaderFields) :
    if colorSpace || clampingType || fields.filterType then
      (parseRest colorSpace clampingType fields).Ensures fun _ => False
    else
      (parseRest colorSpace clampingType fields).Completes Answers fun header =>
        header.log2NumberOfDctPartitions = fields.log2NumberOfDctPartitions ∧
          header.filterType = false := by
  unfold parseRest
  cases hcolor : colorSpace || clampingType with
  | true =>
      rw [Bool.true_or, if_pos rfl]
      exact BitParser.ensures_bind _ fun _ => BitParser.ensures_bind _ fun _ =>
        BitParser.ensures_bind _ fun _ => BitParser.ensures_bind _ fun _ =>
          trivial
  | false =>
      rw [Bool.false_or]
      cases hfilter : fields.filterType with
      | true =>
          rw [if_pos rfl]
          exact BitParser.ensures_bind _ fun _ =>
            BitParser.ensures_bind _ fun _ => BitParser.ensures_bind _
              fun _ => BitParser.ensures_bind _ fun _ => trivial
      | false =>
          rw [if_neg Bool.false_ne_true]
          exact quantIndices_completes.bind fun _ _ =>
            (boolean_completes _).bind fun _ _ =>
              parseTokenProbUpdate_completes.bind fun _ _ =>
                (flagged_completes _ (unsigned_completes 8)).bind
                  fun _ _ => ⟨rfl, rfl⟩

theorem InterFrameHeader.parseRest_spec (fields : HeaderFields) :
    if fields.filterType then
      (parseRest fields).Ensures fun _ => False
    else
      (parseRest fields).Completes Answers fun header =>
        header.log2NumberOfDctPartitions = fields.log2NumberOfDctPartitions ∧
          header.filterType = false := by
  have hbuffer (isPresent : Bool) : (optional isPresent
      (unsigned 2)).Completes Answers fun _ => True :=
    (optional_completes isPresent (unsigned_completes 2)).mono
      fun _ _ => trivial
  have hprobs (count : Nat) : (flagged (BitParser.array count fun _ =>
      unsigned 8)).Completes Answers fun _ => True :=
    flagged_completes _ (BitParser.completes_array fun _ =>
      unsigned_completes 8)
  unfold parseRest
  cases hfilter : fields.filterType with
  | true =>
      rw [if_pos rfl]
      iterate 17
        apply BitParser.ensures_bind
        intro _
      trivial
  | false =>
      rw [if_neg Bool.false_ne_true]
      refine quantIndices_completes.bind fun _ _ =>
        (boolean_completes _).bind fun _ _ =>
        (boolean_completes _).bind fun _ _ => (hbuffer _).bind fun _ _ =>
        (hbuffer _).bind fun _ _ => (boolean_completes _).bind fun _ _ =>
        (boolean_completes _).bind fun _ _ =>
        (boolean_completes _).bind fun _ _ =>
        (boolean_completes _).bind fun _ _ =>
        parseTokenProbUpdate_completes.bind fun _ _ =>
        (flagged_completes _ (unsigned_completes 8)).bind fun _ _ =>
        (unsigned_completes 8).bind fun _ _ =>
        (unsigned_completes 8).bind fun _ _ =>
        (unsigned_completes 8).bind fun _ _ => (hprobs 4).bind fun _ _ =>
        (hprobs 3).bind fun _ _ => parseMvProbUpdate_completes.bind
          fun _ _ => ⟨rfl, rfl⟩

end Headers

def HeaderRead {FrameHeader : Type} (front : HeaderFront)
    (log2NumberOfDctPartitions : FrameHeader → UInt8)
    (filterType : FrameHeader → Bool) (Inv : BoolDecoder → Prop)
    (result : Except Failure (FrameHeader × BoolDecoder)) : Prop :=
  if front.unsupported then ∃ failure, result = .error failure
  else ∃ header last, result = .ok (header, last) ∧
    log2NumberOfDctPartitions header = front.log2NumberOfDctPartitions ∧
    filterType header = false ∧ Inv last

theorem HeaderRead.of_ok {FrameHeader : Type} {front : HeaderFront}
    {log2NumberOfDctPartitions : FrameHeader → UInt8}
    {filterType : FrameHeader → Bool} {Inv : BoolDecoder → Prop}
    {result : Except Failure (FrameHeader × BoolDecoder)}
    {header : FrameHeader} {last : BoolDecoder}
    (h : HeaderRead front log2NumberOfDctPartitions filterType Inv result)
    (hresult : result = .ok (header, last)) :
    front.unsupported = false ∧
      log2NumberOfDctPartitions header = front.log2NumberOfDctPartitions := by
  subst hresult
  unfold HeaderRead at h
  split at h
  · obtain ⟨failure, hfailure⟩ := h
    cases hfailure
  · next hsupported =>
    obtain ⟨read, next, hsame, hlog2, -⟩ := h
    cases hsame
    exact ⟨Bool.not_eq_true _ ▸ hsupported, hlog2⟩

theorem exists_error {α : Type} {parser : Parser α}
    (h : parser.Ensures fun _ => False) (decoder : BoolDecoder) :
    ∃ failure, parser.run boolDecoder decoder = .error failure := by
  cases hrun : parser.run boolDecoder decoder with
  | error failure => exact ⟨failure, rfl⟩
  | ok result => exact (h.of_run hrun).elim

section Runs

variable {Inv : BoolDecoder → Prop}

theorem KeyFrameHeader.parse_run (hget : ∀ decoder probability, Inv decoder →
      Inv (boolDecoder.get decoder probability).2)
    {decoder : BoolDecoder} (hdecoder : Inv decoder) :
    ∃ front next,
      KeyFrameHeader.front.run boolDecoder decoder = .ok (front, next) ∧
      HeaderRead front KeyFrameHeader.log2NumberOfDctPartitions
        KeyFrameHeader.filterType Inv
        (KeyFrameHeader.parse.run boolDecoder decoder) := by
  obtain ⟨colorSpace, first, hcolorSpace, -, hfirst⟩ :=
    (boolean_completes 128).keeps hget hdecoder
  obtain ⟨clampingType, second, hclampingType, -, hsecond⟩ :=
    (boolean_completes 128).keeps hget hfirst
  obtain ⟨fields, third, hfields, -, hthird⟩ :=
    fields_completes.keeps hget hsecond
  refine ⟨⟨colorSpace || clampingType || fields.filterType,
    fields.log2NumberOfDctPartitions⟩, third, ?_, ?_⟩
  · simp only [KeyFrameHeader.front, run_bind, hcolorSpace, hclampingType,
      hfields, ok_bind, BitParser.run_pure]
  · rw [KeyFrameHeader.parse_eq]
    simp only [run_bind, hcolorSpace, hclampingType, hfields, ok_bind]
    have hspec := @KeyFrameHeader.parseRest_spec (fun _ => True)
      colorSpace clampingType fields
    unfold HeaderRead
    split at hspec
    · next hunsupported =>
      rw [if_pos hunsupported]
      exact exists_error hspec third
    · next hsupported =>
      rw [if_neg hsupported]
      obtain ⟨header, last, hrun, ⟨hlog2, hfilter⟩, hlast⟩ :=
        hspec.keeps hget hthird
      exact ⟨header, last, hrun, hlog2, hfilter, hlast⟩

theorem InterFrameHeader.parse_run (hget : ∀ decoder probability, Inv decoder →
      Inv (boolDecoder.get decoder probability).2)
    {decoder : BoolDecoder} (hdecoder : Inv decoder) :
    ∃ front next,
      InterFrameHeader.front.run boolDecoder decoder = .ok (front, next) ∧
      HeaderRead front InterFrameHeader.log2NumberOfDctPartitions
        InterFrameHeader.filterType Inv
        (InterFrameHeader.parse.run boolDecoder decoder) := by
  obtain ⟨fields, next, hfields, -, hnext⟩ :=
    fields_completes.keeps hget hdecoder
  refine ⟨⟨fields.filterType, fields.log2NumberOfDctPartitions⟩, next, ?_, ?_⟩
  · simp only [InterFrameHeader.front, run_bind, hfields, ok_bind,
      BitParser.run_pure]
  · rw [InterFrameHeader.parse_eq]
    simp only [run_bind, hfields, ok_bind]
    have hspec := @InterFrameHeader.parseRest_spec (fun _ => True) fields
    unfold HeaderRead
    split at hspec
    · next hunsupported =>
      rw [if_pos hunsupported]
      exact exists_error hspec next
    · next hsupported =>
      rw [if_neg hsupported]
      obtain ⟨header, last, hrun, ⟨hlog2, hfilter⟩, hlast⟩ :=
        hspec.keeps hget hnext
      exact ⟨header, last, hrun, hlog2, hfilter, hlast⟩

end Runs

theorem lengthBits_eq_ok_iff {chunk : Chunk} {length : Nat} :
    chunkBits chunk 0 24 = .ok length ↔
      3 ≤ chunk.length ∧ length = LittleEndian.ofBytes (chunk.take 3) := by
  have hlt := LittleEndian.ofBytes_lt (chunk.take 3)
  constructor
  · intro h
    obtain ⟨checked, hcheck, h⟩ := bind_eq_ok h
    rw [Chunk.boundsCheck, Net.require_eq_ok, decide_eq_true_iff] at hcheck
    have hthree : (chunk.take 3).length = 3 := List.length_take_of_le hcheck
    rw [hthree] at hlt
    cases h
    refine ⟨hcheck, ?_⟩
    change LittleEndian.ofBytes (chunk.take 3) / 2 ^ 0 % 2 ^ 24 = _
    omega
  · rintro ⟨hcheck, rfl⟩
    have hthree : (chunk.take 3).length = 3 := List.length_take_of_le hcheck
    have hbytes : 1 + (0 + 24 - 1) / 8 = 3 := rfl
    have hsmall : ¬ (3 : Nat) > 8 := by decide
    rw [hthree] at hlt
    simp only [chunkBits, hbytes, Chunk.boundsCheck, hcheck, decide_true,
      Net.require_true, ok_bind, if_neg hsmall]
    refine congrArg Except.ok ?_
    omega

/-- The lengths that a table of `count` partitions announces. -/
def announcedLengths : Nat → Chunk → List Nat
  | 0, _ => []
  | count + 1, restOfFrame =>
      LittleEndian.ofBytes (restOfFrame.take 3) ::
        announcedLengths count (restOfFrame.drop 3)

/-- The length table and all partitions before the last are there. -/
def PartitionsFit (num : Nat) (restOfFrame : Chunk) : Prop :=
  3 * (num - 1) + (announcedLengths (num - 1) restOfFrame).sum ≤
    restOfFrame.length

instance (num : Nat) (restOfFrame : Chunk) :
    Decidable (PartitionsFit num restOfFrame) :=
  inferInstanceAs (Decidable (_ ≤ _))

theorem partitionLengths_eq_ok_iff {count : Nat} {restOfFrame : Chunk}
    {result : List Nat × Chunk} :
    UncompressedChunk.partitionLengths count restOfFrame = .ok result ↔
      3 * count ≤ restOfFrame.length ∧ result =
        (announcedLengths count restOfFrame, restOfFrame.drop (3 * count)) := by
  induction count generalizing restOfFrame result with
  | zero =>
      constructor
      · intro h
        cases h
        exact ⟨Nat.zero_le _, rfl⟩
      · rintro ⟨-, rfl⟩
        rfl
  | succ count ih =>
      constructor
      · intro h
        obtain ⟨length, hlength, h⟩ := bind_eq_ok h
        obtain ⟨next, hnext, h⟩ := bind_eq_ok h
        obtain ⟨⟨lengths, last⟩, hlengths, h⟩ := bind_eq_ok h
        cases h
        obtain ⟨hthree, rfl⟩ := lengthBits_eq_ok_iff.mp hlength
        obtain ⟨-, rfl⟩ := sliceFrom_eq_ok_iff.mp hnext
        obtain ⟨hrest, hresult⟩ := ih.mp hlengths
        cases hresult
        rw [List.length_drop] at hrest
        refine ⟨by omega, ?_⟩
        rw [announcedLengths, List.drop_drop, Nat.mul_succ,
          Nat.add_comm (3 * count)]
      · rintro ⟨hlength, rfl⟩
        have hthree : 3 ≤ restOfFrame.length := by omega
        have hrest : 3 * count ≤ (restOfFrame.drop 3).length := by
          rw [List.length_drop]
          omega
        rw [UncompressedChunk.partitionLengths,
          lengthBits_eq_ok_iff.mpr ⟨hthree, rfl⟩, ok_bind,
          sliceFrom_eq_ok_iff.mpr ⟨hthree, rfl⟩, ok_bind,
          ih.mpr ⟨hrest, rfl⟩, ok_bind, List.drop_drop,
          Nat.add_comm 3 (3 * count), ← Nat.mul_succ]
        rfl

theorem cutPartitions_ok_iff {lengths : List Nat} {restOfFrame : Chunk} :
    (∃ partitions, UncompressedChunk.cutPartitions lengths restOfFrame =
        .ok partitions) ↔ lengths.sum ≤ restOfFrame.length := by
  induction lengths generalizing restOfFrame with
  | nil => exact ⟨fun _ => Nat.zero_le _, fun _ => ⟨_, rfl⟩⟩
  | cons length lengths ih =>
      rw [List.sum_cons]
      constructor
      · rintro ⟨partitions, h⟩
        obtain ⟨partition, hpartition, h⟩ := bind_eq_ok h
        obtain ⟨next, hnext, h⟩ := bind_eq_ok h
        obtain ⟨others, hothers, -⟩ := bind_eq_ok h
        obtain ⟨hlength, rfl⟩ := sliceFrom_eq_ok_iff.mp hnext
        have hrest := ih.mp ⟨others, hothers⟩
        rw [List.length_drop] at hrest
        omega
      · intro hsum
        have hlength : length ≤ restOfFrame.length := by omega
        have hrest : lengths.sum ≤ (restOfFrame.drop length).length := by
          rw [List.length_drop]
          omega
        obtain ⟨others, hothers⟩ := ih.mpr hrest
        have hfirst : 0 + length ≤ restOfFrame.length := by omega
        refine ⟨restOfFrame.take length :: others, ?_⟩
        rw [UncompressedChunk.cutPartitions,
          slice_eq_ok_iff.mpr ⟨hfirst, rfl⟩, ok_bind,
          sliceFrom_eq_ok_iff.mpr ⟨hlength, rfl⟩, ok_bind, hothers, ok_bind,
          List.drop_zero]
        rfl

theorem announcedLengths_received {count : Nat} {rest whole : Chunk}
    (h : rest <+: whole) (htable : 3 * count ≤ rest.length) :
    announcedLengths count rest = announcedLengths count whole := by
  induction count generalizing rest whole with
  | zero => rfl
  | succ count ih =>
      obtain ⟨missing, rfl⟩ := h
      have hthree : 3 ≤ rest.length := by omega
      have hdrop : 3 * count ≤ (rest.drop 3).length := by
        rw [List.length_drop]
        omega
      rw [announcedLengths, announcedLengths,
        List.take_append_of_le_length hthree,
        List.drop_append_of_le_length hthree,
        ih (List.prefix_append (rest.drop 3) missing) hdrop]

/-- Of a frame whose lengths fit their fields, the partitions before the last
have to be there with the table. -/
theorem partitionsFit_tail_iff {dctPartitions : List Chunk} {rest : Chunk}
    (hlengths : ∀ partition ∈ dctPartitions.dropLast,
      partition.length < 2 ^ 24)
    (hreceived : rest <+: partitionTail dctPartitions) :
    PartitionsFit dctPartitions.length rest ↔
      3 * (dctPartitions.length - 1) +
        (dctPartitions.dropLast.map List.length).sum ≤ rest.length := by
  have hread := (partitionLengths_eq_ok_iff.mp (partitionLengths_fields
    (dctPartitions.dropLast.map fun partition => partition.length % 2 ^ 32)
    dctPartitions.flatten)).2
  have hannounced := (Prod.mk.inj hread).1
  rw [List.length_map, List.length_dropLast, List.map_map, List.map_map]
    at hannounced
  have hsame : dctPartitions.dropLast.map
      ((· % 2 ^ 24) ∘ fun partition => partition.length % 2 ^ 32) =
        dctPartitions.dropLast.map List.length := by
    refine List.map_congr_left fun partition hmem => ?_
    have hlt := hlengths partition hmem
    simp only [Function.comp]
    omega
  unfold PartitionsFit
  by_cases htable : 3 * (dctPartitions.length - 1) ≤ rest.length
  · rw [announcedLengths_received hreceived htable, ← hsame, hannounced]
    rfl
  · constructor
    · intro h
      omega
    · intro h
      omega

/-- The split throws exactly when something before the last partition is
missing. -/
theorem dctPartitions_ok_iff {chunk : UncompressedChunk} {num : Nat} :
    (∃ partitions, chunk.dctPartitions num = .ok partitions) ↔
      PartitionsFit num chunk.rest := by
  unfold PartitionsFit
  constructor
  · rintro ⟨partitions, h⟩
    obtain ⟨⟨lengths, last⟩, hlengths, h⟩ := bind_eq_ok h
    obtain ⟨htable, hresult⟩ := partitionLengths_eq_ok_iff.mp hlengths
    cases hresult
    have hsum := cutPartitions_ok_iff.mp ⟨partitions, h⟩
    rw [List.length_drop] at hsum
    omega
  · intro hfit
    have htable : 3 * (num - 1) ≤ chunk.rest.length := by omega
    obtain ⟨partitions, hpartitions⟩ := cutPartitions_ok_iff.mpr (show
        (announcedLengths (num - 1) chunk.rest).sum ≤
          (chunk.rest.drop (3 * (num - 1))).length by
      rw [List.length_drop]
      omega)
    refine ⟨partitions, ?_⟩
    rw [UncompressedChunk.dctPartitions,
      partitionLengths_eq_ok_iff.mpr ⟨htable, rfl⟩, ok_bind]
    exact hpartitions

theorem forall_of_map_modes {Header : Type}
    {macroblocks others : List (Macroblock Header)}
    {Inv : Macroblock Header → Prop}
    (h : others.map Macroblock.modes = macroblocks.map Macroblock.modes)
    (hmacroblocks : ∀ mb ∈ macroblocks, Inv mb) :
    ∀ other ∈ others, ∃ mb, Inv mb ∧ mb.modes = other.modes := by
  intro other hother
  have hmem : other.modes ∈ macroblocks.map Macroblock.modes := by
    rw [← h]
    exact List.mem_map_of_mem hother
  obtain ⟨mb, hmb, hmodes⟩ := List.mem_map.mp hmem
  exact ⟨mb, hmacroblocks mb hmb, hmodes⟩

namespace DecoderState

variable {width height : Nat}

section Frames

variable {FrameHeader MacroblockHeader : Type}
variable [HeaderType FrameHeader MacroblockHeader]

theorem fits_of_parseFrame {chunk : UncompressedChunk}
    {state : DecoderState width height} {header : FrameHeader}
    {tables : ProbabilityTables} {errorConcealment : Bool}
    {firstPartition : BoolDecoder}
    {result : Frame FrameHeader MacroblockHeader × DecoderState width height}
    (h : parseFrame chunk state header tables errorConcealment
      firstPartition = .ok result) :
    PartitionsFit (2 ^ (HeaderType.log2NumberOfDctPartitions header).toNat)
      chunk.rest := by
  obtain ⟨macroblocks, last, partitions, tokens, -, hpartitions, -⟩ :=
    parseFrame_eq_ok_iff.mp h
  exact dctPartitions_ok_iff.mp ⟨partitions, hpartitions⟩

/-- Past the frame header and the split nothing is rejected, whatever the
partitions hold. -/
theorem parseFrame_ok {errorConcealment : Bool} {Answers : Bool → Prop}
    {HeaderInv : MacroblockHeader → Prop}
    {MbInv : Macroblock MacroblockHeader → Prop}
    (h : ParsesAll FrameHeader errorConcealment Answers HeaderInv MbInv)
    {Inv : BoolDecoder → Prop} (hget : ∀ decoder probability, Inv decoder →
      Inv (boolDecoder.get decoder probability).2)
    (hvalid : ∀ decoder, Inv decoder → Answers (boolDecoder.valid decoder))
    (chunk : UncompressedChunk) (state : DecoderState width height)
    (header : FrameHeader) (tables : ProbabilityTables)
    {firstPartition : BoolDecoder} (hfirst : Inv firstPartition)
    (hfit : PartitionsFit
      (2 ^ (HeaderType.log2NumberOfDctPartitions header).toNat) chunk.rest) :
    ∃ frame after, parseFrame chunk state header tables errorConcealment
        firstPartition = .ok (frame, after) ∧
      frame.header = header ∧
      ∀ mb ∈ frame.macroblocks, ∃ before, MbInv before ∧
        before.modes = mb.modes := by
  obtain ⟨macroblocks, last, hmacroblocks, hinv, -⟩ :=
    (parseMacroblocks_completes h header tables (macroblockDimension width)
      (macroblockDimension height)
      (Grid.places (macroblockDimension width) (macroblockDimension height)) []
      (fun mb hmb => nomatch hmb)).run hget hvalid hfirst
  obtain ⟨partitions, hpartitions⟩ := dctPartitions_ok_iff.mpr hfit
  have hdecoders : (partitions.map fun partition =>
      BoolDecoder.ofChunk partition) ≠ [] := by
    obtain ⟨⟨lengths, rest⟩, -, hcut⟩ := bind_eq_ok hpartitions
    intro hnil
    exact (cutPartitions_lengths hcut).2 (List.map_eq_nil_iff.mp hnil)
  obtain ⟨tokens, htokens, hmodes⟩ := parseMacroblockTokens_completes tables
    (macroblockDimension width) (macroblockDimension height)
    (tokenItems state.segmentation macroblocks) [] _ hdecoders
  rw [tokenItems_view fun _ _ => rfl, List.map_nil, List.nil_append] at hmodes
  exact ⟨_, _, parseFrame_eq_ok_iff.mpr ⟨macroblocks, last, partitions, tokens,
    hmacroblocks, hpartitions, htokens, rfl, rfl⟩, rfl,
    forall_of_map_modes hmodes hinv⟩

end Frames

structure Decodable (front : Parser HeaderFront) (width height : Nat)
    (chunk : UncompressedChunk) : Prop where
  width : 0 < width
  height : 0 < height
  front : ∃ headerFront next,
    front.run boolDecoder (firstPartitionDecoder chunk) =
        .ok (headerFront, next) ∧
      headerFront.unsupported = false ∧
      PartitionsFit (2 ^ headerFront.log2NumberOfDctPartitions.toNat)
        chunk.rest

theorem decodable_of_parseFrame {FrameHeader MacroblockHeader : Type}
    [HeaderType FrameHeader MacroblockHeader] {front : Parser HeaderFront}
    {chunk : UncompressedChunk} {headerFront : HeaderFront}
    {filterType : FrameHeader → Bool} {Inv : BoolDecoder → Prop}
    {next firstPartition : BoolDecoder} {header : FrameHeader}
    {state : DecoderState width height} {tables : ProbabilityTables}
    {errorConcealment : Bool}
    {result : Frame FrameHeader MacroblockHeader × DecoderState width height}
    (hfront : front.run boolDecoder (firstPartitionDecoder chunk) =
      .ok (headerFront, next))
    (hread : HeaderRead headerFront HeaderType.log2NumberOfDctPartitions
      filterType Inv (HeaderType.parse.run boolDecoder
        (firstPartitionDecoder chunk)))
    (hheader : parseHeader width height chunk = .ok (header, firstPartition))
    (h : parseFrame chunk state header tables errorConcealment
      firstPartition = .ok result) :
    Decodable front width height chunk := by
  obtain ⟨hwidth, hheight, hheader⟩ := parseHeader_eq_ok_iff.mp hheader
  obtain ⟨hsupported, hlog2⟩ := hread.of_ok hheader
  refine ⟨hwidth, hheight, headerFront, next, hfront, hsupported, ?_⟩
  rw [← hlog2]
  exact fits_of_parseFrame h

/-- Holds of a decoder once it holds, and keeps it from missing data. -/
def Unwatched (errorConcealment : Bool) (decoder : BoolDecoder) : Prop :=
  errorConcealment = true →
    decoder.valid = true ∧ decoder.completeChunk = true

theorem unwatched_get (errorConcealment : Bool) (decoder : BoolDecoder)
    (probability : Probability) (h : Unwatched errorConcealment decoder) :
    Unwatched errorConcealment (boolDecoder.get decoder probability).2 := by
  intro hconcealment
  obtain ⟨hvalid, hcomplete⟩ := h hconcealment
  have htold : decoder.told = decoder := by
    obtain ⟨chunk, range, value, bitCount, valid, completeChunk⟩ := decoder
    cases hvalid
    cases hcomplete
    rfl
  have hget := decoder.get_told probability
  rw [htold] at hget
  change (decoder.get probability).2.valid = true ∧
    (decoder.get probability).2.completeChunk = true
  rw [hget]
  exact ⟨rfl, rfl⟩

theorem unwatched_first (chunk : UncompressedChunk) :
    Unwatched (CorruptionLevel.corruptedResidues.code <
      chunk.corruptionLevel.code) (firstPartitionDecoder chunk) := by
  intro hconcealment
  have hcut : CorruptionLevel.corruptedFirstPartition.code ≤
      chunk.corruptionLevel.code := of_decide_eq_true hconcealment
  rw [firstPartitionDecoder, decide_eq_true hcut, BoolDecoder.ofChunk_told]
  exact ⟨rfl, rfl⟩

theorem neverMissing_unwatched (errorConcealment : Bool) :
    NeverMissing errorConcealment fun answer =>
      errorConcealment = true → answer = true := by
  intro answer hanswer
  cases errorConcealment with
  | false => rfl
  | true => rw [hanswer rfl, Bool.not_true, Bool.and_false]

def KeyFrameDecodes (width height : Nat) (levels : Nat × Nat → Int)
    (chunk : UncompressedChunk) : Prop :=
  ∃ frame, ∃ next : DecoderState width height,
    parseAndApplyKey chunk = .ok (frame, next) ∧ frame.decode = .ok () ∧
      frame.loopfilter frame.header.loopFilterLevel frame.header.filterType
        levels = .ok ()

theorem keyFrameDecodes_iff {levels : Nat × Nat → Int}
    {chunk : UncompressedChunk} (hkey : chunk.keyFrame = true)
    (hexperimental : chunk.experimental = false) :
    KeyFrameDecodes width height levels chunk ↔
      Decodable KeyFrameHeader.front width height chunk := by
  obtain ⟨headerFront, next, hfront, hread⟩ := @KeyFrameHeader.parse_run
    (fun _ => True) (fun _ _ _ => trivial) (firstPartitionDecoder chunk) trivial
  constructor
  · rintro ⟨frame, after, h, -⟩
    obtain ⟨-, -, header, firstPartition, hheader, h⟩ :=
      parseAndApplyKey_eq_ok_iff.mp h
    exact decodable_of_parseFrame hfront hread hheader h
  · rintro ⟨hwidth, hheight, read, last, hsame, hsupported, hfit⟩
    rw [hfront] at hsame
    cases hsame
    unfold HeaderRead at hread
    rw [hsupported, if_neg Bool.false_ne_true] at hread
    obtain ⟨header, firstPartition, hheader, hlog2, hfilter, -⟩ := hread
    rw [← hlog2] at hfit
    have hkept : ∀ decoder probability, True →
        (fun _ : BoolDecoder => True) (boolDecoder.get decoder probability).2 :=
      fun _ _ _ => trivial
    obtain ⟨frame, after, hframe, hsameHeader, hmodes⟩ := parseFrame_ok
      (parsesAll_key fun _ => True) hkept (fun _ _ => trivial) chunk
      (keyFrameState header : DecoderState width height) header
      (({} : ProbabilityTables).coeffProbUpdate header.tokenProbUpdate)
      (show (fun _ : BoolDecoder => True) firstPartition from trivial) hfit
    refine ⟨frame, after, ?_, ?_, ?_⟩
    · have hstart : (parseHeader width height chunk :
          Except Failure (KeyFrameHeader × BoolDecoder)) =
            .ok (header, firstPartition) :=
        parseHeader_eq_ok_iff.mpr ⟨hwidth, hheight, hheader⟩
      exact parseAndApplyKey_eq_ok_iff.mpr ⟨hkey, hexperimental, header,
        firstPartition, hstart, hframe⟩
    · refine Fallible.forM_ok frame.macroblocks fun mb hmb => ?_
      obtain ⟨before, hbefore, hsame⟩ := hmodes mb hmb
      exact Macroblock.reconstructIntra_ok (intraModes_of_modes hsame hbefore)
    · rw [hsameHeader, hfilter]
      exact Frame.loopfilter_ok _ _ _

def InterFrameDecodes (state : DecoderState width height)
    (levels : Nat × Nat → Int) (chunk : UncompressedChunk) : Prop :=
  ∃ frame next, state.parseAndApplyInter chunk = .ok (frame, next) ∧
    frame.decode = .ok () ∧
    frame.loopfilter frame.header.loopFilterLevel frame.header.filterType
      levels = .ok ()

theorem interFrameDecodes_iff {state : DecoderState width height}
    {levels : Nat × Nat → Int} {chunk : UncompressedChunk}
    (hkey : chunk.keyFrame = false) :
    state.InterFrameDecodes levels chunk ↔
      Decodable InterFrameHeader.front width height chunk := by
  obtain ⟨headerFront, next, hfront, hread⟩ := InterFrameHeader.parse_run
    (unwatched_get _) (unwatched_first chunk)
  constructor
  · rintro ⟨frame, after, h, -⟩
    obtain ⟨-, header, firstPartition, hheader, h⟩ :=
      parseAndApplyInter_eq_ok_iff.mp h
    exact decodable_of_parseFrame hfront hread hheader h
  · rintro ⟨hwidth, hheight, read, last, hsame, hsupported, hfit⟩
    rw [hfront] at hsame
    cases hsame
    unfold HeaderRead at hread
    rw [hsupported, if_neg Bool.false_ne_true] at hread
    obtain ⟨header, firstPartition, hheader, hlog2, hfilter, hfirst⟩ := hread
    rw [← hlog2] at hfit
    obtain ⟨frame, after, hframe, hsameHeader, hmodes⟩ := parseFrame_ok
      (parsesAll_inter (neverMissing_unwatched _)) (unwatched_get _)
      (fun decoder hdecoder hconcealment => (hdecoder hconcealment).1) chunk
      (state.interFrameState header) header
      (state.probabilityTables.update header) hfirst hfit
    refine ⟨frame, after, ?_, ?_, ?_⟩
    · have hstart : (parseHeader width height chunk :
          Except Failure (InterFrameHeader × BoolDecoder)) =
            .ok (header, firstPartition) :=
        parseHeader_eq_ok_iff.mpr ⟨hwidth, hheight, hheader⟩
      exact parseAndApplyInter_eq_ok_iff.mpr ⟨hkey, header, firstPartition,
        hstart, hframe⟩
    · refine Fallible.forM_ok frame.macroblocks fun mb hmb => ?_
      obtain ⟨before, hbefore, hsame⟩ := hmodes mb hmb
      exact (predictable_of_modes hsame hbefore).reconstruct
    · rw [hsameHeader, hfilter]
      exact Frame.loopfilter_ok _ _ _

theorem getFrameOutput_ok_iff {state : DecoderState width height}
    {levels : Nat × Nat → Int} {received : Chunk} {chunk : UncompressedChunk}
    (hparse : UncompressedChunk.parse received width height true = .ok chunk) :
    (∃ next, state.getFrameOutput levels received = .ok next) ↔
      chunk.experimental = false ∧
        Decodable (if chunk.keyFrame then KeyFrameHeader.front
          else InterFrameHeader.front) width height chunk := by
  unfold getFrameOutput
  rw [hparse, ok_bind]
  cases hkey : chunk.keyFrame with
  | true =>
      rw [if_pos rfl, if_pos rfl]
      constructor
      · rintro ⟨next, h⟩
        obtain ⟨⟨frame, after⟩, hframe, h⟩ := bind_eq_ok h
        obtain ⟨decoded, hdecode, h⟩ := bind_eq_ok h
        obtain ⟨filtered, hfilter, -⟩ := bind_eq_ok h
        have hexperimental : chunk.experimental = false := by
          obtain ⟨checked, -, hframe⟩ := bind_eq_ok hframe
          obtain ⟨checked, hcheck, -⟩ := bind_eq_ok hframe
          rw [Net.require_eq_ok, Bool.not_eq_true'] at hcheck
          exact hcheck
        exact ⟨hexperimental, (keyFrameDecodes_iff hkey hexperimental).mp
          ⟨frame, after, hframe, hdecode, hfilter⟩⟩
      · rintro ⟨hexperimental, hdecodable⟩
        have hdecodes : KeyFrameDecodes width height levels chunk :=
          (keyFrameDecodes_iff hkey hexperimental).mpr hdecodable
        obtain ⟨frame, after, hframe, hdecode, hfilter⟩ := hdecodes
        exact ⟨after, by
          simp only [hframe, ok_bind, hdecode, hfilter]
          rfl⟩
  | false =>
      rw [if_neg Bool.false_ne_true, if_neg Bool.false_ne_true]
      cases hexperimental : chunk.experimental with
      | true =>
          constructor
          · rintro ⟨next, h⟩
            cases h
          · rintro ⟨h, -⟩
            cases h
      | false =>
          rw [Bool.not_false, if_pos rfl]
          constructor
          · rintro ⟨next, h⟩
            obtain ⟨⟨frame, after⟩, hframe, h⟩ := bind_eq_ok h
            obtain ⟨decoded, hdecode, h⟩ := bind_eq_ok h
            obtain ⟨filtered, hfilter, -⟩ := bind_eq_ok h
            exact ⟨rfl, (interFrameDecodes_iff hkey).mp
              ⟨frame, after, hframe, hdecode, hfilter⟩⟩
          · rintro ⟨-, hdecodable⟩
            have hdecodes : state.InterFrameDecodes levels chunk :=
              (interFrameDecodes_iff hkey).mpr hdecodable
            obtain ⟨frame, after, hframe, hdecode, hfilter⟩ := hdecodes
            exact ⟨after, by
              simp only [hframe, ok_bind, hdecode, hfilter]
              rfl⟩

end DecoderState

theorem slice_received {received whole : Chunk} (h : received <+: whole)
    {offset length : Nat} (hend : offset + length ≤ received.length) :
    received.slice offset length = whole.slice offset length := by
  obtain ⟨missing, rfl⟩ := h
  have hwhole : offset + length ≤ (received ++ missing).length := by
    rw [List.length_append]
    omega
  rw [slice_eq_ok_iff.mpr ⟨hend, rfl⟩, slice_eq_ok_iff.mpr ⟨hwhole, rfl⟩,
    List.drop_append_of_le_length (by omega), List.take_append_of_le_length (by
      rw [List.length_drop]
      omega)]

theorem chunkBits_prefix {received whole : Chunk} (h : received <+: whole)
    {offset length value : Nat}
    (hwhole : chunkBits whole offset length = .ok value) :
    chunkBits received offset length =
      if 1 + (offset + length - 1) / 8 ≤ received.length then .ok value
      else .error (.outOfRange "attempted to read past end of chunk") := by
  split
  · next hbytes =>
    obtain ⟨missing, rfl⟩ := h
    rw [← hwhole]
    have hall : 1 + (offset + length - 1) / 8 ≤
        (received ++ missing).length := by
      rw [List.length_append]
      omega
    simp only [chunkBits, Chunk.boundsCheck, hbytes, hall, decide_true,
      Net.require_true, List.take_append_of_le_length hbytes]
  · next hbytes =>
    simp only [chunkBits, Chunk.boundsCheck, hbytes, decide_false]
    rfl

def frontLength (keyFrame : Bool) : Nat :=
  if keyFrame then 10 else 3

/-- What the bytes are taken for once all in front of the first partition have
come. -/
def receivedChunk (keyFrame showFrame experimental referenceUpdate : Bool)
    (firstPartitionLength : Nat) (received : Chunk) : UncompressedChunk where
  keyFrame := keyFrame
  loopFilter := if referenceUpdate then .noFilter else .normal
  showFrame := showFrame
  experimental := experimental
  firstPartition :=
    (received.drop (frontLength keyFrame)).take firstPartitionLength
  rest := (received.drop (frontLength keyFrame)).drop firstPartitionLength
  corruptionLevel :=
    if received.length ≤ frontLength keyFrame + firstPartitionLength then
      .corruptedFirstPartition
    else .noCorruption

theorem splitFrame_received {keyFrame : Bool} {received : Chunk}
    (h : frontLength keyFrame ≤ received.length) (length : Nat) :
    UncompressedChunk.splitFrame received (frontLength keyFrame) length true =
      .ok (if received.length ≤ frontLength keyFrame + length then
          .corruptedFirstPartition else .noCorruption,
        (received.drop (frontLength keyFrame)).take length,
        (received.drop (frontLength keyFrame)).drop length) := by
  have hdrop : (received.drop (frontLength keyFrame)).length =
      received.length - frontLength keyFrame := List.length_drop
  unfold UncompressedChunk.splitFrame
  by_cases hcut : received.length ≤ frontLength keyFrame + length
  · have hall : (received.drop (frontLength keyFrame)).take
        (received.length - frontLength keyFrame) =
          (received.drop (frontLength keyFrame)).take length := by
      rw [List.take_of_length_le (Nat.le_of_eq hdrop),
        List.take_of_length_le (by omega)]
    have hnone : (received.drop (frontLength keyFrame)).drop length = [] :=
      List.drop_eq_nil_of_le (by omega)
    rw [if_pos hcut, if_pos rfl, if_pos hcut, slice_eq_ok_iff.mpr
      ⟨Nat.le_of_eq (Nat.add_sub_of_le h), rfl⟩, ok_bind, hall, hnone]
    rfl
  · have hfirst : frontLength keyFrame + length ≤ received.length := by omega
    have hend : frontLength keyFrame + length +
        (received.length - frontLength keyFrame - length) ≤ received.length := by
      omega
    have hall : (received.drop (frontLength keyFrame + length)).take
        (received.length - frontLength keyFrame - length) =
          (received.drop (frontLength keyFrame)).drop length := by
      rw [List.drop_drop, List.take_of_length_le (by
        rw [List.length_drop]
        omega)]
    rw [if_neg hcut, if_neg hcut, slice_eq_ok_iff.mpr ⟨hfirst, rfl⟩, ok_bind,
      slice_eq_ok_iff.mpr ⟨hend, rfl⟩, ok_bind, hall]
    rfl

theorem splitFrame_short {keyFrame : Bool} {received : Chunk}
    (h : received.length < frontLength keyFrame) (length : Nat) :
    UncompressedChunk.splitFrame received (frontLength keyFrame) length true =
      .error (.outOfRange "attempted to read past end of chunk") := by
  have hcut : received.length ≤ frontLength keyFrame + length := by omega
  have hshort : ¬ frontLength keyFrame ≤ received.length := by omega
  rw [UncompressedChunk.splitFrame, if_pos hcut, if_pos rfl]
  simp only [Chunk.slice, Chunk.boundsCheck, hshort, decide_false]
  rfl

theorem ofVersion_flags (experimental referenceUpdate : Bool) :
    UncompressedChunk.ofVersion
        (2 * referenceUpdate.toNat + 4 * experimental.toNat) =
      if referenceUpdate && !experimental then
        .error (.unsupported "VP8 version of 2")
      else
        .ok (if referenceUpdate then .noFilter else .normal, experimental) := by
  cases referenceUpdate <;> cases experimental <;> rfl

theorem bytes_of_makeFrame {keyFrame showFrame experimental : Bool}
    {referenceUpdate : Bool} {width height : Nat} {firstPartition : Chunk}
    {dctPartitions : List Chunk} {bytes : Chunk}
    (h : makeFrame keyFrame showFrame experimental referenceUpdate width height
      firstPartition dctPartitions = .ok bytes) :
    width < 2 ^ 14 ∧ height < 2 ^ 14 ∧
      bytes = frameTag keyFrame showFrame experimental referenceUpdate
          (firstPartition.length % 2 ^ 32) ++
        keyFrameStart keyFrame width height ++
        (firstPartition ++ partitionTail dctPartitions) := by
  obtain ⟨checked, hsizes, h⟩ := bind_eq_ok h
  obtain ⟨checked, -, h⟩ := bind_eq_ok h
  rw [Net.require_eq_ok, decide_eq_true_iff] at hsizes
  cases h
  refine ⟨by omega, by omega, ?_⟩
  simp only [keyFrameStart, partitionTail, List.append_assoc]

section Received

variable {keyFrame showFrame experimental referenceUpdate : Bool}
variable {width height length : Nat} {body received : Chunk}

theorem parse_received (hwidth : width < 2 ^ 14) (hheight : height < 2 ^ 14)
    (hreceived : received <+:
      frameTag keyFrame showFrame experimental referenceUpdate length ++
        keyFrameStart keyFrame width height ++ body)
    (hne : received ≠ []) :
    UncompressedChunk.parse received width height true =
      if referenceUpdate && !experimental then
        .error (.unsupported "VP8 version of 2")
      else if received.length < frontLength keyFrame then
        .ok (UncompressedChunk.truncated received)
      else
        .ok (receivedChunk keyFrame showFrame experimental referenceUpdate
          (length % 2 ^ 19) received) := by
  obtain ⟨hinter, hshow, hversion, hlength⟩ :=
    tag_flags keyFrame showFrame experimental referenceUpdate length
  have hpositive := List.length_pos_iff.mpr hne
  have hread (offset count : Nat) (hcount : 0 < count)
      (hfit : offset + count ≤ 8 * 3) := by
    have h := chunkBits_toBytes (tagValue keyFrame showFrame experimental
      referenceUpdate length) (keyFrameStart keyFrame width height ++ body)
      hcount hfit (by decide)
    rw [← frameTag_eq, ← List.append_assoc] at h
    exact chunkBits_prefix hreceived h
  have hfront : (if (!keyFrame).toNat = 0 then 10 else 3) =
      frontLength keyFrame := by
    cases keyFrame <;> rfl
  have hkey : decide ((!keyFrame).toNat = 0) = keyFrame := by
    cases keyFrame <;> rfl
  have hshown : decide (showFrame.toNat = 1) = showFrame := by
    cases showFrame <;> rfl
  have hfirst (offset count : Nat) (hcount : 0 < count)
      (hbyte : offset + count ≤ 8) :
      1 + (offset + count - 1) / 8 ≤ received.length := by
    omega
  unfold UncompressedChunk.parse UncompressedChunk.parseFields
  rw [hread 0 1 (by decide) (by decide), if_pos (hfirst 0 1 (by decide)
      (by decide)), ok_bind, hinter, hread 4 1 (by decide) (by decide),
    if_pos (hfirst 4 1 (by decide) (by decide)), ok_bind, hshow,
    hread 1 3 (by decide) (by decide),
    if_pos (hfirst 1 3 (by decide) (by decide)), ok_bind, hversion,
    ofVersion_flags]
  by_cases hunsupported : referenceUpdate && !experimental
  · rw [if_pos hunsupported, if_pos hunsupported]
    rfl
  rw [if_neg hunsupported, if_neg hunsupported, ok_bind]
  simp only [hread 5 19 (by decide) (by decide), hlength, hkey, hfront, hshown]
  by_cases htag : received.length < 3
  · have hbits : ¬ 1 + (5 + 19 - 1) / 8 ≤ received.length := by omega
    have hshort : received.length < frontLength keyFrame :=
      Nat.lt_of_lt_of_le htag (by cases keyFrame <;> decide)
    rw [if_neg hbits, if_pos hshort]
    rfl
  have hbits : 1 + (5 + 19 - 1) / 8 ≤ received.length := by omega
  rw [if_pos hbits, ok_bind]
  by_cases hshort : received.length < frontLength keyFrame
  · rw [if_pos hshort, splitFrame_short hshort]
    rfl
  have hsplit := splitFrame_received (Nat.not_lt.mp hshort) (length % 2 ^ 19)
  have hcheck : UncompressedChunk.checkKeyFrame keyFrame received width height =
      .ok () := by
    have hwhole := checkKeyFrame_front (show (frameTag keyFrame showFrame
      experimental referenceUpdate length).length = 3 from rfl) hwidth hheight
      keyFrame body width height
    cases keyFrame with
    | false => rfl
    | true =>
        have hten : 10 ≤ received.length := Nat.not_lt.mp hshort
        rw [decide_eq_true (fun _ => ⟨rfl, rfl⟩), Net.require_true] at hwhole
        unfold UncompressedChunk.checkKeyFrame
          UncompressedChunk.checkStartCode UncompressedChunk.checkSizes
        unfold UncompressedChunk.checkKeyFrame
          UncompressedChunk.checkStartCode UncompressedChunk.checkSizes
          at hwhole
        rw [slice_received hreceived (by omega),
          slice_received hreceived (by omega)]
        exact hwhole
  rw [if_neg hshort, hsplit]
  simp only [ok_bind, hcheck]
  rfl

end Received

/-- When the bytes that have come of a frame can be decoded. Before the first
partition has begun they pass for an empty inter frame. -/
def ReceivedDecodable (keyFrame showFrame experimental referenceUpdate : Bool)
    (width height firstPartitionLength : Nat) (received : Chunk) : Prop :=
  ¬ (referenceUpdate = true ∧ experimental = false) ∧
    if received.length < frontLength keyFrame then 0 < width ∧ 0 < height
    else
      experimental = false ∧ DecoderState.Decodable
        (if keyFrame then KeyFrameHeader.front else InterFrameHeader.front)
        width height (receivedChunk keyFrame showFrame experimental
          referenceUpdate firstPartitionLength received)

theorem decodable_truncated_iff {width height : Nat} {received : Chunk} :
    DecoderState.Decodable InterFrameHeader.front width height
        (UncompressedChunk.truncated received) ↔ 0 < width ∧ 0 < height := by
  constructor
  · intro h
    exact ⟨h.width, h.height⟩
  · rintro ⟨hwidth, hheight⟩
    obtain ⟨⟨headerFront, next⟩, hrun, htest⟩ : ∃ result,
        InterFrameHeader.front.run boolDecoder (BoolDecoder.ofChunk [] true) =
          .ok result ∧ (!result.1.unsupported &&
            result.1.log2NumberOfDctPartitions == 0) = true :=
      Fallible.exists_of_check (by decide +kernel)
    rw [Bool.and_eq_true, Bool.not_eq_true', beq_iff_eq] at htest
    refine ⟨hwidth, hheight, headerFront, next, hrun, htest.1, ?_⟩
    rw [htest.2]
    exact Nat.le_refl 0

/-- With error concealment on, the bytes that have come of a frame are decoded
without throwing exactly when they can be. -/
theorem partialFrame_decodes_iff
    (keyFrame showFrame experimental referenceUpdate : Bool)
    (width height : Nat) (firstPartition : Chunk) (dctPartitions : List Chunk)
    (bytes received : Chunk) (state : DecoderState width height)
    (levels : Nat × Nat → Int)
    (hbytes : makeFrame keyFrame showFrame experimental referenceUpdate width
      height firstPartition dctPartitions = .ok bytes)
    (hreceived : received <+: bytes) (hne : received ≠ []) :
    (∃ next, state.getFrameOutput levels received = .ok next) ↔
      ReceivedDecodable keyFrame showFrame experimental referenceUpdate width
        height (firstPartition.length % 2 ^ 19) received := by
  obtain ⟨hwidth, hheight, rfl⟩ := bytes_of_makeFrame hbytes
  have hparse := parse_received hwidth hheight hreceived hne
  have hlength : firstPartition.length % 2 ^ 32 % 2 ^ 19 =
      firstPartition.length % 2 ^ 19 := by
    omega
  rw [hlength] at hparse
  unfold ReceivedDecodable
  by_cases hunsupported : referenceUpdate = true ∧ experimental = false
  · obtain ⟨rfl, rfl⟩ := hunsupported
    constructor
    · rintro ⟨next, h⟩
      rw [DecoderState.getFrameOutput, hparse] at h
      cases h
    · rintro ⟨hsupported, -⟩
      exact absurd ⟨rfl, rfl⟩ hsupported
  · have hflags : ¬ (referenceUpdate && !experimental) = true := by
      rw [Bool.and_eq_true, Bool.not_eq_true']
      exact hunsupported
    rw [if_neg hflags] at hparse
    rw [and_iff_right hunsupported]
    by_cases hshort : received.length < frontLength keyFrame
    · rw [if_pos hshort] at hparse ⊢
      rw [DecoderState.getFrameOutput_ok_iff hparse,
        and_iff_right (show (UncompressedChunk.truncated received).experimental
          = false from rfl), ← decodable_truncated_iff]
      rfl
    · rw [if_neg hshort] at hparse ⊢
      exact DecoderState.getFrameOutput_ok_iff hparse

/-- Of two partitions all but the last byte of the first one has come. -/
theorem cutPartition_throws :
    ∃ bytes, makeFrame false true false false 16 16 [0, 4, 0, 0]
        [[0, 0], [0, 0]] = .ok bytes ∧
      [0x91, 0, 0, 0, 4, 0, 0, 2, 0, 0, 0] <+: bytes ∧
      ∀ (state : DecoderState 16 16) (levels : Nat × Nat → Int),
        ¬ ∃ next, state.getFrameOutput levels
          [0x91, 0, 0, 0, 4, 0, 0, 2, 0, 0, 0] = .ok next := by
  have hbytes : makeFrame false true false false 16 16 [0, 4, 0, 0]
      [[0, 0], [0, 0]] =
        .ok [0x91, 0, 0, 0, 4, 0, 0, 2, 0, 0, 0, 0, 0, 0] := by
    decide
  have hreceived : [0x91, 0, 0, 0, 4, 0, 0, 2, 0, 0, 0] <+:
      ([0x91, 0, 0, 0, 4, 0, 0, 2, 0, 0, 0, 0, 0, 0] : Chunk) := by
    decide
  refine ⟨_, hbytes, hreceived, fun state levels h => ?_⟩
  obtain ⟨hwidth, hheight, heq⟩ := bytes_of_makeFrame hbytes
  rw [heq] at hreceived
  have hparse := parse_received hwidth hheight hreceived (List.cons_ne_nil _ _)
  rw [if_neg (by decide), if_neg (by decide)] at hparse
  obtain ⟨-, hdecodable⟩ := (DecoderState.getFrameOutput_ok_iff hparse).mp h
  obtain ⟨headerFront, next, hrun, -, hfit⟩ := hdecodable.front
  obtain ⟨other, hother, htest⟩ : ∃ result, InterFrameHeader.front.run
      boolDecoder (BoolDecoder.ofChunk [0, 4, 0, 0] false) = .ok result ∧
        (result.1.log2NumberOfDctPartitions == 1) = true :=
    Fallible.exists_of_check (by decide +kernel)
  have hsame : InterFrameHeader.front.run boolDecoder
      (BoolDecoder.ofChunk [0, 4, 0, 0] false) = .ok (headerFront, next) := hrun
  rw [hother] at hsame
  cases hsame
  rw [beq_iff_eq] at htest
  rw [htest] at hfit
  exact absurd hfit (by decide)

theorem partialFrame_decodes_last :
    ∃ next, DecoderState.getFrameOutput ({} : DecoderState 16 16) (fun _ => 0)
      [0x91, 0, 0, 0, 4, 0, 0, 2, 0, 0, 0, 0] = .ok next := by
  refine (partialFrame_decodes_iff false true false false 16 16 [0, 4, 0, 0]
    [[0, 0], [0, 0]] [0x91, 0, 0, 0, 4, 0, 0, 2, 0, 0, 0, 0, 0, 0] _ {}
    (fun _ => 0) (by decide) (by decide) (by decide)).mpr ⟨by decide, ?_⟩
  obtain ⟨⟨headerFront, next⟩, hrun, htest⟩ : ∃ result,
      InterFrameHeader.front.run boolDecoder
        (BoolDecoder.ofChunk [0, 4, 0, 0] false) = .ok result ∧
        (!result.1.unsupported &&
          result.1.log2NumberOfDctPartitions == 1) = true :=
    Fallible.exists_of_check (by decide +kernel)
  rw [Bool.and_eq_true, Bool.not_eq_true', beq_iff_eq] at htest
  refine ⟨rfl, by decide, by decide, headerFront, next, hrun, htest.1, ?_⟩
  rw [htest.2]
  decide

end Salsify.Codec
