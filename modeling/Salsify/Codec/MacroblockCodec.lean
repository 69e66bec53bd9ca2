import Salsify.Codec.MacroblockPlaces
import Salsify.Codec.TokenCodec

namespace Salsify.Codec

open Salsify.Coder (Probability)
open Salsify.Net (Failure)
open BitParser (Echoes Yields Consumes consumes_pure ensures_bind)
open BitWriter (concat)

/-! The headers of macroblocks, as `encoder/serializer.cc` writes them. -/

/-- What the writers of frames and macroblocks take from the type of the frame
header. -/
class HeaderWriter (FrameHeader : Type)
    (MacroblockHeader : outParam Type) where
  encodeHeader : FrameHeader → SymbolWriter
  encodeMacroblockHeader : FrameHeader → MacroblockHeader → SymbolWriter
  encodePredictionModes : ProbabilityTables →
    Context (Macroblock MacroblockHeader) → Macroblock MacroblockHeader →
    SymbolWriter

instance : HeaderWriter KeyFrameHeader KeyFrameMacroblockHeader where
  encodeHeader := KeyFrameHeader.encode
  encodeMacroblockHeader _ _ := .ok []
  encodePredictionModes _ := KeyFrameMacroblock.encodePredictionModes

instance : HeaderWriter InterFrameHeader InterFrameMacroblockHeader where
  encodeHeader := InterFrameHeader.encode
  encodeMacroblockHeader := InterFrameMacroblockHeader.encode
  encodePredictionModes := InterFrameMacroblock.encodePredictionModes

section Serialize

variable {FrameHeader MacroblockHeader : Type}
variable [HeaderType FrameHeader MacroblockHeader]
variable [HeaderWriter FrameHeader MacroblockHeader]

def encodeSegmentIdUpdate (mbSegmentTreeProbs : List Probability) :
    Option UInt8 → SymbolWriter :=
  encodeOptional fun segment =>
    encodeTree segmentIdTree mbSegmentTreeProbs segment.toNat

def encodeMbSkipCoeff (header : FrameHeader) (mbSkipCoeff : Option Bool) :
    SymbolWriter :=
  if mbSkipCoeff.isSome && (HeaderType.probSkipFalse header).isNone then
    .error
      (.invalid "mb_skip_coeff_ set but frame_header.prob_skip_false not set")
  else
    encodeOptional
      (encodeBoolean ((HeaderType.probSkipFalse header).getD 0)) mbSkipCoeff

def Macroblock.serialize (header : FrameHeader)
    (mbSegmentTreeProbs : List Probability) (tables : ProbabilityTables)
    (context : Context (Macroblock MacroblockHeader))
    (mb : Macroblock MacroblockHeader) : SymbolWriter :=
  concat [
    encodeSegmentIdUpdate mbSegmentTreeProbs mb.segmentIdUpdate,
    encodeMbSkipCoeff header mb.mbSkipCoeff,
    HeaderWriter.encodeMacroblockHeader header mb.header,
    HeaderWriter.encodePredictionModes FrameHeader tables context mb]

end Serialize

variable {Answers : Bool → Prop}

theorem orZero_echoes {α : Type} {errorConcealment : Bool}
    (hanswers : InterFrameMacroblock.Unconcealed errorConcealment Answers)
    {parser : Parser α} {write : α → SymbolWriter}
    (h : Echoes Answers [] parser parser write) :
    Echoes Answers [] (orZero errorConcealment parser) (orZero false parser)
      write := by
  apply BitParser.echoes_valid
  intro answer hanswer
  rw [hanswers answer hanswer, if_neg Bool.false_ne_true]
  exact h.unasked

theorem segment_echoes (mbSegmentTreeProbs : List Probability) :
    Echoes Answers [] (do
        let segment ← tree segmentIdTree mbSegmentTreeProbs
        return UInt8.ofNat segment : Parser UInt8) (do
        let segment ← tree segmentIdTree mbSegmentTreeProbs
        return UInt8.ofNat segment)
      fun segment : UInt8 =>
        encodeTree segmentIdTree mbSegmentTreeProbs segment.toNat := by
  have hordered : TreeOrdered segmentIdTree := by decide
  have hleaves : ∀ node ∈ segmentIdTree, ¬ 0 < node →
      (-node).toNat < 4 := by decide
  have hsmall : (tree segmentIdTree mbSegmentTreeProbs).Yields Answers
      fun segment => segment < 4 := treeFrom_yields hleaves _ _
  apply (tree_echoes hordered mbSegmentTreeProbs).bind_of hsmall
  intro segment symbols hsegment hsymbols
  apply BitParser.echoes_pure
  rw [UInt8.toNat_ofNat', Nat.mod_eq_of_lt (by omega), hsymbols]
  rfl

section Serialize

variable {FrameHeader MacroblockHeader : Type}
variable [HeaderType FrameHeader MacroblockHeader]

theorem mbSkipCoeff_echoes (header : FrameHeader) :
    Echoes Answers [] (parseMbSkipCoeff header) (parseMbSkipCoeff header)
      (encodeMbSkipCoeff header) := by
  unfold parseMbSkipCoeff encodeMbSkipCoeff
  cases hprob : HeaderType.probSkipFalse header with
  | none => exact ⟨[], rfl, rfl, rfl⟩
  | some probability =>
      simp only [Option.isNone_some, Bool.and_false, Bool.false_eq_true,
        if_false]
      exact optional_echoes (boolean_echoes _) true

end Serialize

structure Decoded (FrameHeader : Type) {MacroblockHeader : Type}
    [HeaderWriter FrameHeader MacroblockHeader]
    (mb decoded : Macroblock MacroblockHeader) : Prop where
  segmentIdUpdate : decoded.segmentIdUpdate = mb.segmentIdUpdate
  mbSkipCoeff : decoded.mbSkipCoeff = mb.mbSkipCoeff
  header : ∀ header : FrameHeader,
    HeaderWriter.encodeMacroblockHeader header decoded.header =
      HeaderWriter.encodeMacroblockHeader header mb.header
  clear : decoded.Clear

theorem parseSubblockModes_clear {mode : MbMode}
    {probs : Square YBlock 4 → Fin 4 → Fin 4 → Parser (List Probability)} :
    (places : List (Fin 4 × Fin 4)) → {Y : Square YBlock 4} → ClearSquare Y →
    (parseSubblockModes mode probs places Y).Ensures ClearSquare
  | [], _, hclear => hclear
  | (column, row) :: rest, Y, hclear => by
      rw [parseSubblockModes]
      split
      · apply ensures_bind
        intro probabilities
        apply ensures_bind
        intro subblockMode
        exact parseSubblockModes_clear rest (hclear.set (hclear column row))
      · apply ensures_bind
        intro subblockMode
        exact parseSubblockModes_clear rest (hclear.set (hclear column row))

theorem setIfCoded_clear {block : Y2Block}
    (h : block.coefficients = fun _ => 0) (mode : MbMode) :
    (Block.setIfCoded { block with predictionMode := mode }).coefficients =
      fun _ => 0 := by
  rw [Block.setIfCoded_coefficients]
  exact h

theorem KeyFrameMacroblock.decodePredictionModes_decoded
    (context : Context KeyFrameMacroblock) {mb : KeyFrameMacroblock}
    (hclear : mb.Clear) :
    (KeyFrameMacroblock.decodePredictionModes context mb).Ensures
      (Decoded KeyFrameHeader mb) := by
  apply ensures_bind
  intro mode
  apply (parseSubblockModes_clear subblocks hclear.Y).bind
  intro Y hY
  apply ensures_bind
  intro uvMode
  exact ⟨rfl, rfl, fun _ => rfl, setIfCoded_clear hclear.Y2 mode, hY,
    hclear.U.set (hclear.U 0 0), hclear.V⟩

namespace InterFrameMacroblock

theorem decodeIntraModes_decoded (tables : ProbabilityTables)
    {mb : InterFrameMacroblock} (hclear : mb.Clear) :
    (decodeIntraModes tables mb).Ensures (Decoded InterFrameHeader mb) := by
  apply ensures_bind
  intro mode
  apply (parseSubblockModes_clear subblocks hclear.Y).bind
  intro Y hY
  apply ensures_bind
  intro uvMode
  exact ⟨rfl, rfl, fun _ => rfl, setIfCoded_clear hclear.Y2 mode, hY,
    hclear.U.set (hclear.U 0 0), hclear.V⟩

theorem readSubblockInterPrediction_clear (leftMv aboveMv bestMv : MotionVector)
    (motionVectorProbs : SafeArray (SafeArray Probability 19) 2)
    {block : YBlock} (hclear : block.coefficients = fun _ => 0) :
    (readSubblockInterPrediction leftMv aboveMv bestMv motionVectorProbs
      block).Ensures fun read => read.coefficients = fun _ => 0 := by
  apply ensures_bind
  intro mode
  cases mode with
  | left4x4 => exact hclear
  | above4x4 => exact hclear
  | zero4x4 => exact hclear
  | new4x4 =>
      apply ensures_bind
      intro newMv
      exact hclear
  | _ => trivial

theorem copySubblock_clear (first : YBlock) :
    (others : List (Fin 4 × Fin 4)) → {Y : Square YBlock 4} → ClearSquare Y →
    ClearSquare (copySubblock Y first others)
  | [], _, hclear => hclear
  | (column, row) :: rest, _, hclear =>
      copySubblock_clear first rest (hclear.set (hclear column row))

theorem parsePartitions_clear (context : Context InterFrameMacroblock)
    (bestMv : MotionVector)
    (motionVectorProbs : SafeArray (SafeArray Probability 19) 2) :
    (partitions : List (List (Fin 4 × Fin 4))) → {Y : Square YBlock 4} →
    ClearSquare Y →
    (parsePartitions context bestMv motionVectorProbs partitions Y).Ensures
      ClearSquare
  | [], _, hclear => hclear
  | [] :: rest, _, hclear =>
      parsePartitions_clear context bestMv motionVectorProbs rest hclear
  | ((column, row) :: others) :: rest, Y, hclear => by
      have hblock : ({ Y column row with type := .yWithoutY2 } :
          YBlock).coefficients = fun _ => 0 := hclear column row
      rw [parsePartitions]
      apply (readSubblockInterPrediction_clear _ _ bestMv motionVectorProbs
        hblock).bind
      intro first hfirst
      exact parsePartitions_clear context bestMv motionVectorProbs rest
        (copySubblock_clear first others (hclear.set hfirst))

theorem setBaseMotionVector_decoded {mb : InterFrameMacroblock}
    (hclear : mb.Clear) (mv : MotionVector) :
    Decoded InterFrameHeader mb (setBaseMotionVector mb mv) :=
  ⟨rfl, rfl, fun _ => rfl, hclear.Y2, hclear.Y.set (hclear.Y 3 3), hclear.U,
    hclear.V⟩

theorem decodeMotionVectors_decoded (tables : ProbabilityTables)
    (context : Context InterFrameMacroblock) (census : Scorer)
    {mb : InterFrameMacroblock} (hclear : mb.Clear) :
    (decodeMotionVectors tables context census mb).Ensures
      (Decoded InterFrameHeader mb) := by
  unfold decodeMotionVectors
  cases mb.Y2.predictionMode with
  | nearestMv => exact setBaseMotionVector_decoded hclear _
  | nearMv => exact setBaseMotionVector_decoded hclear _
  | zeroMv => exact setBaseMotionVector_decoded hclear _
  | newMv =>
      apply ensures_bind
      intro newMv
      exact setBaseMotionVector_decoded hclear _
  | splitMv =>
      apply ensures_bind
      intro partitionId
      apply ensures_bind
      intro partitions
      apply (parsePartitions_clear context _ _ partitions hclear.Y).bind
      intro Y hY
      exact ⟨rfl, rfl, fun _ => rfl, hclear.Y2, hY, hclear.U, hclear.V⟩
  | _ => trivial

theorem setMotionVectors_decoded {mb decoded : InterFrameMacroblock}
    (h : Decoded InterFrameHeader mb decoded) :
    Decoded InterFrameHeader mb (setMotionVectors decoded) := by
  refine ⟨h.segmentIdUpdate, h.mbSkipCoeff, h.header, h.clear.Y2, ?_,
    h.clear.U, h.clear.V⟩
  unfold setMotionVectors
  intro column row
  dsimp only
  split
  · exact h.clear.Y column row
  · exact h.clear.Y column row

theorem decodeInterMode_clear (errorConcealment : Bool) (census : Scorer)
    {Y2 : Y2Block} (hclear : Y2.coefficients = fun _ => 0) :
    (decodeInterMode errorConcealment census Y2).Ensures
      fun decoded => decoded.coefficients = fun _ => 0 := by
  apply ensures_bind
  intro probs valid
  dsimp only
  split
  · exact hclear
  · apply ensures_bind
    intro mode
    exact setIfCoded_clear hclear mode

theorem decodeModes_decoded (tables : ProbabilityTables)
    (errorConcealment : Bool) (context : Context InterFrameMacroblock)
    {mb : InterFrameMacroblock} (hclear : mb.Clear) :
    (decodeModes tables errorConcealment context mb).Ensures
      (Decoded InterFrameHeader mb) := by
  unfold decodeModes
  split
  · apply (decodeInterMode_clear errorConcealment _ hclear.Y2).bind
    intro Y2 hY2
    have hclear : Macroblock.Clear { mb with Y2 } :=
      ⟨hY2, hclear.Y, hclear.U, hclear.V⟩
    apply (decodeMotionVectors_decoded tables context _ hclear).bind
    intro decoded hdecoded
    exact setMotionVectors_decoded ⟨hdecoded.segmentIdUpdate,
      hdecoded.mbSkipCoeff, hdecoded.header, hdecoded.clear⟩
  · exact decodeIntraModes_decoded tables hclear

end InterFrameMacroblock

section Parse

variable {FrameHeader MacroblockHeader : Type}
variable [HeaderType FrameHeader MacroblockHeader]
variable [HeaderWriter FrameHeader MacroblockHeader]

/-- What is parsed with a header type is written back to be parsed again, then
without error concealment. -/
structure WritesBack (FrameHeader : Type) {MacroblockHeader : Type}
    [HeaderType FrameHeader MacroblockHeader]
    [HeaderWriter FrameHeader MacroblockHeader] (errorConcealment : Bool)
    (Answers : Bool → Prop) : Prop where
  answers : InterFrameMacroblock.Unconcealed errorConcealment Answers
  header : Echoes Answers [] (HeaderType.parse : Parser FrameHeader)
    HeaderType.parse HeaderWriter.encodeHeader
  macroblockHeader : ∀ header : FrameHeader,
    Echoes Answers [] (HeaderType.parseMacroblockHeader header)
      (HeaderType.parseMacroblockHeader header)
      (HeaderWriter.encodeMacroblockHeader header)
  modes : ∀ tables context {mb : Macroblock MacroblockHeader}, mb.Clear →
    (HeaderType.decodePredictionModes FrameHeader tables errorConcealment
      context mb).Yields Answers fun decoded =>
        Decoded FrameHeader mb decoded ∧ ∃ symbols,
          HeaderWriter.encodePredictionModes FrameHeader tables context
              decoded = .ok symbols ∧
            (HeaderType.decodePredictionModes FrameHeader tables false context
              mb).Consumes symbols decoded

theorem writesBack_key (Answers : Bool → Prop) :
    WritesBack KeyFrameHeader false Answers where
  answers _ _ := rfl
  header := KeyFrameHeader.parse_echoes
  macroblockHeader _ := BitParser.echoes_pure rfl
  modes _ context _ hclear := by
    refine Yields.mono (Yields.and
      (KeyFrameMacroblock.decodePredictionModes_decoded context hclear).yields
      (KeyFrameMacroblock.decodePredictionModes_echoes context _)) ?_
    rintro decoded ⟨hdecoded, symbols, hsymbols, hreads⟩
    exact ⟨hdecoded, symbols, hsymbols, hreads⟩

theorem writesBack_inter {errorConcealment : Bool} {Answers : Bool → Prop}
    (hanswers : InterFrameMacroblock.Unconcealed errorConcealment Answers) :
    WritesBack InterFrameHeader errorConcealment Answers where
  answers := hanswers
  header := InterFrameHeader.parse_echoes
  macroblockHeader := InterFrameMacroblockHeader.parse_echoes
  modes tables context mb hclear := by
    intro answer hanswer
    dsimp only
    rw [hanswers answer hanswer, if_neg Bool.false_ne_true]
    refine Yields.mono (Yields.and
      (InterFrameMacroblock.decodeModes_decoded tables errorConcealment context
        hclear).yields
      (InterFrameMacroblock.decodeModes_echoes hanswers tables context mb)) ?_
    rintro decoded ⟨hdecoded, symbols, hsymbols, hreads⟩
    exact ⟨hdecoded, symbols, hsymbols, fun _ => hreads⟩

theorem Macroblock.parse_echoes {errorConcealment : Bool}
    (h : WritesBack FrameHeader errorConcealment Answers)
    (header : FrameHeader) (mbSegmentTreeProbs : List Probability)
    (tables : ProbabilityTables)
    (context : Context (Macroblock MacroblockHeader)) :
    (Macroblock.parse header mbSegmentTreeProbs tables errorConcealment
      context).Yields Answers fun mb => mb.Clear ∧ ∃ symbols,
        mb.serialize header mbSegmentTreeProbs tables context =
            .ok symbols ∧
          (Macroblock.parse header mbSegmentTreeProbs tables false
            context).Consumes symbols mb := by
  have hsegment : Echoes Answers []
      (orZero errorConcealment (parseSegmentIdUpdate header mbSegmentTreeProbs))
      (orZero false (parseSegmentIdUpdate header mbSegmentTreeProbs))
      (encodeSegmentIdUpdate mbSegmentTreeProbs) :=
    orZero_echoes h.answers
      (optional_echoes (segment_echoes mbSegmentTreeProbs) _)
  have hskip := orZero_echoes h.answers (mbSkipCoeff_echoes header)
  apply Yields.bind hsegment
  rintro segmentIdUpdate ⟨first, hfirst, hreadsSegment⟩
  apply Yields.bind hskip
  rintro mbSkipCoeff ⟨second, hsecond, hreadsSkip⟩
  have hheader : Echoes Answers []
      (.valid fun valid => if errorConcealment && !valid then
          pure (HeaderType.missingHeader FrameHeader)
        else HeaderType.parseMacroblockHeader header)
      (.valid fun valid => if false && !valid then
          pure (HeaderType.missingHeader FrameHeader)
        else HeaderType.parseMacroblockHeader header)
      (HeaderWriter.encodeMacroblockHeader header) := by
    apply BitParser.echoes_valid
    intro answer hanswer
    rw [h.answers answer hanswer, if_neg Bool.false_ne_true]
    exact (h.macroblockHeader header).unasked
  apply Yields.bind hheader
  rintro mbHeader ⟨third, hthird, hreadsHeader⟩
  refine Yields.mono (h.modes tables context
    (⟨rfl, fun _ _ => rfl, fun _ _ => rfl, fun _ _ => rfl⟩)) ?_
  rintro mb ⟨hdecoded, fourth, hfourth, hreadsModes⟩
  refine ⟨hdecoded.clear, first ++ (second ++ (third ++ fourth)), ?_,
    hreadsSegment.bind (hreadsSkip.bind (hreadsHeader.bind hreadsModes))⟩
  rw [List.nil_append] at hfirst hsecond hthird
  simp only [Macroblock.serialize, hdecoded.segmentIdUpdate,
    hdecoded.mbSkipCoeff, hdecoded.header, BitWriter.concat_cons,
    BitWriter.concat_nil, hfirst, hsecond, hthird, hfourth,
    BitWriter.append_ok, List.append_nil]

end Parse

end Salsify.Codec
