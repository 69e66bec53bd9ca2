import Salsify.Codec.ParserTotality
import Salsify.Coder.Exhausted

namespace Salsify.Codec

open Salsify.Coder (BoolDecoder Probability splitOf)
open Salsify.Net (Failure Chunk)
open BitParser (ensures_bind run_bind)
open Fallible (bind_eq_ok ok_bind)

/-! The macroblocks of an inter frame whose first partition was cut short. The
decoder of a cut partition is told that its chunk is complete, so it never
reports that it has run out, and error concealment never acts. -/

/-- Answers as the code's decoder of a cut partition does, from a decoder that
knows its chunk is cut and keeps the flag. -/
def watched : BitSource Probability BoolDecoder where
  get decoder probability := decoder.get probability
  valid _ := true

theorem watched_valid (decoder : BoolDecoder) : watched.valid decoder = true :=
  rfl

theorem watched_told :
    BitParser.SameAnswers watched boolDecoder BoolDecoder.told where
  get decoder probability := BoolDecoder.get_told decoder probability
  valid _ := rfl

/-- Where the header of a macroblock starts. The decoder is not valid once it
has been asked for data beyond the end of the partition. -/
structure HeaderStart where
  header : InterFrameHeader
  tables : ProbabilityTables
  context : Context InterFrameMacroblock
  decoder : BoolDecoder

/-- The start of the macroblock at an index, row by row, of the frame. -/
def headerStart {width height : Nat} (state : DecoderState width height)
    (chunk : UncompressedChunk) (index : Nat) :
    Except Failure HeaderStart := do
  let mbWidth := macroblockDimension width
  let mbHeight := macroblockDimension height
  let (header, first) ← InterFrameHeader.parse.run watched
    (.ofChunk chunk.firstPartition false)
  let tables := state.probabilityTables.update header
  let (before, decoder) ← (parseMacroblocks header tables true mbWidth mbHeight
    ((Grid.places mbWidth mbHeight).take index) []).run watched first
  return {
    header, tables, decoder
    context := contextAt mbWidth mbHeight before
      (index % mbWidth, index / mbWidth) }

def threshold (decoder : BoolDecoder) (probability : Probability) : UInt32 :=
  splitOf decoder.range probability <<< (8 : UInt32)

namespace InterFrameMacroblock

def readMode (census : Scorer) : Parser MbMode := do
  let probs ← mvRefProbs census.modeContexts
  treeOf MbMode.values mvRefTree (List.ofFn probs)

/-- Reads the vectors of a mode: whether all luma vectors come to zero. -/
def stillVectors (tables : ProbabilityTables)
    (context : Context InterFrameMacroblock) (census : Scorer)
    (Y : Square YBlock 4) : MbMode → Parser Bool
  | .nearestMv => pure (Scorer.clamp census.nearest context = {})
  | .nearMv => pure (Scorer.clamp census.near context = {})
  | .zeroMv => pure true
  | .newMv => do
      let newMv ← MotionVector.parse tables.motionVectorProbs
      return (newMv.add (Scorer.clamp census.best context) = {})
  | .splitMv => do
      let partitionId ← tree splitMvTree splitMvProbs
      let partitions ← found mvPartitions[partitionId]?
      let vectors ← parsePartitions context (Scorer.clamp census.best context)
        tables.motionVectorProbs partitions Y
      return (∀ column row, (vectors column row).motionVector = {})
  | _ => .fail .logicError

def parseFlags (header : InterFrameHeader) :
    Parser (Option UInt8 × Option Bool) := do
  let segmentIdUpdate ← parseSegmentIdUpdate header
    (calculateMbSegmentTreeProbs header.updateSegmentation)
  let mbSkipCoeff ← parseMbSkipCoeff header
  return (segmentIdUpdate, mbSkipCoeff)

/-- What is left in the window, with zeros after it, codes a macroblock of the
last frame that does not move: its value reaches the threshold of the inter
flag and stays below that of the reference selector, and the vectors that
follow come to zero. -/
def CodedStill (start : HeaderStart) : Prop :=
  ∃ flags inter,
    (parseFlags start.header).run watched start.decoder = .ok (flags, inter) ∧
    threshold inter start.header.probInter ≤ inter.value ∧
    let selector := (inter.get start.header.probInter).2
    selector.value < threshold selector start.header.probReferencesLast ∧
    let census := motionVectorCensus start.context false
    ∃ last, (readMode census >>= stillVectors start.tables start.context census
        fun _ _ => { type := .yAfterY2, predictionMode := .bDcPred }).run watched
      (selector.get start.header.probReferencesLast).2 = .ok (true, last)

def Blank {Mode : Type} {size : Nat} (square : Square (Block Mode) size) :
    Prop :=
  ∀ column row, (square column row).coefficients = 0

structure NoResidual (mb : InterFrameMacroblock) : Prop where
  Y2 : mb.Y2.coefficients = 0
  Y : Blank mb.Y
  U : Blank mb.U
  V : Blank mb.V

def LumaStill (mb : InterFrameMacroblock) : Prop :=
  ∀ column row, (mb.Y column row).motionVector = {}

/-- Predicted from the last frame with a zero motion vector, and nothing added
to the prediction. -/
structure Still (mb : InterFrameMacroblock) : Prop where
  interCoded : interCoded mb = true
  reference : mb.header.reference = some .lastFrame
  lumaVectors : LumaStill mb
  chromaVectors : ∀ column row, (mb.U column row).motionVector = {}
  noResidual : NoResidual mb

instance {Mode : Type} {size : Nat} (square : Square (Block Mode) size) :
    Decidable (Blank square) :=
  inferInstanceAs (Decidable (∀ _ _, _ = _))

instance (mb : InterFrameMacroblock) : Decidable (LumaStill mb) :=
  inferInstanceAs (Decidable (∀ _ _, _ = _))

instance (mb : InterFrameMacroblock) : Decidable (NoResidual mb) :=
  decidable_of_iff (mb.Y2.coefficients = 0 ∧ Blank mb.Y ∧ Blank mb.U ∧
    Blank mb.V) ⟨fun ⟨Y2, Y, U, V⟩ => ⟨Y2, Y, U, V⟩,
      fun ⟨Y2, Y, U, V⟩ => ⟨Y2, Y, U, V⟩⟩

instance (mb : InterFrameMacroblock) : Decidable (Still mb) :=
  decidable_of_iff (interCoded mb = true ∧
      mb.header.reference = some .lastFrame ∧ LumaStill mb ∧
      (∀ column row, (mb.U column row).motionVector = {}) ∧ NoResidual mb)
    ⟨fun ⟨inter, last, luma, chroma, blank⟩ =>
        ⟨inter, last, luma, chroma, blank⟩,
      fun ⟨inter, last, luma, chroma, blank⟩ =>
        ⟨inter, last, luma, chroma, blank⟩⟩

theorem Blank.set {Mode : Type} {size : Nat} [NeZero size]
    {square : Square (Block Mode) size} (h : Blank square)
    {column row : Fin size} {block : Block Mode}
    (hblock : block.coefficients = 0) :
    Blank (square.set column row block) := by
  intro i j
  unfold Square.set
  split
  · exact hblock
  · exact h i j

theorem parseSubblockModes_blank {mode : MbMode}
    {probs : Square YBlock 4 → Fin 4 → Fin 4 → Parser (List Probability)} :
    (places : List (Fin 4 × Fin 4)) → (Y : Square YBlock 4) → Blank Y →
      (parseSubblockModes mode probs places Y).Ensures Blank
  | [], Y, h => h
  | (column, row) :: rest, Y, h => by
      unfold parseSubblockModes
      split
      · apply ensures_bind
        intro probabilities
        apply ensures_bind
        intro subblockMode
        exact parseSubblockModes_blank rest _ (h.set (h column row))
      · apply ensures_bind
        intro subblockMode
        exact parseSubblockModes_blank rest _ (h.set (h column row))

theorem readSubblockInterPrediction_blank {leftMv aboveMv bestMv : MotionVector}
    {motionVectorProbs : SafeArray (SafeArray Probability 19) 2}
    {block : YBlock} (h : block.coefficients = 0) :
    (readSubblockInterPrediction leftMv aboveMv bestMv motionVectorProbs
      block).Ensures fun read => read.coefficients = 0 := by
  unfold readSubblockInterPrediction
  apply ensures_bind
  intro mode
  cases mode with
  | left4x4 => exact h
  | above4x4 => exact h
  | zero4x4 => exact h
  | new4x4 =>
      apply ensures_bind
      intro newMv
      exact h
  | _ => trivial

theorem copySubblock_blank {first : YBlock} :
    (places : List (Fin 4 × Fin 4)) → (Y : Square YBlock 4) → Blank Y →
      Blank (copySubblock Y first places)
  | [], _, h => h
  | (column, row) :: rest, _, h =>
      copySubblock_blank rest _ (h.set (h column row))

theorem parsePartitions_blank {context : Context InterFrameMacroblock}
    {bestMv : MotionVector}
    {motionVectorProbs : SafeArray (SafeArray Probability 19) 2} :
    (partitions : List (List (Fin 4 × Fin 4))) → (Y : Square YBlock 4) →
      Blank Y → (parsePartitions context bestMv motionVectorProbs partitions
        Y).Ensures Blank
  | [], _, h => h
  | [] :: rest, Y, h => parsePartitions_blank rest Y h
  | ((column, row) :: others) :: rest, Y, h => by
      rw [parsePartitions]
      have hblock : ({ Y column row with
          type := .yWithoutY2 } : YBlock).coefficients = 0 := h column row
      refine (readSubblockInterPrediction_blank hblock).bind ?_
      intro first hfirst
      exact parsePartitions_blank rest _
        (copySubblock_blank others _ (h.set hfirst))

theorem decodeIntraModes_noResidual {tables : ProbabilityTables}
    {mb : InterFrameMacroblock} (h : NoResidual mb) :
    (decodeIntraModes tables mb).Ensures NoResidual := by
  unfold decodeIntraModes
  apply ensures_bind
  intro mode
  refine (parseSubblockModes_blank subblocks mb.Y h.Y).bind ?_
  intro Y hY
  apply ensures_bind
  intro uvMode
  exact ⟨(Block.setIfCoded_coefficients _).trans h.Y2, hY, h.U.set (h.U 0 0), h.V⟩

theorem decodeInterMode_coefficients {errorConcealment : Bool}
    {census : Scorer} {Y2 : Y2Block} (h : Y2.coefficients = 0) :
    (decodeInterMode errorConcealment census Y2).Ensures
      fun decoded => decoded.coefficients = 0 := by
  unfold decodeInterMode
  apply ensures_bind
  intro probs valid
  dsimp only
  split
  · exact h
  · apply ensures_bind
    intro mode
    exact (Block.setIfCoded_coefficients _).trans h

theorem setBaseMotionVector_noResidual {mb : InterFrameMacroblock}
    (h : NoResidual mb) (mv : MotionVector) :
    NoResidual (setBaseMotionVector mb mv) :=
  ⟨h.Y2, h.Y.set (h.Y 3 3), h.U, h.V⟩

theorem decodeMotionVectors_noResidual {tables : ProbabilityTables}
    {context : Context InterFrameMacroblock} {census : Scorer}
    {mb : InterFrameMacroblock} (h : NoResidual mb) :
    (decodeMotionVectors tables context census mb).Ensures NoResidual := by
  unfold decodeMotionVectors
  split
  case h_1 => exact setBaseMotionVector_noResidual h _
  case h_2 => exact setBaseMotionVector_noResidual h _
  case h_3 => exact setBaseMotionVector_noResidual h _
  case h_4 =>
    apply ensures_bind
    intro newMv
    exact setBaseMotionVector_noResidual h _
  case h_5 =>
    apply ensures_bind
    intro partitionId
    apply ensures_bind
    intro partitions
    refine (parsePartitions_blank partitions mb.Y h.Y).bind ?_
    intro Y hY
    exact ⟨h.Y2, hY, h.U, h.V⟩
  case h_6 => trivial

theorem setMotionVectors_noResidual {mb : InterFrameMacroblock}
    (h : NoResidual mb) : NoResidual (setMotionVectors mb) := by
  refine ⟨h.Y2, ?_, fun column row => h.U column row, h.V⟩
  intro column row
  unfold setMotionVectors
  dsimp only
  split
  · exact h.Y column row
  · exact h.Y column row

theorem decodeModes_noResidual {tables : ProbabilityTables}
    {errorConcealment : Bool} {context : Context InterFrameMacroblock}
    {mb : InterFrameMacroblock} (h : NoResidual mb) :
    (decodeModes tables errorConcealment context mb).Ensures NoResidual := by
  unfold decodeModes
  split
  · refine (decodeInterMode_coefficients h.Y2).bind ?_
    intro Y2 hY2
    have hmb : NoResidual { mb with Y2 } := ⟨hY2, h.Y, h.U, h.V⟩
    refine (decodeMotionVectors_noResidual hmb).bind ?_
    intro decoded hdecoded
    exact setMotionVectors_noResidual hdecoded
  · exact decodeIntraModes_noResidual h

theorem lumaStill_split {mb : InterFrameMacroblock}
    (h : mb.Y2.predictionMode = .splitMv) :
    LumaStill (setMotionVectors mb) ↔
      ∀ column row, (mb.Y column row).motionVector = {} := by
  unfold LumaStill setMotionVectors
  rw [if_pos h]

theorem lumaStill_base {mb : InterFrameMacroblock}
    (h : mb.Y2.predictionMode ≠ .splitMv) :
    LumaStill (setMotionVectors mb) ↔ baseMotionVector mb = {} := by
  unfold LumaStill setMotionVectors
  rw [if_neg h]
  exact ⟨fun hall => hall 0 0, fun hbase _ _ => hbase⟩

theorem lumaStill_setBase (mb : InterFrameMacroblock)
    (h : mb.Y2.predictionMode ≠ .splitMv) (mv : MotionVector) :
    LumaStill (setMotionVectors (setBaseMotionVector mb mv)) ↔ mv = {} := by
  have hmode : (setBaseMotionVector mb mv).Y2.predictionMode ≠ .splitMv := h
  rw [lumaStill_base hmode]
  rfl

theorem LumaStill.chroma {mb : InterFrameMacroblock}
    (h : LumaStill (setMotionVectors mb)) (column row : Fin 2) :
    ((setMotionVectors mb).U column row).motionVector = {} := by
  have hchroma : ((setMotionVectors mb).U column row).motionVector =
      .lumaToChroma
        ((setMotionVectors mb).Y (firstOfTwo column)
          (firstOfTwo row)).motionVector
        ((setMotionVectors mb).Y (secondOfTwo column)
          (firstOfTwo row)).motionVector
        ((setMotionVectors mb).Y (firstOfTwo column)
          (secondOfTwo row)).motionVector
        ((setMotionVectors mb).Y (secondOfTwo column)
          (secondOfTwo row)).motionVector := rfl
  rw [hchroma, h, h, h, h]
  rfl

theorem decodeInterMode_run (census : Scorer) (Y2 : Y2Block)
    (decoder : BoolDecoder) :
    (decodeInterMode true census Y2).run watched decoder =
      (readMode census >>= fun mode => (pure (Block.setIfCoded
        { Y2 with predictionMode := mode }) : Parser Y2Block)).run watched
          decoder := by
  unfold decodeInterMode readMode
  simp only [run_bind]
  cases (mvRefProbs census.modeContexts).run watched decoder with
  | error failure => rfl
  | ok probs =>
      simp only [ok_bind, BitParser.run_valid, watched_valid, Bool.not_true,
        Bool.and_false, Bool.false_eq_true, if_false, run_bind]

/-- The vectors of a mode are read the same where only their being zero is
asked. -/
theorem stillVectors_run (tables : ProbabilityTables)
    (context : Context InterFrameMacroblock) (census : Scorer)
    (mb : InterFrameMacroblock) (decoder : BoolDecoder) :
    (stillVectors tables context census mb.Y mb.Y2.predictionMode).run watched
        decoder =
      ((decodeMotionVectors tables context census mb).run watched decoder).map
        fun result =>
          (decide (LumaStill (setMotionVectors result.1)), result.2) := by
  unfold stillVectors decodeMotionVectors
  cases hmode : mb.Y2.predictionMode with
  | nearestMv =>
      simp [Except.map, lumaStill_setBase mb (by simp [hmode])]
  | nearMv =>
      simp [Except.map, lumaStill_setBase mb (by simp [hmode])]
  | zeroMv =>
      simp [Except.map, lumaStill_setBase mb (by simp [hmode])]
  | newMv =>
      simp only [run_bind]
      cases (MotionVector.parse tables.motionVectorProbs).run watched
        decoder with
      | error failure => rfl
      | ok newMv =>
          simp [ok_bind, Except.map,
            lumaStill_setBase mb (by simp [hmode])]
  | splitMv =>
      simp only [run_bind]
      cases (tree splitMvTree splitMvProbs).run watched decoder with
      | error failure => rfl
      | ok partitionId =>
          simp only [ok_bind]
          cases (found mvPartitions[partitionId.1]?).run watched
            partitionId.2 with
          | error failure => rfl
          | ok partitions =>
              simp only [ok_bind]
              cases (parsePartitions context (Scorer.clamp census.best context)
                tables.motionVectorProbs partitions.1 mb.Y).run watched
                  partitions.2 with
              | error failure => rfl
              | ok vectors =>
                  simp [ok_bind, Except.map, lumaStill_split, hmode]
  | _ => rfl

theorem decodeModes_inter {tables : ProbabilityTables}
    {context : Context InterFrameMacroblock} {mb decoded : InterFrameMacroblock}
    {decoder last : BoolDecoder} (hinter : mb.header.isInterMb = true)
    (h : (decodeModes tables true context mb).run watched decoder =
      .ok (decoded, last)) :
    ((readMode (motionVectorCensus context mb.header.motionVectorsFlipped) >>=
        stillVectors tables context (motionVectorCensus context
          mb.header.motionVectorsFlipped) mb.Y).run watched decoder =
      .ok (decide (LumaStill decoded), last)) ∧
    (LumaStill decoded → ∀ column row,
      (decoded.U column row).motionVector = {}) := by
  unfold decodeModes at h
  rw [interCoded, if_pos hinter] at h
  simp only [run_bind, decodeInterMode_run] at h ⊢
  obtain ⟨⟨Y2, start⟩, hY2, h⟩ := bind_eq_ok h
  obtain ⟨⟨mode, read⟩, hmode, hset⟩ := bind_eq_ok hY2
  cases hset
  obtain ⟨⟨vectors, after⟩, hvectors, hlast⟩ := bind_eq_ok h
  cases hlast
  have hstill := stillVectors_run tables context
    (motionVectorCensus context mb.header.motionVectorsFlipped)
    { mb with Y2 := Block.setIfCoded { mb.Y2 with predictionMode := mode } }
    read
  rw [hvectors, Block.setIfCoded_predictionMode] at hstill
  exact ⟨by rw [hmode, ok_bind]; exact hstill, LumaStill.chroma⟩

theorem orZero_run {α : Type} (parser : Parser α) (decoder : BoolDecoder) :
    (orZero true parser).run watched decoder = parser.run watched decoder :=
  rfl

theorem parse_run (header : InterFrameHeader) (tables : ProbabilityTables)
    (context : Context InterFrameMacroblock) (decoder : BoolDecoder) :
    (Macroblock.parse header
        (calculateMbSegmentTreeProbs header.updateSegmentation) tables true
        context).run watched decoder =
      (parseFlags header).run watched decoder >>= fun flags =>
        (InterFrameMacroblockHeader.parse header).run watched flags.2 >>=
          fun mbHeader => (decodeModes tables true context {
            column := context.column
            row := context.row
            segmentIdUpdate := flags.1.1
            mbSkipCoeff := flags.1.2
            header := mbHeader.1 }).run watched mbHeader.2 := by
  unfold Macroblock.parse parseFlags
  simp only [run_bind, orZero_run]
  cases hsegment : (parseSegmentIdUpdate header (calculateMbSegmentTreeProbs
      header.updateSegmentation)).run watched decoder with
  | error failure => rfl
  | ok segment =>
      simp only [ok_bind]
      cases hskip : (parseMbSkipCoeff header).run watched segment.2 with
      | error failure => rfl
      | ok skip => rfl

theorem get_fst (decoder : BoolDecoder) (probability : Probability) :
    (decoder.get probability).1 =
      decide (threshold decoder probability ≤ decoder.value) := by
  unfold threshold
  by_cases hone : splitOf decoder.range probability <<< (8 : UInt32) ≤
      decoder.value
  · rw [BoolDecoder.get, if_pos hone, decide_eq_true hone]
  · rw [BoolDecoder.get, if_neg hone, decide_eq_false hone]

theorem boolean_run (probability : Probability) (decoder : BoolDecoder) :
    (boolean probability).run watched decoder =
      .ok ((decoder.get probability).1, (decoder.get probability).2) :=
  rfl

theorem optional_absent {α : Type} (element : Parser α)
    (decoder : BoolDecoder) :
    (optional false element).run watched decoder = .ok (none, decoder) :=
  rfl

theorem optional_boolean (probability : Probability) (decoder : BoolDecoder) :
    (optional true (boolean probability)).run watched decoder =
      .ok (some (decoder.get probability).1, (decoder.get probability).2) :=
  rfl

theorem parseHeader_run {header : InterFrameHeader}
    {mbHeader : InterFrameMacroblockHeader} {decoder last : BoolDecoder}
    (h : (InterFrameMacroblockHeader.parse header).run watched decoder =
      .ok (mbHeader, last)) :
    mbHeader.isInterMb = (decoder.get header.probInter).1 ∧
    (mbHeader.isInterMb = true →
      let selector := (decoder.get header.probInter).2
      (mbHeader.reference = some .lastFrame ↔
        (selector.get header.probReferencesLast).1 = false) ∧
      (mbHeader.reference = some .lastFrame →
        mbHeader.motionVectorsFlipped = false ∧
          last = (selector.get header.probReferencesLast).2)) := by
  unfold InterFrameMacroblockHeader.parse at h
  simp only [run_bind, boolean_run, ok_bind] at h
  cases hinter : (decoder.get header.probInter).1 with
  | false =>
      rw [hinter, optional_absent, ok_bind, Option.getD_none, optional_absent,
        ok_bind] at h
      cases h
      exact ⟨rfl, fun hcoded => nomatch hcoded⟩
  | true =>
      rw [hinter, optional_boolean, ok_bind, Option.getD_some] at h
      cases hselector : (((decoder.get header.probInter).2).get
          header.probReferencesLast).1 with
      | false =>
          rw [hselector, optional_absent, ok_bind] at h
          cases h
          exact ⟨rfl, fun _ => ⟨⟨fun _ => hselector, fun _ => rfl⟩,
            fun _ => ⟨rfl, rfl⟩⟩⟩
      | true =>
          rw [hselector, optional_boolean, ok_bind] at h
          cases h
          have hother : ∀ golden, referenceOf true (some true) (some golden) ≠
              some .lastFrame := by decide
          refine ⟨rfl, fun _ => ⟨⟨fun hlast => absurd hlast (hother _), ?_⟩,
            fun hlast => absurd hlast (hother _)⟩⟩
          intro hzero
          rw [hselector] at hzero
          cases hzero

theorem parse_still_iff {start : HeaderStart} {last : BoolDecoder}
    {mb : InterFrameMacroblock}
    (h : (Macroblock.parse start.header
        (calculateMbSegmentTreeProbs start.header.updateSegmentation)
        start.tables true start.context).run watched start.decoder =
      .ok (mb, last)) :
    Still mb ↔ CodedStill start := by
  rw [parse_run] at h
  obtain ⟨⟨flags, inter⟩, hflags, h⟩ := bind_eq_ok h
  obtain ⟨⟨mbHeader, modes⟩, hheader, h⟩ := bind_eq_ok h
  obtain ⟨hinter, hlast⟩ := parseHeader_run hheader
  have hsource := (decodeModes_source start.tables true start.context _).of_run h
  have hfresh : NoResidual {
      column := start.context.column, row := start.context.row
      segmentIdUpdate := flags.1, mbSkipCoeff := flags.2
      header := mbHeader } :=
    ⟨rfl, fun _ _ => rfl, fun _ _ => rfl, fun _ _ => rfl⟩
  have hnoResidual := (decodeModes_noResidual hfresh).of_run h
  obtain ⟨hsourceInter, hsourceReference⟩ := Prod.mk.inj hsource
  constructor
  · intro hstill
    have hcoded : mbHeader.isInterMb = true :=
      hsourceInter.symm.trans hstill.interCoded
    have hreference : mbHeader.reference = some .lastFrame :=
      hsourceReference.symm.trans hstill.reference
    obtain ⟨hselector, hrest⟩ := hlast hcoded
    obtain ⟨hflipped, rfl⟩ := hrest hreference
    have hvectors := (decodeModes_inter hcoded h).1
    rw [hflipped, decide_eq_true hstill.lumaVectors] at hvectors
    refine ⟨flags, inter, hflags, ?_, ?_, last, hvectors⟩
    · rw [hinter, get_fst] at hcoded
      exact of_decide_eq_true hcoded
    · have hzero := hselector.mp hreference
      rw [get_fst] at hzero
      exact UInt32.not_le.mp (of_decide_eq_false hzero)
  · rintro ⟨flags', inter', hflags', hone, hzero, after, hvectors⟩
    rw [hflags] at hflags'
    cases hflags'
    have hcoded : mbHeader.isInterMb = true := by
      rw [hinter, get_fst]
      exact decide_eq_true hone
    obtain ⟨hselector, hrest⟩ := hlast hcoded
    have hreference : mbHeader.reference = some .lastFrame := by
      rw [hselector, get_fst]
      exact decide_eq_false (UInt32.not_le.mpr hzero)
    obtain ⟨hflipped, rfl⟩ := hrest hreference
    obtain ⟨hread, hchroma⟩ := decodeModes_inter hcoded h
    rw [hflipped] at hread
    have hstill : LumaStill mb := by
      have hsame := hread.symm.trans hvectors
      exact of_decide_eq_true (congrArg Prod.fst (Except.ok.inj hsame))
    exact ⟨hsourceInter.trans hcoded, hsourceReference.trans hreference,
      hstill, hchroma hstill, hnoResidual⟩

theorem mvRefProbs_foregoes {counts : SafeArray Nat 4}
    (h : ∀ index, counts index ≤ 5) :
    ∃ probs, (mvRefProbs counts).Foregoes probs := by
  have hrow : ∀ index, ∃ row, mvCountsToProbs[counts index]? = some row :=
    fun index => ⟨_, Vector.getElem?_eq_getElem (Nat.lt_succ_of_le (h index))⟩
  choose rows hrows using hrow
  refine ⟨fun index => (rows index).get index, ?_⟩
  refine BitParser.foregoes_array fun index => ?_
  rw [hrows index]
  exact BitParser.Foregoes.map (BitParser.foregoes_pure _) _

theorem decodePredictionModes_foregoes (tables : ProbabilityTables)
    (context : Context InterFrameMacroblock) {mb : InterFrameMacroblock}
    (hheader : mb.header = .missing) (hfresh : NoResidual mb) :
    ∃ decoded, (decodePredictionModes tables true context mb).Foregoes
      decoded ∧ Still decoded := by
  have hmode : (conceal mb).Y2.predictionMode = .zeroMv :=
    Block.setIfCoded_predictionMode _
  have hblank : NoResidual (conceal mb) :=
    ⟨(Block.setIfCoded_coefficients _).trans hfresh.Y2, hfresh.Y, hfresh.U,
      hfresh.V⟩
  let census := motionVectorCensus context
    (conceal mb).header.motionVectorsFlipped
  obtain ⟨probs, hprobs⟩ := mvRefProbs_foregoes
    (motionVectorCensus_bounded context
      (conceal mb).header.motionVectorsFlipped).modeContexts
  have hY2 : (decodeInterMode true census (conceal mb).Y2).Foregoes
      (conceal mb).Y2 := hprobs.bind rfl
  have hvectors : (decodeMotionVectors tables context census
      (conceal mb)).Foregoes (setBaseMotionVector (conceal mb) {}) := by
    unfold decodeMotionVectors
    rw [hmode]
    rfl
  have hstill : LumaStill (setMotionVectors
      (setBaseMotionVector (conceal mb) {})) :=
    (lumaStill_setBase _ (by rw [hmode]; decide) {}).mpr rfl
  refine ⟨setMotionVectors (setBaseMotionVector (conceal mb) {}), ?_, {
    interCoded := rfl
    reference := ?_
    lumaVectors := hstill
    chromaVectors := hstill.chroma
    noResidual := setMotionVectors_noResidual
      (setBaseMotionVector_noResidual hblank {}) }⟩
  · exact hY2.bind (hvectors.bind rfl)
  · change ({ mb.header with isInterMb := true } :
      InterFrameMacroblockHeader).reference = _
    rw [hheader]
    rfl

def parseAt (start : HeaderStart) : Parser InterFrameMacroblock :=
  Macroblock.parse start.header
    (calculateMbSegmentTreeProbs start.header.updateSegmentation)
    start.tables true start.context

theorem parseAt_foregoes (start : HeaderStart) :
    ∃ mb, (parseAt start).Foregoes mb ∧ Still mb := by
  obtain ⟨segmentIdUpdate, hsegment⟩ :=
    (parseSegmentIdUpdate_completes start.header).foregoes_answeredBy
      boolDecoder BoolDecoder.zeroDecoder
  obtain ⟨mbSkipCoeff, hskip⟩ :=
    (parseMbSkipCoeff_completes start.header).foregoes_answeredBy boolDecoder
      BoolDecoder.zeroDecoder
  obtain ⟨mb, hmb, hstill⟩ : ∃ mb, (decodePredictionModes start.tables true
      start.context {
        column := start.context.column
        row := start.context.row
        segmentIdUpdate, mbSkipCoeff
        header := .missing }).Foregoes mb ∧ Still mb :=
    decodePredictionModes_foregoes start.tables start.context rfl
      ⟨rfl, fun _ _ => rfl, fun _ _ => rfl, fun _ _ => rfl⟩
  have hheader : (BitParser.valid fun valid =>
      if true && !valid then
        pure (HeaderType.missingHeader InterFrameHeader)
      else HeaderType.parseMacroblockHeader start.header :
        Parser InterFrameMacroblockHeader).Foregoes .missing := rfl
  exact ⟨mb, BitParser.Foregoes.bind hsegment (BitParser.Foregoes.bind hskip
    (BitParser.Foregoes.bind hheader hmb)), hstill⟩

theorem parseAt_missing {start : HeaderStart}
    (hlate : start.decoder.valid = false) :
    ∃ mb, (parseAt start).run boolDecoder start.decoder =
        .ok (mb, start.decoder) ∧
      (parseAt start).asked boolDecoder start.decoder = 0 ∧ Still mb := by
  obtain ⟨mb, hforegoes, hstill⟩ := parseAt_foregoes start
  have hrun : (parseAt start).run boolDecoder start.decoder =
      .ok (mb, start.decoder) ∧ _ := hforegoes.run hlate
  exact ⟨mb, hrun.1, hrun.2, hstill⟩

end InterFrameMacroblock

section MacroblockHeaders

variable {FrameHeader MacroblockHeader : Type}
variable [HeaderType FrameHeader MacroblockHeader]
variable {header : FrameHeader} {tables : ProbabilityTables}
variable {errorConcealment : Bool} {width height : Nat}
variable {σ : Type} {source : BitSource Probability σ}

theorem parseMacroblocks_append (rest : List (Nat × Nat)) :
    (places : List (Nat × Nat)) →
    (before : List (Macroblock MacroblockHeader)) → (state : σ) →
    (parseMacroblocks header tables errorConcealment width height
        (places ++ rest) before).run source state =
      (parseMacroblocks header tables errorConcealment width height places
        before).run source state >>= fun result =>
          (parseMacroblocks header tables errorConcealment width height rest
            result.1).run source result.2
  | [], before, state => rfl
  | place :: places, before, state => by
      rw [List.cons_append, parseMacroblocks, parseMacroblocks, run_bind,
        run_bind]
      cases (Macroblock.parse header (calculateMbSegmentTreeProbs
          (HeaderType.updateSegmentation header)) tables errorConcealment
          (contextAt width height before place)).run source state with
      | error failure => rfl
      | ok parsed =>
          rw [ok_bind, ok_bind]
          exact parseMacroblocks_append rest places _ _

theorem parseMacroblocks_extends :
    (places : List (Nat × Nat)) →
    (before : List (Macroblock MacroblockHeader)) →
    (parseMacroblocks header tables errorConcealment width height places
      before).Ensures fun macroblocks =>
        ∃ added, macroblocks = before ++ added ∧ added.length = places.length
  | [], before => ⟨[], (List.append_nil before).symm, rfl⟩
  | place :: places, before => by
      apply ensures_bind
      intro mb
      refine BitParser.Ensures.mono (parseMacroblocks_extends places
        (before ++ [mb])) ?_
      rintro macroblocks ⟨added, rfl, hlength⟩
      exact ⟨mb :: added, by rw [List.append_assoc]; rfl,
        congrArg Nat.succ hlength⟩

theorem parseMacroblocks_at {places : List (Nat × Nat)} {state last : σ}
    {macroblocks : List (Macroblock MacroblockHeader)}
    (h : (parseMacroblocks header tables errorConcealment width height places
      []).run source state = .ok (macroblocks, last))
    {index : Nat} {place : Nat × Nat} (hplace : places[index]? = some place) :
    ∃ before start mb next,
      (parseMacroblocks header tables errorConcealment width height
        (places.take index) []).run source state = .ok (before, start) ∧
      (Macroblock.parse header (calculateMbSegmentTreeProbs
          (HeaderType.updateSegmentation header)) tables errorConcealment
        (contextAt width height before place)).run source start =
          .ok (mb, next) ∧
      macroblocks[index]? = some mb := by
  obtain ⟨hindex, hget⟩ := List.getElem?_eq_some_iff.mp hplace
  have hsplit : places = places.take index ++
      place :: places.drop (index + 1) := by
    rw [← hget, List.getElem_cons_drop, List.take_append_drop]
  rw [hsplit, parseMacroblocks_append] at h
  obtain ⟨⟨before, start⟩, hbefore, h⟩ := bind_eq_ok h
  have hlength : before.length = index := by
    obtain ⟨added, rfl, hadded⟩ := (parseMacroblocks_extends _ _).of_run hbefore
    rw [hadded, List.length_take]
    omega
  simp only [parseMacroblocks, run_bind] at h
  obtain ⟨⟨mb, next⟩, hmb, h⟩ := bind_eq_ok h
  obtain ⟨added, rfl, -⟩ := (parseMacroblocks_extends _ _).of_run h
  refine ⟨before, start, mb, next, hbefore, hmb, ?_⟩
  rw [List.append_assoc, ← hlength]
  simp

end MacroblockHeaders

/-- From a decoder with nothing left the parser reads this value. -/
def ReadsZeros {α : Type} (parser : Parser α) (value : α) : Prop :=
  ∀ decoder : BoolDecoder, decoder.Spent →
    ∃ last, parser.run boolDecoder decoder = .ok (value, last) ∧ last.Spent

theorem readsZeros_pure {α : Type} (value : α) :
    ReadsZeros (pure value) value :=
  fun decoder hspent => ⟨decoder, rfl, hspent⟩

theorem ReadsZeros.bind {α β : Type} {parser : Parser α} {value : α}
    {continuation : α → Parser β} {result : β} (h : ReadsZeros parser value)
    (hnext : ReadsZeros (continuation value) result) :
    ReadsZeros (parser >>= continuation) result := by
  intro decoder hspent
  obtain ⟨middle, hmiddle, hspent⟩ := h decoder hspent
  rw [run_bind, hmiddle]
  exact hnext middle hspent

theorem readsZeros_branch {α : Type} {probability : Probability}
    {zero one : Parser α} {value : α} (h : ReadsZeros zero value) :
    ReadsZeros (branch probability zero one) value := by
  intro decoder hspent
  obtain ⟨hbit, hrest⟩ := hspent.get probability
  rw [branch, BitParser.run_get]
  change ∃ last, (if (decoder.get probability).1 then one else zero).run
    boolDecoder (decoder.get probability).2 = .ok (value, last) ∧ last.Spent
  rw [hbit, if_neg Bool.false_ne_true]
  exact h _ hrest

theorem Block.parseTokens_zeros {Mode : Type} (tables : ProbabilityTables)
    (above left : Bool) (block : Block Mode) :
    ReadsZeros (block.parseTokens tables above left) block := by
  unfold Block.parseTokens
  cases (List.finRange 16).drop (Block.firstCoefficient block.type) with
  | nil => exact readsZeros_pure block
  | cons index rest =>
      rw [Block.parseCoefficients]
      exact readsZeros_branch (readsZeros_pure block)

theorem Square.set_unchanged {α : Type} {size : Nat} [NeZero size]
    (square : Square α size) (column row : Fin size) :
    square.set column row (square column row) = square := by
  funext i j
  unfold Square.set
  split
  · next h => rw [h.1, h.2]
  · rfl

theorem parseSquareTokens_zeros {Mode : Type} {size : Nat} [NeZero size]
    {tables : ProbabilityTables} {above left : Option (Square (Block Mode) size)}
    (square : Square (Block Mode) size) :
    (places : List (Fin size × Fin size)) →
      ReadsZeros (parseSquareTokens tables above left places square) square
  | [] => readsZeros_pure square
  | (column, row) :: rest => by
      rw [parseSquareTokens]
      refine (Block.parseTokens_zeros tables _ _ (square column row)).bind ?_
      rw [Square.set_unchanged]
      exact parseSquareTokens_zeros square rest

namespace Macroblock

variable {Header : Type}

def contents (mb : Macroblock Header) :
    Header × Y2Block × Square YBlock 4 × Square UVBlock 2 × Square UVBlock 2 :=
  (mb.header, mb.Y2, mb.Y, mb.U, mb.V)

theorem parseTokens_zeros (tables : ProbabilityTables)
    (context : TokenContext Header) (mb : Macroblock Header) :
    ∃ parsed, ReadsZeros (mb.parseTokens tables context) parsed ∧
      parsed.contents = mb.contents := by
  unfold Macroblock.parseTokens
  split
  · exact ⟨mb, readsZeros_pure mb, rfl⟩
  · have hY2 : ReadsZeros (parseY2Tokens tables context mb.Y2) mb.Y2 := by
      unfold parseY2Tokens
      split
      · exact Block.parseTokens_zeros tables _ _ mb.Y2
      · exact readsZeros_pure mb.Y2
    exact ⟨_, hY2.bind ((parseSquareTokens_zeros mb.Y subblocks).bind
      ((parseSquareTokens_zeros mb.U chromaBlocks).bind
        ((parseSquareTokens_zeros mb.V chromaBlocks).bind
          (readsZeros_pure _)))), rfl⟩

end Macroblock

theorem parseMacroblockTokens_zeros {MacroblockHeader : Type}
    {tables : ProbabilityTables} {width height : Nat}
    {decoder : BoolDecoder} (hspent : decoder.Spent)
    {items : List (Macroblock MacroblockHeader × Y2Links)}
    {before parsed : List (Macroblock MacroblockHeader)}
    (h : parseMacroblockTokens tables width height items before [decoder] =
      .ok parsed) :
    parsed.map Macroblock.contents = before.map Macroblock.contents ++
      items.map fun item => item.1.contents := by
  induction items generalizing before decoder with
  | nil =>
      cases h
      exact (List.append_nil _).symm
  | cons item items ih =>
      rw [parseMacroblockTokens] at h
      simp only [List.length_singleton, Nat.mod_one, List.getElem?_cons_zero,
        List.set_cons_zero] at h
      obtain ⟨⟨mb, next⟩, hmb, hrest⟩ := bind_eq_ok h
      obtain ⟨expected, hreads, hcontents⟩ :=
        Macroblock.parseTokens_zeros tables _ item.1
      obtain ⟨last, hlast, hnext⟩ := hreads decoder hspent
      have hsame := hmb.symm.trans hlast
      cases hsame
      rw [ih hnext hrest, List.map_append, List.map_cons, hcontents,
        List.append_assoc]
      rfl

namespace UncompressedChunk

theorem splitFrame_rest {frame firstPartition rest : Chunk}
    {offset length : Nat} {acceptPartial : Bool} {level : CorruptionLevel}
    (h : splitFrame frame offset length acceptPartial =
      .ok (level, firstPartition, rest))
    (hcut : CorruptionLevel.corruptedFirstPartition.code ≤ level.code) :
    rest = [] := by
  unfold splitFrame at h
  split at h
  · split at h
    · obtain ⟨partition, -, h⟩ := bind_eq_ok h
      cases h
      rfl
    · cases h
  · obtain ⟨partition, -, h⟩ := bind_eq_ok h
    obtain ⟨tail, -, h⟩ := bind_eq_ok h
    cases h
    exact absurd hcut (by decide)

theorem parse_rest {bytes : Chunk} {width height : Nat} {acceptPartial : Bool}
    {chunk : UncompressedChunk}
    (h : UncompressedChunk.parse bytes width height acceptPartial = .ok chunk)
    (hcut : CorruptionLevel.corruptedFirstPartition.code ≤
      chunk.corruptionLevel.code) : chunk.rest = [] := by
  unfold UncompressedChunk.parse at h
  split at h
  · split at h
    · cases h
      rfl
    · cases h
  · obtain ⟨interFrame, -, h⟩ := bind_eq_ok h
    obtain ⟨showFrame, -, h⟩ := bind_eq_ok h
    obtain ⟨version, -, h⟩ := bind_eq_ok h
    obtain ⟨⟨loopFilter, experimental⟩, -, h⟩ := bind_eq_ok h
    obtain ⟨firstPartitionLength, -, h⟩ := bind_eq_ok h
    obtain ⟨⟨corruptionLevel, firstPartition, rest⟩, hsplit, h⟩ := bind_eq_ok h
    obtain ⟨checked, -, h⟩ := bind_eq_ok h
    cases h
    exact splitFrame_rest hsplit hcut

theorem dctPartitions_nil {chunk : UncompressedChunk} {num : Nat}
    {partitions : List Chunk} (hrest : chunk.rest = [])
    (h : chunk.dctPartitions num = .ok partitions) : partitions = [[]] := by
  unfold dctPartitions at h
  rw [hrest] at h
  cases hcount : num - 1 with
  | zero =>
      rw [hcount] at h
      cases h
      rfl
  | succ count =>
      rw [hcount] at h
      cases h

end UncompressedChunk

namespace DecoderState

variable {width height : Nat}

theorem parseFrame_contents {FrameHeader MacroblockHeader : Type}
    [HeaderType FrameHeader MacroblockHeader]
    {chunk : UncompressedChunk} {state after : DecoderState width height}
    {header : FrameHeader} {tables : ProbabilityTables}
    {errorConcealment : Bool} {firstPartition : BoolDecoder}
    {frame : Frame FrameHeader MacroblockHeader} (hrest : chunk.rest = [])
    (h : parseFrame chunk state header tables errorConcealment
      firstPartition = .ok (frame, after)) :
    ∃ macroblocks last,
      (parseMacroblocks header tables errorConcealment
        (macroblockDimension width) (macroblockDimension height)
        (Grid.places (macroblockDimension width) (macroblockDimension height))
        []).run boolDecoder firstPartition = .ok (macroblocks, last) ∧
      frame.macroblocks.map Macroblock.contents =
        macroblocks.map Macroblock.contents := by
  obtain ⟨macroblocks, last, partitions, tokens, hmacroblocks, hpartitions,
    htokens, rfl, -⟩ := parseFrame_eq_ok_iff.mp h
  cases UncompressedChunk.dctPartitions_nil hrest hpartitions
  have hcontents := parseMacroblockTokens_zeros (BoolDecoder.spent_ofChunk true)
    htokens
  rw [tokenItems_view fun _ _ => rfl, List.map_nil, List.nil_append]
    at hcontents
  exact ⟨macroblocks, last, hmacroblocks, hcontents⟩

open InterFrameMacroblock

theorem still_contents {mb other : InterFrameMacroblock}
    (h : mb.contents = other.contents) : Still mb ↔ Still other := by
  obtain ⟨column, row, update, segment, skip, header, Y2, Y, U, V, nonzero⟩ := mb
  cases h
  exact ⟨fun ⟨a, b, c, d, e, f, g, i⟩ => ⟨a, b, c, d, e, f, g, i⟩,
    fun ⟨a, b, c, d, e, f, g, i⟩ => ⟨a, b, c, d, e, f, g, i⟩⟩

theorem parseAndApplyInter_length {state after : DecoderState width height}
    {chunk : UncompressedChunk} {frame : InterFrame} (hrest : chunk.rest = [])
    (h : state.parseAndApplyInter chunk = .ok (frame, after)) :
    frame.macroblocks.length =
      macroblockDimension width * macroblockDimension height := by
  obtain ⟨-, header, firstPartition, -, h⟩ := parseAndApplyInter_eq_ok_iff.mp h
  obtain ⟨macroblocks, last, hmacroblocks, hcontents⟩ :=
    parseFrame_contents hrest h
  obtain ⟨added, rfl, hlength⟩ :=
    (parseMacroblocks_extends _ _).of_run hmacroblocks
  have hsame := congrArg List.length hcontents
  rw [List.length_map, List.length_map] at hsame
  rw [hsame, hlength, Grid.places_eq_map, List.length_map,
    List.length_range]

theorem parseAndApplyInter_start {state after : DecoderState width height}
    {chunk : UncompressedChunk} {frame : InterFrame} (hrest : chunk.rest = [])
    (hcut : CorruptionLevel.corruptedFirstPartition.code ≤
      chunk.corruptionLevel.code)
    (h : state.parseAndApplyInter chunk = .ok (frame, after)) {index : Nat}
    {mb : InterFrameMacroblock} (hmb : frame.macroblocks[index]? = some mb) :
    ∃ start read next, headerStart state chunk index = .ok start ∧
      (parseAt start).run watched start.decoder = .ok (read, next) ∧
      (Still mb ↔ Still read) := by
  have hcount := parseAndApplyInter_length hrest h
  obtain ⟨-, header, firstPartition, hheader, h⟩ :=
    parseAndApplyInter_eq_ok_iff.mp h
  obtain ⟨-, -, hheader⟩ := parseHeader_eq_ok_iff.mp hheader
  obtain ⟨macroblocks, last, hmacroblocks, hcontents⟩ :=
    parseFrame_contents hrest h
  rw [firstPartitionDecoder, decide_eq_true hcut, BoolDecoder.ofChunk_told]
    at hheader
  obtain ⟨first, hfirst, rfl⟩ := watched_told.of_run hheader
  rw [decide_eq_true (Nat.lt_of_lt_of_le (by decide) hcut)] at hmacroblocks
  obtain ⟨finish, hwatched, -⟩ := watched_told.of_run hmacroblocks
  -- the macroblock as its header was read, before the tokens
  have hsame := congrArg (·[index]?) hcontents
  simp only [List.getElem?_map, hmb, Option.map_some] at hsame
  obtain ⟨read, hread, hsame⟩ := Option.map_eq_some_iff.mp hsame.symm
  have hindex : index < (Grid.places (macroblockDimension width)
      (macroblockDimension height)).length := by
    rw [Grid.places_eq_map, List.length_map, List.length_range, ← hcount]
    exact (List.getElem?_eq_some_iff.mp hmb).1
  have hplace := List.getElem?_eq_getElem hindex
  obtain ⟨before, decoder, parsed, next, hbefore, hparsed, hat⟩ :=
    parseMacroblocks_at hwatched hplace
  cases hread.symm.trans hat
  rw [Grid.getElem?_places hplace] at hparsed
  refine ⟨{
    header, decoder
    tables := state.probabilityTables.update header
    context := contextAt (macroblockDimension width)
      (macroblockDimension height) before
      (index % macroblockDimension width, index / macroblockDimension width) },
    read, next, ?_, hparsed, (still_contents hsame).symm⟩
  have hheader : InterFrameHeader.parse.run watched
      (.ofChunk chunk.firstPartition false) = .ok (header, first) := hfirst
  have hprefix : (parseMacroblocks header (state.probabilityTables.update
      header) true (macroblockDimension width) (macroblockDimension height)
      ((Grid.places (macroblockDimension width)
        (macroblockDimension height)).take index) []).run watched first =
        .ok (before, decoder) := hbefore
  unfold headerStart
  simp only [hheader, hprefix, ok_bind]
  rfl

/-- Of the macroblocks whose headers start past the end of a cut partition, only
those that happen to be coded so stay still. -/
theorem parseAndApplyInter_still_iff {state after : DecoderState width height}
    {bytes : Chunk} {chunk : UncompressedChunk} {frame : InterFrame}
    (hchunk : UncompressedChunk.parse bytes width height true = .ok chunk)
    (hcut : CorruptionLevel.corruptedFirstPartition.code ≤
      chunk.corruptionLevel.code)
    (hparse : state.parseAndApplyInter chunk = .ok (frame, after)) :
    (∀ index mb start, frame.macroblocks[index]? = some mb →
      headerStart state chunk index = .ok start →
        start.decoder.valid = false → Still mb) ↔
    (∀ index start, index < frame.macroblocks.length →
      headerStart state chunk index = .ok start →
        start.decoder.valid = false → CodedStill start) := by
  have hrest := UncompressedChunk.parse_rest hchunk hcut
  constructor
  · intro hall index start hindex hstart hlate
    obtain ⟨other, read, next, hother, hread, hiff⟩ :=
      parseAndApplyInter_start hrest hcut hparse
        (List.getElem?_eq_getElem hindex)
    cases hstart.symm.trans hother
    have hstill := hall index _ start (List.getElem?_eq_getElem hindex) hstart
      hlate
    exact (parse_still_iff hread).mp (hiff.mp hstill)
  · intro hall index mb start hmb hstart hlate
    obtain ⟨other, read, next, hother, hread, hiff⟩ :=
      parseAndApplyInter_start hrest hcut hparse hmb
    cases hstart.symm.trans hother
    have hcoded := hall index start (List.getElem?_eq_some_iff.mp hmb).1 hstart
      hlate
    exact hiff.mpr ((parse_still_iff hread).mpr hcoded)

/-- The test of the frame that a fresh decoder reads from bytes cut in the first
partition, and of where its first macroblock starts. -/
def checkCut (test : InterFrame → HeaderStart → Bool) (bytes : Chunk) : Bool :=
  let state : DecoderState 16 16 := {}
  Fallible.check (fun chunk => Fallible.check (fun result => Fallible.check
    (fun start => decide (CorruptionLevel.corruptedFirstPartition.code ≤
      chunk.corruptionLevel.code) && test result.1 start)
    (headerStart state chunk 0)) (state.parseAndApplyInter chunk))
    (UncompressedChunk.parse bytes 16 16 true)

theorem exists_of_checkCut {test : InterFrame → HeaderStart → Bool}
    {bytes : Chunk} (h : checkCut test bytes = true) :
    ∃ chunk frame after start,
      UncompressedChunk.parse bytes 16 16 true = .ok chunk ∧
      CorruptionLevel.corruptedFirstPartition.code ≤
        chunk.corruptionLevel.code ∧
      ({} : DecoderState 16 16).parseAndApplyInter chunk = .ok (frame, after) ∧
      headerStart ({} : DecoderState 16 16) chunk 0 = .ok start ∧
      test frame start = true := by
  obtain ⟨chunk, hchunk, h⟩ := Fallible.exists_of_check h
  obtain ⟨⟨frame, after⟩, hframe, h⟩ := Fallible.exists_of_check h
  obtain ⟨start, hstart, h⟩ := Fallible.exists_of_check h
  rw [Bool.and_eq_true, decide_eq_true_iff] at h
  exact ⟨chunk, frame, after, start, hchunk, h.1, hframe, hstart, h.2⟩

/-- A cut frame whose macroblock, though it starts past the end, is coded as
inter with a zero vector by the bits left in the window. -/
def stillInterFrame : Chunk :=
  [0x71, 0x01, 0, 0, 0, 0, 48, 0, 0, 6, 14, 124, 2]

theorem stillInterFrame_codedStill :
    ∃ chunk frame after start,
      UncompressedChunk.parse stillInterFrame 16 16 true = .ok chunk ∧
      ({} : DecoderState 16 16).parseAndApplyInter chunk = .ok (frame, after) ∧
      headerStart ({} : DecoderState 16 16) chunk 0 = .ok start ∧
      start.decoder.valid = false ∧ CodedStill start := by
  have hread : checkCut (fun frame start => !start.decoder.valid &&
      (frame.macroblocks.length = 1 &&
        frame.macroblocks.all fun mb => decide (Still mb))) stillInterFrame =
          true := by
    decide +kernel
  obtain ⟨chunk, frame, after, start, hchunk, hcut, hframe, hstart, htest⟩ :=
    exists_of_checkCut hread
  rw [Bool.and_eq_true, Bool.not_eq_true', Bool.and_eq_true, decide_eq_true_iff,
    List.all_eq_true] at htest
  obtain ⟨hlate, hlength, htest⟩ := htest
  refine ⟨chunk, frame, after, start, hchunk, hframe, hstart, hlate,
    (parseAndApplyInter_still_iff hchunk hcut hframe).mp ?_ 0 start
      (by rw [hlength]; exact Nat.one_pos) hstart hlate⟩
  intro index mb other hmb hother hlate
  exact of_decide_eq_true (htest mb (List.mem_of_getElem? hmb))

end DecoderState

end Salsify.Codec
