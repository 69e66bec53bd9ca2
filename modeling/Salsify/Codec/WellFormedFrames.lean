import Salsify.Codec.FittingFrames

namespace Salsify.Codec

open Salsify.Net (Chunk Failure)
open BitParser (Reaches)
open Fallible (ok_bind)
open InterFrameMacroblock (interCoded baseMotionVector motionVectorCensus
  ModeVector withInterMode Splits withSplitModes HeaderFits)

/-! Well-formed frames, which `serialize` writes so that `parse_and_apply` gives
them back. -/

def Macroblock.subblockModes {Header : Type} (mb : Macroblock Header) :
    Square BMode 4 :=
  fun column row => (mb.Y column row).predictionMode

structure Macroblock.IntraFits {Header : Type} (mb : Macroblock Header) :
    Prop where
  mode : mb.Y2.predictionMode.isIntra = true
  modes : SubblockModes mb.Y2.predictionMode mb.subblockModes
  uvMode : (mb.U 0 0).predictionMode.isWhole = true
  bare : mb.bare = mb.fresh.withIntraModes mb.Y2.predictionMode
    mb.subblockModes (mb.U 0 0).predictionMode

structure InterFrameMacroblock.InterFits
    (context : Context InterFrameMacroblock) (mb : InterFrameMacroblock) :
    Prop where
  vector : ModeVector (motionVectorCensus context
    mb.header.motionVectorsFlipped) context mb.Y2.predictionMode
      (baseMotionVector mb)
  bare : mb.bare =
    withInterMode mb.fresh mb.Y2.predictionMode (baseMotionVector mb)

structure InterFrameMacroblock.SplitFits
    (context : Context InterFrameMacroblock) (mb : InterFrameMacroblock) :
    Prop where
  mode : mb.Y2.predictionMode = .splitMv
  partitions : ∃ partitionId partitions,
    mb.header.partitionId = some partitionId ∧
      mvPartitions[partitionId]? = some partitions ∧
      Splits context (Scorer.clamp (motionVectorCensus context
        mb.header.motionVectorsFlipped).best context) partitions mb.Y
  bare : mb.bare = withSplitModes mb.fresh mb.Y

/-- Not one of the modes for which the vectors of subblocks are written. -/
def InterFrameMacroblock.NotSplit (mb : InterFrameMacroblock) : Prop :=
  interCoded mb = true → mb.Y2.predictionMode ≠ .splitMv

/-- What an inter macroblock is sent as, or an intra macroblock of an inter
frame. -/
def InterFrameMacroblock.ModesFit (context : Context InterFrameMacroblock)
    (mb : InterFrameMacroblock) : Prop :=
  if interCoded mb then InterFits context mb ∨ SplitFits context mb
  else mb.IntraFits

theorem Macroblock.fresh_subblocks {Header : Type} (mb : Macroblock Header) :
    IntraSubblocks mb.fresh.Y := fun _ _ => rfl

theorem Macroblock.IntraFits.subblocks {Header : Type} {mb : Macroblock Header}
    (h : mb.IntraFits) : IntraSubblocks mb.Y := fun column row =>
  (h.modes column row).1

theorem KeyFrameMacroblock.contextIntra_map_bare
    {context : Context KeyFrameMacroblock} (h : ContextIntra context) :
    ContextIntra (context.map Macroblock.bare) := by
  constructor
  · intro mb hmb
    obtain ⟨other, hother, rfl⟩ := Option.map_eq_some_iff.mp hmb
    exact h.1 other hother
  · intro mb hmb
    obtain ⟨other, hother, rfl⟩ := Option.map_eq_some_iff.mp hmb
    exact h.2 other hother

theorem InterFrameMacroblock.modeVector_map_bare
    {context : Context InterFrameMacroblock} {flipped : Bool} {mode : MbMode}
    {mv : MotionVector}
    (h : ModeVector (motionVectorCensus context flipped) context mode mv) :
    ModeVector (motionVectorCensus (context.map Macroblock.bare) flipped)
      (context.map Macroblock.bare) mode mv := by
  rw [motionVectorCensus_bare]
  exact h

theorem KeyFrameMacroblock.decode_reaches (tables : ProbabilityTables)
    {context : Context KeyFrameMacroblock} (hcontext : ContextIntra context)
    {mb : KeyFrameMacroblock} (h : mb.IntraFits) :
    (HeaderType.decodePredictionModes KeyFrameHeader tables false
      (context.map Macroblock.bare) mb.fresh).Reaches mb.bare := by
  rw [h.bare]
  exact decodePredictionModes_reaches (contextIntra_map_bare hcontext)
    mb.fresh_subblocks h.mode h.modes h.uvMode

theorem InterFrameMacroblock.splits_map_bare
    {context : Context InterFrameMacroblock} {bestMv : MotionVector}
    {partitions : List (List (Fin 4 × Fin 4))} {Y : Square YBlock 4}
    (h : Splits context bestMv partitions Y) :
    Splits (context.map Macroblock.bare) bestMv partitions (bareSquare Y) := by
  intro column row others hmem
  obtain ⟨hvector, hsame⟩ := h column row others hmem
  refine ⟨?_, hsame⟩
  simp only [Context.map, map_bare_Y, aboveOf_bare, leftOf_bare,
    Option.elim_map]
  exact hvector

theorem InterFrameMacroblock.InterFits.decodes {tables : ProbabilityTables}
    {context : Context InterFrameMacroblock} {mb : InterFrameMacroblock}
    (h : InterFits context mb) (hinter : interCoded mb = true) :
    (decodeModes tables false (context.map Macroblock.bare) mb.fresh).Reaches
      mb.bare := by
  have hfresh : interCoded mb.fresh = true := hinter
  have hvector : ModeVector (motionVectorCensus
      (context.map Macroblock.bare) mb.fresh.header.motionVectorsFlipped)
      (context.map Macroblock.bare) mb.Y2.predictionMode
      (baseMotionVector mb) := modeVector_map_bare h.vector
  rw [h.bare]
  exact decodeInterModes_reaches tables hfresh hvector

theorem Macroblock.IntraFits.decodes {tables : ProbabilityTables}
    {context : Context InterFrameMacroblock} {mb : InterFrameMacroblock}
    (h : mb.IntraFits) (hintra : ¬ interCoded mb = true) :
    (InterFrameMacroblock.decodeModes tables false
      (context.map Macroblock.bare) mb.fresh).Reaches mb.bare := by
  have hfresh : ¬ interCoded mb.fresh = true := hintra
  rw [h.bare, InterFrameMacroblock.decodeModes, if_neg hfresh]
  exact InterFrameMacroblock.decodeIntraModes_reaches tables
    mb.fresh_subblocks h.mode h.modes h.uvMode

theorem InterFrameMacroblock.SplitFits.decodes {tables : ProbabilityTables}
    {context : Context InterFrameMacroblock} {mb : InterFrameMacroblock}
    (h : SplitFits context mb) (hinter : interCoded mb = true) :
    (decodeModes tables false (context.map Macroblock.bare) { mb.fresh with
      header := { mb.header with partitionId := none } }).Reaches mb.bare := by
  obtain ⟨partitionId, partitions, hid, hpartitions, hsplits⟩ := h.partitions
  have hbare : bareSquare mb.Y = (withSplitModes mb.fresh mb.Y).Y :=
    congrArg (fun bare => bare.Y) h.bare
  have hread := @decodeSplitModes_reaches tables (context.map Macroblock.bare)
    { mb.fresh with header := { mb.header with partitionId := none } } hinter
    partitionId partitions hpartitions (bareSquare mb.Y) (by
      dsimp only
      rw [motionVectorCensus_bare]
      exact splits_map_bare hsplits)
    fun column row => ⟨rfl, by
      rw [hbare, withSplitModes, setMotionVectors_split
        (Block.setIfCoded_predictionMode _)]⟩
  rw [h.bare]
  have hheader : ({ mb.header with partitionId := some partitionId } :
      InterFrameMacroblockHeader) = mb.header := by
    rw [← hid]
  dsimp only at hread
  rw [hheader] at hread
  exact hread

theorem InterFrameMacroblock.decode_reaches (tables : ProbabilityTables)
    {context : Context InterFrameMacroblock} {mb : InterFrameMacroblock}
    (h : ModesFit context mb)
    (hpartitionId : NotSplit mb → mb.header.partitionId = none) :
    (HeaderType.decodePredictionModes InterFrameHeader tables false
      (context.map Macroblock.bare) { mb.fresh with
        header := { mb.header with partitionId := none } }).Reaches
          mb.bare := by
  have hfresh (hsplit : NotSplit mb) : ({ mb.fresh with
      header := { mb.header with partitionId := none } } :
        InterFrameMacroblock) = mb.fresh := by
    have hheader : ({ mb.header with partitionId := none } :
        InterFrameMacroblockHeader) = mb.header := by
      rw [← hpartitionId hsplit]
    rw [hheader]
    rfl
  have hmodes : (decodeModes tables false (context.map Macroblock.bare)
      { mb.fresh with
        header := { mb.header with partitionId := none } }).Reaches
          mb.bare := by
    unfold ModesFit at h
    split at h
    · next hinter =>
      rcases h with h | h
      · rw [hfresh fun _ => h.vector.cases.2.2]
        exact h.decodes hinter
      · exact h.decodes hinter
    · next hintra =>
      rw [hfresh fun hinter => absurd hinter hintra]
      exact h.decodes hintra
  exact Reaches.unasked hmodes fun _ => congrArg _ (if_neg Bool.false_ne_true)

section Frames

variable {width height : Nat}

structure Frame.Assembled {FrameHeader MacroblockHeader : Type}
    [HeaderType FrameHeader MacroblockHeader]
    (segmentation : Option (Segmentation width height))
    (frame : Frame FrameHeader MacroblockHeader) : Prop where
  displayWidth : frame.displayWidth = width
  displayHeight : frame.displayHeight = height
  places : frame.macroblocks.map Macroblock.place =
    Grid.places (macroblockDimension width) (macroblockDimension height)
  announced : ∀ mb ∈ frame.macroblocks, mb.Announced frame.header
  tokens : ∀ mb ∈ frame.macroblocks, mb.TokensFit
  segments : DecoderState.segmented segmentation
      (frame.macroblocks.map Macroblock.bare) =
    frame.macroblocks.map Macroblock.unparsed
  y2Links : frame.y2Links =
    relinkY2Blocks (macroblockDimension width) frame.macroblocks

structure KeyFrame.WellFormed
    (segmentation : Option (Segmentation width height)) (frame : KeyFrame) :
    Prop extends frame.Assembled segmentation where
  header : frame.header.Fits
  modes : ∀ mb ∈ frame.macroblocks, mb.IntraFits

structure InterFrame.WellFormed
    (segmentation : Option (Segmentation width height)) (frame : InterFrame) :
    Prop extends frame.Assembled segmentation where
  header : frame.header.Fits
  headers : ∀ mb ∈ frame.macroblocks, HeaderFits frame.header mb.header
  partitionId : ∀ mb ∈ frame.macroblocks,
    InterFrameMacroblock.NotSplit mb → mb.header.partitionId = none
  modes : ∀ front mb rest, frame.macroblocks = front ++ mb :: rest →
    InterFrameMacroblock.ModesFit (contextAt (macroblockDimension width)
      (macroblockDimension height) front mb.place) mb

theorem Frame.Assembled.fits {FrameHeader MacroblockHeader : Type}
    [HeaderType FrameHeader MacroblockHeader]
    {segmentation : Option (Segmentation width height)}
    {frame : Frame FrameHeader MacroblockHeader}
    (h : frame.Assembled segmentation) {tables : ProbabilityTables}
    (read : Macroblock MacroblockHeader → MacroblockHeader)
    (hheader : (HeaderType.parse : Parser FrameHeader).Reaches frame.header)
    (hheaders : ∀ mb ∈ frame.macroblocks,
      (HeaderType.parseMacroblockHeader frame.header).Reaches (read mb))
    (hmodes : ∀ front mb rest, frame.macroblocks = front ++ mb :: rest →
      (HeaderType.decodePredictionModes FrameHeader tables false
        ((contextAt (macroblockDimension width) (macroblockDimension height)
          front mb.place).map Macroblock.bare)
        { mb.fresh with header := read mb }).Reaches mb.bare) :
    frame.Fits tables segmentation where
  displayWidth := h.displayWidth
  displayHeight := h.displayHeight
  header := hheader
  places := h.places
  tokens := h.tokens
  segments := h.segments
  y2Links := h.y2Links
  modes front mb rest hall := by
    have hmem : mb ∈ frame.macroblocks :=
      hall ▸ List.mem_append_right front List.mem_cons_self
    have hannounced : ({ mb.fresh with header := read mb } :
        Macroblock MacroblockHeader).Announced frame.header :=
      ⟨(h.announced mb hmem).segmentIdUpdate, (h.announced mb hmem).segment,
        (h.announced mb hmem).mbSkipCoeff⟩
    refine Macroblock.parse_reaches hannounced rfl (hheaders mb hmem) ?_
    rw [contextAt_map]
    exact hmodes front mb rest hall

theorem KeyFrame.WellFormed.fits
    {segmentation : Option (Segmentation width height)} {frame : KeyFrame}
    (h : frame.WellFormed segmentation) (tables : ProbabilityTables) :
    frame.Fits tables segmentation := by
  refine h.toAssembled.fits Macroblock.header h.header.reaches
    (fun _ _ => BitParser.reaches_pure _) fun front mb rest hall => ?_
  have hintra (other : KeyFrameMacroblock) (hother : other ∈ front) :
      IntraSubblocks other.Y :=
    (h.modes other (hall ▸ List.mem_append_left _ hother)).subblocks
  exact KeyFrameMacroblock.decode_reaches tables
    ⟨fun other hother => hintra other (contextAt_mem.1 hother),
      fun other hother => hintra other (contextAt_mem.2 hother)⟩
    (h.modes mb (hall ▸ List.mem_append_right front List.mem_cons_self))

theorem InterFrame.WellFormed.fits
    {segmentation : Option (Segmentation width height)} {frame : InterFrame}
    (h : frame.WellFormed segmentation) (tables : ProbabilityTables) :
    frame.Fits tables segmentation :=
  h.toAssembled.fits _ h.header.reaches
    (fun mb hmb => (h.headers mb hmb).reaches) fun front mb rest hall =>
      InterFrameMacroblock.decode_reaches tables (h.modes front mb rest hall)
        (h.partitionId mb (hall ▸ List.mem_append_right front
          List.mem_cons_self))

namespace DecoderState

/-- The state that a key frame leaves, with what its macroblocks say of their
segments. -/
def afterKeyFrame (frame : KeyFrame) : DecoderState width height :=
  { (keyFrameState frame.header : DecoderState width height) with
    segmentation := withWrites (frame.header.updateSegmentation.map .ofHeader)
      frame.macroblocks }

def afterInterFrame (state : DecoderState width height) (frame : InterFrame) :
    DecoderState width height :=
  { state.interFrameState frame.header with
    segmentation := withWrites
      (updateSegmentationHeader state.segmentation frame.header)
      frame.macroblocks }

theorem writesBack_plain : WritesBack InterFrameHeader false fun _ => True :=
  writesBack_inter fun _ _ => rfl

theorem keyFrame_rereads (hwidth : 0 < width ∧ width ≤ 16383)
    (hheight : 0 < height ∧ height ≤ 16383) {frame : KeyFrame}
    (h : frame.WellFormed (frame.header.updateSegmentation.map .ofHeader :
      Option (Segmentation width height)))
    (hfits : frame.FitsFields
      (({} : ProbabilityTables).coeffProbUpdate frame.header.tokenProbUpdate))
    {α : Type} {decode : UncompressedChunk → Except Failure α} {result : α}
    (hdecode : ∀ chunk : UncompressedChunk, chunk.keyFrame = true →
      parseAndApplyKey chunk =
        .ok (frame, (afterKeyFrame frame : DecoderState width height)) →
      decode chunk = .ok result) :
    RoundTrips width height (frame.serialize {}) decode result := by
  have hsegmentation : (keyFrameState frame.header :
      DecoderState width height).segmentation =
        frame.header.updateSegmentation.map .ofHeader := rfl
  obtain ⟨first, dctPartitions, hfirst, htokens, hlast, hrereads⟩ :=
    (h.fits _).rereads (writesBack_key _) keepsPlace_key ignoresTokens_key
      hwidth.1 hheight.1 hsegmentation
  obtain ⟨hshort, hparts⟩ := hfits first dctPartitions hfirst htokens
  unfold KeyFrame.serialize
  dsimp only
  rw [hfirst, ok_bind, htokens, ok_bind, h.displayWidth, h.displayHeight]
  refine roundTrips_makeFrame hwidth.2 hheight.2 hlast hshort hparts ?_
  intro chunk hkey hshow hexperimental _ hchunk hpartitions
  obtain ⟨decoder, hstart, hsame⟩ := hrereads chunk hshow hchunk hpartitions
  exact hdecode chunk hkey (parseAndApplyKey_eq_ok_iff.mpr
    ⟨hkey, hexperimental, _, decoder, hstart, hsame⟩)

theorem interFrame_rereads (hwidth : 0 < width ∧ width ≤ 16383)
    (hheight : 0 < height ∧ height ≤ 16383) (state : DecoderState width height)
    {frame : InterFrame}
    (h : frame.WellFormed
      (updateSegmentationHeader state.segmentation frame.header))
    (hfits : frame.FitsFields (state.probabilityTables.update frame.header))
    {α : Type} {decode : UncompressedChunk → Except Failure α} {result : α}
    (hdecode : ∀ chunk : UncompressedChunk, chunk.keyFrame = false →
      chunk.experimental = false →
      state.parseAndApplyInter chunk = .ok (frame, state.afterInterFrame frame) →
      decode chunk = .ok result) :
    RoundTrips width height (frame.serialize state.probabilityTables) decode
      result := by
  have hsegmentation : (state.interFrameState frame.header).segmentation =
      updateSegmentationHeader state.segmentation frame.header := rfl
  obtain ⟨first, dctPartitions, hfirst, htokens, hlast, hrereads⟩ :=
    (h.fits _).rereads writesBack_plain keepsPlace_inter ignoresTokens_inter
      hwidth.1 hheight.1 hsegmentation
  obtain ⟨hshort, hparts⟩ := hfits first dctPartitions hfirst htokens
  unfold InterFrame.serialize
  dsimp only
  rw [hfirst, ok_bind, htokens, ok_bind, h.displayWidth, h.displayHeight]
  refine roundTrips_makeFrame hwidth.2 hheight.2 hlast hshort hparts ?_
  intro chunk hkey hshow hexperimental hlevel hchunk hpartitions
  obtain ⟨decoder, hstart, hsame⟩ := hrereads chunk hshow hchunk hpartitions
  refine hdecode chunk hkey hexperimental (parseAndApplyInter_eq_ok_iff.mpr
    ⟨hkey, _, decoder, hstart, ?_⟩)
  rw [hlevel]
  exact hsame

end DecoderState

end Frames

end Salsify.Codec
