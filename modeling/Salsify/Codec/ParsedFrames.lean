import Salsify.Codec.DecodedSamples
import Salsify.Codec.ParserTotality
import Salsify.Codec.StateUpdate
import Salsify.Codec.Y2Neighbours

namespace Salsify.Codec

open Salsify.Coder (Probability BoolDecoder)
open Salsify.Net (Failure)
open BitParser (ensures_bind completes_pure)
open Fallible (bind_eq_ok)

/-! A parsed frame has all that reconstruction relies on, in every state that
parsing can leave the decoder in. -/

namespace Block

/-- A block that is left out is one of a mode that has none. -/
def CodedUnlessSplit (block : Y2Block) : Prop :=
  block.predictionMode ≠ .bPred → block.predictionMode ≠ .splitMv →
    block.coded = true

theorem codedUnlessSplit_setIfCoded {block : Y2Block}
    (h : block.coded = true) : block.setIfCoded.CodedUnlessSplit := by
  unfold setIfCoded
  split
  · next hmode =>
      intro hbPred hsplitMv
      exact absurd hmode (not_or.mpr ⟨hbPred, hsplitMv⟩)
  · exact fun _ _ => h

end Block

def Macroblock.segments {Header : Type} (mb : Macroblock Header) :
    Option UInt8 × UInt8 :=
  (mb.segmentIdUpdate, mb.segmentId)

theorem KeyFrameMacroblock.decodePredictionModes_coded
    (context : Context KeyFrameMacroblock) {mb : KeyFrameMacroblock}
    (h : mb.Y2.coded = true) :
    (KeyFrameMacroblock.decodePredictionModes context mb).Ensures
      fun decoded => decoded.Y2Coded ∧ decoded.segments = mb.segments := by
  unfold KeyFrameMacroblock.decodePredictionModes
  apply ensures_bind
  intro mode
  apply ensures_bind
  intro Y
  apply ensures_bind
  intro uvMode
  exact ⟨Block.codedUnlessSplit_setIfCoded h, rfl⟩

namespace InterFrameMacroblock

theorem decodeIntraModes_coded (tables : ProbabilityTables)
    {mb : InterFrameMacroblock} (h : mb.Y2.coded = true) :
    (decodeIntraModes tables mb).Ensures
      fun decoded => decoded.Y2Coded ∧ decoded.segments = mb.segments := by
  unfold decodeIntraModes
  apply ensures_bind
  intro mode
  apply ensures_bind
  intro Y
  apply ensures_bind
  intro uvMode
  exact ⟨Block.codedUnlessSplit_setIfCoded h, rfl⟩

theorem decodeInterMode_coded (errorConcealment : Bool) (census : Scorer)
    {Y2 : Y2Block} (h : Y2.coded = true) :
    (decodeInterMode errorConcealment census Y2).Ensures
      Block.CodedUnlessSplit := by
  apply ensures_bind
  intro probs valid
  dsimp only
  split
  · exact fun _ _ => h
  · apply ensures_bind
    intro mode
    exact Block.codedUnlessSplit_setIfCoded h

theorem decodeMotionVectors_reconstructible (tables : ProbabilityTables)
    (context : Context InterFrameMacroblock) (census : Scorer)
    {mb : InterFrameMacroblock} (h : mb.Y2Coded) :
    (decodeMotionVectors tables context census mb).Ensures fun decoded =>
      Reconstructible decoded ∧ decoded.segments = mb.segments := by
  have hmb : mb.Y2.predictionMode.isIntra = false →
      ∀ decoded : InterFrameMacroblock, decoded.Y2 = mb.Y2 →
        Reconstructible decoded := by
    intro hmode decoded hY2
    constructor
    · rw [Macroblock.Y2Coded, hY2]
      exact h
    · rintro - hbPred
      rw [hY2] at hbPred
      rw [hbPred] at hmode
      cases hmode
  unfold decodeMotionVectors
  cases hmode : mb.Y2.predictionMode with
  | nearestMv => exact ⟨hmb (by rw [hmode]; rfl) _ rfl, rfl⟩
  | nearMv => exact ⟨hmb (by rw [hmode]; rfl) _ rfl, rfl⟩
  | zeroMv => exact ⟨hmb (by rw [hmode]; rfl) _ rfl, rfl⟩
  | newMv =>
      apply ensures_bind
      intro newMv
      exact ⟨hmb (by rw [hmode]; rfl) _ rfl, rfl⟩
  | splitMv =>
      apply ensures_bind
      intro partitionId
      apply ensures_bind
      intro partitions
      apply ensures_bind
      intro Y
      exact ⟨hmb (by rw [hmode]; rfl) _ rfl, rfl⟩
  | _ => trivial

theorem decodeModes_reconstructible (tables : ProbabilityTables)
    (errorConcealment : Bool) (context : Context InterFrameMacroblock)
    {mb : InterFrameMacroblock} (h : mb.Y2.coded = true) :
    (decodeModes tables errorConcealment context mb).Ensures fun decoded =>
      Reconstructible decoded ∧ decoded.segments = mb.segments := by
  unfold decodeModes
  split
  · refine (decodeInterMode_coded errorConcealment _ h).bind fun Y2 hY2 => ?_
    have hmb : ({ mb with Y2 } : InterFrameMacroblock).Y2Coded := hY2
    refine (decodeMotionVectors_reconstructible tables context _ hmb).bind ?_
    rintro decoded ⟨hdecoded, hsegments⟩
    exact ⟨⟨hdecoded.coded, hdecoded.whole⟩, hsegments⟩
  · next hinter =>
      refine ((decodeIntraModes_coded tables h).and
        (decodeIntraModes_kept tables mb)).mono ?_
      rintro decoded ⟨⟨hcoded, hsegments⟩, -, hsource⟩
      refine ⟨⟨hcoded, fun hdecoded => absurd ?_ hinter⟩, hsegments⟩
      exact (congrArg Prod.fst hsource).symm.trans hdecoded

theorem decodePredictionModes_reconstructible (tables : ProbabilityTables)
    (errorConcealment : Bool) (context : Context InterFrameMacroblock)
    {mb : InterFrameMacroblock} (h : mb.Y2.coded = true) :
    (decodePredictionModes tables errorConcealment context mb).Ensures
      fun decoded => Reconstructible decoded ∧ decoded.segments = mb.segments := by
  have hconcealed : (conceal mb).Y2.coded = true := by
    simpa [conceal, Block.setIfCoded] using h
  intro valid
  dsimp only
  split
  · exact decodeModes_reconstructible tables errorConcealment context hconcealed
  · exact decodeModes_reconstructible tables errorConcealment context h

end InterFrameMacroblock

section Headers

variable {FrameHeader MacroblockHeader : Type}
variable [HeaderType FrameHeader MacroblockHeader]

/-- What the modes of a macroblock are decoded to, from a Y2 block that is
there. -/
def Decodes (FrameHeader : Type) {MacroblockHeader : Type}
    [HeaderType FrameHeader MacroblockHeader]
    (Holds : Macroblock MacroblockHeader → Prop) : Prop :=
  ∀ tables errorConcealment context (mb : Macroblock MacroblockHeader),
    mb.Y2.coded = true →
    (HeaderType.decodePredictionModes FrameHeader tables errorConcealment
      context mb).Ensures fun decoded =>
        Holds decoded ∧ decoded.segments = mb.segments

theorem decodes_key : Decodes KeyFrameHeader
    (Macroblock.Y2Coded : KeyFrameMacroblock → Prop) :=
  fun _ _ context _ h =>
    KeyFrameMacroblock.decodePredictionModes_coded context h

theorem decodes_inter :
    Decodes InterFrameHeader InterFrameMacroblock.Reconstructible :=
  fun tables errorConcealment context _ h =>
    InterFrameMacroblock.decodePredictionModes_reconstructible tables
      errorConcealment context h

structure Parsed (Holds : Macroblock MacroblockHeader → Prop)
    (mb : Macroblock MacroblockHeader) : Prop where
  holds : Holds mb
  update : ∀ segment, mb.segmentIdUpdate = some segment → IsSegment segment
  cached : mb.segmentId = 0

theorem Macroblock.parse_parsed {Holds : Macroblock MacroblockHeader → Prop}
    (hdecodes : Decodes FrameHeader Holds) (header : FrameHeader)
    (tables : ProbabilityTables) (errorConcealment : Bool)
    (context : Context (Macroblock MacroblockHeader)) :
    (Macroblock.parse header (calculateMbSegmentTreeProbs
      (HeaderType.updateSegmentation header)) tables errorConcealment
        context).Ensures (Parsed Holds) := by
  have hsegment :=
    @parseSegmentIdUpdate_completes (fun _ => True) _ _ _ header
  have hupdate : (orZero errorConcealment (parseSegmentIdUpdate header
      (calculateMbSegmentTreeProbs (HeaderType.updateSegmentation
        header)))).Ensures fun update =>
          ∀ segment, update = some segment → IsSegment segment := by
    intro valid
    dsimp only
    split
    · exact (hsegment.answeredBy boolDecoder BoolDecoder.zeroDecoder).ensures
    · exact hsegment.ensures
  unfold Macroblock.parse
  refine hupdate.bind fun segmentIdUpdate hupdate => ?_
  apply ensures_bind
  intro mbSkipCoeff
  apply ensures_bind
  intro mbHeader
  refine (hdecodes tables errorConcealment context _ rfl).mono ?_
  rintro decoded ⟨hholds, hsegments⟩
  obtain ⟨hread, hcached⟩ := Prod.mk.inj hsegments
  exact ⟨hholds, by rwa [hread], hcached⟩

theorem parseMacroblocks_parsed {Holds : Macroblock MacroblockHeader → Prop}
    (hdecodes : Decodes FrameHeader Holds) (header : FrameHeader)
    (tables : ProbabilityTables) (errorConcealment : Bool) (width height : Nat)
    {places : List (Nat × Nat)} {before : List (Macroblock MacroblockHeader)}
    (hbefore : ∀ mb ∈ before, Parsed Holds mb) :
    (parseMacroblocks header tables errorConcealment width height places
      before).Ensures fun macroblocks => ∀ mb ∈ macroblocks, Parsed Holds mb := by
  induction places generalizing before with
  | nil => exact hbefore
  | cons place rest ih =>
      refine (Macroblock.parse_parsed hdecodes header tables errorConcealment
        (contextAt width height before place)).bind fun mb hmb => ih ?_
      intro other hother
      rcases List.mem_append.mp hother with hother | hother
      · exact hbefore other hother
      · rw [List.mem_singleton.mp hother]
        exact hmb

end Headers

section Segments

variable {width height : Nat} {Header : Type}

def SegmentationMap.InRange (map : SegmentationMap width height) : Prop :=
  ∀ column row, IsSegment (map column row)

theorem SegmentationMap.InRange.overwrite {map : SegmentationMap width height}
    (h : map.InRange) {macroblocks : List (Macroblock Header)}
    (hupdate : ∀ mb ∈ macroblocks, ∀ segment,
      mb.segmentIdUpdate = some segment → IsSegment segment) :
    SegmentationMap.InRange
      (map.overwrite (macroblocks.map Macroblock.segmentWrite)) := by
  refine Grid.overwrite_all h fun write hwrite segment hsegment => ?_
  obtain ⟨mb, hmb, rfl⟩ := List.mem_map.mp hwrite
  exact hupdate mb hmb segment hsegment

theorem updateSegmentationAll_inRange {map : SegmentationMap width height}
    (h : map.InRange) {macroblocks : List (Macroblock Header)}
    (hupdate : ∀ mb ∈ macroblocks, ∀ segment,
      mb.segmentIdUpdate = some segment → IsSegment segment)
    (hcached : ∀ mb ∈ macroblocks, IsSegment mb.segmentId) :
    ∀ mb ∈ (updateSegmentationAll map macroblocks).2,
      IsSegment mb.segmentId := by
  induction macroblocks generalizing map with
  | nil => exact fun mb hmb => absurd hmb List.not_mem_nil
  | cons mb rest ih =>
      have hfirst := hupdate mb List.mem_cons_self
      have hnext : SegmentationMap.InRange (mb.updateSegmentation map).1 := by
        unfold Macroblock.updateSegmentation
        cases hread : mb.segmentIdUpdate with
        | none => exact h
        | some segment =>
            intro column row
            change IsSegment (Grid.set map _ segment column row)
            unfold Grid.set
            split
            · exact hfirst segment hread
            · exact h column row
      intro other hother
      rcases List.mem_cons.mp hother with rfl | hother
      · have hgot : ∀ segment, Grid.get? (mb.updateSegmentation map).1
            (mb.column, mb.row) = some segment → IsSegment segment := by
          intro segment hsegment
          unfold Grid.get? at hsegment
          split at hsegment
          · rw [← Option.some.inj hsegment]
            exact hnext _ _
          · cases hsegment
        change IsSegment ((Grid.get? (mb.updateSegmentation map).1
          (mb.column, mb.row)).getD mb.segmentId)
        cases hsegment : Grid.get? (mb.updateSegmentation map).1
            (mb.column, mb.row) with
        | none => exact hcached mb List.mem_cons_self
        | some segment => exact hgot segment hsegment
      · exact ih hnext (fun mb hmb => hupdate mb (List.mem_cons_of_mem _ hmb))
          (fun mb hmb => hcached mb (List.mem_cons_of_mem _ hmb)) other hother

end Segments

namespace Macroblock

variable {Header : Type}

def shape (mb : Macroblock Header) : Header × MbMode × Bool :=
  (mb.header, mb.Y2.predictionMode, mb.Y2.coded)

def settled (mb : Macroblock Header) :
    (Nat × Nat) × UInt8 × Header × MbMode × Bool :=
  (mb.place, mb.segmentId, mb.shape)

theorem parseTokens_segmentId (tables : ProbabilityTables)
    (context : TokenContext Header) (mb : Macroblock Header) :
    (mb.parseTokens tables context).Ensures
      fun parsed => parsed.segmentId = mb.segmentId := by
  unfold parseTokens
  split
  · rfl
  · apply ensures_bind
    intro Y2
    apply ensures_bind
    intro Y
    apply ensures_bind
    intro U
    apply ensures_bind
    intro V
    rfl

theorem parseTokens_settled (tables : ProbabilityTables)
    (context : TokenContext Header) (mb : Macroblock Header) :
    (mb.parseTokens tables context).Ensures
      fun parsed => parsed.settled = mb.settled := by
  refine ((parseTokens_completes tables context mb).ensures.and
    ((parseTokens_coded tables context mb).and
      (parseTokens_segmentId tables context mb))).mono ?_
  rintro parsed ⟨hmodes, ⟨hcoded, hplace⟩, hsegmentId⟩
  obtain ⟨hheader, hmodes⟩ := Prod.mk.inj hmodes
  obtain ⟨hmode, -⟩ := Prod.mk.inj hmodes
  rw [settled, shape, hplace, hsegmentId, hheader, hmode, hcoded]
  rfl

end Macroblock

namespace DecoderState

variable {width height : Nat}

/-- The segments that the state remembers are all ones with a quantizer. -/
def SegmentsInRange (state : DecoderState width height) : Prop :=
  ∀ segmentation, state.segmentation = some segmentation →
    segmentation.map.InRange

section Frames

variable {FrameHeader MacroblockHeader : Type}

theorem segmented_inRange {state : DecoderState width height}
    (h : state.SegmentsInRange) {Holds : Macroblock MacroblockHeader → Prop}
    {macroblocks : List (Macroblock MacroblockHeader)}
    (hparsed : ∀ mb ∈ macroblocks, Parsed Holds mb) :
    ∀ mb ∈ segmented state.segmentation macroblocks,
      IsSegment mb.segmentId := by
  have hcached : ∀ mb ∈ macroblocks, IsSegment mb.segmentId := by
    intro mb hmb
    rw [(hparsed mb hmb).cached]
    exact Nat.zero_lt_succ 3
  unfold segmented
  cases hsegmentation : state.segmentation with
  | none => exact hcached
  | some segmentation =>
      exact updateSegmentationAll_inRange (h segmentation hsegmentation)
        (fun mb hmb => (hparsed mb hmb).update) hcached

theorem withWrites_inRange {state : DecoderState width height}
    (h : state.SegmentsInRange) {Holds : Macroblock MacroblockHeader → Prop}
    {macroblocks : List (Macroblock MacroblockHeader)}
    (hparsed : ∀ mb ∈ macroblocks, Parsed Holds mb) :
    SegmentsInRange { state with
      segmentation := withWrites state.segmentation macroblocks } := by
  intro segmentation hsegmentation
  obtain ⟨current, hcurrent, rfl⟩ := Option.map_eq_some_iff.mp hsegmentation
  exact (h current hcurrent).overwrite fun mb hmb => (hparsed mb hmb).update

variable [HeaderType FrameHeader MacroblockHeader]

structure Complete (Holds : Macroblock MacroblockHeader → Prop)
    (frame : Frame FrameHeader MacroblockHeader)
    (after : DecoderState width height) : Prop where
  placed : Placed width height after.segmentation frame.macroblocks
  holds : ∀ mb ∈ frame.macroblocks, Holds mb
  inRange : after.SegmentsInRange

theorem tokens_settled {segmentation : Option (Segmentation width height)}
    {macroblocks tokens : List (Macroblock MacroblockHeader)}
    {tables : ProbabilityTables} {mbWidth mbHeight : Nat}
    {decoders : List BoolDecoder}
    (h : parseMacroblockTokens tables mbWidth mbHeight
      (tokenItems segmentation macroblocks) [] decoders = .ok tokens) :
    tokens.map Macroblock.settled =
      (segmented segmentation macroblocks).map Macroblock.settled := by
  calc
    tokens.map Macroblock.settled
      = (tokenItems segmentation macroblocks).map
          fun item => item.1.settled :=
        parseMacroblockTokens_view (Macroblock.parseTokens_settled tables) h
    _ = ((tokenItems segmentation macroblocks).map Prod.fst).map
          Macroblock.settled := by
        rw [List.map_map]
        rfl
    _ = (segmented segmentation macroblocks).map Macroblock.settled := by
        rw [tokenItems, List.map_fst_zip (Nat.le_of_eq (segmented_length _ _))]

theorem parseFrame_complete {Holds : Macroblock MacroblockHeader → Prop}
    (hkeeps : KeepsPlace FrameHeader) (hdecodes : Decodes FrameHeader Holds)
    (hshape : ∀ mb parsed : Macroblock MacroblockHeader,
      mb.shape = parsed.shape → Holds mb → Holds parsed)
    {chunk : UncompressedChunk} {state after : DecoderState width height}
    (hstate : state.SegmentsInRange) {header : FrameHeader}
    {tables : ProbabilityTables} {errorConcealment : Bool}
    {firstPartition : BoolDecoder}
    {frame : Frame FrameHeader MacroblockHeader}
    (h : parseFrame chunk state header tables errorConcealment firstPartition =
      .ok (frame, after)) : Complete Holds frame after := by
  obtain ⟨macroblocks, last, partitions, tokens, hmacroblocks, -, htokens,
    rfl, rfl⟩ := parseFrame_eq_ok_iff.mp h
  have hplaces := (parseMacroblocks_places hkeeps header tables errorConcealment
    (macroblockDimension width) (macroblockDimension height) _ []).of_run
      hmacroblocks
  have hparsed := (parseMacroblocks_parsed hdecodes header tables
    errorConcealment (macroblockDimension width) (macroblockDimension height)
    (fun mb hmb => absurd hmb List.not_mem_nil)).of_run hmacroblocks
  have hsettled := tokens_settled htokens
  refine ⟨⟨?_, fun _ mb hmb => ?_⟩, fun mb hmb => ?_,
    withWrites_inRange hstate hparsed⟩
  · have hplaced := congrArg (List.map Prod.fst) hsettled
    rw [List.map_map, List.map_map] at hplaced
    exact hplaced.trans ((segmented_view (fun _ _ => rfl) state.segmentation
      macroblocks).trans hplaces)
  · have hmem := List.mem_map_of_mem (f := Macroblock.settled) hmb
    rw [hsettled] at hmem
    obtain ⟨other, hother, hsame⟩ := List.mem_map.mp hmem
    obtain ⟨-, hrest⟩ := Prod.mk.inj hsame
    rw [← (Prod.mk.inj hrest).1]
    exact segmented_inRange hstate hparsed other hother
  · have hshapes := congrArg (List.map fun view => view.2.2) hsettled
    rw [List.map_map, List.map_map] at hshapes
    have hshapes := hshapes.trans (segmented_view (fun _ _ => rfl)
      state.segmentation macroblocks)
    have hmem := List.mem_map_of_mem (f := Macroblock.shape) hmb
    obtain ⟨other, hother, hsame⟩ :=
      List.mem_map.mp (hshapes ▸ hmem)
    exact hshape other mb hsame (hparsed other hother).holds

end Frames

theorem parseAndApplyKey_complete {chunk : UncompressedChunk}
    {frame : KeyFrame} {after : DecoderState width height}
    (h : parseAndApplyKey chunk = .ok (frame, after)) :
    Complete Macroblock.Y2Coded frame after := by
  obtain ⟨-, -, header, firstPartition, -, hparse⟩ :=
    parseAndApplyKey_eq_ok_iff.mp h
  refine parseFrame_complete keepsPlace_key decodes_key ?_ ?_ hparse
  · intro mb parsed hsame hcoded
    obtain ⟨-, hrest⟩ := Prod.mk.inj hsame
    obtain ⟨hmode, hflag⟩ := Prod.mk.inj hrest
    rw [Macroblock.Y2Coded, ← hmode, ← hflag]
    exact hcoded
  · intro segmentation hsegmentation
    obtain ⟨update, -, rfl⟩ := Option.map_eq_some_iff.mp hsegmentation
    intro column row
    rw [ofHeader_map]
    exact Nat.lt_succ_self 3

theorem parseAndApplyInter_complete {state after : DecoderState width height}
    (hstate : state.SegmentsInRange) {chunk : UncompressedChunk}
    {frame : InterFrame}
    (h : state.parseAndApplyInter chunk = .ok (frame, after)) :
    Complete InterFrameMacroblock.Reconstructible frame after := by
  obtain ⟨-, header, firstPartition, -, hparse⟩ :=
    parseAndApplyInter_eq_ok_iff.mp h
  refine parseFrame_complete keepsPlace_inter decodes_inter ?_ ?_ hparse
  · intro mb parsed hsame hholds
    obtain ⟨hheader, hrest⟩ := Prod.mk.inj hsame
    obtain ⟨hmode, hflag⟩ := Prod.mk.inj hrest
    constructor
    · rw [Macroblock.Y2Coded, ← hmode, ← hflag]
      exact hholds.coded
    · rw [InterFrameMacroblock.interCoded, ← hheader, ← hmode]
      exact hholds.whole
  · intro segmentation hsegmentation
    change updateSegmentationHeader state.segmentation header =
      some segmentation at hsegmentation
    unfold updateSegmentationHeader at hsegmentation
    split at hsegmentation
    · cases hsegmentation
    · split at hsegmentation
      · next current hcurrent =>
          obtain rfl := Option.some.inj hsegmentation
          intro column row
          rw [updateMap]
          exact hstate current hcurrent column row
      · obtain rfl := Option.some.inj hsegmentation
        intro column row
        rw [ofHeader_map]
        exact Nat.lt_succ_self 3

end DecoderState

end Salsify.Codec
