import Salsify.Codec.DecoderState
import Salsify.Lib.Fallible

namespace Salsify.Codec

open Salsify.Coder (BoolDecoder)
open Salsify.Net (Failure Chunk)
open BitParser (ensures_bind)
open Fallible (bind_eq_ok ok_bind)

/-! A parsed frame has one macroblock at each place of its grid, and neither the
cached segments nor the tokens change what a macroblock writes to the
segmentation map. -/

namespace Macroblock

variable {Header : Type}

def place (mb : Macroblock Header) : Nat × Nat := (mb.column, mb.row)

def segmentWrite (mb : Macroblock Header) : (Nat × Nat) × Option UInt8 :=
  (mb.place, mb.segmentIdUpdate)

end Macroblock

theorem KeyFrameMacroblock.decodePredictionModes_place
    (context : Context KeyFrameMacroblock) (mb : KeyFrameMacroblock) :
    (KeyFrameMacroblock.decodePredictionModes context mb).Ensures
      fun parsed => parsed.place = mb.place := by
  unfold KeyFrameMacroblock.decodePredictionModes
  apply ensures_bind
  intro mode
  apply ensures_bind
  intro Y
  apply ensures_bind
  intro uvMode
  rfl

namespace InterFrameMacroblock

def source (mb : InterFrameMacroblock) : Bool × Option ReferenceFrame :=
  (mb.header.isInterMb, mb.header.reference)

/-- The macroblock stays where it is, and so does where it is predicted from. -/
def Kept (mb decoded : InterFrameMacroblock) : Prop :=
  decoded.place = mb.place ∧ source decoded = source mb

theorem decodeIntraModes_kept (tables : ProbabilityTables)
    (mb : InterFrameMacroblock) :
    (decodeIntraModes tables mb).Ensures (Kept mb) := by
  unfold decodeIntraModes
  apply ensures_bind
  intro mode
  apply ensures_bind
  intro Y
  apply ensures_bind
  intro uvMode
  exact ⟨rfl, rfl⟩

theorem decodeMotionVectors_kept (tables : ProbabilityTables)
    (context : Context InterFrameMacroblock) (census : Scorer)
    (mb : InterFrameMacroblock) :
    (decodeMotionVectors tables context census mb).Ensures (Kept mb) := by
  unfold decodeMotionVectors
  split
  case h_1 => exact ⟨rfl, rfl⟩
  case h_2 => exact ⟨rfl, rfl⟩
  case h_3 => exact ⟨rfl, rfl⟩
  case h_4 =>
    apply ensures_bind
    intro newMv
    exact ⟨rfl, rfl⟩
  case h_5 =>
    apply ensures_bind
    intro partitionId
    apply ensures_bind
    intro partitions
    apply ensures_bind
    intro Y
    exact ⟨rfl, rfl⟩
  case h_6 => trivial

theorem decodeModes_kept (tables : ProbabilityTables)
    (errorConcealment : Bool) (context : Context InterFrameMacroblock)
    (mb : InterFrameMacroblock) :
    (decodeModes tables errorConcealment context mb).Ensures (Kept mb) := by
  unfold decodeModes
  split
  · apply ensures_bind
    intro Y2
    refine (decodeMotionVectors_kept tables context _
      { mb with Y2 }).bind ?_
    intro decoded hdecoded
    exact hdecoded
  · exact decodeIntraModes_kept tables mb

theorem decodeModes_place (tables : ProbabilityTables)
    (errorConcealment : Bool) (context : Context InterFrameMacroblock)
    (mb : InterFrameMacroblock) :
    (decodeModes tables errorConcealment context mb).Ensures
      fun decoded => decoded.place = mb.place :=
  (decodeModes_kept tables errorConcealment context mb).mono
    fun _ hkept => hkept.1

theorem decodeModes_source (tables : ProbabilityTables)
    (errorConcealment : Bool) (context : Context InterFrameMacroblock)
    (mb : InterFrameMacroblock) :
    (decodeModes tables errorConcealment context mb).Ensures
      fun decoded => source decoded = source mb :=
  (decodeModes_kept tables errorConcealment context mb).mono
    fun _ hkept => hkept.2

theorem decodePredictionModes_place (tables : ProbabilityTables)
    (errorConcealment : Bool) (context : Context InterFrameMacroblock)
    (mb : InterFrameMacroblock) :
    (decodePredictionModes tables errorConcealment context mb).Ensures
      fun parsed => parsed.place = mb.place := by
  intro valid
  dsimp only
  split
  · exact decodeModes_place tables errorConcealment context (conceal mb)
  · exact decodeModes_place tables errorConcealment context mb

end InterFrameMacroblock

section Headers

variable {FrameHeader MacroblockHeader : Type}
variable [HeaderType FrameHeader MacroblockHeader]

def KeepsPlace (FrameHeader : Type) {MacroblockHeader : Type}
    [HeaderType FrameHeader MacroblockHeader] : Prop :=
  ∀ tables errorConcealment context (mb : Macroblock MacroblockHeader),
    (HeaderType.decodePredictionModes FrameHeader tables errorConcealment
      context mb).Ensures fun parsed => parsed.place = mb.place

theorem keepsPlace_key : KeepsPlace KeyFrameHeader :=
  fun _ _ context mb =>
    KeyFrameMacroblock.decodePredictionModes_place context mb

theorem keepsPlace_inter : KeepsPlace InterFrameHeader :=
  InterFrameMacroblock.decodePredictionModes_place

theorem Macroblock.parse_place (hkeeps : KeepsPlace FrameHeader)
    (header : FrameHeader) (probabilities : List Coder.Probability)
    (tables : ProbabilityTables) (errorConcealment : Bool)
    (context : Context (Macroblock MacroblockHeader)) :
    (Macroblock.parse header probabilities tables errorConcealment
      context).Ensures fun mb => mb.place = (context.column, context.row) := by
  unfold Macroblock.parse
  apply ensures_bind
  intro segmentIdUpdate
  apply ensures_bind
  intro mbSkipCoeff
  apply ensures_bind
  intro mbHeader
  exact hkeeps tables errorConcealment context
    { column := context.column, row := context.row, segmentIdUpdate,
      mbSkipCoeff, header := mbHeader }

theorem parseMacroblocks_places (hkeeps : KeepsPlace FrameHeader)
    (header : FrameHeader) (tables : ProbabilityTables)
    (errorConcealment : Bool) (width height : Nat)
    (places : List (Nat × Nat)) (before : List (Macroblock MacroblockHeader)) :
    (parseMacroblocks header tables errorConcealment width height places
      before).Ensures fun macroblocks =>
        macroblocks.map Macroblock.place =
          before.map Macroblock.place ++ places := by
  induction places generalizing before with
  | nil => exact (List.append_nil _).symm
  | cons place rest ih =>
      refine (Macroblock.parse_place hkeeps header _ tables errorConcealment
        (contextAt width height before place)).bind ?_
      intro mb hmb
      have hrest := ih (before ++ [mb])
      rw [List.map_append, List.map_cons, hmb, List.append_assoc] at hrest
      exact hrest

end Headers

section Frames

variable {MacroblockHeader : Type}

theorem updateSegmentationAll_map {width height : Nat}
    (map : SegmentationMap width height)
    (macroblocks : List (Macroblock MacroblockHeader)) :
    (updateSegmentationAll map macroblocks).1 =
      map.overwrite (macroblocks.map Macroblock.segmentWrite) := by
  induction macroblocks generalizing map with
  | nil => rfl
  | cons mb rest ih =>
      rw [updateSegmentationAll, ih, List.map_cons, Macroblock.segmentWrite,
        Macroblock.updateSegmentation]
      cases mb.segmentIdUpdate with
      | none => rfl
      | some segment => rfl

theorem updateSegmentationAll_view {β : Type}
    {view : Macroblock MacroblockHeader → β}
    (hview : ∀ mb segmentId, view { mb with segmentId } = view mb)
    {width height : Nat} (map : SegmentationMap width height)
    (macroblocks : List (Macroblock MacroblockHeader)) :
    (updateSegmentationAll map macroblocks).2.map view =
      macroblocks.map view := by
  induction macroblocks generalizing map with
  | nil => rfl
  | cons mb rest ih =>
      rw [updateSegmentationAll, List.map_cons, List.map_cons, ih]
      exact congrArg (· :: rest.map view) (hview mb _)

theorem linkY2Blocks_length (width : Nat)
    (aboveCoded leftCoded : Nat → Option Nat) (index : Nat)
    (coded : List Bool) :
    (linkY2Blocks width aboveCoded leftCoded index coded).length =
      coded.length := by
  induction coded generalizing aboveCoded leftCoded index with
  | nil => rfl
  | cons first rest ih =>
      cases first with
      | false => simp [linkY2Blocks, ih]
      | true => simp [linkY2Blocks, ih]

theorem Macroblock.parseTokens_write (tables : ProbabilityTables)
    (context : TokenContext MacroblockHeader)
    (mb : Macroblock MacroblockHeader) :
    (mb.parseTokens tables context).Ensures
      fun parsed => parsed.segmentWrite = mb.segmentWrite := by
  unfold Macroblock.parseTokens
  split
  · rfl
  · apply ensures_bind
    intro Y2
    apply ensures_bind
    intro Y
    apply ensures_bind
    intro U
    apply ensures_bind
    intro V
    rfl

theorem parseMacroblockTokens_view {β : Type}
    {view : Macroblock MacroblockHeader → β} {tables : ProbabilityTables}
    (hview : ∀ context mb, (Macroblock.parseTokens tables context mb).Ensures
      fun parsed => view parsed = view mb) {width height : Nat}
    {items : List (Macroblock MacroblockHeader × Y2Links)}
    {before parsed : List (Macroblock MacroblockHeader)}
    {decoders : List BoolDecoder}
    (h : parseMacroblockTokens tables width height items before decoders =
      .ok parsed) :
    parsed.map view =
      before.map view ++ items.map fun item => view item.1 := by
  induction items generalizing before decoders with
  | nil =>
      cases h
      exact (List.append_nil _).symm
  | cons item rest ih =>
      rw [parseMacroblockTokens] at h
      split at h
      · cases h
      · obtain ⟨⟨mb, next⟩, hmb, hrest⟩ := bind_eq_ok h
        have hparsed := (hview _ item.1).of_run hmb
        rw [ih hrest, List.map_append, List.map_cons, hparsed,
          List.append_assoc]
        rfl

theorem parseMacroblockTokens_writes {tables : ProbabilityTables}
    {width height : Nat}
    {items : List (Macroblock MacroblockHeader × Y2Links)}
    {before parsed : List (Macroblock MacroblockHeader)}
    {decoders : List BoolDecoder}
    (h : parseMacroblockTokens tables width height items before decoders =
      .ok parsed) :
    parsed.map Macroblock.segmentWrite =
      before.map Macroblock.segmentWrite ++
        items.map fun item => item.1.segmentWrite :=
  parseMacroblockTokens_view (Macroblock.parseTokens_write tables) h

end Frames

namespace DecoderState

variable {width height : Nat} {FrameHeader MacroblockHeader : Type}

/-- The segmentation once the macroblocks have written to its map. -/
def withWrites (segmentation : Option (Segmentation width height))
    (macroblocks : List (Macroblock MacroblockHeader)) :
    Option (Segmentation width height) :=
  segmentation.map fun current => { current with
    map := current.map.overwrite (macroblocks.map Macroblock.segmentWrite) }

def segmented (segmentation : Option (Segmentation width height))
    (macroblocks : List (Macroblock MacroblockHeader)) :
    List (Macroblock MacroblockHeader) :=
  segmentation.elim macroblocks fun current =>
    (updateSegmentationAll current.map macroblocks).2

theorem applySegmentation_eq
    (segmentation : Option (Segmentation width height))
    (frame : Frame FrameHeader MacroblockHeader) :
    applySegmentation segmentation frame =
      (withWrites segmentation frame.macroblocks,
        { frame with
          macroblocks := segmented segmentation frame.macroblocks }) := by
  cases segmentation with
  | none => rfl
  | some current =>
      refine Prod.ext ?_ rfl
      exact congrArg some (congrArg (fun map => { current with map })
        (updateSegmentationAll_map current.map frame.macroblocks))

theorem segmented_view {β : Type} {view : Macroblock MacroblockHeader → β}
    (hview : ∀ mb segmentId, view { mb with segmentId } = view mb)
    (segmentation : Option (Segmentation width height))
    (macroblocks : List (Macroblock MacroblockHeader)) :
    (segmented segmentation macroblocks).map view = macroblocks.map view := by
  cases segmentation with
  | none => rfl
  | some current => exact updateSegmentationAll_view hview current.map _

def tokenItems (segmentation : Option (Segmentation width height))
    (macroblocks : List (Macroblock MacroblockHeader)) :
    List (Macroblock MacroblockHeader × Y2Links) :=
  (segmented segmentation macroblocks).zip
    (relinkY2Blocks (macroblockDimension width) macroblocks)

theorem segmented_length (segmentation : Option (Segmentation width height))
    (macroblocks : List (Macroblock MacroblockHeader)) :
    (segmented segmentation macroblocks).length =
      (relinkY2Blocks (macroblockDimension width) macroblocks).length := by
  have hview : ∀ (mb : Macroblock MacroblockHeader) segmentId,
      Macroblock.place { mb with segmentId } = mb.place := fun _ _ => rfl
  have hlength := congrArg List.length
    (segmented_view hview segmentation macroblocks)
  rw [List.length_map, List.length_map] at hlength
  rw [relinkY2Blocks, linkY2Blocks_length, List.length_map, hlength]

theorem tokenItems_view {β : Type} {view : Macroblock MacroblockHeader → β}
    (hview : ∀ mb segmentId, view { mb with segmentId } = view mb)
    (segmentation : Option (Segmentation width height))
    (macroblocks : List (Macroblock MacroblockHeader)) :
    (tokenItems segmentation macroblocks).map (fun item => view item.1) =
      macroblocks.map view := by
  have hlinks := segmented_length segmentation macroblocks
  calc
    (tokenItems segmentation macroblocks).map (fun item => view item.1)
      = ((tokenItems segmentation macroblocks).map Prod.fst).map view := by
        rw [List.map_map]
        rfl
    _ = macroblocks.map view := by
        rw [tokenItems, List.map_fst_zip (Nat.le_of_eq hlinks),
          segmented_view hview]

theorem tokenItems_links (segmentation : Option (Segmentation width height))
    (macroblocks : List (Macroblock MacroblockHeader)) :
    (tokenItems segmentation macroblocks).map Prod.snd =
      relinkY2Blocks (macroblockDimension width) macroblocks :=
  List.map_snd_zip (Nat.le_of_eq (segmented_length segmentation macroblocks).symm)

variable [HeaderType FrameHeader MacroblockHeader]

theorem parseFrame_eq_ok_iff {chunk : UncompressedChunk}
    {state after : DecoderState width height} {header : FrameHeader}
    {tables : ProbabilityTables} {errorConcealment : Bool}
    {firstPartition : BoolDecoder}
    {frame : Frame FrameHeader MacroblockHeader} :
    parseFrame chunk state header tables errorConcealment firstPartition =
        .ok (frame, after) ↔
      ∃ macroblocks last partitions tokens,
        (parseMacroblocks header tables errorConcealment
          (macroblockDimension width) (macroblockDimension height)
          (Grid.places (macroblockDimension width)
            (macroblockDimension height)) []).run boolDecoder firstPartition =
              .ok (macroblocks, last) ∧
        chunk.dctPartitions (2 ^ (HeaderType.log2NumberOfDctPartitions
          header).toNat) = .ok partitions ∧
        parseMacroblockTokens tables (macroblockDimension width)
            (macroblockDimension height)
            (tokenItems state.segmentation macroblocks) []
            (partitions.map fun partition => BoolDecoder.ofChunk partition) =
          .ok tokens ∧
        frame = {
          showFrame := chunk.showFrame
          displayWidth := width
          displayHeight := height
          header
          macroblocks := tokens
          y2Links := relinkY2Blocks (macroblockDimension width) macroblocks } ∧
        after = { state with
          segmentation := withWrites state.segmentation macroblocks } := by
  constructor
  · intro h
    obtain ⟨headers, hheaders, h⟩ := bind_eq_ok h
    obtain ⟨⟨macroblocks, last⟩, hmacroblocks, hheaders⟩ := bind_eq_ok hheaders
    cases hheaders
    simp only [applySegmentation_eq] at h
    obtain ⟨partitions, hpartitions, h⟩ := bind_eq_ok h
    obtain ⟨parsed, hparsed, h⟩ := bind_eq_ok h
    obtain ⟨tokens, htokens, hparsed⟩ := bind_eq_ok hparsed
    cases hparsed
    cases h
    exact ⟨macroblocks, last, partitions, tokens, hmacroblocks, hpartitions,
      htokens, rfl, rfl⟩
  · rintro ⟨macroblocks, last, partitions, tokens, hmacroblocks, hpartitions,
      htokens, rfl, rfl⟩
    have htokens : parseMacroblockTokens tables (macroblockDimension width)
        (macroblockDimension height)
        ((segmented state.segmentation macroblocks).zip
          (relinkY2Blocks (macroblockDimension width) macroblocks)) []
        (partitions.map fun partition => BoolDecoder.ofChunk partition) =
          .ok tokens := htokens
    simp only [parseFrame, parseMacroblockHeaders, hmacroblocks, ok_bind,
      applySegmentation_eq, hpartitions, Frame.parseTokens, htokens, pure,
      Except.pure]

theorem parseFrame_spec (hkeeps : KeepsPlace FrameHeader)
    {chunk : UncompressedChunk} {state after : DecoderState width height}
    {header : FrameHeader} {tables : ProbabilityTables}
    {errorConcealment : Bool} {firstPartition : BoolDecoder}
    {frame : Frame FrameHeader MacroblockHeader}
    (h : parseFrame chunk state header tables errorConcealment
      firstPartition = .ok (frame, after)) :
    frame.header = header ∧
      after = { state with
        segmentation := withWrites state.segmentation frame.macroblocks } ∧
      frame.macroblocks.map Macroblock.place =
        Grid.places (macroblockDimension width)
          (macroblockDimension height) := by
  obtain ⟨macroblocks, last, partitions, tokens, hmacroblocks, -, htokens, rfl,
    rfl⟩ := parseFrame_eq_ok_iff.mp h
  have hwrites := parseMacroblockTokens_writes htokens
  rw [tokenItems_view fun _ _ => rfl, List.map_nil, List.nil_append] at hwrites
  refine ⟨rfl, ?_, ?_⟩
  · rw [withWrites, withWrites, hwrites]
  · have hplace (macroblocks : List (Macroblock MacroblockHeader)) :
        macroblocks.map Macroblock.place =
          (macroblocks.map Macroblock.segmentWrite).map Prod.fst := by
      rw [List.map_map]
      rfl
    rw [hplace, hwrites, ← hplace]
    exact (parseMacroblocks_places hkeeps header tables errorConcealment _ _ _
      []).of_run hmacroblocks

def keyFrameState (header : KeyFrameHeader) : DecoderState width height :=
  let tables : ProbabilityTables := {}
  { (ofHeader header : DecoderState width height) with
    probabilityTables :=
      if header.refreshEntropyProbs then
        tables.coeffProbUpdate header.tokenProbUpdate
      else tables }

def interFrameState (state : DecoderState width height)
    (header : InterFrameHeader) : DecoderState width height where
  probabilityTables :=
    if header.refreshEntropyProbs then state.probabilityTables.update header
    else state.probabilityTables
  filterAdjustments := updateFilterAdjustments state.filterAdjustments header
  segmentation := updateSegmentationHeader state.segmentation header

def firstPartitionDecoder (chunk : UncompressedChunk) : BoolDecoder :=
  .ofChunk chunk.firstPartition
    (CorruptionLevel.corruptedFirstPartition.code ≤ chunk.corruptionLevel.code)

theorem parseHeader_eq_ok_iff {FrameHeader MacroblockHeader : Type}
    [HeaderType FrameHeader MacroblockHeader] {chunk : UncompressedChunk}
    {result : FrameHeader × BoolDecoder} :
    parseHeader width height chunk = .ok result ↔
      0 < width ∧ 0 < height ∧
        (HeaderType.parse : Parser FrameHeader).run boolDecoder
          (firstPartitionDecoder chunk) = .ok result := by
  constructor
  · intro h
    obtain ⟨checked, hwidth, h⟩ := bind_eq_ok h
    obtain ⟨checked, hheight, h⟩ := bind_eq_ok h
    rw [Net.require_eq_ok, decide_eq_true_iff] at hwidth hheight
    exact ⟨hwidth, hheight, h⟩
  · rintro ⟨hwidth, hheight, h⟩
    rw [parseHeader, decide_eq_true hwidth, Net.require_true, ok_bind,
      decide_eq_true hheight, Net.require_true, ok_bind]
    exact h

theorem parseAndApplyKey_eq_ok_iff {chunk : UncompressedChunk}
    {result : KeyFrame × DecoderState width height} :
    parseAndApplyKey chunk = .ok result ↔
      chunk.keyFrame = true ∧ chunk.experimental = false ∧
      ∃ header firstPartition,
        parseHeader width height chunk = .ok (header, firstPartition) ∧
        parseFrame chunk (keyFrameState header) header
          (({} : ProbabilityTables).coeffProbUpdate header.tokenProbUpdate)
          false firstPartition = .ok result := by
  constructor
  · intro h
    obtain ⟨_, hkey, h⟩ := bind_eq_ok h
    obtain ⟨_, hexperimental, h⟩ := bind_eq_ok h
    obtain ⟨⟨header, firstPartition⟩, hheader, h⟩ := bind_eq_ok h
    rw [Net.require_eq_ok] at hkey
    rw [Net.require_eq_ok, Bool.not_eq_true'] at hexperimental
    exact ⟨hkey, hexperimental, header, firstPartition, hheader, h⟩
  · rintro ⟨hkey, hexperimental, header, firstPartition, hheader, h⟩
    unfold parseAndApplyKey
    rw [hkey, hexperimental, Net.require_true, ok_bind, Bool.not_false,
      Net.require_true, ok_bind, hheader, ok_bind]
    exact h

theorem parseAndApplyInter_eq_ok_iff {state : DecoderState width height}
    {chunk : UncompressedChunk}
    {result : InterFrame × DecoderState width height} :
    state.parseAndApplyInter chunk = .ok result ↔
      chunk.keyFrame = false ∧
      ∃ header firstPartition,
        parseHeader width height chunk = .ok (header, firstPartition) ∧
        parseFrame chunk (state.interFrameState header) header
          (state.probabilityTables.update header)
          (CorruptionLevel.corruptedResidues.code < chunk.corruptionLevel.code)
          firstPartition = .ok result := by
  constructor
  · intro h
    obtain ⟨_, hkey, h⟩ := bind_eq_ok h
    obtain ⟨⟨header, firstPartition⟩, hheader, h⟩ := bind_eq_ok h
    rw [Net.require_eq_ok, Bool.not_eq_true'] at hkey
    exact ⟨hkey, header, firstPartition, hheader, h⟩
  · rintro ⟨hkey, header, firstPartition, hheader, h⟩
    unfold parseAndApplyInter
    rw [hkey, Bool.not_false, Net.require_true, ok_bind, hheader, ok_bind]
    exact h

end DecoderState

end Salsify.Codec
