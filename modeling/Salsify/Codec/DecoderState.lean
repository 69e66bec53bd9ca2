import Salsify.Codec.Frame

namespace Salsify.Codec

open Salsify.Coder (BoolDecoder)
open Salsify.Net (Failure)

/-! The state a decoder keeps between frames, and `parse_and_apply` of
`decoder/decoder_state.hh`. -/

structure FilterAdjustments where
  loopfilterRefAdjustments : SafeArray Int8 4 := fun _ => 0
  loopfilterModeAdjustments : SafeArray Int8 4 := fun _ => 0

/-- `update`, given the header's `mode_lf_adjustments`. -/
def FilterAdjustments.update (adjustments : FilterAdjustments)
    (modeLfAdjustments : Option ModeRefLFDeltaUpdate) : FilterAdjustments :=
  match modeLfAdjustments with
  | none => adjustments
  | some deltas =>
      { loopfilterRefAdjustments := fun i => (deltas.refUpdate i).getD 0
        loopfilterModeAdjustments := fun i => (deltas.modeUpdate i).getD 0 }

structure Segmentation (width height : Nat) where
  absoluteSegmentAdjustments : Bool := false
  segmentQuantizerAdjustments : SafeArray Int8 4 := fun _ => 0
  segmentFilterAdjustments : SafeArray Int8 4 := fun _ => 0
  map : SegmentationMap width height

namespace Segmentation

variable {width height : Nat}

def update (segmentation : Segmentation width height)
    (updateSegmentation : UpdateSegmentation) : Segmentation width height :=
  match updateSegmentation.segmentFeatureData with
  | none => segmentation
  | some featureData =>
      { segmentation with
        absoluteSegmentAdjustments := featureData.segmentFeatureMode
        segmentQuantizerAdjustments := fun i =>
          (featureData.quantizerUpdate i).getD 0
        segmentFilterAdjustments := fun i =>
          (featureData.loopFilterUpdate i).getD 0 }

/-- The constructor from a header. -/
def ofHeader (updateSegmentation : UpdateSegmentation) :
    Segmentation width height :=
  update { map := fun _ _ => 3 } updateSegmentation

end Segmentation

structure DecoderState (width height : Nat) where
  probabilityTables : ProbabilityTables := {}
  segmentation : Option (Segmentation width height) := none
  filterAdjustments : Option FilterAdjustments := none

namespace DecoderState

variable {width height : Nat}

/-- The constructor from the header of a key frame. -/
def ofHeader (header : KeyFrameHeader) : DecoderState width height where
  segmentation := header.updateSegmentation.map .ofHeader
  filterAdjustments :=
    header.modeLfAdjustments.map (FilterAdjustments.update {})

def updateFilterAdjustments (filterAdjustments : Option FilterAdjustments)
    (header : InterFrameHeader) : Option FilterAdjustments :=
  header.modeLfAdjustments.map (filterAdjustments.getD {}).update

def updateSegmentationHeader
    (segmentation : Option (Segmentation width height))
    (header : InterFrameHeader) : Option (Segmentation width height) :=
  match header.updateSegmentation with
  | none => none
  | some updateSegmentation =>
      match segmentation with
      | some current => some (current.update updateSegmentation)
      | none => some (.ofHeader updateSegmentation)

section Parse

variable {FrameHeader MacroblockHeader : Type}
variable [HeaderType FrameHeader MacroblockHeader]

/-- The frame with its macroblock headers, and the Y2 blocks relinked. -/
def parseMacroblockHeaders (width height : Nat) (showFrame : Bool)
    (header : FrameHeader) (tables : ProbabilityTables)
    (errorConcealment : Bool) (firstPartition : BoolDecoder) :
    Except Failure (Frame FrameHeader MacroblockHeader) := do
  let mbWidth := macroblockDimension width
  let mbHeight := macroblockDimension height
  let (macroblocks, _) ← (parseMacroblocks header tables errorConcealment
    mbWidth mbHeight (Grid.places mbWidth mbHeight) []).run boolDecoder
    firstPartition
  return {
    showFrame
    displayWidth := width
    displayHeight := height
    header, macroblocks
    y2Links := relinkY2Blocks mbWidth macroblocks }

/-- Updates the map of the state and caches the segments in the frame. -/
def applySegmentation (segmentation : Option (Segmentation width height))
    (frame : Frame FrameHeader MacroblockHeader) :
    Option (Segmentation width height) × Frame FrameHeader MacroblockHeader :=
  match segmentation with
  | none => (none, frame)
  | some current =>
      let (map, macroblocks) := updateSegmentationAll current.map
        frame.macroblocks
      (some { current with map }, { frame with macroblocks })

def parseFrame (chunk : UncompressedChunk) (state : DecoderState width height)
    (header : FrameHeader) (tables : ProbabilityTables)
    (errorConcealment : Bool) (firstPartition : BoolDecoder) :
    Except Failure
      (Frame FrameHeader MacroblockHeader × DecoderState width height) := do
  let headers ← parseMacroblockHeaders width height chunk.showFrame header
    tables errorConcealment firstPartition
  let (segmentation, segmented) := applySegmentation state.segmentation headers
  let partitions ← chunk.dctPartitions
    (2 ^ (HeaderType.log2NumberOfDctPartitions header).toNat)
  let frame ← segmented.parseTokens partitions tables
  return (frame, { state with segmentation })

def parseHeader (width height : Nat) (chunk : UncompressedChunk) :
    Except Failure (FrameHeader × BoolDecoder) := do
  Net.require (0 < width) (.assertion "width > 0")
  Net.require (0 < height) (.assertion "height > 0")
  (HeaderType.parse : Parser FrameHeader).run boolDecoder
    (.ofChunk chunk.firstPartition
      (CorruptionLevel.corruptedFirstPartition.code ≤
        chunk.corruptionLevel.code))

end Parse

/-- `parse_and_apply<KeyFrame>`, which forgets the state it is called on. -/
def parseAndApplyKey (chunk : UncompressedChunk) :
    Except Failure (KeyFrame × DecoderState width height) := do
  Net.require chunk.keyFrame (.assertion "uncompressed_chunk.key_frame()")
  Net.require (!chunk.experimental) (.invalid "experimental key frame")
  let (header, firstPartition) : KeyFrameHeader × BoolDecoder ←
    parseHeader width height chunk
  let state : DecoderState width height := ofHeader header
  let frameTables := state.probabilityTables.coeffProbUpdate
    header.tokenProbUpdate
  let probabilityTables :=
    if header.refreshEntropyProbs then frameTables
    else state.probabilityTables
  parseFrame chunk { state with probabilityTables } header frameTables false
    firstPartition

/-- `parse_and_apply<InterFrame>` -/
def parseAndApplyInter (state : DecoderState width height)
    (chunk : UncompressedChunk) :
    Except Failure (InterFrame × DecoderState width height) := do
  Net.require (!chunk.keyFrame) (.assertion "not uncompressed_chunk.key_frame()")
  let (header, firstPartition) : InterFrameHeader × BoolDecoder ←
    parseHeader width height chunk
  let frameTables := state.probabilityTables.update header
  parseFrame chunk {
      probabilityTables :=
        if header.refreshEntropyProbs then frameTables
        else state.probabilityTables
      filterAdjustments := updateFilterAdjustments state.filterAdjustments
        header
      segmentation := updateSegmentationHeader state.segmentation header }
    header frameTables
    (CorruptionLevel.corruptedResidues.code < chunk.corruptionLevel.code)
    firstPartition

end DecoderState

end Salsify.Codec
