import Salsify.Codec.Tokens
import Salsify.Codec.UncompressedChunk
import Salsify.Lib.Grid

namespace Salsify.Codec

open Salsify.Coder (Probability BoolDecoder)
open Salsify.Net (Chunk Failure)

/-! Frames, as in `decoder/frame.cc`. -/

abbrev TwoD := Grid

abbrev SegmentationMap (width height : Nat) := TwoD UInt8 width height

def macroblockDimension (num : Nat) : Nat := (num + 15) / 16

/-- The context of the place `(column, row)`, of whose grid the elements in
`before` are there. -/
def contextAt {α : Type} (width height : Nat) (before : List α)
    (place : Nat × Nat) : Context α :=
  let maybeAt (column row : Nat) : Option α :=
    if column < width ∧ row < height then before[row * width + column]? else none
  { column := place.1
    row := place.2
    width, height
    left := if place.1 = 0 then none else maybeAt (place.1 - 1) place.2
    aboveLeft :=
      if place.1 = 0 ∨ place.2 = 0 then none
      else maybeAt (place.1 - 1) (place.2 - 1)
    above := if place.2 = 0 then none else maybeAt place.1 (place.2 - 1) }

structure Y2Links where
  above : Option Nat
  left : Option Nat
  deriving DecidableEq, Repr

structure Frame (FrameHeader MacroblockHeader : Type) where
  showFrame : Bool
  displayWidth : Nat
  displayHeight : Nat
  header : FrameHeader
  macroblocks : List (Macroblock MacroblockHeader)
  y2Links : List Y2Links

abbrev KeyFrame := Frame KeyFrameHeader KeyFrameMacroblockHeader
abbrev InterFrame := Frame InterFrameHeader InterFrameMacroblockHeader

/-- Not read, and not set, unless the frame updates the map. -/
def calculateMbSegmentTreeProbs (updateSegmentation : Option UpdateSegmentation) :
    List Probability :=
  match updateSegmentation.bind UpdateSegmentation.mbSegmentationMap with
  | some segMap => List.ofFn fun i => (segMap i).getD 255
  | none => [0, 0, 0]

section MacroblockHeaders

variable {FrameHeader MacroblockHeader : Type}
variable [HeaderType FrameHeader MacroblockHeader]

def parseMacroblocks (header : FrameHeader) (tables : ProbabilityTables)
    (errorConcealment : Bool) (width height : Nat) :
    List (Nat × Nat) → List (Macroblock MacroblockHeader) →
    Parser (List (Macroblock MacroblockHeader))
  | [], before => pure before
  | place :: rest, before => do
      let mb ← Macroblock.parse header
        (calculateMbSegmentTreeProbs (HeaderType.updateSegmentation header))
        tables errorConcealment (contextAt width height before place)
      parseMacroblocks header tables errorConcealment width height rest
        (before ++ [mb])

end MacroblockHeaders

section Frames

variable {FrameHeader MacroblockHeader : Type}

/-- The links of the remaining Y2 blocks, given the last coded one of each
column and of each row. -/
def linkY2Blocks (width : Nat) (aboveCoded leftCoded : Nat → Option Nat) :
    Nat → List Bool → List Y2Links
  | _, [] => []
  | index, coded :: rest =>
      let column := index % width
      let row := index / width
      { above := aboveCoded column, left := leftCoded row } ::
        if coded then
          linkY2Blocks width (Function.update aboveCoded column (some index))
            (Function.update leftCoded row (some index)) (index + 1) rest
        else
          linkY2Blocks width aboveCoded leftCoded (index + 1) rest

def relinkY2Blocks (width : Nat)
    (macroblocks : List (Macroblock MacroblockHeader)) : List Y2Links :=
  linkY2Blocks width (fun _ => none) (fun _ => none) 0
    (macroblocks.map fun mb => mb.Y2.coded)

/-- Updates the map at the macroblock, and caches what it holds there. -/
def Macroblock.updateSegmentation {width height : Nat}
    (map : SegmentationMap width height) (mb : Macroblock MacroblockHeader) :
    SegmentationMap width height × Macroblock MacroblockHeader :=
  let updated := mb.segmentIdUpdate.elim map (map.set (mb.column, mb.row))
  (updated, { mb with
    segmentId := (updated.get? (mb.column, mb.row)).getD mb.segmentId })

def updateSegmentationAll {width height : Nat} :
    SegmentationMap width height → List (Macroblock MacroblockHeader) →
    SegmentationMap width height × List (Macroblock MacroblockHeader)
  | map, [] => (map, [])
  | map, mb :: rest =>
      let (updated, first) := mb.updateSegmentation map
      let (last, others) := updateSegmentationAll updated rest
      (last, first :: others)

/-- The partition of a row is shared by all rows that are the same modulo the
number of partitions. -/
def parseMacroblockTokens (tables : ProbabilityTables) (width height : Nat) :
    List (Macroblock MacroblockHeader × Y2Links) →
    List (Macroblock MacroblockHeader) → List BoolDecoder →
    Except Failure (List (Macroblock MacroblockHeader))
  | [], before, _ => .ok before
  | (mb, links) :: rest, before, decoders => do
      let index := mb.row % decoders.length
      let context := contextAt width height before (mb.column, mb.row)
      let y2Of (link : Option Nat) : Option Y2Block :=
        (link.bind fun other => before[other]?).map Macroblock.Y2
      match decoders[index]? with
      | none => .error (.outOfRange "vector::_M_range_check")
      | some decoder => do
          let (parsed, next) ← (mb.parseTokens tables
            { above := context.above, left := context.left
              y2Above := y2Of links.above
              y2Left := y2Of links.left }).run boolDecoder decoder
          parseMacroblockTokens tables width height rest (before ++ [parsed])
            (decoders.set index next)

def Frame.parseTokens (frame : Frame FrameHeader MacroblockHeader)
    (dctPartitions : List Chunk) (tables : ProbabilityTables) :
    Except Failure (Frame FrameHeader MacroblockHeader) := do
  let macroblocks ← parseMacroblockTokens tables
    (macroblockDimension frame.displayWidth)
    (macroblockDimension frame.displayHeight)
    (frame.macroblocks.zip frame.y2Links) []
    (dctPartitions.map fun partition => BoolDecoder.ofChunk partition)
  return { frame with macroblocks }

end Frames

end Salsify.Codec
