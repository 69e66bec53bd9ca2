import Salsify.Codec.LoopFilter
import Salsify.Codec.SampleReconstruction

namespace Salsify.Codec

open Salsify.Net (Failure)
open Fallible (ok_bind)

/-! The loop filter on the samples of a raster: `decoder/loopfilter_filters.hh`
and `NormalLoopFilter::filter` of `decoder/loopfilter.cc`. -/

inductive Tap
  | p3 | p2 | p1 | p0 | q0 | q1 | q2 | q3
  deriving DecidableEq, Repr

namespace Tap

def all : List Tap := [.p3, .p2, .p1, .p0, .q0, .q1, .q2, .q3]

def index : Tap → Nat
  | .p3 => 0
  | .p2 => 1
  | .p1 => 2
  | .p0 => 3
  | .q0 => 4
  | .q1 => 5
  | .q2 => 6
  | .q3 => 7

/-- From `central - 4 * stride` to `central + 3 * stride`. -/
def pointer (tap : Tap) (central stride : Nat) : Except Failure Nat := do
  Net.require (4 * stride ≤ central + tap.index * stride) TwoDStorage.outside
  return central + tap.index * stride - 4 * stride

end Tap

abbrev EdgeSamples := Tap → UInt8

def vp8SignedCharClamp (t : Int) : Int :=
  let t := if t < -128 then -128 else t
  if 127 < t then 127 else t

/-- `abs( one - other )` -/
def sampleDistance (one other : UInt8) : Nat :=
  ((one.toNat : Int) - other.toNat).natAbs

/-- Whether any filter is applied at all. -/
def vp8FilterMask (limit blimit : UInt8) (samples : EdgeSamples) : Bool :=
  !(limit.toNat < sampleDistance (samples .p3) (samples .p2) ||
    limit.toNat < sampleDistance (samples .p2) (samples .p1) ||
    limit.toNat < sampleDistance (samples .p1) (samples .p0) ||
    limit.toNat < sampleDistance (samples .q1) (samples .q0) ||
    limit.toNat < sampleDistance (samples .q2) (samples .q1) ||
    limit.toNat < sampleDistance (samples .q3) (samples .q2) ||
    blimit.toNat < sampleDistance (samples .p0) (samples .q0) * 2 +
      sampleDistance (samples .p1) (samples .q1) / 2)

/-- Whether there is high variance at the edge. -/
def vp8Hevmask (thresh : Nat) (samples : EdgeSamples) : Bool :=
  thresh < sampleDistance (samples .p1) (samples .p0) ||
    thresh < sampleDistance (samples .q1) (samples .q0)

/-- `(signed char) sample ^ 0x80` -/
def signedSample (sample : UInt8) : Int := (sample.toNat : Int) - 128

/-- `u ^ 0x80` -/
def unsignedSample (u : Int) : UInt8 := UInt8.ofInt (u + 128)

/-- `value & mask`, for a mask of eight bits that are all the same. -/
def masked (mask : Bool) (value : Int) : Int := if mask then value else 0

/-- The samples that `vp8_filter` assigns, in the order in which it does. -/
def vp8Filter (mask hev : Bool) (samples : EdgeSamples) :
    List (Tap × UInt8) :=
  let ps1 := signedSample (samples .p1)
  let ps0 := signedSample (samples .p0)
  let qs0 := signedSample (samples .q0)
  let qs1 := signedSample (samples .q1)
  let filterValue := masked hev (vp8SignedCharClamp (ps1 - qs1))
  let filterValue := masked mask
    (vp8SignedCharClamp (filterValue + 3 * (qs0 - ps0)))
  let filter1 := vp8SignedCharClamp (filterValue + 4) >>> (3 : Nat)
  let filter2 := vp8SignedCharClamp (filterValue + 3) >>> (3 : Nat)
  let outer := masked (!hev) ((filter1 + 1) >>> (1 : Nat))
  [(.q0, unsignedSample (vp8SignedCharClamp (qs0 - filter1))),
    (.p0, unsignedSample (vp8SignedCharClamp (ps0 + filter2))),
    (.q1, unsignedSample (vp8SignedCharClamp (qs1 - outer))),
    (.p1, unsignedSample (vp8SignedCharClamp (ps1 + outer)))]

def vp8Mbfilter (mask hev : Bool) (samples : EdgeSamples) :
    List (Tap × UInt8) :=
  let ps2 := signedSample (samples .p2)
  let ps1 := signedSample (samples .p1)
  let ps0 := signedSample (samples .p0)
  let qs0 := signedSample (samples .q0)
  let qs1 := signedSample (samples .q1)
  let qs2 := signedSample (samples .q2)
  let filterValue := vp8SignedCharClamp (ps1 - qs1)
  let filterValue := masked mask
    (vp8SignedCharClamp (filterValue + 3 * (qs0 - ps0)))
  let filter2 := masked hev filterValue
  let filter1 := vp8SignedCharClamp (filter2 + 4) >>> (3 : Nat)
  let filter2 := vp8SignedCharClamp (filter2 + 3) >>> (3 : Nat)
  let qs0 := vp8SignedCharClamp (qs0 - filter1)
  let ps0 := vp8SignedCharClamp (ps0 + filter2)
  let wider := masked (!hev) filterValue
  let u0 := vp8SignedCharClamp ((63 + wider * 27) >>> (7 : Nat))
  let u1 := vp8SignedCharClamp ((63 + wider * 18) >>> (7 : Nat))
  let u2 := vp8SignedCharClamp ((63 + wider * 9) >>> (7 : Nat))
  [(.q0, unsignedSample (vp8SignedCharClamp (qs0 - u0))),
    (.p0, unsignedSample (vp8SignedCharClamp (ps0 + u0))),
    (.q1, unsignedSample (vp8SignedCharClamp (qs1 - u1))),
    (.p1, unsignedSample (vp8SignedCharClamp (ps1 + u1))),
    (.q2, unsignedSample (vp8SignedCharClamp (qs2 - u2))),
    (.p2, unsignedSample (vp8SignedCharClamp (ps2 + u2)))]

namespace NormalLoopFilter

def macroblockEdge (filter : NormalLoopFilter) (samples : EdgeSamples) :
    List (Tap × UInt8) :=
  vp8Mbfilter
    (vp8FilterMask filter.simple.interiorLimit filter.simple.macroblockLimit
      samples)
    (vp8Hevmask filter.hevThreshold samples) samples

def subblockEdge (filter : NormalLoopFilter) (samples : EdgeSamples) :
    List (Tap × UInt8) :=
  vp8Filter
    (vp8FilterMask filter.simple.interiorLimit filter.simple.subblockLimit
      samples)
    (vp8Hevmask filter.hevThreshold samples) samples

end NormalLoopFilter

/-- Whether an edge has its samples on the left and the right of it, or above
and below it. -/
inductive Direction
  | vertical | horizontal
  deriving DecidableEq, Repr

namespace Direction

/-- How far it is from one sample across the edge to the next. -/
def stride (width : Nat) : Direction → Nat
  | .vertical => 1
  | .horizontal => width

/-- The place of the first sample after an edge, in columns and rows. -/
def place (direction : Direction) (edge along : Nat) : Nat × Nat :=
  match direction with
  | .vertical => (edge, along)
  | .horizontal => (along, edge)

end Direction

section Filter

variable {width height displayWidth displayHeight : Nat} {Header : Type}

def TwoDStorage.samplesAcross (plane : TwoDStorage width height)
    (stride central : Nat) : Except Failure EdgeSamples := do
  let samples ← Tap.all.mapM fun tap => do
    let pointer ← tap.pointer central stride
    Storage.read TwoDStorage.outside plane.storage pointer
  return fun tap => samples.getD tap.index 0

def TwoDStorage.filterAcross (filter : EdgeSamples → List (Tap × UInt8))
    (stride central : Nat) (plane : TwoDStorage width height) :
    Except Failure (TwoDStorage width height) := do
  let samples ← plane.samplesAcross stride central
  (filter samples).foldlM (fun plane (tap, value) => do
    let pointer ← tap.pointer central stride
    plane.write pointer [value]) plane

/-- One turn of the loop along an edge, at a place in the block. -/
def RasterBlock.filterTurn (block : RasterBlock) (direction : Direction)
    (filter : EdgeSamples → List (Tap × UInt8)) (place : Nat × Nat) :
    VP8Raster displayWidth displayHeight →
      Except Failure (VP8Raster displayWidth displayHeight) :=
  block.update fun contents => do
    let central ← contents.pointer place.1 place.2
    contents.master.toTwoDStorage.filterAcross filter
      (direction.stride (block.component.extent displayWidth)) central

/-- Where the loops over the edges and along each of them come. -/
def edgePlaces (direction : Direction) (size : Nat) (edges : List Nat) :
    List (Nat × Nat) :=
  edges.flatMap fun edge =>
    (List.range size).map fun along => direction.place edge along

def RasterBlock.filterEdges (block : RasterBlock) (direction : Direction)
    (edges : List Nat) (filter : EdgeSamples → List (Tap × UInt8))
    (raster : VP8Raster displayWidth displayHeight) :
    Except Failure (VP8Raster displayWidth displayHeight) :=
  (edgePlaces direction block.size edges).foldlM
    (fun raster place => block.filterTurn direction filter place raster) raster

def subblockEdges (size : Nat) : List Nat := List.range' 4 ((size - 1) / 4) 4

def Component.all : List Component := [.Y, .U, .V]

namespace NormalLoopFilter

/-- `raster.Y`, `raster.U` and `raster.V` in turn. -/
def filterComponents (mb : Macroblock Header) (direction : Direction)
    (edges : Nat → List Nat) (filter : EdgeSamples → List (Tap × UInt8))
    (raster : VP8Raster displayWidth displayHeight) :
    Except Failure (VP8Raster displayWidth displayHeight) :=
  Component.all.foldlM (fun raster component =>
    (mb.block component).filterEdges direction
      (edges (mb.block component).size) filter raster) raster

variable (normal : NormalLoopFilter) (mb : Macroblock Header)

def filterMbVertical : VP8Raster displayWidth displayHeight →
    Except Failure (VP8Raster displayWidth displayHeight) :=
  filterComponents mb .vertical (fun _ => [0]) normal.macroblockEdge

def filterMbHorizontal : VP8Raster displayWidth displayHeight →
    Except Failure (VP8Raster displayWidth displayHeight) :=
  filterComponents mb .horizontal (fun _ => [0]) normal.macroblockEdge

def filterSbVertical : VP8Raster displayWidth displayHeight →
    Except Failure (VP8Raster displayWidth displayHeight) :=
  filterComponents mb .vertical subblockEdges normal.subblockEdge

def filterSbHorizontal : VP8Raster displayWidth displayHeight →
    Except Failure (VP8Raster displayWidth displayHeight) :=
  filterComponents mb .horizontal subblockEdges normal.subblockEdge

def doneIf (condition : Bool)
    (operation : VP8Raster displayWidth displayHeight →
      Except Failure (VP8Raster displayWidth displayHeight))
    (raster : VP8Raster displayWidth displayHeight) :
    Except Failure (VP8Raster displayWidth displayHeight) :=
  if condition then operation raster else .ok raster

/-- `filter( raster, skip_subblock_edges )` -/
def filter (skipSubblockEdges : Bool)
    (raster : VP8Raster displayWidth displayHeight) :
    Except Failure (VP8Raster displayWidth displayHeight) := do
  let raster ← doneIf (0 < mb.column) (normal.filterMbVertical mb) raster
  let raster ← doneIf (!skipSubblockEdges) (normal.filterSbVertical mb) raster
  let raster ← doneIf (0 < mb.row) (normal.filterMbHorizontal mb) raster
  doneIf (!skipSubblockEdges) (normal.filterSbHorizontal mb) raster

end NormalLoopFilter

variable {FrameHeader MacroblockHeader : Type}
variable [LoopFiltered FrameHeader MacroblockHeader]

/-- `loopfilter` of a macroblock. -/
def Macroblock.filterIn (FrameHeader : Type)
    [LoopFiltered FrameHeader MacroblockHeader]
    (filterAdjustments : Option FilterAdjustments)
    (loopfilter : FilterParameters) (mb : Macroblock MacroblockHeader)
    (raster : VP8Raster displayWidth displayHeight) :
    Except Failure (VP8Raster displayWidth displayHeight) := do
  let inUse ← mb.filterInUse FrameHeader filterAdjustments loopfilter
  match inUse with
  | none => return raster
  | some (filter, skipSubblockEdges) =>
      filter.filter mb skipSubblockEdges raster

/-- `loopfilter` of a frame. -/
def Frame.filterIn (segmentation : Option (Segmentation width height))
    (filterAdjustments : Option FilterAdjustments)
    (frame : Frame FrameHeader MacroblockHeader)
    (raster : VP8Raster displayWidth displayHeight) :
    Except Failure (VP8Raster displayWidth displayHeight) :=
  if LoopFiltered.loopFilterLevel frame.header ≠ 0 then
    frame.macroblocks.foldlM (fun raster mb => do
      let parameters ← frame.parametersFor segmentation mb
      mb.filterIn FrameHeader filterAdjustments parameters raster) raster
  else
    .ok raster

end Filter

end Salsify.Codec
