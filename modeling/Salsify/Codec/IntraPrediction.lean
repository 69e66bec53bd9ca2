import Salsify.Codec.Reconstruction
import Salsify.Codec.VP8Raster

namespace Salsify.Codec

open Salsify.Net (Failure)
open Salsify.Encoder (clamp255)
open Fallible (ok_bind bind_eq_ok mapM_eq_ok SameValue)

/-! Intra prediction of a block of `decoder/prediction.cc` from the samples
around it. -/

/-- The samples around a block, of which `above[ -1 ]` is the first one of
`above`. -/
structure Predictors where
  left : List UInt8
  above : List UInt8
  deriving DecidableEq

namespace Predictors

def leftAt (predictors : Predictors) (i : Nat) : UInt8 :=
  predictors.left.getD i 0

def aboveAt (predictors : Predictors) (i : Int) : UInt8 :=
  predictors.above.getD (i + 1).toNat 0

def east (predictors : Predictors) (i : Nat) : UInt8 :=
  if i ≤ 3 then predictors.leftAt (3 - i) else predictors.aboveAt (i - 5)

end Predictors

def row127 : UInt8 := 127
def col129 : UInt8 := 129

/-- `memcpy` from `&at( column, row )` -/
def RasterPlane.readRow {width height : Nat} (plane : RasterPlane width height)
    (column row count : Nat) : Except Failure (List UInt8) := do
  let pointer ← plane.pointer column row
  Storage.readRun TwoDStorage.outside plane.storage pointer count

namespace RasterBlock

variable {width height : Nat}

def leftPredictor (block : RasterBlock) (plane : RasterPlane width height) :
    Except Failure (List UInt8) :=
  if 0 < block.column then
    (List.range block.size).mapM fun i =>
      plane.sample (block.left - 1) (block.top + i)
  else
    return List.replicate block.size col129

def abovePredictor (block : RasterBlock) (plane : RasterPlane width height) :
    Except Failure (List UInt8) :=
  if 0 < block.row then plane.readRow block.left (block.top - 1) block.size
  else return List.replicate block.size row127

def aboveLeftPredictor (block : RasterBlock)
    (plane : RasterPlane width height) : Except Failure UInt8 :=
  if 0 < block.column ∧ 0 < block.row then
    plane.sample (block.left - 1) (block.top - 1)
  else if 0 < block.row then return col129
  else return row127

def rowAboveMacroblock (block : RasterBlock) : Nat :=
  block.size * (block.row / 4 * 4) - 1

def aboveRightPredictor (block : RasterBlock)
    (plane : RasterPlane width height) : Except Failure (List UInt8) :=
  let right := block.size * (block.column + 1)
  if block.row = 0 then
    return List.replicate block.size row127
  else if width ≤ right then
    if 4 ≤ block.row then do
      let sample ← plane.sample (right - 1) block.rowAboveMacroblock
      return List.replicate block.size sample
    else
      return List.replicate block.size row127
  else if block.column % 4 = 3 ∧ block.row % 4 ≠ 0 then
    if 4 ≤ block.row then
      plane.readRow right block.rowAboveMacroblock block.size
    else
      return List.replicate block.size row127
  else
    plane.readRow right (block.top - 1) block.size

def predictors (block : RasterBlock) (plane : RasterPlane width height) :
    Except Failure Predictors := do
  let left ← block.leftPredictor plane
  let above ← block.abovePredictor plane
  let aboveLeft ← block.aboveLeftPredictor plane
  if block.size ≠ 4 then
    return { left, above := aboveLeft :: above }
  else do
    let aboveRight ← block.aboveRightPredictor plane
    return { left, above := aboveLeft :: above ++ aboveRight }

end RasterBlock

/-- Values for columns and rows of a block, in the order of assignment. -/
abbrev Assignments := List ((Nat × Nat) × UInt8)

namespace Assignments

def all (value : UInt8) (places : List (Nat × Nat)) : Assignments :=
  places.map fun place => (place, value)

def fill (size : Nat) (value : UInt8) : Assignments :=
  all value (Grid.places size size)

def row (size row : Nat) (value : UInt8) : Assignments :=
  all value ((List.range size).map fun column => (column, row))

def column (size column : Nat) (value : UInt8) : Assignments :=
  all value ((List.range size).map fun row => (column, row))

end Assignments

open Assignments

namespace Predictors

def trueMotionPredict (size : Nat) (predictors : Predictors) : Assignments :=
  (Grid.places size size).map fun place => (place,
    clamp255 ((predictors.leftAt place.2).toNat +
      (predictors.aboveAt place.1).toNat - (predictors.aboveAt (-1)).toNat))

def horizontalPredict (size : Nat) (predictors : Predictors) : Assignments :=
  (List.range size).flatMap fun row =>
    Assignments.row size row (predictors.leftAt row)

def verticalPredict (size : Nat) (predictors : Predictors) : Assignments :=
  (List.range size).flatMap fun column =>
    Assignments.column size column (predictors.aboveAt column)

def log2size (size : Nat) : Nat :=
  if size = 4 then 2 else if size = 8 then 3 else if size = 16 then 4 else 0

def aboveSum (size : Nat) (predictors : Predictors) : Nat :=
  ((List.range size).map fun i => (predictors.aboveAt i).toNat).sum

def leftSum (size : Nat) (predictors : Predictors) : Nat :=
  ((List.range size).map fun i => (predictors.leftAt i).toNat).sum

def dcPredictSimple (size : Nat) (predictors : Predictors) : Assignments :=
  fill size (UInt8.ofNat ((predictors.aboveSum size + predictors.leftSum size +
    (1 <<< log2size size)) >>> (log2size size + 1)))

def dcPredict (block : RasterBlock) (predictors : Predictors) : Assignments :=
  let size := block.size
  if block.column ≠ 0 ∧ block.row ≠ 0 then predictors.dcPredictSimple size
  else
    let value : UInt8 :=
      if 0 < block.row then
        UInt8.ofNat ((predictors.aboveSum size + (1 <<< (log2size size - 1)))
          >>> log2size size)
      else if 0 < block.column then
        UInt8.ofNat ((predictors.leftSum size + (1 <<< (log2size size - 1)))
          >>> log2size size)
      else 128
    fill size value

def avg3 (x y z : UInt8) : UInt8 :=
  UInt8.ofNat ((x.toNat + 2 * y.toNat + z.toNat + 2) >>> 2)

def avg2 (x y : UInt8) : UInt8 :=
  UInt8.ofNat ((x.toNat + y.toNat + 1) >>> 1)

def verticalSmoothedPredict (predictors : Predictors) : Assignments :=
  let above := predictors.aboveAt
  Assignments.column 4 0 (avg3 (above (-1)) (above 0) (above 1)) ++
  Assignments.column 4 1 (avg3 (above 0) (above 1) (above 2)) ++
  Assignments.column 4 2 (avg3 (above 1) (above 2) (above 3)) ++
  Assignments.column 4 3 (avg3 (above 2) (above 3) (above 4))

def horizontalSmoothedPredict (predictors : Predictors) : Assignments :=
  let left := predictors.leftAt
  Assignments.row 4 0 (avg3 (predictors.aboveAt (-1)) (left 0) (left 1)) ++
  Assignments.row 4 1 (avg3 (left 0) (left 1) (left 2)) ++
  Assignments.row 4 2 (avg3 (left 1) (left 2) (left 3)) ++
  Assignments.row 4 3 (avg3 (left 2) (left 3) (left 3))

def leftDownPredict (predictors : Predictors) : Assignments :=
  let above := predictors.aboveAt
  all (avg3 (above 0) (above 1) (above 2)) [(0, 0)] ++
  all (avg3 (above 1) (above 2) (above 3)) [(1, 0), (0, 1)] ++
  all (avg3 (above 2) (above 3) (above 4)) [(2, 0), (1, 1), (0, 2)] ++
  all (avg3 (above 3) (above 4) (above 5)) [(3, 0), (2, 1), (1, 2), (0, 3)] ++
  all (avg3 (above 4) (above 5) (above 6)) [(3, 1), (2, 2), (1, 3)] ++
  all (avg3 (above 5) (above 6) (above 7)) [(3, 2), (2, 3)] ++
  all (avg3 (above 6) (above 7) (above 7)) [(3, 3)]

def rightDownPredict (predictors : Predictors) : Assignments :=
  let east := predictors.east
  all (avg3 (east 0) (east 1) (east 2)) [(0, 3)] ++
  all (avg3 (east 1) (east 2) (east 3)) [(1, 3), (0, 2)] ++
  all (avg3 (east 2) (east 3) (east 4)) [(2, 3), (1, 2), (0, 1)] ++
  all (avg3 (east 3) (east 4) (east 5)) [(3, 3), (2, 2), (1, 1), (0, 0)] ++
  all (avg3 (east 4) (east 5) (east 6)) [(3, 2), (2, 1), (1, 0)] ++
  all (avg3 (east 5) (east 6) (east 7)) [(3, 1), (2, 0)] ++
  all (avg3 (east 6) (east 7) (east 8)) [(3, 0)]

def verticalRightPredict (predictors : Predictors) : Assignments :=
  let east := predictors.east
  all (avg3 (east 1) (east 2) (east 3)) [(0, 3)] ++
  all (avg3 (east 2) (east 3) (east 4)) [(0, 2)] ++
  all (avg3 (east 3) (east 4) (east 5)) [(1, 3), (0, 1)] ++
  all (avg2 (east 4) (east 5)) [(1, 2), (0, 0)] ++
  all (avg3 (east 4) (east 5) (east 6)) [(2, 3), (1, 1)] ++
  all (avg2 (east 5) (east 6)) [(2, 2), (1, 0)] ++
  all (avg3 (east 5) (east 6) (east 7)) [(3, 3), (2, 1)] ++
  all (avg2 (east 6) (east 7)) [(3, 2), (2, 0)] ++
  all (avg3 (east 6) (east 7) (east 8)) [(3, 1)] ++
  all (avg2 (east 7) (east 8)) [(3, 0)]

def verticalLeftPredict (predictors : Predictors) : Assignments :=
  let above := predictors.aboveAt
  all (avg2 (above 0) (above 1)) [(0, 0)] ++
  all (avg3 (above 0) (above 1) (above 2)) [(0, 1)] ++
  all (avg2 (above 1) (above 2)) [(0, 2), (1, 0)] ++
  all (avg3 (above 1) (above 2) (above 3)) [(1, 1), (0, 3)] ++
  all (avg2 (above 2) (above 3)) [(1, 2), (2, 0)] ++
  all (avg3 (above 2) (above 3) (above 4)) [(1, 3), (2, 1)] ++
  all (avg2 (above 3) (above 4)) [(2, 2), (3, 0)] ++
  all (avg3 (above 3) (above 4) (above 5)) [(2, 3), (3, 1)] ++
  all (avg3 (above 4) (above 5) (above 6)) [(3, 2)] ++
  all (avg3 (above 5) (above 6) (above 7)) [(3, 3)]

def horizontalDownPredict (predictors : Predictors) : Assignments :=
  let east := predictors.east
  all (avg2 (east 0) (east 1)) [(0, 3)] ++
  all (avg3 (east 0) (east 1) (east 2)) [(1, 3)] ++
  all (avg2 (east 1) (east 2)) [(0, 2), (2, 3)] ++
  all (avg3 (east 1) (east 2) (east 3)) [(1, 2), (3, 3)] ++
  all (avg2 (east 2) (east 3)) [(2, 2), (0, 1)] ++
  all (avg3 (east 2) (east 3) (east 4)) [(3, 2), (1, 1)] ++
  all (avg2 (east 3) (east 4)) [(2, 1), (0, 0)] ++
  all (avg3 (east 3) (east 4) (east 5)) [(3, 1), (1, 0)] ++
  all (avg3 (east 4) (east 5) (east 6)) [(2, 0)] ++
  all (avg3 (east 5) (east 6) (east 7)) [(3, 0)]

def horizontalUpPredict (predictors : Predictors) : Assignments :=
  let left := predictors.leftAt
  all (avg2 (left 0) (left 1)) [(0, 0)] ++
  all (avg3 (left 0) (left 1) (left 2)) [(1, 0)] ++
  all (avg2 (left 1) (left 2)) [(2, 0), (0, 1)] ++
  all (avg3 (left 1) (left 2) (left 3)) [(3, 0), (1, 1)] ++
  all (avg2 (left 2) (left 3)) [(2, 1), (0, 2)] ++
  all (avg3 (left 2) (left 3) (left 3)) [(3, 1), (1, 2)] ++
  all (left 3) [(2, 2), (3, 2), (0, 3), (1, 3), (2, 3), (3, 3)]

end Predictors

/-- `intra_predict` of a block of 8 or 16 samples a side. -/
def MbMode.predict (mode : MbMode) (block : RasterBlock)
    (predictors : Predictors) : Except Failure Assignments :=
  match mode with
  | .dcPred => .ok (predictors.dcPredict block)
  | .vPred => .ok (predictors.verticalPredict block.size)
  | .hPred => .ok (predictors.horizontalPredict block.size)
  | .tmPred => .ok (predictors.trueMotionPredict block.size)
  | _ => .error .logicError

/-- `intra_predict` of a block of 4 samples a side. -/
def BMode.predict (mode : BMode) (predictors : Predictors) :
    Except Failure Assignments :=
  match mode with
  | .bDcPred => .ok (predictors.dcPredictSimple 4)
  | .bTmPred => .ok (predictors.trueMotionPredict 4)
  | .bVePred => .ok predictors.verticalSmoothedPredict
  | .bHePred => .ok predictors.horizontalSmoothedPredict
  | .bLdPred => .ok predictors.leftDownPredict
  | .bRdPred => .ok predictors.rightDownPredict
  | .bVrPred => .ok predictors.verticalRightPredict
  | .bVlPred => .ok predictors.verticalLeftPredict
  | .bHdPred => .ok predictors.horizontalDownPredict
  | .bHuPred => .ok predictors.horizontalUpPredict
  | _ => .error .logicError

section Blocks

variable {width height displayWidth displayHeight : Nat}

def TwoDSubRange.assignAll {size : Nat} (output : TwoDSubRange size width height)
    (assignments : Assignments) :
    Except Failure (TwoDStorage width height) :=
  assignments.foldlM (fun plane (place, value) => do
    let pointer ← output.pointer place.1 place.2
    plane.write pointer [value]) output.master.toTwoDStorage

/-- `intra_predict( mb_mode )`, where `predict` is that of the mode. -/
def RasterBlock.intraPredict (block : RasterBlock)
    (predict : Predictors → Except Failure Assignments) :
    VP8Raster displayWidth displayHeight →
      Except Failure (VP8Raster displayWidth displayHeight) :=
  block.update fun contents => do
    let predictors ← block.predictors contents.master
    let assignments ← predict predictors
    contents.assignAll assignments

theorem RasterPlane.readRow_eq (plane : RasterPlane width height)
    {column row count : Nat} (hpos : 0 < count) (hcolumn : column + count ≤ width)
    (hrow : row < height) :
    plane.readRow column row count =
      .ok ((List.range count).map fun i => plane.value (column + i) row) := by
  have hlast : row * width + (column + count - 1) < width * height :=
    Grid.index_lt (by omega) hrow
  rw [readRow, plane.pointer_eq (by omega) hrow, ok_bind]
  refine Storage.readRun_eq_ok ?_ fun i hi => ?_
  · rw [plane.length_eq]
    omega
  · rw [Nat.add_assoc]
    exact plane.getElem?_storage (by omega) hrow

namespace RasterBlock

structure PredictedFrom (displayWidth : Nat) (block : RasterBlock)
    (known : Set SamplePlace) : Prop where
  left : 0 < block.column → ∀ i < block.size,
    (block.component, block.left - 1, block.top + i) ∈ known
  above : 0 < block.row → ∀ i < block.size,
    (block.component, block.left + i, block.top - 1) ∈ known
  aboveLeft : 0 < block.column → 0 < block.row →
    (block.component, block.left - 1, block.top - 1) ∈ known
  rowAbove : block.size = 4 → 4 ≤ block.row →
    ∀ column < block.component.extent displayWidth,
      (block.component, column, block.rowAboveMacroblock) ∈ known
  aboveRight : block.size = 4 → block.row % 4 ≠ 0 → block.column % 4 ≠ 3 →
    ∀ i < 4, (block.component, block.left + 4 + i, block.top - 1) ∈ known

section Predictors

variable {block : RasterBlock} {known : Set SamplePlace}
  {one other : VP8Raster displayWidth displayHeight}

theorem sameValue_sample (hagree : AgreeOn VP8Raster.sample? known one other)
    {column row : Nat} (hknown : (block.component, column, row) ∈ known)
    (hcolumn : column < block.component.extent displayWidth)
    (hrow : row < block.component.extent displayHeight) :
    SameValue ((one.plane block.component).sample column row)
      ((other.plane block.component).sample column row) := by
  refine ⟨_, RasterPlane.sample_eq _ hcolumn hrow, ?_⟩
  rw [VP8Raster.value_eq_of_agree hagree hknown hcolumn hrow]
  exact RasterPlane.sample_eq _ hcolumn hrow

theorem sameValue_readRow (hagree : AgreeOn VP8Raster.sample? known one other)
    {column row : Nat} (hpos : 0 < block.size)
    (hknown : ∀ i < block.size, (block.component, column + i, row) ∈ known)
    (hcolumn : column + block.size ≤ block.component.extent displayWidth)
    (hrow : row < block.component.extent displayHeight) :
    SameValue ((one.plane block.component).readRow column row block.size)
      ((other.plane block.component).readRow column row block.size) := by
  refine ⟨_, RasterPlane.readRow_eq _ hpos hcolumn hrow, ?_⟩
  refine (RasterPlane.readRow_eq _ hpos hcolumn hrow).trans
    (congrArg Except.ok (List.map_congr_left fun i hi => ?_))
  have hlt := List.mem_range.mp hi
  exact (VP8Raster.value_eq_of_agree hagree (hknown i hlt) (by omega)
    hrow).symm

variable (hfits : block.Fits displayWidth displayHeight)
  (hknown : block.PredictedFrom displayWidth known)
  (hagree : AgreeOn VP8Raster.sample? known one other)

include hfits hknown hagree

theorem sameValue_leftPredictor :
    SameValue (block.leftPredictor (one.plane block.component))
      (block.leftPredictor (other.plane block.component)) := by
  have hcolumns := hfits.column_le
  have hrows := hfits.row_le
  unfold leftPredictor
  split
  · next hcolumn =>
      refine .mapM fun i hi => ?_
      have hlt := List.mem_range.mp hi
      exact sameValue_sample hagree (hknown.left hcolumn i hlt) (by omega)
        (by omega)
  · exact .of_return _

theorem sameValue_abovePredictor (hsize : 0 < block.size) :
    SameValue (block.abovePredictor (one.plane block.component))
      (block.abovePredictor (other.plane block.component)) := by
  have hcolumns := hfits.column_le
  have hrows := hfits.row_le
  unfold abovePredictor
  split
  · next hrow =>
      exact sameValue_readRow hagree hsize (hknown.above hrow) hcolumns
        (by omega)
  · exact .of_return _

theorem sameValue_aboveLeftPredictor (hsize : 0 < block.size) :
    SameValue (block.aboveLeftPredictor (one.plane block.component))
      (block.aboveLeftPredictor (other.plane block.component)) := by
  have hcolumns := hfits.column_le
  have hrows := hfits.row_le
  unfold aboveLeftPredictor
  split
  · next hboth =>
      exact sameValue_sample hagree (hknown.aboveLeft hboth.1 hboth.2)
        (by omega) (by omega)
  · split
    · exact .of_return _
    · exact .of_return _

theorem sameValue_aboveRightPredictor (hsize : block.size = 4) 
    (hwhole : block.component.extent displayWidth % 4 = 0) :
    SameValue (block.aboveRightPredictor (one.plane block.component))
      (block.aboveRightPredictor (other.plane block.component)) := by
  have hcolumns := hfits.column_le
  have hrows := hfits.row_le
  have htop : block.top = 4 * block.row := by rw [top, hsize]
  have hleft : block.left = 4 * block.column := by rw [left, hsize]
  have habove : block.rowAboveMacroblock = 4 * (block.row / 4 * 4) - 1 := by
    rw [rowAboveMacroblock, hsize]
  have hright : block.size * (block.column + 1) = 4 * (block.column + 1) := by
    rw [hsize]
  have hrowAbove := hknown.rowAbove hsize
  unfold aboveRightPredictor
  dsimp only
  split
  · exact .of_return _
  split
  · split
    · refine (sameValue_sample hagree (hrowAbove ‹_› _ ?_) ?_ ?_).bind
        fun value => .of_return _
      all_goals omega
    · exact .of_return _
  split
  · split
    · refine sameValue_readRow hagree (by omega) (fun i hi =>
        hrowAbove ‹_› _ ?_) ?_ ?_
      all_goals omega
    · exact .of_return _
  · refine sameValue_readRow hagree (by omega) (fun i hi => ?_) ?_ ?_
    · by_cases hmacroblock : block.row % 4 = 0
      · have hrow : block.top - 1 = block.rowAboveMacroblock := by omega
        rw [hrow]
        exact hrowAbove (by omega) _ (by omega)
      · have hcolumn : block.size * (block.column + 1) + i =
            block.left + 4 + i := by omega
        rw [hcolumn]
        exact hknown.aboveRight hsize hmacroblock (by omega) i (by omega)
    all_goals omega

theorem sameValue_predictors (hsize : 0 < block.size)
    (hwhole : block.component.extent displayWidth % 4 = 0) :
    SameValue (block.predictors (one.plane block.component))
      (block.predictors (other.plane block.component)) := by
  unfold predictors
  apply (sameValue_leftPredictor hfits hknown hagree).bind
  intro left
  apply (sameValue_abovePredictor hfits hknown hagree hsize).bind
  intro above
  apply (sameValue_aboveLeftPredictor hfits hknown hagree hsize).bind
  intro aboveLeft
  split
  · exact .of_return _
  · next hfour =>
      apply (sameValue_aboveRightPredictor hfits hknown hagree
        (not_not.mp hfour) hwhole).bind
      intro aboveRight
      exact .of_return _

end Predictors

end RasterBlock

namespace Assignments

def Whole (size : Nat) (assignments : Assignments) : Prop :=
  (assignments.map Prod.fst).Perm (Grid.places size size)

def valueAt (assignments : Assignments) (column row : Nat) : UInt8 :=
  ((assignments.find? fun assignment =>
    assignment.1 = (column, row)).map Prod.snd).getD 0

theorem places_all (value : UInt8) (places : List (Nat × Nat)) :
    (all value places).map Prod.fst = places := by
  rw [all, List.map_map]
  exact List.map_id places

theorem whole_of_eq {size : Nat} {assignments : Assignments}
    (h : assignments.map Prod.fst = Grid.places size size) :
    assignments.Whole size := by
  rw [Whole, h]

theorem whole_of_isPerm {size : Nat} {assignments : Assignments}
    (h : (assignments.map Prod.fst).isPerm (Grid.places size size) = true) :
    assignments.Whole size :=
  List.isPerm_iff.mp h

theorem Whole.nodup {size : Nat} {assignments : Assignments}
    (h : assignments.Whole size) : (assignments.map Prod.fst).Nodup :=
  h.nodup_iff.mpr Grid.places_nodup

theorem valueAt_of_mem {assignments : Assignments}
    (hnodup : (assignments.map Prod.fst).Nodup) {column row : Nat}
    {value : UInt8} (hmem : ((column, row), value) ∈ assignments) :
    assignments.valueAt column row = value := by
  unfold valueAt
  cases hfound : assignments.find? fun assignment =>
      assignment.1 = (column, row) with
  | none =>
      have hnone := List.find?_eq_none.mp hfound _ hmem
      simp at hnone
  | some found =>
      have hplace : found.1 = (column, row) := by
        simpa using List.find?_some hfound
      have hsame := List.inj_on_of_nodup_map hnodup
        (List.mem_of_find?_eq_some hfound) hmem hplace
      rw [hsame]
      rfl

end Assignments

namespace Predictors

variable (predictors : Predictors)

theorem whole_fill (size : Nat) (value : UInt8) :
    (Assignments.fill size value).Whole size :=
  whole_of_eq (places_all value _)

theorem whole_trueMotionPredict (size : Nat) :
    (predictors.trueMotionPredict size).Whole size := by
  refine whole_of_eq ?_
  rw [trueMotionPredict, List.map_map]
  exact List.map_id _

theorem whole_horizontalPredict (size : Nat) :
    (predictors.horizontalPredict size).Whole size := by
  refine whole_of_eq ?_
  rw [horizontalPredict, List.map_flatMap]
  simp only [Assignments.row, places_all, Grid.places]

theorem whole_verticalPredict (size : Nat) :
    (predictors.verticalPredict size).Whole size := by
  have hplaces : (predictors.verticalPredict size).map Prod.fst =
      (Grid.places size size).map Prod.swap := by
    rw [verticalPredict, List.map_flatMap, Grid.places, List.map_flatMap]
    simp only [Assignments.column, places_all, List.map_map]
    rfl
  have hnodup : ((Grid.places size size).map Prod.swap).Nodup :=
    Grid.places_nodup.map Prod.swap_injective
  rw [Assignments.Whole, hplaces, List.perm_ext_iff_of_nodup hnodup
    Grid.places_nodup]
  rintro ⟨column, row⟩
  rw [List.mem_map_swap, Grid.mem_places, Grid.mem_places]
  exact and_comm

theorem whole_dcPredict (block : RasterBlock) :
    (predictors.dcPredict block).Whole block.size := by
  unfold dcPredict
  dsimp only
  split
  · exact whole_fill _ _
  · exact whole_fill _ _

end Predictors

theorem MbMode.predict_outcome (mode : MbMode) (block : RasterBlock)
    (predictors : Predictors) :
    Fallible.outcome (mode.predict block predictors) = mode.intraPredict := by
  cases mode <;> rfl

theorem MbMode.predict_whole {mode : MbMode} {block : RasterBlock}
    {predictors : Predictors} {assignments : Assignments}
    (h : mode.predict block predictors = .ok assignments) :
    assignments.Whole block.size := by
  unfold MbMode.predict at h
  split at h
  · cases h
    exact predictors.whole_dcPredict block
  · cases h
    exact predictors.whole_verticalPredict block.size
  · cases h
    exact predictors.whole_horizontalPredict block.size
  · cases h
    exact predictors.whole_trueMotionPredict block.size
  · cases h

theorem BMode.predict_outcome (mode : BMode) (predictors : Predictors) :
    Fallible.outcome (mode.predict predictors) = mode.intraPredict := by
  cases mode <;> rfl

theorem BMode.predict_whole {mode : BMode} {predictors : Predictors}
    {assignments : Assignments}
    (h : mode.predict predictors = .ok assignments) : assignments.Whole 4 := by
  unfold BMode.predict at h
  split at h
  · cases h
    exact Predictors.whole_fill _ _
  · cases h
    exact predictors.whole_trueMotionPredict 4
  all_goals cases h
  all_goals
    refine whole_of_isPerm ?_
    simp only [Predictors.verticalSmoothedPredict,
      Predictors.horizontalSmoothedPredict, Predictors.leftDownPredict,
      Predictors.rightDownPredict, Predictors.verticalRightPredict,
      Predictors.verticalLeftPredict, Predictors.horizontalDownPredict,
      Predictors.horizontalUpPredict, Assignments.column, Assignments.row,
      List.map_append, places_all]
    decide

theorem TwoDSubRange.assignAll_filled {size : Nat}
    (output : TwoDSubRange size width height) {assignments : Assignments}
    (hwhole : assignments.Whole size) :
    Fallible.Succeeds (output.assignAll assignments)
      (output.Filled assignments.valueAt) := by
  refine output.filled_of_foldlM Prod.fst
    (fun assignment _ => some assignment.2) hwhole ?_ ?_
  · rintro storage ⟨⟨column, row⟩, value⟩ hmem
    obtain ⟨hcolumn, hrow⟩ := Grid.mem_places.mp
      (hwhole.mem_iff.mp (List.mem_map_of_mem hmem))
    dsimp only at hcolumn hrow ⊢
    rw [output.pointer_eq hcolumn hrow, ok_bind]
    exact output.changes_write storage hcolumn hrow value rfl
  · rintro ⟨⟨column, row⟩, value⟩ hmem
    exact congrArg some (valueAt_of_mem hwhole.nodup hmem).symm

namespace RasterBlock

variable {block : RasterBlock} {known : Set SamplePlace}
  {predict : Predictors → Except Failure Assignments}

def predictedValue (block : RasterBlock)
    (predict : Predictors → Except Failure Assignments)
    (plane : RasterPlane width height) : Nat → Nat → UInt8 :=
  match block.predictors plane >>= predict with
  | .ok assignments => assignments.valueAt
  | .error _ => fun _ _ => 0

/-- A block can be predicted once what it is predicted from is known, and only
the choice of the mode can fail. -/
theorem intraPredict_footprint (hfits : block.Fits displayWidth displayHeight)
    (hsize : 0 < block.size)
    (hwhole : block.component.extent displayWidth % 4 = 0)
    (hknown : block.PredictedFrom displayWidth known)
    {outcome : Except Failure Unit}
    (houtcome : ∀ predictors, Fallible.outcome (predict predictors) = outcome)
    (hassigned : ∀ predictors assignments,
      predict predictors = .ok assignments → assignments.Whole block.size) :
    Reconstructs displayWidth displayHeight (block.intraPredict predict) outcome
      known block.places := by
  have hpredictors : ∀ raster : VP8Raster displayWidth displayHeight,
      ∃ predictors, block.predictors (raster.plane block.component) =
        .ok predictors := fun raster => by
    obtain ⟨predictors, h, -⟩ := sameValue_predictors hfits hknown
      (fun place _ => rfl : AgreeOn _ known raster raster) hsize hwhole
    exact ⟨predictors, h⟩
  cases outcome with
  | error failure =>
      refine (Footprint.failing failure).congr fun raster => ?_
      obtain ⟨predictors, hpredicted⟩ := hpredictors raster
      have hmode := Fallible.error_of_outcome_error (houtcome predictors)
      rw [intraPredict, update, VP8Raster.update, contents_eq hfits, ok_bind]
      dsimp only [range]
      rw [hpredicted, ok_bind, hmode]
      rfl
  | ok _ =>
      refine footprint (fun raster =>
        block.predictedValue predict (raster.plane block.component)) ?_ ?_
      · intro raster
        obtain ⟨predictors, hpredicted⟩ := hpredictors raster
        obtain ⟨assignments, hassignments⟩ :=
          Fallible.exists_of_outcome_ok (houtcome predictors)
        have hvalue : block.predictedValue predict
            (raster.plane block.component) = assignments.valueAt := by
          rw [predictedValue, hpredicted, ok_bind, hassignments]
        rw [hvalue]
        refine update_painted hfits ?_
        dsimp only [range]
        rw [hpredicted, ok_bind, hassignments, ok_bind]
        exact TwoDSubRange.assignAll_filled (block.range hfits raster)
          (hassigned predictors assignments hassignments)
      · intro one other hagree column row _ _
        have hsame := (sameValue_predictors hfits hknown hagree hsize hwhole).eq
        rw [predictedValue, predictedValue, hsame]

end RasterBlock

end Blocks

end Salsify.Codec
