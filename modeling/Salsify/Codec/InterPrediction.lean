import Salsify.Codec.TwoDStorage
import Salsify.Encoder.SafeRaster
import Salsify.Lib.Grid

namespace Salsify.Codec

open Salsify.Net (Failure)
open Salsify.Encoder (sixtapFilters sixtap fraction)
open Fallible (ok_bind bind_eq_ok mapM_eq_ok)

/-! Prediction of a block of `decoder/prediction.cc` from a reference, in its
two implementations. -/

structure TwoDSubRange (size width height : Nat) where
  master : RasterPlane width height
  column : Nat
  row : Nat
  column_le : column + size ≤ width
  row_le : row + size ≤ height

namespace TwoDSubRange

variable {size width height : Nat}

def stride (_ : TwoDSubRange size width height) : Nat := width

/-- `&at( column, row )` -/
def pointer (output : TwoDSubRange size width height) (column row : Nat) :
    Except Failure Nat := do
  Net.require (column < size && row < size)
    (.assertion "column < sub_width and row < sub_height")
  output.master.pointer (output.column + column) (output.row + row)

/-- `forall_ij` with an assignment. -/
def fill (output : TwoDSubRange size width height)
    (value : Nat → Nat → Except Failure UInt8) :
    Except Failure (TwoDStorage width height) :=
  (List.range size).foldlM (fun plane row =>
    (List.range size).foldlM (fun plane column => do
      let sample ← value column row
      let pointer ← output.pointer column row
      plane.write pointer [sample]) plane) output.master.toTwoDStorage

end TwoDSubRange

/-- An `int` where an `unsigned int` is expected. -/
def unsignedInt (value : Int) : Nat := (value % 2 ^ 32).toNat

def intermediateAt (intermediate : List (List UInt8)) (row column : Nat) :
    Except Failure UInt8 :=
  match intermediate[row]?.bind fun samples => samples[column]? with
  | some sample => .ok sample
  | none => .error (.assertion "index < size()")

def safeInterPredict {size width height : Nat} (mv : MotionVector)
    (reference : Int → Int → Except Failure UInt8)
    (sourceColumn sourceRow : Int)
    (output : TwoDSubRange size width height) :
    Except Failure (TwoDStorage width height) :=
  if fraction mv.x = 0 ∧ fraction mv.y = 0 then
    output.fill fun column row =>
      reference (sourceColumn + column) (sourceRow + row)
  else do
    let intermediate ← (List.range (size + 5)).mapM fun (row : Nat) =>
      (List.range size).mapM fun (column : Nat) => do
        let samples ← (List.range 6).mapM fun (tap : Nat) =>
          reference (sourceColumn + column + (tap - 2)) (sourceRow + row - 2)
        return sixtap (sixtapFilters (fraction mv.x)) samples
    output.fill fun column row => do
      let samples ← (List.range 6).mapM fun (tap : Nat) =>
        intermediateAt intermediate (row + tap) column
      return sixtap (sixtapFilters (fraction mv.y)) samples

/-- Row by row with `memcpy`, while pointers move on by the stride. -/
def copyRows {width height : Nat} (reference : List UInt8) (size stride : Nat) :
    (rows dest src : Nat) → TwoDStorage width height →
      Except Failure (TwoDStorage width height)
  | 0, _, _, plane => .ok plane
  | rows + 1, dest, src, plane => do
      let values ← Storage.readRun TwoDStorage.outside reference src size
      let plane ← plane.write dest values
      copyRows reference size stride rows (dest + stride) (src + stride) plane

def filterAt (storage : List UInt8) (filter : List Int) (step src : Nat) :
    Except Failure UInt8 := do
  let samples ← (List.range 6).mapM fun (tap : Nat) =>
    Storage.read TwoDStorage.outside storage (src + step * tap)
  return sixtap filter samples

/-- A row of either pass, in which the pointers move on by one. -/
def filterRow (storage : List UInt8) (filter : List Int) (step size src : Nat) :
    Except Failure (List UInt8) :=
  (List.range size).mapM fun (column : Nat) =>
    filterAt storage filter step (src + column)

def horizontalPass (reference : List UInt8) (filter : List Int)
    (size stride : Nat) : (rows src : Nat) → Except Failure (List UInt8)
  | 0, _ => .ok []
  | rows + 1, src => do
      let row ← filterRow reference filter 1 size src
      let rest ← horizontalPass reference filter size stride rows
        (src + size + (stride - size))
      return row ++ rest

def verticalPass {width height : Nat} (intermediate : List UInt8)
    (filter : List Int) (size stride : Nat) :
    (rows dest src : Nat) → TwoDStorage width height →
      Except Failure (TwoDStorage width height)
  | 0, _, _, plane => .ok plane
  | rows + 1, dest, src, plane => do
      let values ← filterRow intermediate filter size size src
      let plane ← plane.write dest values
      verticalPass intermediate filter size stride rows
        (dest + size + (stride - size)) (src + size) plane

def unsafeInterPredict {size width height outputWidth outputHeight : Nat}
    (mv : MotionVector) (reference : TwoDStorage width height)
    (sourceColumn sourceRow : Int)
    (output : TwoDSubRange size outputWidth outputHeight) :
    Except Failure (TwoDStorage outputWidth outputHeight) := do
  Net.require (output.stride = width)
    (.assertion "output.stride() == reference.width()")
  let stride := output.stride
  if fraction mv.x = 0 ∧ fraction mv.y = 0 then do
    let dest ← output.pointer 0 0
    let src ← reference.pointer (unsignedInt sourceColumn) (unsignedInt sourceRow)
    copyRows reference.storage size stride size dest src output.master.toTwoDStorage
  else do
    let src ← reference.pointer (unsignedInt (sourceColumn - 2))
      (unsignedInt (sourceRow - 2))
    let intermediate ← horizontalPass reference.storage
      (sixtapFilters (fraction mv.x)) size stride (size + 5) src
    let dest ← output.pointer 0 0
    verticalPass intermediate (sixtapFilters (fraction mv.y)) size stride size
      dest 0 output.master.toTwoDStorage

section

variable {size width height outputWidth outputHeight : Nat}

def NearEdge (size width height : Nat) (sourceColumn sourceRow : Int) : Prop :=
  sourceColumn - 2 < 0 ∨ sourceColumn + size + 3 > width ∨
    sourceRow - 2 < 0 ∨ sourceRow + size + 3 > height

instance (sourceColumn sourceRow : Int) :
    Decidable (NearEdge size width height sourceColumn sourceRow) :=
  inferInstanceAs (Decidable (_ ∨ _))

/-- `source_column` or `source_row`, of a block at a place. -/
def sourcePosition (size place : Nat) (component : Int) : Int :=
  place * size + component / 8

/-- `VP8Raster::Block::inter_predict` of the block at a column and row. -/
def interPredict (column row : Nat) (mv : MotionVector)
    (reference : TwoDStorage width height)
    (output : TwoDSubRange size outputWidth outputHeight) :
    Except Failure (TwoDStorage outputWidth outputHeight) :=
  let sourceColumn := sourcePosition size column mv.x
  let sourceRow := sourcePosition size row mv.y
  if NearEdge size width height sourceColumn sourceRow then
    safeInterPredict mv (edgeExtended reference) sourceColumn sourceRow output
  else
    unsafeInterPredict mv reference sourceColumn sourceRow output

end

section Spec

variable {size width height : Nat}

/-- The pass over a row of a window, which begins two columns to the left of
the block and two rows above it. -/
def filteredRow (mx : Fin 8) (window : Nat → Nat → UInt8) (column row : Nat) :
    UInt8 :=
  sixtap (sixtapFilters mx)
    ((List.range 6).map fun tap => window (column + tap) row)

/-- The prediction, as a function of the samples of the window. -/
def predicted (mx my : Fin 8) (window : Nat → Nat → UInt8) (column row : Nat) :
    UInt8 :=
  if mx = 0 ∧ my = 0 then window (column + 2) (row + 2)
  else sixtap (sixtapFilters my)
    ((List.range 6).map fun tap => filteredRow mx window column (row + tap))

def blockRows (size rows : Nat) (value : Nat → Nat → UInt8) :
    List (List UInt8) :=
  (List.range rows).map fun row =>
    (List.range size).map fun column => value column row

theorem blockRows_succ (size rows : Nat) (value : Nat → Nat → UInt8) :
    blockRows size (rows + 1) value =
      ((List.range size).map fun column => value column 0) ::
        blockRows size rows fun column row => value column (row + 1) := by
  unfold blockRows
  rw [List.range_succ_eq_map, List.map_cons, List.map_map]
  rfl

def TwoDSubRange.start (output : TwoDSubRange size width height) : Nat :=
  output.row * width + output.column

theorem TwoDSubRange.fits (output : TwoDSubRange size width height) {row : Nat}
    (hrow : row < size) :
    output.start + row * width + size ≤ output.master.storage.length := by
  have hcolumn := output.column_le
  have hheight : output.row + row + 1 ≤ height := by
    have hle := output.row_le
    omega
  have hle := Nat.mul_le_mul_right width hheight
  rw [Nat.succ_mul, Nat.add_mul] at hle
  rw [output.master.length_eq, TwoDSubRange.start, Nat.mul_comm width height]
  omega

theorem TwoDSubRange.pointer_eq (output : TwoDSubRange size width height)
    {column row : Nat} (hcolumn : column < size) (hrow : row < size) :
    output.pointer column row = .ok (output.start + row * width + column) := by
  have hcolumns := output.column_le
  have hrows := output.row_le
  rw [TwoDSubRange.pointer, decide_eq_true hcolumn, decide_eq_true hrow,
    Bool.and_self, Net.require_true, ok_bind,
    output.master.pointer_eq (by omega) (by omega), TwoDSubRange.start,
    Nat.add_mul]
  congr 1
  omega

theorem TwoDSubRange.fill_eq (output : TwoDSubRange size width height)
    {value : Nat → Nat → Except Failure UInt8} {sample : Nat → Nat → UInt8}
    (hvalue : ∀ column row, column < size → row < size →
      value column row = .ok (sample column row)) :
    output.fill value = TwoDStorage.writeRows width
      (blockRows size size sample) output.start output.master.toTwoDStorage := by
  refine TwoDStorage.foldlM_writeRows _ fun plane row hrow => ?_
  refine TwoDStorage.foldlM_write plane ?_ fun plane column hcolumn => ?_
  · rw [plane.storage_length_eq output.master.toTwoDStorage]
    exact output.fits hrow
  · rw [hvalue column row hcolumn hrow, ok_bind,
      output.pointer_eq hcolumn hrow, ok_bind]

theorem TwoDSubRange.writeRows_succeeds
    (output : TwoDSubRange size width height) (sample : Nat → Nat → UInt8) :
    ∃ result, TwoDStorage.writeRows width (blockRows size size sample)
      output.start output.master.toTwoDStorage = .ok result := by
  refine TwoDStorage.writeRows_succeeds size ?_ _ fun row hrow => ?_
  · intro row hrow
    obtain ⟨i, -, rfl⟩ := List.mem_map.mp hrow
    rw [List.length_map, List.length_range]
  · rw [blockRows, List.length_map, List.length_range] at hrow
    exact output.fits hrow

end Spec

section Safe

variable {size width height : Nat} {mv : MotionVector}
  {reference : Int → Int → Except Failure UInt8} {sourceColumn sourceRow : Int}
  {window : Nat → Nat → UInt8}

theorem intermediateAt_blockRows {rows column row : Nat}
    (value : Nat → Nat → UInt8) (hcolumn : column < size) (hrow : row < rows) :
    intermediateAt (blockRows size rows value) row column =
      .ok (value column row) := by
  rw [intermediateAt, blockRows, List.getElem?_map, List.getElem?_range hrow]
  simp [hcolumn]

theorem safeInterPredict_eq
    (hwindow : ∀ column row : Nat, column < size + 5 → row < size + 5 →
      reference (sourceColumn - 2 + column) (sourceRow - 2 + row) =
        .ok (window column row))
    (output : TwoDSubRange size width height) :
    safeInterPredict mv reference sourceColumn sourceRow output =
      TwoDStorage.writeRows width
        (blockRows size size (predicted (fraction mv.x) (fraction mv.y) window))
        output.start output.master.toTwoDStorage := by
  unfold safeInterPredict
  split
  · next hwhole =>
      refine output.fill_eq fun column row hcolumn hrow => ?_
      rw [predicted, if_pos hwhole, ← hwindow (column + 2) (row + 2) (by omega)
        (by omega)]
      congr 1 <;> omega
  · next hfiltered =>
      have hrows : (List.range (size + 5)).mapM (fun (row : Nat) =>
          (List.range size).mapM fun (column : Nat) => do
            let samples ← (List.range 6).mapM fun (tap : Nat) =>
              reference (sourceColumn + column + (tap - 2)) (sourceRow + row - 2)
            return sixtap (sixtapFilters (fraction mv.x)) samples) =
          .ok (blockRows size (size + 5)
            (filteredRow (fraction mv.x) window)) := by
        refine mapM_eq_ok fun row hrow => mapM_eq_ok fun column hcolumn => ?_
        have hrow := List.mem_range.mp hrow
        have hcolumn := List.mem_range.mp hcolumn
        have hsamples : (List.range 6).mapM (fun (tap : Nat) =>
            reference (sourceColumn + column + (tap - 2))
              (sourceRow + row - 2)) =
            .ok ((List.range 6).map fun tap => window (column + tap) row) := by
          refine mapM_eq_ok fun tap htap => ?_
          have htap := List.mem_range.mp htap
          rw [← hwindow (column + tap) row (by omega) hrow]
          congr 1 <;> omega
        rw [hsamples, ok_bind]
        rfl
      rw [hrows, ok_bind]
      refine output.fill_eq fun column row hcolumn hrow => ?_
      have hsamples : (List.range 6).mapM (fun (tap : Nat) => intermediateAt
          (blockRows size (size + 5) (filteredRow (fraction mv.x) window))
          (row + tap) column) = .ok ((List.range 6).map fun tap =>
            filteredRow (fraction mv.x) window column (row + tap)) := by
        refine mapM_eq_ok fun tap htap => ?_
        have htap := List.mem_range.mp htap
        exact intermediateAt_blockRows _ hcolumn (by omega)
      rw [hsamples, ok_bind, predicted, if_neg hfiltered]
      rfl

end Safe

section Unsafe

variable {size stride : Nat}

theorem copyRows_eq {width height : Nat} {reference : List UInt8}
    {rows dest src : Nat} {value : Nat → Nat → UInt8}
    (plane : TwoDStorage width height)
    (hfits : ∀ row, row < rows →
      src + row * stride + size ≤ reference.length)
    (hvalue : ∀ column row, column < size → row < rows →
      reference[src + row * stride + column]? = some (value column row)) :
    copyRows reference size stride rows dest src plane =
      plane.writeRows stride (blockRows size rows value) dest := by
  induction rows generalizing dest src plane value with
  | zero => rfl
  | succ rows ih =>
      have hzero := hfits 0 (Nat.zero_lt_succ rows)
      have hfirst : Storage.readRun TwoDStorage.outside reference src size =
          .ok ((List.range size).map fun column => value column 0) := by
        refine Storage.readRun_eq_ok (by omega) fun column hcolumn => ?_
        have hread := hvalue column 0 hcolumn (Nat.zero_lt_succ rows)
        rwa [Nat.zero_mul, Nat.add_zero] at hread
      rw [copyRows, hfirst, ok_bind, blockRows_succ, TwoDStorage.writeRows]
      refine congrArg _ (funext fun next => ih next ?_ ?_)
      · intro row hrow
        have hsucc := hfits (row + 1) (Nat.succ_lt_succ hrow)
        rw [Nat.succ_mul] at hsucc
        omega
      · intro column row hcolumn hrow
        rw [← hvalue column (row + 1) hcolumn (Nat.succ_lt_succ hrow)]
        congr 1
        rw [Nat.succ_mul]
        omega

theorem filterRow_eq {storage : List UInt8} {filter : List Int}
    {step src : Nat} {value : Nat → Nat → UInt8}
    (hvalue : ∀ column tap, column < size → tap < 6 →
      storage[src + column + step * tap]? = some (value column tap)) :
    filterRow storage filter step size src =
      .ok ((List.range size).map fun column =>
        sixtap filter ((List.range 6).map (value column))) := by
  refine mapM_eq_ok fun column hcolumn => ?_
  have hsamples : (List.range 6).mapM (fun (tap : Nat) => Storage.read
      TwoDStorage.outside storage (src + column + step * tap)) =
      .ok ((List.range 6).map (value column)) :=
    mapM_eq_ok fun tap htap => Storage.read_eq_ok
      (hvalue column tap (List.mem_range.mp hcolumn) (List.mem_range.mp htap))
  rw [filterAt, hsamples, ok_bind]
  rfl

theorem horizontalPass_eq {reference : List UInt8} {mx : Fin 8}
    {rows src : Nat} {window : Nat → Nat → UInt8} (hstride : size ≤ stride)
    (hwindow : ∀ column row, column < size + 5 → row < rows →
      reference[src + row * stride + column]? = some (window column row)) :
    horizontalPass reference (sixtapFilters mx) size stride rows src =
      .ok (blockRows size rows (filteredRow mx window)).flatten := by
  induction rows generalizing src window with
  | zero => rfl
  | succ rows ih =>
      have hfirst : filterRow reference (sixtapFilters mx) 1 size src =
          .ok ((List.range size).map fun column =>
            filteredRow mx window column 0) := by
        refine filterRow_eq fun column tap hcolumn htap => ?_
        have hread := hwindow (column + tap) 0 (by omega) (Nat.zero_lt_succ rows)
        rw [Nat.one_mul]
        rwa [Nat.zero_mul, Nat.add_zero, ← Nat.add_assoc] at hread
      have hrest : horizontalPass reference (sixtapFilters mx) size stride rows
          (src + size + (stride - size)) = .ok (blockRows size rows
            (filteredRow mx fun column row => window column (row + 1))).flatten := by
        refine ih fun column row hcolumn hrow => ?_
        rw [← hwindow column (row + 1) hcolumn (Nat.succ_lt_succ hrow)]
        congr 1
        rw [Nat.succ_mul]
        omega
      rw [horizontalPass, hfirst, ok_bind, hrest, ok_bind, blockRows_succ]
      rfl

theorem verticalPass_eq {width height : Nat} {intermediate : List UInt8}
    {my : Fin 8} {rows dest src : Nat} {value : Nat → Nat → UInt8}
    (plane : TwoDStorage width height) (hstride : size ≤ stride)
    (hvalue : ∀ column row, column < size → row < rows + 5 →
      intermediate[src + row * size + column]? = some (value column row)) :
    verticalPass intermediate (sixtapFilters my) size stride rows dest src
        plane =
      plane.writeRows stride (blockRows size rows fun column row =>
        sixtap (sixtapFilters my)
          ((List.range 6).map fun tap => value column (row + tap))) dest := by
  induction rows generalizing dest src plane value with
  | zero => rfl
  | succ rows ih =>
      have hfirst : filterRow intermediate (sixtapFilters my) size size src =
          .ok ((List.range size).map fun column => sixtap (sixtapFilters my)
            ((List.range 6).map fun tap => value column (0 + tap))) := by
        refine filterRow_eq fun column tap hcolumn htap => ?_
        have hread := hvalue column (0 + tap) hcolumn (by omega)
        rw [← hread]
        congr 1
        rw [Nat.zero_add, Nat.mul_comm]
        omega
      rw [verticalPass, hfirst, ok_bind, blockRows_succ, TwoDStorage.writeRows]
      refine congrArg _ (funext fun next => ?_)
      have hdest : dest + size + (stride - size) = dest + stride := by omega
      have hread : ∀ column row, column < size → row < rows + 5 →
          intermediate[src + size + row * size + column]? =
            some (value column (row + 1)) := by
        intro column row hcolumn hrow
        rw [← hvalue column (row + 1) hcolumn (by omega)]
        congr 1
        rw [Nat.succ_mul]
        omega
      rw [hdest, ih next hread]
      simp only [Nat.succ_add]

end Unsafe

section Choice

variable {size width height outputWidth outputHeight : Nat}

def windowOf (reference : RasterPlane width height) (column row : Nat) :
    Nat → Nat → UInt8 :=
  fun windowColumn windowRow =>
    reference.value (column + windowColumn) (row + windowRow)

theorem windowOf_read (reference : RasterPlane width height) {column row : Nat}
    (hcolumn : column + size + 5 ≤ width) (hrow : row + size + 5 ≤ height)
    {windowColumn windowRow : Nat} (hwindowColumn : windowColumn < size + 5)
    (hwindowRow : windowRow < size + 5) :
    reference.storage[row * width + column + windowRow * width +
        windowColumn]? =
      some (windowOf reference column row windowColumn windowRow) := by
  have hindex : row * width + column + windowRow * width + windowColumn =
      (row + windowRow) * width + (column + windowColumn) := by
    rw [Nat.add_mul]
    omega
  rw [hindex]
  exact reference.getElem?_storage (by omega) (by omega)

theorem pointer_unsignedInt (reference : RasterPlane width height)
    {column row : Nat} (hcolumn : column < width) (hrow : row < height) :
    reference.pointer (unsignedInt column) (unsignedInt row) =
      .ok (row * width + column) := by
  have hwidth := reference.width_lt
  have hheight := reference.height_lt
  have hunsigned : ∀ {value : Nat}, value < 2 ^ 16 →
      unsignedInt value = value := by
    intro value hvalue
    unfold unsignedInt
    omega
  rw [hunsigned (hcolumn.trans hwidth), hunsigned (hrow.trans hheight)]
  exact reference.pointer_eq hcolumn hrow

theorem unsafeInterPredict_eq (hsize : 0 < size) {mv : MotionVector}
    {reference : RasterPlane width height} {column row : Nat}
    (hcolumn : column + size + 5 ≤ width) (hrow : row + size + 5 ≤ height)
    (output : TwoDSubRange size outputWidth outputHeight)
    (hstride : output.stride = width) :
    unsafeInterPredict mv reference.toTwoDStorage (column + 2 : Nat)
        (row + 2 : Nat) output =
      TwoDStorage.writeRows outputWidth (blockRows size size
        (predicted (fraction mv.x) (fraction mv.y)
          (windowOf reference column row))) output.start
        output.master.toTwoDStorage := by
  have hdest : output.pointer 0 0 = .ok output.start := by
    rw [output.pointer_eq hsize hsize, Nat.zero_mul]
    rfl
  unfold unsafeInterPredict
  rw [decide_eq_true hstride, Net.require_true, ok_bind]
  obtain rfl : outputWidth = width := hstride
  dsimp only [TwoDSubRange.stride]
  split
  · next hwhole =>
      rw [hdest, ok_bind, pointer_unsignedInt reference (by omega) (by omega),
        ok_bind]
      have hpredicted : predicted (fraction mv.x) (fraction mv.y)
          (windowOf reference column row) = fun blockColumn blockRow =>
            windowOf reference column row (blockColumn + 2) (blockRow + 2) := by
        funext blockColumn blockRow
        exact if_pos hwhole
      rw [hpredicted]
      refine copyRows_eq _ (fun blockRow hblockRow => ?_)
        fun blockColumn blockRow hblockColumn hblockRow => ?_
      · have hheight : row + 2 + blockRow + 1 ≤ height := by omega
        have hle := Nat.mul_le_mul_right outputWidth hheight
        rw [Nat.succ_mul, Nat.add_mul (row + 2)] at hle
        rw [reference.length_eq, Nat.mul_comm outputWidth height]
        omega
      · rw [← windowOf_read reference hcolumn hrow (by omega) (by omega)]
        congr 1
        rw [Nat.add_mul row, Nat.add_mul blockRow]
        omega
  · next hfiltered =>
      have hleft : ((column + 2 : Nat) : Int) - 2 = column := by omega
      have htop : ((row + 2 : Nat) : Int) - 2 = row := by omega
      rw [hleft, htop, pointer_unsignedInt reference (by omega) (by omega),
        ok_bind, horizontalPass_eq (by omega) fun windowColumn windowRow =>
          windowOf_read reference hcolumn hrow, ok_bind, hdest, ok_bind]
      have hpredicted : predicted (fraction mv.x) (fraction mv.y)
          (windowOf reference column row) = fun blockColumn blockRow =>
            sixtap (sixtapFilters (fraction mv.y)) ((List.range 6).map
              fun tap => filteredRow (fraction mv.x)
                (windowOf reference column row) blockColumn
                (blockRow + tap)) := by
        funext blockColumn blockRow
        exact if_neg hfiltered
      rw [hpredicted]
      refine verticalPass_eq _ (by omega) fun blockColumn blockRow hblockColumn
        hblockRow => ?_
      rw [Nat.zero_add, blockRows, ← List.flatMap_def]
      exact Grid.getElem?_flatMap_range hblockColumn hblockRow

theorem edgeExtended_windowOf (reference : RasterPlane width height)
    {column row : Nat} (hcolumn : column + size + 5 ≤ width)
    (hrow : row + size + 5 ≤ height) {windowColumn windowRow : Nat}
    (hwindowColumn : windowColumn < size + 5)
    (hwindowRow : windowRow < size + 5) :
    edgeExtended reference.toTwoDStorage
        ((column + 2 : Nat) - 2 + windowColumn)
        ((row + 2 : Nat) - 2 + windowRow) =
      .ok (windowOf reference column row windowColumn windowRow) := by
  have hcolumnAt : ((column + 2 : Nat) : Int) - 2 + windowColumn =
      (column + windowColumn : Nat) := by omega
  have hrowAt : ((row + 2 : Nat) : Int) - 2 + windowRow =
      (row + windowRow : Nat) := by omega
  rw [hcolumnAt, hrowAt, reference.edgeExtended_eq, bounded_of_lt (by omega),
    bounded_of_lt (by omega)]
  rfl

theorem window_of_not_nearEdge {sourceColumn sourceRow : Int}
    (h : ¬ NearEdge size width height sourceColumn sourceRow) :
    ∃ column row : Nat, sourceColumn = (column + 2 : Nat) ∧
      sourceRow = (row + 2 : Nat) ∧ column + size + 5 ≤ width ∧
      row + size + 5 ≤ height := by
  unfold NearEdge at h
  refine ⟨(sourceColumn - 2).toNat, (sourceRow - 2).toNat, ?_⟩
  omega

theorem safeInterPredict_succeeds (mv : MotionVector)
    (reference : RasterPlane width height) (sourceColumn sourceRow : Int)
    (output : TwoDSubRange size outputWidth outputHeight) :
    ∃ result, safeInterPredict mv (edgeExtended reference.toTwoDStorage)
      sourceColumn sourceRow output = .ok result := by
  rw [safeInterPredict_eq fun windowColumn windowRow _ _ =>
    reference.edgeExtended_eq (sourceColumn - 2 + windowColumn)
      (sourceRow - 2 + windowRow)]
  exact output.writeRows_succeeds _

theorem unsafeInterPredict_eq_of_not_nearEdge (hsize : 0 < size)
    (mv : MotionVector) (reference : RasterPlane width height)
    (output : TwoDSubRange size outputWidth outputHeight)
    (hstride : output.stride = width) {sourceColumn sourceRow : Int}
    (hfar : ¬ NearEdge size width height sourceColumn sourceRow) :
    unsafeInterPredict mv reference.toTwoDStorage sourceColumn sourceRow
        output =
      safeInterPredict mv (edgeExtended reference.toTwoDStorage) sourceColumn
        sourceRow output := by
  obtain ⟨left, top, rfl, rfl, hcolumns, hrows⟩ := window_of_not_nearEdge hfar
  rw [unsafeInterPredict_eq hsize hcolumns hrows output hstride,
    safeInterPredict_eq fun windowColumn windowRow =>
      edgeExtended_windowOf reference hcolumns hrows]

/-- Whenever the unsafe implementation is chosen, it reads only what is inside
of the reference and gives what the safe one gives. -/
theorem unsafeInterPredict_eq_safe (hsize : size ∈ [4, 8, 16])
    (column row : Nat) (mv : MotionVector)
    (reference : RasterPlane width height)
    (output : TwoDSubRange size outputWidth outputHeight)
    (hstride : output.stride = width)
    (hfar : ¬ NearEdge size width height (sourcePosition size column mv.x)
      (sourcePosition size row mv.y)) :
    ∃ result,
      unsafeInterPredict mv reference.toTwoDStorage
        (sourcePosition size column mv.x) (sourcePosition size row mv.y)
        output = .ok result ∧
      safeInterPredict mv (edgeExtended reference.toTwoDStorage)
        (sourcePosition size column mv.x) (sourcePosition size row mv.y)
        output = .ok result := by
  have hpos : 0 < size := by
    simp only [List.mem_cons, List.not_mem_nil, or_false] at hsize
    omega
  obtain ⟨result, hresult⟩ := safeInterPredict_succeeds mv reference
    (sourcePosition size column mv.x) (sourcePosition size row mv.y) output
  refine ⟨result, ?_, hresult⟩
  rw [unsafeInterPredict_eq_of_not_nearEdge hpos mv reference output hstride
    hfar]
  exact hresult

end Choice

def countingPlane : RasterPlane 16 16 where
  storage := (List.range 256).map UInt8.ofNat
  width_pos := by decide
  height_pos := by decide
  storage_length := by rw [List.length_map, List.length_range]; rfl
  width_lt := by decide
  height_lt := by decide

def countingBlock : TwoDSubRange 4 16 16 where
  master := countingPlane
  column := 4
  row := 4
  column_le := by decide
  row_le := by decide

theorem unsafeInterPredict_eq_safe_counting :
    ∃ result,
      unsafeInterPredict { y := 3, x := 5 } countingPlane.toTwoDStorage
        (sourcePosition 4 1 5) (sourcePosition 4 1 3) countingBlock =
        .ok result ∧
      safeInterPredict { y := 3, x := 5 }
        (edgeExtended countingPlane.toTwoDStorage)
        (sourcePosition 4 1 5) (sourcePosition 4 1 3) countingBlock =
        .ok result :=
  unsafeInterPredict_eq_safe (by decide) 1 1 { y := 3, x := 5 } countingPlane
    countingBlock rfl (by decide)

theorem interPredict_eq_edgeExtended
    {size width height outputWidth outputHeight : Nat} (hsize : 0 < size)
    (column row : Nat) (mv : MotionVector)
    (reference : RasterPlane width height)
    (output : TwoDSubRange size outputWidth outputHeight)
    (hstride : output.stride = width) :
    interPredict column row mv reference.toTwoDStorage output =
      safeInterPredict mv (edgeExtended reference.toTwoDStorage)
        (sourcePosition size column mv.x) (sourcePosition size row mv.y)
        output := by
  unfold interPredict
  by_cases hfar : NearEdge size width height (sourcePosition size column mv.x)
      (sourcePosition size row mv.y)
  · exact if_pos hfar
  · rw [← unsafeInterPredict_eq_of_not_nearEdge hsize mv reference output
      hstride hfar]
    exact if_neg hfar

end Salsify.Codec
