import Salsify.Codec.ForwardTransform
import Salsify.Codec.VP8Raster

namespace Salsify.Codec

open Salsify.Net (Failure)
open Salsify.Encoder (clamp255)
open Fallible (ok_bind bind_eq_ok)

/-! The inverse transforms of `decoder/transform.cc`. What is stored into an
`int16_t` goes through `store`, as it does in the forward transforms. -/

def mul20091 (a : Int) : Int := ((a * 20091) >>> (16 : Nat)) + a
def mul35468 (a : Int) : Int := (a * 35468) >>> (16 : Nat)

def idctButterfly : Butterfly := fun x0 x4 x8 x12 =>
  let t0 := x0 + x8
  let t1 := x0 - x8
  let t2 := mul35468 x4 - mul20091 x12
  let t3 := mul20091 x4 + mul35468 x12
  ![t0 + t3, t1 + t2, t1 - t2, t0 - t3]

def iwhtColumn : Butterfly := fun x0 x4 x8 x12 =>
  let a1 := x0 + x12
  let b1 := x4 + x8
  let c1 := x4 - x8
  let d1 := x0 - x12
  ![a1 + b1, c1 + d1, a1 - b1, d1 - c1]

def iwhtRow : Butterfly := fun x0 x1 x2 x3 =>
  let a1 := x0 + x3
  let b1 := x1 + x2
  let c1 := x1 - x2
  let d1 := x0 - x3
  ![(a1 + b1 + 3) >>> (3 : Nat), (c1 + d1 + 3) >>> (3 : Nat),
    (a1 - b1 + 3) >>> (3 : Nat), (d1 - c1 + 3) >>> (3 : Nat)]

section Passes

variable (store : Int → Int)

/-- The DC coefficients of the blocks, row by row. -/
def iwht (coefficients : SafeArray Int 16) : SafeArray Int 16 :=
  firstPass store iwhtRow (secondPass store iwhtColumn coefficients)

/-- The first loop of `idct_add`, which leaves columns as rows. -/
def idctIntermediate (coefficients : SafeArray Int 16) : SafeArray Int 16 :=
  fun index =>
    let value (row : Fin 4) := coefficients (indexOf (rowOf index) row)
    store (idctButterfly (value 0) (value 1) (value 2) (value 3)
      (columnOf index))

/-- What the second loop adds to the sample at a column and row. -/
def idctResidue (coefficients : SafeArray Int 16) (column row : Fin 4) : Int :=
  let value (other : Fin 4) :=
    idctIntermediate store coefficients (indexOf row other)
  (idctButterfly (value 0) (value 1) (value 2) (value 3) column + 4) >>>
    (3 : Nat)

end Passes

section Blocks

variable {width height displayWidth displayHeight : Nat}

def residueAt (coefficients : SafeArray Int 16) (column row : Nat) : Int :=
  idctResidue int16 coefficients (Fin.ofNat 4 column) (Fin.ofNat 4 row)

/-- The second loop of `idct_add`. -/
def TwoDSubRange.idctAdd (output : TwoDSubRange 4 width height)
    (coefficients : SafeArray Int 16) :
    Except Failure (TwoDStorage width height) :=
  (Grid.places 4 4).foldlM (fun plane (column, row) => do
    let target ← output.pointer 0 row
    let sample ← Storage.read TwoDStorage.outside plane.storage
      (target + column)
    plane.write (target + column)
      [clamp255 (sample.toNat + residueAt coefficients column row)])
    output.master.toTwoDStorage

/-- `Y_sub_at`, `U_sub_at` and `V_sub_at`, by their place in the component. -/
abbrev subblock (component : Component) (column row : Nat) : RasterBlock :=
  { component, size := 4, column, row }

namespace RasterBlock

/-- `dequantize( quantizer ).idct_add` of coefficients that have been
dequantized. -/
def idctAdd (component : Component) (column row : Nat)
    (coefficients : SafeArray Int 16) :
    VP8Raster displayWidth displayHeight →
      Except Failure (VP8Raster displayWidth displayHeight) :=
  (subblock component column row).update fun contents =>
    contents.idctAdd coefficients

end RasterBlock

theorem TwoDSubRange.idctAdd_filled (output : TwoDSubRange 4 width height)
    (coefficients : SafeArray Int 16) :
    Fallible.Succeeds (output.idctAdd coefficients) (output.Filled
      fun column row => clamp255 ((output.master.value (output.column + column)
        (output.row + row)).toNat + residueAt coefficients column row)) := by
  have hcolumns := output.column_le
  have hrows := output.row_le
  let change : Nat × Nat → Option UInt8 → Option UInt8 := fun place sample =>
    sample.map fun sample => clamp255
      (sample.toNat + residueAt coefficients place.1 place.2)
  refine output.filled_of_foldlM id change (by rw [List.map_id]) ?_ ?_
  · rintro storage ⟨column, row⟩ hmem
    obtain ⟨hcolumn, hrow⟩ := Grid.mem_places.mp hmem
    obtain ⟨sample, hread, hsample⟩ :=
      output.getElem?_shift storage hcolumn hrow
    dsimp only
    rw [output.pointer_eq (by decide) hrow, ok_bind, Nat.add_zero,
      Storage.read_eq_ok hread, ok_bind]
    refine output.changes_write storage hcolumn hrow _ ?_
    rw [hsample]
    rfl
  · rintro ⟨column, row⟩ hmem
    obtain ⟨hcolumn, hrow⟩ := Grid.mem_places.mp hmem
    dsimp only [id, shift]
    rw [RasterPlane.sample?_of_lt _ (by omega) (by omega)]
    rfl

namespace RasterBlock

theorem idctAdd_painted {component : Component} {column row : Nat}
    (hfits : (subblock component column row).Fits displayWidth displayHeight)
    (coefficients : SafeArray Int 16)
    (raster : VP8Raster displayWidth displayHeight) :
    Fallible.Succeeds (idctAdd component column row coefficients raster)
      fun next => (subblock component column row).Painted raster next
        fun x y => clamp255 (((raster.plane component).value
          (4 * column + x) (4 * row + y)).toNat +
            residueAt coefficients x y) :=
  update_painted hfits
    (TwoDSubRange.idctAdd_filled ((subblock component column row).range hfits
      raster) coefficients)

theorem idctAdd_footprint {component : Component} {column row : Nat}
    {known : Set SamplePlace}
    (hfits : (subblock component column row).Fits displayWidth displayHeight)
    (hknown : (subblock component column row).places ⊆ known)
    (coefficients : SafeArray Int 16) :
    Reconstructs displayWidth displayHeight
      (idctAdd component column row coefficients) (.ok ()) known
      (subblock component column row).places := by
  refine footprint _ (idctAdd_painted hfits coefficients) ?_
  intro one other hagree x y hx hy
  have hcolumns := hfits.column_le
  have hrows := hfits.row_le
  have hplace : (component, 4 * column + x, 4 * row + y) ∈ known :=
    hknown ⟨rfl, ⟨Nat.le_add_right _ _, Nat.add_lt_add_left hx _⟩,
      Nat.le_add_right _ _, Nat.add_lt_add_left hy _⟩
  rw [VP8Raster.value_eq_of_agree hagree hplace
    (Nat.lt_of_lt_of_le (Nat.add_lt_add_left hx _) hcolumns)
    (Nat.lt_of_lt_of_le (Nat.add_lt_add_left hy _) hrows)]

end RasterBlock

end Blocks

end Salsify.Codec
