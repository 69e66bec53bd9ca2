import Salsify.Lib.Grid
import Salsify.Lib.Storage
import Salsify.Net.Packet

namespace Salsify.Codec

open Salsify.Net (Failure)
open Fallible (ok_bind bind_eq_ok)

/-! Planes of samples as `util/2d.hh` stores them, row by row. -/

/-- `TwoDStorage<uint8_t>`, with as many samples as the 32-bit product says. -/
structure TwoDStorage (width height : Nat) where
  storage : List UInt8
  width_pos : 0 < width
  height_pos : 0 < height
  storage_length : storage.length = width * height % 2 ^ 32

/-- A plane of `BaseRaster`, whose dimensions have 16 bits. -/
structure RasterPlane (width height : Nat) extends
    TwoDStorage width height where
  width_lt : width < 2 ^ 16
  height_lt : height < 2 ^ 16

namespace TwoDStorage

variable {width height : Nat}

/-- `&at( column, row )` -/
def pointer (_ : TwoDStorage width height) (column row : Nat) :
    Except Failure Nat := do
  Net.require (column < width && row < height)
    (.assertion "column < width_ and row < height_")
  return (row * width + column) % 2 ^ 32

def outside : Failure := .undefinedBehaviour "outside of storage_"

/-- `at( column, row )` -/
def sample (plane : TwoDStorage width height) (column row : Nat) :
    Except Failure UInt8 := do
  let pointer ← plane.pointer column row
  Storage.read outside plane.storage pointer

/-- `memcpy` or `memset` to a pointer, or an assignment through it. -/
def write (plane : TwoDStorage width height) (pointer : Nat)
    (values : List UInt8) : Except Failure (TwoDStorage width height) :=
  if h : pointer + values.length ≤ plane.storage.length then
    .ok { plane with
      storage := Storage.overwrite plane.storage pointer values
      storage_length := (Storage.overwrite_length h).trans plane.storage_length }
  else .error outside

theorem pointer_eq_ok (plane : TwoDStorage width height) {column row : Nat}
    (hcolumn : column < width) (hrow : row < height) :
    plane.pointer column row = .ok ((row * width + column) % 2 ^ 32) := by
  rw [pointer, decide_eq_true hcolumn, decide_eq_true hrow, Bool.and_self,
    Net.require_true, ok_bind]
  rfl

theorem eq_of_pointer_eq_ok {plane : TwoDStorage width height}
    {column row pointer : Nat} (h : plane.pointer column row = .ok pointer) :
    pointer = (row * width + column) % 2 ^ 32 := by
  obtain ⟨⟨⟩, -, hpointer⟩ := bind_eq_ok h
  cases hpointer
  rfl

theorem write_eq_ok_iff {plane next : TwoDStorage width height} {pointer : Nat}
    {values : List UInt8} :
    plane.write pointer values = .ok next ↔
      pointer + values.length ≤ plane.storage.length ∧
        next.storage = Storage.overwrite plane.storage pointer values := by
  unfold write
  split
  · next hfits =>
      constructor
      · intro h
        cases h
        exact ⟨hfits, rfl⟩
      · rintro ⟨-, hstorage⟩
        cases next
        cases hstorage
        rfl
  · next hfits =>
      constructor
      · intro h
        cases h
      · intro h
        exact absurd h.1 hfits

theorem storage_length_eq (plane other : TwoDStorage width height) :
    plane.storage.length = other.storage.length :=
  plane.storage_length.trans other.storage_length.symm

theorem write_append (plane : TwoDStorage width height) (pointer : Nat)
    (first second : List UInt8) :
    (do
      let plane ← plane.write pointer first
      plane.write (pointer + first.length) second) =
      plane.write pointer (first ++ second) := by
  by_cases hfirst : pointer + first.length ≤ plane.storage.length
  · unfold write
    rw [dif_pos hfirst, ok_bind]
    simp only [Storage.overwrite_length hfirst, List.length_append,
      Nat.add_assoc, Storage.overwrite_append (Nat.le_of_add_right_le hfirst)]
  · unfold write
    rw [dif_neg hfirst, dif_neg]
    · rfl
    · rw [List.length_append]
      omega

theorem foldlM_write {step : TwoDStorage width height → Nat →
      Except Failure (TwoDStorage width height)} {sample : Nat → UInt8}
    {pointer count : Nat} (plane : TwoDStorage width height)
    (hfits : pointer + count ≤ plane.storage.length)
    (hstep : ∀ plane i, i < count →
      step plane i = plane.write (pointer + i) [sample i]) :
    (List.range count).foldlM step plane =
      plane.write pointer ((List.range count).map sample) := by
  induction count with
  | zero =>
      symm
      refine write_eq_ok_iff.mpr ⟨hfits, ?_⟩
      rw [Storage.overwrite]
      simp
  | succ count ih =>
      have hlength : ((List.range count).map sample).length = count := by
        rw [List.length_map, List.length_range]
      rw [List.range_succ, List.foldlM_append, List.map_append,
        ih (by omega) fun plane i hi => hstep plane i (Nat.lt_succ_of_lt hi),
        ← write_append, hlength]
      refine congrArg _ (funext fun next => ?_)
      rw [List.foldlM_cons, hstep next count (Nat.lt_succ_self count)]
      exact bind_pure (next.write (pointer + count) [sample count])

def writeRows (stride : Nat) :
    List (List UInt8) → Nat → TwoDStorage width height →
      Except Failure (TwoDStorage width height)
  | [], _, plane => .ok plane
  | row :: rows, dest, plane => do
      let plane ← plane.write dest row
      writeRows stride rows (dest + stride) plane

theorem writeRows_append (stride : Nat) (rows : List (List UInt8))
    (last : List UInt8) (dest : Nat) (plane : TwoDStorage width height) :
    writeRows stride (rows ++ [last]) dest plane = (do
      let plane ← writeRows stride rows dest plane
      plane.write (dest + rows.length * stride) last) := by
  induction rows generalizing dest plane with
  | nil =>
      rw [List.nil_append, List.length_nil, Nat.zero_mul, Nat.add_zero,
        writeRows, writeRows, ok_bind]
      exact bind_pure (plane.write dest last)
  | cons row rows ih =>
      rw [List.cons_append, writeRows, writeRows, bind_assoc]
      refine congrArg _ (funext fun next => ?_)
      rw [ih, List.length_cons, Nat.succ_mul]
      simp only [Nat.add_assoc, Nat.add_comm stride]

theorem foldlM_writeRows {step : TwoDStorage width height → Nat →
      Except Failure (TwoDStorage width height)} {row : Nat → List UInt8}
    {stride dest count : Nat} (plane : TwoDStorage width height)
    (hstep : ∀ plane i, i < count →
      step plane i = plane.write (dest + i * stride) (row i)) :
    (List.range count).foldlM step plane =
      writeRows stride ((List.range count).map row) dest plane := by
  induction count with
  | zero => rfl
  | succ count ih =>
      rw [List.range_succ, List.foldlM_append, List.map_append,
        ih fun plane i hi => hstep plane i (Nat.lt_succ_of_lt hi),
        List.map_singleton, writeRows_append, List.length_map,
        List.length_range]
      refine congrArg _ (funext fun next => ?_)
      rw [List.foldlM_cons, hstep next count (Nat.lt_succ_self count)]
      exact bind_pure (next.write (dest + count * stride) (row count))

theorem writeRows_succeeds (length : Nat) {stride : Nat}
    {rows : List (List UInt8)} (hrows : ∀ row ∈ rows, row.length = length)
    {dest : Nat} (plane : TwoDStorage width height)
    (hfits : ∀ i, i < rows.length →
      dest + i * stride + length ≤ plane.storage.length) :
    ∃ result, writeRows stride rows dest plane = .ok result := by
  induction rows generalizing dest plane with
  | nil => exact ⟨plane, rfl⟩
  | cons row rows ih =>
      have hfirst : dest + row.length ≤ plane.storage.length := by
        have hzero := hfits 0 (Nat.zero_lt_succ rows.length)
        rw [hrows row List.mem_cons_self]
        omega
      have hwrite : ∃ next, plane.write dest row = .ok next :=
        ⟨_, dif_pos hfirst⟩
      obtain ⟨next, hnext⟩ := hwrite
      rw [writeRows, hnext, ok_bind]
      refine ih (fun other hother =>
        hrows other (List.mem_cons_of_mem row hother)) next fun i hi => ?_
      have hsucc := hfits (i + 1) (Nat.succ_lt_succ hi)
      rw [Nat.succ_mul] at hsucc
      rw [next.storage_length_eq plane]
      omega

end TwoDStorage

namespace RasterPlane

variable {width height : Nat}

def value (plane : RasterPlane width height) (column row : Nat) : UInt8 :=
  plane.storage.getD (row * width + column) 0

theorem product_lt (plane : RasterPlane width height) :
    width * height < 2 ^ 32 := by
  have hheight := plane.height_lt
  calc width * height ≤ 2 ^ 16 * height :=
        Nat.mul_le_mul_right height plane.width_lt.le
    _ < 2 ^ 16 * 2 ^ 16 := Nat.mul_lt_mul_of_pos_left hheight (by decide)
    _ = 2 ^ 32 := by decide

theorem length_eq (plane : RasterPlane width height) :
    plane.storage.length = width * height := by
  rw [plane.storage_length, Nat.mod_eq_of_lt plane.product_lt]

theorem getElem?_storage (plane : RasterPlane width height) {column row : Nat}
    (hcolumn : column < width) (hrow : row < height) :
    plane.storage[row * width + column]? = some (plane.value column row) := by
  have hlt : row * width + column < plane.storage.length := by
    rw [plane.length_eq]
    exact Grid.index_lt hcolumn hrow
  rw [value, List.getD_eq_getElem?_getD, List.getElem?_eq_getElem hlt]
  rfl

theorem pointer_eq (plane : RasterPlane width height) {column row : Nat}
    (hcolumn : column < width) (hrow : row < height) :
    plane.pointer column row = .ok (row * width + column) := by
  rw [plane.pointer_eq_ok hcolumn hrow, Nat.mod_eq_of_lt]
  exact (Grid.index_lt hcolumn hrow).trans plane.product_lt

theorem sample_eq (plane : RasterPlane width height) {column row : Nat}
    (hcolumn : column < width) (hrow : row < height) :
    plane.sample column row = .ok (plane.value column row) := by
  rw [TwoDStorage.sample, plane.pointer_eq hcolumn hrow, ok_bind,
    Storage.read_eq_ok (plane.getElem?_storage hcolumn hrow)]

end RasterPlane

/-- `bounded_column` or `bounded_row`. -/
def bounded (position : Int) (size : Nat) : Nat :=
  let position := if position < 0 then 0 else position
  let position := if position > size - 1 then (size : Int) - 1 else position
  position.toNat

/-- `EdgeExtendedRaster` -/
def edgeExtended {width height : Nat} (master : TwoDStorage width height)
    (column row : Int) : Except Failure UInt8 :=
  master.sample (bounded column width) (bounded row height)

theorem bounded_lt {position : Int} {size : Nat} (hsize : 0 < size) :
    bounded position size < size := by
  unfold bounded
  dsimp only
  split <;> split <;> omega

theorem bounded_of_lt {position size : Nat} (h : position < size) :
    bounded position size = position := by
  unfold bounded
  dsimp only
  split <;> split <;> omega

theorem bounded_of_neg {position : Int} {size : Nat} (hsize : 0 < size)
    (h : position < 0) : bounded position size = 0 := by
  unfold bounded
  dsimp only
  split <;> split <;> omega

theorem bounded_of_le {position size : Nat} (h : size ≤ position) :
    bounded position size = size - 1 := by
  unfold bounded
  dsimp only
  split <;> split <;> omega

theorem RasterPlane.edgeExtended_eq {width height : Nat}
    (plane : RasterPlane width height) (column row : Int) :
    edgeExtended plane.toTwoDStorage column row =
      .ok (plane.value (bounded column width) (bounded row height)) :=
  plane.sample_eq (bounded_lt plane.width_pos) (bounded_lt plane.height_pos)

end Salsify.Codec
