import Salsify.Codec.InterPrediction
import Salsify.Codec.Frame
import Salsify.Lib.Footprint

namespace Salsify.Codec

open Salsify.Net (Failure)
open Fallible (ok_bind bind_eq_ok)

/-! The rasters of `decoder/vp8_raster.hh` that frames are decoded into, as
blocks of their three components. -/

inductive Component
  | Y | U | V
  deriving DecidableEq, Repr

/-- The width or the height of a component, given that of the display. -/
def Component.extent : Component → Nat → Nat
  | .Y, display => 16 * macroblockDimension display
  | .U, display | .V, display => 16 * macroblockDimension display / 2

structure VP8Raster (displayWidth displayHeight : Nat) where
  plane : ∀ component : Component, RasterPlane
    (component.extent displayWidth) (component.extent displayHeight)

/-- A display size whose components have 16-bit dimensions. -/
def RasterExtent (display : Nat) : Prop :=
  0 < display ∧ 16 * macroblockDimension display < 2 ^ 16

instance (display : Nat) : Decidable (RasterExtent display) :=
  inferInstanceAs (Decidable (_ ∧ _))

theorem RasterExtent.component {display : Nat} (h : RasterExtent display)
    (component : Component) :
    0 < component.extent display ∧ component.extent display < 2 ^ 16 := by
  obtain ⟨hpos, hlt⟩ := h
  have hdimension : 0 < macroblockDimension display := by
    unfold macroblockDimension
    omega
  cases component <;> simp only [Component.extent] <;> omega

def VP8Raster.blank {displayWidth displayHeight : Nat}
    (hwidth : RasterExtent displayWidth)
    (hheight : RasterExtent displayHeight) :
    VP8Raster displayWidth displayHeight where
  plane component := {
    storage := List.replicate (component.extent displayWidth *
      component.extent displayHeight % 2 ^ 32) 0
    width_pos := (hwidth.component component).1
    height_pos := (hheight.component component).1
    storage_length := List.length_replicate
    width_lt := (hwidth.component component).2
    height_lt := (hheight.component component).2 }

abbrev SamplePlace := Component × Nat × Nat

namespace RasterPlane

variable {width height : Nat}

def withStorage (plane : RasterPlane width height)
    (storage : TwoDStorage width height) : RasterPlane width height :=
  { plane with toTwoDStorage := storage }

@[simp] theorem withStorage_withStorage (plane : RasterPlane width height)
    (first second : TwoDStorage width height) :
    (plane.withStorage first).withStorage second = plane.withStorage second :=
  rfl

theorem getElem?_withStorage (plane : RasterPlane width height)
    (storage : TwoDStorage width height) {column row : Nat}
    (hcolumn : column < width) (hrow : row < height) :
    storage.storage[row * width + column]? =
      some ((plane.withStorage storage).value column row) :=
  (plane.withStorage storage).getElem?_storage hcolumn hrow

theorem ext_value {plane other : RasterPlane width height}
    (h : ∀ column row, column < width → row < height →
      plane.value column row = other.value column row) : plane = other := by
  have hstorage : plane.storage = other.storage := by
    refine List.ext_getElem? fun index => ?_
    by_cases hindex : index < width * height
    · have hmod := Nat.mod_lt index plane.width_pos
      have hdiv : index / width < height :=
        Nat.div_lt_of_lt_mul hindex
      have hsplit : index = index / width * width + index % width := by
        rw [Nat.mul_comm]
        exact (Nat.div_add_mod index width).symm
      rw [hsplit, plane.getElem?_storage hmod hdiv,
        other.getElem?_storage hmod hdiv, h _ _ hmod hdiv]
    · rw [List.getElem?_eq_none, List.getElem?_eq_none]
      · rw [other.length_eq]
        omega
      · rw [plane.length_eq]
        omega
  cases plane with | mk storage hwidth hheight => ?_
  cases other with | mk otherStorage hwidth' hheight' => ?_
  cases storage
  cases otherStorage
  cases hstorage
  rfl

theorem index_lt_iff (row top : Nat) {column left : Nat} (hcolumn : column < width)
    (hleft : left ≤ width) :
    row * width + column < top * width + left ↔
      row < top ∨ row = top ∧ column < left := by
  rcases Nat.lt_trichotomy row top with hrow | rfl | hrow
  · have hle := Nat.mul_le_mul_right width hrow
    rw [Nat.succ_mul] at hle
    constructor
    · exact fun _ => .inl hrow
    · intro _
      omega
  · omega
  · have hle := Nat.mul_le_mul_right width hrow
    rw [Nat.succ_mul] at hle
    constructor
    · intro h
      omega
    · rintro (h | h) <;> omega

theorem value_write {plane : RasterPlane width height}
    {next : TwoDStorage width height} {left top : Nat} {values : List UInt8}
    (hleft : left + values.length ≤ width)
    (h : plane.write (top * width + left) values = .ok next) {column row : Nat}
    (hcolumn : column < width) (hrow : row < height) :
    (plane.withStorage next).value column row =
      if row = top ∧ left ≤ column ∧ column < left + values.length then
        values.getD (column - left) 0
      else plane.value column row := by
  obtain ⟨hfits, hstorage⟩ := TwoDStorage.write_eq_ok_iff.mp h
  have hread : ∀ {sample}, next.storage[row * width + column]? = some sample →
      (plane.withStorage next).value column row = sample := by
    intro sample hsample
    rw [plane.getElem?_withStorage next hcolumn hrow] at hsample
    exact Option.some.inj hsample
  have hbefore := index_lt_iff row top hcolumn (show left ≤ width by omega)
  have hinside := index_lt_iff row top hcolumn hleft
  apply hread
  rw [hstorage]
  by_cases hleftOf : row * width + column < top * width + left
  · rw [Storage.getElem?_overwrite_before hfits hleftOf,
      plane.getElem?_storage hcolumn hrow, if_neg (by omega)]
  by_cases hrightOf : row * width + column <
      top * width + (left + values.length)
  · have hplace : row = top ∧ left ≤ column ∧
        column < left + values.length := by omega
    obtain ⟨rfl, hge, hlt⟩ := hplace
    have hindex : row * width + column =
        row * width + left + (column - left) := by omega
    have hlength : column - left < values.length := by omega
    rw [hindex, Storage.getElem?_overwrite_inside hfits hlength,
      if_pos ⟨rfl, hge, hlt⟩, List.getD_eq_getElem?_getD,
      List.getElem?_eq_getElem hlength, Option.getD_some]
  · rw [Storage.getElem?_overwrite_after hfits (by omega),
      plane.getElem?_storage hcolumn hrow, if_neg (by omega)]

def sample? (plane : RasterPlane width height) (place : Nat × Nat) :
    Option UInt8 :=
  if place.1 < width ∧ place.2 < height then
    some (plane.value place.1 place.2)
  else
    none

theorem sample?_of_lt (plane : RasterPlane width height) {column row : Nat}
    (hcolumn : column < width) (hrow : row < height) :
    plane.sample? (column, row) = some (plane.value column row) :=
  if_pos ⟨hcolumn, hrow⟩

theorem sample?_write (plane : RasterPlane width height)
    {next : TwoDStorage width height} {left top : Nat} {values : List UInt8}
    (hleft : left + values.length ≤ width) (htop : top < height)
    (h : plane.write (top * width + left) values = .ok next)
    (place : Nat × Nat) :
    (plane.withStorage next).sample? place =
      if place.2 = top ∧ left ≤ place.1 ∧ place.1 < left + values.length then
        some (values.getD (place.1 - left) 0)
      else plane.sample? place := by
  unfold sample?
  by_cases hinside : place.1 < width ∧ place.2 < height
  · rw [if_pos hinside, if_pos hinside,
      value_write hleft h hinside.1 hinside.2]
    split <;> rfl
  · rw [if_neg hinside, if_neg hinside, if_neg (by omega)]

theorem sample?_writeRows (plane : RasterPlane width height)
    {next : TwoDStorage width height} {size rows left top : Nat}
    {value : Nat → Nat → UInt8} (hleft : left + size ≤ width)
    (htop : top + rows ≤ height)
    (h : TwoDStorage.writeRows width (blockRows size rows value)
      (top * width + left) plane.toTwoDStorage = .ok next)
    (place : Nat × Nat) :
    (plane.withStorage next).sample? place =
      if (left ≤ place.1 ∧ place.1 < left + size) ∧
          top ≤ place.2 ∧ place.2 < top + rows then
        some (value (place.1 - left) (place.2 - top))
      else plane.sample? place := by
  induction rows generalizing plane top value with
  | zero =>
      cases h
      rw [if_neg (by omega)]
      rfl
  | succ rows ih =>
      have hlength : ((List.range size).map fun column => value column 0).length =
          size := by
        rw [List.length_map, List.length_range]
      rw [blockRows_succ, TwoDStorage.writeRows] at h
      obtain ⟨middle, hmiddle, hrest⟩ := bind_eq_ok h
      have hdest : top * width + left + width = (top + 1) * width + left := by
        rw [Nat.succ_mul]
        omega
      rw [hdest] at hrest
      have hlater := ih (plane.withStorage middle) (by omega) hrest
      have hfirst := sample?_write plane (by omega) (by omega) hmiddle place
      rw [hlength] at hfirst
      rw [withStorage_withStorage] at hlater
      rw [hlater, hfirst]
      by_cases hcolumn : left ≤ place.1 ∧ place.1 < left + size
      · by_cases hrow : place.2 = top
        · rw [if_neg (by omega), if_pos ⟨hrow, hcolumn⟩, if_pos (by omega),
            List.getD_eq_getElem?_getD, List.getElem?_map,
            List.getElem?_range (by omega), hrow, Nat.sub_self]
          rfl
        · rw [if_neg (by omega : ¬ (place.2 = top ∧ left ≤ place.1 ∧
            place.1 < left + size))]
          by_cases hlow : top + 1 ≤ place.2 ∧ place.2 < top + 1 + rows
          · rw [if_pos ⟨hcolumn, hlow⟩, if_pos (by omega)]
            congr 2
            omega
          · rw [if_neg (by omega), if_neg (by omega)]
      · rw [if_neg (by omega), if_neg (by omega), if_neg (by omega)]

theorem ext_sample? {plane other : RasterPlane width height}
    (h : ∀ place, plane.sample? place = other.sample? place) :
    plane = other := by
  refine ext_value fun column row hcolumn hrow => ?_
  have hplace := h (column, row)
  rw [sample?_of_lt _ hcolumn hrow, sample?_of_lt _ hcolumn hrow] at hplace
  exact Option.some.inj hplace

end RasterPlane

namespace TwoDSubRange

variable {size width height : Nat}

/-- The samples of a storage in the place of the master's. -/
def samples (output : TwoDSubRange size width height)
    (storage : TwoDStorage width height) : Nat × Nat → Option UInt8 :=
  (output.master.withStorage storage).sample?

def Covers (output : TwoDSubRange size width height) (place : Nat × Nat) :
    Prop :=
  (output.column ≤ place.1 ∧ place.1 < output.column + size) ∧
    output.row ≤ place.2 ∧ place.2 < output.row + size

instance (output : TwoDSubRange size width height) (place : Nat × Nat) :
    Decidable (output.Covers place) :=
  inferInstanceAs (Decidable (_ ∧ _))

def Filled (output : TwoDSubRange size width height)
    (value : Nat → Nat → UInt8) (next : TwoDStorage width height) : Prop :=
  ∀ place, output.samples next place =
    if output.Covers place then
      some (value (place.1 - output.column) (place.2 - output.row))
    else output.master.sample? place

theorem filled_of_writeRows (output : TwoDSubRange size width height)
    (value : Nat → Nat → UInt8) {next : TwoDStorage width height}
    (h : TwoDStorage.writeRows width (blockRows size size value) output.start
      output.master.toTwoDStorage = .ok next) :
    output.Filled value next :=
  RasterPlane.sample?_writeRows _ output.column_le output.row_le h

def shift (output : TwoDSubRange size width height) (place : Nat × Nat) :
    Nat × Nat :=
  (output.column + place.1, output.row + place.2)

theorem shift_injective (output : TwoDSubRange size width height) :
    Function.Injective output.shift := by
  intro one other h
  have hcolumn : output.column + one.1 = output.column + other.1 :=
    congrArg Prod.fst h
  have hrow : output.row + one.2 = output.row + other.2 :=
    congrArg Prod.snd h
  exact Prod.ext (by omega) (by omega)

theorem pointer_start (output : TwoDSubRange size width height)
    {column row : Nat} :
    output.start + row * width + column =
      (output.row + row) * width + (output.column + column) := by
  rw [start, Nat.add_mul]
  omega

theorem getElem?_shift (output : TwoDSubRange size width height)
    (storage : TwoDStorage width height) {column row : Nat}
    (hcolumn : column < size) (hrow : row < size) :
    ∃ sample, storage.storage[output.start + row * width + column]? =
        some sample ∧
      output.samples storage (output.shift (column, row)) = some sample := by
  have hcolumns := output.column_le
  have hrows := output.row_le
  refine ⟨_, ?_, RasterPlane.sample?_of_lt _ (by omega) (by omega)⟩
  rw [output.pointer_start]
  exact output.master.getElem?_withStorage storage (by omega) (by omega)

theorem changes_write (output : TwoDSubRange size width height)
    (storage : TwoDStorage width height) {column row : Nat}
    (hcolumn : column < size) (hrow : row < size) (value : UInt8)
    {change : Option UInt8 → Option UInt8}
    (hchange : change (output.samples storage (output.shift (column, row))) =
      some value) :
    Fallible.Succeeds
      (storage.write (output.start + row * width + column) [value])
      fun next => Changes output.samples storage next
        (output.shift (column, row)) change := by
  have hcolumns := output.column_le
  have hrows := output.row_le
  have hfits : output.start + row * width + column + [value].length ≤
      storage.storage.length := by
    have hblock := output.fits hrow
    rw [storage.storage_length_eq output.master.toTwoDStorage]
    simp only [List.length_cons, List.length_nil]
    omega
  obtain ⟨next, hnext⟩ : ∃ next, storage.write
      (output.start + row * width + column) [value] = .ok next :=
    ⟨_, dif_pos hfits⟩
  refine ⟨next, hnext, ?_⟩
  rw [output.pointer_start] at hnext
  have hplaces := RasterPlane.sample?_write (output.master.withStorage storage)
    (show output.column + column + [value].length ≤ width by
      simp only [List.length_cons, List.length_nil]
      omega)
    (show output.row + row < height by omega) hnext
  constructor
  · have hplace := hplaces (output.shift (column, row))
    rw [if_pos ⟨rfl, Nat.le_refl _, Nat.lt_succ_self _⟩] at hplace
    rw [hchange]
    refine hplace.trans (congrArg some ?_)
    rw [shift, Nat.sub_self]
    rfl
  · intro other hother
    refine (hplaces other).trans (if_neg ?_)
    rintro ⟨hrowEq, hge, hlt⟩
    have hlt : other.1 < output.column + column + 1 := hlt
    exact hother (Prod.ext (by rw [shift]; omega) (by rw [shift, hrowEq]))

theorem filled_of_foldlM {α : Type} (output : TwoDSubRange size width height)
    (placeOf : α → Nat × Nat) (change : α → Option UInt8 → Option UInt8)
    {items : List α}
    {step : TwoDStorage width height → α →
      Except Failure (TwoDStorage width height)}
    {value : Nat → Nat → UInt8}
    (hwhole : (items.map placeOf).Perm (Grid.places size size))
    (hstep : ∀ storage, ∀ item ∈ items, Fallible.Succeeds (step storage item)
      fun next => Changes output.samples storage next
        (output.shift (placeOf item)) (change item))
    (hvalue : ∀ item ∈ items,
      change item (output.master.sample? (output.shift (placeOf item))) =
        some (value (placeOf item).1 (placeOf item).2)) :
    Fallible.Succeeds (items.foldlM step output.master.toTwoDStorage)
      (output.Filled value) := by
  have hnodup : (items.map (output.shift ∘ placeOf)).Nodup := by
    rw [← List.map_map]
    exact (hwhole.nodup_iff.mpr Grid.places_nodup).map output.shift_injective
  apply (succeeds_foldlM_changes hnodup hstep).mono
  rintro last ⟨hchanged, hkept⟩ place
  by_cases hcovers : output.Covers place
  · have hmem : (place.1 - output.column, place.2 - output.row) ∈
        items.map placeOf := by
      obtain ⟨hcolumn, hrow⟩ := hcovers
      exact hwhole.mem_iff.mpr (Grid.mem_places.mpr ⟨by omega, by omega⟩)
    obtain ⟨item, hitem, hplace⟩ := List.mem_map.mp hmem
    have hshift : output.shift (placeOf item) = place := by
      obtain ⟨hcolumn, hrow⟩ := hcovers
      rw [hplace]
      exact Prod.ext (Nat.add_sub_of_le hcolumn.1) (Nat.add_sub_of_le hrow.1)
    have hlast := (hchanged item hitem).trans (hvalue item hitem)
    rw [hplace] at hlast
    rw [if_pos hcovers, ← hlast, Function.comp_apply, hshift]
  · rw [if_neg hcovers]
    refine hkept place fun hmem => ?_
    obtain ⟨item, hitem, hplace⟩ := List.mem_map.mp hmem
    have hinside := Grid.mem_places.mp
      (hwhole.mem_iff.mp (List.mem_map_of_mem hitem))
    have hcolumn : output.column + (placeOf item).1 = place.1 :=
      congrArg Prod.fst hplace
    have hrow : output.row + (placeOf item).2 = place.2 :=
      congrArg Prod.snd hplace
    exact hcovers ⟨⟨by omega, by omega⟩, by omega, by omega⟩

end TwoDSubRange

namespace VP8Raster

variable {displayWidth displayHeight : Nat}

def sample? (raster : VP8Raster displayWidth displayHeight)
    (place : SamplePlace) : Option UInt8 :=
  (raster.plane place.1).sample? place.2

def withPlane (raster : VP8Raster displayWidth displayHeight)
    (component : Component)
    (storage : TwoDStorage (component.extent displayWidth)
      (component.extent displayHeight)) :
    VP8Raster displayWidth displayHeight where
  plane := Function.update raster.plane component
    ((raster.plane component).withStorage storage)

/-- The raster after something has been done to a component of it. -/
def update (raster : VP8Raster displayWidth displayHeight)
    (component : Component)
    (change : RasterPlane (component.extent displayWidth)
        (component.extent displayHeight) →
      Except Failure (TwoDStorage (component.extent displayWidth)
        (component.extent displayHeight))) :
    Except Failure (VP8Raster displayWidth displayHeight) := do
  let storage ← change (raster.plane component)
  return raster.withPlane component storage

theorem ext_sample {one other : VP8Raster displayWidth displayHeight}
    (h : ∀ place, one.sample? place = other.sample? place) : one = other := by
  obtain ⟨planes⟩ := one
  obtain ⟨others⟩ := other
  congr 1
  funext component
  exact RasterPlane.ext_sample? fun place => h (component, place)

theorem value_eq_of_agree {one other : VP8Raster displayWidth displayHeight}
    {known : Set SamplePlace} (hagree : AgreeOn sample? known one other)
    {component : Component} {column row : Nat}
    (hknown : (component, column, row) ∈ known)
    (hcolumn : column < component.extent displayWidth)
    (hrow : row < component.extent displayHeight) :
    (one.plane component).value column row =
      (other.plane component).value column row := by
  have hplace := hagree _ hknown
  simp only [sample?] at hplace
  rw [RasterPlane.sample?_of_lt _ hcolumn hrow,
    RasterPlane.sample?_of_lt _ hcolumn hrow] at hplace
  exact Option.some.inj hplace

end VP8Raster

/-- `VP8Raster::Block<size>`, as the component it is of and its place in units
of its size. -/
structure RasterBlock where
  component : Component
  size : Nat
  column : Nat
  row : Nat

namespace RasterBlock

variable {displayWidth displayHeight : Nat}

def left (block : RasterBlock) : Nat := block.size * block.column
def top (block : RasterBlock) : Nat := block.size * block.row

/-- The assertions of the constructor. -/
structure Fits (displayWidth displayHeight : Nat) (block : RasterBlock) :
    Prop where
  column_le : block.left + block.size ≤ block.component.extent displayWidth
  row_le : block.top + block.size ≤ block.component.extent displayHeight

/-- `contents_` -/
def contents (block : RasterBlock)
    (plane : RasterPlane (block.component.extent displayWidth)
      (block.component.extent displayHeight)) :
    Except Failure (TwoDSubRange block.size
      (block.component.extent displayWidth)
      (block.component.extent displayHeight)) :=
  if hcolumn : block.left + block.size ≤
      block.component.extent displayWidth then
    if hrow : block.top + block.size ≤
        block.component.extent displayHeight then
      .ok { master := plane, column := block.left, row := block.top
            column_le := hcolumn, row_le := hrow }
    else .error (.assertion "row_ + sub_height <= master_->height()")
  else .error (.assertion "column_ + sub_width <= master_->width()")

/-- The raster after something has been done to the contents of the block. -/
def update (block : RasterBlock)
    (change : TwoDSubRange block.size (block.component.extent displayWidth)
        (block.component.extent displayHeight) →
      Except Failure (TwoDStorage (block.component.extent displayWidth)
        (block.component.extent displayHeight)))
    (raster : VP8Raster displayWidth displayHeight) :
    Except Failure (VP8Raster displayWidth displayHeight) :=
  raster.update block.component fun plane => do
    let contents ← block.contents plane
    change contents

def Covers (block : RasterBlock) (place : SamplePlace) : Prop :=
  place.1 = block.component ∧
    (block.left ≤ place.2.1 ∧ place.2.1 < block.left + block.size) ∧
    block.top ≤ place.2.2 ∧ place.2.2 < block.top + block.size

instance (block : RasterBlock) (place : SamplePlace) :
    Decidable (block.Covers place) :=
  inferInstanceAs (Decidable (_ ∧ _))

def places (block : RasterBlock) : Set SamplePlace := {place | block.Covers place}

/-- The raster with other values in the place of those of the block. -/
def Painted (block : RasterBlock)
    (raster next : VP8Raster displayWidth displayHeight)
    (value : Nat → Nat → UInt8) : Prop :=
  ∀ place, next.sample? place =
    if block.Covers place then
      some (value (place.2.1 - block.left) (place.2.2 - block.top))
    else raster.sample? place

def range (block : RasterBlock) (hfits : block.Fits displayWidth displayHeight)
    (raster : VP8Raster displayWidth displayHeight) :
    TwoDSubRange block.size (block.component.extent displayWidth)
      (block.component.extent displayHeight) where
  master := raster.plane block.component
  column := block.left
  row := block.top
  column_le := hfits.column_le
  row_le := hfits.row_le

theorem contents_eq {block : RasterBlock}
    (hfits : block.Fits displayWidth displayHeight)
    (raster : VP8Raster displayWidth displayHeight) :
    block.contents (raster.plane block.component) =
      .ok (block.range hfits raster) := by
  rw [contents, dif_pos hfits.column_le, dif_pos hfits.row_le]
  rfl

theorem update_painted {block : RasterBlock}
    (hfits : block.Fits displayWidth displayHeight)
    {raster : VP8Raster displayWidth displayHeight}
    {change : TwoDSubRange block.size (block.component.extent displayWidth)
        (block.component.extent displayHeight) →
      Except Failure (TwoDStorage (block.component.extent displayWidth)
        (block.component.extent displayHeight))}
    {value : Nat → Nat → UInt8}
    (hchange : Fallible.Succeeds (change (block.range hfits raster))
      ((block.range hfits raster).Filled value)) :
    Fallible.Succeeds (block.update change raster) fun next =>
      block.Painted raster next value := by
  obtain ⟨storage, hstorage, hfilled⟩ := hchange
  refine ⟨raster.withPlane block.component storage, ?_, ?_⟩
  · rw [update, VP8Raster.update, contents_eq hfits, ok_bind, hstorage, ok_bind]
    rfl
  · rintro ⟨component, place⟩
    by_cases hcomponent : component = block.component
    · subst hcomponent
      have hplace := hfilled place
      simp only [VP8Raster.sample?, VP8Raster.withPlane, Function.update_self,
        Covers, true_and]
      exact hplace
    · have hcovers : ¬ block.Covers (component, place) :=
        fun h => hcomponent h.1
      rw [if_neg hcovers]
      simp only [VP8Raster.sample?, VP8Raster.withPlane,
        Function.update_of_ne hcomponent]

/-- An operation that paints a block, with values that depend only on what it
reads. -/
theorem footprint {block : RasterBlock}
    {operation : VP8Raster displayWidth displayHeight →
      Except Failure (VP8Raster displayWidth displayHeight)}
    {reads : Set SamplePlace}
    (value : VP8Raster displayWidth displayHeight → Nat → Nat → UInt8)
    (hpainted : ∀ raster, Fallible.Succeeds (operation raster) fun next =>
      block.Painted raster next (value raster))
    (hvalue : ∀ one other, AgreeOn VP8Raster.sample? reads one other →
      ∀ column row, column < block.size → row < block.size →
        value one column row = value other column row) :
    Footprint VP8Raster.sample? operation (.ok ()) reads block.places where
  outcome_eq raster := by
    obtain ⟨next, hnext, -⟩ := hpainted raster
    rw [hnext]
    rfl
  kept {raster next} hrun place hplace := by
    obtain ⟨found, hfound, hpaint⟩ := hpainted raster
    obtain rfl : next = found := Except.ok.inj (hrun.symm.trans hfound)
    rw [hpaint place]
    exact if_neg hplace
  determined {one other next nextOther} hagree hone hother place hplace := by
    obtain ⟨found, hfound, hpaint⟩ := hpainted one
    obtain rfl : next = found := Except.ok.inj (hone.symm.trans hfound)
    obtain ⟨foundOther, hfoundOther, hpaintOther⟩ := hpainted other
    obtain rfl : nextOther = foundOther :=
      Except.ok.inj (hother.symm.trans hfoundOther)
    have hcovers : block.Covers place := hplace
    obtain ⟨-, hcolumn, hrow⟩ := id hcovers
    rw [hpaint place, hpaintOther place, if_pos hcovers, if_pos hcovers,
      hvalue one other hagree _ _ (by omega) (by omega)]

end RasterBlock

/-- The footprint of an operation on the samples of a raster. -/
abbrev Reconstructs (displayWidth displayHeight : Nat)
    (operation : VP8Raster displayWidth displayHeight →
      Except Failure (VP8Raster displayWidth displayHeight))
    (outcome : Except Failure Unit) (reads writes : Set SamplePlace) : Prop :=
  Footprint VP8Raster.sample? operation outcome reads writes

end Salsify.Codec
