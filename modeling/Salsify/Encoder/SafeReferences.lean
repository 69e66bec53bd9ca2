import Salsify.Codec.TwoDStorage
import Salsify.Encoder.SafeRaster

namespace Salsify.Encoder

open Salsify.Codec (RasterPlane TwoDStorage edgeExtended bounded bounded_lt
  bounded_of_lt bounded_of_neg bounded_of_le macroblockDimension)
open Salsify.Net (Failure)
open Fallible (ok_bind bind_eq_ok Succeeds succeeds_foldlM_range)

/-! The copy of a reference with margins, of `encoder/safe_references.cc` and
`decoder/safe_raster.cc`. -/

/-- `Y()` of a `VP8Raster`, in whole macroblocks. -/
abbrev LumaPlane (displayWidth displayHeight : Nat) :=
  RasterPlane (16 * macroblockDimension displayWidth)
    (16 * macroblockDimension displayHeight)

/-- `safe_Y_`, in samples of the display and the margins. -/
abbrev SafeY (displayWidth displayHeight : Nat) :=
  TwoDStorage (displayWidth + marginWidth * 2) (displayHeight + marginWidth * 2)

section

variable {displayWidth displayHeight : Nat}

def originalRow (originalHeight nrow : Nat) : Nat :=
  if nrow < marginWidth then 0
  else if nrow ≥ marginWidth + originalHeight then originalHeight - 1
  else nrow - marginWidth

def copyRow (source : LumaPlane displayWidth displayHeight)
    (safeY : SafeY displayWidth displayHeight) (nrow row : Nat) :
    Except Failure (SafeY displayWidth displayHeight) := do
  let originalWidth := 16 * macroblockDimension displayWidth
  let dest ← safeY.pointer 0 nrow
  let first ← source.sample 0 row
  let safeY ← safeY.write dest (List.replicate marginWidth first)
  let dest ← safeY.pointer marginWidth nrow
  let src ← source.pointer 0 row
  let samples ← Storage.readRun TwoDStorage.outside source.storage src
    originalWidth
  let safeY ← safeY.write dest samples
  let dest ← safeY.pointer (marginWidth + originalWidth) nrow
  let last ← source.sample (originalWidth - 1) row
  safeY.write dest (List.replicate marginWidth last)

def copyRaster (source : LumaPlane displayWidth displayHeight)
    (safeY : SafeY displayWidth displayHeight) :
    Except Failure (SafeY displayWidth displayHeight) :=
  (List.range (displayHeight + marginWidth * 2)).foldlM (fun safeY nrow =>
    copyRow source safeY nrow
      (originalRow (16 * macroblockDimension displayHeight) nrow)) safeY

/-- `SafeReferences::load`, into a raster of the display dimensions that is new
or that the pool has kept. -/
def load (source : LumaPlane displayWidth displayHeight)
    (target : SafeY displayWidth displayHeight) :
    Except Failure (SafeY displayWidth displayHeight) :=
  copyRaster source target

/-- `SafeRaster::at` -/
def safeSample (safeY : SafeY displayWidth displayHeight) (column row : Int) :
    Except Failure UInt8 := do
  Net.require (0 ≤ marginWidth + column && 0 ≤ marginWidth + row)
    (.assertion
      "(int)MARGIN_WIDTH + column >= 0 and (int)MARGIN_WIDTH + row >= 0")
  safeY.sample (marginWidth + column).toNat (marginWidth + row).toNat

/-- Within the margins the copy has the samples of the edge extension. -/
def ExtendsEdges (source : LumaPlane displayWidth displayHeight)
    (loaded : SafeY displayWidth displayHeight) : Prop :=
  ∀ column row, Inside displayWidth column → Inside displayHeight row →
    safeSample loaded column row = edgeExtended source.toTwoDStorage column row

end

section Row

variable {width height : Nat} (source : RasterPlane width height)

def extendedRow (row : Nat) : List UInt8 :=
  List.replicate marginWidth (source.value 0 row) ++
    ((List.range width).map fun column => source.value column row) ++
    List.replicate marginWidth (source.value (width - 1) row)

theorem extendedRow_length (row : Nat) :
    (extendedRow source row).length = marginWidth + width + marginWidth := by
  unfold extendedRow
  rw [List.length_append, List.length_append, List.length_replicate,
    List.length_replicate, List.length_map, List.length_range]

theorem getElem?_extendedRow {column row : Nat}
    (hcolumn : column < marginWidth + width + marginWidth) :
    (extendedRow source row)[column]? = some (source.value
      (bounded ((column : Int) - marginWidth) width) row) := by
  unfold extendedRow
  by_cases hleft : column < marginWidth
  · rw [List.append_assoc, List.getElem?_append_left
      (by rwa [List.length_replicate]), List.getElem?_replicate, if_pos hleft,
      bounded_of_neg source.width_pos (by omega)]
  · obtain ⟨offset, rfl⟩ := Nat.exists_eq_add_of_le (Nat.le_of_not_lt hleft)
    have hoffset : ((marginWidth + offset : Nat) : Int) - marginWidth =
        offset := by omega
    rw [hoffset, List.append_assoc, List.getElem?_append_right
      (by rw [List.length_replicate]; omega), List.length_replicate,
      Nat.add_sub_cancel_left]
    by_cases hinside : offset < width
    · rw [List.getElem?_append_left
        (by rwa [List.length_map, List.length_range]), List.getElem?_map,
        List.getElem?_range hinside, bounded_of_lt hinside]
      rfl
    · have hright : offset - width < marginWidth := by omega
      have hle := Nat.le_of_not_lt hinside
      rw [List.getElem?_append_right
        (by rwa [List.length_map, List.length_range]), List.length_map,
        List.length_range, List.getElem?_replicate, if_pos hright,
        bounded_of_le hle]

end Row

section Copy

variable {displayWidth displayHeight : Nat}

theorem displayWidth_le (display : Nat) :
    display ≤ 16 * macroblockDimension display ∧
      16 * macroblockDimension display < display + 16 := by
  unfold macroblockDimension
  omega

theorem copyRow_eq (source : LumaPlane displayWidth displayHeight)
    (safeY : SafeY displayWidth displayHeight) {nrow row : Nat}
    (hproduct : (displayWidth + marginWidth * 2) *
      (displayHeight + marginWidth * 2) < 2 ^ 32)
    (hnrow : nrow < displayHeight + marginWidth * 2)
    (hrow : row < 16 * macroblockDimension displayHeight) :
    copyRow source safeY nrow row =
      safeY.write (nrow * (displayWidth + marginWidth * 2))
        (extendedRow source row) := by
  have hdisplay := displayWidth_le displayWidth
  have hmargin : marginWidth = 256 := rfl
  have hpointer : ∀ (plane : SafeY displayWidth displayHeight) column,
      column < displayWidth + marginWidth * 2 → plane.pointer column nrow =
        .ok (nrow * (displayWidth + marginWidth * 2) + column) := by
    intro plane column hcolumn
    rw [plane.pointer_eq_ok hcolumn hnrow, Nat.mod_eq_of_lt]
    exact (Grid.index_lt hcolumn hnrow).trans hproduct
  have hsamples : Storage.readRun TwoDStorage.outside source.storage
      (row * (16 * macroblockDimension displayWidth))
      (16 * macroblockDimension displayWidth) =
      .ok ((List.range (16 * macroblockDimension displayWidth)).map fun column =>
        source.value column row) := by
    refine Storage.readRun_eq_ok ?_ fun column hcolumn =>
      source.getElem?_storage hcolumn hrow
    rw [source.length_eq, ← Nat.succ_mul, Nat.mul_comm]
    exact Nat.mul_le_mul_left _ hrow
  unfold copyRow
  dsimp only
  rw [hpointer safeY 0 (by omega), ok_bind, Nat.add_zero,
    source.sample_eq source.width_pos hrow, ok_bind, extendedRow,
    ← TwoDStorage.write_append, ← TwoDStorage.write_append, bind_assoc]
  refine congrArg _ (funext fun next => ?_)
  rw [hpointer next marginWidth (by omega), ok_bind,
    source.pointer_eq source.width_pos hrow, ok_bind, Nat.add_zero, hsamples,
    ok_bind, List.length_replicate]
  refine congrArg _ (funext fun last => ?_)
  rw [hpointer last _ (by omega), ok_bind,
    source.sample_eq (Nat.sub_one_lt_of_lt source.width_pos) hrow, ok_bind,
    List.length_append, List.length_replicate, List.length_map,
    List.length_range]

def CopiedTo (source : LumaPlane displayWidth displayHeight) (rows : Nat)
    (safeY : SafeY displayWidth displayHeight) : Prop :=
  ∀ column row, column < displayWidth + marginWidth * 2 → row < rows →
    safeY.storage[row * (displayWidth + marginWidth * 2) + column]? =
      some (source.value
        (bounded ((column : Int) - marginWidth)
          (16 * macroblockDimension displayWidth))
        (bounded ((row : Int) - marginWidth)
          (16 * macroblockDimension displayHeight)))

theorem originalRow_eq {originalHeight nrow : Nat} (h : 0 < originalHeight) :
    originalRow originalHeight nrow =
      bounded ((nrow : Int) - marginWidth) originalHeight := by
  unfold originalRow bounded
  dsimp only
  split
  · split <;> split <;> omega
  · split <;> split <;> split <;> omega

theorem copiedTo_step {source : LumaPlane displayWidth displayHeight}
    {safeY : SafeY displayWidth displayHeight} {nrow : Nat}
    (hwhole : displayWidth = 16 * macroblockDimension displayWidth)
    (hproduct : (displayWidth + marginWidth * 2) *
      (displayHeight + marginWidth * 2) < 2 ^ 32)
    (hnrow : nrow < displayHeight + marginWidth * 2)
    (h : CopiedTo source nrow safeY) :
    Succeeds (copyRow source safeY nrow
      (originalRow (16 * macroblockDimension displayHeight) nrow))
      (CopiedTo source (nrow + 1)) := by
  have hrow : originalRow (16 * macroblockDimension displayHeight) nrow =
      bounded ((nrow : Int) - marginWidth)
        (16 * macroblockDimension displayHeight) :=
    originalRow_eq source.height_pos
  rw [hrow, copyRow_eq source safeY hproduct hnrow
    (bounded_lt source.height_pos)]
  have hlength : (extendedRow source (bounded ((nrow : Int) - marginWidth)
      (16 * macroblockDimension displayHeight))).length =
      displayWidth + marginWidth * 2 := by
    rw [extendedRow_length]
    omega
  have hfits : nrow * (displayWidth + marginWidth * 2) +
      (extendedRow source (bounded ((nrow : Int) - marginWidth)
        (16 * macroblockDimension displayHeight))).length ≤
      safeY.storage.length := by
    rw [hlength, safeY.storage_length, Nat.mod_eq_of_lt hproduct,
      ← Nat.succ_mul, Nat.mul_comm]
    exact Nat.mul_le_mul_left _ hnrow
  have hwrite : ∃ next, safeY.write (nrow * (displayWidth + marginWidth * 2))
      (extendedRow source (bounded ((nrow : Int) - marginWidth)
        (16 * macroblockDimension displayHeight))) = .ok next :=
    ⟨_, dif_pos hfits⟩
  obtain ⟨next, hnext⟩ := hwrite
  refine ⟨next, hnext, fun column row hcolumn hfinished => ?_⟩
  rw [(TwoDStorage.write_eq_ok_iff.mp hnext).2]
  rcases Nat.lt_succ_iff_lt_or_eq.mp hfinished with hlt | rfl
  · have hbefore := Grid.index_lt hcolumn hlt
    rw [Nat.mul_comm _ nrow] at hbefore
    rw [Storage.getElem?_overwrite_before hfits hbefore]
    exact h column row hcolumn hlt
  · rw [Storage.getElem?_overwrite_inside hfits (by rwa [hlength])]
    exact getElem?_extendedRow source (by omega)

theorem load_copiedTo (source : LumaPlane displayWidth displayHeight)
    (target : SafeY displayWidth displayHeight)
    (hwhole : displayWidth = 16 * macroblockDimension displayWidth)
    (hproduct : (displayWidth + marginWidth * 2) *
      (displayHeight + marginWidth * 2) < 2 ^ 32) :
    Succeeds (load source target)
      (CopiedTo source (displayHeight + marginWidth * 2)) :=
  succeeds_foldlM_range
    (fun _ _ hnrow hcopied => copiedTo_step hwhole hproduct hnrow hcopied)
    fun _ _ _ hrow => absurd hrow (Nat.not_lt_zero _)

theorem CopiedTo.extendsEdges {source : LumaPlane displayWidth displayHeight}
    {loaded : SafeY displayWidth displayHeight}
    (hproduct : (displayWidth + marginWidth * 2) *
      (displayHeight + marginWidth * 2) < 2 ^ 32)
    (h : CopiedTo source (displayHeight + marginWidth * 2) loaded) :
    ExtendsEdges source loaded := by
  intro column row hcolumn hrow
  unfold Inside at hcolumn hrow
  have hmargin : marginWidth = 256 := rfl
  have hlow : (decide (0 ≤ (marginWidth : Int) + column) &&
      decide (0 ≤ (marginWidth : Int) + row)) = true := by
    rw [Bool.and_eq_true, decide_eq_true_eq, decide_eq_true_eq]
    omega
  have hcolumnAt : (((marginWidth : Int) + column).toNat : Int) - marginWidth =
      column := by omega
  have hrowAt : (((marginWidth : Int) + row).toNat : Int) - marginWidth =
      row := by omega
  have hcolumnLt : ((marginWidth : Int) + column).toNat <
      displayWidth + marginWidth * 2 := by omega
  have hrowLt : ((marginWidth : Int) + row).toNat <
      displayHeight + marginWidth * 2 := by omega
  have hread := h _ _ hcolumnLt hrowLt
  rw [hcolumnAt, hrowAt] at hread
  rw [safeSample, hlow, Net.require_true, ok_bind, TwoDStorage.sample,
    loaded.pointer_eq_ok hcolumnLt hrowLt, ok_bind, Nat.mod_eq_of_lt
      ((Grid.index_lt hcolumnLt hrowLt).trans hproduct),
    Storage.read_eq_ok hread, source.edgeExtended_eq]

theorem fits_of_copyRow {source : LumaPlane displayWidth displayHeight}
    {safeY next : SafeY displayWidth displayHeight} {nrow row : Nat}
    (h : copyRow source safeY nrow row = .ok next) :
    nrow * (displayWidth + marginWidth * 2) % 2 ^ 32 + marginWidth ≤
        (displayWidth + marginWidth * 2) * (displayHeight + marginWidth * 2) %
          2 ^ 32 ∧
      (nrow * (displayWidth + marginWidth * 2) +
        (marginWidth + 16 * macroblockDimension displayWidth)) % 2 ^ 32 +
          marginWidth ≤
        (displayWidth + marginWidth * 2) * (displayHeight + marginWidth * 2) %
          2 ^ 32 := by
  unfold copyRow at h
  obtain ⟨dest, hdest, h⟩ := bind_eq_ok h
  obtain ⟨first, -, h⟩ := bind_eq_ok h
  obtain ⟨left, hleft, h⟩ := bind_eq_ok h
  obtain ⟨_, -, h⟩ := bind_eq_ok h
  obtain ⟨_, -, h⟩ := bind_eq_ok h
  obtain ⟨samples, -, h⟩ := bind_eq_ok h
  obtain ⟨middle, -, h⟩ := bind_eq_ok h
  obtain ⟨rightDest, hrightDest, h⟩ := bind_eq_ok h
  obtain ⟨last, -, hright⟩ := bind_eq_ok h
  have hleftFits := (TwoDStorage.write_eq_ok_iff.mp hleft).1
  have hrightFits := (TwoDStorage.write_eq_ok_iff.mp hright).1
  rw [List.length_replicate, TwoDStorage.eq_of_pointer_eq_ok hdest,
    safeY.storage_length, Nat.add_zero] at hleftFits
  rw [List.length_replicate, TwoDStorage.eq_of_pointer_eq_ok hrightDest,
    middle.storage_length] at hrightFits
  exact ⟨hleftFits, hrightFits⟩

/-- A buffer of which the 32-bit product has lost a digit is too small: some
row begins behind its end. -/
theorem product_lt_of_load {source : LumaPlane displayWidth displayHeight}
    {target loaded : SafeY displayWidth displayHeight}
    (h : load source target = .ok loaded) :
    (displayWidth + marginWidth * 2) * (displayHeight + marginWidth * 2) <
      2 ^ 32 := by
  have hmargin : marginWidth = 256 := rfl
  have hwidth : displayWidth + marginWidth * 2 ≤ 66048 := by
    have hle := displayWidth_le displayWidth
    have hlt := source.width_lt
    omega
  have hheight : displayHeight + marginWidth * 2 ≤ 66048 := by
    have hle := displayWidth_le displayHeight
    have hlt := source.height_lt
    omega
  have hpositive : 0 < displayWidth + marginWidth * 2 := by omega
  have hproduct := Nat.mul_le_mul hwidth hheight
  by_contra hwraps
  have hmod := Nat.mod_add_div' (2 ^ 32 - 1) (displayWidth + marginWidth * 2)
  have hrest := Nat.mod_lt (2 ^ 32 - 1) hpositive
  have hnrow : (2 ^ 32 - 1) / (displayWidth + marginWidth * 2) <
      displayHeight + marginWidth * 2 := by
    refine Nat.div_lt_of_lt_mul ?_
    omega
  obtain ⟨state, next, hstep⟩ := Fallible.step_of_foldlM_range h hnrow
  have hfits := (fits_of_copyRow hstep).1
  generalize (2 ^ 32 - 1) / (displayWidth + marginWidth * 2) *
    (displayWidth + marginWidth * 2) = start at *
  generalize (displayWidth + marginWidth * 2) *
    (displayHeight + marginWidth * 2) = product at *
  omega

/-- The last write of the last row ends behind the buffer unless the rows of the
original are as wide as the display. -/
theorem whole_of_load {source : LumaPlane displayWidth displayHeight}
    {target loaded : SafeY displayWidth displayHeight}
    (h : load source target = .ok loaded) :
    displayWidth % 16 = 0 := by
  have hproduct := product_lt_of_load h
  have hdisplay := displayWidth_le displayWidth
  have hmargin : marginWidth = 256 := rfl
  have hlast : displayHeight + 511 < displayHeight + marginWidth * 2 := by omega
  obtain ⟨state, next, hstep⟩ := Fallible.step_of_foldlM_range h hlast
  have hfits := (fits_of_copyRow hstep).2
  have hrows : (displayWidth + marginWidth * 2) *
      (displayHeight + marginWidth * 2) =
      (displayHeight + 511) * (displayWidth + marginWidth * 2) +
        (displayWidth + marginWidth * 2) := by
    rw [← Nat.succ_mul, Nat.mul_comm]
    rfl
  rw [hrows] at hfits hproduct
  rw [Nat.mod_eq_of_lt hproduct, Nat.mod_eq_of_lt (by omega)] at hfits
  omega

/-- Loading stays inside of the buffer and gives the edge extension exactly for
displays in whole macroblocks across, when the size of the buffer has 32
bits. -/
theorem load_extendsEdges_iff (source : LumaPlane displayWidth displayHeight)
    (target : SafeY displayWidth displayHeight) :
    (∃ loaded, load source target = .ok loaded ∧ ExtendsEdges source loaded) ↔
      displayWidth % 16 = 0 ∧
        (displayWidth + marginWidth * 2) * (displayHeight + marginWidth * 2) <
          2 ^ 32 := by
  constructor
  · rintro ⟨loaded, hloaded, -⟩
    exact ⟨whole_of_load hloaded, product_lt_of_load hloaded⟩
  · rintro ⟨hwhole, hproduct⟩
    have hwidth : displayWidth = 16 * macroblockDimension displayWidth := by
      unfold macroblockDimension
      omega
    exact (load_copiedTo source target hwidth hproduct).mono
      fun loaded hcopied => hcopied.extendsEdges hproduct

end Copy

def blank {width height : Nat} (hwidth : 0 < width) (hheight : 0 < height) :
    TwoDStorage width height where
  storage := List.replicate (width * height % 2 ^ 32) 0
  width_pos := hwidth
  height_pos := hheight
  storage_length := List.length_replicate

def blackPlane : LumaPlane 17 16 where
  toTwoDStorage := blank (by decide) (by decide)
  width_lt := by decide
  height_lt := by decide

theorem load_seventeen_outside :
    ¬ ∃ loaded, load blackPlane (blank (by decide) (by decide)) = .ok loaded ∧
      ExtendsEdges blackPlane loaded := by
  rintro ⟨loaded, hloaded, -⟩
  exact absurd (whole_of_load hloaded) (by decide)

section Reference

variable {displayWidth displayHeight : Nat}

def rasterOf (safeY : SafeY displayWidth displayHeight) :
    SafeRaster displayWidth displayHeight where
  safeY := fun column row =>
    safeY.storage.getD (row * (displayWidth + marginWidth * 2) + column) 0

theorem safeSample_eq (safeY : SafeY displayWidth displayHeight)
    (hproduct : (displayWidth + marginWidth * 2) *
      (displayHeight + marginWidth * 2) < 2 ^ 32) (column row : Int) :
    safeSample safeY column row = (rasterOf safeY).sample column row := by
  unfold safeSample SafeRaster.sample
  refine congrArg _ (funext fun _ => ?_)
  unfold TwoDStorage.sample Grid.get?
  split
  · next value hvalue =>
      split at hvalue
      · next hplace =>
          cases hvalue
          have hindex := Grid.index_lt hplace.1 hplace.2
          have hinside : ((marginWidth + row).toNat *
              (displayWidth + marginWidth * 2) +
              (marginWidth + column).toNat) < safeY.storage.length := by
            rw [safeY.storage_length, Nat.mod_eq_of_lt hproduct]
            exact hindex
          rw [safeY.pointer_eq_ok hplace.1 hplace.2, ok_bind,
            Nat.mod_eq_of_lt (hindex.trans hproduct),
            Storage.read_eq_ok (List.getElem?_eq_getElem hinside),
            List.getElem_eq_getD 0]
          rfl
      · cases hvalue
  · next hvalue =>
      split at hvalue
      · cases hvalue
      · next hplace =>
          have houtside : (decide ((marginWidth + column).toNat <
              displayWidth + marginWidth * 2) &&
              decide ((marginWidth + row).toNat <
                displayHeight + marginWidth * 2)) = false := by
            rw [Bool.and_eq_false_iff, decide_eq_false_iff_not,
              decide_eq_false_iff_not]
            exact not_and_or.mp hplace
          rw [TwoDStorage.pointer, houtside]
          rfl

/-- A reference that has been loaded without harm is predicted from as the edge
extension of its source. -/
theorem rasterOf_load {source : LumaPlane displayWidth displayHeight}
    {target loaded : SafeY displayWidth displayHeight}
    (h : load source target = .ok loaded) {column row : Int}
    (hcolumn : Inside displayWidth column) (hrow : Inside displayHeight row) :
    (rasterOf loaded).sample column row =
      edgeExtended source.toTwoDStorage column row := by
  have hproduct := product_lt_of_load h
  have hwhole := whole_of_load h
  have hwidth : displayWidth = 16 * macroblockDimension displayWidth := by
    unfold macroblockDimension
    omega
  obtain ⟨other, hother, hcopied⟩ :=
    load_copiedTo source target hwidth hproduct
  obtain rfl : loaded = other := Except.ok.inj (h.symm.trans hother)
  rw [← safeSample_eq loaded hproduct]
  exact hcopied.extendsEdges hproduct column row hcolumn hrow

end Reference

end Salsify.Encoder
