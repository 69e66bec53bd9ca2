import Mathlib.Data.Fin.VecNotation
import Salsify.Codec.MotionVector
import Salsify.Codec.Frame

namespace Salsify.Encoder

open Salsify.Codec (MotionVector SafeArray macroblockDimension)
open Salsify.Net (Failure)
open Fallible (ok_bind Succeeds succeeds_pure succeeds_mapM ok_of_mapM_eq_ok)

/-! The reference of `decoder/safe_raster.cc`, whose luma plane has margins, and
the prediction of a macroblock from it. -/

def marginWidth : Nat := 256

structure SafeRaster (displayWidth displayHeight : Nat) where
  safeY : Grid UInt8 (displayWidth + marginWidth * 2)
    (displayHeight + marginWidth * 2)

namespace SafeRaster

variable {displayWidth displayHeight : Nat}

/-- `at( column, row )`, which may be in the margins. -/
def sample (reference : SafeRaster displayWidth displayHeight)
    (column row : Int) : Except Failure UInt8 := do
  Net.require (0 ≤ marginWidth + column && 0 ≤ marginWidth + row)
    (.assertion
      "(int)MARGIN_WIDTH + column >= 0 and (int)MARGIN_WIDTH + row >= 0")
  match reference.safeY.get?
      ((marginWidth + column).toNat, (marginWidth + row).toNat) with
  | some value => return value
  | none => .error (.assertion "column < width_ and row < height_")

end SafeRaster

def sixtapFilters : SafeArray (List Int) 8 :=
  ![[0, 0, 128, 0, 0, 0],
    [0, -6, 123, 12, -1, 0],
    [2, -11, 108, 36, -8, 1],
    [0, -9, 93, 50, -6, 0],
    [3, -16, 77, 77, -16, 3],
    [0, -6, 50, 93, -9, 0],
    [1, -8, 36, 108, -11, 2],
    [0, -1, 12, 123, -6, 0]]

def clamp255 (value : Int) : UInt8 := UInt8.ofNat (min value 255).toNat

def sixtap (filter : List Int) (samples : List UInt8) : UInt8 :=
  clamp255 (((List.zipWith (fun (tap : Int) (sample : UInt8) =>
    (sample.toNat : Int) * tap) filter samples).sum + 64) / 128)

/-- The eighth of a sample that a component points between. -/
def fraction (component : Int) : Fin 8 :=
  ⟨(component % 8).toNat, by omega⟩

section Predict

variable {displayWidth displayHeight : Nat}

def predictRow (reference : SafeRaster displayWidth displayHeight) (mx : Fin 8)
    (column row : Int) : Except Failure UInt8 :=
  if mx = 0 then reference.sample column row
  else do
    let samples ← (List.range 6).mapM fun (tap : Nat) =>
      reference.sample (column + (tap : Int) - 2) row
    return sixtap (sixtapFilters mx) samples

/-- The second pass, over what the first gives in a column. -/
def predictSample (reference : SafeRaster displayWidth displayHeight)
    (mx my : Fin 8) (column row : Int) : Except Failure UInt8 :=
  if my = 0 then predictRow reference mx column row
  else do
    let samples ← (List.range 6).mapM fun (tap : Nat) =>
      predictRow reference mx column (row + (tap : Int) - 2)
    return sixtap (sixtapFilters my) samples

/-- `inter_predict` of the luma block of the macroblock at a place, sample by
sample. -/
def interPredict (reference : SafeRaster displayWidth displayHeight)
    (column row : Nat) (mv : MotionVector) : Except Failure (List UInt8) :=
  (Grid.places 16 16).mapM fun place =>
    predictSample reference (fraction mv.x) (fraction mv.y)
      (column * 16 + mv.x / 8 + place.1) (row * 16 + mv.y / 8 + place.2)

end Predict

variable {displayWidth displayHeight : Nat}

def Inside (display : Nat) (position : Int) : Prop :=
  -256 ≤ position ∧ position < display + 256

theorem SafeRaster.sample_succeeds {P : UInt8 → Prop}
    (reference : SafeRaster displayWidth displayHeight)
    (hsamples : ∀ column row, P (reference.safeY column row))
    {column row : Int} (hcolumn : Inside displayWidth column)
    (hrow : Inside displayHeight row) :
    Succeeds (reference.sample column row) P := by
  unfold Inside at hcolumn hrow
  have hplace : (marginWidth + column).toNat < displayWidth + marginWidth * 2 ∧
      (marginWidth + row).toNat < displayHeight + marginWidth * 2 := by
    unfold marginWidth
    omega
  have hlow : (decide (0 ≤ (marginWidth : Int) + column) &&
      decide (0 ≤ (marginWidth : Int) + row)) = true := by
    unfold marginWidth
    rw [Bool.and_eq_true, decide_eq_true_eq, decide_eq_true_eq]
    omega
  refine ⟨reference.safeY ⟨_, hplace.1⟩ ⟨_, hplace.2⟩, ?_, hsamples _ _⟩
  rw [sample, hlow, Net.require_true, ok_bind,
    reference.safeY.get?_of_lt hplace.1 hplace.2]
  rfl

theorem SafeRaster.inside_of_sample
    (reference : SafeRaster displayWidth displayHeight) {column row : Int}
    {value : UInt8} (h : reference.sample column row = .ok value) :
    Inside displayWidth column ∧ Inside displayHeight row := by
  obtain ⟨⟨⟩, hlow, hread⟩ := Fallible.bind_eq_ok h
  have hlow := Net.require_eq_ok.mp hlow
  rw [Bool.and_eq_true, decide_eq_true_eq, decide_eq_true_eq] at hlow
  unfold Grid.get? at hread
  split at hread
  · next found hfound =>
      split at hfound
      · next hplace =>
          unfold marginWidth at hlow hplace
          unfold Inside
          dsimp only at hplace
          omega
      · cases hfound
  · cases hread

def WindowInside (display : Nat) (position : Int) : Prop :=
  Inside display (position - 2) ∧ Inside display (position + 3)

theorem WindowInside.tap {display : Nat} {position : Int}
    (h : WindowInside display position) {tap : Nat} (htap : tap < 6) :
    Inside display (position + tap - 2) := by
  unfold WindowInside Inside at *
  omega

theorem WindowInside.inside {display : Nat} {position : Int}
    (h : WindowInside display position) : Inside display position := by
  unfold WindowInside Inside at *
  omega

structure Kept (reference : SafeRaster displayWidth displayHeight)
    (P : UInt8 → Prop) : Prop where
  samples : ∀ column row, P (reference.safeY column row)
  filtered : ∀ (m : Fin 8) (samples : List UInt8), samples.length = 6 →
    (∀ sample ∈ samples, P sample) → P (sixtap (sixtapFilters m) samples)

section Predicted

variable {reference : SafeRaster displayWidth displayHeight}
  {P : UInt8 → Prop} (h : Kept reference P)

include h

theorem Kept.predictRow_succeeds (mx : Fin 8) {column row : Int}
    (hcolumn : WindowInside displayWidth column)
    (hrow : Inside displayHeight row) :
    Succeeds (predictRow reference mx column row) P := by
  unfold predictRow
  split
  · exact reference.sample_succeeds h.samples hcolumn.inside hrow
  · apply (succeeds_mapM fun tap htap => reference.sample_succeeds h.samples
      (hcolumn.tap (List.mem_range.mp htap)) hrow).bind
    intro samples hsamples
    exact succeeds_pure (h.filtered mx samples hsamples.1 hsamples.2)

theorem Kept.predictSample_succeeds (mx my : Fin 8) {column row : Int}
    (hcolumn : WindowInside displayWidth column)
    (hrow : WindowInside displayHeight row) :
    Succeeds (predictSample reference mx my column row) P := by
  unfold predictSample
  split
  · exact h.predictRow_succeeds mx hcolumn hrow.inside
  · apply (succeeds_mapM fun tap htap => h.predictRow_succeeds mx hcolumn
      (hrow.tap (List.mem_range.mp htap))).bind
    intro samples hsamples
    exact succeeds_pure (h.filtered my samples hsamples.1 hsamples.2)

end Predicted

/-- The windows of the sixteen samples that a component points to, for the
macroblock at a place. -/
def BlockInside (display place : Nat) (component : Int) : Prop :=
  -254 ≤ place * 16 + component / 8 ∧
    place * 16 + component / 8 + 18 < display + 256

theorem BlockInside.window {display place : Nat} {component : Int}
    (h : BlockInside display place component) {offset : Nat}
    (hoffset : offset < 16) :
    WindowInside display (place * 16 + component / 8 + offset) := by
  unfold BlockInside at h
  unfold WindowInside Inside
  omega

theorem Kept.interPredict_succeeds
    {reference : SafeRaster displayWidth displayHeight} {P : UInt8 → Prop}
    (h : Kept reference P) {column row : Nat} {mv : MotionVector}
    (hcolumn : BlockInside displayWidth column mv.x)
    (hrow : BlockInside displayHeight row mv.y) :
    Succeeds (interPredict reference column row mv) fun prediction =>
      prediction.length = 256 ∧ ∀ sample ∈ prediction, P sample := by
  have hsamples : ∀ place ∈ Grid.places 16 16, Succeeds (predictSample
      reference (fraction mv.x) (fraction mv.y)
      (column * 16 + mv.x / 8 + (place.1 : Nat))
      (row * 16 + mv.y / 8 + (place.2 : Nat))) P := by
    intro place hplace
    obtain ⟨hleft, htop⟩ := Grid.mem_places.mp hplace
    exact h.predictSample_succeeds _ _ (hcolumn.window hleft)
      (hrow.window htop)
  apply (succeeds_mapM hsamples).mono
  intro prediction hprediction
  rw [Grid.places_eq_map, List.length_map, List.length_range] at hprediction
  exact hprediction

theorem inside_of_predictRow
    {reference : SafeRaster displayWidth displayHeight} {mx : Fin 8}
    {column row : Int} {value : UInt8}
    (h : predictRow reference mx column row = .ok value) :
    Inside displayWidth column ∧ Inside displayHeight row := by
  unfold predictRow at h
  split at h
  · exact reference.inside_of_sample h
  · obtain ⟨samples, hsamples, -⟩ := Fallible.bind_eq_ok h
    obtain ⟨middle, hmiddle⟩ := ok_of_mapM_eq_ok hsamples
      (List.mem_range.mpr (by decide : 2 < 6))
    have hinside := reference.inside_of_sample hmiddle
    exact ⟨by simpa using hinside.1, hinside.2⟩

theorem inside_of_predictSample
    {reference : SafeRaster displayWidth displayHeight} {mx my : Fin 8}
    {column row : Int} {value : UInt8}
    (h : predictSample reference mx my column row = .ok value) :
    Inside displayWidth column ∧ Inside displayHeight row := by
  unfold predictSample at h
  split at h
  · exact inside_of_predictRow h
  · obtain ⟨samples, hsamples, -⟩ := Fallible.bind_eq_ok h
    obtain ⟨middle, hmiddle⟩ := ok_of_mapM_eq_ok hsamples
      (List.mem_range.mpr (by decide : 2 < 6))
    have hinside := inside_of_predictRow hmiddle
    exact ⟨hinside.1, by simpa using hinside.2⟩

theorem inside_of_interPredict
    {reference : SafeRaster displayWidth displayHeight} {column row : Nat}
    {mv : MotionVector} {prediction : List UInt8}
    (h : interPredict reference column row mv = .ok prediction) :
    Inside displayWidth (column * 16 + mv.x / 8) ∧
      Inside displayHeight (row * 16 + mv.y / 8) := by
  obtain ⟨corner, hcorner⟩ := ok_of_mapM_eq_ok h
    (Grid.mem_places.mpr ⟨by decide, by decide⟩ : (0, 0) ∈ Grid.places 16 16)
  have hinside := inside_of_predictSample hcorner
  exact ⟨by simpa using hinside.1, by simpa using hinside.2⟩

end Salsify.Encoder
