import Salsify.Codec.MacroblockPlaces
import Salsify.Codec.SampleReconstruction

namespace Salsify.Codec

open Salsify.Net (Failure)
open Salsify.Encoder (fraction)
open Fallible (ok_bind bind_eq_ok)

/-! What reconstruction reads and writes: each macroblock is made from those
that come before it, and nothing else of the raster that it is made in. -/

section Reconstruct

variable {displayWidth displayHeight : Nat} {Header : Type}

def Component.macroblockSize : Component → Nat
  | .Y => 16
  | .U | .V => 8

theorem Component.extent_eq (component : Component) (display : Nat) :
    component.extent display =
      component.macroblockSize * macroblockDimension display := by
  cases component with
  | Y => rfl
  | U =>
      rw [extent, macroblockSize]
      omega
  | V =>
      rw [extent, macroblockSize]
      omega

theorem Component.extent_whole (component : Component) (display : Nat) :
    component.extent display % 4 = 0 := by
  rw [component.extent_eq]
  cases component with
  | Y | U | V =>
      rw [macroblockSize]
      omega

def macroblockOf (place : SamplePlace) : Nat × Nat :=
  (place.2.1 / place.1.macroblockSize, place.2.2 / place.1.macroblockSize)

def decodedBefore (displayWidth : Nat) (place : Nat × Nat) : Set SamplePlace :=
  {sample | Grid.Before (macroblockOf sample) place ∧
    (macroblockOf sample).1 < macroblockDimension displayWidth}

namespace Macroblock

variable (mb : Macroblock Header)

def Within (displayWidth displayHeight : Nat) : Prop :=
  mb.column < macroblockDimension displayWidth ∧
    mb.row < macroblockDimension displayHeight

theorem block_component (component : Component) :
    (mb.block component).component = component := by
  cases component <;> rfl

theorem block_size (component : Component) :
    (mb.block component).size = component.macroblockSize := by
  cases component <;> rfl

theorem block_place (component : Component) :
    (mb.block component).column = mb.column ∧
      (mb.block component).row = mb.row := by
  cases component <;> exact ⟨rfl, rfl⟩

variable {mb}

theorem block_fits (h : mb.Within displayWidth displayHeight)
    (component : Component) :
    (mb.block component).Fits displayWidth displayHeight := by
  obtain ⟨hcolumn, hrow⟩ := h
  obtain ⟨hcolumnOf, hrowOf⟩ := mb.block_place component
  constructor
  · rw [RasterBlock.left, mb.block_size, mb.block_component, hcolumnOf,
      component.extent_eq, ← Nat.mul_succ]
    exact Nat.mul_le_mul_left _ hcolumn
  · rw [RasterBlock.top, mb.block_size, mb.block_component, hrowOf,
      component.extent_eq, ← Nat.mul_succ]
    exact Nat.mul_le_mul_left _ hrow

theorem ySubblock_fits (h : mb.Within displayWidth displayHeight)
    (column row : Fin 4) :
    (mb.ySubblock column row).Fits displayWidth displayHeight := by
  obtain ⟨hcolumn, hrow⟩ := h
  constructor
  · change 4 * (4 * mb.column + column) + 4 ≤
      16 * macroblockDimension displayWidth
    omega
  · change 4 * (4 * mb.row + row) + 4 ≤
      16 * macroblockDimension displayHeight
    omega

theorem chromaSubblock_fits (h : mb.Within displayWidth displayHeight)
    {component : Component} (hchroma : component ≠ .Y) (column row : Fin 2) :
    (mb.chromaSubblock component column row).Fits displayWidth
      displayHeight := by
  obtain ⟨hcolumn, hrow⟩ := h
  have hsize : component.macroblockSize = 8 := by
    cases component with
    | Y => exact absurd rfl hchroma
    | U => rfl
    | V => rfl
  constructor
  · change 4 * (2 * mb.column + column) + 4 ≤ component.extent displayWidth
    rw [component.extent_eq, hsize]
    omega
  · change 4 * (2 * mb.row + row) + 4 ≤ component.extent displayHeight
    rw [component.extent_eq, hsize]
    omega

theorem block_predictedFrom (h : mb.Within displayWidth displayHeight)
    {component : Component} {known : Set SamplePlace}
    (hknown : decodedBefore displayWidth mb.place ⊆ known) :
    (mb.block component).PredictedFrom displayWidth known := by
  obtain ⟨hcolumn, hrow⟩ := h
  have hbefore : ∀ x y : Nat,
      (Grid.Before (macroblockOf (component, x, y)) mb.place ∧
        x / component.macroblockSize < macroblockDimension displayWidth) →
      ((mb.block component).component, x, y) ∈ known := by
    intro x y hplace
    rw [mb.block_component]
    exact hknown hplace
  cases component with
  | Y | U | V =>
      constructor
      · intro hpositive i hi
        apply hbefore
        simp only [Grid.Before, macroblockOf, Component.macroblockSize, place,
          RasterBlock.left, RasterBlock.top, block] at hpositive hi ⊢
        omega
      · intro hpositive i hi
        apply hbefore
        simp only [Grid.Before, macroblockOf, Component.macroblockSize, place,
          RasterBlock.left, RasterBlock.top, block] at hpositive hi ⊢
        omega
      · intro hpositive hpositiveRow
        apply hbefore
        simp only [Grid.Before, macroblockOf, Component.macroblockSize, place,
          RasterBlock.left, RasterBlock.top, block] at hpositive hpositiveRow ⊢
        omega
      · intro hsize
        cases hsize
      · intro hsize
        cases hsize

/-- Subblocks are predicted from those before them in their macroblock, and
from macroblocks before theirs. -/
theorem ySubblock_predictedFrom (h : mb.Within displayWidth displayHeight)
    {column row : Fin 4} {known : Set SamplePlace}
    (hknown : decodedBefore displayWidth mb.place ⊆ known)
    (hearlier : ∀ otherColumn otherRow : Fin 4,
      otherRow.val * 4 + otherColumn < row.val * 4 + column →
        (mb.ySubblock otherColumn otherRow).places ⊆ known) :
    (mb.ySubblock column row).PredictedFrom displayWidth known := by
  obtain ⟨hcolumn, hrow⟩ := h
  have hcases : ∀ x y : Nat, x / 16 < macroblockDimension displayWidth →
      Grid.Before (x / 16, y / 16) (mb.column, mb.row) ∨
        (x / 16 = mb.column ∧ y / 16 = mb.row ∧
          y % 16 / 4 * 4 + x % 16 / 4 < row.val * 4 + column) →
      (Component.Y, x, y) ∈ known := by
    rintro x y hx (hbefore | ⟨hxOf, hyOf, hlt⟩)
    · exact hknown ⟨hbefore, hx⟩
    · refine hearlier ⟨x % 16 / 4, by omega⟩ ⟨y % 16 / 4, by omega⟩ hlt ?_
      refine ⟨rfl, ⟨?_, ?_⟩, ?_, ?_⟩
      all_goals
        simp only [RasterBlock.left, RasterBlock.top]
        omega
  constructor
  · intro hpositive i hi
    simp only [RasterBlock.left, RasterBlock.top, Grid.Before] at *
    exact hcases _ _ (by omega) (by omega)
  · intro hpositive i hi
    simp only [RasterBlock.left, RasterBlock.top, Grid.Before] at *
    exact hcases _ _ (by omega) (by omega)
  · intro hpositive hpositiveRow
    simp only [RasterBlock.left, RasterBlock.top, Grid.Before] at *
    exact hcases _ _ (by omega) (by omega)
  · intro _ hpositiveRow x hx
    have hextent : Component.Y.extent displayWidth =
      16 * macroblockDimension displayWidth := rfl
    simp only [RasterBlock.rowAboveMacroblock, Grid.Before] at *
    exact hcases _ _ (by omega) (by omega)
  · intro _ hinside hright i hi
    simp only [RasterBlock.left, RasterBlock.top, Grid.Before] at *
    exact hcases _ _ (by omega) (by omega)

theorem mem_block_places {component : Component} {sample : SamplePlace} :
    sample ∈ (mb.block component).places ↔
      sample.1 = component ∧ macroblockOf sample = mb.place := by
  obtain ⟨sampleComponent, x, y⟩ := sample
  rw [macroblockOf, Prod.ext_iff]
  constructor
  · rintro ⟨hcomponent, hx, hy⟩
    rw [mb.block_component] at hcomponent
    dsimp only at hcomponent
    subst hcomponent
    refine ⟨rfl, ?_⟩
    cases sampleComponent with
    | Y | U | V =>
        simp only [RasterBlock.left, RasterBlock.top, block, place,
          Component.macroblockSize] at hx hy ⊢
        omega
  · rintro ⟨hcomponent, hx, hy⟩
    dsimp only at hcomponent
    subst hcomponent
    refine ⟨(mb.block_component _).symm, ?_⟩
    cases sampleComponent with
    | Y | U | V =>
        simp only [RasterBlock.left, RasterBlock.top, block, place,
          Component.macroblockSize] at hx hy ⊢
        omega

theorem ySubblock_subset (column row : Fin 4) :
    (mb.ySubblock column row).places ⊆ (mb.block .Y).places := by
  rintro ⟨component, x, y⟩ ⟨hcomponent, hx, hy⟩
  dsimp only at hcomponent
  subst hcomponent
  rw [mem_block_places, macroblockOf, Prod.ext_iff]
  refine ⟨rfl, ?_⟩
  simp only [RasterBlock.left, RasterBlock.top, place,
    Component.macroblockSize] at hx hy ⊢
  omega

theorem exists_ySubblock {sample : SamplePlace}
    (h : sample ∈ (mb.block .Y).places) :
    ∃ item ∈ subblocks, sample ∈ (mb.ySubblock item.1 item.2).places := by
  obtain ⟨component, x, y⟩ := sample
  rw [mem_block_places, macroblockOf, Prod.ext_iff] at h
  obtain ⟨hcomponent, hx, hy⟩ := h
  dsimp only at hcomponent
  subst hcomponent
  simp only [place, Component.macroblockSize] at hx hy
  have hall : ∀ item : Fin 4 × Fin 4, item ∈ subblocks := by decide
  refine ⟨(⟨x % 16 / 4, by omega⟩, ⟨y % 16 / 4, by omega⟩), hall _, rfl, ?_⟩
  simp only [RasterBlock.left, RasterBlock.top]
  omega

theorem chromaSubblock_subset {component : Component} (hchroma : component ≠ .Y)
    (column row : Fin 2) :
    (mb.chromaSubblock component column row).places ⊆
      (mb.block component).places := by
  rintro ⟨sampleComponent, x, y⟩ ⟨hcomponent, hx, hy⟩
  dsimp only at hcomponent
  subst hcomponent
  rw [mem_block_places, macroblockOf, Prod.ext_iff]
  refine ⟨rfl, ?_⟩
  cases sampleComponent with
  | Y => exact absurd rfl hchroma
  | U | V =>
      simp only [RasterBlock.left, RasterBlock.top, place,
        Component.macroblockSize] at hx hy ⊢
      omega

theorem exists_chromaSubblock {component : Component}
    (hchroma : component ≠ .Y) {sample : SamplePlace}
    (h : sample ∈ (mb.block component).places) :
    ∃ item ∈ chromaBlocks,
      sample ∈ (mb.chromaSubblock component item.1 item.2).places := by
  obtain ⟨sampleComponent, x, y⟩ := sample
  rw [mem_block_places, macroblockOf, Prod.ext_iff] at h
  obtain ⟨hcomponent, hx, hy⟩ := h
  dsimp only at hcomponent
  subst hcomponent
  have hall : ∀ item : Fin 2 × Fin 2, item ∈ chromaBlocks := by decide
  refine ⟨(⟨x % 8 / 4, by omega⟩, ⟨y % 8 / 4, by omega⟩), hall _, rfl, ?_⟩
  cases sampleComponent with
  | Y => exact absurd rfl hchroma
  | U | V =>
      simp only [RasterBlock.left, RasterBlock.top, place,
        Component.macroblockSize] at hx hy ⊢
      omega

end Macroblock

theorem RasterBlock.interPredict_footprint {block : RasterBlock}
    (hfits : block.Fits displayWidth displayHeight) (hsize : 0 < block.size)
    (mv : MotionVector) (reference : VP8Raster displayWidth displayHeight)
    (reads : Set SamplePlace) :
    Reconstructs displayWidth displayHeight (block.interPredict mv reference)
      (.ok ()) reads block.places := by
  let sourceColumn := sourcePosition block.size block.column mv.x
  let sourceRow := sourcePosition block.size block.row mv.y
  let plane := reference.plane block.component
  let value := predicted (fraction mv.x) (fraction mv.y) fun column row =>
    plane.value
      (bounded (sourceColumn - 2 + column)
        (block.component.extent displayWidth))
      (bounded (sourceRow - 2 + row) (block.component.extent displayHeight))
  refine footprint (fun _ => value) (fun raster => ?_)
    fun _ _ _ _ _ _ _ => rfl
  refine update_painted hfits ?_
  have hpredicted : Codec.interPredict block.column block.row mv
      plane.toTwoDStorage (block.range hfits raster) =
      TwoDStorage.writeRows (block.component.extent displayWidth)
        (blockRows block.size block.size value)
        (block.range hfits raster).start
        (block.range hfits raster).master.toTwoDStorage := by
    rw [interPredict_eq_edgeExtended hsize block.column block.row mv plane
      (block.range hfits raster) rfl]
    exact safeInterPredict_eq (fun column row _ _ =>
      plane.edgeExtended_eq (sourceColumn - 2 + column) (sourceRow - 2 + row))
      (block.range hfits raster)
  obtain ⟨next, hnext⟩ := (block.range hfits raster).writeRows_succeeds value
  refine ⟨next, hpredicted.trans hnext, ?_⟩
  exact (block.range hfits raster).filled_of_writeRows value hnext

namespace Macroblock

variable {mb : Macroblock Header} {known : Set SamplePlace}

theorem predictChroma_footprint (h : mb.Within displayWidth displayHeight)
    (hknown : decodedBefore displayWidth mb.place ⊆ known)
    (component : Component) :
    Reconstructs displayWidth displayHeight
      (mb.predictChroma component) mb.uvPredictionMode.intraPredict known
      (mb.block component).places :=
  RasterBlock.intraPredict_footprint (block_fits h component)
    (by cases component <;> exact Nat.succ_pos _) (Component.extent_whole _ _)
    (block_predictedFrom h hknown)
    (fun predictors => mb.uvPredictionMode.predict_outcome _ predictors)
    fun _ _ => MbMode.predict_whole

theorem addYResidue_footprint (h : mb.Within displayWidth displayHeight)
    (quantizer : Quantizer) (column row : Fin 4)
    (hknown : (mb.ySubblock column row).places ⊆ known) :
    Reconstructs displayWidth displayHeight
      (mb.addYResidue quantizer column row) (.ok ()) known
      (mb.ySubblock column row).places :=
  RasterBlock.idctAdd_footprint (ySubblock_fits h column row) hknown _

theorem yResidues_footprint (h : mb.Within displayWidth displayHeight)
    (hknown : (mb.block .Y).places ⊆ known)
    (coefficients : Fin 4 → Fin 4 → SafeArray Int 16) :
    Reconstructs displayWidth displayHeight
      (fun raster => subblocks.foldlM (fun raster (column, row) =>
        RasterBlock.idctAdd .Y (4 * mb.column + column) (4 * mb.row + row)
          (coefficients column row) raster) raster) (.ok ()) known
      (mb.block .Y).places := by
  have hloop := Footprint.foldlM subblocks
    (fun item => (mb.ySubblock item.1 item.2).places)
    fun front item rest _ => RasterBlock.idctAdd_footprint
      (ySubblock_fits h item.1 item.2)
      (((ySubblock_subset item.1 item.2).trans hknown).trans
        Set.subset_union_left) (coefficients item.1 item.2)
  rw [Fallible.forM_ok subblocks fun _ _ => rfl] at hloop
  refine hloop.widen ?_ fun sample hsample => .inl (hknown hsample)
  rintro sample ⟨item, -, hsample⟩
  exact ySubblock_subset item.1 item.2 hsample

theorem addYResidues_footprint (h : mb.Within displayWidth displayHeight)
    (hknown : (mb.block .Y).places ⊆ known) (quantizer : Quantizer) :
    Reconstructs displayWidth displayHeight
      (mb.addYResidues quantizer) (.ok ()) known (mb.block .Y).places :=
  yResidues_footprint h hknown fun column row =>
    dequantize int16 quantizer.y (mb.Y column row).coefficients

theorem applyWalsh_footprint (h : mb.Within displayWidth displayHeight)
    (hknown : (mb.block .Y).places ⊆ known) (quantizer : Quantizer) :
    Reconstructs displayWidth displayHeight
      (mb.applyWalsh quantizer)
      (Net.require mb.Y2.coded (.assertion "coded_")) known
      (mb.block .Y).places := by
  unfold applyWalsh
  cases mb.Y2.coded with
  | true => exact yResidues_footprint h hknown (mb.walshCoefficients quantizer)
  | false => exact Footprint.failing _

theorem addComponentResidues_footprint
    (h : mb.Within displayWidth displayHeight) {component : Component}
    (hchroma : component ≠ .Y)
    (hknown : (mb.block component).places ⊆ known) (quantizer : Quantizer)
    (blocks : Square UVBlock 2) :
    Reconstructs displayWidth displayHeight
      (mb.addComponentResidues quantizer component blocks) (.ok ()) known
      (mb.block component).places := by
  have hloop := Footprint.foldlM chromaBlocks
    (fun item => (mb.chromaSubblock component item.1 item.2).places)
    fun front item rest _ => RasterBlock.idctAdd_footprint
      (chromaSubblock_fits h hchroma item.1 item.2)
      (((chromaSubblock_subset hchroma item.1 item.2).trans hknown).trans
        Set.subset_union_left)
      (dequantize int16 quantizer.uv (blocks item.1 item.2).coefficients)
  rw [Fallible.forM_ok chromaBlocks fun _ _ => rfl] at hloop
  refine hloop.widen ?_ fun sample hsample => .inl (hknown hsample)
  rintro sample ⟨item, -, hsample⟩
  exact chromaSubblock_subset hchroma item.1 item.2 hsample

theorem addChromaResidues_footprint (h : mb.Within displayWidth displayHeight)
    (hknownU : (mb.block .U).places ⊆ known)
    (hknownV : (mb.block .V).places ⊆ known) (quantizer : Quantizer) :
    Reconstructs displayWidth displayHeight
      (mb.addChromaResidues quantizer) (.ok ()) known
      ((mb.block .U).places ∪ (mb.block .V).places) :=
  (addComponentResidues_footprint h (by decide) hknownU quantizer mb.U).bind
    (addComponentResidues_footprint h (by decide)
      (hknownV.trans Set.subset_union_left) quantizer mb.V)

theorem subblocks_sorted : subblocks.Pairwise fun one other =>
    one.2.val * 4 + one.1.val < other.2.val * 4 + other.1.val := by
  decide

theorem bPred_footprint (h : mb.Within displayWidth displayHeight)
    (hknown : decodedBefore displayWidth mb.place ⊆ known)
    (quantizer : Quantizer) :
    Reconstructs displayWidth displayHeight
      (fun raster => subblocks.foldlM (fun raster (column, row) => do
        let raster ← (mb.ySubblock column row).intraPredict
          (mb.Y column row).predictionMode.predict raster
        mb.ifNonzero (mb.addYResidue quantizer column row) raster) raster)
      (subblocks.forM fun (column, row) =>
        (mb.Y column row).predictionMode.intraPredict) known
      (mb.block .Y).places := by
  have hstep : ∀ front item rest, subblocks = front ++ item :: rest →
      Reconstructs displayWidth displayHeight
        (fun raster => do
          let raster ← (mb.ySubblock item.1 item.2).intraPredict
            (mb.Y item.1 item.2).predictionMode.predict raster
          mb.ifNonzero (mb.addYResidue quantizer item.1 item.2) raster)
        (mb.Y item.1 item.2).predictionMode.intraPredict
        (known ∪ {sample | ∃ other ∈ front,
          sample ∈ (mb.ySubblock other.1 other.2).places})
        (mb.ySubblock item.1 item.2).places := by
    intro front item rest hsplit
    have hearlier : ∀ otherColumn otherRow : Fin 4,
        otherRow.val * 4 + otherColumn.val < item.2.val * 4 + item.1.val →
          (mb.ySubblock otherColumn otherRow).places ⊆ known ∪
            {sample | ∃ other ∈ front,
              sample ∈ (mb.ySubblock other.1 other.2).places} := by
      intro otherColumn otherRow hlt sample hsample
      have hall : ∀ other : Fin 4 × Fin 4, other ∈ subblocks := by decide
      have hsorted := subblocks_sorted
      rw [hsplit] at hsorted
      refine .inr ⟨(otherColumn, otherRow), ?_, hsample⟩
      refine mem_front_of_sorted hsorted (hsplit ▸ hall _) ?_ ?_
      · rintro rfl
        exact Nat.lt_irrefl _ hlt
      · exact Nat.lt_asymm hlt
    have hpredict := RasterBlock.intraPredict_footprint
      (ySubblock_fits h item.1 item.2) (Nat.succ_pos 3)
      (Component.extent_whole _ _)
      (ySubblock_predictedFrom h (hknown.trans Set.subset_union_left) hearlier)
      (fun predictors => (mb.Y item.1 item.2).predictionMode.predict_outcome
        predictors) fun _ _ => BMode.predict_whole
    have hwritten : (mb.ySubblock item.1 item.2).places ⊆
        (known ∪ {sample | ∃ other ∈ front,
          sample ∈ (mb.ySubblock other.1 other.2).places}) ∪
        (mb.ySubblock item.1 item.2).places := Set.subset_union_right
    have hresidue := (addYResidue_footprint h quantizer item.1 item.2
      hwritten).optional hwritten mb.hasNonzero
    refine ((hpredict.bind hresidue).of_outcome_eq ?_).widen ?_ ?_
    · rw [ite_self, Fallible.bind_ok_unit]
    · exact (Set.union_self _).subset
    · exact fun sample hsample => .inr (.inl hsample)
  have hloop := Footprint.foldlM subblocks
    (fun item => (mb.ySubblock item.1 item.2).places) hstep
  refine hloop.widen ?_ fun sample hsample => .inr (exists_ySubblock hsample)
  rintro sample ⟨item, -, hsample⟩
  exact ySubblock_subset item.1 item.2 hsample

/-- What parsing sees to: luma has no Y2 block only where the mode says so. -/
def Y2Coded (mb : Macroblock Header) : Prop :=
  mb.Y2.predictionMode ≠ .bPred → mb.Y2.predictionMode ≠ .splitMv →
    mb.Y2.coded = true

def writtenBy (place : Nat × Nat) : Set SamplePlace :=
  {sample | macroblockOf sample = place}

theorem writtenBy_place : writtenBy mb.place =
    (mb.block .U).places ∪ ((mb.block .V).places ∪ (mb.block .Y).places) := by
  ext sample
  rw [Set.mem_union, Set.mem_union, mem_block_places, mem_block_places,
    mem_block_places, writtenBy, Set.mem_ofPred_eq]
  obtain ⟨component, place⟩ := sample
  cases component <;> simp

theorem lumaIntra_footprint (h : mb.Within displayWidth displayHeight)
    (hcoded : mb.Y2Coded) (hknown : decodedBefore displayWidth mb.place ⊆ known)
    (quantizer : Quantizer) :
    Reconstructs displayWidth displayHeight
      (fun raster => do
        let raster ← (mb.block .Y).intraPredict
          (mb.Y2.predictionMode.predict (mb.block .Y)) raster
        mb.ifNonzero (mb.applyWalsh quantizer) raster)
      mb.Y2.predictionMode.intraPredict known (mb.block .Y).places := by
  have hpredict := RasterBlock.intraPredict_footprint
    (block_fits h .Y) (Nat.succ_pos 15) (Component.extent_whole _ _)
    (block_predictedFrom h hknown)
    (fun predictors => mb.Y2.predictionMode.predict_outcome _ predictors)
    fun _ _ => MbMode.predict_whole
  have hwritten : (mb.block .Y).places ⊆ known ∪ (mb.block .Y).places :=
    fun sample hsample => .inr hsample
  have hresidue := (applyWalsh_footprint h
    hwritten quantizer).optional hwritten mb.hasNonzero
  refine ((hpredict.bind hresidue).of_outcome_eq ?_).widen
    (Set.union_self _).subset fun sample hsample => .inr (.inl hsample)
  by_cases hsome : mb.Y2.coded = true
  · rw [hsome, Net.require_true, ite_self, Fallible.bind_ok_unit]
  · have hmode : mb.Y2.predictionMode = .bPred ∨
        mb.Y2.predictionMode = .splitMv := by
      by_contra hnone
      rw [not_or] at hnone
      exact hsome (hcoded hnone.1 hnone.2)
    rcases hmode with hmode | hmode <;> rw [hmode] <;> rfl

theorem reconstructIntraIn_footprint
    (h : mb.Within displayWidth displayHeight) (hcoded : mb.Y2Coded)
    (quantizer : Quantizer) :
    Reconstructs displayWidth displayHeight
      (mb.reconstructIntraIn quantizer) mb.reconstructIntra
      (decodedBefore displayWidth mb.place) (writtenBy mb.place) := by
  have hU := predictChroma_footprint h
    (subset_refl (decodedBefore displayWidth mb.place)) .U
  have hV := predictChroma_footprint h
    (fun sample hsample => .inl hsample :
      decodedBefore displayWidth mb.place ⊆ _ ∪ (mb.block .U).places) .V
  have hknown : (mb.block .U).places ∪ (mb.block .V).places ⊆
      (decodedBefore displayWidth mb.place ∪ (mb.block .U).places) ∪
        (mb.block .V).places := by
    rintro sample (hsample | hsample)
    · exact .inl (.inr hsample)
    · exact .inr hsample
  have hresidues := (addChromaResidues_footprint h
    (Set.subset_union_left.trans hknown) (Set.subset_union_right.trans hknown)
    quantizer).optional hknown mb.hasNonzero
  have hbefore : decodedBefore displayWidth mb.place ⊆
      ((decodedBefore displayWidth mb.place ∪ (mb.block .U).places) ∪
        (mb.block .V).places) ∪
      ((mb.block .U).places ∪ (mb.block .V).places) :=
    fun sample hsample => .inl (.inl (.inl hsample))
  have hwrites : (mb.block .U).places ∪ ((mb.block .V).places ∪
      (((mb.block .U).places ∪ (mb.block .V).places) ∪ (mb.block .Y).places)) =
      writtenBy mb.place := by
    rw [writtenBy_place]
    ext sample
    simp only [Set.mem_union]
    tauto
  rw [← hwrites]
  unfold reconstructIntraIn
  by_cases hmode : mb.Y2.predictionMode = .bPred
  · have hluma := bPred_footprint h hbefore
      quantizer
    simp only [hmode, if_true]
    refine (hU.bind (hV.bind (hresidues.bind hluma))).of_outcome_eq ?_
    rw [reconstructIntra, if_pos hmode, ite_self]
    rfl
  · have hluma := lumaIntra_footprint h hcoded
      hbefore quantizer
    simp only [hmode, if_false]
    refine (hU.bind (hV.bind (hresidues.bind hluma))).of_outcome_eq ?_
    rw [reconstructIntra, if_neg hmode, ite_self]
    rfl

end Macroblock

namespace InterFrameMacroblock

open Macroblock

variable {mb : InterFrameMacroblock} {known : Set SamplePlace}

theorem predictSplit_footprint (h : mb.Within displayWidth displayHeight)
    (reference : VP8Raster displayWidth displayHeight) :
    Reconstructs displayWidth displayHeight (predictSplit mb reference) (.ok ())
      known ((mb.block .Y).places ∪
        ((mb.block .U).places ∪ (mb.block .V).places)) := by
  have hluma : Reconstructs displayWidth displayHeight
      (fun raster => subblocks.foldlM (fun raster place =>
        (mb.ySubblock place.1 place.2).interPredict
          (mb.Y place.1 place.2).motionVector reference raster) raster)
      (subblocks.forM fun _ => .ok ()) known (mb.block .Y).places := by
    refine (Footprint.foldlM subblocks
      (fun item => (mb.ySubblock item.1 item.2).places)
      fun front item rest _ => RasterBlock.interPredict_footprint
        (ySubblock_fits h item.1 item.2) (Nat.succ_pos 3)
        (mb.Y item.1 item.2).motionVector reference _).widen ?_
      fun sample hsample => .inr (exists_ySubblock hsample)
    rintro sample ⟨item, -, hsample⟩
    exact ySubblock_subset item.1 item.2 hsample
  have hchroma : Reconstructs displayWidth displayHeight
      (fun raster => chromaBlocks.foldlM (fun raster place => do
        let raster ← (mb.chromaSubblock .U place.1 place.2).interPredict
          (mb.U place.1 place.2).motionVector reference raster
        (mb.chromaSubblock .V place.1 place.2).interPredict
          (mb.U place.1 place.2).motionVector reference raster) raster)
      (chromaBlocks.forM fun _ => .ok () >>= fun _ => .ok ())
      (known ∪ (mb.block .Y).places)
      ((mb.block .U).places ∪ (mb.block .V).places) := by
    refine (Footprint.foldlM chromaBlocks
      (fun item => (mb.chromaSubblock .U item.1 item.2).places ∪
        (mb.chromaSubblock .V item.1 item.2).places)
      fun front item rest _ =>
        (RasterBlock.interPredict_footprint
          (chromaSubblock_fits h (by decide) item.1 item.2) (Nat.succ_pos 3)
          (mb.U item.1 item.2).motionVector reference _).bind
        (RasterBlock.interPredict_footprint
          (chromaSubblock_fits h (by decide) item.1 item.2) (Nat.succ_pos 3)
          (mb.U item.1 item.2).motionVector reference _)).widen ?_ ?_
    · rintro sample ⟨item, -, hsample | hsample⟩
      · exact .inl (chromaSubblock_subset (by decide) item.1 item.2 hsample)
      · exact .inr (chromaSubblock_subset (by decide) item.1 item.2 hsample)
    · rintro sample (hsample | hsample)
      · obtain ⟨item, hitem, hplace⟩ :=
          exists_chromaSubblock (by decide) hsample
        exact .inr ⟨item, hitem, .inl hplace⟩
      · obtain ⟨item, hitem, hplace⟩ :=
          exists_chromaSubblock (by decide) hsample
        exact .inr ⟨item, hitem, .inr hplace⟩
  exact (hluma.bind hchroma).of_outcome_eq rfl

theorem predictWhole_footprint (h : mb.Within displayWidth displayHeight)
    (reference : VP8Raster displayWidth displayHeight) :
    Reconstructs displayWidth displayHeight (predictWhole mb reference) (.ok ())
      known ((mb.block .Y).places ∪
        ((mb.block .U).places ∪ (mb.block .V).places)) := by
  have hsize : ∀ component, 0 < (mb.block component).size := by
    intro component
    cases component <;> exact Nat.succ_pos _
  exact (RasterBlock.interPredict_footprint (block_fits h .Y) (hsize .Y) _
    reference _).bind ((RasterBlock.interPredict_footprint (block_fits h .U)
      (hsize .U) _ reference _).bind (RasterBlock.interPredict_footprint
        (block_fits h .V) (hsize .V) _ reference _))

/-- What parsing sees to: a macroblock predicted from a reference is not
`B_PRED`. -/
structure Reconstructible (mb : InterFrameMacroblock) : Prop where
  coded : mb.Y2Coded
  whole : interCoded mb = true → mb.Y2.predictionMode ≠ .bPred

theorem residues_footprint (h : mb.Within displayWidth displayHeight)
    (hknown : writtenBy mb.place ⊆ known)
    {luma : VP8Raster displayWidth displayHeight →
      Except Failure (VP8Raster displayWidth displayHeight)}
    (hluma : Reconstructs displayWidth displayHeight luma (.ok ()) known
      (mb.block .Y).places)
    (quantizer : Quantizer) :
    Reconstructs displayWidth displayHeight (mb.ifNonzero fun raster => do
        let raster ← luma raster
        mb.addChromaResidues quantizer raster) (.ok ()) known
      (writtenBy mb.place) := by
  rw [writtenBy_place] at hknown ⊢
  have hU : (mb.block .U).places ⊆ known ∪ (mb.block .Y).places :=
    fun sample hsample => .inl (hknown (.inl hsample))
  have hV : (mb.block .V).places ⊆ known ∪ (mb.block .Y).places :=
    fun sample hsample => .inl (hknown (.inr (.inl hsample)))
  have hchroma := addChromaResidues_footprint h hU hV quantizer
  have hwrites : (mb.block .Y).places ∪
      ((mb.block .U).places ∪ (mb.block .V).places) ⊆
      (mb.block .U).places ∪ ((mb.block .V).places ∪ (mb.block .Y).places) := by
    intro sample
    simp only [Set.mem_union]
    tauto
  have hboth := (hluma.bind hchroma).widen hwrites
    fun sample hsample => .inl (hknown hsample)
  refine (hboth.optional hknown mb.hasNonzero).of_outcome_eq ?_
  cases mb.hasNonzero <;> rfl

theorem at_outcome (references : RasterReferences displayWidth displayHeight)
    (reference : Option ReferenceFrame) :
    Fallible.outcome (references.at reference) = referencesAt reference := by
  rcases reference with _ | _ | _ | _ | _ <;> rfl

theorem reconstructInterIn_footprint
    (h : mb.Within displayWidth displayHeight) (hcoded : Reconstructible mb)
    (hinter : interCoded mb = true) (quantizer : Quantizer)
    (references : RasterReferences displayWidth displayHeight) :
    Reconstructs displayWidth displayHeight
      (reconstructInterIn quantizer references mb) (reconstructInter mb) known
      (writtenBy mb.place) := by
  have houtcome := at_outcome references mb.header.reference
  cases hat : references.at mb.header.reference with
  | error failure =>
      rw [hat] at houtcome
      refine ((Footprint.failing failure).congr fun raster => ?_).of_outcome_eq
        houtcome
      rw [reconstructInterIn, hat]
      rfl
  | ok reference =>
      rw [hat] at houtcome
      have hwrites : ((mb.block .Y).places ∪
          ((mb.block .U).places ∪ (mb.block .V).places)) ∪
          writtenBy mb.place = writtenBy mb.place := by
        rw [writtenBy_place]
        ext sample
        simp only [Set.mem_union]
        tauto
      have hpredicted : ∀ sample, sample ∈ writtenBy mb.place →
          sample ∈ known ∪ ((mb.block .Y).places ∪
            ((mb.block .U).places ∪ (mb.block .V).places)) := by
        rw [writtenBy_place]
        intro sample
        simp only [Set.mem_union]
        tauto
      have hluma : (mb.block .Y).places ⊆ known ∪ ((mb.block .Y).places ∪
          ((mb.block .U).places ∪ (mb.block .V).places)) :=
        fun sample hsample => .inr (.inl hsample)
      rw [← hwrites, reconstructInter, ← houtcome]
      by_cases hsplit : mb.Y2.predictionMode = .splitMv
      · have hresidues := residues_footprint h hpredicted
          (addYResidues_footprint h hluma quantizer) quantizer
        refine ((predictSplit_footprint h reference).bind hresidues).congr
          fun raster => ?_
        rw [reconstructInterIn, hat, ok_bind, if_pos hsplit]
      · have hwalsh := applyWalsh_footprint h
          hluma quantizer
        rw [hcoded.coded (hcoded.whole hinter) hsplit] at hwalsh
        have hresidues := residues_footprint h hpredicted hwalsh quantizer
        refine ((predictWhole_footprint h reference).bind hresidues).congr
          fun raster => ?_
        rw [reconstructInterIn, hat, ok_bind, if_neg hsplit]

theorem reconstructIn_footprint
    (h : mb.Within displayWidth displayHeight) (hcoded : Reconstructible mb)
    (quantizer : Quantizer)
    (references : RasterReferences displayWidth displayHeight) :
    Reconstructs displayWidth displayHeight
      (reconstructIn quantizer references mb) (reconstruct mb)
      (decodedBefore displayWidth mb.place) (writtenBy mb.place) := by
  unfold reconstructIn reconstruct
  cases hinter : interCoded mb with
  | true =>
      exact reconstructInterIn_footprint h hcoded hinter quantizer references
  | false => exact reconstructIntraIn_footprint h hcoded.coded quantizer

end InterFrameMacroblock

section Frames

variable {width height : Nat} {mb : Macroblock Header}

theorem quantizerFor_ok (indices : QuantIndices)
    {segmentation : Option (Segmentation width height)}
    (hsegment : segmentation.isSome → mb.segmentId.toNat < 4) :
    ∃ quantizer, quantizerFor indices segmentation mb = .ok quantizer := by
  cases segmentation with
  | none => exact ⟨_, rfl⟩
  | some current => exact ⟨_, dif_pos (hsegment rfl)⟩

/-- Macroblocks in the order of their places, each of which is made from those
before it. -/
theorem macroblocks_footprint {macroblocks : List (Macroblock Header)}
    (hplaces : macroblocks.map Macroblock.place = Grid.places
      (macroblockDimension displayWidth) (macroblockDimension displayHeight))
    {step : VP8Raster displayWidth displayHeight → Macroblock Header →
      Except Failure (VP8Raster displayWidth displayHeight)}
    {outcomes : Macroblock Header → Except Failure Unit}
    (hstep : ∀ mb ∈ macroblocks, mb.Within displayWidth displayHeight →
      Reconstructs displayWidth displayHeight (fun raster => step raster mb)
        (outcomes mb) (decodedBefore displayWidth mb.place)
        (Macroblock.writtenBy mb.place)) :
    Reconstructs displayWidth displayHeight
      (fun raster => macroblocks.foldlM step raster)
      (macroblocks.forM outcomes) ∅
      {sample | ∃ mb ∈ macroblocks,
        sample ∈ Macroblock.writtenBy mb.place} := by
  have hsorted := Grid.places_sorted (macroblockDimension displayWidth)
    (macroblockDimension displayHeight)
  rw [← hplaces] at hsorted
  refine Footprint.foldlM macroblocks _ fun front mb rest hsplit => ?_
  have hmb : mb ∈ macroblocks := by
    rw [hsplit]
    exact List.mem_append_right front List.mem_cons_self
  have hplace : mb.place ∈ Grid.places (macroblockDimension displayWidth)
      (macroblockDimension displayHeight) := by
    rw [← hplaces]
    exact List.mem_map_of_mem hmb
  have hwithin : mb.Within displayWidth displayHeight :=
    Grid.mem_places.mp hplace
  refine (hstep mb hmb hwithin).mono fun sample hsample => .inr ?_
  obtain ⟨hbefore, hcolumn⟩ := hsample
  have hrow : (macroblockOf sample).2 < macroblockDimension displayHeight := by
    obtain ⟨-, hrow⟩ := hwithin
    rcases hbefore with hlt | ⟨heq, -⟩
    · exact Nat.lt_trans hlt hrow
    · rw [heq]
      exact hrow
  have hmem : macroblockOf sample ∈ macroblocks.map Macroblock.place := by
    rw [hplaces]
    exact Grid.mem_places.mpr ⟨hcolumn, hrow⟩
  rw [hsplit, List.map_append, List.map_cons] at hmem hsorted
  have hfront := mem_front_of_sorted hsorted hmem
    (by
      intro heq
      rw [heq] at hbefore
      rcases hbefore with hlt | ⟨-, hlt⟩ <;> exact Nat.lt_irrefl _ hlt)
    (by
      unfold Grid.Before at hbefore ⊢
      omega)
  obtain ⟨other, hother, hplace⟩ := List.mem_map.mp hfront
  exact ⟨other, hother, hplace.symm⟩

/-- The frame has a macroblock at every place, with a segment where there are
segments. -/
structure Placed (displayWidth displayHeight : Nat)
    (segmentation : Option (Segmentation width height))
    (macroblocks : List (Macroblock Header)) : Prop where
  places : macroblocks.map Macroblock.place = Grid.places
    (macroblockDimension displayWidth) (macroblockDimension displayHeight)
  segments : segmentation.isSome → ∀ mb ∈ macroblocks, mb.segmentId.toNat < 4

theorem KeyFrame.decodeInto_footprint {frame : KeyFrame}
    {segmentation : Option (Segmentation width height)}
    (hplaced : Placed displayWidth displayHeight segmentation frame.macroblocks)
    (hcoded : ∀ mb ∈ frame.macroblocks, mb.Y2Coded) :
    Reconstructs displayWidth displayHeight
      (frame.decodeInto segmentation) frame.decode ∅
      {sample | ∃ mb ∈ frame.macroblocks,
        sample ∈ Macroblock.writtenBy mb.place} := by
  refine macroblocks_footprint hplaced.places fun mb hmb hwithin => ?_
  obtain ⟨quantizer, hquantizer⟩ := quantizerFor_ok frame.header.quantIndices
    fun hsome => hplaced.segments hsome mb hmb
  refine (Macroblock.reconstructIntraIn_footprint hwithin (hcoded mb hmb)
    quantizer).congr fun raster => ?_
  rw [hquantizer, ok_bind]

theorem InterFrame.decodeInto_footprint {frame : InterFrame}
    {segmentation : Option (Segmentation width height)}
    (hplaced : Placed displayWidth displayHeight segmentation frame.macroblocks)
    (hcoded : ∀ mb ∈ frame.macroblocks,
      InterFrameMacroblock.Reconstructible mb)
    (references : RasterReferences displayWidth displayHeight) :
    Reconstructs displayWidth displayHeight
      (frame.decodeInto segmentation references) frame.decode ∅
      {sample | ∃ mb ∈ frame.macroblocks,
        sample ∈ Macroblock.writtenBy mb.place} := by
  refine macroblocks_footprint hplaced.places fun mb hmb hwithin => ?_
  obtain ⟨quantizer, hquantizer⟩ := quantizerFor_ok frame.header.quantIndices
    fun hsome => hplaced.segments hsome mb hmb
  refine (InterFrameMacroblock.reconstructIn_footprint hwithin (hcoded mb hmb)
    quantizer references).congr fun raster => ?_
  rw [hquantizer, ok_bind]

theorem Placed.written {macroblocks : List (Macroblock Header)}
    {segmentation : Option (Segmentation width height)}
    (hplaced : Placed displayWidth displayHeight segmentation macroblocks)
    (sample : SamplePlace) :
    sample ∈ {sample | ∃ mb ∈ macroblocks,
      sample ∈ Macroblock.writtenBy mb.place} ∨
    ∀ one other : VP8Raster displayWidth displayHeight,
      one.sample? sample = other.sample? sample := by
  obtain ⟨component, column, row⟩ := sample
  by_cases hinside : column < component.extent displayWidth ∧
      row < component.extent displayHeight
  · left
    obtain ⟨hcolumn, hrow⟩ := hinside
    rw [component.extent_eq] at hcolumn hrow
    have hmem : macroblockOf (component, column, row) ∈
        macroblocks.map Macroblock.place := by
      rw [hplaced.places]
      exact Grid.mem_places.mpr
        ⟨Nat.div_lt_of_lt_mul hcolumn, Nat.div_lt_of_lt_mul hrow⟩
    obtain ⟨mb, hmb, hplace⟩ := List.mem_map.mp hmem
    exact ⟨mb, hmb, hplace.symm⟩
  · right
    intro one other
    rw [VP8Raster.sample?, VP8Raster.sample?, RasterPlane.sample?,
      RasterPlane.sample?, if_neg hinside, if_neg hinside]

theorem KeyFrame.decodeInto_eq {frame : KeyFrame}
    {segmentation : Option (Segmentation width height)}
    (hplaced : Placed displayWidth displayHeight segmentation frame.macroblocks)
    (hcoded : ∀ mb ∈ frame.macroblocks, mb.Y2Coded)
    (raster recycled : VP8Raster displayWidth displayHeight) :
    frame.decodeInto segmentation raster =
      frame.decodeInto segmentation recycled :=
  (KeyFrame.decodeInto_footprint hplaced hcoded).eq_of_writes_all
    hplaced.written VP8Raster.ext_sample raster recycled

theorem InterFrame.decodeInto_eq {frame : InterFrame}
    {segmentation : Option (Segmentation width height)}
    (hplaced : Placed displayWidth displayHeight segmentation frame.macroblocks)
    (hcoded : ∀ mb ∈ frame.macroblocks,
      InterFrameMacroblock.Reconstructible mb)
    (references : RasterReferences displayWidth displayHeight)
    (raster recycled : VP8Raster displayWidth displayHeight) :
    frame.decodeInto segmentation references raster =
      frame.decodeInto segmentation references recycled :=
  (InterFrame.decodeInto_footprint hplaced hcoded references).eq_of_writes_all
    hplaced.written VP8Raster.ext_sample raster recycled

end Frames

end Reconstruct

end Salsify.Codec
