import Salsify.Codec.ChromaVectors
import Salsify.Encoder.MotionSearch

namespace Salsify.Encoder

open Salsify.Coder (Probability)
open Salsify.Codec (MotionVector SafeArray MbMode Context InterFrameMacroblock
  Scorer int16 int16_of_inRange macroblockDimension)
open Salsify.Net (Failure)
open Fallible (Succeeds succeeds_pure)
open Traced (Ensures ensures_pure ensures_record ensures_lift ensures_foldlM
  ensures_loop)

/-! The residuals of a search, and the samples that it reads. -/

/-- A residual that the tables of costs have an entry for and that can be
sent. -/
structure LegalResidual (mv : MotionVector) : Prop where
  even : mv.y % 2 = 0 ∧ mv.x % 2 = 0
  bounded : mv.y.natAbs ≤ 1023 ∧ mv.x.natAbs ≤ 1023
  survives : ∀ motionVectorProbs : SafeArray (SafeArray Probability 19) 2,
    ∃ symbols, mv.encode motionVectorProbs = .ok symbols ∧
      (MotionVector.parse motionVectorProbs).Consumes symbols mv

theorem legalResidual {mv : MotionVector}
    (even : mv.y % 2 = 0 ∧ mv.x % 2 = 0)
    (bounded : mv.y.natAbs ≤ 1023 ∧ mv.x.natAbs ≤ 1023) :
    LegalResidual mv where
  even := even
  bounded := bounded
  survives motionVectorProbs :=
    (MotionVector.parse_reaches motionVectorProbs
      ⟨even.1, bounded.1.trans (by decide)⟩
      ⟨even.2, bounded.2.trans (by decide)⟩).echoed
        (MotionVector.parse_echoes motionVectorProbs)

theorem legalResidual_zero : LegalResidual {} :=
  legalResidual ⟨rfl, rfl⟩ ⟨by decide, by decide⟩

theorem LegalResidual.int16 {mv : MotionVector} (h : LegalResidual mv) :
    int16 mv.y = mv.y ∧ int16 mv.x = mv.x := by
  obtain ⟨hy, hx⟩ := h.bounded
  exact ⟨int16_of_inRange (by omega) (by omega),
    int16_of_inRange (by omega) (by omega)⟩

theorem outOfBounds_eq_false_iff {mv : MotionVector} :
    outOfBounds mv = false ↔ mv.y.natAbs ≤ 1023 ∧ mv.x.natAbs ≤ 1023 := by
  simp only [outOfBounds, Bool.or_eq_false_iff, decide_eq_false_iff_not]
  omega

/-- The steps are powers of two, so that all but the last are even. -/
structure Step (size : Nat) : Prop where
  power : ∃ k, size = 2 ^ k
  le : size ≤ 512

theorem step_start : Step 512 := ⟨⟨9, rfl⟩, Nat.le_refl 512⟩

theorem Step.half {size : Nat} (h : Step size) (hlarge : 1 < size) :
    Step (size / 2) ∧ size % 2 = 0 := by
  obtain ⟨⟨k, rfl⟩, hle⟩ := h
  cases k with
  | zero => exact absurd hlarge (Nat.lt_irrefl 1)
  | succ k =>
      have hhalf : 2 ^ (k + 1) / 2 = 2 ^ k := by
        rw [Nat.pow_succ, Nat.mul_div_cancel _ (by decide)]
      refine ⟨⟨⟨k, hhalf⟩, ?_⟩, ?_⟩
      · omega
      · rw [Nat.pow_succ, Nat.mul_mod_left]

theorem siteVector_even {origin : MotionVector} (horigin : LegalResidual origin)
    {stepSize : Nat} (heven : stepSize % 2 = 0) (hle : stepSize ≤ 512)
    {site : Int × Int} (hsite : site ∈ checkSites) :
    (siteVector origin stepSize site).y % 2 = 0 ∧
      (siteVector origin stepSize site).x % 2 = 0 := by
  have hsides : (site.1 = -1 ∨ site.1 = 0 ∨ site.1 = 1) ∧
      (site.2 = -1 ∨ site.2 = 0 ∨ site.2 = 1) := by
    revert hsite site
    decide
  -- no sum comes near the ends of 16 bits
  have hcomponent {component side : Int} (hcomponent : component % 2 = 0)
      (hbounded : component.natAbs ≤ 1023)
      (hside : side = -1 ∨ side = 0 ∨ side = 1) :
      int16 (0 + int16 (component + int16 (stepSize * side))) % 2 = 0 := by
    have hstep : ((stepSize : Int) * side) % 2 = 0 ∧
        -512 ≤ (stepSize : Int) * side ∧ (stepSize : Int) * side ≤ 512 := by
      rcases hside with rfl | rfl | rfl <;> omega
    have hdirection : int16 (stepSize * side) = stepSize * side :=
      int16_of_inRange (by omega) (by omega)
    have hsum : int16 (component + stepSize * side) =
        component + stepSize * side :=
      int16_of_inRange (by omega) (by omega)
    rw [hdirection, hsum, int16_of_inRange (by omega) (by omega)]
    omega
  exact ⟨hcomponent horigin.even.1 horigin.bounded.1 hsides.2,
    hcomponent horigin.even.2 horigin.bounded.2 hsides.1⟩

section Diamond

variable {evaluate : MotionVector → Search MBPredictionData}
  (hevaluate : ∀ mv, LegalResidual mv → Ensures LegalResidual (evaluate mv)
    fun pred => pred.mv = mv)

include hevaluate

theorem checkSite_ensures {origin : MotionVector}
    (horigin : LegalResidual origin) {stepSize : Nat}
    (heven : stepSize % 2 = 0) (hle : stepSize ≤ 512)
    {bestPred : MBPredictionData} (hbest : LegalResidual bestPred.mv)
    {site : Int × Int} (hsite : site ∈ checkSites) :
    Ensures LegalResidual (checkSite evaluate origin stepSize bestPred site)
      fun pred => LegalResidual pred.mv := by
  unfold checkSite
  dsimp only
  split
  · exact ensures_pure hbest
  · next hbounds =>
      have hlegal : LegalResidual (siteVector origin stepSize site) :=
        legalResidual (siteVector_even horigin heven hle hsite)
          (outOfBounds_eq_false_iff.mp (Bool.eq_false_iff.mpr hbounds))
      apply (hevaluate _ hlegal).bind
      intro pred hpred
      apply ensures_pure
      split
      · rw [hpred]
        exact hlegal
      · exact hbest

structure Searching (start : Nat) (state : DiamondState) : Prop where
  origin : LegalResidual state.origin
  stepSize : Step state.stepSize
  stepSize_le : state.stepSize ≤ start
  firstStep : Step state.firstStep
  firstStep_lt : state.firstStep < start

theorem diamondTurn_ensures {start : Nat} {state : DiamondState}
    (h : Searching start state) :
    Ensures LegalResidual (diamondTurn evaluate state)
      (Sum.elim
        (fun next => Searching start next ∧ next.stepSize < state.stepSize)
        fun result => LegalResidual result.mv ∧ Step result.firstStep ∧
          result.firstStep < start) := by
  unfold diamondTurn
  split
  · next hlarge =>
      obtain ⟨hhalf, heven⟩ := h.stepSize.half hlarge
      have hsites : Ensures LegalResidual (checkSites.foldlM
          (checkSite evaluate state.origin state.stepSize) {})
          fun pred => LegalResidual pred.mv :=
        ensures_foldlM (fun bestPred site hsite hbest =>
          checkSite_ensures hevaluate h.origin heven h.stepSize.le hbest hsite)
          legalResidual_zero
      apply hsites.bind
      intro bestPred hbest
      have hle := h.stepSize_le
      refine ensures_pure ⟨⟨hbest, hhalf, ?_, ?_, ?_⟩, ?_⟩
      · dsimp only
        omega
      · dsimp only
        split
        · exact hhalf
        · exact h.firstStep
      · dsimp only
        split
        · omega
        · exact h.firstStep_lt
      · dsimp only
        omega
  · exact ensures_pure ⟨h.origin, h.firstStep, h.firstStep_lt⟩

theorem diamondSearch_ensures {fuel : Nat} {origin : MotionVector}
    (horigin : LegalResidual origin) {stepSize : Nat} (hstep : Step stepSize)
    (hlarge : 1 < stepSize) (hfuel : stepSize < fuel) :
    Ensures LegalResidual (diamondSearch evaluate fuel origin stepSize)
      fun result => LegalResidual result.mv ∧ Step result.firstStep ∧
        result.firstStep < stepSize :=
  ensures_loop (Searching stepSize) DiamondState.stepSize
    (fun _ hstate => diamondTurn_ensures hevaluate hstate)
    { origin := horigin
      stepSize := hstep
      stepSize_le := Nat.le_refl stepSize
      firstStep := (hstep.half hlarge).1
      firstStep_lt := Nat.div_lt_self (by omega) (by decide) } hfuel

theorem newMvTurn_ensures {fuel : Nat} (hfuel : 512 < fuel)
    {state : MotionVector × Nat} (hmv : LegalResidual state.1)
    (hstep : Step state.2) :
    Ensures LegalResidual (newMvTurn evaluate fuel state)
      (Sum.elim (fun next => (LegalResidual next.1 ∧ Step next.2) ∧
        next.2 < state.2) LegalResidual) := by
  unfold newMvTurn
  split
  · next hlarge =>
      have hless : state.2 < fuel := Nat.lt_of_le_of_lt hstep.le hfuel
      apply (diamondSearch_ensures hevaluate hmv hstep hlarge hless).bind
      intro result hresult
      apply ensures_pure
      split
      · exact hmv
      · exact ⟨⟨hresult.1, hresult.2.1⟩, hresult.2.2⟩
  · exact ensures_pure hmv

theorem newMvSearch_ensures {fuel : Nat} (hfuel : 512 < fuel) :
    Ensures LegalResidual (newMvSearch evaluate fuel) LegalResidual :=
  ensures_loop (fun state => LegalResidual state.1 ∧ Step state.2) Prod.snd
    (fun _ hstate => newMvTurn_ensures hevaluate hfuel hstate.1 hstate.2)
    ⟨legalResidual_zero, step_start⟩ hfuel

end Diamond

theorem kept_true {displayWidth displayHeight : Nat}
    (reference : SafeRaster displayWidth displayHeight) :
    Kept reference fun _ => True :=
  ⟨fun _ _ => trivial, fun _ _ _ _ => trivial⟩

theorem attempt_ensures {Allowed : MotionVector → Prop} {α : Type}
    {result : Except Failure α} {Post : α → Prop} (h : Succeeds result Post) :
    Ensures Allowed (attempt result) Post := by
  obtain ⟨value, rfl, hpost⟩ := h
  exact ensures_lift ⟨value, rfl, hpost⟩

theorem entry_succeeds {α : Type} {size index : Nat} (array : SafeArray α size)
    (h : index < size) :
    Succeeds (entry array index) fun value => value = array ⟨index, h⟩ := by
  unfold entry
  rw [dif_pos h]
  exact succeeds_pure rfl

theorem Costs.motionVectorCost_succeeds (costs : Costs) {mv : MotionVector}
    (h : LegalResidual mv) (weight : Nat) :
    Succeeds (costs.motionVectorCost mv weight) fun _ => True := by
  apply (entry_succeeds _ (Nat.lt_succ_of_le h.bounded.1)).bind
  intro y _
  apply (entry_succeeds _ (Nat.lt_succ_of_le h.bounded.2)).bind
  intro x _
  exact succeeds_pure trivial

theorem Costs.sadComponent_lt (component base : Int) :
    (sadComponent component base).natAbs < 256 := by
  unfold sadComponent
  omega

theorem Costs.sadMotionVectorCost_succeeds (costs : Costs)
    (mv base : MotionVector) (weight : Nat) :
    Succeeds (costs.sadMotionVectorCost mv base weight) fun rate =>
      ∃ y x : UInt32, y.toNat ≤ 5782 ∧ x.toNat ≤ 5782 ∧
        rate = UInt32.ofNat (((y + x).toNat * weight + 128) / 256) := by
  apply (entry_succeeds _ (sadComponent_lt mv.y base.y)).bind
  intro y hy
  apply (entry_succeeds _ (sadComponent_lt mv.x base.x)).bind
  intro x hx
  refine succeeds_pure ⟨y, x, ?_, ?_, rfl⟩
  · rw [hy]
    exact costs.mvSadCosts_le ..
  · rw [hx]
    exact costs.mvSadCosts_le ..

namespace SearchedMacroblock

variable {displayWidth displayHeight : Nat}
  {mb : SearchedMacroblock displayWidth displayHeight}

/-- Where the blocks that a vector points to are, window included. -/
def Within (mb : SearchedMacroblock displayWidth displayHeight)
    (mv : MotionVector) : Prop :=
  BlockInside displayWidth (mb.context.column * mb.factor) mv.x ∧
    BlockInside displayHeight (mb.context.row * mb.factor) mv.y

theorem interPredict_ensures {Allowed : MotionVector → Prop} {P : UInt8 → Prop}
    (hkept : Kept mb.safeReference P) {mv : MotionVector} (h : mb.Within mv) :
    Ensures Allowed (mb.interPredict mv) fun prediction =>
      prediction.length = 256 ∧ ∀ sample ∈ prediction, P sample :=
  attempt_ensures (hkept.interPredict_succeeds h.1 h.2)

/-- A component that ends up to 1023 eighths outside what vectors are clamped
to. -/
theorem blockInside_of_near {display factor place width : Nat} {component : Int}
    (hfactor : factor = 1 ∨ factor = 4)
    (hwidth : width = macroblockDimension (display / factor))
    (hplace : place < width)
    (hlow : -(place * 128 : Int) - 1151 ≤ component)
    (hhigh : component ≤ ((width - 1 - place) * 128 : Nat) + 1151) :
    BlockInside display (place * factor) component := by
  unfold macroblockDimension at hwidth
  unfold BlockInside
  rcases hfactor with rfl | rfl
  · omega
  · omega

theorem clamp_near (h : mb.Placed) (mv : MotionVector) :
    (-(mb.context.column * 128 : Int) - 128 ≤
        (Scorer.clamp mv mb.context).x ∧
      (Scorer.clamp mv mb.context).x ≤
        ((mb.context.width - 1 - mb.context.column) * 128 : Nat) + 128) ∧
    (-(mb.context.row * 128 : Int) - 128 ≤ (Scorer.clamp mv mb.context).y ∧
      (Scorer.clamp mv mb.context).y ≤
        ((mb.context.height - 1 - mb.context.row) * 128 : Nat) + 128) := by
  obtain ⟨-, -, -, hcolumn, hrow⟩ := h
  unfold Scorer.clamp MotionVector.clamp
  dsimp only
  omega

theorem Placed.within_clamp (h : mb.Placed) (mv : MotionVector) :
    mb.Within (Scorer.clamp mv mb.context) := by
  obtain ⟨⟨hleft, hright⟩, htop, hbottom⟩ := clamp_near h mv
  exact ⟨blockInside_of_near h.factor h.width h.column (by omega) (by omega),
    blockInside_of_near h.factor h.height h.row (by omega) (by omega)⟩

theorem Placed.within_zero (h : mb.Placed) : mb.Within {} :=
  ⟨blockInside_of_near h.factor h.width h.column (by dsimp only; omega)
      (by dsimp only; omega),
    blockInside_of_near h.factor h.height h.row (by dsimp only; omega)
      (by dsimp only; omega)⟩

theorem evaluate_ensures (costs : Costs) (h : mb.Placed)
    (baseMv : MotionVector) {mv : MotionVector} (hmv : LegalResidual mv) :
    Ensures LegalResidual (mb.evaluate costs baseMv mv)
      fun pred => pred.mv = mv := by
  apply (ensures_record hmv).bind
  intro _ _
  apply (interPredict_ensures (kept_true mb.safeReference)
    (h.within_clamp _)).bind
  intro prediction _
  apply (attempt_ensures
    (costs.sadMotionVectorCost_succeeds mv {} _)).bind
  intro rate _
  exact ensures_pure rfl

/-- In a frame of at most 248 macroblocks the sum of a residual and a clamped
vector fits in 16 bits. -/
theorem Placed.within_add (h : mb.Placed) (hwidth : displayWidth ≤ 3968)
    (hheight : displayHeight ≤ 3968) {residual : MotionVector}
    (hresidual : LegalResidual residual) (mv : MotionVector) :
    mb.Within (residual.add (Scorer.clamp mv mb.context)) := by
  obtain ⟨⟨hleft, hright⟩, htop, hbottom⟩ := clamp_near h mv
  obtain ⟨hy, hx⟩ := hresidual.bounded
  have hsmall {display count : Nat} (hdisplay : display ≤ 3968)
      (hcount : count = macroblockDimension (display / mb.factor)) :
      count ≤ 248 := by
    have hdiv := Nat.div_le_self display mb.factor
    rw [hcount, macroblockDimension]
    omega
  have hcolumns := hsmall hwidth h.width
  have hrows := hsmall hheight h.height
  have hcolumn := h.column
  have hrow := h.row
  have hsumX : int16 (residual.x + (Scorer.clamp mv mb.context).x) =
      residual.x + (Scorer.clamp mv mb.context).x :=
    int16_of_inRange (by omega) (by omega)
  have hsumY : int16 (residual.y + (Scorer.clamp mv mb.context).y) =
      residual.y + (Scorer.clamp mv mb.context).y :=
    int16_of_inRange (by omega) (by omega)
  refine ⟨blockInside_of_near h.factor h.width hcolumn ?_ ?_,
    blockInside_of_near h.factor h.height hrow ?_ ?_⟩
  · dsimp only [MotionVector.add]
    omega
  · dsimp only [MotionVector.add]
    omega
  · dsimp only [MotionVector.add]
    omega
  · dsimp only [MotionVector.add]
    omega

structure Candidate (mb : SearchedMacroblock displayWidth displayHeight)
    (predictionMode : MbMode) (mv : MotionVector) : Prop where
  within : mb.Within mv
  residual : predictionMode = .newMv → LegalResidual (mv.sub mb.bestRef)

theorem eq_of_unlessEmpty {mv found : MotionVector}
    (h : unlessEmpty mv = some found) : found = mv := by
  unfold unlessEmpty at h
  split at h
  · cases h
  · exact (Option.some.inj h).symm

def interModes : List MbMode := [.zeroMv, .nearestMv, .nearMv, .newMv]

theorem modeVector_ensures (costs : Costs) (h : mb.Placed)
    (hwidth : displayWidth ≤ 3968) (hheight : displayHeight ≤ 3968) {fuel : Nat}
    (hfuel : 512 < fuel) {predictionMode : MbMode}
    (hmode : predictionMode ∈ interModes) :
    Ensures LegalResidual (mb.modeVector costs fuel predictionMode)
      fun found => ∀ mv, found = some mv → mb.Candidate predictionMode mv := by
  have hclamped {mode : MbMode} (hmode : mode ≠ .newMv) (mv : MotionVector) :
      ∀ found, unlessEmpty (Scorer.clamp mv mb.context) = some found →
        mb.Candidate mode found := by
    intro found hfound
    rw [eq_of_unlessEmpty hfound]
    exact ⟨h.within_clamp mv, fun hnew => absurd hnew hmode⟩
  cases predictionMode with
  | zeroMv =>
      refine ensures_pure fun mv hmv => ?_
      cases hmv
      exact ⟨h.within_zero, fun hnew => nomatch hnew⟩
  | nearestMv => exact ensures_pure (hclamped (by decide) _)
  | nearMv => exact ensures_pure (hclamped (by decide) _)
  | newMv =>
      rw [modeVector]
      split
      · refine ensures_pure fun mv hmv => ?_
        cases hmv
      · apply (newMvSearch_ensures (fun mv hmv =>
          mb.evaluate_ensures costs h mb.bestRef hmv) hfuel).bind
        intro residual hresidual
        refine ensures_pure fun mv hmv => ?_
        rw [eq_of_unlessEmpty hmv]
        refine ⟨h.within_add hwidth hheight hresidual _, fun _ => ?_⟩
        rw [MotionVector.add_sub hresidual.int16.1 hresidual.int16.2]
        exact hresidual
  | dcPred | vPred | hPred | tmPred | bPred | splitMv =>
      exact absurd hmode (by decide)

theorem modeRate_ensures (costs : Costs) {predictionMode : MbMode}
    {mv : MotionVector} (h : mb.Candidate predictionMode mv) :
    Ensures LegalResidual (mb.modeRate costs predictionMode mv)
      fun _ => True := by
  unfold modeRate
  dsimp only
  split
  · next hnew =>
      have hresidual := h.residual hnew
      apply (ensures_record hresidual).bind
      intro _ _
      apply (attempt_ensures
        (costs.motionVectorCost_succeeds hresidual 96)).bind
      intro cost _
      exact ensures_pure trivial
  · exact ensures_pure trivial

theorem tryVector_ensures (costs : Costs)
    (best : MBPredictionData × MotionVector) {predictionMode : MbMode}
    {mv : MotionVector} (h : mb.Candidate predictionMode mv) :
    Ensures LegalResidual (mb.tryVector costs best predictionMode mv)
      fun _ => True := by
  apply (interPredict_ensures (kept_true mb.safeReference) h.within).bind
  intro prediction _
  apply (modeRate_ensures costs h).bind
  intro rate _
  exact ensures_pure trivial

theorem lumaMbInterPredict_ensures (costs : Costs) (h : mb.Placed)
    (hwidth : displayWidth ≤ 3968) (hheight : displayHeight ≤ 3968) {fuel : Nat}
    (hfuel : 512 < fuel) :
    Ensures LegalResidual (mb.lumaMbInterPredict costs fuel)
      fun _ => True := by
  refine ensures_foldlM (fun best predictionMode hmode _ => ?_) trivial
  apply (mb.modeVector_ensures costs h hwidth hheight hfuel hmode).bind
  intro found hfound
  cases found with
  | none => exact ensures_pure trivial
  | some mv => exact tryVector_ensures costs best (hfound mv rfl)

end SearchedMacroblock

end Salsify.Encoder
