import Salsify.Codec.ChromaOverflow
import Salsify.Encoder.MotionLegality

namespace Salsify.Encoder

open Salsify.Codec (MotionVector SafeArray MbMode Context InterFrameMacroblock
  InterFrameMacroblockHeader Scorer int16 int16_wraps macroblockDimension)
open Salsify.Codec.InterFrameMacroblock (lastFrameHeader census_best)
open Salsify.Codec.Scorer (Counts)
open Fallible (Succeeds succeeds_pure)
open Traced (Ensures ensures_pure ensures_record ensures_loop_of_runs runs)

/-! Frames that are large enough for the sum of a residual and the best vector
not to fit in 16 bits. In the searches below all samples are zero, so that all
residuals are as good as each other and the first one is taken. -/

def greedySite (origin : MotionVector) (stepSize : Nat) : MotionVector :=
  (((checkSites.map (siteVector origin stepSize)).find?
    fun mv => !outOfBounds mv)).getD {}

def greedyTurn (state : DiamondState) :
    Option (DiamondState ⊕ MVSearchResult) :=
  if 1 < state.stepSize then
    let mv := greedySite state.origin state.stepSize
    some (.inl {
      origin := mv
      firstStep :=
        if mv = state.origin then state.stepSize / 2 else state.firstStep
      stepSize := state.stepSize / 2 })
  else
    some (.inr { mv := state.origin, firstStep := state.firstStep })

def greedyNewMvTurn (fuel : Nat) (state : MotionVector × Nat) :
    Option ((MotionVector × Nat) ⊕ MotionVector) :=
  if 1 < state.2 then
    (runs greedyTurn fuel {
      origin := state.1
      firstStep := state.2 / 2
      stepSize := state.2 : DiamondState }).map fun result =>
        if result.mv = state.1 then .inr state.1
        else .inl (result.mv, result.firstStep)
  else
    some (.inr state.1)

section Greedy

variable {evaluate : MotionVector → Search MBPredictionData}
  (hevaluate : ∀ mv, Ensures (fun _ => True) (evaluate mv)
    fun pred => pred.mv = mv ∧ pred.cost = 0)

include hevaluate

theorem sites_settled (origin : MotionVector) (stepSize : Nat)
    {bestPred : MBPredictionData} (hcost : bestPred.cost = 0)
    (sites : List (Int × Int)) :
    Ensures (fun _ => True)
      (sites.foldlM (checkSite evaluate origin stepSize) bestPred)
      fun pred => pred.mv = bestPred.mv := by
  have hstep : ∀ pred, ∀ site ∈ sites,
      pred.mv = bestPred.mv ∧ pred.cost = 0 →
      Ensures (fun _ => True) (checkSite evaluate origin stepSize pred site)
        fun next => next.mv = bestPred.mv ∧ next.cost = 0 := by
    intro pred site _ hpred
    unfold checkSite
    dsimp only
    split
    · exact ensures_pure hpred
    · apply (hevaluate _).bind
      intro other hother
      apply ensures_pure
      rw [hother.2, hpred.2, if_neg (by decide)]
      exact hpred
  exact (Traced.ensures_foldlM hstep ⟨rfl, hcost⟩).mono fun _ hpred => hpred.1

theorem sites_greedy (origin : MotionVector) (stepSize : Nat)
    (sites : List (Int × Int)) :
    Ensures (fun _ => True)
      (sites.foldlM (checkSite evaluate origin stepSize) {})
      fun pred => pred.mv = ((sites.map (siteVector origin stepSize)).find?
        fun mv => !outOfBounds mv).getD {} := by
  induction sites with
  | nil => exact ensures_pure rfl
  | cons site sites ih =>
      rw [List.foldlM_cons, checkSite, List.map_cons, List.find?_cons]
      dsimp only
      cases hbounds : outOfBounds (siteVector origin stepSize site) with
      | true => exact ih
      | false =>
          have hfound : Ensures (fun _ => True)
              (evaluate (siteVector origin stepSize site) >>= fun pred =>
                pure (if pred.cost < ({} : MBPredictionData).cost then pred
                  else {}))
              fun pred => pred.mv = siteVector origin stepSize site ∧
                pred.cost = 0 := by
            apply (hevaluate _).bind
            intro pred hpred
            apply ensures_pure
            rw [hpred.2, if_pos (by decide)]
            exact hpred
          apply hfound.bind
          intro pred hpred
          rw [← hpred.1]
          exact sites_settled hevaluate origin stepSize hpred.2 sites

theorem diamondTurn_greedy {state : DiamondState}
    {outcome : DiamondState ⊕ MVSearchResult}
    (h : greedyTurn state = some outcome) :
    Ensures (fun _ => True) (diamondTurn evaluate state)
      fun found => found = outcome := by
  unfold greedyTurn at h
  unfold diamondTurn
  split
  · next hlarge =>
      rw [if_pos hlarge] at h
      apply (sites_greedy hevaluate state.origin state.stepSize
        checkSites).bind
      intro pred hpred
      apply ensures_pure
      rw [hpred]
      exact Option.some.inj h
  · next hsmall =>
      rw [if_neg hsmall] at h
      exact ensures_pure (Option.some.inj h)

theorem newMvTurn_greedy (fuel : Nat) {state : MotionVector × Nat}
    {outcome : (MotionVector × Nat) ⊕ MotionVector}
    (h : greedyNewMvTurn fuel state = some outcome) :
    Ensures (fun _ => True) (newMvTurn evaluate fuel state)
      fun found => found = outcome := by
  unfold greedyNewMvTurn at h
  unfold newMvTurn
  split
  · next hlarge =>
      rw [if_pos hlarge] at h
      obtain ⟨result, hruns, houtcome⟩ := Option.map_eq_some_iff.mp h
      apply (ensures_loop_of_runs (fun _ _ =>
        diamondTurn_greedy hevaluate) hruns).bind
      intro found hfound
      apply ensures_pure
      rw [hfound]
      exact houtcome
  · next hsmall =>
      rw [if_neg hsmall] at h
      exact ensures_pure (Option.some.inj h)

def greedyResidual : MotionVector := { y := -1004, x := -1022 }

theorem newMvSearch_greedy :
    Ensures (fun _ => True) (newMvSearch evaluate 513)
      fun mv => mv = greedyResidual :=
  ensures_loop_of_runs (fun _ _ => newMvTurn_greedy hevaluate 513)
    (by decide +kernel)

end Greedy

theorem sixtap_zero (m : Fin 8) :
    sixtap (sixtapFilters m) (List.replicate 6 0) = 0 := by
  revert m
  decide

theorem sad_zero (count : Nat) :
    sad (List.replicate count 0) (List.replicate count 0) = 0 := by
  unfold sad differences
  simp

theorem rdcost_zero {y x : UInt32} (hy : y.toNat ≤ 5782)
    (hx : x.toNat ≤ 5782) :
    rdcost (UInt32.ofNat (((y + x).toNat * 2 + 128) / 256)) 0 1 1 = 0 := by
  have hsum : (y + x).toNat ≤ 11564 := by
    rw [UInt32.toNat_add]
    omega
  have hrate : ((y + x).toNat * 2 + 128) / 256 ≤ 90 := by omega
  generalize ((y + x).toNat * 2 + 128) / 256 = rate at hrate
  apply UInt32.toNat_inj.mp
  unfold rdcost
  have hsmall : rate < UInt32.size := Nat.lt_of_le_of_lt hrate (by decide)
  simp only [UInt32.mul_one, UInt32.add_zero]
  rw [UInt32.toNat_div, UInt32.toNat_add, UInt32.toNat_ofNat_of_lt' hsmall]
  change (128 + rate) % 2 ^ 32 / 256 = 0
  omega

namespace SearchedMacroblock

variable {displayWidth displayHeight : Nat}

def black (context : Context InterFrameMacroblock) :
    SearchedMacroblock displayWidth displayHeight where
  encodeQuality := .bestQuality
  yAcQi := 0
  rateMultiplier := 1
  distortionMultiplier := 1
  safeReference := { safeY := fun _ _ => 0 }
  original := Vector.replicate 256 0
  factor := 1
  context
  motionVectorsFlipped := false
  intraPrediction := {}

theorem kept_black (context : Context InterFrameMacroblock) :
    Kept (black context : SearchedMacroblock displayWidth
      displayHeight).safeReference fun sample => sample = 0 where
  samples _ _ := rfl
  filtered m samples hlength hzero := by
    rw [List.eq_replicate_iff.mpr ⟨hlength, hzero⟩]
    exact sixtap_zero m

theorem evaluate_black (costs : Costs) {context : Context InterFrameMacroblock}
    (h : (black context : SearchedMacroblock displayWidth
      displayHeight).Placed) (baseMv mv : MotionVector) :
    Ensures (fun _ => True) ((black context : SearchedMacroblock displayWidth
      displayHeight).evaluate costs baseMv mv)
      fun pred => pred.mv = mv ∧ pred.cost = 0 := by
  apply (ensures_record trivial).bind
  intro _ _
  apply (interPredict_ensures (kept_black context) (h.within_clamp _)).bind
  intro prediction hprediction
  apply (attempt_ensures
    (costs.sadMotionVectorCost_succeeds mv {} _)).bind
  intro rate hrate
  obtain ⟨y, x, hy, hx, hrate⟩ := hrate
  refine ensures_pure ⟨rfl, ?_⟩
  dsimp only
  rw [hrate, List.eq_replicate_iff.mpr hprediction]
  change rdcost _ (sad (Vector.replicate 256 0).toList _) 1 1 = 0
  rw [Vector.toList_replicate, sad_zero]
  exact rdcost_zero hy hx

variable {mb : SearchedMacroblock displayWidth displayHeight}

theorem attempt_eq_ok {α : Type} {result : Except Net.Failure α}
    {trace : List MotionVector} {outcome : α × List MotionVector}
    (h : attempt result trace = .ok outcome) : result = .ok outcome.1 := by
  have hresult := Traced.liftM_eq_ok h
  cases result with
  | ok value =>
      cases hresult
      rfl
  | error failure => cases hresult

theorem modeVector_newMv {costs : Costs} {fuel : Nat} {residual : MotionVector}
    (hquality : mb.encodeQuality = .bestQuality)
    (hsearch : Ensures (fun _ => True)
      (newMvSearch (mb.evaluate costs mb.bestRef) fuel)
      fun found => found = residual) :
    Ensures (fun _ => True) (mb.modeVector costs fuel .newMv)
      fun found => found = unlessEmpty (residual.add mb.bestRef) := by
  rw [modeVector, hquality, if_neg (by simp)]
  apply hsearch.bind
  intro found hfound
  apply ensures_pure
  rw [hfound]

/-- Where the prediction returns, the new vector that was found points into the
margins. -/
theorem inside_of_lumaMbInterPredict {costs : Costs} {fuel : Nat}
    {residual : MotionVector} (hquality : mb.encodeQuality = .bestQuality)
    (hsearch : Ensures (fun _ => True)
      (newMvSearch (mb.evaluate costs mb.bestRef) fuel)
      fun found => found = residual)
    (hmoved : (residual.add mb.bestRef).empty = false)
    {outcome : (MBPredictionData × MotionVector) × List MotionVector}
    (h : mb.lumaMbInterPredict costs fuel [] = .ok outcome) :
    Inside displayWidth ((mb.context.column * mb.factor : Nat) * 16 +
        (residual.add mb.bestRef).x / 8) ∧
      Inside displayHeight ((mb.context.row * mb.factor : Nat) * 16 +
        (residual.add mb.bestRef).y / 8) := by
  unfold lumaMbInterPredict at h
  simp only [List.foldlM_cons] at h
  -- the modes before the new vector leave some trace
  obtain ⟨_, _, -, h⟩ := Traced.bind_eq_ok h
  obtain ⟨_, _, -, h⟩ := Traced.bind_eq_ok h
  obtain ⟨_, _, -, h⟩ := Traced.bind_eq_ok h
  obtain ⟨_, _, h, -⟩ := Traced.bind_eq_ok h
  unfold tryMode at h
  obtain ⟨found, later, hvector, h⟩ := Traced.bind_eq_ok h
  obtain ⟨⟨vector, trace⟩, hok, hfound, -⟩ :=
    modeVector_newMv hquality hsearch _ fun _ _ => trivial
  have hvector : vector = found :=
    congrArg Prod.fst (Except.ok.inj (hok.symm.trans hvector))
  have hfound : vector = unlessEmpty (residual.add mb.bestRef) := hfound
  rw [← hvector, hfound, unlessEmpty, hmoved, if_neg Bool.false_ne_true] at h
  unfold tryVector at h
  obtain ⟨prediction, _, hprediction, -⟩ := Traced.bind_eq_ok h
  exact inside_of_interPredict (attempt_eq_ok hprediction)

def Legal (costs : Costs) (mb : SearchedMacroblock displayWidth displayHeight) :
    Prop :=
  ∀ fuel, 512 < fuel → ∃ outcome,
    mb.lumaMbInterPredict costs fuel [] = .ok outcome ∧
      ∀ residual ∈ outcome.2, LegalResidual residual

/-- As far up or to the left as vectors of a frame are clamped to. -/
def farthest (count : Nat) : Int := max (-(128 * count)) (-32768)

def neighbour (mv : MotionVector) : InterFrameMacroblock where
  column := 0
  row := 0
  segmentIdUpdate := none
  mbSkipCoeff := none
  header := lastFrameHeader
  Y2 := { type := .y2, predictionMode := .newMv }
  Y := fun _ _ =>
    { type := .yAfterY2, predictionMode := .bDcPred, motionVector := mv }

theorem census_neighbour {context : Context InterFrameMacroblock}
    {mv : MotionVector} (hmv : mv.empty = false)
    (habove : context.above = none ∨ context.above = some (neighbour mv))
    (hleft : context.left = none ∨ context.left = some (neighbour mv))
    (haboveLeft : context.aboveLeft = none)
    (hany : context.above ≠ none ∨ context.left ≠ none) :
    (InterFrameMacroblock.motionVectorCensus context false).best = mv := by
  have hcounts {found : Option InterFrameMacroblock}
      (hfound : found = none ∨ found = some (neighbour mv)) :
      ∀ mb, found = some mb → Counts (fun best => best = mv) mb := by
    intro mb hmb
    rcases hfound with hnone | hsome
    · rw [hnone] at hmb
      cases hmb
    · rw [hsome] at hmb
      cases hmb
      exact ⟨rfl, rfl, hmv, rfl⟩
  exact census_best (hcounts habove) (hcounts hleft)
    (hcounts (Or.inl haboveLeft)) hany

theorem farthest_ne_zero {count : Nat} (h : 0 < count) : farthest count ≠ 0 := by
  unfold farthest
  omega

def rightmost (displayWidth displayHeight : Nat) :
    Context InterFrameMacroblock where
  column := macroblockDimension displayWidth - 1
  row := 0
  width := macroblockDimension displayWidth
  height := macroblockDimension displayHeight
  left := some (neighbour { x := farthest (macroblockDimension displayWidth) })
  aboveLeft := none
  above := none

def lowest (displayWidth displayHeight : Nat) :
    Context InterFrameMacroblock where
  column := 0
  row := macroblockDimension displayHeight - 1
  width := macroblockDimension displayWidth
  height := macroblockDimension displayHeight
  left := none
  aboveLeft := none
  above := some (neighbour { y := farthest (macroblockDimension displayHeight) })

theorem macroblockDimension_pos {display : Nat} (h : 0 < display) :
    0 < macroblockDimension display := by
  unfold macroblockDimension
  omega

theorem rightmost_placed (hwidth : 0 < displayWidth)
    (hheight : 0 < displayHeight) :
    (black (rightmost displayWidth displayHeight) : SearchedMacroblock
      displayWidth displayHeight).Placed where
  factor := Or.inl rfl
  width := congrArg macroblockDimension (Nat.div_one _).symm
  height := congrArg macroblockDimension (Nat.div_one _).symm
  column := Nat.sub_lt (macroblockDimension_pos hwidth) Nat.one_pos
  row := macroblockDimension_pos hheight

theorem lowest_placed (hwidth : 0 < displayWidth)
    (hheight : 0 < displayHeight) :
    (black (lowest displayWidth displayHeight) : SearchedMacroblock
      displayWidth displayHeight).Placed where
  factor := Or.inl rfl
  width := congrArg macroblockDimension (Nat.div_one _).symm
  height := congrArg macroblockDimension (Nat.div_one _).symm
  column := macroblockDimension_pos hwidth
  row := Nat.sub_lt (macroblockDimension_pos hheight) Nat.one_pos

/-- With one neighbour alone the reference is its vector, if that is in the range
it is clamped to. -/
theorem bestRef_neighbour {context : Context InterFrameMacroblock}
    {mv : MotionVector} (hmv : mv.empty = false)
    (habove : context.above = none ∨ context.above = some (neighbour mv))
    (hleft : context.left = none ∨ context.left = some (neighbour mv))
    (haboveLeft : context.aboveLeft = none)
    (hany : context.above ≠ none ∨ context.left ≠ none)
    (hclamp : Scorer.clamp mv context = mv) :
    (black context : SearchedMacroblock displayWidth displayHeight).bestRef =
      mv := by
  have hbest : (black context : SearchedMacroblock displayWidth
      displayHeight).census.best = mv :=
    census_neighbour hmv habove hleft haboveLeft hany
  rw [bestRef, hbest]
  exact hclamp

theorem bestRef_rightmost (hwidth : 0 < displayWidth) :
    (black (rightmost displayWidth displayHeight) : SearchedMacroblock
      displayWidth displayHeight).bestRef =
        { x := farthest (macroblockDimension displayWidth) } := by
  have hpositive := macroblockDimension_pos hwidth
  refine bestRef_neighbour (Bool.and_eq_false_iff.mpr
    (Or.inl (decide_eq_false (farthest_ne_zero hpositive)))) (Or.inl rfl)
    (Or.inr rfl) rfl (Or.inr (Option.some_ne_none _)) ?_
  unfold Scorer.clamp MotionVector.clamp rightmost farthest
  refine congrArg₂ MotionVector.mk ?_ ?_
  · dsimp only
    omega
  · dsimp only
    omega

theorem bestRef_lowest (hheight : 0 < displayHeight) :
    (black (lowest displayWidth displayHeight) : SearchedMacroblock
      displayWidth displayHeight).bestRef =
        { y := farthest (macroblockDimension displayHeight) } := by
  have hpositive := macroblockDimension_pos hheight
  refine bestRef_neighbour (Bool.and_eq_false_iff.mpr
    (Or.inr (decide_eq_false (farthest_ne_zero hpositive)))) (Or.inr rfl)
    (Or.inl rfl) rfl (Or.inl (Option.some_ne_none _)) ?_
  unfold Scorer.clamp MotionVector.clamp lowest farthest
  refine congrArg₂ MotionVector.mk ?_ ?_
  · dsimp only
    omega
  · dsimp only
    omega

/-- From 249 macroblocks on the sum of a residual that is long enough and the
farthest vector wraps around. -/
theorem wrapped_outside {display : Nat} (h : 3968 < display) {residual : Int}
    (hlow : -1022 ≤ residual) (hhigh : residual ≤ -1004) :
    ¬ Inside display (((macroblockDimension display - 1) * 1 : Nat) * 16 +
      int16 (residual + farthest (macroblockDimension display)) / 8) := by
  obtain ⟨turns, hturns, hleast, hmost⟩ :=
    int16_wraps (residual + farthest (macroblockDimension display))
  unfold farthest macroblockDimension at *
  unfold Inside
  omega

theorem black_inside (costs : Costs) {context : Context InterFrameMacroblock}
    (h : (black context : SearchedMacroblock displayWidth
      displayHeight).Placed)
    (hmoved : (greedyResidual.add (black context : SearchedMacroblock
      displayWidth displayHeight).bestRef).empty = false)
    (hlegal : (black context : SearchedMacroblock displayWidth
      displayHeight).Legal costs) :
    Inside displayWidth ((context.column * 1 : Nat) * 16 +
        (greedyResidual.add (black context : SearchedMacroblock displayWidth
          displayHeight).bestRef).x / 8) ∧
      Inside displayHeight ((context.row * 1 : Nat) * 16 +
        (greedyResidual.add (black context : SearchedMacroblock displayWidth
          displayHeight).bestRef).y / 8) := by
  obtain ⟨outcome, houtcome, -⟩ := hlegal 513 (by decide)
  have hquality : (black context : SearchedMacroblock displayWidth
      displayHeight).encodeQuality = .bestQuality := rfl
  have hinside := inside_of_lumaMbInterPredict hquality
    (newMvSearch_greedy fun mv => evaluate_black costs h _ mv) hmoved houtcome
  exact hinside

theorem rightmost_illegal (costs : Costs) (hwidth : 3968 < displayWidth)
    (hheight : 0 < displayHeight) :
    ¬ (black (rightmost displayWidth displayHeight) : SearchedMacroblock
      displayWidth displayHeight).Legal costs := by
  intro hlegal
  have hpositive : 0 < displayWidth := by omega
  have hinside := black_inside costs (rightmost_placed hpositive hheight) ?_
    hlegal
  · rw [bestRef_rightmost hpositive] at hinside
    exact wrapped_outside hwidth (by decide) (by decide) hinside.1
  · rw [bestRef_rightmost hpositive]
    exact Bool.and_eq_false_iff.mpr (Or.inr rfl)

theorem lowest_illegal (costs : Costs) (hwidth : 0 < displayWidth)
    (hheight : 3968 < displayHeight) :
    ¬ (black (lowest displayWidth displayHeight) : SearchedMacroblock
      displayWidth displayHeight).Legal costs := by
  intro hlegal
  have hpositive : 0 < displayHeight := by omega
  have hinside := black_inside costs (lowest_placed hwidth hpositive) ?_ hlegal
  · rw [bestRef_lowest hpositive] at hinside
    exact wrapped_outside hheight (by decide) (by decide) hinside.2
  · rw [bestRef_lowest hpositive]
    exact Bool.and_eq_false_iff.mpr (Or.inl rfl)

/-- Without macroblocks, or with at most 248 in each row and column. -/
def Searchable (displayWidth displayHeight : Nat) : Prop :=
  displayWidth = 0 ∨ displayHeight = 0 ∨
    displayWidth ≤ 3968 ∧ displayHeight ≤ 3968

theorem Placed.positive {mb : SearchedMacroblock displayWidth displayHeight}
    (h : mb.Placed) : displayWidth ≠ 0 ∧ displayHeight ≠ 0 := by
  obtain ⟨-, hwidth, hheight, hcolumn, hrow⟩ := h
  constructor
  · rintro rfl
    rw [hwidth, Nat.zero_div] at hcolumn
    exact absurd hcolumn (Nat.not_lt_zero _)
  · rintro rfl
    rw [hheight, Nat.zero_div] at hrow
    exact absurd hrow (Nat.not_lt_zero _)

theorem legal_iff (costs : Costs) (displayWidth displayHeight : Nat) :
    (∀ mb : SearchedMacroblock displayWidth displayHeight,
      mb.Placed → mb.Legal costs) ↔ Searchable displayWidth displayHeight := by
  constructor
  · intro hlegal
    by_contra hlarge
    unfold Searchable at hlarge
    have hpositive : 0 < displayWidth ∧ 0 < displayHeight := by omega
    by_cases hwidth : 3968 < displayWidth
    · exact rightmost_illegal costs hwidth hpositive.2
        (hlegal _ (rightmost_placed hpositive.1 hpositive.2))
    · exact lowest_illegal costs hpositive.1 (by omega)
        (hlegal _ (lowest_placed hpositive.1 hpositive.2))
  · intro hsearchable mb hplaced fuel hfuel
    obtain ⟨hwidth, hheight⟩ := hplaced.positive
    obtain ⟨hwide, hhigh⟩ :=
      (hsearchable.resolve_left hwidth).resolve_left hheight
    obtain ⟨outcome, houtcome, -, hresiduals⟩ :=
      mb.lumaMbInterPredict_ensures costs hplaced hwide hhigh hfuel []
        fun _ h => absurd h List.not_mem_nil
    exact ⟨outcome, houtcome, hresiduals⟩

/-- In a frame of 256 by 135 macroblocks the last one of the first row reads
what is not there. -/
theorem search_leaves_margins :
    (black (rightmost 4096 2160) : SearchedMacroblock 4096 2160).Placed ∧
      ¬ (black (rightmost 4096 2160) : SearchedMacroblock 4096 2160).Legal
        Costs.unfilled :=
  ⟨rightmost_placed (by decide) (by decide),
    rightmost_illegal Costs.unfilled (by decide) (by decide)⟩

end SearchedMacroblock

end Salsify.Encoder
