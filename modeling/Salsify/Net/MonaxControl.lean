import Salsify.Net.MonaxScoring

namespace Salsify.Net

open Fallible

/-! What every run of the controller keeps: its step sizes and its send period
in their ranges, and each label beside the prediction that it judges. -/

section Vector

variable {α : Type}

def recent (limit : Nat) (values : List α) : List α :=
  values.drop (values.length - limit)

theorem recent_of_le {limit : Nat} {values : List α}
    (h : values.length ≤ limit) : recent limit values = values := by
  rw [recent, Nat.sub_eq_zero_of_le h, List.drop_zero]

theorem keep_recent {limit : Nat} (hlimit : 0 < limit) (values : List α)
    (value : α) :
    keep limit (recent limit values) value = recent limit (values ++ [value]) := by
  have hlength : (recent limit values).length = min values.length limit := by
    rw [recent, List.length_drop]
    omega
  have happend : (values ++ [value]).length = values.length + 1 :=
    List.length_append
  unfold keep
  by_cases hshort : values.length < limit
  · rw [if_pos (by omega), recent_of_le (Nat.le_of_lt hshort),
      recent_of_le (by omega)]
  · rw [if_neg (by omega)]
    have hdrop : (values ++ [value]).length - limit =
        values.length - limit + 1 := by omega
    rw [recent, recent, hdrop, List.drop_append_of_le_length (by omega),
      List.tail_drop]

end Vector

namespace Monax

variable {φ : Type} [FloatingPoint φ]

theorem argmax_le (vector : List φ) : argmax vector ≤ vector.length := by
  unfold argmax
  apply List.foldlRecOn (motive := fun best : Nat × Option φ =>
    best.1 ≤ vector.length)
  · exact Nat.zero_le _
  · intro best hbest i hi
    have hlt := List.mem_range.mp hi
    split
    · split
      · exact Nat.le_of_lt hlt
      · exact hbest
    · exact Nat.le_of_lt hlt
    · exact hbest

/-- A choice of the best model by any accuracies, as the code computes them from
elements that may be past the labels. -/
def chooseAnyModel (accuracy : Nat → φ) (monax : Monax φ) : Monax φ :=
  let modelAccuracy := monax.modelAccuracy.mapIdx fun i _ => accuracy i
  { monax with
    modelAccuracy := modelAccuracy
    currentModel := argmax modelAccuracy }

def changeAnyModel (accuracy : Nat → φ) (monax : Monax φ) :
    Except Failure (Monax φ) := do
  let rising ← rises monax.monitorPara
  if rising then
    if monax.usedModel < monax.modelNum - 1 then return tryNextModel monax
    else return chooseAnyModel accuracy monax
  else
    return monax

theorem assessModels_length {monax : Monax φ} {accuracies : List φ}
    (h : assessModels monax = .ok accuracies) :
    accuracies.length = monax.modelAccuracy.length := by
  refine foldlM_invariant
    (fun accuracies : List φ => accuracies.length = monax.modelAccuracy.length)
    (fun state next i _ hstate hturn => ?_) rfl h
  obtain ⟨predictions, -, hturn⟩ := bind_eq_ok hturn
  obtain ⟨accuracy, -, hturn⟩ := bind_eq_ok hturn
  exact (setElement_eq_ok hturn).2.trans hstate

/-- Where the scores are all there, they are among those of which any is
allowed. -/
theorem changeAnyModel_of_changeModel {monax changed : Monax φ}
    (h : changeModel monax = .ok changed) :
    ∃ accuracy, changeAnyModel accuracy monax = .ok changed := by
  obtain ⟨rising, hrising, h⟩ := bind_eq_ok h
  unfold changeAnyModel
  rw [hrising]
  simp only [ok_bind]
  split at h
  · next hrise =>
      split at h
      · next hunused =>
          refine ⟨fun _ => FloatingPoint.ofInt 0, ?_⟩
          rw [if_pos hrise, if_pos hunused, h]
      · next hused =>
          obtain ⟨accuracies, haccuracies, h⟩ := bind_eq_ok h
          refine ⟨fun i => accuracies.getD i (FloatingPoint.ofInt 0), ?_⟩
          have hsame : (monax.modelAccuracy.mapIdx fun i _ =>
              accuracies.getD i (FloatingPoint.ofInt 0)) = accuracies := by
            apply List.ext_getElem
            · rw [List.length_mapIdx, assessModels_length haccuracies]
            · intro i hi hread
              rw [List.getElem_mapIdx, List.getD_eq_getElem?_getD,
                List.getElem?_eq_getElem hread, Option.getD_some]
          rw [if_pos hrise, if_neg hused, chooseAnyModel, hsame]
          exact h
  · next hstays =>
      refine ⟨fun _ => FloatingPoint.ofInt 0, ?_⟩
      rw [if_neg hstays, h]

structure SameControl (one other : Monax φ) : Prop where
  speedupStep : other.speedupStep = one.speedupStep
  slowdownStep : other.slowdownStep = one.slowdownStep
  speedupStepChangeRate :
    other.speedupStepChangeRate = one.speedupStepChangeRate
  slowdownStepChangeRate :
    other.slowdownStepChangeRate = one.slowdownStepChangeRate
  stepsizeMax : other.stepsizeMax = one.stepsizeMax
  stepsizeMin : other.stepsizeMin = one.stepsizeMin
  sndPeriod : other.sndPeriod = one.sndPeriod

structure InRange (monax : Monax φ) : Prop where
  stepsizeMax : monax.stepsizeMax = 300
  stepsizeMin : monax.stepsizeMin = 50
  speedupStepChangeRate : 0 ≤ monax.speedupStepChangeRate
  slowdownStepChangeRate : 0 ≤ monax.slowdownStepChangeRate
  speedupStep : 50 ≤ monax.speedupStep ∧ monax.speedupStep ≤ 300
  slowdownStep : 50 ≤ monax.slowdownStep ∧ monax.slowdownStep ≤ 300
  sndPeriod : 10 ≤ monax.sndPeriod ∧ monax.sndPeriod ≤ 2000

omit [FloatingPoint φ] in
theorem InRange.of_same {one other : Monax φ} (h : one.InRange)
    (hsame : SameControl one other) : other.InRange where
  stepsizeMax := hsame.stepsizeMax.trans h.stepsizeMax
  stepsizeMin := hsame.stepsizeMin.trans h.stepsizeMin
  speedupStepChangeRate := by
    rw [hsame.speedupStepChangeRate]
    exact h.speedupStepChangeRate
  slowdownStepChangeRate := by
    rw [hsame.slowdownStepChangeRate]
    exact h.slowdownStepChangeRate
  speedupStep := by
    rw [hsame.speedupStep]
    exact h.speedupStep
  slowdownStep := by
    rw [hsame.slowdownStep]
    exact h.slowdownStep
  sndPeriod := by
    rw [hsame.sndPeriod]
    exact h.sndPeriod

theorem recordLabel_control {monax labelled : Monax φ} {utility : φ}
    (h : recordLabel monax utility = .ok labelled) :
    SameControl monax labelled := by
  unfold recordLabel at h
  split at h
  · obtain ⟨predictions, -, rfl⟩ := startHistories_eq_ok h
    exact ⟨rfl, rfl, rfl, rfl, rfl, rfl, rfl⟩
  · obtain ⟨before, decision, -, -, rfl⟩ := learnLabel_eq_ok h
    exact ⟨rfl, rfl, rfl, rfl, rfl, rfl, rfl⟩

theorem modifyStepSize_inRange {monax stepped : Monax φ} (hrange : monax.InRange)
    (h : modifyStepSize monax = .ok stepped) : stepped.InRange := by
  have hclamp (scaled : Int) :
      50 ≤ max (min monax.stepsizeMax scaled) monax.stepsizeMin ∧
        max (min monax.stepsizeMax scaled) monax.stepsizeMin ≤ 300 := by
    rw [hrange.stepsizeMax, hrange.stepsizeMin]
    omega
  unfold modifyStepSize at h
  split at h
  · obtain ⟨speedupPred, -, h⟩ := bind_eq_ok h
    obtain ⟨speedupLabel, -, h⟩ := bind_eq_ok h
    cases h
    exact { hrange with
      speedupStep := hclamp _
      slowdownStep := hclamp _ }
  · cases h
    exact hrange

theorem updateModel_control {monax updated : Monax φ} {sample : List φ}
    (h : updateModel monax sample = .ok updated) :
    SameControl monax updated := by
  obtain ⟨weighted, -, h⟩ := bind_eq_ok h
  obtain ⟨grad, -, h⟩ := bind_eq_ok h
  obtain ⟨learned, -, h⟩ := bind_eq_ok h
  obtain ⟨para, -, h⟩ := bind_eq_ok h
  cases h
  exact ⟨rfl, rfl, rfl, rfl, rfl, rfl, rfl⟩

theorem predictAll_inRange {monax : Monax φ} {sample : List φ}
    {state : Monax φ × φ} (hrange : monax.InRange)
    (h : predictAll monax sample = .ok state) : state.1.InRange := by
  refine foldlM_invariant (fun state : Monax φ × φ => state.1.InRange)
    (fun state next i _ hstate hturn => ?_) hrange h
  obtain ⟨⟨prediction, prob⟩, -, hturn⟩ := bind_eq_ok hturn
  obtain ⟨predictions, -, hturn⟩ := bind_eq_ok hturn
  split at hturn
  · cases hturn
    exact hstate.of_same ⟨rfl, rfl, rfl, rfl, rfl, rfl, rfl⟩
  · cases hturn
    exact hstate.of_same ⟨rfl, rfl, rfl, rfl, rfl, rfl, rfl⟩

theorem learn_inRange {monax : Monax φ} {state : Monax φ × φ}
    (hrange : monax.InRange) (h : learn monax = .ok state) :
    state.1.InRange := by
  obtain ⟨sample, -, h⟩ := bind_eq_ok h
  obtain ⟨cwnd, -, h⟩ := bind_eq_ok h
  obtain ⟨utility, -, h⟩ := bind_eq_ok h
  obtain ⟨labelled, hlabelled, h⟩ := bind_eq_ok h
  obtain ⟨stepped, hstepped, h⟩ := bind_eq_ok h
  obtain ⟨updated, hupdated, h⟩ := bind_eq_ok h
  have hstart : InRange
      { monax with currentCWND := FloatingPoint.toInt cwnd } :=
    hrange.of_same ⟨rfl, rfl, rfl, rfl, rfl, rfl, rfl⟩
  have hlabel := hstart.of_same (recordLabel_control hlabelled)
  have hstep := modifyStepSize_inRange hlabel hstepped
  exact predictAll_inRange (hstep.of_same (updateModel_control hupdated)) h

theorem changeAnyModel_control {accuracy : Nat → φ} {monax changed : Monax φ}
    (h : changeAnyModel accuracy monax = .ok changed) :
    SameControl monax changed := by
  obtain ⟨rising, -, h⟩ := bind_eq_ok h
  split at h
  · split at h
    · cases h
      exact ⟨rfl, rfl, rfl, rfl, rfl, rfl, rfl⟩
    · cases h
      exact ⟨rfl, rfl, rfl, rfl, rfl, rfl, rfl⟩
  · cases h
    exact ⟨rfl, rfl, rfl, rfl, rfl, rfl, rfl⟩

theorem changeAnyModel_records {accuracy : Nat → φ} {monax changed : Monax φ}
    (h : changeAnyModel accuracy monax = .ok changed) :
    SameRecords monax changed := by
  obtain ⟨rising, -, h⟩ := bind_eq_ok h
  split at h
  · split at h
    · cases h
      exact ⟨rfl, rfl, rfl, rfl, rfl, rfl⟩
    · cases h
      exact ⟨rfl, rfl, rfl, rfl, rfl, rfl⟩
  · cases h
    exact SameRecords.refl _

theorem clampInterval_inRange (interval : Int) :
    10 ≤ clampInterval interval ∧ clampInterval interval ≤ 2000 := by
  unfold clampInterval INTERVAL_MIN INTERVAL_MAX
  omega

theorem rateControl_inRange {monax : Monax φ} {result : φ}
    {controlled : Monax φ × Int} (hrange : monax.InRange)
    (h : rateControl monax result = .ok controlled) :
    InRange { controlled.1 with sndPeriod := controlled.2 } := by
  have hspeedup := hrange.speedupStep
  have hslowdown := hrange.slowdownStep
  have hspeedupRate := hrange.speedupStepChangeRate
  have hslowdownRate := hrange.slowdownStepChangeRate
  have hmax := hrange.stepsizeMax
  obtain ⟨delay, -, h⟩ := bind_eq_ok h
  split at h
  · obtain ⟨again, -, h⟩ := bind_eq_ok h
    cases h
    exact { hrange with
      speedupStep := by
        dsimp only
        split <;> omega
      sndPeriod := clampInterval_inRange _ }
  · split at h
    · obtain ⟨again, -, h⟩ := bind_eq_ok h
      cases h
      exact { hrange with
        slowdownStep := by
          dsimp only
          split <;> omega
        sndPeriod := clampInterval_inRange _ }
    · cases h
      exact hrange

theorem act_inRange {monax next : Monax φ} {rand : Nat × Nat} {prob : φ}
    (hrange : monax.InRange) (h : act monax rand prob = .ok next) :
    next.InRange := by
  obtain ⟨⟨decision, decisionProb⟩, -, h⟩ := bind_eq_ok h
  obtain ⟨⟨controlled, sendPeriod⟩, hcontrolled, h⟩ := bind_eq_ok h
  obtain ⟨interventionProb, -, h⟩ := bind_eq_ok h
  cases h
  have hdecided : InRange { monax with
      historyDecision := keep SAVEHISTORY monax.historyDecision decision } :=
    hrange.of_same ⟨rfl, rfl, rfl, rfl, rfl, rfl, rfl⟩
  exact (rateControl_inRange hdecided hcontrolled).of_same
    ⟨rfl, rfl, rfl, rfl, rfl, rfl, rfl⟩

/-- What the sender measures before a call of `calcCCPara`, and the accuracies
if the models are scored there. -/
structure Turn (φ : Type) where
  realRtt : φ
  deliveryRate : φ
  flightSize : Int
  wndSize : Int
  rand : Nat × Nat
  accuracy : Nat → φ

/-- The period that the controller has given is the one that it is set to. -/
def Turn.epoch (turn : Turn φ) (monax : Monax φ) : Epoch φ where
  realRtt := turn.realRtt
  deliveryRate := turn.deliveryRate
  flightSize := turn.flightSize
  sndPeriod := monax.sndPeriod
  wndSize := turn.wndSize
  rand := turn.rand

def turnStep (monax : Monax φ) (turn : Turn φ) : Except Failure (Monax φ) := do
  let measured := monax.measure (turn.epoch monax)
  if measured.monitorPara.networkDelay.length < MONITOR_LEN then
    return measured
  else
    let (learned, prob) ← learn measured
    let changed ← changeAnyModel turn.accuracy learned
    act changed turn.rand prob

theorem turnStep_of_step {monax next : Monax φ} {epoch : Epoch φ}
    (hperiod : epoch.sndPeriod = monax.sndPeriod)
    (h : step monax epoch = .ok next) :
    ∃ turn : Turn φ, turnStep monax turn = .ok next := by
  let turn (accuracy : Nat → φ) : Turn φ :=
    { realRtt := epoch.realRtt, deliveryRate := epoch.deliveryRate,
      flightSize := epoch.flightSize, wndSize := epoch.wndSize,
      rand := epoch.rand, accuracy }
  have hepoch (accuracy : Nat → φ) : (turn accuracy).epoch monax = epoch := by
    rw [Turn.epoch, ← hperiod]
  unfold step calcCCPara at h
  split at h
  · next hshort =>
      refine ⟨turn fun _ => FloatingPoint.ofInt 0, ?_⟩
      rw [turnStep, hepoch, if_pos hshort]
      exact h
  · next hacting =>
      obtain ⟨⟨learned, prob⟩, hlearned, h⟩ := bind_eq_ok h
      obtain ⟨changed, hchanged, h⟩ := bind_eq_ok h
      obtain ⟨accuracy, haccuracy⟩ := changeAnyModel_of_changeModel hchanged
      refine ⟨turn accuracy, ?_⟩
      rw [turnStep, hepoch, if_neg hacting, hlearned, ok_bind]
      dsimp only
      rw [haccuracy, ok_bind]
      exact h

structure Choice (monax : Monax φ) : Prop where
  usedModel_le : monax.usedModel ≤ 7
  currentModel : monax.usedModel < 7 → monax.currentModel = monax.usedModel
  modelAccuracy : monax.modelAccuracy.length = monax.usedModel

omit [FloatingPoint φ] in
theorem Choice.congr {one other : Monax φ} (h : one.Choice)
    (hused : other.usedModel = one.usedModel)
    (hcurrent : other.currentModel = one.currentModel)
    (haccuracy : other.modelAccuracy = one.modelAccuracy) : other.Choice where
  usedModel_le := by
    rw [hused]
    exact h.usedModel_le
  currentModel := by
    rw [hused, hcurrent]
    exact h.currentModel
  modelAccuracy := by
    rw [hused, haccuracy]
    exact h.modelAccuracy

structure Controlled (count : Nat) (monax : Monax φ) : Prop where
  sized : monax.Sized (min (count - 9) 100) (predictionsAfter (count - 9))
    (predictionsAfter (count - 9))
  coldstart : monax.coldstart = decide (count < 10)
  utilities : 10 ≤ count → 2 ≤ monax.utilityRecord.length
  histories : 10 ≤ count → ∀ i, i < 8 → ∀ predictions,
    monax.modelHistoryPrediction[i]? = some predictions → predictions ≠ []
  choice : monax.Choice
  networkDelay : monax.monitorPara.networkDelay.length = min count 10
  deliveryRate : monax.monitorPara.deliveryRate.length = min count 10
  cwnd : monax.monitorPara.cwnd.length = min count 10
  inRange : monax.InRange

theorem controlled_init (alpha beta lambda1 lambda2 : φ) (initialCwnd : Int) :
    Controlled 0 (init 5 alpha beta lambda1 lambda2 initialCwnd 500) := by
  have hinv := inv_init alpha beta lambda1 lambda2 initialCwnd 500
  have hrate : (0 : Int) ≤ 50 := by decide
  have hstep : (50 : Int) ≤ 100 ∧ (100 : Int) ≤ 300 := by decide
  have hperiod : (10 : Int) ≤ 500 ∧ (500 : Int) ≤ 2000 := by decide
  exact ⟨hinv.sized, hinv.coldstart, hinv.utilities, hinv.histories,
    ⟨Nat.zero_le 7, fun _ => rfl, rfl⟩, rfl, rfl, rfl,
    ⟨rfl, rfl, hrate, hrate, hstep, hstep, hperiod⟩⟩

theorem measure_control (monax : Monax φ) (turn : Turn φ) :
    SameControl monax (monax.measure (turn.epoch monax)) := by
  constructor <;> simp only [measure, setRealRtt, setDeliveryRate,
    setFlightSize, setSndPeriod, setWndSize, Turn.epoch]

theorem Controlled.measure {count : Nat} {monax : Monax φ}
    (h : Controlled count monax) (epoch : Epoch φ) :
    (monax.measure epoch).monitorPara.networkDelay.length =
        min (count + 1) 10 ∧
      (monax.measure epoch).monitorPara.deliveryRate.length =
        min (count + 1) 10 ∧
      (monax.measure epoch).monitorPara.cwnd.length = min (count + 1) 10 :=
  ⟨keep_monitor h.networkDelay _, keep_monitor h.deliveryRate _,
    keep_monitor h.cwnd _⟩

theorem turnStep_of_short {count : Nat} {monax : Monax φ}
    (h : Controlled count monax) (turn : Turn φ) (hshort : count < 9) :
    turnStep monax turn = .ok (monax.measure (turn.epoch monax)) ∧
      Controlled (count + 1) (monax.measure (turn.epoch monax)) := by
  obtain ⟨hdelay, hrate, hcwnd⟩ := h.measure (turn.epoch monax)
  have hrange := h.inRange.of_same (measure_control monax turn)
  have hsame := measure_same monax (turn.epoch monax)
  have hsized := h.sized
  have hcold : decide (count + 1 < 10) = decide (count < 10) := by
    rw [decide_eq_decide]
    omega
  have hbefore : count - 9 = 0 := by omega
  have hafter : count + 1 - 9 = 0 := by omega
  rw [hbefore] at hsized
  constructor
  · rw [turnStep, if_pos]
    · rfl
    · rw [hdelay, MONITOR_LEN]
      omega
  · refine ⟨?_, ?_, fun hlong => ?_, fun hlong => ?_,
      h.choice.congr hsame.usedModel hsame.currentModel hsame.modelAccuracy,
      hdelay, hrate, hcwnd, hrange⟩
    · rw [hafter]
      exact hsized.of_same hsame
    · rw [hcold, hsame.coldstart]
      exact h.coldstart
    · omega
    · omega

theorem rises_succeeds {monitorPara : MonitorPara φ}
    (h : monitorPara.networkDelay.length = 10) :
    Succeeds (rises monitorPara) fun _ => True := by
  unfold rises
  apply (element_succeeds (by omega) _).bind
  intro delay4 _
  apply (element_succeeds (by omega) _).bind
  intro delay3 _
  apply (element_succeeds (by omega) _).bind
  intro delay2 _
  apply (element_succeeds (by omega) _).bind
  intro delay1 _
  exact succeeds_pure trivial

theorem changeAnyModel_succeeds (accuracy : Nat → φ) {monax : Monax φ}
    {labels predictions decisions : Nat}
    (h : monax.Sized labels predictions decisions) (hchoice : monax.Choice)
    (hdelay : monax.monitorPara.networkDelay.length = 10) :
    Succeeds (changeAnyModel accuracy monax) fun changed =>
      changed.Sized labels predictions decisions ∧ changed.Choice ∧
        changed.utilityRecord = monax.utilityRecord ∧
        changed.modelHistoryPrediction = monax.modelHistoryPrediction ∧
        changed.coldstart = monax.coldstart ∧
        changed.monitorPara = monax.monitorPara := by
  have hle := hchoice.usedModel_le
  have hlength := hchoice.modelAccuracy
  have hsized (modelAccuracy : List φ) (usedModel : Nat) {currentModel : Nat}
      (hcurrent : currentModel < 8) :
      Sized labels predictions decisions { monax with
        modelAccuracy := modelAccuracy
        usedModel := usedModel
        currentModel := currentModel } :=
    ⟨h.inputDim, h.modelNum, h.models, hcurrent, h.labels, h.predictions,
      h.decisions, h.histories⟩
  unfold changeAnyModel
  apply (rises_succeeds hdelay).bind
  intro rising _
  split
  · split
    · next hunused =>
        rw [h.modelNum] at hunused
        have hcurrent := hchoice.currentModel hunused
        apply succeeds_pure
        refine ⟨hsized _ _ (by omega), ⟨Nat.succ_le_of_lt hunused, fun _ => ?_,
          ?_⟩, rfl, rfl, rfl, rfl⟩
        · exact congrArg (· + 1) hcurrent
        · exact List.length_append.trans (congrArg (· + 1) hlength)
    · next hused =>
        rw [h.modelNum] at hused
        have hscored : (monax.modelAccuracy.mapIdx
            fun i _ => accuracy i).length = monax.usedModel := by
          rw [List.length_mapIdx, hlength]
        have hargmax := argmax_le (monax.modelAccuracy.mapIdx
          fun i _ => accuracy i)
        apply succeeds_pure
        refine ⟨hsized _ _ (by omega), ⟨hle, fun hunused => ?_, hscored⟩, rfl,
          rfl, rfl, rfl⟩
        exact absurd hunused hused
  · exact succeeds_pure ⟨h, hchoice, rfl, rfl, rfl, rfl⟩

theorem learn_of_controlled {count : Nat} {monax : Monax φ}
    (h : Controlled count monax) (epoch : Epoch φ) (hacting : 9 ≤ count) :
    Succeeds (learn (monax.measure epoch)) fun state =>
      Learned (monax.measure epoch) (count - 9) state.1 := by
  obtain ⟨hdelay, hrate, hcwnd⟩ := h.measure epoch
  exact learn_measured h.sized h.coldstart h.utilities h.histories epoch hacting
    hdelay hrate hcwnd

theorem turn_acts {count : Nat} {monax : Monax φ} (h : Controlled count monax)
    (turn : Turn φ) (hacting : 9 ≤ count) :
    ∃ learned prob changed next,
      learn (monax.measure (turn.epoch monax)) = .ok (learned, prob) ∧
        changeAnyModel turn.accuracy learned = .ok changed ∧
        act changed turn.rand prob = .ok next ∧ Controlled (count + 1) next := by
  obtain ⟨hdelay, hrate, hcwnd⟩ := h.measure (turn.epoch monax)
  have hfull : min (count + 1) 10 = 10 := by omega
  have hcontrol := measure_control monax turn
  have hsame := measure_same monax (turn.epoch monax)
  obtain ⟨⟨learned, prob⟩, hlearn, hlearned⟩ :=
    learn_of_controlled h (turn.epoch monax) hacting
  dsimp only at hlearned
  have hsameChoice := hlearned.same
  have hlearnedChoice : learned.Choice := h.choice.congr
    (hsameChoice.usedModel.trans hsame.usedModel)
    (hsameChoice.currentModel.trans hsame.currentModel)
    (hsameChoice.modelAccuracy.trans hsame.modelAccuracy)
  have hdelays : learned.monitorPara.networkDelay.length = 10 := by
    rw [hlearned.same.monitorPara, hdelay, hfull]
  obtain ⟨changed, hchange, hchanged, hchoice, hutilities, hhistories,
      hcoldstart, hpara⟩ :=
    changeAnyModel_succeeds turn.accuracy hlearned.sized hlearnedChoice hdelays
  have hpredictions : min (count - 9 + 2) 100 =
      min (min (count - 9 + 1) 100 + 1) 100 := by omega
  have hafter : predictionsAfter (count + 1 - 9) =
      min (min (count - 9 + 1) 100 + 1) 100 := by
    rw [predictionsAfter, if_neg (by omega)]
    omega
  rw [hpredictions] at hchanged
  obtain ⟨next, hact, hnext, hactUtilities, hactHistories, hactCold, hactSame⟩ :=
    act_succeeds (by omega) (Nat.min_le_right _ _) hchanged
      (by rw [hutilities]; exact hlearned.utilities)
      (by rw [hpara]; exact hdelays) turn.rand prob
  have hmonitor : next.monitorPara =
      (monax.measure (turn.epoch monax)).monitorPara :=
    hactSame.monitorPara.trans (hpara.trans hlearned.same.monitorPara)
  refine ⟨learned, prob, changed, next, hlearn, hchange, hact, ?_⟩
  exact {
    sized := by
      have hlabels : min (count + 1 - 9) 100 = min (count - 9 + 1) 100 := by
        omega
      rw [hafter, hlabels]
      exact hnext
    coldstart := by
      rw [hactCold, hcoldstart, hlearned.coldstart, eq_comm,
        decide_eq_false_iff_not]
      omega
    utilities := fun _ => by
      rw [hactUtilities, hutilities]
      exact hlearned.utilities
    histories := fun _ => by
      rw [hactHistories, hhistories]
      exact hlearned.histories
    choice := hchoice.congr hactSame.usedModel hactSame.currentModel
      hactSame.modelAccuracy
    networkDelay := by
      rw [hmonitor]
      exact hdelay
    deliveryRate := by
      rw [hmonitor]
      exact hrate
    cwnd := by
      rw [hmonitor]
      exact hcwnd
    inRange := act_inRange ((learn_inRange (h.inRange.of_same hcontrol)
      hlearn).of_same (changeAnyModel_control hchange)) hact }

/-- The three histories with the calls of `action` that their values are about,
and the number of calls. -/
structure Notes where
  calls : Nat := 0
  predictions : List Entry := []
  decisions : List Entry := []
  labels : List Entry := []

/-- A label is about the decision that it is computed from. -/
def Notes.record (notes : Notes) (coldstart : Bool) (label : Int) : Notes :=
  if coldstart then
    { notes with
      predictions := notes.predictions ++ [⟨none, 0⟩]
      decisions := notes.decisions ++ [⟨none, 0⟩]
      labels := notes.labels ++ [⟨none, 0⟩] }
  else
    { notes with
      labels := keep SAVEHISTORY notes.labels
        ⟨notes.decisions.getLast?.bind Entry.origin, label⟩ }

def Notes.predict (notes : Notes) (prediction decision : Int) : Notes where
  calls := notes.calls + 1
  predictions :=
    keep SAVEHISTORY notes.predictions ⟨some notes.calls, prediction⟩
  decisions := keep SAVEHISTORY notes.decisions ⟨some notes.calls, decision⟩
  labels := notes.labels

def notedTurn (state : Monax φ × Notes) (turn : Turn φ) :
    Except Failure (Monax φ × Notes) := do
  let measured := state.1.measure (turn.epoch state.1)
  if measured.monitorPara.networkDelay.length < MONITOR_LEN then
    return (measured, state.2)
  else
    let (learned, prob) ← learn measured
    let changed ← changeAnyModel turn.accuracy learned
    let next ← act changed turn.rand prob
    let labelled := state.2.record measured.coldstart
      (latest learned.historyLabel)
    return (next, labelled.predict (latest next.historyPrediction)
      (latest next.historyDecision))

theorem turnStep_of_notedTurn {state next : Monax φ × Notes} {turn : Turn φ}
    (h : notedTurn state turn = .ok next) :
    turnStep state.1 turn = .ok next.1 := by
  unfold notedTurn at h
  unfold turnStep
  dsimp only at h ⊢
  split at h
  · next hshort =>
      cases h
      rw [if_pos hshort]
      rfl
  · next hacting =>
      obtain ⟨⟨learned, prob⟩, hlearn, h⟩ := bind_eq_ok h
      obtain ⟨changed, hchange, h⟩ := bind_eq_ok h
      obtain ⟨acted, hact, h⟩ := bind_eq_ok h
      cases h
      rw [if_neg hacting, hlearn, ok_bind]
      dsimp only
      rw [hchange, ok_bind, hact]

/-- The values of the histories are those that are noted, and each label is
about the same decision as the prediction beside it. -/
structure Notes.Aligned (notes : Notes) (monax : Monax φ) : Prop where
  length : monax.historyPrediction.length = monax.historyLabel.length
  predictions : notes.predictions.map Entry.value = monax.historyPrediction
  labels : notes.labels.map Entry.value = monax.historyLabel
  origins : notes.labels.map Entry.origin = notes.predictions.map Entry.origin

/-- The decisions in the order of the calls, after the one of the cold start. -/
def origins (calls : Nat) : List (Option Nat) :=
  none :: (List.range calls).map some

theorem origins_succ (calls : Nat) :
    origins (calls + 1) = origins calls ++ [some calls] := by
  rw [origins, origins, List.range_succ, List.map_append]
  rfl

theorem recent_origins_getLast? (calls : Nat) :
    (recent SAVEHISTORY (origins (calls + 1))).getLast? = some (some calls) := by
  rw [origins_succ, ← keep_recent (by decide)]
  exact keep_getLast? _ _ _

structure Notes.Follows (notes : Notes) (calls : Nat) (monax : Monax φ) :
    Prop where
  calls_eq : notes.calls = calls
  predictions : notes.predictions.map Entry.value = monax.historyPrediction
  decisions : notes.decisions.map Entry.value = monax.historyDecision
  labels : notes.labels.map Entry.value = monax.historyLabel
  predicted : notes.predictions.map Entry.origin =
    if calls = 0 then [] else recent SAVEHISTORY (origins calls)
  decided : notes.decisions.map Entry.origin =
    if calls = 0 then [] else recent SAVEHISTORY (origins calls)
  labelled : notes.labels.map Entry.origin =
    if calls = 0 then [] else recent SAVEHISTORY (origins (calls - 1))

omit [FloatingPoint φ] in
theorem Notes.Follows.of_same {one other : Monax φ} {notes : Notes} {calls : Nat}
    (h : notes.Follows calls one) (hsame : SameRecords one other) :
    notes.Follows calls other :=
  { h with
    predictions := h.predictions.trans hsame.historyPrediction.symm
    decisions := h.decisions.trans hsame.historyDecision.symm
    labels := h.labels.trans hsame.historyLabel.symm }

structure Notes.Judged (notes : Notes) (calls : Nat) (monax : Monax φ) :
    Prop where
  calls_eq : notes.calls = calls
  predictions : notes.predictions.map Entry.value = monax.historyPrediction
  decisions : notes.decisions.map Entry.value = monax.historyDecision
  labels : notes.labels.map Entry.value = monax.historyLabel
  predicted : notes.predictions.map Entry.origin =
    recent SAVEHISTORY (origins calls)
  decided : notes.decisions.map Entry.origin =
    recent SAVEHISTORY (origins calls)
  labelled : notes.labels.map Entry.origin = recent SAVEHISTORY (origins calls)

omit [FloatingPoint φ] in
theorem Notes.Judged.aligned {notes : Notes} {calls : Nat} {monax : Monax φ}
    (h : notes.Judged calls monax) : notes.Aligned monax where
  length := by
    have hlengths := congrArg List.length (h.labelled.trans h.predicted.symm)
    rw [List.length_map, List.length_map] at hlengths
    rw [← h.predictions, ← h.labels, List.length_map, List.length_map, hlengths]
  predictions := h.predictions
  labels := h.labels
  origins := h.labelled.trans h.predicted.symm

theorem Notes.Follows.record {monax labelled : Monax φ} {notes : Notes}
    {calls : Nat} {utility : φ} (h : notes.Follows calls monax)
    (hcoldstart : monax.coldstart = decide (calls = 0))
    (hlabelled : recordLabel monax utility = .ok labelled) :
    (notes.record monax.coldstart (latest labelled.historyLabel)).Judged calls
      labelled := by
  have hpredicted := h.predicted
  have hdecided := h.decided
  have horigins := h.labelled
  unfold recordLabel at hlabelled
  cases calls with
  | zero =>
      have hcold : monax.coldstart = true := hcoldstart
      rw [if_pos rfl] at hpredicted hdecided horigins
      rw [if_pos hcold] at hlabelled
      obtain ⟨predictions, -, rfl⟩ := startHistories_eq_ok hlabelled
      rw [Notes.record, if_pos hcold]
      refine ⟨h.calls_eq, ?_, ?_, ?_, ?_, ?_, ?_⟩
      · rw [List.map_append, h.predictions]
        rfl
      · rw [List.map_append, h.decisions]
        rfl
      · rw [List.map_append, h.labels]
        rfl
      · rw [List.map_append, hpredicted]
        rfl
      · rw [List.map_append, hdecided]
        rfl
      · rw [List.map_append, horigins]
        rfl
  | succ calls =>
      have hwarm : ¬ monax.coldstart = true := by
        rw [hcoldstart]
        simp
      rw [if_neg (Nat.succ_ne_zero calls)] at hpredicted hdecided horigins
      rw [if_neg hwarm] at hlabelled
      obtain ⟨before, decision, -, -, rfl⟩ := learnLabel_eq_ok hlabelled
      have hlast : notes.decisions.getLast?.bind Entry.origin = some calls := by
        have hmapped := congrArg List.getLast? hdecided
        rw [recent_origins_getLast?, List.getLast?_map] at hmapped
        obtain ⟨last, hlast, horigin⟩ := Option.map_eq_some_iff.mp hmapped
        rw [hlast, Option.bind_some, horigin]
      rw [Notes.record, if_neg hwarm, hlast]
      refine ⟨h.calls_eq, h.predictions, h.decisions, ?_, hpredicted, hdecided,
        ?_⟩
      · rw [keep_map, h.labels, latest, keep_getLast?]
        rfl
      · rw [keep_map, horigins, keep_recent (by decide), origins_succ]
        rfl

omit [FloatingPoint φ] in
theorem Notes.Judged.predict {labelled next : Monax φ} {notes : Notes}
    {calls : Nat} {prediction decision : Int} (h : notes.Judged calls labelled)
    (hprediction : next.historyPrediction =
      keep SAVEHISTORY labelled.historyPrediction prediction)
    (hdecision : next.historyDecision =
      keep SAVEHISTORY labelled.historyDecision decision)
    (hlabel : next.historyLabel = labelled.historyLabel) :
    (notes.predict (latest next.historyPrediction)
      (latest next.historyDecision)).Follows (calls + 1) next where
  calls_eq := congrArg (· + 1) h.calls_eq
  predictions := by
    rw [Notes.predict, keep_map, h.predictions, hprediction, latest,
      keep_getLast?]
    rfl
  decisions := by
    rw [Notes.predict, keep_map, h.decisions, hdecision, latest, keep_getLast?]
    rfl
  labels := h.labels.trans hlabel.symm
  predicted := by
    rw [if_neg (Nat.succ_ne_zero calls), Notes.predict, keep_map, h.predicted,
      keep_recent (by decide), origins_succ, h.calls_eq]
  decided := by
    rw [if_neg (Nat.succ_ne_zero calls), Notes.predict, keep_map, h.decided,
      keep_recent (by decide), origins_succ, h.calls_eq]
  labelled := by
    rw [if_neg (Nat.succ_ne_zero calls), Nat.add_sub_cancel]
    exact h.labelled

theorem predictAll_history {monax : Monax φ} {sample : List φ}
    {state : Monax φ × φ} (h : predictAll monax sample = .ok state)
    (hcurrent : state.1.currentModel < state.1.modelNum) :
    ∃ prediction, state.1.historyPrediction =
      keep SAVEHISTORY monax.historyPrediction prediction := by
  have hrun : state.1.currentModel = monax.currentModel ∧
      state.1.modelNum = monax.modelNum ∧
      if monax.currentModel < monax.modelNum then
        ∃ prediction, state.1.historyPrediction =
          keep SAVEHISTORY monax.historyPrediction prediction
      else state.1.historyPrediction = monax.historyPrediction := by
    refine foldlM_range_invariant (fun i (state : Monax φ × φ) =>
      state.1.currentModel = monax.currentModel ∧
        state.1.modelNum = monax.modelNum ∧
        if monax.currentModel < i then
          ∃ prediction, state.1.historyPrediction =
            keep SAVEHISTORY monax.historyPrediction prediction
        else state.1.historyPrediction = monax.historyPrediction)
      (fun state next i _ hstate hturn => ?_)
      ⟨rfl, rfl, if_neg (Nat.not_lt_zero _) ▸ rfl⟩ h
    obtain ⟨hsame, hmodels, hhistory⟩ := hstate
    obtain ⟨⟨prediction, prob⟩, -, hturn⟩ := bind_eq_ok hturn
    obtain ⟨predictions, -, hturn⟩ := bind_eq_ok hturn
    split at hturn
    · next hi =>
        cases hturn
        rw [if_neg (by omega)] at hhistory
        refine ⟨hsame, hmodels, ?_⟩
        rw [if_pos (by omega)]
        exact ⟨prediction, congrArg (keep SAVEHISTORY · prediction) hhistory⟩
    · next hi =>
        cases hturn
        have hiff : monax.currentModel < i + 1 ↔ monax.currentModel < i := by
          omega
        refine ⟨hsame, hmodels, ?_⟩
        simp only [hiff]
        exact hhistory
  obtain ⟨hsame, hmodels, hhistory⟩ := hrun
  rw [if_pos (by omega)] at hhistory
  exact hhistory

/-- The state in which a call of `action` adjusts the steps. -/
def AdjustsAt (measured labelled : Monax φ) : Prop :=
  ∃ sample cwnd utility stepped,
    readSample measured.monitorPara = .ok sample ∧
    element measured.monitorPara.cwnd 0 "cwnd" = .ok cwnd ∧
    utilityFunction sample = .ok utility ∧
    recordLabel { measured with currentCWND := FloatingPoint.toInt cwnd }
      utility = .ok labelled ∧
    modifyStepSize labelled = .ok stepped

theorem learn_history {monax : Monax φ} {state : Monax φ × φ}
    (h : learn monax = .ok state)
    (hcurrent : state.1.currentModel < state.1.modelNum) :
    ∃ labelled prediction, AdjustsAt monax labelled ∧
      state.1.historyPrediction =
        keep SAVEHISTORY labelled.historyPrediction prediction ∧
      state.1.historyDecision = labelled.historyDecision ∧
      state.1.historyLabel = labelled.historyLabel := by
  obtain ⟨sample, hsample, h⟩ := bind_eq_ok h
  obtain ⟨cwnd, hcwnd, h⟩ := bind_eq_ok h
  obtain ⟨utility, hutility, h⟩ := bind_eq_ok h
  obtain ⟨labelled, hlabelled, h⟩ := bind_eq_ok h
  obtain ⟨stepped, hstepped, h⟩ := bind_eq_ok h
  obtain ⟨updated, hupdated, h⟩ := bind_eq_ok h
  have hsame := (modifyStepSize_records hstepped).trans
    (updateModel_records hupdated)
  have hrecorded := (predictAll_recorded h).of_same hsame
  obtain ⟨prediction, hprediction⟩ := predictAll_history h hcurrent
  rw [hsame.historyPrediction] at hprediction
  exact ⟨labelled, prediction, ⟨sample, cwnd, utility, stepped, hsample, hcwnd,
    hutility, hlabelled, hstepped⟩, hprediction, hrecorded.historyDecision,
    hrecorded.historyLabel⟩

/-- What the next turn of a run finds where it adjusts the steps. -/
def AdjustsAligned (state : Monax φ × Notes) (turn : Turn φ) : Prop :=
  let measured := state.1.measure (turn.epoch state.1)
  MONITOR_LEN ≤ measured.monitorPara.networkDelay.length →
    ∃ labelled, AdjustsAt measured labelled ∧
      (state.2.record measured.coldstart
        (latest labelled.historyLabel)).Aligned labelled

structure Kept (count : Nat) (state : Monax φ × Notes) : Prop where
  controlled : Controlled count state.1
  follows : state.2.Follows (count - 9) state.1

theorem kept_init (alpha beta lambda1 lambda2 : φ) (initialCwnd : Int) :
    Kept 0 (init 5 alpha beta lambda1 lambda2 initialCwnd 500, {}) where
  controlled := controlled_init alpha beta lambda1 lambda2 initialCwnd
  follows := ⟨rfl, rfl, rfl, rfl, rfl, rfl, rfl⟩

theorem Kept.learn {count : Nat} {state : Monax φ × Notes} {turn : Turn φ}
    {learned : Monax φ} {prob : φ} (h : Kept count state) (hacting : 9 ≤ count)
    (hlearn : learn (state.1.measure (turn.epoch state.1)) = .ok (learned, prob)) :
    let measured := state.1.measure (turn.epoch state.1)
    ∃ labelled prediction, AdjustsAt measured labelled ∧
      learned.historyPrediction =
        keep SAVEHISTORY labelled.historyPrediction prediction ∧
      learned.historyDecision = labelled.historyDecision ∧
      learned.historyLabel = labelled.historyLabel ∧
      (state.2.record measured.coldstart
        (latest labelled.historyLabel)).Judged (count - 9) labelled := by
  intro measured
  obtain ⟨⟨found, prob'⟩, hfound, hlearned⟩ :=
    learn_of_controlled h.controlled (turn.epoch state.1) hacting
  cases hlearn.symm.trans hfound
  have hcurrent : learned.currentModel < learned.modelNum := by
    rw [hlearned.sized.modelNum]
    exact hlearned.sized.currentModel
  obtain ⟨labelled, prediction, hadjusts, hprediction, hdecision, hlabel⟩ :=
    learn_history hlearn hcurrent
  obtain ⟨sample, cwnd, utility, stepped, -, -, -, hlabelled, -⟩ := id hadjusts
  have hsame := measure_same state.1 (turn.epoch state.1)
  have hcold : decide (count < 10) = decide (count - 9 = 0) := by
    rw [decide_eq_decide]
    omega
  have hfollows : state.2.Follows (count - 9)
      { measured with currentCWND := FloatingPoint.toInt cwnd } :=
    h.follows.of_same (hsame.records.trans ⟨rfl, rfl, rfl, rfl, rfl, rfl⟩)
  have hjudged := hfollows.record
    (hsame.coldstart.trans (h.controlled.coldstart.trans hcold)) hlabelled
  exact ⟨labelled, prediction, hadjusts, hprediction, hdecision, hlabel,
    hjudged⟩

theorem Kept.adjustsAligned {count : Nat} {state : Monax φ × Notes}
    (h : Kept count state) (turn : Turn φ) : AdjustsAligned state turn := by
  intro hlong
  have hacting : 9 ≤ count := by
    rw [(h.controlled.measure (turn.epoch state.1)).1, MONITOR_LEN] at hlong
    omega
  obtain ⟨learned, prob, -, -, hlearn, -⟩ := turn_acts h.controlled turn hacting
  obtain ⟨labelled, -, hadjusts, -, -, -, hjudged⟩ := h.learn hacting hlearn
  exact ⟨labelled, hadjusts, hjudged.aligned⟩

theorem Kept.turn {count : Nat} {state : Monax φ × Notes} (h : Kept count state)
    (turn : Turn φ) :
    Succeeds (notedTurn state turn) (Kept (count + 1)) := by
  have hdelay := (h.controlled.measure (turn.epoch state.1)).1
  unfold notedTurn
  dsimp only
  rcases Nat.lt_or_ge count 9 with hshort | hacting
  · obtain ⟨-, hnext⟩ := turnStep_of_short h.controlled turn hshort
    rw [if_pos (by rw [hdelay, MONITOR_LEN]; omega)]
    apply succeeds_pure
    refine ⟨hnext, ?_⟩
    have hcalls : count + 1 - 9 = count - 9 := by omega
    rw [hcalls]
    exact h.follows.of_same (measure_same state.1 (turn.epoch state.1)).records
  · obtain ⟨learned, prob, changed, next, hlearn, hchange, hact, hnext⟩ :=
      turn_acts h.controlled turn hacting
    obtain ⟨labelled, prediction, -, hprediction, hdecision, hlabel, hjudged⟩ :=
      h.learn hacting hlearn
    obtain ⟨decision, -, hacts⟩ := act_records hact
    have hchanged := changeAnyModel_records hchange
    rw [if_neg (by rw [hdelay, MONITOR_LEN]; omega), hlearn, ok_bind]
    dsimp only
    rw [hchange, ok_bind, hact, ok_bind, hlabel]
    apply succeeds_pure
    refine ⟨hnext, ?_⟩
    have hcalls : count + 1 - 9 = count - 9 + 1 := by omega
    rw [hcalls]
    have hnextPrediction : next.historyPrediction =
        keep SAVEHISTORY labelled.historyPrediction prediction :=
      hacts.historyPrediction.trans
        (hchanged.historyPrediction.trans hprediction)
    have hnextDecision : next.historyDecision =
        keep SAVEHISTORY labelled.historyDecision decision := by
      rw [hacts.historyDecision]
      dsimp only
      rw [hchanged.historyDecision, hdecision]
    exact hjudged.predict hnextPrediction hnextDecision
      (hacts.historyLabel.trans (hchanged.historyLabel.trans hlabel))

theorem kept_run {count : Nat} {state : Monax φ × Notes} (h : Kept count state)
    (turns : List (Turn φ)) :
    Succeeds (turns.foldlM notedTurn state) (Kept (count + turns.length)) := by
  induction turns generalizing count state with
  | nil => exact succeeds_pure h
  | cons turn turns ih =>
      rw [List.foldlM_cons]
      apply (h.turn turn).bind
      intro next hnext
      have hrest := ih hnext
      rwa [Nat.add_assoc, Nat.add_comm 1] at hrest

theorem turns_kept (alpha beta lambda1 lambda2 : φ) (initialCwnd : Int)
    (turns : List (Turn φ)) :
    let start := init 5 alpha beta lambda1 lambda2 initialCwnd 500
    ∃ monax notes, turns.foldlM turnStep start = .ok monax ∧
      turns.foldlM notedTurn (start, {}) = .ok (monax, notes) ∧
      Kept (0 + turns.length) (monax, notes) := by
  intro start
  have hstart := kept_init alpha beta lambda1 lambda2 initialCwnd
  obtain ⟨⟨monax, notes⟩, hrun, hkept⟩ := kept_run hstart turns
  have hturns : turns.foldlM turnStep start = .ok monax :=
    foldlM_view Prod.fst (fun _ _ _ hturn => turnStep_of_notedTurn hturn) hrun
  exact ⟨monax, notes, hturns, hrun, hkept⟩

/-- Calls of `calcCCPara` that succeed, each with the period that the one before
has given, are turns of the sender. -/
theorem turns_of_run {start last : Monax φ} {epochs : List (Epoch φ)}
    (hperiods : AllSteps step
      (fun monax epoch => epoch.sndPeriod = monax.sndPeriod) start epochs)
    (hrun : epochs.foldlM step start = .ok last) :
    ∃ turns : List (Turn φ), turns.foldlM turnStep start = .ok last := by
  induction epochs generalizing start with
  | nil =>
      cases hrun
      exact ⟨[], rfl⟩
  | cons epoch rest ih =>
      rw [List.foldlM_cons] at hrun
      obtain ⟨next, hnext, hrun⟩ := bind_eq_ok hrun
      obtain ⟨turns, hturns⟩ := ih (hperiods.2 next hnext) hrun
      obtain ⟨turn, hturn⟩ := turnStep_of_step hperiods.1 hnext
      refine ⟨turn :: turns, ?_⟩
      rw [List.foldlM_cons, hturn]
      exact hturns

/-- So the steps and the period stay in their ranges up to the call that reads
outside, if there is one. -/
theorem step_run_controlled {alpha beta lambda1 lambda2 : φ}
    {initialCwnd : Int} {epochs : List (Epoch φ)} {last : Monax φ}
    (hperiods : AllSteps step
      (fun monax epoch => epoch.sndPeriod = monax.sndPeriod)
      (init 5 alpha beta lambda1 lambda2 initialCwnd 500) epochs)
    (hrun : epochs.foldlM step
      (init 5 alpha beta lambda1 lambda2 initialCwnd 500) = .ok last) :
    last.InRange := by
  obtain ⟨turns, hturns⟩ := turns_of_run hperiods hrun
  obtain ⟨monax, notes, hmonax, -, hkept⟩ :=
    turns_kept alpha beta lambda1 lambda2 initialCwnd turns
  obtain rfl := Except.ok.inj (hmonax.symm.trans hturns)
  exact hkept.controlled.inRange

/-- The turns of a run end, whatever the sender measures, whatever accuracies
the models are scored with and whatever the numbers are. The steps and the
period stay in their ranges, and the steps are adjusted by labels and
predictions of the same decisions. -/
theorem run_controlled (alpha beta lambda1 lambda2 : φ) (initialCwnd : Int)
    (turns : List (Turn φ)) :
    let start := init 5 alpha beta lambda1 lambda2 initialCwnd 500
    ∃ monax notes, turns.foldlM turnStep start = .ok monax ∧
      turns.foldlM notedTurn (start, {}) = .ok (monax, notes) ∧
      (50 ≤ monax.speedupStep ∧ monax.speedupStep ≤ 300) ∧
      (50 ≤ monax.slowdownStep ∧ monax.slowdownStep ≤ 300) ∧
      (10 ≤ monax.sndPeriod ∧ monax.sndPeriod ≤ 2000) ∧
      ∀ turn, AdjustsAligned (monax, notes) turn := by
  intro start
  obtain ⟨monax, notes, hturns, hrun, hkept⟩ :=
    turns_kept alpha beta lambda1 lambda2 initialCwnd turns
  have hrange := hkept.controlled.inRange
  exact ⟨monax, notes, hturns, hrun, hrange.speedupStep, hrange.slowdownStep,
    hrange.sndPeriod, hkept.adjustsAligned⟩

end Monax

end Salsify.Net
