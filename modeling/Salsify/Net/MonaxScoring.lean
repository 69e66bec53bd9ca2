import Salsify.Net.MonaxRecords

namespace Salsify.Net

open Fallible

/-! Which decisions the labels and the predictions are about that the models
are scored by. -/

namespace Monax

variable {φ : Type} [FloatingPoint φ]

/-- A value of a history, with the call of `action` whose decision it is about.
The values that the histories are started with are about none. -/
structure Entry where
  origin : Option Nat
  value : Int

/-- The two histories that the models are scored by, and the number of calls
that have filled them. -/
structure Entries where
  calls : Nat := 0
  labels : List Entry := []
  predictions : List (List Entry) := List.replicate 8 []

def latest (values : List Int) : Int := values.getLast?.getD 0

/-- A label judges the decision of the call before. -/
def Entries.record (entries : Entries) (monax learned : Monax φ) : Entries :=
  if monax.coldstart then
    { entries with
      labels := entries.labels ++ [⟨none, 0⟩]
      predictions := entries.predictions.set monax.currentModel
        (entries.predictions.getD monax.currentModel [] ++ [⟨none, 0⟩]) }
  else
    { entries with
      labels := keep SAVEHISTORY entries.labels
        ⟨some (entries.calls - 1), latest learned.historyLabel⟩ }

def Entries.predict (entries : Entries) (learned : Monax φ) : Entries where
  calls := entries.calls + 1
  labels := entries.labels
  predictions := entries.predictions.mapIdx fun i predictions =>
    keep SAVEHISTORY predictions
      ⟨some entries.calls, latest (learned.modelHistoryPrediction.getD i [])⟩

/-- A step that notes which decisions the values are about. -/
def notedStep (state : Monax φ × Entries) (epoch : Epoch φ) :
    Except Failure (Monax φ × Entries) := do
  let measured := state.1.measure epoch
  if measured.monitorPara.networkDelay.length < MONITOR_LEN then
    return (measured, state.2)
  else
    let (learned, prob) ← learn measured
    let changed ← changeModel learned
    let next ← act changed epoch.rand prob
    return (next, (state.2.record measured learned).predict learned)

theorem notedStep_step (state : Monax φ × Entries) (epoch : Epoch φ) :
    (notedStep state epoch).map Prod.fst = step state.1 epoch := by
  unfold notedStep step calcCCPara
  dsimp only
  split
  · rfl
  · unfold action
    cases learn (state.1.measure epoch) with
    | error failure => rfl
    | ok learned =>
        simp only [ok_bind]
        cases changeModel learned.1 with
        | error failure => rfl
        | ok changed =>
            simp only [ok_bind]
            cases act changed epoch.rand learned.2 with
            | error failure => rfl
            | ok next => rfl

theorem step_of_notedStep {state next : Monax φ × Entries} {epoch : Epoch φ}
    (h : notedStep state epoch = .ok next) :
    step state.1 epoch = .ok next.1 := by
  rw [← notedStep_step, h]
  rfl

theorem exists_notedStep {state : Monax φ × Entries} {next : Monax φ}
    {epoch : Epoch φ} (h : step state.1 epoch = .ok next) :
    ∃ entries, notedStep state epoch = .ok (next, entries) := by
  rw [← notedStep_step] at h
  cases hnoted : notedStep state epoch with
  | error failure =>
      rw [hnoted] at h
      cases h
  | ok found =>
      rw [hnoted] at h
      obtain rfl : found.1 = next := Except.ok.inj h
      exact ⟨found.2, rfl⟩

section Keep

variable {α β : Type} {vector : List α}

theorem keep_map (f : α → β) (limit : Nat) (vector : List α) (value : α) :
    (keep limit vector value).map f = keep limit (vector.map f) (f value) := by
  unfold keep
  rw [List.length_map]
  split
  · rw [List.map_append, List.map_singleton]
  · rw [List.map_append, List.map_tail, List.map_singleton]

theorem keep_getLast? (limit : Nat) (vector : List α) (value : α) :
    (keep limit vector value).getLast? = some value := by
  unfold keep
  split
  · exact List.getLast?_concat
  · exact List.getLast?_concat

theorem keep_length_congr {other : List β}
    (h : vector.length = other.length) (limit : Nat) (value : α)
    (otherValue : β) :
    (keep limit vector value).length = (keep limit other otherValue).length := by
  unfold keep
  rw [h]
  split
  · rw [List.length_append, List.length_append, h]
    rfl
  · rw [List.length_append, List.length_append, List.length_tail,
      List.length_tail, h]
    rfl

end Keep

structure Noted (monax : Monax φ) (entries : Entries) : Prop where
  labels : entries.labels.map Entry.value = monax.historyLabel
  predictions : entries.predictions.map (List.map Entry.value) =
    monax.modelHistoryPrediction

omit [FloatingPoint φ] in
theorem Noted.of_same {one other : Monax φ} {entries : Entries}
    (h : Noted one entries) (hsame : SameRecords one other) :
    Noted other entries where
  labels := h.labels.trans hsame.historyLabel.symm
  predictions := h.predictions.trans hsame.modelHistoryPrediction.symm

theorem record_noted {monax labelled learned : Monax φ} {entries : Entries}
    {utility : φ} (h : Noted monax entries)
    (hlabelled : recordLabel monax utility = .ok labelled)
    (hlearned : learned.historyLabel = labelled.historyLabel) :
    Noted labelled (entries.record monax learned) := by
  unfold recordLabel at hlabelled
  unfold Entries.record
  split at hlabelled
  · next hcold =>
      obtain ⟨predictions, hpredictions, rfl⟩ := startHistories_eq_ok hlabelled
      rw [if_pos hcold]
      constructor
      · change (entries.labels ++ [Entry.mk none 0]).map Entry.value = _
        rw [List.map_append, h.labels]
        rfl
      · rw [← h.predictions, List.getElem?_map] at hpredictions
        obtain ⟨found, hfound, rfl⟩ := Option.map_eq_some_iff.mp hpredictions
        change (entries.predictions.set monax.currentModel _).map _ = _
        rw [List.map_set, h.predictions, List.getD_eq_getElem?_getD, hfound,
          Option.getD_some, List.map_append]
        rfl
  · next hwarm =>
      rw [if_neg hwarm]
      obtain ⟨before, decision, -, -, rfl⟩ := learnLabel_eq_ok hlabelled
      refine ⟨?_, h.predictions⟩
      change (keep SAVEHISTORY entries.labels _).map Entry.value = _
      rw [keep_map, h.labels, hlearned]
      change keep _ _ (latest (keep _ _ _)) = _
      rw [latest, keep_getLast?]
      rfl

omit [FloatingPoint φ] in
theorem predict_noted {labelled learned : Monax φ} {entries : Entries}
    {prob : φ} (h : Noted labelled entries)
    (hmodels : labelled.modelHistoryPrediction.length = labelled.modelNum)
    (hrecorded : Recorded labelled labelled.modelNum (learned, prob)) :
    Noted learned (entries.predict learned) := by
  refine ⟨h.labels.trans hrecorded.historyLabel.symm, ?_⟩
  have hlength : entries.predictions.length = labelled.modelNum := by
    rw [← hmodels, ← h.predictions, List.length_map]
  apply List.ext_getElem?
  intro i
  unfold Entries.predict
  rw [List.getElem?_map, List.getElem?_mapIdx]
  rcases Nat.lt_or_ge i labelled.modelNum with hlt | hge
  · have hfound : entries.predictions[i]? =
        some (entries.predictions.get ⟨i, by rw [hlength]; exact hlt⟩) :=
      List.getElem?_eq_getElem _
    have hbefore : labelled.modelHistoryPrediction[i]? =
        some ((entries.predictions.get ⟨i, by rw [hlength]; exact hlt⟩).map
          Entry.value) := by
      rw [← h.predictions, List.getElem?_map, hfound]
      rfl
    obtain ⟨prediction, hprediction⟩ := hrecorded.recorded i hlt _ hbefore
    rw [hprediction, hfound, Option.map_some, Option.map_some, keep_map,
      List.getD_eq_getElem?_getD, hprediction, Option.getD_some, latest,
      keep_getLast?]
    rfl
  · rw [List.getElem?_eq_none (by rw [hlength]; exact hge),
      List.getElem?_eq_none]
    · rfl
    · rw [hrecorded.length, hmodels]
      exact hge

theorem learn_noted {monax learned : Monax φ} {entries : Entries} {prob : φ}
    (h : Noted monax entries)
    (hmodels : monax.modelHistoryPrediction.length = monax.modelNum)
    (hlearn : learn monax = .ok (learned, prob)) :
    Noted learned ((entries.record monax learned).predict learned) := by
  obtain ⟨sample, cwnd, utility, labelled, -, -, -, hlabelled, hrecorded⟩ :=
    learn_eq_ok hlearn
  have hsame : SameRecords monax
      { monax with currentCWND := FloatingPoint.toInt cwnd } :=
    ⟨rfl, rfl, rfl, rfl, rfl, rfl⟩
  have hnoted := record_noted (h.of_same hsame) hlabelled hrecorded.historyLabel
  refine predict_noted hnoted ?_ hrecorded
  unfold recordLabel at hlabelled
  split at hlabelled
  · obtain ⟨predictions, -, rfl⟩ := startHistories_eq_ok hlabelled
    change (monax.modelHistoryPrediction.set _ _).length = _
    rw [List.length_set, hmodels]
  · obtain ⟨before, decision, -, -, rfl⟩ := learnLabel_eq_ok hlabelled
    exact hmodels

theorem noted_step {delays : List φ} {rising : Nat}
    {state next : Monax φ × Entries} {epoch : Epoch φ}
    (hinv : Inv delays rising state.1) (h : Noted state.1 state.2)
    (hstep : notedStep state epoch = .ok next) : Noted next.1 next.2 := by
  have hsame := measure_same state.1 epoch
  have hmeasured := h.of_same hsame.records
  unfold notedStep at hstep
  dsimp only at hstep
  split at hstep
  · cases hstep
    exact hmeasured
  · obtain ⟨⟨learned, prob⟩, hlearn, hstep⟩ := bind_eq_ok hstep
    obtain ⟨changed, hchanged, hstep⟩ := bind_eq_ok hstep
    obtain ⟨acted, hacted, hstep⟩ := bind_eq_ok hstep
    cases hstep
    have hmodels : (state.1.measure epoch).modelHistoryPrediction.length =
        (state.1.measure epoch).modelNum := by
      have hsized := hinv.sized.of_same hsame
      rw [hsized.histories, hsized.modelNum]
    obtain ⟨decision, -, hacts⟩ := act_records hacted
    have hlearned := (learn_noted hmeasured hmodels hlearn).of_same
      (changeModel_records hchanged)
    exact ⟨hlearned.labels.trans hacts.historyLabel.symm,
      hlearned.predictions.trans hacts.modelHistoryPrediction.symm⟩

theorem noted_run {alpha beta lambda1 lambda2 : φ}
    {initialCwnd initialInterval : Int} {epochs : List (Epoch φ)}
    {state : Monax φ × Entries}
    (hrun : epochs.foldlM notedStep
      (init 5 alpha beta lambda1 lambda2 initialCwnd initialInterval, {}) =
        .ok state) :
    Noted state.1 state.2 := by
  have hreached : (∃ delays rising, Inv delays rising state.1) ∧
      Noted state.1 state.2 := by
    refine foldlM_invariant
      (fun state : Monax φ × Entries =>
        (∃ delays rising, Inv delays rising state.1) ∧ Noted state.1 state.2)
      ?_ ?_ hrun
    · rintro before next epoch - ⟨⟨delays, rising, hinv⟩, hnoted⟩ hstep
      exact ⟨⟨_, _, inv_of_step hinv (step_of_notedStep hstep)⟩,
        noted_step hinv hnoted hstep⟩
    · exact ⟨⟨[], 0, inv_init alpha beta lambda1 lambda2 initialCwnd
        initialInterval⟩, rfl, rfl⟩
  exact hreached.2

/-- Each prediction of each model is about the same decision as the label that
it is compared with. -/
def Entries.Aligned (entries : Entries) : Prop :=
  ∀ predictions ∈ entries.predictions, ∀ (i : Nat) prediction label,
    predictions[i]? = some prediction → entries.labels[i]? = some label →
      prediction.origin = label.origin

/-- If the epoch scores the models, their histories are aligned. -/
def ScoringAligned (state : Monax φ × Entries) (epoch : Epoch φ) : Prop :=
  let measured := state.1.measure epoch
  ∀ learned prob,
    MONITOR_LEN ≤ measured.monitorPara.networkDelay.length →
    learn measured = .ok (learned, prob) →
    rises learned.monitorPara = .ok true →
    ¬ learned.usedModel < learned.modelNum - 1 →
    ((state.2.record measured learned).predict learned).Aligned

structure Behind (monax : Monax φ) (entries : Entries) : Prop where
  cold : monax.coldstart = true →
    monax.currentModel = 0 ∧ entries.labels = []
  warm : monax.coldstart = false → 0 < entries.calls
  second : ∃ predictions, entries.predictions[1]? = some predictions ∧
    predictions.length = entries.labels.length

theorem behind_init (alpha beta lambda1 lambda2 : φ)
    (initialCwnd initialInterval : Int) :
    Behind (init 5 alpha beta lambda1 lambda2 initialCwnd initialInterval)
      {} where
  cold := fun _ => ⟨rfl, rfl⟩
  warm := fun h => absurd h nofun
  second := ⟨[], rfl, rfl⟩

omit [FloatingPoint φ] in
theorem Behind.of_same {one other : Monax φ} {entries : Entries}
    (h : Behind one entries) (hsame : SameHistories one other) :
    Behind other entries where
  cold := by
    rw [hsame.coldstart, hsame.currentModel]
    exact h.cold
  warm := by
    rw [hsame.coldstart]
    exact h.warm
  second := h.second

omit [FloatingPoint φ] in
/-- The latest label is about the decision before that of the latest
prediction. -/
theorem behind_learn {monax : Monax φ} {entries : Entries}
    (h : Behind monax entries) (learned : Monax φ) :
    ∃ predictions prediction label,
      ((entries.record monax learned).predict learned).predictions[1]? =
        some predictions ∧
      predictions.length =
        ((entries.record monax learned).predict learned).labels.length ∧
      predictions.getLast? = some prediction ∧
      ((entries.record monax learned).predict learned).labels.getLast? =
        some label ∧
      prediction.origin ≠ label.origin := by
  obtain ⟨before, hbefore, hlength⟩ := h.second
  let prediction : Entry :=
    ⟨some entries.calls, latest (learned.modelHistoryPrediction.getD 1 [])⟩
  refine ⟨keep SAVEHISTORY before prediction, prediction, ?_⟩
  cases hcold : monax.coldstart with
  | true =>
      obtain ⟨hcurrent, hlabels⟩ := h.cold hcold
      rw [hlabels] at hlength
      obtain rfl := List.length_eq_zero_iff.mp hlength
      have hother : 0 ≠ 1 := Nat.zero_ne_one
      refine ⟨⟨none, 0⟩, ?_, ?_, rfl, ?_, nofun⟩
      · rw [Entries.predict, Entries.record, if_pos hcold, hcurrent]
        simp only [List.getElem?_mapIdx, List.getElem?_set_ne hother, hbefore]
        rfl
      · rw [Entries.predict, Entries.record, if_pos hcold, hlabels]
        rfl
      · rw [Entries.predict, Entries.record, if_pos hcold, hlabels]
        rfl
  | false =>
      have hcalls := h.warm hcold
      have hwarm : ¬ monax.coldstart = true := by
        rw [hcold]
        exact Bool.false_ne_true
      refine ⟨⟨some (entries.calls - 1), latest learned.historyLabel⟩, ?_, ?_,
        keep_getLast? _ _ _, ?_, ?_⟩
      · rw [Entries.predict, Entries.record, if_neg hwarm]
        simp only [List.getElem?_mapIdx, hbefore]
        rfl
      · rw [Entries.predict, Entries.record, if_neg hwarm]
        exact keep_length_congr hlength _ _ _
      · rw [Entries.predict, Entries.record, if_neg hwarm]
        exact keep_getLast? _ _ _
      · intro hsame
        have hcall := Option.some.inj hsame
        omega

omit [FloatingPoint φ] in
theorem not_aligned_of_behind {monax : Monax φ} {entries : Entries}
    (h : Behind monax entries) (learned : Monax φ) :
    ¬ ((entries.record monax learned).predict learned).Aligned := by
  intro haligned
  obtain ⟨predictions, prediction, label, hsecond, hlength, hprediction, hlabel,
    hne⟩ := behind_learn h learned
  rw [List.getLast?_eq_getElem?] at hprediction hlabel
  rw [← hlength] at hlabel
  exact hne (haligned predictions (List.mem_of_getElem? hsecond) _ _ _
    hprediction hlabel)

theorem behind_step {delays : List φ} {rising : Nat}
    {state next : Monax φ × Entries} {epoch : Epoch φ}
    (hinv : Inv delays rising state.1) (h : Behind state.1 state.2)
    (hstep : notedStep state epoch = .ok next) : Behind next.1 next.2 := by
  have hmeasured : Behind (state.1.measure epoch) state.2 :=
    h.of_same (measure_same state.1 epoch)
  have hdelay := (measure_facts hinv epoch).2.1
  unfold notedStep at hstep
  dsimp only at hstep
  split at hstep
  · cases hstep
    exact hmeasured
  · next hlong =>
      have hacting : 9 ≤ delays.length := by
        rw [hdelay, MONITOR_LEN] at hlong
        omega
      obtain ⟨⟨learned, prob⟩, hlearn, hstep⟩ := bind_eq_ok hstep
      obtain ⟨changed, hchanged, hstep⟩ := bind_eq_ok hstep
      obtain ⟨acted, hacted, hstep⟩ := bind_eq_ok hstep
      cases hstep
      obtain ⟨⟨found, prob'⟩, hfound, hready⟩ := learn_of_inv hinv epoch hacting
      cases hlearn.symm.trans hfound
      obtain ⟨decision, -, hacts⟩ := act_records hacted
      have hwarm : acted.coldstart = false := by
        rw [hacts.coldstart, (changeModel_records hchanged).coldstart]
        exact hready.coldstart
      obtain ⟨predictions, prediction, label, hsecond, hlength, -, -, -⟩ :=
        behind_learn hmeasured learned
      refine ⟨fun hcold => ?_, fun _ => Nat.succ_pos _,
        predictions, hsecond, hlength⟩
      rw [hwarm] at hcold
      cases hcold

theorem scoringAligned_of_few {delays : List φ} {rising : Nat}
    {state : Monax φ × Entries} {epoch : Epoch φ}
    (hinv : Inv delays rising state.1)
    (hrising : seesRise delays epoch.realRtt = true → rising < 7) :
    ScoringAligned state epoch := by
  intro learned prob hlong hlearn hrises hused
  have hacting : 9 ≤ delays.length := by
    rw [(measure_facts hinv epoch).2.1, MONITOR_LEN] at hlong
    omega
  obtain ⟨⟨found, prob'⟩, hfound, hready⟩ := learn_of_inv hinv epoch hacting
  cases hlearn.symm.trans hfound
  have hrise := Except.ok.inj (hrises.symm.trans
    (rises_of_ready hinv epoch hacting hready))
  rw [seesRise_of_acting hacting] at hrising
  have hfew := hrising hrise.symm
  have hunused : learned.usedModel < learned.modelNum - 1 := by
    rw [hready.usedModel, hready.sized.modelNum]
    omega
  exact absurd hunused hused

theorem not_scoringAligned {delays : List φ} {state : Monax φ × Entries}
    {epoch : Epoch φ} (hinv : Inv delays 7 state.1)
    (hbehind : Behind state.1 state.2)
    (hrise : seesRise delays epoch.realRtt = true) :
    ¬ ScoringAligned state epoch := by
  intro haligned
  have hacting : 9 ≤ delays.length := by
    rw [seesRise, Bool.and_eq_true, decide_eq_true_eq, MONITOR_LEN] at hrise
    omega
  have hlong : MONITOR_LEN ≤
      (state.1.measure epoch).monitorPara.networkDelay.length := by
    rw [(measure_facts hinv epoch).2.1, MONITOR_LEN]
    omega
  rw [seesRise_of_acting hacting] at hrise
  obtain ⟨⟨learned, prob⟩, hlearn, hready⟩ := learn_of_inv hinv epoch hacting
  have hrises := rises_of_ready hinv epoch hacting hready
  rw [hrise] at hrises
  have hused : ¬ learned.usedModel < learned.modelNum - 1 := by
    rw [hready.usedModel, hready.sized.modelNum]
    omega
  have hmeasured : Behind (state.1.measure epoch) state.2 :=
    hbehind.of_same (measure_same state.1 epoch)
  exact not_aligned_of_behind hmeasured learned
    (haligned learned prob hlong hlearn hrises hused)

/-- From any state of a run, so many more rises are scored rightly as leave
seven in all. -/
theorem scoringAligned_iff_of_inv {delays : List φ} {rising : Nat}
    {state : Monax φ × Entries} (hinv : Inv delays rising state.1)
    (hbehind : Behind state.1 state.2) (epochs : List (Epoch φ)) :
    AllSteps notedStep ScoringAligned state epochs ↔
      rising + risingFrom delays (epochs.map Epoch.realRtt) ≤ 7 := by
  induction epochs generalizing delays rising state with
  | nil => exact ⟨fun _ => hinv.rising_le, fun _ => trivial⟩
  | cons epoch rest ih =>
      rw [List.map_cons, risingFrom, ← Nat.add_assoc]
      have hle := hinv.rising_le
      constructor
      · rintro ⟨haligned, hrest⟩
        have hrising : seesRise delays epoch.realRtt = true → rising < 7 := by
          intro hrise
          rcases Nat.lt_or_ge rising 7 with hlt | hge
          · exact hlt
          · obtain rfl : rising = 7 := Nat.le_antisymm hle hge
            exact absurd haligned (not_scoringAligned hinv hbehind hrise)
        obtain ⟨next, hstep, hnext⟩ := step_succeeds hinv epoch hrising
        obtain ⟨entries, hnoted⟩ := exists_notedStep hstep
        exact (ih hnext (behind_step hinv hbehind hnoted)).mp (hrest _ hnoted)
      · intro hcount
        have hrising : seesRise delays epoch.realRtt = true → rising < 7 := by
          intro hrise
          rw [hrise, Bool.toNat_true] at hcount
          omega
        refine ⟨scoringAligned_of_few hinv hrising, fun next hnoted => ?_⟩
        have hnext := inv_of_step hinv (step_of_notedStep hnoted)
        exact (ih hnext (behind_step hinv hbehind hnoted)).mpr hcount

theorem scoringAligned_iff_of_init (alpha beta lambda1 lambda2 : φ)
    (initialCwnd initialInterval : Int) (epochs : List (Epoch φ)) :
    AllSteps notedStep ScoringAligned
        (init 5 alpha beta lambda1 lambda2 initialCwnd initialInterval, {})
        epochs ↔
      0 + risingFrom [] (epochs.map Epoch.realRtt) ≤ 7 := by
  apply scoringAligned_iff_of_inv
  · exact inv_init alpha beta lambda1 lambda2 initialCwnd initialInterval
  · exact behind_init alpha beta lambda1 lambda2 initialCwnd initialInterval

/-- With the input dimension of the sender, a run compares predictions and
labels of the same decisions exactly when it scores no models: when at most
seven of its epochs from the tenth on have seen a rising delay. -/
theorem scoringAligned_iff (alpha beta lambda1 lambda2 : φ)
    (initialCwnd initialInterval : Int) (epochs : List (Epoch φ)) :
    AllSteps notedStep ScoringAligned
        (init 5 alpha beta lambda1 lambda2 initialCwnd initialInterval, {})
        epochs ↔
      risingEpochs (epochs.map Epoch.realRtt) ≤ 7 := by
  have hiff := scoringAligned_iff_of_init alpha beta lambda1 lambda2
    initialCwnd initialInterval epochs
  rwa [Nat.zero_add] at hiff

/-- In the eighth of its calls, the first prediction of the second model is
compared with the label that the history was started with. -/
theorem growingDelays_misaligned :
    ¬ AllSteps notedStep ScoringAligned
      (init 5 ⟨2⟩ ⟨1⟩ ⟨2⟩ ⟨2⟩ 30 500, {}) growingDelays := by
  intro haligned
  have hcount := (scoringAligned_iff_of_init _ _ _ _ _ _ growingDelays).mp
    haligned
  exact absurd hcount (by decide)

end Monax

end Salsify.Net
