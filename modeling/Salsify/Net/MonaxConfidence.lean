import Salsify.Net.MonaxRecords

namespace Salsify.Net

open Fallible

/-! The quotients that `action` changes its step sizes by. -/

section Vector

/-- A vector keeps the values that it ends with, if it may be longer than
these. -/
theorem keep_append {α : Type} {limit : Nat} (front : List α) {rest : List α}
    (h : rest.length < limit) (value : α) :
    ∃ kept, keep limit (front ++ rest) value = kept ++ (rest ++ [value]) := by
  unfold keep
  split
  · exact ⟨front, List.append_assoc front rest [value]⟩
  · next hfull =>
      cases front with
      | nil => exact absurd h hfull
      | cons first front =>
          exact ⟨front, List.append_assoc front rest [value]⟩

end Vector

theorem sum_of_binary {a b c d : Int} (ha : Binary a) (hb : Binary b)
    (hc : Binary c) (hd : Binary d) :
    (a + b + c + d ≠ 0 ∧ 4 - (a + b + c + d) ≠ 0) ↔
      ∀ label, a = label → b = label → c = label → d ≠ label := by
  constructor
  · rintro ⟨hzero, hfour⟩ label rfl rfl rfl rfl
    rcases ha with rfl | rfl
    · exact hzero rfl
    · exact hfour rfl
  · intro h
    have hne := h a rfl
    rcases ha with rfl | rfl <;> rcases hb with rfl | rfl <;>
      rcases hc with rfl | rfl <;> rcases hd with rfl | rfl <;>
      first
        | exact absurd rfl (hne rfl rfl)
        | decide

namespace Monax

theorem sumOfFour_append (front : List Int) (a b c d : Int) (name : String) :
    sumOfFour (front ++ [a, b, c, d]) (front ++ [a, b, c, d]).length name =
      .ok (a + b + c + d) := by
  have hlength : (front ++ [a, b, c, d]).length = front.length + 4 := by
    rw [List.length_append]
    rfl
  have helement (index : Nat) :
      element (front ++ [a, b, c, d]) (front.length + index) name =
        element [a, b, c, d] index name := element_append _ _ index name
  rw [hlength]
  unfold sumOfFour
  change (do
    let a' ← element (front ++ [a, b, c, d]) (front.length + 0) name
    let b' ← element (front ++ [a, b, c, d]) (front.length + 1) name
    let c' ← element (front ++ [a, b, c, d]) (front.length + 2) name
    let d' ← element (front ++ [a, b, c, d]) (front.length + 3) name
    pure (a' + b' + c' + d')) = _
  simp only [helement]
  rfl

variable {φ : Type} [FloatingPoint φ]

/-- What `modifyStepSize` divides by. -/
def confidenceDenominators (monax : Monax φ) :
    Except Failure (Option (Int × Int)) := do
  if 3 < monax.historyLabel.length then
    let speedupLabel ← sumOfFour monax.historyLabel monax.historyLabel.length
      "history_label"
    let slowdownLabel := 4 - speedupLabel
    return some (speedupLabel, slowdownLabel)
  else
    return none

theorem modifyStepSize_divides {monax stepped : Monax φ} {speedupLabel
    slowdownLabel : Int} (h : modifyStepSize monax = .ok stepped)
    (hdenominators : confidenceDenominators monax =
      .ok (some (speedupLabel, slowdownLabel))) :
    ∃ speedupPred,
      stepped.speedupStep = max (min monax.stepsizeMax
        (FloatingPoint.toInt (FloatingPoint.ofInt monax.speedupStep *
          (FloatingPoint.literal 5 1 + FloatingPoint.ofInt speedupPred /
            FloatingPoint.ofInt speedupLabel : φ)))) monax.stepsizeMin ∧
      stepped.slowdownStep = max (min monax.stepsizeMax
        (FloatingPoint.toInt (FloatingPoint.ofInt monax.slowdownStep *
          (FloatingPoint.literal 5 1 +
            FloatingPoint.ofInt (4 - speedupPred) /
              FloatingPoint.ofInt slowdownLabel : φ)))) monax.stepsizeMin := by
  unfold modifyStepSize at h
  unfold confidenceDenominators at hdenominators
  split at h
  · next hlong =>
      rw [if_pos hlong] at hdenominators
      obtain ⟨speedupPred, -, h⟩ := bind_eq_ok h
      obtain ⟨found, hfound, h⟩ := bind_eq_ok h
      rw [hfound] at hdenominators
      cases hdenominators
      cases h
      exact ⟨speedupPred, rfl, rfl⟩
  · next hshort =>
      rw [if_neg hshort] at hdenominators
      cases hdenominators

/-- The denominators of one epoch, if it computes the confidences. -/
def denominators (monax : Monax φ) (epoch : Epoch φ) :
    Except Failure (Option (Int × Int)) := do
  let measured := monax.measure epoch
  if measured.monitorPara.networkDelay.length < MONITOR_LEN then
    return none
  else
    let sample ← readSample measured.monitorPara
    let cwnd ← element measured.monitorPara.cwnd 0 "cwnd"
    let utility ← utilityFunction sample
    let labelled ← recordLabel
      { measured with currentCWND := FloatingPoint.toInt cwnd } utility
    confidenceDenominators labelled

/-- Where the epoch computes the confidences, it divides by nothing that is
zero. -/
def ConfidenceDefined (monax : Monax φ) (epoch : Epoch φ) : Prop :=
  ∃ found, denominators monax epoch = .ok found ∧
    ∀ speedupLabel slowdownLabel, found = some (speedupLabel, slowdownLabel) →
      speedupLabel ≠ 0 ∧ slowdownLabel ≠ 0

def utilityGrows (monax : Monax φ) : Bool :=
  check id do
    let sample ← readSample monax.monitorPara
    let utility ← utilityFunction sample
    let before ← fromEnd monax.utilityRecord 1 "utility_record"
    return FloatingPoint.lt (FloatingPoint.ofInt 0) (utility - before)

/-- After three times the same label, the utility grows just if the last
decision was the other one. -/
def LabelsVary (monax : Monax φ) (epoch : Epoch φ) : Prop :=
  let measured := monax.measure epoch
  ∀ label decision,
    MONITOR_LEN ≤ measured.monitorPara.networkDelay.length →
    [label, label, label] <:+ measured.historyLabel →
    measured.historyDecision.getLast? = some decision →
    (utilityGrows measured = true ↔ decision ≠ label)

/-- The histories have the right lengths and hold nothing but zeros and
ones. -/
structure Labelled (monax : Monax φ) : Prop where
  inv : ∃ delays rising, Inv delays rising monax
  labels : ∀ label ∈ monax.historyLabel, Binary label
  decisions : ∀ decision ∈ monax.historyDecision, Binary decision
  predictions : ∀ prediction ∈ monax.historyPrediction, Binary prediction

theorem labelled_init (alpha beta lambda1 lambda2 : φ)
    (initialCwnd initialInterval : Int) :
    Labelled (init 5 alpha beta lambda1 lambda2 initialCwnd
      initialInterval) where
  inv := ⟨[], 0, inv_init alpha beta lambda1 lambda2 initialCwnd
    initialInterval⟩
  labels := fun _ h => absurd h List.not_mem_nil
  decisions := fun _ h => absurd h List.not_mem_nil
  predictions := fun _ h => absurd h List.not_mem_nil

omit [FloatingPoint φ] in
theorem binary_of_mem_keep {limit : Nat} {vector : List Int} {value : Int}
    (hvector : ∀ other ∈ vector, Binary other) (hvalue : Binary value) :
    ∀ other ∈ keep limit vector value, Binary other := by
  intro other hother
  rcases mem_keep hother with hother | rfl
  · exact hvector other hother
  · exact hvalue

omit [FloatingPoint φ] in
theorem binary_of_mem_append_zero {vector : List Int}
    (hvector : ∀ other ∈ vector, Binary other) :
    ∀ other ∈ vector ++ [0], Binary other := by
  intro other hother
  rcases List.mem_append.mp hother with hother | hother
  · exact hvector other hother
  · rw [List.mem_singleton.mp hother]
    exact .inl rfl

omit [FloatingPoint φ] in
theorem judged_binary (grows : Bool) {decision : Int} (h : Binary decision) :
    Binary (if grows then decision else 1 - decision) := by
  cases grows with
  | true => exact h
  | false =>
      rcases h with rfl | rfl
      · exact .inr rfl
      · exact .inl rfl

theorem recordLabel_binary {monax labelled : Monax φ} {utility : φ}
    (h : recordLabel monax utility = .ok labelled)
    (hlabels : ∀ label ∈ monax.historyLabel, Binary label)
    (hdecisions : ∀ decision ∈ monax.historyDecision, Binary decision)
    (hpredictions : ∀ prediction ∈ monax.historyPrediction,
      Binary prediction) :
    (∀ label ∈ labelled.historyLabel, Binary label) ∧
      (∀ decision ∈ labelled.historyDecision, Binary decision) ∧
      ∀ prediction ∈ labelled.historyPrediction, Binary prediction := by
  unfold recordLabel at h
  split at h
  · obtain ⟨predictions, -, rfl⟩ := startHistories_eq_ok h
    exact ⟨binary_of_mem_append_zero hlabels,
      binary_of_mem_append_zero hdecisions,
      binary_of_mem_append_zero hpredictions⟩
  · obtain ⟨before, decision, -, hdecision, rfl⟩ := learnLabel_eq_ok h
    refine ⟨binary_of_mem_keep hlabels ?_, hdecisions, hpredictions⟩
    exact judged_binary _ (hdecisions decision (List.mem_of_getLast? hdecision))

theorem labelled_step {monax next : Monax φ} {epoch : Epoch φ}
    (h : monax.Labelled) (hstep : step monax epoch = .ok next) :
    next.Labelled := by
  obtain ⟨delays, rising, hinv⟩ := h.inv
  have hnext : ∃ delays rising, Inv delays rising next :=
    ⟨_, _, inv_of_step hinv hstep⟩
  have hsame := (measure_same monax epoch).records
  unfold step calcCCPara at hstep
  split at hstep
  · cases hstep
    exact ⟨hnext, by rw [hsame.historyLabel]; exact h.labels,
      by rw [hsame.historyDecision]; exact h.decisions,
      by rw [hsame.historyPrediction]; exact h.predictions⟩
  · obtain ⟨⟨learned, prob⟩, hlearn, hstep⟩ := bind_eq_ok hstep
    obtain ⟨changed, hchanged, hact⟩ := bind_eq_ok hstep
    obtain ⟨sample, cwnd, utility, labelled, -, -, -, hlabelled, hrecorded⟩ :=
      learn_eq_ok hlearn
    obtain ⟨hlabels, hdecisions, hpredictions⟩ := recordLabel_binary hlabelled
      (by rw [hsame.historyLabel]; exact h.labels)
      (by rw [hsame.historyDecision]; exact h.decisions)
      (by rw [hsame.historyPrediction]; exact h.predictions)
    have hchanges := changeModel_records hchanged
    obtain ⟨decision, hdecision, hacts⟩ := act_records hact
    have hpredicted : ∀ prediction ∈ changed.historyPrediction,
        Binary prediction := by
      rw [hchanges.historyPrediction]
      intro prediction hprediction
      rcases hrecorded.historyPrediction prediction hprediction with hold | hnew
      · exact hpredictions prediction hold
      · exact hnew
    refine ⟨hnext, ?_, ?_, ?_⟩
    · rw [hacts.historyLabel, hchanges.historyLabel, hrecorded.historyLabel]
      exact hlabels
    · rw [hacts.historyDecision]
      apply binary_of_mem_keep
      · rw [hchanges.historyDecision, hrecorded.historyDecision]
        exact hdecisions
      · rcases hdecision with hbinary | hmem
        · exact hbinary
        · exact hpredicted decision hmem
    · rw [hacts.historyPrediction]
      exact hpredicted

omit [FloatingPoint φ] in
theorem suffix_three_iff {front : List Int} {a b c label : Int} :
    [label, label, label] <:+ front ++ [a, b, c] ↔
      a = label ∧ b = label ∧ c = label := by
  constructor
  · intro h
    have hlast : [a, b, c] <:+ front ++ [a, b, c] := List.suffix_append _ _
    have hsame : [label, label, label] = [a, b, c] :=
      (List.suffix_of_suffix_length_le h hlast (Nat.le_refl 3)).eq_of_length rfl
    cases hsame
    exact ⟨rfl, rfl, rfl⟩
  · rintro ⟨rfl, rfl, rfl⟩
    exact List.suffix_append _ _

omit [FloatingPoint φ] in
theorem exists_lastThree {labels : List Int} (h : 3 ≤ labels.length) :
    ∃ front a b c, labels = front ++ [a, b, c] := by
  have hthree : (labels.drop (labels.length - 3)).length = 3 := by
    rw [List.length_drop]
    omega
  match hdrop : labels.drop (labels.length - 3), hthree with
  | [a, b, c], _ =>
      refine ⟨labels.take (labels.length - 3), a, b, c, ?_⟩
      rw [← hdrop, List.take_append_drop]

omit [FloatingPoint φ] in
theorem judged_ne_iff {grows : Bool} {decision label : Int}
    (hdecision : Binary decision) (hlabel : Binary label) :
    (if grows then decision else 1 - decision) ≠ label ↔
      (grows = true ↔ decision ≠ label) := by
  rcases hdecision with rfl | rfl <;> rcases hlabel with rfl | rfl <;>
    cases grows <;> decide

theorem denominators_of_learn {monax learned : Monax φ} {epoch : Epoch φ}
    {prob : φ}
    (hfull : (monax.measure epoch).monitorPara.networkDelay.length = 10)
    (hlearn : learn (monax.measure epoch) = .ok (learned, prob)) :
    ∃ (sample : List φ) (cwnd utility : φ) (labelled : Monax φ),
      readSample (monax.measure epoch).monitorPara = .ok sample ∧
      utilityFunction sample = .ok utility ∧
      recordLabel { monax.measure epoch with
        currentCWND := FloatingPoint.toInt cwnd } utility = .ok labelled ∧
      denominators monax epoch = confidenceDenominators labelled := by
  obtain ⟨sample, cwnd, utility, labelled, hsample, hcwnd, hutility, hlabelled,
    -⟩ := learn_eq_ok hlearn
  refine ⟨sample, cwnd, utility, labelled, hsample, hutility, hlabelled, ?_⟩
  have hacting :
      ¬ (monax.measure epoch).monitorPara.networkDelay.length < MONITOR_LEN := by
    rw [hfull]
    decide
  simp only [denominators, if_neg hacting, hsample, hcwnd, hutility, hlabelled,
    ok_bind]

omit [FloatingPoint φ] in
theorem confidenceDenominators_of_short {monax : Monax φ}
    (h : monax.historyLabel.length ≤ 3) :
    confidenceDenominators monax = .ok none := by
  rw [confidenceDenominators, if_neg (Nat.not_lt.mpr h)]
  rfl

omit [FloatingPoint φ] in
theorem confidenceDenominators_of_append {monax : Monax φ} {front : List Int}
    {a b c d : Int} (h : monax.historyLabel = front ++ [a, b, c, d]) :
    confidenceDenominators monax =
      .ok (some (a + b + c + d, 4 - (a + b + c + d))) := by
  have hlong : 3 < monax.historyLabel.length := by
    rw [h, List.length_append]
    exact Nat.lt_add_left _ (Nat.lt_succ_self 3)
  rw [confidenceDenominators, if_pos hlong, h, sumOfFour_append]
  rfl

theorem utilityGrows_eq {monax : Monax φ} {sample : List φ}
    {utility before : φ} (hsample : readSample monax.monitorPara = .ok sample)
    (hutility : utilityFunction sample = .ok utility)
    (hbefore : monax.utilityRecord.getLast? = some before) :
    utilityGrows monax =
      FloatingPoint.lt (FloatingPoint.ofInt 0) (utility - before) := by
  have hpos : 1 ≤ monax.utilityRecord.length := by
    apply List.length_pos_iff.mpr
    rintro hnil
    rw [hnil] at hbefore
    cases hbefore
  have hread : fromEnd monax.utilityRecord 1 "utility_record" = .ok before := by
    rw [List.getLast?_eq_getElem?] at hbefore
    rw [fromEnd, if_pos hpos, element, hbefore]
  simp only [utilityGrows, hsample, hutility, hread, ok_bind]
  rfl

theorem confidenceDefined_of_learned {monax labelled : Monax φ}
    {epoch : Epoch φ} {sample : List φ} {utility : φ} {cwnd : Int}
    (h : monax.Labelled)
    (hacting : MONITOR_LEN ≤
      (monax.measure epoch).monitorPara.networkDelay.length)
    (hsample : readSample (monax.measure epoch).monitorPara = .ok sample)
    (hutility : utilityFunction sample = .ok utility)
    (hlabelled : learnLabel { monax.measure epoch with currentCWND := cwnd }
      utility = .ok labelled)
    (hdenominators : denominators monax epoch =
      confidenceDenominators labelled) :
    ConfidenceDefined monax epoch ↔ LabelsVary monax epoch := by
  have hsame := (measure_same monax epoch).records
  obtain ⟨before, decision, hbefore, hdecision, rfl⟩ :=
    learnLabel_eq_ok hlabelled
  have hgrows := utilityGrows_eq hsample hutility hbefore
  have hdecisionBinary : Binary decision := by
    apply h.decisions
    rw [← hsame.historyDecision]
    exact List.mem_of_getLast? hdecision
  have hlabels : ∀ label ∈ (monax.measure epoch).historyLabel,
      Binary label := by
    rw [hsame.historyLabel]
    exact h.labels
  rcases Nat.lt_or_ge (monax.measure epoch).historyLabel.length 3 with
    hshort | hlong
  · constructor
    · intro _ label decision _ hsuffix _
      have hle := hsuffix.length_le
      exact absurd hle (Nat.not_le.mpr hshort)
    · intro _
      refine ⟨none, ?_, fun _ _ hnone => absurd hnone nofun⟩
      rw [hdenominators]
      apply confidenceDenominators_of_short
      change (keep SAVEHISTORY _ _).length ≤ 3
      have hlimit : 0 < SAVEHISTORY := by decide
      have hroom : (monax.measure epoch).historyLabel.length ≤ SAVEHISTORY :=
        Nat.le_trans (Nat.le_of_lt hshort) (by decide)
      rw [keep_length hlimit hroom]
      omega
  · obtain ⟨front, a, b, c, hlast⟩ := exists_lastThree hlong
    have hroom : [a, b, c].length < SAVEHISTORY := Nat.lt_of_lt_of_le
      (Nat.lt_succ_self 3) (by decide)
    obtain ⟨kept, hkept⟩ := keep_append front hroom
      (if FloatingPoint.lt (FloatingPoint.ofInt 0) (utility - before) then
        decision else 1 - decision)
    have hfound := hdenominators.trans (confidenceDenominators_of_append
      ((congrArg (keep SAVEHISTORY · _) hlast).trans hkept))
    have ha : Binary a := hlabels a (by rw [hlast]; simp)
    have hb : Binary b := hlabels b (by rw [hlast]; simp)
    have hc : Binary c := hlabels c (by rw [hlast]; simp)
    have hjudged := judged_binary
      (FloatingPoint.lt (FloatingPoint.ofInt 0) (utility - before))
      hdecisionBinary
    have hsum := sum_of_binary ha hb hc hjudged
    constructor
    · rintro ⟨found, heq, hdefined⟩ label other - hsuffix hother
      rw [hlast, suffix_three_iff] at hsuffix
      obtain ⟨hfirst, hsecond, hthird⟩ := hsuffix
      rw [hfound] at heq
      have hne := hsum.mp (hdefined _ _ (Except.ok.inj heq).symm) label hfirst
        hsecond hthird
      rw [judged_ne_iff hdecisionBinary (hfirst ▸ ha), ← hgrows] at hne
      rwa [Option.some.inj (hother.symm.trans hdecision)]
    · intro hvary
      refine ⟨_, hfound, fun speedupLabel slowdownLabel heq => ?_⟩
      cases heq
      apply hsum.mpr
      intro label hfirst hsecond hthird
      have hsuffix : [label, label, label] <:+
          (monax.measure epoch).historyLabel := by
        rw [hlast, suffix_three_iff]
        exact ⟨hfirst, hsecond, hthird⟩
      rw [judged_ne_iff hdecisionBinary (hfirst ▸ ha), ← hgrows]
      exact hvary label decision hacting hsuffix hdecision

theorem confidenceDefined_iff {monax : Monax φ} (h : monax.Labelled)
    (epoch : Epoch φ) :
    ConfidenceDefined monax epoch ↔ LabelsVary monax epoch := by
  obtain ⟨delays, rising, hinv⟩ := h.inv
  obtain ⟨-, hdelay, -, -⟩ := measure_facts hinv epoch
  have hsame := (measure_same monax epoch).records
  rcases Nat.lt_or_ge delays.length 9 with hshort | hacting
  · have hlt : (monax.measure epoch).monitorPara.networkDelay.length <
        MONITOR_LEN := by
      rw [hdelay, MONITOR_LEN]
      omega
    constructor
    · intro _ label decision hle
      exact absurd hle (Nat.not_le.mpr hlt)
    · intro _
      refine ⟨none, ?_, ?_⟩
      · rw [denominators, if_pos hlt]
        rfl
      · intro _ _ hnone
        cases hnone
  · have hfull : (monax.measure epoch).monitorPara.networkDelay.length = 10 := by
      rw [hdelay]
      omega
    obtain ⟨⟨learned, prob⟩, hlearn, -⟩ := learn_of_inv hinv epoch hacting
    obtain ⟨sample, cwnd, utility, labelled, hsample, hutility, hlabelled,
      hdenominators⟩ := denominators_of_learn hfull hlearn
    unfold recordLabel at hlabelled
    split at hlabelled
    · next hcold =>
        have hnone : (monax.measure epoch).historyLabel = [] := by
          have hcoldstart : monax.coldstart = true :=
            hsame.coldstart.symm.trans hcold
          rw [hinv.coldstart, decide_eq_true_eq] at hcoldstart
          rw [hsame.historyLabel, ← List.length_eq_zero_iff, hinv.sized.labels]
          omega
        obtain ⟨predictions, -, rfl⟩ := startHistories_eq_ok hlabelled
        constructor
        · intro _ label decision _ hsuffix _
          rw [hnone, List.suffix_nil] at hsuffix
          cases hsuffix
        · intro _
          refine ⟨none, ?_, ?_⟩
          · rw [hdenominators]
            apply confidenceDenominators_of_short
            change ((monax.measure epoch).historyLabel ++ [0]).length ≤ 3
            rw [hnone]
            decide
          · intro _ _ hsome
            cases hsome
    · exact confidenceDefined_of_learned h (by rw [hfull]; decide) hsample
        hutility hlabelled hdenominators

/-- With the input dimension of the sender, a run divides by nothing that is
zero exactly when in none of its epochs the label becomes the fourth of the
same value. -/
theorem confidenceDefined_run_iff (alpha beta lambda1 lambda2 : φ)
    (initialCwnd initialInterval : Int) (epochs : List (Epoch φ)) :
    AllSteps step ConfidenceDefined
        (init 5 alpha beta lambda1 lambda2 initialCwnd initialInterval)
        epochs ↔
      AllSteps step LabelsVary
        (init 5 alpha beta lambda1 lambda2 initialCwnd initialInterval)
        epochs :=
  allSteps_congr Labelled
    (fun _ _ _ hlabelled _ hstep => labelled_step hlabelled hstep)
    (fun _ epoch hlabelled => confidenceDefined_iff hlabelled epoch)
    (labelled_init alpha beta lambda1 lambda2 initialCwnd initialInterval)
    epochs

def idleEpoch : Epoch Whole where
  realRtt := ⟨0⟩
  deliveryRate := ⟨0⟩
  flightSize := 0
  sndPeriod := 500
  wndSize := 30
  rand := (0, 0)

/-- Each decision is for more speed, and none makes the utility grow. -/
theorem confidence_undefined :
    ¬ AllSteps step ConfidenceDefined (init 5 ⟨2⟩ ⟨1⟩ ⟨2⟩ ⟨2⟩ 30 500)
      (List.replicate 13 idleEpoch) := by
  intro hall
  have hrun : check (fun monax => check (· == some (0, 4))
      (denominators monax idleEpoch))
      ((List.replicate 12 idleEpoch).foldlM step
        (init 5 ⟨2⟩ ⟨1⟩ ⟨2⟩ ⟨2⟩ 30 500)) = true := by
    decide +kernel
  obtain ⟨monax, hmonax, hdenominators⟩ := exists_of_check hrun
  obtain ⟨found, hfound, hzero⟩ := exists_of_check hdenominators
  have hsplit : AllSteps step ConfidenceDefined
      (init 5 ⟨2⟩ ⟨1⟩ ⟨2⟩ ⟨2⟩ 30 500)
      (List.replicate 12 idleEpoch ++ idleEpoch :: []) := hall
  obtain ⟨found', hfound', hdefined⟩ := hsplit.reached hmonax
  cases hfound.symm.trans hfound'
  rw [beq_iff_eq] at hzero
  exact (hdefined 0 4 hzero).1 rfl

end Monax

end Salsify.Net
