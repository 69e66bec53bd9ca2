import Salsify.Net.MonaxIndices

namespace Salsify.Net

open Fallible

/-! What one call of `action` does to the histories of the controller. -/

section Vector

variable {α : Type} {vector : List α}

theorem getElem?_of_element {index : Nat} {name : String} {value : α}
    (h : element vector index name = .ok value) :
    vector[index]? = some value := by
  unfold element at h
  split at h
  · next found hfound => rw [hfound, Except.ok.inj h]
  · cases h

theorem mem_of_fromEnd {back : Nat} {name : String} {value : α}
    (h : fromEnd vector back name = .ok value) : value ∈ vector := by
  unfold fromEnd at h
  split at h
  · exact List.mem_of_getElem? (getElem?_of_element h)
  · cases h

theorem getLast?_of_fromEnd {name : String} {value : α}
    (h : fromEnd vector 1 name = .ok value) : vector.getLast? = some value := by
  unfold fromEnd at h
  split at h
  · rw [List.getLast?_eq_getElem?, getElem?_of_element h]
  · cases h

theorem mem_keep {limit : Nat} {value other : α}
    (h : other ∈ keep limit vector value) : other ∈ vector ∨ other = value := by
  unfold keep at h
  split at h
  · rcases List.mem_append.mp h with h | h
    · exact .inl h
    · exact .inr (List.mem_singleton.mp h)
  · rcases List.mem_append.mp h with h | h
    · exact .inl (List.mem_of_mem_tail h)
    · exact .inr (List.mem_singleton.mp h)

end Vector

/-- Labels, predictions and decisions are 1 for more speed and 0 for less. -/
def Binary (value : Int) : Prop := value = 0 ∨ value = 1

namespace Monax

variable {φ : Type}

structure SameRecords (one other : Monax φ) : Prop where
  modelNum : other.modelNum = one.modelNum
  historyPrediction : other.historyPrediction = one.historyPrediction
  historyDecision : other.historyDecision = one.historyDecision
  historyLabel : other.historyLabel = one.historyLabel
  modelHistoryPrediction :
    other.modelHistoryPrediction = one.modelHistoryPrediction
  coldstart : other.coldstart = one.coldstart

theorem SameRecords.refl (monax : Monax φ) : SameRecords monax monax :=
  ⟨rfl, rfl, rfl, rfl, rfl, rfl⟩

theorem SameRecords.trans {one other third : Monax φ}
    (h : SameRecords one other) (h' : SameRecords other third) :
    SameRecords one third where
  modelNum := h'.modelNum.trans h.modelNum
  historyPrediction := h'.historyPrediction.trans h.historyPrediction
  historyDecision := h'.historyDecision.trans h.historyDecision
  historyLabel := h'.historyLabel.trans h.historyLabel
  modelHistoryPrediction :=
    h'.modelHistoryPrediction.trans h.modelHistoryPrediction
  coldstart := h'.coldstart.trans h.coldstart

theorem SameHistories.records {one other : Monax φ}
    (h : SameHistories one other) : SameRecords one other :=
  ⟨h.modelNum, h.historyPrediction, h.historyDecision, h.historyLabel,
    h.modelHistoryPrediction, h.coldstart⟩

variable [FloatingPoint φ]

theorem startHistories_eq_ok {monax started : Monax φ}
    (h : startHistories monax = .ok started) :
    ∃ predictions, monax.modelHistoryPrediction[monax.currentModel]? =
        some predictions ∧
      started = { monax with
        historyLabel := monax.historyLabel ++ [0]
        utilityRecord := monax.utilityRecord ++
          [FloatingPoint.ofInt 0, FloatingPoint.ofInt 0]
        modelHistoryPrediction := monax.modelHistoryPrediction.set
          monax.currentModel (predictions ++ [0])
        historyPrediction := monax.historyPrediction ++ [0]
        historyDecision := monax.historyDecision ++ [0]
        coldstart := false } := by
  obtain ⟨predictions, hpredictions, h⟩ := bind_eq_ok h
  exact ⟨predictions, getElem?_of_element hpredictions,
    (Except.ok.inj h).symm⟩

theorem learnLabel_eq_ok {monax learned : Monax φ} {utility : φ}
    (h : learnLabel monax utility = .ok learned) :
    ∃ before decision, monax.utilityRecord.getLast? = some before ∧
      monax.historyDecision.getLast? = some decision ∧
      learned = { monax with
        historyLabel := keep SAVEHISTORY monax.historyLabel
          (if FloatingPoint.lt (FloatingPoint.ofInt 0) (utility - before) then
            decision else 1 - decision)
        utilityRecord := keep SAVEUTILITY monax.utilityRecord utility } := by
  obtain ⟨before, hbefore, h⟩ := bind_eq_ok h
  obtain ⟨decision, hdecision, h⟩ := bind_eq_ok h
  exact ⟨before, decision, getLast?_of_fromEnd hbefore,
    getLast?_of_fromEnd hdecision, (Except.ok.inj h).symm⟩

theorem modifyStepSize_records {monax stepped : Monax φ}
    (h : modifyStepSize monax = .ok stepped) : SameRecords monax stepped := by
  unfold modifyStepSize at h
  split at h
  · obtain ⟨speedupPred, -, h⟩ := bind_eq_ok h
    obtain ⟨speedupLabel, -, h⟩ := bind_eq_ok h
    cases h
    exact ⟨rfl, rfl, rfl, rfl, rfl, rfl⟩
  · cases h
    exact SameRecords.refl _

theorem updateModel_records {monax updated : Monax φ} {sample : List φ}
    (h : updateModel monax sample = .ok updated) :
    SameRecords monax updated := by
  obtain ⟨weighted, -, h⟩ := bind_eq_ok h
  obtain ⟨grad, -, h⟩ := bind_eq_ok h
  obtain ⟨learned, -, h⟩ := bind_eq_ok h
  obtain ⟨para, -, h⟩ := bind_eq_ok h
  cases h
  exact ⟨rfl, rfl, rfl, rfl, rfl, rfl⟩

theorem predict_binary {sample weights : List φ} {prediction : Int} {prob : φ}
    (h : predict sample weights = .ok (prediction, prob)) :
    Binary prediction := by
  obtain ⟨product, -, h⟩ := bind_eq_ok h
  obtain ⟨bias, -, h⟩ := bind_eq_ok h
  obtain ⟨rfl, -⟩ := Prod.mk.inj (Except.ok.inj h)
  split
  · exact .inr rfl
  · exact .inl rfl

structure Recorded (monax : Monax φ) (i : Nat) (state : Monax φ × φ) :
    Prop where
  modelNum : state.1.modelNum = monax.modelNum
  historyDecision : state.1.historyDecision = monax.historyDecision
  historyLabel : state.1.historyLabel = monax.historyLabel
  coldstart : state.1.coldstart = monax.coldstart
  historyPrediction : ∀ prediction ∈ state.1.historyPrediction,
    prediction ∈ monax.historyPrediction ∨ Binary prediction
  length : state.1.modelHistoryPrediction.length =
    monax.modelHistoryPrediction.length
  recorded : ∀ j, j < i → ∀ predictions,
    monax.modelHistoryPrediction[j]? = some predictions →
      ∃ prediction, state.1.modelHistoryPrediction[j]? =
        some (keep SAVEHISTORY predictions prediction)
  unchanged : ∀ j, i ≤ j →
    state.1.modelHistoryPrediction[j]? = monax.modelHistoryPrediction[j]?

theorem predictModel_recorded {monax : Monax φ} {sample : List φ} {i : Nat}
    {state next : Monax φ × φ} (h : Recorded monax i state)
    (hnext : predictModel sample state i = .ok next) :
    Recorded monax (i + 1) next := by
  obtain ⟨⟨prediction, prob⟩, hprediction, hnext⟩ := bind_eq_ok hnext
  obtain ⟨predictions, hpredictions, hnext⟩ := bind_eq_ok hnext
  have hbinary := predict_binary hprediction
  have hread := getElem?_of_element hpredictions
  obtain ⟨hi, -⟩ := List.getElem?_eq_some_iff.mp hread
  have hrecorded : ∀ j, j < i + 1 → ∀ found,
      monax.modelHistoryPrediction[j]? = some found →
      ∃ prediction', (state.1.modelHistoryPrediction.set i
        (keep SAVEHISTORY predictions prediction))[j]? =
          some (keep SAVEHISTORY found prediction') := by
    intro j hj found hfound
    rcases Nat.lt_succ_iff_lt_or_eq.mp hj with hlt | rfl
    · rw [List.getElem?_set_ne (Nat.ne_of_gt hlt)]
      exact h.recorded j hlt found hfound
    · rw [← h.unchanged j (Nat.le_refl j), hread] at hfound
      rw [List.getElem?_set_self hi, Option.some.inj hfound]
      exact ⟨prediction, rfl⟩
  have hunchanged : ∀ j, i + 1 ≤ j →
      (state.1.modelHistoryPrediction.set i
        (keep SAVEHISTORY predictions prediction))[j]? =
          monax.modelHistoryPrediction[j]? := by
    intro j hj
    rw [List.getElem?_set_ne (Nat.ne_of_lt hj)]
    exact h.unchanged j (Nat.le_of_succ_le hj)
  have hlength : (state.1.modelHistoryPrediction.set i
      (keep SAVEHISTORY predictions prediction)).length =
        monax.modelHistoryPrediction.length := by
    rw [List.length_set, h.length]
  split at hnext
  · cases hnext
    refine ⟨h.modelNum, h.historyDecision, h.historyLabel, h.coldstart, ?_,
      hlength, hrecorded, hunchanged⟩
    intro other hother
    rcases mem_keep hother with hother | rfl
    · exact h.historyPrediction other hother
    · exact .inr hbinary
  · cases hnext
    exact ⟨h.modelNum, h.historyDecision, h.historyLabel, h.coldstart,
      h.historyPrediction, hlength, hrecorded, hunchanged⟩

theorem predictAll_recorded {monax : Monax φ} {sample : List φ}
    {state : Monax φ × φ} (h : predictAll monax sample = .ok state) :
    Recorded monax monax.modelNum state := by
  refine foldlM_range_invariant (Recorded monax)
    (fun state next i _ hstate hnext => predictModel_recorded hstate hnext) ?_ h
  exact ⟨rfl, rfl, rfl, rfl, fun _ h => .inl h, rfl,
    fun j hj => absurd hj (Nat.not_lt_zero j), fun _ _ => rfl⟩

omit [FloatingPoint φ] in
theorem Recorded.of_same {one other : Monax φ} {i : Nat} {state : Monax φ × φ}
    (h : Recorded other i state) (hsame : SameRecords one other) :
    Recorded one i state where
  modelNum := h.modelNum.trans hsame.modelNum
  historyDecision := h.historyDecision.trans hsame.historyDecision
  historyLabel := h.historyLabel.trans hsame.historyLabel
  coldstart := h.coldstart.trans hsame.coldstart
  historyPrediction := by
    rw [← hsame.historyPrediction]
    exact h.historyPrediction
  length := by
    rw [h.length, hsame.modelHistoryPrediction]
  recorded := by
    rw [← hsame.modelHistoryPrediction]
    exact h.recorded
  unchanged := by
    rw [← hsame.modelHistoryPrediction]
    exact h.unchanged

theorem learn_eq_ok {monax : Monax φ} {state : Monax φ × φ}
    (h : learn monax = .ok state) :
    ∃ sample cwnd utility labelled, readSample monax.monitorPara = .ok sample ∧
      element monax.monitorPara.cwnd 0 "cwnd" = .ok cwnd ∧
      utilityFunction sample = .ok utility ∧
      recordLabel { monax with currentCWND := FloatingPoint.toInt cwnd }
        utility = .ok labelled ∧
      Recorded labelled labelled.modelNum state := by
  obtain ⟨sample, hsample, h⟩ := bind_eq_ok h
  obtain ⟨cwnd, hcwnd, h⟩ := bind_eq_ok h
  obtain ⟨utility, hutility, h⟩ := bind_eq_ok h
  obtain ⟨labelled, hlabelled, h⟩ := bind_eq_ok h
  obtain ⟨stepped, hstepped, h⟩ := bind_eq_ok h
  obtain ⟨updated, hupdated, h⟩ := bind_eq_ok h
  have hsame := (modifyStepSize_records hstepped).trans
    (updateModel_records hupdated)
  have hrecorded := (predictAll_recorded h).of_same hsame
  rw [hsame.modelNum] at hrecorded
  exact ⟨sample, cwnd, utility, labelled, hsample, hcwnd, hutility, hlabelled,
    hrecorded⟩

theorem changeModel_records {monax changed : Monax φ}
    (h : changeModel monax = .ok changed) : SameRecords monax changed := by
  obtain ⟨rising, -, h⟩ := bind_eq_ok h
  split at h
  · split at h
    · cases h
      exact ⟨rfl, rfl, rfl, rfl, rfl, rfl⟩
    · obtain ⟨modelAccuracy, -, h⟩ := bind_eq_ok h
      cases h
      exact ⟨rfl, rfl, rfl, rfl, rfl, rfl⟩
  · cases h
    exact SameRecords.refl _

theorem rateControl_records {monax : Monax φ} {result : φ}
    {controlled : Monax φ × Int}
    (h : rateControl monax result = .ok controlled) :
    SameRecords monax controlled.1 := by
  obtain ⟨delay, -, h⟩ := bind_eq_ok h
  split at h
  · obtain ⟨again, -, h⟩ := bind_eq_ok h
    cases h
    exact ⟨rfl, rfl, rfl, rfl, rfl, rfl⟩
  · split at h
    · obtain ⟨again, -, h⟩ := bind_eq_ok h
      cases h
      exact ⟨rfl, rfl, rfl, rfl, rfl, rfl⟩
    · cases h
      exact SameRecords.refl _

theorem policyAggregation_decides {monax : Monax φ} {rand : Nat × Nat}
    {prob : φ} {result : Int × φ}
    (h : policyAggregation monax rand prob = .ok result) :
    Binary result.1 ∨ result.1 ∈ monax.historyPrediction := by
  obtain ⟨predicted, hpredicted, h⟩ := bind_eq_ok h
  obtain ⟨last, -, h⟩ := bind_eq_ok h
  obtain ⟨before, -, h⟩ := bind_eq_ok h
  obtain ⟨delay3, -, h⟩ := bind_eq_ok h
  obtain ⟨delay2, -, h⟩ := bind_eq_ok h
  obtain ⟨delay1, -, h⟩ := bind_eq_ok h
  cases h
  dsimp only
  split
  · exact .inl (.inr rfl)
  · split
    · exact .inl (.inl rfl)
    · exact .inr (mem_of_fromEnd hpredicted)

theorem act_records {monax next : Monax φ} {rand : Nat × Nat} {prob : φ}
    (h : act monax rand prob = .ok next) :
    ∃ decision, (Binary decision ∨ decision ∈ monax.historyPrediction) ∧
      SameRecords { monax with
        historyDecision :=
          keep SAVEHISTORY monax.historyDecision decision } next := by
  obtain ⟨⟨decision, decisionProb⟩, hdecision, h⟩ := bind_eq_ok h
  obtain ⟨⟨controlled, sendPeriod⟩, hcontrolled, h⟩ := bind_eq_ok h
  obtain ⟨interventionProb, -, h⟩ := bind_eq_ok h
  cases h
  have hsame := rateControl_records hcontrolled
  exact ⟨decision, policyAggregation_decides hdecision,
    ⟨hsame.modelNum, hsame.historyPrediction, hsame.historyDecision,
      hsame.historyLabel, hsame.modelHistoryPrediction, hsame.coldstart⟩⟩

end Monax

end Salsify.Net
