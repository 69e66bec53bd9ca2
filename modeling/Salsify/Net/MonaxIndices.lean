import Mathlib.Tactic.Linarith
import Salsify.Net.Monax

namespace Salsify.Net

open Fallible

/-! Which elements of its vectors the controller can reach, over runs of any
length. -/

section Vector

variable {α : Type} {vector : List α}

theorem element_succeeds {index : Nat} (h : index < vector.length)
    (name : String) :
    Succeeds (element vector index name)
      fun value => vector[index]? = some value := by
  have hread : vector[index]? = some vector[index] :=
    List.getElem?_eq_getElem h
  refine ⟨vector[index], ?_, hread⟩
  rw [element, hread]

theorem fromEnd_succeeds {back : Nat} (hpos : 0 < back)
    (hback : back ≤ vector.length) (name : String) :
    Succeeds (fromEnd vector back name) fun _ => True := by
  rw [fromEnd, if_pos hback]
  exact (element_succeeds (by omega) name).mono fun _ _ => trivial

theorem setElement_succeeds {index : Nat} (h : index < vector.length)
    (value : α) (name : String) :
    Succeeds (setElement vector index value name)
      fun changed => changed.length = vector.length := by
  rw [setElement, if_pos h]
  exact ⟨_, rfl, List.length_set⟩

theorem setElement_eq_ok {index : Nat} {value : α} {name : String}
    {changed : List α} (h : setElement vector index value name = .ok changed) :
    index < vector.length ∧ changed.length = vector.length := by
  unfold setElement at h
  split at h
  · next hindex =>
      rw [← Except.ok.inj h]
      exact ⟨hindex, List.length_set⟩
  · cases h

theorem keep_length {limit : Nat} (hlimit : 0 < limit)
    (h : vector.length ≤ limit) (value : α) :
    (keep limit vector value).length = min (vector.length + 1) limit := by
  unfold keep
  split
  · rw [List.length_append, List.length_singleton]
    omega
  · rw [List.length_append, List.length_singleton, List.length_tail]
    omega

theorem keep_ne_nil (limit : Nat) (value : α) :
    keep limit vector value ≠ [] := by
  unfold keep
  split <;> simp

end Vector

/-- The vectors of a model have a place for each element of a sample and one
more. -/
structure Model.Sized {φ : Type} (para : Model φ) : Prop where
  zs : para.zs.length = 6
  ns : para.ns.length = 6
  weights : para.weights.length = 6

namespace Monax

variable {φ : Type}

structure Sized (labels predictions decisions : Nat) (monax : Monax φ) :
    Prop where
  inputDim : monax.inputDim = 5
  modelNum : monax.modelNum = 8
  models : ∀ i, i < 8 → (monax.modelPool i).Sized
  currentModel : monax.currentModel < 8
  labels : monax.historyLabel.length = labels
  predictions : monax.historyPrediction.length = predictions
  decisions : monax.historyDecision.length = decisions
  histories : monax.modelHistoryPrediction.length = 8

structure Started (monax : Monax φ) : Prop where
  utilities : 2 ≤ monax.utilityRecord.length
  current : ∀ predictions,
    monax.modelHistoryPrediction[monax.currentModel]? = some predictions →
      predictions ≠ []
  coldstart : monax.coldstart = false

structure SameChoice (one other : Monax φ) : Prop where
  currentModel : other.currentModel = one.currentModel
  usedModel : other.usedModel = one.usedModel
  modelAccuracy : other.modelAccuracy = one.modelAccuracy
  monitorPara : other.monitorPara = one.monitorPara

theorem SameChoice.refl (monax : Monax φ) : SameChoice monax monax :=
  ⟨rfl, rfl, rfl, rfl⟩

theorem SameChoice.trans {one other third : Monax φ}
    (h : SameChoice one other) (h' : SameChoice other third) :
    SameChoice one third :=
  ⟨h'.currentModel.trans h.currentModel, h'.usedModel.trans h.usedModel,
    h'.modelAccuracy.trans h.modelAccuracy, h'.monitorPara.trans h.monitorPara⟩

/-- All that the other functions read of the histories and the models is as it
was. -/
structure SameHistories (one other : Monax φ) : Prop where
  inputDim : other.inputDim = one.inputDim
  modelNum : other.modelNum = one.modelNum
  modelPool : other.modelPool = one.modelPool
  utilityRecord : other.utilityRecord = one.utilityRecord
  historyPrediction : other.historyPrediction = one.historyPrediction
  historyDecision : other.historyDecision = one.historyDecision
  historyLabel : other.historyLabel = one.historyLabel
  modelHistoryPrediction :
    other.modelHistoryPrediction = one.modelHistoryPrediction
  coldstart : other.coldstart = one.coldstart
  currentModel : other.currentModel = one.currentModel
  usedModel : other.usedModel = one.usedModel
  modelAccuracy : other.modelAccuracy = one.modelAccuracy

theorem Sized.of_same {labels predictions decisions : Nat}
    {one other : Monax φ} (h : one.Sized labels predictions decisions)
    (hsame : SameHistories one other) :
    other.Sized labels predictions decisions where
  inputDim := hsame.inputDim.trans h.inputDim
  modelNum := hsame.modelNum.trans h.modelNum
  models := fun i hi => by
    rw [hsame.modelPool]
    exact h.models i hi
  currentModel := hsame.currentModel.trans_lt h.currentModel
  labels := (congrArg List.length hsame.historyLabel).trans h.labels
  predictions :=
    (congrArg List.length hsame.historyPrediction).trans h.predictions
  decisions := (congrArg List.length hsame.historyDecision).trans h.decisions
  histories :=
    (congrArg List.length hsame.modelHistoryPrediction).trans h.histories

variable [FloatingPoint φ]

theorem measure_same (monax : Monax φ) (epoch : Epoch φ) :
    SameHistories monax (monax.measure epoch) := by
  constructor <;> simp only [measure, setRealRtt, setDeliveryRate,
    setFlightSize, setSndPeriod, setWndSize]

theorem readSample_succeeds {monitorPara : MonitorPara φ}
    (hdelay : monitorPara.networkDelay.length = 10)
    (hrate : monitorPara.deliveryRate.length = 10) :
    Succeeds (readSample monitorPara) fun sample => sample.length = 5 := by
  unfold readSample
  apply (element_succeeds (by omega) _).bind
  intro deliveryRate _
  apply (element_succeeds (by omega) _).bind
  intro delay1 _
  apply (element_succeeds (by omega) _).bind
  intro delay2 _
  apply (element_succeeds (by omega) _).bind
  intro delay3 _
  apply (element_succeeds (by omega) _).bind
  intro delay4 _
  exact succeeds_pure rfl

theorem utilityFunction_succeeds {sample : List φ} (h : sample.length = 5) :
    Succeeds (utilityFunction sample) fun _ => True := by
  unfold utilityFunction
  apply (element_succeeds (by omega) _).bind
  intro deliveryRate _
  apply (element_succeeds (by omega) _).bind
  intro networkDelay _
  apply (element_succeeds (by omega) _).bind
  intro gradient1 _
  apply (element_succeeds (by omega) _).bind
  intro gradient2 _
  apply (element_succeeds (by omega) _).bind
  intro gradient3 _
  exact succeeds_pure trivial

theorem startHistories_succeeds {monax : Monax φ} (h : monax.Sized 0 0 0) :
    Succeeds (startHistories monax) fun started =>
      started.Sized 1 1 1 ∧ started.Started ∧ SameChoice monax started := by
  have hcurrent := h.currentModel
  have hhistories := h.histories
  unfold startHistories
  apply (element_succeeds (by omega) _).bind
  intro predictions hpredictions
  apply succeeds_pure
  refine ⟨⟨h.inputDim, h.modelNum, h.models, h.currentModel, ?_, ?_, ?_, ?_⟩,
    ⟨?_, ?_, rfl⟩, ⟨rfl, rfl, rfl, rfl⟩⟩
  · rw [List.length_append, h.labels, List.length_singleton]
  · rw [List.length_append, h.predictions, List.length_singleton]
  · rw [List.length_append, h.decisions, List.length_singleton]
  · rw [List.length_set, h.histories]
  · rw [List.length_append]
    exact Nat.le_add_left _ _
  · intro found hfound
    rw [List.getElem?_set_self (by omega)] at hfound
    rw [← Option.some.inj hfound]
    simp

theorem learnLabel_succeeds {monax : Monax φ} {labels predictions : Nat}
    (h : monax.Sized labels predictions predictions) (hstarted : monax.Started)
    (hlabels : labels ≤ 100) (hpredictions : 0 < predictions) (utility : φ) :
    Succeeds (learnLabel monax utility) fun learned =>
      learned.Sized (min (labels + 1) 100) predictions predictions ∧
        learned.Started ∧ SameChoice monax learned := by
  have hutilities := hstarted.utilities
  have hdecisions := h.decisions
  unfold learnLabel
  apply (fromEnd_succeeds Nat.one_pos (by omega) _).bind
  intro before _
  apply (fromEnd_succeeds Nat.one_pos (by omega) _).bind
  intro decision _
  apply succeeds_pure
  refine ⟨⟨h.inputDim, h.modelNum, h.models, h.currentModel, ?_,
    h.predictions, h.decisions, h.histories⟩,
    ⟨?_, hstarted.current, hstarted.coldstart⟩, ⟨rfl, rfl, rfl, rfl⟩⟩
  · rw [keep_length (by decide) (by rw [h.labels]; exact hlabels), h.labels]
    rfl
  · unfold keep
    split
    · rw [List.length_append]
      omega
    · rw [List.length_append, List.length_tail, List.length_singleton]
      omega

theorem sumOfFour_succeeds {vector : List Int} {size : Nat} (hsize : 3 < size)
    (h : size ≤ vector.length) (name : String) :
    Succeeds (sumOfFour vector size name) fun _ => True := by
  unfold sumOfFour
  apply (element_succeeds (by omega) _).bind
  intro a _
  apply (element_succeeds (by omega) _).bind
  intro b _
  apply (element_succeeds (by omega) _).bind
  intro c _
  apply (element_succeeds (by omega) _).bind
  intro d _
  exact succeeds_pure trivial

/-- The predictions of the last four labels are there, as the two histories
are equally long. -/
theorem modifyStepSize_succeeds {monax : Monax φ} {count : Nat}
    (h : monax.Sized count count count) (hstarted : monax.Started) :
    Succeeds (modifyStepSize monax) fun stepped =>
      stepped.Sized count count count ∧ stepped.Started ∧
        SameChoice monax stepped := by
  unfold modifyStepSize
  split
  · next hsize =>
      have hpredictions : monax.historyLabel.length ≤
          monax.historyPrediction.length := by
        rw [h.labels, h.predictions]
      apply (sumOfFour_succeeds hsize hpredictions _).bind
      intro speedupPred _
      apply (sumOfFour_succeeds hsize (Nat.le_refl _) _).bind
      intro speedupLabel _
      apply succeeds_pure
      exact ⟨⟨h.inputDim, h.modelNum, h.models, h.currentModel, h.labels,
        h.predictions, h.decisions, h.histories⟩,
        ⟨hstarted.utilities, hstarted.current, hstarted.coldstart⟩,
        ⟨rfl, rfl, rfl, rfl⟩⟩
  · exact succeeds_pure ⟨h, hstarted, SameChoice.refl monax⟩

theorem getNonZeroIndex_lt {sample : List φ} {index : Nat}
    (h : index ∈ getNonZeroIndex sample) : index < sample.length := by
  unfold getNonZeroIndex at h
  exact List.mem_range.mp (List.mem_of_mem_filter h)

theorem updateWeight_succeeds (monax : Monax φ) {para : Model φ}
    (h : para.Sized) {index : Nat} (hindex : index < 6) :
    Succeeds (updateWeight monax para index) Model.Sized := by
  have hz := h.zs
  have hn := h.ns
  have hw := h.weights
  unfold updateWeight
  apply (element_succeeds (by omega) _).bind
  intro z _
  split
  · apply (element_succeeds (by omega) _).bind
    intro n _
    apply (setElement_succeeds (by omega) _ _).bind
    intro weights hweights
    exact succeeds_pure ⟨h.zs, h.ns, hweights.trans h.weights⟩
  · apply (setElement_succeeds (by omega) _ _).bind
    intro weights hweights
    exact succeeds_pure ⟨h.zs, h.ns, hweights.trans h.weights⟩

theorem learnAt_succeeds (monax : Monax φ) {para : Model φ} (h : para.Sized)
    {index : Nat} (hindex : index < 6) (gradient : φ) :
    Succeeds (learnAt monax para index gradient) Model.Sized := by
  have hz := h.zs
  have hn := h.ns
  have hw := h.weights
  unfold learnAt
  apply (element_succeeds (by omega) _).bind
  intro n _
  apply (element_succeeds (by omega) _).bind
  intro z _
  apply (element_succeeds (by omega) _).bind
  intro weight _
  apply (setElement_succeeds (by omega) _ _).bind
  intro zs hzs
  apply (setElement_succeeds (by omega) _ _).bind
  intro ns hns
  exact succeeds_pure ⟨hzs.trans h.zs, hns.trans h.ns, h.weights⟩

theorem baseGrad_succeeds {monax : Monax φ} {count : Nat}
    (h : monax.Sized count count count) (hstarted : monax.Started)
    (hcount : 0 < count) : Succeeds (baseGrad monax) fun _ => True := by
  have hcurrent := h.currentModel
  have hhistories := h.histories
  have hlabels := h.labels
  unfold baseGrad
  apply (element_succeeds (by omega) _).bind
  intro predictions hpredictions
  have hne := List.length_pos_iff.mpr (hstarted.current predictions hpredictions)
  apply (fromEnd_succeeds Nat.one_pos hne _).bind
  intro prediction _
  apply (fromEnd_succeeds Nat.one_pos (by omega) _).bind
  intro label _
  exact succeeds_pure trivial

theorem updateModel_succeeds {monax : Monax φ} {sample : List φ} {count : Nat}
    (h : monax.Sized count count count) (hstarted : monax.Started)
    (hcount : 0 < count) (hsample : sample.length = 5) :
    Succeeds (updateModel monax sample) fun updated =>
      updated.Sized count count count ∧ updated.Started ∧
        SameChoice monax updated := by
  have hnonzero : ∀ index ∈ getNonZeroIndex sample, index < 5 := by
    intro index hindex
    rw [← hsample]
    exact getNonZeroIndex_lt hindex
  have hindices : ∀ index ∈ monax.inputDim :: getNonZeroIndex sample,
      index < 6 := by
    intro index hindex
    rcases List.mem_cons.mp hindex with rfl | hindex
    · rw [h.inputDim]
      omega
    · exact Nat.lt_succ_of_lt (hnonzero index hindex)
  have hpara := h.models monax.currentModel h.currentModel
  unfold updateModel
  apply (succeeds_foldlM (fun para index hindex hsized =>
    updateWeight_succeeds monax hsized (hindices index hindex)) hpara).bind
  intro weighted hweighted
  apply (baseGrad_succeeds h hstarted hcount).bind
  intro grad _
  have hlearn : ∀ para, ∀ index ∈ getNonZeroIndex sample, para.Sized →
      Succeeds (do
        let value ← element sample index "sample"
        learnAt monax para index (grad * value)) Model.Sized := by
    intro para index hindex hsized
    have hlt := hnonzero index hindex
    apply (element_succeeds (by omega) _).bind
    intro value _
    exact learnAt_succeeds monax hsized (by omega) _
  apply (succeeds_foldlM hlearn hweighted).bind
  intro learned hlearned
  apply (learnAt_succeeds monax hlearned (by rw [h.inputDim]; omega) grad).bind
  intro para hsized
  apply succeeds_pure
  refine ⟨⟨h.inputDim, h.modelNum, ?_, h.currentModel, h.labels,
    h.predictions, h.decisions, h.histories⟩,
    ⟨hstarted.utilities, hstarted.current, hstarted.coldstart⟩,
    ⟨rfl, rfl, rfl, rfl⟩⟩
  intro i hi
  change (Function.update monax.modelPool monax.currentModel para i).Sized
  rcases eq_or_ne i monax.currentModel with rfl | hne
  · rw [Function.update_self]
    exact hsized
  · rw [Function.update_of_ne hne]
    exact h.models i hi

theorem predict_succeeds {sample weights : List φ} (hsample : sample.length = 5)
    (hweights : weights.length = 6) :
    Succeeds (predict sample weights) fun _ => True := by
  unfold predict
  have hturn : ∀ (product : φ), ∀ i ∈ List.range sample.length, True →
      Succeeds (do
        let value ← element sample i "sample"
        let weight ← element weights i "weights"
        return product + value * weight) fun _ => True := by
    intro product i hi _
    have hlt := List.mem_range.mp hi
    apply (element_succeeds hlt _).bind
    intro value _
    apply (element_succeeds (by omega) _).bind
    intro weight _
    exact succeeds_pure trivial
  apply (succeeds_foldlM hturn trivial).bind
  intro product _
  apply (element_succeeds (by omega) _).bind
  intro bias _
  exact succeeds_pure trivial

structure Predicted (monax : Monax φ) (count i : Nat) (state : Monax φ × φ) :
    Prop where
  sized : state.1.Sized count
    (if monax.currentModel < i then min (count + 1) 100 else count) count
  utilities : 2 ≤ state.1.utilityRecord.length
  coldstart : state.1.coldstart = false
  histories : ∀ j, j < i → ∀ predictions,
    state.1.modelHistoryPrediction[j]? = some predictions → predictions ≠ []
  same : SameChoice monax state.1

theorem predictModel_succeeds {monax : Monax φ} {sample : List φ}
    {count i : Nat} (hsample : sample.length = 5) (hcount : count ≤ 100)
    (hi : i < 8) {state : Monax φ × φ} (h : Predicted monax count i state) :
    Succeeds (predictModel sample state i) (Predicted monax count (i + 1)) := by
  have hsized := h.sized
  have hhistories : state.1.modelHistoryPrediction.length = 8 :=
    hsized.histories
  have hsame : state.1.currentModel = monax.currentModel := h.same.currentModel
  unfold predictModel
  apply (predict_succeeds hsample (hsized.models i hi).weights).bind
  rintro ⟨prediction, probability⟩ _
  apply (element_succeeds (by omega) _).bind
  intro predictions _
  -- the other histories are as they were, and this one is not empty
  have hnonempty : ∀ j, j < i + 1 → ∀ found,
      (state.1.modelHistoryPrediction.set i
        (keep SAVEHISTORY predictions prediction))[j]? = some found →
          found ≠ [] := by
    intro j hj found hfound
    rcases eq_or_ne i j with rfl | hne
    · rw [List.getElem?_set_self (by omega)] at hfound
      rw [← Option.some.inj hfound]
      exact keep_ne_nil _ _
    · rw [List.getElem?_set_ne hne] at hfound
      exact h.histories j (by omega) found hfound
  have hlength : (state.1.modelHistoryPrediction.set i
      (keep SAVEHISTORY predictions prediction)).length = 8 := by
    rw [List.length_set, hhistories]
  split
  · next hcurrent =>
      have hbefore : ¬ monax.currentModel < i := by omega
      have hafter : monax.currentModel < i + 1 := by omega
      have hpredictions : state.1.historyPrediction.length = count := by
        have hlength := hsized.predictions
        rwa [if_neg hbefore] at hlength
      apply succeeds_pure
      refine ⟨⟨hsized.inputDim, hsized.modelNum, hsized.models,
        hsized.currentModel, hsized.labels, ?_, hsized.decisions, hlength⟩,
        h.utilities, h.coldstart, hnonempty,
        ⟨h.same.currentModel, h.same.usedModel, h.same.modelAccuracy,
          h.same.monitorPara⟩⟩
      rw [if_pos hafter, keep_length (by decide)
        (by rw [hpredictions]; exact hcount), hpredictions]
      rfl
  · next hother =>
      have hiff : monax.currentModel < i + 1 ↔ monax.currentModel < i := by
        omega
      apply succeeds_pure
      refine ⟨⟨hsized.inputDim, hsized.modelNum, hsized.models,
        hsized.currentModel, hsized.labels, ?_, hsized.decisions, hlength⟩,
        h.utilities, h.coldstart, hnonempty,
        ⟨h.same.currentModel, h.same.usedModel, h.same.modelAccuracy,
          h.same.monitorPara⟩⟩
      simp only [hiff]
      exact hsized.predictions

theorem predictAll_succeeds {monax : Monax φ} {sample : List φ} {count : Nat}
    (hsample : sample.length = 5) (hcount : count ≤ 100)
    (h : monax.Sized count count count) (hstarted : monax.Started) :
    Succeeds (predictAll monax sample) (Predicted monax count 8) := by
  unfold predictAll
  rw [h.modelNum]
  apply succeeds_foldlM_range
  · intro state i hi hpredicted
    exact predictModel_succeeds hsample hcount hi hpredicted
  · refine ⟨?_, hstarted.utilities, hstarted.coldstart, ?_,
      SameChoice.refl monax⟩
    · rw [if_neg (Nat.not_lt_zero _)]
      exact h
    · intro j hj
      exact absurd hj (Nat.not_lt_zero j)

theorem policyAggregation_succeeds {monax : Monax φ}
    (hpredictions : 0 < monax.historyPrediction.length)
    (hutilities : 2 ≤ monax.utilityRecord.length)
    (hdelay : 3 ≤ monax.monitorPara.networkDelay.length) (rand : Nat × Nat)
    (prob : φ) :
    Succeeds (policyAggregation monax rand prob) fun _ => True := by
  unfold policyAggregation
  apply (fromEnd_succeeds Nat.one_pos hpredictions _).bind
  intro predicted _
  apply (fromEnd_succeeds Nat.one_pos (by omega) _).bind
  intro utility _
  apply (fromEnd_succeeds (by decide) hutilities _).bind
  intro before _
  apply (fromEnd_succeeds (by decide) hdelay _).bind
  intro delay3 _
  apply (fromEnd_succeeds (by decide) (by omega) _).bind
  intro delay2 _
  apply (fromEnd_succeeds Nat.one_pos (by omega) _).bind
  intro delay1 _
  exact succeeds_pure trivial

omit [FloatingPoint φ] in
theorem decidedTwice_succeeds {monax : Monax φ}
    (h : 2 ≤ monax.historyDecision.length) (decision : Int) :
    Succeeds (decidedTwice monax decision) fun _ => True := by
  unfold decidedTwice
  apply (fromEnd_succeeds (by decide) h _).bind
  intro before _
  apply (fromEnd_succeeds Nat.one_pos (by omega) _).bind
  intro last _
  exact succeeds_pure trivial

theorem rateControl_succeeds {monax : Monax φ}
    (hdecisions : 2 ≤ monax.historyDecision.length)
    (hdelay : 0 < monax.monitorPara.networkDelay.length) (result : φ) :
    Succeeds (rateControl monax result) fun controlled =>
      SameHistories monax controlled.1 ∧
        controlled.1.monitorPara = monax.monitorPara := by
  have hsame (speedupStep slowdownStep : Int) :
      SameHistories monax { monax with
        speedupStep := speedupStep, slowdownStep := slowdownStep } :=
    ⟨rfl, rfl, rfl, rfl, rfl, rfl, rfl, rfl, rfl, rfl, rfl, rfl⟩
  unfold rateControl
  apply (fromEnd_succeeds Nat.one_pos hdelay _).bind
  intro delay _
  split
  · apply (decidedTwice_succeeds hdecisions 1).bind
    intro again _
    exact succeeds_pure ⟨hsame _ _, rfl⟩
  · split
    · apply (decidedTwice_succeeds hdecisions 0).bind
      intro again _
      exact succeeds_pure ⟨hsame _ _, rfl⟩
    · exact succeeds_pure ⟨hsame _ _, rfl⟩

theorem computeInterventionProb_succeeds
    {historyPrediction historyDecision : List Int}
    (h : historyPrediction.length ≤ historyDecision.length) :
    Succeeds (computeInterventionProb historyPrediction historyDecision)
      fun _ => True := by
  unfold computeInterventionProb
  have hturn : ∀ (interventionCount : Nat),
      ∀ i ∈ List.range historyPrediction.length, True →
      Succeeds (do
        let prediction ← element historyPrediction i "historyPrediction"
        let decision ← element historyDecision i "historyDecision"
        return if prediction = decision then interventionCount + 1
          else interventionCount) fun _ => True := by
    intro interventionCount i hi _
    have hlt := List.mem_range.mp hi
    apply (element_succeeds hlt _).bind
    intro prediction _
    apply (element_succeeds (by omega) _).bind
    intro decision _
    exact succeeds_pure trivial
  apply (succeeds_foldlM hturn trivial).bind
  intro interventionCount _
  exact succeeds_pure trivial

theorem act_succeeds {monax : Monax φ} {count : Nat} (hcount : 0 < count)
    (hle : count ≤ 100) (h : monax.Sized count (min (count + 1) 100) count)
    (hutilities : 2 ≤ monax.utilityRecord.length)
    (hdelay : monax.monitorPara.networkDelay.length = 10) (rand : Nat × Nat)
    (prob : φ) :
    Succeeds (act monax rand prob) fun decided =>
      decided.Sized count (min (count + 1) 100) (min (count + 1) 100) ∧
        decided.utilityRecord = monax.utilityRecord ∧
        decided.modelHistoryPrediction = monax.modelHistoryPrediction ∧
        decided.coldstart = monax.coldstart ∧ SameChoice monax decided := by
  have hpredictions := h.predictions
  unfold act
  apply (policyAggregation_succeeds (by omega) hutilities (by omega) rand
    prob).bind
  rintro ⟨decision, decisionProb⟩ _
  have hdecisions :
      (keep SAVEHISTORY monax.historyDecision decision).length =
        min (count + 1) 100 := by
    rw [keep_length (by decide) (by rw [h.decisions]; exact hle), h.decisions]
    rfl
  have hdecided : Sized count (min (count + 1) 100) (min (count + 1) 100)
      { monax with
        historyDecision := keep SAVEHISTORY monax.historyDecision decision } :=
    ⟨h.inputDim, h.modelNum, h.models, h.currentModel, h.labels, h.predictions,
      hdecisions, h.histories⟩
  apply (rateControl_succeeds (by rw [hdecisions]; omega)
    (by rw [hdelay]; omega) _).bind
  rintro ⟨controlled, sendPeriod⟩ ⟨hcontrolled, hpara⟩
  have hsized := hdecided.of_same hcontrolled
  apply (computeInterventionProb_succeeds
    (by rw [hsized.predictions, hsized.decisions])).bind
  intro interventionProb _
  apply succeeds_pure
  exact ⟨⟨hsized.inputDim, hsized.modelNum, hsized.models, hsized.currentModel,
    hsized.labels, hsized.predictions, hsized.decisions, hsized.histories⟩,
    hcontrolled.utilityRecord, hcontrolled.modelHistoryPrediction,
    hcontrolled.coldstart, ⟨hcontrolled.currentModel, hcontrolled.usedModel,
      hcontrolled.modelAccuracy, hpara⟩⟩

def lastFourRise (delays : List φ) : Bool :=
  match delays.reverse with
  | delay1 :: delay2 :: delay3 :: delay4 :: _ =>
      FloatingPoint.lt delay4 delay3 && FloatingPoint.lt delay3 delay2 &&
        FloatingPoint.lt delay2 delay1
  | _ => false

/-- Does an epoch, after others, run `action` on a rising delay? -/
def seesRise (before : List φ) (delay : φ) : Bool :=
  MONITOR_LEN ≤ before.length + 1 && lastFourRise (before ++ [delay])

def risingFrom (before : List φ) : List φ → Nat
  | [] => 0
  | delay :: rest =>
      (seesRise before delay).toNat + risingFrom (before ++ [delay]) rest

def risingEpochs (delays : List φ) : Nat := risingFrom [] delays

omit [FloatingPoint φ] in
theorem exists_lastFour {recent : List φ} (h : recent.length = 10) :
    ∃ older a b c d, older.length = 6 ∧ recent = older ++ [a, b, c, d] := by
  have hfour : (recent.drop 6).length = 4 := by
    rw [List.length_drop, h]
  refine ⟨recent.take 6, ?_⟩
  match hdrop : recent.drop 6, hfour with
  | [a, b, c, d], _ =>
      refine ⟨a, b, c, d, by rw [List.length_take, h]; rfl, ?_⟩
      rw [← hdrop, List.take_append_drop]

omit [FloatingPoint φ] in
theorem element_append (older rest : List φ) (index : Nat) (name : String) :
    element (older ++ rest) (older.length + index) name =
      element rest index name := by
  rw [element, element, List.getElem?_append_right (Nat.le_add_right _ _),
    Nat.add_sub_cancel_left]

theorem rises_eq {monitorPara : MonitorPara φ} {delays : List φ}
    (hsuffix : monitorPara.networkDelay <:+ delays)
    (hlength : monitorPara.networkDelay.length = 10) :
    rises monitorPara = .ok (lastFourRise delays) := by
  obtain ⟨front, rfl⟩ := hsuffix
  obtain ⟨older, a, b, c, d, holder, hrecent⟩ := exists_lastFour hlength
  have helement (index : Nat) :
      element monitorPara.networkDelay (6 + index) "network_delay" =
        element [a, b, c, d] index "network_delay" := by
    rw [hrecent, ← holder]
    exact element_append older _ index _
  have hfourth : element monitorPara.networkDelay (10 - 4) "network_delay" =
      .ok a := helement 0
  have hthird : element monitorPara.networkDelay (10 - 3) "network_delay" =
      .ok b := helement 1
  have hsecond : element monitorPara.networkDelay (10 - 2) "network_delay" =
      .ok c := helement 2
  have hlatest : element monitorPara.networkDelay (10 - 1) "network_delay" =
      .ok d := helement 3
  have hrise : lastFourRise (front ++ monitorPara.networkDelay) =
      (FloatingPoint.lt a b && FloatingPoint.lt b c &&
        FloatingPoint.lt c d) := by
    rw [hrecent, lastFourRise, List.reverse_append, List.reverse_append]
    rfl
  simp only [rises, hlength, hfourth, hthird, hsecond, hlatest, ok_bind, hrise]
  rfl

theorem assessModels_range {monax : Monax φ}
    {accuracies : List φ} (hmodels : monax.modelNum = 8)
    (h : assessModels monax = .ok accuracies) :
    8 ≤ monax.modelAccuracy.length ∧
      accuracies.length = monax.modelAccuracy.length := by
  unfold assessModels at h
  rw [hmodels, List.range_succ, List.foldlM_append] at h
  obtain ⟨before, hbefore, h⟩ := bind_eq_ok h
  have hlength : before.length = monax.modelAccuracy.length := by
    refine foldlM_invariant
      (fun accuracies : List φ => accuracies.length = monax.modelAccuracy.length)
      (fun state next i _ hstate hturn => ?_) rfl hbefore
    obtain ⟨predictions, -, hturn⟩ := bind_eq_ok hturn
    obtain ⟨accuracy, -, hturn⟩ := bind_eq_ok hturn
    exact (setElement_eq_ok hturn).2.trans hstate
  rw [List.foldlM_cons] at h
  obtain ⟨last, hturn, h⟩ := bind_eq_ok h
  obtain ⟨predictions, -, hturn⟩ := bind_eq_ok hturn
  obtain ⟨accuracy, -, hturn⟩ := bind_eq_ok hturn
  obtain ⟨hindex, hsame⟩ := setElement_eq_ok hturn
  obtain rfl := Except.ok.inj h
  exact ⟨by omega, hsame.trans hlength⟩

def predictionsAfter (calls : Nat) : Nat :=
  if calls = 0 then 0 else min (calls + 1) 100

/-- What holds after epochs with the given delays, of which so many have seen a
rising delay. -/
structure Inv (delays : List φ) (rising : Nat) (monax : Monax φ) : Prop where
  sized : monax.Sized (min (delays.length - 9) 100)
    (predictionsAfter (delays.length - 9))
    (predictionsAfter (delays.length - 9))
  coldstart : monax.coldstart = decide (delays.length < 10)
  utilities : 10 ≤ delays.length → 2 ≤ monax.utilityRecord.length
  histories : 10 ≤ delays.length → ∀ i, i < 8 → ∀ predictions,
    monax.modelHistoryPrediction[i]? = some predictions → predictions ≠ []
  rising_le : rising ≤ 7
  currentModel : monax.currentModel = rising
  usedModel : monax.usedModel = rising
  modelAccuracy : monax.modelAccuracy.length = rising
  networkDelay : monax.monitorPara.networkDelay <:+ delays
  networkDelay_length :
    monax.monitorPara.networkDelay.length = min delays.length 10
  deliveryRate : monax.monitorPara.deliveryRate.length = min delays.length 10
  cwnd : monax.monitorPara.cwnd.length = min delays.length 10

theorem inv_init (alpha beta lambda1 lambda2 : φ)
    (initialCwnd initialInterval : Int) :
    Inv [] 0 (init 5 alpha beta lambda1 lambda2 initialCwnd
      initialInterval) := by
  refine ⟨⟨rfl, rfl, ?_, Nat.succ_pos 7, rfl, rfl, rfl, rfl⟩, rfl, ?_, ?_,
    by decide, rfl, rfl, rfl, List.nil_suffix, rfl, rfl, rfl⟩
  · intro i hi
    simp only [init, hi, if_true]
    exact ⟨rfl, rfl, rfl⟩
  · intro h
    exact absurd h (Nat.not_succ_le_zero 9)
  · intro h
    exact absurd h (Nat.not_succ_le_zero 9)

omit [FloatingPoint φ] in
theorem keep_suffix {recent delays : List φ} (h : recent <:+ delays)
    (limit : Nat) (delay : φ) : keep limit recent delay <:+ delays ++ [delay] := by
  unfold keep
  split
  · exact List.suffix_append_self_iff.mpr h
  · exact List.suffix_append_self_iff.mpr ((List.tail_suffix recent).trans h)

omit [FloatingPoint φ] in
theorem keep_monitor {vector : List φ} {count : Nat}
    (h : vector.length = min count 10) (value : φ) :
    (keep MONITOR_LEN vector value).length = min (count + 1) 10 := by
  rw [keep_length (by decide) (by rw [h]; exact Nat.min_le_right _ _), h,
    MONITOR_LEN]
  omega

theorem measure_facts {delays : List φ} {rising : Nat} {monax : Monax φ}
    (h : Inv delays rising monax) (epoch : Epoch φ) :
    (monax.measure epoch).monitorPara.networkDelay <:+
        delays ++ [epoch.realRtt] ∧
      (monax.measure epoch).monitorPara.networkDelay.length =
        min (delays.length + 1) 10 ∧
      (monax.measure epoch).monitorPara.deliveryRate.length =
        min (delays.length + 1) 10 ∧
      (monax.measure epoch).monitorPara.cwnd.length =
        min (delays.length + 1) 10 := by
  exact ⟨keep_suffix h.networkDelay _ _, keep_monitor h.networkDelay_length _,
    keep_monitor h.deliveryRate _, keep_monitor h.cwnd _⟩

/-- What the predictions leave, `calls` calls of `action` after the first. -/
structure Learned (monax : Monax φ) (calls : Nat) (learned : Monax φ) :
    Prop where
  sized : learned.Sized (min (calls + 1) 100) (min (calls + 2) 100)
    (min (calls + 1) 100)
  utilities : 2 ≤ learned.utilityRecord.length
  coldstart : learned.coldstart = false
  histories : ∀ i, i < 8 → ∀ predictions,
    learned.modelHistoryPrediction[i]? = some predictions → predictions ≠ []
  same : SameChoice monax learned

theorem recordLabel_succeeds {monax : Monax φ} {calls : Nat}
    (h : monax.Sized (min calls 100) (predictionsAfter calls)
      (predictionsAfter calls))
    (hcoldstart : monax.coldstart = decide (calls = 0))
    (hstarted : 0 < calls → monax.Started) (utility : φ) :
    Succeeds (recordLabel monax utility) fun labelled =>
      labelled.Sized (min (calls + 1) 100) (min (calls + 1) 100)
        (min (calls + 1) 100) ∧ labelled.Started ∧
        SameChoice monax labelled := by
  unfold recordLabel
  cases calls with
  | zero =>
      have hcold : monax.coldstart = true := hcoldstart
      rw [if_pos hcold]
      exact startHistories_succeeds h
  | succ calls =>
      have hcold : monax.coldstart = false := hcoldstart
      have hpredictions : predictionsAfter (calls + 1) =
          min (calls + 1 + 1) 100 := if_neg (Nat.succ_ne_zero calls)
      rw [hpredictions] at h
      rw [hcold, if_neg Bool.false_ne_true]
      have hlabel := learnLabel_succeeds h (hstarted (Nat.succ_pos calls))
        (Nat.min_le_right _ _) (by omega) utility
      have hlabels : min (min (calls + 1) 100 + 1) 100 =
          min (calls + 1 + 1) 100 := by omega
      rwa [hlabels] at hlabel

theorem learn_succeeds {monax : Monax φ} {calls : Nat}
    (h : monax.Sized (min calls 100) (predictionsAfter calls)
      (predictionsAfter calls))
    (hcoldstart : monax.coldstart = decide (calls = 0))
    (hstarted : 0 < calls → monax.Started)
    (hdelay : monax.monitorPara.networkDelay.length = 10)
    (hrate : monax.monitorPara.deliveryRate.length = 10)
    (hcwnd : monax.monitorPara.cwnd.length = 10) :
    Succeeds (learn monax) fun state => Learned monax calls state.1 := by
  have hcount : 0 < min (calls + 1) 100 := by omega
  unfold learn
  apply (readSample_succeeds hdelay hrate).bind
  intro sample hsample
  apply (element_succeeds (by omega) _).bind
  intro cwnd _
  apply (utilityFunction_succeeds hsample).bind
  intro utility _
  have hsized : Sized (min calls 100) (predictionsAfter calls)
      (predictionsAfter calls)
      { monax with currentCWND := FloatingPoint.toInt cwnd } :=
    ⟨h.inputDim, h.modelNum, h.models, h.currentModel, h.labels, h.predictions,
      h.decisions, h.histories⟩
  apply (recordLabel_succeeds hsized hcoldstart (fun hpos =>
    ⟨(hstarted hpos).utilities, (hstarted hpos).current,
      (hstarted hpos).coldstart⟩) utility).bind
  rintro labelled ⟨hlabelled, hlabelledStarted, hlabelledSame⟩
  apply (modifyStepSize_succeeds hlabelled hlabelledStarted).bind
  rintro stepped ⟨hstepped, hsteppedStarted, hsteppedSame⟩
  apply (updateModel_succeeds hstepped hsteppedStarted hcount hsample).bind
  rintro updated ⟨hupdated, hupdatedStarted, hupdatedSame⟩
  apply (predictAll_succeeds hsample (Nat.min_le_right _ _) hupdated
    hupdatedStarted).mono
  rintro ⟨learned, prob⟩ hpredicted
  have hsized := hpredicted.sized
  have hpredictions : min (min (calls + 1) 100 + 1) 100 =
      min (calls + 2) 100 := by omega
  rw [if_pos hupdated.currentModel, hpredictions] at hsized
  have hsame : SameChoice monax labelled := ⟨hlabelledSame.currentModel,
    hlabelledSame.usedModel, hlabelledSame.modelAccuracy,
    hlabelledSame.monitorPara⟩
  exact ⟨hsized, hpredicted.utilities, hpredicted.coldstart,
    hpredicted.histories, ((hsame.trans hsteppedSame).trans
      hupdatedSame).trans hpredicted.same⟩

structure Ready (measured : MonitorPara φ) (calls rising : Nat)
    (changed : Monax φ) : Prop where
  sized : changed.Sized (min (calls + 1) 100) (min (calls + 2) 100)
    (min (calls + 1) 100)
  utilities : 2 ≤ changed.utilityRecord.length
  coldstart : changed.coldstart = false
  histories : ∀ i, i < 8 → ∀ predictions,
    changed.modelHistoryPrediction[i]? = some predictions → predictions ≠ []
  currentModel : changed.currentModel = rising
  usedModel : changed.usedModel = rising
  modelAccuracy : changed.modelAccuracy.length = rising
  monitorPara : changed.monitorPara = measured

theorem act_inv {delays : List φ} {delay : φ} {rising : Nat}
    {measured : MonitorPara φ} {changed : Monax φ} (hacting : 9 ≤ delays.length)
    (hrising : rising ≤ 7) (hsuffix : measured.networkDelay <:+ delays ++ [delay])
    (hdelay : measured.networkDelay.length = 10)
    (hrate : measured.deliveryRate.length = 10)
    (hcwnd : measured.cwnd.length = 10)
    (h : Ready measured (delays.length - 9) rising changed) (rand : Nat × Nat)
    (prob : φ) :
    Succeeds (act changed rand prob) (Inv (delays ++ [delay]) rising) := by
  have hlength : (delays ++ [delay]).length = delays.length + 1 :=
    List.length_append
  have hcalls : (delays ++ [delay]).length - 9 = delays.length - 9 + 1 := by
    omega
  have hfull : min (delays ++ [delay]).length 10 = 10 := by omega
  have hpredictions : min (delays.length - 9 + 2) 100 =
      min (min (delays.length - 9 + 1) 100 + 1) 100 := by omega
  have hafter : predictionsAfter (delays.length - 9 + 1) =
      min (min (delays.length - 9 + 1) 100 + 1) 100 := by
    rw [predictionsAfter, if_neg (Nat.succ_ne_zero _)]
    omega
  have hsized := h.sized
  rw [hpredictions] at hsized
  apply (act_succeeds (by omega) (Nat.min_le_right _ _) hsized h.utilities
    (by rw [h.monitorPara]; exact hdelay) rand prob).mono
  rintro decided ⟨hdecided, hutilities, hhistories, hcoldstart, hsame⟩
  have hpara : decided.monitorPara = measured :=
    hsame.monitorPara.trans h.monitorPara
  refine ⟨?_, ?_, fun _ => ?_, fun _ => ?_, hrising,
    hsame.currentModel.trans h.currentModel, hsame.usedModel.trans h.usedModel,
    ?_, ?_, ?_, ?_, ?_⟩
  · rw [hcalls, hafter]
    exact hdecided
  · rw [hcoldstart, h.coldstart, eq_comm, decide_eq_false_iff_not]
    omega
  · rw [hutilities]
    exact h.utilities
  · rw [hhistories]
    exact h.histories
  · rw [hsame.modelAccuracy, h.modelAccuracy]
  · rw [hpara]
    exact hsuffix
  · rw [hpara, hdelay, hfull]
  · rw [hpara, hrate, hfull]
  · rw [hpara, hcwnd, hfull]

theorem step_of_short {delays : List φ} {rising : Nat} {monax : Monax φ}
    (h : Inv delays rising monax) (epoch : Epoch φ)
    (hshort : delays.length < 9) :
    step monax epoch = .ok (monax.measure epoch) ∧
      Inv (delays ++ [epoch.realRtt]) rising (monax.measure epoch) := by
  obtain ⟨hsuffix, hdelay, hrate, hcwnd⟩ := measure_facts h epoch
  have hlength : (delays ++ [epoch.realRtt]).length = delays.length + 1 :=
    List.length_append
  have hsized := h.sized
  have hcold : decide (delays.length + 1 < 10) = decide (delays.length < 10) := by
    rw [decide_eq_decide]
    omega
  have hsame := measure_same monax epoch
  have hbefore : delays.length - 9 = 0 := by omega
  have hafter : delays.length + 1 - 9 = 0 := by omega
  rw [hbefore] at hsized
  constructor
  · rw [step, calcCCPara, if_pos]
    rw [hdelay, MONITOR_LEN]
    omega
  · rw [← hlength] at hdelay hrate hcwnd
    refine ⟨?_, ?_, ?_, ?_, h.rising_le, hsame.currentModel.trans h.currentModel,
      hsame.usedModel.trans h.usedModel,
      (congrArg List.length hsame.modelAccuracy).trans h.modelAccuracy, hsuffix,
      hdelay, hrate, hcwnd⟩
    · rw [hlength, hafter]
      exact hsized.of_same hsame
    · rw [hlength, hcold, hsame.coldstart]
      exact h.coldstart
    · intro hlong
      omega
    · intro hlong
      omega

theorem learn_measured {count : Nat} {monax : Monax φ}
    (hsized : monax.Sized (min (count - 9) 100) (predictionsAfter (count - 9))
      (predictionsAfter (count - 9)))
    (hcoldstart : monax.coldstart = decide (count < 10))
    (hutilities : 10 ≤ count → 2 ≤ monax.utilityRecord.length)
    (hhistories : 10 ≤ count → ∀ i, i < 8 → ∀ predictions,
      monax.modelHistoryPrediction[i]? = some predictions → predictions ≠ [])
    (epoch : Epoch φ) (hacting : 9 ≤ count)
    (hdelay : (monax.measure epoch).monitorPara.networkDelay.length =
      min (count + 1) 10)
    (hrate : (monax.measure epoch).monitorPara.deliveryRate.length =
      min (count + 1) 10)
    (hcwnd : (monax.measure epoch).monitorPara.cwnd.length =
      min (count + 1) 10) :
    Succeeds (learn (monax.measure epoch)) fun state =>
      Learned (monax.measure epoch) (count - 9) state.1 := by
  have hfull : min (count + 1) 10 = 10 := by omega
  rw [hfull] at hdelay hrate hcwnd
  have hsame := measure_same monax epoch
  have hcold : decide (count < 10) = decide (count - 9 = 0) := by
    rw [decide_eq_decide]
    omega
  have hstart : (monax.measure epoch).coldstart = decide (count - 9 = 0) :=
    hsame.coldstart.trans (hcoldstart.trans hcold)
  have hstarted : 0 < count - 9 → (monax.measure epoch).Started := by
    intro hpos
    refine ⟨?_, ?_, ?_⟩
    · rw [hsame.utilityRecord]
      exact hutilities (by omega)
    · rw [hsame.currentModel, hsame.modelHistoryPrediction]
      exact hhistories (by omega) _ hsized.currentModel
    · rw [hstart, decide_eq_false_iff_not]
      omega
  exact learn_succeeds (hsized.of_same hsame) hstart hstarted hdelay hrate hcwnd

theorem learn_of_inv {delays : List φ} {rising : Nat} {monax : Monax φ}
    (h : Inv delays rising monax) (epoch : Epoch φ)
    (hacting : 9 ≤ delays.length) :
    Succeeds (learn (monax.measure epoch)) fun state =>
      Ready (monax.measure epoch).monitorPara (delays.length - 9) rising
        state.1 := by
  obtain ⟨-, hdelay, hrate, hcwnd⟩ := measure_facts h epoch
  have hsame := measure_same monax epoch
  apply (learn_measured h.sized h.coldstart h.utilities h.histories epoch
    hacting hdelay hrate hcwnd).mono
  intro state hlearned
  exact ⟨hlearned.sized, hlearned.utilities, hlearned.coldstart,
    hlearned.histories,
    (hlearned.same.currentModel.trans hsame.currentModel).trans h.currentModel,
    (hlearned.same.usedModel.trans hsame.usedModel).trans h.usedModel,
    (congrArg List.length (hlearned.same.modelAccuracy.trans
      hsame.modelAccuracy)).trans h.modelAccuracy, hlearned.same.monitorPara⟩

theorem step_of_acting {delays : List φ} {rising : Nat} {monax : Monax φ}
    (h : Inv delays rising monax) (epoch : Epoch φ)
    (hacting : 9 ≤ delays.length) :
    step monax epoch = action (monax.measure epoch) epoch.rand := by
  have hdelay := (measure_facts h epoch).2.1
  rw [step, calcCCPara, if_neg]
  rw [hdelay, MONITOR_LEN]
  omega

theorem rises_of_ready {delays : List φ} {rising : Nat} {monax learned : Monax φ}
    (h : Inv delays rising monax) (epoch : Epoch φ)
    (hacting : 9 ≤ delays.length)
    (hready : Ready (monax.measure epoch).monitorPara (delays.length - 9) rising
      learned) :
    rises learned.monitorPara = .ok (lastFourRise (delays ++ [epoch.realRtt])) := by
  obtain ⟨hsuffix, hdelay, -, -⟩ := measure_facts h epoch
  rw [hready.monitorPara]
  exact rises_eq hsuffix (by omega)

theorem tryNextModel_ready {measured : MonitorPara φ} {calls rising : Nat}
    {learned : Monax φ} (h : Ready measured calls rising learned)
    (hrising : rising < 7) :
    Ready measured calls (rising + 1) (tryNextModel learned) := by
  have hcurrent : learned.currentModel + 1 = rising + 1 := by
    rw [h.currentModel]
  refine ⟨⟨h.sized.inputDim, h.sized.modelNum, h.sized.models, ?_,
    h.sized.labels, h.sized.predictions, h.sized.decisions, h.sized.histories⟩,
    h.utilities, h.coldstart, h.histories, hcurrent, ?_, ?_, h.monitorPara⟩
  · change learned.currentModel + 1 < 8
    omega
  · change learned.usedModel + 1 = rising + 1
    rw [h.usedModel]
  · change (learned.modelAccuracy ++ [_]).length = rising + 1
    rw [List.length_append, h.modelAccuracy, List.length_singleton]

theorem changeModel_succeeds {monitorPara : MonitorPara φ} {calls rising : Nat}
    {rose : Bool} {learned : Monax φ}
    (h : Ready monitorPara calls rising learned)
    (hrises : rises learned.monitorPara = .ok rose)
    (hrising : rose = true → rising < 7) :
    Succeeds (changeModel learned)
      (Ready monitorPara calls (rising + rose.toNat)) := by
  unfold changeModel
  rw [hrises, ok_bind]
  cases rose with
  | false =>
      rw [if_neg Bool.false_ne_true]
      exact succeeds_pure h
  | true =>
      have hlt := hrising rfl
      have hused : learned.usedModel < learned.modelNum - 1 := by
        rw [h.usedModel, h.sized.modelNum]
        omega
      rw [if_pos rfl, if_pos hused]
      exact succeeds_pure (tryNextModel_ready h hlt)

theorem changeModel_fails {monitorPara : MonitorPara φ} {calls : Nat}
    {learned changed : Monax φ} (h : Ready monitorPara calls 7 learned)
    (hrises : rises learned.monitorPara = .ok true) :
    changeModel learned ≠ .ok changed := by
  intro hchanged
  have hused : ¬ learned.usedModel < learned.modelNum - 1 := by
    rw [h.usedModel, h.sized.modelNum]
    omega
  unfold changeModel at hchanged
  rw [hrises, ok_bind, if_pos rfl, if_neg hused] at hchanged
  obtain ⟨accuracies, haccuracies, -⟩ := bind_eq_ok hchanged
  have hlength := (assessModels_range h.sized.modelNum haccuracies).1
  have hseven := h.modelAccuracy
  omega

/-- The number of models among which a step chooses the best one, if it does. -/
def bestModelRange (monax : Monax φ) (epoch : Epoch φ) :
    Except Failure (Option Nat) := do
  let measured := monax.measure epoch
  if measured.monitorPara.networkDelay.length < MONITOR_LEN then
    return none
  else
    let learned ← learn measured
    let rising ← rises learned.1.monitorPara
    if rising && !(learned.1.usedModel < learned.1.modelNum - 1 : Bool) then
      return some (← assessModels learned.1).length
    else
      return none

/-- In each epoch of the run, every element that is accessed exists, and a
choice of the best model ranges over all the models. -/
def IndexSafe (monax : Monax φ) : List (Epoch φ) → Prop
  | [] => True
  | epoch :: rest => ∃ next, step monax epoch = .ok next ∧
      (∀ range, bestModelRange monax epoch = .ok (some range) →
        range = monax.modelNum) ∧
      IndexSafe next rest

theorem seesRise_of_acting {delays : List φ} (hacting : 9 ≤ delays.length)
    (delay : φ) : seesRise delays delay = lastFourRise (delays ++ [delay]) := by
  have hlong : decide (MONITOR_LEN ≤ delays.length + 1) = true := by
    rw [decide_eq_true_eq, MONITOR_LEN]
    omega
  rw [seesRise, hlong, Bool.true_and]

theorem step_succeeds {delays : List φ} {rising : Nat} {monax : Monax φ}
    (h : Inv delays rising monax) (epoch : Epoch φ)
    (hrising : seesRise delays epoch.realRtt = true → rising < 7) :
    Succeeds (step monax epoch) (Inv (delays ++ [epoch.realRtt])
      (rising + (seesRise delays epoch.realRtt).toNat)) := by
  rcases Nat.lt_or_ge delays.length 9 with hshort | hacting
  · have hno : seesRise delays epoch.realRtt = false := by
      rw [seesRise, Bool.and_eq_false_iff, decide_eq_false_iff_not, MONITOR_LEN]
      omega
    obtain ⟨hstep, hinv⟩ := step_of_short h epoch hshort
    rw [hno]
    exact ⟨_, hstep, hinv⟩
  · have hfull : min (delays.length + 1) 10 = 10 := by omega
    obtain ⟨hsuffix, hdelay, hrate, hcwnd⟩ := measure_facts h epoch
    rw [hfull] at hdelay hrate hcwnd
    rw [seesRise_of_acting hacting] at hrising ⊢
    rw [step_of_acting h epoch hacting]
    have hle := h.rising_le
    have hbound : rising + (lastFourRise (delays ++ [epoch.realRtt])).toNat ≤
        7 := by
      cases hrise : lastFourRise (delays ++ [epoch.realRtt]) with
      | false => exact hle
      | true => exact hrising hrise
    unfold action
    apply (learn_of_inv h epoch hacting).bind
    rintro ⟨learned, prob⟩ hready
    have hrises := rises_of_ready h epoch hacting hready
    apply (changeModel_succeeds hready hrises hrising).bind
    intro changed hchanged
    exact act_inv hacting hbound hsuffix hdelay hrate hcwnd hchanged _ _

theorem step_fails {delays : List φ} {monax next : Monax φ}
    (h : Inv delays 7 monax) (epoch : Epoch φ)
    (hrise : seesRise delays epoch.realRtt = true) :
    step monax epoch ≠ .ok next := by
  intro hstep
  have hacting : 9 ≤ delays.length := by
    rw [seesRise, Bool.and_eq_true, decide_eq_true_eq, MONITOR_LEN] at hrise
    omega
  rw [seesRise_of_acting hacting] at hrise
  rw [step_of_acting h epoch hacting] at hstep
  obtain ⟨⟨learned, prob⟩, hlearned, hready⟩ := learn_of_inv h epoch hacting
  have hrises := rises_of_ready h epoch hacting hready
  rw [hrise] at hrises
  unfold action at hstep
  rw [hlearned, ok_bind] at hstep
  obtain ⟨changed, hchanged, -⟩ := bind_eq_ok hstep
  exact changeModel_fails hready hrises hchanged

theorem inv_of_step {delays : List φ} {rising : Nat} {monax next : Monax φ}
    {epoch : Epoch φ} (h : Inv delays rising monax)
    (hstep : step monax epoch = .ok next) :
    Inv (delays ++ [epoch.realRtt])
      (rising + (seesRise delays epoch.realRtt).toNat) next := by
  have hrising : seesRise delays epoch.realRtt = true → rising < 7 := by
    intro hrise
    rcases Nat.lt_or_ge rising 7 with hlt | hge
    · exact hlt
    · obtain rfl : rising = 7 := Nat.le_antisymm h.rising_le hge
      exact absurd hstep (step_fails h epoch hrise)
  obtain ⟨found, hfound, hinv⟩ := step_succeeds h epoch hrising
  cases hstep.symm.trans hfound
  exact hinv

theorem bestModelRange_eq {delays : List φ} {rising : Nat} {monax : Monax φ}
    (h : Inv delays rising monax) (epoch : Epoch φ)
    (hrising : seesRise delays epoch.realRtt = true → rising < 7) :
    bestModelRange monax epoch = .ok none := by
  have hdelay := (measure_facts h epoch).2.1
  unfold bestModelRange
  rcases Nat.lt_or_ge delays.length 9 with hshort | hacting
  · rw [if_pos]
    · rfl
    · rw [hdelay, MONITOR_LEN]
      omega
  · rw [if_neg]
    · obtain ⟨⟨learned, prob⟩, hlearned, hready⟩ := learn_of_inv h epoch hacting
      have hrises := rises_of_ready h epoch hacting hready
      rw [seesRise_of_acting hacting] at hrising
      rw [hlearned, ok_bind, hrises, ok_bind, if_neg]
      · rfl
      · rw [Bool.and_eq_true, Bool.not_eq_true', decide_eq_false_iff_not]
        rintro ⟨hrise, hused⟩
        have hlt := hrising hrise
        apply hused
        change learned.usedModel < learned.modelNum - 1
        rw [hready.usedModel, hready.sized.modelNum]
        omega
    · rw [hdelay, MONITOR_LEN]
      omega

/-- From any state of a run, so many more rises are safe as leave seven in
all. -/
theorem indexSafe_iff_of_inv {delays : List φ} {rising : Nat}
    {monax : Monax φ} (h : Inv delays rising monax) (epochs : List (Epoch φ)) :
    IndexSafe monax epochs ↔
      rising + risingFrom delays (epochs.map Epoch.realRtt) ≤ 7 := by
  induction epochs generalizing delays rising monax with
  | nil => exact ⟨fun _ => h.rising_le, fun _ => trivial⟩
  | cons epoch rest ih =>
      rw [List.map_cons, risingFrom, ← Nat.add_assoc]
      constructor
      · intro hsafe
        obtain ⟨next, hstep, -, hrest⟩ := hsafe
        exact (ih (inv_of_step h hstep)).mp hrest
      · intro hcount
        have hrising : seesRise delays epoch.realRtt = true → rising < 7 := by
          intro hrise
          rw [hrise, Bool.toNat_true] at hcount
          omega
        obtain ⟨next, hstep, hinv⟩ := step_succeeds h epoch hrising
        refine ⟨next, hstep, fun range hrange => ?_, (ih hinv).mpr hcount⟩
        rw [bestModelRange_eq h epoch hrising] at hrange
        cases hrange

/-- With the input dimension of the sender, a run accesses only elements that
exist exactly when at most seven of its epochs from the tenth on have seen a
rising delay. -/
theorem indexSafe_iff (alpha beta lambda1 lambda2 : φ)
    (initialCwnd initialInterval : Int) (epochs : List (Epoch φ)) :
    IndexSafe (init 5 alpha beta lambda1 lambda2 initialCwnd initialInterval)
        epochs ↔
      risingEpochs (epochs.map Epoch.realRtt) ≤ 7 := by
  have hiff := indexSafe_iff_of_inv (inv_init alpha beta lambda1 lambda2
    initialCwnd initialInterval) epochs
  rwa [Nat.zero_add] at hiff

/-- Whole numbers in the place of `double`. -/
structure Whole where
  value : Int

instance : FloatingPoint Whole where
  add a b := ⟨a.value + b.value⟩
  sub a b := ⟨a.value - b.value⟩
  mul a b := ⟨a.value * b.value⟩
  div a b := ⟨a.value / b.value⟩
  neg a := ⟨-a.value⟩
  ofInt value := ⟨value⟩
  literal digits decimals := ⟨digits / 10 ^ decimals⟩
  toInt a := a.value
  single a := a
  lt a b := a.value < b.value
  eq a b := a.value = b.value
  abs a := ⟨a.value.natAbs⟩
  sqrt a := ⟨a.value.natAbs.sqrt⟩
  exp a := ⟨3 ^ a.value.natAbs⟩
  pow a b := ⟨a.value ^ b.value.natAbs⟩

def growingDelays : List (Epoch Whole) :=
  (List.range 17).map fun i => {
    realRtt := ⟨i + 1⟩
    deliveryRate := ⟨1⟩
    flightSize := 0
    sndPeriod := 500
    wndSize := 30
    rand := (0, 0) }

theorem growingDelays_unsafe :
    ¬ IndexSafe (init 5 ⟨2⟩ ⟨1⟩ ⟨2⟩ ⟨2⟩ 30 500) growingDelays := by
  intro hsafe
  have hcount := (indexSafe_iff_of_inv (inv_init ⟨2⟩ ⟨1⟩ ⟨2⟩ ⟨2⟩ 30 500)
    growingDelays).mp hsafe
  exact absurd hcount (by decide)

end Monax

end Salsify.Net
