import Mathlib.Data.List.Basic

namespace Salsify.Fallible

/-! Loops whose steps may fail, over any error type. -/

variable {ε α β γ σ : Type}

theorem mapM_eq_ok {f : α → Except ε β} {g : α → β} {items : List α}
    (h : ∀ item ∈ items, f item = .ok (g item)) :
    items.mapM f = .ok (items.map g) := by
  induction items with
  | nil => rfl
  | cons item items ih =>
      rw [List.mapM_cons, h item List.mem_cons_self,
        ih fun other hother => h other (List.mem_cons_of_mem item hother)]
      rfl

theorem mapM_view {f : α → Except ε β} {view : β → γ} {expected : α → γ}
    {items : List α}
    (h : ∀ item ∈ items, ∃ value, f item = .ok value ∧
      view value = expected item) :
    ∃ values, items.mapM f = .ok values ∧
      values.map view = items.map expected := by
  induction items with
  | nil => exact ⟨[], rfl, rfl⟩
  | cons item items ih =>
      obtain ⟨value, hvalue, hview⟩ := h item List.mem_cons_self
      obtain ⟨values, hvalues, hviews⟩ := ih fun other hother =>
        h other (List.mem_cons_of_mem item hother)
      refine ⟨value :: values, ?_, ?_⟩
      · rw [List.mapM_cons, hvalue, hvalues]
        rfl
      · rw [List.map_cons, List.map_cons, hview, hviews]

theorem bind_eq_ok {first : Except ε α} {next : α → Except ε β} {result : β}
    (h : (first >>= next) = .ok result) :
    ∃ middle, first = .ok middle ∧ next middle = .ok result := by
  cases first with
  | error failure => cases h
  | ok middle => exact ⟨middle, rfl, h⟩

theorem ok_bind (value : α) (next : α → Except ε β) :
    (Except.ok value >>= next) = next value :=
  rfl

theorem forM_ok {f : α → Except ε Unit} :
    (items : List α) → (∀ item ∈ items, f item = .ok ()) →
      items.forM f = .ok ()
  | [], _ => rfl
  | item :: rest, h => by
      change (f item >>= fun _ => rest.forM f) = .ok ()
      rw [h item List.mem_cons_self, ok_bind]
      exact forM_ok rest fun other hother =>
        h other (List.mem_cons_of_mem item hother)

theorem foldlM_invariant {step : σ → α → Except ε σ} (Inv : σ → Prop)
    {items : List α} {start last : σ}
    (hstep : ∀ state next, ∀ item ∈ items, Inv state →
      step state item = .ok next → Inv next)
    (hstart : Inv start) (hrun : items.foldlM step start = .ok last) :
    Inv last := by
  induction items generalizing start with
  | nil =>
      cases hrun
      exact hstart
  | cons item items ih =>
      rw [List.foldlM_cons] at hrun
      obtain ⟨middle, hmiddle, hrest⟩ := bind_eq_ok hrun
      exact ih
        (fun state next other hother =>
          hstep state next other (List.mem_cons_of_mem item hother))
        (hstep start middle item List.mem_cons_self hstart hmiddle) hrest

theorem foldlM_view {τ : Type} {step : σ → α → Except ε σ}
    {stepView : τ → α → Except ε τ}
    (view : σ → τ)
    (hstep : ∀ state item next, step state item = .ok next →
      stepView (view state) item = .ok (view next))
    {items : List α} {start last : σ}
    (hrun : items.foldlM step start = .ok last) :
    items.foldlM stepView (view start) = .ok (view last) := by
  induction items generalizing start with
  | nil =>
      cases hrun
      rfl
  | cons item items ih =>
      rw [List.foldlM_cons] at hrun ⊢
      obtain ⟨middle, hmiddle, hrest⟩ := bind_eq_ok hrun
      rw [hstep start item middle hmiddle, ok_bind]
      exact ih hrest

theorem foldlM_range_invariant {step : σ → Nat → Except ε σ}
    (Inv : Nat → σ → Prop) {count : Nat} {start last : σ}
    (hstep : ∀ state next i, i < count → Inv i state →
      step state i = .ok next → Inv (i + 1) next)
    (hstart : Inv 0 start)
    (hrun : (List.range count).foldlM step start = .ok last) :
    Inv count last := by
  induction count generalizing last with
  | zero =>
      cases hrun
      exact hstart
  | succ count ih =>
      rw [List.range_succ, List.foldlM_append] at hrun
      obtain ⟨middle, hmiddle, hrun⟩ := bind_eq_ok hrun
      rw [List.foldlM_cons] at hrun
      obtain ⟨next, hnext, hrun⟩ := bind_eq_ok hrun
      cases hrun
      exact hstep middle last count (Nat.lt_succ_self count)
        (ih (fun state next i hi => hstep state next i (Nat.lt_succ_of_lt hi))
          hmiddle) hnext

theorem step_of_foldlM_range {step : σ → Nat → Except ε σ} {count : Nat}
    {start last : σ} (hrun : (List.range count).foldlM step start = .ok last)
    {i : Nat} (hi : i < count) : ∃ state next, step state i = .ok next := by
  induction count generalizing last with
  | zero => cases hi
  | succ count ih =>
      rw [List.range_succ, List.foldlM_append] at hrun
      obtain ⟨middle, hmiddle, hrun⟩ := bind_eq_ok hrun
      rw [List.foldlM_cons] at hrun
      obtain ⟨next, hnext, -⟩ := bind_eq_ok hrun
      rcases Nat.lt_succ_iff_lt_or_eq.mp hi with hlt | rfl
      · exact ih hmiddle hlt
      · exact ⟨middle, next, hnext⟩

/-- Every step of a run meets a condition on the state it starts from. -/
def AllSteps (step : σ → α → Except ε σ) (Condition : σ → α → Prop) :
    σ → List α → Prop
  | _, [] => True
  | state, item :: rest =>
      Condition state item ∧
        ∀ next, step state item = .ok next → AllSteps step Condition next rest

/-- What is kept by every successful step that meets the condition is kept by
every successful run whose steps all do. -/
theorem AllSteps.invariant {step : σ → α → Except ε σ}
    {Condition : σ → α → Prop} (Inv : σ → Prop) {items : List α}
    {start last : σ}
    (hstep : ∀ state next item, Inv state → Condition state item →
      step state item = .ok next → Inv next)
    (hall : AllSteps step Condition start items) (hstart : Inv start)
    (hrun : items.foldlM step start = .ok last) : Inv last := by
  induction items generalizing start with
  | nil =>
      cases hrun
      exact hstart
  | cons item items ih =>
      rw [List.foldlM_cons] at hrun
      obtain ⟨middle, hmiddle, hrest⟩ := bind_eq_ok hrun
      exact ih (hall.2 middle hmiddle)
        (hstep start middle item hstart hall.1 hmiddle) hrest

/-- Two conditions that are the same in every state that the first one lets a
run come to. -/
theorem allSteps_congr {step : σ → α → Except ε σ}
    {Condition Other : σ → α → Prop} (Inv : σ → Prop)
    (hstep : ∀ state next item, Inv state → Condition state item →
      step state item = .ok next → Inv next)
    (hiff : ∀ state item, Inv state → (Condition state item ↔ Other state item))
    {start : σ} (hstart : Inv start) (items : List α) :
    AllSteps step Condition start items ↔ AllSteps step Other start items := by
  induction items generalizing start with
  | nil => exact Iff.rfl
  | cons item items ih =>
      constructor
      · rintro ⟨hcondition, hrest⟩
        refine ⟨(hiff start item hstart).mp hcondition, fun next hnext => ?_⟩
        exact (ih (hstep start next item hstart hcondition hnext)).mp
          (hrest next hnext)
      · rintro ⟨hother, hrest⟩
        have hcondition := (hiff start item hstart).mpr hother
        refine ⟨hcondition, fun next hnext => ?_⟩
        exact (ih (hstep start next item hstart hcondition hnext)).mpr
          (hrest next hnext)

theorem AllSteps.reached {step : σ → α → Except ε σ}
    {Condition : σ → α → Prop} {start middle : σ} {front rest : List α}
    {item : α} (hall : AllSteps step Condition start (front ++ item :: rest))
    (hrun : front.foldlM step start = .ok middle) : Condition middle item := by
  induction front generalizing start with
  | nil =>
      cases hrun
      exact hall.1
  | cons first front ih =>
      rw [List.foldlM_cons] at hrun
      obtain ⟨next, hnext, hrun⟩ := bind_eq_ok hrun
      exact ih (hall.2 next hnext) hrun

theorem AllSteps.append {step : σ → α → Except ε σ}
    {Condition : σ → α → Prop} {start middle : σ} {front rest : List α}
    (hfront : AllSteps step Condition start front)
    (hrun : front.foldlM step start = .ok middle)
    (hrest : AllSteps step Condition middle rest) :
    AllSteps step Condition start (front ++ rest) := by
  induction front generalizing start with
  | nil =>
      cases hrun
      exact hrest
  | cons first front ih =>
      rw [List.foldlM_cons] at hrun
      obtain ⟨next, hnext, hrun⟩ := bind_eq_ok hrun
      refine ⟨hfront.1, fun other hother => ?_⟩
      obtain rfl := Except.ok.inj (hnext.symm.trans hother)
      exact ih (hfront.2 next hnext) hrun

/-- The computation succeeds, with a value of which the postcondition holds. -/
def Succeeds (result : Except ε α) (Post : α → Prop) : Prop :=
  ∃ value, result = .ok value ∧ Post value

theorem succeeds_pure {Post : α → Prop} {value : α} (h : Post value) :
    Succeeds (pure value : Except ε α) Post :=
  ⟨value, rfl, h⟩

theorem Succeeds.mono {result : Except ε α} {Post Weaker : α → Prop}
    (h : Succeeds result Post) (hweaker : ∀ value, Post value → Weaker value) :
    Succeeds result Weaker := by
  obtain ⟨value, hvalue, hpost⟩ := h
  exact ⟨value, hvalue, hweaker value hpost⟩

theorem Succeeds.bind {first : Except ε α} {next : α → Except ε β}
    {Middle : α → Prop} {Post : β → Prop} (hfirst : Succeeds first Middle)
    (hnext : ∀ value, Middle value → Succeeds (next value) Post) :
    Succeeds (first >>= next) Post := by
  obtain ⟨value, rfl, hmiddle⟩ := hfirst
  exact hnext value hmiddle

theorem succeeds_foldlM {step : σ → α → Except ε σ} {Inv : σ → Prop}
    {items : List α} {start : σ}
    (hstep : ∀ state, ∀ item ∈ items, Inv state →
      Succeeds (step state item) Inv)
    (hstart : Inv start) : Succeeds (items.foldlM step start) Inv := by
  induction items generalizing start with
  | nil => exact succeeds_pure hstart
  | cons item items ih =>
      rw [List.foldlM_cons]
      apply (hstep start item List.mem_cons_self hstart).bind
      intro middle hmiddle
      exact ih (fun state other hother =>
        hstep state other (List.mem_cons_of_mem item hother)) hmiddle

theorem succeeds_mapM {f : α → Except ε β} {Post : β → Prop} {items : List α}
    (h : ∀ item ∈ items, Succeeds (f item) Post) :
    Succeeds (items.mapM f) fun values =>
      values.length = items.length ∧ ∀ value ∈ values, Post value := by
  induction items with
  | nil => exact succeeds_pure ⟨rfl, fun _ h => absurd h List.not_mem_nil⟩
  | cons item items ih =>
      rw [List.mapM_cons]
      apply (h item List.mem_cons_self).bind
      intro value hvalue
      apply (ih fun other hother => h other (List.mem_cons_of_mem item hother)).bind
      intro values hvalues
      refine succeeds_pure ⟨congrArg Nat.succ hvalues.1, fun other hother => ?_⟩
      rcases List.mem_cons.mp hother with rfl | hother
      · exact hvalue
      · exact hvalues.2 other hother

theorem ok_of_mapM_eq_ok {f : α → Except ε β} {items : List α}
    {values : List β} (h : items.mapM f = .ok values) {item : α}
    (hitem : item ∈ items) : ∃ value, f item = .ok value := by
  induction items generalizing values with
  | nil => cases hitem
  | cons other items ih =>
      rw [List.mapM_cons] at h
      obtain ⟨value, hvalue, hrest⟩ := bind_eq_ok h
      obtain ⟨others, hothers, -⟩ := bind_eq_ok hrest
      rcases List.mem_cons.mp hitem with rfl | hitem
      · exact ⟨value, hvalue⟩
      · exact ih hothers hitem

theorem succeeds_foldlM_range {step : σ → Nat → Except ε σ}
    {Inv : Nat → σ → Prop} {count : Nat} {start : σ}
    (hstep : ∀ state i, i < count → Inv i state →
      Succeeds (step state i) (Inv (i + 1)))
    (hstart : Inv 0 start) :
    Succeeds ((List.range count).foldlM step start) (Inv count) := by
  induction count with
  | zero => exact succeeds_pure hstart
  | succ count ih =>
      rw [List.range_succ, List.foldlM_append]
      apply (ih fun state i hi => hstep state i (Nat.lt_succ_of_lt hi)).bind
      intro state hstate
      rw [List.foldlM_cons]
      apply (hstep state count (Nat.lt_succ_self count) hstate).bind
      intro last hlast
      exact succeeds_pure hlast

def check (test : α → Bool) : Except ε α → Bool
  | .ok value => test value
  | .error _ => false

theorem exists_of_check {test : α → Bool} {result : Except ε α}
    (h : check test result = true) :
    ∃ value, result = .ok value ∧ test value = true := by
  cases result with
  | ok value => exact ⟨value, rfl, h⟩
  | error failure => cases h

def errorOf : Except ε α → Option ε
  | .ok _ => none
  | .error failure => some failure

theorem errorOf_eq_some {result : Except ε α} {failure : ε}
    (h : errorOf result = some failure) : result = .error failure := by
  cases result with
  | ok value => cases h
  | error found =>
      cases h
      rfl

end Salsify.Fallible
