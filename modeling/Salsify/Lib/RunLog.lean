import Salsify.Lib.Fallible

namespace Salsify.Fallible

/-! What a run that may fail writes down on its way. -/

variable {ε α β γ σ : Type}

/-- The entries of the steps of a run, up to one that fails. -/
def runLog (step : σ → α → Except ε σ) (entry : σ → α → List β) :
    σ → List α → List β
  | _, [] => []
  | state, item :: rest =>
      entry state item ++
        match step state item with
        | .ok next => runLog step entry next rest
        | .error _ => []

variable {step : σ → α → Except ε σ} {entry : σ → α → List β}

@[simp] theorem runLog_nil (state : σ) : runLog step entry state [] = [] := rfl

theorem runLog_cons {state next : σ} {item : α} (rest : List α)
    (h : step state item = .ok next) :
    runLog step entry state (item :: rest) =
      entry state item ++ runLog step entry next rest := by
  rw [runLog, h]

theorem runLog_append {start last : σ} {items : List α} (more : List α)
    (hrun : items.foldlM step start = .ok last) :
    runLog step entry start (items ++ more) =
      runLog step entry start items ++ runLog step entry last more := by
  induction items generalizing start with
  | nil =>
      cases hrun
      rfl
  | cons item items ih =>
      rw [List.foldlM_cons] at hrun
      obtain ⟨next, hnext, hrun⟩ := bind_eq_ok hrun
      rw [List.cons_append, runLog_cons _ hnext, runLog_cons _ hnext, ih hrun,
        List.append_assoc]

theorem map_runLog (f : β → γ) (state : σ) (items : List α) :
    (runLog step entry state items).map f =
      runLog step (fun state item => (entry state item).map f) state items := by
  induction items generalizing state with
  | nil => rfl
  | cons item items ih =>
      rw [runLog, runLog, List.map_append]
      cases step state item with
      | error _ => rfl
      | ok next => rw [ih next]

theorem AllSteps.logged {Condition : σ → α → Prop} (Inv : List β → σ → Prop)
    (hstep : ∀ log state next item, Inv log state → Condition state item →
      step state item = .ok next → Inv (log ++ entry state item) next)
    {items : List α} {start last : σ} {log : List β}
    (hall : AllSteps step Condition start items) (hstart : Inv log start)
    (hrun : items.foldlM step start = .ok last) :
    Inv (log ++ runLog step entry start items) last := by
  induction items generalizing start log with
  | nil =>
      cases hrun
      rw [runLog_nil, List.append_nil]
      exact hstart
  | cons item items ih =>
      rw [List.foldlM_cons] at hrun
      obtain ⟨next, hnext, hrun⟩ := bind_eq_ok hrun
      rw [runLog_cons _ hnext, ← List.append_assoc]
      have hnextInv := hstep log start next item hstart hall.1 hnext
      exact ih (hall.2 next hnext) hnextInv hrun

theorem allSteps_of_forall {Condition : σ → α → Prop}
    (h : ∀ state item, Condition state item) (start : σ) (items : List α) :
    AllSteps step Condition start items := by
  induction items generalizing start with
  | nil => trivial
  | cons item items ih => exact ⟨h start item, fun next _ => ih next⟩

end Salsify.Fallible
