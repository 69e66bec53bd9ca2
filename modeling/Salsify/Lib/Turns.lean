import Mathlib.Logic.Function.Basic

namespace Salsify.Turns

/-! Loops that may go on for ever: what a turn makes of a state is the state it
goes on with or what the loop leaves with. -/

variable {σ ρ : Type}

/-- What the loop has left with after at most so many turns. -/
def run (turn : σ → σ ⊕ ρ) : (turns : Nat) → σ → Option ρ
  | 0, _ => none
  | turns + 1, state =>
      match turn state with
      | .inl next => run turn turns next
      | .inr result => some result

def Ends (turn : σ → σ ⊕ ρ) (state : σ) (result : ρ) : Prop :=
  ∃ turns, run turn turns state = some result

section Loop

variable {turn : σ → σ ⊕ ρ} {state next : σ} {result : ρ}

theorem run_goesOn (h : turn state = .inl next) (turns : Nat) :
    run turn (turns + 1) state = run turn turns next := by
  rw [run, h]

theorem run_leaves (h : turn state = .inr result) (turns : Nat) :
    run turn (turns + 1) state = some result := by
  rw [run, h]

theorem Ends.goesOn (h : turn state = .inl next) (hends : Ends turn next result) :
    Ends turn state result := by
  obtain ⟨turns, hrun⟩ := hends
  exact ⟨turns + 1, (run_goesOn h turns).trans hrun⟩

theorem Ends.leaves (h : turn state = .inr result) : Ends turn state result :=
  ⟨1, run_leaves h 0⟩

theorem run_mono {turns : Nat} (h : run turn turns state = some result)
    (more : Nat) : run turn (turns + more) state = some result := by
  induction turns generalizing state with
  | zero => cases h
  | succ turns ih =>
      rw [Nat.succ_add]
      cases hturn : turn state with
      | inl next =>
          rw [run_goesOn hturn] at h ⊢
          exact ih h
      | inr left =>
          rw [run_leaves hturn] at h ⊢
          exact h

theorem run_eq_none (Inv : σ → Prop)
    (hturn : ∀ state, Inv state → ∃ next, turn state = .inl next ∧ Inv next)
    (h : Inv state) (turns : Nat) : run turn turns state = none := by
  induction turns generalizing state with
  | zero => rfl
  | succ turns ih =>
      obtain ⟨next, hnext, hinv⟩ := hturn state h
      rw [run_goesOn hnext]
      exact ih hinv

end Loop

end Salsify.Turns
