import Mathlib.Order.Monotone.Basic

namespace Salsify

/-! The last index before a limit that a property holds at. -/

def LastBefore (P : Nat → Prop) (limit : Nat) : Option Nat → Prop
  | none => ∀ other < limit, ¬ P other
  | some last => last < limit ∧ P last ∧
      ∀ other, last < other → other < limit → ¬ P other

namespace LastBefore

variable {P Q : Nat → Prop} {limit : Nat} {found other : Option Nat}

theorem zero (P : Nat → Prop) : LastBefore P 0 none :=
  fun _ hother => absurd hother (Nat.not_lt_zero _)

theorem here (h : P limit) : LastBefore P (limit + 1) (some limit) :=
  ⟨Nat.lt_succ_self limit, h, fun _ hafter hbefore =>
    absurd hafter (Nat.not_lt.mpr (Nat.lt_succ_iff.mp hbefore))⟩

theorem skip (h : LastBefore P limit found) (hnot : ¬ P limit) :
    LastBefore P (limit + 1) found := by
  cases found with
  | none =>
      intro index hindex
      cases Nat.lt_succ_iff_lt_or_eq.mp hindex with
      | inl hlt => exact h index hlt
      | inr heq => exact heq ▸ hnot
  | some last =>
      refine ⟨Nat.lt_succ_of_lt h.1, h.2.1, ?_⟩
      intro index hafter hindex
      cases Nat.lt_succ_iff_lt_or_eq.mp hindex with
      | inl hlt => exact h.2.2 index hafter hlt
      | inr heq => exact heq ▸ hnot

theorem unskip (h : LastBefore P (limit + 1) found) (hnot : ¬ P limit) :
    LastBefore P limit found := by
  cases found with
  | none => exact fun index hindex => h index (Nat.lt_succ_of_lt hindex)
  | some last =>
      have hne : last ≠ limit := by
        rintro rfl
        exact hnot h.2.1
      refine ⟨Nat.lt_of_le_of_ne (Nat.lt_succ_iff.mp h.1) hne, h.2.1, ?_⟩
      exact fun index hafter hindex =>
        h.2.2 index hafter (Nat.lt_succ_of_lt hindex)

theorem congr (h : LastBefore P limit found)
    (hiff : ∀ index < limit, P index ↔ Q index) :
    LastBefore Q limit found := by
  cases found with
  | none => exact fun index hindex => mt (hiff index hindex).mpr (h index hindex)
  | some last =>
      exact ⟨h.1, (hiff last h.1).mp h.2.1, fun index hafter hindex =>
        mt (hiff index hindex).mpr (h.2.2 index hafter hindex)⟩

theorem lt {last : Nat} (h : LastBefore P limit (some last)) : last < limit :=
  h.1

theorem eq_none (h : LastBefore P limit found)
    (hnone : ∀ index < limit, ¬ P index) : found = none := by
  cases found with
  | none => rfl
  | some last => exact absurd h.2.1 (hnone last h.1)

theorem eq_here (h : LastBefore P (limit + 1) found) (hhere : P limit) :
    found = some limit := by
  cases found with
  | none => exact absurd hhere (h limit (Nat.lt_succ_self limit))
  | some last =>
      cases Nat.lt_or_eq_of_le (Nat.lt_succ_iff.mp h.1) with
      | inl hlt => exact absurd hhere (h.2.2 limit hlt (Nat.lt_succ_self limit))
      | inr heq => rw [heq]

/-- Where the property holds at places of one line only, the last of them is
the place of the last step along the line. -/
theorem alongLine {place : Nat → Nat} (hplace : StrictMono place)
    {steps : Nat}
    (hline : ∀ index < place steps, P index → ∃ step, place step = index)
    (h : LastBefore P (place steps) found) :
    ∃ nearest, LastBefore (fun step => P (place step)) steps nearest ∧
      found = nearest.map place := by
  cases found with
  | none =>
      exact ⟨none, fun step hstep => h _ (hplace hstep), rfl⟩
  | some last =>
      obtain ⟨step, rfl⟩ := hline last h.1 h.2.1
      refine ⟨some step, ⟨hplace.lt_iff_lt.mp h.1, h.2.1, ?_⟩, rfl⟩
      exact fun later hafter hbefore =>
        h.2.2 _ (hplace hafter) (hplace hbefore)

end LastBefore

end Salsify
