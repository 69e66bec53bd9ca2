import Mathlib.Data.List.Nodup
import Mathlib.Data.List.TakeWhile

namespace Salsify

/-! One entry of a list before another, and a list shortened from its front. -/

variable {α : Type} [DecidableEq α] {states older newer : List α}
  {first second : α}

def Precedes (states : List α) (first second : α) : Prop :=
  second ∈ states ∧ first ∈ states.takeWhile (· ≠ second)

theorem Precedes.mem (h : Precedes states first second) : first ∈ states :=
  (List.takeWhile_prefix _).subset h.2

theorem mem_dropWhile_ne_iff (hnodup : states.Nodup) (hmem : first ∈ states) :
    first ∈ states.dropWhile (· ≠ second) ↔
      first ∉ states.takeWhile (· ≠ second) := by
  rw [← List.takeWhile_append_dropWhile (p := (· ≠ second)) (l := states)]
    at hnodup hmem
  constructor
  · intro hkept hdropped
    exact List.disjoint_of_nodup_append hnodup hdropped hkept
  · exact (List.mem_append.mp hmem).resolve_left

theorem takeWhile_ne_append (h : second ∉ older) :
    (older ++ newer).takeWhile (· ≠ second) =
      older ++ newer.takeWhile (· ≠ second) := by
  apply List.takeWhile_append_of_pos
  intro state hstate
  rw [decide_eq_true_iff]
  rintro rfl
  exact h hstate

theorem precedes_append_iff (hnodup : (older ++ newer).Nodup)
    (hfirst : first ∈ newer) (hsecond : second ∈ newer) :
    Precedes (older ++ newer) first second ↔
      first ∈ newer.takeWhile (· ≠ second) := by
  have hdisjoint := List.disjoint_of_nodup_append hnodup
  rw [Precedes, takeWhile_ne_append fun hold => hdisjoint hold hsecond,
    List.mem_append, List.mem_append]
  constructor
  · rintro ⟨-, hold | hnew⟩
    · exact absurd hfirst (hdisjoint hold)
    · exact hnew
  · exact fun hnew => ⟨Or.inr hsecond, Or.inr hnew⟩

theorem not_precedes_append (hnodup : (older ++ newer).Nodup)
    (hfirst : first ∈ newer) (hsecond : second ∉ newer) :
    ¬ Precedes (older ++ newer) first second := by
  rintro ⟨hmem, hbefore⟩
  have hold : second ∈ older := (List.mem_append.mp hmem).resolve_right hsecond
  obtain ⟨before, after, rfl, hnot⟩ := List.eq_append_cons_of_mem hold
  have hleading : (before ++ second :: after ++ newer).takeWhile (· ≠ second) =
      before := by
    rw [List.append_assoc, takeWhile_ne_append hnot, List.cons_append,
      List.takeWhile_cons_of_neg (by simp), List.append_nil]
  rw [hleading] at hbefore
  exact List.disjoint_of_nodup_append hnodup
    (List.mem_append_left _ hbefore) hfirst

end Salsify
