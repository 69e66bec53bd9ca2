import Mathlib.Algebra.Order.Ring.Int

namespace Salsify.Bisection

/-! Bisection of a range of integers by a test of its middle. The last good
index that was tested is remembered, and if there was none, the only index left
is taken. -/

structure Window where
  low : Int
  high : Int
  best : Option Int := none

namespace Window

def middle (window : Window) : Int := (window.low + window.high) / 2

theorem middle_mem {window : Window} (h : window.low ≤ window.high) :
    window.low ≤ window.middle ∧ window.middle ≤ window.high := by
  unfold middle
  omega

end Window

variable (good : Int → Bool)

def remember (window : Window) : Option Int :=
  if good window.middle || (window.low == window.high && window.best.isNone)
  then some window.middle
  else window.best

/-- A good middle sends the search up if `upwards`, and down if not. -/
def turn (upwards : Bool) (window : Window) : Window :=
  if good window.middle = upwards then
    { window with low := window.middle + 1, best := remember good window }
  else
    { window with high := window.middle - 1, best := remember good window }

def search (upwards : Bool) : Nat → Window → Option Window
  | 0, _ => none
  | fuel + 1, window =>
      if window.high < window.low then some window
      else search upwards fuel (turn good upwards window)

variable {good}

theorem remember_good {window : Window} (h : good window.middle = true) :
    remember good window = some window.middle := by
  rw [remember, h]
  rfl

theorem remember_only {window : Window} (hone : window.low = window.high)
    (hnone : window.best = none) :
    remember good window = some window.middle := by
  rw [remember, hone, hnone]
  simp

theorem remember_bad {window : Window} (h : good window.middle = false)
    (hkeep : window.low < window.high ∨ window.best ≠ none) :
    remember good window = window.best := by
  have htest : (window.low == window.high && window.best.isNone) = false := by
    rw [Bool.and_eq_false_iff, beq_eq_false_iff_ne]
    rcases hkeep with hlt | hsome
    · exact .inl hlt.ne
    · exact .inr (Option.isNone_eq_false_iff.mpr (Option.isSome_iff_ne_none.mpr
        hsome))
  rw [remember, h, htest]
  rfl

theorem turn_same {upwards : Bool} {window : Window}
    (h : good window.middle = upwards) :
    turn good upwards window =
      ⟨window.middle + 1, window.high, remember good window⟩ := by
  rw [turn, if_pos h]

theorem turn_other {upwards : Bool} {window : Window}
    (h : good window.middle = !upwards) :
    turn good upwards window =
      ⟨window.low, window.middle - 1, remember good window⟩ := by
  rw [turn, if_neg]
  rw [h]
  exact Bool.not_ne_self upwards

theorem search_rule (good : Int → Bool) (upwards : Bool) (Inv : Window → Prop)
    (hturn : ∀ window, window.low ≤ window.high → Inv window →
      Inv (turn good upwards window))
    {fuel : Nat} {window : Window}
    (hfuel : (window.high - window.low + 1).toNat < fuel) (h : Inv window) :
    ∃ last, search good upwards fuel window = some last ∧
      last.high < last.low ∧ Inv last := by
  induction fuel generalizing window with
  | zero => exact absurd hfuel (Nat.not_lt_zero _)
  | succ fuel ih =>
      rw [search]
      split
      · next hempty => exact ⟨window, rfl, hempty, h⟩
      · next hleft =>
          rw [Int.not_lt] at hleft
          have hmiddle := Window.middle_mem hleft
          refine ih ?_ (hturn window hleft h)
          unfold turn
          split <;> dsimp only <;> omega

theorem search_only {upwards : Bool} {fuel : Nat} {window last : Window}
    (hone : window.low = window.high)
    (h : search good upwards fuel (turn good upwards window) = some last) :
    last.best = remember good window := by
  have hmiddle := Window.middle_mem hone.le
  have hempty : (turn good upwards window).high <
      (turn good upwards window).low := by
    unfold turn
    split <;> dsimp only <;> omega
  cases fuel with
  | zero => cases h
  | succ fuel =>
      rw [search, if_pos hempty] at h
      cases h
      unfold turn
      split <;> rfl

theorem search_more {upwards : Bool} {fuel more : Nat} (hmore : fuel ≤ more)
    {window last : Window} (h : search good upwards fuel window = some last) :
    search good upwards more window = some last := by
  induction fuel generalizing more window with
  | zero => cases h
  | succ fuel ih =>
      obtain ⟨more, rfl⟩ := Nat.exists_eq_add_of_le' hmore
      rw [← Nat.add_assoc, search] at *
      split
      · next hempty => rwa [if_pos hempty] at h
      · next hleft =>
          rw [if_neg hleft] at h
          exact ih (Nat.le_add_left fuel more) h

section Range

variable {first last : Int}

structure Inside (first last : Int) (window : Window) : Prop where
  low : first ≤ window.low
  high : window.high ≤ last
  best : ∀ index ∈ window.best, first ≤ index ∧ index ≤ last

theorem inside_start : Inside first last ⟨first, last, none⟩ :=
  ⟨le_rfl, le_rfl, fun _ hindex => nomatch hindex⟩

theorem Inside.turn (good : Int → Bool) (upwards : Bool) {window : Window}
    (h : Inside first last window) (hleft : window.low ≤ window.high) :
    Inside first last (turn good upwards window) := by
  obtain ⟨hlow, hhigh, hbest⟩ := h
  have hmiddle := Window.middle_mem hleft
  have hremember : ∀ index ∈ remember good window,
      first ≤ index ∧ index ≤ last := by
    intro index hindex
    unfold remember at hindex
    split at hindex
    · cases hindex
      omega
    · exact hbest index hindex
  unfold Bisection.turn
  split
  · exact ⟨by dsimp only; omega, hhigh, hremember⟩
  · exact ⟨hlow, by dsimp only; omega, hremember⟩

/-- A search that good indices send down has an index left until it has found
one. -/
def Pending (window : Window) : Prop :=
  window.best = none → window.low ≤ window.high

theorem pending_turn {window : Window} (hleft : window.low ≤ window.high) :
    Pending (turn good false window) := by
  intro hnone
  cases hgood : good window.middle with
  | true =>
      rw [turn_other hgood, remember_good hgood] at hnone
      cases hnone
  | false =>
      rw [turn_same hgood] at hnone ⊢
      have hlt : window.low < window.high := by
        by_contra hge
        rw [remember] at hnone
        split at hnone
        · cases hnone
        · next htest =>
            rw [hnone, show window.low = window.high by omega] at htest
            simp at htest
      unfold Window.middle
      dsimp only
      omega

/-- Such a search ends with an index of the range, no matter what the test
is. -/
theorem search_inside (good : Int → Bool) (hrange : first ≤ last) {fuel : Nat}
    (hfuel : (last - first + 1).toNat < fuel) :
    ∃ window index, search good false fuel ⟨first, last, none⟩ = some window ∧
      window.best = some index ∧ first ≤ index ∧ index ≤ last := by
  obtain ⟨window, hsearch, hempty, hinside, hpending⟩ := search_rule good false
    (fun window => Inside first last window ∧ Pending window)
    (fun window hleft h => ⟨h.1.turn good false hleft,
      pending_turn hleft⟩)
    hfuel ⟨inside_start, fun _ => hrange⟩
  cases hbest : window.best with
  | none => exact absurd (hpending hbest) (Int.not_le.mpr hempty)
  | some index => exact ⟨window, index, hsearch, hbest, hinside.best index hbest⟩

/-- On the way to the least good index: none has been found, or the one above
the window, or the last one has been taken for want of a good one. -/
structure TowardsLeast (good : Int → Bool) (first last : Int)
    (window : Window) : Prop where
  inside : Inside first last window
  below : ∀ i, first ≤ i → i < window.low → good i = false
  state : (window.best = none ∧ window.high = last ∧
      window.low ≤ window.high) ∨
    (window.best = some (window.high + 1) ∧ good (window.high + 1) = true ∧
      window.low ≤ window.high + 1) ∨
    window.best = some last ∧ window.low = last + 1

theorem TowardsLeast.turn {window : Window}
    (hmono : ∀ i j, first ≤ i → i ≤ j → j ≤ last → good i = true →
      good j = true)
    (hleft : window.low ≤ window.high)
    (h : TowardsLeast good first last window) :
    TowardsLeast good first last (turn good false window) := by
  obtain ⟨hinside, hbelow, hstate⟩ := h
  have hmiddle := Window.middle_mem hleft
  have hlast : window.middle ≤ last := hmiddle.2.trans hinside.high
  have hturned : Inside first last (Bisection.turn good false window) :=
    hinside.turn good false hleft
  cases hgood : good window.middle with
  | true =>
      rw [turn_other hgood, remember_good hgood] at hturned ⊢
      have hnext : window.middle - 1 + 1 = window.middle := by omega
      refine ⟨hturned, hbelow, .inr (.inl ⟨by rw [hnext], ?_, ?_⟩)⟩
      · rw [hnext]
        exact hgood
      · dsimp only
        omega
  | false =>
      rw [turn_same hgood] at hturned ⊢
      refine ⟨hturned, fun i hfirst hi => ?_, ?_⟩
      · by_contra htrue
        rw [Bool.not_eq_false] at htrue
        rw [hmono i window.middle hfirst (by dsimp only at hi; omega) hlast
          htrue] at hgood
        cases hgood
      · rcases hstate with ⟨hnone, hhigh, -⟩ | ⟨hsome, hfound⟩ | ⟨-, hlow⟩
        · rcases hleft.lt_or_eq with hlt | hone
          · rw [remember_bad hgood (.inl hlt)]
            refine .inl ⟨hnone, hhigh, ?_⟩
            dsimp only
            unfold Window.middle
            omega
          · rw [remember_only hone hnone]
            have hmiddle : window.middle = last := by omega
            exact .inr (.inr ⟨congrArg some hmiddle, by dsimp only; omega⟩)
        · rw [remember_bad hgood (.inr (Option.ne_none_iff_exists'.mpr
            ⟨_, hsome⟩))]
          exact .inr (.inl ⟨hsome, hfound.1, by dsimp only; omega⟩)
        · have hhigh := hinside.high
          omega

/-- With a test that good indices pass for all greater ones, it is the least
good index of the range, or the last one if there is none. -/
theorem search_least (good : Int → Bool) (hrange : first ≤ last)
    (hmono : ∀ i j, first ≤ i → i ≤ j → j ≤ last → good i = true →
      good j = true)
    {fuel : Nat} (hfuel : (last - first + 1).toNat < fuel) :
    ∃ window index, search good false fuel ⟨first, last, none⟩ = some window ∧
      window.best = some index ∧
      (∀ i, first ≤ i → i < index → good i = false) ∧
      (good index = true ∨ index = last) := by
  obtain ⟨window, hsearch, hempty, h⟩ := search_rule good false
    (TowardsLeast good first last)
    (fun window hleft h => h.turn hmono hleft) hfuel
    ⟨inside_start, fun i hfirst hi => absurd hfirst (Int.not_le.mpr hi),
      .inl ⟨rfl, rfl, hrange⟩⟩
  rcases h.state with ⟨-, -, hleft⟩ | ⟨hbest, hgood, hle⟩ | ⟨hbest, hlow⟩
  · exact absurd hleft (Int.not_le.mpr hempty)
  · refine ⟨window, _, hsearch, hbest, fun i hfirst hi => ?_, .inl hgood⟩
    exact h.below i hfirst (by omega)
  · refine ⟨window, last, hsearch, hbest, fun i hfirst hi => ?_, .inr rfl⟩
    exact h.below i hfirst (by omega)

/-- On the way to the greatest good index: none has been found, or the one below
the window, or the first one has been taken for want of a good one. -/
structure TowardsGreatest (good : Int → Bool) (first last : Int)
    (window : Window) : Prop where
  inside : Inside first last window
  above : ∀ i, window.high < i → i ≤ last → good i = false
  state : (window.best = none ∧ window.low = first) ∨
    (window.best = some (window.low - 1) ∧ good (window.low - 1) = true ∧
      window.low ≤ window.high + 1) ∨
    window.best = some first ∧ window.high = first - 1

theorem TowardsGreatest.turn {window : Window}
    (hmono : ∀ i j, first ≤ i → i ≤ j → j ≤ last → good j = true →
      good i = true)
    (hleft : window.low ≤ window.high)
    (h : TowardsGreatest good first last window) :
    TowardsGreatest good first last (turn good true window) := by
  obtain ⟨hinside, habove, hstate⟩ := h
  have hmiddle := Window.middle_mem hleft
  have hfirst : first ≤ window.middle := hinside.low.trans hmiddle.1
  have hturned : Inside first last (Bisection.turn good true window) :=
    hinside.turn good true hleft
  cases hgood : good window.middle with
  | true =>
      rw [turn_same hgood, remember_good hgood] at hturned ⊢
      have hbefore : window.middle + 1 - 1 = window.middle := by omega
      refine ⟨hturned, habove, .inr (.inl ⟨by rw [hbefore], ?_, ?_⟩)⟩
      · rw [hbefore]
        exact hgood
      · dsimp only
        omega
  | false =>
      rw [turn_other hgood] at hturned ⊢
      refine ⟨hturned, fun i hi hlast => ?_, ?_⟩
      · by_contra htrue
        rw [Bool.not_eq_false] at htrue
        rw [hmono window.middle i hfirst (by dsimp only at hi; omega) hlast
          htrue] at hgood
        cases hgood
      · rcases hstate with ⟨hnone, hlow⟩ | ⟨hsome, hfound⟩ | ⟨-, hhigh⟩
        · rcases hleft.lt_or_eq with hlt | hone
          · rw [remember_bad hgood (.inl hlt)]
            exact .inl ⟨hnone, hlow⟩
          · rw [remember_only hone hnone]
            have hmiddle : window.middle = first := by omega
            exact .inr (.inr ⟨congrArg some hmiddle, by dsimp only; omega⟩)
        · rw [remember_bad hgood (.inr (Option.ne_none_iff_exists'.mpr
            ⟨_, hsome⟩))]
          exact .inr (.inl ⟨hsome, hfound.1, by dsimp only; omega⟩)
        · have hlow := hinside.low
          omega

/-- With a test that good indices pass for all smaller ones, it is the greatest
good index of the range; if there is none, the first one is found if any. -/
theorem search_greatest (good : Int → Bool) (hrange : first ≤ last)
    (hmono : ∀ i j, first ≤ i → i ≤ j → j ≤ last → good j = true →
      good i = true)
    {fuel : Nat} (hfuel : (last - first + 1).toNat < fuel) :
    ∃ window index, search good true fuel ⟨first, last, none⟩ = some window ∧
      window.best.getD first = index ∧ first ≤ index ∧ index ≤ last ∧
      (∀ i, index < i → i ≤ last → good i = false) ∧
      (good index = true ∨ index = first) := by
  obtain ⟨window, hsearch, hempty, h⟩ := search_rule good true
    (TowardsGreatest good first last)
    (fun window hleft h => h.turn hmono hleft) hfuel
    ⟨inside_start, fun i hi hlast => absurd hlast (Int.not_le.mpr hi),
      .inl ⟨rfl, rfl⟩⟩
  rcases h.state with ⟨hbest, hlow⟩ | ⟨hbest, hgood, hle⟩ | ⟨hbest, hhigh⟩
  · refine ⟨window, first, hsearch, ?_, le_rfl, hrange, fun i hi hlast => ?_,
      .inr rfl⟩
    · rw [hbest, Option.getD_none]
    · exact h.above i (by omega) hlast
  · have hinside := h.inside.best _ hbest
    refine ⟨window, _, hsearch, ?_, hinside.1, hinside.2, fun i hi hlast => ?_,
      .inl hgood⟩
    · rw [hbest, Option.getD_some]
    · exact h.above i (by omega) hlast
  · refine ⟨window, first, hsearch, ?_, le_rfl, hrange, fun i hi hlast => ?_,
      .inr rfl⟩
    · rw [hbest, Option.getD_some]
    · exact h.above i (by omega) hlast

end Range

end Salsify.Bisection
