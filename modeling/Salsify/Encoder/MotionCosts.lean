import Salsify.Encoder.MotionSearch
import Salsify.Encoder.TokenCosts

namespace Salsify.Encoder

open Salsify.Codec (SafeArray SymbolWriter TreeNode smallMvTree encodeBoolean
  encodeTree)
open Salsify.Codec.MotionVector (smallMvProbs encodeBits encodeBits_eq
  encodeMagnitude encodeComponent)
open Salsify.Coder (Probability)
open Salsify.Net (Failure)
open Fallible (Succeeds succeeds_pure succeeds_foldlM_range ok_bind)

/-! What motion vectors cost, as `encoder/costs.cc` estimates it. -/

def costZero (prob : Probability) : UInt16 :=
  UInt16.ofNat (vp8ProbCost.getD prob.toNat 0)

def costOne (prob : Probability) : UInt16 :=
  UInt16.ofNat (vp8ProbCost.getD (255 - prob).toNat 0)

/-- The loop of `tree_cost`, whose index is a `size_t` also where a leaf is
taken for one. -/
def treeCostFrom (tree : List TreeNode) (probs : List Probability)
    (token : Nat) : Nat → UInt64 → UInt16 → Except Failure UInt16
  | 0, _, cost => .ok cost
  | n + 1, treeIndex, cost =>
      let bit := token.testBit n
      match probs[(treeIndex / 2).toUInt32.toNat]?,
          tree[(treeIndex + bit.toNat.toUInt64).toUInt32.toNat]? with
      | some prob, some node =>
          treeCostFrom tree probs token n (UInt64.ofInt node)
            (cost + costBit prob bit)
      | _, _ => .error (.assertion "index < size()")

def treeCost (token numOfBits : Nat) (tree : List TreeNode)
    (probs : List Probability) : Except Failure UInt16 :=
  treeCostFrom tree probs token numOfBits 0 0

def bitsCost (probs : SafeArray Probability 19) (x : Nat)
    (positions : List (Fin 10)) (cost : UInt32) : UInt32 :=
  positions.foldl (fun cost (position : Fin 10) =>
    cost + (costBit (probs (position.natAdd 9)) (x.testBit position)).toUInt32)
    cost

def mvComponentCost (num : Int) (probs : SafeArray Probability 19) :
    Except Failure UInt32 := do
  let numToEncode := num >>> (1 : Nat)
  let x := numToEncode.natAbs
  if x < 8 then
    let cost ← treeCost x 3 smallMvTree (smallMvProbs probs)
    -- where `x` is zero and where it is not
    return (costZero (probs 0)).toUInt32 + cost.toUInt32
  else
    let cost := (costOne (probs 0)).toUInt32
    let cost := bitsCost probs x [0, 1, 2] cost
    let cost := bitsCost probs x [9, 8, 7, 6, 5, 4] cost
    if x &&& 0xfff0 ≠ 0 then
      return cost + (costBit (probs 12) (x.testBit 3)).toUInt32
    else
      return cost

def setEntry {α : Type} {size : Nat} (array : SafeArray α size) (index : Nat)
    (value : α) : Except Failure (SafeArray α size) :=
  if h : index < size then return Function.update array ⟨index, h⟩ value
  else .error (.assertion "index < size()")

namespace Costs

def setMvComponentCosts (costs : Costs) (axis : Fin 2) (i : Nat)
    (zero one : UInt32) : Except Failure Costs := do
  let positive ← setEntry (costs.mvComponentCosts axis 0) i zero
  let negative ← setEntry (costs.mvComponentCosts axis 1) i one
  return { costs with
    mvComponentCosts := Function.update costs.mvComponentCosts axis
      fun sign => if sign = 0 then positive else negative }

def fillMvComponentCost (costs : Costs)
    (motionVectorProbs : SafeArray (SafeArray Probability 19) 2) (i : Nat) :
    Except Failure Costs := do
  let cost0 ← mvComponentCost i (motionVectorProbs 0)
  let cost1 ← mvComponentCost i (motionVectorProbs 1)
  let costs ← costs.setMvComponentCosts 0 i
    (cost0 + (costZero (motionVectorProbs 0 1)).toUInt32)
    (cost0 + (costOne (motionVectorProbs 0 1)).toUInt32)
  costs.setMvComponentCosts 1 i
    (cost1 + (costZero (motionVectorProbs 1 1)).toUInt32)
    (cost1 + (costOne (motionVectorProbs 1 1)).toUInt32)

def fillMvComponentCosts (costs : Costs)
    (motionVectorProbs : SafeArray (SafeArray Probability 19) 2) :
    Except Failure Costs := do
  let cost0 ← mvComponentCost 0 (motionVectorProbs 0)
  let costs ← costs.setMvComponentCosts 0 0 cost0 cost0
  let cost1 ← mvComponentCost 0 (motionVectorProbs 1)
  let costs ← costs.setMvComponentCosts 1 0 cost1 cost1
  (List.range 1023).foldlM
    (fun costs i => costs.fillMvComponentCost motionVectorProbs (i + 1)) costs

end Costs

/-- The entry of `vp8_prob_cost` for a bit with its probability. -/
def symbolCost (symbol : Probability × Bool) : Nat :=
  (if symbol.2 then costOne symbol.1 else costZero symbol.1).toNat

theorem costBit_toNat (symbol : Probability × Bool) :
    (costBit symbol.1 symbol.2).toNat = symbolCost symbol := by
  obtain ⟨prob, bit⟩ := symbol
  cases bit with
  | false => rfl
  | true => rfl

theorem costZero_le (prob : Probability) : (costZero prob).toNat ≤ 2047 := by
  have hall : ∀ place : Fin 256,
      (UInt16.ofNat (vp8ProbCost.getD place.val 0)).toNat ≤ 2047 := by
    decide +kernel
  exact hall ⟨prob.toNat, prob.toNat_lt⟩

theorem symbolCost_le (symbol : Probability × Bool) :
    symbolCost symbol ≤ 2047 := by
  obtain ⟨prob, bit⟩ := symbol
  cases bit with
  | false => exact costZero_le prob
  | true => exact costZero_le (255 - prob)

theorem sum_symbolCost_le (symbols : List (Probability × Bool)) :
    (symbols.map symbolCost).sum ≤ 2047 * symbols.length := by
  induction symbols with
  | nil => exact Nat.le_refl _
  | cons symbol symbols ih =>
      have hsymbol := symbolCost_le symbol
      rw [List.map_cons, List.sum_cons, List.length_cons]
      omega

def bitsSymbols (probs : SafeArray Probability 19) (x : Nat)
    (positions : List (Fin 10)) : List (Probability × Bool) :=
  positions.map fun position : Fin 10 =>
    (probs (position.natAdd 9), x.testBit position)

theorem encodeBits_symbols (probs : SafeArray Probability 19) (x : Nat)
    (positions : List (Fin 10)) :
    encodeBits probs x positions = .ok (bitsSymbols probs x positions) :=
  encodeBits_eq fun _ _ => rfl

theorem bitsCost_toNat (probs : SafeArray Probability 19) (x : Nat)
    (positions : List (Fin 10)) {cost : UInt32}
    (h : cost.toNat + 2047 * positions.length < 2 ^ 32) :
    (bitsCost probs x positions cost).toNat =
      cost.toNat + ((bitsSymbols probs x positions).map symbolCost).sum := by
  induction positions generalizing cost with
  | nil => rfl
  | cons position positions ih =>
      have hsymbol := symbolCost_le (probs (position.natAdd 9), x.testBit position)
      rw [List.length_cons] at h
      have hadd : (cost + (costBit (probs (position.natAdd 9))
          (x.testBit position)).toUInt32).toNat =
            cost.toNat +
              symbolCost (probs (position.natAdd 9), x.testBit position) := by
        rw [UInt32.toNat_add, UInt16.toNat_toUInt32, costBit_toNat (_, _)]
        exact Nat.mod_eq_of_lt (by omega)
      unfold bitsCost bitsSymbols at ih ⊢
      rw [List.foldl_cons, ih (by rw [hadd]; omega), hadd, List.map_cons,
        List.map_cons, List.sum_cons, Nat.add_assoc]

theorem three_costBits (first second third : Probability × Bool) :
    (0 + costBit first.1 first.2 + costBit second.1 second.2 +
      costBit third.1 third.2).toNat =
        ([first, second, third].map symbolCost).sum := by
  have hfirst := symbolCost_le first
  have hsecond := symbolCost_le second
  have hthird := symbolCost_le third
  simp only [UInt16.toNat_add, UInt16.toNat_zero, costBit_toNat, List.map_cons,
    List.map_nil, List.sum_cons, List.sum_nil]
  omega

theorem small_cost (probs : SafeArray Probability 19) (x : Fin 8) :
    ∃ first second third : Probability × Bool,
      encodeTree smallMvTree (smallMvProbs probs) x =
        .ok [first, second, third] ∧
      treeCost x 3 smallMvTree (smallMvProbs probs) =
        .ok (0 + costBit first.1 first.2 + costBit second.1 second.2 +
          costBit third.1 third.2) := by
  match x with
  | 0 => exact ⟨_, _, _, rfl, rfl⟩
  | 1 => exact ⟨_, _, _, rfl, rfl⟩
  | 2 => exact ⟨_, _, _, rfl, rfl⟩
  | 3 => exact ⟨_, _, _, rfl, rfl⟩
  | 4 => exact ⟨_, _, _, rfl, rfl⟩
  | 5 => exact ⟨_, _, _, rfl, rfl⟩
  | 6 => exact ⟨_, _, _, rfl, rfl⟩
  | 7 => exact ⟨_, _, _, rfl, rfl⟩

def WrittenAt (written : SymbolWriter) (result : Except Failure UInt32) : Prop :=
  ∃ symbols cost, written = .ok symbols ∧ result = .ok cost ∧
    symbols.length ≤ 11 ∧ cost.toNat = (symbols.map symbolCost).sum

theorem short_cost (probs : SafeArray Probability 19) (x : Fin 8) :
    WrittenAt
      ((encodeBoolean (probs 0) false).append
        (encodeTree smallMvTree (smallMvProbs probs) x))
      (do
        let cost ← treeCost x 3 smallMvTree (smallMvProbs probs)
        return (costZero (probs 0)).toUInt32 + cost.toUInt32) := by
  obtain ⟨first, second, third, hwritten, hcost⟩ := small_cost probs x
  rw [hwritten, hcost]
  refine ⟨[(probs 0, false), first, second, third], _, rfl, rfl,
    Nat.le_add_right 4 7, ?_⟩
  have hzero : (costZero (probs 0)).toNat = symbolCost (probs 0, false) := rfl
  have hfirst := symbolCost_le (probs 0, false)
  have hrest := sum_symbolCost_le [first, second, third]
  have hlength : [first, second, third].length = 3 := rfl
  rw [UInt32.toNat_add, UInt16.toNat_toUInt32, UInt16.toNat_toUInt32,
    three_costBits, hzero]
  exact Nat.mod_eq_of_lt (by omega)

theorem long_cost (probs : SafeArray Probability 19) (x : Nat) :
    (bitsCost probs x [9, 8, 7, 6, 5, 4]
      (bitsCost probs x [0, 1, 2] (costOne (probs 0)).toUInt32)).toNat =
        (((probs 0, true) :: (bitsSymbols probs x [0, 1, 2] ++
          bitsSymbols probs x [9, 8, 7, 6, 5, 4])).map symbolCost).sum := by
  have hone : (costOne (probs 0)).toUInt32.toNat = symbolCost (probs 0, true) :=
    UInt16.toNat_toUInt32 _
  have hfirst := symbolCost_le (probs 0, true)
  have hlow := sum_symbolCost_le (bitsSymbols probs x [0, 1, 2])
  have hthree : (bitsSymbols probs x [0, 1, 2]).length = 3 := rfl
  have hlength : ([0, 1, 2] : List (Fin 10)).length = 3 := rfl
  have hlengths : ([9, 8, 7, 6, 5, 4] : List (Fin 10)).length = 6 := rfl
  have hlowCost : (bitsCost probs x [0, 1, 2]
      (costOne (probs 0)).toUInt32).toNat = symbolCost (probs 0, true) +
        ((bitsSymbols probs x [0, 1, 2]).map symbolCost).sum := by
    rw [bitsCost_toNat _ _ _ (by omega), hone]
  rw [bitsCost_toNat _ _ _ (by omega), hlowCost, List.map_cons, List.sum_cons,
    List.map_append, List.sum_append, Nat.add_assoc]

theorem magnitude_cost (num : Int) (probs : SafeArray Probability 19) :
    WrittenAt (encodeMagnitude probs (num >>> (1 : Nat)).natAbs)
      (mvComponentCost num probs) := by
  unfold mvComponentCost encodeMagnitude
  dsimp only
  generalize (num >>> (1 : Nat)).natAbs = x
  by_cases hshort : x < 8
  · rw [if_pos hshort, if_pos hshort]
    exact short_cost probs ⟨x, hshort⟩
  · rw [if_neg hshort, if_neg hshort, encodeBits_symbols, encodeBits_symbols]
    have hlong := long_cost probs x
    have hsum := sum_symbolCost_le ((probs 0, true) ::
      (bitsSymbols probs x [0, 1, 2] ++ bitsSymbols probs x [9, 8, 7, 6, 5, 4]))
    rw [← hlong] at hsum
    have hlength : ((probs 0, true) :: (bitsSymbols probs x [0, 1, 2] ++
      bitsSymbols probs x [9, 8, 7, 6, 5, 4])).length = 10 := rfl
    by_cases hhigh : x &&& 0xfff0 ≠ 0
    · rw [if_pos hhigh, if_pos hhigh]
      have hthird := symbolCost_le (probs 12, x.testBit 3)
      refine ⟨((probs 0, true) :: (bitsSymbols probs x [0, 1, 2] ++
        bitsSymbols probs x [9, 8, 7, 6, 5, 4])) ++ [(probs 12, x.testBit 3)],
        _, rfl, rfl, Nat.le_refl _, ?_⟩
      rw [UInt32.toNat_add, UInt16.toNat_toUInt32, costBit_toNat (_, _),
        Nat.mod_eq_of_lt (by omega), hlong, List.map_append, List.sum_append]
      rfl
    · rw [if_neg hhigh, if_neg hhigh]
      exact ⟨(probs 0, true) :: (bitsSymbols probs x [0, 1, 2] ++
        bitsSymbols probs x [9, 8, 7, 6, 5, 4]), _, rfl, rfl,
        Nat.le_succ 10, hlong⟩

theorem setEntry_eq {α : Type} {size : Nat} (array : SafeArray α size)
    (index : Fin size) (value : α) :
    setEntry array index value = .ok (Function.update array index value) :=
  dif_pos index.isLt

namespace Costs

theorem setMvComponentCosts_spec (costs : Costs) (axis : Fin 2) (i : Fin 1024)
    (zero one : UInt32) :
    ∃ next, costs.setMvComponentCosts axis i zero one = .ok next ∧
      (∀ sign : Fin 2, next.mvComponentCosts axis sign i =
        if sign = 0 then zero else one) ∧
      ∀ (other : Fin 2) (sign : Fin 2) (j : Fin 1024),
        other ≠ axis ∨ j ≠ i → next.mvComponentCosts other sign j =
          costs.mvComponentCosts other sign j := by
  unfold setMvComponentCosts
  rw [setEntry_eq, ok_bind, setEntry_eq, ok_bind]
  refine ⟨_, rfl, ?_, ?_⟩
  · intro sign
    dsimp only
    rw [Function.update_self]
    by_cases hsign : sign = 0
    · rw [if_pos hsign, if_pos hsign, Function.update_self]
    · rw [if_neg hsign, if_neg hsign, Function.update_self]
  · intro other sign j hother
    dsimp only
    by_cases haxis : other = axis
    · have hj : j ≠ i := hother.resolve_left fun hne => hne haxis
      subst haxis
      rw [Function.update_self]
      by_cases hsign : sign = 0
      · rw [if_pos hsign, Function.update_of_ne hj, hsign]
      · have hone : sign = 1 := by omega
        rw [if_neg hsign, Function.update_of_ne hj, hone]
    · rw [Function.update_of_ne haxis]

/-- The entry of a component, of whose magnitude this is the cost. -/
def mvEntry (probs : SafeArray Probability 19) (sign : Fin 2) (i : Nat)
    (cost : UInt32) : UInt32 :=
  if i = 0 then cost
  else if sign = 0 then cost + (costZero (probs 1)).toUInt32
  else cost + (costOne (probs 1)).toUInt32

/-- The entries below an index are the costs of the components. -/
def FilledTo (motionVectorProbs : SafeArray (SafeArray Probability 19) 2)
    (count : Nat) (costs : Costs) : Prop :=
  ∀ (axis sign : Fin 2) (i : Fin 1024), i.val < count →
    ∃ cost, mvComponentCost i (motionVectorProbs axis) = .ok cost ∧
      costs.mvComponentCosts axis sign i =
        mvEntry (motionVectorProbs axis) sign i cost

variable {motionVectorProbs : SafeArray (SafeArray Probability 19) 2}

theorem FilledTo.next {costs : Costs} {i : Nat} (hi : i < 1024)
    (h : FilledTo motionVectorProbs i costs) {cost : Fin 2 → UInt32}
    (hcost : ∀ axis, mvComponentCost i (motionVectorProbs axis) =
      .ok (cost axis)) :
    ∃ next last, costs.setMvComponentCosts 0 i
        (mvEntry (motionVectorProbs 0) 0 i (cost 0))
        (mvEntry (motionVectorProbs 0) 1 i (cost 0)) = .ok next ∧
      next.setMvComponentCosts 1 i
        (mvEntry (motionVectorProbs 1) 0 i (cost 1))
        (mvEntry (motionVectorProbs 1) 1 i (cost 1)) = .ok last ∧
      FilledTo motionVectorProbs (i + 1) last := by
  obtain ⟨next, hnext, hfirst, hfirstKept⟩ :=
    costs.setMvComponentCosts_spec 0 ⟨i, hi⟩
      (mvEntry (motionVectorProbs 0) 0 i (cost 0))
      (mvEntry (motionVectorProbs 0) 1 i (cost 0))
  obtain ⟨last, hlast, hsecond, hsecondKept⟩ :=
    next.setMvComponentCosts_spec 1 ⟨i, hi⟩
      (mvEntry (motionVectorProbs 1) 0 i (cost 1))
      (mvEntry (motionVectorProbs 1) 1 i (cost 1))
  refine ⟨next, last, hnext, hlast, ?_⟩
  intro axis sign j hj
  by_cases hsame : j = ⟨i, hi⟩
  · subst hsame
    refine ⟨cost axis, hcost axis, ?_⟩
    have hsign : (if sign = 0 then mvEntry (motionVectorProbs axis) 0 i (cost axis)
        else mvEntry (motionVectorProbs axis) 1 i (cost axis)) =
          mvEntry (motionVectorProbs axis) sign i (cost axis) := by
      match sign with
      | 0 => rfl
      | 1 => rfl
    rw [← hsign]
    match axis with
    | 0 => rw [hsecondKept 0 sign _ (.inl (by decide)), hfirst]
    | 1 => rw [hsecond]
  · have hlt : j.val < i := Nat.lt_of_le_of_ne (Nat.le_of_lt_succ hj)
      fun heq => hsame (Fin.ext heq)
    obtain ⟨found, hfound, hentry⟩ := h axis sign j hlt
    refine ⟨found, hfound, ?_⟩
    rw [hsecondKept axis sign j (.inr hsame),
      hfirstKept axis sign j (.inr hsame), hentry]

theorem exists_costs (motionVectorProbs : SafeArray (SafeArray Probability 19) 2)
    (num : Int) : ∃ cost : Fin 2 → UInt32,
      ∀ axis, mvComponentCost num (motionVectorProbs axis) = .ok (cost axis) := by
  choose symbols cost hcost using fun axis =>
    magnitude_cost num (motionVectorProbs axis)
  exact ⟨cost, fun axis => (hcost axis).2.1⟩

theorem FilledTo.fillMvComponentCost {costs : Costs} {i : Nat} (hi : i < 1023)
    (h : FilledTo motionVectorProbs (i + 1) costs) :
    Succeeds (costs.fillMvComponentCost motionVectorProbs (i + 1))
      (FilledTo motionVectorProbs (i + 1 + 1)) := by
  have hindex : i + 1 < 1024 := Nat.succ_lt_succ hi
  obtain ⟨cost, hcost⟩ := exists_costs motionVectorProbs ((i + 1 : Nat) : Int)
  obtain ⟨next, last, hnext, hlast, hfilled⟩ := h.next hindex hcost
  simp only [mvEntry, Nat.succ_ne_zero, if_false, if_true, Fin.one_eq_zero_iff,
    OfNat.ofNat_ne_one] at hnext hlast
  unfold Costs.fillMvComponentCost
  rw [hcost 0, ok_bind, hcost 1, ok_bind, hnext, ok_bind, hlast]
  exact succeeds_pure hfilled

theorem fillMvComponentCosts_filled (costs : Costs)
    (motionVectorProbs : SafeArray (SafeArray Probability 19) 2) :
    Succeeds (costs.fillMvComponentCosts motionVectorProbs)
      (FilledTo motionVectorProbs 1024) := by
  have hstart : FilledTo motionVectorProbs 0 costs := by
    intro axis sign i hi
    cases hi
  obtain ⟨cost, hcost⟩ := exists_costs motionVectorProbs 0
  obtain ⟨first, second, hfirst, hsecond, hfilled⟩ :=
    hstart.next (by decide) hcost
  simp only [mvEntry, if_true] at hfirst hsecond
  unfold fillMvComponentCosts
  rw [hcost 0, ok_bind, hfirst, ok_bind, hcost 1, ok_bind, hsecond, ok_bind]
  have hturn : ∀ (state : Costs) (i : Nat), i < 1023 →
      FilledTo motionVectorProbs (i + 1) state →
        Succeeds (state.fillMvComponentCost motionVectorProbs (i + 1))
          (FilledTo motionVectorProbs (i + 1 + 1)) :=
    fun _ _ hi hstate => hstate.fillMvComponentCost hi
  exact succeeds_foldlM_range hturn hfilled

end Costs

theorem shiftRight_even {c : Int} (h : c % 2 = 0) :
    (c >>> (1 : Nat)).natAbs = c.natAbs / 2 ∧
      (c >>> (1 : Nat) < 0 ↔ c < 0) := by
  rw [Int.shiftRight_eq_div_pow]
  omega

/-- The bit of the sign, which is written where there is one. -/
def signSymbols (probs : SafeArray Probability 19) (c : Int) :
    List (Probability × Bool) :=
  if c = 0 then [] else [(probs 1, decide (c < 0))]

theorem encodeComponent_symbols {probs : SafeArray Probability 19} {c : Int}
    (heven : c % 2 = 0) {magnitude : List (Probability × Bool)}
    (hmagnitude : encodeMagnitude probs (c.natAbs / 2) = .ok magnitude) :
    encodeComponent probs c = .ok (magnitude ++ signSymbols probs c) := by
  obtain ⟨habs, hnegative⟩ := shiftRight_even heven
  rw [encodeComponent, habs, hmagnitude, signSymbols]
  by_cases hc : c = 0
  · rw [if_pos hc, hc]
    rfl
  · have hhalf : c.natAbs / 2 ≠ 0 := by omega
    rw [if_neg hc, if_pos hhalf, decide_eq_decide.mpr hnegative]
    rfl

theorem mvEntry_toNat (probs : SafeArray Probability 19) (c : Int)
    {cost : UInt32} (h : cost.toNat + 2047 < 2 ^ 32) :
    (Costs.mvEntry probs (sign c) c.natAbs cost).toNat =
      cost.toNat + ((signSymbols probs c).map symbolCost).sum := by
  by_cases hc : c = 0
  · subst hc
    rfl
  · have habsolute : c.natAbs ≠ 0 := Int.natAbs_ne_zero.mpr hc
    have hsign := symbolCost_le (probs 1, decide (c < 0))
    have hadded : Costs.mvEntry probs (sign c) c.natAbs cost =
        cost + (costBit (probs 1) (decide (c < 0))).toUInt32 := by
      rw [Costs.mvEntry, if_neg habsolute, sign]
      by_cases hlt : c < 0
      · rw [if_pos hlt, decide_eq_true hlt]
        rfl
      · rw [if_neg hlt, decide_eq_false hlt]
        rfl
    rw [hadded, signSymbols, if_neg hc, UInt32.toNat_add,
      UInt16.toNat_toUInt32, costBit_toNat (_, _), Nat.mod_eq_of_lt (by omega)]
    rfl

/-- What the table holds for a component is the cost of the bits that are
written for it. -/
theorem mvComponentCosts_written (costs : Costs)
    (motionVectorProbs : SafeArray (SafeArray Probability 19) 2) :
    ∃ filled, costs.fillMvComponentCosts motionVectorProbs = .ok filled ∧
      ∀ (axis : Fin 2) (c : Int), c % 2 = 0 → c.natAbs ≤ 1022 →
        ∃ cost symbols magnitude,
          entry (filled.mvComponentCosts axis (sign c)) c.natAbs = .ok cost ∧
          encodeComponent (motionVectorProbs axis) c = .ok symbols ∧
          encodeMagnitude (motionVectorProbs axis) (c.natAbs / 2) =
            .ok magnitude ∧
          symbols = magnitude ++ (if c = 0 then []
            else [(motionVectorProbs axis 1, decide (c < 0))]) ∧
          cost.toNat = (symbols.map symbolCost).sum := by
  obtain ⟨filled, hfilled, hentries⟩ :=
    costs.fillMvComponentCosts_filled motionVectorProbs
  refine ⟨filled, hfilled, ?_⟩
  intro axis c heven hbound
  have hindex : c.natAbs < 1024 := by omega
  obtain ⟨cost, hcost, hentry⟩ :=
    hentries axis (sign c) ⟨c.natAbs, hindex⟩ hindex
  obtain ⟨magnitude, found, hmagnitude, hfound, hlength, hsum⟩ :=
    magnitude_cost c.natAbs (motionVectorProbs axis)
  cases hfound.symm.trans hcost
  have hhalf : ((c.natAbs : Int) >>> (1 : Nat)).natAbs = c.natAbs / 2 :=
    (shiftRight_even (by omega)).1
  rw [hhalf] at hmagnitude
  have hread : entry (filled.mvComponentCosts axis (sign c)) c.natAbs =
      .ok (Costs.mvEntry (motionVectorProbs axis) (sign c) c.natAbs cost) := by
    rw [entry, dif_pos hindex, hentry]
    rfl
  have hbounded := sum_symbolCost_le magnitude
  refine ⟨_, _, magnitude, hread, encodeComponent_symbols heven hmagnitude,
    hmagnitude, rfl, ?_⟩
  rw [mvEntry_toNat _ _ (by omega), hsum, List.map_append, List.sum_append]

end Salsify.Encoder
