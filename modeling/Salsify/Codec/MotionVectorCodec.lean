import Salsify.Codec.HeaderCodec
import Salsify.Codec.MotionVector

namespace Salsify.Codec

open Salsify.Coder (Probability)
open Salsify.Net (Failure)
open BitParser (Echoes Yields Consumes Reaches echoes_pure echoes_fail
  echoes_array consumes_pure reaches_pure reaches_get)
open BitWriter (concat array)

/-! Motion vectors, as `encoder/serializer.cc` writes them. -/

variable {Answers : Bool → Prop}

namespace MotionVector

/-- `operator-=` -/
def sub (mv other : MotionVector) : MotionVector := mv.add other.neg

def encodeBits (componentProbs : SafeArray Probability 19) (x : Nat)
    (positions : List (Fin 10)) : SymbolWriter :=
  concat (positions.map fun position : Fin 10 =>
    encodeBoolean (componentProbs (position.natAdd 9)) (x.testBit position))

def encodeMagnitude (componentProbs : SafeArray Probability 19) (x : Nat) :
    SymbolWriter :=
  if x < 8 then
    (encodeBoolean (componentProbs 0) false).append (encodeTree smallMvTree
      (smallMvProbs componentProbs) x)
  else
    concat [
      encodeBoolean (componentProbs 0) true,
      encodeBits componentProbs x [0, 1, 2],
      encodeBits componentProbs x [9, 8, 7, 6, 5, 4],
      if x &&& 0xfff0 ≠ 0 then
        encodeBoolean (componentProbs 12) (x.testBit 3)
      else .ok []]

def encodeComponent (componentProbs : SafeArray Probability 19) (num : Int) :
    SymbolWriter :=
  let numToEncode := num >>> (1 : Nat)
  (encodeMagnitude componentProbs numToEncode.natAbs).append
    (if numToEncode.natAbs ≠ 0 then
      encodeBoolean (componentProbs 1) (numToEncode < 0)
    else .ok [])

def encode (motionVectorProbs : SafeArray (SafeArray Probability 19) 2)
    (mv : MotionVector) : SymbolWriter :=
  (encodeComponent (motionVectorProbs 0) mv.y).append
    (encodeComponent (motionVectorProbs 1) mv.x)

theorem testBit_eq_of {x position : Nat} {bit : Bool}
    (h : x / 2 ^ position % 2 = bit.toNat) : x.testBit position = bit := by
  rw [Nat.testBit_eq_decide_div_mod_eq, h]
  cases bit <;> rfl

theorem and_high_eq_zero_iff {x : Nat} (h : x < 1024) :
    x &&& 0xfff0 = 0 ↔ x < 16 := by
  constructor
  · intro hzero
    have hhigh : (x &&& (2 ^ 12 - 1) <<< 4) >>> 4 = x / 2 ^ 4 % 2 ^ 12 := by
      rw [Nat.shiftRight_and_distrib, Nat.shiftLeft_shiftRight,
        Nat.and_two_pow_sub_one_eq_mod, Nat.shiftRight_eq_div_pow]
    rw [show (2 ^ 12 - 1) <<< 4 = 0xfff0 from rfl, hzero] at hhigh
    have hnone : 0 = x / 2 ^ 4 % 2 ^ 12 := hhigh
    omega
  · intro hlt
    have hall : ∀ y : Fin 16, y.val &&& 0xfff0 = 0 := by decide
    exact hall ⟨x, hlt⟩

theorem readBits_spec (componentProbs : SafeArray Probability 19)
    {positions : List (Fin 10)} (h : positions.Nodup) :
    (readBits componentProbs positions).Yields Answers fun value =>
      ∃ bits : Fin 10 → Bool,
        value = (positions.map fun position : Fin 10 =>
          (bits position).toNat * 2 ^ position.val).sum ∧
        (readBits componentProbs positions).Consumes
          (positions.map fun position =>
            (componentProbs (position.natAdd 9), bits position)) value := by
  induction positions with
  | nil => exact ⟨fun _ => false, rfl, rfl, rfl⟩
  | cons position rest ih =>
      obtain ⟨hposition, hrest⟩ := List.nodup_cons.mp h
      intro bit
      apply (ih hrest).bind
      rintro others ⟨bits, hothers, hconsumes⟩
      have hother : ∀ other ∈ rest,
          Function.update bits position bit other = bits other := by
        intro other hother
        refine Function.update_of_ne ?_ _ _
        rintro rfl
        exact hposition hother
      refine ⟨Function.update bits position bit, ?_, ?_⟩
      · have hsum : (rest.map fun other : Fin 10 =>
            (Function.update bits position bit other).toNat * 2 ^ other.val) =
              rest.map fun other : Fin 10 =>
                (bits other).toNat * 2 ^ other.val :=
          List.map_congr_left fun other hmem => by rw [hother other hmem]
        rw [List.map_cons, List.sum_cons, Function.update_self, hsum, ← hothers,
          Nat.shiftLeft_eq]
      · have hsymbols : (rest.map fun other =>
            (componentProbs (other.natAdd 9),
              Function.update bits position bit other)) =
              rest.map fun other =>
                (componentProbs (other.natAdd 9), bits other) :=
          List.map_congr_left fun other hmem => by rw [hother other hmem]
        rw [List.map_cons, Function.update_self, hsymbols]
        refine ⟨bit, _, rfl, ?_⟩
        have hdone := hconsumes.map fun others =>
          bit.toNat <<< position.val + others
        exact hdone

theorem encodeBits_eq {componentProbs : SafeArray Probability 19} {x : Nat}
    {positions : List (Fin 10)} {bits : Fin 10 → Bool}
    (h : ∀ position ∈ positions, x.testBit position.val = bits position) :
    encodeBits componentProbs x positions =
      .ok (positions.map fun position =>
        (componentProbs (position.natAdd 9), bits position)) := by
  induction positions with
  | nil => rfl
  | cons position rest ih =>
      have hrest := ih fun other hother =>
        h other (List.mem_cons_of_mem position hother)
      unfold encodeBits at hrest ⊢
      rw [List.map_cons, BitWriter.concat_cons, hrest,
        h position List.mem_cons_self]
      rfl

def lowPositions : List (Fin 10) := [0, 1, 2]
def highPositions : List (Fin 10) := [9, 8, 7, 6, 5, 4]

def bitsValue (bits : Fin 10 → Bool) (positions : List (Fin 10)) : Nat :=
  (positions.map fun position : Fin 10 =>
    (bits position).toNat * 2 ^ position.val).sum

theorem lowBits_value (bits : Fin 10 → Bool) :
    bitsValue bits lowPositions = (bits 0).toNat + 2 * (bits 1).toNat +
      4 * (bits 2).toNat := by
  simp [bitsValue, lowPositions]
  omega

theorem highBits_value (bits : Fin 10 → Bool) :
    bitsValue bits highPositions = 16 * ((bits 4).toNat +
      2 * (bits 5).toNat + 4 * (bits 6).toNat + 8 * (bits 7).toNat +
      16 * (bits 8).toNat + 32 * (bits 9).toNat) := by
  simp [bitsValue, highPositions]
  omega

theorem long_lt (lowBits highBits : Fin 10 → Bool) :
    bitsValue lowBits lowPositions < 8 ∧
      bitsValue highBits highPositions < 1009 ∧
      bitsValue highBits highPositions % 16 = 0 := by
  have h0 := Bool.toNat_lt (lowBits 0)
  have h1 := Bool.toNat_lt (lowBits 1)
  have h2 := Bool.toNat_lt (lowBits 2)
  have h4 := Bool.toNat_lt (highBits 4)
  have h5 := Bool.toNat_lt (highBits 5)
  have h6 := Bool.toNat_lt (highBits 6)
  have h7 := Bool.toNat_lt (highBits 7)
  have h8 := Bool.toNat_lt (highBits 8)
  have h9 := Bool.toNat_lt (highBits 9)
  rw [lowBits_value, highBits_value]
  omega

theorem long_testBit (lowBits highBits : Fin 10 → Bool) (third : Bool)
    {x : Nat} (hx : x = bitsValue lowBits lowPositions +
      bitsValue highBits highPositions + 8 * third.toNat) :
    (∀ position ∈ lowPositions, x.testBit position.val = lowBits position) ∧
      (∀ position ∈ highPositions,
        x.testBit position.val = highBits position) ∧
      x.testBit 3 = third := by
  have h0 := Bool.toNat_lt (lowBits 0)
  have h1 := Bool.toNat_lt (lowBits 1)
  have h2 := Bool.toNat_lt (lowBits 2)
  have h3 := Bool.toNat_lt third
  have h4 := Bool.toNat_lt (highBits 4)
  have h5 := Bool.toNat_lt (highBits 5)
  have h6 := Bool.toNat_lt (highBits 6)
  have h7 := Bool.toNat_lt (highBits 7)
  have h8 := Bool.toNat_lt (highBits 8)
  have h9 := Bool.toNat_lt (highBits 9)
  rw [lowBits_value, highBits_value] at hx
  refine ⟨?_, ?_, testBit_eq_of (by omega)⟩
  · have b0 : x.testBit 0 = lowBits 0 := testBit_eq_of (by omega)
    have b1 : x.testBit 1 = lowBits 1 := testBit_eq_of (by omega)
    have b2 : x.testBit 2 = lowBits 2 := testBit_eq_of (by omega)
    simp [lowPositions, b0, b1, b2]
  · have b9 : x.testBit 9 = highBits 9 := testBit_eq_of (by omega)
    have b8 : x.testBit 8 = highBits 8 := testBit_eq_of (by omega)
    have b7 : x.testBit 7 = highBits 7 := testBit_eq_of (by omega)
    have b6 : x.testBit 6 = highBits 6 := testBit_eq_of (by omega)
    have b5 : x.testBit 5 = highBits 5 := testBit_eq_of (by omega)
    have b4 : x.testBit 4 = highBits 4 := testBit_eq_of (by omega)
    simp [highPositions, b4, b5, b6, b7, b8, b9]

theorem readLong_echoes (componentProbs : SafeArray Probability 19) :
    Echoes Answers [(componentProbs 0, true)] (readLong componentProbs)
      (readLong componentProbs) (encodeMagnitude componentProbs) := by
  apply (readBits_spec componentProbs
    (by decide : lowPositions.Nodup)).bind
  rintro low ⟨lowBits, hlow, hreadsLow⟩
  apply (readBits_spec componentProbs
    (by decide : highPositions.Nodup)).bind
  rintro high ⟨highBits, hhigh, hreadsHigh⟩
  have hlow : low = bitsValue lowBits lowPositions := hlow
  have hhigh : high = bitsValue highBits highPositions := hhigh
  have hlt := long_lt lowBits highBits
  have hreads {last : List (Probability × Bool)} {x : Nat}
      (h : (if (low + high) &&& 0xFFF0 = 0 then pure (low + high + 8)
        else do
          let bit ← boolean (componentProbs 12)
          return if bit then low + high + 8 else low + high :
            Parser Nat).Consumes last x) :
      (readLong componentProbs).Consumes
        (lowPositions.map (fun position =>
          (componentProbs (position.natAdd 9), lowBits position)) ++
        (highPositions.map (fun position =>
          (componentProbs (position.natAdd 9), highBits position)) ++ last))
        x := by
    unfold readLong
    exact hreadsLow.bind (hreadsHigh.bind h)
  have hencode (third : Bool) := long_testBit lowBits highBits third
    (congrArg (· + 8 * third.toNat) (congrArg₂ (· + ·) hlow hhigh))
  split
  · next hnone =>
    obtain ⟨hlowBits, hhighBits, -⟩ := hencode true
    rw [Bool.toNat_true, Nat.mul_one] at hlowBits hhighBits
    refine ⟨_, ?_, hreads (by rw [if_pos hnone]; exact consumes_pure _)⟩
    rw [and_high_eq_zero_iff (by omega)] at hnone
    have hhigh : ¬ (low + high + 8) &&& 0xfff0 ≠ 0 := by
      rw [not_not, and_high_eq_zero_iff (by omega)]
      omega
    rw [encodeMagnitude, if_neg (by omega), if_neg hhigh,
      show [0, 1, 2] = lowPositions from rfl, encodeBits_eq hlowBits,
      show [9, 8, 7, 6, 5, 4] = highPositions from rfl, encodeBits_eq hhighBits]
    simp [encodeBoolean, BitWriter.put]
  · next hsome =>
    intro third
    obtain ⟨hlowBits, hhighBits, hthird⟩ := hencode third
    have hvalue : (if third then low + high + 8 else low + high) =
        low + high + 8 * third.toNat := by
      cases third <;> rfl
    refine ⟨_, ?_, hreads (by
      rw [if_neg hsome]
      exact ⟨third, [], rfl, rfl, rfl⟩)⟩
    rw [and_high_eq_zero_iff (by omega)] at hsome
    have hhigh : (low + high + 8 * third.toNat) &&& 0xfff0 ≠ 0 := by
      have hbit := Bool.toNat_lt third
      rw [Ne, and_high_eq_zero_iff (by omega)]
      omega
    rw [hvalue, encodeMagnitude, if_neg (by omega), if_pos hhigh,
      show [0, 1, 2] = lowPositions from rfl, encodeBits_eq hlowBits,
      show [9, 8, 7, 6, 5, 4] = highPositions from rfl,
      encodeBits_eq hhighBits, hthird]
    simp [encodeBoolean, BitWriter.put]

theorem smallMvTree_ordered : TreeOrdered smallMvTree := by
  decide

theorem readMagnitude_echoes (componentProbs : SafeArray Probability 19) :
    Echoes Answers [] (readMagnitude componentProbs)
      (readMagnitude componentProbs) (encodeMagnitude componentProbs) := by
  apply (boolean_echoes _).bind
  intro long symbols hsymbols
  cases hsymbols
  cases long with
  | true => exact readLong_echoes componentProbs
  | false =>
      have hsmall : (tree smallMvTree (smallMvProbs componentProbs)).Yields Answers
            fun leaf => leaf < 8 :=
        treeFrom_yields (by decide) _ _
      refine Yields.mono (Yields.and (tree_echoes smallMvTree_ordered _) hsmall)
        ?_
      rintro leaf ⟨⟨rest, hrest, hleaf⟩, hlt⟩
      refine ⟨rest, ?_, hleaf⟩
      rw [encodeMagnitude, if_pos hlt, hrest]
      rfl

theorem shiftRight_double (component : Int) : (component * 2) >>> (1 : Nat) =
    component := by
  rw [Int.shiftRight_eq_div_pow]
  omega

theorem readComponent_echoes (componentProbs : SafeArray Probability 19) :
    Echoes Answers [] (readComponent componentProbs)
      (readComponent componentProbs) (encodeComponent componentProbs) := by
  apply (readMagnitude_echoes componentProbs).bind
  intro magnitude symbols hmagnitude
  by_cases hzero : magnitude = 0
  · rw [if_pos hzero]
    apply echoes_pure
    rw [hzero] at hmagnitude
    change (encodeMagnitude componentProbs 0).append (.ok []) = _
    rw [hmagnitude]
    simp
  · rw [if_neg hzero]
    apply (boolean_echoes _).bind
    intro negative sign hsign
    apply echoes_pure
    have hshift : (if negative then -((magnitude : Int) * 2)
        else (magnitude : Int) * 2) >>> (1 : Nat) =
          if negative then -(magnitude : Int) else magnitude := by
      cases negative with
      | false => exact shiftRight_double _
      | true =>
          rw [if_pos rfl, if_pos rfl, ← Int.neg_mul]
          exact shiftRight_double _
    have habs : (if negative then -(magnitude : Int)
        else magnitude).natAbs = magnitude := by
      cases negative with
      | false => exact Int.natAbs_natCast magnitude
      | true =>
          rw [if_pos rfl, Int.natAbs_neg]
          exact Int.natAbs_natCast magnitude
    have hnegative : decide ((if negative then -(magnitude : Int)
        else magnitude) < 0) = negative := by
      cases negative with
      | false => exact decide_eq_false (by simp)
      | true => exact decide_eq_true (by simpa using by omega)
    rw [encodeComponent, hshift]
    simp only [habs, hmagnitude, hnegative, hsign, ne_eq, hzero,
      not_false_eq_true, if_true, BitWriter.append_ok, List.nil_append]

theorem parse_echoes
    (motionVectorProbs : SafeArray (SafeArray Probability 19) 2) :
    Echoes Answers [] (MotionVector.parse motionVectorProbs)
      (MotionVector.parse motionVectorProbs)
      (MotionVector.encode motionVectorProbs) := by
  apply (readComponent_echoes (motionVectorProbs 0)).bind
  intro y first hfirst
  apply (readComponent_echoes (motionVectorProbs 1)).bind
  intro x second hsecond
  apply echoes_pure
  rw [MotionVector.encode, hfirst, hsecond]
  rfl

theorem readMagnitude_lt (componentProbs : SafeArray Probability 19) :
    (readMagnitude componentProbs).Yields Answers fun magnitude =>
      magnitude < 1024 := by
  intro long
  cases long with
  | true =>
      apply (readBits_spec componentProbs
        (by decide : lowPositions.Nodup)).bind
      rintro low ⟨lowBits, hlow, -⟩
      apply (readBits_spec componentProbs
        (by decide : highPositions.Nodup)).bind
      rintro high ⟨highBits, hhigh, -⟩
      have hlow : low = bitsValue lowBits lowPositions := hlow
      have hhigh : high = bitsValue highBits highPositions := hhigh
      have hlt := long_lt lowBits highBits
      split
      · change low + high + 8 < 1024
        omega
      · intro third
        change (if third then low + high + 8 else low + high) < 1024
        split <;> omega
  | false =>
      have hsmall : (tree smallMvTree (smallMvProbs componentProbs)).Yields Answers
            fun leaf => leaf < 8 :=
        treeFrom_yields (by decide) _ _
      exact Yields.mono hsmall fun leaf hleaf => by omega

theorem readComponent_int16 (componentProbs : SafeArray Probability 19) :
    (readComponent componentProbs).Yields Answers fun component =>
      int16 component = component := by
  apply (readMagnitude_lt componentProbs).bind
  intro magnitude hlt
  split
  · rfl
  · intro negative
    change int16 (if negative then -((magnitude : Int) * 2)
      else (magnitude : Int) * 2) = _
    unfold int16
    split
    · exact Int.bmod_eq_of_le (by omega) (by omega)
    · exact Int.bmod_eq_of_le (by omega) (by omega)

/-- The vector that was added to a prediction is found again, through stores
to 16 bits. -/
theorem add_sub {mv : MotionVector} (hy : int16 mv.y = mv.y)
    (hx : int16 mv.x = mv.x) (best : MotionVector) :
    (mv.add best).sub best = mv := by
  have hback (component other : Int) :
      int16 (int16 (component + other) + int16 (-other)) = int16 component := by
    unfold int16
    rw [Int.bmod_add_bmod, Int.add_bmod_bmod, Int.add_neg_cancel_right]
  unfold MotionVector.sub MotionVector.add MotionVector.neg
  rw [hback, hback, hy, hx]

theorem parse_int16
    (motionVectorProbs : SafeArray (SafeArray Probability 19) 2) :
    (MotionVector.parse motionVectorProbs).Yields Answers fun mv =>
      int16 mv.y = mv.y ∧ int16 mv.x = mv.x := by
  apply (readComponent_int16 (motionVectorProbs 0)).bind
  intro y hy
  apply (readComponent_int16 (motionVectorProbs 1)).bind
  intro x hx
  exact ⟨hy, hx⟩

theorem readBits_reaches (componentProbs : SafeArray Probability 19)
    (bits : Fin 10 → Bool) (positions : List (Fin 10)) :
    (readBits componentProbs positions).Reaches (bitsValue bits positions) := by
  induction positions with
  | nil => exact reaches_pure 0
  | cons position rest ih =>
      have hvalue : bitsValue bits (position :: rest) =
          (bits position).toNat <<< position.val + bitsValue bits rest := by
        rw [bitsValue, List.map_cons, List.sum_cons, Nat.shiftLeft_eq]
        rfl
      rw [hvalue]
      exact reaches_get (bits position)
        (ih.map fun others => (bits position).toNat <<< position.val + others)

theorem readLong_reaches (componentProbs : SafeArray Probability 19) {x : Nat}
    (hlow : 8 ≤ x) (hhigh : x < 1024) : (readLong componentProbs).Reaches x := by
  let bits : Fin 10 → Bool := fun position => x.testBit position
  have hbit (position : Fin 10) :
      (bits position).toNat = x / 2 ^ position.val % 2 :=
    Nat.toNat_testBit x position
  have hsplit : x = bitsValue bits lowPositions +
      bitsValue bits highPositions + 8 * (x / 8 % 2) := by
    have b0 : (bits 0).toNat = x / 1 % 2 := hbit 0
    have b1 : (bits 1).toNat = x / 2 % 2 := hbit 1
    have b2 : (bits 2).toNat = x / 4 % 2 := hbit 2
    have b4 : (bits 4).toNat = x / 16 % 2 := hbit 4
    have b5 : (bits 5).toNat = x / 32 % 2 := hbit 5
    have b6 : (bits 6).toNat = x / 64 % 2 := hbit 6
    have b7 : (bits 7).toNat = x / 128 % 2 := hbit 7
    have b8 : (bits 8).toNat = x / 256 % 2 := hbit 8
    have b9 : (bits 9).toNat = x / 512 % 2 := hbit 9
    rw [lowBits_value, highBits_value, b0, b1, b2, b4, b5, b6, b7, b8, b9]
    omega
  unfold readLong
  apply (readBits_reaches componentProbs bits lowPositions).bind
  apply (readBits_reaches componentProbs bits highPositions).bind
  have hlt := long_lt bits bits
  by_cases hnone : bitsValue bits highPositions = 0
  · rw [if_pos (by rw [and_high_eq_zero_iff (by omega)]; omega)]
    have hvalue : bitsValue bits lowPositions + bitsValue bits highPositions +
        8 = x := by
      omega
    rw [hvalue]
    exact reaches_pure x
  · rw [if_neg (by rw [and_high_eq_zero_iff (by omega)]; omega)]
    rcases Nat.mod_two_eq_zero_or_one (x / 8) with hthird | hthird
    · refine reaches_get false ?_
      change (pure (bitsValue bits lowPositions + bitsValue bits highPositions) :
        Parser Nat).Reaches x
      rw [show bitsValue bits lowPositions + bitsValue bits highPositions = x by
        omega]
      exact reaches_pure x
    · refine reaches_get true ?_
      change (pure (bitsValue bits lowPositions + bitsValue bits highPositions +
        8) : Parser Nat).Reaches x
      rw [show bitsValue bits lowPositions + bitsValue bits highPositions + 8 =
        x by omega]
      exact reaches_pure x

theorem smallMvTree_reaches (componentProbs : SafeArray Probability 19)
    (leaf : Fin 8) :
    (tree smallMvTree (smallMvProbs componentProbs)).Reaches leaf.val := by
  match leaf with
  | 0 => exact ⟨[_, _, _], false, _, rfl, false, _, rfl, false, _, rfl, rfl, rfl⟩
  | 1 => exact ⟨[_, _, _], false, _, rfl, false, _, rfl, true, _, rfl, rfl, rfl⟩
  | 2 => exact ⟨[_, _, _], false, _, rfl, true, _, rfl, false, _, rfl, rfl, rfl⟩
  | 3 => exact ⟨[_, _, _], false, _, rfl, true, _, rfl, true, _, rfl, rfl, rfl⟩
  | 4 => exact ⟨[_, _, _], true, _, rfl, false, _, rfl, false, _, rfl, rfl, rfl⟩
  | 5 => exact ⟨[_, _, _], true, _, rfl, false, _, rfl, true, _, rfl, rfl, rfl⟩
  | 6 => exact ⟨[_, _, _], true, _, rfl, true, _, rfl, false, _, rfl, rfl, rfl⟩
  | 7 => exact ⟨[_, _, _], true, _, rfl, true, _, rfl, true, _, rfl, rfl, rfl⟩

theorem readMagnitude_reaches (componentProbs : SafeArray Probability 19)
    {x : Nat} (hx : x < 1024) : (readMagnitude componentProbs).Reaches x := by
  by_cases hsmall : x < 8
  · exact reaches_get false (smallMvTree_reaches componentProbs ⟨x, hsmall⟩)
  · exact reaches_get true (readLong_reaches componentProbs (by omega) hx)

theorem readComponent_reaches (componentProbs : SafeArray Probability 19)
    {component : Int} (heven : component % 2 = 0)
    (hlow : -2046 ≤ component) (hhigh : component ≤ 2046) :
    (readComponent componentProbs).Reaches component := by
  unfold readComponent
  apply (readMagnitude_reaches componentProbs
    (show component.natAbs / 2 < 1024 by omega)).bind
  by_cases hzero : component = 0
  · rw [hzero]
    exact reaches_pure 0
  · rw [if_neg (by omega)]
    by_cases hnegative : component < 0
    · refine reaches_get true ?_
      have hvalue : -(((component.natAbs / 2 : Nat) : Int) * 2) = component := by
        omega
      change (pure (-(((component.natAbs / 2 : Nat) : Int) * 2)) :
        Parser Int).Reaches component
      rw [hvalue]
      exact reaches_pure component
    · refine reaches_get false ?_
      have hvalue : ((component.natAbs / 2 : Nat) : Int) * 2 = component := by
        omega
      change (pure (((component.natAbs / 2 : Nat) : Int) * 2) :
        Parser Int).Reaches component
      rw [hvalue]
      exact reaches_pure component

theorem parse_reaches
    (motionVectorProbs : SafeArray (SafeArray Probability 19) 2)
    {mv : MotionVector} (hy : mv.y % 2 = 0 ∧ mv.y.natAbs ≤ 2046)
    (hx : mv.x % 2 = 0 ∧ mv.x.natAbs ≤ 2046) :
    (MotionVector.parse motionVectorProbs).Reaches mv := by
  apply (readComponent_reaches (motionVectorProbs 0) hy.1 (by omega)
    (by omega)).bind
  apply (readComponent_reaches (motionVectorProbs 1) hx.1 (by omega)
    (by omega)).bind
  exact reaches_pure mv

theorem encode_parse
    (motionVectorProbs : SafeArray (SafeArray Probability 19) 2)
    {mv : MotionVector} (hy : mv.y % 2 = 0 ∧ mv.y.natAbs ≤ 2046)
    (hx : mv.x % 2 = 0 ∧ mv.x.natAbs ≤ 2046) :
    ∃ symbols, mv.encode motionVectorProbs = .ok symbols ∧
      (MotionVector.parse motionVectorProbs).Consumes symbols mv :=
  (parse_reaches motionVectorProbs hy hx).echoed
    (parse_echoes motionVectorProbs)

theorem encode_parse_extremes :
    ∃ symbols,
      ({ y := -2046, x := 16 } : MotionVector).encode (fun _ _ => 128) =
        .ok symbols ∧
      (MotionVector.parse fun _ _ => 128).Consumes symbols
        { y := -2046, x := 16 } :=
  encode_parse (fun _ _ => 128) (by decide) (by decide)

end MotionVector

end Salsify.Codec
