import Salsify.Coder.BoolEncoder
import Salsify.Lib.IntervalCoding
import Mathlib.Data.Nat.Bitwise

namespace Salsify.Coder

open Salsify.IntervalCoding

/-! The boolean coder as an interval coder: `put` narrows the interval that the
encoder's output, `bottom` and `bitCount` spell together. -/

theorem vp8Norm_spec :
    ∀ range : Fin 256, 0 < range.val →
      ∃ norm, vp8Norm[range.val]? = some norm ∧ norm.toNat ≤ 7 ∧
        128 ≤ range.val * 2 ^ norm.toNat ∧ range.val * 2 ^ norm.toNat < 256 := by
  decide +kernel

def normOf (range : Nat) : Nat :=
  (vp8Norm[range]?.getD 0).toNat

def Normal (range : Nat) : Prop := 128 ≤ range ∧ range < 256

theorem normal_normOf {range : Nat} (hpos : 0 < range) (hlt : range < 256) :
    Normal (range * 2 ^ normOf range) := by
  obtain ⟨norm, hnorm, -, hlow, hhigh⟩ := vp8Norm_spec ⟨range, hlt⟩ hpos
  simp only [normOf, hnorm, Option.getD_some]
  exact ⟨hlow, hhigh⟩

theorem vp8Norm_get (range : Nat) (hpos : 0 < range) (hlt : range < 256) :
    ∃ norm, vp8Norm[range]? = some norm ∧ norm.toNat = normOf range ∧
      normOf range ≤ 7 := by
  obtain ⟨norm, hnorm, hle, -, -⟩ := vp8Norm_spec ⟨range, hlt⟩ hpos
  refine ⟨norm, hnorm, ?_, ?_⟩ <;> simp only [normOf, hnorm, Option.getD_some]
  exact hle

theorem normOf_le {range : Nat} (hpos : 0 < range) (hlt : range < 256) :
    normOf range ≤ 7 := by
  obtain ⟨-, -, -, hle⟩ := vp8Norm_get range hpos hlt
  exact hle

def split (range : Nat) (probability : Probability) : Nat :=
  1 + (range - 1) * probability.toNat / 256

theorem split_pos (range : Nat) (probability : Probability) :
    0 < split range probability := by
  simp only [split]
  omega

theorem split_lt {range : Nat} (hnormal : Normal range)
    (probability : Probability) : split range probability < range := by
  obtain ⟨hlow, hhigh⟩ := hnormal
  have hprobability : probability.toNat ≤ 255 := by
    have := probability.toNat_lt
    omega
  have hmul : (range - 1) * probability.toNat ≤ (range - 1) * 255 :=
    Nat.mul_le_mul_left _ hprobability
  simp only [split]
  omega

theorem splitOf_toNat {range : UInt32} (hnormal : Normal range.toNat)
    (probability : Probability) :
    (splitOf range probability).toNat = split range.toNat probability := by
  have hlt := split_lt hnormal probability
  obtain ⟨hlow, hhigh⟩ := hnormal
  have hprobability := probability.toNat_lt
  have hsub : (range - 1).toNat = range.toNat - 1 :=
    UInt32.toNat_sub_of_le _ _ (by
      rw [UInt32.le_iff_toNat_le]
      exact Nat.le_trans (by decide) hlow)
  have hmul : (range.toNat - 1) * probability.toNat < 255 * 256 :=
    Nat.mul_lt_mul_of_le_of_lt (by omega) hprobability (by omega)
  simp only [splitOf, split, UInt32.toNat_add, UInt32.toNat_shiftRight,
    UInt32.toNat_mul, hsub, UInt8.toNat_toUInt32, UInt32.reduceToNat,
    Nat.shiftRight_eq_div_pow, Nat.reduceMod, Nat.reducePow]
  rw [Nat.mod_eq_of_lt (a := (range.toNat - 1) * probability.toNat) (by omega),
    Nat.mod_eq_of_lt (by omega)]

def boolModel : Model Probability where
  split := split
  shift := normOf
  Normal := Normal
  split_pos := fun probability _ => split_pos _ probability
  split_lt := fun probability hnormal => split_lt hnormal probability
  normal_lower := fun probability hnormal =>
    normal_normOf (split_pos _ probability)
      (Nat.lt_trans (split_lt hnormal probability) hnormal.2)
  normal_upper := fun probability hnormal =>
    normal_normOf (Nat.sub_pos_of_lt (split_lt hnormal probability))
      (Nat.lt_of_le_of_lt (Nat.sub_le _ _) hnormal.2)

theorem shiftLeft_toNat (word : UInt32) (shift : Nat) (hshift : shift < 32)
    (hfit : word.toNat * 2 ^ shift < 2 ^ 32) :
    (word <<< UInt32.ofNat shift).toNat = word.toNat * 2 ^ shift := by
  rw [UInt32.toNat_shiftLeft, UInt32.toNat_ofNat_of_lt' (by
      simp only [UInt32.size]
      omega), Nat.mod_eq_of_lt hshift, Nat.shiftLeft_eq,
    Nat.mod_eq_of_lt hfit]

theorem shiftRight_toNat {word : UInt32} {shift : Nat} (hshift : shift < 32) :
    (word >>> UInt32.ofNat shift).toNat = word.toNat / 2 ^ shift := by
  rw [UInt32.toNat_shiftRight, UInt32.toNat_ofNat_of_lt' (by
      simp only [UInt32.size]
      omega), Nat.mod_eq_of_lt hshift, Nat.shiftRight_eq_div_pow]

theorem shiftLeft_and_mask_toNat (word : UInt32) {width : Nat}
    (hlow : 8 ≤ width) (hhigh : width < 32) :
    ((word <<< UInt32.ofNat (32 - width)) &&& 0xffffff).toNat =
      word.toNat % 2 ^ (width - 8) * 2 ^ (32 - width) := by
  have hdvd : 2 ^ 24 ∣ 2 ^ 32 := Nat.pow_dvd_pow 2 (by omega)
  have hsplit : 2 ^ 24 = 2 ^ (width - 8) * 2 ^ (32 - width) := by
    rw [← pow_add]
    congr 1
    omega
  rw [UInt32.toNat_and, UInt32.toNat_shiftLeft, UInt32.toNat_ofNat_of_lt' (by
      simp only [UInt32.size]
      omega), Nat.mod_eq_of_lt (a := 32 - width) (by omega),
    Nat.shiftLeft_eq]
  calc
    word.toNat * 2 ^ (32 - width) % 2 ^ 32 &&& (2 ^ 24 - 1) =
        word.toNat * 2 ^ (32 - width) % 2 ^ 32 % 2 ^ 24 :=
      Nat.and_two_pow_sub_one_eq_mod _ 24
    _ = word.toNat * 2 ^ (32 - width) % 2 ^ 24 := Nat.mod_mod_of_dvd _ hdvd
    _ = word.toNat % 2 ^ (width - 8) * 2 ^ (32 - width) := by
      rw [hsplit, Nat.mul_mod_mul_right]

theorem and_top_bit_ne_zero {word : UInt32} :
    word &&& 0x80000000 ≠ 0 ↔ 2 ^ 31 ≤ word.toNat := by
  have hlt := word.toNat_lt
  have hbit : (word &&& 0x80000000).toNat =
      (word.toNat.testBit 31).toNat * 2 ^ 31 := by
    rw [UInt32.toNat_and]
    exact Nat.and_two_pow _ 31
  rw [Ne, ← UInt32.toNat_inj, hbit, Nat.testBit_eq_decide_div_mod_eq,
    UInt32.toNat_zero]
  by_cases hhigh : 2 ^ 31 ≤ word.toNat
  · have hdiv : word.toNat / 2 ^ 31 = 1 := by omega
    rw [hdiv]
    exact iff_of_true (by decide) hhigh
  · have hdiv : word.toNat / 2 ^ 31 = 0 := by omega
    rw [hdiv]
    exact iff_of_false (by decide) hhigh

theorem carryBackwards_spec (backwards : List UInt8)
    (hroom : Nat.ofDigits 256 (backwards.map UInt8.toNat) + 1 <
      256 ^ backwards.length) :
    ∃ carried, carryBackwards backwards = some carried ∧
      carried.length = backwards.length ∧
      Nat.ofDigits 256 (carried.map UInt8.toNat) =
        Nat.ofDigits 256 (backwards.map UInt8.toNat) + 1 := by
  induction backwards with
  | nil => simp at hroom
  | cons byte earlier ih =>
      have hbyte := byte.toNat_lt
      simp only [List.map_cons, Nat.ofDigits_cons, List.length_cons,
        pow_succ] at hroom ⊢
      by_cases hfull : byte = 255
      · -- The byte overflows to zero and the carry moves one place forward.
        subst byte
        simp only [UInt8.reduceToNat] at hroom
        obtain ⟨carried, hcarried, hlength, hvalue⟩ := ih (by omega)
        refine ⟨0 :: carried, by simp [carryBackwards, hcarried],
          by simp [hlength], ?_⟩
        simp only [List.map_cons, Nat.ofDigits_cons, hvalue,
          UInt8.reduceToNat]
        omega
      · have hne : byte.toNat ≠ 255 := fun h =>
          hfull (UInt8.toNat_inj.mp h)
        refine ⟨(byte + 1) :: earlier, by simp [carryBackwards, hfull], rfl, ?_⟩
        simp only [List.map_cons, Nat.ofDigits_cons, UInt8.toNat_add,
          UInt8.reduceToNat]
        omega

theorem addOneToOutput_spec {output : List UInt8}
    (hroom : bytesValue output + 1 < 256 ^ output.length) :
    ∃ carried, addOneToOutput output = some carried ∧
      carried.length = output.length ∧
      bytesValue carried = bytesValue output + 1 := by
  obtain ⟨carried, hcarried, hlength, hvalue⟩ :=
    carryBackwards_spec output.reverse (by simpa [bytesValue] using hroom)
  refine ⟨carried.reverse, by simp [addOneToOutput, hcarried],
    by simpa using hlength, ?_⟩
  simpa [bytesValue] using hvalue

namespace BoolEncoder

def width (encoder : BoolEncoder) : Nat :=
  (32 + encoder.bitCount).toNat

def interval (encoder : BoolEncoder) : Interval where
  low := bytesValue encoder.output * 2 ^ encoder.width + encoder.bottom.toNat
  range := encoder.range.toNat
  depth := 8 * encoder.output.length + encoder.width

structure Valid (encoder : BoolEncoder) : Prop where
  bitCount_low : -24 ≤ encoder.bitCount
  bitCount_high : encoder.bitCount < 0
  normal : Normal encoder.range.toNat
  room : encoder.bottom.toNat + encoder.range.toNat ≤ 2 ^ (encoder.width + 1)
  unit : encoder.interval.low + encoder.interval.range ≤
    2 ^ encoder.interval.depth

def Settled (encoder : BoolEncoder) : Prop :=
  encoder.bottom.toNat < 2 ^ encoder.width

theorem valid_fresh : Valid {} where
  bitCount_low := by decide
  bitCount_high := by decide
  normal := ⟨by decide, by decide⟩
  room := by decide
  unit := by decide

theorem carryBit_iff {bottom : UInt32} {width : Nat} (hwidth : width < 32)
    (hbottom : bottom.toNat < 2 ^ (width + 1)) :
    (bottom <<< UInt32.ofNat (32 - width - 1)) &&& 0x80000000 ≠ 0 ↔
      2 ^ width ≤ bottom.toNat := by
  have hone : 2 ^ (width + 1) * 2 ^ (32 - width - 1) = 2 ^ 32 := by
    rw [← pow_add]
    congr 1
    omega
  have htop : 2 ^ 31 = 2 ^ width * 2 ^ (32 - width - 1) := by
    rw [← pow_add]
    congr 1
    omega
  rw [and_top_bit_ne_zero, shiftLeft_toNat _ _ (by omega) (by
    rw [← hone]
    exact Nat.mul_lt_mul_of_pos_right hbottom (Nat.two_pow_pos _)), htop,
    Nat.mul_le_mul_right_iff (Nat.two_pow_pos _)]

theorem carry_spec (output : List UInt8) {bottom : UInt32} {width : Nat}
    (hwidth : width < 32) (hbottom : bottom.toNat < 2 ^ (width + 1))
    (hroom : bytesValue output * 2 ^ width + bottom.toNat <
      2 ^ (8 * output.length + width)) :
    ∃ out,
      (if (bottom <<< UInt32.ofNat (32 - width - 1)) &&& 0x80000000 ≠ 0 then
          addOneToOutput output
        else
          some output) = some out ∧ out.length = output.length ∧
        bytesValue out * 2 ^ width + bottom.toNat % 2 ^ width =
          bytesValue output * 2 ^ width + bottom.toNat := by
  have hcarryBit := carryBit_iff hwidth hbottom
  by_cases hcarry : 2 ^ width ≤ bottom.toNat
  · have hfree : bytesValue output + 1 < 256 ^ output.length := by
      rw [pow_256]
      apply Nat.lt_of_mul_lt_mul_right (a := 2 ^ width)
      rw [← pow_add, Nat.add_mul, Nat.one_mul]
      omega
    obtain ⟨carried, hcarried, hlength, hvalue⟩ := addOneToOutput_spec hfree
    refine ⟨carried, by rw [if_pos (hcarryBit.mpr hcarry), hcarried],
      hlength, ?_⟩
    have hrest : bottom.toNat % 2 ^ width = bottom.toNat - 2 ^ width := by
      rw [Nat.mod_eq_sub_mod hcarry, Nat.mod_eq_of_lt]
      rw [pow_succ] at hbottom
      omega
    rw [hvalue, hrest, Nat.add_mul, Nat.one_mul]
    omega
  · refine ⟨output, if_neg (mt hcarryBit.mp hcarry), rfl, ?_⟩
    rw [Nat.mod_eq_of_lt (Nat.lt_of_not_le hcarry)]

/-- What stays of `bottom` below the emitted byte, scaled. -/
theorem emitted_bottom (bottom : UInt32) {width shift : Nat}
    (hwidth : width < 32) (hshift : shift ≤ 7) (hemit : 32 ≤ width + shift) :
    (((bottom <<< UInt32.ofNat (32 - width)) &&& 0xffffff) <<<
        UInt32.ofNat (width + shift - 32)).toNat =
      bottom.toNat % 2 ^ (width - 8) * 2 ^ shift := by
  have hmasked := shiftLeft_and_mask_toNat bottom (by omega) hwidth
  have hpow : bottom.toNat % 2 ^ (width - 8) * 2 ^ (32 - width) *
        2 ^ (width + shift - 32) =
      bottom.toNat % 2 ^ (width - 8) * 2 ^ shift := by
    rw [Nat.mul_assoc, ← pow_add]
    congr 2
    omega
  rw [shiftLeft_toNat _ _ (by omega), hmasked, hpow]
  rw [hmasked, hpow]
  calc
    bottom.toNat % 2 ^ (width - 8) * 2 ^ shift <
        2 ^ (width - 8) * 2 ^ shift :=
      Nat.mul_lt_mul_of_pos_right (Nat.mod_lt _ (Nat.two_pow_pos _))
        (Nat.two_pow_pos _)
    _ = 2 ^ (width - 8 + shift) := (pow_add _ _ _).symm
    _ ≤ 2 ^ 32 := Nat.pow_le_pow_right (by omega) (by omega)

/-- The emitting branch moves the carry and the top byte of `bottom` to the
output and leaves the number they spell unchanged. -/
theorem emit_spec (output : List UInt8) {bottom : UInt32} (range : UInt32)
    {shift : UInt32} {width : Nat} (hwidth : width < 32) (hshift : shift.toNat ≤ 7)
    (hemit : 32 ≤ width + shift.toNat)
    (hbottom : bottom.toNat < 2 ^ (width + 1))
    (hroom : bytesValue output * 2 ^ width + bottom.toNat <
      2 ^ (8 * output.length + width)) :
    ∃ next, emit output bottom range shift
          (width + shift.toNat - 32 : Int) = some next ∧
      next.range = range ∧ next.bitCount = width + shift.toNat - 40 ∧
      next.output.length = output.length + 1 ∧
      next.bottom.toNat < 2 ^ (width + shift.toNat - 8) ∧
      bytesValue next.output * 2 ^ (width + shift.toNat - 8) +
          next.bottom.toNat =
        (bytesValue output * 2 ^ width + bottom.toNat) * 2 ^ shift.toNat := by
  have hoffset : ((shift.toNat : Int) -
      ((width : Int) + shift.toNat - 32)).toNat = 32 - width := by omega
  have hcount : ((width : Int) + shift.toNat - 32).toNat =
      width + shift.toNat - 32 := by omega
  have hpow : 2 ^ width = 2 ^ (width - 8) * 256 := by
    rw [show (256 : Nat) = 2 ^ 8 from rfl, ← pow_add]
    congr 1
    omega
  have hscale : 2 ^ (width + shift.toNat - 8) =
      2 ^ (width - 8) * 2 ^ shift.toNat := by
    rw [← pow_add]
    congr 1
    omega
  obtain ⟨out, hout, hlength, hvalue⟩ := carry_spec output hwidth hbottom hroom
  have hbyte : (bottom >>> UInt32.ofNat (24 - (32 - width))).toUInt8.toNat =
      bottom.toNat / 2 ^ (width - 8) % 256 := by
    rw [UInt32.toNat_toUInt8, shiftRight_toNat (by omega)]
    congr 3
    omega
  have hfinal := emitted_bottom bottom hwidth hshift hemit
  refine ⟨{
    output := out ++
      [(bottom >>> UInt32.ofNat (24 - (32 - width))).toUInt8]
    range := range
    bottom := ((bottom <<< UInt32.ofNat (32 - width)) &&& 0xffffff) <<<
      UInt32.ofNat (width + shift.toNat - 32)
    bitCount := width + shift.toNat - 32 - 8 }, ?_, rfl, ?_, ?_, ?_, ?_⟩
  · simp only [emit, hoffset, hcount, hout, Option.map_some]
  · simp only
    omega
  · simp only [List.length_append, hlength, List.length_singleton]
  · simp only [hfinal, hscale]
    exact Nat.mul_lt_mul_of_pos_right (Nat.mod_lt _ (Nat.two_pow_pos _))
      (Nat.two_pow_pos _)
  · have hmod : bottom.toNat % 2 ^ width = bottom.toNat % 2 ^ (width - 8) +
        2 ^ (width - 8) * (bottom.toNat / 2 ^ (width - 8) % 256) := by
      rw [hpow, Nat.mod_mul]
    simp only [hfinal, bytesValue_concat, hbyte, hscale, ← hvalue, hmod]
    rw [hpow]
    ring

theorem Valid.width_spec {encoder : BoolEncoder} (hvalid : encoder.Valid) :
    8 ≤ encoder.width ∧ encoder.width < 32 ∧
      encoder.bitCount = encoder.width - 32 := by
  have hlow := hvalid.bitCount_low
  have hhigh := hvalid.bitCount_high
  simp only [width]
  omega

/-- The piece of the interval that `put` keeps, in the words of the code. -/
theorem put_piece {encoder : BoolEncoder} (hvalid : encoder.Valid)
    (value : Bool) (probability : Probability) :
    ∃ bottom range shift : UInt32,
      encoder.put value probability =
        (if 0 ≤ encoder.bitCount + shift.toNat then
          emit encoder.output bottom (range <<< shift) shift
            (encoder.bitCount + shift.toNat)
        else
          some ⟨encoder.output, range <<< shift, bottom <<< shift,
            encoder.bitCount + shift.toNat⟩) ∧
      bytesValue encoder.output * 2 ^ encoder.width + bottom.toNat =
        (encoder.interval.narrow (split encoder.range.toNat probability)
          value).low ∧
      range.toNat =
        (encoder.interval.narrow (split encoder.range.toNat probability)
          value).range ∧
      0 < range.toNat ∧ range.toNat < 256 ∧
      bottom.toNat + range.toNat ≤ 2 ^ (encoder.width + 1) ∧
      shift.toNat = normOf range.toNat ∧ shift.toNat ≤ 7 := by
  have hnormal := hvalid.normal
  have hsplit := splitOf_toNat hnormal probability
  have hpos := split_pos encoder.range.toNat probability
  have hlt := split_lt hnormal probability
  have hhigh := hnormal.2
  have hroom := hvalid.room
  have hwidth : 2 ^ (encoder.width + 1) ≤ 2 ^ 32 :=
    Nat.pow_le_pow_right (by omega) hvalid.width_spec.2.1
  cases value with
  | false =>
      obtain ⟨norm, hnorm, hshift, hle⟩ := vp8Norm_get
        (splitOf encoder.range probability).toNat
        (by omega) (by omega)
      refine ⟨encoder.bottom, splitOf encoder.range probability,
        norm.toUInt32, ?_, rfl, hsplit, by omega, by omega, by omega, ?_, ?_⟩
      · simp [put, hnorm]
      · simpa using hshift
      · simpa [hshift] using hle
  | true =>
      have hbottom : (encoder.bottom + splitOf encoder.range probability).toNat
          = encoder.bottom.toNat + split encoder.range.toNat probability := by
        rw [UInt32.toNat_add, hsplit, Nat.mod_eq_of_lt (by omega)]
      have hrange : (encoder.range - splitOf encoder.range probability).toNat
          = encoder.range.toNat - split encoder.range.toNat probability := by
        rw [UInt32.toNat_sub_of_le _ _ (by
          rw [UInt32.le_iff_toNat_le, hsplit]
          omega), hsplit]
      obtain ⟨norm, hnorm, hshift, hle⟩ := vp8Norm_get
        (encoder.range - splitOf encoder.range probability).toNat
        (by omega) (by omega)
      refine ⟨encoder.bottom + splitOf encoder.range probability,
        encoder.range - splitOf encoder.range probability,
        norm.toUInt32, ?_, ?_, hrange, by omega, by omega, by omega, ?_, ?_⟩
      · simp [put, hnorm]
      · simp only [Interval.narrow, interval, hbottom]
        omega
      · simpa using hshift
      · simpa [hshift] using hle

/-- The interval after the piece with this bottom and range is scaled. -/
def shifted (encoder : BoolEncoder) (bottom range shift : Nat) : Interval where
  low := (bytesValue encoder.output * 2 ^ encoder.width + bottom) * 2 ^ shift
  range := range * 2 ^ shift
  depth := 8 * encoder.output.length + encoder.width + shift

theorem Valid.emit {encoder : BoolEncoder} (hvalid : encoder.Valid)
    {bottom range shift : UInt32} (hseven : shift.toNat ≤ 7)
    (hemit : 0 ≤ encoder.bitCount + shift.toNat) (hpos : 0 < range.toNat)
    (hnormal : Normal (range <<< shift).toNat)
    (hscaled : (range <<< shift).toNat = range.toNat * 2 ^ shift.toNat)
    (hroom : bottom.toNat + range.toNat ≤ 2 ^ (encoder.width + 1))
    (hunit : (encoder.shifted bottom.toNat range.toNat shift.toNat).low +
        (encoder.shifted bottom.toNat range.toNat shift.toNat).range ≤
      2 ^ (encoder.shifted bottom.toNat range.toNat shift.toNat).depth) :
    ∃ next, BoolEncoder.emit encoder.output bottom (range <<< shift) shift
        (encoder.bitCount + shift.toNat) = some next ∧ next.Valid ∧
      next.interval =
        encoder.shifted bottom.toNat range.toNat shift.toNat ∧
      next.Settled := by
  obtain ⟨hwidthLow, hwidthHigh, hcount⟩ := hvalid.width_spec
  have hscaledCount : encoder.bitCount + shift.toNat =
      encoder.width + shift.toNat - 32 := by omega
  have hfit : bytesValue encoder.output * 2 ^ encoder.width + bottom.toNat <
      2 ^ (8 * encoder.output.length + encoder.width) := by
    apply Nat.lt_of_mul_lt_mul_right (a := 2 ^ shift.toNat)
    rw [← pow_add]
    exact Nat.lt_of_lt_of_le (Nat.lt_add_of_pos_right
      (Nat.mul_pos hpos (Nat.two_pow_pos _))) hunit
  obtain ⟨next, hnext, hnextRange, hnextCount, hnextLength, hnextBottom,
    hnextLow⟩ := emit_spec encoder.output (range <<< shift)
      hwidthHigh hseven (by omega) (by omega) hfit
  have hnextWidth : next.width = encoder.width + shift.toNat - 8 := by
    simp only [width, hnextCount]
    omega
  have hinterval : next.interval =
      encoder.shifted bottom.toNat range.toNat shift.toNat := by
    simp only [interval, shifted, hnextWidth, hnextLow, hnextRange, hscaled,
      hnextLength, Interval.mk.injEq, true_and]
    omega
  refine ⟨next, ?_, ⟨by omega, by omega, ?_, ?_, ?_⟩, hinterval, ?_⟩
  · rw [hscaledCount, hnext]
  · rwa [hnextRange]
  · have hbyte : 2 ^ 8 ≤ 2 ^ (encoder.width + shift.toNat - 8) :=
      Nat.pow_le_pow_right (by omega) (by omega)
    have hhigh := hnormal.2
    rw [hnextWidth, hnextRange, pow_succ]
    omega
  · rwa [hinterval]
  · simpa only [Settled, hnextWidth] using hnextBottom

theorem Valid.shift {encoder : BoolEncoder} (hvalid : encoder.Valid)
    {bottom range shift : UInt32} (hstays : encoder.bitCount + shift.toNat < 0)
    (hnormal : Normal (range <<< shift).toNat)
    (hscaled : (range <<< shift).toNat = range.toNat * 2 ^ shift.toNat)
    (hroom : bottom.toNat + range.toNat ≤ 2 ^ (encoder.width + 1))
    (hunit : (encoder.shifted bottom.toNat range.toNat shift.toNat).low +
        (encoder.shifted bottom.toNat range.toNat shift.toNat).range ≤
      2 ^ (encoder.shifted bottom.toNat range.toNat shift.toNat).depth) :
    Valid ⟨encoder.output, range <<< shift, bottom <<< shift,
        encoder.bitCount + shift.toNat⟩ ∧
      interval ⟨encoder.output, range <<< shift, bottom <<< shift,
          encoder.bitCount + shift.toNat⟩ =
        encoder.shifted bottom.toNat range.toNat shift.toNat ∧
      (bottom.toNat < 2 ^ encoder.width →
        Settled ⟨encoder.output, range <<< shift, bottom <<< shift,
          encoder.bitCount + shift.toNat⟩) := by
  obtain ⟨hwidthLow, hwidthHigh, hcount⟩ := hvalid.width_spec
  have hroomScaled :
      bottom.toNat * 2 ^ shift.toNat + range.toNat * 2 ^ shift.toNat ≤
        2 ^ (encoder.width + shift.toNat + 1) := by
    rw [← Nat.add_mul, Nat.add_right_comm, pow_add]
    exact Nat.mul_le_mul_right _ hroom
  have hfit : 2 ^ (encoder.width + shift.toNat + 1) ≤ 2 ^ 32 :=
    Nat.pow_le_pow_right (by omega) (by omega)
  have hbottom : (bottom <<< shift).toNat =
      bottom.toNat * 2 ^ shift.toNat := by
    have h := shiftLeft_toNat bottom shift.toNat
      (by omega) (by
        have hlow := hnormal.1
        omega)
    rwa [UInt32.ofNat_toNat] at h
  have hnextWidth : (32 + (encoder.bitCount + shift.toNat)).toNat =
      encoder.width + shift.toNat := by omega
  have hinterval : interval ⟨encoder.output, range <<< shift,
        bottom <<< shift, encoder.bitCount + shift.toNat⟩ =
      encoder.shifted bottom.toNat range.toNat shift.toNat := by
    simp only [interval, shifted, width, hnextWidth, hscaled, hbottom, pow_add,
      Interval.mk.injEq, true_and]
    refine ⟨by ring, by omega⟩
  refine ⟨⟨?_, hstays, hnormal, ?_, ?_⟩, hinterval, ?_⟩
  · have hlow := hvalid.bitCount_low
    simp only
    omega
  · simpa only [width, hnextWidth, hscaled, hbottom] using hroomScaled
  · rwa [hinterval]
  · intro hsettled
    simp only [Settled, width, hnextWidth, hbottom, pow_add]
    exact Nat.mul_lt_mul_of_pos_right hsettled (Nat.two_pow_pos _)

/-- One `put` succeeds on every valid encoder and narrows its interval.  An
emitted byte settles the encoder; a zero leaves it settled. -/
theorem put_spec {encoder : BoolEncoder} (hvalid : encoder.Valid)
    (value : Bool) (probability : Probability) :
    ∃ next, encoder.put value probability = some next ∧ next.Valid ∧
      next.interval = encoder.interval.advance boolModel probability value ∧
      (next.output.length ≠ encoder.output.length → next.Settled) ∧
      (value = false → encoder.Settled → next.Settled) := by
  obtain ⟨bottom, range, shift, hput, hlow, hrange, hpos, hlt, hroom, hshift,
    hseven⟩ := put_piece hvalid value probability
  have hunit := Interval.advance_high_le boolModel encoder.interval hvalid.normal
    probability value hvalid.unit
  have hadvance : encoder.interval.advance boolModel probability value =
      encoder.shifted bottom.toNat range.toNat shift.toNat := by
    rw [shifted, hlow, hshift, hrange]
    simp only [Interval.advance, Interval.scale, Interval.narrow_depth]
    rfl
  have hnormal : Normal (range.toNat * 2 ^ shift.toNat) := by
    rw [hshift]
    exact normal_normOf hpos hlt
  have hscaled : (range <<< shift).toNat = range.toNat * 2 ^ shift.toNat := by
    have h := shiftLeft_toNat range shift.toNat
      (by omega) (by
        have hhigh := hnormal.2
        omega)
    rwa [UInt32.ofNat_toNat] at h
  rw [← hscaled] at hnormal
  rw [hadvance] at hunit ⊢
  by_cases hemit : 0 ≤ encoder.bitCount + shift.toNat
  · obtain ⟨next, hnext, hnextValid, hinterval, hsettled⟩ :=
      hvalid.emit hseven hemit hpos hnormal hscaled hroom hunit
    refine ⟨next, ?_, hnextValid, hinterval, fun _ => hsettled,
      fun _ _ => hsettled⟩
    rw [hput, if_pos hemit, hnext]
  · obtain ⟨hnextValid, hinterval, hsettled⟩ :=
      hvalid.shift (Int.lt_of_not_ge hemit) hnormal hscaled hroom hunit
    refine ⟨_, by rw [hput, if_neg hemit], hnextValid, hinterval,
      fun hlength => absurd rfl hlength, ?_⟩
    rintro rfl hbelow
    have hsame : bottom.toNat = encoder.bottom.toNat := by
      simp only [Interval.narrow, interval] at hlow
      omega
    apply hsettled
    rw [hsame]
    exact hbelow

theorem putAll_spec {encoder : BoolEncoder} (hvalid : encoder.Valid)
    (symbols : List (Probability × Bool)) :
    ∃ next, encoder.putAll symbols = some next ∧ next.Valid ∧
      next.interval = encoder.interval.advanceAll boolModel symbols := by
  induction symbols generalizing encoder with
  | nil => exact ⟨encoder, rfl, hvalid, rfl⟩
  | cons symbol symbols ih =>
      obtain ⟨middle, hput, hmiddle, hinterval, -, -⟩ :=
        put_spec hvalid symbol.2 symbol.1
      obtain ⟨next, hrest, hnext, hadvance⟩ := ih hmiddle
      refine ⟨next, ?_, hnext, ?_⟩
      · rw [putAll_cons, hput, Option.bind_some, hrest]
      · rw [hadvance, hinterval, Interval.advanceAll_cons]

/-- A zero of even probability shifts by one bit, unless the range is full; the
next range is never full. -/
theorem flush_piece :
    ∀ range : Fin 256, 128 ≤ range.val →
      (range.val = 255 ∨ normOf (split range.val 128) = 1) ∧
        split range.val 128 * 2 ^ normOf (split range.val 128) ≠ 255 := by
  decide +kernel

/-- Zeros leave `low` in place and make it ever more precise. -/
theorem advanceAll_zeros (interval : Interval)
    (hnormal : Normal interval.range) (count : Nat) :
    ∃ shift,
      (interval.advanceAll boolModel (List.replicate count (128, false))).low =
          interval.low * 2 ^ shift ∧
        (interval.advanceAll boolModel
            (List.replicate count (128, false))).depth =
          interval.depth + shift ∧
        count ≤ shift + 1 ∧ (interval.range ≠ 255 → count ≤ shift) := by
  induction count generalizing interval with
  | zero => exact ⟨0, by simp, by simp, by omega, by omega⟩
  | succ count ih =>
      obtain ⟨hshift, hnotFull⟩ :=
        flush_piece ⟨interval.range, hnormal.2⟩ hnormal.1
      simp only at hshift hnotFull
      obtain ⟨shift, hlow, hdepth, -, hcount⟩ :=
        ih _ (Interval.normal_advance boolModel hnormal 128 false)
      have hcount := hcount hnotFull
      refine ⟨normOf (split interval.range 128) + shift, ?_, ?_, ?_, ?_⟩
      · rw [List.replicate_succ, Interval.advanceAll_cons, hlow, pow_add,
          ← Nat.mul_assoc]
        rfl
      · rw [List.replicate_succ, Interval.advanceAll_cons, hdepth,
          ← Nat.add_assoc]
        rfl
      · omega
      · intro hrange
        have := hshift.resolve_left hrange
        omega

theorem putAll_zeros_settled {encoder : BoolEncoder} (hvalid : encoder.Valid)
    (count : Nat) :
    ∃ next, encoder.putAll (List.replicate count (128, false)) = some next ∧
      (next.output.length = encoder.output.length ∨ next.Settled) ∧
      (encoder.Settled → next.Settled) := by
  induction count generalizing encoder with
  | zero => exact ⟨encoder, rfl, Or.inl rfl, id⟩
  | succ count ih =>
      obtain ⟨middle, hput, hmiddle, -, hemitted, hkept⟩ :=
        put_spec hvalid false 128
      obtain ⟨next, hrest, hnext, hsettled⟩ := ih hmiddle
      refine ⟨next, ?_, ?_, fun h => hsettled (hkept rfl h)⟩
      · rw [List.replicate_succ, putAll_cons, hput, Option.bind_some, hrest]
      · by_cases hlength : middle.output.length = encoder.output.length
        · rwa [hlength] at hnext
        · exact Or.inr (hsettled (hemitted hlength))

/-- The bytes of a flushed encoder lie in its interval: the flush has pushed
all of `low` to the output. -/
theorem flush_spec {encoder : BoolEncoder} (hvalid : encoder.Valid) :
    ∃ flushed, encoder.flush = some flushed ∧ flushed.Valid ∧
      flushed.interval =
        encoder.interval.advanceAll boolModel flushSymbols ∧
      flushed.interval.Contains (BitStream.ofBytes flushed.output) := by
  obtain ⟨flushed, hflush, hflushed, hinterval⟩ :=
    putAll_spec hvalid flushSymbols
  obtain ⟨same, hsame, hsettled, -⟩ := putAll_zeros_settled hvalid 32
  obtain rfl : same = flushed :=
    Option.some.inj (hsame.symm.trans hflush)
  refine ⟨same, hflush, hflushed, hinterval, ?_⟩
  obtain ⟨shift, hlow, hdepth, hcount, -⟩ :=
    advanceAll_zeros encoder.interval hvalid.normal 32
  obtain ⟨-, hwidth, hbits⟩ := hflushed.width_spec
  have hstart := hvalid.width_spec
  rw [show List.replicate 32 (128, false) = flushSymbols from rfl,
    ← hinterval] at hlow hdepth
  have hsettled : same.Settled := hsettled.resolve_left (by
    intro hlength
    simp only [interval, hlength] at hdepth
    omega)
  -- `low` ends in more zeros than `bottom` has bits
  have hbottom : same.bottom.toNat = 0 := by
    have hdvd : 2 ^ same.width ∣ same.bottom.toNat := by
      have hall : 2 ^ same.width ∣ same.interval.low := by
        rw [hlow]
        exact Dvd.dvd.mul_left (Nat.pow_dvd_pow 2 (by omega)) _
      exact (Nat.dvd_add_right (Nat.dvd_mul_left _ _)).mp hall
    exact Nat.eq_zero_of_dvd_of_lt hdvd hsettled
  have htop : (BitStream.ofBytes same.output).top same.interval.depth =
      same.interval.low := by
    simp only [interval, hbottom, Nat.add_zero]
    exact BitStream.top_ofBytes_past same.output same.width
  have hrange : 0 < same.interval.range :=
    Nat.lt_of_lt_of_le (by decide) hflushed.normal.1
  exact ⟨Nat.le_of_eq htop.symm, by omega⟩

end BoolEncoder

end Salsify.Coder
