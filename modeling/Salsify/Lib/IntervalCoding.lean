import Mathlib.Data.Nat.Digits.Lemmas
import Mathlib.Tactic.Linarith
import Mathlib.Tactic.Ring

namespace Salsify.IntervalCoding

/-! Binary interval coding.  A message narrows an interval of the unit segment
one symbol at a time; any bit stream that stays in the last interval lets a
reader that follows the same narrowing recover every symbol. -/

structure BitStream where
  top : Nat → Nat
  top_add : ∀ depth more, top (depth + more) / 2 ^ more = top depth

/-- The segment from `low` to `low + range`, in units of `2 ^ -depth`. -/
structure Interval where
  low : Nat
  range : Nat
  depth : Nat

/-- How a coder cuts an interval of a given range, and how far it rescales the
piece it keeps.  `Normal` is the set of ranges between two symbols. -/
structure Model (σ : Type) where
  split : Nat → σ → Nat
  shift : Nat → Nat
  Normal : Nat → Prop
  split_pos : ∀ {range} context, Normal range → 0 < split range context
  split_lt : ∀ {range} context, Normal range → split range context < range
  normal_lower : ∀ {range} context, Normal range →
    Normal (split range context * 2 ^ shift (split range context))
  normal_upper : ∀ {range} context, Normal range →
    Normal ((range - split range context) *
      2 ^ shift (range - split range context))

namespace Interval

def Contains (interval : Interval) (stream : BitStream) : Prop :=
  interval.low ≤ stream.top interval.depth ∧
    stream.top interval.depth < interval.low + interval.range

def narrow (interval : Interval) (split : Nat) : Bool → Interval
  | false => { interval with range := split }
  | true =>
      { interval with
        low := interval.low + split
        range := interval.range - split }

@[simp] theorem narrow_depth (interval : Interval) (split : Nat)
    (bit : Bool) : (interval.narrow split bit).depth = interval.depth := by
  cases bit <;> rfl

def scale (interval : Interval) (shift : Nat) : Interval where
  low := interval.low * 2 ^ shift
  range := interval.range * 2 ^ shift
  depth := interval.depth + shift

theorem contains_scale {interval : Interval} {stream : BitStream}
    {shift : Nat} :
    (interval.scale shift).Contains stream ↔ interval.Contains stream := by
  have hpos : 0 < 2 ^ shift := Nat.two_pow_pos shift
  simp only [Contains, scale, ← stream.top_add interval.depth shift,
    ← Nat.add_mul]
  rw [Nat.le_div_iff_mul_le hpos, Nat.div_lt_iff_lt_mul hpos]

theorem Contains.of_narrow {interval : Interval} {stream : BitStream}
    {split : Nat} {bit : Bool} (hsplit : split < interval.range)
    (h : (interval.narrow split bit).Contains stream) :
    interval.Contains stream := by
  obtain ⟨hlow, hhigh⟩ := h
  cases bit <;> simp only [narrow] at hlow hhigh <;>
    exact ⟨by omega, by omega⟩

variable {σ : Type}

def advance (model : Model σ) (interval : Interval) (context : σ)
    (bit : Bool) : Interval :=
  let piece := interval.narrow (model.split interval.range context) bit
  piece.scale (model.shift piece.range)

def advanceAll (model : Model σ) (interval : Interval)
    (symbols : List (σ × Bool)) : Interval :=
  symbols.foldl (fun current symbol =>
    advance model current symbol.1 symbol.2) interval

/-- The symbol a reader of the stream takes in this interval. -/
def read (model : Model σ) (interval : Interval) (context : σ)
    (stream : BitStream) : Bool :=
  decide (interval.low + model.split interval.range context ≤
    stream.top interval.depth)

@[simp] theorem advanceAll_nil (model : Model σ) (interval : Interval) :
    interval.advanceAll model [] = interval := rfl

@[simp] theorem advanceAll_cons (model : Model σ) (interval : Interval)
    (context : σ) (bit : Bool) (symbols : List (σ × Bool)) :
    interval.advanceAll model ((context, bit) :: symbols) =
      (interval.advance model context bit).advanceAll model symbols := rfl

theorem advanceAll_append (model : Model σ) (interval : Interval)
    (symbols rest : List (σ × Bool)) :
    interval.advanceAll model (symbols ++ rest) =
      (interval.advanceAll model symbols).advanceAll model rest :=
  List.foldl_append

theorem normal_advance (model : Model σ) {interval : Interval}
    (hnormal : model.Normal interval.range) (context : σ) (bit : Bool) :
    model.Normal (interval.advance model context bit).range := by
  cases bit with
  | false => exact model.normal_lower context hnormal
  | true => exact model.normal_upper context hnormal

theorem normal_advanceAll (model : Model σ) {interval : Interval}
    (hnormal : model.Normal interval.range) (symbols : List (σ × Bool)) :
    model.Normal (interval.advanceAll model symbols).range := by
  induction symbols generalizing interval with
  | nil => exact hnormal
  | cons symbol symbols ih =>
      exact ih (normal_advance model hnormal symbol.1 symbol.2)

theorem Contains.of_advance {model : Model σ} {interval : Interval}
    {stream : BitStream} {context : σ} {bit : Bool}
    (hnormal : model.Normal interval.range)
    (h : (interval.advance model context bit).Contains stream) :
    interval.Contains stream :=
  Contains.of_narrow (model.split_lt context hnormal) (contains_scale.mp h)

theorem Contains.of_advanceAll (model : Model σ) {interval : Interval}
    {stream : BitStream} {symbols : List (σ × Bool)}
    (hnormal : model.Normal interval.range)
    (h : (interval.advanceAll model symbols).Contains stream) :
    interval.Contains stream := by
  induction symbols generalizing interval with
  | nil => exact h
  | cons symbol symbols ih =>
      exact Contains.of_advance hnormal
        (ih (normal_advance model hnormal symbol.1 symbol.2) h)

/-- A reader of any stream that stays in the chosen piece reads the bit that
chose it. -/
theorem read_eq {model : Model σ} {interval : Interval} {stream : BitStream}
    {context : σ} {bit : Bool}
    (h : (interval.advance model context bit).Contains stream) :
    interval.read model context stream = bit := by
  obtain ⟨hlow, hhigh⟩ := contains_scale.mp h
  cases bit with
  | false => simpa [read, narrow] using hhigh
  | true => simpa [read, narrow] using hlow

theorem advance_high_le (model : Model σ) (interval : Interval)
    (hnormal : model.Normal interval.range) (context : σ) (bit : Bool)
    (h : interval.low + interval.range ≤ 2 ^ interval.depth) :
    (interval.advance model context bit).low +
        (interval.advance model context bit).range ≤
      2 ^ (interval.advance model context bit).depth := by
  have hsplit := model.split_lt context hnormal
  have hpiece :
      (interval.narrow (model.split interval.range context) bit).low +
          (interval.narrow (model.split interval.range context) bit).range ≤
        2 ^ interval.depth := by
    cases bit <;> simp only [narrow] <;> omega
  simp only [advance, scale, narrow_depth, ← Nat.add_mul, pow_add]
  exact Nat.mul_le_mul_right _ hpiece

end Interval

/-- The number a byte string spells, most significant byte first. -/
def bytesValue (bytes : List UInt8) : Nat :=
  Nat.ofDigits 256 (bytes.reverse.map UInt8.toNat)

@[simp] theorem bytesValue_nil : bytesValue [] = 0 := rfl

theorem bytesValue_concat (bytes : List UInt8) (byte : UInt8) :
    bytesValue (bytes ++ [byte]) = bytesValue bytes * 256 + byte.toNat := by
  simp [bytesValue, Nat.ofDigits_cons]
  omega

theorem bytesValue_append (front back : List UInt8) :
    bytesValue (front ++ back) =
      bytesValue front * 256 ^ back.length + bytesValue back := by
  simp [bytesValue, Nat.ofDigits_append]
  ring

theorem bytesValue_lt (bytes : List UInt8) :
    bytesValue bytes < 256 ^ bytes.length := by
  have h := Nat.ofDigits_lt_base_pow_length (b := 256)
    (l := bytes.reverse.map UInt8.toNat) (by omega) (by
      intro digit hdigit
      obtain ⟨byte, -, rfl⟩ := List.mem_map.mp hdigit
      exact byte.toNat_lt)
  simpa [bytesValue] using h

theorem pow_256 (count : Nat) : 256 ^ count = 2 ^ (8 * count) := by
  rw [pow_mul]
  norm_num

namespace BitStream

def ofBytes (bytes : List UInt8) : BitStream where
  top depth := bytesValue bytes * 2 ^ depth / 2 ^ (8 * bytes.length)
  top_add depth more := by
    rw [Nat.div_div_eq_div_mul, pow_add, ← Nat.mul_assoc,
      Nat.mul_div_mul_right _ _ (Nat.two_pow_pos more)]

theorem top_ofBytes_past (bytes : List UInt8) (more : Nat) :
    (ofBytes bytes).top (8 * bytes.length + more) =
      bytesValue bytes * 2 ^ more := by
  have hpos : 0 < 2 ^ (8 * bytes.length) := Nat.two_pow_pos _
  calc
    bytesValue bytes * 2 ^ (8 * bytes.length + more) /
          2 ^ (8 * bytes.length) =
        2 ^ (8 * bytes.length) * (bytesValue bytes * 2 ^ more) /
          2 ^ (8 * bytes.length) := by rw [pow_add]; ring_nf
    _ = bytesValue bytes * 2 ^ more := Nat.mul_div_cancel_left _ hpos

theorem top_ofBytes_prefix (front back : List UInt8) :
    (ofBytes (front ++ back)).top (8 * front.length) = bytesValue front := by
  have hsplit : 8 * (front ++ back).length =
      8 * front.length + 8 * back.length := by
    rw [List.length_append]
    omega
  have hfull := (ofBytes (front ++ back)).top_add (8 * front.length)
    (8 * back.length)
  have htop := top_ofBytes_past (front ++ back) 0
  rw [← hfull, ← hsplit]
  rw [Nat.add_zero, pow_zero, Nat.mul_one] at htop
  rw [htop, bytesValue_append, pow_256, Nat.add_comm, Nat.mul_comm,
    Nat.add_mul_div_left _ _ (Nat.two_pow_pos _), ← pow_256,
    Nat.div_eq_of_lt (bytesValue_lt back), Nat.zero_add]

theorem top_ofBytes_succ (bytes : List UInt8) (count : Nat) :
    (ofBytes bytes).top (8 * (count + 1)) =
      (ofBytes bytes).top (8 * count) * 256 +
        ((bytes.drop count).head?.elim 0 UInt8.toNat) := by
  by_cases hcount : count < bytes.length
  · have htake : bytes = (bytes.take count ++ [bytes[count]]) ++
        bytes.drop (count + 1) := by
      rw [List.append_assoc, List.singleton_append,
        List.getElem_cons_drop, List.take_append_drop]
    have hlength : (bytes.take count).length = count := by
      rw [List.length_take]
      omega
    have hnext : (ofBytes bytes).top (8 * (count + 1)) =
        bytesValue (bytes.take count ++ [bytes[count]]) := by
      have h := top_ofBytes_prefix (bytes.take count ++ [bytes[count]])
        (bytes.drop (count + 1))
      rwa [← htake, List.length_append, hlength] at h
    have hhere : (ofBytes bytes).top (8 * count) =
        bytesValue (bytes.take count) := by
      have h := top_ofBytes_prefix (bytes.take count) (bytes.drop count)
      rwa [List.take_append_drop, hlength] at h
    rw [hnext, hhere, bytesValue_concat, List.head?_drop,
      List.getElem?_eq_getElem hcount]
    rfl
  · have hdrop : bytes.drop count = [] :=
      List.drop_eq_nil_of_le (by omega)
    obtain ⟨extra, rfl⟩ : ∃ extra, count = bytes.length + extra :=
      ⟨count - bytes.length, by omega⟩
    rw [hdrop, Nat.mul_add, Nat.mul_add 8 bytes.length extra, Nat.add_assoc,
      top_ofBytes_past, top_ofBytes_past, pow_add]
    simp only [List.head?_nil, Option.elim_none, Nat.add_zero]
    ring

end BitStream

end Salsify.IntervalCoding
