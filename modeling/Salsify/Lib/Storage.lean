import Mathlib.Data.List.Basic
import Salsify.Lib.Fallible

namespace Salsify.Storage

/-! A storage that is read and written at pointers, which have to be inside. -/

variable {ε α : Type}

def read (failure : ε) (storage : List α) (pointer : Nat) : Except ε α :=
  match storage[pointer]? with
  | some value => .ok value
  | none => .error failure

def readRun (failure : ε) (storage : List α) (pointer count : Nat) :
    Except ε (List α) :=
  if pointer + count ≤ storage.length then
    .ok ((storage.drop pointer).take count)
  else .error failure

def overwrite (storage : List α) (pointer : Nat) (values : List α) : List α :=
  storage.take pointer ++ values ++ storage.drop (pointer + values.length)

theorem read_eq_ok {failure : ε} {storage : List α} {pointer : Nat} {value : α}
    (h : storage[pointer]? = some value) :
    read failure storage pointer = .ok value := by
  rw [read, h]

theorem readRun_eq_ok {failure : ε} {storage : List α} {pointer count : Nat}
    {value : Nat → α} (hfits : pointer + count ≤ storage.length)
    (h : ∀ i, i < count → storage[pointer + i]? = some (value i)) :
    readRun failure storage pointer count =
      .ok ((List.range count).map value) := by
  rw [readRun, if_pos hfits]
  refine congrArg Except.ok (List.ext_getElem? fun i => ?_)
  by_cases hi : i < count
  · rw [List.getElem?_take_of_lt hi, List.getElem?_drop, h i hi,
      List.getElem?_map, List.getElem?_range hi]
    rfl
  · rw [List.getElem?_eq_none, List.getElem?_eq_none]
    · simpa using hi
    · rw [List.length_take]
      omega

theorem overwrite_length {storage : List α} {pointer : Nat} {values : List α}
    (hfits : pointer + values.length ≤ storage.length) :
    (overwrite storage pointer values).length = storage.length := by
  unfold overwrite
  rw [List.length_append, List.length_append, List.length_take,
    List.length_drop]
  omega

theorem overwrite_append {storage : List α} {pointer : Nat}
    {first second : List α} (hfits : pointer ≤ storage.length) :
    overwrite (overwrite storage pointer first) (pointer + first.length)
      second = overwrite storage pointer (first ++ second) := by
  have hpointer : (storage.take pointer).length = pointer :=
    List.length_take_of_le hfits
  have hfront : (storage.take pointer ++ first).length =
      pointer + first.length := by
    rw [List.length_append, hpointer]
  unfold overwrite
  rw [List.take_left' hfront, List.append_assoc _ first second]
  congr 1
  rw [List.drop_append, List.drop_eq_nil_of_le (by omega), List.nil_append,
    List.drop_drop, List.length_append, List.length_append, hpointer]
  congr 1
  omega

theorem getElem?_overwrite_before {storage : List α} {pointer i : Nat}
    {values : List α} (hfits : pointer + values.length ≤ storage.length)
    (hi : i < pointer) :
    (overwrite storage pointer values)[i]? = storage[i]? := by
  have hfront : i < (storage.take pointer).length := by
    rw [List.length_take]
    omega
  unfold overwrite
  rw [List.append_assoc, List.getElem?_append_left hfront,
    List.getElem?_take_of_lt hi]

theorem getElem?_overwrite_inside {storage : List α} {pointer i : Nat}
    {values : List α} (hfits : pointer + values.length ≤ storage.length)
    (hi : i < values.length) :
    (overwrite storage pointer values)[pointer + i]? = values[i]? := by
  have hfront : (storage.take pointer).length = pointer :=
    List.length_take_of_le (Nat.le_of_add_right_le hfits)
  unfold overwrite
  rw [List.append_assoc, List.getElem?_append_right (by omega), hfront,
    Nat.add_sub_cancel_left, List.getElem?_append_left hi]

theorem getElem?_overwrite_after {storage : List α} {pointer i : Nat}
    {values : List α} (hfits : pointer + values.length ≤ storage.length)
    (hi : pointer + values.length ≤ i) :
    (overwrite storage pointer values)[i]? = storage[i]? := by
  have hfront : (storage.take pointer ++ values).length =
      pointer + values.length := by
    rw [List.length_append,
      List.length_take_of_le (Nat.le_of_add_right_le hfits)]
  unfold overwrite
  rw [List.getElem?_append_right (by omega), hfront, List.getElem?_drop]
  congr 1
  omega

end Salsify.Storage
