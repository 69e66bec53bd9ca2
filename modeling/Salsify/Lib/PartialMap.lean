import Mathlib.Logic.Function.Basic
import Mathlib.Data.List.Basic

/-! Finite-map operations of a hash table, as functions from keys to optional
values. -/

namespace Salsify

abbrev PartialMap (K V : Type) := K → Option V

namespace PartialMap

variable {K V : Type}

def empty : PartialMap K V := fun _ => none

def Mem (map : PartialMap K V) (key : K) : Prop := (map key).isSome

instance (map : PartialMap K V) (key : K) : Decidable (map.Mem key) :=
  inferInstanceAs (Decidable ((map key).isSome = true))

theorem mem_def {map : PartialMap K V} {key : K} :
    map.Mem key ↔ ∃ value, map key = some value :=
  Option.isSome_iff_exists

theorem not_mem_iff {map : PartialMap K V} {key : K} :
    ¬ map.Mem key ↔ map key = none := by
  simp [Mem]

@[simp] theorem not_mem_empty (key : K) :
    ¬ (empty : PartialMap K V).Mem key := by
  simp [Mem, empty]

variable [DecidableEq K]

/-- Insertion leaves a key that is already there as it is. -/
def insert (map : PartialMap K V) (key : K) (value : V) : PartialMap K V :=
  fun other => if other = key then some ((map key).getD value) else map other

def erase (map : PartialMap K V) (key : K) : PartialMap K V :=
  fun other => if other = key then none else map other

def set (map : PartialMap K V) (key : K) (value : V) : PartialMap K V :=
  fun other => if other = key then some value else map other

@[simp] theorem mem_insert {map : PartialMap K V} {key other : K} {value : V} :
    (map.insert key value).Mem other ↔ other = key ∨ map.Mem other := by
  by_cases h : other = key <;> simp [Mem, insert, h]

@[simp] theorem mem_erase {map : PartialMap K V} {key other : K} :
    (map.erase key).Mem other ↔ other ≠ key ∧ map.Mem other := by
  by_cases h : other = key <;> simp [Mem, erase, h]

@[simp] theorem mem_set {map : PartialMap K V} {key other : K} {value : V} :
    (map.set key value).Mem other ↔ other = key ∨ map.Mem other := by
  by_cases h : other = key <;> simp [Mem, set, h]

theorem insert_eq_some {map : PartialMap K V} {key other : K}
    {value found : V} (h : map.insert key value other = some found) :
    (other = key ∧ found = value) ∨ map other = some found := by
  by_cases hkey : other = key
  · subst other
    cases hold : map key with
    | none => simp_all [insert]
    | some old => simp_all [insert]
  · exact Or.inr (by simpa [insert, hkey] using h)

theorem erase_eq_some {map : PartialMap K V} {key other : K} {found : V}
    (h : map.erase key other = some found) :
    other ≠ key ∧ map other = some found := by
  by_cases hkey : other = key
  · simp [erase, hkey] at h
  · exact ⟨hkey, by simpa [erase, hkey] using h⟩

def eraseAll (map : PartialMap K V) (keys : List K) : PartialMap K V :=
  keys.foldl erase map

@[simp] theorem eraseAll_nil (map : PartialMap K V) :
    map.eraseAll [] = map := rfl

@[simp] theorem eraseAll_cons (map : PartialMap K V) (key : K)
    (keys : List K) :
    map.eraseAll (key :: keys) = (map.erase key).eraseAll keys := rfl

@[simp] theorem mem_eraseAll {map : PartialMap K V} {keys : List K}
    {other : K} :
    (map.eraseAll keys).Mem other ↔ other ∉ keys ∧ map.Mem other := by
  induction keys generalizing map with
  | nil => simp
  | cons key keys ih =>
      rw [eraseAll_cons, ih, mem_erase, List.mem_cons, not_or]
      constructor
      · rintro ⟨hkeys, hkey, hmem⟩
        exact ⟨⟨hkey, hkeys⟩, hmem⟩
      · rintro ⟨⟨hkey, hkeys⟩, hmem⟩
        exact ⟨hkeys, hkey, hmem⟩

theorem eraseAll_eq_some {map : PartialMap K V} {keys : List K} {other : K}
    {found : V} (h : map.eraseAll keys other = some found) :
    map other = some found := by
  induction keys generalizing map with
  | nil => exact h
  | cons key keys ih => exact (erase_eq_some (ih h)).2

end PartialMap

end Salsify
