import Mathlib.Algebra.BigOperators.Group.List.Basic
import Mathlib.Data.List.Nodup
import Mathlib.Data.List.OfFn
import Mathlib.Data.List.Range

namespace Salsify

/-! Grids of a fixed size, read and written by column and row. -/

abbrev Grid (α : Type) (width height : Nat) := Fin width → Fin height → α

namespace Grid

variable {α : Type} {width height : Nat}

def get? (grid : Grid α width height) (place : Nat × Nat) : Option α :=
  if h : place.1 < width ∧ place.2 < height then
    some (grid ⟨place.1, h.1⟩ ⟨place.2, h.2⟩)
  else
    none

def set (grid : Grid α width height) (place : Nat × Nat) (value : α) :
    Grid α width height :=
  fun column row =>
    if column.val = place.1 ∧ row.val = place.2 then value else grid column row

def places (width height : Nat) : List (Nat × Nat) :=
  (List.range height).flatMap fun row =>
    (List.range width).map fun column => (column, row)

theorem get?_of_lt (grid : Grid α width height) {column row : Nat}
    (hcolumn : column < width) (hrow : row < height) :
    grid.get? (column, row) = some (grid ⟨column, hcolumn⟩ ⟨row, hrow⟩) :=
  dif_pos ⟨hcolumn, hrow⟩

theorem get?_set_self (grid : Grid α width height) {place : Nat × Nat}
    (hplace : place.1 < width ∧ place.2 < height) (value : α) :
    (grid.set place value).get? place = some value := by
  rw [get?, dif_pos hplace, set]
  exact congrArg some (if_pos ⟨rfl, rfl⟩)

theorem get?_set_of_ne (grid : Grid α width height) {place other : Nat × Nat}
    (hne : other ≠ place) (value : α) :
    (grid.set place value).get? other = grid.get? other := by
  unfold get? set
  split
  · have hother : ¬ (other.1 = place.1 ∧ other.2 = place.2) :=
      fun h => hne (Prod.ext h.1 h.2)
    simp only [hother, if_false]
  · rfl

theorem set_of_get?_eq {grid : Grid α width height} {place : Nat × Nat}
    {value : α} (h : grid.get? place = some value) :
    grid.set place value = grid := by
  funext column row
  unfold set
  split
  · next hplace =>
      obtain rfl : place = (column.val, row.val) :=
        Prod.ext hplace.1.symm hplace.2.symm
      have hread := grid.get?_of_lt column.isLt row.isLt
      exact Option.some.inj (h.symm.trans hread)
  · rfl

theorem mem_places {place : Nat × Nat} :
    place ∈ places width height ↔ place.1 < width ∧ place.2 < height := by
  obtain ⟨column, row⟩ := place
  simp [places, and_comm]

theorem places_nodup : (places width height).Nodup := by
  refine List.nodup_flatMap.mpr ⟨fun row _ =>
    List.nodup_range.map fun one other h => congrArg Prod.fst h, ?_⟩
  refine List.nodup_range.imp fun hne => ?_
  rintro place hone hother
  obtain ⟨_, -, rfl⟩ := List.mem_map.mp hone
  obtain ⟨_, -, heq⟩ := List.mem_map.mp hother
  exact hne (congrArg Prod.snd heq).symm

theorem places_eq_map (width height : Nat) :
    places width height = (List.range (width * height)).map
      fun index => (index % width, index / width) := by
  induction height with
  | zero => rfl
  | succ height ih =>
      have hsplit : places width (height + 1) = places width height ++
          (List.range width).map fun column => (column, height) := by
        simp [places, List.range_succ]
      rw [hsplit, ih, Nat.mul_succ, List.range_add, List.map_append,
        List.map_map]
      refine congrArg _ (List.map_congr_left fun column hcolumn => ?_)
      have hlt := List.mem_range.mp hcolumn
      have hmod : (width * height + column) % width = column := by
        rw [Nat.mul_comm, Nat.mul_add_mod_of_lt hlt]
      have hdiv : (width * height + column) / width = height := by
        rw [Nat.mul_add_div (Nat.zero_lt_of_lt hlt), Nat.div_eq_of_lt hlt,
          Nat.add_zero]
      exact Prod.ext hmod.symm hdiv.symm

def Before (place other : Nat × Nat) : Prop :=
  place.2 < other.2 ∨ place.2 = other.2 ∧ place.1 < other.1

theorem places_sorted (width height : Nat) :
    (places width height).Pairwise Before := by
  rw [places_eq_map, List.pairwise_map]
  refine (List.pairwise_lt_range (n := width * height)).imp fun {i j} hlt => ?_
  have hle : i / width ≤ j / width := Nat.div_le_div_right (Nat.le_of_lt hlt)
  rcases Nat.lt_or_eq_of_le hle with hrow | hrow
  · exact .inl hrow
  · have hi := Nat.div_add_mod i width
    have hj := Nat.div_add_mod j width
    rw [hrow] at hi
    exact .inr ⟨hrow, by dsimp only; omega⟩

theorem getElem?_places {index : Nat} {place : Nat × Nat}
    (h : (places width height)[index]? = some place) :
    place = (index % width, index / width) := by
  rw [places_eq_map, List.getElem?_map] at h
  obtain ⟨found, hfound, rfl⟩ := Option.map_eq_some_iff.mp h
  obtain ⟨_, hindex⟩ := List.getElem?_eq_some_iff.mp hfound
  rw [← hindex, List.getElem_range]

theorem index_lt {column row : Nat} (hcolumn : column < width)
    (hrow : row < height) : row * width + column < width * height := by
  calc row * width + column < row * width + width :=
        Nat.add_lt_add_left hcolumn _
    _ = (row + 1) * width := (Nat.succ_mul row width).symm
    _ ≤ height * width := Nat.mul_le_mul_right width hrow
    _ = width * height := Nat.mul_comm height width

theorem getElem?_flatMap_range {value : Nat → Nat → α} {column row : Nat}
    (hcolumn : column < width) (hrow : row < height) :
    ((List.range height).flatMap fun row =>
      (List.range width).map fun column => value column row)[
        row * width + column]? = some (value column row) := by
  have hplaces : ((List.range height).flatMap fun row =>
      (List.range width).map fun column => value column row) =
      (places width height).map fun place => value place.1 place.2 := by
    rw [places, List.map_flatMap]
    simp only [List.map_map, Function.comp_def]
  have hdiv : (row * width + column) / width = row := by
    rw [Nat.mul_comm, Nat.mul_add_div (Nat.zero_lt_of_lt hcolumn),
      Nat.div_eq_of_lt hcolumn, Nat.add_zero]
  rw [hplaces, places_eq_map, List.getElem?_map, List.getElem?_map,
    List.getElem?_range (index_lt hcolumn hrow), Option.map_some,
    Option.map_some, hdiv, Nat.mul_add_mod_of_lt hcolumn]

theorem flatten_ofFn_inj {count length : Nat} {one other : Fin count → List α}
    (hone : ∀ i, (one i).length = length)
    (hother : ∀ i, (other i).length = length) :
    (List.ofFn one).flatten = (List.ofFn other).flatten ↔ one = other := by
  refine ⟨fun h => ?_, fun h => by rw [h]⟩
  induction count with
  | zero => exact funext fun i => i.elim0
  | succ count ih =>
      rw [List.ofFn_succ, List.ofFn_succ, List.flatten_cons,
        List.flatten_cons] at h
      obtain ⟨hfirst, hrest⟩ := List.append_inj h (by rw [hone, hother])
      have htail := ih (fun i => hone i.succ) (fun i => hother i.succ) hrest
      funext i
      induction i using Fin.cases with
      | zero => exact hfirst
      | succ i => exact congrFun htail i

theorem length_flatten_ofFn {count length : Nat} {blocks : Fin count → List α}
    (h : ∀ i, (blocks i).length = length) :
    (List.ofFn blocks).flatten.length = count * length := by
  rw [List.length_flatten, List.map_ofFn]
  simp [Function.comp_def, h]

def toList (grid : Grid α width height) : List α :=
  (List.ofFn fun row => List.ofFn fun column => grid column row).flatten

theorem toList_length (grid : Grid α width height) :
    grid.toList.length = height * width :=
  length_flatten_ofFn fun _ => List.length_ofFn

theorem toList_inj {grid other : Grid α width height} :
    grid.toList = other.toList ↔ grid = other := by
  rw [toList, toList, flatten_ofFn_inj (fun _ => List.length_ofFn)
    (fun _ => List.length_ofFn)]
  constructor
  · intro h
    funext column row
    exact congrFun (List.ofFn_injective (congrFun h row)) column
  · intro h
    rw [h]

def overwrite (grid : Grid α width height) :
    List ((Nat × Nat) × Option α) → Grid α width height
  | [] => grid
  | (_, none) :: rest => grid.overwrite rest
  | (place, some value) :: rest => (grid.set place value).overwrite rest

theorem overwrite_all {Holds : α → Prop} {grid : Grid α width height}
    {writes : List ((Nat × Nat) × Option α)}
    (hgrid : ∀ column row, Holds (grid column row))
    (hwrites : ∀ write ∈ writes, ∀ value, write.2 = some value → Holds value)
    (column : Fin width) (row : Fin height) :
    Holds (grid.overwrite writes column row) := by
  induction writes generalizing grid with
  | nil => exact hgrid column row
  | cons write rest ih =>
      obtain ⟨place, value⟩ := write
      have hrest := fun other hother =>
        hwrites other (List.mem_cons_of_mem _ hother)
      cases value with
      | none => exact ih hgrid hrest
      | some value =>
          refine ih (fun i j => ?_) hrest
          unfold set
          split
          · exact hwrites _ List.mem_cons_self value rfl
          · exact hgrid i j

theorem get?_overwrite_of_not_mem {grid : Grid α width height}
    {writes : List ((Nat × Nat) × Option α)} {place : Nat × Nat}
    (h : place ∉ writes.map Prod.fst) :
    (grid.overwrite writes).get? place = grid.get? place := by
  induction writes generalizing grid with
  | nil => rfl
  | cons write rest ih =>
      obtain ⟨written, value⟩ := write
      rw [List.map_cons, List.mem_cons, not_or] at h
      cases value with
      | none => exact ih h.2
      | some value =>
          rw [overwrite, ih h.2]
          exact grid.get?_set_of_ne h.1 value

theorem get?_overwrite_of_mem {grid : Grid α width height}
    {writes : List ((Nat × Nat) × Option α)} {place : Nat × Nat} {value : α}
    (hnodup : (writes.map Prod.fst).Nodup)
    (hplace : place.1 < width ∧ place.2 < height)
    (hmem : (place, some value) ∈ writes) :
    (grid.overwrite writes).get? place = some value := by
  induction writes generalizing grid with
  | nil => cases hmem
  | cons write rest ih =>
      rw [List.map_cons, List.nodup_cons] at hnodup
      rcases List.mem_cons.mp hmem with rfl | hrest
      · rw [overwrite, get?_overwrite_of_not_mem hnodup.1]
        exact grid.get?_set_self hplace value
      · obtain ⟨written, other⟩ := write
        cases other with
        | none => exact ih hnodup.2 hrest
        | some other => exact ih hnodup.2 hrest

/-- Writes at distinct places of the grid change nothing exactly when each of
them writes what is there. -/
theorem overwrite_eq_self_iff {grid : Grid α width height}
    {writes : List ((Nat × Nat) × Option α)}
    (hnodup : (writes.map Prod.fst).Nodup)
    (hplaces : ∀ write ∈ writes, write.1.1 < width ∧ write.1.2 < height) :
    grid.overwrite writes = grid ↔
      ∀ place value, (place, some value) ∈ writes →
        grid.get? place = some value := by
  constructor
  · intro heq place value hmem
    rw [← heq]
    exact get?_overwrite_of_mem hnodup (hplaces _ hmem) hmem
  · intro hall
    clear hnodup hplaces
    induction writes with
    | nil => rfl
    | cons write rest ih =>
        have hrest := ih fun place value hmem =>
          hall place value (List.mem_cons_of_mem _ hmem)
        obtain ⟨place, value⟩ := write
        cases value with
        | none => exact hrest
        | some value =>
            rw [overwrite, set_of_get?_eq (hall place value List.mem_cons_self)]
            exact hrest

end Grid

end Salsify
