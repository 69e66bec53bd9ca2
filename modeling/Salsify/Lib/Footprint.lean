import Mathlib.Data.Set.Basic
import Salsify.Lib.Fallible

namespace Salsify

open Fallible (ok_bind bind_eq_ok)

/-! Fallible operations on a state that is seen through its places: which
places an operation reads, which it writes, and what follows for operations
that are done one after another. -/

namespace Fallible

variable {ε α β : Type}

def outcome (result : Except ε α) : Except ε Unit :=
  result >>= fun _ => .ok ()

@[simp] theorem outcome_ok (value : α) :
    outcome (.ok value : Except ε α) = .ok () := rfl

@[simp] theorem outcome_error (failure : ε) :
    outcome (.error failure : Except ε α) = .error failure := rfl

theorem outcome_bind {first : Except ε α} {next : α → Except ε β}
    {after : Except ε Unit}
    (hnext : ∀ value, first = .ok value → outcome (next value) = after) :
    outcome (first >>= next) = outcome first >>= fun _ => after := by
  cases first with
  | error failure => rfl
  | ok value => exact hnext value rfl

theorem bind_ok_unit (result : Except ε Unit) :
    (result >>= fun _ => .ok ()) = result := by
  cases result <;> rfl

theorem foldlM_flatMap {σ : Type} {step : σ → β → Except ε σ}
    {f : α → List β} (items : List α) (state : σ) :
    (items.flatMap f).foldlM step state =
      items.foldlM (fun state item => (f item).foldlM step state) state := by
  induction items generalizing state with
  | nil => rfl
  | cons item items ih =>
      rw [List.flatMap_cons, List.foldlM_append, List.foldlM_cons]
      exact congrArg _ (funext fun next => ih next)

theorem outcome_foldlM {σ : Type} {step : σ → α → Except ε σ}
    {outcomes : α → Except ε Unit} {items : List α}
    (hstep : ∀ state, ∀ item ∈ items,
      outcome (step state item) = outcomes item) (state : σ) :
    outcome (items.foldlM step state) = items.forM outcomes := by
  induction items generalizing state with
  | nil => rfl
  | cons item items ih =>
      have hrest := fun next (_ : step state item = .ok next) =>
        ih (fun state other hother =>
          hstep state other (List.mem_cons_of_mem item hother)) next
      rw [List.foldlM_cons, outcome_bind hrest,
        hstep state item List.mem_cons_self]
      rfl

theorem ok_of_forM_eq_ok {f : α → Except ε Unit} {items : List α}
    (h : items.forM f = .ok ()) : ∀ item ∈ items, f item = .ok () := by
  induction items with
  | nil => exact fun item hitem => absurd hitem List.not_mem_nil
  | cons item items ih =>
      obtain ⟨done, hfirst, hrest⟩ := bind_eq_ok h
      intro other hother
      rcases List.mem_cons.mp hother with rfl | hother
      · exact hfirst
      · exact ih hrest other hother

theorem exists_of_outcome_ok {result : Except ε α}
    (h : outcome result = .ok ()) : ∃ value, result = .ok value := by
  cases result with
  | error failure => cases h
  | ok value => exact ⟨value, rfl⟩

theorem error_of_outcome_error {result : Except ε α} {failure : ε}
    (h : outcome result = .error failure) : result = .error failure := by
  cases result with
  | error found =>
      cases h
      rfl
  | ok value => cases h

def SameValue (one other : Except ε α) : Prop :=
  ∃ value, one = .ok value ∧ other = .ok value

namespace SameValue

variable {one other : Except ε α}

theorem of_return (value : α) :
    SameValue (pure value : Except ε α) (pure value) :=
  ⟨value, rfl, rfl⟩

theorem bind {next nextOther : α → Except ε β} (h : SameValue one other)
    (hnext : ∀ value, SameValue (next value) (nextOther value)) :
    SameValue (one >>= next) (other >>= nextOther) := by
  obtain ⟨value, rfl, rfl⟩ := h
  exact hnext value

theorem mapM {f g : α → Except ε β} {items : List α}
    (h : ∀ item ∈ items, SameValue (f item) (g item)) :
    SameValue (items.mapM f) (items.mapM g) := by
  induction items with
  | nil => exact of_return []
  | cons item items ih =>
      rw [List.mapM_cons, List.mapM_cons]
      refine (h item List.mem_cons_self).bind fun value => ?_
      refine (ih fun other hother =>
        h other (List.mem_cons_of_mem item hother)).bind fun values => ?_
      exact of_return (value :: values)

theorem eq (h : SameValue one other) : one = other := by
  obtain ⟨value, rfl, rfl⟩ := h
  rfl

end SameValue

end Fallible

variable {ε σ π ν α : Type}

theorem not_sublist_of_mem_front {front rest : List α} {item other : α}
    (hnodup : (front ++ item :: rest).Nodup) (hother : other ∈ front) :
    ¬ [item, other].Sublist (front ++ item :: rest) := by
  intro h
  have hdisjoint := (List.nodup_append.mp hnodup).2.2
  obtain ⟨first, second, heq, hfirst, hsecond⟩ := List.sublist_append_iff.mp h
  cases first with
  | nil =>
      rw [List.nil_append] at heq
      subst heq
      exact hdisjoint other hother other
        (hsecond.subset (List.mem_cons_of_mem _ List.mem_cons_self)) rfl
  | cons head tail =>
      obtain ⟨rfl, -⟩ := List.cons.inj heq
      exact hdisjoint item (hfirst.subset List.mem_cons_self) item
        List.mem_cons_self rfl

theorem pair_sublist_swap {before after : List α} {first second item other : α}
    (h : [item, other].Sublist (before ++ first :: second :: after)) :
    (item = first ∧ other = second) ∨
      [item, other].Sublist (before ++ second :: first :: after) := by
  induction before with
  | nil =>
      cases h with
      | cons _ h =>
          refine .inr ?_
          cases h with
          | cons _ h => exact (h.cons first).cons second
          | cons_cons _ h => exact (h.cons first).cons_cons second
      | cons_cons _ h =>
          cases h with
          | cons _ h => exact .inr ((h.cons_cons first).cons second)
          | cons_cons _ _ => exact .inl ⟨rfl, rfl⟩
  | cons head before ih =>
      cases h with
      | cons _ h => exact (ih h).imp id fun hswapped => hswapped.cons head
      | cons_cons _ h =>
          have hmem : other ∈ before ++ first :: second :: after :=
            List.singleton_sublist.mp h
          have hswapped : other ∈ before ++ second :: first :: after := by
            simp only [List.mem_append, List.mem_cons] at hmem ⊢
            tauto
          exact .inr (.cons_cons item (List.singleton_sublist.mpr hswapped))

def AgreeOn (read : σ → π → ν) (places : Set π) (one other : σ) : Prop :=
  ∀ place ∈ places, read one place = read other place

/-- An operation whose outcome is the same in every state. It leaves what it
does not write, and what it writes depends on nothing but what it reads. -/
structure Footprint (read : σ → π → ν) (operation : σ → Except ε σ)
    (outcome : Except ε Unit) (reads writes : Set π) : Prop where
  outcome_eq : ∀ state, Fallible.outcome (operation state) = outcome
  kept : ∀ {state next}, operation state = .ok next →
    ∀ place, place ∉ writes → read next place = read state place
  determined : ∀ {one other next nextOther}, AgreeOn read reads one other →
    operation one = .ok next → operation other = .ok nextOther →
    AgreeOn read writes next nextOther

namespace Footprint

variable {read : σ → π → ν} {operation first second : σ → Except ε σ}
  {outcome firstOutcome secondOutcome : Except ε Unit}
  {reads writes more firstWrites secondWrites : Set π}

theorem nothing : Footprint read (fun state => (.ok state : Except ε σ)) (.ok ())
    reads ∅ where
  outcome_eq _ := rfl
  kept h place _ := by
    cases h
    rfl
  determined _ _ _ place hplace := absurd hplace (Set.notMem_empty place)

theorem failing (failure : ε) : Footprint read
    (fun _ => (.error failure : Except ε σ)) (.error failure) reads writes where
  outcome_eq _ := rfl
  kept h := by cases h
  determined _ h := by cases h

theorem mono (h : Footprint read operation outcome reads writes)
    (hreads : reads ⊆ more) :
    Footprint read operation outcome more writes where
  outcome_eq := h.outcome_eq
  kept := h.kept
  determined hagree :=
    h.determined fun place hplace => hagree place (hreads hplace)

theorem widen (h : Footprint read operation outcome reads writes)
    (hwrites : writes ⊆ more) (hmore : more ⊆ reads ∪ writes) :
    Footprint read operation outcome reads more where
  outcome_eq := h.outcome_eq
  kept hrun place hplace := h.kept hrun place fun hwritten =>
    hplace (hwrites hwritten)
  determined {one other next nextOther} hagree hone hother place hplace := by
    by_cases hwritten : place ∈ writes
    · exact h.determined hagree hone hother place hwritten
    · have hread : place ∈ reads := (hmore hplace).resolve_right hwritten
      rw [h.kept hone place hwritten, h.kept hother place hwritten]
      exact hagree place hread

/-- What agrees before an operation agrees after it, and so does what the
operation has written. -/
theorem agree (h : Footprint read operation outcome reads writes)
    {one other next nextOther : σ} (hagree : AgreeOn read reads one other)
    (hone : operation one = .ok next) (hother : operation other = .ok nextOther) :
    AgreeOn read (reads ∪ writes) next nextOther := by
  intro place hplace
  by_cases hwritten : place ∈ writes
  · exact h.determined hagree hone hother place hwritten
  · rw [h.kept hone place hwritten, h.kept hother place hwritten]
    exact hagree place (hplace.resolve_right hwritten)

theorem bind (hfirst : Footprint read first firstOutcome reads firstWrites)
    (hsecond : Footprint read second secondOutcome (reads ∪ firstWrites)
      secondWrites) :
    Footprint read (fun state => first state >>= second)
      (firstOutcome >>= fun _ => secondOutcome) reads
      (firstWrites ∪ secondWrites) where
  outcome_eq state := by
    rw [← hfirst.outcome_eq state]
    exact Fallible.outcome_bind fun middle _ => hsecond.outcome_eq middle
  kept hrun place hplace := by
    obtain ⟨middle, hmiddle, hnext⟩ := bind_eq_ok hrun
    rw [hsecond.kept hnext place fun h => hplace (.inr h),
      hfirst.kept hmiddle place fun h => hplace (.inl h)]
  determined hagree hone hother place hplace := by
    obtain ⟨middle, hmiddle, hnext⟩ := bind_eq_ok hone
    obtain ⟨middleOther, hmiddleOther, hnextOther⟩ := bind_eq_ok hother
    have hmiddles := hfirst.agree hagree hmiddle hmiddleOther
    exact hsecond.agree hmiddles hnext hnextOther place
      (hplace.imp_left Or.inr)

theorem congr (h : Footprint read operation outcome reads writes)
    {same : σ → Except ε σ} (hsame : ∀ state, same state = operation state) :
    Footprint read same outcome reads writes := by
  obtain rfl : same = operation := funext hsame
  exact h

theorem of_outcome_eq {same : Except ε Unit}
    (h : Footprint read operation outcome reads writes)
    (hsame : outcome = same) : Footprint read operation same reads writes :=
  hsame ▸ h

/-- Operations in the order of a list, each of which may read what those before
it have written. -/
theorem foldlM {step : σ → α → Except ε σ} {outcomes : α → Except ε Unit}
    (items : List α) (writesOf : α → Set π)
    (hstep : ∀ front item rest, items = front ++ item :: rest →
      Footprint read (fun state => step state item) (outcomes item)
        (reads ∪ {place | ∃ other ∈ front, place ∈ writesOf other})
        (writesOf item)) :
    Footprint read (fun state => items.foldlM step state)
      (items.forM outcomes) reads
      {place | ∃ item ∈ items, place ∈ writesOf item} := by
  induction items generalizing reads with
  | nil =>
      have hnone : {place | ∃ item ∈ ([] : List α), place ∈ writesOf item} =
          (∅ : Set π) := by
        ext place
        simp
      rw [hnone]
      exact nothing
  | cons item items ih =>
      have hfirst : Footprint read (fun state => step state item)
          (outcomes item) reads (writesOf item) :=
        (hstep [] item items rfl).mono (by
          rintro place (hread | ⟨other, hother, -⟩)
          · exact hread
          · cases hother)
      have hrest : Footprint read (fun state => items.foldlM step state)
          (items.forM outcomes) (reads ∪ writesOf item)
          {place | ∃ other ∈ items, place ∈ writesOf other} := by
        refine ih fun front other rest hsplit => ?_
        refine (hstep (item :: front) other rest
          (congrArg (List.cons item) hsplit)).mono ?_
        rintro place (hread | ⟨written, hwritten, hplace⟩)
        · exact .inl (.inl hread)
        · rcases List.mem_cons.mp hwritten with rfl | hwritten
          · exact .inl (.inr hplace)
          · exact .inr ⟨written, hwritten, hplace⟩
      have hwrites : {place | ∃ other ∈ item :: items, place ∈ writesOf other} =
          writesOf item ∪ {place | ∃ other ∈ items, place ∈ writesOf other} := by
        ext place
        simp
      rw [hwrites]
      exact (hfirst.bind hrest).congr fun state => List.foldlM_cons

theorem andThen (hfirst : Footprint read first (.ok ()) reads writes)
    (hsecond : Footprint read second (.ok ()) reads writes) :
    Footprint read (fun state => first state >>= second) (.ok ()) reads writes :=
  ((hfirst.bind (hsecond.mono Set.subset_union_left)).of_outcome_eq rfl).widen
    (Set.union_self writes).subset fun _ hplace => .inr (.inl hplace)

theorem foldlM_within (hwrites : writes ⊆ reads)
    {step : σ → α → Except ε σ} {items : List α}
    (hstep : ∀ item ∈ items, Footprint read (fun state => step state item)
      (.ok ()) reads writes) :
    Footprint read (fun state => items.foldlM step state) (.ok ()) reads
      writes := by
  induction items with
  | nil =>
      exact nothing.widen (Set.empty_subset writes) fun place hplace =>
        .inl (hwrites hplace)
  | cons item items ih =>
      have hrest := ih fun other hother =>
        hstep other (List.mem_cons_of_mem item hother)
      exact ((hstep item List.mem_cons_self).andThen hrest).congr
        fun state => List.foldlM_cons

theorem optional (h : Footprint read operation outcome reads writes)
    (hwrites : writes ⊆ reads) (taken : Bool) :
    Footprint read (fun state => if taken then operation state else .ok state)
      (if taken then outcome else .ok ()) reads writes := by
  cases taken with
  | true => exact h
  | false =>
      exact nothing.widen (Set.empty_subset writes) fun place hplace =>
        .inl (hwrites hplace)

/-- An operation that reads nothing and writes all that can differ gives the same
in all states. -/
theorem eq_of_writes_all (h : Footprint read operation outcome ∅ writes)
    (hwrites : ∀ place, place ∈ writes ∨
      ∀ one other, read one place = read other place)
    (hread : ∀ {one other}, (∀ place, read one place = read other place) →
      one = other) (one other : σ) : operation one = operation other := by
  have hone := h.outcome_eq one
  have hother := h.outcome_eq other
  cases outcome with
  | error failure =>
      rw [Fallible.error_of_outcome_error hone,
        Fallible.error_of_outcome_error hother]
  | ok _ =>
      obtain ⟨next, hnext⟩ := Fallible.exists_of_outcome_ok hone
      obtain ⟨nextOther, hnextOther⟩ := Fallible.exists_of_outcome_ok hother
      have hsame : next = nextOther := hread fun place => by
        rcases hwrites place with hplace | hplace
        · exact h.determined (fun other hother =>
            absurd hother (Set.notMem_empty other)) hnext hnextOther place hplace
        · exact hplace next nextOther
      rw [hnext, hnextOther, hsame]

/-- What is got from the state first, and decides what is done next, depends only
on what is read. -/
theorem of_get {β : Type} {get : σ → Except ε β} {next : β → σ → Except ε σ}
    (hget : ∀ {one other}, AgreeOn read reads one other →
      Fallible.SameValue (get one) (get other))
    (hnext : ∀ value, Footprint read (next value) outcome reads writes) :
    Footprint read (fun state => get state >>= fun value => next value state)
      outcome reads writes where
  outcome_eq state := by
    obtain ⟨value, hvalue, -⟩ :=
      hget (fun _ _ => rfl : AgreeOn read reads state state)
    rw [hvalue]
    exact (hnext value).outcome_eq state
  kept hrun place hplace := by
    obtain ⟨value, -, hrun⟩ := bind_eq_ok hrun
    exact (hnext value).kept hrun place hplace
  determined hagree hone hother := by
    obtain ⟨value, hvalue, hvalueOther⟩ := hget hagree
    rw [hvalue] at hone
    rw [hvalueOther] at hother
    exact (hnext value).determined hagree hone hother

structure Apart (reads writes otherReads otherWrites : Set π) : Prop where
  first : ∀ place ∈ writes, place ∉ otherReads ∧ place ∉ otherWrites
  second : ∀ place ∈ otherWrites, place ∉ reads

theorem Apart.symm {otherReads otherWrites : Set π}
    (h : Apart reads writes otherReads otherWrites) :
    Apart otherReads otherWrites reads writes where
  first place hplace :=
    ⟨h.second place hplace, fun hwritten => (h.first place hwritten).2 hplace⟩
  second place hplace := (h.first place hplace).1

theorem commute {otherReads otherWrites : Set π}
    (hfirst : Footprint read first (.ok ()) reads writes)
    (hsecond : Footprint read second (.ok ()) otherReads otherWrites)
    (hapart : Apart reads writes otherReads otherWrites)
    (hread : ∀ {one other}, (∀ place, read one place = read other place) →
      one = other) (state : σ) :
    (first state >>= second) = (second state >>= first) := by
  obtain ⟨one, hone⟩ := Fallible.exists_of_outcome_ok (hfirst.outcome_eq state)
  obtain ⟨other, hother⟩ :=
    Fallible.exists_of_outcome_ok (hsecond.outcome_eq state)
  obtain ⟨last, hlast⟩ := Fallible.exists_of_outcome_ok (hsecond.outcome_eq one)
  obtain ⟨lastOther, hlastOther⟩ :=
    Fallible.exists_of_outcome_ok (hfirst.outcome_eq other)
  rw [hone, hother, ok_bind, ok_bind, hlast, hlastOther]
  refine congrArg Except.ok (hread fun place => ?_)
  by_cases hwritten : place ∈ writes
  · have hagree : AgreeOn read reads state other := fun place hplace =>
      (hsecond.kept hother place fun h => hapart.second place h hplace).symm
    rw [hsecond.kept hlast place (hapart.first place hwritten).2]
    exact hfirst.determined hagree hone hlastOther place hwritten
  · rw [hfirst.kept hlastOther place hwritten]
    by_cases hwrittenOther : place ∈ otherWrites
    · have hagree : AgreeOn read otherReads one state := fun place hplace =>
        hfirst.kept hone place fun h => (hapart.first place h).1 hplace
      exact hsecond.determined hagree hlast hother place hwrittenOther
    · rw [hsecond.kept hlast place hwrittenOther,
        hsecond.kept hother place hwrittenOther,
        hfirst.kept hone place hwritten]

theorem foldlM_move {step : σ → α → Except ε σ} {readsOf writesOf : α → Set π}
    {item : α} {front rest : List α}
    (hstep : ∀ other ∈ front ++ item :: rest, Footprint read
      (fun state => step state other) (.ok ()) (readsOf other) (writesOf other))
    (hapart : ∀ other ∈ front, Apart (readsOf item) (writesOf item)
      (readsOf other) (writesOf other))
    (hread : ∀ {one other}, (∀ place, read one place = read other place) →
      one = other) (state : σ) :
    (front ++ item :: rest).foldlM step state =
      (item :: (front ++ rest)).foldlM step state := by
  induction front generalizing state with
  | nil => rfl
  | cons first front ih =>
      have hcommute := commute (hstep first List.mem_cons_self)
        (hstep item (List.mem_append_right _ List.mem_cons_self))
        (hapart first List.mem_cons_self).symm hread state
      calc
        (first :: front ++ item :: rest).foldlM step state
          = step state first >>= fun next =>
              (front ++ item :: rest).foldlM step next := List.foldlM_cons
        _ = step state first >>= fun next =>
              (item :: (front ++ rest)).foldlM step next := by
            refine congrArg _ (funext fun next => ih ?_ ?_ next)
            · exact fun other hother =>
                hstep other (List.mem_cons_of_mem first hother)
            · exact fun other hother =>
                hapart other (List.mem_cons_of_mem first hother)
        _ = (step state first >>= fun next => step next item) >>= fun next =>
              (front ++ rest).foldlM step next := by
            simp only [List.foldlM_cons, bind_assoc]
        _ = (step state item >>= fun next => step next first) >>= fun next =>
              (front ++ rest).foldlM step next :=
            congrArg (· >>= fun next => (front ++ rest).foldlM step next)
              hcommute
        _ = (item :: (first :: front ++ rest)).foldlM step state := by
            rw [bind_assoc]
            simp only [List.cons_append, List.foldlM_cons]

/-- Operations may be done in any order that keeps the order of those that are
not apart. -/
theorem foldlM_reorder {step : σ → α → Except ε σ}
    {readsOf writesOf : α → Set π} {items others : List α}
    (hperm : items.Perm others) (hnodup : items.Nodup)
    (hstep : ∀ item ∈ items, Footprint read (fun state => step state item)
      (.ok ()) (readsOf item) (writesOf item))
    (horder : ∀ one other, [one, other].Sublist items →
      Apart (readsOf one) (writesOf one) (readsOf other) (writesOf other) ∨
        [one, other].Sublist others)
    (hread : ∀ {one other}, (∀ place, read one place = read other place) →
      one = other) (state : σ) :
    items.foldlM step state = others.foldlM step state := by
  classical
  induction items generalizing others state with
  | nil => rw [hperm.nil_eq]
  | cons item items ih =>
      obtain ⟨front, rest, rfl⟩ :=
        List.append_of_mem (hperm.mem_iff.mp List.mem_cons_self)
      have hnodupOthers := hperm.nodup_iff.mp hnodup
      have hrest : items.Perm (front ++ rest) :=
        (List.perm_cons item).mp (hperm.trans List.perm_middle)
      have hnot : item ∉ front ++ rest := fun hmem =>
        (List.nodup_cons.mp hnodup).1 (hrest.mem_iff.mpr hmem)
      have hapart : ∀ other ∈ front, Apart (readsOf item) (writesOf item)
          (readsOf other) (writesOf other) := by
        intro other hother
        have hmem : other ∈ items :=
          hrest.mem_iff.mpr (List.mem_append_left rest hother)
        have hbefore : [item, other].Sublist (item :: items) :=
          (List.singleton_sublist.mpr hmem).cons_cons item
        refine (horder item other hbefore).resolve_right fun hafter => ?_
        exact not_sublist_of_mem_front hnodupOthers hother hafter
      rw [foldlM_move (fun other hother => hstep other (hperm.mem_iff.mpr hother))
        hapart hread, List.foldlM_cons, List.foldlM_cons]
      refine congrArg _ (funext fun next => ?_)
      refine ih hrest (List.nodup_cons.mp hnodup).2
        (fun other hother => hstep other (List.mem_cons_of_mem item hother))
        (fun one other hbefore => ?_) next
      refine (horder one other (hbefore.cons item)).imp_right fun hafter => ?_
      have hone : one ≠ item := by
        rintro rfl
        exact (List.nodup_cons.mp hnodup).1
          (hbefore.subset List.mem_cons_self)
      have hother : other ≠ item := by
        rintro rfl
        exact (List.nodup_cons.mp hnodup).1
          (hbefore.subset (List.mem_cons_of_mem _ List.mem_cons_self))
      have herase := hafter.erase item
      rwa [List.erase_of_not_mem (by simp [hone.symm, hother.symm]),
        List.erase_append_right _ fun hmem =>
          hnot (List.mem_append_left rest hmem), List.erase_cons_head] at herase

end Footprint

theorem mem_front_of_sorted {R : α → α → Prop} {front rest : List α}
    {item other : α} (hsorted : (front ++ item :: rest).Pairwise R)
    (hmem : other ∈ front ++ item :: rest) (hne : other ≠ item)
    (hnot : ¬ R item other) : other ∈ front := by
  rcases List.mem_append.mp hmem with hfront | hrest
  · exact hfront
  · rcases List.mem_cons.mp hrest with rfl | hrest
    · exact absurd rfl hne
    · have hafter := (List.pairwise_append.mp hsorted).2.1
      exact absurd (List.rel_of_pairwise_cons hafter hrest) hnot

structure Changes (read : σ → π → ν) (state next : σ) (place : π)
    (change : ν → ν) : Prop where
  changed : read next place = change (read state place)
  kept : ∀ other, other ≠ place → read next other = read state other

theorem succeeds_foldlM_changes {read : σ → π → ν} {step : σ → α → Except ε σ}
    {placeOf : α → π} {change : α → ν → ν} {items : List α} {start : σ}
    (hnodup : (items.map placeOf).Nodup)
    (hstep : ∀ state, ∀ item ∈ items, Fallible.Succeeds (step state item)
      fun next => Changes read state next (placeOf item) (change item)) :
    Fallible.Succeeds (items.foldlM step start) fun last =>
      (∀ item ∈ items,
        read last (placeOf item) = change item (read start (placeOf item))) ∧
      ∀ place, place ∉ items.map placeOf → read last place = read start place := by
  induction items generalizing start with
  | nil =>
      exact Fallible.succeeds_pure
        ⟨fun _ h => absurd h List.not_mem_nil, fun _ _ => rfl⟩
  | cons item items ih =>
      rw [List.map_cons, List.nodup_cons] at hnodup
      rw [List.foldlM_cons]
      apply (hstep start item List.mem_cons_self).bind
      intro middle hmiddle
      apply (ih hnodup.2 fun state other hother =>
        hstep state other (List.mem_cons_of_mem item hother)).mono
      rintro last ⟨hchanged, hkept⟩
      constructor
      · intro other hother
        rcases List.mem_cons.mp hother with rfl | hother
        · rw [hkept (placeOf other) hnodup.1]
          exact hmiddle.changed
        · have hne : placeOf other ≠ placeOf item := fun h =>
            hnodup.1 (h ▸ List.mem_map_of_mem hother)
          rw [hchanged other hother, hmiddle.kept _ hne]
      · intro place hplace
        rw [List.map_cons, List.mem_cons, not_or] at hplace
        rw [hkept place hplace.2, hmiddle.kept place hplace.1]

end Salsify
