import Mathlib.Data.List.Nodup
import Mathlib.Data.List.Perm.Basic
import Salsify.Net.Packet

namespace Salsify.Codec.RasterHandles

open Salsify.Net (Failure require require_eq_ok)
open Fallible (bind_eq_ok ok_bind)

/-! The rasters of `decoder/raster_handle.cc`: those that are handed out, those
that wait in the pool, and the hash that each may keep. -/

structure HashCachedRaster (α : Type) where
  displayWidth : Nat
  displayHeight : Nat
  contents : α
  frozenHash : Option UInt64

/-- A pointer to a raster, and whether its `RasterDeleter` knows a pool. -/
structure RasterHolder where
  raster : Nat
  pooled : Bool
  deriving DecidableEq

/-- The rasters by their addresses, of which none is used again for another
raster, the queue of the pool, and the live handles of both kinds. -/
structure State (α : Type) where
  heap : Nat → Option (HashCachedRaster α)
  next : Nat
  unused : List RasterHolder
  mutables : List RasterHolder
  handles : List RasterHolder

variable {α : Type}

namespace State

def start : State α where
  heap := fun _ => none
  next := 0
  unused := []
  mutables := []
  handles := []

def rasterOf (state : State α) (holder : RasterHolder) :
    Except Failure (HashCachedRaster α) :=
  match state.heap holder.raster with
  | some raster => .ok raster
  | none => .error (.undefinedBehaviour "*raster_")

def store (state : State α) (address : Nat) (raster : HashCachedRaster α) :
    State α :=
  { state with heap := Function.update state.heap address (some raster) }

def resetCache (raster : HashCachedRaster α) : HashCachedRaster α :=
  { raster with frozenHash := none }

/-- `RasterDeleter::operator()` -/
def destroy (state : State α) (holder : RasterHolder) : State α :=
  if holder.pooled then
    { state with
      heap := Function.update state.heap holder.raster
        ((state.heap holder.raster).map resetCache)
      unused := state.unused ++ [{ holder with pooled := false }] }
  else
    { state with heap := Function.update state.heap holder.raster none }

def newRaster (state : State α) (displayWidth displayHeight : Nat)
    (fresh : α) : State α × RasterHolder :=
  ({ state with
      heap := Function.update state.heap state.next
        (some { displayWidth, displayHeight, contents := fresh,
                frozenHash := none })
      next := state.next + 1 },
    { raster := state.next, pooled := false })

/-- The raster that `make_raster` takes from the pool or makes. -/
def takeRaster (state : State α) (displayWidth displayHeight : Nat)
    (allowResize : Bool) (fresh : α) :
    Except Failure (State α × RasterHolder) :=
  match state.unused with
  | [] => .ok (state.newRaster displayWidth displayHeight fresh)
  | front :: rest => do
      let raster ← state.rasterOf front
      if raster.displayWidth ≠ displayWidth ∨
          raster.displayHeight ≠ displayHeight then
        if allowResize then
          return ((state.unused.foldl destroy
            { state with unused := [] }).newRaster displayWidth displayHeight
              fresh)
        else
          .error (.unsupported "raster size has changed")
      else
        return ({ state with unused := rest }, front)

def makeRaster (state : State α) (displayWidth displayHeight : Nat)
    (allowResize : Bool) (fresh : α) :
    Except Failure (State α × RasterHolder) := do
  let (made, holder) ← state.takeRaster displayWidth displayHeight allowResize
    fresh
  require (!holder.pooled) (.assertion "not raster_pool_")
  return (made, { holder with pooled := true })

/-- The constructor of a `MutableRasterHandle`. -/
def allocate (state : State α) (displayWidth displayHeight : Nat)
    (allowResize : Bool) (fresh : α) : Except Failure (State α) := do
  let (made, holder) ← state.makeRaster displayWidth displayHeight allowResize
    fresh
  let raster ← made.rasterOf holder
  require raster.frozenHash.isNone (.assertion "not raster_->has_cache()")
  return { made with mutables := made.mutables ++ [holder] }

def handleAt (holders : List RasterHolder) (index : Nat) :
    Except Failure RasterHolder :=
  match holders[index]? with
  | some holder => .ok holder
  | none => .error (.undefinedBehaviour "no such handle")

def write (state : State α) (index : Nat) (contents : α) :
    Except Failure (State α) := do
  let holder ← handleAt state.mutables index
  let raster ← state.rasterOf holder
  return state.store holder.raster { raster with contents }

/-- The constructor of a `RasterHandle` from a mutable one. -/
def freeze (state : State α) (index : Nat) : Except Failure (State α) := do
  let holder ← handleAt state.mutables index
  let raster ← state.rasterOf holder
  require raster.frozenHash.isNone (.assertion "not raster_->has_cache()")
  return { state with
    mutables := state.mutables.eraseIdx index
    handles := state.handles ++ [holder] }

def copy (state : State α) (index : Nat) : Except Failure (State α) := do
  let holder ← handleAt state.handles index
  return { state with handles := state.handles ++ [holder] }

/-- `hash` of a `RasterHandle`. -/
def hash (rawHash : α → UInt64) (state : State α) (index : Nat) :
    Except Failure (UInt64 × State α) := do
  let holder ← handleAt state.handles index
  let raster ← state.rasterOf holder
  match raster.frozenHash with
  | some frozen => return (frozen, state)
  | none =>
      let frozen := rawHash raster.contents
      return (frozen,
        state.store holder.raster { raster with frozenHash := some frozen })

/-- The destructor of a `MutableRasterHandle`. -/
def releaseMutable (state : State α) (index : Nat) :
    Except Failure (State α) := do
  let holder ← handleAt state.mutables index
  return { state with
    mutables := state.mutables.eraseIdx index }.destroy holder

/-- The destructor of a `RasterHandle`, whose raster goes with the last of
them. -/
def release (state : State α) (index : Nat) : Except Failure (State α) := do
  let holder ← handleAt state.handles index
  let left : State α :=
    { state with handles := state.handles.eraseIdx index }
  if left.handles.any (·.raster == holder.raster) then
    return left
  else
    return left.destroy holder

end State

inductive Action (α : Type)
  | allocate (displayWidth displayHeight : Nat) (allowResize : Bool) (fresh : α)
  | write (index : Nat) (contents : α)
  | freeze (index : Nat)
  | copy (index : Nat)
  | hash (index : Nat)
  | releaseMutable (index : Nat)
  | release (index : Nat)

def State.step (rawHash : α → UInt64) (state : State α) :
    Action α → Except Failure (State α)
  | .allocate displayWidth displayHeight allowResize fresh =>
      state.allocate displayWidth displayHeight allowResize fresh
  | .write index contents => state.write index contents
  | .freeze index => state.freeze index
  | .copy index => state.copy index
  | .hash index => (state.hash rawHash index).map Prod.snd
  | .releaseMutable index => state.releaseMutable index
  | .release index => state.release index

/-- An action that fails leaves the state as it was. -/
def run (rawHash : α → UInt64) (actions : List (Action α)) : State α :=
  actions.foldl (fun state action =>
    match state.step rawHash action with
    | .ok next => next
    | .error _ => state) State.start

abbrev Heap (α : Type) := Nat → Option (HashCachedRaster α)

def Uncached (heap : Heap α) (address : Nat) : Prop :=
  ∃ raster, heap address = some raster ∧ raster.frozenHash = none

/-- The cached hash, if there is one, is that of the contents. -/
def Faithful (rawHash : α → UInt64) (heap : Heap α) (address : Nat) : Prop :=
  ∃ raster, heap address = some raster ∧
    ∀ frozen, raster.frozenHash = some frozen →
      frozen = rawHash raster.contents

/-- The rasters that have one owner: those in the pool and those that may be
written. -/
def State.owned (state : State α) : List Nat :=
  (state.unused ++ state.mutables).map RasterHolder.raster

structure State.Sound (rawHash : α → UInt64) (state : State α) : Prop where
  nodup : state.owned.Nodup
  apart : ∀ holder ∈ state.handles, holder.raster ∉ state.owned
  unused : ∀ holder ∈ state.unused,
    holder.pooled = false ∧ Uncached state.heap holder.raster
  mutables : ∀ holder ∈ state.mutables,
    holder.pooled = true ∧ Uncached state.heap holder.raster
  handles : ∀ holder ∈ state.handles,
    holder.pooled = true ∧ Faithful rawHash state.heap holder.raster
  bounded : ∀ address, state.next ≤ address → state.heap address = none

theorem uncached_update {heap : Heap α} {address other : Nat}
    (value : Option (HashCachedRaster α)) (hne : address ≠ other)
    (h : Uncached heap address) :
    Uncached (Function.update heap other value) address := by
  obtain ⟨raster, hraster, hcache⟩ := h
  exact ⟨raster, by rwa [Function.update_of_ne hne], hcache⟩

theorem faithful_update {rawHash : α → UInt64} {heap : Heap α}
    {address other : Nat} (value : Option (HashCachedRaster α))
    (hne : address ≠ other) (h : Faithful rawHash heap address) :
    Faithful rawHash (Function.update heap other value) address := by
  obtain ⟨raster, hraster, hcache⟩ := h
  exact ⟨raster, by rwa [Function.update_of_ne hne], hcache⟩

theorem Uncached.faithful {rawHash : α → UInt64} {heap : Heap α}
    {address : Nat} (h : Uncached heap address) :
    Faithful rawHash heap address := by
  obtain ⟨raster, hraster, hcache⟩ := h
  exact ⟨raster, hraster, fun frozen hfrozen => by
    rw [hcache] at hfrozen
    cases hfrozen⟩

theorem Faithful.ne_none {rawHash : α → UInt64} {heap : Heap α} {address : Nat}
    (h : Faithful rawHash heap address) : heap address ≠ none := by
  obtain ⟨raster, hraster, -⟩ := h
  rw [hraster]
  exact Option.some_ne_none raster

theorem Uncached.ne_none {heap : Heap α} {address : Nat}
    (h : Uncached heap address) : heap address ≠ none := by
  obtain ⟨raster, hraster, -⟩ := h
  rw [hraster]
  exact Option.some_ne_none raster

theorem handleAt_eq_ok {holders : List RasterHolder} {index : Nat}
    {holder : RasterHolder} (h : State.handleAt holders index = .ok holder) :
    holders[index]? = some holder := by
  unfold State.handleAt at h
  cases hread : holders[index]? with
  | none =>
      rw [hread] at h
      cases h
  | some found =>
      rw [hread] at h
      cases h
      rfl

theorem handleAt_bind_error {β : Type} {holders : List RasterHolder}
    {index : Nat} {next : RasterHolder → Except Failure β} {failure : Failure}
    (h : (State.handleAt holders index >>= next) = .error failure)
    (hnext : ∀ holder ∈ holders, next holder ≠ .error failure) :
    failure = .undefinedBehaviour "no such handle" := by
  unfold State.handleAt at h
  cases hread : holders[index]? with
  | none =>
      rw [hread] at h
      cases h
      rfl
  | some holder =>
      rw [hread] at h
      exact absurd h (hnext holder (List.mem_of_getElem? hread))

theorem rasterOf_eq_ok {state : State α} {holder : RasterHolder}
    {raster : HashCachedRaster α} :
    state.rasterOf holder = .ok raster ↔
      state.heap holder.raster = some raster := by
  unfold State.rasterOf
  cases state.heap holder.raster with
  | none => simp
  | some found => simp

theorem eraseIdx_perm {holders : List RasterHolder} {index : Nat}
    {holder : RasterHolder} (h : holders[index]? = some holder) :
    (holder :: holders.eraseIdx index).Perm holders := by
  obtain ⟨hindex, rfl⟩ := List.getElem?_eq_some_iff.mp h
  exact List.getElem_cons_eraseIdx_perm hindex

namespace State

variable {rawHash : α → UInt64} {state next : State α}

theorem sound_start : (start : State α).Sound rawHash where
  nodup := List.nodup_nil
  apart := fun _ hholder => absurd hholder List.not_mem_nil
  unused := fun _ hholder => absurd hholder List.not_mem_nil
  mutables := fun _ hholder => absurd hholder List.not_mem_nil
  handles := fun _ hholder => absurd hholder List.not_mem_nil
  bounded := fun _ _ => rfl

theorem mem_owned_unused {holder : RasterHolder} (h : holder ∈ state.unused) :
    holder.raster ∈ state.owned :=
  List.mem_map_of_mem (List.mem_append_left _ h)

theorem mem_owned_mutables {holder : RasterHolder}
    (h : holder ∈ state.mutables) : holder.raster ∈ state.owned :=
  List.mem_map_of_mem (List.mem_append_right _ h)

theorem Sound.owned_ne_none (h : state.Sound rawHash) {address : Nat}
    (haddress : address ∈ state.owned) : state.heap address ≠ none := by
  obtain ⟨holder, hholder, rfl⟩ := List.mem_map.mp haddress
  cases List.mem_append.mp hholder with
  | inl hunused => exact (h.unused holder hunused).2.ne_none
  | inr hmutable => exact (h.mutables holder hmutable).2.ne_none

/-- What lies beyond the addresses in use stays there when one of these is
written. -/
theorem Sound.bounded_update (h : state.Sound rawHash) {address : Nat}
    (haddress : state.heap address ≠ none)
    (value : Option (HashCachedRaster α)) {other : Nat}
    (hother : state.next ≤ other) :
    Function.update state.heap address value other = none := by
  have hne : other ≠ address := by
    rintro rfl
    exact haddress (h.bounded _ hother)
  exact (Function.update_of_ne hne ..).trans (h.bounded other hother)

theorem owned_erase {index : Nat} {holder : RasterHolder}
    (h : state.mutables[index]? = some holder) :
    (holder.raster ::
      { state with mutables := state.mutables.eraseIdx index }.owned).Perm
        state.owned := by
  have hperm := (eraseIdx_perm h).append_left state.unused
  have hmiddle : (holder :: (state.unused ++
      state.mutables.eraseIdx index)).Perm
        (state.unused ++ holder :: state.mutables.eraseIdx index) :=
    List.perm_middle.symm
  exact (hmiddle.trans hperm).map RasterHolder.raster

theorem Sound.store_owned (h : state.Sound rawHash) {address : Nat}
    (haddress : address ∈ state.owned) {raster : HashCachedRaster α}
    (hcache : raster.frozenHash = none) :
    (state.store address raster).Sound rawHash where
  nodup := h.nodup
  apart := h.apart
  unused := fun holder hholder => by
    obtain ⟨hpooled, huncached⟩ := h.unused holder hholder
    refine ⟨hpooled, ?_⟩
    by_cases hsame : holder.raster = address
    · exact ⟨raster, by rw [hsame]; exact Function.update_self .., hcache⟩
    · exact uncached_update _ hsame huncached
  mutables := fun holder hholder => by
    obtain ⟨hpooled, huncached⟩ := h.mutables holder hholder
    refine ⟨hpooled, ?_⟩
    by_cases hsame : holder.raster = address
    · exact ⟨raster, by rw [hsame]; exact Function.update_self .., hcache⟩
    · exact uncached_update _ hsame huncached
  handles := fun holder hholder => by
    obtain ⟨hpooled, hfaithful⟩ := h.handles holder hholder
    have hne : holder.raster ≠ address := by
      rintro rfl
      exact h.apart holder hholder haddress
    exact ⟨hpooled, faithful_update _ hne hfaithful⟩
  bounded := fun _ hother =>
    h.bounded_update (h.owned_ne_none haddress) _ hother

theorem Sound.write (h : state.Sound rawHash) {index : Nat} {contents : α}
    (hstep : state.write index contents = .ok next) : next.Sound rawHash := by
  obtain ⟨holder, hholder, hstep⟩ := bind_eq_ok hstep
  obtain ⟨raster, hraster, hstep⟩ := bind_eq_ok hstep
  cases hstep
  have hmem := List.mem_of_getElem? (handleAt_eq_ok hholder)
  obtain ⟨found, hfound, hcache⟩ := (h.mutables holder hmem).2
  rw [rasterOf_eq_ok] at hraster
  obtain rfl : found = raster := Option.some.inj (hfound.symm.trans hraster)
  exact h.store_owned (mem_owned_mutables hmem) hcache

theorem Sound.addHandle (h : state.Sound rawHash) {holder : RasterHolder}
    (hpooled : holder.pooled = true) (hnot : holder.raster ∉ state.owned)
    (hfaithful : Faithful rawHash state.heap holder.raster) :
    { state with handles := state.handles ++ [holder] }.Sound rawHash :=
  { h with
    apart := fun other hother => by
      cases List.mem_append.mp hother with
      | inl hlive => exact h.apart other hlive
      | inr hadded =>
          rw [List.mem_singleton.mp hadded]
          exact hnot
    handles := fun other hother => by
      cases List.mem_append.mp hother with
      | inl hlive => exact h.handles other hlive
      | inr hadded =>
          rw [List.mem_singleton.mp hadded]
          exact ⟨hpooled, hfaithful⟩ }

theorem Sound.dropMutable (h : state.Sound rawHash) {index : Nat}
    {holder : RasterHolder} (hread : state.mutables[index]? = some holder) :
    let left := { state with mutables := state.mutables.eraseIdx index }
    left.Sound rawHash ∧ holder.raster ∉ left.owned := by
  have howned := owned_erase hread
  have hnodup := howned.nodup_iff.mpr h.nodup
  rw [List.nodup_cons] at hnodup
  exact ⟨{ h with
    nodup := hnodup.2
    apart := fun other hother howner => h.apart other hother
      (howned.subset (List.mem_cons_of_mem _ howner))
    mutables := fun other hother =>
      h.mutables other (List.mem_of_mem_eraseIdx hother) }, hnodup.1⟩

theorem Sound.freeze (h : state.Sound rawHash) {index : Nat}
    (hstep : state.freeze index = .ok next) : next.Sound rawHash := by
  obtain ⟨holder, hholder, hstep⟩ := bind_eq_ok hstep
  obtain ⟨raster, -, hstep⟩ := bind_eq_ok hstep
  obtain ⟨_, -, hstep⟩ := bind_eq_ok hstep
  cases hstep
  have hread := handleAt_eq_ok hholder
  obtain ⟨hleft, hnot⟩ := h.dropMutable hread
  obtain ⟨hpooled, huncached⟩ := h.mutables holder (List.mem_of_getElem? hread)
  exact hleft.addHandle hpooled hnot huncached.faithful

theorem Sound.copy (h : state.Sound rawHash) {index : Nat}
    (hstep : state.copy index = .ok next) : next.Sound rawHash := by
  obtain ⟨holder, hholder, hstep⟩ := bind_eq_ok hstep
  cases hstep
  have hmem := List.mem_of_getElem? (handleAt_eq_ok hholder)
  obtain ⟨hpooled, hfaithful⟩ := h.handles holder hmem
  exact h.addHandle hpooled (h.apart holder hmem) hfaithful

theorem Sound.store_shared (h : state.Sound rawHash) {holder : RasterHolder}
    (hholder : holder ∈ state.handles) {raster : HashCachedRaster α}
    (hcache : ∀ frozen, raster.frozenHash = some frozen →
      frozen = rawHash raster.contents) :
    (state.store holder.raster raster).Sound rawHash := by
  have hnot := h.apart holder hholder
  exact {
    nodup := h.nodup
    apart := h.apart
    unused := fun other hother => by
      obtain ⟨hpooled, huncached⟩ := h.unused other hother
      refine ⟨hpooled, uncached_update _ ?_ huncached⟩
      intro hsame
      exact hnot (hsame ▸ mem_owned_unused hother)
    mutables := fun other hother => by
      obtain ⟨hpooled, huncached⟩ := h.mutables other hother
      refine ⟨hpooled, uncached_update _ ?_ huncached⟩
      intro hsame
      exact hnot (hsame ▸ mem_owned_mutables hother)
    handles := fun other hother => by
      obtain ⟨hpooled, hfaithful⟩ := h.handles other hother
      refine ⟨hpooled, ?_⟩
      by_cases hsame : other.raster = holder.raster
      · exact ⟨raster, by rw [hsame]; exact Function.update_self .., hcache⟩
      · exact faithful_update _ hsame hfaithful
    bounded := fun _ hother =>
      h.bounded_update (h.handles holder hholder).2.ne_none _ hother }

theorem Sound.hash (h : state.Sound rawHash) {index : Nat}
    {holder : RasterHolder} (hread : state.handles[index]? = some holder) :
    ∃ raster after last, state.heap holder.raster = some raster ∧
      state.hash rawHash index = .ok (rawHash raster.contents, after) ∧
      after.heap holder.raster = some last ∧
      last.contents = raster.contents ∧ after.Sound rawHash := by
  have hmem := List.mem_of_getElem? hread
  obtain ⟨raster, hraster, hcache⟩ := (h.handles holder hmem).2
  have hhash : state.hash rawHash index =
      match raster.frozenHash with
      | some frozen => .ok (frozen, state)
      | none => .ok (rawHash raster.contents, state.store holder.raster
          { raster with frozenHash := some (rawHash raster.contents) }) := by
    rw [State.hash, handleAt, hread]
    dsimp only
    rw [ok_bind, rasterOf_eq_ok.mpr hraster, ok_bind]
    cases raster.frozenHash <;> rfl
  cases hfrozen : raster.frozenHash with
  | some frozen =>
      rw [hfrozen] at hhash
      refine ⟨raster, state, raster, hraster, ?_, hraster, rfl, h⟩
      rw [hhash, hcache frozen hfrozen]
  | none =>
      rw [hfrozen] at hhash
      refine ⟨raster, _, _, hraster, hhash, Function.update_self .., rfl,
        h.store_shared hmem ?_⟩
      intro frozen hsome
      exact (Option.some.inj hsome).symm

theorem Sound.destroy (h : state.Sound rawHash) {holder : RasterHolder}
    (hpooled : holder.pooled = true) (hnot : holder.raster ∉ state.owned)
    (hlast : ∀ other ∈ state.handles, other.raster ≠ holder.raster)
    (hused : state.heap holder.raster ≠ none) :
    (state.destroy holder).Sound rawHash := by
  obtain ⟨raster, hraster⟩ := Option.ne_none_iff_exists'.mp hused
  have hdestroy : state.destroy holder = { state with
      heap := Function.update state.heap holder.raster
        (some (resetCache raster))
      unused := state.unused ++ [{ holder with pooled := false }] } := by
    rw [State.destroy, if_pos hpooled, hraster]
    rfl
  have howned : (holder.raster :: state.owned).Perm
      (state.destroy holder).owned := by
    have hafter : (state.destroy holder).owned =
        state.unused.map RasterHolder.raster ++
          holder.raster :: state.mutables.map RasterHolder.raster := by
      simp [hdestroy, owned]
    rw [hafter, owned, List.map_append]
    exact List.perm_middle.symm
  have hnodup := howned.nodup_iff.mp (List.nodup_cons.mpr ⟨hnot, h.nodup⟩)
  rw [hdestroy] at howned hnodup ⊢
  exact {
    nodup := hnodup
    apart := fun other hother hmem => by
      cases List.mem_cons.mp (howned.symm.subset hmem) with
      | inl hsame => exact hlast other hother hsame
      | inr howner => exact h.apart other hother howner
    unused := fun other hother => by
      cases List.mem_append.mp hother with
      | inl hunused =>
          obtain ⟨hnone, huncached⟩ := h.unused other hunused
          refine ⟨hnone, uncached_update _ ?_ huncached⟩
          intro hsame
          exact hnot (hsame ▸ mem_owned_unused hunused)
      | inr hadded =>
          rw [List.mem_singleton.mp hadded]
          exact ⟨rfl, resetCache raster, Function.update_self .., rfl⟩
    mutables := fun other hother => by
      obtain ⟨hsome, huncached⟩ := h.mutables other hother
      refine ⟨hsome, uncached_update _ ?_ huncached⟩
      intro hsame
      exact hnot (hsame ▸ mem_owned_mutables hother)
    handles := fun other hother => by
      obtain ⟨hsome, hfaithful⟩ := h.handles other hother
      exact ⟨hsome, faithful_update _ (hlast other hother) hfaithful⟩
    bounded := fun _ hother => h.bounded_update hused _ hother }

theorem Sound.releaseMutable (h : state.Sound rawHash) {index : Nat}
    (hstep : state.releaseMutable index = .ok next) : next.Sound rawHash := by
  obtain ⟨holder, hholder, hstep⟩ := bind_eq_ok hstep
  cases hstep
  have hread := handleAt_eq_ok hholder
  have hmem := List.mem_of_getElem? hread
  obtain ⟨hleft, hnot⟩ := h.dropMutable hread
  obtain ⟨hpooled, huncached⟩ := h.mutables holder hmem
  refine hleft.destroy hpooled hnot ?_ huncached.ne_none
  intro other hother hsame
  exact h.apart other hother (hsame ▸ mem_owned_mutables hmem)

theorem Sound.release (h : state.Sound rawHash) {index : Nat}
    (hstep : state.release index = .ok next) : next.Sound rawHash := by
  obtain ⟨holder, hholder, hstep⟩ := bind_eq_ok hstep
  have hmem := List.mem_of_getElem? (handleAt_eq_ok hholder)
  have hleft : { state with
      handles := state.handles.eraseIdx index }.Sound rawHash :=
    { h with
      apart := fun other hother =>
        h.apart other (List.mem_of_mem_eraseIdx hother)
      handles := fun other hother =>
        h.handles other (List.mem_of_mem_eraseIdx hother) }
  dsimp only at hstep
  cases hany : (state.handles.eraseIdx index).any
      (·.raster == holder.raster) with
  | true =>
      rw [hany] at hstep
      cases hstep
      exact hleft
  | false =>
      rw [hany] at hstep
      cases hstep
      obtain ⟨hpooled, hfaithful⟩ := h.handles holder hmem
      refine hleft.destroy hpooled (h.apart holder hmem) ?_ hfaithful.ne_none
      intro other hother hsame
      have hother := List.any_eq_false.mp hany other hother
      exact hother (beq_iff_eq.mpr hsame)

structure HandsOut (rawHash : α → UInt64) (state made : State α)
    (holder : RasterHolder) : Prop where
  sound : made.Sound rawHash
  pooled : holder.pooled = false
  uncached : Uncached made.heap holder.raster
  owned : holder.raster ∉ made.owned
  apart : ∀ other ∈ made.handles, other.raster ≠ holder.raster
  mutables : made.mutables = state.mutables
  handles : made.handles = state.handles

theorem Sound.newRaster (h : state.Sound rawHash)
    (displayWidth displayHeight : Nat) (fresh : α) :
    HandsOut rawHash state
      (state.newRaster displayWidth displayHeight fresh).1
      (state.newRaster displayWidth displayHeight fresh).2 := by
  have hne {address : Nat} (haddress : state.heap address ≠ none) :
      address ≠ state.next := by
    rintro rfl
    exact haddress (h.bounded state.next (Nat.le_refl _))
  have hunused : ∀ holder ∈ state.unused, holder.raster ≠ state.next :=
    fun holder hholder => hne (h.unused holder hholder).2.ne_none
  have hmutables : ∀ holder ∈ state.mutables, holder.raster ≠ state.next :=
    fun holder hholder => hne (h.mutables holder hholder).2.ne_none
  have hhandles : ∀ holder ∈ state.handles, holder.raster ≠ state.next :=
    fun holder hholder => hne (h.handles holder hholder).2.ne_none
  exact {
    sound := {
      nodup := h.nodup
      apart := h.apart
      unused := fun holder hholder =>
        ⟨(h.unused holder hholder).1, uncached_update _
          (hunused holder hholder) (h.unused holder hholder).2⟩
      mutables := fun holder hholder =>
        ⟨(h.mutables holder hholder).1, uncached_update _
          (hmutables holder hholder) (h.mutables holder hholder).2⟩
      handles := fun holder hholder =>
        ⟨(h.handles holder hholder).1, faithful_update _
          (hhandles holder hholder) (h.handles holder hholder).2⟩
      bounded := fun address haddress => by
        have hne : address ≠ state.next := Nat.ne_of_gt haddress
        exact (Function.update_of_ne hne ..).trans
          (h.bounded address (Nat.le_of_succ_le haddress)) }
    pooled := rfl
    uncached := ⟨_, Function.update_self .., rfl⟩
    owned := fun hmem => by
      obtain ⟨holder, hholder, hsame⟩ := List.mem_map.mp hmem
      cases List.mem_append.mp hholder with
      | inl hmember => exact hunused holder hmember hsame
      | inr hmember => exact hmutables holder hmember hsame
    apart := hhandles
    mutables := rfl
    handles := rfl }

theorem foldl_destroy (holders : List RasterHolder)
    (hall : ∀ holder ∈ holders, holder.pooled = false) (state : State α) :
    ∃ heap, holders.foldl destroy state = { state with heap } ∧
      (∀ address, address ∉ holders.map RasterHolder.raster →
        heap address = state.heap address) ∧
      ∀ address, state.heap address = none → heap address = none := by
  induction holders generalizing state with
  | nil => exact ⟨state.heap, rfl, fun _ _ => rfl, fun _ hnone => hnone⟩
  | cons holder holders ih =>
      have hdelete : state.destroy holder = { state with
          heap := Function.update state.heap holder.raster none } := by
        rw [State.destroy, hall holder List.mem_cons_self]
        rfl
      obtain ⟨heap, hheap, hkept, hnone⟩ := ih
        (fun other hother => hall other (List.mem_cons_of_mem _ hother))
        (state.destroy holder)
      rw [hdelete] at hheap hkept hnone
      refine ⟨heap, ?_, ?_, ?_⟩
      · rw [List.foldl_cons, hdelete, hheap]
      · intro address haddress
        rw [List.map_cons, List.mem_cons, not_or] at haddress
        exact (hkept address haddress.2).trans
          (Function.update_of_ne haddress.1 ..)
      · intro address haddress
        apply hnone
        by_cases hsame : address = holder.raster
        · rw [hsame]
          exact Function.update_self ..
        · exact (Function.update_of_ne hsame ..).trans haddress

theorem Sound.emptyPool (h : state.Sound rawHash) :
    let emptied := state.unused.foldl State.destroy { state with unused := [] }
    emptied.Sound rawHash ∧ emptied.mutables = state.mutables ∧
      emptied.handles = state.handles := by
  obtain ⟨heap, hheap, hkept, hnone⟩ := foldl_destroy state.unused
    (fun holder hholder => (h.unused holder hholder).1)
    { state with unused := [] }
  dsimp only at hkept hnone ⊢
  rw [hheap]
  have hnodup := h.nodup
  rw [owned, List.map_append, List.nodup_append] at hnodup
  refine ⟨?_, rfl, rfl⟩
  exact {
    nodup := hnodup.2.1
    apart := fun holder hholder hmem => h.apart holder hholder (by
      rw [owned, List.map_append]
      exact List.mem_append_right _ hmem)
    unused := fun _ hholder => absurd hholder List.not_mem_nil
    mutables := fun holder hholder => by
      obtain ⟨hpooled, raster, hraster, hcache⟩ := h.mutables holder hholder
      refine ⟨hpooled, raster, (hkept _ ?_).trans hraster, hcache⟩
      intro hmem
      exact hnodup.2.2 _ hmem _ (List.mem_map_of_mem hholder) rfl
    handles := fun holder hholder => by
      obtain ⟨hpooled, raster, hraster, hcache⟩ := h.handles holder hholder
      refine ⟨hpooled, raster, (hkept _ ?_).trans hraster, hcache⟩
      intro hmem
      apply h.apart holder hholder
      rw [owned, List.map_append]
      exact List.mem_append_left _ hmem
    bounded := fun address haddress => hnone address
      (h.bounded address haddress) }

theorem Sound.takeRaster (h : state.Sound rawHash)
    {displayWidth displayHeight : Nat} {allowResize : Bool} {fresh : α}
    {made : State α} {holder : RasterHolder}
    (htake : state.takeRaster displayWidth displayHeight allowResize fresh =
      .ok (made, holder)) :
    HandsOut rawHash state made holder := by
  unfold State.takeRaster at htake
  cases hunused : state.unused with
  | nil =>
      rw [hunused] at htake
      cases htake
      exact h.newRaster displayWidth displayHeight fresh
  | cons front rest =>
      rw [hunused] at htake
      obtain ⟨raster, hraster, htake⟩ := bind_eq_ok htake
      by_cases hsize : raster.displayWidth ≠ displayWidth ∨
          raster.displayHeight ≠ displayHeight
      · rw [if_pos hsize] at htake
        cases allowResize with
        | false => cases htake
        | true =>
            rw [← hunused] at htake
            cases htake
            obtain ⟨hsound, hmutables, hhandles⟩ := h.emptyPool
            have hnew := hsound.newRaster displayWidth displayHeight fresh
            exact { hnew with
              mutables := hnew.mutables.trans hmutables
              handles := hnew.handles.trans hhandles }
      · rw [if_neg hsize] at htake
        cases htake
        have hfront := h.unused holder (by rw [hunused]; exact List.mem_cons_self)
        have howned : state.owned =
            holder.raster :: { state with unused := rest }.owned := by
          rw [owned, hunused]
          rfl
        have hnodup := h.nodup
        rw [howned, List.nodup_cons] at hnodup
        exact {
          sound := { h with
            nodup := hnodup.2
            apart := fun other hother hmem => h.apart other hother
              (howned ▸ List.mem_cons_of_mem _ hmem)
            unused := fun other hother => h.unused other
              (hunused ▸ List.mem_cons_of_mem _ hother) }
          pooled := hfront.1
          uncached := hfront.2
          owned := hnodup.1
          apart := fun other hother hsame => h.apart other hother
            (howned ▸ hsame ▸ List.mem_cons_self)
          mutables := rfl
          handles := rfl }

theorem Sound.takeRaster_cases (h : state.Sound rawHash)
    (displayWidth displayHeight : Nat) (allowResize : Bool) (fresh : α) :
    state.takeRaster displayWidth displayHeight allowResize fresh =
        .error (.unsupported "raster size has changed") ∨
      ∃ made holder,
        state.takeRaster displayWidth displayHeight allowResize fresh =
          .ok (made, holder) := by
  unfold State.takeRaster
  cases hunused : state.unused with
  | nil => exact .inr ⟨_, _, rfl⟩
  | cons front rest =>
      obtain ⟨-, raster, hraster, -⟩ :=
        h.unused front (by rw [hunused]; exact List.mem_cons_self)
      dsimp only
      rw [rasterOf_eq_ok.mpr hraster, ok_bind]
      by_cases hsize : raster.displayWidth ≠ displayWidth ∨
          raster.displayHeight ≠ displayHeight
      · rw [if_pos hsize]
        cases allowResize with
        | false => exact .inl rfl
        | true => exact .inr ⟨_, _, rfl⟩
      · rw [if_neg hsize]
        exact .inr ⟨_, _, rfl⟩

structure AddsMutable (rawHash : α → UInt64) (state next : State α) : Prop where
  sound : next.Sound rawHash
  added : ∃ holder, next.mutables = state.mutables ++ [holder] ∧
    (∀ other ∈ state.mutables, other.raster ≠ holder.raster) ∧
    ∀ other ∈ state.handles, other.raster ≠ holder.raster
  handles : next.handles = state.handles

theorem HandsOut.addsMutable {made : State α} {holder : RasterHolder}
    (h : HandsOut rawHash state made holder) :
    AddsMutable rawHash state { made with
      mutables := made.mutables ++ [{ holder with pooled := true }] } := by
  have howned : (holder.raster :: made.owned).Perm
      { made with
        mutables := made.mutables ++ [{ holder with pooled := true }] }.owned := by
    have hafter : { made with
        mutables := made.mutables ++ [{ holder with pooled := true }] }.owned =
        made.owned ++ [holder.raster] := by
      simp [State.owned]
    rw [hafter]
    exact (List.perm_append_singleton _ _).symm
  have hnodup := howned.nodup_iff.mp (List.nodup_cons.mpr ⟨h.owned, h.sound.nodup⟩)
  exact {
    sound := { h.sound with
      nodup := hnodup
      apart := fun other hother hmem => by
        cases List.mem_cons.mp (howned.symm.subset hmem) with
        | inl hsame => exact h.apart other hother hsame
        | inr howner => exact h.sound.apart other hother howner
      mutables := fun other hother => by
        cases List.mem_append.mp hother with
        | inl hlive => exact h.sound.mutables other hlive
        | inr hadded =>
            rw [List.mem_singleton.mp hadded]
            exact ⟨rfl, h.uncached⟩ }
    added := by
      refine ⟨{ holder with pooled := true }, by rw [h.mutables], ?_, ?_⟩
      · intro other hother hsame
        rw [← h.mutables] at hother
        exact h.owned (hsame ▸ mem_owned_mutables hother)
      · intro other hother
        rw [← h.handles] at hother
        exact h.apart other hother
    handles := h.handles }

theorem Sound.allocate (h : state.Sound rawHash)
    (displayWidth displayHeight : Nat) (allowResize : Bool) (fresh : α) :
    state.allocate displayWidth displayHeight allowResize fresh =
        .error (.unsupported "raster size has changed") ∨
      ∃ next,
        state.allocate displayWidth displayHeight allowResize fresh =
          .ok next ∧ AddsMutable rawHash state next := by
  rcases h.takeRaster_cases displayWidth displayHeight allowResize fresh with
    htake | ⟨made, holder, htake⟩
  · left
    rw [State.allocate, State.makeRaster, htake]
    rfl
  · right
    have hhands := h.takeRaster htake
    obtain ⟨raster, hraster, hcache⟩ := hhands.uncached
    refine ⟨_, ?_, hhands.addsMutable⟩
    have hread : made.rasterOf { holder with pooled := true } = .ok raster :=
      rasterOf_eq_ok.mpr hraster
    rw [State.allocate, State.makeRaster, htake, ok_bind]
    dsimp only
    rw [hhands.pooled]
    change (made.rasterOf { holder with pooled := true } >>= fun raster => do
      require raster.frozenHash.isNone _
      return _) = _
    rw [hread, ok_bind, hcache]
    rfl

theorem Sound.step (h : state.Sound rawHash) {action : Action α}
    (hstep : state.step rawHash action = .ok next) : next.Sound rawHash := by
  cases action with
  | allocate displayWidth displayHeight allowResize fresh =>
      rcases h.allocate displayWidth displayHeight allowResize fresh with
        hfails | ⟨other, hother, hadds⟩
      · cases hfails.symm.trans hstep
      · cases hother.symm.trans hstep
        exact hadds.sound
  | write index contents => exact h.write hstep
  | freeze index => exact h.freeze hstep
  | copy index => exact h.copy hstep
  | hash index =>
      cases hread : state.handles[index]? with
      | none =>
          simp only [State.step, State.hash, handleAt, hread] at hstep
          cases hstep
      | some holder =>
          obtain ⟨raster, after, last, -, hhash, -, -, hsound⟩ := h.hash hread
          simp only [State.step, hhash] at hstep
          cases hstep
          exact hsound
  | releaseMutable index => exact h.releaseMutable hstep
  | release index => exact h.release hstep

theorem Sound.rasterOf (h : state.Sound rawHash) {holder : RasterHolder}
    (hholder : holder ∈ state.mutables) :
    ∃ raster, state.rasterOf holder = .ok raster ∧ raster.frozenHash = none := by
  obtain ⟨-, raster, hraster, hcache⟩ := h.mutables holder hholder
  exact ⟨raster, rasterOf_eq_ok.mpr hraster, hcache⟩

/-- No assertion fails and no pointer dangles: an action fails for want of its
handle, or because the frame size changes. -/
theorem Sound.step_error (h : state.Sound rawHash) {action : Action α}
    {failure : Failure} (hstep : state.step rawHash action = .error failure) :
    failure = .undefinedBehaviour "no such handle" ∨
      failure = .unsupported "raster size has changed" := by
  cases action with
  | allocate displayWidth displayHeight allowResize fresh =>
      rcases h.allocate displayWidth displayHeight allowResize fresh with
        hfails | ⟨other, hother, -⟩
      · cases hfails.symm.trans hstep
        exact .inr rfl
      · cases hother.symm.trans hstep
  | write index contents =>
      left
      apply handleAt_bind_error hstep
      intro holder hmem hnext
      obtain ⟨raster, hraster, -⟩ := h.rasterOf hmem
      rw [hraster] at hnext
      cases hnext
  | freeze index =>
      left
      apply handleAt_bind_error hstep
      intro holder hmem hnext
      obtain ⟨raster, hraster, hcache⟩ := h.rasterOf hmem
      rw [hraster, ok_bind, hcache] at hnext
      cases hnext
  | copy index =>
      left
      apply handleAt_bind_error hstep
      intro holder hmem hnext
      cases hnext
  | hash index =>
      cases hread : state.handles[index]? with
      | none =>
          rw [State.step, State.hash, handleAt, hread] at hstep
          cases hstep
          exact .inl rfl
      | some holder =>
          obtain ⟨raster, after, last, -, hhash, -⟩ := h.hash hread
          rw [State.step, hhash] at hstep
          cases hstep
  | releaseMutable index =>
      left
      apply handleAt_bind_error hstep
      intro holder hmem hnext
      cases hnext
  | release index =>
      left
      apply handleAt_bind_error hstep
      intro holder hmem hnext
      dsimp only at hnext
      split at hnext
      · cases hnext
      · cases hnext

end State

theorem run_sound (rawHash : α → UInt64) (actions : List (Action α)) :
    (run rawHash actions).Sound rawHash := by
  have hfold : ∀ (actions : List (Action α)) (state : State α),
      state.Sound rawHash →
        (actions.foldl (fun state action =>
          match state.step rawHash action with
          | .ok next => next
          | .error _ => state) state).Sound rawHash := by
    intro actions
    induction actions with
    | nil => exact fun _ hsound => hsound
    | cons action actions ih =>
        intro state hsound
        rw [List.foldl_cons]
        apply ih
        cases hstep : state.step rawHash action with
        | error failure => exact hsound
        | ok next => exact hsound.step hstep
  exact hfold actions State.start State.sound_start

/-- The rasters that may be written have no cached hash and no other handle,
and a `RasterHandle` gives the hash of what its raster holds. -/
theorem rasters_not_aliased (rawHash : α → UInt64)
    (actions : List (Action α)) :
    let state := run rawHash actions
    (∀ holder ∈ state.mutables, ∃ raster,
      state.heap holder.raster = some raster ∧ raster.frozenHash = none) ∧
    (∀ (index : Nat) (holder : RasterHolder),
      state.handles[index]? = some holder → ∃ raster after last,
        state.heap holder.raster = some raster ∧
          state.hash rawHash index = .ok (rawHash raster.contents, after) ∧
          after.heap holder.raster = some last ∧
          last.contents = raster.contents) ∧
    (state.mutables.map RasterHolder.raster).Nodup ∧
    (∀ holder ∈ state.handles, ∀ other ∈ state.mutables,
      other.raster ≠ holder.raster) ∧
    (∀ (displayWidth displayHeight : Nat) (allowResize : Bool) (fresh : α)
      (next : State α),
      state.allocate displayWidth displayHeight allowResize fresh = .ok next →
        ∃ holder, next.mutables = state.mutables ++ [holder] ∧
          next.handles = state.handles ∧
          ∀ other ∈ state.mutables ++ state.handles,
            other.raster ≠ holder.raster) ∧
    ∀ (action : Action α) (failure : Failure),
      state.step rawHash action = .error failure →
        failure = .undefinedBehaviour "no such handle" ∨
          failure = .unsupported "raster size has changed" := by
  intro state
  have hsound : state.Sound rawHash := run_sound rawHash actions
  refine ⟨?_, ?_, ?_, ?_, ?_, ?_⟩
  · intro holder hholder
    exact (hsound.mutables holder hholder).2
  · intro index holder hread
    obtain ⟨raster, after, last, hraster, hhash, hlast, hcontents, -⟩ :=
      hsound.hash hread
    exact ⟨raster, after, last, hraster, hhash, hlast, hcontents⟩
  · have hnodup := hsound.nodup
    rw [State.owned, List.map_append] at hnodup
    exact (List.nodup_append.mp hnodup).2.1
  · intro holder hholder other hother hsame
    exact hsound.apart holder hholder
      (hsame ▸ State.mem_owned_mutables hother)
  · intro displayWidth displayHeight allowResize fresh next hallocate
    rcases hsound.allocate displayWidth displayHeight allowResize fresh with
      hfails | ⟨found, hfound, hadds⟩
    · cases hfails.symm.trans hallocate
    · cases hfound.symm.trans hallocate
      obtain ⟨holder, hmutables, hwritten, hread⟩ := hadds.added
      refine ⟨holder, hmutables, hadds.handles, ?_⟩
      intro other hother
      cases List.mem_append.mp hother with
      | inl hmember => exact hwritten other hmember
      | inr hmember => exact hread other hmember
  · intro action failure hstep
    exact hsound.step_error hstep

/-- The raster that was hashed is handed out again without its hash. -/
example :
    let state : State UInt64 := run id
      [.allocate 16 16 false 7, .freeze 0, .hash 0, .release 0,
        .allocate 16 16 false 9]
    state.mutables = [{ raster := 0, pooled := true }] ∧
      (state.heap 0).map HashCachedRaster.contents = some 7 ∧
      (state.heap 0).map HashCachedRaster.frozenHash = some none :=
  ⟨rfl, rfl, rfl⟩

end Salsify.Codec.RasterHandles
