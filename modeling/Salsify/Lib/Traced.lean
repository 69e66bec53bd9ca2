import Salsify.Lib.Fallible

namespace Salsify

/-! Computations that may fail and that keep a trace of what they do, and
loops of them that go on until a turn gives a result. -/

variable {Event ε α β σ : Type}

abbrev Traced (Event ε α : Type) := StateT (List Event) (Except ε) α

namespace Traced

def record (event : Event) : Traced Event ε Unit :=
  modify fun trace => event :: trace

/-- At most `fuel` turns, each of which goes on with a state or ends with a
result. -/
def loop (unfinished : ε) (turn : σ → Traced Event ε (σ ⊕ β)) :
    Nat → σ → Traced Event ε β
  | 0, _ => throw unfinished
  | fuel + 1, state => do
      match ← turn state with
      | .inl next => loop unfinished turn fuel next
      | .inr result => return result

/-- After any trace of allowed events the computation succeeds, with a value of
which the postcondition holds, and it adds allowed events only. -/
def Ensures (Allowed : Event → Prop) (computation : Traced Event ε α)
    (Post : α → Prop) : Prop :=
  ∀ trace, (∀ event ∈ trace, Allowed event) →
    Fallible.Succeeds (computation trace) fun outcome =>
      Post outcome.1 ∧ ∀ event ∈ outcome.2, Allowed event

variable {Allowed : Event → Prop}

theorem ensures_pure {Post : α → Prop} {value : α} (h : Post value) :
    Ensures Allowed (pure value : Traced Event ε α) Post :=
  fun _ hallowed => Fallible.succeeds_pure ⟨h, hallowed⟩

theorem ensures_record {event : Event} (h : Allowed event) :
    Ensures Allowed (record event : Traced Event ε Unit) fun _ => True := by
  intro trace hallowed
  refine Fallible.succeeds_pure ⟨trivial, fun other hother => ?_⟩
  rcases List.mem_cons.mp hother with rfl | hother
  · exact h
  · exact hallowed other hother

theorem ensures_lift {Post : α → Prop} {result : Except ε α}
    (h : Fallible.Succeeds result Post) :
    Ensures Allowed (liftM result : Traced Event ε α) Post := by
  intro trace hallowed
  obtain ⟨value, rfl, hpost⟩ := h
  exact Fallible.succeeds_pure ⟨hpost, hallowed⟩

theorem Ensures.mono {computation : Traced Event ε α} {Post Weaker : α → Prop}
    (h : Ensures Allowed computation Post)
    (hweaker : ∀ value, Post value → Weaker value) :
    Ensures Allowed computation Weaker := by
  intro trace hallowed
  apply (h trace hallowed).mono
  intro outcome houtcome
  exact ⟨hweaker outcome.1 houtcome.1, houtcome.2⟩

theorem Ensures.bind {first : Traced Event ε α} {next : α → Traced Event ε β}
    {Middle : α → Prop} {Post : β → Prop} (hfirst : Ensures Allowed first Middle)
    (hnext : ∀ value, Middle value → Ensures Allowed (next value) Post) :
    Ensures Allowed (first >>= next) Post := by
  intro trace hallowed
  apply (hfirst trace hallowed).bind
  intro outcome houtcome
  exact hnext outcome.1 houtcome.1 outcome.2 houtcome.2

theorem ensures_foldlM {step : σ → α → Traced Event ε σ} {Inv : σ → Prop}
    {items : List α} {start : σ}
    (hstep : ∀ state, ∀ item ∈ items, Inv state →
      Ensures Allowed (step state item) Inv)
    (hstart : Inv start) : Ensures Allowed (items.foldlM step start) Inv := by
  induction items generalizing start with
  | nil => exact ensures_pure hstart
  | cons item items ih =>
      rw [List.foldlM_cons]
      apply (hstep start item List.mem_cons_self hstart).bind
      intro middle hmiddle
      exact ih (fun state other hother =>
        hstep state other (List.mem_cons_of_mem item hother)) hmiddle

/-- A loop ends where every turn that goes on keeps the invariant and makes the
variant smaller. -/
theorem ensures_loop {unfinished : ε} {turn : σ → Traced Event ε (σ ⊕ β)}
    (Inv : σ → Prop) (variant : σ → Nat) {Post : β → Prop}
    (hturn : ∀ state, Inv state → Ensures Allowed (turn state)
      (Sum.elim (fun next => Inv next ∧ variant next < variant state) Post))
    {fuel : Nat} {state : σ} (hstate : Inv state)
    (hfuel : variant state < fuel) :
    Ensures Allowed (loop unfinished turn fuel state) Post := by
  induction fuel generalizing state with
  | zero => exact absurd hfuel (Nat.not_lt_zero _)
  | succ fuel ih =>
      apply (hturn state hstate).bind
      intro outcome houtcome
      cases outcome with
      | inl next =>
          obtain ⟨hnext, hless⟩ := houtcome
          exact ih hnext (Nat.lt_of_lt_of_le hless (Nat.le_of_lt_succ hfuel))
      | inr result => exact ensures_pure houtcome

theorem bind_eq_ok {first : Traced Event ε α} {next : α → Traced Event ε β}
    {trace : List Event} {outcome : β × List Event}
    (h : (first >>= next) trace = .ok outcome) :
    ∃ value middle, first trace = .ok (value, middle) ∧
      next value middle = .ok outcome := by
  obtain ⟨⟨value, middle⟩, hfirst, hnext⟩ := Fallible.bind_eq_ok h
  exact ⟨value, middle, hfirst, hnext⟩

theorem liftM_eq_ok {result : Except ε α} {trace : List Event}
    {outcome : α × List Event}
    (h : (liftM result : Traced Event ε α) trace = .ok outcome) :
    result = .ok outcome.1 := by
  obtain ⟨value, hvalue, hpure⟩ := Fallible.bind_eq_ok h
  cases hpure
  exact hvalue

def runs (known : σ → Option (σ ⊕ β)) : Nat → σ → Option β
  | 0, _ => none
  | fuel + 1, state =>
      match known state with
      | none => none
      | some (.inl next) => runs known fuel next
      | some (.inr result) => some result

theorem ensures_loop_of_runs {unfinished : ε}
    {turn : σ → Traced Event ε (σ ⊕ β)} {known : σ → Option (σ ⊕ β)}
    (hturn : ∀ state outcome, known state = some outcome →
      Ensures Allowed (turn state) fun found => found = outcome)
    {fuel : Nat} {state : σ} {result : β}
    (h : runs known fuel state = some result) :
    Ensures Allowed (loop unfinished turn fuel state) fun found =>
      found = result := by
  induction fuel generalizing state with
  | zero => cases h
  | succ fuel ih =>
      unfold runs at h
      split at h
      · cases h
      · next next hknown =>
          apply (hturn state _ hknown).bind
          intro outcome houtcome
          rw [houtcome]
          exact ih h
      · next last hknown =>
          apply (hturn state _ hknown).bind
          intro outcome houtcome
          rw [houtcome]
          exact ensures_pure (Option.some.inj h)

end Traced

end Salsify
