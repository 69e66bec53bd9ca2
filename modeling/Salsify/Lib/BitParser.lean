import Mathlib.Data.Fin.Tuple.Basic

namespace Salsify

/-! Parsers of a stream of bits, each of which is asked for with a probability.
A parser is the tree of its questions, whatever answers them. -/

inductive BitParser (π ε α : Type)
  | done (value : α)
  | fail (failure : ε)
  | get (probability : π) (next : Bool → BitParser π ε α)
  /-- Asks whether the source still has data of its own. -/
  | valid (next : Bool → BitParser π ε α)

structure BitSource (π σ : Type) where
  get : σ → π → Bool × σ
  valid : σ → Bool

namespace BitParser

variable {π ε α β σ τ : Type}

def bind : BitParser π ε α → (α → BitParser π ε β) → BitParser π ε β
  | done value, continuation => continuation value
  | fail failure, _ => fail failure
  | get probability next, continuation =>
      get probability fun bit => (next bit).bind continuation
  | valid next, continuation => valid fun bit => (next bit).bind continuation

instance : Monad (BitParser π ε) where
  pure := done
  bind := bind

theorem pure_bind (value : α) (continuation : α → BitParser π ε β) :
    (pure value >>= continuation) = continuation value :=
  rfl

theorem bind_assoc {γ : Type} (parser : BitParser π ε α)
    (continuation : α → BitParser π ε β) (last : β → BitParser π ε γ) :
    (parser >>= continuation >>= last) =
      parser >>= fun value => continuation value >>= last := by
  induction parser with
  | done value => rfl
  | fail failure => rfl
  | get probability next ih => exact congrArg (get probability) (funext ih)
  | valid next ih => exact congrArg valid (funext ih)

def run (source : BitSource π σ) :
    BitParser π ε α → σ → Except ε (α × σ)
  | done value, state => .ok (value, state)
  | fail failure, _ => .error failure
  | get probability next, state =>
      (next (source.get state probability).1).run source
        (source.get state probability).2
  | valid next, state => (next (source.valid state)).run source state

/-- The parser's result when another source answers all its questions. -/
def answeredBy (source : BitSource π σ) (state : σ)
    (parser : BitParser π ε α) : BitParser π ε α :=
  match parser.run source state with
  | .ok (value, _) => done value
  | .error failure => fail failure

@[simp] theorem run_pure (source : BitSource π σ) (value : α) (state : σ) :
    (pure value : BitParser π ε α).run source state = .ok (value, state) :=
  rfl

@[simp] theorem run_get (source : BitSource π σ) (probability : π)
    (next : Bool → BitParser π ε α) (state : σ) :
    (get probability next).run source state =
      (next (source.get state probability).1).run source
        (source.get state probability).2 :=
  rfl

@[simp] theorem run_valid (source : BitSource π σ)
    (next : Bool → BitParser π ε α) (state : σ) :
    (valid next).run source state =
      (next (source.valid state)).run source state :=
  rfl

theorem run_bind (source : BitSource π σ) (parser : BitParser π ε α)
    (continuation : α → BitParser π ε β) (state : σ) :
    (parser >>= continuation).run source state =
      parser.run source state >>= fun result =>
        (continuation result.1).run source result.2 := by
  induction parser generalizing state with
  | done value => rfl
  | fail failure => rfl
  | get probability next ih => exact ih _ _
  | valid next ih => exact ih _ _

theorem run_invariant {source : BitSource π σ} {Inv : σ → Prop}
    (hget : ∀ state probability, Inv state →
      Inv (source.get state probability).2)
    {parser : BitParser π ε α} {state last : σ} {value : α} (h : Inv state)
    (hrun : parser.run source state = .ok (value, last)) : Inv last := by
  induction parser generalizing state with
  | done result =>
      cases hrun
      exact h
  | fail failure => cases hrun
  | get probability next ih => exact ih _ (hget state probability h) hrun
  | valid next ih => exact ih _ h hrun

/-- The map between the states of two sources takes the answers of one to the
same answers of the other. -/
structure SameAnswers (source : BitSource π σ) (other : BitSource π τ)
    (forget : σ → τ) : Prop where
  get : ∀ state probability, other.get (forget state) probability =
    ((source.get state probability).1, forget (source.get state probability).2)
  valid : ∀ state, other.valid (forget state) = source.valid state

theorem SameAnswers.run {source : BitSource π σ} {other : BitSource π τ}
    {forget : σ → τ} (h : SameAnswers source other forget)
    (parser : BitParser π ε α) (state : σ) :
    parser.run other (forget state) =
      (parser.run source state).map fun result =>
        (result.1, forget result.2) := by
  induction parser generalizing state with
  | done value => rfl
  | fail failure => rfl
  | get probability next ih =>
      unfold BitParser.run
      rw [h.get]
      exact ih _ _
  | valid next ih =>
      unfold BitParser.run
      rw [h.valid]
      exact ih _ _

theorem SameAnswers.of_run {source : BitSource π σ} {other : BitSource π τ}
    {forget : σ → τ} (h : SameAnswers source other forget)
    {parser : BitParser π ε α} {state : σ} {value : α} {last : τ}
    (hrun : parser.run other (forget state) = .ok (value, last)) :
    ∃ next, parser.run source state = .ok (value, next) ∧
      last = forget next := by
  rw [h.run] at hrun
  cases hsource : parser.run source state with
  | error failure =>
      rw [hsource] at hrun
      cases hrun
  | ok result =>
      rw [hsource] at hrun
      cases hrun
      exact ⟨result.2, rfl, rfl⟩

def array : (length : Nat) → (Fin length → BitParser π ε α) →
    BitParser π ε (Fin length → α)
  | 0, _ => done fun index => index.elim0
  | length + 1, element => do
      let first ← element 0
      let rest ← array length fun index => element index.succ
      return Fin.cons first rest

def Ensures (Post : α → Prop) : BitParser π ε α → Prop
  | done value => Post value
  | fail _ => True
  | get _ next => ∀ bit, (next bit).Ensures Post
  | valid next => ∀ bit, (next bit).Ensures Post

theorem ensures_trivial (parser : BitParser π ε α) :
    parser.Ensures fun _ => True := by
  induction parser with
  | done value => trivial
  | fail failure => trivial
  | get probability next ih => exact ih
  | valid next ih => exact ih

theorem Ensures.bind {Post : α → Prop} {Next : β → Prop}
    {parser : BitParser π ε α} {continuation : α → BitParser π ε β}
    (h : parser.Ensures Post)
    (hnext : ∀ value, Post value → (continuation value).Ensures Next) :
    (parser >>= continuation).Ensures Next := by
  induction parser with
  | done value => exact hnext value h
  | fail failure => trivial
  | get probability next ih => exact fun bit => ih bit (h bit)
  | valid next ih => exact fun bit => ih bit (h bit)

theorem ensures_bind {Next : β → Prop} (parser : BitParser π ε α)
    {continuation : α → BitParser π ε β}
    (hnext : ∀ value, (continuation value).Ensures Next) :
    (parser >>= continuation).Ensures Next :=
  parser.ensures_trivial.bind fun value _ => hnext value

theorem Ensures.mono {Post Weaker : α → Prop} {parser : BitParser π ε α}
    (h : parser.Ensures Post) (hweaker : ∀ value, Post value → Weaker value) :
    parser.Ensures Weaker := by
  induction parser with
  | done value => exact hweaker value h
  | fail failure => trivial
  | get probability next ih => exact fun bit => ih bit (h bit)
  | valid next ih => exact fun bit => ih bit (h bit)

theorem Ensures.and {Post Other : α → Prop} {parser : BitParser π ε α}
    (h : parser.Ensures Post) (hother : parser.Ensures Other) :
    parser.Ensures fun value => Post value ∧ Other value := by
  induction parser with
  | done value => exact ⟨h, hother⟩
  | fail failure => trivial
  | get probability next ih => exact fun bit => ih bit (h bit) (hother bit)
  | valid next ih => exact fun answer => ih answer (h answer) (hother answer)

theorem Ensures.of_run {Post : α → Prop} {source : BitSource π σ}
    {parser : BitParser π ε α} {state last : σ} {value : α}
    (h : parser.Ensures Post)
    (hrun : parser.run source state = .ok (value, last)) : Post value := by
  induction parser generalizing state with
  | done result =>
      cases hrun
      exact h
  | fail failure => cases hrun
  | get probability next ih => exact ih _ (h _) hrun
  | valid next ih => exact ih _ (h _) hrun

def asked (source : BitSource π σ) : BitParser π ε α → σ → Nat
  | done _, _ => 0
  | fail _, _ => 0
  | get probability next, state =>
      (next (source.get state probability).1).asked source
        (source.get state probability).2 + 1
  | valid next, state => (next (source.valid state)).asked source state

/-- Where the source has no data, the parser gives the value without a bit. -/
def Foregoes (value : α) : BitParser π ε α → Prop
  | done result => result = value
  | fail _ => False
  | get _ _ => False
  | valid next => (next false).Foregoes value

theorem foregoes_pure (value : α) :
    (pure value : BitParser π ε α).Foregoes value :=
  rfl

theorem Foregoes.bind {value : α} {result : β} {parser : BitParser π ε α}
    {continuation : α → BitParser π ε β} (h : parser.Foregoes value)
    (hnext : (continuation value).Foregoes result) :
    (parser >>= continuation).Foregoes result := by
  induction parser with
  | done given =>
      cases h
      exact hnext
  | fail failure => cases h
  | get probability next ih => cases h
  | valid next ih => exact ih false h

theorem Foregoes.map {value : α} {parser : BitParser π ε α}
    (h : parser.Foregoes value) (f : α → β) :
    (f <$> parser).Foregoes (f value) :=
  h.bind (foregoes_pure (f value))

theorem foregoes_array {length : Nat} {element : Fin length → BitParser π ε α}
    {values : Fin length → α}
    (h : ∀ index, (element index).Foregoes (values index)) :
    (array length element).Foregoes values := by
  induction length with
  | zero => exact funext fun index => index.elim0
  | succ length ih =>
      refine (h 0).bind ((ih fun index => h index.succ).bind ?_)
      exact Fin.cons_self_tail values

theorem Foregoes.run {value : α} {parser : BitParser π ε α}
    (h : parser.Foregoes value) {source : BitSource π σ} {state : σ}
    (hvalid : source.valid state = false) :
    parser.run source state = .ok (value, state) ∧
      parser.asked source state = 0 := by
  induction parser with
  | done given =>
      cases h
      exact ⟨rfl, rfl⟩
  | fail failure => cases h
  | get probability next ih => cases h
  | valid next ih =>
      rw [BitParser.run, asked, hvalid]
      exact ih false h

/-- Whatever the bits, and where only these answers are given to whether the
source has data, the parser gives a value of which the postcondition holds. -/
def Completes (Answers : Bool → Prop) (Post : α → Prop) :
    BitParser π ε α → Prop
  | done value => Post value
  | fail _ => False
  | get _ next => ∀ bit, (next bit).Completes Answers Post
  | valid next => ∀ answer, Answers answer →
      (next answer).Completes Answers Post

variable {Answers : Bool → Prop}

theorem completes_pure {Post : α → Prop} {value : α} (h : Post value) :
    (pure value : BitParser π ε α).Completes Answers Post :=
  h

theorem Completes.bind {Post : α → Prop} {Next : β → Prop}
    {parser : BitParser π ε α} {continuation : α → BitParser π ε β}
    (h : parser.Completes Answers Post)
    (hnext : ∀ value, Post value → (continuation value).Completes Answers Next) :
    (parser >>= continuation).Completes Answers Next := by
  induction parser with
  | done value => exact hnext value h
  | fail failure => cases h
  | get probability next ih => exact fun bit => ih bit (h bit)
  | valid next ih => exact fun answer hanswer => ih answer (h answer hanswer)

theorem Completes.mono {Post Weaker : α → Prop} {parser : BitParser π ε α}
    (h : parser.Completes Answers Post)
    (hweaker : ∀ value, Post value → Weaker value) :
    parser.Completes Answers Weaker := by
  induction parser with
  | done value => exact hweaker value h
  | fail failure => cases h
  | get probability next ih => exact fun bit => ih bit (h bit)
  | valid next ih => exact fun answer hanswer => ih answer (h answer hanswer)

theorem Completes.and_ensures {Post Other : α → Prop}
    {parser : BitParser π ε α} (h : parser.Completes Answers Post)
    (hother : parser.Ensures Other) :
    parser.Completes Answers fun value => Post value ∧ Other value := by
  induction parser with
  | done value => exact ⟨h, hother⟩
  | fail failure => cases h
  | get probability next ih => exact fun bit => ih bit (h bit) (hother bit)
  | valid next ih =>
      exact fun answer hanswer => ih answer (h answer hanswer) (hother answer)

theorem Completes.ensures {Post : α → Prop} {parser : BitParser π ε α}
    (h : parser.Completes (fun _ => True) Post) : parser.Ensures Post := by
  induction parser with
  | done value => exact h
  | fail failure => cases h
  | get probability next ih => exact fun bit => ih bit (h bit)
  | valid next ih => exact fun answer => ih answer (h answer trivial)

theorem Completes.map {Post : α → Prop} {Next : β → Prop}
    {parser : BitParser π ε α} {f : α → β} (h : parser.Completes Answers Post)
    (hnext : ∀ value, Post value → Next (f value)) :
    (f <$> parser).Completes Answers Next :=
  h.bind hnext

theorem Completes.run {Post : α → Prop} {parser : BitParser π ε α}
    (h : parser.Completes Answers Post) {source : BitSource π σ}
    {Inv : σ → Prop} (hget : ∀ state probability, Inv state →
      Inv (source.get state probability).2)
    (hvalid : ∀ state, Inv state → Answers (source.valid state))
    {state : σ} (hstate : Inv state) :
    ∃ value last, parser.run source state = .ok (value, last) ∧ Post value ∧
      Inv last := by
  induction parser generalizing state with
  | done value => exact ⟨value, state, rfl, h, hstate⟩
  | fail failure => cases h
  | get probability next ih =>
      exact ih _ (h _) (hget state probability hstate)
  | valid next ih =>
      exact ih _ (h _ (hvalid state hstate)) hstate

theorem Completes.gives {Post : α → Prop} {parser : BitParser π ε α}
    (h : parser.Completes (fun _ => True) Post) (source : BitSource π σ)
    (state : σ) :
    ∃ value last, parser.run source state = .ok (value, last) ∧ Post value := by
  induction parser generalizing state with
  | done value => exact ⟨value, state, rfl, h⟩
  | fail failure => cases h
  | get probability next ih => exact ih _ (h _) _
  | valid next ih => exact ih _ (h _ trivial) _

theorem Completes.keeps {Post : α → Prop} {parser : BitParser π ε α}
    (h : parser.Completes (fun _ => True) Post) {source : BitSource π σ}
    {Inv : σ → Prop} (hget : ∀ state probability, Inv state →
      Inv (source.get state probability).2) {state : σ} (hstate : Inv state) :
    ∃ value last, parser.run source state = .ok (value, last) ∧ Post value ∧
      Inv last :=
  h.run hget (fun _ _ => trivial) hstate

theorem Completes.answeredBy {Any : Bool → Prop} {Post : α → Prop}
    {parser : BitParser π ε α} (h : parser.Completes (fun _ => True) Post)
    (source : BitSource π σ) (state : σ) :
    (parser.answeredBy source state).Completes Any Post := by
  obtain ⟨value, last, hrun, hpost⟩ := h.gives source state
  unfold BitParser.answeredBy
  rw [hrun]
  exact hpost

theorem Completes.foregoes_answeredBy {Post : α → Prop}
    {parser : BitParser π ε α} (h : parser.Completes (fun _ => True) Post)
    (source : BitSource π σ) (state : σ) :
    ∃ value, (parser.answeredBy source state).Foregoes value := by
  obtain ⟨value, last, hrun, -⟩ := h.gives source state
  refine ⟨value, ?_⟩
  unfold BitParser.answeredBy
  rw [hrun]
  exact foregoes_pure value

theorem completes_array {length : Nat} {element : Fin length → BitParser π ε α}
    {Post : α → Prop} (h : ∀ index, (element index).Completes Answers Post) :
    (array length element).Completes Answers fun values =>
      ∀ index, Post (values index) := by
  induction length with
  | zero => exact fun index => index.elim0
  | succ length ih =>
      apply (h 0).bind
      intro first hfirst
      apply (ih fun index => h index.succ).bind
      intro rest hrest index
      cases index using Fin.cases with
      | zero => exact hfirst
      | succ index => exact hrest index

theorem completes_array_any {length : Nat}
    {element : Fin length → BitParser π ε α}
    (h : ∀ index, (element index).Completes Answers fun _ => True) :
    (array length element).Completes Answers fun _ => True :=
  (completes_array h).mono fun _ _ => trivial

end BitParser

end Salsify
