import Salsify.Lib.BitParser
import Salsify.Lib.Fallible

namespace Salsify

/-! Writers of bits, and the parsers that read back what they wrote. -/

abbrev BitWriter (π ε : Type) := Except ε (List (π × Bool))

namespace BitWriter

variable {π ε : Type}

def put (probability : π) (bit : Bool) : BitWriter π ε :=
  .ok [(probability, bit)]

def append (first rest : BitWriter π ε) : BitWriter π ε :=
  (do
    let symbols ← first
    let others ← rest
    return symbols ++ others : Except ε (List (π × Bool)))

def concat : List (BitWriter π ε) → BitWriter π ε
  | [] => .ok []
  | writer :: rest => writer.append (concat rest)

def array (length : Nat) (element : Fin length → BitWriter π ε) :
    BitWriter π ε :=
  concat (List.ofFn element)

@[simp] theorem append_ok (symbols others : List (π × Bool)) :
    append (.ok symbols : BitWriter π ε) (.ok others) =
      .ok (symbols ++ others) :=
  rfl

@[simp] theorem append_nil (writer : BitWriter π ε) :
    writer.append (.ok []) = writer := by
  cases writer with
  | error failure => rfl
  | ok symbols => exact congrArg Except.ok (List.append_nil symbols)

@[simp] theorem nil_append (writer : BitWriter π ε) :
    append (.ok []) writer = writer := by
  cases writer with
  | error failure => rfl
  | ok symbols => rfl

theorem append_assoc (first second rest : BitWriter π ε) :
    (first.append second).append rest = first.append (second.append rest) := by
  cases first with
  | error failure => rfl
  | ok symbols =>
      cases second with
      | error failure => rfl
      | ok others =>
          cases rest with
          | error failure => rfl
          | ok last =>
              exact congrArg Except.ok (List.append_assoc symbols others last)

@[simp] theorem append_ok_append (symbols others : List (π × Bool))
    (rest : BitWriter π ε) :
    append (.ok symbols) (append (.ok others) rest) =
      append (.ok (symbols ++ others)) rest := by
  rw [← append_assoc, append_ok]

@[simp] theorem concat_nil : concat ([] : List (BitWriter π ε)) = .ok [] :=
  rfl

@[simp] theorem concat_cons (writer : BitWriter π ε)
    (rest : List (BitWriter π ε)) :
    concat (writer :: rest) = writer.append (concat rest) :=
  rfl

theorem array_succ {length : Nat} (element : Fin (length + 1) → BitWriter π ε) :
    array (length + 1) element =
      (element 0).append (array length fun index => element index.succ) := by
  unfold array
  rw [List.ofFn_succ, concat_cons]

theorem concat_length {length : Nat} {writers : List (BitWriter π ε)}
    (h : ∀ writer ∈ writers, ∃ symbols, writer = .ok symbols ∧
      symbols.length = length) :
    ∃ symbols, concat writers = .ok symbols ∧
      symbols.length = writers.length * length := by
  induction writers with
  | nil => exact ⟨[], rfl, (Nat.zero_mul length).symm⟩
  | cons writer rest ih =>
      obtain ⟨first, rfl, hfirst⟩ := h writer List.mem_cons_self
      obtain ⟨others, hothers, hlength⟩ := ih fun other hother =>
        h other (List.mem_cons_of_mem _ hother)
      refine ⟨first ++ others, ?_, ?_⟩
      · rw [concat_cons, hothers, append_ok]
      · rw [List.length_append, hfirst, hlength, List.length_cons,
          Nat.succ_mul, Nat.add_comm]

end BitWriter

namespace BitParser

variable {π ε ε' σ α β : Type}

/-- Asked for exactly the probabilities of these symbols, and answered with
their bits, the parser gives the value. -/
def Consumes : BitParser π ε α → List (π × Bool) → α → Prop
  | done value, symbols, result => symbols = [] ∧ value = result
  | fail _, _, _ => False
  | get probability next, symbols, result =>
      ∃ bit rest, symbols = (probability, bit) :: rest ∧
        (next bit).Consumes rest result
  | valid next, symbols, result =>
      ∀ answer, (next answer).Consumes symbols result

theorem consumes_pure (value : α) :
    (pure value : BitParser π ε α).Consumes [] value :=
  ⟨rfl, rfl⟩

theorem Consumes.bind {parser : BitParser π ε α}
    {continuation : α → BitParser π ε β} {symbols rest : List (π × Bool)}
    {value : α} {result : β} (h : parser.Consumes symbols value)
    (hrest : (continuation value).Consumes rest result) :
    (parser >>= continuation).Consumes (symbols ++ rest) result := by
  induction parser generalizing symbols with
  | done found =>
      obtain ⟨rfl, rfl⟩ := h
      exact hrest
  | fail failure => cases h
  | get probability next ih =>
      obtain ⟨bit, others, rfl, h⟩ := h
      exact ⟨bit, others ++ rest, rfl, ih bit h⟩
  | valid next ih => exact fun answer => ih answer (h answer)

theorem Consumes.map {parser : BitParser π ε α} {symbols : List (π × Bool)}
    {value : α} (f : α → β) (h : parser.Consumes symbols value) :
    (f <$> parser).Consumes symbols (f value) := by
  have hmapped : (parser >>= fun value => pure (f value)).Consumes
      (symbols ++ []) (f value) := h.bind (consumes_pure (f value))
  rw [List.append_nil] at hmapped
  exact hmapped

theorem Consumes.run {source : BitSource π σ}
    {Delivers : σ → List (π × Bool) → Prop}
    (hget : ∀ state probability bit rest,
      Delivers state ((probability, bit) :: rest) →
        (source.get state probability).1 = bit ∧
          Delivers (source.get state probability).2 rest)
    {parser : BitParser π ε α} {symbols rest : List (π × Bool)} {value : α}
    {state : σ} (h : parser.Consumes symbols value)
    (hstate : Delivers state (symbols ++ rest)) :
    ∃ last, parser.run source state = .ok (value, last) ∧
      Delivers last rest := by
  induction parser generalizing symbols state with
  | done found =>
      obtain ⟨rfl, rfl⟩ := h
      exact ⟨state, rfl, hstate⟩
  | fail failure => cases h
  | get probability next ih =>
      obtain ⟨bit, others, rfl, h⟩ := h
      obtain ⟨hbit, hnext⟩ := hget state probability bit _ hstate
      rw [← hbit] at h
      exact ih _ h hnext
  | valid next ih => exact ih _ (h _) hstate

/-- Where only these answers are given to whether the source has data, every
value given meets the postcondition. -/
def Yields (Answers : Bool → Prop) (Post : α → Prop) : BitParser π ε α → Prop
  | done value => Post value
  | fail _ => True
  | get _ next => ∀ bit, (next bit).Yields Answers Post
  | valid next => ∀ answer, Answers answer → (next answer).Yields Answers Post

variable {Answers : Bool → Prop}

theorem yields_trivial (parser : BitParser π ε α) :
    parser.Yields Answers fun _ => True := by
  induction parser with
  | done value => trivial
  | fail failure => trivial
  | get probability next ih => exact ih
  | valid next ih => exact fun answer _ => ih answer

theorem Yields.mono {Post Weaker : α → Prop} {parser : BitParser π ε α}
    (h : parser.Yields Answers Post)
    (hweaker : ∀ value, Post value → Weaker value) :
    parser.Yields Answers Weaker := by
  induction parser with
  | done value => exact hweaker value h
  | fail failure => trivial
  | get probability next ih => exact fun bit => ih bit (h bit)
  | valid next ih => exact fun answer hanswer => ih answer (h answer hanswer)

theorem Yields.and {Post Other : α → Prop} {parser : BitParser π ε α}
    (h : parser.Yields Answers Post) (hother : parser.Yields Answers Other) :
    parser.Yields Answers fun value => Post value ∧ Other value := by
  induction parser with
  | done value => exact ⟨h, hother⟩
  | fail failure => trivial
  | get probability next ih => exact fun bit => ih bit (h bit) (hother bit)
  | valid next ih =>
      exact fun answer hanswer => ih answer (h answer hanswer)
        (hother answer hanswer)

theorem Yields.bind {Post : α → Prop} {Next : β → Prop}
    {parser : BitParser π ε α} {continuation : α → BitParser π ε β}
    (h : parser.Yields Answers Post)
    (hnext : ∀ value, Post value → (continuation value).Yields Answers Next) :
    (parser >>= continuation).Yields Answers Next := by
  induction parser with
  | done value => exact hnext value h
  | fail failure => trivial
  | get probability next ih => exact fun bit => ih bit (h bit)
  | valid next ih => exact fun answer hanswer => ih answer (h answer hanswer)

theorem Ensures.yields {Post : α → Prop} {parser : BitParser π ε α}
    (h : parser.Ensures Post) : parser.Yields Answers Post := by
  induction parser with
  | done value => exact h
  | fail failure => trivial
  | get probability next ih => exact fun bit => ih bit (h bit)
  | valid next ih => exact fun answer _ => ih answer (h answer)

theorem Yields.of_run {Post : α → Prop} {source : BitSource π σ}
    {Inv : σ → Prop} (hget : ∀ state probability, Inv state →
      Inv (source.get state probability).2)
    (hvalid : ∀ state, Inv state → Answers (source.valid state))
    {parser : BitParser π ε α} {state last : σ} {value : α}
    (h : parser.Yields Answers Post) (hstate : Inv state)
    (hrun : parser.run source state = .ok (value, last)) :
    Post value ∧ Inv last := by
  induction parser generalizing state with
  | done result =>
      cases hrun
      exact ⟨h, hstate⟩
  | fail failure => cases hrun
  | get probability next ih =>
      exact ih _ (h _) (hget state probability hstate) hrun
  | valid next ih => exact ih _ (h _ (hvalid state hstate)) hstate hrun

def Blind : BitParser π ε α → Prop
  | done _ => True
  | fail _ => True
  | get _ next => ∀ bit, (next bit).Blind
  | valid _ => False

theorem Blind.yields {Post : α → Prop} {parser : BitParser π ε α}
    (hblind : parser.Blind)
    (h : ∀ symbols value, parser.Consumes symbols value → Post value) :
    parser.Yields Answers Post := by
  induction parser with
  | done value => exact h [] value (consumes_pure value)
  | fail failure => trivial
  | get probability next ih =>
      intro bit
      exact ih bit (hblind bit) fun symbols value hnext =>
        h ((probability, bit) :: symbols) value ⟨bit, symbols, rfl, hnext⟩
  | valid next ih => cases hblind

/-- Every value of the parser is written as the symbols written so far and
then others, which `again` consumes to give the same value. -/
def Echoes (Answers : Bool → Prop) (written : List (π × Bool))
    (parser again : BitParser π ε α) (write : α → BitWriter π ε') : Prop :=
  parser.Yields Answers fun value => ∃ rest,
    write value = .ok (written ++ rest) ∧ again.Consumes rest value

variable {written : List (π × Bool)}

theorem echoes_pure {value : α} {write : α → BitWriter π ε'}
    (h : write value = .ok written) :
    Echoes Answers written (pure value : BitParser π ε α) (pure value) write :=
  ⟨[], by rw [h, List.append_nil], consumes_pure value⟩

theorem echoes_fail (failure : ε) (again : BitParser π ε α)
    (write : α → BitWriter π ε') :
    Echoes Answers written (.fail failure) again write :=
  trivial

theorem Echoes.bind_of {Post : α → Prop} {first firstAgain : BitParser π ε α}
    {next nextAgain : α → BitParser π ε β} {writeFirst : α → BitWriter π ε'}
    {write : β → BitWriter π ε'}
    (h : Echoes Answers [] first firstAgain writeFirst)
    (hpost : first.Yields Answers Post)
    (hnext : ∀ value symbols, Post value → writeFirst value = .ok symbols →
      Echoes Answers (written ++ symbols) (next value) (nextAgain value)
        write) :
    Echoes Answers written (first >>= next) (firstAgain >>= nextAgain)
      write := by
  apply (Yields.and h hpost).bind
  rintro value ⟨⟨symbols, hsymbols, hfirst⟩, hvalue⟩
  refine (hnext value symbols hvalue hsymbols).mono ?_
  rintro result ⟨rest, hrest, hresult⟩
  exact ⟨symbols ++ rest, by rw [hrest, List.append_assoc],
    hfirst.bind hresult⟩

theorem Echoes.bind {first firstAgain : BitParser π ε α}
    {next nextAgain : α → BitParser π ε β} {writeFirst : α → BitWriter π ε'}
    {write : β → BitWriter π ε'}
    (h : Echoes Answers [] first firstAgain writeFirst)
    (hnext : ∀ value symbols, writeFirst value = .ok symbols →
      Echoes Answers (written ++ symbols) (next value) (nextAgain value)
        write) :
    Echoes Answers written (first >>= next) (firstAgain >>= nextAgain) write :=
  h.bind_of (yields_trivial first) fun value symbols _ => hnext value symbols

theorem Echoes.congr {parser again : BitParser π ε α}
    {write other : α → BitWriter π ε'} {Post : α → Prop}
    (h : Echoes Answers written parser again write)
    (hpost : parser.Yields Answers Post)
    (hwrite : ∀ value, Post value → other value = write value) :
    Echoes Answers written parser again other := by
  refine (Yields.and h hpost).mono ?_
  rintro value ⟨⟨rest, hrest, hvalue⟩, hpost⟩
  exact ⟨rest, by rw [hwrite value hpost, hrest], hvalue⟩

theorem Echoes.map {parser again : BitParser π ε α}
    {write : α → BitWriter π ε'} {writeMapped : β → BitWriter π ε'} {f : α → β}
    (h : Echoes Answers written parser again write)
    (hwrite : ∀ value, writeMapped (f value) = write value) :
    Echoes Answers written (f <$> parser) (f <$> again) writeMapped := by
  apply Yields.bind h
  rintro value ⟨rest, hrest, hvalue⟩
  exact ⟨rest, by rw [hwrite, hrest], hvalue.map f⟩

theorem echoes_get (probability : π) :
    Echoes Answers [] (.get probability .done : BitParser π ε Bool)
      (.get probability .done)
      (fun bit => (BitWriter.put probability bit : BitWriter π ε')) :=
  fun bit => ⟨[(probability, bit)], rfl, bit, [], rfl, rfl, rfl⟩

theorem echoes_valid {next : Bool → BitParser π ε α} {again : BitParser π ε α}
    {write : α → BitWriter π ε'} (h : ∀ answer, Answers answer →
      Echoes Answers written (next answer) again write) :
    Echoes Answers written (.valid next) again write :=
  h

theorem Echoes.unasked {parser again : BitParser π ε α}
    {write : α → BitWriter π ε'}
    (h : Echoes Answers written parser again write) :
    Echoes Answers written parser (.valid fun _ => again) write :=
  Yields.mono h fun _ ⟨rest, hrest, hvalue⟩ => ⟨rest, hrest, fun _ => hvalue⟩

def Reaches (parser : BitParser π ε α) (value : α) : Prop :=
  ∃ symbols, parser.Consumes symbols value

theorem reaches_pure (value : α) :
    (pure value : BitParser π ε α).Reaches value :=
  ⟨[], consumes_pure value⟩

theorem reaches_get {probability : π} {next : Bool → BitParser π ε α}
    {value : α} (bit : Bool) (h : (next bit).Reaches value) :
    (get probability next).Reaches value := by
  obtain ⟨symbols, h⟩ := h
  exact ⟨(probability, bit) :: symbols, bit, symbols, rfl, h⟩

theorem Reaches.bind {parser : BitParser π ε α}
    {continuation : α → BitParser π ε β} {value : α} {result : β}
    (h : parser.Reaches value) (hnext : (continuation value).Reaches result) :
    (parser >>= continuation).Reaches result := by
  obtain ⟨symbols, h⟩ := h
  obtain ⟨rest, hrest⟩ := hnext
  exact ⟨symbols ++ rest, h.bind hrest⟩

theorem Reaches.map {parser : BitParser π ε α} {value : α} (f : α → β)
    (h : parser.Reaches value) : (f <$> parser).Reaches (f value) := by
  obtain ⟨symbols, h⟩ := h
  exact ⟨symbols, h.map f⟩

theorem Reaches.unasked {next : Bool → BitParser π ε α}
    {again : BitParser π ε α} {value : α} (h : again.Reaches value)
    (hnext : ∀ answer, next answer = again) : (valid next).Reaches value := by
  obtain ⟨symbols, h⟩ := h
  exact ⟨symbols, fun answer => hnext answer ▸ h⟩

theorem Reaches.of_yields {Post : α → Prop} {parser : BitParser π ε α}
    {value : α} (h : parser.Reaches value)
    (hpost : parser.Yields (fun _ => True) Post) : Post value := by
  obtain ⟨symbols, h⟩ := h
  induction parser generalizing symbols with
  | done found =>
      obtain ⟨-, rfl⟩ := h
      exact hpost
  | fail failure => cases h
  | get probability next ih =>
      obtain ⟨bit, others, rfl, h⟩ := h
      exact ih bit (hpost bit) others h
  | valid next ih => exact ih true (hpost true trivial) symbols (h true)

/-- Where all that is read is written back, a value that is read from something
is read from what is written for it. -/
theorem Reaches.echoed {parser again : BitParser π ε α}
    {write : α → BitWriter π ε'} {value : α} (h : parser.Reaches value)
    (hechoes : Echoes (fun _ => True) [] parser again write) :
    ∃ symbols, write value = .ok symbols ∧ again.Consumes symbols value :=
  h.of_yields hechoes

theorem Echoes.reaches_of_run {parser again : BitParser π ε α}
    {write : α → BitWriter π ε'} {source : BitSource π σ} {state last : σ}
    {value : α}
    (h : Echoes (fun _ => True) [] parser again write)
    (hrun : parser.run source state = .ok (value, last)) :
    again.Reaches value := by
  obtain ⟨⟨symbols, -, hreads⟩, -⟩ := h.of_run
    (fun _ _ (_ : True) => trivial) (fun _ _ => trivial) trivial hrun
  exact ⟨symbols, hreads⟩

theorem Completes.exists_value {Post Other : α → Prop}
    {parser : BitParser π ε α} (h : parser.Completes (fun _ => True) Post)
    (hother : parser.Yields (fun _ => True) Other) :
    ∃ value, Post value ∧ Other value := by
  induction parser with
  | done value => exact ⟨value, h, hother⟩
  | fail failure => cases h
  | get probability next ih => exact ih false (h false) (hother false)
  | valid next ih =>
      exact ih false (h false trivial) (hother false trivial)

theorem Echoes.exists_reaches {Post : α → Prop} {parser again : BitParser π ε α}
    {write : α → BitWriter π ε'}
    (h : Echoes (fun _ => True) [] parser again write)
    (hcompletes : parser.Completes (fun _ => True) Post) :
    ∃ value, again.Reaches value := by
  obtain ⟨value, -, symbols, -, hreads⟩ := hcompletes.exists_value h
  exact ⟨value, symbols, hreads⟩

theorem yields_array {length : Nat} {element : Fin length → BitParser π ε α}
    {Post : Fin length → α → Prop}
    (h : ∀ index, (element index).Yields Answers fun value =>
      Post index value ∧ (element index).Consumes [] value) :
    (array length element).Yields Answers fun values =>
      (∀ index, Post index (values index)) ∧
        (array length element).Consumes [] values := by
  induction length with
  | zero => exact ⟨fun index => index.elim0, rfl, rfl⟩
  | succ length ih =>
      apply (h 0).bind
      rintro first ⟨hfirst, hreadsFirst⟩
      apply Yields.bind (ih fun index => h index.succ)
      rintro rest ⟨hrest, hreads⟩
      refine ⟨fun index => ?_, hreadsFirst.bind (hreads.bind
        (consumes_pure _))⟩
      cases index using Fin.cases with
      | zero => exact hfirst
      | succ index => exact hrest index

theorem echoes_array {length : Nat}
    {element again : Fin length → BitParser π ε α}
    {write : Fin length → α → BitWriter π ε'}
    (h : ∀ index, Echoes Answers [] (element index) (again index)
      (write index)) :
    Echoes Answers [] (array length element) (array length again)
      fun values => BitWriter.array length fun index =>
        write index (values index) := by
  induction length with
  | zero => exact ⟨[], rfl, rfl, rfl⟩
  | succ length ih =>
      apply (h 0).bind
      intro first symbols hfirst
      refine Yields.bind (ih fun index => h index.succ) ?_
      rintro rest ⟨others, hothers, hrest⟩
      refine ⟨others, ?_, ?_⟩
      · rw [List.nil_append] at hothers
        let values : Fin (length + 1) → α := Fin.cons first rest
        change (BitWriter.array (length + 1) fun index =>
          write index (values index)) = _
        have hrest : (BitWriter.array length fun index =>
            write index.succ (values index.succ)) = .ok others := hothers
        rw [BitWriter.array_succ, hrest, show values 0 = first from rfl, hfirst]
        rfl
      · let last (rest : Fin length → α) : BitParser π ε (Fin (length + 1) → α) :=
          pure (Fin.cons first rest)
        have hdone := hrest.bind (show (last rest).Consumes []
          (Fin.cons first rest) from consumes_pure _)
        rw [List.append_nil] at hdone
        exact hdone

theorem reaches_array {length : Nat} {element : Fin length → BitParser π ε α}
    {values : Fin length → α}
    (h : ∀ index, (element index).Reaches (values index)) :
    (array length element).Reaches values := by
  induction length with
  | zero => exact ⟨[], rfl, funext fun index => index.elim0⟩
  | succ length ih =>
      have hrest := ih fun index => h index.succ
      have hvalues : (Fin.cons (values 0) fun index => values index.succ :
          Fin (length + 1) → α) = values := Fin.cons_self_tail values
      have hlast : (pure (Fin.cons (values 0) fun index => values index.succ) :
          BitParser π ε (Fin (length + 1) → α)).Reaches values := by
        rw [hvalues]
        exact reaches_pure values
      exact (h 0).bind (hrest.bind hlast)

end BitParser

end Salsify
