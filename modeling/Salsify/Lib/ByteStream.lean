import Salsify.Lib.Grid
import Salsify.Lib.LittleEndian

namespace Salsify.ByteStream

open LittleEndian

/-! Writers that append to a byte buffer and readers that consume one, for
formats with length fields that are patched once the length is known. -/

abbrev Writer := StateM (List UInt8)

namespace Writer

variable {α β : Type}

def put (bytes : List UInt8) : Writer Nat :=
  fun data => (data.length, data ++ bytes)

def putAt (bytes : List UInt8) (offset : Nat) : Writer Nat :=
  fun data => (offset,
    data.take offset ++ bytes ++ data.drop (offset + bytes.length))

/-- From any buffer, the writer appends exactly these bytes. -/
def Appends (writer : Writer α) (bytes : List UInt8) (result : α) : Prop :=
  ∀ data, writer data = (result, data ++ bytes)

theorem Appends.map {writer : Writer α} {bytes : List UInt8} {result : α}
    (h : writer.Appends bytes result) (f : α → β) :
    Appends (do return f (← writer)) bytes (f result) := by
  intro data
  change (f (writer data).1, (writer data).2) = _
  rw [h data]

theorem appends_pure (result : α) :
    Appends (pure result) [] result := by
  intro data
  rw [List.append_nil]
  rfl

theorem appends_put (bytes : List UInt8) (result : α) :
    Appends (do let _ ← put bytes; return result) bytes result :=
  fun _ => rfl

theorem Appends.bind {first : Writer α} {next : α → Writer β}
    {bytes more : List UInt8} {middle : α} {result : β}
    (hfirst : first.Appends bytes middle)
    (hnext : (next middle).Appends more result) :
    Appends (first >>= next) (bytes ++ more) result := by
  intro data
  change next (first data).1 (first data).2 = _
  rw [hfirst data, hnext, List.append_assoc]

theorem Appends.put {next : Writer β} {more : List UInt8} {result : β}
    (hnext : next.Appends more result) (bytes : List UInt8) :
    Appends (do let _ ← put bytes; next) (bytes ++ more) result := by
  intro data
  change next (data ++ bytes) = _
  rw [hnext, List.append_assoc]

theorem putAt_middle (front old new back : List UInt8)
    (hlength : new.length = old.length) :
    putAt new front.length (front ++ old ++ back) =
      (front.length, front ++ new ++ back) := by
  have htake : (front ++ old ++ back).take front.length = front := by
    rw [List.append_assoc, List.take_left]
  have hdrop : (front ++ old ++ back).drop (front.length + new.length) =
      back := by
    rw [hlength, ← List.length_append, List.drop_left]
  rw [putAt, htake, hdrop]

/-- A section that starts with a tag and a length field, which is written once
more when the body is there. -/
theorem appends_section {tag old new body : List UInt8}
    {writeBody : Writer α} {length : α} (field : α → List UInt8)
    (size : α → β) (hbody : writeBody.Appends body length)
    (hold : old.length = new.length) (hfield : field length = new) :
    Appends (do
        let _ ← put tag
        let placeholder ← put old
        let found ← writeBody
        let _ ← putAt (field found) placeholder
        return size found)
      (tag ++ new ++ body) (size length) := by
  intro data
  change (size (writeBody (data ++ tag ++ old)).1,
    (putAt (field (writeBody (data ++ tag ++ old)).1) (data ++ tag).length
      (writeBody (data ++ tag ++ old)).2).2) = _
  rw [hbody, hfield, putAt_middle (data ++ tag) old new body hold.symm]
  simp only [List.append_assoc]

end Writer

abbrev Reader (ε : Type) := StateT (List UInt8) (Except ε)

namespace Reader

variable {ε α β : Type}

def fail (failure : ε) : Reader ε α := fun _ => .error failure

def take (count : Nat) (failure : ε) : Reader ε (List UInt8) := fun data =>
  if count ≤ data.length then .ok (data.take count, data.drop count)
  else .error failure

def remaining : Reader ε Nat := fun data => .ok (data.length, data)

def lift (result : Except ε α) : Reader ε α := fun data =>
  result.map fun value => (value, data)

def ensure (holds : Bool) (failure : ε) : Reader ε Unit := fun data =>
  if holds then .ok ((), data) else .error failure

def peek (reader : Reader ε α) : Reader ε α := fun data =>
  (reader data).map fun result => (result.1, data)

def array : (length : Nat) → (Fin length → Reader ε α) →
    Reader ε (Fin length → α)
  | 0, _ => pure fun index => index.elim0
  | length + 1, element => do
      let first ← element 0
      let rest ← array length fun index => element index.succ
      return Fin.cons first rest

def grid (width height : Nat) (element : Reader ε α) :
    Reader ε (Grid α width height) := do
  let rows ← array height fun _ => array width fun _ => element
  return fun column row => rows row column

/-- In front of any other bytes, the reader takes exactly these. -/
def Reads (reader : Reader ε α) (bytes : List UInt8) (value : α) : Prop :=
  ∀ rest, reader (bytes ++ rest) = .ok (value, rest)

theorem reads_pure (value : α) :
    Reads (pure value : Reader ε α) [] value :=
  fun _ => rfl

theorem Reads.run_bind {first : Reader ε α} {bytes : List UInt8} {middle : α}
    (hfirst : first.Reads bytes middle) (next : α → Reader ε β)
    (rest : List UInt8) :
    (first >>= next) (bytes ++ rest) = next middle rest := by
  change (first (bytes ++ rest) >>= fun result => next result.1 result.2) = _
  rw [hfirst rest]
  rfl

theorem Reads.run_after {first : Reader ε α} {middle : α}
    (hfirst : first.Reads [] middle) (next : α → Reader ε β)
    (data : List UInt8) : (first >>= next) data = next middle data :=
  hfirst.run_bind next data

theorem run_remaining (next : Nat → Reader ε β) (data : List UInt8) :
    (remaining >>= next) data = next data.length data :=
  rfl

theorem Reads.bind {first : Reader ε α} {next : α → Reader ε β}
    {bytes more : List UInt8} {middle : α} {value : β}
    (hfirst : first.Reads bytes middle) (hnext : (next middle).Reads more value) :
    Reads (first >>= next) (bytes ++ more) value := by
  intro rest
  rw [List.append_assoc, hfirst.run_bind]
  exact hnext rest

theorem Reads.after {first : Reader ε α} {next : α → Reader ε β}
    {bytes : List UInt8} {middle : α} {value : β}
    (hfirst : first.Reads [] middle) (hnext : (next middle).Reads bytes value) :
    Reads (first >>= next) bytes value :=
  hfirst.bind hnext

theorem Reads.map {reader : Reader ε α} {bytes : List UInt8} {value : α}
    (h : reader.Reads bytes value) (f : α → β) :
    Reads (do return f (← reader)) bytes (f value) := by
  intro rest
  exact h.run_bind (fun result => pure (f result)) rest

theorem reads_ensure {holds : Bool} (h : holds = true) (failure : ε) :
    (ensure holds failure).Reads [] () := by
  intro rest
  rw [ensure, h]
  rfl

theorem Reads.ensureRemaining {next : Reader ε β} {bytes : List UInt8}
    {value : β} (hnext : next.Reads bytes value) {count : Nat}
    (hcount : count ≤ bytes.length) (failure : ε) :
    Reads (do
      let left ← remaining
      ensure (count ≤ left) failure
      next) bytes value := by
  intro rest
  have hleft : decide (count ≤ (bytes ++ rest).length) = true := by
    rw [decide_eq_true_eq, List.length_append]
    omega
  change ((if decide (count ≤ (bytes ++ rest).length) = true then
    .ok ((), bytes ++ rest) else .error failure) >>= fun result =>
      next result.2) = _
  rw [if_pos hleft]
  exact hnext rest

theorem Reads.peek {reader : Reader ε α} {next : α → Reader ε β}
    {front back : List UInt8} {middle : α} {value : β}
    (hreader : reader.Reads front middle)
    (hnext : (next middle).Reads (front ++ back) value) :
    Reads (reader.peek >>= next) (front ++ back) value := by
  intro rest
  change ((reader (front ++ back ++ rest)).map
    (fun result => (result.1, front ++ back ++ rest)) >>= fun result =>
      next result.1 result.2) = _
  rw [List.append_assoc front, hreader]
  change next middle (front ++ (back ++ rest)) = _
  rw [← List.append_assoc]
  exact hnext rest

/-- In front of any other bytes, the reader takes exactly these if it does not
fail. -/
def Gives (reader : Reader ε α) (bytes : List UInt8) (outcome : Except ε α) :
    Prop :=
  ∀ rest, reader (bytes ++ rest) = outcome.map fun value => (value, rest)

theorem gives_lift {result : Except ε α} {next : α → Reader ε β}
    {bytes : List UInt8} {value : β}
    (hnext : ∀ middle, (next middle).Reads bytes value) :
    Gives (lift result >>= next) bytes (result.map fun _ => value) := by
  intro rest
  change (result.map fun middle => (middle, bytes ++ rest)) >>=
    (fun found => next found.1 found.2) = _
  cases result with
  | ok middle => exact hnext middle rest
  | error failure => rfl

theorem Reads.bind_gives {first : Reader ε α} {next : α → Reader ε β}
    {bytes more : List UInt8} {middle : α} {outcome : Except ε β}
    (hfirst : first.Reads bytes middle)
    (hnext : (next middle).Gives more outcome) :
    Gives (first >>= next) (bytes ++ more) outcome := by
  intro rest
  rw [List.append_assoc, hfirst.run_bind]
  exact hnext rest

theorem Reads.after_gives {first : Reader ε α} {next : α → Reader ε β}
    {bytes : List UInt8} {middle : α} {outcome : Except ε β}
    (hfirst : first.Reads [] middle)
    (hnext : (next middle).Gives bytes outcome) :
    Gives (first >>= next) bytes outcome :=
  hfirst.bind_gives hnext

theorem Gives.map {reader : Reader ε α} {bytes : List UInt8}
    {outcome : Except ε α} (h : reader.Gives bytes outcome) (f : α → β) :
    Gives (do return f (← reader)) bytes (outcome.map f) := by
  intro rest
  change (reader (bytes ++ rest)) >>= (fun found => .ok (f found.1, found.2)) = _
  rw [h rest]
  cases outcome <;> rfl

theorem Gives.ensureRemaining {next : Reader ε β} {bytes : List UInt8}
    {outcome : Except ε β} (hnext : next.Gives bytes outcome) {count : Nat}
    (hcount : count ≤ bytes.length) (failure : ε) :
    Gives (do
      let left ← remaining
      ensure (count ≤ left) failure
      next) bytes outcome := by
  intro rest
  have hleft : decide (count ≤ (bytes ++ rest).length) = true := by
    rw [decide_eq_true_eq, List.length_append]
    omega
  rw [run_remaining, (reads_ensure hleft failure).run_after]
  exact hnext rest

theorem reads_take (bytes : List UInt8) (failure : ε) :
    (take bytes.length failure).Reads bytes bytes := by
  intro rest
  have hlength : bytes.length ≤ (bytes ++ rest).length := by
    rw [List.length_append]
    omega
  rw [take, if_pos hlength, List.take_left, List.drop_left]

theorem reads_array {length : Nat} {element : Fin length → Reader ε α}
    {bytes : Fin length → List UInt8} {values : Fin length → α}
    (h : ∀ index, (element index).Reads (bytes index) (values index)) :
    (array length element).Reads (List.ofFn bytes).flatten values := by
  induction length with
  | zero =>
      intro rest
      have hvalues : values = fun index => index.elim0 :=
        funext fun index => index.elim0
      rw [hvalues]
      rfl
  | succ length ih =>
      rw [List.ofFn_succ, List.flatten_cons, ← Fin.cons_self_tail values]
      apply (h 0).bind
      exact (ih fun index => h index.succ).map _

end Reader

end Salsify.ByteStream
