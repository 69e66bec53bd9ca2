import Mathlib.Data.List.Basic
import Salsify.Net.Packet

namespace Salsify.Net

/-! The queue of `net/pacer.hh`, and the loop of `salsify-sender.cc` that drains
it. Times are in the nanoseconds that the clock counts. -/

structure ScheduledPacket where
  /-- The scheduled outgoing time. -/
  when : Int
  what : Chunk
  deriving DecidableEq

structure Pacer where
  queue : List ScheduledPacket := []

namespace Pacer

/-- Whole milliseconds, as an `int`. -/
def millis (left : Int) : Int := (left.tdiv (10 ^ 6)).bmod (2 ^ 32)

def msUntilDue (pacer : Pacer) (now : Int) : Int :=
  match pacer.queue with
  | [] => 1000
  | packet :: _ =>
      if millis (packet.when - now) < 0 then 0 else millis (packet.when - now)

def push (pacer : Pacer) (now : Int) (payload : Chunk)
    (delayMicroseconds : Nat) : Pacer :=
  match pacer.queue.getLast? with
  | none => ⟨[⟨now, payload⟩]⟩
  | some back =>
      ⟨pacer.queue ++ [⟨back.when + delayMicroseconds * 1000, payload⟩]⟩

def pop (pacer : Pacer) : Pacer := ⟨pacer.queue.tail⟩

end Pacer

/-- A turn of the loop that drains the queue is an event of its own, so that the
clock may advance between two of them. -/
inductive PacerEvent
  | push (payload : Chunk) (delayMicroseconds : Nat)
  | advance (nanoseconds : Nat)
  | drain

structure Release where
  packet : ScheduledPacket
  time : Int
  deriving DecidableEq

/-- The queue and the clock, with what has entered and left the queue. -/
structure Pacing where
  pacer : Pacer := {}
  now : Int
  pushed : List ScheduledPacket := []
  released : List Release := []

namespace Pacing

def push (pacing : Pacing) (payload : Chunk) (delayMicroseconds : Nat) :
    Pacing :=
  let pacer := pacing.pacer.push pacing.now payload delayMicroseconds
  { pacing with
    pacer := pacer
    pushed := pacing.pushed ++ pacer.queue.getLast?.toList }

def drain (pacing : Pacing) : Pacing :=
  if pacing.pacer.msUntilDue pacing.now = 0 then
    { pacing with
      pacer := pacing.pacer.pop
      released := pacing.released ++
        pacing.pacer.queue.head?.toList.map (⟨·, pacing.now⟩) }
  else
    pacing

def step (pacing : Pacing) : PacerEvent → Pacing
  | .push payload delayMicroseconds => pacing.push payload delayMicroseconds
  | .advance nanoseconds => { pacing with now := pacing.now + nanoseconds }
  | .drain => pacing.drain

def run (pacing : Pacing) (events : List PacerEvent) : Pacing :=
  events.foldl step pacing

def payloads : List PacerEvent → List Chunk
  | [] => []
  | .push payload _ :: rest => payload :: payloads rest
  | _ :: rest => payloads rest

theorem push_cases (pacing : Pacing) (payload : Chunk)
    (delayMicroseconds : Nat) :
    ∃ packet : ScheduledPacket,
      pacing.push payload delayMicroseconds = { pacing with
        pacer := ⟨pacing.pacer.queue ++ [packet]⟩
        pushed := pacing.pushed ++ [packet] } ∧
      packet.what = payload ∧
      ((pacing.pacer.queue = [] ∧ packet.when = pacing.now) ∨
        ∃ back, pacing.pacer.queue.getLast? = some back ∧
          back.when ≤ packet.when) := by
  obtain ⟨⟨queue⟩, now, pushed, released⟩ := pacing
  unfold push Pacer.push
  dsimp only
  cases hback : queue.getLast? with
  | none =>
      rw [List.getLast?_eq_none_iff] at hback
      subst hback
      exact ⟨_, rfl, rfl, .inl ⟨rfl, rfl⟩⟩
  | some back =>
      refine ⟨⟨back.when + delayMicroseconds * 1000, payload⟩, ?_, rfl,
        .inr ⟨back, rfl, ?_⟩⟩
      · simp
      · dsimp only
        omega

theorem drain_nil {pacing : Pacing} (h : pacing.pacer.queue = []) :
    pacing.drain = pacing := by
  unfold drain Pacer.msUntilDue
  simp only [h]
  rfl

theorem drain_cons {pacing : Pacing} {packet : ScheduledPacket}
    {rest : List ScheduledPacket} (h : pacing.pacer.queue = packet :: rest) :
    pacing.drain =
      if Pacer.millis (packet.when - pacing.now) ≤ 0 then
        { pacing with
          pacer := ⟨rest⟩
          released := pacing.released ++ [⟨packet, pacing.now⟩] }
      else pacing := by
  have hdue : pacing.pacer.msUntilDue pacing.now = 0 ↔
      Pacer.millis (packet.when - pacing.now) ≤ 0 := by
    unfold Pacer.msUntilDue
    rw [h]
    dsimp only
    split <;> omega
  unfold drain Pacer.pop
  simp only [hdue, h]
  rfl

/-- What has left the queue and what is in it are all that was pushed. -/
def InOrder (pacing : Pacing) : Prop :=
  pacing.released.map Release.packet ++ pacing.pacer.queue = pacing.pushed

theorem step_inOrder {pacing : Pacing} (h : pacing.InOrder)
    (event : PacerEvent) : (pacing.step event).InOrder := by
  unfold InOrder at h ⊢
  cases event with
  | push payload delayMicroseconds =>
      obtain ⟨packet, hpush, -, -⟩ :=
        push_cases pacing payload delayMicroseconds
      change (pacing.push payload delayMicroseconds).released.map _ ++ _ = _
      rw [step, hpush]
      dsimp only
      rw [← List.append_assoc, h]
  | advance nanoseconds => exact h
  | drain =>
      change pacing.drain.released.map _ ++ pacing.drain.pacer.queue =
        pacing.drain.pushed
      cases hqueue : pacing.pacer.queue with
      | nil =>
          rw [drain_nil hqueue]
          exact h
      | cons packet rest =>
          rw [drain_cons hqueue]
          split
          · rw [hqueue] at h
            rw [← h]
            simp
          · exact h

theorem run_inOrder {pacing : Pacing} (h : pacing.InOrder)
    (events : List PacerEvent) : (pacing.run events).InOrder := by
  induction events generalizing pacing with
  | nil => exact h
  | cons event rest ih => exact ih (step_inOrder h event)

theorem run_pushed (pacing : Pacing) (events : List PacerEvent) :
    (pacing.run events).pushed.map ScheduledPacket.what =
      pacing.pushed.map ScheduledPacket.what ++ payloads events := by
  induction events generalizing pacing with
  | nil => simp [run, payloads]
  | cons event rest ih =>
      change ((pacing.step event).run rest).pushed.map _ = _
      rw [ih]
      cases event with
      | push payload delayMicroseconds =>
          obtain ⟨packet, hpush, hwhat, -⟩ :=
            push_cases pacing payload delayMicroseconds
          simp [step, hpush, payloads, hwhat]
      | advance nanoseconds => rfl
      | drain =>
          have hpushed : pacing.drain.pushed = pacing.pushed := by
            unfold drain
            split <;> rfl
          rw [step, hpushed]
          rfl

/-- Every payload is in the queue or has left it, in the order of the pushes and
once; the times that are scheduled never go back, and no packet leaves before
its time. -/
structure Lawful (events : List PacerEvent) (pacing : Pacing) : Prop where
  payloads : pacing.pushed.map ScheduledPacket.what = payloads events
  inOrder : pacing.InOrder
  nondecreasing : pacing.pushed.Pairwise fun earlier later =>
    earlier.when ≤ later.when
  punctual : ∀ release ∈ pacing.released, release.packet.when ≤ release.time

/-- The time left is none, or makes a positive number of milliseconds. -/
def Counted (left : Int) : Prop :=
  0 < left → 0 < (left / 10 ^ 6).bmod (2 ^ 32)

/-- A turn of the drain loop finds its packet due, or a countable time away. -/
def Timely (pacing : Pacing) : PacerEvent → Prop
  | .drain => ∀ packet ∈ pacing.pacer.queue.head?,
      Counted (packet.when - pacing.now)
  | _ => True

def AllTimely : Pacing → List PacerEvent → Prop
  | _, [] => True
  | pacing, event :: rest =>
      pacing.Timely event ∧ AllTimely (pacing.step event) rest

theorem counted_iff (left : Int) :
    Counted left ↔ (Pacer.millis left ≤ 0 → left ≤ 0) := by
  have hdiv : 0 < left → left.tdiv (10 ^ 6) = left / 10 ^ 6 := fun h =>
    Int.tdiv_eq_ediv_of_nonneg h.le
  unfold Counted Pacer.millis
  constructor
  · intro hcounted hmillis
    by_contra hleft
    rw [Int.not_le] at hleft
    rw [hdiv hleft] at hmillis
    exact absurd (hcounted hleft) (Int.not_lt.mpr hmillis)
  · intro hdue hleft
    by_contra hmillis
    rw [Int.not_lt, ← hdiv hleft] at hmillis
    exact absurd (hdue hmillis) (Int.not_le.mpr hleft)

structure Spaced (pacing : Pacing) : Prop where
  inOrder : pacing.InOrder
  nondecreasing : pacing.pushed.Pairwise fun earlier later =>
    earlier.when ≤ later.when
  punctual : ∀ release ∈ pacing.released, release.packet.when ≤ release.time
  past : ∀ release ∈ pacing.released, release.time ≤ pacing.now

/-- A packet that is pushed is not scheduled before the packets pushed before
it. -/
theorem Spaced.push_after {pacing : Pacing} (h : pacing.Spaced)
    {packet : ScheduledPacket}
    (hpacket : (pacing.pacer.queue = [] ∧ packet.when = pacing.now) ∨
      ∃ back, pacing.pacer.queue.getLast? = some back ∧
        back.when ≤ packet.when) :
    ∀ earlier ∈ pacing.pushed, earlier.when ≤ packet.when := by
  intro earlier hearlier
  rcases hpacket with ⟨hempty, hwhen⟩ | ⟨back, hback, hwhen⟩
  · -- every packet before has left by now
    have horder := h.inOrder
    unfold InOrder at horder
    rw [hempty, List.append_nil] at horder
    rw [← horder] at hearlier
    obtain ⟨release, hrelease, rfl⟩ := List.mem_map.mp hearlier
    rw [hwhen]
    exact (h.punctual release hrelease).trans (h.past release hrelease)
  · have hlast : pacing.pushed.getLast? = some back := by
      rw [← h.inOrder, List.getLast?_append, hback]
      rfl
    obtain ⟨before, hbefore⟩ := List.getLast?_eq_some_iff.mp hlast
    have hpairs := h.nondecreasing
    rw [hbefore] at hpairs hearlier
    rcases List.mem_append.mp hearlier with hearlier | hearlier
    · exact ((List.pairwise_append.mp hpairs).2.2 earlier hearlier back
        (List.mem_singleton_self back)).trans hwhen
    · rw [List.mem_singleton.mp hearlier]
      exact hwhen

theorem Spaced.step {pacing : Pacing} (h : pacing.Spaced) {event : PacerEvent}
    (htimely : pacing.Timely event) : (pacing.step event).Spaced := by
  have horder := step_inOrder h.inOrder event
  cases event with
  | push payload delayMicroseconds =>
      obtain ⟨packet, hpush, -, hwhen⟩ :=
        push_cases pacing payload delayMicroseconds
      rw [Pacing.step, hpush] at horder ⊢
      refine { h with
        inOrder := horder
        nondecreasing := List.pairwise_append.mpr ⟨h.nondecreasing,
          List.pairwise_singleton _ packet, ?_⟩ }
      intro earlier hearlier later hlater
      rw [List.mem_singleton.mp hlater]
      exact h.push_after hwhen earlier hearlier
  | advance nanoseconds =>
      refine { h with inOrder := horder, past := fun release hrelease => ?_ }
      have hpast := h.past release hrelease
      change release.time ≤ pacing.now + nanoseconds
      omega
  | drain =>
      rw [Pacing.step] at horder ⊢
      cases hqueue : pacing.pacer.queue with
      | nil =>
          rw [drain_nil hqueue]
          exact h
      | cons packet rest =>
          rw [drain_cons hqueue] at horder ⊢
          split at horder
          · next hdue =>
              have hleft := (counted_iff _).mp (htimely packet (by
                rw [hqueue]
                exact rfl)) hdue
              rw [if_pos hdue]
              refine { h with
                inOrder := horder
                punctual := ?_
                past := ?_ }
              · intro release hrelease
                rcases List.mem_append.mp hrelease with hrelease | hrelease
                · exact h.punctual release hrelease
                · rw [List.mem_singleton.mp hrelease]
                  dsimp only
                  omega
              · intro release hrelease
                rcases List.mem_append.mp hrelease with hrelease | hrelease
                · exact h.past release hrelease
                · rw [List.mem_singleton.mp hrelease]
          · next hdue =>
              rw [if_neg hdue]
              exact h

theorem run_released (pacing : Pacing) (events : List PacerEvent) :
    pacing.released ⊆ (pacing.run events).released := by
  induction events generalizing pacing with
  | nil => exact List.Subset.refl _
  | cons event rest ih =>
      refine List.Subset.trans ?_ (ih (pacing.step event))
      cases event with
      | push payload delayMicroseconds => exact List.Subset.refl _
      | advance nanoseconds => exact List.Subset.refl _
      | drain =>
          rw [step, drain]
          split
          · exact List.subset_append_left _ _
          · exact List.Subset.refl _

theorem early_of_not_timely {pacing : Pacing} {event : PacerEvent}
    (h : ¬ pacing.Timely event) : ∃ release ∈ (pacing.step event).released,
      release.time < release.packet.when := by
  cases event with
  | push payload delayMicroseconds => exact absurd trivial h
  | advance nanoseconds => exact absurd trivial h
  | drain =>
      rw [Timely] at h
      push Not at h
      obtain ⟨packet, hpacket, hcounted⟩ := h
      rw [counted_iff, Classical.not_imp, Int.not_le] at hcounted
      cases hqueue : pacing.pacer.queue with
      | nil =>
          rw [hqueue] at hpacket
          cases hpacket
      | cons head rest =>
          rw [hqueue] at hpacket
          cases hpacket
          rw [step, drain_cons hqueue, if_pos hcounted.1]
          refine ⟨⟨packet, pacing.now⟩, List.mem_concat_self, ?_⟩
          have hleft := hcounted.2
          dsimp only
          omega

theorem Spaced.run_iff {pacing : Pacing} (h : pacing.Spaced)
    (events : List PacerEvent) :
    (pacing.run events).Spaced ↔ AllTimely pacing events := by
  induction events generalizing pacing with
  | nil => exact ⟨fun _ => trivial, fun _ => h⟩
  | cons event rest ih =>
      constructor
      · intro hrun
        have htimely : pacing.Timely event := by
          by_contra hlate
          obtain ⟨release, hrelease, hearly⟩ := early_of_not_timely hlate
          have hpunctual := hrun.punctual release
            (run_released (pacing.step event) rest hrelease)
          omega
        exact ⟨htimely, (ih (h.step htimely)).mp hrun⟩
      · rintro ⟨htimely, hrest⟩
        exact (ih (h.step htimely)).mpr hrest

def start (now : Int) : Pacing where
  now

theorem start_spaced (now : Int) : (start now).Spaced where
  inOrder := rfl
  nondecreasing := List.Pairwise.nil
  punctual := fun _ hrelease => absurd hrelease List.not_mem_nil
  past := fun _ hrelease => absurd hrelease List.not_mem_nil

theorem run_past {pacing : Pacing}
    (h : ∀ release ∈ pacing.released, release.time ≤ pacing.now)
    (events : List PacerEvent) :
    ∀ release ∈ (pacing.run events).released,
      release.time ≤ (pacing.run events).now := by
  induction events generalizing pacing with
  | nil => exact h
  | cons event rest ih =>
      apply ih
      cases event with
      | push payload delayMicroseconds => exact h
      | advance nanoseconds =>
          intro release hrelease
          have hpast := h release hrelease
          change release.time ≤ pacing.now + nanoseconds
          omega
      | drain =>
          rw [step, drain]
          split
          · intro release hrelease
            rcases List.mem_append.mp hrelease with hrelease | hrelease
            · exact h release hrelease
            · obtain ⟨packet, -, rfl⟩ := List.mem_map.mp hrelease
              exact le_rfl
          · exact h

/-- A run keeps to its schedule exactly when every turn of the drain loop does:
a packet that is less than a millisecond away is taken for due. -/
theorem run_lawful_iff (now : Int) (events : List PacerEvent) :
    ((start now).run events).Lawful events ↔ AllTimely (start now) events := by
  have horder := run_inOrder (start_spaced now).inOrder events
  rw [← (start_spaced now).run_iff events]
  constructor
  · intro h
    exact ⟨horder, h.nondecreasing, h.punctual,
      run_past (start_spaced now).past events⟩
  · intro h
    exact ⟨run_pushed (start now) events, horder, h.nondecreasing,
      h.punctual⟩

/-- The second of two packets leaves half a millisecond early. -/
theorem run_lawful_fails :
    ¬ ((start 0).run [.push [1] 0, .push [2] 500, .drain, .drain]).Lawful
      [.push [1] 0, .push [2] 500, .drain, .drain] := by
  intro h
  have hpunctual := h.punctual ⟨⟨500000, [2]⟩, 0⟩ (by decide)
  exact absurd hpunctual (by decide)

end Pacing

end Salsify.Net
