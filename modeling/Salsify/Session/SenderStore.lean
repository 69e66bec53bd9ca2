import Mathlib.Data.List.TakeWhile
import Salsify.Session.Sender

namespace Salsify.Session.Sender

open Salsify.Net

variable {η : Type} {minihash : η → UInt32}

/-! The sender's store of encoders: the map `encoders` against the list
`encoder_states` and the state the receiver is assumed to be in. -/

theorem encodeStart_cases {sender next : Sender η} {now later : Nat}
    (h : sender.encodeStart now later = .ok next) :
    (sender.encodeJobs.isSome ∧ next = sender) ∨
      ∃ cleaned selection encoder,
        sender.encodeJobs = none ∧
        sender.cleanUp = .ok cleaned ∧
        cleaned.select now later = .ok selection ∧
        cleaned.encoders selection.sourceHash = some encoder ∧
        next = { cleaned with
          conservativeUntil := selection.conservativeUntil
          encodeJobs := some ⟨encoder, selection.conservative⟩ } := by
  rw [encodeStart] at h
  cases hjobs : sender.encodeJobs with
  | some job =>
      simp only [hjobs] at h
      cases h
      exact Or.inl ⟨rfl, rfl⟩
  | none =>
      simp only [hjobs] at h
      obtain ⟨cleaned, hclean, h⟩ := Fallible.bind_eq_ok h
      obtain ⟨selection, hselect, h⟩ := Fallible.bind_eq_ok h
      cases hencoder : cleaned.encoders selection.sourceHash with
      | none => simp [hencoder] at h
      | some encoder =>
          simp only [hencoder] at h
          cases h
          exact Or.inr ⟨cleaned, selection, encoder, rfl, hclean, hselect,
            hencoder, rfl⟩

theorem closestOutput_mem {frameSize bestSizeDiff : Nat}
    {best : Option (EncodeOutput η)} {outputs : List (EncodeOutput η)}
    {picked : EncodeOutput η}
    (h : closestOutput frameSize best bestSizeDiff outputs = some picked) :
    best = some picked ∨ picked ∈ outputs := by
  induction outputs generalizing best bestSizeDiff with
  | nil => exact Or.inl h
  | cons output rest ih =>
      rw [closestOutput] at h
      split at h
      · rcases ih h with hsame | hrest
        · exact Or.inr (Option.some.inj hsame ▸ List.mem_cons_self)
        · exact Or.inr (List.mem_cons_of_mem output hrest)
      · exact (ih h).imp_right (List.mem_cons_of_mem output)

theorem bestOutput_mem {sender : Sender η} {frameSize : Nat}
    {outputs : List (EncodeOutput η)} {picked : EncodeOutput η}
    (h : sender.bestOutput frameSize outputs = .ok (some picked)) :
    picked ∈ outputs := by
  cases outputs with
  | nil => cases h
  | cons first rest =>
      rw [bestOutput] at h
      split at h
      · cases h
        exact List.mem_cons_self
      · split at h
        · cases h
        · split at h
          · next best hbest =>
              cases h
              exact (closestOutput_mem hbest).resolve_left nofun
          · dsimp only at h
            split at h
            · cases h
            · cases h
              cases hlast : rest.getLast? with
              | none => exact List.mem_cons_self
              | some last =>
                  exact List.mem_cons_of_mem first
                    (List.mem_of_getLast? hlast)

theorem pickOutput_mem {sender : Sender η} {outputs : List (EncodeOutput η)}
    {picked : EncodeOutput η}
    (h : sender.pickOutput outputs = .ok (some picked)) : picked ∈ outputs := by
  obtain ⟨size, -, h⟩ := Fallible.bind_eq_ok h
  exact bestOutput_mem h

theorem encodeEnd_cases {sender next : Sender η} {ended : EncodeOutputs η}
    {sent : Option FragmentedFrame}
    (h : encodeEnd minihash sender ended = .ok (next, sent)) :
    (sent = none ∧ (next = sender ∨ ∃ skipped, next = { sender with
      encodeJobs := none
      skippedCount := skipped })) ∨
      ∃ job picked frame fragments,
        sender.encodeJobs = some job ∧
        sender.pickOutput ended.outputs = .ok (some picked) ∧
        FragmentedFrame.outgoing (frameHeader minihash sender job ended picked)
          picked.frame = .ok frame ∧
        fragmentsUpTo sender.cumulativeFpf sender.frameNo
          frame.fragmentsInThisFrame.toNat = .ok fragments ∧
        sent = some frame ∧
        next = { sender with
          encodeJobs := none
          cumulativeFpf := sender.cumulativeFpf ++ [fragments]
          receiverAssumedState := some (minihash picked.encoder)
          encoders :=
            sender.encoders.insert (minihash picked.encoder) picked.encoder
          encoderStates := sender.encoderStates ++ [minihash picked.encoder]
          skippedCount := 0
          frameNo := sender.frameNo + 1 } := by
  rw [encodeEnd] at h
  cases hjobs : sender.encodeJobs with
  | none =>
      simp only [hjobs] at h
      cases h
      exact Or.inl ⟨rfl, Or.inl rfl⟩
  | some job =>
      simp only [hjobs] at h
      split at h
      · cases h
        exact Or.inl ⟨rfl, Or.inr ⟨_, rfl⟩⟩
      · obtain ⟨picked, hpick, h⟩ := Fallible.bind_eq_ok h
        cases picked with
        | none =>
            cases h
            exact Or.inl ⟨rfl, Or.inr ⟨_, rfl⟩⟩
        | some picked =>
            obtain ⟨⟨ended, frame⟩, hsend, h⟩ := Fallible.bind_eq_ok h
            cases h
            obtain ⟨frame, hframe, hsend⟩ := Fallible.bind_eq_ok hsend
            obtain ⟨fragments, hfragments, hsend⟩ := Fallible.bind_eq_ok hsend
            cases hsend
            exact Or.inr ⟨job, picked, frame, fragments, rfl, hpick, hframe,
              hfragments, rfl, rfl⟩

theorem handleAck_cases {sender next : Sender η} {ack : AckPacket}
    (h : sender.handleAck ack = .ok next) :
    next = sender ∨
      ∃ sequence,
        ack.connectionId = sender.connectionId ∧
        ackSeqNo ack sender.cumulativeFpf = .ok sequence ∧
        sender.lastAcked.any (sequence < ·) = false ∧
        next = { sender with
          lastAcked := some sequence
          avgDelay := ack.avgDelay
          receiverLastAckedState := some ack.currentState
          receiverCompleteStates := ack.completeStates } := by
  rw [handleAck] at h
  split at h
  · cases h
    exact Or.inl rfl
  · next hconnection =>
      obtain ⟨sequence, hsequence, h⟩ := Fallible.bind_eq_ok h
      split at h
      · cases h
        exact Or.inl rfl
      · next hnewer =>
          cases h
          exact Or.inr ⟨sequence, not_not.mp hconnection, hsequence,
            eq_false_of_ne_true hnewer, rfl⟩

theorem step_cases {sender next : Sender η} {event : SenderEvent η}
    (h : step minihash sender event = .ok next) :
    (∃ now later, event = .encodeStart now later ∧
      sender.encodeStart now later = .ok next) ∨
    (∃ ended sent, event = .encodeEnd ended ∧
      encodeEnd minihash sender ended = .ok (next, sent)) ∨
    ∃ ack, event = .ack ack ∧ sender.handleAck ack = .ok next := by
  cases event with
  | encodeStart now later =>
      refine Or.inl ⟨now, later, rfl, ?_⟩
      cases hstart : sender.encodeStart now later with
      | error failure => simp [step, handle, hstart, Except.map] at h
      | ok started => simpa [step, handle, hstart, Except.map] using h
  | encodeEnd ended =>
      cases hend : encodeEnd minihash sender ended with
      | error failure => simp [step, handle, hend, Except.map] at h
      | ok result =>
          obtain ⟨after, sent⟩ := result
          have hnext : after = next := by
            simpa [step, handle, hend, Except.map] using h
          exact Or.inr (Or.inl ⟨ended, sent, rfl, by rw [hend, hnext]⟩)
  | ack packet =>
      refine Or.inr (Or.inr ⟨packet, rfl, ?_⟩)
      cases hack : sender.handleAck packet with
      | error failure => simp [step, handle, hack, Except.map] at h
      | ok acked => simpa [step, handle, hack, Except.map] using h

def Passes (acked assumed state : UInt32) : Bool :=
  state != acked && state != assumed

/-- The walk drops a prefix of the list and erases exactly the dropped states
that are not listed behind it. -/
theorem forgetOlder_spec (acked assumed : UInt32) (states : List UInt32)
    (encoders : PartialMap UInt32 η) :
    ∃ kept, forgetOlder acked (some assumed) states encoders =
        .ok (states.dropWhile (Passes acked assumed),
          kept) ∧
      (∀ state, kept.Mem state ↔ encoders.Mem state ∧
        (state ∈ states.takeWhile (Passes acked assumed) →
          state ∈
            states.dropWhile (Passes acked assumed))) ∧
      ∀ state encoder, kept state = some encoder →
        encoders state = some encoder := by
  induction states generalizing encoders with
  | nil => exact ⟨encoders, rfl, by simp, fun _ _ h => h⟩
  | cons head rest ih =>
      by_cases hacked : head = acked
      · refine ⟨encoders, ?_, ?_, fun _ _ h => h⟩
        · simp [forgetOlder, Passes, hacked]
        · simp [Passes, hacked]
      by_cases hassumed : head = assumed
      · refine ⟨encoders, ?_, ?_, fun _ _ h => h⟩
        · have hne : ¬ assumed = acked := fun h => hacked (hassumed.trans h)
          simp [forgetOlder, optionalGet, Passes, hassumed, hne, bind,
            Except.bind]
        · simp [Passes, hassumed]
      have hgoes : Passes acked assumed head = true := by
        simp [Passes, hacked, hassumed]
      obtain ⟨kept, hkept, hmem, hvalue⟩ := ih
        (if head ∈ rest then encoders else encoders.erase head)
      rw [List.takeWhile_cons_of_pos hgoes, List.dropWhile_cons_of_pos hgoes]
      have hparts : ∀ state, state ∈ rest ↔
          state ∈ rest.takeWhile (Passes acked assumed) ∨
            state ∈
              rest.dropWhile (Passes acked assumed) := by
        intro state
        rw [← List.mem_append, List.takeWhile_append_dropWhile]
      refine ⟨kept, ?_, ?_, ?_⟩
      · simpa [forgetOlder, optionalGet, hacked, hassumed, bind, Except.bind]
          using hkept
      · intro state
        rw [hmem state, List.mem_cons]
        by_cases hrest : head ∈ rest
        · rw [if_pos hrest]
          refine and_congr_right fun _ => ⟨?_, fun h hdropped =>
            h (Or.inr hdropped)⟩
          rintro h (rfl | hdropped)
          · rcases (hparts state).mp hrest with hdropped | hlater
            · exact h hdropped
            · exact hlater
          · exact h hdropped
        · rw [if_neg hrest, PartialMap.mem_erase]
          constructor
          · rintro ⟨⟨hne, hstored⟩, h⟩
            refine ⟨hstored, ?_⟩
            rintro (rfl | hdropped)
            · exact absurd rfl hne
            · exact h hdropped
          · rintro ⟨hstored, h⟩
            refine ⟨⟨?_, hstored⟩, fun hdropped => h (Or.inr hdropped)⟩
            rintro rfl
            exact hrest ((hparts state).mpr (Or.inr (h (Or.inl rfl))))
      · intro state encoder hstate
        have h := hvalue state encoder hstate
        by_cases hrest : head ∈ rest
        · rwa [if_pos hrest] at h
        · rw [if_neg hrest] at h
          exact (PartialMap.erase_eq_some h).2

/-- Every listed state has its encoder, the assumed state is the one listed
last, and encoders are stored under their own hash. -/
structure Store (minihash : η → UInt32) (sender : Sender η) : Prop where
  listed : ∀ state ∈ sender.encoderStates, sender.encoders.Mem state
  assumed : sender.receiverAssumedState = sender.encoderStates.getLast?
  minihash : ∀ state encoder, sender.encoders state = some encoder →
    minihash encoder = state

theorem Store.assumed_mem {sender : Sender η} (h : Store minihash sender)
    {state : UInt32} (hstate : sender.receiverAssumedState = some state) :
    state ∈ sender.encoderStates := by
  rw [h.assumed] at hstate
  exact List.mem_of_getLast? hstate

def keptStates (sender : Sender η) : List UInt32 :=
  match sender.receiverLastAckedState, sender.receiverAssumedState with
  | some acked, some assumed =>
      if acked ≠ sender.initialState ∧ sender.encoders.Mem acked then
        sender.encoderStates.dropWhile (Passes acked assumed)
      else
        sender.encoderStates
  | _, _ => sender.encoderStates

theorem keptStates_suffix (sender : Sender η) :
    sender.keptStates <:+ sender.encoderStates := by
  rw [keptStates]
  split
  · split
    · exact List.dropWhile_suffix _
    · exact List.suffix_refl _
  · exact List.suffix_refl _

theorem keptStates_getLast? {sender : Sender η}
    (hstore : Store minihash sender) :
    sender.keptStates.getLast? = sender.encoderStates.getLast? := by
  rw [keptStates]
  split
  · next acked assumed _ hassumed =>
      split
      · have hlast : assumed ∈ sender.encoderStates :=
          hstore.assumed_mem hassumed
        have hne : sender.encoderStates.dropWhile (Passes acked assumed) ≠ [] := by
          intro hnil
          have hall := List.dropWhile_eq_nil_iff.mp hnil assumed hlast
          simp [Passes] at hall
        obtain ⟨dropped, hsplit⟩ := List.dropWhile_suffix (Passes acked assumed)
          (l := sender.encoderStates)
        conv_rhs => rw [← hsplit]
        rw [List.getLast?_append_of_ne_nil _ hne]
      · rfl
  · rfl

theorem cleanUp_spec {sender : Sender η} (hstore : Store minihash sender) :
    ∃ encoders, sender.cleanUp = .ok { sender with
        encoderStates := sender.keptStates
        encoders := encoders } ∧
      (∀ state, encoders.Mem state ↔ sender.encoders.Mem state ∧
        (state ∈ sender.encoderStates → state ∈ sender.keptStates)) ∧
      ∀ state encoder, encoders state = some encoder →
        sender.encoders state = some encoder := by
  have hunchanged : sender.keptStates = sender.encoderStates →
      sender.cleanUp = .ok sender →
      ∃ encoders, sender.cleanUp = .ok { sender with
          encoderStates := sender.keptStates
          encoders := encoders } ∧
        (∀ state, encoders.Mem state ↔ sender.encoders.Mem state ∧
          (state ∈ sender.encoderStates → state ∈ sender.keptStates)) ∧
        ∀ state encoder, encoders state = some encoder →
          sender.encoders state = some encoder := by
    intro hkept hclean
    refine ⟨sender.encoders, ?_, ?_, fun _ _ h => h⟩
    · rw [hclean, hkept]
    · intro state
      rw [hkept]
      exact ⟨fun h => ⟨h, id⟩, And.left⟩
  rcases Option.eq_none_or_eq_some sender.receiverLastAckedState with
    hacked | ⟨acked, hacked⟩
  · apply hunchanged
    · simp [keptStates, hacked]
    · simp [cleanUp, hacked]
  by_cases hruns : acked ≠ sender.initialState ∧ sender.encoders.Mem acked
  · rcases Option.eq_none_or_eq_some sender.receiverAssumedState with
      hassumed | ⟨assumed, hassumed⟩
    · have hnil : sender.encoderStates = [] := by
        rw [hstore.assumed] at hassumed
        exact List.getLast?_eq_none_iff.mp hassumed
      apply hunchanged
      · simp [keptStates, hacked, hassumed]
      · simp only [cleanUp, hacked, if_pos hruns, hnil, forgetOlder]
        exact congrArg Except.ok (by rw [← hnil, ← hacked])
    · obtain ⟨encoders, hforget, hmem, hvalue⟩ := forgetOlder_spec acked
        assumed sender.encoderStates sender.encoders
      have hkept : sender.keptStates =
          sender.encoderStates.dropWhile (Passes acked assumed) := by
        simp only [keptStates, hacked, hassumed, if_pos hruns]
      refine ⟨encoders, ?_, ?_, hvalue⟩
      · simp only [cleanUp, hacked, if_pos hruns, hassumed, hforget, hkept]
        rfl
      · intro state
        rw [hmem state, hkept]
        refine and_congr_right fun _ => ⟨fun h hlisted => ?_,
          fun h hdropped => h ((List.takeWhile_prefix _).subset hdropped)⟩
        rw [← List.takeWhile_append_dropWhile
          (p := Passes acked assumed) (l := sender.encoderStates),
          List.mem_append] at hlisted
        exact hlisted.elim h id
  · apply hunchanged
    · simp only [keptStates, hacked]
      split
      · next other _ hother _ =>
          cases hother
          rw [if_neg hruns]
      · rfl
    · simp only [cleanUp, hacked, if_neg hruns]

theorem cleanUp_store {sender cleaned : Sender η}
    (hstore : Store minihash sender) (h : sender.cleanUp = .ok cleaned) :
    Store minihash cleaned := by
  obtain ⟨encoders, hclean, hmem, hvalue⟩ := cleanUp_spec hstore
  rw [hclean] at h
  cases h
  refine ⟨?_, ?_, ?_⟩
  · intro state hstate
    exact (hmem state).mpr ⟨hstore.listed state
      ((keptStates_suffix sender).subset hstate), fun _ => hstate⟩
  · rw [keptStates_getLast? hstore]
    exact hstore.assumed
  · exact fun state encoder hencoder =>
      hstore.minihash state encoder (hvalue state encoder hencoder)

theorem start_store (operationMode : OperationMode) (connectionId : UInt16)
    (baseEncoder : η) (now : Nat) : Store minihash
      (start minihash operationMode connectionId baseEncoder now) := by
  refine ⟨?_, rfl, ?_⟩
  · intro state hstate
    cases hstate
  · intro state encoder hencoder
    rcases PartialMap.insert_eq_some hencoder with ⟨hkey, hvalue⟩ | hempty
    · rw [hkey, hvalue]
    · cases hempty

theorem encodeStart_store {sender next : Sender η} {now later : Nat}
    (hstore : Store minihash sender)
    (h : sender.encodeStart now later = .ok next) : Store minihash next := by
  rcases encodeStart_cases h with
    ⟨_, rfl⟩ | ⟨cleaned, selection, encoder, _, hclean, _, _, rfl⟩
  · exact hstore
  · have hcleaned := cleanUp_store hstore hclean
    exact ⟨hcleaned.listed, hcleaned.assumed, hcleaned.minihash⟩

theorem encodeEnd_store {sender next : Sender η} {ended : EncodeOutputs η}
    {sent : Option FragmentedFrame} (hstore : Store minihash sender)
    (h : encodeEnd minihash sender ended = .ok (next, sent)) :
    Store minihash next := by
  rcases encodeEnd_cases h with
    ⟨_, rfl | ⟨skipped, rfl⟩⟩ | ⟨job, picked, frame, fragments, _, _, _, _, _, rfl⟩
  · exact hstore
  · exact ⟨hstore.listed, hstore.assumed, hstore.minihash⟩
  · refine ⟨?_, ?_, ?_⟩
    · intro state hstate
      rw [PartialMap.mem_insert]
      rcases List.mem_append.mp hstate with hold | hnew
      · exact Or.inr (hstore.listed state hold)
      · exact Or.inl (List.mem_singleton.mp hnew)
    · exact (List.getLast?_concat ..).symm
    · intro state encoder hencoder
      rcases PartialMap.insert_eq_some hencoder with ⟨hkey, hvalue⟩ | hold
      · rw [hkey, hvalue]
      · exact hstore.minihash state encoder hold

theorem handleAck_store {sender next : Sender η} {ack : AckPacket}
    (hstore : Store minihash sender) (h : sender.handleAck ack = .ok next) :
    Store minihash next := by
  rcases handleAck_cases h with rfl | ⟨sequence, _, _, _, rfl⟩
  · exact hstore
  · exact ⟨hstore.listed, hstore.assumed, hstore.minihash⟩

theorem step_store {sender next : Sender η} {event : SenderEvent η}
    (hstore : Store minihash sender)
    (h : step minihash sender event = .ok next) : Store minihash next := by
  rcases step_cases h with
    ⟨now, later, _, h⟩ | ⟨ended, sent, _, h⟩ | ⟨ack, _, h⟩
  · exact encodeStart_store hstore h
  · exact encodeEnd_store hstore h
  · exact handleAck_store hstore h

theorem run_keeps_store {sender after : Sender η}
    {events : List (SenderEvent η)} (hstore : Store minihash sender)
    (hrun : run minihash sender events = .ok after) : Store minihash after :=
  Fallible.foldlM_invariant (Store minihash)
    (fun _ _ _ _ hstate hstep => step_store hstate hstep) hstore hrun

/-- In every state of a run every listed state and the assumed one have their
encoder, and the next clean-up succeeds and leaves it so. -/
theorem run_listed (operationMode : OperationMode) (connectionId : UInt16)
    (baseEncoder : η) (now : Nat) (events : List (SenderEvent η))
    (after : Sender η)
    (hrun : run minihash
      (start minihash operationMode connectionId baseEncoder now) events =
        .ok after) :
    (∀ state ∈ after.encoderStates, after.encoders.Mem state) ∧
      (∀ state, after.receiverAssumedState = some state →
        after.encoders.Mem state) ∧
      ∃ cleaned, after.cleanUp = .ok cleaned ∧
        ∀ state ∈ cleaned.encoderStates, cleaned.encoders.Mem state := by
  have hstore := run_keeps_store
    (start_store operationMode connectionId baseEncoder now) hrun
  refine ⟨hstore.listed, ?_, ?_⟩
  · intro state hstate
    exact hstore.listed state (hstore.assumed_mem hstate)
  · obtain ⟨encoders, hclean, _⟩ := cleanUp_spec hstore
    exact ⟨_, hclean, (cleanUp_store hstore hclean).listed⟩

def smallOutputs {η : Type} (encoder : η) (byte : UInt8) : EncodeOutputs η where
  outputs := [⟨encoder, [byte, byte], "improve"⟩,
    ⟨encoder, [byte], "fail-small"⟩]
  timeSinceLast := 0
  framePushTimestamp := 0
  rttAverage := 0
  throughput := 0
  clock := fun _ => 0

def stateAck (connectionId : UInt16) (frameNo : UInt32) (fragmentNo : UInt16)
    (currentState : UInt32) (completeStates : List UInt32) : AckPacket where
  connectionId := connectionId
  frameNo := frameNo
  fragmentNo := fragmentNo
  avgDelay := 0
  currentState := currentState
  packetSendTimestamp := 0
  ackDelay := 0
  frameOneWayDelay := 0
  frameFinishState := 1
  completeStates := completeStates

/-- Three frames, the first and the last of which lead to one state, and an
acknowledgement of the second before the fourth is begun. -/
def repeatedStates : List (SenderEvent UInt32) :=
  [.encodeStart 1 1, .encodeEnd (smallOutputs 2 5),
    .encodeStart 2 2, .encodeEnd (smallOutputs 3 6),
    .encodeStart 3 3, .encodeEnd (smallOutputs 2 7),
    .ack (stateAck 7 1 0 3 [2, 3]), .encodeStart 4 4]

theorem run_listed_repeated :
    ∃ after, run id (start id .s2 7 1 0) repeatedStates = .ok after ∧
      (∀ state ∈ after.encoderStates, after.encoders.Mem state) ∧
      (∀ state, after.receiverAssumedState = some state →
        after.encoders.Mem state) ∧
      ∃ cleaned, after.cleanUp = .ok cleaned ∧
        ∀ state ∈ cleaned.encoderStates, cleaned.encoders.Mem state := by
  obtain ⟨after, hafter⟩ : ∃ after,
      run id (start id .s2 7 1 0) repeatedStates = .ok after := ⟨_, rfl⟩
  exact ⟨after, hafter, run_listed .s2 7 1 0 repeatedStates after hafter⟩

end Salsify.Session.Sender
