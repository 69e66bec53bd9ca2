import Salsify.Lib.Fallible
import Salsify.Net.Fragmentation
import Mathlib.Data.List.TakeWhile

namespace Salsify.Net

/-! Putting the packets of a frame together again, in any order and any number
of times. -/

namespace FragmentedFrame

open Packet (MAXIMUM_PAYLOAD)

section Slots

variable {header : FrameHeader} {wholeFrame : List UInt8}

theorem fragment_payload_ne {index : Nat}
    (hindex : index < fragmentCount wholeFrame) :
    (fragment header wholeFrame index).payload ≠ [] := by
  have hstart := (lt_fragmentCount_iff wholeFrame index).mp hindex
  apply List.ne_nil_of_length_pos
  simp only [fragment, rawFragment, fragmentPayload, List.length_take,
    List.length_drop, MAXIMUM_PAYLOAD] at hstart ⊢
  omega

theorem fragment_lt {index : Nat}
    (hindex : index < fragmentCount wholeFrame)
    (hcount : fragmentCount wholeFrame < 2 ^ 16) :
    (fragment header wholeFrame index).fragmentNo <
      UInt16.ofNat (fragmentCount wholeFrame) := by
  rw [UInt16.lt_iff_toNat_lt, fragment_fragmentNo hindex hcount,
    UInt16.toNat_ofNat', Nat.mod_eq_of_lt hcount]
  exact hindex

theorem fragment_wellFormed {index : Nat}
    (hindex : index < fragmentCount wholeFrame)
    (hcount : fragmentCount wholeFrame < 2 ^ 16) :
    (fragment header wholeFrame index).WellFormed where
  valid := rfl
  fragment_lt := fragment_lt hindex hcount
  payload_ne := fragment_payload_ne hindex

/-- The incoming frame when exactly the fragments in `got` have arrived. -/
def board (header : FrameHeader) (wholeFrame : List UInt8)
    (got : Nat → Bool) : FragmentedFrame where
  connectionId := header.connectionId
  sourceState := header.sourceState
  targetState := header.targetState
  frameNo := header.frameNo
  fragmentsInThisFrame := UInt16.ofNat (fragmentCount wholeFrame)
  framePushTimestamp := header.framePushTimestamp
  rttAverage := header.rttAverage
  throughput := header.throughput
  fragments := (List.range (fragmentCount wholeFrame)).map fun index =>
    if got index then fragment header wholeFrame index else Packet.invalid
  remainingFragments := UInt32.ofNat
    ((List.range (fragmentCount wholeFrame)).countP fun index => !got index)

theorem sanityCheck_board (got : Nat → Bool) {index : Nat}
    (hindex : index < fragmentCount wholeFrame)
    (hcount : fragmentCount wholeFrame < 2 ^ 16) :
    (board header wholeFrame got).sanityCheck
      (fragment header wholeFrame index) = .ok () := by
  have hlt : (fragment header wholeFrame index).fragmentNo <
      (board header wholeFrame got).fragmentsInThisFrame :=
    fragment_lt hindex hcount
  simp only [sanityCheck, hlt, decide_true, require_true]
  simp [board, fragment, rawFragment]
  rfl

theorem countP_update {got : Nat → Bool} {index count : Nat}
    (hindex : index < count) (hgot : got index = false) :
    (List.range count).countP (fun other =>
        !Function.update got index true other) + 1 =
      (List.range count).countP fun other => !got other := by
  induction count with
  | zero => omega
  | succ count ih =>
      rw [List.range_succ, List.countP_append, List.countP_append]
      by_cases hlast : index = count
      · subst index
        have hbefore : (List.range count).countP (fun other =>
              !Function.update got count true other) =
            (List.range count).countP fun other => !got other := by
          apply List.countP_congr
          intro other hother
          have hne : other ≠ count := (List.mem_range.mp hother).ne
          rw [Function.update_of_ne hne]
        rw [hbefore]
        simp [hgot]
      · have hkept : Function.update got index true count = got count :=
          Function.update_of_ne (Ne.symm hlast) true got
        have := ih (by omega)
        simp only [List.countP_singleton, hkept]
        omega

theorem fragments_board (header : FrameHeader) (got : Nat → Bool) {index : Nat}
    (hindex : index < fragmentCount wholeFrame) :
    (board header wholeFrame got).fragments[index]? =
      some (if got index then fragment header wholeFrame index
        else Packet.invalid) := by
  simp [board, List.getElem?_map, List.getElem?_range hindex]

theorem fragments_board_set (header : FrameHeader) (wholeFrame : List UInt8)
    (got : Nat → Bool) (index : Nat) :
    (board header wholeFrame got).fragments.set index
        (fragment header wholeFrame index) =
      (board header wholeFrame (Function.update got index true)).fragments := by
  apply List.ext_getElem?
  intro other
  simp only [board, List.getElem?_set, List.getElem?_map, List.length_map,
    List.length_range]
  by_cases hother : other < fragmentCount wholeFrame
  · rw [List.getElem?_range hother]
    by_cases hsame : index = other
    · subst other
      simp [hother]
    · simp [hsame, Function.update_of_ne (Ne.symm hsame)]
  · rw [List.getElem?_eq_none (by simpa using Nat.le_of_not_lt hother)]
    by_cases hsame : index = other
    · subst other
      simp [hother]
    · simp [hsame]

theorem addPacket_board (got : Nat → Bool) {index : Nat}
    (hindex : index < fragmentCount wholeFrame)
    (hcount : fragmentCount wholeFrame < 2 ^ 16) :
    (board header wholeFrame got).addPacket (fragment header wholeFrame index) =
      .ok (board header wholeFrame (Function.update got index true)) := by
  have hslot := fragments_board header got hindex
  have hset := fragments_board_set header wholeFrame got index
  simp only [addPacket, sanityCheck_board got hindex hcount,
    fragment_fragmentNo hindex hcount, hslot, hset, bind, Except.bind]
  cases hgot : got index with
  | true =>
      have hsame : Function.update got index true = got :=
        Function.update_eq_self_iff.mpr hgot.symm
      rw [hsame]
      rfl
  | false =>
      have hmissing : (board header wholeFrame got).remainingFragments - 1 =
          (board header wholeFrame
            (Function.update got index true)).remainingFragments := by
        simp only [board, ← countP_update hindex hgot, UInt32.ofNat_add]
        exact UInt32.add_sub_cancel _ 1
      rw [hmissing]
      rfl

theorem emptyFor_fragment (header : FrameHeader) (index : Nat)
    (hcount : fragmentCount wholeFrame < 2 ^ 16) :
    emptyFor header.connectionId (fragment header wholeFrame index) =
      board header wholeFrame fun _ => false := by
  have hno : (UInt16.ofNat (fragmentCount wholeFrame)).toNat =
      fragmentCount wholeFrame := by
    rw [UInt16.toNat_ofNat', Nat.mod_eq_of_lt hcount]
  have hremaining : (UInt16.ofNat (fragmentCount wholeFrame)).toUInt32 =
      UInt32.ofNat (fragmentCount wholeFrame) := by
    apply UInt32.toNat_inj.mp
    rw [UInt16.toNat_toUInt32, hno, UInt32.toNat_ofNat']
    omega
  simp [emptyFor, board, fragment, rawFragment, hno, hremaining]

theorem incoming_fragment {index : Nat}
    (hindex : index < fragmentCount wholeFrame)
    (hcount : fragmentCount wholeFrame < 2 ^ 16) :
    incoming header.connectionId (fragment header wholeFrame index) =
      .ok (board header wholeFrame
        (Function.update (fun _ => false) index true)) := by
  simp only [incoming, emptyFor_fragment header index hcount,
    sanityCheck_board _ hindex hcount, addPacket_board _ hindex hcount, bind,
    Except.bind]

theorem complete_board (got : Nat → Bool)
    (hcount : fragmentCount wholeFrame < 2 ^ 16) :
    (board header wholeFrame got).complete = true ↔
      ∀ index < fragmentCount wholeFrame, got index = true := by
  have hle := List.countP_le_length (p := fun index => !got index)
    (l := List.range (fragmentCount wholeFrame))
  rw [List.length_range] at hle
  have hzero : (board header wholeFrame got).complete = true ↔
      (List.range (fragmentCount wholeFrame)).countP
        (fun index => !got index) = 0 := by
    rw [complete, beq_iff_eq, ← UInt32.toNat_inj, board, UInt32.toNat_ofNat',
      Nat.mod_eq_of_lt (by omega)]
    rfl
  rw [hzero, List.countP_eq_zero]
  simp

/-- How many fragments have arrived with no gap from the first on. -/
def leadingRun (got : Nat → Bool) (count : Nat) : Nat :=
  ((List.range count).takeWhile got).length

theorem takeWhile_range (got : Nat → Bool) (count : Nat) :
    (List.range count).takeWhile got = List.range (leadingRun got count) := by
  have hleading := List.takeWhile_prefix got (l := List.range count)
  have hle : leadingRun got count ≤ count := by
    simpa [leadingRun] using hleading.length_le
  rw [List.prefix_iff_eq_take.mp hleading, List.take_range]
  congr 1
  exact Nat.min_eq_left hle

theorem leadingRun_spec (got : Nat → Bool) (count : Nat) :
    (∀ index < leadingRun got count, got index = true) ∧
      leadingRun got count ≤ count ∧
      (leadingRun got count < count → got (leadingRun got count) = false) := by
  have hrange := takeWhile_range got count
  refine ⟨?_, ?_, ?_⟩
  · intro index hindex
    have hmem : index ∈ (List.range count).takeWhile got := by
      rw [hrange]
      exact List.mem_range.mpr hindex
    exact List.mem_takeWhile_imp hmem
  · simpa [leadingRun] using
      (List.takeWhile_prefix got (l := List.range count)).length_le
  · intro hlt
    have hhead : ((List.range count).dropWhile got).head? =
        some (leadingRun got count) := by
      have hsplit := List.takeWhile_append_dropWhile (p := got)
        (l := List.range count)
      have hnext := congrArg (fun items => items[leadingRun got count]?) hsplit
      simp only [hrange] at hnext
      rwa [List.getElem?_append_right (by simp), List.length_range,
        Nat.sub_self, ← List.head?_eq_getElem?,
        List.getElem?_range hlt] at hnext
    have hnot := List.head?_dropWhile_not got (List.range count)
    rwa [hhead] at hnot

theorem partialFrame_board (header : FrameHeader)
    (wholeFrame : List UInt8) (got : Nat → Bool) :
    (board header wholeFrame got).partialFrame =
      ((List.range (leadingRun got (fragmentCount wholeFrame))).map
        (fragmentPayload wholeFrame)).flatten := by
  have hvalid : Packet.valid ∘ (fun index =>
        if got index then fragment header wholeFrame index
        else Packet.invalid) = got := by
    funext index
    cases hgot : got index <;> simp [hgot] <;> rfl
  have hrun := leadingRun_spec got (fragmentCount wholeFrame)
  rw [partialFrame]
  simp only [board, List.takeWhile_map, hvalid, takeWhile_range, List.map_map]
  congr 1
  apply List.map_congr_left
  intro index hindex
  have hgot := hrun.1 index (List.mem_range.mp hindex)
  simp [hgot, fragment, rawFragment]

theorem frame_board {got : Nat → Bool}
    (hall : ∀ index < fragmentCount wholeFrame, got index = true)
    (hcount : fragmentCount wholeFrame < 2 ^ 16) :
    (board header wholeFrame got).frame = .ok wholeFrame := by
  have hcomplete : (board header wholeFrame got).complete = true :=
    (complete_board got hcount).mpr hall
  have hpayloads : ((board header wholeFrame got).fragments.map
        Packet.payload).flatten = wholeFrame := by
    have hmap : (board header wholeFrame got).fragments.map Packet.payload =
        (List.range (fragmentCount wholeFrame)).map
          (fragmentPayload wholeFrame) := by
      simp only [board, List.map_map]
      apply List.map_congr_left
      intro index hindex
      have hgot := hall index (List.mem_range.mp hindex)
      simp [hgot, fragment, rawFragment]
    rw [hmap, flatten_payloads, List.take_of_length_le]
    have hlast := mt (lt_fragmentCount_iff wholeFrame
      (fragmentCount wholeFrame)).mpr (Nat.lt_irrefl _)
    omega
  simp only [frame, hcomplete, require_true, hpayloads]
  rfl

/-- An incoming frame built from `first` and then given the packets of
`rest`. -/
def reassemble (connectionId : UInt16) (first : Packet) (rest : List Packet) :
    Except Failure FragmentedFrame := do
  let frame ← incoming connectionId first
  rest.foldlM addPacket frame

def delivered (received : List Packet) (index : Nat) : Bool :=
  received.any fun packet => packet.fragmentNo.toNat == index

theorem delivered_cons (header : FrameHeader) (got : Nat → Bool) {index : Nat}
    (hindex : index < fragmentCount wholeFrame)
    (hcount : fragmentCount wholeFrame < 2 ^ 16) (packets : List Packet) :
    (fun other => Function.update got index true other ||
        delivered packets other) =
      fun other => got other ||
        delivered (fragment header wholeFrame index :: packets) other := by
  funext other
  simp only [delivered, List.any_cons, fragment_fragmentNo hindex hcount]
  by_cases hother : index = other
  · subst other
    simp
  · rw [Function.update_of_ne (Ne.symm hother), beq_false_of_ne hother,
      Bool.false_or]

theorem addPackets_board (got : Nat → Bool) {packets : List Packet}
    (hpackets : ∀ packet ∈ packets, ∃ index < fragmentCount wholeFrame,
      packet = fragment header wholeFrame index)
    (hcount : fragmentCount wholeFrame < 2 ^ 16) :
    packets.foldlM addPacket (board header wholeFrame got) =
      .ok (board header wholeFrame fun index =>
        got index || delivered packets index) := by
  induction packets generalizing got with
  | nil =>
      simp only [delivered, List.any_nil, Bool.or_false]
      rfl
  | cons packet packets ih =>
      obtain ⟨index, hindex, rfl⟩ := hpackets packet List.mem_cons_self
      rw [List.foldlM_cons, addPacket_board got hindex hcount]
      simp only [bind, Except.bind]
      rw [ih _ fun other hother =>
        hpackets other (List.mem_cons_of_mem _ hother),
        delivered_cons header got hindex hcount]

theorem reassemble_board {first : Packet} {rest : List Packet}
    (hpackets : ∀ packet ∈ first :: rest,
      ∃ index < fragmentCount wholeFrame,
        packet = fragment header wholeFrame index)
    (hcount : fragmentCount wholeFrame < 2 ^ 16) :
    reassemble header.connectionId first rest =
      .ok (board header wholeFrame (delivered (first :: rest))) := by
  obtain ⟨index, hindex, rfl⟩ := hpackets first List.mem_cons_self
  simp only [reassemble, incoming_fragment hindex hcount, bind, Except.bind]
  rw [addPackets_board _ (fun other hother =>
    hpackets other (List.mem_cons_of_mem _ hother)) hcount,
    delivered_cons header _ hindex hcount]
  simp only [Bool.false_or]

theorem mem_fragments_iff {packet : Packet} :
    packet ∈ (List.range (fragmentCount wholeFrame)).map
        (fragment header wholeFrame) ↔
      ∃ index < fragmentCount wholeFrame,
        packet = fragment header wholeFrame index := by
  simp [List.mem_map, eq_comm]

end Slots

/-- Whatever arrives of the packets of a frame, and in whatever order, the
incoming frame counts what is missing, is complete exactly when nothing is, and
gives back the frame or the part of it received without a gap. -/
theorem reassemble_spec (header : FrameHeader) {wholeFrame : List UInt8}
    (hne : wholeFrame ≠ []) (hcount : fragmentCount wholeFrame ≤ 65535) :
    ∃ sent, outgoing header wholeFrame = .ok sent ∧
      (∀ packet ∈ sent.fragments, packet.transmit = .ok packet) ∧
      ∀ first rest,
        (∀ packet ∈ first :: rest,
          ∃ original ∈ sent.fragments, original.transmit = .ok packet) →
        ∃ received,
          reassemble header.connectionId first rest = .ok received ∧
          received.remainingFragments.toNat =
            (List.range sent.fragments.length).countP
              (fun index => !delivered (first :: rest) index) ∧
          (received.complete = true ↔
            ∀ index < sent.fragments.length,
              delivered (first :: rest) index = true) ∧
          (received.complete = true → received.frame = .ok wholeFrame) ∧
          received.partialFrame =
            ((sent.fragments.take (leadingRun (delivered (first :: rest))
              sent.fragments.length)).map Packet.payload).flatten ∧
          received.partialFrame <+: wholeFrame := by
  have hlt : fragmentCount wholeFrame < 2 ^ 16 := by omega
  have htransmit : ∀ packet ∈ (List.range (fragmentCount wholeFrame)).map
      (fragment header wholeFrame), packet.transmit = .ok packet := by
    intro packet hpacket
    obtain ⟨index, hindex, rfl⟩ := mem_fragments_iff.mp hpacket
    exact Packet.transmit_eq (fragment_wellFormed hindex hlt)
  refine ⟨_, outgoing_spec hne hlt, htransmit, ?_⟩
  intro first rest hreceived
  simp only [List.length_map, List.length_range]
  have hpackets : ∀ packet ∈ first :: rest,
      ∃ index < fragmentCount wholeFrame,
        packet = fragment header wholeFrame index := by
    intro packet hpacket
    obtain ⟨original, horiginal, hparsed⟩ := hreceived packet hpacket
    rw [htransmit original horiginal] at hparsed
    cases hparsed
    exact mem_fragments_iff.mp horiginal
  have hrun := leadingRun_spec (delivered (first :: rest))
    (fragmentCount wholeFrame)
  have hgapless := partialFrame_board header wholeFrame
    (delivered (first :: rest))
  have hremaining : (List.range (fragmentCount wholeFrame)).countP
      (fun index => !delivered (first :: rest) index) < 2 ^ 32 := by
    have hle := List.countP_le_length
      (p := fun index => !delivered (first :: rest) index)
      (l := List.range (fragmentCount wholeFrame))
    rw [List.length_range] at hle
    omega
  refine ⟨_, reassemble_board hpackets hlt, ?_, complete_board _ hlt, ?_, ?_, ?_⟩
  · rw [board, UInt32.toNat_ofNat', Nat.mod_eq_of_lt hremaining]
  · exact fun hcomplete =>
      frame_board ((complete_board _ hlt).mp hcomplete) hlt
  · rw [hgapless, ← List.map_take, List.take_range,
      Nat.min_eq_left hrun.2.1, List.map_map]
    rfl
  · rw [hgapless, flatten_payloads]
    exact List.take_prefix _ _

def sampleFrame : List UInt8 := List.replicate 1401 5

/-- Two fragments, the second arriving first and again after the other. -/
theorem reassemble_two_fragments :
    ∃ received,
      reassemble 1337 (fragment sampleHeader sampleFrame 1)
        [fragment sampleHeader sampleFrame 0,
          fragment sampleHeader sampleFrame 1] = .ok received ∧
      received.complete = true ∧
      received.frame = .ok sampleFrame := by
  have hcount : fragmentCount sampleFrame = 2 := by
    rw [fragmentCount, sampleFrame, List.length_replicate]
    rfl
  have hne : sampleFrame ≠ [] := List.cons_ne_nil _ _
  obtain ⟨sent, hsent, htransmit, hspec⟩ :=
    reassemble_spec sampleHeader hne (by rw [hcount]; decide)
  have hfragments : sent.fragments =
      [fragment sampleHeader sampleFrame 0,
        fragment sampleHeader sampleFrame 1] := by
    rw [outgoing_spec hne (by rw [hcount]; decide), hcount] at hsent
    rw [← Except.ok.inj hsent]
    rfl
  obtain ⟨received, hreceived, -, hcomplete, hframe, -, -⟩ := hspec
    (fragment sampleHeader sampleFrame 1)
    [fragment sampleHeader sampleFrame 0,
      fragment sampleHeader sampleFrame 1] (by
      intro packet hpacket
      have hmem : packet ∈ sent.fragments := by
        rw [hfragments]
        simp only [List.mem_cons, List.not_mem_nil, or_false] at hpacket ⊢
        exact or_iff_right_of_imp Or.inr |>.mp hpacket
      exact ⟨packet, hmem, htransmit packet hmem⟩)
  have hall : received.complete = true := by
    rw [hcomplete, hfragments]
    intro index hindex
    have hcases : index = 0 ∨ index = 1 := by
      simp only [List.length_cons, List.length_nil] at hindex
      omega
    rcases hcases with rfl | rfl
    · rfl
    · rfl
  exact ⟨received, hreceived, hall, hframe hall⟩

end FragmentedFrame

end Salsify.Net
