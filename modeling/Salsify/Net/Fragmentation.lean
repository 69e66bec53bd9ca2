import Salsify.Lib.Fallible
import Salsify.Lib.Turns
import Salsify.Net.FragmentedFrame

namespace Salsify.Net

/-! Cutting a frame into packets, for as long as sixteen bits can number them. -/

namespace FragmentedFrame

open Packet (MAXIMUM_PAYLOAD)

def fragmentCount (wholeFrame : List UInt8) : Nat :=
  (wholeFrame.length + (MAXIMUM_PAYLOAD - 1)) / MAXIMUM_PAYLOAD

def fragmentPayload (wholeFrame : List UInt8) (index : Nat) : List UInt8 :=
  (wholeFrame.drop (MAXIMUM_PAYLOAD * index)).take MAXIMUM_PAYLOAD

def rawFragment (header : FrameHeader) (wholeFrame : List UInt8)
    (index : Nat) : Packet where
  valid := true
  connectionId := header.connectionId
  sourceState := header.sourceState
  targetState := header.targetState
  frameNo := header.frameNo
  fragmentNo := UInt16.ofNat index
  fragmentsInThisFrame := 0
  timeSinceLast := 0
  packetSendTimestamp := header.clock index
  framePushTimestamp := header.framePushTimestamp
  rttAverage := header.rttAverage
  throughput := header.throughput
  payload := fragmentPayload wholeFrame index

def fragment (header : FrameHeader) (wholeFrame : List UInt8)
    (index : Nat) : Packet :=
  { rawFragment header wholeFrame index with
    fragmentsInThisFrame := UInt16.ofNat (fragmentCount wholeFrame)
    timeSinceLast := if index = 0 then header.timeSinceLast else 0 }

theorem lt_fragmentCount_iff (wholeFrame : List UInt8) (index : Nat) :
    index < fragmentCount wholeFrame ↔
      MAXIMUM_PAYLOAD * index < wholeFrame.length := by
  simp only [fragmentCount, MAXIMUM_PAYLOAD]
  omega

theorem fragmentCount_pos {wholeFrame : List UInt8} (hne : wholeFrame ≠ []) :
    0 < fragmentCount wholeFrame := by
  rw [lt_fragmentCount_iff]
  simpa using List.length_pos_iff.mpr hne

theorem outgoing_packet {header : FrameHeader} {wholeFrame : List UInt8}
    {index : Nat} (hindex : index < fragmentCount wholeFrame)
    (hnumber : index < 2 ^ 16) :
    Packet.outgoing wholeFrame header.connectionId header.sourceState
        header.targetState header.frameNo (UInt16.ofNat index) 0
        (header.clock index) header.framePushTimestamp header.rttAverage
        header.throughput =
      .ok (rawFragment header wholeFrame index,
        min (MAXIMUM_PAYLOAD * (index + 1)) wholeFrame.length) := by
  have hfirst := (lt_fragmentCount_iff wholeFrame index).mp hindex
  have hno : (UInt16.ofNat index).toNat = index :=
    UInt16.toNat_ofNat_of_lt' hnumber
  have hnonempty : wholeFrame.isEmpty = false := by
    cases wholeFrame with
    | nil => simp at hfirst
    | cons byte rest => rfl
  have hlength : (wholeFrame.drop (MAXIMUM_PAYLOAD * index)).take
        (min (wholeFrame.length - MAXIMUM_PAYLOAD * index) MAXIMUM_PAYLOAD) =
      fragmentPayload wholeFrame index := by
    rw [fragmentPayload, Nat.min_comm, ← List.length_drop, ← List.take_eq_take_min]
  have hend : MAXIMUM_PAYLOAD * index +
        min (wholeFrame.length - MAXIMUM_PAYLOAD * index) MAXIMUM_PAYLOAD =
      min (MAXIMUM_PAYLOAD * (index + 1)) wholeFrame.length := by
    rw [Nat.mul_add]
    omega
  have hfits : min (MAXIMUM_PAYLOAD * (index + 1)) wholeFrame.length ≤
      wholeFrame.length := Nat.min_le_right _ _
  simp only [Packet.outgoing, hno, hnonempty, hfirst, hlength, hend, hfits,
    Bool.not_false, decide_true, require_true]
  rfl

theorem fragmentLoop_spec (header : FrameHeader) {wholeFrame : List UInt8}
    (hcount : fragmentCount wholeFrame ≤ 2 ^ 16) (fuel index : Nat)
    (hindex : index ≤ fragmentCount wholeFrame)
    (hfuel : fragmentCount wholeFrame < index + fuel) :
    fragmentLoop header wholeFrame fuel (UInt16.ofNat index)
        (min (MAXIMUM_PAYLOAD * index) wholeFrame.length)
        ((List.range index).map (rawFragment header wholeFrame)) =
      .ok ((List.range (fragmentCount wholeFrame)).map
        (rawFragment header wholeFrame)) := by
  induction fuel generalizing index with
  | zero => omega
  | succ fuel ih =>
      have hiff := lt_fragmentCount_iff wholeFrame index
      rw [fragmentLoop]
      by_cases hmore : index < fragmentCount wholeFrame
      · have hstart : min (MAXIMUM_PAYLOAD * index) wholeFrame.length <
            wholeFrame.length := by omega
        have hnext : (List.range index).map (rawFragment header wholeFrame) ++
              [rawFragment header wholeFrame index] =
            (List.range (index + 1)).map (rawFragment header wholeFrame) := by
          rw [List.range_succ, List.map_append, List.map_singleton]
        have hsucc : UInt16.ofNat index + 1 = UInt16.ofNat (index + 1) := by
          rw [UInt16.ofNat_add]
          rfl
        rw [if_pos hstart, List.length_map, List.length_range,
          outgoing_packet hmore (Nat.lt_of_lt_of_le hmore hcount)]
        simp only [bind, Except.bind, hnext, hsucc]
        exact ih (index + 1) (by omega) (by omega)
      · have hstart : ¬ min (MAXIMUM_PAYLOAD * index) wholeFrame.length <
            wholeFrame.length := by omega
        obtain rfl : index = fragmentCount wholeFrame := by omega
        rw [if_neg hstart]
        rfl

/-- What the constructor does with the fragments once the loop has ended. -/
def finish (header : FrameHeader) (fragments : List Packet) :
    Except Failure FragmentedFrame := do
  let fragments ←
    match fragments with
    | [] => .error (.undefinedBehaviour "fragments_.front()")
    | front :: rest => .ok (front.setTimeToNext header.timeSinceLast :: rest)
  let count := UInt16.ofNat fragments.length
  let fragments ← fragments.mapM (Packet.setFragmentsInThisFrame · count)
  return {
    connectionId := header.connectionId
    sourceState := header.sourceState
    targetState := header.targetState
    frameNo := header.frameNo
    fragmentsInThisFrame := count
    framePushTimestamp := header.framePushTimestamp
    rttAverage := header.rttAverage
    throughput := header.throughput
    fragments := fragments
    remainingFragments := 0 }

/-- A fragment with the time since the last frame, which the first one
carries. -/
def timedFragment (header : FrameHeader) (wholeFrame : List UInt8)
    (index : Nat) : Packet :=
  { rawFragment header wholeFrame index with
    timeSinceLast := if index = 0 then header.timeSinceLast else 0 }

theorem timedFragment_front (header : FrameHeader) (wholeFrame : List UInt8)
    (count : Nat) :
    (rawFragment header wholeFrame 0).setTimeToNext header.timeSinceLast ::
        (List.range count).map (fun index =>
          rawFragment header wholeFrame (index + 1)) =
      (List.range (count + 1)).map (timedFragment header wholeFrame) := by
  rw [List.range_succ_eq_map, List.map_cons, List.map_map]
  rfl

theorem timedFragment_numbered (header : FrameHeader)
    {wholeFrame : List UInt8} {index : Nat}
    (hindex : index < fragmentCount wholeFrame)
    (hcount : fragmentCount wholeFrame < 2 ^ 16) :
    (timedFragment header wholeFrame index).setFragmentsInThisFrame
        (UInt16.ofNat (fragmentCount wholeFrame)) =
      .ok (fragment header wholeFrame index) := by
  have hlt : UInt16.ofNat index < UInt16.ofNat (fragmentCount wholeFrame) := by
    rw [UInt16.lt_iff_toNat_lt,
      UInt16.toNat_ofNat_of_lt' (Nat.lt_trans hindex hcount),
      UInt16.toNat_ofNat_of_lt' hcount]
    exact hindex
  simp only [Packet.setFragmentsInThisFrame, timedFragment, rawFragment, hlt,
    decide_true, require_true]
  rfl

theorem timedFragments_numbered (header : FrameHeader)
    {wholeFrame : List UInt8} (hcount : fragmentCount wholeFrame < 2 ^ 16) :
    ((List.range (fragmentCount wholeFrame)).map
        (timedFragment header wholeFrame)).mapM
        (Packet.setFragmentsInThisFrame ·
          (UInt16.ofNat (fragmentCount wholeFrame))) =
      .ok ((List.range (fragmentCount wholeFrame)).map
        (fragment header wholeFrame)) := by
  rw [List.mapM_map]
  exact Fallible.mapM_eq_ok fun index hindex =>
    timedFragment_numbered header (List.mem_range.mp hindex) hcount

/-- The outgoing constructor succeeds on every frame that its sixteen-bit
counter can number. -/
theorem outgoing_spec {header : FrameHeader} {wholeFrame : List UInt8}
    (hne : wholeFrame ≠ []) (hcount : fragmentCount wholeFrame < 2 ^ 16) :
    outgoing header wholeFrame = .ok {
      connectionId := header.connectionId
      sourceState := header.sourceState
      targetState := header.targetState
      frameNo := header.frameNo
      fragmentsInThisFrame := UInt16.ofNat (fragmentCount wholeFrame)
      framePushTimestamp := header.framePushTimestamp
      rttAverage := header.rttAverage
      throughput := header.throughput
      fragments := (List.range (fragmentCount wholeFrame)).map
        (fragment header wholeFrame)
      remainingFragments := 0 } := by
  have hloop := fragmentLoop_spec header (Nat.le_of_lt hcount)
    (2 ^ 16 + 1) 0 (by omega) (by omega)
  have hnumbered := timedFragments_numbered header hcount
  obtain ⟨count, hsucc⟩ :=
    Nat.exists_eq_succ_of_ne_zero (fragmentCount_pos hne).ne'
  have hfront : (List.range (count + 1)).map (rawFragment header wholeFrame) =
      rawFragment header wholeFrame 0 :: (List.range count).map (fun index =>
        rawFragment header wholeFrame (index + 1)) := by
    rw [List.range_succ_eq_map, List.map_cons, List.map_map]
    rfl
  have hlength : ((List.range (count + 1)).map
      (timedFragment header wholeFrame)).length = count + 1 := by
    rw [List.length_map, List.length_range]
  rw [hsucc] at hnumbered ⊢
  rw [Nat.mul_zero, Nat.zero_min, hsucc, hfront] at hloop
  have hfinish : outgoing header wholeFrame = (Except.ok _ >>= finish header) :=
    congrArg (· >>= finish header) hloop
  rw [hfinish, Fallible.ok_bind]
  simp only [finish, Fallible.ok_bind, timedFragment_front, hlength, hnumbered]
  rfl

structure Emplacing where
  fragmentNo : UInt16
  nextFragmentStart : Nat
  fragments : List Packet

/-- One turn of the loop. -/
def emplace (header : FrameHeader) (wholeFrame : List UInt8)
    (state : Emplacing) : Emplacing ⊕ Except Failure (List Packet) :=
  if state.nextFragmentStart < wholeFrame.length then
    match Packet.outgoing wholeFrame header.connectionId header.sourceState
        header.targetState header.frameNo state.fragmentNo 0
        (header.clock state.fragments.length) header.framePushTimestamp
        header.rttAverage header.throughput with
    | .error failure => .inr (.error failure)
    | .ok (packet, next) =>
        .inl {
          fragmentNo := state.fragmentNo + 1
          nextFragmentStart := next
          fragments := state.fragments ++ [packet] }
  else
    .inr (.ok state.fragments)

def Emplacing.start : Emplacing where
  fragmentNo := 0
  nextFragmentStart := 0
  fragments := []

theorem fragmentLoop_eq_run (header : FrameHeader) (wholeFrame : List UInt8)
    (turns : Nat) (state : Emplacing) :
    fragmentLoop header wholeFrame turns state.fragmentNo
        state.nextFragmentStart state.fragments =
      (Turns.run (emplace header wholeFrame) turns state).getD
        (.error .badAlloc) := by
  induction turns generalizing state with
  | zero => rfl
  | succ turns ih =>
      rw [fragmentLoop, Turns.run, emplace]
      by_cases hmore : state.nextFragmentStart < wholeFrame.length
      · rw [if_pos hmore, if_pos hmore]
        cases Packet.outgoing wholeFrame header.connectionId header.sourceState
            header.targetState header.frameNo state.fragmentNo 0
            (header.clock state.fragments.length) header.framePushTimestamp
            header.rttAverage header.throughput with
        | error failure => rfl
        | ok emplaced =>
            cases emplaced with
            | mk packet next =>
                exact ih {
                  fragmentNo := state.fragmentNo + 1
                  nextFragmentStart := next
                  fragments := state.fragments ++ [packet] }
      · rw [if_neg hmore, if_neg hmore]
        rfl

/-- Past what sixteen bits number, every fragment starts below that bound, and
so does the next one. -/
theorem emplace_goesOn (header : FrameHeader) {wholeFrame : List UInt8}
    (hlong : MAXIMUM_PAYLOAD * 2 ^ 16 < wholeFrame.length) {state : Emplacing}
    (hstart : state.nextFragmentStart < wholeFrame.length) :
    ∃ next, emplace header wholeFrame state = .inl next ∧
      next.nextFragmentStart < wholeFrame.length := by
  have hnonempty : wholeFrame.isEmpty = false := by
    cases wholeFrame with
    | nil => simp at hlong
    | cons byte rest => rfl
  have hnumber : state.fragmentNo.toNat + 1 ≤ 2 ^ 16 :=
    UInt16.toNat_lt state.fragmentNo
  have hlast : MAXIMUM_PAYLOAD * state.fragmentNo.toNat + MAXIMUM_PAYLOAD <
      wholeFrame.length :=
    calc MAXIMUM_PAYLOAD * state.fragmentNo.toNat + MAXIMUM_PAYLOAD
        = MAXIMUM_PAYLOAD * (state.fragmentNo.toNat + 1) :=
          (Nat.mul_succ _ _).symm
      _ ≤ MAXIMUM_PAYLOAD * 2 ^ 16 := Nat.mul_le_mul_left _ hnumber
      _ < wholeFrame.length := hlong
  have hfirst : MAXIMUM_PAYLOAD * state.fragmentNo.toNat <
      wholeFrame.length := by omega
  have hwhole : min
        (wholeFrame.length - MAXIMUM_PAYLOAD * state.fragmentNo.toNat)
        MAXIMUM_PAYLOAD =
      MAXIMUM_PAYLOAD := by omega
  simp only [emplace, hstart, if_true, Packet.outgoing, hnonempty, hfirst,
    hwhole, hlast.le, Bool.not_false, decide_true, require_true]
  exact ⟨_, rfl, hlast⟩

theorem emplace_endless (header : FrameHeader) {wholeFrame : List UInt8}
    (hlong : MAXIMUM_PAYLOAD * 2 ^ 16 < wholeFrame.length) (turns : Nat) :
    Turns.run (emplace header wholeFrame) turns Emplacing.start = none :=
  Turns.run_eq_none
    (fun state => state.nextFragmentStart < wholeFrame.length)
    (fun _ hstart => emplace_goesOn header hlong hstart)
    (Nat.zero_lt_of_lt hlong) turns

/-- The constructor ends, with `result`. -/
def Constructs (header : FrameHeader) (wholeFrame : List UInt8)
    (result : Except Failure FragmentedFrame) : Prop :=
  ∃ fragments,
    Turns.Ends (emplace header wholeFrame) Emplacing.start fragments ∧
    result = fragments >>= finish header

theorem outgoing_eq (header : FrameHeader) (wholeFrame : List UInt8) :
    outgoing header wholeFrame =
      (Turns.run (emplace header wholeFrame) (2 ^ 16 + 1)
        Emplacing.start).getD (.error .badAlloc) >>= finish header := by
  rw [← fragmentLoop_eq_run]
  rfl

theorem constructs_outgoing {header : FrameHeader} {wholeFrame : List UInt8}
    (h : outgoing header wholeFrame ≠ .error .badAlloc) :
    Constructs header wholeFrame (outgoing header wholeFrame) := by
  rw [outgoing_eq] at h ⊢
  cases hrun : Turns.run (emplace header wholeFrame) (2 ^ 16 + 1)
      Emplacing.start with
  | none =>
      rw [hrun] at h
      exact absurd rfl h
  | some fragments => exact ⟨fragments, ⟨_, hrun⟩, rfl⟩

/-- With every number taken the count wraps to zero, which no number lies
below. -/
theorem finish_wraps (header : FrameHeader) {front : Packet}
    {rest : List Packet} (hcount : rest.length + 1 = 2 ^ 16) :
    finish header (front :: rest) =
      .error (.assertion "fragment_no_ < fragments_in_this_frame_") := by
  have hzero : UInt16.ofNat
      (front.setTimeToNext header.timeSinceLast :: rest).length = 0 := by
    rw [List.length_cons, hcount]
    rfl
  have hreject : (front.setTimeToNext header.timeSinceLast).setFragmentsInThisFrame
        0 =
      .error (.assertion "fragment_no_ < fragments_in_this_frame_") := by
    simp [Packet.setFragmentsInThisFrame]
  change ((front.setTimeToNext header.timeSinceLast :: rest).mapM
    (Packet.setFragmentsInThisFrame · (UInt16.ofNat
      (front.setTimeToNext header.timeSinceLast :: rest).length)) >>= _) = _
  rw [hzero, List.mapM_cons, hreject]
  rfl

theorem outgoing_wraps (header : FrameHeader) {wholeFrame : List UInt8}
    (hcount : fragmentCount wholeFrame = 2 ^ 16) :
    outgoing header wholeFrame =
      .error (.assertion "fragment_no_ < fragments_in_this_frame_") := by
  have hspec := fragmentLoop_spec header hcount.le (2 ^ 16 + 1) 0 (by omega)
    (by omega)
  have hrange : List.range (2 ^ 16) =
      0 :: (List.range (2 ^ 16 - 1)).map Nat.succ :=
    List.range_succ_eq_map
  rw [Nat.mul_zero, Nat.zero_min, hcount, hrange, List.map_cons] at hspec
  have hfinish : outgoing header wholeFrame = (Except.ok _ >>= finish header) :=
    congrArg (· >>= finish header) hspec
  rw [hfinish, Fallible.ok_bind]
  apply finish_wraps
  rw [List.length_map, List.length_map, List.length_range]
  rfl

theorem outgoing_only {header : FrameHeader} {wholeFrame : List UInt8}
    {frame : FragmentedFrame} (h : outgoing header wholeFrame = .ok frame) :
    wholeFrame ≠ [] ∧ fragmentCount wholeFrame < 2 ^ 16 := by
  have hne : wholeFrame ≠ [] := by
    rintro rfl
    cases h
  have hfits : wholeFrame.length ≤ MAXIMUM_PAYLOAD * 2 ^ 16 := by
    by_contra hlong
    rw [outgoing_eq, emplace_endless header (Nat.lt_of_not_le hlong)] at h
    cases h
  have hle : fragmentCount wholeFrame ≤ 2 ^ 16 := by
    rw [← Nat.not_lt, lt_fragmentCount_iff]
    exact Nat.not_lt.mpr hfits
  refine ⟨hne, Nat.lt_of_le_of_ne hle ?_⟩
  intro hwraps
  rw [outgoing_wraps header hwraps] at h
  cases h

theorem fragment_fragmentNo {header : FrameHeader} {wholeFrame : List UInt8}
    {index : Nat}
    (hindex : index < fragmentCount wholeFrame)
    (hcount : fragmentCount wholeFrame < 2 ^ 16) :
    (fragment header wholeFrame index).fragmentNo.toNat = index := by
  simp only [fragment, rawFragment, UInt16.toNat_ofNat']
  omega

theorem flatten_payloads (wholeFrame : List UInt8) (count : Nat) :
    ((List.range count).map (fragmentPayload wholeFrame)).flatten =
      wholeFrame.take (MAXIMUM_PAYLOAD * count) := by
  induction count with
  | zero => simp
  | succ count ih =>
      rw [List.range_succ, List.map_append, List.flatten_append, ih,
        Nat.mul_succ, List.take_add]
      simp [fragmentPayload]

/-- The fragments are numbered from zero, each announces how many there are,
and their payloads make up the frame. -/
structure CutFrom (wholeFrame : List UInt8) (frame : FragmentedFrame) :
    Prop where
  numbered : frame.fragments.map (fun packet => packet.fragmentNo.toNat) =
    List.range frame.fragments.length
  announced : ∀ packet ∈ frame.fragments,
    packet.fragmentsInThisFrame.toNat = frame.fragments.length
  payloads : (frame.fragments.map Packet.payload).flatten = wholeFrame

inductive Settled (wholeFrame : List UInt8) :
    Except Failure FragmentedFrame → Prop
  | rejected (condition : String) :
      Settled wholeFrame (.error (.assertion condition))
  | cut {frame : FragmentedFrame} (h : CutFrom wholeFrame frame) :
      Settled wholeFrame (.ok frame)

def FragmentationEnds (header : FrameHeader) (wholeFrame : List UInt8) :
    Prop :=
  ∃ result, Constructs header wholeFrame result ∧ Settled wholeFrame result

theorem not_fragmentationEnds (header : FrameHeader)
    {wholeFrame : List UInt8}
    (hlong : MAXIMUM_PAYLOAD * 2 ^ 16 < wholeFrame.length) :
    ¬ FragmentationEnds header wholeFrame := by
  intro hends
  obtain ⟨_, ⟨_, ⟨turns, hrun⟩, -⟩, -⟩ := hends
  rw [emplace_endless header hlong] at hrun
  cases hrun

theorem outgoing_settled (header : FrameHeader) {wholeFrame : List UInt8}
    (hne : wholeFrame ≠ []) (hcount : fragmentCount wholeFrame < 2 ^ 16) :
    ∃ frame, outgoing header wholeFrame = .ok frame ∧
      CutFrom wholeFrame frame := by
  refine ⟨_, outgoing_spec hne hcount, ?_, ?_, ?_⟩
  · rw [List.length_map, List.length_range, List.map_map]
    calc (List.range (fragmentCount wholeFrame)).map
          ((fun packet => packet.fragmentNo.toNat) ∘
            fragment header wholeFrame)
        = (List.range (fragmentCount wholeFrame)).map id :=
          List.map_congr_left fun index hindex =>
            fragment_fragmentNo (List.mem_range.mp hindex) hcount
      _ = List.range (fragmentCount wholeFrame) := List.map_id _
  · intro packet hpacket
    obtain ⟨index, -, rfl⟩ := List.mem_map.mp hpacket
    rw [List.length_map, List.length_range]
    exact UInt16.toNat_ofNat_of_lt' hcount
  · have hpayloads : ((List.range (fragmentCount wholeFrame)).map
          (fragment header wholeFrame)).map Packet.payload =
        (List.range (fragmentCount wholeFrame)).map
          (fragmentPayload wholeFrame) := by
      rw [List.map_map]
      rfl
    rw [hpayloads, flatten_payloads, List.take_of_length_le]
    rw [← Nat.not_lt, ← lt_fragmentCount_iff]
    exact Nat.lt_irrefl _

/-- The constructor ends with the frame cut or rejected exactly where its
sixteen-bit numbers reach the last byte of the frame. -/
theorem fragmentationEnds_iff (header : FrameHeader) {wholeFrame : List UInt8}
    (hne : wholeFrame ≠ []) :
    FragmentationEnds header wholeFrame ↔
      wholeFrame.length ≤ MAXIMUM_PAYLOAD * 2 ^ 16 := by
  constructor
  · intro hends
    rw [← Nat.not_lt]
    exact fun hlong => not_fragmentationEnds header hlong hends
  · intro hfits
    have hle : fragmentCount wholeFrame ≤ 2 ^ 16 := by
      rw [← Nat.not_lt, lt_fragmentCount_iff]
      exact Nat.not_lt.mpr hfits
    cases Nat.lt_or_eq_of_le hle with
    | inl hcount =>
        obtain ⟨frame, hframe, hcut⟩ := outgoing_settled header hne hcount
        have hsettled : outgoing header wholeFrame ≠ .error .badAlloc := by
          simp [hframe]
        have hconstructs := constructs_outgoing hsettled
        rw [hframe] at hconstructs
        exact ⟨_, hconstructs, .cut hcut⟩
    | inr hwraps =>
        have hreject := outgoing_wraps header hwraps
        have hsettled : outgoing header wholeFrame ≠ .error .badAlloc := by
          simp [hreject]
        have hconstructs := constructs_outgoing hsettled
        rw [hreject] at hconstructs
        exact ⟨_, hconstructs, .rejected _⟩

def sampleHeader : FrameHeader where
  connectionId := 1337
  sourceState := 7
  targetState := 9
  frameNo := 3
  timeSinceLast := 40000
  framePushTimestamp := 12
  rttAverage := 5000
  throughput := 250
  clock := fun index => UInt32.ofNat (100 + index)

def endlessFrame : List UInt8 := List.replicate (1400 * 2 ^ 16 + 1) 0

def threeFragments : List UInt8 :=
  List.replicate 1400 5 ++ List.replicate 1400 6 ++ [7]

theorem fragmentationEnds_iff_three :
    fragmentCount threeFragments = 3 ∧
      FragmentationEnds sampleHeader threeFragments := by
  have hlength : threeFragments.length = 2801 := by
    rw [threeFragments, List.length_append, List.length_append,
      List.length_replicate, List.length_replicate]
    rfl
  have hne : threeFragments ≠ [] :=
    List.ne_nil_of_length_pos (hlength.symm ▸ Nat.zero_lt_succ _)
  refine ⟨?_, (fragmentationEnds_iff sampleHeader hne).mpr ?_⟩
  · rw [fragmentCount, hlength, MAXIMUM_PAYLOAD]
  · rw [hlength, MAXIMUM_PAYLOAD]
    omega

theorem endlessFrame_never_ends :
    endlessFrame ≠ [] ∧ ¬ FragmentationEnds sampleHeader endlessFrame := by
  have hlong : MAXIMUM_PAYLOAD * 2 ^ 16 < endlessFrame.length := by
    rw [endlessFrame, List.length_replicate, MAXIMUM_PAYLOAD]
    omega
  exact ⟨List.ne_nil_of_length_pos (Nat.zero_lt_of_lt hlong),
    not_fragmentationEnds sampleHeader hlong⟩

end FragmentedFrame

end Salsify.Net
