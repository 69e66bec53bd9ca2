import Salsify.Input.Ivf

namespace Salsify.Input

open Salsify.Net (Chunk Failure slice_eq_ok_iff le32_eq_ok_iff)
open Salsify.LittleEndian
open Fallible (bind_eq_ok ok_bind)

/-! The writer of `util/ivf_writer.cc`, and the reader on what it wrote. -/

def memcpy (dest : Chunk) (offset : Nat) (bytes : Chunk) : Chunk :=
  dest.take offset ++ bytes ++ dest.drop (offset + bytes.length)

structure IvfWriter where
  file : Chunk
  fileSize : Nat
  frameCount : UInt32
  width : UInt16
  height : UInt16

namespace IvfWriter

open Ivf (supportedHeaderLen frameHeaderLen signature)

def newHeader (fourcc : Chunk) (width height : UInt16)
    (frameRate timeScale : UInt32) : Chunk :=
  let header := List.replicate supportedHeaderLen 0
  let header := memcpy header 0 signature
  let header := memcpy header 6 (toBytes 2 supportedHeaderLen)
  let header := memcpy header 8 fourcc
  let header := memcpy header 12 (toBytes 2 width.toNat)
  let header := memcpy header 14 (toBytes 2 height.toNat)
  let header := memcpy header 16 (toBytes 4 frameRate.toNat)
  memcpy header 20 (toBytes 4 timeScale.toNat)

/-- The constructor, over an empty file. -/
def create (fourcc : Chunk) (width height : UInt16)
    (frameRate timeScale : UInt32) : Except Failure IvfWriter := do
  Net.require (fourcc.length = 4)
    (.runtimeError "IVF: FourCC must be four bytes long")
  let file := newHeader fourcc width height frameRate timeScale
  let fileSize := supportedHeaderLen
  Net.require (file.length = fileSize) (.assertion "fd_.size() == file_size_")
  return { file, fileSize, frameCount := 0, width, height }

def setExpectedDecoderEntryHash (writer : IvfWriter) (minihash : UInt32) :
    IvfWriter :=
  { writer with file := memcpy writer.file 28 (toBytes 4 minihash.toNat) }

def countInHeader (file : Chunk) : Except Failure UInt32 := do
  let header ← file.slice 0 supportedHeaderLen
  (← header.slice 24 4).le32

def frameHeader (chunk : Chunk) : Chunk :=
  memcpy (List.replicate frameHeaderLen 0) 0
    (toBytes 4 (chunk.length % 2 ^ 32))

/-- The offset written to, and the writer afterwards. -/
def appendFrame (writer : IvfWriter) (chunk : Chunk) :
    Except Failure (Nat × IvfWriter) := do
  let existing ← countInHeader writer.file
  Net.require (writer.frameCount = existing)
    (.assertion "frame_count_ == header( 24, 4 ).le32()")
  Net.require (writer.fileSize = writer.file.length)
    (.assertion "file_size_ == fd_.size()")
  let file := writer.file ++ frameHeader chunk
  let fileSize := writer.fileSize + frameHeaderLen
  let writtenOffset := fileSize
  let file := file ++ chunk
  let fileSize := fileSize + chunk.length
  Net.require (file.length = fileSize) (.assertion "fd_.size() == file_size_")
  let frameCount := writer.frameCount + 1
  let file := memcpy file 24 (toBytes 4 frameCount.toNat)
  let counted ← countInHeader file
  Net.require (frameCount = counted)
    (.assertion "frame_count_ == header( 24, 4 ).le32()")
  return (writtenOffset, { writer with file, fileSize, frameCount })

inductive Operation
  | appendFrame (chunk : Chunk)
  | setExpectedDecoderEntryHash (minihash : UInt32)

/-- The offsets that the appends return, and the writer at the end. -/
def run : IvfWriter → List Operation → Except Failure (List Nat × IvfWriter)
  | writer, [] => .ok ([], writer)
  | writer, .appendFrame chunk :: rest => do
      let (offset, next) ← writer.appendFrame chunk
      let (offsets, last) ← run next rest
      return (offset :: offsets, last)
  | writer, .setExpectedDecoderEntryHash minihash :: rest =>
      run (writer.setExpectedDecoderEntryHash minihash) rest

def frames : List Operation → List Chunk
  | [] => []
  | .appendFrame chunk :: rest => chunk :: frames rest
  | .setExpectedDecoderEntryHash _ :: rest => frames rest

def lastHash : UInt32 → List Operation → UInt32
  | minihash, [] => minihash
  | minihash, .appendFrame _ :: rest => lastHash minihash rest
  | _, .setExpectedDecoderEntryHash minihash :: rest => lastHash minihash rest

def headerFront (fourcc : Chunk) (width height : UInt16)
    (frameRate timeScale : UInt32) : Chunk :=
  signature ++ toBytes 2 0 ++ toBytes 2 supportedHeaderLen ++ fourcc ++
    toBytes 2 width.toNat ++ toBytes 2 height.toNat ++
    toBytes 4 frameRate.toNat ++ toBytes 4 timeScale.toNat

theorem headerFront_length {fourcc : Chunk} (hfourcc : fourcc.length = 4)
    (width height : UInt16) (frameRate timeScale : UInt32) :
    (headerFront fourcc width height frameRate timeScale).length = 24 := by
  simp [headerFront, signature, hfourcc]

/-- The header with the count and the hash, and then the records. -/
def layout (front : Chunk) (frameCount minihash : UInt32) (records : Chunk) :
    Chunk :=
  front ++ toBytes 4 frameCount.toNat ++
    (toBytes 4 minihash.toNat ++ records)

def record (chunk : Chunk) : Chunk :=
  toBytes 4 (chunk.length % 2 ^ 32) ++ toBytes 8 0 ++ chunk

theorem newHeader_eq {fourcc : Chunk} (hfourcc : fourcc.length = 4)
    (width height : UInt16) (frameRate timeScale : UInt32) :
    newHeader fourcc width height frameRate timeScale =
      layout (headerFront fourcc width height frameRate timeScale) 0 0 [] := by
  match fourcc, hfourcc with
  | [first, second, third, fourth], _ => rfl

theorem record_eq (chunk : Chunk) : record chunk = frameHeader chunk ++ chunk :=
  rfl

theorem memcpy_middle (front old new back : Chunk)
    (hlength : old.length = new.length) :
    memcpy (front ++ old ++ back) front.length new = front ++ new ++ back := by
  have htake : (front ++ old ++ back).take front.length = front := by
    rw [List.append_assoc, List.take_left]
  have hdrop : (front ++ old ++ back).drop (front.length + new.length) =
      back := by
    rw [← hlength, ← List.length_append, List.drop_left]
  rw [memcpy, htake, hdrop]

section Layout

variable {front : Chunk} (hfront : front.length = 24)

include hfront

theorem layout_length (frameCount minihash : UInt32) (records : Chunk) :
    (layout front frameCount minihash records).length =
      supportedHeaderLen + records.length := by
  simp only [layout, List.length_append, toBytes_length, hfront,
    supportedHeaderLen]
  omega

theorem countInHeader_layout (frameCount minihash : UInt32)
    (records : Chunk) :
    countInHeader (layout front frameCount minihash records) =
      .ok frameCount := by
  have hlength : supportedHeaderLen ≤
      (layout front frameCount minihash records).length := by
    rw [layout_length hfront]
    exact Nat.le_add_right _ _
  have hheader : Chunk.slice (layout front frameCount minihash records) 0
      supportedHeaderLen = .ok
        ((layout front frameCount minihash records).take supportedHeaderLen) :=
    slice_eq_ok_iff.mpr ⟨by omega, by rw [List.drop_zero]⟩
  have hcount : ((layout front frameCount minihash records).drop 24).take 4 =
      toBytes 4 frameCount.toNat := by
    rw [layout, List.append_assoc, ← hfront, List.drop_left]
    exact List.take_left' (toBytes_length 4 _)
  rw [countInHeader, hheader, ok_bind,
    Ivf.header_slice hlength (show 24 + 4 ≤ supportedHeaderLen by decide),
    ok_bind, hcount, Net.le32_toBytes]

theorem setCount_layout (frameCount minihash changed : UInt32)
    (records : Chunk) :
    memcpy (layout front frameCount minihash records) 24
        (toBytes 4 changed.toNat) =
      layout front changed minihash records := by
  have h := memcpy_middle front (toBytes 4 frameCount.toNat)
    (toBytes 4 changed.toNat) (toBytes 4 minihash.toNat ++ records)
    (by rw [toBytes_length, toBytes_length])
  rw [hfront] at h
  exact h

theorem setHash_layout (frameCount minihash changed : UInt32)
    (records : Chunk) :
    memcpy (layout front frameCount minihash records) 28
        (toBytes 4 changed.toNat) =
      layout front frameCount changed records := by
  have hlength : (front ++ toBytes 4 frameCount.toNat).length = 28 := by
    rw [List.length_append, hfront, toBytes_length]
  have h := memcpy_middle (front ++ toBytes 4 frameCount.toNat)
    (toBytes 4 minihash.toNat) (toBytes 4 changed.toNat) records
    (by rw [toBytes_length, toBytes_length])
  rw [hlength, List.append_assoc] at h
  rw [layout, h, layout, List.append_assoc]

end Layout

structure Holds (front : Chunk) (minihash : UInt32) (held : List Chunk)
    (writer : IvfWriter) : Prop where
  file : writer.file = layout front writer.frameCount minihash
    (held.map record).flatten
  size : writer.fileSize = writer.file.length
  count : writer.frameCount = UInt32.ofNat held.length

theorem create_holds {fourcc : Chunk} (hfourcc : fourcc.length = 4)
    (width height : UInt16) (frameRate timeScale : UInt32) :
    ∃ writer, create fourcc width height frameRate timeScale = .ok writer ∧
      Holds (headerFront fourcc width height frameRate timeScale) 0 []
        writer ∧ writer.fileSize = supportedHeaderLen := by
  have hheader := newHeader_eq hfourcc width height frameRate timeScale
  have hlength : (newHeader fourcc width height frameRate timeScale).length =
      supportedHeaderLen := by
    rw [hheader, layout_length (headerFront_length hfourcc width height
      frameRate timeScale)]
    rfl
  refine ⟨{
    file := newHeader fourcc width height frameRate timeScale
    fileSize := supportedHeaderLen
    frameCount := 0, width, height }, ?_, ⟨hheader, hlength.symm, rfl⟩, rfl⟩
  rw [create, decide_eq_true hfourcc, Net.require_true, ok_bind]
  dsimp only
  rw [decide_eq_true hlength]
  rfl

theorem setHash_holds {front : Chunk} (hfront : front.length = 24)
    {minihash : UInt32} {held : List Chunk} {writer : IvfWriter}
    (h : Holds front minihash held writer) (changed : UInt32) :
    Holds front changed held (writer.setExpectedDecoderEntryHash changed) := by
  have hfile : (writer.setExpectedDecoderEntryHash changed).file =
      layout front writer.frameCount changed (held.map record).flatten := by
    rw [setExpectedDecoderEntryHash, h.file]
    exact setHash_layout hfront _ _ _ _
  refine ⟨hfile, ?_, h.count⟩
  rw [hfile, layout_length hfront, ← layout_length hfront writer.frameCount
    minihash, ← h.file]
  exact h.size

theorem appendFrame_holds {front : Chunk} (hfront : front.length = 24)
    {minihash : UInt32} {held : List Chunk} {writer : IvfWriter}
    (h : Holds front minihash held writer) (chunk : Chunk) :
    ∃ next, writer.appendFrame chunk =
        .ok (writer.fileSize + frameHeaderLen, next) ∧
      Holds front minihash (held ++ [chunk]) next ∧
      next.fileSize = writer.fileSize + (frameHeaderLen + chunk.length) := by
  let records := (held.map record).flatten ++ (frameHeader chunk ++ chunk)
  have hrecords : ((held ++ [chunk]).map record).flatten = records := by
    rw [List.map_append, List.flatten_append, List.map_singleton,
      List.flatten_singleton, record_eq]
  have hexisting : countInHeader writer.file = .ok writer.frameCount := by
    rw [h.file]
    exact countInHeader_layout hfront _ _ _
  have hgrown : writer.file ++ frameHeader chunk ++ chunk =
      layout front writer.frameCount minihash records := by
    rw [h.file]
    simp only [layout, records, List.append_assoc]
  have hsize : (layout front writer.frameCount minihash records).length =
      writer.fileSize + frameHeaderLen + chunk.length := by
    have hframeHeader : (frameHeader chunk).length = frameHeaderLen := rfl
    rw [← hgrown, List.length_append, List.length_append, ← h.size,
      hframeHeader]
  have hcounted := countInHeader_layout hfront (writer.frameCount + 1) minihash
    records
  refine ⟨{ writer with
    file := layout front (writer.frameCount + 1) minihash records
    fileSize := writer.fileSize + frameHeaderLen + chunk.length
    frameCount := writer.frameCount + 1 }, ?_, ⟨?_, ?_, ?_⟩,
    Nat.add_assoc _ _ _⟩
  · unfold appendFrame
    rw [hexisting, ok_bind, decide_eq_true rfl, Net.require_true, ok_bind,
      decide_eq_true h.size, Net.require_true, ok_bind]
    dsimp only
    rw [hgrown, decide_eq_true hsize, Net.require_true, ok_bind,
      setCount_layout hfront, hcounted, ok_bind, decide_eq_true rfl]
    rfl
  · rw [hrecords]
  · dsimp only
    rw [layout_length hfront, ← layout_length hfront writer.frameCount minihash,
      hsize]
  · dsimp only
    rw [h.count, List.length_append, List.length_singleton,
      UInt32.ofNat_add]
    rfl

/-- The offsets and lengths of frames appended to a file of this size. -/
def indexFrom : Nat → List Chunk → List (Nat × Nat)
  | _, [] => []
  | size, chunk :: rest =>
      (size + frameHeaderLen, chunk.length) ::
        indexFrom (size + (frameHeaderLen + chunk.length)) rest

theorem run_holds {front : Chunk} (hfront : front.length = 24)
    (operations : List Operation) {minihash : UInt32} {held : List Chunk}
    {writer : IvfWriter} (h : Holds front minihash held writer) :
    ∃ last, run writer operations =
        .ok ((indexFrom writer.fileSize (frames operations)).map Prod.fst,
          last) ∧
      Holds front (lastHash minihash operations) (held ++ frames operations)
        last := by
  induction operations generalizing minihash held writer with
  | nil => exact ⟨writer, rfl, by rw [frames, List.append_nil]; exact h⟩
  | cons operation rest ih =>
      cases operation with
      | appendFrame chunk =>
          obtain ⟨next, happend, hnext, hsize⟩ :=
            appendFrame_holds hfront h chunk
          obtain ⟨last, hrun, hlast⟩ := ih hnext
          refine ⟨last, ?_, ?_⟩
          · rw [run, happend, ok_bind]
            dsimp only
            rw [hrun, ok_bind, hsize]
            rfl
          · rw [List.append_assoc] at hlast
            exact hlast
      | setExpectedDecoderEntryHash changed =>
          exact ih (setHash_holds hfront h changed)

theorem announced_append (front rest : Chunk) {chunk : Chunk}
    (hchunk : chunk.length < 2 ^ 32) :
    Ivf.announced (front ++ (record chunk ++ rest)) front.length =
      chunk.length := by
  have htake : (record chunk ++ rest).take 4 =
      toBytes 4 (chunk.length % 2 ^ 32) := by
    rw [record, List.append_assoc, List.append_assoc]
    exact List.take_left' (toBytes_length 4 _)
  rw [Ivf.announced, List.drop_left, htake, Nat.mod_eq_of_lt hchunk]
  exact ofBytes_toBytes_of_lt hchunk

def Walkable (held : List Chunk) : Prop :=
  ∀ chunk ∈ held.dropLast, Ivf.recordLen chunk.length < 2 ^ 32

theorem walkable_cons (chunk next : Chunk) (rest : List Chunk) :
    Walkable (chunk :: next :: rest) ↔
      Ivf.recordLen chunk.length < 2 ^ 32 ∧ Walkable (next :: rest) := by
  rw [Walkable, List.dropLast_cons_cons, List.forall_mem_cons]
  rfl

section Entries

variable {α : Type} {view : Nat × Nat → α}
  (hview : ∀ {entry other}, view entry = view other → entry.1 = other.1)

include hview

/-- The reader finds the frames where they were put when its walk does not
wrap, and otherwise misses one, which the offsets alone tell. -/
theorem entries_records_iff (held : List Chunk)
    (hheld : ∀ chunk ∈ held, chunk.length < 2 ^ 32) (front : Chunk) :
    ((List.range held.length).map (Ivf.entry
        (front ++ (held.map record).flatten) front.length)).map view =
      (indexFrom front.length held).map view ↔ Walkable held := by
  induction held generalizing front with
  | nil => exact ⟨fun _ _ h => absurd h List.not_mem_nil, fun _ => rfl⟩
  | cons chunk rest ih =>
      have hchunk := hheld chunk List.mem_cons_self
      have hrest := ih (fun other hother =>
        hheld other (List.mem_cons_of_mem _ hother)) (front ++ record chunk)
      have hlength : (front ++ record chunk).length =
          front.length + Ivf.recordLen chunk.length := by
        simp only [record, List.length_append, toBytes_length, frameHeaderLen,
          Ivf.recordLen]
      have hannounced := announced_append front (rest.map record).flatten hchunk
      rw [hlength, List.append_assoc] at hrest
      rw [List.length_cons, Ivf.entries_succ, List.map_cons (f := record),
        List.flatten_cons, hannounced, indexFrom, List.map_cons, List.map_cons,
        List.cons.injEq, and_iff_right rfl]
      cases rest with
      | nil =>
          exact ⟨fun _ _ h => absurd h List.not_mem_nil, fun _ => rfl⟩
      | cons next rest =>
          rw [walkable_cons]
          by_cases hlt : Ivf.recordLen chunk.length < 2 ^ 32
          · rw [Ivf.advance, Nat.mod_eq_of_lt hlt, and_iff_right hlt]
            exact hrest
          · refine ⟨fun hentries => ?_, fun h => absurd h.1 hlt⟩
            rw [List.length_cons, Ivf.entries_succ] at hentries
            have hsame := hview (List.cons.inj hentries).1
            have hwrapped : Ivf.advance chunk.length < 2 ^ 32 :=
              Nat.mod_lt _ (by decide)
            unfold Ivf.recordLen at hlt
            dsimp only at hsame
            omega

end Entries

theorem slice_records (held : List Chunk) (front : Chunk) {number : Nat}
    {chunk : Chunk} (hchunk : held[number]? = some chunk) :
    ∃ offset, (indexFrom front.length held)[number]? =
        some (offset, chunk.length) ∧
      Chunk.slice (front ++ (held.map record).flatten) offset chunk.length =
        .ok chunk := by
  induction held generalizing front number with
  | nil => cases hchunk
  | cons head rest ih =>
      cases number with
      | zero =>
          cases hchunk
          refine ⟨_, rfl, ?_⟩
          have h := Net.slice_append (front ++ frameHeader chunk) chunk
            (rest.map record).flatten
          have hlength : (front ++ frameHeader chunk).length =
              front.length + frameHeaderLen := by
            rw [List.length_append]
            rfl
          rw [hlength, List.append_assoc, List.append_assoc] at h
          rw [List.map_cons, List.flatten_cons, record_eq, List.append_assoc]
          exact h
      | succ number =>
          obtain ⟨offset, hentry, hslice⟩ := ih (front ++ record head) hchunk
          have hlength : (front ++ record head).length =
              front.length + (frameHeaderLen + head.length) := by
            simp only [record, List.length_append, toBytes_length,
              frameHeaderLen]
          rw [hlength] at hentry
          rw [List.append_assoc] at hslice
          exact ⟨offset, hentry, hslice⟩

theorem field_of_toBytes {file : Chunk} {offset width value : Nat}
    (hfield : (file.drop offset).take width = toBytes width value)
    (hvalue : value < 256 ^ width) : Ivf.field file offset width = value := by
  rw [Ivf.field, hfield]
  exact ofBytes_toBytes_of_lt hvalue

theorem headerAccepted_layout {fourcc : Chunk} (hfourcc : fourcc.length = 4)
    (width height : UInt16) (frameRate timeScale frameCount minihash : UInt32)
    (records : Chunk) :
    Ivf.HeaderAccepted (layout (headerFront fourcc width height frameRate
      timeScale) frameCount minihash records) := by
  have hlength := layout_length (headerFront_length hfourcc width height
    frameRate timeScale) frameCount minihash records
  match fourcc, hfourcc with
  | [_, _, _, _], _ =>
      exact {
        length := by
          rw [hlength]
          exact Nat.le_add_right _ _
        magic := rfl
        version := field_of_toBytes rfl (by decide)
        headerLen := field_of_toBytes rfl (by decide) }

theorem ofHeader_layout {fourcc : Chunk} (hfourcc : fourcc.length = 4)
    (width height : UInt16) (frameRate timeScale frameCount minihash : UInt32)
    (records : Chunk) :
    Ivf.ofHeader (layout (headerFront fourcc width height frameRate timeScale)
        frameCount minihash records) = {
      file := layout (headerFront fourcc width height frameRate timeScale)
        frameCount minihash records
      fourcc, width, height, frameRate, timeScale, frameCount
      expectedDecoderMinihash := minihash
      frameIndex := [] } := by
  match fourcc, hfourcc with
  | [_, _, _, _], _ =>
      unfold Ivf.ofHeader
      rw [field_of_toBytes rfl width.toNat_lt, field_of_toBytes rfl
        height.toNat_lt, field_of_toBytes rfl frameRate.toNat_lt,
        field_of_toBytes rfl timeScale.toNat_lt,
        field_of_toBytes rfl frameCount.toNat_lt,
        field_of_toBytes rfl minihash.toNat_lt, UInt16.ofNat_toNat,
        UInt16.ofNat_toNat, UInt32.ofNat_toNat, UInt32.ofNat_toNat,
        UInt32.ofNat_toNat, UInt32.ofNat_toNat]
      rfl

structure Returned (fourcc : Chunk) (width height : UInt16)
    (frameRate timeScale : UInt32) (operations : List Operation)
    (offsets : List Nat) (ivf : Ivf) : Prop where
  fourcc : ivf.fourcc = fourcc
  width : ivf.width = width
  height : ivf.height = height
  frameRate : ivf.frameRate = frameRate
  timeScale : ivf.timeScale = timeScale
  frameCount : ivf.frameCount.toNat = (frames operations).length
  minihash : ivf.expectedDecoderMinihash = lastHash 0 operations
  frame : ∀ (index : Nat) (chunk : Chunk),
    (frames operations)[index]? = some chunk → ivf.frame index = .ok chunk
  offset : ivf.frameIndex.map Prod.fst = offsets

/-- Everything is written, and the reader accepts it and gives it back. -/
def ReadsBack (fourcc : Chunk) (width height : UInt16)
    (frameRate timeScale : UInt32) (operations : List Operation) : Prop :=
  ∃ writer offsets last ivf,
    create fourcc width height frameRate timeScale = .ok writer ∧
    writer.run operations = .ok (offsets, last) ∧
    Ivf.ofFile last.file = .ok ivf ∧
    Returned fourcc width height frameRate timeScale operations offsets ivf

theorem run_layout {fourcc : Chunk} (hfourcc : fourcc.length = 4)
    (width height : UInt16) (frameRate timeScale : UInt32)
    (operations : List Operation) :
    ∃ writer last,
      create fourcc width height frameRate timeScale = .ok writer ∧
      writer.run operations = .ok ((indexFrom supportedHeaderLen
        (frames operations)).map Prod.fst, last) ∧
      last.file = layout (headerFront fourcc width height frameRate timeScale)
        (UInt32.ofNat (frames operations).length) (lastHash 0 operations)
        ((frames operations).map record).flatten := by
  obtain ⟨writer, hcreate, hholds, hsize⟩ :=
    create_holds hfourcc width height frameRate timeScale
  obtain ⟨last, hrun, hlast⟩ := run_holds
    (headerFront_length hfourcc width height frameRate timeScale) operations
    hholds
  rw [hsize] at hrun
  refine ⟨writer, last, hcreate, hrun, ?_⟩
  rw [hlast.file, hlast.count]
  rfl

theorem ofFile_layout {fourcc : Chunk} (hfourcc : fourcc.length = 4)
    {width height : UInt16} {frameRate timeScale frameCount minihash : UInt32}
    {records : Chunk} {ivf : Ivf}
    (h : Ivf.ofFile (layout (headerFront fourcc width height frameRate
      timeScale) frameCount minihash records) = .ok ivf) :
    ivf = {
      file := layout (headerFront fourcc width height frameRate timeScale)
        frameCount minihash records
      fourcc, width, height, frameRate, timeScale, frameCount
      expectedDecoderMinihash := minihash
      frameIndex := (List.range frameCount.toNat).map (Ivf.entry
        (layout (headerFront fourcc width height frameRate timeScale)
          frameCount minihash records) supportedHeaderLen) } := by
  have hcount := Ivf.frameCount_of_ofFile h
  obtain ⟨-, -, hivf⟩ := Ivf.ofFile_eq_ok_iff.mp h
  rw [ofHeader_layout hfourcc] at hivf
  rw [hivf] at hcount
  dsimp only at hcount
  rw [← hcount] at hivf
  exact hivf

def frontOf (front : Chunk) (frameCount minihash : UInt32) : Chunk :=
  front ++ toBytes 4 frameCount.toNat ++ toBytes 4 minihash.toNat

theorem layout_eq (front : Chunk) (frameCount minihash : UInt32)
    (records : Chunk) :
    layout front frameCount minihash records =
      frontOf front frameCount minihash ++ records :=
  (List.append_assoc _ _ _).symm

theorem frontOf_length {front : Chunk} (hfront : front.length = 24)
    (frameCount minihash : UInt32) :
    (frontOf front frameCount minihash).length = supportedHeaderLen := by
  simp only [frontOf, List.length_append, toBytes_length, hfront,
    supportedHeaderLen]

theorem conditions_of_readsBack {fourcc : Chunk} (hfourcc : fourcc.length = 4)
    {width height : UInt16} {frameRate timeScale : UInt32}
    {operations : List Operation}
    (hframes : ∀ chunk ∈ frames operations, chunk.length < 2 ^ 32)
    (h : ReadsBack fourcc width height frameRate timeScale operations) :
    (frames operations).length < 2 ^ 32 ∧ Walkable (frames operations) := by
  obtain ⟨writer, last, hcreate, hrun, hfile⟩ := run_layout hfourcc width height
    frameRate timeScale operations
  obtain ⟨writer', offsets, last', ivf, hcreate', hrun', hivf, hreturned⟩ := h
  obtain rfl : writer = writer' :=
    Except.ok.inj (hcreate.symm.trans hcreate')
  obtain ⟨rfl, rfl⟩ : _ = offsets ∧ last = last' :=
    Prod.mk.inj (Except.ok.inj (hrun.symm.trans hrun'))
  rw [hfile] at hivf
  have hlt : (frames operations).length < 2 ^ 32 := by
    rw [← hreturned.frameCount]
    exact ivf.frameCount.toNat_lt
  refine ⟨hlt, ?_⟩
  have hoffset := hreturned.offset
  rw [ofFile_layout hfourcc hivf] at hoffset
  dsimp only at hoffset
  rw [UInt32.toNat_ofNat', Nat.mod_eq_of_lt hlt, layout_eq,
    ← frontOf_length (headerFront_length hfourcc width height frameRate
      timeScale)] at hoffset
  exact (entries_records_iff (fun h => h) _ hframes _).mp hoffset

theorem readsBack_of_conditions {fourcc : Chunk} (hfourcc : fourcc.length = 4)
    (width height : UInt16) (frameRate timeScale : UInt32)
    {operations : List Operation}
    (hframes : ∀ chunk ∈ frames operations, chunk.length < 2 ^ 32)
    (hlt : (frames operations).length < 2 ^ 32)
    (hwalkable : Walkable (frames operations)) :
    ReadsBack fourcc width height frameRate timeScale operations := by
  obtain ⟨writer, last, hcreate, hrun, hfile⟩ := run_layout hfourcc width height
    frameRate timeScale operations
  let held := frames operations
  let header := headerFront fourcc width height frameRate timeScale
  let front := frontOf header (UInt32.ofNat held.length) (lastHash 0 operations)
  have hfront : front.length = supportedHeaderLen :=
    frontOf_length (headerFront_length hfourcc width height frameRate
      timeScale) _ _
  have hsplit : last.file = front ++ (held.map record).flatten := by
    rw [hfile, layout_eq]
  have hcount : (UInt32.ofNat held.length).toNat = held.length := by
    rw [UInt32.toNat_ofNat', Nat.mod_eq_of_lt hlt]
  have hentries : (List.range held.length).map
      (Ivf.entry last.file supportedHeaderLen) =
        indexFrom supportedHeaderLen held := by
    have h := (@entries_records_iff _ id (fun h => congrArg Prod.fst h)
      held hframes front).mpr hwalkable
    rw [List.map_id, List.map_id, hfront, ← hsplit] at h
    exact h
  have hfound {number : Nat} {chunk : Chunk}
      (hchunk : held[number]? = some chunk) :
      ∃ offset, (indexFrom supportedHeaderLen held)[number]? =
          some (offset, chunk.length) ∧
        last.file.slice offset chunk.length = .ok chunk := by
    have h := slice_records held front hchunk
    rw [hfront, ← hsplit] at h
    exact h
  have hannounced : Ivf.announcedFrames last.file = held.length := by
    rw [← Ivf.ofHeader_frameCount, hfile, ofHeader_layout hfourcc]
    exact hcount
  have haccepted : Ivf.HeaderAccepted last.file := by
    rw [hfile]
    exact headerAccepted_layout hfourcc _ _ _ _ _ _ _
  have hheaders : ∀ number < Ivf.announcedFrames last.file,
      Ivf.found last.file number + frameHeaderLen ≤ last.file.length := by
    intro number hnumber
    rw [hannounced] at hnumber
    obtain ⟨offset, hentry, hslice⟩ :=
      hfound (List.getElem?_eq_getElem hnumber)
    rw [← hentries, List.getElem?_map, List.getElem?_range hnumber] at hentry
    have hoffset : Ivf.found last.file number + frameHeaderLen = offset :=
      congrArg Prod.fst (Option.some.inj hentry)
    have hend := (slice_eq_ok_iff.mp hslice).1
    omega
  have hivf := Ivf.ofFile_eq_ok_iff.mpr ⟨haccepted, hheaders, rfl⟩
  have hheader : Ivf.ofHeader last.file = {
      file := last.file
      fourcc, width, height, frameRate, timeScale
      frameCount := UInt32.ofNat held.length
      expectedDecoderMinihash := lastHash 0 operations
      frameIndex := [] } := by
    rw [hfile]
    exact ofHeader_layout hfourcc _ _ _ _ _ _ _
  rw [hannounced, hentries, hheader] at hivf
  refine ⟨writer, _, last, _, hcreate, hrun, hivf, {
    fourcc := rfl, width := rfl, height := rfl, frameRate := rfl
    timeScale := rfl, frameCount := hcount, minihash := rfl
    frame := fun index chunk hchunk => ?_
    offset := rfl }⟩
  obtain ⟨offset, hentry, hslice⟩ := hfound hchunk
  unfold Ivf.frame
  dsimp only
  rw [hentry]
  exact hslice

/-- What is written is read back when the count fits its field and the reader's
walk does not wrap. -/
theorem readsBack_iff {fourcc : Chunk} (hfourcc : fourcc.length = 4)
    (width height : UInt16) (frameRate timeScale : UInt32)
    {operations : List Operation}
    (hframes : ∀ chunk ∈ frames operations, chunk.length < 2 ^ 32) :
    ReadsBack fourcc width height frameRate timeScale operations ↔
      (frames operations).length < 2 ^ 32 ∧ Walkable (frames operations) :=
  ⟨conditions_of_readsBack hfourcc hframes, fun h =>
    readsBack_of_conditions hfourcc width height frameRate timeScale hframes
      h.1 h.2⟩

theorem readsBack_two_frames :
    ReadsBack [0x56, 0x50, 0x38, 0x30] 16 16 30 1 [.appendFrame [1, 2, 3],
      .setExpectedDecoderEntryHash 7, .appendFrame []] :=
  (readsBack_iff rfl 16 16 30 1 (by decide)).mpr ⟨by decide, by
    unfold Walkable
    decide⟩

def longFrame : List Operation :=
  [.appendFrame (List.replicate (2 ^ 32 - 12) 0), .appendFrame []]

theorem readsBack_fails :
    (∀ chunk ∈ frames longFrame, chunk.length < 2 ^ 32) ∧
      ¬ ReadsBack [0x56, 0x50, 0x38, 0x30] 16 16 30 1 longFrame := by
  have hframes : ∀ chunk ∈ frames longFrame, chunk.length < 2 ^ 32 := by
    intro chunk hchunk
    rcases List.mem_cons.mp hchunk with rfl | hchunk
    · rw [List.length_replicate]
      omega
    · rw [List.mem_singleton.mp hchunk]
      exact Nat.two_pow_pos 32
  refine ⟨hframes, fun h => ?_⟩
  have hwalkable := (conditions_of_readsBack rfl hframes h).2
  have hlong := hwalkable _ List.mem_cons_self
  rw [List.length_replicate, Ivf.recordLen, Ivf.frameHeaderLen] at hlong
  omega

end IvfWriter

end Salsify.Input
