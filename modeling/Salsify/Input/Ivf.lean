import Salsify.Net.Packet

namespace Salsify.Input

open Salsify.Net (Chunk Failure slice_eq_ok_iff le16_eq_ok_iff
  le32_eq_ok_iff)
open Salsify.LittleEndian
open Fallible (bind_eq_ok ok_bind)

/-! The reader of `util/ivf.cc`. -/

structure Ivf where
  file : Chunk
  fourcc : Chunk
  width : UInt16
  height : UInt16
  frameRate : UInt32
  timeScale : UInt32
  frameCount : UInt32
  expectedDecoderMinihash : UInt32
  frameIndex : List (Nat × Nat)
  deriving DecidableEq, Repr

namespace Ivf

def supportedHeaderLen : Nat := 32

def frameHeaderLen : Nat := 12

def signature : Chunk := [0x44, 0x4b, 0x49, 0x46]

/-- The offsets and lengths of the given number of frames. Only the header of
each is asked to be in the file, and the position moves by a sum of 32-bit
numbers. -/
def buildIndex (file : Chunk) : Nat → Nat → Except Failure (List (Nat × Nat))
  | 0, _ => .ok []
  | count + 1, position => do
      let frameHeader ← file.slice position frameHeaderLen
      let frameLen ← frameHeader.le32
      let rest ← buildIndex file count
        (position + (UInt32.ofNat frameHeaderLen + frameLen).toNat)
      return (position + frameHeaderLen, frameLen.toNat) :: rest

def parseHeader (file : Chunk) : Except Failure Ivf := do
  Net.require (!file.isEmpty) (.runtimeError "mmap")
  let header ← file.slice 0 supportedHeaderLen
  let fourcc ← header.slice 8 4
  let width ← (← header.slice 12 2).le16
  let height ← (← header.slice 14 2).le16
  let frameRate ← (← header.slice 16 4).le32
  let timeScale ← (← header.slice 20 4).le32
  let frameCount ← (← header.slice 24 4).le32
  let expectedDecoderMinihash ← (← header.slice 28 4).le32
  let magic ← header.slice 0 4
  Net.require (magic = signature) (.invalid "missing IVF file header")
  let version ← (← header.slice 4 2).le16
  Net.require (version = 0) (.unsupported "not an IVF version 0 file")
  let headerLen ← (← header.slice 6 2).le16
  Net.require (headerLen.toNat = supportedHeaderLen)
    (.unsupported "unsupported IVF header length")
  return {
    file, fourcc, width, height, frameRate, timeScale, frameCount
    expectedDecoderMinihash
    frameIndex := [] }

def ofFile (file : Chunk) : Except Failure Ivf :=
  let built : Except Failure Ivf := do
    let ivf ← parseHeader file
    let frameIndex ← buildIndex file ivf.frameCount.toNat supportedHeaderLen
    return { ivf with frameIndex }
  match built with
  | .error (.outOfRange _) => .error (.invalid "IVF file truncated")
  | result => result

def frame (ivf : Ivf) (index : Nat) : Except Failure Chunk :=
  match ivf.frameIndex[index]? with
  | none => .error (.outOfRange "vector::_M_range_check")
  | some (offset, length) => ivf.file.slice offset length

def announced (file : Chunk) (position : Nat) : Nat :=
  ofBytes ((file.drop position).take 4)

def recordLen (frameLen : Nat) : Nat := frameHeaderLen + frameLen

def advance (frameLen : Nat) : Nat := recordLen frameLen % 2 ^ 32

/-- Where the record of that number starts, after the one at the position, when
records are passed over by this stride. -/
def recordStart (stride : Nat → Nat) (file : Chunk) : Nat → Nat → Nat
  | position, 0 => position
  | position, number + 1 =>
      recordStart stride file (position + stride (announced file position))
        number

def entry (file : Chunk) (position number : Nat) : Nat × Nat :=
  (recordStart advance file position number + frameHeaderLen,
    announced file (recordStart advance file position number))

theorem entries_succ (file : Chunk) (count position : Nat) :
    (List.range (count + 1)).map (entry file position) =
      (position + frameHeaderLen, announced file position) ::
        (List.range count).map (entry file
          (position + advance (announced file position))) := by
  rw [List.range_succ_eq_map, List.map_cons, List.map_map]
  rfl

theorem buildIndex_eq_ok_iff {file : Chunk} {count position : Nat}
    {index : List (Nat × Nat)} :
    buildIndex file count position = .ok index ↔
      (∀ number < count, recordStart advance file position number +
        frameHeaderLen ≤ file.length) ∧
      index = (List.range count).map (entry file position) := by
  induction count generalizing position index with
  | zero =>
      constructor
      · intro h
        cases h
        exact ⟨fun _ h => absurd h (Nat.not_lt_zero _), rfl⟩
      · rintro ⟨-, rfl⟩
        rfl
  | succ count ih =>
      have hlength : ((file.drop position).take frameHeaderLen).take 4 =
          (file.drop position).take 4 := by
        rw [List.take_take]
        rfl
      have hlt := ofBytes_lt ((file.drop position).take 4)
      have hbound : ofBytes ((file.drop position).take 4) < 2 ^ 32 :=
        Nat.lt_of_lt_of_le hlt (Nat.pow_le_pow_right (by decide)
          (List.length_take_le 4 _))
      have hread : (UInt32.ofNat (ofBytes ((file.drop position).take
          4))).toNat = announced file position := by
        rw [UInt32.toNat_ofNat', Nat.mod_eq_of_lt hbound]
        rfl
      have hadvance : (UInt32.ofNat frameHeaderLen + UInt32.ofNat (ofBytes
          ((file.drop position).take 4))).toNat =
            advance (announced file position) := by
        rw [UInt32.toNat_add, hread]
        rfl
      rw [entries_succ]
      constructor
      · intro h
        obtain ⟨frameHeader, hslice, h⟩ := bind_eq_ok h
        obtain ⟨hfit, rfl⟩ := slice_eq_ok_iff.mp hslice
        obtain ⟨frameLen, hlen, h⟩ := bind_eq_ok h
        obtain ⟨-, rfl⟩ := le32_eq_ok_iff.mp hlen
        obtain ⟨rest, hrest, h⟩ := bind_eq_ok h
        cases h
        rw [hlength, hadvance] at hrest
        rw [hlength, hread]
        obtain ⟨hheaders, rfl⟩ := ih.mp hrest
        refine ⟨fun number hnumber => ?_, rfl⟩
        cases number with
        | zero => exact hfit
        | succ number => exact hheaders number (Nat.lt_of_succ_lt_succ hnumber)
      · rintro ⟨hheaders, rfl⟩
        have hfit : position + frameHeaderLen ≤ file.length :=
          hheaders 0 (Nat.succ_pos count)
        have hfour : 4 ≤ ((file.drop position).take frameHeaderLen).length := by
          rw [List.length_take, List.length_drop]
          unfold frameHeaderLen at hfit ⊢
          omega
        rw [buildIndex, slice_eq_ok_iff.mpr ⟨hfit, rfl⟩, ok_bind,
          le32_eq_ok_iff.mpr ⟨hfour, rfl⟩, ok_bind, hlength,
          hadvance, hread, ih.mpr ⟨fun number hnumber =>
            hheaders (number + 1) (Nat.succ_lt_succ hnumber), rfl⟩]
        rfl

def field (file : Chunk) (offset length : Nat) : Nat :=
  ofBytes ((file.drop offset).take length)

structure HeaderAccepted (file : Chunk) : Prop where
  length : supportedHeaderLen ≤ file.length
  magic : file.take 4 = signature
  version : field file 4 2 = 0
  headerLen : field file 6 2 = supportedHeaderLen

def ofHeader (file : Chunk) : Ivf where
  file
  fourcc := (file.drop 8).take 4
  width := UInt16.ofNat (field file 12 2)
  height := UInt16.ofNat (field file 14 2)
  frameRate := UInt32.ofNat (field file 16 4)
  timeScale := UInt32.ofNat (field file 20 4)
  frameCount := UInt32.ofNat (field file 24 4)
  expectedDecoderMinihash := UInt32.ofNat (field file 28 4)
  frameIndex := []

theorem field_lt (file : Chunk) (offset length : Nat) :
    field file offset length < 256 ^ length :=
  Nat.lt_of_lt_of_le (ofBytes_lt _) (Nat.pow_le_pow_right (by decide)
    (List.length_take_le length _))

theorem header_slice {file : Chunk} (hfile : supportedHeaderLen ≤ file.length)
    {offset length : Nat} (hfit : offset + length ≤ supportedHeaderLen) :
    Chunk.slice (file.take supportedHeaderLen) offset length =
      .ok ((file.drop offset).take length) := by
  have hlength : (file.take supportedHeaderLen).length = supportedHeaderLen :=
    List.length_take_of_le hfile
  refine slice_eq_ok_iff.mpr ⟨by rw [hlength]; exact hfit, ?_⟩
  rw [List.drop_take, List.take_take, Nat.min_eq_left (by omega)]

theorem le32_field {file : Chunk} {offset : Nat}
    (hfit : offset + 4 ≤ file.length) :
    Chunk.le32 ((file.drop offset).take 4) =
      .ok (UInt32.ofNat (field file offset 4)) := by
  refine le32_eq_ok_iff.mpr ⟨?_, ?_⟩
  · rw [List.length_take, List.length_drop]
    omega
  · rw [List.take_take]
    rfl

theorem le16_field {file : Chunk} {offset : Nat}
    (hfit : offset + 2 ≤ file.length) :
    Chunk.le16 ((file.drop offset).take 2) =
      .ok (UInt16.ofNat (field file offset 2)) := by
  refine le16_eq_ok_iff.mpr ⟨?_, ?_⟩
  · rw [List.length_take, List.length_drop]
    omega
  · rw [List.take_take]
    rfl

theorem parseHeader_eq {file : Chunk}
    (hlength : supportedHeaderLen ≤ file.length) :
    parseHeader file = (do
      Net.require (file.take 4 = signature) (.invalid "missing IVF file header")
      Net.require (UInt16.ofNat (field file 4 2) = 0)
        (.unsupported "not an IVF version 0 file")
      Net.require ((UInt16.ofNat (field file 6 2)).toNat = supportedHeaderLen)
        (.unsupported "unsupported IVF header length")
      return ofHeader file) := by
  have hne : file.isEmpty = false := by
    cases file with
    | nil => exact absurd hlength (by decide)
    | cons first rest => rfl
  have hheader : file.slice 0 supportedHeaderLen =
      .ok (file.take supportedHeaderLen) :=
    slice_eq_ok_iff.mpr ⟨by omega, by rw [List.drop_zero]⟩
  have hslice {offset length : Nat}
      (hfit : offset + length ≤ supportedHeaderLen) :=
    header_slice hlength hfit
  have h32 {offset : Nat} (hfit : offset + 4 ≤ supportedHeaderLen) :=
    le32_field (Nat.le_trans hfit hlength)
  have h16 {offset : Nat} (hfit : offset + 2 ≤ supportedHeaderLen) :=
    le16_field (Nat.le_trans hfit hlength)
  unfold parseHeader
  rw [hne, Bool.not_false, Net.require_true, ok_bind, hheader, ok_bind,
    hslice (by decide), ok_bind, hslice (by decide), ok_bind,
    h16 (by decide), ok_bind, hslice (by decide), ok_bind,
    h16 (by decide), ok_bind, hslice (by decide), ok_bind,
    h32 (by decide), ok_bind, hslice (by decide), ok_bind,
    h32 (by decide), ok_bind, hslice (by decide), ok_bind,
    h32 (by decide), ok_bind, hslice (by decide), ok_bind,
    h32 (by decide), ok_bind, hslice (by decide), ok_bind,
    hslice (by decide)]
  simp only [ok_bind, h16 (show 4 + 2 ≤ supportedHeaderLen by decide),
    hslice (show 6 + 2 ≤ supportedHeaderLen by decide),
    h16 (show 6 + 2 ≤ supportedHeaderLen by decide), List.drop_zero]
  rfl

theorem parseHeader_eq_ok_iff {file : Chunk} {ivf : Ivf} :
    parseHeader file = .ok ivf ↔ HeaderAccepted file ∧ ivf = ofHeader file := by
  have hversion : UInt16.ofNat (field file 4 2) = 0 ↔ field file 4 2 = 0 := by
    have hlt : field file 4 2 < 2 ^ 16 := field_lt file 4 2
    rw [← UInt16.toNat_inj, UInt16.toNat_ofNat', Nat.mod_eq_of_lt hlt]
    rfl
  have hheaderLen : (UInt16.ofNat (field file 6 2)).toNat = field file 6 2 := by
    have hlt : field file 6 2 < 2 ^ 16 := field_lt file 6 2
    rw [UInt16.toNat_ofNat', Nat.mod_eq_of_lt hlt]
  constructor
  · intro h
    have hlength : supportedHeaderLen ≤ file.length := by
      obtain ⟨_, -, hrest⟩ := bind_eq_ok h
      obtain ⟨header, hheader, -⟩ := bind_eq_ok hrest
      have := (slice_eq_ok_iff.mp hheader).1
      omega
    rw [parseHeader_eq hlength] at h
    obtain ⟨_, hmagic, h⟩ := bind_eq_ok h
    obtain ⟨_, hzero, h⟩ := bind_eq_ok h
    obtain ⟨_, hlen, h⟩ := bind_eq_ok h
    cases h
    rw [Net.require_eq_ok, decide_eq_true_iff] at hmagic hzero hlen
    exact ⟨⟨hlength, hmagic, hversion.mp hzero, hheaderLen ▸ hlen⟩, rfl⟩
  · rintro ⟨⟨hlength, hmagic, hzero, hlen⟩, rfl⟩
    rw [parseHeader_eq hlength, decide_eq_true hmagic,
      decide_eq_true (hversion.mpr hzero), hheaderLen, decide_eq_true hlen]
    rfl

def announcedFrames (file : Chunk) : Nat := field file 24 4

def start (file : Chunk) (number : Nat) : Nat :=
  recordStart recordLen file supportedHeaderLen number

def found (file : Chunk) (number : Nat) : Nat :=
  recordStart advance file supportedHeaderLen number

theorem ofHeader_frameCount (file : Chunk) :
    (ofHeader file).frameCount.toNat = announcedFrames file := by
  have hlt : field file 24 4 < 2 ^ 32 := field_lt file 24 4
  change (UInt32.ofNat (field file 24 4)).toNat = field file 24 4
  rw [UInt32.toNat_ofNat', Nat.mod_eq_of_lt hlt]

theorem ofFile_eq_ok_iff {file : Chunk} {ivf : Ivf} :
    ofFile file = .ok ivf ↔ HeaderAccepted file ∧
      (∀ number < announcedFrames file,
        found file number + frameHeaderLen ≤ file.length) ∧
      ivf = { ofHeader file with
        frameIndex := (List.range (announcedFrames file)).map
          (entry file supportedHeaderLen) } := by
  have hcount := ofHeader_frameCount file
  constructor
  · intro h
    have hbuilt : (do
        let ivf ← parseHeader file
        let frameIndex ← buildIndex file ivf.frameCount.toNat supportedHeaderLen
        return { ivf with frameIndex }) = (.ok ivf : Except Failure Ivf) := by
      unfold ofFile at h
      dsimp only at h
      split at h
      · cases h
      · exact h
    obtain ⟨header, hheader, hbuilt⟩ := bind_eq_ok hbuilt
    obtain ⟨haccepted, rfl⟩ := parseHeader_eq_ok_iff.mp hheader
    obtain ⟨index, hindex, hbuilt⟩ := bind_eq_ok hbuilt
    cases hbuilt
    rw [hcount] at hindex
    obtain ⟨hheaders, rfl⟩ := buildIndex_eq_ok_iff.mp hindex
    exact ⟨haccepted, hheaders, rfl⟩
  · rintro ⟨haccepted, hheaders, rfl⟩
    unfold ofFile
    rw [parseHeader_eq_ok_iff.mpr ⟨haccepted, rfl⟩, ok_bind, hcount,
      buildIndex_eq_ok_iff.mpr ⟨hheaders, rfl⟩]
    rfl

def RecordsFit (file : Chunk) : Prop :=
  ∀ number < announcedFrames file, start file (number + 1) ≤ file.length

/-- All of the frame that the constructor finds is in the file. -/
def BodyFits (file : Chunk) (number : Nat) : Prop :=
  found file number + frameHeaderLen + announced file (found file number) ≤
    file.length

/-- The headers that the constructor looks at are in the file, but a body it
finds there, or a record of the format, runs past the end. -/
structure BodyCut (file : Chunk) : Prop where
  header : HeaderAccepted file
  headers : ∀ number < announcedFrames file,
    found file number + frameHeaderLen ≤ file.length
  body : ∃ number < announcedFrames file,
    ¬ BodyFits file number ∨ file.length < start file (number + 1)

/-- Every frame of a file that is accepted can be read, and a file whose
records do not fit is not accepted. -/
def RejectsUnreadable (file : Chunk) : Prop :=
  (∀ ivf, ofFile file = .ok ivf → ∀ index < ivf.frameCount.toNat,
    ∃ chunk, ivf.frame index = .ok chunk) ∧
  (¬ RecordsFit file → ∃ failure, ofFile file = .error failure)

theorem frameCount_of_ofFile {file : Chunk} {ivf : Ivf}
    (h : ofFile file = .ok ivf) :
    ivf.frameCount.toNat = announcedFrames file := by
  obtain ⟨-, -, rfl⟩ := ofFile_eq_ok_iff.mp h
  exact ofHeader_frameCount file

theorem frame_eq_ok_iff {file chunk : Chunk} {ivf : Ivf}
    (h : ofFile file = .ok ivf) {index : Nat}
    (hindex : index < announcedFrames file) :
    ivf.frame index = .ok chunk ↔ BodyFits file index ∧
      chunk = (file.drop (found file index + frameHeaderLen)).take
        (announced file (found file index)) := by
  obtain ⟨-, -, rfl⟩ := ofFile_eq_ok_iff.mp h
  have hentry : ((List.range (announcedFrames file)).map
      (entry file supportedHeaderLen))[index]? =
        some (entry file supportedHeaderLen index) := by
    rw [List.getElem?_map, List.getElem?_range hindex]
    rfl
  unfold frame
  dsimp only
  rw [hentry]
  exact slice_eq_ok_iff

theorem rejectsUnreadable_iff_bodies (file : Chunk) :
    RejectsUnreadable file ↔ ¬ BodyCut file := by
  constructor
  · rintro ⟨hreadable, hrejects⟩ ⟨haccepted, hheaders, number, hnumber, hbody⟩
    have hfile := ofFile_eq_ok_iff.mpr ⟨haccepted, hheaders, rfl⟩
    cases hbody with
    | inl hbody =>
        obtain ⟨chunk, hchunk⟩ := hreadable _ hfile number
          (by rw [frameCount_of_ofFile hfile]; exact hnumber)
        exact hbody ((frame_eq_ok_iff hfile hnumber).mp hchunk).1
    | inr hrecord =>
        obtain ⟨failure, hfailure⟩ := hrejects fun hfit =>
          absurd (hfit number hnumber) (Nat.not_le_of_lt hrecord)
        rw [hfile] at hfailure
        cases hfailure
  · intro hcut
    constructor
    · intro ivf hivf index hindex
      rw [frameCount_of_ofFile hivf] at hindex
      obtain ⟨haccepted, hheaders, -⟩ := ofFile_eq_ok_iff.mp hivf
      have hbody : BodyFits file index := by
        by_contra hbody
        exact hcut ⟨haccepted, hheaders, index, hindex, .inl hbody⟩
      exact ⟨_, (frame_eq_ok_iff hivf hindex).mpr ⟨hbody, rfl⟩⟩
    · intro hunfit
      cases hfile : ofFile file with
      | error failure => exact ⟨failure, rfl⟩
      | ok ivf =>
          obtain ⟨haccepted, hheaders, -⟩ := ofFile_eq_ok_iff.mp hfile
          refine absurd (fun number hnumber => ?_) hunfit
          by_contra hrecord
          exact hcut ⟨haccepted, hheaders, number, hnumber,
            .inr (Nat.lt_of_not_le hrecord)⟩

/-! What is not checked: the last body, and any body so long that the 32-bit sum
does not get past it. -/

/-- The records are short enough for the walk to find them and have their
headers in the file, but the last body runs past the end. -/
structure LastBodyCut (file : Chunk) : Prop where
  header : HeaderAccepted file
  short : ∀ number < announcedFrames file,
    recordLen (announced file (start file number)) < 2 ^ 32
  last : ∃ number, announcedFrames file = number + 1 ∧
    start file number + frameHeaderLen ≤ file.length
  cut : file.length < start file (announcedFrames file)

/-- A record takes up 2^32 bytes or more, and the walk, led astray there, finds
headers in the file to its end. Only a file as long as that can hold the bodies
nevertheless. -/
structure WalkLost (file : Chunk) : Prop where
  header : HeaderAccepted file
  long : ∃ number < announcedFrames file,
    2 ^ 32 ≤ recordLen (announced file (start file number))
  headers : ∀ number < announcedFrames file,
    found file number + frameHeaderLen ≤ file.length
  cut : 2 ^ 32 ≤ file.length → ∃ number < announcedFrames file,
    ¬ BodyFits file number ∨ file.length < start file (number + 1)

theorem recordStart_succ (stride : Nat → Nat) (file : Chunk)
    (position number : Nat) :
    recordStart stride file position (number + 1) =
      recordStart stride file position number +
        stride (announced file (recordStart stride file position number)) := by
  induction number generalizing position with
  | zero => rfl
  | succ number ih => exact ih (position + stride (announced file position))

theorem start_succ (file : Chunk) (number : Nat) :
    start file (number + 1) =
      start file number + recordLen (announced file (start file number)) :=
  recordStart_succ recordLen file supportedHeaderLen number

theorem start_mono (file : Chunk) {number later : Nat}
    (h : number ≤ later) : start file number ≤ start file later := by
  induction h with
  | refl => exact Nat.le_refl _
  | step _ ih =>
      rw [start_succ]
      exact ih.trans (Nat.le_add_right _ _)

theorem found_eq_start {file : Chunk} {number : Nat}
    (hshort : ∀ earlier < number,
      recordLen (announced file (start file earlier)) < 2 ^ 32) :
    found file number = start file number := by
  induction number with
  | zero => rfl
  | succ number ih =>
      have hsame := ih fun earlier h => hshort earlier (Nat.lt_succ_of_lt h)
      have hlast := hshort number (Nat.lt_succ_self number)
      have hstep : found file (number + 1) = found file number +
          advance (announced file (found file number)) :=
        recordStart_succ advance file supportedHeaderLen number
      rw [hstep, start_succ, hsame, advance, Nat.mod_eq_of_lt hlast]

/-- Where the walk finds the records, each header that is in the file proves the
body before it. -/
theorem bodyCut_iff_of_short {file : Chunk}
    (hshort : ∀ number < announcedFrames file,
      recordLen (announced file (start file number)) < 2 ^ 32) :
    BodyCut file ↔ LastBodyCut file := by
  have hfound : ∀ number ≤ announcedFrames file,
      found file number = start file number := fun number hnumber =>
    found_eq_start fun earlier h => hshort earlier (Nat.lt_of_lt_of_le h hnumber)
  have hbody : ∀ number < announcedFrames file,
      BodyFits file number ↔ start file (number + 1) ≤ file.length := by
    intro number hnumber
    rw [BodyFits, hfound number hnumber.le, start_succ, recordLen,
      Nat.add_assoc]
  constructor
  · rintro ⟨haccepted, hheaders, number, hnumber, hcut⟩
    obtain ⟨last, hlast⟩ := Nat.exists_eq_add_one_of_ne_zero
      (Nat.ne_zero_of_lt hnumber)
    have hrecord : file.length < start file (number + 1) := by
      rcases hcut with hcut | hcut
      · exact Nat.lt_of_not_le fun h => hcut ((hbody number hnumber).mpr h)
      · exact hcut
    refine ⟨haccepted, hshort, ⟨last, hlast, ?_⟩,
      hrecord.trans_le (start_mono file hnumber)⟩
    rw [← hfound last (by omega)]
    exact hheaders last (by omega)
  · rintro ⟨haccepted, -, ⟨last, hlast, hheader⟩, hcut⟩
    refine ⟨haccepted, fun number hnumber => ?_, last, by omega, .inr ?_⟩
    · rw [hfound number hnumber.le]
      have hmono := start_mono file (show number ≤ last by omega)
      omega
    · rw [← hlast]
      exact hcut

theorem bodyCut_iff_of_long {file : Chunk} {number : Nat}
    (hnumber : number < announcedFrames file)
    (hlong : 2 ^ 32 ≤ recordLen (announced file (start file number))) :
    BodyCut file ↔ WalkLost file := by
  constructor
  · rintro ⟨haccepted, hheaders, hbody⟩
    exact ⟨haccepted, ⟨number, hnumber, hlong⟩, hheaders, fun _ => hbody⟩
  · rintro ⟨haccepted, -, hheaders, hcut⟩
    refine ⟨haccepted, hheaders, ?_⟩
    by_cases hsize : 2 ^ 32 ≤ file.length
    · exact hcut hsize
    · refine ⟨number, hnumber, .inr ?_⟩
      rw [start_succ]
      omega

/-- Every file is dealt with, but those whose last body alone is cut and those
with a record too long for the walk. -/
theorem rejectsUnreadable_iff (file : Chunk) :
    RejectsUnreadable file ↔ ¬ LastBodyCut file ∧ ¬ WalkLost file := by
  rw [rejectsUnreadable_iff_bodies]
  by_cases hlong : ∃ number < announcedFrames file,
      2 ^ 32 ≤ recordLen (announced file (start file number))
  · obtain ⟨number, hnumber, hlong⟩ := hlong
    have hnot : ¬ LastBodyCut file := fun h =>
      absurd (h.short number hnumber) (Nat.not_lt_of_le hlong)
    rw [bodyCut_iff_of_long hnumber hlong, and_iff_right hnot]
  · have hshort : ∀ number < announcedFrames file,
        recordLen (announced file (start file number)) < 2 ^ 32 :=
      fun number hnumber => Nat.lt_of_not_le fun h =>
        hlong ⟨number, hnumber, h⟩
    have hnot : ¬ WalkLost file := fun h => hlong h.long
    rw [bodyCut_iff_of_short hshort, and_iff_left hnot]

/-- A file of one frame of which the header alone is there. -/
def cutFile : Chunk :=
  signature ++ toBytes 2 0 ++ toBytes 2 32 ++ [0x56, 0x50, 0x38, 0x30] ++
    toBytes 2 16 ++ toBytes 2 16 ++ toBytes 4 1 ++ toBytes 4 1 ++ toBytes 4 1 ++
    toBytes 4 0 ++ toBytes 4 5 ++ toBytes 8 0

theorem cutFile_accepted : ¬ RejectsUnreadable cutFile := by
  rintro ⟨hreadable, -⟩
  have hfile : ∃ ivf, ofFile cutFile = .ok ivf ∧ ivf.frameCount = 1 ∧
      ivf.frame 0 = .error (.outOfRange
        "attempted to read past end of chunk") := by
    exact ⟨_, rfl, rfl, rfl⟩
  obtain ⟨ivf, hivf, hcount, hframe⟩ := hfile
  obtain ⟨chunk, hchunk⟩ := hreadable ivf hivf 0 (by rw [hcount]; decide)
  rw [hframe] at hchunk
  cases hchunk

end Ivf

end Salsify.Input
