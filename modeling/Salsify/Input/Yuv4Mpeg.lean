import Salsify.Codec.Frame

namespace Salsify.Input

open Salsify.Codec (macroblockDimension)
open Salsify.Net (Chunk Failure)
open Fallible (bind_eq_ok ok_bind)

/-! The frames of `input/yuv4mpeg.cc`, between rasters and the bytes of a
stream. -/

abbrev Plane := Grid UInt8

namespace Plane

variable {width height : Nat}

/-- `Chunk( &at( 0, row ), length )` -/
def row (plane : Plane width height) (index length : Nat) :
    Except Failure Chunk :=
  if hindex : 0 < width ∧ index < height then
    .ok (((List.finRange width).map fun column =>
      plane column ⟨index, hindex.2⟩).take length)
  else
    .error (.assertion "column < width_ and row < height_")

def samples (plane : Plane width height) (length : Nat)
    (index : Fin height) : Chunk :=
  ((List.finRange width).map fun column => plane column index).take length

@[simp] theorem length_samples (plane : Plane width height) {length : Nat}
    (hlength : length ≤ width) (index : Fin height) :
    (plane.samples length index).length = length := by
  simp [samples, hlength]

theorem getElem?_samples (plane : Plane width height) {length : Nat}
    (index : Fin height) {column : Fin width} (hcolumn : column.val < length) :
    (plane.samples length index)[column.val]? = some (plane column index) := by
  simp [samples, hcolumn]

theorem row_eq_ok (plane : Plane width height) {index length : Nat}
    (hwidth : 0 < width) (hindex : index < height) :
    plane.row index length = .ok (plane.samples length ⟨index, hindex⟩) :=
  dif_pos ⟨hwidth, hindex⟩

def line (plane : Plane width height) (length index : Nat) : Chunk :=
  if h : index < height then plane.samples length ⟨index, h⟩ else []

theorem line_eq_samples (plane : Plane width height) (length : Nat)
    (index : Fin height) :
    plane.line length index = plane.samples length index :=
  dif_pos index.isLt

theorem length_line (plane : Plane width height) {length index : Nat}
    (hlength : length ≤ width) (hindex : index < height) :
    (plane.line length index).length = length := by
  rw [plane.line_eq_samples length ⟨index, hindex⟩]
  exact plane.length_samples hlength _

theorem mapM_row (plane : Plane width height) {count : Nat} (length : Nat)
    (hwidth : 0 < width) (hcount : count ≤ height) :
    (List.range count).mapM (plane.row · length) =
      .ok ((List.range count).map (plane.line length)) := by
  apply Fallible.mapM_eq_ok
  intro index hindex
  have hlt : index < height :=
    Nat.lt_of_lt_of_le (List.mem_range.mp hindex) hcount
  rw [plane.row_eq_ok hwidth hlt,
    plane.line_eq_samples length ⟨index, hlt⟩]

/-- `memcpy( &at( 0, row ), ... )` -/
def setRow (plane : Plane width height) (index : Nat) (bytes : Chunk) :
    Except Failure (Plane width height) :=
  if 0 < width ∧ index < height then
    .ok fun column other =>
      if other.val = index then bytes[column.val]?.getD (plane column other)
      else plane column other
  else
    .error (.assertion "column < width_ and row < height_")

/-- Every place past the edge takes the sample of the closest one inside. -/
def edgeExtend (plane : Plane width height)
    (displayWidth displayHeight : Nat) :
    Except Failure (Plane width height) :=
  if width = 0 ∨ height = 0 then .error (.invalid "image is zero size")
  else
    .ok fun column index => plane
      ⟨min column (displayWidth - 1), by omega⟩
      ⟨min index (displayHeight - 1), by omega⟩

theorem edgeExtend_inside (plane : Plane width height)
    (displayWidth displayHeight : Nat) (hwidth : 0 < width)
    (hheight : 0 < height) :
    ∃ extended, plane.edgeExtend displayWidth displayHeight = .ok extended ∧
      ∀ column index, column.val < displayWidth → index.val < displayHeight →
        extended column index = plane column index := by
  refine ⟨_, if_neg (by omega), fun column index hcolumn hindex => ?_⟩
  have hsame : min column.val (displayWidth - 1) = column.val := by omega
  have hsame' : min index.val (displayHeight - 1) = index.val := by omega
  congr 1 <;> exact Fin.ext (by assumption)

end Plane

/-- The width or height of a raster, as its constructor stores it. -/
def rasterDimension (display : Nat) : Nat :=
  16 * macroblockDimension display % 2 ^ 16

structure Raster (displayWidth displayHeight : Nat) where
  Y : Plane (rasterDimension displayWidth) (rasterDimension displayHeight)
  U : Plane (rasterDimension displayWidth / 2)
    (rasterDimension displayHeight / 2)
  V : Plane (rasterDimension displayWidth / 2)
    (rasterDimension displayHeight / 2)
  displayWidth_le : displayWidth ≤ rasterDimension displayWidth
  displayHeight_le : displayHeight ≤ rasterDimension displayHeight

namespace Raster

variable {displayWidth displayHeight : Nat}

def chromaDisplayWidth (_ : Raster displayWidth displayHeight) : Nat :=
  (1 + displayWidth) / 2

def chromaDisplayHeight (_ : Raster displayWidth displayHeight) : Nat :=
  (1 + displayHeight) / 2

def displayRectangleAsPlanar (raster : Raster displayWidth displayHeight) :
    Except Failure (List Chunk) := do
  let Y ← (List.range displayHeight).mapM fun row =>
    raster.Y.row row displayWidth
  let U ← (List.range raster.chromaDisplayHeight).mapM fun row =>
    raster.U.row row raster.chromaDisplayWidth
  let V ← (List.range raster.chromaDisplayHeight).mapM fun row =>
    raster.V.row row raster.chromaDisplayWidth
  return Y ++ U ++ V

def edgeExtend (raster : Raster displayWidth displayHeight) :
    Except Failure (Raster displayWidth displayHeight) := do
  let Y ← raster.Y.edgeExtend displayWidth displayHeight
  let U ← raster.U.edgeExtend raster.chromaDisplayWidth
    raster.chromaDisplayHeight
  let V ← raster.V.edgeExtend raster.chromaDisplayWidth
    raster.chromaDisplayHeight
  return { raster with Y, U, V }

end Raster

def Raster.SameDisplay {displayWidth displayHeight : Nat}
    (one other : Raster displayWidth displayHeight) : Prop :=
  (∀ column row, column.val < displayWidth → row.val < displayHeight →
    one.Y column row = other.Y column row) ∧
  ∀ column row, column.val < one.chromaDisplayWidth →
    row.val < one.chromaDisplayHeight →
      one.U column row = other.U column row ∧
        one.V column row = other.V column row

theorem chroma_le_rasterDimension {display : Nat}
    (h : display ≤ rasterDimension display) :
    (1 + display) / 2 ≤ rasterDimension display / 2 := by
  unfold rasterDimension at h ⊢
  omega

theorem Raster.edgeExtend_inside {displayWidth displayHeight : Nat}
    (raster : Raster displayWidth displayHeight) (hwidth : 0 < displayWidth)
    (hheight : 0 < displayHeight) :
    ∃ extended, raster.edgeExtend = .ok extended ∧
      extended.SameDisplay raster := by
  have hlumaWidth := raster.displayWidth_le
  have hlumaHeight := raster.displayHeight_le
  have hchromaWidth := chroma_le_rasterDimension hlumaWidth
  have hchromaHeight := chroma_le_rasterDimension hlumaHeight
  obtain ⟨Y, hY, hinsideY⟩ := raster.Y.edgeExtend_inside displayWidth
    displayHeight (by omega) (by omega)
  obtain ⟨U, hU, hinsideU⟩ := raster.U.edgeExtend_inside
    raster.chromaDisplayWidth raster.chromaDisplayHeight (by omega) (by omega)
  obtain ⟨V, hV, hinsideV⟩ := raster.V.edgeExtend_inside
    raster.chromaDisplayWidth raster.chromaDisplayHeight (by omega) (by omega)
  refine ⟨{ raster with Y, U, V }, ?_, hinsideY, fun column row hcolumn hrow =>
    ⟨hinsideU column row hcolumn hrow, hinsideV column row hcolumn hrow⟩⟩
  rw [edgeExtend, hY, ok_bind, hU, ok_bind, hV, ok_bind]
  rfl

structure FileDescriptor where
  unread : Chunk
  eof : Bool := false
  deriving DecidableEq, Repr

def newline : UInt8 := 0x0a

namespace FileDescriptor

/-- The line, without its end, and what is left. -/
def lineOf : Chunk → Chunk × FileDescriptor
  | [] => ([], { unread := [], eof := true })
  | byte :: unread =>
      if byte = newline then ([], { unread })
      else (byte :: (lineOf unread).1, (lineOf unread).2)

def getline (fd : FileDescriptor) : Except Failure (Chunk × FileDescriptor) :=
  if fd.eof then .error (.runtimeError "read() called after eof was set")
  else .ok (lineOf fd.unread)

def readExactly (fd : FileDescriptor) (length : Nat) :
    Except Failure (Chunk × FileDescriptor) :=
  if length = 0 then .ok ([], fd)
  else if fd.eof then .error (.runtimeError "read() called after eof was set")
  else if length ≤ fd.unread.length then
    .ok (fd.unread.take length, { fd with unread := fd.unread.drop length })
  else
    .error (.runtimeError
      "read_exactly: FileDescriptor reached EOF before reaching target")

theorem lineOf_append {line : Chunk} (hline : newline ∉ line) (rest : Chunk) :
    lineOf (line ++ newline :: rest) = (line, { unread := rest }) := by
  induction line with
  | nil => rfl
  | cons byte line ih =>
      have hbyte : byte ≠ newline := fun h => hline (h ▸ List.mem_cons_self)
      have hrest := ih fun h => hline (List.mem_cons_of_mem byte h)
      rw [List.cons_append, lineOf, if_neg hbyte, hrest]

theorem lineOf_size (unread : Chunk)
    (h : (lineOf unread).2.eof = false) :
    unread.length =
      (lineOf unread).1.length + 1 + (lineOf unread).2.unread.length := by
  induction unread with
  | nil => cases h
  | cons byte unread ih =>
      rw [lineOf] at h ⊢
      split
      · simp [Nat.add_comm]
      · next hbyte =>
          rw [if_neg hbyte] at h
          have hrest := ih h
          simp only [List.length_cons]
          omega

theorem readExactly_append {bytes : Chunk} {length : Nat}
    (hlength : bytes.length = length) (rest : Chunk) :
    readExactly { unread := bytes ++ rest } length =
      .ok (bytes, { unread := rest }) := by
  unfold readExactly
  split
  · next hzero =>
      have hnil : bytes = [] :=
        List.eq_nil_of_length_eq_zero (hlength.trans hzero)
      rw [hnil]
      rfl
  · have hle : length ≤ (bytes ++ rest).length := by
      rw [List.length_append]
      omega
    rw [if_neg Bool.false_ne_true, if_pos hle, List.take_left' hlength,
      List.drop_left' hlength]

theorem readExactly_size {fd next : FileDescriptor} {bytes : Chunk}
    {length : Nat} (h : fd.readExactly length = .ok (bytes, next)) :
    fd.unread.length = next.unread.length + length := by
  unfold readExactly at h
  split at h
  · next hzero =>
      cases h
      rw [hzero, Nat.add_zero]
  · split at h
    · cases h
    · split at h
      · next hle =>
          cases h
          rw [List.length_drop]
          omega
      · cases h

end FileDescriptor

def frameMarker : Chunk := [0x46, 0x52, 0x41, 0x4d, 0x45]

namespace Yuv4Mpeg

variable {displayWidth displayHeight : Nat}

def write (raster : Raster displayWidth displayHeight) :
    Except Failure Chunk := do
  let chunks ← raster.displayRectangleAsPlanar
  return frameMarker ++ [newline] ++ chunks.flatten

def readRows {width height : Nat} (length : Nat) :
    Nat → Nat → Plane width height → FileDescriptor →
      Except Failure (Plane width height × FileDescriptor)
  | 0, _, plane, fd => .ok (plane, fd)
  | left + 1, row, plane, fd => do
      let (readData, fd) ← fd.readExactly length
      let plane ← plane.setRow row readData
      readRows length left (row + 1) plane fd

theorem readRows_size {width height length left row : Nat}
    {plane result : Plane width height} {fd next : FileDescriptor}
    (h : readRows length left row plane fd = .ok (result, next)) :
    fd.unread.length = next.unread.length + left * length := by
  induction left generalizing row plane fd with
  | zero =>
      cases h
      rw [Nat.zero_mul, Nat.add_zero]
  | succ left ih =>
      obtain ⟨⟨readData, middle⟩, hread, hmore⟩ := bind_eq_ok h
      obtain ⟨written, -, hrest⟩ := bind_eq_ok hmore
      have hone := FileDescriptor.readExactly_size hread
      have hothers := ih hrest
      rw [Nat.succ_mul]
      omega

/-- Rows of the right length are taken from the front of any stream; those in
front of the first are left alone. -/
theorem readRows_append {width height length : Nat} {rows : Nat → Chunk}
    (hwidth : 0 < width)
    (hrows : ∀ index < height, (rows index).length = length)
    (left row : Nat) (plane : Plane width height)
    (hfit : row + left ≤ height) (rest : Chunk) :
    ∃ result, readRows length left row plane
        { unread := ((List.range' row left).map rows).flatten ++ rest } =
          .ok (result, { unread := rest }) ∧
      ∀ column index,
        (index.val < row → result column index = plane column index) ∧
        ∀ byte, row ≤ index.val → index.val < row + left →
          (rows index)[column.val]? = some byte →
            result column index = byte := by
  induction left generalizing row plane with
  | zero =>
      refine ⟨plane, rfl, fun column index => ⟨fun _ => rfl, ?_⟩⟩
      intro byte hge hlt
      omega
  | succ left ih =>
      have hrow : row < height := by omega
      let written : Plane width height := fun column other =>
        if other.val = row then
          (rows row)[column.val]?.getD (plane column other)
        else plane column other
      obtain ⟨result, hresult, hplaces⟩ := ih (row + 1) written (by omega)
      refine ⟨result, ?_, fun column index => ⟨fun hlt => ?_, ?_⟩⟩
      · have hread := FileDescriptor.readExactly_append (hrows row hrow)
          (((List.range' (row + 1) left).map rows).flatten ++ rest)
        have hset : plane.setRow row (rows row) = .ok written :=
          if_pos ⟨hwidth, hrow⟩
        rw [List.range'_succ, List.map_cons, List.flatten_cons,
          List.append_assoc, readRows, hread, ok_bind]
        change (plane.setRow row (rows row) >>= _) = _
        rw [hset, ok_bind]
        exact hresult
      · rw [(hplaces column index).1 (by omega)]
        exact if_neg (by omega)
      · intro byte hge hlt hbyte
        by_cases heq : index.val = row
        · have hwritten : written column index = byte := by
            rw [heq] at hbyte
            simp only [written, if_pos heq, hbyte, Option.getD_some]
          rw [(hplaces column index).1 (by omega), hwritten]
        · exact (hplaces column index).2 byte (by omega) (by omega) hbyte

/-- Into a raster that may have been used before. -/
def getNextFrame (raster : Raster displayWidth displayHeight)
    (fd : FileDescriptor) :
    Except Failure (Option (Raster displayWidth displayHeight) ×
      FileDescriptor) := do
  let (frameHeader, fd) ← fd.getline
  if fd.eof then
    return (none, fd)
  else
    Net.require (frameHeader = frameMarker)
      (.runtimeError "invalid yuv4mpeg2 input format")
    let (Y, fd) ← readRows displayWidth displayHeight 0 raster.Y fd
    let (U, fd) ← readRows (displayWidth / 2) (displayHeight / 2) 0 raster.U fd
    let (V, fd) ← readRows (displayWidth / 2) (displayHeight / 2) 0 raster.V fd
    let extended ← { raster with Y, U, V }.edgeExtend
    return (some extended, fd)

def getFrames : List (Raster displayWidth displayHeight) → FileDescriptor →
    Except Failure (List (Option (Raster displayWidth displayHeight)) ×
      FileDescriptor)
  | [], fd => .ok ([], fd)
  | raster :: rest, fd => do
      let (returned, fd) ← getNextFrame raster fd
      let (others, fd) ← getFrames rest fd
      return (returned :: others, fd)

def planarRows (raster : Raster displayWidth displayHeight) : List Chunk :=
  (List.range displayHeight).map (raster.Y.line displayWidth) ++
    (List.range raster.chromaDisplayHeight).map
      (raster.U.line raster.chromaDisplayWidth) ++
    (List.range raster.chromaDisplayHeight).map
      (raster.V.line raster.chromaDisplayWidth)

theorem write_eq_ok (raster : Raster displayWidth displayHeight)
    (hwidth : 0 < displayWidth) :
    write raster =
      .ok (frameMarker ++ [newline] ++ (planarRows raster).flatten) := by
  have hluma := raster.displayWidth_le
  have hchroma := chroma_le_rasterDimension raster.displayWidth_le
  have hheight : raster.chromaDisplayHeight ≤ _ :=
    chroma_le_rasterDimension raster.displayHeight_le
  have hY := raster.Y.mapM_row displayWidth (by omega) raster.displayHeight_le
  have hU := raster.U.mapM_row raster.chromaDisplayWidth (by omega) hheight
  have hV := raster.V.mapM_row raster.chromaDisplayWidth (by omega) hheight
  have hplanar : raster.displayRectangleAsPlanar = .ok (planarRows raster) := by
    rw [Raster.displayRectangleAsPlanar, hY, ok_bind, hU, ok_bind, hV, ok_bind]
    rfl
  rw [write, hplanar]
  rfl

theorem readRows_line {width height length count : Nat}
    (source stale : Plane width height) (hwidth : 0 < width)
    (hlength : length ≤ width) (hcount : count ≤ height) (rest : Chunk) :
    ∃ result, readRows length count 0 stale
        { unread := ((List.range count).map (source.line length)).flatten ++
          rest } = .ok (result, { unread := rest }) ∧
      ∀ column index, column.val < length → index.val < count →
        result column index = source column index := by
  obtain ⟨result, hresult, hplaces⟩ := readRows_append hwidth
    (fun index hindex => source.length_line hlength hindex) count 0 stale
    (by omega) rest
  rw [List.range_eq_range']
  refine ⟨result, hresult, fun column index hcolumn hindex => ?_⟩
  apply (hplaces column index).2 _ (Nat.zero_le _) (by omega)
  rw [source.line_eq_samples length index]
  exact source.getElem?_samples index hcolumn

theorem getNextFrame_write (frame stale : Raster displayWidth displayHeight)
    (hwidth : 0 < displayWidth) (hheight : 0 < displayHeight)
    (hevenWidth : displayWidth % 2 = 0) (hevenHeight : displayHeight % 2 = 0)
    (rest : Chunk) :
    ∃ written returned, write frame = .ok written ∧
      getNextFrame stale { unread := written ++ rest } =
        .ok (some returned, { unread := rest }) ∧
      returned.SameDisplay frame := by
  have hlumaWidth := frame.displayWidth_le
  have hlumaHeight := frame.displayHeight_le
  have hchromaWidth : frame.chromaDisplayWidth ≤ _ :=
    chroma_le_rasterDimension hlumaWidth
  have hchromaHeight : frame.chromaDisplayHeight ≤ _ :=
    chroma_le_rasterDimension hlumaHeight
  have hhalfWidth : displayWidth / 2 = frame.chromaDisplayWidth := by
    unfold Raster.chromaDisplayWidth
    omega
  have hhalfHeight : displayHeight / 2 = frame.chromaDisplayHeight := by
    unfold Raster.chromaDisplayHeight
    omega
  -- each plane is followed by the planes after it
  obtain ⟨V, hV, hsameV⟩ := readRows_line frame.V stale.V (by omega)
    hchromaWidth hchromaHeight rest
  obtain ⟨U, hU, hsameU⟩ := readRows_line frame.U stale.U (by omega)
    hchromaWidth hchromaHeight
    (((List.range frame.chromaDisplayHeight).map
      (frame.V.line frame.chromaDisplayWidth)).flatten ++ rest)
  obtain ⟨Y, hY, hsameY⟩ := readRows_line frame.Y stale.Y (by omega)
    hlumaWidth hlumaHeight
    (((List.range frame.chromaDisplayHeight).map
      (frame.U.line frame.chromaDisplayWidth)).flatten ++
      (((List.range frame.chromaDisplayHeight).map
        (frame.V.line frame.chromaDisplayWidth)).flatten ++ rest))
  obtain ⟨returned, hextend, hsame⟩ := Raster.edgeExtend_inside
    ({ stale with Y, U, V } : Raster displayWidth displayHeight) hwidth hheight
  refine ⟨_, returned, write_eq_ok frame hwidth, ?_, ?_, ?_⟩
  · have hline := FileDescriptor.lineOf_append
      (by decide : newline ∉ frameMarker) ((planarRows frame).flatten ++ rest)
    rw [planarRows, List.flatten_append, List.flatten_append,
      List.append_assoc, List.append_assoc] at hline
    rw [planarRows, List.flatten_append, List.flatten_append,
      List.append_assoc, List.append_assoc, List.append_assoc,
      List.append_assoc, List.singleton_append, getNextFrame]
    change (Except.ok (FileDescriptor.lineOf _) >>= _) = _
    rw [ok_bind, hline]
    change (readRows _ _ _ _ _ >>= _) = _
    rw [hY, ok_bind]
    change (readRows _ _ _ _ _ >>= _) = _
    rw [hhalfWidth, hhalfHeight, hU, ok_bind]
    change (readRows _ _ _ _ _ >>= _) = _
    rw [hV, ok_bind]
    change (Raster.edgeExtend _ >>= _) = _
    rw [hextend]
    rfl
  · intro column row hcolumn hrow
    exact (hsame.1 column row hcolumn hrow).trans
      (hsameY column row hcolumn hrow)
  · intro column row hcolumn hrow
    obtain ⟨hequalU, hequalV⟩ := hsame.2 column row hcolumn hrow
    exact ⟨hequalU.trans (hsameU column row hcolumn hrow),
      hequalV.trans (hsameV column row hcolumn hrow)⟩

/-- Every call returns a frame with the samples of the one written, and what
the writer wrote is used up exactly. -/
def ReadBack (frames : List (Raster displayWidth displayHeight)) : Prop :=
  ∀ stale : List (Raster displayWidth displayHeight),
    stale.length = frames.length → ∀ rest, ∃ written returned,
      frames.mapM write = .ok written ∧
      getFrames stale { unread := written.flatten ++ rest } =
        .ok (returned.map some, { unread := rest }) ∧
      List.Forall₂ Raster.SameDisplay returned frames

theorem readBack_of_even (frames : List (Raster displayWidth displayHeight))
    (hwidth : 0 < displayWidth) (hheight : 0 < displayHeight)
    (hevenWidth : displayWidth % 2 = 0)
    (hevenHeight : displayHeight % 2 = 0) : ReadBack frames := by
  induction frames with
  | nil =>
      intro stale hlength rest
      obtain rfl := List.eq_nil_of_length_eq_zero hlength
      exact ⟨[], [], rfl, rfl, .nil⟩
  | cons frame frames ih =>
      intro stale hlength rest
      cases stale with
      | nil => cases hlength
      | cons raster stale =>
          obtain ⟨others, later, hothers, hlater, hsames⟩ :=
            ih stale (Nat.succ.inj hlength) rest
          obtain ⟨written, returned, hwritten, hreturned, hsame⟩ :=
            getNextFrame_write frame raster hwidth hheight hevenWidth
              hevenHeight (others.flatten ++ rest)
          refine ⟨written :: others, returned :: later, ?_, ?_,
            .cons hsame hsames⟩
          · rw [List.mapM_cons, hwritten, ok_bind, hothers]
            rfl
          · rw [List.flatten_cons, List.append_assoc, getFrames, hreturned,
              ok_bind]
            change (getFrames _ _ >>= _) = _
            rw [hlater]
            rfl

def writtenSize (displayWidth displayHeight : Nat) : Nat :=
  6 + displayHeight * displayWidth +
    2 * ((1 + displayHeight) / 2 * ((1 + displayWidth) / 2))

def readSize (displayWidth displayHeight : Nat) : Nat :=
  6 + displayHeight * displayWidth +
    2 * (displayHeight / 2 * (displayWidth / 2))

theorem length_flatten_line {width height : Nat} (plane : Plane width height)
    {count length : Nat} (hcount : count ≤ height) (hlength : length ≤ width) :
    ((List.range count).map (plane.line length)).flatten.length =
      count * length := by
  have hlengths : ∀ index ∈ List.range count,
      (List.length ∘ plane.line length) index = length := by
    intro index hindex
    have hlt := Nat.lt_of_lt_of_le (List.mem_range.mp hindex) hcount
    exact plane.length_line hlength hlt
  rw [List.length_flatten, List.map_map,
    List.map_congr_left hlengths]
  simp

theorem write_size {frame : Raster displayWidth displayHeight}
    {written : Chunk} (hwidth : 0 < displayWidth)
    (h : write frame = .ok written) :
    written.length = writtenSize displayWidth displayHeight := by
  have hchromaWidth := chroma_le_rasterDimension frame.displayWidth_le
  have hchromaHeight := chroma_le_rasterDimension frame.displayHeight_le
  obtain rfl := Except.ok.inj ((write_eq_ok frame hwidth).symm.trans h)
  have hY := length_flatten_line frame.Y frame.displayHeight_le
    frame.displayWidth_le
  have hU := length_flatten_line frame.U hchromaHeight hchromaWidth
  have hV := length_flatten_line frame.V hchromaHeight hchromaWidth
  simp only [planarRows, Raster.chromaDisplayWidth, Raster.chromaDisplayHeight,
    List.flatten_append, List.length_append, hY, hU, hV, writtenSize]
  change 6 + _ = _
  omega

theorem mapM_write_size {frames : List (Raster displayWidth displayHeight)}
    {written : List Chunk} (hwidth : 0 < displayWidth)
    (h : frames.mapM write = .ok written) :
    written.flatten.length =
      frames.length * writtenSize displayWidth displayHeight := by
  induction frames generalizing written with
  | nil =>
      cases h
      rw [List.length_nil, Nat.zero_mul]
      rfl
  | cons frame frames ih =>
      rw [List.mapM_cons] at h
      obtain ⟨chunk, hchunk, hmore⟩ := bind_eq_ok h
      obtain ⟨others, hothers, hpure⟩ := bind_eq_ok hmore
      cases hpure
      rw [List.flatten_cons, List.length_append, write_size hwidth hchunk,
        ih hothers, List.length_cons, Nat.succ_mul, Nat.add_comm]

theorem getNextFrame_size {stale returned : Raster displayWidth displayHeight}
    {fd next : FileDescriptor}
    (h : getNextFrame stale fd = .ok (some returned, next)) :
    fd.unread.length =
      next.unread.length + readSize displayWidth displayHeight := by
  obtain ⟨⟨frameHeader, afterHeader⟩, hheader, hmore⟩ := bind_eq_ok h
  unfold FileDescriptor.getline at hheader
  split at hheader
  · cases hheader
  · injection hheader with hline
    change (if afterHeader.eof = true then _ else _) = _ at hmore
    split at hmore
    · cases hmore
    · next hopen =>
        have hsize := FileDescriptor.lineOf_size fd.unread
        rw [hline] at hsize
        have hheaderSize := hsize (eq_false_of_ne_true hopen)
        obtain ⟨⟨⟩, hmarker, hplanes⟩ := bind_eq_ok hmore
        obtain ⟨⟨Y, afterY⟩, hY, hplanes⟩ := bind_eq_ok hplanes
        obtain ⟨⟨U, afterU⟩, hU, hplanes⟩ := bind_eq_ok hplanes
        obtain ⟨⟨V, afterV⟩, hV, hplanes⟩ := bind_eq_ok hplanes
        obtain ⟨extended, -, hlast⟩ := bind_eq_ok hplanes
        cases hlast
        have hframe : frameHeader = frameMarker :=
          of_decide_eq_true (Net.require_eq_ok.mp hmarker)
        have hmarkerSize : frameHeader.length = 5 := by
          rw [hframe]
          rfl
        have hsizeY := readRows_size hY
        have hsizeU := readRows_size hU
        have hsizeV := readRows_size hV
        unfold readSize
        simp only at hheaderSize
        omega

theorem getFrames_size
    {stale returned : List (Raster displayWidth displayHeight)}
    {fd next : FileDescriptor}
    (h : getFrames stale fd = .ok (returned.map some, next)) :
    fd.unread.length = next.unread.length +
      stale.length * readSize displayWidth displayHeight := by
  induction stale generalizing fd returned with
  | nil =>
      injection h with hpair
      injection hpair with hresults hlast
      rw [hlast, List.length_nil, Nat.zero_mul, Nat.add_zero]
  | cons raster stale ih =>
      obtain ⟨⟨result, middle⟩, hone, hmore⟩ := bind_eq_ok h
      obtain ⟨⟨others, last⟩, hothers, hpure⟩ := bind_eq_ok hmore
      injection hpure with hpair
      injection hpair with hresults hlast
      cases returned with
      | nil => cases hresults
      | cons frame returned =>
          injection hresults with hresult hrest
          subst hresult hrest hlast
          have hfront := getNextFrame_size hone
          have hback := ih hothers
          rw [List.length_cons, Nat.succ_mul]
          omega

theorem even_of_sizes (hwidth : 0 < displayWidth) (hheight : 0 < displayHeight)
    (h : readSize displayWidth displayHeight =
      writtenSize displayWidth displayHeight) :
    displayWidth % 2 = 0 ∧ displayHeight % 2 = 0 := by
  have hproducts : displayHeight / 2 * (displayWidth / 2) =
      (1 + displayHeight) / 2 * ((1 + displayWidth) / 2) := by
    unfold readSize writtenSize at h
    omega
  have hrows : displayHeight / 2 ≤ (1 + displayHeight) / 2 := by omega
  have hcolumns : displayWidth / 2 ≤ (1 + displayWidth) / 2 := by omega
  constructor
  · have hpositive : 0 < (1 + displayHeight) / 2 := by omega
    have hle := Nat.mul_le_mul_right (displayWidth / 2) hrows
    rw [hproducts] at hle
    have hequal := Nat.le_of_mul_le_mul_left hle hpositive
    omega
  · have hpositive : 0 < (1 + displayWidth) / 2 := by omega
    have hle := Nat.mul_le_mul_left (displayHeight / 2) hcolumns
    rw [hproducts] at hle
    have hequal := Nat.le_of_mul_le_mul_right hle hpositive
    omega

/-- Frames are read back as written exactly where both dimensions are even: the
writer rounds half of an odd one up and the reader rounds it down. -/
theorem readBack_iff {frames : List (Raster displayWidth displayHeight)}
    (hwidth : 0 < displayWidth) (hheight : 0 < displayHeight)
    (hframes : frames ≠ []) :
    ReadBack frames ↔ displayWidth % 2 = 0 ∧ displayHeight % 2 = 0 := by
  constructor
  · intro h
    obtain ⟨written, returned, hwritten, hreturned, -⟩ := h frames rfl []
    have hread := getFrames_size hreturned
    have hwrote := mapM_write_size hwidth hwritten
    rw [List.append_nil, hwrote, List.length_nil, Nat.zero_add] at hread
    have hcount : 0 < frames.length := List.length_pos_iff.mpr hframes
    exact even_of_sizes hwidth hheight
      (Nat.eq_of_mul_eq_mul_left hcount hread).symm
  · intro h
    exact readBack_of_even frames hwidth hheight h.1 h.2

def flatRaster (displayWidth displayHeight : Nat) (sample : UInt8)
    (hwidth : displayWidth ≤ rasterDimension displayWidth)
    (hheight : displayHeight ≤ rasterDimension displayHeight) :
    Raster displayWidth displayHeight where
  Y _ _ := sample
  U _ _ := sample
  V _ _ := sample
  displayWidth_le := hwidth
  displayHeight_le := hheight

theorem readBack_two_frames :
    ReadBack [flatRaster 2 2 16 (by decide) (by decide),
      flatRaster 2 2 235 (by decide) (by decide)] :=
  (readBack_iff (by decide) (by decide) (List.cons_ne_nil _ _)).mpr
    ⟨rfl, rfl⟩

/-- Two of the nine bytes of a frame of one sample are left over. -/
theorem readBack_fails :
    ¬ ReadBack [flatRaster 1 1 128 (by decide) (by decide)] := by
  intro h
  obtain ⟨written, returned, hwritten, hreturned, -⟩ := h
    [flatRaster 1 1 0 (by decide) (by decide)] rfl []
  have hread := getFrames_size hreturned
  have hwrote := mapM_write_size (by decide) hwritten
  rw [List.append_nil, hwrote] at hread
  revert hread
  decide

end Yuv4Mpeg

end Salsify.Input
