import Salsify.Codec.UncompressedChunk
import Salsify.Lib.Fallible

namespace Salsify.Codec

open Salsify.Net (Chunk Failure)
open Salsify.LittleEndian
open Fallible (bind_eq_ok)

/-! The bytes around the partitions of a frame, as `make_frame` of
`encoder/serializer.cc` writes them and the uncompressed chunk reads them. -/

/-- The length is sent in 19 bits. -/
def frameTag (keyFrame showFrame experimental referenceUpdate : Bool)
    (firstPartitionLength : Nat) : Chunk :=
  [UInt8.ofNat ((!keyFrame).toNat ||| referenceUpdate.toNat <<< 2 |||
      experimental.toNat <<< 3 ||| showFrame.toNat <<< 4 |||
      (firstPartitionLength &&& 0x7) <<< 5),
   UInt8.ofNat ((firstPartitionLength &&& 0x7f8) >>> 3),
   UInt8.ofNat ((firstPartitionLength &&& 0x7f800) >>> 11)]

def sizeField (size : Nat) : Chunk :=
  [UInt8.ofNat (size &&& 0xff), UInt8.ofNat ((size &&& 0x3f00) >>> 8)]

def lengthField (length : Nat) : Chunk :=
  [UInt8.ofNat (length &&& 0xff), UInt8.ofNat ((length &&& 0xff00) >>> 8),
   UInt8.ofNat ((length &&& 0xff0000) >>> 16)]

def makeFrame (keyFrame showFrame experimental referenceUpdate : Bool)
    (width height : Nat) (firstPartition : Chunk)
    (dctPartitions : List Chunk) : Except Failure Chunk := do
  Net.require (width ≤ 16383 ∧ height ≤ 16383)
    (.invalid "VP8 frame dimensions too large.")
  Net.require (!dctPartitions.isEmpty)
    (.invalid "at least one DCT partition is required.")
  return frameTag keyFrame showFrame experimental referenceUpdate
      (firstPartition.length % 2 ^ 32) ++
    (if keyFrame then
      UncompressedChunk.startCode ++ sizeField width ++ sizeField height
    else []) ++
    firstPartition ++
    (dctPartitions.dropLast.map fun partition =>
      lengthField (partition.length % 2 ^ 32)).flatten ++
    dctPartitions.flatten

theorem shifted_mask (value shift width : Nat) :
    (value &&& (2 ^ width - 1) <<< shift) >>> shift =
      value / 2 ^ shift % 2 ^ width := by
  rw [Nat.shiftRight_and_distrib, Nat.shiftLeft_shiftRight,
    Nat.and_two_pow_sub_one_eq_mod, Nat.shiftRight_eq_div_pow]

theorem ofNat_congr {value other : Nat} (h : value % 256 = other % 256) :
    UInt8.ofNat value = UInt8.ofNat other := by
  apply UInt8.toNat_inj.mp
  rw [UInt8.toNat_ofNat', UInt8.toNat_ofNat']
  exact h

theorem ofNat_mod_256 (value : Nat) :
    UInt8.ofNat (value % 256) = UInt8.ofNat value :=
  ofNat_congr (Nat.mod_mod value 256)

def tagValue (keyFrame showFrame experimental referenceUpdate : Bool)
    (firstPartitionLength : Nat) : Nat :=
  (!keyFrame).toNat + 4 * referenceUpdate.toNat + 8 * experimental.toNat +
    16 * showFrame.toNat + 32 * (firstPartitionLength % 2 ^ 19)

theorem frameTag_eq (keyFrame showFrame experimental referenceUpdate : Bool)
    (length : Nat) :
    frameTag keyFrame showFrame experimental referenceUpdate length =
      toBytes 3 (tagValue keyFrame showFrame experimental referenceUpdate
        length) := by
  have hlow : (length &&& 0x7) <<< 5 = length % 8 * 32 := by
    rw [Nat.shiftLeft_eq]
    exact congrArg (· * 32) (Nat.and_two_pow_sub_one_eq_mod length 3)
  have hmiddle : (length &&& 0x7f8) >>> 3 = length / 8 % 256 :=
    shifted_mask length 3 8
  have hhigh : (length &&& 0x7f800) >>> 11 = length / 2048 % 256 :=
    shifted_mask length 11 8
  have hflags : (!keyFrame).toNat ||| referenceUpdate.toNat <<< 2 |||
      experimental.toNat <<< 3 ||| showFrame.toNat <<< 4 |||
      length % 8 * 32 = (!keyFrame).toNat + 4 * referenceUpdate.toNat +
        8 * experimental.toNat + 16 * showFrame.toNat + 32 * (length % 8) := by
    have hlt : length % 8 < 8 := Nat.mod_lt _ (by decide)
    generalize length % 8 = low at hlt
    revert low
    cases keyFrame <;> cases referenceUpdate <;> cases experimental <;>
      cases showFrame <;> decide
  have hbound : (!keyFrame).toNat + 4 * referenceUpdate.toNat +
      8 * experimental.toNat + 16 * showFrame.toNat < 32 := by
    cases keyFrame <;> cases referenceUpdate <;> cases experimental <;>
      cases showFrame <;> decide
  rw [frameTag, hlow, hmiddle, hhigh, hflags]
  unfold tagValue
  generalize (!keyFrame).toNat + 4 * referenceUpdate.toNat +
    8 * experimental.toNat + 16 * showFrame.toNat = flags at hbound
  have hfirst : UInt8.ofNat (flags + 32 * (length % 8)) =
      UInt8.ofNat (flags + 32 * (length % 2 ^ 19)) := by
    apply ofNat_congr
    omega
  have hsecond : UInt8.ofNat (length / 8 % 256) =
      UInt8.ofNat ((flags + 32 * (length % 2 ^ 19)) / 256) := by
    apply ofNat_congr
    omega
  have hthird : UInt8.ofNat (length / 2048 % 256) =
      UInt8.ofNat ((flags + 32 * (length % 2 ^ 19)) / 256 / 256) := by
    apply ofNat_congr
    omega
  rw [hfirst, hsecond, hthird]
  rfl

theorem sizeField_eq {size : Nat} (h : size < 2 ^ 14) :
    sizeField size = toBytes 2 size := by
  have hlow : size &&& 0xff = size % 256 :=
    Nat.and_two_pow_sub_one_eq_mod size 8
  have hhigh : (size &&& 0x3f00) >>> 8 = size / 256 % 64 :=
    shifted_mask size 8 6
  rw [sizeField, hlow, hhigh, ofNat_mod_256, Nat.mod_eq_of_lt (by omega)]
  rfl

theorem lengthField_eq (length : Nat) :
    lengthField length = toBytes 3 length := by
  have hlow : length &&& 0xff = length % 256 :=
    Nat.and_two_pow_sub_one_eq_mod length 8
  have hmiddle : (length &&& 0xff00) >>> 8 = length / 256 % 256 :=
    shifted_mask length 8 8
  have hhigh : (length &&& 0xff0000) >>> 16 = length / 65536 % 256 :=
    shifted_mask length 16 8
  rw [lengthField, hlow, hmiddle, hhigh, ofNat_mod_256, ofNat_mod_256,
    ofNat_mod_256, toBytes, toBytes, toBytes, toBytes, Nat.div_div_eq_div_mul]

theorem take_toBytes {count width : Nat} (h : count ≤ width) (value : Nat) :
    (toBytes width value).take count = toBytes count value := by
  induction count generalizing width value with
  | zero => rfl
  | succ count ih =>
      obtain ⟨width, rfl⟩ := Nat.exists_eq_succ_of_ne_zero
        (show width ≠ 0 by omega)
      rw [toBytes, toBytes, List.take_succ_cons, ih (by omega)]

theorem mod_div_mod {value offset length width : Nat}
    (h : offset + length ≤ width) :
    value % 2 ^ width / 2 ^ offset % 2 ^ length =
      value / 2 ^ offset % 2 ^ length := by
  apply Nat.eq_of_testBit_eq
  intro bit
  simp only [Nat.testBit_mod_two_pow, Nat.testBit_div_two_pow]
  by_cases hbit : bit < length
  · simp [hbit, show offset + bit < width by omega, Nat.add_comm]
  · simp [hbit]

theorem chunkBits_toBytes {width offset length : Nat} (value : Nat)
    (rest : Chunk) (hpositive : 0 < length)
    (hfit : offset + length ≤ 8 * width) (hwidth : width ≤ 8) :
    chunkBits (toBytes width value ++ rest) offset length =
      .ok (value / 2 ^ offset % 2 ^ length) := by
  have hbytes : 1 + (offset + length - 1) / 8 ≤ width := by omega
  have hcheck : 1 + (offset + length - 1) / 8 ≤
      (toBytes width value ++ rest).length := by
    rw [List.length_append, toBytes_length]
    omega
  have htake : ofBytes ((toBytes width value ++ rest).take
      (1 + (offset + length - 1) / 8)) =
        value % 2 ^ (8 * (1 + (offset + length - 1) / 8)) := by
    rw [List.take_append_of_le_length (by rw [toBytes_length]; exact hbytes),
      take_toBytes hbytes, ofBytes_toBytes, Nat.pow_mul]
  have hsmall : ¬ 1 + (offset + length - 1) / 8 > 8 := by omega
  simp only [chunkBits, Chunk.boundsCheck, hcheck, decide_true,
    Net.require_true, hsmall, htake]
  rw [mod_div_mod (by omega)]
  rfl

def partitionTail (dctPartitions : List Chunk) : Chunk :=
  (dctPartitions.dropLast.map fun partition =>
    lengthField (partition.length % 2 ^ 32)).flatten ++ dctPartitions.flatten

theorem partitionLengths_fields (lengths : List Nat) (rest : Chunk) :
    UncompressedChunk.partitionLengths lengths.length
        ((lengths.map lengthField).flatten ++ rest) =
      .ok (lengths.map (· % 2 ^ 24), rest) := by
  induction lengths with
  | nil => rfl
  | cons length lengths ih =>
      have hread := chunkBits_toBytes length
        ((lengths.map lengthField).flatten ++ rest)
        (show 0 < 24 by decide) (show 0 + 24 ≤ 8 * 3 by decide) (by decide)
      have hskip := Net.sliceFrom_append (lengthField length)
        ((lengths.map lengthField).flatten ++ rest)
      rw [lengthField_eq, toBytes_length] at hskip
      rw [pow_zero, Nat.div_one] at hread
      simp only [List.length_cons, List.map_cons, List.flatten_cons,
        List.append_assoc, UncompressedChunk.partitionLengths, lengthField_eq,
        hread, hskip, bind, Except.bind]
      rw [ih]
      rfl

theorem cutPartitions_lengths {lengths : List Nat} {rest : Chunk}
    {partitions : List Chunk}
    (h : UncompressedChunk.cutPartitions lengths rest = .ok partitions) :
    partitions.dropLast.map List.length = lengths ∧ partitions ≠ [] := by
  induction lengths generalizing rest partitions with
  | nil =>
      cases h
      exact ⟨rfl, List.cons_ne_nil _ _⟩
  | cons length lengths ih =>
      obtain ⟨partition, hpartition, h⟩ := bind_eq_ok h
      obtain ⟨next, hnext, h⟩ := bind_eq_ok h
      obtain ⟨others, hothers, h⟩ := bind_eq_ok h
      cases h
      obtain ⟨hlengths, hne⟩ := ih hothers
      have hlength : partition.length = length := by
        obtain ⟨_, -, hpartition⟩ := bind_eq_ok hpartition
        obtain ⟨_, hcheck, hpartition⟩ := bind_eq_ok hpartition
        cases hpartition
        rw [Chunk.boundsCheck, Net.require_eq_ok, decide_eq_true_iff] at hcheck
        rw [List.drop_zero, List.length_take]
        omega
      refine ⟨?_, List.cons_ne_nil _ _⟩
      rw [List.dropLast_cons_of_ne_nil hne, List.map_cons, hlength, hlengths]

theorem cutPartitions_flatten {partitions : List Chunk}
    (hne : partitions ≠ []) :
    UncompressedChunk.cutPartitions (partitions.dropLast.map List.length)
      partitions.flatten = .ok partitions := by
  induction partitions with
  | nil => exact absurd rfl hne
  | cons partition partitions ih =>
      cases partitions with
      | nil =>
          rw [List.flatten_singleton]
          rfl
      | cons second others =>
          have hcut := ih (List.cons_ne_nil _ _)
          have hfirst := Net.slice_append [] partition
            (second :: others).flatten
          have hnext := Net.sliceFrom_append partition
            (second :: others).flatten
          rw [List.nil_append, List.length_nil] at hfirst
          rw [List.dropLast_cons_of_ne_nil (List.cons_ne_nil _ _),
            List.map_cons, List.flatten_cons, UncompressedChunk.cutPartitions]
          simp only [hfirst, hnext, hcut, bind, Except.bind]
          rfl

theorem dctPartitions_tail_iff {chunk : UncompressedChunk}
    {dctPartitions : List Chunk} (hne : dctPartitions ≠ [])
    (hrest : chunk.rest = partitionTail dctPartitions) :
    chunk.dctPartitions dctPartitions.length = .ok dctPartitions ↔
      ∀ partition ∈ dctPartitions.dropLast, partition.length < 2 ^ 24 := by
  have hread := partitionLengths_fields
    (dctPartitions.dropLast.map fun partition => partition.length % 2 ^ 32)
    dctPartitions.flatten
  have hcut : chunk.dctPartitions dctPartitions.length =
      UncompressedChunk.cutPartitions (dctPartitions.dropLast.map
        fun partition => partition.length % 2 ^ 24) dctPartitions.flatten := by
    rw [List.length_map, List.length_dropLast, List.map_map, List.map_map]
      at hread
    unfold UncompressedChunk.dctPartitions
    rw [hrest, partitionTail]
    simp only [Function.comp_def] at hread
    simp only [hread, bind, Except.bind]
    congr 2
    funext partition
    omega
  rw [hcut]
  constructor
  · intro h partition hmem
    have hlengths := (cutPartitions_lengths h).1
    rw [List.map_inj_left] at hlengths
    have hfits := hlengths partition hmem
    omega
  · intro hfits
    have hlengths : dctPartitions.dropLast.map
        (fun partition => partition.length % 2 ^ 24) =
          dctPartitions.dropLast.map List.length :=
      List.map_congr_left fun partition hmem =>
        Nat.mod_eq_of_lt (hfits partition hmem)
    rw [hlengths]
    exact cutPartitions_flatten hne

section Parse

variable {showFrame : Bool} {width height : Nat} {firstPartition : Chunk}
variable {dctPartitions : List Chunk}

theorem tag_flags (keyFrame showFrame experimental referenceUpdate : Bool)
    (length : Nat) :
    tagValue keyFrame showFrame experimental referenceUpdate length / 2 ^ 0 %
        2 ^ 1 = (!keyFrame).toNat ∧
      tagValue keyFrame showFrame experimental referenceUpdate length / 2 ^ 4 %
        2 ^ 1 = showFrame.toNat ∧
      tagValue keyFrame showFrame experimental referenceUpdate length / 2 ^ 1 %
        2 ^ 3 = 2 * referenceUpdate.toNat + 4 * experimental.toNat ∧
      tagValue keyFrame showFrame experimental referenceUpdate length / 2 ^ 5 %
        2 ^ 19 = length % 2 ^ 19 := by
  have hkey : (!keyFrame).toNat < 2 := Bool.toNat_lt _
  have hshow : showFrame.toNat < 2 := Bool.toNat_lt _
  have hexperimental : experimental.toNat < 2 := Bool.toNat_lt _
  have hreference : referenceUpdate.toNat < 2 := Bool.toNat_lt _
  unfold tagValue
  refine ⟨?_, ?_, ?_, ?_⟩ <;> omega

theorem splitFrame_append (front body : Chunk) {length : Nat}
    (h : length < body.length) (acceptPartial : Bool) :
    UncompressedChunk.splitFrame (front ++ body) front.length length
        acceptPartial =
      .ok (.noCorruption, body.take length, body.drop length) := by
  have htake : (body.take length).length = length := by
    rw [List.length_take]
    omega
  have hfirst := Net.slice_append front (body.take length) (body.drop length)
  have hrest := Net.slice_append (front ++ body.take length)
    (body.drop length) []
  rw [List.append_assoc, List.take_append_drop, htake] at hfirst
  rw [List.append_nil, List.append_assoc, List.take_append_drop,
    List.length_append, htake, List.length_drop] at hrest
  have hsize : ¬ (front ++ body).length ≤ front.length + length := by
    rw [List.length_append]
    omega
  have hleft : (front ++ body).length - front.length - length =
      body.length - length := by
    rw [List.length_append]
    omega
  simp only [UncompressedChunk.splitFrame, if_neg hsize, hleft, hfirst, hrest]
  rfl

theorem checkSizes_eq {frame : Chunk} (hwidth : width < 2 ^ 14)
    (hheight : height < 2 ^ 14)
    (hslice : frame.slice 6 4 = .ok (sizeField width ++ sizeField height))
    (expectedWidth expectedHeight : Nat) :
    UncompressedChunk.checkSizes frame expectedWidth expectedHeight =
      Net.require (width = expectedWidth ∧ height = expectedHeight)
        (.unsupported "VP8 upscaling not supported") := by
  have hsizes : sizeField width ++ sizeField height =
      toBytes 4 (width + 65536 * height) := by
    rw [sizeField_eq hwidth, sizeField_eq hheight]
    simp only [toBytes, List.cons_append, List.nil_append]
    congr 1
    · exact ofNat_congr (by omega)
    congr 1
    · exact ofNat_congr (by omega)
    congr 1
    · exact ofNat_congr (by omega)
    congr 1
    exact ofNat_congr (by omega)
  have hread (offset length : Nat) (hpositive : 0 < length)
      (hfit : offset + length ≤ 8 * 4) :
      chunkBits (toBytes 4 (width + 65536 * height)) offset length =
        .ok ((width + 65536 * height) / 2 ^ offset % 2 ^ length) := by
    have := chunkBits_toBytes (width + 65536 * height) [] hpositive hfit
      (by decide)
    rwa [List.append_nil] at this
  have hhorizontal : (width + 65536 * height) / 2 ^ 14 % 2 ^ 2 = 0 := by omega
  have hvertical : (width + 65536 * height) / 2 ^ 30 % 2 ^ 2 = 0 := by omega
  have hframeWidth : (width + 65536 * height) / 2 ^ 0 % 2 ^ 14 = width := by
    omega
  have hframeHeight : (width + 65536 * height) / 2 ^ 16 % 2 ^ 14 = height := by
    omega
  simp only [UncompressedChunk.checkSizes, hslice, hsizes, bind, Except.bind,
    hread 14 2 (by decide) (by decide), hread 30 2 (by decide) (by decide),
    hread 0 14 (by decide) (by decide), hread 16 14 (by decide) (by decide),
    hhorizontal, hvertical, hframeWidth, hframeHeight, and_true]

def frameFront (keyFrame showFrame : Bool) (width height length : Nat) :
    Chunk :=
  frameTag keyFrame showFrame false false length ++
    if keyFrame then
      UncompressedChunk.startCode ++ sizeField width ++ sizeField height
    else []

theorem frameFront_length (keyFrame : Bool) (length : Nat) :
    (frameFront keyFrame showFrame width height length).length =
      if keyFrame then 10 else 3 := by
  cases keyFrame <;> rfl

def keyFrameStart (keyFrame : Bool) (width height : Nat) : Chunk :=
  if keyFrame then
    UncompressedChunk.startCode ++ sizeField width ++ sizeField height
  else []

theorem checkKeyFrame_front {tag : Chunk} (htag : tag.length = 3)
    (hwidth : width < 2 ^ 14) (hheight : height < 2 ^ 14) (keyFrame : Bool)
    (body : Chunk) (expectedWidth expectedHeight : Nat) :
    UncompressedChunk.checkKeyFrame keyFrame
        (tag ++ keyFrameStart keyFrame width height ++ body)
        expectedWidth expectedHeight =
      Net.require (keyFrame = true →
          width = expectedWidth ∧ height = expectedHeight)
        (.unsupported "VP8 upscaling not supported") := by
  cases keyFrame with
  | false =>
      simp [UncompressedChunk.checkKeyFrame, pure, Except.pure]
  | true =>
      have hcode : Chunk.slice
          (tag ++ keyFrameStart true width height ++ body) 3 3 =
            .ok UncompressedChunk.startCode := by
        have h := Net.slice_append tag UncompressedChunk.startCode
          (sizeField width ++ sizeField height ++ body)
        rw [htag, List.append_assoc, List.append_assoc] at h
        rw [keyFrameStart, if_pos rfl, List.append_assoc, List.append_assoc]
        exact h
      have hslice : Chunk.slice
          (tag ++ keyFrameStart true width height ++ body) 6 4 =
            .ok (sizeField width ++ sizeField height) := by
        have h := Net.slice_append (tag ++ UncompressedChunk.startCode)
          (sizeField width ++ sizeField height) body
        rw [List.length_append, htag, List.append_assoc, List.append_assoc] at h
        rw [keyFrameStart, if_pos rfl, List.append_assoc, List.append_assoc]
        exact h
      have hsizes := checkSizes_eq hwidth hheight hslice expectedWidth
        expectedHeight
      simp only [UncompressedChunk.checkKeyFrame, if_true,
        UncompressedChunk.checkStartCode, hcode, bind, Except.bind,
        decide_true, Net.require_true, hsizes, forall_const]

/-- How a frame in the container is taken apart, whether or not the length of
its first partition fits. -/
theorem parse_front (hwidth : width < 2 ^ 14) (hheight : height < 2 ^ 14)
    (keyFrame : Bool) {length : Nat} {body : Chunk}
    (hbody : length % 2 ^ 19 < body.length) (acceptPartial : Bool)
    (expectedWidth expectedHeight : Nat) :
    UncompressedChunk.parse
        (frameFront keyFrame showFrame width height length ++ body)
        expectedWidth expectedHeight acceptPartial =
      if keyFrame = true → width = expectedWidth ∧ height = expectedHeight then
        .ok {
          keyFrame, showFrame
          loopFilter := .normal
          experimental := false
          firstPartition := body.take (length % 2 ^ 19)
          rest := body.drop (length % 2 ^ 19)
          corruptionLevel := .noCorruption }
      else
        .error (.unsupported "VP8 upscaling not supported") := by
  obtain ⟨hinter, hshow, hversion, hlength⟩ :=
    tag_flags keyFrame showFrame false false length
  have hread (offset count : Nat) (hpositive : 0 < count)
      (hfit : offset + count ≤ 8 * 3) :
      chunkBits (frameFront keyFrame showFrame width height length ++ body)
          offset count =
        .ok (tagValue keyFrame showFrame false false length / 2 ^ offset %
          2 ^ count) := by
    rw [frameFront, frameTag_eq, List.append_assoc]
    exact chunkBits_toBytes _ _ hpositive hfit (by decide)
  have hkey : ((!keyFrame).toNat = 0) = (keyFrame = true) := by
    cases keyFrame <;> simp
  have hsplit := splitFrame_append
    (frameFront keyFrame showFrame width height length) body hbody
    acceptPartial
  rw [frameFront_length] at hsplit
  have hcheck : UncompressedChunk.checkKeyFrame keyFrame
      (frameFront keyFrame showFrame width height length ++ body)
      expectedWidth expectedHeight = _ :=
    checkKeyFrame_front rfl hwidth hheight keyFrame body expectedWidth
      expectedHeight
  have hfields : UncompressedChunk.parseFields
      (frameFront keyFrame showFrame width height length ++ body)
      expectedWidth expectedHeight acceptPartial =
    (Net.require (keyFrame = true →
        width = expectedWidth ∧ height = expectedHeight)
      (.unsupported "VP8 upscaling not supported")).map fun _ => {
        keyFrame, showFrame
        loopFilter := .normal
        experimental := false
        firstPartition := body.take (length % 2 ^ 19)
        rest := body.drop (length % 2 ^ 19)
        corruptionLevel := .noCorruption } := by
    simp only [UncompressedChunk.parseFields,
      hread 0 1 (by decide) (by decide), hread 4 1 (by decide) (by decide),
      hread 1 3 (by decide) (by decide), hread 5 19 (by decide) (by decide),
      hinter, hshow, hversion, hlength, UncompressedChunk.ofVersion, hkey,
      bind, Except.bind, hsplit, Bool.decide_eq_true, hcheck]
    cases Net.require _ _ with
    | error failure => rfl
    | ok result => cases showFrame <;> rfl
  rw [UncompressedChunk.parse, hfields]
  by_cases hexpected :
      keyFrame = true → width = expectedWidth ∧ height = expectedHeight
  · rw [decide_eq_true hexpected, if_pos hexpected]
    rfl
  · rw [decide_eq_false hexpected, if_neg hexpected]
    rfl

/-- Reading the bytes gives back what they were made from, and a key frame of
other dimensions is rejected. -/
def Recovers (bytes : Chunk) (keyFrame showFrame : Bool) (width height : Nat)
    (firstPartition : Chunk) (dctPartitions : List Chunk) : Prop :=
  ∀ acceptPartial, (∃ chunk,
      UncompressedChunk.parse bytes width height acceptPartial = .ok chunk ∧
        chunk.keyFrame = keyFrame ∧ chunk.showFrame = showFrame ∧
        chunk.experimental = false ∧
        chunk.firstPartition = firstPartition ∧
        chunk.dctPartitions dctPartitions.length = .ok dctPartitions) ∧
    (keyFrame = true → ∀ otherWidth otherHeight,
      (width = otherWidth ∧ height = otherHeight) ∨
        ∃ failure, UncompressedChunk.parse bytes otherWidth otherHeight
          acceptPartial = .error failure)

theorem makeFrame_eq (keyFrame : Bool) (hwidth : width < 2 ^ 14)
    (hheight : height < 2 ^ 14) (hne : dctPartitions ≠ []) :
    makeFrame keyFrame showFrame false false width height firstPartition
        dctPartitions =
      .ok (frameFront keyFrame showFrame width height
          (firstPartition.length % 2 ^ 32) ++
        (firstPartition ++ partitionTail dctPartitions)) := by
  have hsizes : width ≤ 16383 ∧ height ≤ 16383 := by omega
  have hempty : dctPartitions.isEmpty = false := by simpa using hne
  simp only [makeFrame, hsizes, and_self, decide_true, Net.require_true,
    hempty, Bool.not_false, frameFront, partitionTail, List.append_assoc]
  rfl

theorem partitionTail_pos
    (hlast : ∃ last, dctPartitions.getLast? = some last ∧ last ≠ []) :
    0 < (partitionTail dctPartitions).length := by
  obtain ⟨last, hlast, hnonempty⟩ := hlast
  refine List.length_pos_iff.mpr fun h => ?_
  have hflatten := (List.append_eq_nil_iff.mp h).2
  rw [List.flatten_eq_nil_iff] at hflatten
  exact hnonempty (hflatten last (List.mem_of_getLast? hlast))

theorem parse_fitting (hwidth : width < 2 ^ 14) (hheight : height < 2 ^ 14)
    (keyFrame : Bool)
    (hlast : ∃ last, dctPartitions.getLast? = some last ∧ last ≠ [])
    (hfits : firstPartition.length < 2 ^ 19) (acceptPartial : Bool)
    (expectedWidth expectedHeight : Nat) :
    UncompressedChunk.parse
        (frameFront keyFrame showFrame width height
            (firstPartition.length % 2 ^ 32) ++
          (firstPartition ++ partitionTail dctPartitions))
        expectedWidth expectedHeight acceptPartial =
      if keyFrame = true → width = expectedWidth ∧ height = expectedHeight then
        .ok {
          keyFrame, showFrame
          loopFilter := .normal
          experimental := false
          firstPartition
          rest := partitionTail dctPartitions
          corruptionLevel := .noCorruption }
      else
        .error (.unsupported "VP8 upscaling not supported") := by
  have hlength : firstPartition.length % 2 ^ 32 % 2 ^ 19 =
      firstPartition.length := by
    omega
  have hbody : firstPartition.length % 2 ^ 32 % 2 ^ 19 <
      (firstPartition ++ partitionTail dctPartitions).length := by
    have hpositive := partitionTail_pos hlast
    rw [List.length_append]
    omega
  rw [parse_front hwidth hheight keyFrame hbody, hlength, List.take_left,
    List.drop_left]

theorem recovers_iff (keyFrame : Bool) (hwidth : width < 2 ^ 14)
    (hheight : height < 2 ^ 14)
    (hlast : ∃ last, dctPartitions.getLast? = some last ∧ last ≠ []) :
    Recovers (frameFront keyFrame showFrame width height
          (firstPartition.length % 2 ^ 32) ++
        (firstPartition ++ partitionTail dctPartitions)) keyFrame showFrame
        width height firstPartition dctPartitions ↔
      firstPartition.length < 2 ^ 19 ∧
        ∀ partition ∈ dctPartitions.dropLast, partition.length < 2 ^ 24 := by
  have hne : dctPartitions ≠ [] := by
    obtain ⟨last, hlast, -⟩ := hlast
    rintro rfl
    cases hlast
  constructor
  · intro hrecovers
    have hbody : firstPartition.length % 2 ^ 32 % 2 ^ 19 <
        (firstPartition ++ partitionTail dctPartitions).length := by
      have hpositive := partitionTail_pos hlast
      rw [List.length_append]
      omega
    obtain ⟨⟨chunk, hchunk, -, -, -, hfirst, hpartitions⟩, -⟩ :=
      hrecovers false
    rw [parse_front hwidth hheight keyFrame hbody,
      if_pos (fun _ => ⟨rfl, rfl⟩)] at hchunk
    cases hchunk
    have hfits : firstPartition.length < 2 ^ 19 := by
      have hlength := congrArg List.length hfirst
      rw [List.length_take] at hlength
      omega
    refine ⟨hfits, (dctPartitions_tail_iff hne ?_).mp hpartitions⟩
    rw [show firstPartition.length % 2 ^ 32 % 2 ^ 19 =
      firstPartition.length by omega]
    exact List.drop_left
  · rintro ⟨hfits, hpartitions⟩ acceptPartial
    have hparse := @parse_fitting showFrame width height firstPartition
      dctPartitions hwidth hheight keyFrame hlast hfits acceptPartial
    refine ⟨⟨_, (hparse width height).trans (if_pos fun _ => ⟨rfl, rfl⟩), rfl,
      rfl, rfl, rfl, (dctPartitions_tail_iff hne rfl).mpr hpartitions⟩, ?_⟩
    intro hkey otherWidth otherHeight
    rw [hparse]
    by_cases hsame : width = otherWidth ∧ height = otherHeight
    · exact .inl hsame
    · exact .inr ⟨_, if_neg fun h => hsame (h hkey)⟩

/-- A frame that `make_frame` returns is read back exactly when the first
partition is shorter than 2^19 bytes, and every DCT partition but the last than
2^24: longer ones are not rejected but cut short in their length fields. -/
theorem makeFrame_recovers_iff (keyFrame showFrame : Bool)
    (width height : Nat) (firstPartition : Chunk) (dctPartitions : List Chunk)
    (hwidth : width < 2 ^ 14) (hheight : height < 2 ^ 14)
    (hcount : dctPartitions.length ∈ [1, 2, 4, 8])
    (hlast : ∃ last, dctPartitions.getLast? = some last ∧ last ≠ []) :
    (∀ bytes, makeFrame keyFrame showFrame false false width height
          firstPartition dctPartitions = .ok bytes →
        Recovers bytes keyFrame showFrame width height firstPartition
          dctPartitions) ↔
      firstPartition.length < 2 ^ 19 ∧
        ∀ partition ∈ dctPartitions.dropLast, partition.length < 2 ^ 24 := by
  have hne : dctPartitions ≠ [] := by
    rintro rfl
    simp at hcount
  have hframe := @makeFrame_eq showFrame width height firstPartition
    dctPartitions keyFrame hwidth hheight hne
  rw [← recovers_iff keyFrame hwidth hheight hlast]
  constructor
  · intro h
    exact h _ hframe
  · intro h bytes hbytes
    rw [hframe] at hbytes
    cases hbytes
    exact h

end Parse

theorem longFirstPartition_lost :
    ∃ bytes, makeFrame true true false false 16 16
        (List.replicate (2 ^ 19) 0) [[0]] = .ok bytes ∧
      ¬ Recovers bytes true true 16 16 (List.replicate (2 ^ 19) 0) [[0]] := by
  refine ⟨_, makeFrame_eq true (by decide) (by decide)
    (List.cons_ne_nil _ _), ?_⟩
  intro hrecovers
  have hfits := ((recovers_iff true (by decide) (by decide)
    ⟨[0], rfl, List.cons_ne_nil _ _⟩).mp hrecovers).1
  rw [List.length_replicate] at hfits
  omega

theorem makeFrame_recovers_small :
    ∃ bytes, makeFrame false true false false 16 16 [1, 2] [[3], [4, 5]] =
        .ok bytes ∧
      Recovers bytes false true 16 16 [1, 2] [[3], [4, 5]] := by
  have hframe := @makeFrame_eq true 16 16 [1, 2] [[3], [4, 5]] false (by decide)
    (by decide) (by decide)
  have hrecovers := (makeFrame_recovers_iff false true 16 16 [1, 2]
    [[3], [4, 5]] (by decide) (by decide) (by decide)
    ⟨[4, 5], rfl, by decide⟩).mpr ⟨by decide, by decide⟩
  exact ⟨_, hframe, hrecovers _ hframe⟩

end Salsify.Codec
