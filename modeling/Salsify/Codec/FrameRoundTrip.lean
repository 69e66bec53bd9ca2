import Salsify.Codec.PartialFrame
import Salsify.Codec.PlainFrame
import Salsify.Codec.StateUpdate
import Salsify.Codec.TokenPartitions

namespace Salsify.Codec

open Salsify.Coder (Probability BoolDecoder)
open Salsify.Net (Chunk Failure)
open BitParser (Yields Consumes)
open Fallible (bind_eq_ok ok_bind)

/-! A frame that has been parsed is serialized to bytes that are parsed to the
same frame, and leave the same state. -/

def finished (symbols : List (Probability × Bool)) : Chunk :=
  (Coder.encode symbols).getD []

theorem finish_eq (symbols : List (Probability × Bool)) :
    finish symbols = .ok (finished symbols) := by
  obtain ⟨bytes, hbytes, -⟩ := Coder.encode_delivers symbols true
  rw [finish, finished, hbytes]
  rfl

theorem finished_ne_nil (symbols : List (Probability × Bool)) :
    finished symbols ≠ [] := by
  obtain ⟨bytes, hbytes, -⟩ := Coder.encode_delivers symbols true
  rw [finished, hbytes]
  exact Coder.encode_ne_nil hbytes

theorem finished_length (symbols : List (Probability × Bool)) :
    (finished symbols).length ≤ symbols.length + 32 := by
  obtain ⟨bytes, hbytes, -⟩ := Coder.encode_delivers symbols true
  rw [finished, hbytes]
  exact Coder.encode_length hbytes

theorem finished_delivers (symbols : List (Probability × Bool))
    (completeChunk : Bool) :
    (BoolDecoder.ofChunk (finished symbols) completeChunk).Delivers
      symbols := by
  obtain ⟨bytes, hbytes, hdelivers⟩ :=
    Coder.encode_delivers symbols completeChunk
  rw [finished, hbytes]
  exact hdelivers

def finishedShares (count : Nat)
    (share : Nat → List (Probability × Bool)) : List Chunk :=
  (List.range count).map fun index => finished (share index)

theorem finishedShares_length (count : Nat)
    (share : Nat → List (Probability × Bool)) :
    (finishedShares count share).length = count := by
  rw [finishedShares, List.length_map, List.length_range]

theorem finishedShares_last {count : Nat} (hcount : 0 < count)
    (share : Nat → List (Probability × Bool)) :
    ∃ last, (finishedShares count share).getLast? = some last ∧ last ≠ [] := by
  obtain ⟨count, rfl⟩ := Nat.exists_eq_succ_of_ne_zero (by omega : count ≠ 0)
  refine ⟨finished (share count), ?_, finished_ne_nil _⟩
  rw [finishedShares, List.range_succ, List.map_append, List.map_singleton,
    List.getLast?_concat]

theorem finishedShares_delivers {count index : Nat}
    {share : Nat → List (Probability × Bool)} {partition : Chunk}
    (h : (finishedShares count share)[index]? = some partition) :
    (BoolDecoder.ofChunk partition).Delivers (share index) := by
  rw [finishedShares, List.getElem?_map] at h
  obtain ⟨found, hfound, rfl⟩ := Option.map_eq_some_iff.mp h
  obtain ⟨hindex, hfound⟩ := List.getElem?_eq_some_iff.mp hfound
  rw [List.getElem_range] at hfound
  subst hfound
  exact finished_delivers (share index) true

section Tokens

variable {FrameHeader MacroblockHeader : Type}
variable [HeaderType FrameHeader MacroblockHeader]

theorem Frame.serializeTokens_eq {frame : Frame FrameHeader MacroblockHeader}
    {tables : ProbabilityTables}
    {items : List (Macroblock MacroblockHeader × Y2Links)}
    {share : Nat → List (Probability × Bool)}
    (hlinks : items.map Prod.snd = frame.y2Links)
    (h : Shares tables frame.macroblockWidth frame.macroblockHeight
      frame.dctPartitionCount items [] frame.macroblocks frame.macroblocks
      share) :
    frame.serializeTokens tables =
      .ok (finishedShares frame.dctPartitionCount share) := by
  have hwrites := h.writes (List.replicate frame.dctPartitionCount [])
    List.length_replicate
  rw [hlinks] at hwrites
  have hshares : (List.replicate frame.dctPartitionCount []).mapIdx
      (fun index written => written ++ share index) =
        (List.range frame.dctPartitionCount).map share := by
    refine List.ext_getElem (by simp) fun index _ _ => ?_
    rw [List.getElem_mapIdx, List.getElem_replicate, List.nil_append,
      List.getElem_map, List.getElem_range]
  rw [Frame.serializeTokens, hwrites, ok_bind, hshares,
    Fallible.mapM_eq_ok fun symbols _ => finish_eq symbols, finishedShares,
    List.map_map]
  rfl

theorem Frame.serializeFirstPartition_eq
    [HeaderWriter FrameHeader MacroblockHeader]
    {frame : Frame FrameHeader MacroblockHeader} {tables : ProbabilityTables}
    {front symbols : List (Probability × Bool)}
    (hfront : HeaderWriter.encodeHeader frame.header = .ok front)
    (hsymbols : serializeHeaders frame.header tables frame.macroblockWidth
      frame.macroblockHeight frame.macroblocks = .ok symbols) :
    frame.serializeFirstPartition tables =
      .ok (finished (front ++ symbols)) := by
  unfold serializeHeaders at hsymbols
  rw [Frame.serializeFirstPartition, hsymbols, hfront, BitWriter.append_ok,
    ok_bind, finish_eq]

end Tokens

theorem announcedLengths_length (count : Nat) (restOfFrame : Chunk) :
    (announcedLengths count restOfFrame).length = count := by
  induction count generalizing restOfFrame with
  | zero => rfl
  | succ count ih => rw [announcedLengths, List.length_cons, ih]

theorem dctPartitions_length {chunk : UncompressedChunk} {num : Nat}
    (hnum : 0 < num) {partitions : List Chunk}
    (h : chunk.dctPartitions num = .ok partitions) :
    partitions.length = num := by
  obtain ⟨⟨lengths, rest⟩, hlengths, hcut⟩ := bind_eq_ok h
  obtain ⟨-, hresult⟩ := partitionLengths_eq_ok_iff.mp hlengths
  cases hresult
  obtain ⟨hmap, hne⟩ := cutPartitions_lengths hcut
  have hlength := congrArg List.length hmap
  have hpos := List.length_pos_iff.mpr hne
  rw [List.length_map, List.length_dropLast, announcedLengths_length] at hlength
  omega

namespace DecoderState

variable {width height : Nat} {FrameHeader MacroblockHeader : Type}

theorem tokenItems_clear {segmentation : Option (Segmentation width height)}
    {macroblocks : List (Macroblock MacroblockHeader)}
    (h : ∀ mb ∈ macroblocks, mb.Clear) :
    ∀ item ∈ tokenItems segmentation macroblocks, item.1.Clear := by
  intro item hitem
  have hview : ∀ (mb : Macroblock MacroblockHeader) segmentId,
      Macroblock.Clear { mb with segmentId } = mb.Clear := fun mb _ =>
    propext ⟨fun h => ⟨h.Y2, h.Y, h.U, h.V⟩, fun h => ⟨h.Y2, h.Y, h.U, h.V⟩⟩
  have hmem : item.1.Clear ∈ macroblocks.map Macroblock.Clear := by
    rw [← tokenItems_view hview segmentation macroblocks]
    exact List.mem_map_of_mem hitem
  obtain ⟨mb, hmb, hclear⟩ := List.mem_map.mp hmem
  exact hclear ▸ h mb hmb

variable [HeaderType FrameHeader MacroblockHeader]
theorem parseFrame_fields {chunk : UncompressedChunk}
    {state after : DecoderState width height} {header : FrameHeader}
    {tables : ProbabilityTables} {errorConcealment : Bool}
    {firstPartition : BoolDecoder}
    {frame : Frame FrameHeader MacroblockHeader}
    (h : parseFrame chunk state header tables errorConcealment
      firstPartition = .ok (frame, after)) :
    frame.header = header ∧ frame.showFrame = chunk.showFrame ∧
      frame.displayWidth = width ∧ frame.displayHeight = height ∧
      after.probabilityTables = state.probabilityTables := by
  obtain ⟨macroblocks, last, partitions, tokens, -, -, -, rfl, rfl⟩ :=
    parseFrame_eq_ok_iff.mp h
  exact ⟨rfl, rfl, rfl, rfl, rfl⟩

variable [HeaderWriter FrameHeader MacroblockHeader]

theorem parseFrame_rereads {errorConcealment : Bool} {Answers : Bool → Prop}
    (hwrites : WritesBack FrameHeader errorConcealment Answers)
    (hkeeps : KeepsPlace FrameHeader) (hignores : IgnoresTokens FrameHeader)
    {Inv : BoolDecoder → Prop} (hget : ∀ decoder probability, Inv decoder →
      Inv (boolDecoder.get decoder probability).2)
    (hvalid : ∀ decoder, Inv decoder → Answers (boolDecoder.valid decoder))
    {chunk : UncompressedChunk} {state after : DecoderState width height}
    {header : FrameHeader} {tables : ProbabilityTables}
    {firstPartition : BoolDecoder} (hfirst : Inv firstPartition)
    {frame : Frame FrameHeader MacroblockHeader}
    (h : parseFrame chunk state header tables errorConcealment
      firstPartition = .ok (frame, after)) :
    ∃ macroblocks last symbols share,
      (parseMacroblocks header tables errorConcealment frame.macroblockWidth
        frame.macroblockHeight (Grid.places frame.macroblockWidth
          frame.macroblockHeight) []).run boolDecoder firstPartition =
            .ok (macroblocks, last) ∧
      frame.macroblocks.map Macroblock.bare =
          macroblocks.map Macroblock.bare ∧
      serializeHeaders header tables frame.macroblockWidth
          frame.macroblockHeight frame.macroblocks = .ok symbols ∧
      frame.serializeTokens tables =
          .ok (finishedShares frame.dctPartitionCount share) ∧
      ∀ (other : UncompressedChunk) (decoder : BoolDecoder),
        other.showFrame = chunk.showFrame → decoder.Delivers symbols →
        other.dctPartitions frame.dctPartitionCount =
          .ok (finishedShares frame.dctPartitionCount share) →
        parseFrame other state header tables false decoder =
          .ok (frame, after) := by
  obtain ⟨macroblocks, last, partitions, tokens, hmacroblocks, hpartitions,
    htokens, rfl, rfl⟩ := parseFrame_eq_ok_iff.mp h
  have hcount : 0 < 2 ^ (HeaderType.log2NumberOfDctPartitions header).toNat :=
    Nat.two_pow_pos _
  have hlength : (partitions.map fun partition =>
      BoolDecoder.ofChunk partition).length =
        2 ^ (HeaderType.log2NumberOfDctPartitions header).toNat := by
    rw [List.length_map, dctPartitions_length hcount hpartitions]
  -- the headers of the macroblocks
  obtain ⟨⟨read, symbols, hread, hclear, hsymbols, hreads⟩, -⟩ :=
    (parseMacroblocks_echoes hwrites hkeeps header tables
      (macroblockDimension width) (macroblockDimension height)
      (Grid.places _ _) [] rfl).of_run hget hvalid hfirst hmacroblocks
  obtain rfl : macroblocks = read := hread
  have hplaces := (parseMacroblocks_places hkeeps header tables
    errorConcealment _ _ _ []).of_run hmacroblocks
  -- their tokens
  have hlinks := relinkY2Blocks_earlier (macroblockDimension width) macroblocks
  rw [← tokenItems_links state.segmentation] at hlinks
  have hitems : (Grid.places (macroblockDimension width)
      (macroblockDimension height)).drop ([] : List (Macroblock
        MacroblockHeader)).length =
      (tokenItems state.segmentation macroblocks).map
        fun item => item.1.place := by
    rw [tokenItems_view fun _ _ => rfl, hplaces]
    rfl
  obtain ⟨new, share, hnew, hbare, hshares⟩ := parseMacroblockTokens_shares
    tables _ _ hcount _ hlength hitems (tokenItems_clear hclear) hlinks htokens
  obtain rfl : tokens = new := hnew
  rw [tokenItems_view fun _ _ => rfl] at hbare
  refine ⟨macroblocks, last, symbols, share, hmacroblocks, hbare, ?_,
    Frame.serializeTokens_eq
    (tokenItems_links state.segmentation macroblocks) hshares, ?_⟩
  · calc
      serializeHeaders header tables (macroblockDimension width)
          (macroblockDimension height) tokens
        = serializeHeaders header tables (macroblockDimension width)
            (macroblockDimension height) (tokens.map Macroblock.bare) :=
          (serializeHeaders_bare hignores header tables _ _ tokens).symm
      _ = serializeHeaders header tables (macroblockDimension width)
            (macroblockDimension height) macroblocks := by
          rw [hbare, serializeHeaders_bare hignores]
      _ = .ok symbols := hsymbols
  · intro other decoder hshow hdelivers hother
    have hwhole : decoder.Delivers (symbols ++ []) := by
      rw [List.append_nil]
      exact hdelivers
    obtain ⟨rest, hrun, -⟩ := hreads.run delivers_get hwhole
    refine parseFrame_eq_ok_iff.mpr ⟨macroblocks, rest, _, tokens, hrun, hother,
      hshares.reads _ ?_ ?_, ?_, rfl⟩
    · rw [List.length_map, finishedShares_length]
      rfl
    · intro index decoder hdecoder
      rw [List.getElem?_map] at hdecoder
      obtain ⟨partition, hpartition, rfl⟩ := Option.map_eq_some_iff.mp hdecoder
      exact finishedShares_delivers hpartition
    · rw [hshow]

theorem parseHeader_rereads {errorConcealment : Bool} {Answers : Bool → Prop}
    (hwrites : WritesBack FrameHeader errorConcealment Answers)
    (hkeeps : KeepsPlace FrameHeader) (hignores : IgnoresTokens FrameHeader)
    {Inv : BoolDecoder → Prop} (hget : ∀ decoder probability, Inv decoder →
      Inv (boolDecoder.get decoder probability).2)
    (hvalid : ∀ decoder, Inv decoder → Answers (boolDecoder.valid decoder))
    {chunk : UncompressedChunk} {state after : DecoderState width height}
    {header : FrameHeader} {tables : ProbabilityTables}
    {firstPartition : BoolDecoder} (hchunk : Inv (firstPartitionDecoder chunk))
    (hheader : parseHeader width height chunk = .ok (header, firstPartition))
    {frame : Frame FrameHeader MacroblockHeader}
    (h : parseFrame chunk state header tables errorConcealment
      firstPartition = .ok (frame, after)) :
    ∃ first dctPartitions, frame.serializeFirstPartition tables = .ok first ∧
      frame.serializeTokens tables = .ok dctPartitions ∧
      (∃ last, dctPartitions.getLast? = some last ∧ last ≠ []) ∧
      ∀ other : UncompressedChunk, other.showFrame = chunk.showFrame →
        other.firstPartition = first →
        other.dctPartitions dctPartitions.length = .ok dctPartitions →
        ∃ decoder, parseHeader width height other = .ok (header, decoder) ∧
          parseFrame other state header tables false decoder =
            .ok (frame, after) := by
  obtain ⟨hwidth, hheight, hrun⟩ := parseHeader_eq_ok_iff.mp hheader
  obtain ⟨⟨front, hfront, hreads⟩, hfirst⟩ := hwrites.header.of_run hget hvalid
    hchunk hrun
  obtain ⟨-, -, symbols, share, -, -, hsymbols, htokens, hrereads⟩ :=
    parseFrame_rereads hwrites hkeeps hignores hget hvalid hfirst h
  obtain ⟨rfl, -⟩ := parseFrame_fields h
  refine ⟨finished (front ++ symbols), _, ?_, htokens, ?_, ?_⟩
  · rw [List.nil_append] at hfront
    exact Frame.serializeFirstPartition_eq hfront hsymbols
  · exact finishedShares_last (Nat.two_pow_pos _) share
  · intro other hshow hother hpartitions
    have hdelivers : (firstPartitionDecoder other).Delivers
        (front ++ symbols) := by
      rw [firstPartitionDecoder, hother]
      exact finished_delivers _ _
    obtain ⟨decoder, hdecoder, hrest⟩ := hreads.run delivers_get hdelivers
    rw [finishedShares_length] at hpartitions
    exact ⟨decoder, parseHeader_eq_ok_iff.mpr ⟨hwidth, hheight, hdecoder⟩,
      hrereads other decoder hshow hrest hpartitions⟩

end DecoderState

def Frame.FitsFields {FrameHeader MacroblockHeader : Type}
    [HeaderType FrameHeader MacroblockHeader]
    [HeaderWriter FrameHeader MacroblockHeader]
    (frame : Frame FrameHeader MacroblockHeader) (tables : ProbabilityTables) :
    Prop :=
  ∀ firstPartition dctPartitions,
    frame.serializeFirstPartition tables = .ok firstPartition →
    frame.serializeTokens tables = .ok dctPartitions →
    firstPartition.length < 2 ^ 19 ∧
      ∀ partition ∈ dctPartitions.dropLast, partition.length < 2 ^ 24

def RoundTrips {α : Type} (width height : Nat)
    (serialized : Except Failure Chunk)
    (parseAndApply : UncompressedChunk → Except Failure α) (result : α) :
    Prop :=
  ∃ bytes, serialized = .ok bytes ∧ ∀ acceptPartial, ∃ chunk,
    UncompressedChunk.parse bytes width height acceptPartial = .ok chunk ∧
      parseAndApply chunk = .ok result

theorem roundTrips_makeFrame {α : Type} {width height : Nat}
    {keyFrame showFrame : Bool} {firstPartition : Chunk}
    {dctPartitions : List Chunk} (hwidth : width ≤ 16383)
    (hheight : height ≤ 16383)
    (hlast : ∃ last, dctPartitions.getLast? = some last ∧ last ≠ [])
    (hfirst : firstPartition.length < 2 ^ 19)
    (hpartitions : ∀ partition ∈ dctPartitions.dropLast,
      partition.length < 2 ^ 24)
    {parseAndApply : UncompressedChunk → Except Failure α} {result : α}
    (h : ∀ chunk : UncompressedChunk, chunk.keyFrame = keyFrame →
      chunk.showFrame = showFrame → chunk.experimental = false →
      chunk.corruptionLevel = .noCorruption →
      chunk.firstPartition = firstPartition →
      chunk.dctPartitions dctPartitions.length = .ok dctPartitions →
      parseAndApply chunk = .ok result) :
    RoundTrips width height (makeFrame keyFrame showFrame false false width
      height firstPartition dctPartitions) parseAndApply result := by
  have hne : dctPartitions ≠ [] := by
    obtain ⟨last, hlast, -⟩ := hlast
    rintro rfl
    cases hlast
  have hwidth : width < 2 ^ 14 := by omega
  have hheight : height < 2 ^ 14 := by omega
  refine ⟨_, makeFrame_eq keyFrame hwidth hheight hne, fun acceptPartial =>
    ⟨_, (parse_fitting hwidth hheight keyFrame hlast hfirst acceptPartial width
      height).trans (if_pos fun _ => ⟨rfl, rfl⟩), ?_⟩⟩
  exact h _ rfl rfl rfl rfl rfl ((dctPartitions_tail_iff hne rfl).mpr
    hpartitions)

namespace DecoderState

variable {width height : Nat}

theorem keyFrameState_tables (header : KeyFrameHeader) :
    (keyFrameState header :
        DecoderState width height).probabilityTables.coeffProbUpdate
          header.tokenProbUpdate =
      ({} : ProbabilityTables).coeffProbUpdate header.tokenProbUpdate := by
  unfold keyFrameState
  dsimp only
  split
  · exact ProbabilityTables.coeffProbUpdate_again _ _
  · rfl

theorem interFrameState_tables (state : DecoderState width height)
    (header : InterFrameHeader) :
    (state.interFrameState header).probabilityTables.update header =
      state.probabilityTables.update header := by
  unfold interFrameState
  dsimp only
  split
  · exact ProbabilityTables.update_again _ _
  · rfl

theorem parseAndApplyKey_roundTrips (hwidth : width ≤ 16383)
    (hheight : height ≤ 16383) {chunk : UncompressedChunk} {frame : KeyFrame}
    {after : DecoderState width height}
    (h : parseAndApplyKey chunk = .ok (frame, after))
    (hfits : frame.FitsFields (after.probabilityTables.coeffProbUpdate
      frame.header.tokenProbUpdate)) :
    RoundTrips width height (frame.serialize after.probabilityTables)
      parseAndApplyKey (frame, after) := by
  obtain ⟨-, -, header, firstPartition, hheader, hparse⟩ :=
    parseAndApplyKey_eq_ok_iff.mp h
  obtain ⟨first, dctPartitions, hfirst, htokens, hlast, hrereads⟩ :=
    parseHeader_rereads (writesBack_key fun _ => True) keepsPlace_key
      ignoresTokens_key (fun _ _ (_ : True) => trivial) (fun _ _ => trivial)
      trivial hheader hparse
  obtain ⟨rfl, hshow, hsameWidth, hsameHeight, htables⟩ :=
    parseFrame_fields hparse
  rw [htables, keyFrameState_tables] at hfits
  obtain ⟨hshort, hparts⟩ := hfits first dctPartitions hfirst htokens
  unfold KeyFrame.serialize
  rw [htables, keyFrameState_tables]
  dsimp only
  rw [hfirst, ok_bind, htokens, ok_bind, hshow, hsameWidth, hsameHeight]
  refine roundTrips_makeFrame hwidth hheight hlast hshort hparts ?_
  intro other hkey hshow hexperimental _ hother hpartitions
  obtain ⟨decoder, hstart, hsame⟩ := hrereads other hshow hother hpartitions
  exact parseAndApplyKey_eq_ok_iff.mpr ⟨hkey, hexperimental, _, decoder, hstart,
    hsame⟩

theorem parseAndApplyInter_roundTrips (hwidth : width ≤ 16383)
    (hheight : height ≤ 16383) {state after : DecoderState width height}
    {chunk : UncompressedChunk} {frame : InterFrame}
    (h : state.parseAndApplyInter chunk = .ok (frame, after))
    (hfits : frame.FitsFields
      (after.probabilityTables.update frame.header)) :
    RoundTrips width height (frame.serialize after.probabilityTables)
      state.parseAndApplyInter (frame, after) := by
  obtain ⟨-, header, firstPartition, hheader, hparse⟩ :=
    parseAndApplyInter_eq_ok_iff.mp h
  obtain ⟨first, dctPartitions, hfirst, htokens, hlast, hrereads⟩ :=
    parseHeader_rereads (writesBack_inter (neverMissing_unwatched _))
      keepsPlace_inter ignoresTokens_inter (unwatched_get _)
      (fun decoder hdecoder hconcealment => (hdecoder hconcealment).1)
      (unwatched_first chunk) hheader hparse
  obtain ⟨rfl, hshow, hsameWidth, hsameHeight, htables⟩ :=
    parseFrame_fields hparse
  rw [htables, interFrameState_tables] at hfits
  obtain ⟨hshort, hparts⟩ := hfits first dctPartitions hfirst htokens
  unfold InterFrame.serialize
  rw [htables, interFrameState_tables]
  dsimp only
  rw [hfirst, ok_bind, htokens, ok_bind, hshow, hsameWidth, hsameHeight]
  refine roundTrips_makeFrame hwidth hheight hlast hshort hparts ?_
  intro other hkey hshow _ hlevel hother hpartitions
  obtain ⟨decoder, hstart, hsame⟩ := hrereads other hshow hother hpartitions
  refine parseAndApplyInter_eq_ok_iff.mpr ⟨hkey, _, decoder, hstart, ?_⟩
  rw [hlevel]
  exact hsame

def plainChunk : UncompressedChunk where
  keyFrame := false
  loopFilter := .normal
  showFrame := true
  experimental := false
  firstPartition := []
  rest := [0]
  corruptionLevel := .noCorruption

theorem exists_plainHeader :
    ∃ (header : InterFrameHeader) (firstPartition : BoolDecoder)
        (front : List (Probability × Bool)),
      InterFrameHeader.parse.run boolDecoder (.ofChunk [] false) =
          .ok (header, firstPartition) ∧
        firstPartition.Spent ∧ header.updateSegmentation = none ∧
        header.probSkipFalse = none ∧ header.log2NumberOfDctPartitions = 0 ∧
        header.encode = .ok front ∧ front.length ≤ 2 ^ 16 := by
  obtain ⟨⟨header, firstPartition⟩, hheader, htest⟩ : ∃ result,
      InterFrameHeader.parse.run boolDecoder (.ofChunk [] false) = .ok result ∧
        (result.1.updateSegmentation.isNone && result.1.probSkipFalse.isNone &&
          (result.1.log2NumberOfDctPartitions == 0 &&
            Fallible.check (fun front => decide (front.length ≤ 2 ^ 16))
              (InterFrameHeader.encode result.1))) = true :=
    Fallible.exists_of_check (by decide +kernel)
  rw [Bool.and_eq_true, Bool.and_eq_true, Bool.and_eq_true,
    Option.isNone_iff_eq_none, Option.isNone_iff_eq_none, beq_iff_eq] at htest
  obtain ⟨⟨hsegmentation, hskip⟩, hlog2, hcheck⟩ := htest
  obtain ⟨front, hfront, hshort⟩ := Fallible.exists_of_check hcheck
  have hspent : firstPartition.Spent := BitParser.run_invariant
    (fun _ probability h => (h.get probability).2)
    (BoolDecoder.spent_ofChunk false) hheader
  exact ⟨header, firstPartition, front, hheader, hspent, hsegmentation, hskip,
    hlog2, hfront, of_decide_eq_true hshort⟩

theorem serializeHeaders_spent {header : InterFrameHeader}
    (hsegmentation : header.updateSegmentation = none)
    (hskip : header.probSkipFalse = none) {tables : ProbabilityTables}
    {columns rows : Nat} {decoder last : BoolDecoder} (hspent : decoder.Spent)
    {read written : List InterFrameMacroblock}
    (hrun : (parseMacroblocks header tables false columns rows
      (Grid.places columns rows) []).run boolDecoder decoder = .ok (read, last))
    (hbare : written.map Macroblock.bare = read.map Macroblock.bare)
    {symbols : List (Probability × Bool)}
    (hsymbols : serializeHeaders header tables columns rows written =
      .ok symbols) :
    symbols.length = columns * rows * 3 := by
  obtain ⟨all, hall, hlength, hplain⟩ := parseMacroblocks_plain hsegmentation
    hskip tables columns rows (Grid.places columns rows) []
    (fun _ hmb => absurd hmb List.not_mem_nil)
  obtain ⟨rest, hread, -⟩ := hall decoder hspent
  rw [hrun] at hread
  cases hread
  obtain ⟨plain, hwritten, hcount⟩ :=
    serializeHeaders_plain header tables columns rows hplain
  rw [← serializeHeaders_bare ignoresTokens_inter, hbare,
    serializeHeaders_bare ignoresTokens_inter, hwritten] at hsymbols
  cases hsymbols
  rw [hcount, hlength, List.length_nil, Nat.zero_add, Grid.places_eq_map,
    List.length_map, List.length_range]

theorem exists_fitting (hwidth : 0 < width) (hheight : 0 < height)
    (hsmall : macroblockDimension width * macroblockDimension height ≤
      2 ^ 16) :
    ∃ (frame : InterFrame) (after : DecoderState width height),
      ({} : DecoderState width height).parseAndApplyInter plainChunk =
          .ok (frame, after) ∧
        frame.FitsFields (after.probabilityTables.update frame.header) := by
  obtain ⟨header, firstPartition, front, hheader, hspent, hsegmentation, hskip,
    hlog2, hfront, hshort⟩ := exists_plainHeader
  have hget (decoder : BoolDecoder) (probability : Probability)
      (h : decoder.Spent) : (boolDecoder.get decoder probability).2.Spent :=
    (h.get probability).2
  have hone : 2 ^ (HeaderType.log2NumberOfDctPartitions header).toNat = 1 := by
    change 2 ^ header.log2NumberOfDctPartitions.toNat = 1
    rw [hlog2]
    rfl
  have hanswers : InterFrameMacroblock.Unconcealed false fun _ => True :=
    fun _ _ => rfl
  obtain ⟨frame, after, hframe, -⟩ := parseFrame_ok (parsesAll_inter hanswers)
    hget (fun _ _ => trivial) plainChunk
    (({} : DecoderState width height).interFrameState header) header
    (({} : ProbabilityTables).update header) hspent (by
      rw [hone]
      decide)
  have hparse : ({} : DecoderState width height).parseAndApplyInter
      plainChunk = .ok (frame, after) :=
    parseAndApplyInter_eq_ok_iff.mpr ⟨rfl, header, firstPartition,
      parseHeader_eq_ok_iff.mpr ⟨hwidth, hheight, hheader⟩, hframe⟩
  refine ⟨frame, after, hparse, fun first dctPartitions hfirst htokens => ?_⟩
  obtain ⟨macroblocks, last, symbols, share, hrun, hbare, hsymbols, hshares,
    -⟩ := parseFrame_rereads (writesBack_inter hanswers) keepsPlace_inter
      ignoresTokens_inter hget (fun _ _ => trivial) hspent hframe
  obtain ⟨rfl, -, hsameWidth, hsameHeight, htables⟩ := parseFrame_fields hframe
  rw [htables, interFrameState_tables] at hfirst htokens
  constructor
  · have hcount := serializeHeaders_spent hsegmentation hskip hspent hrun hbare
      hsymbols
    rw [Frame.serializeFirstPartition_eq hfront hsymbols] at hfirst
    cases hfirst
    have hbound := finished_length (front ++ symbols)
    rw [List.length_append, hcount, Frame.macroblockWidth,
      Frame.macroblockHeight, hsameWidth, hsameHeight] at hbound
    omega
  · -- the only partition of tokens has no length field
    rw [hshares] at htokens
    cases htokens
    intro partition hpartition
    have hlength := List.length_pos_of_mem hpartition
    rw [List.length_dropLast, finishedShares_length, Frame.dctPartitionCount,
      hone] at hlength
    exact absurd hlength (Nat.lt_irrefl 0)

/-- A frame that the decoder has parsed is serialized, with the tables that the
decoder is left with, to bytes that give the same frame and the same state. -/
theorem serialize_parse (hwidth : width ≤ 16383) (hheight : height ≤ 16383) :
    (∀ (chunk : UncompressedChunk) (frame : KeyFrame)
        (after : DecoderState width height),
      parseAndApplyKey chunk = .ok (frame, after) →
      frame.FitsFields (after.probabilityTables.coeffProbUpdate
        frame.header.tokenProbUpdate) →
      RoundTrips width height (frame.serialize after.probabilityTables)
        parseAndApplyKey (frame, after)) ∧
    ∀ (state : DecoderState width height) (chunk : UncompressedChunk)
        (frame : InterFrame) (after : DecoderState width height),
      state.parseAndApplyInter chunk = .ok (frame, after) →
      frame.FitsFields (after.probabilityTables.update frame.header) →
      RoundTrips width height (frame.serialize after.probabilityTables)
        state.parseAndApplyInter (frame, after) :=
  ⟨fun _ _ _ h hfits => parseAndApplyKey_roundTrips hwidth hheight h hfits,
    fun _ _ _ _ h hfits => parseAndApplyInter_roundTrips hwidth hheight h hfits⟩

/-- A frame with segments, vectors, coefficients and two partitions. -/
theorem serialize_parse_segmented : ∃ (chunk : UncompressedChunk)
      (frame : InterFrame) (after : DecoderState 16 32),
    UncompressedChunk.parse segmentedInterFrame 16 32 false = .ok chunk ∧
      segmentedState.parseAndApplyInter chunk = .ok (frame, after) ∧
      frame.dctPartitionCount = 2 ∧
      frame.macroblocks.map (fun mb =>
        ((mb.Y 0 0).motionVector, mb.Y2.coefficients 0)) =
          [({ y := 4, x := -6 }, 3), ({ y := 4, x := -6 }, -5)] ∧
      RoundTrips 16 32 (frame.serialize after.probabilityTables)
        segmentedState.parseAndApplyInter (frame, after) := by
  have hread : Fallible.check (fun result =>
      decide (result.1.dctPartitionCount = 2) &&
        (decide (result.1.macroblocks.map (fun mb =>
            ((mb.Y 0 0).motionVector, mb.Y2.coefficients 0)) =
              [({ y := 4, x := -6 }, 3), ({ y := 4, x := -6 }, -5)]) &&
          (Fallible.check (fun first => decide (first.length < 2 ^ 19))
            (Frame.serializeFirstPartition result.1
              (result.2.probabilityTables.update result.1.header)) &&
          Fallible.check (fun partitions => partitions.all fun partition =>
              decide (partition.length < 2 ^ 24))
            (Frame.serializeTokens result.1
              (result.2.probabilityTables.update result.1.header)))))
      (segmentedState.parseInter segmentedInterFrame) = true := by
    decide +kernel
  obtain ⟨⟨frame, after⟩, hparse, htest⟩ := Fallible.exists_of_check hread
  rw [Bool.and_eq_true, Bool.and_eq_true, Bool.and_eq_true, decide_eq_true_iff,
    decide_eq_true_iff] at htest
  obtain ⟨hcount, hcontent, hfirst, htokens⟩ := htest
  obtain ⟨chunk, hchunk, happly⟩ := bind_eq_ok hparse
  obtain ⟨first, hfirstIs, hshort⟩ := Fallible.exists_of_check hfirst
  obtain ⟨partitions, hpartitions, hall⟩ := Fallible.exists_of_check htokens
  have hfits : frame.FitsFields
      (after.probabilityTables.update frame.header) := by
    intro other others hother hothers
    obtain rfl := Except.ok.inj (hfirstIs.symm.trans hother)
    obtain rfl := Except.ok.inj (hpartitions.symm.trans hothers)
    refine ⟨of_decide_eq_true hshort, fun partition hpartition => ?_⟩
    exact of_decide_eq_true (List.all_eq_true.mp hall partition
      (List.dropLast_subset _ hpartition))
  exact ⟨chunk, frame, after, hchunk, happly, hcount, hcontent,
    (serialize_parse (by decide) (by decide)).2 segmentedState chunk frame after
      happly hfits⟩

/-- Inter frames are parsed at widths that frames are not made for. -/
theorem serialize_parse_tooWide : ∃ (frame : InterFrame)
      (after : DecoderState 16384 16),
    UncompressedChunk.parse [0x11, 0, 0, 0] 16384 16 false = .ok plainChunk ∧
      ({} : DecoderState 16384 16).parseAndApplyInter plainChunk =
        .ok (frame, after) ∧
      frame.FitsFields (after.probabilityTables.update frame.header) ∧
      ¬ RoundTrips 16384 16 (frame.serialize after.probabilityTables)
        ({} : DecoderState 16384 16).parseAndApplyInter (frame, after) := by
  obtain ⟨frame, after, h, hfits⟩ := @exists_fitting 16384 16 (by decide)
    (by decide) (by decide)
  refine ⟨frame, after, rfl, h, hfits, ?_⟩
  rintro ⟨bytes, hbytes, -⟩
  obtain ⟨-, header, firstPartition, -, hparse⟩ :=
    parseAndApplyInter_eq_ok_iff.mp h
  obtain ⟨-, -, hwidth, -⟩ := parseFrame_fields hparse
  -- the dimensions are checked after both serializations
  obtain ⟨first, -, hbytes⟩ := bind_eq_ok hbytes
  obtain ⟨dctPartitions, -, hbytes⟩ := bind_eq_ok hbytes
  obtain ⟨_, hsize, -⟩ := bind_eq_ok hbytes
  have hsmall := of_decide_eq_true (Net.require_eq_ok.mp hsize)
  rw [hwidth] at hsmall
  exact absurd hsmall.1 (by decide)

end DecoderState

end Salsify.Codec
