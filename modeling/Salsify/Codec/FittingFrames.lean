import Salsify.Codec.FittingMacroblocks
import Salsify.Codec.FrameRoundTrip

namespace Salsify.Codec

open Salsify.Coder (Probability BoolDecoder)
open Salsify.Net (Chunk Failure)
open BitParser (Reaches reaches_pure Consumes)
open Fallible (ok_bind)

/-! Frames that fit what they are sent as. They come back from what is written
for them, whether or not they have been parsed before. -/

/-- Coefficients that can be sent, and a flag that says whether there are
any. -/
structure Block.TokensFit {Mode : Type} (block : Block Mode) : Prop where
  bound : ∀ place, (block.coefficients place).natAbs ≤ 2114
  first : block.type = .yAfterY2 → block.coefficients 0 = 0
  hasNonzero : block.hasNonzero =
    decide (∃ place, block.coefficients place ≠ 0)

namespace Block

variable {Mode : Type} {block : Block Mode}

theorem TokensFit.calculated (h : block.TokensFit) :
    block.calculateHasNonzero = block := by
  rw [calculateHasNonzero, ← h.hasNonzero]

theorem TokensFit.reaches (h : block.TokensFit) (tables : ProbabilityTables)
    (above left : Bool) :
    (block.bare.parseTokens tables above left).Reaches block := by
  have hreaches := parseTokens_reaches tables above left h.bound h.first
  rwa [h.calculated] at hreaches

theorem tokensFit_of_zero (hzero : block.coefficients = fun _ => 0)
    (hflag : block.hasNonzero = false) : block.TokensFit where
  bound place := by
    rw [hzero]
    exact Nat.zero_le _
  first _ := by rw [hzero]
  hasNonzero := by
    rw [hflag, hzero]
    exact (decide_eq_false fun ⟨_, hne⟩ => hne rfl).symm

theorem TokensFit.bare_of_zero (h : block.TokensFit)
    (hzero : block.hasNonzero = false) : block.bare = block := by
  have hnone := of_decide_eq_false (h.hasNonzero.symm.trans hzero)
  have hcoefficients : block.coefficients = fun _ => 0 := by
    funext place
    by_contra hne
    exact hnone ⟨place, hne⟩
  obtain ⟨coefficients, type, mode, coded, hasNonzero, mv⟩ := block
  obtain rfl : coefficients = _ := hcoefficients
  obtain rfl : hasNonzero = false := hzero
  rfl

end Block

def SquareFits {Mode : Type} {size : Nat} (square : Square (Block Mode) size) :
    Prop :=
  ∀ column row, (square column row).TokensFit

/-- A square of which the blocks at `places` have not been read yet. -/
def Square.unread {Mode : Type} {size : Nat} (square : Square (Block Mode) size)
    (places : List (Fin size × Fin size)) : Square (Block Mode) size :=
  fun column row =>
    if (column, row) ∈ places then (square column row).bare
    else square column row

theorem Square.unread_set {Mode : Type} {size : Nat}
    (square : Square (Block Mode) size) {column row : Fin size}
    {rest : List (Fin size × Fin size)} (hfresh : (column, row) ∉ rest) :
    (square.unread ((column, row) :: rest)).set column row
        (square column row) = square.unread rest := by
  funext i j
  unfold Square.set Square.unread
  by_cases hplace : i = column ∧ j = row
  · obtain ⟨rfl, rfl⟩ := hplace
    rw [if_pos ⟨rfl, rfl⟩, if_neg hfresh]
  · have hne : (i, j) ≠ (column, row) := fun hsame =>
      hplace (Prod.mk.inj hsame)
    rw [if_neg hplace]
    refine if_congr ?_ rfl rfl
    rw [List.mem_cons, or_iff_right hne]

theorem parseSquareTokens_reaches {Mode : Type} {size : Nat} [NeZero size]
    {square : Square (Block Mode) size} (h : SquareFits square)
    (tables : ProbabilityTables) (above left : Option (Square (Block Mode) size)) :
    (places : List (Fin size × Fin size)) → places.Nodup →
    (parseSquareTokens tables above left places
      (square.unread places)).Reaches square
  | [], _ => by
      have hsame : square.unread [] = square := by
        funext column row
        exact if_neg List.not_mem_nil
      rw [hsame]
      exact reaches_pure square
  | (column, row) :: rest, hplaces => by
      obtain ⟨hfresh, hrest⟩ := List.nodup_cons.mp hplaces
      have hblock : square.unread ((column, row) :: rest) column row =
          (square column row).bare := if_pos List.mem_cons_self
      rw [parseSquareTokens, hblock]
      refine ((h column row).reaches tables _ _).bind ?_
      rw [square.unread_set hfresh]
      exact parseSquareTokens_reaches h tables above left rest hrest

theorem Square.unread_all {Mode : Type} {size : Nat}
    (square : Square (Block Mode) size) {places : List (Fin size × Fin size)}
    (h : ∀ column row, (column, row) ∈ places) :
    square.unread places = bareSquare square := by
  funext column row
  exact if_pos (h column row)

namespace Macroblock

variable {Header : Type}

def unparsed (mb : Macroblock Header) : Macroblock Header :=
  { mb.bare with segmentId := mb.segmentId }

/-- Coefficients that can be sent, where they are sent, and flags that say
whether there are any. -/
structure TokensFit (mb : Macroblock Header) : Prop where
  Y2 : mb.Y2.TokensFit
  uncoded : mb.Y2.coded = false → mb.Y2.hasNonzero = false
  Y : SquareFits mb.Y
  U : SquareFits mb.U
  V : SquareFits mb.V
  hasNonzero : mb.hasNonzero = (mb.Y2.hasNonzero || anyNonzero mb.Y ||
    anyNonzero mb.U || anyNonzero mb.V)
  skipped : mb.mbSkipCoeff.getD false = true → mb.hasNonzero = false

theorem bareSquare_of_anyNonzero {Mode : Type} {size : Nat}
    {square : Square (Block Mode) size} (h : SquareFits square)
    (hnone : anyNonzero square = false) : bareSquare square = square := by
  funext column row
  refine (h column row).bare_of_zero (Bool.eq_false_iff.mpr fun hnonzero => ?_)
  exact of_decide_eq_false hnone ⟨column, row, hnonzero⟩

theorem TokensFit.unparsed_of_skipped {mb : Macroblock Header}
    (h : mb.TokensFit) (hskip : mb.mbSkipCoeff.getD false = true) :
    mb.unparsed = mb := by
  have hnone := h.hasNonzero.symm.trans (h.skipped hskip)
  rw [Bool.or_eq_false_iff, Bool.or_eq_false_iff, Bool.or_eq_false_iff] at hnone
  obtain ⟨⟨⟨hY2, hY⟩, hU⟩, hV⟩ := hnone
  have hflag := h.skipped hskip
  obtain ⟨column, row, segmentIdUpdate, segmentId, mbSkipCoeff, header, Y2, Y, U,
    V, hasNonzero⟩ := mb
  obtain rfl : hasNonzero = false := hflag
  unfold unparsed bare
  dsimp only
  rw [h.Y2.bare_of_zero hY2, bareSquare_of_anyNonzero h.Y hY,
    bareSquare_of_anyNonzero h.U hU, bareSquare_of_anyNonzero h.V hV]

theorem TokensFit.reachesY2 {mb : Macroblock Header} (h : mb.TokensFit)
    (tables : ProbabilityTables) (context : TokenContext Header) :
    (parseY2Tokens tables context mb.Y2.bare).Reaches mb.Y2 := by
  unfold parseY2Tokens
  split
  · exact h.Y2.reaches tables _ _
  · next hcoded =>
    rw [h.Y2.bare_of_zero (h.uncoded (Bool.eq_false_iff.mpr hcoded))]
    exact reaches_pure mb.Y2

theorem reachesSquare {Mode : Type} {size : Nat} [NeZero size]
    {square : Square (Block Mode) size} (h : SquareFits square)
    (tables : ProbabilityTables) (above left : Option (Square (Block Mode) size))
    {places : List (Fin size × Fin size)} (hplaces : places.Nodup)
    (hall : ∀ column row, (column, row) ∈ places) :
    (parseSquareTokens tables above left places (bareSquare square)).Reaches
      square := by
  rw [← square.unread_all hall]
  exact parseSquareTokens_reaches h tables above left places hplaces

theorem TokensFit.reaches {mb : Macroblock Header} (h : mb.TokensFit)
    (tables : ProbabilityTables) (context : TokenContext Header) :
    (mb.unparsed.parseTokens tables context).Reaches mb := by
  unfold Macroblock.parseTokens
  split
  · next hskip =>
    rw [h.unparsed_of_skipped hskip]
    exact reaches_pure mb
  · refine (h.reachesY2 tables context).bind
      ((reachesSquare h.Y tables _ _ (by decide) (by decide)).bind
      ((reachesSquare h.U tables _ _ (by decide) (by decide)).bind
      ((reachesSquare h.V tables _ _ (by decide) (by decide)).bind ?_)))
    have hY2 : (mb.Y2.coded && mb.Y2.hasNonzero) = mb.Y2.hasNonzero := by
      cases hcoded : mb.Y2.coded with
      | true => rfl
      | false => rw [h.uncoded hcoded, Bool.and_false]
    have hflag : (mb.unparsed.hasNonzero || (mb.Y2.coded && mb.Y2.hasNonzero) ||
        anyNonzero mb.Y || anyNonzero mb.U || anyNonzero mb.V) =
          mb.hasNonzero := by
      rw [hY2, h.hasNonzero]
      rfl
    rw [hflag]
    exact reaches_pure mb

theorem unparsed_clear (mb : Macroblock Header) : mb.unparsed.Clear where
  Y2 := rfl
  Y _ _ := rfl
  U _ _ := rfl
  V _ _ := rfl

end Macroblock

section Partitions

variable {Header : Type}

theorem Macroblock.TokensFit.echoes {mb : Macroblock Header} (h : mb.TokensFit)
    (tables : ProbabilityTables) (context : TokenContext Header) :
    ∃ symbols, mb.serializeTokens tables context = .ok symbols ∧
      (mb.unparsed.parseTokens tables context).Consumes symbols mb := by
  obtain ⟨-, symbols, hsymbols, hconsumes⟩ := (h.reaches tables
    context).of_yields (Macroblock.parseTokens_echoes tables context
      mb.unparsed_clear)
  exact ⟨symbols, hsymbols, hconsumes⟩

theorem exists_shares (tables : ProbabilityTables) (width height : Nat)
    {count : Nat} (hcount : 0 < count) :
    (new : List (Macroblock Header)) → (links : List Y2Links) →
    {before : List (Macroblock Header)} → links.length = new.length →
    (Grid.places width height).drop before.length =
      new.map Macroblock.place →
    (∀ mb ∈ new, mb.TokensFit) → EarlierLinks before.length links →
    ∃ share, Shares tables width height count
      ((new.map Macroblock.unparsed).zip links) before (before ++ new) new share
  | [], [], before, _, _, _, _ => by
      rw [List.append_nil]
      exact ⟨_, shares_nil tables width height count before⟩
  | mb :: rest, link :: links, before, hlength, hplaces, hfits, hlinks => by
      have hplace : (Grid.places width height)[before.length]? =
          some mb.place := by
        rw [← List.head?_drop, hplaces]
        rfl
      have hbefore : (before ++ [mb]).length = before.length + 1 :=
        List.length_append
      have hrest : (Grid.places width height).drop (before ++ [mb]).length =
          rest.map Macroblock.place := by
        rw [hbefore, ← List.drop_drop, hplaces]
        rfl
      have hlater : EarlierLinks (before ++ [mb]).length links := by
        rw [hbefore]
        exact hlinks.2
      obtain ⟨share, hshare⟩ := exists_shares tables width height hcount rest
        links (Nat.succ.inj hlength) hrest
        (fun other hother => hfits other (List.mem_cons_of_mem _ hother)) hlater
      rw [← List.append_cons] at hshare
      obtain ⟨symbols, hwrites, hreads⟩ := (hfits mb List.mem_cons_self).echoes
        tables (tokenContextAt width height before mb.place link)
      refine ⟨_, hshare.cons hcount rfl ?_ hreads⟩
      rw [tokenContextAt_append before (mb :: rest) hplace hlinks.1]
      exact hwrites

end Partitions

section Frames

variable {FrameHeader MacroblockHeader : Type}
  [HeaderType FrameHeader MacroblockHeader]
  {width height : Nat}

open DecoderState (segmented withWrites tokenItems segmented_view)

/-- A frame that is what its parts are read as, one after another. -/
structure Frame.Fits (frame : Frame FrameHeader MacroblockHeader)
    (tables : ProbabilityTables)
    (segmentation : Option (Segmentation width height)) : Prop where
  displayWidth : frame.displayWidth = width
  displayHeight : frame.displayHeight = height
  header : (HeaderType.parse : Parser FrameHeader).Reaches frame.header
  places : frame.macroblocks.map Macroblock.place =
    Grid.places (macroblockDimension width) (macroblockDimension height)
  modes : ∀ front mb rest, frame.macroblocks = front ++ mb :: rest →
    (Macroblock.parse frame.header (calculateMbSegmentTreeProbs
      (HeaderType.updateSegmentation frame.header)) tables false
        (contextAt (macroblockDimension width) (macroblockDimension height)
          (front.map Macroblock.bare) mb.place)).Reaches mb.bare
  tokens : ∀ mb ∈ frame.macroblocks, mb.TokensFit
  segments : segmented segmentation (frame.macroblocks.map Macroblock.bare) =
    frame.macroblocks.map Macroblock.unparsed
  y2Links : frame.y2Links =
    relinkY2Blocks (macroblockDimension width) frame.macroblocks

namespace Frame.Fits

variable {frame : Frame FrameHeader MacroblockHeader}
  {tables : ProbabilityTables} {segmentation : Option (Segmentation width height)}

theorem bare_links (macroblocks : List (Macroblock MacroblockHeader))
    (columns : Nat) :
    relinkY2Blocks columns (macroblocks.map Macroblock.bare) =
      relinkY2Blocks columns macroblocks := by
  unfold relinkY2Blocks
  rw [List.map_map]
  rfl

theorem bare_places (macroblocks : List (Macroblock MacroblockHeader)) :
    (macroblocks.map Macroblock.bare).map Macroblock.place =
      macroblocks.map Macroblock.place := by
  rw [List.map_map]
  rfl

theorem bare_writes (macroblocks : List (Macroblock MacroblockHeader)) :
    withWrites segmentation (macroblocks.map Macroblock.bare) =
      withWrites segmentation macroblocks := by
  unfold withWrites
  rw [List.map_map]
  rfl

theorem items (h : frame.Fits tables segmentation) :
    tokenItems segmentation (frame.macroblocks.map Macroblock.bare) =
      (frame.macroblocks.map Macroblock.unparsed).zip frame.y2Links := by
  rw [tokenItems, h.segments, bare_links, h.y2Links]

theorem shares (h : frame.Fits tables segmentation) :
    ∃ share, Shares tables (macroblockDimension width)
      (macroblockDimension height) frame.dctPartitionCount
      (tokenItems segmentation (frame.macroblocks.map Macroblock.bare)) []
      frame.macroblocks frame.macroblocks share := by
  have hlength : frame.y2Links.length = frame.macroblocks.length := by
    rw [h.y2Links, relinkY2Blocks, linkY2Blocks_length, List.length_map]
  have hlinks : EarlierLinks 0 frame.y2Links := by
    rw [h.y2Links]
    exact relinkY2Blocks_earlier _ frame.macroblocks
  have hplaces : (Grid.places (macroblockDimension width)
      (macroblockDimension height)).drop ([] : List (Macroblock
        MacroblockHeader)).length = frame.macroblocks.map Macroblock.place :=
    h.places.symm
  rw [h.items]
  exact exists_shares tables _ _ (Nat.two_pow_pos _) frame.macroblocks
    frame.y2Links hlength hplaces h.tokens hlinks

variable [HeaderWriter FrameHeader MacroblockHeader]

theorem serializeHeaders_ok (h : frame.Fits tables segmentation)
    (hwrites : WritesBack FrameHeader false (fun _ => True))
    (hkeeps : KeepsPlace FrameHeader) (hignores : IgnoresTokens FrameHeader) :
    ∃ symbols, serializeHeaders frame.header tables
        (macroblockDimension width) (macroblockDimension height)
        frame.macroblocks = .ok symbols ∧
      (parseMacroblocks frame.header tables false (macroblockDimension width)
        (macroblockDimension height) (Grid.places (macroblockDimension width)
          (macroblockDimension height)) []).Consumes symbols
        (frame.macroblocks.map Macroblock.bare) := by
  have hreaches : (parseMacroblocks frame.header tables false
      (macroblockDimension width) (macroblockDimension height)
      ((frame.macroblocks.map Macroblock.bare).map Macroblock.place)
      []).Reaches ([] ++ frame.macroblocks.map Macroblock.bare) := by
    refine parseMacroblocks_reaches fun front mb rest hsplit => ?_
    obtain ⟨before, after, hall, rfl, hrest⟩ := List.map_eq_append_iff.mp hsplit
    obtain ⟨parsed, after, rfl, rfl, rfl⟩ := List.map_eq_cons_iff.mp hrest
    exact h.modes before parsed after hall
  rw [bare_places, h.places, List.nil_append] at hreaches
  obtain ⟨new, symbols, hnew, -, hsymbols, hreads⟩ := hreaches.of_yields
    (parseMacroblocks_echoes hwrites hkeeps frame.header tables
      (macroblockDimension width) (macroblockDimension height) _ [] rfl)
  rw [List.nil_append] at hnew
  subst hnew
  refine ⟨symbols, ?_, hreads⟩
  rw [← serializeHeaders_bare hignores]
  exact hsymbols

/-- The partitions that the frame is written to, and that it is read from
again. -/
theorem rereads (h : frame.Fits tables segmentation)
    (hwrites : WritesBack FrameHeader false (fun _ => True))
    (hkeeps : KeepsPlace FrameHeader) (hignores : IgnoresTokens FrameHeader)
    (hwidth : 0 < width) (hheight : 0 < height)
    {state : DecoderState width height}
    (hsegmentation : state.segmentation = segmentation) :
    ∃ first dctPartitions, frame.serializeFirstPartition tables = .ok first ∧
      frame.serializeTokens tables = .ok dctPartitions ∧
      (∃ last, dctPartitions.getLast? = some last ∧ last ≠ []) ∧
      ∀ chunk : UncompressedChunk, chunk.showFrame = frame.showFrame →
        chunk.firstPartition = first →
        chunk.dctPartitions dctPartitions.length = .ok dctPartitions →
        ∃ decoder, DecoderState.parseHeader width height chunk =
            .ok (frame.header, decoder) ∧
          DecoderState.parseFrame chunk state frame.header tables false
              decoder =
            .ok (frame, { state with
              segmentation := withWrites segmentation frame.macroblocks }) := by
  obtain ⟨front, hfront, hreadsFront⟩ := h.header.of_yields hwrites.header
  obtain ⟨symbols, hsymbols, hreads⟩ :=
    h.serializeHeaders_ok hwrites hkeeps hignores
  obtain ⟨share, hshare⟩ := h.shares
  have hwidthEq := h.displayWidth
  have hheightEq := h.displayHeight
  subst hwidthEq hheightEq hsegmentation
  refine ⟨finished (front ++ symbols), _, ?_,
    Frame.serializeTokens_eq ?_ hshare,
    finishedShares_last (Nat.two_pow_pos _) share, ?_⟩
  · rw [List.nil_append] at hfront
    exact Frame.serializeFirstPartition_eq hfront hsymbols
  · rw [DecoderState.tokenItems_links, bare_links, ← h.y2Links]
  · intro chunk hshow hfirst hpartitions
    have hdelivers : (DecoderState.firstPartitionDecoder chunk).Delivers
        (front ++ symbols) := by
      rw [DecoderState.firstPartitionDecoder, hfirst]
      exact finished_delivers _ _
    obtain ⟨decoder, hdecoder, hrest⟩ := hreadsFront.run delivers_get hdelivers
    have hwhole : decoder.Delivers (symbols ++ []) := by
      rw [List.append_nil]
      exact hrest
    obtain ⟨last, hlast, -⟩ := hreads.run delivers_get hwhole
    refine ⟨decoder, DecoderState.parseHeader_eq_ok_iff.mpr
      ⟨hwidth, hheight, hdecoder⟩, DecoderState.parseFrame_eq_ok_iff.mpr
      ⟨frame.macroblocks.map Macroblock.bare, last,
        finishedShares frame.dctPartitionCount share, frame.macroblocks, hlast,
        ?_, hshare.reads _ ?_ ?_, ?_, ?_⟩⟩
    · rw [finishedShares_length] at hpartitions
      exact hpartitions
    · rw [List.length_map, finishedShares_length]
    · intro index decoder hdecoder
      rw [List.getElem?_map] at hdecoder
      obtain ⟨partition, hpartition, rfl⟩ := Option.map_eq_some_iff.mp hdecoder
      exact finishedShares_delivers hpartition
    · rw [bare_links, ← h.y2Links, hshow]
    · rw [bare_writes]

end Frame.Fits

end Frames

end Salsify.Codec
