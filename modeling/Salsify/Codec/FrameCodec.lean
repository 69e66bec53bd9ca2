import Salsify.Codec.FrameContainer
import Salsify.Codec.MacroblockCodec
import Salsify.Coder.RoundTrip

namespace Salsify.Codec

open Salsify.Coder (Probability BoolDecoder)
open Salsify.Net (Chunk Failure)
open BitParser (Yields Consumes consumes_pure)
open BitWriter (concat)
open Fallible (bind_eq_ok ok_bind)

/-! Frames, as `serialize` of `encoder/serializer.cc` writes them. -/

def finish (symbols : List (Probability × Bool)) : Except Failure Chunk :=
  match Coder.encode symbols with
  | some bytes => .ok bytes
  | none => .error (.undefinedBehaviour "add_one_to_output")

theorem delivers_get (decoder : BoolDecoder) (probability : Probability)
    (bit : Bool) (rest : List (Probability × Bool))
    (h : decoder.Delivers ((probability, bit) :: rest)) :
    (boolDecoder.get decoder probability).1 = bit ∧
      (boolDecoder.get decoder probability).2.Delivers rest :=
  h.get

/-- The neighbours that the tokens of a macroblock depend on, of which the ones
in `before` are there. -/
def tokenContextAt {Header : Type} (width height : Nat)
    (before : List (Macroblock Header)) (place : Nat × Nat) (links : Y2Links) :
    TokenContext Header :=
  let context := contextAt width height before place
  let y2Of (link : Option Nat) : Option Y2Block :=
    (link.bind fun other => before[other]?).map Macroblock.Y2
  { above := context.above
    left := context.left
    y2Above := y2Of links.above
    y2Left := y2Of links.left }

def serializeMacroblockTokens {Header : Type} (tables : ProbabilityTables)
    (width height : Nat) (all : List (Macroblock Header)) :
    List (Macroblock Header × Y2Links) → List (List (Probability × Bool)) →
    Except Failure (List (List (Probability × Bool)))
  | [], partitions => .ok partitions
  | (mb, links) :: rest, partitions =>
      let index := mb.row % partitions.length
      match partitions[index]? with
      | none => .error (.outOfRange "vector::_M_range_check")
      | some written => do
          let symbols ← mb.serializeTokens tables
            (tokenContextAt width height all mb.place links)
          serializeMacroblockTokens tables width height all rest
            (partitions.set index (written ++ symbols))

namespace Frame

variable {FrameHeader MacroblockHeader : Type}
variable [HeaderType FrameHeader MacroblockHeader]

def macroblockWidth (frame : Frame FrameHeader MacroblockHeader) : Nat :=
  macroblockDimension frame.displayWidth

def macroblockHeight (frame : Frame FrameHeader MacroblockHeader) : Nat :=
  macroblockDimension frame.displayHeight

def serializeFirstPartition [HeaderWriter FrameHeader MacroblockHeader]
    (frame : Frame FrameHeader MacroblockHeader) (tables : ProbabilityTables) :
    Except Failure Chunk := do
  let symbols ← BitWriter.append (HeaderWriter.encodeHeader frame.header)
    (concat (frame.macroblocks.map fun mb => mb.serialize frame.header
      (calculateMbSegmentTreeProbs (HeaderType.updateSegmentation frame.header))
      tables (contextAt frame.macroblockWidth frame.macroblockHeight
        frame.macroblocks mb.place)))
  finish symbols

def dctPartitionCount (frame : Frame FrameHeader MacroblockHeader) : Nat :=
  2 ^ (HeaderType.log2NumberOfDctPartitions frame.header).toNat

def serializeTokens (frame : Frame FrameHeader MacroblockHeader)
    (tables : ProbabilityTables) : Except Failure (List Chunk) := do
  let partitions ← serializeMacroblockTokens tables frame.macroblockWidth
    frame.macroblockHeight frame.macroblocks
    (frame.macroblocks.zip frame.y2Links)
    (List.replicate frame.dctPartitionCount [])
  partitions.mapM finish

end Frame

def KeyFrame.serialize (frame : KeyFrame) (tables : ProbabilityTables) :
    Except Failure Chunk := do
  let frameTables := tables.coeffProbUpdate frame.header.tokenProbUpdate
  let firstPartition ← frame.serializeFirstPartition frameTables
  let dctPartitions ← frame.serializeTokens frameTables
  makeFrame true frame.showFrame false false frame.displayWidth
    frame.displayHeight firstPartition dctPartitions

def InterFrame.serialize (frame : InterFrame) (tables : ProbabilityTables) :
    Except Failure Chunk := do
  let frameTables := tables.update frame.header
  let firstPartition ← frame.serializeFirstPartition frameTables
  let dctPartitions ← frame.serializeTokens frameTables
  makeFrame false frame.showFrame false false frame.displayWidth
    frame.displayHeight firstPartition dctPartitions

def Context.map {α β : Type} (f : α → β) (context : Context α) : Context β where
  column := context.column
  row := context.row
  width := context.width
  height := context.height
  left := context.left.map f
  aboveLeft := context.aboveLeft.map f
  above := context.above.map f

theorem contextAt_append {α : Type} {width height : Nat} (before new : List α)
    {place : Nat × Nat}
    (hplace : (Grid.places width height)[before.length]? = some place) :
    contextAt width height (before ++ new) place =
      contextAt width height before place := by
  have hwidth : 0 < width := by
    have hmem := List.mem_of_getElem? hplace
    exact Nat.zero_lt_of_lt (Grid.mem_places.mp hmem).1
  obtain rfl := Grid.getElem?_places hplace
  have hlength := Nat.div_add_mod' before.length width
  have hread {column row : Nat} (h : row * width + column < before.length) :
      (if column < width ∧ row < height then
        (before ++ new)[row * width + column]? else none) =
      if column < width ∧ row < height then
        before[row * width + column]? else none := by
    rw [List.getElem?_append_left h]
  have hleft (hcolumn : ¬ before.length % width = 0) :
      before.length / width * width + (before.length % width - 1) <
        before.length := by
    omega
  have habove (hrow : ¬ before.length / width = 0) :
      (before.length / width - 1) * width + before.length % width <
        before.length := by
    have hle := Nat.le_mul_of_pos_left width (Nat.pos_of_ne_zero hrow)
    rw [Nat.sub_mul, Nat.one_mul]
    omega
  simp only [contextAt]
  congr 1
  · split
    · rfl
    · next hcolumn => exact hread (hleft hcolumn)
  · split
    · rfl
    · next hne =>
        rw [not_or] at hne
        have hlt := habove hne.2
        exact hread (by omega)
  · split
    · rfl
    · next hrow => exact hread (habove hrow)

theorem contextAt_map {α β : Type} (f : α → β) (width height : Nat)
    (before : List α) (place : Nat × Nat) :
    contextAt width height (before.map f) place =
      (contextAt width height before place).map f := by
  have hread (column row : Nat) :
      (if column < width ∧ row < height then
        (before.map f)[row * width + column]? else none) =
      (if column < width ∧ row < height then
        before[row * width + column]? else none).map f := by
    split
    · exact List.getElem?_map
    · rfl
  simp only [contextAt, Context.map, hread]
  congr 1
  · split <;> rfl
  · split <;> rfl
  · split <;> rfl

theorem aboveOf_bare {Mode : Type} {size : Nat} [NeZero size]
    (above : Option (Square (Block Mode) size))
    (square : Square (Block Mode) size) (column row : Fin size) :
    Square.aboveOf (above.map bareSquare) (bareSquare square) column row =
      (Square.aboveOf above square column row).map Block.bare := by
  unfold Square.aboveOf
  split
  · cases above <;> rfl
  · rfl

theorem leftOf_bare {Mode : Type} {size : Nat} [NeZero size]
    (left : Option (Square (Block Mode) size))
    (square : Square (Block Mode) size) (column row : Fin size) :
    Square.leftOf (left.map bareSquare) (bareSquare square) column row =
      (Square.leftOf left square column row).map Block.bare := by
  unfold Square.leftOf
  split
  · cases left <;> rfl
  · rfl

theorem map_bare_Y {Header : Type} (other : Option (Macroblock Header)) :
    (other.map Macroblock.bare).map Macroblock.Y =
      (other.map Macroblock.Y).map bareSquare := by
  cases other <;> rfl

/-- The modes are written without regard to the tokens of the macroblock and of
its neighbours. -/
def IgnoresTokens (FrameHeader : Type) {MacroblockHeader : Type}
    [HeaderWriter FrameHeader MacroblockHeader] : Prop :=
  ∀ tables (context : Context (Macroblock MacroblockHeader)) mb,
    HeaderWriter.encodePredictionModes FrameHeader tables
        (context.map Macroblock.bare) mb.bare =
      HeaderWriter.encodePredictionModes FrameHeader tables context mb

theorem encodeSubblockModes_bare {mode : MbMode}
    {probs bareProbs : Square YBlock 4 → Fin 4 → Fin 4 →
      Except Failure (List Probability)} {Y : Square YBlock 4}
    (h : ∀ column row, bareProbs (bareSquare Y) column row =
      probs Y column row) (places : List (Fin 4 × Fin 4)) :
    encodeSubblockModes mode bareProbs places (bareSquare Y) =
      encodeSubblockModes mode probs places Y := by
  unfold encodeSubblockModes encodeSubblockMode
  simp only [h]
  rfl

theorem ignoresTokens_key : IgnoresTokens KeyFrameHeader := by
  intro tables context mb
  have hprobs (column row : Fin 4) :
      KeyFrameMacroblock.bModeProbsOf (context.map Macroblock.bare)
          (bareSquare mb.Y) column row =
        KeyFrameMacroblock.bModeProbsOf context mb.Y column row := by
    unfold KeyFrameMacroblock.bModeProbsOf
    simp only [Context.map, map_bare_Y, aboveOf_bare, leftOf_bare,
      Option.elim_map]
    rfl
  change concat [_, encodeSubblockModes _ _ _ (bareSquare mb.Y), _] = _
  rw [encodeSubblockModes_bare hprobs]
  rfl

namespace InterFrameMacroblock

theorem add_bare (scorer : Scorer) (score : Nat)
    (other : Option InterFrameMacroblock) :
    scorer.add score (other.map Macroblock.bare) = scorer.add score other := by
  cases other <;> rfl

theorem motionVectorCensus_bare (context : Context InterFrameMacroblock)
    (motionVectorsFlipped : Bool) :
    motionVectorCensus (context.map Macroblock.bare) motionVectorsFlipped =
      motionVectorCensus context motionVectorsFlipped := by
  unfold motionVectorCensus
  simp only [Context.map, add_bare]

theorem writeSubblockInterPrediction_bare
    (context : Context InterFrameMacroblock) (Y : Square YBlock 4)
    (bestMv : MotionVector)
    (motionVectorProbs : SafeArray (SafeArray Probability 19) 2)
    (column row : Fin 4) :
    writeSubblockInterPrediction (context.map Macroblock.bare) (bareSquare Y)
        bestMv motionVectorProbs column row =
      writeSubblockInterPrediction context Y bestMv motionVectorProbs column
        row := by
  unfold writeSubblockInterPrediction
  simp only [Context.map, map_bare_Y, aboveOf_bare, leftOf_bare,
    Option.elim_map]
  rfl

theorem writePartitions_bare (context : Context InterFrameMacroblock)
    (bestMv : MotionVector)
    (motionVectorProbs : SafeArray (SafeArray Probability 19) 2)
    (partitions : List (List (Fin 4 × Fin 4))) (Y : Square YBlock 4) :
    writePartitions (context.map Macroblock.bare) bestMv motionVectorProbs
        partitions (bareSquare Y) =
      writePartitions context bestMv motionVectorProbs partitions Y := by
  refine congrArg concat (List.map_congr_left fun partition _ => ?_)
  cases partition with
  | nil => rfl
  | cons place others =>
      exact writeSubblockInterPrediction_bare context Y bestMv _ _ _

theorem encodeSplit_bare (tables : ProbabilityTables)
    (context : Context InterFrameMacroblock) (bestMv : MotionVector)
    (mb : InterFrameMacroblock) :
    encodeSplit tables (context.map Macroblock.bare) bestMv mb.bare =
      encodeSplit tables context bestMv mb := by
  have hY : mb.bare.Y = bareSquare mb.Y := rfl
  unfold encodeSplit
  simp only [hY, writePartitions_bare]
  rfl

theorem encodeInterModes_bare (tables : ProbabilityTables)
    (context : Context InterFrameMacroblock) (mb : InterFrameMacroblock) :
    encodeInterModes tables (context.map Macroblock.bare) mb.bare =
      encodeInterModes tables context mb := by
  have hvectors (census : Scorer) :
      encodeMotionVectors tables (context.map Macroblock.bare) census mb.bare =
        encodeMotionVectors tables context census mb := by
    unfold encodeMotionVectors
    dsimp only
    rw [encodeSplit_bare]
    rfl
  unfold encodeInterModes
  dsimp only
  rw [motionVectorCensus_bare]
  simp only [hvectors]
  rfl

theorem encodeIntraModes_bare (tables : ProbabilityTables)
    (mb : InterFrameMacroblock) :
    encodeIntraModes tables mb.bare = encodeIntraModes tables mb := by
  have hprobs (column row : Fin 4) :
      (fun _ _ _ => .ok invariantBModeProbs :
        Square YBlock 4 → Fin 4 → Fin 4 → Except Failure (List Probability))
          (bareSquare mb.Y) column row = .ok invariantBModeProbs := rfl
  change concat [_, encodeSubblockModes _ _ _ (bareSquare mb.Y), _] = _
  rw [@encodeSubblockModes_bare _ (fun _ _ _ => .ok invariantBModeProbs)
    (fun _ _ _ => .ok invariantBModeProbs) mb.Y hprobs]
  rfl

end InterFrameMacroblock

theorem ignoresTokens_inter : IgnoresTokens InterFrameHeader := by
  intro tables context mb
  change InterFrameMacroblock.encodePredictionModes _ _ _ =
    InterFrameMacroblock.encodePredictionModes _ _ _
  unfold InterFrameMacroblock.encodePredictionModes
  rw [InterFrameMacroblock.encodeInterModes_bare,
    InterFrameMacroblock.encodeIntraModes_bare]
  rfl

section Headers

variable {FrameHeader MacroblockHeader : Type}
variable [HeaderType FrameHeader MacroblockHeader]
variable [HeaderWriter FrameHeader MacroblockHeader]

def serializeHeaders (header : FrameHeader) (tables : ProbabilityTables)
    (width height : Nat) (all : List (Macroblock MacroblockHeader)) :
    SymbolWriter :=
  concat (all.map fun mb => mb.serialize header
    (calculateMbSegmentTreeProbs (HeaderType.updateSegmentation header)) tables
    (contextAt width height all mb.place))

theorem Macroblock.serialize_bare (h : IgnoresTokens FrameHeader)
    (header : FrameHeader) (mbSegmentTreeProbs : List Probability)
    (tables : ProbabilityTables)
    (context : Context (Macroblock MacroblockHeader))
    (mb : Macroblock MacroblockHeader) :
    mb.bare.serialize header mbSegmentTreeProbs tables (context.map bare) =
      mb.serialize header mbSegmentTreeProbs tables context := by
  unfold Macroblock.serialize
  rw [h]
  rfl

theorem serializeHeaders_bare (h : IgnoresTokens FrameHeader)
    (header : FrameHeader) (tables : ProbabilityTables) (width height : Nat)
    (all : List (Macroblock MacroblockHeader)) :
    serializeHeaders header tables width height (all.map Macroblock.bare) =
      serializeHeaders header tables width height all := by
  unfold serializeHeaders
  rw [List.map_map]
  refine congrArg concat (List.map_congr_left fun mb _ => ?_)
  have hmb := mb.serialize_bare h header (calculateMbSegmentTreeProbs
    (HeaderType.updateSegmentation header)) tables
    (contextAt width height all mb.place)
  rw [← contextAt_map] at hmb
  exact hmb

theorem parseMacroblocks_echoes {errorConcealment : Bool}
    {Answers : Bool → Prop}
    (hwrites : WritesBack FrameHeader errorConcealment Answers)
    (hkeeps : KeepsPlace FrameHeader) (header : FrameHeader)
    (tables : ProbabilityTables) (width height : Nat) :
    (places : List (Nat × Nat)) →
    (before : List (Macroblock MacroblockHeader)) →
    (Grid.places width height).drop before.length = places →
    (parseMacroblocks header tables errorConcealment width height places
      before).Yields Answers fun all => ∃ new symbols, all = before ++ new ∧
        (∀ mb ∈ new, mb.Clear) ∧
        concat (new.map fun mb => mb.serialize header
            (calculateMbSegmentTreeProbs (HeaderType.updateSegmentation header))
            tables (contextAt width height all mb.place)) = .ok symbols ∧
        (parseMacroblocks header tables false width height places
          before).Consumes symbols all
  | [], before, _ => ⟨[], [], (List.append_nil before).symm,
      fun _ h => absurd h List.not_mem_nil, rfl, rfl, rfl⟩
  | place :: rest, before, hplaces => by
      have hplace : (Grid.places width height)[before.length]? = some place := by
        rw [← List.head?_drop, hplaces]
        rfl
      have hrest : (Grid.places width height).drop (before.length + 1) =
          rest := by
        rw [← List.drop_drop, hplaces]
        rfl
      rw [parseMacroblocks]
      apply Yields.bind (Yields.and (Macroblock.parse_echoes hwrites header _
        tables (contextAt width height before place))
        (Macroblock.parse_place hkeeps header _ tables errorConcealment _).yields)
      rintro mb ⟨⟨hclear, front, hfront, hreads⟩, hmb⟩
      have hmb : mb.place = place := hmb
      refine Yields.mono (parseMacroblocks_echoes hwrites hkeeps header tables
        width height rest (before ++ [mb]) (by
          rw [List.length_append]
          exact hrest)) ?_
      rintro all ⟨new, symbols, rfl, hall, hsymbols, hconsumes⟩
      have hlist : before ++ [mb] ++ new = before ++ mb :: new := by
        rw [List.append_assoc]
        rfl
      refine ⟨mb :: new, front ++ symbols, hlist, ?_, ?_, hreads.bind hconsumes⟩
      · intro other hother
        rcases List.mem_cons.mp hother with rfl | hother
        · exact hclear
        · exact hall other hother
      · rw [List.map_cons, BitWriter.concat_cons, hsymbols, hmb, hlist,
          contextAt_append before (mb :: new) hplace, hfront]
        rfl

end Headers

end Salsify.Codec
