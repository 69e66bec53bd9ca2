import Salsify.Codec.DecoderState
import Salsify.Codec.ModeCodec
import Salsify.Codec.ParserTotality

namespace Salsify.Codec

open Salsify.BitParser (yields_trivial)
open Salsify.Coder (Probability)

/-! The chroma vectors of inter macroblocks, and the range of the luma vectors
they are computed from. -/

/-- The result is an eighth of the sum, rounded to the nearest integer, halves
away from zero. -/
structure RoundsEighth (sum result : Int) : Prop where
  nearest : (8 * result - sum).natAbs ≤ 4
  away : (8 * result - sum).natAbs = 4 → sum.natAbs ≤ (8 * result).natAbs

theorem MotionVector.eighth_iff (sum : Int) :
    RoundsEighth sum (eighth sum) ↔ -32768 ≤ sum ∧ sum ≤ 32767 := by
  obtain ⟨turns, hturns, hlow, hhigh⟩ := int16_wraps sum
  constructor
  · intro h
    have hnearest := h.nearest
    unfold eighth at hnearest
    split at hnearest <;> omega
  · intro h
    have hsame : int16 sum = sum := by omega
    unfold eighth
    rw [hsame]
    split
    · exact ⟨by omega, by omega⟩
    · exact ⟨by omega, by omega⟩

namespace InterFrameMacroblock

def lumaSum (component : MotionVector → Int) (mb : InterFrameMacroblock)
    (column row : Fin 2) : Int :=
  let mv (column row : Fin 4) := (mb.Y column row).motionVector
  let left := firstOfTwo column
  let right := secondOfTwo column
  let top := firstOfTwo row
  let bottom := secondOfTwo row
  component (mv left top) + component (mv right top) +
    component (mv left bottom) + component (mv right bottom)

def ExactChroma (mb : InterFrameMacroblock) : Prop :=
  ∀ column row,
    RoundsEighth (lumaSum MotionVector.y mb column row)
      (mb.U column row).motionVector.y ∧
    RoundsEighth (lumaSum MotionVector.x mb column row)
      (mb.U column row).motionVector.x

def ChromaFromLuma (mb : InterFrameMacroblock) : Prop :=
  ∀ column row, (mb.U column row).motionVector =
    { y := MotionVector.eighth (lumaSum MotionVector.y mb column row)
      x := MotionVector.eighth (lumaSum MotionVector.x mb column row) }

theorem setMotionVectors_chroma (mb : InterFrameMacroblock) :
    ChromaFromLuma (setMotionVectors mb) :=
  fun _ _ => rfl

def FitsInt16 (sum : Int) : Prop := -32768 ≤ sum ∧ sum ≤ 32767

theorem ChromaFromLuma.exact_iff {mb : InterFrameMacroblock}
    (h : ChromaFromLuma mb) :
    ExactChroma mb ↔ ∀ column row,
      FitsInt16 (lumaSum MotionVector.y mb column row) ∧
        FitsInt16 (lumaSum MotionVector.x mb column row) := by
  unfold ExactChroma
  refine forall_congr' fun column => forall_congr' fun row => ?_
  rw [h column row, MotionVector.eighth_iff, MotionVector.eighth_iff]
  rfl

end InterFrameMacroblock

variable {Answers : Bool → Prop}

def MotionVector.Small (mv : MotionVector) : Prop :=
  mv.y.natAbs ≤ 8190 ∧ mv.x.natAbs ≤ 8190

/-- Clamped in a frame of at most 48 macroblocks. -/
def MotionVector.Clamped (mv : MotionVector) : Prop :=
  mv.y.natAbs ≤ 6144 ∧ mv.x.natAbs ≤ 6144

namespace MotionVector

theorem small_zero : Small {} := ⟨Nat.zero_le _, Nat.zero_le _⟩

theorem Clamped.small {mv : MotionVector} (h : mv.Clamped) : mv.Small :=
  ⟨h.1.trans (by decide), h.2.trans (by decide)⟩

theorem readComponent_natAbs (componentProbs : SafeArray Probability 19) :
    (readComponent componentProbs).Yields Answers fun component =>
      component.natAbs ≤ 2046 := by
  apply (readMagnitude_lt componentProbs).bind
  intro magnitude hlt
  split
  · exact Nat.zero_le _
  · intro negative
    change (if negative then -((magnitude : Int) * 2)
      else (magnitude : Int) * 2).natAbs ≤ 2046
    split <;> omega

theorem parse_natAbs
    (motionVectorProbs : SafeArray (SafeArray Probability 19) 2) :
    (MotionVector.parse motionVectorProbs).Yields Answers fun mv =>
      mv.y.natAbs ≤ 2046 ∧ mv.x.natAbs ≤ 2046 := by
  apply (readComponent_natAbs (motionVectorProbs 0)).bind
  intro y hy
  apply (readComponent_natAbs (motionVectorProbs 1)).bind
  intro x hx
  exact ⟨hy, hx⟩

theorem Clamped.small_add {best mv : MotionVector} (h : best.Clamped)
    (hmv : mv.y.natAbs ≤ 2046 ∧ mv.x.natAbs ≤ 2046) : (mv.add best).Small := by
  have hadd {component other : Int} (hcomponent : component.natAbs ≤ 2046)
      (hother : other.natAbs ≤ 6144) :
      (int16 (component + other)).natAbs ≤ 8190 := by
    rw [int16_of_inRange (by omega) (by omega)]
    omega
  exact ⟨hadd hmv.1 h.1, hadd hmv.2 h.2⟩

end MotionVector

open MotionVector (Small Clamped)

structure Context.InSmallFrame {α : Type} (context : Context α) : Prop where
  column : context.column < context.width
  row : context.row < context.height
  width : context.width ≤ 48
  height : context.height ≤ 48

theorem Scorer.clamp_clamped (mv : MotionVector)
    {context : Context InterFrameMacroblock} (h : context.InSmallFrame) :
    (Scorer.clamp mv context).Clamped := by
  obtain ⟨hcolumn, hrow, hwidth, hheight⟩ := h
  unfold Scorer.clamp MotionVector.clamp
  constructor
  · dsimp only
    omega
  · dsimp only
    omega

def SmallSquare (Y : Square YBlock 4) : Prop :=
  ∀ column row, Small (Y column row).motionVector

theorem SmallSquare.set {Y : Square YBlock 4} (h : SmallSquare Y)
    {column row : Fin 4} {block : YBlock} (hblock : Small block.motionVector) :
    SmallSquare (Y.set column row block) := by
  intro i j
  unfold Square.set
  split
  · exact hblock
  · exact h i j

theorem parseSubblockModes_small {mode : MbMode}
    {probs : Square YBlock 4 → Fin 4 → Fin 4 → Parser (List Probability)} :
    (places : List (Fin 4 × Fin 4)) → {Y : Square YBlock 4} → SmallSquare Y →
    (parseSubblockModes mode probs places Y).Ensures SmallSquare
  | [], _, hsmall => hsmall
  | (column, row) :: rest, Y, hsmall => by
      rw [parseSubblockModes]
      split
      · apply BitParser.ensures_bind
        intro probabilities
        apply BitParser.ensures_bind
        intro subblockMode
        exact parseSubblockModes_small rest (hsmall.set (hsmall column row))
      · apply BitParser.ensures_bind
        intro subblockMode
        exact parseSubblockModes_small rest (hsmall.set (hsmall column row))

namespace InterFrameMacroblock

theorem readSubblockInterPrediction_small {leftMv aboveMv bestMv : MotionVector}
    (hleft : leftMv.Small) (habove : aboveMv.Small) (hbest : bestMv.Clamped)
    (motionVectorProbs : SafeArray (SafeArray Probability 19) 2)
    {block : YBlock} (hblock : block.motionVector.Small) :
    (readSubblockInterPrediction leftMv aboveMv bestMv motionVectorProbs
      block).Yields Answers fun read => read.motionVector.Small := by
  apply (yields_trivial _).bind
  intro mode _
  cases mode with
  | left4x4 => exact hleft
  | above4x4 => exact habove
  | zero4x4 => exact hblock
  | new4x4 =>
      apply (MotionVector.parse_natAbs motionVectorProbs).bind
      intro newMv hnewMv
      exact hbest.small_add hnewMv
  | _ => trivial

theorem copySubblock_small {first : YBlock} (hfirst : Small first.motionVector) :
    (others : List (Fin 4 × Fin 4)) → {Y : Square YBlock 4} → SmallSquare Y →
    SmallSquare (copySubblock Y first others)
  | [], _, hsmall => hsmall
  | _ :: rest, _, hsmall =>
      copySubblock_small hfirst rest (hsmall.set hfirst)

/-- The vectors of the macroblocks around are small, as are those of a missing
one. -/
structure SmallContext (context : Context InterFrameMacroblock) : Prop where
  place : context.InSmallFrame
  above : ∀ mb, context.above = some mb → SmallSquare mb.Y
  left : ∀ mb, context.left = some mb → SmallSquare mb.Y

theorem leftMv_small {left : Option InterFrameMacroblock}
    (h : ∀ mb, left = some mb → SmallSquare mb.Y) {Y : Square YBlock 4}
    (hsmall : SmallSquare Y) (column row : Fin 4) :
    Small ((Square.leftOf (left.map Macroblock.Y) Y column row).elim {}
      Block.motionVector) := by
  unfold Square.leftOf
  split
  · cases left with
    | none => exact MotionVector.small_zero
    | some mb => exact h mb rfl _ _
  · exact hsmall _ _

theorem aboveMv_small {above : Option InterFrameMacroblock}
    (h : ∀ mb, above = some mb → SmallSquare mb.Y) {Y : Square YBlock 4}
    (hsmall : SmallSquare Y) (column row : Fin 4) :
    Small ((Square.aboveOf (above.map Macroblock.Y) Y column row).elim {}
      Block.motionVector) := by
  unfold Square.aboveOf
  split
  · cases above with
    | none => exact MotionVector.small_zero
    | some mb => exact h mb rfl _ _
  · exact hsmall _ _

theorem parsePartitions_small {context : Context InterFrameMacroblock}
    (hcontext : SmallContext context) {bestMv : MotionVector}
    (hbest : bestMv.Clamped)
    (motionVectorProbs : SafeArray (SafeArray Probability 19) 2) :
    (partitions : List (List (Fin 4 × Fin 4))) → {Y : Square YBlock 4} →
    SmallSquare Y →
    (parsePartitions context bestMv motionVectorProbs partitions Y).Yields
      Answers SmallSquare
  | [], _, hsmall => hsmall
  | [] :: rest, _, hsmall =>
      parsePartitions_small hcontext hbest motionVectorProbs rest hsmall
  | ((column, row) :: others) :: rest, Y, hsmall => by
      have hblock : Small
          ({ Y column row with type := .yWithoutY2 } : YBlock).motionVector :=
        hsmall column row
      rw [parsePartitions]
      apply (readSubblockInterPrediction_small
        (leftMv_small hcontext.left hsmall column row)
        (aboveMv_small hcontext.above hsmall column row) hbest
        motionVectorProbs hblock).bind
      intro first hfirst
      exact parsePartitions_small hcontext hbest motionVectorProbs rest
        (copySubblock_small hfirst others (hsmall.set hfirst))

theorem decodeMotionVectors_small (tables : ProbabilityTables)
    {context : Context InterFrameMacroblock} (hcontext : SmallContext context)
    (census : Scorer) {mb : InterFrameMacroblock} (hsmall : SmallSquare mb.Y) :
    (decodeMotionVectors tables context census mb).Yields Answers
      fun decoded => SmallSquare decoded.Y := by
  have hclamp (mv : MotionVector) : (Scorer.clamp mv context).Clamped :=
    Scorer.clamp_clamped mv hcontext.place
  unfold decodeMotionVectors
  cases mb.Y2.predictionMode with
  | nearestMv => exact hsmall.set (hclamp _).small
  | nearMv => exact hsmall.set (hclamp _).small
  | zeroMv => exact hsmall.set MotionVector.small_zero
  | newMv =>
      apply (MotionVector.parse_natAbs tables.motionVectorProbs).bind
      intro newMv hnewMv
      exact hsmall.set ((hclamp _).small_add hnewMv)
  | splitMv =>
      apply (yields_trivial _).bind
      intro partitionId _
      apply (yields_trivial _).bind
      intro partitions _
      apply (parsePartitions_small hcontext (hclamp _) _ partitions
        hsmall).bind
      intro Y hY
      exact hY
  | _ => trivial

theorem setMotionVectors_small {mb : InterFrameMacroblock}
    (hsmall : SmallSquare mb.Y) : SmallSquare (setMotionVectors mb).Y := by
  intro column row
  unfold setMotionVectors
  dsimp only
  split
  · exact hsmall column row
  · exact hsmall 3 3

structure SmallVectors (mb : InterFrameMacroblock) : Prop where
  luma : SmallSquare mb.Y
  chroma : interCoded mb = true → ChromaFromLuma mb

theorem decodeModes_small (tables : ProbabilityTables)
    (errorConcealment : Bool) {context : Context InterFrameMacroblock}
    (hcontext : SmallContext context) {mb : InterFrameMacroblock}
    (hsmall : SmallSquare mb.Y) :
    (decodeModes tables errorConcealment context mb).Yields Answers
      SmallVectors := by
  unfold decodeModes
  split
  · apply (yields_trivial _).bind
    intro Y2 _
    apply (decodeMotionVectors_small tables hcontext _
      (show SmallSquare ({ mb with Y2 } : InterFrameMacroblock).Y from
        hsmall)).bind
    intro decoded hdecoded
    exact ⟨setMotionVectors_small hdecoded, fun _ =>
      setMotionVectors_chroma decoded⟩
  · next hintra =>
      apply (yields_trivial _).bind
      intro mode _
      apply (parseSubblockModes_small subblocks hsmall).yields.bind
      intro Y hY
      apply (yields_trivial _).bind
      intro uvMode _
      exact ⟨hY, fun hinter => absurd hinter hintra⟩

theorem parse_small (header : InterFrameHeader)
    (mbSegmentTreeProbs : List Probability) (tables : ProbabilityTables)
    (errorConcealment : Bool) {context : Context InterFrameMacroblock}
    (hcontext : SmallContext context) :
    (Macroblock.parse header mbSegmentTreeProbs tables errorConcealment
      context).Yields Answers SmallVectors := by
  have hzero : SmallSquare fun _ _ =>
      { type := .yAfterY2, predictionMode := .bDcPred } :=
    fun _ _ => MotionVector.small_zero
  apply (yields_trivial _).bind
  intro segmentIdUpdate _
  apply (yields_trivial _).bind
  intro mbSkipCoeff _
  apply (yields_trivial _).bind
  intro mbHeader _ valid _
  dsimp only
  split
  · exact decodeModes_small tables errorConcealment hcontext hzero
  · exact decodeModes_small tables errorConcealment hcontext hzero

theorem parseMacroblocks_small (header : InterFrameHeader)
    (tables : ProbabilityTables) (errorConcealment : Bool) {width height : Nat}
    (hwidth : width ≤ 48) (hheight : height ≤ 48) :
    (places : List (Nat × Nat)) →
    (∀ place ∈ places, place.1 < width ∧ place.2 < height) →
    (before : List InterFrameMacroblock) → (∀ mb ∈ before, SmallVectors mb) →
    (parseMacroblocks header tables errorConcealment width height places
      before).Yields Answers fun macroblocks =>
        ∀ mb ∈ macroblocks, SmallVectors mb
  | [], _, _, hbefore => hbefore
  | place :: rest, hplaces, before, hbefore => by
      obtain ⟨hcolumn, hrow⟩ := hplaces place List.mem_cons_self
      have hcontext : SmallContext (contextAt width height before place) :=
        ⟨⟨hcolumn, hrow, hwidth, hheight⟩,
          fun mb habove => (hbefore mb (contextAt_mem.1 habove)).luma,
          fun mb hleft => (hbefore mb (contextAt_mem.2 hleft)).luma⟩
      apply (parse_small header _ tables errorConcealment hcontext).bind
      intro mb hmb
      apply parseMacroblocks_small header tables errorConcealment hwidth
        hheight rest fun other hother =>
          hplaces other (List.mem_cons_of_mem place hother)
      intro other hother
      rcases List.mem_append.mp hother with hother | hother
      · exact hbefore other hother
      · rw [List.mem_singleton.mp hother]
        exact hmb

theorem SmallVectors.exactChroma {mb : InterFrameMacroblock}
    (h : SmallVectors mb) (hinter : interCoded mb = true) : ExactChroma mb := by
  refine (h.chroma hinter).exact_iff.mpr fun column row => ?_
  unfold FitsInt16 lumaSum
  constructor
  · have h0 := (h.luma (firstOfTwo column) (firstOfTwo row)).1
    have h1 := (h.luma (secondOfTwo column) (firstOfTwo row)).1
    have h2 := (h.luma (firstOfTwo column) (secondOfTwo row)).1
    have h3 := (h.luma (secondOfTwo column) (secondOfTwo row)).1
    dsimp only
    omega
  · have h0 := (h.luma (firstOfTwo column) (firstOfTwo row)).2
    have h1 := (h.luma (secondOfTwo column) (firstOfTwo row)).2
    have h2 := (h.luma (firstOfTwo column) (secondOfTwo row)).2
    have h3 := (h.luma (secondOfTwo column) (secondOfTwo row)).2
    dsimp only
    omega

end InterFrameMacroblock

end Salsify.Codec
