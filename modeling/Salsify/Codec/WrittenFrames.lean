import Salsify.Codec.FrameOutput
import Salsify.Codec.WellFormedFrames
import Salsify.Codec.Y2Neighbours

namespace Salsify.Codec

open Salsify.Coder (Probability)
open Salsify.Net (Chunk Failure)
open BitWriter (concat)
open InterFrameMacroblock (interCoded baseMotionVector motionVectorCensus
  ModeVector)

/-! What is written of a frame. The frames of the encoder are used again for the
next rasters, and what a frame of the other kind of macroblock left in a block
is neither written nor decoded. -/

section Written

variable {Header : Type} (isInter : Header → Bool)

def Macroblock.written (mb : Macroblock Header) : Macroblock Header where
  column := mb.column
  row := mb.row
  segmentIdUpdate := mb.segmentIdUpdate
  segmentId := mb.segmentId
  mbSkipCoeff := mb.mbSkipCoeff
  header := mb.header
  Y2 :=
    { coefficients := if mb.Y2.coded then mb.Y2.coefficients else fun _ => 0
      type := mb.Y2.type
      predictionMode := mb.Y2.predictionMode
      coded := mb.Y2.coded
      hasNonzero := mb.Y2.coded && mb.Y2.hasNonzero }
  Y := fun column row =>
    { coefficients := (mb.Y column row).coefficients
      type := (mb.Y column row).type
      predictionMode :=
        if isInter mb.header then .bDcPred else (mb.Y column row).predictionMode
      hasNonzero := (mb.Y column row).hasNonzero
      motionVector :=
        if isInter mb.header then (mb.Y column row).motionVector else {} }
  U := fun column row =>
    { coefficients := (mb.U column row).coefficients
      type := (mb.U column row).type
      predictionMode :=
        if !isInter mb.header && (column = 0 && row = 0)
        then (mb.U 0 0).predictionMode else .dcPred
      hasNonzero := (mb.U column row).hasNonzero
      motionVector :=
        if isInter mb.header then (mb.U column row).motionVector else {} }
  V := fun column row =>
    { coefficients := (mb.V column row).coefficients
      type := (mb.V column row).type
      predictionMode := .dcPred
      hasNonzero := (mb.V column row).hasNonzero }
  hasNonzero := mb.hasNonzero

variable {isInter}

@[simp] theorem Macroblock.written_place (mb : Macroblock Header) :
    (mb.written isInter).place = mb.place := rfl

section Tokens

variable {Mode : Type} {size : Nat} [NeZero size]
  {square : Macroblock Header → Square (Block Mode) size}

theorem hasNonzeroOf_aboveOf
    (h : ∀ mb column row, (square (mb.written isInter) column row).hasNonzero =
      (square mb column row).hasNonzero)
    (above : Option (Macroblock Header)) (mb : Macroblock Header)
    (column row : Fin size) :
    Block.hasNonzeroOf (Square.aboveOf
        ((above.map (Macroblock.written isInter)).map square)
        (square (mb.written isInter)) column row) =
      Block.hasNonzeroOf (Square.aboveOf (above.map square) (square mb) column
        row) := by
  unfold Square.aboveOf
  split
  · cases above with
    | none => rfl
    | some other => exact h other _ _
  · exact h mb _ _

theorem hasNonzeroOf_leftOf
    (h : ∀ mb column row, (square (mb.written isInter) column row).hasNonzero =
      (square mb column row).hasNonzero)
    (left : Option (Macroblock Header)) (mb : Macroblock Header)
    (column row : Fin size) :
    Block.hasNonzeroOf (Square.leftOf
        ((left.map (Macroblock.written isInter)).map square)
        (square (mb.written isInter)) column row) =
      Block.hasNonzeroOf (Square.leftOf (left.map square) (square mb) column
        row) := by
  unfold Square.leftOf
  split
  · cases left with
    | none => rfl
    | some other => exact h other _ _
  · exact h mb _ _

theorem serializeSquareTokens_written
    (hflags : ∀ mb column row,
      (square (mb.written isInter) column row).hasNonzero =
        (square mb column row).hasNonzero)
    (hblocks : ∀ mb column row tables above left,
      (square (mb.written isInter) column row).serializeTokens tables above
          left =
        (square mb column row).serializeTokens tables above left)
    (tables : ProbabilityTables) (above left : Option (Macroblock Header))
    (places : List (Fin size × Fin size)) (mb : Macroblock Header) :
    serializeSquareTokens tables
        ((above.map (Macroblock.written isInter)).map square)
        ((left.map (Macroblock.written isInter)).map square) places
        (square (mb.written isInter)) =
      serializeSquareTokens tables (above.map square) (left.map square) places
        (square mb) := by
  unfold serializeSquareTokens
  refine congrArg concat (List.map_congr_left fun place _ => ?_)
  rw [hasNonzeroOf_aboveOf hflags, hasNonzeroOf_leftOf hflags, hblocks]

end Tokens

structure WrittenContext (isInter : Header → Bool)
    (context written : TokenContext Header) : Prop where
  above : written.above = context.above.map (Macroblock.written isInter)
  left : written.left = context.left.map (Macroblock.written isInter)
  y2Above : Block.hasNonzeroOf written.y2Above =
    Block.hasNonzeroOf context.y2Above
  y2Left : Block.hasNonzeroOf written.y2Left =
    Block.hasNonzeroOf context.y2Left

theorem Macroblock.serializeTokens_written (tables : ProbabilityTables)
    {context written : TokenContext Header}
    (h : WrittenContext isInter context written) (mb : Macroblock Header) :
    (mb.written isInter).serializeTokens tables written =
      mb.serializeTokens tables context := by
  have hY2 : (if (mb.written isInter).Y2.coded then
        (mb.written isInter).Y2.serializeTokens tables
          (Block.hasNonzeroOf written.y2Above)
          (Block.hasNonzeroOf written.y2Left)
      else .ok []) =
      if mb.Y2.coded then
        mb.Y2.serializeTokens tables (Block.hasNonzeroOf context.y2Above)
          (Block.hasNonzeroOf context.y2Left)
      else .ok [] := by
    rw [h.y2Above, h.y2Left]
    by_cases hcoded : mb.Y2.coded = true
    · have hcoefficients : (mb.written isInter).Y2.coefficients =
          mb.Y2.coefficients := if_pos hcoded
      refine if_congr Iff.rfl ?_ rfl
      unfold Block.serializeTokens Block.codedLength
      rw [hcoefficients]
      rfl
    · rw [if_neg hcoded]
      exact if_neg hcoded
  have hskip : (mb.written isInter).mbSkipCoeff = mb.mbSkipCoeff := rfl
  unfold serializeTokens
  rw [hskip, hY2, h.above, h.left,
    serializeSquareTokens_written (fun _ _ _ => rfl) fun _ _ _ _ _ _ => rfl,
    serializeSquareTokens_written (fun _ _ _ => rfl) fun _ _ _ _ _ _ => rfl,
    serializeSquareTokens_written (fun _ _ _ => rfl) fun _ _ _ _ _ _ => rfl]

def Y2Links.AllCoded (macroblocks : List (Macroblock Header))
    (links : Y2Links) : Prop :=
  ∀ other, links.above = some other ∨ links.left = some other →
    CodedAt macroblocks other

theorem relinkY2Blocks_allCoded (width : Nat)
    (macroblocks : List (Macroblock Header)) :
    ∀ links ∈ relinkY2Blocks width macroblocks, links.AllCoded macroblocks := by
  intro links hlinks
  obtain ⟨index, hindex⟩ := List.mem_iff_getElem?.mp hlinks
  have hlength : ([] : List (Macroblock Header)).length + index <
      ([] ++ macroblocks).length := by
    have hlt := (List.getElem?_eq_some_iff.mp hindex).choose
    rw [relinkY2Blocks, linkY2Blocks_length, List.length_map] at hlt
    rwa [List.length_nil, Nat.zero_add, List.nil_append]
  obtain ⟨found, hfound, habove, hleft⟩ := linkY2Blocks_lastBefore width []
    macroblocks (LastOn.nil _) (LastOn.nil _) hlength
  rw [List.length_nil] at hfound
  have hsame : links = found := Option.some.inj (hindex.symm.trans hfound)
  subst hsame
  rw [List.nil_append] at habove hleft
  rintro other (hother | hother)
  · rw [hother] at habove
    exact habove.2.1.2
  · rw [hother] at hleft
    exact hleft.2.1.2

theorem hasNonzeroOf_written {all : List (Macroblock Header)}
    {link : Option Nat} (h : ∀ other, link = some other → CodedAt all other) :
    Block.hasNonzeroOf ((link.bind fun other =>
        (all.map (Macroblock.written isInter))[other]?).map Macroblock.Y2) =
      Block.hasNonzeroOf ((link.bind fun other => all[other]?).map
        Macroblock.Y2) := by
  cases link with
  | none => rfl
  | some other =>
      obtain ⟨mb, hmb, hcoded⟩ := h other rfl
      have hflag : (mb.written isInter).Y2.hasNonzero = mb.Y2.hasNonzero := by
        change (mb.Y2.coded && mb.Y2.hasNonzero) = mb.Y2.hasNonzero
        rw [hcoded, Bool.true_and]
      dsimp only [Option.bind_some]
      rw [List.getElem?_map, hmb]
      exact hflag

theorem tokenContextAt_written (width height : Nat)
    {all : List (Macroblock Header)} {links : Y2Links}
    (hlinks : links.AllCoded all) (place : Nat × Nat) :
    WrittenContext isInter (tokenContextAt width height all place links)
      (tokenContextAt width height (all.map (Macroblock.written isInter)) place
        links) := by
  have hcontext := contextAt_map (Macroblock.written isInter) width height all
    place
  exact ⟨congrArg Context.above hcontext, congrArg Context.left hcontext,
    hasNonzeroOf_written fun other h => hlinks other (.inl h),
    hasNonzeroOf_written fun other h => hlinks other (.inr h)⟩

theorem serializeMacroblockTokens_written (tables : ProbabilityTables)
    (width height : Nat) {all : List (Macroblock Header)} :
    (macroblocks : List (Macroblock Header)) → (links : List Y2Links) →
    (∀ link ∈ links, link.AllCoded all) →
    (partitions : List (List (Probability × Bool))) →
    serializeMacroblockTokens tables width height
        (all.map (Macroblock.written isInter))
        ((macroblocks.map (Macroblock.written isInter)).zip links) partitions =
      serializeMacroblockTokens tables width height all
        (macroblocks.zip links) partitions
  | [], _, _, _ => rfl
  | _ :: _, [], _, _ => rfl
  | mb :: rest, link :: links, hlinks, partitions => by
      have hrest := serializeMacroblockTokens_written tables width height rest
        links fun other hother => hlinks other (List.mem_cons_of_mem _ hother)
      have hcontext : WrittenContext isInter _ _ := tokenContextAt_written width
        height (hlinks link List.mem_cons_self) mb.place
      have hmb := mb.serializeTokens_written tables hcontext
      rw [List.map_cons, List.zip_cons_cons, List.zip_cons_cons,
        serializeMacroblockTokens, serializeMacroblockTokens]
      dsimp only [Macroblock.written_place]
      rw [hmb]
      simp only [hrest]
      rfl

end Written

abbrev KeyFrameMacroblock.written : KeyFrameMacroblock → KeyFrameMacroblock :=
  Macroblock.written fun _ => false

abbrev InterFrameMacroblock.written :
    InterFrameMacroblock → InterFrameMacroblock :=
  Macroblock.written InterFrameMacroblockHeader.isInterMb

namespace KeyFrameMacroblock

theorem bModeProbsOf_written (context : Context KeyFrameMacroblock)
    (mb : KeyFrameMacroblock) (column row : Fin 4) :
    bModeProbsOf (context.map written) (written mb).Y column row =
      bModeProbsOf context mb.Y column row := by
  have habove : (Square.aboveOf ((context.map written).above.map Macroblock.Y)
        (written mb).Y column row).elim BMode.bDcPred Block.predictionMode =
      (Square.aboveOf (context.above.map Macroblock.Y) mb.Y column row).elim
        .bDcPred Block.predictionMode := by
    unfold Square.aboveOf Context.map
    split
    · cases context.above <;> rfl
    · rfl
  have hleft : (Square.leftOf ((context.map written).left.map Macroblock.Y)
        (written mb).Y column row).elim BMode.bDcPred Block.predictionMode =
      (Square.leftOf (context.left.map Macroblock.Y) mb.Y column row).elim
        .bDcPred Block.predictionMode := by
    unfold Square.leftOf Context.map
    split
    · cases context.left <;> rfl
    · rfl
  unfold bModeProbsOf
  rw [habove, hleft]

theorem encodePredictionModes_written (context : Context KeyFrameMacroblock)
    (mb : KeyFrameMacroblock) :
    encodePredictionModes (context.map written) (written mb) =
      encodePredictionModes context mb := by
  have hmodes : encodeSubblockModes mb.Y2.predictionMode
        (bModeProbsOf (context.map written)) subblocks (written mb).Y =
      encodeSubblockModes mb.Y2.predictionMode (bModeProbsOf context) subblocks
        mb.Y := by
    unfold encodeSubblockModes encodeSubblockMode
    simp only [bModeProbsOf_written]
    rfl
  change concat [_, encodeSubblockModes mb.Y2.predictionMode _ _ _, _] = _
  rw [hmodes]
  rfl

end KeyFrameMacroblock

namespace InterFrameMacroblock

theorem written_motionVector {mb : InterFrameMacroblock}
    (hinter : interCoded mb = true) (column row : Fin 4) :
    ((written mb).Y column row).motionVector =
      (mb.Y column row).motionVector :=
  if_pos hinter

theorem add_written (scorer : Scorer) (score : Nat)
    (other : Option InterFrameMacroblock) :
    scorer.add score (other.map written) = scorer.add score other := by
  cases other with
  | none => rfl
  | some mb =>
      by_cases hinter : interCoded mb = true
      · have hwritten : interCoded (written mb) = true := hinter
        have hmv : baseMotionVector (written mb) = baseMotionVector mb :=
          written_motionVector hinter 3 3
        unfold Scorer.add Option.map
        dsimp only
        rw [if_pos hinter, if_pos hwritten, hmv]
        rfl
      · have hwritten : ¬ interCoded (written mb) = true := hinter
        unfold Scorer.add Option.map
        dsimp only
        rw [if_neg hinter, if_neg hwritten]

theorem motionVectorCensus_written (context : Context InterFrameMacroblock)
    (motionVectorsFlipped : Bool) :
    motionVectorCensus (context.map written) motionVectorsFlipped =
      motionVectorCensus context motionVectorsFlipped := by
  unfold motionVectorCensus
  simp only [Context.map, add_written]

theorem encodeInterModes_written (tables : ProbabilityTables)
    (context : Context InterFrameMacroblock) {mb : InterFrameMacroblock}
    (hinter : interCoded mb = true) (hsplit : mb.Y2.predictionMode ≠ .splitMv) :
    encodeInterModes tables (context.map written) (written mb) =
      encodeInterModes tables context mb := by
  have hvectors (census : Scorer) :
      encodeMotionVectors tables (context.map written) census (written mb) =
        encodeMotionVectors tables context census mb := by
    have hmv : baseMotionVector (written mb) = baseMotionVector mb :=
      written_motionVector hinter 3 3
    have hwritten : (written mb).Y2.predictionMode ≠ .splitMv := hsplit
    unfold encodeMotionVectors
    dsimp only
    rw [hmv, if_neg hsplit, if_neg hwritten]
    rfl
  unfold encodeInterModes
  dsimp only
  rw [motionVectorCensus_written]
  simp only [hvectors]
  rfl

theorem written_predictionMode {mb : InterFrameMacroblock}
    (hintra : ¬ interCoded mb = true) (column row : Fin 4) :
    ((written mb).Y column row).predictionMode =
      (mb.Y column row).predictionMode :=
  if_neg hintra

theorem written_uvMode {mb : InterFrameMacroblock}
    (hintra : ¬ interCoded mb = true) :
    ((written mb).U 0 0).predictionMode = (mb.U 0 0).predictionMode := by
  have hheader : mb.header.isInterMb = false := Bool.eq_false_iff.mpr hintra
  change (if !mb.header.isInterMb && _ then _ else _) = _
  rw [hheader]
  rfl

theorem encodeIntraModes_written (tables : ProbabilityTables)
    {mb : InterFrameMacroblock} (hintra : ¬ interCoded mb = true) :
    encodeIntraModes tables (written mb) = encodeIntraModes tables mb := by
  unfold encodeIntraModes encodeSubblockModes encodeSubblockMode
  simp only [written_predictionMode hintra, written_uvMode hintra]
  rfl

theorem mvPartitions_first {partitions : List (List (Fin 4 × Fin 4))}
    (h : partitions ∈ mvPartitions) :
    ∃ others, (0, 0) :: others ∈ partitions := by
  simp only [mvPartitions, List.mem_cons, List.not_mem_nil, or_false] at h
  rcases h with rfl | rfl | rfl | rfl <;> exact ⟨_, List.mem_cons_self⟩

theorem not_splitFits_written {mb : InterFrameMacroblock}
    (hinter : interCoded mb = true) (context : Context InterFrameMacroblock) :
    ¬ SplitFits context (written mb) := by
  intro h
  obtain ⟨partitionId, partitions, -, hpartitions, hsplits⟩ := h.partitions
  obtain ⟨others, hfirst⟩ :=
    mvPartitions_first (List.mem_of_getElem? hpartitions)
  obtain ⟨hvector, -⟩ := hsplits 0 0 others hfirst
  have hmode : ((written mb).Y 0 0).predictionMode = .bDcPred := if_pos hinter
  rw [hmode] at hvector
  exact hvector

theorem encodePredictionModes_written (tables : ProbabilityTables)
    (context : Context InterFrameMacroblock) {mb : InterFrameMacroblock}
    (h : NotSplit mb) :
    encodePredictionModes tables (context.map written) (written mb) =
      encodePredictionModes tables context mb := by
  unfold encodePredictionModes
  by_cases hinter : interCoded mb = true
  · have hwritten : interCoded (written mb) = true := hinter
    rw [if_pos hinter, if_pos hwritten,
      encodeInterModes_written tables context hinter (h hinter)]
  · have hwritten : ¬ interCoded (written mb) = true := hinter
    rw [if_neg hinter, if_neg hwritten,
      encodeIntraModes_written tables hinter]

end InterFrameMacroblock

section Fitting

variable {Header : Type} {isInter : Header → Bool} {mb : Macroblock Header}

structure Macroblock.Typed (mb : Macroblock Header) : Prop where
  Y2 : mb.Y2.type = .y2
  coded : mb.Y2.coded = decide (mb.Y2.predictionMode ≠ .bPred)
  Y : ∀ column row, (mb.Y column row).type =
    if mb.Y2.predictionMode = .bPred then .yWithoutY2 else .yAfterY2
  U : ∀ column row, (mb.U column row).type = .uv
  V : ∀ column row, (mb.V column row).type = .uv

theorem Macroblock.Typed.setIfCoded (h : mb.Typed)
    (hsplit : mb.Y2.predictionMode ≠ .splitMv) :
    (mb.written isInter).Y2.bare =
      Block.setIfCoded { mb.fresh.Y2 with
        predictionMode := mb.Y2.predictionMode } := by
  have hbare : (mb.written isInter).Y2.bare = { mb.fresh.Y2 with
      predictionMode := mb.Y2.predictionMode
      coded := decide (mb.Y2.predictionMode ≠ .bPred) } := by
    unfold written Block.bare
    dsimp only
    rw [h.Y2, h.coded]
    rfl
  rw [hbare]
  unfold Block.setIfCoded
  by_cases hbPred : mb.Y2.predictionMode = .bPred
  · rw [if_pos (.inl hbPred), decide_eq_false (not_not.mpr hbPred)]
  · rw [if_neg (not_or.mpr ⟨hbPred, hsplit⟩), decide_eq_true hbPred]
    rfl

theorem Macroblock.Typed.intraFits (h : mb.Typed)
    (hintra : isInter mb.header = false)
    (hmode : mb.Y2.predictionMode.isIntra = true)
    (hmodes : SubblockModes mb.Y2.predictionMode mb.subblockModes)
    (huvMode : (mb.U 0 0).predictionMode.isWhole = true) :
    (mb.written isInter).IntraFits := by
  have hsplit : mb.Y2.predictionMode ≠ .splitMv := by
    rintro hsplit
    rw [hsplit] at hmode
    cases hmode
  have hsubblocks : (mb.written isInter).subblockModes = mb.subblockModes := by
    funext column row
    change (if isInter mb.header then _ else _) = _
    rw [hintra]
    rfl
  have huv : ((mb.written isInter).U 0 0).predictionMode =
      (mb.U 0 0).predictionMode := by
    change (if !isInter mb.header && _ then _ else _) = _
    rw [hintra]
    rfl
  refine ⟨hmode, ?_, ?_, ?_⟩
  · rw [hsubblocks]
    exact hmodes
  · rw [huv]
    exact huvMode
  · rw [hsubblocks, huv]
    have hY2 : (mb.written isInter).Y2.bare = _ := h.setIfCoded hsplit
    have hY : bareSquare (mb.written isInter).Y = fun column row =>
        { mb.fresh.Y column row with
          type := if mb.Y2.predictionMode = .bPred then .yWithoutY2
            else (mb.fresh.Y column row).type
          predictionMode := mb.subblockModes column row } := by
      funext column row
      unfold bareSquare written Block.bare
      dsimp only
      rw [hintra, h.Y]
      rfl
    have hU : bareSquare (mb.written isInter).U = mb.fresh.U.set 0 0
        { mb.fresh.U 0 0 with predictionMode := (mb.U 0 0).predictionMode } := by
      funext column row
      unfold bareSquare written Block.bare Square.set
      dsimp only
      rw [hintra, h.U]
      by_cases hplace : column = 0 ∧ row = 0
      · rw [if_pos hplace, hplace.1, hplace.2]
        rfl
      · rw [if_neg hplace]
        have hother : (decide (column = 0) && decide (row = 0)) = false := by
          rw [Bool.eq_false_iff]
          intro hboth
          rw [Bool.and_eq_true, decide_eq_true_iff, decide_eq_true_iff] at hboth
          exact hplace hboth
        rw [hother]
        rfl
    have hV : bareSquare (mb.written isInter).V = mb.fresh.V := by
      funext column row
      unfold bareSquare written Block.bare
      dsimp only
      rw [h.V]
      rfl
    unfold bare withIntraModes
    rw [hY2, hY, hU, hV]
    rfl

end Fitting

structure InterFrameMacroblock.OneVector (mb : InterFrameMacroblock) : Prop where
  Y : ∀ column row, (mb.Y column row).motionVector = baseMotionVector mb
  U : ∀ column row, (mb.U column row).motionVector =
    .lumaToChroma (baseMotionVector mb) (baseMotionVector mb)
      (baseMotionVector mb) (baseMotionVector mb)

theorem InterFrameMacroblock.withInterMode_eq (mb : InterFrameMacroblock)
    {mode : MbMode} (hsplit : mode ≠ .splitMv) (mv : MotionVector) :
    withInterMode mb mode mv = { mb with
      Y2 := { mb.Y2 with predictionMode := mode }
      Y := fun column row => { mb.Y column row with motionVector := mv }
      U := fun column row => { mb.U column row with
        motionVector := .lumaToChroma mv mv mv mv } } := by
  have hbase : baseMotionVector (setBaseMotionVector { mb with
      Y2 := { mb.Y2 with predictionMode := mode } } mv) = mv := rfl
  have hY : (fun column row => { (setBaseMotionVector { mb with
        Y2 := { mb.Y2 with predictionMode := mode } } mv).Y column row with
          motionVector := mv }) =
      fun column row => { mb.Y column row with motionVector := mv } := by
    funext column row
    unfold setBaseMotionVector Square.set
    dsimp only
    split
    · next hplace => rw [hplace.1, hplace.2]
    · rfl
  have hmode : ¬ (setBaseMotionVector { mb with
      Y2 := { mb.Y2 with predictionMode := mode } } mv).Y2.predictionMode =
        .splitMv := hsplit
  unfold withInterMode setMotionVectors
  simp only [if_neg hmode, hbase, hY]
  rfl

theorem Macroblock.Typed.interFits {mb : InterFrameMacroblock} (h : mb.Typed)
    (hinter : interCoded mb = true) (hvectors : mb.OneVector)
    {context : Context InterFrameMacroblock}
    (hvector : ModeVector (motionVectorCensus context
      mb.header.motionVectorsFlipped) context mb.Y2.predictionMode
        (baseMotionVector mb)) :
    InterFrameMacroblock.InterFits context (InterFrameMacroblock.written mb) := by
  obtain ⟨-, hbPred, hsplit⟩ := hvector.cases
  have hbase : baseMotionVector (InterFrameMacroblock.written mb) =
      baseMotionVector mb := InterFrameMacroblock.written_motionVector hinter 3 3
  refine ⟨?_, ?_⟩
  · rw [hbase]
    exact hvector
  · have hY2 : (InterFrameMacroblock.written mb).Y2.bare =
        { mb.fresh.Y2 with predictionMode := mb.Y2.predictionMode } :=
      (h.setIfCoded hsplit).trans (if_neg (not_or.mpr ⟨hbPred, hsplit⟩))
    have hheader : mb.header.isInterMb = true := hinter
    have hY : bareSquare (InterFrameMacroblock.written mb).Y = fun column row =>
        { mb.fresh.Y column row with motionVector := baseMotionVector mb } := by
      funext column row
      unfold bareSquare InterFrameMacroblock.written written Block.bare
      dsimp only
      rw [hheader, h.Y, if_neg hbPred, if_pos rfl, if_pos rfl, hvectors.Y]
      rfl
    have hU : bareSquare (InterFrameMacroblock.written mb).U = fun column row =>
        { mb.fresh.U column row with
          motionVector := .lumaToChroma (baseMotionVector mb)
            (baseMotionVector mb) (baseMotionVector mb)
            (baseMotionVector mb) } := by
      funext column row
      unfold bareSquare InterFrameMacroblock.written written Block.bare
      dsimp only
      rw [hheader, h.U, if_pos rfl, hvectors.U]
      rfl
    have hV : bareSquare (InterFrameMacroblock.written mb).V = mb.fresh.V := by
      funext column row
      unfold bareSquare InterFrameMacroblock.written written Block.bare
      dsimp only
      rw [h.V]
      rfl
    rw [hbase]
    refine Eq.trans ?_ (InterFrameMacroblock.withInterMode_eq
      (fresh (InterFrameMacroblock.written mb)) hsplit _).symm
    unfold bare
    rw [hY2, hY, hU, hV]
    rfl

section Samples

variable {Header : Type} {isInter : Header → Bool}
  {displayWidth displayHeight width height : Nat}

theorem Macroblock.applyWalsh_uncoded {mb : Macroblock Header}
    (h : mb.Y2.coded = false) (quantizer : Quantizer)
    (raster : VP8Raster displayWidth displayHeight) :
    mb.applyWalsh quantizer raster = .error (.assertion "coded_") := by
  rw [applyWalsh, h]
  rfl

theorem Macroblock.applyWalsh_written (quantizer : Quantizer)
    (mb : Macroblock Header) (raster : VP8Raster displayWidth displayHeight) :
    (mb.written isInter).applyWalsh quantizer raster =
      mb.applyWalsh quantizer raster := by
  by_cases hcoded : mb.Y2.coded = true
  · have hcoefficients : (mb.written isInter).Y2.coefficients =
        mb.Y2.coefficients := if_pos hcoded
    unfold applyWalsh walshCoefficients
    rw [hcoefficients]
    rfl
  · have hwritten : (mb.written isInter).Y2.coded = false :=
      Bool.eq_false_iff.mpr hcoded
    rw [applyWalsh_uncoded hwritten,
      applyWalsh_uncoded (Bool.eq_false_iff.mpr hcoded)]

theorem Macroblock.reconstructIntraIn_written (mb : Macroblock Header)
    (hintra : isInter mb.header = false) (quantizer : Quantizer)
    (raster : VP8Raster displayWidth displayHeight) :
    (mb.written isInter).reconstructIntraIn quantizer raster =
      mb.reconstructIntraIn quantizer raster := by
  have huvMode : (mb.written isInter).uvPredictionMode =
      mb.uvPredictionMode := by
    change (if !isInter mb.header && _ then _ else _) = _
    rw [hintra]
    rfl
  have hmodes (column row : Fin 4) :
      ((mb.written isInter).Y column row).predictionMode =
        (mb.Y column row).predictionMode := by
    change (if isInter mb.header then _ else _) = _
    rw [hintra]
    rfl
  have hwalsh : (mb.written isInter).applyWalsh quantizer =
      (mb.applyWalsh quantizer : VP8Raster displayWidth displayHeight → _) :=
    funext (mb.applyWalsh_written quantizer)
  unfold reconstructIntraIn predictChroma
  simp only [huvMode, hmodes, hwalsh]
  rfl

namespace InterFrameMacroblock

theorem reconstructInterIn_written {mb : InterFrameMacroblock}
    (hinter : interCoded mb = true) (quantizer : Quantizer)
    (references : RasterReferences displayWidth displayHeight)
    (raster : VP8Raster displayWidth displayHeight) :
    reconstructInterIn quantizer references (written mb) raster =
      reconstructInterIn quantizer references mb raster := by
  have hlumaMv (column row : Fin 4) :
      ((written mb).Y column row).motionVector =
        (mb.Y column row).motionVector := if_pos hinter
  have hchromaMv (column row : Fin 2) :
      ((written mb).U column row).motionVector =
        (mb.U column row).motionVector := if_pos hinter
  have hwalsh : (written mb).applyWalsh quantizer =
      (mb.applyWalsh quantizer : VP8Raster displayWidth displayHeight → _) :=
    funext (mb.applyWalsh_written quantizer)
  unfold reconstructInterIn predictSplit predictWhole baseMotionVector
  simp only [hlumaMv, hchromaMv, hwalsh]
  rfl

theorem reconstructIn_written (mb : InterFrameMacroblock)
    (quantizer : Quantizer)
    (references : RasterReferences displayWidth displayHeight)
    (raster : VP8Raster displayWidth displayHeight) :
    reconstructIn quantizer references (written mb) raster =
      reconstructIn quantizer references mb raster := by
  unfold reconstructIn
  by_cases hinter : interCoded mb = true
  · have hwritten : interCoded (written mb) = true := hinter
    rw [if_pos hinter, if_pos hwritten]
    exact reconstructInterIn_written hinter quantizer references raster
  · have hwritten : ¬ interCoded (written mb) = true := hinter
    rw [if_neg hinter, if_neg hwritten]
    exact mb.reconstructIntraIn_written (Bool.eq_false_iff.mpr hinter) quantizer
      raster

end InterFrameMacroblock

end Samples

section Frames

variable {FrameHeader MacroblockHeader : Type}
  {displayWidth displayHeight width height : Nat}

def Frame.written (isInter : MacroblockHeader → Bool)
    (frame : Frame FrameHeader MacroblockHeader) :
    Frame FrameHeader MacroblockHeader :=
  { frame with macroblocks := frame.macroblocks.map (·.written isInter) }

abbrev KeyFrame.written (frame : KeyFrame) : KeyFrame :=
  Frame.written (fun _ => false) frame

abbrev InterFrame.written (frame : InterFrame) : InterFrame :=
  Frame.written InterFrameMacroblockHeader.isInterMb frame

theorem Frame.filterIn_written [LoopFiltered FrameHeader MacroblockHeader]
    (isInter : MacroblockHeader → Bool)
    (segmentation : Option (Segmentation width height))
    (filterAdjustments : Option FilterAdjustments)
    (frame : Frame FrameHeader MacroblockHeader)
    (raster : VP8Raster displayWidth displayHeight) :
    (frame.written isInter).filterIn segmentation filterAdjustments raster =
      frame.filterIn segmentation filterAdjustments raster := by
  unfold filterIn Frame.written
  dsimp only
  rw [List.foldlM_map]
  rfl

theorem quantizerFor_written {Header : Type} (isInter : Header → Bool)
    (indices : QuantIndices)
    (segmentation : Option (Segmentation width height))
    (mb : Macroblock Header) :
    quantizerFor indices segmentation (mb.written isInter) =
      quantizerFor indices segmentation mb := rfl

theorem KeyFrameMacroblock.reconstructIntraIn_written (quantizer : Quantizer)
    (mb : KeyFrameMacroblock) (raster : VP8Raster displayWidth displayHeight) :
    (KeyFrameMacroblock.written mb).reconstructIntraIn quantizer raster =
      mb.reconstructIntraIn quantizer raster :=
  Macroblock.reconstructIntraIn_written mb rfl quantizer raster

theorem KeyFrame.decodeInto_written
    (segmentation : Option (Segmentation width height)) (frame : KeyFrame)
    (raster : VP8Raster displayWidth displayHeight) :
    KeyFrame.decodeInto segmentation frame.written raster =
      KeyFrame.decodeInto segmentation frame raster := by
  unfold KeyFrame.decodeInto KeyFrame.written Frame.written
  dsimp only
  rw [List.foldlM_map]
  simp only [quantizerFor_written,
    KeyFrameMacroblock.reconstructIntraIn_written]

theorem InterFrame.decodeInto_written
    (segmentation : Option (Segmentation width height))
    (references : RasterReferences displayWidth displayHeight)
    (frame : InterFrame) (raster : VP8Raster displayWidth displayHeight) :
    InterFrame.decodeInto segmentation references frame.written raster =
      InterFrame.decodeInto segmentation references frame raster := by
  unfold InterFrame.decodeInto InterFrame.written Frame.written
  dsimp only
  rw [List.foldlM_map]
  simp only [quantizerFor_written, InterFrameMacroblock.reconstructIn_written]

section Serialize

variable [HeaderType FrameHeader MacroblockHeader]
  {isInter : MacroblockHeader → Bool}
  {frame : Frame FrameHeader MacroblockHeader}

theorem Frame.serializeTokens_written
    (hlinks : frame.y2Links =
      relinkY2Blocks frame.macroblockWidth frame.macroblocks)
    (tables : ProbabilityTables) :
    (frame.written isInter).serializeTokens tables =
      frame.serializeTokens tables := by
  have hcoded := relinkY2Blocks_allCoded frame.macroblockWidth frame.macroblocks
  rw [← hlinks] at hcoded
  unfold Frame.serializeTokens Frame.written
  dsimp only [Frame.macroblockWidth, Frame.macroblockHeight,
    Frame.dctPartitionCount] at hcoded ⊢
  rw [serializeMacroblockTokens_written _ _ _ _ _ hcoded]

variable [HeaderWriter FrameHeader MacroblockHeader]

/-- The modes of the macroblock are written without regard to what is not
written. -/
def Macroblock.ModesWritten (FrameHeader : Type) {MacroblockHeader : Type}
    [HeaderWriter FrameHeader MacroblockHeader]
    (isInter : MacroblockHeader → Bool) (mb : Macroblock MacroblockHeader) :
    Prop :=
  ∀ tables (context : Context (Macroblock MacroblockHeader)),
    HeaderWriter.encodePredictionModes FrameHeader tables
        (context.map (Macroblock.written isInter)) (mb.written isInter) =
      HeaderWriter.encodePredictionModes FrameHeader tables context mb

theorem Macroblock.serialize_written {mb : Macroblock MacroblockHeader}
    (h : mb.ModesWritten FrameHeader isInter) (header : FrameHeader)
    (mbSegmentTreeProbs : List Probability) (tables : ProbabilityTables)
    (context : Context (Macroblock MacroblockHeader)) :
    (mb.written isInter).serialize header mbSegmentTreeProbs tables
        (context.map (Macroblock.written isInter)) =
      mb.serialize header mbSegmentTreeProbs tables context := by
  unfold Macroblock.serialize
  rw [h]
  rfl

theorem Frame.serializeFirstPartition_written
    (h : ∀ mb ∈ frame.macroblocks, mb.ModesWritten FrameHeader isInter)
    (tables : ProbabilityTables) :
    (frame.written isInter).serializeFirstPartition tables =
      frame.serializeFirstPartition tables := by
  have hsymbols (mbSegmentTreeProbs : List Probability) :
      ((frame.macroblocks.map (Macroblock.written isInter)).map fun mb =>
        mb.serialize frame.header mbSegmentTreeProbs tables
          (contextAt frame.macroblockWidth frame.macroblockHeight
            (frame.macroblocks.map (Macroblock.written isInter)) mb.place)) =
      frame.macroblocks.map fun mb => mb.serialize frame.header
        mbSegmentTreeProbs tables (contextAt frame.macroblockWidth
          frame.macroblockHeight frame.macroblocks mb.place) := by
    rw [List.map_map]
    refine List.map_congr_left fun mb hmb => ?_
    rw [Function.comp_apply, contextAt_map, Macroblock.written_place,
      Macroblock.serialize_written (h mb hmb)]
  unfold Frame.serializeFirstPartition Frame.written
  dsimp only [Frame.macroblockWidth, Frame.macroblockHeight] at hsymbols ⊢
  rw [hsymbols]

end Serialize

theorem KeyFrame.serialize_written {frame : KeyFrame}
    (hlinks : frame.y2Links =
      relinkY2Blocks frame.macroblockWidth frame.macroblocks)
    (tables : ProbabilityTables) :
    frame.written.serialize tables = frame.serialize tables := by
  have hmodes (mb : KeyFrameMacroblock) :
      mb.ModesWritten KeyFrameHeader fun _ => false :=
    fun _ context => KeyFrameMacroblock.encodePredictionModes_written context mb
  unfold KeyFrame.serialize KeyFrame.written
  dsimp only
  rw [Frame.serializeFirstPartition_written fun mb _ => hmodes mb,
    Frame.serializeTokens_written hlinks]
  rfl

theorem InterFrame.serialize_written {frame : InterFrame}
    (hsplit : ∀ mb ∈ frame.macroblocks, InterFrameMacroblock.NotSplit mb)
    (hlinks : frame.y2Links =
      relinkY2Blocks frame.macroblockWidth frame.macroblocks)
    (tables : ProbabilityTables) :
    frame.written.serialize tables = frame.serialize tables := by
  have hmodes : ∀ mb ∈ frame.macroblocks, mb.ModesWritten InterFrameHeader
      InterFrameMacroblockHeader.isInterMb := fun mb hmb tables context =>
    InterFrameMacroblock.encodePredictionModes_written tables context
      (hsplit mb hmb)
  unfold InterFrame.serialize InterFrame.written
  dsimp only
  rw [Frame.serializeFirstPartition_written hmodes,
    Frame.serializeTokens_written hlinks]
  rfl

end Frames

end Salsify.Codec
