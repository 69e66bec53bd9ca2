import Salsify.Codec.MacroblockPlaces

namespace Salsify.Codec

open Salsify.Coder (Probability BoolDecoder)
open BitParser (Completes completes_pure completes_array)

/-! No answers of the decoder make the parsers of macroblocks fail: every walk
of a tree ends in a leaf, and every table is read inside its bounds. -/

variable {Answers : Bool → Prop}

def NeverMissing (errorConcealment : Bool) (Answers : Bool → Prop) : Prop :=
  ∀ answer, Answers answer → (errorConcealment && !answer) = false

theorem boolean_completes (probability : Probability) :
    (boolean probability).Completes Answers fun _ => True :=
  fun _ => trivial

theorem unsigned_completes :
    (width : Nat) → (unsigned width).Completes Answers fun _ => True
  | 0 => trivial
  | width + 1 => by
      apply (boolean_completes 128).bind
      intro bit _
      exact (unsigned_completes width).bind fun _ _ => trivial

theorem signed_completes (width : Nat) :
    (signed width).Completes Answers fun _ => True := by
  apply (unsigned_completes width).bind
  intro magnitude _
  exact (boolean_completes 128).bind fun _ _ => trivial

theorem optional_completes {α : Type} {element : Parser α} {Post : α → Prop}
    (isPresent : Bool) (h : element.Completes Answers Post) :
    (optional isPresent element).Completes Answers fun value =>
      value.isSome = isPresent ∧
        ∀ present, value = some present → Post present := by
  cases isPresent with
  | false => exact ⟨rfl, fun present hnone => nomatch hnone⟩
  | true =>
      refine h.map ?_
      intro value hvalue
      refine ⟨rfl, ?_⟩
      rintro present ⟨⟩
      exact hvalue

theorem flagged_completes {α : Type} {element : Parser α} {Post : α → Prop}
    (probability : Probability) (h : element.Completes Answers Post) :
    (flagged element probability).Completes Answers fun _ => True := by
  apply (boolean_completes probability).bind
  intro isPresent _
  exact (optional_completes isPresent h).mono fun _ _ => trivial

theorem found_completes {α : Type} {value : Option α} {present : α}
    (h : value = some present) :
    (found value).Completes Answers fun _ => True := by
  subst h
  trivial

/-- Every entry of the tree's pairs leads to a later pair or is a leaf that
passes the test. -/
def treeSafe (nodes : List TreeNode) (pairs : Nat) (test : Nat → Bool) : Bool :=
  pairs ≤ nodes.length && (List.range pairs).all fun pair =>
    [0, 1].all fun bit => nodes[2 * pair + bit]?.elim false fun node =>
      if 0 < node then
        node.toNat = 2 * (node.toNat / 2) && pair < node.toNat / 2 &&
          node.toNat / 2 < pairs
      else
        test (-node).toNat

theorem treeFrom_completes {nodes : List TreeNode}
    {probabilities : List Probability} {test : Nat → Bool}
    (hsafe : treeSafe nodes probabilities.length test = true) :
    (fuel pair : Nat) → pair < probabilities.length →
      probabilities.length ≤ fuel + pair →
      (treeFrom nodes probabilities fuel (2 * pair)).Completes Answers
        fun leaf => test leaf = true
  | 0, pair, hpair, hfuel => absurd hpair (by omega)
  | fuel + 1, pair, hpair, hfuel => by
      have hprobability : probabilities[2 * pair / 2]? =
          some probabilities[pair] := by
        rw [Nat.mul_div_cancel_left pair (by decide),
          List.getElem?_eq_getElem hpair]
      rw [treeFrom, hprobability]
      apply (boolean_completes _).bind
      intro bit _
      have hbit : bit.toNat ∈ [0, 1] := by
        cases bit <;> decide
      rw [treeSafe, Bool.and_eq_true, List.all_eq_true] at hsafe
      have hentry := List.all_eq_true.mp
        (hsafe.2 pair (List.mem_range.mpr hpair)) _ hbit
      cases hnode : nodes[2 * pair + bit.toNat]? with
      | none =>
          rw [hnode] at hentry
          cases hentry
      | some node =>
          rw [hnode, Option.elim_some] at hentry
          dsimp only
          split
          · next hpositive =>
              rw [if_pos hpositive] at hentry
              simp only [Bool.and_eq_true, decide_eq_true_eq] at hentry
              rw [hentry.1.1]
              refine treeFrom_completes ?_ fuel _ hentry.2 (by omega)
              rw [treeSafe, Bool.and_eq_true, List.all_eq_true]
              exact hsafe
          · next hleaf =>
              rw [if_neg hleaf] at hentry
              exact hentry

theorem tree_completes {nodes : List TreeNode}
    {probabilities : List Probability} (test : Nat → Bool) (pairs : Nat)
    (hlength : probabilities.length = pairs) (hpositive : 0 < pairs)
    (hsafe : treeSafe nodes pairs test = true) :
    (tree nodes probabilities).Completes Answers fun leaf => test leaf = true := by
  subst hlength
  have hfuel : probabilities.length ≤ nodes.length := by
    rw [treeSafe, Bool.and_eq_true, decide_eq_true_eq] at hsafe
    exact hsafe.1
  exact treeFrom_completes hsafe nodes.length 0 hpositive hfuel

theorem treeOf_completes {α : Type} {values : List α} {nodes : List TreeNode}
    {probabilities : List Probability} (test : α → Bool) (pairs : Nat)
    (hlength : probabilities.length = pairs) (hpositive : 0 < pairs)
    (hsafe : treeSafe nodes pairs
      (fun leaf => values[leaf]?.elim false test) = true) :
    (treeOf values nodes probabilities).Completes Answers
      fun value => test value = true := by
  apply (tree_completes _ pairs hlength hpositive hsafe).bind
  intro leaf hleaf
  cases hvalue : values[leaf]? with
  | none =>
      rw [hvalue] at hleaf
      cases hleaf
  | some value =>
      rw [hvalue] at hleaf
      exact hleaf

def MbMode.isIntra : MbMode → Bool
  | .dcPred | .vPred | .hPred | .tmPred | .bPred => true
  | _ => false

def MbMode.isWhole (mode : MbMode) : Bool := mode.isIntra && mode ≠ .bPred

def BMode.isIntra (mode : BMode) : Bool := BMode.values.idxOf mode < 10

def IntraSubblocks (Y : Square YBlock 4) : Prop :=
  ∀ column row, (Y column row).predictionMode.isIntra = true

structure IntraModes {Header : Type} (mb : Macroblock Header) : Prop where
  luma : mb.Y2.predictionMode.isIntra = true
  chroma : (mb.U 0 0).predictionMode.isWhole = true
  subblocks : IntraSubblocks mb.Y

theorem IntraSubblocks.set {Y : Square YBlock 4} (h : IntraSubblocks Y)
    {column row : Fin 4} {block : YBlock}
    (hblock : block.predictionMode.isIntra = true) :
    IntraSubblocks (Y.set column row block) := by
  intro i j
  unfold Square.set
  split
  · exact hblock
  · exact h i j

theorem impliedSubblockMode_completes {mode : MbMode}
    (h : mode.isWhole = true) :
    (impliedSubblockMode mode).Completes Answers fun implied =>
      implied.isIntra = true := by
  cases mode with
  | dcPred => rfl
  | vPred => rfl
  | hPred => rfl
  | tmPred => rfl
  | _ => cases h

theorem parseSubblockModes_completes {mode : MbMode}
    (hmode : mode.isIntra = true)
    {probs : Square YBlock 4 → Fin 4 → Fin 4 → Parser (List Probability)}
    (hprobs : ∀ Y, IntraSubblocks Y → ∀ column row,
      (probs Y column row).Completes Answers fun list => list.length = 9) :
    (places : List (Fin 4 × Fin 4)) → (Y : Square YBlock 4) →
      IntraSubblocks Y →
      (parseSubblockModes mode probs places Y).Completes Answers IntraSubblocks
  | [], Y, hY => hY
  | (column, row) :: rest, Y, hY => by
      unfold parseSubblockModes
      split
      · apply (hprobs Y hY column row).bind
        intro probabilities hlength
        apply (treeOf_completes BMode.isIntra 9 hlength (by decide)
          (by decide)).bind
        intro subblockMode hintra
        exact parseSubblockModes_completes hmode hprobs rest _ (hY.set hintra)
      · next hwhole =>
        have hmode' : mode.isWhole = true := by
          rw [MbMode.isWhole, hmode, Bool.true_and]
          exact decide_eq_true hwhole
        apply (impliedSubblockMode_completes hmode').bind
        intro subblockMode hintra
        exact parseSubblockModes_completes hmode hprobs rest _ (hY.set hintra)

namespace KeyFrameMacroblock

def ContextIntra (context : Context KeyFrameMacroblock) : Prop :=
  (∀ mb, context.above = some mb → IntraSubblocks mb.Y) ∧
    ∀ mb, context.left = some mb → IntraSubblocks mb.Y

theorem neighbour_isIntra {block : Option YBlock}
    (h : ∀ present, block = some present →
      present.predictionMode.isIntra = true) :
    (block.elim BMode.bDcPred Block.predictionMode).isIntra = true := by
  cases block with
  | none => rfl
  | some present => exact h present rfl

theorem above_isIntra {above : Option KeyFrameMacroblock}
    (h : ∀ mb, above = some mb → IntraSubblocks mb.Y) {Y : Square YBlock 4}
    (hY : IntraSubblocks Y) (column row : Fin 4) (block : YBlock)
    (hblock : Square.aboveOf (above.map Macroblock.Y) Y column row =
      some block) : block.predictionMode.isIntra = true := by
  unfold Square.aboveOf at hblock
  split at hblock
  · obtain ⟨other, hother, rfl⟩ := Option.map_eq_some_iff.mp hblock
    obtain ⟨mb, hmb, rfl⟩ := Option.map_eq_some_iff.mp hother
    exact h mb hmb _ _
  · cases hblock
    exact hY _ _

theorem left_isIntra {left : Option KeyFrameMacroblock}
    (h : ∀ mb, left = some mb → IntraSubblocks mb.Y) {Y : Square YBlock 4}
    (hY : IntraSubblocks Y) (column row : Fin 4) (block : YBlock)
    (hblock : Square.leftOf (left.map Macroblock.Y) Y column row =
      some block) : block.predictionMode.isIntra = true := by
  unfold Square.leftOf at hblock
  split at hblock
  · obtain ⟨other, hother, rfl⟩ := Option.map_eq_some_iff.mp hblock
    obtain ⟨mb, hmb, rfl⟩ := Option.map_eq_some_iff.mp hother
    exact h mb hmb _ _
  · cases hblock
    exact hY _ _

theorem bModeProbs_completes {context : Context KeyFrameMacroblock}
    (hcontext : ContextIntra context) {Y : Square YBlock 4}
    (hY : IntraSubblocks Y) (column row : Fin 4) :
    (bModeProbs context Y column row).Completes Answers
      fun probabilities => probabilities.length = 9 := by
  have habove := neighbour_isIntra
    (above_isIntra hcontext.1 hY column row)
  have hleft := neighbour_isIntra (left_isIntra hcontext.2 hY column row)
  rw [BMode.isIntra, decide_eq_true_eq] at habove hleft
  apply (found_completes (Vector.getElem?_eq_getElem habove)).bind
  intro rows _
  apply (found_completes (Vector.getElem?_eq_getElem hleft)).bind
  intro probabilities _
  exact completes_pure probabilities.size_toArray

theorem decodePredictionModes_completes {context : Context KeyFrameMacroblock}
    (hcontext : ContextIntra context) {mb : KeyFrameMacroblock}
    (hmb : IntraSubblocks mb.Y) :
    (decodePredictionModes context mb).Completes Answers IntraModes := by
  apply (treeOf_completes MbMode.isIntra 4 rfl (by decide)
    (by decide)).bind
  intro mode hmode
  apply (parseSubblockModes_completes hmode
    (fun Y hY column row => bModeProbs_completes hcontext hY column row)
    subblocks mb.Y hmb).bind
  intro Y hY
  apply (treeOf_completes MbMode.isWhole 3 rfl (by decide)
    (by decide)).bind
  intro uvMode huvMode
  exact completes_pure ⟨by rw [Block.setIfCoded_predictionMode]; exact hmode,
    huvMode, hY⟩

end KeyFrameMacroblock

namespace MotionVector

theorem readBits_completes (componentProbs : SafeArray Probability 19) :
    (positions : List (Fin 10)) →
      (readBits componentProbs positions).Completes Answers fun _ => True
  | [] => trivial
  | position :: rest => by
      apply (boolean_completes _).bind
      intro bit _
      exact (readBits_completes componentProbs rest).bind fun _ _ => trivial

theorem readLong_completes (componentProbs : SafeArray Probability 19) :
    (readLong componentProbs).Completes Answers fun _ => True := by
  apply (readBits_completes componentProbs _).bind
  intro low _
  apply (readBits_completes componentProbs _).bind
  intro high _
  split
  · trivial
  · exact (boolean_completes _).bind fun _ _ => trivial

theorem readMagnitude_completes (componentProbs : SafeArray Probability 19) :
    (readMagnitude componentProbs).Completes Answers fun _ => True := by
  apply (boolean_completes _).bind
  intro long _
  split
  · exact readLong_completes componentProbs
  · exact (tree_completes (fun _ => true) 7
      List.length_ofFn (by decide) (by decide)).mono fun _ _ => trivial

theorem readComponent_completes (componentProbs : SafeArray Probability 19) :
    (readComponent componentProbs).Completes Answers fun _ => True := by
  apply (readMagnitude_completes componentProbs).bind
  intro magnitude _
  split
  · trivial
  · exact (boolean_completes _).bind fun _ _ => trivial

theorem parse_completes
    (motionVectorProbs : SafeArray (SafeArray Probability 19) 2) :
    (MotionVector.parse motionVectorProbs).Completes Answers fun _ => True := by
  apply (readComponent_completes _).bind
  intro y _
  exact (readComponent_completes _).bind fun _ _ => trivial

end MotionVector

namespace Scorer

def total (scorer : Scorer) : Nat :=
  scorer.scores 0 + scorer.scores 1 + scorer.scores 2 + scorer.scores 3

theorem total_update (scorer : Scorer) (score : Nat) (index : Fin 4) :
    total { scorer with
        scores := Function.update scorer.scores index
          (scorer.scores index + score) } = scorer.total + score := by
  match index with
  | 0 => simp only [total, Function.update]; simp; omega
  | 1 => simp only [total, Function.update]; simp; omega
  | 2 => simp only [total, Function.update]; simp; omega
  | 3 => simp only [total, Function.update]; simp; omega

theorem total_addVector (scorer : Scorer) (score : Nat) (mv : MotionVector) :
    (scorer.addVector score mv).total = scorer.total + score ∧
      (scorer.addVector score mv).splitmvScore = scorer.splitmvScore := by
  unfold addVector
  split
  · exact ⟨scorer.total_update score 0, rfl⟩
  · split
    · exact ⟨scorer.total_update score scorer.index, rfl⟩
    · exact ⟨scorer.total_update score (scorer.index + 1), rfl⟩

/-- Each neighbour adds at most its weight to the scores, and to the count of
split neighbours. -/
theorem total_add (scorer : Scorer) (score : Nat)
    (mb : Option InterFrameMacroblock) :
    (scorer.add score mb).total ≤ scorer.total + score ∧
      (scorer.add score mb).splitmvScore ≤ scorer.splitmvScore + score := by
  cases mb with
  | none => exact ⟨Nat.le_add_right _ _, Nat.le_add_right _ _⟩
  | some mb =>
      unfold add
      dsimp only
      split
      · obtain ⟨htotal, hsplit⟩ := scorer.total_addVector score
          (if mb.header.motionVectorsFlipped ≠ scorer.motionVectorsFlipped
            then (InterFrameMacroblock.baseMotionVector mb).neg
            else InterFrameMacroblock.baseMotionVector mb)
        split
        · exact ⟨Nat.le_of_eq htotal,
            Nat.le_of_eq (congrArg (· + score) hsplit)⟩
        · exact ⟨Nat.le_of_eq htotal,
            Nat.le_trans (Nat.le_of_eq hsplit) (Nat.le_add_right _ _)⟩
      · exact ⟨Nat.le_add_right _ _, Nat.le_add_right _ _⟩

structure Bounded (bound : Nat) (scorer : Scorer) : Prop where
  zero : scorer.scores 0 ≤ bound
  first : scorer.scores 1 ≤ bound
  second : scorer.scores 2 ≤ bound
  split : scorer.splitmvScore ≤ bound

theorem bounded_mergeThird {scorer : Scorer} {bound : Nat}
    (htotal : scorer.total ≤ bound) (hsplit : scorer.splitmvScore ≤ bound) :
    Bounded bound scorer.mergeThird := by
  rw [total] at htotal
  unfold mergeThird
  split
  · have hfirst : scorer.scores 1 + scorer.scores 3 ≤ bound := by omega
    have hzero : scorer.scores 0 ≤ bound := by omega
    have hsecond : scorer.scores 2 ≤ bound := by omega
    exact ⟨hzero, hfirst, hsecond, hsplit⟩
  · exact ⟨by omega, by omega, by omega, hsplit⟩

theorem Bounded.sortFirstTwo {scorer : Scorer} {bound : Nat}
    (h : Bounded bound scorer) : Bounded bound scorer.sortFirstTwo := by
  unfold Scorer.sortFirstTwo
  split
  · exact ⟨h.zero, h.second, h.first, h.split⟩
  · exact h

theorem Bounded.chooseBest {scorer : Scorer} {bound : Nat}
    (h : Bounded bound scorer) : Bounded bound scorer.chooseBest := by
  unfold Scorer.chooseBest
  split
  · exact ⟨h.zero, h.first, h.second, h.split⟩
  · exact h

theorem Bounded.modeContexts {scorer : Scorer} {bound : Nat}
    (h : Bounded bound scorer) (index : Fin 4) :
    scorer.modeContexts index ≤ bound := by
  match index with
  | 0 => exact h.zero
  | 1 => exact h.first
  | 2 => exact h.second
  | 3 => exact h.split

end Scorer

namespace InterFrameMacroblock

theorem motionVectorCensus_bounded (context : Context InterFrameMacroblock)
    (motionVectorsFlipped : Bool) :
    Scorer.Bounded 5 (motionVectorCensus context motionVectorsFlipped) := by
  have habove := Scorer.total_add { motionVectorsFlipped } 2 context.above
  have hleft := Scorer.total_add
    (({ motionVectorsFlipped } : Scorer).add 2 context.above) 2 context.left
  have haboveLeft := Scorer.total_add
    ((({ motionVectorsFlipped } : Scorer).add 2 context.above).add 2
      context.left) 1 context.aboveLeft
  have hstart : Scorer.total { motionVectorsFlipped } = 0 := rfl
  have hsplit : ({ motionVectorsFlipped } : Scorer).splitmvScore = 0 := rfl
  exact (Scorer.bounded_mergeThird (by omega)
    (by omega)).sortFirstTwo.chooseBest

theorem mvRefProbs_completes {counts : SafeArray Nat 4}
    (h : ∀ index, counts index ≤ 5) :
    (mvRefProbs counts).Completes Answers fun _ => True := by
  refine BitParser.completes_array_any fun index => ?_
  have hlt : counts index < 6 := Nat.lt_succ_of_le (h index)
  exact (found_completes (Vector.getElem?_eq_getElem hlt)).map
    fun _ _ => trivial

theorem readSubblockInterPrediction_completes
    (leftMv aboveMv bestMv : MotionVector)
    (motionVectorProbs : SafeArray (SafeArray Probability 19) 2)
    (block : YBlock) :
    (readSubblockInterPrediction leftMv aboveMv bestMv motionVectorProbs
      block).Completes Answers fun _ => True := by
  have hlength : ∀ index : Fin 5, (submvRefProbs2.get index).length = 3 := by decide
  apply (treeOf_completes (fun mode => !mode.isIntra) 3 (hlength _)
    (by decide) (by decide)).bind
  intro mode hmode
  cases mode with
  | left4x4 => trivial
  | above4x4 => trivial
  | zero4x4 => trivial
  | new4x4 =>
      exact (MotionVector.parse_completes _).bind fun _ _ => trivial
  | _ => cases hmode

theorem parsePartitions_completes (context : Context InterFrameMacroblock)
    (bestMv : MotionVector)
    (motionVectorProbs : SafeArray (SafeArray Probability 19) 2) :
    (partitions : List (List (Fin 4 × Fin 4))) → (Y : Square YBlock 4) →
      (parsePartitions context bestMv motionVectorProbs partitions
        Y).Completes Answers fun _ => True
  | [], Y => trivial
  | [] :: rest, Y =>
      parsePartitions_completes context bestMv motionVectorProbs rest Y
  | ((column, row) :: others) :: rest, Y => by
      rw [parsePartitions]
      apply (readSubblockInterPrediction_completes _ _ _ _ _).bind
      intro first _
      exact parsePartitions_completes context bestMv motionVectorProbs rest _

theorem decodeMotionVectors_completes (tables : ProbabilityTables)
    (context : Context InterFrameMacroblock) (census : Scorer)
    {mb : InterFrameMacroblock} (h : mb.Y2.predictionMode.isIntra = false) :
    (decodeMotionVectors tables context census mb).Completes Answers
      fun decoded => decoded.header.isInterMb = mb.header.isInterMb := by
  unfold decodeMotionVectors
  cases hmode : mb.Y2.predictionMode with
  | nearestMv => rfl
  | nearMv => rfl
  | zeroMv => rfl
  | newMv =>
      apply (MotionVector.parse_completes _).bind
      intro newMv _
      rfl
  | splitMv =>
      apply (tree_completes (fun leaf => leaf < 4) 3 rfl (by decide)
        (by decide)).bind
      intro partitionId hpartitionId
      have hlt : partitionId < mvPartitions.length :=
        of_decide_eq_true hpartitionId
      apply (found_completes (List.getElem?_eq_getElem hlt)).bind
      intro partitions _
      apply (parsePartitions_completes context _ _ partitions mb.Y).bind
      intro Y _
      rfl
  | _ =>
      rw [hmode] at h
      cases h

theorem decodeInterMode_completes {errorConcealment : Bool}
    (hanswers : NeverMissing errorConcealment Answers)
    (context : Context InterFrameMacroblock) (motionVectorsFlipped : Bool)
    (Y2 : Y2Block) :
    (decodeInterMode errorConcealment
      (motionVectorCensus context motionVectorsFlipped) Y2).Completes Answers
        fun decoded => decoded.predictionMode.isIntra = false := by
  apply (mvRefProbs_completes (motionVectorCensus_bounded context
    motionVectorsFlipped).modeContexts).bind
  intro probs _ answer hanswer
  dsimp only
  rw [hanswers answer hanswer, if_neg Bool.false_ne_true]
  apply (treeOf_completes (fun mode : MbMode => !mode.isIntra) 4
    List.length_ofFn (by decide) (by decide)).bind
  intro mode hmode
  refine completes_pure ?_
  rw [Block.setIfCoded_predictionMode]
  exact Bool.not_eq_true' _ ▸ hmode

theorem decodeIntraModes_completes (tables : ProbabilityTables)
    {mb : InterFrameMacroblock} (h : IntraSubblocks mb.Y) :
    (decodeIntraModes tables mb).Completes Answers IntraModes := by
  apply (treeOf_completes MbMode.isIntra 4
    List.length_ofFn (by decide) (by decide)).bind
  intro mode hmode
  apply (parseSubblockModes_completes hmode
    (fun Y hY column row => completes_pure rfl) subblocks mb.Y h).bind
  intro Y hY
  apply (treeOf_completes MbMode.isWhole 3
    List.length_ofFn (by decide) (by decide)).bind
  intro uvMode huvMode
  exact completes_pure ⟨by rw [Block.setIfCoded_predictionMode]; exact hmode,
    huvMode, hY⟩

def HasReference (header : InterFrameMacroblockHeader) : Prop :=
  header.isInterMb = true → ∃ reference,
    header.reference = some reference ∧ reference ≠ .currentFrame

structure Predictable (mb : InterFrameMacroblock) : Prop where
  intra : interCoded mb = false → IntraModes mb
  inter : HasReference mb.header

theorem parseHeader_completes (frameHeader : InterFrameHeader) :
    (InterFrameMacroblockHeader.parse frameHeader).Completes Answers
      HasReference := by
  apply (boolean_completes _).bind
  intro isInterMb _
  apply (optional_completes isInterMb (boolean_completes _)).bind
  rintro mbRefFrameSel1 ⟨hfirst, -⟩
  apply (optional_completes (mbRefFrameSel1.getD false)
    (boolean_completes _)).bind
  rintro mbRefFrameSel2 ⟨hsecond, -⟩
  refine completes_pure fun hinter => ?_
  have hinter : isInterMb = true := hinter
  subst hinter
  match mbRefFrameSel1, mbRefFrameSel2 with
  | some false, _ => exact ⟨.lastFrame, rfl, by decide⟩
  | some true, some false => exact ⟨.goldenFrame, rfl, by decide⟩
  | some true, some true => exact ⟨.altrefFrame, rfl, by decide⟩

theorem decodeModes_completes {errorConcealment : Bool}
    (hanswers : NeverMissing errorConcealment Answers)
    (tables : ProbabilityTables) (context : Context InterFrameMacroblock)
    {mb : InterFrameMacroblock} (h : IntraSubblocks mb.Y)
    (hreference : HasReference mb.header) :
    (decodeModes tables errorConcealment context mb).Completes Answers
      Predictable := by
  have hmodes : (decodeModes tables errorConcealment context mb).Completes
      Answers fun decoded => interCoded decoded = false → IntraModes decoded := by
    unfold decodeModes
    split
    · next hinter =>
      apply (decodeInterMode_completes hanswers context _ mb.Y2).bind
      intro Y2 hY2
      have hmb : ({ mb with Y2 } :
          InterFrameMacroblock).Y2.predictionMode.isIntra = false := hY2
      apply (decodeMotionVectors_completes tables context _ hmb).bind
      intro decoded hdecoded
      refine completes_pure fun hintra => ?_
      have hcoded : interCoded (setMotionVectors decoded) = true :=
        hdecoded.trans hinter
      rw [hcoded] at hintra
      cases hintra
    · exact (decodeIntraModes_completes tables h).mono fun _ hmodes _ => hmodes
  refine (hmodes.and_ensures (decodeModes_source tables errorConcealment
    context mb)).mono ?_
  rintro decoded ⟨hintra, hsource⟩
  obtain ⟨hinter, hsame⟩ := Prod.mk.inj hsource
  refine ⟨hintra, fun hcoded => ?_⟩
  rw [hsame]
  exact hreference (hinter.symm.trans hcoded)

theorem decodePredictionModes_completes {errorConcealment : Bool}
    (hanswers : NeverMissing errorConcealment Answers)
    (tables : ProbabilityTables) (context : Context InterFrameMacroblock)
    {mb : InterFrameMacroblock} (h : IntraSubblocks mb.Y)
    (hreference : HasReference mb.header) :
    (decodePredictionModes tables errorConcealment context mb).Completes
      Answers Predictable := by
  intro answer hanswer
  dsimp only
  rw [hanswers answer hanswer, if_neg Bool.false_ne_true]
  exact decodeModes_completes hanswers tables context h hreference

end InterFrameMacroblock

theorem orZero_completes {α : Type} {errorConcealment : Bool}
    (hanswers : NeverMissing errorConcealment Answers) {parser : Parser α}
    {Post : α → Prop} (h : parser.Completes Answers Post) :
    (orZero errorConcealment parser).Completes Answers Post := by
  intro answer hanswer
  dsimp only
  rw [hanswers answer hanswer, if_neg Bool.false_ne_true]
  exact h

theorem calculateMbSegmentTreeProbs_length
    (updateSegmentation : Option UpdateSegmentation) :
    (calculateMbSegmentTreeProbs updateSegmentation).length = 3 := by
  unfold calculateMbSegmentTreeProbs
  split
  · exact List.length_ofFn
  · rfl

section Macroblocks

variable {FrameHeader MacroblockHeader : Type}
variable [HeaderType FrameHeader MacroblockHeader]

/-- The headers of the macroblocks after those that meet the invariant are
parsed whatever the bits, and meet it too. -/
structure ParsesAll (FrameHeader : Type) {MacroblockHeader : Type}
    [HeaderType FrameHeader MacroblockHeader] (errorConcealment : Bool)
    (Answers : Bool → Prop) (HeaderInv : MacroblockHeader → Prop)
    (Inv : Macroblock MacroblockHeader → Prop) : Prop where
  answers : NeverMissing errorConcealment Answers
  header : ∀ frameHeader : FrameHeader,
    (HeaderType.parseMacroblockHeader frameHeader).Completes Answers HeaderInv
  modes : ∀ tables (context : Context (Macroblock MacroblockHeader)) mb,
    (∀ above, context.above = some above → Inv above) →
    (∀ left, context.left = some left → Inv left) → IntraSubblocks mb.Y →
    HeaderInv mb.header →
    (HeaderType.decodePredictionModes FrameHeader tables errorConcealment
      context mb).Completes Answers Inv

theorem parsesAll_key (Answers : Bool → Prop) :
    ParsesAll KeyFrameHeader false Answers (fun _ => True) IntraModes where
  answers _ _ := rfl
  header _ := trivial
  modes _ _ _ habove hleft hmb _ :=
    KeyFrameMacroblock.decodePredictionModes_completes
      ⟨fun mb hmb => (habove mb hmb).subblocks,
        fun mb hmb => (hleft mb hmb).subblocks⟩ hmb

theorem parsesAll_inter {errorConcealment : Bool}
    (hanswers : NeverMissing errorConcealment Answers) :
    ParsesAll InterFrameHeader errorConcealment Answers
      InterFrameMacroblock.HasReference InterFrameMacroblock.Predictable where
  answers := hanswers
  header := InterFrameMacroblock.parseHeader_completes
  modes tables context _ _ _ hmb hreference :=
    InterFrameMacroblock.decodePredictionModes_completes hanswers tables
      context hmb hreference

variable {errorConcealment : Bool} {HeaderInv : MacroblockHeader → Prop}
variable {Inv : Macroblock MacroblockHeader → Prop}

def IsSegment (segment : UInt8) : Prop := segment.toNat < 4

theorem parseSegmentIdUpdate_completes (header : FrameHeader) :
    (parseSegmentIdUpdate header (calculateMbSegmentTreeProbs
      (HeaderType.updateSegmentation header))).Completes Answers
        fun update => ∀ segment, update = some segment → IsSegment segment := by
  have hsegment : (do
      let segment ← tree segmentIdTree (calculateMbSegmentTreeProbs
        (HeaderType.updateSegmentation header))
      return UInt8.ofNat segment : Parser UInt8).Completes Answers
        IsSegment := by
    refine (tree_completes (fun leaf => leaf < 4) 3
      (calculateMbSegmentTreeProbs_length _) (by decide) (by decide)).bind
      fun leaf hleaf => completes_pure ?_
    have hlt : leaf < 4 := of_decide_eq_true hleaf
    rw [IsSegment, UInt8.toNat_ofNat']
    omega
  exact (optional_completes _ hsegment).mono fun _ h => h.2

theorem parseMbSkipCoeff_completes (header : FrameHeader) :
    (parseMbSkipCoeff header).Completes Answers fun _ => True :=
  (optional_completes _ (boolean_completes _)).mono fun _ _ => trivial

theorem Macroblock.parse_completes
    (h : ParsesAll FrameHeader errorConcealment Answers HeaderInv Inv)
    (header : FrameHeader) (tables : ProbabilityTables)
    {context : Context (Macroblock MacroblockHeader)}
    (habove : ∀ above, context.above = some above → Inv above)
    (hleft : ∀ left, context.left = some left → Inv left) :
    (Macroblock.parse header (calculateMbSegmentTreeProbs
      (HeaderType.updateSegmentation header)) tables errorConcealment
        context).Completes Answers Inv := by
  apply (orZero_completes h.answers
    (parseSegmentIdUpdate_completes header)).bind
  intro segmentIdUpdate _
  apply (orZero_completes h.answers (parseMbSkipCoeff_completes header)).bind
  intro mbSkipCoeff _
  have hheader : (BitParser.valid fun valid =>
      if errorConcealment && !valid then
        pure (HeaderType.missingHeader FrameHeader)
      else HeaderType.parseMacroblockHeader header :
        Parser MacroblockHeader).Completes Answers HeaderInv := by
    intro answer hanswer
    dsimp only
    rw [h.answers answer hanswer, if_neg Bool.false_ne_true]
    exact h.header header
  apply hheader.bind
  intro mbHeader hmbHeader
  exact h.modes tables context _ habove hleft (fun _ _ => rfl) hmbHeader

theorem contextAt_mem {α : Type} {width height : Nat} {before : List α}
    {place : Nat × Nat} {other : α} :
    ((contextAt width height before place).above = some other →
      other ∈ before) ∧
    ((contextAt width height before place).left = some other →
      other ∈ before) := by
  have hmaybe (column row : Nat) (h : (if column < width ∧ row < height then
      before[row * width + column]? else none) = some other) :
      other ∈ before := by
    split at h
    · exact List.mem_of_getElem? h
    · cases h
  constructor
  · intro h
    simp only [contextAt] at h
    split at h
    · cases h
    · exact hmaybe _ _ h
  · intro h
    simp only [contextAt] at h
    split at h
    · cases h
    · exact hmaybe _ _ h

theorem parseMacroblocks_completes
    (h : ParsesAll FrameHeader errorConcealment Answers HeaderInv Inv)
    (header : FrameHeader) (tables : ProbabilityTables) (width height : Nat) :
    (places : List (Nat × Nat)) →
    (before : List (Macroblock MacroblockHeader)) → (∀ mb ∈ before, Inv mb) →
    (parseMacroblocks header tables errorConcealment width height places
      before).Completes Answers fun macroblocks => ∀ mb ∈ macroblocks, Inv mb
  | [], before, hbefore => hbefore
  | place :: rest, before, hbefore => by
      apply (Macroblock.parse_completes h header tables
        (fun above habove => hbefore above (contextAt_mem.1 habove))
        (fun left hleft => hbefore left (contextAt_mem.2 hleft))).bind
      intro mb hmb
      apply parseMacroblocks_completes h header tables width height rest
      intro other hother
      rcases List.mem_append.mp hother with hother | hother
      · exact hbefore other hother
      · rw [List.mem_singleton.mp hother]
        exact hmb

end Macroblocks

theorem branch_completes {α : Type} {probability : Probability}
    {zero one : Parser α} {Post : α → Prop}
    (hzero : zero.Completes Answers Post) (hone : one.Completes Answers Post) :
    (branch probability zero one).Completes Answers Post := by
  intro bit
  cases bit with
  | false => exact hzero
  | true => exact hone

theorem readIncrement_completes :
    (probabilities : List Probability) → (increment : Nat) →
      (TokenDecoder.readIncrement probabilities increment).Completes Answers
        fun _ => True
  | [], increment => trivial
  | probability :: rest, increment => by
      apply (boolean_completes probability).bind
      intro bit _
      exact readIncrement_completes rest _

theorem TokenDecoder.decode_completes (decoder : TokenDecoder) :
    decoder.decode.Completes Answers fun _ => True :=
  (readIncrement_completes decoder.bitProbabilities 0).bind fun _ _ => trivial

theorem parseValue_completes (prob : SafeArray Probability 11) :
    (parseValue prob).Completes Answers fun _ => True := by
  have hlarge : (parseLargeValue prob).Completes Answers fun _ => True :=
    branch_completes
      (branch_completes trivial (branch_completes trivial trivial))
      (branch_completes
        (branch_completes ((boolean_completes _).map fun _ _ => trivial)
          (TokenDecoder.decode_completes _))
        (branch_completes
          (branch_completes (TokenDecoder.decode_completes _)
            (TokenDecoder.decode_completes _))
          (branch_completes (TokenDecoder.decode_completes _)
            (TokenDecoder.decode_completes _))))
  exact branch_completes trivial (hlarge.map fun _ _ => trivial)

theorem Block.parseCoefficients_completes {Mode : Type} {mode : Mode}
    {probs : SafeArray (SafeArray (SafeArray Probability 11) 3) 8} :
    (indices : List (Fin 16)) → (lastWasZero : Bool) →
    (tokenContext : Fin 3) → (block : Block Mode) →
    block.predictionMode = mode →
    (block.parseCoefficients probs indices lastWasZero tokenContext).Completes
      Answers fun parsed => parsed.predictionMode = mode
  | [], _, _, block, h => h
  | index :: rest, lastWasZero, tokenContext, block, h => by
      have hafter : (branch
          (probs (coefficientToBand.get index) tokenContext 1)
          (block.parseCoefficients probs rest true 0)
          (do
            let result ←
              parseValue (probs (coefficientToBand.get index) tokenContext)
            let negative ← boolean
            (block.setCoefficient index
              (if negative then -result.1 else result.1)).parseCoefficients
                probs rest false result.2)).Completes Answers
            fun parsed => parsed.predictionMode = mode := by
        refine branch_completes
          (parseCoefficients_completes rest true 0 block h) ?_
        apply (parseValue_completes _).bind
        intro result _
        apply (boolean_completes _).bind
        intro negative _
        exact parseCoefficients_completes rest false result.2 _ h
      rw [Block.parseCoefficients]
      split
      · exact hafter
      · exact branch_completes h hafter

theorem parseSquareTokens_completes {Mode : Type} {size : Nat} [NeZero size]
    {tables : ProbabilityTables} {above left : Option (Square (Block Mode) size)}
    (modes : Square Mode size) :
    (places : List (Fin size × Fin size)) →
    (square : Square (Block Mode) size) →
    (∀ column row, (square column row).predictionMode = modes column row) →
    (parseSquareTokens tables above left places square).Completes Answers
      fun parsed => ∀ column row,
        (parsed column row).predictionMode = modes column row
  | [], square, h => h
  | (column, row) :: rest, square, h => by
      rw [parseSquareTokens]
      apply (Block.parseCoefficients_completes _ _ _ _
        (h column row)).bind
      intro block hblock
      refine parseSquareTokens_completes modes rest _ fun i j => ?_
      unfold Square.set
      split
      · next hplace => rw [hblock, hplace.1, hplace.2]
      · exact h i j

namespace Macroblock

variable {Header : Type}

def modes (mb : Macroblock Header) :
    Header × MbMode × Square BMode 4 × Square MbMode 2 :=
  (mb.header, mb.Y2.predictionMode,
    fun column row => (mb.Y column row).predictionMode,
    fun column row => (mb.U column row).predictionMode)

theorem parseTokens_completes (tables : ProbabilityTables)
    (context : TokenContext Header) (mb : Macroblock Header) :
    (mb.parseTokens tables context).Completes Answers
      fun parsed => parsed.modes = mb.modes := by
  unfold Macroblock.parseTokens
  split
  · rfl
  · have hY2 : (parseY2Tokens tables context mb.Y2).Completes Answers
        fun parsed => parsed.predictionMode = mb.Y2.predictionMode := by
      unfold parseY2Tokens
      split
      · exact Block.parseCoefficients_completes _ _ _ _ rfl
      · rfl
    apply hY2.bind
    intro Y2 hY2
    apply (parseSquareTokens_completes
      (fun column row => (mb.Y column row).predictionMode) subblocks mb.Y
      fun _ _ => rfl).bind
    intro Y hY
    apply (parseSquareTokens_completes
      (fun column row => (mb.U column row).predictionMode) chromaBlocks mb.U
      fun _ _ => rfl).bind
    intro U hU
    apply (parseSquareTokens_completes
      (fun column row => (mb.V column row).predictionMode) chromaBlocks mb.V
      fun _ _ => rfl).bind
    intro V _
    refine completes_pure ?_
    simp only [modes, hY2, hY, hU]

end Macroblock

theorem parseMacroblockTokens_completes {MacroblockHeader : Type}
    (tables : ProbabilityTables) (width height : Nat) :
    (items : List (Macroblock MacroblockHeader × Y2Links)) →
    (before : List (Macroblock MacroblockHeader)) →
    (decoders : List BoolDecoder) → decoders ≠ [] →
    ∃ parsed, parseMacroblockTokens tables width height items before decoders =
        .ok parsed ∧
      parsed.map Macroblock.modes = before.map Macroblock.modes ++
        items.map fun item => item.1.modes
  | [], before, decoders, _ => ⟨before, rfl, (List.append_nil _).symm⟩
  | (mb, links) :: rest, before, decoders, hdecoders => by
      have hlt : mb.row % decoders.length < decoders.length :=
        Nat.mod_lt _ (List.length_pos_iff.mpr hdecoders)
      rw [parseMacroblockTokens]
      simp only [List.getElem?_eq_getElem hlt]
      generalize hcontext : TokenContext.mk _ _ _ _ = context
      obtain ⟨parsed, next, hrun, hmodes⟩ :=
        (Macroblock.parseTokens_completes tables context mb).gives boolDecoder
          decoders[mb.row % decoders.length]
      obtain ⟨all, hall, hrest⟩ := parseMacroblockTokens_completes tables width
        height rest (before ++ [parsed])
        (decoders.set (mb.row % decoders.length) next) (by
          intro hnil
          exact hdecoders (List.length_eq_zero_iff.mp (by
            rw [← List.length_set, hnil]
            rfl)))
      refine ⟨all, ?_, ?_⟩
      · rw [hrun]
        exact hall
      · rw [hrest, List.map_append, List.map_cons, hmodes, List.append_assoc]
        rfl

end Salsify.Codec
