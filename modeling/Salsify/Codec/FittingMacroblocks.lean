import Salsify.Codec.FittingHeaders
import Salsify.Codec.MacroblockCodec
import Salsify.Codec.ParserTotality
import Salsify.Codec.TreeWalk

namespace Salsify.Codec

open Salsify.Coder (Probability BoolDecoder)
open Salsify.Net (Failure)
open BitParser (Reaches reaches_pure reaches_array)
open Square (Settled)

/-! Macroblocks whose modes, vectors and coefficients fit what they are sent
as, all of which are read from something. -/

theorem treeOf_reaches {α : Type} {values : List α} {nodes : List TreeNode}
    {probs : List Probability} (h : TreeWellFormed nodes)
    (hprobs : probs.length = nodes.length / 2) {index : Nat} {value : α}
    (hvalue : values[index]? = some value) (hleaf : -(index : Int) ∈ nodes) :
    (treeOf values nodes probs).Reaches value := by
  have hend : ¬ 0 < -(index : Int) := by omega
  obtain ⟨symbols, -, hreads⟩ := encodeTree_leaf h hprobs hleaf hend
  have hindex : (- -(index : Int)).toNat = index := by omega
  rw [hindex] at hreads
  refine Reaches.bind ⟨symbols, hreads⟩ ?_
  rw [hvalue]
  exact reaches_pure value

theorem found_reaches {α : Type} {obj : Option α} {value : α}
    (h : obj = some value) : (found obj).Reaches value := by
  subst h
  exact reaches_pure value

theorem mbMode_reaches {nodes : List TreeNode} {probs : List Probability}
    (h : TreeWellFormed nodes) (hprobs : probs.length = nodes.length / 2)
    {mode : MbMode} (hleaf : mode.leaf ∈ nodes) :
    (treeOf MbMode.values nodes probs).Reaches mode :=
  treeOf_reaches h hprobs (by cases mode <;> rfl) hleaf

theorem bMode_reaches {nodes : List TreeNode} {probs : List Probability}
    (h : TreeWellFormed nodes) (hprobs : probs.length = nodes.length / 2)
    {mode : BMode} (hleaf : mode.leaf ∈ nodes) :
    (treeOf BMode.values nodes probs).Reaches mode :=
  treeOf_reaches h hprobs (by cases mode <;> rfl) hleaf

theorem lumaMode_mem {mode : MbMode} (h : mode.isIntra = true) :
    mode.leaf ∈ kfYModeTree ∧ mode.leaf ∈ yModeTree := by
  revert h
  cases mode <;> decide

theorem chromaMode_mem {mode : MbMode} (h : mode.isWhole = true) :
    mode.leaf ∈ uvModeTree := by
  revert h
  cases mode <;> decide

theorem interMode_mem {mode : MbMode} (h : mode.isIntra = false) :
    mode.leaf ∈ mvRefTree := by
  revert h
  cases mode <;> decide

theorem subblockMode_mem {mode : BMode} (h : mode.isIntra = true) :
    mode.leaf ∈ bModeTree := by
  revert h
  cases mode <;> decide

/-- The modes of the subblocks, as they are sent or follow from the mode of the
macroblock. -/
def SubblockModes (mode : MbMode) (modes : Square BMode 4) : Prop :=
  ∀ column row, (modes column row).isIntra = true ∧
    (mode ≠ .bPred → impliedSubblockMode mode = pure (modes column row))

def setSubblockModes (mode : MbMode) (modes : Square BMode 4) :
    List (Fin 4 × Fin 4) → Square YBlock 4 → Square YBlock 4
  | [], Y => Y
  | (column, row) :: rest, Y =>
      setSubblockModes mode modes rest (Y.set column row { Y column row with
        type := if mode = .bPred then .yWithoutY2 else (Y column row).type
        predictionMode := modes column row })

theorem parseSubblockModes_reaches {mode : MbMode} {modes : Square BMode 4}
    (hmodes : SubblockModes mode modes)
    {probs : Square YBlock 4 → Fin 4 → Fin 4 → Parser (List Probability)}
    (hprobs : ∀ Y, IntraSubblocks Y → ∀ column row, ∃ list : List Probability,
      (probs Y column row).Reaches list ∧ list.length = 9) :
    (places : List (Fin 4 × Fin 4)) → (Y : Square YBlock 4) →
      IntraSubblocks Y →
      (parseSubblockModes mode probs places Y).Reaches
        (setSubblockModes mode modes places Y)
  | [], Y, _ => reaches_pure Y
  | (column, row) :: rest, Y, hY => by
      obtain ⟨hintra, himplied⟩ := hmodes column row
      rw [parseSubblockModes, setSubblockModes]
      split
      · next hbPred =>
        obtain ⟨list, hlist, hlength⟩ := hprobs Y hY column row
        refine hlist.bind ((bMode_reaches (by decide) hlength
          (subblockMode_mem hintra)).bind ?_)
        exact parseSubblockModes_reaches hmodes hprobs rest _ (hY.set hintra)
      · next hwhole =>
        rw [himplied hwhole, BitParser.pure_bind]
        exact parseSubblockModes_reaches hmodes hprobs rest _ (hY.set hintra)

theorem setSubblockModes_apply (mode : MbMode) (modes : Square BMode 4)
    (places : List (Fin 4 × Fin 4)) (Y : Square YBlock 4) (column row : Fin 4) :
    setSubblockModes mode modes places Y column row =
      if (column, row) ∈ places then { Y column row with
        type := if mode = .bPred then .yWithoutY2 else (Y column row).type
        predictionMode := modes column row }
      else Y column row := by
  induction places generalizing Y with
  | nil => rw [setSubblockModes, if_neg List.not_mem_nil]
  | cons place rest ih =>
      obtain ⟨i, j⟩ := place
      rw [setSubblockModes, ih]
      by_cases hplace : column = i ∧ row = j
      · obtain ⟨rfl, rfl⟩ := hplace
        rw [if_pos List.mem_cons_self, Square.set_self]
        split
        · split <;> rfl
        · rfl
      · have hother : (Y.set i j { Y i j with
            type := if mode = .bPred then .yWithoutY2 else (Y i j).type
            predictionMode := modes i j }) column row = Y column row :=
          if_neg hplace
        have hne : (column, row) ≠ (i, j) := fun h => hplace (Prod.mk.inj h)
        rw [hother]
        refine if_congr ?_ rfl rfl
        rw [List.mem_cons, or_iff_right hne]

/-- What the modes of an intra macroblock make of one without them. -/
def Macroblock.withIntraModes {Header : Type} (mb : Macroblock Header)
    (mode : MbMode) (modes : Square BMode 4) (uvMode : MbMode) :
    Macroblock Header :=
  { mb with
    Y2 := Block.setIfCoded { mb.Y2 with predictionMode := mode }
    Y := fun column row => { mb.Y column row with
      type := if mode = .bPred then .yWithoutY2 else (mb.Y column row).type
      predictionMode := modes column row }
    U := mb.U.set 0 0 { mb.U 0 0 with predictionMode := uvMode } }

theorem setSubblockModes_subblocks (mode : MbMode) (modes : Square BMode 4)
    (Y : Square YBlock 4) :
    setSubblockModes mode modes subblocks Y = fun column row =>
      { Y column row with
        type := if mode = .bPred then .yWithoutY2 else (Y column row).type
        predictionMode := modes column row } := by
  funext column row
  have hmem : ∀ column row : Fin 4, (column, row) ∈ subblocks := by decide
  rw [setSubblockModes_apply, if_pos (hmem column row)]

theorem KeyFrameMacroblock.bModeProbs_reaches
    {context : Context KeyFrameMacroblock} (hcontext : ContextIntra context)
    {Y : Square YBlock 4} (hY : IntraSubblocks Y) (column row : Fin 4) :
    ∃ list, (bModeProbs context Y column row).Reaches list ∧
      list.length = 9 := by
  have habove := neighbour_isIntra (above_isIntra hcontext.1 hY column row)
  have hleft := neighbour_isIntra (left_isIntra hcontext.2 hY column row)
  rw [BMode.isIntra, decide_eq_true_eq] at habove hleft
  exact ⟨_, (found_reaches (Vector.getElem?_eq_getElem habove)).bind
    ((found_reaches (Vector.getElem?_eq_getElem hleft)).bind
      (reaches_pure _)), Vector.size_toArray _⟩

theorem KeyFrameMacroblock.decodePredictionModes_reaches
    {context : Context KeyFrameMacroblock} (hcontext : ContextIntra context)
    {mb : KeyFrameMacroblock} (hmb : IntraSubblocks mb.Y) {mode uvMode : MbMode}
    {modes : Square BMode 4} (hmode : mode.isIntra = true)
    (hmodes : SubblockModes mode modes) (huvMode : uvMode.isWhole = true) :
    (decodePredictionModes context mb).Reaches
      (mb.withIntraModes mode modes uvMode) := by
  refine (mbMode_reaches (by decide) rfl (lumaMode_mem hmode).1).bind
    ((parseSubblockModes_reaches hmodes (fun Y hY column row =>
      bModeProbs_reaches hcontext hY column row) subblocks mb.Y hmb).bind
    ((mbMode_reaches (by decide) rfl (chromaMode_mem huvMode)).bind ?_))
  rw [setSubblockModes_subblocks]
  exact reaches_pure _

namespace InterFrameMacroblock

theorem decodeIntraModes_reaches (tables : ProbabilityTables)
    {mb : InterFrameMacroblock} (hmb : IntraSubblocks mb.Y)
    {mode uvMode : MbMode} {modes : Square BMode 4}
    (hmode : mode.isIntra = true) (hmodes : SubblockModes mode modes)
    (huvMode : uvMode.isWhole = true) :
    (decodeIntraModes tables mb).Reaches
      (mb.withIntraModes mode modes uvMode) := by
  refine (mbMode_reaches (by decide) List.length_ofFn
    (lumaMode_mem hmode).2).bind
    ((parseSubblockModes_reaches hmodes (fun _ _ _ _ =>
      ⟨invariantBModeProbs, reaches_pure _, rfl⟩) subblocks mb.Y hmb).bind
    ((mbMode_reaches (by decide) List.length_ofFn
      (chromaMode_mem huvMode)).bind ?_))
  rw [setSubblockModes_subblocks]
  exact reaches_pure _

theorem mvRefProbs_reaches {counts : SafeArray Nat 4}
    (h : ∀ index, counts index ≤ 5) :
    ∃ probs, (mvRefProbs counts).Reaches probs := by
  have hlt : ∀ index, counts index < 6 := fun index =>
    Nat.lt_succ_of_le (h index)
  exact ⟨fun index => (mvCountsToProbs.get ⟨counts index, hlt index⟩).get index,
    reaches_array fun index =>
      (found_reaches (Vector.getElem?_eq_getElem (hlt index))).map _⟩

/-- The vector that a mode other than `SPLITMV` gives. A new vector is the best
one and a difference that can be sent. -/
def ModeVector (census : Scorer) (context : Context InterFrameMacroblock)
    (mode : MbMode) (mv : MotionVector) : Prop :=
  match mode with
  | .nearestMv => mv = Scorer.clamp census.nearest context
  | .nearMv => mv = Scorer.clamp census.near context
  | .zeroMv => mv = {}
  | .newMv => ∃ newMv, (∀ motionVectorProbs,
      (MotionVector.parse motionVectorProbs).Reaches newMv) ∧
        mv = newMv.add (Scorer.clamp census.best context)
  | _ => False

/-- What a mode and its vector make of an inter macroblock without them. -/
def withInterMode (mb : InterFrameMacroblock) (mode : MbMode)
    (mv : MotionVector) : InterFrameMacroblock :=
  setMotionVectors (setBaseMotionVector { mb with
    Y2 := { mb.Y2 with predictionMode := mode } } mv)

theorem ModeVector.cases {census : Scorer}
    {context : Context InterFrameMacroblock} {mode : MbMode} {mv : MotionVector}
    (h : ModeVector census context mode mv) :
    mode.isIntra = false ∧ mode ≠ .bPred ∧ mode ≠ .splitMv := by
  cases mode with
  | nearestMv | nearMv | zeroMv | newMv => exact ⟨rfl, nofun, nofun⟩
  | _ => cases h

theorem decodeMotionVectors_reaches (tables : ProbabilityTables)
    {census : Scorer} {context : Context InterFrameMacroblock} {mode : MbMode}
    {mv : MotionVector} (h : ModeVector census context mode mv)
    (mb : InterFrameMacroblock) (hmode : mb.Y2.predictionMode = mode) :
    (decodeMotionVectors tables context census mb).Reaches
      (setBaseMotionVector mb mv) := by
  unfold decodeMotionVectors
  rw [hmode]
  cases mode with
  | nearestMv | nearMv | zeroMv =>
      obtain rfl := h
      exact reaches_pure _
  | newMv =>
      obtain ⟨newMv, hnew, rfl⟩ := h
      exact (hnew tables.motionVectorProbs).bind (reaches_pure _)
  | _ => cases h

theorem decodeInterMode_reaches (context : Context InterFrameMacroblock)
    (flipped : Bool) {mode : MbMode} (hintra : mode.isIntra = false)
    (Y2 : Y2Block) :
    (decodeInterMode false (motionVectorCensus context flipped) Y2).Reaches
      (Block.setIfCoded { Y2 with predictionMode := mode }) := by
  obtain ⟨probs, hprobs⟩ := mvRefProbs_reaches
    (motionVectorCensus_bounded context flipped).modeContexts
  have hread : (treeOf MbMode.values mvRefTree (List.ofFn probs)).Reaches
      mode :=
    mbMode_reaches (by decide) List.length_ofFn (interMode_mem hintra)
  exact hprobs.bind (Reaches.unasked (hread.bind (reaches_pure _))
    fun answer => if_neg Bool.false_ne_true)

theorem decodeInterModes_reaches (tables : ProbabilityTables)
    {context : Context InterFrameMacroblock} {mb : InterFrameMacroblock}
    (hinter : interCoded mb = true) {mode : MbMode} {mv : MotionVector}
    (h : ModeVector (motionVectorCensus context
      mb.header.motionVectorsFlipped) context mode mv) :
    (decodeModes tables false context mb).Reaches (withInterMode mb mode mv) := by
  obtain ⟨hintra, hbPred, hsplit⟩ := h.cases
  have hcoded : Block.setIfCoded { mb.Y2 with predictionMode := mode } =
      { mb.Y2 with predictionMode := mode } :=
    if_neg fun hmode => hmode.elim hbPred hsplit
  have hmode := decodeInterMode_reaches context mb.header.motionVectorsFlipped
    hintra mb.Y2
  rw [hcoded] at hmode
  rw [decodeModes, if_pos hinter]
  exact hmode.bind ((decodeMotionVectors_reaches tables h _ rfl).bind
    (reaches_pure _))

/-! Split macroblocks. -/

def PartitionVector (leftMv aboveMv bestMv : MotionVector) (mode : BMode)
    (mv : MotionVector) : Prop :=
  match mode with
  | .left4x4 => mv = leftMv
  | .above4x4 => mv = aboveMv
  | .zero4x4 => mv = {}
  | .new4x4 => ∃ newMv, (∀ motionVectorProbs,
      (MotionVector.parse motionVectorProbs).Reaches newMv) ∧
        mv = newMv.add bestMv
  | _ => False

/-- Each partition has the mode and the vector of its first subblock. -/
def Splits (context : Context InterFrameMacroblock) (bestMv : MotionVector)
    (partitions : List (List (Fin 4 × Fin 4))) (Y : Square YBlock 4) : Prop :=
  ∀ column row others, (column, row) :: others ∈ partitions →
    PartitionVector
      ((Square.leftOf (context.left.map Macroblock.Y) Y column row).elim {}
        Block.motionVector)
      ((Square.aboveOf (context.above.map Macroblock.Y) Y column row).elim {}
        Block.motionVector)
      bestMv (Y column row).predictionMode (Y column row).motionVector ∧
    ∀ place ∈ others,
      (Y place.1 place.2).predictionMode = (Y column row).predictionMode ∧
      (Y place.1 place.2).motionVector = (Y column row).motionVector

theorem splitMode_mem {leftMv aboveMv bestMv mv : MotionVector} {mode : BMode}
    (h : PartitionVector leftMv aboveMv bestMv mode mv) :
    mode.leaf ∈ submvRefTree := by
  cases mode with
  | left4x4 | above4x4 | zero4x4 | new4x4 => decide
  | _ => cases h

theorem readSubblockInterPrediction_reaches
    {leftMv aboveMv bestMv mv : MotionVector} {mode : BMode}
    (h : PartitionVector leftMv aboveMv bestMv mode mv)
    (motionVectorProbs : SafeArray (SafeArray Probability 19) 2)
    {block : YBlock} (hblock : block.motionVector = {}) :
    (readSubblockInterPrediction leftMv aboveMv bestMv motionVectorProbs
      block).Reaches { block with
        predictionMode := mode, motionVector := mv } := by
  have hprobs : ∀ index : Fin 5, (submvRefProbs2.get index).length = 3 := by
    decide
  refine (bMode_reaches (by decide) (hprobs _) (splitMode_mem h)).bind ?_
  cases mode with
  | left4x4 | above4x4 =>
      obtain rfl := h
      exact reaches_pure _
  | zero4x4 =>
      obtain rfl := h
      rw [← hblock]
      exact reaches_pure _
  | new4x4 =>
      obtain ⟨newMv, hnew, rfl⟩ := h
      exact (hnew motionVectorProbs).bind (reaches_pure _)
  | _ => cases h

/-- A subblock that gets its mode and its vector when its partition is read. -/
def Awaits (block last : YBlock) : Prop :=
  block.motionVector = {} ∧ last = { block with
    type := .yWithoutY2
    predictionMode := last.predictionMode
    motionVector := last.motionVector }

theorem copySubblock_awaited {first : YBlock} {last : Square YBlock 4} :
    (others : List (Fin 4 × Fin 4)) → (Y : Square YBlock 4) →
    others.Nodup →
    (∀ place ∈ others, Awaits (Y place.1 place.2) (last place.1 place.2) ∧
      (last place.1 place.2).predictionMode = first.predictionMode ∧
      (last place.1 place.2).motionVector = first.motionVector) →
    ∀ place ∈ others, copySubblock Y first others place.1 place.2 =
      last place.1 place.2
  | [], _, _, _ => fun _ h => absurd h List.not_mem_nil
  | (column, row) :: rest, Y, hnodup, h => by
      obtain ⟨hfresh, hrest⟩ := List.nodup_cons.mp hnodup
      rw [copySubblock]
      have hothers : ∀ place ∈ rest, (Y.set column row { Y column row with
          predictionMode := first.predictionMode
          motionVector := first.motionVector
          type := .yWithoutY2 }) place.1 place.2 = Y place.1 place.2 := by
        intro place hplace
        refine if_neg fun hsame => hfresh ?_
        rw [← hsame.1, ← hsame.2]
        exact hplace
      intro place hplace
      rcases List.mem_cons.mp hplace with rfl | hlater
      · obtain ⟨⟨-, hlast⟩, hmode, hmv⟩ := h _ List.mem_cons_self
        rw [copySubblock_settled first rest _ column row hfresh,
          Square.set_self, hlast, hmode, hmv]
      · refine copySubblock_awaited rest _ hrest (fun place hplace => ?_) place
          hlater
        rw [hothers place hplace]
        exact h place (List.mem_cons_of_mem _ hplace)

theorem parsePartitions_reaches {context : Context InterFrameMacroblock}
    {bestMv : MotionVector}
    (motionVectorProbs : SafeArray (SafeArray Probability 19) 2)
    {last : Square YBlock 4} :
    (partitions : List (List (Fin 4 × Fin 4))) →
    PartitionsOrdered partitions → partitions.flatten.Nodup →
    Splits context bestMv partitions last →
    (Y : Square YBlock 4) → Settled partitions.flatten Y last →
    (∀ place ∈ partitions.flatten,
      Awaits (Y place.1 place.2) (last place.1 place.2)) →
    (parsePartitions context bestMv motionVectorProbs partitions Y).Reaches last
  | [], _, _, _, Y, hsettled, _ => by
      have hlast : last = Y := by
        funext column row
        exact hsettled column row List.not_mem_nil
      rw [hlast]
      exact reaches_pure Y
  | [] :: _, h, _, _, _, _, _ => h.elim
  | ((column, row) :: others) :: rest, h, hnodup, hsplits, Y, hsettled,
      hawaits => by
      obtain ⟨hleft, habove, -, hrest⟩ := h
      change ((column, row) :: (others ++ rest.flatten)).Nodup at hnodup
      change Settled ((column, row) :: (others ++ rest.flatten)) Y last
        at hsettled
      change ∀ place ∈ (column, row) :: (others ++ rest.flatten), _ at hawaits
      obtain ⟨hfresh, hlater⟩ := List.nodup_cons.mp hnodup
      obtain ⟨hothers, hrestNodup, hapart⟩ := List.nodup_append.mp hlater
      obtain ⟨hvector, hsame⟩ := hsplits column row others List.mem_cons_self
      obtain ⟨hblank, hfirst⟩ := hawaits (column, row) List.mem_cons_self
      dsimp only at hblank hfirst
      have hread := readSubblockInterPrediction_reaches hvector
        motionVectorProbs
        (show ({ Y column row with type := .yWithoutY2 } : YBlock).motionVector =
          {} from hblank)
      rw [Square.leftOf_settled hleft hsettled,
        Square.aboveOf_settled habove hsettled, ← hfirst] at hread
      rw [parsePartitions]
      refine hread.bind ?_
      -- the partition is as it will be, and the later ones as they were
      let started := Y.set column row (last column row)
      have hstarted : ∀ place ≠ (column, row),
          started place.1 place.2 = Y place.1 place.2 := by
        intro place hplace
        exact if_neg fun hsame => hplace (Prod.ext hsame.1 hsame.2)
      have hne : ∀ place ∈ others ++ rest.flatten, place ≠ (column, row) := by
        rintro place hplace rfl
        exact hfresh hplace
      have hcopied := copySubblock_settled (last column row) others started
      have hmine := copySubblock_awaited others started hothers
        fun place hplace => by
          have hmem := List.mem_append_left rest.flatten hplace
          rw [hstarted place (hne place hmem)]
          exact ⟨hawaits place (List.mem_cons_of_mem _ hmem),
            hsame place hplace⟩
      have hkept : ∀ place ∈ rest.flatten,
          copySubblock started (last column row) others place.1 place.2 =
            Y place.1 place.2 := by
        intro place hplace
        rw [hcopied place.1 place.2 fun hmem => hapart _ hmem _ hplace rfl,
          hstarted place (hne place (List.mem_append_right _ hplace))]
      refine parsePartitions_reaches motionVectorProbs rest hrest hrestNodup
        (fun column row others hmem => hsplits column row others
          (List.mem_cons_of_mem _ hmem)) _ (fun i j hplace => ?_)
        fun place hplace => ?_
      · by_cases hmem : (i, j) ∈ others
        · exact (hmine (i, j) hmem).symm
        · rw [hcopied i j hmem]
          by_cases hfirstPlace : (i, j) = (column, row)
          · obtain ⟨rfl, rfl⟩ := Prod.mk.inj hfirstPlace
            exact (Square.set_self Y i j _).symm
          · rw [hstarted (i, j) hfirstPlace]
            refine hsettled i j ?_
            rw [List.mem_cons, List.mem_append]
            exact not_or.mpr ⟨hfirstPlace, not_or.mpr ⟨hmem, hplace⟩⟩
      · rw [hkept place hplace]
        exact hawaits place (List.mem_cons_of_mem _
          (List.mem_append_right _ hplace))

theorem mvPartitions_cover : ∀ partitions ∈ mvPartitions,
    partitions.flatten.Nodup ∧
      ∀ column row, (column, row) ∈ partitions.flatten := by
  decide

theorem partitionId_reaches {partitionId : Nat}
    {partitions : List (List (Fin 4 × Fin 4))}
    (h : mvPartitions[partitionId]? = some partitions) :
    (tree splitMvTree splitMvProbs).Reaches partitionId := by
  have hlt : partitionId < 4 := (List.getElem?_eq_some_iff.mp h).1
  have hleaf : ∀ partitionId : Nat, partitionId < 4 →
      -(partitionId : Int) ∈ splitMvTree := by decide
  have hend : ¬ 0 < -(partitionId : Int) := by omega
  have hlength : splitMvProbs.length = splitMvTree.length / 2 := rfl
  obtain ⟨symbols, -, hreads⟩ :=
    encodeTree_leaf (by decide) hlength (hleaf _ hlt) hend
  have hindex : (- -(partitionId : Int)).toNat = partitionId := by omega
  rw [hindex] at hreads
  exact ⟨symbols, hreads⟩

/-- What the modes of the partitions make of an inter macroblock without
them. -/
def withSplitModes (mb : InterFrameMacroblock) (Y : Square YBlock 4) :
    InterFrameMacroblock :=
  setMotionVectors { mb with
    Y2 := Block.setIfCoded { mb.Y2 with predictionMode := .splitMv }
    Y := fun column row => { mb.Y column row with
      type := .yWithoutY2
      predictionMode := (Y column row).predictionMode
      motionVector := (Y column row).motionVector } }

theorem decodeSplitModes_reaches (tables : ProbabilityTables)
    {context : Context InterFrameMacroblock} {mb : InterFrameMacroblock}
    (hinter : interCoded mb = true) {partitionId : Nat}
    {partitions : List (List (Fin 4 × Fin 4))}
    (hpartitions : mvPartitions[partitionId]? = some partitions)
    {last : Square YBlock 4}
    (hsplits : Splits context (Scorer.clamp (motionVectorCensus context
      mb.header.motionVectorsFlipped).best context) partitions last)
    (hlast : ∀ column row, Awaits (mb.Y column row) (last column row)) :
    (decodeModes tables false context mb).Reaches (withSplitModes { mb with
      header := { mb.header with partitionId := some partitionId } } last) := by
  have hY : last = fun column row => { mb.Y column row with
      type := .yWithoutY2
      predictionMode := (last column row).predictionMode
      motionVector := (last column row).motionVector } := by
    funext column row
    exact (hlast column row).2
  have hmem := List.mem_of_getElem? hpartitions
  obtain ⟨hnodup, hcover⟩ := mvPartitions_cover partitions hmem
  have hread := parsePartitions_reaches tables.motionVectorProbs partitions
    (mvPartitions_ordered partitions hmem) hnodup hsplits mb.Y
    (fun column row hplace => absurd (hcover column row) hplace)
    fun place _ => hlast place.1 place.2
  have hmode := decodeInterMode_reaches context mb.header.motionVectorsFlipped
    (show MbMode.isIntra .splitMv = false from rfl) mb.Y2
  rw [decodeModes, if_pos hinter, withSplitModes]
  dsimp only
  rw [← hY]
  refine hmode.bind (Reaches.bind ?_ (reaches_pure _))
  unfold decodeMotionVectors
  rw [Block.setIfCoded_predictionMode]
  exact (partitionId_reaches hpartitions).bind
    ((found_reaches hpartitions).bind (hread.bind (reaches_pure _)))

structure HeaderFits (frameHeader : InterFrameHeader)
    (header : InterFrameMacroblockHeader) : Prop where
  mbRefFrameSel1 : header.mbRefFrameSel1.isSome = header.isInterMb
  mbRefFrameSel2 : header.mbRefFrameSel2.isSome =
    header.mbRefFrameSel1.getD false
  motionVectorsFlipped : header.motionVectorsFlipped =
    ((header.reference = some .goldenFrame && frameHeader.signBiasGolden) ||
      (header.reference = some .altrefFrame && frameHeader.signBiasAlternate))

theorem HeaderFits.reaches {frameHeader : InterFrameHeader}
    {header : InterFrameMacroblockHeader} (h : HeaderFits frameHeader header) :
    (InterFrameMacroblockHeader.parse frameHeader).Reaches
      { header with partitionId := none } := by
  obtain ⟨isInterMb, mbRefFrameSel1, mbRefFrameSel2, flipped, partitionId⟩ :=
    header
  refine (flag_reaches isInterMb frameHeader.probInter).bind ?_
  refine (optional_reaches h.mbRefFrameSel1 fun selected _ =>
    flag_reaches selected _).bind ?_
  refine (optional_reaches h.mbRefFrameSel2 fun selected _ =>
    flag_reaches selected _).bind ?_
  have hflipped : flipped =
      ((referenceOf isInterMb mbRefFrameSel1 mbRefFrameSel2 =
          some .goldenFrame && frameHeader.signBiasGolden) ||
        (referenceOf isInterMb mbRefFrameSel1 mbRefFrameSel2 =
          some .altrefFrame && frameHeader.signBiasAlternate)) :=
    h.motionVectorsFlipped
  subst hflipped
  exact reaches_pure _

end InterFrameMacroblock

section Headers

variable {FrameHeader MacroblockHeader : Type}
  [HeaderType FrameHeader MacroblockHeader]

structure Macroblock.Announced (header : FrameHeader)
    (mb : Macroblock MacroblockHeader) : Prop where
  segmentIdUpdate : mb.segmentIdUpdate.isSome =
    (HeaderType.updateSegmentation header).elim false
      UpdateSegmentation.updateMbSegmentationMap
  segment : ∀ segment ∈ mb.segmentIdUpdate, segment.toNat < 4
  mbSkipCoeff : mb.mbSkipCoeff.isSome =
    (HeaderType.probSkipFalse header).isSome

theorem segment_reaches {segment : UInt8} (h : segment.toNat < 4)
    {mbSegmentTreeProbs : List Probability}
    (hlength : mbSegmentTreeProbs.length = 3) :
    (do
      let segment ← tree segmentIdTree mbSegmentTreeProbs
      return UInt8.ofNat segment : Parser UInt8).Reaches segment := by
  have hleaf : ∀ segment : Nat, segment < 4 →
      -(segment : Int) ∈ segmentIdTree := by decide
  have hend : ¬ 0 < -(segment.toNat : Int) := by omega
  obtain ⟨symbols, -, hreads⟩ := encodeTree_leaf (by decide) hlength
    (hleaf _ h) hend
  have hindex : (- -(segment.toNat : Int)).toNat = segment.toNat := by omega
  rw [hindex] at hreads
  refine Reaches.bind ⟨symbols, hreads⟩ ?_
  rw [UInt8.ofNat_toNat]
  exact reaches_pure segment

def Macroblock.fresh (mb : Macroblock MacroblockHeader) :
    Macroblock MacroblockHeader where
  column := mb.column
  row := mb.row
  segmentIdUpdate := mb.segmentIdUpdate
  mbSkipCoeff := mb.mbSkipCoeff
  header := mb.header

theorem Macroblock.parse_reaches {header : FrameHeader}
    {tables : ProbabilityTables} {context : Context (Macroblock MacroblockHeader)}
    {mb parsed : Macroblock MacroblockHeader} (h : mb.Announced header)
    (hplace : mb.place = (context.column, context.row))
    (hheader : (HeaderType.parseMacroblockHeader header).Reaches mb.header)
    (hmodes : (HeaderType.decodePredictionModes FrameHeader tables false
      context mb.fresh).Reaches parsed) :
    (Macroblock.parse header (calculateMbSegmentTreeProbs
      (HeaderType.updateSegmentation header)) tables false context).Reaches
        parsed := by
  have hunasked {α : Type} (probed : Parser α) : ∀ answer : Bool,
      (if (false && !answer) = true then
        probed.answeredBy boolDecoder BoolDecoder.zeroDecoder
      else probed) = probed := fun _ => if_neg Bool.false_ne_true
  have hsegment : (orZero false (parseSegmentIdUpdate header
      (calculateMbSegmentTreeProbs
        (HeaderType.updateSegmentation header)))).Reaches mb.segmentIdUpdate :=
    Reaches.unasked (optional_reaches h.segmentIdUpdate fun segment hsegment =>
      segment_reaches (h.segment segment hsegment)
        (calculateMbSegmentTreeProbs_length _)) (hunasked _)
  have hskip : (orZero false (parseMbSkipCoeff header)).Reaches
      mb.mbSkipCoeff :=
    Reaches.unasked (optional_reaches h.mbSkipCoeff fun skip _ =>
      flag_reaches skip _) (hunasked _)
  obtain ⟨hcolumn, hrow⟩ := Prod.mk.inj hplace
  refine hsegment.bind (hskip.bind ((Reaches.unasked hheader fun answer =>
    if_neg Bool.false_ne_true).bind ?_))
  rw [← hcolumn, ← hrow]
  exact hmodes

theorem parseMacroblocks_reaches {header : FrameHeader}
    {tables : ProbabilityTables} {width height : Nat}
    {before new : List (Macroblock MacroblockHeader)}
    (h : ∀ front mb rest, new = front ++ mb :: rest →
      (Macroblock.parse header (calculateMbSegmentTreeProbs
        (HeaderType.updateSegmentation header)) tables false
          (contextAt width height (before ++ front) mb.place)).Reaches mb) :
    (parseMacroblocks header tables false width height
      (new.map Macroblock.place) before).Reaches (before ++ new) := by
  induction new generalizing before with
  | nil =>
      rw [List.append_nil]
      exact reaches_pure before
  | cons mb rest ih =>
      have hfirst := h [] mb rest rfl
      rw [List.append_nil] at hfirst
      rw [List.map_cons, parseMacroblocks, List.append_cons]
      refine hfirst.bind (ih fun front other after hsplit => ?_)
      have hother := h (mb :: front) other after (congrArg (List.cons mb) hsplit)
      rw [List.append_cons] at hother
      exact hother

end Headers

end Salsify.Codec
