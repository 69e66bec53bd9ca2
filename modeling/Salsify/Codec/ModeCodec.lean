import Salsify.Codec.MotionVectorCodec
import Salsify.Codec.Macroblock

namespace Salsify.Codec

open Salsify.Coder (Probability)
open Salsify.Net (Failure)
open BitParser (Echoes Yields Consumes echoes_pure echoes_fail echoes_valid
  consumes_pure)
open BitWriter (concat)

/-! The prediction modes of macroblocks, as `encoder/serializer.cc` writes
them. -/

/-- `at` -/
def lookup {α : Type} : Option α → Except Failure α
  | some value => .ok value
  | none => .error (.assertion "index < size()")

/-- `get` of an optional -/
def getOptional {α : Type} : Option α → Except Failure α
  | some value => .ok value
  | none => .error (.assertion "initialized()")

def encodeSubblockMode (probs : Square YBlock 4 → Fin 4 → Fin 4 →
      Except Failure (List Probability))
    (Y : Square YBlock 4) (column row : Fin 4) : SymbolWriter :=
  (do
    let probabilities ← probs Y column row
    encodeTreeOf BMode.values bModeTree probabilities
      (Y column row).predictionMode :
    Except Failure (List (Probability × Bool)))

def encodeSubblockModes (mode : MbMode)
    (probs : Square YBlock 4 → Fin 4 → Fin 4 →
      Except Failure (List Probability))
    (places : List (Fin 4 × Fin 4)) (Y : Square YBlock 4) : SymbolWriter :=
  if mode = .bPred then
    concat (places.map fun place =>
      encodeSubblockMode probs Y place.1 place.2)
  else
    .ok []

namespace KeyFrameMacroblock

def bModeProbsOf (context : Context KeyFrameMacroblock) (Y : Square YBlock 4)
    (column row : Fin 4) : Except Failure (List Probability) := do
  let aboveMode := (Square.aboveOf (context.above.map Macroblock.Y) Y column
    row).elim .bDcPred Block.predictionMode
  let leftMode := (Square.leftOf (context.left.map Macroblock.Y) Y column
    row).elim .bDcPred Block.predictionMode
  let rows ← lookup kfBModeProbs[BMode.values.idxOf aboveMode]?
  let probabilities ← lookup rows[BMode.values.idxOf leftMode]?
  return probabilities.toList

def encodePredictionModes (context : Context KeyFrameMacroblock)
    (mb : KeyFrameMacroblock) : SymbolWriter :=
  concat [
    encodeTreeOf MbMode.values kfYModeTree kfYModeProbs mb.Y2.predictionMode,
    encodeSubblockModes mb.Y2.predictionMode (bModeProbsOf context) subblocks
      mb.Y,
    encodeTreeOf MbMode.values uvModeTree kfUvModeProbs
      (mb.U 0 0).predictionMode]

end KeyFrameMacroblock

namespace InterFrameMacroblock

def encodeIntraModes (tables : ProbabilityTables) (mb : InterFrameMacroblock) :
    SymbolWriter :=
  concat [
    encodeTreeOf MbMode.values yModeTree (List.ofFn tables.yModeProbs)
      mb.Y2.predictionMode,
    encodeSubblockModes mb.Y2.predictionMode
      (fun _ _ _ => .ok invariantBModeProbs) subblocks mb.Y,
    encodeTreeOf MbMode.values uvModeTree (List.ofFn tables.uvModeProbs)
      (mb.U 0 0).predictionMode]

def mvRefProbsOf (counts : SafeArray Nat 4) :
    Except Failure (SafeArray Probability 4) := do
  let first ← lookup mvCountsToProbs[counts 0]?
  let second ← lookup mvCountsToProbs[counts 1]?
  let third ← lookup mvCountsToProbs[counts 2]?
  let fourth ← lookup mvCountsToProbs[counts 3]?
  return ![first[0], second[1], third[2], fourth[3]]

/-- What is written of a subblock, given the vectors next to it. -/
def encodeSubblock (leftMv aboveMv bestMv : MotionVector)
    (motionVectorProbs : SafeArray (SafeArray Probability 19) 2)
    (block : YBlock) : SymbolWriter :=
  (encodeTreeOf BMode.values submvRefTree
    (submvRefProbs2.get (submvRefIndex leftMv aboveMv)) block.predictionMode).append
    (if block.predictionMode = .new4x4 then
      MotionVector.encode motionVectorProbs (block.motionVector.sub bestMv)
    else .ok [])

/-- The block has its neighbours in the macroblocks of the context. -/
def writeSubblockInterPrediction (context : Context InterFrameMacroblock)
    (Y : Square YBlock 4) (bestMv : MotionVector)
    (motionVectorProbs : SafeArray (SafeArray Probability 19) 2)
    (column row : Fin 4) : SymbolWriter :=
  let leftMv := (Square.leftOf (context.left.map Macroblock.Y) Y column row).elim
    {} Block.motionVector
  let aboveMv := (Square.aboveOf (context.above.map Macroblock.Y) Y column
    row).elim {} Block.motionVector
  encodeSubblock leftMv aboveMv bestMv motionVectorProbs (Y column row)

def writePartitions (context : Context InterFrameMacroblock)
    (bestMv : MotionVector)
    (motionVectorProbs : SafeArray (SafeArray Probability 19) 2)
    (partitions : List (List (Fin 4 × Fin 4))) (Y : Square YBlock 4) :
    SymbolWriter :=
  concat (partitions.map fun
    | [] => .error (.undefinedBehaviour "front")
    | (column, row) :: _ =>
        writeSubblockInterPrediction context Y bestMv motionVectorProbs column
          row)

def encodeSplit (tables : ProbabilityTables)
    (context : Context InterFrameMacroblock) (bestMv : MotionVector)
    (mb : InterFrameMacroblock) : SymbolWriter :=
  (do
    let partitionId ← getOptional mb.header.partitionId
    let partitions ← lookup mvPartitions[partitionId]?
    BitWriter.append (encodeTree splitMvTree splitMvProbs partitionId)
      (writePartitions context bestMv tables.motionVectorProbs partitions mb.Y) :
    Except Failure (List (Probability × Bool)))

def encodeMotionVectors (tables : ProbabilityTables)
    (context : Context InterFrameMacroblock) (census : Scorer)
    (mb : InterFrameMacroblock) : SymbolWriter :=
  let bestMv := Scorer.clamp census.best context
  if mb.Y2.predictionMode = .newMv then
    MotionVector.encode tables.motionVectorProbs
      ((baseMotionVector mb).sub bestMv)
  else if mb.Y2.predictionMode = .splitMv then
    encodeSplit tables context bestMv mb
  else
    .ok []

def encodeInterModes (tables : ProbabilityTables)
    (context : Context InterFrameMacroblock) (mb : InterFrameMacroblock) :
    SymbolWriter :=
  let census := motionVectorCensus context mb.header.motionVectorsFlipped
  (do
    let probs ← mvRefProbsOf census.modeContexts
    BitWriter.append (encodeTreeOf MbMode.values mvRefTree (List.ofFn probs)
        mb.Y2.predictionMode)
      (encodeMotionVectors tables context census mb) :
    Except Failure (List (Probability × Bool)))

def encodePredictionModes (tables : ProbabilityTables)
    (context : Context InterFrameMacroblock) (mb : InterFrameMacroblock) :
    SymbolWriter :=
  if interCoded mb then encodeInterModes tables context mb
  else encodeIntraModes tables mb

end InterFrameMacroblock

def InterFrameMacroblockHeader.encode (frameHeader : InterFrameHeader)
    (header : InterFrameMacroblockHeader) : SymbolWriter :=
  concat [
    encodeBoolean frameHeader.probInter header.isInterMb,
    encodeOptional (encodeBoolean frameHeader.probReferencesLast)
      header.mbRefFrameSel1,
    encodeOptional (encodeBoolean frameHeader.probReferencesGolden)
      header.mbRefFrameSel2]

namespace Square

variable {α : Type} {size : Nat} [NeZero size]

/-- The neighbours of a place come before it, and no place comes twice. -/
def Ordered : List (Fin size × Fin size) → Prop
  | [] => True
  | (column, row) :: rest =>
      (column ≠ 0 → (column - 1, row) ∉ (column, row) :: rest) ∧
        (row ≠ 0 → (column, row - 1) ∉ (column, row) :: rest) ∧
        (column, row) ∉ rest ∧ Ordered rest

instance decidableOrdered :
    (places : List (Fin size × Fin size)) → Decidable (Ordered places)
  | [] => isTrue trivial
  | (column, row) :: rest =>
      have := decidableOrdered rest
      inferInstanceAs (Decidable (
        (column ≠ 0 → (column - 1, row) ∉ (column, row) :: rest) ∧
          (row ≠ 0 → (column, row - 1) ∉ (column, row) :: rest) ∧
          (column, row) ∉ rest ∧ Ordered rest))

def Settled (places : List (Fin size × Fin size)) (square last : Square α size) :
    Prop :=
  ∀ column row, (column, row) ∉ places → last column row = square column row

omit [NeZero size] in
theorem set_self (square : Square α size) (column row : Fin size) (value : α) :
    square.set column row value column row = value :=
  if_pos ⟨rfl, rfl⟩

omit [NeZero size] in
theorem settled_set (square : Square α size) (column row : Fin size)
    (value : α) {rest : List (Fin size × Fin size)} {last : Square α size}
    (h : Settled rest (square.set column row value) last) :
    Settled ((column, row) :: rest) square last := by
  intro i j hplace
  rw [List.mem_cons, not_or] at hplace
  obtain ⟨hother, hrest⟩ := hplace
  rw [h i j hrest, Square.set, if_neg]
  rintro ⟨rfl, rfl⟩
  exact hother rfl

variable {column row : Fin size} {rest : List (Fin size × Fin size)}
variable {square last : Square α size}

theorem leftOf_settled (hleft : column ≠ 0 → (column - 1, row) ∉ rest)
    (h : Settled rest square last) (left : Option (Square α size)) :
    leftOf left last column row = leftOf left square column row := by
  unfold leftOf
  split
  · rfl
  · next hcolumn => rw [h _ _ (hleft hcolumn)]

theorem aboveOf_settled (habove : row ≠ 0 → (column, row - 1) ∉ rest)
    (h : Settled rest square last) (above : Option (Square α size)) :
    aboveOf above last column row = aboveOf above square column row := by
  unfold aboveOf
  split
  · rfl
  · next hrow => rw [h _ _ (habove hrow)]

end Square

open Square (Ordered Settled)

theorem bModeTree_ordered : TreeOrdered bModeTree := by
  decide

theorem bMode_nodup : BMode.values.Nodup := by
  decide

theorem mbMode_nodup : MbMode.values.Nodup := by
  decide

variable {Answers : Bool → Prop}

theorem impliedSubblockMode_echoes (mode : MbMode) :
    Echoes Answers [] (impliedSubblockMode mode) (impliedSubblockMode mode)
      fun _ => (.ok [] : SymbolWriter) := by
  cases mode with
  | dcPred => exact echoes_pure rfl
  | vPred => exact echoes_pure rfl
  | hPred => exact echoes_pure rfl
  | tmPred => exact echoes_pure rfl
  | _ => exact echoes_fail _ _ _

theorem parseSubblockModes_echoes {mode : MbMode}
    {probs : Square YBlock 4 → Fin 4 → Fin 4 → Parser (List Probability)}
    {probsOf : Square YBlock 4 → Fin 4 → Fin 4 →
      Except Failure (List Probability)}
    (hprobs : ∀ Y column row rest, Ordered ((column, row) :: rest) →
      (probs Y column row).Yields Answers fun probabilities =>
        (∀ last, Settled ((column, row) :: rest) Y last →
          probsOf last column row = .ok probabilities) ∧
        (probs Y column row).Consumes [] probabilities) :
    (places : List (Fin 4 × Fin 4)) → Ordered places →
    (Y : Square YBlock 4) →
    (parseSubblockModes mode probs places Y).Yields Answers fun last =>
      Settled places Y last ∧ ∃ symbols,
        encodeSubblockModes mode probsOf places last = .ok symbols ∧
          (parseSubblockModes mode probs places Y).Consumes symbols last
  | [], _, Y => by
      refine ⟨fun _ _ _ => rfl, [], ?_, rfl, rfl⟩
      unfold encodeSubblockModes
      split <;> rfl
  | (column, row) :: rest, hplaces, Y => by
      obtain ⟨-, -, hfresh, hrest⟩ := id hplaces
      by_cases hmode : mode = .bPred
      · simp only [parseSubblockModes, if_pos hmode]
        apply (hprobs Y column row rest hplaces).bind
        rintro probabilities ⟨hprobabilities, hreads⟩
        apply Yields.bind (treeOf_echoes bModeTree_ordered bMode_nodup
          probabilities)
        rintro subblockMode ⟨bits, hbits, htree⟩
        refine Yields.mono (parseSubblockModes_echoes hprobs rest hrest _) ?_
        rintro last ⟨hlast, symbols, hsymbols, hconsumes⟩
        have hsettled := Square.settled_set Y column row _ hlast
        refine ⟨hsettled, bits ++ symbols, ?_,
          hreads.bind (htree.bind hconsumes)⟩
        have hmine := hlast column row hfresh
        rw [Square.set_self] at hmine
        rw [List.nil_append] at hbits
        rw [encodeSubblockModes, if_pos hmode] at hsymbols ⊢
        rw [List.map_cons, BitWriter.concat_cons, hsymbols, encodeSubblockMode,
          hprobabilities last hsettled, Fallible.ok_bind, hmine, hbits]
        rfl
      · simp only [parseSubblockModes, if_neg hmode]
        apply Yields.bind (impliedSubblockMode_echoes mode)
        rintro subblockMode ⟨bits, hbits, himplied⟩
        cases hbits
        refine Yields.mono (parseSubblockModes_echoes hprobs rest hrest _) ?_
        rintro last ⟨hlast, symbols, hsymbols, hconsumes⟩
        refine ⟨Square.settled_set Y column row _ hlast, symbols, ?_,
          himplied.bind hconsumes⟩
        rw [encodeSubblockModes, if_neg hmode] at hsymbols ⊢
        exact hsymbols

theorem subblocks_ordered : Ordered subblocks := by
  decide

theorem found_reads {α : Type} (value : Option α) :
    (found value).Yields Answers fun result =>
      lookup value = .ok result ∧ (found value).Consumes [] result := by
  cases value with
  | none => trivial
  | some value => exact ⟨rfl, rfl, rfl⟩

theorem KeyFrameMacroblock.bModeProbs_reads
    (context : Context KeyFrameMacroblock) (Y : Square YBlock 4)
    (column row : Fin 4) (rest : List (Fin 4 × Fin 4))
    (h : Ordered ((column, row) :: rest)) :
    (bModeProbs context Y column row).Yields Answers fun probabilities =>
      (∀ last, Settled ((column, row) :: rest) Y last →
        bModeProbsOf context last column row = .ok probabilities) ∧
      (bModeProbs context Y column row).Consumes [] probabilities := by
  obtain ⟨hleft, habove, -⟩ := h
  apply Yields.bind (found_reads _)
  rintro rows ⟨hrows, hreadsRows⟩
  apply Yields.bind (found_reads _)
  rintro probabilities ⟨hprobabilities, hreads⟩
  refine ⟨fun last hlast => ?_,
    hreadsRows.bind (hreads.bind (consumes_pure _))⟩
  unfold bModeProbsOf
  rw [Square.aboveOf_settled habove hlast, Square.leftOf_settled hleft hlast]
  dsimp only
  rw [hrows, Fallible.ok_bind, hprobabilities, Fallible.ok_bind]
  rfl

theorem KeyFrameMacroblock.decodePredictionModes_echoes
    (context : Context KeyFrameMacroblock) (mb : KeyFrameMacroblock) :
    Echoes Answers [] (decodePredictionModes context mb)
      (decodePredictionModes context mb) (encodePredictionModes context) := by
  have hmodes : TreeOrdered kfYModeTree := by decide
  have huvModes : TreeOrdered uvModeTree := by decide
  apply (treeOf_echoes hmodes mbMode_nodup kfYModeProbs).bind
  intro mode first hfirst
  apply Yields.bind (parseSubblockModes_echoes (bModeProbs_reads context)
    subblocks subblocks_ordered mb.Y)
  rintro Y ⟨-, second, hsecond, hreads⟩
  apply Yields.bind (treeOf_echoes huvModes mbMode_nodup kfUvModeProbs)
  rintro uvMode ⟨third, hthird, htree⟩
  refine ⟨second ++ (third ++ []), ?_,
    hreads.bind (htree.bind (consumes_pure _))⟩
  rw [List.nil_append] at hthird
  simp only [encodePredictionModes, Block.setIfCoded_predictionMode,
    Square.set_self, BitWriter.concat_cons, BitWriter.concat_nil, hfirst,
    hsecond, hthird, BitWriter.append_ok, List.nil_append]

namespace InterFrameMacroblock

theorem invariantProbs_reads (Y : Square YBlock 4) (column row : Fin 4)
    (rest : List (Fin 4 × Fin 4)) (_ : Ordered ((column, row) :: rest)) :
    (pure invariantBModeProbs : Parser (List Probability)).Yields Answers
      fun probabilities =>
        (∀ last, Settled ((column, row) :: rest) Y last →
          (fun _ _ _ => .ok invariantBModeProbs : Square YBlock 4 → Fin 4 →
            Fin 4 → Except Failure (List Probability)) last column row =
              .ok probabilities) ∧
        (pure invariantBModeProbs : Parser (List Probability)).Consumes []
          probabilities :=
  And.intro (fun _ _ => rfl) (consumes_pure _)

theorem decodeIntraModes_header (tables : ProbabilityTables)
    (mb : InterFrameMacroblock) :
    (decodeIntraModes tables mb).Yields Answers fun decoded =>
      decoded.header = mb.header := by
  apply (BitParser.yields_trivial _).bind
  intro mode _
  apply (BitParser.yields_trivial _).bind
  intro Y _
  apply (BitParser.yields_trivial _).bind
  intro uvMode _
  rfl

theorem decodeIntraModes_echoes (tables : ProbabilityTables)
    (mb : InterFrameMacroblock) :
    Echoes Answers [] (decodeIntraModes tables mb) (decodeIntraModes tables mb)
      (encodeIntraModes tables) := by
  have hmodes : TreeOrdered yModeTree := by decide
  have huvModes : TreeOrdered uvModeTree := by decide
  apply (treeOf_echoes hmodes mbMode_nodup (List.ofFn tables.yModeProbs)).bind
  intro mode first hfirst
  apply Yields.bind (parseSubblockModes_echoes invariantProbs_reads subblocks
    subblocks_ordered mb.Y)
  rintro Y ⟨-, second, hsecond, hreads⟩
  apply Yields.bind (treeOf_echoes huvModes mbMode_nodup
    (List.ofFn tables.uvModeProbs))
  rintro uvMode ⟨third, hthird, htree⟩
  refine ⟨second ++ (third ++ []), ?_,
    hreads.bind (htree.bind (consumes_pure _))⟩
  rw [List.nil_append] at hthird
  simp only [encodeIntraModes, Block.setIfCoded_predictionMode,
    Square.set_self, BitWriter.concat_cons, BitWriter.concat_nil, hfirst,
    hsecond, hthird, BitWriter.append_ok, List.nil_append]

theorem foundRow_reads {α β : Type} (f : α → β) (value : Option α) :
    (f <$> found value).Yields Answers fun result =>
      (∃ row, lookup value = .ok row ∧ f row = result) ∧
        (f <$> found value).Consumes [] result := by
  cases value with
  | none => trivial
  | some value => exact ⟨⟨value, rfl, rfl⟩, rfl, rfl⟩

theorem mvRefProbs_reads (counts : SafeArray Nat 4) :
    (mvRefProbs counts).Yields Answers fun probs =>
      mvRefProbsOf counts = .ok probs ∧
        (mvRefProbs counts).Consumes [] probs := by
  refine Yields.mono (BitParser.yields_array fun i => foundRow_reads
    (fun row : Vector Probability 4 => row.get i) mvCountsToProbs[counts i]?) ?_
  rintro probs ⟨hprobs, hreads⟩
  obtain ⟨first, hfirst, h0⟩ := hprobs 0
  obtain ⟨second, hsecond, h1⟩ := hprobs 1
  obtain ⟨third, hthird, h2⟩ := hprobs 2
  obtain ⟨fourth, hfourth, h3⟩ := hprobs 3
  refine ⟨?_, hreads⟩
  have hvalues : ![first[0], second[1], third[2], fourth[3]] = probs := by
    funext i
    match i with
    | 0 => exact h0
    | 1 => exact h1
    | 2 => exact h2
    | 3 => exact h3
  rw [mvRefProbsOf, hfirst, Fallible.ok_bind, hsecond, Fallible.ok_bind, hthird,
    Fallible.ok_bind, hfourth, Fallible.ok_bind, hvalues]
  rfl

/-- The first subblock of each partition has its neighbours before it, and no
later partition touches it. -/
def PartitionsOrdered : List (List (Fin 4 × Fin 4)) → Prop
  | [] => True
  | [] :: _ => False
  | ((column, row) :: others) :: rest =>
      (column ≠ 0 →
        (column - 1, row) ∉ (column, row) :: (others ++ rest.flatten)) ∧
      (row ≠ 0 →
        (column, row - 1) ∉ (column, row) :: (others ++ rest.flatten)) ∧
      (column, row) ∉ others ++ rest.flatten ∧ PartitionsOrdered rest

instance decidablePartitionsOrdered :
    (partitions : List (List (Fin 4 × Fin 4))) →
      Decidable (PartitionsOrdered partitions)
  | [] => isTrue trivial
  | [] :: _ => isFalse id
  | ((column, row) :: others) :: rest =>
      have := decidablePartitionsOrdered rest
      inferInstanceAs (Decidable (
        (column ≠ 0 →
          (column - 1, row) ∉ (column, row) :: (others ++ rest.flatten)) ∧
        (row ≠ 0 →
          (column, row - 1) ∉ (column, row) :: (others ++ rest.flatten)) ∧
        (column, row) ∉ others ++ rest.flatten ∧ PartitionsOrdered rest))

theorem mvPartitions_ordered :
    ∀ partitions ∈ mvPartitions, PartitionsOrdered partitions := by
  decide

theorem copySubblock_settled (first : YBlock) :
    (others : List (Fin 4 × Fin 4)) → (Y : Square YBlock 4) →
    Settled others Y (copySubblock Y first others)
  | [], _ => fun _ _ _ => rfl
  | (column, row) :: rest, Y => by
      rw [copySubblock]
      exact Square.settled_set Y column row _
        (copySubblock_settled first rest _)

theorem readSubblockInterPrediction_echoes
    (leftMv aboveMv bestMv : MotionVector)
    (motionVectorProbs : SafeArray (SafeArray Probability 19) 2)
    (block : YBlock) :
    Echoes Answers []
      (readSubblockInterPrediction leftMv aboveMv bestMv motionVectorProbs block)
      (readSubblockInterPrediction leftMv aboveMv bestMv motionVectorProbs block)
      (encodeSubblock leftMv aboveMv bestMv motionVectorProbs) := by
  have htree : TreeOrdered submvRefTree := by decide
  apply (treeOf_echoes htree bMode_nodup _).bind
  intro mode symbols hmode
  have hplain {moved : YBlock} (hmoved : moved.predictionMode = mode)
      (hold : mode ≠ .new4x4) : encodeSubblock leftMv aboveMv bestMv
        motionVectorProbs moved = .ok ([] ++ symbols) := by
    rw [encodeSubblock, hmoved, hmode, if_neg hold]
    simp
  cases mode with
  | left4x4 => exact echoes_pure (hplain rfl (by decide))
  | above4x4 => exact echoes_pure (hplain rfl (by decide))
  | zero4x4 => exact echoes_pure (hplain rfl (by decide))
  | new4x4 =>
      apply (MotionVector.parse_echoes motionVectorProbs).bind_of
        (MotionVector.parse_int16 motionVectorProbs)
      rintro newMv others ⟨hy, hx⟩ hothers
      apply echoes_pure
      rw [encodeSubblock, hmode, if_pos rfl, MotionVector.add_sub hy hx,
        hothers]
      rfl
  | _ => exact echoes_fail _ _ _

theorem parsePartitions_echoes (context : Context InterFrameMacroblock)
    (bestMv : MotionVector)
    (motionVectorProbs : SafeArray (SafeArray Probability 19) 2) :
    (partitions : List (List (Fin 4 × Fin 4))) →
    PartitionsOrdered partitions → (Y : Square YBlock 4) →
    (parsePartitions context bestMv motionVectorProbs partitions Y).Yields
      Answers fun last => Settled partitions.flatten Y last ∧ ∃ symbols,
        writePartitions context bestMv motionVectorProbs partitions last =
            .ok symbols ∧
          (parsePartitions context bestMv motionVectorProbs partitions
            Y).Consumes symbols last
  | [], _, Y => ⟨fun _ _ _ => rfl, [], rfl, rfl, rfl⟩
  | [] :: _, h, _ => h.elim
  | ((column, row) :: others) :: rest, h, Y => by
      obtain ⟨hleft, habove, hfresh, hrest⟩ := h
      rw [List.mem_append, not_or] at hfresh
      obtain ⟨hothers, hlater⟩ := hfresh
      rw [parsePartitions]
      apply Yields.bind (readSubblockInterPrediction_echoes _ _ bestMv
        motionVectorProbs _)
      rintro first ⟨bits, hbits, hfirst⟩
      refine Yields.mono (parsePartitions_echoes context bestMv
        motionVectorProbs rest hrest _) ?_
      rintro last ⟨hlast, symbols, hsymbols, hconsumes⟩
      have hcopied := copySubblock_settled first others (Y.set column row first)
      have hsettled : Settled ((column, row) :: (others ++ rest.flatten)) Y
          last := by
        apply Square.settled_set Y column row first
        intro i j hplace
        rw [List.mem_append, not_or] at hplace
        rw [hlast i j hplace.2, hcopied i j hplace.1]
      have hmine : last column row = first := by
        rw [hlast column row hlater, hcopied column row hothers,
          Square.set_self]
      refine ⟨hsettled, bits ++ symbols, ?_, hfirst.bind hconsumes⟩
      rw [List.nil_append] at hbits
      unfold writePartitions at hsymbols ⊢
      rw [List.map_cons, BitWriter.concat_cons, hsymbols]
      dsimp only
      rw [writeSubblockInterPrediction, Square.leftOf_settled hleft hsettled,
        Square.aboveOf_settled habove hsettled, hmine, hbits]
      rfl

theorem baseMotionVector_setBase (mb : InterFrameMacroblock)
    (mv : MotionVector) :
    baseMotionVector (setBaseMotionVector mb mv) = mv := by
  simp only [baseMotionVector, setBaseMotionVector, Square.set_self]

theorem baseMotionVector_setAll {mb : InterFrameMacroblock}
    (h : mb.Y2.predictionMode ≠ .splitMv) :
    baseMotionVector (setMotionVectors mb) = baseMotionVector mb := by
  unfold setMotionVectors
  rw [baseMotionVector, if_neg h]

theorem setMotionVectors_split {mb : InterFrameMacroblock}
    (h : mb.Y2.predictionMode = .splitMv) :
    (setMotionVectors mb).Y = mb.Y := by
  unfold setMotionVectors
  rw [if_pos h]

def SameMode (mb decoded : InterFrameMacroblock) : Prop :=
  decoded.header.isInterMb = mb.header.isInterMb ∧
    decoded.header.motionVectorsFlipped = mb.header.motionVectorsFlipped ∧
    decoded.Y2 = mb.Y2

theorem decodeMotionVectors_echoes (tables : ProbabilityTables)
    (context : Context InterFrameMacroblock) (census : Scorer)
    (mb : InterFrameMacroblock) :
    (decodeMotionVectors tables context census mb).Yields Answers
      fun decoded => SameMode mb decoded ∧ ∃ symbols,
        encodeMotionVectors tables context census (setMotionVectors decoded) =
            .ok symbols ∧
          (decodeMotionVectors tables context census mb).Consumes symbols
            decoded := by
  have hquiet {decoded : InterFrameMacroblock}
      (hY2 : decoded.Y2 = mb.Y2) (hnew : mb.Y2.predictionMode ≠ .newMv)
      (hsplit : mb.Y2.predictionMode ≠ .splitMv) :
      encodeMotionVectors tables context census (setMotionVectors decoded) =
        .ok [] := by
    have hmode : (setMotionVectors decoded).Y2 = mb.Y2 := hY2
    unfold encodeMotionVectors
    rw [hmode, if_neg hnew, if_neg hsplit]
  unfold decodeMotionVectors
  cases hmode : mb.Y2.predictionMode with
  | nearestMv =>
      exact ⟨⟨rfl, rfl, rfl⟩, [], hquiet rfl (by simp [hmode])
        (by simp [hmode]), rfl, rfl⟩
  | nearMv =>
      exact ⟨⟨rfl, rfl, rfl⟩, [], hquiet rfl (by simp [hmode])
        (by simp [hmode]), rfl, rfl⟩
  | zeroMv =>
      exact ⟨⟨rfl, rfl, rfl⟩, [], hquiet rfl (by simp [hmode])
        (by simp [hmode]), rfl, rfl⟩
  | newMv =>
      apply Yields.bind (Yields.and
        (MotionVector.parse_echoes tables.motionVectorProbs)
        (MotionVector.parse_int16 tables.motionVectorProbs))
      rintro newMv ⟨⟨symbols, hsymbols, hreads⟩, hy, hx⟩
      refine ⟨⟨rfl, rfl, rfl⟩, symbols ++ [], ?_, hreads.bind (consumes_pure _)⟩
      let decoded := setBaseMotionVector mb
        (newMv.add (Scorer.clamp census.best context))
      have hdecoded : (setMotionVectors decoded).Y2.predictionMode = .newMv :=
        hmode
      have hbase : baseMotionVector (setMotionVectors decoded) =
          newMv.add (Scorer.clamp census.best context) := by
        rw [baseMotionVector_setAll (by simp [decoded, setBaseMotionVector,
          hmode]), baseMotionVector_setBase]
      change encodeMotionVectors tables context census
        (setMotionVectors decoded) = _
      unfold encodeMotionVectors
      rw [if_pos hdecoded, hbase, MotionVector.add_sub hy hx, hsymbols]
      simp
  | splitMv =>
      have htree : TreeOrdered splitMvTree := by decide
      apply Yields.bind (tree_echoes htree splitMvProbs)
      rintro partitionId ⟨bits, hbits, hreadsId⟩
      apply Yields.bind (found_reads _)
      rintro partitions ⟨hpartitions, hreadsPartitions⟩
      have hordered : PartitionsOrdered partitions := by
        apply mvPartitions_ordered
        cases hfound : mvPartitions[partitionId]? with
        | none =>
            rw [hfound] at hpartitions
            cases hpartitions
        | some found =>
            rw [hfound] at hpartitions
            cases hpartitions
            exact List.mem_of_getElem? hfound
      apply Yields.bind (parsePartitions_echoes context _ _ partitions hordered
        mb.Y)
      rintro Y ⟨-, symbols, hsymbols, hreads⟩
      refine ⟨⟨rfl, rfl, rfl⟩, bits ++ ([] ++ (symbols ++ [])), ?_,
        hreadsId.bind (hreadsPartitions.bind (hreads.bind (consumes_pure _)))⟩
      let decoded : InterFrameMacroblock := { mb with
        header := { mb.header with partitionId := some partitionId }, Y }
      have hdecoded : (setMotionVectors decoded).Y2.predictionMode = .splitMv :=
        hmode
      have hnew : ¬ (setMotionVectors decoded).Y2.predictionMode = .newMv := by
        rw [hdecoded]
        decide
      have hY : (setMotionVectors decoded).Y = Y :=
        setMotionVectors_split hmode
      have hid : (setMotionVectors decoded).header.partitionId =
          some partitionId := rfl
      change encodeMotionVectors tables context census
        (setMotionVectors decoded) = _
      rw [List.nil_append] at hbits
      unfold encodeMotionVectors encodeSplit
      rw [if_neg hnew, if_pos hdecoded, hid, getOptional, Fallible.ok_bind,
        hpartitions, Fallible.ok_bind, hY, hbits, hsymbols]
      simp
  | _ => trivial

/-- No answer says that data are missing where that would matter. -/
def Unconcealed (errorConcealment : Bool) (Answers : Bool → Prop) : Prop :=
  ∀ answer, Answers answer → (errorConcealment && !answer) = false

theorem decodeInterMode_echoes {errorConcealment : Bool}
    (hanswers : Unconcealed errorConcealment Answers) (census : Scorer)
    (Y2 : Y2Block) :
    (decodeInterMode errorConcealment census Y2).Yields Answers fun decoded =>
      ∃ probs bits, mvRefProbsOf census.modeContexts = .ok probs ∧
        encodeTreeOf MbMode.values mvRefTree (List.ofFn probs)
          decoded.predictionMode = .ok bits ∧
        (decodeInterMode false census Y2).Consumes bits decoded := by
  have htree : TreeOrdered mvRefTree := by decide
  apply Yields.bind (mvRefProbs_reads census.modeContexts)
  rintro probs ⟨hprobs, hreadsProbs⟩ answer hanswer
  dsimp only
  rw [hanswers answer hanswer, if_neg Bool.false_ne_true]
  apply Yields.bind (treeOf_echoes htree mbMode_nodup (List.ofFn probs))
  rintro mode ⟨bits, hbits, hreads⟩
  refine ⟨probs, bits, hprobs, ?_, ?_⟩
  · rw [Block.setIfCoded_predictionMode]
    exact hbits
  · have hdone : ([] ++ (bits ++ []) : List (Probability × Bool)) = bits := by
      simp
    rw [← hdone]
    exact hreadsProbs.bind fun _ => hreads.bind (consumes_pure _)

theorem decodeModes_echoes {errorConcealment : Bool}
    (hanswers : Unconcealed errorConcealment Answers)
    (tables : ProbabilityTables) (context : Context InterFrameMacroblock)
    (mb : InterFrameMacroblock) :
    (decodeModes tables errorConcealment context mb).Yields Answers
      fun decoded => ∃ symbols,
        encodePredictionModes tables context decoded = .ok symbols ∧
        (decodeModes tables false context mb).Consumes symbols decoded := by
  unfold decodeModes
  by_cases hinter : interCoded mb = true
  · rw [if_pos hinter, if_pos hinter]
    apply Yields.bind (decodeInterMode_echoes hanswers
      (motionVectorCensus context mb.header.motionVectorsFlipped) mb.Y2)
    rintro Y2 ⟨probs, bits, hprobs, hbits, hreadsMode⟩
    apply Yields.bind (decodeMotionVectors_echoes tables context _
      { mb with Y2 })
    rintro decoded ⟨⟨hisInter, hflipped, hY2⟩, symbols, hsymbols, hreads⟩
    refine ⟨bits ++ (symbols ++ []), ?_,
      hreadsMode.bind (hreads.bind (consumes_pure _))⟩
    have hinter : interCoded (setMotionVectors decoded) = true :=
      hisInter.trans hinter
    have hsameFlipped :
        (setMotionVectors decoded).header.motionVectorsFlipped =
          mb.header.motionVectorsFlipped := hflipped
    have hsameY2 : (setMotionVectors decoded).Y2 = Y2 := hY2
    rw [encodePredictionModes, if_pos hinter, encodeInterModes, hsameFlipped,
      hprobs, Fallible.ok_bind, hsameY2, hbits, hsymbols]
    simp
  · rw [if_neg hinter, if_neg hinter]
    refine Yields.mono (Yields.and (decodeIntraModes_echoes tables mb)
      (decodeIntraModes_header tables mb)) ?_
    rintro decoded ⟨⟨symbols, hsymbols, hreads⟩, hheader⟩
    refine ⟨symbols, ?_, hreads⟩
    have hintra : ¬ interCoded decoded = true := by
      rw [interCoded, hheader]
      exact hinter
    rw [encodePredictionModes, if_neg hintra]
    exact hsymbols

end InterFrameMacroblock

theorem InterFrameMacroblockHeader.parse_echoes
    (frameHeader : InterFrameHeader) :
    Echoes Answers [] (InterFrameMacroblockHeader.parse frameHeader)
      (InterFrameMacroblockHeader.parse frameHeader)
      (InterFrameMacroblockHeader.encode frameHeader) := by
  apply (boolean_echoes _).bind
  intro isInterMb first hfirst
  apply (optional_echoes (boolean_echoes _) _).bind
  intro mbRefFrameSel1 second hsecond
  apply (optional_echoes (boolean_echoes _) _).bind
  intro mbRefFrameSel2 third hthird
  apply echoes_pure
  simp only [InterFrameMacroblockHeader.encode, BitWriter.concat_cons,
    BitWriter.concat_nil, hfirst, hsecond, hthird, BitWriter.append_ok,
    List.append_assoc, List.nil_append, List.append_nil]

end Salsify.Codec
