import Salsify.Codec.ChromaVectors
import Salsify.Codec.FittingMacroblocks
import Salsify.Codec.FrameCodec

namespace Salsify.Codec

open Salsify.Coder (Probability BoolDecoder)
open Salsify.Net (Chunk Failure)
open BitParser (Reaches reaches_pure reaches_get Consumes consumes_pure)
open Fallible (ok_bind)

/-! Frames that are large enough for the sum of four luma vectors not to fit in
16 bits. In the runs below every macroblock takes a new vector, the longest one
up and to the left of what it is predicted from. -/

namespace Scorer

open InterFrameMacroblock (interCoded baseMotionVector)

structure Counts (Q : MotionVector → Prop) (mb : InterFrameMacroblock) :
    Prop where
  inter : interCoded mb = true
  flipped : mb.header.motionVectorsFlipped = false
  nonempty : (baseMotionVector mb).empty = false
  chosen : Q (baseMotionVector mb)

structure Gathered (Q : MotionVector → Prop) (count : Nat) (scorer : Scorer) :
    Prop where
  flipped : scorer.motionVectorsFlipped = false
  zero : scorer.scores 0 = 0
  still : scorer.motionVectors 0 = {}
  index_le : scorer.index.val ≤ count
  chosen : ∀ i, i ≠ 0 → 0 < scorer.scores i → Q (scorer.motionVectors i)
  latest : scorer.index ≠ 0 → 0 < scorer.scores scorer.index
  first : scorer.index ≠ 0 → 0 < scorer.scores 1

variable {Q : MotionVector → Prop} {count : Nat} {scorer : Scorer}

theorem gathered_start :
    Gathered Q 0 { motionVectorsFlipped := false } where
  flipped := rfl
  zero := rfl
  still := rfl
  index_le := Nat.le_refl 0
  chosen _ _ h := absurd h (Nat.lt_irrefl 0)
  latest h := absurd rfl h
  first h := absurd rfl h

theorem Gathered.addTo (h : Gathered Q count scorer) {score : Nat}
    (hscore : 0 < score) {index : Fin 4} (hindex : index ≠ 0)
    (hcount : index.val ≤ count + 1)
    (hfirst : index ≠ 1 → scorer.index ≠ 0)
    {motionVectors : SafeArray MotionVector 4}
    (hstill : motionVectors 0 = {}) (hQ : Q (motionVectors index))
    (hothers : ∀ i, i ≠ index → motionVectors i = scorer.motionVectors i) :
    Gathered Q (count + 1)
      (({ scorer with motionVectors } : Scorer).addTo index score) := by
  have hself : (({ scorer with motionVectors } : Scorer).addTo index
      score).scores index = scorer.scores index + score :=
    Function.update_self ..
  have hother (i : Fin 4) (hi : i ≠ index) :
      (({ scorer with motionVectors } : Scorer).addTo index score).scores i =
        scorer.scores i :=
    Function.update_of_ne hi ..
  refine ⟨h.flipped, (hother 0 hindex.symm).trans h.zero, hstill, hcount,
    ?_, ?_, ?_⟩
  · intro i hi hpositive
    by_cases heq : i = index
    · rw [heq]
      exact hQ
    · rw [hother i heq] at hpositive
      have hchosen := h.chosen i hi hpositive
      rw [← hothers i heq] at hchosen
      exact hchosen
  · intro _
    change 0 < (({ scorer with motionVectors } : Scorer).addTo index
      score).scores index
    omega
  · intro _
    by_cases hone : index = 1
    · rw [← hone, hself]
      omega
    · rw [hother 1 fun heq => hone heq.symm]
      exact h.first (hfirst hone)

theorem Gathered.add (h : Gathered Q count scorer) (hcount : count < 3)
    {score : Nat} (hscore : 0 < score) {neighbour : Option InterFrameMacroblock}
    (hneighbour : ∀ mb, neighbour = some mb → Counts Q mb) :
    Gathered Q (count + 1) (scorer.add score neighbour) ∧
      (neighbour ≠ none ∨ scorer.index ≠ 0 →
        (scorer.add score neighbour).index ≠ 0) := by
  cases neighbour with
  | none =>
      refine ⟨{ h with index_le := h.index_le.trans (Nat.le_succ count) }, ?_⟩
      intro hor
      exact hor.resolve_left fun hne => hne rfl
  | some mb =>
      obtain ⟨hinter, hflipped, hnonempty, hchosen⟩ := hneighbour mb rfl
      have hscored : Gathered Q (count + 1)
          (scorer.addVector score (baseMotionVector mb)) ∧
          (scorer.addVector score (baseMotionVector mb)).index ≠ 0 := by
        unfold addVector
        rw [hnonempty, if_neg Bool.false_ne_true]
        split
        · next hsame =>
            have hindex : scorer.index ≠ 0 := by
              intro hzero
              rw [hzero, h.still] at hsame
              rw [hsame] at hnonempty
              cases hnonempty
            refine ⟨?_, hindex⟩
            exact h.addTo hscore hindex (h.index_le.trans (Nat.le_succ count))
              (fun _ => hindex) h.still (hsame ▸ hchosen) fun _ _ => rfl
        · have hle := h.index_le
          have hval : (scorer.index + 1).val = scorer.index.val + 1 :=
            Fin.val_add_one_of_lt' (by omega)
          have hindex : scorer.index + 1 ≠ 0 := by
            intro hzero
            rw [hzero] at hval
            cases hval
          refine ⟨?_, hindex⟩
          refine h.addTo hscore hindex (by omega) ?_ ?_ ?_ ?_
          · intro hone hzero
            rw [hzero] at hone
            exact hone rfl
          · rw [Function.update_of_ne hindex.symm]
            exact h.still
          · rw [Function.update_self]
            exact hchosen
          · intro i hi
            exact Function.update_of_ne hi ..
      have hadd : Gathered Q (count + 1) (scorer.add score (some mb)) ∧
          (scorer.add score (some mb)).index ≠ 0 := by
        simp only [Scorer.add, hinter, if_true, hflipped, h.flipped, ne_eq,
          not_true_eq_false, if_false]
        split
        · exact ⟨{ hscored.1 with }, hscored.2⟩
        · exact hscored
      exact ⟨hadd.1, fun _ => hadd.2⟩

theorem Gathered.best (h : Gathered Q count scorer)
    (hindex : scorer.index ≠ 0) : Q scorer.calculate.best := by
  have hmerged : scorer.mergeThird.scores 0 = 0 ∧
      scorer.mergeThird.motionVectors = scorer.motionVectors ∧
      scorer.mergeThird.scores 2 = scorer.scores 2 := by
    unfold mergeThird
    split
    · exact ⟨h.zero, rfl, rfl⟩
    · exact ⟨h.zero, rfl, rfl⟩
  obtain ⟨hzero, hvectors, htwo⟩ := hmerged
  have hsorted : scorer.mergeThird.sortFirstTwo.scores 0 = 0 ∧
      Q (scorer.mergeThird.sortFirstTwo.motionVectors 1) := by
    unfold sortFirstTwo
    split
    · next hmore =>
        refine ⟨hzero, ?_⟩
        change Q (scorer.mergeThird.motionVectors 2)
        rw [hvectors]
        exact h.chosen 2 (by decide) (by omega)
    · refine ⟨hzero, ?_⟩
      rw [hvectors]
      exact h.chosen 1 (by decide) (h.first hindex)
  unfold calculate chooseBest
  rw [hsorted.1, if_pos (Nat.zero_le _)]
  exact hsorted.2

end Scorer

namespace InterFrameMacroblock

open Scorer (Counts Gathered gathered_start)

theorem census_best {Q : MotionVector → Prop}
    {context : Context InterFrameMacroblock}
    (habove : ∀ mb, context.above = some mb → Counts Q mb)
    (hleft : ∀ mb, context.left = some mb → Counts Q mb)
    (haboveLeft : ∀ mb, context.aboveLeft = some mb → Counts Q mb)
    (hany : context.above ≠ none ∨ context.left ≠ none) :
    Q (motionVectorCensus context false).best := by
  obtain ⟨hone, hfirst⟩ := gathered_start.add (by decide)
    (by decide : 0 < 2) habove
  obtain ⟨htwo, hsecond⟩ := hone.add (by decide) (by decide : 0 < 2) hleft
  obtain ⟨hthree, hthird⟩ := htwo.add (by decide) (by decide : 0 < 1)
    haboveLeft
  apply hthree.best
  apply hthird
  right
  apply hsecond
  rcases hany with hany | hany
  · exact Or.inr (hfirst (Or.inl hany))
  · exact Or.inl hany

theorem census_best_alone {context : Context InterFrameMacroblock}
    (habove : context.above = none) (hleft : context.left = none)
    (haboveLeft : context.aboveLeft = none) :
    (motionVectorCensus context false).best = {} := by
  unfold motionVectorCensus
  rw [habove, hleft, haboveLeft]
  rfl

/-- The longest vector that can be sent, up and to the left. -/
def longest : MotionVector := { y := -2046, x := -2046 }

/-- The macroblock has one vector, `longest` away from what was predicted. -/
structure Marches (context : Context InterFrameMacroblock)
    (mb : InterFrameMacroblock) : Prop where
  inter : interCoded mb = true
  flipped : mb.header.motionVectorsFlipped = false
  chroma : ChromaFromLuma mb
  luma : ∀ column row, (mb.Y column row).motionVector = longest.add
    (Scorer.clamp (motionVectorCensus context false).best context)

theorem orZero_reaches {α : Type} {parser : Parser α} {value : α}
    (h : parser.Reaches value) : (orZero false parser).Reaches value := by
  obtain ⟨symbols, h⟩ := h
  exact ⟨symbols, fun _ => h⟩

theorem segmentIdUpdate_reaches (header : InterFrameHeader) :
    ∃ update, (parseSegmentIdUpdate header (calculateMbSegmentTreeProbs
      header.updateSegmentation)).Reaches update := by
  have htree : (tree segmentIdTree (calculateMbSegmentTreeProbs
      header.updateSegmentation)).Completes (fun _ => True)
        fun leaf => (fun _ => true) leaf = true :=
    tree_completes (fun _ => true) 3 (calculateMbSegmentTreeProbs_length _)
      (by decide) (by decide)
  have hsegment : (do
      let segment ← tree segmentIdTree (calculateMbSegmentTreeProbs
        header.updateSegmentation)
      return UInt8.ofNat segment : Parser UInt8).Completes (fun _ => True)
        fun _ => True := htree.bind fun _ _ => trivial
  exact (optional_echoes (segment_echoes _) _).exists_reaches
    (optional_completes _ hsegment)

theorem mbSkipCoeff_reaches (header : InterFrameHeader) :
    ∃ skip, (parseMbSkipCoeff header).Reaches skip :=
  (mbSkipCoeff_echoes header).exists_reaches
    (optional_completes _ (boolean_completes _))

def lastFrameHeader : InterFrameMacroblockHeader where
  isInterMb := true
  mbRefFrameSel1 := some false
  mbRefFrameSel2 := none
  motionVectorsFlipped := false

theorem lastFrameHeader_reaches (header : InterFrameHeader) :
    (InterFrameMacroblockHeader.parse header).Reaches lastFrameHeader :=
  ⟨[_, _], true, _, rfl, false, _, rfl, rfl, rfl⟩

theorem decodeModes_reaches (tables : ProbabilityTables)
    (context : Context InterFrameMacroblock) (mb : InterFrameMacroblock)
    (hheader : mb.header = lastFrameHeader) :
    ∃ decoded, (decodeModes tables false context mb).Reaches decoded ∧
      Marches context decoded := by
  have hinter : interCoded mb = true := by
    rw [interCoded, hheader]
    rfl
  have hflipped : mb.header.motionVectorsFlipped = false := by
    rw [hheader]
    rfl
  let moved : InterFrameMacroblock :=
    { mb with Y2 := { mb.Y2 with predictionMode := .newMv } }
  let mv := longest.add
    (Scorer.clamp (motionVectorCensus context false).best context)
  have hvector : ModeVector (motionVectorCensus context
      mb.header.motionVectorsFlipped) context .newMv mv := by
    rw [hflipped]
    exact ⟨longest, fun _ =>
      MotionVector.parse_reaches _ (by decide) (by decide), rfl⟩
  refine ⟨setMotionVectors (setBaseMotionVector moved mv),
    decodeInterModes_reaches tables hinter hvector, hinter, hflipped,
    setMotionVectors_chroma _, fun column row => ?_⟩
  exact baseMotionVector_setBase moved mv

theorem parse_reaches (header : InterFrameHeader) (tables : ProbabilityTables)
    (context : Context InterFrameMacroblock) :
    ∃ mb, (Macroblock.parse header (calculateMbSegmentTreeProbs
      header.updateSegmentation) tables false context).Reaches mb ∧
        Marches context mb := by
  obtain ⟨segmentIdUpdate, hsegment⟩ := segmentIdUpdate_reaches header
  obtain ⟨mbSkipCoeff, hskip⟩ := mbSkipCoeff_reaches header
  obtain ⟨symbols, hheader⟩ := lastFrameHeader_reaches header
  obtain ⟨decoded, ⟨others, hdecoded⟩, hmarches⟩ := decodeModes_reaches tables
    context {
      column := context.column
      row := context.row
      segmentIdUpdate, mbSkipCoeff
      header := lastFrameHeader } rfl
  refine ⟨decoded, (orZero_reaches hsegment).bind ((orZero_reaches hskip).bind
    ⟨symbols ++ others, ?_⟩), hmarches⟩
  exact Consumes.bind (fun _ => hheader) fun _ => hdecoded

/-- The vector that is reached at a place: each step is clamped to the frame
before the next one is taken. -/
def vectorAt (column row : Nat) : MotionVector :=
  if column = 0 ∧ row = 0 then longest
  else { y := -(128 * row + 2174), x := -(128 * column + 2174) }

structure Marched (column row : Nat) (mb : InterFrameMacroblock) : Prop where
  inter : interCoded mb = true
  flipped : mb.header.motionVectorsFlipped = false
  chroma : ChromaFromLuma mb
  luma : column ≤ 48 → row ≤ 48 → ∀ i j,
    (mb.Y i j).motionVector = vectorAt column row

def Beyond (column row : Nat) (mv : MotionVector) : Prop :=
  mv.y ≤ -(128 * row + 128) ∧ mv.x ≤ -(128 * column + 128)

theorem vectorAt_beyond {column row nextColumn nextRow : Nat}
    (hcolumn : nextColumn ≤ column + 1) (hrow : nextRow ≤ row + 1) :
    Beyond nextColumn nextRow (vectorAt column row) := by
  unfold Beyond vectorAt longest
  split
  · dsimp only
    omega
  · dsimp only
    omega

theorem Marched.counts {column row nextColumn nextRow : Nat}
    {mb : InterFrameMacroblock} (h : Marched column row mb)
    (hcolumn : nextColumn ≤ column + 1) (hrow : nextRow ≤ row + 1)
    (hcolumnLe : column ≤ 48) (hrowLe : row ≤ 48) :
    Counts (Beyond nextColumn nextRow) mb := by
  have hbase : baseMotionVector mb = vectorAt column row :=
    h.luma hcolumnLe hrowLe 3 3
  have hbeyond := vectorAt_beyond hcolumn hrow
  refine ⟨h.inter, h.flipped, ?_, ?_⟩
  · rw [hbase]
    unfold Beyond at hbeyond
    refine Bool.eq_false_iff.mpr fun hempty => ?_
    simp only [MotionVector.empty, Bool.and_eq_true, decide_eq_true_eq]
      at hempty
    omega
  · rw [hbase]
    exact hbeyond

theorem clamp_beyond {context : Context InterFrameMacroblock}
    {mv : MotionVector} (h : Beyond context.column context.row mv)
    (hcolumn : context.column ≤ 48) (hrow : context.row ≤ 48) :
    Scorer.clamp mv context =
      { y := -(128 * context.row + 128)
        x := -(128 * context.column + 128) } := by
  obtain ⟨hy, hx⟩ := h
  unfold Scorer.clamp MotionVector.clamp
  refine congrArg₂ MotionVector.mk ?_ ?_
  · omega
  · omega

theorem longest_add {column row : Nat} (hcolumn : column ≤ 48)
    (hrow : row ≤ 48) :
    longest.add { y := -(128 * row + 128), x := -(128 * column + 128) } =
      { y := -(128 * row + 2174), x := -(128 * column + 2174) } := by
  have hadd {place : Nat} (hplace : place ≤ 48) :
      int16 (-2046 + -(128 * place + 128)) = -(128 * place + 2174) := by
    rw [int16_of_inRange (by omega) (by omega)]
    omega
  exact congrArg₂ MotionVector.mk (hadd hrow) (hadd hcolumn)

theorem clamp_zero (context : Context InterFrameMacroblock) :
    Scorer.clamp {} context = {} := by
  unfold Scorer.clamp MotionVector.clamp
  refine congrArg₂ MotionVector.mk ?_ ?_
  · dsimp only
    omega
  · dsimp only
    omega

structure AfterMarched (context : Context InterFrameMacroblock) : Prop where
  left : ∀ mb, context.left = some mb →
    0 < context.column ∧ Marched (context.column - 1) context.row mb
  above : ∀ mb, context.above = some mb →
    0 < context.row ∧ Marched context.column (context.row - 1) mb
  aboveLeft : ∀ mb, context.aboveLeft = some mb →
    0 < context.column ∧ 0 < context.row ∧
      Marched (context.column - 1) (context.row - 1) mb
  hasLeft : 0 < context.column → context.left ≠ none
  hasAbove : 0 < context.row → context.above ≠ none

theorem AfterMarched.best {context : Context InterFrameMacroblock}
    (h : AfterMarched context) (hcolumn : context.column ≤ 48)
    (hrow : context.row ≤ 48)
    (hplace : ¬ (context.column = 0 ∧ context.row = 0)) :
    Beyond context.column context.row
      (motionVectorCensus context false).best := by
  apply census_best
  · intro mb habove
    obtain ⟨hpositive, hmarched⟩ := h.above mb habove
    exact hmarched.counts (by omega) (by omega) (by omega) (by omega)
  · intro mb hleft
    obtain ⟨hpositive, hmarched⟩ := h.left mb hleft
    exact hmarched.counts (by omega) (by omega) (by omega) (by omega)
  · intro mb haboveLeft
    obtain ⟨hpositive, hpositiveRow, hmarched⟩ := h.aboveLeft mb haboveLeft
    exact hmarched.counts (by omega) (by omega) (by omega) (by omega)
  · by_cases hzero : context.row = 0
    · exact Or.inr (h.hasLeft (by omega))
    · exact Or.inl (h.hasAbove (by omega))

theorem AfterMarched.best_alone {context : Context InterFrameMacroblock}
    (h : AfterMarched context) (hcolumn : context.column = 0)
    (hrow : context.row = 0) : (motionVectorCensus context false).best = {} := by
  apply census_best_alone
  · cases habove : context.above with
    | none => rfl
    | some mb =>
        have hpositive := (h.above mb habove).1
        omega
  · cases hleft : context.left with
    | none => rfl
    | some mb =>
        have hpositive := (h.left mb hleft).1
        omega
  · cases haboveLeft : context.aboveLeft with
    | none => rfl
    | some mb =>
        have hpositive := (h.aboveLeft mb haboveLeft).1
        omega

theorem Marches.marched {context : Context InterFrameMacroblock}
    {mb : InterFrameMacroblock} (h : Marches context mb)
    (hcontext : AfterMarched context) :
    Marched context.column context.row mb := by
  refine ⟨h.inter, h.flipped, h.chroma, fun hcolumn hrow i j => ?_⟩
  rw [h.luma i j, vectorAt]
  split
  · next hplace =>
      rw [hcontext.best_alone hplace.1 hplace.2, clamp_zero]
      rfl
  · next hplace =>
      rw [clamp_beyond (hcontext.best hcolumn hrow hplace) hcolumn hrow,
        longest_add hcolumn hrow]

def AllMarched (width : Nat) (macroblocks : List InterFrameMacroblock) : Prop :=
  ∀ index mb, macroblocks[index]? = some mb →
    Marched (index % width) (index / width) mb

theorem AllMarched.at {width : Nat} {macroblocks : List InterFrameMacroblock}
    (h : AllMarched width macroblocks) {column row : Nat}
    (hcolumn : column < width) {mb : InterFrameMacroblock}
    (hmb : macroblocks[row * width + column]? = some mb) :
    Marched column row mb := by
  have hmarched := h _ mb hmb
  have hdiv : (row * width + column) / width = row := by
    rw [Nat.mul_comm, Nat.mul_add_div (Nat.zero_lt_of_lt hcolumn),
      Nat.div_eq_of_lt hcolumn, Nat.add_zero]
  rw [Nat.mul_add_mod_of_lt hcolumn, hdiv] at hmarched
  exact hmarched

theorem AllMarched.after {width height : Nat}
    {before : List InterFrameMacroblock} (h : AllMarched width before)
    {place : Nat × Nat}
    (hplace : (Grid.places width height)[before.length]? = some place) :
    AfterMarched (contextAt width height before place) := by
  obtain ⟨hcolumn, hrow⟩ := Grid.mem_places.mp (List.mem_of_getElem? hplace)
  have hlength : before.length = place.2 * width + place.1 := by
    obtain rfl := Grid.getElem?_places hplace
    rw [Nat.mul_comm]
    exact (Nat.div_add_mod ..).symm
  have hread {column row : Nat} (hcolumn : column < width)
      (hrow : row < height) {mb : InterFrameMacroblock}
      (hmb : (if column < width ∧ row < height then
        before[row * width + column]? else none) = some mb) :
      Marched column row mb := by
    rw [if_pos ⟨hcolumn, hrow⟩] at hmb
    exact h.at hcolumn hmb
  have hthere {column row : Nat} (hcolumn : column < width)
      (hrow : row < height) (hlt : row * width + column < before.length) :
      (if column < width ∧ row < height then
        before[row * width + column]? else none) ≠ none := by
    rw [if_pos ⟨hcolumn, hrow⟩, List.getElem?_eq_getElem hlt]
    exact Option.some_ne_none _
  have habove (hpositive : 0 < place.2) :
      (place.2 - 1) * width + width = place.2 * width := by
    rw [← Nat.succ_mul, Nat.succ_eq_add_one, Nat.sub_add_cancel hpositive]
  refine ⟨?_, ?_, ?_, ?_, ?_⟩
  · intro mb hmb
    simp only [contextAt] at hmb ⊢
    split at hmb
    · cases hmb
    · exact ⟨by omega, hread (by omega) hrow hmb⟩
  · intro mb hmb
    simp only [contextAt] at hmb ⊢
    split at hmb
    · cases hmb
    · exact ⟨by omega, hread hcolumn (by omega) hmb⟩
  · intro mb hmb
    simp only [contextAt] at hmb ⊢
    split at hmb
    · cases hmb
    · exact ⟨by omega, by omega, hread (by omega) (by omega) hmb⟩
  · intro hpositive
    simp only [contextAt] at hpositive ⊢
    rw [if_neg (by omega)]
    exact hthere (by omega) hrow (by omega)
  · intro hpositive
    simp only [contextAt] at hpositive ⊢
    have hsize := habove hpositive
    rw [if_neg (by omega)]
    exact hthere hcolumn (by omega) (by omega)

theorem AllMarched.append {width : Nat} {before : List InterFrameMacroblock}
    (h : AllMarched width before) {mb : InterFrameMacroblock}
    (hmb : Marched (before.length % width) (before.length / width) mb) :
    AllMarched width (before ++ [mb]) := by
  intro index other hother
  by_cases hlt : index < before.length
  · rw [List.getElem?_append_left hlt] at hother
    exact h index other hother
  · rw [List.getElem?_append_right (Nat.le_of_not_lt hlt)] at hother
    obtain ⟨hindex, hsame⟩ := List.getElem?_eq_some_iff.mp hother
    obtain rfl : index = before.length := by
      rw [List.length_singleton] at hindex
      omega
    simp only [Nat.sub_self, List.getElem_cons_zero] at hsame
    exact hsame ▸ hmb

theorem parseMacroblocks_marches (header : InterFrameHeader)
    (tables : ProbabilityTables) (width height : Nat)
    (rest : List (Nat × Nat)) (before : List InterFrameMacroblock)
    (hrest : (Grid.places width height).drop before.length = rest)
    (hbefore : AllMarched width before) :
    ∃ macroblocks, (parseMacroblocks header tables false width height rest
      before).Reaches macroblocks ∧ AllMarched width macroblocks ∧
        macroblocks.length = before.length + rest.length := by
  induction rest generalizing before with
  | nil => exact ⟨before, reaches_pure before, hbefore, rfl⟩
  | cons place rest ih =>
      have hplace : (Grid.places width height)[before.length]? =
          some place := by
        rw [← Nat.add_zero before.length, ← List.getElem?_drop, hrest]
        rfl
      obtain ⟨mb, hmb, hmarches⟩ := parse_reaches header tables
        (contextAt width height before place)
      have hmarched := hmarches.marched (hbefore.after hplace)
      have hnext : Marched (before.length % width) (before.length / width)
          mb := by
        obtain rfl := Grid.getElem?_places hplace
        exact hmarched
      obtain ⟨macroblocks, hmacroblocks, hall, hlength⟩ := ih (before ++ [mb])
        (by
          rw [List.length_append, List.length_singleton, ← List.drop_drop,
            hrest]
          rfl)
        (hbefore.append hnext)
      refine ⟨macroblocks, hmb.bind hmacroblocks, hall, ?_⟩
      rw [hlength, List.length_append, List.length_singleton,
        List.length_cons]
      omega

theorem Marched.not_exact {column row : Nat} {mb : InterFrameMacroblock}
    (h : Marched column row mb) (hcolumn : column ≤ 48) (hrow : row ≤ 48)
    (hfar : column = 48 ∨ row = 48) : ¬ ExactChroma mb := by
  intro hexact
  have hfits := h.chroma.exact_iff.mp hexact 0 0
  have hplace : ¬ (column = 0 ∧ row = 0) := by omega
  simp only [lumaSum, h.luma hcolumn hrow, vectorAt, if_neg hplace, FitsInt16]
    at hfits
  omega

end InterFrameMacroblock

open InterFrameMacroblock

def zeroSource : BitSource Probability Unit where
  get _ _ := (false, ())
  valid _ := true

theorem interFrameHeader_reaches :
    ∃ header, InterFrameHeader.parse.Reaches header := by
  have hzeros : Fallible.check (fun _ => true)
      (InterFrameHeader.parse.run zeroSource ()) = true := by
    decide +kernel
  obtain ⟨⟨header, last⟩, hrun, -⟩ := Fallible.exists_of_check hzeros
  exact ⟨header, InterFrameHeader.parse_echoes.reaches_of_run hrun⟩

/-- In every run over a frame of the size the chroma vectors are exact: a run
reads the frame header and then the headers of all macroblocks. -/
def ChromaExact (width height : Nat) : Prop :=
  ∀ (chunk : UncompressedChunk) (header : InterFrameHeader)
    (firstPartition : BoolDecoder) (tables : ProbabilityTables)
    (errorConcealment : Bool) (frame : InterFrame),
    DecoderState.parseHeader width height chunk =
      .ok (header, firstPartition) →
    DecoderState.parseMacroblockHeaders width height chunk.showFrame header
      tables errorConcealment firstPartition = .ok frame →
    ∀ mb ∈ frame.macroblocks, interCoded mb = true → ExactChroma mb

theorem chromaExact_of_small {width height : Nat} (hwidth : width ≤ 768)
    (hheight : height ≤ 768) : ChromaExact width height := by
  intro chunk header firstPartition tables errorConcealment frame _ hframe mb
    hmb hinter
  obtain ⟨⟨macroblocks, last⟩, hrun, hdone⟩ := Fallible.bind_eq_ok hframe
  cases hdone
  have hmbWidth : macroblockDimension width ≤ 48 := by
    unfold macroblockDimension
    omega
  have hmbHeight : macroblockDimension height ≤ 48 := by
    unfold macroblockDimension
    omega
  have hsmall : (parseMacroblocks header tables errorConcealment
      (macroblockDimension width) (macroblockDimension height)
      (Grid.places _ _) []).Yields (fun _ => True)
        fun macroblocks => ∀ mb ∈ macroblocks, SmallVectors mb :=
    parseMacroblocks_small header tables errorConcealment hmbWidth hmbHeight _
      (fun _ => Grid.mem_places.mp) []
      fun other hother => absurd hother List.not_mem_nil
  have hall := BitParser.Yields.of_run (fun _ _ (_ : True) => trivial)
    (fun _ _ => trivial) hsmall trivial hrun
  exact (hall.1 mb hmb).exactChroma hinter

def interChunk (firstPartition : Chunk) : UncompressedChunk where
  keyFrame := false
  loopFilter := .normal
  showFrame := true
  experimental := false
  firstPartition := firstPartition
  rest := []
  corruptionLevel := .noCorruption

theorem exists_march {width height : Nat} (hwidth : 0 < width)
    (hheight : 0 < height) :
    ∃ (chunk : UncompressedChunk) (header : InterFrameHeader)
      (firstPartition : BoolDecoder) (frame : InterFrame),
      DecoderState.parseHeader width height chunk =
        .ok (header, firstPartition) ∧
      DecoderState.parseMacroblockHeaders width height chunk.showFrame header
        {} false firstPartition = .ok frame ∧
      AllMarched (macroblockDimension width) frame.macroblocks ∧
      frame.macroblocks.length =
        macroblockDimension width * macroblockDimension height := by
  obtain ⟨header, symbols, hheader⟩ := interFrameHeader_reaches
  obtain ⟨macroblocks, ⟨others, hmacroblocks⟩, hall, hlength⟩ :=
    parseMacroblocks_marches header {} (macroblockDimension width)
      (macroblockDimension height) (Grid.places _ _) [] List.drop_zero
      fun index mb h => by cases h
  obtain ⟨bytes, -, hdelivers⟩ := Coder.encode_delivers
    (symbols ++ (others ++ [])) false
  obtain ⟨firstPartition, hfirst, hrest⟩ :=
    hheader.run delivers_get hdelivers
  obtain ⟨last, hlast, -⟩ := hmacroblocks.run delivers_get hrest
  have hparsed : DecoderState.parseHeader width height (interChunk bytes) =
      .ok (header, firstPartition) := by
    rw [DecoderState.parseHeader, decide_eq_true hwidth,
      decide_eq_true hheight, Net.require_true, ok_bind, Net.require_true,
      ok_bind]
    have hcomplete : decide (CorruptionLevel.corruptedFirstPartition.code ≤
        (interChunk bytes).corruptionLevel.code) = false := rfl
    rw [hcomplete]
    exact hfirst
  let frame : InterFrame := {
    showFrame := true
    displayWidth := width
    displayHeight := height
    header, macroblocks
    y2Links := relinkY2Blocks (macroblockDimension width) macroblocks }
  have hframe : DecoderState.parseMacroblockHeaders width height true header {}
      false firstPartition = .ok frame := by
    rw [DecoderState.parseMacroblockHeaders, hlast]
    rfl
  refine ⟨interChunk bytes, header, firstPartition, frame, hparsed, hframe,
    hall, ?_⟩
  rw [show frame.macroblocks = macroblocks from rfl, hlength,
    Grid.places_eq_map, List.length_map, List.length_range, List.length_nil,
    Nat.zero_add]

theorem not_chromaExact_of_large {width height : Nat} (hwidth : 0 < width)
    (hheight : 0 < height) (hlarge : 768 < width ∨ 768 < height) :
    ¬ ChromaExact width height := by
  intro hexact
  obtain ⟨chunk, header, firstPartition, frame, hheader, hframe, hall,
    hlength⟩ := exists_march hwidth hheight
  have hfar (column row : Nat) (hcolumn : column < macroblockDimension width)
      (hrow : row < macroblockDimension height) (hcolumnLe : column ≤ 48)
      (hrowLe : row ≤ 48) (hedge : column = 48 ∨ row = 48) : False := by
    have hlt : row * macroblockDimension width + column <
        frame.macroblocks.length := by
      rw [hlength, Nat.mul_comm (macroblockDimension width)]
      have hle := Nat.mul_le_mul_right (macroblockDimension width) hrow
      rw [Nat.succ_mul] at hle
      omega
    have hmarched := hall.at hcolumn (List.getElem?_eq_getElem hlt)
    exact hmarched.not_exact hcolumnLe hrowLe hedge
      (hexact chunk header firstPartition {} false frame hheader hframe _
        (List.getElem_mem hlt) hmarched.inter)
  have hmbWidth : 0 < macroblockDimension width := by
    unfold macroblockDimension
    omega
  have hmbHeight : 0 < macroblockDimension height := by
    unfold macroblockDimension
    omega
  rcases hlarge with hwide | hhigh
  · refine hfar 48 0 ?_ hmbHeight (by decide) (by decide) (Or.inl rfl)
    unfold macroblockDimension
    omega
  · refine hfar 0 48 hmbWidth ?_ (by decide) (by decide) (Or.inr rfl)
    unfold macroblockDimension
    omega

/-- The chroma vectors of every run are exact where the frame is at most 48
macroblocks wide and high, and where it is larger some run has a sum that wraps
around. -/
theorem chromaExact_iff {width height : Nat} (hwidth : 0 < width)
    (hheight : 0 < height) :
    ChromaExact width height ↔ width ≤ 768 ∧ height ≤ 768 := by
  constructor
  · intro hexact
    by_contra hlarge
    exact not_chromaExact_of_large hwidth hheight (by omega) hexact
  · intro hsmall
    exact chromaExact_of_small hsmall.1 hsmall.2

theorem chromaExact_square : ChromaExact 768 768 :=
  (chromaExact_iff (by decide) (by decide)).mpr ⟨by decide, by decide⟩

/-- The last of 49 macroblocks in a row moves by 8318. -/
theorem chromaExact_fails : ¬ ChromaExact 784 16 :=
  not_chromaExact_of_large (by decide) (by decide) (by decide)

end Salsify.Codec
