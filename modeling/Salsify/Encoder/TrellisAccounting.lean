import Salsify.Encoder.Trellis

namespace Salsify.Encoder

open Salsify.Codec (Block Quantizer QuantIndices)
open Salsify.Net (Failure)
open Fallible (ok_bind bind_eq_ok Succeeds succeeds_pure)

/-! What the nodes of the trellis record, against what their links lead to. -/

def indicesFrom (index : Nat) : List (Fin 16) := (List.finRange 16).drop index

theorem indicesFrom_of_lt {index : Nat} (h : index < 16) :
    indicesFrom index = Fin.ofNat 16 index :: indicesFrom (index + 1) := by
  have hlength : index < (List.finRange 16).length := by
    rwa [List.length_finRange]
  unfold indicesFrom
  rw [List.drop_eq_getElem_cons hlength, List.getElem_finRange]
  congr 1
  exact Fin.ext (Nat.mod_eq_of_lt h).symm

theorem indicesFrom_of_le {index : Nat} (h : 16 ≤ index) :
    indicesFrom index = [] :=
  List.drop_eq_nil_of_le (by rwa [List.length_finRange])

section Specification

variable {Mode : Type} (tokenCosts : TokenCosts) (multipliers : Multipliers)
  (quantizer : Quantizer) (block : Block Mode)

/-- The distortion of values at the indices, and of zeros after the values. -/
def distortionOf : List (Fin 16) → List Int → Nat
  | [], _ => 0
  | index :: indices, [] =>
      errorOf block quantizer index 0 + distortionOf indices []
  | index :: indices, value :: values =>
      errorOf block quantizer index value + distortionOf indices values

/-- The cost of the tokens for the values at the indices, in a context. The end
of the block is written in place of zeros at the end. -/
def writingRate : List (Fin 16) → Fin 3 → List Int → Nat
  | [], _, _ => 0
  | index :: _, context, [] =>
      (entryCost tokenCosts block index context .eob).toNat
  | index :: indices, context, value :: values =>
      if ∀ other ∈ value :: values, other = 0 then
        (entryCost tokenCosts block index context .eob).toNat
      else
        (entryCost tokenCosts block index context (tokenForCoeff value)).toNat +
          (valueCost (2048 + value).toNat).toNat +
          writingRate indices (prevTokenClass (tokenForCoeff value)) values

/-- A node records what the values that it leads to cost, its own token
apart. -/
structure NodeAccounts (index : Nat) (node : TrellisNode)
    (values : List Int) : Prop where
  distortion : node.distortion.toNat =
    distortionOf quantizer block (indicesFrom index) values
  rate : ∀ context, node.rate.toNat +
      (entryCost tokenCosts block index context node.token).toNat =
    writingRate tokenCosts block (indicesFrom index) context values

def RowsAccount : List TrellisRow → TrellisRow → Nat → Prop
  | [], _, _ => True
  | nextRow :: later, row, index =>
      (∀ level, ∃ values,
        followLinks (nextRow :: later) row level = .ok values ∧
        NodeAccounts tokenCosts quantizer block index (row level) values) ∧
      RowsAccount later nextRow (index + 1)

def realCost (tokenContext : Fin 3) (values : List Int) : Nat :=
  let indices := indicesFrom (Block.firstCoefficient block.type)
  (128 + writingRate tokenCosts block indices tokenContext values *
    multipliers.rate.toNat) / 256 +
    distortionOf quantizer block indices values * multipliers.distortion.toNat

/-- The values that are written back have the smallest cost, which is real. -/
def ChoiceAccounts (tokenContext : Fin 3) (result : TrellisResult) : Prop :=
  ∃ values,
    trellisQuantize tokenCosts multipliers quantizer tokenContext block =
      .ok (writeBack block (Block.firstCoefficient block.type) values) ∧
    (∀ level,
      (result.first result.minChoice).cost ≤ (result.first level).cost) ∧
    (result.first result.minChoice).cost.toNat =
      realCost tokenCosts multipliers quantizer block tokenContext values

/-- The trellis is built, its nodes account for what they lead to, and so does
the choice. Of a block of zeros no trellis is built. -/
def TrellisAccounts (tokenContext : Fin 3) : Prop :=
  block.codedLength = 0 ∨ ∃ result,
    buildTrellis tokenCosts multipliers quantizer tokenContext block =
      .ok result ∧
    RowsAccount tokenCosts quantizer block result.later result.row
      (Block.firstCoefficient block.type) ∧
    ChoiceAccounts tokenCosts multipliers quantizer block tokenContext result

end Specification

section Condition

variable {Mode : Type} (tokenCosts : TokenCosts) (multipliers : Multipliers)
  (quantizer : Quantizer) (block : Block Mode)

def lastIndex : Nat := block.codedLength - 1

/-- `rd_cost` at a zero in the last place but one, before a one. -/
def onePathCost : UInt32 :=
  let last := Fin.ofNat 16 (lastIndex block)
  let quantized := quantizedCoeff quantizer block last
  multipliers.rdcost
    (0 + entryCost tokenCosts block (last + 1) 1 .eob +
      (valueCost (2048 + quantized).toNat).toUInt32 +
      entryCost tokenCosts block last 0 .one)
    (0 + squaredError quantizer block last quantized +
      squaredError quantizer block (Fin.ofNat 16 (lastIndex block - 1)) 0)

def endPathCost : UInt32 :=
  let last := Fin.ofNat 16 (lastIndex block)
  multipliers.rdcost (0 + entryCost tokenCosts block last 0 .eob)
    (squaredError quantizer block last 0 +
      squaredError quantizer block (Fin.ofNat 16 (lastIndex block - 1)) 0)

/-- The last coefficient but one may become zero, and then the last one, which
is not zero, is better left out. -/
def TailDropped : Prop :=
  let last := Fin.ofNat 16 (lastIndex block)
  Block.firstCoefficient block.type < lastIndex block ∧
    (quantizedCoeff quantizer block
      (Fin.ofNat 16 (lastIndex block - 1))).natAbs ≤ 1 ∧
    (quantizedCoeff quantizer block last = 0 ∨
      (quantizedCoeff quantizer block last).natAbs = 1 ∧
      endPathCost tokenCosts multipliers quantizer block <
        onePathCost tokenCosts multipliers quantizer block)

def HaveCosts : Prop :=
  ∀ index : Fin 16, Block.firstCoefficient block.type ≤ index →
    index < block.codedLength →
    -2048 ≤ quantizedCoeff quantizer block index ∧
      quantizedCoeff quantizer block index ≤ 2047

end Condition

section Sums

variable {Mode : Type} (tokenCosts : TokenCosts) (multipliers : Multipliers)
  (indices : QuantIndices) (block : Block Mode)

def RowBounded (count : Nat) (row : TrellisRow) : Prop :=
  ∀ level, (row level).distortion.toNat ≤ count * 774400 ∧
    (row level).rate.toNat ≤ count * 131070

theorem entryCost_le (index : Nat) (context : Fin 3) (token : Token) :
    (entryCost tokenCosts block index context token).toNat ≤ 65535 := by
  unfold entryCost
  split
  · rw [UInt16.toNat_toUInt32]
    exact Nat.le_of_lt_succ (UInt16.toNat_lt _)
  · exact Nat.zero_le 65535

theorem rates_toNat (index : Fin 16) (candidate : Int) {nextRow : TrellisRow}
    {count : Nat} (hcount : count ≤ 16) (hbounded : RowBounded count nextRow)
    (next : Fin 2) :
    (rates tokenCosts block index candidate nextRow next).toNat =
        (nextRow next).rate.toNat + (entryCost tokenCosts block (index + 1)
          (prevTokenClass (tokenForCoeff candidate))
          (nextRow next).token).toNat ∧
      (rates tokenCosts block index candidate nextRow next).toNat ≤
        count * 131070 + 65535 := by
  have hrate := (hbounded next).2
  have hentry := entryCost_le tokenCosts block (index + 1)
    (prevTokenClass (tokenForCoeff candidate)) (nextRow next).token
  have hexact : (rates tokenCosts block index candidate nextRow next).toNat =
      (nextRow next).rate.toNat + (entryCost tokenCosts block (index + 1)
        (prevTokenClass (tokenForCoeff candidate))
        (nextRow next).token).toNat := by
    rw [rates, UInt32.toNat_add]
    omega
  exact ⟨hexact, by omega⟩

variable {indices block}

theorem distortions_toNat {index : Fin 16} {candidate : Int}
    (hcandidate : IsCandidate
      (quantizedCoeff (.ofIndices indices) block index) candidate)
    {nextRow : TrellisRow} {count : Nat} (hcount : count ≤ 16)
    (hbounded : RowBounded count nextRow) (next : Fin 2) :
    (distortions (.ofIndices indices) block index candidate nextRow
        next).toNat =
        (nextRow next).distortion.toNat +
          errorOf block (.ofIndices indices) index candidate ∧
      (distortions (.ofIndices indices) block index candidate nextRow
        next).toNat ≤ (count + 1) * 774400 := by
  have hdistortion := (hbounded next).1
  obtain ⟨herror, hsmall⟩ := squaredError_toNat indices block hcandidate
  have hexact : (distortions (.ofIndices indices) block index candidate nextRow
      next).toNat = (nextRow next).distortion.toNat +
        errorOf block (.ofIndices indices) index candidate := by
    rw [distortions, UInt32.toNat_add, herror]
    omega
  exact ⟨hexact, by omega⟩

theorem rdCosts_lt {index : Fin 16} {candidate : Int}
    (hcandidate : IsCandidate
      (quantizedCoeff (.ofIndices indices) block index) candidate)
    {nextRow : TrellisRow} {count : Nat} (hcount : count ≤ 15)
    (hbounded : RowBounded count nextRow) (next : Fin 2) :
    rdCosts tokenCosts multipliers (.ofIndices indices) block index candidate
      nextRow next < 4294967295 := by
  have hrate :=
    (rates_toNat tokenCosts block index candidate (by omega) hbounded next).2
  have hdistortion :=
    (distortions_toNat hcandidate (by omega) hbounded next).2
  exact (multipliers.rdcost_toNat (by omega) (by omega)).2

end Sums

section Node

variable {Mode : Type} {tokenCosts : TokenCosts} {multipliers : Multipliers}
  {indices : QuantIndices} {block : Block Mode}

def bestNext (tokenCosts : TokenCosts) (multipliers : Multipliers)
    (quantizer : Quantizer) (block : Block Mode) (index : Fin 16)
    (candidate : Int) (nextRow : TrellisRow) : Fin 2 :=
  if rdCosts tokenCosts multipliers quantizer block index candidate nextRow 1 <
      rdCosts tokenCosts multipliers quantizer block index candidate nextRow 0
  then 1 else 0

structure Followed (tokenCosts : TokenCosts) (quantizer : Quantizer)
    (block : Block Mode) (index count : Nat) (later : List TrellisRow)
    (row : TrellisRow) (level : Fin 2) (values : List Int) : Prop where
  follows : followLinks later row level = .ok values
  accounts : NodeAccounts tokenCosts quantizer block index (row level) values
  eob_iff : (row level).token = .eob ↔ values = []
  nonzero : values ≠ [] → ∃ value ∈ values, value ≠ 0
  distortion_le : (row level).distortion.toNat ≤ count * 774400
  rate_le : (row level).rate.toNat ≤ count * 131070

def RowFollowed (tokenCosts : TokenCosts) (quantizer : Quantizer)
    (block : Block Mode) (index count : Nat) (later : List TrellisRow)
    (row : TrellisRow) : Prop :=
  ∀ level, ∃ values,
    Followed tokenCosts quantizer block index count later row level values

theorem RowFollowed.bounded {quantizer : Quantizer} {index count : Nat}
    {later : List TrellisRow} {row : TrellisRow}
    (h : RowFollowed tokenCosts quantizer block index count later row) :
    RowBounded count row := by
  intro level
  obtain ⟨values, hvalues⟩ := h level
  exact ⟨hvalues.distortion_le, hvalues.rate_le⟩

theorem tokenForCoeff_ne_eob (coeff : Int) : tokenForCoeff coeff ≠ .eob := by
  unfold tokenForCoeff
  split
  case h_6 => split_ifs <;> exact Token.noConfusion
  all_goals exact Token.noConfusion

theorem coeffBaseCost_eq_ok {coeff : Int}
    (h : -2048 ≤ coeff ∧ coeff ≤ 2047) :
    coeffBaseCost coeff = .ok (valueCost (2048 + coeff).toNat) := by
  rw [coeffBaseCost, decide_eq_true h.1, decide_eq_true h.2, Bool.and_self,
    Net.require_true, ok_bind]
  rfl

theorem range_of_coeffBaseCost {coeff : Int} {cost : UInt16}
    (h : coeffBaseCost coeff = .ok cost) : -2048 ≤ coeff ∧ coeff ≤ 2047 := by
  obtain ⟨⟨⟩, hrange, -⟩ := bind_eq_ok h
  have hrange := Net.require_eq_ok.mp hrange
  rwa [Bool.and_eq_true, decide_eq_true_eq, decide_eq_true_eq] at hrange

/-- A candidate whose best continuation is not the end of the block, or which
is not zero, becomes a node of its own. -/
theorem evaluateCandidate_kept {index : Fin 16} {candidate : Int}
    {nextRow : TrellisRow} {count : Nat} (hcount : count ≤ 15)
    (hcandidate : IsCandidate
      (quantizedCoeff (.ofIndices indices) block index) candidate)
    (hbounded : RowBounded count nextRow)
    (hkept : candidate ≠ 0 ∨ (nextRow (bestNext tokenCosts multipliers
      (.ofIndices indices) block index candidate nextRow)).token ≠ .eob) :
    evaluateCandidate tokenCosts multipliers (.ofIndices indices) block index
        candidate nextRow = (do
      let base ← coeffBaseCost candidate
      let next := bestNext tokenCosts multipliers (.ofIndices indices) block
        index candidate nextRow
      return {
        rate := rates tokenCosts block index candidate nextRow next +
          base.toUInt32
        distortion := distortions (.ofIndices indices) block index candidate
          nextRow next
        cost := rdCosts tokenCosts multipliers (.ofIndices indices) block index
          candidate nextRow next
        coeff := candidate
        token := tokenForCoeff candidate
        next := some next }) := by
  have hlt := rdCosts_lt tokenCosts multipliers hcandidate hcount hbounded 0
  unfold evaluateCandidate
  dsimp only
  rw [smallest_of_lt hlt]
  exact if_pos hkept

theorem evaluateCandidate_dropped {index : Fin 16} {nextRow : TrellisRow}
    {count : Nat} (hcount : count ≤ 15)
    (hcandidate : IsCandidate
      (quantizedCoeff (.ofIndices indices) block index) 0)
    (hbounded : RowBounded count nextRow)
    (hdropped : (nextRow (bestNext tokenCosts multipliers (.ofIndices indices)
      block index 0 nextRow)).token = .eob) :
    evaluateCandidate tokenCosts multipliers (.ofIndices indices) block index 0
        nextRow = .ok (endNode multipliers
      (squaredError (.ofIndices indices) block index 0)) := by
  have hlt := rdCosts_lt tokenCosts multipliers hcandidate hcount hbounded 0
  unfold evaluateCandidate
  dsimp only
  rw [smallest_of_lt hlt]
  refine if_neg fun hkept => ?_
  rcases hkept with hnonzero | hkept
  · exact hnonzero rfl
  · exact hkept hdropped

def NodeFollowed (tokenCosts : TokenCosts) (quantizer : Quantizer)
    (block : Block Mode) (index count : Nat) (later : List TrellisRow)
    (node : TrellisNode) : Prop :=
  ∃ values, ∀ (row : TrellisRow) level, row level = node →
    Followed tokenCosts quantizer block index count later row level values

theorem kept_followed {index : Nat} (hindex : index < 16) {candidate : Int}
    {nextRow : TrellisRow} {later : List TrellisRow} {count : Nat}
    (hcount : count ≤ 15)
    (hcandidate : IsCandidate
      (quantizedCoeff (.ofIndices indices) block (Fin.ofNat 16 index)) candidate)
    (hrange : -2048 ≤ candidate ∧ candidate ≤ 2047)
    (hnext : RowFollowed tokenCosts (.ofIndices indices) block (index + 1) count
      later nextRow)
    (hkept : candidate ≠ 0 ∨ (nextRow (bestNext tokenCosts multipliers
      (.ofIndices indices) block (Fin.ofNat 16 index) candidate
      nextRow)).token ≠ .eob) :
    Succeeds (evaluateCandidate tokenCosts multipliers (.ofIndices indices)
      block (Fin.ofNat 16 index) candidate nextRow) fun node =>
      NodeFollowed tokenCosts (.ofIndices indices) block index (count + 1)
        (nextRow :: later) node ∧ node.token ≠ .eob := by
  have hbounded := hnext.bounded
  have hval : (Fin.ofNat 16 index : Nat) = index := Nat.mod_eq_of_lt hindex
  rw [evaluateCandidate_kept hcount hcandidate hbounded hkept,
    coeffBaseCost_eq_ok hrange, ok_bind]
  dsimp only
  generalize bestNext tokenCosts multipliers (.ofIndices indices) block
    (Fin.ofNat 16 index) candidate nextRow = next at hkept ⊢
  obtain ⟨values, hvalues⟩ := hnext next
  obtain ⟨hrate, hrateLe⟩ := rates_toNat tokenCosts block (Fin.ofNat 16 index)
    candidate (by omega) hbounded next
  obtain ⟨hdistortion, hdistortionLe⟩ :=
    distortions_toNat hcandidate (by omega) hbounded next
  have hbase : (valueCost (2048 + candidate).toNat).toNat ≤ 65535 :=
    Nat.le_of_lt_succ (UInt16.toNat_lt _)
  have hsum : (rates tokenCosts block (Fin.ofNat 16 index) candidate nextRow
      next + (valueCost (2048 + candidate).toNat).toUInt32).toNat =
      (rates tokenCosts block (Fin.ofNat 16 index) candidate nextRow
        next).toNat + (valueCost (2048 + candidate).toNat).toNat := by
    rw [UInt32.toNat_add, UInt16.toNat_toUInt32]
    omega
  have hnonzero : ∃ value ∈ candidate :: values, value ≠ 0 := by
    rcases hkept with hcandidate | htoken
    · exact ⟨candidate, List.mem_cons_self, hcandidate⟩
    · have hvaluesNil : values ≠ [] := fun h => htoken (hvalues.eob_iff.mpr h)
      obtain ⟨value, hmem, hvalue⟩ := hvalues.nonzero hvaluesNil
      exact ⟨value, List.mem_cons_of_mem _ hmem, hvalue⟩
  have hnotAll : ¬ ∀ other ∈ candidate :: values, other = 0 := by
    obtain ⟨value, hmem, hvalue⟩ := hnonzero
    exact fun hall => hvalue (hall value hmem)
  refine ⟨_, rfl, ⟨candidate :: values, ?_⟩, tokenForCoeff_ne_eob candidate⟩
  intro row level hrow
  constructor
  case follows =>
    have htoken : (row level).token ≠ .eob := by
      rw [hrow]
      exact tokenForCoeff_ne_eob candidate
    have hlink : (row level).next = some next := by rw [hrow]
    rw [followLinks_next htoken hlink, hvalues.follows, ok_bind, hrow]
    rfl
  case accounts =>
    rw [hrow]
    constructor
    · rw [hdistortion, hvalues.accounts.distortion, indicesFrom_of_lt hindex,
        distortionOf, Nat.add_comm]
    · intro context
      have hentry := hvalues.accounts.rate
        (prevTokenClass (tokenForCoeff candidate))
      dsimp only
      rw [hsum, hrate, hval, hentry, indicesFrom_of_lt hindex, writingRate,
        if_neg hnotAll, hval]
      omega
  case eob_iff =>
    rw [hrow]
    exact iff_of_false (tokenForCoeff_ne_eob candidate) (List.cons_ne_nil _ _)
  case nonzero => exact fun _ => hnonzero
  case distortion_le =>
    rw [hrow]
    exact hdistortionLe
  case rate_le =>
    rw [hrow]
    dsimp only
    rw [hsum]
    omega

theorem dropped_followed {index : Nat} (hindex : index < 16)
    {nextRow : TrellisRow} {later : List TrellisRow} {count : Nat}
    (hcount : count ≤ 15)
    (hcandidate : IsCandidate
      (quantizedCoeff (.ofIndices indices) block (Fin.ofNat 16 index)) 0)
    (hbounded : RowBounded count nextRow)
    (hdropped : (nextRow (bestNext tokenCosts multipliers (.ofIndices indices)
      block (Fin.ofNat 16 index) 0 nextRow)).token = .eob)
    (htail : distortionOf (.ofIndices indices) block (indicesFrom (index + 1))
      [] = 0) :
    Succeeds (evaluateCandidate tokenCosts multipliers (.ofIndices indices)
      block (Fin.ofNat 16 index) 0 nextRow)
      (NodeFollowed tokenCosts (.ofIndices indices) block index (count + 1)
        (nextRow :: later)) := by
  have hval : (Fin.ofNat 16 index : Nat) = index := Nat.mod_eq_of_lt hindex
  obtain ⟨herror, herrorLe⟩ := squaredError_toNat indices block hcandidate
  rw [evaluateCandidate_dropped hcount hcandidate hbounded hdropped]
  refine ⟨_, rfl, [], ?_⟩
  intro row level hrow
  constructor
  case follows =>
    refine followLinks_eob ?_
    rw [hrow, endNode]
  case accounts =>
    rw [hrow, endNode]
    constructor
    · rw [herror, indicesFrom_of_lt hindex, distortionOf, htail, Nat.add_zero]
    · intro context
      rw [indicesFrom_of_lt hindex, writingRate, hval]
      exact Nat.zero_add _
  case eob_iff =>
    rw [hrow]
    exact iff_of_true rfl rfl
  case nonzero => exact fun h => absurd rfl h
  case distortion_le =>
    rw [hrow, endNode, herror]
    omega
  case rate_le =>
    rw [hrow]
    exact Nat.zero_le _

def MovesEnd (tokenCosts : TokenCosts) (multipliers : Multipliers)
    (quantizer : Quantizer) (block : Block Mode) (index : Fin 16)
    (nextRow : TrellisRow) : Prop :=
  IsCandidate (quantizedCoeff quantizer block index) 0 ∧
    (nextRow (bestNext tokenCosts multipliers quantizer block index 0
      nextRow)).token = .eob

theorem IsCandidate.range {quantized candidate : Int}
    (h : IsCandidate quantized candidate)
    (hrange : -2048 ≤ quantized ∧ quantized ≤ 2047) :
    -2048 ≤ candidate ∧ candidate ≤ 2047 := by
  have htowards := h.towards_zero
  omega

theorem evaluateCandidate_followed {index : Nat} (hindex : index < 16)
    {candidate : Int} {nextRow : TrellisRow} {later : List TrellisRow}
    {count : Nat} (hcount : count ≤ 15)
    (hcandidate : IsCandidate
      (quantizedCoeff (.ofIndices indices) block (Fin.ofNat 16 index)) candidate)
    (hrange : -2048 ≤ candidate ∧ candidate ≤ 2047)
    (hnext : RowFollowed tokenCosts (.ofIndices indices) block (index + 1) count
      later nextRow)
    (hmoves : MovesEnd tokenCosts multipliers (.ofIndices indices) block
      (Fin.ofNat 16 index) nextRow →
      distortionOf (.ofIndices indices) block (indicesFrom (index + 1)) [] = 0) :
    Succeeds (evaluateCandidate tokenCosts multipliers (.ofIndices indices)
      block (Fin.ofNat 16 index) candidate nextRow) fun node =>
      NodeFollowed tokenCosts (.ofIndices indices) block index (count + 1)
        (nextRow :: later) node ∧
      (¬ MovesEnd tokenCosts multipliers (.ofIndices indices) block
        (Fin.ofNat 16 index) nextRow → node.token ≠ .eob) := by
  by_cases hkept : candidate ≠ 0 ∨ (nextRow (bestNext tokenCosts multipliers
      (.ofIndices indices) block (Fin.ofNat 16 index) candidate
      nextRow)).token ≠ .eob
  · exact (kept_followed hindex hcount hcandidate hrange hnext hkept).mono
      fun node hnode => ⟨hnode.1, fun _ => hnode.2⟩
  · rw [not_or, not_not, not_not] at hkept
    obtain ⟨rfl, hdropped⟩ := hkept
    have hmoved : MovesEnd tokenCosts multipliers (.ofIndices indices) block
        (Fin.ofNat 16 index) nextRow := ⟨hcandidate, hdropped⟩
    exact (dropped_followed hindex hcount hcandidate hnext.bounded hdropped
      (hmoves hmoved)).mono fun node hnode =>
        ⟨hnode, fun hstays => absurd hmoved hstays⟩

theorem buildRow_followed {index : Nat} (hindex : index < 16)
    {nextRow : TrellisRow} {later : List TrellisRow} {count : Nat}
    (hcount : count ≤ 15)
    (hrange : -2048 ≤ quantizedCoeff (.ofIndices indices) block
        (Fin.ofNat 16 index) ∧
      quantizedCoeff (.ofIndices indices) block (Fin.ofNat 16 index) ≤ 2047)
    (hnext : RowFollowed tokenCosts (.ofIndices indices) block (index + 1) count
      later nextRow)
    (hmoves : MovesEnd tokenCosts multipliers (.ofIndices indices) block
      (Fin.ofNat 16 index) nextRow →
      distortionOf (.ofIndices indices) block (indicesFrom (index + 1)) [] = 0) :
    Succeeds (buildRow tokenCosts multipliers (.ofIndices indices) block
      (Fin.ofNat 16 index) nextRow) fun row =>
      RowFollowed tokenCosts (.ofIndices indices) block index (count + 1)
        (nextRow :: later) row ∧
      (¬ MovesEnd tokenCosts multipliers (.ofIndices indices) block
        (Fin.ofNat 16 index) nextRow → ∀ level, (row level).token ≠ .eob) := by
  have hself : IsCandidate (quantizedCoeff (.ofIndices indices) block
      (Fin.ofNat 16 index)) (quantizedCoeff (.ofIndices indices) block
        (Fin.ofNat 16 index)) := .inl rfl
  obtain ⟨first, hfirst, ⟨values, hvalues⟩, hfirstStays⟩ :=
    evaluateCandidate_followed hindex hcount hself hrange hnext hmoves
  unfold buildRow
  dsimp only
  rw [hfirst, ok_bind]
  split
  · refine ⟨_, rfl, fun level => ⟨values, hvalues _ level rfl⟩, ?_⟩
    exact fun hstays _ => hfirstStays hstays
  · next candidate hcandidate =>
      have hother : IsCandidate (quantizedCoeff (.ofIndices indices) block
          (Fin.ofNat 16 index)) candidate := .inr hcandidate
      obtain ⟨second, hsecond, ⟨others, hothers⟩, hsecondStays⟩ :=
        evaluateCandidate_followed hindex hcount hother (hother.range hrange)
          hnext hmoves
      rw [hsecond, ok_bind]
      refine ⟨_, rfl, fun level => ?_, fun hstays level => ?_⟩
      · match level with
        | 0 => exact ⟨values, hvalues _ 0 rfl⟩
        | 1 => exact ⟨others, hothers _ 1 rfl⟩
      · match level with
        | 0 => exact hfirstStays hstays
        | 1 => exact hsecondStays hstays

end Node

section Length

variable {Mode : Type} (block : Block Mode)

theorem codedLength_range : block.codedLength = 0 ∨
    Block.firstCoefficient block.type < block.codedLength ∧
      block.codedLength ≤ 16 := by
  refine List.foldlRecOn (motive := fun length : Nat => length = 0 ∨
    Block.firstCoefficient block.type < length ∧ length ≤ 16) _ _ (.inl rfl)
    fun length hlength index hindex => ?_
  split
  · have hle := Block.mem_drop_finRange.mp hindex
    exact .inr ⟨Nat.lt_succ_of_le hle, index.isLt⟩
  · exact hlength

theorem originalCoeff_eq_zero {index : Fin 16}
    (hfirst : Block.firstCoefficient block.type ≤ index)
    (hindex : block.codedLength ≤ index) : originalCoeff block index = 0 := by
  have hmeasures := block.codedLength_measures index hfirst
  have hnone := not_not.mp (hmeasures.not.mp (Nat.not_lt.mpr hindex))
  exact hnone index (Nat.le_refl _)

theorem originalCoeff_last (h : block.codedLength ≠ 0) :
    originalCoeff block (Fin.ofNat 16 (lastIndex block)) ≠ 0 := by
  obtain hzero | ⟨hfirst, hle⟩ := codedLength_range block
  · exact absurd hzero h
  have hval : (Fin.ofNat 16 (lastIndex block) : Nat) = block.codedLength - 1 :=
    Nat.mod_eq_of_lt (by unfold lastIndex; omega)
  intro hzero
  have hmeasures := block.codedLength_measures (Fin.ofNat 16 (lastIndex block))
    (by omega)
  refine hmeasures.mp (by omega) fun other hother => ?_
  rcases Nat.lt_or_eq_of_le hother with hlt | heq
  · exact originalCoeff_eq_zero block (by omega) (by omega)
  · rw [← Fin.ext heq]
    exact hzero

theorem distortionOf_coded (quantizer : Quantizer) {index : Nat}
    (hfirst : Block.firstCoefficient block.type ≤ index)
    (hindex : block.codedLength ≤ index) :
    distortionOf quantizer block (indicesFrom index) [] = 0 := by
  by_cases hlt : index < 16
  · have hval : (Fin.ofNat 16 index : Nat) = index := Nat.mod_eq_of_lt hlt
    have hzero : errorOf block quantizer (Fin.ofNat 16 index) 0 = 0 := by
      rw [errorOf, originalCoeff_eq_zero block (by omega) (by omega)]
      simp
    rw [indicesFrom_of_lt hlt, distortionOf, hzero, Nat.zero_add]
    exact distortionOf_coded quantizer (by omega) (by omega)
  · rw [indicesFrom_of_le (by omega), distortionOf]
termination_by 16 - index

end Length

section Last

variable {Mode : Type} {tokenCosts : TokenCosts} {multipliers : Multipliers}
  {indices : QuantIndices} {block : Block Mode}

theorem isCandidate_zero_iff {quantized : Int} :
    IsCandidate quantized 0 ↔ quantized.natAbs ≤ 1 := by
  constructor
  · intro h
    have htowards := h.towards_zero
    omega
  · intro h
    obtain rfl | rfl | rfl : quantized = 0 ∨ quantized = 1 ∨ quantized = -1 := by
      omega
    · exact .inl rfl
    · exact .inr rfl
    · exact .inr rfl

theorem sentinelRow_bounded : RowBounded 0 sentinelRow :=
  fun _ => ⟨Nat.le_refl 0, Nat.le_refl 0⟩

theorem evaluateCandidate_sentinel_zero {index : Fin 16}
    (hcandidate : IsCandidate
      (quantizedCoeff (.ofIndices indices) block index) 0) :
    evaluateCandidate tokenCosts multipliers (.ofIndices indices) block index 0
        sentinelRow = .ok (endNode multipliers
      (squaredError (.ofIndices indices) block index 0)) :=
  evaluateCandidate_dropped (Nat.zero_le 15) hcandidate sentinelRow_bounded rfl

theorem evaluateCandidate_sentinel {index : Fin 16} {candidate : Int}
    (hcandidate : IsCandidate
      (quantizedCoeff (.ofIndices indices) block index) candidate)
    (hnonzero : candidate ≠ 0) {node : TrellisNode}
    (h : evaluateCandidate tokenCosts multipliers (.ofIndices indices) block
      index candidate sentinelRow = .ok node) :
    node.rate = 0 + entryCost tokenCosts block (index + 1)
        (prevTokenClass (tokenForCoeff candidate)) .eob +
        (valueCost (2048 + candidate).toNat).toUInt32 ∧
      node.distortion =
        0 + squaredError (.ofIndices indices) block index candidate ∧
      node.token = tokenForCoeff candidate := by
  rw [evaluateCandidate_kept (Nat.zero_le 15) hcandidate sentinelRow_bounded
    (.inl hnonzero)] at h
  obtain ⟨base, hbase, h⟩ := bind_eq_ok h
  cases h
  rw [coeffBaseCost_eq_ok (range_of_coeffBaseCost hbase)] at hbase
  cases hbase
  exact ⟨rfl, rfl, rfl⟩

theorem buildRow_eq_ok {index : Fin 16} {nextRow row : TrellisRow}
    (h : buildRow tokenCosts multipliers (.ofIndices indices) block index
      nextRow = .ok row) :
    ∃ first,
      evaluateCandidate tokenCosts multipliers (.ofIndices indices) block index
        (quantizedCoeff (.ofIndices indices) block index) nextRow = .ok first ∧
      (candidateCoeff (quantizedCoeff (.ofIndices indices) block index) 1 =
          none ∧ row = (fun _ => first) ∨
        ∃ candidate second,
          candidateCoeff (quantizedCoeff (.ofIndices indices) block index) 1 =
            some candidate ∧
          evaluateCandidate tokenCosts multipliers (.ofIndices indices) block
            index candidate nextRow = .ok second ∧ row = ![first, second]) := by
  obtain ⟨first, hfirst, h⟩ := bind_eq_ok h
  refine ⟨first, hfirst, ?_⟩
  split at h
  · next hnone =>
      cases h
      exact .inl ⟨hnone, rfl⟩
  · next candidate hcandidate =>
      obtain ⟨second, hsecond, h⟩ := bind_eq_ok h
      cases h
      exact .inr ⟨candidate, second, hcandidate, hsecond, rfl⟩

theorem tokenForCoeff_one {coeff : Int} (h : coeff.natAbs = 1) :
    tokenForCoeff coeff = .one := by
  rw [tokenForCoeff, h]
  rfl

theorem candidateCoeff_of_ne {quantized : Int} (h : quantized ≠ 0) :
    ∃ candidate, candidateCoeff quantized 1 = some candidate ∧
      candidate.natAbs + 1 = quantized.natAbs := by
  unfold candidateCoeff
  split
  · exact ⟨_, rfl, by omega⟩
  · rw [if_pos (by omega)]
    exact ⟨_, rfl, by omega⟩

theorem lastIndex_pred (hpos : 0 < lastIndex block) :
    (Fin.ofNat 16 (lastIndex block - 1) : Nat) + 1 =
      (Fin.ofNat 16 (lastIndex block) : Nat) := by
  have hrange := codedLength_range block
  have hlast : lastIndex block < 16 := by
    unfold lastIndex
    omega
  change (lastIndex block - 1) % 16 + 1 = lastIndex block % 16
  omega

theorem eob_of_last_zero {nextRow : TrellisRow}
    (h : buildRow tokenCosts multipliers (.ofIndices indices) block
      (Fin.ofNat 16 (lastIndex block)) sentinelRow = .ok nextRow)
    (hzero : quantizedCoeff (.ofIndices indices) block
      (Fin.ofNat 16 (lastIndex block)) = 0) (choice : Fin 2) :
    (nextRow choice).token = .eob := by
  obtain ⟨first, hfirst, hrow⟩ := buildRow_eq_ok h
  rw [hzero] at hfirst hrow
  rw [evaluateCandidate_sentinel_zero (.inl hzero.symm)] at hfirst
  cases hfirst
  obtain ⟨-, rfl⟩ | ⟨candidate, second, hcandidate, -⟩ := hrow
  · rfl
  · have hnone : candidateCoeff 0 1 = none := rfl
    rw [hnone] at hcandidate
    cases hcandidate

theorem last_nonzero {candidate : Int}
    (hcandidate : IsCandidate (quantizedCoeff (.ofIndices indices) block
      (Fin.ofNat 16 (lastIndex block))) candidate)
    (hnonzero : candidate ≠ 0) {node : TrellisNode}
    (h : evaluateCandidate tokenCosts multipliers (.ofIndices indices) block
      (Fin.ofNat 16 (lastIndex block)) candidate sentinelRow = .ok node) :
    node.token ≠ .eob := by
  rw [(evaluateCandidate_sentinel hcandidate hnonzero h).2.2]
  exact tokenForCoeff_ne_eob _

/-- A last coefficient of magnitude one is kept or left out, whichever costs
less. -/
theorem eob_of_last_one_iff (hpos : 0 < lastIndex block)
    (hone : (quantizedCoeff (.ofIndices indices) block
      (Fin.ofNat 16 (lastIndex block))).natAbs = 1) {first : TrellisNode}
    (hfirst : evaluateCandidate tokenCosts multipliers (.ofIndices indices) block
      (Fin.ofNat 16 (lastIndex block)) (quantizedCoeff (.ofIndices indices) block
        (Fin.ofNat 16 (lastIndex block))) sentinelRow = .ok first)
    {row : TrellisRow}
    (hrow : row = ![first, endNode multipliers (squaredError
      (.ofIndices indices) block (Fin.ofNat 16 (lastIndex block)) 0)]) :
    (row (bestNext tokenCosts multipliers (.ofIndices indices) block
      (Fin.ofNat 16 (lastIndex block - 1)) 0 row)).token = .eob ↔
        endPathCost tokenCosts multipliers (.ofIndices indices) block <
          onePathCost tokenCosts multipliers (.ofIndices indices) block := by
  have hnonzero : quantizedCoeff (.ofIndices indices) block
      (Fin.ofNat 16 (lastIndex block)) ≠ 0 := by omega
  obtain ⟨hrate, hdistortion, htoken⟩ :=
    evaluateCandidate_sentinel (.inl rfl) hnonzero hfirst
  have hindex := lastIndex_pred hpos
  have honePath : rdCosts tokenCosts multipliers (.ofIndices indices) block
      (Fin.ofNat 16 (lastIndex block - 1)) 0 row 0 =
        onePathCost tokenCosts multipliers (.ofIndices indices) block := by
    rw [hrow]
    change multipliers.rdcost (first.rate + entryCost tokenCosts block
      ((Fin.ofNat 16 (lastIndex block - 1) : Nat) + 1) 0 first.token)
      (first.distortion + _) = _
    rw [hindex, hrate, hdistortion, htoken, tokenForCoeff_one hone]
    rfl
  have hendPath : rdCosts tokenCosts multipliers (.ofIndices indices) block
      (Fin.ofNat 16 (lastIndex block - 1)) 0 row 1 =
        endPathCost tokenCosts multipliers (.ofIndices indices) block := by
    rw [hrow]
    change multipliers.rdcost (0 + entryCost tokenCosts block
      ((Fin.ofNat 16 (lastIndex block - 1) : Nat) + 1) 0 .eob)
      (_ + _) = _
    rw [hindex]
    rfl
  unfold bestNext
  rw [honePath, hendPath, hrow]
  split
  · next hless => exact iff_of_true rfl hless
  · next hless => exact iff_of_false (last_nonzero (.inl rfl) hnonzero hfirst) hless

/-- The end of the block is the better continuation of a zero before the last
row. -/
theorem last_eob_iff (hpos : 0 < lastIndex block) {nextRow : TrellisRow}
    (h : buildRow tokenCosts multipliers (.ofIndices indices) block
      (Fin.ofNat 16 (lastIndex block)) sentinelRow = .ok nextRow) :
    (nextRow (bestNext tokenCosts multipliers (.ofIndices indices) block
      (Fin.ofNat 16 (lastIndex block - 1)) 0 nextRow)).token = .eob ↔
      quantizedCoeff (.ofIndices indices) block
          (Fin.ofNat 16 (lastIndex block)) = 0 ∨
        (quantizedCoeff (.ofIndices indices) block
          (Fin.ofNat 16 (lastIndex block))).natAbs = 1 ∧
        endPathCost tokenCosts multipliers (.ofIndices indices) block <
          onePathCost tokenCosts multipliers (.ofIndices indices) block := by
  by_cases hzero : quantizedCoeff (.ofIndices indices) block
      (Fin.ofNat 16 (lastIndex block)) = 0
  · exact iff_of_true (eob_of_last_zero h hzero _) (.inl hzero)
  obtain ⟨first, hfirst, hrow⟩ := buildRow_eq_ok h
  obtain ⟨other, hother, hnearer⟩ := candidateCoeff_of_ne hzero
  obtain ⟨hnone, -⟩ | ⟨candidate, second, hcandidate, hsecond, hpair⟩ := hrow
  · rw [hother] at hnone
    cases hnone
  obtain rfl : other = candidate := Option.some.inj (hother.symm.trans hcandidate)
  by_cases hone : (quantizedCoeff (.ofIndices indices) block
      (Fin.ofNat 16 (lastIndex block))).natAbs = 1
  · obtain rfl : other = 0 := by omega
    rw [evaluateCandidate_sentinel_zero (.inr hother)] at hsecond
    cases hsecond
    rw [eob_of_last_one_iff hpos hone hfirst hpair]
    constructor
    · intro hless
      exact .inr ⟨hone, hless⟩
    · rintro (hend | ⟨-, hless⟩)
      · exact absurd hend hzero
      · exact hless
  · -- both nodes of the row keep a coefficient
    have hfirstToken := last_nonzero (.inl rfl) hzero hfirst
    have hsecondToken := last_nonzero (.inr hother) (by omega) hsecond
    refine iff_of_false ?_ ?_
    · subst hpair
      unfold bestNext
      split
      · exact hsecondToken
      · exact hfirstToken
    · rintro (hend | ⟨hend, -⟩)
      · exact hzero hend
      · exact hone hend

end Last

section Rows

variable {Mode : Type} {tokenCosts : TokenCosts} {multipliers : Multipliers}
  {indices : QuantIndices} {block : Block Mode}

theorem sentinelRow_followed
    (hfirst : Block.firstCoefficient block.type ≤ block.codedLength) :
    RowFollowed tokenCosts (.ofIndices indices) block block.codedLength 0 []
      sentinelRow := by
  have hdistortion := distortionOf_coded block (.ofIndices indices) hfirst
    (Nat.le_refl _)
  refine fun level => ⟨[], followLinks_eob rfl, ⟨hdistortion.symm, ?_⟩,
    iff_of_true rfl rfl, fun h => absurd rfl h, Nat.le_refl _, Nat.le_refl _⟩
  intro context
  by_cases hlt : block.codedLength < 16
  · have hval : (Fin.ofNat 16 block.codedLength : Nat) = block.codedLength :=
      Nat.mod_eq_of_lt hlt
    rw [indicesFrom_of_lt hlt, writingRate, hval]
    exact Nat.zero_add _
  · rw [indicesFrom_of_le (Nat.le_of_not_lt hlt), writingRate, entryCost,
      dif_neg hlt]
    rfl

structure RowsFollowed (tokenCosts : TokenCosts) (quantizer : Quantizer)
    (block : Block Mode) (index count : Nat)
    (rows : TrellisRow × List TrellisRow) : Prop where
  followed : RowFollowed tokenCosts quantizer block index count rows.2 rows.1
  accounts : RowsAccount tokenCosts quantizer block rows.2 rows.1 index
  stays : 2 ≤ count → ∀ level, (rows.1 level).token ≠ .eob

theorem buildRows_succ_eq_ok {quantizer : Quantizer} {count index : Nat}
    {rows : TrellisRow × List TrellisRow}
    (h : buildRows tokenCosts multipliers quantizer block (count + 1) index =
      .ok rows) :
    ∃ nextRows row,
      buildRows tokenCosts multipliers quantizer block count (index + 1) =
        .ok nextRows ∧
      buildRow tokenCosts multipliers quantizer block (Fin.ofNat 16 index)
        nextRows.1 = .ok row ∧
      rows = (row, nextRows.1 :: nextRows.2) := by
  obtain ⟨nextRows, hnextRows, h⟩ := bind_eq_ok h
  obtain ⟨row, hrow, h⟩ := bind_eq_ok h
  cases h
  exact ⟨nextRows, row, hnextRows, hrow, rfl⟩

/-- Unless a tail is dropped, the end of the block moves only to the last
index. -/
theorem not_movesEnd {index count : Nat}
    (hfirst : Block.firstCoefficient block.type ≤ index)
    (hcount : index + 1 + count = block.codedLength) (hpos : 0 < count)
    (hnot : ¬ TailDropped tokenCosts multipliers (.ofIndices indices) block)
    {rows : TrellisRow × List TrellisRow}
    (hbuilt : buildRows tokenCosts multipliers (.ofIndices indices) block count
      (index + 1) = .ok rows)
    (hrows : RowsFollowed tokenCosts (.ofIndices indices) block (index + 1)
      count rows) :
    ¬ MovesEnd tokenCosts multipliers (.ofIndices indices) block
      (Fin.ofNat 16 index) rows.1 := by
  rintro ⟨hzero, hend⟩
  match count with
  | 1 =>
      have hlast : index + 1 = lastIndex block := by
        unfold lastIndex
        omega
      have hbefore : index = lastIndex block - 1 := by omega
      obtain ⟨nextRows, row, hnextRows, hrow, rfl⟩ :=
        buildRows_succ_eq_ok hbuilt
      cases hnextRows
      rw [hlast] at hrow
      rw [hbefore] at hzero hend
      refine hnot ⟨by omega, isCandidate_zero_iff.mp hzero, ?_⟩
      exact (last_eob_iff (by omega) hrow).mp hend
  | count + 2 => exact hrows.stays (by omega) _ hend

theorem buildRows_followed {count index : Nat}
    (hfirst : Block.firstCoefficient block.type ≤ index)
    (hcount : index + count = block.codedLength)
    (hcosts : HaveCosts (.ofIndices indices) block)
    (hnot : ¬ TailDropped tokenCosts multipliers (.ofIndices indices) block) :
    Succeeds (buildRows tokenCosts multipliers (.ofIndices indices) block count
      index) (RowsFollowed tokenCosts (.ofIndices indices) block index count) := by
  induction count generalizing index with
  | zero =>
      obtain rfl : index = block.codedLength := hcount
      exact succeeds_pure ⟨sentinelRow_followed hfirst, trivial,
        fun h => absurd h (by decide)⟩
  | succ count ih =>
      have hrange := codedLength_range block
      have hval : (Fin.ofNat 16 index : Nat) = index :=
        Nat.mod_eq_of_lt (by omega)
      have hlater : Succeeds (buildRows tokenCosts multipliers
          (.ofIndices indices) block count (index + 1))
          (RowsFollowed tokenCosts (.ofIndices indices) block (index + 1)
            count) := ih (by omega) (by omega)
      obtain ⟨rows, hbuilt, hrows⟩ := hlater
      have hmoves : MovesEnd tokenCosts multipliers (.ofIndices indices) block
          (Fin.ofNat 16 index) rows.1 →
          distortionOf (.ofIndices indices) block (indicesFrom (index + 1)) [] =
            0 := by
        intro hmoved
        rcases Nat.eq_zero_or_pos count with rfl | hpos
        · exact distortionOf_coded block _ (by omega) (by omega)
        · exact absurd hmoved
            (not_movesEnd hfirst (by omega) hpos hnot hbuilt hrows)
      obtain ⟨row, hrow, hfollowed, hstays⟩ := buildRow_followed (by omega)
        (by omega) (hcosts (Fin.ofNat 16 index) (by omega) (by omega))
        hrows.followed hmoves
      unfold buildRows
      rw [hbuilt, ok_bind]
      dsimp only
      rw [hrow, ok_bind]
      refine succeeds_pure ⟨hfollowed, ⟨fun level => ?_, hrows.accounts⟩, ?_⟩
      · obtain ⟨values, hvalues⟩ := hfollowed level
        exact ⟨values, hvalues.follows, hvalues.accounts⟩
      · intro htwo
        exact hstays
          (not_movesEnd hfirst (by omega) (by omega) hnot hbuilt hrows)

end Rows

section Choice

variable {Mode : Type} {tokenCosts : TokenCosts} {multipliers : Multipliers}
  {indices : QuantIndices} {block : Block Mode} {tokenContext : Fin 3}

theorem followLinks_congr {later : List TrellisRow} {row other : TrellisRow}
    {level : Fin 2} (htoken : (row level).token = (other level).token)
    (hcoeff : (row level).coeff = (other level).coeff)
    (hnext : (row level).next = (other level).next) :
    followLinks later row level = followLinks later other level := by
  rw [followLinks.eq_def, followLinks.eq_def]
  dsimp only
  rw [htoken, hcoeff, hnext]

/-- With the first token paid for, the cost of a node is that of the values that
it leads to. -/
theorem payFirst_followed {later : List TrellisRow} {row : TrellisRow}
    {count : Nat} (hcount : count ≤ 16)
    (h : RowFollowed tokenCosts (.ofIndices indices) block
      (Block.firstCoefficient block.type) count later row) (level : Fin 2) :
    (payFirst tokenCosts multipliers block (Block.firstCoefficient block.type)
        tokenContext row level).cost < 4294967295 ∧
      ∃ values,
        followLinks later (payFirst tokenCosts multipliers block
          (Block.firstCoefficient block.type) tokenContext row) level =
          .ok values ∧
        (payFirst tokenCosts multipliers block
          (Block.firstCoefficient block.type) tokenContext row
          level).cost.toNat = realCost tokenCosts multipliers
            (.ofIndices indices) block tokenContext values := by
  obtain ⟨values, hvalues⟩ := h level
  have hrateLe := hvalues.rate_le
  have hdistortionLe := hvalues.distortion_le
  have hentry := entryCost_le tokenCosts block
    (Block.firstCoefficient block.type) tokenContext (row level).token
  have hrate : ((row level).rate + entryCost tokenCosts block
      (Block.firstCoefficient block.type) tokenContext (row level).token).toNat =
      writingRate tokenCosts block
        (indicesFrom (Block.firstCoefficient block.type)) tokenContext values := by
    rw [← hvalues.accounts.rate, UInt32.toNat_add]
    omega
  have hrateSmall : ((row level).rate + entryCost tokenCosts block
      (Block.firstCoefficient block.type) tokenContext
        (row level).token).toNat ≤ 2228190 := by
    rw [UInt32.toNat_add]
    omega
  obtain ⟨hcost, hlt⟩ := multipliers.rdcost_toNat hrateSmall
    (show (row level).distortion.toNat ≤ 12390400 by omega)
  refine ⟨hlt, values, ?_, ?_⟩
  · rw [← hvalues.follows]
    exact followLinks_congr rfl rfl rfl
  · rw [realCost, ← hrate, ← hvalues.accounts.distortion]
    exact hcost

theorem trellisAccounts_of
    (hcosts : HaveCosts (.ofIndices indices) block)
    (hnot : ¬ TailDropped tokenCosts multipliers (.ofIndices indices) block) :
    TrellisAccounts tokenCosts multipliers (.ofIndices indices) block
      tokenContext := by
  obtain hzero | ⟨hfirst, hle⟩ := codedLength_range block
  · exact .inl hzero
  have hnonzero : block.codedLength ≠ 0 := by omega
  obtain ⟨rows, hbuilt, hrows⟩ := buildRows_followed (Nat.le_refl _)
    (Nat.add_sub_of_le hfirst.le) hcosts hnot
  have hcount : block.codedLength - Block.firstCoefficient block.type ≤ 16 := by
    omega
  have hlt : (payFirst tokenCosts multipliers block
      (Block.firstCoefficient block.type) tokenContext rows.1 0).cost <
      4294967295 := (payFirst_followed hcount hrows.followed 0).1
  obtain ⟨minChoice, hchoice⟩ : ∃ minChoice, smallest (fun level =>
      (payFirst tokenCosts multipliers block
        (Block.firstCoefficient block.type) tokenContext rows.1 level).cost) =
      some minChoice := ⟨_, smallest_of_lt hlt⟩
  obtain ⟨-, values, hvalues, hcost⟩ :=
    payFirst_followed hcount hrows.followed minChoice
  have hresult : buildTrellis tokenCosts multipliers (.ofIndices indices)
      tokenContext block = .ok {
        row := rows.1
        later := rows.2
        first := payFirst tokenCosts multipliers block
          (Block.firstCoefficient block.type) tokenContext rows.1
        minChoice := minChoice } := by
    unfold buildTrellis
    dsimp only
    rw [hbuilt, ok_bind, hchoice]
    rfl
  refine .inr ⟨_, hresult, hrows.accounts, values, ?_, ?_, hcost⟩
  · rw [trellisQuantize, if_neg hnonzero, hresult, ok_bind,
      hvalues, ok_bind]
    rfl
  · exact fun level => smallest_le hlt hchoice level

theorem range_of_evaluateCandidate {quantizer : Quantizer} {index : Fin 16}
    {candidate : Int} {nextRow : TrellisRow} {node : TrellisNode}
    (h : evaluateCandidate tokenCosts multipliers quantizer block index
      candidate nextRow = .ok node) : -2048 ≤ candidate ∧ candidate ≤ 2047 := by
  by_cases hzero : candidate = 0
  · rw [hzero]
    decide
  unfold evaluateCandidate at h
  dsimp only at h
  split at h
  · cases h
  · rw [if_pos (.inl hzero)] at h
    obtain ⟨base, hbase, -⟩ := bind_eq_ok h
    exact range_of_coeffBaseCost hbase

theorem rows_reached {quantizer : Quantizer} {count index : Nat}
    {rows : TrellisRow × List TrellisRow}
    (hbuilt : buildRows tokenCosts multipliers quantizer block count index =
      .ok rows)
    (haccounts : RowsAccount tokenCosts quantizer block rows.2 rows.1 index)
    {offset rest : Nat} (hcount : offset + rest = count) :
    ∃ reached,
      buildRows tokenCosts multipliers quantizer block rest (index + offset) =
        .ok reached ∧
      RowsAccount tokenCosts quantizer block reached.2 reached.1
        (index + offset) := by
  induction offset generalizing count index rows with
  | zero =>
      obtain rfl : rest = count := by omega
      exact ⟨rows, hbuilt, haccounts⟩
  | succ offset ih =>
      obtain ⟨count, rfl⟩ : ∃ fewer, count = fewer + 1 :=
        ⟨offset + rest, by omega⟩
      obtain ⟨nextRows, row, hnextRows, -, rfl⟩ := buildRows_succ_eq_ok hbuilt
      obtain ⟨reached, hreached⟩ := ih hnextRows haccounts.2 (by omega)
      refine ⟨reached, ?_⟩
      rwa [Nat.add_right_comm, Nat.add_assoc] at hreached

theorem haveCosts_of {rows : TrellisRow × List TrellisRow}
    (hbuilt : buildRows tokenCosts multipliers (.ofIndices indices) block
      (block.codedLength - Block.firstCoefficient block.type)
      (Block.firstCoefficient block.type) = .ok rows)
    (haccounts : RowsAccount tokenCosts (.ofIndices indices) block rows.2 rows.1
      (Block.firstCoefficient block.type)) :
    HaveCosts (.ofIndices indices) block := by
  intro index hfirst hindex
  have hcount : index - Block.firstCoefficient block.type +
      (block.codedLength - index - 1 + 1) =
      block.codedLength - Block.firstCoefficient block.type := by omega
  obtain ⟨reached, hreached, -⟩ := rows_reached hbuilt haccounts hcount
  rw [Nat.add_sub_of_le hfirst] at hreached
  obtain ⟨nextRows, row, -, hrow, -⟩ := buildRows_succ_eq_ok hreached
  obtain ⟨first, hevaluated, -⟩ := buildRow_eq_ok hrow
  have hself : Fin.ofNat 16 (index : Nat) = index :=
    Fin.ext (Nat.mod_eq_of_lt index.isLt)
  rw [hself] at hevaluated
  exact range_of_evaluateCandidate hevaluated

theorem exists_level_zero {index : Fin 16} {nextRow row : TrellisRow}
    (hrow : buildRow tokenCosts multipliers (.ofIndices indices) block index
      nextRow = .ok row)
    (hsmall : (quantizedCoeff (.ofIndices indices) block index).natAbs ≤ 1) :
    ∃ level, evaluateCandidate tokenCosts multipliers (.ofIndices indices) block
      index 0 nextRow = .ok (row level) := by
  obtain ⟨first, hfirst, hrest⟩ := buildRow_eq_ok hrow
  by_cases hzero : quantizedCoeff (.ofIndices indices) block index = 0
  · rw [hzero] at hfirst hrest
    refine ⟨0, ?_⟩
    obtain ⟨-, rfl⟩ | ⟨candidate, second, -, -, rfl⟩ := hrest
    · exact hfirst
    · exact hfirst
  · obtain ⟨other, hother, hnearer⟩ := candidateCoeff_of_ne hzero
    obtain ⟨hnone, -⟩ | ⟨candidate, second, hcandidate, hsecond, rfl⟩ := hrest
    · rw [hother] at hnone
      cases hnone
    · rw [hother] at hcandidate
      cases hcandidate
      obtain rfl : other = 0 := by omega
      exact ⟨1, hsecond⟩

theorem lost_distortion (quantizer : Quantizer)
    (h : Block.firstCoefficient block.type < lastIndex block) :
    errorOf block quantizer (Fin.ofNat 16 (lastIndex block - 1)) 0 <
      distortionOf quantizer block (indicesFrom (lastIndex block - 1)) [] := by
  have hnonzero := originalCoeff_last block (by unfold lastIndex at h; omega)
  have hlast : lastIndex block < 16 := by
    have hrange := codedLength_range block
    unfold lastIndex
    omega
  have hpos : 0 < errorOf block quantizer (Fin.ofNat 16 (lastIndex block)) 0 := by
    unfold errorOf
    rw [Int.zero_mul, Int.sub_zero]
    exact Nat.pow_pos (Int.natAbs_pos.mpr hnonzero)
  have hnext : lastIndex block - 1 + 1 = lastIndex block := by omega
  rw [indicesFrom_of_lt (by omega), distortionOf, hnext,
    indicesFrom_of_lt hlast, distortionOf]
  omega

theorem not_tailDropped_of {rows : TrellisRow × List TrellisRow}
    (hbuilt : buildRows tokenCosts multipliers (.ofIndices indices) block
      (block.codedLength - Block.firstCoefficient block.type)
      (Block.firstCoefficient block.type) = .ok rows)
    (haccounts : RowsAccount tokenCosts (.ofIndices indices) block rows.2 rows.1
      (Block.firstCoefficient block.type)) :
    ¬ TailDropped tokenCosts multipliers (.ofIndices indices) block := by
  rintro ⟨hfirst, hsmall, hend⟩
  have hcosts := haveCosts_of hbuilt haccounts
  have hlength : block.codedLength = lastIndex block + 1 := by
    unfold lastIndex at hfirst ⊢
    omega
  have hrange := codedLength_range block
  have hcount : lastIndex block - 1 - Block.firstCoefficient block.type + 2 =
      block.codedLength - Block.firstCoefficient block.type := by omega
  obtain ⟨reached, hreached, hreachedAccounts⟩ :=
    rows_reached hbuilt haccounts hcount
  have hbefore : Block.firstCoefficient block.type +
      (lastIndex block - 1 - Block.firstCoefficient block.type) =
      lastIndex block - 1 := by omega
  have hnext : lastIndex block - 1 + 1 = lastIndex block := by omega
  rw [hbefore] at hreached hreachedAccounts
  obtain ⟨nextRows, row, hnextRows, hrow, rfl⟩ := buildRows_succ_eq_ok hreached
  rw [hnext] at hnextRows
  obtain ⟨sentinelRows, lastRow, hsentinel, hlastRow, rfl⟩ :=
    buildRows_succ_eq_ok hnextRows
  cases hsentinel
  have hval : (Fin.ofNat 16 (lastIndex block) : Nat) = lastIndex block :=
    Nat.mod_eq_of_lt (by omega)
  have hsentinelFollowed : RowFollowed tokenCosts (.ofIndices indices) block
      (lastIndex block + 1) 0 [] sentinelRow := by
    rw [← hlength]
    exact sentinelRow_followed (by omega)
  obtain ⟨found, hfound, hfollowed, -⟩ := buildRow_followed (by omega)
    (Nat.zero_le 15) (hcosts (Fin.ofNat 16 (lastIndex block)) (by omega)
      (by omega)) hsentinelFollowed
    fun _ => distortionOf_coded block _ (by omega) (by omega)
  obtain rfl : found = lastRow := Except.ok.inj (hfound.symm.trans hlastRow)
  have heob := (last_eob_iff (by omega) hlastRow).mpr hend
  have hcandidate := isCandidate_zero_iff.mpr hsmall
  obtain ⟨level, hlevel⟩ := exists_level_zero hrow hsmall
  rw [evaluateCandidate_dropped (by decide) hcandidate hfollowed.bounded heob]
    at hlevel
  have hnode := (Except.ok.inj hlevel).symm
  obtain ⟨values, hvalues, hnodeAccounts⟩ := hreachedAccounts.1 level
  dsimp only at hvalues hnodeAccounts
  rw [followLinks_eob (by rw [hnode, endNode])] at hvalues
  cases hvalues
  have hdistortion := hnodeAccounts.distortion
  rw [hnode, endNode, (squaredError_toNat indices block hcandidate).1]
    at hdistortion
  exact absurd hdistortion (lost_distortion _ hfirst).ne

theorem conditions_of
    (h : TrellisAccounts tokenCosts multipliers (.ofIndices indices) block
      tokenContext) :
    HaveCosts (.ofIndices indices) block ∧
      ¬ TailDropped tokenCosts multipliers (.ofIndices indices) block := by
  rcases h with hzero | ⟨result, hresult, haccounts, -⟩
  · refine ⟨fun index _ hindex => ?_, fun hdropped => ?_⟩
    · omega
    · have hlast := hdropped.1
      unfold lastIndex at hlast
      omega
  · obtain ⟨rows, hbuilt, hresult⟩ := bind_eq_ok hresult
    dsimp only at hresult
    split at hresult
    · cases hresult
    · cases hresult
      exact ⟨haveCosts_of hbuilt haccounts, not_tailDropped_of hbuilt haccounts⟩

/-- The trellis accounts for what it writes exactly when the quantized
coefficients have costs and no tail is dropped. -/
theorem trellisAccounts_iff :
    TrellisAccounts tokenCosts multipliers (.ofIndices indices) block
        tokenContext ↔
      HaveCosts (.ofIndices indices) block ∧
        ¬ TailDropped tokenCosts multipliers (.ofIndices indices) block :=
  ⟨conditions_of, fun h => trellisAccounts_of h.1 h.2⟩

end Choice

def smallBlock : Block Codec.MbMode where
  coefficients := fun index => if index = 0 ∨ index = 1 then 3 else 0
  type := .yWithoutY2
  predictionMode := .dcPred

def finestIndices : QuantIndices where
  yAcQi := 0
  yDc := none
  y2Dc := none
  y2Ac := none
  uvDc := none
  uvAc := none

theorem trellisAccounts_small :
    ¬ TrellisAccounts (fillTokenCosts {} fun _ _ _ _ => 0)
      { rate := 44, distortion := 100 } (.ofIndices finestIndices)
      smallBlock 0 := by
  intro h
  refine (conditions_of h).2 ⟨?_, ?_, .inl ?_⟩
  · decide
  · decide
  · decide

end Salsify.Encoder
