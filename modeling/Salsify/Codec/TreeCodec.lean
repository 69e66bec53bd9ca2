import Salsify.Codec.FrameHeader
import Salsify.Lib.BitCodec

namespace Salsify.Codec

open Salsify.Coder (Probability)
open Salsify.Net (Failure)
open BitParser (Echoes echoes_get echoes_pure echoes_fail)

/-! Tree-coded values, as `encoder/encode_tree.cc` writes them and the bool
decoder reads them. -/

abbrev SymbolWriter := BitWriter Probability Failure

def encodeBoolean (probability : Probability) (bit : Bool) : SymbolWriter :=
  .put probability bit

theorem boolean_echoes {Answers : Bool → Prop} (probability : Probability) :
    Echoes Answers [] (boolean probability) (boolean probability)
      (encodeBoolean probability) :=
  echoes_get probability

/-- The index of a node, where a later one replaces an earlier one. Of a value
that the tree does not have nothing is stored. -/
def valueToIndex (nodes : List TreeNode) (node : TreeNode) : Option Nat :=
  (List.range nodes.length).reverse.find? fun index =>
    nodes[index]? = some node

def pathToRoot (nodes : List TreeNode) (probs : List Probability) :
    Nat → Nat → SymbolWriter
  | 0, _ => .error (.undefinedBehaviour "endless tree")
  | fuel + 1, nodeIndex =>
      match probs[nodeIndex / 2]? with
      | none => .error (.assertion "index < size()")
      | some probability =>
          if 1 < nodeIndex then
            match valueToIndex nodes (nodeIndex / 2 * 2 : Nat) with
            | none => .error (.undefinedBehaviour "value_to_index")
            | some parent =>
                (BitWriter.put probability (nodeIndex % 2 = 1)).append
                  (pathToRoot nodes probs fuel parent)
          else
            .put probability (nodeIndex % 2 = 1)

def encodeTree (nodes : List TreeNode) (probs : List Probability)
    (value : Nat) : SymbolWriter :=
  match valueToIndex nodes (-value) with
  | none => .error (.undefinedBehaviour "value_to_index")
  | some nodeIndex =>
      (pathToRoot nodes probs nodes.length nodeIndex).map List.reverse

def encodeTreeOf {α : Type} [DecidableEq α] (values : List α)
    (nodes : List TreeNode) (probs : List Probability) (value : α) : SymbolWriter :=
  encodeTree nodes probs (values.idxOf value)

structure TreeOrdered (nodes : List TreeNode) : Prop where
  nodup : nodes.Nodup
  rises : ∀ index : Fin nodes.length, 0 < nodes[index] →
    (index : Int) < nodes[index] ∧ nodes[index] % 2 = 0

instance (nodes : List TreeNode) : Decidable (TreeOrdered nodes) :=
  decidable_of_iff (nodes.Nodup ∧ ∀ index : Fin nodes.length,
    0 < nodes[index] → (index : Int) < nodes[index] ∧ nodes[index] % 2 = 0)
    ⟨fun ⟨nodup, rises⟩ => ⟨nodup, rises⟩,
      fun ⟨nodup, rises⟩ => ⟨nodup, rises⟩⟩

variable {nodes : List TreeNode} {probs : List Probability}

theorem TreeOrdered.valueToIndex_eq (h : TreeOrdered nodes) {index : Nat}
    {node : TreeNode} (hnode : nodes[index]? = some node) :
    valueToIndex nodes node = some index := by
  obtain ⟨hindex, hnode⟩ := List.getElem?_eq_some_iff.mp hnode
  cases hfound : valueToIndex nodes node with
  | none =>
      unfold valueToIndex at hfound
      rw [List.find?_eq_none] at hfound
      have hmissing := hfound index
        (List.mem_reverse.mpr (List.mem_range.mpr hindex))
      rw [List.getElem?_eq_getElem hindex, hnode] at hmissing
      exact absurd (decide_eq_true rfl) hmissing
  | some other =>
      unfold valueToIndex at hfound
      have hother : nodes[other]? = some node := by
        simpa using List.find?_some hfound
      obtain ⟨hlt, hother⟩ := List.getElem?_eq_some_iff.mp hother
      exact congrArg some (h.nodup.getElem_inj_iff.mp (hother.trans hnode.symm))

theorem toNat_rises {index : Nat} {node : Int} (h : (index : Int) < node)
    (heven : node % 2 = 0) : index < node.toNat ∧ node.toNat % 2 = 0 := by
  omega

theorem neg_toNat_neg {node : Int} (h : ¬ 0 < node) :
    (-((-node).toNat : Int)) = node := by
  omega

theorem TreeOrdered.rises_of (h : TreeOrdered nodes) {index : Nat}
    {node : TreeNode} (hnode : nodes[index]? = some node)
    (hpositive : 0 < node) : index < node.toNat ∧ node.toNat % 2 = 0 := by
  obtain ⟨hindex, rfl⟩ := List.getElem?_eq_some_iff.mp hnode
  obtain ⟨hrises, heven⟩ := h.rises ⟨index, hindex⟩ hpositive
  exact toNat_rises hrises heven

/-- The pair at the index is reached from the root by these symbols. -/
def ReachedBy (nodes : List TreeNode) (probs : List Probability) (index : Nat)
    (written : List (Probability × Bool)) : Prop :=
  index = 0 ∧ written = [] ∨
    ∃ parent, parent < index ∧ valueToIndex nodes index = some parent ∧
      ∀ fuel, parent < fuel →
        pathToRoot nodes probs fuel parent = .ok written.reverse

theorem ReachedBy.step {index : Nat} {written : List (Probability × Bool)}
    (h : ReachedBy nodes probs index written) (heven : index % 2 = 0)
    {probability : Probability} (hprobability : probs[index / 2]? =
      some probability) (bit : Bool) {fuel : Nat}
    (hfuel : index + bit.toNat < fuel) :
    pathToRoot nodes probs fuel (index + bit.toNat) =
      .ok (written ++ [(probability, bit)]).reverse := by
  have hbit : bit.toNat < 2 := Bool.toNat_lt bit
  have hpair : (index + bit.toNat) / 2 = index / 2 := by omega
  have hlow : decide ((index + bit.toNat) % 2 = 1) = bit := by
    cases bit with
    | false => exact decide_eq_false (by simpa using by omega)
    | true => exact decide_eq_true (by simpa using by omega)
  have hback : index / 2 * 2 = index := by omega
  obtain ⟨fuel, rfl⟩ := Nat.exists_eq_succ_of_ne_zero
    (Nat.ne_of_gt (Nat.zero_lt_of_lt hfuel))
  rw [pathToRoot, hpair, hprobability]
  simp only [hlow, hback]
  rw [List.reverse_append, List.reverse_singleton]
  rcases h with ⟨rfl, rfl⟩ | ⟨parent, hparent, hindex, hpath⟩
  · rw [if_neg (by omega)]
    rfl
  · rw [if_pos (by omega), hindex]
    dsimp only
    rw [hpath fuel (by omega)]
    rfl

/-- The symbols that are read from a pair on are written after those that lead
to it. -/
theorem treeFrom_writes (h : TreeOrdered nodes) (fuel : Nat) {index : Nat}
    (heven : index % 2 = 0) {written read : List (Probability × Bool)}
    (hreached : ReachedBy nodes probs index written) {value : Nat}
    (hread : (treeFrom nodes probs fuel index).Consumes read value) :
    encodeTree nodes probs value = .ok (written ++ read) := by
  induction fuel generalizing index written read with
  | zero => cases hread
  | succ fuel ih =>
      rw [treeFrom] at hread
      cases hprobability : probs[index / 2]? with
      | none =>
          rw [hprobability] at hread
          cases hread
      | some probability =>
          rw [hprobability] at hread
          obtain ⟨bit, rest, rfl, hread⟩ := hread
          simp only [BitParser.bind] at hread
          cases hnode : nodes[index + bit.toNat]? with
          | none =>
              rw [hnode] at hread
              cases hread
          | some node =>
              have hvalue := h.valueToIndex_eq hnode
              have hpath {fuel : Nat} (hfuel : index + bit.toNat < fuel) :=
                hreached.step heven hprobability bit hfuel
              rw [hnode] at hread
              dsimp only at hread
              by_cases hpositive : 0 < node
              · obtain ⟨hrises, hpair⟩ := h.rises_of hnode hpositive
                rw [if_pos hpositive] at hread
                have hnext : ReachedBy nodes probs node.toNat
                    (written ++ [(probability, bit)]) := by
                  refine .inr ⟨_, hrises, ?_, fun fuel => hpath⟩
                  rw [Int.toNat_of_nonneg (Int.le_of_lt hpositive)]
                  exact hvalue
                rw [ih hpair hnext hread, List.append_assoc]
                rfl
              · have hindex : index + bit.toNat < nodes.length :=
                  (List.getElem?_eq_some_iff.mp hnode).1
                rw [if_neg hpositive] at hread
                obtain ⟨rfl, rfl⟩ := hread
                rw [encodeTree, neg_toNat_neg hpositive, hvalue]
                dsimp only
                rw [hpath hindex]
                exact congrArg Except.ok (List.reverse_reverse _)

theorem treeFrom_blind (nodes : List TreeNode) (probs : List Probability)
    (fuel index : Nat) : (treeFrom nodes probs fuel index).Blind := by
  induction fuel generalizing index with
  | zero => trivial
  | succ fuel ih =>
      rw [treeFrom]
      cases probs[index / 2]? with
      | none => trivial
      | some probability =>
          intro bit
          simp only [BitParser.bind]
          cases nodes[index + bit.toNat]? with
          | none => trivial
          | some node =>
              dsimp only
              split
              · exact ih _
              · trivial

theorem treeFrom_echoes {Answers : Bool → Prop} (h : TreeOrdered nodes)
    (fuel : Nat) {index : Nat} (heven : index % 2 = 0)
    {written : List (Probability × Bool)}
    (hreached : ReachedBy nodes probs index written) :
    Echoes Answers written (treeFrom nodes probs fuel index)
      (treeFrom nodes probs fuel index) (encodeTree nodes probs) :=
  (treeFrom_blind nodes probs fuel index).yields fun read _ hread =>
    ⟨read, treeFrom_writes h fuel heven hreached hread, hread⟩

theorem treeFrom_yields {Answers : Bool → Prop} {Post : Nat → Prop}
    (h : ∀ node ∈ nodes, ¬ 0 < node → Post (-node).toNat) (fuel : Nat)
    (index : Nat) :
    (treeFrom nodes probs fuel index).Yields Answers Post := by
  induction fuel generalizing index with
  | zero => trivial
  | succ fuel ih =>
      rw [treeFrom]
      cases probs[index / 2]? with
      | none => trivial
      | some probability =>
          intro bit
          simp only [BitParser.bind]
          cases hnode : nodes[index + bit.toNat]? with
          | none => trivial
          | some node =>
              dsimp only
              split
              · exact ih _
              · next hleaf => exact h node (List.mem_of_getElem? hnode) hleaf

theorem tree_echoes {Answers : Bool → Prop} (h : TreeOrdered nodes)
    (probs : List Probability) :
    Echoes Answers [] (tree nodes probs) (tree nodes probs)
      (encodeTree nodes probs) :=
  treeFrom_echoes h nodes.length rfl (.inl ⟨rfl, rfl⟩)

theorem treeOf_echoes {Answers : Bool → Prop} {α : Type} [DecidableEq α]
    {values : List α} (h : TreeOrdered nodes) (hvalues : values.Nodup)
    (probs : List Probability) :
    Echoes Answers [] (treeOf values nodes probs) (treeOf values nodes probs)
      (encodeTreeOf values nodes probs) := by
  apply (tree_echoes h probs).bind
  intro leaf symbols hleaf
  cases hvalue : values[leaf]? with
  | none => exact echoes_fail _ _ _
  | some value =>
      obtain ⟨hlt, rfl⟩ := List.getElem?_eq_some_iff.mp hvalue
      apply echoes_pure
      rw [encodeTreeOf, hvalues.idxOf_getElem, hleaf]
      rfl

end Salsify.Codec
