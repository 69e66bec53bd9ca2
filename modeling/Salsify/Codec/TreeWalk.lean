import Salsify.Codec.TreeCodec
import Salsify.Lib.Turns

namespace Salsify.Codec

open Salsify.Coder (Probability)
open Salsify.Net (Failure)
open BitParser (Completes)

/-! Writing and reading with any tree: the loops of `encoder/encode_tree.cc` and
of `BoolDecoder::tree`, turn by turn. -/

/-- Each pair but the first is referred to once, from before it, and every other
entry is a leaf of its own. -/
structure TreeWellFormed (nodes : List TreeNode) : Prop where
  paired : nodes.length % 2 = 0
  bytes : ∀ node ∈ nodes, -128 ≤ node ∧ node ≤ 127
  referenced : ∀ index < nodes.length, 0 < index → index % 2 = 0 →
    nodes.count (index : Int) = 1
  inner : ∀ node ∈ nodes, 0 < node → node % 2 = 0 ∧ node < nodes.length
  earlier : ∀ parent : Fin nodes.length, 0 < nodes[parent] →
    (parent : Int) < nodes[parent]
  leaves : ∀ node ∈ nodes, ¬ 0 < node → nodes.count node = 1

instance (nodes : List TreeNode) : Decidable (TreeWellFormed nodes) :=
  decidable_of_iff (nodes.length % 2 = 0 ∧
    (∀ node ∈ nodes, -128 ≤ node ∧ node ≤ 127) ∧
    (∀ index < nodes.length, 0 < index → index % 2 = 0 →
      nodes.count (index : Int) = 1) ∧
    (∀ node ∈ nodes, 0 < node → node % 2 = 0 ∧ node < nodes.length) ∧
    (∀ parent : Fin nodes.length, 0 < nodes.get parent →
      (parent : Int) < nodes.get parent) ∧
    ∀ node ∈ nodes, ¬ 0 < node → nodes.count node = 1)
    ⟨fun ⟨paired, bytes, referenced, inner, earlier, leaves⟩ =>
      ⟨paired, bytes, referenced, inner, earlier, leaves⟩,
      fun ⟨paired, bytes, referenced, inner, earlier, leaves⟩ =>
        ⟨paired, bytes, referenced, inner, earlier, leaves⟩⟩

namespace TreeWellFormed

variable {nodes : List TreeNode}

theorem nodup (h : TreeWellFormed nodes) : nodes.Nodup := by
  rw [List.nodup_iff_count_eq_one]
  intro node hnode
  by_cases hpositive : 0 < node
  · obtain ⟨heven, hlt⟩ := h.inner node hnode hpositive
    obtain ⟨index, rfl⟩ := Int.eq_ofNat_of_zero_le (Int.le_of_lt hpositive)
    exact h.referenced index (Int.ofNat_lt.mp hlt) (Int.ofNat_lt.mp hpositive)
      (Int.ofNat_inj.mp heven)
  · exact h.leaves node hnode hpositive

theorem ordered (h : TreeWellFormed nodes) : TreeOrdered nodes where
  nodup := h.nodup
  rises := fun index hpositive =>
    ⟨h.earlier index hpositive,
      (h.inner _ (List.getElem_mem _) hpositive).1⟩

theorem parent (h : TreeWellFormed nodes) {index : Nat}
    (hindex : index < nodes.length) (hpositive : 0 < index)
    (heven : index % 2 = 0) :
    ∃ parent, parent < index ∧ nodes[parent]? = some (index : Int) := by
  have hmem : (index : Int) ∈ nodes := by
    rw [← List.count_pos_iff, h.referenced index hindex hpositive heven]
    exact Nat.one_pos
  obtain ⟨parent, hparent⟩ := List.mem_iff_getElem?.mp hmem
  obtain ⟨hlt, hread⟩ := List.getElem?_eq_some_iff.mp hparent
  have hearlier := h.earlier ⟨parent, hlt⟩
  simp only [Fin.getElem_fin, hread] at hearlier
  exact ⟨parent, Int.ofNat_lt.mp (hearlier (Int.ofNat_lt.mpr hpositive)),
    hparent⟩

theorem length_le (h : TreeWellFormed nodes) : nodes.length ≤ 128 := by
  by_contra hlong
  have hpaired := h.paired
  have hlast : nodes.length - 2 < nodes.length := by omega
  obtain ⟨parent, -, hparent⟩ := h.parent hlast (by omega) (by omega)
  have hbyte : ((nodes.length - 2 : Nat) : Int) ≤ 127 :=
    (h.bytes _ (List.mem_of_getElem? hparent)).2
  omega

end TreeWellFormed

section Path

variable {nodes : List TreeNode} {probs : List Probability}

theorem treeFrom_more {fuel index : Nat} {read : List (Probability × Bool)}
    {value : Nat} (h : (treeFrom nodes probs fuel index).Consumes read value)
    (more : Nat) :
    (treeFrom nodes probs (fuel + more) index).Consumes read value := by
  induction fuel generalizing index read with
  | zero => cases h
  | succ fuel ih =>
      rw [Nat.succ_add]
      rw [treeFrom] at h ⊢
      cases hprobability : probs[index / 2]? with
      | none =>
          rw [hprobability] at h
          cases h
      | some probability =>
          rw [hprobability] at h
          obtain ⟨bit, rest, rfl, h⟩ := h
          refine ⟨bit, rest, rfl, ?_⟩
          simp only [BitParser.bind] at h ⊢
          cases hnode : nodes[index + bit.toNat]? with
          | none =>
              rw [hnode] at h
              cases h
          | some node =>
              rw [hnode] at h
              dsimp only at h ⊢
              by_cases hpositive : 0 < node
              · rw [if_pos hpositive] at h ⊢
                exact ih h
              · rw [if_neg hpositive] at h ⊢
                exact h

theorem treeFrom_step {fuel index : Nat} {probability : Probability}
    (hprobability : probs[index / 2]? = some probability) (bit : Bool)
    {node : TreeNode} (hnode : nodes[index + bit.toNat]? = some node)
    {rest : List (Probability × Bool)} {value : Nat}
    (hrest : (if 0 < node then treeFrom nodes probs fuel node.toNat
      else pure (-node).toNat).Consumes rest value) :
    (treeFrom nodes probs (fuel + 1) index).Consumes
      ((probability, bit) :: rest) value := by
  rw [treeFrom, hprobability]
  refine ⟨bit, rest, rfl, ?_⟩
  simp only [BitParser.bind]
  rw [hnode]
  exact hrest

/-- The pair at the index is where the writer comes from and the reader comes to
with the same symbols. -/
structure OnPath (nodes : List TreeNode) (probs : List Probability)
    (index : Nat) (written : List (Probability × Bool)) : Prop where
  reached : ReachedBy nodes probs index written
  depth : written.length ≤ index
  reads : ∀ {fuel : Nat} {rest : List (Probability × Bool)} {value : Nat},
    (treeFrom nodes probs fuel index).Consumes rest value →
      (treeFrom nodes probs (fuel + written.length) 0).Consumes
        (written ++ rest) value

theorem onPath_root : OnPath nodes probs 0 [] where
  reached := .inl ⟨rfl, rfl⟩
  depth := Nat.le_refl 0
  reads := fun hread => hread

theorem exists_bit (place : Nat) :
    ∃ bit : Bool, place = place / 2 * 2 + bit.toNat := by
  cases Nat.mod_two_eq_zero_or_one place with
  | inl hlow => exact ⟨false, by simp; omega⟩
  | inr hhigh => exact ⟨true, by simp; omega⟩

theorem TreeWellFormed.exists_probability (h : TreeWellFormed nodes)
    (hprobs : probs.length = nodes.length / 2) {place : Nat}
    (hplace : place < nodes.length) :
    ∃ probability, probs[place / 2 * 2 / 2]? = some probability := by
  have hpaired := h.paired
  exact ⟨_, List.getElem?_eq_getElem (by omega)⟩

theorem exists_onPath (h : TreeWellFormed nodes)
    (hprobs : probs.length = nodes.length / 2) {index : Nat}
    (hindex : index < nodes.length) (heven : index % 2 = 0) :
    ∃ written, OnPath nodes probs index written := by
  induction index using Nat.strong_induction_on with
  | _ index ih =>
      cases Nat.eq_zero_or_pos index with
      | inl hzero =>
          subst hzero
          exact ⟨[], onPath_root⟩
      | inr hpositive =>
          obtain ⟨parent, hearlier, hparent⟩ := h.parent hindex hpositive heven
          obtain ⟨bit, hbit⟩ := exists_bit parent
          obtain ⟨written, hpath⟩ := ih (parent / 2 * 2) (by omega) (by omega)
            (by omega)
          obtain ⟨probability, hprobability⟩ :=
            h.exists_probability hprobs (hearlier.trans hindex)
          refine ⟨written ++ [(probability, bit)], .inr ⟨parent, hearlier,
            h.ordered.valueToIndex_eq hparent, fun fuel hfuel => ?_⟩, ?_, ?_⟩
          · have hbefore : parent / 2 * 2 + bit.toNat < fuel := hbit ▸ hfuel
            have hstep := hpath.reached.step (by omega) hprobability bit hbefore
            rwa [← hbit] at hstep
          · have hdepth := hpath.depth
            rw [List.length_append, List.length_singleton]
            omega
          · intro fuel rest value hread
            have hrefers : (0 : TreeNode) < (index : Int) :=
              Int.natCast_pos.mpr hpositive
            have hrest : (if (0 : TreeNode) < (index : Int) then
                treeFrom nodes probs fuel (index : Int).toNat
                else pure (-(index : Int)).toNat).Consumes rest value := by
              rw [if_pos hrefers]
              exact hread
            have hreads := hpath.reads
              (treeFrom_step hprobability bit (hbit ▸ hparent) hrest)
            rw [List.length_append, List.length_singleton, List.append_assoc]
            rw [Nat.add_right_comm] at hreads
            exact hreads

theorem encodeTree_leaf (h : TreeWellFormed nodes)
    (hprobs : probs.length = nodes.length / 2) {leaf : TreeNode}
    (hleaf : leaf ∈ nodes) (hend : ¬ 0 < leaf) :
    ∃ symbols, encodeTree nodes probs (-leaf).toNat = .ok symbols ∧
      (tree nodes probs).Consumes symbols (-leaf).toNat := by
  obtain ⟨place, hplace⟩ := List.mem_iff_getElem?.mp hleaf
  obtain ⟨hlt, -⟩ := List.getElem?_eq_some_iff.mp hplace
  obtain ⟨bit, hbit⟩ := exists_bit place
  have hpair : place / 2 * 2 < nodes.length := by omega
  obtain ⟨written, hpath⟩ := exists_onPath h hprobs hpair (by omega)
  obtain ⟨probability, hprobability⟩ := h.exists_probability hprobs hlt
  have hpure : (if 0 < leaf then treeFrom nodes probs 0 leaf.toNat
      else pure (-leaf).toNat).Consumes [] (-leaf).toNat := by
    rw [if_neg hend]
    exact BitParser.consumes_pure _
  have hreads := hpath.reads
    (treeFrom_step hprobability bit (hbit ▸ hplace) hpure)
  have hdepth := hpath.depth
  have hall := treeFrom_more hreads
    (nodes.length - (0 + 1 + written.length))
  have hfuel : 0 + 1 + written.length +
      (nodes.length - (0 + 1 + written.length)) = nodes.length := by omega
  rw [hfuel] at hall
  exact ⟨_, treeFrom_writes h.ordered nodes.length rfl (.inl ⟨rfl, rfl⟩) hall,
    hall⟩

theorem consumes_iff (h : TreeWellFormed nodes) {value : Nat}
    {symbols : List (Probability × Bool)}
    (hwritten : encodeTree nodes probs value = .ok symbols)
    (hread : (tree nodes probs).Consumes symbols value)
    (read : List (Probability × Bool)) :
    (tree nodes probs).Consumes read value ↔ read = symbols := by
  constructor
  · intro hother
    have hsame := treeFrom_writes h.ordered nodes.length rfl
      (.inl ⟨rfl, rfl⟩) hother
    rw [hwritten] at hsame
    exact (Except.ok.inj hsame).symm
  · rintro rfl
    exact hread

end Path

/-- `at` of a `SafeArray`, whose index is unsigned. -/
def safeIndex {α : Type} (array : List α) (index : Int) : Except Failure Nat :=
  if 0 ≤ index ∧ index < array.length then
    .ok index.toNat
  else
    .error (.assertion "index < size()")

/-- `value_to_index`, of whose elements some are never set. -/
abbrev ReverseIndex := List (Option UInt8)

/-- One turn of the loop that reverses the tree. -/
def reverseTurn (nodes : List TreeNode) (state : UInt8 × ReverseIndex) :
    (UInt8 × ReverseIndex) ⊕ Except Failure ReverseIndex :=
  match nodes[state.1.toNat]? with
  | none => .inr (.ok state.2)
  | some node =>
      match safeIndex state.2 (128 + node - 1) with
      | .error failure => .inr (.error failure)
      | .ok index => .inl (state.1 + 1, state.2.set index (some state.1))

def reverseStart (nodes : List TreeNode) : UInt8 × ReverseIndex :=
  (0, List.replicate (128 + nodes.length) none)

def readReverse (valueToIndex : ReverseIndex) (index : Int) :
    Except Failure UInt8 := do
  match valueToIndex[← safeIndex valueToIndex index]? with
  | some (some nodeIndex) => return nodeIndex
  | _ => .error (.undefinedBehaviour "value_to_index")

def bitOf (probs : List Probability) (nodeIndex : UInt8) :
    Except Failure (Probability × Bool) :=
  match probs[nodeIndex.toNat / 2]? with
  | none => .error (.assertion "index < size()")
  | some probability => .ok (probability, nodeIndex.toNat % 2 = 1)

/-- The next node of the path, found by the index of `value_to_index`. -/
def climb (valueToIndex : ReverseIndex) (probs : List Probability)
    (index : Int) (bits : List (Probability × Bool)) :
    Except Failure (UInt8 × List (Probability × Bool)) := do
  let nodeIndex ← readReverse valueToIndex index
  let bit ← bitOf probs nodeIndex
  return (nodeIndex, bits ++ [bit])

/-- One turn of the loop that climbs to the root. -/
def climbTurn (valueToIndex : ReverseIndex) (probs : List Probability)
    (state : UInt8 × List (Probability × Bool)) :
    (UInt8 × List (Probability × Bool)) ⊕ SymbolWriter :=
  if 1 < state.1.toNat then
    match climb valueToIndex probs
        (128 + (state.1.toNat / 2 * 2 : Nat) - 1) state.2 with
    | .error failure => .inr (.error failure)
    | .ok next => .inl next
  else
    .inr (.ok state.2)

/-- What `encode` has written when each of its loops has had so many turns. -/
def encodeWithin (turns : Nat) (nodes : List TreeNode)
    (probs : List Probability) (value : Nat) : Option SymbolWriter :=
  match Turns.run (reverseTurn nodes) turns (reverseStart nodes) with
  | none => none
  | some (.error failure) => some (.error failure)
  | some (.ok valueToIndex) =>
      match climb valueToIndex probs (128 - value - 1) [] with
      | .error failure => some (.error failure)
      | .ok start =>
          (Turns.run (climbTurn valueToIndex probs) turns start).map
            (Except.map List.reverse)

section Reverse

variable {nodes : List TreeNode}

/-- The nodes up to an index are where `value_to_index` says. -/
structure ReversedTo (nodes : List TreeNode) (count : Nat)
    (table : ReverseIndex) : Prop where
  length : table.length = 128 + nodes.length
  entries : ∀ index < count, ∀ node, nodes[index]? = some node →
    table[(128 + node - 1).toNat]? = some (some (UInt8.ofNat index))

theorem byte_toNat {index : Nat} (h : index ≤ 128) :
    (UInt8.ofNat index).toNat = index :=
  UInt8.toNat_ofNat_of_lt' (Nat.lt_of_le_of_lt h (by decide))

theorem slot_range {node : Int} {length : Nat} (hlow : -128 ≤ node)
    (hne : node ≠ -128) (hhigh : 0 < node → node < length) :
    0 ≤ 128 + node - 1 ∧ 128 + node - 1 < ((128 + length : Nat) : Int) := by
  omega

theorem slot_ne {node other : Int} (hnode : 0 ≤ 128 + node - 1)
    (hother : 0 ≤ 128 + other - 1) (hne : other ≠ node) :
    (128 + node - 1).toNat ≠ (128 + other - 1).toNat := by
  omega

theorem slot_lt (h : TreeWellFormed nodes) (hsmallest : -128 ∉ nodes)
    {node : TreeNode} (hnode : node ∈ nodes) :
    0 ≤ 128 + node - 1 ∧
      128 + node - 1 < ((128 + nodes.length : Nat) : Int) := by
  apply slot_range (h.bytes node hnode).1
  · rintro rfl
    exact hsmallest hnode
  · exact fun hpositive => (h.inner node hnode hpositive).2

theorem safeIndex_node (h : TreeWellFormed nodes) (hsmallest : -128 ∉ nodes)
    {table : ReverseIndex} (hlength : table.length = 128 + nodes.length)
    {node : TreeNode} (hnode : node ∈ nodes) :
    safeIndex table (128 + node - 1) = .ok (128 + node - 1).toNat := by
  rw [safeIndex, hlength]
  exact if_pos (slot_lt h hsmallest hnode)

theorem ReversedTo.next (h : TreeWellFormed nodes) (hsmallest : -128 ∉ nodes)
    {count : Nat} {table : ReverseIndex} (htable : ReversedTo nodes count table)
    {node : TreeNode} (hnode : nodes[count]? = some node) :
    ReversedTo nodes (count + 1) (table.set (128 + node - 1).toNat
      (some (UInt8.ofNat count))) where
  length := (List.length_set).trans htable.length
  entries := by
    intro index hindex other hother
    have hhere := slot_lt h hsmallest (List.mem_of_getElem? hnode)
    have hthere := slot_lt h hsmallest (List.mem_of_getElem? hother)
    cases Nat.lt_succ_iff_lt_or_eq.mp hindex with
    | inl hearlier =>
        have hne : other ≠ node := by
          rintro rfl
          obtain ⟨hlt, hread⟩ := List.getElem?_eq_some_iff.mp hother
          obtain ⟨hcount, hlast⟩ := List.getElem?_eq_some_iff.mp hnode
          have hsame := h.nodup.getElem_inj_iff.mp (hread.trans hlast.symm)
          omega
        rw [List.getElem?_set_ne (slot_ne hhere.1 hthere.1 hne)]
        exact htable.entries index hearlier other hother
    | inr heq =>
        subst heq
        rw [hnode] at hother
        cases hother
        apply List.getElem?_set_self
        rw [htable.length]
        exact (Int.toNat_lt hhere.1).mpr hhere.2

theorem reverse_ends (h : TreeWellFormed nodes) (hsmallest : -128 ∉ nodes)
    {count : Nat} (hcount : count ≤ nodes.length) {table : ReverseIndex}
    (htable : ReversedTo nodes count table) :
    ∃ reversed, Turns.Ends (reverseTurn nodes) (UInt8.ofNat count, table)
        (.ok reversed) ∧ ReversedTo nodes nodes.length reversed := by
  have hcounter := byte_toNat (hcount.trans h.length_le)
  induction hleft : nodes.length - count generalizing count table with
  | zero =>
      obtain rfl : count = nodes.length := by omega
      refine ⟨table, .leaves ?_, htable⟩
      rw [reverseTurn]
      dsimp only
      rw [hcounter, List.getElem?_eq_none (Nat.le_refl _)]
  | succ left ih =>
      have hmore : count < nodes.length := by omega
      have hnode := List.getElem?_eq_getElem hmore
      have hnext := htable.next h hsmallest hnode
      obtain ⟨reversed, hends, hreversed⟩ := ih (by omega) hnext
        (byte_toNat (Nat.le_trans hmore h.length_le)) (by omega)
      refine ⟨reversed, .goesOn ?_ hends, hreversed⟩
      rw [reverseTurn]
      dsimp only
      rw [hcounter, hnode]
      dsimp only
      rw [safeIndex_node h hsmallest htable.length (List.getElem_mem hmore)]
      have hsucc : UInt8.ofNat count + 1 = UInt8.ofNat (count + 1) := by
        rw [UInt8.ofNat_add]
        rfl
      rw [hsucc]

theorem reversedTo_start (nodes : List TreeNode) :
    ReversedTo nodes 0 (reverseStart nodes).2 where
  length := List.length_replicate
  entries := fun _ hindex => absurd hindex (Nat.not_lt_zero _)

/-- What `valueToIndex` finds the table holds. -/
theorem readReverse_eq (h : TreeWellFormed nodes) (hsmallest : -128 ∉ nodes)
    {table : ReverseIndex} (htable : ReversedTo nodes nodes.length table)
    {node : TreeNode} {index : Nat}
    (hfound : valueToIndex nodes node = some index) :
    readReverse table (128 + node - 1) = .ok (UInt8.ofNat index) ∧
      (UInt8.ofNat index).toNat = index := by
  unfold valueToIndex at hfound
  have hnode : nodes[index]? = some node := by
    simpa using List.find?_some hfound
  obtain ⟨hindex, -⟩ := List.getElem?_eq_some_iff.mp hnode
  refine ⟨?_, byte_toNat (hindex.le.trans h.length_le)⟩
  rw [readReverse, safeIndex_node h hsmallest htable.length
    (List.mem_of_getElem? hnode)]
  dsimp only [bind, Except.bind]
  rw [htable.entries index hindex node hnode]
  rfl

theorem climb_ends (h : TreeWellFormed nodes) (hsmallest : -128 ∉ nodes)
    {table : ReverseIndex} (htable : ReversedTo nodes nodes.length table)
    {probs : List Probability} {fuel index : Nat}
    (hindex : (UInt8.ofNat index).toNat = index)
    {path : List (Probability × Bool)}
    (hpath : pathToRoot nodes probs fuel index = .ok path)
    (bits : List (Probability × Bool)) :
    ∃ bit, bitOf probs (UInt8.ofNat index) = .ok bit ∧
      Turns.Ends (climbTurn table probs) (UInt8.ofNat index, bits ++ [bit])
        (.ok (bits ++ path)) := by
  induction fuel generalizing index path bits with
  | zero => cases hpath
  | succ fuel ih =>
      rw [pathToRoot] at hpath
      rw [bitOf, hindex]
      cases hprobability : probs[index / 2]? with
      | none =>
          rw [hprobability] at hpath
          cases hpath
      | some probability =>
          rw [hprobability] at hpath
          dsimp only at hpath ⊢
          refine ⟨_, rfl, ?_⟩
          by_cases hroot : 1 < index
          · rw [if_pos hroot] at hpath
            cases hfound : valueToIndex nodes (index / 2 * 2 : Nat) with
            | none =>
                rw [hfound] at hpath
                cases hpath
            | some parent =>
                rw [hfound] at hpath
                obtain ⟨_, hput, hpath⟩ := Fallible.bind_eq_ok hpath
                obtain ⟨rest, hrest, hpath⟩ := Fallible.bind_eq_ok hpath
                cases hput
                cases hpath
                obtain ⟨hread, hparent⟩ := readReverse_eq h hsmallest htable
                  hfound
                obtain ⟨bit, hbit, hends⟩ := ih hparent hrest
                  (bits ++ [(probability, decide (index % 2 = 1))])
                have hsplit : bits ++ [(probability, decide (index % 2 = 1))] ++
                      rest =
                    bits ++ ([(probability, decide (index % 2 = 1))] ++ rest) :=
                  List.append_assoc _ _ _
                rw [hsplit] at hends
                refine .goesOn ?_ hends
                rw [climbTurn]
                dsimp only
                rw [hindex, if_pos hroot, climb, hread]
                dsimp only [bind, Except.bind]
                rw [hbit]
                rfl
          · rw [if_neg hroot] at hpath
            cases hpath
            apply Turns.Ends.leaves
            rw [climbTurn]
            dsimp only
            rw [hindex, if_neg hroot]

/-- What is written for a value, `encode` writes in finitely many turns. -/
theorem encodeWithin_ends (h : TreeWellFormed nodes)
    (hsmallest : -128 ∉ nodes) {probs : List Probability} {value : Nat}
    {symbols : List (Probability × Bool)}
    (hwritten : encodeTree nodes probs value = .ok symbols) :
    ∃ turns, encodeWithin turns nodes probs value = some (.ok symbols) := by
  rw [encodeTree] at hwritten
  cases hfound : valueToIndex nodes (-value) with
  | none =>
      rw [hfound] at hwritten
      cases hwritten
  | some nodeIndex =>
      rw [hfound] at hwritten
      dsimp only at hwritten
      cases hpath : pathToRoot nodes probs nodes.length nodeIndex with
      | error failure =>
          rw [hpath] at hwritten
          cases hwritten
      | ok path =>
          rw [hpath] at hwritten
          cases hwritten
          obtain ⟨table, ⟨reversals, hreverse⟩, htable⟩ := reverse_ends h
            hsmallest (Nat.zero_le _) (reversedTo_start nodes)
          obtain ⟨hread, hindex⟩ := readReverse_eq h hsmallest htable hfound
          obtain ⟨bit, hbit, climbs, hclimb⟩ := climb_ends h hsmallest htable
            hindex hpath []
          rw [List.nil_append, List.nil_append] at hclimb
          have hshift : (128 - value - 1 : Int) = 128 + -value - 1 := by omega
          refine ⟨reversals + climbs, ?_⟩
          have hreversed : Turns.run (reverseTurn nodes) (reversals + climbs)
              (reverseStart nodes) = some (.ok table) :=
            Turns.run_mono hreverse climbs
          have hclimbed := Turns.run_mono hclimb reversals
          rw [Nat.add_comm] at hclimbed
          have hstart : climb table probs (128 - value - 1) [] =
              .ok (UInt8.ofNat nodeIndex, [bit]) := by
            rw [climb, hshift, hread]
            dsimp only [bind, Except.bind]
            rw [hbit]
            rfl
          rw [encodeWithin, hreversed]
          dsimp only
          rw [hstart]
          dsimp only
          rw [hclimbed]
          rfl

end Reverse

section Reader

variable {nodes : List TreeNode} {probs : List Probability} {σ : Type}

/-- One turn of the loop of `BoolDecoder::tree`. -/
def readTurn (source : BitSource Probability σ) (nodes : List TreeNode)
    (probs : List Probability) (state : Nat × σ) :
    (Nat × σ) ⊕ Except Failure (Nat × σ) :=
  match probs[state.1 / 2]? with
  | none => .inr (.error (.assertion "index < size()"))
  | some probability =>
      let (bit, next) := source.get state.2 probability
      match nodes[state.1 + bit.toNat]? with
      | none => .inr (.error (.assertion "index < size()"))
      | some node =>
          if 0 < node then .inl (node.toNat, next)
          else .inr (.ok ((-node).toNat, next))

theorem treeFrom_run (source : BitSource Probability σ) (turns index : Nat)
    (state : σ) :
    (treeFrom nodes probs turns index).run source state =
      (Turns.run (readTurn source nodes probs) turns (index, state)).getD
        (.error (.undefinedBehaviour "endless tree")) := by
  induction turns generalizing index state with
  | zero => rfl
  | succ turns ih =>
      rw [treeFrom, Turns.run, readTurn]
      dsimp only
      cases probs[index / 2]? with
      | none => rfl
      | some probability =>
          dsimp only
          rw [BitParser.run_bind]
          change BitParser.run source (match nodes[index +
            (source.get state probability).1.toNat]? with
            | none => _
            | some node => _) (source.get state probability).2 = _
          cases nodes[index + (source.get state probability).1.toNat]? with
          | none => rfl
          | some node =>
              dsimp only
              by_cases hpositive : 0 < node
              · rw [if_pos hpositive, if_pos hpositive]
                exact ih _ _
              · rw [if_neg hpositive, if_neg hpositive]
                rfl

theorem treeFrom_leaf (h : TreeWellFormed nodes)
    (hprobs : probs.length = nodes.length / 2) {fuel index : Nat}
    (hindex : index < nodes.length) (heven : index % 2 = 0)
    (hfuel : nodes.length ≤ index + fuel) :
    (treeFrom nodes probs fuel index).Completes (fun _ => True)
      fun value : Nat => (-(value : Int)) ∈ nodes := by
  induction fuel generalizing index with
  | zero => omega
  | succ fuel ih =>
      have hpaired := h.paired
      have hprobability : probs[index / 2]? = some _ :=
        List.getElem?_eq_getElem (by omega)
      rw [treeFrom, hprobability]
      intro bit
      have hbit := Bool.toNat_lt bit
      have hplace : index + bit.toNat < nodes.length := by omega
      have hnode := List.getElem?_eq_getElem hplace
      simp only [BitParser.bind]
      rw [hnode]
      dsimp only
      by_cases hpositive : 0 < nodes[index + bit.toNat]
      · obtain ⟨hrises, hpair⟩ := h.ordered.rises_of hnode hpositive
        have hinner : nodes[index + bit.toNat].toNat < nodes.length :=
          (Int.toNat_lt (Int.le_of_lt hpositive)).mpr
            (h.inner _ (List.getElem_mem hplace) hpositive).2
        rw [if_pos hpositive]
        exact ih hinner hpair (by omega)
      · rw [if_neg hpositive]
        change (-(((-nodes[index + bit.toNat]).toNat : Nat) : Int)) ∈ nodes
        rw [neg_toNat_neg hpositive]
        exact List.getElem_mem hplace

theorem readTurn_ends (h : TreeWellFormed nodes)
    (hprobs : probs.length = nodes.length / 2) (hne : nodes ≠ [])
    (source : BitSource Probability σ) (state : σ) :
    ∃ value last,
      Turns.Ends (readTurn source nodes probs) (0, state)
        (.ok (value, last)) ∧
      (tree nodes probs).run source state = .ok (value, last) ∧
      (-(value : Int)) ∈ nodes := by
  have hcompletes := treeFrom_leaf h hprobs
    (List.length_pos_iff.mpr hne) rfl (Nat.le_add_left nodes.length 0)
  obtain ⟨value, last, hrun, hleaf⟩ := hcompletes.gives source state
  refine ⟨value, last, ⟨nodes.length, ?_⟩, hrun, hleaf⟩
  rw [treeFrom_run] at hrun
  cases hturns : Turns.run (readTurn source nodes probs) nodes.length
      (0, state) with
  | none =>
      rw [hturns] at hrun
      cases hrun
  | some result =>
      rw [hturns] at hrun
      exact congrArg some hrun

end Reader

/-- With every well-formed tree whose leaves are the symbols up to 127, the
writer ends, the reader ends, and for each leaf the one writes exactly what the
other takes to come to it. -/
theorem tree_codec {nodes : List TreeNode} {probs : List Probability}
    (h : TreeWellFormed nodes) (hsmallest : -128 ∉ nodes)
    (hprobs : probs.length = nodes.length / 2) {leaf : TreeNode}
    (hleaf : leaf ∈ nodes) (hend : ¬ 0 < leaf) :
    (∃ symbols,
      (∃ turns, encodeWithin turns nodes probs (-leaf).toNat =
        some (.ok symbols)) ∧
      ∀ read, (tree nodes probs).Consumes read (-leaf).toNat ↔
        read = symbols) ∧
    ∀ {σ : Type} (source : BitSource Probability σ) (state : σ),
      ∃ value last,
        Turns.Ends (readTurn source nodes probs) (0, state)
          (.ok (value, last)) ∧
        (tree nodes probs).run source state = .ok (value, last) ∧
        (-(value : Int)) ∈ nodes := by
  obtain ⟨symbols, hwritten, hread⟩ := encodeTree_leaf h hprobs hleaf hend
  refine ⟨⟨symbols, encodeWithin_ends h hsmallest hwritten,
    consumes_iff h hwritten hread⟩, ?_⟩
  intro σ source state
  exact readTurn_ends h hprobs (List.ne_nil_of_mem hleaf) source state

/-- The second segment, with its tree. -/
theorem tree_codec_segment :
    ∃ symbols,
      (∃ turns, encodeWithin turns segmentIdTree [120, 90, 200]
        (-(-1 : TreeNode)).toNat = some (.ok symbols)) ∧
      ∀ read, (tree segmentIdTree [120, 90, 200]).Consumes read
        (-(-1 : TreeNode)).toNat ↔ read = symbols := by
  have hwellFormed : TreeWellFormed segmentIdTree := by decide
  have hleaf : (-1 : TreeNode) ∈ segmentIdTree := by decide
  have hprobs : ([120, 90, 200] : List Probability).length =
      segmentIdTree.length / 2 := rfl
  exact (tree_codec hwellFormed (by decide) hprobs hleaf (by decide)).1

/-- The smallest entry of eight bits falls out of `value_to_index`. -/
theorem tree_codec_smallest :
    TreeWellFormed [-128, -0] ∧ (-128 : TreeNode) ∈ [-128, -0] ∧
      ∀ turns symbols,
        encodeWithin turns [-128, -0] [120] 128 ≠ some (.ok symbols) := by
  refine ⟨by decide, by decide, ?_⟩
  intro turns symbols h
  cases turns with
  | zero => cases h
  | succ turns => cases h

theorem modeTrees_wellFormed :
    ∀ nodes ∈ [segmentIdTree, kfYModeTree, yModeTree, uvModeTree, bModeTree,
      smallMvTree, mvRefTree, submvRefTree, splitMvTree],
      TreeWellFormed nodes ∧ -128 ∉ nodes := by
  decide +kernel

end Salsify.Codec
