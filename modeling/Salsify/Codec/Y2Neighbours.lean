import Salsify.Codec.FrameCodec
import Salsify.Lib.LastBefore

namespace Salsify.Codec

open Salsify.Coder (Probability BoolDecoder)
open Salsify.Net (Failure)
open BitParser (ensures_bind)
open Fallible (ok_bind)
open DecoderState (segmented segmented_view tokenItems)

/-! The Y2 blocks that `relink_y2_blocks` makes neighbours, and the contexts
that come of it, beside the running contexts of the format. -/

variable {Header : Type}

def CodedAt (macroblocks : List (Macroblock Header)) (index : Nat) : Prop :=
  ∃ mb, macroblocks[index]? = some mb ∧ mb.Y2.coded = true

theorem codedAt_append_left {before : List (Macroblock Header)} {index : Nat}
    (rest : List (Macroblock Header)) (hindex : index < before.length) :
    CodedAt (before ++ rest) index ↔ CodedAt before index := by
  rw [CodedAt, CodedAt, List.getElem?_append_left hindex]

theorem codedAt_append_length (before rest : List (Macroblock Header))
    (mb : Macroblock Header) :
    CodedAt (before ++ mb :: rest) before.length ↔ mb.Y2.coded = true := by
  rw [CodedAt, List.getElem?_append_right (Nat.le_refl _), Nat.sub_self,
    List.getElem?_cons_zero]
  constructor
  · intro h
    obtain ⟨found, hfound, hcoded⟩ := h
    cases hfound
    exact hcoded
  · exact fun hcoded => ⟨mb, rfl, hcoded⟩

/-- `last` is the last coded block of each line among `before`, where `line` is
the column or the row of an index. -/
def LastOn (line : Nat → Nat) (before : List (Macroblock Header))
    (last : Nat → Option Nat) : Prop :=
  ∀ which, LastBefore (fun index => line index = which ∧ CodedAt before index)
    before.length (last which)

namespace LastOn

variable {line : Nat → Nat} {before : List (Macroblock Header)}
variable {last : Nat → Option Nat} {mb : Macroblock Header}

theorem nil (line : Nat → Nat) :
    LastOn line ([] : List (Macroblock Header)) fun _ => none :=
  fun _ => LastBefore.zero _

theorem extend (h : LastOn line before last) (rest : List (Macroblock Header))
    (which : Nat) :
    LastBefore
      (fun index => line index = which ∧ CodedAt (before ++ rest) index)
      before.length (last which) :=
  (h which).congr fun _ hindex =>
    and_congr_right fun _ => (codedAt_append_left rest hindex).symm

theorem append_coded (h : LastOn line before last) (hmb : mb.Y2.coded = true) :
    LastOn line (before ++ [mb])
      (Function.update last (line before.length) (some before.length)) := by
  intro which
  rw [List.length_append, List.length_singleton, Function.update_apply]
  by_cases hwhich : which = line before.length
  · rw [if_pos hwhich]
    exact .here ⟨hwhich.symm, (codedAt_append_length before [] mb).mpr hmb⟩
  · rw [if_neg hwhich]
    exact (h.extend [mb] which).skip fun hon => hwhich hon.1.symm

theorem append_uncoded (h : LastOn line before last)
    (hmb : mb.Y2.coded = false) : LastOn line (before ++ [mb]) last := by
  intro which
  rw [List.length_append, List.length_singleton]
  refine (h.extend [mb] which).skip ?_
  intro hon
  have hcoded := (codedAt_append_length before [] mb).mp hon.2
  rw [hmb] at hcoded
  cases hcoded

end LastOn

theorem linkY2Blocks_lastBefore (width : Nat)
    (before rest : List (Macroblock Header))
    {aboveCoded leftCoded : Nat → Option Nat}
    (habove : LastOn (· % width) before aboveCoded)
    (hleft : LastOn (· / width) before leftCoded) {index : Nat}
    (hindex : before.length + index < (before ++ rest).length) :
    ∃ links, (linkY2Blocks width aboveCoded leftCoded before.length
        (rest.map fun mb => mb.Y2.coded))[index]? = some links ∧
      LastBefore (fun other => other % width = (before.length + index) % width ∧
        CodedAt (before ++ rest) other) (before.length + index) links.above ∧
      LastBefore (fun other => other / width = (before.length + index) / width ∧
        CodedAt (before ++ rest) other) (before.length + index) links.left := by
  induction rest generalizing before aboveCoded leftCoded index with
  | nil =>
      rw [List.append_nil] at hindex
      omega
  | cons mb rest ih =>
      cases index with
      | zero =>
          exact ⟨_, rfl, habove.extend (mb :: rest) _,
            hleft.extend (mb :: rest) _⟩
      | succ index =>
          have hsplit : before ++ mb :: rest = (before ++ [mb]) ++ rest := by
            rw [List.append_assoc]
            rfl
          have hnext : before.length + (index + 1) =
              (before ++ [mb]).length + index := by
            rw [List.length_append, List.length_singleton]
            omega
          rw [hsplit, hnext] at hindex ⊢
          rw [List.map_cons, linkY2Blocks]
          cases hmb : mb.Y2.coded with
          | true =>
              have hlinked := ih (before ++ [mb]) (habove.append_coded hmb)
                (hleft.append_coded hmb) hindex
              rw [List.length_append, List.length_singleton] at hlinked ⊢
              exact hlinked
          | false =>
              have hlinked := ih (before ++ [mb]) (habove.append_uncoded hmb)
                (hleft.append_uncoded hmb) hindex
              rw [List.length_append, List.length_singleton] at hlinked ⊢
              exact hlinked

/-- The neighbours of the block at a place are the nearest coded ones above it
in its column and to its left in its row. -/
structure LinkedTo (width : Nat) (coded : Nat → Nat → Prop) (column row : Nat)
    (links : Y2Links) : Prop where
  above : ∃ nearest, LastBefore (fun other => coded column other) row nearest ∧
    links.above = nearest.map fun other => other * width + column
  left : ∃ nearest, LastBefore (fun other => coded other row) column nearest ∧
    links.left = nearest.map fun other => row * width + other

theorem relinkY2Blocks_linkedTo {width : Nat}
    (macroblocks : List (Macroblock Header)) {column row : Nat}
    (hcolumn : column < width)
    (hplace : row * width + column < macroblocks.length) :
    ∃ links, (relinkY2Blocks width macroblocks)[row * width + column]? =
        some links ∧
      LinkedTo width (fun column row =>
        CodedAt macroblocks (row * width + column)) column row links := by
  have hwidth : 0 < width := Nat.zero_lt_of_lt hcolumn
  have hmod (other : Nat) : (other * width + column) % width = column :=
    Nat.mul_add_mod_of_lt hcolumn
  have hdiv {other : Nat} (hother : other < width) :
      (row * width + other) / width = row := by
    rw [Nat.mul_comm, Nat.mul_add_div hwidth, Nat.div_eq_of_lt hother,
      Nat.add_zero]
  have hindex : ([] : List (Macroblock Header)).length +
      (row * width + column) < ([] ++ macroblocks).length := by
    rwa [List.length_nil, Nat.zero_add, List.nil_append]
  obtain ⟨links, hlinks, habove, hleft⟩ := linkY2Blocks_lastBefore width []
    macroblocks (LastOn.nil _) (LastOn.nil _) hindex
  rw [List.length_nil, Nat.zero_add, List.nil_append] at habove hleft
  rw [hmod] at habove
  rw [hdiv hcolumn] at hleft
  refine ⟨links, hlinks, ?_, ?_⟩
  · have hmono : StrictMono fun other => other * width + column :=
      fun _ _ hlt => Nat.add_lt_add_right
        (Nat.mul_lt_mul_of_pos_right hlt hwidth) column
    obtain ⟨nearest, hnearest, heq⟩ := LastBefore.alongLine hmono
      (fun index _ hon => ⟨index / width, by
        rw [← hon.1]
        exact Nat.div_add_mod' index width⟩) habove
    exact ⟨nearest, hnearest.congr fun other _ => and_iff_right (hmod other),
      heq⟩
  · have hmono : StrictMono fun other => row * width + other :=
      fun _ _ hlt => Nat.add_lt_add_left hlt _
    obtain ⟨nearest, hnearest, heq⟩ := LastBefore.alongLine hmono
      (fun index _ hon => ⟨index % width, by
        rw [← hon.1]
        exact Nat.div_add_mod' index width⟩) hleft
    exact ⟨nearest, hnearest.congr fun other hother =>
      and_iff_right (hdiv (hother.trans hcolumn)), heq⟩

/-- The flags that the format keeps while it goes through a frame: one for each
column, and one for the row it is in. -/
structure Y2Contexts where
  above : Nat → Bool
  left : Bool

namespace Y2Contexts

def start : Y2Contexts where
  above := fun _ => false
  left := false

/-- Nothing is to the left of the first macroblock of a row. -/
def enter (contexts : Y2Contexts) (column : Nat) : Y2Contexts :=
  if column = 0 then { contexts with left := false } else contexts

def leave (contexts : Y2Contexts) (mb : Macroblock Header) : Y2Contexts :=
  if mb.Y2.coded then
    { above := Function.update contexts.above mb.column mb.Y2.hasNonzero
      left := mb.Y2.hasNonzero }
  else
    contexts

def after (before : List (Macroblock Header)) : Y2Contexts :=
  before.foldl (fun contexts mb => (contexts.enter mb.column).leave mb) start

theorem after_append (before : List (Macroblock Header))
    (mb : Macroblock Header) :
    after (before ++ [mb]) = ((after before).enter mb.column).leave mb := by
  rw [after, List.foldl_append]
  rfl

@[simp] theorem enter_above (contexts : Y2Contexts) (column : Nat) :
    (contexts.enter column).above = contexts.above := by
  unfold enter
  split <;> rfl

theorem enter_of_ne {column : Nat} (contexts : Y2Contexts)
    (hcolumn : column ≠ 0) : contexts.enter column = contexts :=
  if_neg hcolumn

theorem leave_coded {mb : Macroblock Header} (contexts : Y2Contexts)
    (hmb : mb.Y2.coded = true) :
    contexts.leave mb =
      { above := Function.update contexts.above mb.column mb.Y2.hasNonzero
        left := mb.Y2.hasNonzero } :=
  if_pos hmb

theorem leave_uncoded {mb : Macroblock Header} (contexts : Y2Contexts)
    (hmb : mb.Y2.coded = false) : contexts.leave mb = contexts := by
  rw [leave, hmb]
  rfl

end Y2Contexts

def y2At (before : List (Macroblock Header)) (link : Option Nat) :
    Option Y2Block :=
  (link.bind fun other => before[other]?).map Macroblock.Y2

theorem y2At_append {before : List (Macroblock Header)} {link : Option Nat}
    (rest : List (Macroblock Header))
    (hlink : ∀ other, link = some other → other < before.length) :
    y2At (before ++ rest) link = y2At before link := by
  cases link with
  | none => rfl
  | some other =>
      have hread : (before ++ rest)[other]? = before[other]? :=
        List.getElem?_append_left (hlink other rfl)
      exact congrArg (Option.map Macroblock.Y2) hread

theorem y2At_last (before : List (Macroblock Header)) (mb : Macroblock Header) :
    y2At (before ++ [mb]) (some before.length) = some mb.Y2 := by
  have hread : (before ++ [mb])[before.length]? = some mb := by simp
  exact congrArg (Option.map Macroblock.Y2) hread

/-- The macroblocks are those of a grid of this width, from its first on. -/
def InPlace (width : Nat) (macroblocks : List (Macroblock Header)) : Prop :=
  ∀ index place, (macroblocks.map Macroblock.place)[index]? = some place →
    place = (index % width, index / width)

namespace InPlace

variable {width : Nat} {before rest : List (Macroblock Header)}
variable {mb : Macroblock Header}

theorem ofPlaces {height : Nat} {macroblocks : List (Macroblock Header)}
    (h : macroblocks.map Macroblock.place = Grid.places width height) :
    InPlace width macroblocks := by
  intro index place hplace
  rw [h] at hplace
  exact Grid.getElem?_places hplace

theorem left (h : InPlace width (before ++ rest)) : InPlace width before := by
  intro index place hplace
  obtain ⟨hindex, -⟩ := List.getElem?_eq_some_iff.mp hplace
  refine h index place ?_
  rw [List.map_append, List.getElem?_append_left hindex, hplace]

theorem here (h : InPlace width (before ++ mb :: rest)) :
    mb.column = before.length % width := by
  have hplace := h before.length mb.place (by simp)
  exact congrArg Prod.fst hplace

theorem next {other : Macroblock Header}
    (h : InPlace width (before ++ mb :: rest)) (hother : other.place = mb.place) :
    InPlace width ((before ++ [other]) ++ rest) := by
  have hsame : ((before ++ [other]) ++ rest).map Macroblock.place =
      (before ++ mb :: rest).map Macroblock.place := by
    simp [hother]
  intro index place hplace
  rw [hsame] at hplace
  exact h index place hplace

end InPlace

theorem above_eq {width : Nat} {before : List (Macroblock Header)}
    (hplace : InPlace width before) {column : Nat} {found : Option Nat}
    (h : LastBefore (fun index => index % width = column ∧ CodedAt before index)
      before.length found) :
    Block.hasNonzeroOf (y2At before found) =
      (Y2Contexts.after before).above column := by
  induction before using List.reverseRecOn generalizing found with
  | nil =>
      rw [h.eq_none fun index hindex => absurd hindex (Nat.not_lt_zero index)]
      rfl
  | append_singleton before mb ih =>
      have hcolumn := hplace.here
      rw [List.length_append, List.length_singleton] at h
      rw [Y2Contexts.after_append]
      by_cases hhere : before.length % width = column ∧
          CodedAt (before ++ [mb]) before.length
      · have hmb := (codedAt_append_length before [] mb).mp hhere.2
        rw [h.eq_here hhere, y2At_last, Y2Contexts.leave_coded _ hmb, ← hhere.1,
          ← hcolumn]
        change mb.Y2.hasNonzero = Function.update
          ((Y2Contexts.after before).enter mb.column).above mb.column
            mb.Y2.hasNonzero mb.column
        rw [Function.update_self]
      · have hbefore := (h.unskip hhere).congr fun index hindex =>
          and_congr_right fun _ => codedAt_append_left [mb] hindex
        have hearlier : ∀ other, found = some other → other < before.length := by
          intro other hother
          subst hother
          exact hbefore.lt
        rw [y2At_append [mb] hearlier, ih hplace.left hbefore]
        cases hmb : mb.Y2.coded with
        | false => rw [Y2Contexts.leave_uncoded _ hmb, Y2Contexts.enter_above]
        | true =>
            have hother : column ≠ mb.column := by
              rw [hcolumn]
              intro heq
              exact hhere ⟨heq.symm,
                (codedAt_append_length before [] mb).mpr hmb⟩
            rw [Y2Contexts.leave_coded _ hmb, Y2Contexts.enter_above]
            exact (Function.update_of_ne hother _ _).symm

theorem left_eq_first {width : Nat} {before : List (Macroblock Header)}
    {found : Option Nat} (hfirst : before.length % width = 0)
    (h : LastBefore (fun index => index / width = before.length / width ∧
      CodedAt before index) before.length found) :
    Block.hasNonzeroOf (y2At before found) =
      ((Y2Contexts.after before).enter (before.length % width)).left := by
  have hnone : ∀ index < before.length,
      ¬ (index / width = before.length / width ∧ CodedAt before index) := by
    intro index hindex hon
    have hlt : index / width < before.length / width := by
      apply Nat.div_lt_of_lt_mul
      rwa [Nat.mul_div_cancel' (Nat.dvd_of_mod_eq_zero hfirst)]
    exact Nat.ne_of_lt hlt hon.1
  rw [h.eq_none hnone, hfirst]
  rfl

theorem left_eq {width : Nat} {before : List (Macroblock Header)}
    (hplace : InPlace width before) {found : Option Nat}
    (h : LastBefore (fun index => index / width = before.length / width ∧
      CodedAt before index) before.length found) :
    Block.hasNonzeroOf (y2At before found) =
      ((Y2Contexts.after before).enter (before.length % width)).left := by
  induction before using List.reverseRecOn generalizing found with
  | nil => exact left_eq_first (Nat.zero_mod width) h
  | append_singleton before mb ih =>
      by_cases hfirst : (before ++ [mb]).length % width = 0
      · exact left_eq_first hfirst h
      · rw [Y2Contexts.enter_of_ne _ hfirst, Y2Contexts.after_append]
        rw [List.length_append, List.length_singleton] at h hfirst
        have hrow : (before.length + 1) / width = before.length / width := by
          rw [Nat.succ_div, if_neg (mt Nat.mod_eq_zero_of_dvd hfirst),
            Nat.add_zero]
        rw [hrow] at h
        cases hmb : mb.Y2.coded with
        | true =>
            have hcoded := (codedAt_append_length before [] mb).mpr hmb
            rw [h.eq_here ⟨rfl, hcoded⟩, y2At_last,
              Y2Contexts.leave_coded _ hmb]
            rfl
        | false =>
            have huncoded : ¬ CodedAt (before ++ [mb]) before.length := by
              rw [codedAt_append_length before [] mb, hmb]
              exact Bool.false_ne_true
            have hbefore := (h.unskip fun hon => huncoded hon.2).congr
              fun index hindex =>
                and_congr_right fun _ => codedAt_append_left [mb] hindex
            have hearlier : ∀ other, found = some other →
                other < before.length := by
              intro other hother
              subst hother
              exact hbefore.lt
            rw [y2At_append [mb] hearlier, Y2Contexts.leave_uncoded _ hmb,
              hplace.here]
            exact ih hplace.left hbefore

def y2Flagged (flag : Bool) : Option Y2Block :=
  some { type := .y2, predictionMode := .dcPred, hasNonzero := flag }

def Y2Contexts.tokenContext (contexts : Y2Contexts) (width height : Nat)
    (before : List (Macroblock Header)) (mb : Macroblock Header) :
    TokenContext Header :=
  let context := contextAt width height before mb.place
  { above := context.above
    left := context.left
    y2Above := y2Flagged ((contexts.enter mb.column).above mb.column)
    y2Left := y2Flagged (contexts.enter mb.column).left }

def parseRunningTokens (tables : ProbabilityTables) (width height : Nat) :
    List (Macroblock Header) → List (Macroblock Header) → Y2Contexts →
    List BoolDecoder → Except Failure (List (Macroblock Header))
  | [], before, _, _ => .ok before
  | mb :: rest, before, contexts, decoders => do
      let index := mb.row % decoders.length
      match decoders[index]? with
      | none => .error (.outOfRange "vector::_M_range_check")
      | some decoder => do
          let (parsed, next) ← (mb.parseTokens tables
            (contexts.tokenContext width height before mb)).run boolDecoder
              decoder
          parseRunningTokens tables width height rest (before ++ [parsed])
            ((contexts.enter mb.column).leave parsed)
            (decoders.set index next)

/-- The tokens of a frame written with the running contexts. -/
def serializeRunningTokens (tables : ProbabilityTables) (width height : Nat)
    (all : List (Macroblock Header)) :
    List (Macroblock Header) → Y2Contexts → List (List (Probability × Bool)) →
    Except Failure (List (List (Probability × Bool)))
  | [], _, partitions => .ok partitions
  | mb :: rest, contexts, partitions =>
      let index := mb.row % partitions.length
      match partitions[index]? with
      | none => .error (.outOfRange "vector::_M_range_check")
      | some written => do
          let symbols ← mb.serializeTokens tables
            (contexts.tokenContext width height all mb)
          serializeRunningTokens tables width height all rest
            ((contexts.enter mb.column).leave mb)
            (partitions.set index (written ++ symbols))

structure SameFlags (context other : TokenContext Header) : Prop where
  above : context.above = other.above
  left : context.left = other.left
  y2Above : Block.hasNonzeroOf context.y2Above =
    Block.hasNonzeroOf other.y2Above
  y2Left : Block.hasNonzeroOf context.y2Left = Block.hasNonzeroOf other.y2Left

namespace Macroblock

variable {context other : TokenContext Header}

theorem parseTokens_congr (h : SameFlags context other)
    (tables : ProbabilityTables) (mb : Macroblock Header) :
    mb.parseTokens tables context = mb.parseTokens tables other := by
  simp only [parseTokens, parseY2Tokens, h.above, h.left, h.y2Above, h.y2Left]

theorem serializeTokens_congr (h : SameFlags context other)
    (tables : ProbabilityTables) (mb : Macroblock Header) :
    mb.serializeTokens tables context = mb.serializeTokens tables other := by
  simp only [serializeTokens, h.above, h.left, h.y2Above, h.y2Left]

end Macroblock

theorem Block.parseCoefficients_coded {Mode : Type}
    (probs : SafeArray (SafeArray (SafeArray Probability 11) 3) 8) :
    (indices : List (Fin 16)) → (lastWasZero : Bool) → (context : Fin 3) →
    (block : Block Mode) →
      (parseCoefficients probs indices lastWasZero context block).Ensures
        fun parsed => parsed.coded = block.coded
  | [], _, _, _ => rfl
  | index :: rest, lastWasZero, context, block => by
      have hbody : (branch (probs (coefficientToBand.get index) context 1)
          (parseCoefficients probs rest true 0 block)
          (do
            let value ← parseValue (probs (coefficientToBand.get index) context)
            let negative ← boolean
            parseCoefficients probs rest false value.2
              (block.setCoefficient index
                (if negative then -value.1 else value.1)))).Ensures
          fun parsed => parsed.coded = block.coded := by
        intro bit
        cases bit with
        | false => exact parseCoefficients_coded probs rest true 0 block
        | true =>
            apply ensures_bind
            intro value
            apply ensures_bind
            intro negative
            exact parseCoefficients_coded probs rest false value.2
              (block.setCoefficient index _)
      rw [parseCoefficients]
      cases lastWasZero with
      | true => exact hbody
      | false =>
          intro bit
          cases bit with
          | false => rfl
          | true => exact hbody

theorem Macroblock.parseTokens_coded (tables : ProbabilityTables)
    (context : TokenContext Header) (mb : Macroblock Header) :
    (mb.parseTokens tables context).Ensures fun parsed =>
      parsed.Y2.coded = mb.Y2.coded ∧ parsed.place = mb.place := by
  unfold Macroblock.parseTokens
  split
  · exact ⟨rfl, rfl⟩
  · have hY2 : (parseY2Tokens tables context mb.Y2).Ensures
        fun parsed => parsed.coded = mb.Y2.coded := by
      unfold parseY2Tokens
      split
      · exact Block.parseCoefficients_coded _ _ _ _ _
      · rfl
    refine hY2.bind fun Y2 hcoded => ?_
    apply ensures_bind
    intro Y
    apply ensures_bind
    intro U
    apply ensures_bind
    intro V
    exact ⟨hcoded, rfl⟩

/-- At the next macroblock the linked blocks have the flags that the running
contexts hold. -/
theorem sameFlags {width : Nat} (height : Nat)
    {before : List (Macroblock Header)} (rest : List (Macroblock Header))
    {mb : Macroblock Header}
    {aboveCoded leftCoded : Nat → Option Nat}
    (habove : LastOn (· % width) before aboveCoded)
    (hleft : LastOn (· / width) before leftCoded)
    (hplace : InPlace width before)
    (hhere : mb.column = before.length % width) :
    SameFlags
      (tokenContextAt width height (before ++ rest) mb.place
        { above := aboveCoded (before.length % width)
          left := leftCoded (before.length / width) })
      ((Y2Contexts.after before).tokenContext width height (before ++ rest)
        mb) where
  above := rfl
  left := rfl
  y2Above := by
    have hearlier : ∀ other, aboveCoded (before.length % width) = some other →
        other < before.length := by
      intro other hother
      have hlast := habove (before.length % width)
      rw [hother] at hlast
      exact hlast.lt
    change Block.hasNonzeroOf (y2At (before ++ rest)
      (aboveCoded (before.length % width))) = _
    rw [y2At_append rest hearlier, above_eq hplace (habove _),
      Y2Contexts.tokenContext, Y2Contexts.enter_above, hhere]
    rfl
  y2Left := by
    have hearlier : ∀ other, leftCoded (before.length / width) = some other →
        other < before.length := by
      intro other hother
      have hlast := hleft (before.length / width)
      rw [hother] at hlast
      exact hlast.lt
    change Block.hasNonzeroOf (y2At (before ++ rest)
      (leftCoded (before.length / width))) = _
    rw [y2At_append rest hearlier, left_eq hplace (hleft _),
      Y2Contexts.tokenContext, hhere]
    rfl

theorem parseMacroblockTokens_running (tables : ProbabilityTables)
    {width : Nat} (height : Nat) (before rest : List (Macroblock Header))
    {aboveCoded leftCoded : Nat → Option Nat}
    (habove : LastOn (· % width) before aboveCoded)
    (hleft : LastOn (· / width) before leftCoded)
    (hplace : InPlace width (before ++ rest)) (decoders : List BoolDecoder) :
    parseMacroblockTokens tables width height
        (rest.zip (linkY2Blocks width aboveCoded leftCoded before.length
          (rest.map fun mb => mb.Y2.coded))) before decoders =
      parseRunningTokens tables width height rest before
        (Y2Contexts.after before) decoders := by
  induction rest generalizing before aboveCoded leftCoded decoders with
  | nil => rfl
  | cons mb rest ih =>
      have hcontext := Macroblock.parseTokens_congr
        (sameFlags height [] habove hleft hplace.left
          hplace.here) tables mb
      rw [List.append_nil] at hcontext
      rw [List.map_cons, linkY2Blocks, List.zip_cons_cons, parseMacroblockTokens,
        parseRunningTokens]
      cases decoders[mb.row % decoders.length]? with
      | none => rfl
      | some decoder =>
          change ((mb.parseTokens tables (tokenContextAt width height before
              mb.place _)).run boolDecoder decoder >>= _) =
            ((mb.parseTokens tables ((Y2Contexts.after before).tokenContext
              width height before mb)).run boolDecoder decoder >>= _)
          rw [hcontext]
          cases hrun : (mb.parseTokens tables
              ((Y2Contexts.after before).tokenContext width height before
                mb)).run boolDecoder decoder with
          | error failure => rfl
          | ok result =>
              obtain ⟨parsed, next⟩ := result
              obtain ⟨hcoded, hmoved⟩ :=
                (Macroblock.parseTokens_coded tables _ mb).of_run hrun
              have hcolumn : parsed.column = mb.column :=
                congrArg Prod.fst hmoved
              have hafter : ((Y2Contexts.after before).enter mb.column).leave
                    parsed =
                  Y2Contexts.after (before ++ [parsed]) := by
                rw [Y2Contexts.after_append, hcolumn]
              have hlength : (before ++ [parsed]).length = before.length + 1 := by
                rw [List.length_append, List.length_singleton]
              rw [ok_bind, ok_bind]
              dsimp only
              rw [hafter]
              cases hmb : mb.Y2.coded with
              | true =>
                  have hrest := ih (before ++ [parsed])
                    (habove.append_coded (hcoded.trans hmb))
                    (hleft.append_coded (hcoded.trans hmb)) (hplace.next hmoved)
                    (decoders.set (mb.row % decoders.length) next)
                  rw [hlength] at hrest
                  exact hrest
              | false =>
                  have hrest := ih (before ++ [parsed])
                    (habove.append_uncoded (hcoded.trans hmb))
                    (hleft.append_uncoded (hcoded.trans hmb))
                    (hplace.next hmoved)
                    (decoders.set (mb.row % decoders.length) next)
                  rw [hlength] at hrest
                  exact hrest

theorem serializeMacroblockTokens_running (tables : ProbabilityTables)
    {width : Nat} (height : Nat) (before rest : List (Macroblock Header))
    {aboveCoded leftCoded : Nat → Option Nat}
    (habove : LastOn (· % width) before aboveCoded)
    (hleft : LastOn (· / width) before leftCoded)
    (hplace : InPlace width (before ++ rest))
    (partitions : List (List (Probability × Bool))) :
    serializeMacroblockTokens tables width height (before ++ rest)
        (rest.zip (linkY2Blocks width aboveCoded leftCoded before.length
          (rest.map fun mb => mb.Y2.coded))) partitions =
      serializeRunningTokens tables width height (before ++ rest) rest
        (Y2Contexts.after before) partitions := by
  induction rest generalizing before aboveCoded leftCoded partitions with
  | nil => rfl
  | cons mb rest ih =>
      have hcontext := Macroblock.serializeTokens_congr
        (sameFlags height (mb :: rest) habove hleft
          hplace.left hplace.here) tables mb
      rw [List.map_cons, linkY2Blocks, List.zip_cons_cons,
        serializeMacroblockTokens, serializeRunningTokens]
      cases partitions[mb.row % partitions.length]? with
      | none => rfl
      | some written =>
          dsimp only
          rw [hcontext]
          cases mb.serializeTokens tables
              ((Y2Contexts.after before).tokenContext width height
                (before ++ mb :: rest) mb) with
          | error failure => rfl
          | ok symbols =>
              have hsplit : before ++ mb :: rest = (before ++ [mb]) ++ rest := by
                rw [List.append_assoc]
                rfl
              have hlength : (before ++ [mb]).length = before.length + 1 := by
                rw [List.length_append, List.length_singleton]
              rw [ok_bind, ok_bind, ← Y2Contexts.after_append, hsplit]
              cases hmb : mb.Y2.coded with
              | true =>
                  have hrest := ih (before ++ [mb]) (habove.append_coded hmb)
                    (hleft.append_coded hmb) (hplace.next rfl)
                    (partitions.set (mb.row % partitions.length)
                      (written ++ symbols))
                  rw [hlength] at hrest
                  exact hrest
              | false =>
                  have hrest := ih (before ++ [mb]) (habove.append_uncoded hmb)
                    (hleft.append_uncoded hmb) (hplace.next rfl)
                    (partitions.set (mb.row % partitions.length)
                      (written ++ symbols))
                  rw [hlength] at hrest
                  exact hrest

theorem segmented_coded {width height : Nat}
    (segmentation : Option (Segmentation width height))
    (macroblocks : List (Macroblock Header)) :
    (segmented segmentation macroblocks).map (fun mb => mb.Y2.coded) =
      macroblocks.map fun mb => mb.Y2.coded :=
  segmented_view (fun _ _ => rfl) segmentation macroblocks

/-- The tokens as a frame reads them, whose blocks are relinked before the
segments are known. -/
theorem tokenItems_running (tables : ProbabilityTables) {width height : Nat}
    (segmentation : Option (Segmentation width height))
    {macroblocks : List (Macroblock Header)}
    (hplaces : macroblocks.map Macroblock.place =
      Grid.places (macroblockDimension width) (macroblockDimension height))
    (decoders : List BoolDecoder) :
    parseMacroblockTokens tables (macroblockDimension width)
        (macroblockDimension height) (tokenItems segmentation macroblocks) []
        decoders =
      parseRunningTokens tables (macroblockDimension width)
        (macroblockDimension height) (segmented segmentation macroblocks) []
        Y2Contexts.start decoders := by
  have hsegmented : (segmented segmentation macroblocks).map Macroblock.place =
      Grid.places (macroblockDimension width) (macroblockDimension height) :=
    (segmented_view (fun _ _ => rfl) segmentation macroblocks).trans hplaces
  have hrun := parseMacroblockTokens_running tables
    (macroblockDimension height) [] (segmented segmentation macroblocks)
    (LastOn.nil _) (LastOn.nil _) (InPlace.ofPlaces hsegmented) decoders
  rw [segmented_coded] at hrun
  exact hrun

/-- After `relink_y2_blocks` every Y2 block has the nearest coded ones for its
neighbours, and the contexts they give a frame that is read or written are the
running contexts of the format. -/
theorem relinkY2Blocks_spec {width height : Nat}
    {macroblocks : List (Macroblock Header)}
    (hplaces : macroblocks.map Macroblock.place = Grid.places width height) :
    (∀ column < width, ∀ row < height, ∃ links,
      (relinkY2Blocks width macroblocks)[row * width + column]? = some links ∧
        LinkedTo width (fun column row =>
          CodedAt macroblocks (row * width + column)) column row links) ∧
    (∀ tables decoders,
      parseMacroblockTokens tables width height
          (macroblocks.zip (relinkY2Blocks width macroblocks)) [] decoders =
        parseRunningTokens tables width height macroblocks [] Y2Contexts.start
          decoders) ∧
    ∀ tables partitions,
      serializeMacroblockTokens tables width height macroblocks
          (macroblocks.zip (relinkY2Blocks width macroblocks)) partitions =
        serializeRunningTokens tables width height macroblocks macroblocks
          Y2Contexts.start partitions := by
  have hlength : macroblocks.length = width * height := by
    rw [← List.length_map Macroblock.place, hplaces, Grid.places_eq_map,
      List.length_map, List.length_range]
  have hinPlace := InPlace.ofPlaces hplaces
  refine ⟨fun column hcolumn row hrow => ?_, fun tables decoders => ?_,
    fun tables partitions => ?_⟩
  · apply relinkY2Blocks_linkedTo macroblocks hcolumn
    rw [hlength]
    exact Grid.index_lt hcolumn hrow
  · exact parseMacroblockTokens_running tables height [] macroblocks
      (LastOn.nil _) (LastOn.nil _) hinPlace decoders
  · exact serializeMacroblockTokens_running tables height [] macroblocks
      (LastOn.nil _) (LastOn.nil _) hinPlace partitions

/-- Two rows of two, of which the first macroblock of each has no Y2 block. -/
def patchwork : List (Macroblock Unit) :=
  (Grid.places 2 2).map fun place => {
    column := place.1
    row := place.2
    segmentIdUpdate := none
    mbSkipCoeff := none
    header := ()
    Y2 := { type := .y2, predictionMode := .dcPred, coded := place.1 == 1 } }

theorem relinkY2Blocks_patchwork :
    ∃ links, (relinkY2Blocks 2 patchwork)[1 * 2 + 1]? = some links ∧
      LinkedTo 2 (fun column row => CodedAt patchwork (row * 2 + column)) 1 1
        links :=
  have hplaces : patchwork.map Macroblock.place = Grid.places 2 2 := rfl
  (relinkY2Blocks_spec hplaces).1 1 (by decide) 1 (by decide)

end Salsify.Codec
