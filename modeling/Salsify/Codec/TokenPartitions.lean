import Salsify.Codec.FrameCodec

namespace Salsify.Codec

open Salsify.Coder (Probability BoolDecoder)
open Salsify.Net (Failure)
open BitParser (Yields Consumes)
open Fallible (bind_eq_ok ok_bind)

/-! The tokens of a frame are put to the partitions in the order in which they
are read from them. -/

/-- The blocks that are linked come before the ones that they are linked to. -/
def EarlierLinks : Nat → List Y2Links → Prop
  | _, [] => True
  | index, links :: rest =>
      (∀ other, links.above = some other ∨ links.left = some other →
        other < index) ∧
      EarlierLinks (index + 1) rest

theorem update_earlier {coded : Nat → Option Nat} {index : Nat}
    (h : ∀ line other, coded line = some other → other < index) (line : Nat) :
    ∀ other last, Function.update coded line (some index) other = some last →
      last < index + 1 := by
  intro other last hlast
  rw [Function.update_apply] at hlast
  split at hlast
  · cases hlast
    exact Nat.lt_succ_self index
  · exact Nat.lt_succ_of_lt (h other last hlast)

theorem linkY2Blocks_earlier (width : Nat) :
    (coded : List Bool) → {aboveCoded leftCoded : Nat → Option Nat} →
    {index : Nat} →
    (∀ column other, aboveCoded column = some other → other < index) →
    (∀ row other, leftCoded row = some other → other < index) →
    EarlierLinks index (linkY2Blocks width aboveCoded leftCoded index coded)
  | [], _, _, _, _, _ => trivial
  | first :: rest, aboveCoded, leftCoded, index, habove, hleft => by
      rw [linkY2Blocks]
      refine ⟨fun other hother => ?_, ?_⟩
      · rcases hother with hother | hother
        · exact habove _ other hother
        · exact hleft _ other hother
      · cases first with
        | true =>
            exact linkY2Blocks_earlier width rest (update_earlier habove _)
              (update_earlier hleft _)
        | false =>
            exact linkY2Blocks_earlier width rest
              (fun column other h => Nat.lt_succ_of_lt (habove column other h))
              (fun row other h => Nat.lt_succ_of_lt (hleft row other h))

theorem relinkY2Blocks_earlier {MacroblockHeader : Type} (width : Nat)
    (macroblocks : List (Macroblock MacroblockHeader)) :
    EarlierLinks 0 (relinkY2Blocks width macroblocks) :=
  linkY2Blocks_earlier width _ (fun _ _ h => nomatch h) (fun _ _ h => nomatch h)

section Tokens

variable {Header : Type}

theorem tokenContextAt_append {width height : Nat}
    (before new : List (Macroblock Header)) {place : Nat × Nat}
    {links : Y2Links}
    (hplace : (Grid.places width height)[before.length]? = some place)
    (hlinks : ∀ other, links.above = some other ∨ links.left = some other →
      other < before.length) :
    tokenContextAt width height (before ++ new) place links =
      tokenContextAt width height before place links := by
  have hread (link : Option Nat)
      (hlink : ∀ other, link = some other → other < before.length) :
      (link.bind fun other => (before ++ new)[other]?) =
        link.bind fun other => before[other]? := by
    cases link with
    | none => rfl
    | some other => exact List.getElem?_append_left (hlink other rfl)
  unfold tokenContextAt
  rw [contextAt_append before new hplace]
  dsimp only
  rw [hread links.above fun other h => hlinks other (.inl h),
    hread links.left fun other h => hlinks other (.inr h)]

/-- To each partition belong the symbols that the macroblocks are written with
after `before`, and that give them all again. -/
structure Shares (tables : ProbabilityTables) (width height count : Nat)
    (items : List (Macroblock Header × Y2Links))
    (before all new : List (Macroblock Header))
    (share : Nat → List (Probability × Bool)) : Prop where
  writes : ∀ partitions : List (List (Probability × Bool)),
    partitions.length = count →
    serializeMacroblockTokens tables width height all
        (new.zip (items.map Prod.snd)) partitions =
      .ok (partitions.mapIdx fun index written => written ++ share index)
  reads : ∀ decoders : List BoolDecoder, decoders.length = count →
    (∀ index (decoder : BoolDecoder), decoders[index]? = some decoder →
      decoder.Delivers (share index)) →
    parseMacroblockTokens tables width height items before decoders = .ok all

/-- The symbols of the first macroblock go to the front of the share of its
row. -/
theorem Shares.cons {tables : ProbabilityTables} {width height count : Nat}
    {items : List (Macroblock Header × Y2Links)}
    {before all new : List (Macroblock Header)}
    {share : Nat → List (Probability × Bool)}
    {mb parsed : Macroblock Header} {links : Y2Links}
    {symbols : List (Probability × Bool)} (hcount : 0 < count)
    (h : Shares tables width height count items (before ++ [parsed]) all new
      share)
    (hrow : parsed.row = mb.row)
    (hwrites : parsed.serializeTokens tables
      (tokenContextAt width height all parsed.place links) = .ok symbols)
    (hreads : (mb.parseTokens tables (tokenContextAt width height before
      mb.place links)).Consumes symbols parsed) :
    Shares tables width height count ((mb, links) :: items) before all
      (parsed :: new) (Function.update share (mb.row % count)
        (symbols ++ share (mb.row % count))) where
  writes partitions hlength := by
    subst hlength
    have hlt : mb.row % partitions.length < partitions.length :=
      Nat.mod_lt _ hcount
    rw [List.map_cons, List.zip_cons_cons, serializeMacroblockTokens, hrow]
    simp only [List.getElem?_eq_getElem hlt, hwrites, ok_bind]
    rw [h.writes _ List.length_set]
    refine congrArg Except.ok (List.ext_getElem (by simp) fun index _ _ => ?_)
    rw [List.getElem_mapIdx, List.getElem_mapIdx, List.getElem_set]
    by_cases hindex : mb.row % partitions.length = index
    · subst hindex
      rw [if_pos rfl, Function.update_self, List.append_assoc]
    · rw [if_neg hindex, Function.update_of_ne (Ne.symm hindex)]
  reads decoders hlength hdelivers := by
    subst hlength
    have hlt : mb.row % decoders.length < decoders.length :=
      Nat.mod_lt _ hcount
    have hfirst := hdelivers _ _ (List.getElem?_eq_getElem hlt)
    rw [Function.update_self] at hfirst
    obtain ⟨next, hrun, hnext⟩ := hreads.run delivers_get hfirst
    have hrest := h.reads (decoders.set (mb.row % decoders.length) next)
      List.length_set (by
        intro index decoder hdecoder
        rw [List.getElem?_set] at hdecoder
        by_cases hindex : mb.row % decoders.length = index
        · rw [if_pos hindex, if_pos (hindex ▸ hlt)] at hdecoder
          cases hdecoder
          rw [← hindex]
          exact hnext
        · rw [if_neg hindex] at hdecoder
          have hother := hdelivers index decoder hdecoder
          rwa [Function.update_of_ne (Ne.symm hindex)] at hother)
    rw [parseMacroblockTokens]
    simp only [List.getElem?_eq_getElem hlt]
    change (Macroblock.parseTokens tables (tokenContextAt width height before
      mb.place links) mb).run boolDecoder _ >>= _ = _
    rw [hrun, ok_bind]
    exact hrest

theorem shares_nil (tables : ProbabilityTables) (width height count : Nat)
    (before : List (Macroblock Header)) :
    Shares tables width height count [] before before [] fun _ => [] where
  writes partitions _ := by
    refine congrArg Except.ok (List.ext_getElem (by simp) fun index _ _ => ?_)
    rw [List.getElem_mapIdx, List.append_nil]
  reads _ _ _ := rfl

theorem parseMacroblockTokens_shares (tables : ProbabilityTables)
    (width height : Nat) {count : Nat} (hcount : 0 < count) :
    (items : List (Macroblock Header × Y2Links)) →
    {before all : List (Macroblock Header)} → {decoders : List BoolDecoder} →
    decoders.length = count →
    (Grid.places width height).drop before.length =
      items.map (fun item => item.1.place) →
    (∀ item ∈ items, item.1.Clear) →
    EarlierLinks before.length (items.map Prod.snd) →
    parseMacroblockTokens tables width height items before decoders =
      .ok all →
    ∃ new share, all = before ++ new ∧
      new.map Macroblock.bare = items.map (fun item => item.1.bare) ∧
      Shares tables width height count items before all new share
  | [], before, _, _, _, _, _, _, h => by
      cases h
      exact ⟨[], fun _ => [], (List.append_nil before).symm, rfl,
        shares_nil tables width height count before⟩
  | (mb, links) :: rest, before, all, decoders, hlength, hplaces, hclear,
      hlinks, h => by
      have hplace : (Grid.places width height)[before.length]? =
          some mb.place := by
        rw [← List.head?_drop, hplaces]
        rfl
      have hrest : (Grid.places width height).drop (before.length + 1) =
          rest.map fun item => item.1.place := by
        rw [← List.drop_drop, hplaces]
        rfl
      have hlt : mb.row % decoders.length < decoders.length :=
        Nat.mod_lt _ (by omega)
      rw [parseMacroblockTokens] at h
      simp only [List.getElem?_eq_getElem hlt] at h
      obtain ⟨⟨parsed, next⟩, hrun, h⟩ := bind_eq_ok h
      have hechoes : (mb.parseTokens tables (tokenContextAt width height before
          mb.place links)).Yields (fun _ => True) _ :=
        Macroblock.parseTokens_echoes tables _ (hclear _ List.mem_cons_self)
      obtain ⟨⟨hbare, symbols, hwrites, hreads⟩, -⟩ := hechoes.of_run
        (fun _ _ (_ : True) => trivial) (fun _ _ => trivial) trivial hrun
      have hsame : parsed.bare.place = mb.bare.place :=
        congrArg Macroblock.place hbare
      have hsame : parsed.place = mb.place := hsame
      have hbefore : (before ++ [parsed]).length = before.length + 1 :=
        List.length_append
      rw [← hbefore] at hrest
      have hlater : EarlierLinks (before ++ [parsed]).length
          (rest.map Prod.snd) := by
        rw [hbefore]
        exact hlinks.2
      obtain ⟨new, share, rfl, hnew, hshares⟩ := parseMacroblockTokens_shares
        tables width height hcount rest (by rw [List.length_set, hlength])
        hrest (fun item hitem => hclear item (List.mem_cons_of_mem _ hitem))
        hlater h
      have hall : before ++ [parsed] ++ new = before ++ parsed :: new := by
        rw [List.append_assoc]
        rfl
      refine ⟨parsed :: new, _, hall, ?_, hshares.cons hcount
        (congrArg Prod.snd hsame) ?_ hreads⟩
      · rw [List.map_cons, hbare, hnew]
        rfl
      · rw [hall, hsame, tokenContextAt_append before (parsed :: new) hplace
          hlinks.1]
        exact hwrites

end Tokens

end Salsify.Codec
