import Salsify.Codec.DecodedSamples
import Salsify.Codec.EdgeFilter

namespace Salsify.Codec

open Salsify.Net (Failure)
open Fallible (ok_bind bind_eq_ok SameValue)

/-! What the loop filter reads and writes, and the orders in which it may come
to the edges of a frame. -/

namespace RasterPlane

variable {width height : Nat}

theorem write_footprint (plane : RasterPlane width height) {column row : Nat}
    (hcolumn : column < width) (hrow : row < height) (value : UInt8)
    (reads : Set (Nat × Nat)) :
    Footprint (fun storage => (plane.withStorage storage).sample?)
      (fun storage => storage.write (row * width + column) [value])
      (.ok ()) reads {(column, row)} where
  outcome_eq storage := by
    have hfits : row * width + column + [value].length ≤
        storage.storage.length := by
      rw [storage.storage_length_eq plane.toTwoDStorage, plane.length_eq]
      exact Grid.index_lt hcolumn hrow
    rw [TwoDStorage.write, dif_pos hfits]
    rfl
  kept {storage next} hrun place hplace := by
    refine ((plane.withStorage storage).sample?_write
      (Nat.succ_le_of_lt hcolumn) hrow hrun place).trans (if_neg ?_)
    rintro ⟨hrowEq, hge, hlt⟩
    refine hplace (Prod.ext ?_ hrowEq)
    exact Nat.le_antisymm (Nat.le_of_lt_succ hlt) hge
  determined {one other next nextOther} _ hone hother place hplace := by
    rw [Set.mem_singleton_iff] at hplace
    subst hplace
    have hwritten : row = row ∧ column ≤ column ∧
        column < column + [value].length :=
      ⟨rfl, Nat.le_refl column, Nat.lt_succ_self column⟩
    have hfirst := (plane.withStorage one).sample?_write
      (Nat.succ_le_of_lt hcolumn) hrow hone (column, row)
    have hsecond := (plane.withStorage other).sample?_write
      (Nat.succ_le_of_lt hcolumn) hrow hother (column, row)
    rw [if_pos hwritten] at hfirst hsecond
    exact hfirst.trans hsecond.symm

end RasterPlane

namespace Direction

/-- The place of a sample across an edge from the place of its first sample
after the edge. -/
def tapPlace (direction : Direction) (place : Nat × Nat) (tap : Tap) :
    Nat × Nat :=
  match direction with
  | .vertical => (place.1 + tap.index - 4, place.2)
  | .horizontal => (place.1, place.2 + tap.index - 4)

/-- There are four samples before the place and four from it on. -/
def Spans (direction : Direction) (width height : Nat) (place : Nat × Nat) :
    Prop :=
  match direction with
  | .vertical => (4 ≤ place.1 ∧ place.1 + 4 ≤ width) ∧ place.2 < height
  | .horizontal => place.1 < width ∧ 4 ≤ place.2 ∧ place.2 + 4 ≤ height

variable {direction : Direction} {width height : Nat} {place : Nat × Nat}

theorem tapPlace_lt (h : direction.Spans width height place) (tap : Tap) :
    (direction.tapPlace place tap).1 < width ∧
      (direction.tapPlace place tap).2 < height := by
  have hindex : tap.index < 8 := by cases tap <;> decide
  cases direction with
  | vertical =>
      obtain ⟨⟨hlow, hhigh⟩, hrow⟩ := h
      exact ⟨by dsimp only [tapPlace]; omega, hrow⟩
  | horizontal =>
      obtain ⟨hcolumn, hlow, hhigh⟩ := h
      exact ⟨hcolumn, by dsimp only [tapPlace]; omega⟩

theorem pointer_eq (h : direction.Spans width height place) (tap : Tap) :
    tap.pointer (place.2 * width + place.1) (direction.stride width) =
      .ok ((direction.tapPlace place tap).2 * width +
        (direction.tapPlace place tap).1) := by
  unfold Tap.pointer
  cases direction with
  | vertical =>
      obtain ⟨⟨hlow, -⟩, -⟩ := h
      rw [decide_eq_true (by dsimp only [stride]; omega), Net.require_true,
        ok_bind]
      dsimp only [stride, tapPlace]
      exact congrArg Except.ok (by omega)
  | horizontal =>
      obtain ⟨-, hlow, -⟩ := h
      have hle : 4 * width ≤ place.2 * width := Nat.mul_le_mul_right width hlow
      have hsplit : (place.2 + tap.index - 4) * width =
          place.2 * width + tap.index * width - 4 * width := by
        rw [Nat.sub_mul, Nat.add_mul]
      rw [decide_eq_true (by dsimp only [stride]; omega), Net.require_true,
        ok_bind]
      dsimp only [stride, tapPlace]
      rw [hsplit]
      exact congrArg Except.ok (by omega)

end Direction

section Turn

variable {width height displayWidth displayHeight : Nat}
  {direction : Direction} {place : Nat × Nat}

theorem sameValue_samplesAcross (plane : RasterPlane width height)
    (h : direction.Spans width height place)
    {one other : TwoDStorage width height}
    (hagree : AgreeOn (fun storage => (plane.withStorage storage).sample?)
      (Set.range (direction.tapPlace place)) one other) :
    SameValue
      (one.samplesAcross (direction.stride width)
        (place.2 * width + place.1))
      (other.samplesAcross (direction.stride width)
        (place.2 * width + place.1)) := by
  refine (SameValue.mapM fun tap _ => ?_).bind fun samples => .of_return _
  obtain ⟨hcolumn, hrow⟩ := Direction.tapPlace_lt h tap
  have hsame := hagree _ (Set.mem_range_self tap)
  dsimp only at hsame
  rw [← Prod.mk.eta (p := direction.tapPlace place tap),
    RasterPlane.sample?_of_lt _ hcolumn hrow,
    RasterPlane.sample?_of_lt _ hcolumn hrow] at hsame
  rw [Direction.pointer_eq h tap, ok_bind, ok_bind,
    Storage.read_eq_ok (plane.getElem?_withStorage one hcolumn hrow),
    Storage.read_eq_ok (plane.getElem?_withStorage other hcolumn hrow),
    Option.some.inj hsame]
  exact .of_return _

/-- A filter that assigns the same taps whatever the samples are. -/
def Assigns (filter : EdgeSamples → List (Tap × UInt8)) (taps : List Tap) :
    Prop :=
  ∀ samples, (filter samples).map Prod.fst = taps

theorem filterAcross_footprint (plane : RasterPlane width height)
    (h : direction.Spans width height place)
    {filter : EdgeSamples → List (Tap × UInt8)} {taps : List Tap}
    (hassigns : Assigns filter taps) :
    Footprint (fun storage => (plane.withStorage storage).sample?)
      (fun storage => storage.filterAcross filter (direction.stride width)
        (place.2 * width + place.1)) (.ok ())
      (Set.range (direction.tapPlace place))
      {other | ∃ tap ∈ taps, direction.tapPlace place tap = other} := by
  refine Footprint.of_get (sameValue_samplesAcross plane h) fun samples => ?_
  have hstep : ∀ (front : List (Tap × UInt8)) item rest,
      filter samples = front ++ item :: rest →
      Footprint (fun storage => (plane.withStorage storage).sample?)
        (fun storage => do
          let pointer ← item.1.pointer (place.2 * width + place.1)
            (direction.stride width)
          storage.write pointer [item.2]) (.ok ())
        (Set.range (direction.tapPlace place) ∪ {other | ∃ earlier ∈ front,
          other ∈ ({direction.tapPlace place earlier.1} : Set (Nat × Nat))})
        {direction.tapPlace place item.1} := by
    intro front item rest _
    obtain ⟨hcolumn, hrow⟩ := Direction.tapPlace_lt h item.1
    refine (plane.write_footprint hcolumn hrow item.2 _).congr fun storage => ?_
    rw [Direction.pointer_eq h item.1, ok_bind]
  have hloop := Footprint.foldlM (filter samples)
    (fun item => {direction.tapPlace place item.1}) hstep
  rw [Fallible.forM_ok (filter samples) fun _ _ => rfl] at hloop
  have hwrites : {other | ∃ tap ∈ taps, direction.tapPlace place tap = other} =
      {other | ∃ item ∈ filter samples,
        other ∈ ({direction.tapPlace place item.1} : Set (Nat × Nat))} := by
    ext other
    rw [← hassigns samples]
    constructor
    · rintro ⟨tap, htap, rfl⟩
      obtain ⟨item, hitem, rfl⟩ := List.mem_map.mp htap
      exact ⟨item, hitem, rfl⟩
    · rintro ⟨item, hitem, rfl⟩
      exact ⟨item.1, List.mem_map_of_mem hitem, rfl⟩
  rw [hwrites]
  exact hloop

def Component.samples (component : Component) (places : Set (Nat × Nat)) :
    Set SamplePlace :=
  {sample | sample.1 = component ∧ sample.2 ∈ places}

/-- What is done to the storage of a component, as something done to the
raster. -/
theorem RasterBlock.update_footprint {block : RasterBlock}
    (hfits : block.Fits displayWidth displayHeight)
    {change : TwoDSubRange block.size (block.component.extent displayWidth)
        (block.component.extent displayHeight) →
      Except Failure (TwoDStorage (block.component.extent displayWidth)
        (block.component.extent displayHeight))}
    {operation : TwoDStorage (block.component.extent displayWidth)
        (block.component.extent displayHeight) →
      Except Failure (TwoDStorage (block.component.extent displayWidth)
        (block.component.extent displayHeight))}
    (hchange : ∀ raster, change (block.range hfits raster) =
      operation (raster.plane block.component).toTwoDStorage)
    {outcome : Except Failure Unit} {reads writes : Set (Nat × Nat)}
    (h : ∀ plane : RasterPlane (block.component.extent displayWidth)
        (block.component.extent displayHeight),
      Footprint (fun storage => (plane.withStorage storage).sample?) operation
        outcome reads writes) :
    Reconstructs displayWidth displayHeight (block.update change) outcome
      (block.component.samples reads) (block.component.samples writes) := by
  have hupdate : ∀ raster : VP8Raster displayWidth displayHeight,
      block.update change raster = (do
        let storage ← operation (raster.plane block.component).toTwoDStorage
        return raster.withPlane block.component storage) := by
    intro raster
    rw [update, VP8Raster.update, contents_eq hfits, ok_bind, hchange]
  refine Footprint.congr ?_ hupdate
  constructor
  · intro raster
    have hlast : ∀ storage, operation
        (raster.plane block.component).toTwoDStorage = .ok storage →
        Fallible.outcome (.ok (raster.withPlane block.component storage) :
          Except Failure (VP8Raster displayWidth displayHeight)) = .ok () :=
      fun _ _ => rfl
    refine (Fallible.outcome_bind hlast).trans ?_
    rw [(h (raster.plane block.component)).outcome_eq, Fallible.bind_ok_unit]
  · rintro raster next hrun ⟨component, place⟩ hplace
    obtain ⟨storage, hstorage, hnext⟩ := bind_eq_ok hrun
    cases hnext
    by_cases hcomponent : component = block.component
    · subst hcomponent
      have hkept := (h (raster.plane block.component)).kept hstorage place
        fun hwritten => hplace ⟨rfl, hwritten⟩
      simp only [VP8Raster.sample?, VP8Raster.withPlane, Function.update_self]
      exact hkept
    · simp only [VP8Raster.sample?, VP8Raster.withPlane,
        Function.update_of_ne hcomponent]
  · rintro one other next nextOther hagree hone hother ⟨component, place⟩
      ⟨hcomponent, hplace⟩
    dsimp only at hcomponent hplace
    subst hcomponent
    obtain ⟨storage, hstorage, hnext⟩ := bind_eq_ok hone
    obtain ⟨storageOther, hstorageOther, hnextOther⟩ := bind_eq_ok hother
    cases hnext
    cases hnextOther
    simp only [VP8Raster.sample?, VP8Raster.withPlane, Function.update_self]
    have hagree : AgreeOn (fun storage =>
        ((one.plane block.component).withStorage storage).sample?) reads
        (one.plane block.component).toTwoDStorage
        (other.plane block.component).toTwoDStorage :=
      fun read hread => hagree (block.component, read) ⟨rfl, hread⟩
    exact (h (one.plane block.component)).determined hagree hstorage
      hstorageOther place hplace

def RasterBlock.shift (block : RasterBlock) (place : Nat × Nat) : Nat × Nat :=
  (block.left + place.1, block.top + place.2)

theorem RasterBlock.filterTurn_footprint {block : RasterBlock}
    (hfits : block.Fits displayWidth displayHeight)
    (hplace : place.1 < block.size ∧ place.2 < block.size)
    (hspans : direction.Spans (block.component.extent displayWidth)
      (block.component.extent displayHeight) (block.shift place))
    {filter : EdgeSamples → List (Tap × UInt8)} {taps : List Tap}
    (hassigns : Assigns filter taps) :
    Reconstructs displayWidth displayHeight
      (block.filterTurn direction filter place) (.ok ())
      (block.component.samples
        (Set.range (direction.tapPlace (block.shift place))))
      (block.component.samples {other | ∃ tap ∈ taps,
        direction.tapPlace (block.shift place) tap = other}) := by
  refine update_footprint hfits (fun raster => ?_)
    fun plane => filterAcross_footprint plane hspans hassigns
  rw [TwoDSubRange.pointer_eq _ hplace.1 hplace.2, ok_bind,
    TwoDSubRange.pointer_start]
  rfl

end Turn

def Tap.inner : List Tap := [.q0, .p0, .q1, .p1, .q2, .p2]

section Macroblocks

variable {displayWidth displayHeight : Nat} {Header : Type}
  {mb : Macroblock Header}

/-- The macroblock, and what is left of or above it by at most so much. -/
def Macroblock.around (mb : Macroblock Header) (reach : Nat) :
    Set SamplePlace :=
  {sample |
    (sample.1.macroblockSize * mb.column ≤ sample.2.1 + reach ∧
      sample.2.1 < sample.1.macroblockSize * mb.column +
        sample.1.macroblockSize) ∧
    sample.1.macroblockSize * mb.row ≤ sample.2.2 + reach ∧
      sample.2.2 < sample.1.macroblockSize * mb.row +
        sample.1.macroblockSize}

theorem Macroblock.around_mono {reach more : Nat} (h : reach ≤ more) :
    mb.around reach ⊆ mb.around more := by
  rintro sample ⟨⟨hleft, hright⟩, htop, hbottom⟩
  exact ⟨⟨by omega, hright⟩, by omega, hbottom⟩

/-- An edge of a block that has all its samples in the raster. -/
def Direction.Reaches (direction : Direction) (block : RasterBlock)
    (edge : Nat) : Prop :=
  edge + 4 ≤ block.size ∧
    match direction with
    | .vertical => 4 ≤ block.left + edge
    | .horizontal => 4 ≤ block.top + edge

def Direction.position (mb : Macroblock Header) : Direction → Nat
  | .vertical => mb.column
  | .horizontal => mb.row

theorem Direction.Reaches.place_lt {direction : Direction}
    {block : RasterBlock} {edge along : Nat}
    (hedge : direction.Reaches block edge) (halong : along < block.size) :
    (direction.place edge along).1 < block.size ∧
      (direction.place edge along).2 < block.size := by
  have hinside := hedge.1
  cases direction with
  | vertical => exact ⟨by dsimp only [Direction.place]; omega, halong⟩
  | horizontal => exact ⟨halong, by dsimp only [Direction.place]; omega⟩

theorem Direction.Reaches.spans {direction : Direction} {block : RasterBlock}
    {edge along : Nat} (hedge : direction.Reaches block edge)
    (hfits : block.Fits displayWidth displayHeight)
    (halong : along < block.size) :
    direction.Spans (block.component.extent displayWidth)
      (block.component.extent displayHeight)
      (block.shift (direction.place edge along)) := by
  obtain ⟨hinside, hbefore⟩ := hedge
  have hcolumns := hfits.column_le
  have hrows := hfits.row_le
  cases direction with
  | vertical =>
      simp only [Direction.Spans, Direction.place, RasterBlock.shift] at hbefore ⊢
      omega
  | horizontal =>
      simp only [Direction.Spans, Direction.place, RasterBlock.shift] at hbefore ⊢
      omega

theorem tapPlace_around {component : Component} {direction : Direction}
    {edge along reach : Nat}
    (hedge : direction.Reaches (mb.block component) edge)
    (halong : along < (mb.block component).size) {tap : Tap}
    (htap : 4 ≤ tap.index + reach) {sample : SamplePlace}
    (hsample : sample ∈ (mb.block component).component.samples
      {direction.tapPlace ((mb.block component).shift
        (direction.place edge along)) tap}) :
    sample ∈ mb.around reach := by
  have hindex : tap.index < 8 := by cases tap <;> decide
  obtain ⟨hinside, hbefore⟩ := hedge
  obtain ⟨sampleComponent, x, y⟩ := sample
  obtain ⟨hcomponent, hplace⟩ := hsample
  rw [mb.block_component] at hcomponent
  dsimp only at hcomponent
  subst hcomponent
  obtain ⟨hcolumnOf, hrowOf⟩ := mb.block_place sampleComponent
  rw [Set.mem_singleton_iff, Prod.ext_iff] at hplace
  rw [RasterBlock.shift] at hplace
  rw [mb.block_size] at hinside halong
  have hleft : (mb.block sampleComponent).left =
      sampleComponent.macroblockSize * mb.column := by
    rw [RasterBlock.left, mb.block_size, hcolumnOf]
  have htop : (mb.block sampleComponent).top =
      sampleComponent.macroblockSize * mb.row := by
    rw [RasterBlock.top, mb.block_size, hrowOf]
  rw [hleft, htop] at hplace
  cases direction with
  | vertical =>
      simp only [Direction.tapPlace, Direction.place, hleft] at hplace hbefore
      simp only [Macroblock.around, Set.mem_ofPred_eq]
      omega
  | horizontal =>
      simp only [Direction.tapPlace, Direction.place, htop] at hplace hbefore
      simp only [Macroblock.around, Set.mem_ofPred_eq]
      omega

theorem filterTurn_around (h : mb.Within displayWidth displayHeight)
    {component : Component} {direction : Direction} {edge along : Nat}
    (hedge : direction.Reaches (mb.block component) edge)
    (halong : along < (mb.block component).size)
    {filter : EdgeSamples → List (Tap × UInt8)} {taps : List Tap}
    (hassigns : Assigns filter taps) (htaps : taps ⊆ Tap.inner) :
    Reconstructs displayWidth displayHeight
      ((mb.block component).filterTurn direction filter
        (direction.place edge along)) (.ok ()) (mb.around 4) (mb.around 3) := by
  have hfits := Macroblock.block_fits h component
  refine ((RasterBlock.filterTurn_footprint hfits (hedge.place_lt halong)
    (hedge.spans hfits halong) hassigns).mono ?_).widen ?_ fun sample hsample =>
      .inl (Macroblock.around_mono (by decide) hsample)
  · rintro sample ⟨hcomponent, tap, hsample⟩
    exact tapPlace_around hedge halong (Nat.le_add_left 4 tap.index)
      ⟨hcomponent, hsample.symm⟩
  · rintro sample ⟨hcomponent, tap, htap, hsample⟩
    have hinner : ∀ tap ∈ Tap.inner, 4 ≤ tap.index + 3 := by decide
    exact tapPlace_around hedge halong (hinner tap (htaps htap))
      ⟨hcomponent, hsample.symm⟩

theorem filterEdges_around (h : mb.Within displayWidth displayHeight)
    {component : Component} {direction : Direction} {edges : List Nat}
    (hedges : ∀ edge ∈ edges, direction.Reaches (mb.block component) edge)
    {filter : EdgeSamples → List (Tap × UInt8)} {taps : List Tap}
    (hassigns : Assigns filter taps) (htaps : taps ⊆ Tap.inner) :
    Reconstructs displayWidth displayHeight
      ((mb.block component).filterEdges direction edges filter) (.ok ())
      (mb.around 4) (mb.around 3) := by
  refine Footprint.foldlM_within (Macroblock.around_mono (by decide))
    fun place hplace => ?_
  obtain ⟨edge, hedge, hplace⟩ := List.mem_flatMap.mp hplace
  obtain ⟨along, halong, rfl⟩ := List.mem_map.mp hplace
  exact filterTurn_around h (hedges edge hedge) (List.mem_range.mp halong)
    hassigns htaps

namespace NormalLoopFilter

theorem filterComponents_around (h : mb.Within displayWidth displayHeight)
    {direction : Direction} {edges : Nat → List Nat}
    (hedges : ∀ component, ∀ edge ∈ edges (mb.block component).size,
      direction.Reaches (mb.block component) edge)
    {filter : EdgeSamples → List (Tap × UInt8)} {taps : List Tap}
    (hassigns : Assigns filter taps) (htaps : taps ⊆ Tap.inner) :
    Reconstructs displayWidth displayHeight
      (filterComponents mb direction edges filter) (.ok ()) (mb.around 4)
      (mb.around 3) :=
  Footprint.foldlM_within (Macroblock.around_mono (by decide))
    fun component _ =>
      filterEdges_around h (hedges component) hassigns htaps

theorem macroblockEdge_assigns (normal : NormalLoopFilter) :
    Assigns normal.macroblockEdge [.q0, .p0, .q1, .p1, .q2, .p2] :=
  fun _ => rfl

theorem subblockEdge_assigns (normal : NormalLoopFilter) :
    Assigns normal.subblockEdge [.q0, .p0, .q1, .p1] :=
  fun _ => rfl

theorem subblockEdges_reach (direction : Direction) (component : Component) :
    ∀ edge ∈ subblockEdges (mb.block component).size,
      direction.Reaches (mb.block component) edge := by
  intro edge hedge
  have hinside : ∀ size ∈ [16, 8], ∀ edge ∈ subblockEdges size,
      4 ≤ edge ∧ edge + 4 ≤ size := by decide
  have hsize : (mb.block component).size ∈ [16, 8] := by
    cases component <;> simp [Macroblock.block]
  obtain ⟨hlow, hhigh⟩ := hinside _ hsize edge hedge
  refine ⟨hhigh, ?_⟩
  cases direction with
  | vertical => exact Nat.le_add_left_of_le hlow
  | horizontal => exact Nat.le_add_left_of_le hlow

theorem firstEdge_reaches (direction : Direction)
    (hposition : 0 < direction.position mb) (component : Component) :
    ∀ edge ∈ [0], direction.Reaches (mb.block component) edge := by
  intro edge hedge
  rw [List.mem_singleton.mp hedge]
  cases direction with
  | vertical =>
      cases component with
      | Y | U | V =>
          simp only [Direction.position, Direction.Reaches, Macroblock.block,
            RasterBlock.left] at hposition ⊢
          omega
  | horizontal =>
      cases component with
      | Y | U | V =>
          simp only [Direction.position, Direction.Reaches, Macroblock.block,
            RasterBlock.top] at hposition ⊢
          omega

theorem doneIf_around {condition : Bool}
    {operation : VP8Raster displayWidth displayHeight →
      Except Failure (VP8Raster displayWidth displayHeight)}
    (h : condition = true → Reconstructs displayWidth displayHeight operation
      (.ok ()) (mb.around 4) (mb.around 3)) :
    Reconstructs displayWidth displayHeight (doneIf condition operation)
      (.ok ()) (mb.around 4) (mb.around 3) := by
  cases condition with
  | true => exact h rfl
  | false =>
      exact Footprint.nothing.widen (Set.empty_subset _) fun _ hsample =>
        .inl (Macroblock.around_mono (by decide) hsample)

/-- The filter of a macroblock reads no further than four samples from it, and
writes no further than three. -/
theorem filter_around (h : mb.Within displayWidth displayHeight)
    (normal : NormalLoopFilter) (skipSubblockEdges : Bool) :
    Reconstructs displayWidth displayHeight
      (normal.filter mb skipSubblockEdges) (.ok ()) (mb.around 4)
      (mb.around 3) := by
  have hsubblocks : ∀ direction, Reconstructs displayWidth displayHeight
      (doneIf (!skipSubblockEdges)
        (filterComponents mb direction subblockEdges normal.subblockEdge))
      (.ok ()) (mb.around 4) (mb.around 3) := fun direction =>
    doneIf_around fun _ => filterComponents_around h
      (subblockEdges_reach direction) normal.subblockEdge_assigns (by decide)
  have hmacroblock : ∀ direction, Reconstructs displayWidth displayHeight
      (doneIf (0 < direction.position mb)
        (filterComponents mb direction (fun _ => [0]) normal.macroblockEdge))
      (.ok ()) (mb.around 4) (mb.around 3) := fun direction =>
    doneIf_around fun hposition => filterComponents_around h
      (firstEdge_reaches direction (of_decide_eq_true hposition))
      normal.macroblockEdge_assigns (by decide)
  exact (hmacroblock .vertical).andThen ((hsubblocks .vertical).andThen
    ((hmacroblock .horizontal).andThen (hsubblocks .horizontal)))

end NormalLoopFilter

/-- The turns of the loops over the edges of a macroblock, by component and
place in the block. -/
def edgeTurns (mb : Macroblock Header) (direction : Direction)
    (edges : Nat → List Nat) : List (Component × Nat × Nat) :=
  Component.all.flatMap fun component =>
    (edgePlaces direction (mb.block component).size
      (edges (mb.block component).size)).map fun place => (component, place)

def Direction.along (direction : Direction) (place : Nat × Nat) : Nat :=
  match direction with
  | .vertical => place.2
  | .horizontal => place.1

/-- Two turns are of one line across the edges of a component. -/
def Direction.SameLine (direction : Direction)
    (turn other : Component × Nat × Nat) : Prop :=
  turn.1 = other.1 ∧ direction.along turn.2 = direction.along other.2

instance (direction : Direction) (turn other : Component × Nat × Nat) :
    Decidable (direction.SameLine turn other) :=
  inferInstanceAs (Decidable (_ ∧ _))

def turnSamples (mb : Macroblock Header) (direction : Direction)
    (taps : Set Tap) (turn : Component × Nat × Nat) : Set SamplePlace :=
  (mb.block turn.1).component.samples {place | ∃ tap ∈ taps,
    direction.tapPlace ((mb.block turn.1).shift turn.2) tap = place}

theorem notMem_turnSamples {direction : Direction} {taps others : Set Tap}
    {turn other : Component × Nat × Nat}
    (hline : ¬ direction.SameLine turn other) {sample : SamplePlace}
    (hsample : sample ∈ turnSamples mb direction taps turn) :
    sample ∉ turnSamples mb direction others other := by
  rintro ⟨hcomponentOther, tapOther, -, hplaceOther⟩
  obtain ⟨hcomponent, tap, -, hplace⟩ := hsample
  rw [mb.block_component] at hcomponent hcomponentOther
  have hsame : turn.1 = other.1 := hcomponent.symm.trans hcomponentOther
  refine hline ⟨hsame, ?_⟩
  have hplaces := hplace.trans hplaceOther.symm
  rw [hsame] at hplaces
  cases direction with
  | vertical =>
      have hrow := congrArg Prod.snd hplaces
      simp only [Direction.tapPlace, RasterBlock.shift] at hrow
      exact Nat.add_left_cancel hrow
  | horizontal =>
      have hcolumn := congrArg Prod.fst hplaces
      simp only [Direction.tapPlace, RasterBlock.shift] at hcolumn
      exact Nat.add_left_cancel hcolumn

theorem turns_apart {direction : Direction} {taps : Set Tap}
    {turn other : Component × Nat × Nat}
    (hline : ¬ direction.SameLine turn other) :
    Footprint.Apart (turnSamples mb direction Set.univ turn)
      (turnSamples mb direction taps turn)
      (turnSamples mb direction Set.univ other)
      (turnSamples mb direction taps other) where
  first _ hsample :=
    ⟨notMem_turnSamples hline hsample, notMem_turnSamples hline hsample⟩
  second _ hsample := notMem_turnSamples
    (fun h => hline ⟨h.1.symm, h.2.symm⟩) hsample

theorem Direction.place_injective {direction : Direction}
    {edge along edgeOther alongOther : Nat}
    (h : direction.place edge along = direction.place edgeOther alongOther) :
    edge = edgeOther ∧ along = alongOther := by
  cases direction with
  | vertical => exact Prod.mk.inj h
  | horizontal => exact (Prod.mk.inj h).symm

theorem edgePlaces_nodup (direction : Direction) (size : Nat)
    {edges : List Nat} (h : edges.Nodup) :
    (edgePlaces direction size edges).Nodup := by
  refine List.nodup_flatMap.mpr ⟨fun edge _ => ?_, h.imp fun hne => ?_⟩
  · exact List.nodup_range.map fun one other hplace =>
      (Direction.place_injective hplace).2
  · rintro place hone hother
    obtain ⟨along, -, rfl⟩ := List.mem_map.mp hone
    obtain ⟨alongOther, -, hplace⟩ := List.mem_map.mp hother
    exact hne (Direction.place_injective hplace).1.symm

theorem edgeTurns_nodup (direction : Direction) {edges : Nat → List Nat}
    (h : ∀ size, (edges size).Nodup) :
    (edgeTurns mb direction edges).Nodup := by
  have hcomponents : Component.all.Nodup := by decide
  refine List.nodup_flatMap.mpr ⟨fun component _ => ?_,
    hcomponents.imp fun hne => ?_⟩
  · exact (edgePlaces_nodup direction _ (h _)).map fun one other hturn =>
      congrArg Prod.snd hturn
  · rintro turn hone hother
    obtain ⟨place, -, rfl⟩ := List.mem_map.mp hone
    obtain ⟨placeOther, -, hturn⟩ := List.mem_map.mp hother
    exact hne (congrArg Prod.fst hturn).symm

namespace NormalLoopFilter

/-- The turns along the edges of a macroblock may be taken in any order, and
those of its components in between each other, as long as each line of samples
is filtered from its first edge to its last. -/
theorem filterComponents_reorder (h : mb.Within displayWidth displayHeight)
    {direction : Direction} {edges : Nat → List Nat}
    (hedges : ∀ component, ∀ edge ∈ edges (mb.block component).size,
      direction.Reaches (mb.block component) edge)
    (hnodup : ∀ size, (edges size).Nodup)
    {filter : EdgeSamples → List (Tap × UInt8)} {taps : List Tap}
    (hassigns : Assigns filter taps)
    {turns : List (Component × Nat × Nat)}
    (hperm : (edgeTurns mb direction edges).Perm turns)
    (horder : ∀ turn other,
      [turn, other].Sublist (edgeTurns mb direction edges) →
      direction.SameLine turn other → [turn, other].Sublist turns)
    (raster : VP8Raster displayWidth displayHeight) :
    filterComponents mb direction edges filter raster =
      turns.foldlM (fun raster turn =>
        (mb.block turn.1).filterTurn direction filter turn.2 raster) raster := by
  have hloops : filterComponents mb direction edges filter raster =
      (edgeTurns mb direction edges).foldlM (fun raster turn =>
        (mb.block turn.1).filterTurn direction filter turn.2 raster) raster := by
    rw [edgeTurns, Fallible.foldlM_flatMap]
    simp only [List.foldlM_map]
    rfl
  have hturns : ∀ turn ∈ edgeTurns mb direction edges,
      Reconstructs displayWidth displayHeight
        ((mb.block turn.1).filterTurn direction filter turn.2) (.ok ())
        (turnSamples mb direction Set.univ turn)
        (turnSamples mb direction {tap | tap ∈ taps} turn) := by
    intro turn hturn
    obtain ⟨component, -, hturn⟩ := List.mem_flatMap.mp hturn
    obtain ⟨place, hplace, rfl⟩ := List.mem_map.mp hturn
    obtain ⟨edge, hedge, hplace⟩ := List.mem_flatMap.mp hplace
    obtain ⟨along, halong, rfl⟩ := List.mem_map.mp hplace
    have hfits := Macroblock.block_fits h component
    have hreaches := hedges component edge hedge
    have halong := List.mem_range.mp halong
    refine (RasterBlock.filterTurn_footprint hfits (hreaches.place_lt halong)
      (hreaches.spans hfits halong) hassigns).mono ?_
    rintro sample ⟨hcomponent, tap, htap⟩
    exact ⟨hcomponent, tap, Set.mem_univ tap, htap⟩
  rw [hloops]
  refine Footprint.foldlM_reorder hperm (edgeTurns_nodup direction hnodup)
    hturns (fun turn other hbefore => ?_) VP8Raster.ext_sample raster
  by_cases hline : direction.SameLine turn other
  · exact .inr (horder turn other hbefore hline)
  · exact .inl (turns_apart hline)

theorem mem_firstEdgeTurns {direction : Direction}
    {turn : Component × Nat × Nat}
    (h : turn ∈ edgeTurns mb direction fun _ => [0]) :
    turn.2 = direction.place 0 (direction.along turn.2) := by
  obtain ⟨component, -, hturn⟩ := List.mem_flatMap.mp h
  obtain ⟨place, hplace, rfl⟩ := List.mem_map.mp hturn
  obtain ⟨edge, hedge, hplace⟩ := List.mem_flatMap.mp hplace
  obtain ⟨along, -, rfl⟩ := List.mem_map.mp hplace
  rw [List.mem_singleton.mp hedge]
  cases direction <;> rfl

/-- So it is with each of the four loops of the filter. -/
theorem filter_reorder (h : mb.Within displayWidth displayHeight)
    (normal : NormalLoopFilter) (direction : Direction)
    (raster : VP8Raster displayWidth displayHeight) :
    (0 < direction.position mb → ∀ turns,
      (edgeTurns mb direction fun _ => [0]).Perm turns →
      filterComponents mb direction (fun _ => [0]) normal.macroblockEdge
          raster =
        turns.foldlM (fun raster turn => (mb.block turn.1).filterTurn direction
          normal.macroblockEdge turn.2 raster) raster) ∧
    ∀ turns, (edgeTurns mb direction subblockEdges).Perm turns →
      (∀ turn other,
        [turn, other].Sublist (edgeTurns mb direction subblockEdges) →
        direction.SameLine turn other → [turn, other].Sublist turns) →
      filterComponents mb direction subblockEdges normal.subblockEdge raster =
        turns.foldlM (fun raster turn => (mb.block turn.1).filterTurn direction
          normal.subblockEdge turn.2 raster) raster := by
  constructor
  · intro hposition turns hperm
    refine filterComponents_reorder h (firstEdge_reaches direction hposition)
      (fun _ => List.nodup_singleton 0) normal.macroblockEdge_assigns hperm
      (fun turn other hbefore hline => ?_) raster
    have hturn := mem_firstEdgeTurns (hbefore.subset List.mem_cons_self)
    have hother := mem_firstEdgeTurns
      (hbefore.subset (List.mem_cons_of_mem _ List.mem_cons_self))
    obtain rfl : turn = other :=
      Prod.ext hline.1 (by rw [hturn, hother, hline.2])
    exact absurd hbefore (List.nodup_iff_sublist.mp
      (edgeTurns_nodup direction fun _ => List.nodup_singleton 0) turn)
  · intro turns hperm horder
    exact filterComponents_reorder h (subblockEdges_reach direction)
      (fun _ => List.nodup_range' _) normal.subblockEdge_assigns hperm
      horder raster

/-- The filter of a macroblock never leaves the raster. It changes no sample
more than three from the macroblock, and makes those it changes of nothing that
is more than four from it. -/
theorem filter_local (h : mb.Within displayWidth displayHeight)
    (normal : NormalLoopFilter) (skipSubblockEdges : Bool)
    (raster : VP8Raster displayWidth displayHeight) :
    ∃ filtered, normal.filter mb skipSubblockEdges raster = .ok filtered ∧
      (∀ sample, sample ∉ mb.around 3 →
        filtered.sample? sample = raster.sample? sample) ∧
      ∀ other, AgreeOn VP8Raster.sample? (mb.around 4) raster other →
        ∃ filteredOther,
          normal.filter mb skipSubblockEdges other = .ok filteredOther ∧
            AgreeOn VP8Raster.sample? (mb.around 3) filtered filteredOther := by
  have hfootprint := filter_around h normal skipSubblockEdges
  have hsucceeds := fun raster =>
    Fallible.exists_of_outcome_ok (hfootprint.outcome_eq raster)
  obtain ⟨filtered, hfiltered⟩ := hsucceeds raster
  refine ⟨filtered, hfiltered, hfootprint.kept hfiltered,
    fun other hagree => ?_⟩
  obtain ⟨filteredOther, hother⟩ := hsucceeds other
  exact ⟨filteredOther, hother, hfootprint.determined hagree hfiltered hother⟩

/-- The middle one of nine. -/
def innerMacroblock : KeyFrameMacroblock where
  column := 1
  row := 1
  segmentIdUpdate := none
  mbSkipCoeff := none
  header := {}

def sampleFilter : NormalLoopFilter where
  simple := .new { type := .normal, filterLevel := 63, sharpnessLevel := 0 }
  hevThreshold := 2

/-- A raster of samples that go up, and may do so from another first one. -/
def slopeRaster (first : UInt8) : VP8Raster 48 48 where
  plane component := {
    storage := first :: (List.range (component.extent 48 *
      component.extent 48 - 1)).map fun index => UInt8.ofNat (5 * index)
    width_pos := by cases component <;> decide
    height_pos := by cases component <;> decide
    storage_length := by
      rw [List.length_cons, List.length_map, List.length_range]
      cases component <;> rfl
    width_lt := by cases component <;> decide
    height_lt := by cases component <;> decide }

theorem slopeRaster_agrees (first other : UInt8) :
    AgreeOn VP8Raster.sample? (innerMacroblock.around 4) (slopeRaster first)
      (slopeRaster other) := by
  rintro ⟨component, x, y⟩ ⟨⟨hleft, -⟩, -, -⟩
  have hbehind : y * component.extent 48 + x =
      y * component.extent 48 + (x - 1) + 1 := by
    cases component <;> simp only [innerMacroblock,
      Component.macroblockSize] at hleft <;> omega
  unfold VP8Raster.sample? RasterPlane.sample? RasterPlane.value
  split
  · rw [hbehind]
    rfl
  · rfl

/-- What a sample far from the macroblock is has no part in the filter. -/
theorem filter_local_inner : ∃ filtered filteredOther,
    sampleFilter.filter innerMacroblock false (slopeRaster 0) = .ok filtered ∧
      sampleFilter.filter innerMacroblock false (slopeRaster 200) =
        .ok filteredOther ∧
      filtered.sample? (.Y, 0, 0) = some 0 ∧
      filteredOther.sample? (.Y, 0, 0) = some 200 ∧
      AgreeOn VP8Raster.sample? (innerMacroblock.around 3) filtered
        filteredOther := by
  have hinside : innerMacroblock.Within 48 48 := ⟨by decide, by decide⟩
  have hfar : ((.Y, 0, 0) : SamplePlace) ∉ innerMacroblock.around 3 :=
    fun h => absurd h.1.1 (by decide)
  obtain ⟨filtered, hfiltered, hkept, hagrees⟩ :=
    filter_local hinside sampleFilter false (slopeRaster 0)
  obtain ⟨filteredOther, hother, hall⟩ := hagrees _ (slopeRaster_agrees 0 200)
  obtain ⟨same, hsame, hkeptOther, -⟩ :=
    filter_local hinside sampleFilter false (slopeRaster 200)
  obtain rfl := Except.ok.inj (hother.symm.trans hsame)
  exact ⟨filtered, filteredOther, hfiltered, hother, hkept _ hfar,
    hkeptOther _ hfar, hall⟩

/-- The turns of the loops over the inner edges, line by line. -/
def lineTurns (mb : Macroblock Header) (direction : Direction) :
    List (Component × Nat × Nat) :=
  Component.all.reverse.flatMap fun component =>
    (List.range (mb.block component).size).flatMap fun along =>
      (subblockEdges (mb.block component).size).map fun edge =>
        (component, direction.place edge along)

/-- The first edge is filtered from its far end on, and the inner edges line by
line. -/
theorem filter_reorder_inner :
    filterComponents innerMacroblock .vertical (fun _ => [0])
        sampleFilter.macroblockEdge (slopeRaster 0) =
      (edgeTurns innerMacroblock .vertical fun _ => [0]).reverse.foldlM
        (fun raster turn => (innerMacroblock.block turn.1).filterTurn .vertical
          sampleFilter.macroblockEdge turn.2 raster) (slopeRaster 0) ∧
    filterComponents innerMacroblock .vertical subblockEdges
        sampleFilter.subblockEdge (slopeRaster 0) =
      (lineTurns innerMacroblock .vertical).foldlM
        (fun raster turn => (innerMacroblock.block turn.1).filterTurn .vertical
          sampleFilter.subblockEdge turn.2 raster) (slopeRaster 0) := by
  have hinside : innerMacroblock.Within 48 48 := ⟨by decide, by decide⟩
  obtain ⟨hfirst, hinner⟩ :=
    filter_reorder hinside sampleFilter .vertical (slopeRaster 0)
  have hperm : (edgeTurns innerMacroblock .vertical subblockEdges).Perm
      (lineTurns innerMacroblock .vertical) := by
    decide +kernel
  have horder : (edgeTurns innerMacroblock .vertical subblockEdges).Pairwise
      fun turn other => Direction.SameLine .vertical turn other →
        [turn, other].Sublist (lineTurns innerMacroblock .vertical) := by
    decide +kernel
  refine ⟨hfirst (by decide) _ (List.reverse_perm _).symm,
    hinner _ hperm fun turn other hbefore => ?_⟩
  exact List.pairwise_iff_forall_sublist.mp horder hbefore

end NormalLoopFilter

/-- One of the macroblocks around a macroblock, or the macroblock itself. -/
def Macroblock.Adjacent (mb other : Macroblock Header) : Prop :=
  (mb.column ≤ other.column + 1 ∧ other.column ≤ mb.column + 1) ∧
    mb.row ≤ other.row + 1 ∧ other.row ≤ mb.row + 1

instance (mb other : Macroblock Header) : Decidable (mb.Adjacent other) :=
  inferInstanceAs (Decidable (_ ∧ _))

theorem Macroblock.notMem_around {other : Macroblock Header} {reach : Nat}
    (hreach : reach ≤ 4) (hfar : ¬ mb.Adjacent other) {sample : SamplePlace}
    (hsample : sample ∈ mb.around 4) : sample ∉ other.around reach := by
  obtain ⟨component, x, y⟩ := sample
  rintro ⟨⟨hleft, hright⟩, htop, hbottom⟩
  obtain ⟨⟨hleftOf, hrightOf⟩, htopOf, hbottomOf⟩ := hsample
  unfold Adjacent at hfar
  cases component with
  | Y | U | V =>
      simp only [Component.macroblockSize] at *
      omega

theorem Macroblock.around_apart {other : Macroblock Header}
    (hfar : ¬ mb.Adjacent other) :
    Footprint.Apart (mb.around 4) (mb.around 3) (other.around 4)
      (other.around 3) where
  first _ hsample :=
    have hwide := around_mono (by decide : 3 ≤ 4) hsample
    ⟨notMem_around (Nat.le_refl 4) hfar hwide,
      notMem_around (by decide) hfar hwide⟩
  second _ hsample hread :=
    notMem_around (by decide) hfar hread hsample

end Macroblocks

section Frames

variable {FrameHeader MacroblockHeader : Type}
  [LoopFiltered FrameHeader MacroblockHeader]
  {width height displayWidth displayHeight : Nat}

theorem Frame.filterStep_around {frame : Frame FrameHeader MacroblockHeader}
    {segmentation : Option (Segmentation width height)}
    {filterAdjustments : Option FilterAdjustments}
    (hfilterable : frame.Filterable segmentation filterAdjustments)
    {mb : Macroblock MacroblockHeader} (hmb : mb ∈ frame.macroblocks)
    (h : mb.Within displayWidth displayHeight) :
    Reconstructs displayWidth displayHeight (fun raster => do
        let parameters ← frame.parametersFor segmentation mb
        mb.filterIn FrameHeader filterAdjustments parameters raster) (.ok ())
      (mb.around 4) (mb.around 3) := by
  obtain ⟨parameters, hparameters, hnormal, -⟩ :=
    Frame.parametersFor_ok hfilterable hmb
  obtain ⟨inUse, hinUse, -⟩ := Macroblock.filterInUse_ok hnormal
    fun hsome => hfilterable.reference hsome mb hmb
  cases inUse with
  | none =>
      refine (Footprint.nothing.widen (Set.empty_subset _) fun _ hsample =>
        .inl (Macroblock.around_mono (by decide) hsample)).congr
          fun raster => ?_
      rw [hparameters, ok_bind, Macroblock.filterIn, hinUse, ok_bind]
      rfl
  | some made =>
      refine (NormalLoopFilter.filter_around h made.1 made.2).congr
        fun raster => ?_
      rw [hparameters, ok_bind, Macroblock.filterIn, hinUse, ok_bind]

/-- Macroblocks may be filtered in any order that keeps the order of those next
to each other. -/
theorem Frame.filterIn_reorder {frame : Frame FrameHeader MacroblockHeader}
    {segmentation : Option (Segmentation width height)}
    {filterAdjustments : Option FilterAdjustments}
    (hfilterable : frame.Filterable segmentation filterAdjustments)
    (hplaces : frame.macroblocks.map Macroblock.place = Grid.places
      (macroblockDimension displayWidth) (macroblockDimension displayHeight))
    {macroblocks : List (Macroblock MacroblockHeader)}
    (hperm : frame.macroblocks.Perm macroblocks)
    (horder : ∀ mb other, [mb, other].Sublist frame.macroblocks →
      mb.Adjacent other → [mb, other].Sublist macroblocks)
    (raster : VP8Raster displayWidth displayHeight) :
    frame.filterIn segmentation filterAdjustments raster =
      ({ frame with macroblocks } :
        Frame FrameHeader MacroblockHeader).filterIn segmentation
          filterAdjustments raster := by
  have hnodup : frame.macroblocks.Nodup := by
    refine List.Nodup.of_map Macroblock.place ?_
    rw [hplaces]
    exact Grid.places_nodup
  have hwithin : ∀ mb ∈ frame.macroblocks,
      mb.Within displayWidth displayHeight := by
    intro mb hmb
    have hplace := List.mem_map_of_mem (f := Macroblock.place) hmb
    rw [hplaces] at hplace
    exact Grid.mem_places.mp hplace
  unfold Frame.filterIn
  by_cases hlevel : LoopFiltered.loopFilterLevel frame.header = 0
  · rw [if_neg (not_not.mpr hlevel), if_neg (not_not.mpr hlevel)]
  · rw [if_pos hlevel, if_pos hlevel]
    refine Footprint.foldlM_reorder hperm hnodup
      (fun mb hmb => Frame.filterStep_around hfilterable hmb (hwithin mb hmb))
      (fun mb other hbefore => ?_) VP8Raster.ext_sample raster
    by_cases hadjacent : mb.Adjacent other
    · exact .inr (horder mb other hbefore hadjacent)
    · exact .inl (Macroblock.around_apart hadjacent)

def macroblockAt (place : Nat × Nat) : KeyFrameMacroblock :=
  { NormalLoopFilter.innerMacroblock with column := place.1, row := place.2 }

def twoRows : KeyFrame where
  showFrame := true
  displayWidth := 48
  displayHeight := 32
  header := {
    colorSpace := false, clampingType := false, updateSegmentation := none
    filterType := false, loopFilterLevel := 63, sharpnessLevel := 0
    modeLfAdjustments := none, log2NumberOfDctPartitions := 0
    quantIndices := {
      yAcQi := 0, yDc := none, y2Dc := none, y2Ac := none, uvDc := none
      uvAc := none }
    refreshEntropyProbs := true, tokenProbUpdate := fun _ _ _ _ => none
    probSkipFalse := none }
  macroblocks := (Grid.places 3 2).map macroblockAt
  y2Links := []

/-- The second row is begun before the first one is finished. -/
theorem Frame.filterIn_reorder_rows :
    let raster : VP8Raster 48 32 := .blank (by decide) (by decide)
    twoRows.filterIn (none : Option (Segmentation 48 32)) none raster =
      ({ twoRows with
        macroblocks := [(0, 0), (1, 0), (0, 1), (2, 0), (1, 1), (2, 1)].map
          macroblockAt } : KeyFrame).filterIn
            (none : Option (Segmentation 48 32)) none raster := by
  intro raster
  have hplaces : twoRows.macroblocks = [macroblockAt (0, 0),
      macroblockAt (1, 0)] ++ macroblockAt (2, 0) :: macroblockAt (0, 1) ::
        [macroblockAt (1, 1), macroblockAt (2, 1)] := rfl
  refine Frame.filterIn_reorder
    ⟨rfl, fun h => absurd h (by decide), fun h => absurd h (by decide)⟩
    (by decide) ?_ (fun mb other hbefore hadjacent => ?_) raster
  · rw [hplaces]
    exact .append_left _ (.swap _ _ _)
  · rw [hplaces] at hbefore
    rcases pair_sublist_swap hbefore with ⟨rfl, rfl⟩ | hswapped
    · exact absurd hadjacent (by decide)
    · exact hswapped

end Frames

end Salsify.Codec
