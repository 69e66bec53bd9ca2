import Salsify.Codec.FrameOutput
import Salsify.Codec.StateSerializer
import Salsify.Input.Yuv4Mpeg

namespace Salsify.Codec

open Salsify.Net (Chunk)
open Fallible (ok_bind bind_eq_ok)

/-! The rasters of a decoder, as they are serialized and as the frames of a
video. -/

namespace RasterPlane

variable {width height : Nat}

def grid (plane : RasterPlane width height) : TwoD UInt8 width height :=
  fun column row => plane.value column row

theorem toList_grid (plane : RasterPlane width height) :
    plane.grid.toList = plane.storage := by
  have hrange {α : Type} (count : Nat) (value : Nat → α) :
      (List.ofFn fun index : Fin count => value index) =
        (List.range count).map value := by
    rw [List.ofFn_eq_map, ← List.map_coe_finRange_eq_range, List.map_map]
    rfl
  have hrows : plane.grid.toList = (List.range height).flatMap fun row =>
      (List.range width).map fun column => plane.value column row := by
    rw [List.flatMap, ← hrange]
    exact congrArg List.flatten (congrArg List.ofFn (funext fun row =>
      hrange width fun column => plane.value column row))
  refine List.ext_getElem? fun index => ?_
  by_cases hindex : index < width * height
  · have hcolumn := Nat.mod_lt index plane.width_pos
    have hrow : index / width < height := Nat.div_lt_of_lt_mul hindex
    have hsplit : index = index / width * width + index % width := by
      rw [Nat.mul_comm]
      exact (Nat.div_add_mod index width).symm
    rw [hsplit, plane.getElem?_storage hcolumn hrow, hrows]
    exact Grid.getElem?_flatMap_range hcolumn hrow
  · have hgrid := plane.grid.toList_length
    have hstorage := plane.length_eq
    rw [List.getElem?_eq_none, List.getElem?_eq_none]
    · omega
    · rw [hgrid, Nat.mul_comm]
      omega

theorem grid_inj {plane other : RasterPlane width height} :
    plane.grid = other.grid ↔ plane = other := by
  refine ⟨fun h => ext_value fun column row hcolumn hrow => ?_, fun h => by
    rw [h]⟩
  exact congrFun (congrFun h ⟨column, hcolumn⟩) ⟨row, hrow⟩

end RasterPlane

namespace VP8Raster

variable {width height : Nat}

def serialized (raster : VP8Raster width height) : Raster width height where
  Y := (raster.plane .Y).grid
  U := (raster.plane .U).grid
  V := (raster.plane .V).grid

theorem serialized_inj {raster other : VP8Raster width height} :
    raster.serialized = other.serialized ↔ raster = other := by
  refine ⟨fun h => ?_, fun h => by rw [h]⟩
  obtain ⟨hY, hU, hV⟩ := Raster.mk.inj h
  cases raster
  cases other
  congr 1
  funext component
  cases component with
  | Y => exact RasterPlane.grid_inj.mp hY
  | U => exact RasterPlane.grid_inj.mp hU
  | V => exact RasterPlane.grid_inj.mp hV

theorem display_pos (raster : VP8Raster width height) :
    0 < width ∧ 0 < height := by
  have hwidth := (raster.plane .Y).width_pos
  have hheight := (raster.plane .Y).height_pos
  simp only [Component.extent, macroblockDimension] at hwidth hheight
  omega

theorem serialized_bytes (raster : VP8Raster width height)
    (tag : EncoderSerDesTag) :
    raster.serialized.bytes tag = [tag.code] ++
      (LittleEndian.toBytes 4 raster.serialized.serializedLength ++
        Component.all.flatMap fun component =>
          (raster.plane component).storage) := by
  rw [Raster.bytes]
  simp only [Component.all, List.flatMap_cons, List.flatMap_nil,
    ← RasterPlane.toList_grid, List.append_nil]
  rfl

theorem rasterDimension_eq (raster : VP8Raster width height) :
    Input.rasterDimension width = 16 * macroblockDimension width ∧
      Input.rasterDimension height = 16 * macroblockDimension height :=
  ⟨Nat.mod_eq_of_lt (raster.plane .Y).width_lt,
    Nat.mod_eq_of_lt (raster.plane .Y).height_lt⟩

def pictured (raster : VP8Raster width height) : Input.Raster width height where
  Y column row := (raster.plane .Y).value column row
  U column row := (raster.plane .U).value column row
  V column row := (raster.plane .V).value column row
  displayWidth_le := by
    rw [raster.rasterDimension_eq.1, macroblockDimension]
    omega
  displayHeight_le := by
    rw [raster.rasterDimension_eq.2, macroblockDimension]
    omega

theorem pictured_readBack (frames : List (VP8Raster width height))
    (hwidth : width % 2 = 0) (hheight : height % 2 = 0) :
    Input.Yuv4Mpeg.ReadBack (frames.map pictured) := by
  cases frames with
  | nil =>
      intro stale hlength rest
      obtain rfl := List.eq_nil_of_length_eq_zero hlength
      exact ⟨[], [], rfl, rfl, .nil⟩
  | cons frame frames =>
      obtain ⟨hpos, hposHeight⟩ := frame.display_pos
      exact Input.Yuv4Mpeg.readBack_of_even _ hpos hposHeight hwidth hheight

end VP8Raster

namespace SampleDecoder

variable {width height : Nat}

def stored (decoder : SampleDecoder width height) : Decoder where
  width := width
  height := height
  state := decoder.state
  displayWidth := width
  displayHeight := height
  references := {
    last := decoder.references.last.serialized
    golden := decoder.references.golden.serialized
    alternative := decoder.references.alternative.serialized }

structure Uniform (decoder : SampleDecoder width height) : Prop where
  golden : decoder.references.golden = decoder.references.last
  alternative : decoder.references.alternative = decoder.references.last

theorem uniform_of_key {decoder next : SampleDecoder width height}
    {recycled : VP8Raster width height} {received : Chunk}
    {chunk : UncompressedChunk} {output : Bool × VP8Raster width height}
    (hchunk : UncompressedChunk.parse received width height
      decoder.errorConcealment = .ok chunk)
    (hkey : chunk.keyFrame = true)
    (h : decoder.getFrameOutput recycled received = .ok (output, next)) :
    next.Uniform := by
  rw [getFrameOutput, hchunk, ok_bind, if_pos hkey] at h
  obtain ⟨⟨frame, state⟩, -, h⟩ := bind_eq_ok h
  obtain ⟨decoded, -, h⟩ := bind_eq_ok h
  obtain ⟨raster, -, h⟩ := bind_eq_ok h
  cases h
  exact ⟨rfl, rfl⟩

theorem deserialize_stored (pool : RasterPool)
    {decoder : SampleDecoder width height} (huniform : decoder.Uniform)
    (hwidth : width ≤ 16383) (hheight : height ≤ 16383) :
    Decoder.deserialize pool (decoder.stored.serialize []).2 =
      (pool width height).map fun _ => (decoder.stored, []) := by
  obtain ⟨hpos, hposHeight⟩ := decoder.references.last.display_pos
  exact Decoder.deserialize_eq pool
    ⟨⟨hwidth, hheight, fun _ => ⟨hpos, hposHeight⟩⟩, ⟨hpos, hwidth⟩,
      ⟨hposHeight, hheight⟩⟩ (congrArg VP8Raster.serialized huniform.golden)
    (congrArg VP8Raster.serialized huniform.alternative)

theorem eq_of_serialize {decoder other : SampleDecoder width height}
    (huniform : decoder.Uniform) (hother : other.Uniform)
    (hwidth : width ≤ 16383) (hheight : height ≤ 16383)
    (hbytes : (decoder.stored.serialize []).2 =
      (other.stored.serialize []).2) :
    decoder.state = other.state ∧ decoder.references = other.references := by
  let pool : RasterPool := fun width height =>
    .ok (Decoder.blackRaster width height)
  have hread := deserialize_stored pool huniform hwidth hheight
  rw [hbytes, deserialize_stored pool hother hwidth hheight] at hread
  have hstored := congrArg Prod.fst (Except.ok.inj hread)
  simp only [stored, Decoder.mk.injEq, heq_eq_eq, true_and,
    References.mk.injEq, VP8Raster.serialized_inj] at hstored
  obtain ⟨hstate, hlast, hgolden, halternative⟩ := hstored
  refine ⟨hstate.symm, ?_⟩
  change FrameReferences.mk _ _ _ = FrameReferences.mk other.references.last
    other.references.golden other.references.alternative
  rw [hlast, hgolden, halternative]

end SampleDecoder

end Salsify.Codec
