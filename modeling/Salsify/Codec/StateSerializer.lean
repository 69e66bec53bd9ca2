import Salsify.Codec.StateHash
import Salsify.Lib.ByteStream

namespace Salsify.Codec

open Salsify.Net (Failure)
open LittleEndian
open ByteStream

/-! A decoder as bytes: `decoder/enc_state_serializer.hh` and the `serialize`
and `deserialize` functions of the decoder's components. -/

inductive EncoderSerDesTag
  | probTable
  | filtAdj
  | segmAbs
  | segmRel
  | decoderState
  | optEmpty
  | optFull
  | references
  | refLast
  | refGold
  | refAlt
  | decoder
  deriving DecidableEq

def EncoderSerDesTag.code : EncoderSerDesTag → UInt8
  | probTable => 0
  | filtAdj => 1
  | segmAbs => 2
  | segmRel => 3
  | decoderState => 4
  | optEmpty => 5
  | optFull => 6
  | references => 7
  | refLast => 8
  | refGold => 9
  | refAlt => 10
  | decoder => 11

def uint32 (value : Nat) : Nat := value % 2 ^ 32

theorem uint32_of_lt {value : Nat} (h : value < 2 ^ 32) :
    uint32 value = value :=
  Nat.mod_eq_of_lt h

namespace EncoderStateSerializer

def put (bytes : List UInt8) : Writer Nat := Writer.put bytes

def putTag (tag : EncoderSerDesTag) : Writer Nat := put [tag.code]

def put16 (value : Nat) : Writer Nat := put (toBytes 2 value)

def put32 (value : Nat) : Writer Nat := put (toBytes 4 value)

def putSigned (values : List Int8) : Writer Nat :=
  put (values.map Int8.toUInt8)

end EncoderStateSerializer

namespace EncoderStateDeserializer

abbrev Deserializer := Reader Failure

def pastEnd : Failure := .outOfRange "attempted to read past end of chunk"

def get (width : Nat) : Deserializer Nat := do
  return ofBytes (← Reader.take width pastEnd)

def get8 : Deserializer UInt8 := do
  return UInt8.ofNat (← get 1)

def getSigned : Deserializer Int8 := do
  return (← get8).toInt8

def getTag : Deserializer UInt8 := get8

def peekTag : Deserializer UInt8 := getTag.peek

def assert (holds : Bool) (condition : String) : Deserializer Unit :=
  Reader.ensure holds (.assertion condition)

theorem reads_get (width value : Nat) :
    (get width).Reads (toBytes width value) (value % 256 ^ width) := by
  have htake := Reader.reads_take (toBytes width value) pastEnd
  rw [toBytes_length] at htake
  rw [← ofBytes_toBytes width value]
  exact htake.map ofBytes

theorem reads_get_of_lt {w v : Nat} (h : v < 256 ^ w) :
    (get w).Reads (toBytes w v) v := by
  have hget := reads_get w v
  rwa [Nat.mod_eq_of_lt h] at hget

theorem reads_get8 (value : UInt8) : get8.Reads [value] value := by
  have hget := (reads_get_of_lt (w := 1) value.toNat_lt).map UInt8.ofNat
  have hbytes : toBytes 1 value.toNat = [value] := by
    simp [toBytes]
  rw [hbytes, UInt8.ofNat_toNat] at hget
  exact hget

theorem reads_getSigned (value : Int8) :
    getSigned.Reads [value.toUInt8] value :=
  (reads_get8 value.toUInt8).map UInt8.toInt8

theorem reads_getTag (tag : EncoderSerDesTag) :
    getTag.Reads [tag.code] tag.code :=
  reads_get8 tag.code

theorem reads_assert {holds : Bool} (h : holds = true) (condition : String) :
    (assert holds condition).Reads [] () :=
  Reader.reads_ensure h _

theorem reads_bytes {length : Nat} (values : Fin length → UInt8) :
    (Reader.array length fun _ => get8).Reads (List.ofFn values) values := by
  have harray := Reader.reads_array (ε := Failure)
    fun index => reads_get8 (values index)
  have hbytes : (List.ofFn fun index => [values index]).flatten =
      List.ofFn values := by
    rw [List.ofFn_eq_map, List.ofFn_eq_map, ← List.flatMap_def,
      List.map_eq_flatMap]
  rwa [hbytes] at harray

theorem reads_signed {length : Nat} (values : Fin length → Int8) :
    (Reader.array length fun _ => getSigned).Reads
      ((List.ofFn values).map Int8.toUInt8) values := by
  have harray := Reader.reads_array (ε := Failure)
    fun index => reads_getSigned (values index)
  have hbytes : (List.ofFn fun index => [(values index).toUInt8]).flatten =
      (List.ofFn values).map Int8.toUInt8 := by
    rw [List.ofFn_eq_map, List.ofFn_eq_map, ← List.flatMap_def, List.map_map,
      List.map_eq_flatMap]
    rfl
  rwa [hbytes] at harray

theorem reads_grid8 {width height : Nat} (cells : Grid UInt8 width height) :
    (Reader.grid width height get8).Reads cells.toList cells :=
  (Reader.reads_array fun row => reads_bytes fun column =>
    cells column row).map _

end EncoderStateDeserializer

open EncoderStateSerializer EncoderStateDeserializer

namespace ProbabilityTables

def motionVectorList (tables : ProbabilityTables) : List UInt8 :=
  (List.ofFn fun i => List.ofFn (tables.motionVectorProbs i)).flatten

def serializedLength : Nat := uint32 (4 * 8 * 3 * 11 + 4 + 3 + 2 * 19)

def serialize (tables : ProbabilityTables) : Writer Nat := do
  let len := serializedLength
  let _ ← putTag .probTable
  let _ ← put32 len
  let _ ← put tables.coeffList
  let _ ← put (List.ofFn tables.yModeProbs)
  let _ ← put (List.ofFn tables.uvModeProbs)
  let _ ← put tables.motionVectorList
  return uint32 (len + 5)

def deserialize : Deserializer ProbabilityTables := do
  let dataType ← getTag
  assert (dataType = EncoderSerDesTag.probTable.code)
    "data_type == EncoderSerDesTag::PROB_TABLE"
  let getLen ← get 4
  assert (serializedLength = getLen) "expect_len == get_len"
  let coeffProbs ← Reader.array 4 fun _ => Reader.array 8 fun _ =>
    Reader.array 3 fun _ => Reader.array 11 fun _ => get8
  let yModeProbs ← Reader.array 4 fun _ => get8
  let uvModeProbs ← Reader.array 3 fun _ => get8
  let motionVectorProbs ← Reader.array 2 fun _ => Reader.array 19 fun _ => get8
  return {
    coeffProbs := coeffProbs
    yModeProbs := yModeProbs
    uvModeProbs := uvModeProbs
    motionVectorProbs := motionVectorProbs }

def bytes (tables : ProbabilityTables) : List UInt8 :=
  [EncoderSerDesTag.probTable.code] ++ (toBytes 4 serializedLength ++
    (tables.coeffList ++ (List.ofFn tables.yModeProbs ++
      (List.ofFn tables.uvModeProbs ++ tables.motionVectorList))))

theorem bytes_length (tables : ProbabilityTables) :
    tables.bytes.length = 1106 := by
  have hmv : tables.motionVectorList.length = 2 * 19 :=
    Grid.length_flatten_ofFn fun _ => List.length_ofFn
  simp only [bytes, List.length_append, toBytes_length, coeffList_length, hmv,
    List.length_ofFn, List.length_cons, List.length_nil]

theorem serialize_appends (tables : ProbabilityTables) :
    tables.serialize.Appends tables.bytes tables.bytes.length := by
  rw [bytes_length]
  apply Writer.Appends.put
  apply Writer.Appends.put
  apply Writer.Appends.put
  apply Writer.Appends.put
  apply Writer.Appends.put
  exact Writer.appends_put _ _

theorem deserialize_reads (tables : ProbabilityTables) :
    deserialize.Reads tables.bytes tables := by
  have hcoeff : (Reader.array 4 fun _ => Reader.array 8 fun _ =>
      Reader.array 3 fun _ => Reader.array 11 fun _ => get8).Reads
      tables.coeffList tables.coeffProbs :=
    Reader.reads_array fun i => Reader.reads_array fun j =>
      Reader.reads_array fun k => reads_bytes _
  have hmotionVector : (Reader.array 2 fun _ => Reader.array 19 fun _ =>
      get8).Reads tables.motionVectorList tables.motionVectorProbs :=
    Reader.reads_array fun i => reads_bytes _
  apply (reads_getTag _).bind
  apply (reads_assert (by decide) _).after
  apply (reads_get_of_lt (by decide)).bind
  apply (reads_assert (by decide) _).after
  apply hcoeff.bind
  apply (reads_bytes tables.yModeProbs).bind
  apply (reads_bytes tables.uvModeProbs).bind
  exact hmotionVector.map _

end ProbabilityTables

namespace FilterAdjustments

def serializedLength : Nat := uint32 (4 + 4)

def serialize (adjustments : FilterAdjustments) : Writer Nat := do
  let len := serializedLength
  let _ ← putTag .filtAdj
  let _ ← put32 len
  let _ ← putSigned (List.ofFn adjustments.loopfilterRefAdjustments)
  let _ ← putSigned (List.ofFn adjustments.loopfilterModeAdjustments)
  return uint32 (len + 5)

def deserialize : Deserializer FilterAdjustments := do
  let dataType ← getTag
  assert (dataType = EncoderSerDesTag.filtAdj.code)
    "data_type == EncoderSerDesTag::FILT_ADJ"
  let getLen ← get 4
  assert (serializedLength = getLen) "expect_len == get_len"
  let refAdjustments ← Reader.array 4 fun _ => getSigned
  let modeAdjustments ← Reader.array 4 fun _ => getSigned
  return {
    loopfilterRefAdjustments := refAdjustments
    loopfilterModeAdjustments := modeAdjustments }

def bytes (adjustments : FilterAdjustments) : List UInt8 :=
  [EncoderSerDesTag.filtAdj.code] ++ (toBytes 4 serializedLength ++
    ((List.ofFn adjustments.loopfilterRefAdjustments).map Int8.toUInt8 ++
      (List.ofFn adjustments.loopfilterModeAdjustments).map Int8.toUInt8))

theorem bytes_length (adjustments : FilterAdjustments) :
    adjustments.bytes.length = 13 := by
  simp only [bytes, List.length_append, toBytes_length, List.length_map,
    List.length_ofFn, List.length_cons, List.length_nil]

theorem serialize_appends (adjustments : FilterAdjustments) :
    adjustments.serialize.Appends adjustments.bytes adjustments.bytes.length := by
  rw [bytes_length]
  apply Writer.Appends.put
  apply Writer.Appends.put
  apply Writer.Appends.put
  exact Writer.appends_put _ _

theorem deserialize_reads (adjustments : FilterAdjustments) :
    deserialize.Reads adjustments.bytes adjustments := by
  apply (reads_getTag _).bind
  apply (reads_assert (by decide) _).after
  apply (reads_get_of_lt (by decide)).bind
  apply (reads_assert (by decide) _).after
  apply (reads_signed adjustments.loopfilterRefAdjustments).bind
  exact (reads_signed adjustments.loopfilterModeAdjustments).map _

end FilterAdjustments

/-- The assertions of the constructor of `TwoDStorage`. -/
def checkStorage (width height : Nat) : Deserializer Unit := do
  assert (0 < width) "width > 0"
  assert (0 < height) "height > 0"

theorem reads_checkStorage {width height : Nat} (hwidth : 0 < width)
    (hheight : 0 < height) : (checkStorage width height).Reads [] () :=
  (reads_assert (decide_eq_true hwidth) _).after
    (reads_assert (decide_eq_true hheight) _)

namespace Segmentation

variable {width height : Nat}

def serializedLength (width height : Nat) : Nat :=
  uint32 (4 + 4 + 4 + width * height)

def tag (segmentation : Segmentation width height) : EncoderSerDesTag :=
  if segmentation.absoluteSegmentAdjustments then .segmAbs else .segmRel

def serialize (segmentation : Segmentation width height) : Writer Nat := do
  let len := serializedLength width height
  let _ ← putTag segmentation.tag
  let _ ← put32 len
  let _ ← put16 width
  let _ ← put16 height
  let _ ← putSigned (List.ofFn segmentation.segmentQuantizerAdjustments)
  let _ ← putSigned (List.ofFn segmentation.segmentFilterAdjustments)
  let _ ← put segmentation.map.toList
  return uint32 (len + 5)

/-- For a state of the given dimensions: a map of other dimensions, which
`serialize` writes for no state, is refused. -/
def deserialize (width height : Nat) :
    Deserializer (Segmentation width height) := do
  let dataType ← getTag
  assert (dataType = EncoderSerDesTag.segmAbs.code ||
    dataType = EncoderSerDesTag.segmRel.code)
    "data_type == SEGM_ABS || data_type == SEGM_REL"
  let abs := dataType = EncoderSerDesTag.segmAbs.code
  let getLen ← get 4
  let mapWidth ← get 2
  let mapHeight ← get 2
  assert (serializedLength mapWidth mapHeight = getLen)
    "expect_len == get_len"
  checkStorage mapWidth mapHeight
  Reader.ensure (mapWidth = width && mapHeight = height) .logicError
  let quantizerAdjustments ← Reader.array 4 fun _ => getSigned
  let filterAdjustments ← Reader.array 4 fun _ => getSigned
  let map ← Reader.grid width height get8
  return {
    absoluteSegmentAdjustments := abs
    segmentQuantizerAdjustments := quantizerAdjustments
    segmentFilterAdjustments := filterAdjustments
    map := map }

def bytes (segmentation : Segmentation width height) : List UInt8 :=
  [segmentation.tag.code] ++ (toBytes 4 (serializedLength width height) ++
    (toBytes 2 width ++ (toBytes 2 height ++
      ((List.ofFn segmentation.segmentQuantizerAdjustments).map Int8.toUInt8 ++
        ((List.ofFn segmentation.segmentFilterAdjustments).map Int8.toUInt8 ++
          segmentation.map.toList)))))

theorem bytes_length (segmentation : Segmentation width height) :
    segmentation.bytes.length = 17 + width * height := by
  simp only [bytes, List.length_append, toBytes_length, List.length_map,
    List.length_ofFn, List.length_cons, List.length_nil, Grid.toList_length,
    Nat.mul_comm height width]
  omega

theorem area_le {width height : Nat} (hwidth : width ≤ 16383)
    (hheight : height ≤ 16383) : width * height ≤ 16383 * 16383 :=
  Nat.mul_le_mul hwidth hheight

theorem serialize_appends (hwidth : width ≤ 16383) (hheight : height ≤ 16383)
    (segmentation : Segmentation width height) :
    segmentation.serialize.Appends segmentation.bytes
      segmentation.bytes.length := by
  have harea := area_le hwidth hheight
  have hlen : serializedLength width height = 4 + 4 + 4 + width * height :=
    uint32_of_lt (by omega)
  have hsize : segmentation.bytes.length =
      uint32 (serializedLength width height + 5) := by
    rw [bytes_length, hlen, uint32_of_lt (by omega)]
    omega
  rw [hsize]
  apply Writer.Appends.put
  apply Writer.Appends.put
  apply Writer.Appends.put
  apply Writer.Appends.put
  apply Writer.Appends.put
  apply Writer.Appends.put
  exact Writer.appends_put _ _

theorem deserialize_reads (hwidth : 0 < width ∧ width ≤ 16383)
    (hheight : 0 < height ∧ height ≤ 16383)
    (segmentation : Segmentation width height) :
    (deserialize width height).Reads segmentation.bytes segmentation := by
  have hlen : serializedLength width height < 256 ^ 4 :=
    Nat.mod_lt _ (by decide)
  have htag : (decide (segmentation.tag.code = EncoderSerDesTag.segmAbs.code) ||
      decide (segmentation.tag.code = EncoderSerDesTag.segmRel.code)) = true ∧
      decide (segmentation.tag.code = EncoderSerDesTag.segmAbs.code) =
        segmentation.absoluteSegmentAdjustments := by
    unfold tag
    cases segmentation.absoluteSegmentAdjustments <;> decide
  apply (reads_getTag _).bind
  apply (reads_assert htag.1 _).after
  apply (reads_get_of_lt hlen).bind
  apply (reads_get_of_lt (by omega)).bind
  apply (reads_get_of_lt (by omega)).bind
  apply (reads_assert (decide_eq_true rfl) _).after
  apply (reads_checkStorage hwidth.1 hheight.1).after
  apply (Reader.reads_ensure (by simp) _).after
  apply (reads_signed segmentation.segmentQuantizerAdjustments).bind
  apply (reads_signed segmentation.segmentFilterAdjustments).bind
  rw [htag.2]
  exact (reads_grid8 segmentation.map).map _

end Segmentation

def serializeOptional {α : Type} (serialize : α → Writer Nat) :
    Option α → Writer Nat
  | some value => do
      let _ ← putTag .optFull
      serialize value
  | none => do
      let _ ← putTag .optEmpty
      return 0

def deserializeOptional {α : Type} (deserialize : Deserializer α) :
    Deserializer (Option α) := do
  let opt ← getTag
  if opt = EncoderSerDesTag.optFull.code then
    return some (← deserialize)
  else
    return none

def optionalBytes {α : Type} (bytes : α → List UInt8) : Option α → List UInt8
  | some value => EncoderSerDesTag.optFull.code :: bytes value
  | none => [EncoderSerDesTag.optEmpty.code]

theorem serializeOptional_appends {α : Type} {serialize : α → Writer Nat}
    {bytes : α → List UInt8} (value : Option α)
    (h : ∀ found ∈ value, (serialize found).Appends (bytes found)
      (bytes found).length) :
    (serializeOptional serialize value).Appends (optionalBytes bytes value)
      ((optionalBytes bytes value).length - 1) := by
  cases value with
  | none => exact (Writer.appends_pure 0).put _
  | some found => exact (h found rfl).put _

theorem deserializeOptional_reads {α : Type} {deserialize : Deserializer α}
    {bytes : α → List UInt8} (value : Option α)
    (h : ∀ found ∈ value, deserialize.Reads (bytes found) found) :
    (deserializeOptional deserialize).Reads (optionalBytes bytes value)
      value := by
  cases value with
  | none => exact (reads_getTag .optEmpty).bind (Reader.reads_pure none)
  | some found =>
      exact (reads_getTag .optFull).bind ((h found rfl).map some)

theorem optionalBytes_length_pos {α : Type} (bytes : α → List UInt8)
    (value : Option α) : 0 < (optionalBytes bytes value).length := by
  cases value <;> exact Nat.succ_pos _

namespace DecoderState

variable {width height : Nat}

/-- What follows the length field, with the length so far. -/
def serializeBody (state : DecoderState width height) : Writer Nat := do
  let _ ← put16 width
  let _ ← put16 height
  let tablesSize ← state.probabilityTables.serialize
  let segmentationSize ←
    serializeOptional Segmentation.serialize state.segmentation
  let adjustmentsSize ←
    serializeOptional FilterAdjustments.serialize state.filterAdjustments
  return uint32 (4 + tablesSize + segmentationSize + 1 + adjustmentsSize + 1)

def serialize (state : DecoderState width height) : Writer Nat := do
  let _ ← putTag .decoderState
  let placeholder ← put32 4
  let len ← state.serializeBody
  let _ ← Writer.putAt (toBytes 4 len) placeholder
  return uint32 (len + 5)

def deserializeParts (width height : Nat) :
    Deserializer (DecoderState width height) := do
  let probabilityTables ← ProbabilityTables.deserialize
  let segmentation ← deserializeOptional (Segmentation.deserialize width height)
  let filterAdjustments ← deserializeOptional FilterAdjustments.deserialize
  return {
    probabilityTables := probabilityTables
    segmentation := segmentation
    filterAdjustments := filterAdjustments }

def deserialize : Deserializer (Σ size : Nat × Nat,
    DecoderState size.1 size.2) := do
  let dataType ← getTag
  assert (dataType = EncoderSerDesTag.decoderState.code)
    "data_type == EncoderSerDesTag::DECODER_STATE"
  let getLen ← get 4
  let left ← Reader.remaining
  assert (getLen ≤ left) "get_len <= idata.remaining()"
  let width ← get 2
  let height ← get 2
  let state ← deserializeParts width height
  return ⟨(width, height), state⟩

def partBytes (state : DecoderState width height) : List UInt8 :=
  state.probabilityTables.bytes ++
    (optionalBytes Segmentation.bytes state.segmentation ++
      optionalBytes FilterAdjustments.bytes state.filterAdjustments)

def bodyBytes (state : DecoderState width height) : List UInt8 :=
  toBytes 2 width ++ (toBytes 2 height ++ state.partBytes)

def bytes (state : DecoderState width height) : List UInt8 :=
  [EncoderSerDesTag.decoderState.code] ++
    toBytes 4 state.bodyBytes.length ++ state.bodyBytes

/-- The dimensions fit the header of a key frame, and are those of a map where
there is one. -/
structure Storable (state : DecoderState width height) : Prop where
  width_le : width ≤ 16383
  height_le : height ≤ 16383
  map_pos : state.segmentation.isSome → 0 < width ∧ 0 < height

theorem bodyBytes_length_lt {state : DecoderState width height}
    (h : state.Storable) : state.bodyBytes.length < 2 ^ 29 := by
  have harea := Segmentation.area_le h.width_le h.height_le
  have hsegmentation :
      (optionalBytes Segmentation.bytes state.segmentation).length ≤
        18 + width * height := by
    cases state.segmentation with
    | none => exact Nat.le_trans (by decide : 1 ≤ 18) (Nat.le_add_right _ _)
    | some segmentation =>
        rw [optionalBytes, List.length_cons, Segmentation.bytes_length]
        omega
  have hadjustments :
      (optionalBytes FilterAdjustments.bytes state.filterAdjustments).length ≤
        14 := by
    cases state.filterAdjustments with
    | none => exact (by decide : 1 ≤ 14)
    | some adjustments =>
        rw [optionalBytes, List.length_cons, FilterAdjustments.bytes_length]
  simp only [bodyBytes, partBytes, List.length_append, toBytes_length,
    ProbabilityTables.bytes_length]
  omega

theorem serializeBody_appends {state : DecoderState width height}
    (h : state.Storable) :
    state.serializeBody.Appends state.bodyBytes state.bodyBytes.length := by
  have hlt := bodyBytes_length_lt h
  have hsegmentation := serializeOptional_appends state.segmentation
    fun found _ => Segmentation.serialize_appends h.width_le h.height_le found
  have hadjustments := serializeOptional_appends state.filterAdjustments
    fun found _ => FilterAdjustments.serialize_appends found
  have hsegmentationPos :=
    optionalBytes_length_pos Segmentation.bytes state.segmentation
  have hadjustmentsPos :=
    optionalBytes_length_pos FilterAdjustments.bytes state.filterAdjustments
  have hsize : state.bodyBytes.length =
      uint32 (4 + state.probabilityTables.bytes.length +
        ((optionalBytes Segmentation.bytes state.segmentation).length - 1) + 1 +
        ((optionalBytes FilterAdjustments.bytes
          state.filterAdjustments).length - 1) + 1) := by
    simp only [bodyBytes, partBytes, List.length_append, toBytes_length] at hlt ⊢
    rw [uint32_of_lt (by omega)]
    omega
  rw [hsize]
  apply Writer.Appends.put
  apply Writer.Appends.put
  apply (ProbabilityTables.serialize_appends _).bind
  apply hsegmentation.bind
  exact hadjustments.map _

theorem serialize_appends {state : DecoderState width height}
    (h : state.Storable) :
    state.serialize.Appends state.bytes state.bytes.length := by
  have hlt := bodyBytes_length_lt h
  have hsize : state.bytes.length = uint32 (state.bodyBytes.length + 5) := by
    rw [uint32_of_lt (by omega)]
    simp only [bytes, List.length_append, toBytes_length, List.length_cons,
      List.length_nil]
    omega
  rw [hsize]
  exact Writer.appends_section (toBytes 4) (fun len => uint32 (len + 5))
    (serializeBody_appends h)
    (by rw [toBytes_length, toBytes_length]) rfl

theorem deserializeParts_reads {state : DecoderState width height}
    (h : state.Storable) :
    (deserializeParts width height).Reads state.partBytes state := by
  have hsegmentation := deserializeOptional_reads state.segmentation
    fun found hfound => by
      have hpos := h.map_pos (Option.isSome_of_mem hfound)
      exact Segmentation.deserialize_reads ⟨hpos.1, h.width_le⟩
        ⟨hpos.2, h.height_le⟩ found
  have hadjustments := deserializeOptional_reads state.filterAdjustments
    fun found _ => FilterAdjustments.deserialize_reads found
  apply (ProbabilityTables.deserialize_reads _).bind
  apply hsegmentation.bind
  exact hadjustments.map _

theorem deserialize_reads {state : DecoderState width height}
    (h : state.Storable) :
    deserialize.Reads state.bytes ⟨(width, height), state⟩ := by
  have hlt := bodyBytes_length_lt h
  have hwidth := h.width_le
  have hheight := h.height_le
  rw [bytes, List.append_assoc]
  apply (reads_getTag _).bind
  apply (reads_assert (by decide) _).after
  apply (reads_get_of_lt (by omega)).bind
  apply Reader.Reads.ensureRemaining _ (Nat.le_refl _)
  apply (reads_get_of_lt (by omega)).bind
  apply (reads_get_of_lt (by omega)).bind
  exact (deserializeParts_reads h).map _

end DecoderState

/-- `VP8Raster`: the planes cover whole macroblocks. -/
structure Raster (displayWidth displayHeight : Nat) where
  Y : TwoD UInt8 (16 * macroblockDimension displayWidth)
    (16 * macroblockDimension displayHeight)
  U : TwoD UInt8 (16 * macroblockDimension displayWidth / 2)
    (16 * macroblockDimension displayHeight / 2)
  V : TwoD UInt8 (16 * macroblockDimension displayWidth / 2)
    (16 * macroblockDimension displayHeight / 2)

/-- What the raster pool hands out: a raster as its last user left it, if those
that wait in the pool are of this size. -/
abbrev RasterPool := ∀ displayWidth displayHeight,
  Except Failure (Raster displayWidth displayHeight)

namespace Raster

variable {displayWidth displayHeight : Nat}

def width (_ : Raster displayWidth displayHeight) : Nat :=
  16 * macroblockDimension displayWidth

def height (_ : Raster displayWidth displayHeight) : Nat :=
  16 * macroblockDimension displayHeight

def serializedLength (raster : Raster displayWidth displayHeight) : Nat :=
  uint32 (raster.width * raster.height +
    2 * (raster.width / 2) * (raster.height / 2))

/-- `put( ref, tag )` -/
def serialize (raster : Raster displayWidth displayHeight)
    (tag : EncoderSerDesTag) : Writer Nat := do
  let len := raster.serializedLength
  let _ ← putTag tag
  let _ ← put32 len
  let _ ← put raster.Y.toList
  let _ ← put raster.U.toList
  let _ ← put raster.V.toList
  return uint32 (len + 5)

def bytes (raster : Raster displayWidth displayHeight)
    (tag : EncoderSerDesTag) : List UInt8 :=
  [tag.code] ++ (toBytes 4 raster.serializedLength ++
    (raster.Y.toList ++ (raster.U.toList ++ raster.V.toList)))

theorem bytes_length (raster : Raster displayWidth displayHeight)
    (tag : EncoderSerDesTag) :
    (raster.bytes tag).length = raster.width * raster.height +
      2 * (raster.width / 2) * (raster.height / 2) + 5 := by
  simp only [bytes, List.length_append, toBytes_length, List.length_cons,
    List.length_nil, Grid.toList_length, width, height,
    Nat.mul_comm (16 * macroblockDimension displayHeight),
    Nat.mul_comm (16 * macroblockDimension displayHeight / 2), Nat.mul_assoc 2]
  omega

theorem serializedLength_eq (hwidth : displayWidth ≤ 16383)
    (hheight : displayHeight ≤ 16383)
    (raster : Raster displayWidth displayHeight) :
    raster.serializedLength = raster.width * raster.height +
      2 * (raster.width / 2) * (raster.height / 2) ∧
      raster.serializedLength < 2 ^ 29 := by
  have hwide : raster.width ≤ 16384 := by
    unfold width macroblockDimension
    omega
  have hhigh : raster.height ≤ 16384 := by
    unfold height macroblockDimension
    omega
  have hluma := Nat.mul_le_mul hwide hhigh
  have hchroma : raster.width / 2 * (raster.height / 2) ≤ 8192 * 8192 :=
    Nat.mul_le_mul (by omega) (by omega)
  rw [serializedLength, Nat.mul_assoc, uint32_of_lt (by omega)]
  exact ⟨rfl, by omega⟩

theorem serialize_appends (hwidth : displayWidth ≤ 16383)
    (hheight : displayHeight ≤ 16383)
    (raster : Raster displayWidth displayHeight) (tag : EncoderSerDesTag) :
    (raster.serialize tag).Appends (raster.bytes tag)
      (raster.bytes tag).length := by
  obtain ⟨hlen, hlt⟩ := raster.serializedLength_eq hwidth hheight
  have hsize : (raster.bytes tag).length =
      uint32 (raster.serializedLength + 5) := by
    rw [bytes_length, uint32_of_lt (by omega), hlen]
  rw [hsize]
  apply Writer.Appends.put
  apply Writer.Appends.put
  apply Writer.Appends.put
  apply Writer.Appends.put
  exact Writer.appends_put _ _

end Raster

/-- The rectangle of whole macroblocks is counted in 16 bits. -/
def checkRaster (displayWidth displayHeight : Nat) : Deserializer Unit :=
  checkStorage (16 * macroblockDimension displayWidth % 2 ^ 16)
    (16 * macroblockDimension displayHeight % 2 ^ 16)

def getRefPlanes (displayWidth displayHeight : Nat) (tag : EncoderSerDesTag)
    (raster : Raster displayWidth displayHeight) :
    Deserializer (Raster displayWidth displayHeight) := do
  let dataType ← getTag
  assert (dataType = tag.code) "data_type == t"
  let getLen ← get 4
  assert (getLen = raster.serializedLength) "get_len == expect_len"
  let Y ← Reader.grid _ _ get8
  let U ← Reader.grid _ _ get8
  let V ← Reader.grid _ _ get8
  return { Y := Y, U := U, V := V }

def getRef (pool : RasterPool) (tag : EncoderSerDesTag)
    (displayWidth displayHeight : Nat) :
    Deserializer (Raster displayWidth displayHeight) := do
  let raster ← Reader.lift (pool displayWidth displayHeight)
  checkRaster displayWidth displayHeight
  let next ← peekTag
  if next = tag.code then
    getRefPlanes displayWidth displayHeight tag raster
  else
    return raster

section Raster

variable {displayWidth displayHeight : Nat}

theorem reads_checkRaster (hwidth : 0 < displayWidth ∧ displayWidth ≤ 16383)
    (hheight : 0 < displayHeight ∧ displayHeight ≤ 16383) :
    (checkRaster displayWidth displayHeight).Reads [] () := by
  unfold checkRaster macroblockDimension
  exact reads_checkStorage (by omega) (by omega)

theorem getRefPlanes_reads (hwidth : displayWidth ≤ 16383)
    (hheight : displayHeight ≤ 16383) (tag : EncoderSerDesTag)
    (raster found : Raster displayWidth displayHeight) :
    (getRefPlanes displayWidth displayHeight tag found).Reads
      (raster.bytes tag) raster := by
  have hlt := (raster.serializedLength_eq hwidth hheight).2
  apply (reads_getTag _).bind
  apply (reads_assert (decide_eq_true rfl) _).after
  apply (reads_get_of_lt (by omega)).bind
  apply (reads_assert (decide_eq_true rfl) _).after
  apply (reads_grid8 raster.Y).bind
  apply (reads_grid8 raster.U).bind
  exact (reads_grid8 raster.V).map _

theorem getRef_gives (pool : RasterPool)
    (hwidth : 0 < displayWidth ∧ displayWidth ≤ 16383)
    (hheight : 0 < displayHeight ∧ displayHeight ≤ 16383)
    (tag : EncoderSerDesTag) (raster : Raster displayWidth displayHeight) :
    (getRef pool tag displayWidth displayHeight).Gives (raster.bytes tag)
      ((pool displayWidth displayHeight).map fun _ => raster) := by
  refine Reader.gives_lift fun found => ?_
  apply (reads_checkRaster hwidth hheight).after
  apply Reader.Reads.peek (reads_getTag tag)
  rw [if_pos rfl]
  exact getRefPlanes_reads hwidth.2 hheight.2 tag raster _

end Raster

structure References (displayWidth displayHeight : Nat) where
  last : Raster displayWidth displayHeight
  golden : Raster displayWidth displayHeight
  alternative : Raster displayWidth displayHeight

namespace References

variable {displayWidth displayHeight : Nat}

/-- What follows the length field. Golden and alternative are not written. -/
def serializeBody (references : References displayWidth displayHeight) :
    Writer Nat := do
  let _ ← put16 displayWidth
  let _ ← put16 displayHeight
  let lastSize ← references.last.serialize .refLast
  return uint32 (4 + lastSize)

def serialize (references : References displayWidth displayHeight) :
    Writer Nat := do
  let _ ← putTag .references
  let placeholder ← put32 4
  let len ← references.serializeBody
  let _ ← Writer.putAt (toBytes 4 len) placeholder
  return uint32 (len + 5)

def deserialize (pool : RasterPool) : Deserializer (Σ size : Nat × Nat,
    References size.1 size.2) := do
  let dataType ← getTag
  assert (dataType = EncoderSerDesTag.references.code)
    "data_type == EncoderSerDesTag::REFERENCES"
  let getLen ← get 4
  let left ← Reader.remaining
  assert (getLen ≤ left) "get_len <= idata.remaining()"
  let width ← get 2
  let height ← get 2
  let last ← getRef pool .refLast width height
  return ⟨(width, height), { last := last, golden := last, alternative := last }⟩

def bodyBytes (references : References displayWidth displayHeight) :
    List UInt8 :=
  toBytes 2 displayWidth ++ (toBytes 2 displayHeight ++
    references.last.bytes .refLast)

def bytes (references : References displayWidth displayHeight) : List UInt8 :=
  [EncoderSerDesTag.references.code] ++
    toBytes 4 references.bodyBytes.length ++ references.bodyBytes

theorem bodyBytes_length_lt (hwidth : displayWidth ≤ 16383)
    (hheight : displayHeight ≤ 16383)
    (references : References displayWidth displayHeight) :
    references.bodyBytes.length < 2 ^ 30 := by
  obtain ⟨hlen, hlt⟩ := references.last.serializedLength_eq hwidth hheight
  simp only [bodyBytes, List.length_append, toBytes_length, Raster.bytes_length]
  omega

theorem serializeBody_appends (hwidth : displayWidth ≤ 16383)
    (hheight : displayHeight ≤ 16383)
    (references : References displayWidth displayHeight) :
    references.serializeBody.Appends references.bodyBytes
      references.bodyBytes.length := by
  have hlt := references.bodyBytes_length_lt hwidth hheight
  have hsize : references.bodyBytes.length =
      uint32 (4 + (references.last.bytes .refLast).length) := by
    simp only [bodyBytes, List.length_append, toBytes_length] at hlt ⊢
    rw [uint32_of_lt (by omega)]
    omega
  rw [hsize]
  apply Writer.Appends.put
  apply Writer.Appends.put
  exact (references.last.serialize_appends hwidth hheight _).map _

theorem serialize_appends (hwidth : displayWidth ≤ 16383)
    (hheight : displayHeight ≤ 16383)
    (references : References displayWidth displayHeight) :
    references.serialize.Appends references.bytes references.bytes.length := by
  have hlt := references.bodyBytes_length_lt hwidth hheight
  have hsize : references.bytes.length =
      uint32 (references.bodyBytes.length + 5) := by
    rw [uint32_of_lt (by omega)]
    simp only [bytes, List.length_append, toBytes_length, List.length_cons,
      List.length_nil]
    omega
  rw [hsize]
  exact Writer.appends_section (toBytes 4) (fun len => uint32 (len + 5))
    (references.serializeBody_appends hwidth hheight)
    (by rw [toBytes_length, toBytes_length]) rfl

theorem deserialize_gives (pool : RasterPool)
    (hwidth : 0 < displayWidth ∧ displayWidth ≤ 16383)
    (hheight : 0 < displayHeight ∧ displayHeight ≤ 16383)
    (references : References displayWidth displayHeight) :
    (deserialize pool).Gives references.bytes
      ((pool displayWidth displayHeight).map fun _ =>
        ⟨(displayWidth, displayHeight), {
          last := references.last
          golden := references.last
          alternative := references.last }⟩) := by
  have hlt := references.bodyBytes_length_lt hwidth.2 hheight.2
  rw [bytes, List.append_assoc]
  apply (reads_getTag _).bind_gives
  apply (reads_assert (by decide) _).after_gives
  apply (reads_get_of_lt (by omega)).bind_gives
  apply Reader.Gives.ensureRemaining _ (Nat.le_refl _)
  apply (reads_get_of_lt (by omega)).bind_gives
  apply (reads_get_of_lt (by omega)).bind_gives
  have hlast := (getRef_gives pool hwidth hheight .refLast references.last).map
    fun last => (⟨(displayWidth, displayHeight), ⟨last, last, last⟩⟩ :
      Σ size : Nat × Nat, References size.1 size.2)
  refine (congrArg (Reader.Gives _ _) ?_).mp hlast
  cases pool displayWidth displayHeight <;> rfl

end References

structure Decoder where
  width : Nat
  height : Nat
  state : DecoderState width height
  displayWidth : Nat
  displayHeight : Nat
  references : References displayWidth displayHeight

namespace Decoder

def serializeBody (decoder : Decoder) : Writer Nat := do
  let stateSize ← decoder.state.serialize
  let referencesSize ← decoder.references.serialize
  return uint32 (stateSize + referencesSize)

def serialize (decoder : Decoder) : Writer Nat := do
  let _ ← putTag .decoder
  let placeholder ← put32 0
  let len ← decoder.serializeBody
  let _ ← Writer.putAt (toBytes 4 len) placeholder
  return uint32 (len + 5)

def deserializeParts (pool : RasterPool) : Deserializer Decoder := do
  let state ← DecoderState.deserialize
  let references ← References.deserialize pool
  let left ← Reader.remaining
  assert (left = 0) "idata.remaining() == 0"
  return {
    width := state.1.1
    height := state.1.2
    state := state.2
    displayWidth := references.1.1
    displayHeight := references.1.2
    references := references.2 }

def deserialize (pool : RasterPool) : Deserializer Decoder := do
  let dataType ← getTag
  assert (dataType = EncoderSerDesTag.decoder.code)
    "data_type == EncoderSerDesTag::DECODER"
  let len ← get 4
  let left ← Reader.remaining
  assert (len = left) "len == idata.remaining()"
  deserializeParts pool

def bodyBytes (decoder : Decoder) : List UInt8 :=
  decoder.state.bytes ++ decoder.references.bytes

def bytes (decoder : Decoder) : List UInt8 :=
  [EncoderSerDesTag.decoder.code] ++ toBytes 4 decoder.bodyBytes.length ++
    decoder.bodyBytes

/-- A decoder whose dimensions fit the header of a key frame. A raster has no
side of length zero. -/
structure Storable (decoder : Decoder) : Prop where
  state : decoder.state.Storable
  displayWidth : 0 < decoder.displayWidth ∧ decoder.displayWidth ≤ 16383
  displayHeight : 0 < decoder.displayHeight ∧ decoder.displayHeight ≤ 16383

theorem bodyBytes_length_lt {decoder : Decoder} (h : decoder.Storable) :
    decoder.bodyBytes.length < 2 ^ 31 := by
  have hstate := DecoderState.bodyBytes_length_lt h.state
  have hreferences := decoder.references.bodyBytes_length_lt h.displayWidth.2
    h.displayHeight.2
  simp only [bodyBytes, DecoderState.bytes, References.bytes,
    List.length_append, toBytes_length, List.length_cons, List.length_nil]
  omega

theorem serializeBody_appends {decoder : Decoder} (h : decoder.Storable) :
    decoder.serializeBody.Appends decoder.bodyBytes
      decoder.bodyBytes.length := by
  have hlt := bodyBytes_length_lt h
  have hreferences := decoder.references.serialize_appends h.displayWidth.2
    h.displayHeight.2
  have hsize : decoder.bodyBytes.length =
      uint32 (decoder.state.bytes.length + decoder.references.bytes.length) := by
    rw [bodyBytes, List.length_append] at hlt ⊢
    rw [uint32_of_lt (by omega)]
  rw [hsize]
  apply (DecoderState.serialize_appends h.state).bind
  exact hreferences.map _

theorem serialize_appends {decoder : Decoder} (h : decoder.Storable) :
    decoder.serialize.Appends decoder.bytes decoder.bytes.length := by
  have hlt := bodyBytes_length_lt h
  have hsize : decoder.bytes.length =
      uint32 (decoder.bodyBytes.length + 5) := by
    rw [uint32_of_lt (by omega)]
    simp only [bytes, List.length_append, toBytes_length, List.length_cons,
      List.length_nil]
    omega
  rw [hsize]
  exact Writer.appends_section (toBytes 4) (fun len => uint32 (len + 5))
    (serializeBody_appends h) (by rw [toBytes_length, toBytes_length]) rfl

theorem deserializeParts_eq (pool : RasterPool) {decoder : Decoder}
    (h : decoder.Storable)
    (hgolden : decoder.references.golden = decoder.references.last)
    (halternative : decoder.references.alternative = decoder.references.last) :
    deserializeParts pool decoder.bodyBytes =
      (pool decoder.displayWidth decoder.displayHeight).map
        fun _ => (decoder, []) := by
  have hreferences := decoder.references.deserialize_gives pool h.displayWidth
    h.displayHeight []
  obtain ⟨width, height, state, displayWidth, displayHeight, references⟩ :=
    decoder
  obtain ⟨last, golden, alternative⟩ := references
  obtain rfl : golden = last := hgolden
  obtain rfl : alternative = golden := halternative
  unfold deserializeParts
  rw [bodyBytes, (DecoderState.deserialize_reads h.state).run_bind]
  rw [List.append_nil] at hreferences
  change References.deserialize pool _ >>= (fun found => _) = _
  rw [hreferences]
  cases pool displayWidth displayHeight <;> rfl

/-- The serialize function says how many bytes it has written. -/
def ReturnsSize (serialize : Writer Nat) : Prop :=
  ∀ data, ∃ bytes, serialize data = (bytes.length, data ++ bytes)

theorem returnsSize {serialize : Writer Nat} {bytes : List UInt8}
    (h : serialize.Appends bytes bytes.length) : ReturnsSize serialize :=
  fun data => ⟨bytes, h data⟩

/-- Every serialize function that a decoder's calls says how many bytes it has
written. -/
structure PartsReturnSize (decoder : Decoder) : Prop where
  whole : ReturnsSize decoder.serialize
  state : ReturnsSize decoder.state.serialize
  tables : ReturnsSize decoder.state.probabilityTables.serialize
  segmentation : ∀ segmentation ∈ decoder.state.segmentation,
    ReturnsSize segmentation.serialize
  adjustments : ∀ adjustments ∈ decoder.state.filterAdjustments,
    ReturnsSize adjustments.serialize
  references : ReturnsSize decoder.references.serialize
  last : ReturnsSize (decoder.references.last.serialize .refLast)

theorem partsReturnSize {decoder : Decoder} (h : decoder.Storable) :
    decoder.PartsReturnSize where
  whole := returnsSize (serialize_appends h)
  state := returnsSize (DecoderState.serialize_appends h.state)
  tables := returnsSize (ProbabilityTables.serialize_appends _)
  segmentation := fun segmentation _ => returnsSize
    (Segmentation.serialize_appends h.state.width_le h.state.height_le
      segmentation)
  adjustments := fun adjustments _ =>
    returnsSize (FilterAdjustments.serialize_appends adjustments)
  references := returnsSize (References.serialize_appends h.displayWidth.2
    h.displayHeight.2 _)
  last := returnsSize (Raster.serialize_appends h.displayWidth.2
    h.displayHeight.2 _ _)

theorem deserialize_eq (pool : RasterPool) {decoder : Decoder}
    (h : decoder.Storable)
    (hgolden : decoder.references.golden = decoder.references.last)
    (halternative : decoder.references.alternative = decoder.references.last) :
    deserialize pool (decoder.serialize []).2 =
      (pool decoder.displayWidth decoder.displayHeight).map
        fun _ => (decoder, []) := by
  have hlt := bodyBytes_length_lt h
  have hlen := reads_get_of_lt (w := 4) (v := decoder.bodyBytes.length)
    (by omega)
  rw [serialize_appends h, List.nil_append, bytes, List.append_assoc]
  unfold deserialize
  rw [(reads_getTag .decoder).run_bind,
    (reads_assert (by decide) _).run_after, hlen.run_bind, Reader.run_remaining,
    (reads_assert (decide_eq_true rfl) _).run_after]
  exact deserializeParts_eq pool h hgolden halternative

/-- A decoder whose golden and alternative rasters are the last raster comes
back from its bytes, unless the pool refuses a raster of its size. -/
theorem deserialize_serialize (pool : RasterPool) (decoder : Decoder)
    (h : decoder.Storable)
    (hgolden : decoder.references.golden = decoder.references.last)
    (halternative : decoder.references.alternative = decoder.references.last) :
    deserialize pool (decoder.serialize []).2 =
        (pool decoder.displayWidth decoder.displayHeight).map
          (fun _ => (decoder, [])) ∧
      decoder.PartsReturnSize :=
  ⟨deserialize_eq pool h hgolden halternative, partsReturnSize h⟩

def blackRaster (displayWidth displayHeight : Nat) :
    Raster displayWidth displayHeight where
  Y := fun _ _ => 16
  U := fun _ _ => 128
  V := fun _ _ => 128

/-- The pool of a process whose rasters are all of one size. -/
def oneSizePool : RasterPool := fun displayWidth displayHeight =>
  if displayWidth = 16 ∧ displayHeight = 16 then
    .ok (blackRaster displayWidth displayHeight)
  else
    .error (.unsupported "raster size has changed")

def oneMacroblock : Decoder where
  width := 16
  height := 16
  state := {
    segmentation := some {
      absoluteSegmentAdjustments := true
      map := fun _ _ => 3 }
    filterAdjustments := some { loopfilterModeAdjustments := ![4, -2, 2, 4] } }
  displayWidth := 16
  displayHeight := 16
  references := {
    last := blackRaster 16 16
    golden := blackRaster 16 16
    alternative := blackRaster 16 16 }

theorem oneMacroblock_deserialize :
    deserialize oneSizePool (oneMacroblock.serialize []).2 =
        .ok (oneMacroblock, []) ∧ oneMacroblock.PartsReturnSize :=
  deserialize_serialize oneSizePool oneMacroblock
    { state := ⟨by decide, by decide, fun _ => by decide⟩
      displayWidth := by decide
      displayHeight := by decide } rfl rfl

end Decoder

end Salsify.Codec
