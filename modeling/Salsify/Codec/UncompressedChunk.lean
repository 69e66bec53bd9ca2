import Salsify.Net.Packet

namespace Salsify.Codec

open Salsify.Net (Chunk Failure)
open Salsify.LittleEndian

/-! The uncompressed header of a frame, as in `decoder/uncompressed_chunk.cc`. -/

/-- `bits( bit_offset, bit_length )` of a chunk of at most eight bytes. -/
def chunkBits (chunk : Chunk) (bitOffset bitLength : Nat) :
    Except Failure Nat := do
  let byteLen := 1 + (bitOffset + bitLength - 1) / 8
  chunk.boundsCheck byteLen
  if byteLen > 8 then
    .error (.outOfRange "bit offset and length not supported")
  else
    return ofBytes (chunk.take byteLen) / 2 ^ bitOffset % 2 ^ bitLength

inductive CorruptionLevel
  | noCorruption | corruptedResidues | corruptedFirstPartition | corruptedFrame
  deriving DecidableEq, Repr

def CorruptionLevel.code : CorruptionLevel → Nat
  | .noCorruption => 0
  | .corruptedResidues => 1
  | .corruptedFirstPartition => 2
  | .corruptedFrame => 3

inductive LoopFilterType
  | normal | simple | noFilter
  deriving DecidableEq, Repr

structure UncompressedChunk where
  keyFrame : Bool
  loopFilter : LoopFilterType
  showFrame : Bool
  experimental : Bool
  firstPartition : Chunk
  rest : Chunk
  corruptionLevel : CorruptionLevel
  deriving DecidableEq, Repr

namespace UncompressedChunk

def ofVersion : Nat → Except Failure (LoopFilterType × Bool)
  | 0 => .ok (.normal, false)
  | 4 => .ok (.normal, true)
  | 6 => .ok (.noFilter, true)
  | version => .error (.unsupported s!"VP8 version of {version}")

/-- The first partition and what follows it, when all of the first partition
and something after it are there. -/
def splitFrame (frame : Chunk) (firstPartitionByteOffset firstPartitionLength : Nat)
    (acceptPartial : Bool) : Except Failure (CorruptionLevel × Chunk × Chunk) :=
  if frame.length ≤ firstPartitionByteOffset + firstPartitionLength then
    if acceptPartial then do
      let firstPartition ← frame.slice firstPartitionByteOffset
        (frame.length - firstPartitionByteOffset)
      return (.corruptedFirstPartition, firstPartition, [])
    else
      .error (.invalid "invalid VP8 first partition length")
  else do
    let firstPartition ← frame.slice firstPartitionByteOffset firstPartitionLength
    let rest ← frame.slice (firstPartitionByteOffset + firstPartitionLength)
      (frame.length - firstPartitionByteOffset - firstPartitionLength)
    return (.noCorruption, firstPartition, rest)

def startCode : Chunk := [0x9d, 0x01, 0x2a]

def checkStartCode (frame : Chunk) : Except Failure Unit := do
  let code ← frame.slice 3 3
  Net.require (code = startCode)
    (.invalid "did not find key-frame start code")

def checkSizes (frame : Chunk) (expectedWidth expectedHeight : Nat) :
    Except Failure Unit := do
  let sizes ← frame.slice 6 4
  let horizontalScale ← chunkBits sizes 14 2
  let verticalScale ← chunkBits sizes 30 2
  let frameWidth ← chunkBits sizes 0 14
  let frameHeight ← chunkBits sizes 16 14
  Net.require (frameWidth = expectedWidth ∧ frameHeight = expectedHeight ∧
      horizontalScale = 0 ∧ verticalScale = 0)
    (.unsupported "VP8 upscaling not supported")

def checkKeyFrame (keyFrame : Bool) (frame : Chunk)
    (expectedWidth expectedHeight : Nat) : Except Failure Unit :=
  if keyFrame then do
    checkStartCode frame
    checkSizes frame expectedWidth expectedHeight
  else
    return ()

def parseFields (frame : Chunk) (expectedWidth expectedHeight : Nat)
    (acceptPartial : Bool) : Except Failure UncompressedChunk := do
  let interFrame ← chunkBits frame 0 1
  let keyFrame := interFrame = 0
  let showFrame ← chunkBits frame 4 1
  let version ← chunkBits frame 1 3
  let (loopFilter, experimental) ← ofVersion version
  let firstPartitionLength ← chunkBits frame 5 19
  let (corruptionLevel, firstPartition, rest) ← splitFrame frame
    (if keyFrame then 10 else 3) firstPartitionLength acceptPartial
  checkKeyFrame keyFrame frame expectedWidth expectedHeight
  return {
    keyFrame, loopFilter
    showFrame := showFrame = 1
    experimental, firstPartition, rest, corruptionLevel }

/-- A frame too short for its fields, of which the flag in the first byte may
have been read. -/
def truncated (frame : Chunk) : UncompressedChunk where
  keyFrame := false
  loopFilter := .normal
  showFrame := frame.head?.elim false fun first => first.toNat / 16 % 2 = 1
  experimental := false
  firstPartition := []
  rest := []
  corruptionLevel := .corruptedFrame

def parse (frame : Chunk) (expectedWidth expectedHeight : Nat)
    (acceptPartial : Bool) : Except Failure UncompressedChunk :=
  match parseFields frame expectedWidth expectedHeight acceptPartial with
  | .error (.outOfRange _) =>
      if acceptPartial then .ok (truncated frame)
      else .error (.invalid "VP8 frame truncated")
  | result => result

def partitionLengths : Nat → Chunk → Except Failure (List Nat × Chunk)
  | 0, restOfFrame => .ok ([], restOfFrame)
  | count + 1, restOfFrame => do
      let length ← chunkBits restOfFrame 0 24
      let next ← restOfFrame.sliceFrom 3
      let (lengths, last) ← partitionLengths count next
      return (length :: lengths, last)

/-- The last partition is all that is left. -/
def cutPartitions : List Nat → Chunk → Except Failure (List Chunk)
  | [], restOfFrame => .ok [restOfFrame]
  | length :: lengths, restOfFrame => do
      let partition ← restOfFrame.slice 0 length
      let next ← restOfFrame.sliceFrom length
      let partitions ← cutPartitions lengths next
      return partition :: partitions

def dctPartitions (chunk : UncompressedChunk) (num : Nat) :
    Except Failure (List Chunk) := do
  let (lengths, restOfFrame) ← partitionLengths (num - 1) chunk.rest
  cutPartitions lengths restOfFrame

end UncompressedChunk

end Salsify.Codec
