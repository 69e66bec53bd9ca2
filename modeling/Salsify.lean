import Salsify.Codec.ChromaOverflow
import Salsify.Codec.Concealment
import Salsify.Codec.DecoderRuns
import Salsify.Codec.ForwardTransform
import Salsify.Codec.FrameCodec
import Salsify.Codec.FrameContainer
import Salsify.Codec.FrameRoundTrip
import Salsify.Codec.InterPrediction
import Salsify.Codec.LoopFilter
import Salsify.Codec.PartialFrame
import Salsify.Codec.RasterHandles
import Salsify.Codec.StateSerializer
import Salsify.Codec.StateUpdate
import Salsify.Codec.StoredRasters
import Salsify.Codec.TokenStatistics
import Salsify.Codec.TreeWalk
import Salsify.Codec.Y2Neighbours
import Salsify.Coder.RoundTrip
import Salsify.Encoder.EncoderRuns
import Salsify.Encoder.MotionCosts
import Salsify.Encoder.QuantizerSearch
import Salsify.Encoder.SafeReferences
import Salsify.Encoder.SearchOverflow
import Salsify.Encoder.TrellisAccounting
import Salsify.Encoder.WriteFrame
import Salsify.Input.IvfWriter
import Salsify.Input.Yuv4Mpeg
import Salsify.Net.MonaxConfidence
import Salsify.Net.MonaxControl
import Salsify.Net.Pacer
import Salsify.Session.AckCodec
import Salsify.Session.CodecSession
import Salsify.Session.InFlight
