import Erizo.Library.Bytes
import Erizo.Library.FairShare
import Erizo.Library.Machine
import Erizo.Library.RingBuffer
import Erizo.Library.Serial
import Erizo.Library.ShortFloat
import Erizo.Model.RtpHeaders
import Erizo.Model.RtpUtils
import Erizo.Model.SequenceNumberTranslator
import Erizo.Model.RtpPaddingRemovalHandler
import Erizo.Model.RtcpNackGenerator
import Erizo.Model.RtcpRrGenerator
import Erizo.Model.BandwidthDistribution
import Erizo.Model.RtpRetransmissionHandler
import Erizo.Model.WebRtcConnection
import Erizo.Proof.Fill
import Erizo.Proof.Window
import Erizo.Proof.Faithful
import Erizo.Proof.InOrder
import Erizo.Proof.Shift
import Erizo.Proof.Numbering
import Erizo.Proof.RtcpWalk
import Erizo.Proof.NackTranslation
import Erizo.Proof.NackReport
import Erizo.Proof.NackList
import Erizo.Proof.RtcpBounds
import Erizo.Proof.ExtendedSequence
import Erizo.Proof.LossAccounting
import Erizo.Proof.RembBitRate
import Erizo.Proof.Retransmission
import Erizo.Proof.Distribution
import Erizo.Proof.TargetDistribution
import Erizo.Proof.RembFanOut
import Erizo.Library.Cut
import Erizo.Model.StringUtil
import Erizo.Model.SdpInfo
import Erizo.Proof.SdpUpdates
import Erizo.Library.Table
import Erizo.Proof.PayloadTables
import Erizo.Library.Overwrite
import Erizo.Proof.Reprocessing
import Erizo.Proof.HostileText
import Erizo.Proof.LineEndings
import Erizo.Model.ConnectionState
import Erizo.Proof.Closing
import Erizo.Proof.TransportStates
import Erizo.Model.Scheduler
import Erizo.Proof.Scheduling
import Erizo.Model.RtpPacketQueue
import Erizo.Proof.Reordering
import Erizo.Model.RtpTrackMuteHandler
import Erizo.Proof.Muting
import Erizo.Proof.FeedbackShift
import Erizo.Model.RtpSlideShowHandler
import Erizo.Proof.SlideShowFeedback
import Erizo.Proof.KeyframeStore
import Erizo.Model.PliPacerHandler
import Erizo.Library.Sliding
import Erizo.Model.MovingIntervalRateStat
import Erizo.Proof.MovingWindow
import Erizo.Proof.PliPacing
import Erizo.Model.RtpPaddingGeneratorHandler
import Erizo.Proof.PaddingNumbers
import Erizo.Model.Depacketizer
import Erizo.Model.RtpVP8Fragmenter
import Erizo.Proof.NalUnits
import Erizo.Proof.Vp8Frames
import Erizo.Model.RtcpForwarder
import Erizo.Proof.FeedbackForwarding
import Erizo.Model.RtcpAggregator
import Erizo.Proof.IntervalLoss
import Erizo.Model.QualityFilterHandler
import Erizo.Proof.LayerFilter
import Erizo.Proof.Vp8Descriptor
import Erizo.Model.RtpVP9Parser
import Erizo.Proof.Vp9Descriptor
import Erizo.Library.VirtualClock
import Erizo.Proof.TokenRate
import Erizo.Proof.LastResort
import Erizo.Proof.RateWindow
import Erizo.Proof.KeyframeReordering
import Erizo.Library.SharedCells
import Erizo.Model.LayerDetectorHandler
import Erizo.Proof.LayerRates
import Erizo.Model.QualityManager
import Erizo.Proof.LayerTables
import Erizo.Library.Sweep
import Erizo.Proof.LayerNode
import Erizo.Proof.LayerChoice
import Erizo.Model.PaddingRate
import Erizo.Proof.Unpacking
import Erizo.Proof.NackMemory
import Erizo.Proof.PaddingPlan
import Erizo.Proof.PaddingRemoval
import Erizo.Model.SenderBandwidthEstimationHandler
import Erizo.Library.Recent
import Erizo.Proof.RoundTripTime
import Erizo.Model.BandwidthEstimationHandler
import Erizo.Proof.FallingEstimate
import Erizo.Model.MediaStream
import Erizo.Proof.RateControl
import Erizo.Model.RtpExtensionProcessor
import Erizo.Library.Elements
import Erizo.Proof.ExtensionWalk
import Erizo.Proof.ExtensionElements
import Erizo.Proof.ExtensionIds
import Erizo.Model.ExternalOutput
import Erizo.Proof.Recording
import Erizo.Model.MovingAverageStat
import Erizo.Proof.MovingAverage
import Erizo.Proof.FillRecursion
import Erizo.Model.PeriodicTask
import Erizo.Proof.PeriodicTasks
import Erizo.Proof.CodecSupport
import Erizo.Library.NarrowIndex
import Erizo.Model.SdpText
import Erizo.Proof.CandidateText
import Erizo.Model.RemoteCandidates
import Erizo.Proof.RemoteDescriptions
import Erizo.Library.Isolation
import Erizo.Model.Base64
import Erizo.Proof.KeyText
import Erizo.Model.SrtpChannel
import Erizo.Model.SecureTransport
import Erizo.Proof.MediaSecurity
import Erizo.Proof.MediaDelivery
import Erizo.Model.Pipeline
import Erizo.Proof.PipelineOrder
import Erizo.Model.RtcpFeedbackGenerationHandler
import Erizo.Proof.FeedbackReports
import Erizo.Proof.PaddingTransparency
import Erizo.Model.OneToManyProcessor
import Erizo.Proof.FanOut
import Erizo.Proof.Relay
import Erizo.Model.SRPacketHandler
import Erizo.Proof.SenderReports
import Erizo.Library.LeastLoaded
import Erizo.Model.ThreadPool
import Erizo.Proof.WorkerBalance
import Erizo.Model.ConnectionStreams
import Erizo.Proof.StreamMembership
import Erizo.Proof.RetransmissionMemory
import Erizo.Library.Marked
import Erizo.Proof.WrittenLines
import Erizo.Proof.DescriptionLines
import Erizo.Proof.DescriptionText
