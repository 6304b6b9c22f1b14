import ASFireWire.ATSubmissionRuns
import ASFireWire.AddressSpacePartition
import ASFireWire.BlockingCadence
import ASFireWire.BusDiameter
import ASFireWire.BusGeneration
import ASFireWire.BusResetRuns
import ASFireWire.CommandQueueRuns
import ASFireWire.CompletionRuns
import ASFireWire.ConfigROMAgreement
import ASFireWire.ConfigROMStore
import ASFireWire.DVCaptureRuns
import ASFireWire.DeviceRegistry
import ASFireWire.DiceTxStreamEngine
import ASFireWire.DirectAudioReceiveConsumer
import ASFireWire.EfcTransportRuns
import ASFireWire.FetchAgentRuns
import ASFireWire.FrameLookup
import ASFireWire.GapPolicyCoordinator
import ASFireWire.IRMAllocationManager
import ASFireWire.IsochServiceRuns
import ASFireWire.LocalNormalization
import ASFireWire.LockResponses
import ASFireWire.MotuEventOffsetCache
import ASFireWire.MotuPayload
import ASFireWire.MotuSphReplay
import ASFireWire.PathSpeeds
import ASFireWire.PayloadRegistry
import ASFireWire.QuadletAgreement
import ASFireWire.ROMReaderRuns
import ASFireWire.ROMScanRuns
import ASFireWire.ReplayTiming
import ASFireWire.ResetRequests
import ASFireWire.RestartLifecycleRuns
import ASFireWire.RestartSessionRuns
import ASFireWire.RxReplayInterleaving
import ASFireWire.ScannedPrefix
import ASFireWire.SelfIDFraming
import ASFireWire.SelfIDPackets
import ASFireWire.SessionRegistryRuns
import ASFireWire.SubmissionResidue
import ASFireWire.TopologyMapRuns
import ASFireWire.TopologyReconstruction
import ASFireWire.TrackingLabels
import ASFireWire.TxPayloadDmaMap
import ASFireWire.CaptureRing
import ASFireWire.StreamFormatParser
import ASFireWire.InfoBlockTrees
import ASFireWire.AmdtpPayloadWriter
import ASFireWire.ZeroTimestamps
import ASFireWire.SBP2PageTable
import ASFireWire.FCPResponseOrder
import ASFireWire.DescriptorReads
import ASFireWire.StreamProgramming
import ASFireWire.ClockAcceptance
import ASFireWire.ParsePrefixes
import ASFireWire.LabelContention
import ASFireWire.StopMarker
import ASFireWire.LabelBlobs
import ASFireWire.CapabilityReads
import ASFireWire.PlugLeases
import ASFireWire.DMAMemoryManager
