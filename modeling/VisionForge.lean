import VisionForge.Agreement.Verifiers
import VisionForge.Bootstrap.Sequence
import VisionForge.Bootstrap.StreamDecoding
import VisionForge.ContractCore.CandidateIsolation
import VisionForge.ContractCore.FailClosed
import VisionForge.ContractCore.PublishChain
import VisionForge.ContractCore.RepeatResync
import VisionForge.ContractCore.VirtualDesktopMapper
import VisionForge.ContractCore.WindowAgreement
import VisionForge.ContractCore.WireFormats
import VisionForge.ControlOutput.DeliveryRetry
import VisionForge.ControlOutput.MakcuResponseStream
import VisionForge.ControlOutput.RecoveryGates
import VisionForge.DataPlane.Delivery
import VisionForge.FormalCoordinator.BoundaryClosed
import VisionForge.FormalUsage.LeasePermits
import VisionForge.FormalUsage.PaidGenerations
import VisionForge.Handshake.FinishedAgreement
import VisionForge.HostAuthorization.FailClosed
import VisionForge.HostVideo.IdrRequests
import VisionForge.HostVideo.Observations
import VisionForge.MobileRuntime.ReceiveThread
import VisionForge.MobileRuntime.ReferenceChain
import VisionForge.MobileRuntime.SingleRestart
import VisionForge.MouseButtons.NewestState
import VisionForge.PairGeneration.Identifiers
import VisionForge.PairSecurity.GenerationRuns
import VisionForge.PairSecurity.RefillRuns
import VisionForge.Server.CodeHistory
import VisionForge.Server.LicenseCodes
import VisionForge.SignedPayload.Agreement
import VisionForge.Video.AccessUnitSplit
import VisionForge.Video.Overtaken
import VisionForge.Video.PublishedUnits
import VisionForge.Video.StreamRoundTrip
