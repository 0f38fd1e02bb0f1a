import GjcRemote.PublishLawful
import GjcRemote.SessionPoolAdmission
import GjcRemote.SessionPoolReleaseOnce
import GjcRemote.LiveInputTerminal
import GjcRemote.ReceiptLostBinding
import GjcRemote.SuccessorCommitment
import GjcRemote.TokenFloorProgress
import GjcRemote.PendingInvokeEnds
import GjcRemote.ServiceCallsSettled
import GjcRemote.LifecycleAuthority
import GjcRemote.TrialBoundaryChain
import GjcRemote.ServiceLinuxExit
import GjcRemote.GatePresentationsRetired
import GjcRemote.HistorySeal
import GjcRemote.ReleaseTransition
import GjcRemote.ReplayLineage
import GjcRemote.ReadinessRejection
import GjcRemote.GateSelection
import GjcRemote.CandidateAgreement
import GjcRemote.GzipFeeder
import GjcRemote.ModelLookup
import GjcRemote.Delivery
import GjcRemote.StreamingTimeout
import GjcRemote.HostTokens
import GjcRemote.ToolCalls
import GjcRemote.ReplayWindow
import GjcRemote.Linked
import GjcRemote.PublicationEnvelope
import GjcRemote.WindowsServiceLine
import GjcRemote.NativeAlias
import GjcRemote.ReplaySingleUse
import GjcRemote.RestoreContextOnce
