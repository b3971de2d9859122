import CrazySwarm.TaskLedgerAtomicity
import CrazySwarm.PersistentCoverageOwnership
import CrazySwarm.PersistentCoverageEvidence
import CrazySwarm.DocksCharging
import CrazySwarm.DocksOrder
import CrazySwarm.DocksOverwriting
import CrazySwarm.MultidroneSchedules
import CrazySwarm.SafetyPolicyTighten
import CrazySwarm.SupervisorAuthority
import CrazySwarm.SupervisorHealth
import CrazySwarm.MissionRunExclusion
import CrazySwarm.ReplanningWorld
import CrazySwarm.ReplanningGoals
import CrazySwarm.RoutePlanningTemporal
import CrazySwarm.RoutePlanningCoverage
import CrazySwarm.ExecutionGraphsAcceptance
import CrazySwarm.ZonePlanningDetours
import CrazySwarm.CampaignSolidClearance
import CrazySwarm.CampaignEnvelope
import CrazySwarm.CampaignReleases
import CrazySwarm.CampaignStops
import CrazySwarm.CampaignSelection
import CrazySwarm.CampaignSchedulingCoupling
import CrazySwarm.ReplanningCommits
import CrazySwarm.DeconflictionContract
import CrazySwarm.SingleReplanningClearance
import CrazySwarm.GatewayTransportRuns
import CrazySwarm.RunFilesFrame
import CrazySwarm.CrazyflieCommands
import CrazySwarm.IsaacTelemetry
import CrazySwarm.TwinSessions
import CrazySwarm.CampaignRuns
import CrazySwarm.CampaignReviewHashes
import CrazySwarm.CampaignWorkspaceEvidence
import CrazySwarm.FleetExecutionStatus
import CrazySwarm.EvidenceRetention
import CrazySwarm.EvaluationCampaignPlans
import CrazySwarm.EvaluationPairing
import CrazySwarm.TrajectoryExecution
import CrazySwarm.RotorMixer
import CrazySwarm.BatteryCutoffs
import CrazySwarm.CanonicalJson
import CrazySwarm.SensorDelays
import CrazySwarm.StrandedVehicles
import CrazySwarm.ReplayCorrespondence
import CrazySwarm.TaskLedgerLifecycle
import CrazySwarm.VehicleAuthority
import CrazySwarm.CampaignWorkspaceFile
import CrazySwarm.EvidenceRecorderOrder
