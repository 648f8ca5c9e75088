import McpgOperator.Admission.Gateway
import McpgOperator.Admission.Plugin
import McpgOperator.Admission.RevocationList
import McpgOperator.Admission.Specs
import McpgOperator.Admission.Tenant
import McpgOperator.Admission.Webhook
import McpgOperator.Backoff.Controllers
import McpgOperator.Backoff.Map
import McpgOperator.Backoff.Schedule
import McpgOperator.Cluster.Managed
import McpgOperator.Cluster.Reconcile
import McpgOperator.Cluster.Types
import McpgOperator.Fleet.Agent
import McpgOperator.Fleet.Apply
import McpgOperator.Fleet.CellState
import McpgOperator.Fleet.Quantity
import McpgOperator.Gateway.AuthorizationServer
import McpgOperator.Gateway.Cel
import McpgOperator.Gateway.ClusterBinding
import McpgOperator.Gateway.Config
import McpgOperator.Gateway.Edge
import McpgOperator.Gateway.ListJson
import McpgOperator.Gateway.Reconcile
import McpgOperator.Gateway.Resolve
import McpgOperator.Gateway.Status
import McpgOperator.Gateway.Types
import McpgOperator.Json
import McpgOperator.JsonFrame
import McpgOperator.JsonPath
import McpgOperator.JsonText
import McpgOperator.Kube.Api
import McpgOperator.Kube.Conditions
import McpgOperator.Kube.Finalizer
import McpgOperator.Kube.FinalizerPatch
import McpgOperator.Kube.Object
import McpgOperator.Kube.Trigger
import McpgOperator.Leader.Lease
import McpgOperator.Leader.Process
import McpgOperator.Leader.Replicas
import McpgOperator.Leader.RunLoop
import McpgOperator.Leader.Timed
import McpgOperator.Lib.Apply
import McpgOperator.Lib.AssocList
import McpgOperator.Lib.Base64
import McpgOperator.Lib.CappedDoubling
import McpgOperator.Lib.CelCore
import McpgOperator.Lib.Decimal
import McpgOperator.Lib.DnsName
import McpgOperator.Lib.Except
import McpgOperator.Lib.FailureCount
import McpgOperator.Lib.FirstClaim
import McpgOperator.Lib.Gatekeeper
import McpgOperator.Lib.Hex
import McpgOperator.Lib.Ownership
import McpgOperator.Lib.Regex
import McpgOperator.Lib.Settling
import McpgOperator.Lib.SortedMap
import McpgOperator.Lib.Transition
import McpgOperator.Lib.Verdict
import McpgOperator.Plugin.Cosign
import McpgOperator.Plugin.OciPull
import McpgOperator.Plugin.PullAuth
import McpgOperator.Plugin.Reconcile
import McpgOperator.Plugin.Slsa
import McpgOperator.Plugin.StatusApply
import McpgOperator.Plugin.Types
import McpgOperator.Plugin.Verify
import McpgOperator.PluginMirror.Reconcile
import McpgOperator.PluginSet.Reconcile
import McpgOperator.PluginSet.Resolve
import McpgOperator.PluginSet.Types
import McpgOperator.Proofs.AdmittedWrites
import McpgOperator.Proofs.AdvertisedHosts
import McpgOperator.Proofs.Allowlist
import McpgOperator.Proofs.ArtefactSecrets
import McpgOperator.Proofs.Authority
import McpgOperator.Proofs.BackoffCounts
import McpgOperator.Proofs.Binding
import McpgOperator.Proofs.Cascade
import McpgOperator.Proofs.CelFragment
import McpgOperator.Proofs.CelQuote
import McpgOperator.Proofs.ChildNames
import McpgOperator.Proofs.CloudIdentity
import McpgOperator.Proofs.CloudPlugins
import McpgOperator.Proofs.ConfigFrame
import McpgOperator.Proofs.ConfigOverlay
import McpgOperator.Proofs.Coordination
import McpgOperator.Proofs.CoordinationSecret
import McpgOperator.Proofs.CoordinatorProjection
import McpgOperator.Proofs.Deletion
import McpgOperator.Proofs.DigestPins
import McpgOperator.Proofs.EdgeCertificates
import McpgOperator.Proofs.EdgeWiring
import McpgOperator.Proofs.Endpoints
import McpgOperator.Proofs.EventRoutes
import McpgOperator.Proofs.FanIn
import McpgOperator.Proofs.Federations
import McpgOperator.Proofs.FinalizerComposition
import McpgOperator.Proofs.FleetConfinement
import McpgOperator.Proofs.FleetRevocation
import McpgOperator.Proofs.FleetSession
import McpgOperator.Proofs.GateDecision
import McpgOperator.Proofs.GatewayConditions
import McpgOperator.Proofs.GatewayPass
import McpgOperator.Proofs.Generation
import McpgOperator.Proofs.IdentityPatterns
import McpgOperator.Proofs.ImageGate
import McpgOperator.Proofs.IssuerAlignment
import McpgOperator.Proofs.IssuerOrigins
import McpgOperator.Proofs.IssuerShape
import McpgOperator.Proofs.LeaderExclusion
import McpgOperator.Proofs.LeaderFailover
import McpgOperator.Proofs.LeaderGate
import McpgOperator.Proofs.LeaderTiming
import McpgOperator.Proofs.LeaseRelease
import McpgOperator.Proofs.OptionalChildren
import McpgOperator.Proofs.PluginHold
import McpgOperator.Proofs.PluginRounds
import McpgOperator.Proofs.PluginSnapshot
import McpgOperator.Proofs.PluginTransparency
import McpgOperator.Proofs.PluginsJson
import McpgOperator.Proofs.PodMetadata
import McpgOperator.Proofs.PodVolumes
import McpgOperator.Proofs.Provenance
import McpgOperator.Proofs.Pruning
import McpgOperator.Proofs.PullCredentials
import McpgOperator.Proofs.Quantities
import McpgOperator.Proofs.Revocation
import McpgOperator.Proofs.RevocationEnforced
import McpgOperator.Proofs.RevocationMount
import McpgOperator.Proofs.RevokedDigest
import McpgOperator.Proofs.Rollout
import McpgOperator.Proofs.Scheduling
import McpgOperator.Proofs.SetReadiness
import McpgOperator.Proofs.Settling
import McpgOperator.Proofs.ShutdownSignal
import McpgOperator.Proofs.SigningKeys
import McpgOperator.Proofs.SupplyChain
import McpgOperator.Proofs.TenantExclusivity
import McpgOperator.Proofs.TenantFootprint
import McpgOperator.Proofs.TenantQuoting
import McpgOperator.Proofs.TenantReadiness
import McpgOperator.Proofs.ToolAccess
import McpgOperator.Proofs.TriggerDelivery
import McpgOperator.Proofs.TrustGate
import McpgOperator.Proofs.WatchMapping
import McpgOperator.Proofs.Withdrawal
import McpgOperator.Readiness
import McpgOperator.RevocationList.Reconcile
import McpgOperator.Rounds
import McpgOperator.Route.Reconcile
import McpgOperator.Server.Reconcile
import McpgOperator.Templates.Deployment
import McpgOperator.Templates.Edge
import McpgOperator.Templates.HttpRoute
import McpgOperator.Templates.Pdb
import McpgOperator.Templates.PluginRender
import McpgOperator.Templates.PodMetadata
import McpgOperator.Templates.Server
import McpgOperator.Tenant.Namespaces
import McpgOperator.Tenant.Reconcile
import McpgOperator.Tenant.Requests
import McpgOperator.Text
import McpgOperator.Url
import McpgOperator.Watch
