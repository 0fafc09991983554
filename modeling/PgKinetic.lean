import PgKinetic.Proxy.ProtocolParity
import PgKinetic.Proxy.RecoverSync
import PgKinetic.Proxy.ReleaseStatus
import PgKinetic.Proxy.ReleaseClean
import PgKinetic.Proxy.ClientStatus
import PgKinetic.Proxy.ReadYourWrites
import PgKinetic.Proxy.Retry
import PgKinetic.Proxy.SharedRelease
import PgKinetic.Pool.IdleCounter
import PgKinetic.Pool.Breaker
import PgKinetic.Traffic.Permits
import PgKinetic.Proxy.StartupRelay
import PgKinetic.Proxy.PassThrough
import PgKinetic.Proxy.Identity
import PgKinetic.Proxy.StatementIdentity
import PgKinetic.Proxy.CancelSafety
import PgKinetic.Proxy.FreshnessProbe
import PgKinetic.Observe.ProbeAttribution
import PgKinetic.Ops.DrainSoundness
import PgKinetic.Security.ScramAgreement
import PgKinetic.Proxy.IdleReads
import PgKinetic.Proxy.CopyUpload
import PgKinetic.Proxy.Pipeline
import PgKinetic.Engine.Segmentation
import PgKinetic.Proxy.DrainDrivers
import PgKinetic.Wire.Rewrite
import PgKinetic.Proxy.PrimarySticky
import PgKinetic.Proxy.ShardAffinity
import PgKinetic.Proxy.StartupPacket
import PgKinetic.Protocol.CatalogHistory
import PgKinetic.Protocol.Fingerprint
import PgKinetic.Traffic.RoundRobin
import PgKinetic.Traffic.PolicyRule
import PgKinetic.Pool.Reap
import PgKinetic.Proxy.PlanCache
import PgKinetic.Traffic.Pressure
import PgKinetic.Ops.ConfigMerge
import PgKinetic.Proxy.VectoredWrite
import PgKinetic.Cluster.LsnCodec
