import ClusterNet.Config.Error
import ClusterNet.Duration
import ClusterNet.Json.Codec
import ClusterNet.Text.Blank

/-!
# The configuration

The configuration names the regions in which clusters can be, and for each the control plane and
the place of the machines.

## Main definitions

* `Config.Placement`, `Config.Zone`, `Config.Region` — a region and its zones;
* `Config.ControllerConfig` — the whole configuration;
* `Config.ControllerConfig.validate` — whether it makes sense;
* `Config.ControllerConfig.region` — a region by its name.
-/

namespace ClusterNet

namespace Config

/-! ### Regions and zones -/

/-- Where the machines of a cluster are. -/
structure Placement where
  /-- The datacenter. -/
  datacenter : Option String := none
  /-- The datastore. -/
  datastore : Option String := none
  /-- The cluster of datastores. -/
  datastoreCluster : Option String := none
  /-- The cluster of hosts. -/
  computeCluster : Option String := none
  /-- The pool of resources. -/
  resourcePool : Option String := none
deriving DecidableEq, Repr, Inhabited

/-- A placement whose missing values are those of another one. -/
def Placement.or (own fallback : Placement) : Placement where
  datacenter := own.datacenter.or fallback.datacenter
  datastore := own.datastore.or fallback.datastore
  datastoreCluster := own.datastoreCluster.or fallback.datastoreCluster
  computeCluster := own.computeCluster.or fallback.computeCluster
  resourcePool := own.resourcePool.or fallback.resourcePool

/-- A zone of a region. -/
structure Zone where
  /-- The zone's name. -/
  name : String
  /-- Where machines are, as far as it differs from the region. -/
  placement : Placement := {}
deriving DecidableEq, Repr, Inhabited

/-- A region. -/
structure Region where
  /-- The region's name. -/
  name : String
  /-- The host of its control plane. -/
  host : String
  /-- Whether any certificate of the host is accepted. -/
  insecure : Bool := false
  /-- A file of further authorities to trust. -/
  caFile : Option String := none
  /-- Whether users are those of an identity provider. -/
  remoteAuth : Bool := false
  /-- The host at which tokens are exchanged. -/
  authHost : Option String := none
  /-- The display name of the tier-0 gateway. -/
  tier0GatewayName : String
  /-- The display name of the edge cluster. -/
  edgeClusterName : String
  /-- The display name of the transport zone. -/
  transportZoneName : String
  /-- The display name of the pool that outward addresses come from. -/
  snatIpPoolName : String
  /-- The DNS servers that workers use. -/
  dnsServers : List String := []
  /-- Where machines are. -/
  placement : Placement := {}
  /-- The zones. -/
  zones : List Zone := []
deriving DecidableEq, Repr, Inhabited

/-! ### Settings -/

/-- How an outward address is waited for. -/
structure RealizationSettings where
  /-- The pause behind the first poll, in milliseconds. -/
  initialIntervalMs : Nat := 100
  /-- The greatest pause, in milliseconds. -/
  maxIntervalMs : Nat := 1000
  /-- How long to wait in all, in seconds. -/
  timeoutSeconds : Nat := 15
deriving DecidableEq, Repr, Inhabited

/-- What is done about load balancers. -/
structure LoadBalancerSettings where
  /-- The scope of the tag that names an object's cluster. -/
  clusterTagScope : String := "owner"
deriving DecidableEq, Repr, Inhabited

/-- The whole configuration. -/
structure ControllerConfig where
  /-- The regions. -/
  regions : List Region
  /-- Whether objects of a cluster are adopted when their references are missing. -/
  recoveryEnabled : Bool := false
  /-- How often a request is repeated after an error that may pass. -/
  apiRetries : Nat := 3
  /-- How an outward address is waited for. -/
  realization : RealizationSettings := {}
  /-- What is done about load balancers. -/
  loadBalancer : LoadBalancerSettings := {}
deriving DecidableEq, Repr, Inhabited

/-! ### Whether it makes sense -/

/-- The members of a region that may not be blank. -/
def Region.required (r : Region) : List (String × String) :=
  [("nsxtHost", r.host), ("tier0GatewayName", r.tier0GatewayName),
   ("edgeClusterName", r.edgeClusterName), ("transportZoneName", r.transportZoneName),
   ("snatIpPoolName", r.snatIpPoolName)]

/-- The first of the names that is among those before it. -/
def firstRepeated : (before : List String) → List String → Option String
  | _, [] => none
  | before, n :: ns => if before.contains n then some n else firstRepeated (n :: before) ns

/-- Whether a region makes sense: nothing is blank, and its zones have different names. -/
def Region.validate (r : Region) : Except ConfigError Unit :=
  match r.required.find? fun m => Text.isAllBlank m.2 with
  | some (name, _) => .error (.invalid s!"region '{r.name}': {name} must be set")
  | none =>
    match firstRepeated [] (r.zones.map (·.name)) with
    | some zone => .error (.invalid s!"region '{r.name}': duplicate zone '{zone}'")
    | none => .ok ()

/-- Whether regions make sense, one after the other: each has a name that none before it has. -/
def validateRegions : (before : List String) → List Region → Except ConfigError Unit
  | _, [] => .ok ()
  | before, r :: rs =>
    if Text.isAllBlank r.name then .error (.invalid "region without name")
    else if before.contains r.name then .error (.invalid s!"duplicate region '{r.name}'")
    else
      match r.validate with
      | .error e => .error e
      | .ok () => validateRegions (r.name :: before) rs

/-- Whether the wait makes sense: nothing is zero, and the first pause is not too great. -/
def RealizationSettings.validate (s : RealizationSettings) : Except ConfigError Unit :=
  if s.initialIntervalMs = 0 ∨ s.maxIntervalMs = 0 ∨ s.timeoutSeconds = 0 then
    .error (.invalid "realization intervals and timeout must be positive")
  else if s.maxIntervalMs < s.initialIntervalMs then
    .error (.invalid "realization initial interval exceeds the maximum interval")
  else .ok ()

namespace ControllerConfig

/-- Whether the configuration makes sense. -/
def validate (c : ControllerConfig) : Except ConfigError Unit := do
  if c.regions.isEmpty then .error (.invalid "no regions configured")
  validateRegions [] c.regions
  c.realization.validate
  if Text.isAllBlank c.loadBalancer.clusterTagScope then
    .error (.invalid "loadBalancer.clusterTagScope must not be empty")

/-- A region by its name. -/
def region (c : ControllerConfig) (name : String) : Except ConfigError Region :=
  match c.regions.find? fun r => r.name == name with
  | some r => .ok r
  | none => .error (.unknownRegion name)

end ControllerConfig

/-- A zone by its name. -/
def Region.zone? (r : Region) (name : String) : Option Zone := r.zones.find? fun z => z.name == name

/-! ### Written form -/

/-- How a placement is written. -/
def Placement.record : Record Placement :=
  .iso
    (.field (.optional "datacenter" .text) <| .field (.optional "datastore" .text) <|
      .field (.optional "datastoreCluster" .text) <| .field (.optional "computeCluster" .text) <|
      .field (.optional "resourcePool" .text) .nil)
    (fun (datacenter, datastore, datastoreCluster, computeCluster, resourcePool, ()) =>
      { datacenter, datastore, datastoreCluster, computeCluster, resourcePool })
    fun p => (p.datacenter, p.datastore, p.datastoreCluster, p.computeCluster, p.resourcePool, ())

/-- The codec of placements. -/
def Placement.codec : Codec Placement := Placement.record.codec

/-- How a zone is written: its placement is not set apart from its name. -/
def Zone.record : Record Zone :=
  .iso
    (.append (.field (.required "name" .text) .nil) Placement.record)
    (fun ((name, ()), placement) => { name, placement })
    fun z => ((z.name, ()), z.placement)

/-- The codec of zones. -/
def Zone.codec : Codec Zone := Zone.record.objectCodec

/-- How a region is written: its placement is not set apart from its other members. -/
def Region.record : Record Region :=
  .iso
    (.append
      (.field (.required "name" .text) <| .field (.required "nsxtHost" .text) <|
        .field (.defaulted "nsxtInsecureSsl" .bool false) <|
        .field (.optional "nsxtCaFile" .text) <|
        .field (.defaulted "nsxtRemoteAuth" .bool false) <|
        .field (.optional "vmcAuthHost" .text) <| .field (.required "tier0GatewayName" .text) <|
        .field (.required "edgeClusterName" .text) <|
        .field (.required "transportZoneName" .text) <|
        .field (.required "snatIpPoolName" .text) <| .field (.items "dnsServers" .text) .nil)
      (.append Placement.record (.field (.items "zones" Zone.codec) .nil)))
    (fun ((name, host, insecure, caFile, remoteAuth, authHost,
        tier0GatewayName, edgeClusterName, transportZoneName, snatIpPoolName, dnsServers, ()),
        placement, zones, ()) =>
      { name, host, insecure, caFile, remoteAuth, authHost,
        tier0GatewayName, edgeClusterName, transportZoneName, snatIpPoolName, dnsServers,
        placement, zones })
    fun r => ((r.name, r.host, r.insecure, r.caFile, r.remoteAuth,
      r.authHost, r.tier0GatewayName, r.edgeClusterName, r.transportZoneName,
      r.snatIpPoolName, r.dnsServers, ()), r.placement, r.zones, ())

/-- The codec of regions. -/
def Region.codec : Codec Region := Region.record.objectCodec

/-- How settings of the wait are written. -/
def RealizationSettings.record : Record RealizationSettings :=
  .iso
    (.field (.required "initialIntervalMs" (.natBelow UInt64.size)) <|
      .field (.required "maxIntervalMs" (.natBelow UInt64.size)) <|
      .field (.required "timeoutSeconds" (.natBelow UInt64.size)) .nil)
    (fun (initialIntervalMs, maxIntervalMs, timeoutSeconds, ()) =>
      { initialIntervalMs, maxIntervalMs, timeoutSeconds })
    fun s => (s.initialIntervalMs, s.maxIntervalMs, s.timeoutSeconds, ())

/-- How settings of load balancers are written. -/
def LoadBalancerSettings.record : Record LoadBalancerSettings :=
  .iso (.field (.required "clusterTagScope" .text) .nil)
    (fun (clusterTagScope, ()) => { clusterTagScope })
    fun s => (s.clusterTagScope, ())

/-- How the configuration is written. -/
def ControllerConfig.record : Record ControllerConfig :=
  .iso
    (.field (.required "regions" (.list Region.codec)) <|
      .field (.defaulted "recoveryEnabled" .bool false) <|
      .field (.defaulted "apiRetries" (.natBelow UInt32.size) 3) <|
      .field (.defaulted "realization" RealizationSettings.record.codec {}) <|
      .field (.defaulted "loadBalancer" LoadBalancerSettings.record.codec {}) .nil)
    (fun (regions, recoveryEnabled, apiRetries, realization, loadBalancer, ()) =>
      { regions, recoveryEnabled, apiRetries, realization, loadBalancer })
    fun c => (c.regions, c.recoveryEnabled, c.apiRetries, c.realization, c.loadBalancer, ())

/-- The codec of configurations. -/
def ControllerConfig.codec : Codec ControllerConfig := ControllerConfig.record.codec

end Config

end ClusterNet
