import ClusterNet.Cluster.Spec
import ClusterNet.ControlPlane.Kind
import ClusterNet.Pipeline.Context
import ClusterNet.Text.Order

/-!
# How objects should be

For each kind of object that a cluster has: how its object should be, what it takes to say so, and
which deviations matter.

## Main definitions

* `Pipeline.label`, `Pipeline.slot` — the name of the kind's task and the slot of its reference;
* `Pipeline.draft` — the object that it belongs to and how it should be;
* `Pipeline.agrees` — whether an object is as it should be in all that matters.
-/

namespace ClusterNet

namespace Pipeline

open Cluster (InfraError Reference Slot Spec State)
open ControlPlane
open Network (AddressPlan Cidr)

/-- The name of the task that looks after a kind of object. -/
def label : Kind → String
  | .policy .tier1 => "tier1-gateway"
  | .policy .localeService => "locale-service"
  | .policy .segment => "segment"
  | .policy .ipAllocation => "snat-ip-allocation"
  | .policy .natRule => "snat-rule"
  | .policy .dhcpServerConfig => "dhcp-server-config"
  | .manager .dhcpProfile => "dhcp-profile"
  | .manager .dhcpServer => "dhcp-server"
  | .manager .logicalPort => "dhcp-port"
  | .manager .dhcpIpPool => "dhcp-ip-pool"

/-- The slot of the reference to an object of a kind. -/
def slot : Kind → Slot
  | .policy .tier1 => .tier1Gateway
  | .policy .localeService => .localeService
  | .policy .segment => .segment
  | .policy .ipAllocation => .snatIpAllocation
  | .policy .natRule => .snatRule
  | .policy .dhcpServerConfig => .dhcpServerConfig
  | .manager .dhcpProfile => .dhcpProfile
  | .manager .dhcpServer => .dhcpServer
  | .manager .logicalPort => .dhcpPort
  | .manager .dhcpIpPool => .dhcpIpPool

/-- What messages call the reference in a slot. -/
def dependencyName : Slot → String
  | .tier0Gateway => "tier-0 gateway"
  | .edgeCluster => "edge cluster"
  | .transportZone => "transport zone"
  | .snatIpPool => "SNAT IP pool"
  | .tier1Gateway => "tier-1 gateway"
  | .localeService => "locale service"
  | .dhcpServerConfig => "DHCP server config"
  | .segment => "segment"
  | .snatIpAllocation => "SNAT IP allocation"
  | .snatRule => "SNAT rule"
  | .logicalSwitch => "logical switch"
  | .dhcpProfile => "DHCP profile"
  | .dhcpServer => "DHCP server"
  | .dhcpPort => "DHCP port"
  | .dhcpIpPool => "DHCP IP pool"

/-- The reference that an earlier task must have left in a slot. -/
def require (task : String) (s : State) (slot : Slot) : Except InfraError Reference :=
  match s.reference slot with
  | some r => .ok r
  | none => .error (.missingDependency task (dependencyName slot))

/-! ### The objects -/

/-- The kinds of routes that a gateway advertises. -/
def routeAdvertisementTypes : List String :=
  ["TIER1_CONNECTED", "TIER1_NAT", "TIER1_STATIC_ROUTES"]

/-- The length of a lease in seconds. -/
def leaseTime : Int64 := 7200

/-- The tier-1 gateway of a cluster. -/
def tier1 (identity : ClusterIdentity) (spec : Spec) (tier0 : Reference) : Tier1 where
  displayName := some spec.objectName
  description := some s!"Tier-1 gateway of cluster {spec.clusterName}"
  tier0Path := some tier0.path
  failoverMode := some "PREEMPTIVE"
  poolAllocation := some "ROUTING"
  routeAdvertisementTypes := routeAdvertisementTypes
  tags := identity.tags

/-- The locale service of a cluster's gateway. -/
def localeService (identity : ClusterIdentity) (spec : Spec) (edgeCluster : Reference) :
    LocaleService where
  displayName := some spec.objectName
  edgeClusterPath := some edgeCluster.path
  tags := identity.tags

/-- The DHCP server configuration of a cluster. -/
def dhcpServerConfig (identity : ClusterIdentity) (spec : Spec) (edgeCluster : Reference)
    (plan : AddressPlan) : DhcpServerConfig where
  displayName := some spec.objectName
  edgeClusterPath := some edgeCluster.path
  serverAddresses := [plan.dhcpServerCidr]
  leaseTime := some leaseTime
  tags := identity.tags

/-- The subnet of a cluster's segment. It has DHCP settings if a DHCP server configuration serves
it. -/
def subnet (spec : Spec) (dhcp : Option Reference) (plan : AddressPlan) : SegmentSubnet where
  gatewayAddress := some plan.gatewayCidr
  dhcpRanges := if dhcp.isSome then [plan.dhcpRange] else []
  dhcpConfig := dhcp.map fun _ => {
    resourceType := "SegmentDhcpV4Config"
    serverAddress := some plan.dhcpServerCidr
    leaseTime := some leaseTime
    dnsServers := spec.dnsServers }

/-- The segment of a cluster. -/
def segment (identity : ClusterIdentity) (spec : Spec) (tier1 transportZone : Reference)
    (dhcp : Option Reference) (plan : AddressPlan) : Segment where
  displayName := some spec.segmentName
  connectivityPath := some tier1.path
  transportZonePath := some transportZone.path
  dhcpConfigPath := dhcp.map (·.path)
  subnets := [subnet spec dhcp plan]
  tags := identity.tags

/-- The allocation of a cluster's outward address. The pool chooses the address. -/
def ipAllocation (identity : ClusterIdentity) (spec : Spec) : IpAllocation where
  displayName := some spec.objectName
  tags := identity.tags

/-- The rule that gives a cluster's outward traffic its address. -/
def natRule (identity : ClusterIdentity) (spec : Spec) (workers : Cidr) (address : String) :
    NatRule where
  displayName := some spec.objectName
  action := some "SNAT"
  sourceNetwork := some workers.text
  translatedNetwork := some address
  sequenceNumber := some 100
  enabled := some true
  logging := some false
  firewallMatch := some "MATCH_INTERNAL_ADDRESS"
  tags := identity.tags

/-- The DHCP profile of a cluster. -/
def dhcpProfile (identity : ClusterIdentity) (spec : Spec) (edgeCluster : Reference) :
    DhcpProfile where
  displayName := some spec.objectName
  edgeClusterId := some edgeCluster.id
  tags := identity.tags

/-- The logical DHCP server of a cluster. -/
def dhcpServer (identity : ClusterIdentity) (spec : Spec) (profile : Reference)
    (plan : AddressPlan) : DhcpServer where
  displayName := some spec.objectName
  dhcpProfileId := some profile.id
  ipv4 := some {
    dhcpServerIp := some plan.dhcpServerCidr
    gatewayIp := some plan.gateway.text
    dnsNameservers := spec.dnsServers }
  tags := identity.tags

/-- The port between a cluster's logical switch and its DHCP server. -/
def dhcpPort (identity : ClusterIdentity) (spec : Spec) (switch server : Reference) :
    LogicalPort where
  displayName := some spec.objectName
  logicalSwitchId := some switch.id
  adminState := some "UP"
  attachment := some { attachmentType := "DHCP_SERVICE", id := server.id }
  tags := identity.tags

/-- The addresses that a cluster's DHCP server hands out. -/
def dhcpIpPool (identity : ClusterIdentity) (spec : Spec) (plan : AddressPlan) : DhcpIpPool where
  displayName := some spec.objectName
  allocationRanges := [{ first := plan.dhcpRangeStart.text, last := plan.dhcpRangeEnd.text }]
  gatewayIp := some plan.gateway.text
  leaseTime := some leaseTime
  tags := identity.tags

/-! ### Drafts -/

/-- An object as it should be, and the id of the object that it belongs to. -/
abbrev Draft (k : Kind) := String × k.Object

/-- The draft of an object that belongs to no other. -/
def topLevel {α : Type} (object : α) : String × α := ("", object)

/-- The network of a cluster's workers. -/
def workersNetwork (spec : Spec) : Except InfraError Cidr :=
  (Cidr.parse spec.workersNetwork).mapError fun e => .cidr e.message

/-- The outward address that an earlier task must have found. -/
def requireAddress (task : String) (s : State) : Except InfraError String :=
  match s.snatIpAddress with
  | some address => .ok address
  | none => .error (.missingDependency task "realized SNAT IP address")

/-- How the object of a kind should be, given what is known. What is missing is reported in the
order in which it is needed. -/
def draft (identity : ClusterIdentity) (spec : Spec) (s : State) (k : Kind) :
    Except InfraError (Draft k) :=
  let require := require (label k) s
  match k with
  | .policy .tier1 => do
    return topLevel (tier1 identity spec (← require .tier0Gateway))
  | .policy .localeService => do
    let edgeCluster ← require .edgeCluster
    return ((← require .tier1Gateway).id, localeService identity spec edgeCluster)
  | .policy .dhcpServerConfig => do
    let edgeCluster ← require .edgeCluster
    return topLevel (dhcpServerConfig identity spec edgeCluster (← spec.addressPlan))
  | .policy .segment => do
    let gateway ← require .tier1Gateway
    let transportZone ← require .transportZone
    let plan ← spec.addressPlan
    return (gateway.id, segment identity spec gateway transportZone s.dhcpServerConfig plan)
  | .policy .ipAllocation => do
    return ((← require .snatIpPool).id, ipAllocation identity spec)
  | .policy .natRule => do
    let address ← requireAddress (label (.policy .natRule)) s
    let workers ← workersNetwork spec
    return ((← require .tier1Gateway).id, natRule identity spec workers address)
  | .manager .dhcpProfile => do
    return topLevel (dhcpProfile identity spec (← require .edgeCluster))
  | .manager .dhcpServer => do
    let profile ← require .dhcpProfile
    return topLevel (dhcpServer identity spec profile (← spec.addressPlan))
  | .manager .logicalPort => do
    let switch ← require .logicalSwitch
    return topLevel (dhcpPort identity spec switch (← require .dhcpServer))
  | .manager .dhcpIpPool => do
    let server ← require .dhcpServer
    return (server.id, dhcpIpPool identity spec (← spec.addressPlan))

/-! ### Deviations -/

/-- Whether an object is as it should be in all that matters. The order of tags and of advertised
routes does not matter, nor does what the control plane decides. -/
def agrees (k : Kind) (current desired : k.Object) : Bool :=
  match k, current, desired with
  | .policy .tier1, c, d =>
    c.displayName == d.displayName && c.description == d.description &&
      c.tier0Path == d.tier0Path && c.failoverMode == d.failoverMode &&
      c.poolAllocation == d.poolAllocation &&
      Text.sorted c.routeAdvertisementTypes == Text.sorted d.routeAdvertisementTypes &&
      sameTags c.tags d.tags
  | .policy .localeService, c, d =>
    c.displayName == d.displayName && c.edgeClusterPath == d.edgeClusterPath &&
      sameTags c.tags d.tags
  | .policy .dhcpServerConfig, c, d =>
    c.displayName == d.displayName && c.edgeClusterPath == d.edgeClusterPath &&
      c.serverAddresses == d.serverAddresses && c.leaseTime == d.leaseTime &&
      sameTags c.tags d.tags
  | .policy .segment, c, d =>
    c.displayName == d.displayName && c.connectivityPath == d.connectivityPath &&
      c.transportZonePath == d.transportZonePath && c.dhcpConfigPath == d.dhcpConfigPath &&
      c.subnets == d.subnets && sameTags c.tags d.tags
  | .policy .ipAllocation, c, d => c.displayName == d.displayName && sameTags c.tags d.tags
  | .policy .natRule, c, d =>
    c.displayName == d.displayName && c.action == d.action &&
      c.sourceNetwork == d.sourceNetwork && c.translatedNetwork == d.translatedNetwork &&
      c.sequenceNumber == d.sequenceNumber && c.enabled == d.enabled && c.logging == d.logging &&
      c.firewallMatch == d.firewallMatch && sameTags c.tags d.tags
  | .manager .dhcpProfile, c, d =>
    c.displayName == d.displayName && c.edgeClusterId == d.edgeClusterId &&
      sameTags c.tags d.tags
  | .manager .dhcpServer, c, d =>
    c.displayName == d.displayName && c.dhcpProfileId == d.dhcpProfileId && c.ipv4 == d.ipv4 &&
      sameTags c.tags d.tags
  | .manager .logicalPort, c, d =>
    c.displayName == d.displayName && c.logicalSwitchId == d.logicalSwitchId &&
      c.adminState == d.adminState && c.attachment == d.attachment && sameTags c.tags d.tags
  | .manager .dhcpIpPool, c, d =>
    c.displayName == d.displayName && c.allocationRanges == d.allocationRanges &&
      c.gatewayIp == d.gatewayIp && c.leaseTime == d.leaseTime && sameTags c.tags d.tags

end Pipeline

end ClusterNet
