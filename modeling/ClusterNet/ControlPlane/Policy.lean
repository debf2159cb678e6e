import ClusterNet.ControlPlane.Tag

/-!
# Objects of the policy interface

The objects that are declared to a control plane: each is written under a path, as it should be.

## Main definitions

* `ControlPlane.PolicyObject` — an object that is only looked up;
* `ControlPlane.Tier1`, `LocaleService`, `Segment`, `IpAllocation`, `NatRule`, `DhcpServerConfig` —
  the objects of a cluster;
* `ControlPlane.RealizedEntity` — what has become of an object in the network;
* `ControlPlane.BalancerKind` — the kinds of load-balancer objects.
-/

namespace ClusterNet

namespace ControlPlane

/-- An object that exists before any cluster and is found by its display name. -/
structure PolicyObject where
  /-- Its id. -/
  id : String := ""
  /-- Its path. -/
  path : String := ""
  /-- Its display name. -/
  displayName : Option String := none
  /-- Its tags. -/
  tags : List Tag := []
deriving DecidableEq, Repr, Inhabited

/-- A tier-1 gateway. -/
structure Tier1 where
  /-- Its id. -/
  id : Option String := none
  /-- Its path. -/
  path : Option String := none
  /-- Its display name. -/
  displayName : Option String := none
  /-- What it is for. -/
  description : Option String := none
  /-- The tier-0 gateway it is connected to. -/
  tier0Path : Option String := none
  /-- Which of its two instances takes over again after a failure. -/
  failoverMode : Option String := none
  /-- The size of the edge nodes it is given. -/
  poolAllocation : Option String := none
  /-- The kinds of routes it advertises. -/
  routeAdvertisementTypes : List String := []
  /-- Its tags. -/
  tags : List Tag := []
deriving DecidableEq, Repr, Inhabited

/-- The binding of a tier-1 gateway to an edge cluster. -/
structure LocaleService where
  /-- Its id. -/
  id : Option String := none
  /-- Its path. -/
  path : Option String := none
  /-- Its display name. -/
  displayName : Option String := none
  /-- The edge cluster. -/
  edgeClusterPath : Option String := none
  /-- Its tags. -/
  tags : List Tag := []
deriving DecidableEq, Repr, Inhabited

/-- How DHCP works in a subnet. -/
structure SegmentDhcpConfig where
  /-- The name of this kind of settings. -/
  resourceType : String := ""
  /-- The address of the DHCP server. -/
  serverAddress : Option String := none
  /-- The length of a lease in seconds. -/
  leaseTime : Option Int64 := none
  /-- The DNS servers handed out. -/
  dnsServers : List String := []
deriving DecidableEq, Repr, Inhabited

/-- A subnet of a segment. -/
structure SegmentSubnet where
  /-- The address of its gateway, with its leading bits. -/
  gatewayAddress : Option String := none
  /-- The addresses that DHCP hands out. -/
  dhcpRanges : List String := []
  /-- How DHCP works in it. -/
  dhcpConfig : Option SegmentDhcpConfig := none
deriving DecidableEq, Repr, Inhabited

/-- A segment attached to a tier-1 gateway. -/
structure Segment where
  /-- Its id. -/
  id : Option String := none
  /-- Its path. -/
  path : Option String := none
  /-- Its display name. -/
  displayName : Option String := none
  /-- The gateway it is attached to. -/
  connectivityPath : Option String := none
  /-- The transport zone it spans. -/
  transportZonePath : Option String := none
  /-- The DHCP server configuration it uses. -/
  dhcpConfigPath : Option String := none
  /-- Its subnets. -/
  subnets : List SegmentSubnet := []
  /-- Its tags. -/
  tags : List Tag := []
deriving DecidableEq, Repr, Inhabited

/-- An address allocated from a pool. -/
structure IpAllocation where
  /-- Its id. -/
  id : Option String := none
  /-- Its path. -/
  path : Option String := none
  /-- Its display name. -/
  displayName : Option String := none
  /-- The address asked for; without it the pool chooses. -/
  allocationIp : Option String := none
  /-- Its tags. -/
  tags : List Tag := []
deriving DecidableEq, Repr, Inhabited

/-- A rule that translates addresses at a tier-1 gateway. -/
structure NatRule where
  /-- Its id. -/
  id : Option String := none
  /-- Its path. -/
  path : Option String := none
  /-- Its display name. -/
  displayName : Option String := none
  /-- What it translates. -/
  action : Option String := none
  /-- The network whose traffic it applies to. -/
  sourceNetwork : Option String := none
  /-- The address that takes the place of the sender's. -/
  translatedNetwork : Option String := none
  /-- Its place among the gateway's rules. -/
  sequenceNumber : Option Int64 := none
  /-- Whether it is in force. -/
  enabled : Option Bool := none
  /-- Whether its use is logged. -/
  logging : Option Bool := none
  /-- The address that the firewall sees. -/
  firewallMatch : Option String := none
  /-- Its tags. -/
  tags : List Tag := []
deriving DecidableEq, Repr, Inhabited

/-- A DHCP server configuration. -/
structure DhcpServerConfig where
  /-- Its id. -/
  id : Option String := none
  /-- Its path. -/
  path : Option String := none
  /-- Its display name. -/
  displayName : Option String := none
  /-- The edge cluster it runs on. -/
  edgeClusterPath : Option String := none
  /-- Its addresses. -/
  serverAddresses : List String := []
  /-- The length of a lease in seconds. -/
  leaseTime : Option Int64 := none
  /-- Its tags. -/
  tags : List Tag := []
deriving DecidableEq, Repr, Inhabited

/-- A named attribute with its values. -/
structure AttributeValue where
  /-- Its name. -/
  key : String := ""
  /-- Its values. -/
  values : List String := []
deriving DecidableEq, Repr, Inhabited

/-- What has become of an object in the network. -/
structure RealizedEntity where
  /-- What kind of thing it has become. -/
  entityType : Option String := none
  /-- How far it has come. -/
  state : Option String := none
  /-- Its attributes. -/
  extendedAttributes : List AttributeValue := []
deriving DecidableEq, Repr, Inhabited

/-- The first value of an attribute, the first one of that name. -/
def RealizedEntity.attribute (e : RealizedEntity) (key : String) : Option String :=
  (e.extendedAttributes.find? fun a => a.key == key).bind fun a => a.values.head?

/-- The kinds of load-balancer objects. -/
inductive BalancerKind where
  /-- What clients connect to. -/
  | virtualServer
  /-- Where connections are handed on to. -/
  | pool
  /-- What virtual servers run on. -/
  | service
deriving DecidableEq, Repr, Inhabited

/-- The collection that holds the objects of a kind. -/
def BalancerKind.collection : BalancerKind → String
  | virtualServer => "lb-virtual-servers"
  | pool => "lb-pools"
  | service => "lb-services"

end ControlPlane

end ClusterNet
