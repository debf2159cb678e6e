import ClusterNet.ControlPlane.Path
import ClusterNet.ControlPlane.Wire

/-!
# Kinds of objects

## Main definitions

* `ControlPlane.Catalog` — the listings of objects that exist before any cluster;
* `ControlPlane.PolicyKind` — the kinds of objects that are declared under a given id;
* `ControlPlane.ManagerKind` — the kinds of objects that are created and given an id;
* `ControlPlane.Kind` — both together;
* `ControlPlane.Place` — where an object of a kind is.
-/

namespace ClusterNet

namespace ControlPlane

/-- The listings of objects that exist before any cluster. -/
inductive Catalog where
  /-- The tier-0 gateways. -/
  | tier0s
  /-- The transport zones. -/
  | transportZones
  /-- The edge clusters. -/
  | edgeClusters
  /-- The pools of addresses. -/
  | ipPools
deriving DecidableEq, Repr, Inhabited

namespace Catalog

/-- All catalogs. -/
def all : List Catalog := [tier0s, transportZones, edgeClusters, ipPools]

/-- The catalog's name. -/
def name : Catalog → String
  | tier0s => "tier0s"
  | transportZones => "transport_zones"
  | edgeClusters => "edge_clusters"
  | ipPools => "ip_pools"

/-- Where the objects of a catalog lie. -/
def path : Catalog → String
  | tier0s => Path.tier0s
  | transportZones => Path.transportZones
  | edgeClusters => Path.edgeClusters
  | ipPools => Path.ipPools

end Catalog

/-- The kinds of objects that are declared under a given id. -/
inductive PolicyKind where
  /-- Tier-1 gateways. -/
  | tier1
  /-- Locale services of tier-1 gateways. -/
  | localeService
  /-- Segments of tier-1 gateways. -/
  | segment
  /-- Addresses allocated from a pool. -/
  | ipAllocation
  /-- NAT rules of tier-1 gateways. -/
  | natRule
  /-- DHCP server configurations. -/
  | dhcpServerConfig
deriving DecidableEq, Repr, Inhabited

/-- The kinds of objects that are created and given an id. -/
inductive ManagerKind where
  /-- DHCP profiles. -/
  | dhcpProfile
  /-- Logical DHCP servers. -/
  | dhcpServer
  /-- Logical ports. -/
  | logicalPort
  /-- Pools of logical DHCP servers. -/
  | dhcpIpPool
deriving DecidableEq, Repr, Inhabited

/-- The kinds of objects that a cluster has. -/
inductive Kind where
  /-- A kind of declared objects. -/
  | policy (kind : PolicyKind)
  /-- A kind of created objects. -/
  | manager (kind : ManagerKind)
deriving DecidableEq, Repr, Inhabited

/-- The objects of a kind. -/
@[reducible] def PolicyKind.Object : PolicyKind → Type
  | tier1 => Tier1
  | localeService => LocaleService
  | segment => Segment
  | ipAllocation => IpAllocation
  | natRule => NatRule
  | dhcpServerConfig => DhcpServerConfig

/-- The objects of a kind. -/
@[reducible] def ManagerKind.Object : ManagerKind → Type
  | dhcpProfile => DhcpProfile
  | dhcpServer => DhcpServer
  | logicalPort => LogicalPort
  | dhcpIpPool => DhcpIpPool

/-- The objects of a kind. -/
@[reducible] def Kind.Object : Kind → Type
  | policy k => k.Object
  | manager k => k.Object

/-- Where an object is: its id, and the id of the object it belongs to. The latter is empty for
kinds whose objects belong to no other. -/
structure Place where
  /-- The id of the object it belongs to. -/
  parent : String
  /-- Its own id. -/
  id : String
deriving DecidableEq, Repr, Inhabited

/-- Places are ordered by the object they belong to, then by their own id. -/
instance : KeyOrder Place where
  isBefore a b := KeyOrder.isBefore (a.parent, a.id) (b.parent, b.id)

namespace PolicyKind

/-- All kinds. -/
def all : List PolicyKind :=
  [tier1, localeService, segment, ipAllocation, natRule, dhcpServerConfig]

/-- The kind's name. -/
def name : PolicyKind → String
  | tier1 => "tier1"
  | localeService => "locale_service"
  | segment => "segment"
  | ipAllocation => "ip_allocation"
  | natRule => "nat_rule"
  | dhcpServerConfig => "dhcp_server_config"

/-- Whether objects of the kind belong to a tier-1 gateway. -/
def isOfTier1 : PolicyKind → Bool
  | localeService | segment | natRule => true
  | _ => false

/-- Whether objects of the kind belong to another object. -/
def isNested : PolicyKind → Bool
  | tier1 | dhcpServerConfig => false
  | _ => true

/-- The path of an object. -/
def path (k : PolicyKind) (place : Place) : String :=
  match k with
  | tier1 => Path.tier1 place.id
  | localeService => Path.localeService place.parent place.id
  | segment => Path.segment place.parent place.id
  | ipAllocation => Path.ipAllocation place.parent place.id
  | natRule => Path.natRule place.parent place.id
  | dhcpServerConfig => Path.dhcpServerConfig place.id

/-- The codec of the kind's objects. -/
def codec : (k : PolicyKind) → Codec k.Object
  | tier1 => Tier1.codec
  | localeService => LocaleService.codec
  | segment => Segment.codec
  | ipAllocation => IpAllocation.codec
  | natRule => NatRule.codec
  | dhcpServerConfig => DhcpServerConfig.codec

/-- The object as it is stored under an id and a path. -/
def stamped (k : PolicyKind) (id path : String) (o : k.Object) : k.Object :=
  match k, o with
  | tier1, o => { o with id := some id, path := some path }
  | localeService, o => { o with id := some id, path := some path }
  | segment, o => { o with id := some id, path := some path }
  | ipAllocation, o => { o with id := some id, path := some path }
  | natRule, o => { o with id := some id, path := some path }
  | dhcpServerConfig, o => { o with id := some id, path := some path }

end PolicyKind

namespace ManagerKind

/-- All kinds. -/
def all : List ManagerKind := [dhcpProfile, dhcpServer, logicalPort, dhcpIpPool]

/-- The kind's name. -/
def name : ManagerKind → String
  | dhcpProfile => "dhcp_profile"
  | dhcpServer => "dhcp_server"
  | logicalPort => "logical_port"
  | dhcpIpPool => "dhcp_ip_pool"

/-- Whether objects of the kind belong to another object. -/
def isNested : ManagerKind → Bool
  | dhcpIpPool => true
  | _ => false

/-- The path of an object. -/
def path (k : ManagerKind) (place : Place) : String :=
  match k with
  | dhcpProfile => Path.dhcpProfile place.id
  | dhcpServer => Path.dhcpServer place.id
  | logicalPort => Path.logicalPort place.id
  | dhcpIpPool => Path.dhcpIpPool place.parent place.id

/-- The codec of the kind's objects. -/
def codec : (k : ManagerKind) → Codec k.Object
  | dhcpProfile => DhcpProfile.codec
  | dhcpServer => DhcpServer.codec
  | logicalPort => LogicalPort.codec
  | dhcpIpPool => DhcpIpPool.codec

/-- The id of an object. -/
def id? (k : ManagerKind) (o : k.Object) : Option String :=
  match k, o with
  | dhcpProfile, o => o.id
  | dhcpServer, o => o.id
  | logicalPort, o => o.id
  | dhcpIpPool, o => o.id

/-- The tags of an object. -/
def tags (k : ManagerKind) (o : k.Object) : List Tag :=
  match k, o with
  | dhcpProfile, o => o.tags
  | dhcpServer, o => o.tags
  | logicalPort, o => o.tags
  | dhcpIpPool, o => o.tags

/-- The revision of an object. -/
def revision? (k : ManagerKind) (o : k.Object) : Option Int64 :=
  match k, o with
  | dhcpProfile, o => o.revision
  | dhcpServer, o => o.revision
  | logicalPort, o => o.revision
  | dhcpIpPool, o => o.revision

/-- The object with another revision. -/
def withRevision (k : ManagerKind) (revision : Option Int64) (o : k.Object) : k.Object :=
  match k, o with
  | dhcpProfile, o => { o with revision }
  | dhcpServer, o => { o with revision }
  | logicalPort, o => { o with revision }
  | dhcpIpPool, o => { o with revision }

/-- The object as it is stored under an id. -/
def stamped (k : ManagerKind) (id : String) (o : k.Object) : k.Object :=
  match k, o with
  | dhcpProfile, o => { o with id := some id }
  | dhcpServer, o => { o with id := some id }
  | logicalPort, o => { o with id := some id }
  | dhcpIpPool, o => { o with id := some id }

end ManagerKind

namespace Kind

/-- The kind's name. -/
def name : Kind → String
  | policy k => k.name
  | manager k => k.name

/-- All kinds. -/
def all : List Kind := PolicyKind.all.map policy ++ ManagerKind.all.map manager

/-- Whether objects of the kind belong to another object. -/
def isNested : Kind → Bool
  | policy k => k.isNested
  | manager k => k.isNested

/-- The path of an object. -/
def path : Kind → Place → String
  | policy k, place => k.path place
  | manager k, place => k.path place

/-- The codec of the kind's objects. -/
def codec : (k : Kind) → Codec k.Object
  | policy k => k.codec
  | manager k => k.codec

end Kind

end ControlPlane

end ClusterNet
