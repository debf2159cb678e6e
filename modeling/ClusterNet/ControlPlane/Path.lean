import ClusterNet.ControlPlane.Policy

/-!
# Paths

Where objects live. The path of a policy object is what other objects refer to it by; manager
objects are addressed by the path of the resource.

## Main definitions

* `ControlPlane.Path.tier1`, `Path.segment`, … — the path of each kind of object;
* `ControlPlane.Path.idOf` — the id of the object at a path;
* `ControlPlane.Path.tier1IdOf?` — the tier-1 gateway that a path lies under.
-/

namespace ClusterNet

namespace ControlPlane

namespace Path

/-- Where transport zones and edge clusters are found. -/
def enforcementPoint : String := "/infra/sites/default/enforcement-points/default"

/-- The section of a gateway's NAT rules that is open to users. -/
def natSection : String := "USER"

/-- The tier-0 gateways. -/
def tier0s : String := "/infra/tier-0s"

/-- What the path of a tier-1 gateway starts with. -/
def tier1Start : String := "/infra/tier-1s/"

/-- A tier-1 gateway. -/
def tier1 (id : String) : String := tier1Start ++ id

/-- A locale service of a gateway. -/
def localeService (tier1Id id : String) : String := s!"{tier1 tier1Id}/locale-services/{id}"

/-- A segment of a gateway. -/
def segment (tier1Id id : String) : String := s!"{tier1 tier1Id}/segments/{id}"

/-- The transport zones. -/
def transportZones : String := s!"{enforcementPoint}/transport-zones"

/-- The edge clusters. -/
def edgeClusters : String := s!"{enforcementPoint}/edge-clusters"

/-- The pools of addresses. -/
def ipPools : String := "/infra/ip-pools"

/-- An address allocated from a pool. -/
def ipAllocation (poolId id : String) : String := s!"{ipPools}/{poolId}/ip-allocations/{id}"

/-- A NAT rule of a gateway. -/
def natRule (tier1Id id : String) : String := s!"{tier1 tier1Id}/nat/{natSection}/nat-rules/{id}"

/-- A DHCP server configuration. -/
def dhcpServerConfig (id : String) : String := s!"/infra/dhcp-server-configs/{id}"

/-- The load-balancer objects of a kind. -/
def balancerObjects (kind : BalancerKind) : String := s!"/infra/{kind.collection}"

/-- A load-balancer object. -/
def balancerObject (kind : BalancerKind) (id : String) : String := s!"{balancerObjects kind}/{id}"

/-- A DHCP profile. -/
def dhcpProfile (id : String) : String := s!"/api/v1/dhcp/server-profiles/{id}"

/-- A logical DHCP server. -/
def dhcpServer (id : String) : String := s!"/api/v1/dhcp/servers/{id}"

/-- A pool of a logical DHCP server. -/
def dhcpIpPool (serverId id : String) : String := s!"{dhcpServer serverId}/ip-pools/{id}"

/-- A logical port. -/
def logicalPort (id : String) : String := s!"/api/v1/logical-ports/{id}"

/-- A logical switch. -/
def logicalSwitch (id : String) : String := s!"/api/v1/logical-switches/{id}"

/-! ### Reading paths -/

/-- Whether the character separates the parts of a path. -/
def isSeparator (c : Char) : Bool := c == '/'

/-- The part of a path behind its last separator, which is the object's id. -/
def idOf (path : String) : String :=
  String.ofList (path.toList.reverse.takeWhile fun c => !isSeparator c).reverse

/-- The id of the tier-1 gateway that a path leads to or lies under. -/
def tier1IdOf? (path : String) : Option String :=
  let start := tier1Start.toList
  if start.isPrefixOf path.toList then
    let id := (path.toList.drop start.length).takeWhile fun c => !isSeparator c
    if id.isEmpty then none else some (String.ofList id)
  else none

end Path

end ControlPlane

end ClusterNet
