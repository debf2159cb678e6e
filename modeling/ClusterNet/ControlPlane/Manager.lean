import ClusterNet.ControlPlane.Tag

/-!
# Objects of the manager interface

The objects that a control plane creates on request and gives an id. Each carries a revision, and
an update has to name the revision that it was made for.

## Main definitions

* `ControlPlane.LogicalSwitch` — an object that is only looked up;
* `ControlPlane.DhcpProfile`, `DhcpServer`, `LogicalPort`, `DhcpIpPool` — the objects of a cluster.
-/

namespace ClusterNet

namespace ControlPlane

/-- A logical switch. -/
structure LogicalSwitch where
  /-- Its id. -/
  id : String := ""
  /-- Its display name. -/
  displayName : Option String := none
  /-- Its tags. -/
  tags : List Tag := []
deriving DecidableEq, Repr, Inhabited

/-- A DHCP server profile. -/
structure DhcpProfile where
  /-- Its id. -/
  id : Option String := none
  /-- Its display name. -/
  displayName : Option String := none
  /-- The edge cluster that servers run on. -/
  edgeClusterId : Option String := none
  /-- Its tags. -/
  tags : List Tag := []
  /-- How often it has been updated. -/
  revision : Option Int64 := none
deriving DecidableEq, Repr, Inhabited

/-- The addresses of a logical DHCP server. -/
structure Ipv4DhcpServer where
  /-- Its address, with its leading bits. -/
  dhcpServerIp : Option String := none
  /-- The address of the gateway. -/
  gatewayIp : Option String := none
  /-- The DNS servers handed out. -/
  dnsNameservers : List String := []
deriving DecidableEq, Repr, Inhabited

/-- A logical DHCP server. -/
structure DhcpServer where
  /-- Its id. -/
  id : Option String := none
  /-- Its display name. -/
  displayName : Option String := none
  /-- Its profile. -/
  dhcpProfileId : Option String := none
  /-- Its addresses. -/
  ipv4 : Option Ipv4DhcpServer := none
  /-- Its tags. -/
  tags : List Tag := []
  /-- How often it has been updated. -/
  revision : Option Int64 := none
deriving DecidableEq, Repr, Inhabited

/-- What is attached to a logical port. -/
structure PortAttachment where
  /-- What kind of thing it is. -/
  attachmentType : String := ""
  /-- Its id. -/
  id : String := ""
deriving DecidableEq, Repr, Inhabited

/-- A port of a logical switch. -/
structure LogicalPort where
  /-- Its id. -/
  id : Option String := none
  /-- Its display name. -/
  displayName : Option String := none
  /-- The switch it belongs to. -/
  logicalSwitchId : Option String := none
  /-- Whether it is meant to be in use. -/
  adminState : Option String := none
  /-- What is attached to it. -/
  attachment : Option PortAttachment := none
  /-- Its tags. -/
  tags : List Tag := []
  /-- How often it has been updated. -/
  revision : Option Int64 := none
deriving DecidableEq, Repr, Inhabited

/-- A range of addresses. -/
structure AddressRange where
  /-- The first address. -/
  first : String := ""
  /-- The last address. -/
  last : String := ""
deriving DecidableEq, Repr, Inhabited

/-- The addresses that a logical DHCP server hands out. -/
structure DhcpIpPool where
  /-- Its id. -/
  id : Option String := none
  /-- Its display name. -/
  displayName : Option String := none
  /-- The ranges it hands out. -/
  allocationRanges : List AddressRange := []
  /-- The address of the gateway. -/
  gatewayIp : Option String := none
  /-- The length of a lease in seconds. -/
  leaseTime : Option Int64 := none
  /-- Its tags. -/
  tags : List Tag := []
  /-- How often it has been updated. -/
  revision : Option Int64 := none
deriving DecidableEq, Repr, Inhabited

end ControlPlane

end ClusterNet
