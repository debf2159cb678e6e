import ClusterNet.Network.Cidr

/-!
# Address plans

Which addresses of a cluster's network are set aside for what.

## Main definitions

* `Network.AddressPlan` — the network and its fixed addresses;
* `Network.AddressPlan.ofCidr` — the plan of a network: the gateway comes first, the DHCP server
  second, and DHCP hands out the addresses from the tenth to the last but one.
-/

namespace ClusterNet

namespace Network

/-- The fixed addresses of a cluster's network. -/
structure AddressPlan where
  /-- The network. -/
  network : Cidr
  /-- The address of the gateway. -/
  gateway : Address
  /-- The address of the DHCP server. -/
  dhcpServer : Address
  /-- The first address that DHCP hands out. -/
  dhcpRangeStart : Address
  /-- The last address that DHCP hands out. -/
  dhcpRangeEnd : Address
deriving DecidableEq, Repr

namespace AddressPlan

/-- The index of the gateway. -/
def gatewayIndex : Int := 1

/-- The index of the DHCP server. -/
def dhcpServerIndex : Int := 2

/-- The index of the first address that DHCP hands out. -/
def dhcpRangeStartIndex : Int := 10

/-- The index of the last address that DHCP hands out. -/
def dhcpRangeEndIndex : Int := -2

/-- The plan of a network, if there is anything that DHCP can hand out. -/
def ofNetwork (network : Cidr) : Except CidrError AddressPlan := do
  let plan := {
    network
    gateway := ← network.address gatewayIndex
    dhcpServer := ← network.address dhcpServerIndex
    dhcpRangeStart := ← network.address dhcpRangeStartIndex
    dhcpRangeEnd := ← network.address dhcpRangeEndIndex }
  if plan.dhcpRangeEnd < plan.dhcpRangeStart then .error (.tooSmall network.text)
  else return plan

/-- The plan of the network that a text denotes. -/
def ofCidr (cidr : String) : Except CidrError AddressPlan := do
  ofNetwork (← Cidr.parse cidr)

/-- An address of the network together with the network's leading bits. -/
def withLength (p : AddressPlan) (a : Address) : String := s!"{a.text}/{p.network.length}"

/-- The gateway with the network's leading bits. -/
def gatewayCidr (p : AddressPlan) : String := p.withLength p.gateway

/-- The DHCP server with the network's leading bits. -/
def dhcpServerCidr (p : AddressPlan) : String := p.withLength p.dhcpServer

/-- The addresses that DHCP hands out, as the first and the last. -/
def dhcpRange (p : AddressPlan) : String := s!"{p.dhcpRangeStart.text}-{p.dhcpRangeEnd.text}"

end AddressPlan

end Network

end ClusterNet
