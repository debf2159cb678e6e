import ClusterNet.Json.Codec
import ClusterNet.ControlPlane.Manager
import ClusterNet.ControlPlane.Policy

/-!
# How objects are written

The JSON form of every object of a control plane: its members' names in order, and which of them
are left out when they have no value.
-/

namespace ClusterNet

namespace ControlPlane

/-- How a tag is written. -/
def Tag.record : Record Tag :=
  .iso
    (.field (.defaulted "scope" .text "") <| .field (.defaulted "tag" .text "") .nil)
    (fun (scope, value, ()) => { scope, value })
    fun x => (x.scope, x.value, ())

/-- The codec of tags. -/
def Tag.codec : Codec Tag := Tag.record.codec

/-! ### Objects of the policy interface -/

/-- How a named object is written. -/
def PolicyObject.record : Record PolicyObject :=
  .iso
    (.field (.required "id" .text) <| .field (.required "path" .text) <|
      .field (.optional "display_name" .text) <| .field (.itemsIfAny "tags" Tag.codec) .nil)
    (fun (id, path, displayName, tags, ()) =>
      { id, path, displayName, tags })
    fun x => (x.id, x.path, x.displayName, x.tags, ())

/-- The codec of named objects. -/
def PolicyObject.codec : Codec PolicyObject := PolicyObject.record.codec

/-- How a tier-1 gateway is written. -/
def Tier1.record : Record Tier1 :=
  .iso
    (.field (.optional "id" .text) <| .field (.optional "path" .text) <|
      .field (.optional "display_name" .text) <| .field (.optional "description" .text) <|
      .field (.optional "tier0_path" .text) <| .field (.optional "failover_mode" .text) <|
      .field (.optional "pool_allocation" .text) <|
      .field (.items "route_advertisement_types" .text) <| .field (.items "tags" Tag.codec) .nil)
    (fun (id, path, displayName, description,
        tier0Path, failoverMode, poolAllocation, routeAdvertisementTypes, tags, ()) =>
      { id, path, displayName, description,
        tier0Path, failoverMode, poolAllocation, routeAdvertisementTypes, tags })
    fun x => (x.id, x.path, x.displayName, x.description,
      x.tier0Path, x.failoverMode, x.poolAllocation, x.routeAdvertisementTypes, x.tags, ())

/-- The codec of tier-1 gateways. -/
def Tier1.codec : Codec Tier1 := Tier1.record.codec

/-- How a locale service is written. -/
def LocaleService.record : Record LocaleService :=
  .iso
    (.field (.optional "id" .text) <| .field (.optional "path" .text) <|
      .field (.optional "display_name" .text) <| .field (.optional "edge_cluster_path" .text) <|
      .field (.items "tags" Tag.codec) .nil)
    (fun (id, path, displayName, edgeClusterPath, tags, ()) =>
      { id, path, displayName, edgeClusterPath, tags })
    fun x => (x.id, x.path, x.displayName, x.edgeClusterPath, x.tags, ())

/-- The codec of locale services. -/
def LocaleService.codec : Codec LocaleService := LocaleService.record.codec

/-- How a subnet's DHCP settings is written. -/
def SegmentDhcpConfig.record : Record SegmentDhcpConfig :=
  .iso
    (.field (.required "resource_type" .text) <| .field (.optional "server_address" .text) <|
      .field (.optional "lease_time" .int64) <| .field (.itemsIfAny "dns_servers" .text) .nil)
    (fun (resourceType, serverAddress, leaseTime, dnsServers, ()) =>
      { resourceType, serverAddress, leaseTime, dnsServers })
    fun x => (x.resourceType, x.serverAddress, x.leaseTime, x.dnsServers, ())

/-- The codec of DHCP settings of subnets. -/
def SegmentDhcpConfig.codec : Codec SegmentDhcpConfig := SegmentDhcpConfig.record.codec

/-- How a subnet is written. -/
def SegmentSubnet.record : Record SegmentSubnet :=
  .iso
    (.field (.optional "gateway_address" .text) <| .field (.itemsIfAny "dhcp_ranges" .text) <|
      .field (.optional "dhcp_config" SegmentDhcpConfig.codec) .nil)
    (fun (gatewayAddress, dhcpRanges, dhcpConfig, ()) =>
      { gatewayAddress, dhcpRanges, dhcpConfig })
    fun x => (x.gatewayAddress, x.dhcpRanges, x.dhcpConfig, ())

/-- The codec of subnets. -/
def SegmentSubnet.codec : Codec SegmentSubnet := SegmentSubnet.record.codec

/-- How a segment is written. -/
def Segment.record : Record Segment :=
  .iso
    (.field (.optional "id" .text) <| .field (.optional "path" .text) <|
      .field (.optional "display_name" .text) <| .field (.optional "connectivity_path" .text) <|
      .field (.optional "transport_zone_path" .text) <|
      .field (.optional "dhcp_config_path" .text) <|
      .field (.items "subnets" SegmentSubnet.codec) <| .field (.items "tags" Tag.codec) .nil)
    (fun (id, path, displayName, connectivityPath,
        transportZonePath, dhcpConfigPath, subnets, tags, ()) =>
      { id, path, displayName, connectivityPath,
        transportZonePath, dhcpConfigPath, subnets, tags })
    fun x => (x.id, x.path, x.displayName, x.connectivityPath,
      x.transportZonePath, x.dhcpConfigPath, x.subnets, x.tags, ())

/-- The codec of segments. -/
def Segment.codec : Codec Segment := Segment.record.codec

/-- How an allocated address is written. -/
def IpAllocation.record : Record IpAllocation :=
  .iso
    (.field (.optional "id" .text) <| .field (.optional "path" .text) <|
      .field (.optional "display_name" .text) <| .field (.optional "allocation_ip" .text) <|
      .field (.items "tags" Tag.codec) .nil)
    (fun (id, path, displayName, allocationIp, tags, ()) =>
      { id, path, displayName, allocationIp, tags })
    fun x => (x.id, x.path, x.displayName, x.allocationIp, x.tags, ())

/-- The codec of allocated addresses. -/
def IpAllocation.codec : Codec IpAllocation := IpAllocation.record.codec

/-- How a NAT rule is written. -/
def NatRule.record : Record NatRule :=
  .iso
    (.field (.optional "id" .text) <| .field (.optional "path" .text) <|
      .field (.optional "display_name" .text) <| .field (.optional "action" .text) <|
      .field (.optional "source_network" .text) <|
      .field (.optional "translated_network" .text) <|
      .field (.optional "sequence_number" .int64) <| .field (.optional "enabled" .bool) <|
      .field (.optional "logging" .bool) <| .field (.optional "firewall_match" .text) <|
      .field (.items "tags" Tag.codec) .nil)
    (fun (id, path, displayName, action, sourceNetwork,
        translatedNetwork, sequenceNumber, enabled, logging, firewallMatch, tags, ()) =>
      { id, path, displayName, action, sourceNetwork,
        translatedNetwork, sequenceNumber, enabled, logging, firewallMatch, tags })
    fun x => (x.id, x.path, x.displayName, x.action, x.sourceNetwork,
      x.translatedNetwork, x.sequenceNumber, x.enabled, x.logging, x.firewallMatch, x.tags, ())

/-- The codec of NAT rules. -/
def NatRule.codec : Codec NatRule := NatRule.record.codec

/-- How a DHCP server configuration is written. -/
def DhcpServerConfig.record : Record DhcpServerConfig :=
  .iso
    (.field (.optional "id" .text) <| .field (.optional "path" .text) <|
      .field (.optional "display_name" .text) <| .field (.optional "edge_cluster_path" .text) <|
      .field (.itemsIfAny "server_addresses" .text) <| .field (.optional "lease_time" .int64) <|
      .field (.items "tags" Tag.codec) .nil)
    (fun (id, path, displayName, edgeClusterPath, serverAddresses, leaseTime, tags, ()) =>
      { id, path, displayName, edgeClusterPath, serverAddresses, leaseTime, tags })
    fun x => (x.id, x.path, x.displayName,
      x.edgeClusterPath, x.serverAddresses, x.leaseTime, x.tags, ())

/-- The codec of DHCP server configurations. -/
def DhcpServerConfig.codec : Codec DhcpServerConfig := DhcpServerConfig.record.codec

/-- How an attribute is written. -/
def AttributeValue.record : Record AttributeValue :=
  .iso
    (.field (.required "key" .text) <| .field (.items "values" .text) .nil)
    (fun (key, values, ()) =>
      { key, values })
    fun x => (x.key, x.values, ())

/-- The codec of attributes. -/
def AttributeValue.codec : Codec AttributeValue := AttributeValue.record.codec

/-- How a realized entity is written. -/
def RealizedEntity.record : Record RealizedEntity :=
  .iso
    (.field (.optional "entity_type" .text) <| .field (.optional "state" .text) <|
      .field (.items "extended_attributes" AttributeValue.codec) .nil)
    (fun (entityType, state, extendedAttributes, ()) =>
      { entityType, state, extendedAttributes })
    fun x => (x.entityType, x.state, x.extendedAttributes, ())

/-- The codec of realized entities. -/
def RealizedEntity.codec : Codec RealizedEntity := RealizedEntity.record.codec

/-! ### Objects of the manager interface -/

/-- How a logical switch is written. -/
def LogicalSwitch.record : Record LogicalSwitch :=
  .iso
    (.field (.required "id" .text) <| .field (.optional "display_name" .text) <|
      .field (.items "tags" Tag.codec) .nil)
    (fun (id, displayName, tags, ()) =>
      { id, displayName, tags })
    fun x => (x.id, x.displayName, x.tags, ())

/-- The codec of logical switches. -/
def LogicalSwitch.codec : Codec LogicalSwitch := LogicalSwitch.record.codec

/-- How a DHCP profile is written. -/
def DhcpProfile.record : Record DhcpProfile :=
  .iso
    (.field (.optional "id" .text) <| .field (.optional "display_name" .text) <|
      .field (.optional "edge_cluster_id" .text) <| .field (.items "tags" Tag.codec) <|
      .field (.optional "_revision" .int64) .nil)
    (fun (id, displayName, edgeClusterId, tags, revision, ()) =>
      { id, displayName, edgeClusterId, tags, revision })
    fun x => (x.id, x.displayName, x.edgeClusterId, x.tags, x.revision, ())

/-- The codec of DHCP profiles. -/
def DhcpProfile.codec : Codec DhcpProfile := DhcpProfile.record.codec

/-- How a DHCP server's addresses is written. -/
def Ipv4DhcpServer.record : Record Ipv4DhcpServer :=
  .iso
    (.field (.optional "dhcp_server_ip" .text) <| .field (.optional "gateway_ip" .text) <|
      .field (.itemsIfAny "dns_nameservers" .text) .nil)
    (fun (dhcpServerIp, gatewayIp, dnsNameservers, ()) =>
      { dhcpServerIp, gatewayIp, dnsNameservers })
    fun x => (x.dhcpServerIp, x.gatewayIp, x.dnsNameservers, ())

/-- The codec of the addresses of DHCP servers. -/
def Ipv4DhcpServer.codec : Codec Ipv4DhcpServer := Ipv4DhcpServer.record.codec

/-- How a logical DHCP server is written. -/
def DhcpServer.record : Record DhcpServer :=
  .iso
    (.field (.optional "id" .text) <| .field (.optional "display_name" .text) <|
      .field (.optional "dhcp_profile_id" .text) <|
      .field (.optional "ipv4_dhcp_server" Ipv4DhcpServer.codec) <|
      .field (.items "tags" Tag.codec) <| .field (.optional "_revision" .int64) .nil)
    (fun (id, displayName, dhcpProfileId, ipv4, tags, revision, ()) =>
      { id, displayName, dhcpProfileId, ipv4, tags, revision })
    fun x => (x.id, x.displayName, x.dhcpProfileId, x.ipv4, x.tags, x.revision, ())

/-- The codec of logical DHCP servers. -/
def DhcpServer.codec : Codec DhcpServer := DhcpServer.record.codec

/-- How what is attached to a port is written. -/
def PortAttachment.record : Record PortAttachment :=
  .iso
    (.field (.required "attachment_type" .text) <| .field (.required "id" .text) .nil)
    (fun (attachmentType, id, ()) =>
      { attachmentType, id })
    fun x => (x.attachmentType, x.id, ())

/-- The codec of attachments. -/
def PortAttachment.codec : Codec PortAttachment := PortAttachment.record.codec

/-- How a logical port is written. -/
def LogicalPort.record : Record LogicalPort :=
  .iso
    (.field (.optional "id" .text) <| .field (.optional "display_name" .text) <|
      .field (.optional "logical_switch_id" .text) <| .field (.optional "admin_state" .text) <|
      .field (.optional "attachment" PortAttachment.codec) <| .field (.items "tags" Tag.codec) <|
      .field (.optional "_revision" .int64) .nil)
    (fun (id, displayName, logicalSwitchId, adminState, attachment, tags, revision, ()) =>
      { id, displayName, logicalSwitchId, adminState, attachment, tags, revision })
    fun x => (x.id, x.displayName, x.logicalSwitchId,
      x.adminState, x.attachment, x.tags, x.revision, ())

/-- The codec of logical ports. -/
def LogicalPort.codec : Codec LogicalPort := LogicalPort.record.codec

/-- How a range of addresses is written. -/
def AddressRange.record : Record AddressRange :=
  .iso
    (.field (.required "start" .text) <| .field (.required "end" .text) .nil)
    (fun (first, last, ()) =>
      { first, last })
    fun x => (x.first, x.last, ())

/-- The codec of ranges of addresses. -/
def AddressRange.codec : Codec AddressRange := AddressRange.record.codec

/-- How a pool of addresses is written. -/
def DhcpIpPool.record : Record DhcpIpPool :=
  .iso
    (.field (.optional "id" .text) <| .field (.optional "display_name" .text) <|
      .field (.items "allocation_ranges" AddressRange.codec) <|
      .field (.optional "gateway_ip" .text) <| .field (.optional "lease_time" .int64) <|
      .field (.items "tags" Tag.codec) <| .field (.optional "_revision" .int64) .nil)
    (fun (id, displayName, allocationRanges, gatewayIp, leaseTime, tags, revision, ()) =>
      { id, displayName, allocationRanges, gatewayIp, leaseTime, tags, revision })
    fun x => (x.id, x.displayName, x.allocationRanges,
      x.gatewayIp, x.leaseTime, x.tags, x.revision, ())

/-- The codec of pools of addresses. -/
def DhcpIpPool.codec : Codec DhcpIpPool := DhcpIpPool.record.codec

end ControlPlane

end ClusterNet
