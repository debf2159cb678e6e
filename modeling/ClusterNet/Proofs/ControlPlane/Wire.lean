import ClusterNet.ControlPlane.Generation
import ClusterNet.ControlPlane.Kind
import ClusterNet.ControlPlane.Page
import ClusterNet.Proofs.Json.Codec

/-!
# Objects are read as they are written

Every object that goes over the wire is read back from what is written for it. An object is a
record, so each proof names the law of records and leaves the fields to `simp`: that a field keeps
its values and that its name is not the name of a later one. Objects within objects come first. A
field that may be missing needs more than the law of its object: that nothing is written as
`null`, which stands for the missing value.

## Main results

* `ControlPlane.lawful_kind` — the objects of every kind
* `ControlPlane.lawful_page` — the pages of a listing, if its items are read back
* `ControlPlane.lawful_namedObject`, `ControlPlane.lawful_realizedEntity`,
  `ControlPlane.lawful_logicalSwitch`, `ControlPlane.lawful_nodeVersion` — what is only read
-/

namespace ClusterNet

namespace ControlPlane

@[simp] theorem lawful_tag : Tag.codec.Lawful := by
  apply Record.lawful_iso fun _ => rfl
  repeat' first | exact Record.reads_nil | apply Record.Reads.field
  all_goals simp

/-! ### Objects of the policy interface -/

@[simp] theorem lawful_namedObject : PolicyObject.codec.Lawful := by
  apply Record.lawful_iso fun _ => rfl
  repeat' first | exact Record.reads_nil | apply Record.Reads.field
  all_goals simp

@[simp] theorem lawful_tier1 : Tier1.codec.Lawful := by
  apply Record.lawful_iso fun _ => rfl
  repeat' first | exact Record.reads_nil | apply Record.Reads.field
  all_goals simp

@[simp] theorem lawful_localeService : LocaleService.codec.Lawful := by
  apply Record.lawful_iso fun _ => rfl
  repeat' first | exact Record.reads_nil | apply Record.Reads.field
  all_goals simp

@[simp] theorem lawful_segmentDhcpConfig : SegmentDhcpConfig.codec.Lawful := by
  apply Record.lawful_iso fun _ => rfl
  repeat' first | exact Record.reads_nil | apply Record.Reads.field
  all_goals simp

@[simp] theorem solid_segmentDhcpConfig : SegmentDhcpConfig.codec.Solid := Record.solid_codec _

@[simp] theorem lawful_segmentSubnet : SegmentSubnet.codec.Lawful := by
  apply Record.lawful_iso fun _ => rfl
  repeat' first | exact Record.reads_nil | apply Record.Reads.field
  all_goals simp

@[simp] theorem lawful_segment : Segment.codec.Lawful := by
  apply Record.lawful_iso fun _ => rfl
  repeat' first | exact Record.reads_nil | apply Record.Reads.field
  all_goals simp

@[simp] theorem lawful_ipAllocation : IpAllocation.codec.Lawful := by
  apply Record.lawful_iso fun _ => rfl
  repeat' first | exact Record.reads_nil | apply Record.Reads.field
  all_goals simp

@[simp] theorem lawful_natRule : NatRule.codec.Lawful := by
  apply Record.lawful_iso fun _ => rfl
  repeat' first | exact Record.reads_nil | apply Record.Reads.field
  all_goals simp

@[simp] theorem lawful_dhcpServerConfig : DhcpServerConfig.codec.Lawful := by
  apply Record.lawful_iso fun _ => rfl
  repeat' first | exact Record.reads_nil | apply Record.Reads.field
  all_goals simp

@[simp] theorem lawful_attributeValue : AttributeValue.codec.Lawful := by
  apply Record.lawful_iso fun _ => rfl
  repeat' first | exact Record.reads_nil | apply Record.Reads.field
  all_goals simp

@[simp] theorem lawful_realizedEntity : RealizedEntity.codec.Lawful := by
  apply Record.lawful_iso fun _ => rfl
  repeat' first | exact Record.reads_nil | apply Record.Reads.field
  all_goals simp

/-! ### Objects of the manager interface -/

@[simp] theorem lawful_logicalSwitch : LogicalSwitch.codec.Lawful := by
  apply Record.lawful_iso fun _ => rfl
  repeat' first | exact Record.reads_nil | apply Record.Reads.field
  all_goals simp

@[simp] theorem lawful_dhcpProfile : DhcpProfile.codec.Lawful := by
  apply Record.lawful_iso fun _ => rfl
  repeat' first | exact Record.reads_nil | apply Record.Reads.field
  all_goals simp

@[simp] theorem lawful_ipv4DhcpServer : Ipv4DhcpServer.codec.Lawful := by
  apply Record.lawful_iso fun _ => rfl
  repeat' first | exact Record.reads_nil | apply Record.Reads.field
  all_goals simp

@[simp] theorem solid_ipv4DhcpServer : Ipv4DhcpServer.codec.Solid := Record.solid_codec _

@[simp] theorem lawful_dhcpServer : DhcpServer.codec.Lawful := by
  apply Record.lawful_iso fun _ => rfl
  repeat' first | exact Record.reads_nil | apply Record.Reads.field
  all_goals simp

@[simp] theorem lawful_portAttachment : PortAttachment.codec.Lawful := by
  apply Record.lawful_iso fun _ => rfl
  repeat' first | exact Record.reads_nil | apply Record.Reads.field
  all_goals simp

@[simp] theorem solid_portAttachment : PortAttachment.codec.Solid := Record.solid_codec _

@[simp] theorem lawful_logicalPort : LogicalPort.codec.Lawful := by
  apply Record.lawful_iso fun _ => rfl
  repeat' first | exact Record.reads_nil | apply Record.Reads.field
  all_goals simp

@[simp] theorem lawful_addressRange : AddressRange.codec.Lawful := by
  apply Record.lawful_iso fun _ => rfl
  repeat' first | exact Record.reads_nil | apply Record.Reads.field
  all_goals simp

@[simp] theorem lawful_dhcpIpPool : DhcpIpPool.codec.Lawful := by
  apply Record.lawful_iso fun _ => rfl
  repeat' first | exact Record.reads_nil | apply Record.Reads.field
  all_goals simp

/-! ### Versions and listings -/

@[simp] theorem lawful_nodeVersion : NodeVersion.codec.Lawful := by
  apply Record.lawful_iso fun _ => rfl
  repeat' first | exact Record.reads_nil | apply Record.Reads.field
  all_goals simp

/-- Pages are read back if their items are. -/
theorem lawful_page {α : Type} {c : Codec α} (h : c.Lawful) : (Page.codec c).Lawful := by
  apply Record.lawful_iso fun _ => rfl
  repeat' first | exact Record.reads_nil | apply Record.Reads.field
  all_goals simp [h]

/-! ### Kinds -/

/-- **The objects of every kind are read as they are written.** -/
theorem lawful_kind : ∀ k : Kind, k.codec.Lawful
  | .policy .tier1 => lawful_tier1
  | .policy .localeService => lawful_localeService
  | .policy .segment => lawful_segment
  | .policy .ipAllocation => lawful_ipAllocation
  | .policy .natRule => lawful_natRule
  | .policy .dhcpServerConfig => lawful_dhcpServerConfig
  | .manager .dhcpProfile => lawful_dhcpProfile
  | .manager .dhcpServer => lawful_dhcpServer
  | .manager .logicalPort => lawful_logicalPort
  | .manager .dhcpIpPool => lawful_dhcpIpPool

end ControlPlane

end ClusterNet
