import ClusterNet.Actuator.Status
import ClusterNet.Cluster.Spec
import ClusterNet.Proofs.ControlPlane.Wire
import ClusterNet.Proofs.Store.Memory

/-!
# Everything is read as it is written

The types of all values that are written, to the store, over the wire or to the publisher, are the
types of one family, so that one theorem speaks of them all. A text is read back as the value it
was written for, and so two values that are written alike are the same: no text stands both for a
missing member and for an empty one.

What is published has a map in it, which is read back only if its entries are in the order of their
names.

## Main definitions

* `WrittenType` — the types of what is written, with their values, their codecs and their texts

## Main results

* `WrittenType.reads_text` — a text is read back as the value it was written for
-/

namespace ClusterNet

/-! ### What is asked for and what is published -/

namespace Cluster

theorem lawful_spec : Spec.codec.Lawful := by
  apply Record.lawful_iso fun _ => rfl
  repeat' first | exact Record.reads_nil | apply Record.Reads.field
  all_goals simp

end Cluster

namespace Actuator

theorem lawful_zonePlacement : ZonePlacement.codec.Lawful := by
  apply Record.lawful_iso fun _ => rfl
  repeat' first | exact Record.reads_nil | apply Record.Reads.field
  all_goals simp

/-- A status is read back if its zones are in order. -/
theorem keeps_status {s : Status} (h : s.zones.IsSorted) : Status.codec.Keeps s := by
  have hzones := Field.keeps_defaulted (lawful_zonePlacement.keeps_map h) "zoneConfig" .empty
  have hstate := Field.lawful_required Store.lawful_state "nsxt" s.state
  have hrecord : Status.record.Keeps ["nsxt", "zoneConfig"] s := by
    refine .iso ?_ rfl
    refine .field ?_ hstate (by simp)
    exact .field (Record.reads_nil ()) hzones List.not_mem_nil
  exact hrecord.codec

end Actuator

/-! ### All types together -/

open ControlPlane

/-- The types of what is written. -/
inductive WrittenType where
  /-- What is known of a cluster's objects. -/
  | state
  /-- What is asked for. -/
  | spec
  /-- What is published. -/
  | status
  /-- Tags. -/
  | tag
  /-- Pages of tags. -/
  | tags
  /-- Pages of named objects. -/
  | namedObjects
  /-- Versions of control planes. -/
  | nodeVersion
  /-- Named objects. -/
  | namedObject
  /-- The objects of a kind. -/
  | object (kind : Kind)
  /-- Realized entities. -/
  | realizedEntity
  /-- Logical switches. -/
  | logicalSwitch
deriving DecidableEq, Repr

namespace WrittenType

/-- The values of a type. -/
@[reducible] def Value : WrittenType → Type
  | state => Cluster.State
  | spec => Cluster.Spec
  | status => Actuator.Status
  | tag => Tag
  | tags => Page Tag
  | namedObjects => Page PolicyObject
  | nodeVersion => NodeVersion
  | namedObject => PolicyObject
  | object kind => kind.Object
  | realizedEntity => RealizedEntity
  | logicalSwitch => LogicalSwitch

/-- The codec of a type. -/
def codec : (w : WrittenType) → Codec w.Value
  | state => Cluster.State.codec
  | spec => Cluster.Spec.codec
  | status => Actuator.Status.codec
  | tag => Tag.codec
  | tags => Page.codec Tag.codec
  | namedObjects => Page.codec PolicyObject.codec
  | nodeVersion => NodeVersion.codec
  | namedObject => PolicyObject.codec
  | object kind => kind.codec
  | realizedEntity => RealizedEntity.codec
  | logicalSwitch => LogicalSwitch.codec

/-- The text of a value. -/
def text (w : WrittenType) (v : w.Value) : String := (w.codec.encode v).compact

/-- The value that a text stands for. -/
def ofText? (w : WrittenType) (s : String) : Option w.Value := (Json.parse s).bind w.codec.decode

/-- Values whose maps have their entries in order. Only what is published has a map in it. -/
def InOrder : (w : WrittenType) → w.Value → Prop
  | status, s => s.zones.IsSorted
  | _, _ => True

/-- Every value in order is kept by its codec. -/
theorem keeps : ∀ {w : WrittenType} {v : w.Value}, w.InOrder v → w.codec.Keeps v
  | state, s, _ => Store.lawful_state s
  | spec, s, _ => Cluster.lawful_spec s
  | status, _, h => Actuator.keeps_status h
  | tag, t, _ => lawful_tag t
  | tags, p, _ => lawful_page lawful_tag p
  | namedObjects, p, _ => lawful_page lawful_namedObject p
  | nodeVersion, v, _ => lawful_nodeVersion v
  | namedObject, o, _ => lawful_namedObject o
  | object kind, o, _ => lawful_kind kind o
  | realizedEntity, e, _ => lawful_realizedEntity e
  | logicalSwitch, s, _ => lawful_logicalSwitch s

/-- **A text is read back as the value it was written for**, and no other value has that text. -/
theorem reads_text (w : WrittenType) {v : w.Value} (h : w.InOrder v) :
    w.ofText? (w.text v) = some v ∧
      ∀ v' : w.Value, w.InOrder v' → w.text v' = w.text v → v' = v :=
  ⟨(keeps h).parse_compact, fun _ h' heq => (keeps h').eq_of_compact_eq (keeps h) heq⟩

/-- A status with a text that needs escapes, an empty text beside missing ones, and two zones. -/
def quotedStatus : Actuator.Status where
  state := { Cluster.State.fresh with
    segmentName := some "\"Zürich\"\n\\workers"
    snatIpAddress := some "" }
  zones := (OrderedMap.empty.insert "zone-b" { datacenter := "dc" }).insert "zone-a"
    { datacenter := "", datastore := some "" }

theorem reads_text_quotedStatus :
    InOrder .status quotedStatus ∧
      ofText? .status (text .status quotedStatus) = some quotedStatus ∧
        ∀ s : Actuator.Status, InOrder .status s →
          text .status s = text .status quotedStatus → s = quotedStatus := by
  have horder : InOrder .status quotedStatus :=
    (OrderedMap.isSorted_empty.insert _ _).insert _ _
  exact ⟨horder, reads_text .status horder⟩

end WrittenType

end ClusterNet
