import ClusterNet.Proofs.ControlPlane.Path

/-!
# What paths lead to

The ids of an object stand in its path between parts that are fixed for its kind. These fixed parts
tell the kinds apart, so a path leads back to the kind and to all ids, and can stand for the object:
control planes keep addresses by the paths of their allocations, and an object is removed from the
gateway that its path names.

That no id separates parts is needed: `t1/segments/s1` as the id of a gateway makes the path of the
segment `s1` of the gateway `t1`.

## Main definitions

* `Path.Target` — what a path leads to, with its `path`, its `id` and its gateway's id
* `Path.Target.parts`, `Path.Target.ofParts?` — the parts of its path, and what parts lead to

## Main results

* `Path.Target.IsProper.parts_path` — the parts of the path to a target
* `Path.Target.path_identifies` — a path leads to one target, and its ids are read from it
-/

namespace ClusterNet

namespace ControlPlane

namespace Path

/-- What a path leads to. -/
inductive Target where
  /-- A tier-1 gateway. -/
  | tier1 (id : String)
  /-- A locale service of a gateway. -/
  | localeService (tier1Id id : String)
  /-- A segment of a gateway. -/
  | segment (tier1Id id : String)
  /-- An address allocated from a pool. -/
  | ipAllocation (poolId id : String)
  /-- A NAT rule of a gateway. -/
  | natRule (tier1Id id : String)
  /-- A DHCP server configuration. -/
  | dhcpServerConfig (id : String)
  /-- A DHCP profile. -/
  | dhcpProfile (id : String)
  /-- A logical DHCP server. -/
  | dhcpServer (id : String)
  /-- A pool of a logical DHCP server. -/
  | dhcpIpPool (serverId id : String)
  /-- A logical port. -/
  | logicalPort (id : String)
  /-- A logical switch. -/
  | logicalSwitch (id : String)
deriving DecidableEq, Repr, Inhabited

namespace Target

variable {t a b : Target}

/-- The path that leads to a target. -/
def path : Target → String
  | tier1 id => Path.tier1 id
  | localeService tier1Id id => Path.localeService tier1Id id
  | segment tier1Id id => Path.segment tier1Id id
  | ipAllocation poolId id => Path.ipAllocation poolId id
  | natRule tier1Id id => Path.natRule tier1Id id
  | dhcpServerConfig id => Path.dhcpServerConfig id
  | dhcpProfile id => Path.dhcpProfile id
  | dhcpServer id => Path.dhcpServer id
  | dhcpIpPool serverId id => Path.dhcpIpPool serverId id
  | logicalPort id => Path.logicalPort id
  | logicalSwitch id => Path.logicalSwitch id

/-- All ids that a path is made of. -/
def ids : Target → List String
  | localeService owner id | segment owner id | ipAllocation owner id | natRule owner id
  | dhcpIpPool owner id => [owner, id]
  | tier1 id | dhcpServerConfig id | dhcpProfile id | dhcpServer id | logicalPort id
  | logicalSwitch id => [id]

/-- The target's own id. -/
def id : Target → String
  | localeService _ id | segment _ id | ipAllocation _ id | natRule _ id | dhcpIpPool _ id
  | tier1 id | dhcpServerConfig id | dhcpProfile id | dhcpServer id | logicalPort id
  | logicalSwitch id => id

/-- The id of the tier-1 gateway that a target is or belongs to. -/
def tier1Id? : Target → Option String
  | tier1 id | localeService id _ | segment id _ | natRule id _ => some id
  | _ => none

/-- All ids can be part of a path. -/
def IsProper (t : Target) : Prop := ∀ id ∈ t.ids, IsId id

/-- The parts of the path that leads to a target. -/
def parts : Target → List String
  | tier1 id => ["", "infra", "tier-1s", id]
  | localeService tier1Id id => ["", "infra", "tier-1s", tier1Id, "locale-services", id]
  | segment tier1Id id => ["", "infra", "tier-1s", tier1Id, "segments", id]
  | ipAllocation poolId id => ["", "infra", "ip-pools", poolId, "ip-allocations", id]
  | natRule tier1Id id => ["", "infra", "tier-1s", tier1Id, "nat", "USER", "nat-rules", id]
  | dhcpServerConfig id => ["", "infra", "dhcp-server-configs", id]
  | dhcpProfile id => ["", "api", "v1", "dhcp", "server-profiles", id]
  | dhcpServer id => ["", "api", "v1", "dhcp", "servers", id]
  | dhcpIpPool serverId id => ["", "api", "v1", "dhcp", "servers", serverId, "ip-pools", id]
  | logicalPort id => ["", "api", "v1", "logical-ports", id]
  | logicalSwitch id => ["", "api", "v1", "logical-switches", id]

/-- The target of the path with the given parts. -/
def ofParts? : List String → Option Target
  | ["", "infra", "tier-1s", id] => some (tier1 id)
  | ["", "infra", "tier-1s", tier1Id, "locale-services", id] => some (localeService tier1Id id)
  | ["", "infra", "tier-1s", tier1Id, "segments", id] => some (segment tier1Id id)
  | ["", "infra", "ip-pools", poolId, "ip-allocations", id] => some (ipAllocation poolId id)
  | ["", "infra", "tier-1s", tier1Id, "nat", "USER", "nat-rules", id] => some (natRule tier1Id id)
  | ["", "infra", "dhcp-server-configs", id] => some (dhcpServerConfig id)
  | ["", "api", "v1", "dhcp", "server-profiles", id] => some (dhcpProfile id)
  | ["", "api", "v1", "dhcp", "servers", id] => some (dhcpServer id)
  | ["", "api", "v1", "dhcp", "servers", serverId, "ip-pools", id] => some (dhcpIpPool serverId id)
  | ["", "api", "v1", "logical-ports", id] => some (logicalPort id)
  | ["", "api", "v1", "logical-switches", id] => some (logicalSwitch id)
  | _ => none

/-- The fixed parts of a path tell the kinds of targets apart. -/
theorem ofParts?_parts (t : Target) : ofParts? t.parts = some t := by
  cases t <;> rfl

theorem parts_injective (h : a.parts = b.parts) : a = b := by
  have hread := congrArg ofParts? h
  rw [ofParts?_parts, ofParts?_parts] at hread
  exact Option.some.inj hread

theorem getLast?_parts (t : Target) : t.parts.getLast? = some t.id := by
  cases t <;> rfl

theorem tier1Id?_eq_some_iff {id : String} : t.tier1Id? = some id ↔
    ∃ rest, t.parts = "" :: "infra" :: "tier-1s" :: id :: rest := by
  cases t <;> simp [tier1Id?, parts]

theorem mem_ids_of_tier1Id? {id : String} (h : t.tier1Id? = some id) : id ∈ t.ids := by
  cases t <;> simp_all [tier1Id?, ids]

/-! ### Targets by their paths -/

/-- What stands between two ids is a part of its own. -/
theorem append_between (owner part id : String) {middle : String}
    (hmiddle : middle = "/" ++ part ++ "/") :
    owner ++ middle ++ id = owner ++ "/" ++ part ++ "/" ++ id := by
  rw [hmiddle, ← String.append_assoc, ← String.append_assoc]

theorem path_eq_intercalate (t : Target) : t.path = "/".intercalate t.parts := by
  cases t with
  | tier1 id | dhcpServerConfig id | dhcpProfile id | dhcpServer id | logicalPort id
  | logicalSwitch id => rfl
  | localeService owner id => exact append_between (Path.tier1 owner) "locale-services" id rfl
  | segment owner id => exact append_between (Path.tier1 owner) "segments" id rfl
  | ipAllocation owner id => exact append_between (ipPools ++ "/" ++ owner) "ip-allocations" id rfl
  | dhcpIpPool owner id => exact append_between (Path.dhcpServer owner) "ip-pools" id rfl
  | natRule owner id =>
    have hsection : Path.tier1 owner ++ "/nat/" ++ natSection =
        Path.tier1 owner ++ "/" ++ "nat" ++ "/" ++ natSection :=
      append_between (Path.tier1 owner) "nat" natSection rfl
    refine (append_between (Path.tier1 owner ++ "/nat/" ++ natSection) "nat-rules" id rfl).trans ?_
    rw [hsection]
    rfl

/-- The parts of paths that are no ids. -/
def fixedParts : List String :=
  ["", "infra", "tier-1s", "locale-services", "segments", "ip-pools", "ip-allocations", "nat",
    "USER", "nat-rules", "dhcp-server-configs", "api", "v1", "dhcp", "server-profiles", "servers",
    "logical-ports", "logical-switches"]

theorem mem_parts (t : Target) : ∀ part ∈ t.parts, part ∈ t.ids ∨ part ∈ fixedParts := by
  cases t <;> simp [parts, ids, fixedParts]

theorem isPlain_of_mem_fixedParts : ∀ part ∈ fixedParts, IsPlain part := by
  have hall : fixedParts.all (fun part => part.toList.all fun c => !isSeparator c) = true := by
    decide +kernel
  intro part hpart c hc
  simpa using List.all_eq_true.mp (List.all_eq_true.mp hall part hpart) c hc

/-- **The parts of the path to a target** are its ids among the fixed parts. -/
theorem IsProper.parts_path (h : t.IsProper) : Path.parts t.path = t.parts := by
  have hne : t.parts ≠ [] := fun hnil => by
    have hlast := t.getLast?_parts
    rw [hnil] at hlast
    exact nomatch hlast
  rw [path_eq_intercalate]
  refine parts_intercalate hne fun part hpart => ?_
  rcases t.mem_parts part hpart with hid | hfixed
  · exact (h part hid).isPlain
  · exact isPlain_of_mem_fixedParts part hfixed

theorem IsProper.eq_of_path_eq (ha : a.IsProper) (hb : b.IsProper) (h : a.path = b.path) :
    a = b := by
  refine parts_injective ?_
  rw [← ha.parts_path, ← hb.parts_path, h]

theorem IsProper.idOf_path (h : t.IsProper) : idOf t.path = t.id := by
  have hlast := Path.getLast?_parts t.path
  rw [h.parts_path, t.getLast?_parts] at hlast
  exact (Option.some.inj hlast).symm

theorem IsProper.tier1IdOf?_path (h : t.IsProper) : tier1IdOf? t.path = t.tier1Id? := by
  refine Option.ext fun id => ?_
  rw [tier1IdOf?_eq_some_iff, h.parts_path, ← tier1Id?_eq_some_iff]
  exact and_iff_right_of_imp fun hid => (h id (mem_ids_of_tier1Id? hid)).nonempty

/-- **A path identifies the object that it leads to**, as long as no id is empty or separates parts:
no other kind of object and no other ids have the same path, the object's own id is read from it,
and the id of its gateway exactly if it is a gateway or belongs to one. -/
theorem path_identifies (ha : a.IsProper) :
    (∀ b : Target, b.IsProper → (a.path = b.path ↔ a = b)) ∧
      idOf a.path = a.id ∧ tier1IdOf? a.path = a.tier1Id? :=
  ⟨fun _ hb => ⟨ha.eq_of_path_eq hb, congrArg path⟩, ha.idOf_path, ha.tier1IdOf?_path⟩

/-- A NAT rule and a segment with the same ids, both of which are also fixed parts of such paths. -/
theorem path_identifies_lookalikes :
    (natRule "segments" "nat").IsProper ∧ (segment "segments" "nat").IsProper ∧
      Path.natRule "segments" "nat" ≠ Path.segment "segments" "nat" ∧
      idOf (Path.natRule "segments" "nat") = "nat" ∧
      tier1IdOf? (Path.natRule "segments" "nat") = some "segments" := by
  have hids : ∀ id ∈ ["segments", "nat"], IsId id := by
    intro id hmem
    constructor
    · rintro rfl
      exact absurd hmem (by decide)
    · refine isPlain_of_mem_fixedParts id ?_
      rcases List.mem_cons.mp hmem with rfl | hmem
      · decide
      · rw [List.mem_singleton.mp hmem]
        decide
  have hrule : (natRule "segments" "nat").IsProper := hids
  have hsegment : (segment "segments" "nat").IsProper := hids
  obtain ⟨hpath, hid, hgateway⟩ := path_identifies hrule
  have hne : Path.natRule "segments" "nat" ≠ Path.segment "segments" "nat" := fun h =>
    absurd ((hpath _ hsegment).mp h) (by decide)
  exact ⟨hrule, hsegment, hne, hid, hgateway⟩

/-- An id that separates parts leads elsewhere. -/
example : Path.tier1 "t1/segments/s1" = Path.segment "t1" "s1" := by decide

end Target

end Path

end ControlPlane

end ClusterNet
