import ClusterNet.Actuator.Status
import ClusterNet.Proofs.OrderedMap
import Mathlib.Data.List.Nodup

/-!
# Where the machines of a region are

The machines of a zone are where the zone says, and where it says nothing, where its region does.
Some of that may be said nowhere, but not the datacenter, and not the place for data: the first zone
that lacks one of them is reported, and no other zone is placed.

The placements of a region are a map by the names of zones, made of a list of zones. Nothing is lost
on the way because a configuration is only accepted if its regions have different names, and so have
the zones of each of them. For the same reason a region that is looked up by its name is that region.

## Main definitions

* `Actuator.Placed` — a placement says what a zone and its region do
* `Actuator.Unplaced` — a zone cannot be placed

## Main results

* `Config.nodup_of_validate` — names in a configuration that is accepted are different
* `Actuator.zonePlacement_cases` — a zone is placed or reported
* `Actuator.placementsFrom_cases` — zones are placed as far as the first that is reported
* `Actuator.zonePlacements_lossless` — in a configuration that is accepted, no zone is lost
-/

namespace ClusterNet

/-! ### Names in a configuration -/

namespace Config

/-- Names are repeated unless they are different, from each other and from those before. -/
theorem firstRepeated_eq_none_iff {before names : List String} :
    firstRepeated before names = none ↔ names.Nodup ∧ ∀ name ∈ names, name ∉ before := by
  induction names generalizing before with
  | nil => exact iff_of_true rfl ⟨.nil, nofun⟩
  | cons name names ih =>
    rw [firstRepeated, List.nodup_cons]
    split
    · next hmem =>
      exact iff_of_false nofun fun h => h.2 name (.head _) (List.contains_iff_mem.mp hmem)
    · next hnew =>
      rw [List.contains_iff_mem] at hnew
      rw [ih, List.forall_mem_cons]
      constructor
      · rintro ⟨hnodup, hnames⟩
        refine ⟨⟨fun hmem => hnames name hmem (.head _), hnodup⟩, hnew, fun name' hmem => ?_⟩
        exact fun hbefore => hnames name' hmem (.tail _ hbefore)
      · rintro ⟨⟨hhead, hnodup⟩, -, hnames⟩
        refine ⟨hnodup, fun name' hmem hbefore => ?_⟩
        rcases List.mem_cons.mp hbefore with rfl | hbefore
        · exact hhead hmem
        · exact hnames name' hmem hbefore

/-- The zones of a region that makes sense have different names. -/
theorem Region.nodup_of_validate {r : Region} (h : r.validate = .ok ()) :
    (r.zones.map (·.name)).Nodup := by
  rw [Region.validate] at h
  split at h
  · exact nomatch h
  · split at h
    · exact nomatch h
    · next hrepeated => exact (firstRepeated_eq_none_iff.mp hrepeated).1

/-- Regions that make sense have different names, and those before them have other ones. -/
theorem nodup_of_validateRegions {before : List String} {rs : List Region}
    (h : validateRegions before rs = .ok ()) :
    (rs.map (·.name)).Nodup ∧ ∀ r ∈ rs, r.name ∉ before ∧ r.validate = .ok () := by
  induction rs generalizing before with
  | nil => exact ⟨.nil, fun r hr => absurd hr List.not_mem_nil⟩
  | cons r rs ih =>
    rw [validateRegions] at h
    split at h
    · exact nomatch h
    · split at h
      · exact nomatch h
      · next hnew =>
        split at h
        · exact nomatch h
        · next hvalid =>
          rw [List.contains_iff_mem] at hnew
          obtain ⟨hnodup, hrest⟩ := ih h
          refine ⟨List.nodup_cons.mpr ⟨fun hmem => ?_, hnodup⟩, List.forall_mem_cons.mpr
            ⟨⟨hnew, hvalid⟩, fun r' hr' => ⟨fun hmem => ?_, (hrest r' hr').2⟩⟩⟩
          · obtain ⟨r', hr', hname⟩ := List.mem_map.mp hmem
            exact (hrest r' hr').1 (List.mem_cons.mpr (.inl hname))
          · exact (hrest r' hr').1 (.tail _ hmem)

/-- **Names in a configuration that is accepted are different**: those of its regions, and in each
of them those of its zones. -/
theorem nodup_of_validate {c : ControllerConfig} (h : c.validate = .ok ()) :
    (c.regions.map (·.name)).Nodup ∧ ∀ r ∈ c.regions, (r.zones.map (·.name)).Nodup := by
  have hregions : validateRegions [] c.regions = .ok () := by
    rw [ControllerConfig.validate] at h
    dsimp only [bind, Except.bind] at h
    split at h
    · exact nomatch h
    · cases hregions : validateRegions [] c.regions with
      | error e =>
        rw [hregions] at h
        exact nomatch h
      | ok => rfl
  obtain ⟨hnodup, hvalid⟩ := nodup_of_validateRegions hregions
  exact ⟨hnodup, fun r hr => (hvalid r hr).2 |> Region.nodup_of_validate⟩

/-- A region that is looked up by its name is that region, if it is the only one of that name. -/
theorem region_of_mem {c : ControllerConfig} {r : Region} (h : (c.regions.map (·.name)).Nodup)
    (hr : r ∈ c.regions) : c.region r.name = .ok r := by
  have hfound : c.regions.find? (fun r' => r'.name == r.name) = some r := by
    obtain ⟨before, behind, hregions⟩ := List.append_of_mem hr
    rw [hregions, List.map_append, List.map_cons, List.nodup_middle, List.nodup_cons,
      List.mem_append, not_or] at h
    have hbefore : before.find? (fun r' => r'.name == r.name) = none := by
      refine List.find?_eq_none.mpr fun r' hr' hname => ?_
      exact h.1.1 (List.mem_map.mpr ⟨r', hr', beq_iff_eq.mp hname⟩)
    rw [hregions, List.find?_append, hbefore, Option.none_or, List.find?_cons, beq_self_eq_true]
  rw [ControllerConfig.region, hfound]

end Config

namespace Actuator

open Config (Region Zone)

/-! ### One zone -/

/-- Whether a placement says what a zone does, and where that says nothing, what its region does. -/
structure Placed (region : Region) (zone : Zone) (p : ZonePlacement) : Prop where
  /-- The datacenter. -/
  datacenter : zone.placement.datacenter.or region.placement.datacenter = some p.datacenter
  /-- The datastore. -/
  datastore : p.datastore = zone.placement.datastore.or region.placement.datastore
  /-- The cluster of datastores. -/
  datastoreCluster : p.datastoreCluster =
    zone.placement.datastoreCluster.or region.placement.datastoreCluster
  /-- The cluster of hosts. -/
  computeCluster : p.computeCluster =
    zone.placement.computeCluster.or region.placement.computeCluster
  /-- The pool of resources. -/
  resourcePool : p.resourcePool = zone.placement.resourcePool.or region.placement.resourcePool
  /-- There is some place for data. -/
  data : p.datastore.isSome ∨ p.datastoreCluster.isSome

/-- Whether a zone cannot be placed, and for what reason. -/
inductive Unplaced (region : Region) (zone : Zone) : String → Prop
  /-- Neither the zone nor its region says in which datacenter. -/
  | datacenter (h : zone.placement.datacenter.or region.placement.datacenter = none) :
    Unplaced region zone s!"zone '{zone.name}' of region '{region.name}' has no datacenter"
  /-- Neither of them has a place for data. -/
  | data (hcenter : (zone.placement.datacenter.or region.placement.datacenter).isSome)
    (hstore : zone.placement.datastore.or region.placement.datastore = none)
    (hcluster : zone.placement.datastoreCluster.or region.placement.datastoreCluster = none) :
    Unplaced region zone
      s!"zone '{zone.name}' of region '{region.name}' has neither datastore nor datastoreCluster"

variable {region : Region} {zone : Zone} {zones : List Zone} {p : ZonePlacement}
  {before placements : ZonePlacements}

theorem Placed.not_unplaced (h : Placed region zone p) (reason : String) :
    ¬ Unplaced region zone reason := by
  rintro (hcenter | ⟨-, hstore, hcluster⟩)
  · exact nomatch h.datacenter.symm.trans hcenter
  · rcases h.data with hdata | hdata
    · rw [h.datastore, hstore] at hdata
      exact nomatch hdata
    · rw [h.datastoreCluster, hcluster] at hdata
      exact nomatch hdata

/-- **A zone is placed or reported.** -/
theorem zonePlacement_cases (region : Region) (zone : Zone) :
    (∃ p, zonePlacement region zone = .ok p ∧ Placed region zone p) ∨
      ∃ reason, zonePlacement region zone = .error (.config reason) ∧
        Unplaced region zone reason := by
  rw [zonePlacement]
  cases hcenter : (zone.placement.or region.placement).datacenter with
  | none => exact .inr ⟨_, rfl, .datacenter hcenter⟩
  | some datacenter =>
    dsimp only
    cases hdata : (zone.placement.or region.placement).datastore.isNone &&
        (zone.placement.or region.placement).datastoreCluster.isNone with
    | true =>
      rw [Bool.and_eq_true, Option.isNone_iff_eq_none, Option.isNone_iff_eq_none] at hdata
      refine .inr ⟨_, rfl, .data ?_ hdata.1 hdata.2⟩
      exact Option.isSome_of_mem hcenter
    | false =>
      refine .inl ⟨_, rfl, hcenter, rfl, rfl, rfl, rfl, ?_⟩
      rwa [Bool.and_eq_false_iff, Option.isNone_eq_false_iff, Option.isNone_eq_false_iff] at hdata

/-! ### All zones -/

/-- Zones are placed one after the other, up to the first that is reported. -/
theorem placementsFrom_cases (region : Region) (before : ZonePlacements) (zones : List Zone) :
    (∃ placements, placementsFrom region before zones = .ok placements) ∨
      ∃ ahead zone behind reason, zones = ahead ++ zone :: behind ∧
        (∀ z ∈ ahead, ∃ p, Placed region z p) ∧ Unplaced region zone reason ∧
        placementsFrom region before zones = .error (.config reason) := by
  induction zones generalizing before with
  | nil => exact .inl ⟨before, rfl⟩
  | cons zone zones ih =>
    rw [placementsFrom]
    rcases zonePlacement_cases region zone with ⟨p, hok, hplaced⟩ | ⟨reason, herror, hunplaced⟩
    · rw [hok]
      rcases ih (before.insert zone.name p) with hplacements |
        ⟨ahead, zone', behind, reason, rfl, hahead, hunplaced, herror⟩
      · exact .inl hplacements
      · exact .inr ⟨zone :: ahead, zone', behind, reason, rfl,
          List.forall_mem_cons.mpr ⟨⟨p, hplaced⟩, hahead⟩, hunplaced, herror⟩
    · rw [herror]
      exact .inr ⟨[], zone, zones, reason, rfl, nofun, hunplaced, rfl⟩

/-- Zones with new and different names add their placements, each under its own name, and leave
those that are there. -/
theorem placed_of_placementsFrom (h : placementsFrom region before zones = .ok placements)
    (hnodup : (zones.map (·.name)).Nodup) (hnew : ∀ zone ∈ zones, zone.name ∉ before.keys) :
    placements.keys.Perm (zones.map (·.name) ++ before.keys) ∧
      (∀ zone ∈ zones, ∃ p, placements.find? zone.name = some p ∧ Placed region zone p) ∧
      ∀ name ∉ zones.map (·.name), placements.find? name = before.find? name := by
  induction zones generalizing before with
  | nil =>
    obtain rfl := Except.ok.inj h
    exact ⟨.refl _, nofun, fun _ _ => rfl⟩
  | cons zone zones ih =>
    rw [placementsFrom] at h
    rcases zonePlacement_cases region zone with ⟨p, hok, hplaced⟩ | ⟨reason, herror, -⟩
    · rw [hok] at h
      obtain ⟨hhead, hnodup⟩ := List.nodup_cons.mp hnodup
      obtain ⟨hzone, hzones⟩ := List.forall_mem_cons.mp hnew
      have hkeys := OrderedMap.keys_insert_perm hzone p
      have hnew : ∀ z ∈ zones, z.name ∉ (before.insert zone.name p).keys := by
        intro z hz hmem
        rcases List.mem_cons.mp (hkeys.mem_iff.mp hmem) with hname | hmem
        · exact hhead (List.mem_map.mpr ⟨z, hz, hname⟩)
        · exact hzones z hz hmem
      obtain ⟨hperm, hfound, hothers⟩ := ih h hnodup hnew
      refine ⟨?_, List.forall_mem_cons.mpr ⟨⟨p, ?_, hplaced⟩, hfound⟩, fun name hname => ?_⟩
      · exact (hperm.trans (hkeys.append_left _)).trans List.perm_middle
      · rw [hothers zone.name hhead]
        exact OrderedMap.find?_insert_self ..
      · rw [List.map_cons, List.mem_cons, not_or] at hname
        rw [hothers name hname.2, OrderedMap.find?_insert_of_ne _ hname.1]
    · rw [herror] at h
      exact nomatch h

/-- **No zone is lost.** In a configuration that is accepted, a region that is looked up by its name
is that region. Its zones are placed, each where it says or else where the region says, or the first
of them is reported that cannot be. -/
theorem zonePlacements_lossless {c : Config.ControllerConfig} (h : c.validate = .ok ())
    {r : Region} (hr : r ∈ c.regions) :
    c.region r.name = .ok r ∧
      ((∃ ahead zone behind reason, r.zones = ahead ++ zone :: behind ∧
          (∀ z ∈ ahead, ∀ reason, ¬ Unplaced r z reason) ∧ Unplaced r zone reason ∧
          zonePlacements r = .error (.config reason)) ∨
        ∃ placements, zonePlacements r = .ok placements ∧
          placements.keys.Perm (r.zones.map (·.name)) ∧
          ∀ zone ∈ r.zones, ∃ p, placements.find? zone.name = some p ∧ Placed r zone p) := by
  obtain ⟨hregions, hzones⟩ := Config.nodup_of_validate h
  refine ⟨Config.region_of_mem hregions hr, ?_⟩
  rcases placementsFrom_cases r .empty r.zones with ⟨placements, hok⟩ |
    ⟨ahead, zone, behind, reason, hsplit, hahead, hunplaced, herror⟩
  · obtain ⟨hperm, hfound, -⟩ := placed_of_placementsFrom hok (hzones r hr) fun _ _ => nofun
    exact .inr ⟨placements, hok, hperm.trans (.of_eq (List.append_nil _)), hfound⟩
  · refine .inl ⟨ahead, zone, behind, reason, hsplit, fun z hz => ?_, hunplaced, herror⟩
    obtain ⟨p, hplaced⟩ := hahead z hz
    exact hplaced.not_unplaced

/-- A region with a zone that keeps data in a place of its own, and one that does not. -/
def coast : Region where
  name := "coast"
  host := "control-plane"
  tier0GatewayName := "tier0-gw"
  edgeClusterName := "edge-cluster-1"
  transportZoneName := "tz-overlay"
  snatIpPoolName := "snat-pool"
  placement := { datacenter := some "dc", datastore := some "shared" }
  zones := [⟨"south", { datastore := some "own" }⟩, ⟨"north", {}⟩]

theorem zonePlacements_lossless_coast :
    ∃ placements, zonePlacements coast = .ok placements ∧
      placements.keys.Perm ["south", "north"] ∧
      (placements.find? "south").bind (·.datastore) = some "own" ∧
      (placements.find? "north").bind (·.datastore) = some "shared" := by
  have hvalid : ({ regions := [coast] } : Config.ControllerConfig).validate = .ok () := by rfl
  obtain ⟨-, ⟨ahead, zone, behind, reason, -, -, -, herror⟩ | ⟨placements, hok, hkeys, hplaced⟩⟩ :=
    zonePlacements_lossless hvalid (List.mem_singleton_self coast)
  · have hplaced : (zonePlacements coast).isOk = true := by decide +kernel
    rw [herror] at hplaced
    exact nomatch hplaced
  · obtain ⟨south, hsouth, hown⟩ := hplaced _ (.head _)
    obtain ⟨north, hnorth, hshared⟩ := hplaced _ (.tail _ (.head _))
    refine ⟨placements, hok, hkeys, ?_, ?_⟩
    · rw [hsouth]
      exact hown.datastore
    · rw [hnorth]
      exact hshared.datastore

end Actuator

end ClusterNet
