import ClusterNet.Proofs.Pipeline.Tagging

/-!
# Recovering what was lost

A cluster whose runs have come to an end can lose the references to its manager objects. As long as
nobody else uses its tags, another run finds every one of them again: the object that carries the
tags is the one that was referred to, so adopting it restores the reference as it was, and the task
behind it finds the object as it should be.

The tasks restore the references one by one, in the order in which they build on each other: the
addresses that a server hands out are looked for under the server that was found just before. A task
never needs what a later one restores. So it does not matter which references were lost, how the
listings are cut into pages, or what else is listed in between.

## Main definitions

* `Cluster.State.Loses` — a state of which references to manager objects were lost
* `Pipeline.Accounted` — whatever carries the tags is what is referred to
* `Pipeline.Further` — a control plane with further objects
* `Pipeline.Converging` — testbeds and states that runs lead to from a clean start

## Main results

* `Pipeline.Accounted.runTask` — tasks leave no tagged object behind that is not referred to
* `Pipeline.Settled.further` — a settled task stays settled among further objects
* `Pipeline.Settled.restores` — a settled task restores its reference
* `Pipeline.run_recovers` — a run restores what was lost, and only looks
-/

namespace ClusterNet

/-! ### States of which references were lost -/

namespace Cluster.State

variable {s lost : State} {slot : Slot} {r : Reference}

/-- Whether a state is another one of which references to manager objects were lost. -/
def Loses (s lost : State) : Prop :=
  { lost with dhcp := s.dhcp } = s ∧
    ∀ slot, lost.reference slot = none ∨ lost.reference slot = s.reference slot

/-- All references to manager objects can be lost, together with the part of the state for them. -/
theorem loses_all (s : State) : s.Loses { s with dhcp := none } := by
  refine ⟨rfl, fun slot => ?_⟩
  cases hslot : slot.isDhcp with
  | true => exact .inl (by cases slot <;> first | rfl | cases hslot)
  | false => exact .inr (by cases slot <;> first | rfl | cases hslot)

/-- Other references are not lost. -/
theorem Loses.reference_eq (h : Loses s lost) (hslot : slot.isDhcp = false) :
    lost.reference slot = s.reference slot := by
  rw [← h.1]
  cases slot <;> first | rfl | cases hslot

theorem Loses.snatIpAddress_eq (h : Loses s lost) : lost.snatIpAddress = s.snatIpAddress := by
  rw [← h.1]

/-- A reference can be restored. -/
theorem Loses.restored (h : Loses s lost) (href : s.reference slot = some r) :
    Loses s (lost.withReference slot (some r)) := by
  refine ⟨?_, fun slot' => ?_⟩
  · cases hslot : slot.isDhcp with
    | true =>
      rw [← h.1]
      cases slot <;> first | rfl | cases hslot
    | false =>
      rw [withReference_of_reference ((h.reference_eq hslot).trans href)]
      exact h.1
  · by_cases hown : slot' = slot
    · rw [hown, reference_withReference_self]
      exact .inr href.symm
    · rw [reference_withReference_of_ne _ hown]
      exact h.2 slot'

/-- **A state that has all its references again is the one that it was.** -/
theorem Loses.eq_of_reference (h : Loses s lost)
    (hall : ∀ slot, lost.reference slot = s.reference slot) (hslot : slot.isDhcp = true)
    (href : s.reference slot = some r) : lost = s := by
  have hopen : s.withDhcp = s := withDhcp_of_reference hslot href
  have hopen' : lost.withDhcp = lost := withDhcp_of_reference hslot ((hall slot).trans href)
  have hsame : lost.dhcpOrEmpty = s.dhcpOrEmpty := by
    have hfields : ∀ d : DhcpReferences,
        d = ⟨d.logicalSwitch, d.profile, d.server, d.port, d.ipPool⟩ := fun _ => rfl
    rw [hfields lost.dhcpOrEmpty, hfields s.dhcpOrEmpty]
    exact congr (congr (congr (congr (congrArg DhcpReferences.mk (hall .logicalSwitch))
      (hall .dhcpProfile)) (hall .dhcpServer)) (hall .dhcpPort)) (hall .dhcpIpPool)
  calc lost = { lost with dhcp := some lost.dhcpOrEmpty } := hopen'.symm
    _ = { { lost with dhcp := s.dhcp } with dhcp := some s.dhcpOrEmpty } := by rw [hsame]
    _ = { s with dhcp := some s.dhcpOrEmpty } := by rw [h.1]
    _ = s := hopen

end Cluster.State

namespace Pipeline

open Cluster (InfraError Reference Slot Spec State)
open ControlPlane Program

variable {s s' lost : State} {k : Kind} {t : Task} {ts : List Task} {c c' : Context} {spec : Spec}
  {r : Reference} {place : Place} {b b' : Testbed} {identity : ClusterIdentity}

/-! ### Tagged objects -/

/-- **Whatever carries the tags of a cluster is what is referred to.** -/
def Accounted (identity : ClusterIdentity) (w : World) : Prop :=
  ∀ k : ManagerKind, ∀ e ∈ (w.1.inventory.table (.manager k)).entries,
    identity.isTagged (k.tags e.2) = true →
      ∃ r, w.2.reference (slot (.manager k)) = some r ∧ PointsAt (.manager k) r e.1

/-- **A task leaves no tagged object behind that is not referred to.** -/
theorem Accounted.runTask {left : Left Action} (h : Accounted identity (b.plane, s))
    (hanchored : Anchored (b.plane, s)) (hqueued : b.queued = [])
    (hrun : b.run (Pipeline.runTask t c spec s) = (some left, b')) :
    Accounted identity (b'.plane, left.2) := by
  intro k e hmem htagged
  obtain ⟨es, htrace, -⟩ := run_eq_some_iff.mp hrun
  have hpool : ownerSlot (.manager k) ≠ some .snatIpPool := by cases k <;> decide
  by_cases ht : t = .managed (.manager k)
  · subst ht
    have hold : e ∈ (b.plane.inventory.table (.manager k)).entries →
        ∃ r, left.2.reference (slot (.manager k)) = some r ∧ PointsAt (.manager k) r e.1 := by
      intro hmem
      obtain ⟨r, href, hpoints⟩ := h k e hmem htagged
      obtain ⟨place, hrefers⟩ := hanchored.tied (.manager k) r hpool href
      obtain rfl : r = ⟨place.id, (Kind.manager k).path place⟩ :=
        Option.some.inj (href.symm.trans hrefers.1)
      obtain rfl : e.1 = place := hpoints.unique (pointsAt_of_parentOf hrefers.2 place.id)
      have hholds := Inventory.holds_of_mem_keys (List.mem_map.mpr ⟨e, hmem, rfl⟩)
      have hkept := runTask_keeps_referred hqueued hrun hrefers hholds
      exact ⟨_, hkept.trans href, hpoints⟩
    rcases (runTask_managed_stores hqueued hanchored.indexed hrun).1 with hsame |
      ⟨place, o, stored, r, hput, hdraft, -, href, hid, hfrom, -⟩
    · rw [show b'.plane.inventory = _ from hsame] at hmem
      exact hold hmem
    · rw [show b'.plane.inventory = _ from hput, Inventory.table_put_self] at hmem
      rcases OrderedMap.eq_or_mem_of_mem_insert hmem with rfl | hmem
      · have hparent := parentOf_of_draft hdraft
        have hpoints := pointsAt_of_parentOf hparent place.id
        refine ⟨r, href, ?_⟩
        rcases hfrom with hset | rfl
        · obtain ⟨place', hrefers⟩ := hanchored.tied (.manager k) r hpool hset
          obtain rfl : r = ⟨place'.id, (Kind.manager k).path place'⟩ :=
            Option.some.inj (hset.symm.trans hrefers.1)
          obtain rfl : place' = place := by
            have hparents := Option.some.inj (hrefers.2.symm.trans hparent)
            cases place
            cases place'
            simp_all
          exact hpoints
        · exact hpoints
      · exact hold hmem
  · rw [table_runTask_of_ne hqueued hrun ht] at hmem
    obtain ⟨r, href, hpoints⟩ := h k e hmem htagged
    refine ⟨r, ?_, hpoints⟩
    refine ((runTask_advanced htrace).1.others (slot (.manager k)) fun hown => ht ?_).trans href
    exact Task.slot_injective hown

/-- Testbeds and states that the runs for a cluster lead to, wherever they stop, from a state of
which nothing is known and a control plane on which nothing carries the tags of the cluster. -/
inductive Converging (identity : ClusterIdentity) : Testbed → State → Prop
  /-- Nothing of the cluster is there, and nothing is known of it. -/
  | start {b : Testbed} (hqueued : b.queued = []) (hi : b.plane.inventory.Indexed)
    (hids : ∀ n, Path.IsId (b.plane.freshId n))
    (hclean : ∀ k : ManagerKind, ∀ e ∈ (b.plane.inventory.table (.manager k)).entries,
      identity.isTagged (k.tags e.2) = false) : Converging identity b .fresh
  /-- There was a run. -/
  | run {b b' : Testbed} {s : State} {c : Context} {spec : Spec} {left : Left (List Outcome)}
    (h : Converging identity b s) (hc : c.identity = identity)
    (hrun : b.run (Pipeline.run .v2 c spec s) = (some left, b')) : Converging identity b' left.2
  /-- A failure is due. -/
  | failNext {b : Testbed} {s : State} (h : Converging identity b s) (m : Method) :
    Converging identity { b with plane := b.plane.failNext m } s

theorem Converging.accounted (h : Converging identity b s) :
    b.queued = [] ∧ Anchored (b.plane, s) ∧ Accounted identity (b.plane, s) := by
  induction h with
  | start hqueued hi hids hclean =>
    refine ⟨hqueued, anchored_fresh hi hids, fun k e hmem htagged => ?_⟩
    cases (hclean k e hmem).symm.trans htagged
  | @run b b' s c spec left _ hc hrun ih =>
    rw [Pipeline.run] at hrun
    split at hrun
    · obtain ⟨rfl, rfl⟩ := run_done_eq_some_iff.mp hrun
      exact ih
    · refine runTasks_invariant (P := fun b s => b.queued = [] ∧ Anchored (b.plane, s) ∧
        Accounted identity (b.plane, s)) ?_ ih hrun
      rintro t b b' s left ⟨hqueued, hanchored, haccounted⟩ hrun
      obtain ⟨hqueued', hanchored'⟩ := hanchored.runTask hqueued hrun
      exact ⟨hqueued', hanchored', haccounted.runTask hanchored hqueued hrun⟩
  | failNext h m ih =>
    obtain ⟨hqueued, ⟨hhomed, hstands, htied, hi, hids⟩, haccounted⟩ := ih
    exact ⟨hqueued, ⟨hhomed, hstands, htied, hi, hids⟩, haccounted⟩

/-! ### Further objects -/

/-- A control plane with further objects, none of which carries the tags of a cluster. What is
listed in the order in which it came is listed before what came later. -/
structure Further (identity : ClusterIdentity) (p p' : Simulator) : Prop where
  /-- The catalogs have grown at their ends. -/
  catalogs : ∀ catalog, p.catalogs.get catalog <+: p'.catalogs.get catalog
  /-- So have the logical switches. -/
  switches : p.switches <+: p'.switches
  /-- Every object is there as it was. -/
  found : ∀ k place o, p.inventory.find? k place = some o → p'.inventory.find? k place = some o
  /-- What carries the tags was there before. -/
  untagged : ∀ k : ManagerKind, ∀ e ∈ (p'.inventory.table (.manager k)).entries,
    identity.isTagged (k.tags e.2) = true → e ∈ (p.inventory.table (.manager k)).entries
  /-- Created objects are kept under their ids. -/
  indexed : p'.inventory.Indexed
  /-- Allocations that have become addresses still are. -/
  addresses : ∀ path address, HasAddress p path address → HasAddress p' path address

/-- A DHCP profile that somebody adds is a further object. -/
theorem further_addProfile {p : Simulator} {o : DhcpProfile} (hid : o.id = none)
    (htagged : identity.isTagged o.tags = false) (hi : p.inventory.Indexed)
    (hnew : ¬ p.inventory.Holds (.manager .dhcpProfile) ⟨"", p.freshId p.drawnIds⟩) :
    Further identity p (p.addProfile o).2 := by
  obtain ⟨stored, hput, htags⟩ : ∃ stored : DhcpProfile, (p.addProfile o).2.inventory =
      p.inventory.put (.manager .dhcpProfile) ⟨"", p.freshId p.drawnIds⟩ stored ∧
      stored.id = some (p.freshId p.drawnIds) ∧ stored.tags = o.tags := by
    rw [Simulator.addProfile, hid]
    exact ⟨_, rfl, rfl, rfl⟩
  have hsame : (p.addProfile o).2.catalogs = p.catalogs ∧ (p.addProfile o).2.switches = p.switches ∧
      (p.addProfile o).2.addresses = p.addresses ∧ (p.addProfile o).2.pending = p.pending := by
    rw [Simulator.addProfile, hid]
    exact ⟨rfl, rfl, rfl, rfl⟩
  refine ⟨fun catalog => ?_, ?_, fun k place current hfind => ?_, fun k e hmem htagged' => ?_, ?_,
    fun path address h => ⟨?_, ?_, h.nonempty⟩⟩
  · exact hsame.1.symm ▸ List.prefix_rfl
  · exact hsame.2.1.symm ▸ List.prefix_rfl
  · rw [hput]
    by_cases hk : k = .manager .dhcpProfile
    · subst hk
      have hother : place ≠ ⟨"", p.freshId p.drawnIds⟩ := by
        rintro rfl
        exact hnew (Inventory.holds_of_find? hfind)
      rw [Inventory.find?_put_of_ne hother]
      exact hfind
    · rw [Inventory.find?, p.inventory.table_put_of_ne hk]
      exact hfind
  · rw [hput] at hmem
    by_cases hk : k = .dhcpProfile
    · subst hk
      rw [Inventory.table_put_self] at hmem
      refine (OrderedMap.eq_or_mem_of_mem_insert hmem).resolve_left ?_
      rintro rfl
      cases (htags.2 ▸ htagged).symm.trans htagged'
    · rwa [p.inventory.table_put_of_ne fun heq => hk (Kind.manager.inj heq)] at hmem
  · rw [hput]
    exact hi.put_manager htags.1 fun _ => rfl
  · rw [hsame.2.2.1]
    exact h.found
  · rw [hsame.2.2.2]
    exact h.due

/-- Control planes whose listings can be gone through, page by page. -/
structure Listable (rounds : Nat) (p : Simulator) : Prop where
  /-- Pages have room for items. -/
  size : 0 < p.pageSize
  /-- There are rounds enough for every page of the catalogs, whose cursors are machine words. -/
  catalogs : ∀ catalog, (p.catalogs.get catalog).length < min rounds UInt64.size
  /-- So there are for the logical switches. -/
  switches : p.switches.length < min rounds UInt64.size
  /-- So there are for created objects. -/
  objects : ∀ k parent, (p.objectsOf k parent).length < min rounds UInt64.size

/-- A listing that can be gone through is searched to the end. -/
theorem search_ends {α : Type} {items : List α} {size rounds : Nat} (wanted : α → Bool)
    (hsize : 0 < size) (hlength : items.length < min rounds UInt64.size) :
    firstIn items size wanted none rounds = .done (.ok (items.find? wanted)) := by
  obtain ⟨hrounds, hword⟩ := Nat.lt_min.mp hlength
  exact firstIn_eq_find? hsize hword nofun rfl hrounds

/-- What is found is found first in a listing that has grown. -/
theorem search_prefix {α : Type} {items items' : List α} {size size' rounds rounds' : Nat}
    {wanted : α → Bool} {o : α} (hgrown : items <+: items') (hsize : 0 < size')
    (hlength : items'.length < min rounds' UInt64.size)
    (h : firstIn items size wanted none rounds = .done (.ok (some o))) :
    firstIn items' size' wanted none rounds' = .done (.ok (some o)) := by
  obtain ⟨more, rfl⟩ := hgrown
  rw [search_ends wanted hsize hlength, List.find?_append, find?_of_firstIn rfl h, Option.some_or]

/-- **A settled task stays settled among further objects.** -/
theorem Settled.further {p p' : Simulator} (h : Settled c spec t (p, s))
    (hfurther : Further identity p p') (hidentity : c'.identity = c.identity)
    (hlistable : Listable c'.rounds p') : Settled c' spec t (p', s) := by
  match t with
  | .lookUp catalog =>
    obtain ⟨o, hfirst, href⟩ := h
    refine ⟨o, ?_, href⟩
    exact search_prefix (hfurther.catalogs catalog) hlistable.size (hlistable.catalogs catalog)
      hfirst
  | .managed k =>
    obtain ⟨parent, o, r, current, hdraft, href, hfind, hagrees⟩ := h
    refine ⟨parent, o, r, current, ?_, href, hfurther.found k _ current hfind, hagrees⟩
    rw [hidentity]
    exact hdraft
  | .realization =>
    obtain ⟨allocation, address, href, hknown, haddress, -⟩ := h
    refine ⟨allocation, address, href, hknown, hfurther.addresses _ _ haddress, ?_⟩
    exact Nat.zero_lt_of_lt (Nat.lt_min.mp hlistable.switches).1
  | .lookUpSwitch =>
    obtain ⟨segment, o, hsegment, hfirst, href⟩ := h
    refine ⟨segment, o, hsegment, ?_, href⟩
    exact search_prefix hfurther.switches hlistable.size hlistable.switches hfirst

theorem Accounted.further {p p' : Simulator} (h : Accounted identity (p, s))
    (hfurther : Further identity p p') : Accounted identity (p', s) :=
  fun k e hmem htagged => h k e (hfurther.untagged k e hmem htagged) htagged

/-! ### Restoring references -/

/-- Surroundings in which lost references can be restored. -/
structure Restorable (c : Context) (b : Testbed) (s : State) : Prop where
  /-- Lost references are looked for. -/
  recovery : c.recoveryEnabled = true
  /-- Nothing was prepared to be answered. -/
  queued : b.queued = []
  /-- No failure is due. -/
  failures : b.plane.failures = []
  /-- Created objects are kept under their ids. -/
  indexed : b.plane.inventory.Indexed
  /-- Whatever carries the tags of the cluster is what was referred to. -/
  accounted : Accounted c.identity (b.plane, s)
  /-- Listings can be gone through. -/
  listable : Listable c.rounds b.plane

theorem Restorable.asked (h : Restorable c b s) (rs : List Request) :
    Restorable c (b.asked rs) s where
  recovery := h.recovery
  queued := h.queued
  failures := h.failures
  indexed := h.indexed
  accounted := h.accounted
  listable := ⟨h.listable.size, h.listable.catalogs, h.listable.switches, h.listable.objects⟩

/-- The first tagged object that is listed is the one that was referred to. -/
theorem Settled.first_tagged {k : ManagerKind}
    (h : Settled c spec (.managed (.manager k)) (b.plane, s)) (hb : Restorable c b s)
    (href : s.reference (slot (.manager k)) = some r) :
    ∃ parent o, parentOf (.manager k) s = some parent ∧ r = ⟨r.id, k.path ⟨parent, r.id⟩⟩ ∧
      (b.plane.objectsOf k parent).find? (fun o => c.identity.isTagged (k.tags o)) = some o ∧
      k.id? o = some r.id := by
  obtain ⟨parent, o, r', current, hdraft, href', hfind, hagrees⟩ := h
  obtain rfl : r' = r := Option.some.inj (href'.symm.trans href)
  have hpoints : ∀ e ∈ (b.plane.inventory.table (.manager k)).entries,
      c.identity.isTagged (k.tags e.2) = true → PointsAt (.manager k) r' e.1 := by
    intro e hmem htagged
    obtain ⟨r, href, hpoints⟩ := hb.accounted k e hmem htagged
    exact Option.some.inj (href.symm.trans href') ▸ hpoints
  have hentry := OrderedMap.mem_of_find? hfind
  have htagged := isTagged_of_agrees hdraft hagrees
  have hlisted : current ∈ b.plane.objectsOf k parent :=
    List.mem_map.mpr ⟨_, List.mem_filter.mpr ⟨hentry, by simp⟩, rfl⟩
  obtain ⟨o', hfound⟩ := Option.isSome_iff_exists.mp (List.find?_isSome
    (p := fun o => c.identity.isTagged (k.tags o)).mpr ⟨current, hlisted, htagged⟩)
  obtain ⟨e, hmem, rfl⟩ := List.mem_map.mp (List.mem_of_find?_eq_some hfound)
  have hentry' := (List.mem_filter.mp hmem).1
  have htagged' := List.find?_some (p := fun o => c.identity.isTagged (k.tags o)) hfound
  refine ⟨parent, e.2, parentOf_of_draft hdraft, (hpoints _ hentry htagged).1, hfound, ?_⟩
  rw [(hb.indexed k e hentry').1, (hpoints e hentry' htagged').unique (hpoints _ hentry htagged)]

/-- **Adopting restores the reference.** -/
theorem Settled.adopts {k : ManagerKind} (h : Settled c spec (.managed (.manager k)) (b.plane, s))
    (hb : Restorable c b s) (href : s.reference (slot (.manager k)) = some r)
    (hparent : parentOf (.manager k) lost = parentOf (.manager k) s) :
    ∃ rs, (∀ r ∈ rs, r.method.isMutation = false) ∧ b.run (adopt k c lost) =
      (some (.ok true, lost.withReference (slot (.manager k)) (some r)), b.asked rs) := by
  obtain ⟨parent, o, hparent', hr, hfound, hid⟩ := h.first_tagged hb href
  have hends := search_ends (fun o => c.identity.isTagged (k.tags o)) hb.listable.size
    (hb.listable.objects k parent)
  rw [hfound] at hends
  obtain ⟨rs, hrs, hrun⟩ := (lists_objectsOf k parent).run_loop hb.queued hb.failures hends
  refine ⟨rs, hrs, ?_⟩
  have hlisting : listingParent k lost = some parent :=
    (listingParent_eq_parentOf k lost).trans (hparent.trans hparent')
  rw [adopt_eq, hlisting, Testbed.run, run_bind, searchTagged, findFirst, ← Testbed.run, hrun]
  simp only [adopted, Option.bind_some, hid, run_done]
  rw [← hr]

/-- The state in which a task has its reference again. -/
def restored (t : Task) (s lost : State) : State :=
  match t.slot with
  | none => lost
  | some slot => lost.withReference slot (s.reference slot)

theorem restored_of_slot {slot' : Slot} (hslot : t.slot = some slot')
    (href : s.reference slot' = some r) :
    restored t s lost = lost.withReference slot' (some r) := by
  rw [restored, hslot]
  dsimp only
  rw [href]

/-- A settled task has its reference. -/
theorem Settled.reference {w : World} {slot' : Slot} (h : Settled c spec t w)
    (hslot : t.slot = some slot') : ∃ r, w.2.reference slot' = some r := by
  match t with
  | .lookUp catalog =>
    obtain ⟨o, -, href⟩ := h
    exact ⟨_, Option.some.inj hslot ▸ href⟩
  | .managed k =>
    obtain ⟨parent, o, r, current, -, href, -⟩ := h
    exact ⟨r, Option.some.inj hslot ▸ href⟩
  | .realization => cases hslot
  | .lookUpSwitch =>
    obtain ⟨segment, o, -, -, href⟩ := h
    exact ⟨_, Option.some.inj hslot ▸ href⟩

/-- A settled task that has what it reads only looks, whatever else was lost. -/
theorem Settled.looks (h : Settled c spec t (b.plane, s)) (hb : Restorable c b s)
    (hloses : s.Loses lost)
    (hreads : ∀ slot, .slot slot ∈ t.reads → lost.reference slot = s.reference slot) :
    OnlyLooks b lost (runTask t c spec lost) := by
  have hsettled : Settled c spec t (b.plane, lost) := by
    refine h.congr fun res hres => ?_
    cases res with
    | slot slot => exact hreads slot hres
    | address => exact hloses.snatIpAddress_eq
    | part part => exact Part.Same.refl part b.plane
  exact hsettled.run hb.queued hb.failures

/-- The logical switch is looked for in any case. -/
theorem Settled.findsSwitch (h : Settled c spec .lookUpSwitch (b.plane, s))
    (hb : Restorable c b s) (hsegment : lost.reference .segment = s.reference .segment) :
    OnlyLooks b (restored .lookUpSwitch s lost) (runTask .lookUpSwitch c spec lost) := by
  obtain ⟨segment, o, hset, hfirst, href⟩ := h
  obtain ⟨rs, hrs, hrun⟩ := lists_switches.run_loop hb.queued hb.failures hfirst
  refine ⟨.found, rs, .inr rfl, hrs, ?_⟩
  have hset' : lost.reference .segment = some segment := hsegment.trans hset
  rw [runTask_eq (recoverIfLost_of_recover? rfl c lost), Task.ensure, lookUpSwitch_eq, hset',
    restored_of_slot rfl href, Testbed.run, run_bind, run_bind, searchSwitches, findFirst,
    ← Testbed.run, hrun]
  rfl

/-- **A created object whose reference was lost is adopted**, and is found to be as it should be. -/
theorem Settled.readopts {k : ManagerKind}
    (h : Settled c spec (.managed (.manager k)) (b.plane, s)) (hb : Restorable c b s)
    (hloses : s.Loses lost) (hnone : lost.reference (slot (.manager k)) = none)
    (hneeds : ∀ slot ∈ needs (.manager k), lost.reference slot = s.reference slot) :
    OnlyLooks b (restored (.managed (.manager k)) s lost)
      (runTask (.managed (.manager k)) c spec lost) := by
  obtain ⟨r, href⟩ := h.reference rfl
  have href' : s.reference (slot (.manager k)) = some r := href
  have hparent : parentOf (.manager k) lost = parentOf (.manager k) s := by
    refine parentOf_congr fun slot' howner => hneeds slot' ?_
    revert slot'
    cases k <;> decide
  obtain ⟨rs, hrs, hadopt⟩ := h.adopts hb href' hparent
  rw [restored_of_slot rfl href']
  have hloses' := hloses.restored href'
  generalize hs' : lost.withReference (slot (.manager k)) (some r) = s' at hadopt hloses' ⊢
  have hreads : ∀ slot', .slot slot' ∈ (Task.managed (.manager k)).reads →
      s'.reference slot' = s.reference slot' := by
    intro slot' hmem
    rw [← hs']
    by_cases hown : slot' = slot (.manager k)
    · rw [hown, State.reference_withReference_self, href']
    · rw [State.reference_withReference_of_ne _ hown]
      rcases List.mem_cons.mp hmem with heq | hmem
      · exact absurd (Resource.slot.inj heq) hown
      · rcases List.mem_cons.mp hmem with heq | hmem
        · cases heq
        · obtain ⟨slot'', hneed, heq⟩ := List.mem_map.mp hmem
          exact hneeds slot' (Resource.slot.inj heq ▸ hneed)
  obtain ⟨action, rs', haction, hrs', hrun⟩ := (h.asked rs).looks (hb.asked rs) hloses' hreads
  have hset : s'.reference (slot (.manager k)) = some r := by
    rw [← hs', State.reference_withReference_self]
  rw [runTask_eq (recoverIfLost_of_reference (t := .managed (.manager k)) hset c)] at hrun
  refine ⟨action, rs ++ rs', haction, ?_, ?_⟩
  · intro r hmem
    exact (List.mem_append.mp hmem).elim (hrs r) (hrs' r)
  · rw [runTask, recoverIfLost_of_lost hb.recovery hnone, bind_eq, Testbed.run, run_bind, run_bind,
      ← Testbed.run, hadopt]
    rw [Testbed.asked_asked] at hrun
    exact hrun

/-- **A settled task restores its reference** if what it needs was not lost or has been restored. -/
theorem Settled.restores (h : Settled c spec t (b.plane, s)) (hb : Restorable c b s)
    (hloses : s.Loses lost)
    (hreads : ∀ slot, .slot slot ∈ t.reads → t.slot ≠ some slot →
      lost.reference slot = s.reference slot) :
    OnlyLooks b (restored t s lost) (runTask t c spec lost) := by
  by_cases hown : ∀ slot, t.slot = some slot → lost.reference slot = s.reference slot
  · have hsame : restored t s lost = lost := by
      cases hslot : t.slot with
      | none => rw [restored, hslot]
      | some slot' =>
        obtain ⟨r, href⟩ := h.reference hslot
        rw [restored_of_slot hslot href]
        exact State.withReference_of_reference ((hown slot' hslot).trans href)
    rw [hsame]
    refine h.looks hb hloses fun slot' hmem => ?_
    by_cases hslot : t.slot = some slot'
    · exact hown slot' hslot
    · exact hreads slot' hmem hslot
  · simp only [not_forall, exists_prop] at hown
    obtain ⟨slot', hslot, hlost⟩ := hown
    have hdhcp : slot'.isDhcp = true := by
      by_contra hnot
      exact hlost (hloses.reference_eq (Bool.not_eq_true _ ▸ hnot))
    have hnone : lost.reference slot' = none := (hloses.2 slot').resolve_right hlost
    match t with
    | .lookUp catalog =>
      obtain rfl := Option.some.inj hslot
      cases catalog <;> cases hdhcp
    | .managed (.policy k) =>
      obtain rfl := Option.some.inj hslot
      cases k <;> cases hdhcp
    | .realization => cases hslot
    | .lookUpSwitch => exact h.findsSwitch hb (hreads .segment (.head _) (by decide))
    | .managed (.manager k) =>
      obtain rfl := Option.some.inj hslot
      refine h.readopts hb hloses hnone fun slot'' hneed => hreads slot'' ?_ fun hsame => ?_
      · exact .tail _ (.tail _ (List.mem_map_of_mem hneed))
      · obtain rfl := Option.some.inj hsame
        revert hneed
        cases k <;> decide

/-- What a task has restored is what it was. -/
theorem Settled.reference_restored (h : Settled c spec t (b.plane, s)) {slot : Slot}
    (hslot : t.slot = some slot) : (restored t s lost).reference slot = s.reference slot := by
  obtain ⟨r, href⟩ := h.reference hslot
  rw [restored_of_slot hslot href, State.reference_withReference_self]
  exact href.symm

/-- A task restores nothing else. -/
theorem reference_restored_of_ne {slot : Slot} (hother : t.slot ≠ some slot) :
    (restored t s lost).reference slot = lost.reference slot := by
  rw [restored]
  split
  · rfl
  · next slot' hslot =>
    refine State.reference_withReference_of_ne lost (fun heq => hother ?_) _
    rw [hslot, heq]

/-- Nothing more is lost when a task has restored its reference. -/
theorem Settled.loses_restored (h : Settled c spec t (b.plane, s)) (hloses : s.Loses lost) :
    s.Loses (restored t s lost) := by
  cases hslot : t.slot with
  | none =>
    rw [restored, hslot]
    exact hloses
  | some slot =>
    obtain ⟨r, href⟩ := h.reference hslot
    rw [restored_of_slot hslot href]
    exact hloses.restored href

/-- **Settled tasks restore all their references**, one after the other. -/
theorem runTasks_restores (hsettled : ∀ t ∈ ts, Settled c spec t (b.plane, s))
    (hundisturbed : Undisturbed ts) (hb : Restorable c b s) (hloses : s.Loses lost)
    (hlater : ∀ slot, lost.reference slot = s.reference slot ∨ ∃ t ∈ ts, t.slot = some slot) :
    ∃ outcomes rs s', s.Loses s' ∧ (∀ slot, s'.reference slot = s.reference slot) ∧
      (∀ o ∈ outcomes, o.action = .unchanged ∨ o.action = .found) ∧
      (∀ r ∈ rs, r.method.isMutation = false) ∧
      b.run (runTasks c spec ts lost) = (some (.ok outcomes, s'), b.asked rs) := by
  induction ts generalizing b lost with
  | nil =>
    refine ⟨[], [], lost, hloses, fun slot => (hlater slot).resolve_right ?_,
      fun _ hmem => absurd hmem List.not_mem_nil, fun _ hmem => absurd hmem List.not_mem_nil, ?_⟩
    · rintro ⟨t, hmem, -⟩
      cases hmem
    · rw [Testbed.asked_nil]
      rfl
  | cons t ts ih =>
    obtain ⟨hbehind, hundisturbed'⟩ := List.pairwise_cons.mp hundisturbed
    -- what a task reads is written by no task behind it, so it is there already
    have hreads : ∀ slot, .slot slot ∈ t.reads → t.slot ≠ some slot →
        lost.reference slot = s.reference slot := by
      intro slot hread hother
      refine (hlater slot).resolve_right ?_
      rintro ⟨t', hmem, hslot⟩
      rcases List.mem_cons.mp hmem with rfl | hmem
      · exact hother hslot
      · exact hbehind t' hmem _ hread (Task.slot_mem_writes hslot)
    have hsettled' := hsettled t (.head ts)
    obtain ⟨action, rs, haction, hrs, hrun⟩ := hsettled'.restores hb hloses hreads
    obtain ⟨outcomes, rs', s', hloses'', hall, houtcomes, hrs', hrun'⟩ :=
      ih (b := b.asked rs) (fun t' hmem => (hsettled t' (.tail t hmem)).asked rs) hundisturbed'
        (hb.asked rs) (hsettled'.loses_restored hloses) fun slot => by
          by_cases hslot : t.slot = some slot
          · exact .inl (hsettled'.reference_restored hslot)
          · rw [reference_restored_of_ne hslot]
            refine (hlater slot).imp_right ?_
            rintro ⟨t', hmem, hslot'⟩
            exact ⟨t', (List.mem_cons.mp hmem).resolve_left fun heq => hslot (heq ▸ hslot'), hslot'⟩
    refine ⟨⟨t.label, action⟩ :: outcomes, rs ++ rs', s', hloses'', hall, ?_, ?_, ?_⟩
    · intro o hmem
      rcases List.mem_cons.mp hmem with rfl | hmem
      · exact haction
      · exact houtcomes o hmem
    · intro r hmem
      exact (List.mem_append.mp hmem).elim (hrs r) (hrs' r)
    · rw [runTasks, bind_eq, Testbed.run, run_bind, ← Testbed.run, hrun]
      dsimp only
      rw [bind_eq, run_bind, ← Testbed.run, hrun', ← Testbed.asked_asked]
      rfl

/-- Every reference that can be lost is one that a task looks after. -/
theorem exists_task_of_isDhcp {slot : Slot} (h : slot.isDhcp = true) :
    ∃ t ∈ tasks .v2, t.slot = some slot := by
  revert h
  cases slot <;> decide

/-- **A run restores what was lost.** A cluster has been brought about from a clean start, by runs
of which the last one succeeded. Whatever else is on the control plane by now, however its listings
are cut into pages, and whichever references to manager objects were lost: if nothing that came on
top carries the tags of the cluster, a run that looks for lost references succeeds, leaves the state
as it was before the loss, makes no request that could change anything, and leaves everything as it
is but for the record of what was asked. -/
theorem run_recovers (identity : ClusterIdentity) (b b₁ b₂ : Testbed) (s s₁ lost : State)
    (c c₂ : Context) (spec : Spec) (outcomes : List Outcome) (h : Converging identity b s)
    (hidentity : c.identity = identity)
    (hrun : b.run (run .v2 c spec s) = (some (.ok outcomes, s₁), b₁))
    (hfurther : Further identity b₁.plane b₂.plane) (hloses : s₁.Loses lost)
    (hidentity₂ : c₂.identity = identity) (hrecovery : c₂.recoveryEnabled = true)
    (hqueued : b₂.queued = []) (hfailures : b₂.plane.failures = [])
    (hlistable : Listable c₂.rounds b₂.plane) :
    ∃ outcomes₂ rs, b₂.run (run .v2 c₂ spec lost) = (some (.ok outcomes₂, s₁), b₂.asked rs) ∧
      (∀ o ∈ outcomes₂, o.action = .unchanged ∨ o.action = .found) ∧
      (∀ r ∈ rs, r.method.isMutation = false) := by
  obtain ⟨-, -, haccounted⟩ := (h.run hidentity hrun).accounted
  obtain ⟨hqueued₀, -, -⟩ := h.accounted
  rw [run] at hrun
  split at hrun
  · cases (run_done_eq_some_iff.mp hrun).1
  · next hvalid =>
    have hsettled₁ := settled_of_runTasks (undisturbed_tasks .v2) hqueued₀ hrun
    have hsettled : ∀ t ∈ tasks .v2, Settled c₂ spec t (b₂.plane, s₁) := fun t hmem =>
      (hsettled₁ t hmem).further hfurther (hidentity₂.trans hidentity.symm) hlistable
    have hb : Restorable c₂ b₂ s₁ := by
      refine ⟨hrecovery, hqueued, hfailures, hfurther.indexed, ?_, hlistable⟩
      rw [hidentity₂]
      exact haccounted.further hfurther
    obtain ⟨outcomes₂, rs, s', hloses', hall, houtcomes, hrs, hrun₂⟩ :=
      runTasks_restores hsettled (undisturbed_tasks .v2) hb hloses fun slot => by
        cases hslot : slot.isDhcp with
        | false => exact .inl (hloses.reference_eq hslot)
        | true => exact .inr (exists_task_of_isDhcp hslot)
    obtain ⟨r, href⟩ := (hsettled (.managed (.manager .dhcpProfile)) (by decide)).reference rfl
    have hprofile : Slot.isDhcp .dhcpProfile = true := rfl
    obtain rfl := hloses'.eq_of_reference hall hprofile href
    refine ⟨outcomes₂, rs, ?_, houtcomes, hrs⟩
    rw [run, hvalid]
    exact hrun₂

/-- The control plane behind a first run, with a DHCP profile that is not the cluster's, and with
pages of one item. -/
def sharedPlane : Simulator :=
  ({ firstRun.2.plane with pageSize := 1 }.addProfile { displayName := some "other" }).2

theorem further_sharedPlane : Further typicalCluster.identity firstRun.2.plane sharedPlane := by
  have hi : firstRun.2.plane.inventory.Indexed := by
    intro k
    cases k <;> decide +kernel
  have hnew : firstRun.2.plane.inventory.find? (.manager .dhcpProfile)
      ⟨"", firstRun.2.plane.freshId firstRun.2.plane.drawnIds⟩ = none := by decide +kernel
  have htagged : typicalCluster.identity.isTagged
      ({ displayName := some "other" } : DhcpProfile).tags = false := rfl
  have hfurther := further_addProfile (p := { firstRun.2.plane with pageSize := 1 }) rfl htagged hi
    (Inventory.find?_eq_none_iff.mp hnew)
  exact ⟨hfurther.catalogs, hfurther.switches, hfurther.found, hfurther.untagged, hfurther.indexed,
    fun path address h => hfurther.addresses path address ⟨h.found, h.due, h.nonempty⟩⟩

theorem listable_sharedPlane : Listable 5 sharedPlane := by
  have hsizes : ∀ k : ManagerKind,
      (sharedPlane.inventory.table (.manager k)).entries.length < min 5 UInt64.size := by
    intro k
    cases k <;> decide +kernel
  refine ⟨by decide +kernel, fun catalog => ?_, by decide +kernel, fun k parent => ?_⟩
  · cases catalog <;> decide +kernel
  · rw [Simulator.objectsOf, List.length_map]
    exact Nat.lt_of_le_of_lt (List.length_filter_le _ _) (hsizes k)

/-- All references to manager objects are lost, and found again on pages of one item. -/
theorem run_recovers_sharedPlane :
    ∃ outcomes s, firstRun.1 = some (.ok outcomes, s) ∧
      ∃ outcomes' rs, ({ plane := sharedPlane } : Testbed).run
          (run .v2 { recovering with rounds := 5 } typicalCluster { s with dhcp := none }) =
        (some (.ok outcomes', s), ({ plane := sharedPlane } : Testbed).asked rs) ∧
        (∀ o ∈ outcomes', o.action = .unchanged ∨ o.action = .found) ∧
        (∀ r ∈ rs, r.method.isMutation = false) := by
  have hok : firstRun.1.any (·.1.isOk) = true := by decide +kernel
  have hfailures : sharedPlane.failures = [] := by decide +kernel
  obtain ⟨⟨result, s⟩, hleft, hresult⟩ := (Option.any_eq_true _ _).mp hok
  cases result with
  | error e => cases hresult
  | ok outcomes =>
    refine ⟨outcomes, s, hleft, ?_⟩
    exact run_recovers typicalCluster.identity _ firstRun.2 { plane := sharedPlane } .fresh s _ _
      { recovering with rounds := 5 } typicalCluster outcomes
      (.start rfl Inventory.indexed_empty Path.isId_numberedId
        fun k e hmem => by cases k <;> exact absurd hmem List.not_mem_nil)
      rfl (Prod.ext hleft rfl) further_sharedPlane (State.loses_all s) rfl rfl rfl hfailures
      listable_sharedPlane

end Pipeline

end ClusterNet
