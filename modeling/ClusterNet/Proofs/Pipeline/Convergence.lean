import ClusterNet.Proofs.Pipeline.Anchors

/-!
# What a run that succeeded has brought about

Whether an object is as it should be is decided by a comparison of its own for each kind. What
matters is what the comparison lets pass. It is held here against the form in which objects are
written: an object that passes has every member that the desired one is written with. Tags are a
map from scopes to values there, and the kinds of advertised routes have no order; nothing else is
left out of the comparison.

Behind a run that succeeded, every object of the cluster passes, whatever the control plane held
before and whoever had changed it. Some things are not for the cluster to say, and a run that
changes an object leaves them as they are: the address asked for by an allocation is one of them.

## Main definitions

* `Record.Covers` — whether a value is written with all that another one is written with
* `Pipeline.Meets` — whether an object has all that a desired one sets
* `Pipeline.Converged` — an object of the cluster that is there and is as it should be

## Main results

* `Pipeline.meets_of_agrees` — an object that passes the comparison has all that is desired
* `Pipeline.runTask_keepsAddress` — no task changes the address that an allocation asks for
* `Pipeline.run_converges` — a run that succeeds has brought everything about
-/

namespace ClusterNet

/-! ### What values are written with -/

namespace Record

variable {α β : Type} {exempt : List String}

/-- Whether a value is written with all that another one is written with, but for members that are
exempt. -/
def Covers (exempt : List String) (r : Record α) (desired current : α) : Prop :=
  ∀ m ∈ r.members desired, m.1 ∉ exempt → m ∈ r.members current

theorem Covers.nil : Record.nil.Covers exempt () () := nofun

/-- One more member is covered if it is the same, is left out, or is exempt. -/
theorem Covers.field {f : Field α} {r : Record β} {a a' : α} {b b' : β}
    (h : a' = a ∨ f.isOmitted a = true ∨ f.name ∈ exempt) (hr : r.Covers exempt b b') :
    (Record.field f r).Covers exempt (a, b) (a', b') := by
  intro m hm hmember
  rcases List.mem_append.mp hm with hm | hm
  · refine List.mem_append_left _ ?_
    rw [Field.members] at hm
    rcases h with rfl | homitted | hexempt
    · exact hm
    · rw [if_pos homitted] at hm
      cases hm
    · split at hm
      · cases hm
      · rw [List.mem_singleton.mp hm] at hmember
        exact absurd hexempt hmember
  · exact List.mem_append_right _ (hr m hm hmember)

end Record

namespace ControlPlane

/-- How the objects of a kind are written. -/
def Kind.record : (k : Kind) → Record k.Object
  | .policy .tier1 => Tier1.record
  | .policy .localeService => LocaleService.record
  | .policy .segment => Segment.record
  | .policy .ipAllocation => IpAllocation.record
  | .policy .natRule => NatRule.record
  | .policy .dhcpServerConfig => DhcpServerConfig.record
  | .manager .dhcpProfile => DhcpProfile.record
  | .manager .dhcpServer => DhcpServer.record
  | .manager .logicalPort => LogicalPort.record
  | .manager .dhcpIpPool => DhcpIpPool.record

/-- The tags of an object. -/
def Kind.tags (k : Kind) (o : k.Object) : List Tag :=
  match k, o with
  | .policy .tier1, o => o.tags
  | .policy .localeService, o => o.tags
  | .policy .segment, o => o.tags
  | .policy .ipAllocation, o => o.tags
  | .policy .natRule, o => o.tags
  | .policy .dhcpServerConfig, o => o.tags
  | .manager k, o => k.tags o

/-- The kinds of routes that an object advertises. -/
def Kind.advertised (k : Kind) (o : k.Object) : List String :=
  match k, o with
  | .policy .tier1, o => o.routeAdvertisementTypes
  | _, _ => []

end ControlPlane

namespace Pipeline

open Cluster (InfraError Reference Slot Spec State)
open ControlPlane Program

variable {k : Kind} {c : Context} {spec : Spec} {s s' : State} {es : List Event}
  {b b' : Testbed} {place : Place}

/-! ### What the comparison lets pass -/

/-- The members whose values have no order. -/
def unorderedMembers : List String := ["tags", "route_advertisement_types"]

/-- Whether an object has all that a desired one sets. -/
structure Meets (k : Kind) (current desired : k.Object) : Prop where
  /-- It is written with every member that the desired one is written with. -/
  members : k.record.Covers unorderedMembers desired current
  /-- It has the same values under the same scopes. -/
  tags : TagSet.ofTags (k.tags current) = TagSet.ofTags (k.tags desired)
  /-- It advertises the same kinds of routes, in any order. -/
  routes : (k.advertised current).Perm (k.advertised desired)

/-- Whether an object leaves open what the control plane decides. -/
def IsOpen (k : Kind) (o : k.Object) : Prop :=
  match k, o with
  | .policy .tier1, o => o.id = none ∧ o.path = none
  | .policy .localeService, o => o.id = none ∧ o.path = none
  | .policy .segment, o => o.id = none ∧ o.path = none
  | .policy .ipAllocation, o => o.id = none ∧ o.path = none ∧ o.allocationIp = none
  | .policy .natRule, o => o.id = none ∧ o.path = none
  | .policy .dhcpServerConfig, o => o.id = none ∧ o.path = none
  | .manager k, o => k.id? o = none ∧ k.revision? o = none

/-- A draft leaves open what the control plane decides. -/
theorem isOpen_of_draft {identity : ClusterIdentity} {parent : String} {o : k.Object}
    (h : draft identity spec s k = .ok (parent, o)) : IsOpen k o := by
  match k with
  | .policy .tier1 | .manager .dhcpProfile =>
    obtain ⟨r, -, h⟩ := ok_of_bind h
    obtain ⟨-, rfl⟩ := Prod.mk.inj (Except.ok.inj h)
    exact ⟨rfl, rfl⟩
  | .policy .ipAllocation =>
    obtain ⟨r, -, h⟩ := ok_of_bind h
    obtain ⟨-, rfl⟩ := Prod.mk.inj (Except.ok.inj h)
    exact ⟨rfl, rfl, rfl⟩
  | .policy .localeService | .policy .dhcpServerConfig | .manager .dhcpServer
  | .manager .logicalPort | .manager .dhcpIpPool =>
    obtain ⟨r, -, h⟩ := ok_of_bind h
    obtain ⟨r', -, h⟩ := ok_of_bind h
    obtain ⟨-, rfl⟩ := Prod.mk.inj (Except.ok.inj h)
    exact ⟨rfl, rfl⟩
  | .policy .segment | .policy .natRule =>
    obtain ⟨r, -, h⟩ := ok_of_bind h
    obtain ⟨r', -, h⟩ := ok_of_bind h
    obtain ⟨r'', -, h⟩ := ok_of_bind h
    obtain ⟨-, rfl⟩ := Prod.mk.inj (Except.ok.inj h)
    exact ⟨rfl, rfl⟩

theorem perm_of_sorted_eq {texts texts' : List String}
    (h : Text.sorted texts = Text.sorted texts') : texts.Perm texts' := by
  have hsorted := List.mergeSort_perm texts fun s t => !Text.isBefore t s
  have hsorted' := List.mergeSort_perm texts' fun s t => !Text.isBefore t s
  rw [Text.sorted, Text.sorted] at h
  rw [h] at hsorted
  exact hsorted.symm.trans hsorted'

/-- What an object is written with that passes the comparison: each member is compared, left out
where nothing is desired, or has no order. -/
theorem covers_of_agrees {current desired : k.Object} (hopen : IsOpen k desired)
    (h : agrees k current desired = true) : k.record.Covers unorderedMembers desired current := by
  rcases k with k | k <;> cases k <;>
    simp only [agrees, Bool.and_eq_true, beq_iff_eq, IsOpen, ManagerKind.id?,
      ManagerKind.revision?] at h hopen
  all_goals
    repeat' first | exact Record.Covers.nil | refine Record.Covers.field ?_ ?_
  all_goals
    simp [h, hopen, Field.optional, Field.items, Field.itemsIfAny, Field.defaulted,
      unorderedMembers]

/-- **An object that passes the comparison has all that is desired.** -/
theorem meets_of_agrees {current desired : k.Object} (hopen : IsOpen k desired)
    (h : agrees k current desired = true) : Meets k current desired := by
  have htags : TagSet.ofTags (k.tags current) = TagSet.ofTags (k.tags desired) := by
    rcases k with k | k <;> cases k <;>
      exact of_decide_eq_true ((Bool.and_eq_true _ _).mp h).2
  have hroutes : (k.advertised current).Perm (k.advertised desired) := by
    match k with
    | .policy .tier1 =>
      have hsorted := ((Bool.and_eq_true _ _).mp ((Bool.and_eq_true _ _).mp h).1).2
      exact perm_of_sorted_eq (eq_of_beq hsorted)
    | .policy .localeService | .policy .segment | .policy .ipAllocation | .policy .natRule
    | .policy .dhcpServerConfig | .manager _ => exact .refl _
  exact ⟨covers_of_agrees hopen h, htags, hroutes⟩

/-! ### What allocations keep -/

/-- Declaring an object leaves the others of its kind as they are. -/
theorem Built.find?_of_not_drew {parent : String} {pk : PolicyKind} {current desired : pk.Object}
    {left : Left Action} (h : Built parent s (.policy pk) desired es left)
    (hqueued : b.queued = []) (hreplies : Replies Testbed.perform es b b')
    (hdrew : ¬ b.plane.Drew b'.plane place.id)
    (hfind : b.plane.inventory.find? (.policy pk) place = some current) :
    b'.plane.inventory.find? (.policy pk) place = some current := by
  cases h with
  | declared id =>
    obtain ⟨rfl, hreplies⟩ := Testbed.replies_drawId hreplies
    have hdrawn : b.plane.drawnIds < b'.plane.drawnIds :=
      Testbed.drawnIds_le_of_replies (b := { b with plane := b.plane.drawId.2 }) hreplies hqueued
    have hother : place ≠ ⟨parent, b.plane.freshId b.plane.drawnIds⟩ := by
      rintro rfl
      exact hdrew ⟨_, Nat.le_refl _, hdrawn, rfl⟩
    have hanswer := Testbed.replies_called (b := { b with plane := b.plane.drawId.2 }) hqueued
      hreplies
    rw [Simulator.patch_of_answer_ok hanswer, Inventory.find?_put_of_ne hother]
    exact hfind
  | undeclared id e =>
    obtain ⟨-, hreplies⟩ := Testbed.replies_drawId hreplies
    have hanswer := Testbed.replies_called (b := { b with plane := b.plane.drawId.2 }) hqueued
      hreplies
    rw [Simulator.inventory_of_answer_error hanswer]
    exact hfind

/-- Changing an allocation leaves the address that it asks for as it is, and the other allocations
as they are. -/
theorem Overwritten.keepsAddress {at' : Place} {current desired o : IpAllocation}
    {left : Left Action}
    (h : Overwritten at' s (.policy .ipAllocation) current desired es left)
    (hqueued : b.queued = []) (hreplies : Replies Testbed.perform es b b')
    (hcurrent : b.plane.inventory.find? (.policy .ipAllocation) at' = some current)
    (hfind : b.plane.inventory.find? (.policy .ipAllocation) place = some o) :
    ∃ o' : IpAllocation, b'.plane.inventory.find? (.policy .ipAllocation) place = some o' ∧
      o'.allocationIp = o.allocationIp := by
  cases h with
  | declared =>
    rw [Simulator.patch_of_answer_ok (Testbed.replies_called hqueued hreplies)]
    by_cases hplace : place = at'
    · subst hplace
      obtain rfl : current = o := Option.some.inj (hcurrent.symm.trans hfind)
      exact ⟨_, Inventory.find?_put_self .., rfl⟩
    · exact ⟨o, (Inventory.find?_put_of_ne hplace).trans hfind, rfl⟩
  | undeclared e =>
    rw [Simulator.inventory_of_answer_error (Testbed.replies_called hqueued hreplies)]
    exact ⟨o, hfind, rfl⟩

theorem Ensured.keepsAddress {o : IpAllocation} {left : Left Action}
    (h : Ensured (.policy .ipAllocation) c spec s es left) (hqueued : b.queued = [])
    (hreplies : Replies Testbed.perform es b b') (hdrew : ¬ b.plane.Drew b'.plane place.id)
    (hfind : b.plane.inventory.find? (.policy .ipAllocation) place = some o) :
    ∃ o' : IpAllocation, b'.plane.inventory.find? (.policy .ipAllocation) place = some o' ∧
      o'.allocationIp = o.allocationIp := by
  cases h with
  | undrafted hdraft =>
    rw [replies_nil.mp hreplies]
    exact ⟨o, hfind, rfl⟩
  | first hdraft href h => exact ⟨o, h.find?_of_not_drew hqueued hreplies hdrew hfind, rfl⟩
  | kept hdraft href hagrees =>
    rw [(Simulator.get_of_answer_ok (Testbed.replies_called hqueued hreplies)).2]
    exact ⟨o, hfind, rfl⟩
  | changed hdraft href hagrees h =>
    obtain ⟨plane, hanswer, hreplies⟩ := Testbed.replies_call hqueued hreplies
    obtain ⟨hcurrent, hsame⟩ := Simulator.get_of_answer_ok hanswer
    rw [← hsame] at hcurrent hfind
    exact h.keepsAddress (b := { b with plane }) hqueued hreplies hcurrent hfind
  | @again parent o' r e es _ hdraft href he h =>
    obtain ⟨plane, hanswer, hreplies⟩ := Testbed.replies_call hqueued hreplies
    rw [← Simulator.inventory_of_answer_error hanswer] at hfind
    have hplane : (Simulator.answer _ b.plane).2 = plane := congrArg Prod.snd hanswer
    have hlater : ¬ plane.Drew b'.plane place.id := by
      rw [← hplane]
      exact fun hlater =>
        hdrew (hlater.after (Simulator.drawnIds_le_answer _ _) (Simulator.freshId_answer _ _))
    exact ⟨o, h.find?_of_not_drew (b := { b with plane }) hqueued hreplies hlater hfind, rfl⟩
  | unread hdraft href he =>
    rw [Simulator.inventory_of_answer_error (Testbed.replies_called hqueued hreplies)]
    exact ⟨o, hfind, rfl⟩

/-- **No task changes the address that an allocation asks for.** -/
theorem runTask_keepsAddress {t : Task} {o : IpAllocation} {left : Left Action}
    (hqueued : b.queued = []) (h : b.run (runTask t c spec s) = (some left, b'))
    (hdrew : ¬ b.plane.Drew b'.plane place.id)
    (hfind : b.plane.inventory.find? (.policy .ipAllocation) place = some o) :
    ∃ o' : IpAllocation, b'.plane.inventory.find? (.policy .ipAllocation) place = some o' ∧
      o'.allocationIp = o.allocationIp := by
  by_cases ht : t = .managed (.policy .ipAllocation)
  · subst ht
    obtain ⟨es, left', hensured, hreplies, -⟩ :=
      ensured_of_run (recoverIfLost_of_recover? rfl c s) h
    exact hensured.keepsAddress hqueued hreplies hdrew hfind
  · rw [Inventory.find?, table_runTask_of_ne hqueued h ht]
    exact ⟨o, hfind, rfl⟩

/-- Nor do tasks that are run one after the other. -/
theorem runTasks_keepsAddress {ts : List Task} {o : IpAllocation} {left : Left (List Outcome)}
    (hqueued : b.queued = []) (h : b.run (runTasks c spec ts s) = (some left, b'))
    (hdrew : ¬ b.plane.Drew b'.plane place.id)
    (hfind : b.plane.inventory.find? (.policy .ipAllocation) place = some o) :
    ∃ o' : IpAllocation, b'.plane.inventory.find? (.policy .ipAllocation) place = some o' ∧
      o'.allocationIp = o.allocationIp := by
  refine (runTasks_invariant (P := fun b₁ _ => b₁.queued = [] ∧
    b.plane.drawnIds ≤ b₁.plane.drawnIds ∧ b₁.plane.freshId = b.plane.freshId ∧
    (¬ b.plane.Drew b₁.plane place.id →
      ∃ o' : IpAllocation, b₁.plane.inventory.find? (.policy .ipAllocation) place = some o' ∧
        o'.allocationIp = o.allocationIp))
    ?_ ⟨hqueued, Nat.le_refl _, rfl, fun _ => ⟨o, hfind, rfl⟩⟩ h).2.2.2 hdrew
  rintro t b₁ b₂ s left ⟨hqueued₁, hdrawn₁, hids₁, hkept₁⟩ hrun
  obtain ⟨es, htrace, hreplies⟩ := run_eq_some_iff.mp hrun
  have hdrawn₂ := Testbed.drawnIds_le_of_replies hreplies hqueued₁
  have hids₂ := (Testbed.replies_settings hreplies hqueued₁).2.2
  refine ⟨(Testbed.replies_same hreplies hqueued₁).1, Nat.le_trans hdrawn₁ hdrawn₂,
    hids₂.trans hids₁, fun hdrew => ?_⟩
  obtain ⟨o₁, hfind₁, hsame₁⟩ := hkept₁ fun hbefore => hdrew (hbefore.mono hdrawn₂)
  obtain ⟨o₂, hfind₂, hsame₂⟩ := runTask_keepsAddress hqueued₁ hrun
    (fun hlater => hdrew (hlater.after hdrawn₁ hids₁)) hfind₁
  exact ⟨o₂, hfind₂, hsame₂.trans hsame₁⟩

/-! ### Runs that succeeded -/

/-- An object of the cluster that is there and is as it should be. It lies under its own reference
and under the owner that is known. -/
def Converged (identity : ClusterIdentity) (spec : Spec) (k : Kind) (w : World) : Prop :=
  ∃ parent desired r current, parentOf k w.2 = some parent ∧
    draft identity spec w.2 k = .ok (parent, desired) ∧ w.2.reference (slot k) = some r ∧
    w.1.inventory.find? k ⟨parent, r.id⟩ = some current ∧ Meets k current desired

theorem Settled.converged (h : Settled c spec (.managed k) (b.plane, s)) :
    Converged c.identity spec k (b.plane, s) := by
  obtain ⟨parent, desired, r, current, hdraft, href, hfind, hagrees⟩ := h
  exact ⟨parent, desired, r, current, parentOf_of_draft hdraft, hdraft, href, hfind,
    meets_of_agrees (isOpen_of_draft hdraft) hagrees⟩

/-- Whether a control plane says that the allocation at a path has become an address. -/
def Reports (s : Simulator) (path address : String) : Prop :=
  ∃ entities, s.realized path = (.ok entities, s) ∧ addressOf entities = some address

theorem HasAddress.reports {s : Simulator} {path address : String}
    (h : HasAddress s path address) : Reports s path address := by
  obtain ⟨entities, hrealized, hpoll⟩ := h.realized
  obtain ⟨address', haddress, heq⟩ := Option.map_eq_some_iff.mp hpoll
  obtain rfl := Except.ok.inj heq
  exact ⟨entities, hrealized, haddress⟩

/-- A rule that is settled translates to the address that is known. -/
theorem Settled.translates (h : Settled c spec (.managed (.policy .natRule)) (b.plane, s)) :
    ∃ parent r address, ∃ rule : NatRule, parentOf (.policy .natRule) s = some parent ∧
      s.reference .snatRule = some r ∧ s.snatIpAddress = some address ∧
      b.plane.inventory.find? (.policy .natRule) ⟨parent, r.id⟩ = some rule ∧
      rule.translatedNetwork = some address := by
  obtain ⟨parent, desired, r, current, hdraft, href, hfind, hagrees⟩ := h
  have hparent := parentOf_of_draft hdraft
  obtain ⟨address, haddress, hdraft⟩ := ok_of_bind hdraft
  obtain ⟨workers, -, hdraft⟩ := ok_of_bind hdraft
  obtain ⟨gateway, -, hdraft⟩ := ok_of_bind hdraft
  obtain ⟨-, rfl⟩ := Prod.mk.inj (Except.ok.inj hdraft)
  have hknown : s.snatIpAddress = some address := by
    rw [requireAddress] at haddress
    split at haddress
    · next known hknown =>
      obtain rfl := Except.ok.inj haddress
      exact hknown
    · cases haddress
  simp only [agrees, Bool.and_eq_true, beq_iff_eq] at hagrees
  exact ⟨parent, r, address, current, hparent, href, hknown, hfind, by simp only [hagrees, natRule]⟩

/-- **A run that succeeds has brought everything about.** Whatever the control plane holds and
whoever has changed it, behind a run that succeeded every object of the cluster is there, under its
reference and under the owner that is known, and has all that is desired of it. Every allocation
asks for the same address as before, and the rule translates to the address that is known, which is
the one that the control plane reports for the allocation. -/
theorem run_converges (g : Generation) (c : Context) (spec : Spec) (s s' : State) (b b' : Testbed)
    (outcomes : List Outcome) (hqueued : b.queued = [])
    (hrun : b.run (run g c spec s) = (some (.ok outcomes, s'), b')) :
    (∀ k, .managed k ∈ tasks g → Converged c.identity spec k (b'.plane, s')) ∧
    (∀ (place : Place) (o : IpAllocation),
      b.plane.inventory.find? (.policy .ipAllocation) place = some o →
      ¬ b.plane.Drew b'.plane place.id →
      ∃ o' : IpAllocation, b'.plane.inventory.find? (.policy .ipAllocation) place = some o' ∧
        o'.allocationIp = o.allocationIp) ∧
    (∃ allocation address parent r, ∃ rule : NatRule,
      s'.reference .snatIpAllocation = some allocation ∧ s'.snatIpAddress = some address ∧
      Reports b'.plane allocation.path address ∧
      parentOf (.policy .natRule) s' = some parent ∧ s'.reference .snatRule = some r ∧
      b'.plane.inventory.find? (.policy .natRule) ⟨parent, r.id⟩ = some rule ∧
      rule.translatedNetwork = some address) := by
  rw [run] at hrun
  split at hrun
  · cases (run_done_eq_some_iff.mp hrun).1
  · have hsettled := settled_of_runTasks (undisturbed_tasks g) hqueued hrun
    have hrealization : Task.realization ∈ tasks g := by cases g <;> decide
    have hrule : Task.managed (.policy .natRule) ∈ tasks g := by cases g <;> decide
    obtain ⟨allocation, address, hallocation, haddress, hrealized, -⟩ :=
      hsettled .realization hrealization
    obtain ⟨parent, r, address', rule, hparent, href, haddress', hfind, htranslated⟩ :=
      (hsettled _ hrule).translates
    obtain rfl : address = address' := Option.some.inj (haddress.symm.trans haddress')
    refine ⟨fun k hmem => (hsettled _ hmem).converged, fun place o hfind hdrew => ?_, ?_⟩
    · exact runTasks_keepsAddress hqueued hrun hdrew hfind
    · exact ⟨allocation, address, parent, r, rule, hallocation, haddress, hrealized.reports,
        hparent, href, hfind, htranslated⟩

/-- Where the allocation of the first run lies. -/
def firstAllocation : Place := ⟨"snat", Text.numberedId 3⟩

/-- The control plane behind a first run, on which someone has changed the gateway and the
allocation. -/
def driftedPlane : Simulator :=
  (firstRun.2.plane.editBehind (.policy .tier1) ⟨"", Text.numberedId 0⟩ fun o =>
      { o with failoverMode := none, routeAdvertisementTypes := [] }).editBehind
    (.policy .ipAllocation) firstAllocation fun o =>
      { o with displayName := none, allocationIp := some "198.51.100.7" }

/-- The run that comes upon the changes. -/
def correctingRun : Option (Left (List Outcome)) × Testbed :=
  ({ plane := driftedPlane } : Testbed).run
    (run .v2 { identity := typicalCluster.identity, rounds := 3 } typicalCluster
      (firstRun.1.elim .fresh Prod.snd))

/-- What someone has changed is put right, and the address asked for stays. -/
theorem run_converges_drifted :
    ∃ outcomes s', correctingRun.1 = some (.ok outcomes, s') ∧
      (∀ k, .managed k ∈ tasks .v2 →
        Converged typicalCluster.identity typicalCluster k (correctingRun.2.plane, s')) ∧
      (∃ o : IpAllocation, correctingRun.2.plane.inventory.find? (.policy .ipAllocation)
        firstAllocation = some o ∧ o.allocationIp = some "198.51.100.7") := by
  have hok : correctingRun.1.any (·.1.isOk) = true := by decide +kernel
  obtain ⟨⟨result, s'⟩, hleft, hresult⟩ := (Option.any_eq_true _ _).mp hok
  cases result with
  | error e => cases hresult
  | ok outcomes =>
    obtain ⟨hconverged, hkept, -⟩ := run_converges .v2 _ typicalCluster _ s' _ correctingRun.2
      outcomes rfl (Prod.ext hleft rfl)
    have hasked : (driftedPlane.inventory.find? (.policy .ipAllocation) firstAllocation).any
        (fun o : IpAllocation => o.allocationIp == some "198.51.100.7") = true := by
      decide +kernel
    obtain ⟨o, hfind, haddress⟩ := (Option.any_eq_true _ _).mp hasked
    have hdrew : ¬ driftedPlane.Drew correctingRun.2.plane firstAllocation.id := by
      have hdrawn : correctingRun.2.plane.drawnIds = driftedPlane.drawnIds := by decide +kernel
      rintro ⟨n, hfirst, hlast, -⟩
      exact absurd (hdrawn ▸ hlast) (Nat.not_lt.mpr hfirst)
    obtain ⟨o', hfind', hsame⟩ := hkept firstAllocation o hfind hdrew
    exact ⟨outcomes, s', hleft, hconverged, o', hfind', hsame.trans (eq_of_beq haddress)⟩

end Pipeline

end ClusterNet
