import ClusterNet.Proofs.Pipeline.Takedown
import Mathlib.Data.List.Nodup

/-!
# Where references lead

A reference is written when an object has been created or adopted, and it is the id and the path of
the object's place. The place lies under what the object belongs to at that time, so whatever can
be read from a path is what was known then. What it belongs to is known as long as the reference is
held: runs forget nothing, and takedowns forget owners last.

Nothing of this depends on who answers, or on the generations of the control plane that a state has
met, as long as the ids that were drawn can be part of a path.

## Main definitions

* `Pipeline.Homed` — every reference is one to a place whose owner is known
* `Pipeline.DrawsIds` — the ids that were drawn can be part of a path

## Main results

* `Pipeline.runTask_own` — a task keeps its reference, or writes one to a place under its owner
* `Pipeline.Homed.run`, `Homed.takeDownTasks` — runs and takedowns keep references homed
* `Pipeline.Homed.ownerOf` — what is deleted by a homed reference is known
-/

namespace ClusterNet

namespace Pipeline

open Cluster (InfraError Reference Slot Spec State)
open ControlPlane Program

variable {s s' s₁ : State} {k : Kind} {t : Task} {ts : List Task} {es es₁ es₂ : List Event}
  {g : Generation} {c : Context} {spec : Spec} {r : Reference}

/-! ### What a task writes -/

/-- A reference to a place under what objects of a kind belong to, by what a state knows. The id of
a declared object was drawn. -/
def Written (k : Kind) (s : State) (es : List Event) (r : Reference) : Prop :=
  ∃ place : Place, r = ⟨place.id, k.path place⟩ ∧ parentOf k s = some place.parent ∧
    ∀ pk, k = .policy pk → drawn place.id ∈ es

theorem Written.mono {es' : List Event} (h : Written k s es r) (hes : es ⊆ es') :
    Written k s es' r := by
  obtain ⟨place, hplace, hparent, hdrawn⟩ := h
  exact ⟨place, hplace, hparent, fun pk hk => hes (hdrawn pk hk)⟩

theorem Written.congr (h : Written k s₁ es r) (hparent : parentOf k s₁ = parentOf k s) :
    Written k s es r := by
  rwa [Written, hparent] at h

/-- An object that is adopted is found under what it belongs to. -/
theorem listingParent_eq_parentOf (k : ManagerKind) (s : State) :
    listingParent k s = parentOf (.manager k) s := by
  cases k <;> rfl

theorem Built.own {parent : String} {o : k.Object} {left : Left Action}
    (h : Built parent s k o es left) (hparent : parentOf k s = some parent)
    (href : left.2.reference (slot k) = some r) :
    s.reference (slot k) = some r ∨ Written k s es r := by
  have hwritten : ∀ {k : Kind} (o : k.Object) {id : String},
      (recorded k parent id o s).reference (slot k) = some r → r = ⟨id, k.path ⟨parent, id⟩⟩ := by
    intro k o id hrecorded
    rw [reference_recorded, State.reference_withReference_self] at hrecorded
    exact (Option.some.inj hrecorded).symm
  cases h with
  | @declared k o id => exact .inr ⟨⟨parent, id⟩, hwritten o href, hparent, fun _ _ => .head _⟩
  | @created k o answer id hid =>
    exact .inr ⟨⟨parent, id⟩, hwritten o href, hparent, fun _ hk => nomatch hk⟩
  | undeclared | nameless | uncreated => exact .inl href

theorem Ensured.own {left : Left Action} (h : Ensured k c spec s es left)
    (href : left.2.reference (slot k) = some r) :
    s.reference (slot k) = some r ∨ Written k s es r := by
  have hopened : ∀ {r}, (opened k s).reference (slot k) = some r → s.reference (slot k) = some r :=
    fun h => (reference_opened k s (slot k)).symm.trans h
  cases h with
  | undrafted hdraft => exact .inl href
  | first hdraft hnone h =>
    have hparent := (parentOf_opened k k s).trans (parentOf_of_draft hdraft)
    exact (h.own hparent href).imp hopened fun hw => hw.congr (parentOf_opened k k s)
  | kept hdraft hset hagrees => exact .inl (hopened href)
  | changed hdraft hset hagrees h => exact .inl (hopened ((h.reference (slot k)).symm.trans href))
  | again hdraft hset he h =>
    have hparent := (parentOf_opened k k s).trans (parentOf_of_draft hdraft)
    refine (h.own hparent href).imp hopened fun hw => ?_
    exact (hw.congr (parentOf_opened k k s)).mono (List.subset_cons_self _ _)
  | unread hdraft hset he => exact .inl (hopened href)

/-- Filling a kind's slot does not change what its objects belong to. -/
theorem parentOf_withReference (k : Kind) (s : State) (r : Option Reference) :
    parentOf k (s.withReference (slot k) r) = parentOf k s :=
  parentOf_congr fun slot' howner => State.reference_withReference_of_ne s
    (fun heq : slot' = slot k => ownerSlot_ne_slot k (heq ▸ howner)) r

/-- **A task keeps its reference, or writes one** to a place under what its object belongs to. -/
theorem runTask_own {left : Left Action} (h : (runTask (.managed k) c spec s).Trace es left)
    (href : left.2.reference (slot k) = some r) :
    s.reference (slot k) = some r ∨ Written k s es r := by
  rw [runTask, bind_eq, trace_bind_iff] at h
  obtain ⟨es₁, es₂, left₁, rfl, h₁, h₂⟩ := h
  rcases recoverIfLost_left h₁ with ⟨e, rfl⟩ | ⟨s₁, rfl, hrecovered⟩
  · obtain ⟨-, rfl⟩ := trace_done_iff.mp h₂
    exact .inl href
  · obtain ⟨left₂, h₃, rfl⟩ := trace_bind_done_iff.mp h₂
    have hown := (ensured_of_trace h₃).own href
    rcases hrecovered with rfl | ⟨mk, parent, id, htask, -, -, hparent, rfl, -⟩
    · exact hown.imp_right fun hw => hw.mono (List.subset_append_right _ _)
    · obtain rfl : k = .manager mk := Task.managed.inj htask
      rw [listingParent_eq_parentOf] at hparent
      rcases hown with hset | hw
      · rw [State.reference_withReference_self] at hset
        exact .inr ⟨⟨parent, id⟩, (Option.some.inj hset).symm, hparent, fun _ hk => by cases hk⟩
      · refine .inr ((hw.congr (parentOf_withReference _ s _)).mono ?_)
        exact List.subset_append_right _ _

/-- Whatever a task does, a reference is the one that it was, or one that was written. -/
theorem runTask_writes {left : Left Action} (h : (runTask t c spec s).Trace es left)
    (href : left.2.reference (slot k) = some r) :
    s.reference (slot k) = some r ∨ Written k s es r := by
  by_cases hown : t.slot = some (slot k)
  · obtain rfl : t = .managed k := Task.slot_injective hown
    exact runTask_own h href
  · exact .inl (((runTask_advanced h).1.others (slot k) hown).symm.trans href)

/-! ### Homed references -/

/-- **Every reference leads to a place whose owner is known.** -/
structure Homed (s : State) : Prop where
  /-- A reference is the id and the path of a place. A gateway that the place lies under has an id
  that can be read from the path. -/
  placed : ∀ k r, s.reference (slot k) = some r → ∃ place : Place,
    r = ⟨place.id, k.path place⟩ ∧ (ownerSlot k = some .tier1Gateway → Path.IsId place.parent)
  /-- The id of the gateway can be part of a path. -/
  gateway : ∀ r, s.reference .tier1Gateway = some r → Path.IsId r.id
  /-- What an object belongs to is known. -/
  owned : ∀ k, (s.reference (slot k)).isSome → (parentOf k s).isSome

theorem homed_fresh : Homed .fresh where
  placed k r href := nomatch (reference_fresh (slot k)).symm.trans href
  gateway r href := nomatch (reference_fresh .tier1Gateway).symm.trans href
  owned k href := by
    rw [reference_fresh] at href
    exact nomatch href

/-- **What is to be deleted by a homed reference is known.** -/
theorem Homed.ownerOf (h : Homed s) (href : s.reference (slot k) = some r) :
    ∃ parent, ownerOf k s r = .ok parent := by
  by_cases howner : ownerSlot k = some .tier1Gateway
  · obtain ⟨pk, rfl, hpk⟩ := eq_policy_of_ownerSlot howner
    obtain ⟨place, rfl, hparent⟩ := h.placed (.policy pk) r href
    exact ⟨place.parent, ownerOf_path hpk (hparent howner) s⟩
  · have hset : (parentOf k s).isSome := h.owned k (by rw [href]; rfl)
    obtain ⟨parent, hparent⟩ := Option.isSome_iff_exists.mp hset
    exact ⟨parent, ownerOf_of_parentOf howner hparent r⟩

/-- What is belonged to stays known while no slot is emptied. -/
theorem isSome_parentOf (h : ∀ slot', (s.reference slot').isSome → (s'.reference slot').isSome)
    (hset : (parentOf k s).isSome) : (parentOf k s').isSome := by
  rw [parentOf] at hset ⊢
  split
  · rfl
  · next slot' howner =>
    rw [howner, Option.isSome_map] at hset
    rw [Option.isSome_map]
    exact h slot' hset

/-! ### Runs -/

/-- Whether the ids that were drawn can be part of a path. -/
def DrawsIds (es : List Event) : Prop := ∀ id, drawn id ∈ es → Path.IsId id

theorem DrawsIds.mono {es' : List Event} (h : DrawsIds es') (hes : es ⊆ es') : DrawsIds es :=
  fun id hmem => h id (hes hmem)

/-- Ids that are drawn on a testbed are those that its control plane gives away. -/
theorem drawsIds_of_replies {b b' : Testbed} (hqueued : b.queued = [])
    (hids : ∀ n, Path.IsId (b.plane.freshId n)) (h : Replies Testbed.perform es b b') :
    DrawsIds es := by
  induction es generalizing b with
  | nil => exact fun id hmem => absurd hmem List.not_mem_nil
  | cons e es ih =>
    have hsettings : Part.settings.Same b.plane (Testbed.perform e.1 b).2.plane :=
      Testbed.replies_settings (show Replies Testbed.perform [e] b _ from ⟨h.1, rfl⟩) hqueued
    have hids' : ∀ n, Path.IsId ((Testbed.perform e.1 b).2.plane.freshId n) := fun n => by
      rw [hsettings.2.2]
      exact hids n
    intro id hmem
    rcases List.mem_cons.mp hmem with rfl | hmem
    · obtain ⟨hid, -⟩ := Testbed.replies_drawId h
      rw [hid]
      exact hids _
    · exact ih (Testbed.queued_perform hqueued e.1) hids' h.2 id hmem

/-- **A task keeps references homed.** -/
theorem Homed.runTask (h : Homed s) (hids : DrawsIds es) {left : Left Action}
    (htrace : (Pipeline.runTask t c spec s).Trace es left) : Homed left.2 := by
  constructor
  · intro k r href
    rcases runTask_writes htrace href with hkept | ⟨place, hplace, hparent, -⟩
    · exact h.placed k r hkept
    · refine ⟨place, hplace, fun howner => ?_⟩
      rw [parentOf, howner] at hparent
      obtain ⟨gateway, hgateway, hid⟩ := Option.map_eq_some_iff.mp hparent
      exact hid ▸ h.gateway gateway hgateway
  · intro r href
    rcases runTask_writes (k := .policy .tier1) htrace href with hkept | ⟨place, rfl, -, hdrawn⟩
    · exact h.gateway r hkept
    · exact hids _ (hdrawn .tier1 rfl)
  · intro k hset
    refine isSome_parentOf (runTask_advanced htrace).1.isSome ?_
    obtain ⟨r, href⟩ := Option.isSome_iff_exists.mp hset
    rcases runTask_writes htrace href with hkept | ⟨place, -, hparent, -⟩
    · exact h.owned k (by rw [hkept]; rfl)
    · rw [hparent]
      rfl

theorem Homed.runTasks (h : Homed s) (hids : DrawsIds es) {left : Left (List Outcome)}
    (htrace : (Pipeline.runTasks c spec ts s).Trace es left) : Homed left.2 := by
  induction ts generalizing s es left with
  | nil =>
    obtain ⟨-, rfl⟩ := trace_done_iff.mp htrace
    exact h
  | cons t ts ih =>
    rw [Pipeline.runTasks, bind_eq, trace_bind_iff] at htrace
    obtain ⟨es₁, es₂, ⟨result, s₁⟩, rfl, h₁, h₂⟩ := htrace
    have hfirst : Homed s₁ := h.runTask (hids.mono (List.subset_append_left _ _)) h₁
    cases result with
    | error e =>
      obtain ⟨-, rfl⟩ := trace_done_iff.mp h₂
      exact hfirst
    | ok action =>
      obtain ⟨left', h₃, rfl⟩ := trace_bind_done_iff.mp h₂
      have hrest := ih hfirst (hids.mono (List.subset_append_right _ _)) h₃
      exact hrest

/-- **A run keeps references homed**, wherever it stops. -/
theorem Homed.run (h : Homed s) (hids : DrawsIds es) {left : Left (List Outcome)}
    (htrace : (Pipeline.run g c spec s).Trace es left) : Homed left.2 := by
  rw [Pipeline.run] at htrace
  split at htrace
  · obtain ⟨-, rfl⟩ := trace_done_iff.mp htrace
    exact h
  · exact h.runTasks hids htrace

/-! ### Takedowns -/

/-- A takedown clears the slots of the tasks that are done. -/
theorem takeDownTasks_cleared (hts : ts = tasks g ∨ ts = teardownTasks g s)
    {left : Left (List String)} (h : (takeDownTasks ts s).Trace es left) :
    ∃ done, Cleared done s left.2 := by
  rcases removeAll_cases (ownersLast_takeDown hts).2 h with
    ⟨labels, s', rfl, hall⟩ |
    ⟨done, k, rest, e, s', -, rfl, es₁, es₂, labels, source, -, -, hdone, -⟩
  · exact ⟨_, hall.cleared⟩
  · exact ⟨done, hdone.cleared⟩

/-- A takedown learns nothing. -/
theorem Cleared.reference_of_some (h : Cleared ts s s') {slot' : Slot}
    (href : s'.reference slot' = some r) : s.reference slot' = some r := by
  by_cases hmem : slot' ∈ slotsOf ts
  · exact nomatch (h.lost slot' hmem).symm.trans href
  · exact (h.kept slot' hmem).symm.trans href

/-- In a takedown, what objects belong to comes behind them, if it comes at all. -/
theorem owner_behind (hts : ts = tasks g ∨ ts = teardownTasks g s) {slot' : Slot}
    (howner : ownerSlot k = some slot') :
    [Item.reference (slot k), .reference slot'].Sublist (ts.reverse.map Task.item) ∨
      Item.reference slot' ∉ ts.reverse.map Task.item := by
  match k with
  | .policy .localeService | .policy .segment | .policy .natRule | .policy .ipAllocation
  | .manager .dhcpIpPool =>
    obtain rfl := Option.some.inj howner
    rcases takeDown_pipelines hts with rfl | rfl | rfl <;> decide
  | .policy .tier1 | .policy .dhcpServerConfig | .manager .dhcpProfile | .manager .dhcpServer
  | .manager .logicalPort => exact nomatch howner

/-- **A takedown keeps references homed**, wherever it stops: it forgets owners last. -/
theorem Homed.takeDownTasks (h : Homed s) (hts : ts = tasks g ∨ ts = teardownTasks g s)
    {left : Left (List String)} (htrace : (Pipeline.takeDownTasks ts s).Trace es left) :
    Homed left.2 := by
  obtain ⟨done, hcleared⟩ := takeDownTasks_cleared hts htrace
  have hnodup : (ts.reverse.map Task.item).Nodup :=
    (ownersLast_takeDown hts).1.map Task.item_injective
  have hretracted := removeAll_retracted ts.reverse htrace hnodup
  refine ⟨fun k r href => h.placed k r (hcleared.reference_of_some href),
    fun r href => h.gateway r (hcleared.reference_of_some href), fun k hset => ?_⟩
  have hset' : (s.reference (slot k)).isSome := hretracted.unlearnt (.reference (slot k)) hset
  have hbefore := h.owned k hset'
  rw [parentOf] at hbefore ⊢
  split
  · rfl
  · next slot' howner =>
    rw [howner, Option.isSome_map] at hbefore
    rw [Option.isSome_map]
    rcases owner_behind hts howner with hbehind | hnot
    · have hchain : BackChained [.reference (slot k), .reference slot'] s :=
        List.pairwise_pair.mpr fun _ => hbefore
      exact List.pairwise_pair.mp (hretracted.chained _ hbehind hchain) hset
    · exact (hretracted.others _ hnot).trans hbefore

end Pipeline

end ClusterNet
