import ClusterNet.Proofs.Pipeline.Custody

/-!
# Taking everything down

A takedown goes through the tasks backwards. So when an object is to be deleted, nothing that
depends on it is left: the tasks that look after such objects came first, and they are done. This
is why no deletion is refused because the object is still in use, and why an object that is not
known is not there either.

## Main definitions

* `Pipeline.dependents` — the kinds whose objects may depend on what a task is after
* `Pipeline.Pending` — what is left to be deleted is looked after by the tasks that are left

## Main results

* `Pipeline.takeDown_custody` — a takedown loses sight of nothing, wherever it stops
* `Pipeline.takeDown_lost` — a takedown that succeeds forgets everything
* `Pipeline.takeDown_ok` — a takedown succeeds if no failure is due
-/

namespace ClusterNet

namespace Pipeline

open Cluster (InfraError Reference Slot Spec State)
open ControlPlane Program

variable {s s' : State} {k k' : Kind} {place : Place} {name : String} {rounds : Nat}
variable {b b' : Testbed} {w : World} {t : Task} {g : Generation}

/-! ### Owners -/

/-- Where a required reference is, its id is the one that is known. -/
theorem require_id {task : String} {slot : Slot} {id : String}
    (h : (s.reference slot).map (·.id) = some id) :
    (require task s slot).map (·.id) = .ok id := by
  obtain ⟨r, href, rfl⟩ := Option.map_eq_some_iff.mp h
  rw [require, href]
  rfl

/-- The gateway that an object is deleted under is the one in its path. -/
theorem ownerOf_path {pk : PolicyKind} (hpk : pk.isOfTier1 = true) {place : Place}
    (hparent : Path.IsId place.parent) (s : State) :
    ownerOf (.policy pk) s ⟨place.id, pk.path place⟩ = .ok place.parent := by
  cases pk with
  | localeService | segment | natRule =>
    simp only [ownerOf, hpk, if_true, Path.tier1IdOf?_path hpk hparent]
  | tier1 | ipAllocation | dhcpServerConfig => cases hpk

/-- The owner that an object is deleted under is the one that is known now, for kinds whose objects
do not belong to a gateway. -/
theorem ownerOf_of_parentOf {parent : String} (hk : ownerSlot k ≠ some .tier1Gateway)
    (h : parentOf k s = some parent) (r : Reference) : ownerOf k s r = .ok parent := by
  match k with
  | .policy .ipAllocation | .manager .dhcpIpPool => exact require_id h
  | .policy .localeService | .policy .segment | .policy .natRule => exact absurd rfl hk
  | .policy .tier1 | .policy .dhcpServerConfig | .manager .dhcpProfile | .manager .dhcpServer
  | .manager .logicalPort => exact congrArg Except.ok (Option.some.inj h)

theorem eq_policy_of_ownerSlot (h : ownerSlot k = some .tier1Gateway) :
    ∃ pk : PolicyKind, k = .policy pk ∧ pk.isOfTier1 = true := by
  match k with
  | .policy .localeService | .policy .segment | .policy .natRule => exact ⟨_, rfl, rfl⟩
  | .policy .tier1 | .policy .dhcpServerConfig | .policy .ipAllocation | .manager .dhcpProfile
  | .manager .dhcpServer | .manager .logicalPort | .manager .dhcpIpPool => exact nomatch h

/-- **The owner of an object that is referred to is found.** -/
theorem Custody.ownerOf (h : Custody name rounds w) (hplace : Refers w.2 k place) :
    ownerOf k w.2 ⟨place.id, k.path place⟩ = .ok place.parent := by
  by_cases howner : ownerSlot k = some .tier1Gateway
  · obtain ⟨pk, rfl, hpk⟩ := eq_policy_of_ownerSlot howner
    have hparent := hplace.2
    rw [parentOf, howner] at hparent
    obtain ⟨gateway, hgateway, hid⟩ := Option.map_eq_some_iff.mp hparent
    obtain ⟨place', hplace'⟩ := h.homed (.policy .tier1) gateway hgateway
    have hsame : gateway = ⟨place'.id, (Kind.policy .tier1).path place'⟩ :=
      Option.some.inj (hgateway.symm.trans hplace'.1)
    have hisId : Path.IsId place.parent := by
      rw [← hid, hsame]
      exact h.drawn (.policy .tier1) place' hplace'
    exact ownerOf_path hpk hisId w.2
  · exact ownerOf_of_parentOf howner hplace.2 _

/-! ### One deletion -/

theorem reference_forgotten_self (k : Kind) (s : State) :
    (forgotten k s).reference (slot k) = none :=
  Option.not_isSome_iff_eq_none.mp (Bool.eq_false_iff.mp (retracted_forgotten k s).lost)

theorem reference_forgotten_of_ne (k : Kind) (s : State) {slot' : Slot} (h : slot' ≠ slot k) :
    (forgotten k s).reference slot' = s.reference slot' := by
  match k with
  | .policy .segment =>
    refine Eq.trans ?_ (State.reference_forgetting_of_ne s h)
    cases slot' <;> rfl
  | .policy .tier1 | .policy .localeService | .policy .ipAllocation | .policy .natRule
  | .policy .dhcpServerConfig | .manager _ => exact State.reference_forgetting_of_ne s h

/-- Where there is nothing to delete, no reference changes. -/
theorem reference_withoutObject (href : s.reference (slot k) = none) (slot' : Slot) :
    (withoutObject k s).reference slot' = s.reference slot' := by
  have hforgotten : (forgotten k s).reference slot' = s.reference slot' := by
    by_cases heq : slot' = slot k
    · rw [heq, reference_forgotten_self, href]
    · exact reference_forgotten_of_ne k s heq
  match k with
  | .manager .dhcpIpPool => rfl
  | .policy _ | .manager .dhcpProfile | .manager .dhcpServer | .manager .logicalPort =>
    exact hforgotten

/-- What belongs to an object depends on it. -/
theorem mem_users_of_ownerSlot (h : ownerSlot k' = some (slot k)) : k' ∈ Simulator.users k := by
  revert h
  rcases k with k | k <;> cases k <;> rcases k' with k' | k' <;> cases k' <;> decide

/-- An object that is there no more is forgotten. -/
theorem Custody.forgotten (h : Custody name rounds (b.plane, s)) (hplace : Refers s k place)
    (husers : ∀ k' ∈ Simulator.users k, s.reference (slot k') = none)
    (hgone : ∀ place', b'.plane.inventory.Holds k place' ↔
      place' ≠ place ∧ b.plane.inventory.Holds k place')
    (hkinds : ∀ k', k' ≠ k → ∀ place',
      b'.plane.inventory.Holds k' place' ↔ b.plane.inventory.Holds k' place')
    (hsettings : Part.settings.Same b.plane b'.plane) :
    Custody name rounds (b'.plane, Pipeline.forgotten k s) := by
  refine h.emptied (fun k' hslot => husers k' (mem_users_of_ownerSlot hslot))
    (reference_forgotten_self k s) (fun slot' hne => reference_forgotten_of_ne k s hne)
    (fun place' hheld => ?_) hkinds hsettings
  obtain ⟨hne, hheld⟩ := (hgone place').mp hheld
  exact hne ((h.held k place' hheld).unique hplace)

/-- **Deleting an object that nothing depends on keeps the invariant.** -/
theorem Removed.custody {es : List Event} {left : Left Bool} (h : Removed k s es left)
    (hqueued : b.queued = []) (hreplies : Replies Testbed.perform es b b')
    (hc : Custody name rounds (b.plane, s))
    (husers : ∀ k' ∈ Simulator.users k, s.reference (slot k') = none) :
    Custody name rounds (b'.plane, left.2) := by
  have hsettings : Part.settings.Same b.plane b'.plane := Testbed.replies_settings hreplies hqueued
  have hfound : ∀ r parent, s.reference (slot k) = some r → ownerOf k s r = .ok parent →
      Refers s k ⟨parent, r.id⟩ := by
    intro r parent href howner
    obtain ⟨place, hplace⟩ := hc.homed k r href
    have hr : r = ⟨place.id, k.path place⟩ := Option.some.inj (href.symm.trans hplace.1)
    rw [hr, hc.ownerOf hplace] at howner
    rw [hr, ← Except.ok.inj howner]
    exact hplace
  cases h with
  | nothing href =>
    rw [replies_nil.mp hreplies]
    exact hc.congr (fun k' => reference_withoutObject href (slot k'))
      (reference_withoutObject href .snatIpPool) (fun _ _ => .rfl) (.refl _ _)
  | ownerless href howner =>
    rw [replies_nil.mp hreplies]
    exact hc
  | @deleted r parent href howner =>
    have hremoved := Simulator.delete_of_answer_ok (Testbed.replies_called hqueued hreplies)
    refine hc.forgotten (hfound r parent href howner) husers (fun place' => ?_)
      (fun k' hne place' => ?_) hsettings
    · rw [hremoved]
      exact Inventory.holds_remove_iff
    · rw [hremoved]
      exact Inventory.holds_remove_of_ne hne
  | @gone r parent e href howner he =>
    have hanswer := Testbed.replies_called hqueued hreplies
    have hsame := Simulator.inventory_of_answer_error hanswer
    have hnone := Simulator.delete_of_answer_notFound hanswer he
    refine hc.forgotten (hfound r parent href howner) husers (fun place' => ?_)
      (fun k' _ place' => ?_) hsettings
    · rw [hsame]
      refine ⟨fun hheld => ⟨fun heq => ?_, hheld⟩, fun h => h.2⟩
      exact Inventory.find?_eq_none_iff.mp hnone (heq ▸ hheld)
    · rw [hsame]
  | refused href howner he =>
    have hsame := Simulator.inventory_of_answer_error (Testbed.replies_called hqueued hreplies)
    refine hc.congr (fun _ => rfl) rfl (fun k' place' => ?_) hsettings
    show b'.plane.inventory.Holds k' place' ↔ b.plane.inventory.Holds k' place'
    rw [hsame]

/-- Deleting an object that nothing depends on succeeds, if no failure is due. -/
theorem remove_ok (hqueued : b.queued = []) (hfailures : b.plane.failures = [])
    (hc : Custody name rounds (b.plane, s))
    (husers : ∀ k' ∈ Simulator.users k, s.reference (slot k') = none) :
    ∃ deleted s' b', b.run (remove k s) = (some (.ok deleted, s'), b') := by
  rw [remove]
  cases href : s.reference (slot k) with
  | none => exact ⟨_, _, _, rfl⟩
  | some r =>
    obtain ⟨place, hplace⟩ := hc.homed k r href
    have hr : r = ⟨place.id, k.path place⟩ := Option.some.inj (href.symm.trans hplace.1)
    have howner : ownerOf k s r = .ok place.parent := by
      rw [hr]
      exact hc.ownerOf hplace
    have htables : ∀ k' ∈ Simulator.users k, b.plane.inventory.table k' = .empty := by
      intro k' hmem
      refine Inventory.table_eq_empty ?_
      intro place' hheld
      cases (husers k' hmem).symm.trans (hc.held k' place' hheld).1
    have hcall := Testbed.run_call hqueued (.delete k ⟨place.parent, r.id⟩)
    simp only [howner]
    rw [bind_eq, Testbed.run, run_bind, ← Testbed.run, hcall]
    rcases Simulator.answer_delete_of_unused hfailures htables ⟨place.parent, r.id⟩ with
      hok | ⟨e, hgone, he⟩
    · rw [hok]
      exact ⟨_, _, _, rfl⟩
    · rw [hgone]
      simp only [he, if_true]
      exact ⟨_, _, _, rfl⟩

/-! ### One task -/

/-- The kinds whose objects may depend on what a task is after. -/
def dependents : Task → List Kind
  | .lookUp .ipPools => [.policy .ipAllocation]
  | .managed k => Simulator.users k
  | .lookUp _ | .realization | .lookUpSwitch => []

/-- Forgetting what is looked up keeps the invariant, while nothing depends on it. -/
theorem Custody.forgetting (h : Custody name rounds w) {slot' : Slot} (hslot : ∀ k, slot' ≠ slot k)
    (hpool : slot' = .snatIpPool → w.2.reference .snatIpAllocation = none) :
    Custody name rounds (w.1, w.2.forgetting slot') := by
  by_cases heq : slot' = .snatIpPool
  · subst heq
    refine h.repooled (fun slot'' hne => State.reference_forgetting_of_ne w.2 hne)
      (fun r href => ?_)
      (hpool rfl) (fun _ _ => .rfl) (.refl _ _)
    cases (State.reference_forgetting_self w.2 .snatIpPool).symm.trans href
  · exact h.congr (fun k => State.reference_forgetting_of_ne w.2 (hslot k).symm)
      (State.reference_forgetting_of_ne w.2 (Ne.symm heq)) (fun _ _ => .rfl) (.refl _ _)

theorem catalogSlot_ne_slot (catalog : Catalog) (k : Kind) : catalogSlot catalog ≠ slot k := by
  rcases k with k | k <;> cases k <;> cases catalog <;> decide

/-- **A task that deletes what it looks after keeps the invariant.** -/
theorem Task.remove_custody {left : Left Bool} (hqueued : b.queued = [])
    (h : b.run (t.remove s) = (some left, b')) (hc : Custody name rounds (b.plane, s))
    (hdependents : ∀ k ∈ dependents t, s.reference (Pipeline.slot k) = none) :
    b'.queued = [] ∧ Custody name rounds (b'.plane, left.2) := by
  obtain ⟨es, htrace, hreplies⟩ := run_eq_some_iff.mp h
  refine ⟨(Testbed.replies_same hreplies hqueued).1, ?_⟩
  cases t with
  | managed k => exact (removed_of_trace htrace).custody hqueued hreplies hc hdependents
  | lookUp catalog =>
    obtain ⟨rfl, rfl⟩ := run_done_eq_some_iff.mp h
    refine hc.forgetting (catalogSlot_ne_slot catalog) ?_
    intro hpool
    cases catalog with
    | ipPools => exact hdependents (.policy .ipAllocation) (.head _)
    | tier0s | edgeClusters | transportZones => cases hpool
  | lookUpSwitch =>
    obtain ⟨rfl, rfl⟩ := run_done_eq_some_iff.mp h
    have hslot : ∀ k, Slot.logicalSwitch ≠ Pipeline.slot k := by
      intro k
      rcases k with k | k <;> cases k <;> decide
    exact hc.forgetting hslot fun hpool => by cases hpool
  | realization =>
    obtain ⟨rfl, rfl⟩ := run_done_eq_some_iff.mp h
    have hsame : ∀ slot', ({ s with snatIpAddress := none } : State).reference slot' =
        s.reference slot' := fun slot' => by cases slot' <;> rfl
    exact hc.congr (fun k => hsame (Pipeline.slot k)) (hsame .snatIpPool) (fun _ _ => .rfl)
      (.refl _ _)

/-- A task that deletes what it looks after succeeds, if no failure is due. -/
theorem Task.remove_ok (hqueued : b.queued = []) (hfailures : b.plane.failures = [])
    (hc : Custody name rounds (b.plane, s))
    (hdependents : ∀ k ∈ dependents t, s.reference (Pipeline.slot k) = none) :
    ∃ deleted s' b', b.run (t.remove s) = (some (.ok deleted, s'), b') := by
  cases t with
  | managed k => exact Pipeline.remove_ok hqueued hfailures hc hdependents
  | lookUp _ | lookUpSwitch | realization => exact ⟨_, _, _, rfl⟩

/-! ### All tasks -/

/-- Whether what depends on something is deleted before it. -/
abbrev DependentsFirst (ts : List Task) : Prop :=
  ts.Pairwise fun t t' => ∀ k ∈ dependents t, t' ≠ .managed k

/-- Whether the tasks that are left look after all objects that are left. -/
def Pending (ts : List Task) (s : State) : Prop :=
  ∀ k, (s.reference (slot k)).isSome → .managed k ∈ ts

theorem not_mem_dependents (t : Task) : ∀ k ∈ dependents t, t ≠ .managed k := by
  match t with
  | .managed k => rcases k with k | k <;> cases k <;> decide
  | .lookUp c => cases c <;> decide
  | .realization => decide
  | .lookUpSwitch => decide

/-- When it is a task's turn, nothing depends on what it is after. -/
theorem Pending.dependents {ts : List Task} (h : Pending (t :: ts) s)
    (horder : DependentsFirst (t :: ts)) :
    ∀ k ∈ Pipeline.dependents t, s.reference (slot k) = none := by
  intro k hmem
  refine Option.not_isSome_iff_eq_none.mp ?_
  intro hset
  rcases List.mem_cons.mp (h k hset) with heq | hrest
  · exact not_mem_dependents t k hmem heq.symm
  · exact (List.pairwise_cons.mp horder).1 _ hrest k hmem rfl

/-- Behind a task, the others look after what is left. -/
theorem Pending.tail {ts : List Task} (h : Pending (t :: ts) s)
    (hretracted : Retracted t.item s s') :
    Pending ts s' := by
  intro k hset
  have hother : Item.reference (slot k) ≠ t.item := by
    intro heq
    have hlost := hretracted.lost
    rw [← heq, Item.isKnown, hset] at hlost
    cases hlost
  have hkept := hretracted.others _ hother
  rw [Item.isKnown, Item.isKnown, hset] at hkept
  rcases List.mem_cons.mp (h k hkept.symm) with heq | hrest
  · exact absurd (congrArg Task.item heq) hother
  · exact hrest

theorem removeAll_custody {ts : List Task} {left : Left (List String)} (hqueued : b.queued = [])
    (h : b.run (removeAll ts s) = (some left, b')) (horder : DependentsFirst ts)
    (hpending : Pending ts s) (hc : Custody name rounds (b.plane, s)) :
    b'.queued = [] ∧ Custody name rounds (b'.plane, left.2) := by
  induction ts generalizing b s left with
  | nil =>
    obtain ⟨rfl, rfl⟩ := run_done_eq_some_iff.mp h
    exact ⟨hqueued, hc⟩
  | cons t ts ih =>
    obtain ⟨⟨result, s₁⟩, b₁, h₁, h₂⟩ := run_bind_eq_some_iff.mp h
    obtain ⟨hqueued₁, hc₁⟩ := Task.remove_custody hqueued h₁ hc (hpending.dependents horder)
    obtain ⟨es, htrace, -⟩ := run_eq_some_iff.mp h₁
    rcases Task.remove_retracted htrace with ⟨e, hleft⟩ | ⟨deleted, s₂, hleft, hretracted⟩
    · obtain ⟨rfl, rfl⟩ := Prod.mk.inj hleft
      obtain ⟨rfl, rfl⟩ := run_done_eq_some_iff.mp h₂
      exact ⟨hqueued₁, hc₁⟩
    · obtain ⟨rfl, rfl⟩ := Prod.mk.inj hleft
      obtain ⟨⟨rest, s₃⟩, b₂, h₃, h₄⟩ := run_bind_eq_some_iff.mp h₂
      obtain ⟨rfl, rfl⟩ := run_done_eq_some_iff.mp h₄
      have hrest := ih hqueued₁ h₃ (List.pairwise_cons.mp horder).2 (hpending.tail hretracted) hc₁
      exact hrest

/-- A deletion stores nothing. -/
theorem Removed.holds {es : List Event} {left : Left Bool} (h : Removed k s es left)
    (hqueued : b.queued = []) (hreplies : Replies Testbed.perform es b b')
    {k' : Kind} (hholds : b'.plane.inventory.Holds k' place) :
    b.plane.inventory.Holds k' place := by
  cases h with
  | nothing href => rwa [replies_nil.mp hreplies] at hholds
  | ownerless href howner => rwa [replies_nil.mp hreplies] at hholds
  | deleted href howner =>
    rw [Simulator.delete_of_answer_ok (Testbed.replies_called hqueued hreplies)] at hholds
    by_cases hk : k' = k
    · subst hk
      exact (Inventory.holds_remove_iff.mp hholds).2
    · exact (Inventory.holds_remove_of_ne hk).mp hholds
  | gone href howner he | refused href howner he =>
    rwa [Simulator.inventory_of_answer_error (Testbed.replies_called hqueued hreplies)] at hholds

/-- **A takedown stores nothing.** -/
theorem takeDown_holds {left : Left (List String)} (hqueued : b.queued = [])
    (h : b.run (takeDown g s) = (some left, b')) (hholds : b'.plane.inventory.Holds k place) :
    b.plane.inventory.Holds k place := by
  refine (removeAll_invariant (P := fun b₁ _ => b₁.queued = [] ∧
    (b₁.plane.inventory.Holds k place → b.plane.inventory.Holds k place))
    (@fun t _ _ _ _ hP hrun => ?_) ⟨hqueued, id⟩ h).2 hholds
  obtain ⟨es, htrace, hreplies⟩ := run_eq_some_iff.mp hrun
  refine ⟨(Testbed.replies_same hreplies hP.1).1, fun hheld => hP.2 ?_⟩
  cases t with
  | managed k' => exact (removed_of_trace htrace).holds hP.1 hreplies hheld
  | lookUp _ | lookUpSwitch | realization =>
    obtain ⟨rfl, rfl⟩ := trace_done_iff.mp htrace
    rwa [replies_nil.mp hreplies] at hheld

/-- Deletions in the order of dependence succeed, if no failure is due. -/
theorem removeAll_ok {ts : List Task} (hqueued : b.queued = []) (hfailures : b.plane.failures = [])
    (horder : DependentsFirst ts) (hpending : Pending ts s)
    (hc : Custody name rounds (b.plane, s)) :
    ∃ labels s' b', b.run (removeAll ts s) = (some (.ok labels, s'), b') := by
  induction ts generalizing b s with
  | nil => exact ⟨_, _, _, rfl⟩
  | cons t ts ih =>
    have hdependents := hpending.dependents horder
    obtain ⟨deleted, s₁, b₁, h₁⟩ := Task.remove_ok hqueued hfailures hc hdependents
    obtain ⟨hqueued₁, hc₁⟩ := Task.remove_custody hqueued h₁ hc hdependents
    obtain ⟨es, htrace, hreplies⟩ := run_eq_some_iff.mp h₁
    have hfailures₁ := Testbed.failures_replies hreplies hqueued hfailures
    have hretracted : Retracted t.item s s₁ := by
      rcases Task.remove_retracted htrace with ⟨e, hleft⟩ | ⟨deleted', s₂, hleft, hretracted⟩
      · cases (Prod.mk.inj hleft).1
      · rw [(Prod.mk.inj hleft).2]
        exact hretracted
    obtain ⟨labels, s₂, b₂, h₂⟩ := ih hqueued₁ hfailures₁ (List.pairwise_cons.mp horder).2
      (hpending.tail hretracted) hc₁
    refine ⟨if deleted then t.label :: labels else labels, s₂, b₂, ?_⟩
    rw [removeAll, bind_eq, Testbed.run, run_bind, ← Testbed.run, h₁]
    dsimp only
    rw [bind_eq, run_bind, ← Testbed.run, h₂]
    rfl

/-- Deletions that all succeed leave nothing known of what they were after. -/
theorem removeAll_lost {ts : List Task} {es : List Event} {labels : List String}
    (h : (removeAll ts s).Trace es (.ok labels, s')) (hnodup : (ts.map Task.item).Nodup) :
    ∀ t ∈ ts, t.item.isKnown s' = false := by
  induction ts generalizing s es labels with
  | nil => exact fun t hmem => absurd hmem List.not_mem_nil
  | cons t ts ih =>
    rw [removeAll, bind_eq, trace_bind_iff] at h
    obtain ⟨es₁, es₂, left₁, rfl, h₁, h₂⟩ := h
    rcases Task.remove_retracted h₁ with ⟨e, rfl⟩ | ⟨deleted, s₁, rfl, hretracted⟩
    · cases (Prod.mk.inj (trace_done_iff.mp h₂).2).1
    · obtain ⟨⟨rest, s₂⟩, h₃, hleft⟩ := trace_bind_done_iff.mp h₂
      obtain ⟨hresult, rfl⟩ := Prod.mk.inj hleft
      have hnodup' := (List.nodup_cons.mp hnodup).2
      have hrest := removeAll_retracted ts h₃ hnodup'
      intro t' hmem
      rcases List.mem_cons.mp hmem with rfl | hmem
      · refine Bool.eq_false_iff.mpr ?_
        intro hknown
        have hlost := hretracted.lost
        rw [hrest.unlearnt _ hknown] at hlost
        cases hlost
      · cases rest with
        | error e => cases hresult
        | ok labels' => exact ih h₃ hnodup' t' hmem

/-! ### Takedowns -/

/-- Whether a state can be one that was left at a control plane of a generation. The older one knows
no configuration of DHCP servers. -/
def Fits (g : Generation) (s : State) : Prop := g = .v2 → s.reference .dhcpServerConfig = none

/-- Whatever is known is what some task of a takedown is after. -/
theorem mem_items_teardownTasks (h : Fits g s) (slot' : Slot) (hset : (s.reference slot').isSome) :
    Item.reference slot' ∈ (teardownTasks g s).reverse.map Task.item := by
  rw [teardownTasks]
  split
  · cases slot' <;> decide
  · next hdhcp =>
    have hnone : s.dhcp = none := Option.not_isSome_iff_eq_none.mp hdhcp
    cases g with
    | v2 =>
      by_cases hslot : slot' = .dhcpServerConfig
      · rw [hslot, h rfl] at hset
        cases hset
      · revert hslot
        cases slot' <;> decide
    | v3 =>
      have hempty : slot'.isDhcp = false := by
        refine Bool.eq_false_iff.mpr ?_
        intro hslot
        cases slot' <;> simp_all [Slot.isDhcp, State.reference, State.dhcpOrEmpty]
      revert hempty
      cases slot' <;> decide

/-- A task that is after the reference to an object looks after that object. -/
theorem Task.eq_managed_of_item (h : t.item = .reference (Pipeline.slot k)) : t = .managed k := by
  cases t with
  | managed k' => rw [slot_injective (Item.reference.inj h)]
  | lookUp catalog => exact absurd (Item.reference.inj h) (catalogSlot_ne_slot catalog k)
  | realization => cases h
  | lookUpSwitch =>
    have hslot : Slot.logicalSwitch = Pipeline.slot k := Item.reference.inj h
    revert hslot
    rcases k with k | k <;> cases k <;> decide

theorem pending_teardownTasks (h : Fits g s) : Pending (teardownTasks g s).reverse s := by
  intro k hset
  obtain ⟨t, hmem, hitem⟩ := List.mem_map.mp (mem_items_teardownTasks h (slot k) hset)
  exact Task.eq_managed_of_item hitem ▸ hmem

theorem dependentsFirst_teardownTasks (g : Generation) (s : State) :
    DependentsFirst (teardownTasks g s).reverse := by
  rw [teardownTasks]
  split <;> cases g <;> decide

/-- **A takedown loses sight of nothing**, wherever it stops. -/
theorem takeDown_custody {left : Left (List String)} (hqueued : b.queued = [])
    (h : b.run (takeDown g s) = (some left, b')) (hfits : Fits g s)
    (hc : Custody name rounds (b.plane, s)) :
    b'.queued = [] ∧ Custody name rounds (b'.plane, left.2) :=
  removeAll_custody hqueued h (dependentsFirst_teardownTasks g s) (pending_teardownTasks hfits) hc

/-- **A takedown succeeds if no failure is due.** -/
theorem takeDown_ok (hqueued : b.queued = []) (hfailures : b.plane.failures = []) (hfits : Fits g s)
    (hc : Custody name rounds (b.plane, s)) :
    ∃ labels s' b', b.run (takeDown g s) = (some (.ok labels, s'), b') :=
  removeAll_ok hqueued hfailures (dependentsFirst_teardownTasks g s)
    (pending_teardownTasks hfits) hc

/-- Taking down learns nothing that would not fit. -/
theorem Fits.takeDown (h : Fits g s) {es : List Event} {left : Left (List String)}
    (htrace : (Pipeline.takeDown g s).Trace es left) : Fits g left.2 := by
  intro hg
  refine Option.not_isSome_iff_eq_none.mp ?_
  intro hset
  have hknown := (takeDown_retracted htrace).unlearnt (.reference .dhcpServerConfig) hset
  rw [Item.isKnown, h hg] at hknown
  cases hknown

/-- Bringing about learns nothing that would not fit. -/
theorem Fits.run (h : Fits g s) {c : Context} {spec : Spec} {es : List Event}
    {left : Left (List Outcome)} (htrace : (Pipeline.run g c spec s).Trace es left) :
    Fits g left.2 := by
  intro hg
  subst hg
  rw [(run_advanced htrace).others .dhcpServerConfig (by decide)]
  exact h rfl

/-- **A takedown that succeeds forgets everything.** -/
theorem takeDown_lost {es : List Event} {labels : List String} (hfits : Fits g s)
    (hcoherent : Coherent s) (h : (takeDown g s).Trace es (.ok labels, s')) :
    s'.holdsNoReferences = true := by
  obtain ⟨hnodup, -, haddress⟩ := items_teardownTasks g s
  have hretracted := takeDown_retracted h
  have hlost := removeAll_lost h hnodup
  have hunknown : ∀ item ∈ (teardownTasks g s).reverse.map Task.item, item.isKnown s' = false := by
    intro item hmem
    obtain ⟨t, ht, rfl⟩ := List.mem_map.mp hmem
    exact hlost t ht
  have hslots : ∀ slot', s'.reference slot' = none := by
    intro slot'
    refine Option.not_isSome_iff_eq_none.mp ?_
    intro hset
    have hbefore : (s.reference slot').isSome := hretracted.unlearnt (.reference slot') hset
    have hnone := hunknown _ (mem_items_teardownTasks hfits slot' hbefore)
    rw [Item.isKnown, hset] at hnone
    cases hnone
  have hnamed : s'.segmentName = none := by
    refine Option.not_isSome_iff_eq_none.mp ?_
    intro hset
    rw [(hcoherent.takeDown h).named, hslots] at hset
    cases hset
  have hnoAddress : s'.snatIpAddress = none := by
    refine Option.not_isSome_iff_eq_none.mp ?_
    intro hset
    have hnone : s'.snatIpAddress.isSome = false := hunknown .address (haddress.subset (.head _))
    rw [hnone] at hset
    cases hset
  rw [State.holdsNoReferences, hnamed, hnoAddress, Bool.and_eq_true, Bool.and_eq_true,
    List.all_eq_true]
  refine ⟨⟨fun slot' _ => ?_, rfl⟩, rfl⟩
  rw [hslots]
  rfl

theorem reference_of_holdsNoReferences (h : s.holdsNoReferences = true) (slot' : Slot) :
    s.reference slot' = none := by
  rw [State.holdsNoReferences, Bool.and_eq_true, Bool.and_eq_true, List.all_eq_true] at h
  exact Option.isNone_iff_eq_none.mp (h.1.1 slot' (Slot.mem_all slot'))

/-- A state without references is one of a control plane without objects. -/
theorem Custody.count_eq_zero (h : Custody name rounds w)
    (hnone : ∀ slot', w.2.reference slot' = none) : w.1.inventory.count = 0 := by
  refine Inventory.count_eq_zero ?_
  intro k place hheld
  cases (hnone (slot k)).symm.trans (h.held k place hheld).1

end Pipeline

end ClusterNet
