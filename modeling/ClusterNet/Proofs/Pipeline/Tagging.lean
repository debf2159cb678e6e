import ClusterNet.Proofs.ControlPlane.Tag
import ClusterNet.Proofs.Pipeline.Adoption

/-!
# What is stored carries the tags

Every draft of a manager object carries the tags of its cluster, and an object that agrees with its
draft carries the tags of the draft. So whatever a task stores can be told to be its cluster's: it
lies where the reference leads that the task leaves behind, under the owner that is known, and it
carries the tags.

## Main definitions

* `Pipeline.Stores` — what a task makes of the objects of a control plane

## Main results

* `Pipeline.isTagged_of_agrees` — an object that is as it should be carries the tags
* `Pipeline.runTask_managed_stores` — a task stores nothing, or its object
-/

namespace ClusterNet

namespace Pipeline

open Cluster (InfraError Reference Slot Spec State)
open ControlPlane Program

variable {s s' : State} {k : Kind} {t : Task} {es : List Event} {c : Context} {spec : Spec}
  {r : Reference} {place : Place} {parent : String} {b b' : Testbed}

/-- The draft of a manager object carries the tags of the cluster. -/
theorem tags_of_draft {identity : ClusterIdentity} {k : ManagerKind} {o : k.Object}
    (h : draft identity spec s (.manager k) = .ok (parent, o)) : k.tags o = identity.tags := by
  cases k with
  | dhcpProfile =>
    obtain ⟨edgeCluster, -, h₁⟩ := ok_of_bind h
    obtain ⟨-, rfl⟩ := Prod.mk.inj (Except.ok.inj h₁)
    rfl
  | dhcpServer =>
    obtain ⟨profile, -, h₁⟩ := ok_of_bind h
    obtain ⟨plan, -, h₂⟩ := ok_of_bind h₁
    obtain ⟨-, rfl⟩ := Prod.mk.inj (Except.ok.inj h₂)
    rfl
  | logicalPort =>
    obtain ⟨switch, -, h₁⟩ := ok_of_bind h
    obtain ⟨server, -, h₂⟩ := ok_of_bind h₁
    obtain ⟨-, rfl⟩ := Prod.mk.inj (Except.ok.inj h₂)
    rfl
  | dhcpIpPool =>
    obtain ⟨server, -, h₁⟩ := ok_of_bind h
    obtain ⟨plan, -, h₂⟩ := ok_of_bind h₁
    obtain ⟨-, rfl⟩ := Prod.mk.inj (Except.ok.inj h₂)
    rfl

/-- An object that is as it should be carries the tags that it should carry. -/
theorem sameTags_of_agrees {k : ManagerKind} {current desired : k.Object}
    (h : agrees (.manager k) current desired = true) :
    sameTags (k.tags current) (k.tags desired) = true := by
  cases k <;> simp only [agrees, Bool.and_eq_true] at h <;> exact h.2

/-- **A manager object that is as it should be carries the tags of the cluster.** -/
theorem isTagged_of_agrees {identity : ClusterIdentity} {k : ManagerKind} {current o : k.Object}
    (hdraft : draft identity spec s (.manager k) = .ok (parent, o))
    (hagrees : agrees (.manager k) current o = true) :
    identity.isTagged (k.tags current) = true :=
  ClusterIdentity.isTagged_of_sameTags (tags_of_draft hdraft ▸ sameTags_of_agrees hagrees)

/-! ### What a task stores -/

/-- What bringing an object about makes of a control plane: no object changes, or one is stored as
it should be, where the reference leads that is left behind. If there was none at that place, its id
was given away for it. -/
def Stores (k : Kind) (c : Context) (spec : Spec) (w w' : World) : Prop :=
  w'.1.inventory = w.1.inventory ∨ ∃ (place : Place) (o stored : k.Object) (r : Reference),
    w'.1.inventory = w.1.inventory.put k place stored ∧
    draft c.identity spec w.2 k = .ok (place.parent, o) ∧ agrees k stored o = true ∧
    w'.2.reference (slot k) = some r ∧ r.id = place.id ∧
    (w.2.reference (slot k) = some r ∨ r = ⟨place.id, k.path place⟩) ∧
    (w.1.inventory.Holds k place ∨ w.1.Drew w'.1 place.id)

theorem Stores.after {w₁ w w' : World} (h : Stores k c spec w w')
    (hsame : w.1.inventory = w₁.1.inventory)
    (hdraft : draft c.identity spec w.2 k = draft c.identity spec w₁.2 k)
    (hreferences : ∀ (place : Place) (r : Reference), parentOf k w₁.2 = some place.parent →
      r.id = place.id → w.2.reference (slot k) = some r →
      w₁.2.reference (slot k) = some r ∨ r = ⟨place.id, k.path place⟩)
    (hle : w₁.1.drawnIds ≤ w.1.drawnIds) (hids : w.1.freshId = w₁.1.freshId) :
    Stores k c spec w₁ w' := by
  rcases h with hkept | ⟨place, o, stored, r, hput, hdraft', hagrees, href, hid, hfrom, hplace⟩
  · exact .inl (hkept.trans hsame)
  · rw [hdraft] at hdraft'
    rw [hsame] at hput hplace
    refine .inr ⟨place, o, stored, r, hput, hdraft', hagrees, href, hid, ?_,
      hplace.imp_right fun hdrew => hdrew.after hle hids⟩
    exact hfrom.elim (hreferences place r (parentOf_of_draft hdraft') hid) .inr

theorem Built.stores {o : k.Object} {left : Left Action}
    (h : Built parent (opened k s) k o es left)
    (hdraft : draft c.identity spec s k = .ok (parent, o)) (hqueued : b.queued = [])
    (hreplies : Replies Testbed.perform es b b') :
    Stores k c spec (b.plane, s) (b'.plane, left.2) := by
  cases h with
  | @declared k o id =>
    obtain ⟨rfl, hreplies⟩ := Testbed.replies_drawId hreplies
    have hanswer := Testbed.replies_called (b := { b with plane := b.plane.drawId.2 }) hqueued
      hreplies
    have hdrawn : b.plane.drawnIds < b'.plane.drawnIds :=
      Testbed.drawnIds_le_of_replies (b := { b with plane := b.plane.drawId.2 }) hreplies hqueued
    have hput := Simulator.patch_of_answer_ok hanswer
    refine .inr ⟨⟨parent, b.plane.freshId b.plane.drawnIds⟩, o, _, _, hput, hdraft, ?_, ?_, rfl,
      .inr rfl, .inr ⟨_, Nat.le_refl _, hdrawn, rfl⟩⟩
    · rw [agrees_stamped, agrees_self]
    · rw [reference_recorded, State.reference_withReference_self]
  | undeclared id e =>
    obtain ⟨-, hreplies⟩ := Testbed.replies_drawId hreplies
    have hanswer := Testbed.replies_called (b := { b with plane := b.plane.drawId.2 }) hqueued
      hreplies
    have hsame := Simulator.inventory_of_answer_error hanswer
    exact .inl hsame
  | @created k o answer id hid =>
    have hanswer := Testbed.replies_called hqueued hreplies
    have hdrew := Simulator.drew_of_create_ok hanswer
    obtain ⟨rfl, hput⟩ := Simulator.create_of_answer_ok hanswer
    rw [ManagerKind.id?_withRevision_stamped] at hid
    obtain rfl := Option.some.inj hid
    refine .inr ⟨⟨parent, _⟩, o, _, _, hput, hdraft, ?_, ?_, rfl, .inr rfl, .inr hdrew⟩
    · rw [agrees_withRevision, agrees_self]
    · rw [reference_recorded, State.reference_withReference_self]
  | nameless hid =>
    obtain ⟨rfl, -⟩ := Simulator.create_of_answer_ok (Testbed.replies_called hqueued hreplies)
    rw [ManagerKind.id?_withRevision_stamped] at hid
    cases hid
  | uncreated e =>
    exact .inl (Simulator.inventory_of_answer_error (Testbed.replies_called hqueued hreplies))

theorem Ensured.stores {left : Left Action} (h : Ensured k c spec s es left)
    (hqueued : b.queued = []) (hreplies : Replies Testbed.perform es b b') :
    Stores k c spec (b.plane, s) (b'.plane, left.2) := by
  cases h with
  | undrafted hdraft => exact .inl (by rw [replies_nil.mp hreplies])
  | first hdraft href h => exact h.stores hdraft hqueued hreplies
  | kept hdraft href hagrees =>
    exact .inl (Simulator.get_of_answer_ok (Testbed.replies_called hqueued hreplies)).2
  | @changed parent o current r es _ hdraft href hagrees h =>
    obtain ⟨plane, hanswer, hreplies⟩ := Testbed.replies_call hqueued hreplies
    obtain ⟨hfind, hsame⟩ := Simulator.get_of_answer_ok hanswer
    rcases h.stored (b := { b with plane }) hqueued hreplies with ⟨stored, hput, hagrees⟩ | hfailed
    · refine .inr ⟨⟨parent, r.id⟩, o, stored, r, hsame ▸ hput, hdraft, hagrees, ?_, rfl, .inl href,
        .inl (Inventory.holds_of_find? hfind)⟩
      exact (h.reference (slot k)).trans ((reference_opened ..).trans href)
    · obtain ⟨e, -, hsame'⟩ := hfailed
      exact .inl (hsame'.trans hsame)
  | again hdraft href he h =>
    obtain ⟨plane, hanswer, hreplies⟩ := Testbed.replies_call hqueued hreplies
    have hplane : (Simulator.answer _ b.plane).2 = plane := congrArg Prod.snd hanswer
    refine (h.stores (b := { b with plane }) hdraft hqueued hreplies).after
      (Simulator.inventory_of_answer_error hanswer) rfl (fun _ _ _ _ => .inl) ?_ ?_
    · exact hplane ▸ Simulator.drawnIds_le_answer _ _
    · exact hplane ▸ Simulator.freshId_answer _ _
  | unread hdraft href he =>
    exact .inl (Simulator.inventory_of_answer_error (Testbed.replies_called hqueued hreplies))

/-! ### Where references come from -/

/-- Whether a reference is one to an object that was made under the owner that is known, under an id
that was given away for it. -/
def Made (k : Kind) (w w' : World) (r : Reference) : Prop :=
  ∃ place : Place, r = ⟨place.id, k.path place⟩ ∧ parentOf k w.2 = some place.parent ∧
    w.1.Drew w'.1 place.id

theorem Made.after {w₁ w w' : World} (h : Made k w w' r)
    (hparents : parentOf k w.2 = parentOf k w₁.2) (hle : w₁.1.drawnIds ≤ w.1.drawnIds)
    (hids : w.1.freshId = w₁.1.freshId) : Made k w₁ w' r := by
  obtain ⟨place, hr, hparent, hdrew⟩ := h
  exact ⟨place, hr, hparents.symm.trans hparent, hdrew.after hle hids⟩

theorem Built.made {o : k.Object} {left : Left Action} (h : Built parent s k o es left)
    (hparent : parentOf k s = some parent) (hqueued : b.queued = [])
    (hreplies : Replies Testbed.perform es b b') (href : left.2.reference (slot k) = some r) :
    s.reference (slot k) = some r ∨ Made k (b.plane, s) (b'.plane, left.2) r := by
  cases h with
  | @declared k o id =>
    rw [reference_recorded, State.reference_withReference_self] at href
    obtain ⟨rfl, hreplies⟩ := Testbed.replies_drawId hreplies
    have hdrawn : b.plane.drawnIds < b'.plane.drawnIds :=
      Testbed.drawnIds_le_of_replies (b := { b with plane := b.plane.drawId.2 }) hreplies hqueued
    exact .inr ⟨⟨parent, _⟩, (Option.some.inj href).symm, hparent, _, Nat.le_refl _, hdrawn, rfl⟩
  | @created k o answer id hid =>
    rw [reference_recorded, State.reference_withReference_self] at href
    have hanswer := Testbed.replies_called hqueued hreplies
    have hdrew := Simulator.drew_of_create_ok hanswer
    obtain ⟨rfl, -⟩ := Simulator.create_of_answer_ok hanswer
    rw [ManagerKind.id?_withRevision_stamped] at hid
    obtain rfl := Option.some.inj hid
    exact .inr ⟨⟨parent, _⟩, (Option.some.inj href).symm, hparent, hdrew⟩
  | undeclared | nameless | uncreated => exact .inl href

theorem Ensured.made {left : Left Action} (h : Ensured k c spec s es left)
    (hqueued : b.queued = []) (hreplies : Replies Testbed.perform es b b')
    (href : left.2.reference (slot k) = some r) :
    s.reference (slot k) = some r ∨ Made k (b.plane, s) (b'.plane, left.2) r := by
  have hopened : (opened k s).reference (slot k) = some r → s.reference (slot k) = some r :=
    (reference_opened k s (slot k)).symm.trans
  cases h with
  | undrafted hdraft => exact .inl href
  | first hdraft hnone h =>
    have hparent := (parentOf_opened k k s).trans (parentOf_of_draft hdraft)
    exact (h.made hparent hqueued hreplies href).imp hopened fun hmade =>
      hmade.after (parentOf_opened k k s) (Nat.le_refl _) rfl
  | kept hdraft hset hagrees => exact .inl (hopened href)
  | changed hdraft hset hagrees h => exact .inl (hopened ((h.reference (slot k)).symm.trans href))
  | again hdraft hset he h =>
    obtain ⟨plane, hanswer, hreplies⟩ := Testbed.replies_call hqueued hreplies
    have hparent := (parentOf_opened k k s).trans (parentOf_of_draft hdraft)
    have hplane : (Simulator.answer _ b.plane).2 = plane := congrArg Prod.snd hanswer
    have hmade := h.made (b := { b with plane }) hparent hqueued hreplies href
    refine hmade.imp hopened fun hmade => ?_
    exact hmade.after (parentOf_opened k k s) (hplane ▸ Simulator.drawnIds_le_answer _ _)
      (hplane ▸ Simulator.freshId_answer _ _)
  | unread hdraft hset he => exact .inl (hopened href)

/-- Whether a reference is one to an object under the owner that is known that was there and carries
the tags of a cluster. -/
def Adopted (identity : ClusterIdentity) (t : Task) (w : World) (r : Reference) : Prop :=
  ∃ (k : ManagerKind) (place : Place) (o : k.Object), t = .managed (.manager k) ∧
    w.2.reference (slot (.manager k)) = none ∧ r = ⟨place.id, (Kind.manager k).path place⟩ ∧
    parentOf (.manager k) w.2 = some place.parent ∧
    (place, o) ∈ (w.1.inventory.table (.manager k)).entries ∧
    identity.isTagged (k.tags o) = true

/-- **What recovering leaves behind**: the state as it was, or with a reference to an object that
was adopted. -/
theorem recoverIfLost_run {left : Left Unit} (hqueued : b.queued = [])
    (hi : b.plane.inventory.Indexed) (h : b.run (recoverIfLost t c s) = (some left, b')) :
    left.2 = s ∨ ∃ slot r, t.slot = some slot ∧ Adopted c.identity t (b.plane, s) r ∧
      left.2 = s.withReference slot (some r) := by
  rcases recoverIfLost_cases t c s with hrecover | ⟨k, rfl, hlost, hrecover⟩
  · rw [hrecover] at h
    obtain ⟨rfl, -⟩ := run_done_eq_some_iff.mp h
    exact .inl rfl
  · rw [hrecover] at h
    obtain ⟨left', b₁, h₁, h₂⟩ := run_bind_eq_some_iff.mp h
    obtain ⟨rfl, -⟩ := run_done_eq_some_iff.mp h₂
    cases hparent : listingParent k s with
    | none =>
      rw [adopt_eq, hparent] at h₁
      obtain ⟨rfl, -⟩ := run_done_eq_some_iff.mp h₁
      exact .inl rfl
    | some parent =>
      rcases adopt_run hqueued hi hparent h₁ with ⟨e, rfl⟩ | ⟨rfl, -⟩ | ⟨o, id, hfound, hid, rfl⟩
      · exact .inl rfl
      · exact .inl rfl
      · have hparent' := (listingParent_eq_parentOf k s).symm.trans hparent
        refine .inr ⟨_, _, rfl, ⟨k, ⟨parent, id⟩, o, rfl, hlost, rfl, hparent', ?_, ?_⟩, rfl⟩
        · refine Simulator.mem_entries_of_mem_objectsOf hi (fun hnested => ?_)
            (List.mem_of_find?_eq_some hfound) hid
          exact (pointsAt_of_parentOf hparent' id).2 (ownerSlot_eq_none_iff.mpr hnested)
        · exact List.find?_some (p := fun o => c.identity.isTagged (k.tags o)) hfound

/-- **What a task stores and what it refers to afterwards**, if it looks after an object. The
reference was there before, or it is one to an object that was made or adopted. -/
theorem runTask_managed_stores {left : Left Action} (hqueued : b.queued = [])
    (hi : b.plane.inventory.Indexed)
    (h : b.run (runTask (.managed k) c spec s) = (some left, b')) :
    Stores k c spec (b.plane, s) (b'.plane, left.2) ∧
      ∀ r, left.2.reference (slot k) = some r → s.reference (slot k) = some r ∨
        Made k (b.plane, s) (b'.plane, left.2) r ∨
        Adopted c.identity (.managed k) (b.plane, s) r := by
  obtain ⟨⟨recovered, s₁⟩, b₁, h₁, hqueued₁, hleft⟩ := runTask_managed_cases hqueued h
  obtain ⟨es₁, htrace₁, hreplies₁⟩ := run_eq_some_iff.mp h₁
  have hsame : b₁.plane.inventory = b.plane.inventory :=
    Inventory.eq_of_table_eq fun k => (recoverIfLost_same hqueued h₁).2 (.table k)
  have hdraft : draft c.identity spec s₁ k = draft c.identity spec s k :=
    draft_of_advanced c.identity (recoverIfLost_advanced htrace₁)
  have hle := Testbed.drawnIds_le_of_replies hreplies₁ hqueued
  have hids := (Testbed.replies_settings hreplies₁ hqueued).2.2
  have hrecovered : ∀ r, s₁.reference (slot k) = some r → s.reference (slot k) = some r ∨
      Adopted c.identity (.managed k) (b.plane, s) r := by
    intro r href
    rcases recoverIfLost_run hqueued hi h₁ with rfl | ⟨slot', r', hslot, hadopted, rfl⟩
    · exact .inl href
    · obtain rfl := Option.some.inj hslot
      rw [State.reference_withReference_self] at href
      exact .inr (Option.some.inj href ▸ hadopted)
  rcases hleft with ⟨hleft, rfl⟩ | ⟨es, left', hensured, hreplies, hleft⟩
  · rw [hleft]
    exact ⟨.inl hsame, fun r href => (hrecovered r href).imp_right .inr⟩
  · rw [hleft]
    refine ⟨?_, fun r href => ?_⟩
    · refine (hensured.stores hqueued₁ hreplies).after hsame hdraft ?_ hle hids
      intro place r hparent hid href
      refine (hrecovered r href).imp_right ?_
      rintro ⟨mk, place', o, htask, -, rfl, hparent', -, -⟩
      obtain rfl : k = .manager mk := Task.managed.inj htask
      have hparents := Option.some.inj (hparent.symm.trans hparent')
      obtain rfl : place = place' := by
        cases place
        cases place'
        simp_all
      rfl
    · rcases hensured.made hqueued₁ hreplies href with hset | hmade
      · exact (hrecovered r hset).imp_right .inr
      · exact .inr (.inl (hmade.after (recoverIfLost_still hqueued h₁).2 hle hids))

end Pipeline

end ClusterNet
