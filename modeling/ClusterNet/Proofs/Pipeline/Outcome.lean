import ClusterNet.Proofs.Pipeline.Footprint

/-!
# What is stored when an object is brought about

The ways of creating and changing an object, seen from a control plane: the object is stored as it
should be, or nothing is stored at all. What the control plane adds of its own accord, ids, paths
and revisions, is not what objects are compared by.

## Main results

* `Pipeline.Built.stored` — what comes of creating an object
* `Pipeline.Overwritten.stored` — what comes of changing one
* `Pipeline.Built.found`, `Pipeline.Overwritten.found` — if that succeeded, the object is found and
  is as it should be
-/

namespace ClusterNet

namespace Pipeline

open Cluster (InfraError Reference Slot State)
open ControlPlane Program

/-! ### Objects that are as they should be -/

@[simp] theorem sameTags_self (tags : List Tag) : sameTags tags tags = true :=
  decide_eq_true rfl

/-- An object is as it should be if it is what should be. -/
theorem agrees_self (k : Kind) (o : k.Object) : agrees k o o = true := by
  rcases k with k | k <;> cases k <;> simp [agrees]

/-- The id and the path of a declared object do not matter. -/
theorem agrees_stamped (k : PolicyKind) (id path : String) (current desired : k.Object) :
    agrees (.policy k) (k.stamped id path current) desired =
      agrees (.policy k) current desired := by
  cases k <;> rfl

/-- The id and the revision of a created object do not matter. -/
theorem agrees_withRevision (k : ManagerKind) (revision : Option Int64) (id : String)
    (current desired : k.Object) :
    agrees (.manager k) (k.withRevision revision (k.stamped id current)) desired =
      agrees (.manager k) current desired := by
  cases k <;> rfl

/-- Nor does what the control plane decides. -/
theorem agrees_rewritten (k : Kind) (current desired : k.Object) :
    agrees k (rewritten k current desired) desired = true := by
  rw [← agrees_self k desired]
  rcases k with k | k <;> cases k <;> rfl

/-! ### What is stored -/

variable {b b' : Testbed} {k : Kind} {s s' : State} {es : List Event}

/-- **An object that is created** is stored as it should be and recorded under its id, or nothing
has changed. -/
theorem Built.stored {parent : String} {o : k.Object} {left : Left Action}
    (h : Built parent s k o es left) (hqueued : b.queued = [])
    (hreplies : Replies Testbed.perform es b b') :
    (∃ n stored, left = (.ok .created, recorded k parent (b.plane.freshId n) o s) ∧
      b'.plane.inventory = b.plane.inventory.put k ⟨parent, b.plane.freshId n⟩ stored ∧
      agrees k stored o = true) ∨
    (∃ e, left = (.error e, s) ∧ b'.plane.inventory = b.plane.inventory) := by
  cases h with
  | @declared k o id =>
    obtain ⟨rfl, hreplies⟩ := Testbed.replies_drawId hreplies
    have hanswer := Testbed.replies_called (b := { b with plane := b.plane.drawId.2 }) hqueued
      hreplies
    have hput := Simulator.patch_of_answer_ok hanswer
    refine .inl ⟨_, _, rfl, hput, ?_⟩
    rw [agrees_stamped, agrees_self]
  | undeclared id e =>
    obtain ⟨-, hreplies⟩ := Testbed.replies_drawId hreplies
    have hanswer := Testbed.replies_called (b := { b with plane := b.plane.drawId.2 }) hqueued
      hreplies
    have hsame := Simulator.inventory_of_answer_error hanswer
    exact .inr ⟨_, rfl, hsame⟩
  | created hid =>
    have hanswer := Testbed.replies_called hqueued hreplies
    obtain ⟨rfl, hput⟩ := Simulator.create_of_answer_ok hanswer
    rw [ManagerKind.id?_withRevision_stamped] at hid
    obtain rfl := Option.some.inj hid
    refine .inl ⟨_, _, rfl, hput, ?_⟩
    rw [agrees_withRevision, agrees_self]
  | nameless hid =>
    have hanswer := Testbed.replies_called hqueued hreplies
    obtain ⟨rfl, -⟩ := Simulator.create_of_answer_ok hanswer
    rw [ManagerKind.id?_withRevision_stamped] at hid
    cases hid
  | uncreated e =>
    have hanswer := Testbed.replies_called hqueued hreplies
    exact .inr ⟨_, rfl, Simulator.inventory_of_answer_error hanswer⟩

/-- **An object that is changed** is stored as it should be, or nothing has changed. -/
theorem Overwritten.stored {place : Place} {current desired : k.Object} {left : Left Action}
    (h : Overwritten place s k current desired es left) (hqueued : b.queued = [])
    (hreplies : Replies Testbed.perform es b b') :
    (∃ stored, b'.plane.inventory = b.plane.inventory.put k place stored ∧
      agrees k stored desired = true) ∨
    (∃ e, left.1 = .error e ∧ b'.plane.inventory = b.plane.inventory) := by
  cases h with
  | declared =>
    have hput := Simulator.patch_of_answer_ok (Testbed.replies_called hqueued hreplies)
    refine .inl ⟨_, hput, ?_⟩
    rw [agrees_stamped, agrees_rewritten]
  | updated =>
    obtain ⟨⟨revision, hrevision⟩, hput⟩ :=
      Simulator.update_of_answer_ok (Testbed.replies_called hqueued hreplies)
    refine .inl ⟨_, hput, ?_⟩
    rw [hrevision, agrees_withRevision, agrees_rewritten]
  | undeclared e =>
    have hsame := Simulator.inventory_of_answer_error (Testbed.replies_called hqueued hreplies)
    exact .inr ⟨_, rfl, hsame⟩
  | refused e =>
    have hsame := Simulator.inventory_of_answer_error (Testbed.replies_called hqueued hreplies)
    exact .inr ⟨_, rfl, hsame⟩

/-- An object that was created is found by its reference, and is as it should be. -/
theorem Built.found {parent : String} {o : k.Object} {action : Action}
    (h : Built parent s k o es (.ok action, s')) (hqueued : b.queued = [])
    (hreplies : Replies Testbed.perform es b b') :
    ∃ r current, s'.reference (slot k) = some r ∧
      b'.plane.inventory.find? k ⟨parent, r.id⟩ = some current ∧ agrees k current o = true := by
  rcases h.stored hqueued hreplies with ⟨n, stored, hleft, hput, hagrees⟩ | ⟨e, hleft, -⟩
  · obtain ⟨-, rfl⟩ := Prod.mk.inj hleft
    refine ⟨⟨b.plane.freshId n, k.path ⟨parent, b.plane.freshId n⟩⟩, stored, ?_, ?_, hagrees⟩
    · rw [reference_recorded, State.reference_withReference_self]
    · rw [hput, Inventory.find?_put_self]
  · cases (Prod.mk.inj hleft).1

/-- An object that was changed is found, and is as it should be. -/
theorem Overwritten.found {place : Place} {current desired : k.Object} {action : Action}
    (h : Overwritten place s k current desired es (.ok action, s')) (hqueued : b.queued = [])
    (hreplies : Replies Testbed.perform es b b') :
    ∃ stored, b'.plane.inventory.find? k place = some stored ∧ agrees k stored desired = true := by
  rcases h.stored hqueued hreplies with ⟨stored, hput, hagrees⟩ | ⟨e, hleft, -⟩
  · refine ⟨stored, ?_, hagrees⟩
    rw [hput, Inventory.find?_put_self]
  · cases hleft

end Pipeline

end ClusterNet
