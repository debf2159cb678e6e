import ClusterNet.Proofs.Pipeline.Tagging
import ClusterNet.Proofs.Pipeline.Takedown

/-!
# What a cluster can lay hands on

A task reaches an object by the id that the state refers to, a logical switch by the id of the
reference or by the segment that it came with, and an object that nobody refers to by the tags it
carries. On a control plane where ids never repeat, that is all: what one task of a cluster changes
is something that the state leads to before or afterwards, and what the state leads to afterwards it
led to before, or it was made under a new id, or it carried the tags of the cluster.

## Main definitions

* `ControlPlane.Simulator.Sound` — control planes on which ids tell objects apart
* `Pipeline.Handle`, `Pipeline.Reaches` — what a state leads to
* `Pipeline.Proper` — states that lead to a cluster's own objects
* `Pipeline.Moved` — what one task of a cluster may do

## Main results

* `Pipeline.runTask_moved` — a task of a run does no more
* `Pipeline.Task.remove_moved` — nor does a task of a takedown
-/

namespace ClusterNet

namespace ControlPlane.Simulator

variable {p p' : Simulator}

/-- The id of the logical switch that comes with a segment. -/
def switchId (id : String) : String := s!"ls-{id}"

theorem switchId_injective {id id' : String} (h : switchId id = switchId id') : id = id' :=
  String.append_right_inj "ls-" |>.mp h

theorem isSwitchOf_switchOf {path path' id : String} {o : Segment} :
    isSwitchOf path (switchOf path' id o) = true ↔ path' = path := by
  simp only [isSwitchOf, switchOf, List.any_cons, List.any_nil, Bool.or_false, beq_iff_eq]

/-- **A control plane on which ids tell objects apart.** Ids never repeat, the ids of created
objects are theirs alone, and nothing there has an id that is still to be given away. -/
structure Sound (p : Simulator) : Prop where
  /-- Ids can be part of paths. -/
  ids : ∀ n, Path.IsId (p.freshId n)
  /-- No id is given away twice. -/
  fresh : Function.Injective p.freshId
  /-- Created objects are kept under their ids. -/
  indexed : p.inventory.Indexed
  /-- Created objects are listed in the order of their places. -/
  sorted : p.inventory.Sorted
  /-- Created objects of a kind have different ids. -/
  unique : ∀ (k : ManagerKind) place place', p.inventory.Holds (.manager k) place →
    p.inventory.Holds (.manager k) place' → place.id = place'.id → place = place'
  /-- No object has an id that may still be given away. -/
  used : ∀ k place, p.inventory.Holds k place → ¬ p.Upcoming place.id
  /-- A logical switch that stands for a segment with such an id came with that segment. -/
  switches : ∀ x ∈ p.switches, ∀ n parent,
    isSwitchOf ((Kind.policy .segment).path ⟨parent, p.freshId n⟩) x = true →
      n < p.drawnIds ∧ x.id = switchId (p.freshId n)

/-- A control plane without objects and logical switches. -/
theorem sound_of_empty (hids : ∀ n, Path.IsId (p.freshId n))
    (hfresh : Function.Injective p.freshId) (hinventory : p.inventory = {})
    (hswitches : p.switches = []) : p.Sound where
  ids := hids
  fresh := hfresh
  indexed := hinventory ▸ Inventory.indexed_empty
  sorted := hinventory ▸ Inventory.sorted_empty
  unique k place _ hholds := by
    rw [hinventory] at hholds
    cases k <;> exact nomatch hholds
  used k place hholds := by
    rw [hinventory] at hholds
    rcases k with k | k <;> cases k <;> exact nomatch hholds
  switches x hmem := by
    rw [hswitches] at hmem
    exact nomatch hmem

/-- Ids tell objects apart as long as every new object, and every new logical switch, has an id that
was given away for it. -/
theorem Sound.moved (h : p.Sound) (hsettings : Part.settings.Same p p')
    (hdrawn : p.drawnIds ≤ p'.drawnIds) (hindexed : p'.inventory.Indexed)
    (hsorted : p'.inventory.Sorted)
    (hheld : ∃ new : Place, ∀ k place, p'.inventory.Holds k place →
      p.inventory.Holds k place ∨ place = new ∧ p.Drew p' new.id)
    (hswitches : ∀ x ∈ p'.switches, x ∈ p.switches ∨ ∃ (place : Place) (o : Segment),
      p.Drew p' place.id ∧ x = switchOf ((Kind.policy .segment).path place) place.id o) :
    p'.Sound := by
  have hids : p'.freshId = p.freshId := hsettings.2.2
  have hfresh : Function.Injective p'.freshId := hids ▸ h.fresh
  have hnew : ∀ {id}, p.Drew p' id → ¬ p'.Upcoming id := fun hdrew =>
    (hdrew.given hids).not_upcoming hfresh
  obtain ⟨new, hheld⟩ := hheld
  refine ⟨hids ▸ h.ids, hfresh, hindexed, hsorted, ?_, ?_, ?_⟩
  · intro k place place' hplace hplace' hid
    rcases hheld _ _ hplace with hold | ⟨rfl, hdrew⟩ <;>
      rcases hheld _ _ hplace' with hold' | ⟨rfl, hdrew'⟩
    · exact h.unique k place place' hold hold' hid
    · exact absurd (hid ▸ hdrew'.upcoming) (h.used _ _ hold)
    · exact absurd (hid ▸ hdrew.upcoming) (h.used _ _ hold')
    · rfl
  · intro k place hplace hupcoming
    rcases hheld _ _ hplace with hold | ⟨rfl, hdrew⟩
    · exact h.used k place hold (hupcoming.before hdrawn hids)
    · exact hnew hdrew hupcoming
  · intro x hmem n parent hstands
    rw [hids] at hstands ⊢
    rcases hswitches x hmem with hold | ⟨place, o, ⟨m, hfirst, hlast, hm⟩, rfl⟩
    · obtain ⟨hlt, hid⟩ := h.switches x hold n parent hstands
      exact ⟨Nat.lt_of_lt_of_le hlt hdrawn, hid⟩
    · have hpath := isSwitchOf_switchOf.mp hstands
      have hplace : place.id = p.freshId n := by
        have hidOf : Path.idOf (Path.segment place.parent place.id) =
          Path.idOf (Path.segment parent (p.freshId n)) := congrArg Path.idOf hpath
        rwa [Path.idOf_segment _ (hm ▸ h.ids m), Path.idOf_segment _ (h.ids n)] at hidOf
      obtain rfl : m = n := h.fresh (hm.trans hplace)
      exact ⟨hlast, congrArg switchId hplace⟩

end ControlPlane.Simulator

namespace Pipeline

open Cluster (InfraError Reference Slot Spec State)
open ControlPlane Program
open ControlPlane.Simulator (isSwitchOf switchId switchOf)

variable {s s' : State} {k : Kind} {t : Task} {es : List Event} {c : Context} {spec : Spec}
  {r : Reference} {place : Place} {b b' : Testbed} {identity : ClusterIdentity} {w w' : World}

/-! ### Handles -/

/-- What something on a control plane is reached by. -/
inductive Handle where
  /-- The id of an object of a kind. -/
  | object (kind : Kind) (id : String)
  /-- The id of a logical switch. -/
  | switch (id : String)

/-- What a state leads to: the objects that it refers to, the logical switch that it refers to, and
the one that came with its segment. -/
inductive Reaches (s : State) : Handle → Prop
  /-- An object. -/
  | object {k : Kind} {r : Reference} (href : s.reference (slot k) = some r) :
    Reaches s (.object k r.id)
  /-- The logical switch that was found. -/
  | switch {r : Reference} (href : s.reference .logicalSwitch = some r) : Reaches s (.switch r.id)
  /-- The logical switch of the segment. -/
  | segment {r : Reference} (href : s.reference (slot (.policy .segment)) = some r) :
    Reaches s (.switch (switchId r.id))

namespace Handle

/-- Whether what is reached is the same. -/
def Same : Handle → Simulator → Simulator → Prop
  | object k id, p, p' =>
    ∀ parent, p'.inventory.find? k ⟨parent, id⟩ = p.inventory.find? k ⟨parent, id⟩
  | switch id, p, p' => ∀ x : LogicalSwitch, x.id = id → (x ∈ p'.switches ↔ x ∈ p.switches)

/-- Whether something may still come to be reached by a handle that nothing is reached by yet. -/
def Upcoming (p : Simulator) : Handle → Prop
  | object _ id => p.Upcoming id
  | switch id => ∃ id', p.Upcoming id' ∧ id = switchId id'

/-- Whether what is reached carries the tags of a cluster. -/
def Tagged (identity : ClusterIdentity) (p : Simulator) : Handle → Prop
  | object (.manager k) id => ∃ parent o,
    p.inventory.find? (.manager k) ⟨parent, id⟩ = some o ∧ identity.isTagged (k.tags o) = true
  | _ => False

end Handle

/-! ### What a cluster keeps to -/

/-- Whether a state leads to objects of its cluster. -/
structure Proper (identity : ClusterIdentity) (w : World) : Prop where
  /-- Declared objects are referred to by their paths, and were given their ids. -/
  declared : ∀ (k : PolicyKind) r, w.2.reference (slot (.policy k)) = some r →
    ∃ place : Place, r = ⟨place.id, (Kind.policy k).path place⟩ ∧ w.1.Given place.id
  /-- Created objects are there and carry the tags of the cluster. -/
  created : ∀ (k : ManagerKind) r, w.2.reference (slot (.manager k)) = some r →
    ∃ place o, PointsAt (.manager k) r place ∧
      w.1.inventory.find? (.manager k) place = some o ∧ identity.isTagged (k.tags o) = true
  /-- The logical switch came with a segment. -/
  switch : ∀ r, w.2.reference .logicalSwitch = some r → ∃ id, w.1.Given id ∧ r.id = switchId id

theorem proper_fresh (identity : ClusterIdentity) (p : Simulator) :
    Proper identity (p, .fresh) where
  declared k _ href := nomatch (reference_fresh (slot (.policy k))).symm.trans href
  created k _ href := nomatch (reference_fresh (slot (.manager k))).symm.trans href
  switch _ href := nomatch (reference_fresh .logicalSwitch).symm.trans href

/-- **What a state leads to has no id that is still to be given away.** -/
theorem Proper.not_upcoming (h : Proper identity w) (hs : w.1.Sound) {handle : Handle}
    (hreaches : Reaches w.2 handle) : ¬ handle.Upcoming w.1 := by
  have hswitch : ∀ {id}, w.1.Given id → ¬ (Handle.switch (switchId id)).Upcoming w.1 := by
    rintro id hgiven ⟨id', hupcoming, hid⟩
    rw [← Simulator.switchId_injective hid] at hupcoming
    exact hgiven.not_upcoming hs.fresh hupcoming
  cases hreaches with
  | @object k r href =>
    cases k with
    | policy k =>
      obtain ⟨place, rfl, hgiven⟩ := h.declared k r href
      exact hgiven.not_upcoming hs.fresh
    | manager k =>
      obtain ⟨place, o, ⟨rfl, -⟩, hfind, -⟩ := h.created k r href
      exact hs.used _ place (Inventory.holds_of_find? hfind)
  | @switch r href =>
    obtain ⟨id, hgiven, hid⟩ := h.switch r href
    rw [hid]
    exact hswitch hgiven
  | segment href =>
    obtain ⟨place, rfl, hgiven⟩ := h.declared .segment _ href
    exact hswitch hgiven

/-- What one task of a cluster may do. -/
structure Moved (identity : ClusterIdentity) (w w' : World) : Prop where
  /-- The settings stay as they were. -/
  settings : Part.settings.Same w.1 w'.1
  /-- No id is taken back. -/
  drawn : w.1.drawnIds ≤ w'.1.drawnIds
  /-- Ids still tell objects apart. -/
  sound : w'.1.Sound
  /-- The state still leads to objects of the cluster. -/
  proper : Proper identity w'
  /-- Nothing changes but what the state leads to before or afterwards. -/
  frame : ∀ handle, ¬ Reaches w.2 handle → ¬ Reaches w'.2 handle → handle.Same w.1 w'.1
  /-- The state comes to lead to what is new, and to what carries the tags. -/
  reach : ∀ handle, Reaches w'.2 handle →
    Reaches w.2 handle ∨ handle.Upcoming w.1 ∨ handle.Tagged identity w.1

/-- A state that leads to the objects of its cluster does so as long as those stay as they were. -/
theorem Proper.congr (h : Proper identity w) {p : Simulator}
    (hsettings : Part.settings.Same w.1 p) (hdrawn : w.1.drawnIds ≤ p.drawnIds)
    (hsame : ∀ handle, Reaches w.2 handle → handle.Same w.1 p) : Proper identity (p, w.2) where
  declared k r href := by
    obtain ⟨place, hr, hgiven⟩ := h.declared k r href
    exact ⟨place, hr, hgiven.mono hdrawn hsettings.2.2⟩
  created k r href := by
    obtain ⟨place, o, hpoints, hfind, htagged⟩ := h.created k r href
    have hkept := hsame _ (.object href) place.parent
    rw [hpoints.1] at hkept
    exact ⟨place, o, hpoints, hkept.trans hfind, htagged⟩
  switch r href := by
    obtain ⟨id, hgiven, hid⟩ := h.switch r href
    exact ⟨id, hgiven.mono hdrawn hsettings.2.2, hid⟩

/-! ### Looking up and forgetting -/

/-- **Looking things up and forgetting them changes nothing**, and leads to nothing new. The logical
switch that is looked up came with the segment that the state refers to. -/
theorem moved_of_same (hs : w.1.Sound) (hp : Proper identity w)
    (hsettings : Part.settings.Same w.1 w'.1) (hdrawn : w.1.drawnIds ≤ w'.1.drawnIds)
    (hinventory : w'.1.inventory = w.1.inventory) (hswitches : w'.1.switches = w.1.switches)
    (hobjects : ∀ k r, w'.2.reference (slot k) = some r → w.2.reference (slot k) = some r)
    (hswitch : ∀ r, w'.2.reference .logicalSwitch = some r →
      w.2.reference .logicalSwitch = some r ∨ ∃ segment, ∃ x ∈ w.1.switches,
        w.2.reference (slot (.policy .segment)) = some segment ∧
          standsFor segment.path x = true ∧ r.id = x.id) : Moved identity w w' := by
  have hids : w'.1.freshId = w.1.freshId := hsettings.2.2
  have hfound : ∀ r, w'.2.reference .logicalSwitch = some r →
      w.2.reference .logicalSwitch = some r ∨ ∃ segment,
        w.2.reference (slot (.policy .segment)) = some segment ∧ r.id = switchId segment.id := by
    intro r href
    refine (hswitch r href).imp_right ?_
    rintro ⟨segment, x, hmem, hsegment, hstands, hid⟩
    obtain ⟨place, rfl, n, -, hn⟩ := hp.declared .segment segment hsegment
    have htag :
        isSwitchOf ((Kind.policy .segment).path ⟨place.parent, w.1.freshId n⟩) x = true := by
      rw [hn]
      refine List.any_eq_true.mpr ?_
      obtain ⟨tag, htag, hstands⟩ := List.any_eq_true.mp hstands
      exact ⟨tag, htag, (Bool.and_eq_true_iff.mp hstands).2⟩
    exact ⟨_, hsegment, by rw [hid, (hs.switches x hmem n place.parent htag).2, hn]⟩
  refine ⟨hsettings, hdrawn, ?_, ⟨?_, ?_, ?_⟩, ?_, ?_⟩
  · refine hs.moved hsettings hdrawn (hinventory ▸ hs.indexed) (hinventory ▸ hs.sorted)
      ⟨⟨"", ""⟩, fun k place hholds => .inl (hinventory ▸ hholds)⟩ fun x hmem => .inl ?_
    exact hswitches ▸ hmem
  · intro k r href
    obtain ⟨place, hr, hgiven⟩ := hp.declared k r (hobjects _ r href)
    exact ⟨place, hr, hgiven.mono hdrawn hids⟩
  · intro k r href
    rw [hinventory]
    exact hp.created k r (hobjects _ r href)
  · intro r href
    rcases hfound r href with hold | ⟨segment, hsegment, hid⟩
    · obtain ⟨id, hgiven, hid⟩ := hp.switch r hold
      exact ⟨id, hgiven.mono hdrawn hids, hid⟩
    · obtain ⟨place, rfl, hgiven⟩ := hp.declared .segment segment hsegment
      exact ⟨_, hgiven.mono hdrawn hids, hid⟩
  · rintro (⟨k, id⟩ | id) - -
    · exact fun parent => by rw [hinventory]
    · exact fun x _ => by rw [hswitches]
  · intro handle hreaches
    refine .inl ?_
    cases hreaches with
    | object href => exact .object (hobjects _ _ href)
    | segment href => exact .segment (hobjects _ _ href)
    | @switch r href =>
      rcases hfound r href with hold | ⟨segment, hsegment, hid⟩
      · exact .switch hold
      · rw [hid]
        exact .segment hsegment

/-- What looking the logical switch up leads to. -/
theorem switch_of_runTask {left : Left Action} (hqueued : b.queued = [])
    (h : b.run (runTask .lookUpSwitch c spec s) = (some left, b')) :
    left.2 = s ∨ ∃ segment, ∃ x ∈ b.plane.switches, s.reference .segment = some segment ∧
      standsFor segment.path x = true ∧
      left.2 = s.withReference .logicalSwitch (some ⟨x.id, Path.logicalSwitch x.id⟩) := by
  rw [runTask_eq (recoverIfLost_of_recover? rfl c s)] at h
  obtain ⟨⟨result, s₁⟩, b₁, h₁, h₂⟩ := run_bind_eq_some_iff.mp h
  obtain ⟨rfl, -⟩ := run_done_eq_some_iff.mp h₂
  rw [Task.ensure, lookUpSwitch_eq] at h₁
  split at h₁
  · obtain ⟨hleft, -⟩ := run_done_eq_some_iff.mp h₁
    exact .inl (Prod.mk.inj hleft).2
  · next segment hsegment =>
    obtain ⟨found, b₂, h₃, h₄⟩ := run_bind_eq_some_iff.mp h₁
    obtain ⟨hbound, -⟩ := run_done_eq_some_iff.mp h₄
    rcases found with e | x
    · exact .inl (Prod.mk.inj hbound).2
    cases x with
    | none => exact .inl (Prod.mk.inj hbound).2
    | some x =>
      have hfound : b.plane.switches.find? (standsFor segment.path) = some x :=
        find?_of_firstIn rfl (lists_switches.loop_ok hqueued h₃)
      exact .inr ⟨segment, x, List.mem_of_find?_eq_some hfound, hsegment, List.find?_some hfound,
        (Prod.mk.inj hbound).2⟩

/-! ### Bringing about -/

/-- What bringing an object about makes of the logical switches: a new segment may bring one with
it. -/
def Brings (k : Kind) (w w' : World) : Prop :=
  w'.1.switches = w.1.switches ∨ ∃ (place : Place) (o : Segment) (r : Reference),
    k = .policy .segment ∧ w.1.Drew w'.1 place.id ∧ w'.2.reference (slot k) = some r ∧
    r.id = place.id ∧
    w'.1.switches = w.1.switches ++ [switchOf ((Kind.policy .segment).path place) place.id o]

theorem Brings.after {w₁ w w' : World} (h : Brings k w w') (hsame : w.1.switches = w₁.1.switches)
    (hle : w₁.1.drawnIds ≤ w.1.drawnIds) (hids : w.1.freshId = w₁.1.freshId) : Brings k w₁ w' := by
  rcases h with hkept | ⟨place, o, r, hk, hdrew, href, hid, hadded⟩
  · exact .inl (hkept.trans hsame)
  · exact .inr ⟨place, o, r, hk, hdrew.after hle hids, href, hid, hsame ▸ hadded⟩

/-- Reading changes no logical switch. -/
theorem switches_of_get {answer : Except ApiError k.Object} {plane plane' : Simulator}
    (h : Simulator.answer (.get k place) plane = (answer, plane')) :
    plane'.switches = plane.switches := by
  have huntouched : Part.switches ∉ (Request.get k place).touches := List.not_mem_nil
  exact congrArg (·.2.switches) h ▸ Simulator.answer_same huntouched plane

theorem Built.brings {parent : String} {o : Segment} {left : Left Action}
    (h : Built parent s (.policy .segment) o es left) (hqueued : b.queued = [])
    (hreplies : Replies Testbed.perform es b b') :
    Brings (.policy .segment) (b.plane, s) (b'.plane, left.2) := by
  cases h with
  | declared id =>
    obtain ⟨rfl, hreplies⟩ := Testbed.replies_drawId hreplies
    have hdrawn : b.plane.drawnIds < b'.plane.drawnIds :=
      Testbed.drawnIds_le_of_replies (b := { b with plane := b.plane.drawId.2 }) hreplies hqueued
    have hanswer := Testbed.replies_called (b := { b with plane := b.plane.drawId.2 }) hqueued
      hreplies
    refine (Simulator.switches_of_patch hanswer).imp_right fun hbrought => ?_
    have href := State.reference_withReference_self s (slot (.policy .segment))
      (some ⟨b.plane.freshId b.plane.drawnIds,
        (Kind.policy .segment).path ⟨parent, b.plane.freshId b.plane.drawnIds⟩⟩)
    exact ⟨_, o, _, rfl, ⟨_, Nat.le_refl _, hdrawn, rfl⟩, (reference_recorded ..).trans href, rfl,
      hbrought.2.2⟩
  | undeclared id e =>
    obtain ⟨-, hreplies⟩ := Testbed.replies_drawId hreplies
    have hanswer := Testbed.replies_called (b := { b with plane := b.plane.drawId.2 }) hqueued
      hreplies
    exact (Simulator.switches_of_patch hanswer).imp_right fun hbrought => nomatch hbrought.1

theorem Ensured.brings {left : Left Action} (h : Ensured k c spec s es left)
    (hqueued : b.queued = []) (hreplies : Replies Testbed.perform es b b') :
    Brings k (b.plane, s) (b'.plane, left.2) := by
  by_cases hk : k = .policy .segment
  · subst hk
    cases h with
    | undrafted hdraft => exact .inl (by rw [replies_nil.mp hreplies])
    | first hdraft href h => exact h.brings hqueued hreplies
    | kept hdraft href hagrees =>
      exact .inl (switches_of_get (Testbed.replies_called hqueued hreplies))
    | changed hdraft href hagrees h =>
      obtain ⟨plane, hanswer, hreplies⟩ := Testbed.replies_call hqueued hreplies
      have hfind := Simulator.get_of_answer_ok hanswer
      refine .inl (Eq.trans ?_ (switches_of_get hanswer))
      cases h with
      | declared =>
        have hpatched := Testbed.replies_called (b := { b with plane }) hqueued hreplies
        refine (Simulator.switches_of_patch hpatched).resolve_right ?_
        rintro ⟨-, hnone, -⟩
        rw [hfind.2, hfind.1] at hnone
        exact nomatch hnone
      | undeclared e =>
        have hpatched := Testbed.replies_called (b := { b with plane }) hqueued hreplies
        refine (Simulator.switches_of_patch hpatched).resolve_right ?_
        exact fun hbrought => nomatch hbrought.1
    | again hdraft href he h =>
      obtain ⟨plane, hanswer, hreplies⟩ := Testbed.replies_call hqueued hreplies
      have hplane : (Simulator.answer _ b.plane).2 = plane := congrArg Prod.snd hanswer
      have hbrings := h.brings (b := { b with plane }) hqueued hreplies
      refine hbrings.after (switches_of_get hanswer) ?_ ?_
      · exact hplane ▸ Simulator.drawnIds_le_answer _ _
      · exact hplane ▸ Simulator.freshId_answer _ _
    | unread hdraft href he =>
      exact .inl (switches_of_get (Testbed.replies_called hqueued hreplies))
  · refine .inl ((Testbed.replies_same hreplies hqueued).2 .switches fun e hmem hpart => hk ?_)
    have htouched := h.within e hmem .switches hpart
    rcases k with k | k <;> cases k <;> simp_all [Task.touches, companions]

theorem runTask_brings {left : Left Action} (hqueued : b.queued = [])
    (h : b.run (runTask (.managed k) c spec s) = (some left, b')) :
    Brings k (b.plane, s) (b'.plane, left.2) := by
  obtain ⟨recovered, b₁, h₁, hqueued₁, hleft⟩ := runTask_managed_cases hqueued h
  obtain ⟨es₁, -, hreplies₁⟩ := run_eq_some_iff.mp h₁
  have hsame : b₁.plane.switches = b.plane.switches := (recoverIfLost_same hqueued h₁).2 .switches
  rcases hleft with ⟨-, rfl⟩ | ⟨es, left', hensured, hreplies, hleft⟩
  · exact .inl hsame
  · rw [hleft]
    exact (hensured.brings hqueued₁ hreplies).after hsame
      (Testbed.drawnIds_le_of_replies hreplies₁ hqueued)
      (Testbed.replies_settings hreplies₁ hqueued).2.2

/-- What looking after an object comes to. -/
structure Attends (k : Kind) (c : Context) (spec : Spec) (w w' : World) : Prop where
  /-- The settings stay as they were. -/
  settings : Part.settings.Same w.1 w'.1
  /-- No id is taken back. -/
  drawn : w.1.drawnIds ≤ w'.1.drawnIds
  /-- Nothing is taken away. -/
  stocked : Stocked w w'
  /-- Nothing is stored, or the object. -/
  stores : Stores k c spec w w'
  /-- No logical switch comes, or the one of a new segment. -/
  brings : Brings k w w'
  /-- The reference was there before, or it is one to an object that was made or adopted. -/
  origin : ∀ r, w'.2.reference (slot k) = some r → w.2.reference (slot k) = some r ∨
    Made k w w' r ∨ Adopted c.identity (.managed k) w r
  /-- The other slots are as they were. -/
  others : ∀ slot', slot' ≠ slot k → w'.2.reference slot' = w.2.reference slot'
  /-- So are the objects of the other kinds. -/
  tables : ∀ k', k' ≠ k → w'.1.inventory.table k' = w.1.inventory.table k'

theorem runTask_attends {left : Left Action} (hqueued : b.queued = [])
    (hi : b.plane.inventory.Indexed)
    (h : b.run (runTask (.managed k) c spec s) = (some left, b')) :
    Attends k c spec (b.plane, s) (b'.plane, left.2) := by
  obtain ⟨es, htrace, hreplies⟩ := run_eq_some_iff.mp h
  obtain ⟨hstores, horigin⟩ := runTask_managed_stores hqueued hi h
  refine ⟨Testbed.replies_settings hreplies hqueued,
    Testbed.drawnIds_le_of_replies hreplies hqueued, runTask_stocked hqueued h hi, hstores,
    runTask_brings hqueued h, horigin, ?_, ?_⟩
  · exact fun slot' hne => (runTask_advanced htrace).1.others slot' fun heq =>
      hne (Option.some.inj heq).symm
  · exact fun k' hne => table_runTask_of_ne hqueued h fun heq => hne (Task.managed.inj heq).symm

theorem Attends.reference_logicalSwitch (h : Attends k c spec w w') :
    w'.2.reference .logicalSwitch = w.2.reference .logicalSwitch :=
  h.others _ fun heq => by rcases k with k | k <;> cases k <;> cases heq

/-- Ids still tell objects apart when an object has been looked after. -/
theorem Attends.sound (h : Attends k c spec w w') (hs : w.1.Sound) : w'.1.Sound := by
  refine hs.moved h.settings h.drawn h.stocked.indexed ?_ ?_ fun x hmem => ?_
  · rcases h.stores with hkept | ⟨place, o, stored, r, hput, -⟩
    · exact hkept ▸ hs.sorted
    · exact hput ▸ hs.sorted.put k place stored
  · rcases h.stores with hkept | ⟨place, o, stored, r, hput, -, -, -, -, -, hplace⟩
    · exact ⟨⟨"", ""⟩, fun k' place' hholds => .inl (hkept ▸ hholds)⟩
    · refine ⟨place, fun k' place' hholds => ?_⟩
      rw [hput] at hholds
      by_cases hk : k' = k
      · subst hk
        rcases Inventory.holds_put_iff.mp hholds with rfl | hold
        · exact hplace.imp_right fun hdrew => ⟨rfl, hdrew⟩
        · exact .inl hold
      · exact .inl ((Inventory.holds_put_of_ne hk).mp hholds)
  · rcases h.brings with hkept | ⟨place, o, r, -, hdrew, -, -, hadded⟩
    · exact .inl (hkept ▸ hmem)
    · rw [hadded, List.mem_append, List.mem_singleton] at hmem
      exact hmem.imp_right fun hx => ⟨place, o, hdrew, hx⟩

/-- A declared object that is referred to was given its id, whether it was known or made. -/
theorem Attends.declared {k : PolicyKind} (h : Attends (.policy k) c spec w w')
    (hp : Proper c.identity w) (href : w'.2.reference (slot (.policy k)) = some r) :
    ∃ place : Place, r = ⟨place.id, (Kind.policy k).path place⟩ ∧ w'.1.Given place.id := by
  rcases h.origin r href with hold | ⟨place, hr, -, hdrew⟩ | ⟨k', -, -, htask, -⟩
  · obtain ⟨place, hr, hgiven⟩ := hp.declared k r hold
    exact ⟨place, hr, hgiven.mono h.drawn h.settings.2.2⟩
  · exact ⟨place, hr, hdrew.given h.settings.2.2⟩
  · exact nomatch Task.managed.inj htask

/-- A created object that is referred to carries the tags of the cluster, whether it was known, or
made, or adopted. -/
theorem Attends.created {k : ManagerKind} (h : Attends (.manager k) c spec w w') (hs : w.1.Sound)
    (hp : Proper c.identity w) (href : w'.2.reference (slot (.manager k)) = some r) :
    ∃ place o, PointsAt (.manager k) r place ∧
      w'.1.inventory.find? (.manager k) place = some o ∧ c.identity.isTagged (k.tags o) = true := by
  have hstands : Stands w'.1.inventory (.manager k) r := by
    rcases h.stocked.stands _ _ href with hold | hstands
    · obtain ⟨place, o, hpoints, hfind, -⟩ := hp.created k r hold
      exact ⟨place, hpoints, h.stocked.held _ _ (Inventory.holds_of_find? hfind)⟩
    · exact hstands
  obtain ⟨place, hpoints, hholds⟩ := hstands
  have hbefore : w.1.inventory.Holds (.manager k) place → ∃ o,
      w.1.inventory.find? (.manager k) place = some o ∧ c.identity.isTagged (k.tags o) = true := by
    intro hheld
    rcases h.origin r href with hold | ⟨place', hr, -, hdrew⟩ |
      ⟨k', place', o, htask, -, hr, hparent, hmem, htagged⟩
    · obtain ⟨place', o, hpoints', hfind, htagged⟩ := hp.created k r hold
      exact ⟨o, hpoints.unique hpoints' ▸ hfind, htagged⟩
    · have hid : place'.id = place.id := congrArg Reference.id (hr.symm.trans hpoints.1)
      exact absurd (hid ▸ hdrew.upcoming) (hs.used _ _ hheld)
    · obtain rfl : k = k' := Kind.manager.inj (Task.managed.inj htask)
      have hpoints' : PointsAt (.manager k) r place' := hr ▸ pointsAt_of_parentOf hparent place'.id
      exact ⟨o, hpoints.unique hpoints' ▸ (hs.sorted k).find?_of_mem hmem, htagged⟩
  rcases h.stores with hkept | ⟨place', o, stored, -, hput, hdraft, hagrees, -⟩
  · rw [hkept] at hholds
    obtain ⟨o, hfind, htagged⟩ := hbefore hholds
    exact ⟨place, o, hpoints, hkept ▸ hfind, htagged⟩
  · rw [hput] at hholds
    by_cases hplace : place = place'
    · subst hplace
      refine ⟨place, stored, hpoints, ?_, isTagged_of_agrees hdraft hagrees⟩
      rw [hput, Inventory.find?_put_self]
    · have hheld := (Inventory.holds_put_iff.mp hholds).resolve_left hplace
      obtain ⟨o, hfind, htagged⟩ := hbefore hheld
      refine ⟨place, o, hpoints, ?_, htagged⟩
      rw [hput, Inventory.find?_put_of_ne hplace, hfind]

/-- A state still leads to objects of its cluster when an object has been looked after. -/
theorem Attends.proper (h : Attends k c spec w w') (hs : w.1.Sound) (hp : Proper c.identity w) :
    Proper c.identity w' where
  declared pk r href := by
    by_cases hk : Kind.policy pk = k
    · subst hk
      exact h.declared hp href
    · have hold := (h.others _ fun heq => hk (slot_injective heq)).symm.trans href
      obtain ⟨place, hr, hgiven⟩ := hp.declared pk r hold
      exact ⟨place, hr, hgiven.mono h.drawn h.settings.2.2⟩
  created mk r href := by
    by_cases hk : Kind.manager mk = k
    · subst hk
      exact h.created hs hp href
    · have hold := (h.others _ fun heq => hk (slot_injective heq)).symm.trans href
      obtain ⟨place, o, hpoints, hfind, htagged⟩ := hp.created mk r hold
      refine ⟨place, o, hpoints, ?_, htagged⟩
      rw [Inventory.find?, h.tables _ hk, ← Inventory.find?, hfind]
  switch r href := by
    obtain ⟨id, hgiven, hid⟩ := hp.switch r (h.reference_logicalSwitch ▸ href)
    exact ⟨id, hgiven.mono h.drawn h.settings.2.2, hid⟩

/-- Nothing changes but the object looked after and the logical switch that comes with it. -/
theorem Attends.frame (h : Attends k c spec w w') {handle : Handle}
    (hnot : ¬ Reaches w'.2 handle) : handle.Same w.1 w'.1 := by
  cases handle with
  | object k' id =>
    intro parent
    by_cases hk : k' = k
    · subst hk
      rcases h.stores with hkept | ⟨place, o, stored, r, hput, -, -, href, hid, -⟩
      · rw [hkept]
      · rw [hput]
        refine Inventory.find?_put_of_ne fun hplace => hnot ?_
        have hreaches := Reaches.object href
        rwa [hid, ← hplace] at hreaches
    · rw [Inventory.find?, h.tables k' hk, ← Inventory.find?]
  | switch id =>
    rintro x rfl
    rcases h.brings with hkept | ⟨place, o, r, rfl, -, href, hid, hadded⟩
    · rw [hkept]
    · rw [hadded, List.mem_append, List.mem_singleton]
      refine or_iff_left fun hx => hnot ?_
      have hreaches := Reaches.segment href
      rwa [hid, show switchId place.id = x.id by rw [hx]; rfl] at hreaches

/-- The state comes to lead to the object looked after, if that is new or carries the tags. -/
theorem Attends.reach (h : Attends k c spec w w') (hs : w.1.Sound) {handle : Handle}
    (hreaches : Reaches w'.2 handle) :
    Reaches w.2 handle ∨ handle.Upcoming w.1 ∨ handle.Tagged c.identity w.1 := by
  cases hreaches with
  | @object k' r href =>
    by_cases hk : k' = k
    · subst hk
      rcases h.origin r href with hold | ⟨place, rfl, -, hdrew⟩ |
        ⟨mk, place, o, htask, -, rfl, -, hmem, htagged⟩
      · exact .inl (.object hold)
      · exact .inr (.inl hdrew.upcoming)
      · obtain rfl := Task.managed.inj htask
        exact .inr (.inr ⟨place.parent, o, (hs.sorted mk).find?_of_mem hmem, htagged⟩)
    · exact .inl (.object ((h.others _ fun heq => hk (slot_injective heq)).symm.trans href))
  | switch href => exact .inl (.switch (h.reference_logicalSwitch ▸ href))
  | @segment r href =>
    by_cases hk : Kind.policy .segment = k
    · subst hk
      rcases h.origin r href with hold | ⟨place, rfl, -, hdrew⟩ | ⟨mk, -, -, htask, -⟩
      · exact .inl (.segment hold)
      · exact .inr (.inl ⟨place.id, hdrew.upcoming, rfl⟩)
      · exact nomatch Task.managed.inj htask
    · exact .inl (.segment ((h.others _ fun heq => hk (slot_injective heq)).symm.trans href))

theorem Attends.moved (h : Attends k c spec w w') (hs : w.1.Sound) (hp : Proper c.identity w) :
    Moved c.identity w w' :=
  ⟨h.settings, h.drawn, h.sound hs, h.proper hs hp, fun _ _ => h.frame, fun _ => h.reach hs⟩

/-- **A task of a run moves no further**: it changes what its state leads to, and comes to lead to
nothing but what is new or carries the tags of its cluster. -/
theorem runTask_moved {left : Left Action} (hqueued : b.queued = []) (hs : b.plane.Sound)
    (hp : Proper c.identity (b.plane, s)) (h : b.run (runTask t c spec s) = (some left, b')) :
    Moved c.identity (b.plane, s) (b'.plane, left.2) := by
  by_cases ht : ∃ k, t = .managed k
  · obtain ⟨k, rfl⟩ := ht
    exact (runTask_attends hqueued hs.indexed h).moved hs hp
  · obtain ⟨es, htrace, hreplies⟩ := run_eq_some_iff.mp h
    have hinventory : b'.plane.inventory = b.plane.inventory := Inventory.eq_of_table_eq fun k =>
      table_runTask_of_ne hqueued h fun heq => ht ⟨k, heq⟩
    have hslots : ∀ slot', t.slot ≠ some slot' → left.2.reference slot' = s.reference slot' :=
      (runTask_advanced htrace).1.others
    have hswitches : b'.plane.switches = b.plane.switches :=
      (Testbed.replies_same hreplies hqueued).2 .switches fun e hmem hpart => by
        have htouched := within_runTask htrace e hmem .switches hpart
        cases t with
        | managed k => exact ht ⟨k, rfl⟩
        | lookUp _ | lookUpSwitch => cases htouched
        | realization => cases List.mem_singleton.mp htouched
    refine moved_of_same hs hp (Testbed.replies_settings hreplies hqueued)
      (Testbed.drawnIds_le_of_replies hreplies hqueued) hinventory hswitches ?_ ?_
    · exact fun k r href => (hslots _ fun hown => ht ⟨k, Task.slot_injective hown⟩).symm.trans href
    · intro r href
      by_cases hlookUp : t = .lookUpSwitch
      · subst hlookUp
        rcases switch_of_runTask hqueued h with hleft | ⟨segment, x, hmem, hsegment, hstands, hleft⟩
        · exact .inl (hleft ▸ href)
        · rw [hleft, State.reference_withReference_self] at href
          obtain rfl := Option.some.inj href
          exact .inr ⟨segment, x, hmem, hsegment, hstands, rfl⟩
      · refine .inl ((hslots _ fun hown => ?_).symm.trans href)
        cases t with
        | managed k => exact ht ⟨k, rfl⟩
        | lookUpSwitch => exact hlookUp rfl
        | lookUp catalog => cases catalog <;> cases hown
        | realization => cases hown

/-! ### Deletion -/

/-- What is still referred to behind forgetting was referred to before. -/
theorem reference_of_forgetting {slot₁ slot₂ : Slot}
    (h : (s.forgetting slot₁).reference slot₂ = some r) : s.reference slot₂ = some r := by
  by_cases heq : slot₂ = slot₁
  · rw [heq, State.reference_forgetting_self] at h
    exact nomatch h
  · rwa [State.reference_forgetting_of_ne s heq] at h

theorem reference_of_forgotten {slot' : Slot} (h : (forgotten k s).reference slot' = some r) :
    slot' ≠ slot k ∧ s.reference slot' = some r := by
  by_cases heq : slot' = slot k
  · rw [heq, reference_forgotten_self] at h
    exact nomatch h
  · exact ⟨heq, (reference_forgotten_of_ne k s heq).symm.trans h⟩

/-- Ids still tell objects apart when an object is deleted. -/
theorem sound_of_deleted {plane : Simulator} {response : Except ApiError Unit}
    (hs : b.plane.Sound)
    (hanswer : Simulator.answer (.delete k place) b.plane = (response, plane))
    (hremoved : plane.inventory = b.plane.inventory.remove k place) : plane.Sound := by
  have hplane : (Simulator.answer (.delete k place) b.plane).2 = plane := congrArg Prod.snd hanswer
  have hsettings : Part.settings.Same b.plane plane :=
    hplane ▸ Simulator.answer_same (Request.settings_not_mem_touches _) b.plane
  refine hs.moved hsettings (hplane ▸ Simulator.drawnIds_le_answer _ _)
    (hremoved ▸ hs.indexed.remove k _) (hremoved ▸ hs.sorted.remove k _)
    ⟨⟨"", ""⟩, fun k' place' hholds => .inl ?_⟩ fun x hmem => .inl ?_
  · rw [hremoved] at hholds
    by_cases hk : k' = k
    · subst hk
      exact (Inventory.holds_remove_iff.mp hholds).2
    · exact (Inventory.holds_remove_of_ne hk).mp hholds
  · rcases Simulator.switches_of_delete hanswer with hkept | ⟨-, -, hfiltered⟩
    · exact hkept ▸ hmem
    · exact (List.mem_filter.mp (hfiltered ▸ hmem)).1

/-- **No other logical switch goes with a segment** than the one that the state leads to. -/
theorem switch_same_of_deleted {plane : Simulator} {parent id : String}
    {response : Except ApiError Unit} (hs : b.plane.Sound) (hp : Proper identity (b.plane, s))
    (href : s.reference (slot k) = some r)
    (hanswer : Simulator.answer (.delete k ⟨parent, r.id⟩) b.plane = (response, plane))
    (hnot : ¬ Reaches s (.switch id)) : (Handle.switch id).Same b.plane plane := by
  rintro x rfl
  rcases Simulator.switches_of_delete hanswer with hkept | ⟨rfl, -, hfiltered⟩
  · rw [hkept]
  rw [hfiltered, List.mem_filter]
  refine and_iff_left_of_imp fun _ => ?_
  rw [Bool.not_eq_true', Bool.eq_false_iff]
  intro hcontained
  obtain ⟨y, hmem, hid⟩ := List.mem_map.mp (List.contains_iff_mem.mp hcontained)
  obtain ⟨hy, hstands⟩ := List.mem_filter.mp hmem
  obtain ⟨place, rfl, n, -, hn⟩ := hp.declared .segment r href
  have hgone := (hs.switches y hy n parent (hn ▸ hstands)).2
  refine hnot ?_
  rw [← hid, hgone, hn]
  exact .segment href

/-- An object that is deleted is one that the state leads to, and so are the logical switches that
go with it. -/
theorem moved_of_deleted {plane : Simulator} {parent : String} {response : Except ApiError Unit}
    (hs : b.plane.Sound) (hp : Proper identity (b.plane, s))
    (href : s.reference (slot k) = some r)
    (hanswer : Simulator.answer (.delete k ⟨parent, r.id⟩) b.plane = (response, plane))
    (hremoved : plane.inventory = b.plane.inventory.remove k ⟨parent, r.id⟩) :
    Moved identity (b.plane, s) (plane, forgotten k s) := by
  have hplane : (Simulator.answer (.delete k ⟨parent, r.id⟩) b.plane).2 = plane :=
    congrArg Prod.snd hanswer
  have hsettings : Part.settings.Same b.plane plane :=
    hplane ▸ Simulator.answer_same (Request.settings_not_mem_touches _) b.plane
  have hdrawn : b.plane.drawnIds ≤ plane.drawnIds := hplane ▸ Simulator.drawnIds_le_answer _ _
  have hothers : ∀ {k'}, k' ≠ k → ∀ place,
      plane.inventory.find? k' place = b.plane.inventory.find? k' place := by
    intro k' hk place
    rw [hremoved, Inventory.find?, Inventory.table_remove_of_ne _ hk, ← Inventory.find?]
  refine ⟨hsettings, hdrawn, sound_of_deleted hs hanswer hremoved, ⟨?_, ?_, ?_⟩, ?_, ?_⟩
  · intro pk r' href'
    obtain ⟨place, hr, hgiven⟩ := hp.declared pk r' (reference_of_forgotten href').2
    exact ⟨place, hr, hgiven.mono hdrawn hsettings.2.2⟩
  · intro mk r' href'
    obtain ⟨hne, hold⟩ := reference_of_forgotten href'
    obtain ⟨place, o, hpoints, hfind, htagged⟩ := hp.created mk r' hold
    exact ⟨place, o, hpoints, (hothers (fun heq => hne (heq ▸ rfl)) place).trans hfind, htagged⟩
  · intro r' href'
    obtain ⟨id, hgiven, hid⟩ := hp.switch r' (reference_of_forgotten href').2
    exact ⟨id, hgiven.mono hdrawn hsettings.2.2, hid⟩
  · rintro (⟨k', id⟩ | id) hnot -
    · intro parent'
      by_cases hk : k' = k
      · subst hk
        rw [hremoved]
        refine Inventory.find?_remove_of_ne fun hplace => hnot ?_
        rw [(Place.mk.inj hplace).2]
        exact .object href
      · exact hothers hk _
    · exact switch_same_of_deleted hs hp href hanswer hnot
  · intro handle hreaches
    refine .inl ?_
    cases hreaches with
    | object href' => exact .object (reference_of_forgotten href').2
    | switch href' => exact .switch (reference_of_forgotten href').2
    | segment href' => exact .segment (reference_of_forgotten href').2

/-- A deletion that was not carried out, or none, moves nothing. -/
theorem Removed.moved {left : Left Bool} (h : Removed k s es left) (hqueued : b.queued = [])
    (hreplies : Replies Testbed.perform es b b') (hs : b.plane.Sound)
    (hp : Proper identity (b.plane, s)) : Moved identity (b.plane, s) (b'.plane, left.2) := by
  have hsettings := Testbed.replies_settings hreplies hqueued
  have hdrawn := Testbed.drawnIds_le_of_replies hreplies hqueued
  have hsame : b'.plane.inventory = b.plane.inventory → b'.plane.switches = b.plane.switches →
      (∀ slot' r, left.2.reference slot' = some r → s.reference slot' = some r) →
      Moved identity (b.plane, s) (b'.plane, left.2) :=
    fun hinventory hswitches hslots => moved_of_same hs hp hsettings hdrawn hinventory hswitches
      (fun k => hslots (slot k)) fun r href => .inl (hslots _ r href)
  have hrefused : ∀ {parent r} {e : ApiError}, Simulator.answer (.delete k ⟨parent, r⟩) b.plane =
      (.error e, b'.plane) → b'.plane.inventory = b.plane.inventory ∧
        b'.plane.switches = b.plane.switches := fun hanswer =>
    ⟨Simulator.inventory_of_answer_error hanswer,
      (Simulator.switches_of_delete hanswer).resolve_right fun hdeleted => nomatch hdeleted.2.1⟩
  cases h with
  | nothing href =>
    obtain rfl := replies_nil.mp hreplies
    exact hsame rfl rfl fun slot' r href' => (reference_withoutObject href slot').symm.trans href'
  | ownerless href howner =>
    obtain rfl := replies_nil.mp hreplies
    exact hsame rfl rfl fun _ _ => id
  | deleted href howner =>
    have hanswer := Testbed.replies_called hqueued hreplies
    exact moved_of_deleted hs hp href hanswer (Simulator.delete_of_answer_ok hanswer)
  | gone href howner he =>
    obtain ⟨hinventory, hswitches⟩ := hrefused (Testbed.replies_called hqueued hreplies)
    exact hsame hinventory hswitches fun slot' r' href' => (reference_of_forgotten href').2
  | refused href howner he =>
    obtain ⟨hinventory, hswitches⟩ := hrefused (Testbed.replies_called hqueued hreplies)
    exact hsame hinventory hswitches fun _ _ => id

/-- **A task of a takedown moves no further** either. -/
theorem Task.remove_moved {left : Left Bool} (hqueued : b.queued = []) (hs : b.plane.Sound)
    (hp : Proper identity (b.plane, s)) (h : b.run (t.remove s) = (some left, b')) :
    Moved identity (b.plane, s) (b'.plane, left.2) := by
  by_cases ht : ∃ k, t = .managed k
  · obtain ⟨k, rfl⟩ := ht
    obtain ⟨es, htrace, hreplies⟩ := run_eq_some_iff.mp h
    exact (removed_of_trace htrace).moved hqueued hreplies hs hp
  · have hforgets : b' = b ∧ ∀ slot' r, left.2.reference slot' = some r →
        s.reference slot' = some r := by
      cases t with
      | managed k => exact absurd ⟨k, rfl⟩ ht
      | lookUp _ | lookUpSwitch =>
        obtain ⟨rfl, rfl⟩ := run_done_eq_some_iff.mp h
        exact ⟨rfl, fun _ _ => reference_of_forgetting⟩
      | realization =>
        obtain ⟨rfl, rfl⟩ := run_done_eq_some_iff.mp h
        exact ⟨rfl, fun slot' _ href => by cases slot' <;> exact href⟩
    obtain ⟨rfl, hslots⟩ := hforgets
    exact moved_of_same hs hp (.refl .settings _) (Nat.le_refl _) rfl rfl
      (fun k => hslots (Pipeline.slot k)) fun r href => .inl (hslots _ r href)

end Pipeline

end ClusterNet
