import ClusterNet.Proofs.Pipeline.Cases

/-!
# The references that a state holds

Tasks are run in an order in which one builds on another, and taken down in the opposite one. So
the references that are held are always those of the first tasks: *no task has a reference unless
all tasks before it have one*. Runs may stop anywhere, with any error, and whatever the control
plane answers.

A run fills slots from the front and never empties one. Taking down empties slots from the back
and never fills one; what it must not leave behind is an address without its allocation, so the
address is treated there like one more slot.

## Main definitions

* `Pipeline.Coherent` — a name exactly for a segment, an address only for an allocation
* `Pipeline.Advanced` — what bringing about does to the references
* `Pipeline.Item`, `Task.item` — what a task is after
* `Pipeline.Retracted` — what taking down does to what is known
* `Pipeline.Reachable` — the states that runs and takedowns lead to

## Main results

* `Pipeline.runTasks_chained`, `Pipeline.removeAll_chained` — both keep the order
* `Pipeline.Reachable.prefix_of_tasks` — the references held are those of the first tasks
-/

namespace ClusterNet

namespace Pipeline

open Cluster (InfraError Reference Slot Spec State)
open ControlPlane Program

/-! ### What goes with references -/

/-- A state in which what is known besides references goes with them. -/
structure Coherent (s : State) : Prop where
  /-- The segment's name is known exactly if there is a reference to it. -/
  named : s.segmentName.isSome = (s.reference .segment).isSome
  /-- The address is only known if there is a reference to its allocation. -/
  addressed : s.snatIpAddress.isSome → (s.reference .snatIpAllocation).isSome

theorem coherent_fresh : Coherent .fresh := ⟨rfl, fun h => nomatch h⟩

/-! ### Bringing about -/

/-- What bringing about does to the references: it leaves those of others alone, and it does not
lose its own. -/
structure Advanced (own : Option Slot) (s s' : State) : Prop where
  /-- The other slots are as they were. -/
  others : ∀ slot, own ≠ some slot → s'.reference slot = s.reference slot
  /-- The task's own slot is still filled if it was. -/
  kept : ∀ slot, own = some slot → (s.reference slot).isSome → (s'.reference slot).isSome
  /-- What goes with references still does. -/
  coherent : Coherent s → Coherent s'
  /-- The address only changes with its allocation, or where there is no slot to fill. -/
  address : own ≠ none → own ≠ some .snatIpAllocation → s'.snatIpAddress = s.snatIpAddress
  /-- Whether objects may have been created is not touched. -/
  started : s'.creationStarted = s.creationStarted

theorem Advanced.refl (own : Option Slot) (s : State) : Advanced own s s where
  others _ _ := rfl
  kept _ _ h := h
  coherent h := h
  address _ _ := rfl
  started := rfl

theorem Advanced.trans {own : Option Slot} {s s' s'' : State} (h : Advanced own s s')
    (h' : Advanced own s' s'') : Advanced own s s'' where
  others slot hne := (h'.others slot hne).trans (h.others slot hne)
  kept slot hown hset := h'.kept slot hown (h.kept slot hown hset)
  coherent hs := h'.coherent (h.coherent hs)
  address hown hne := (h'.address hown hne).trans (h.address hown hne)
  started := h'.started.trans h.started

/-- No slot is ever emptied. -/
theorem Advanced.isSome {own : Option Slot} {s s' : State} (h : Advanced own s s') (slot : Slot)
    (hset : (s.reference slot).isSome) : (s'.reference slot).isSome := by
  by_cases hown : own = some slot
  · exact h.kept slot hown hset
  · rw [h.others slot hown]
    exact hset

/-- A slot other than the segment's may be filled at any time. -/
theorem advanced_withReference (s : State) {slot : Slot} (hslot : slot ≠ .segment) (r : Reference) :
    Advanced (some slot) s (s.withReference slot (some r)) where
  others slot' hne := State.reference_withReference_of_ne s (fun h => hne (congrArg some h.symm)) _
  kept slot' hown _ := by
    rw [← Option.some.inj hown, State.reference_withReference_self]
    rfl
  coherent hs := by
    constructor
    · rw [State.segmentName_withReference, State.reference_withReference_of_ne s hslot.symm,
        hs.named]
    · intro h
      rw [State.snatIpAddress_withReference] at h
      by_cases heq : slot = .snatIpAllocation
      · rw [heq, State.reference_withReference_self]
        rfl
      · rw [State.reference_withReference_of_ne s (Ne.symm heq)]
        exact hs.addressed h
  address _ _ := State.snatIpAddress_withReference s slot _
  started := State.creationStarted_withReference s slot _

theorem advanced_opened (k : Kind) (own : Option Slot) (s : State) :
    Advanced own s (opened k s) where
  others slot _ := reference_opened k s slot
  kept slot _ h := by rw [reference_opened]; exact h
  coherent hs := by
    cases k with
    | policy k => exact hs
    | manager k => exact ⟨by rw [reference_opened]; exact hs.named,
        by rw [reference_opened]; exact hs.addressed⟩
  address _ _ := by cases k <;> rfl
  started := by cases k <;> rfl

/-- Whether an object has the name that the state is going to remember. -/
def IsNamed : (k : Kind) → k.Object → Prop
  | .policy .segment, o => o.displayName.isSome
  | _, _ => True

theorem isNamed_of_draft {k : Kind} {identity : ClusterIdentity} {spec : Spec} {s : State}
    {parent : String} {o : k.Object} (h : draft identity spec s k = .ok (parent, o)) :
    IsNamed k o := by
  match k with
  | .policy .segment =>
    obtain ⟨gateway, -, h₁⟩ := ok_of_bind h
    obtain ⟨transportZone, -, h₂⟩ := ok_of_bind h₁
    obtain ⟨plan, -, h₃⟩ := ok_of_bind h₂
    obtain ⟨-, rfl⟩ := Prod.mk.inj (Except.ok.inj h₃)
    rfl
  | .policy .tier1 | .policy .localeService | .policy .ipAllocation | .policy .natRule
  | .policy .dhcpServerConfig | .manager _ => trivial

@[simp] theorem reference_noted (k : Kind) (o : k.Object) (s : State) (slot : Slot) :
    (noted k o s).reference slot = s.reference slot := by
  match k with
  | .policy .segment => cases slot <;> rfl
  | .policy .tier1 | .policy .localeService | .policy .ipAllocation | .policy .natRule
  | .policy .dhcpServerConfig | .manager _ => rfl

@[simp] theorem snatIpAddress_noted (k : Kind) (o : k.Object) (s : State) :
    (noted k o s).snatIpAddress = s.snatIpAddress := by
  match k with
  | .policy .segment => rfl
  | .policy .tier1 | .policy .localeService | .policy .ipAllocation | .policy .natRule
  | .policy .dhcpServerConfig | .manager _ => rfl

@[simp] theorem creationStarted_noted (k : Kind) (o : k.Object) (s : State) :
    (noted k o s).creationStarted = s.creationStarted := by
  match k with
  | .policy .segment => rfl
  | .policy .tier1 | .policy .localeService | .policy .ipAllocation | .policy .natRule
  | .policy .dhcpServerConfig | .manager _ => rfl

/-- A segment's name is noted when the segment's reference is there. -/
theorem advanced_noted {k : Kind} {o : k.Object} (hname : IsNamed k o) (s : State)
    (hset : (s.reference (slot k)).isSome) : Advanced (some (slot k)) s (noted k o s) where
  others slot _ := reference_noted k o s slot
  kept slot _ h := by rw [reference_noted]; exact h
  coherent hs := by
    refine ⟨?_, ?_⟩
    · rw [reference_noted]
      match k with
      | .policy .segment => exact (show o.displayName.isSome = true from hname).trans hset.symm
      | .policy .tier1 | .policy .localeService | .policy .ipAllocation | .policy .natRule
      | .policy .dhcpServerConfig | .manager _ => exact hs.named
    · rw [reference_noted, snatIpAddress_noted]
      exact hs.addressed
  address _ _ := snatIpAddress_noted k o s
  started := creationStarted_noted k o s

/-- What is recorded of a new object: its reference, what is noted, and perhaps the loss of an
address. -/
theorem recorded_cases (k : Kind) (parent id : String) (o : k.Object) (s : State) :
    recorded k parent id o s =
      noted k o (s.withReference (slot k) (some ⟨id, k.path ⟨parent, id⟩⟩)) ∨
    recorded k parent id o s =
      { noted k o (s.withReference (slot k) (some ⟨id, k.path ⟨parent, id⟩⟩)) with
        snatIpAddress := none } := by
  match k with
  | .policy .ipAllocation => exact .inr rfl
  | .policy .tier1 | .policy .localeService | .policy .segment | .policy .natRule
  | .policy .dhcpServerConfig | .manager _ => exact .inl rfl

/-- What is recorded of a new object, slot by slot. -/
theorem reference_recorded (k : Kind) (parent id : String) (o : k.Object) (s : State)
    (slot' : Slot) : (recorded k parent id o s).reference slot' =
      (s.withReference (slot k) (some ⟨id, k.path ⟨parent, id⟩⟩)).reference slot' := by
  rcases recorded_cases k parent id o s with h | h <;> rw [h]
  · exact reference_noted ..
  · refine Eq.trans ?_ (reference_noted k o _ slot')
    cases slot' <;> rfl

theorem coherent_recorded {k : Kind} {o : k.Object} (hname : IsNamed k o) {s : State}
    (hs : Coherent s) (parent id : String) : Coherent (recorded k parent id o s) := by
  refine ⟨?_, ?_⟩
  · rw [reference_recorded]
    match k with
    | .policy .segment => exact hname
    | .policy .tier1 | .policy .localeService | .policy .ipAllocation | .policy .natRule
    | .policy .dhcpServerConfig | .manager .dhcpProfile | .manager .dhcpServer
    | .manager .logicalPort | .manager .dhcpIpPool => exact hs.named
  · rw [reference_recorded]
    match k with
    | .policy .ipAllocation => exact fun h => nomatch h
    | .policy .tier1 | .policy .localeService | .policy .segment | .policy .natRule
    | .policy .dhcpServerConfig | .manager .dhcpProfile | .manager .dhcpServer
    | .manager .logicalPort | .manager .dhcpIpPool => exact hs.addressed

theorem advanced_recorded {k : Kind} {o : k.Object} (hname : IsNamed k o) (parent id : String)
    (s : State) : Advanced (some (slot k)) s (recorded k parent id o s) where
  others slot' hne := by
    rw [reference_recorded,
      State.reference_withReference_of_ne s fun h => hne (congrArg some h.symm)]
  kept slot' hown _ := by
    rw [← Option.some.inj hown, reference_recorded, State.reference_withReference_self]
    rfl
  coherent hs := coherent_recorded hname hs parent id
  address _ hne := by
    match k with
    | .policy .ipAllocation => exact absurd rfl hne
    | .policy .tier1 | .policy .localeService | .policy .segment | .policy .natRule
    | .policy .dhcpServerConfig | .manager _ =>
      exact (snatIpAddress_noted ..).trans (State.snatIpAddress_withReference s _ _)
  started := by
    rcases recorded_cases k parent id o s with h | h <;> rw [h]
    · rw [creationStarted_noted, State.creationStarted_withReference]
    · exact (creationStarted_noted k o _).trans (State.creationStarted_withReference s _ _)

theorem Built.advanced {k : Kind} {parent : String} {o : k.Object} {s : State} {es : List Event}
    {left : Left Action} (h : Built parent s k o es left) (hname : IsNamed k o) :
    Advanced (some (slot k)) s left.2 ∧ (left.1.isOk → (left.2.reference (slot k)).isSome) := by
  have hfilled : ∀ id, ((recorded k parent id o s).reference (slot k)).isSome := by
    intro id
    rw [reference_recorded, State.reference_withReference_self]
    rfl
  cases h with
  | declared id => exact ⟨advanced_recorded hname parent id s, fun _ => hfilled id⟩
  | @created k o answer id hid => exact ⟨advanced_recorded hname parent id s, fun _ => hfilled id⟩
  | undeclared id e => exact ⟨.refl _ _, fun hok => nomatch hok⟩
  | nameless hid => exact ⟨.refl _ _, fun hok => nomatch hok⟩
  | uncreated e => exact ⟨.refl _ _, fun hok => nomatch hok⟩

theorem Overwritten.advanced {k : Kind} {place : Place} {current desired : k.Object} {s : State}
    {es : List Event} {left : Left Action} (h : Overwritten place s k current desired es left)
    (hname : IsNamed k desired) (hset : (s.reference (slot k)).isSome) :
    Advanced (some (slot k)) s left.2 := by
  cases h with
  | declared => exact advanced_noted hname s hset
  | updated => exact advanced_noted hname s hset
  | undeclared e => exact .refl _ _
  | refused e => exact .refl _ _

/-- Changing an object leaves its reference alone. -/
theorem Overwritten.reference {k : Kind} {place : Place} {current desired : k.Object}
    {s : State} {es : List Event} {left : Left Action}
    (h : Overwritten place s k current desired es left) (slot : Slot) :
    left.2.reference slot = s.reference slot := by
  cases h with
  | declared => exact reference_noted ..
  | updated => exact reference_noted ..
  | undeclared e => rfl
  | refused e => rfl

theorem Ensured.advanced {k : Kind} {c : Context} {spec : Spec} {s : State} {es : List Event}
    {left : Left Action} (h : Ensured k c spec s es left) :
    Advanced (some (slot k)) s left.2 ∧ (left.1.isOk → (left.2.reference (slot k)).isSome) := by
  have hopened := advanced_opened k (some (slot k)) s
  cases h with
  | undrafted hdraft => exact ⟨.refl _ _, fun hok => nomatch hok⟩
  | first hdraft href h =>
    obtain ⟨hadvanced, hfilled⟩ := h.advanced (isNamed_of_draft hdraft)
    exact ⟨hopened.trans hadvanced, hfilled⟩
  | kept hdraft href hagrees =>
    refine ⟨hopened, fun _ => ?_⟩
    rw [reference_opened, href]
    rfl
  | changed hdraft href hagrees h =>
    have hset : ((opened k s).reference (slot k)).isSome := by
      rw [reference_opened, href]
      rfl
    have hadvanced := h.advanced (isNamed_of_draft hdraft) hset
    exact ⟨hopened.trans hadvanced, fun _ => hadvanced.isSome _ hset⟩
  | again hdraft href he h =>
    obtain ⟨hadvanced, hfilled⟩ := h.advanced (isNamed_of_draft hdraft)
    exact ⟨hopened.trans hadvanced, hfilled⟩
  | unread hdraft href he => exact ⟨hopened, fun hok => nomatch hok⟩

/-- Looking up fills a slot if it finds something, and does nothing otherwise. -/
theorem advanced_bound {α : Type} {slot : Slot} (hslot : slot ≠ .segment) (task name : String)
    (reference : α → Reference) (s : State) (found : Except ApiError (Option α)) :
    Advanced (some slot) s (bound task name slot reference s found).2 ∧
      ((bound task name slot reference s found).1.isOk →
        ((bound task name slot reference s found).2.reference slot).isSome) := by
  match found with
  | .error e => exact ⟨.refl _ _, fun hok => nomatch hok⟩
  | .ok none => exact ⟨.refl _ _, fun hok => nomatch hok⟩
  | .ok (some o) =>
    refine ⟨advanced_withReference s hslot (reference o), fun _ => ?_⟩
    rw [bound, State.reference_withReference_self]
    rfl

theorem catalogSlot_ne_segment (catalog : Catalog) : catalogSlot catalog ≠ .segment := by
  cases catalog <;> decide

theorem slot_manager_ne_segment (k : ManagerKind) : slot (.manager k) ≠ .segment := by
  cases k <;> decide

theorem advanced_adopted (k : ManagerKind) (parent : String) (s : State)
    (found : Except ApiError (Option k.Object)) :
    Advanced (some (slot (.manager k))) s (adopted k parent s found).2 := by
  rw [adopted.eq_def]
  split
  · exact .refl _ _
  · split
    · exact .refl _ _
    · exact advanced_withReference s (slot_manager_ne_segment k) _

/-- Waiting fills no slot. The address is of an allocation that there is a reference to. -/
theorem advanced_arrived {s : State} (hset : (s.reference .snatIpAllocation).isSome)
    (result : Except InfraError String) : Advanced none s (arrived s result).2 := by
  cases result with
  | error e => exact .refl _ _
  | ok address =>
    refine ⟨fun slot _ => ?_, fun slot hown _ => ?_, fun hs => ⟨hs.named, fun _ => hset⟩,
      fun hown => absurd rfl hown, rfl⟩
    · cases slot <;> rfl
    · exact nomatch hown

/-- **What a task does when it brings about what it looks after.** -/
theorem Task.ensure_advanced {t : Task} {c : Context} {spec : Spec} {s : State} {es : List Event}
    {left : Left Action} (h : (t.ensure c spec s).Trace es left) :
    Advanced t.slot s left.2 ∧
      (left.1.isOk → ∀ slot, t.slot = some slot → (left.2.reference slot).isSome) := by
  cases t with
  | lookUp catalog =>
    rw [Task.ensure, lookUp_eq, trace_bind_done_iff] at h
    obtain ⟨found, -, rfl⟩ := h
    obtain ⟨hadvanced, hfilled⟩ := advanced_bound (catalogSlot_ne_segment catalog) _ _ _ s found
    exact ⟨hadvanced, fun hok slot hown => Option.some.inj hown ▸ hfilled hok⟩
  | managed k =>
    obtain ⟨hadvanced, hfilled⟩ := (ensured_of_trace h).advanced
    exact ⟨hadvanced, fun hok slot hown => Option.some.inj hown ▸ hfilled hok⟩
  | realization =>
    rw [Task.ensure, realize_eq] at h
    split at h
    · obtain ⟨-, rfl⟩ := trace_done_iff.mp h
      exact ⟨.refl _ _, fun hok => nomatch hok⟩
    · next allocation href =>
      obtain ⟨result, -, rfl⟩ := trace_bind_done_iff.mp h
      exact ⟨advanced_arrived (by rw [href]; rfl) result, fun _ slot hown => nomatch hown⟩
  | lookUpSwitch =>
    rw [Task.ensure, lookUpSwitch_eq] at h
    split at h
    · obtain ⟨-, rfl⟩ := trace_done_iff.mp h
      exact ⟨.refl _ _, fun hok => nomatch hok⟩
    · next segment href =>
      obtain ⟨found, -, rfl⟩ := trace_bind_done_iff.mp h
      have hslot : Slot.logicalSwitch ≠ .segment := by decide
      obtain ⟨hadvanced, hfilled⟩ := advanced_bound hslot _ _ _ s found
      exact ⟨hadvanced, fun hok slot hown => Option.some.inj hown ▸ hfilled hok⟩

theorem recoverIfLost_advanced {t : Task} {c : Context} {s : State} {es : List Event}
    {left : Left Unit} (h : (recoverIfLost t c s).Trace es left) : Advanced t.slot s left.2 := by
  rcases recoverIfLost_cases t c s with hrecover | ⟨k, rfl, -, hrecover⟩
  · rw [hrecover] at h
    obtain ⟨-, rfl⟩ := trace_done_iff.mp h
    exact .refl _ _
  · rw [hrecover, adopt_eq] at h
    obtain ⟨left', h', rfl⟩ := trace_bind_done_iff.mp h
    split at h'
    · obtain ⟨-, rfl⟩ := trace_done_iff.mp h'
      exact .refl _ _
    · obtain ⟨found, -, rfl⟩ := trace_bind_done_iff.mp h'
      exact advanced_adopted k _ s found

theorem runTask_advanced {t : Task} {c : Context} {spec : Spec} {s : State} {es : List Event}
    {left : Left Action} (h : (runTask t c spec s).Trace es left) :
    Advanced t.slot s left.2 ∧
      (left.1.isOk → ∀ slot, t.slot = some slot → (left.2.reference slot).isSome) := by
  rw [runTask, bind_eq, trace_bind_iff] at h
  obtain ⟨es₁, es₂, ⟨recovered, s₁⟩, rfl, h₁, h₂⟩ := h
  have hrecovered : Advanced t.slot s s₁ := recoverIfLost_advanced h₁
  cases recovered with
  | error e =>
    obtain ⟨-, rfl⟩ := trace_done_iff.mp h₂
    exact ⟨hrecovered, fun hok => absurd hok Bool.false_ne_true⟩
  | ok done =>
    obtain ⟨⟨result, s₂⟩, h₃, rfl⟩ := trace_bind_done_iff.mp h₂
    obtain ⟨hensured, hfilled⟩ := Task.ensure_advanced h₃
    refine ⟨hrecovered.trans hensured, fun hok => ?_⟩
    cases result with
    | error e => exact absurd hok Bool.false_ne_true
    | ok action => exact hfilled rfl

/-! ### Runs -/

/-- Among some slots in order, none is filled unless all before it are. -/
def Chained (slots : List Slot) (s : State) : Prop :=
  slots.Pairwise fun a b => (s.reference b).isSome → (s.reference a).isSome

/-- The slots of tasks. -/
def slotsOf (ts : List Task) : List Slot := ts.filterMap Task.slot

theorem slotsOf_cons_none {t : Task} (h : t.slot = none) (ts : List Task) :
    slotsOf (t :: ts) = slotsOf ts :=
  List.filterMap_cons_none h

theorem slotsOf_cons_some {t : Task} {slot : Slot} (h : t.slot = some slot) (ts : List Task) :
    slotsOf (t :: ts) = slot :: slotsOf ts :=
  List.filterMap_cons_some h

/-- What a run does to the references, given the slots of its tasks. -/
structure RunAdvanced (slots : List Slot) (s s' : State) : Prop where
  /-- The slots of other tasks are as they were. -/
  others : ∀ slot, slot ∉ slots → s'.reference slot = s.reference slot
  /-- No slot is emptied. -/
  kept : ∀ slot, (s.reference slot).isSome → (s'.reference slot).isSome
  /-- The order is kept. -/
  chained : Chained slots s → Chained slots s'
  /-- What goes with references still does. -/
  coherent : Coherent s → Coherent s'
  /-- Whether objects may have been created is not touched. -/
  started : s'.creationStarted = s.creationStarted

theorem RunAdvanced.refl (slots : List Slot) (s : State) : RunAdvanced slots s s :=
  ⟨fun _ _ => rfl, fun _ h => h, fun h => h, fun h => h, rfl⟩

/-- A chain only speaks of its own slots. -/
theorem Chained.congr {slots : List Slot} {s s' : State}
    (h : ∀ slot ∈ slots, s'.reference slot = s.reference slot) (hs : Chained slots s) :
    Chained slots s' := by
  refine List.Pairwise.imp_of_mem ?_ hs
  intro a b ha hb hab
  rw [h a ha, h b hb]
  exact hab

/-- A chain whose first slot is filled is one as soon as the rest is. -/
theorem Chained.cons_of_isSome {slot : Slot} {slots : List Slot} {s : State}
    (hset : (s.reference slot).isSome) (hs : Chained slots s) : Chained (slot :: slots) s :=
  List.pairwise_cons.mpr ⟨fun _ _ _ => hset, hs⟩

/-- A run that stops at its first task. -/
theorem Advanced.run {t : Task} {s s' : State} (h : Advanced t.slot s s') (ts : List Task)
    (hnodup : (slotsOf (t :: ts)).Nodup) : RunAdvanced (slotsOf (t :: ts)) s s' where
  others slot hnot := by
    refine h.others slot fun hown => hnot ?_
    rw [slotsOf_cons_some hown]
    exact List.mem_cons_self
  kept := h.isSome
  coherent := h.coherent
  started := h.started
  chained hs := by
    cases hslot : t.slot with
    | none =>
      rw [slotsOf_cons_none hslot] at hs ⊢
      exact hs.congr fun slot _ => h.others slot (by rw [hslot]; exact nofun)
    | some own =>
      rw [slotsOf_cons_some hslot] at hs hnodup ⊢
      have hrest : ∀ slot ∈ slotsOf ts, s'.reference slot = s.reference slot := by
        intro slot hmem
        refine h.others slot fun hown => (List.nodup_cons.mp hnodup).1 ?_
        rw [show own = slot from Option.some.inj (hslot.symm.trans hown)]
        exact hmem
      obtain ⟨hfirst, hchained⟩ := List.pairwise_cons.mp hs
      refine List.pairwise_cons.mpr ⟨fun slot hmem hset => ?_, Chained.congr hrest hchained⟩
      rw [hrest slot hmem] at hset
      exact h.isSome own (hfirst slot hmem hset)

/-- A run that goes on behind its first task. -/
theorem RunAdvanced.cons {t : Task} {ts : List Task} {s s₁ s' : State}
    (hnodup : (slotsOf (t :: ts)).Nodup) (h : Advanced t.slot s s₁)
    (hfilled : ∀ slot, t.slot = some slot → (s₁.reference slot).isSome)
    (hrest : RunAdvanced (slotsOf ts) s₁ s') : RunAdvanced (slotsOf (t :: ts)) s s' where
  others slot hnot := by
    have hne : t.slot ≠ some slot := by
      intro hown
      rw [slotsOf_cons_some hown] at hnot
      exact hnot List.mem_cons_self
    have hnot' : slot ∉ slotsOf ts := fun hmem => hnot (by
      cases hslot : t.slot with
      | none => rwa [slotsOf_cons_none hslot]
      | some own => rw [slotsOf_cons_some hslot]; exact List.mem_cons_of_mem own hmem)
    rw [hrest.others slot hnot', h.others slot hne]
  kept slot hset := hrest.kept slot (h.isSome slot hset)
  coherent hs := hrest.coherent (h.coherent hs)
  started := hrest.started.trans h.started
  chained hs := by
    have hhead := (h.run ts hnodup).chained hs
    cases hslot : t.slot with
    | none =>
      rw [slotsOf_cons_none hslot] at hhead ⊢
      exact hrest.chained hhead
    | some own =>
      rw [slotsOf_cons_some hslot] at hhead ⊢
      exact (hrest.chained (List.pairwise_cons.mp hhead).2).cons_of_isSome
        (hrest.kept own (hfilled own hslot))

theorem runTasks_advanced {c : Context} {spec : Spec} (ts : List Task) {s : State}
    {es : List Event} {left : Left (List Outcome)} (h : (runTasks c spec ts s).Trace es left)
    (hnodup : (slotsOf ts).Nodup) : RunAdvanced (slotsOf ts) s left.2 := by
  induction ts generalizing s es left with
  | nil =>
    obtain ⟨-, rfl⟩ := trace_done_iff.mp h
    exact .refl _ s
  | cons t ts ih =>
    rw [runTasks, bind_eq, trace_bind_iff] at h
    obtain ⟨es₁, es₂, ⟨result, s₁⟩, rfl, h₁, h₂⟩ := h
    obtain ⟨hadvanced, hfilled⟩ := runTask_advanced h₁
    cases result with
    | error e =>
      obtain ⟨-, rfl⟩ := trace_done_iff.mp h₂
      exact hadvanced.run ts hnodup
    | ok action =>
      obtain ⟨⟨rest, s₂⟩, h₃, rfl⟩ := trace_bind_done_iff.mp h₂
      have hnodup' : (slotsOf ts).Nodup :=
        hnodup.sublist ((List.sublist_cons_self t ts).filterMap Task.slot)
      have hrest : RunAdvanced (slotsOf ts) s₁ s₂ := ih h₃ hnodup'
      exact hrest.cons hnodup hadvanced (hfilled rfl)

/-! ### Taking down -/

/-- What a task is after: a reference, or an address. -/
inductive Item where
  /-- The reference in a slot. -/
  | reference (slot : Slot)
  /-- The outward address. -/
  | address
deriving DecidableEq

/-- Whether an item is known. -/
def Item.isKnown (s : State) : Item → Bool
  | reference slot => (s.reference slot).isSome
  | address => s.snatIpAddress.isSome

/-- What a task is after. -/
def Task.item : Task → Item
  | lookUp catalog => .reference (catalogSlot catalog)
  | managed k => .reference (Pipeline.slot k)
  | realization => .address
  | lookUpSwitch => .reference .logicalSwitch

/-- What taking down does to what is known: it leaves alone what others are after, and learns
nothing. -/
structure Retracted (own : Item) (s s' : State) : Prop where
  /-- What others are after is known if it was. -/
  others : ∀ item, item ≠ own → item.isKnown s' = item.isKnown s
  /-- What the task is after is not known. -/
  lost : own.isKnown s' = false
  /-- A segment's name goes with its reference. -/
  named : s.segmentName.isSome = (s.reference .segment).isSome →
    s'.segmentName.isSome = (s'.reference .segment).isSome
  /-- Whether objects may have been created is not touched. -/
  started : s'.creationStarted = s.creationStarted

theorem retracted_forgetting (s : State) {slot : Slot} (hslot : slot ≠ .segment) :
    Retracted (.reference slot) s (s.forgetting slot) where
  others item hne := by
    cases item with
    | reference slot' =>
      have hne' : slot' ≠ slot := fun h => hne (congrArg Item.reference h)
      rw [Item.isKnown, State.reference_forgetting_of_ne s hne', Item.isKnown]
    | address => rw [Item.isKnown, State.snatIpAddress_forgetting, Item.isKnown]
  lost := by
    rw [Item.isKnown, State.reference_forgetting_self]
    rfl
  named hs := by
    rw [State.segmentName_forgetting, State.reference_forgetting_of_ne s hslot.symm]
    exact hs
  started := State.creationStarted_forgetting s slot

theorem retracted_forgotten (k : Kind) (s : State) :
    Retracted (.reference (slot k)) s (forgotten k s) := by
  match k with
  | .policy .segment =>
    refine ⟨fun item hne => ?_, rfl, fun _ => rfl, rfl⟩
    match item with
    | .reference slot' => cases slot' <;> first | rfl | exact absurd rfl hne
    | .address => rfl
  | .policy .tier1 | .policy .localeService | .policy .ipAllocation | .policy .natRule
  | .policy .dhcpServerConfig => exact retracted_forgetting s (by decide)
  | .manager k => exact retracted_forgetting s (slot_manager_ne_segment k)

theorem retracted_withoutObject {k : Kind} {s : State} (href : s.reference (slot k) = none) :
    Retracted (.reference (slot k)) s (withoutObject k s) := by
  match k with
  | .manager .dhcpIpPool =>
    refine ⟨fun _ _ => rfl, ?_, fun hs => hs, rfl⟩
    rw [Item.isKnown, withoutObject, href]
    rfl
  | .policy k => exact retracted_forgotten (.policy k) s
  | .manager .dhcpProfile | .manager .dhcpServer | .manager .logicalPort =>
    exact retracted_forgotten _ s

/-- **What a task does when it deletes what it looks after.** -/
theorem Task.remove_retracted {t : Task} {s : State} {es : List Event} {left : Left Bool}
    (h : (t.remove s).Trace es left) :
    (∃ e, left = (.error e, s)) ∨
      ∃ deleted s', left = (.ok deleted, s') ∧ Retracted t.item s s' := by
  cases t with
  | lookUp catalog =>
    obtain ⟨-, rfl⟩ := trace_done_iff.mp h
    exact .inr ⟨_, _, rfl, retracted_forgetting s (catalogSlot_ne_segment catalog)⟩
  | lookUpSwitch =>
    obtain ⟨-, rfl⟩ := trace_done_iff.mp h
    exact .inr ⟨_, _, rfl, retracted_forgetting s (by decide)⟩
  | realization =>
    obtain ⟨-, rfl⟩ := trace_done_iff.mp h
    refine .inr ⟨_, _, rfl, fun item hne => ?_, rfl, fun hs => hs, rfl⟩
    match item with
    | .reference slot => cases slot <;> rfl
    | .address => exact absurd rfl hne
  | managed k =>
    cases removed_of_trace h with
    | nothing href => exact .inr ⟨_, _, rfl, retracted_withoutObject href⟩
    | ownerless href howner => exact .inl ⟨_, rfl⟩
    | deleted href howner => exact .inr ⟨_, _, rfl, retracted_forgotten k s⟩
    | gone href howner he => exact .inr ⟨_, _, rfl, retracted_forgotten k s⟩
    | refused href howner he => exact .inl ⟨_, rfl⟩

/-- Among some items in order, none is known unless all behind it are. -/
def BackChained (items : List Item) (s : State) : Prop :=
  items.Pairwise fun b a => b.isKnown s → a.isKnown s

/-- What taking down does to what is known, given what its tasks are after. -/
structure RunRetracted (items : List Item) (s s' : State) : Prop where
  /-- Nothing is learnt. -/
  unlearnt : ∀ item : Item, item.isKnown s' → item.isKnown s
  /-- Among any of the items, the order is kept. -/
  chained : ∀ items', items'.Sublist items → BackChained items' s → BackChained items' s'
  /-- What other tasks are after is known if it was. -/
  others : ∀ item ∉ items, item.isKnown s' = item.isKnown s
  /-- A segment's name goes with its reference. -/
  named : s.segmentName.isSome = (s.reference .segment).isSome →
    s'.segmentName.isSome = (s'.reference .segment).isSome
  /-- Whether objects may have been created is not touched. -/
  started : s'.creationStarted = s.creationStarted

theorem RunRetracted.refl (items : List Item) (s : State) : RunRetracted items s s :=
  ⟨fun _ h => h, fun _ _ h => h, fun _ _ => rfl, fun h => h, rfl⟩

theorem BackChained.congr {items : List Item} {s s' : State}
    (h : ∀ item ∈ items, item.isKnown s' = item.isKnown s) (hs : BackChained items s) :
    BackChained items s' := by
  refine List.Pairwise.imp_of_mem ?_ hs
  intro b a hb ha hba
  rw [h a ha, h b hb]
  exact hba

/-- Taking down goes on behind its first task. What that was after is not known any more, so it
asks nothing of what comes behind it. -/
theorem RunRetracted.cons {own : Item} {items : List Item} {s s₁ s' : State}
    (hnodup : (own :: items).Nodup) (h : Retracted own s s₁) (hrest : RunRetracted items s₁ s') :
    RunRetracted (own :: items) s s' := by
  have hnot : own ∉ items := (List.nodup_cons.mp hnodup).1
  refine ⟨fun item hknown => ?_, fun items' hsub hs => ?_, fun item hmem => ?_,
    fun hs => hrest.named (h.named hs), hrest.started.trans h.started⟩
  · have hknown₁ := hrest.unlearnt item hknown
    by_cases hown : item = own
    · rw [hown, h.lost] at hknown₁
      exact nomatch hknown₁
    · rwa [h.others item hown] at hknown₁
  · have hchained : ∀ items'', items''.Sublist items → BackChained items'' s →
        BackChained items'' s' := by
      intro items'' hsub' hs'
      refine hrest.chained items'' hsub' (hs'.congr fun item hmem => h.others item ?_)
      rintro rfl
      exact hnot (hsub'.mem hmem)
    cases hsub with
    | cons _ hsub => exact hchained items' hsub hs
    | @cons_cons items'' _ _ hsub =>
      refine List.pairwise_cons.mpr
        ⟨fun a _ hknown => ?_, hchained _ hsub (List.pairwise_cons.mp hs).2⟩
      rw [hrest.others own hnot, h.lost] at hknown
      exact nomatch hknown
  · have hne : item ≠ own := fun h => hmem (h ▸ List.mem_cons_self)
    rw [hrest.others item fun h => hmem (List.mem_cons_of_mem own h), h.others item hne]

theorem removeAll_retracted (ts : List Task) {s : State} {es : List Event}
    {left : Left (List String)} (h : (removeAll ts s).Trace es left)
    (hnodup : (ts.map Task.item).Nodup) : RunRetracted (ts.map Task.item) s left.2 := by
  induction ts generalizing s es left with
  | nil =>
    obtain ⟨-, rfl⟩ := trace_done_iff.mp h
    exact .refl _ s
  | cons t ts ih =>
    rw [removeAll, bind_eq, trace_bind_iff] at h
    obtain ⟨es₁, es₂, left₁, rfl, h₁, h₂⟩ := h
    rcases Task.remove_retracted h₁ with ⟨e, rfl⟩ | ⟨deleted, s₁, rfl, hretracted⟩
    · obtain ⟨-, rfl⟩ := trace_done_iff.mp h₂
      exact .refl _ s
    · obtain ⟨⟨rest, s₂⟩, h₃, rfl⟩ := trace_bind_done_iff.mp h₂
      have hrest : RunRetracted (ts.map Task.item) s₁ s₂ := ih h₃ (List.nodup_cons.mp hnodup).2
      exact hrest.cons hnodup hretracted

/-! ### Prefixes -/

/-- A property that no element of a list has unless all before it have it is that of being among
the first ones. -/
theorem exists_take_of_pairwise {α : Type} {P : α → Prop} [DecidablePred P] :
    ∀ {l : List α}, (l.Pairwise fun a b => P b → P a) → ∃ k, ∀ a ∈ l, P a ↔ a ∈ l.take k
  | [], _ => ⟨0, nofun⟩
  | a :: l, h => by
    obtain ⟨hfirst, hrest⟩ := List.pairwise_cons.mp h
    by_cases ha : P a
    · obtain ⟨k, hk⟩ := exists_take_of_pairwise hrest
      refine ⟨k + 1, fun b hb => ?_⟩
      rw [List.take_succ_cons, List.mem_cons]
      rcases List.mem_cons.mp hb with rfl | hb
      · exact ⟨fun _ => .inl rfl, fun _ => ha⟩
      · rw [hk b hb]
        refine ⟨.inr, fun h => h.elim (fun heq => ?_) id⟩
        exact (hk b hb).mp (heq ▸ ha)
    · refine ⟨0, fun b hb => ?_⟩
      rw [List.take_zero]
      refine ⟨fun hPb => ?_, nofun⟩
      rcases List.mem_cons.mp hb with rfl | hb
      · exact absurd hPb ha
      · exact absurd (hfirst b hb hPb) ha

/-! ### Reachable states -/

/-- The states that runs and takedowns lead to, for one generation of the control plane. Each may
be given other specifications and contexts, and may be answered anything. -/
inductive Reachable (g : Generation) : State → Prop
  /-- Nothing is known yet. -/
  | fresh : Reachable g .fresh
  /-- A run, which may have stopped anywhere. -/
  | run {s s' : State} {c : Context} {spec : Spec} {es : List Event}
    {result : Except InfraError (List Outcome)} (hs : Reachable g s)
    (h : (run g c spec s).Trace es (result, s')) : Reachable g s'
  /-- A takedown, which may have stopped anywhere. -/
  | takeDown {s s' : State} {es : List Event} {result : Except InfraError (List String)}
    (hs : Reachable g s) (h : (takeDown g s).Trace es (result, s')) : Reachable g s'

/-- What is kept by runs and takedowns. -/
structure InOrder (g : Generation) (s : State) : Prop where
  /-- No slot is filled unless all before it are. -/
  chained : Chained (slotsOf (tasks g)) s
  /-- Only the slots of tasks are filled. -/
  owned : ∀ slot, (s.reference slot).isSome → slot ∈ slotsOf (tasks g)
  /-- What goes with references does so. -/
  coherent : Coherent s

theorem nodup_slotsOf_tasks (g : Generation) : (slotsOf (tasks g)).Nodup := by
  cases g <;> decide

theorem reference_fresh (slot : Slot) : State.fresh.reference slot = none := by
  cases slot <;> rfl

theorem inOrder_fresh (g : Generation) : InOrder g .fresh where
  chained := List.pairwise_of_forall fun _ b hset => by
    rw [reference_fresh] at hset
    exact nomatch hset
  owned slot hset := by
    rw [reference_fresh] at hset
    exact nomatch hset
  coherent := coherent_fresh

theorem run_advanced {g : Generation} {c : Context} {spec : Spec} {s : State} {es : List Event}
    {left : Left (List Outcome)} (h : (Pipeline.run g c spec s).Trace es left) :
    RunAdvanced (slotsOf (tasks g)) s left.2 := by
  rw [Pipeline.run] at h
  split at h
  · obtain ⟨-, rfl⟩ := trace_done_iff.mp h
    exact .refl _ s
  · exact runTasks_advanced (tasks g) h (nodup_slotsOf_tasks g)

theorem InOrder.run {g : Generation} {c : Context} {spec : Spec} {s : State} {es : List Event}
    {left : Left (List Outcome)} (hs : InOrder g s) (h : (Pipeline.run g c spec s).Trace es left) :
    InOrder g left.2 := by
  have hadvanced := run_advanced h
  refine ⟨hadvanced.chained hs.chained, fun slot hset => ?_, hadvanced.coherent hs.coherent⟩
  by_cases hmem : slot ∈ slotsOf (tasks g)
  · exact hmem
  · rw [hadvanced.others slot hmem] at hset
    exact hs.owned slot hset

/-- The items of a takedown. -/
theorem items_teardownTasks (g : Generation) (s : State) :
    ((teardownTasks g s).reverse.map Task.item).Nodup ∧
      ((slotsOf (tasks g)).reverse.map Item.reference).Sublist
        ((teardownTasks g s).reverse.map Task.item) ∧
      [Item.address, .reference .snatIpAllocation].Sublist
        ((teardownTasks g s).reverse.map Task.item) := by
  rw [teardownTasks]
  split <;> cases g <;> decide

theorem backChained_iff (slots : List Slot) (s : State) :
    BackChained (slots.reverse.map .reference) s ↔ Chained slots s := by
  rw [BackChained, List.pairwise_map, List.pairwise_reverse]
  rfl

theorem backChained_address_iff (s : State) :
    BackChained [.address, .reference .snatIpAllocation] s ↔
      (s.snatIpAddress.isSome → (s.reference .snatIpAllocation).isSome) := by
  simp [BackChained, Item.isKnown]

theorem takeDown_retracted {g : Generation} {s : State} {es : List Event}
    {left : Left (List String)} (h : (Pipeline.takeDown g s).Trace es left) :
    RunRetracted ((teardownTasks g s).reverse.map Task.item) s left.2 :=
  removeAll_retracted (teardownTasks g s).reverse h (items_teardownTasks g s).1

/-- Taking down keeps what goes with references. -/
theorem Coherent.takeDown {g : Generation} {s : State} {es : List Event}
    {left : Left (List String)} (hs : Coherent s) (h : (Pipeline.takeDown g s).Trace es left) :
    Coherent left.2 := by
  have hretracted := takeDown_retracted h
  refine ⟨hretracted.named hs.named, ?_⟩
  obtain ⟨-, -, haddress⟩ := items_teardownTasks g s
  rw [← backChained_address_iff]
  exact hretracted.chained _ haddress ((backChained_address_iff s).mpr hs.addressed)

theorem InOrder.takeDown {g : Generation} {s : State} {es : List Event} {left : Left (List String)}
    (hs : InOrder g s) (h : (Pipeline.takeDown g s).Trace es left) : InOrder g left.2 := by
  obtain ⟨-, hslots, -⟩ := items_teardownTasks g s
  have hretracted := takeDown_retracted h
  refine ⟨?_, fun slot hset => ?_, hs.coherent.takeDown h⟩
  · rw [← backChained_iff]
    exact hretracted.chained _ hslots ((backChained_iff _ s).mpr hs.chained)
  · exact hs.owned slot (hretracted.unlearnt (.reference slot) hset)

theorem Reachable.inOrder {g : Generation} {s : State} (h : Reachable g s) : InOrder g s := by
  induction h with
  | fresh => exact inOrder_fresh g
  | run _ h ih => exact ih.run h
  | takeDown _ h ih => exact ih.takeDown h

/-- **The references that are held are those of the first tasks.** After any runs and takedowns,
wherever they stopped, the filled slots are those of the first few tasks that have one. The name of
the segment is known exactly if its reference is, and the address only if that of the allocation
is. -/
theorem Reachable.prefix_of_tasks {g : Generation} {s : State} (h : Reachable g s) :
    (∃ k, ∀ slot, (s.reference slot).isSome ↔ slot ∈ ((tasks g).filterMap Task.slot).take k) ∧
      (s.segmentName.isSome ↔ (s.reference .segment).isSome) ∧
      (s.snatIpAddress.isSome → (s.reference .snatIpAllocation).isSome) := by
  have hs := h.inOrder
  refine ⟨?_, by rw [hs.coherent.named], hs.coherent.addressed⟩
  obtain ⟨k, hk⟩ := exists_take_of_pairwise hs.chained
  refine ⟨k, fun slot => ⟨fun hset => (hk slot (hs.owned slot hset)).mp hset, fun hmem => ?_⟩⟩
  exact (hk slot (List.mem_of_mem_take hmem)).mpr hmem

/-- A small cluster. -/
def smallCluster : Spec where
  tier0GatewayName := "edge"
  edgeClusterName := "nodes"
  transportZoneName := "overlay"
  snatIpPoolName := "outward"
  gardenId := "id"
  gardenName := "garden"
  clusterName := "small"
  workersNetwork := "10.0.0.0/16"
  dnsServers := []

/-- A control plane that has a tier-0 gateway and knows nothing else. -/
def barren : (r : Effect) → Unit → r.Answer × Unit
  | .call (.listCatalog .tier0s _), s =>
    (.ok { results := [{ id := "edge", path := "/edge", displayName := some "edge" }] }, s)
  | .call _, s => (.error (.notFound ""), s)
  | .drawId, s => ("", s)
  | .sleep _, s => ((), s)

/-- A run stops at the second task and keeps what it learnt from the first one. -/
theorem prefix_of_tasks_barren :
    let s : State := { State.fresh with tier0Gateway := some ⟨"edge", "/edge"⟩ }
    Reachable .v3 s ∧
      (∃ k, ∀ slot, (s.reference slot).isSome ↔ slot ∈ ((tasks .v3).filterMap Task.slot).take k) ∧
      s.segmentName.isSome = false := by
  intro s
  have hrun : ((run .v3 { identity := ⟨"id", "small"⟩, rounds := 1 } smallCluster .fresh).run
      barren ()).1.map Prod.snd = some s := by decide +kernel
  have hreachable : Reachable .v3 s := by
    obtain ⟨⟨result, s'⟩, hleft, rfl⟩ := Option.map_eq_some_iff.mp hrun
    obtain ⟨es, htrace, -⟩ := run_eq_some_iff.mp (Prod.ext_iff.mpr ⟨hleft, rfl⟩)
    exact .run .fresh htrace
  obtain ⟨htake, hnamed, -⟩ := hreachable.prefix_of_tasks
  exact ⟨hreachable, htake, Bool.eq_false_iff.mpr fun h => absurd (hnamed.mp h) (by decide)⟩

end Pipeline

end ClusterNet
