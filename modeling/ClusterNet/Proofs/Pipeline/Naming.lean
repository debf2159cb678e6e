import ClusterNet.Proofs.Pipeline.Custody
import ClusterNet.Proofs.Pipeline.Idempotence

/-!
# The name of the segment

The name that a cluster's segment is displayed with is derived from the request. The state has a
copy of it, which is written when the segment is declared, and at no other time. So behind a run the
copy is right if the run has declared the segment, and otherwise it is what it was before. That the
segment itself has its name behind a run that succeeded says nothing about the copy: a segment that
is found as it should be is not declared.

The copy is right all the same if it was right before the run. For a control plane this means that
every segment there has the name that is known, which runs keep as long as the state refers to every
object.

## Main definitions

* `Pipeline.Declares` — whether a segment was declared
* `Pipeline.Renames` — what becomes of the name that is known
* `Pipeline.Named` — every segment has the name that is known

## Main results

* `Pipeline.run_renames` — a run knows the name if it has declared the segment or knew it before
* `Pipeline.run_named` — runs keep the names in step
* `Pipeline.displayName_of_run` — behind a run that succeeded, the segment has its name
* `Pipeline.run_of_outdated` — a run from an outdated state leaves it outdated
-/

namespace ClusterNet

namespace Pipeline

open Cluster (InfraError Reference Slot Spec State)
open ControlPlane Program

variable {c : Context} {spec : Spec} {s s' : State} {es es' : List Event} {b b' : Testbed}
  {t : Task} {g : Generation}

/-! ### What is declared -/

/-- Whether a segment was declared. -/
def Declares (es : List Event) : Prop :=
  ∃ place o, called (.patch .segment place o) (.ok ()) ∈ es

theorem declares_append : Declares (es ++ es') ↔ Declares es ∨ Declares es' := by
  simp only [Declares, List.mem_append, exists_or]

/-- Whoever declares a segment touches the segments. -/
theorem not_declares_of_within {parts : List Part} (h : Within parts es)
    (hparts : .table (.policy .segment) ∉ parts) : ¬ Declares es := by
  rintro ⟨place, o, hmem⟩
  exact hparts (h _ hmem _ List.mem_cons_self)

/-- What becomes of the name that is known: it is the given one if a segment was declared, and what
it was before if none was. -/
def Renames (name : String) (es : List Event) (s s' : State) : Prop :=
  (Declares es ∧ s'.segmentName = some name) ∨ (¬ Declares es ∧ s'.segmentName = s.segmentName)

theorem renames_nil (name : String) (s : State) : Renames name [] s s :=
  .inr ⟨fun ⟨_, _, hmem⟩ => absurd hmem List.not_mem_nil, rfl⟩

theorem Renames.trans {name : String} {s'' : State} (h : Renames name es s s')
    (h' : Renames name es' s' s'') : Renames name (es ++ es') s s'' := by
  rw [Renames, declares_append]
  rcases h' with ⟨hdeclares', hname'⟩ | ⟨hnot', hsame'⟩
  · exact .inl ⟨.inr hdeclares', hname'⟩
  · rcases h with ⟨hdeclares, hname⟩ | ⟨hnot, hsame⟩
    · exact .inl ⟨.inl hdeclares, hsame'.trans hname⟩
    · exact .inr ⟨fun hor => hor.elim hnot hnot', hsame'.trans hsame⟩

/-- The name is right afterwards if a segment was declared or if it was right before. -/
theorem Renames.eq_some_iff {name : String} (h : Renames name es s s') :
    s'.segmentName = some name ↔ Declares es ∨ s.segmentName = some name := by
  rcases h with ⟨hdeclares, hname⟩ | ⟨hnot, hsame⟩
  · exact iff_of_true hname (.inl hdeclares)
  · rw [hsame, or_iff_right hnot]

/-! ### The task of the segment -/

/-- A segment is drafted with its name. -/
theorem displayName_of_draft {identity : ClusterIdentity} {parent : String} {o : Segment}
    (h : draft identity spec s (.policy .segment) = .ok (parent, o)) :
    o.displayName = some spec.segmentName := by
  obtain ⟨gateway, -, h₁⟩ := ok_of_bind h
  obtain ⟨transportZone, -, h₂⟩ := ok_of_bind h₁
  obtain ⟨plan, -, h₃⟩ := ok_of_bind h₂
  obtain ⟨-, rfl⟩ := Prod.mk.inj (Except.ok.inj h₃)
  rfl

/-- An object that is as it was drafted has the name that it was drafted with. -/
theorem displayName_of_agrees {current desired : Segment}
    (h : agrees (.policy .segment) current desired = true) :
    current.displayName = desired.displayName := by
  simp only [agrees, Bool.and_eq_true, beq_iff_eq] at h
  simp only [h]

theorem Built.renames {parent : String} {o : Segment} {left : Left Action}
    (h : Built parent s (.policy .segment) o es left) {name : String}
    (hname : o.displayName = some name) : Renames name es s left.2 := by
  cases h with
  | declared id => exact .inl ⟨⟨_, _, .tail _ (.head _)⟩, hname⟩
  | undeclared id e =>
    refine .inr ⟨?_, rfl⟩
    rintro ⟨place, o', hmem⟩
    simp at hmem

theorem Overwritten.renames {place : Place} {current desired : Segment} {left : Left Action}
    (h : Overwritten place s (.policy .segment) current desired es left) {name : String}
    (hname : desired.displayName = some name) : Renames name es s left.2 := by
  cases h with
  | declared => exact .inl ⟨⟨_, _, .head _⟩, hname⟩
  | undeclared e =>
    refine .inr ⟨?_, rfl⟩
    rintro ⟨place, o', hmem⟩
    simp at hmem

/-- Reading a segment renames nothing. -/
theorem renames_get (name : String) (s : State) {place : Place}
    (answer : Answer (.get (.policy .segment) place)) :
    Renames name [called (.get (.policy .segment) place) answer] s s :=
  .inr ⟨not_declares_of_within (within_cons (List.Subset.refl _) (within_nil []))
    List.not_mem_nil, rfl⟩

theorem Ensured.renames {left : Left Action} (h : Ensured (.policy .segment) c spec s es left) :
    Renames spec.segmentName es s left.2 := by
  cases h with
  | undrafted hdraft => exact renames_nil _ s
  | first hdraft href h => exact h.renames (displayName_of_draft hdraft)
  | kept hdraft href hagrees => exact renames_get _ _ _
  | changed hdraft href hagrees h =>
    exact (renames_get _ _ _).trans (h.renames (displayName_of_draft hdraft))
  | again hdraft href he h =>
    exact (renames_get _ _ _).trans (h.renames (displayName_of_draft hdraft))
  | unread hdraft href he => exact renames_get _ _ _

/-! ### Other tasks -/

theorem segmentName_noted {k : Kind} (hk : k ≠ .policy .segment) (o : k.Object) (s : State) :
    (noted k o s).segmentName = s.segmentName := by
  match k with
  | .policy .segment => exact absurd rfl hk
  | .policy .tier1 | .policy .localeService | .policy .ipAllocation | .policy .natRule
  | .policy .dhcpServerConfig | .manager _ => rfl

theorem segmentName_recorded {k : Kind} (hk : k ≠ .policy .segment) (parent id : String)
    (o : k.Object) (s : State) : (recorded k parent id o s).segmentName = s.segmentName := by
  rcases recorded_cases k parent id o s with h | h <;> rw [h]
  · rw [segmentName_noted hk, State.segmentName_withReference]
  · exact (segmentName_noted hk o _).trans (State.segmentName_withReference s _ _)

theorem segmentName_opened (k : Kind) (s : State) :
    (opened k s).segmentName = s.segmentName := by
  cases k <;> rfl

theorem Built.segmentName {k : Kind} (hk : k ≠ .policy .segment) {parent : String} {o : k.Object}
    {left : Left Action} (h : Built parent s k o es left) :
    left.2.segmentName = s.segmentName := by
  cases h with
  | declared id => exact segmentName_recorded hk ..
  | @created mk o answer id hid => exact segmentName_recorded hk _ _ o s
  | undeclared | nameless | uncreated => rfl

theorem Overwritten.segmentName {k : Kind} (hk : k ≠ .policy .segment) {place : Place}
    {current desired : k.Object} {left : Left Action}
    (h : Overwritten place s k current desired es left) :
    left.2.segmentName = s.segmentName := by
  cases h with
  | declared => exact segmentName_noted hk ..
  | @updated mk current desired answer => exact segmentName_noted hk desired s
  | undeclared | refused => rfl

theorem Ensured.segmentName {k : Kind} (hk : k ≠ .policy .segment) {left : Left Action}
    (h : Ensured k c spec s es left) : left.2.segmentName = s.segmentName := by
  have hopened := segmentName_opened k s
  cases h with
  | undrafted => rfl
  | first hdraft href h => exact (h.segmentName hk).trans hopened
  | changed hdraft href hagrees h => exact (h.segmentName hk).trans hopened
  | again hdraft href he h => exact (h.segmentName hk).trans hopened
  | kept | unread => exact hopened

theorem segmentName_bound {α : Type} (task name : String) (slot : Slot) (reference : α → Reference)
    (s : State) (found : Except ApiError (Option α)) :
    (bound task name slot reference s found).2.segmentName = s.segmentName := by
  match found with
  | .error e => rfl
  | .ok none => rfl
  | .ok (some o) => exact State.segmentName_withReference s slot _

theorem segmentName_adopted (k : ManagerKind) (parent : String) (s : State)
    (found : Except ApiError (Option k.Object)) :
    (adopted k parent s found).2.segmentName = s.segmentName := by
  rw [adopted.eq_def]
  split
  · rfl
  · split
    · rfl
    · exact State.segmentName_withReference s _ _

theorem segmentName_recoverIfLost {left : Left Unit} (h : (recoverIfLost t c s).Trace es left) :
    left.2.segmentName = s.segmentName := by
  rcases recoverIfLost_cases t c s with hrecover | ⟨k, -, -, hrecover⟩
  · rw [hrecover] at h
    obtain ⟨-, rfl⟩ := trace_done_iff.mp h
    rfl
  · rw [hrecover, adopt_eq] at h
    obtain ⟨left', h', rfl⟩ := trace_bind_done_iff.mp h
    split at h'
    · obtain ⟨-, rfl⟩ := trace_done_iff.mp h'
      rfl
    · obtain ⟨found, -, rfl⟩ := trace_bind_done_iff.mp h'
      exact segmentName_adopted k _ s found

theorem segmentName_ensure (ht : t ≠ .managed (.policy .segment)) {left : Left Action}
    (h : (t.ensure c spec s).Trace es left) : left.2.segmentName = s.segmentName := by
  cases t with
  | lookUp catalog =>
    rw [Task.ensure, lookUp_eq, trace_bind_done_iff] at h
    obtain ⟨found, -, rfl⟩ := h
    exact segmentName_bound ..
  | managed k => exact (ensured_of_trace h).segmentName fun hk => ht (congrArg _ hk)
  | realization =>
    rw [Task.ensure, realize_eq] at h
    split at h
    · obtain ⟨-, rfl⟩ := trace_done_iff.mp h
      rfl
    · obtain ⟨result, -, rfl⟩ := trace_bind_done_iff.mp h
      cases result <;> rfl
  | lookUpSwitch =>
    rw [Task.ensure, lookUpSwitch_eq] at h
    split at h
    · obtain ⟨-, rfl⟩ := trace_done_iff.mp h
      rfl
    · obtain ⟨found, -, rfl⟩ := trace_bind_done_iff.mp h
      exact segmentName_bound ..

/-- **Only the task of the segment has to do with its name.** -/
theorem segmentName_runTask (ht : t ≠ .managed (.policy .segment)) {left : Left Action}
    (h : (runTask t c spec s).Trace es left) : left.2.segmentName = s.segmentName := by
  rw [runTask, bind_eq, trace_bind_iff] at h
  obtain ⟨es₁, es₂, ⟨recovered, s₁⟩, rfl, h₁, h₂⟩ := h
  have hrecovered : s₁.segmentName = s.segmentName := segmentName_recoverIfLost h₁
  cases recovered with
  | error e =>
    obtain ⟨-, rfl⟩ := trace_done_iff.mp h₂
    exact hrecovered
  | ok done =>
    obtain ⟨left', h₃, rfl⟩ := trace_bind_done_iff.mp h₂
    exact (segmentName_ensure ht h₃).trans hrecovered

/-! ### Runs -/

theorem runTask_renames {left : Left Action} (h : (runTask t c spec s).Trace es left) :
    Renames spec.segmentName es s left.2 := by
  by_cases ht : t = .managed (.policy .segment)
  · subst ht
    rw [runTask_eq (recoverIfLost_of_recover? rfl c s)] at h
    obtain ⟨left', h', rfl⟩ := trace_bind_done_iff.mp h
    exact (ensured_of_trace h').renames
  · exact .inr ⟨not_declares_of_within (within_runTask h) fun hmem =>
      ht (eq_managed_of_table_mem_touches hmem), segmentName_runTask ht h⟩

theorem runTasks_renames {ts : List Task} {left : Left (List Outcome)}
    (h : (runTasks c spec ts s).Trace es left) : Renames spec.segmentName es s left.2 := by
  induction ts generalizing s es left with
  | nil =>
    obtain ⟨rfl, rfl⟩ := trace_done_iff.mp h
    exact renames_nil _ _
  | cons t ts ih =>
    rw [runTasks, bind_eq, trace_bind_iff] at h
    obtain ⟨es₁, es₂, ⟨result, s₁⟩, rfl, h₁, h₂⟩ := h
    have hfirst : Renames spec.segmentName es₁ s s₁ := runTask_renames h₁
    cases result with
    | error e =>
      obtain ⟨rfl, rfl⟩ := trace_done_iff.mp h₂
      rw [List.append_nil]
      exact hfirst
    | ok action =>
      obtain ⟨rest, h₃, rfl⟩ := trace_bind_done_iff.mp h₂
      have hrest : Renames spec.segmentName es₂ s₁ rest.2 := ih h₃
      exact hfirst.trans hrest

/-- **A run knows the name of the segment if it has declared it or knew the name before**, whatever
it is answered. -/
theorem run_renames {left : Left (List Outcome)} (h : (run g c spec s).Trace es left) :
    Renames spec.segmentName es s left.2 := by
  rw [run] at h
  split at h
  · obtain ⟨rfl, rfl⟩ := trace_done_iff.mp h
    exact renames_nil _ _
  · exact runTasks_renames h

/-! ### Names that are in step -/

/-- Whether every segment has the name that is known. -/
def Named (w : World) : Prop :=
  ∀ place, ∀ o : Segment, w.1.inventory.find? (.policy .segment) place = some o →
    o.displayName = w.2.segmentName

/-- What becomes of the objects and of the name that is known: nothing, or there is a segment with
the name that is known from here on. -/
def Relabels (w w' : World) : Prop :=
  (w'.1.inventory = w.1.inventory ∧ w'.2.segmentName = w.2.segmentName) ∨
  ∃ place, ∃ o : Segment, w'.1.inventory.find? (.policy .segment) place = some o ∧
    o.displayName = w'.2.segmentName

/-- What was done before it does not matter if it has changed neither. -/
theorem Relabels.of_same {w w' w'' : World} (h : Relabels w' w'')
    (hsame : w'.1.inventory = w.1.inventory) (hname : w'.2.segmentName = w.2.segmentName) :
    Relabels w w'' :=
  h.imp_left fun ⟨hsame', hname'⟩ => ⟨hsame'.trans hsame, hname'.trans hname⟩

/-- A segment that was declared has the name that it was declared with. -/
theorem relabels_of_patch {plane plane' : Simulator} {place : Place} {o : Segment}
    (hanswer : Simulator.answer (.patch .segment place o) plane = (.ok (), plane'))
    (hname : s'.segmentName = o.displayName) : Relabels (plane, s) (plane', s') := by
  have hput := Simulator.patch_of_answer_ok hanswer
  refine .inr ⟨place, PolicyKind.segment.stamped place.id (PolicyKind.segment.path place) o, ?_,
    hname.symm⟩
  show plane'.inventory.find? _ _ = _
  rw [hput, Inventory.find?_put_self]

theorem Built.relabels {parent : String} {o : Segment} {left : Left Action}
    (h : Built parent s (.policy .segment) o es left) (hqueued : b.queued = [])
    (hreplies : Replies Testbed.perform es b b') : Relabels (b.plane, s) (b'.plane, left.2) := by
  cases h with
  | declared id =>
    obtain ⟨-, hreplies⟩ := Testbed.replies_drawId hreplies
    have hanswer := Testbed.replies_called (b := { b with plane := b.plane.drawId.2 }) hqueued
      hreplies
    have hrelabels : Relabels (b.plane.drawId.2, s) (b'.plane, recorded (.policy .segment) parent
      id o s) := relabels_of_patch hanswer rfl
    exact hrelabels.of_same rfl rfl
  | undeclared id e =>
    obtain ⟨-, hreplies⟩ := Testbed.replies_drawId hreplies
    have hanswer := Testbed.replies_called (b := { b with plane := b.plane.drawId.2 }) hqueued
      hreplies
    have hsame := Simulator.inventory_of_answer_error hanswer
    exact .inl ⟨hsame, rfl⟩

theorem Overwritten.relabels {place : Place} {current desired : Segment} {left : Left Action}
    (h : Overwritten place s (.policy .segment) current desired es left) (hqueued : b.queued = [])
    (hreplies : Replies Testbed.perform es b b') : Relabels (b.plane, s) (b'.plane, left.2) := by
  cases h with
  | declared => exact relabels_of_patch (Testbed.replies_called hqueued hreplies) rfl
  | undeclared e =>
    exact .inl ⟨Simulator.inventory_of_answer_error (Testbed.replies_called hqueued hreplies), rfl⟩

theorem Ensured.relabels {left : Left Action} (h : Ensured (.policy .segment) c spec s es left)
    (hqueued : b.queued = []) (hreplies : Replies Testbed.perform es b b') :
    Relabels (b.plane, s) (b'.plane, left.2) := by
  cases h with
  | undrafted hdraft =>
    rw [replies_nil.mp hreplies]
    exact .inl ⟨rfl, rfl⟩
  | first hdraft href h => exact h.relabels hqueued hreplies
  | kept hdraft href hagrees =>
    obtain ⟨-, hsame⟩ := Simulator.get_of_answer_ok (Testbed.replies_called hqueued hreplies)
    exact .inl ⟨hsame, rfl⟩
  | changed hdraft href hagrees h =>
    obtain ⟨plane, hanswer, hreplies⟩ := Testbed.replies_call hqueued hreplies
    obtain ⟨-, hsame⟩ := Simulator.get_of_answer_ok hanswer
    exact (h.relabels (b := { b with plane }) hqueued hreplies).of_same hsame rfl
  | again hdraft href he h =>
    obtain ⟨plane, hanswer, hreplies⟩ := Testbed.replies_call hqueued hreplies
    have hsame := Simulator.inventory_of_answer_error hanswer
    exact (h.relabels (b := { b with plane }) hqueued hreplies).of_same hsame rfl
  | unread hdraft href he =>
    have hsame := Simulator.inventory_of_answer_error (Testbed.replies_called hqueued hreplies)
    exact .inl ⟨hsame, rfl⟩

/-- A state that refers to every object refers to one segment at most, so one with the right name
is enough. -/
theorem Relabels.named {w w' : World} (h : Relabels w w') {name : String} {rounds : Nat}
    (hc : Custody name rounds w') (hnamed : Named w) : Named w' := by
  intro place o hfind
  rcases h with ⟨hsame, hname⟩ | ⟨place', o', hfind', hname⟩
  · rw [hsame] at hfind
    exact (hnamed place o hfind).trans hname.symm
  · have hrefers := hc.held _ _ (Inventory.holds_of_find? hfind)
    have hrefers' := hc.held _ _ (Inventory.holds_of_find? hfind')
    obtain rfl := hrefers.unique hrefers'
    obtain rfl : o = o' := Option.some.inj (hfind.symm.trans hfind')
    exact hname

/-- A task keeps the names in step. -/
theorem runTask_named {left : Left Action} (hqueued : b.queued = [])
    (h : b.run (runTask t c spec s) = (some left, b'))
    (hc : Custody spec.snatIpPoolName c.rounds (b.plane, s)) (hnamed : Named (b.plane, s)) :
    Named (b'.plane, left.2) := by
  by_cases ht : t = .managed (.policy .segment)
  · subst ht
    obtain ⟨es, left', hensured, hreplies, rfl⟩ :=
      ensured_of_run (recoverIfLost_of_recover? rfl c s) h
    exact (hensured.relabels hqueued hreplies).named (hensured.custody hqueued hreplies hc) hnamed
  · obtain ⟨es, htrace, -⟩ := run_eq_some_iff.mp h
    intro place o hfind
    have hbefore : b.plane.inventory.find? (.policy .segment) place = some o := by
      rw [Inventory.find?, ← table_runTask_of_ne hqueued h ht]
      exact hfind
    exact (hnamed place o hbefore).trans (segmentName_runTask ht htrace).symm

/-- **Runs keep the names in step**, as long as the state refers to every object. -/
theorem run_named {left : Left (List Outcome)} (hqueued : b.queued = [])
    (h : b.run (run g c spec s) = (some left, b'))
    (hc : Custody spec.snatIpPoolName c.rounds (b.plane, s)) (hnamed : Named (b.plane, s)) :
    Named (b'.plane, left.2) := by
  rw [Pipeline.run] at h
  split at h
  · obtain ⟨rfl, rfl⟩ := run_done_eq_some_iff.mp h
    exact hnamed
  · have hkept := runTasks_invariant
      (P := fun b s => b.queued = [] ∧ Custody spec.snatIpPoolName c.rounds (b.plane, s) ∧
        Named (b.plane, s))
      (fun h' hrun => ⟨(runTask_confined h'.1 hrun).1, runTask_custody h'.1 hrun h'.2.1,
        runTask_named h'.1 hrun h'.2.1 h'.2.2⟩)
      ⟨hqueued, hc, hnamed⟩ h
    exact hkept.2.2

/-- **Behind a run that succeeded, the segment is there and has its name.** -/
theorem displayName_of_run {outcomes : List Outcome} (hqueued : b.queued = [])
    (h : b.run (run g c spec s) = (some (.ok outcomes, s'), b')) :
    ∃ parent r, ∃ o : Segment, parentOf (.policy .segment) s' = some parent ∧
      s'.reference .segment = some r ∧
      b'.plane.inventory.find? (.policy .segment) ⟨parent, r.id⟩ = some o ∧
      o.displayName = some spec.segmentName := by
  rw [Pipeline.run] at h
  split at h
  · cases (run_done_eq_some_iff.mp h).1
  · have hsegment : Task.managed (.policy .segment) ∈ tasks g := by cases g <;> decide
    obtain ⟨parent, desired, r, current, hdraft, href, hfind, hagrees⟩ :=
      settled_of_runTasks (undisturbed_tasks g) hqueued h _ hsegment
    exact ⟨parent, r, current, parentOf_of_draft hdraft, href, hfind,
      (displayName_of_agrees hagrees).trans (displayName_of_draft hdraft)⟩

/-- **A run only looks if it starts from what was known before one that succeeded**, where this one
has changed no reference and no address. So the name that was known stays known. -/
theorem run_of_outdated {outcomes : List Outcome} (hqueued : b.queued = [])
    (h : b.run (run g c spec s) = (some (.ok outcomes, s'), b'))
    (hreference : ∀ slot, s'.reference slot = s.reference slot)
    (haddress : s'.snatIpAddress = s.snatIpAddress) (hfailures : b'.plane.failures = []) :
    ∃ outcomes' rs, b'.run (run g c spec s) = (some (.ok outcomes', s), b'.asked rs) := by
  rw [Pipeline.run] at h
  split at h
  · cases (run_done_eq_some_iff.mp h).1
  · next hvalid =>
    have hsettled : ∀ t ∈ tasks g, Settled c spec t (b'.plane, s) := by
      intro t hmem
      refine (settled_of_runTasks (undisturbed_tasks g) hqueued h t hmem).congr fun res _ => ?_
      cases res with
      | slot own => exact (hreference own).symm
      | address => exact haddress.symm
      | part part => exact Part.Same.refl part b'.plane
    obtain ⟨outcomes', rs, -, -, hrun⟩ :=
      run_of_settled hsettled (runTasks_confined hqueued h).1 hfailures
    rw [Pipeline.run, hvalid]
    exact ⟨outcomes', rs, hrun⟩

end Pipeline

end ClusterNet
