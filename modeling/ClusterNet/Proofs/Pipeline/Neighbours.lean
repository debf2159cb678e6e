import ClusterNet.Proofs.Pipeline.Handles
import Mathlib.Logic.Function.Basic

/-!
# Clusters that share a control plane

Clusters with different identities, each with a state of its own, take turns on one control plane
with whole runs and takedowns. Each may be given any specification, any context and any generation,
and may fail anywhere. Whatever one of them does leaves alone what the others refer to, and no two
of them ever come to refer to one object, although they look up the same objects that were there
before.

One invariant carries this: no two states lead to the same thing. A task moves only what its own
state leads to, and its state comes to lead only to what is new, which no state leads to, or to what
carries the tags of its own cluster, which no other cluster's state leads to.

## Main definitions

* `Pipeline.Visit` — a whole run or takedown of a cluster
* `Pipeline.Neighbours` — the testbeds and states that visits of clusters lead to
* `Pipeline.Spared`, `Pipeline.Separate` — what isolation means

## Main results

* `Pipeline.Apart.moved` — one task keeps states apart
* `Pipeline.Neighbours.apart` — so do all visits
* `Pipeline.neighbours_isolated` — clusters are isolated
-/

namespace ClusterNet

namespace Pipeline

open Cluster (InfraError Reference Slot Spec State)
open ControlPlane Program

variable {ι : Type} {identity : ι → ClusterIdentity} {states : ι → State}
  {i j : ι} {s s' : State} {p p' p'' : Simulator} {b b' : Testbed} {handle : Handle}

/-! ### Taking turns -/

/-- A whole run or takedown of a cluster, which may have stopped anywhere. -/
inductive Visit (identity : ClusterIdentity) (b : Testbed) (s : State) : Testbed → State → Prop
  /-- A run. -/
  | run {b' : Testbed} {s' : State} {g : Generation} {c : Context} {spec : Spec}
    {result : Except InfraError (List Outcome)} (hc : c.identity = identity)
    (h : b.run (run g c spec s) = (some (result, s'), b')) : Visit identity b s b' s'
  /-- A takedown. -/
  | takeDown {b' : Testbed} {s' : State} {ts : List Task}
    {result : Except InfraError (List String)}
    (h : b.run (takeDownTasks ts s) = (some (result, s'), b')) : Visit identity b s b' s'

/-- The testbeds and states that visits of clusters lead to. At the start no cluster knows anything,
and ids tell objects apart. Any method can be made to fail. -/
inductive Neighbours [DecidableEq ι] (identity : ι → ClusterIdentity) : Testbed → (ι → State) → Prop
  /-- No cluster knows anything yet. -/
  | start {b : Testbed} (hqueued : b.queued = []) (hs : b.plane.Sound) :
    Neighbours identity b fun _ => .fresh
  /-- A visit of one of the clusters. -/
  | visit {b b' : Testbed} {states : ι → State} {i : ι} {s' : State}
    (hn : Neighbours identity b states) (h : Visit (identity i) b (states i) b' s') :
    Neighbours identity b' (Function.update states i s')
  /-- A method that will fail. -/
  | failNext {b : Testbed} {states : ι → State} (hn : Neighbours identity b states) (m : Method) :
    Neighbours identity { b with plane := b.plane.failNext m } states

/-- Whether what a state refers to is the same on two control planes. -/
structure Spared (s : State) (p p' : Simulator) : Prop where
  /-- The objects that were there before any cluster. -/
  catalogs : p'.catalogs = p.catalogs
  /-- The objects of clusters. -/
  objects : ∀ k r place, s.reference (slot k) = some r → place.id = r.id →
    p'.inventory.find? k place = p.inventory.find? k place
  /-- The logical switches. -/
  switches : ∀ r x, s.reference .logicalSwitch = some r → x.id = r.id →
    (x ∈ p'.switches ↔ x ∈ p.switches)

/-- Whether two states refer to no common object, apart from those that were there before any
cluster. -/
structure Separate (s s' : State) : Prop where
  /-- No object of a cluster. -/
  objects : ∀ k r r', s.reference (slot k) = some r → s'.reference (slot k) = some r' → r.id ≠ r'.id
  /-- No logical switch. -/
  switches : ∀ r r', s.reference .logicalSwitch = some r → s'.reference .logicalSwitch = some r' →
    r.id ≠ r'.id

/-! ### Apart -/

theorem Handle.Same.refl (handle : Handle) (p : Simulator) : handle.Same p p := by
  cases handle with
  | object k id => exact fun _ => rfl
  | switch id => exact fun _ _ => .rfl

theorem Handle.Same.trans (h : handle.Same p p') (h' : handle.Same p' p'') : handle.Same p p'' := by
  cases handle with
  | object k id => exact fun parent => (h' parent).trans (h parent)
  | switch id => exact fun x hid => (h' x hid).trans (h x hid)

/-- **No two states lead to the same thing**, and each leads to objects of its own cluster. -/
structure Apart (identity : ι → ClusterIdentity) (p : Simulator) (states : ι → State) : Prop where
  /-- Ids tell objects apart. -/
  sound : p.Sound
  /-- Each state leads to objects of its own cluster. -/
  proper : ∀ i, Proper (identity i) (p, states i)
  /-- No two of them lead to the same thing. -/
  apart : ∀ i j, i ≠ j → ∀ handle, Reaches (states i) handle → ¬ Reaches (states j) handle

theorem apart_fresh (identity : ι → ClusterIdentity) (hs : p.Sound) :
    Apart identity p fun _ => .fresh where
  sound := hs
  proper i := proper_fresh (identity i) p
  apart i j _ handle hreaches := by
    cases hreaches with
    | object href => exact nomatch (reference_fresh _).symm.trans href
    | switch href => exact nomatch (reference_fresh _).symm.trans href
    | segment href => exact nomatch (reference_fresh _).symm.trans href

/-- What carries the tags of one cluster is nothing that the state of another one leads to. -/
theorem Apart.not_tagged (h : Apart identity p states) (hidentity : Function.Injective identity)
    (hij : i ≠ j) (htagged : handle.Tagged (identity i) p) : ¬ Reaches (states j) handle := by
  intro hreaches
  cases hreaches with
  | @object k r href =>
    cases k with
    | policy k => exact htagged
    | manager k =>
      obtain ⟨parent, o, hfind, htagged⟩ := htagged
      obtain ⟨place, o', ⟨rfl, -⟩, hfind', htagged'⟩ := (h.proper j).created k _ href
      have hplace : (⟨parent, place.id⟩ : Place) = place :=
        h.sound.unique k _ _ (Inventory.holds_of_find? hfind) (Inventory.holds_of_find? hfind') rfl
      rw [hplace] at hfind
      obtain rfl := Option.some.inj (hfind.symm.trans hfind')
      exact hij (hidentity (ClusterIdentity.eq_of_isTagged htagged htagged'))
  | switch href => exact htagged
  | segment href => exact htagged

theorem Apart.failNext (h : Apart identity p states) (m : Method) :
    Apart identity (p.failNext m) states where
  sound := ⟨h.sound.ids, h.sound.fresh, h.sound.indexed, h.sound.sorted, h.sound.unique,
    h.sound.used, h.sound.switches⟩
  proper i := ⟨(h.proper i).declared, (h.proper i).created, (h.proper i).switch⟩
  apart := h.apart

section Visits

variable [DecidableEq ι]

/-- **One task keeps states apart**, and leaves alone what the other states lead to. -/
theorem Apart.moved (h : Apart identity p states) (hidentity : Function.Injective identity)
    (hmoved : Moved (identity i) (p, states i) (p', s')) :
    Apart identity p' (Function.update states i s') ∧
      ∀ j, j ≠ i → ∀ handle, Reaches (states j) handle → handle.Same p p' := by
  have hclear : ∀ j, j ≠ i → ∀ handle, Reaches s' handle → ¬ Reaches (states j) handle := by
    intro j hji handle hreaches
    rcases hmoved.reach handle hreaches with hold | hupcoming | htagged
    · exact h.apart i j hji.symm handle hold
    · exact fun hother => (h.proper j).not_upcoming h.sound hother hupcoming
    · exact h.not_tagged hidentity hji.symm htagged
  have hsame : ∀ j, j ≠ i → ∀ handle, Reaches (states j) handle → handle.Same p p' :=
    fun j hji handle hother => hmoved.frame handle (h.apart j i hji handle hother)
      fun hreaches => hclear j hji handle hreaches hother
  refine ⟨⟨hmoved.sound, fun j => ?_, fun j j' hne handle hreaches => ?_⟩, hsame⟩
  · by_cases hji : j = i
    · subst hji
      rw [Function.update_self]
      exact hmoved.proper
    · rw [Function.update_of_ne hji]
      exact (h.proper j).congr hmoved.settings hmoved.drawn (hsame j hji)
  · by_cases hji : j = i
    · subst hji
      rw [Function.update_self] at hreaches
      rw [Function.update_of_ne hne.symm]
      exact hclear j' hne.symm handle hreaches
    · rw [Function.update_of_ne hji] at hreaches
      by_cases hji' : j' = i
      · subst hji'
        rw [Function.update_self]
        exact fun hreaches' => hclear j hji handle hreaches' hreaches
      · rw [Function.update_of_ne hji']
        exact h.apart j j' hne handle hreaches

/-! ### Visits -/

/-- What holds of a control plane while a cluster visits it. -/
structure Visiting (identity : ι → ClusterIdentity) (i : ι) (b : Testbed) (states : ι → State)
    (b' : Testbed) (s' : State) : Prop where
  /-- Nothing is answered beforehand. -/
  queued : b'.queued = []
  /-- The states are apart. -/
  apart : Apart identity b'.plane (Function.update states i s')
  /-- The settings are as they were when the visit began. -/
  settings : Part.settings.Same b.plane b'.plane
  /-- So is what the other states lead to. -/
  same : ∀ j, j ≠ i → ∀ handle, Reaches (states j) handle → handle.Same b.plane b'.plane

/-- A task of a visit goes on with it. -/
theorem Visiting.moved {b₁ : Testbed} {s₁ : State} (h : Visiting identity i b states b₁ s₁)
    (hidentity : Function.Injective identity) (hqueued : b'.queued = [])
    (hmoved : b₁.plane.Sound → Proper (identity i) (b₁.plane, s₁) →
      Moved (identity i) (b₁.plane, s₁) (b'.plane, s')) : Visiting identity i b states b' s' := by
  have hproper := h.apart.proper i
  rw [Function.update_self] at hproper
  have hmoved := hmoved h.apart.sound hproper
  obtain ⟨hapart, hsame⟩ := h.apart.moved hidentity (Function.update_self i s₁ states ▸ hmoved)
  rw [Function.update_idem] at hapart
  refine ⟨hqueued, hapart, h.settings.trans hmoved.settings, fun j hji handle hreaches => ?_⟩
  refine (h.same j hji handle hreaches).trans (hsame j hji handle ?_)
  rwa [Function.update_of_ne hji]

/-- **A visit keeps states apart**, and leaves alone what the other states lead to. -/
theorem Visit.visiting (h : Visit (identity i) b (states i) b' s') (hqueued : b.queued = [])
    (hapart : Apart identity b.plane states) (hidentity : Function.Injective identity) :
    Visiting identity i b states b' s' := by
  have hstart : Visiting identity i b states b (states i) := by
    refine ⟨hqueued, ?_, .refl .settings _, fun _ _ handle _ => .refl handle _⟩
    rwa [Function.update_eq_self]
  cases h with
  | @run g c spec result hc h =>
    rw [Pipeline.run] at h
    split at h
    · obtain ⟨hleft, rfl⟩ := run_done_eq_some_iff.mp h
      obtain ⟨rfl, rfl⟩ := Prod.mk.inj hleft
      exact hstart
    · refine runTasks_invariant (P := Visiting identity i b states) (fun hv hrun => ?_) hstart h
      refine hv.moved hidentity (runTask_confined hv.queued hrun).1 fun hs hp => ?_
      exact hc ▸ runTask_moved hv.queued hs (hc ▸ hp) hrun
  | takeDown h =>
    refine removeAll_invariant (P := Visiting identity i b states) (fun hv hrun => ?_) hstart h
    obtain ⟨es, -, hreplies⟩ := run_eq_some_iff.mp hrun
    exact hv.moved hidentity (Testbed.replies_same hreplies hv.queued).1 fun hs hp =>
      Task.remove_moved hv.queued hs hp hrun

/-- **All visits keep states apart.** -/
theorem Neighbours.apart (h : Neighbours identity b states)
    (hidentity : Function.Injective identity) :
    b.queued = [] ∧ Apart identity b.plane states := by
  induction h with
  | start hqueued hs => exact ⟨hqueued, apart_fresh identity hs⟩
  | visit _ hvisit ih =>
    have hv := hvisit.visiting ih.1 ih.2 hidentity
    exact ⟨hv.queued, hv.apart⟩
  | failNext _ m ih => exact ⟨ih.1, ih.2.failNext m⟩

/-- States that lead to nothing in common refer to nothing in common. -/
theorem separate_of_apart (h : ∀ handle, Reaches s handle → ¬ Reaches s' handle) :
    Separate s s' where
  objects _ _ _ href href' hid := h _ (.object href) (hid ▸ .object href')
  switches _ _ href href' hid := h _ (.switch href) (hid ▸ .switch href')

/-- **Clusters are isolated.** Whatever clusters have done on a control plane, no two of them refer
to a common object, and whatever one of them does next leaves what the others refer to as it is and
refers to nothing of it afterwards. -/
theorem neighbours_isolated (hidentity : Function.Injective identity)
    (h : Neighbours identity b states) (hij : i ≠ j) :
    Separate (states i) (states j) ∧
      ∀ b' s', Visit (identity i) b (states i) b' s' →
        Spared (states j) b.plane b'.plane ∧ Separate s' (states j) := by
  obtain ⟨hqueued, hapart⟩ := h.apart hidentity
  refine ⟨separate_of_apart (hapart.apart i j hij), fun b' s' hvisit => ?_⟩
  have hv := hvisit.visiting hqueued hapart hidentity
  have hsame := hv.same j hij.symm
  refine ⟨⟨hv.settings.1, fun k r place href hid => ?_, fun r x href hid => ?_⟩,
    separate_of_apart fun handle hreaches => ?_⟩
  · have hkept := hsame _ (.object href) place.parent
    rwa [← hid] at hkept
  · exact hsame _ (.switch href) x hid
  · have hclear := hv.apart.apart i j hij handle
    rw [Function.update_self, Function.update_of_ne hij.symm] at hclear
    exact hclear hreaches

end Visits

/-! ### Two clusters -/

/-- An id that is a tally of the ids before it. -/
def tallyId (n : Nat) : String := String.ofList (List.replicate (n + 1) 'i')

theorem isId_tallyId (n : Nat) : Path.IsId (tallyId n) := by
  constructor
  · exact fun hempty => nomatch String.ofList_eq_empty_iff.mp hempty
  · intro c hmem
    rw [tallyId, String.toList_ofList] at hmem
    rw [List.eq_of_mem_replicate hmem]
    rfl

theorem tallyId_injective : Function.Injective tallyId := by
  intro m n hsame
  have hlength := congrArg List.length (String.ofList_injective hsame)
  rw [List.length_replicate, List.length_replicate] at hlength
  exact Nat.succ.inj hlength

/-- A control plane with a typical region on which ids never repeat. -/
def tallyPlane : Simulator := ({ freshId := tallyId } : Simulator).withRegion

/-- Another cluster in the same garden. -/
def siblingCluster : Spec := { typicalCluster with clusterName := "sibling" }

/-- The identities of the two clusters. -/
def siblings (elder : Bool) : ClusterIdentity :=
  if elder then typicalCluster.identity else siblingCluster.identity

theorem siblings_injective : Function.Injective siblings := by
  have hne : siblings true ≠ siblings false := by decide
  rintro (_ | _) (_ | _) hsame
  · rfl
  · exact absurd hsame.symm hne
  · exact absurd hsame hne
  · rfl

/-- The first run for the one cluster. -/
def elderRun : Option (Left (List Outcome)) × Testbed :=
  ({ plane := tallyPlane } : Testbed).run
    (run .v2 { identity := siblings true, rounds := 20 } typicalCluster .fresh)

/-- The first run for the other cluster, which looks for objects that carry its tags. -/
def youngerRun : Option (Left (List Outcome)) × Testbed :=
  elderRun.2.run (run .v2 { identity := siblings false, recoveryEnabled := true, rounds := 20 }
    siblingCluster .fresh)

/-- The first run for a cluster spares what its sibling has, and refers to other objects. -/
theorem neighbours_isolated_siblings :
    ∃ outcomes s outcomes' s', elderRun.1 = some (.ok outcomes, s) ∧
      youngerRun.1 = some (.ok outcomes', s') ∧
      Spared s elderRun.2.plane youngerRun.2.plane ∧ Separate s' s := by
  have helder : elderRun.1.any (·.1.isOk) = true := by decide +kernel
  have hyounger : youngerRun.1.any (·.1.isOk) = true := by decide +kernel
  have hstart : Neighbours siblings ({ plane := tallyPlane } : Testbed) fun _ => .fresh :=
    .start rfl (Simulator.sound_of_empty isId_tallyId tallyId_injective rfl rfl)
  obtain ⟨⟨result, s⟩, hleft, hok⟩ := (Option.any_eq_true _ _).mp helder
  obtain ⟨⟨result', s'⟩, hleft', hok'⟩ := (Option.any_eq_true _ _).mp hyounger
  cases result with
  | error e => exact nomatch hok
  | ok outcomes =>
    cases result' with
    | error e => exact nomatch hok'
    | ok outcomes' =>
      have hvisit : Visit (siblings true) { plane := tallyPlane } .fresh elderRun.2 s :=
        .run rfl (Prod.ext hleft rfl)
      have hvisit' : Visit (siblings false) elderRun.2 .fresh youngerRun.2 s' :=
        .run rfl (Prod.ext hleft' rfl)
      have hisolated := neighbours_isolated (i := false) (j := true) siblings_injective
        (hstart.visit (i := true) hvisit) (by decide)
      obtain ⟨hspared, hseparate⟩ := hisolated.2 _ _ hvisit'
      exact ⟨outcomes, s, outcomes', s', hleft, hleft', hspared, hseparate⟩

end Pipeline

end ClusterNet
