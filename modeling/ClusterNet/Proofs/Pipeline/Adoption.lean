import ClusterNet.Proofs.ControlPlane.Search
import ClusterNet.Proofs.ControlPlane.Tag
import ClusterNet.Proofs.Pipeline.Healing

/-!
# Adoption and duplicates

A task whose reference is missing looks for its object by the tags of the cluster before it makes
one, if recovery is enabled. What it adopts is found again at once, so it makes an object only if
none is tagged as the cluster's. Of several tags of one scope, the last one says whose an object is:
one that carries the tags of the cluster and, behind them, another one of their scopes is not the
cluster's, and is not found.

A task whose reference is present does not look. It reads the object under the owner that the state
knows now. If nothing there has its id, it makes another one, whatever else is tagged, and even if
the object still exists under the owner that it had before. So recovery keeps a cluster from having
two objects of a kind as long as no reference is stale.

## Main definitions

* `Pipeline.Wanting` — what is there when an object of a kind has to be made
* `Pipeline.CreatesBeside` — an object is made while another one is there

## Main results

* `Pipeline.adopt_run` — what an adoption comes to
* `Pipeline.runTask_creates`, `Pipeline.creates_runTask` — a task makes an object if it is wanting
* `Pipeline.run_creates` — so does a run
* `Pipeline.run_duplicates` — a second object, although recovery is enabled
-/

namespace ClusterNet

namespace Pipeline

open Cluster (InfraError Reference Slot Spec State)
open ControlPlane Program

variable {s s' s₁ : State} {k : ManagerKind} {t : Task} {ts : List Task}
  {es es' es₁ es₂ : List Event} {g : Generation} {c : Context} {spec : Spec} {r : Reference}
  {parent : String} {b b' b₁ : Testbed}

/-! ### Adoption -/

/-- **What an adoption comes to**: the first object that is listed and tagged as the cluster's, if
there is one. -/
theorem adopt_run {left : Left Bool} (hqueued : b.queued = []) (hi : b.plane.inventory.Indexed)
    (hparent : listingParent k s = some parent) (h : b.run (adopt k c s) = (some left, b')) :
    (∃ e, left = (.error (.api e), s)) ∨
    (left = (.ok false, s) ∧
      (b.plane.objectsOf k parent).find? (fun o => c.identity.isTagged (k.tags o)) = none) ∨
    ∃ o id, (b.plane.objectsOf k parent).find? (fun o => c.identity.isTagged (k.tags o)) = some o ∧
      k.id? o = some id ∧ left =
        (.ok true, s.withReference (slot (.manager k)) (some ⟨id, k.path ⟨parent, id⟩⟩)) := by
  rw [adopt_eq, hparent] at h
  obtain ⟨found, b₁, h₁, h₂⟩ := run_bind_eq_some_iff.mp h
  obtain ⟨rfl, -⟩ := run_done_eq_some_iff.mp h₂
  match found with
  | .error e => exact .inl ⟨e, rfl⟩
  | .ok none =>
    exact .inr (.inl ⟨rfl, find?_of_firstIn rfl ((lists_objectsOf k parent).loop_ok hqueued h₁)⟩)
  | .ok (some o) =>
    have hfound := find?_of_firstIn rfl ((lists_objectsOf k parent).loop_ok hqueued h₁)
    obtain ⟨e, hentry, rfl⟩ := List.mem_map.mp (List.mem_of_find?_eq_some hfound)
    have hid := (hi k e (List.mem_filter.mp hentry).1).1
    refine .inr (.inr ⟨e.2, e.1.id, hfound, hid, ?_⟩)
    simp only [adopted, Option.bind_some, hid]

/-- Where recovery is enabled, a lost reference is looked for. -/
theorem recoverIfLost_of_lost (hrecovery : c.recoveryEnabled = true)
    (hlost : s.reference (slot (.manager k)) = none) :
    recoverIfLost (.managed (.manager k)) c s =
      (adopt k c s).bind fun left => .done (left.1.map fun _ => (), left.2) := by
  have hnone : (Task.managed (.manager k)).reference s = none := hlost
  rw [recoverIfLost, hrecovery, hnone]
  rfl

/-! ### Making an object -/

/-- What is there when an object of a kind has to be made under an owner. -/
inductive Wanting (identity : ClusterIdentity) (k : ManagerKind) (parent : String) (w : World) :
    Prop
  /-- There is no reference, and of no object under the owner are the last garden tag and the last
  cluster tag those of the cluster. -/
  | lost (href : w.2.reference (slot (.manager k)) = none)
    (hnone : ∀ o ∈ w.1.objectsOf k parent,
      ¬ (lastValue (k.tags o) gardenScope = some identity.gardenId ∧
        lastValue (k.tags o) clusterScope = some identity.clusterName))
  /-- There is a reference, and nothing under the owner has its id. What has it under another owner
  does not count, nor do the tags of what is there. -/
  | stale {r : Reference} (href : w.2.reference (slot (.manager k)) = some r)
    (hgone : ¬ w.1.inventory.Holds (.manager k) ⟨parent, r.id⟩)

theorem wanting_iff_of_none {w : World} (href : w.2.reference (slot (.manager k)) = none) :
    Wanting c.identity k parent w ↔
      ∀ o ∈ w.1.objectsOf k parent, c.identity.isTagged (k.tags o) = false := by
  have htagged : ∀ o : k.Object, c.identity.isTagged (k.tags o) = false ↔
      ¬ (lastValue (k.tags o) gardenScope = some c.identity.gardenId ∧
        lastValue (k.tags o) clusterScope = some c.identity.clusterName) := fun o => by
    rw [← isTagged_iff, Bool.not_eq_true]
  simp only [htagged]
  constructor
  · intro h
    cases h with
    | lost _ hnone => exact hnone
    | stale href' _ => exact nomatch href.symm.trans href'
  · exact .lost href

theorem wanting_iff_of_some {w : World} (href : w.2.reference (slot (.manager k)) = some r) :
    Wanting c.identity k parent w ↔ ¬ w.1.inventory.Holds (.manager k) ⟨parent, r.id⟩ := by
  constructor
  · intro h
    cases h with
    | lost href' _ => exact nomatch href.symm.trans href'
    | stale href' hgone =>
      obtain rfl := Option.some.inj (href.symm.trans href')
      exact hgone
  · exact .stale href

theorem Wanting.congr {w w' : World} (h : Wanting c.identity k parent w)
    (hslot : w'.2.reference (slot (.manager k)) = w.2.reference (slot (.manager k)))
    (htable : w'.1.inventory.table (.manager k) = w.1.inventory.table (.manager k)) :
    Wanting c.identity k parent w' := by
  have hobjects : w'.1.objectsOf k parent = w.1.objectsOf k parent := by
    rw [Simulator.objectsOf, htable, Simulator.objectsOf]
  cases h with
  | lost href hnone => exact .lost (hslot.trans href) (hobjects ▸ hnone)
  | stale href hgone =>
    exact .stale (hslot.trans href) fun hholds =>
      hgone ((Inventory.holds_of_table_eq htable).mp hholds)

/-- If there is an object that carries the tags of the cluster, and those of no other one, another
object is made only where a reference is stale. -/
theorem Wanting.exists_stale {w : World} (h : Wanting c.identity k parent w) {o : k.Object}
    (hmem : o ∈ w.1.objectsOf k parent) (hcarries : c.identity.tags ⊆ k.tags o)
    (hone : NamesOne (k.tags o)) :
    ∃ r, w.2.reference (slot (.manager k)) = some r ∧
      ¬ w.1.inventory.Holds (.manager k) ⟨parent, r.id⟩ := by
  cases h with
  | lost href hnone => exact absurd (isTagged_iff.mp (hone.isTagged hcarries)) (hnone o hmem)
  | stale href hgone => exact ⟨_, href, hgone⟩

theorem Built.of_create {k' : Kind} {parent' : String} {o : k.Object} {o' : k'.Object}
    {answer : Answer (.create k parent o)} {left : Left Action}
    (h : Built parent' s k' o' (es₁ ++ called (.create k parent o) answer :: es₂) left) :
    k' = .manager k ∧ parent' = parent ∧ es₁ = [] := by
  generalize hes : es₁ ++ called (.create k parent o) answer :: es₂ = es at h
  cases h with
  | declared id | undeclared id e =>
    have hmem := hes ▸ List.mem_append_right es₁ (.head _)
    rcases List.mem_cons.mp hmem with heq | hmem
    · cases heq
    · cases List.mem_singleton.mp hmem
  | created hid | nameless hid | uncreated e =>
    obtain ⟨rfl, heq⟩ | ⟨rfl, heq⟩ := List.append_eq_singleton_iff.mp hes
    · cases heq
      exact ⟨rfl, rfl, rfl⟩
    · cases heq

/-- An object is only created where there was no reference, or none to be found, and nothing was
stored before. -/
theorem Ensured.of_create {k' : Kind} {o : k.Object} {answer : Answer (.create k parent o)}
    {left : Left Action}
    (h : Ensured k' c spec s (es₁ ++ called (.create k parent o) answer :: es₂) left)
    (hqueued : b.queued = []) (hreplies : Replies Testbed.perform es₁ b b₁) :
    k' = .manager k ∧ parentOf (.manager k) s = some parent ∧
      b₁.plane.inventory.table (.manager k) = b.plane.inventory.table (.manager k) ∧
      ∀ r, s.reference (slot (.manager k)) = some r →
        ¬ b.plane.inventory.Holds (.manager k) ⟨parent, r.id⟩ := by
  generalize hes : es₁ ++ called (.create k parent o) answer :: es₂ = es at h
  cases h with
  | undrafted hdraft => cases (List.append_eq_nil_iff.mp hes).2
  | first hdraft href h =>
    subst hes
    obtain ⟨rfl, rfl, rfl⟩ := h.of_create
    rw [replies_nil.mp hreplies]
    exact ⟨rfl, parentOf_of_draft hdraft, rfl, fun r hset => nomatch href.symm.trans hset⟩
  | kept hdraft href hagrees =>
    obtain ⟨-, heq⟩ | ⟨-, heq⟩ := List.append_eq_singleton_iff.mp hes <;> cases heq
  | unread hdraft href he =>
    obtain ⟨-, heq⟩ | ⟨-, heq⟩ := List.append_eq_singleton_iff.mp hes <;> cases heq
  | changed hdraft href hagrees h =>
    obtain ⟨-, heq⟩ | ⟨es', rfl, heq⟩ := List.append_eq_cons_iff.mp hes
    · cases heq
    · have hmem := heq ▸ List.mem_append_right es' (.head _)
      cases h <;> cases List.mem_singleton.mp hmem
  | again hdraft href he h =>
    obtain ⟨-, heq⟩ | ⟨es', rfl, rfl⟩ := List.append_eq_cons_iff.mp hes
    · cases heq
    · obtain ⟨rfl, rfl, rfl⟩ := h.of_create
      have hanswer := Testbed.replies_called hqueued hreplies
      refine ⟨rfl, parentOf_of_draft hdraft, ?_, fun r hset => ?_⟩
      · rw [Simulator.inventory_of_answer_error hanswer]
      · rw [← Option.some.inj (href.symm.trans hset)]
        exact Inventory.find?_eq_none_iff.mp (Simulator.get_of_answer_notFound hanswer he)

/-- A task that succeeds creates an object that is not there. -/
theorem Ensured.creates {action : Action} (h : Ensured (.manager k) c spec s es (.ok action, s'))
    (hqueued : b.queued = []) (hreplies : Replies Testbed.perform es b b')
    (hparent : parentOf (.manager k) s = some parent)
    (hgone : ∀ r, s.reference (slot (.manager k)) = some r →
      ¬ b.plane.inventory.Holds (.manager k) ⟨parent, r.id⟩) :
    ∃ o answer, called (.create k parent o) answer ∈ es := by
  have hbuilt : ∀ {parent' : String} {o : k.Object} {es : List Event},
      draft c.identity spec s (.manager k) = .ok (parent', o) →
      Built parent' (opened (.manager k) s) (.manager k) o es (.ok action, s') →
      ∃ o answer, called (.create k parent o) answer ∈ es := by
    intro parent' o es hdraft h
    obtain rfl := Option.some.inj ((parentOf_of_draft hdraft).symm.trans hparent)
    cases h with
    | @created _ _ answer id hid => exact ⟨o, _, .head _⟩
  cases h with
  | first hdraft href h => exact hbuilt hdraft h
  | again hdraft href he h =>
    obtain ⟨o, answer, hmem⟩ := hbuilt hdraft h
    exact ⟨o, answer, .tail _ hmem⟩
  | @kept parent' o current r hdraft href hagrees =>
    obtain rfl := Option.some.inj ((parentOf_of_draft hdraft).symm.trans hparent)
    obtain ⟨hfind, -⟩ := Simulator.get_of_answer_ok (Testbed.replies_called hqueued hreplies)
    exact absurd (Inventory.holds_of_find? hfind) (hgone r href)
  | @changed parent' o current r es _ hdraft href hagrees h =>
    obtain rfl := Option.some.inj ((parentOf_of_draft hdraft).symm.trans hparent)
    obtain ⟨plane, hanswer, -⟩ := Testbed.replies_call hqueued hreplies
    obtain ⟨hfind, -⟩ := Simulator.get_of_answer_ok hanswer
    exact absurd (Inventory.holds_of_find? hfind) (hgone r href)

/-- Recovering creates nothing. -/
theorem not_mem_of_recoverIfLost {left : Left Unit} (h : (recoverIfLost t c s).Trace es left)
    {o : k.Object} {answer : Answer (.create k parent o)} :
    called (.create k parent o) answer ∉ es := fun hmem =>
  absurd (within_recoverIfLost h _ hmem (.table (.manager k)) (.head _)) List.not_mem_nil

/-- What is behind a recovery that went well, if it was enabled: an object that was adopted is
there, and otherwise the object is wanting if it is not there. -/
theorem recoverIfLost_wanting (hrecovery : c.recoveryEnabled = true) (hqueued : b.queued = [])
    (hi : b.plane.inventory.Indexed) (hparent : parentOf (.manager k) s = some parent)
    (h : b.run (recoverIfLost (.managed (.manager k)) c s) = (some (.ok (), s₁), b')) :
    b'.queued = [] ∧ b'.plane.inventory.table (.manager k) = b.plane.inventory.table (.manager k) ∧
      parentOf (.manager k) s₁ = some parent ∧
      ((∀ r, s₁.reference (slot (.manager k)) = some r →
        ¬ b.plane.inventory.Holds (.manager k) ⟨parent, r.id⟩) ↔
          Wanting c.identity k parent (b.plane, s)) := by
  obtain ⟨hqueued', -⟩ := recoverIfLost_same hqueued h
  obtain ⟨htable, hsame⟩ := recoverIfLost_still hqueued h
  refine ⟨hqueued', htable, hsame.trans hparent, ?_⟩
  cases href : s.reference (slot (.manager k)) with
  | some r =>
    rw [recoverIfLost_of_reference (t := .managed (.manager k)) href] at h
    obtain ⟨hleft, -⟩ := run_done_eq_some_iff.mp h
    obtain ⟨-, rfl⟩ := Prod.mk.inj hleft
    rw [wanting_iff_of_some href, href]
    simp only [Option.some.injEq, forall_eq']
  | none =>
    rw [recoverIfLost_of_lost hrecovery href] at h
    obtain ⟨left, b₁, h₁, h₂⟩ := run_bind_eq_some_iff.mp h
    obtain ⟨hleft, -⟩ := run_done_eq_some_iff.mp h₂
    have hlisting := (listingParent_eq_parentOf k s).trans hparent
    have hwanting : Wanting c.identity k parent (b.plane, s) ↔
        (b.plane.objectsOf k parent).find? (fun o => c.identity.isTagged (k.tags o)) = none := by
      rw [wanting_iff_of_none href]
      simp only [List.find?_eq_none, Bool.not_eq_true]
    rw [hwanting]
    rcases adopt_run hqueued hi hlisting h₁ with ⟨e, rfl⟩ | ⟨rfl, hnone⟩ | ⟨o, id, hfound, hid, rfl⟩
    · cases (Prod.mk.inj hleft).1
    · obtain ⟨-, rfl⟩ := Prod.mk.inj hleft
      exact iff_of_true (fun r hset => nomatch href.symm.trans hset) hnone
    · obtain ⟨-, rfl⟩ := Prod.mk.inj hleft
      refine iff_of_false (fun hgone => ?_) (by rw [hfound]; exact nofun)
      refine hgone _ (State.reference_withReference_self ..) ?_
      exact Simulator.holds_of_mem_objectsOf hi (fun hnested =>
        (pointsAt_of_parentOf hparent id).2 (ownerSlot_eq_none_iff.mpr hnested))
        (List.mem_of_find?_eq_some hfound) hid

/-- An event in one of two traces that follow each other. -/
theorem append_cons_eq_append {e : Event} (h : es₁ ++ e :: es₂ = es ++ es') :
    (∃ es₃, es = es₁ ++ e :: es₃ ∧ es₂ = es₃ ++ es') ∨
      ∃ es₃, es₁ = es ++ es₃ ∧ es' = es₃ ++ e :: es₂ := by
  obtain ⟨es₃, hes, hrest⟩ | hlater := List.append_eq_append_iff.mp h
  · obtain ⟨rfl, rfl⟩ | ⟨es₃, rfl, hes₂⟩ := List.cons_eq_append_iff.mp hrest
    · exact .inr ⟨[], by simpa using hes.symm, rfl⟩
    · exact .inl ⟨es₃, hes, hes₂⟩
  · exact .inr hlater

/-- **A task makes an object only if it is wanting** at that moment, if recovery is enabled. -/
theorem runTask_creates (hrecovery : c.recoveryEnabled = true) (hqueued : b.queued = [])
    (hi : b.plane.inventory.Indexed) {left : Left Action} {o : k.Object}
    {answer : Answer (.create k parent o)}
    (h : (runTask t c spec s).Trace (es₁ ++ called (.create k parent o) answer :: es₂) left)
    (hreplies : Replies Testbed.perform es₁ b b₁) :
    t = .managed (.manager k) ∧ parentOf (.manager k) s = some parent ∧
      b₁.plane.inventory.table (.manager k) = b.plane.inventory.table (.manager k) ∧
      Wanting c.identity k parent (b₁.plane, s) := by
  obtain rfl : t = .managed (.manager k) := eq_managed_of_table_mem_touches
    (within_runTask h _ (List.mem_append_right _ (.head _)) (.table (.manager k)) (.head _))
  rw [runTask, bind_eq, trace_bind_iff] at h
  obtain ⟨es, es', ⟨recovered, s₁⟩, hes, h₁, h₂⟩ := h
  obtain ⟨es₃, rfl, -⟩ | ⟨es₃, rfl, rfl⟩ := append_cons_eq_append hes
  · exact absurd (List.mem_append_right _ (.head _)) (not_mem_of_recoverIfLost h₁)
  obtain ⟨b₀, hreplies₁, hreplies₂⟩ := replies_append.mp hreplies
  cases recovered with
  | error e => cases (List.append_eq_nil_iff.mp (trace_done_iff.mp h₂).1).2
  | ok done =>
    obtain ⟨left', h₃, -⟩ := trace_bind_done_iff.mp h₂
    have hrun := run_eq_some_iff.mpr ⟨es, h₁, hreplies₁⟩
    have hqueued₀ := (recoverIfLost_same hqueued hrun).1
    obtain ⟨-, hparent, htable₁, hgone⟩ := (ensured_of_trace h₃).of_create hqueued₀ hreplies₂
    have hparent' := (recoverIfLost_still hqueued hrun).2.symm.trans hparent
    obtain ⟨-, htable, -, hiff⟩ := recoverIfLost_wanting hrecovery hqueued hi hparent' hrun
    have hwanting : Wanting c.identity k parent (b.plane, s) := hiff.mp fun r href hholds =>
      hgone r href ((Inventory.holds_of_table_eq htable).mpr hholds)
    have hbefore := htable₁.trans htable
    exact ⟨rfl, hparent', hbefore, hwanting.congr rfl hbefore⟩

/-- **A task that succeeds makes an object that is wanting**, if recovery is enabled. -/
theorem creates_runTask (hrecovery : c.recoveryEnabled = true) (hqueued : b.queued = [])
    (hi : b.plane.inventory.Indexed) {action : Action}
    (h : (runTask (.managed (.manager k)) c spec s).Trace es (.ok action, s'))
    (hreplies : Replies Testbed.perform es b b') (hparent : parentOf (.manager k) s = some parent)
    (hwanting : Wanting c.identity k parent (b.plane, s)) :
    ∃ o answer, called (.create k parent o) answer ∈ es := by
  rw [runTask, bind_eq, trace_bind_iff] at h
  obtain ⟨es₁, es₂, ⟨recovered, s₁⟩, rfl, h₁, h₂⟩ := h
  obtain ⟨b₁, hreplies₁, hreplies₂⟩ := replies_append.mp hreplies
  cases recovered with
  | error e => cases (Prod.mk.inj (trace_done_iff.mp h₂).2).1
  | ok done =>
    obtain ⟨⟨result, s₂⟩, h₃, hleft⟩ := trace_bind_done_iff.mp h₂
    cases result with
    | error e => cases (Prod.mk.inj hleft).1
    | ok action' =>
      have hrun := run_eq_some_iff.mpr ⟨es₁, h₁, hreplies₁⟩
      obtain ⟨hqueued₁, htable, hparent₁, hiff⟩ :=
        recoverIfLost_wanting hrecovery hqueued hi hparent hrun
      obtain ⟨o, answer, hmem⟩ := (ensured_of_trace h₃).creates hqueued₁ hreplies₂ hparent₁
        fun r href hholds => hiff.mpr hwanting r href
          ((Inventory.holds_of_table_eq htable).mp hholds)
      exact ⟨o, answer, List.mem_append_right _ hmem⟩

/-! ### Runs -/

/-- A task that looks after other objects does not change whether an object is wanting. -/
theorem wanting_runTask_of_ne {left : Left Action} (hqueued : b.queued = [])
    (h : b.run (runTask t c spec s) = (some left, b')) (ht : t ≠ .managed (.manager k)) :
    Wanting c.identity k parent (b.plane, s) ↔ Wanting c.identity k parent (b'.plane, left.2) := by
  obtain ⟨es, htrace, -⟩ := run_eq_some_iff.mp h
  have htable := table_runTask_of_ne hqueued h ht
  have hslot := (runTask_advanced htrace).1.others (slot (.manager k)) fun hown =>
    ht (Task.slot_injective hown)
  exact ⟨fun hw => hw.congr hslot htable, fun hw => hw.congr hslot.symm htable.symm⟩

/-- The owner of what a task looks after is not written behind it. -/
theorem parentOf_runTasks {k : Kind} {left : Left (List Outcome)}
    (hundisturbed : ∀ t ∈ ts, ∀ res ∈ (Task.managed k).reads, res ∉ t.writes)
    (hqueued : b.queued = []) (h : b.run (runTasks c spec ts s) = (some left, b')) :
    parentOf k left.2 = parentOf k s := by
  have hreads : ∀ slot', ownerSlot k = some slot' → .slot slot' ∈ (Task.managed k).reads := by
    intro slot' howner
    refine (mem_reads_managed k).2.2.1 slot' ?_
    revert howner
    revert slot'
    rcases k with k | k <;> cases k <;> decide
  refine parentOf_congr fun slot' howner => (runTasks_confined hqueued h).2 (.slot slot') ?_
  intro hmem
  obtain ⟨t, ht, hwritten⟩ := List.mem_flatMap.mp hmem
  exact hundisturbed t ht _ (hreads slot' howner) hwritten

/-- What its own task leaves of the owner of an object. -/
theorem parentOf_runTask_self {k : Kind} {left : Left Action}
    (h : (runTask (.managed k) c spec s).Trace es left) : parentOf k left.2 = parentOf k s :=
  parentOf_congr fun slot' howner => (runTask_advanced h).1.others slot' fun hown =>
    ownerSlot_ne_slot k (howner.trans hown.symm)

/-- **What tasks newly store is referred to afterwards**, whatever was known before. -/
theorem runTasks_holds {k : Kind} {place : Place} {left : Left (List Outcome)}
    (hundisturbed : Undisturbed ts) (hqueued : b.queued = [])
    (h : b.run (runTasks c spec ts s) = (some left, b'))
    (hholds : b'.plane.inventory.Holds k place) :
    b.plane.inventory.Holds k place ∨ Refers left.2 k place := by
  induction ts generalizing b s left with
  | nil =>
    obtain ⟨rfl, rfl⟩ := run_done_eq_some_iff.mp h
    exact .inl hholds
  | cons t ts ih =>
    obtain ⟨hbehind, hundisturbed'⟩ := List.pairwise_cons.mp hundisturbed
    obtain ⟨⟨result, s₁⟩, b₁, h₁, h₂⟩ := run_bind_eq_some_iff.mp h
    obtain ⟨es, htrace, -⟩ := run_eq_some_iff.mp h₁
    have hfirst : b₁.plane.inventory.Holds k place →
        b.plane.inventory.Holds k place ∨ t = .managed k ∧ Refers s₁ k place := by
      intro hheld
      rcases runTask_holds hqueued h₁ hheld with hold | ⟨rfl, hparent, href⟩
      · exact .inl hold
      · exact .inr ⟨rfl, href, (parentOf_runTask_self htrace).trans hparent⟩
    cases result with
    | error e =>
      obtain ⟨rfl, rfl⟩ := run_done_eq_some_iff.mp h₂
      exact (hfirst hholds).imp_right And.right
    | ok action =>
      have hqueued₁ := (runTask_confined hqueued h₁).1
      obtain ⟨⟨rest, s₂⟩, b₂, h₃, h₄⟩ := run_bind_eq_some_iff.mp h₂
      obtain ⟨rfl, rfl⟩ := run_done_eq_some_iff.mp h₄
      rcases ih hundisturbed' hqueued₁ h₃ with hheld | hrefers
      · refine (hfirst hheld).imp_right ?_
        rintro ⟨rfl, href, hparent⟩
        -- Neither the reference nor the owner is written by the tasks behind.
        have hkept : s₂.reference (slot k) = s₁.reference (slot k) := by
          refine (runTasks_confined hqueued₁ h₃).2 (.slot (slot k)) fun hmem => ?_
          obtain ⟨t', ht', hwritten⟩ := List.mem_flatMap.mp hmem
          exact hbehind t' ht' _ (mem_reads_managed k).1 hwritten
        exact ⟨hkept.trans href, (parentOf_runTasks hbehind hqueued₁ h₃).trans hparent⟩
      · exact .inr hrefers

/-- **What a run newly stores is referred to afterwards.** -/
theorem run_holds {g : Generation} {k : Kind} {place : Place} {left : Left (List Outcome)}
    (hqueued : b.queued = []) (h : b.run (run g c spec s) = (some left, b'))
    (hholds : b'.plane.inventory.Holds k place) :
    b.plane.inventory.Holds k place ∨ Refers left.2 k place := by
  rw [run] at h
  split at h
  · obtain ⟨rfl, rfl⟩ := run_done_eq_some_iff.mp h
    exact .inl hholds
  · exact runTasks_holds (undisturbed_tasks g) hqueued h hholds

/-- Going through tasks is going through the first, and through the others if it succeeds. -/
theorem trace_runTasks_cons {left : Left (List Outcome)}
    (h : (runTasks c spec (t :: ts) s).Trace es left) :
    ∃ es₁ es₂ first, es = es₁ ++ es₂ ∧ (runTask t c spec s).Trace es₁ first ∧
      ((es₂ = [] ∧ left.2 = first.2 ∧ left.1.isOk = false) ∨
        first.1.isOk = true ∧ ∃ rest, (runTasks c spec ts first.2).Trace es₂ (rest, left.2) ∧
          rest.isOk = left.1.isOk) := by
  rw [runTasks, bind_eq, trace_bind_iff] at h
  obtain ⟨es₁, es₂, ⟨result, s₁⟩, rfl, h₁, h₂⟩ := h
  refine ⟨es₁, es₂, (result, s₁), rfl, h₁, ?_⟩
  cases result with
  | error e =>
    obtain ⟨rfl, rfl⟩ := trace_done_iff.mp h₂
    exact .inl ⟨rfl, rfl, rfl⟩
  | ok action =>
    obtain ⟨⟨rest, s₂⟩, h₃, rfl⟩ := trace_bind_done_iff.mp h₂
    exact .inr ⟨rfl, rest, h₃, by cases rest <;> rfl⟩

/-- Tasks make objects only if they are wanting at that moment, for the state they began with. -/
theorem runTasks_creates (hrecovery : c.recoveryEnabled = true) (hundisturbed : Undisturbed ts)
    (hnodup : ts.Nodup) (hqueued : b.queued = []) (hi : b.plane.inventory.Indexed)
    {left : Left (List Outcome)} {o : k.Object} {answer : Answer (.create k parent o)}
    (h : (runTasks c spec ts s).Trace (es₁ ++ called (.create k parent o) answer :: es₂) left)
    (hreplies₁ : Replies Testbed.perform es₁ b b₁)
    (hreplies₂ : Replies Testbed.perform (called (.create k parent o) answer :: es₂) b₁ b') :
    .managed (.manager k) ∈ ts ∧ parentOf (.manager k) left.2 = some parent ∧
      b₁.plane.inventory.table (.manager k) = b.plane.inventory.table (.manager k) ∧
      Wanting c.identity k parent (b₁.plane, s) := by
  induction ts generalizing b s es₁ left with
  | nil => cases (List.append_eq_nil_iff.mp (trace_done_iff.mp h).1).2
  | cons t ts ih =>
    obtain ⟨hbehind, hundisturbed'⟩ := List.pairwise_cons.mp hundisturbed
    obtain ⟨hnot, hnodup'⟩ := List.nodup_cons.mp hnodup
    obtain ⟨es, es', first, hes, h₁, hrest⟩ := trace_runTasks_cons h
    obtain ⟨b₀, hreplies, hreplies'⟩ :=
      replies_append.mp (hes ▸ replies_append.mpr ⟨b₁, hreplies₁, hreplies₂⟩)
    have hrun := run_eq_some_iff.mpr ⟨es, h₁, hreplies⟩
    have hqueued₀ := (runTask_confined hqueued hrun).1
    obtain ⟨es₃, rfl, -⟩ | ⟨es₃, rfl, rfl⟩ := append_cons_eq_append hes
    · obtain ⟨rfl, hparent, hbefore, hwanting⟩ :=
        runTask_creates hrecovery hqueued hi h₁ hreplies₁
      refine ⟨.head _, ?_, hbefore, hwanting⟩
      have hself := (parentOf_runTask_self h₁).trans hparent
      rcases hrest with ⟨-, hleft, -⟩ | ⟨-, rest, h₂, -⟩
      · rw [hleft]
        exact hself
      · exact (parentOf_runTasks hbehind hqueued₀
          (run_eq_some_iff.mpr ⟨es', h₂, hreplies'⟩)).trans hself
    · rcases hrest with ⟨hnil, -, -⟩ | ⟨-, rest, h₂, -⟩
      · cases (List.append_eq_nil_iff.mp hnil).2
      · have hi₀ := (runTask_stocked hqueued hrun hi).indexed
        obtain ⟨b₂, hreplies₃, hreplies₄⟩ := replies_append.mp hreplies₁
        obtain rfl : b₂ = b₀ := hreplies₃.deterministic hreplies
        obtain ⟨hlater, hparent, hbefore, hwanting⟩ :=
          ih hundisturbed' hnodup' hqueued₀ hi₀ h₂ hreplies₄
        have hother : t ≠ .managed (.manager k) := fun heq => hnot (heq ▸ hlater)
        have htable := table_runTask_of_ne hqueued hrun hother
        have hslot := (runTask_advanced h₁).1.others (slot (.manager k)) fun hown =>
          hother (Task.slot_injective hown)
        exact ⟨.tail _ hlater, hparent, hbefore.trans htable, hwanting.congr hslot.symm rfl⟩

/-- Tasks that succeed make the objects that are wanting when the first of them begins. -/
theorem creates_runTasks (hrecovery : c.recoveryEnabled = true) (hundisturbed : Undisturbed ts)
    (hqueued : b.queued = []) (hi : b.plane.inventory.Indexed) {left : Left (List Outcome)}
    (h : (runTasks c spec ts s).Trace es left) (hok : left.1.isOk = true)
    (hreplies : Replies Testbed.perform es b b') (hmem : .managed (.manager k) ∈ ts)
    (hparent : parentOf (.manager k) left.2 = some parent)
    (hwanting : Wanting c.identity k parent (b.plane, s)) :
    ∃ o answer, called (.create k parent o) answer ∈ es := by
  induction ts generalizing b s es left with
  | nil => cases hmem
  | cons t ts ih =>
    obtain ⟨hbehind, hundisturbed'⟩ := List.pairwise_cons.mp hundisturbed
    obtain ⟨es₁, es₂, ⟨result, s₁⟩, rfl, h₁, hrest⟩ := trace_runTasks_cons h
    obtain ⟨b₁, hreplies₁, hreplies₂⟩ := replies_append.mp hreplies
    have hrun := run_eq_some_iff.mpr ⟨es₁, h₁, hreplies₁⟩
    have hqueued₁ := (runTask_confined hqueued hrun).1
    rcases hrest with ⟨-, -, hfailed⟩ | ⟨hfirst, rest, h₂, hrest⟩
    · cases hfailed.symm.trans hok
    · by_cases ht : t = .managed (.manager k)
      · subst ht
        have hafter := parentOf_runTasks hbehind hqueued₁
          (run_eq_some_iff.mpr ⟨es₂, h₂, hreplies₂⟩)
        have hbefore := (parentOf_runTask_self h₁).symm.trans (hafter.symm.trans hparent)
        cases result with
        | error e => cases hfirst
        | ok action =>
          obtain ⟨o, answer, hcreate⟩ :=
            creates_runTask hrecovery hqueued hi h₁ hreplies₁ hbefore hwanting
          exact ⟨o, answer, List.mem_append_left _ hcreate⟩
      · have hi₁ := (runTask_stocked hqueued hrun hi).indexed
        have hlater := (List.mem_cons.mp hmem).resolve_left fun heq => ht heq.symm
        have hwanting₁ := (wanting_runTask_of_ne hqueued hrun ht).mp hwanting
        obtain ⟨o, answer, hcreate⟩ := ih hundisturbed' hqueued₁ hi₁ h₂ (hrest.trans hok) hreplies₂
          hlater hparent hwanting₁
        exact ⟨o, answer, List.mem_append_right _ hcreate⟩

/-- A run that succeeds goes through its tasks. -/
theorem trace_runTasks_of_isOk {left : Left (List Outcome)} (h : (run g c spec s).Trace es left)
    (hok : left.1.isOk = true) : (runTasks c spec (tasks g) s).Trace es left := by
  rw [run] at h
  split at h
  · obtain ⟨rfl, rfl⟩ := trace_done_iff.mp h
    cases hok
  · exact h

theorem managed_mem_tasks (k : ManagerKind) : Task.managed (.manager k) ∈ tasks .v2 := by
  cases k <;> decide

/-- **When a run makes a manager object**, if recovery is enabled. Whatever the control plane holds,
whatever is known of the cluster and wherever the run stops: it asks for an object of a kind to be
created only at a moment at which that object is wanting for the state the run began with. That is,
there was no reference, and of no object under the owner are the last garden tag and the last
cluster tag those of the cluster; or there was a reference, and nothing under the owner has its id.
No object of the kind has been stored since the run began. So if an object under the owner carries
the tags of the cluster, and those of no other one, another one is created only where there was a
reference and nothing under the owner has its id. If the run succeeds, it creates what was wanting
when it began. -/
theorem run_creates (c : Context) (spec : Spec) (s : State) (b b' : Testbed)
    (hrecovery : c.recoveryEnabled = true) (hqueued : b.queued = [])
    (hi : b.plane.inventory.Indexed) (es : List Event) (left : Left (List Outcome))
    (h : (run .v2 c spec s).Trace es left) (hreplies : Replies Testbed.perform es b b')
    (k : ManagerKind) (parent : String) :
    (∀ o answer es₁ es₂ b₁, es = es₁ ++ called (.create k parent o) answer :: es₂ →
      Replies Testbed.perform es₁ b b₁ →
      parentOf (.manager k) left.2 = some parent ∧
      b₁.plane.inventory.table (.manager k) = b.plane.inventory.table (.manager k) ∧
      Wanting c.identity k parent (b₁.plane, s) ∧
      ∀ o' ∈ b₁.plane.objectsOf k parent, c.identity.tags ⊆ k.tags o' → NamesOne (k.tags o') →
        ∃ r, s.reference (slot (.manager k)) = some r ∧
          ¬ b₁.plane.inventory.Holds (.manager k) ⟨parent, r.id⟩) ∧
    (left.1.isOk = true → parentOf (.manager k) left.2 = some parent →
      Wanting c.identity k parent (b.plane, s) →
        ∃ o answer, called (.create k parent o) answer ∈ es) := by
  refine ⟨fun o answer es₁ es₂ b₁ hes hreplies₁ => ?_, fun hok hparent hwanting => ?_⟩
  · subst hes
    rw [run] at h
    split at h
    · cases (List.append_eq_nil_iff.mp (trace_done_iff.mp h).1).2
    · obtain ⟨b₂, hreplies₂, hreplies₃⟩ := replies_append.mp hreplies
      obtain rfl : b₂ = b₁ := hreplies₂.deterministic hreplies₁
      obtain ⟨-, hparent, hbefore, hwanting⟩ := runTasks_creates hrecovery (undisturbed_tasks .v2)
        (by decide) hqueued hi h hreplies₁ hreplies₃
      exact ⟨hparent, hbefore, hwanting, fun o' hmem => hwanting.exists_stale hmem⟩
  · exact creates_runTasks hrecovery (undisturbed_tasks .v2) hqueued hi
      (trace_runTasks_of_isOk h hok) hok hreplies (managed_mem_tasks k) hparent hwanting

/-! ### Two objects of a kind -/

/-- Whether a run asks for an object of a kind to be created while another one is there. -/
def CreatesBeside (c : Context) (spec : Spec) (s : State) (b : Testbed) (k : ManagerKind)
    (parent : String) (o : k.Object) : Prop :=
  ∃ es left b', (run .v2 c spec s).Trace es left ∧ Replies Testbed.perform es b b' ∧
    ∃ made answer es₁ es₂ b₁, es = es₁ ++ called (.create k parent made) answer :: es₂ ∧
      Replies Testbed.perform es₁ b b₁ ∧ o ∈ b₁.plane.objectsOf k parent

/-- What a run that succeeds has done, where the objects that are its own are under an owner. -/
theorem exists_trace_of_isOk (hok : (b.run (run .v2 c spec s)).1.any (fun left =>
      left.1.isOk && parentOf (.manager k) left.2 == some parent) = true) :
    ∃ es left b', (run .v2 c spec s).Trace es left ∧ Replies Testbed.perform es b b' ∧
      left.1.isOk = true ∧ parentOf (.manager k) left.2 = some parent := by
  obtain ⟨left, hleft, hresult⟩ := (Option.any_eq_true _ _).mp hok
  obtain ⟨hok, hparent⟩ := Bool.and_eq_true_iff.mp hresult
  obtain ⟨es, htrace, hreplies⟩ := run_eq_some_iff.mp
    (show (run .v2 c spec s).run Testbed.perform b = (some left, _) from Prod.ext hleft rfl)
  exact ⟨es, left, _, htrace, hreplies, hok, eq_of_beq hparent⟩

/-- What is there where an object is wanting stays there until that object is made. -/
theorem CreatesBeside.of_wanting {o : k.Object} (hrecovery : c.recoveryEnabled = true)
    (hqueued : b.queued = []) (hi : b.plane.inventory.Indexed)
    (hok : (b.run (run .v2 c spec s)).1.any (fun left =>
      left.1.isOk && parentOf (.manager k) left.2 == some parent) = true)
    (hwanting : Wanting c.identity k parent (b.plane, s)) (hmem : o ∈ b.plane.objectsOf k parent) :
    CreatesBeside c spec s b k parent o := by
  obtain ⟨es, left, b', htrace, hreplies, hok, hparent⟩ := exists_trace_of_isOk hok
  have htasks := trace_runTasks_of_isOk htrace hok
  obtain ⟨made, answer, hcreate⟩ := creates_runTasks hrecovery (undisturbed_tasks .v2) hqueued hi
    htasks hok hreplies (managed_mem_tasks k) hparent hwanting
  obtain ⟨es₁, es₂, rfl⟩ := List.append_of_mem hcreate
  obtain ⟨b₁, hreplies₁, hreplies₂⟩ := replies_append.mp hreplies
  obtain ⟨-, -, hbefore, -⟩ := runTasks_creates hrecovery (undisturbed_tasks .v2) (by decide)
    hqueued hi htasks hreplies₁ hreplies₂
  refine ⟨_, left, b', htrace, hreplies, made, answer, es₁, es₂, b₁, rfl, hreplies₁, ?_⟩
  rwa [Simulator.objectsOf, hbefore]

/-- A region in which there is a DHCP profile with some tags. -/
def profileThere (tags : List Tag) : Testbed where
  plane := (({} : Simulator).withRegion.addProfile { tags }).2

/-- A state that refers to another profile, which is gone. -/
def profileGone : State :=
  State.fresh.withReference .dhcpProfile (some ⟨"gone", ManagerKind.dhcpProfile.path ⟨"", "gone"⟩⟩)

theorem indexed_profileThere (tags : List Tag) : (profileThere tags).plane.inventory.Indexed :=
  Inventory.indexed_empty.put_manager rfl fun _ => rfl

theorem wanting_profileGone (tags : List Tag) : Wanting typicalCluster.identity .dhcpProfile ""
    ((profileThere tags).plane, profileGone) :=
  .stale rfl (Inventory.find?_eq_none_iff.mp rfl)

theorem run_creates_profileThere :
    let b := profileThere typicalCluster.identity.tags
    recovering.recoveryEnabled = true ∧ b.queued = [] ∧
    b.plane.inventory.Indexed ∧ ∃ es left b',
      (run .v2 recovering typicalCluster profileGone).Trace es left ∧
      Replies Testbed.perform es b b' ∧
      ∃ o answer, called (.create .dhcpProfile "" o) answer ∈ es := by
  intro b
  have hends : (b.run (run .v2 recovering typicalCluster profileGone)).1.any (fun left =>
      left.1.isOk && parentOf (.manager .dhcpProfile) left.2 == some "") = true := by
    decide +kernel
  obtain ⟨es, left, b', htrace, hreplies, hok, hparent⟩ := exists_trace_of_isOk hends
  refine ⟨rfl, rfl, indexed_profileThere _, es, left, b', htrace, hreplies, ?_⟩
  exact (run_creates recovering typicalCluster profileGone b b' rfl rfl (indexed_profileThere _) es
    left htrace hreplies .dhcpProfile "").2 hok hparent (wanting_profileGone _)

/-- The tags of a cluster, and another garden tag behind them. -/
def retagged : List Tag := typicalCluster.identity.tags ++ [⟨gardenScope, "park"⟩]

/-- Two DHCP servers, each with a pool. Those that were made last carry the tags of the cluster. -/
def twoServers : Inventory :=
  let tags := typicalCluster.identity.tags
  let revision := some 0
  let server (id : String) (tags : List Tag) : DhcpServer :=
    { id := some id, dhcpProfileId := some "profile", tags, revision }
  let profiled := ({} : Inventory).put (.manager .dhcpProfile) ⟨"", "profile"⟩
    { id := some "profile", revision }
  let old := profiled.put (.manager .dhcpServer) ⟨"", "old"⟩ (server "old" [])
  let known := old.put (.manager .dhcpIpPool) ⟨"old", "known"⟩ { id := some "known", revision }
  let new := known.put (.manager .dhcpServer) ⟨"", "new"⟩ (server "new" tags)
  new.put (.manager .dhcpIpPool) ⟨"new", "other"⟩ { id := some "other", tags, revision }

/-- A region in which they are. -/
def serversThere : Testbed where
  plane := { ({} : Simulator).withRegion with inventory := twoServers }

/-- A state that refers to the pool of the old server, and to no server. -/
def serverLost : State :=
  State.fresh.withReference .dhcpIpPool
    (some ⟨"known", ManagerKind.dhcpIpPool.path ⟨"old", "known"⟩⟩)

theorem indexed_serversThere : serversThere.plane.inventory.Indexed := by
  refine Inventory.Indexed.put_manager ?_ rfl nofun
  refine Inventory.Indexed.put_manager ?_ rfl fun _ => rfl
  refine Inventory.Indexed.put_manager ?_ rfl nofun
  refine Inventory.Indexed.put_manager ?_ rfl fun _ => rfl
  exact Inventory.indexed_empty.put_manager rfl fun _ => rfl

/-- **A second object is made** although recovery is enabled. In the first run, the reference is
stale, so the task does not look for the tags of the profile that is there. In the second, it looks
for them, but does not find them in front of another garden tag. In the third, the pool that is
referred to exists, but under the server that the cluster had before. -/
theorem run_duplicates : recovering.recoveryEnabled = true ∧
    (∃ o, CreatesBeside recovering typicalCluster profileGone
        (profileThere typicalCluster.identity.tags) .dhcpProfile "" o ∧
      typicalCluster.identity.isTagged (ManagerKind.dhcpProfile.tags o) = true) ∧
    (∃ o, CreatesBeside recovering typicalCluster .fresh (profileThere retagged) .dhcpProfile "" o ∧
      typicalCluster.identity.tags ⊆ ManagerKind.dhcpProfile.tags o) ∧
    ∃ o r, CreatesBeside recovering typicalCluster serverLost serversThere .dhcpIpPool "new" o ∧
      typicalCluster.identity.isTagged (ManagerKind.dhcpIpPool.tags o) = true ∧
      serverLost.reference (slot (.manager .dhcpIpPool)) = some r ∧
      serversThere.plane.inventory.Holds (.manager .dhcpIpPool) ⟨"old", r.id⟩ := by
  refine ⟨rfl, ⟨_, .of_wanting rfl rfl (indexed_profileThere _) (by decide +kernel)
      (wanting_profileGone _) (.head _), ClusterIdentity.isTagged_tags _⟩,
    ⟨_, .of_wanting rfl rfl (indexed_profileThere _) (by decide +kernel) ?_ (.head _),
      List.subset_append_left _ _⟩,
    ⟨_, _, .of_wanting rfl rfl indexed_serversThere (by decide +kernel) ?_ (.head _),
      ClusterIdentity.isTagged_tags _, rfl, ?_⟩⟩
  · exact .lost rfl (List.forall_mem_singleton.mpr (by decide))
  · exact .stale rfl (Inventory.find?_eq_none_iff.mp rfl)
  · exact Inventory.holds_of_find? rfl

end Pipeline

end ClusterNet
