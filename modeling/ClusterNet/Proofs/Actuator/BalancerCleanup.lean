import ClusterNet.Actuator.BalancerCleanup
import ClusterNet.Proofs.ControlPlane.Inventory
import ClusterNet.Proofs.ControlPlane.Paging
import ClusterNet.Proofs.Pipeline.Footprint

/-!
# The cleanup of load balancers comes to an end

What a cleanup achieves is not relied on, and its errors are ignored. All that counts is that it
comes to an end and touches nothing but the load-balancer objects, of which no work ever makes
more.

## Main definitions

* `Actuator.FitsRounds` — the load-balancer objects of a control plane are few enough

## Main results

* `Actuator.FitsRounds.replies` — work does not add load-balancer objects
* `Actuator.within_cleanUpBalancers`, `Actuator.cleanUpBalancers_same` — a cleanup touches nothing
  but them
* `Actuator.cleanUpBalancers_finishes` — it comes to an end if no failure is due
-/

namespace ClusterNet

namespace Actuator

open ControlPlane Program
open Pipeline (Event Within within_append within_call within_cons within_nil)

variable {b b' : ControlPlane.Testbed} {rounds : Nat}

/-! ### The number of objects -/

/-- Whether the load-balancer objects of a control plane are few enough to be listed. -/
def FitsRounds (rounds : Nat) (plane : Simulator) : Prop :=
  ∀ k, (plane.balancers.get k).length < rounds ∧ (plane.balancers.get k).length < UInt64.size

theorem FitsRounds.of_le {plane plane' : Simulator} (h : FitsRounds rounds plane)
    (hle : ∀ k, (plane'.balancers.get k).length ≤ (plane.balancers.get k).length) :
    FitsRounds rounds plane' :=
  fun k => ⟨Nat.lt_of_le_of_lt (hle k) (h k).1, Nat.lt_of_le_of_lt (hle k) (h k).2⟩

/-- No request adds a load-balancer object. -/
theorem length_balancers_answer (r : Request) (plane : Simulator) (k : BalancerKind) :
    ((Simulator.answer r plane).2.balancers.get k).length ≤ (plane.balancers.get k).length := by
  have hsame : Part.balancers ∉ r.touches →
      ((Simulator.answer r plane).2.balancers.get k).length ≤ (plane.balancers.get k).length := by
    intro hnot
    have hbalancers : (Simulator.answer r plane).2.balancers = plane.balancers :=
      Simulator.answer_same hnot plane
    rw [hbalancers]
  cases r with
  | deleteBalancer k' id =>
    rcases Simulator.answer_cases (.deleteBalancer k' id) plane with ⟨-, hfailed⟩ | ⟨-, hserved⟩
    · rw [hfailed]
      exact Nat.le_refl _
    · rw [hserved, Simulator.serve, Simulator.deleteBalancer]
      split
      · show ((plane.balancers.set k' _).get k).length ≤ _
        by_cases hk : k = k'
        · rw [hk, Balancers.get_set_self]
          exact List.length_filter_le ..
        · rw [Balancers.get_set_of_ne _ hk]
      · exact Nat.le_refl _
  | patch k' place o =>
    refine hsame (List.not_mem_cons_of_ne_of_not_mem (fun h => by cases h) ?_)
    cases k' <;> decide
  | delete k' place =>
    refine hsame (List.not_mem_cons_of_ne_of_not_mem (fun h => by cases h) ?_)
    rcases k' with k' | k' <;> cases k' <;> decide
  | create k' parent o => exact hsame fun h => by cases List.mem_singleton.mp h
  | update k' place o => exact hsame fun h => by cases List.mem_singleton.mp h
  | listRealized _ => exact hsame fun h => by cases List.mem_singleton.mp h
  | listCatalog _ _ | get _ _ | list _ _ _ | listSwitches _ | listBalancers _ _ =>
    exact hsame List.not_mem_nil

/-- **No work adds load-balancer objects.** -/
theorem FitsRounds.replies (h : FitsRounds rounds b.plane) {es : List Event}
    (hreplies : Replies Testbed.perform es b b') (hqueued : b.queued = []) :
    FitsRounds rounds b'.plane := by
  induction es generalizing b with
  | nil =>
    rw [replies_nil.mp hreplies]
    exact h
  | cons e es ih =>
    refine ih ?_ hreplies.2 (Testbed.queued_perform hqueued e.1)
    obtain ⟨e, answer⟩ := e
    cases e with
    | call r =>
      rw [Testbed.perform_call hqueued]
      exact h.of_le (length_balancers_answer r b.plane)
    | drawId | sleep _ => exact h

/-! ### What is touched -/

theorem within_deleteBalancers {k : BalancerKind} {os : List PolicyObject} {count : Nat}
    {es : List Event} {result : Except ApiError Nat}
    (h : (deleteBalancers k os count).Trace es result) : Within [.balancers] es := by
  induction os generalizing count es with
  | nil =>
    rw [(trace_done_iff.mp h).1]
    exact within_nil _
  | cons o os ih =>
    obtain ⟨answer, es₁, rfl, h₁⟩ := trace_request_bind_iff.mp h
    refine within_cons (List.Subset.refl _) ?_
    split at h₁
    · exact ih h₁
    · split at h₁
      · exact ih h₁
      · rw [(trace_done_iff.mp h₁).1]
        exact within_nil _

/-- Collecting makes no other requests than for pages. -/
theorem within_collect {α : Type}
    {fetch : Option String → ControlPlane.Work (Except ApiError (Page α))}
    (hfetch : ∀ {cursor es answer}, (fetch cursor).Trace es answer → Within [] es)
    {wanted : α → Bool} {pages : Nat} {es : List Event}
    {found : Except ApiError (List α)} (h : (collect fetch wanted pages).Trace es found) :
    Within [] es := by
  refine trace_loop_forall (fun earlier es' next h' => ?_) h
  rw [collectOnPage, trace_bind_iff] at h'
  obtain ⟨es₁, es₂, answer, rfl, h₁, h₂⟩ := h'
  refine within_append (hfetch h₁) ?_
  cases answer with
  | error e =>
    rw [(trace_done_iff.mp h₂).1]
    exact within_nil _
  | ok page =>
    dsimp only at h₂
    split at h₂ <;> (rw [(trace_done_iff.mp h₂).1]; exact within_nil _)

theorem within_cleanUpKinds {tag : Tag} {pages : Nat} {ks : List BalancerKind} {count : Nat}
    {es : List Event} {result : Except ApiError Nat}
    (h : (cleanUpKinds tag pages ks count).Trace es result) : Within [.balancers] es := by
  induction ks generalizing count es with
  | nil =>
    rw [(trace_done_iff.mp h).1]
    exact within_nil _
  | cons k ks ih =>
    rw [cleanUpKinds, bind_eq, trace_bind_iff] at h
    obtain ⟨es₁, es₂, owned, rfl, h₁, h₂⟩ := h
    have hlisted := (within_collect (within_call rfl) h₁).mono (List.nil_subset [.balancers])
    refine within_append hlisted ?_
    cases owned with
    | error e =>
      rw [(trace_done_iff.mp h₂).1]
      exact within_nil _
    | ok owned =>
      dsimp only at h₂
      rw [bind_eq, trace_bind_iff] at h₂
      obtain ⟨es₃, es₄, deleted, rfl, h₃, h₄⟩ := h₂
      refine within_append (within_deleteBalancers h₃) ?_
      cases deleted with
      | error e =>
        rw [(trace_done_iff.mp h₄).1]
        exact within_nil _
      | ok count => exact ih h₄

/-- **A cleanup touches nothing but load-balancer objects.** -/
theorem within_cleanUpBalancers {scope clusterName : String} {pages : Nat}
    {es : List Event} {result : Except ApiError Nat}
    (h : (cleanUpBalancers scope clusterName pages).Trace es result) :
    Within [.balancers] es :=
  within_cleanUpKinds h

/-- What a cleanup does not touch is as it was. -/
theorem cleanUpBalancers_same {scope clusterName : String} {pages : Nat}
    {result : Except ApiError Nat} (hqueued : b.queued = [])
    (h : b.run (cleanUpBalancers scope clusterName pages) = (some result, b')) :
    b'.queued = [] ∧ ∀ part : Part, part ≠ .balancers → part.Same b.plane b'.plane := by
  obtain ⟨es, htrace, hreplies⟩ := run_eq_some_iff.mp h
  obtain ⟨hqueued', hsame⟩ := Testbed.replies_same hreplies hqueued
  refine ⟨hqueued', fun part hne => hsame part fun e hmem hpart => hne ?_⟩
  exact List.mem_singleton.mp (within_cleanUpBalancers htrace e hmem part hpart)

/-- **No created object comes or goes in a cleanup.** -/
theorem cleanUpBalancers_holds {scope clusterName : String} {pages : Nat}
    {result : Except ApiError Nat} (hqueued : b.queued = [])
    (h : b.run (cleanUpBalancers scope clusterName pages) = (some result, b')) (k : Kind)
    (place : Place) : b'.plane.inventory.Holds k place ↔ b.plane.inventory.Holds k place :=
  Inventory.holds_of_table_eq ((cleanUpBalancers_same hqueued h).2 (.table k) (by simp))

/-! ### Coming to an end -/

theorem ends_deleteBalancers (k : BalancerKind) (os : List PolicyObject) (count : Nat) :
    (deleteBalancers k os count).Ends := by
  induction os generalizing count with
  | nil => exact .done _
  | cons o os ih =>
    refine (ends_request _).bind fun answer => ?_
    split
    · exact ih _
    · split
      · exact ih _
      · exact .done _

/-- A cleanup comes to an end in all surroundings in which collecting does. `P` holds of the
surroundings all the time. -/
theorem exists_run_cleanUpKinds {σ : Type} {answer : (e : Effect) → σ → e.Answer × σ}
    {P : σ → Prop} {tag : Tag}
    (hcollect : ∀ k t, P t → ∃ owned t',
      (collect (fun cursor => Work.call (.listBalancers k cursor)) (carries tag) rounds).run
        answer t = (some owned, t') ∧ P t')
    (hdelete : ∀ {k os count t result t'}, P t →
      (deleteBalancers k os count).run answer t = (some result, t') → P t')
    (ks : List BalancerKind) (count : Nat) {t : σ} (ht : P t) :
    ∃ result t', (cleanUpKinds tag rounds ks count).run answer t = (some result, t') := by
  induction ks generalizing count t with
  | nil => exact ⟨_, _, rfl⟩
  | cons k ks ih =>
    obtain ⟨owned, t₁, h₁, ht₁⟩ := hcollect k t ht
    rw [cleanUpKinds, bind_eq, run_bind_of_run h₁]
    cases owned with
    | error e => exact ⟨_, _, rfl⟩
    | ok owned =>
      obtain ⟨deleted, t₂, h₂⟩ := (ends_deleteBalancers k owned count).run t₁
      dsimp only
      rw [bind_eq, run_bind_of_run h₂]
      cases deleted with
      | error e => exact ⟨_, _, rfl⟩
      | ok count => exact ih count (hdelete ht₁ h₂)

/-- Where no failure is due, and the objects are few, that is still so behind any work. -/
theorem FitsRounds.run {α : Type} {w : ControlPlane.Work α} {a : α} (h : FitsRounds rounds b.plane)
    (hrun : b.run w = (some a, b')) (hqueued : b.queued = []) (hfailures : b.plane.failures = []) :
    b'.queued = [] ∧ b'.plane.failures = [] ∧ FitsRounds rounds b'.plane := by
  obtain ⟨es, -, hreplies⟩ := run_eq_some_iff.mp hrun
  exact ⟨(Testbed.replies_same hreplies hqueued).1,
    Testbed.failures_replies hreplies hqueued hfailures, h.replies hreplies hqueued⟩

/-- **A cleanup comes to an end**, if no failure is due and there are few enough objects. -/
theorem cleanUpBalancers_finishes (scope clusterName : String) (hqueued : b.queued = [])
    (hfailures : b.plane.failures = []) (hfits : FitsRounds rounds b.plane) :
    ∃ result b', b.run (cleanUpBalancers scope clusterName rounds) = (some result, b') := by
  have hkept : ∀ {α : Type} {w : ControlPlane.Work α} {a : α} {b b' : ControlPlane.Testbed},
      (b.queued = [] ∧ b.plane.failures = [] ∧ FitsRounds rounds b.plane) →
      b.run w = (some a, b') →
      b'.queued = [] ∧ b'.plane.failures = [] ∧ FitsRounds rounds b'.plane :=
    fun h hrun => h.2.2.run hrun h.1 h.2.1
  refine exists_run_cleanUpKinds (fun k t ht => ?_) hkept cleanupOrder 0
    ⟨hqueued, hfailures, hfits⟩
  obtain ⟨owned, t', hrun⟩ := (lists_balancers k).run_collect (carries ⟨scope, clusterName⟩) ht.1
    ht.2.1 (ht.2.2 k).2 (ht.2.2 k).1
  exact ⟨owned, t', hrun, hkept ht hrun⟩

end Actuator

end ClusterNet
