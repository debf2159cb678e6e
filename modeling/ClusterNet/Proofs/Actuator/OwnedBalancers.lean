import ClusterNet.Proofs.Actuator.ForeignBalancers

/-!
# Which load-balancer objects a cleanup deletes

A cleanup lists the objects of a kind to the end before it deletes any of them, so the pages of the
listing are those of a list that stays as it is, and collecting goes through all of them
(`ControlPlane.Lists.collects`). If nothing fails, it then deletes the objects that it has kept, one
by one, and what is left of the kind are the objects that do not carry the tag. Kinds do not get
into each other's way, so the whole cleanup is one kind behind the other.

## Main definitions

* `Actuator.Steady` — a testbed on which nothing fails
* `Actuator.owned` — the objects of a kind that carry a tag
* `Actuator.deletions` — the objects that requests ask to delete

## Main results

* `Actuator.Steady.replies_cleanUpKind`, `Actuator.Steady.replies_cleanUpKinds` — all objects that
  carry the tag are deleted, kind by kind
* `Actuator.cleanUpBalancers_exact` — all of it together, with and without failures
-/

namespace ClusterNet

namespace Actuator

open ControlPlane Program
open Pipeline (Event called)

variable {tag : Tag} {k : BalancerKind} {os : List PolicyObject} {pages count rounds : Nat}
variable {b b' : ControlPlane.Testbed} {es : List Event} {result : Except ApiError Nat}

/-! ### Without failures -/

/-- The objects of a kind that carry a tag. -/
def owned (tag : Tag) (plane : Simulator) (k : BalancerKind) : List PolicyObject :=
  (plane.balancers.get k).filter fun o => tag ∈ o.tags

/-- What a request asks to delete. -/
def deletion? : Event → Option (BalancerKind × String)
  | ⟨.call (.deleteBalancer k id), _⟩ => some (k, id)
  | _ => none

/-- The load-balancer objects that requests ask to delete, in order. -/
def deletions (es : List Event) : List (BalancerKind × String) := es.filterMap deletion?

/-- A testbed that answers every request, and whose load-balancer objects can be listed and told
apart. -/
structure Steady (rounds : Nat) (b : ControlPlane.Testbed) : Prop where
  /-- No answer is replaced. -/
  queued : b.queued = []
  /-- No failure is due. -/
  failures : b.plane.failures = []
  /-- Pages are not empty. -/
  pageSize : 0 < b.plane.pageSize
  /-- There are few enough objects. -/
  fits : FitsRounds rounds b.plane
  /-- No two objects of a kind have the same id. -/
  ids : DistinctIds b.plane

/-- It stays so behind the cleanup of a kind, which leaves the other kinds as they are. -/
theorem Steady.cleaned (h : Steady rounds b)
    (htrace : (cleanUpKind tag pages k count).Trace es result)
    (hreplies : Replies Testbed.perform es b b') :
    Steady rounds b' ∧ ∀ k', k' ≠ k → b'.plane.balancers.get k' = b.plane.balancers.get k' := by
  have hconcerns := fun x hx => (trace_cleanUpKind_asked htrace x hx).1
  obtain ⟨hqueued, hunsteady⟩ :=
    reaches_testbed.unsteady h.queued (fun x hx => ⟨k, hconcerns x hx⟩) hreplies
  refine ⟨?_, fun k' hk => hunsteady.get_eq (fun x hx => ⟨k, .head _, hconcerns x hx⟩)
    fun hmem => hk (List.mem_singleton.mp hmem)⟩
  exact
    { queued := hqueued
      failures := Testbed.failures_replies hreplies h.queued h.failures
      pageSize := by
        rw [(Testbed.replies_settings hreplies h.queued).2.1]
        exact h.pageSize
      fits := hunsteady.fits h.fits
      ids := h.ids.purged (hunsteady.purged_kind htrace h.ids) }

/-- An object that is there is deleted if no failure is due. -/
theorem deletion_of_mem {s : Simulator} (hfailures : s.failures = []) {o : PolicyObject}
    (ho : o ∈ s.balancers.get k) :
    ∃ s', Simulator.answer (.deleteBalancer k o.id) s = (.ok (), s') ∧
      s'.balancers = s.balancers.set k ((s.balancers.get k).filter fun o' => o'.id != o.id) := by
  have hany : ((s.asked [.deleteBalancer k o.id]).balancers.get k).any
      (fun o' => o'.id == o.id) = true := List.any_eq_true.mpr ⟨o, ho, beq_self_eq_true _⟩
  rw [Simulator.answer_of_no_failures hfailures, Simulator.serve, Simulator.deleteBalancer,
    if_pos hany]
  exact ⟨_, rfl, rfl⟩

/-- Objects that are there are deleted one by one, and none but them. -/
theorem replies_deleting (hqueued : b.queued = []) (hfailures : b.plane.failures = [])
    (hmem : ∀ o ∈ os, o ∈ b.plane.balancers.get k) (hids : (os.map (·.id)).Nodup) (count : Nat) :
    ∃ b',
      (deleteBalancers k os count).Trace (os.map fun o => called (.deleteBalancer k o.id) (.ok ()))
        (.ok (count + os.length)) ∧
      Replies Testbed.perform (os.map fun o => called (.deleteBalancer k o.id) (.ok ())) b b' ∧
      b'.plane.balancers.get k =
        (b.plane.balancers.get k).filter fun o => o.id ∉ os.map (·.id) := by
  induction os generalizing count b with
  | nil =>
    refine ⟨b, .done _, rfl, ?_⟩
    exact (List.filter_eq_self.mpr fun o _ => decide_eq_true List.not_mem_nil).symm
  | cons o os ih =>
    obtain ⟨s₁, hanswer, hgone⟩ := deletion_of_mem hfailures (hmem o (.head os))
    rw [List.map_cons, List.nodup_cons] at hids
    have hperform : Testbed.perform (.call (.deleteBalancer k o.id)) b =
        (.ok (), { b with plane := s₁ }) := by
      rw [Testbed.perform_call hqueued, hanswer]
    have hfailures₁ : s₁.failures = [] := by
      have hkept := Simulator.failures_answer hfailures (.deleteBalancer k o.id)
      rwa [hanswer] at hkept
    have hleft₁ : s₁.balancers.get k =
        (b.plane.balancers.get k).filter fun o' => o'.id != o.id := by
      rw [hgone, Balancers.get_set_self]
    have hmem₁ : ∀ o' ∈ os, o' ∈ s₁.balancers.get k := by
      intro o' ho'
      have hne : o'.id ≠ o.id := fun hsame => hids.1 (hsame ▸ List.mem_map_of_mem ho')
      rw [hleft₁]
      exact List.mem_filter.mpr ⟨hmem o' (.tail o ho'), bne_iff_ne.mpr hne⟩
    obtain ⟨b', htrace, hreplies, hleft⟩ :=
      ih (b := { b with plane := s₁ }) hqueued hfailures₁ hmem₁ hids.2 (count + 1)
    refine ⟨b', ?_, ⟨congrArg Prod.fst hperform, ?_⟩, ?_⟩
    · rw [List.length_cons, Nat.add_comm os.length, ← Nat.add_assoc]
      exact trace_request_bind_iff.mpr ⟨.ok (), _, rfl, htrace⟩
    · change Replies (I := Effect.interface) Testbed.perform _
        (Testbed.perform (.call (.deleteBalancer k o.id)) b).2 b'
      rw [hperform]
      exact hreplies
    · rw [hleft, hleft₁, List.filter_filter]
      refine List.filter_congr fun o' _ => Bool.eq_iff_iff.mpr ?_
      rw [Bool.and_eq_true_iff, decide_eq_true_iff, decide_eq_true_iff, bne_iff_ne, List.map_cons,
        List.mem_cons, not_or, and_comm]

/-- **The cleanup of a kind** deletes all of its objects that carry the tag, one by one. -/
theorem Steady.replies_cleanUpKind (h : Steady rounds b) (tag : Tag) (k : BalancerKind)
    (count : Nat) :
    ∃ es b',
      (cleanUpKind tag rounds k count).Trace es (.ok (count + (owned tag b.plane k).length)) ∧
      Replies Testbed.perform es b b' ∧
      deletions es = (owned tag b.plane k).map (fun o => (k, o.id)) ∧
      b'.plane.balancers.get k = (b.plane.balancers.get k).filter fun o => tag ∉ o.tags := by
  obtain ⟨rs, hrun⟩ := (lists_balancers k).collects (carries tag) h.queued h.failures h.pageSize
    (h.fits k).2 (h.fits k).1
  obtain ⟨es₁, hlisted, hreplies₁⟩ := run_eq_some_iff.mp hrun
  have howned : (b.plane.balancers.get k).filter (carries tag) = owned tag b.plane k :=
    List.filter_congr fun o _ => Bool.eq_iff_iff.mpr (carries_iff.trans decide_eq_true_iff.symm)
  rw [howned] at hlisted
  have hsub : (owned tag b.plane k).Sublist (b.plane.balancers.get k) := List.filter_sublist
  obtain ⟨b', hdeleted, hreplies₂, hleft⟩ := replies_deleting (b := b.asked rs) h.queued h.failures
    (fun o ho => hsub.subset ho) ((h.ids k).sublist (hsub.map _)) count
  refine ⟨_, b', trace_bind_iff.mpr ⟨es₁, _, _, rfl, hlisted, hdeleted⟩,
    replies_append.mpr ⟨_, hreplies₁, hreplies₂⟩, ?_, ?_⟩
  · have hnone : es₁.filterMap deletion? = [] := by
      refine List.filterMap_eq_nil_iff.mpr fun x hx => ?_
      obtain ⟨cursor, answer, rfl, -⟩ := trace_collect_asked hlisted x hx
      rfl
    rw [deletions, List.filterMap_append, hnone, List.nil_append, List.filterMap_map]
    exact congrFun (List.filterMap_eq_map (f := fun o : PolicyObject => (k, o.id))) _
  · rw [hleft]
    refine List.filter_congr fun o ho => ?_
    have hgone : o.id ∈ (owned tag b.plane k).map (·.id) ↔ tag ∈ o.tags := by
      constructor
      · intro hmem
        obtain ⟨o', ho', hid⟩ := List.mem_map.mp hmem
        rw [h.ids.eq_of_id ho (hsub.subset ho') hid.symm]
        exact of_decide_eq_true (List.mem_filter.mp ho').2
      · intro hcarries
        exact List.mem_map_of_mem (List.mem_filter.mpr ⟨ho, decide_eq_true hcarries⟩)
    exact decide_eq_decide.mpr (not_congr hgone)

/-- **The cleanup of some kinds** deletes all of their objects that carry the tag, kind by kind. -/
theorem Steady.replies_cleanUpKinds (h : Steady rounds b) (tag : Tag) {ks : List BalancerKind}
    (hks : ks.Nodup) (count : Nat) :
    ∃ es b',
      (cleanUpKinds tag rounds ks count).Trace es
        (.ok (count + (ks.map fun k => (owned tag b.plane k).length).sum)) ∧
      Replies Testbed.perform es b b' ∧
      deletions es = ks.flatMap (fun k => (owned tag b.plane k).map fun o => (k, o.id)) ∧
      ∀ k ∈ ks, b'.plane.balancers.get k =
        (b.plane.balancers.get k).filter fun o => tag ∉ o.tags := by
  induction ks generalizing b count with
  | nil => exact ⟨[], b, .done _, rfl, rfl, fun k hk => absurd hk List.not_mem_nil⟩
  | cons k₀ ks ih =>
    obtain ⟨hnew, hks⟩ := List.nodup_cons.mp hks
    obtain ⟨es₁, b₁, htrace₁, hreplies₁, hdeletions₁, hleft₁⟩ := h.replies_cleanUpKind tag k₀ count
    obtain ⟨h₁, hothers₁⟩ := h.cleaned htrace₁ hreplies₁
    have hne : ∀ k ∈ ks, k ≠ k₀ := fun k hk hsame => hnew (hsame ▸ hk)
    have howned : ∀ k ∈ ks, owned tag b₁.plane k = owned tag b.plane k := fun k hk => by
      rw [owned, hothers₁ k (hne k hk), owned]
    obtain ⟨es₂, b₂, htrace₂, hreplies₂, hdeletions₂, hleft₂⟩ :=
      ih h₁ hks (count + (owned tag b.plane k₀).length)
    have hasked := trace_cleanUpKinds_asked htrace₂
    have hunsteady := (reaches_testbed.unsteady h₁.queued
      (fun x hx => (hasked x hx).imp fun _ => And.right) hreplies₂).2
    refine ⟨es₁ ++ es₂, b₂, ?_, replies_append.mpr ⟨b₁, hreplies₁, hreplies₂⟩, ?_, ?_⟩
    · have hcount : ks.map (fun k => (owned tag b₁.plane k).length) =
          ks.map fun k => (owned tag b.plane k).length :=
        List.map_congr_left fun k hk => by rw [howned k hk]
      rw [hcount, Nat.add_assoc] at htrace₂
      rw [cleanUpKinds_cons, List.map_cons, List.sum_cons]
      exact trace_bind_iff.mpr ⟨es₁, es₂, _, rfl, htrace₁, htrace₂⟩
    · rw [deletions, List.filterMap_append, ← deletions, ← deletions, hdeletions₁, hdeletions₂,
        List.flatMap_cons]
      exact congrArg _ (List.flatMap_congr fun k hk => by rw [howned k hk])
    · intro k hk
      rcases List.mem_cons.mp hk with rfl | hk
      · rw [hunsteady.get_eq hasked hnew, hleft₁]
      · rw [hleft₂ k hk, hothers₁ k (hne k hk)]

/-! ### A whole cleanup -/

/-- What is behind an element of a list without duplicates is not in front of it. -/
theorem not_mem_of_behind {α : Type} {l earlier later earlier' later' : List α} {a c : α}
    (hl : l.Nodup) (h : l = earlier ++ a :: later) (h' : l = earlier' ++ a :: later')
    (hc : c ∈ later) : c ∉ earlier' ++ [a] := by
  rw [h] at hl h'
  have hfirst : a ∉ earlier ∧ a ∉ later := by
    rw [List.nodup_middle, List.nodup_cons, List.mem_append, not_or] at hl
    exact hl.1
  obtain ⟨rfl, -, -⟩ := (List.append_cons_inj_of_notMem hfirst.1 hfirst.2).mp h'
  rw [List.append_cons] at hl
  exact fun hc' => (List.nodup_append.mp hl).2.2 c hc' c hc rfl

/-- **A cleanup deletes exactly the cluster's load-balancer objects.** Without failures it gives
their number, all others are left in their order, and virtual servers are deleted before pools and
these before services. If requests fail, whichever they are, it comes to an end all the same.
Nothing but objects of the cluster is deleted then, and nothing of the kinds behind the one at which
a failure ended the cleanup. -/
theorem cleanUpBalancers_exact (scope clusterName : String) (rounds : Nat) :
    (∀ b : ControlPlane.Testbed, Steady rounds b →
      ∃ b', b.run (cleanUpBalancers scope clusterName rounds) =
          (some (.ok (([.virtualServer, .pool, .service].map fun k =>
            (owned ⟨scope, clusterName⟩ b.plane k).length).sum)), b') ∧
        (∀ k, b'.plane.balancers.get k =
          (b.plane.balancers.get k).filter fun o => ⟨scope, clusterName⟩ ∉ o.tags) ∧
        deletions (asked Testbed.perform (cleanUpBalancers scope clusterName rounds) b) =
          [.virtualServer, .pool, .service].flatMap fun k =>
            (owned ⟨scope, clusterName⟩ b.plane k).map fun o => (k, o.id)) ∧
    ∀ (failing : Nat → Option ApiError) (s : Simulator), DistinctIds s → FitsRounds rounds s →
      ∃ result n s',
        (cleanUpBalancers scope clusterName rounds).run (faulty failing) (0, s) =
          (some result, n, s') ∧
        (∀ k, Purged ⟨scope, clusterName⟩ (s.balancers.get k) (s'.balancers.get k)) ∧
        ∀ x ∈ asked (faulty failing) (cleanUpBalancers scope clusterName rounds) (0, s),
          ∀ k e, Aborts k e x → result = .error e ∧
            ∀ earlier later, [.virtualServer, .pool, .service] = earlier ++ k :: later →
              ∀ k' ∈ later, s'.balancers.get k' = s.balancers.get k' := by
  have horder : ([.virtualServer, .pool, .service] : List BalancerKind).Nodup := by decide
  constructor
  · intro b h
    obtain ⟨es, b', htrace, hreplies, hdeletions, hleft⟩ :=
      h.replies_cleanUpKinds ⟨scope, clusterName⟩ horder 0
    rw [Nat.zero_add] at htrace
    refine ⟨b', run_eq_some_iff.mpr ⟨es, htrace, hreplies⟩, fun k => hleft k ?_, ?_⟩
    · cases k <;> decide
    · rw [← hdeletions]
      exact congrArg deletions (asked_of_replies htrace hreplies)
  · intro failing s hids hfits
    obtain ⟨result, ⟨n, s'⟩, hrun⟩ := (reaches_faulty failing).exists_run_cleanUpKinds
      ⟨scope, clusterName⟩ cleanupOrder 0 (t := (0, s)) trivial hfits
    have htrace := trace_asked hrun
    have hunsteady : Unsteady _ s s' := ((reaches_faulty failing).unsteady trivial
      (fun x hx => (trace_cleanUpKinds_asked htrace x hx).imp fun _ => And.right)
      (replies_asked hrun)).2
    refine ⟨result, n, s', hrun, hunsteady.purged htrace hids, fun x hx k e haborts => ?_⟩
    obtain ⟨hend, earlier₀, later₀, horder₀, hconcerns⟩ :=
      trace_cleanUpKinds_stops htrace hx haborts
    refine ⟨hend, fun earlier later hlater k' hk' => hunsteady.get_eq hconcerns ?_⟩
    exact not_mem_of_behind horder hlater horder₀ hk'

/-- A control plane with load-balancer objects of two clusters. -/
def twoClusters : Simulator :=
  let ours : List Tag := [⟨"owner", "shoot--dev--app"⟩]
  let theirs : List Tag := [⟨"owner", "shoot--dev--other"⟩]
  ({} : Simulator)
    |>.addBalancer .virtualServer "vs-1" ours
    |>.addBalancer .virtualServer "vs-2" theirs
    |>.addBalancer .pool "pool-1" ours
    |>.addBalancer .pool "pool-2" ours
    |>.addBalancer .service "svc-1" ours

/-- The fifth request fails. In a cleanup for one of the clusters it is the second deletion of a
pool. -/
def fifthFails (n : Nat) : Option ApiError :=
  if n = 4 then some (Simulator.injected .deleteBalancer) else none

/-- One cleanup deletes four objects, and another one is interrupted before it comes to the
services. -/
theorem cleanUpBalancers_exact_twoClusters :
    let work := cleanUpBalancers "owner" "shoot--dev--app" 3
    Steady 3 { plane := twoClusters } ∧
    (∃ b', Testbed.run work { plane := twoClusters } = (some (.ok 4), b') ∧
      (b'.plane.balancers.get .virtualServer).map (·.id) = ["vs-2"]) ∧
    ∃ n s', work.run (faulty fifthFails) (0, twoClusters) =
        (some (.error (Simulator.injected .deleteBalancer)), n, s') ∧
      (s'.balancers.get .pool).map (·.id) = ["pool-2"] ∧
      s'.balancers.get .service = twoClusters.balancers.get .service := by
  intro work
  have hids : DistinctIds twoClusters := fun k => by cases k <;> decide
  have hsteady : Steady 3 { plane := twoClusters } :=
    { queued := rfl
      failures := rfl
      pageSize := by decide
      fits := fun k => by cases k <;> decide
      ids := hids }
  obtain ⟨hcomplete, hinterrupted⟩ := cleanUpBalancers_exact "owner" "shoot--dev--app" 3
  obtain ⟨b', hrun, hleft, -⟩ := hcomplete _ hsteady
  refine ⟨hsteady, ⟨b', hrun, ?_⟩, ?_⟩
  · rw [hleft]
    decide
  obtain ⟨result, n, s', hrun', -, hends⟩ := hinterrupted fifthFails twoClusters hids hsteady.fits
  have hfifth : called (.deleteBalancer .pool "pool-2")
      (.error (Simulator.injected .deleteBalancer)) ∈
        asked (faulty fifthFails) work (0, twoClusters) :=
    .tail _ (.tail _ (.tail _ (.tail _ (.head _))))
  obtain ⟨rfl, hlater⟩ := hends _ hfifth .pool _ (.deletion "pool-2" rfl)
  have hpools : ((work.run (faulty fifthFails) (0, twoClusters)).2.2.balancers.get .pool).map
      (·.id) = ["pool-2"] := by decide +kernel
  rw [hrun'] at hpools
  exact ⟨n, s', hrun', hpools, hlater [.virtualServer] [.service] rfl .service (.head _)⟩

end Actuator

end ClusterNet
