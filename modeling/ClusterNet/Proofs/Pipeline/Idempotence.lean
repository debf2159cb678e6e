import ClusterNet.Proofs.Pipeline.Outcome

/-!
# Running a pipeline again

A task that has succeeded is *settled*: what it would look for is where the state says, and what it
looks after is as it should be. A settled task changes nothing and asks only to look. Tasks behind
it leave it settled, because they do not write what it reads. So behind a run that succeeded, every
task is settled, and a second run with the same specification only looks.

Nothing is assumed about the control plane or the state that the first run found.

## Main definitions

* `Pipeline.HasAddress` — an allocation that has become an address
* `Pipeline.Settled` — a task that has nothing left to do

## Main results

* `Pipeline.settled_of_run` — a task that succeeded is settled
* `Pipeline.Settled.congr` — a settled task stays settled while what it reads stays the same
* `Pipeline.Settled.run` — a settled task only looks
* `Pipeline.run_idempotent` — a run behind one that succeeded only looks
-/

namespace ClusterNet

namespace Pipeline

open Cluster (InfraError Reference Slot Spec State)
open ControlPlane Program

/-! ### Addresses -/

/-- An allocation that has become an address. -/
structure HasAddress (s : Simulator) (path address : String) : Prop where
  /-- The address. -/
  found : s.addresses.find? path = some address
  /-- It is not off any more. -/
  due : ∀ n, s.pending.find? path ≠ some (n + 1)
  /-- It is one. -/
  nonempty : address.isEmpty = false

theorem addressOf_realizedEntity (address : String) :
    addressOf
        [Simulator.realizedEntity "REALIZED" [{ key := "allocation_ip", values := [address] }]] =
      if address.isEmpty then none else some address := by
  have hattribute : (Simulator.realizedEntity "REALIZED"
      [{ key := "allocation_ip", values := [address] }]).attribute addressAttribute =
      some address := by
    simp [Simulator.realizedEntity, RealizedEntity.attribute, addressAttribute]
  rw [addressOf, List.findSome?_cons, hattribute, Option.filter]
  cases address.isEmpty <;> rfl

/-- A poll that yields an address has found one. -/
theorem hasAddress_of_realized {s : Simulator} {path address : String}
    (h : pollResult (s.realized path).1 = some (.ok address)) :
    HasAddress s path address ∧ (s.realized path).2 = s := by
  rw [Simulator.realized] at h ⊢
  split at h
  · cases h
  · next found hfound =>
    split at h
    · cases h
    · next hdue =>
      rw [pollResult, addressOf_realizedEntity] at h
      split at h
      · cases h
      · next hnonempty =>
        obtain rfl : found = address := by simpa using h
        exact ⟨⟨hfound, fun n hn => hdue n hn, by simpa using hnonempty⟩, rfl⟩

/-- An address that was found is found again by the next poll. -/
theorem HasAddress.realized {s : Simulator} {path address : String}
    (h : HasAddress s path address) :
    ∃ entities, s.realized path = (.ok entities, s) ∧
      pollResult (.ok entities) = some (.ok address) := by
  refine ⟨[Simulator.realizedEntity "REALIZED"
    [{ key := "allocation_ip", values := [address] }]], ?_, ?_⟩
  · rw [Simulator.realized, h.found]
    dsimp only
    split
    · next n hn => exact absurd hn (h.due n)
    · rfl
  · rw [pollResult, addressOf_realizedEntity, h.nonempty]
    rfl

/-- A poll that is answered with an address has found one, and that was no failure. -/
theorem hasAddress_of_answer {s : Simulator} {path address : String}
    (h : pollResult (Simulator.answer (.listRealized path) s).1 = some (.ok address)) :
    HasAddress (Simulator.answer (.listRealized path) s).2 path address := by
  rcases Simulator.answer_cases (.listRealized path) s with ⟨-, hfailed⟩ | ⟨-, hserved⟩
  · rw [hfailed] at h
    exact nomatch Option.some.inj h
  · rw [hserved] at h ⊢
    obtain ⟨haddress, hsame⟩ := hasAddress_of_realized h
    rw [Simulator.serve, hsame]
    exact haddress

/-- Behind a wait that yielded an address, the allocation has become it. -/
theorem hasAddress_of_run {schedule : RealizationSchedule} {path address : String} {polls : Nat}
    {b b' : Testbed} (hqueued : b.queued = [])
    (h : b.run (awaitAddress schedule path polls) = (some (.ok address), b')) :
    HasAddress b'.plane path address ∧ 0 < polls := by
  rw [awaitAddress] at h
  generalize Waiting.start schedule = w at h
  induction polls generalizing w b with
  | zero => exact nomatch (Prod.mk.inj h).1
  | succ polls ih =>
    refine ⟨?_, Nat.succ_pos polls⟩
    obtain ⟨next, b₁, h₁, h₂⟩ := run_bind_eq_some_iff.mp h
    rw [poll, bind_eq] at h₁
    obtain ⟨answer, b₂, h₃, h₄⟩ := run_bind_eq_some_iff.mp h₁
    have hcall := Testbed.run_call hqueued (.listRealized path)
    obtain ⟨hanswer, rfl⟩ := Prod.mk.inj (hcall.symm.trans h₃)
    cases hresult : pollResult answer with
    | some result =>
      rw [hresult] at h₄
      obtain ⟨rfl, rfl⟩ := run_done_eq_some_iff.mp h₄
      obtain ⟨hok, rfl⟩ := run_done_eq_some_iff.mp h₂
      rw [← hok, ← Option.some.inj hanswer] at hresult
      exact hasAddress_of_answer hresult
    | none =>
      rw [hresult] at h₄
      dsimp only at h₄
      split at h₄
      · obtain ⟨rfl, rfl⟩ := run_done_eq_some_iff.mp h₄
        exact nomatch (run_done_eq_some_iff.mp h₂).1
      · obtain ⟨_, b₃, h₅, h₆⟩ := run_bind_eq_some_iff.mp h₄
        obtain ⟨rfl, rfl⟩ := run_done_eq_some_iff.mp h₆
        have hqueued₃ : b₁.queued = [] := by
          rw [← (Prod.mk.inj h₅).2]
          exact hqueued
        exact (ih hqueued₃ _ h₂).1

/-- A wait for an address that was found before ends with the first poll. -/
theorem HasAddress.run {schedule : RealizationSchedule} {path address : String} {polls : Nat}
    {b : Testbed} (h : HasAddress b.plane path address) (hqueued : b.queued = [])
    (hfailures : b.plane.failures = []) (hpolls : 0 < polls) :
    b.run (awaitAddress schedule path polls) =
      (some (.ok address), b.asked [.listRealized path]) := by
  obtain ⟨polls, rfl⟩ : ∃ n, polls = n + 1 := ⟨polls - 1, by omega⟩
  have hasked : HasAddress (b.plane.asked [.listRealized path]) path address :=
    ⟨h.found, h.due, h.nonempty⟩
  obtain ⟨entities, hrealized, hresult⟩ := hasked.realized
  have hdue : b.plane.failures.contains (Request.listRealized path).method = false := by
    rw [hfailures]
    rfl
  have hcall : b.run (Work.call (.listRealized path)) =
      (some (.ok entities), b.asked [.listRealized path]) :=
    Testbed.run_call_served hqueued hdue hrealized
  rw [awaitAddress, Program.loop, poll, bind_eq, Testbed.run, run_bind, run_bind, ← Testbed.run,
    hcall]
  dsimp only
  rw [hresult]
  rfl

/-! ### Settled tasks -/

/-- A task that has nothing left to do. -/
def Settled (c : Context) (spec : Spec) (t : Task) (w : World) : Prop :=
  match t with
  | .lookUp catalog => ∃ o,
    firstIn (w.1.catalogs.get catalog) w.1.pageSize
        (fun o => o.displayName == some (wantedName spec catalog)) none c.rounds =
      .done (.ok (some o)) ∧
    w.2.reference (catalogSlot catalog) = some ⟨o.id, o.path⟩
  | .managed k => ∃ parent o r current,
    draft c.identity spec w.2 k = .ok (parent, o) ∧ w.2.reference (slot k) = some r ∧
    w.1.inventory.find? k ⟨parent, r.id⟩ = some current ∧ agrees k current o = true
  | .realization => ∃ allocation address,
    w.2.reference .snatIpAllocation = some allocation ∧ w.2.snatIpAddress = some address ∧
    HasAddress w.1 allocation.path address ∧ 0 < c.rounds
  | .lookUpSwitch => ∃ segment o, w.2.reference .segment = some segment ∧
    firstIn w.1.switches w.1.pageSize (standsFor segment.path) none c.rounds =
      .done (.ok (some o)) ∧
    w.2.reference .logicalSwitch = some ⟨o.id, Path.logicalSwitch o.id⟩

/-- What a task that looks after an object reads. -/
theorem mem_reads_managed (k : Kind) :
    .slot (slot k) ∈ (Task.managed k).reads ∧ .part (.table k) ∈ (Task.managed k).reads ∧
      (∀ slot ∈ needs k, .slot slot ∈ (Task.managed k).reads) ∧
      (k = .policy .natRule → .address ∈ (Task.managed k).reads) := by
  match k with
  | .policy .natRule => decide
  | .policy .tier1 | .policy .localeService | .policy .segment | .policy .ipAllocation
  | .policy .dhcpServerConfig | .manager .dhcpProfile | .manager .dhcpServer
  | .manager .logicalPort | .manager .dhcpIpPool => decide

variable {c : Context} {spec : Spec}

/-- **A settled task stays settled while what it reads stays the same.** -/
theorem Settled.congr {t : Task} {w w' : World} (h : Settled c spec t w)
    (hsame : ∀ res ∈ t.reads, res.Same w w') : Settled c spec t w' := by
  match t with
  | .lookUp catalog =>
    obtain ⟨o, hfirst, href⟩ := h
    have hslot : w'.2.reference (catalogSlot catalog) = w.2.reference (catalogSlot catalog) :=
      hsame (.slot _) (.head _)
    have hsettings : Part.settings.Same w.1 w'.1 := hsame (.part .settings) (.tail _ (.head _))
    refine ⟨o, ?_, hslot.trans href⟩
    rw [hsettings.1, hsettings.2.1]
    exact hfirst
  | .managed k =>
    obtain ⟨parent, o, r, current, hdraft, href, hfind, hagrees⟩ := h
    obtain ⟨hslot, htable, hneeds, haddress⟩ := mem_reads_managed k
    have hslot' : w'.2.reference (slot k) = w.2.reference (slot k) := hsame _ hslot
    have htable' : w'.1.inventory.table k = w.1.inventory.table k := hsame _ htable
    refine ⟨parent, o, r, current, ?_, hslot'.trans href, ?_, hagrees⟩
    · rw [draft_congr (fun slot hmem => hsame _ (hneeds slot hmem)) fun hk => hsame _ (haddress hk)]
      exact hdraft
    · rw [Inventory.find?, htable']
      exact hfind
  | .realization =>
    obtain ⟨allocation, address, href, hknown, hrealized, hrounds⟩ := h
    have hslot : w'.2.reference .snatIpAllocation = w.2.reference .snatIpAllocation :=
      hsame (.slot _) (.head _)
    have haddress : w'.2.snatIpAddress = w.2.snatIpAddress := hsame .address (.tail _ (.head _))
    have hparts : Part.addresses.Same w.1 w'.1 :=
      hsame (.part .addresses) (.tail _ (.tail _ (.head _)))
    refine ⟨allocation, address, hslot.trans href, haddress.trans hknown,
      ⟨?_, ?_, hrealized.nonempty⟩,
      hrounds⟩
    · rw [hparts.2]
      exact hrealized.found
    · rw [hparts.1]
      exact hrealized.due
  | .lookUpSwitch =>
    obtain ⟨segment, o, hsegment, hfirst, href⟩ := h
    have hslot : w'.2.reference .segment = w.2.reference .segment := hsame (.slot _) (.head _)
    have hown : w'.2.reference .logicalSwitch = w.2.reference .logicalSwitch :=
      hsame (.slot _) (.tail _ (.head _))
    have hswitches : w'.1.switches = w.1.switches :=
      hsame (.part .switches) (.tail _ (.tail _ (.head _)))
    have hsettings : Part.settings.Same w.1 w'.1 :=
      hsame (.part .settings) (.tail _ (.tail _ (.tail _ (.head _))))
    refine ⟨segment, o, hslot.trans hsegment, ?_, hown.trans href⟩
    rw [hswitches, hsettings.2.1]
    exact hfirst

/-! ### Settled tasks only look -/

/-- A settled task has a reference, or needs none, and is not recovered. -/
theorem Settled.recoverIfLost {t : Task} {w : World} (h : Settled c spec t w) :
    recoverIfLost t c w.2 = .done (.ok (), w.2) := by
  match t with
  | .managed k =>
    obtain ⟨parent, o, r, current, -, href, -, -⟩ := h
    exact recoverIfLost_of_reference (t := .managed k) href c
  | .lookUp _ | .realization | .lookUpSwitch => exact recoverIfLost_of_recover? rfl c w.2

/-- What comes of work that only looks. -/
def OnlyLooks (b : Testbed) (s : State) (work : Work (Left Action)) : Prop :=
  ∃ action rs, (action = .unchanged ∨ action = .found) ∧
    (∀ r ∈ rs, r.method.isMutation = false) ∧ b.run work = (some (.ok action, s), b.asked rs)

theorem Settled.lookUp {catalog : Catalog} {s : State} {b : Testbed}
    (h : Settled c spec (.lookUp catalog) (b.plane, s)) (hqueued : b.queued = [])
    (hfailures : b.plane.failures = []) : OnlyLooks b s (Pipeline.lookUp catalog c spec s) := by
  obtain ⟨o, hfirst, href⟩ := h
  obtain ⟨rs, hrs, hrun⟩ := (lists_catalog catalog).run_loop hqueued hfailures hfirst
  refine ⟨.found, rs, .inr rfl, hrs, ?_⟩
  rw [lookUp_eq, Testbed.run, run_bind, search, findFirst, ← Testbed.run, hrun]
  dsimp only [boundIn, bound, run_done]
  rw [State.withReference_of_reference href]

theorem Settled.lookUpSwitch {s : State} {b : Testbed}
    (h : Settled c spec .lookUpSwitch (b.plane, s)) (hqueued : b.queued = [])
    (hfailures : b.plane.failures = []) : OnlyLooks b s (Pipeline.lookUpSwitch c s) := by
  obtain ⟨segment, o, hsegment, hfirst, href⟩ := h
  obtain ⟨rs, hrs, hrun⟩ := lists_switches.run_loop hqueued hfailures hfirst
  refine ⟨.found, rs, .inr rfl, hrs, ?_⟩
  have hsegment' : s.reference .segment = some segment := hsegment
  rw [lookUpSwitch_eq, hsegment', Testbed.run, run_bind, searchSwitches, findFirst, ← Testbed.run,
    hrun]
  dsimp only [boundSwitch, bound, run_done]
  rw [State.withReference_of_reference href]

theorem Settled.realize {s : State} {b : Testbed}
    (h : Settled c spec .realization (b.plane, s)) (hqueued : b.queued = [])
    (hfailures : b.plane.failures = []) : OnlyLooks b s (Pipeline.realize c s) := by
  obtain ⟨allocation, address, href, hknown, hrealized, hrounds⟩ := h
  have href' : s.reference .snatIpAllocation = some allocation := href
  have hknown' : s.snatIpAddress = some address := hknown
  refine ⟨.unchanged, [.listRealized allocation.path], .inl rfl, ?_, ?_⟩
  · rintro r (_ | ⟨_, ⟨⟩⟩)
    rfl
  · rw [realize_eq, href', Testbed.run, run_bind, ← Testbed.run,
      hrealized.run hqueued hfailures hrounds]
    dsimp only [arrived, run_done]
    rw [hknown', addressAction, if_pos rfl, ← hknown']

theorem Settled.ensure {k : Kind} {s : State} {b : Testbed}
    (h : Settled c spec (.managed k) (b.plane, s)) (hqueued : b.queued = [])
    (hfailures : b.plane.failures = []) : OnlyLooks b s (Pipeline.ensure k c spec s) := by
  obtain ⟨parent, o, r, current, hdraft, href, hfind, hagrees⟩ := h
  have hdraft' : draft c.identity spec s k = .ok (parent, o) := hdraft
  have href' : s.reference (slot k) = some r := href
  have hfind' : b.plane.inventory.find? k ⟨parent, r.id⟩ = some current := hfind
  refine ⟨.unchanged, [.get k ⟨parent, r.id⟩], .inl rfl, ?_, ?_⟩
  · rintro r (_ | ⟨_, ⟨⟩⟩)
    rfl
  · have hcall : b.run (Work.call (.get k ⟨parent, r.id⟩)) =
        (some (.ok current), b.asked [.get k ⟨parent, r.id⟩]) := by
      refine Testbed.run_call_served hqueued (by rw [hfailures]; rfl) ?_
      rw [Simulator.serve, show (b.plane.asked _).inventory = b.plane.inventory from rfl, hfind']
    rw [Pipeline.ensure, hdraft']
    dsimp only
    rw [opened_of_reference href', href']
    dsimp only
    rw [bind_eq, Testbed.run, run_bind, ← Testbed.run, hcall]
    dsimp only
    rw [hagrees]
    rfl

/-- **A settled task only looks.** -/
theorem Settled.run {t : Task} {s : State} {b : Testbed} (h : Settled c spec t (b.plane, s))
    (hqueued : b.queued = []) (hfailures : b.plane.failures = []) :
    OnlyLooks b s (runTask t c spec s) := by
  have hensure : OnlyLooks b s (t.ensure c spec s) := by
    match t with
    | .lookUp catalog => exact h.lookUp hqueued hfailures
    | .managed k => exact h.ensure hqueued hfailures
    | .realization => exact h.realize hqueued hfailures
    | .lookUpSwitch => exact h.lookUpSwitch hqueued hfailures
  obtain ⟨action, rs, haction, hrs, hrun⟩ := hensure
  refine ⟨action, rs, haction, hrs, ?_⟩
  rw [runTask, h.recoverIfLost, bind_eq, done_bind]
  dsimp only
  rw [bind_eq, Testbed.run, run_bind, ← Testbed.run, hrun]
  rfl

/-! ### Tasks that succeeded are settled -/

theorem bound_eq_ok {α : Type} {task name : String} {slot : Slot} {reference : α → Reference}
    {s s' : State} {found : Except ApiError (Option α)} {action : Action}
    (h : bound task name slot reference s found = (.ok action, s')) :
    ∃ o, found = .ok (some o) ∧ s' = s.withReference slot (some (reference o)) := by
  match found with
  | .error e => exact nomatch (Prod.mk.inj h).1
  | .ok none => exact nomatch (Prod.mk.inj h).1
  | .ok (some o) => exact ⟨o, rfl, (Prod.mk.inj h).2.symm⟩

variable {s s' : State} {b b' : Testbed} {action : Action}

theorem settled_of_lookUp {catalog : Catalog} (hqueued : b.queued = [])
    (h : b.run (Pipeline.lookUp catalog c spec s) = (some (.ok action, s'), b')) :
    Settled c spec (.lookUp catalog) (b'.plane, s') := by
  obtain ⟨found, b₁, h₁, h₂⟩ := run_bind_eq_some_iff.mp h
  obtain ⟨hbound, rfl⟩ := run_done_eq_some_iff.mp h₂
  obtain ⟨o, rfl, rfl⟩ := bound_eq_ok hbound.symm
  have hfirst := (lists_catalog catalog).loop_ok hqueued h₁
  obtain ⟨es, htrace, hreplies⟩ := run_eq_some_iff.mp h₁
  have hwithin : Within [] es := trace_findFirst (fun _ _ _ => within_call rfl) htrace
  have hsettings : Part.settings.Same b.plane b'.plane :=
    (Testbed.replies_same hreplies hqueued).2 .settings fun e hmem hpart =>
      absurd (hwithin e hmem _ hpart) List.not_mem_nil
  refine ⟨o, ?_, State.reference_withReference_self ..⟩
  rw [hsettings.1, hsettings.2.1]
  exact hfirst

theorem settled_of_lookUpSwitch (hqueued : b.queued = [])
    (h : b.run (Pipeline.lookUpSwitch c s) = (some (.ok action, s'), b')) :
    Settled c spec .lookUpSwitch (b'.plane, s') := by
  rw [lookUpSwitch_eq] at h
  split at h
  · exact nomatch Option.some.inj (Prod.mk.inj h).1
  · next segment hsegment =>
    obtain ⟨found, b₁, h₁, h₂⟩ := run_bind_eq_some_iff.mp h
    obtain ⟨hbound, rfl⟩ := run_done_eq_some_iff.mp h₂
    obtain ⟨o, rfl, rfl⟩ := bound_eq_ok hbound.symm
    have hfirst := lists_switches.loop_ok hqueued h₁
    obtain ⟨es, htrace, hreplies⟩ := run_eq_some_iff.mp h₁
    have hwithin : Within [] es := trace_findFirst (fun _ _ _ => within_call rfl) htrace
    have hsame : ∀ part : Part, part.Same b.plane b'.plane := fun part =>
      (Testbed.replies_same hreplies hqueued).2 part fun e hmem hpart =>
        absurd (hwithin e hmem _ hpart) List.not_mem_nil
    have hown := State.reference_withReference_self s .logicalSwitch
      (some ⟨o.id, Path.logicalSwitch o.id⟩)
    refine ⟨segment, o, ?_, ?_, hown⟩
    · have hother : Slot.segment ≠ .logicalSwitch := by decide
      exact (State.reference_withReference_of_ne s hother _).trans hsegment
    · rw [show b'.plane.switches = b.plane.switches from hsame .switches,
        (hsame .settings).2.1]
      exact hfirst

theorem settled_of_realize (hqueued : b.queued = [])
    (h : b.run (Pipeline.realize c s) = (some (.ok action, s'), b')) :
    Settled c spec .realization (b'.plane, s') := by
  rw [realize_eq] at h
  split at h
  · exact nomatch Option.some.inj (Prod.mk.inj h).1
  · next allocation href =>
    obtain ⟨result, b₁, h₁, h₂⟩ := run_bind_eq_some_iff.mp h
    obtain ⟨harrived, rfl⟩ := run_done_eq_some_iff.mp h₂
    cases result with
    | error e => exact nomatch (Prod.mk.inj harrived).1
    | ok address =>
      obtain ⟨-, rfl⟩ := Prod.mk.inj harrived
      obtain ⟨haddress, hrounds⟩ := hasAddress_of_run hqueued h₁
      exact ⟨allocation, address, href, rfl, haddress, hrounds⟩

/-- How an object should be does not depend on its own reference. -/
theorem draft_of_advanced {k : Kind} (identity : ClusterIdentity)
    (h : Advanced (some (slot k)) s s') : draft identity spec s' k = draft identity spec s k := by
  refine draft_congr (fun slot' hmem => h.others slot' fun hown => ?_) fun hk => ?_
  · obtain rfl := Option.some.inj hown
    revert hmem
    rcases k with k | k <;> cases k <;> decide
  · rw [hk] at h
    exact h.address (by decide) (by decide)

theorem settled_of_ensure {k : Kind} (hqueued : b.queued = [])
    (h : b.run (Pipeline.ensure k c spec s) = (some (.ok action, s'), b')) :
    Settled c spec (.managed k) (b'.plane, s') := by
  obtain ⟨es, htrace, hreplies⟩ := run_eq_some_iff.mp h
  have hensured := ensured_of_trace htrace
  have hdraft : draft c.identity spec s' k = draft c.identity spec s k :=
    draft_of_advanced c.identity hensured.advanced.1
  cases hensured with
  | @first parent o es _ hdraft' href hbuilt =>
    obtain ⟨r, current, href', hfind, hagrees⟩ := hbuilt.found hqueued hreplies
    exact ⟨parent, o, r, current, hdraft.trans hdraft', href', hfind, hagrees⟩
  | @again parent o r e es _ hdraft' href he hbuilt =>
    obtain ⟨plane, -, hreplies⟩ := Testbed.replies_call hqueued hreplies
    obtain ⟨r', current, href', hfind, hagrees⟩ :=
      hbuilt.found (b := { b with plane }) hqueued hreplies
    exact ⟨parent, o, r', current, hdraft.trans hdraft', href', hfind, hagrees⟩
  | @kept parent o current r hdraft' href hagrees =>
    obtain ⟨hfind, hsame⟩ := Simulator.get_of_answer_ok (Testbed.replies_called hqueued hreplies)
    refine ⟨parent, o, r, current, hdraft.trans hdraft', ?_, ?_, hagrees⟩
    · exact (reference_opened ..).trans href
    · rw [hsame]
      exact hfind
  | @changed parent o current r es _ hdraft' href hagrees hoverwritten =>
    obtain ⟨plane, hanswer, hreplies⟩ := Testbed.replies_call hqueued hreplies
    obtain ⟨stored, hfind, hagrees⟩ := hoverwritten.found (b := { b with plane }) hqueued hreplies
    refine ⟨parent, o, r, stored, hdraft.trans hdraft', ?_, hfind, hagrees⟩
    exact (hoverwritten.reference (slot k)).trans ((reference_opened ..).trans href)

/-- **A task that succeeded is settled.** -/
theorem settled_of_run {t : Task} (hqueued : b.queued = [])
    (h : b.run (runTask t c spec s) = (some (.ok action, s'), b')) :
    Settled c spec t (b'.plane, s') := by
  obtain ⟨⟨recovered, s₁⟩, b₁, h₁, h₂⟩ := run_bind_eq_some_iff.mp h
  obtain ⟨es, -, hreplies⟩ := run_eq_some_iff.mp h₁
  have hqueued₁ : b₁.queued = [] := (Testbed.replies_same hreplies hqueued).1
  cases recovered with
  | error e => exact nomatch (Prod.mk.inj (run_done_eq_some_iff.mp h₂).1).1
  | ok done =>
    obtain ⟨⟨result, s₂⟩, b₂, h₃, h₄⟩ := run_bind_eq_some_iff.mp h₂
    obtain ⟨hleft, rfl⟩ := run_done_eq_some_iff.mp h₄
    cases result with
    | error e => exact nomatch (Prod.mk.inj hleft).1
    | ok action' =>
      obtain ⟨-, rfl⟩ := Prod.mk.inj hleft
      match t with
      | .lookUp catalog => exact settled_of_lookUp hqueued₁ h₃
      | .managed k => exact settled_of_ensure hqueued₁ h₃
      | .realization => exact settled_of_realize hqueued₁ h₃
      | .lookUpSwitch => exact settled_of_lookUpSwitch hqueued₁ h₃

/-! ### Whole runs -/

/-- Behind tasks that succeeded and do not disturb each other, all are settled. -/
theorem settled_of_runTasks {ts : List Task} {outcomes : List Outcome}
    (hundisturbed : Undisturbed ts) (hqueued : b.queued = [])
    (h : b.run (runTasks c spec ts s) = (some (.ok outcomes, s'), b')) :
    ∀ t ∈ ts, Settled c spec t (b'.plane, s') := by
  induction ts generalizing b s outcomes with
  | nil => exact fun t hmem => absurd hmem List.not_mem_nil
  | cons t ts ih =>
    obtain ⟨hfirst, hundisturbed'⟩ := List.pairwise_cons.mp hundisturbed
    obtain ⟨⟨result, s₁⟩, b₁, h₁, h₂⟩ := run_bind_eq_some_iff.mp h
    obtain ⟨hqueued₁, -⟩ := runTask_confined hqueued h₁
    cases result with
    | error e => exact nomatch (Prod.mk.inj (run_done_eq_some_iff.mp h₂).1).1
    | ok action =>
      obtain ⟨⟨rest, s₂⟩, b₂, h₃, h₄⟩ := run_bind_eq_some_iff.mp h₂
      obtain ⟨hleft, rfl⟩ := run_done_eq_some_iff.mp h₄
      cases rest with
      | error e => exact nomatch (Prod.mk.inj hleft).1
      | ok outcomes' =>
        obtain ⟨-, rfl⟩ := Prod.mk.inj hleft
        have hconfined := (runTasks_confined hqueued₁ h₃).2
        intro t' hmem
        rcases List.mem_cons.mp hmem with rfl | hmem
        · refine (settled_of_run hqueued h₁).congr fun res hres => hconfined res fun hwritten => ?_
          obtain ⟨t'', ht'', hwrites⟩ := List.mem_flatMap.mp hwritten
          exact hfirst t'' ht'' res hres hwrites
        · exact ih hundisturbed' hqueued₁ h₃ t' hmem

/-- Asking disturbs no settled task. -/
theorem Settled.asked {t : Task} (h : Settled c spec t (b.plane, s)) (rs : List Request) :
    Settled c spec t ((b.asked rs).plane, s) := by
  refine h.congr ?_
  intro res _
  cases res with
  | slot _ | address => exact rfl
  | part part => exact Simulator.asked_same part b.plane rs

/-- Settled tasks only look, one after the other. -/
theorem run_of_settled {ts : List Task} (h : ∀ t ∈ ts, Settled c spec t (b.plane, s))
    (hqueued : b.queued = []) (hfailures : b.plane.failures = []) :
    ∃ outcomes rs, (∀ o ∈ outcomes, o.action = .unchanged ∨ o.action = .found) ∧
      (∀ r ∈ rs, r.method.isMutation = false) ∧
      b.run (runTasks c spec ts s) = (some (.ok outcomes, s), b.asked rs) := by
  induction ts generalizing b with
  | nil =>
    refine ⟨[], [], fun _ hmem => absurd hmem List.not_mem_nil,
      fun _ hmem => absurd hmem List.not_mem_nil, ?_⟩
    rw [Testbed.asked_nil]
    rfl
  | cons t ts ih =>
    obtain ⟨action, rs, haction, hrs, hrun⟩ := (h t (.head ts)).run hqueued hfailures
    have hrest : ∀ t' ∈ ts, Settled c spec t' ((b.asked rs).plane, s) :=
      fun t' hmem => (h t' (.tail t hmem)).asked rs
    have hqueued' : (b.asked rs).queued = [] := hqueued
    have hfailures' : (b.asked rs).plane.failures = [] := hfailures
    obtain ⟨outcomes, rs', houtcomes, hrs', hrun'⟩ := ih hrest hqueued' hfailures'
    refine ⟨⟨t.label, action⟩ :: outcomes, rs ++ rs', ?_, ?_, ?_⟩
    · intro o hmem
      rcases List.mem_cons.mp hmem with rfl | hmem
      · exact haction
      · exact houtcomes o hmem
    · intro r hmem
      rcases List.mem_append.mp hmem with hmem | hmem
      · exact hrs r hmem
      · exact hrs' r hmem
    · rw [runTasks, bind_eq, Testbed.run, run_bind, ← Testbed.run, hrun]
      dsimp only
      rw [bind_eq, run_bind, ← Testbed.run, hrun', ← Testbed.asked_asked]
      rfl

/-- **A run behind one that succeeded only looks.** Whatever the control plane holds and whatever
is known of the cluster: if a run has succeeded and no failure is due, the next run with the same
specification and context succeeds, finds everything as it should be, makes no request that could
change anything, and leaves everything as it is but for the record of what was asked. -/
theorem run_idempotent (g : Generation) (c : Context) (spec : Spec) (s s' : State)
    (b b' : Testbed) (outcomes : List Outcome) (hqueued : b.queued = [])
    (hrun : b.run (run g c spec s) = (some (.ok outcomes, s'), b'))
    (hfailures : b'.plane.failures = []) :
    ∃ outcomes' rs, b'.run (run g c spec s') = (some (.ok outcomes', s'), b'.asked rs) ∧
      (∀ o ∈ outcomes', o.action = .unchanged ∨ o.action = .found) ∧
      (∀ r ∈ rs, r.method.isMutation = false) := by
  rw [run] at hrun
  split at hrun
  · cases (run_done_eq_some_iff.mp hrun).1
  · next hvalid =>
    have hsettled := settled_of_runTasks (undisturbed_tasks g) hqueued hrun
    have hqueued' : b'.queued = [] := (runTasks_confined hqueued hrun).1
    obtain ⟨outcomes', rs, houtcomes, hrs, hrun'⟩ := run_of_settled hsettled hqueued' hfailures
    refine ⟨outcomes', rs, ?_, houtcomes, hrs⟩
    rw [run, hvalid]
    exact hrun'

/-- A cluster in a typical region. -/
def typicalCluster : Spec :=
  { smallCluster with
    tier0GatewayName := "tier0-gw"
    edgeClusterName := "edge-cluster-1"
    transportZoneName := "tz-overlay"
    snatIpPoolName := "snat-pool" }

/-- The first run for a cluster in a typical region. -/
def firstRun : Option (Left (List Outcome)) × Testbed :=
  ({ plane := ({} : Simulator).withRegion } : Testbed).run
    (run .v2 { identity := typicalCluster.identity, rounds := 3 } typicalCluster .fresh)

theorem run_idempotent_typical :
    ∃ outcomes s', firstRun.1 = some (.ok outcomes, s') ∧ firstRun.2.plane.failures = [] ∧
      ∃ outcomes' rs,
        firstRun.2.run (run .v2 { identity := typicalCluster.identity, rounds := 3 }
          typicalCluster s') = (some (.ok outcomes', s'), firstRun.2.asked rs) ∧
        (∀ o ∈ outcomes', o.action = .unchanged ∨ o.action = .found) ∧
        (∀ r ∈ rs, r.method.isMutation = false) := by
  have hok : firstRun.1.any (·.1.isOk) = true := by decide +kernel
  have hfailures : firstRun.2.plane.failures = [] := by decide +kernel
  cases hleft : firstRun.1 with
  | none => rw [hleft] at hok; exact nomatch hok
  | some left =>
    obtain ⟨result, s'⟩ := left
    cases result with
    | error e => rw [hleft] at hok; exact nomatch hok
    | ok outcomes =>
      refine ⟨outcomes, s', rfl, hfailures, ?_⟩
      exact run_idempotent .v2 _ typicalCluster .fresh s' _ _ outcomes rfl (Prod.ext hleft rfl)
        hfailures

end Pipeline

end ClusterNet
