import ClusterNet.Proofs.Pipeline.Failure

/-!
# The order of tasks

A task can only do its work when what it builds on is known. That the order of tasks provides for
this is checked on the lists of tasks alone: for each task it is said what it requires, and what is
known for sure once it has done its work, and a list of tasks is in order if each requires only
what those before it have left. A task brings what it is after, and keeps what was known; only a
new allocation makes the address unknown.

What is left to fail a run that starts from a valid specification is then beyond the tasks: the
control plane fails, something that is looked up is not there, or the address does not arrive in
time. That holds for every state that a run starts from, and whatever is answered.

## Main definitions

* `Pipeline.Task.requires`, `Pipeline.Task.knownAfter` — what a task builds on and what it leaves
* `Pipeline.Ordered` — tasks of which each builds on those before it
* `Pipeline.Failing` — the errors of a task that has all it requires

## Main results

* `Pipeline.ordered_tasks` — the tasks of both generations are in order
* `Pipeline.runTask_failing`, `Pipeline.runTask_known` — the contract of a task
* `Pipeline.run_failing` — no run fails for want of something that a task should have left
-/

namespace ClusterNet

namespace Pipeline

open Cluster (InfraError Reference Slot Spec State)
open ControlPlane Program
open Network (AddressPlan Cidr)

/-! ### What tasks build on -/

/-- What must be known for an object of a kind to be drafted. The DHCP settings of a segment are
not among it: a segment is drafted without them where there are none. -/
def requires : Kind → List Item
  | .policy .tier1 => [.reference .tier0Gateway]
  | .policy .localeService => [.reference .edgeCluster, .reference .tier1Gateway]
  | .policy .dhcpServerConfig => [.reference .edgeCluster]
  | .policy .segment => [.reference .tier1Gateway, .reference .transportZone]
  | .policy .ipAllocation => [.reference .snatIpPool]
  | .policy .natRule => [.address, .reference .tier1Gateway]
  | .manager .dhcpProfile => [.reference .edgeCluster]
  | .manager .dhcpServer => [.reference .dhcpProfile]
  | .manager .logicalPort => [.reference .logicalSwitch, .reference .dhcpServer]
  | .manager .dhcpIpPool => [.reference .dhcpServer]

/-- What must be known for a task to do its work. -/
def Task.requires : Task → List Item
  | lookUp _ => []
  | managed k => Pipeline.requires k
  | realization => [.reference .snatIpAllocation]
  | lookUpSwitch => [.reference .segment]

/-- Whether a task may make unknown what was known: a new allocation may bring another address. -/
def Task.unsettles : Task → Item → Bool
  | managed (.policy .ipAllocation), .address => true
  | _, _ => false

/-- What is known for sure once a task has done its work, given what was known before. -/
def Task.knownAfter (t : Task) (items : List Item) : List Item :=
  t.item :: items.filter fun item => !t.unsettles item

/-- Tasks of which each builds on given items and on what those before it have left. -/
def Ordered : List Item → List Task → Prop
  | _, [] => True
  | items, t :: ts => (∀ item ∈ t.requires, item ∈ items) ∧ Ordered (t.knownAfter items) ts

instance decidableOrdered : (items : List Item) → (ts : List Task) → Decidable (Ordered items ts)
  | _, [] => .isTrue trivial
  | items, t :: ts =>
    have := decidableOrdered (t.knownAfter items) ts
    inferInstanceAs (Decidable ((∀ item ∈ t.requires, item ∈ items) ∧ _))

/-- **The tasks of both generations are in order**, even if nothing is known at the start. -/
theorem ordered_tasks (g : Generation) : Ordered [] (tasks g) := by
  cases g <;> decide

/-- All of some items are known. -/
def Known (items : List Item) (s : State) : Prop := ∀ item ∈ items, item.isKnown s = true

variable {k : Kind} {t : Task} {c : Context} {spec : Spec} {s s' : State}
  {es : List Event} {e : InfraError} {items : List Item}

theorem known_nil (s : State) : Known [] s := nofun

/-! ### What a task leaves -/

theorem Advanced.isKnown {own : Option Slot} {item : Item} (h : Advanced own s s')
    (haddress : item = .address → own ≠ none ∧ own ≠ some .snatIpAllocation)
    (hitem : item.isKnown s = true) : item.isKnown s' = true := by
  cases item with
  | reference slot => exact h.isSome slot hitem
  | address =>
    obtain ⟨hown, hother⟩ := haddress rfl
    rw [Item.isKnown, h.address hown hother]
    exact hitem

/-- Once the address has been waited for, it is known. -/
theorem isKnown_of_realization {action : Action}
    (h : (runTask .realization c spec s).Trace es (.ok action, s')) :
    Item.address.isKnown s' = true := by
  rw [runTask_eq (recoverIfLost_of_recover? rfl c s)] at h
  obtain ⟨⟨result, s₁⟩, hrealize, hleft⟩ := trace_bind_done_iff.mp h
  rw [Task.ensure, realize_eq] at hrealize
  split at hrealize
  · obtain ⟨rfl, rfl⟩ := Prod.mk.inj (trace_done_iff.mp hrealize).2
    cases (Prod.mk.inj hleft).1
  · obtain ⟨arrival, -, harrived⟩ := trace_bind_done_iff.mp hrealize
    cases arrival with
    | error e =>
      obtain ⟨rfl, rfl⟩ := Prod.mk.inj harrived
      cases (Prod.mk.inj hleft).1
    | ok address =>
      obtain ⟨rfl, rfl⟩ := Prod.mk.inj harrived
      obtain ⟨-, rfl⟩ := Prod.mk.inj hleft
      rfl

theorem slot_eq_none_iff (t : Task) : t.slot = none ↔ t = .realization := by
  cases t <;> simp [Task.slot]

theorem slot_eq_snatIpAllocation_iff (t : Task) :
    t.slot = some .snatIpAllocation ↔ t = .managed (.policy .ipAllocation) := by
  cases t with
  | lookUp catalog => cases catalog <;> decide
  | managed k => rcases k with k | k <;> cases k <;> decide
  | realization => decide
  | lookUpSwitch => decide

/-- **What is known once a task has done its work**: what it is after, and what was known before
unless the task unsettles it. -/
theorem runTask_known {action : Action} (h : (runTask t c spec s).Trace es (.ok action, s'))
    (hknown : Known items s) : Known (t.knownAfter items) s' := by
  obtain ⟨hadvanced, hfilled⟩ := runTask_advanced h
  intro item hitem
  rcases List.mem_cons.mp hitem with rfl | hmem
  · cases t with
    | lookUp catalog => exact hfilled rfl _ rfl
    | managed k => exact hfilled rfl _ rfl
    | realization => exact isKnown_of_realization h
    | lookUpSwitch => exact hfilled rfl _ rfl
  · obtain ⟨hmem, hsettled⟩ := List.mem_filter.mp hmem
    by_cases hown : t = .realization ∧ item = .address
    · obtain ⟨rfl, rfl⟩ := hown
      exact isKnown_of_realization h
    · refine hadvanced.isKnown (fun hitem => ⟨fun hslot => ?_, fun hslot => ?_⟩) (hknown item hmem)
      · exact hown ⟨(slot_eq_none_iff t).mp hslot, hitem⟩
      · rw [(slot_eq_snatIpAllocation_iff t).mp hslot, hitem] at hsettled
        cases hsettled

/-! ### What a task can fail with -/

/-- The errors of a task that has all it requires. -/
inductive Failing (c : Context) (spec : Spec) : Task → InfraError → Prop
  /-- The control plane failed. -/
  | api (t : Task) (e : ApiError) : Failing c spec t (.api e)
  /-- There is nothing of the wanted name in a catalog. -/
  | absent (catalog : Catalog) :
    Failing c spec (.lookUp catalog)
      (.lookupNotFound (catalogLabel catalog) (wantedName spec catalog))
  /-- No logical switch stands for the segment. -/
  | unmatched (path : String) : Failing c spec .lookUpSwitch (.lookupNotFound switchLabel path)
  /-- The address did not come into being in time. -/
  | late (path : String) :
    Failing c spec .realization (.realizationTimeout path c.realization.timeout)

theorem require_of_isKnown {slot : Slot} (task : String)
    (h : (Item.reference slot).isKnown s = true) : ∃ r, require task s slot = .ok r := by
  obtain ⟨r, hr⟩ := Option.isSome_iff_exists.mp h
  exact ⟨r, by rw [require, hr]⟩

theorem requireAddress_of_isKnown (task : String) (h : Item.address.isKnown s = true) :
    ∃ address, requireAddress task s = .ok address := by
  obtain ⟨address, haddress⟩ := Option.isSome_iff_exists.mp h
  exact ⟨address, by rw [requireAddress, haddress]⟩

/-- A valid specification has an address plan. -/
theorem addressPlan_of_validate (h : spec.validate = .ok ()) :
    ∃ plan, spec.addressPlan = .ok plan := by
  rw [Spec.validate] at h
  split at h
  · cases h
  · cases hplan : spec.addressPlan with
    | error e =>
      rw [hplan] at h
      cases h
    | ok plan => exact ⟨plan, rfl⟩

/-- The network that an address plan was made for can be read. -/
theorem workersNetwork_of_addressPlan {plan : AddressPlan} (h : spec.addressPlan = .ok plan) :
    ∃ workers, workersNetwork spec = .ok workers := by
  rw [Spec.addressPlan, AddressPlan.ofCidr] at h
  rw [workersNetwork]
  cases hparse : Cidr.parse spec.workersNetwork with
  | error e =>
    rw [hparse] at h
    cases h
  | ok workers => exact ⟨workers, rfl⟩

/-- **What is required suffices for a draft**, if the specification is valid. -/
theorem draft_of_known (hvalid : spec.validate = .ok ()) (hknown : Known (requires k) s) :
    ∃ drafted, draft c.identity spec s k = .ok drafted := by
  obtain ⟨plan, hplan⟩ := addressPlan_of_validate hvalid
  obtain ⟨workers, hworkers⟩ := workersNetwork_of_addressPlan hplan
  have hreference : ∀ slot, .reference slot ∈ requires k → ∃ r, require (label k) s slot = .ok r :=
    fun slot hmem => require_of_isKnown (label k) (hknown _ hmem)
  match k, hreference with
  | .policy .tier1, hreference | .policy .ipAllocation, hreference
  | .manager .dhcpProfile, hreference =>
    obtain ⟨r, hr⟩ := hreference _ (.head _)
    exact ⟨_, by simp only [draft, hr]; rfl⟩
  | .policy .localeService, hreference | .manager .logicalPort, hreference =>
    obtain ⟨r, hr⟩ := hreference _ (.head _)
    obtain ⟨r', hr'⟩ := hreference _ (.tail _ (.head _))
    exact ⟨_, by simp only [draft, hr, hr']; rfl⟩
  | .policy .dhcpServerConfig, hreference | .manager .dhcpServer, hreference
  | .manager .dhcpIpPool, hreference =>
    obtain ⟨r, hr⟩ := hreference _ (.head _)
    exact ⟨_, by simp only [draft, hr, hplan]; rfl⟩
  | .policy .segment, hreference =>
    obtain ⟨r, hr⟩ := hreference _ (.head _)
    obtain ⟨r', hr'⟩ := hreference _ (.tail _ (.head _))
    exact ⟨_, by simp only [draft, hr, hr', hplan]; rfl⟩
  | .policy .natRule, hreference =>
    obtain ⟨address, haddress⟩ := requireAddress_of_isKnown (label (.policy .natRule))
      (hknown _ (.head _))
    obtain ⟨r, hr⟩ := hreference _ (.tail _ (.head _))
    exact ⟨_, by simp only [draft, haddress, hworkers, hr]; rfl⟩

/-- A task that has all it requires fails with one of its own errors. -/
theorem Task.ensure_failing (hvalid : spec.validate = .ok ()) (hknown : Known t.requires s)
    (h : (t.ensure c spec s).Trace es (.error e, s')) : Failing c spec t e := by
  cases t with
  | lookUp catalog =>
    rw [Task.ensure, lookUp_eq, trace_bind_done_iff] at h
    obtain ⟨found, -, hbound⟩ := h
    obtain ⟨⟨e', rfl⟩ | rfl, -⟩ := bound_failed hbound.symm
    · exact .api _ e'
    · exact .absent catalog
  | managed k =>
    obtain ⟨drafted, hdrafted⟩ := draft_of_known hvalid hknown
    rcases (ensured_of_trace h).failed with ⟨hdraft, -⟩ | ⟨⟨e', rfl⟩, -⟩
    · cases hdrafted.symm.trans hdraft
    · exact .api _ e'
  | realization =>
    obtain ⟨allocation, hallocation⟩ := Option.isSome_iff_exists.mp (hknown _ (.head _))
    rw [Task.ensure, realize_eq] at h
    simp only [hallocation] at h
    obtain ⟨result, hawait, hleft⟩ := trace_bind_done_iff.mp h
    obtain ⟨rfl, -⟩ := arrived_failed hleft.symm
    rcases awaitAddress_failed hawait with ⟨e', rfl⟩ | rfl
    · exact .api _ e'
    · exact .late allocation.path
  | lookUpSwitch =>
    obtain ⟨segment, hsegment⟩ := Option.isSome_iff_exists.mp (hknown _ (.head _))
    rw [Task.ensure, lookUpSwitch_eq] at h
    simp only [hsegment] at h
    obtain ⟨found, -, hbound⟩ := trace_bind_done_iff.mp h
    obtain ⟨⟨e', rfl⟩ | rfl, -⟩ := bound_failed hbound.symm
    · exact .api _ e'
    · exact .unmatched segment.path

theorem Recovered.known (h : Recovered t c s es s') (hknown : Known items s) : Known items s' := by
  obtain ⟨k, parent, id, -, -, -, -, rfl, -⟩ := h
  have hadvanced := advanced_withReference s (slot_manager_ne_segment k) ⟨id, k.path ⟨parent, id⟩⟩
  refine fun item hitem => hadvanced.isKnown (fun _ => ⟨nofun, fun hslot => ?_⟩) (hknown item hitem)
  cases k <;> cases hslot

/-- **What a task fails with** that has all it requires, whatever is answered. -/
theorem runTask_failing (hvalid : spec.validate = .ok ()) (hknown : Known t.requires s)
    (h : (runTask t c spec s).Trace es (.error e, s')) :
    ∃ source, Failing c spec t source ∧ e = .task t.label source := by
  rcases runTask_failed h with ⟨⟨e', hlabel⟩, -⟩ |
    ⟨es₁, es₂, s₁, source, -, hrecovered, hensure, hlabel⟩
  · exact ⟨.api e', .api t e', hlabel⟩
  · have hknown₁ : Known t.requires s₁ := by
      rcases hrecovered with rfl | hrecovered
      · exact hknown
      · exact hrecovered.known hknown
    exact ⟨source, Task.ensure_failing hvalid hknown₁ hensure, hlabel⟩

/-! ### Runs -/

/-- Tasks that are in order fail with their own errors only. The induction is on the tasks, and
what carries it is that all is known that those before were to leave. -/
theorem runTasks_failing (hvalid : spec.validate = .ok ()) {ts : List Task}
    (hordered : Ordered items ts) (hknown : Known items s)
    (h : (runTasks c spec ts s).Trace es (.error e, s')) :
    ∃ t ∈ ts, ∃ source, Failing c spec t source ∧ e = .task t.label source := by
  induction ts generalizing items s es with
  | nil => cases (Prod.mk.inj (trace_done_iff.mp h).2).1
  | cons t ts ih =>
    obtain ⟨hrequires, hrest⟩ := hordered
    rw [runTasks, bind_eq, trace_bind_iff] at h
    obtain ⟨es₁, es₂, ⟨result, s₁⟩, rfl, h₁, h₂⟩ := h
    cases result with
    | error e₁ =>
      obtain ⟨he, -⟩ := Prod.mk.inj (trace_done_iff.mp h₂).2
      obtain rfl := Except.error.inj he
      have hall : Known t.requires s := fun item hitem => hknown item (hrequires item hitem)
      exact ⟨t, .head ts, runTask_failing hvalid hall h₁⟩
    | ok action =>
      obtain ⟨⟨rest, s₂⟩, h₃, hleft⟩ := trace_bind_done_iff.mp h₂
      cases rest with
      | ok outcomes => cases (Prod.mk.inj hleft).1
      | error e₂ =>
        obtain ⟨he, rfl⟩ := Prod.mk.inj hleft
        obtain rfl := Except.error.inj he
        obtain ⟨t', hmem, hfailing⟩ := ih hrest (runTask_known h₁ hknown) h₃
        exact ⟨t', .tail t hmem, hfailing⟩

/-- **No run fails for want of what an earlier task should have left.** Whatever state a run starts
from and whatever is answered, if the specification is valid, a run fails only because the control
plane failed, because what a task looks up is not there, or because the address did not come into
being in time. -/
theorem run_failing (g : Generation) (c : Context) (spec : Spec) (s : State)
    (hvalid : spec.validate = .ok ()) {es : List Event} {e : InfraError} {s' : State}
    (h : (run g c spec s).Trace es (.error e, s')) :
    ∃ t ∈ tasks g, ∃ source, Failing c spec t source ∧ e = .task t.label source := by
  rw [run, hvalid] at h
  exact runTasks_failing hvalid (ordered_tasks g) (known_nil s) h

/-- A cluster that is to get its address from a pool that does not exist. -/
def poollessCluster : Spec := { typicalCluster with snatIpPoolName := "elsewhere" }

/-- A run that finds all but the pool of outward addresses. -/
theorem run_failing_poolless :
    poollessCluster.validate = .ok () ∧
    ∃ es s', (run .v2 recovering poollessCluster .fresh).Trace es
        (.error (.task "snat-ip-pool-lookup"
          (.lookupNotFound "snat-ip-pool-lookup" "elsewhere")), s') ∧
      ∃ t ∈ tasks .v2, ∃ source, Failing recovering poollessCluster t source ∧
        InfraError.task "snat-ip-pool-lookup" (.lookupNotFound "snat-ip-pool-lookup" "elsewhere") =
          .task t.label source := by
  have hvalid : poollessCluster.validate = .ok () := rfl
  let cause : InfraError :=
    .task "snat-ip-pool-lookup" (.lookupNotFound "snat-ip-pool-lookup" "elsewhere")
  have hstopped : ((run .v2 recovering poollessCluster .fresh).run Testbed.perform
      { plane := ({} : Simulator).withRegion }).1.any (fun left =>
        match left.1 with
        | .error e => e == cause
        | .ok _ => false) = true := by decide +kernel
  obtain ⟨⟨result, s'⟩, hleft, hresult⟩ := (Option.any_eq_true _ _).mp hstopped
  obtain ⟨es, htrace⟩ := exists_trace_of_run hleft
  obtain rfl : result = .error cause := by
    cases result with
    | error e => exact congrArg _ (eq_of_beq hresult)
    | ok outcomes => cases hresult
  exact ⟨hvalid, es, s', htrace,
    run_failing .v2 recovering poollessCluster .fresh hvalid htrace⟩

end Pipeline

end ClusterNet
