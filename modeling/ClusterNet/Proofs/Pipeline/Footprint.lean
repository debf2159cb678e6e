import ClusterNet.Proofs.ControlPlane.Testbed
import ClusterNet.Proofs.Pipeline.References

/-!
# What tasks read and write

Every task works on a few things: slots of the state, the address in it, and parts of the control
plane. What it makes of its surroundings depends on what it reads, and it changes nothing but what
it writes. The tasks of a cluster are in an order in which *no task writes what a task before it
reads*, which is why tasks never disturb each other.

## Main definitions

* `Pipeline.World`, `Pipeline.Resource` — a control plane with a state, and the things in both
* `Task.reads`, `Task.writes` — what a task works on

## Main results

* `Pipeline.runTask_confined`, `Pipeline.runTasks_confined` — what is not written stays as it was
* `Pipeline.runTasks_invariant` — what every task keeps is kept by going through them
* `Pipeline.draft_congr` — how an object should be depends on what is read
* `Pipeline.undisturbed_tasks` — no task writes what a task before it reads
-/

namespace ClusterNet

namespace Pipeline

open Cluster (InfraError Reference Slot Spec State)
open ControlPlane Program

/-! ### Resources -/

/-- A control plane and what is known of a cluster. -/
abbrev World := Simulator × State

/-- The things that tasks work on. -/
inductive Resource where
  /-- The reference in a slot. -/
  | slot (slot : Slot)
  /-- The outward address. -/
  | address
  /-- A part of the control plane. -/
  | part (part : Part)
deriving DecidableEq

/-- Whether a thing is the same in two worlds. -/
def Resource.Same : Resource → World → World → Prop
  | slot own, w, w' => w'.2.reference own = w.2.reference own
  | address, w, w' => w'.2.snatIpAddress = w.2.snatIpAddress
  | part p, w, w' => p.Same w.1 w'.1

theorem Resource.Same.refl (res : Resource) (w : World) : res.Same w w := by
  cases res with
  | slot _ | address => exact rfl
  | part part => exact Part.Same.refl part w.1

theorem Resource.Same.trans {res : Resource} {w w' w'' : World} (h : res.Same w w')
    (h' : res.Same w' w'') : res.Same w w'' := by
  cases res with
  | slot _ | address => exact Eq.trans h' h
  | part part => exact Part.Same.trans h h'

/-- The slots of the references that it takes to say how an object of a kind should be. -/
def needs : Kind → List Slot
  | .policy .tier1 => [.tier0Gateway]
  | .policy .localeService => [.edgeCluster, .tier1Gateway]
  | .policy .dhcpServerConfig => [.edgeCluster]
  | .policy .segment => [.tier1Gateway, .transportZone, .dhcpServerConfig]
  | .policy .ipAllocation => [.snatIpPool]
  | .policy .natRule => [.tier1Gateway]
  | .manager .dhcpProfile => [.edgeCluster]
  | .manager .dhcpServer => [.dhcpProfile]
  | .manager .logicalPort => [.logicalSwitch, .dhcpServer]
  | .manager .dhcpIpPool => [.dhcpServer]

namespace Task

/-- The parts of the control plane that a task may change. -/
def touches : Task → List Part
  | managed k => .table k :: companions k
  | realization => [.addresses]
  | lookUp _ | lookUpSwitch => []

/-- What a task may change. A new allocation may bring another address. -/
def writes : Task → List Resource
  | lookUp c => [.slot (catalogSlot c)]
  | managed (.policy .ipAllocation) =>
    .slot .snatIpAllocation :: .address :: (touches (managed (.policy .ipAllocation))).map .part
  | managed k => .slot (Pipeline.slot k) :: (touches (managed k)).map .part
  | realization => .address :: (touches realization).map .part
  | lookUpSwitch => [.slot .logicalSwitch]

/-- What the result of a task depends on. -/
def reads : Task → List Resource
  | lookUp c => [.slot (catalogSlot c), .part .settings]
  | managed (.policy .natRule) =>
    .slot .snatRule :: .part (.table (.policy .natRule)) :: .address ::
      (needs (.policy .natRule)).map .slot
  | managed k => .slot (Pipeline.slot k) :: .part (.table k) :: (needs k).map .slot
  | realization => [.slot .snatIpAllocation, .address, .part .addresses]
  | lookUpSwitch => [.slot .segment, .slot .logicalSwitch, .part .switches, .part .settings]

end Task

/-- Whether no task of a list writes what a task before it reads. -/
abbrev Undisturbed (ts : List Task) : Prop :=
  ts.Pairwise fun t t' => ∀ res ∈ t.reads, res ∉ t'.writes

/-- **No task of a cluster writes what a task before it reads.** -/
theorem undisturbed_tasks (g : Generation) : Undisturbed (tasks g) := by
  cases g <;> decide

/-! ### What is touched -/

/-- Whether events touch no other parts than the given ones. -/
def Within (parts : List Part) (es : List Event) : Prop :=
  ∀ e ∈ es, ∀ part ∈ e.1.touches, part ∈ parts

theorem within_nil (parts : List Part) : Within parts [] :=
  fun _ he => absurd he List.not_mem_nil

theorem within_cons {parts : List Part} {e : Event} {es : List Event}
    (he : e.1.touches ⊆ parts) (hes : Within parts es) : Within parts (e :: es) := by
  intro e' hmem
  rcases List.mem_cons.mp hmem with rfl | hmem
  · intro part hpart
    exact he hpart
  · exact hes e' hmem

theorem within_append {parts : List Part} {es es' : List Event} (h : Within parts es)
    (h' : Within parts es') : Within parts (es ++ es') := by
  intro e hmem
  rcases List.mem_append.mp hmem with hmem | hmem
  · exact h e hmem
  · exact h' e hmem

theorem Within.mono {parts parts' : List Part} {es : List Event} (h : Within parts es)
    (hsub : parts ⊆ parts') : Within parts' es :=
  fun e hmem part hpart => hsub (h e hmem part hpart)

theorem Built.within {k : Kind} {parent : String} {o : k.Object} {s : State} {es : List Event}
    {left : Left Action} (h : Built parent s k o es left) : Within (Task.managed k).touches es := by
  have hdrawn : ∀ id, (drawn id).1.touches ⊆ (Task.managed k).touches :=
    fun _ => List.nil_subset _
  have htable : [Part.table k] ⊆ (Task.managed k).touches :=
    List.cons_subset_cons _ (List.nil_subset _)
  cases h with
  | declared id => exact within_cons (hdrawn id) (within_cons (List.Subset.refl _) (within_nil _))
  | undeclared id e =>
    exact within_cons (hdrawn id) (within_cons (List.Subset.refl _) (within_nil _))
  | created hid => exact within_cons htable (within_nil _)
  | nameless hid => exact within_cons htable (within_nil _)
  | uncreated e => exact within_cons htable (within_nil _)

theorem Overwritten.within {k : Kind} {place : Place} {current desired : k.Object} {s : State}
    {es : List Event} {left : Left Action} (h : Overwritten place s k current desired es left) :
    Within (Task.managed k).touches es := by
  have htable : [Part.table k] ⊆ (Task.managed k).touches :=
    List.cons_subset_cons _ (List.nil_subset _)
  cases h with
  | declared => exact within_cons (List.Subset.refl _) (within_nil _)
  | undeclared e => exact within_cons (List.Subset.refl _) (within_nil _)
  | updated => exact within_cons htable (within_nil _)
  | refused e => exact within_cons htable (within_nil _)

theorem Ensured.within {k : Kind} {c : Context} {spec : Spec} {s : State} {es : List Event}
    {left : Left Action} (h : Ensured k c spec s es left) :
    Within (Task.managed k).touches es := by
  cases h with
  | undrafted hdraft => exact within_nil _
  | first hdraft href h => exact h.within
  | kept hdraft href hagrees => exact within_cons (List.nil_subset _) (within_nil _)
  | changed hdraft href hagrees h => exact within_cons (List.nil_subset _) h.within
  | again hdraft href he h => exact within_cons (List.nil_subset _) h.within
  | unread hdraft href he => exact within_cons (List.nil_subset _) (within_nil _)

/-- Waiting for an address asks what the allocation has become, and pauses. -/
theorem within_awaitAddress {schedule : RealizationSchedule} {path : String} {polls : Nat}
    {es : List Event} {result : Except InfraError String}
    (h : (awaitAddress schedule path polls).Trace es result) : Within [.addresses] es := by
  refine trace_loop_forall (fun w es' next h' => ?_) h
  obtain ⟨answer, es₁, rfl, h₁⟩ := trace_request_bind_iff.mp h'
  refine within_cons (List.Subset.refl _) ?_
  split at h₁
  · rw [(trace_done_iff.mp h₁).1]
    exact within_nil _
  · split at h₁
    · rw [(trace_done_iff.mp h₁).1]
      exact within_nil _
    · obtain ⟨_, es₂, rfl, h₂⟩ := trace_request_bind_iff.mp h₁
      rw [(trace_done_iff.mp h₂).1]
      exact within_cons (List.nil_subset _) (within_nil _)

/-- Going through a listing touches nothing. -/
theorem within_call {r : Request} (hr : r.touches = []) {es : List Event} {answer : Answer r}
    (h : (Work.call r).Trace es answer) : Within [] es := by
  rw [trace_request_iff.mp h]
  exact within_cons (List.subset_nil.mpr hr) (within_nil _)

theorem Task.within_ensure {t : Task} {c : Context} {spec : Spec} {s : State} {es : List Event}
    {left : Left Action} (h : (t.ensure c spec s).Trace es left) : Within t.touches es := by
  cases t with
  | lookUp catalog =>
    rw [Task.ensure, lookUp_eq, trace_bind_done_iff] at h
    obtain ⟨found, h, -⟩ := h
    exact trace_findFirst (fun _ _ _ => within_call rfl) h
  | managed k => exact (ensured_of_trace h).within
  | realization =>
    rw [Task.ensure, realize_eq] at h
    split at h
    · rw [(trace_done_iff.mp h).1]
      exact within_nil _
    · obtain ⟨result, h, -⟩ := trace_bind_done_iff.mp h
      exact within_awaitAddress h
  | lookUpSwitch =>
    rw [Task.ensure, lookUpSwitch_eq] at h
    split at h
    · rw [(trace_done_iff.mp h).1]
      exact within_nil _
    · obtain ⟨found, h, -⟩ := trace_bind_done_iff.mp h
      exact trace_findFirst (fun _ _ _ => within_call rfl) h

theorem within_recoverIfLost {t : Task} {c : Context} {s : State} {es : List Event}
    {left : Left Unit} (h : (recoverIfLost t c s).Trace es left) : Within [] es := by
  rcases recoverIfLost_cases t c s with hrecover | ⟨k, rfl, -, hrecover⟩
  · rw [hrecover] at h
    rw [(trace_done_iff.mp h).1]
    exact within_nil _
  · rw [hrecover, adopt_eq] at h
    obtain ⟨left', h', -⟩ := trace_bind_done_iff.mp h
    split at h'
    · rw [(trace_done_iff.mp h').1]
      exact within_nil _
    · obtain ⟨found, h', -⟩ := trace_bind_done_iff.mp h'
      exact trace_findFirst (fun _ _ _ => within_call rfl) h'

theorem within_runTask {t : Task} {c : Context} {spec : Spec} {s : State} {es : List Event}
    {left : Left Action} (h : (runTask t c spec s).Trace es left) : Within t.touches es := by
  rw [runTask, bind_eq, trace_bind_iff] at h
  obtain ⟨es₁, es₂, ⟨recovered, s₁⟩, rfl, h₁, h₂⟩ := h
  refine within_append ((within_recoverIfLost h₁).mono (List.nil_subset _)) ?_
  cases recovered with
  | error e =>
    rw [(trace_done_iff.mp h₂).1]
    exact within_nil _
  | ok done =>
    obtain ⟨left', h₃, -⟩ := trace_bind_done_iff.mp h₂
    exact Task.within_ensure h₃

/-- Only the task of a kind touches the objects of the kind. -/
theorem eq_managed_of_table_mem_touches {t : Task} {k : Kind} (h : .table k ∈ t.touches) :
    t = .managed k := by
  cases t with
  | lookUp _ | lookUpSwitch => cases h
  | realization => cases List.mem_singleton.mp h
  | managed k' =>
    rcases List.mem_cons.mp h with heq | hmem
    · rw [Part.table.inj heq]
    · rcases k' with k' | k' <;> cases k' <;> simp [companions] at hmem

/-! ### What is not written -/

theorem Task.slot_mem_writes {t : Task} {slot : Slot} (h : t.slot = some slot) :
    .slot slot ∈ t.writes := by
  match t with
  | lookUp c => rw [← Option.some.inj h]; exact .head _
  | managed k =>
    rw [← Option.some.inj h]
    match k with
    | .policy .ipAllocation => exact .head _
    | .policy .tier1 | .policy .localeService | .policy .segment | .policy .natRule
    | .policy .dhcpServerConfig | .manager _ => exact .head _
  | realization => exact nomatch h
  | lookUpSwitch => rw [← Option.some.inj h]; exact .head _

theorem Task.address_mem_writes {t : Task} (h : t.slot = none ∨ t.slot = some .snatIpAllocation) :
    .address ∈ t.writes := by
  match t with
  | lookUp c => cases c <;> exact absurd h (by decide)
  | managed k =>
    match k with
    | .policy .ipAllocation => exact .tail _ (.head _)
    | .policy .tier1 | .policy .localeService | .policy .segment | .policy .natRule
    | .policy .dhcpServerConfig => exact absurd h (by decide)
    | .manager k => cases k <;> exact absurd h (by decide)
  | realization => exact .head _
  | lookUpSwitch => exact absurd h (by decide)

theorem Task.part_mem_writes {t : Task} {part : Part} (h : part ∈ t.touches) :
    .part part ∈ t.writes := by
  have hmem : Resource.part part ∈ t.touches.map .part := List.mem_map_of_mem h
  match t with
  | lookUp c | lookUpSwitch => exact nomatch h
  | managed k =>
    match k with
    | .policy .ipAllocation => exact .tail _ (.tail _ hmem)
    | .policy .tier1 | .policy .localeService | .policy .segment | .policy .natRule
    | .policy .dhcpServerConfig | .manager _ => exact .tail _ hmem
  | realization => exact .tail _ hmem

/-- Whether nothing changed but what was written. -/
abbrev Confined (writes : List Resource) (w w' : World) : Prop :=
  ∀ res ∉ writes, res.Same w w'

variable {b b' : Testbed} {c : Context} {spec : Spec}

/-- **A task changes nothing but what it writes.** -/
theorem runTask_confined {t : Task} {s : State} {left : Left Action} (hqueued : b.queued = [])
    (h : b.run (runTask t c spec s) = (some left, b')) :
    b'.queued = [] ∧ Confined t.writes (b.plane, s) (b'.plane, left.2) := by
  obtain ⟨es, htrace, hreplies⟩ := run_eq_some_iff.mp h
  obtain ⟨hqueued', hsame⟩ := Testbed.replies_same hreplies hqueued
  obtain ⟨hadvanced, -⟩ := runTask_advanced htrace
  refine ⟨hqueued', fun res hnot => ?_⟩
  cases res with
  | slot slot => exact hadvanced.others slot fun hown => hnot (Task.slot_mem_writes hown)
  | address =>
    exact hadvanced.address (fun hown => hnot (Task.address_mem_writes (.inl hown)))
      fun hown => hnot (Task.address_mem_writes (.inr hown))
  | part part =>
    exact hsame part fun e hmem hpart =>
      hnot (Task.part_mem_writes (within_runTask htrace e hmem part hpart))

/-- The objects of a kind are stored by the task that looks after them, and by no other. -/
theorem table_runTask_of_ne {t : Task} {k : Kind} {s : State} {left : Left Action}
    (hqueued : b.queued = []) (h : b.run (runTask t c spec s) = (some left, b'))
    (ht : t ≠ .managed k) : b'.plane.inventory.table k = b.plane.inventory.table k := by
  obtain ⟨es, htrace, hreplies⟩ := run_eq_some_iff.mp h
  refine (Testbed.replies_same hreplies hqueued).2 (.table k) fun e hmem hpart => ht ?_
  exact eq_managed_of_table_mem_touches (within_runTask htrace e hmem _ hpart)

/-- Recovering only looks. -/
theorem recoverIfLost_same {t : Task} {s : State} {left : Left Unit} (hqueued : b.queued = [])
    (h : b.run (recoverIfLost t c s) = (some left, b')) :
    b'.queued = [] ∧ ∀ part : Part, part.Same b.plane b'.plane := by
  obtain ⟨es, htrace, hreplies⟩ := run_eq_some_iff.mp h
  obtain ⟨hqueued', hsame⟩ := Testbed.replies_same hreplies hqueued
  exact ⟨hqueued', fun part => hsame part fun e hmem hpart =>
    absurd (within_recoverIfLost htrace e hmem part hpart) List.not_mem_nil⟩

/-- A task that looks after an object and has nothing to recover makes sure of it at once. -/
theorem ensured_of_run {k : Kind} {s : State} {left : Left Action}
    (hrecover : recoverIfLost (.managed k) c s = .done (.ok (), s))
    (h : b.run (runTask (.managed k) c spec s) = (some left, b')) :
    ∃ es left', Ensured k c spec s es left' ∧ Replies Testbed.perform es b b' ∧
      left = (left'.1.mapError (·.inTask (Task.managed k).label), left'.2) := by
  rw [runTask_eq hrecover] at h
  obtain ⟨left', b₁, h₁, h₂⟩ := run_bind_eq_some_iff.mp h
  obtain ⟨hleft, rfl⟩ := run_done_eq_some_iff.mp h₂
  obtain ⟨es, htrace, hreplies⟩ := run_eq_some_iff.mp h₁
  exact ⟨es, left', ensured_of_trace htrace, hreplies, hleft⟩

/-- A task that looks after an object stops while it recovers what was lost, or makes sure of the
object behind that. -/
theorem runTask_managed_cases {k : Kind} {s : State} {left : Left Action} (hqueued : b.queued = [])
    (h : b.run (runTask (.managed k) c spec s) = (some left, b')) :
    ∃ recovered b₁, b.run (recoverIfLost (.managed k) c s) = (some recovered, b₁) ∧
      b₁.queued = [] ∧ (left.2 = recovered.2 ∧ b' = b₁ ∨
        ∃ es left', Ensured k c spec recovered.2 es left' ∧ Replies Testbed.perform es b₁ b' ∧
          left.2 = left'.2) := by
  obtain ⟨⟨recovered, s₁⟩, b₁, h₁, h₂⟩ := run_bind_eq_some_iff.mp h
  obtain ⟨es₁, -, hreplies₁⟩ := run_eq_some_iff.mp h₁
  refine ⟨(recovered, s₁), b₁, h₁, (Testbed.replies_same hreplies₁ hqueued).1, ?_⟩
  cases recovered with
  | error e =>
    obtain ⟨rfl, rfl⟩ := run_done_eq_some_iff.mp h₂
    exact .inl ⟨rfl, rfl⟩
  | ok done =>
    obtain ⟨left', b₂, h₃, h₄⟩ := run_bind_eq_some_iff.mp h₂
    obtain ⟨rfl, rfl⟩ := run_done_eq_some_iff.mp h₄
    obtain ⟨es₂, htrace, hreplies₂⟩ := run_eq_some_iff.mp h₃
    exact .inr ⟨es₂, left', ensured_of_trace htrace, hreplies₂, rfl⟩

/-- **What every task keeps is kept by going through them**, wherever that stops. -/
theorem runTasks_invariant {P : Testbed → State → Prop}
    (hstep : ∀ {t b b' s left}, P b s → b.run (runTask t c spec s) = (some left, b') → P b' left.2)
    {ts : List Task} {s : State} {left : Left (List Outcome)} (hP : P b s)
    (h : b.run (runTasks c spec ts s) = (some left, b')) : P b' left.2 := by
  induction ts generalizing b s left with
  | nil =>
    obtain ⟨rfl, rfl⟩ := run_done_eq_some_iff.mp h
    exact hP
  | cons t ts ih =>
    obtain ⟨⟨result, s₁⟩, b₁, h₁, h₂⟩ := run_bind_eq_some_iff.mp h
    have hfirst : P b₁ s₁ := hstep hP h₁
    cases result with
    | error e =>
      obtain ⟨rfl, rfl⟩ := run_done_eq_some_iff.mp h₂
      exact hfirst
    | ok action =>
      obtain ⟨⟨rest, s₂⟩, b₂, h₃, h₄⟩ := run_bind_eq_some_iff.mp h₂
      obtain ⟨rfl, rfl⟩ := run_done_eq_some_iff.mp h₄
      have hrest := ih hfirst h₃
      exact hrest

/-- What every task keeps when it is taken down is kept by taking tasks down. -/
theorem removeAll_invariant {P : Testbed → State → Prop}
    (hstep : ∀ {t : Task} {b b' s left}, P b s → b.run (t.remove s) = (some left, b') →
      P b' left.2)
    {ts : List Task} {s : State} {left : Left (List String)} (hP : P b s)
    (h : b.run (removeAll ts s) = (some left, b')) : P b' left.2 := by
  induction ts generalizing b s left with
  | nil =>
    obtain ⟨rfl, rfl⟩ := run_done_eq_some_iff.mp h
    exact hP
  | cons t ts ih =>
    obtain ⟨⟨result, s₁⟩, b₁, h₁, h₂⟩ := run_bind_eq_some_iff.mp h
    have hfirst : P b₁ s₁ := hstep hP h₁
    cases result with
    | error e =>
      obtain ⟨rfl, rfl⟩ := run_done_eq_some_iff.mp h₂
      exact hfirst
    | ok deleted =>
      obtain ⟨⟨rest, s₂⟩, b₂, h₃, h₄⟩ := run_bind_eq_some_iff.mp h₂
      obtain ⟨rfl, rfl⟩ := run_done_eq_some_iff.mp h₄
      have hrest := ih hfirst h₃
      exact hrest

theorem runTasks_confined {ts : List Task} {s : State} {left : Left (List Outcome)}
    (hqueued : b.queued = []) (h : b.run (runTasks c spec ts s) = (some left, b')) :
    b'.queued = [] ∧ Confined (ts.flatMap Task.writes) (b.plane, s) (b'.plane, left.2) := by
  induction ts generalizing b s left with
  | nil =>
    obtain ⟨rfl, rfl⟩ := run_done_eq_some_iff.mp h
    exact ⟨hqueued, fun res _ => .refl res _⟩
  | cons t ts ih =>
    obtain ⟨⟨result, s₁⟩, b₁, h₁, h₂⟩ := run_bind_eq_some_iff.mp h
    obtain ⟨hqueued₁, hfirst⟩ := runTask_confined hqueued h₁
    have hhead : ∀ res ∉ (t :: ts).flatMap Task.writes, res ∉ t.writes :=
      fun res hnot hmem => hnot (List.mem_flatMap.mpr ⟨t, List.mem_cons_self, hmem⟩)
    cases result with
    | error e =>
      obtain ⟨rfl, rfl⟩ := run_done_eq_some_iff.mp h₂
      exact ⟨hqueued₁, fun res hnot => hfirst res (hhead res hnot)⟩
    | ok action =>
      obtain ⟨⟨rest, s₂⟩, b₂, h₃, h₄⟩ := run_bind_eq_some_iff.mp h₂
      obtain ⟨rfl, rfl⟩ := run_done_eq_some_iff.mp h₄
      obtain ⟨hqueued₂, hrest⟩ := ih hqueued₁ h₃
      refine ⟨hqueued₂, fun res hnot => ?_⟩
      refine (hfirst res (hhead res hnot)).trans (hrest res fun hmem => hnot ?_)
      obtain ⟨t', ht', hres⟩ := List.mem_flatMap.mp hmem
      exact List.mem_flatMap.mpr ⟨t', List.mem_cons_of_mem t ht', hres⟩

/-! ### What drafts depend on -/

theorem require_congr {s s' : State} {slot : Slot} (h : s'.reference slot = s.reference slot)
    (task : String) : require task s' slot = require task s slot := by
  rw [require, h, require]

/-- How an object should be depends on the references that are needed, and for one kind on the
address. -/
theorem draft_congr {identity : ClusterIdentity} {s s' : State} {k : Kind}
    (hslots : ∀ slot ∈ needs k, s'.reference slot = s.reference slot)
    (haddress : k = .policy .natRule → s'.snatIpAddress = s.snatIpAddress) :
    draft identity spec s' k = draft identity spec s k := by
  have hrequire : ∀ slot ∈ needs k, ∀ task, require task s' slot = require task s slot :=
    fun slot hmem => require_congr (hslots slot hmem)
  match k with
  | .policy .tier1 => simp only [draft, hrequire .tier0Gateway (by decide)]
  | .policy .localeService =>
    simp only [draft, hrequire .edgeCluster (by decide), hrequire .tier1Gateway (by decide)]
  | .policy .dhcpServerConfig => simp only [draft, hrequire .edgeCluster (by decide)]
  | .policy .segment =>
    have hdhcp : s'.dhcpServerConfig = s.dhcpServerConfig := hslots .dhcpServerConfig (by decide)
    simp only [draft, hrequire .tier1Gateway (by decide), hrequire .transportZone (by decide),
      hdhcp]
  | .policy .ipAllocation => simp only [draft, hrequire .snatIpPool (by decide)]
  | .policy .natRule =>
    simp only [draft, hrequire .tier1Gateway (by decide), requireAddress, haddress rfl]
  | .manager .dhcpProfile => simp only [draft, hrequire .edgeCluster (by decide)]
  | .manager .dhcpServer => simp only [draft, hrequire .dhcpProfile (by decide)]
  | .manager .logicalPort =>
    simp only [draft, hrequire .logicalSwitch (by decide), hrequire .dhcpServer (by decide)]
  | .manager .dhcpIpPool => simp only [draft, hrequire .dhcpServer (by decide)]

end Pipeline

end ClusterNet
