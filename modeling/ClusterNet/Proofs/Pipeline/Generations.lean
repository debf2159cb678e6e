import ClusterNet.Proofs.Pipeline.Whereabouts

/-!
# Takedowns across generations

The tasks of a takedown are picked by the generation that the control plane has now and by what the
state holds. A state that was built at both generations holds manager objects, and all tasks are
taken. A state without manager objects is taken down by the tasks of the present generation alone,
and those of the older one do not look after the DHCP server configuration.

So a takedown in which no deletion fails always succeeds, and it forgets everything but for one
case: a configuration that was created at the newer generation is left behind when the older one is
reported.

## Main definitions

* `Pipeline.ReachableAcross` — the states that runs and takedowns of either generation lead to
* `Pipeline.NoneFailed` — no deletion failed

## Main results

* `Pipeline.Cleared.holdsNoReferences_iff` — when a takedown that is done leaves nothing known
* `Pipeline.takeDown_forgets_iff` — takedowns come to an end, succeed and forget
* `Pipeline.takeDown_downgraded` — the configuration that is left behind
-/

namespace ClusterNet

namespace Pipeline

open Cluster (InfraError Reference Slot Spec State)
open ControlPlane Program

variable {s s' : State} {k : Kind} {t : Task} {ts : List Task} {es : List Event} {g : Generation}

/-! ### Histories -/

/-- The states that runs and takedowns lead to, each of which may meet another generation of the
control plane. They may be given other specifications and contexts, and may be answered anything;
the ids that they draw can be part of a path. -/
inductive ReachableAcross : State → Prop
  /-- Nothing is known yet. -/
  | fresh : ReachableAcross .fresh
  /-- A run, which may have stopped anywhere. -/
  | run {g : Generation} {c : Context} {spec : Spec} {s s' : State} {es : List Event}
    {result : Except InfraError (List Outcome)} (hs : ReachableAcross s) (hids : DrawsIds es)
    (h : (run g c spec s).Trace es (result, s')) : ReachableAcross s'
  /-- A takedown, which may have stopped anywhere. -/
  | takeDown {g : Generation} {ts : List Task} {s s' : State} {es : List Event}
    {result : Except InfraError (List String)} (hs : ReachableAcross s)
    (hts : ts = tasks g ∨ ts = teardownTasks g s)
    (h : (takeDownTasks ts s).Trace es (result, s')) : ReachableAcross s'

theorem ReachableAcross.homed (h : ReachableAcross s) : Homed s := by
  induction h with
  | fresh => exact homed_fresh
  | run _ hids h ih => exact ih.run hids h
  | takeDown _ hts h ih => exact ih.takeDownTasks hts h

/-! ### Takedowns in which nothing fails -/

/-- Whether no deletion failed. An object that was gone already is no failure. -/
def NoneFailed (es : List Event) : Prop :=
  ∀ k place answer, called (.delete k place) answer ∈ es → isGone answer = true

/-- A takedown that is done is one in which nothing failed. -/
theorem Completed.noneFailed {labels : List String} (h : Completed ts s es labels s') :
    NoneFailed es := by
  intro k place answer hmem
  obtain ⟨k', answer', -, hgone, r, parent, -, -, hevent⟩ := h.deletes _ hmem
  cases hevent
  exact hgone

/-- Deleting what tasks look after comes to an end. -/
theorem ends_remove (t : Task) (s : State) : (t.remove s).Ends := by
  cases t with
  | lookUp _ | realization | lookUpSwitch => exact .done _
  | managed k =>
    rw [Task.remove, remove]
    split
    · exact .done _
    · split
      · exact .done _
      · refine (ends_request _).bind fun answer => ?_
        split
        · exact .done _
        · split <;> exact .done _

theorem ends_removeAll (ts : List Task) (s : State) : (removeAll ts s).Ends := by
  induction ts generalizing s with
  | nil => exact .done _
  | cons t ts ih =>
    refine (ends_remove t s).bind fun left => ?_
    split
    · exact .done _
    · exact (ih _).bind fun _ => .done _

/-- **Homed references are deleted if no deletion fails.** -/
theorem Homed.completed (h : Homed s) (hts : ts = tasks g ∨ ts = teardownTasks g s)
    (hnone : NoneFailed es) {left : Left (List String)}
    (htrace : (Pipeline.takeDownTasks ts s).Trace es left) :
    ∃ labels s', left = (.ok labels, s') ∧ Completed ts.reverse s es labels s' := by
  rcases removeAll_cases (ownersLast_takeDown hts).2 htrace with
    hall | ⟨done, k, rest, e, s', -, -, es₁, es₂, labels, source, rfl, -, -, hblocked⟩
  · exact hall
  · cases hblocked with
    | ownerless href howner =>
      obtain ⟨parent, hparent⟩ := h.ownerOf href
      exact nomatch howner.symm.trans hparent
    | refused he hdeletes =>
      obtain ⟨r, parent, -, -, rfl⟩ := hdeletes
      have hgone := hnone k ⟨parent, r.id⟩ _ (List.mem_append_right es₁ (.head _))
      exact nomatch he.symm.trans hgone

/-! ### What is forgotten -/

theorem holdsNoReferences_iff : s.holdsNoReferences = true ↔
    (∀ slot', s.reference slot' = none) ∧ s.segmentName = none ∧ s.snatIpAddress = none := by
  simp only [State.holdsNoReferences, Bool.and_eq_true, List.all_eq_true, Option.isNone_iff_eq_none,
    and_assoc]
  exact and_congr_left fun _ => ⟨fun h slot' => h slot' (Slot.mem_all slot'), fun h slot' _ =>
    h slot'⟩

/-- A slot that no task of a takedown has is empty, or it is that of the configuration. -/
theorem slot_of_not_mem {slot' : Slot} (hnot : slot' ∉ slotsOf (teardownTasks g s).reverse) :
    s.reference slot' = none ∨ slot' = .dhcpServerConfig ∧ g = .v2 ∧ s.dhcp = none := by
  rw [teardownTasks] at hnot
  split at hnot
  · refine absurd ?_ hnot
    cases slot' <;> decide
  · next hdhcp =>
    have hnone : s.dhcp = none := Option.not_isSome_iff_eq_none.mp hdhcp
    have hempty : slot'.isDhcp = true → s.reference slot' = none := by
      intro hslot
      refine Option.not_isSome_iff_eq_none.mp fun hset => ?_
      obtain ⟨r, href⟩ := Option.isSome_iff_exists.mp hset
      have hopen : s.dhcp.isSome = true := by
        rw [← State.withDhcp_of_reference hslot href]
        rfl
      rw [hnone] at hopen
      exact absurd hopen Bool.false_ne_true
    cases g with
    | v2 =>
      by_cases hslot : slot' = .dhcpServerConfig
      · exact .inr ⟨hslot, rfl, hnone⟩
      · refine absurd ?_ hnot
        revert hslot
        cases slot' <;> decide
    | v3 =>
      cases hslot : slot'.isDhcp with
      | true => exact .inl (hempty hslot)
      | false =>
        refine absurd ?_ hnot
        revert hslot
        cases slot' <;> decide

/-- **When a takedown that is done leaves nothing known.** -/
theorem Cleared.holdsNoReferences_iff (h : Cleared (teardownTasks g s).reverse s s') :
    s'.holdsNoReferences = true ↔ (g = .v2 → s.dhcp = none → s.dhcpServerConfig = none) := by
  rw [Pipeline.holdsNoReferences_iff]
  constructor
  · rintro ⟨hnone, -, -⟩ rfl hdhcp
    have hnot : Slot.dhcpServerConfig ∉ slotsOf (teardownTasks .v2 s).reverse := by
      rw [teardownTasks, hdhcp]
      decide
    exact (h.kept _ hnot).symm.trans (hnone .dhcpServerConfig)
  · intro hconfig
    refine ⟨fun slot' => ?_, ?_, ?_⟩
    · by_cases hmem : slot' ∈ slotsOf (teardownTasks g s).reverse
      · exact h.lost slot' hmem
      · refine (h.kept slot' hmem).trans ?_
        rcases slot_of_not_mem hmem with hnone | ⟨rfl, hg, hdhcp⟩
        · exact hnone
        · exact hconfig hg hdhcp
    · refine h.name.trans (if_pos ?_)
      rcases takeDown_pipelines (.inr rfl : teardownTasks g s = tasks g ∨ _) with
        hts | hts | hts <;> rw [hts] <;> decide
    · refine h.address.trans (if_pos ?_)
      rcases takeDown_pipelines (.inr rfl : teardownTasks g s = tasks g ∨ _) with
        hts | hts | hts <;> rw [hts] <;> decide

/-- **A takedown in which nothing fails succeeds, and it forgets everything but for one case.** In
any surroundings, whatever runs and takedowns of either generation have led to the state, a takedown
comes to an end. If no deletion fails, it succeeds. Nothing is known afterwards, unless the older
generation is reported, there are no manager objects, and there is a DHCP server configuration. -/
theorem takeDown_forgets_iff (hs : ReachableAcross s) (g : Generation) {σ : Type}
    (answer : (e : Effect) → σ → e.Answer × σ) (w : σ) :
    ∃ es left w', (takeDown g s).Trace es left ∧
      Replies (I := Effect.interface) answer es w w' ∧
      (NoneFailed es → ∃ labels s', left = (.ok labels, s') ∧
        (s'.holdsNoReferences = true ↔
          (g = .v2 → s.dhcp = none → s.dhcpServerConfig = none))) := by
  obtain ⟨left, w', hrun⟩ : ∃ left w', (takeDown g s).run answer w = (some left, w') :=
    (ends_removeAll (teardownTasks g s).reverse s).run w
  obtain ⟨es, htrace, hreplies⟩ := run_eq_some_iff.mp hrun
  refine ⟨es, left, w', htrace, hreplies, fun hnone => ?_⟩
  obtain ⟨labels, s', rfl, hall⟩ := hs.homed.completed (.inr rfl) hnone htrace
  exact ⟨labels, s', rfl, hall.cleared.holdsNoReferences_iff⟩

/-- The first run for a cluster in a typical region of the newer generation. -/
def newerRun : Option (Left (List Outcome)) × Testbed :=
  (run .v3 { identity := typicalCluster.identity, rounds := 3 } typicalCluster .fresh).run
    Testbed.perform { plane := ({} : Simulator).withRegion }

/-- What is known after it. -/
def newerState : State := newerRun.1.elim .fresh Prod.snd

theorem newerRun_eq : ∃ result, newerRun = (some (result, newerState), newerRun.2) := by
  have hsome : newerRun.1.isSome = true := by decide +kernel
  obtain ⟨⟨result, s'⟩, hleft⟩ := Option.isSome_iff_exists.mp hsome
  have hstate : newerState = s' := by rw [newerState, hleft]; rfl
  exact ⟨result, Prod.ext (by rw [hleft, hstate]) (Eq.refl newerRun.2)⟩

theorem reachableAcross_newerState : ReachableAcross newerState := by
  obtain ⟨result, hrun⟩ := newerRun_eq
  obtain ⟨es, htrace, hreplies⟩ := run_eq_some_iff.mp hrun
  exact .run .fresh (drawsIds_of_replies rfl Path.isId_numberedId hreplies) htrace

/-- Surroundings in which nothing exists let a takedown at the same generation forget everything. -/
theorem takeDown_forgets_barren :
    ∃ es labels s', (takeDown .v3 newerState).Trace es (.ok labels, s') ∧
      s'.holdsNoReferences = true := by
  obtain ⟨es, left, w', htrace, hreplies, hforgets⟩ :=
    takeDown_forgets_iff reachableAcross_newerState .v3 barren ()
  have hnone : NoneFailed es := by
    intro k place answer hmem
    obtain ⟨_, hanswer⟩ := hreplies.answered _ hmem
    have hgone : (.error (.notFound "") : Except ApiError Unit) = answer := hanswer
    rw [← hgone]
    rfl
  obtain ⟨labels, s', rfl, hiff⟩ := hforgets hnone
  exact ⟨es, labels, s', htrace, hiff.mpr nofun⟩

/-- **The configuration of a cluster that was built at the newer generation is left behind** when
the older one is reported: the takedown succeeds, and no deletion fails. -/
theorem takeDown_downgraded :
    ¬ ∀ s g es left, ReachableAcross s → (takeDown g s).Trace es left → NoneFailed es →
      left.1.isOk = true ∧ left.2.holdsNoReferences = true := by
  intro hall
  have hkept : ((takeDown .v2 newerState).run Testbed.perform newerRun.2).1.any (fun left =>
      left.1.isOk && !left.2.holdsNoReferences) = true := by decide +kernel
  obtain ⟨⟨result, s'⟩, hleft, hresult⟩ := (Option.any_eq_true _ _).mp hkept
  obtain ⟨hok, hholds⟩ := (Bool.and_eq_true _ _).mp hresult
  cases result with
  | error e => exact nomatch hok
  | ok labels =>
    obtain ⟨es, htrace⟩ := exists_trace_of_run hleft
    have hnone : NoneFailed es := (completed_of_ok (.inr rfl) htrace).noneFailed
    have hforgotten := (hall newerState .v2 es _ reachableAcross_newerState htrace hnone).2
    rw [hforgotten] at hholds
    exact nomatch hholds

end Pipeline

end ClusterNet
