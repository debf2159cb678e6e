import ClusterNet.ControlPlane.Testbed

/-!
# What requests do to a control plane

A request changes the part of a control plane that it is about and leaves the others alone.
Requests that only look leave everything alone, but for the record of what was asked.

## Main definitions

* `ControlPlane.Part` — the parts of a control plane that requests change or depend on
* `Request.touches` — the parts that a request may change
* `Simulator.asked` — a control plane of which more has been asked

## Main results

* `Simulator.answer_cases` — a failure that was due, or the answer proper
* `Simulator.answer_same` — what a request does not touch stays as it was
* `Simulator.serve_of_error` — what a request that is refused does
-/

namespace ClusterNet

namespace ControlPlane

/-! ### Parts -/

/-- The parts of a control plane that requests change or depend on. -/
inductive Part where
  /-- The objects of a kind. -/
  | table (kind : Kind)
  /-- The logical switches. -/
  | switches
  /-- The addresses of allocations, and how far off they are. -/
  | addresses
  /-- The load-balancer objects. -/
  | balancers
  /-- What no request changes. -/
  | settings
deriving DecidableEq

/-- Whether a part is the same in two control planes. -/
def Part.Same : Part → Simulator → Simulator → Prop
  | table k, s, s' => s'.inventory.table k = s.inventory.table k
  | switches, s, s' => s'.switches = s.switches
  | addresses, s, s' => s'.pending = s.pending ∧ s'.addresses = s.addresses
  | balancers, s, s' => s'.balancers = s.balancers
  | settings, s, s' =>
    s'.catalogs = s.catalogs ∧ s'.pageSize = s.pageSize ∧ s'.freshId = s.freshId

theorem Part.Same.refl (part : Part) (s : Simulator) : part.Same s s := by
  cases part with
  | addresses => exact ⟨rfl, rfl⟩
  | settings => exact ⟨rfl, rfl, rfl⟩
  | table _ | switches | balancers => exact rfl

theorem Part.Same.trans {part : Part} {s s' s'' : Simulator} (h : part.Same s s')
    (h' : part.Same s' s'') : part.Same s s'' := by
  cases part with
  | addresses => exact ⟨h'.1.trans h.1, h'.2.trans h.2⟩
  | settings => exact ⟨h'.1.trans h.1, h'.2.1.trans h.2.1, h'.2.2.trans h.2.2⟩
  | table _ | switches | balancers => exact Eq.trans h' h

/-- The parts besides the objects themselves that come and go with objects of a kind. -/
def companions : Kind → List Part
  | .policy .segment => [.switches]
  | .policy .ipAllocation => [.addresses]
  | _ => []

/-- The parts that a request may change. -/
def Request.touches : Request → List Part
  | .patch k _ _ => .table (.policy k) :: companions (.policy k)
  | .create k _ _ => [.table (.manager k)]
  | .update k _ _ => [.table (.manager k)]
  | .delete k _ => .table k :: companions k
  | .listRealized _ => [.addresses]
  | .deleteBalancer _ _ => [.balancers]
  | .listCatalog _ _ | .get _ _ | .list _ _ _ | .listSwitches _ | .listBalancers _ _ => []

/-- No request changes the settings. -/
theorem Request.settings_not_mem_touches (r : Request) : .settings ∉ r.touches := by
  have htable : ∀ k, Part.settings ≠ .table k := fun k h => nomatch h
  have hcompanions : ∀ k, Part.settings ∉ companions k := by
    intro k
    rcases k with k | k <;> cases k <;> decide
  cases r with
  | patch k place o => exact List.not_mem_cons_of_ne_of_not_mem (htable _) (hcompanions _)
  | delete k place => exact List.not_mem_cons_of_ne_of_not_mem (htable _) (hcompanions _)
  | create k parent o => exact List.not_mem_cons_of_ne_of_not_mem (htable _) List.not_mem_nil
  | update k place o => exact List.not_mem_cons_of_ne_of_not_mem (htable _) List.not_mem_nil
  | listRealized _ => exact fun h => absurd (List.mem_singleton.mp h) (by decide)
  | deleteBalancer _ _ => exact fun h => absurd (List.mem_singleton.mp h) (by decide)
  | listCatalog _ _ | get _ _ | list _ _ _ | listSwitches _ | listBalancers _ _ =>
    exact List.not_mem_nil

/-- An object has the id that it was created under. -/
@[simp] theorem ManagerKind.id?_withRevision_stamped (k : ManagerKind) (revision : Option Int64)
    (id : String) (o : k.Object) : k.id? (k.withRevision revision (k.stamped id o)) = some id := by
  cases k <;> rfl

/-! ### What has been asked -/

namespace Simulator

/-- The control plane of which more has been asked. -/
def asked (s : Simulator) (rs : List Request) : Simulator := { s with calls := s.calls ++ rs }

@[simp] theorem asked_nil (s : Simulator) : s.asked [] = s := by
  rw [asked, List.append_nil]

@[simp] theorem asked_asked (s : Simulator) (rs rs' : List Request) :
    (s.asked rs).asked rs' = s.asked (rs ++ rs') := by
  rw [asked, asked, asked, List.append_assoc]

/-- The control plane behind a failure that was due. -/
def failed (s : Simulator) (m : Method) : Simulator :=
  { s with failures := s.failures.filter (· != m) }

/-- A request meets a failure that was due, or it is served. -/
theorem answer_cases (r : Request) (s : Simulator) :
    (s.failures.contains r.method = true ∧
      answer r s = (.error (injected r.method), (s.asked [r]).failed r.method)) ∨
    (s.failures.contains r.method = false ∧ answer r s = (s.asked [r]).serve r) := by
  cases h : s.failures.contains r.method with
  | true => exact .inl ⟨rfl, if_pos h⟩
  | false => exact .inr ⟨rfl, if_neg (by rw [h]; exact Bool.false_ne_true)⟩

/-- Without failures that are due, every request is served. -/
theorem answer_of_no_failures {s : Simulator} (h : s.failures = []) (r : Request) :
    answer r s = (s.asked [r]).serve r := by
  rcases answer_cases r s with ⟨hdue, -⟩ | ⟨-, hserved⟩
  · rw [h] at hdue
    exact nomatch hdue
  · exact hserved

/-- An answer that is no error was served. -/
theorem serve_of_answer_ok {r : Request} {s s' : Simulator} {response : r.method.Response}
    (h : answer r s = (.ok response, s')) : (s.asked [r]).serve r = (.ok response, s') := by
  rcases answer_cases r s with ⟨-, hfailed⟩ | ⟨-, hserved⟩
  · rw [hfailed] at h
    exact nomatch (Prod.mk.inj h).1
  · rw [← hserved, h]

/-- An object that was not found is not there. -/
theorem serve_of_answer_notFound {r : Request} {s s' : Simulator} {e : ApiError}
    (h : answer r s = (.error e, s')) (he : e.isNotFound = true) :
    (s.asked [r]).serve r = (.error e, s') := by
  rcases answer_cases r s with ⟨-, hfailed⟩ | ⟨-, hserved⟩
  · rw [hfailed] at h
    obtain ⟨hinjected, -⟩ := Prod.mk.inj h
    rw [← Except.error.inj hinjected] at he
    exact nomatch he
  · rw [← hserved, h]

/-! ### One part at a time -/

/-- What is only kept for the record is no part. -/
theorem record_same (part : Part) (s : Simulator) (calls : List Request)
    (failures : List Method) (drawnIds : Nat) :
    part.Same s { s with calls, failures, drawnIds } := by
  cases part with
  | addresses => exact ⟨rfl, rfl⟩
  | settings => exact ⟨rfl, rfl, rfl⟩
  | table _ | switches | balancers => exact rfl

theorem inventory_same {part : Part} {s : Simulator} {i : Inventory}
    (h : ∀ k, part = .table k → i.table k = s.inventory.table k) :
    part.Same s { s with inventory := i } := by
  cases part with
  | table k => exact h k rfl
  | addresses => exact ⟨rfl, rfl⟩
  | settings => exact ⟨rfl, rfl, rfl⟩
  | switches | balancers => exact rfl

theorem switches_same {part : Part} (h : part ≠ .switches) (s : Simulator)
    (switches : List LogicalSwitch) : part.Same s { s with switches } := by
  cases part with
  | switches => exact absurd rfl h
  | addresses => exact ⟨rfl, rfl⟩
  | settings => exact ⟨rfl, rfl, rfl⟩
  | table _ | balancers => exact rfl

theorem addresses_same {part : Part} (h : part ≠ .addresses) (s : Simulator)
    (pending : OrderedMap String Nat) (addresses : OrderedMap String String)
    (nextAddress : Nat) : part.Same s { s with pending, addresses, nextAddress } := by
  cases part with
  | addresses => exact absurd rfl h
  | settings => exact ⟨rfl, rfl, rfl⟩
  | table _ | switches | balancers => exact rfl

theorem balancers_same {part : Part} (h : part ≠ .balancers) (s : Simulator)
    (balancers : Balancers) : part.Same s { s with balancers } := by
  cases part with
  | balancers => exact absurd rfl h
  | addresses => exact ⟨rfl, rfl⟩
  | settings => exact ⟨rfl, rfl, rfl⟩
  | table _ | switches => exact rfl

/-! ### What is not touched -/

theorem asked_same (part : Part) (s : Simulator) (rs : List Request) : part.Same s (s.asked rs) :=
  record_same part s _ s.failures s.drawnIds

theorem failed_same (part : Part) (s : Simulator) (m : Method) : part.Same s (s.failed m) :=
  record_same part s s.calls _ s.drawnIds

theorem drawId_same (part : Part) (s : Simulator) : part.Same s s.drawId.2 :=
  record_same part s s.calls s.failures _

theorem put_same {part : Part} {s : Simulator} {k : Kind} (h : part ≠ .table k) (place : Place)
    (o : k.Object) : part.Same s { s with inventory := s.inventory.put k place o } := by
  refine inventory_same fun k' hpart => s.inventory.table_put_of_ne (fun heq => h ?_) place o
  rw [hpart, heq]

theorem remove_same {part : Part} {s : Simulator} {k : Kind} (h : part ≠ .table k)
    (place : Place) : part.Same s { s with inventory := s.inventory.remove k place } := by
  refine inventory_same fun k' hpart => s.inventory.table_remove_of_ne (fun heq => h ?_) place
  rw [hpart, heq]

theorem withCompanions_same {part : Part} {k : PolicyKind} (h : part ∉ companions (.policy k))
    (s : Simulator) (place : Place) (o : k.Object) : part.Same s (s.withCompanions k place o) := by
  cases k with
  | segment =>
    rw [withCompanions]
    split
    · exact switches_same (List.ne_of_not_mem_cons h) s _
    · exact .refl part s
  | ipAllocation => exact addresses_same (List.ne_of_not_mem_cons h) s _ _ _
  | tier1 | localeService | natRule | dhcpServerConfig => exact .refl part s

theorem withoutCompanions_same {part : Part} {k : Kind} (h : part ∉ companions k)
    (s : Simulator) (place : Place) : part.Same s (s.withoutCompanions k place) := by
  match k with
  | .policy .segment => exact switches_same (List.ne_of_not_mem_cons h) s _
  | .policy .tier1 | .policy .localeService | .policy .ipAllocation | .policy .natRule
  | .policy .dhcpServerConfig | .manager _ => exact .refl part s

@[simp] theorem inventory_withoutCompanions (s : Simulator) (k : Kind) (place : Place) :
    (s.withoutCompanions k place).inventory = s.inventory := by
  match k with
  | .policy .segment => rfl
  | .policy .tier1 | .policy .localeService | .policy .ipAllocation | .policy .natRule
  | .policy .dhcpServerConfig | .manager _ => rfl

@[simp] theorem inventory_withoutAddress (s : Simulator) (k : Kind) (place : Place) :
    (s.withoutAddress k place).inventory = s.inventory := by
  match k with
  | .policy .ipAllocation => rfl
  | .policy .tier1 | .policy .localeService | .policy .segment | .policy .natRule
  | .policy .dhcpServerConfig | .manager _ => rfl

theorem withoutAddress_same {part : Part} {k : Kind} (h : part ∉ companions k)
    (s : Simulator) (place : Place) : part.Same s (s.withoutAddress k place) := by
  match k with
  | .policy .ipAllocation =>
    exact addresses_same (List.ne_of_not_mem_cons h) s _ _ s.nextAddress
  | .policy .tier1 | .policy .localeService | .policy .segment | .policy .natRule
  | .policy .dhcpServerConfig | .manager _ => exact .refl part s

theorem patch_same {part : Part} {k : PolicyKind} {place : Place} {o : k.Object}
    (h : part ∉ (Request.patch k place o).touches) (s : Simulator) :
    part.Same s (s.patch k place o).2 := by
  have htable : part ≠ .table (.policy k) := fun heq => h (heq ▸ List.mem_cons_self)
  have hcompanions : part ∉ companions (.policy k) := fun hmem => h (List.mem_cons_of_mem _ hmem)
  rw [patch]
  split
  · exact .refl part s
  · refine .trans ?_ (put_same htable place _)
    split
    · exact withCompanions_same hcompanions s place o
    · exact .refl part s

theorem create_same {part : Part} {k : ManagerKind} {parent : String} {o : k.Object}
    (h : part ∉ (Request.create k parent o).touches) (s : Simulator) :
    part.Same s (s.create k parent o).2 := by
  have htable : part ≠ .table (.manager k) := fun heq => h (heq ▸ List.mem_cons_self)
  rw [create]
  split
  · exact .refl part s
  · exact (drawId_same part s).trans (put_same htable _ _)

theorem update_same {part : Part} {k : ManagerKind} {place : Place} {o : k.Object}
    (h : part ∉ (Request.update k place o).touches) (s : Simulator) :
    part.Same s (s.update k place o).2 := by
  have htable : part ≠ .table (.manager k) := fun heq => h (heq ▸ List.mem_cons_self)
  rw [update]
  split
  · exact .refl part s
  · dsimp only
    split
    · exact put_same htable place _
    · exact .refl part s

theorem delete_same {part : Part} {k : Kind} {place : Place}
    (h : part ∉ (Request.delete k place).touches) (s : Simulator) :
    part.Same s (s.delete k place).2 := by
  have htable : part ≠ .table k := fun heq => h (heq ▸ List.mem_cons_self)
  have hcompanions : part ∉ companions k := fun hmem => h (List.mem_cons_of_mem _ hmem)
  rw [delete]
  split
  · exact .refl part s
  · dsimp only
    split
    · exact withoutAddress_same hcompanions s place
    · refine .trans (withoutAddress_same hcompanions s place) ?_
      refine .trans (withoutCompanions_same hcompanions _ place) ?_
      rw [← inventory_withoutCompanions (s.withoutAddress k place) k place]
      exact remove_same htable place

theorem realized_same {part : Part} {path : String}
    (h : part ∉ (Request.listRealized path).touches) (s : Simulator) :
    part.Same s (s.realized path).2 := by
  rw [realized]
  split
  · exact .refl part s
  · split
    · exact addresses_same (List.ne_of_not_mem_cons h) s _ s.addresses s.nextAddress
    · exact .refl part s

theorem deleteBalancer_same {part : Part} {k : BalancerKind} {id : String}
    (h : part ∉ (Request.deleteBalancer k id).touches) (s : Simulator) :
    part.Same s (s.deleteBalancer k id).2 := by
  rw [deleteBalancer]
  split
  · exact balancers_same (List.ne_of_not_mem_cons h) s _
  · exact .refl part s

theorem serve_same {part : Part} {r : Request} (h : part ∉ r.touches) (s : Simulator) :
    part.Same s (s.serve r).2 := by
  cases r with
  | patch k place o => exact patch_same h s
  | create k parent o => exact create_same h s
  | update k place o => exact update_same h s
  | delete k place => exact delete_same h s
  | listRealized path => exact realized_same h s
  | deleteBalancer k id => exact deleteBalancer_same h s
  | listCatalog _ _ | get _ _ | list _ _ _ | listSwitches _ | listBalancers _ _ =>
    exact .refl part s

/-- **What a request does not touch stays as it was.** -/
theorem answer_same {part : Part} {r : Request} (h : part ∉ r.touches) (s : Simulator) :
    part.Same s (answer r s).2 := by
  have hasked := asked_same part s [r]
  rcases answer_cases r s with ⟨-, hfailed⟩ | ⟨-, hserved⟩
  · rw [hfailed]
    exact hasked.trans (failed_same part _ _)
  · rw [hserved]
    exact hasked.trans (serve_same h _)

/-! ### Failures that are due -/

@[simp] theorem failures_withCompanions (s : Simulator) (k : PolicyKind) (place : Place)
    (o : k.Object) : (s.withCompanions k place o).failures = s.failures := by
  cases k with
  | segment => rw [withCompanions]; split <;> rfl
  | tier1 | localeService | ipAllocation | natRule | dhcpServerConfig => rfl

@[simp] theorem failures_withoutCompanions (s : Simulator) (k : Kind) (place : Place) :
    (s.withoutCompanions k place).failures = s.failures := by
  match k with
  | .policy .segment => rfl
  | .policy .tier1 | .policy .localeService | .policy .ipAllocation | .policy .natRule
  | .policy .dhcpServerConfig | .manager _ => rfl

@[simp] theorem failures_withoutAddress (s : Simulator) (k : Kind) (place : Place) :
    (s.withoutAddress k place).failures = s.failures := by
  match k with
  | .policy .ipAllocation => rfl
  | .policy .tier1 | .policy .localeService | .policy .segment | .policy .natRule
  | .policy .dhcpServerConfig | .manager _ => rfl

/-- Requests that are served make no failure due. -/
theorem failures_serve (r : Request) (s : Simulator) : (s.serve r).2.failures = s.failures := by
  cases r with
  | patch k place o =>
    rw [serve, patch]
    split
    · rfl
    · dsimp only
      split
      · exact failures_withCompanions s k place o
      · rfl
  | create k parent o =>
    rw [serve, create]
    split <;> rfl
  | update k place o =>
    rw [serve, update]
    split
    · rfl
    · dsimp only
      split <;> rfl
  | delete k place =>
    rw [serve, delete]
    split
    · rfl
    · dsimp only
      split
      · exact failures_withoutAddress s k place
      · exact (failures_withoutCompanions _ k place).trans (failures_withoutAddress s k place)
  | listRealized path =>
    rw [serve, realized]
    split
    · rfl
    · split <;> rfl
  | deleteBalancer k id =>
    rw [serve, deleteBalancer]
    split <;> rfl
  | listCatalog _ _ | get _ _ | list _ _ _ | listSwitches _ | listBalancers _ _ => rfl

/-- Where no failure is due, none will be. -/
theorem failures_answer {s : Simulator} (h : s.failures = []) (r : Request) :
    (answer r s).2.failures = [] := by
  rw [answer_of_no_failures h, failures_serve]
  exact h

/-! ### Ids that are given away -/

/-- Whether an id was given away on the way from one control plane to another. -/
def Drew (s s' : Simulator) (id : String) : Prop :=
  ∃ n, s.drawnIds ≤ n ∧ n < s'.drawnIds ∧ s.freshId n = id

theorem Drew.mono {s s' s'' : Simulator} {id : String} (h : s.Drew s' id)
    (hle : s'.drawnIds ≤ s''.drawnIds) : s.Drew s'' id := by
  obtain ⟨n, hfirst, hlast, hid⟩ := h
  exact ⟨n, hfirst, Nat.lt_of_lt_of_le hlast hle, hid⟩

theorem Drew.after {s s' s'' : Simulator} {id : String} (h : s'.Drew s'' id)
    (hle : s.drawnIds ≤ s'.drawnIds) (hsame : s'.freshId = s.freshId) : s.Drew s'' id := by
  obtain ⟨n, hfirst, hlast, hid⟩ := h
  exact ⟨n, Nat.le_trans hle hfirst, hlast, by rw [← hsame]; exact hid⟩

/-- Whether an id has been given away. -/
def Given (s : Simulator) (id : String) : Prop := ∃ n, n < s.drawnIds ∧ s.freshId n = id

/-- Whether an id may still be given away. -/
def Upcoming (s : Simulator) (id : String) : Prop := ∃ n, s.drawnIds ≤ n ∧ s.freshId n = id

theorem Drew.upcoming {s s' : Simulator} {id : String} (h : s.Drew s' id) : s.Upcoming id := by
  obtain ⟨n, hfirst, -, hid⟩ := h
  exact ⟨n, hfirst, hid⟩

theorem Drew.given {s s' : Simulator} {id : String} (h : s.Drew s' id)
    (hsame : s'.freshId = s.freshId) : s'.Given id := by
  obtain ⟨n, -, hlast, hid⟩ := h
  exact ⟨n, hlast, by rw [hsame]; exact hid⟩

theorem Given.mono {s s' : Simulator} {id : String} (h : s.Given id)
    (hle : s.drawnIds ≤ s'.drawnIds) (hsame : s'.freshId = s.freshId) : s'.Given id := by
  obtain ⟨n, hlt, hid⟩ := h
  exact ⟨n, Nat.lt_of_lt_of_le hlt hle, by rw [hsame]; exact hid⟩

theorem Upcoming.before {s s' : Simulator} {id : String} (h : s'.Upcoming id)
    (hle : s.drawnIds ≤ s'.drawnIds) (hsame : s'.freshId = s.freshId) : s.Upcoming id := by
  obtain ⟨n, hfirst, hid⟩ := h
  exact ⟨n, Nat.le_trans hle hfirst, by rw [← hsame]; exact hid⟩

/-- Where ids never repeat, none that was given away will be given away again. -/
theorem Given.not_upcoming {s : Simulator} {id : String} (h : s.Given id)
    (hfresh : Function.Injective s.freshId) : ¬ s.Upcoming id := by
  rintro ⟨n, hfirst, hid⟩
  obtain ⟨m, hlt, hid'⟩ := h
  have hsame : m = n := hfresh (hid'.trans hid.symm)
  omega

@[simp] theorem drawnIds_withCompanions (s : Simulator) (k : PolicyKind) (place : Place)
    (o : k.Object) : (s.withCompanions k place o).drawnIds = s.drawnIds := by
  cases k with
  | segment => rw [withCompanions]; split <;> rfl
  | tier1 | localeService | ipAllocation | natRule | dhcpServerConfig => rfl

@[simp] theorem drawnIds_withoutCompanions (s : Simulator) (k : Kind) (place : Place) :
    (s.withoutCompanions k place).drawnIds = s.drawnIds := by
  match k with
  | .policy .segment => rfl
  | .policy .tier1 | .policy .localeService | .policy .ipAllocation | .policy .natRule
  | .policy .dhcpServerConfig | .manager _ => rfl

@[simp] theorem drawnIds_withoutAddress (s : Simulator) (k : Kind) (place : Place) :
    (s.withoutAddress k place).drawnIds = s.drawnIds := by
  match k with
  | .policy .ipAllocation => rfl
  | .policy .tier1 | .policy .localeService | .policy .segment | .policy .natRule
  | .policy .dhcpServerConfig | .manager _ => rfl

theorem drawnIds_le_serve (r : Request) (s : Simulator) : s.drawnIds ≤ (s.serve r).2.drawnIds := by
  cases r with
  | patch k place o =>
    rw [serve, patch]
    split
    · exact Nat.le_refl _
    · dsimp only
      split
      · exact Nat.le_of_eq (drawnIds_withCompanions s k place o).symm
      · exact Nat.le_refl _
  | create k parent o =>
    rw [serve, create]
    split
    · exact Nat.le_refl _
    · exact Nat.le_succ _
  | update k place o =>
    rw [serve, update]
    split
    · exact Nat.le_refl _
    · dsimp only
      split <;> exact Nat.le_refl _
  | delete k place =>
    rw [serve, delete]
    split
    · exact Nat.le_refl _
    · dsimp only
      split
      · exact Nat.le_of_eq (drawnIds_withoutAddress s k place).symm
      · have hsame :=
          (drawnIds_withoutCompanions _ k place).trans (drawnIds_withoutAddress s k place)
        exact Nat.le_of_eq hsame.symm
  | listRealized path =>
    rw [serve, realized]
    split
    · exact Nat.le_refl _
    · split <;> exact Nat.le_refl _
  | deleteBalancer k id =>
    rw [serve, deleteBalancer]
    split <;> exact Nat.le_refl _
  | listCatalog _ _ | get _ _ | list _ _ _ | listSwitches _ | listBalancers _ _ =>
    exact Nat.le_refl _

/-- No request takes back an id that was given away. -/
theorem drawnIds_le_answer (r : Request) (s : Simulator) :
    s.drawnIds ≤ (answer r s).2.drawnIds := by
  rcases answer_cases r s with ⟨-, hfailed⟩ | ⟨-, hserved⟩
  · rw [hfailed]
    exact Nat.le_refl _
  · rw [hserved]
    exact drawnIds_le_serve r (s.asked [r])

theorem freshId_answer (r : Request) (s : Simulator) : (answer r s).2.freshId = s.freshId := by
  have hsettings : Part.settings.Same s (answer r s).2 :=
    answer_same r.settings_not_mem_touches s
  exact hsettings.2.2

/-! ### What requests say and do -/

section Requests

variable {s s' : Simulator}

theorem serve_get_of_some {k : Kind} {place : Place} {o : k.Object}
    (h : s.inventory.find? k place = some o) : s.serve (.get k place) = (.ok o, s) := by
  rw [serve, h]

theorem serve_get_of_none {k : Kind} {place : Place} (h : s.inventory.find? k place = none) :
    s.serve (.get k place) = (.error (.notFound (k.path place)), s) := by
  rw [serve, h]

theorem get_of_answer_ok {k : Kind} {place : Place} {o : k.Object}
    (h : answer (.get k place) s = (.ok o, s')) :
    s.inventory.find? k place = some o ∧ s'.inventory = s.inventory := by
  have hserve := serve_of_answer_ok h
  cases hfind : s.inventory.find? k place with
  | none =>
    rw [serve_get_of_none (s := s.asked _) hfind] at hserve
    cases hserve
  | some o' =>
    rw [serve_get_of_some (s := s.asked _) hfind] at hserve
    cases hserve
    exact ⟨rfl, rfl⟩

theorem get_of_answer_notFound {k : Kind} {place : Place} {e : ApiError}
    (h : answer (.get k place) s = (.error e, s')) (he : e.isNotFound = true) :
    s.inventory.find? k place = none := by
  have hserve := serve_of_answer_notFound h he
  cases hfind : s.inventory.find? k place with
  | none => rfl
  | some o =>
    rw [serve_get_of_some (s := s.asked _) hfind] at hserve
    cases hserve

@[simp] theorem inventory_withCompanions (s : Simulator) (k : PolicyKind) (place : Place)
    (o : k.Object) : (s.withCompanions k place o).inventory = s.inventory := by
  cases k with
  | segment => rw [withCompanions]; split <;> rfl
  | tier1 | localeService | ipAllocation | natRule | dhcpServerConfig => rfl

/-- An object that was declared is stored. -/
theorem patch_of_answer_ok {k : PolicyKind} {place : Place} {o : k.Object}
    (h : answer (.patch k place o) s = (.ok (), s')) :
    s'.inventory = s.inventory.put (.policy k) place (k.stamped place.id (k.path place) o) := by
  have hserve := serve_of_answer_ok h
  simp only [serve, patch] at hserve
  split at hserve
  · cases hserve
  · obtain ⟨-, rfl⟩ := Prod.mk.inj hserve
    dsimp only
    split
    · rw [inventory_withCompanions]; rfl
    · rfl

/-- An object that was created is stored under the next id. -/
theorem create_of_answer_ok {k : ManagerKind} {parent : String} {o created : k.Object}
    (h : answer (.create k parent o) s = (.ok created, s')) :
    created = k.withRevision (some 0) (k.stamped (s.freshId s.drawnIds) o) ∧
      s'.inventory = s.inventory.put (.manager k) ⟨parent, s.freshId s.drawnIds⟩ created := by
  have hserve := serve_of_answer_ok h
  simp only [serve, create] at hserve
  split at hserve
  · cases hserve
  · obtain ⟨hcreated, rfl⟩ := Prod.mk.inj hserve
    obtain rfl := Except.ok.inj hcreated
    exact ⟨rfl, rfl⟩

/-- An object that was created took an id that was given away for it. -/
theorem drew_of_create_ok {k : ManagerKind} {parent : String} {o created : k.Object}
    (h : answer (.create k parent o) s = (.ok created, s')) : s.Drew s' (s.freshId s.drawnIds) := by
  have hserve := serve_of_answer_ok h
  simp only [serve, create] at hserve
  split at hserve
  · cases hserve
  · obtain ⟨-, rfl⟩ := Prod.mk.inj hserve
    exact ⟨_, Nat.le_refl _, Nat.lt_succ_self _, rfl⟩

/-- An object that was changed is stored with the next revision. -/
theorem update_of_answer_ok {k : ManagerKind} {place : Place} {o stored : k.Object}
    (h : answer (.update k place o) s = (.ok stored, s')) :
    (∃ revision, stored = k.withRevision revision (k.stamped place.id o)) ∧
      s'.inventory = s.inventory.put (.manager k) place stored := by
  have hserve := serve_of_answer_ok h
  simp only [serve, update] at hserve
  split at hserve
  · cases hserve
  · split at hserve
    · obtain ⟨hstored, rfl⟩ := Prod.mk.inj hserve
      obtain rfl := Except.ok.inj hstored
      exact ⟨⟨_, rfl⟩, rfl⟩
    · cases hserve

/-- An object that was changed was there, and its revision is raised by one. -/
theorem raised_of_update_ok {k : ManagerKind} {place : Place} {o stored : k.Object}
    (h : answer (.update k place o) s = (.ok stored, s')) :
    ∃ current, s.inventory.find? (.manager k) place = some current ∧
      stored = k.withRevision (some ((k.revision? current).getD 0 + 1)) (k.stamped place.id o) := by
  have hserve := serve_of_answer_ok h
  simp only [serve, update] at hserve
  split at hserve
  · cases hserve
  · next current hfind =>
    split at hserve
    · obtain ⟨hstored, -⟩ := Prod.mk.inj hserve
      exact ⟨current, hfind, (Except.ok.inj hstored).symm⟩
    · cases hserve

/-- An object that was deleted is stored no more. -/
theorem delete_of_answer_ok {k : Kind} {place : Place}
    (h : answer (.delete k place) s = (.ok (), s')) :
    s'.inventory = s.inventory.remove k place := by
  have hserve := serve_of_answer_ok h
  simp only [serve, delete] at hserve
  split at hserve
  · cases hserve
  · split at hserve
    · cases hserve
    · obtain ⟨-, rfl⟩ := Prod.mk.inj hserve
      exact congrArg (Inventory.remove · k place) (inventory_withoutAddress ..)

theorem delete_of_answer_notFound {k : Kind} {place : Place} {e : ApiError}
    (h : answer (.delete k place) s = (.error e, s')) (he : e.isNotFound = true) :
    s.inventory.find? k place = none := by
  have hserve := serve_of_answer_notFound h he
  simp only [serve, delete] at hserve
  split at hserve
  · obtain ⟨hinUse, -⟩ := Prod.mk.inj hserve
    rw [← Except.error.inj hinUse] at he
    cases he
  · split at hserve
    · next hfind =>
      rw [inventory_withoutAddress] at hfind
      exact hfind
    · cases hserve

/-- A segment brings a logical switch with it if it was not there before, and no other one. -/
theorem switches_of_patch {place : Place} {o : Segment} {response : Except ApiError Unit}
    (h : answer (.patch .segment place o) s = (response, s')) :
    s'.switches = s.switches ∨ response = .ok () ∧
      s.inventory.find? (.policy .segment) place = none ∧
      s'.switches = s.switches ++ [switchOf ((Kind.policy .segment).path place) place.id o] := by
  rcases answer_cases (.patch .segment place o) s with ⟨-, hfailed⟩ | ⟨-, hserved⟩
  · rw [hfailed] at h
    obtain ⟨-, rfl⟩ := Prod.mk.inj h
    exact .inl rfl
  · rw [hserved, serve, patch] at h
    split at h
    · obtain ⟨-, rfl⟩ := Prod.mk.inj h
      exact .inl rfl
    · obtain ⟨hresponse, rfl⟩ := Prod.mk.inj h
      dsimp only
      split
      · next hnew =>
        rw [withCompanions]
        split
        · exact .inr ⟨hresponse.symm, Option.isNone_iff_eq_none.mp hnew, rfl⟩
        · exact .inl rfl
      · exact .inl rfl

/-- With a segment go the logical switches that stand for it, and those that share an id with one
of them. -/
theorem switches_of_delete {k : Kind} {place : Place} {response : Except ApiError Unit}
    (h : answer (.delete k place) s = (response, s')) :
    s'.switches = s.switches ∨ k = .policy .segment ∧ response = .ok () ∧
      s'.switches = s.switches.filter fun x =>
        !(s.switchIdsOf ((Kind.policy .segment).path place)).contains x.id := by
  by_cases hk : k = .policy .segment
  · subst hk
    rcases answer_cases (.delete (.policy .segment) place) s with ⟨-, hfailed⟩ | ⟨-, hserved⟩
    · rw [hfailed] at h
      obtain ⟨-, rfl⟩ := Prod.mk.inj h
      exact .inl rfl
    · simp only [hserved, serve, delete] at h
      split at h
      · obtain ⟨-, rfl⟩ := Prod.mk.inj h
        exact .inl rfl
      · split at h
        · obtain ⟨-, rfl⟩ := Prod.mk.inj h
          exact .inl rfl
        · obtain ⟨hresponse, rfl⟩ := Prod.mk.inj h
          exact .inr ⟨rfl, hresponse.symm, rfl⟩
  · have huntouched : Part.switches ∉ (Request.delete k place).touches := by
      rcases k with k | k <;> cases k <;> simp_all [Request.touches, companions]
    exact .inl (congrArg (·.2.switches) h ▸ answer_same huntouched s)

/-- The kinds whose objects may depend on those of a kind. -/
def users : Kind → List Kind
  | .policy .tier1 => [.policy .localeService, .policy .segment, .policy .natRule]
  | .policy .segment => [.manager .logicalPort]
  | .policy .dhcpServerConfig => [.policy .segment]
  | .manager .dhcpProfile => [.manager .dhcpServer]
  | .manager .dhcpServer => [.manager .logicalPort, .manager .dhcpIpPool]
  | _ => []

/-- Without objects that may depend on it, an object is not in use. -/
theorem isInUse_eq_false {k : Kind} (h : ∀ k' ∈ users k, s.inventory.table k' = .empty)
    (place : Place) : s.isInUse k place = false := by
  match k with
  | .policy .tier1 =>
    have hlocale : s.inventory.localeServices = .empty := h (.policy .localeService) (by decide)
    have hsegments : s.inventory.segments = .empty := h (.policy .segment) (by decide)
    have hrules : s.inventory.natRules = .empty := h (.policy .natRule) (by decide)
    rw [isInUse, hlocale, hsegments, hrules]
    rfl
  | .policy .segment =>
    have hports : s.inventory.logicalPorts = .empty := h (.manager .logicalPort) (by decide)
    rw [isInUse, hports]
    rfl
  | .policy .dhcpServerConfig =>
    have hsegments : s.inventory.segments = .empty := h (.policy .segment) (by decide)
    rw [isInUse, hsegments]
    rfl
  | .manager .dhcpProfile =>
    have hservers : s.inventory.dhcpServers = .empty := h (.manager .dhcpServer) (by decide)
    rw [isInUse, hservers]
    rfl
  | .manager .dhcpServer =>
    have hports : s.inventory.logicalPorts = .empty := h (.manager .logicalPort) (by decide)
    have hpools : s.inventory.dhcpIpPools = .empty := h (.manager .dhcpIpPool) (by decide)
    rw [isInUse, hports, hpools]
    rfl
  | .policy .localeService | .policy .ipAllocation | .policy .natRule | .manager .logicalPort
  | .manager .dhcpIpPool => rfl

/-- What nothing depends on is deleted, or is not there, if no failure is due. -/
theorem answer_delete_of_unused {k : Kind} (hfailures : s.failures = [])
    (h : ∀ k' ∈ users k, s.inventory.table k' = .empty) (place : Place) :
    (answer (.delete k place) s).1 = .ok () ∨
      ∃ e : ApiError, (answer (.delete k place) s).1 = .error e ∧ e.isNotFound = true := by
  have hunused : (s.asked [.delete k place]).isInUse k place = false := isInUse_eq_false h place
  rw [answer_of_no_failures hfailures, serve, delete, hunused, if_neg Bool.false_ne_true]
  dsimp only
  split
  · exact .inr ⟨_, rfl, rfl⟩
  · exact .inl rfl

/-- A request that is refused changes nothing, but for a deletion of what is not there: that strikes
off the address. -/
theorem serve_of_error {r : Request} {e : ApiError} (h : (s.serve r).1 = .error e) :
    (s.serve r).2 = s ∨ ∃ k place, r = .delete k place ∧ s.inventory.find? k place = none ∧
      (s.serve r).2 = s.withoutAddress k place := by
  cases r with
  | patch k place o =>
    refine .inl ?_
    simp only [serve, patch] at h ⊢
    split at h
    · rfl
    · cases h
  | create k parent o =>
    refine .inl ?_
    simp only [serve, create] at h ⊢
    split at h
    · rfl
    · cases h
  | update k place o =>
    refine .inl ?_
    simp only [serve, update] at h ⊢
    split at h
    · rfl
    · split at h
      · cases h
      · next hstale => rw [if_neg hstale]
  | delete k place =>
    simp only [serve, delete] at h ⊢
    split at h
    · next hinUse =>
      rw [if_pos hinUse]
      exact .inl rfl
    · next hunused =>
      rw [if_neg hunused]
      rw [inventory_withoutAddress] at h ⊢
      split at h
      · next hfind => exact .inr ⟨k, place, rfl, hfind, rfl⟩
      · cases h
  | listRealized path =>
    refine .inl ?_
    simp only [serve, realized] at h ⊢
    split at h
    · rfl
    · split at h <;> cases h
  | deleteBalancer k id =>
    refine .inl ?_
    simp only [serve, deleteBalancer] at h ⊢
    split at h
    · cases h
    · next hmissing => rw [if_neg hmissing]
  | get _ _ | listCatalog _ _ | list _ _ _ | listSwitches _ | listBalancers _ _ => exact .inl rfl

/-- A request that was refused has changed no object. -/
theorem inventory_of_answer_error {r : Request} {e : ApiError}
    (h : answer r s = (.error e, s')) : s'.inventory = s.inventory := by
  rcases answer_cases r s with ⟨-, hfailed⟩ | ⟨-, hserved⟩
  · rw [hfailed] at h
    obtain ⟨-, rfl⟩ := Prod.mk.inj h
    rfl
  · rw [hserved] at h
    rcases serve_of_error (congrArg Prod.fst h) with hsame | ⟨k, place, -, -, hstruck⟩
    · rw [h] at hsame
      rw [show s' = s.asked [r] from hsame]
      rfl
    · rw [h] at hstruck
      rw [show s' = (s.asked [r]).withoutAddress k place from hstruck]
      exact inventory_withoutAddress _ k place

end Requests

end Simulator

end ControlPlane

end ClusterNet
