import ClusterNet.Proofs.Actuator.BalancerCleanup
import ClusterNet.Proofs.ControlPlane.Chain

/-!
# What a cleanup of load balancers leaves alone

A cleanup deletes by id what it has listed, and it has only kept what carries the cluster's tag. As
no two objects of a kind have the same id, a deletion takes away that one object and leaves the
others where they are. That holds of every deletion by itself, so it holds whatever fails and
however often. A failure only matters for how far the cleanup gets: it stops there, and the kinds
behind are not asked for.

What is said of failures is said of traces to which the control plane has replied, some requests
being lost (`Actuator.Unsteady`). Where they are lost is up to the surroundings
(`Actuator.Reaches`), and a testbed, on which nothing is lost, is no exception.

## Main definitions

* `Actuator.Purged` — lists from which objects that carry a tag are gone
* `Actuator.cleanUpKind` — the cleanup of one kind
* `Actuator.Aborts` — the answers that end a cleanup
* `Actuator.Unsteady` — a control plane of which any request may fail
* `Actuator.Reaches`, `Actuator.faulty` — surroundings in which requests are lost

## Main results

* `Actuator.trace_cleanUpKinds_stops` — a failure ends the cleanup, and with it the requests
* `Actuator.Unsteady.purged` — nothing but objects that carry the tag is deleted
* `Actuator.Reaches.exists_run_cleanUpKinds` — whatever is lost, the cleanup comes to an end
-/

namespace ClusterNet

namespace Actuator

open ControlPlane Program
open Pipeline (Event called)

variable {tag : Tag} {k k' : BalancerKind} {os os' : List PolicyObject} {pages count : Nat}
variable {s s' : Simulator} {b b' : ControlPlane.Testbed} {es : List Event}
variable {result : Except ApiError Nat}

/-! ### Lists from which objects are gone -/

theorem carries_iff {o : PolicyObject} : carries tag o = true ↔ tag ∈ o.tags := by
  rw [carries, List.any_eq_true]
  constructor
  · rintro ⟨t, ht, heq⟩
    obtain ⟨hscope, hvalue⟩ := Bool.and_eq_true_iff.mp heq
    obtain rfl : t = tag := by
      cases t
      cases tag
      exact congrArg₂ _ (eq_of_beq hscope) (eq_of_beq hvalue)
    exact ht
  · intro h
    exact ⟨tag, h, by rw [beq_self_eq_true, beq_self_eq_true]; rfl⟩

/-- `Purged tag os os'` says that `os'` is `os` without some of the objects that carry the tag. -/
inductive Purged (tag : Tag) : List PolicyObject → List PolicyObject → Prop
  /-- There are no objects. -/
  | nil : Purged tag [] []
  /-- An object that carries the tag is gone. -/
  | gone {o : PolicyObject} {os os' : List PolicyObject} (h : tag ∈ o.tags)
    (hrest : Purged tag os os') : Purged tag (o :: os) os'
  /-- An object is still there. -/
  | left {o : PolicyObject} {os os' : List PolicyObject} (hrest : Purged tag os os') :
    Purged tag (o :: os) (o :: os')

theorem Purged.refl (tag : Tag) (os : List PolicyObject) : Purged tag os os := by
  induction os with
  | nil => exact .nil
  | cons o os ih => exact .left ih

theorem Purged.trans {os'' : List PolicyObject} (h : Purged tag os os') (h' : Purged tag os' os'') :
    Purged tag os os'' := by
  induction h generalizing os'' with
  | nil => exact h'
  | gone ho _ ih => exact .gone ho (ih h')
  | left _ ih =>
    cases h' with
    | gone ho hrest => exact .gone ho (ih hrest)
    | left hrest => exact .left (ih hrest)

theorem Purged.sublist (h : Purged tag os os') : os'.Sublist os := by
  induction h with
  | nil => exact .slnil
  | gone _ _ ih => exact .cons _ ih
  | left _ ih => exact .cons_cons _ ih

theorem purged_filter {keep : PolicyObject → Bool}
    (h : ∀ o ∈ os, keep o = false → tag ∈ o.tags) : Purged tag os (os.filter keep) := by
  induction os with
  | nil => exact .nil
  | cons o os ih =>
    have hrest := ih fun o' hmem => h o' (.tail o hmem)
    cases hkeep : keep o with
    | true => rw [List.filter_cons_of_pos hkeep]; exact .left hrest
    | false =>
      rw [List.filter_cons_of_neg (by rw [hkeep]; exact Bool.false_ne_true)]
      exact .gone (h o (.head os) hkeep) hrest

/-- Whether no two load-balancer objects of one kind have the same id. -/
def DistinctIds (plane : Simulator) : Prop :=
  ∀ k, ((plane.balancers.get k).map (·.id)).Nodup

theorem DistinctIds.purged (h : DistinctIds s)
    (hpurged : ∀ k, Purged tag (s.balancers.get k) (s'.balancers.get k)) : DistinctIds s' :=
  fun k => (h k).sublist ((hpurged k).sublist.map _)

/-- Objects of one kind that have the same id are the same. -/
theorem DistinctIds.eq_of_id (h : DistinctIds s) {o o' : PolicyObject}
    (ho : o ∈ s.balancers.get k) (ho' : o' ∈ s.balancers.get k) (hid : o.id = o'.id) : o = o' :=
  List.inj_on_of_nodup_map (h k) ho ho' hid

/-! ### One request -/

/-- A listing changes no objects, and its pages are those of the objects that there are. -/
theorem balancers_of_listing {cursor : Option String}
    {answer : Answer (.listBalancers k cursor)}
    (h : Simulator.answer (.listBalancers k cursor) s = (answer, s')) :
    s'.balancers = s.balancers ∧ ∀ page, answer = .ok page →
      page = Simulator.pageAt (s.balancers.get k) cursor s.pageSize := by
  constructor
  · have hsame : Part.balancers.Same s (Simulator.answer (.listBalancers k cursor) s).2 :=
      Simulator.answer_same List.not_mem_nil s
    rwa [h] at hsame
  · rintro page rfl
    have hserve := Simulator.serve_of_answer_ok h
    exact (Except.ok.inj (Prod.mk.inj hserve).1).symm

/-- A deletion takes away the objects with the id, or it leaves everything as it is. -/
theorem balancers_of_deletion {id : String} {answer : Answer (.deleteBalancer k id)}
    (h : Simulator.answer (.deleteBalancer k id) s = (answer, s')) :
    s'.balancers = s.balancers ∨
      s'.balancers = s.balancers.set k ((s.balancers.get k).filter fun o => o.id != id) := by
  obtain rfl : (Simulator.answer (.deleteBalancer k id) s).2 = s' := by rw [h]
  rcases Simulator.answer_cases (.deleteBalancer k id) s with ⟨-, hfailed⟩ | ⟨-, hserved⟩
  · rw [hfailed]
    exact .inl rfl
  · rw [hserved, Simulator.serve, Simulator.deleteBalancer]
    split
    · exact .inr rfl
    · exact .inl rfl

/-! ### What a cleanup asks -/

/-- A request about the load-balancer objects of a kind. -/
inductive Concerns (k : BalancerKind) : Event → Prop
  /-- A listing. -/
  | listing (cursor : Option String) (answer : Answer (.listBalancers k cursor)) :
    Concerns k (called (.listBalancers k cursor) answer)
  /-- A deletion. -/
  | deletion (id : String) (answer : Answer (.deleteBalancer k id)) :
    Concerns k (called (.deleteBalancer k id) answer)

/-- The answers that end a cleanup: a listing has failed, or a deletion for another reason than that
the object is gone already. -/
inductive Aborts (k : BalancerKind) (e : ApiError) : Event → Prop
  /-- A listing has failed. -/
  | listing (cursor : Option String) : Aborts k e (called (.listBalancers k cursor) (.error e))
  /-- A deletion has failed. -/
  | deletion (id : String) (h : e.isNotFound = false) :
    Aborts k e (called (.deleteBalancer k id) (.error e))

theorem Aborts.eq_of_concerns {x : Event} {e : ApiError} (h : Aborts k e x) (h' : Concerns k' x) :
    k = k' := by
  cases h <;> (cases h'; rfl)

/-- The cleanup of one kind: all of its objects that carry the tag are listed, and then deleted. -/
def cleanUpKind (tag : Tag) (pages : Nat) (k : BalancerKind) (count : Nat) :
    Work (Except ApiError Nat) :=
  (collect (fun cursor => Work.call (.listBalancers k cursor)) (carries tag) pages).bind fun
    | .error e => .done (.error e)
    | .ok owned => deleteBalancers k owned count

/-- One kind is cleaned up behind another, unless something has failed. -/
theorem cleanUpKinds_cons (tag : Tag) (pages : Nat) (k : BalancerKind) (ks : List BalancerKind)
    (count : Nat) : cleanUpKinds tag pages (k :: ks) count =
      (cleanUpKind tag pages k count).bind fun
        | .error e => .done (.error e)
        | .ok count => cleanUpKinds tag pages ks count := by
  rw [cleanUpKinds, bind_eq, cleanUpKind, bind_assoc]
  refine congrArg _ (funext fun owned => ?_)
  cases owned with
  | error e => rfl
  | ok owned =>
    refine congrArg (Program.bind _) (funext fun deleted => ?_)
    cases deleted <;> rfl

section Collecting

variable {wanted : PolicyObject → Bool} {earlier : List PolicyObject × Option String}
variable {found : Except ApiError (List PolicyObject)}

/-- A round of collecting is one listing. -/
theorem trace_collectOnPage_asked
    {next : (List PolicyObject × Option String) ⊕ Except ApiError (List PolicyObject)}
    (h : (collectOnPage (fun cursor => Work.call (.listBalancers k cursor)) wanted earlier).Trace
      es next) :
    ∃ answer, es = [called (.listBalancers k earlier.2) answer] ∧
      (∀ e, answer = .error e → next = .inr (.error e)) ∧
      ∀ page, answer = .ok page → next = gatherOn wanted earlier page := by
  rw [collectOnPage_eq, Work.call, trace_request_bind_iff] at h
  obtain ⟨answer, es', rfl, h⟩ := h
  cases answer with
  | error e =>
    obtain ⟨rfl, rfl⟩ := trace_done_iff.mp h
    refine ⟨.error e, rfl, ?_, ?_⟩
    · rintro e' ⟨⟩
      rfl
    · rintro page ⟨⟩
  | ok page =>
    obtain ⟨rfl, rfl⟩ := trace_done_iff.mp h
    refine ⟨.ok page, rfl, ?_, ?_⟩
    · rintro e ⟨⟩
    · rintro page' ⟨⟩
      rfl

/-- Collecting asks for pages only, and an error is the end of it. -/
theorem trace_collect_asked
    (h : (Program.loop (collectOnPage (fun cursor => Work.call (.listBalancers k cursor)) wanted)
      pages earlier).Trace es found) :
    ∀ x ∈ es, ∃ cursor answer, x = called (.listBalancers k cursor) answer ∧
      ∀ e, answer = .error e → found = .error e := by
  induction pages generalizing earlier es with
  | zero => exact absurd h not_trace_unfinished
  | succ pages ih =>
    obtain ⟨es₁, es₂, next, rfl, h₁, h₂⟩ := trace_bind_iff.mp h
    obtain ⟨answer, rfl, herror, -⟩ := trace_collectOnPage_asked h₁
    intro x hx
    rcases List.mem_cons.mp hx with rfl | hx
    · refine ⟨earlier.2, answer, rfl, fun e he => ?_⟩
      rw [herror e he] at h₂
      exact (trace_done_iff.mp h₂).2
    · cases next with
      | inl earlier' => exact ih h₂ x hx
      | inr found' =>
        rw [(trace_done_iff.mp h₂).1] at hx
        exact nomatch hx

end Collecting

/-- A deletion fails and is the last one, or the others follow. -/
theorem trace_deleteBalancers_cons {o : PolicyObject}
    (h : (deleteBalancers k (o :: os) count).Trace es result) :
    ∃ answer es', es = called (.deleteBalancer k o.id) answer :: es' ∧
      ((∃ e, answer = .error e ∧ e.isNotFound = false ∧ es' = [] ∧ result = .error e) ∨
        (∀ e, answer = .error e → e.isNotFound = true) ∧
          ∃ count', (deleteBalancers k os count').Trace es' result) := by
  obtain ⟨answer, es', rfl, hnext⟩ := trace_request_bind_iff.mp h
  refine ⟨answer, es', rfl, ?_⟩
  cases answer with
  | ok u =>
    refine .inr ⟨?_, count + 1, hnext⟩
    rintro e ⟨⟩
  | error e =>
    dsimp only at hnext
    split at hnext
    · next hgone =>
      refine .inr ⟨?_, count, hnext⟩
      rintro e' ⟨⟩
      exact hgone
    · next hfailed =>
      obtain ⟨rfl, rfl⟩ := trace_done_iff.mp hnext
      exact .inl ⟨e, rfl, Bool.eq_false_iff.mpr hfailed, rfl, rfl⟩

/-- Deleting asks for deletions only, and an error is the end of it unless the object was gone. -/
theorem trace_deleteBalancers_asked (h : (deleteBalancers k os count).Trace es result) :
    ∀ x ∈ es, ∃ id answer, x = called (.deleteBalancer k id) answer ∧
      ∀ e, answer = .error e → e.isNotFound = false → result = .error e := by
  induction os generalizing count es with
  | nil =>
    rw [(trace_done_iff.mp h).1]
    exact fun x hx => nomatch hx
  | cons o os ih =>
    obtain ⟨answer, es', rfl, hend⟩ := trace_deleteBalancers_cons h
    intro x hx
    rcases List.mem_cons.mp hx with rfl | hx
    · refine ⟨o.id, answer, rfl, fun e he hfailed => ?_⟩
      rcases hend with ⟨e', he', -, -, hresult⟩ | ⟨hgone, -⟩
      · rw [hresult, Except.error.inj (he'.symm.trans he)]
      · exact nomatch hfailed.symm.trans (hgone e he)
    · rcases hend with ⟨-, -, -, rfl, -⟩ | ⟨-, count', hrest⟩
      · exact nomatch hx
      · exact ih hrest x hx

/-- The cleanup of a kind asks about that kind only, and a failure is the end of it. -/
theorem trace_cleanUpKind_asked (h : (cleanUpKind tag pages k count).Trace es result) :
    ∀ x ∈ es, Concerns k x ∧ ∀ k' e, Aborts k' e x → result = .error e := by
  obtain ⟨es₁, es₂, found, rfl, h₁, h₂⟩ := trace_bind_iff.mp h
  intro x hx
  rcases List.mem_append.mp hx with hx | hx
  · obtain ⟨cursor, answer, rfl, herror⟩ := trace_collect_asked h₁ x hx
    refine ⟨.listing cursor answer, ?_⟩
    rintro k' e ⟨⟩
    rw [herror e rfl] at h₂
    exact (trace_done_iff.mp h₂).2
  · cases found with
    | error e =>
      rw [(trace_done_iff.mp h₂).1] at hx
      exact nomatch hx
    | ok owned =>
      obtain ⟨id, answer, rfl, herror⟩ := trace_deleteBalancers_asked h₂ x hx
      refine ⟨.deletion id answer, ?_⟩
      rintro k' e ⟨⟩
      exact herror e rfl ‹_›

/-- A cleanup asks about its kinds only. -/
theorem trace_cleanUpKinds_asked {ks : List BalancerKind}
    (h : (cleanUpKinds tag pages ks count).Trace es result) :
    ∀ x ∈ es, ∃ k ∈ ks, Concerns k x := by
  induction ks generalizing count es with
  | nil =>
    rw [(trace_done_iff.mp h).1]
    exact fun x hx => nomatch hx
  | cons k ks ih =>
    rw [cleanUpKinds_cons] at h
    obtain ⟨es₁, es₂, cleaned, rfl, h₁, h₂⟩ := trace_bind_iff.mp h
    intro x hx
    rcases List.mem_append.mp hx with hx | hx
    · exact ⟨k, .head _, (trace_cleanUpKind_asked h₁ x hx).1⟩
    · cases cleaned with
      | error e =>
        rw [(trace_done_iff.mp h₂).1] at hx
        exact nomatch hx
      | ok count' =>
        obtain ⟨k', hk', hconcerns⟩ := ih h₂ x hx
        exact ⟨k', .tail _ hk', hconcerns⟩

/-- **A failure ends a cleanup**, and nothing is asked about the kinds behind. -/
theorem trace_cleanUpKinds_stops {ks : List BalancerKind}
    (h : (cleanUpKinds tag pages ks count).Trace es result) {x : Event} (hx : x ∈ es)
    {e : ApiError} (haborts : Aborts k e x) :
    result = .error e ∧ ∃ earlier later, ks = earlier ++ k :: later ∧
      ∀ y ∈ es, ∃ k' ∈ earlier ++ [k], Concerns k' y := by
  induction ks generalizing count es with
  | nil =>
    rw [(trace_done_iff.mp h).1] at hx
    exact nomatch hx
  | cons k₀ ks ih =>
    rw [cleanUpKinds_cons] at h
    obtain ⟨es₁, es₂, cleaned, rfl, h₁, h₂⟩ := trace_bind_iff.mp h
    have hasked := trace_cleanUpKind_asked h₁
    cases cleaned with
    | error e' =>
      obtain ⟨rfl, rfl⟩ := trace_done_iff.mp h₂
      rw [List.append_nil] at hx ⊢
      obtain ⟨hconcerns, hend⟩ := hasked x hx
      obtain rfl := haborts.eq_of_concerns hconcerns
      exact ⟨hend k e haborts, [], ks, rfl, fun y hy => ⟨k, .head _, (hasked y hy).1⟩⟩
    | ok count' =>
      rcases List.mem_append.mp hx with hx | hx
      · exact nomatch (hasked x hx).2 k e haborts
      · obtain ⟨hend, earlier, later, rfl, hearlier⟩ := ih h₂ hx
        refine ⟨hend, k₀ :: earlier, later, rfl, fun y hy => ?_⟩
        rcases List.mem_append.mp hy with hy | hy
        · exact ⟨k₀, .head _, (hasked y hy).1⟩
        · obtain ⟨k', hk', hconcerns⟩ := hearlier y hy
          exact ⟨k', .tail _ hk', hconcerns⟩

/-! ### A control plane that may fail at any request -/

/-- `Unsteady es s s'` says that the control plane `s` gives the answers in `es` and is `s'`
afterwards, where any request may fail for whatever reason and is lost then. -/
inductive Unsteady : List Event → Simulator → Simulator → Prop
  /-- Nothing is asked. -/
  | nil (s : Simulator) : Unsteady [] s s
  /-- A request gets its answer. -/
  | answered {r : Request} {answer : Answer r} {es : List Event} {s s₁ s' : Simulator}
    (h : Simulator.answer r s = (answer, s₁)) (hrest : Unsteady es s₁ s') :
    Unsteady (called r answer :: es) s s'
  /-- A request fails. -/
  | failed {r : Request} (e : ApiError) {es : List Event} {s s' : Simulator}
    (hrest : Unsteady es s s') : Unsteady (called r (.error e) :: es) s s'

theorem Unsteady.append {es' : List Event} (h : Unsteady (es ++ es') s s') :
    ∃ s₁, Unsteady es s s₁ ∧ Unsteady es' s₁ s' := by
  induction es generalizing s with
  | nil => exact ⟨s, .nil s, h⟩
  | cons x es ih =>
    cases h with
    | answered hanswer hrest =>
      obtain ⟨s₁, h₁, h₂⟩ := ih hrest
      exact ⟨s₁, .answered hanswer h₁, h₂⟩
    | failed e hrest =>
      obtain ⟨s₁, h₁, h₂⟩ := ih hrest
      exact ⟨s₁, .failed e h₁, h₂⟩

/-- No request adds an object, whether it fails or not. -/
theorem Unsteady.fits {rounds : Nat} (h : Unsteady es s s') (hfits : FitsRounds rounds s) :
    FitsRounds rounds s' := by
  induction h with
  | nil s => exact hfits
  | @answered r answer es s s₁ s' hanswer _ ih =>
    refine ih (hfits.of_le fun k => ?_)
    have hlength := length_balancers_answer r s k
    rwa [hanswer] at hlength
  | failed e _ ih => exact ih hfits

theorem Unsteady.listing {cursor : Option String} {answer : Answer (.listBalancers k cursor)}
    (h : Unsteady (called (.listBalancers k cursor) answer :: es) s s') :
    ∃ s₁, Unsteady es s₁ s' ∧ s₁.balancers = s.balancers ∧ ∀ page, answer = .ok page →
      page = Simulator.pageAt (s.balancers.get k) cursor s.pageSize := by
  cases h with
  | answered hanswer hrest => exact ⟨_, hrest, balancers_of_listing hanswer⟩
  | failed e hrest => exact ⟨s, hrest, rfl, fun page hpage => nomatch hpage⟩

theorem Unsteady.deletion {id : String} {answer : Answer (.deleteBalancer k id)}
    (h : Unsteady (called (.deleteBalancer k id) answer :: es) s s') :
    ∃ s₁, Unsteady es s₁ s' ∧ (s₁.balancers = s.balancers ∨
      s₁.balancers = s.balancers.set k ((s.balancers.get k).filter fun o => o.id != id)) := by
  cases h with
  | answered hanswer hrest => exact ⟨_, hrest, balancers_of_deletion hanswer⟩
  | failed e hrest => exact ⟨s, hrest, .inl rfl⟩

/-- Requests about other kinds leave a kind as it is. -/
theorem Unsteady.get_eq {ks : List BalancerKind} (h : Unsteady es s s')
    (hconcerns : ∀ x ∈ es, ∃ k ∈ ks, Concerns k x) (hk : k ∉ ks) :
    s'.balancers.get k = s.balancers.get k := by
  induction es generalizing s with
  | nil =>
    cases h
    rfl
  | cons x es ih =>
    obtain ⟨k', hk', hconcerns'⟩ := hconcerns x (.head es)
    have hne : k ≠ k' := fun hsame => hk (hsame ▸ hk')
    cases hconcerns' with
    | listing cursor answer =>
      obtain ⟨s₁, hrest, hsame, -⟩ := h.listing
      rw [ih hrest fun y hy => hconcerns y (.tail _ hy), hsame]
    | deletion id answer =>
      obtain ⟨s₁, hrest, hsame | hgone⟩ := h.deletion
      · rw [ih hrest fun y hy => hconcerns y (.tail _ hy), hsame]
      · rw [ih hrest fun y hy => hconcerns y (.tail _ hy), hgone, Balancers.get_set_of_ne _ hne]

/-- What is gathered behind a page are the wanted items on it, behind those of earlier pages. -/
theorem items_of_gatherOn {α : Type} {wanted : α → Bool} {earlier : List α × Option String}
    {page : Page α} {items : List α}
    (h : (∃ cursor, gatherOn wanted earlier page = .inl (items, cursor)) ∨
      gatherOn wanted earlier page = .inr (.ok items)) :
    items = earlier.1 ++ page.results.filter wanted := by
  rw [gatherOn] at h
  split at h <;> simp_all

/-- **Collecting changes no objects**, and what it collects are wanted objects that are there. -/
theorem Unsteady.collecting {wanted : PolicyObject → Bool}
    {earlier : List PolicyObject × Option String} {found : Except ApiError (List PolicyObject)}
    (h : Unsteady es s s')
    (htrace : (Program.loop (collectOnPage (fun cursor => Work.call (.listBalancers k cursor))
      wanted) pages earlier).Trace es found) :
    s'.balancers = s.balancers ∧ ∀ items, found = .ok items → ∀ o ∈ items,
      o ∈ earlier.1 ∨ wanted o = true ∧ o ∈ s.balancers.get k := by
  induction pages generalizing earlier es s with
  | zero => exact absurd htrace not_trace_unfinished
  | succ pages ih =>
    obtain ⟨es₁, es₂, next, rfl, h₁, h₂⟩ := trace_bind_iff.mp htrace
    obtain ⟨answer, rfl, herror, hok⟩ := trace_collectOnPage_asked h₁
    obtain ⟨s₁, hrest, hsame, hpage⟩ := h.listing
    cases answer with
    | error e =>
      rw [herror e rfl] at h₂
      obtain ⟨rfl, rfl⟩ := trace_done_iff.mp h₂
      cases hrest
      exact ⟨hsame, fun items hitems => nomatch hitems⟩
    | ok page =>
      -- The items gathered so far are those of earlier pages, and wanted ones that are there.
      have hgathered : ∀ items,
          (∃ cursor, next = .inl (items, cursor)) ∨ next = .inr (.ok items) → ∀ o ∈ items,
          o ∈ earlier.1 ∨ wanted o = true ∧ o ∈ s.balancers.get k := by
        intro items hitems o ho
        rw [hok page rfl] at hitems
        rw [items_of_gatherOn hitems, hpage page rfl] at ho
        rcases List.mem_append.mp ho with ho | ho
        · exact .inl ho
        · obtain ⟨hmem, hwanted⟩ := List.mem_filter.mp ho
          exact .inr ⟨hwanted, List.mem_of_mem_take (List.mem_of_mem_drop hmem)⟩
      cases next with
      | inl later =>
        obtain ⟨hsame', hlater⟩ := ih hrest h₂
        rw [hsame] at hsame' hlater
        refine ⟨hsame', fun items hitems o ho => ?_⟩
        rcases hlater items hitems o ho with ho | ho
        · exact hgathered later.1 (.inl ⟨later.2, rfl⟩) o ho
        · exact .inr ho
      | inr found' =>
        obtain ⟨rfl, rfl⟩ := trace_done_iff.mp h₂
        cases hrest
        exact ⟨hsame, fun items hitems => hgathered items (.inr (by rw [hitems]))⟩

/-- Deleting objects by their ids takes away nothing but objects that carry the tag, if no others
have these ids. -/
theorem Unsteady.deleting (h : Unsteady es s s')
    (htrace : (deleteBalancers k os count).Trace es result)
    (hids : ∀ o ∈ os, ∀ o' ∈ s.balancers.get k, o'.id = o.id → tag ∈ o'.tags) :
    Purged tag (s.balancers.get k) (s'.balancers.get k) := by
  induction os generalizing count es s with
  | nil =>
    rw [(trace_done_iff.mp htrace).1] at h
    cases h
    exact .refl _ _
  | cons o os ih =>
    obtain ⟨answer, es', rfl, hend⟩ := trace_deleteBalancers_cons htrace
    obtain ⟨s₁, hrest, hgone⟩ := h.deletion
    have hpurged : Purged tag (s.balancers.get k) (s₁.balancers.get k) := by
      rcases hgone with hsame | hgone
      · rw [hsame]
        exact .refl _ _
      · rw [hgone, Balancers.get_set_self]
        exact purged_filter fun o' ho' hid => hids o (.head os) o' ho' (by simpa using hid)
    rcases hend with ⟨-, -, -, rfl, -⟩ | ⟨-, count', htrace'⟩
    · cases hrest
      exact hpurged
    · exact hpurged.trans (ih hrest htrace' fun o₁ ho₁ o' ho' =>
        hids o₁ (.tail o ho₁) o' (hpurged.sublist.subset ho'))

/-- The cleanup of a kind takes away nothing but objects of that kind that carry the tag. -/
theorem Unsteady.purged_kind (h : Unsteady es s s')
    (htrace : (cleanUpKind tag pages k count).Trace es result) (hids : DistinctIds s)
    (k' : BalancerKind) : Purged tag (s.balancers.get k') (s'.balancers.get k') := by
  by_cases hk : k' = k
  · subst hk
    obtain ⟨es₁, es₂, found, rfl, hlisted, hdeleted⟩ := trace_bind_iff.mp htrace
    obtain ⟨s₁, h₁, h₂⟩ := h.append
    obtain ⟨hsame, howned⟩ := h₁.collecting hlisted
    rw [← hsame]
    cases found with
    | error e =>
      rw [(trace_done_iff.mp hdeleted).1] at h₂
      cases h₂
      exact .refl _ _
    | ok owned =>
      refine h₂.deleting hdeleted fun o ho o' ho' hid => ?_
      rw [hsame] at ho'
      rcases howned owned rfl o ho with hnone | ⟨hcarries, hmem⟩
      · exact nomatch hnone
      · rw [hids.eq_of_id ho' hmem hid]
        exact carries_iff.mp hcarries
  · have hother : k' ∉ [k] := fun hmem => hk (List.mem_singleton.mp hmem)
    rw [h.get_eq (fun x hx => ⟨k, .head _, (trace_cleanUpKind_asked htrace x hx).1⟩) hother]
    exact .refl _ _

/-- **A cleanup takes away nothing but objects that carry the tag**, whatever fails. -/
theorem Unsteady.purged {ks : List BalancerKind} (h : Unsteady es s s')
    (htrace : (cleanUpKinds tag pages ks count).Trace es result) (hids : DistinctIds s)
    (k : BalancerKind) : Purged tag (s.balancers.get k) (s'.balancers.get k) := by
  induction ks generalizing count es s with
  | nil =>
    rw [(trace_done_iff.mp htrace).1] at h
    cases h
    exact .refl _ _
  | cons k₀ ks ih =>
    rw [cleanUpKinds_cons] at htrace
    obtain ⟨es₁, es₂, cleaned, rfl, htrace₁, htrace₂⟩ := trace_bind_iff.mp htrace
    obtain ⟨s₁, h₁, h₂⟩ := h.append
    have hpurged := h₁.purged_kind htrace₁ hids
    cases cleaned with
    | error e =>
      rw [(trace_done_iff.mp htrace₂).1] at h₂
      cases h₂
      exact hpurged k
    | ok count' => exact (hpurged k).trans (ih h₂ htrace₂ (hids.purged hpurged))

/-! ### Surroundings that may lose requests -/

/-- Surroundings in which a request reaches the control plane or is lost, as long as `P` holds of
them. -/
structure Reaches {σ : Type} (answer : (e : Effect) → σ → e.Answer × σ) (plane : σ → Simulator)
    (P : σ → Prop) : Prop where
  /-- That is still so behind a request. -/
  kept : ∀ r t, P t → P (answer (.call r) t).2
  /-- A request that is lost fails, and one that is not gets the answer of the control plane. -/
  reached : ∀ r t, P t →
    (∃ e, (answer (.call r) t).1 = .error e ∧ plane (answer (.call r) t).2 = plane t) ∨
      Simulator.answer r (plane t) =
        ((answer (.call r) t).1, plane (answer (.call r) t).2)

/-- A testbed without queued answers loses no request. -/
theorem reaches_testbed : Reaches Testbed.perform (fun b => b.plane) (fun b => b.queued = []) where
  kept _ _ hqueued := Testbed.queued_perform hqueued _
  reached _ _ hqueued := .inr (by rw [Testbed.perform_call hqueued])

/-- A control plane at which the `n`-th request is lost if `failing n` is an error. -/
def faulty (failing : Nat → Option ApiError) :
    (e : Effect) → Nat × Simulator → e.Answer × Nat × Simulator
  | .call r, (n, s) =>
    match failing n with
    | some e => (.error e, n + 1, s)
    | none => ((Simulator.answer r s).1, n + 1, (Simulator.answer r s).2)
  | .drawId, (n, s) => (s.drawId.1, n, s.drawId.2)
  | .sleep _, w => ((), w)

theorem reaches_faulty (failing : Nat → Option ApiError) :
    Reaches (faulty failing) (fun w => w.2) (fun _ => True) where
  kept _ _ _ := trivial
  reached r w _ := by
    cases hfailing : failing w.1 with
    | some e => exact .inl ⟨e, by rw [faulty, hfailing], by rw [faulty, hfailing]⟩
    | none => exact .inr (by rw [faulty, hfailing])

section Reaching

variable {σ : Type} {answer : (e : Effect) → σ → e.Answer × σ} {plane : σ → Simulator}
  {P : σ → Prop} {t t' : σ} {rounds : Nat}

/-- To the control plane, requests that are lost have failed. -/
theorem Reaches.unsteady (h : Reaches answer plane P) (ht : P t)
    (hcalls : ∀ x ∈ es, ∃ k, Concerns k x) (hreplies : Replies answer es t t') :
    P t' ∧ Unsteady es (plane t) (plane t') := by
  induction es generalizing t with
  | nil =>
    obtain rfl := replies_nil.mp hreplies
    exact ⟨ht, .nil _⟩
  | cons x es ih =>
    obtain ⟨k, hconcerns⟩ := hcalls x (.head es)
    obtain ⟨r, a, rfl⟩ : ∃ r a, x = called r a := by cases hconcerns <;> exact ⟨_, _, rfl⟩
    obtain ⟨ha, hrest⟩ := hreplies
    change (answer (.call r) t).1 = a at ha
    obtain ⟨ht', hunsteady⟩ := ih (h.kept r t ht) (fun y hy => hcalls y (.tail _ hy)) hrest
    refine ⟨ht', ?_⟩
    rcases h.reached r t ht with ⟨e, herror, hsame⟩ | hserved
    · rw [← ha, herror]
      exact .failed e (hsame ▸ hunsteady)
    · rw [ha] at hserved
      exact .answered hserved hunsteady

/-- Listing the objects of a kind comes to an end, whatever is lost. -/
theorem Reaches.exists_run_collect (h : Reaches answer plane P) (wanted : PolicyObject → Bool)
    (ht : P t) (hfits : FitsRounds rounds (plane t)) :
    ∃ found t', (collect (fun cursor => Work.call (.listBalancers k cursor)) wanted rounds).run
      answer t = (some found, t') ∧ P t' ∧ FitsRounds rounds (plane t') := by
  have hfetch : ∀ cursor t₁, (P t₁ ∧ (plane t₁).balancers = (plane t).balancers ∧
        (plane t₁).pageSize = (plane t).pageSize) →
      ∃ fetched t₂, (Work.call (.listBalancers k cursor)).run answer t₁ = (some fetched, t₂) ∧
        (P t₂ ∧ (plane t₂).balancers = (plane t).balancers ∧
          (plane t₂).pageSize = (plane t).pageSize) ∧
        ∀ page, fetched = .ok page →
          page = Simulator.pageAt ((plane t).balancers.get k) cursor (plane t).pageSize := by
    rintro cursor t₁ ⟨ht₁, hbalancers, hsize⟩
    refine ⟨_, _, rfl, ?_⟩
    have hkept := h.kept (.listBalancers k cursor) t₁ ht₁
    rcases h.reached (.listBalancers k cursor) t₁ ht₁ with ⟨e, herror, hsame⟩ | hserved
    · refine ⟨⟨hkept, by rw [hsame, hbalancers], by rw [hsame, hsize]⟩, fun page hpage => ?_⟩
      exact nomatch herror.symm.trans hpage
    · obtain ⟨hsame, hpage⟩ := balancers_of_listing hserved
      have hsettings : Part.settings.Same (plane t₁) _ :=
        Simulator.answer_same (Request.settings_not_mem_touches (.listBalancers k cursor)) _
      rw [hserved] at hsettings
      rw [hbalancers] at hsame
      rw [hbalancers, hsize] at hpage
      exact ⟨⟨hkept, hsame, hsettings.2.1.trans hsize⟩, hpage⟩
  have hstart : ∀ c, none = some c → ∃ n, c = toString n ∧
      n < ((plane t).balancers.get k).length := fun c hc => nomatch hc
  have hends : ∃ found t', (collect (fun cursor => Work.call (.listBalancers k cursor)) wanted
      rounds).run answer t = (some found, t') ∧ P t' ∧
        (plane t').balancers = (plane t).balancers ∧ (plane t').pageSize = (plane t).pageSize :=
    exists_run_collect_loop hfetch (hfits k).2 wanted ⟨ht, rfl, rfl⟩ hstart (hfits k).1
  obtain ⟨found, t', hrun, ht', hbalancers, -⟩ := hends
  refine ⟨found, t', hrun, ht', ?_⟩
  rw [FitsRounds, hbalancers]
  exact hfits

/-- **A cleanup comes to an end**, whatever is lost. -/
theorem Reaches.exists_run_cleanUpKinds (h : Reaches answer plane P) (tag : Tag)
    (ks : List BalancerKind) (count : Nat) (ht : P t) (hfits : FitsRounds rounds (plane t)) :
    ∃ result t', (cleanUpKinds tag rounds ks count).run answer t = (some result, t') := by
  refine Actuator.exists_run_cleanUpKinds
    (fun k t ht => h.exists_run_collect (carries tag) ht.1 ht.2) ?_ ks count ⟨ht, hfits⟩
  intro k os count t result t' ht hrun
  obtain ⟨es, htrace, hreplies⟩ := run_eq_some_iff.mp hrun
  have hcalls : ∀ x ∈ es, ∃ k, Concerns k x := by
    intro x hx
    obtain ⟨id, a, rfl, -⟩ := trace_deleteBalancers_asked htrace x hx
    exact ⟨k, .deletion id a⟩
  obtain ⟨ht', hunsteady⟩ := h.unsteady ht.1 hcalls hreplies
  exact ⟨ht', hunsteady.fits ht.2⟩

end Reaching

end Actuator

end ClusterNet
