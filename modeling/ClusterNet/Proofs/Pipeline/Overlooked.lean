import ClusterNet.Proofs.Pipeline.Waiting
import Mathlib.Logic.Function.Iterate

/-!
# Addresses that a wait overlooks

An allocation becomes any number of things, and any of them may have an attribute with the address.
An empty text is no address. A poll that brings an address should end the wait with it, wherever the
address stands among the texts.

But a poll takes the first text of all and then looks whether it is empty. So an empty text hides
the addresses behind it, and the answer is taken for one that brings nothing: the wait goes on, and
if the answers stay that way, it fails at the deadline with the address at hand.

Nothing of this depends on the schedule. The pauses are those that the wait itself makes, whatever
it was told about intervals.

## Main definitions

* `Pipeline.addressTexts`, `Pipeline.firstAddress` — the texts of an answer, and the address
* `Pipeline.Addressless` — answers without an address
* `Pipeline.reached` — a wait in front of one of its polls

## Main results

* `Pipeline.pollResult_of_firstAddress` — what a poll makes of an answer with an address
* `Pipeline.trace_polls_iff` — a wait that is not decided yet
* `Pipeline.address_seen_iff` — an address is seen unless the first text is empty
-/

namespace ClusterNet

namespace Pipeline

open Cluster (InfraError Reference Slot State)
open ControlPlane Program

variable {entities : List RealizedEntity} {address : String}

/-! ### Answers -/

/-- The texts of the address attribute, of all things that have one. -/
def addressTexts (entities : List RealizedEntity) : List String :=
  entities.filterMap (·.attribute addressAttribute)

/-- The first address: the first of the texts that is not empty. -/
def firstAddress (entities : List RealizedEntity) : Option String :=
  (addressTexts entities).find? fun text => !text.isEmpty

/-- An answer without an address: there is nothing yet, or nothing that has one. -/
inductive Addressless : Except ApiError (List RealizedEntity) → Prop
  /-- Nothing has an address. -/
  | noAddress {entities : List RealizedEntity} (h : firstAddress entities = none) :
    Addressless (.ok entities)
  /-- There is nothing yet. -/
  | notFound {e : ApiError} (h : e.isNotFound = true) : Addressless (.error e)

theorem addressOf_eq (entities : List RealizedEntity) :
    addressOf entities = (addressTexts entities).head?.filter fun text => !text.isEmpty := by
  rw [addressOf, addressTexts, List.head?_filterMap]

/-- What a poll makes of an answer without an address. -/
theorem Addressless.undecided {answer : Except ApiError (List RealizedEntity)}
    (h : Addressless answer) : Undecided answer := by
  cases h with
  | @noAddress entities h =>
    rw [firstAddress, List.find?_eq_none] at h
    have hfirst : addressOf entities = none := by
      rw [addressOf_eq, Option.filter_eq_none_iff]
      exact fun text htext => h text (List.mem_of_head? htext)
    rw [Undecided, pollResult, hfirst]
    rfl
  | notFound h => rw [Undecided, pollResult, if_pos h]

/-- What a poll makes of an answer with an address: it sees the address unless the first text is
empty, and then it sees nothing. -/
theorem pollResult_of_firstAddress (h : firstAddress entities = some address) :
    pollResult (.ok entities) =
      if (addressTexts entities).head? = some "" then none else some (.ok address) := by
  rw [pollResult, addressOf_eq]
  rw [firstAddress] at h
  cases htexts : addressTexts entities with
  | nil =>
    rw [htexts] at h
    exact nomatch h
  | cons text texts =>
    rw [htexts, List.find?_cons] at h
    by_cases hempty : text = ""
    · subst hempty
      rfl
    · have hsome : (!text.isEmpty) = true := by simpa using hempty
      rw [hsome] at h
      obtain rfl := Option.some.inj h
      simp [hempty]

/-! ### A wait that is not decided yet -/

variable {schedule : RealizationSchedule} {path : String}

/-- A wait in front of its poll numbered `k`. -/
def reached (schedule : RealizationSchedule) (k : Nat) : Waiting :=
  (Waiting.next schedule)^[k] (.start schedule)

/-- The pause behind the poll numbered `k`. -/
def pauseBehind (schedule : RealizationSchedule) (k : Nat) : Duration := (reached schedule k).pause

theorem reached_succ (k : Nat) :
    reached schedule (k + 1) = (reached schedule k).next schedule :=
  Function.iterate_succ_apply' _ _ _

/-- The time left is the timeout less the time that has passed. -/
theorem left_reached (path : String) (answers : Nat → Except ApiError (List RealizedEntity))
    (k : Nat) :
    (reached schedule k).left =
      schedule.timeout.sub (passed (polls path (pauseBehind schedule) answers k)) := by
  induction k with
  | zero => rfl
  | succ k ih =>
    rw [reached_succ, passed_polls_succ, Waiting.next, ih]
    exact congrArg Duration.mk (Nat.sub_sub _ _ _)

/-- What a wait does behind a poll depends on what the answer says and nothing else. -/
theorem behindPoll_congr {answer answer' : Except ApiError (List RealizedEntity)}
    (h : pollResult answer = pollResult answer') (rounds : Nat) (w : Waiting) :
    behindPoll schedule path rounds w answer = behindPoll schedule path rounds w answer' := by
  rw [behindPoll, h, ← behindPoll]

/-- Behind an answer that does not decide it, a wait goes on if there is time left. -/
theorem behindPoll_of_undecided {answer : Except ApiError (List RealizedEntity)} {w : Waiting}
    (hundecided : Undecided answer) (hleft : w.left.nanoseconds ≠ 0) (rounds : Nat) :
    behindPoll schedule path rounds w answer = (Work.sleep w.pause).bind fun _ =>
      Program.loop (poll schedule path) rounds (w.next schedule) := by
  rw [behindPoll, show pollResult answer = none from hundecided]
  exact if_neg hleft

/-- **A wait that is not decided yet** has made its polls and pauses, and goes on behind the next
poll. -/
theorem trace_polls_iff (rounds : Nat) {answers : Nat → Except ApiError (List RealizedEntity)}
    {n j : Nat} (hundecided : ∀ k < n, Undecided (answers k))
    (hleft : ∀ k < n, (reached schedule (j + k)).left.nanoseconds ≠ 0) {es : List Event}
    {result : Except InfraError String} :
    (Program.loop (poll schedule path) (rounds + n + 1) (reached schedule j)).Trace
        (polls path (fun k => pauseBehind schedule (j + k)) answers n ++ es) result ↔
      (behindPoll schedule path rounds (reached schedule (j + n)) (answers n)).Trace es result := by
  induction n generalizing j answers with
  | zero =>
    rw [loop_poll]
    exact trace_request_bind_cons_iff
  | succ n ih =>
    have hundecided' : ∀ k < n, Undecided (answers (k + 1)) := fun k hk =>
      hundecided (k + 1) (Nat.succ_lt_succ hk)
    have hleft' : ∀ k < n, (reached schedule (j + 1 + k)).left.nanoseconds ≠ 0 := by
      intro k hk
      rw [Nat.add_right_comm]
      exact hleft (k + 1) (Nat.succ_lt_succ hk)
    have hrest := ih hundecided' hleft'
    rw [Nat.add_right_comm j 1 n] at hrest
    rw [loop_poll, polls_succ, List.cons_append, List.cons_append]
    refine trace_request_bind_cons_iff.trans ?_
    have htime : (reached schedule j).left.nanoseconds ≠ 0 := hleft 0 (Nat.succ_pos n)
    rw [behindPoll_of_undecided (hundecided 0 (Nat.succ_pos n)) htime]
    refine trace_request_bind_cons_iff.trans ?_
    rw [← reached_succ, counted_next (pauseBehind schedule)]
    exact hrest

/-! ### The address -/

variable {c : Context} {state : State} {allocation : Reference}
variable {answers : Nat → Except ApiError (List RealizedEntity)} {n : Nat}

/-- A whole wait, while it is not decided yet. -/
theorem trace_awaitAddress_polls_iff {rounds : Nat} (hrounds : n < rounds)
    (hundecided : ∀ k < n, Undecided (answers k))
    (hleft : ∀ k < n, (reached schedule k).left.nanoseconds ≠ 0) {es : List Event}
    {result : Except InfraError String} :
    (awaitAddress schedule path rounds).Trace
        (polls path (pauseBehind schedule) answers n ++ es) result ↔
      (behindPoll schedule path (rounds - (n + 1)) (reached schedule n) (answers n)).Trace
        es result := by
  have hleft' : ∀ k < n, (reached schedule (0 + k)).left.nanoseconds ≠ 0 := by
    simpa only [Nat.zero_add] using hleft
  have hsplit : rounds - (n + 1) + n + 1 = rounds := by omega
  have htrace : (Program.loop (poll schedule path) _ _).Trace (_ ++ es) result ↔ _ :=
    trace_polls_iff (rounds - (n + 1)) hundecided hleft'
  simp only [Nat.zero_add, hsplit] at htrace
  exact htrace

/-- Waiting for the address of an allocation, while it is not decided yet. -/
theorem trace_realize_polls_iff
    (hallocation : state.reference .snatIpAllocation = some allocation) (hrounds : n < c.rounds)
    (hundecided : ∀ k < n, Undecided (answers k))
    (hleft : ∀ k < n, (reached c.realization k).left.nanoseconds ≠ 0) {es : List Event}
    {left : Left Action} :
    (realize c state).Trace
        (polls allocation.path (pauseBehind c.realization) answers n ++ es) left ↔
      ∃ result, (behindPoll c.realization allocation.path (c.rounds - (n + 1))
        (reached c.realization n) (answers n)).Trace es result ∧ left = arrived state result := by
  simp only [realize_eq, hallocation, trace_bind_done_iff,
    trace_awaitAddress_polls_iff hrounds hundecided hleft]

/-- No address is found by a poll that does not decide the wait. -/
theorem not_found_of_undecided {answer : Except ApiError (List RealizedEntity)}
    (hundecided : Undecided answer) (rounds : Nat) (w : Waiting) (state : State)
    (address : String) :
    ¬ ∃ result, (behindPoll schedule path rounds w answer).Trace [] result ∧
      arrived state (.ok address) = arrived state result := by
  rintro ⟨result, htrace, hsame⟩
  by_cases hleft : w.left.nanoseconds = 0
  · rw [behindPoll, show pollResult answer = none from hundecided, if_pos hleft] at htrace
    obtain ⟨-, rfl⟩ := trace_done_iff.mp htrace
    cases (Prod.mk.inj hsame).1
  · rw [behindPoll_of_undecided hundecided hleft] at htrace
    cases htrace

/-- **A realized address is seen unless the first text is empty.** The first answer that brings an
address ends the wait with the first address in it, except if the first of all texts in it is empty.
Then the wait goes on as if the answer had brought nothing. -/
theorem address_seen_iff (hallocation : state.reference .snatIpAllocation = some allocation)
    (hrounds : n < c.rounds) (haddressless : ∀ k < n, Addressless (answers k))
    (hearly : ∀ k < n,
      (passed (polls allocation.path (pauseBehind c.realization) answers k)).nanoseconds <
        c.realization.timeout.nanoseconds)
    (hanswer : answers n = .ok entities) (haddress : firstAddress entities = some address) :
    ((realize c state).Trace (polls allocation.path (pauseBehind c.realization) answers n)
        (.ok (addressAction state.snatIpAddress address),
          { state with snatIpAddress := some address }) ↔
      (addressTexts entities).head? ≠ some "") ∧
    ((addressTexts entities).head? = some "" → ∀ es left,
      (realize c state).Trace
          (polls allocation.path (pauseBehind c.realization) answers n ++ es) left ↔
        (realize c state).Trace
          (polls allocation.path (pauseBehind c.realization)
            (Function.update answers n (.ok [])) n ++ es) left) := by
  have hundecided : ∀ k < n, Undecided (answers k) := fun k hk => (haddressless k hk).undecided
  have hleft : ∀ k < n, (reached c.realization k).left.nanoseconds ≠ 0 := by
    intro k hk
    have htime := hearly k hk
    rw [left_reached allocation.path answers, Duration.nanoseconds_sub]
    omega
  have hresult := pollResult_of_firstAddress haddress
  constructor
  · rw [← List.append_nil (polls _ _ _ _),
      trace_realize_polls_iff hallocation hrounds hundecided hleft, hanswer]
    by_cases hempty : (addressTexts entities).head? = some ""
    · rw [if_pos hempty] at hresult
      exact iff_of_false (not_found_of_undecided hresult _ _ state address) (not_not_intro hempty)
    · rw [if_neg hempty] at hresult
      refine iff_of_true ⟨.ok address, ?_, rfl⟩ hempty
      rw [behindPoll, hresult]
      exact .done _
  · intro hempty es left
    rw [if_pos hempty] at hresult
    have hundecided' : ∀ k < n, Undecided (Function.update answers n (.ok []) k) := by
      intro k hk
      rw [Function.update_of_ne (Nat.ne_of_lt hk)]
      exact hundecided k hk
    rw [trace_realize_polls_iff hallocation hrounds hundecided hleft,
      trace_realize_polls_iff hallocation hrounds hundecided' hleft, Function.update_self, hanswer,
      behindPoll_congr (hresult.trans (show none = pollResult (.ok []) from rfl))]

/-! ### An address behind an empty text -/

/-- What a task of an actuator whose waits are short works with. -/
def hastyContext : Context := hasty.context hastyRequest

/-- Two things with the same attribute. The text of the first one is empty. -/
def blankFirst : List RealizedEntity :=
  ["", "192.0.2.77"].map fun text =>
    { extendedAttributes := [{ key := addressAttribute, values := [text] }] }

/-- Two things with the same attribute. The text of the second one is empty. -/
def blankLast : List RealizedEntity := blankFirst.reverse

/-- At first there is nothing. The address that is there 300 ms later is seen. -/
theorem address_seen_iff_blankLast :
    let answers : Nat → Except ApiError (List RealizedEntity) :=
      fun k => if k = 0 then .error (.notFound "alloc") else .ok blankLast
    allocatedState.reference .snatIpAllocation = some ⟨"alloc", "/alloc"⟩ ∧
      firstAddress blankLast = some "192.0.2.77" ∧
      (realize hastyContext allocatedState).Trace
        (polls "/alloc" (pauseBehind hastyContext.realization) answers 1)
        (.ok .found, { allocatedState with snatIpAddress := some "192.0.2.77" }) := by
  intro answers
  have hallocation : allocatedState.reference .snatIpAllocation = some ⟨"alloc", "/alloc"⟩ := rfl
  have haddress : firstAddress blankLast = some "192.0.2.77" := by decide +kernel
  have haddressless : ∀ k < 1, Addressless (answers k) := by
    intro k hk
    obtain rfl : k = 0 := Nat.lt_one_iff.mp hk
    exact .notFound rfl
  have hearly : ∀ k < 1,
      (passed (polls "/alloc" (pauseBehind hastyContext.realization) answers k)).nanoseconds <
        hastyContext.realization.timeout.nanoseconds := by
    intro k hk
    obtain rfl : k = 0 := Nat.lt_one_iff.mp hk
    decide
  have hseen := address_seen_iff (c := hastyContext) hallocation (by decide) haddressless
    hearly rfl haddress
  exact ⟨hallocation, haddress, hseen.1.mpr (by decide +kernel)⟩

/-- All answers up to the deadline bring the address, none of them is seen, and the wait fails. -/
theorem blankFirst_overlooked :
    allocatedState.reference .snatIpAllocation = some ⟨"alloc", "/alloc"⟩ ∧
      firstAddress blankFirst = some "192.0.2.77" ∧
      (¬ (realize hastyContext allocatedState).Trace
        (polls "/alloc" (pauseBehind hastyContext.realization) (fun _ => .ok blankFirst) 0)
        (.ok .found, { allocatedState with snatIpAddress := some "192.0.2.77" })) ∧
      (realize hastyContext allocatedState).Trace
        (polls "/alloc" (pauseBehind hastyContext.realization) (fun _ => .ok blankFirst) 4)
        (.error (.realizationTimeout "/alloc" (.ofSeconds 2)), allocatedState) := by
  have hallocation : allocatedState.reference .snatIpAllocation = some ⟨"alloc", "/alloc"⟩ := rfl
  have hundecided : Undecided (.ok blankFirst) := by decide +kernel
  have hleft : ∀ k < 4, (reached hastyContext.realization k).left.nanoseconds ≠ 0 := by decide
  refine ⟨hallocation, by decide +kernel, ?_, ?_⟩
  · rw [← List.append_nil (polls _ _ _ _), trace_realize_polls_iff hallocation (by decide)
      (fun k _ => hundecided) (fun k hk => absurd hk (Nat.not_lt_zero k))]
    exact not_found_of_undecided hundecided _ _ allocatedState "192.0.2.77"
  · rw [← List.append_nil (polls _ _ _ _), trace_realize_polls_iff hallocation (by decide)
      (fun k _ => hundecided) hleft]
    refine ⟨.error (.realizationTimeout "/alloc" (.ofSeconds 2)), ?_, rfl⟩
    rw [behindPoll, show pollResult (.ok blankFirst) = none from hundecided]
    exact .done _

end Pipeline

end ClusterNet
