import ClusterNet.Proofs.Trace
import ClusterNet.Retry
import Mathlib.Data.Nat.Find
import Mathlib.Data.Set.Insert
import Mathlib.Order.Bounds.Defs

/-!
# What is done again and again

Something is attempted until its outcome counts, with pauses in between. Whatever the outcomes are,
the attempts come to an end, and it is the outcome of the last one that counts: those before it were
errors that may pass.

The outcomes that attempts would have if they were never given up, one after the other, say how many
of them are made. So attempts and their outcomes are numbered, from zero, and a `Course` is a
beginning of such a sequence that ends where the loop does.

## Main definitions

* `RetryPolicy.timeline` — the events of a number of attempts, with the pauses between them
* `RetryPolicy.Course` — the attempts that are made, one after the other
* `RetryPolicy.IsLast` — which attempt is the last one

## Main results

* `RetryPolicy.trace_attemptFrom_succ` — one attempt that others may follow
* `RetryPolicy.trace_attemptFrom_last` — the attempt that leads to the result
* `RetryPolicy.trace_attemptFrom_forall` — what holds of all events of the attempts
* `RetryPolicy.trace_attemptFrom_outcomes` — the outcomes of the attempts
* `RetryPolicy.splitOnP_timeline` — the pauses tell one attempt from the next
* `RetryPolicy.exists_course`, `RetryPolicy.Course.trace` — the loop is its course
* `RetryPolicy.trace_attempt` — how many attempts are made
* `RetryPolicy.ends_attemptFrom` — attempts come to an end
-/

namespace ClusterNet

namespace RetryPolicy

open Program

variable {I : Interface} {ε α σ : Type} {once : σ → Program I (Except ε α × σ)}
variable {mayPass : ε → Bool} {pause : Duration → Program I Unit}

/-! ### One attempt -/

/-- Whether an outcome is an error that may pass. -/
def passes (mayPass : ε → Bool) : Except ε α → Bool
  | .ok _ => false
  | .error e => mayPass e

/-- One attempt that others may follow: it counts, or its error may pass and the others do follow,
behind a pause. -/
theorem trace_attemptFrom_succ {p : RetryPolicy} {left number : Nat} {s : σ}
    {es : List (Program.Event I)} {result : Except ε α × σ}
    (h : (attemptFrom p once mayPass pause (left + 1) number s).Trace es result) :
    (once s).Trace es result ∧ passes mayPass result.1 = false ∨
      ∃ es₁ es₂ es₃ e s₁ u, es = es₁ ++ (es₂ ++ es₃) ∧ (once s).Trace es₁ (.error e, s₁) ∧
        mayPass e = true ∧ (pause (p.delay number)).Trace es₂ u ∧
        (attemptFrom p once mayPass pause left (number + 1) s₁).Trace es₃ result := by
  obtain ⟨es₁, es₂, ⟨outcome, s₁⟩, rfl, h₁, h₂⟩ := trace_bind_iff.mp h
  cases outcome with
  | ok a =>
    obtain ⟨rfl, rfl⟩ := trace_done_iff.mp h₂
    rw [List.append_nil]
    exact .inl ⟨h₁, rfl⟩
  | error e =>
    dsimp only at h₂
    split at h₂
    · next hpass =>
      obtain ⟨es₃, es₄, u, rfl, h₃, h₄⟩ := trace_bind_iff.mp h₂
      exact .inr ⟨es₁, es₃, es₄, e, s₁, u, rfl, h₁, hpass, h₃, h₄⟩
    · next hpass =>
      obtain ⟨rfl, rfl⟩ := trace_done_iff.mp h₂
      rw [List.append_nil]
      exact .inl ⟨h₁, Bool.eq_false_iff.mpr hpass⟩

/-! ### All attempts -/

/-- **The last attempt leads to the result.** Before it, there were only attempts that failed with
an error that may pass, and pauses. -/
theorem trace_attemptFrom_last {p : RetryPolicy} {left number : Nat} {s : σ}
    {es : List (Program.Event I)} {result : Except ε α × σ}
    (h : (attemptFrom p once mayPass pause left number s).Trace es result) :
    ∃ es₁ es₂ s₁, es = es₁ ++ es₂ ∧ (once s₁).Trace es₂ result ∧ ∀ e ∈ es₁,
      (∃ time es' u, (pause time).Trace es' u ∧ e ∈ es') ∨
      ∃ s es' err s', (once s).Trace es' (.error err, s') ∧ mayPass err = true ∧ e ∈ es' := by
  induction left generalizing number s es with
  | zero => exact ⟨[], es, s, rfl, h, nofun⟩
  | succ left ih =>
    rcases trace_attemptFrom_succ h with ⟨honce, -⟩ |
      ⟨es₁, es₂, es₃, err, s₁, u, rfl, h₁, hpass, h₂, h₃⟩
    · exact ⟨[], es, s, rfl, honce, nofun⟩
    · obtain ⟨es₄, es₅, s₂, rfl, hfinal, hearlier⟩ := ih h₃
      refine ⟨es₁ ++ (es₂ ++ es₄), es₅, s₂, by simp only [List.append_assoc], hfinal, ?_⟩
      intro e hmem
      rcases List.mem_append.mp hmem with hmem | hmem
      · exact .inr ⟨s, es₁, err, s₁, h₁, hpass, hmem⟩
      · rcases List.mem_append.mp hmem with hmem | hmem
        · exact .inl ⟨_, es₂, u, h₂, hmem⟩
        · exact hearlier e hmem

/-- The first attempt is always made. -/
theorem trace_attemptFrom_first {p : RetryPolicy} {left number : Nat} {s : σ}
    {es : List (Program.Event I)} {result : Except ε α × σ}
    (h : (attemptFrom p once mayPass pause left number s).Trace es result) :
    ∃ es₁ es₂ outcome, es = es₁ ++ es₂ ∧ (once s).Trace es₁ outcome := by
  cases left with
  | zero => exact ⟨es, [], result, (List.append_nil es).symm, h⟩
  | succ left =>
    obtain ⟨es₁, es₂, outcome, hes, h₁, -⟩ := trace_bind_iff.mp h
    exact ⟨es₁, es₂, outcome, hes, h₁⟩

/-- What holds of all events of the attempts and of the pauses between them holds of all events. -/
theorem trace_attemptFrom_forall {P : Program.Event I → Prop} {p : RetryPolicy}
    (honce : ∀ s es left, (once s).Trace es left → ∀ e ∈ es, P e)
    (hpause : ∀ time es u, (pause time).Trace es u → ∀ e ∈ es, P e) {left number : Nat} {s : σ}
    {es : List (Program.Event I)} {result : Except ε α × σ}
    (h : (attemptFrom p once mayPass pause left number s).Trace es result) : ∀ e ∈ es, P e := by
  obtain ⟨es₁, es₂, s₁, rfl, hfinal, hearlier⟩ := trace_attemptFrom_last h
  intro e hmem
  rcases List.mem_append.mp hmem with hmem | hmem
  · rcases hearlier e hmem with ⟨time, es', u, hes, hmem⟩ | ⟨s, es', err, s', hes, -, hmem⟩
    · exact hpause time es' u hes e hmem
    · exact honce s es' _ hes e hmem
  · exact honce s₁ es₂ result hfinal e hmem

/-- **The last outcome counts.** The outcomes before it are errors that may pass, no more of them
than there are attempts behind the first. -/
theorem trace_attemptFrom_outcomes {outcome? : Program.Event I → Option (Except ε α)}
    {p : RetryPolicy}
    (honce : ∀ s es left, (once s).Trace es left → es.filterMap outcome? = [left.1])
    (hpause : ∀ time es u, (pause time).Trace es u → es.filterMap outcome? = [])
    {left number : Nat} {s : σ} {es : List (Program.Event I)} {result : Except ε α × σ}
    (h : (attemptFrom p once mayPass pause left number s).Trace es result) :
    ∃ passed : List ε, passed.length ≤ left ∧ (∀ e ∈ passed, mayPass e = true) ∧
      es.filterMap outcome? = passed.map .error ++ [result.1] := by
  induction left generalizing number s es with
  | zero => exact ⟨[], Nat.le_refl 0, nofun, honce s es result h⟩
  | succ left ih =>
    rcases trace_attemptFrom_succ h with ⟨h, -⟩ |
      ⟨es₁, es₂, es₃, err, s₁, u, rfl, h₁, hpass, h₂, h₃⟩
    · exact ⟨[], Nat.zero_le _, nofun, honce s es result h⟩
    · obtain ⟨passed, hlength, hpassed, hrest⟩ := ih h₃
      refine ⟨err :: passed, Nat.succ_le_succ hlength, ?_, ?_⟩
      · simpa [hpass] using hpassed
      · rw [List.filterMap_append, List.filterMap_append, honce s es₁ _ h₁, hpause _ es₂ u h₂,
          hrest]
        rfl

/-- **Attempts come to an end** if each of them and every pause does. -/
theorem ends_attemptFrom {p : RetryPolicy} (honce : ∀ s, (once s).Ends)
    (hpause : ∀ time, (pause time).Ends) (left number : Nat) (s : σ) :
    (attemptFrom p once mayPass pause left number s).Ends := by
  induction left generalizing number s with
  | zero => exact honce s
  | succ left ih =>
    refine (honce s).bind fun outcome => ?_
    rcases outcome with ⟨err | a, s₁⟩
    · dsimp only
      split
      · exact (hpause _).bind fun _ => ih _ _
      · exact .done _
    · exact .done _

/-! ### The course of the attempts -/

/-- The events of the attempts up to the one with the number `n`, with the pauses between them. The
attempts made before are counted by `number`. -/
def timeline (p : RetryPolicy) (wait : Duration → Program.Event I) (number n : ℕ)
    (events : ℕ → List (Program.Event I)) : List (Program.Event I) :=
  (List.range n).flatMap (fun i => events i ++ [wait (p.delay (number + i))]) ++ events n

theorem timeline_succ (p : RetryPolicy) (wait : Duration → Program.Event I) (number n : ℕ)
    (events : ℕ → List (Program.Event I)) :
    p.timeline wait number (n + 1) events =
      events 0 ++ ([wait (p.delay number)] ++
        p.timeline wait (number + 1) n fun i => events (i + 1)) := by
  have hrest : (fun i => events (i + 1) ++ [wait (p.delay (number + (i + 1)))]) =
      fun i => events (i + 1) ++ [wait (p.delay (number + 1 + i))] := by
    funext i
    rw [Nat.add_right_comm number 1 i]
    rfl
  simp only [timeline, List.range_succ_eq_map, List.flatMap_cons, List.flatMap_map, Nat.add_zero,
    List.append_assoc, Nat.succ_eq_add_one, hrest]

/-- The pauses between attempts are those that the policy gives. -/
theorem filterMap_timeline {p : RetryPolicy} {wait : Duration → Program.Event I} {number n : ℕ}
    {events : ℕ → List (Program.Event I)} {pause? : Program.Event I → Option Duration}
    (hwait : ∀ time, pause? (wait time) = some time)
    (hevents : ∀ i ≤ n, (events i).filterMap pause? = []) :
    (p.timeline wait number n events).filterMap pause? =
      (List.range n).map fun i => p.delay (number + i) := by
  have hpauses : ∀ i ∈ List.range n,
      (events i ++ [wait (p.delay (number + i))]).filterMap pause? = [p.delay (number + i)] := by
    intro i hmem
    rw [List.filterMap_append, hevents i (List.mem_range.mp hmem).le, List.nil_append,
      List.filterMap_cons_some (hwait _), List.filterMap_nil]
  rw [timeline, List.filterMap_append, hevents n le_rfl, List.append_nil, List.filterMap_flatMap,
    List.map_eq_flatMap]
  exact congrArg List.flatten (List.map_congr_left hpauses)

/-- The course of attempts that end with the one with the number `n`, when so many may be made
behind the first. The others are imagined. -/
structure Course (once : σ → Program I (Except ε α × σ)) (mayPass : ε → Bool) (left n : ℕ)
    (events : ℕ → List (Program.Event I)) (outcome : ℕ → Except ε α) (state : ℕ → σ) : Prop where
  /-- The attempts are made one after the other. -/
  made : ∀ i ≤ n, (once (state i)).Trace (events i) (outcome i, state (i + 1))
  /-- All but the last of them fail with an error that may pass. -/
  passed : ∀ i < n, passes mayPass (outcome i) = true
  /-- There are no more of them than allowed. -/
  allowed : n ≤ left
  /-- The last one counts, or is the last one allowed. -/
  counts : n < left → passes mayPass (outcome n) = false

/-- What comes first, and then what comes behind it. -/
def first {β : Type} (b : β) (bs : ℕ → β) : ℕ → β
  | 0 => b
  | i + 1 => bs i

variable {left n : ℕ} {events : ℕ → List (Program.Event I)} {outcome : ℕ → Except ε α}
  {state : ℕ → σ}

/-- One attempt that counts, or is the only one allowed. -/
theorem Course.single {s : σ} {es : List (Program.Event I)} {result : Except ε α × σ}
    (h : (once s).Trace es result) (hcounts : 0 < left → passes mayPass result.1 = false) :
    Course once mayPass left 0 (fun _ => es) (fun _ => result.1) (first s fun _ => result.2) where
  made i hi := by
    obtain rfl := Nat.le_zero.mp hi
    exact h
  passed i hi := absurd hi (Nat.not_lt_zero i)
  allowed := Nat.zero_le left
  counts := hcounts

/-- An attempt that fails with an error that may pass, and those behind it. -/
theorem Course.cons (h : Course once mayPass left n events outcome state) {s : σ}
    {es : List (Program.Event I)} {e : ε} (hfirst : (once s).Trace es (.error e, state 0))
    (hpass : mayPass e = true) :
    Course once mayPass (left + 1) (n + 1) (first es events) (first (.error e) outcome)
      (first s state) where
  made
    | 0, _ => hfirst
    | i + 1, hi => h.made i (Nat.le_of_succ_le_succ hi)
  passed
    | 0, _ => hpass
    | i + 1, hi => h.passed i (Nat.lt_of_succ_lt_succ hi)
  allowed := Nat.succ_le_succ h.allowed
  counts hn := h.counts (Nat.lt_of_succ_lt_succ hn)

/-- The attempts behind the first one. -/
theorem Course.tail (h : Course once mayPass (left + 1) (n + 1) events outcome state) :
    Course once mayPass left n (fun i => events (i + 1)) (fun i => outcome (i + 1))
      (fun i => state (i + 1)) where
  made i hi := h.made (i + 1) (Nat.succ_le_succ hi)
  passed i hi := h.passed (i + 1) (Nat.succ_lt_succ hi)
  allowed := Nat.le_of_succ_le_succ h.allowed
  counts hn := h.counts (Nat.succ_lt_succ hn)

/-- The course that attempts can take is the one that they take. -/
theorem Course.trace (h : Course once mayPass left n events outcome state) {p : RetryPolicy}
    {wait : Duration → Program.Event I} (hpause : ∀ time, (pause time).Trace [wait time] ())
    (number : ℕ) :
    (attemptFrom p once mayPass pause left number (state 0)).Trace
      (p.timeline wait number n events) (outcome n, state (n + 1)) := by
  induction n generalizing left number events outcome state with
  | zero =>
    have honce := h.made 0 le_rfl
    cases left with
    | zero => exact honce
    | succ left =>
      refine trace_bind_iff.mpr ⟨_, [], _, (List.append_nil _).symm, honce, ?_⟩
      have hcounts := h.counts (Nat.succ_pos left)
      cases houtcome : outcome 0 with
      | ok a => exact .done _
      | error e =>
        rw [houtcome, passes] at hcounts
        dsimp only
        rw [if_neg (Bool.eq_false_iff.mp hcounts)]
        exact .done _
  | succ n ih =>
    obtain ⟨left, rfl⟩ := Nat.exists_eq_succ_of_ne_zero (Nat.ne_zero_of_lt h.allowed)
    have hpass := h.passed 0 (Nat.succ_pos n)
    rw [timeline_succ]
    refine trace_bind_iff.mpr ⟨_, _, _, rfl, h.made 0 (Nat.zero_le _), ?_⟩
    cases houtcome : outcome 0 with
    | ok a =>
      rw [houtcome] at hpass
      exact nomatch hpass
    | error e =>
      rw [houtcome, passes] at hpass
      dsimp only
      rw [if_pos hpass]
      exact trace_bind_iff.mpr ⟨_, _, (), rfl, hpause _, ih h.tail (number + 1)⟩

theorem passes_eq_false_iff {result : Except ε α} :
    passes mayPass result = false ↔ ∀ e, result = .error e → mayPass e = false := by
  cases result with
  | ok a => exact iff_of_true rfl nofun
  | error e => exact ⟨fun h e' he => Except.error.inj he ▸ h, fun h => h e rfl⟩

/-- Whether the attempt with the number `n` is the last one, counted from zero: with it, as many
attempts have been made as the policy allows, or one has an outcome that is none to be tried again,
whichever comes first. -/
def IsLast (p : RetryPolicy) (mayPass : ε → Bool) (outcome : ℕ → Except ε α) (n : ℕ) : Prop :=
  IsLeast (insert (max 1 p.maxAttempts)
    {k | ∃ i, k = i + 1 ∧ ∀ e, outcome i = .error e → mayPass e = false}) (n + 1)

/-- **Attempts are made until one counts**, or until they are as many as the policy allows. -/
theorem trace_attempt {p : RetryPolicy} {wait : Duration → Program.Event I}
    (hpause : ∀ time, (pause time).Trace [wait time] ())
    (hmade : ∀ i, (once (state i)).Trace (events i) (outcome i, state (i + 1))) :
    ∃ n, p.IsLast mayPass outcome n ∧
      (p.attempt once mayPass pause (state 0)).Trace (p.timeline wait 0 n events)
        (outcome n, state (n + 1)) := by
  classical
  have hattempts : 1 ≤ p.attempts := Nat.le_max_left 1 p.maxAttempts
  have hlast : p.attempts - 1 + 1 = p.attempts ∨
      passes mayPass (outcome (p.attempts - 1)) = false :=
    .inl (Nat.sub_add_cancel hattempts)
  have hends : ∃ n, n + 1 = p.attempts ∨ passes mayPass (outcome n) = false := ⟨_, hlast⟩
  have hcourse : Course once mayPass (p.attempts - 1) (Nat.find hends) events outcome state := {
    made := fun i _ => hmade i
    passed := fun i hi =>
      Bool.eq_true_of_not_eq_false fun hcounts => Nat.find_min hends hi (.inr hcounts)
    allowed := Nat.find_min' hends hlast
    counts := fun hn => (Nat.find_spec hends).resolve_left fun hlast => by omega }
  refine ⟨Nat.find hends, ⟨?_, ?_⟩, hcourse.trace hpause 0⟩
  · exact (Nat.find_spec hends).imp id fun hcounts => ⟨_, rfl, passes_eq_false_iff.mp hcounts⟩
  · rintro k (rfl | ⟨i, rfl, hcounts⟩)
    · exact Nat.add_le_of_le_sub hattempts hcourse.allowed
    · exact Nat.succ_le_succ (Nat.find_min' hends (.inr (passes_eq_false_iff.mpr hcounts)))

end RetryPolicy

end ClusterNet
