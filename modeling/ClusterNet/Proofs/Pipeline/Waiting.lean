import ClusterNet.Actuator
import ClusterNet.Proofs.Pipeline.Cases
import Mathlib.Data.Nat.Find
import Mathlib.Tactic.Ring

/-!
# The wait for an address

A wait polls, pauses and polls again. It does not look at a clock: time passes in its pauses only,
so the moment of every poll is known beforehand, whatever is answered. The schedule says it all. The
interval behind a poll doubles from poll to poll up to the longest one, a pause is the interval or
the time that is left, whichever is shorter, and the poll at the deadline is the last one.

What the answers decide is only where on the schedule the wait stops. An answer *decides* it if it
brings an address, or an error other than that nothing is there yet. The wait stops at the first
poll that is decided, and at the deadline if none is.

The argument is an invariant of the loop: in front of the poll numbered `k` the next interval is the
one that the schedule has behind that poll, and the time left is the timeout less the time that has
passed by then. That the loop comes to an end needs a measure. As long as the deadline is not
reached, every pause is at least as long as the first interval, so the deadline comes after no more
polls than such intervals fit into the timeout.

## Main definitions

* `RealizationSchedule.interval`, `RealizationSchedule.pause`, `RealizationSchedule.elapsed` — what
  a schedule says about the poll numbered `k`
* `RealizationSchedule.pollLimit` — a number of polls that suffices
* `Pipeline.polls`, `Pipeline.passed` — the events of a wait, and the time that passes in them
* `Pipeline.Concludes` — where a wait stops, and with which result
* `Pipeline.OnSchedule` — all that is to be said about a wait

## Main results

* `Pipeline.trace_wait_iff` — the traces of a wait under way
* `Pipeline.ends_wait` — it comes to an end
* `Pipeline.realize_onSchedule` — with a configuration that makes sense, every wait is on schedule
-/

namespace ClusterNet

namespace Pipeline

open Cluster (InfraError Reference Slot State)
open ControlPlane Program

/-! ### The schedule -/

namespace RealizationSchedule

/-- The interval behind the poll numbered `k`: it doubles with every poll, up to the longest one. -/
def interval (schedule : RealizationSchedule) (k : Nat) : Duration :=
  (Duration.mk (schedule.initialInterval.nanoseconds * 2 ^ k)).min schedule.maxInterval

/-- The time that has passed in front of the poll numbered `k`. -/
def elapsed (schedule : RealizationSchedule) : Nat → Duration
  | 0 => .zero
  | k + 1 =>
    (schedule.elapsed k).add
      ((schedule.interval k).min (schedule.timeout.sub (schedule.elapsed k)))

/-- The pause behind the poll numbered `k`: the interval, or the time that is left until the
deadline if that is shorter. -/
def pause (schedule : RealizationSchedule) (k : Nat) : Duration :=
  (schedule.interval k).min (schedule.timeout.sub (schedule.elapsed k))

/-- So many polls suffice: one behind each of the first intervals that fit into the timeout, one at
the start and one at the deadline. -/
def pollLimit (schedule : RealizationSchedule) : Nat :=
  schedule.timeout.nanoseconds / schedule.initialInterval.nanoseconds + 2

/-- The first interval takes time, and it is not longer than the longest one. -/
structure IsProper (schedule : RealizationSchedule) : Prop where
  /-- The first interval takes time. -/
  pos : 0 < schedule.initialInterval.nanoseconds
  /-- It is not longer than the longest one. -/
  le : schedule.initialInterval.nanoseconds ≤ schedule.maxInterval.nanoseconds

variable {schedule : RealizationSchedule}

theorem elapsed_succ (k : Nat) :
    schedule.elapsed (k + 1) = (schedule.elapsed k).add (schedule.pause k) :=
  rfl

theorem elapsed_le_timeout (k : Nat) :
    (schedule.elapsed k).nanoseconds ≤ schedule.timeout.nanoseconds := by
  induction k with
  | zero => exact Nat.zero_le _
  | succ k ih =>
    have hpause : (schedule.pause k).nanoseconds ≤
        schedule.timeout.nanoseconds - (schedule.elapsed k).nanoseconds := Nat.min_le_right _ _
    rw [elapsed_succ, Duration.nanoseconds_add]
    omega

/-- There is no time left exactly at the deadline. -/
theorem left_eq_zero_iff (k : Nat) :
    (schedule.timeout.sub (schedule.elapsed k)).nanoseconds = 0 ↔
      schedule.elapsed k = schedule.timeout := by
  have hle := schedule.elapsed_le_timeout k
  rw [Duration.nanoseconds_sub]
  constructor
  · intro h
    have hsame : (schedule.elapsed k).nanoseconds = schedule.timeout.nanoseconds := by omega
    exact congrArg Duration.mk hsame
  · intro h
    rw [h, Nat.sub_self]

/-- Every poll is made before the deadline, or at it. -/
theorem lt_timeout_iff {k : Nat} :
    (schedule.elapsed k).nanoseconds < schedule.timeout.nanoseconds ↔
      schedule.elapsed k ≠ schedule.timeout := by
  have hle := schedule.elapsed_le_timeout k
  have hzero := schedule.left_eq_zero_iff k
  rw [Duration.nanoseconds_sub] at hzero
  rw [Ne, ← hzero]
  omega

/-- Doubled and cut, an interval is the next one. -/
theorem interval_succ (k : Nat) :
    (schedule.interval k).double.min schedule.maxInterval = schedule.interval (k + 1) := by
  have hpow : schedule.initialInterval.nanoseconds * 2 ^ (k + 1) =
      schedule.initialInterval.nanoseconds * 2 ^ k * 2 := by
    ring
  refine congrArg Duration.mk ?_
  show min (min (schedule.initialInterval.nanoseconds * 2 ^ k) schedule.maxInterval.nanoseconds * 2)
      schedule.maxInterval.nanoseconds =
    min (schedule.initialInterval.nanoseconds * 2 ^ (k + 1)) schedule.maxInterval.nanoseconds
  rw [hpow]
  omega

namespace IsProper

theorem interval_zero (h : schedule.IsProper) :
    schedule.interval 0 = schedule.initialInterval := by
  refine congrArg Duration.mk ?_
  rw [Nat.pow_zero, Nat.mul_one]
  exact Nat.min_eq_left h.le

theorem initial_le_interval (h : schedule.IsProper) (k : Nat) :
    schedule.initialInterval.nanoseconds ≤ (schedule.interval k).nanoseconds :=
  Nat.le_min.mpr ⟨Nat.le_mul_of_pos_right _ (Nat.two_pow_pos k), h.le⟩

/-- As long as the deadline is not reached, every pause is at least as long as the first
interval. -/
theorem elapsed_eq_or_le (h : schedule.IsProper) (k : Nat) :
    schedule.elapsed k = schedule.timeout ∨
      k * schedule.initialInterval.nanoseconds ≤ (schedule.elapsed k).nanoseconds := by
  induction k with
  | zero => exact .inr (by simp)
  | succ k ih =>
    have hinterval := h.initial_le_interval k
    have hle := schedule.elapsed_le_timeout k
    have hpause : (schedule.pause k).nanoseconds =
        min (schedule.interval k).nanoseconds
          (schedule.timeout.nanoseconds - (schedule.elapsed k).nanoseconds) := rfl
    rw [elapsed_succ]
    by_cases hclipped : schedule.timeout.nanoseconds - (schedule.elapsed k).nanoseconds ≤
        (schedule.interval k).nanoseconds
    · left
      have hsum : (schedule.elapsed k).nanoseconds + (schedule.pause k).nanoseconds =
          schedule.timeout.nanoseconds := by omega
      exact congrArg Duration.mk hsum
    · right
      have hbefore : k * schedule.initialInterval.nanoseconds ≤
          (schedule.elapsed k).nanoseconds := by
        rcases ih with hdeadline | hbefore
        · rw [hdeadline, Nat.sub_self] at hclipped
          exact absurd (Nat.zero_le _) hclipped
        · exact hbefore
      rw [Nat.succ_mul, Duration.nanoseconds_add]
      omega

/-- The deadline is reached within the number of polls that suffices. -/
theorem elapsed_pollLimit (h : schedule.IsProper) :
    schedule.elapsed (schedule.pollLimit - 1) = schedule.timeout := by
  rcases h.elapsed_eq_or_le (schedule.pollLimit - 1) with hdeadline | hlong
  · exact hdeadline
  · have hover : schedule.timeout.nanoseconds <
        (schedule.pollLimit - 1) * schedule.initialInterval.nanoseconds := by
      rw [Nat.mul_comm]
      exact Nat.lt_mul_div_succ _ h.pos
    have hle := schedule.elapsed_le_timeout (schedule.pollLimit - 1)
    omega

end IsProper

end RealizationSchedule

/-! ### The events of a wait -/

/-- A pause. -/
abbrev paused (time : Duration) : Event := ⟨.sleep time, ()⟩

/-- The events of a wait that makes `n` polls, each with a pause behind it, and then one more. -/
def polls (path : String) (pauses : Nat → Duration)
    (answers : Nat → Except ApiError (List RealizedEntity)) (n : Nat) : List Event :=
  ((List.range n).flatMap fun k => [called (.listRealized path) (answers k), paused (pauses k)]) ++
    [called (.listRealized path) (answers n)]

/-- The time that passes in one event. -/
def timeOf (e : Event) : Nat :=
  match e.1 with
  | .sleep time => time.nanoseconds
  | _ => 0

/-- The time that passes in events: it passes in their pauses only. -/
def passed (es : List Event) : Duration := ⟨(es.map timeOf).sum⟩

/-- The answer does not decide a wait. -/
abbrev Undecided (answer : Except ApiError (List RealizedEntity)) : Prop :=
  pollResult answer = none

theorem polls_succ (path : String) (pauses : Nat → Duration)
    (answers : Nat → Except ApiError (List RealizedEntity)) (n : Nat) :
    polls path pauses answers (n + 1) =
      called (.listRealized path) (answers 0) :: paused (pauses 0) ::
        polls path (fun k => pauses (k + 1)) (fun k => answers (k + 1)) n := by
  simp only [polls, List.range_succ_eq_map, List.flatMap_cons, List.flatMap_map,
    List.cons_append, List.nil_append]

/-- Another poll takes the pause in front of it. -/
theorem passed_polls_succ (path : String) (pauses : Nat → Duration)
    (answers : Nat → Except ApiError (List RealizedEntity)) (n : Nat) :
    passed (polls path pauses answers (n + 1)) =
      (passed (polls path pauses answers n)).add (pauses n) := by
  refine congrArg Duration.mk ?_
  simp only [polls, passed, List.range_succ, List.flatMap_append, List.map_append, List.sum_append,
    List.flatMap_singleton, List.map_cons, List.map_nil, List.sum_cons, List.sum_nil, timeOf,
    Nat.zero_add, Nat.add_zero]

/-- Time passes on a schedule as the schedule says. -/
theorem passed_polls (schedule : RealizationSchedule) (path : String)
    (answers : Nat → Except ApiError (List RealizedEntity)) (n : Nat) :
    passed (polls path schedule.pause answers n) = schedule.elapsed n := by
  induction n with
  | zero => rfl
  | succ n ih => rw [passed_polls_succ, ih, RealizationSchedule.elapsed_succ]

/-! ### Where a wait stops -/

/-- What makes a poll the last one of a wait, at its moment and with its answer: the answer decides
the wait, or the time is up. -/
def Final (schedule : RealizationSchedule) (path : String) (moment : Duration)
    (answer : Except ApiError (List RealizedEntity)) (result : Except InfraError String) : Prop :=
  pollResult answer = some result ∨
    Undecided answer ∧ moment = schedule.timeout ∧
      result = .error (.realizationTimeout path schedule.timeout)

/-- A wait whose polls are made at the given moments and answered in the given way stops at the poll
numbered `n`. -/
structure Concludes (schedule : RealizationSchedule) (path : String) (moments : Nat → Duration)
    (answers : Nat → Except ApiError (List RealizedEntity)) (n : Nat)
    (result : Except InfraError String) : Prop where
  /-- No poll before it decides the wait. -/
  undecided : ∀ k < n, Undecided (answers k)
  /-- All polls before it are made before the deadline. -/
  early : ∀ k < n, (moments k).nanoseconds < schedule.timeout.nanoseconds
  /-- It is the last one. -/
  last : Final schedule path (moments n) (answers n) result

/-- A wait stops behind its first poll if this poll does not decide it, is made before the deadline,
and what is left of the wait stops. -/
theorem concludes_succ_iff {schedule : RealizationSchedule} {path : String}
    {moments : Nat → Duration} {answers : Nat → Except ApiError (List RealizedEntity)} {n : Nat}
    {result : Except InfraError String} :
    Concludes schedule path moments answers (n + 1) result ↔
      Undecided (answers 0) ∧ (moments 0).nanoseconds < schedule.timeout.nanoseconds ∧
        Concludes schedule path (fun i => moments (i + 1)) (fun i => answers (i + 1)) n result := by
  constructor
  · rintro ⟨hundecided, hearly, hlast⟩
    exact ⟨hundecided 0 (Nat.succ_pos n), hearly 0 (Nat.succ_pos n),
      fun i hi => hundecided (i + 1) (Nat.succ_lt_succ hi),
      fun i hi => hearly (i + 1) (Nat.succ_lt_succ hi), hlast⟩
  · rintro ⟨hpoll, htime, hundecided, hearly, hlast⟩
    refine ⟨fun i hi => ?_, fun i hi => ?_, hlast⟩
    · cases i with
      | zero => exact hpoll
      | succ i => exact hundecided i (Nat.lt_of_succ_lt_succ hi)
    · cases i with
      | zero => exact htime
      | succ i => exact hearly i (Nat.lt_of_succ_lt_succ hi)

/-- What comes behind the next poll, counted from there. -/
theorem counted_next {α : Type} (f : Nat → α) (k : Nat) :
    (fun i => f (k + (i + 1))) = fun i => f (k + 1 + i) :=
  funext fun i => congrArg f (Nat.add_right_comm k i 1)

/-! ### The loop -/

/-- A wait in front of the poll numbered `k`. -/
def waiting (schedule : RealizationSchedule) (k : Nat) : Waiting where
  interval := schedule.interval k
  left := schedule.timeout.sub (schedule.elapsed k)

variable {schedule : RealizationSchedule} {path : String}

theorem waiting_zero (h : schedule.IsProper) : waiting schedule 0 = .start schedule := by
  have hleft : schedule.timeout.sub (schedule.elapsed 0) = schedule.timeout := rfl
  rw [waiting, h.interval_zero, hleft, Waiting.start]

/-- A pause brings the wait in front of the next poll. -/
theorem next_waiting (k : Nat) :
    (waiting schedule k).next schedule = waiting schedule (k + 1) := by
  have hleft : (schedule.timeout.sub (schedule.elapsed k)).sub (schedule.pause k) =
      schedule.timeout.sub (schedule.elapsed (k + 1)) := by
    refine congrArg Duration.mk ?_
    rw [RealizationSchedule.elapsed_succ, Duration.nanoseconds_add]
    exact Nat.sub_sub _ _ _
  show Waiting.mk _ _ = Waiting.mk _ _
  rw [Waiting.mk.injEq]
  exact ⟨RealizationSchedule.interval_succ k, hleft⟩

/-- What a wait does behind a poll, given the answer. -/
def behindPoll (schedule : RealizationSchedule) (path : String) (rounds : Nat) (w : Waiting)
    (answer : Except ApiError (List RealizedEntity)) : Work (Except InfraError String) :=
  match pollResult answer with
  | some result => .done result
  | none =>
    if w.left.nanoseconds = 0 then .done (.error (.realizationTimeout path schedule.timeout))
    else (Work.sleep w.pause).bind fun _ =>
      Program.loop (poll schedule path) rounds (w.next schedule)

/-- One round of a wait, and the rounds behind it. -/
theorem loop_poll (rounds : Nat) (w : Waiting) :
    Program.loop (poll schedule path) (rounds + 1) w =
      (Work.call (.listRealized path)).bind (behindPoll schedule path rounds w) := by
  refine (bind_assoc _ _ _).trans (congrArg (Program.bind _) (funext fun answer => ?_))
  rw [behindPoll]
  cases pollResult answer with
  | some result => rfl
  | none =>
    dsimp only
    split <;> rfl

/-- One round of a wait in front of the poll numbered `k`, and the rounds behind it. -/
theorem loop_waiting (rounds k : Nat) :
    Program.loop (poll schedule path) (rounds + 1) (waiting schedule k) =
      (Work.call (.listRealized path)).bind fun answer =>
        match pollResult answer with
        | some result => .done result
        | none =>
          if schedule.elapsed k = schedule.timeout then
            .done (.error (.realizationTimeout path schedule.timeout))
          else
            (Work.sleep (schedule.pause k)).bind fun _ =>
              Program.loop (poll schedule path) rounds (waiting schedule (k + 1)) := by
  rw [loop_poll, ← next_waiting]
  refine congrArg (Program.bind _) (funext fun answer => ?_)
  rw [behindPoll]
  cases pollResult answer with
  | some result => rfl
  | none =>
    have hleft : (waiting schedule k).left.nanoseconds = 0 ↔ _ := schedule.left_eq_zero_iff k
    by_cases hdeadline : schedule.elapsed k = schedule.timeout
    · rw [if_pos hdeadline]
      exact if_pos (hleft.mpr hdeadline)
    · rw [if_neg hdeadline]
      exact if_neg (mt hleft.mp hdeadline)

/-- The ways in which a wait can go from the poll numbered `k` on, within a number of rounds. -/
def Course (schedule : RealizationSchedule) (path : String) (rounds k : Nat) (es : List Event)
    (result : Except InfraError String) : Prop :=
  ∃ answers n, n < rounds ∧
    Concludes schedule path (fun i => schedule.elapsed (k + i)) answers n result ∧
    es = polls path (fun i => schedule.pause (k + i)) answers n

/-- The poll numbered `k` is the last one. -/
theorem Course.last {rounds k : Nat} {answer : Except ApiError (List RealizedEntity)}
    {result : Except InfraError String}
    (h : Final schedule path (schedule.elapsed k) answer result) :
    Course schedule path (rounds + 1) k [called (.listRealized path) answer] result :=
  ⟨fun _ => answer, 0, Nat.succ_pos rounds,
    ⟨fun i hi => absurd hi (Nat.not_lt_zero i), fun i hi => absurd hi (Nat.not_lt_zero i), h⟩, rfl⟩

/-- The poll numbered `k` is not the last one. -/
theorem Course.cons {rounds k : Nat} {answer : Except ApiError (List RealizedEntity)}
    {es : List Event} {result : Except InfraError String} (hpoll : Undecided answer)
    (htime : schedule.elapsed k ≠ schedule.timeout)
    (h : Course schedule path rounds (k + 1) es result) :
    Course schedule path (rounds + 1) k
      (called (.listRealized path) answer :: paused (schedule.pause k) :: es) result := by
  obtain ⟨answers, n, hn, hends, rfl⟩ := h
  have hearly := RealizationSchedule.lt_timeout_iff.mpr htime
  rw [← counted_next schedule.elapsed] at hends
  refine ⟨fun i => i.casesOn answer answers, n + 1, Nat.succ_lt_succ hn,
    concludes_succ_iff.mpr ⟨hpoll, hearly, hends⟩, ?_⟩
  rw [polls_succ, counted_next schedule.pause]
  rfl

/-- The first poll of a wait is its last one, or it is followed by a wait. -/
theorem Course.cases {rounds k : Nat} {es : List Event} {result : Except InfraError String}
    (h : Course schedule path (rounds + 1) k es result) :
    ∃ answer,
      (Final schedule path (schedule.elapsed k) answer result ∧
        es = [called (.listRealized path) answer]) ∨
      (Undecided answer ∧ schedule.elapsed k ≠ schedule.timeout ∧
        ∃ rest, es = called (.listRealized path) answer :: paused (schedule.pause k) :: rest ∧
          Course schedule path rounds (k + 1) rest result) := by
  obtain ⟨answers, n, hn, hends, rfl⟩ := h
  refine ⟨answers 0, ?_⟩
  cases n with
  | zero => exact .inl ⟨hends.last, rfl⟩
  | succ n =>
    obtain ⟨hpoll, hearly, hrest⟩ := concludes_succ_iff.mp hends
    rw [counted_next schedule.elapsed] at hrest
    refine .inr ⟨hpoll, RealizationSchedule.lt_timeout_iff.mp hearly, _, polls_succ _ _ _ n,
      fun i => answers (i + 1), n, Nat.lt_of_succ_lt_succ hn, hrest, ?_⟩
    rw [counted_next schedule.pause]

/-- **The traces of a wait** in front of the poll numbered `k`. -/
theorem trace_wait_iff {rounds k : Nat} {es : List Event} {result : Except InfraError String} :
    (Program.loop (poll schedule path) rounds (waiting schedule k)).Trace es result ↔
      Course schedule path rounds k es result := by
  induction rounds generalizing k es with
  | zero =>
    refine ⟨fun h => absurd h not_trace_unfinished, ?_⟩
    rintro ⟨answers, n, hn, -⟩
    exact absurd hn (Nat.not_lt_zero n)
  | succ rounds ih =>
    rw [loop_waiting]
    constructor
    · intro h
      obtain ⟨answer, es', rfl, hrest⟩ := trace_request_bind_iff.mp h
      cases hpoll : pollResult answer with
      | some r =>
        simp only [hpoll] at hrest
        obtain ⟨rfl, rfl⟩ := trace_done_iff.mp hrest
        exact .last (.inl hpoll)
      | none =>
        simp only [hpoll] at hrest
        by_cases htime : schedule.elapsed k = schedule.timeout
        · rw [if_pos htime] at hrest
          obtain ⟨rfl, rfl⟩ := trace_done_iff.mp hrest
          exact .last (.inr ⟨hpoll, htime, rfl⟩)
        · rw [if_neg htime] at hrest
          obtain ⟨-, rest, rfl, hloop⟩ := trace_request_bind_iff.mp hrest
          exact .cons hpoll htime (ih.mp hloop)
    · intro h
      refine trace_request_bind_iff.mpr ?_
      obtain ⟨answer, ⟨hdecided | ⟨hpoll, htime, rfl⟩, rfl⟩ | ⟨hpoll, htime, rest, rfl, hrest⟩⟩ :=
        h.cases
      · refine ⟨answer, [], rfl, ?_⟩
        simp only [hdecided]
        exact .done _
      · refine ⟨answer, [], rfl, ?_⟩
        simp only [show pollResult answer = none from hpoll, if_pos htime]
        exact .done _
      · refine ⟨answer, _, rfl, ?_⟩
        simp only [show pollResult answer = none from hpoll, if_neg htime]
        exact .ask (ih.mpr hrest)

/-- **A wait comes to an end** if the deadline is among the polls that are followed. -/
theorem ends_wait {rounds k n : Nat} (hn : n < rounds)
    (htime : schedule.elapsed (k + n) = schedule.timeout) :
    (Program.loop (poll schedule path) rounds (waiting schedule k)).Ends := by
  induction rounds generalizing k n with
  | zero => exact absurd hn (Nat.not_lt_zero n)
  | succ rounds ih =>
    rw [loop_waiting]
    refine .ask fun answer => ?_
    show Program.Ends (match pollResult answer with | some _ => _ | none => _)
    cases pollResult answer with
    | some result => exact .done _
    | none =>
      by_cases hdeadline : schedule.elapsed k = schedule.timeout
      · simp only [if_pos hdeadline]
        exact .done _
      · simp only [if_neg hdeadline]
        cases n with
        | zero => exact absurd htime hdeadline
        | succ n =>
          refine .ask fun _ => ih (Nat.lt_of_succ_lt_succ hn) ?_
          rw [Nat.add_right_comm]
          exact htime

/-! ### Every wait -/

/-- Whatever the polls are answered, there is one at which the wait stops, and it is among those
that suffice. -/
theorem exists_concludes (h : schedule.IsProper) (path : String)
    (answers : Nat → Except ApiError (List RealizedEntity)) :
    ∃ n < schedule.pollLimit, ∃ result,
      Concludes schedule path schedule.elapsed answers n result := by
  classical
  have hexists : ∃ n, schedule.elapsed n = schedule.timeout ∨ ¬ Undecided (answers n) :=
    ⟨_, .inl h.elapsed_pollLimit⟩
  have hlimit : Nat.find hexists ≤ schedule.pollLimit - 1 :=
    Nat.find_le (.inl h.elapsed_pollLimit)
  have hbefore : ∀ k < Nat.find hexists,
      schedule.elapsed k ≠ schedule.timeout ∧ Undecided (answers k) := fun k hk =>
    ⟨fun htime => Nat.find_min hexists hk (.inl htime), by
      by_contra hpoll
      exact Nat.find_min hexists hk (.inr hpoll)⟩
  have hlast : ∃ result, Final schedule path (schedule.elapsed (Nat.find hexists))
      (answers (Nat.find hexists)) result := by
    cases hpoll : pollResult (answers (Nat.find hexists)) with
    | some result => exact ⟨result, .inl hpoll⟩
    | none =>
      rcases Nat.find_spec hexists with htime | hdecided
      · exact ⟨_, .inr ⟨hpoll, htime, rfl⟩⟩
      · exact absurd hpoll hdecided
  obtain ⟨result, hlast⟩ := hlast
  exact ⟨Nat.find hexists, Nat.lt_of_le_pred (Nat.succ_pos _) hlimit, result,
    fun k hk => (hbefore k hk).2,
    fun k hk => RealizationSchedule.lt_timeout_iff.mpr (hbefore k hk).1, hlast⟩

/-- A wait stops within the number of polls that suffices. -/
theorem Concludes.lt_pollLimit (h : schedule.IsProper)
    {answers : Nat → Except ApiError (List RealizedEntity)} {n : Nat}
    {result : Except InfraError String}
    (hends : Concludes schedule path schedule.elapsed answers n result) :
    n < schedule.pollLimit := by
  by_contra hlate
  have hearly := hends.early (schedule.pollLimit - 1) (by
    have : 0 < schedule.pollLimit := Nat.succ_pos _
    omega)
  exact RealizationSchedule.lt_timeout_iff.mp hearly h.elapsed_pollLimit

/-- **The traces of a whole wait** are what the schedule says, up to the poll at which it stops. -/
theorem trace_awaitAddress_iff (h : schedule.IsProper) {rounds : Nat}
    (hrounds : schedule.pollLimit ≤ rounds) {es : List Event}
    {result : Except InfraError String} :
    (awaitAddress schedule path rounds).Trace es result ↔
      ∃ answers n, Concludes schedule path schedule.elapsed answers n result ∧
        es = polls path schedule.pause answers n := by
  rw [awaitAddress, ← waiting_zero h, trace_wait_iff, Course]
  simp only [Nat.zero_add]
  constructor
  · rintro ⟨answers, n, -, hends, hes⟩
    exact ⟨answers, n, hends, hes⟩
  · rintro ⟨answers, n, hends, hes⟩
    exact ⟨answers, n, Nat.lt_of_lt_of_le (hends.lt_pollLimit h) hrounds, hends, hes⟩

theorem ends_awaitAddress (h : schedule.IsProper) {rounds : Nat}
    (hrounds : schedule.pollLimit ≤ rounds) : (awaitAddress schedule path rounds).Ends := by
  rw [awaitAddress, ← waiting_zero h]
  refine ends_wait (n := schedule.pollLimit - 1) (Nat.lt_of_lt_of_le ?_ hrounds) ?_
  · exact Nat.sub_lt (Nat.succ_pos _) Nat.one_pos
  · rw [Nat.zero_add]
    exact h.elapsed_pollLimit

/-- **A wait for the address of an allocation that is on schedule**, whatever the control plane
answers. The schedule itself says that the pause behind the poll numbered `k` is the first interval
doubled `k` times, but neither more than the longest one nor more than the time left. -/
structure OnSchedule (schedule : RealizationSchedule) (path : String) (state : State)
    (wait : Work (Left Action)) : Prop where
  /-- It comes to an end. -/
  ends : wait.Ends
  /-- For all answers there is a poll among those that suffice at which it stops: the first one that
  decides it, or the one at the deadline. Up to there it polls and pauses as the schedule says. -/
  stops : ∀ answers, ∃ n < schedule.pollLimit, ∃ result,
    Concludes schedule path schedule.elapsed answers n result ∧
    wait.Trace (polls path schedule.pause answers n) (arrived state result)
  /-- There is nothing else that it can do, and it is never over the deadline. The time it takes is
  the moment of its last poll. -/
  only : ∀ es left, wait.Trace es left → ∃ answers n result,
    Concludes schedule path schedule.elapsed answers n result ∧
    es = polls path schedule.pause answers n ∧ left = arrived state result ∧
    passed es = schedule.elapsed n ∧
    (passed es).nanoseconds ≤ schedule.timeout.nanoseconds
  /-- If it fails, the state is what it was. -/
  fails : ∀ es e state', wait.Trace es (.error e, state') → state' = state
  /-- If it succeeds, the address is what the last poll brought, and nothing else has changed. -/
  succeeds : ∀ es action state', wait.Trace es (.ok action, state') → ∃ answers n address,
    es = polls path schedule.pause answers n ∧ pollResult (answers n) = some (.ok address) ∧
    state' = { state with snatIpAddress := some address }

/-- The traces of waiting for the address of an allocation: they are those of the wait, and what is
made of its result. -/
theorem trace_realize_iff {c : Context} {state : State} {allocation : Reference}
    (h : c.realization.IsProper) (hrounds : c.realization.pollLimit ≤ c.rounds)
    (hallocation : state.reference .snatIpAllocation = some allocation) {es : List Event}
    {left : Left Action} :
    (realize c state).Trace es left ↔
      ∃ answers n result,
        Concludes c.realization allocation.path c.realization.elapsed answers n result ∧
        es = polls allocation.path c.realization.pause answers n ∧
        left = arrived state result := by
  simp only [realize_eq, hallocation, trace_bind_done_iff, trace_awaitAddress_iff h hrounds]
  constructor
  · rintro ⟨result, ⟨answers, n, hends, hes⟩, hleft⟩
    exact ⟨answers, n, result, hends, hes, hleft⟩
  · rintro ⟨answers, n, result, hends, hes, hleft⟩
    exact ⟨result, ⟨answers, n, hends, hes⟩, hleft⟩

theorem onSchedule {c : Context} {state : State} {allocation : Reference}
    (h : c.realization.IsProper) (hrounds : c.realization.pollLimit ≤ c.rounds)
    (hallocation : state.reference .snatIpAllocation = some allocation) :
    OnSchedule c.realization allocation.path state (realize c state) := by
  have htrace : ∀ {es left}, (realize c state).Trace es left ↔ _ :=
    trace_realize_iff h hrounds hallocation
  constructor
  · simp only [realize_eq, hallocation]
    exact (ends_awaitAddress h hrounds).bind fun _ => .done _
  · intro answers
    obtain ⟨n, hn, result, hends⟩ := exists_concludes h allocation.path answers
    exact ⟨n, hn, result, hends, htrace.mpr ⟨answers, n, result, hends, rfl, rfl⟩⟩
  · intro es left hes
    obtain ⟨answers, n, result, hends, rfl, rfl⟩ := htrace.mp hes
    refine ⟨answers, n, result, hends, rfl, rfl, passed_polls .., ?_⟩
    rw [passed_polls]
    exact RealizationSchedule.elapsed_le_timeout n
  · intro es e state' hes
    obtain ⟨answers, n, result, -, -, hleft⟩ := htrace.mp hes
    cases result with
    | error e' => exact (Prod.mk.inj hleft).2
    | ok address => exact nomatch (Prod.mk.inj hleft).1
  · intro es action state' hes
    obtain ⟨answers, n, result, hends, hpolls, hleft⟩ := htrace.mp hes
    cases result with
    | error e' => exact nomatch (Prod.mk.inj hleft).1
    | ok address =>
      refine ⟨answers, n, address, hpolls, ?_, (Prod.mk.inj hleft).2⟩
      rcases hends.last with hpoll | ⟨-, -, htimeout⟩
      · exact hpoll
      · exact nomatch htimeout

/-- A configuration that makes sense has a schedule on which waits go on. -/
theorem isProper_of_validate {config : Config.ControllerConfig} (h : config.validate = .ok ()) :
    (Actuator.schedule config.realization).IsProper := by
  have hrealization : config.realization.validate = .ok () := by
    rw [Config.ControllerConfig.validate] at h
    split at h
    · exact nomatch h
    · obtain ⟨-, -, h⟩ := ok_of_bind h
      obtain ⟨_, hrealization, -⟩ := ok_of_bind h
      exact hrealization
  rw [Config.RealizationSettings.validate] at hrealization
  split at hrealization
  · exact nomatch hrealization
  · next hpos =>
    split at hrealization
    · exact nomatch hrealization
    · next hle =>
      have hinitial : config.realization.initialIntervalMs ≠ 0 := fun h0 => hpos (.inl h0)
      exact ⟨Nat.mul_pos (Nat.pos_of_ne_zero hinitial) (by decide),
        Nat.mul_le_mul_right _ (Nat.le_of_not_lt hle)⟩

/-- **With a configuration that makes sense, every wait is on schedule**: it stops at the first poll
that brings an address or an error other than that nothing is there yet, and if there is none up to
the deadline, it fails exactly then. -/
theorem realize_onSchedule {settings : Actuator.Settings} {request : Actuator.ClusterRequest}
    {state : State} {allocation : Reference} (hvalid : settings.config.validate = .ok ())
    (hrounds : (Actuator.schedule settings.config.realization).pollLimit ≤ settings.rounds)
    (hallocation : state.reference .snatIpAllocation = some allocation) :
    OnSchedule (Actuator.schedule settings.config.realization) allocation.path state
      (realize (settings.context request) state) :=
  onSchedule (c := settings.context request) (isProper_of_validate hvalid) hrounds hallocation

/-! ### A schedule -/

/-- An actuator whose waits are short. -/
def hasty : Actuator.Settings where
  config := {
    regions := [{
      name := "region"
      host := "host"
      tier0GatewayName := "tier0"
      edgeClusterName := "edge"
      transportZoneName := "zone"
      snatIpPoolName := "pool"
    }]
    realization := { initialIntervalMs := 300, maxIntervalMs := 700, timeoutSeconds := 2 }
  }
  rounds := 8

/-- A request to that actuator. -/
def hastyRequest : Actuator.ClusterRequest where
  ns := "shoot"
  region := "region"
  gardenId := "id"
  gardenName := "garden"
  clusterName := "small"
  workersNetwork := "10.0.0.0/16"
  secret := .userPassword "user" "password"

/-- The state of a cluster whose address was declared and is not known yet. -/
def allocatedState : State :=
  State.fresh.withReference .snatIpAllocation (some ⟨"alloc", "/alloc"⟩)

/-- If nothing is ever there, that actuator polls at the start, after 300 ms, 900 ms and 1.6 s, and
at the deadline. -/
theorem realize_onSchedule_hasty :
    hasty.config.validate = .ok () ∧
      (Actuator.schedule hasty.config.realization).pollLimit ≤ hasty.rounds ∧
      allocatedState.reference .snatIpAllocation = some ⟨"alloc", "/alloc"⟩ ∧
      (List.range 5).map (Actuator.schedule hasty.config.realization).elapsed =
        [.zero, .ofMillis 300, .ofMillis 900, .ofMillis 1600, .ofSeconds 2] ∧
      OnSchedule (Actuator.schedule hasty.config.realization) "/alloc" allocatedState
        (realize (hasty.context hastyRequest) allocatedState) := by
  have hvalid : hasty.config.validate = .ok () := by rfl
  have hrounds : (Actuator.schedule hasty.config.realization).pollLimit ≤ hasty.rounds := by
    decide
  have hallocation : allocatedState.reference .snatIpAllocation = some ⟨"alloc", "/alloc"⟩ := rfl
  exact ⟨hvalid, hrounds, hallocation, by decide, realize_onSchedule hvalid hrounds hallocation⟩

end Pipeline

end ClusterNet
