import ClusterNet.Program

/-!
# What a program does under given answers

A program is a tree of reactions, and the answers that it is given pick one way through it. A
*trace* is such a way: the requests in order, each with its answer. A statement about every trace
of a program holds whatever its surroundings answer, and a run against particular surroundings is
the one trace that they reply to.

Traces are what lets the two kinds of statements share their lemmas. What a program asks and what
it makes of the answers is worked out once, on traces; what the surroundings answer is worked out
once, on requests.

## Main definitions

* `Program.Event` — a request with its answer
* `Program.Trace` — the traces of a program and the values that it comes to
* `Program.Replies` — surroundings with a state that give the answers of a trace
* `Program.asked` — the requests of a run, each with the answer that it got
* `Program.Ends` — programs that come to an end, whatever they are answered
* `Program.Carried` — requests that are carried out by other ones, one behind the other

## Main results

* `Program.trace_bind_iff` — the traces of a sequence are those of its parts, one behind the other
* `Program.run_eq_some_iff` — a run comes to a value exactly if it follows a trace to it
* `Program.trace_asked`, `Program.replies_asked` — what a run asks is the trace that it follows
* `Program.run_translate` — work on a part of the surroundings
* `Program.trace_translate_iff` — work that is carried out by single requests
* `Program.exists_carried` — work that is carried out by work that hands a state on
-/

namespace ClusterNet

namespace Program

variable {I : Interface} {α β σ : Type}

/-- A request together with the answer that it was given. -/
abbrev Event (I : Interface) : Type := (r : I.Request) × I.Answer r

/-- `p.Trace es a` says that `p`, given the answers in `es`, makes exactly the requests in `es` and
comes to `a`. A program that is unfinished has no traces. -/
inductive Trace : Program I α → List (Event I) → α → Prop
  /-- The computation is over. -/
  | done (a : α) : Trace (.done a) [] a
  /-- One request, and the trace of what follows its answer. -/
  | ask {r : I.Request} {next : I.Answer r → Program I α} {answer : I.Answer r}
      {es : List (Event I)} {a : α} (h : Trace (next answer) es a) :
      Trace (.ask r next) (⟨r, answer⟩ :: es) a

/-! ### Taking traces apart -/

@[simp] theorem trace_done_iff {a b : α} {es : List (Event I)} :
    (Program.done a : Program I α).Trace es b ↔ es = [] ∧ b = a := by
  constructor
  · rintro ⟨⟩
    exact ⟨rfl, rfl⟩
  · rintro ⟨rfl, rfl⟩
    exact .done b

@[simp] theorem not_trace_unfinished {es : List (Event I)} {a : α} :
    ¬ (Program.unfinished : Program I α).Trace es a := by
  rintro ⟨⟩

theorem trace_ask_iff {r : I.Request} {next : I.Answer r → Program I α} {es : List (Event I)}
    {a : α} : (Program.ask r next).Trace es a ↔
      ∃ answer es', es = ⟨r, answer⟩ :: es' ∧ (next answer).Trace es' a := by
  constructor
  · rintro ⟨⟩
    rename_i h
    exact ⟨_, _, rfl, h⟩
  · rintro ⟨answer, es', rfl, h⟩
    exact .ask h

@[simp] theorem trace_request_iff {r : I.Request} {es : List (Event I)} {a : I.Answer r} :
    (request r).Trace es a ↔ es = [⟨r, a⟩] := by
  rw [request, trace_ask_iff]
  constructor
  · rintro ⟨answer, es', rfl, h⟩
    obtain ⟨rfl, rfl⟩ := trace_done_iff.mp h
    rfl
  · rintro rfl
    exact ⟨a, [], rfl, .done a⟩

/-- The traces of a sequence are those of its parts, one behind the other. -/
theorem trace_bind_iff {p : Program I α} {f : α → Program I β} {es : List (Event I)} {b : β} :
    (p.bind f).Trace es b ↔
      ∃ es₁ es₂ a, es = es₁ ++ es₂ ∧ p.Trace es₁ a ∧ (f a).Trace es₂ b := by
  induction p generalizing es with
  | done a =>
    refine ⟨fun h => ⟨[], es, a, rfl, .done a, h⟩, ?_⟩
    rintro ⟨es₁, es₂, a', rfl, h₁, h₂⟩
    obtain ⟨rfl, rfl⟩ := trace_done_iff.mp h₁
    exact h₂
  | unfinished => simp
  | ask r next ih =>
    rw [ask_bind, trace_ask_iff]
    constructor
    · rintro ⟨answer, es', rfl, h⟩
      obtain ⟨es₁, es₂, a, rfl, h₁, h₂⟩ := (ih answer).mp h
      exact ⟨⟨r, answer⟩ :: es₁, es₂, a, rfl, .ask h₁, h₂⟩
    · rintro ⟨es₁, es₂, a, rfl, h₁, h₂⟩
      obtain ⟨answer, es', rfl, h⟩ := trace_ask_iff.mp h₁
      exact ⟨answer, es' ++ es₂, rfl, (ih answer).mpr ⟨es', es₂, a, rfl, h, h₂⟩⟩

/-- A sequence whose second part only makes something of the value. -/
theorem trace_bind_done_iff {p : Program I α} {f : α → β} {es : List (Event I)} {b : β} :
    (p.bind fun a => .done (f a)).Trace es b ↔ ∃ a, p.Trace es a ∧ b = f a := by
  rw [trace_bind_iff]
  constructor
  · rintro ⟨es₁, es₂, a, rfl, h₁, h₂⟩
    obtain ⟨rfl, rfl⟩ := trace_done_iff.mp h₂
    exact ⟨a, by rwa [List.append_nil], rfl⟩
  · rintro ⟨a, h, rfl⟩
    exact ⟨es, [], a, (List.append_nil es).symm, h, .done _⟩

/-- A sequence whose first part is one request. -/
theorem trace_request_bind_iff {r : I.Request} {f : I.Answer r → Program I β}
    {es : List (Event I)} {b : β} : ((request r).bind f).Trace es b ↔
      ∃ answer es', es = ⟨r, answer⟩ :: es' ∧ (f answer).Trace es' b :=
  trace_ask_iff

/-- A sequence whose first part is one request, and its answer. -/
theorem trace_request_bind_cons_iff {r : I.Request} {answer : I.Answer r}
    {f : I.Answer r → Program I β} {es : List (Event I)} {b : β} :
    ((request r).bind f).Trace (⟨r, answer⟩ :: es) b ↔ (f answer).Trace es b := by
  rw [trace_request_bind_iff]
  constructor
  · rintro ⟨answer', es', hes, h⟩
    cases hes
    exact h
  · intro h
    exact ⟨answer, es, rfl, h⟩

/-- A round that goes on, and the rounds behind it. -/
theorem Trace.loop_next {step : σ → Program I (σ ⊕ α)} {rounds : Nat} {s s' : σ}
    {es es' : List (Event I)} {a : α} (h : (step s).Trace es (.inl s'))
    (h' : (loop step rounds s').Trace es' a) : (loop step (rounds + 1) s).Trace (es ++ es') a :=
  trace_bind_iff.mpr ⟨es, es', _, rfl, h, h'⟩

/-- A round that is the last one. -/
theorem Trace.loop_last {step : σ → Program I (σ ⊕ α)} {rounds : Nat} {s : σ}
    {es : List (Event I)} {a : α} (h : (step s).Trace es (.inr a)) :
    (loop step (rounds + 1) s).Trace es a :=
  trace_bind_iff.mpr ⟨es, [], _, (List.append_nil es).symm, h, .done a⟩

/-- A loop that comes to an end does so just the same if it may go on for more rounds. -/
theorem Trace.loop_add {step : σ → Program I (σ ⊕ α)} {rounds : Nat} {s : σ}
    {es : List (Event I)} {a : α} (h : (loop step rounds s).Trace es a) (more : Nat) :
    (loop step (rounds + more) s).Trace es a := by
  induction rounds generalizing s es with
  | zero => exact absurd h not_trace_unfinished
  | succ rounds ih =>
    obtain ⟨es₁, es₂, next, rfl, h₁, h₂⟩ := trace_bind_iff.mp h
    rw [Nat.succ_add]
    cases next with
    | inl s' => exact .loop_next h₁ (ih h₂)
    | inr b =>
      obtain ⟨rfl, rfl⟩ := trace_done_iff.mp h₂
      rw [List.append_nil]
      exact .loop_last h₁

/-- What holds of all events of the rounds of a loop holds of all events of the loop. -/
theorem trace_loop_forall {step : σ → Program I (σ ⊕ α)} {P : Event I → Prop}
    (hstep : ∀ s es next, (step s).Trace es next → ∀ e ∈ es, P e) {rounds : Nat} {s : σ}
    {es : List (Event I)} {a : α} (h : (loop step rounds s).Trace es a) : ∀ e ∈ es, P e := by
  induction rounds generalizing s es with
  | zero => exact absurd h not_trace_unfinished
  | succ rounds ih =>
    obtain ⟨es₁, es₂, next, rfl, h₁, h₂⟩ := trace_bind_iff.mp h
    intro e he
    rcases List.mem_append.mp he with he | he
    · exact hstep s es₁ next h₁ e he
    · cases next with
      | inl s' => exact ih h₂ e he
      | inr b =>
        rw [(trace_done_iff.mp h₂).1] at he
        exact nomatch he

/-- What holds of every value that a round ends a loop with holds of the value of the loop. -/
theorem trace_loop_result {step : σ → Program I (σ ⊕ α)} {P : α → Prop}
    (hstep : ∀ s es a, (step s).Trace es (.inr a) → P a) {rounds : Nat} {s : σ}
    {es : List (Event I)} {a : α} (h : (loop step rounds s).Trace es a) : P a := by
  induction rounds generalizing s es with
  | zero => exact absurd h not_trace_unfinished
  | succ rounds ih =>
    obtain ⟨es₁, es₂, next, rfl, h₁, h₂⟩ := trace_bind_iff.mp h
    cases next with
    | inl s' => exact ih h₂
    | inr b =>
      obtain ⟨rfl, rfl⟩ := trace_done_iff.mp h₂
      exact hstep s es₁ _ h₁

/-! ### Surroundings -/

/-- `Replies answer es s s'` says that surroundings in state `s` give the answers in `es` to the
requests in `es`, and are in state `s'` afterwards. -/
def Replies (answer : (r : I.Request) → σ → I.Answer r × σ) : List (Event I) → σ → σ → Prop
  | [], s, s' => s' = s
  | e :: es, s, s' => (answer e.1 s).1 = e.2 ∧ Replies answer es (answer e.1 s).2 s'

variable {answer : (r : I.Request) → σ → I.Answer r × σ}

@[simp] theorem replies_nil {s s' : σ} : Replies answer [] s s' ↔ s' = s := Iff.rfl

@[simp] theorem replies_cons {e : Event I} {es : List (Event I)} {s s' : σ} :
    Replies answer (e :: es) s s' ↔
      (answer e.1 s).1 = e.2 ∧ Replies answer es (answer e.1 s).2 s' :=
  Iff.rfl

/-- Answers to one list of requests behind another. -/
theorem replies_append {es es' : List (Event I)} {s s' : σ} :
    Replies answer (es ++ es') s s' ↔
      ∃ s₁, Replies answer es s s₁ ∧ Replies answer es' s₁ s' := by
  induction es generalizing s with
  | nil => exact ⟨fun h => ⟨s, rfl, h⟩, fun ⟨_, hsame, h⟩ => replies_nil.mp hsame ▸ h⟩
  | cons e es ih =>
    rw [List.cons_append, replies_cons, ih]
    constructor
    · rintro ⟨hhead, s₁, hfirst, hrest⟩
      exact ⟨s₁, ⟨hhead, hfirst⟩, hrest⟩
    · rintro ⟨s₁, ⟨hhead, hfirst⟩, hrest⟩
      exact ⟨hhead, s₁, hfirst, hrest⟩

/-- Surroundings that give the same answers come to the same state. -/
theorem Replies.deterministic {es : List (Event I)} {s s₁ s₂ : σ} (h : Replies answer es s s₁)
    (h' : Replies answer es s s₂) : s₁ = s₂ := by
  induction es generalizing s with
  | nil => exact (replies_nil.mp h).trans (replies_nil.mp h').symm
  | cons e es ih => exact ih h.2 h'.2

/-- Every answer was given in some state. -/
theorem Replies.answered {es : List (Event I)} {s s' : σ} (h : Replies answer es s s') :
    ∀ e ∈ es, ∃ s, (answer e.1 s).1 = e.2 := by
  induction es generalizing s with
  | nil => exact fun e hmem => absurd hmem List.not_mem_nil
  | cons e es ih =>
    intro e' hmem
    rcases List.mem_cons.mp hmem with rfl | hmem
    · exact ⟨s, h.1⟩
    · exact ih h.2 e' hmem

/-- What every single request keeps is kept by a trace. -/
theorem Replies.invariant {R : σ → σ → Prop} (hrefl : ∀ s, R s s)
    (htrans : ∀ {s s' s''}, R s s' → R s' s'' → R s s'')
    {es : List (Event I)} (hstep : ∀ e ∈ es, ∀ s, R s (answer e.1 s).2) {s s' : σ}
    (h : Replies answer es s s') : R s s' := by
  induction es generalizing s with
  | nil => rw [replies_nil.mp h]; exact hrefl s
  | cons e es ih =>
    have hhead : R s (answer e.1 s).2 := hstep e (.head es) s
    exact htrans hhead (ih (fun e' he' => hstep e' (.tail e he')) h.2)

/-- **A run comes to a value exactly if its surroundings reply to a trace that leads there.** -/
theorem run_eq_some_iff {p : Program I α} {s s' : σ} {a : α} :
    p.run answer s = (some a, s') ↔ ∃ es, p.Trace es a ∧ Replies answer es s s' := by
  induction p generalizing s with
  | done b =>
    constructor
    · intro h
      obtain ⟨rfl, rfl⟩ : b = a ∧ s = s' := by simpa using h
      exact ⟨[], .done b, rfl⟩
    · rintro ⟨es, ht, hr⟩
      obtain ⟨rfl, rfl⟩ := trace_done_iff.mp ht
      rw [replies_nil.mp hr, run_done]
  | unfinished => simp
  | ask r next ih =>
    rw [run_ask, ih]
    constructor
    · rintro ⟨es, ht, hr⟩
      exact ⟨⟨r, (answer r s).1⟩ :: es, .ask ht, rfl, hr⟩
    · rintro ⟨es, ht, hr⟩
      obtain ⟨a', es', rfl, ht'⟩ := trace_ask_iff.mp ht
      obtain ⟨ha, hr'⟩ := hr
      refine ⟨es', ?_, hr'⟩
      rw [show (answer r s).1 = a' from ha]
      exact ht'

/-- A run that comes to a value follows a trace to it. -/
theorem exists_trace_of_run {p : Program I α} {s : σ} {a : α} (h : (p.run answer s).1 = some a) :
    ∃ es, p.Trace es a := by
  obtain ⟨es, htrace, -⟩ := run_eq_some_iff.mp (show p.run answer s = (some a, _) from
    Prod.ext h rfl)
  exact ⟨es, htrace⟩

theorem run_done_eq_some_iff {a b : α} {s s' : σ} :
    (Program.done a : Program I α).run answer s = (some b, s') ↔ b = a ∧ s' = s := by
  rw [run_done, Prod.mk.injEq, Option.some.injEq, eq_comm, eq_comm (a := s)]

/-- A run of a sequence that comes to a value is a run of its first part and one of its second. -/
theorem run_bind_eq_some_iff {p : Program I α} {f : α → Program I β} {s s' : σ} {b : β} :
    (p.bind f).run answer s = (some b, s') ↔
      ∃ a s₁, p.run answer s = (some a, s₁) ∧ (f a).run answer s₁ = (some b, s') := by
  rw [run_bind]
  constructor
  · intro h
    split at h
    · next a s₁ hp => exact ⟨a, s₁, hp, h⟩
    · exact nomatch (Prod.mk.inj h).1
  · rintro ⟨a, s₁, hp, hf⟩
    rw [hp]
    exact hf

/-! ### What a run asks -/

/-- The requests that a run makes, each with the answer that it gets. -/
def asked (answer : (r : I.Request) → σ → I.Answer r × σ) : Program I α → σ → List (Event I)
  | .done _, _ => []
  | .unfinished, _ => []
  | .ask r next, s => ⟨r, (answer r s).1⟩ :: asked answer (next (answer r s).1) (answer r s).2

@[simp] theorem asked_done (a : α) (s : σ) : asked answer (Program.done a : Program I α) s = [] :=
  rfl

@[simp] theorem asked_ask (r : I.Request) (next : I.Answer r → Program I α) (s : σ) :
    asked answer (Program.ask r next) s =
      ⟨r, (answer r s).1⟩ :: asked answer (next (answer r s).1) (answer r s).2 :=
  rfl

/-- The surroundings reply to what a run asks. -/
theorem replies_asked {p : Program I α} {s s' : σ} {a : α}
    (h : p.run answer s = (some a, s')) : Replies answer (asked answer p s) s s' := by
  induction p generalizing s with
  | done b => exact (run_done_eq_some_iff.mp h).2
  | unfinished => simp at h
  | ask r next ih => exact ⟨rfl, ih _ h⟩

/-- What a run asks is a trace to the value that it comes to. -/
theorem trace_asked {p : Program I α} {s s' : σ} {a : α} (h : p.run answer s = (some a, s')) :
    p.Trace (asked answer p s) a := by
  induction p generalizing s with
  | done b =>
    obtain ⟨rfl, rfl⟩ := run_done_eq_some_iff.mp h
    exact .done a
  | unfinished => simp at h
  | ask r next ih => exact .ask (ih _ h)

/-- A trace that the surroundings reply to is what the run asks. -/
theorem asked_of_replies {p : Program I α} {es : List (Event I)} {s s' : σ} {a : α}
    (h : p.Trace es a) (hreplies : Replies answer es s s') : asked answer p s = es := by
  induction h generalizing s with
  | done a => rfl
  | @ask r next a' es a _ ih =>
    obtain ⟨hanswer, hrest⟩ := hreplies
    change (answer r s).1 = a' at hanswer
    rw [asked_ask, hanswer]
    exact congrArg _ (ih hrest)

/-- A sequence asks what its first part asks, and then what follows. -/
theorem asked_bind {p : Program I α} {f : α → Program I β} {s s₁ : σ} {a : α}
    (h : p.run answer s = (some a, s₁)) :
    asked answer (p.bind f) s = asked answer p s ++ asked answer (f a) s₁ := by
  induction p generalizing s with
  | done b =>
    obtain ⟨rfl, rfl⟩ := run_done_eq_some_iff.mp h
    rfl
  | unfinished => simp at h
  | ask r next ih =>
    rw [ask_bind, asked_ask, asked_ask, List.cons_append]
    exact congrArg _ (ih _ h)

/-- What a sequence asks, whether or not it comes to an end, is asked by its first part or by what
follows it. -/
theorem mem_asked_bind {p : Program I α} {f : α → Program I β} {s : σ} {e : Event I}
    (h : e ∈ asked answer (p.bind f) s) :
    e ∈ asked answer p s ∨
      ∃ a s₁, p.run answer s = (some a, s₁) ∧ e ∈ asked answer (f a) s₁ := by
  induction p generalizing s with
  | done a => exact .inr ⟨a, s, rfl, h⟩
  | unfinished => exact .inl h
  | ask r next ih =>
    rw [ask_bind, asked_ask] at h
    rcases List.mem_cons.mp h with rfl | h
    · exact .inl (.head _)
    · exact (ih _ h).imp_left fun hrest => .tail _ hrest

/-- What holds of all that the rounds of a loop ask holds of all that the loop asks, whether or not
it comes to an end. -/
theorem asked_loop_forall {τ : Type} {step : τ → Program I (τ ⊕ α)} {P : Event I → Prop}
    (hstep : ∀ x s, ∀ e ∈ asked answer (step x) s, P e) {rounds : Nat} {x : τ} {s : σ} :
    ∀ e ∈ asked answer (loop step rounds x) s, P e := by
  induction rounds generalizing x s with
  | zero => exact fun e he => absurd he List.not_mem_nil
  | succ rounds ih =>
    intro e he
    rcases mem_asked_bind he with he | ⟨next, s₁, -, he⟩
    · exact hstep x s e he
    · cases next with
      | inl x' => exact ih e he
      | inr a => exact absurd he List.not_mem_nil

/-- A run of a sequence, from a run of its first part. -/
theorem run_bind_of_run {p : Program I α} {f : α → Program I β} {s s₁ : σ} {a : α}
    (h : p.run answer s = (some a, s₁)) : (p.bind f).run answer s = (f a).run answer s₁ := by
  rw [run_bind, h]

/-! ### Programs that come to an end -/

/-- A program that comes to an end, whatever it is answered. -/
inductive Ends : Program I α → Prop
  /-- The computation is over. -/
  | done (a : α) : Ends (.done a)
  /-- One request, and something that comes to an end for every answer. -/
  | ask {r : I.Request} {next : I.Answer r → Program I α} (h : ∀ answer, Ends (next answer)) :
      Ends (.ask r next)

theorem Ends.bind {p : Program I α} {f : α → Program I β} (hp : p.Ends) (hf : ∀ a, (f a).Ends) :
    (p.bind f).Ends := by
  induction hp with
  | done a => exact hf a
  | ask _ ih => exact .ask ih

theorem ends_request (r : I.Request) : (request r).Ends := .ask .done

/-- A program that comes to an end has a run in all surroundings. -/
theorem Ends.run {p : Program I α} (hp : p.Ends) (s : σ) :
    ∃ a s', p.run answer s = (some a, s') := by
  induction hp generalizing s with
  | done a => exact ⟨a, s, rfl⟩
  | ask _ ih => exact ih _ _

theorem Ends.translate {J : Interface} {p : Program I α}
    {carry : (r : I.Request) → Program J (I.Answer r)} (hp : p.Ends)
    (hcarry : ∀ r, (carry r).Ends) : (p.translate carry).Ends := by
  induction hp with
  | done a => exact .done a
  | @ask r next _ ih => exact (hcarry r).bind ih

/-! ### Surroundings within surroundings -/

/-- **Work on a part of the surroundings** runs as it does on that part alone, and leaves the rest
as it was. -/
theorem run_translate {J : Interface} {τ : Type} {answer' : (r : J.Request) → τ → J.Answer r × τ}
    {carry : (r : I.Request) → Program J (I.Answer r)} (get : τ → σ) (put : σ → τ → τ)
    (hcarry : ∀ r t, (carry r).run answer' t =
      (some (answer r (get t)).1, put (answer r (get t)).2 t))
    (hget : ∀ s t, get (put s t) = s) (hput : ∀ s s' t, put s (put s' t) = put s t)
    (hself : ∀ t, put (get t) t = t) (p : Program I α) (t : τ) :
    (p.translate carry).run answer' t =
      ((p.run answer (get t)).1, put (p.run answer (get t)).2 t) := by
  induction p generalizing t with
  | done a => rw [translate_done, run_done, run_done, hself]
  | unfinished =>
    rw [run_unfinished, hself]
    rfl
  | ask r next ih =>
    rw [translate, run_bind, hcarry]
    dsimp only
    rw [ih, hget, hput, run_ask]

/-- Work that is carried out by single requests makes those that its own requests become. -/
theorem trace_translate_iff {J : Interface} {carry : (r : I.Request) → Program J (I.Answer r)}
    (lift : Event I → Event J)
    (hcarry : ∀ r es answer, (carry r).Trace es answer ↔ es = [lift ⟨r, answer⟩])
    {p : Program I α} {es : List (Event J)} {a : α} :
    (p.translate carry).Trace es a ↔ ∃ es', p.Trace es' a ∧ es = es'.map lift := by
  induction p generalizing es with
  | done b =>
    rw [translate_done, trace_done_iff]
    constructor
    · rintro ⟨rfl, rfl⟩
      exact ⟨[], .done a, rfl⟩
    · rintro ⟨es', h, rfl⟩
      obtain ⟨rfl, rfl⟩ := trace_done_iff.mp h
      exact ⟨rfl, rfl⟩
  | unfinished => simp [translate]
  | ask r next ih =>
    rw [translate, trace_bind_iff]
    constructor
    · rintro ⟨es₁, es₂, answer, rfl, h₁, h₂⟩
      obtain ⟨es', h, rfl⟩ := (ih answer).mp h₂
      rw [(hcarry r es₁ answer).mp h₁]
      exact ⟨⟨r, answer⟩ :: es', .ask h, rfl⟩
    · rintro ⟨es', h, rfl⟩
      obtain ⟨answer, rest, rfl, hrest⟩ := trace_ask_iff.mp h
      exact ⟨[lift ⟨r, answer⟩], rest.map lift, answer, rfl, (hcarry r _ answer).mpr rfl,
        (ih answer).mpr ⟨rest, hrest, rfl⟩⟩

/-! ### Work that hands a state on -/

/-- `Carried carry es s fs s'` says that the requests in `es` can be carried out one behind the
other by what is asked in `fs`, so that they get the answers in `es`. The state that is handed on is
`s` at first and `s'` in the end. -/
inductive Carried {J : Interface} (carry : (r : I.Request) → σ → Program J (I.Answer r × σ)) :
    List (Event I) → σ → List (Event J) → σ → Prop
  /-- There is nothing to carry out. -/
  | nil (s : σ) : Carried carry [] s [] s
  /-- One request is carried out, and then the others. -/
  | cons {r : I.Request} {a : I.Answer r} {es : List (Event I)} {fs fs' : List (Event J)}
      {s s₁ s' : σ} (h : (carry r s).Trace fs (a, s₁)) (hrest : Carried carry es s₁ fs' s') :
      Carried carry (⟨r, a⟩ :: es) s (fs ++ fs') s'

/-- A single request that is carried out. -/
theorem Carried.single {J : Interface} {carry : (r : I.Request) → σ → Program J (I.Answer r × σ)}
    {r : I.Request} {a : I.Answer r} {fs : List (Event J)} {s s' : σ}
    (h : Carried carry [⟨r, a⟩] s fs s') : (carry r s).Trace fs (a, s') := by
  cases h with
  | cons h hrest =>
    cases hrest
    rwa [List.append_nil]

/-- Work that is carried out makes requests, each of which is carried out in its turn. -/
theorem exists_carried {J : Interface} {carry : (r : I.Request) → σ → Program J (I.Answer r × σ)}
    {p : Program I α} {s s' : σ} {fs : List (Event J)} {a : α}
    (h : (p.translateFrom carry s).Trace fs (a, s')) :
    ∃ es, p.Trace es a ∧ Carried carry es s fs s' := by
  induction p generalizing s fs with
  | done b =>
    obtain ⟨rfl, hleft⟩ := trace_done_iff.mp h
    obtain ⟨rfl, rfl⟩ := Prod.mk.inj hleft
    exact ⟨[], .done a, .nil s'⟩
  | unfinished => exact absurd h not_trace_unfinished
  | ask r next ih =>
    obtain ⟨fs₁, fs₂, ⟨b, s₁⟩, rfl, h₁, h₂⟩ := trace_bind_iff.mp h
    obtain ⟨es, hes, hrest⟩ := ih b h₂
    exact ⟨⟨r, b⟩ :: es, .ask hes, .cons h₁ hrest⟩

theorem Ends.translateFrom {J : Interface} {p : Program I α}
    {carry : (r : I.Request) → σ → Program J (I.Answer r × σ)} (hp : p.Ends)
    (hcarry : ∀ r s, (carry r s).Ends) (s : σ) : (p.translateFrom carry s).Ends := by
  induction hp generalizing s with
  | done a => exact .done _
  | @ask r next _ ih => exact (hcarry r s).bind fun left => ih left.1 left.2

end Program

end ClusterNet
