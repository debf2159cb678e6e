/-!
# Programs that ask their surroundings

Everything this library does to the outside world is written as a `Program`: a tree whose inner
nodes ask for something and whose branches say how to go on for every possible answer. The same
program runs against the simulated control plane, against scripted servers, or against an
adversary that may answer anything.

## Main definitions

* `Interface` — the requests a program may make and the type each of them is answered with;
* `Program` — the programs over an interface, a monad;
* `Program.loop` — a loop followed for a bounded number of rounds;
* `Program.run` — a program run against surroundings with a state;
* `Program.translate` — a program over one interface carried out by programs over another.

## Unfinished runs

A loop whose surroundings keep it going for ever has no result. Loops are followed for a given
number of rounds, and a run that needs more is `unfinished`, which is not a result and not an
error: nothing is known about it.
-/

namespace ClusterNet

/-- What a program may ask of its surroundings, and the type of each answer. -/
structure Interface where
  /-- The requests. -/
  Request : Type
  /-- The type of the answer to a request. -/
  Answer : Request → Type

/-- A computation that may ask its surroundings, given by its reaction to every answer. -/
inductive Program (I : Interface) (α : Type) : Type where
  /-- The computation is over. -/
  | done (value : α)
  /-- The computation has not come to an end within its rounds. -/
  | unfinished
  /-- Ask, and go on with the answer. -/
  | ask (request : I.Request) (next : I.Answer request → Program I α)

namespace Program

variable {I J : Interface} {α β γ σ : Type}

/-- Run `p`, then what `f` makes of its value. -/
def bind : Program I α → (α → Program I β) → Program I β
  | .done a, f => f a
  | .unfinished, _ => .unfinished
  | .ask r next, f => .ask r fun answer => bind (next answer) f

instance : Monad (Program I) where
  pure := .done
  bind := bind

/-- Make one request and yield its answer. -/
def request (r : I.Request) : Program I (I.Answer r) :=
  .ask r .done

/-! ### Laws of sequencing -/

@[simp] theorem done_bind (a : α) (f : α → Program I β) : (Program.done a).bind f = f a := rfl

@[simp] theorem unfinished_bind (f : α → Program I β) :
    (Program.unfinished : Program I α).bind f = .unfinished := rfl

@[simp] theorem ask_bind (r : I.Request) (next : I.Answer r → Program I α)
    (f : α → Program I β) : (Program.ask r next).bind f = .ask r fun a => (next a).bind f := rfl

@[simp] theorem bind_done (p : Program I α) : p.bind .done = p := by
  induction p with
  | done a => rfl
  | unfinished => rfl
  | ask r next ih => simp [ih]

theorem bind_assoc (p : Program I α) (f : α → Program I β) (g : β → Program I γ) :
    (p.bind f).bind g = p.bind fun a => (f a).bind g := by
  induction p with
  | done a => rfl
  | unfinished => rfl
  | ask r next ih => simp [ih]

theorem bind_eq (p : Program I α) (f : α → Program I β) : p >>= f = p.bind f := rfl

/-! ### Loops -/

/-- Repeats `step`, feeding it its own state, until it yields a value. The loop is followed for
`rounds` rounds. -/
def loop (step : σ → Program I (σ ⊕ α)) : (rounds : Nat) → σ → Program I α
  | 0, _ => .unfinished
  | n + 1, s => (step s).bind fun
    | .inl s' => loop step n s'
    | .inr a => .done a

@[simp] theorem loop_zero (step : σ → Program I (σ ⊕ α)) (s : σ) :
    loop step 0 s = .unfinished := rfl

/-! ### Running -/

/-- Run a program against surroundings that answer from a state, and give the value, if it comes
to one, and the state it leaves behind. -/
def run (answer : (r : I.Request) → σ → I.Answer r × σ) : Program I α → σ → Option α × σ
  | .done a, s => (some a, s)
  | .unfinished, s => (none, s)
  | .ask r next, s => run answer (next (answer r s).1) (answer r s).2

@[simp] theorem run_done (answer : (r : I.Request) → σ → I.Answer r × σ) (a : α) (s : σ) :
    (Program.done a).run answer s = (some a, s) := rfl

@[simp] theorem run_unfinished (answer : (r : I.Request) → σ → I.Answer r × σ) (s : σ) :
    (Program.unfinished : Program I α).run answer s = (none, s) := rfl

@[simp] theorem run_ask (answer : (r : I.Request) → σ → I.Answer r × σ) (r : I.Request)
    (next : I.Answer r → Program I α) (s : σ) :
    (Program.ask r next).run answer s = (next (answer r s).1).run answer (answer r s).2 := rfl

theorem run_bind (answer : (r : I.Request) → σ → I.Answer r × σ) (p : Program I α)
    (f : α → Program I β) (s : σ) :
    (p.bind f).run answer s =
      match p.run answer s with
      | (some a, s') => (f a).run answer s'
      | (none, s') => (none, s') := by
  induction p generalizing s with
  | done a => rfl
  | unfinished => rfl
  | ask r next ih => simp [ih]

/-! ### Carrying out one interface over another -/

/-- Carry out every request of `I` by a program over `J`. -/
def translate (carry : (r : I.Request) → Program J (I.Answer r)) : Program I α → Program J α
  | .done a => .done a
  | .unfinished => .unfinished
  | .ask r next => (carry r).bind fun answer => translate carry (next answer)

/-- Carry out every request of `I` by a program over `J` that hands a state on from one request
to the next. -/
def translateFrom (carry : (r : I.Request) → σ → Program J (I.Answer r × σ)) :
    Program I α → σ → Program J (α × σ)
  | .done a, s => .done (a, s)
  | .unfinished, _ => .unfinished
  | .ask r next, s => (carry r s).bind fun (answer, s') => translateFrom carry (next answer) s'

@[simp] theorem translate_done (carry : (r : I.Request) → Program J (I.Answer r)) (a : α) :
    (Program.done a).translate carry = .done a := rfl

end Program

end ClusterNet
