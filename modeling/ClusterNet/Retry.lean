import ClusterNet.Duration
import ClusterNet.Program

/-!
# Retry policies

How often something is attempted, and how long to wait between attempts.

## Main definitions

* `RetryPolicy` — the number of attempts and the growth of the delays between them;
* `RetryPolicy.delay` — the delay behind an attempt;
* `RetryPolicy.attempt` — something done as often as the policy allows until its outcome counts.

## The delay in floating point

The delay is `initial · multiplier ^ attempt` milliseconds, computed in binary floating point and
rounded, a half away from zero. A product that is not a number or not below the greatest delay
gives the greatest delay.
-/

namespace ClusterNet

/-- How often something is attempted and how long to wait in between. -/
structure RetryPolicy where
  /-- The number of attempts, the first one included. -/
  maxAttempts : Nat := 3
  /-- The delay behind the first attempt. -/
  initialDelay : Duration := .ofMillis 500
  /-- The greatest delay. -/
  maxDelay : Duration := .ofSeconds 10
  /-- The factor from one delay to the next. -/
  multiplier : Float := 2.0

namespace RetryPolicy

/-- The greatest number of attempts that can be asked for. -/
def attemptLimit : Nat := UInt32.size - 1

/-- The policy of repeating so many times after the first attempt. -/
def withRetries (retries : Nat) : RetryPolicy where
  maxAttempts := min (retries + 1) attemptLimit

/-- The number of attempts that are made when all of them may be repeated: at least one. -/
def attempts (p : RetryPolicy) : Nat := max 1 p.maxAttempts

/-- The product of the powers `base ^ 2 ^ i` over the binary digits of `exponent`, from the lowest
on, multiplied into `product`. -/
def powerFrom (product base : Float) (exponent : Nat) : Float :=
  let product := if exponent % 2 = 1 then product * base else product
  if h : exponent / 2 = 0 then product else powerFrom product (base * base) (exponent / 2)
termination_by exponent
decreasing_by omega

/-- A power with an integer as exponent. -/
def power (base : Float) (exponent : Int) : Float :=
  let p := powerFrom 1.0 base exponent.natAbs
  if exponent < 0 then 1.0 / p else p

/-- The exponent for an attempt: its number as an integer of 32 bits with a sign. -/
def exponent (attempt : Nat) : Int := Int.bmod attempt UInt32.size

/-- The delay behind the attempt with the given number, counted from zero. -/
def delay (p : RetryPolicy) (attempt : Nat) : Duration :=
  let product := p.initialDelay.millis.toFloat * power p.multiplier (exponent attempt)
  if product.isNaN || product.isInf || p.maxDelay.millis.toFloat ≤ product then p.maxDelay
  else .ofMillis product.round.toUInt64.toNat

/-! ### Attempts -/

variable {I : Interface} {ε α σ : Type}

/-- Do something that takes a state along. If its error may pass, do it again behind a pause, at
most `left` times. The attempts made before are counted by `number`. -/
def attemptFrom (p : RetryPolicy) (once : σ → Program I (Except ε α × σ)) (mayPass : ε → Bool)
    (pause : Duration → Program I Unit) :
    (left number : Nat) → σ → Program I (Except ε α × σ)
  | 0, _, s => once s
  | left + 1, number, s =>
    (once s).bind fun
      | (.ok a, s) => .done (.ok a, s)
      | (.error e, s) =>
        if mayPass e then
          (pause (p.delay number)).bind fun _ =>
            attemptFrom p once mayPass pause left (number + 1) s
        else .done (.error e, s)

/-- Do something until it succeeds, fails with an error that does not pass, or has been attempted
as often as the policy allows. The last outcome is the result. -/
def attempt (p : RetryPolicy) (once : σ → Program I (Except ε α × σ)) (mayPass : ε → Bool)
    (pause : Duration → Program I Unit) : σ → Program I (Except ε α × σ) :=
  attemptFrom p once mayPass pause (p.attempts - 1) 0

end RetryPolicy

end ClusterNet
