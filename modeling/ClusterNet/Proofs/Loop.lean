import ClusterNet.Program
import Mathlib.Data.Finset.Card
import Mathlib.Logic.Relation

/-!
# Loops that go from place to place

A loop has no measure if it is not the program but its surroundings that decide how it goes on.
But if the surroundings always answer in the same way, a round depends on nothing but where it
starts, and the loop goes from place to place along a path that is fixed beforehand. Such a path
comes to an end or it does not, and with finitely many places there is only one way in which it does
not: it leads into a circle.

## Main definitions

* `Program.Travels` — loops that go along a path
* `Program.Circles` — a path that leads into a circle

## Main results

* `Program.Travels.ended` — a loop that comes to an end has stopped at the end of its path
* `Program.Travels.not_circles` — a loop that comes to an end does not go in circles
* `Program.Travels.ends` — a loop that does not go in circles comes to an end
-/

namespace ClusterNet

namespace Program

variable {I : Interface} {β κ σ τ : Type} {answer : (r : I.Request) → τ → I.Answer r × τ}
variable {step : σ → Program I (σ ⊕ β)} {place : σ → κ} {leads : κ → κ → Prop}
variable {stops : κ → β → Prop} {rounds : Nat} {x : σ} {s s' : τ} {b : β} {j k : κ}

/-- A path leads into a circle. -/
def Circles (leads : κ → κ → Prop) (k : κ) : Prop :=
  ∃ k', Relation.ReflTransGen leads k k' ∧ Relation.TransGen leads k' k'

/-- In surroundings that always answer in the same way, a loop goes along a path: each of its rounds
leads to the next place, or it is the last one because its place leads nowhere. -/
structure Travels (answer : (r : I.Request) → τ → I.Answer r × τ) (step : σ → Program I (σ ⊕ β))
    (place : σ → κ) (leads : κ → κ → Prop) (stops : κ → β → Prop) : Prop where
  /-- No place leads to two others. -/
  unique : Relator.RightUnique leads
  /-- A place at which the loop stops leads nowhere. -/
  stuck : ∀ {k b}, stops k b → ∀ k', ¬ leads k k'
  /-- A round leads on, or it stops. -/
  round : ∀ x s, ∃ next s', (step x).run answer s = (some next, s') ∧
    ((∃ x', next = .inl x' ∧ leads (place x) (place x')) ∨
      ∃ b, next = .inr b ∧ stops (place x) b)

/-- There is no circle on the way to a place that leads nowhere. -/
theorem not_transGen_of_stuck (hunique : Relator.RightUnique leads) (hstuck : ∀ k', ¬ leads k k')
    (h : Relation.ReflTransGen leads j k) : ¬ Relation.TransGen leads j j := by
  induction h using Relation.ReflTransGen.head_induction_on with
  | refl =>
    intro hcircle
    obtain ⟨k', hleads, -⟩ := Relation.TransGen.head'_iff.mp hcircle
    exact hstuck k' hleads
  | @head j j' hleads _ ih =>
    intro hcircle
    obtain ⟨k', hleads', hback⟩ := Relation.TransGen.head'_iff.mp hcircle
    obtain rfl := hunique hleads hleads'
    exact ih (Relation.TransGen.tail' hback hleads)

namespace Travels

/-- **A loop that comes to an end has stopped at the end of its path.** -/
theorem ended (h : Travels answer step place leads stops)
    (hrun : (loop step rounds x).run answer s = (some b, s')) :
    ∃ k, Relation.ReflTransGen leads (place x) k ∧ stops k b := by
  induction rounds generalizing x s with
  | zero => exact nomatch (Prod.mk.inj hrun).1
  | succ rounds ih =>
    obtain ⟨next, s₁, hstep, ⟨x', rfl, hleads⟩ | ⟨b', rfl, hstops⟩⟩ := h.round x s
    · rw [loop, run_bind, hstep] at hrun
      obtain ⟨k, hpath, hstops⟩ := ih hrun
      exact ⟨k, .head hleads hpath, hstops⟩
    · rw [loop, run_bind, hstep] at hrun
      obtain rfl := Option.some.inj (Prod.mk.inj hrun).1
      exact ⟨place x, .refl, hstops⟩

/-- **A loop that comes to an end does not go in circles.** -/
theorem not_circles (h : Travels answer step place leads stops)
    (hrun : (loop step rounds x).run answer s = (some b, s')) : ¬ Circles leads (place x) := by
  rintro ⟨j, hpath, hcircle⟩
  obtain ⟨k, hend, hstops⟩ := h.ended hrun
  have hstuck := h.stuck hstops
  rcases Relation.ReflTransGen.total_of_right_unique h.unique hpath hend with hahead | hbehind
  · exact not_transGen_of_stuck h.unique hstuck hahead hcircle
  · rcases Relation.ReflTransGen.cases_head hbehind with rfl | ⟨k', hleads, -⟩
    · exact not_transGen_of_stuck h.unique hstuck .refl hcircle
    · exact hstuck k' hleads

/-- The induction is on the places that are left: those behind which the path does not come back to
where the loop is. A path that leads to another place leads away from a circle, so that place was
left, and it is not any more. -/
theorem ends_of_left (h : Travels answer step place leads stops) {places left : Finset κ}
    (hplaces : ∀ {k k'}, leads k k' → k' ∈ places) {start : κ} (hnot : ¬ Circles leads start)
    (hpath : Relation.ReflTransGen leads start (place x))
    (hleft : ∀ k ∈ places, k ∉ left → Relation.ReflTransGen leads k (place x)) (s : τ) :
    ∃ b s', (loop step (left.card + 1) x).run answer s = (some b, s') := by
  classical
  induction hn : left.card using Nat.strong_induction_on generalizing left x s with
  | _ n ih =>
    obtain ⟨next, s₁, hstep, ⟨x', rfl, hleads⟩ | ⟨b, rfl, -⟩⟩ := h.round x s
    · have hpath' : Relation.ReflTransGen leads start (place x') := hpath.tail hleads
      have hmem : place x' ∈ left := by
        by_contra hout
        have hback := hleft _ (hplaces hleads) hout
        exact hnot ⟨place x', hpath', Relation.TransGen.tail' hback hleads⟩
      have hleft' : ∀ k ∈ places, k ∉ left.erase (place x') →
          Relation.ReflTransGen leads k (place x') := by
        intro k hk hout
        by_cases hsame : k = place x'
        · exact hsame ▸ .refl
        · exact (hleft k hk fun hk' => hout (Finset.mem_erase.mpr ⟨hsame, hk'⟩)).tail hleads
      have hcard : (left.erase (place x')).card + 1 = n := by
        rw [Finset.card_erase_add_one hmem, hn]
      obtain ⟨b, s', hrun⟩ := ih _ (by omega) hpath' hleft' s₁ rfl
      refine ⟨b, s', ?_⟩
      rw [loop, run_bind, hstep, ← hcard]
      exact hrun
    · refine ⟨b, s₁, ?_⟩
      rw [loop, run_bind, hstep]
      rfl

/-- **A loop that does not go in circles comes to an end**, in as many rounds as there are places it
can be led to, and one more. -/
theorem ends (h : Travels answer step place leads stops) {places : Finset κ}
    (hplaces : ∀ {k k'}, leads k k' → k' ∈ places) (hnot : ¬ Circles leads (place x)) (s : τ) :
    ∃ b s', (loop step (places.card + 1) x).run answer s = (some b, s') :=
  h.ends_of_left hplaces hnot .refl (fun _ hk hout => absurd hk hout) s

end Travels

end Program

end ClusterNet
