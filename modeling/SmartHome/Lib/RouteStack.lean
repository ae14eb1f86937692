import Mathlib.Data.List.Basic
import Mathlib.Data.List.TakeWhile

/-!
# Stacks of routes

A navigator keeps its routes as a stack, listed here with the visible route first. The operations
are the usual ones: push a route, pop the top one, replace the top one, and pop until the top route
satisfies a predicate (which empties the stack if no route does).

`Stacked R s` says that every route of `s` stands in the relation `R` to the list of the routes
below it. Every operation acts at the top only, so it preserves such a shape as soon as the route
it puts on top, if any, fits.

## Main definitions

* `RouteStack.push`, `RouteStack.pop`, `RouteStack.pushReplacement`, `RouteStack.popUntil`.
* `RouteStack.Stacked` : a shape that constrains each route by the routes below it.

## Main results

* `RouteStack.Stacked.suffix` : a shape is inherited by what lies below.
* `RouteStack.popUntil_cases` : popping until a predicate holds empties the stack or stops at a
  route that satisfies it.
-/

namespace RouteStack

variable {ρ : Type*}

/-- The new route covers the others. -/
def push (r : ρ) (s : List ρ) : List ρ := r :: s

/-- The top route is removed. -/
def pop (s : List ρ) : List ρ := s.tail

/-- The top route is removed and the new one takes its place. -/
def pushReplacement (r : ρ) (s : List ρ) : List ρ := r :: s.tail

/-- Routes are removed from the top while they do not satisfy `p`. -/
def popUntil (p : ρ → Bool) (s : List ρ) : List ρ := s.dropWhile fun r => !p r

theorem pop_suffix (s : List ρ) : pop s <:+ s := List.tail_suffix s

theorem popUntil_suffix (p : ρ → Bool) (s : List ρ) : popUntil p s <:+ s :=
  List.dropWhile_suffix _

/-- Popping until `p` holds empties the stack, or stops at a route satisfying `p`. -/
theorem popUntil_cases (p : ρ → Bool) (s : List ρ) :
    popUntil p s = [] ∨ ∃ r rest, popUntil p s = r :: rest ∧ p r = true := by
  induction s with
  | nil => exact Or.inl rfl
  | cons r s ih =>
    cases h : p r with
    | true => exact Or.inr ⟨r, s, by simp [popUntil, h], h⟩
    | false => simpa [popUntil, List.dropWhile_cons, h] using ih

/-- If popping until `p` holds empties the stack, no route satisfied `p`. -/
theorem popUntil_eq_nil {p : ρ → Bool} {s : List ρ} (h : popUntil p s = []) :
    ∀ r ∈ s, p r = false := by
  intro r hr
  simpa using List.dropWhile_eq_nil_iff.mp h r hr

/-! ### Shapes -/

/-- Every route of the stack stands in the relation `R` to the routes below it. -/
def Stacked (R : ρ → List ρ → Prop) : List ρ → Prop
  | [] => True
  | r :: s => R r s ∧ Stacked R s

variable {R : ρ → List ρ → Prop}

theorem Stacked.suffix {s t : List ρ} (h : Stacked R t) (hst : s <:+ t) : Stacked R s := by
  obtain ⟨u, rfl⟩ := hst
  induction u with
  | nil => exact h
  | cons r u ih => exact ih h.2

theorem Stacked.pop {s : List ρ} (h : Stacked R s) : Stacked R (pop s) :=
  h.suffix (pop_suffix s)

theorem Stacked.popUntil {s : List ρ} (h : Stacked R s) (p : ρ → Bool) :
    Stacked R (popUntil p s) :=
  h.suffix (popUntil_suffix p s)

theorem Stacked.push {s : List ρ} (h : Stacked R s) {r : ρ} (hr : R r s) :
    Stacked R (push r s) :=
  ⟨hr, h⟩

theorem Stacked.pushReplacement {s : List ρ} (h : Stacked R s) {r : ρ} (hr : R r s.tail) :
    Stacked R (pushReplacement r s) :=
  ⟨hr, h.pop⟩

/-- The relation holds between any route of the stack and the routes below it. -/
theorem Stacked.of_append {above below : List ρ} {r : ρ} (h : Stacked R (above ++ r :: below)) :
    R r below :=
  (h.suffix (List.suffix_append above (r :: below))).1

end RouteStack
