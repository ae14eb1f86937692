import SmartHome.Lib.EventRun

/-!
# Programs that make calls

A `Dialogue` is a program that makes calls and goes on with their replies, until it is done. Its
replies are whatever the other side gives, so a conversation with it is a list of exchanges, of a
call and a reply each.

## Main definitions

* `Dialogue`, a monad, with `Dialogue.ask` and `Dialogue.attempt`.
* `Dialogue.Exchange`, `Dialogue.step` : one exchange.
* `Dialogue.waiting` : the call that a program waits for.
* `Dialogue.Rel` : programs that make the same calls.

## Main results

* `Dialogue.Rel.run` : programs that make the same calls have the same conversations.
-/

/-- A program that makes calls. `R c` is what the call `c` can be answered with. -/
inductive Dialogue (κ : Type) (R : κ → Type) (α : Type) where
  | done (a : α)
  | call (c : κ) (next : R c → Dialogue κ R α)

namespace Dialogue

variable {κ : Type} {R : κ → Type} {α β ε : Type}

/-- A program after another one. -/
protected def bind : Dialogue κ R α → (α → Dialogue κ R β) → Dialogue κ R β
  | .done a, f => f a
  | .call c next, f => .call c fun reply => (next reply).bind f

instance : Monad (Dialogue κ R) where
  pure := .done
  bind := Dialogue.bind

/-- One call. -/
def ask (c : κ) : Dialogue κ R (R c) := .call c .done

/-- One call, which can throw. -/
def attempt {V : κ → Type} (c : κ) : ExceptT ε (Dialogue κ fun c => Except ε (V c)) (V c) :=
  ExceptT.mk (ask c)

/-- The call that a program waits for, if it is not done. -/
def waiting : Dialogue κ R α → Option κ
  | .done _ => none
  | .call c _ => some c

/-- A call and its reply. -/
structure Exchange (κ : Type) (R : κ → Type) where
  call : κ
  reply : R call

section Step

variable [DecidableEq κ]

/-- The program that is left after an exchange. -/
def step : Dialogue κ R α → Exchange κ R → Option (Dialogue κ R α)
  | .done _, _ => none
  | .call c next, x => if h : x.call = c then some (next (h ▸ x.reply)) else none

@[simp] theorem step_call (c : κ) (next : R c → Dialogue κ R α) (reply : R c) :
    (Dialogue.call c next).step ⟨c, reply⟩ = some (next reply) :=
  dif_pos rfl

theorem exists_of_step {d d' : Dialogue κ R α} {x : Exchange κ R} (h : d.step x = some d') :
    ∃ next, d = .call x.call next ∧ d' = next x.reply := by
  cases d with
  | done => cases h
  | call c next =>
    obtain ⟨hcall, h⟩ := Option.dite_none_right_eq_some.mp h
    subst hcall
    exact ⟨next, rfl, (Option.some.inj h).symm⟩

end Step

/-- The same calls, and after the same replies results that are related. -/
inductive Rel (r : α → β → Prop) : Dialogue κ R α → Dialogue κ R β → Prop
  | done {a : α} {b : β} (h : r a b) : Rel r (.done a) (.done b)
  | call {c : κ} {next : R c → Dialogue κ R α} {next' : R c → Dialogue κ R β}
      (h : ∀ reply, Rel r (next reply) (next' reply)) : Rel r (.call c next) (.call c next')

variable {r : α → β → Prop} {d : Dialogue κ R α} {d' : Dialogue κ R β}

theorem Rel.waiting_eq (h : Rel r d d') : d.waiting = d'.waiting := by
  cases h <;> rfl

variable [DecidableEq κ]

theorem Rel.step (h : Rel r d d') {x : Exchange κ R} {e : Dialogue κ R α}
    (hstep : d.step x = some e) : ∃ e', d'.step x = some e' ∧ Rel r e e' := by
  obtain ⟨next, rfl, rfl⟩ := exists_of_step hstep
  cases h with
  | call hnext => exact ⟨_, step_call _ _ _, hnext _⟩

/-- What one of the programs says, the other one says as well. -/
theorem Rel.run (h : Rel r d d') {xs : List (Exchange κ R)} {e : Dialogue κ R α}
    (hrun : EventRun.run Dialogue.step d xs = some e) :
    ∃ e', EventRun.run Dialogue.step d' xs = some e' ∧ Rel r e e' := by
  have hmatch : ∀ (d : Dialogue κ R α) (x : Exchange κ R) (e : Dialogue κ R α)
      (d' : Dialogue κ R β), Rel r d d' → d.step x = some e →
        ∃ e', EventRun.run Dialogue.step d' [x] = some e' ∧ Rel r e e' := by
    intro d x e d' h hstep
    obtain ⟨e', he', hrel⟩ := h.step hstep
    exact ⟨e', EventRun.run_cons_eq_some.mpr ⟨e', he', rfl⟩, hrel⟩
  have hxs := EventRun.run_flatMap hmatch h hrun
  rwa [List.flatMap_singleton'] at hxs

end Dialogue
