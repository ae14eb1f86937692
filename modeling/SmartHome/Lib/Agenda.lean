import Mathlib.Data.List.Basic

/-!
# Queues of pending operations

Operations wait in a queue and are performed in the order in which they were issued. Performing
an operation may issue further ones, which join the back of the queue; the operations issued in
this way issue none themselves.

The agenda of a queue lists everything that is still going to be performed if nothing new is issued
from outside. Performing the operation in front changes neither the agenda behind it nor, therefore,
the state in which the queue comes to rest.

## Main definitions

* `Agenda.agenda` : the operations of a queue and those that they will issue.
* `Agenda.settle` : the state after the whole agenda.

## Main results

* `Agenda.settle_cons` : performing the operation in front does not change where the queue settles.
* `Agenda.foldl_eq_of_unchanged` : what no operation of a list changes is the same after the list.
-/

namespace Agenda

variable {σ α β : Type*} (perform : σ → α → σ) (followUp : α → List α)

/-- The operations of the queue `q`, then those that they issue. -/
def agenda (q : List α) : List α := q ++ q.flatMap followUp

/-- The state that `s` settles in once the queue `q` has been worked off. -/
def settle (s : σ) (q : List α) : σ := (agenda followUp q).foldl perform s

variable {perform followUp}

theorem agenda_cons (hfollow : ∀ a, (followUp a).flatMap followUp = []) (a : α) (q : List α) :
    agenda followUp (a :: q) = a :: agenda followUp (q ++ followUp a) := by
  simp only [agenda, List.cons_append, List.flatMap_cons, List.flatMap_append, hfollow,
    List.append_nil, List.append_assoc]

theorem agenda_concat (q : List α) (a : α) :
    agenda followUp (q ++ [a]) = q ++ a :: (q.flatMap followUp ++ followUp a) := by
  simp only [agenda, List.flatMap_append, List.flatMap_singleton, List.append_assoc,
    List.singleton_append]

/-- Performing the operation in front, and queueing what it issues, does not change the state in
which the queue settles. -/
theorem settle_cons (hfollow : ∀ a, (followUp a).flatMap followUp = []) (s : σ) (a : α)
    (q : List α) :
    settle perform followUp s (a :: q) = settle perform followUp (perform s a) (q ++ followUp a) :=
  by rw [settle, agenda_cons hfollow, List.foldl_cons, settle]

@[simp] theorem settle_nil (s : σ) : settle perform followUp s [] = s := rfl

/-- A component of the state that no operation of the list changes is the same after the list. -/
theorem foldl_eq_of_unchanged (f : σ → β) {l : List α} (h : ∀ s, ∀ a ∈ l, f (perform s a) = f s)
    (s : σ) : f (l.foldl perform s) = f s := by
  induction l generalizing s with
  | nil => rfl
  | cons a l ih =>
    rw [List.foldl_cons, ih fun s b hb => h s b (List.mem_cons_of_mem a hb)]
    exact h s a List.mem_cons_self

end Agenda
