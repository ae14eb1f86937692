import Mathlib.Data.List.Basic
import Mathlib.Data.List.Perm.Basic

/-!
# Systems of several parts

A system that opens parts of one kind, such as pages or forms, keeps them in a list, oldest first.
A part is opened at the end of the list, and a part that steps is replaced at its position. What
all parts hold together is collected from the list.

## Main results

* `Parts.getElem?_set_cases`, `Parts.getElem?_concat_cases` : the parts after a step of one of them,
  and after a new one has been opened.
* `Parts.flatMap_set` : what the parts hold after a step of one of them.
-/

namespace Parts

variable {α β : Type*} {parts : List α} {i j : ℕ} {p q x : α}

/-- The parts after a step of the part `i`. -/
theorem getElem?_set_cases (h : (parts.set i q)[j]? = some x) :
    (j = i ∧ x = q) ∨ (j ≠ i ∧ parts[j]? = some x) := by
  by_cases hij : i = j
  · subst hij
    have hi : i < parts.length := by
      have hlength := (List.getElem?_eq_some_iff.mp h).1
      rwa [List.length_set] at hlength
    rw [List.getElem?_set_self hi] at h
    exact .inl ⟨rfl, (Option.some.inj h).symm⟩
  · rw [List.getElem?_set_ne hij] at h
    exact .inr ⟨Ne.symm hij, h⟩

/-- The part that has stepped. -/
theorem getElem?_set_of_some (h : parts[i]? = some p) (q : α) : (parts.set i q)[i]? = some q :=
  List.getElem?_set_self (List.getElem?_eq_some_iff.mp h).1

/-- The parts after a new one has been opened. -/
theorem getElem?_concat_cases (h : (parts ++ [q])[j]? = some x) :
    parts[j]? = some x ∨ (j = parts.length ∧ x = q) := by
  rcases Nat.lt_or_ge j parts.length with hj | hj
  · rw [List.getElem?_append_left hj] at h
    exact .inl h
  · rw [List.getElem?_append_right hj, List.getElem?_singleton,
      Option.ite_none_right_eq_some] at h
    exact .inr ⟨by omega, (Option.some.inj h.2).symm⟩

/-- The part that has been opened before another one. -/
theorem getElem?_concat_of_some (h : parts[i]? = some p) (q : α) : (parts ++ [q])[i]? = some p := by
  rw [List.getElem?_append_left (List.getElem?_eq_some_iff.mp h).1, h]

/-- What all parts hold, with one of them in front. -/
theorem flatMap_perm (held : α → List β) (h : parts[i]? = some p) :
    (parts.flatMap held).Perm (held p ++ (parts.eraseIdx i).flatMap held) := by
  obtain ⟨hi, rfl⟩ := List.getElem?_eq_some_iff.mp h
  exact (List.getElem_cons_eraseIdx_perm hi).symm.flatMap_right held

/-- What the part `i` gives up it may keep in another way, and take on something new. -/
theorem flatMap_set (held : α → List β) (new gone : List β) (h : parts[i]? = some p) {q : α}
    (hheld : (new ++ held p).Perm (gone ++ held q)) :
    (new ++ parts.flatMap held).Perm (gone ++ (parts.set i q).flatMap held) := by
  obtain ⟨hi, -⟩ := List.getElem?_eq_some_iff.mp h
  have hset : ((parts.set i q).flatMap held).Perm (held q ++ (parts.eraseIdx i).flatMap held) :=
    (List.set_perm_cons_eraseIdx hi q).flatMap_right held
  refine ((flatMap_perm held h).append_left new).trans (.trans ?_ (hset.append_left gone).symm)
  rw [← List.append_assoc, ← List.append_assoc]
  exact hheld.append_right _

end Parts
