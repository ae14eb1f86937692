import Mathlib.Data.List.Perm.Basic
import Mathlib.Data.List.Basic

/-!
# Outstanding asynchronous calls

The calls that have been started and have not completed are kept in a list, oldest first. Calls
complete in any order: a completion names the position of a call in the list.

## Main definitions

* `Outstanding.complete` : the call that completes and the calls that remain.

## Main results

* `Outstanding.perm_of_complete` : the completed call and the remaining ones are the outstanding
  ones.
-/

namespace Outstanding

variable {κ : Type*} {calls rest : List κ} {i : ℕ} {c : κ}

/-- The call at position `i` and the calls that remain once it has completed. -/
def complete (calls : List κ) (i : ℕ) : Option (κ × List κ) :=
  calls[i]?.map fun c => (c, calls.eraseIdx i)

theorem complete_eq_some :
    complete calls i = some (c, rest) ↔ calls[i]? = some c ∧ calls.eraseIdx i = rest := by
  simp [complete, Option.map_eq_some_iff]

/-- Completing a call splits the outstanding calls into that call and the remaining ones. -/
theorem perm_of_complete (h : complete calls i = some (c, rest)) : calls.Perm (c :: rest) := by
  obtain ⟨hc, rfl⟩ := complete_eq_some.mp h
  obtain ⟨hi, rfl⟩ := List.getElem?_eq_some_iff.mp hc
  exact (List.getElem_cons_eraseIdx_perm hi).symm

theorem mem_iff_of_complete (h : complete calls i = some (c, rest)) {x : κ} :
    x ∈ calls ↔ x = c ∨ x ∈ rest := by
  rw [(perm_of_complete h).mem_iff, List.mem_cons]

theorem length_of_complete (h : complete calls i = some (c, rest)) :
    calls.length = rest.length + 1 :=
  (perm_of_complete h).length_eq

/-- Calls that are kept in another order complete there as well. -/
theorem exists_complete_of_perm {calls' : List κ} (h : complete calls i = some (c, rest))
    (hperm : calls'.Perm calls) :
    ∃ j rest', complete calls' j = some (c, rest') ∧ rest'.Perm rest := by
  have hmem : c ∈ calls' := hperm.mem_iff.mpr ((mem_iff_of_complete h).mpr (.inl rfl))
  obtain ⟨j, hj⟩ := List.mem_iff_getElem?.mp hmem
  have hcomplete : complete calls' j = some (c, calls'.eraseIdx j) := complete_eq_some.mpr ⟨hj, rfl⟩
  refine ⟨j, _, hcomplete, (List.perm_cons c).mp ?_⟩
  exact (perm_of_complete hcomplete).symm.trans (hperm.trans (perm_of_complete h))

theorem complete_map_eq {μ : Type*} (f : κ → μ) (calls : List κ) (i : ℕ) :
    complete (calls.map f) i = (complete calls i).map fun call => (f call.1, call.2.map f) := by
  simp only [complete, List.getElem?_map, Option.map_map, List.eraseIdx_map]
  rfl

/-- The calls under a function complete at the same positions. -/
theorem complete_map {μ : Type*} (f : κ → μ) (h : complete calls i = some (c, rest)) :
    complete (calls.map f) i = some (f c, rest.map f) := by
  rw [complete_map_eq, h]
  rfl

/-- Calls that are started after others complete after them. -/
theorem complete_append (others : List κ) (h : complete calls i = some (c, rest)) :
    complete (others ++ calls) (others.length + i) = some (c, others ++ rest) := by
  obtain ⟨hc, rfl⟩ := complete_eq_some.mp h
  rw [complete_eq_some, List.getElem?_append_right (Nat.le_add_right _ _),
    List.eraseIdx_append_of_length_le (Nat.le_add_right _ _), Nat.add_sub_cancel_left]
  exact ⟨hc, rfl⟩

/-- The call that was started last. -/
theorem complete_concat (calls : List κ) (c : κ) :
    complete (calls ++ [c]) calls.length = some (c, calls) := by
  simpa using complete_append calls (rfl : complete [c] 0 = some (c, []))

end Outstanding
