import Mathlib.Data.List.Nodup
import Mathlib.Data.List.Perm.Basic
import Mathlib.Data.Set.Card
import Mathlib.Logic.Function.Basic

/-!
# Lists of documents

A database that answers a query runs through its documents in some order. What a list of documents
means is the partial function from identifiers to documents that it represents; the order means
nothing.

## Main definitions

* `DocumentList.Represents` : the list holds each document of a partial function once.
* `DocumentList.modify`, `DocumentList.delete` : a change of one document, and its removal.

## Main results

* `Represents.perm` : the order means nothing.
* `Represents.cons`, `Represents.modify`, `Represents.delete` : the partial function after a write.
* `Represents.lookup_eq`, `Represents.filter_id`, `Represents.length_filter` : what is read from the
  list in terms of the partial function.
-/

namespace DocumentList

variable {ι δ : Type*}

/-- The list holds exactly the documents of `c`, each once. -/
structure Represents (docs : List (ι × δ)) (c : ι → Option δ) : Prop where
  ids : (docs.map Prod.fst).Nodup
  mem_iff : ∀ {i : ι} {d : δ}, (i, d) ∈ docs ↔ c i = some d

theorem represents_nil : Represents ([] : List (ι × δ)) fun _ => none where
  ids := List.nodup_nil
  mem_iff := by simp

/-- The identifiers of the list are those with a document. -/
theorem Represents.mem_ids_iff {docs : List (ι × δ)} {c : ι → Option δ} (h : Represents docs c)
    {i : ι} : i ∈ docs.map Prod.fst ↔ ∃ d, c i = some d := by
  simp only [List.mem_map, Prod.exists, exists_and_right, exists_eq_right, h.mem_iff]

theorem Represents.perm {docs docs' : List (ι × δ)} {c : ι → Option δ} (h : Represents docs c)
    (hperm : docs'.Perm docs) : Represents docs' c where
  ids := (hperm.map Prod.fst).nodup_iff.mpr h.ids
  mem_iff := hperm.mem_iff.trans h.mem_iff

section Writes

variable [DecidableEq ι]

/-- The document `i` is changed by `f`. -/
def modify (docs : List (ι × δ)) (i : ι) (f : δ → δ) : List (ι × δ) :=
  docs.map fun doc => if doc.1 = i then (doc.1, f doc.2) else doc

/-- The document `i` is removed, if there is one. -/
def delete (docs : List (ι × δ)) (i : ι) : List (ι × δ) := docs.filter fun doc => doc.1 ≠ i

variable {docs : List (ι × δ)} {c : ι → Option δ}

/-- A new document. -/
theorem Represents.cons (h : Represents docs c) {i : ι} (hi : i ∉ docs.map Prod.fst) (d : δ) :
    Represents ((i, d) :: docs) (Function.update c i (some d)) where
  ids := List.nodup_cons.mpr ⟨hi, h.ids⟩
  mem_iff := by
    intro j e
    rw [List.mem_cons, h.mem_iff, Prod.mk.injEq]
    by_cases hj : j = i
    · subst hj
      have hnone : c j ≠ some e := fun hsome => hi (h.mem_ids_iff.mpr ⟨e, hsome⟩)
      simp [hnone, eq_comm]
    · simp [hj]

theorem map_fst_modify (docs : List (ι × δ)) (i : ι) (f : δ → δ) :
    (modify docs i f).map Prod.fst = docs.map Prod.fst := by
  rw [modify, List.map_map]
  refine List.map_congr_left fun doc _ => ?_
  rw [Function.comp_apply]
  split <;> rfl

theorem Represents.modify (h : Represents docs c) (i : ι) (f : δ → δ) :
    Represents (modify docs i f) (Function.update c i ((c i).map f)) where
  ids := by rw [map_fst_modify]; exact h.ids
  mem_iff := by
    intro j e
    simp only [DocumentList.modify, List.mem_map, Prod.exists, h.mem_iff]
    by_cases hj : j = i
    · subst hj
      rw [Function.update_self, Option.map_eq_some_iff]
      constructor
      · rintro ⟨k, d, hd, heq⟩
        split at heq
        · rename_i hk
          subst hk
          exact ⟨d, hd, (Prod.mk.inj heq).2⟩
        · rename_i hk
          exact absurd (Prod.mk.inj heq).1 hk
      · rintro ⟨d, hd, rfl⟩
        exact ⟨j, d, hd, if_pos rfl⟩
    · rw [Function.update_of_ne hj]
      constructor
      · rintro ⟨k, d, hd, heq⟩
        split at heq
        · rename_i hk
          exact absurd ((Prod.mk.inj heq).1.symm.trans hk) hj
        · obtain ⟨rfl, rfl⟩ := Prod.mk.inj heq
          exact hd
      · exact fun he => ⟨j, e, he, if_neg hj⟩

theorem Represents.delete (h : Represents docs c) (i : ι) :
    Represents (delete docs i) (Function.update c i none) where
  ids := h.ids.sublist (List.filter_sublist.map Prod.fst)
  mem_iff := by
    intro j e
    rw [DocumentList.delete, List.mem_filter, decide_eq_true_eq, h.mem_iff]
    by_cases hj : j = i
    · simp [hj]
    · simp [hj]

end Writes

section Reads

variable {docs : List (ι × δ)} {c : ι → Option δ} (h : Represents docs c)

include h

theorem Represents.lookup_eq [BEq ι] [LawfulBEq ι] (i : ι) : docs.lookup i = c i := by
  cases hc : c i with
  | none =>
    refine List.lookup_eq_none_iff.mpr fun doc hdoc => ?_
    have hdoc' : c doc.1 = some doc.2 := h.mem_iff.mp hdoc
    refine bne_iff_ne.mpr fun heq => ?_
    rw [← heq, hc] at hdoc'
    cases hdoc'
  | some d =>
    cases hlookup : docs.lookup i with
    | none =>
      have hmiss := List.lookup_eq_none_iff.mp hlookup (i, d) (h.mem_iff.mpr hc)
      exact absurd rfl (bne_iff_ne.mp hmiss)
    | some e =>
      obtain ⟨before, after, rfl, -⟩ := List.lookup_eq_some_iff.mp hlookup
      exact (h.mem_iff.mp (List.mem_append_right before List.mem_cons_self)).symm.trans hc

/-- The list holds no document twice. -/
theorem Represents.nodup : docs.Nodup := h.ids.of_map Prod.fst

/-- The documents with a given identifier: one or none. -/
theorem Represents.filter_id [DecidableEq ι] (i : ι) :
    docs.filter (fun doc => doc.1 = i) = ((c i).map fun d => (i, d)).toList := by
  have hmem : ∀ doc, doc ∈ docs.filter (fun doc => doc.1 = i) ↔
      doc ∈ ((c i).map fun d => (i, d)).toList := by
    rintro ⟨j, e⟩
    rw [List.mem_filter, decide_eq_true_eq, h.mem_iff, Option.mem_toList, Option.map_eq_some_iff]
    constructor
    · rintro ⟨he, rfl⟩
      exact ⟨e, he, rfl⟩
    · rintro ⟨d, hd, heq⟩
      obtain ⟨rfl, rfl⟩ := Prod.mk.inj heq
      exact ⟨hd, rfl⟩
  have hnodup : ((c i).map fun d => (i, d)).toList.Nodup := by
    cases c i <;> simp
  have hperm := (List.perm_ext_iff_of_nodup (h.nodup.filter _) hnodup).mpr hmem
  cases hc : c i with
  | none => rw [hc] at hperm; exact hperm.eq_nil
  | some d => rw [hc] at hperm; exact List.perm_singleton.mp hperm

/-- The number of documents that a query finds. -/
theorem Represents.length_filter (p : ι × δ → Bool) :
    (docs.filter p).length = {i | ∃ d, c i = some d ∧ p (i, d) = true}.ncard := by
  classical
  have hnodup : ((docs.filter p).map Prod.fst).Nodup :=
    h.ids.sublist (List.filter_sublist.map Prod.fst)
  have hset : {i | ∃ d, c i = some d ∧ p (i, d) = true} =
      ↑((docs.filter p).map Prod.fst).toFinset := by
    ext i
    simp [h.mem_iff]
  rw [hset, Set.ncard_coe_finset, List.toFinset_card_of_nodup hnodup, List.length_map]

end Reads

end DocumentList
