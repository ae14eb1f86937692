import Mathlib.Logic.Function.Basic
import Mathlib.Data.List.Basic

/-!
# Documents and merging writes

A document maps keys to values and a collection maps identifiers to documents. A *merging* write
carries a list of entries: it overwrites the listed keys, keeps every other key, and creates the
document if there is none.

## Main definitions

* `Document`, `Document.merge` : the fields of a document and a merging write to it.
* `Collection.setMerge` : a merging write to one document of a collection.

## Main results

* `Document.merge_of_lookup`, `Document.merge_of_lookup_none` : what a merging write changes and
  what it keeps.
* `Collection.setMerge_self`, `Collection.setMerge_of_ne`.
-/

variable {ι κ V : Type*}

/-- The fields of a document: the value under each key, if there is one. -/
def Document (κ V : Type*) := κ → Option V

namespace Document

/-- The document without fields. -/
def empty : Document κ V := fun _ => none

variable [BEq κ]

/-- A merging write: the listed keys are overwritten, the others are kept. -/
def merge (d : Document κ V) (entries : List (κ × V)) : Document κ V :=
  fun k => (entries.lookup k).or (d k)

theorem merge_of_lookup {d : Document κ V} {entries : List (κ × V)} {k : κ} {v : V}
    (h : entries.lookup k = some v) : d.merge entries k = some v := by
  rw [merge, h, Option.some_or]

theorem merge_of_lookup_none {d : Document κ V} {entries : List (κ × V)} {k : κ}
    (h : entries.lookup k = none) : d.merge entries k = d k := by
  rw [merge, h, Option.none_or]

end Document

/-- A collection: the document stored under each identifier, if there is one. -/
def Collection (ι κ V : Type*) := ι → Option (Document κ V)

namespace Collection

/-- The document a merging write works on: the stored one, or a new one. -/
def base (c : Collection ι κ V) (i : ι) : Document κ V := (c i).getD Document.empty

theorem base_of_some {c : Collection ι κ V} {i : ι} {d : Document κ V} (h : c i = some d) :
    c.base i = d := by
  rw [base, h, Option.getD_some]

theorem base_of_none {c : Collection ι κ V} {i : ι} (h : c i = none) :
    c.base i = Document.empty := by
  rw [base, h, Option.getD_none]

variable [DecidableEq ι] [BEq κ]

/-- A merging write to the document `i`. -/
def setMerge (c : Collection ι κ V) (i : ι) (entries : List (κ × V)) : Collection ι κ V :=
  Function.update c i (some ((c.base i).merge entries))

@[simp] theorem setMerge_self (c : Collection ι κ V) (i : ι) (entries : List (κ × V)) :
    c.setMerge i entries i = some ((c.base i).merge entries) :=
  Function.update_self ..

theorem setMerge_of_ne (c : Collection ι κ V) {i j : ι} (h : j ≠ i) (entries : List (κ × V)) :
    c.setMerge i entries j = c j :=
  Function.update_of_ne h ..

end Collection
