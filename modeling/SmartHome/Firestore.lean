import SmartHome.Lib.DartValue
import SmartHome.Lib.Document

/-!
# The document database as the app sees it

The documents of the collection `profiles`, with dynamic values under string keys. A read gives a
snapshot, which holds no data when the document does not exist; any call may throw instead.
-/

namespace SmartHome

open Dart

/-- The identifier of an account. -/
abbrev Uid := String

/-- The fields of a document. -/
abbrev Fields := Document String Dyn

/-- The collection `profiles`, keyed by account. -/
abbrev Profiles := Collection Uid String Dyn

namespace Fields

/-- The document with exactly the given fields. -/
def ofList (entries : List (String × Dyn)) : Fields := Document.merge Document.empty entries

/-- `data[key]`: a missing field reads as `null`. -/
def field (d : Fields) (key : String) : Dyn := (d key).getD .null

/-- `data[key] ?? ''`, which is then cast to `String`. -/
def fieldOrEmpty (d : Fields) (key : String) : Except Error String :=
  ((d.field key).orElse (.str "")).asString

@[simp] theorem field_of_none {d : Fields} {key : String} (h : d key = none) :
    d.field key = .null := by
  rw [field, h, Option.getD_none]

@[simp] theorem field_of_some {d : Fields} {key : String} {v : Dyn} (h : d key = some v) :
    d.field key = v := by
  rw [field, h, Option.getD_some]

theorem field_eq_str {d : Fields} {key s : String} :
    d.field key = .str s ↔ d key = some (.str s) := by
  cases h : d key <;> simp [field, h]

end Fields

/-- `doc.data() as Map<String, dynamic>`: the cast fails when the document does not exist. -/
def dataAsMap (snapshot : Option Fields) : Except Error Fields :=
  snapshot.elim (.error .typeError) .ok

end SmartHome
