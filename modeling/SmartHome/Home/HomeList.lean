import SmartHome.Firestore

/-!
# The list of homes

`HomeController.getHomesByOwner` queries the collection `homes` by owner, and `HomeListScreen` shows
the future that it returns. The controller catches a failed query and returns an empty list, so the
error branch of the screen is never taken.

## Main definitions

* `HomeList.queryByOwner`, `HomeList.getHomesByOwner`, `HomeList.build`.

## Main results

* `HomeList.shown_of_failed`, `HomeList.shown_eq_noHomes` : what the screen shows when the query
  fails, and when it shows that there are no homes.
-/

namespace SmartHome.HomeList

open Dart

/-- The documents of the collection `homes`, with their ids. -/
abbrev Homes := List (String × Fields)

/-- `where('owner', isEqualTo: ownerId)`. -/
def queryByOwner (homes : Homes) (ownerId : String) : Homes :=
  homes.filter fun doc => (doc.2.field "owner").isStr ownerId

/-- The outcome of the query on a store: its documents, or an exception with the given text. -/
def queryOutcome (homes : Homes) (ownerId : String) (failure : Option String) :
    Except String Homes :=
  failure.elim (.ok (queryByOwner homes ownerId)) .error

/-- `HomeController.getHomesByOwner`: each document with its id under `homeId`. -/
def getHomesByOwner (outcome : Except String Homes) : Except String (List Fields) :=
  match outcome with
  | .ok docs => .ok (docs.map fun doc => doc.2.merge [("homeId", .str doc.1)])
  | .error _ => .ok []

/-- What `HomeListScreen` shows. -/
inductive Body where
  | waiting
  | error (text : String)
  | noHomes
  | homes (homes : List Fields)

/-- The `FutureBuilder` of `HomeListScreen`, before and after its future completes. -/
def build : Option (Except String (List Fields)) → Body
  | none => .waiting
  | some (.error e) => .error ("Error: " ++ e)
  | some (.ok []) => .noHomes
  | some (.ok (home :: homes)) => .homes (home :: homes)

/-- What the screen shows once the query has completed. -/
def shown (homes : Homes) (ownerId : String) (failure : Option String) : Body :=
  build (some (getHomesByOwner (queryOutcome homes ownerId failure)))

/-- A failed query looks like an empty list. -/
theorem shown_of_failed (homes : Homes) (ownerId e : String) :
    shown homes ownerId (some e) = .noHomes := rfl

/-- A query that succeeds is shown as an empty list exactly when it has no documents. -/
theorem shown_eq_noHomes (homes : Homes) (ownerId : String) :
    shown homes ownerId none = .noHomes ↔ queryByOwner homes ownerId = [] := by
  simp only [shown, queryOutcome, Option.elim, getHomesByOwner]
  cases queryByOwner homes ownerId <;> simp [build]

end SmartHome.HomeList
