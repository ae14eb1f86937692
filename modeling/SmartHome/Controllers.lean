import Mathlib.Data.List.InsertIdx
import SmartHome.Home.HomeList
import SmartHome.Lib.DocumentList
import SmartHome.Lib.EventRun
import SmartHome.Lib.Outstanding
import SmartHome.Profile.FirestoreService

/-!
# The controllers on the database

`FireBaseController` and `FirestoreService` write documents of several collections, and each of
their calls catches what the database throws. A call that has been made is outstanding until the
database completes it, in any order; a write that fails leaves the documents as they are. The
readers see the documents that are there when they are answered.

The database is a parameter. It keeps the documents of a collection in a list, in an order of its
own, and the results rest on what it documents of each of its writes. What the documents are at any
time is then determined by the calls that have completed, in the order of completion.

## Main definitions

* `Controllers.Write` and its builders `create`, `update`, `delete`, `updateUser`, `addUser`.
* `Controllers.Call` : a call of one of them.
* `Controllers.getHomeCountByUser`, `Controllers.getHomesById`, `Controllers.getProfile`,
  `Controllers.getUserProfile`, `Controllers.getUsers`.
* `Controllers.Documented` : what is documented of the database.
* `Controllers.State`, `Controllers.step` : the documents and the outstanding calls.
* `Controllers.logOf`, `Controllers.replay` : the completed calls of a run, and the documents as
  functions of them.

## Main results

* `Controllers.documented_writeDocs` : a database that behaves as documented.
* `Controllers.reads_of_run` : in every run the readers agree with the replay of the log, and no
  call is lost or completed twice.
* `Controllers.users_of_run` : the users that are shown are those that the log has added.
-/

namespace SmartHome.Controllers

open Dart
open DocumentList (Represents)
open HomeList (Homes getHomesByOwner queryByOwner queryOutcome)

/-! ### Writes -/

/-- A call that changes documents. -/
inductive Write where
  | add (collection : String) (data : List (String × Dyn))
  | update (collection documentId : String) (updatedData : List (String × Dyn))
  | setMerge (collection documentId : String) (data : List (String × Dyn))
  | delete (collection documentId : String)

/-- The collection of a call. -/
def Write.collection : Write → String
  | .add collection _ | .update collection _ _ | .setMerge collection _ _ | .delete collection _ =>
    collection

/-- `FireBaseController.create`. -/
def create (collection : String) (data : List (String × Dyn)) : Write := .add collection data

/-- `FireBaseController.update`. -/
def update (collection documentId : String) (updatedData : List (String × Dyn)) : Write :=
  .update collection documentId updatedData

/-- `FireBaseController.delete`. -/
def delete (collection documentId : String) : Write := .delete collection documentId

/-- `FirestoreService.updateUser`. -/
def updateUser (userId : Uid) (profile : UserProfile) : Write :=
  .setMerge "profiles" userId profile.toMap

/-- `FieldValue.serverTimestamp()`, which the database replaces by its own time. -/
def serverTimestamp : Dyn := .object "Timestamp"

/-- The data that `addUser` passes to the database. -/
def userData (name email : String) : List (String × Dyn) :=
  [("name", .str name), ("email", .str email), ("timestamp", serverTimestamp)]

/-- `FirestoreService.addUser`. -/
def addUser (name email : String) : Write := .add "users" (userData name email)

/-- A call of one of the writers. -/
inductive Call where
  | create (collection : String) (data : List (String × Dyn))
  | update (collection documentId : String) (updatedData : List (String × Dyn))
  | delete (collection documentId : String)
  | updateUser (userId : Uid) (profile : UserProfile)
  | addUser (name email : String)

/-- What a call asks of the database. -/
def Call.write : Call → Write
  | .create collection data => Controllers.create collection data
  | .update collection documentId updatedData =>
    Controllers.update collection documentId updatedData
  | .delete collection documentId => Controllers.delete collection documentId
  | .updateUser userId profile => Controllers.updateUser userId profile
  | .addUser name email => Controllers.addUser name email

/-! ### Readers -/

/-- The documents of a collection, with their ids. -/
abbrev Docs := List (String × Fields)

/-- `collection.doc(documentId).get()`. -/
def docGet (docs : Docs) (documentId : String) : Option Fields := docs.lookup documentId

/-- `where(FieldPath.documentId, isEqualTo: homeId)`. -/
def queryById (homes : Homes) (homeId : String) : Homes := homes.filter fun doc => doc.1 = homeId

/-- `HomeController.getHomeCountByUser`, on the outcome of its query. -/
def getHomeCountByUser (outcome : Except String Homes) : ℕ :=
  match outcome with
  | .ok docs => docs.length
  | .error _ => 0

/-- `HomeController.getHomesById`, on the outcome of its query. -/
def getHomesById (outcome : Except String Homes) : List Fields :=
  match outcome with
  | .ok docs => docs.map Prod.snd
  | .error _ => []

/-- `ProfileController.getProfile`, on the outcome of its read. -/
def getProfile (read : Except Error (Option Fields)) : Option Fields :=
  match read with
  | .ok (some d) => some d
  | .ok none => none
  | .error _ => none

/-- `FireBaseController.getUserProfile`, which is written as `FirestoreService.getUser` is. -/
def getUserProfile (read : Except Error (Option Fields)) : Option UserProfile :=
  FirestoreService.getUser read

/-- An entry of the collection `users`. -/
structure User where
  name : String
  email : String
  deriving Repr, DecidableEq

/-- `User.fromFirestore`. -/
def User.fromFirestore (snapshot : Option Fields) : Except Error User := do
  let data ← dataAsMap snapshot
  let name ← data.fieldOrEmpty "name"
  let email ← data.fieldOrEmpty "email"
  return { name, email }

/-- What the stream of `FirestoreService.getUsers` emits for a snapshot, or its error. -/
def getUsers (docs : Docs) : Except Error (List User) :=
  docs.mapM fun doc => User.fromFirestore (some doc.2)

/-! ### The database -/

/-- What `update` makes of the fields of a document: its keys are paths into the fields. -/
abbrev FieldUpdate := Fields → List (String × Dyn) → Fields

/-- The documents of a collection after a write that succeeds. A new document gets an id and a
position that the database chooses. -/
abbrev Database := Docs → String → ℕ → Write → Option Docs

/-- What is documented of a write that succeeds. A document that is added is a new one, `update` and
`delete` concern one document, and a merging write creates the document if it is missing. In which
order the documents are kept is not documented. -/
structure Documented (updated : FieldUpdate) (database : Database) : Prop where
  add : ∀ {docs docs' newId position collection data},
    database docs newId position (.add collection data) = some docs' →
      newId ∉ docs.map Prod.fst ∧ docs'.Perm ((newId, Fields.ofList data) :: docs)
  update : ∀ {docs docs' newId position collection documentId updatedData},
    database docs newId position (.update collection documentId updatedData) = some docs' →
      docs'.Perm (DocumentList.modify docs documentId fun d => updated d updatedData)
  setMerge : ∀ {docs docs' newId position collection documentId data},
    database docs newId position (.setMerge collection documentId data) = some docs' →
      (documentId ∈ docs.map Prod.fst →
        docs'.Perm (DocumentList.modify docs documentId fun d => d.merge data)) ∧
      (documentId ∉ docs.map Prod.fst → docs'.Perm ((documentId, Fields.ofList data) :: docs))
  delete : ∀ {docs docs' newId position collection documentId},
    database docs newId position (.delete collection documentId) = some docs' →
      docs'.Perm (DocumentList.delete docs documentId)

/-- A database that puts new documents where it has chosen. An id that is taken, a position behind
the end and an `update` of a missing document fail. -/
def writeDocs (updated : FieldUpdate) : Database
  | docs, newId, position, .add _ data =>
    if newId ∉ docs.map Prod.fst ∧ position ≤ docs.length then
      some (docs.insertIdx position (newId, Fields.ofList data))
    else none
  | docs, _, _, .update _ documentId updatedData =>
    if documentId ∈ docs.map Prod.fst then
      some (DocumentList.modify docs documentId fun d => updated d updatedData)
    else none
  | docs, _, position, .setMerge _ documentId data =>
    if documentId ∈ docs.map Prod.fst then
      some (DocumentList.modify docs documentId fun d => d.merge data)
    else if position ≤ docs.length then
      some (docs.insertIdx position (documentId, Fields.ofList data))
    else none
  | docs, _, _, .delete _ documentId => some (DocumentList.delete docs documentId)

theorem documented_writeDocs (updated : FieldUpdate) : Documented updated (writeDocs updated) where
  add hwrite := by
    simp only [writeDocs, Option.ite_none_right_eq_some, Option.some.injEq] at hwrite
    obtain ⟨⟨hid, hposition⟩, rfl⟩ := hwrite
    exact ⟨hid, List.perm_insertIdx _ _ hposition⟩
  update hwrite := by
    simp only [writeDocs, Option.ite_none_right_eq_some, Option.some.injEq] at hwrite
    obtain ⟨-, rfl⟩ := hwrite
    exact .refl _
  setMerge hwrite := by
    constructor <;> intro hid
    · rw [writeDocs, if_pos hid] at hwrite
      obtain rfl := Option.some.inj hwrite
      exact .refl _
    · rw [writeDocs, if_neg hid, Option.ite_none_right_eq_some] at hwrite
      obtain ⟨hposition, hwrite⟩ := hwrite
      obtain rfl := Option.some.inj hwrite
      exact List.perm_insertIdx _ _ hposition
  delete hwrite := by
    obtain rfl := Option.some.inj hwrite
    exact .refl _

/-- The documents of every collection, and the outstanding calls, oldest first. -/
structure State where
  store : String → Docs
  calls : List Call

/-- There are no documents. -/
def State.initial : State := { store := fun _ => [], calls := [] }

/-- What can happen next: a call is made, or an outstanding one completes. -/
inductive Event where
  | call (c : Call)
  | completed (i : ℕ) (newId : String) (position : ℕ) (outcome : Except String Unit)

/-- One step. The controllers catch what the database throws. -/
def step (database : Database) (s : State) : Event → Option State
  | .call c => some { s with calls := s.calls ++ [c] }
  | .completed i newId position outcome =>
    (Outstanding.complete s.calls i).bind fun call =>
      let w := call.1.write
      match outcome with
      | .ok () =>
        (database (s.store w.collection) newId position w).map fun docs =>
          { store := Function.update s.store w.collection docs, calls := call.2 }
      | .error _ => some { s with calls := call.2 }

/-! ### The completed calls -/

/-- A completed call, with the id that the database has made for it. -/
structure Completion where
  call : Call
  newId : String
  outcome : Except String Unit

/-- The call that a step completes. -/
def completed (s : State) : Event → List Completion
  | .call _ => []
  | .completed i newId _ outcome =>
    ((Outstanding.complete s.calls i).map fun call => ⟨call.1, newId, outcome⟩).toList

/-- The log of a run: the calls that complete in it, in the order of completion. -/
def logOf (database : Database) (es : List Event) : List Completion :=
  EventRun.outputs (step database) completed .initial es

/-- The documents of every collection, as functions of their ids. -/
abbrev Contents := String → String → Option Fields

/-- No documents. -/
def noDocuments : Contents := fun _ _ => none

/-- The documents of a collection after a call. -/
def applyWrite (updated : FieldUpdate) (c : String → Option Fields) (newId : String) :
    Write → String → Option Fields
  | .add _ data => Function.update c newId (some (Fields.ofList data))
  | .update _ documentId updatedData =>
    Function.update c documentId ((c documentId).map fun d => updated d updatedData)
  | .setMerge _ documentId data => Collection.setMerge c documentId data
  | .delete _ documentId => Function.update c documentId none

/-- A completed call changes a document of its collection, if it has not failed. -/
def applyCompletion (updated : FieldUpdate) (c : Contents) (e : Completion) : Contents :=
  let w := e.call.write
  match e.outcome with
  | .ok () => Function.update c w.collection (applyWrite updated (c w.collection) e.newId w)
  | .error _ => c

/-- The documents after the given calls. -/
def replay (updated : FieldUpdate) (log : List Completion) : Contents :=
  log.foldl (applyCompletion updated) noDocuments

/-- The calls that are made in a run. -/
def callsOf (es : List Event) : List Call :=
  es.filterMap fun
    | .call c => some c
    | .completed _ _ _ _ => none

/-- The completions of a run. -/
def completionsOf (es : List Event) : List (String × Except String Unit) :=
  es.filterMap fun
    | .call _ => none
    | .completed _ newId _ outcome => some (newId, outcome)

/-- The calls that have been made are those of the log and the outstanding ones, each once. The log
has the ids and the outcomes of the run in their order, and its replay gives the documents. -/
structure Replays (updated : FieldUpdate) (es : List Event) (s : State) (log : List Completion) :
    Prop where
  calls : (log.map Completion.call ++ s.calls).Perm (callsOf es)
  completions : log.map (fun e => (e.newId, e.outcome)) = completionsOf es
  store : ∀ collection, Represents (s.store collection) (replay updated log collection)

variable {updated : FieldUpdate} {database : Database}

theorem applyCompletion_ok (c : Contents) (call : Call) (newId : String) (u : Unit) :
    applyCompletion updated c ⟨call, newId, .ok u⟩ =
      Function.update c call.write.collection
        (applyWrite updated (c call.write.collection) newId call.write) := rfl

theorem replay_concat (log : List Completion) (e : Completion) :
    replay updated (log ++ [e]) = applyCompletion updated (replay updated log) e := by
  exact List.foldl_concat ..

theorem callsOf_append (es es' : List Event) : callsOf (es ++ es') = callsOf es ++ callsOf es' :=
  List.filterMap_append

theorem completionsOf_append (es es' : List Event) :
    completionsOf (es ++ es') = completionsOf es ++ completionsOf es' :=
  List.filterMap_append

theorem applyWrite_setMerge_of_some {c : String → Option Fields} {documentId : String} {d : Fields}
    (h : c documentId = some d) (newId collection : String) (data : List (String × Dyn)) :
    applyWrite updated c newId (.setMerge collection documentId data) =
      Function.update c documentId (some (d.merge data)) := by
  have hbase : Collection.base c documentId = d := Collection.base_of_some h
  exact congrArg (fun d : Fields => Function.update c documentId (some (d.merge data))) hbase

theorem applyWrite_setMerge_of_none {c : String → Option Fields} {documentId : String}
    (h : c documentId = none) (newId collection : String) (data : List (String × Dyn)) :
    applyWrite updated c newId (.setMerge collection documentId data) =
      Function.update c documentId (some (Fields.ofList data)) := by
  have hbase : Collection.base c documentId = Document.empty := Collection.base_of_none h
  exact congrArg (fun d : Fields => Function.update c documentId (some (d.merge data))) hbase

/-- The call of `updateUser` changes the profiles as `FirestoreService.updateUser` does. -/
theorem applyWrite_updateUser (profiles : Profiles) (newId : String) (userId : Uid)
    (p : UserProfile) : applyWrite updated profiles newId (updateUser userId p) =
      FirestoreService.updateUser profiles userId p (.ok ()) := rfl

/-- What a write makes of the documents represents what it makes of the function. -/
theorem represents_write (hdatabase : Documented updated database) {docs docs' : Docs}
    {c : String → Option Fields} (h : Represents docs c) {newId : String} {position : ℕ} {w : Write}
    (hwrite : database docs newId position w = some docs') :
    Represents docs' (applyWrite updated c newId w) := by
  cases w with
  | add collection data =>
    obtain ⟨hid, hperm⟩ := hdatabase.add hwrite
    exact (h.cons hid _).perm hperm
  | update collection documentId updatedData =>
    exact (h.modify documentId _).perm (hdatabase.update hwrite)
  | setMerge collection documentId data =>
    obtain ⟨hmerged, hcreated⟩ := hdatabase.setMerge hwrite
    by_cases hid : documentId ∈ docs.map Prod.fst
    · obtain ⟨d, hd⟩ := h.mem_ids_iff.mp hid
      have hmodify := h.modify documentId fun d => Document.merge d data
      rw [hd, Option.map_some, ← applyWrite_setMerge_of_some hd] at hmodify
      exact hmodify.perm (hmerged hid)
    · have hnone : c documentId = none :=
        Option.eq_none_iff_forall_not_mem.mpr fun d hd => hid (h.mem_ids_iff.mpr ⟨d, hd⟩)
      rw [applyWrite_setMerge_of_none hnone]
      exact (h.cons hid _).perm (hcreated hid)
  | delete collection documentId => exact (h.delete documentId).perm (hdatabase.delete hwrite)

/-- A step is an entry of the log or a new call. -/
theorem replays_step (hdatabase : Documented updated database) {past : List Event} {s t : State}
    {e : Event} {log : List Completion} (h : Replays updated past s log)
    (hstep : step database s e = some t) :
    Replays updated (past ++ [e]) t (log ++ completed s e) := by
  cases e with
  | call c =>
    obtain rfl := Option.some.inj hstep
    rw [completed, List.append_nil]
    refine ⟨?_, ?_, h.store⟩
    · rw [callsOf_append, ← List.append_assoc]
      exact h.calls.append_right [c]
    · rw [completionsOf_append, h.completions]
      exact (List.append_nil _).symm
  | completed i newId position outcome =>
    obtain ⟨⟨c, rest⟩, hcall, hstep⟩ := Option.bind_eq_some_iff.mp hstep
    have hcompleted : completed s (.completed i newId position outcome) =
        [⟨c, newId, outcome⟩] := by
      rw [completed, hcall]
      rfl
    rw [hcompleted]
    have hcalls : ((log ++ [Completion.mk c newId outcome]).map Completion.call ++ rest).Perm
        (callsOf (past ++ [.completed i newId position outcome])) := by
      rw [callsOf_append, List.map_append, List.append_assoc]
      refine List.Perm.trans ?_ ((List.append_nil (callsOf past)).symm ▸ h.calls)
      exact (Outstanding.perm_of_complete hcall).symm.append_left _
    have hcompletions : (log ++ [Completion.mk c newId outcome]).map
        (fun e => (e.newId, e.outcome)) =
          completionsOf (past ++ [.completed i newId position outcome]) := by
      rw [completionsOf_append, List.map_append, h.completions]
      rfl
    cases outcome with
    | ok _ =>
      obtain ⟨docs, hdocs, rfl⟩ := Option.map_eq_some_iff.mp hstep
      refine ⟨hcalls, hcompletions, fun collection => ?_⟩
      rw [replay_concat, applyCompletion_ok]
      change Represents (Function.update s.store c.write.collection docs collection) _
      by_cases hcollection : collection = c.write.collection
      · subst hcollection
        rw [Function.update_self, Function.update_self]
        exact represents_write hdatabase (h.store c.write.collection) hdocs
      · rw [Function.update_of_ne hcollection, Function.update_of_ne hcollection]
        exact h.store collection
    | error _ =>
      obtain rfl := Option.some.inj hstep
      refine ⟨hcalls, hcompletions, fun collection => ?_⟩
      rw [replay_concat]
      exact h.store collection

/-- The log of every run replays it. -/
theorem replays_of_run (hdatabase : Documented updated database) {es : List Event} {s : State}
    (hrun : EventRun.run (step database) .initial es = some s) :
    Replays updated es s (logOf database es) := by
  refine EventRun.invariant_past (I := fun past s => Replays updated past s (logOf database past))
    (fun past s e t hpast h hstep => ?_) ?_ hrun
  · rw [logOf, EventRun.outputs_concat hpast]
    exact replays_step hdatabase h hstep
  · exact ⟨.refl _, rfl, fun _ => DocumentList.represents_nil⟩

/-! ### What is read -/

/-- The home `id` of an owner. -/
def OwnedBy (c : Contents) (ownerId id : String) (d : Fields) : Prop :=
  c "homes" id = some d ∧ (d.field "owner").isStr ownerId = true

/-- The readers agree with the documents `c`. A failed query of the homes counts as none. -/
structure ReadsAgree (store : String → Docs) (c : Contents) : Prop where
  homesByOwner : ∀ ownerId, ∃ own : Homes, (own.map Prod.fst).Nodup ∧
    (∀ id d, (id, d) ∈ own ↔ OwnedBy c ownerId id d) ∧
    getHomesByOwner (queryOutcome (store "homes") ownerId none) =
      .ok (own.map fun doc => doc.2.merge [("homeId", .str doc.1)])
  homeCountByUser : ∀ userId, getHomeCountByUser (queryOutcome (store "homes") userId none) =
    {id | ∃ d, OwnedBy c userId id d}.ncard
  homeCount_eq : ∀ userId failure, ∃ homes : List Fields,
    getHomesByOwner (queryOutcome (store "homes") userId failure) = .ok homes ∧
      getHomeCountByUser (queryOutcome (store "homes") userId failure) = homes.length
  homesById : ∀ homeId, getHomesById (.ok (queryById (store "homes") homeId)) =
    (c "homes" homeId).toList
  profile : ∀ userId, getProfile (.ok (docGet (store "profiles") userId)) = c "profiles" userId
  userProfile : ∀ userId p, getUserProfile (.ok (docGet (store "profiles") userId)) = some p ↔
    UserProfile.fromFirestore (c "profiles" userId) = .ok p

theorem readsAgree_of_represents {store : String → Docs} {c : Contents}
    (h : ∀ collection, Represents (store collection) (c collection)) : ReadsAgree store c where
  homesByOwner ownerId := by
    refine ⟨queryByOwner (store "homes") ownerId,
      (h "homes").ids.sublist (List.filter_sublist.map Prod.fst), fun id d => ?_, rfl⟩
    rw [queryByOwner, List.mem_filter, (h "homes").mem_iff, OwnedBy]
  homeCountByUser userId := (h "homes").length_filter fun doc => (doc.2.field "owner").isStr userId
  homeCount_eq userId failure := by
    cases failure with
    | none => exact ⟨_, rfl, (List.length_map _).symm⟩
    | some text => exact ⟨[], rfl, rfl⟩
  homesById homeId := by
    rw [getHomesById, queryById, (h "homes").filter_id]
    cases c "homes" homeId <;> rfl
  profile userId := by
    rw [docGet, (h "profiles").lookup_eq]
    cases c "profiles" userId <;> rfl
  userProfile userId p := by
    rw [docGet, (h "profiles").lookup_eq]
    exact FirestoreService.getUser_ok_eq_some

/-- **What the controllers read.** On a database that behaves as documented, in every run of calls
of the writers, the calls that have been made are those of the log of the run and the outstanding
ones, each once; the log has the outcomes of the run, in their order; and every reader agrees with
the documents that the replay of the log gives. -/
theorem reads_of_run (hdatabase : Documented updated database) {es : List Event} {s : State}
    (hrun : EventRun.run (step database) .initial es = some s) :
    Replays updated es s (logOf database es) ∧
      ReadsAgree s.store (replay updated (logOf database es)) := by
  have h := replays_of_run hdatabase hrun
  exact ⟨h, readsAgree_of_represents h.store⟩

/-- Two homes are created, of which one is renamed and one is deleted. A user is added, adding
another one fails, and a profile is written. The calls complete in another order. -/
def mixedCalls : List Event :=
  [.call (.create "homes" [("name", .str "Home"), ("owner", .str "u1")]),
    .call (.create "homes" [("name", .str "Shop"), ("owner", .str "u1")]),
    .call (.addUser "Ann" "ann@lee.org"), .completed 1 "h2" 0 (.ok ()),
    .call (.updateUser "u1" FirestoreService.annLeeProfile), .completed 0 "h1" 0 (.ok ()),
    .call (.update "homes" "h1" [("name", .str "Villa")]), .call (.delete "homes" "h2"),
    .completed 3 "" 0 (.ok ()), .call (.addUser "Bo" "bo@lee.org"),
    .completed 3 "" 0 (.error "unavailable"), .completed 0 "a1" 0 (.ok ()),
    .completed 1 "" 0 (.ok ()), .completed 0 "" 0 (.ok ())]

/-- Their log. -/
def mixedLog : List Completion :=
  [⟨.create "homes" [("name", .str "Shop"), ("owner", .str "u1")], "h2", .ok ()⟩,
    ⟨.create "homes" [("name", .str "Home"), ("owner", .str "u1")], "h1", .ok ()⟩,
    ⟨.delete "homes" "h2", "", .ok ()⟩, ⟨.addUser "Bo" "bo@lee.org", "", .error "unavailable"⟩,
    ⟨.addUser "Ann" "ann@lee.org", "a1", .ok ()⟩,
    ⟨.update "homes" "h1" [("name", .str "Villa")], "", .ok ()⟩,
    ⟨.updateUser "u1" FirestoreService.annLeeProfile, "", .ok ()⟩]

/-- The home that is left. -/
def villa : Fields :=
  (Fields.ofList [("name", .str "Home"), ("owner", .str "u1")]).merge [("name", .str "Villa")]

theorem log_mixedCalls : logOf (writeDocs Document.merge) mixedCalls = mixedLog := rfl

theorem reads_mixedCalls : ∃ s,
    EventRun.run (step (writeDocs Document.merge)) .initial mixedCalls = some s ∧
      Replays Document.merge mixedCalls s mixedLog ∧
      ReadsAgree s.store (replay Document.merge mixedLog) ∧
      replay Document.merge mixedLog "homes" "h1" = some villa ∧
      replay Document.merge mixedLog "homes" "h2" = none ∧
      getHomesByOwner (queryOutcome (s.store "homes") "u1" none) =
        .ok [villa.merge [("homeId", .str "h1")]] ∧
      getHomeCountByUser (queryOutcome (s.store "homes") "u1" none) = 1 ∧
      getProfile (.ok (docGet (s.store "profiles") "u1")) =
        some (Fields.ofList FirestoreService.annLeeProfile.toMap) := by
  obtain ⟨s, hs⟩ : ∃ s,
      EventRun.run (step (writeDocs Document.merge)) .initial mixedCalls = some s := ⟨_, rfl⟩
  obtain ⟨hreplays, hreads⟩ := reads_of_run (documented_writeDocs Document.merge) hs
  rw [log_mixedCalls] at hreplays hreads
  refine ⟨s, hs, hreplays, hreads, rfl, rfl, ?_⟩
  obtain rfl := Option.some.inj hs
  exact ⟨rfl, rfl, rfl⟩

/-! ### The users -/

/-- The user that a document of `users` decodes to. -/
def decodeUser (doc : String × Fields) : Option User := (User.fromFirestore (some doc.2)).toOption

/-- The user that a write adds. -/
def userOf : Write → Option User
  | .add collection data =>
    if collection = "users" then decodeUser ("", Fields.ofList data) else none
  | _ => none

/-- The user that a completed call has added. -/
def Completion.added (e : Completion) : Option User :=
  match e.outcome with
  | .ok () => userOf e.call.write
  | .error _ => none

/-- A call that writes to `users` adds a user. -/
def OnlyAddsUsers (c : Call) : Prop :=
  c.write.collection = "users" → ∃ name email, c.write = addUser name email

theorem fromFirestore_userData (name email : String) :
    User.fromFirestore (some (Fields.ofList (userData name email))) = .ok ⟨name, email⟩ := rfl

theorem decodeUser_userData (id name email : String) :
    decodeUser (id, Fields.ofList (userData name email)) = some ⟨name, email⟩ := rfl

theorem userOf_of_ne {w : Write} (h : w.collection ≠ "users") : userOf w = none := by
  cases w with
  | add collection data => exact if_neg h
  | update => rfl
  | setMerge => rfl
  | delete => rfl

/-- Documents that all decode are shown. -/
theorem getUsers_of_decodes {docs : Docs}
    (h : ∀ doc ∈ docs, ∃ u, User.fromFirestore (some doc.2) = .ok u) :
    getUsers docs = .ok (docs.filterMap decodeUser) := by
  induction docs with
  | nil => rfl
  | cons doc docs ih =>
    obtain ⟨u, hu⟩ := h doc List.mem_cons_self
    have hrest := ih fun doc' hdoc' => h doc' (List.mem_cons_of_mem _ hdoc')
    have hdecode : decodeUser doc = some u := by rw [decodeUser, hu]; rfl
    rw [getUsers] at hrest ⊢
    rw [List.mapM_cons, hu, ok_bind, hrest, ok_bind, List.filterMap_cons_some hdecode]
    rfl

/-- The documents decode to the users that the log has added. -/
structure UsersShown (docs : Docs) (log : List Completion) : Prop where
  decodes : ∀ doc ∈ docs, ∃ u, User.fromFirestore (some doc.2) = .ok u
  users : (docs.filterMap decodeUser).Perm (log.filterMap Completion.added)

namespace UsersShown

variable {docs : Docs} {log : List Completion}

/-- A call that adds a user completes. -/
theorem add (h : UsersShown docs log) {docs' : Docs} {newId name email : String}
    (hdocs : docs'.Perm ((newId, Fields.ofList (userData name email)) :: docs)) {e : Completion}
    (he : e.added = some ⟨name, email⟩) : UsersShown docs' (log ++ [e]) where
  decodes doc hdoc := by
    rcases List.mem_cons.mp (hdocs.mem_iff.mp hdoc) with rfl | hdoc
    · exact ⟨_, fromFirestore_userData name email⟩
    · exact h.decodes doc hdoc
  users := by
    have hshown := hdocs.filterMap decodeUser
    rw [List.filterMap_cons_some (decodeUser_userData newId name email)] at hshown
    rw [List.filterMap_append, List.filterMap_cons_some he, List.filterMap_nil]
    exact (hshown.trans (h.users.cons _)).trans (List.perm_append_singleton ..).symm

/-- A call for another collection completes, or a call fails. -/
theorem skip (h : UsersShown docs log) {e : Completion} (he : e.added = none) :
    UsersShown docs (log ++ [e]) where
  decodes := h.decodes
  users := by
    rw [List.filterMap_append, List.filterMap_cons_none he, List.filterMap_nil, List.append_nil]
    exact h.users

end UsersShown

/-- If the calls so far write to `users` only to add users, the users are shown. -/
def UsersInv (database : Database) (past : List Event) (s : State) : Prop :=
  (∀ c ∈ callsOf past, OnlyAddsUsers c) → UsersShown (s.store "users") (logOf database past)

theorem usersInv_step (hdatabase : Documented updated database) {past : List Event} {s t : State}
    {e : Event} (hpast : EventRun.run (step database) .initial past = some s)
    (h : UsersInv database past s) (hstep : step database s e = some t) :
    UsersInv database (past ++ [e]) t := by
  intro honly
  rw [callsOf_append] at honly
  have hbefore : ∀ c ∈ callsOf past, OnlyAddsUsers c :=
    fun c hc => honly c (List.mem_append_left _ hc)
  have h := h hbefore
  rw [logOf, EventRun.outputs_concat hpast]
  cases e with
  | call c =>
    obtain rfl := Option.some.inj hstep
    rw [completed, List.append_nil]
    exact h
  | completed i newId position outcome =>
    obtain ⟨⟨c, rest⟩, hcall, hstep⟩ := Option.bind_eq_some_iff.mp hstep
    rw [completed, hcall]
    cases outcome with
    | ok _ =>
      obtain ⟨docs, hdocs, rfl⟩ := Option.map_eq_some_iff.mp hstep
      change UsersShown (Function.update s.store c.write.collection docs "users") _
      by_cases hcollection : c.write.collection = "users"
      · -- the call is one of those that have been made
        have hmem : c ∈ callsOf past := (replays_of_run hdatabase hpast).calls.mem_iff.mp
          (List.mem_append_right _ ((Outstanding.mem_iff_of_complete hcall).mpr (.inl rfl)))
        obtain ⟨name, email, hwrite⟩ := hbefore c hmem hcollection
        rw [hwrite] at hdocs ⊢
        refine h.add (hdatabase.add hdocs).2 ?_
        rw [Completion.added, hwrite]
        rfl
      · rw [Function.update_of_ne (Ne.symm hcollection)]
        exact h.skip (userOf_of_ne hcollection)
    | error _ =>
      obtain rfl := Option.some.inj hstep
      exact h.skip rfl

/-- **The users that are shown.** On a database that behaves as documented, in every run in which
`users` is written by `addUser` alone, the stream of users never fails, and the users that it shows
are those of the calls of `addUser` that have succeeded, each as often as it was added. -/
theorem users_of_run (hdatabase : Documented updated database) {es : List Event} {s : State}
    (hrun : EventRun.run (step database) .initial es = some s)
    (honly : ∀ c ∈ callsOf es, c.write.collection = "users" →
      ∃ name email, c.write = addUser name email) :
    ∃ users, getUsers (s.store "users") = .ok users ∧
      users.Perm ((logOf database es).filterMap Completion.added) ∧
      Replays updated es s (logOf database es) := by
  have hinv : UsersInv database es s :=
    EventRun.invariant_past (I := UsersInv database)
      (fun _ _ _ _ hpast => usersInv_step hdatabase hpast)
      (fun _ => ⟨by rintro _ ⟨⟩, .refl _⟩) hrun
  have h := hinv honly
  exact ⟨_, getUsers_of_decodes h.decodes, h.users, replays_of_run hdatabase hrun⟩

/-- Only the user whose call has succeeded is shown. -/
theorem users_mixedCalls : ∃ s,
    EventRun.run (step (writeDocs Document.merge)) .initial mixedCalls = some s ∧
      Replays Document.merge mixedCalls s mixedLog ∧
      getUsers (s.store "users") = .ok [⟨"Ann", "ann@lee.org"⟩] := by
  obtain ⟨s, hs⟩ : ∃ s,
      EventRun.run (step (writeDocs Document.merge)) .initial mixedCalls = some s := ⟨_, rfl⟩
  have honly : ∀ c ∈ callsOf mixedCalls, OnlyAddsUsers c := by
    simp only [mixedCalls, callsOf, List.filterMap_cons, List.filterMap_nil, List.forall_mem_cons]
    refine ⟨?_, ?_, fun _ => ⟨_, _, rfl⟩, ?_, ?_, ?_, fun _ => ⟨_, _, rfl⟩, by rintro _ ⟨⟩⟩ <;>
      exact fun h => absurd h (by decide)
  obtain ⟨users, husers, hperm, hreplays⟩ :=
    users_of_run (documented_writeDocs Document.merge) hs honly
  rw [log_mixedCalls] at hperm hreplays
  obtain rfl := List.perm_singleton.mp (hperm : users.Perm [⟨"Ann", "ann@lee.org"⟩])
  exact ⟨s, hs, hreplays, husers⟩

end SmartHome.Controllers
