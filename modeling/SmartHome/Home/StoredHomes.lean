import SmartHome.Controllers
import SmartHome.Home.Lifecycle

/-!
# The homes on the database

`_createHome` stores a home by a call of `FireBaseController.create` for the collection `homes`.
The homes and the outstanding calls of a run of the app are therefore those of a run of the
database, and what the controllers read there is said in terms of the homes.

## Main definitions

* `StoredHomes.createCall` : the call that stores the home of a record.
* `StoredHomes.OnDatabase` : the homes and the creations of `Ownership` on the database.

## Main results

* `StoredHomes.simulates_database` : the steps of `Ownership` are matched by those of the database.
* `StoredHomes.stored_of_run` : the homes of a run of the app as the controllers read them.
-/

namespace SmartHome.StoredHomes

open Dart
open Controllers (Call FieldUpdate getHomeCountByUser getHomesById queryById writeDocs)
open FormCreate (HomeRecord)
open HomeList (queryOutcome)
open Ownership (Home Owned)

/-- The call of `_createHome` for a record. -/
def createCall (doubleText : ℚ → String) (r : HomeRecord) : Call :=
  .create "homes" (Ownership.data doubleText r)

/-- The homes are the documents of `homes`, and the creations are the outstanding calls. -/
structure OnDatabase (doubleText : ℚ → String) (o : Ownership.State) (d : Controllers.State) :
    Prop where
  homes : d.store "homes" = Ownership.docs o.homes
  calls : d.calls = o.creations.map fun c => createCall doubleText c.record

variable {updated : FieldUpdate} {ofDegrees : ℚ → ℚ → LatLng} {doubleText : ℚ → String}
  {assets : ThaiAddress.Assets}

theorem onDatabase_initial : OnDatabase doubleText .initial .initial := ⟨rfl, rfl⟩

/-- A home that is added at the end. -/
theorem docs_concat (homes : List Home) (home : Home) :
    Ownership.docs (homes ++ [home]) =
      (Ownership.docs homes).insertIdx (Ownership.docs homes).length (home.id, home.fields) := by
  rw [List.insertIdx_length_self]
  exact List.map_append

theorem map_fst_docs (homes : List Home) :
    (Ownership.docs homes).map Prod.fst = homes.map Home.id := by
  rw [Ownership.docs, List.map_map]
  rfl

variable (updated doubleText) in
/-- A call of `create` for `homes`, under a new id. -/
theorem writeDocs_createCall {homes : List Home} {id : String} (hid : id ∉ homes.map Home.id)
    (creator : Uid) (r : HomeRecord) :
    writeDocs updated (Ownership.docs homes) id (Ownership.docs homes).length
      (createCall doubleText r).write = some (Ownership.docs (homes ++
        [⟨id, creator, Fields.ofList (Ownership.data doubleText r)⟩])) := by
  rw [docs_concat]
  exact if_pos ⟨(map_fst_docs homes).symm ▸ hid, Nat.le_refl _⟩

/-- A step of `Ownership` is matched by at most one step of the database. -/
theorem simulates_database : EventRun.Simulates (Ownership.step doubleText)
    (Controllers.step (writeDocs updated)) (fun _ _ => True) (OnDatabase doubleText) := by
  intro o e o' d h _ hstep
  have hsame {o'' : Ownership.State} (hhomes : o''.homes = o.homes)
      (hcreations : o''.creations = o.creations) :
      ∃ es d', EventRun.run (Controllers.step (writeDocs updated)) d es = some d' ∧
        OnDatabase doubleText o'' d' :=
    ⟨[], d, rfl, hhomes.symm ▸ h.homes, hcreations.symm ▸ h.calls⟩
  cases e with
  | signIn uid =>
    obtain rfl := Option.some.inj hstep
    exact hsame rfl rfl
  | signOut =>
    obtain rfl := Option.some.inj hstep
    exact hsame rfl rfl
  | openList =>
    obtain rfl := Option.some.inj hstep
    exact hsame rfl rfl
  | queried i failure =>
    obtain ⟨list, -, hstep⟩ := Option.bind_eq_some_iff.mp hstep
    simp only [Option.ite_none_right_eq_some, Option.some.injEq] at hstep
    obtain ⟨-, rfl⟩ := hstep
    exact hsame rfl rfl
  | create record =>
    obtain ⟨uid, -, hstep⟩ := Option.bind_eq_some_iff.mp hstep
    simp only [Option.ite_none_right_eq_some, Option.some.injEq] at hstep
    obtain ⟨-, rfl⟩ := hstep
    refine ⟨[.call (createCall doubleText record)], _, rfl, h.homes, ?_⟩
    rw [h.calls, List.map_append]
    rfl
  | stored i id outcome =>
    obtain ⟨⟨c, rest⟩, hcall, hstep⟩ := Option.bind_eq_some_iff.mp hstep
    have hcomplete := Outstanding.complete_map (fun c => createCall doubleText c.record) hcall
    rw [← h.calls] at hcomplete
    cases outcome with
    | ok _ =>
      simp only [Option.ite_none_left_eq_some, Option.some.injEq] at hstep
      obtain ⟨hid, rfl⟩ := hstep
      have hwrite := writeDocs_createCall updated doubleText hid c.creator c.record
      rw [← h.homes] at hwrite
      generalize hdocs : Ownership.docs (o.homes ++
        [⟨id, c.creator, Fields.ofList (Ownership.data doubleText c.record)⟩]) = docs at hwrite
      have hstored : Controllers.step (writeDocs updated) d
          (.completed i id (d.store "homes").length (.ok ())) =
          some { store := Function.update d.store "homes" docs
                 calls := rest.map fun c => createCall doubleText c.record } := by
        rw [Controllers.step, hcomplete, Option.bind_some]
        exact Option.map_eq_some_iff.mpr ⟨_, hwrite, rfl⟩
      have hself : Function.update d.store "homes" docs "homes" = docs := Function.update_self ..
      exact ⟨[_], _, EventRun.run_cons_eq_some.mpr ⟨_, hstored, rfl⟩, hself.trans hdocs.symm, rfl⟩
    | error text =>
      obtain rfl := Option.some.inj hstep
      have hfailed : Controllers.step (writeDocs updated) d (.completed i id 0 (.error text)) =
          some { d with calls := rest.map fun c => createCall doubleText c.record } := by
        rw [Controllers.step, hcomplete, Option.bind_some]
      exact ⟨[_], _, EventRun.run_cons_eq_some.mpr ⟨_, hfailed, rfl⟩, h.homes, rfl⟩

/-! ### The homes that are read -/

/-- What the controllers read of the homes. -/
structure HomesRead (homes : List Home) (d : Controllers.State) : Prop where
  store : d.store "homes" = Ownership.docs homes
  count : ∀ uid, getHomeCountByUser (queryOutcome (d.store "homes") uid none) =
    homes.countP fun home => home.creator = uid
  byId : ∀ home ∈ homes, getHomesById (.ok (queryById (d.store "homes") home.id)) = [home.fields]

theorem homesRead_of_owned {homes : List Home} {d : Controllers.State} (h : Owned homes)
    (hstore : d.store "homes" = Ownership.docs homes) {c : String → Option Fields}
    (hrep : DocumentList.Represents (d.store "homes") c) : HomesRead homes d where
  store := hstore
  count uid := by
    rw [hstore, queryOutcome, Option.elim_none, Ownership.queryByOwner_docs h, getHomeCountByUser,
      Ownership.docs, List.length_map, List.countP_eq_length_filter]
  byId home hhome := by
    have hmem : (home.id, home.fields) ∈ d.store "homes" := hstore ▸ List.mem_map_of_mem hhome
    rw [getHomesById, queryById, hrep.filter_id, hrep.mem_iff.mp hmem]
    rfl

/-- **The homes on the database.** Every run of the app in which no account is called `null` is
matched by a run of a database that behaves as documented. The documents of `homes` are the homes of
the app, the calls of the forms are outstanding there, and the controllers count the homes of each
account and find each home under its id. -/
theorem stored_of_run {es : List HomeLifecycle.Event} {s : HomeLifecycle.State}
    (hnull : ∀ e ∈ es, e ≠ .authStateChanged (some "null"))
    (hrun : EventRun.run (HomeLifecycle.step ofDegrees doubleText assets) .initial es = some s) :
    ∃ es' d, EventRun.run (Controllers.step (writeDocs updated)) .initial es' = some d ∧
      d.calls.Perm (s.forms.flatMap fun v => v.form.calls.map (createCall doubleText)) ∧
      HomesRead s.homes d := by
  obtain ⟨es', o, ho, hmatches, hinv⟩ := HomeLifecycle.simulates.run
    ⟨HomeLifecycle.matches_initial, Ownership.inv_initial⟩ (EventRun.meets_of_forall hnull) hrun
  obtain ⟨es'', d, hd, hdatabase⟩ := simulates_database.run onDatabase_initial
    (EventRun.meets_of_forall (D := fun _ => True) fun _ _ => trivial) ho
  have hlog := Controllers.replays_of_run (Controllers.documented_writeDocs updated) hd
  have hstore : d.store "homes" = Ownership.docs s.homes := hmatches.homes ▸ hdatabase.homes
  have howned : Owned s.homes := hmatches.homes ▸ hinv.homes
  refine ⟨es'', d, hd, ?_, homesRead_of_owned howned hstore (hlog.store "homes")⟩
  rw [hdatabase.calls]
  have hperm := hmatches.outstanding.map fun c => createCall doubleText c.record
  rw [HomeLifecycle.creations, List.map_flatMap] at hperm
  simp only [List.map_map] at hperm
  exact hperm

/-- The database reaches the home of that run. -/
theorem stored_createAndList : ∃ es d,
    EventRun.run (Controllers.step (writeDocs Document.merge)) .initial es = some d ∧
      d.calls.Perm (HomeLifecycle.listed.forms.flatMap fun v =>
        v.form.calls.map (createCall fun _ => "0.0")) ∧
      HomesRead [HomeLifecycle.parkHome] d :=
  stored_of_run HomeLifecycle.not_null_createAndList HomeLifecycle.run_createAndList

end SmartHome.StoredHomes
