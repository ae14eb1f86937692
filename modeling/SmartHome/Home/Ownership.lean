import Mathlib.Data.List.Nodup
import SmartHome.Home.HomeList
import SmartHome.Home.Records
import SmartHome.Lib.Parts
import SmartHome.Lib.Utf16

/-!
# Whose homes a list shows

A home carries the account that was signed in when Create was tapped, whatever happens to the
session until the home is stored. A list asks for the homes of the account that was signed in when
it was opened; without one it asks for the owner `null`, which is the text of the missing user.

## Main definitions

* `Ownership.data` : the document of a record.
* `Ownership.State`, `Ownership.step` : the session, the homes, and the lists that have been opened.
* `Ownership.ShowsOwn` : a list shows the homes of its user.

## Main results

* `Ownership.showsOwn_of_run` : every list whose query succeeds shows the homes of its user.
* `Ownership.isSome_step_of_passed` : the records that a form passes on are those taken here.
-/

namespace SmartHome.Ownership

open Dart
open FormCreate (HomeRecord)
open HomeList (Body Homes build getHomesByOwner queryByOwner queryOutcome)

/-! ### Documents -/

/-- The string that is stored for a text. -/
def storedText (text : List UInt16) : Dyn := .str (String.ofList (Utf16.toChars text))

/-- A value that may be missing. -/
def nullable {α : Type} (f : α → Dyn) (v : Option α) : Dyn := v.elim .null f

/-- The data that `_createHome` passes to `FireBaseController.create`, for the texts of doubles. -/
def data (doubleText : ℚ → String) (r : HomeRecord) : List (String × Dyn) :=
  [("name", storedText r.name), ("address", storedText r.address),
    ("province", nullable .str r.province), ("district", nullable .str r.district),
    ("subDistrict", nullable .str r.subDistrict), ("postalCode", nullable .str r.postalCode),
    ("latitude", nullable (fun z => .double (doubleText z)) r.latitude),
    ("longitude", nullable (fun z => .double (doubleText z)) r.longitude), ("owner", .str r.owner)]

/-! ### Sessions, homes and lists -/

/-- A document of `homes`, with the account that was signed in when its creation was tapped. -/
structure Home where
  id : String
  creator : Uid
  fields : Fields

/-- A call of `add` that is outstanding, with the account that was signed in at the tap. -/
structure Creation where
  creator : Uid
  record : HomeRecord

/-- The reply to a query: the homes at that time, and the exception if it failed. -/
structure Reply where
  homes : List Home
  failure : Option String

/-- A `HomeListScreen`, with the user that it found when it was opened. -/
structure ListScreen where
  user : Option Uid
  reply : Option Reply

/-- `userId.toString()`. -/
def userIdText (user : Option Uid) : String := user.getD "null"

/-- The collection as a query sees it. -/
def docs (homes : List Home) : Homes := homes.map fun home => (home.id, home.fields)

/-- What the list shows. -/
def ListScreen.body (list : ListScreen) : Body :=
  build (list.reply.map fun reply =>
    getHomesByOwner (queryOutcome (docs reply.homes) (userIdText list.user) reply.failure))

/-- The account that is signed in, the stored homes, the outstanding creations, and the lists that
have been opened, oldest first. -/
structure State where
  user : Option Uid
  homes : List Home
  creations : List Creation
  lists : List ListScreen

/-- Nobody is signed in, and there are no homes. -/
def State.initial : State := { user := none, homes := [], creations := [], lists := [] }

/-- What can happen next: a form passes on a record, a call of `add` completes under a new id or
throws, and a query is answered. -/
inductive Event where
  | signIn (uid : Uid)
  | signOut
  | create (record : HomeRecord)
  | stored (i : ℕ) (id : String) (outcome : Except String Unit)
  | openList
  | queried (i : ℕ) (failure : Option String)

/-- One step. `_createHome` has found the user who is signed in. -/
def step (doubleText : ℚ → String) (s : State) : Event → Option State
  | .signIn uid => some { s with user := some uid }
  | .signOut => some { s with user := none }
  | .create record =>
    s.user.bind fun uid =>
      if record.owner = uid then some { s with creations := s.creations ++ [⟨uid, record⟩] }
      else none
  | .stored i id outcome =>
    (Outstanding.complete s.creations i).bind fun call =>
      match outcome with
      | .ok () =>
        if id ∈ s.homes.map Home.id then none
        else some { s with
          creations := call.2
          homes := s.homes ++
            [⟨id, call.1.creator, Fields.ofList (data doubleText call.1.record)⟩] }
      | .error _ => some { s with creations := call.2 }
  | .openList => some { s with lists := s.lists ++ [⟨s.user, none⟩] }
  | .queried i failure =>
    s.lists[i]?.bind fun list =>
      if list.reply.isNone then
        some { s with lists := s.lists.set i { list with reply := some ⟨s.homes, failure⟩ } }
      else none

/-! ### The invariant -/

/-- The homes carry the accounts that created them, under different ids. -/
structure Owned (homes : List Home) : Prop where
  ids : (homes.map Home.id).Nodup
  owner : ∀ home ∈ homes, home.fields "owner" = some (.str home.creator)
  account : ∀ home ∈ homes, home.creator ≠ "null"

/-- The invariant of runs in which no account is called `null`. -/
structure Inv (s : State) : Prop where
  user : s.user ≠ some "null"
  homes : Owned s.homes
  creations : ∀ c ∈ s.creations, c.record.owner = c.creator ∧ c.creator ≠ "null"
  lists : ∀ list ∈ s.lists, list.user ≠ some "null" ∧
    ∀ reply, list.reply = some reply → Owned reply.homes

variable {doubleText : ℚ → String}

theorem inv_initial : Inv .initial where
  user := by rintro ⟨⟩
  homes := ⟨List.nodup_nil, by rintro _ ⟨⟩, by rintro _ ⟨⟩⟩
  creations := by rintro _ ⟨⟩
  lists := by rintro _ ⟨⟩

theorem data_owner (doubleText : ℚ → String) (r : HomeRecord) :
    Fields.ofList (data doubleText r) "owner" = some (.str r.owner) :=
  Document.merge_of_lookup rfl

/-- A home that is stored carries its creator. -/
theorem Owned.store {homes : List Home} (h : Owned homes) {id : String} {c : Creation}
    (hid : id ∉ homes.map Home.id) (howner : c.record.owner = c.creator)
    (haccount : c.creator ≠ "null") :
    Owned (homes ++ [⟨id, c.creator, Fields.ofList (data doubleText c.record)⟩]) where
  ids := by
    rw [List.map_append, List.map_singleton]
    refine List.nodup_append.mpr ⟨h.ids, List.nodup_singleton id, fun id' hid' id'' hid'' => ?_⟩
    obtain rfl := List.mem_singleton.mp hid''
    exact fun heq => hid (heq ▸ hid')
  owner := by
    intro home hhome
    rcases List.mem_append.mp hhome with hhome | hhome
    · exact h.owner home hhome
    · obtain rfl := List.mem_singleton.mp hhome
      exact howner ▸ data_owner doubleText c.record
  account := by
    intro home hhome
    rcases List.mem_append.mp hhome with hhome | hhome
    · exact h.account home hhome
    · obtain rfl := List.mem_singleton.mp hhome
      exact haccount

/-- A step that signs nobody in as `null` keeps the invariant. -/
theorem inv_step {s t : State} {e : Event} (h : Inv s) (he : e ≠ .signIn "null")
    (hstep : step doubleText s e = some t) : Inv t := by
  cases e with
  | signIn uid =>
    obtain rfl := Option.some.inj hstep
    exact ⟨fun huid => he (by rw [Option.some.inj huid]), h.homes, h.creations, h.lists⟩
  | signOut =>
    obtain rfl := Option.some.inj hstep
    exact ⟨by rintro ⟨⟩, h.homes, h.creations, h.lists⟩
  | create record =>
    obtain ⟨uid, huid, hstep⟩ := Option.bind_eq_some_iff.mp hstep
    simp only [Option.ite_none_right_eq_some, Option.some.injEq] at hstep
    obtain ⟨howner, rfl⟩ := hstep
    refine ⟨h.user, h.homes, fun c hc => ?_, h.lists⟩
    rcases List.mem_append.mp hc with hc | hc
    · exact h.creations c hc
    · obtain rfl := List.mem_singleton.mp hc
      exact ⟨howner, fun hnull => h.user (huid.trans (congrArg some hnull))⟩
  | stored i id outcome =>
    obtain ⟨⟨c, rest⟩, hcall, hstep⟩ := Option.bind_eq_some_iff.mp hstep
    have hrest : ∀ c' ∈ rest, c'.record.owner = c'.creator ∧ c'.creator ≠ "null" := fun c' hc' =>
      h.creations c' ((Outstanding.mem_iff_of_complete hcall).mpr (.inr hc'))
    cases outcome with
    | ok _ =>
      simp only [Option.ite_none_left_eq_some, Option.some.injEq] at hstep
      obtain ⟨hid, rfl⟩ := hstep
      obtain ⟨howner, haccount⟩ :=
        h.creations c ((Outstanding.mem_iff_of_complete hcall).mpr (.inl rfl))
      exact ⟨h.user, h.homes.store hid howner haccount, hrest, h.lists⟩
    | error _ =>
      obtain rfl := Option.some.inj hstep
      exact ⟨h.user, h.homes, hrest, h.lists⟩
  | openList =>
    obtain rfl := Option.some.inj hstep
    refine ⟨h.user, h.homes, h.creations, fun list hlist => ?_⟩
    rcases List.mem_append.mp hlist with hlist | hlist
    · exact h.lists list hlist
    · obtain rfl := List.mem_singleton.mp hlist
      exact ⟨h.user, by rintro _ ⟨⟩⟩
  | queried i failure =>
    obtain ⟨list, hlist, hstep⟩ := Option.bind_eq_some_iff.mp hstep
    simp only [Option.ite_none_right_eq_some, Option.some.injEq] at hstep
    obtain ⟨-, rfl⟩ := hstep
    refine ⟨h.user, h.homes, h.creations, fun list' hlist' => ?_⟩
    rcases List.mem_or_eq_of_mem_set hlist' with hlist' | rfl
    · exact h.lists list' hlist'
    · refine ⟨(h.lists list (List.mem_of_getElem? hlist)).1, fun reply hreply => ?_⟩
      exact Option.some.inj hreply ▸ h.homes

/-! ### What a list shows -/

/-- A home as the list holds it. -/
def withId (home : Home) : Fields := home.fields.merge [("homeId", .str home.id)]

/-- The list of a user, of the homes that were stored when its query was answered, shows those that
were created under the user, each once and with its id. Without a user it shows none. -/
def ShowsOwn (list : ListScreen) (homes : List Home) : Prop :=
  match list.user with
  | none => list.body = .noHomes
  | some uid => ∃ own : List Home, (own.map Home.id).Nodup ∧
      (∀ home, home ∈ own ↔ home ∈ homes ∧ home.creator = uid) ∧
      list.body = build (some (.ok (own.map withId))) ∧
      ∀ home ∈ own, (withId home).field "homeId" = .str home.id

theorem homeId_withId (home : Home) : (withId home).field "homeId" = .str home.id :=
  Fields.field_of_some (Document.merge_of_lookup rfl)

/-- The query finds the homes with the given creator. -/
theorem queryByOwner_docs {homes : List Home} (h : Owned homes) (ownerId : String) :
    queryByOwner (docs homes) ownerId = docs (homes.filter fun home => home.creator = ownerId) := by
  rw [queryByOwner, docs, List.filter_map, docs]
  refine congrArg _ (List.filter_congr fun home hhome => ?_)
  have howner : home.fields.field "owner" = .str home.creator :=
    Fields.field_of_some (h.owner home hhome)
  rw [Function.comp_apply, howner]
  rfl

theorem body_of_reply {list : ListScreen} {homes : List Home} (h : Owned homes)
    (hreply : list.reply = some ⟨homes, none⟩) :
    list.body = build (some (.ok ((homes.filter fun home =>
      home.creator = userIdText list.user).map withId))) := by
  rw [ListScreen.body, hreply, Option.map_some, queryOutcome, Option.elim_none,
    queryByOwner_docs h, getHomesByOwner, docs, List.map_map]
  rfl

theorem showsOwn_of_reply {list : ListScreen} {homes : List Home} (h : Owned homes)
    (hreply : list.reply = some ⟨homes, none⟩) : ShowsOwn list homes := by
  have hbody := body_of_reply h hreply
  unfold ShowsOwn
  cases huser : list.user with
  | none =>
    have hempty : (homes.filter fun home => home.creator = userIdText none) = [] :=
      List.filter_eq_nil_iff.mpr fun home hhome hnull =>
        h.account home hhome (of_decide_eq_true hnull)
    rw [huser, hempty] at hbody
    exact hbody
  | some uid =>
    rw [huser] at hbody
    refine ⟨_, h.ids.sublist (List.filter_sublist.map Home.id), fun home => ?_, hbody,
      fun home _ => homeId_withId home⟩
    rw [List.mem_filter, decide_eq_true_eq]
    rfl

/-- The query of the list `i` was answered in a run, while the homes of the reply were stored. -/
def AnsweredIn (doubleText : ℚ → String) (es : List Event) (i : ℕ) (reply : Reply) : Prop :=
  EventRun.Occurred (step doubleText)
    (fun s e => e = .queried i reply.failure ∧ s.homes = reply.homes) .initial es

/-- The replies are those that the lists were given. -/
def Answered (doubleText : ℚ → String) (es : List Event) (s : State) : Prop :=
  ∀ i list reply, s.lists[i]? = some list → list.reply = some reply →
    AnsweredIn doubleText es i reply

theorem answered_step {past : List Event} {s t : State} {e : Event}
    (hpast : EventRun.run (step doubleText) .initial past = some s) (h : Answered doubleText past s)
    (hstep : step doubleText s e = some t) : Answered doubleText (past ++ [e]) t := by
  have hsame {t' : State} (hlists : t'.lists = s.lists) :
      Answered doubleText (past ++ [e]) t' := by
    intro i list reply hlist hreply
    exact (h i list reply (hlists ▸ hlist) hreply).append [e]
  cases e with
  | signIn | signOut =>
    obtain rfl := Option.some.inj hstep
    exact hsame rfl
  | create record =>
    obtain ⟨uid, -, hstep⟩ := Option.bind_eq_some_iff.mp hstep
    simp only [Option.ite_none_right_eq_some, Option.some.injEq] at hstep
    obtain ⟨-, rfl⟩ := hstep
    exact hsame rfl
  | stored i id outcome =>
    obtain ⟨call, -, hstep⟩ := Option.bind_eq_some_iff.mp hstep
    cases outcome with
    | ok _ =>
      simp only [Option.ite_none_left_eq_some, Option.some.injEq] at hstep
      obtain ⟨-, rfl⟩ := hstep
      exact hsame rfl
    | error _ =>
      obtain rfl := Option.some.inj hstep
      exact hsame rfl
  | openList =>
    obtain rfl := Option.some.inj hstep
    intro i list reply hlist hreply
    rcases Parts.getElem?_concat_cases hlist with hlist | ⟨-, rfl⟩
    · exact hsame rfl i list reply hlist hreply
    · cases hreply
  | queried i failure =>
    obtain ⟨list, -, hstep⟩ := Option.bind_eq_some_iff.mp hstep
    simp only [Option.ite_none_right_eq_some, Option.some.injEq] at hstep
    obtain ⟨-, rfl⟩ := hstep
    intro j list' reply hlist hreply
    rcases Parts.getElem?_set_cases hlist with ⟨rfl, rfl⟩ | ⟨-, hlist⟩
    · obtain rfl := Option.some.inj hreply
      exact (EventRun.occurred_concat_iff hpast).mpr (.inr ⟨rfl, rfl⟩)
    · exact hsame rfl j list' reply hlist hreply

/-- **Whose homes a list shows.** In every run in which no account is called `null`, a list whose
query has succeeded has been answered with the homes that were stored at that time. It shows exactly
those of them that were created under the user who opened it, each once and with its id; opened by
nobody it shows none. -/
theorem showsOwn_of_run {es : List Event} {s : State} (hnull : ∀ e ∈ es, e ≠ .signIn "null")
    (hrun : EventRun.run (step doubleText) .initial es = some s) {i : ℕ} {list : ListScreen}
    (hlist : s.lists[i]? = some list) {homes : List Home}
    (hreply : list.reply = some ⟨homes, none⟩) :
    AnsweredIn doubleText es i ⟨homes, none⟩ ∧ ShowsOwn list homes := by
  have hinv : Inv s := EventRun.invariant_of_meets (I := Inv) (C := fun _ e => e ≠ .signIn "null")
    (fun _ _ _ => inv_step) inv_initial (EventRun.meets_of_forall hnull) hrun
  have hanswered : Answered doubleText es s :=
    EventRun.invariant_past (I := Answered doubleText) (fun _ _ _ _ => answered_step)
      (by simp [Answered, State.initial]) hrun
  exact ⟨hanswered i list _ hlist hreply,
    showsOwn_of_reply ((hinv.lists list (List.mem_of_getElem? hlist)).2 _ hreply) hreply⟩

/-- What a form passes on in a session can be created here, in the same session. -/
theorem isSome_step_of_passed {assets : ThaiAddress.Assets} {e : FormCreate.SessionEvent}
    {v w : FormCreate.Sessioned} (hstep : FormCreate.sessionStep assets v e = some w)
    {r : HomeRecord} (hpassed : w.form.passed = v.form.passed ++ [r]) {s : State}
    (huser : s.user = v.user) : (step doubleText s (.create r)).isSome = true := by
  rcases FormCreate.passed_sessionStep hstep with hsame | ⟨owner, -, howner, hpassed'⟩
  · simp [hsame] at hpassed
  · obtain rfl : r = FormCreate.record owner v.form := by simpa [hpassed'] using hpassed.symm
    simp [step, huser, howner, FormCreate.record]

/-- A record of the first user. -/
def firstRecord : HomeRecord := FormCreate.record "u1" FormCreate.firstFilled

/-- The first user creates a home, which is stored in the session of the second user. Both open
their lists. -/
def twoUsers : List Event :=
  [.signIn "u1", .create firstRecord, .signOut, .signIn "u2", .stored 0 "h1" (.ok ()), .openList,
    .queried 0 none, .signIn "u1", .openList, .queried 1 none]

/-- The home that is stored. -/
def firstHome : Home := ⟨"h1", "u1", Fields.ofList (data (fun _ => "0.0") firstRecord)⟩

/-- The lists of the second and of the first user. -/
def twoLists : List ListScreen :=
  [⟨some "u2", some ⟨[firstHome], none⟩⟩, ⟨some "u1", some ⟨[firstHome], none⟩⟩]

/-- The second user is shown no home, the first user the one that was created. -/
theorem showsOwn_twoUsers :
    EventRun.run (step fun _ => "0.0") .initial twoUsers =
        some ⟨some "u1", [firstHome], [], twoLists⟩ ∧
      (∀ i list, twoLists[i]? = some list → list.reply = some ⟨[firstHome], none⟩ →
        AnsweredIn (fun _ => "0.0") twoUsers i ⟨[firstHome], none⟩ ∧
          ShowsOwn list [firstHome]) ∧
      twoLists.map ListScreen.body = [.noHomes, .homes [withId firstHome]] := by
  have hnull : ∀ e ∈ twoUsers, e ≠ .signIn "null" := by
    intro e he
    simp only [twoUsers, List.mem_cons, List.not_mem_nil, or_false] at he
    rcases he with rfl | rfl | rfl | rfl | rfl | rfl | rfl | rfl | rfl | rfl <;> simp
  have hrun : EventRun.run (step fun _ => "0.0") .initial twoUsers =
      some ⟨some "u1", [firstHome], [], twoLists⟩ := rfl
  exact ⟨hrun, fun i list hlist hreply => showsOwn_of_run hnull hrun hlist hreply, rfl⟩

end SmartHome.Ownership
