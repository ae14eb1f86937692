import SmartHome.Home.Ownership
import SmartHome.Lib.Parts

/-!
# From the form for a new home to its row and its page

`MapComponent` hands a position over to a form, the form passes a record on, the record is stored
in `homes`, a list reads the homes of its user, and each home has a row in the list and a page of
its own. All of this is taken here as one system: a session, any number of forms, the collection,
and any number of lists, whose steps interleave in any order.

A row casts the fields that it is built from, and throws while it is built if one of them has
another type. The rows of homes that come from forms do not.

## Main definitions

* `HomeLifecycle.listRow`, `HomeLifecycle.detailHeader` : the row of a home, and the header of its
  page.
* `HomeLifecycle.State`, `HomeLifecycle.step`.

## Main results

* `HomeLifecycle.refines_ownership` : every run is matched by a run of `Ownership`.
* `HomeLifecycle.shown_of_run` : what the lists and the pages show of the homes.
-/

namespace SmartHome.HomeLifecycle

open Dart
open FormCreate (HomeRecord Complete Placed Checked)
open Ownership (Home ListScreen)

/-! ### What is shown of a home -/

/-- What `ListMenu` is given for a home, but for its constants and localized texts. -/
structure Row where
  menuName : String
  title : String
  description : String
  border : Bool
  bold : Bool
  space : Bool
  deriving DecidableEq

/-- `home.containsKey(key) ? home[key] : otherwise`. -/
def fieldOr (home : Fields) (key : String) (otherwise : Dyn) : Dyn := (home key).getD otherwise

/-- The implicit cast to `bool`. -/
def asBool : Dyn → Except Error Bool
  | .bool b => .ok b
  | _ => .error .typeError

/-- The row of a home in `HomeListScreen`. -/
def listRow (home : Fields) : Except Error Row := do
  let menuName ← (home.field "name").asString
  let title ← (fieldOr home "title" (.str "")).asString
  let description ← (fieldOr home "description" (.str "")).asString
  let border ← asBool (fieldOr home "border" (.bool false))
  let bold ← asBool (fieldOr home "bold" (.bool true))
  let space ← asBool (fieldOr home "space" (.bool false))
  return { menuName, title, description, border, bold, space }

/-- The header of `HomeDetailScreen`. -/
structure Header where
  menuName : String
  subText : String
  deriving DecidableEq

/-- `'${home[key] ?? ''}'`. -/
def interpolated (home : Fields) (key : String) : String :=
  ((home.field key).orElse (.str "")).text

/-- What `HomeDetailScreen` shows of a home. -/
def detailHeader (home : Fields) : Except Error Header := do
  let menuName ← ((home.field "name").orElse (.str "No Name")).asString
  let subText := interpolated home "address" ++ ", " ++ interpolated home "subDistrict" ++ ", " ++
    interpolated home "district" ++ ", " ++ interpolated home "province" ++ ", " ++
    interpolated home "postalCode"
  return { menuName, subText }

/-! ### The system -/

/-- A form, with the position that it was opened at. -/
structure Visit where
  position : LatLng
  form : FormCreate.State

/-- The user who is signed in, the forms that have been opened, the stored homes, and the lists that
have been opened, oldest first. -/
structure State where
  user : Option Uid
  forms : List Visit
  homes : List Home
  lists : List ListScreen

/-- Nobody is signed in, and there are no homes. -/
def State.initial : State := { user := none, forms := [], homes := [], lists := [] }

/-- What can happen next. The call at position `n` of a form completes, and if it succeeds the home
is stored under a new id. -/
inductive Event where
  | authStateChanged (user : Option Uid)
  | openForm (position : LatLng)
  | form (i : ℕ) (e : FormCreate.Event)
  | completed (i n : ℕ) (id : String) (outcome : Except String Unit)
  | openList
  | queried (i : ℕ) (failure : Option String)

/-- The completion of a call. -/
def isCompletion : FormCreate.Event → Bool
  | .completed _ _ => true
  | _ => false

variable (ofDegrees : ℚ → ℚ → LatLng) (doubleText : ℚ → String)

/-- The home of a record. -/
def stored (id : String) (r : HomeRecord) : Home :=
  ⟨id, r.owner, Fields.ofList (Ownership.data doubleText r)⟩

/-- One step, with the assets of the app. -/
def step (assets : ThaiAddress.Assets) (s : State) : Event → Option State
  | .authStateChanged user => some { s with user }
  | .openForm position =>
    some { s with
      forms := s.forms ++ [⟨position, .initial ofDegrees position.latitude position.longitude⟩] }
  | .form i e =>
    s.forms[i]?.bind fun v =>
      if isCompletion e = false ∧ FormCreate.findsUser s.user e = true then
        (FormCreate.step assets v.form e).map fun form =>
          { s with forms := s.forms.set i { v with form } }
      else none
  | .completed i n id outcome =>
    s.forms[i]?.bind fun v =>
      (Outstanding.complete v.form.calls n).bind fun call =>
        (FormCreate.step assets v.form (.completed n outcome)).bind fun form =>
          match outcome with
          | .ok () =>
            if id ∈ s.homes.map Home.id then none
            else some { s with
              forms := s.forms.set i { v with form }
              homes := s.homes ++ [stored doubleText id call.1] }
          | .error _ => some { s with forms := s.forms.set i { v with form } }
  | .openList => some { s with lists := s.lists ++ [⟨s.user, none⟩] }
  | .queried i failure =>
    s.lists[i]?.bind fun list =>
      if list.reply.isNone then
        some { s with lists := s.lists.set i { list with reply := some ⟨s.homes, failure⟩ } }
      else none

variable {ofDegrees} {doubleText} {assets : ThaiAddress.Assets}

variable (ofDegrees doubleText assets) in
/-- What a step does, with the guards that it has passed. -/
inductive Stepped (s : State) : Event → State → Prop
  | authStateChanged (user : Option Uid) : Stepped s (.authStateChanged user) { s with user }
  | openForm (position : LatLng) :
      Stepped s (.openForm position) { s with
        forms := s.forms ++ [⟨position, .initial ofDegrees position.latitude position.longitude⟩] }
  | form {i : ℕ} {e : FormCreate.Event} {v : Visit} {form : FormCreate.State}
      (hform : s.forms[i]? = some v) (he : isCompletion e = false)
      (hfinds : FormCreate.findsUser s.user e = true)
      (hstep : FormCreate.step assets v.form e = some form) :
      Stepped s (.form i e) { s with forms := s.forms.set i { v with form } }
  | stored {i n : ℕ} {id : String} {v : Visit} {form : FormCreate.State} {r : HomeRecord}
      {rest : List HomeRecord} (hform : s.forms[i]? = some v)
      (hcall : Outstanding.complete v.form.calls n = some (r, rest))
      (hstep : FormCreate.step assets v.form (.completed n (.ok ())) = some form)
      (hid : id ∉ s.homes.map Home.id) :
      Stepped s (.completed i n id (.ok ())) { s with
        forms := s.forms.set i { v with form }
        homes := s.homes ++ [stored doubleText id r] }
  | failed {i n : ℕ} {id text : String} {v : Visit} {form : FormCreate.State} {r : HomeRecord}
      {rest : List HomeRecord} (hform : s.forms[i]? = some v)
      (hcall : Outstanding.complete v.form.calls n = some (r, rest))
      (hstep : FormCreate.step assets v.form (.completed n (.error text)) = some form) :
      Stepped s (.completed i n id (.error text)) { s with forms := s.forms.set i { v with form } }
  | openList : Stepped s .openList { s with lists := s.lists ++ [⟨s.user, none⟩] }
  | queried {i : ℕ} {list : ListScreen} (failure : Option String)
      (hlist : s.lists[i]? = some list) (hreply : list.reply.isNone = true) :
      Stepped s (.queried i failure)
        { s with lists := s.lists.set i { list with reply := some ⟨s.homes, failure⟩ } }

theorem stepped_of_step {s t : State} {e : Event}
    (hstep : step ofDegrees doubleText assets s e = some t) :
    Stepped ofDegrees doubleText assets s e t := by
  cases e with
  | authStateChanged user =>
    obtain rfl := Option.some.inj hstep
    exact .authStateChanged user
  | openForm position =>
    obtain rfl := Option.some.inj hstep
    exact .openForm position
  | form i e =>
    obtain ⟨v, hform, hstep⟩ := Option.bind_eq_some_iff.mp hstep
    simp only [Option.ite_none_right_eq_some, Option.map_eq_some_iff] at hstep
    obtain ⟨⟨he, hfinds⟩, form, hnext, rfl⟩ := hstep
    exact .form hform he hfinds hnext
  | completed i n id outcome =>
    obtain ⟨v, hform, hstep⟩ := Option.bind_eq_some_iff.mp hstep
    obtain ⟨⟨r, rest⟩, hcall, hstep⟩ := Option.bind_eq_some_iff.mp hstep
    obtain ⟨form, hnext, hstep⟩ := Option.bind_eq_some_iff.mp hstep
    cases outcome with
    | ok _ =>
      simp only [Option.ite_none_left_eq_some, Option.some.injEq] at hstep
      obtain ⟨hid, rfl⟩ := hstep
      exact .stored hform hcall hnext hid
    | error text =>
      obtain rfl := Option.some.inj hstep
      exact .failed hform hcall hnext
  | openList =>
    obtain rfl := Option.some.inj hstep
    exact .openList
  | queried i failure =>
    obtain ⟨list, hlist, hstep⟩ := Option.bind_eq_some_iff.mp hstep
    simp only [Option.ite_none_right_eq_some, Option.some.injEq] at hstep
    obtain ⟨hreply, rfl⟩ := hstep
    exact .queried failure hlist hreply

/-! ### Calls of a form -/

/-- The outstanding calls of a form change by a tap on Create and by completions only. -/
theorem calls_step {s t : FormCreate.State} {e : FormCreate.Event}
    (hstep : FormCreate.step assets s e = some t) (he : isCompletion e = false) :
    t.calls = s.calls ∨ ∃ owner, e = .tapCreate (some owner) ∧ FormCreate.validate s = true ∧
      s.form.isButtonDisabled = false ∧ t.calls = s.calls ++ [FormCreate.record owner s] := by
  cases FormCreate.stepped_of_step hstep with
  | loaded | tapField | scroll | cancel | leave | dispose | editAddress => exact .inl rfl
  | @done picker =>
    obtain ⟨address, picker', callbacks, heq⟩ := FormCreate.confirm_eq picker s
    exact .inl (by rw [heq])
  | editName text =>
    obtain ⟨name, isButtonDisabled, heq⟩ := FormCreate.editName_eq text s
    exact .inl (by rw [heq])
  | tapCreate user _ henabled =>
    rcases FormCreate.startCreate_cases user s with ⟨_, heq⟩ | ⟨owner, rfl, hvalid, heq⟩
    · exact .inl (by rw [heq])
    · exact .inr ⟨owner, rfl, hvalid, henabled, by rw [heq]⟩
  | completed => cases he

/-- The completion of a call takes it away. -/
theorem calls_completed {s t : FormCreate.State} {n : ℕ} {outcome : Except String Unit}
    (hstep : FormCreate.step assets s (.completed n outcome) = some t) :
    ∃ r rest, Outstanding.complete s.calls n = some (r, rest) ∧ t.calls = rest := by
  cases FormCreate.stepped_of_step hstep with
  | completed outcome hcall =>
    refine ⟨_, _, hcall, ?_⟩
    obtain ⟨added, heq⟩ := FormCreate.completeCreate_eq _ outcome { s with calls := _ }
    rw [heq, FormCreate.resumeCreate]
    split <;> rfl

/-! ### Refinement -/

/-- The creation that `Ownership` has for a call. -/
def creation (r : HomeRecord) : Ownership.Creation := ⟨r.owner, r⟩

/-- The creations for the calls of the forms. -/
def creations (forms : List Visit) : List Ownership.Creation :=
  forms.flatMap fun v => v.form.calls.map creation

/-- A state of `Ownership` with the same session, homes and lists, in which the calls of the forms
are outstanding. -/
structure Matches (s : State) (o : Ownership.State) : Prop where
  user : o.user = s.user
  homes : o.homes = s.homes
  lists : o.lists = s.lists
  outstanding : o.creations.Perm (creations s.forms)

theorem matches_initial : Matches .initial .initial := ⟨rfl, rfl, rfl, .rfl⟩

/-- A form that steps without a call leaves the creations as they are. -/
theorem Matches.set_of_calls {s : State} {o : Ownership.State} (h : Matches s o) {i : ℕ} {v : Visit}
    {form : FormCreate.State} (hform : s.forms[i]? = some v) (hcalls : form.calls = v.form.calls) :
    Matches { s with forms := s.forms.set i { v with form } } o := by
  have hsame : (creations s.forms).Perm (creations (s.forms.set i { v with form })) :=
    Parts.flatMap_set _ [] [] hform (by simp [hcalls])
  exact ⟨h.user, h.homes, h.lists, h.outstanding.trans hsame⟩

/-- A call that completes is a creation that is outstanding. -/
theorem Matches.complete {s : State} {o : Ownership.State} (h : Matches s o) {i n : ℕ} {v : Visit}
    {form : FormCreate.State} {outcome : Except String Unit} {r : HomeRecord}
    {rest : List HomeRecord} (hform : s.forms[i]? = some v)
    (hcall : Outstanding.complete v.form.calls n = some (r, rest))
    (hstep : FormCreate.step assets v.form (.completed n outcome) = some form) :
    ∃ j others, Outstanding.complete o.creations j = some (creation r, others) ∧
      others.Perm (creations (s.forms.set i { v with form })) := by
  obtain ⟨r', rest', hcall', hrest⟩ := calls_completed hstep
  obtain ⟨rfl, rfl⟩ := Prod.mk.inj (Option.some.inj (hcall.symm.trans hcall'))
  -- the call in front of the other creations
  have hcalls : (v.form.calls.map creation).Perm (creation r :: form.calls.map creation) :=
    hrest ▸ (Outstanding.perm_of_complete hcall).map creation
  have hall : (creations s.forms).Perm
      (creation r :: creations (s.forms.set i { v with form })) :=
    Parts.flatMap_set _ [] [creation r] hform hcalls
  exact Outstanding.exists_complete_of_perm
    (Outstanding.complete_eq_some.mpr ⟨List.getElem?_cons_zero, rfl⟩) (h.outstanding.trans hall)

/-- A tap on Create is a new creation. -/
theorem Matches.tapped {s : State} {o : Ownership.State} (h : Matches s o) {i : ℕ} {v : Visit}
    {form : FormCreate.State} {r : HomeRecord} (hform : s.forms[i]? = some v)
    (hcalls : form.calls = v.form.calls ++ [r]) :
    (o.creations ++ [creation r]).Perm (creations (s.forms.set i { v with form })) := by
  have hnew : ([creation r] ++ v.form.calls.map creation).Perm (form.calls.map creation) := by
    rw [hcalls, List.map_append]
    exact List.perm_append_comm
  have hall : ([creation r] ++ creations s.forms).Perm
      (creations (s.forms.set i { v with form })) :=
    Parts.flatMap_set _ [creation r] [] hform hnew
  exact (List.perm_append_comm.trans (h.outstanding.append_left _)).trans hall

/-- One step of `Ownership` that keeps its invariant. -/
theorem matched_by {t : State} {o b : Ownership.State} {e : Ownership.Event}
    (hinv : Ownership.Inv o) (he : e ≠ .signIn "null")
    (hstep : Ownership.step doubleText o e = some b) (h : Matches t b) :
    ∃ es b, EventRun.run (Ownership.step doubleText) o es = some b ∧ Matches t b ∧
      Ownership.Inv b :=
  ⟨[e], b, EventRun.run_cons_eq_some.mpr ⟨b, hstep, rfl⟩, h, Ownership.inv_step hinv he hstep⟩

/-- A step is matched by at most one step of `Ownership`. -/
theorem simulates :
    EventRun.Simulates (step ofDegrees doubleText assets) (Ownership.step doubleText)
    (fun _ e => e ≠ .authStateChanged (some "null"))
    (fun s o => Matches s o ∧ Ownership.Inv o) := by
  rintro s e t o ⟨h, hinv⟩ he hstep
  cases stepped_of_step hstep with
  | authStateChanged user =>
    cases user with
    | none =>
      exact matched_by (e := .signOut) (b := { o with user := none }) hinv (by simp) rfl
        ⟨rfl, h.homes, h.lists, h.outstanding⟩
    | some uid =>
      refine matched_by (e := .signIn uid) (b := { o with user := some uid }) hinv
        (fun hnull => he ?_) rfl ⟨rfl, h.homes, h.lists, h.outstanding⟩
      rw [Ownership.Event.signIn.inj hnull]
  | openForm position =>
    refine ⟨[], o, rfl, ⟨h.user, h.homes, h.lists, h.outstanding.trans ?_⟩, hinv⟩
    simp [creations, FormCreate.State.initial]
  | @form i e v form hform hcompletion hfinds hnext =>
    rcases calls_step hnext hcompletion with hcalls | ⟨owner, rfl, -, -, hcalls⟩
    · exact ⟨[], o, rfl, h.set_of_calls hform hcalls, hinv⟩
    · have huser : o.user = some owner := h.user.trans (of_decide_eq_true hfinds).symm
      have hcreate : Ownership.step doubleText o (.create (FormCreate.record owner v.form)) =
          some { o with
            creations := o.creations ++ [creation (FormCreate.record owner v.form)] } := by
        have howner : (FormCreate.record owner v.form).owner = owner := rfl
        rw [Ownership.step, huser, Option.bind_some, if_pos howner]
        rfl
      exact matched_by hinv (by simp) hcreate
        ⟨h.user, h.homes, h.lists, h.tapped hform hcalls⟩
  | @stored i n id v form r rest hform hcall hnext hid =>
    obtain ⟨j, others, hcomplete, hothers⟩ := h.complete hform hcall hnext
    have hstored : Ownership.step doubleText o (.stored j id (.ok ())) =
        some { o with creations := others, homes := o.homes ++ [stored doubleText id r] } := by
      rw [Ownership.step, hcomplete, Option.bind_some, if_neg (h.homes ▸ hid)]
      rfl
    exact matched_by hinv (by simp) hstored ⟨h.user, congrArg (· ++ _) h.homes, h.lists, hothers⟩
  | @failed i n id text v form r rest hform hcall hnext =>
    obtain ⟨j, others, hcomplete, hothers⟩ := h.complete hform hcall hnext
    have hfailed : Ownership.step doubleText o (.stored j id (.error text)) =
        some { o with creations := others } := by
      rw [Ownership.step, hcomplete, Option.bind_some]
    exact matched_by hinv (by simp) hfailed ⟨h.user, h.homes, h.lists, hothers⟩
  | openList =>
    refine matched_by (e := .openList) (b := { o with lists := o.lists ++ [⟨o.user, none⟩] }) hinv
      (by simp) rfl ⟨h.user, h.homes, ?_, h.outstanding⟩
    exact congrArg₂ (fun lists user => lists ++ [⟨user, none⟩]) h.lists h.user
  | @queried i list failure hlist hreply =>
    have hqueried : Ownership.step doubleText o (.queried i failure) =
        some { o with
          lists := o.lists.set i { list with reply := some ⟨o.homes, failure⟩ } } := by
      rw [Ownership.step, h.lists, hlist, Option.bind_some, if_pos hreply]
    refine matched_by hinv (by simp) hqueried ⟨h.user, h.homes, ?_, h.outstanding⟩
    rw [h.lists, h.homes]

/-- **Refinement.** Every run of the app in which no account is called `null` is matched by a run
of `Ownership` with the same session, homes and lists. -/
theorem refines_ownership {es : List Event} {s : State}
    (hnull : ∀ e ∈ es, e ≠ .authStateChanged (some "null"))
    (hrun : EventRun.run (step ofDegrees doubleText assets) .initial es = some s) :
    ∃ es' o, EventRun.run (Ownership.step doubleText) .initial es' = some o ∧ Matches s o ∧
      Ownership.Inv o :=
  simulates.run ⟨matches_initial, Ownership.inv_initial⟩ (EventRun.meets_of_forall hnull) hrun

/-! ### The homes of forms -/

/-- A tap on Create that passes a record on: the form, where it was opened and what was in it at the
tap, and the user. -/
structure Submission where
  index : ℕ
  position : LatLng
  form : FormCreate.State
  owner : Uid

/-- The record that is passed on. -/
def Submission.record (x : Submission) : HomeRecord := FormCreate.record x.owner x.form

/-- What a step submits. -/
def submitted (s : State) : Event → Option Submission
  | .form i (.tapCreate (some owner)) =>
    s.forms[i]?.bind fun v =>
      if FormCreate.validate v.form then some ⟨i, v.position, v.form, owner⟩ else none
  | _ => none

variable (ofDegrees doubleText assets) in
/-- The submission was made in a run. -/
def SubmittedIn (es : List Event) (x : Submission) : Prop :=
  EventRun.Occurred (step ofDegrees doubleText assets) (fun s e => submitted s e = some x) .initial
    es

variable (ofDegrees doubleText assets) in
/-- The query of the list `i` was answered in a run, while `homes` were stored. -/
def AnsweredIn (es : List Event) (i : ℕ) (reply : Ownership.Reply) : Prop :=
  EventRun.Occurred (step ofDegrees doubleText assets)
    (fun s e => e = .queried i reply.failure ∧ s.homes = reply.homes) .initial es

/-- The form of a submission, which has passed the record on. -/
def FromForm (s : State) (x : Submission) : Prop :=
  ∃ v, s.forms[x.index]? = some v ∧ v.position = x.position ∧ x.record ∈ v.form.passed

variable (ofDegrees doubleText assets) in
/-- The home was submitted in a run, and nothing is missing in it. -/
def Genuine (es : List Event) (home : Home) : Prop :=
  ∃ x, SubmittedIn ofDegrees doubleText assets es x ∧ Complete x.position x.record ∧
    home = stored doubleText home.id x.record

variable (ofDegrees doubleText assets) in
/-- The form `i` at its position, with an enabled button only if it is complete, and with calls for
what was submitted in it. -/
structure FormInv (es : List Event) (i : ℕ) (v : Visit) : Prop where
  checked : Checked v.form.area.value.text v.form.form
  placed : Placed v.position v.form
  calls : ∀ r ∈ v.form.calls, ∃ x, SubmittedIn ofDegrees doubleText assets es x ∧ x.record = r ∧
    Complete x.position r

variable (ofDegrees doubleText assets) in
/-- The forms are in order, the homes come from them, and the lists have been answered. -/
structure Inv (es : List Event) (s : State) : Prop where
  forms : ∀ i v, s.forms[i]? = some v → FormInv ofDegrees doubleText assets es i v
  submitted : ∀ x, SubmittedIn ofDegrees doubleText assets es x → FromForm s x
  homes : ∀ home ∈ s.homes, Genuine ofDegrees doubleText assets es home
  lists : ∀ i list reply, s.lists[i]? = some list → list.reply = some reply →
    AnsweredIn ofDegrees doubleText assets es i reply ∧
      ∀ home ∈ reply.homes, Genuine ofDegrees doubleText assets es home

variable {past : List Event}

theorem Genuine.append {home : Home} (h : Genuine ofDegrees doubleText assets past home)
    (es : List Event) : Genuine ofDegrees doubleText assets (past ++ es) home := by
  obtain ⟨x, hx, hrest⟩ := h
  exact ⟨x, hx.append es, hrest⟩

theorem FormInv.append {i : ℕ} {v : Visit} (h : FormInv ofDegrees doubleText assets past i v)
    (es : List Event) : FormInv ofDegrees doubleText assets (past ++ es) i v where
  checked := h.checked
  placed := h.placed
  calls r hr := by
    obtain ⟨x, hx, hrest⟩ := h.calls r hr
    exact ⟨x, hx.append es, hrest⟩

theorem inv_initial : Inv ofDegrees doubleText assets [] .initial where
  forms := by simp [State.initial]
  submitted := by
    rintro x ⟨before, e, after, s, heq, -, -⟩
    exact absurd (congrArg List.length heq) (by simp)
  homes := by rintro _ ⟨⟩
  lists := by simp [State.initial]

/-- The submissions of a run that is one event longer. -/
theorem submittedIn_concat {s : State} {e : Event} {x : Submission}
    (hpast : EventRun.run (step ofDegrees doubleText assets) .initial past = some s) :
    SubmittedIn ofDegrees doubleText assets (past ++ [e]) x ↔
      SubmittedIn ofDegrees doubleText assets past x ∨ submitted s e = some x :=
  EventRun.occurred_concat_iff hpast

/-- A form steps. -/
theorem FormInv.step {s : State} {i : ℕ} {v : Visit} {e : FormCreate.Event}
    {form : FormCreate.State}
    (hpast : EventRun.run (HomeLifecycle.step ofDegrees doubleText assets) .initial past = some s)
    (hform : s.forms[i]? = some v) (h : FormInv ofDegrees doubleText assets past i v)
    (hstep : FormCreate.step assets v.form e = some form) (he : isCompletion e = false) :
    FormInv ofDegrees doubleText assets (past ++ [.form i e]) i { v with form } where
  checked := FormCreate.checked_step h.checked hstep
  placed := FormCreate.placed_step h.placed hstep
  calls r hr := by
    rcases calls_step hstep he with hcalls | ⟨owner, rfl, hvalid, henabled, hcalls⟩
    · exact (h.append _).calls r (hcalls ▸ hr)
    · rcases List.mem_append.mp (hcalls ▸ hr) with hr | hr
      · exact (h.append _).calls r hr
      · obtain rfl := List.mem_singleton.mp hr
        refine ⟨⟨i, v.position, v.form, owner⟩, (submittedIn_concat hpast).mpr (.inr ?_), rfl,
          FormCreate.complete_record h.placed (h.checked henabled) owner⟩
        rw [HomeLifecycle.submitted, hform, Option.bind_some, if_pos hvalid]

/-- The completion of a call of a form. -/
theorem FormInv.completed {i : ℕ} {v : Visit}
    (h : FormInv ofDegrees doubleText assets past i v) {n : ℕ}
    {outcome : Except String Unit} {form : FormCreate.State}
    (hstep : FormCreate.step assets v.form (.completed n outcome) = some form) :
    FormInv ofDegrees doubleText assets past i { v with form } where
  checked := FormCreate.checked_step h.checked hstep
  placed := FormCreate.placed_step h.placed hstep
  calls r hr := by
    obtain ⟨r', rest, hcall, hrest⟩ := calls_completed hstep
    exact h.calls r ((Outstanding.mem_iff_of_complete hcall).mpr (.inr (hrest ▸ hr)))

/-- A form that steps has still passed on what it had passed on. -/
theorem FromForm.set {s : State} {x : Submission} (h : FromForm s x) {i : ℕ} {v : Visit}
    {e : FormCreate.Event} {form : FormCreate.State} (hform : s.forms[i]? = some v)
    (hstep : FormCreate.step assets v.form e = some form) :
    FromForm { s with forms := s.forms.set i { v with form } } x := by
  obtain ⟨w, hw, hposition, hpassed⟩ := h
  by_cases hindex : i = x.index
  · subst hindex
    obtain rfl := Option.some.inj (hform.symm.trans hw)
    refine ⟨{ v with form }, Parts.getElem?_set_of_some hform _, hposition, ?_⟩
    rcases FormCreate.passed_step hstep with hsame | ⟨owner, -, -, hadded⟩
    · exact hsame ▸ hpassed
    · exact hadded ▸ List.mem_append_left _ hpassed
  · exact ⟨w, by rw [List.getElem?_set_ne hindex, hw], hposition, hpassed⟩

/-- A submission is passed on by its form. -/
theorem fromForm_of_submitted {s : State} {i : ℕ} {v : Visit} {e : FormCreate.Event}
    {form : FormCreate.State} {x : Submission} (hform : s.forms[i]? = some v)
    (hstep : FormCreate.step assets v.form e = some form)
    (hx : submitted s (.form i e) = some x) :
    FromForm { s with forms := s.forms.set i { v with form } } x := by
  cases FormCreate.stepped_of_step hstep with
  | tapCreate user =>
    cases user with
    | none => cases hx
    | some owner =>
      rw [submitted, hform, Option.bind_some, Option.ite_none_right_eq_some,
        Option.some.injEq] at hx
      obtain ⟨hvalid, rfl⟩ := hx
      refine ⟨_, Parts.getElem?_set_of_some hform _, rfl, ?_⟩
      rw [FormCreate.startCreate, if_pos hvalid]
      exact List.mem_append_right _ (List.mem_singleton.mpr rfl)
  | _ => cases hx

/-- A form steps, and the rest stays as it is. -/
theorem Inv.set {s : State} (h : Inv ofDegrees doubleText assets past s) {i : ℕ} {v : Visit}
    {e : FormCreate.Event} {form : FormCreate.State} (event : Event)
    (hpast : EventRun.run (step ofDegrees doubleText assets) .initial past = some s)
    (hform : s.forms[i]? = some v) (hstep : FormCreate.step assets v.form e = some form)
    (hv : FormInv ofDegrees doubleText assets (past ++ [event]) i { v with form })
    (hevent : ∀ x, HomeLifecycle.submitted s event = some x →
      HomeLifecycle.submitted s (.form i e) = some x) :
    Inv ofDegrees doubleText assets (past ++ [event])
      { s with forms := s.forms.set i { v with form } } where
  forms j w hw := by
    rcases Parts.getElem?_set_cases hw with ⟨rfl, rfl⟩ | ⟨-, hw⟩
    · exact hv
    · exact (h.forms j w hw).append _
  submitted x hx := by
    rcases (submittedIn_concat hpast).mp hx with hx | hx
    · exact (h.submitted x hx).set hform hstep
    · exact fromForm_of_submitted hform hstep (hevent x hx)
  homes home hhome := (h.homes home hhome).append _
  lists j list reply hlist hreply := by
    obtain ⟨hanswered, hgenuine⟩ := h.lists j list reply hlist hreply
    exact ⟨hanswered.append _, fun home hhome => (hgenuine home hhome).append _⟩

/-- A new home from the call of a form. -/
theorem genuine_stored {s : State} {i n : ℕ} {v : Visit}
    (h : Inv ofDegrees doubleText assets past s)
    (hform : s.forms[i]? = some v) {r : HomeRecord} {rest : List HomeRecord}
    (hcall : Outstanding.complete v.form.calls n = some (r, rest)) (id : String) :
    Genuine ofDegrees doubleText assets past (stored doubleText id r) := by
  obtain ⟨x, hx, rfl, hcomplete⟩ :=
    (h.forms i v hform).calls r ((Outstanding.mem_iff_of_complete hcall).mpr (.inl rfl))
  exact ⟨x, hx, hcomplete, rfl⟩

theorem inv_step (hdegrees : LatLng.KeepsInRange ofDegrees) {s t : State} {e : Event}
    (hpast : EventRun.run (step ofDegrees doubleText assets) .initial past = some s)
    (h : Inv ofDegrees doubleText assets past s)
    (hstep : step ofDegrees doubleText assets s e = some t) :
    Inv ofDegrees doubleText assets (past ++ [e]) t := by
  have hforms : ∀ i v, s.forms[i]? = some v →
      FormInv ofDegrees doubleText assets (past ++ [e]) i v :=
    fun i v hv => (h.forms i v hv).append _
  have hhomes : ∀ home ∈ s.homes, Genuine ofDegrees doubleText assets (past ++ [e]) home :=
    fun home hhome => (h.homes home hhome).append _
  have hlists : ∀ i list reply, s.lists[i]? = some list → list.reply = some reply →
      AnsweredIn ofDegrees doubleText assets (past ++ [e]) i reply ∧
        ∀ home ∈ reply.homes, Genuine ofDegrees doubleText assets (past ++ [e]) home := by
    intro i list reply hlist hreply
    obtain ⟨hanswered, hgenuine⟩ := h.lists i list reply hlist hreply
    exact ⟨hanswered.append _, fun home hhome => (hgenuine home hhome).append _⟩
  have hsubmitted (hnone : submitted s e = none) (x : Submission)
      (hx : SubmittedIn ofDegrees doubleText assets (past ++ [e]) x) : FromForm s x := by
    refine h.submitted x (((submittedIn_concat hpast).mp hx).resolve_right fun hx => ?_)
    exact absurd (hnone.symm.trans hx) (by simp)
  cases stepped_of_step hstep with
  | authStateChanged user => exact ⟨hforms, hsubmitted rfl, hhomes, hlists⟩
  | openForm position =>
    refine ⟨fun i v hv => ?_, fun x hx => ?_, hhomes, hlists⟩
    · rcases Parts.getElem?_concat_cases hv with hv | ⟨-, rfl⟩
      · exact hforms i v hv
      · exact ⟨by rintro ⟨⟩, FormCreate.placed_initial hdegrees position, by rintro _ ⟨⟩⟩
    · obtain ⟨v, hv, hrest⟩ := hsubmitted rfl x hx
      exact ⟨v, Parts.getElem?_concat_of_some hv _, hrest⟩
  | form hform hcompletion hfinds hnext =>
    exact h.set _ hpast hform hnext ((h.forms _ _ hform).step hpast hform hnext hcompletion)
      fun _ hx => hx
  | @stored i n id v form r rest hform hcall hnext hid =>
    have hinv := h.set (.completed i n id (.ok ())) hpast hform hnext
      (((h.forms _ _ hform).completed hnext).append _)
      fun _ hx => absurd hx.symm (Option.some_ne_none _)
    refine ⟨hinv.forms, hinv.submitted, fun home hhome => ?_, hlists⟩
    rcases List.mem_append.mp hhome with hhome | hhome
    · exact hhomes home hhome
    · obtain rfl := List.mem_singleton.mp hhome
      exact (genuine_stored h hform hcall id).append _
  | failed hform hcall hnext =>
    exact h.set _ hpast hform hnext (((h.forms _ _ hform).completed hnext).append _)
      fun _ hx => absurd hx.symm (Option.some_ne_none _)
  | openList =>
    refine ⟨hforms, hsubmitted rfl, hhomes, fun i list reply hlist hreply => ?_⟩
    rcases Parts.getElem?_concat_cases hlist with hlist | ⟨-, rfl⟩
    · exact hlists i list reply hlist hreply
    · cases hreply
  | queried failure hlist hopen =>
    refine ⟨hforms, hsubmitted rfl, hhomes, fun j list' reply hlist' hreply => ?_⟩
    rcases Parts.getElem?_set_cases hlist' with ⟨rfl, rfl⟩ | ⟨-, hlist'⟩
    · obtain rfl := Option.some.inj hreply
      exact ⟨(EventRun.occurred_concat_iff hpast).mpr (.inr ⟨rfl, rfl⟩), hhomes⟩
    · exact hlists j list' reply hlist' hreply

theorem inv_of_run (hdegrees : LatLng.KeepsInRange ofDegrees) {es : List Event} {s : State}
    (hrun : EventRun.run (step ofDegrees doubleText assets) .initial es = some s) :
    Inv ofDegrees doubleText assets es s :=
  EventRun.invariant_past (I := Inv ofDegrees doubleText assets)
    (fun _ _ _ _ => inv_step hdegrees) inv_initial hrun

/-! ### Rows and pages -/

/-- The text that is shown for one that was entered. -/
def shownText (text : List UInt16) : String := String.ofList (Utf16.toChars text)

/-- What is shown of a home is what was in the form of a submission: the row and the header of the
page are built from its name, its address and what was picked in it, and the coordinates that are
stored are those of its position. -/
structure Displayed (doubleText : ℚ → String) (x : Submission) (home : Home) : Prop where
  owner : home.creator = x.owner
  name : shownText x.form.form.name ≠ ""
  row : listRow (Ownership.withId home) = .ok
    { menuName := shownText x.form.form.name, title := "", description := "", border := false,
      bold := true, space := false }
  header : ∃ province district subDistrict postalCode,
    x.form.form.selectedProvince = some province ∧ x.form.form.selectedDistrict = some district ∧
    x.form.form.selectedSubDistrict = some subDistrict ∧
    x.form.form.selectedPostalCode = some postalCode ∧
    detailHeader (Ownership.withId home) = .ok
      { menuName := shownText x.form.form.name
        subText := shownText x.form.area.value.text ++ ", " ++ subDistrict ++ ", " ++ district ++
          ", " ++ province ++ ", " ++ postalCode }
  latitude : home.fields "latitude" = some (.double (doubleText x.position.latitude))
  longitude : home.fields "longitude" = some (.double (doubleText x.position.longitude))

/-- A text is shown as it was entered. -/
theorem shownText_ofString (text : String) : shownText (Utf16.ofString text) = text := by
  rw [shownText, Utf16.ofString, Utf16.toChars_ofChars, String.ofList_toList]

theorem shownText_ne_empty {text : List UInt16} (h : text ≠ []) : shownText text ≠ "" := by
  intro hempty
  exact Utf16.toChars_ne_nil h (String.ofList_inj.mp (hempty.trans rfl))

/-- The header of a page whose texts are all there. -/
theorem detailHeader_of_texts {home : Fields} {name address subDistrict district province
    postalCode : String} (hname : home "name" = some (.str name))
    (haddress : home "address" = some (.str address))
    (hsub : home "subDistrict" = some (.str subDistrict))
    (hdistrict : home "district" = some (.str district))
    (hprovince : home "province" = some (.str province))
    (hpostal : home "postalCode" = some (.str postalCode)) :
    detailHeader home = .ok
      { menuName := name
        subText := address ++ ", " ++ subDistrict ++ ", " ++ district ++ ", " ++ province ++ ", " ++
          postalCode } := by
  simp only [detailHeader, interpolated, Fields.field_of_some hname, Fields.field_of_some haddress,
    Fields.field_of_some hsub, Fields.field_of_some hdistrict, Fields.field_of_some hprovince,
    Fields.field_of_some hpostal, Dyn.orElse_str, Dyn.asString_str, Dyn.text]
  rfl

theorem displayed_stored {x : Submission} (h : Complete x.position x.record) (id : String) :
    Displayed doubleText x (stored doubleText id x.record) := by
  obtain ⟨province, hprovince⟩ := Option.ne_none_iff_exists'.mp h.province
  obtain ⟨district, hdistrict⟩ := Option.ne_none_iff_exists'.mp h.district
  obtain ⟨subDistrict, hsub⟩ := Option.ne_none_iff_exists'.mp h.subDistrict
  obtain ⟨postalCode, hpostal⟩ := Option.ne_none_iff_exists'.mp h.postalCode
  refine ⟨rfl, shownText_ne_empty h.name, rfl,
    ⟨province, district, subDistrict, postalCode, hprovince, hdistrict, hsub, hpostal, ?_⟩, ?_, ?_⟩
  · exact detailHeader_of_texts rfl rfl (congrArg (some ∘ Ownership.nullable Dyn.str) hsub)
      (congrArg (some ∘ Ownership.nullable Dyn.str) hdistrict)
      (congrArg (some ∘ Ownership.nullable Dyn.str) hprovince)
      (congrArg (some ∘ Ownership.nullable Dyn.str) hpostal)
  · exact congrArg (some ∘ Ownership.nullable fun z => .double (doubleText z)) h.latitude
  · exact congrArg (some ∘ Ownership.nullable fun z => .double (doubleText z)) h.longitude

/-- **From the form to the page.** If the constructor of positions keeps coordinates in range, then
in every run in which no account is called `null`, a list whose query has succeeded shows exactly
the homes that its user had created and that were stored when the query was answered. Each of them
was submitted in the run, by a tap on Create in a form that the map had opened at a position and
that has passed it on; its row and its page are built, and show what was in that form at the tap. -/
theorem shown_of_run (hdegrees : LatLng.KeepsInRange ofDegrees) {es : List Event} {s : State}
    (hnull : ∀ e ∈ es, e ≠ .authStateChanged (some "null"))
    (hrun : EventRun.run (step ofDegrees doubleText assets) .initial es = some s) {i : ℕ}
    {list : ListScreen} (hlist : s.lists[i]? = some list) {homes : List Home}
    (hreply : list.reply = some ⟨homes, none⟩) :
    AnsweredIn ofDegrees doubleText assets es i ⟨homes, none⟩ ∧ Ownership.ShowsOwn list homes ∧
      ∀ home ∈ homes, ∃ x, SubmittedIn ofDegrees doubleText assets es x ∧ FromForm s x ∧
        Displayed doubleText x home := by
  obtain ⟨es', o, -, hmatches, hinv⟩ :=
    simulates.run ⟨matches_initial, Ownership.inv_initial⟩ (EventRun.meets_of_forall hnull) hrun
  have howned :=
    (hinv.lists list (hmatches.lists.symm ▸ List.mem_of_getElem? hlist)).2 _ hreply
  have h := inv_of_run hdegrees hrun
  obtain ⟨hanswered, hgenuine⟩ := h.lists i list _ hlist hreply
  refine ⟨hanswered, Ownership.showsOwn_of_reply howned hreply, fun home hhome => ?_⟩
  obtain ⟨x, hx, hcomplete, hhome⟩ := hgenuine home hhome
  exact ⟨x, hx, h.submitted x hx, hhome ▸ displayed_stored hcomplete home.id⟩

/-- A position in the park. -/
def park : LatLng := LatLng.clampAndWrap 13 100

/-- A user fills in a form that the map has opened, creates the home, and opens the list. -/
def createAndList : List Event :=
  [.authStateChanged (some "u1"), .openForm park] ++ FormCreate.fillForm.map (.form 0) ++
    [.form 0 (.tapCreate (some "u1")), .completed 0 0 "h1" (.ok ()), .openList, .queried 0 none]

/-- The record of that form. -/
def parkRecord : HomeRecord := FormCreate.record "u1" (FormCreate.filledAt park)

/-- The home that is stored. -/
def parkHome : Home := stored (fun _ => "0.0") "h1" parkRecord

/-- The state after that run. -/
def listed : State :=
  { user := some "u1"
    forms := [⟨park, { FormCreate.filledAt park with
      page := .leaving, passed := [parkRecord], added := [parkRecord], navigations := 1 }⟩]
    homes := [parkHome]
    lists := [⟨some "u1", some ⟨[parkHome], none⟩⟩] }

theorem run_createAndList :
    EventRun.run (step LatLng.clampAndWrap (fun _ => "0.0") FormCreate.twoProvinces) .initial
      createAndList = some listed := rfl

theorem not_null_createAndList : ∀ e ∈ createAndList, e ≠ .authStateChanged (some "null") := by
  intro e he hnull
  subst hnull
  simp [createAndList, FormCreate.fillForm] at he

/-- The home is in the list, with its row and its page. -/
theorem shown_createAndList :
    AnsweredIn LatLng.clampAndWrap (fun _ => "0.0") FormCreate.twoProvinces createAndList 0
        ⟨[parkHome], none⟩ ∧
      Ownership.ShowsOwn ⟨some "u1", some ⟨[parkHome], none⟩⟩ [parkHome] ∧
      (∀ home ∈ [parkHome], ∃ x,
        SubmittedIn LatLng.clampAndWrap (fun _ => "0.0") FormCreate.twoProvinces createAndList x ∧
          FromForm listed x ∧ Displayed (fun _ => "0.0") x home) ∧
      listRow (Ownership.withId parkHome) = .ok
        { menuName := "H", title := "", description := "", border := false, bold := true,
          space := false } ∧
      detailHeader (Ownership.withId parkHome) = .ok
        { menuName := "H", subText := "1, S, D, P, 10200" } := by
  obtain ⟨hanswered, hown, hshown⟩ := shown_of_run (i := 0)
    LatLng.keepsInRange_clampAndWrap not_null_createAndList run_createAndList rfl rfl
  exact ⟨hanswered, hown, hshown, rfl, rfl⟩

/-- `Ownership` reaches the home and the list of that run. -/
theorem refines_createAndList :
    ∃ es o, EventRun.run (Ownership.step fun _ => "0.0") .initial es = some o ∧
      Matches listed o ∧ Ownership.Inv o :=
  refines_ownership not_null_createAndList run_createAndList

end SmartHome.HomeLifecycle
