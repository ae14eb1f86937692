import SmartHome.Firestore
import SmartHome.Lib.EventRun
import SmartHome.Lib.FormPage
import SmartHome.Lib.Outstanding

/-!
# The profile settings form

One visit to `ProfileSettingsScreen`. The page loads the profile document into its text fields when
it opens, lets the user edit them and pick a date of birth, and saves by `_updateProfile`, which
waits twice: for the merging write of the document and for `updateDisplayName`. A call that throws
ends its handler, since nothing catches it. At its end the handler pops the route on top of the
navigator, which is the date picker if that is open.

## Main definitions

* `ProfileSettings.Texts`, `ProfileSettings.Date`, `ProfileSettings.State`, `ProfileSettings.Event`.
* `ProfileSettings.loadUserData`, `ProfileSettings.validate`, `ProfileSettings.finishUpdate`.
* `ProfileSettings.step`.

## Main results

* `ProfileSettings.startUpdate_cases`, `ProfileSettings.finishUpdate_eq`,
  `ProfileSettings.resumeUpdate_eq` : what a save changes.
* `ProfileSettings.stepped_of_step` : what a step does.
-/

namespace SmartHome.ProfileSettings

open Dart
open FormPage (Page)

/-- The texts of the five controllers. -/
structure Texts where
  name : String
  surname : String
  phone : String
  dob : String
  email : String
  deriving DecidableEq

/-- A day, as the date picker hands it over. -/
structure Date where
  year : ℕ
  month : ℕ
  day : ℕ
  deriving DecidableEq

/-- A save that waits for a call: for the write of the data, or for `updateDisplayName`. -/
inductive Save where
  | set (owner : Uid) (data : List (String × Dyn))
  | updateDisplayName (displayName : String)

/-- The state of a visit. `email` is the address of the account when the page was created,
`loading` the account whose document is being read, `picker` the initial date of an open date
picker, and `pagePops` the number of pages that the handlers of the visit have popped. -/
structure State where
  page : Page
  profiles : Profiles
  email : Option String
  loading : Option Uid
  texts : Texts
  selectedDate : Option Date
  picker : Option Date
  saves : List Save
  pagePops : ℕ

/-- A visit, with the account that is signed in and its address. -/
def State.initial (profiles : Profiles) (user : Option Uid) (email : Option String) : State :=
  { page := .shown, profiles, email, loading := user
    texts := { name := "", surname := "", phone := "", dob := "", email := "" }
    selectedDate := none, picker := none, saves := [], pagePops := 0 }

/-- The text fields that can be edited by typing. -/
inductive Input where
  | name
  | surname
  | phone
  deriving DecidableEq

/-- What can happen next. A read or a call succeeds or throws; a tap on Submit finds the account
that is signed in at that moment, a tap on the date of birth the present day. -/
inductive Event where
  | loaded (ok : Bool)
  | edit (input : Input) (text : String)
  | tapDate (now : Date)
  | confirmDate (date : Date)
  | closePicker
  | tapSubmit (user : Option Uid)
  | completed (i : ℕ) (ok : Bool)
  | leave
  | dispose

/-! ### Handlers -/

/-- `toString().padLeft(2, '0')`. -/
def padLeft2 (n : ℕ) : String := if n < 10 then "0" ++ toString n else toString n

/-- The text of a date: day, month and year. -/
def Date.text (d : Date) : String :=
  padLeft2 d.day ++ "/" ++ padLeft2 d.month ++ "/" ++ toString d.year

/-- The controllers after the fields of the document have been written into them one by one, up to
a field that is not a string. -/
def fillTexts (d : Fields) (t : Texts) : Texts × Except Error Unit :=
  match d.fieldOrEmpty "firstname" with
  | .error e => (t, .error e)
  | .ok name =>
    match d.fieldOrEmpty "lastname" with
    | .error e => ({ t with name }, .error e)
    | .ok surname =>
      match d.fieldOrEmpty "phone" with
      | .error e => ({ t with name, surname }, .error e)
      | .ok phone =>
        match d.fieldOrEmpty "dob" with
        | .error e => ({ t with name, surname, phone }, .error e)
        | .ok dob => ({ t with name, surname, phone, dob }, .ok ())

/-- `_loadUserData` once the document has been read. -/
def loadUserData (snapshot : Option Fields) (email : Option String) (t : Texts) : Texts :=
  match snapshot with
  | none => { t with email := email.getD "" }
  | some d =>
    match fillTexts d t with
    | (t, .ok ()) => { t with email := email.getD "" }
    | (t, .error _) => t

/-- The characters up to the next `@`, and the others. -/
def upToAt (cs : List Char) : List Char × List Char := cs.span fun c => c ≠ '@'

/-- `RegExp(r'^[^@]+@[^@]+\.[^@]+').hasMatch(value)`: something without an `@`, an `@`, and
before the next one a dot that is neither the first nor the last character. -/
def emailMatches (value : String) : Bool :=
  match upToAt value.toList with
  | (_ :: _, '@' :: rest) => (((upToAt rest).1.drop 1).dropLast).contains '.'
  | _ => false

/-- `_formKey.currentState!.validate()`. -/
def validate (t : Texts) : Bool :=
  !t.name.isEmpty && !t.surname.isEmpty && !t.dob.isEmpty && !t.phone.isEmpty &&
    !t.email.isEmpty && emailMatches t.email

/-- The data that `_updateProfile` writes. -/
def Texts.data (t : Texts) : List (String × Dyn) :=
  [("firstname", .str t.name), ("lastname", .str t.surname), ("phone", .str t.phone),
    ("dob", .str t.dob), ("email", .str t.email)]

/-- `_updateProfile` up to its first call. -/
def startUpdate (user : Option Uid) (s : State) : State :=
  if validate s.texts then
    match user with
    | some owner => { s with saves := s.saves ++ [.set owner s.texts.data] }
    | none => s
  else s

/-- The end of `_updateProfile`: `Navigator.pop`. It removes the date picker, if that is on top, or
else a page: this one, or the one that is on top when this one has left. -/
def finishUpdate (s : State) : State :=
  match s.page with
  | .shown =>
    if s.picker.isSome then { s with picker := none }
    else { s with page := .leaving, pagePops := s.pagePops + 1 }
  | .leaving => { s with pagePops := s.pagePops + 1 }
  | .disposed => s

/-- A save whose call has succeeded goes on. -/
def resumeUpdate (save : Save) (s : State) : State :=
  match save with
  | .set owner data =>
    { s with profiles := s.profiles.setMerge owner data,
             saves := s.saves ++ [.updateDisplayName s.texts.name] }
  | .updateDisplayName _ => finishUpdate s

/-- A submission starts a write of the texts, or nothing. -/
theorem startUpdate_cases (user : Option Uid) (s : State) :
    startUpdate user s = s ∨ ∃ owner, user = some owner ∧ validate s.texts = true ∧
      startUpdate user s = { s with saves := s.saves ++ [.set owner s.texts.data] } := by
  unfold startUpdate
  split
  · next hvalid =>
    cases user with
    | none => exact .inl rfl
    | some owner => exact .inr ⟨owner, rfl, hvalid, rfl⟩
  · exact .inl rfl

theorem startUpdate_eq (user : Option Uid) (s : State) :
    ∃ saves, startUpdate user s = { s with saves } := by
  rcases startUpdate_cases user s with heq | ⟨_, -, -, heq⟩ <;> exact ⟨_, heq⟩

theorem finishUpdate_eq (s : State) :
    ∃ page picker pagePops, finishUpdate s = { s with page, picker, pagePops } := by
  unfold finishUpdate
  split
  · split <;> exact ⟨_, _, _, rfl⟩
  · exact ⟨_, _, _, rfl⟩
  · exact ⟨_, _, _, rfl⟩

theorem resumeUpdate_eq (save : Save) (s : State) : ∃ page profiles picker saves pagePops,
    resumeUpdate save s = { s with page, profiles, picker, saves, pagePops } := by
  cases save with
  | set => exact ⟨_, _, _, _, _, rfl⟩
  | updateDisplayName =>
    obtain ⟨page, picker, pagePops, heq⟩ := finishUpdate_eq s
    exact ⟨page, _, picker, _, pagePops, heq⟩

/-- An edit of a text field. -/
def edit (input : Input) (text : String) (s : State) : State :=
  match input with
  | .name => { s with texts := { s.texts with name := text } }
  | .surname => { s with texts := { s.texts with surname := text } }
  | .phone => { s with texts := { s.texts with phone := text } }

theorem edit_eq (input : Input) (text : String) (s : State) : ∃ name surname phone,
    edit input text s = { s with texts := { s.texts with name, surname, phone } } := by
  cases input <;> exact ⟨_, _, _, rfl⟩

/-! ### Steps -/

/-- The page reacts to taps: it is on the stack, and no picker covers it. -/
def interactive (s : State) : Bool := s.page = .shown && s.picker.isNone

/-- One step. -/
def step (s : State) : Event → Option State
  | .loaded ok =>
    s.loading.map fun user =>
      if ok then
        { s with loading := none, texts := loadUserData (s.profiles user) s.email s.texts }
      else { s with loading := none }
  | .edit input text => if interactive s then some (edit input text s) else none
  | .tapDate now =>
    if interactive s then some { s with picker := some (s.selectedDate.getD now) } else none
  | .confirmDate date =>
    s.picker.map fun _ =>
      { s with picker := none, selectedDate := some date,
               texts := { s.texts with dob := date.text } }
  | .closePicker => s.picker.map fun _ => { s with picker := none }
  | .tapSubmit user => if interactive s then some (startUpdate user s) else none
  | .completed i ok =>
    (Outstanding.complete s.saves i).map fun call =>
      if ok then resumeUpdate call.1 { s with saves := call.2 } else { s with saves := call.2 }
  | .leave => if interactive s then some { s with page := .leaving } else none
  | .dispose => if s.page = .leaving then some { s with page := .disposed } else none

/-- What a step does, with the guards that it has passed. -/
inductive Stepped (s : State) : Event → State → Prop
  | loaded {user : Uid} (hloading : s.loading = some user) :
      Stepped s (.loaded true)
        { s with loading := none, texts := loadUserData (s.profiles user) s.email s.texts }
  | loadFailed {user : Uid} (hloading : s.loading = some user) :
      Stepped s (.loaded false) { s with loading := none }
  | edit (input : Input) (text : String) (hshown : interactive s = true) :
      Stepped s (.edit input text) (edit input text s)
  | tapDate (now : Date) (hshown : interactive s = true) :
      Stepped s (.tapDate now) { s with picker := some (s.selectedDate.getD now) }
  | confirmDate {initial : Date} (date : Date) (hpicker : s.picker = some initial) :
      Stepped s (.confirmDate date)
        { s with picker := none, selectedDate := some date,
                 texts := { s.texts with dob := date.text } }
  | closePicker {initial : Date} (hpicker : s.picker = some initial) :
      Stepped s .closePicker { s with picker := none }
  | tapSubmit (user : Option Uid) (hshown : interactive s = true) :
      Stepped s (.tapSubmit user) (startUpdate user s)
  | completed {i : ℕ} {save : Save} {rest : List Save}
      (hcall : Outstanding.complete s.saves i = some (save, rest)) :
      Stepped s (.completed i true) (resumeUpdate save { s with saves := rest })
  | failed {i : ℕ} {save : Save} {rest : List Save}
      (hcall : Outstanding.complete s.saves i = some (save, rest)) :
      Stepped s (.completed i false) { s with saves := rest }
  | leave (hshown : interactive s = true) : Stepped s .leave { s with page := .leaving }
  | dispose (hleaving : s.page = .leaving) : Stepped s .dispose { s with page := .disposed }

theorem stepped_of_step {s t : State} {e : Event} (hstep : step s e = some t) : Stepped s e t := by
  cases e with
  | loaded ok =>
    obtain ⟨user, hloading, rfl⟩ := Option.map_eq_some_iff.mp hstep
    cases ok with
    | true => exact .loaded hloading
    | false => exact .loadFailed hloading
  | edit input text =>
    simp only [step, Option.ite_none_right_eq_some, Option.some.injEq] at hstep
    obtain ⟨hshown, rfl⟩ := hstep
    exact .edit input text hshown
  | tapDate now =>
    simp only [step, Option.ite_none_right_eq_some, Option.some.injEq] at hstep
    obtain ⟨hshown, rfl⟩ := hstep
    exact .tapDate now hshown
  | confirmDate date =>
    obtain ⟨initial, hpicker, rfl⟩ := Option.map_eq_some_iff.mp hstep
    exact .confirmDate date hpicker
  | closePicker =>
    obtain ⟨initial, hpicker, rfl⟩ := Option.map_eq_some_iff.mp hstep
    exact .closePicker hpicker
  | tapSubmit user =>
    simp only [step, Option.ite_none_right_eq_some, Option.some.injEq] at hstep
    obtain ⟨hshown, rfl⟩ := hstep
    exact .tapSubmit user hshown
  | completed i ok =>
    obtain ⟨⟨save, rest⟩, hcall, rfl⟩ := Option.map_eq_some_iff.mp hstep
    cases ok with
    | true => exact .completed hcall
    | false => exact .failed hcall
  | leave =>
    simp only [step, Option.ite_none_right_eq_some, Option.some.injEq] at hstep
    obtain ⟨hshown, rfl⟩ := hstep
    exact .leave hshown
  | dispose =>
    simp only [step, Option.ite_none_right_eq_some, Option.some.injEq] at hstep
    obtain ⟨hleaving, rfl⟩ := hstep
    exact .dispose hleaving

theorem page_of_interactive {s : State} (h : interactive s = true) : s.page = .shown :=
  of_decide_eq_true ((Bool.and_eq_true _ _).mp h).1

theorem picker_of_interactive {s : State} (h : interactive s = true) : s.picker = none :=
  Option.isNone_iff_eq_none.mp ((Bool.and_eq_true _ _).mp h).2

end SmartHome.ProfileSettings
