import SmartHome.Profile.SettingsForm

/-!
# Edits before the profile is loaded

The settings form can be edited from the moment it opens, while the profile document is still being
read. When the document arrives its fields are written into the controllers one by one, whatever is
in them. A text that the user has entered before stays only where nothing is written: the read
throws, there is no document, or a field up to this one is not a string.

## Main definitions

* `ProfileSettings.Field` : the fields that the user can change.
* `ProfileSettings.entered` : the text that the user entered last.
* `ProfileSettings.loadedText` : the text that the load writes.

## Main results

* `ProfileSettings.text_of_run` : the text of a field after a run in which the document is loaded,
  and what a save stores of it.
-/

namespace SmartHome.ProfileSettings

open Dart

/-- The fields that the user can change, in the order in which the load writes them. -/
inductive Field where
  | name
  | surname
  | phone
  | dob
  deriving DecidableEq

namespace Field

/-- The text of a field. -/
def text (f : Field) (t : Texts) : String :=
  match f with
  | .name => t.name
  | .surname => t.surname
  | .phone => t.phone
  | .dob => t.dob

/-- The key of a field in the document. -/
def key : Field → String
  | .name => "firstname"
  | .surname => "lastname"
  | .phone => "phone"
  | .dob => "dob"

/-- The fields that the load writes before this one. -/
def before : Field → List Field
  | .name => []
  | .surname => [.name]
  | .phone => [.name, .surname]
  | .dob => [.name, .surname, .phone]

/-- The field of a text input. -/
def ofInput : Input → Field
  | .name => .name
  | .surname => .surname
  | .phone => .phone

end Field

/-- The text that an event of the user enters into a field. -/
def enteredBy (f : Field) : Event → Option String
  | .edit input text => if Field.ofInput input = f then some text else none
  | .confirmDate date => if f = .dob then some date.text else none
  | _ => none

/-- The text that the user has entered last into a field, if any. -/
def entered (f : Field) : List Event → Option String
  | [] => none
  | e :: es => (entered f es).or (enteredBy f e)

/-- The text that the fields of a document write into a field: none if this field or one before it
is not a string. -/
def writtenText (d : Fields) (f : Field) : Option String :=
  if f.before.all fun g => (d.fieldOrEmpty g.key).isOk then (d.fieldOrEmpty f.key).toOption
  else none

/-- The text that the load writes into a field when it completes. -/
def loadedText (s : State) (ok : Bool) (f : Field) : Option String :=
  if ok then s.loading.bind fun user => (s.profiles user).bind fun d => writtenText d f else none

/-! ### One step -/

theorem text_fillTexts (d : Fields) (t : Texts) (f : Field) :
    f.text (fillTexts d t).1 = (writtenText d f).getD (f.text t) := by
  unfold fillTexts writtenText
  cases hname : d.fieldOrEmpty "firstname" <;> cases hsurname : d.fieldOrEmpty "lastname" <;>
    cases hphone : d.fieldOrEmpty "phone" <;> cases hdob : d.fieldOrEmpty "dob" <;>
      cases f <;>
        simp [Field.before, Field.key, Field.text, hname, hsurname, hphone, hdob, Except.isOk,
          Except.toBool, Except.toOption]

theorem text_loadUserData (snapshot : Option Fields) (email : Option String) (t : Texts)
    (f : Field) :
    f.text (loadUserData snapshot email t) =
      (snapshot.bind fun d => writtenText d f).getD (f.text t) := by
  cases snapshot with
  | none => cases f <;> rfl
  | some d =>
    rw [Option.bind_some, ← text_fillTexts]
    unfold loadUserData
    cases hfill : fillTexts d t with
    | mk texts outcome => cases outcome <;> cases f <;> simp [hfill, Field.text]

theorem text_edit (input : Input) (text : String) (s : State) (f : Field) :
    f.text (edit input text s).texts = (enteredBy f (.edit input text)).getD (f.text s.texts) := by
  cases input <;> cases f <;> rfl

/-- The load happens once. -/
theorem step_loaded {s t : State} {ok : Bool} (hstep : step s (.loaded ok) = some t) :
    s.loading ≠ none ∧ t.loading = none ∧
      ∀ f : Field, f.text t.texts = (loadedText s ok f).getD (f.text s.texts) := by
  obtain ⟨user, huser, rfl⟩ := Option.map_eq_some_iff.mp hstep
  refine ⟨by simp [huser], by cases ok <;> rfl, fun f => ?_⟩
  cases ok with
  | false => rfl
  | true =>
    have hloaded : loadedText s true f = (s.profiles user).bind fun d => writtenText d f := by
      rw [loadedText, if_pos rfl, huser, Option.bind_some]
    rw [hloaded]
    exact text_loadUserData _ _ _ f

/-- Every other step leaves in a field what the user has entered last. -/
theorem text_step {s t : State} {e : Event} (he : ∀ ok, e ≠ .loaded ok)
    (hstep : step s e = some t) :
    t.loading = s.loading ∧
      ∀ f : Field, f.text t.texts = (enteredBy f e).getD (f.text s.texts) := by
  cases stepped_of_step hstep with
  | loaded | loadFailed => exact absurd rfl (he _)
  | edit input text => exact ⟨by cases input <;> rfl, text_edit input text s⟩
  | confirmDate date => exact ⟨rfl, fun f => by cases f <;> rfl⟩
  | tapSubmit user =>
    obtain ⟨saves, heq⟩ := startUpdate_eq user s
    rw [heq]
    exact ⟨rfl, fun f => rfl⟩
  | @completed i save rest =>
    obtain ⟨_, _, _, _, _, heq⟩ := resumeUpdate_eq save { s with saves := rest }
    rw [heq]
    exact ⟨rfl, fun f => rfl⟩
  | tapDate | closePicker | failed | leave | dispose => exact ⟨rfl, fun f => rfl⟩

/-! ### Runs -/

theorem loading_step {s t : State} {e : Event} (hs : s.loading = none)
    (hstep : step s e = some t) : t.loading = none := by
  by_cases he : ∃ ok, e = .loaded ok
  · obtain ⟨ok, rfl⟩ := he
    exact absurd hs (step_loaded hstep).1
  · exact (text_step (fun ok h => he ⟨ok, h⟩) hstep).1.trans hs

/-- A run without the load leaves in every field what the user has entered last. -/
theorem text_run {s t : State} {es : List Event} (hrun : EventRun.run step s es = some t)
    (hload : s.loading = none ∨ t.loading ≠ none) (f : Field) :
    f.text t.texts = (entered f es).getD (f.text s.texts) := by
  induction es generalizing s with
  | nil =>
    obtain rfl := Option.some.inj hrun
    rfl
  | cons e es ih =>
    obtain ⟨u, hu, hrest⟩ := EventRun.run_cons_eq_some.mp hrun
    -- a load here would have been the only one, and nothing is being read after it
    have he : ∀ ok, e ≠ .loaded ok := by
      rintro ok rfl
      obtain ⟨hs, hu', -⟩ := step_loaded hu
      exact (hload.resolve_left hs)
        (EventRun.invariant_run (I := fun s => s.loading = none) (fun _ _ _ => loading_step) hu'
          hrest)
    obtain ⟨hloading, htext⟩ := text_step he hu
    rw [ih hrest (hload.imp_left hloading.trans), htext f, entered]
    cases entered f es <;> rfl

/-- **Edits before the profile is loaded.** For every run that the load divides in two: a field
holds what the user has entered after the load; or else what the load has written into it; or else
what the user has entered before. A save writes that text under the key of the field. -/
theorem text_of_run {profiles : Profiles} {user : Option Uid} {email : Option String}
    {before after : List Event} {ok : Bool} {s t u : State}
    (hbefore : EventRun.run step (State.initial profiles user email) before = some s)
    (hload : step s (.loaded ok) = some t) (hafter : EventRun.run step t after = some u)
    (f : Field) :
    f.text u.texts =
        (entered f after).getD ((loadedText s ok f).getD ((entered f before).getD "")) ∧
      ∀ owner v, step u (.tapSubmit (some owner)) = some v → v.saves = u.saves ∨
        ∃ data, v.saves = u.saves ++ [.set owner data] ∧
          data.lookup f.key = some (.str (f.text u.texts)) := by
  obtain ⟨hs, ht, htext⟩ := step_loaded hload
  constructor
  · have hempty : f.text (State.initial profiles user email).texts = "" := by cases f <;> rfl
    rw [text_run hafter (.inl ht) f, htext f, text_run hbefore (.inr hs) f, hempty]
  · intro owner v hstep
    cases stepped_of_step hstep
    rcases startUpdate_cases (some owner) u with heq | ⟨owner', howner, -, heq⟩ <;> rw [heq]
    · exact .inl rfl
    · obtain rfl := Option.some.inj howner
      exact .inr ⟨_, rfl, by cases f <;> rfl⟩

/-- The document of the first user. -/
def annaProfiles : Profiles := fun user =>
  if user = "u1" then
    some (Fields.ofList [("firstname", .str "Anna"), ("lastname", .str "B"), ("phone", .str "1"),
      ("dob", .str "01/02/1990")])
  else none

/-- The form of the first user, as it opens. -/
def annaForm : State := State.initial annaProfiles (some "u1") (some "a@b.co")

/-- The name is edited before the load completes, and the surname after it. -/
theorem text_of_run_anna : ∃ s t u,
    EventRun.run step annaForm [.edit .name "Bob"] = some s ∧ step s (.loaded true) = some t ∧
      EventRun.run step t [.edit .surname "C"] = some u ∧ ∀ f : Field,
        f.text u.texts = (entered f [.edit .surname "C"]).getD
          ((loadedText s true f).getD ((entered f [.edit .name "Bob"]).getD "")) :=
  ⟨_, _, _, rfl, rfl, rfl, fun f =>
    (@text_of_run annaProfiles (some "u1") (some "a@b.co") _ _ _ _ _ _ rfl rfl rfl f).1⟩

/-- The name that the user has entered is replaced by the one in the document, which the save that
follows stores again. -/
theorem early_edit_lost : ∃ s t,
    EventRun.run step annaForm [.edit .name "Bob", .loaded true] = some s ∧
      Field.text .name s.texts = "Anna" ∧ Field.text .name s.texts ≠ "Bob" ∧
      step s (.tapSubmit (some "u1")) = some t ∧
      ∃ data, t.saves = [.set "u1" data] ∧ data.lookup "firstname" = some (.str "Anna") :=
  ⟨_, _, rfl, rfl, by decide, rfl, _, rfl, rfl⟩

end SmartHome.ProfileSettings
