import SmartHome.Auth.AuthForms
import SmartHome.Home.Handlers
import SmartHome.Profile.Handlers

/-!
# Forms that are removed while calls are outstanding

The handlers of `SettingsScreen`, cut at the calls that they wait for, join those of
`FormCreateScreen`, `ProfileSettingsScreen` and of the forms for login and registration. A form
navigates after its last call and shows its errors with `setState`, and none asks whether it is
still mounted.

## Main definitions

* `SettingsScreen.Handlers.screen`.
* `AuthForms.quiet`, `SettingsScreen.Handlers.quiet` : the replies on which a form is not used.

## Main results

* `FormDisposal.forms_clean_iff` : for the five screens, a run is clean exactly when the calls that
  complete after the removal complete with quiet replies.
-/

namespace SmartHome

open Dart AsyncWidget

/-! ### Login and registration -/

namespace AuthForms

variable {texts : Texts} {describe : Thrown Error → String} {failed : String}

/-- A credential without a user: the form neither navigates nor shows an error. -/
def quiet (c : Credentials) (reply : Reply c) : Prop := reply = .ok none

theorem contained_onError (e : Thrown Error) : Contained (onError describe failed e) :=
  contained_setState fun _ => rfl

theorem contained_checkFormValidity : Contained checkFormValidity :=
  contained_setState fun _ => rfl

theorem contained_validate (emailValidator : Option (List UInt16) → Option String) :
    Contained (validate texts emailValidator) :=
  contained_of_ok fun _ => ⟨_, rfl⟩

theorem contained_login : Contained (login texts describe failed) := by
  refine (contained_validate _).bind fun valid => ?_
  cases valid with
  | true => exact contained_tryCatch _ contained_onError
  | false => exact contained_of_ok fun _ => ⟨(), rfl⟩

/-- What the handlers throw they throw from a `setState`, after the removal. -/
theorem catches : (loginScreen texts describe failed).Catches where
  initState := contained_of_ok fun _ => ⟨(), rfl⟩
  start i := by
    cases i with
    | editEmail text | editPassword text =>
      exact (contained_of_ok fun _ => ⟨(), rfl⟩).bind fun _ => contained_checkFormValidity
    | tapButton =>
      refine (contained_of_ok fun w => ⟨w.state, rfl⟩).bind fun s => ?_
      cases s.isButtonDisabled with
      | true => exact contained_of_ok fun _ => ⟨(), rfl⟩
      | false => exact contained_login
  resume c r := contained_tryCatch _ contained_onError

theorem quietTable : (loginScreen texts describe failed).QuietTable quiet where
  silent c r hr := by
    obtain rfl : r = .ok none := hr
    exact fun _ _ => rfl
  late c r hr := by
    rcases r with e | _ | uid
    · exact late_tryCatch ((fails_lift e).bind _) fun _ => late_setState _
    · exact absurd rfl hr
    · exact Late.tryCatch (late_lift_bind ((late_use .context).bind _)) _
  detached i hi := by cases hi

end AuthForms

/-! ### The settings page -/

namespace SettingsScreen.Handlers

/-- `_SettingsScreenState` has no fields. `navigations` counts the navigations to the login page. -/
structure SettingsScreenState where
  navigations : ℕ
  deriving DecidableEq

/-- The calls that the handlers wait for. -/
inductive Call where
  | fetchUserProfile (user : Uid)
  | signOut
  deriving DecidableEq

/-- What a call completes with. -/
abbrev Call.Reply (_ : Call) : Type := Except Error Unit

/-- The stretches of the handlers. -/
abbrev Stretch := Handler SettingsScreenState Call Error

/-- The logout button is the only action with a handler that waits. -/
inductive Action where
  | tapLogout
  deriving DecidableEq

/-- `_loadUserProfile`, for the account signed in. The provider is looked up first. -/
def loadUserProfile (user : Option Uid) : Stretch Unit := do
  context
  if let some uid := user then await (.fetchUserProfile uid)

/-- The `catch` of the logout button, which prints. -/
def onError (_ : Thrown Error) : Stretch Unit := pure ()

/-- The handler of the logout button once `signOut` has completed. -/
def signedOut (outcome : Except Error Unit) : Stretch Unit := do
  try
    outcome
    -- `Navigator.pushReplacementNamed(context, '/login')`
    context
    update do modify fun s => { s with navigations := s.navigations + 1 }
  catch e => onError e

/-- The page. -/
def screen (user : Option Uid) : Screen SettingsScreenState Call Action Error Call.Reply where
  initial := ⟨0⟩
  initState := loadUserProfile user
  start
    | .tapLogout => do
      try await .signOut catch e => onError e
  detached _ := false
  resume
    | .fetchUserProfile _, outcome => outcome
    | .signOut, outcome => signedOut outcome

/-- The page is only used after a logout that succeeds. -/
def quiet : (c : Call) → c.Reply → Prop
  | .fetchUserProfile _, _ => True
  | .signOut, outcome => outcome ≠ .ok ()

theorem quietTable (user : Option Uid) : (screen user).QuietTable quiet where
  silent c r hr := by
    cases c with
    | fetchUserProfile => cases r <;> exact fun _ _ => rfl
    | signOut =>
      cases r with
      | ok => exact absurd rfl hr
      | error => exact fun _ _ => rfl
  late c r hr := by
    cases c with
    | fetchUserProfile => exact absurd trivial hr
    | signOut =>
      obtain rfl : r = .ok () := not_not.mp hr
      exact Late.tryCatch (late_lift_bind ((late_use .context).bind _)) _
  detached i hi := by cases hi

end SettingsScreen.Handlers

/-! ### The five screens -/

namespace FormDisposal

/-- **Forms that are gone.** For each of the five screens, in every interleaving of its removal with
its actions and the calls that are outstanding: no handler uses the screen after its removal, and
where the handlers are to catch everything no exception escapes, exactly if after the removal calls
complete with quiet replies only. -/
theorem forms_clean_iff (texts : AuthForms.Texts) (describe : Thrown Error → String)
    (ofDegrees : ℚ → ℚ → LatLng) (lat long : ℚ) (user : Option Uid) (email : Option String) :
    (∀ form : AuthForms.Form, ∀ es,
      EventRun.Along (form.screen texts describe).step (Clean true)
        (form.screen texts describe).opened es ↔
      EventRun.Meets (form.screen texts describe).step (QuietAfterRemoval AuthForms.quiet)
        (form.screen texts describe).opened es) ∧
    (∀ es, EventRun.Along (FormCreate.Handlers.screen describe ofDegrees lat long).step (Clean true)
        (FormCreate.Handlers.screen describe ofDegrees lat long).opened es ↔
      EventRun.Meets (FormCreate.Handlers.screen describe ofDegrees lat long).step
        (QuietAfterRemoval FormCreate.Handlers.quiet)
        (FormCreate.Handlers.screen describe ofDegrees lat long).opened es) ∧
    (∀ es, EventRun.Along (ProfileSettings.Handlers.screen user email).step (Clean false)
        (ProfileSettings.Handlers.screen user email).opened es ↔
      EventRun.Meets (ProfileSettings.Handlers.screen user email).step
        (QuietAfterRemoval ProfileSettings.Handlers.quiet)
        (ProfileSettings.Handlers.screen user email).opened es) ∧
    (∀ es, EventRun.Along (SettingsScreen.Handlers.screen user).step (Clean false)
        (SettingsScreen.Handlers.screen user).opened es ↔
      EventRun.Meets (SettingsScreen.Handlers.screen user).step
        (QuietAfterRemoval SettingsScreen.Handlers.quiet)
        (SettingsScreen.Handlers.screen user).opened es) := by
  refine ⟨fun form => ?_, ?_, ?_, ?_⟩
  · rw [AuthForms.Form.screen_eq]
    exact Screen.along_clean_iff AuthForms.quietTable fun _ => AuthForms.catches
  · exact Screen.along_clean_iff FormCreate.Handlers.quietTable fun _ => FormCreate.Handlers.catches
  · exact Screen.along_clean_iff ProfileSettings.Handlers.quietTable (by rintro ⟨⟩)
  · exact Screen.along_clean_iff (SettingsScreen.Handlers.quietTable user) (by rintro ⟨⟩)

end FormDisposal

end SmartHome
