import SmartHome.Auth.EmailValidators
import SmartHome.Lib.AsyncWidget

/-!
# The forms for login and registration

`LoginScreen` and `RegisterScreen` keep an email address and a password. The button is enabled while
both texts are non-empty; a tap validates the fields and sends the credentials, and the reply either
replaces the page by `/home` or is shown as an error. The button of the form for registration
validates the fields a second time, in its own closure.

The request is the call that the handlers wait for. Nothing keeps the button from being tapped
again while it is outstanding.

## Main definitions

* `AuthForms.State`, `AuthForms.Action`, `AuthForms.Credentials`.
* `AuthForms.loginScreen`, `AuthForms.registerScreen`.

## Main results

* `AuthForms.registerScreen_eq` : the second validation makes no difference.
* `AuthForms.accepted_of_run` : every request carries credentials that have passed the validators.
* `AuthForms.reported_iff` : when a tap on the button lets the user know how it ended.
-/

namespace SmartHome.AuthForms

open Dart AsyncWidget
open EmailValidators (emailRegex loginValidator registerValidator)
open Utf16 (code ofString)

/-! ### The two forms -/

/-- The localized texts of the validators. -/
structure Texts extends EmailValidators.Texts where
  passwordValidationIsNull : String

/-- The fields of `_LoginScreenState` and of `_RegisterScreenState`: the texts of the controllers,
the errors under the two fields, and the state of the button and of the message. `navigations`
counts the replacements of the page by `/home`. -/
structure State where
  email : List UInt16
  password : List UInt16
  emailError : Option String
  passwordError : Option String
  isButtonDisabled : Bool
  errorMessage : String
  navigations : ℕ
  deriving DecidableEq

/-- What `signInWithEmailAndPassword` and `createUserWithEmailAndPassword` are called with. -/
structure Credentials where
  email : List UInt16
  password : List UInt16
  deriving DecidableEq

/-- What they complete with: the user of the credential, which can be null, or an exception. -/
abbrev Reply (_ : Credentials) : Type := Except Error (Option Uid)

/-- The stretches of the handlers. -/
abbrev Stretch := Handler State Credentials Error

/-- What the user can do. -/
inductive Action where
  | editEmail (text : List UInt16)
  | editPassword (text : List UInt16)
  | tapButton
  deriving DecidableEq

/-- The form that is built: the texts are empty and the button is disabled. -/
def State.initial : State :=
  { email := [], password := [], emailError := none, passwordError := none
    isButtonDisabled := true, errorMessage := "", navigations := 0 }

/-- The texts that the button sends. -/
def State.credentials (s : State) : Credentials := ⟨s.email, s.password⟩

/-- The listener of the two controllers. -/
def checkFormValidity : Stretch Unit :=
  setState do
    modify fun s => { s with isButtonDisabled := s.email.isEmpty || s.password.isEmpty }

/-- The validator of a password. It shows the text for a wrong address below a short password. -/
def passwordValidator (texts : Texts) : Option (List UInt16) → Option String
  | none => some texts.passwordValidationIsNull
  | some value =>
    if value.isEmpty then some texts.passwordValidationIsNull
    else if value.length < 6 then some texts.emailValidation
    else none

section Shared

variable (texts : Texts) (emailValidator : Option (List UInt16) → Option String)

/-- The form after its fields have been validated. -/
def validated (s : State) : State :=
  { s with emailError := emailValidator (some s.email)
           passwordError := passwordValidator texts (some s.password) }

/-- No field shows an error. -/
def State.valid (s : State) : Bool := s.emailError.isNone && s.passwordError.isNone

/-- `_formKey.currentState?.validate() ?? false`: every field is validated. -/
def validate : Stretch Bool := do
  update do modify (validated texts emailValidator)
  let s ← fields
  return s.valid

variable (describe : Thrown Error → String) (failed : String)

/-- The `catch`. -/
def onError (e : Thrown Error) : Stretch Unit :=
  setState do modify fun s => { s with errorMessage := failed ++ describe e }

/-- The `try` up to the request. -/
def submit : Stretch Unit := do
  try
    setState do modify fun s => { s with errorMessage := "" }
    let s ← fields
    await s.credentials
  catch e => onError describe failed e

/-- The `try` from the reply on. -/
def resumed (reply : Except Error (Option Uid)) : Stretch Unit := do
  try
    let user ← reply
    if user.isSome then
      -- `Navigator.pushReplacementNamed(context, '/home')`
      context
      update do modify fun s => { s with navigations := s.navigations + 1 }
  catch e => onError describe failed e

/-- A form whose enabled button calls `onPressed`. -/
def screen (onPressed : Stretch Unit) : Screen State Credentials Action Error Reply where
  initial := .initial
  initState := pure ()
  start
    | .editEmail text => do
      update do modify fun s => { s with email := text }
      checkFormValidity
    | .editPassword text => do
      update do modify fun s => { s with password := text }
      checkFormValidity
    | .tapButton => do
      let s ← fields
      unless s.isButtonDisabled do onPressed
  detached _ := false
  resume _ reply := resumed describe failed reply

end Shared

section Forms

variable (texts : Texts) (describe : Thrown Error → String)

/-- The message of a failed login, without the error. -/
def loginFailed : String := "การล็อกอินล้มเหลว: "

/-- `_login` up to the request. -/
def login (failed : String) : Stretch Unit := do
  if ← validate texts (loginValidator texts.toTexts) then submit describe failed

/-- `LoginScreen`. -/
def loginScreen (failed : String) : Screen State Credentials Action Error Reply :=
  screen describe failed (login texts describe failed)

/-- The message of a failed registration, without the error. -/
def registerFailed : String := "การลงทะเบียนล้มเหลว: "

/-- `_register` up to the request. -/
def register (failed : String) : Stretch Unit := do
  if ← validate texts (registerValidator texts.toTexts) then submit describe failed

/-- `RegisterScreen`. Its button validates before it calls `_register`. -/
def registerScreen (failed : String) : Screen State Credentials Action Error Reply :=
  screen describe failed do
    if ← validate texts (registerValidator texts.toTexts) then register texts describe failed

end Forms

/-! ### Validation -/

/-- Credentials that pass the validators. -/
def Accepted (c : Credentials) : Prop :=
  (emailRegex (code '@') (code '.')).hasMatch c.email = true ∧ 6 ≤ c.password.length

instance (c : Credentials) : Decidable (Accepted c) := inferInstanceAs (Decidable (_ ∧ _))

variable {texts : Texts}

theorem passwordValidator_eq_none_iff {value : List UInt16} :
    passwordValidator texts (some value) = none ↔ 6 ≤ value.length := by
  cases value with
  | nil => simp [passwordValidator]
  | cons u value => simp [passwordValidator]

/-- A form is valid when both validators accept. -/
theorem valid_validated_iff {s : State} :
    (validated texts (loginValidator texts.toTexts) s).valid = true ↔ Accepted s.credentials := by
  simp only [State.valid, validated, Bool.and_eq_true, Option.isNone_iff_eq_none]
  exact and_congr EmailValidators.emailValidator_eq_none_iff passwordValidator_eq_none_iff

theorem run_validate (emailValidator : Option (List UInt16) → Option String)
    (w : Widget State Credentials) :
    (validate texts emailValidator).run w =
      (.ok (validated texts emailValidator w.state).valid,
        { w with state := validated texts emailValidator w.state }) := rfl

variable {describe : Thrown Error → String} {failed : String}

/-- Validating again shows the same errors. -/
theorem validated_validated (emailValidator : Option (List UInt16) → Option String) (s : State) :
    validated texts emailValidator (validated texts emailValidator s) =
      validated texts emailValidator s := rfl

/-- What comes after a validation, if the fields are valid. -/
theorem run_if_validate (emailValidator : Option (List UInt16) → Option String)
    (onValid : Stretch Unit) (w : Widget State Credentials) :
    (do if ← validate texts emailValidator then onValid : Stretch Unit).run w =
      if (validated texts emailValidator w.state).valid then
        onValid.run { w with state := validated texts emailValidator w.state }
      else (.ok (), { w with state := validated texts emailValidator w.state }) := by
  rw [Handler.run_bind, run_validate]
  dsimp only
  split <;> rfl

/-- **The two forms.** The form for registration validates a second time for nothing: but for their
messages it is the form for login. -/
theorem registerScreen_eq :
    registerScreen texts describe failed = loginScreen texts describe failed := by
  refine congrArg (screen describe failed) (Handler.ext fun w => ?_)
  -- the two validators of addresses are the same function
  have hregister : registerValidator texts.toTexts = loginValidator texts.toTexts := rfl
  rw [hregister, run_if_validate, register, hregister, login, run_if_validate, run_if_validate,
    validated_validated]
  split <;> rfl

/-! ### The button -/

/-- The texts of the errors and of the message when the button has been tapped. -/
def tapped (texts : Texts) (s : State) : State :=
  if s.isButtonDisabled then s
  else if Accepted s.credentials then
    { validated texts (loginValidator texts.toTexts) s with errorMessage := "" }
  else validated texts (loginValidator texts.toTexts) s

/-- The requests that a tap on the button adds. -/
def sent (s : State) : List Credentials :=
  if s.isButtonDisabled = false ∧ Accepted s.credentials then [s.credentials] else []

theorem run_submit {w : Widget State Credentials} (hw : w.mounted = true) :
    (submit describe failed).run w =
      (.ok (), { w with state := { w.state with errorMessage := "" }
                        calls := w.calls ++ [w.state.credentials] }) := by
  simp only [submit, Handler.run_tryCatch, Handler.run_bind, run_setState _ hw]
  rfl

/-- A tap on the button sends the credentials exactly if the button is enabled and they are
accepted. -/
theorem run_tapButton {w : Widget State Credentials} (hw : w.mounted = true) :
    ((loginScreen texts describe failed).start .tapButton).run w =
      (.ok (), { w with state := tapped texts w.state, calls := w.calls ++ sent w.state }) := by
  have hstart : ((loginScreen texts describe failed).start .tapButton).run w =
      if w.state.isButtonDisabled then (.ok (), w) else (login texts describe failed).run w := by
    simp only [loginScreen, screen, Handler.run_bind, fields]
    cases w.state.isButtonDisabled <;> rfl
  rw [hstart, tapped, sent]
  cases hdisabled : w.state.isButtonDisabled with
  | true => simp
  | false =>
    rw [if_neg Bool.false_ne_true, if_neg Bool.false_ne_true, login, run_if_validate]
    by_cases haccepted : Accepted w.state.credentials
    · rw [if_pos (valid_validated_iff.mpr haccepted), if_pos haccepted,
        if_pos ⟨rfl, haccepted⟩, run_submit (by exact hw)]
      rfl
    · rw [if_neg (mt valid_validated_iff.mp haccepted), if_neg haccepted,
        if_neg fun h => haccepted h.2, List.append_nil]

/-- A mounted form when a request has completed. -/
def answered (describe : Thrown Error → String) (failed : String)
    (reply : Except Error (Option Uid)) (s : State) : State :=
  match reply with
  | .ok (some _) => { s with navigations := s.navigations + 1 }
  | .ok none => s
  | .error e => { s with errorMessage := failed ++ describe (.error e) }

theorem run_resumed {w : Widget State Credentials} (hw : w.mounted = true)
    (reply : Except Error (Option Uid)) :
    ((resumed describe failed reply).run w).2 =
      { w with state := answered describe failed reply w.state } := by
  obtain ⟨state, mounted, calls, lateUses⟩ := w
  obtain rfl : mounted = true := hw
  rcases reply with e | _ | uid <;> rfl

/-- After its removal a form is not changed by the completion of a request. -/
theorem run_resumed_of_removed {w : Widget State Credentials} (hw : w.mounted = false)
    (reply : Except Error (Option Uid)) :
    ∃ lateUses, ((resumed describe failed reply).run w).2 = { w with lateUses } := by
  obtain ⟨state, mounted, calls, lateUses⟩ := w
  obtain rfl : mounted = false := hw
  rcases reply with e | _ | uid <;> exact ⟨_, rfl⟩

/-! ### Runs -/

/-- The forms. -/
inductive Form where
  | login
  | register
  deriving DecidableEq

/-- The message of a form, without the error. -/
def Form.failedText : Form → String
  | .login => loginFailed
  | .register => registerFailed

/-- The screen of a form. -/
def Form.screen (texts : Texts) (describe : Thrown Error → String) :
    Form → Screen State Credentials Action Error Reply
  | .login => loginScreen texts describe loginFailed
  | .register => registerScreen texts describe registerFailed

theorem Form.screen_eq (form : Form) :
    form.screen texts describe = loginScreen texts describe form.failedText := by
  cases form with
  | login => rfl
  | register => exact registerScreen_eq

/-- The button is enabled while both texts are non-empty, and the credentials that have been sent
are accepted. -/
structure Inv (w : Widget State Credentials) : Prop where
  button : w.state.isButtonDisabled = (w.state.email.isEmpty || w.state.password.isEmpty)
  calls : ∀ c ∈ w.calls, Accepted c

theorem inv_tapped {w : Widget State Credentials} (h : Inv w) :
    Inv { w with state := tapped texts w.state, calls := w.calls ++ sent w.state } := by
  refine ⟨?_, fun c hc => ?_⟩
  · simp only [tapped]
    split_ifs <;> exact h.button
  · rcases List.mem_append.mp hc with hc | hc
    · exact h.calls c hc
    · simp only [sent] at hc
      split at hc
      · next haccepted => exact List.mem_singleton.mp hc ▸ haccepted.2
      · cases hc

theorem inv_resumed {w : Widget State Credentials} (h : Inv w)
    (reply : Except Error (Option Uid)) : Inv ((resumed describe failed reply).run w).2 := by
  rcases Bool.eq_false_or_eq_true w.mounted with hw | hw
  · rw [run_resumed hw]
    refine ⟨?_, h.calls⟩
    rcases reply with e | _ | uid <;> exact h.button
  · obtain ⟨lateUses, hrun⟩ := @run_resumed_of_removed describe failed w hw reply
    rw [hrun]
    exact ⟨h.button, h.calls⟩

theorem keeps_inv : (loginScreen texts describe failed).Keeps Inv where
  opened := ⟨rfl, by rintro c ⟨⟩⟩
  start i w hstart h := by
    have hw : w.mounted = true := hstart.resolve_right Bool.false_ne_true
    cases i with
    | editEmail text | editPassword text =>
      simp only [loginScreen, screen, Handler.run_bind, checkFormValidity]
      rw [run_setState _ (by exact hw)]
      exact ⟨rfl, h.calls⟩
    | tapButton =>
      rw [run_tapButton hw]
      exact inv_tapped h
  resume c r w rest hperm h := inv_resumed (w := { w with calls := rest }) ⟨h.button, fun c' hc' =>
    h.calls c' (hperm.mem_iff.mpr (List.mem_cons_of_mem c hc'))⟩ r
  removed w h := ⟨h.button, h.calls⟩

/-- The completion of a request with a user. -/
def withUser : Event Credentials Action Reply → Bool
  | .completed _ _ reply => (reply.toOption.bind id).isSome
  | .started _ | .removed => false

theorem navigations_tapped (s : State) : (tapped texts s).navigations = s.navigations := by
  unfold tapped
  split_ifs <;> rfl

theorem navigations_resumed (reply : Except Error (Option Uid)) (w : Widget State Credentials) :
    ((resumed describe failed reply).run w).2.state.navigations ≤
      w.state.navigations + if (reply.toOption.bind id).isSome then 1 else 0 := by
  rcases Bool.eq_false_or_eq_true w.mounted with hw | hw
  · rw [run_resumed hw]
    rcases reply with e | _ | uid <;> exact Nat.le_refl _
  · obtain ⟨lateUses, hrun⟩ := @run_resumed_of_removed describe failed w hw reply
    rw [hrun]
    exact Nat.le_add_right _ _

theorem navigations_step {s t : System State Credentials Error}
    {e : Event Credentials Action Reply}
    (hstep : (loginScreen texts describe failed).step s e = some t) :
    t.state.navigations ≤ s.state.navigations + if withUser e then 1 else 0 := by
  cases e with
  | started i =>
    simp only [Screen.step, Option.ite_none_right_eq_some, Option.some.injEq] at hstep
    obtain ⟨hstart, rfl⟩ := hstep
    have hw : s.mounted = true := hstart.resolve_right Bool.false_ne_true
    cases i with
    | editEmail text | editPassword text =>
      simp only [exec, loginScreen, screen, Handler.run_bind, checkFormValidity]
      rw [run_setState _ (by exact hw)]
      exact Nat.le_refl _
    | tapButton =>
      simp only [exec, run_tapButton hw, navigations_tapped]
      exact Nat.le_add_right _ _
  | completed n call reply =>
    obtain ⟨⟨c, rest⟩, -, hstep⟩ := Option.bind_eq_some_iff.mp hstep
    simp only [Option.ite_none_right_eq_some, Option.some.injEq] at hstep
    obtain ⟨-, rfl⟩ := hstep
    exact navigations_resumed reply { s.toWidget with calls := rest }
  | removed =>
    simp only [Screen.step, Option.ite_none_right_eq_some, Option.some.injEq] at hstep
    obtain ⟨-, rfl⟩ := hstep
    exact Nat.le_refl _

/-- **What the forms send.** In every run of either form, with any edits, taps and completions in
any order: every request that is outstanding carries a text that begins with an address and a
password of at least six units, the button is enabled exactly while both texts are non-empty, and
the page is replaced at most once for each request that completes with a user. -/
theorem accepted_of_run (form : Form) {es : List (Event Credentials Action Reply)}
    {s : System State Credentials Error}
    (hrun : EventRun.run (form.screen texts describe).step (form.screen texts describe).opened es =
      some s) :
    (∀ c ∈ s.calls,
      (∃ p, p <+: c.email ∧ EmailValidators.IsEmail (code '@') (code '.') p) ∧
        6 ≤ c.password.length) ∧
    (s.state.isButtonDisabled = false ↔ s.state.email ≠ [] ∧ s.state.password ≠ []) ∧
    s.state.navigations ≤ es.countP withUser := by
  rw [form.screen_eq] at hrun
  have hinv := Screen.keeps_run keeps_inv hrun
  refine ⟨fun c hc => ?_, ?_, ?_⟩
  · obtain ⟨hemail, hpassword⟩ := hinv.calls c hc
    exact ⟨(EmailValidators.hasMatch_iff_isPrefix (by decide)).mp hemail, hpassword⟩
  · rw [hinv.button]
    simp
  · have hcount : s.state.navigations ≤ 0 + es.countP withUser :=
      EventRun.le_add_countP_of_run
        (f := fun s : System State Credentials Error => s.state.navigations) (p := withUser)
        (fun _ _ _ => @navigations_step texts describe form.failedText _ _ _) hrun
    rwa [Nat.zero_add] at hcount

/-- The credentials of a user. -/
def annCredentials : Credentials := ⟨ofString "ann@lee.org", ofString "secret"⟩

/-- An address and a password are entered, the button is tapped twice, and the second request
completes with the user. -/
def twoTaps : List (Event Credentials Action Reply) :=
  [.started (.editEmail annCredentials.email), .started (.editPassword annCredentials.password),
    .started .tapButton, .started .tapButton, .completed 1 annCredentials (.ok (some "u1"))]

/-- The texts of the localization for English. -/
def englishTexts : Texts :=
  { EmailValidators.englishTexts with passwordValidationIsNull := "Please enter a password" }

theorem accepted_twoTaps : ∃ s, EventRun.run
      (Form.login.screen englishTexts fun _ => "wrong-password").step
      (Form.login.screen englishTexts fun _ => "wrong-password").opened twoTaps = some s ∧
    s.calls = [annCredentials] ∧ s.state.navigations = 1 ∧
    (∃ p, p <+: annCredentials.email ∧ EmailValidators.IsEmail (code '@') (code '.') p) ∧
    6 ≤ annCredentials.password.length ∧ s.state.isButtonDisabled = false ∧
    s.state.navigations ≤ twoTaps.countP withUser := by
  obtain ⟨s, hs, hcalls, hnavigations, hemail, hpassword⟩ : ∃ s, EventRun.run
      (Form.login.screen englishTexts fun _ => "wrong-password").step
      (Form.login.screen englishTexts fun _ => "wrong-password").opened twoTaps = some s ∧
        s.calls = [annCredentials] ∧ s.state.navigations = 1 ∧
        s.state.email = annCredentials.email ∧ s.state.password = annCredentials.password :=
    ⟨_, rfl, rfl, rfl, rfl, rfl⟩
  obtain ⟨hsent, hbutton, hcount⟩ := accepted_of_run .login hs
  obtain ⟨haddress, hlength⟩ := hsent annCredentials (hcalls ▸ List.mem_cons_self)
  rw [hemail, hpassword] at hbutton
  exact ⟨s, hs, hcalls, hnavigations, haddress, hlength, hbutton.mpr (by decide), hcount⟩

/-! ### Failures that reach the user -/

/-- The user learns how an attempt has ended: the page is replaced if the reply holds a user, and
otherwise there is a message. -/
structure Reported (before after : State) (reply : Except Error (Option Uid)) : Prop where
  replaced : after.navigations ≠ before.navigations ↔ ∃ uid, reply = .ok (some uid)
  message : after.navigations = before.navigations → after.errorMessage ≠ ""

/-- A tap on the button and the completion of the request that it sends. -/
def attempt (s : System State Credentials Error) (reply : Except Error (Option Uid)) :
    List (Event Credentials Action Reply) :=
  [.started .tapButton, .completed s.calls.length s.state.credentials reply]

theorem Form.failedText_append_ne (form : Form) (text : String) : form.failedText ++ text ≠ "" := by
  intro h
  have hlength := congrArg String.length h
  rw [String.length_append] at hlength
  cases form <;> simp [failedText, loginFailed, registerFailed] at hlength

/-- What an attempt leaves. It needs credentials that are accepted, since nothing is sent
otherwise. -/
theorem state_attempt {s t : System State Credentials Error} {reply : Except Error (Option Uid)}
    (hrun : EventRun.run (loginScreen texts describe failed).step s (attempt s reply) = some t) :
    t.state = answered describe failed reply
      { validated texts (loginValidator texts.toTexts) s.state with errorMessage := "" } := by
  obtain ⟨u, htap, hrest⟩ := EventRun.run_cons_eq_some.mp hrun
  obtain ⟨v, hcompleted, hrest⟩ := EventRun.run_cons_eq_some.mp hrest
  obtain rfl := Option.some.inj hrest
  simp only [Screen.step, Option.ite_none_right_eq_some, Option.some.injEq] at htap
  obtain ⟨hstart, rfl⟩ := htap
  have hw : s.mounted = true := hstart.resolve_right Bool.false_ne_true
  obtain ⟨⟨c, rest⟩, hcall, hcompleted⟩ := Option.bind_eq_some_iff.mp hcompleted
  simp only [Option.ite_none_right_eq_some, Option.some.injEq] at hcompleted
  obtain ⟨-, rfl⟩ := hcompleted
  simp only [exec, run_tapButton hw] at hcall ⊢
  by_cases hsent : s.state.isButtonDisabled = false ∧ Accepted s.state.credentials
  · rw [show (loginScreen texts describe failed).resume s.state.credentials reply =
      resumed describe failed reply from rfl, run_resumed (by exact hw)]
    simp only [tapped, hsent.1, if_neg Bool.false_ne_true, if_pos hsent.2]
  · obtain ⟨hlength, -⟩ := Outstanding.complete_eq_some.mp hcall
    rw [sent, if_neg hsent, List.append_nil, List.getElem?_length] at hlength
    cases hlength

/-- **Failures that reach the user.** In every state of either form, whatever other requests are
outstanding: a tap that sends the credentials, and its reply, let the user know how it has ended
exactly if the service does not reply with a credential without a user. -/
theorem reported_iff (form : Form) {s t : System State Credentials Error}
    {reply : Except Error (Option Uid)}
    (hattempt : EventRun.run (form.screen texts describe).step s (attempt s reply) = some t) :
    Reported s.state t.state reply ↔ reply ≠ .ok none := by
  rw [form.screen_eq] at hattempt
  rw [state_attempt hattempt]
  constructor
  · rintro h rfl
    exact h.message rfl rfl
  · intro hreply
    rcases reply with e | _ | uid
    · exact ⟨⟨fun h => absurd rfl h, by rintro ⟨uid, ⟨⟩⟩⟩, fun _ => form.failedText_append_ne _⟩
    · exact absurd rfl hreply
    · exact ⟨⟨fun _ => ⟨uid, rfl⟩, fun _ => Nat.succ_ne_self _⟩,
        fun h => absurd h (Nat.succ_ne_self _)⟩

/-- The form with an address and a password, the button tapped once. -/
def oneTap : System State Credentials Error :=
  { state :=
      { State.initial with
        email := annCredentials.email, password := annCredentials.password
        isButtonDisabled := false }
    mounted := true, calls := [annCredentials], lateUses := [], escaped := [] }

/-- A failure is reported, and a credential without a user is not. -/
theorem reported_oneTap :
    (∃ t, EventRun.run (Form.register.screen englishTexts fun _ => "email-already-in-use").step
        oneTap (attempt oneTap (.error (.exception "email-already-in-use"))) = some t ∧
      Reported oneTap.state t.state (.error (.exception "email-already-in-use"))) ∧
    ∃ t, EventRun.run (Form.register.screen englishTexts fun _ => "email-already-in-use").step
        oneTap (attempt oneTap (.ok none)) = some t ∧ ¬ Reported oneTap.state t.state (.ok none) :=
  ⟨⟨_, rfl, (reported_iff .register rfl).mpr nofun⟩,
    ⟨_, rfl, fun h => (reported_iff .register rfl).mp h rfl⟩⟩

end SmartHome.AuthForms
