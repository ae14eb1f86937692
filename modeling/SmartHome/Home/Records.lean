import SmartHome.Home.FormCreate

/-!
# The records of new homes

`_createHome` checks the name only and otherwise stores what it finds. That the record is complete
follows from the Create button, which is disabled again by every change of a field that leaves
something missing, and from the text area, which cuts the address down.

The form is taken here together with the session, which can change between any two events. The page
before it opens the form at the coordinates of a position.

## Main definitions

* `FormCreate.Complete` : a record in which nothing is missing.
* `FormCreate.Sessioned`, `FormCreate.sessionStep` : a form and the user who is signed in.

## Main results

* `FormCreate.complete_of_step` : what a step passes to `FireBaseController.create`.
-/

namespace SmartHome.FormCreate

open ThaiAddress (Assets Callback Picker)

/-- A record of a home at a position: no text is empty, the address is not too long, and no value is
missing. -/
structure Complete (position : LatLng) (r : HomeRecord) : Prop where
  name : r.name ≠ []
  address : r.address ≠ []
  addressLength : r.address.length ≤ 250
  province : r.province ≠ none
  district : r.district ≠ none
  subDistrict : r.subDistrict ≠ none
  postalCode : r.postalCode ≠ none
  latitude : r.latitude = some position.latitude
  longitude : r.longitude = some position.longitude

/-- The user who is signed in, and the form. -/
structure Sessioned where
  user : Option Uid
  form : State

/-- A form opened at a position. -/
def Sessioned.initial (ofDegrees : ℚ → ℚ → LatLng) (user : Option Uid) (position : LatLng) :
    Sessioned :=
  { user, form := State.initial ofDegrees position.latitude position.longitude }

/-- What can happen next. -/
inductive SessionEvent where
  | authStateChanged (user : Option Uid)
  | form (e : Event)

/-- A tap on Create finds the user who is signed in. -/
def findsUser (user : Option Uid) : Event → Bool
  | .tapCreate found => found = user
  | _ => true

/-- One step of the session or of the form. -/
def sessionStep (assets : Assets) (v : Sessioned) : SessionEvent → Option Sessioned
  | .authStateChanged user => some { v with user }
  | .form e =>
    if findsUser v.user e then (step assets v.form e).map fun form => { v with form } else none

/-! ### The text area and the position -/

/-- The address fits, and the form is at the position. -/
structure Placed (position : LatLng) (s : State) : Prop where
  fits : s.area.value.text.length ≤ addressLength
  counted : s.area.currentLength = s.area.value.text.length
  position : s.form.currentPosition = some position

variable {ofDegrees : ℚ → ℚ → LatLng} {position : LatLng} {assets : Assets}

theorem placed_initial (hdegrees : LatLng.KeepsInRange ofDegrees) (position : LatLng) :
    Placed position (State.initial ofDegrees position.latitude position.longitude) :=
  ⟨Nat.zero_le _, rfl, congrArg some (hdegrees position)⟩

/-- Steps that leave the address and the position alone. -/
theorem Placed.frame {s t : State} (h : Placed position s) (harea : t.area = s.area)
    (hposition : t.form.currentPosition = s.form.currentPosition) : Placed position t :=
  ⟨harea ▸ h.fits, harea ▸ h.counted, hposition.trans h.position⟩

theorem currentPosition_onSelected (address : List UInt16) (callbacks : List Callback)
    (form : Form) :
    (callbacks.foldl (onSelected address) form).currentPosition = form.currentPosition := by
  induction callbacks generalizing form with
  | nil => rfl
  | cons callback callbacks ih =>
    rw [List.foldl_cons, ih]
    cases callback <;> rfl

theorem Placed.confirm {s : State} (h : Placed position s) (p : Picker) :
    Placed position (confirm p s) := by
  obtain ⟨address, picker', callbacks, heq⟩ := confirm_eq p s
  rw [heq]
  exact h.frame rfl (currentPosition_onSelected _ callbacks _)

theorem Placed.editName {s : State} (h : Placed position s) (text : List UInt16) :
    Placed position (editName text s) := by
  obtain ⟨name, isButtonDisabled, heq⟩ := editName_eq text s
  rw [heq]
  exact h.frame rfl rfl

theorem Placed.editAddress {s : State} (h : Placed position s) (value : TextArea.EditingValue) :
    Placed position (editAddress value s) := by
  obtain ⟨htext, hcount⟩ :=
    @TextArea.edit_text _ addressLength onAddressChange value (s.area, s.form) h.fits h.counted
  have hposition :=
    @TextArea.edit_frame _ addressLength onAddressChange _ Form.currentPosition (fun _ _ => rfl)
      value (s.area, s.form)
  exact ⟨htext ▸ List.length_take_le _ _, hcount, hposition.trans h.position⟩

theorem Placed.startCreate {s : State} (h : Placed position s) (user : Option Uid) :
    Placed position (startCreate user s) := by
  obtain ⟨errorMessage, passed, calls, heq⟩ := startCreate_eq user s
  rw [heq]
  exact h.frame rfl rfl

theorem Placed.completeCreate {s : State} (h : Placed position s) (r : HomeRecord)
    (outcome : Except String Unit) : Placed position (completeCreate r outcome s) := by
  obtain ⟨added, heq⟩ := completeCreate_eq r outcome s
  rw [heq, resumeCreate]
  split <;> exact h.frame rfl rfl

theorem placed_step {s t : State} {e : Event} (h : Placed position s)
    (hstep : step assets s e = some t) : Placed position t := by
  cases stepped_of_step hstep with
  | loaded | tapField | scroll | cancel | leave | dispose => exact h.frame rfl rfl
  | done => exact h.confirm _
  | editName text => exact h.editName text
  | editAddress value => exact h.editAddress value
  | tapCreate user => exact h.startCreate user
  | @completed _ r rest outcome =>
    exact Placed.completeCreate (s := { s with calls := rest }) (h.frame rfl rfl) r outcome

/-! ### What is passed on -/

/-- The record of a form whose Create button is enabled. -/
theorem complete_record {s : State} (hplaced : Placed position s)
    (hcomplete : incomplete s.area.value.text s.form = false) (owner : Uid) :
    Complete position (record owner s) := by
  simp only [incomplete, Bool.or_eq_false_iff, List.isEmpty_eq_false_iff,
    Option.isNone_eq_false_iff] at hcomplete
  obtain ⟨⟨⟨⟨⟨hname, haddress⟩, hprovince⟩, hdistrict⟩, hsub⟩, hpostal⟩ := hcomplete
  refine ⟨hname, haddress, hplaced.fits, ?_, ?_, ?_, ?_, ?_, ?_⟩
  · exact Option.isSome_iff_ne_none.mp hprovince
  · exact Option.isSome_iff_ne_none.mp hdistrict
  · exact Option.isSome_iff_ne_none.mp hsub
  · exact Option.isSome_iff_ne_none.mp hpostal
  · exact congrArg (Option.map LatLng.latitude) hplaced.position
  · exact congrArg (Option.map LatLng.longitude) hplaced.position

/-- Only a tap on Create passes a record on. -/
theorem passed_step {s t : State} {e : Event} (hstep : step assets s e = some t) :
    t.passed = s.passed ∨ ∃ owner, e = .tapCreate (some owner) ∧
      s.form.isButtonDisabled = false ∧ t.passed = s.passed ++ [record owner s] := by
  cases stepped_of_step hstep with
  | loaded | tapField | scroll | cancel | leave | dispose | editAddress => exact .inl rfl
  | @done picker =>
    obtain ⟨address, picker', callbacks, heq⟩ := confirm_eq picker s
    exact .inl (by rw [heq])
  | editName text =>
    obtain ⟨name, isButtonDisabled, heq⟩ := editName_eq text s
    exact .inl (by rw [heq])
  | tapCreate user hshown henabled =>
    rcases startCreate_cases user s with ⟨_, heq⟩ | ⟨owner, rfl, -, heq⟩
    · exact .inl (by rw [heq])
    · exact .inr ⟨owner, rfl, henabled, by rw [heq]⟩
  | @completed i r rest outcome =>
    obtain ⟨added, heq⟩ := completeCreate_eq r outcome { s with calls := rest }
    rw [heq, resumeCreate]
    split <;> exact .inl rfl

/-- What holds of a form at a position in every session. -/
structure FormInv (position : LatLng) (v : Sessioned) : Prop where
  checked : Checked v.form.area.value.text v.form.form
  placed : Placed position v.form

theorem formInv_initial (hdegrees : LatLng.KeepsInRange ofDegrees) (user : Option Uid)
    (position : LatLng) : FormInv position (.initial ofDegrees user position) :=
  ⟨by rintro ⟨⟩, placed_initial hdegrees position⟩

theorem sessionStep_form {v w : Sessioned} {e : Event}
    (hstep : sessionStep assets v (.form e) = some w) :
    findsUser v.user e = true ∧ step assets v.form e = some w.form ∧ w.user = v.user := by
  simp only [sessionStep, Option.ite_none_right_eq_some, Option.map_eq_some_iff] at hstep
  obtain ⟨hfinds, form, hform, rfl⟩ := hstep
  exact ⟨hfinds, hform, rfl⟩

theorem formInv_step {v w : Sessioned} {e : SessionEvent} (h : FormInv position v)
    (hstep : sessionStep assets v e = some w) : FormInv position w := by
  cases e with
  | authStateChanged user =>
    obtain rfl := Option.some.inj hstep
    exact ⟨h.checked, h.placed⟩
  | form e =>
    obtain ⟨-, hform, -⟩ := sessionStep_form hstep
    exact ⟨checked_step h.checked hform, placed_step h.placed hform⟩

/-- A step of a session passes on at most the record of the form for the user who is signed in. -/
theorem passed_sessionStep {v w : Sessioned} {e : SessionEvent}
    (hstep : sessionStep assets v e = some w) :
    w.form.passed = v.form.passed ∨ ∃ owner, v.form.form.isButtonDisabled = false ∧
      v.user = some owner ∧ w.form.passed = v.form.passed ++ [record owner v.form] := by
  cases e with
  | authStateChanged user =>
    obtain rfl := Option.some.inj hstep
    exact .inl rfl
  | form e =>
    obtain ⟨hfinds, hform, -⟩ := sessionStep_form hstep
    rcases passed_step hform with hsame | ⟨owner, rfl, henabled, hpassed⟩
    · exact .inl hsame
    · exact .inr ⟨owner, henabled, (of_decide_eq_true hfinds).symm, hpassed⟩

theorem formInv_of_run (hdegrees : LatLng.KeepsInRange ofDegrees) {user : Option Uid}
    {es : List SessionEvent} {v : Sessioned}
    (hrun : EventRun.run (sessionStep assets) (.initial ofDegrees user position) es = some v) :
    FormInv position v :=
  EventRun.invariant_run (I := FormInv position) (fun _ _ _ => formInv_step)
    (formInv_initial hdegrees user position) hrun

/-- **The records of new homes.** If the constructor of positions keeps coordinates in range, then
in every run of a form that was opened at a position, a step passes at most one record to
`FireBaseController.create`. That record is complete, it is a home at the position, and its owner is
the user who is signed in. -/
theorem complete_of_step (hdegrees : LatLng.KeepsInRange ofDegrees) {user : Option Uid}
    {es : List SessionEvent} {e : SessionEvent} {v w : Sessioned}
    (hrun : EventRun.run (sessionStep assets) (.initial ofDegrees user position) es = some v)
    (hstep : sessionStep assets v e = some w) :
    w.form.passed = v.form.passed ∨ ∃ r, w.form.passed = v.form.passed ++ [r] ∧
      Complete position r ∧ v.user = some r.owner := by
  have hinv := formInv_of_run hdegrees hrun
  rcases passed_sessionStep hstep with hsame | ⟨owner, henabled, huser, hpassed⟩
  · exact .inl hsame
  · exact .inr ⟨_, hpassed, complete_record hinv.placed (hinv.checked henabled) owner, huser⟩

/-- The form at a position, filled in as by `fillForm`. -/
def filledAt (position : LatLng) : State :=
  { firstFilled with
    form :=
      { firstFilled.form with
        currentPosition := some (LatLng.clampAndWrap position.latitude position.longitude) } }

/-- Another user signs in while the form is filled in, and taps Create. -/
theorem complete_filledAt :
    let position := LatLng.clampAndWrap 13 100
    let form := startCreate (some "u2") (filledAt position)
    let r := record "u2" (filledAt position)
    EventRun.run (sessionStep twoProvinces) (.initial LatLng.clampAndWrap (some "u1") position)
        (fillForm.map .form ++ [.authStateChanged (some "u2")]) =
          some ⟨some "u2", filledAt position⟩ ∧
      form.passed = (filledAt position).passed ++ [r] ∧ Complete position r ∧ r.owner = "u2" := by
  intro position form r
  have hrun : EventRun.run (sessionStep twoProvinces)
      (.initial LatLng.clampAndWrap (some "u1") position)
      (fillForm.map .form ++ [.authStateChanged (some "u2")]) =
        some ⟨some "u2", filledAt position⟩ := rfl
  have hstep : sessionStep twoProvinces ⟨some "u2", filledAt position⟩
      (.form (.tapCreate (some "u2"))) = some ⟨some "u2", form⟩ := rfl
  rcases complete_of_step LatLng.keepsInRange_clampAndWrap hrun hstep with
    hnone | ⟨r', hpassed, hcomplete, howner⟩
  · exact absurd (congrArg List.length hnone) (Nat.succ_ne_self _)
  · obtain rfl : r = r' := (List.cons.inj hpassed).1
    exact ⟨hrun, rfl, hcomplete, (Option.some.inj howner).symm⟩

end SmartHome.FormCreate
