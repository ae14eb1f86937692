import SmartHome.Address.ThaiAddress
import SmartHome.Components.TextArea
import SmartHome.Firestore
import SmartHome.Lib.EventRun
import SmartHome.Lib.FormPage
import SmartHome.Lib.Outstanding
import SmartHome.Map.LatLng

/-!
# The form for a new home

One visit to `FormCreateScreen`: its text fields, the `ThaiAddress` in it with the picker that may
be open, the state that the callbacks and listeners keep, and the submissions. `_createHome` is
split where it waits: up to the call of `FireBaseController.create`, and from there on. Any number
of calls can be outstanding, and they complete in any order.

A visit ends when the page is left, by a submission that navigates or by the back button. Its
context stays alive until the exit transition is over.

## Main definitions

* `FormCreate.Form`, `FormCreate.HomeRecord`, `FormCreate.State`, `FormCreate.Event`.
* `FormCreate.checkFormValidity`, `FormCreate.startCreate`, `FormCreate.resumeCreate`.
* `FormCreate.step`.

## Main results

* `FormCreate.stepped_of_step` : what a step does.
* `FormCreate.checked_of_run` : the Create button is enabled only while the form is complete.
-/

namespace SmartHome.FormCreate

open Dart (Dyn)
open FormPage (Page)
open ThaiAddress (Assets Callback Level Picker)

/-- The fields of `_FormCreateScreenState`, but for the controller of the address. -/
structure Form where
  currentPosition : Option LatLng
  isButtonDisabled : Bool
  errorMessage : String
  name : List UInt16
  selectedProvince : Option String
  selectedDistrict : Option String
  selectedSubDistrict : Option String
  selectedPostalCode : Option String
  deriving DecidableEq

/-- The data that `_createHome` passes to `FireBaseController.create`. -/
structure HomeRecord where
  name : List UInt16
  address : List UInt16
  province : Option String
  district : Option String
  subDistrict : Option String
  postalCode : Option String
  latitude : Option ℚ
  longitude : Option ℚ
  owner : Uid
  deriving DecidableEq

/-- The state of a visit. `passed` lists the records handed to `FireBaseController.create`,
`calls` those whose call is outstanding, `added` those that were added to `homes`; `navigations`
counts the navigations to the home list. -/
structure State where
  page : Page
  loading : Bool
  address : ThaiAddress.State
  picker : Option Picker
  area : TextArea.State
  form : Form
  passed : List HomeRecord
  calls : List HomeRecord
  added : List HomeRecord
  navigations : ℕ

/-- The form opened at a position. -/
def State.initial (ofDegrees : ℚ → ℚ → LatLng) (lat long : ℚ) : State :=
  { page := .shown, loading := true, address := .initial, picker := none, area := .initial,
    form :=
      { currentPosition := some (ofDegrees lat long), isButtonDisabled := true,
        errorMessage := "", name := [], selectedProvince := none, selectedDistrict := none,
        selectedSubDistrict := none, selectedPostalCode := none }
    passed := [], calls := [], added := [], navigations := 0 }

/-- What can happen next. A tap on Create finds the user who is signed in at that moment; a call
completes, or throws an exception with the given text. -/
inductive Event where
  | loaded
  | tapField (level : Level)
  | scroll (index : ℕ)
  | done
  | cancel
  | editName (text : List UInt16)
  | editAddress (value : TextArea.EditingValue)
  | tapCreate (user : Option Uid)
  | completed (i : ℕ) (outcome : Except String Unit)
  | leave
  | dispose

/-! ### Handlers -/

/-- Some text is empty or some level is not selected. -/
def incomplete (address : List UInt16) (form : Form) : Bool :=
  form.name.isEmpty || address.isEmpty || form.selectedProvince.isNone ||
    form.selectedDistrict.isNone || form.selectedSubDistrict.isNone ||
    form.selectedPostalCode.isNone

/-- `_checkFormValidity`, for the text of the address controller. -/
def checkFormValidity (address : List UInt16) (form : Form) : Form :=
  { form with isButtonDisabled := incomplete address form }

/-- The `maxLength` of the address. -/
def addressLength : ℕ := 250

/-- The listener of the form on the controller of the address. -/
def onAddressChange (value : TextArea.EditingValue) (form : Form) : Form :=
  checkFormValidity value.text form

/-- An edit of the address. -/
def editAddress (value : TextArea.EditingValue) (s : State) : State :=
  let result := TextArea.edit addressLength onAddressChange value (s.area, s.form)
  { s with area := result.1, form := result.2 }

/-- An edit of the name, whose controller notifies `_checkFormValidity` of a changed text. -/
def editName (text : List UInt16) (s : State) : State :=
  if text = s.form.name then s
  else { s with form := checkFormValidity s.area.value.text { s.form with name := text } }

/-- A callback of `ThaiAddress`. -/
def onSelected (address : List UInt16) (form : Form) : Callback → Form
  | .onProvinceSelected province =>
    checkFormValidity address { form with selectedProvince := province }
  | .onDistrictSelected district =>
    checkFormValidity address { form with selectedDistrict := district }
  | .onSubDistrictSelected subDistrict =>
    checkFormValidity address { form with selectedSubDistrict := subDistrict }
  | .onPostcodeSelected postcode =>
    checkFormValidity address { form with selectedPostalCode := postcode }

/-- The Done button of the picker. A handler that throws does not get to close it. -/
def confirm (picker : Picker) (s : State) : State :=
  match ThaiAddress.done s.address picker with
  | (address, .ok callbacks) =>
    { s with address, picker := none,
             form := callbacks.foldl (onSelected s.area.value.text) s.form }
  | (address, .error _) => { s with address }

/-- The record of the form for an owner. -/
def record (owner : Uid) (s : State) : HomeRecord :=
  { name := s.form.name
    address := s.area.value.text
    province := s.form.selectedProvince
    district := s.form.selectedDistrict
    subDistrict := s.form.selectedSubDistrict
    postalCode := s.form.selectedPostalCode
    latitude := s.form.currentPosition.map LatLng.latitude
    longitude := s.form.currentPosition.map LatLng.longitude
    owner }

/-- `_homeKey.currentState.validate()`: only the name has a validator. -/
def validate (s : State) : Bool := !s.form.name.isEmpty

/-- The message when nobody is signed in. -/
def noUserMessage : String := "ไม่สามารถดึงข้อมูลผู้ใช้ได้"

/-- `_createHome` up to the call of `FireBaseController.create`. -/
def startCreate (user : Option Uid) (s : State) : State :=
  if validate s then
    match user with
    | none => { s with form := { s.form with errorMessage := noUserMessage } }
    | some owner =>
      { s with form := { s.form with errorMessage := "" },
               passed := s.passed ++ [record owner s], calls := s.calls ++ [record owner s] }
  else s

/-- `FireBaseController.create`: what the caller sees of the outcome of `add`. -/
def create (outcome : Except String Unit) : Except String Unit :=
  match outcome with
  | .ok () => .ok ()
  | .error _ => .ok ()

/-- `_createHome` from the call of `FireBaseController.create` on. The navigator is found, and
`setState` allowed, while the page is not disposed. -/
def resumeCreate (result : Except String Unit) (s : State) : State :=
  if s.page = .disposed then s
  else
    match result with
    | .ok () => { s with page := .leaving, picker := none, navigations := s.navigations + 1 }
    | .error e =>
      { s with form := { s.form with errorMessage := "การสร้างบ้านล้มเหลว: " ++ e } }

/-- A call of `add` for a record completes: the document is there or not, and `_createHome` goes
on. -/
def completeCreate (r : HomeRecord) (outcome : Except String Unit) (s : State) : State :=
  match outcome with
  | .ok () => resumeCreate (create outcome) { s with added := s.added ++ [r] }
  | .error _ => resumeCreate (create outcome) s

theorem editName_eq (text : List UInt16) (s : State) : ∃ name isButtonDisabled,
    editName text s = { s with form := { s.form with name, isButtonDisabled } } := by
  unfold editName
  split <;> exact ⟨_, _, rfl⟩

theorem confirm_eq (picker : Picker) (s : State) : ∃ address picker', ∃ callbacks : List Callback,
    confirm picker s =
      { s with address, picker := picker',
               form := callbacks.foldl (onSelected s.area.value.text) s.form } := by
  unfold confirm
  split
  · exact ⟨_, _, _, rfl⟩
  · exact ⟨_, _, [], rfl⟩

/-- A submission shows a message, or passes the record on. -/
theorem startCreate_cases (user : Option Uid) (s : State) :
    (∃ errorMessage, startCreate user s = { s with form := { s.form with errorMessage } }) ∨
      ∃ owner, user = some owner ∧ validate s = true ∧ startCreate user s =
        { s with form := { s.form with errorMessage := "" }
                 passed := s.passed ++ [record owner s]
                 calls := s.calls ++ [record owner s] } := by
  unfold startCreate
  split
  · next hvalid =>
    cases user with
    | none => exact .inl ⟨_, rfl⟩
    | some owner => exact .inr ⟨owner, rfl, hvalid, rfl⟩
  · exact .inl ⟨_, rfl⟩

theorem startCreate_eq (user : Option Uid) (s : State) : ∃ errorMessage passed calls,
    startCreate user s = { s with form := { s.form with errorMessage }, passed, calls } := by
  rcases startCreate_cases user s with ⟨_, heq⟩ | ⟨_, -, -, heq⟩ <;> exact ⟨_, _, _, heq⟩

/-- The controller hides the outcome of its call: the form leaves, unless it is gone. -/
theorem completeCreate_eq (r : HomeRecord) (outcome : Except String Unit) (s : State) :
    ∃ added, completeCreate r outcome s = resumeCreate (.ok ()) { s with added } := by
  cases outcome <;> exact ⟨_, rfl⟩

/-! ### Steps -/

/-- The page reacts to taps: it is on the stack, and no picker covers it. -/
def interactive (s : State) : Bool := s.page = .shown && s.picker.isNone

/-- One step, with the assets of the app. -/
def step (assets : Assets) (s : State) : Event → Option State
  | .loaded =>
    if s.loading then
      some { s with loading := false, address := ThaiAddress.loadData assets s.address }
    else none
  | .tapField level =>
    if interactive s && ThaiAddress.rendered s.address level then
      some { s with picker := (ThaiAddress.showPicker s.address level).toOption }
    else none
  | .scroll index =>
    s.picker.bind fun picker =>
      if index < picker.items.length then
        some { s with picker := some { picker with selectedItem := index } }
      else none
  | .done => s.picker.map fun picker => confirm picker s
  | .cancel => s.picker.map fun _ => { s with picker := none }
  | .editName text => if s.page = .shown then some (editName text s) else none
  | .editAddress value => if s.page = .shown then some (editAddress value s) else none
  | .tapCreate user =>
    if interactive s && !s.form.isButtonDisabled then some (startCreate user s) else none
  | .completed i outcome =>
    (Outstanding.complete s.calls i).map fun call =>
      completeCreate call.1 outcome { s with calls := call.2 }
  | .leave => if interactive s then some { s with page := .leaving } else none
  | .dispose => if s.page = .leaving then some { s with page := .disposed } else none

/-- What a step does, with the guards that it has passed. -/
inductive Stepped (assets : Assets) (s : State) : Event → State → Prop
  | loaded (hloading : s.loading = true) :
      Stepped assets s .loaded
        { s with loading := false, address := ThaiAddress.loadData assets s.address }
  | tapField (level : Level) (hshown : interactive s = true)
      (hrendered : ThaiAddress.rendered s.address level = true) :
      Stepped assets s (.tapField level)
        { s with picker := (ThaiAddress.showPicker s.address level).toOption }
  | scroll {p : Picker} (index : ℕ) (hpicker : s.picker = some p)
      (hindex : index < p.items.length) :
      Stepped assets s (.scroll index) { s with picker := some { p with selectedItem := index } }
  | done {p : Picker} (hpicker : s.picker = some p) : Stepped assets s .done (confirm p s)
  | cancel {p : Picker} (hpicker : s.picker = some p) :
      Stepped assets s .cancel { s with picker := none }
  | editName (text : List UInt16) (hshown : s.page = .shown) :
      Stepped assets s (.editName text) (editName text s)
  | editAddress (value : TextArea.EditingValue) (hshown : s.page = .shown) :
      Stepped assets s (.editAddress value) (editAddress value s)
  | tapCreate (user : Option Uid) (hshown : interactive s = true)
      (henabled : s.form.isButtonDisabled = false) :
      Stepped assets s (.tapCreate user) (startCreate user s)
  | completed {i : ℕ} {r : HomeRecord} {rest : List HomeRecord} (outcome : Except String Unit)
      (hcall : Outstanding.complete s.calls i = some (r, rest)) :
      Stepped assets s (.completed i outcome) (completeCreate r outcome { s with calls := rest })
  | leave (hshown : interactive s = true) : Stepped assets s .leave { s with page := .leaving }
  | dispose (hleaving : s.page = .leaving) :
      Stepped assets s .dispose { s with page := .disposed }

theorem stepped_of_step {assets : Assets} {s t : State} {e : Event}
    (hstep : step assets s e = some t) : Stepped assets s e t := by
  cases e with
  | loaded =>
    simp only [step, Option.ite_none_right_eq_some, Option.some.injEq] at hstep
    obtain ⟨hloading, rfl⟩ := hstep
    exact .loaded hloading
  | tapField level =>
    simp only [step, Option.ite_none_right_eq_some, Bool.and_eq_true, Option.some.injEq] at hstep
    obtain ⟨⟨hshown, hrendered⟩, rfl⟩ := hstep
    exact .tapField level hshown hrendered
  | scroll index =>
    obtain ⟨p, hpicker, hstep⟩ := Option.bind_eq_some_iff.mp hstep
    simp only [Option.ite_none_right_eq_some, Option.some.injEq] at hstep
    obtain ⟨hindex, rfl⟩ := hstep
    exact .scroll index hpicker hindex
  | done =>
    obtain ⟨p, hpicker, rfl⟩ := Option.map_eq_some_iff.mp hstep
    exact .done hpicker
  | cancel =>
    obtain ⟨p, hpicker, rfl⟩ := Option.map_eq_some_iff.mp hstep
    exact .cancel hpicker
  | editName text =>
    simp only [step, Option.ite_none_right_eq_some, Option.some.injEq] at hstep
    obtain ⟨hshown, rfl⟩ := hstep
    exact .editName text hshown
  | editAddress value =>
    simp only [step, Option.ite_none_right_eq_some, Option.some.injEq] at hstep
    obtain ⟨hshown, rfl⟩ := hstep
    exact .editAddress value hshown
  | tapCreate user =>
    simp only [step, Option.ite_none_right_eq_some, Bool.and_eq_true, Bool.not_eq_true',
      Option.some.injEq] at hstep
    obtain ⟨⟨hshown, henabled⟩, rfl⟩ := hstep
    exact .tapCreate user hshown henabled
  | completed i outcome =>
    obtain ⟨⟨r, rest⟩, hcall, rfl⟩ := Option.map_eq_some_iff.mp hstep
    exact .completed outcome hcall
  | leave =>
    simp only [step, Option.ite_none_right_eq_some, Option.some.injEq] at hstep
    obtain ⟨hshown, rfl⟩ := hstep
    exact .leave hshown
  | dispose =>
    simp only [step, Option.ite_none_right_eq_some, Option.some.injEq] at hstep
    obtain ⟨hleaving, rfl⟩ := hstep
    exact .dispose hleaving

theorem page_of_interactive {s : State} (h : interactive s = true) : s.page = .shown :=
  of_decide_eq_true ((Bool.and_eq_true _ _).mp h).1

theorem picker_of_interactive {s : State} (h : interactive s = true) : s.picker = none :=
  Option.isNone_iff_eq_none.mp ((Bool.and_eq_true _ _).mp h).2

/-! ### The Create button -/

/-- The Create button is enabled only if the form is complete. -/
def Checked (address : List UInt16) (form : Form) : Prop :=
  form.isButtonDisabled = false → incomplete address form = false

theorem checked_checkFormValidity (address : List UInt16) (form : Form) :
    Checked address (checkFormValidity address form) := id

theorem checked_onSelected {address : List UInt16} {form : Form} (h : Checked address form)
    (callbacks : List Callback) : Checked address (callbacks.foldl (onSelected address) form) := by
  induction callbacks generalizing form with
  | nil => exact h
  | cons callback callbacks ih =>
    refine ih ?_
    cases callback <;> exact checked_checkFormValidity _ _

theorem checked_confirm {s : State} (h : Checked s.area.value.text s.form) (picker : Picker) :
    Checked (confirm picker s).area.value.text (confirm picker s).form := by
  obtain ⟨address, picker', callbacks, heq⟩ := confirm_eq picker s
  rw [heq]
  exact checked_onSelected h callbacks

theorem checked_editAddress {s : State} (h : Checked s.area.value.text s.form)
    (value : TextArea.EditingValue) :
    Checked (editAddress value s).area.value.text (editAddress value s).form :=
  TextArea.edit_rule (P := fun v form => Checked v.text form)
    (fun _ _ => checked_checkFormValidity _ _) value (s := (s.area, s.form)) h

theorem checked_editName {s : State} (h : Checked s.area.value.text s.form) (text : List UInt16) :
    Checked (editName text s).area.value.text (editName text s).form := by
  unfold editName
  split
  · exact h
  · exact checked_checkFormValidity _ _

theorem checked_startCreate {s : State} (h : Checked s.area.value.text s.form)
    (user : Option Uid) :
    Checked (startCreate user s).area.value.text (startCreate user s).form := by
  obtain ⟨errorMessage, passed, calls, heq⟩ := startCreate_eq user s
  rw [heq]
  exact h

theorem checked_completeCreate {s : State} (h : Checked s.area.value.text s.form) (r : HomeRecord)
    (outcome : Except String Unit) :
    Checked (completeCreate r outcome s).area.value.text (completeCreate r outcome s).form := by
  obtain ⟨added, heq⟩ := completeCreate_eq r outcome s
  rw [heq, resumeCreate]
  split <;> exact h

theorem checked_step {assets : Assets} {s t : State} {e : Event}
    (h : Checked s.area.value.text s.form) (hstep : step assets s e = some t) :
    Checked t.area.value.text t.form := by
  cases stepped_of_step hstep with
  | loaded | tapField | scroll | cancel | leave | dispose => exact h
  | done => exact checked_confirm h _
  | editName text => exact checked_editName h text
  | editAddress value => exact checked_editAddress h value
  | tapCreate user => exact checked_startCreate h user
  | @completed _ r rest outcome =>
    exact checked_completeCreate (s := { s with calls := rest }) h r outcome

/-- In every reachable state the Create button is enabled only if the form is complete. -/
theorem checked_of_run {assets : Assets} {ofDegrees : ℚ → ℚ → LatLng} {lat long : ℚ}
    {es : List Event} {s : State}
    (hrun : EventRun.run (step assets) (State.initial ofDegrees lat long) es = some s) :
    Checked s.area.value.text s.form := by
  have hinit : Checked (State.initial ofDegrees lat long).area.value.text
      (State.initial ofDegrees lat long).form :=
    fun h => nomatch h
  exact EventRun.invariant_run (I := fun s => Checked s.area.value.text s.form)
    (fun _ _ _ => checked_step) hinit hrun

/-! ### A form that has been filled in -/

/-- A row of a table, with text fields and others. -/
def row (texts : List (String × String)) (others : List (String × Dyn)) : Dyn :=
  .map (texts.map (fun entry => (entry.1, Dyn.str entry.2)) ++ others)

/-- Two provinces, each with one district and one sub-district. -/
def twoProvinces : Assets :=
  { provinces := .ok (.list
      [row [("id", "1"), ("name_th", "P")] [], row [("id", "2"), ("name_th", "Q")] []])
    districts := .ok (.list
      [row [("id", "11"), ("name_th", "D"), ("province_id", "1")] [],
        row [("id", "21"), ("name_th", "E"), ("province_id", "2")] []])
    subdistricts := .ok (.list
      [row [("id", "111"), ("name_th", "S"), ("amphur_id", "11")] [("zipcode", .int 10200)],
        row [("id", "211"), ("name_th", "T"), ("amphur_id", "21")] [("zipcode", .int 20000)]]) }

/-- The first of every level is confirmed, and the two texts are entered. -/
def fillForm : List Event :=
  [.loaded, .tapField .province, .done, .tapField .district, .done, .tapField .subdistrict, .done,
    .editName [0x48], .editAddress ⟨[0x31], 1, 1⟩]

/-- The loaded tables, with the given selection. -/
def loadedAddress (province district subdistrict : Option Int) (postcode : Option String)
    (provinceName districtName subdistrictName : Option String) : ThaiAddress.State :=
  { provinces := some
      [row [("id", "1"), ("name_th", "P")] [], row [("id", "2"), ("name_th", "Q")] []]
    districts := [(1, [⟨11, .str "D"⟩]), (2, [⟨21, .str "E"⟩])]
    subdistricts := [(11, [⟨111, .str "S", .int 10200⟩]), (21, [⟨211, .str "T", .int 20000⟩])]
    selectedProvinceId := province, selectedDistrictId := district,
    selectedSubdistrictId := subdistrict, postcode, selectedProvinceName := provinceName,
    selectedDistrictName := districtName, selectedSubdistrictName := subdistrictName }

/-- The form at the origin, filled in for a province. -/
def filled (address : ThaiAddress.State) (province : String) : State :=
  { State.initial LatLng.clampAndWrap 0 0 with
    loading := false
    address
    area := ⟨⟨[0x31], 1, 1⟩, 1⟩
    form :=
      { currentPosition := some (LatLng.clampAndWrap 0 0), isButtonDisabled := false,
        errorMessage := "", name := [0x48], selectedProvince := some province,
        selectedDistrict := some "D", selectedSubDistrict := some "S",
        selectedPostalCode := some "10200" } }

/-- The state that `fillForm` leads to. -/
def firstFilled : State :=
  filled
    (loadedAddress (some 1) (some 11) (some 111) (some "10200") (some "P") (some "D") (some "S"))
    "P"

/-- The filled-in form, after submissions by which it has left. -/
def submitted (passed added : List HomeRecord) (navigations : ℕ) : State :=
  { firstFilled with page := .leaving, passed, added, navigations }

end SmartHome.FormCreate
