import SmartHome.Home.FormCreate
import SmartHome.Lib.AsyncWidget

/-!
# The form for a new home and its removal

The handlers of `FormCreateScreen`, cut at the call that `_createHome` waits for, with every use
that they make of the widget. The steps of `FormCreate.step` are what they do in a visit: those of
the address picker reach them as callbacks, and the others do not concern them.

## Main definitions

* `FormCreate.Handlers.Action`, `FormCreate.Handlers.screen`.
* `FormCreate.Handlers.Shows` : the handlers in a state of a visit.
* `FormCreate.Handlers.quiet` : the replies on which the form is not used.

## Main results

* `FormCreate.Handlers.simulates`, `FormCreate.Handlers.shows_of_run` : the form of a visit runs
  these handlers.
* `FormCreate.Handlers.catches`, `FormCreate.Handlers.quietTable`.
-/

namespace SmartHome.FormCreate.Handlers

open Dart AsyncWidget
open ThaiAddress (Assets Callback)

/-- `_FormCreateScreenState` and the text area in it. `navigations` counts the navigations to the
home list. -/
structure FormCreateScreenState where
  area : TextArea.State
  form : Form
  navigations : ℕ

/-- What the user can do. The pickers of `ThaiAddress` call back with what is selected. -/
inductive Action where
  | editName (text : List UInt16)
  | editAddress (value : TextArea.EditingValue)
  | selected (callback : Callback)
  | tapCreate (user : Option Uid)

/-- What the call of `add` for a record completes with. -/
abbrev Reply (_ : HomeRecord) : Type := Except String Unit

/-- The stretches of the handlers. -/
abbrev Stretch := Handler FormCreateScreenState HomeRecord Error

/-- The data of the form for an owner. -/
def record (owner : Uid) (s : FormCreateScreenState) : HomeRecord :=
  { name := s.form.name
    address := s.area.value.text
    province := s.form.selectedProvince
    district := s.form.selectedDistrict
    subDistrict := s.form.selectedSubDistrict
    postalCode := s.form.selectedPostalCode
    latitude := s.form.currentPosition.map LatLng.latitude
    longitude := s.form.currentPosition.map LatLng.longitude
    owner }

/-- The closure that shows a message. -/
def showMessage (errorMessage : String) : ExceptT Error (StateM FormCreateScreenState) Unit :=
  modify fun s => { s with form := { s.form with errorMessage } }

variable (describe : Thrown Error → String)

/-- The `catch` of `_createHome`. -/
def onError (e : Thrown Error) : Stretch Unit :=
  setState (showMessage ("การสร้างบ้านล้มเหลว: " ++ describe e))

/-- `_createHome` up to the call of `FireBaseController.create`. -/
def createHome (user : Option Uid) : Stretch Unit := do
  let s ← fields
  -- `_homeKey.currentState?.validate() ?? false`
  unless s.form.name.isEmpty do
    try
      setState (showMessage "")
      match user with
      | none => setState (showMessage noUserMessage)
      | some owner => await (record owner s)
    catch e => onError describe e

/-- `_createHome` from there on. The controller has caught what its call has thrown. -/
def created (outcome : Except String Unit) : Stretch Unit := do
  try
    (create outcome).mapError Error.exception
    -- `Navigator.popUntil(context, ..)` and `Navigator.pushNamed(context, ..)`
    context
    context
    update do modify fun s => { s with navigations := s.navigations + 1 }
  catch e => onError describe e

/-- A listener or callback of the form, which ends with `_checkFormValidity`. -/
def checked (f : FormCreateScreenState → FormCreateScreenState) : Stretch Unit :=
  setState do modify f

/-- The page, opened at a position. -/
def screen (ofDegrees : ℚ → ℚ → LatLng) (lat long : ℚ) :
    Screen FormCreateScreenState HomeRecord Action Error Reply where
  initial := ⟨.initial, (State.initial ofDegrees lat long).form, 0⟩
  initState := pure ()
  start
    | .editName text => checked fun s =>
      { s with form := checkFormValidity s.area.value.text { s.form with name := text } }
    | .editAddress value => checked fun s =>
      let result := TextArea.edit addressLength onAddressChange value (s.area, s.form)
      { s with area := result.1, form := result.2 }
    | .selected callback => checked fun s =>
      { s with form := onSelected s.area.value.text s.form callback }
    | .tapCreate user => do
      let s ← fields
      unless s.form.isButtonDisabled do createHome describe user
  detached _ := false
  resume _ outcome := created describe outcome

variable {describe}

/-! ### The handlers of a visit -/

/-- What the handlers write of the state of a visit. -/
def shown (s : FormCreate.State) : FormCreateScreenState := ⟨s.area, s.form, s.navigations⟩

/-- The handlers in a state of a visit. A picker is open only above a page that is shown. -/
structure Shows (s : FormCreate.State) (sys : System FormCreateScreenState HomeRecord Error) :
    Prop where
  state : sys.state = shown s
  calls : sys.calls = s.calls
  mounted : sys.mounted = true ↔ s.page ≠ .disposed
  picker : ∀ picker, s.picker = some picker → s.page = .shown

variable {s t : FormCreate.State} {sys : System FormCreateScreenState HomeRecord Error}

/-- The form is mounted while its page is on the stack. -/
theorem Shows.mounted_of_shown (h : Shows s sys) (hshown : s.page = .shown) : sys.mounted = true :=
  h.mounted.mpr (by rw [hshown]; decide)

/-- Nothing has happened that concerns the handlers. -/
theorem Shows.frame (h : Shows s sys) (hshown : shown t = shown s) (hcalls : t.calls = s.calls)
    (hpage : t.page = .disposed ↔ s.page = .disposed)
    (hpicker : ∀ picker, t.picker = some picker → t.page = .shown) : Shows t sys where
  state := h.state.trans hshown.symm
  calls := h.calls.trans hcalls.symm
  mounted := h.mounted.trans (not_congr hpage).symm
  picker := hpicker

/-- A stretch of the handlers has been run. -/
theorem Shows.exec (h : Shows s sys) {m : Stretch Unit}
    (hstate : (m.run sys.toWidget).2.state = shown t)
    (hcalls : (m.run sys.toWidget).2.calls = t.calls)
    (hpage : t.page = .disposed ↔ s.page = .disposed)
    (hpicker : ∀ picker, t.picker = some picker → t.page = .shown) :
    Shows t (AsyncWidget.exec m sys) where
  state := hstate
  calls := hcalls
  mounted := by
    have hsame : (AsyncWidget.exec m sys).mounted = sys.mounted := m.mounted_run _
    rw [hsame]
    exact h.mounted.trans (not_congr hpage).symm
  picker := hpicker

/-- A listener or callback has been called. -/
theorem Shows.checked (h : Shows s sys) (hshown : s.page = .shown)
    {f : FormCreateScreenState → FormCreateScreenState} (hf : shown t = f (shown s))
    (hcalls : t.calls = s.calls) (hpage : t.page = s.page) :
    Shows t (AsyncWidget.exec (checked f) sys) := by
  have hrun : ((Handlers.checked f).run sys.toWidget).2 =
      { sys.toWidget with state := f sys.state } := by
    rw [Handlers.checked, run_setState _ (h.mounted_of_shown hshown)]
    rfl
  refine h.exec ?_ ?_ (by rw [hpage]) fun _ _ => hpage.trans hshown
  · rw [hrun, hf, ← h.state]
  · rw [hrun, hcalls, ← h.calls]

/-- On a mounted form a submission starts as in a visit. -/
theorem run_createHome (describe : Thrown Error → String)
    {w : Widget FormCreateScreenState HomeRecord} (hw : w.mounted = true)
    (hs : w.state = shown s) (hcalls : w.calls = s.calls) (user : Option Uid) :
    ((createHome describe user).run w).2 =
      { w with state := shown (startCreate user s), calls := (startCreate user s).calls } := by
  obtain ⟨state, mounted, calls, lateUses⟩ := w
  obtain rfl : mounted = true := hw
  obtain rfl : state = shown s := hs
  obtain rfl : calls = s.calls := hcalls
  have hname : (shown s).form.name = s.form.name := rfl
  cases h : s.form.name.isEmpty with
  | true =>
    simp only [createHome, Handler.run_bind, fields, hname, h, startCreate, FormCreate.validate]
    rfl
  | false =>
    simp only [createHome, Handler.run_bind, fields, hname, h, startCreate, FormCreate.validate]
    cases user <;> rfl

/-- On a mounted form a submission ends as in a visit. -/
theorem run_created (describe : Thrown Error → String)
    {w : Widget FormCreateScreenState HomeRecord} (hw : w.mounted = true)
    (hs : w.state = shown s) (hpage : s.page ≠ .disposed) (outcome : Except String Unit) :
    ((created describe outcome).run w).2 =
      { w with state := shown (resumeCreate (create outcome) s) } := by
  obtain ⟨state, mounted, calls, lateUses⟩ := w
  obtain rfl : mounted = true := hw
  obtain rfl : state = shown s := hs
  cases outcome <;> (simp only [create, resumeCreate, if_neg hpage]; rfl)

/-- After the removal a submission changes nothing any more. -/
theorem run_created_of_removed (describe : Thrown Error → String)
    {w : Widget FormCreateScreenState HomeRecord} (hw : w.mounted = false)
    (outcome : Except String Unit) :
    ((created describe outcome).run w).2.state = w.state ∧
      ((created describe outcome).run w).2.calls = w.calls := by
  obtain ⟨state, mounted, calls, lateUses⟩ := w
  obtain rfl : mounted = false := hw
  cases outcome <;> exact ⟨rfl, rfl⟩

variable {ofDegrees : ℚ → ℚ → LatLng} {lat long : ℚ}

/-- What the picker calls back, one after the other. -/
theorem shows_selected (callbacks : List Callback) (h : Shows s sys) (hshown : s.page = .shown) :
    ∃ sys', EventRun.run (screen describe ofDegrees lat long).step sys
        (callbacks.map fun callback => .started (.selected callback)) = some sys' ∧
      Shows { s with form := callbacks.foldl (onSelected s.area.value.text) s.form } sys' := by
  induction callbacks generalizing s sys with
  | nil => exact ⟨sys, rfl, h⟩
  | cons callback callbacks ih =>
    have hfirst : Shows { s with form := onSelected s.area.value.text s.form callback }
        (exec ((screen describe ofDegrees lat long).start (.selected callback)) sys) :=
      h.checked hshown rfl rfl rfl
    obtain ⟨sys', hrun, hs'⟩ := ih hfirst hshown
    refine ⟨sys', ?_, hs'⟩
    rw [List.map_cons, EventRun.run_cons, Screen.step_started _ (h.mounted_of_shown hshown)]
    exact hrun

/-- A tap on the enabled button. -/
theorem shows_tapCreate (h : Shows s sys) (hshown : interactive s = true)
    (henabled : s.form.isButtonDisabled = false) (user : Option Uid) :
    Shows (startCreate user s)
      (exec ((screen describe ofDegrees lat long).start (.tapCreate user)) sys) := by
  have hpage := page_of_interactive hshown
  have htap : ((screen describe ofDegrees lat long).start (.tapCreate user)).run sys.toWidget =
      (createHome describe user).run sys.toWidget := by
    have hfirst : sys.state.form.isButtonDisabled = false := h.state ▸ henabled
    simp only [screen, Handler.run_bind, fields, hfirst]
    rfl
  have hrun := run_createHome describe (h.mounted_of_shown hpage) h.state h.calls user
  obtain ⟨errorMessage, passed, calls, heq⟩ := startCreate_eq user s
  refine h.exec ?_ ?_ (by rw [heq]) (by rw [heq]; exact h.picker)
  · rw [htap, hrun]
  · rw [htap, hrun]

/-- A call completes, whether or not the form is still there, and its handler goes on. -/
theorem shows_completed {r : HomeRecord} {rest : List HomeRecord} (h : Shows s sys)
    (outcome : Except String Unit) :
    Shows (completeCreate r outcome { s with calls := rest })
      (exec (created describe outcome) { sys with calls := rest }) := by
  have hrest : Shows { s with calls := rest } { sys with calls := rest } :=
    ⟨h.state, rfl, h.mounted, h.picker⟩
  obtain ⟨added, heq⟩ := completeCreate_eq r outcome { s with calls := rest }
  rw [heq]
  by_cases hpage : s.page = .disposed
  · have hremoved : sys.mounted = false :=
      Bool.not_eq_true _ ▸ fun hmounted => h.mounted.mp hmounted hpage
    obtain ⟨hstate, hcalls⟩ := run_created_of_removed describe
      (w := { sys.toWidget with calls := rest }) hremoved outcome
    rw [resumeCreate, if_pos hpage]
    exact hrest.exec (hstate.trans h.state) hcalls Iff.rfl h.picker
  · have hrun := run_created describe (w := { sys.toWidget with calls := rest })
      (s := { s with added, calls := rest }) (h.mounted.mpr hpage) h.state hpage outcome
    have hok : create outcome = .ok () := by cases outcome <;> rfl
    rw [hok, resumeCreate, if_neg hpage] at hrun
    rw [resumeCreate, if_neg hpage]
    refine hrest.exec (congrArg Widget.state hrun) (congrArg Widget.calls hrun) ?_ ?_
    · exact iff_of_false (by rintro ⟨⟩) hpage
    · rintro _ ⟨⟩

/-- What happens in a visit happens to the handlers. -/
theorem simulates (assets : Assets) (describe : Thrown Error → String)
    (ofDegrees : ℚ → ℚ → LatLng) (lat long : ℚ) :
    EventRun.Simulates (FormCreate.step assets) (screen describe ofDegrees lat long).step
      (fun _ _ => True) Shows := by
  intro s e t sys hs _ hstep
  cases stepped_of_step hstep with
  | loaded => exact ⟨[], sys, rfl, hs.frame rfl rfl Iff.rfl hs.picker⟩
  | tapField level hshown =>
    have hpage := page_of_interactive hshown
    exact ⟨[], sys, rfl, hs.frame rfl rfl Iff.rfl fun _ _ => hpage⟩
  | scroll index hpicker =>
    exact ⟨[], sys, rfl, hs.frame rfl rfl Iff.rfl fun _ _ => hs.picker _ hpicker⟩
  | @done picker hpicker =>
    unfold confirm
    split
    · next address callbacks _ =>
      obtain ⟨sys', hrun, hs'⟩ := shows_selected callbacks hs (hs.picker _ hpicker)
      exact ⟨_, sys', hrun, hs'.frame rfl rfl Iff.rfl fun _ h => nomatch h⟩
    · exact ⟨[], sys, rfl, hs.frame rfl rfl Iff.rfl hs.picker⟩
  | cancel => exact ⟨[], sys, rfl, hs.frame rfl rfl Iff.rfl fun _ h => nomatch h⟩
  | editName text hshown =>
    unfold editName
    split
    · exact ⟨[], sys, rfl, hs⟩
    · exact ⟨[.started (.editName text)], _, Screen.run_started _ (hs.mounted_of_shown hshown),
        hs.checked hshown rfl rfl rfl⟩
  | editAddress value hshown =>
    exact ⟨[.started (.editAddress value)], _, Screen.run_started _ (hs.mounted_of_shown hshown),
      hs.checked hshown rfl rfl rfl⟩
  | tapCreate user hshown henabled =>
    have hmounted := hs.mounted_of_shown (page_of_interactive hshown)
    exact ⟨[.started (.tapCreate user)], _, Screen.run_started _ hmounted,
      shows_tapCreate hs hshown henabled user⟩
  | @completed i r rest outcome hcall =>
    have hcall' : Outstanding.complete sys.calls i = some (r, rest) := hs.calls ▸ hcall
    have hrun := Screen.run_completed (S := screen describe ofDegrees lat long) hcall' outcome
    exact ⟨_, _, hrun, shows_completed hs outcome⟩
  | leave hshown =>
    have hpage := page_of_interactive hshown
    have hnone := picker_of_interactive hshown
    refine ⟨[], sys, rfl, hs.frame rfl rfl (by simp [hpage]) fun picker h => ?_⟩
    cases hnone.symm.trans h
  | dispose hleaving =>
    have hmounted : sys.mounted = true := hs.mounted.mpr (by rw [hleaving]; decide)
    refine ⟨[.removed], _, Screen.run_removed hmounted, hs.state, hs.calls, by simp,
      fun picker h => ?_⟩
    cases hleaving.symm.trans (hs.picker picker h)

/-- **The handlers of a visit.** Every visit to the form, with its pickers, edits, submissions and
its end, is a run of the handlers, in which they do what the visit does. -/
theorem shows_of_run {assets : Assets} {es : List FormCreate.Event}
    (hrun : EventRun.run (FormCreate.step assets) (State.initial ofDegrees lat long) es = some s) :
    ∃ es' sys, EventRun.run (screen describe ofDegrees lat long).step
        (screen describe ofDegrees lat long).opened es' = some sys ∧ Shows s sys := by
  have hopened : Shows (State.initial ofDegrees lat long)
      (screen describe ofDegrees lat long).opened :=
    ⟨rfl, rfl, iff_of_true rfl (by rintro ⟨⟩), fun _ h => nomatch h⟩
  exact (simulates assets describe ofDegrees lat long).run hopened
    (EventRun.meets_of_forall fun _ _ => trivial) hrun

/-! ### After its removal -/

/-- Every completion leads to a navigation. -/
def quiet (r : HomeRecord) (_ : Reply r) : Prop := False

theorem contained_onError (e : Thrown Error) : Contained (onError describe e) :=
  contained_setState fun _ => rfl

theorem contained_createHome (user : Option Uid) : Contained (createHome describe user) := by
  refine (contained_of_ok fun w => ⟨w.state, rfl⟩).bind fun s => ?_
  cases s.form.name.isEmpty with
  | true => exact contained_of_ok fun _ => ⟨(), rfl⟩
  | false => exact contained_tryCatch _ contained_onError

/-- What the handlers throw they throw from a `setState`, after the removal. -/
theorem catches : (screen describe ofDegrees lat long).Catches where
  initState := contained_of_ok fun _ => ⟨(), rfl⟩
  start i := by
    cases i with
    | editName text | editAddress value | selected callback =>
      exact contained_setState fun _ => rfl
    | tapCreate user =>
      refine (contained_of_ok fun w => ⟨w.state, rfl⟩).bind fun s => ?_
      cases s.form.isButtonDisabled with
      | true => exact contained_of_ok fun _ => ⟨(), rfl⟩
      | false => exact contained_createHome user
  resume r outcome := contained_tryCatch _ contained_onError

theorem quietTable : (screen describe ofDegrees lat long).QuietTable quiet where
  silent _ _ hr := hr.elim
  late r outcome _ := by
    cases outcome <;> exact Late.tryCatch (late_lift_bind ((late_use .context).bind _)) _
  detached i hi := by cases hi

end SmartHome.FormCreate.Handlers
