import SmartHome.Lib.AsyncWidget
import SmartHome.Profile.SettingsForm

/-!
# The profile settings form and its removal

The handlers of `ProfileSettingsScreen`, cut at the calls that they wait for, with every use that
they make of the widget. The steps of `ProfileSettings.step` are what they do in a visit, but for
the picture, which a visit leaves out.

## Main definitions

* `ProfileSettings.Handlers.Call`, `ProfileSettings.Handlers.screen`.
* `ProfileSettings.Handlers.Shows` : the handlers in a state of a visit.
* `ProfileSettings.Handlers.quiet` : the replies on which the form is not used.

## Main results

* `ProfileSettings.Handlers.simulates`, `ProfileSettings.Handlers.shows_of_run` : the form of a
  visit runs these handlers.
* `ProfileSettings.Handlers.quietTable`.
-/

namespace SmartHome.ProfileSettings.Handlers

open Dart AsyncWidget

/-- The texts and the fields that the handlers of `_ProfileSettingsScreenState` write.
`_profileImage` is the path of its file, and `saved` counts the calls of `onSave`. -/
structure ProfileSettingsScreenState where
  texts : Texts
  selectedDate : Option Date
  profileImage : Option String
  saved : ℕ
  deriving DecidableEq

/-- The calls that the handlers wait for. The snapshot is read for the account that was signed in,
and a name is sent to the account that has been written before. -/
inductive Call where
  | get (user : Uid)
  | set (user : Uid) (data : Texts)
  | updateDisplayName (displayName : String)
  | pickImage
  deriving DecidableEq

/-- What a call completes with. -/
abbrev Call.Reply : Call → Type
  | .get _ => Except Error (Option Fields)
  | .set _ _ | .updateDisplayName _ => Except Error Unit
  | .pickImage => Except Error (Option String)

/-- What the user can do. -/
inductive Action where
  | edit (input : Input) (text : String)
  | confirmDate (date : Date)
  | tapSubmit (user : Option Uid)
  | tapImage
  deriving DecidableEq

/-- The stretches of the handlers. -/
abbrev Stretch := Handler ProfileSettingsScreenState Call Error

/-- An edit of a text field. -/
def editTexts (input : Input) (text : String) (t : Texts) : Texts :=
  match input with
  | .name => { t with name := text }
  | .surname => { t with surname := text }
  | .phone => { t with phone := text }

/-- The assignments to the controllers, up to a field that is not a string. -/
def fill (data : Fields) : ExceptT Error (StateM ProfileSettingsScreenState) Unit := fun s =>
  ((fillTexts data s.texts).2, { s with texts := (fillTexts data s.texts).1 })

/-- `_loadUserData` from the snapshot on. What it throws ends it. -/
def loaded (email : Option String) (read : Except Error (Option Fields)) : Stretch Unit := do
  let doc ← read
  if let some data := doc then update (fill data)
  update do modify fun s => { s with texts := { s.texts with email := email.getD "" } }

/-- `_updateProfile` up to the write of the data. -/
def updateProfile (user : Option Uid) : Stretch Unit := do
  let s ← fields
  if validate s.texts then
    match user with
    | some owner => await (.set owner s.texts)
    | none => pure ()

/-- `_updateProfile` up to `updateDisplayName`. -/
def written (outcome : Except Error Unit) : Stretch Unit := do
  outcome
  let s ← fields
  await (.updateDisplayName s.texts.name)

/-- `_updateProfile` from there on. -/
def named (outcome : Except Error Unit) : Stretch Unit := do
  outcome
  update do modify fun s => { s with saved := s.saved + 1 }
  -- `Navigator.pop(context)`
  context

/-- `_pickImage` from the picked file on. -/
def picked (pickedFile : Except Error (Option String)) : Stretch Unit := do
  match ← pickedFile with
  | some path => setState do modify fun s => { s with profileImage := some path }
  | none => pure ()

/-- The page of an account with an email address. -/
def screen (user : Option Uid) (email : Option String) :
    Screen ProfileSettingsScreenState Call Action Error Call.Reply where
  initial := ⟨⟨"", "", "", "", ""⟩, none, none, 0⟩
  initState :=
    match user with
    | some uid => await (.get uid)
    | none => pure ()
  start
    | .edit input text => update do
      modify fun s => { s with texts := editTexts input text s.texts }
    | .confirmDate date => setState do
      modify fun s => { s with texts := { s.texts with dob := date.text }
                               selectedDate := some date }
    | .tapSubmit user => updateProfile user
    | .tapImage => await .pickImage
  detached _ := false
  resume
    | .get _, read => loaded email read
    | .set _ _, outcome => written outcome
    | .updateDisplayName _, outcome => named outcome
    | .pickImage, pickedFile => picked pickedFile

/-! ### The handlers of a visit -/

variable {user : Option Uid} {email : Option String}

/-- The texts are loaded as in a visit to the form, whether or not it is still there. -/
theorem run_loaded (snapshot : Option Fields) (w : Widget ProfileSettingsScreenState Call) :
    ((loaded email (.ok snapshot)).run w).2 =
      { w with state := { w.state with texts := loadUserData snapshot email w.state.texts } } := by
  cases snapshot with
  | none => rfl
  | some data =>
    have hrun : (loaded email (.ok (some data))).run w = (update (fill data) >>= fun _ =>
        update do modify fun s => { s with texts := { s.texts with email := email.getD "" } } :
          Stretch Unit).run w := rfl
    rw [hrun, Handler.run_bind, loadUserData]
    simp only [update, ExceptT.run, fill]
    rcases fillTexts data w.state.texts with ⟨filled, _ | _⟩ <;> rfl

/-- The save that waits for a call. -/
def Call.save : Call → Option Save
  | .set owner data => some (.set owner data.data)
  | .updateDisplayName displayName => some (.updateDisplayName displayName)
  | .get _ | .pickImage => none

/-- The handlers in a state of a visit. A picker is open only above a page that is shown. -/
structure Shows (email : Option String) (s : ProfileSettings.State)
    (sys : System ProfileSettingsScreenState Call Error) : Prop where
  email : s.email = email
  texts : sys.state.texts = s.texts
  selectedDate : sys.state.selectedDate = s.selectedDate
  calls : ∃ saves, sys.calls = (s.loading.map Call.get).toList ++ saves ∧
    saves.map Call.save = s.saves.map some
  mounted : sys.mounted = true ↔ s.page ≠ .disposed
  picker : ∀ initial, s.picker = some initial → s.page = .shown

variable {s t : ProfileSettings.State} {sys : System ProfileSettingsScreenState Call Error}

/-- The form is mounted while its page is on the stack. -/
theorem Shows.mounted_of_shown (h : Shows email s sys) (hshown : s.page = .shown) :
    sys.mounted = true :=
  h.mounted.mpr (by rw [hshown]; decide)

/-- Nothing has happened that concerns the handlers. -/
theorem Shows.frame (h : Shows email s sys) (hemail : t.email = s.email)
    (htexts : t.texts = s.texts) (hdate : t.selectedDate = s.selectedDate)
    (hloading : t.loading = s.loading) (hsaves : t.saves = s.saves)
    (hpage : t.page = .disposed ↔ s.page = .disposed)
    (hpicker : ∀ initial, t.picker = some initial → t.page = .shown) : Shows email t sys where
  email := hemail.trans h.email
  texts := h.texts.trans htexts.symm
  selectedDate := h.selectedDate.trans hdate.symm
  calls := by
    rw [hloading, hsaves]
    exact h.calls
  mounted := h.mounted.trans (not_congr hpage).symm
  picker := hpicker

/-- A stretch has been run that writes texts and the date, and issues the calls of saves. -/
theorem Shows.exec (h : Shows email s sys) {m : Stretch Unit} (issued : List Call)
    (hemail : t.email = s.email) (htexts : (m.run sys.toWidget).2.state.texts = t.texts)
    (hdate : (m.run sys.toWidget).2.state.selectedDate = t.selectedDate)
    (hissued : (m.run sys.toWidget).2.calls = sys.calls ++ issued)
    (hloading : t.loading = s.loading)
    (hsaves : t.saves.map some = s.saves.map some ++ issued.map Call.save)
    (hpage : t.page = .disposed ↔ s.page = .disposed)
    (hpicker : ∀ initial, t.picker = some initial → t.page = .shown) :
    Shows email t (AsyncWidget.exec m sys) where
  email := hemail.trans h.email
  texts := htexts
  selectedDate := hdate
  calls := by
    obtain ⟨saves, hcalls, hmap⟩ := h.calls
    refine ⟨saves ++ issued, ?_, ?_⟩
    · rw [hloading, ← List.append_assoc, ← hcalls]
      exact hissued
    · rw [List.map_append, hmap, hsaves]
  mounted := by
    have hsame : (AsyncWidget.exec m sys).mounted = sys.mounted := m.mounted_run _
    rw [hsame]
    exact h.mounted.trans (not_congr hpage).symm
  picker := hpicker

/-- The call of a save completes. -/
theorem Shows.complete (h : Shows email s sys) {i : ℕ} {save : Save} {rest : List Save}
    (hcall : Outstanding.complete s.saves i = some (save, rest)) :
    ∃ n c calls, Outstanding.complete sys.calls n = some (c, calls) ∧ c.save = some save ∧
      Shows email { s with saves := rest } { sys with calls } := by
  obtain ⟨saves, hcalls, hsaves⟩ := h.calls
  have hmapped := Outstanding.complete_map some hcall
  rw [← hsaves, Outstanding.complete_map_eq] at hmapped
  obtain ⟨⟨c, others⟩, hcomplete, heq⟩ := Option.map_eq_some_iff.mp hmapped
  obtain ⟨hc, hothers⟩ := Prod.mk.inj heq
  refine ⟨_, c, _, hcalls ▸ Outstanding.complete_append _ hcomplete, hc, ?_⟩
  exact ⟨h.email, h.texts, h.selectedDate, ⟨others, rfl, hothers⟩, h.mounted, h.picker⟩

/-- The calls that a submission issues. -/
def submitted (user : Option Uid) (t : Texts) : List Call :=
  if validate t then user.toList.map fun owner => .set owner t else []

theorem run_updateProfile (user : Option Uid) (w : Widget ProfileSettingsScreenState Call) :
    ((updateProfile user).run w).2 =
      { w with calls := w.calls ++ submitted user w.state.texts } := by
  have hnone : { w with calls := w.calls ++ [] } = w :=
    congrArg (fun calls => { w with calls }) (List.append_nil w.calls)
  simp only [updateProfile, Handler.run_bind, fields, submitted]
  cases validate w.state.texts with
  | true =>
    cases user with
    | some owner => rfl
    | none => exact hnone.symm
  | false => exact hnone.symm

theorem saves_startUpdate (user : Option Uid) (s : ProfileSettings.State) :
    (startUpdate user s).saves.map some =
      s.saves.map some ++ (submitted user s.texts).map Call.save := by
  simp only [startUpdate, submitted]
  cases validate s.texts with
  | true => cases user <;> simp [Call.save]
  | false => simp

/-- A submission issues the write that it starts. -/
theorem shows_updateProfile (h : Shows email s sys) (user : Option Uid) :
    Shows email (startUpdate user s) (AsyncWidget.exec (updateProfile user) sys) := by
  have hrun := run_updateProfile user sys.toWidget
  have hsaves := saves_startUpdate user s
  obtain ⟨saves, heq⟩ := startUpdate_eq user s
  rw [heq] at hsaves ⊢
  refine h.exec (submitted user s.texts) rfl ?_ ?_ ?_ rfl hsaves Iff.rfl h.picker
  · rw [hrun, h.texts]
  · rw [hrun, h.selectedDate]
  · rw [hrun, h.texts]

/-- The end of a save does not bring the page back, and no picker stays over one that leaves. -/
theorem page_finishUpdate (hpicker : ∀ initial, s.picker = some initial → s.page = .shown) :
    ((finishUpdate s).page = .disposed ↔ s.page = .disposed) ∧
      ∀ initial, (finishUpdate s).picker = some initial → (finishUpdate s).page = .shown := by
  unfold finishUpdate
  cases hpage : s.page with
  | shown =>
    cases s.picker with
    | none => simp
    | some initial => simp
  | leaving => simpa [hpage] using hpicker
  | disposed => simpa [hpage] using hpicker

/-- A save goes on, whether or not the form is still there. -/
theorem shows_resume (user : Option Uid) {c : Call} {save : Save} (h : Shows email s sys)
    (hsave : c.save = some save) :
    ∃ reply, Shows email (resumeUpdate save s)
      (AsyncWidget.exec ((screen user email).resume c reply) sys) := by
  cases c with
  | get | pickImage => cases hsave
  | set owner data =>
    obtain rfl := Option.some.inj hsave
    refine ⟨.ok (), h.exec [.updateDisplayName s.texts.name] rfl h.texts h.selectedDate ?_ rfl ?_
      Iff.rfl h.picker⟩
    · rw [← h.texts]
      rfl
    · exact List.map_append
  | updateDisplayName displayName =>
    obtain rfl := Option.some.inj hsave
    obtain ⟨hpage, hpicker⟩ := page_finishUpdate h.picker
    obtain ⟨page, picker, pagePops, heq⟩ := finishUpdate_eq s
    have hrun : ((named (.ok ())).run sys.toWidget).2.state =
          { sys.state with saved := sys.state.saved + 1 } ∧
        ((named (.ok ())).run sys.toWidget).2.calls = sys.calls := by
      obtain ⟨⟨state, mounted, calls, lateUses⟩, escaped⟩ := sys
      cases mounted <;> exact ⟨rfl, rfl⟩
    rw [heq] at hpage hpicker
    rw [resumeUpdate, heq]
    refine ⟨.ok (), h.exec [] rfl ?_ ?_ ?_ rfl (List.append_nil _).symm hpage hpicker⟩
    · exact (congrArg ProfileSettingsScreenState.texts hrun.1).trans h.texts
    · exact (congrArg ProfileSettingsScreenState.selectedDate hrun.1).trans h.selectedDate
    · exact hrun.2.trans (List.append_nil _).symm

/-- A save ends with an exception. -/
theorem shows_failed (user : Option Uid) {c : Call} {save : Save} (h : Shows email s sys)
    (hsave : c.save = some save) :
    ∃ reply, Shows email s (AsyncWidget.exec ((screen user email).resume c reply) sys) := by
  have hcalls : sys.calls = sys.calls ++ [] := (List.append_nil _).symm
  have hsaves : s.saves.map some = s.saves.map some ++ [] := (List.append_nil _).symm
  cases c with
  | get | pickImage => cases hsave
  | set | updateDisplayName =>
    exact ⟨.error (.exception ""),
      h.exec [] rfl h.texts h.selectedDate hcalls rfl hsaves Iff.rfl h.picker⟩

/-- The document has been read, or not, whether or not the form is still there. -/
theorem shows_loaded {owner : Uid} (h : Shows email s sys) (hloading : s.loading = some owner)
    (texts : Texts) (read : Except Error (Option Fields))
    (hread : ∀ w : Widget ProfileSettingsScreenState Call, w.state.texts = s.texts →
      ((loaded email read).run w).2 = { w with state := { w.state with texts } }) :
    ∃ es sys', EventRun.run (screen user email).step sys es = some sys' ∧
      Shows email { s with loading := none, texts } sys' := by
  obtain ⟨saves, hcalls, hsaves⟩ := h.calls
  have hcomplete : Outstanding.complete sys.calls 0 = some (.get owner, saves) := by
    rw [hcalls, hloading]
    rfl
  have hrun := hread { sys.toWidget with calls := saves } h.texts
  have hdone := Screen.run_completed (S := screen user email) hcomplete read
  refine ⟨_, _, hdone, ?_⟩
  have hread' : Shows email { s with loading := none } { sys with calls := saves } :=
    ⟨h.email, h.texts, h.selectedDate, ⟨saves, rfl, hsaves⟩, h.mounted, h.picker⟩
  refine hread'.exec [] rfl (congrArg (·.state.texts) hrun) ?_ ?_ rfl (List.append_nil _).symm
    Iff.rfl h.picker
  · exact (congrArg (·.state.selectedDate) hrun).trans h.selectedDate
  · exact (congrArg Widget.calls hrun).trans (List.append_nil _).symm

/-- What happens in a visit happens to the handlers. -/
theorem simulates (user : Option Uid) (email : Option String) :
    EventRun.Simulates ProfileSettings.step (screen user email).step (fun _ _ => True)
      (Shows email) := by
  intro s e t sys hs _ hstep
  cases stepped_of_step hstep with
  | @loaded owner hloading =>
    refine shows_loaded hs hloading _ (.ok (s.profiles owner)) fun w hw => ?_
    rw [run_loaded, hw, hs.email]
  | @loadFailed owner hloading =>
    refine shows_loaded hs hloading _ (.error (.exception "")) fun w hw => ?_
    rw [← hw]
    rfl
  | edit input text hshown =>
    have hmounted := hs.mounted_of_shown (page_of_interactive hshown)
    refine ⟨[.started (.edit input text)], _, Screen.run_started _ hmounted, ?_⟩
    have htexts : (edit input text s).texts = editTexts input text s.texts := by
      cases input <;> rfl
    obtain ⟨name, surname, phone, heq⟩ := edit_eq input text s
    rw [heq] at htexts ⊢
    refine hs.exec [] rfl ?_ hs.selectedDate (List.append_nil _).symm rfl (List.append_nil _).symm
      Iff.rfl hs.picker
    rw [htexts, ← hs.texts]
    rfl
  | tapDate now hshown =>
    have hpage := page_of_interactive hshown
    exact ⟨[], sys, rfl, hs.frame rfl rfl rfl rfl rfl Iff.rfl fun _ _ => hpage⟩
  | confirmDate date hpicker =>
    have hmounted := hs.mounted_of_shown (hs.picker _ hpicker)
    refine ⟨[.started (.confirmDate date)], _, Screen.run_started _ hmounted, ?_⟩
    have hrun : ((screen user email).start (.confirmDate date)).run sys.toWidget = (.ok (),
        { sys.toWidget with state := { sys.state with
            texts := { sys.state.texts with dob := date.text }, selectedDate := some date } }) :=
      run_setState _ hmounted
    refine hs.exec [] rfl ?_ ?_ ?_ rfl (List.append_nil _).symm Iff.rfl fun _ h => nomatch h
    · rw [hrun, hs.texts]
    · rw [hrun]
    · rw [hrun, List.append_nil]
  | closePicker hpicker =>
    exact ⟨[], sys, rfl, hs.frame rfl rfl rfl rfl rfl Iff.rfl fun _ h => nomatch h⟩
  | tapSubmit user hshown =>
    have hmounted := hs.mounted_of_shown (page_of_interactive hshown)
    exact ⟨[.started (.tapSubmit user)], _, Screen.run_started _ hmounted,
      shows_updateProfile hs user⟩
  | completed hcall =>
    obtain ⟨n, c, calls, hcomplete, hsave, hrest⟩ := hs.complete hcall
    obtain ⟨reply, hresumed⟩ := shows_resume user hrest hsave
    have hdone := Screen.run_completed (S := screen user email) hcomplete reply
    exact ⟨_, _, hdone, hresumed⟩
  | failed hcall =>
    obtain ⟨n, c, calls, hcomplete, hsave, hrest⟩ := hs.complete hcall
    obtain ⟨reply, hfailed⟩ := shows_failed user hrest hsave
    have hdone := Screen.run_completed (S := screen user email) hcomplete reply
    exact ⟨_, _, hdone, hfailed⟩
  | leave hshown =>
    have hpage := page_of_interactive hshown
    have hnone := picker_of_interactive hshown
    refine ⟨[], sys, rfl, hs.frame rfl rfl rfl rfl rfl (by simp [hpage]) fun initial h => ?_⟩
    cases hnone.symm.trans h
  | dispose hleaving =>
    have hmounted : sys.mounted = true := hs.mounted.mpr (by rw [hleaving]; decide)
    refine ⟨[.removed], _, Screen.run_removed hmounted, ?_⟩
    refine ⟨hs.email, hs.texts, hs.selectedDate, hs.calls, by simp, fun initial h => ?_⟩
    cases hleaving.symm.trans (hs.picker initial h)

/-- **The handlers of a visit.** Every visit to the form, with its edits, pickers, saves and its
end, is a run of the handlers, in which they do what the visit does. -/
theorem shows_of_run {profiles : Profiles} {es : List ProfileSettings.Event}
    (hrun : EventRun.run ProfileSettings.step (State.initial profiles user email) es = some s) :
    ∃ es' sys, EventRun.run (screen user email).step (screen user email).opened es' = some sys ∧
      Shows email s sys := by
  have hopened : Shows email (State.initial profiles user email) (screen user email).opened := by
    cases user <;>
      exact ⟨rfl, rfl, rfl, ⟨[], rfl, rfl⟩, iff_of_true rfl (by rintro ⟨⟩), fun _ h => nomatch h⟩
  exact (simulates user email).run hopened (EventRun.meets_of_forall fun _ _ => trivial) hrun

/-! ### After its removal -/

/-- The replies on which the form is not used: it is only used after the last call of a save, and
for a picked file. -/
def quiet : (c : Call) → c.Reply → Prop
  | .get _, _ | .set _ _, _ => True
  | .updateDisplayName _, outcome => outcome ≠ .ok ()
  | .pickImage, pickedFile => ∀ path, pickedFile ≠ .ok (some path)

theorem silent_loaded (read : Except Error (Option Fields)) : Silent (loaded email read) := by
  refine (silent_lift read).bind fun doc => ?_
  cases doc with
  | none => exact silent_update _
  | some data => exact (silent_update _).bind fun _ => silent_update _

theorem quietTable : (screen user email).QuietTable quiet where
  silent c r hr := by
    cases c with
    | get => exact silent_loaded r
    | set => cases r <;> exact fun _ _ => rfl
    | updateDisplayName =>
      cases r with
      | ok => exact absurd rfl hr
      | error => exact fun _ _ => rfl
    | pickImage =>
      match r, hr with
      | .ok none, _ => exact fun _ _ => rfl
      | .ok (some path), hr => exact absurd rfl (hr path)
      | .error _, _ => exact fun _ _ => rfl
  late c r hr := by
    cases c with
    | get | set => exact absurd trivial hr
    | updateDisplayName =>
      obtain rfl : r = .ok () := not_not.mp hr
      exact late_lift_bind (late_bind (fun w => ⟨(), rfl⟩) fun _ => late_use .context)
    | pickImage =>
      match r, hr with
      | .ok none, hr => exact absurd (fun _ h => nomatch h) hr
      | .ok (some path), _ => exact late_lift_bind (late_setState _)
      | .error _, hr => exact absurd (fun _ h => nomatch h) hr
  detached i hi := by cases hi

end SmartHome.ProfileSettings.Handlers
