import SmartHome.Home.FormCreate
import SmartHome.Profile.SettingsForm

/-!
# Submitting a form more than once

Neither form disables its button while a call is outstanding: every tap starts a handler of its own,
and every handler that completes while the page still has its context navigates. With one
handler at a time, a visit adds and navigates once at most, since the page leaves when the handler
completes.

## Main definitions

* `FormCreate.OneAtATime`, `ProfileSettings.OneAtATime` : no submission while a call of an earlier
  one is outstanding, as `FormPage.OneAtATime` says it of any form.
* `FormCreate.Once`, `ProfileSettings.Once` : `FormPage.Once` of the calls of a visit and of what
  they have done.

## Main results

* `Visits.once_per_visit` : with one handler at a time, at most one document, one navigation to the
  list and one page popped.
-/

namespace SmartHome

open ThaiAddress (Assets)

/-! ### The form for a new home -/

namespace FormCreate

/-- A tap on Create. -/
def isSubmission : Event → Bool
  | .tapCreate _ => true
  | _ => false

/-- Create is not tapped while a call started by an earlier tap is outstanding. -/
def OneAtATime : State → Event → Prop := FormPage.OneAtATime isSubmission State.calls

/-- A home is added once at most, and the form navigates once at most. -/
structure Once (s : State) : Prop where
  added : FormPage.Once s.page s.calls.length s.added.length
  navigations : FormPage.Once s.page s.calls.length s.navigations

/-- Steps that change neither the calls nor what they have done, and do not bring the page back. -/
theorem Once.frame {s t : State} (h : Once s) (hadded : t.added = s.added)
    (hnavigations : t.navigations = s.navigations) (hcalls : t.calls = s.calls)
    (hpage : t.page = .shown → s.page = .shown) : Once t where
  added := by
    rw [hadded, hcalls]
    exact h.added.frame hpage
  navigations := by
    rw [hnavigations, hcalls]
    exact h.navigations.frame hpage

theorem once_initial (ofDegrees : ℚ → ℚ → LatLng) (lat long : ℚ) :
    Once (State.initial ofDegrees lat long) := ⟨.initial, .initial⟩

theorem once_startCreate {s : State} (h : Once s) (hshown : s.page = .shown) (hcalls : s.calls = [])
    (user : Option Uid) : Once (startCreate user s) := by
  obtain ⟨hadded, hnavigations⟩ := h
  rw [hshown, hcalls] at hadded hnavigations
  rcases startCreate_cases user s with ⟨errorMessage, heq⟩ | ⟨owner, -, -, heq⟩ <;> rw [heq]
  · exact ⟨by rwa [hshown, hcalls], by rwa [hshown, hcalls]⟩
  · refine ⟨?_, ?_⟩ <;> rw [hshown, hcalls]
    · exact hadded.submit
    · exact hnavigations.submit

/-- A completed call adds one document and navigates once, at most, and the page is gone after it.
-/
theorem completeCreate_effect (r : HomeRecord) (outcome : Except String Unit) (s : State) :
    (completeCreate r outcome s).calls = s.calls ∧
      (completeCreate r outcome s).added.length ≤ s.added.length + 1 ∧
      (completeCreate r outcome s).navigations ≤ s.navigations + 1 ∧
      (completeCreate r outcome s).page ≠ .shown := by
  unfold completeCreate resumeCreate
  cases outcome <;> simp only [create] <;> split <;> rename_i hpage <;> simp [hpage]

theorem once_completeCreate {s : State} {r : HomeRecord} {rest : List HomeRecord} {i : ℕ}
    (h : Once s) (hcall : Outstanding.complete s.calls i = some (r, rest))
    (outcome : Except String Unit) : Once (completeCreate r outcome { s with calls := rest }) := by
  obtain ⟨hadded, hnavigations⟩ := h
  rw [Outstanding.length_of_complete hcall] at hadded hnavigations
  obtain ⟨hcalls, hadded', hnavigations', hpage⟩ :=
    completeCreate_effect r outcome { s with calls := rest }
  refine ⟨?_, ?_⟩ <;> rw [hcalls]
  · exact hadded.complete hadded' fun hshown => absurd hshown hpage
  · exact hnavigations.complete hnavigations' fun hshown => absurd hshown hpage

theorem once_editName {s : State} (h : Once s) (text : List UInt16) : Once (editName text s) := by
  obtain ⟨name, isButtonDisabled, heq⟩ := editName_eq text s
  rw [heq]
  exact h.frame rfl rfl rfl id

theorem once_confirm {s : State} (h : Once s) (picker : ThaiAddress.Picker) :
    Once (confirm picker s) := by
  obtain ⟨address, picker', callbacks, heq⟩ := confirm_eq picker s
  rw [heq]
  exact h.frame rfl rfl rfl id

theorem once_step {assets : Assets} {s t : State} {e : Event} (h : Once s) (he : OneAtATime s e)
    (hstep : step assets s e = some t) : Once t := by
  cases stepped_of_step hstep with
  | loaded | tapField | scroll | cancel | editAddress => exact h.frame rfl rfl rfl id
  | done => exact once_confirm h _
  | editName text => exact once_editName h text
  | tapCreate user hshown => exact once_startCreate h (page_of_interactive hshown) (he rfl) user
  | completed outcome hcall => exact once_completeCreate h hcall outcome
  | leave | dispose => exact h.frame rfl rfl rfl fun hshown => nomatch hshown

end FormCreate

/-! ### The profile settings form -/

namespace ProfileSettings

/-- A tap on Submit. -/
def isSubmission : Event → Bool
  | .tapSubmit _ => true
  | _ => false

/-- Submit is not tapped while a call started by an earlier tap is outstanding. -/
def OneAtATime : State → Event → Prop := FormPage.OneAtATime isSubmission State.saves

/-- A page is popped once at most. -/
def Once (s : State) : Prop := FormPage.Once s.page s.saves.length s.pagePops

/-- Steps that change neither the saves nor what they have done, and do not bring the page back. -/
theorem Once.frame {s t : State} (h : Once s) (hpops : t.pagePops = s.pagePops)
    (hsaves : t.saves.length = s.saves.length) (hpage : t.page = .shown → s.page = .shown) :
    Once t := by
  rw [Once, hpops, hsaves]
  exact FormPage.Once.frame h hpage

theorem once_initial (profiles : Profiles) (user : Option Uid) (email : Option String) :
    Once (State.initial profiles user email) := FormPage.Once.initial

/-- A completed save pops at most one page, and none while the page stays. -/
theorem pagePops_finishUpdate (s : State) :
    (finishUpdate s).pagePops ≤ s.pagePops + 1 ∧
      ((finishUpdate s).page = .shown → s.page = .shown ∧ (finishUpdate s).pagePops = s.pagePops) :=
    by
  unfold finishUpdate
  cases hpage : s.page with
  | shown =>
    cases hpicker : s.picker with
    | none => simp
    | some date => simp
  | leaving => simp
  | disposed => simp [hpage]

theorem once_completed {s : State} {save : Save} {rest : List Save} {i : ℕ} (h : Once s)
    (hcall : Outstanding.complete s.saves i = some (save, rest)) :
    Once { s with saves := rest } ∧ Once (resumeUpdate save { s with saves := rest }) := by
  have hlength := Outstanding.length_of_complete hcall
  have hbefore : FormPage.Once s.page (rest.length + 1) s.pagePops := hlength ▸ h
  refine ⟨hbefore.complete (Nat.le_succ _) h.shown, ?_⟩
  cases save with
  | set owner data => exact h.frame rfl (by simp [hlength, resumeUpdate]) id
  | updateDisplayName name =>
    obtain ⟨hpops, hshown⟩ := pagePops_finishUpdate { s with saves := rest }
    obtain ⟨_, _, _, heq⟩ := finishUpdate_eq { s with saves := rest }
    have hsaves : (finishUpdate { s with saves := rest }).saves = rest := congrArg State.saves heq
    rw [resumeUpdate, Once, hsaves]
    refine hbefore.complete hpops fun ht => ?_
    obtain ⟨hpage, hsame⟩ := hshown ht
    exact hsame.trans (h.shown hpage)

theorem once_step {s t : State} {e : Event} (h : Once s) (he : OneAtATime s e)
    (hstep : step s e = some t) : Once t := by
  cases stepped_of_step hstep with
  | loaded | loadFailed | tapDate | confirmDate | closePicker => exact h.frame rfl rfl id
  | edit input text =>
    obtain ⟨name, surname, phone, heq⟩ := edit_eq input text s
    rw [heq]
    exact h.frame rfl rfl id
  | tapSubmit user hshown =>
    rcases startUpdate_cases user s with heq | ⟨owner, -, -, heq⟩ <;> rw [heq]
    · exact h
    · rw [Once, page_of_interactive hshown, he rfl] at h ⊢
      exact h.submit
  | completed hcall => exact (once_completed h hcall).2
  | failed hcall => exact (once_completed h hcall).1
  | leave | dispose => exact h.frame rfl rfl fun hshown => nomatch hshown

end ProfileSettings

/-! ### Visits -/

namespace Visits

/-- **Once per visit.** In every visit to the form for a new home in which Create is not tapped
while a call of the visit is outstanding, whatever the order of the other events and the outcomes of
the calls, at most one document is added and the form navigates at most once; in every visit to the
profile settings form with the same restriction, at most one page is popped. -/
theorem once_per_visit {assets : Assets} {ofDegrees : ℚ → ℚ → LatLng} {lat long : ℚ}
    {es : List FormCreate.Event} {s : FormCreate.State} {profiles : Profiles} {user : Option Uid}
    {email : Option String} {es' : List ProfileSettings.Event} {s' : ProfileSettings.State}
    (hes : EventRun.Meets (FormCreate.step assets) FormCreate.OneAtATime
      (FormCreate.State.initial ofDegrees lat long) es)
    (hrun : EventRun.run (FormCreate.step assets) (FormCreate.State.initial ofDegrees lat long) es =
      some s)
    (hes' : EventRun.Meets ProfileSettings.step ProfileSettings.OneAtATime
      (ProfileSettings.State.initial profiles user email) es')
    (hrun' : EventRun.run ProfileSettings.step (ProfileSettings.State.initial profiles user email)
      es' = some s') :
    s.added.length ≤ 1 ∧ s.navigations ≤ 1 ∧ s'.pagePops ≤ 1 := by
  have hs : FormCreate.Once s := EventRun.invariant_of_meets
    (fun _ _ _ => FormCreate.once_step) (FormCreate.once_initial ofDegrees lat long) hes hrun
  have hs' : ProfileSettings.Once s' := EventRun.invariant_of_meets
    (fun _ _ _ => ProfileSettings.once_step) (ProfileSettings.once_initial profiles user email) hes'
    hrun'
  exact ⟨(Nat.le_add_right _ _).trans hs.added.total,
    (Nat.le_add_right _ _).trans hs.navigations.total, (Nat.le_add_right _ _).trans hs'.total⟩

/-! ### Two taps -/

open FormCreate (firstFilled fillForm record submitted twoProvinces)

/-- The form filled in, Create tapped twice, and both calls completed. -/
def createTwice : List FormCreate.Event :=
  fillForm ++ [.tapCreate (some "u1"), .tapCreate (some "u1"), .completed 0 (.ok ()),
    .completed 0 (.ok ())]

/-- The profile form filled in by an account without a document. -/
def fillProfile : List ProfileSettings.Event :=
  [.loaded true, .edit .name "Ann", .edit .surname "Lee", .edit .phone "081",
    .tapDate ⟨2024, 1, 1⟩, .confirmDate ⟨1990, 1, 2⟩]

/-- Submit tapped twice, and all four calls completed. -/
def saveTwice : List ProfileSettings.Event :=
  fillProfile ++ [.tapSubmit (some "u1"), .tapSubmit (some "u1"), .completed 0 true,
    .completed 0 true, .completed 0 true, .completed 0 true]

/-- The texts that `fillProfile` leaves. -/
def annTexts : ProfileSettings.Texts :=
  { name := "Ann", surname := "Lee", phone := "081", dob := "02/01/1990", email := "ann@lee.org" }

/-- The visit to the profile form after the given number of saves. -/
def savedProfile (profiles : Profiles) (page : FormPage.Page) (pagePops : ℕ) :
    ProfileSettings.State :=
  { page, profiles, email := some "ann@lee.org", loading := none, texts := annTexts,
    selectedDate := some ⟨1990, 1, 2⟩, picker := none, saves := [], pagePops }

/-- Two taps on Create store the home twice and navigate twice; two taps on Submit pop two pages. -/
theorem twice_per_visit :
    (∃ s, EventRun.run (FormCreate.step twoProvinces)
      (FormCreate.State.initial LatLng.clampAndWrap 0 0) createTwice = some s ∧
        s.added.length = 2 ∧ s.navigations = 2) ∧
    ∃ s, EventRun.run ProfileSettings.step
      (ProfileSettings.State.initial (fun _ => none) (some "u1") (some "ann@lee.org")) saveTwice =
        some s ∧ s.pagePops = 2 :=
  ⟨⟨submitted [record "u1" firstFilled, record "u1" firstFilled]
      [record "u1" firstFilled, record "u1" firstFilled] 2, rfl, rfl, rfl⟩,
    ⟨savedProfile (Collection.setMerge (Collection.setMerge (fun _ => none) "u1" annTexts.data) "u1"
      annTexts.data) .leaving 2, rfl, rfl⟩⟩

/-- One tap in each form. -/
theorem once_per_visit_single :
    (submitted [record "u1" firstFilled] [record "u1" firstFilled] 1).added.length ≤ 1 ∧
      (submitted [record "u1" firstFilled] [record "u1" firstFilled] 1).navigations ≤ 1 ∧
      (savedProfile (Collection.setMerge (fun _ => none) "u1" annTexts.data) .leaving 1).pagePops ≤
        1 := by
  have hes : EventRun.Meets (FormCreate.step twoProvinces) FormCreate.OneAtATime
      (FormCreate.State.initial LatLng.clampAndWrap 0 0)
      (fillForm ++ [.tapCreate (some "u1"), .completed 0 (.ok ())]) := by
    refine .cons rfl nofun (.cons rfl nofun (.cons rfl nofun (.cons rfl nofun (.cons rfl nofun
      (.cons rfl nofun (.cons rfl nofun (.cons rfl nofun (.cons rfl nofun
        (.cons rfl (fun _ => rfl) (.cons rfl nofun trivial))))))))))
  have hes' : EventRun.Meets ProfileSettings.step ProfileSettings.OneAtATime
      (ProfileSettings.State.initial (fun _ => none) (some "u1") (some "ann@lee.org"))
      (fillProfile ++ [.tapSubmit (some "u1"), .completed 0 true, .completed 0 true]) := by
    refine .cons rfl nofun (.cons rfl nofun (.cons rfl nofun (.cons rfl nofun (.cons rfl nofun
      (.cons rfl nofun (.cons rfl (fun _ => rfl) (.cons rfl nofun (.cons rfl nofun trivial))))))))
  exact once_per_visit hes rfl hes' rfl

end Visits

end SmartHome
