import SmartHome.Address.ThaiAddress
import SmartHome.Components.AirThai
import SmartHome.Map.Handlers
import SmartHome.Profile.UserProfile
import SmartHome.Settings.Handlers

/-!
# Screens that are removed while calls are outstanding

The handlers of `ThaiAddress` and `ProfileDetailScreen`, cut at the calls that they wait for, join
those of `AirThai`, `MapComponent` and `LanguageScreen`. None of them asks whether its widget is
still mounted, so whether a call that completes after the removal leads to a use of the widget
depends on what it completes with.

## Main definitions

* `ThaiAddress.Handlers.screen`, `ProfileDetail.Handlers.screen`, each with a table `quiet` of the
  replies on which the widget is not used.

## Main results

* `Disposal.clean_iff_quiet` : for the five screens, a run is clean exactly when the calls that
  complete after the removal complete with quiet replies.
-/

namespace SmartHome

open Dart AsyncWidget

/-! ### The address picker -/

namespace ThaiAddress.Handlers

/-- The three reads of `_loadData`, with the texts read before. -/
inductive Call where
  | provinces
  | districts (provincesData : String)
  | subdistricts (provincesData districtsData : String)
  deriving DecidableEq

/-- What a read completes with. -/
abbrev Call.Reply (_ : Call) : Type := Except Error String

/-- The stretches of `_loadData`. -/
abbrev Stretch := Handler State Call Error

/-- The `catch` of `_loadData`, which prints. -/
def onError (_ : Thrown Error) : Stretch Unit := pure ()

/-- `_loadData` from the first read on. -/
def provincesRead (read : Except Error String) : Stretch Unit := do
  try
    let provincesData ← read
    await (.districts provincesData)
  catch e => onError e

/-- `_loadData` from the second read on. -/
def districtsRead (provincesData : String) (read : Except Error String) : Stretch Unit := do
  try
    let districtsData ← read
    await (.subdistricts provincesData districtsData)
  catch e => onError e

variable (decode : String → Except Error Dyn)

/-- `_loadData` from the third read on. What the closure throws is caught and printed as well; the
assignments that it makes until then are those of `loadData`. -/
def subdistrictsRead (provincesData districtsData : String) (read : Except Error String) :
    Stretch Unit := do
  try
    let subdistrictsData ← read
    let assets : Assets :=
      ⟨decode provincesData, decode districtsData, decode subdistrictsData⟩
    let _ ← decoded assets
    setState do modify (loadData assets)
  catch e => onError e

/-- The address picker. `decode` is `json.decode`. -/
def screen : Screen State Call Empty Error Call.Reply where
  initial := .initial
  initState := await .provinces
  start := Empty.elim
  detached := Empty.elim
  resume
    | .provinces, read => provincesRead read
    | .districts provincesData, read => districtsRead provincesData read
    | .subdistricts provincesData districtsData, read =>
      subdistrictsRead decode provincesData districtsData read

/-- The three texts decode to lists. -/
def Decodable (provincesData districtsData subdistrictsData : String) : Prop :=
  ∃ provinces districts subdistricts, decode provincesData = .ok (.list provinces) ∧
    decode districtsData = .ok (.list districts) ∧
    decode subdistrictsData = .ok (.list subdistricts)

/-- The replies on which the picker is not used. -/
def quiet : (c : Call) → c.Reply → Prop
  | .provinces, _ | .districts _, _ => True
  | .subdistricts provincesData districtsData, read =>
    ∀ subdistrictsData, read = .ok subdistrictsData →
      ¬ Decodable decode provincesData districtsData subdistrictsData

theorem asList_eq_ok {v : Dyn} {xs : List Dyn} : v.asList = .ok xs ↔ v = .list xs := by
  cases v <;> simp [Dyn.asList]

theorem decoded_of_decodable {provincesData districtsData subdistrictsData : String}
    (h : Decodable decode provincesData districtsData subdistrictsData) :
    ∃ lists, decoded ⟨decode provincesData, decode districtsData, decode subdistrictsData⟩ =
      .ok lists := by
  obtain ⟨provinces, districts, subdistricts, hp, hd, hs⟩ := h
  exact ⟨(provinces, districts, subdistricts), by rw [decoded, hp, hd, hs]; rfl⟩

theorem decodable_of_decoded {provincesData districtsData subdistrictsData : String}
    {lists : List Dyn × List Dyn × List Dyn}
    (h : decoded ⟨decode provincesData, decode districtsData, decode subdistrictsData⟩ =
      .ok lists) : Decodable decode provincesData districtsData subdistrictsData := by
  obtain ⟨provinces, hp, h⟩ := bind_eq_ok.mp h
  obtain ⟨districts, hd, h⟩ := bind_eq_ok.mp h
  obtain ⟨subdistricts, hs, -⟩ := bind_eq_ok.mp h
  obtain ⟨v, hv, hp⟩ := bind_eq_ok.mp hp
  obtain ⟨v', hv', hd⟩ := bind_eq_ok.mp hd
  obtain ⟨v'', hv'', hs⟩ := bind_eq_ok.mp hs
  exact ⟨provinces, districts, subdistricts, asList_eq_ok.mp hp ▸ hv, asList_eq_ok.mp hd ▸ hv',
    asList_eq_ok.mp hs ▸ hv''⟩

theorem silent_subdistrictsRead {provincesData districtsData subdistrictsData : String}
    (h : ¬ Decodable decode provincesData districtsData subdistrictsData) :
    Silent (subdistrictsRead decode provincesData districtsData (.ok subdistrictsData)) := by
  intro w _
  cases hlists : decoded ⟨decode provincesData, decode districtsData, decode subdistrictsData⟩ with
  | ok lists => exact absurd (decodable_of_decoded decode hlists) h
  | error e =>
    simp only [subdistrictsRead, Handler.run_tryCatch, Handler.run_bind, Handler.run_lift_ok,
      Handler.run_lift_error, hlists]
    rfl

theorem late_subdistrictsRead {provincesData districtsData subdistrictsData : String}
    (h : Decodable decode provincesData districtsData subdistrictsData) :
    Late (subdistrictsRead decode provincesData districtsData (.ok subdistrictsData)) := by
  obtain ⟨lists, hlists⟩ := decoded_of_decodable decode h
  refine Late.tryCatch (late_lift_bind ?_) _
  simp only [hlists]
  exact late_lift_bind (late_setState _)

/-- While the picker is mounted the three reads leave what `loadData` leaves. -/
theorem state_subdistrictsRead (provincesData districtsData subdistrictsData : String)
    {w : AsyncWidget.Widget State Call} (hw : w.mounted = true) :
    ((subdistrictsRead decode provincesData districtsData (.ok subdistrictsData)).run w).2.state =
      loadData ⟨decode provincesData, decode districtsData, decode subdistrictsData⟩ w.state := by
  cases hlists : decoded ⟨decode provincesData, decode districtsData, decode subdistrictsData⟩ with
  | ok lists =>
    simp only [subdistrictsRead, Handler.run_tryCatch, Handler.run_bind, Handler.run_lift_ok,
      hlists, setState, use, hw, if_true]
    rfl
  | error e =>
    simp only [subdistrictsRead, Handler.run_tryCatch, Handler.run_bind, Handler.run_lift_ok,
      Handler.run_lift_error, hlists, loadData]
    rfl

theorem quietTable : (screen decode).QuietTable (quiet decode) where
  silent c r hr := by
    cases c with
    | provinces | districts => rcases r with e | text <;> exact fun _ _ => rfl
    | subdistricts provincesData districtsData =>
      rcases r with e | text
      · exact fun _ _ => rfl
      · exact silent_subdistrictsRead decode (hr text rfl)
  late c r hr := by
    cases c with
    | provinces | districts => exact absurd trivial hr
    | subdistricts provincesData districtsData =>
      simp only [quiet, not_forall, not_not] at hr
      obtain ⟨subdistrictsData, rfl, hdecodable⟩ := hr
      exact late_subdistrictsRead decode hdecodable
  detached i := i.elim

end ThaiAddress.Handlers

/-! ### The profile page -/

namespace ProfileDetail.Handlers

/-- The call of `fetchUserProfile`. -/
inductive Call where
  | getProfile
  deriving DecidableEq

/-- `getProfile` catches what it throws, and returns null. -/
abbrev Call.Reply (_ : Call) : Type := Option Fields

/-- `_refreshProfile`, and `initState`: nothing is fetched for nobody. -/
def refreshProfile (user : Option Uid) : Handler ProfileDetail Call Error Unit :=
  if user.isSome then await .getProfile else pure ()

/-- The closures of `fetchUserProfile`. -/
def showProfile (profileJson : Option Fields) : ExceptT Error (StateM ProfileDetail) Unit :=
  ExceptT.mk fun s =>
    let (t, thrown) := s.fetchUserProfile profileJson
    (thrown.elim (.ok ()) .error, t)

/-- The page. `start` is the `onSave` of the form above it, which can outlast the page. -/
def screen (user : Option Uid) : Screen ProfileDetail Call Unit Error Call.Reply where
  initial := .initial
  initState := refreshProfile user
  start _ := refreshProfile user
  detached _ := true
  resume _ profileJson := setState (showProfile profileJson)

/-- Every reply leads to a `setState`. -/
def quiet (c : Call) (_ : c.Reply) : Prop := False

theorem quietTable (user : Option Uid) : (screen user).QuietTable quiet where
  silent _ _ hr := hr.elim
  late _ _ _ := late_setState _
  detached _ _ := by cases user <;> exact fun _ _ => rfl

end ProfileDetail.Handlers

/-! ### The five screens -/

namespace Disposal

/-- **Handlers of screens that are gone.** For each of the five screens, in every interleaving of
its removal with the calls that are outstanding: no handler uses the screen after its removal, and
no exception escapes from `_getAir`, exactly if after the removal calls complete with quiet replies
only. -/
theorem clean_iff_quiet (air : AirThai.Texts) (ofDegrees : ℚ → ℚ → LatLng)
    (map : MapComponent.Texts) (decode : String → Except Error Dyn) (locale : String)
    (user : Option Uid) :
    (∀ es, EventRun.Along (AirThai.screen air).step (Clean true) (AirThai.screen air).opened es ↔
      EventRun.Meets (AirThai.screen air).step (QuietAfterRemoval AirThai.quiet)
        (AirThai.screen air).opened es) ∧
    (∀ es, EventRun.Along (MapComponent.Handlers.screen ofDegrees map).step (Clean false)
        (MapComponent.Handlers.screen ofDegrees map).opened es ↔
      EventRun.Meets (MapComponent.Handlers.screen ofDegrees map).step
        (QuietAfterRemoval MapComponent.Handlers.quiet)
        (MapComponent.Handlers.screen ofDegrees map).opened es) ∧
    (∀ es, EventRun.Along (ThaiAddress.Handlers.screen decode).step (Clean false)
        (ThaiAddress.Handlers.screen decode).opened es ↔
      EventRun.Meets (ThaiAddress.Handlers.screen decode).step
        (QuietAfterRemoval (ThaiAddress.Handlers.quiet decode))
        (ThaiAddress.Handlers.screen decode).opened es) ∧
    (∀ es, EventRun.Along (LanguageSetting.Handlers.screen locale).step (Clean false)
        (LanguageSetting.Handlers.screen locale).opened es ↔
      EventRun.Meets (LanguageSetting.Handlers.screen locale).step
        (QuietAfterRemoval LanguageSetting.Handlers.quiet)
        (LanguageSetting.Handlers.screen locale).opened es) ∧
    (∀ es, EventRun.Along (ProfileDetail.Handlers.screen user).step (Clean false)
        (ProfileDetail.Handlers.screen user).opened es ↔
      EventRun.Meets (ProfileDetail.Handlers.screen user).step
        (QuietAfterRemoval ProfileDetail.Handlers.quiet)
        (ProfileDetail.Handlers.screen user).opened es) := by
  refine ⟨?_, ?_, ?_, ?_, ?_⟩
  · exact Screen.along_clean_iff (AirThai.quietTable air) fun _ => AirThai.catches air
  · exact Screen.along_clean_iff (MapComponent.Handlers.quietTable ofDegrees map) (by rintro ⟨⟩)
  · exact Screen.along_clean_iff (ThaiAddress.Handlers.quietTable decode) (by rintro ⟨⟩)
  · exact Screen.along_clean_iff (LanguageSetting.Handlers.quietTable locale) (by rintro ⟨⟩)
  · exact Screen.along_clean_iff (ProfileDetail.Handlers.quietTable user) (by rintro ⟨⟩)

/-- The home page is replaced while the location is being determined, which then fails. -/
def removedBeforeLocation : List (Event AirThai.Call Empty AirThai.Call.Reply) :=
  [.removed, .completed 0 .location (.error (.exception "Location services are disabled."))]

/-- The `catch` of `_getAir` calls `setState` on the card that is gone, and what that throws
escapes. -/
theorem catch_uses_removed_card :
    (∃ s, EventRun.run (AirThai.screen AirThai.englishTexts).step
        (AirThai.screen AirThai.englishTexts).opened removedBeforeLocation = some s ∧
      s.mounted = false ∧ s.lateUses = [.setState] ∧ s.escaped = [.disposed .setState]) ∧
    ¬ EventRun.Along (AirThai.screen AirThai.englishTexts).step (Clean true)
      (AirThai.screen AirThai.englishTexts).opened removedBeforeLocation := by
  have hrun : ∃ s, EventRun.run (AirThai.screen AirThai.englishTexts).step
      (AirThai.screen AirThai.englishTexts).opened removedBeforeLocation = some s ∧
      s.mounted = false ∧ s.lateUses = [.setState] ∧ s.escaped = [.disposed .setState] :=
    ⟨_, rfl, rfl, rfl, rfl⟩
  refine ⟨hrun, fun halong => ?_⟩
  obtain ⟨s, hrun, -, hlate, -⟩ := hrun
  have hclean : s.lateUses = [] := (halong.of_run hrun).1
  rw [hlate] at hclean
  cases hclean

end Disposal

end SmartHome
