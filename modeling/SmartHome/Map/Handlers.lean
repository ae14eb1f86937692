import SmartHome.Lib.AsyncWidget
import SmartHome.Map.MapComponent

/-!
# The position picker and its removal

The handlers of `MapComponent`, cut at the calls that they wait for, with every use that they make
of the widget. The steps of `MapComponent.step` are what they do while the widget is mounted; here
it may be gone.

The callback that `initState` registers for the end of the first frame is over when the first call
completes. The requests carry the position and the language, which only the replies depend on.

## Main definitions

* `MapComponent.Handlers.Call`, `MapComponent.Handlers.screen`.
* `MapComponent.Handlers.quiet` : the replies on which the component is not used.

## Main results

* `MapComponent.Handlers.state_geocoded`, `MapComponent.Handlers.state_subAddressed`,
  `MapComponent.Handlers.state_cameraLocated` : on a mounted component the handlers do what the
  steps of `MapComponent.step` do.
* `MapComponent.Handlers.quietTable`.
-/

namespace SmartHome.MapComponent.Handlers

open Dart AsyncWidget

/-- `_MapComponentState`. -/
structure MapComponentState where
  currentPosition : Option LatLng
  address : String
  subAddress : String

/-- The permission to use the location of the device. -/
inductive LocationPermission where
  | denied
  | deniedForever
  | whileInUse
  | always
  | unableToDetermine
  deriving DecidableEq

/-- What the handlers wait for: the four calls of `_getCurrentLocation`, `getLatLng` of
`_onCameraIdle`, and the two requests of `_onPositionChanged`. -/
inductive Call where
  | isLocationServiceEnabled
  | checkPermission
  | requestPermission
  | getCurrentPosition
  | getLatLng
  | subAddress
  | geocode (subAddress2 : String)
  deriving DecidableEq

/-- What the calls complete with. -/
abbrev Call.Reply : Call → Type
  | .isLocationServiceEnabled => Except Error Bool
  | .checkPermission | .requestPermission => Except Error LocationPermission
  | .getCurrentPosition => Except Error (ℚ × ℚ)
  | .getLatLng => Except Error LatLng
  | .subAddress => Except Error String
  | .geocode _ => MapComponent.Reply

/-- The stretches of the handlers of the component. -/
abbrev Stretch := Handler MapComponentState Call Error

/-- `Future.error`. -/
def futureError (message : String) : Stretch Unit := throw (.error (.exception message))

/-- `_getCurrentLocation` from `isLocationServiceEnabled` on. -/
def serviceChecked (enabled : Except Error Bool) : Stretch Unit := do
  let serviceEnabled ← enabled
  if serviceEnabled then await .checkPermission
  else futureError "Location services are disabled."

/-- The last test of the permission. -/
def permitted (permission : LocationPermission) : Stretch Unit :=
  if permission = .deniedForever then
    futureError
      "Location permissions are permanently denied, we cannot request permissions."
  else await .getCurrentPosition

/-- `_getCurrentLocation` from `checkPermission` on. -/
def permissionChecked (reply : Except Error LocationPermission) : Stretch Unit := do
  let permission ← reply
  if permission = .denied then await .requestPermission else permitted permission

/-- `_getCurrentLocation` from `requestPermission` on. -/
def permissionRequested (reply : Except Error LocationPermission) : Stretch Unit := do
  let permission ← reply
  if permission = .denied then futureError "Location permissions are denied"
  else permitted permission

variable (ofDegrees : ℚ → ℚ → LatLng)

/-- `_getCurrentLocation` from `getCurrentPosition` on. The callback that it registers moves the
camera, which does not involve the widget. -/
def positioned (reply : Except Error (ℚ × ℚ)) : Stretch Unit := do
  let position ← reply
  setState do
    modify fun s => { s with currentPosition := some (ofDegrees position.1 position.2) }

variable (texts : Texts)

/-- The `catch` of `_onPositionChanged`. -/
def onError (_ : Thrown Error) : Stretch Unit :=
  setState do modify fun s => { s with address := texts.getCurrentLocationError, subAddress := "" }

/-- `_onPositionChanged` up to its first request. -/
def onPositionChanged (newPosition : LatLng) : Stretch Unit := do
  let s ← fields
  if s.currentPosition = some newPosition then return
  setState do modify fun s => { s with currentPosition := some newPosition }
  try
    -- `Provider.of<LocaleProvider>(context, listen: false)`
    context
    await .subAddress
  catch e => onError texts e

/-- The `then` of `_onCameraIdle`. -/
def cameraLocated (reply : Except Error LatLng) : Stretch Unit := do
  let latLng ← reply
  let s ← fields
  unless s.currentPosition = some latLng do fork (onPositionChanged texts latLng)
  setState do modify fun s => { s with currentPosition := some latLng }

/-- `_onPositionChanged` from the reply to its first request on. -/
def subAddressed (reply : Except Error String) : Stretch Unit := do
  try
    let subAddress2 ← reply
    await (.geocode subAddress2)
  catch e => onError texts e

/-- `data['results'][0]['address_components']`, if there are results. -/
def firstResult (data : Dyn) : Except Error (Option Dyn) := do
  let results ← data.index "results"
  if ← results.isNotEmpty then
    let addressComponents ← (← results.getAt 0).index "address_components"
    return some addressComponents
  else return none

/-- `"${addressComponents[0]['long_name']} ${addressComponents[1]['long_name']}"`. -/
def componentsText (addressComponents : Dyn) : Except Error String := do
  let first ← (← addressComponents.getAt 0).index "long_name"
  let second ← (← addressComponents.getAt 1).index "long_name"
  return first.text ++ " " ++ second.text

/-- The closure that shows the first result. -/
def showResult (addressComponents : Dyn) (subAddress2 : String) :
    ExceptT Error (StateM MapComponentState) Unit := do
  let text ← componentsText addressComponents
  modify fun s => { s with address := text, subAddress := subAddress2 }

/-- The last part of the `try` of `_onPositionChanged`. -/
def showReply (subAddress2 : String) : MapComponent.Reply → Stretch Unit
  | .thrown => throw (.error (.exception "ClientException"))
  | .response status body =>
    if status = 200 then do
      let data ← body
      match ← firstResult data with
      | some addressComponents => setState (showResult addressComponents subAddress2)
      | none => pure ()
    else setState do modify fun s => { s with address := fetchFailed, subAddress := "" }

/-- `_onPositionChanged` from the reply of the geocoder on. -/
def geocoded (subAddress2 : String) (reply : MapComponent.Reply) : Stretch Unit := do
  try showReply subAddress2 reply
  catch e => onError texts e

/-- The component, after its first frame. `start` is a camera that comes to rest. -/
def screen : Screen MapComponentState Call Unit Error Call.Reply where
  initial := { currentPosition := none, address := texts.getCurrentLocation, subAddress := "" }
  initState := await .isLocationServiceEnabled
  start _ := do
    -- `MediaQuery.of(context)`
    context
    await .getLatLng
  detached _ := false
  resume
    | .isLocationServiceEnabled, enabled => serviceChecked enabled
    | .checkPermission, permission => permissionChecked permission
    | .requestPermission, permission => permissionRequested permission
    | .getCurrentPosition, position => positioned ofDegrees position
    | .getLatLng, latLng => cameraLocated texts latLng
    | .subAddress, address => subAddressed texts address
    | .geocode subAddress2, reply => geocoded texts subAddress2 reply

/-! ### While the component is mounted -/

section Mounted

theorem geocodedText_eq (data : Dyn) :
    geocodedText data = firstResult data >>= fun components =>
      components.elim (pure none) fun addressComponents =>
        some <$> componentsText addressComponents := by
  unfold geocodedText firstResult
  simp only [bind_assoc]
  refine bind_congr fun results => bind_congr fun isNotEmpty => ?_
  split
  · simp only [bind_assoc, pure_bind, Option.elim, componentsText, map_bind, map_pure]
  · rfl

/-- What the handlers write of the state of the component. -/
def shown (s : MapComponent.State) : MapComponentState :=
  ⟨s.currentPosition, s.address, s.subAddress⟩

variable {texts} {w : Widget MapComponentState Call} {s : MapComponent.State}

theorem state_of_thrown {m : Stretch Unit} {e : Thrown Error} (hw : w.mounted = true)
    (hs : w.state = shown s) (hm : m.run w = (.error e, w)) :
    ((tryCatch m (onError texts)).run w).2.state = shown (MapComponent.onError texts s) := by
  simp only [Handler.run_tryCatch, hm, onError, run_setState _ hw, hs]
  rfl

/-- On a mounted component the reply of the geocoder has the effect of `applyUpdate`. -/
theorem state_geocoded {subAddress2 : String} (reply : MapComponent.Reply) {r : Request}
    (hr : r.stage = .geocode subAddress2) (hw : w.mounted = true) (hs : w.state = shown s) :
    ((geocoded texts subAddress2 reply).run w).2.state =
      shown (applyUpdate texts r (readReply reply) s) := by
  rcases reply with _ | ⟨status, body⟩
  · exact state_of_thrown hw hs rfl
  by_cases hstatus : status = 200
  · subst hstatus
    rcases body with e | data
    · exact state_of_thrown hw hs rfl
    simp only [readReply, if_true, ok_bind, geocodedText_eq]
    cases hcomponents : firstResult data with
    | error e =>
      refine state_of_thrown (e := .error e) hw hs ?_
      simp only [showReply, if_true, Handler.run_bind, Handler.run_lift_ok, hcomponents,
        Handler.run_lift_error]
    | ok components =>
      cases components with
      | none =>
        simp only [geocoded, Handler.run_tryCatch, showReply, if_true, Handler.run_bind,
          Handler.run_lift_ok, hcomponents]
        exact hs
      | some addressComponents =>
        have hrun : (showReply subAddress2 (.response 200 (.ok data))).run w =
            (setState (showResult addressComponents subAddress2) : Stretch Unit).run w := by
          simp only [showReply, if_true, Handler.run_bind, Handler.run_lift_ok, hcomponents]
        rw [run_setState _ hw] at hrun
        cases htext : componentsText addressComponents with
        | error e =>
          have hclosure :
              (showResult addressComponents subAddress2).run w.state = (.error e, w.state) := by
            rw [showResult, htext]
            rfl
          rw [hclosure] at hrun
          simp only [ok_bind, Option.elim, htext]
          exact state_of_thrown hw hs hrun
        | ok text =>
          have hclosure : (showResult addressComponents subAddress2).run w.state =
              (.ok (), { w.state with address := text, subAddress := subAddress2 }) := by
            rw [showResult, htext]
            rfl
          rw [hclosure] at hrun
          simp only [geocoded, Handler.run_tryCatch, hrun, hs]
          simp only [ok_bind, Option.elim, htext, applyUpdate, hr]
          rfl
  · simp only [readReply, if_neg hstatus, geocoded, Handler.run_tryCatch, showReply,
      run_setState _ hw, hs]
    rfl

theorem state_subAddressed (reply : Except Error String) (r : Request) (hw : w.mounted = true)
    (hs : w.state = shown s) :
    ((subAddressed texts reply).run w).2.state = shown (onSubReply texts r reply s) := by
  cases reply with
  | ok subAddress2 => exact hs
  | error e => exact state_of_thrown hw hs rfl

theorem run_onPositionChanged {newPosition : LatLng} (hw : w.mounted = true)
    (hne : w.state.currentPosition ≠ some newPosition) :
    (onPositionChanged texts newPosition).run w =
      (.ok (), { w with state := { w.state with currentPosition := some newPosition },
                        calls := w.calls ++ [.subAddress] }) := by
  simp only [onPositionChanged, Handler.run_bind, fields, if_neg hne, run_setState _ hw,
    Handler.run_tryCatch, context, use, hw, if_true]
  rfl

theorem state_cameraLocated (latLng : LatLng) (hw : w.mounted = true) (hs : w.state = shown s) :
    ((cameraLocated texts (.ok latLng)).run w).2.state = shown (onCameraIdle latLng s) := by
  have hposition : w.state.currentPosition = s.currentPosition := by rw [hs]; rfl
  by_cases hsame : s.currentPosition = some latLng
  · have hstate : (cameraLocated texts (.ok latLng)).run w = (setState do
        modify fun s => { s with currentPosition := some latLng } : Stretch Unit).run w := by
      simp only [cameraLocated, Handler.run_bind, Handler.run_lift_ok, fields,
        if_pos (hposition.trans hsame)]
    rw [hstate, run_setState _ hw, hs, onCameraIdle, if_pos hsame, shown, hsame]
    rfl
  · have hne : w.state.currentPosition ≠ some latLng := hposition ▸ hsame
    simp only [cameraLocated, Handler.run_bind, Handler.run_lift_ok, fields, if_neg hne, run_fork,
      run_onPositionChanged hw hne, onCameraIdle, if_neg hsame]
    rw [run_setState _ (by exact hw), hs]
    rfl

end Mounted

/-! ### After its removal -/

/-- A reply of the geocoder without results. -/
def WithoutResults (reply : MapComponent.Reply) : Prop :=
  ∃ data results, reply = .response 200 (.ok data) ∧ data.index "results" = .ok results ∧
    results.isNotEmpty = .ok false

theorem withoutResults_iff {reply : MapComponent.Reply} :
    WithoutResults reply ↔
      ∃ data, reply = .response 200 (.ok data) ∧ firstResult data = .ok none := by
  constructor
  · rintro ⟨data, results, rfl, hresults, hempty⟩
    exact ⟨data, rfl, by rw [firstResult, hresults, ok_bind, hempty]; rfl⟩
  · rintro ⟨data, rfl, h⟩
    obtain ⟨results, hresults, h⟩ := bind_eq_ok.mp h
    obtain ⟨isNotEmpty, hempty, h⟩ := bind_eq_ok.mp h
    cases isNotEmpty with
    | false => exact ⟨data, results, rfl, hresults, hempty⟩
    | true =>
      obtain ⟨result, -, h⟩ := bind_eq_ok.mp h
      obtain ⟨addressComponents, -, h⟩ := bind_eq_ok.mp h
      cases h

/-- The replies on which the component is not used: the handlers go on to the next call, end without
an update, or throw where nothing catches. -/
def quiet : (c : Call) → c.Reply → Prop
  | .isLocationServiceEnabled, _ | .checkPermission, _ | .requestPermission, _ => True
  | .getCurrentPosition, position => ¬ position.isOk
  | .getLatLng, latLng => ¬ latLng.isOk
  | .subAddress, address => address.isOk
  | .geocode _, reply => WithoutResults reply

theorem silent_permissionChecked (reply : Except Error LocationPermission) :
    Silent (permissionChecked reply) := by
  rcases reply with e | permission
  · exact fun _ _ => rfl
  · cases permission <;> exact fun _ _ => rfl

theorem silent_permissionRequested (reply : Except Error LocationPermission) :
    Silent (permissionRequested reply) := by
  rcases reply with e | permission
  · exact fun _ _ => rfl
  · cases permission <;> exact fun _ _ => rfl

theorem silent_geocoded {subAddress2 : String} {reply : MapComponent.Reply}
    (h : WithoutResults reply) : Silent (geocoded texts subAddress2 reply) := by
  obtain ⟨data, rfl, hnone⟩ := withoutResults_iff.mp h
  intro w _
  simp only [geocoded, Handler.run_tryCatch, showReply, if_true, Handler.run_bind,
    Handler.run_lift_ok, hnone]
  rfl

theorem late_onError (e : Thrown Error) : Late (onError texts e) :=
  late_setState _

theorem late_cameraLocated (latLng : LatLng) : Late (cameraLocated texts (.ok latLng)) := by
  refine late_lift_bind (late_bind (fun w => ⟨w.state, rfl⟩) fun s => ?_)
  by_cases hsame : s.currentPosition = some latLng
  · simp only [if_pos hsame]
    exact late_setState _
  · simp only [if_neg hsame]
    exact late_bind (fun _ => ⟨(), rfl⟩) fun _ => late_setState _

/-- Past its tests the last part of the `try` ends with a `setState`. -/
theorem fails_showReply {subAddress2 : String} {reply : MapComponent.Reply}
    (h : ¬ WithoutResults reply) : Fails (showReply subAddress2 reply) := by
  rcases reply with _ | ⟨status, body⟩
  · exact fails_throw _
  by_cases hstatus : status = 200
  · subst hstatus
    simp only [showReply, if_true]
    refine fails_lift_bind fun data hdata => fails_lift_bind fun components hcomponents => ?_
    cases components with
    | some addressComponents => exact fails_setState _
    | none => exact absurd (withoutResults_iff.mpr ⟨data, by rw [hdata], hcomponents⟩) h
  · simp only [showReply, if_neg hstatus]
    exact fails_setState _

theorem quietTable : (screen ofDegrees texts).QuietTable quiet where
  silent c r hr := by
    cases c with
    | isLocationServiceEnabled =>
      rcases r with e | _ | _ <;> exact fun _ _ => rfl
    | checkPermission => exact silent_permissionChecked r
    | requestPermission => exact silent_permissionRequested r
    | getCurrentPosition | getLatLng =>
      rcases r with e | _
      · exact fun _ _ => rfl
      · exact absurd rfl hr
    | subAddress =>
      rcases r with e | _
      · cases hr
      · exact fun _ _ => rfl
    | geocode subAddress2 => exact silent_geocoded texts hr
  late c r hr := by
    cases c with
    | isLocationServiceEnabled | checkPermission | requestPermission => exact absurd trivial hr
    | getCurrentPosition =>
      rcases r with e | position
      · exact absurd (by rintro ⟨⟩) hr
      · exact late_lift_bind (late_setState _)
    | getLatLng =>
      rcases r with e | latLng
      · exact absurd (by rintro ⟨⟩) hr
      · exact late_cameraLocated texts latLng
    | subAddress =>
      rcases r with e | address
      · exact late_tryCatch ((fails_lift e).bind _) (late_onError texts)
      · exact absurd rfl hr
    | geocode subAddress2 => exact late_tryCatch (fails_showReply hr) (late_onError texts)
  detached i hi := by cases hi

end SmartHome.MapComponent.Handlers
