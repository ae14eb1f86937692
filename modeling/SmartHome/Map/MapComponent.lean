import SmartHome.Lib.DartValue
import SmartHome.Lib.EventRun
import SmartHome.Lib.Outstanding
import SmartHome.Map.LatLng

/-!
# The position picker

`MapComponent` keeps the position under the pin and the address to be shown for it. When the camera
comes to rest the position is set at once, and the address follows from two requests, one after the
other: a reverse lookup for `subAddress`, and the geocoder for `address`. Requests of several
positions can be outstanding, and a reply is not compared with the position it was asked for. The
Done button hands position and address over as they are.

What `AddressUtils.getAddress` makes of the reply to the first request is a parameter of the event:
it ends up in `subAddress` only.

## Main definitions

* `MapComponent.State`, `MapComponent.Event`, `MapComponent.step`.
* `MapComponent.readReply` : what a reply of the geocoder does.
* `MapComponent.Consistent` : the address is a text of the component, or was returned for the
  position.
* `MapComponent.Timely` : the condition on a step under which the address follows the position.

## Main results

* `MapComponent.consistent_of_timely` : in runs of timely steps every pair handed over is
  consistent.
-/

namespace SmartHome.MapComponent

open Dart

/-- The localized texts of the component. -/
structure Texts where
  getCurrentLocation : String
  getCurrentLocationError : String

/-- How far the requests for a position have got. -/
inductive Stage where
  | subAddress
  | geocode (subAddress2 : String)
  deriving DecidableEq

/-- The requests for a position. -/
structure Request where
  position : LatLng
  stage : Stage
  deriving DecidableEq

/-- The state of the component. `locating` says that the location of the device is still being
determined; `replies` lists the texts that the geocoder has returned, with the positions they were
returned for, and `handed` the pair that Done has handed over last. -/
structure State where
  currentPosition : Option LatLng
  address : String
  subAddress : String
  locating : Bool
  requests : List Request
  replies : List (LatLng × String)
  handed : Option (LatLng × String)
  deriving DecidableEq

/-- The component after its first frame. -/
def State.initial (texts : Texts) : State :=
  { currentPosition := none, address := texts.getCurrentLocation, subAddress := "",
    locating := true, requests := [], replies := [], handed := none }

/-- A reply of the geocoder: the request throws, or there is a status and a body, which may fail to
decode. -/
inductive Reply where
  | thrown
  | response (status : ℕ) (body : Except Error Dyn)

/-- What can happen next. `cameraIdle` is the position that the map reports when the camera has come
to rest, `located` the location of the device. -/
inductive Event where
  | located (latitude longitude : ℚ)
  | cameraIdle (latLng : LatLng)
  | subReplied (i : ℕ) (subAddress2 : Except Error String)
  | replied (i : ℕ) (reply : Reply)
  | done

/-! ### Handlers -/

/-- The text of `'Failed to fetch address'`. -/
def fetchFailed : String := "Failed to fetch address"

/-- `_onCameraIdle` and `_onPositionChanged` up to the first request. -/
def onCameraIdle (latLng : LatLng) (s : State) : State :=
  if s.currentPosition = some latLng then s
  else
    { s with currentPosition := some latLng, requests := s.requests ++ [⟨latLng, .subAddress⟩] }

/-- `"${addressComponents[0]['long_name']} ${addressComponents[1]['long_name']}"` of the first
result, nothing if there are no results. -/
def geocodedText (data : Dyn) : Except Error (Option String) := do
  let results ← data.index "results"
  if ← results.isNotEmpty then
    let result ← results.getAt 0
    let addressComponents ← result.index "address_components"
    let first ← (← addressComponents.getAt 0).index "long_name"
    let second ← (← addressComponents.getAt 1).index "long_name"
    return some (first.text ++ " " ++ second.text)
  else return none

/-- What a reply of the geocoder does to the address. -/
inductive Update where
  | geocoded (text : String)
  | unchanged
  | failed
  | thrown
  deriving DecidableEq

/-- The end of `_onPositionChanged`, from the reply of the geocoder on. -/
def readReply : Reply → Update
  | .thrown => .thrown
  | .response status body =>
    if status = 200 then
      match body >>= geocodedText with
      | .ok (some text) => .geocoded text
      | .ok none => .unchanged
      | .error _ => .thrown
    else .failed

/-- The `catch` of `_onPositionChanged`. -/
def onError (texts : Texts) (s : State) : State :=
  { s with address := texts.getCurrentLocationError, subAddress := "" }

/-- The update of the address by the reply to the geocoding request `r`. -/
def applyUpdate (texts : Texts) (r : Request) (update : Update) (s : State) : State :=
  match update with
  | .geocoded text =>
    let subAddress2 := match r.stage with
      | .geocode subAddress2 => subAddress2
      | .subAddress => ""
    { s with address := text, subAddress := subAddress2,
             replies := s.replies ++ [(r.position, text)] }
  | .unchanged => s
  | .failed => { s with address := fetchFailed, subAddress := "" }
  | .thrown => onError texts s

/-- The first request of `r` completes: the geocoder is asked. -/
def onSubReply (texts : Texts) (r : Request) (subAddress2 : Except Error String) (s : State) :
    State :=
  match subAddress2 with
  | .ok text => { s with requests := s.requests ++ [⟨r.position, .geocode text⟩] }
  | .error _ => onError texts s

/-- The Done button, which shows a hint while there is no position. -/
def onDone (s : State) : State :=
  match s.currentPosition with
  | some position => { s with handed := some (position, s.address) }
  | none => s

/-- One step, with the constructor of positions. A reply belongs to a request of its stage. -/
def step (ofDegrees : ℚ → ℚ → LatLng) (texts : Texts) (s : State) : Event → Option State
  | .located latitude longitude =>
    if s.locating then
      some { s with locating := false, currentPosition := some (ofDegrees latitude longitude) }
    else none
  | .cameraIdle latLng => some (onCameraIdle latLng s)
  | .subReplied i subAddress2 =>
    (Outstanding.complete s.requests i).bind fun call =>
      if call.1.stage = .subAddress then
        some (onSubReply texts call.1 subAddress2 { s with requests := call.2 })
      else none
  | .replied i reply =>
    (Outstanding.complete s.requests i).bind fun call =>
      if call.1.stage = .subAddress then none
      else some (applyUpdate texts call.1 (readReply reply) { s with requests := call.2 })
  | .done => some (onDone s)

/-! ### The address and the position -/

variable {ofDegrees : ℚ → ℚ → LatLng} {texts : Texts}

/-- One of the loading and failure texts of the component. -/
def OwnText (texts : Texts) (address : String) : Prop :=
  address = texts.getCurrentLocation ∨ address = texts.getCurrentLocationError ∨
    address = fetchFailed

/-- The address is a text of the component, or the geocoder has returned it for the position. -/
def Consistent (texts : Texts) (s : State) (position : LatLng) : Prop :=
  OwnText texts s.address ∨ (position, s.address) ∈ s.replies

/-- A request for the position is outstanding. -/
def Requested (requests : List Request) (position : LatLng) : Prop :=
  ∃ r ∈ requests, r.position = position

/-- The condition on a step.

The location of the device is one that the address shown is right for, or that has been asked for.
A text that the geocoder returns is for the present position, or there is another request for that;
a reply without results leaves a text that is right for the position, or another request for it.
Done is tapped while a text of the component is shown, or no request for the present position is
outstanding. -/
def Timely (ofDegrees : ℚ → ℚ → LatLng) (texts : Texts) (s : State) : Event → Prop
  | .located latitude longitude =>
    Consistent texts s (ofDegrees latitude longitude) ∨
      Requested s.requests (ofDegrees latitude longitude)
  | .cameraIdle _ => True
  | .subReplied _ _ => True
  | .replied i reply => ∀ r rest position, Outstanding.complete s.requests i = some (r, rest) →
      s.currentPosition = some position →
        match readReply reply with
        | .geocoded _ => r.position = position ∨ Requested rest position
        | .unchanged => r.position = position → Consistent texts s position ∨
            Requested rest position
        | .failed => True
        | .thrown => True
  | .done => ∀ position, s.currentPosition = some position → Requested s.requests position →
      OwnText texts s.address

/-- The invariant of timely runs: the address is right for the present position, or there is a
request for it. -/
def Follows (texts : Texts) (s : State) : Prop :=
  ∀ position, s.currentPosition = some position →
    Consistent texts s position ∨ Requested s.requests position

theorem requested_of_complete {requests rest : List Request} {i : ℕ} {r : Request}
    (h : Outstanding.complete requests i = some (r, rest)) {position : LatLng} :
    Requested requests position ↔ r.position = position ∨ Requested rest position := by
  simp only [Requested, Outstanding.mem_iff_of_complete h, or_and_right, exists_or,
    exists_eq_left]

theorem requested_concat {requests : List Request} {r : Request} {position : LatLng} :
    Requested (requests ++ [r]) position ↔ Requested requests position ∨ r.position = position := by
  simp only [Requested, List.mem_append, List.mem_singleton, or_and_right, exists_or,
    exists_eq_left]

theorem follows_onError (texts : Texts) (s : State) : Follows texts (onError texts s) :=
  fun _ _ => Or.inl (Or.inl (Or.inr (Or.inl rfl)))

theorem follows_onCameraIdle {s : State} (h : Follows texts s) (latLng : LatLng) :
    Follows texts (onCameraIdle latLng s) := by
  unfold onCameraIdle
  split
  · exact h
  · rintro position ⟨⟩
    exact Or.inr (requested_concat.mpr (Or.inr rfl))

theorem follows_onSubReply {s : State} (h : Follows texts s) {i : ℕ} {r : Request}
    {rest : List Request} (hcall : Outstanding.complete s.requests i = some (r, rest))
    (subAddress2 : Except Error String) :
    Follows texts (onSubReply texts r subAddress2 { s with requests := rest }) := by
  cases subAddress2 with
  | error e => exact follows_onError texts _
  | ok text =>
    intro position hposition
    refine (h position hposition).imp_right fun hrequested => requested_concat.mpr ?_
    exact ((requested_of_complete hcall).mp hrequested).symm

theorem follows_applyUpdate {s : State} (h : Follows texts s) {i : ℕ} {r : Request}
    {rest : List Request} (hcall : Outstanding.complete s.requests i = some (r, rest))
    {reply : Reply} (he : Timely ofDegrees texts s (.replied i reply)) :
    Follows texts (applyUpdate texts r (readReply reply) { s with requests := rest }) := by
  intro position hposition
  have hposition' : s.currentPosition = some position := by
    revert hposition
    cases readReply reply <;> exact id
  have hcondition := he r rest position hcall hposition'
  cases hupdate : readReply reply with
  | geocoded text =>
    rw [hupdate] at hcondition
    refine hcondition.imp_left fun hsame => Or.inr ?_
    exact List.mem_append_right _ (List.mem_singleton.mpr (hsame ▸ rfl))
  | unchanged =>
    rw [hupdate] at hcondition
    rcases h position hposition' with hconsistent | hrequested
    · exact Or.inl hconsistent
    · rcases (requested_of_complete hcall).mp hrequested with hsame | hrest
      · exact hcondition hsame
      · exact Or.inr hrest
  | failed => exact Or.inl (Or.inl (Or.inr (Or.inr rfl)))
  | thrown => exact follows_onError texts _ position hposition'

/-- A timely step keeps the address following the position. -/
theorem follows_step {s t : State} {e : Event} (h : Follows texts s)
    (he : Timely ofDegrees texts s e) (hstep : step ofDegrees texts s e = some t) :
    Follows texts t := by
  cases e with
  | located latitude longitude =>
    simp only [step, Option.ite_none_right_eq_some, Option.some.injEq] at hstep
    obtain ⟨-, rfl⟩ := hstep
    rintro position ⟨⟩
    exact he
  | cameraIdle latLng =>
    obtain rfl := Option.some.inj hstep
    exact follows_onCameraIdle h latLng
  | subReplied i subAddress2 =>
    obtain ⟨⟨r, rest⟩, hcall, hstep⟩ := Option.bind_eq_some_iff.mp hstep
    simp only [Option.ite_none_right_eq_some, Option.some.injEq] at hstep
    obtain ⟨-, rfl⟩ := hstep
    exact follows_onSubReply h hcall subAddress2
  | replied i reply =>
    obtain ⟨⟨r, rest⟩, hcall, hstep⟩ := Option.bind_eq_some_iff.mp hstep
    simp only [Option.ite_none_left_eq_some, Option.some.injEq] at hstep
    obtain ⟨-, rfl⟩ := hstep
    exact follows_applyUpdate h hcall he
  | done =>
    obtain rfl := Option.some.inj hstep
    unfold onDone
    split
    · exact h
    · exact h

/-- **The address handed over.** In every run whose steps are timely and that ends with a tap on
Done, the address handed over is a text of the component, or one that the geocoder has returned for
the position handed over. -/
theorem consistent_of_timely {es : List Event} {s t : State}
    (hes : EventRun.Meets (step ofDegrees texts) (Timely ofDegrees texts) (State.initial texts)
      (es ++ [.done]))
    (hrun : EventRun.run (step ofDegrees texts) (State.initial texts) es = some s)
    (hdone : step ofDegrees texts s .done = some t) {position : LatLng}
    (hposition : s.currentPosition = some position) :
    t.handed = some (position, s.address) ∧ Consistent texts s position := by
  obtain rfl := Option.some.inj hdone
  refine ⟨by rw [onDone, hposition], ?_⟩
  have hinit : Follows texts (State.initial texts) := fun position h => nomatch h
  have hs : Follows texts s := EventRun.invariant_of_meets (fun _ _ _ => follows_step) hinit
    (EventRun.meets_append hes hrun).1 hrun
  rcases hs position hposition with hconsistent | hrequested
  · exact hconsistent
  · exact Or.inl (hes.last hrun rfl position hposition hrequested)

/-! ### A reply without results -/

/-- The texts of the localization for English. -/
def englishTexts : Texts :=
  { getCurrentLocation := "Retrieving current location..."
    getCurrentLocationError := "Could not retrieve current location" }

/-- Two positions. -/
def park : LatLng := ⟨13, 100, by norm_num, by norm_num⟩

/-- The second one. -/
def river : LatLng := ⟨14, 100, by norm_num, by norm_num⟩

/-- A body with one result. -/
def bodyOf (first second : String) : Dyn :=
  .map [("results", .list [.map [("address_components",
    .list [.map [("long_name", .str first)], .map [("long_name", .str second)]])]])]

/-- The camera comes to rest at `park`, and both replies arrive. -/
def settleAtPark : List Event :=
  [.cameraIdle park, .subReplied 0 (.ok "Lumphini"),
    .replied 0 (.response 200 (.ok (bodyOf "Rama IV Road" "Bangkok")))]

/-- It moves on to `river`, for which the geocoder has no results. -/
def moveToRiver : List Event :=
  [.cameraIdle river, .subReplied 0 (.ok ""),
    .replied 0 (.response 200 (.ok (.map [("results", .list [])])))]

/-- The component at a position, showing the address of `park`. -/
def showingPark (position : LatLng) (handed : Option (LatLng × String)) : State :=
  { currentPosition := some position, address := "Rama IV Road Bangkok", subAddress := "Lumphini",
    locating := true, requests := [], replies := [(park, "Rama IV Road Bangkok")], handed }

/-- With nothing outstanding, Done hands over the position `river` with the address of `park`. -/
theorem done_hands_over_other_address :
    EventRun.run (step LatLng.clampAndWrap englishTexts) (State.initial englishTexts)
        (settleAtPark ++ moveToRiver ++ [.done]) =
      some (showingPark river (some (river, "Rama IV Road Bangkok"))) ∧
      ¬ Consistent englishTexts (showingPark river none) river := by
  refine ⟨rfl, ?_⟩
  rintro ((h | h | h) | h)
  · exact absurd h (by decide)
  · exact absurd h (by decide)
  · exact absurd h (by decide)
  · exact absurd (congrArg Prod.fst (List.mem_singleton.mp h)) (by decide)

/-- Done at `park`. -/
theorem consistent_at_park :
    (showingPark park (some (park, "Rama IV Road Bangkok"))).handed =
        some (park, "Rama IV Road Bangkok") ∧
      Consistent englishTexts (showingPark park none) park := by
  have hes : EventRun.Meets (step LatLng.clampAndWrap englishTexts)
      (Timely LatLng.clampAndWrap englishTexts) (State.initial englishTexts)
      (settleAtPark ++ [.done]) := by
    refine .cons rfl trivial (.cons rfl trivial (.cons rfl ?_ (.cons rfl ?_ trivial)))
    · intro r rest position hcall hposition
      obtain rfl := Option.some.inj hposition
      obtain ⟨rfl, rfl⟩ := Prod.mk.inj (Option.some.inj hcall)
      exact Or.inl rfl
    · rintro position - ⟨r, hr, -⟩
      cases hr
  exact consistent_of_timely hes rfl rfl rfl

end SmartHome.MapComponent
