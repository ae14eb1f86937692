import SmartHome.Lib.AsyncWidget
import SmartHome.Map.MapComponent

/-!
# The air quality card

`AirThai` loads the air quality at the location of the device when it is built. `_getAir` waits for
the location, for the address of the location, and for the reply of the air quality service, one
after the other; a `catch` around all of it shows an error text. The `catch` itself calls `setState`
and looks up the text in the context, so what it throws after the removal of the card escapes.

The requests carry the location and the language of the app, which only the replies depend on; they
are left out.

## Main definitions

* `AirThai.State`, `AirThai.Call`, `AirThai.screen`.
* `AirThai.quiet` : the replies on which the card is not used.

## Main results

* `AirThai.quietTable`, `AirThai.catches`.
-/

namespace SmartHome.AirThai

open Dart AsyncWidget
open MapComponent (Reply)

/-- The localized texts of the card. -/
structure Texts where
  aqiLoadingAddress : String
  aqiLoadingAddressUnableData : String
  aqiLoadingAddressError : String

/-- The texts of the localization for English. -/
def englishTexts : Texts :=
  { aqiLoadingAddress := "Retrieving current location data..."
    aqiLoadingAddressUnableData := "Unable to retrieve air quality data"
    aqiLoadingAddressError := "Error retrieving data" }

/-- The state of the card. The static type of `aqi` and `temp` is `num?`. -/
structure State where
  subAddress : String
  aqi : Dyn
  imagePath : String
  temp : Dyn

/-- What `_getAir` waits for: `getLocationDevice`, `AddressUtils.getAddress` or the air quality
service, the last with the address to be shown. -/
inductive Call where
  | location
  | address
  | response (dataAddress : String)
  deriving DecidableEq

/-- What the calls complete with. -/
abbrev Call.Reply : Call → Type
  | .location => Except Error Unit
  | .address => Except Error String
  | .response _ => MapComponent.Reply

/-- The implicit cast to `num?`. -/
def asNumOrNull : Dyn → Except Error Dyn
  | .null => .ok .null
  | .int z => .ok (.int z)
  | .double text => .ok (.double text)
  | _ => .error .typeError

/-- The closure that shows the air quality. -/
def showAir (dataAddress : String) (pollution weather : Dyn) : ExceptT Error (StateM State) Unit :=
  do
    modify fun s => { s with subAddress := dataAddress }
    let aqi ← asNumOrNull (← pollution.index "aqius")
    modify fun s => { s with aqi }
    let temp ← asNumOrNull (← weather.index "tp")
    modify fun s => { s with temp }
    let icon ← weather.index "ic"
    modify fun s =>
      { s with imagePath := "https://www.airvisual.com/images/" ++ icon.text ++ ".png" }

/-- The closures that show a text in place of the air quality. -/
def showText (text : String) : ExceptT Error (StateM State) Unit :=
  set { subAddress := text, aqi := .null, imagePath := "", temp := .null : State }

variable (texts : Texts)

/-- The `catch` of `_getAir`. -/
def onError (_ : Thrown Error) : Handler State Call Error Unit :=
  setState (showText texts.aqiLoadingAddressError)

/-- `_getAir` up to `getLocationDevice`. -/
def getAir : Handler State Call Error Unit := do
  try
    -- `Provider.of<LocaleProvider>(context, listen: false)`
    context
    await .location
  catch e => onError texts e

/-- `_getAir` from the location to `AddressUtils.getAddress`. -/
def located (position : Except Error Unit) : Handler State Call Error Unit := do
  try
    position
    await .address
  catch e => onError texts e

/-- `_getAir` from the address to the request of the air quality. -/
def addressed (address : Except Error String) : Handler State Call Error Unit := do
  try
    let dataAddress ← address
    await (.response dataAddress)
  catch e => onError texts e

/-- The last part of the `try` of `_getAir`. -/
def showResponse (dataAddress : String) : Reply → Handler State Call Error Unit
  | .thrown => throw (.error (.exception "ClientException"))
  | .response status body =>
    if status = 200 then do
      let data ← body
      let pollution ← (← (← data.index "data").index "current").index "pollution"
      let weather ← (← (← data.index "data").index "current").index "weather"
      setState (showAir dataAddress pollution weather)
    else setState (showText texts.aqiLoadingAddressUnableData)

/-- `_getAir` from the reply on. -/
def responded (dataAddress : String) (response : Reply) : Handler State Call Error Unit := do
  try showResponse texts dataAddress response
  catch e => onError texts e

/-- The card, after its first frame. -/
def screen : Screen State Call Empty Error Call.Reply where
  initial := { subAddress := texts.aqiLoadingAddress, aqi := .null, imagePath := "", temp := .null }
  initState := getAir texts
  start := Empty.elim
  detached := Empty.elim
  resume
    | .location, position => located texts position
    | .address, address => addressed texts address
    | .response dataAddress, response => responded texts dataAddress response

/-- The replies after which `_getAir` only sends its next request. -/
def quiet : (c : Call) → c.Reply → Prop
  | .location, position => position.isOk
  | .address, address => address.isOk
  | .response _, _ => False

theorem contained_onError (e : Thrown Error) : Contained (onError texts e) :=
  contained_setState fun _ => rfl

/-- What `_getAir` throws it throws from its `catch`, after a late use. -/
theorem catches : (screen texts).Catches where
  initState := contained_tryCatch _ (contained_onError texts)
  start i := i.elim
  resume c r := by cases c <;> exact contained_tryCatch _ (contained_onError texts)

theorem fails_showResponse (dataAddress : String) (response : Reply) :
    Fails (showResponse texts dataAddress response) := by
  cases response with
  | thrown => exact fails_throw _
  | response status body =>
    by_cases hstatus : status = 200
    · simp only [showResponse, if_pos hstatus]
      -- whatever the body holds, the statement at the end throws
      iterate 7 refine fails_bind _ fun _ => ?_
      exact fails_setState _
    · simp only [showResponse, if_neg hstatus]
      exact fails_setState _

/-- A `catch` that is reached uses the card. -/
theorem late_onError (e : Thrown Error) : Late (onError texts e) :=
  late_setState _

theorem quietTable : (screen texts).QuietTable quiet where
  silent c r hr := by
    cases c with
    | location =>
      cases r with
      | ok position => exact fun _ _ => rfl
      | error e => cases hr
    | address =>
      cases r with
      | ok address => exact fun _ _ => rfl
      | error e => cases hr
    | response dataAddress => exact hr.elim
  late c r hr := by
    cases c with
    | location =>
      cases r with
      | ok position => exact absurd rfl hr
      | error e => exact late_tryCatch ((fails_throw _).bind _) (late_onError texts)
    | address =>
      cases r with
      | ok address => exact absurd rfl hr
      | error e => exact late_tryCatch ((fails_throw _).bind _) (late_onError texts)
    | response dataAddress =>
      exact late_tryCatch (fails_showResponse texts dataAddress r) (late_onError texts)
  detached i := i.elim

end SmartHome.AirThai
