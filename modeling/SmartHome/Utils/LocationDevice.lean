import SmartHome.Lib.Dialogue
import SmartHome.Map.Handlers

/-!
# Asking for the location of the device

`getLocationDevice` and `_getCurrentLocation` of the map ask the platform for the location, each in
up to four calls: whether the location services are on, for the permission, for a permission to be
requested from the user, and for the position. Both are dialogues with the platform, which may
answer anything and change between two calls.

The map does other things while its dialogue goes on, and may be removed.

## Main definitions

* `getLocationDevice`, `MapComponent.getCurrentLocation`.
* `LocationDevice.Said` : what has been said before a call.

## Main results

* `LocationDevice.rel_askLocation` : the two dialogues differ in a text only.
* `LocationDevice.Stage.said` : what has been said before each call of such a dialogue.
* `LocationDevice.follows_of_run` : the map conducts it whatever else happens.
-/

namespace SmartHome

open Dart AsyncWidget
open MapComponent.Handlers (LocationPermission)

namespace LocationDevice

/-- The calls of `Geolocator`. -/
inductive Call where
  | isLocationServiceEnabled
  | checkPermission
  | requestPermission
  | getCurrentPosition
  deriving DecidableEq

/-- The types of what they complete with. -/
abbrev Call.Value : Call → Type
  | .isLocationServiceEnabled => Bool
  | .checkPermission | .requestPermission => LocationPermission
  | .getCurrentPosition => ℚ × ℚ

/-- What they complete with. -/
abbrev Call.Reply (c : Call) : Type := Except Error c.Value

/-- A program that asks the platform. -/
abbrev Program := ExceptT Error (Dialogue Call Call.Reply)

/-- A call. -/
abbrev ask (c : Call) : Program c.Value := Dialogue.attempt c

/-- An exchange with the platform. -/
abbrev Exchange := Dialogue.Exchange Call Call.Reply

end LocationDevice

open LocationDevice (Program ask)

/-- Asking for the location, with the text for a request that the user denies. -/
def LocationDevice.askLocation (denied : String) : Program (ℚ × ℚ) := do
  let serviceEnabled ← ask .isLocationServiceEnabled
  if !serviceEnabled then throw (.exception "Location services are disabled.")
  let mut permission ← ask .checkPermission
  if permission = .denied then
    permission ← ask .requestPermission
    if permission = .denied then throw (.exception denied)
  if permission = .deniedForever then
    throw (.exception
      "Location permissions are permanently denied, we cannot request permissions.")
  ask .getCurrentPosition

/-- `getLocationDevice`. -/
def getLocationDevice : Program (ℚ × ℚ) :=
  LocationDevice.askLocation "Location permissions are denied."

/-- `_getCurrentLocation` up to the position. -/
def MapComponent.getCurrentLocation : Program (ℚ × ℚ) :=
  LocationDevice.askLocation "Location permissions are denied"

namespace LocationDevice

/-! ### The dialogue, call by call -/

/-- What the dialogues end with. -/
abbrev Outcome := Except Error (ℚ × ℚ)

/-- The dialogue once it has a permission that is not denied. -/
def permitted (permission : LocationPermission) : Dialogue Call Call.Reply Outcome :=
  if permission = .deniedForever then
    .done (.error (.exception
      "Location permissions are permanently denied, we cannot request permissions."))
  else .call .getCurrentPosition .done

variable (denied : String)

/-- The dialogue from the request on. -/
def requesting : Dialogue Call Call.Reply Outcome :=
  .call .requestPermission fun
    | .error e => .done (.error e)
    | .ok permission =>
      if permission = .denied then .done (.error (.exception denied)) else permitted permission

/-- The dialogue from the check on. -/
def checking : Dialogue Call Call.Reply Outcome :=
  .call .checkPermission fun
    | .error e => .done (.error e)
    | .ok permission => if permission = .denied then requesting denied else permitted permission

theorem askLocation_eq :
    askLocation denied = (.call .isLocationServiceEnabled fun
      | .error e => .done (.error e)
      | .ok serviceEnabled =>
        if serviceEnabled then checking denied
        else .done (.error (.exception "Location services are disabled.")) :
      Dialogue Call Call.Reply Outcome) := by
  refine congrArg (Dialogue.call _) (funext fun enabled => ?_)
  rcases enabled with e | _ | _
  · rfl
  · rfl
  refine congrArg (Dialogue.call _) (funext fun checked => ?_)
  rcases checked with e | permission
  · rfl
  cases permission with
  | denied =>
    refine congrArg (Dialogue.call _) (funext fun requested => ?_)
    rcases requested with e | permission
    · rfl
    · cases permission <;> rfl
  | _ => rfl

/-! ### What has been said -/

/-- A permission with which the position is asked for. -/
def Granted (permission : LocationPermission) : Prop :=
  permission ≠ .denied ∧ permission ≠ .deniedForever

/-- What has been said before a call: the services are on when the permission is checked, it is
requested only if the check has found it denied, and the position is asked for only with a
permission. -/
def Said : Call → List Exchange → Prop
  | .isLocationServiceEnabled, said => said = []
  | .checkPermission, said => said = [⟨.isLocationServiceEnabled, .ok true⟩]
  | .requestPermission, said =>
    said = [⟨.isLocationServiceEnabled, .ok true⟩, ⟨.checkPermission, .ok .denied⟩]
  | .getCurrentPosition, said => ∃ permission, Granted permission ∧
      (said = [⟨.isLocationServiceEnabled, .ok true⟩, ⟨.checkPermission, .ok permission⟩] ∨
        said = [⟨.isLocationServiceEnabled, .ok true⟩, ⟨.checkPermission, .ok .denied⟩,
          ⟨.requestPermission, .ok permission⟩])

/-- The dialogue after what has been said. A position that it ends with is the one that the platform
has given. -/
inductive Stage (denied : String) : List Exchange → Dialogue Call Call.Reply Outcome → Prop
  | asking : Stage denied [] (askLocation denied)
  | checking : Stage denied [⟨.isLocationServiceEnabled, .ok true⟩] (checking denied)
  | requesting :
      Stage denied [⟨.isLocationServiceEnabled, .ok true⟩, ⟨.checkPermission, .ok .denied⟩]
        (requesting denied)
  | positioning {said : List Exchange} (h : Said .getCurrentPosition said) :
      Stage denied said (.call .getCurrentPosition .done)
  | failed (said : List Exchange) (e : Error) : Stage denied said (.done (.error e))
  | located {said : List Exchange} (h : Said .getCurrentPosition said) (position : ℚ × ℚ) :
      Stage denied (said ++ [⟨.getCurrentPosition, .ok position⟩]) (.done (.ok position))

variable {denied}

theorem stage_permitted {said : List Exchange} {permission : LocationPermission}
    (hdenied : permission ≠ .denied)
    (hsaid : Granted permission → Said .getCurrentPosition said) :
    Stage denied said (permitted permission) := by
  unfold permitted
  split
  · exact .failed said _
  · rename_i hforever
    exact .positioning (hsaid ⟨hdenied, hforever⟩)

theorem stage_step {said : List Exchange} {d d' : Dialogue Call Call.Reply Outcome} {x : Exchange}
    (h : Stage denied said d) (hstep : d.step x = some d') : Stage denied (said ++ [x]) d' := by
  obtain ⟨next, hnext, rfl⟩ := Dialogue.exists_of_step hstep
  obtain ⟨call, reply⟩ := x
  cases h with
  | asking =>
    obtain ⟨rfl, hnext⟩ := Dialogue.call.inj ((askLocation_eq denied).symm.trans hnext)
    obtain rfl := eq_of_heq hnext
    rcases reply with e | _ | _
    · exact .failed _ e
    · exact .failed _ _
    · exact .checking
  | checking =>
    obtain ⟨rfl, hnext⟩ := Dialogue.call.inj hnext
    obtain rfl := eq_of_heq hnext
    rcases reply with e | permission
    · exact .failed _ e
    by_cases hdenied : permission = .denied
    · subst hdenied
      exact .requesting
    · simp only [if_neg hdenied]
      exact stage_permitted hdenied fun hgranted => ⟨permission, hgranted, .inl rfl⟩
  | requesting =>
    obtain ⟨rfl, hnext⟩ := Dialogue.call.inj hnext
    obtain rfl := eq_of_heq hnext
    rcases reply with e | permission
    · exact .failed _ e
    by_cases hdenied : permission = .denied
    · simp only [if_pos hdenied]
      exact .failed _ _
    · simp only [if_neg hdenied]
      exact stage_permitted hdenied fun hgranted => ⟨permission, hgranted, .inr rfl⟩
  | positioning hsaid =>
    obtain ⟨rfl, hnext⟩ := Dialogue.call.inj hnext
    obtain rfl := eq_of_heq hnext
    rcases reply with e | position
    · exact .failed _ e
    · exact .located hsaid position
  | failed | located => cases hnext

theorem stage_of_run {said : List Exchange} {d : Dialogue Call Call.Reply Outcome}
    (hrun : EventRun.run Dialogue.step (askLocation denied) said = some d) :
    Stage denied said d :=
  EventRun.invariant_history (I := Stage denied) (fun _ _ _ _ => stage_step) .asking hrun

theorem Stage.said {said : List Exchange} {d : Dialogue Call Call.Reply Outcome}
    (h : Stage denied said d) {call : Call} (hcall : d.waiting = some call) : Said call said := by
  cases h with
  | asking =>
    rw [askLocation_eq] at hcall
    obtain rfl := Option.some.inj hcall
    rfl
  | checking | requesting =>
    obtain rfl := Option.some.inj hcall
    rfl
  | positioning h =>
    obtain rfl := Option.some.inj hcall
    exact h
  | failed | located => cases hcall

theorem Stage.position {said : List Exchange} {position : ℚ × ℚ}
    (h : Stage denied said (.done (.ok position))) :
    ∃ before, Said .getCurrentPosition before ∧
      said = before ++ [⟨.getCurrentPosition, .ok position⟩] := by
  generalize hd : Dialogue.done (R := Call.Reply) (Except.ok position) = d at h
  cases h with
  | asking =>
    rw [askLocation_eq] at hd
    cases hd
  | checking | requesting | positioning | failed => cases hd
  | located h position =>
    cases hd
    exact ⟨_, h, rfl⟩

/-! ### The two functions -/

/-- The same position, or an error each. -/
def SamePosition (a b : Outcome) : Prop := a.toOption = b.toOption

theorem rel_permitted (permission : LocationPermission) :
    Dialogue.Rel SamePosition (permitted permission) (permitted permission) := by
  unfold permitted
  split
  · exact .done rfl
  · exact .call fun reply => .done rfl

/-- Whatever the text for a request that is denied, the dialogue is the same. -/
theorem rel_askLocation (denied denied' : String) :
    Dialogue.Rel SamePosition (askLocation denied) (askLocation denied') := by
  rw [askLocation_eq, askLocation_eq]
  refine .call fun enabled => ?_
  rcases enabled with e | _ | _
  · exact .done rfl
  · exact .done rfl
  refine .call fun checked => ?_
  rcases checked with e | permission
  · exact .done rfl
  simp only
  split
  · refine .call fun requested => ?_
    rcases requested with e | permission
    · exact .done rfl
    simp only
    split
    · exact .done rfl
    · exact rel_permitted permission
  · exact rel_permitted permission

/-! ### The map -/

open MapComponent (Texts)
open MapComponent.Handlers (MapComponentState screen serviceChecked permissionChecked
  permissionRequested positioned)

/-- The call of the platform that a call of the map is, if it is one. -/
def ofCall : MapComponent.Handlers.Call → Option Call
  | .isLocationServiceEnabled => some .isLocationServiceEnabled
  | .checkPermission => some .checkPermission
  | .requestPermission => some .requestPermission
  | .getCurrentPosition => some .getCurrentPosition
  | .getLatLng | .subAddress | .geocode _ => none

/-- The exchange with the platform that the completion of a call of the map is, if it is one. -/
def exchange : (call : MapComponent.Handlers.Call) → call.Reply → Option Exchange
  | .isLocationServiceEnabled, reply => some ⟨.isLocationServiceEnabled, reply⟩
  | .checkPermission, reply => some ⟨.checkPermission, reply⟩
  | .requestPermission, reply => some ⟨.requestPermission, reply⟩
  | .getCurrentPosition, reply => some ⟨.getCurrentPosition, reply⟩
  | .getLatLng, _ | .subAddress, _ | .geocode _, _ => none

/-- What the map and the platform say in an event. -/
def exchanges : Event MapComponent.Handlers.Call Unit MapComponent.Handlers.Call.Reply →
    List Exchange
  | .completed _ call reply => (exchange call reply).toList
  | .started _ | .removed => []

/-- The calls of the platform that the map waits for. -/
def platformCalls (calls : List MapComponent.Handlers.Call) : List Call := calls.filterMap ofCall

variable {ofDegrees : ℚ → ℚ → LatLng} {texts : Texts}

/-- The map waits for the platform as the dialogue does. -/
def Waits (s : System MapComponentState MapComponent.Handlers.Call Error)
    (d : Dialogue Call Call.Reply Outcome) : Prop :=
  platformCalls s.calls = d.waiting.toList ∧ ∃ denied said, Stage denied said d

/-- A call that does not ask the platform. -/
def Internal (call : MapComponent.Handlers.Call) : Prop := ofCall call = none

theorem issues_onError (e : Thrown Error) :
    Issues Internal (MapComponent.Handlers.onError texts e) :=
  issues_setState _

theorem issues_onPositionChanged (position : LatLng) :
    Issues Internal (MapComponent.Handlers.onPositionChanged texts position) := by
  refine (issues_of_calls fun _ => rfl).bind fun s => ?_
  by_cases hsame : s.currentPosition = some position
  · simp only [if_pos hsame]
    exact issues_of_calls fun _ => rfl
  · simp only [if_neg hsame]
    refine (issues_setState _).bind fun _ => ?_
    exact ((issues_use .context).bind fun _ => issues_await (p := Internal) (by rfl)).tryCatch
      issues_onError

theorem issues_cameraLocated (reply : Except Error LatLng) :
    Issues Internal (MapComponent.Handlers.cameraLocated texts reply) := by
  refine (issues_lift reply).bind fun latLng => (issues_of_calls fun _ => rfl).bind fun s => ?_
  by_cases hsame : s.currentPosition = some latLng
  · simp only [if_pos hsame]
    exact issues_setState _
  · simp only [if_neg hsame]
    exact (issues_onPositionChanged latLng).fork.bind fun _ => issues_setState _

theorem issues_subAddressed (reply : Except Error String) :
    Issues Internal (MapComponent.Handlers.subAddressed texts reply) :=
  ((issues_lift reply).bind fun _ => issues_await (p := Internal) (by rfl)).tryCatch issues_onError

theorem issues_showReply (subAddress2 : String) (reply : MapComponent.Reply) :
    Issues Internal (MapComponent.Handlers.showReply subAddress2 reply) := by
  rcases reply with _ | ⟨status, body⟩
  · exact issues_of_calls fun _ => rfl
  simp only [MapComponent.Handlers.showReply]
  split
  · refine (issues_lift body).bind fun data => (issues_lift _).bind fun components => ?_
    cases components with
    | none => exact issues_of_calls fun _ => rfl
    | some addressComponents => exact issues_setState _
  · exact issues_setState _

theorem issues_geocoded (subAddress2 : String) (reply : MapComponent.Reply) :
    Issues Internal (MapComponent.Handlers.geocoded texts subAddress2 reply) :=
  (issues_showReply subAddress2 reply).tryCatch issues_onError

theorem platformCalls_append {calls added : List MapComponent.Handlers.Call}
    (h : ∀ c ∈ added, Internal c) : platformCalls (calls ++ added) = platformCalls calls := by
  have hnone : added.filterMap ofCall = [] := List.filterMap_eq_nil_iff.mpr h
  rw [platformCalls, platformCalls, List.filterMap_append, hnone, List.append_nil]

/-- A stretch that does not ask the platform. -/
theorem platformCalls_run {m : MapComponent.Handlers.Stretch Unit} (h : Issues Internal m)
    (w : Widget MapComponentState MapComponent.Handlers.Call) :
    platformCalls (m.run w).2.calls = platformCalls w.calls := by
  obtain ⟨added, hadded, hinternal⟩ := h w
  rw [hadded, platformCalls_append hinternal]

variable (ofDegrees texts) in
/-- Where the map waits for a call of the platform, it goes on as the dialogue does. -/
theorem matched_exchange {denied : String} {said : List Exchange}
    {d : Dialogue Call Call.Reply Outcome} (h : Stage denied said d)
    {call : MapComponent.Handlers.Call} {reply : call.Reply} {x : Exchange}
    (hx : exchange call reply = some x) (hwaiting : d.waiting = ofCall call)
    (w : Widget MapComponentState MapComponent.Handlers.Call) :
    ∃ d', d.step x = some d' ∧
      platformCalls (((screen ofDegrees texts).resume call reply).run w).2.calls =
        platformCalls w.calls ++ d'.waiting.toList := by
  cases call with
  | isLocationServiceEnabled =>
    obtain rfl := Option.some.inj hx
    cases h with
    | asking =>
      rw [askLocation_eq]
      refine ⟨_, Dialogue.step_call _ _ _, ?_⟩
      rcases reply with e | _ | _
      · exact (List.append_nil _).symm
      · exact (List.append_nil _).symm
      · exact List.filterMap_append ..
    | checking | requesting | positioning => cases Option.some.inj hwaiting
    | failed | located => cases hwaiting
  | checkPermission =>
    obtain rfl := Option.some.inj hx
    cases h with
    | checking =>
      refine ⟨_, Dialogue.step_call _ _ _, ?_⟩
      rcases reply with e | permission
      · exact (List.append_nil _).symm
      cases permission with
      | deniedForever => exact (List.append_nil _).symm
      | _ => exact List.filterMap_append ..
    | asking | requesting | positioning => cases Option.some.inj hwaiting
    | failed | located => cases hwaiting
  | requestPermission =>
    obtain rfl := Option.some.inj hx
    cases h with
    | requesting =>
      refine ⟨_, Dialogue.step_call _ _ _, ?_⟩
      rcases reply with e | permission
      · exact (List.append_nil _).symm
      cases permission with
      | denied | deniedForever => exact (List.append_nil _).symm
      | _ => exact List.filterMap_append ..
    | asking | checking | positioning => cases Option.some.inj hwaiting
    | failed | located => cases hwaiting
  | getCurrentPosition =>
    obtain rfl := Option.some.inj hx
    cases h with
    | positioning =>
      refine ⟨_, Dialogue.step_call _ _ _, ?_⟩
      have hinternal : Issues Internal (positioned ofDegrees reply) :=
        (issues_lift reply).bind fun _ => issues_setState _
      exact (platformCalls_run hinternal w).trans (List.append_nil _).symm
    | asking | checking | requesting => cases Option.some.inj hwaiting
    | failed | located => cases hwaiting
  | getLatLng | subAddress | geocode => cases hx

/-- The other completions leave the platform alone. -/
theorem issues_resume {call : MapComponent.Handlers.Call} {reply : call.Reply}
    (hx : exchange call reply = none) :
    Issues Internal ((screen ofDegrees texts).resume call reply) := by
  cases call with
  | isLocationServiceEnabled | checkPermission | requestPermission | getCurrentPosition => cases hx
  | getLatLng => exact issues_cameraLocated reply
  | subAddress => exact issues_subAddressed reply
  | geocode subAddress2 => exact issues_geocoded subAddress2 reply

/-- The call of an exchange. -/
theorem ofCall_of_exchange {call : MapComponent.Handlers.Call} {reply : call.Reply} {x : Exchange}
    (hx : exchange call reply = some x) : (ofCall call).isSome = true := by
  cases call with
  | isLocationServiceEnabled | checkPermission | requestPermission | getCurrentPosition => rfl
  | getLatLng | subAddress | geocode => cases hx

theorem internal_of_exchange {call : MapComponent.Handlers.Call} {reply : call.Reply}
    (hx : exchange call reply = none) : Internal call := by
  cases call with
  | isLocationServiceEnabled | checkPermission | requestPermission | getCurrentPosition => cases hx
  | getLatLng | subAddress | geocode => rfl

theorem eq_toList_of_perm {α : Type} {o : Option α} {l : List α} (h : o.toList.Perm l) :
    l = o.toList := by
  cases o with
  | none => exact h.nil_eq.symm
  | some a => exact (List.singleton_perm.mp h).symm

theorem waiting_of_toList {α : Type} {o : Option α} {a : α} {l : List α} (h : a :: l = o.toList) :
    o = some a ∧ l = [] := by
  cases o with
  | none => cases h
  | some b =>
    obtain ⟨rfl, rfl⟩ := List.cons.inj h
    exact ⟨rfl, rfl⟩

variable (ofDegrees texts) in
theorem waits_step {s t : System MapComponentState MapComponent.Handlers.Call Error}
    {e : Event MapComponent.Handlers.Call Unit MapComponent.Handlers.Call.Reply}
    {d : Dialogue Call Call.Reply Outcome} (h : Waits s d)
    (hstep : (screen ofDegrees texts).step s e = some t) :
    ∃ d', EventRun.run Dialogue.step d (exchanges e) = some d' ∧ Waits t d' := by
  obtain ⟨hcalls, denied, said, hstage⟩ := h
  cases e with
  | started i =>
    simp only [Screen.step, Option.ite_none_right_eq_some, Option.some.injEq] at hstep
    obtain ⟨-, rfl⟩ := hstep
    have hinternal : Issues Internal ((screen ofDegrees texts).start i) :=
      (issues_use .context).bind fun _ => issues_await (p := Internal) (by rfl)
    exact ⟨d, rfl, (platformCalls_run hinternal _).trans hcalls, denied, said, hstage⟩
  | removed =>
    simp only [Screen.step, Option.ite_none_right_eq_some, Option.some.injEq] at hstep
    obtain ⟨-, rfl⟩ := hstep
    exact ⟨d, rfl, hcalls, denied, said, hstage⟩
  | completed n call reply =>
    obtain ⟨⟨c, rest⟩, hcall, hstep⟩ := Option.bind_eq_some_iff.mp hstep
    simp only [Option.ite_none_right_eq_some, Option.some.injEq] at hstep
    obtain ⟨rfl, rfl⟩ := hstep
    have hone : platformCalls (c :: rest) = d.waiting.toList :=
      eq_toList_of_perm (hcalls ▸ (Outstanding.perm_of_complete hcall).filterMap ofCall)
    cases hx : exchange c reply with
    | none =>
      rw [platformCalls, List.filterMap_cons_none (internal_of_exchange hx)] at hone
      have hinternal : Issues Internal ((screen ofDegrees texts).resume c reply) := issues_resume hx
      refine ⟨d, ?_, (platformCalls_run hinternal _).trans hone, denied, said, hstage⟩
      rw [exchanges, hx]
      rfl
    | some x =>
      obtain ⟨y, hy⟩ := Option.isSome_iff_exists.mp (ofCall_of_exchange hx)
      rw [platformCalls, List.filterMap_cons_some hy] at hone
      obtain ⟨hwaiting, hrest⟩ := waiting_of_toList hone
      obtain ⟨d', hd', hcalls'⟩ := matched_exchange ofDegrees texts hstage hx
        (hwaiting.trans hy.symm) { s.toWidget with calls := rest }
      refine ⟨d', ?_, ?_, denied, said ++ [x], stage_step hstage hd'⟩
      · rw [exchanges, hx]
        exact EventRun.run_cons_eq_some.mpr ⟨d', hd', rfl⟩
      · refine hcalls'.trans ?_
        rw [platformCalls, hrest, List.nil_append]

theorem waits_opened : Waits (screen ofDegrees texts).opened MapComponent.getCurrentLocation.run :=
  ⟨by rw [MapComponent.getCurrentLocation, askLocation_eq]; rfl, _, _, .asking⟩

/-- **The map asks for the location.** In every run of the map, whatever else it does and even after
its removal, its calls of the platform are a conversation of `getLocationDevice`: it waits for the
call that the dialogue waits for. Before each call has been said what allows it, and a position that
the dialogue ends with is the one that was given. -/
theorem follows_of_run
    {es : List (Event MapComponent.Handlers.Call Unit MapComponent.Handlers.Call.Reply)}
    {s : System MapComponentState MapComponent.Handlers.Call Error}
    (hrun : EventRun.run (screen ofDegrees texts).step (screen ofDegrees texts).opened es =
      some s) :
    ∃ d, EventRun.run Dialogue.step getLocationDevice.run (es.flatMap exchanges) = some d ∧
      platformCalls s.calls = d.waiting.toList ∧
      (∀ call ∈ platformCalls s.calls, Said call (es.flatMap exchanges)) ∧
      ∀ position, d = .done (.ok position) → ∃ said, Said .getCurrentPosition said ∧
        es.flatMap exchanges = said ++ [⟨.getCurrentPosition, .ok position⟩] := by
  obtain ⟨d, hd, hcalls, -⟩ := EventRun.run_flatMap (R := Waits)
    (fun _ _ _ _ h hstep => waits_step ofDegrees texts h hstep) waits_opened hrun
  obtain ⟨d', hd', hrel⟩ := (rel_askLocation _ _).run hd
  have hstage := stage_of_run hd'
  have hcalls' : platformCalls s.calls = d'.waiting.toList := hcalls.trans (by rw [hrel.waiting_eq])
  refine ⟨d', hd', hcalls', fun call hcall => hstage.said ?_, fun position hdone => ?_⟩
  · rwa [hcalls', Option.mem_toList] at hcall
  · exact (hdone ▸ hstage).position

/-- The camera comes to rest, the map is removed, and then the user grants the request. -/
def grantOnRequest :
    List (Event MapComponent.Handlers.Call Unit MapComponent.Handlers.Call.Reply) :=
  [.completed 0 .isLocationServiceEnabled (.ok true), .started (),
    .completed 0 .checkPermission (.ok .denied), .removed,
    .completed 1 .requestPermission (.ok .whileInUse)]

/-- The map after that. -/
def askingForPosition : System MapComponentState MapComponent.Handlers.Call Error :=
  { state := ⟨none, "Retrieving current location...", ""⟩, mounted := false
    calls := [.getLatLng, .getCurrentPosition], lateUses := [], escaped := [] }

theorem run_grantOnRequest :
    EventRun.run (screen LatLng.clampAndWrap MapComponent.englishTexts).step
      (screen LatLng.clampAndWrap MapComponent.englishTexts).opened grantOnRequest =
        some askingForPosition := rfl

theorem follows_grantOnRequest :
    ∃ d, EventRun.run Dialogue.step getLocationDevice.run (grantOnRequest.flatMap exchanges) =
        some d ∧ platformCalls askingForPosition.calls = d.waiting.toList ∧
      (∀ call ∈ platformCalls askingForPosition.calls,
        Said call (grantOnRequest.flatMap exchanges)) ∧
      ∀ position, d = .done (.ok position) → ∃ said, Said .getCurrentPosition said ∧
        grantOnRequest.flatMap exchanges = said ++ [⟨.getCurrentPosition, .ok position⟩] :=
  follows_of_run run_grantOnRequest

end LocationDevice

end SmartHome
