import Mathlib.Data.List.Induction
import SmartHome.Components.AirThai

/-!
# What the air quality card shows

While the card stays mounted, `_getAir` ends with all three values of a reply in the state, or with
all three reset: what throws in the middle of the assignments is followed by the `catch`, which
resets them.

The tile of the card is computed from the air quality index alone. Where there is none it is the one
of the index 0.

What the code throws between two calls, such as `Uri.parse` on the configured address of the
service, counts as the outcome of the call before it. The comparisons of a `double` with an integer
are a parameter, since a `double` is represented by its text.

## Main definitions

* `AirThai.readAir` : the three values of a reply.
* `AirThai.getAQIDetails`, `AirThai.tile`.

## Main results

* `AirThai.air_responded` : what the end of `_getAir` leaves.
* `AirThai.waiting_or_settled` : what the completion of a call leads to.
* `AirThai.settled_air` : where `_getAir` ends, and which tile is shown where there is no index.
-/

namespace SmartHome.AirThai

open Dart AsyncWidget
open MapComponent (Reply)

/-! ### The values of a reply -/

/-- The air quality index, the temperature and the path of the image. -/
structure Air where
  aqi : Dyn
  temp : Dyn
  imagePath : String

/-- The three values in the state. -/
def State.air (s : State) : Air := ⟨s.aqi, s.temp, s.imagePath⟩

/-- No values. -/
def Air.reset : Air := ⟨.null, .null, ""⟩

/-- The three values of the maps of a reply. -/
def readMaps (pollution weather : Dyn) : Except Error Air := do
  let aqi ← pollution.index "aqius"
  let aqi ← asNumOrNull aqi
  let temp ← weather.index "tp"
  let temp ← asNumOrNull temp
  let icon ← weather.index "ic"
  return ⟨aqi, temp, "https://www.airvisual.com/images/" ++ icon.text ++ ".png"⟩

/-- The three values of a reply, if it has status 200 and holds all that is read from it. -/
def readAir : Reply → Except Error Air
  | .thrown => .error (.exception "ClientException")
  | .response status body =>
    if status = 200 then do
      let data ← body
      let pollution ← data.index "data"
      let pollution ← pollution.index "current"
      let pollution ← pollution.index "pollution"
      let weather ← data.index "data"
      let weather ← weather.index "current"
      let weather ← weather.index "weather"
      readMaps pollution weather
    else .error (.exception "no data")

/-! ### The end of `_getAir` -/

variable (texts : Texts)

section Closures

variable {σ ε α β : Type} (f : α → ExceptT ε (StateM σ) β) (s : σ)

theorem run_lift_ok (a : α) :
    (liftM (Except.ok a : Except ε α) >>= f : ExceptT ε (StateM σ) β).run s = (f a).run s := rfl

theorem run_lift_error (e : ε) :
    (liftM (Except.error e : Except ε α) >>= f : ExceptT ε (StateM σ) β).run s = (.error e, s) :=
  rfl

theorem run_modify (f : Unit → ExceptT ε (StateM σ) β) (g : σ → σ) :
    (modify g >>= f : ExceptT ε (StateM σ) β).run s = (f ()).run (g s) := rfl

end Closures

/-- The closure assigns the three values of the maps. -/
theorem run_showAir_of_ok {pollution weather : Dyn} {air : Air}
    (h : readMaps pollution weather = .ok air) (dataAddress : String) (s : State) :
    (showAir dataAddress pollution weather).run s =
      (.ok (), ⟨dataAddress, air.aqi, air.imagePath, air.temp⟩) := by
  obtain ⟨aqius, haqius, h⟩ := bind_eq_ok.mp h
  obtain ⟨aqi, haqi, h⟩ := bind_eq_ok.mp h
  obtain ⟨tp, htp, h⟩ := bind_eq_ok.mp h
  obtain ⟨temp, htemp, h⟩ := bind_eq_ok.mp h
  obtain ⟨icon, hicon, h⟩ := bind_eq_ok.mp h
  obtain rfl := Except.ok.inj h
  simp only [showAir, run_modify, run_lift_ok, haqius, haqi, htp, htemp, hicon]
  rfl

/-- The closure throws where something is wrong with the maps. -/
theorem run_showAir_of_error {pollution weather : Dyn} {e : Error}
    (h : readMaps pollution weather = .error e) (dataAddress : String) (s : State) :
    ((showAir dataAddress pollution weather).run s).1 = .error e := by
  rcases bind_eq_error.mp h with haqius | ⟨aqius, haqius, h⟩
  · simp only [showAir, run_modify, run_lift_error, haqius]
  rcases bind_eq_error.mp h with haqi | ⟨aqi, haqi, h⟩
  · simp only [showAir, run_modify, run_lift_ok, run_lift_error, haqius, haqi]
  rcases bind_eq_error.mp h with htp | ⟨tp, htp, h⟩
  · simp only [showAir, run_modify, run_lift_ok, run_lift_error, haqius, haqi, htp]
  rcases bind_eq_error.mp h with htemp | ⟨temp, htemp, h⟩
  · simp only [showAir, run_modify, run_lift_ok, run_lift_error, haqius, haqi, htp, htemp]
  rcases bind_eq_error.mp h with hicon | ⟨icon, -, h⟩
  · simp only [showAir, run_modify, run_lift_ok, run_lift_error, haqius, haqi, htp, htemp, hicon]
  · cases h

/-- A reply that holds everything is shown. -/
theorem run_showResponse_of_ok {reply : Reply} {air : Air} (h : readAir reply = .ok air)
    (dataAddress : String) {w : Widget State Call} (hw : w.mounted = true) :
    (showResponse texts dataAddress reply).run w =
      (.ok (), { w with state := ⟨dataAddress, air.aqi, air.imagePath, air.temp⟩ }) := by
  cases reply with
  | thrown => cases h
  | response status body =>
    by_cases hstatus : status = 200
    · simp only [readAir, if_pos hstatus] at h
      obtain ⟨data, hbody, h₁⟩ := bind_eq_ok.mp h
      obtain ⟨d, hd, h₂⟩ := bind_eq_ok.mp h₁
      obtain ⟨c, hc, h₃⟩ := bind_eq_ok.mp h₂
      obtain ⟨pollution, hpollution, h₄⟩ := bind_eq_ok.mp h₃
      obtain ⟨d', hd', h₅⟩ := bind_eq_ok.mp h₄
      obtain ⟨c', hc', h₆⟩ := bind_eq_ok.mp h₅
      obtain ⟨weather, hweather, h₇⟩ := bind_eq_ok.mp h₆
      obtain rfl : d = d' := Except.ok.inj (hd.symm.trans hd')
      obtain rfl : c = c' := Except.ok.inj (hc.symm.trans hc')
      simp only [showResponse, if_pos hstatus, Handler.run_ok_bind, hbody, hd, hc, hpollution,
        hweather, run_setState _ hw, run_showAir_of_ok h₇]
      rfl
    · simp only [readAir, if_neg hstatus] at h
      cases h

/-- Any other reply is answered by a text, or by an exception. -/
theorem run_showResponse_of_error {reply : Reply} {e : Error} (h : readAir reply = .error e)
    (dataAddress : String) {w : Widget State Call} (hw : w.mounted = true) :
    (showResponse texts dataAddress reply).run w =
        (.ok (), { w with state := ⟨texts.aqiLoadingAddressUnableData, .null, "", .null⟩ }) ∨
      ∃ e' s,
        (showResponse texts dataAddress reply).run w = (.error e', { w with state := s }) := by
  cases reply with
  | thrown => exact .inr ⟨_, w.state, rfl⟩
  | response status body =>
    by_cases hstatus : status = 200
    · right
      simp only [readAir, if_pos hstatus] at h
      simp only [showResponse, if_pos hstatus]
      rcases bind_eq_error.mp h with hbody | ⟨data, hbody, h₁⟩
      · exact ⟨.error e, w.state, by simp only [Handler.run_error_bind, hbody]⟩
      rcases bind_eq_error.mp h₁ with hd | ⟨d, hd, h₂⟩
      · refine ⟨.error e, w.state, ?_⟩
        simp only [Handler.run_ok_bind, Handler.run_error_bind, hbody, hd]
      rcases bind_eq_error.mp h₂ with hc | ⟨c, hc, h₃⟩
      · refine ⟨.error e, w.state, ?_⟩
        simp only [Handler.run_ok_bind, Handler.run_error_bind, hbody, hd, hc]
      rcases bind_eq_error.mp h₃ with hp | ⟨pollution, hp, h₄⟩
      · refine ⟨.error e, w.state, ?_⟩
        simp only [Handler.run_ok_bind, Handler.run_error_bind, hbody, hd, hc, hp]
      rcases bind_eq_error.mp h₄ with hd' | ⟨d', hd', h₅⟩
      · rw [hd] at hd'
        cases hd'
      obtain rfl : d = d' := Except.ok.inj (hd.symm.trans hd')
      rcases bind_eq_error.mp h₅ with hc' | ⟨c', hc', h₆⟩
      · rw [hc] at hc'
        cases hc'
      obtain rfl : c = c' := Except.ok.inj (hc.symm.trans hc')
      rcases bind_eq_error.mp h₆ with hweather | ⟨weather, hweather, h₇⟩
      · refine ⟨.error e, w.state, ?_⟩
        simp only [Handler.run_ok_bind, Handler.run_error_bind, hbody, hd, hc, hp, hweather]
      have hthrows := run_showAir_of_error h₇ dataAddress w.state
      refine ⟨.error e, ((showAir dataAddress pollution weather).run w.state).2, ?_⟩
      simp only [Handler.run_ok_bind, hbody, hd, hc, hp, hweather, run_setState _ hw, hthrows]
      rfl
    · left
      simp only [showResponse, if_neg hstatus, run_setState _ hw]
      rfl

/-- On a mounted card the `catch` resets the three values. -/
theorem run_onError (e : Thrown Error) {w : Widget State Call} (hw : w.mounted = true) :
    (onError texts e).run w =
      (.ok (), { w with state := ⟨texts.aqiLoadingAddressError, .null, "", .null⟩ }) := by
  rw [onError, run_setState _ hw]
  rfl

/-- On a mounted card the end of `_getAir` leaves the three values of the reply, or none of them. -/
theorem air_responded (dataAddress : String) (reply : Reply) {w : Widget State Call}
    (hw : w.mounted = true) :
    ∃ s, (responded texts dataAddress reply).run w = (.ok (), { w with state := s }) ∧
      s.air = (readAir reply).toOption.getD .reset := by
  rw [responded, Handler.run_tryCatch]
  cases hread : readAir reply with
  | ok air =>
    rw [run_showResponse_of_ok texts hread dataAddress hw]
    exact ⟨_, rfl, rfl⟩
  | error e =>
    rcases run_showResponse_of_error texts hread dataAddress hw with h | ⟨e', s, h⟩
    · rw [h]
      exact ⟨_, rfl, rfl⟩
    · simp only [h]
      exact ⟨_, run_onError texts e' hw, rfl⟩

/-! ### Runs of the card -/

/-- The events of the card. -/
abbrev AirEvent := Event Call Empty Call.Reply

/-- The values of the state are those of the reply that came last, or none. -/
def Settled (es : List AirEvent) (s : State) : Prop :=
  s.air = .reset ∨
    ∃ es' n dataAddress reply, es = es' ++ [.completed n (.response dataAddress) reply] ∧
      readAir reply = .ok s.air

/-- While `_getAir` waits, for one call at a time, there are no values. -/
def Waiting (s : System State Call Error) : Prop :=
  (∃ c, s.calls = [c]) ∧ s.state.air = .reset

theorem waiting_opened : Waiting (screen texts).opened := ⟨⟨.location, rfl⟩, rfl⟩

/-- The exception of a call is answered by the `catch`. -/
theorem exec_onError (e : Thrown Error) {w : System State Call Error} (hw : w.mounted = true) :
    (exec (onError texts e) w).calls = w.calls ∧ (exec (onError texts e) w).state.air = .reset := by
  have hrun := run_onError texts e hw
  have hexec : (exec (onError texts e) w).toWidget = _ := congrArg Prod.snd hrun
  rw [hexec]
  exact ⟨rfl, rfl⟩

/-- A call that completes while the card is mounted is followed by the next one, or ends
`_getAir`. -/
theorem waiting_or_settled (es : List AirEvent) (n : ℕ) (call : Call) (reply : call.Reply)
    {w : System State Call Error} (hw : w.mounted = true) (hcalls : w.calls = [])
    (hair : w.state.air = .reset) :
    Waiting (exec ((screen texts).resume call reply) w) ∨
      (exec ((screen texts).resume call reply) w).calls = [] ∧
      Settled (es ++ [.completed n call reply])
        (exec ((screen texts).resume call reply) w).state := by
  cases call with
  | location =>
    cases reply with
    | ok position => exact .inl ⟨⟨.address, congrArg (· ++ [Call.address]) hcalls⟩, hair⟩
    | error e =>
      obtain ⟨hsame, hreset⟩ := exec_onError texts (.error e) hw
      exact .inr ⟨hsame.trans hcalls, .inl hreset⟩
  | address =>
    cases reply with
    | ok dataAddress =>
      exact .inl ⟨⟨.response dataAddress, congrArg (· ++ [Call.response dataAddress]) hcalls⟩, hair⟩
    | error e =>
      obtain ⟨hsame, hreset⟩ := exec_onError texts (.error e) hw
      exact .inr ⟨hsame.trans hcalls, .inl hreset⟩
  | response dataAddress =>
    obtain ⟨s, hrun, hs⟩ := air_responded texts dataAddress reply hw
    have hexec : (exec ((screen texts).resume (.response dataAddress) reply) w).toWidget =
        { w.toWidget with state := s } := congrArg Prod.snd hrun
    rw [hexec]
    refine .inr ⟨hcalls, ?_⟩
    cases hread : readAir reply with
    | ok air =>
      rw [hread] at hs
      refine .inr ⟨es, n, dataAddress, reply, rfl, ?_⟩
      rw [hread]
      exact congrArg Except.ok hs.symm
    | error e =>
      rw [hread] at hs
      exact .inl hs

/-- While the card is mounted, `_getAir` waits with no values in the state, or has ended and
settled. -/
theorem waiting_or_settled_of_run {es : List AirEvent} {s : System State Call Error}
    (hrun : EventRun.run (screen texts).step (screen texts).opened es = some s)
    (hmounted : s.mounted = true) : Waiting s ∨ s.calls = [] ∧ Settled es s.state := by
  induction es using List.reverseRecOn generalizing s with
  | nil =>
    obtain rfl := Option.some.inj hrun
    exact .inl (waiting_opened texts)
  | append_singleton es e ih =>
    rw [EventRun.run_append] at hrun
    obtain ⟨u, hu, hlast⟩ := Option.bind_eq_some_iff.mp hrun
    obtain ⟨_, hstep, hend⟩ := EventRun.run_cons_eq_some.mp hlast
    obtain rfl := Option.some.inj hend
    cases e with
    | started i => exact i.elim
    | removed =>
      simp only [Screen.step, Option.ite_none_right_eq_some, Option.some.injEq] at hstep
      obtain ⟨-, rfl⟩ := hstep
      cases hmounted
    | completed n call reply =>
      obtain ⟨⟨c, rest⟩, hcomplete, hstep⟩ := Option.bind_eq_some_iff.mp hstep
      simp only [Option.ite_none_right_eq_some, Option.some.injEq] at hstep
      obtain ⟨-, rfl⟩ := hstep
      have hkept := ((screen texts).resume call reply).mounted_run { u.toWidget with calls := rest }
      have hu' : u.mounted = true := hkept.symm.trans hmounted
      rcases ih hu hu' with ⟨⟨c', hc'⟩, hair⟩ | ⟨hnone, -⟩
      · have hlength := Outstanding.length_of_complete hcomplete
        rw [hc', List.length_singleton] at hlength
        have hrest : rest = [] := List.eq_nil_of_length_eq_zero (by omega)
        exact waiting_or_settled texts es n call reply hu' hrest hair
      · -- no call is left that could complete
        have hlength := Outstanding.length_of_complete hcomplete
        rw [hnone, List.length_nil] at hlength
        omega

/-! ### The tile -/

/-- `Color.fromRGBO`. -/
structure Color where
  r : ℕ
  g : ℕ
  b : ℕ
  opacity : ℕ
  deriving Repr, DecidableEq

/-- The colours of a band, and its icon, `none` if the environment does not give one. -/
structure AQIDetails where
  color : Color
  icon : Option String
  iconColor : Color
  subColor : Color
  deriving Repr, DecidableEq

/-- The number that is shown, and the band. -/
structure Tile where
  text : String
  details : AQIDetails
  deriving Repr, DecidableEq

section Tile

variable (compareDouble : String → ℤ → Option Ordering) (env : String → Option String)

/-- A number compared with an integer. Not-a-number compares with nothing. -/
def compareNum : Dyn → ℤ → Option Ordering
  | .int z, k => some (compare z k)
  | .double text, k => compareDouble text k
  | _, _ => none

/-- `aqi > k`. -/
def gt (aqi : Dyn) (k : ℤ) : Bool := compareNum compareDouble aqi k = some .gt

/-- `aqi >= k`. -/
def ge (aqi : Dyn) (k : ℤ) : Bool :=
  compareNum compareDouble aqi k = some .gt || compareNum compareDouble aqi k = some .eq

/-- `aqi <= k`. -/
def le (aqi : Dyn) (k : ℤ) : Bool :=
  compareNum compareDouble aqi k = some .lt || compareNum compareDouble aqi k = some .eq

/-- The six bands. -/
def getAQIDetails (aqi : Dyn) : AQIDetails :=
  if ge compareDouble aqi 0 && le compareDouble aqi 50 then
    { color := ⟨169, 223, 96, 1⟩
      icon := env "AIRVISUAL_URL_GREEN_FACE"
      iconColor := ⟨95, 117, 51, 1⟩
      subColor := ⟨184, 229, 129, 1⟩ }
  else if gt compareDouble aqi 50 && le compareDouble aqi 100 then
    { color := ⟨253, 214, 77, 1⟩
      icon := env "AIRVISUAL_URL_YELLOW_FACE"
      iconColor := ⟨139, 107, 29, 1⟩
      subColor := ⟨253, 239, 181, 1⟩ }
  else if gt compareDouble aqi 100 && le compareDouble aqi 150 then
    { color := ⟨254, 155, 84, 1⟩
      icon := env "AIRVISUAL_URL_ORANGE_FACE"
      iconColor := ⟨151, 74, 30, 1⟩
      subColor := ⟨254, 173, 118, 1⟩ }
  else if gt compareDouble aqi 150 && le compareDouble aqi 200 then
    { color := ⟨254, 106, 105, 1⟩
      icon := env "AIRVISUAL_URL_RED_FACE"
      iconColor := ⟨149, 36, 50, 1⟩
      subColor := ⟨255, 133, 132, 1⟩ }
  else if gt compareDouble aqi 200 && le compareDouble aqi 300 then
    { color := ⟨168, 122, 188, 1⟩
      icon := env "AIRVISUAL_URL_PUEPLE_FACE"
      iconColor := ⟨82, 59, 99, 1⟩
      subColor := ⟨186, 146, 200, 1⟩ }
  else
    { color := ⟨167, 114, 131, 1⟩
      icon := env "AIRVISUAL_URL_MAROON_FACE"
      iconColor := ⟨86, 51, 67, 1⟩
      subColor := ⟨227, 204, 20, 19⟩ }

/-- `aqi != null ? aqi.toString() : '0'`. -/
def aqiText : Dyn → String
  | .null => "0"
  | aqi => aqi.text

/-- The number and the band that `build` shows. -/
def tile (aqi : Dyn) : Tile where
  text := aqiText aqi
  details := getAQIDetails compareDouble env (aqi.orElse (.int 0))

/-- Where there is no index, the tile is the one of the index 0. -/
theorem tile_null : tile compareDouble env .null = tile compareDouble env (.int 0) := rfl

/-- Only values that are written as `0` have the tile that is shown where there is no index. -/
theorem text_of_tile_null {aqi : Dyn} (haqi : aqi ≠ .null)
    (h : tile compareDouble env aqi = tile compareDouble env .null) : aqi.text = "0" := by
  have htext : aqiText aqi = "0" := congrArg Tile.text h
  cases aqi with
  | null => exact absurd rfl haqi
  | bool | int | double | str | list | map | object => exact htext

/-- The only integer with that tile is 0. -/
theorem eq_zero_of_tile_null {z : ℤ}
    (h : tile compareDouble env (.int z) = tile compareDouble env .null) : z = 0 := by
  have htext : toString z = toString (0 : ℤ) := text_of_tile_null compareDouble env (by simp) h
  refine (eq_of_intParse_toString (z := z) ?_).symm
  rw [htext]
  decide

/-- **The air quality card.** In every run of the card that ends with the card mounted and `_getAir`
finished, the index, the temperature and the path of the image are all from the reply that came
last, or all reset. Where there is no index the tile is that of the index 0, which no other integer
has. -/
theorem settled_air :
    (∀ (es : List AirEvent) (s : System State Call Error),
      EventRun.run (screen texts).step (screen texts).opened es = some s → s.mounted = true →
        s.calls = [] → Settled es s.state) ∧
    (tile compareDouble env .null = tile compareDouble env (.int 0)) ∧
    (∀ aqi : Dyn, aqi ≠ .null → tile compareDouble env aqi = tile compareDouble env .null →
      aqi.text = "0") ∧
    ∀ z : ℤ, tile compareDouble env (.int z) = tile compareDouble env .null → z = 0 := by
  refine ⟨fun es s hrun hmounted hcalls => ?_, tile_null compareDouble env,
    fun _ => text_of_tile_null compareDouble env, fun _ => eq_zero_of_tile_null compareDouble env⟩
  rcases waiting_or_settled_of_run texts hrun hmounted with ⟨⟨c, hc⟩, -⟩ | ⟨-, hs⟩
  · rw [hc] at hcalls
    cases hcalls
  · exact hs

end Tile

/-- The device does not give its location. -/
def unlocated : List AirEvent :=
  [.completed 0 .location (.error (.exception "Location services are disabled."))]

/-- The air is as clean as it can be. -/
def clean : List AirEvent :=
  [.completed 0 .location (.ok ()), .completed 0 .address (.ok "Khlong Toei"),
    .completed 0 (.response "Khlong Toei") (.response 200 (.ok (.map [("data", .map
      [("current", .map [("pollution", .map [("aqius", .int 0)]),
        ("weather", .map [("tp", .int 31), ("ic", .str "01d")])])])])))]

/-- The values of the reply are in the state. -/
theorem settled_air_clean :
    ∃ s, EventRun.run (screen englishTexts).step (screen englishTexts).opened clean = some s ∧
      s.mounted = true ∧ s.calls = [] ∧ Settled clean s.state ∧
      (tile (fun _ _ => none) (fun _ => none) (.int 0)).text = "0" ∧ (0 : ℤ) = 0 :=
  ⟨_, rfl, rfl, rfl,
    (settled_air englishTexts (fun _ _ => none) fun _ => none).1 clean _ rfl rfl rfl,
    (settled_air englishTexts (fun _ _ => none) fun _ => none).2.2.1 (.int 0) (by simp) rfl,
    (settled_air englishTexts (fun _ _ => none) fun _ => none).2.2.2 0 rfl⟩

/-- A card without an index looks like one that has obtained the index 0. -/
theorem tile_of_failure_is_tile_of_clean_air :
    ∃ s t, EventRun.run (screen englishTexts).step (screen englishTexts).opened unlocated = some s ∧
      EventRun.run (screen englishTexts).step (screen englishTexts).opened clean = some t ∧
      (s.mounted = true ∧ s.calls = [] ∧ s.state.aqi = .null) ∧
      (t.mounted = true ∧ t.calls = [] ∧ t.state.aqi = .int 0) ∧
      tile (fun _ _ => none) (fun _ => none) s.state.aqi =
        tile (fun _ _ => none) (fun _ => none) t.state.aqi :=
  ⟨_, _, rfl, rfl, ⟨rfl, rfl, rfl⟩, ⟨rfl, rfl, rfl⟩, rfl⟩

end SmartHome.AirThai
