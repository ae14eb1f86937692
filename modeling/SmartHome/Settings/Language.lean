import SmartHome.Lib.Agenda
import SmartHome.Lib.EventRun

/-!
# The display language

The language lives in three places: `LocaleProvider.locale`, the stored preference `languageCode`
and the option that `LanguageScreen` marks. The preference is read by `_loadLanguage` when the
screen opens and written by `_changeLanguage`; `main` writes it only when it is missing, and gives
it to nobody.

Operations on the preferences complete in the order in which they are issued. An event therefore
completes the one in front, whose handler runs up to its next operation.

## Main definitions

* `LanguageSetting.State`, `LanguageSetting.Event`, `LanguageSetting.step`.
* `LanguageSetting.Agree` : with every handler completed, provider, preference and screen agree.
* `LanguageSetting.StartsEnglish` : a launch does not find or write the preference `th`.

## Main results

* `LanguageSetting.agree_iff_startsEnglish` : the three places agree along a run exactly when every
  launch of the run starts English.
-/

namespace SmartHome.LanguageSetting

/-- The options of `LanguageScreen`. -/
inductive Language where
  | thai
  | english
  deriving DecidableEq

/-- The language code of the locale that an option stands for. -/
def Language.code : Language → String
  | .thai => "th"
  | .english => "en"

/-- The option for a stored code: `languageCode == 'th' ? 'Thai' : 'English'`. -/
def Language.ofCode (code : String) : Language := if code = "th" then .thai else .english

@[simp] theorem Language.ofCode_code (l : Language) : Language.ofCode l.code = l := by
  cases l <;> rfl

theorem Language.ofCode_eq_thai {code : String} : Language.ofCode code = .thai ↔ code = "th" := by
  simp [Language.ofCode]

/-- `SharedPreferences`, for the key `languageCode`: what the platform has stored, and the copy in
memory that reads are served from. -/
structure Preferences where
  stored : Option String
  cache : Option String
  deriving DecidableEq

/-- `setString` writes the copy in memory when it is called. -/
def Preferences.setString (code : String) (p : Preferences) : Preferences :=
  { p with cache := some code }

/-- A `setString` that completes has reached the platform. -/
def Preferences.commit (code : String) (p : Preferences) : Preferences :=
  { p with stored := some code }

/-- What a handler is waiting for: `_loadLanguage` for the preferences, `_changeLanguage` for the
preferences or for its `setString`. -/
inductive Task where
  | load
  | change (language : Language)
  | write (language : Language)
  deriving DecidableEq

/-- A pending operation, with the screen whose handler issued it. -/
structure Op where
  screen : ℕ
  task : Task
  deriving DecidableEq

/-- An open `LanguageScreen`, the `id`-th that was opened, and its `_selectedLanguage`. -/
structure Screen where
  id : ℕ
  selected : Option Language
  deriving DecidableEq

/-- The app, or what remains of it between two launches. -/
structure State where
  running : Bool
  prefs : Preferences
  locale : String
  screen : Option Screen
  opened : ℕ
  ops : List Op
  deriving DecidableEq

/-- The app before a launch, with any stored preference. -/
def State.off (stored : Option String) : State :=
  { running := false, prefs := ⟨stored, none⟩, locale := "en", screen := none, opened := 0,
    ops := [] }

/-- What can happen next. A launch ends the app if it is running; of the operations that were then
pending, the first `landed` may have reached the platform. -/
inductive Event where
  | launch (device : String) (landed : ℕ)
  | openLanguage
  | closeLanguage
  | select (language : Language)
  | completed
  deriving DecidableEq

/-- The stored preference after an operation has reached the platform. -/
def land (stored : Option String) (op : Op) : Option String :=
  match op.task with
  | .write l => some l.code
  | _ => stored

/-- The preference with which `main` gets to `runApp`: the one found, else the code of the device,
which `main` then stores. -/
def startCode (device : String) (landed : ℕ) (s : State) : String :=
  ((s.ops.take landed).foldl land s.prefs.stored).getD device

/-- `main`: `LocaleProvider` is created with the locale `en`. -/
def launch (device : String) (landed : ℕ) (s : State) : State :=
  { running := true, prefs := ⟨some (startCode device landed s), some (startCode device landed s)⟩,
    locale := "en", screen := none, opened := s.opened, ops := [] }

/-- `LocaleProvider.setLocale`. -/
def setLocale (code : String) (s : State) : State :=
  if s.locale = code then s else { s with locale := code }

/-- `setState` of the screen `n`, without effect if that screen is no longer open. -/
def mark (n : ℕ) (l : Language) (s : State) : State :=
  { s with screen := s.screen.map fun scr =>
      if scr.id = n then { scr with selected := some l } else scr }

/-- What a handler does when its operation completes. -/
def perform (s : State) (op : Op) : State :=
  match op.task with
  | .load => mark op.screen (Language.ofCode (s.prefs.cache.getD "en")) s
  | .change l => { s with prefs := s.prefs.setString l.code }
  | .write l => mark op.screen l { s with prefs := s.prefs.commit l.code }

/-- The operation that the handler then waits for. -/
def followUp (op : Op) : List Op :=
  match op.task with
  | .change l => [⟨op.screen, .write l⟩]
  | _ => []

/-- `initState` of a new `LanguageScreen`, and `_loadLanguage` up to its first operation. -/
def openLanguage (s : State) : State :=
  { s with screen := some ⟨s.opened, none⟩, opened := s.opened + 1,
           ops := s.ops ++ [⟨s.opened, .load⟩] }

/-- `_changeLanguage` on the screen `n`, up to its first operation. -/
def changeLanguage (n : ℕ) (l : Language) (s : State) : State :=
  let t := setLocale l.code s
  { t with ops := t.ops ++ [⟨n, .change l⟩] }

/-- One step. At most one `LanguageScreen` is open, since it covers the menu that opens it; an
option that is already marked does not react. -/
def step (s : State) : Event → Option State
  | .launch device landed => some (launch device landed s)
  | .openLanguage =>
    if s.running = true ∧ s.screen = none then some (openLanguage s) else none
  | .closeLanguage => if s.screen = none then none else some { s with screen := none }
  | .select l =>
    match s.screen with
    | none => none
    | some scr => if scr.selected = some l then none else some (changeLanguage scr.id l s)
  | .completed =>
    match s.ops with
    | [] => none
    | op :: rest => some { perform s op with ops := rest ++ followUp op }

/-- What a step does, with the guards that it has passed. -/
inductive Stepped (s : State) : Event → State → Prop
  | launch (device : String) (landed : ℕ) :
      Stepped s (.launch device landed) (launch device landed s)
  | openLanguage (hrunning : s.running = true) (hscreen : s.screen = none) :
      Stepped s .openLanguage (openLanguage s)
  | closeLanguage {scr : Screen} (hscreen : s.screen = some scr) :
      Stepped s .closeLanguage { s with screen := none }
  | select {scr : Screen} (l : Language) (hscreen : s.screen = some scr)
      (hselected : scr.selected ≠ some l) : Stepped s (.select l) (changeLanguage scr.id l s)
  | completed {op : Op} {rest : List Op} (hops : s.ops = op :: rest) :
      Stepped s .completed { perform s op with ops := rest ++ followUp op }

theorem stepped_of_step {s t : State} {e : Event} (hstep : step s e = some t) : Stepped s e t := by
  cases e with
  | launch device landed =>
    obtain rfl := Option.some.inj hstep
    exact .launch device landed
  | openLanguage =>
    simp only [step, Option.ite_none_right_eq_some, Option.some.injEq] at hstep
    obtain ⟨⟨hrunning, hscreen⟩, rfl⟩ := hstep
    exact .openLanguage hrunning hscreen
  | closeLanguage =>
    simp only [step, Option.ite_none_left_eq_some, Option.some.injEq] at hstep
    obtain ⟨hscreen, rfl⟩ := hstep
    obtain ⟨scr, hscr⟩ := Option.ne_none_iff_exists'.mp hscreen
    exact .closeLanguage hscr
  | select l =>
    cases hscr : s.screen with
    | none => simp only [step, hscr, reduceCtorEq] at hstep
    | some scr =>
      simp only [step, hscr, Option.ite_none_left_eq_some, Option.some.injEq] at hstep
      obtain ⟨hselected, rfl⟩ := hstep
      exact .select l hscr hselected
  | completed =>
    cases hops : s.ops with
    | nil => simp only [step, hops, reduceCtorEq] at hstep
    | cons op rest =>
      simp only [step, hops, Option.some.injEq] at hstep
      exact hstep ▸ .completed hops

/-- With every started handler completed, the app is displayed in Thai exactly when the stored
preference is `th`, and the open language screen marks the language of the display. -/
def Agree (s : State) : Prop :=
  s.running = true → s.ops = [] → (s.locale = "th" ↔ s.prefs.stored = some "th") ∧
    ∀ scr, s.screen = some scr → scr.selected = some (Language.ofCode s.locale)

/-- A launch does not find, or write, the preference `th`. -/
def StartsEnglish (s : State) : Event → Prop
  | .launch device landed => startCode device landed s ≠ "th"
  | _ => True

/-! ### Where the handlers come to rest -/

/-- The state after the pending operations and those that they issue. -/
def settled (s : State) : State := Agenda.settle perform followUp { s with ops := [] } s.ops

theorem flatMap_followUp (op : Op) : (followUp op).flatMap followUp = [] := by
  rcases op with ⟨n, _ | l | l⟩ <;> rfl

theorem mark_screen_id (n : ℕ) (l : Language) (s : State) :
    (mark n l s).screen.map Screen.id = s.screen.map Screen.id := by
  simp only [mark, Option.map_map]
  refine Option.map_congr fun scr _ => ?_
  by_cases h : scr.id = n <;> simp [h]

theorem mark_screen_self {n : ℕ} {s : State} {selected : Option Language}
    (h : s.screen = some ⟨n, selected⟩) (l : Language) :
    (mark n l s).screen = some ⟨n, some l⟩ := by
  simp [mark, h]

theorem mark_screen_of_ne {n : ℕ} {s : State} (h : ∀ scr, s.screen = some scr → scr.id ≠ n)
    (l : Language) : (mark n l s).screen = s.screen := by
  cases hs : s.screen with
  | none => simp [mark, hs]
  | some scr => simp [mark, hs, h scr hs]

/-- The effect of an operation on the preferences. -/
def Preferences.perform (p : Preferences) (op : Op) : Preferences :=
  match op.task with
  | .load => p
  | .change l => p.setString l.code
  | .write l => p.commit l.code

theorem perform_prefs (s : State) (op : Op) : (perform s op).prefs = s.prefs.perform op := by
  rcases op with ⟨n, _ | l | l⟩ <;> rfl

theorem foldl_perform_prefs (ops : List Op) (s : State) :
    (ops.foldl perform s).prefs = ops.foldl Preferences.perform s.prefs :=
  (List.foldl_hom State.prefs fun s op => (perform_prefs s op).symm).symm

theorem perform_screen_id (s : State) (op : Op) :
    (perform s op).screen.map Screen.id = s.screen.map Screen.id := by
  rcases op with ⟨n, _ | l | l⟩
  · exact mark_screen_id n _ s
  · rfl
  · exact mark_screen_id n l { s with prefs := s.prefs.commit l.code }

/-- A screen that is open after an operation was open before. -/
theorem exists_screen_of_perform {s : State} {op : Op} {scr : Screen}
    (h : (perform s op).screen = some scr) : ∃ v, s.screen = some v ∧ v.id = scr.id := by
  have hid := (perform_screen_id s op).symm.trans (congrArg (Option.map Screen.id) h)
  exact Option.map_eq_some_iff.mp hid

theorem foldl_perform_screen_id (ops : List Op) (s : State) :
    (ops.foldl perform s).screen.map Screen.id = s.screen.map Screen.id :=
  Agenda.foldl_eq_of_unchanged (fun s => s.screen.map Screen.id)
    (fun s op _ => perform_screen_id s op) s

/-- An operation issued by a screen that is not open does not change what the open one marks. -/
theorem perform_screen_of_ne {s : State} {op : Op}
    (h : ∀ scr, s.screen = some scr → scr.id ≠ op.screen) : (perform s op).screen = s.screen := by
  rcases op with ⟨n, _ | l | l⟩
  · exact mark_screen_of_ne h _
  · rfl
  · exact mark_screen_of_ne (s := { s with prefs := s.prefs.commit l.code }) h l

theorem foldl_perform_screen {ops : List Op} {s : State}
    (h : ∀ op ∈ ops, ∀ scr, s.screen = some scr → scr.id ≠ op.screen) :
    (ops.foldl perform s).screen = s.screen := by
  induction ops generalizing s with
  | nil => rfl
  | cons op ops ih =>
    have hop := perform_screen_of_ne (h op List.mem_cons_self)
    rw [List.foldl_cons, ih, hop]
    rw [hop]
    exact fun op' hop' => h op' (List.mem_cons_of_mem op hop')

/-- What the handlers issue when their operations complete are writes, which do not touch the
copy in memory. -/
theorem foldl_followUp_cache (ops : List Op) (p : Preferences) :
    ((ops.flatMap followUp).foldl Preferences.perform p).cache = p.cache := by
  refine Agenda.foldl_eq_of_unchanged Preferences.cache (fun p op hop => ?_) p
  obtain ⟨⟨n, _ | l | l⟩, -, hop⟩ := List.mem_flatMap.mp hop
  · cases hop
  · obtain rfl := List.mem_singleton.mp hop
    rfl
  · cases hop

theorem screen_of_mem_followUp {op op' : Op} (h : op' ∈ followUp op) : op'.screen = op.screen := by
  rcases op with ⟨n, _ | l | l⟩
  · cases h
  · obtain rfl := List.mem_singleton.mp h
    rfl
  · cases h

theorem settled_prefs (s : State) :
    (settled s).prefs = (Agenda.agenda followUp s.ops).foldl Preferences.perform s.prefs :=
  foldl_perform_prefs _ _

/-! ### The invariant -/

theorem setLocale_eq (code : String) (s : State) :
    setLocale code s = { s with locale := code } := by
  unfold setLocale
  split
  · next hlocale => rw [← hlocale]
  · rfl

theorem perform_opened (s : State) (op : Op) : (perform s op).opened = s.opened := by
  rcases op with ⟨n, _ | l | l⟩ <;> rfl

theorem perform_locale (s : State) (op : Op) : (perform s op).locale = s.locale := by
  rcases op with ⟨n, _ | l | l⟩ <;> rfl

/-- The open screen and those that have issued operations have been opened before. -/
structure Fresh (s : State) : Prop where
  ops : ∀ op ∈ s.ops, op.screen < s.opened
  screen : ∀ scr, s.screen = some scr → scr.id < s.opened

theorem fresh_step {s t : State} {e : Event} (h : Fresh s) (hstep : step s e = some t) :
    Fresh t := by
  cases stepped_of_step hstep with
  | launch => exact ⟨fun _ hop => (nomatch hop), fun _ hscr => nomatch hscr⟩
  | openLanguage =>
    refine ⟨fun op hop => ?_, fun scr hscr => ?_⟩
    · rcases List.mem_append.mp hop with hop | hop
      · exact Nat.lt_succ_of_lt (h.ops op hop)
      · obtain rfl := List.mem_singleton.mp hop
        exact Nat.lt_succ_self _
    · obtain rfl := Option.some.inj hscr
      exact Nat.lt_succ_self _
  | closeLanguage => exact ⟨h.ops, fun _ hscr => nomatch hscr⟩
  | select l hscreen =>
    simp only [changeLanguage, setLocale_eq]
    refine ⟨fun op hop => ?_, h.screen⟩
    rcases List.mem_append.mp hop with hop | hop
    · exact h.ops op hop
    · obtain rfl := List.mem_singleton.mp hop
      exact h.screen _ hscreen
  | @completed op rest hops =>
    refine ⟨fun op' hop' => ?_, fun scr hscr => ?_⟩
    · change op'.screen < (perform s op).opened
      rw [perform_opened]
      rcases List.mem_append.mp hop' with hop' | hop'
      · exact h.ops op' (hops ▸ List.mem_cons_of_mem op hop')
      · rw [screen_of_mem_followUp hop']
        exact h.ops op (hops ▸ List.mem_cons_self)
    · obtain ⟨v, hv, hvid⟩ := exists_screen_of_perform hscr
      change scr.id < (perform s op).opened
      rw [perform_opened, ← hvid]
      exact h.screen v hv

theorem fresh_off (stored : Option String) : Fresh (State.off stored) :=
  ⟨fun _ hop => (nomatch hop), fun _ hscr => nomatch hscr⟩

/-- The handlers of a running app come to rest with provider, preference and screen in agreement.
-/
structure Settles (s : State) : Prop where
  stored : (settled s).prefs.stored = (settled s).prefs.cache
  code : Language.ofCode ((settled s).prefs.cache.getD "en") = Language.ofCode s.locale
  marked : ∀ scr, (settled s).screen = some scr → scr.selected = some (Language.ofCode s.locale)

theorem agree_of_settles {s : State} (h : Settles s) : Agree s := by
  intro _ hops
  have hsettled : settled s = { s with ops := [] } := by rw [settled, hops, Agenda.settle_nil]
  have hstored : s.prefs.stored = s.prefs.cache := by simpa only [hsettled] using h.stored
  have hcode := h.code
  have hmarked := h.marked
  rw [hsettled] at hcode hmarked
  refine ⟨?_, hmarked⟩
  rw [← Language.ofCode_eq_thai, ← hcode, Language.ofCode_eq_thai, hstored]
  cases s.prefs.cache <;> simp

theorem settles_launch {device : String} {landed : ℕ} {s : State}
    (h : startCode device landed s ≠ "th") : Settles (launch device landed s) where
  stored := rfl
  code := by
    change Language.ofCode (startCode device landed s) = Language.ofCode "en"
    simp [Language.ofCode, h]
  marked _ hscr := nomatch hscr

theorem settles_close {s : State} (h : Settles s) : Settles { s with screen := none } where
  stored := by
    rw [settled_prefs]
    exact settled_prefs s ▸ h.stored
  code := by
    rw [settled_prefs]
    exact settled_prefs s ▸ h.code
  marked scr hscr := by
    have hid := foldl_perform_screen_id (Agenda.agenda followUp s.ops)
      { s with screen := none, ops := [] }
    rw [show List.foldl perform _ _ = settled { s with screen := none } from rfl, hscr] at hid
    cases hid

/-- A screen that opens reads the preference after everything issued before it. What the screens
closed since still write changes neither the copy that it reads nor what it marks. -/
theorem settles_open {s : State} (hfresh : Fresh s) (h : Settles s) : Settles (openLanguage s) := by
  set load : Op := ⟨s.opened, .load⟩ with hload
  set u := s.ops.foldl perform { openLanguage s with ops := [] } with hu
  have hsettled : settled (openLanguage s) = (s.ops.flatMap followUp).foldl perform (perform u load)
      := by
    change (Agenda.agenda followUp (s.ops ++ [load])).foldl perform _ = _
    rw [Agenda.agenda_concat, List.foldl_append, List.foldl_cons,
      show followUp load = [] from rfl, List.append_nil]
  have huprefs : u.prefs = s.ops.foldl Preferences.perform s.prefs := foldl_perform_prefs _ _
  have hprefs : (settled (openLanguage s)).prefs = (settled s).prefs := by
    rw [hsettled, foldl_perform_prefs, perform_prefs, huprefs, settled_prefs, Agenda.agenda,
      List.foldl_append]
    rfl
  have hne : ∀ op ∈ s.ops, s.opened ≠ op.screen := fun op hop => Nat.ne_of_gt (hfresh.ops op hop)
  refine ⟨?_, ?_, ?_⟩
  · rw [hprefs]
    exact h.stored
  · rw [hprefs]
    exact h.code
  · have huscreen : u.screen = some ⟨s.opened, none⟩ := by
      refine foldl_perform_screen fun op hop scr hscr => ?_
      obtain rfl := Option.some.inj hscr
      exact hne op hop
    have hcache : u.prefs.cache = (settled s).prefs.cache := by
      rw [huprefs, settled_prefs, Agenda.agenda, List.foldl_append, foldl_followUp_cache]
    have hmark : (perform u load).screen = some ⟨s.opened, some (Language.ofCode s.locale)⟩ := by
      rw [← h.code, ← hcache]
      simp [perform, mark, hload, huscreen]
    intro scr hscr
    rw [hsettled, foldl_perform_screen, hmark] at hscr
    · obtain rfl := Option.some.inj hscr
      rfl
    · intro op hop scr' hscr'
      obtain ⟨issuer, hissuer, hop⟩ := List.mem_flatMap.mp hop
      rw [hmark] at hscr'
      obtain rfl := Option.some.inj hscr'
      rw [screen_of_mem_followUp hop]
      exact hne issuer hissuer

/-- Whatever is pending, everything comes to rest in the language chosen last: its write is the
last operation of the agenda, and no other one touches the copy in memory after its `setString`. -/
theorem settles_change {s : State} {scr : Screen} (hscr : s.screen = some scr)
    (l : Language) : Settles (changeLanguage scr.id l s) := by
  set t := setLocale l.code s with ht
  rw [setLocale_eq] at ht
  set change : Op := ⟨scr.id, .change l⟩ with hchange
  set u := (t.ops ++ change :: t.ops.flatMap followUp).foldl perform { t with ops := [] } with hu
  have hsettled : settled (changeLanguage scr.id l s) = perform u ⟨scr.id, .write l⟩ := by
    change (Agenda.agenda followUp (t.ops ++ [change])).foldl perform { t with ops := [] } = _
    rw [Agenda.agenda_concat, ← List.cons_append, ← List.append_assoc, List.foldl_append, ← hu]
    rfl
  have hcache : u.prefs.cache = some l.code := by
    rw [hu, foldl_perform_prefs, List.foldl_append, List.foldl_cons, foldl_followUp_cache]
    rfl
  have hlocale : (changeLanguage scr.id l s).locale = l.code := congrArg State.locale ht
  refine ⟨?_, ?_, ?_⟩
  · rw [hsettled]
    exact hcache.symm
  · rw [hsettled, hlocale]
    exact congrArg (fun c : Option String => Language.ofCode (c.getD "en")) hcache
  · intro scr' hscr'
    have hid : u.screen.map Screen.id = some scr.id := by
      rw [hu, foldl_perform_screen_id, ht]
      exact congrArg (Option.map Screen.id) hscr
    obtain ⟨v, hv, hvid⟩ := Option.map_eq_some_iff.mp hid
    rw [hsettled] at hscr'
    simp only [perform, mark, hv, Option.map_some, hvid, if_true, Option.some.injEq] at hscr'
    rw [← hscr', hlocale, Language.ofCode_code]

theorem settled_completed {s : State} {op : Op} {rest : List Op} (hops : s.ops = op :: rest) :
    settled { perform s op with ops := rest ++ followUp op } = settled s := by
  have hperform : { perform s op with ops := [] } = perform { s with ops := [] } op := by
    rcases op with ⟨n, _ | l | l⟩ <;> rfl
  rw [settled, settled, hops, Agenda.settle_cons flatMap_followUp]
  exact congrArg (fun t => Agenda.settle perform followUp t (rest ++ followUp op)) hperform

theorem settles_completed {s : State} (h : Settles s) {op : Op} {rest : List Op}
    (hops : s.ops = op :: rest) : Settles { perform s op with ops := rest ++ followUp op } := by
  have hlocale := perform_locale s op
  have hsettled := settled_completed hops
  refine ⟨?_, ?_, ?_⟩
  · rw [hsettled]
    exact h.stored
  · rw [hsettled]
    exact h.code.trans (congrArg Language.ofCode hlocale.symm)
  · intro scr hscr
    rw [hsettled] at hscr
    exact (h.marked scr hscr).trans (congrArg (fun c => some (Language.ofCode c)) hlocale.symm)

/-- What every state satisfies as long as the app is launched in English: before the first launch
nothing is pending and no screen is open, afterwards the handlers settle. -/
structure Inv (s : State) : Prop where
  fresh : Fresh s
  settles : s.running = true → Settles s
  off : s.running = false → s.ops = [] ∧ s.screen = none

theorem Inv.running_of_ops {s : State} (h : Inv s) (hops : s.ops ≠ []) : s.running = true := by
  by_contra hoff
  exact hops (h.off (Bool.not_eq_true _ ▸ hoff)).1

theorem Inv.running_of_screen {s : State} (h : Inv s) (hscr : s.screen ≠ none) :
    s.running = true := by
  by_contra hoff
  exact hscr (h.off (Bool.not_eq_true _ ▸ hoff)).2

/-- The app is running after every step, and its handlers settle. -/
theorem settles_step {s t : State} {e : Event} (h : Inv s) (he : StartsEnglish s e)
    (hstep : step s e = some t) : t.running = true ∧ Settles t := by
  cases stepped_of_step hstep with
  | launch => exact ⟨rfl, settles_launch he⟩
  | openLanguage hrunning => exact ⟨hrunning, settles_open h.fresh (h.settles hrunning)⟩
  | closeLanguage hscreen =>
    have hrunning := h.running_of_screen (hscreen ▸ Option.some_ne_none _)
    exact ⟨hrunning, settles_close (h.settles hrunning)⟩
  | select l hscreen =>
    have hrunning := h.running_of_screen (hscreen ▸ Option.some_ne_none _)
    refine ⟨?_, settles_change hscreen l⟩
    rw [changeLanguage, setLocale_eq]
    exact hrunning
  | @completed op rest hops =>
    have hrunning := h.running_of_ops (hops ▸ List.cons_ne_nil op rest)
    refine ⟨?_, settles_completed (h.settles hrunning) hops⟩
    rcases op with ⟨n, _ | l | l⟩ <;> exact hrunning

theorem inv_step {s t : State} {e : Event} (h : Inv s) (he : StartsEnglish s e)
    (hstep : step s e = some t) : Inv t := by
  obtain ⟨hrunning, hsettles⟩ := settles_step h he hstep
  exact ⟨fresh_step h.fresh hstep, fun _ => hsettles,
    fun hoff => absurd (hrunning.symm.trans hoff) (by decide)⟩

/-- A launch with the preference `th` displays the app in English, with nothing pending. -/
theorem not_agree_of_launch {s t : State} {e : Event} (he : ¬ StartsEnglish s e)
    (hstep : step s e = some t) : ¬ Agree t := by
  cases e with
  | launch device landed =>
    obtain rfl := Option.some.inj hstep
    have hcode : startCode device landed s = "th" := not_not.mp he
    intro h
    have hlocale : "en" = "th" := (h rfl rfl).1.mpr (congrArg some hcode)
    exact absurd hlocale (by decide)
  | _ => exact absurd trivial he

/-- **The language across launches.** From any stored preference, along a run of launches, openings
of the language screen, selections and completions, the display, the stored preference and the
marked option agree whenever nothing is pending, exactly when no launch of the run finds or writes
the preference `th`. -/
theorem agree_iff_startsEnglish (stored : Option String) (es : List Event) :
    EventRun.Along step Agree (State.off stored) es ↔
      EventRun.Meets step StartsEnglish (State.off stored) es := by
  have hoff : Inv (State.off stored) :=
    ⟨fresh_off stored, fun h => (nomatch h), fun _ => ⟨rfl, rfl⟩⟩
  refine EventRun.along_iff_meets (fun _ _ _ => inv_step) (fun s hs => ?_)
    (fun _ _ _ _ => not_agree_of_launch) hoff
  exact fun hrunning => agree_of_settles (hs.settles hrunning) hrunning

/-- Thai is chosen on a device set to English, every handler completes, and the app is launched
again. -/
def thaiThenRelaunch : List Event :=
  [.launch "en" 0, .openLanguage, .completed, .select .thai, .completed, .completed,
    .launch "en" 0, .openLanguage, .completed]

/-- After the restart the app is displayed in English, while the stored preference is `th` and the
language screen marks Thai. -/
theorem thai_lost_at_restart :
    ∃ s, EventRun.run step (State.off none) thaiThenRelaunch = some s ∧ s.ops = [] ∧
      s.running = true ∧ s.locale = "en" ∧ s.prefs.stored = some "th" ∧
      s.screen.map Screen.selected = some (some .thai) ∧ ¬ Agree s := by
  refine ⟨⟨true, ⟨some "th", some "th"⟩, "en", some ⟨1, some .thai⟩, 2, []⟩, rfl, rfl, rfl, rfl,
    rfl, rfl, fun h => ?_⟩
  exact absurd ((h rfl rfl).1.mpr rfl) (by decide)

end SmartHome.LanguageSetting
