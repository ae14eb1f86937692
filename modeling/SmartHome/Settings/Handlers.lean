import SmartHome.Lib.AsyncWidget
import SmartHome.Lib.DartValue
import SmartHome.Settings.Language

/-!
# The language screen and its removal

The handlers of `LanguageScreen`, cut at the calls that they wait for, with every use that they make
of the widget. `LanguageSetting.step` follows the app, with the handlers of every screen that was
opened since its launch; here it is one screen, which may be gone. A screen sees of the app what its
calls complete with, and the two agree on what it marks, on the locale and on its calls.

## Main definitions

* `LanguageSetting.Handlers.Call`, `LanguageSetting.Handlers.screen`.
* `LanguageSetting.Handlers.quiet` : the replies on which the screen is not used.
* `LanguageSetting.Handlers.Shows` : the handlers of the `n`-th screen in a state of the app.

## Main results

* `LanguageSetting.Handlers.quietTable`.
* `LanguageSetting.Handlers.simulates`, `LanguageSetting.Handlers.shows_of_run` : from its opening
  to the next launch a language screen of the app runs these handlers.
-/

namespace SmartHome.LanguageSetting.Handlers

open Dart AsyncWidget

/-- `_LanguageScreenState`, with the locale of `LocaleProvider`. -/
structure LanguageScreenState where
  selectedLanguage : Option Language
  locale : String

/-- What the handlers wait for: `_loadLanguage` for the stored code, `_changeLanguage` for the
preferences and for its `setString`. -/
inductive Call where
  | load
  | change (language : Language)
  | write (language : Language)
  deriving DecidableEq

/-- What the calls complete with. -/
abbrev Call.Reply : Call → Type
  | .load => Except Error (Option String)
  | .change _ | .write _ => Except Error Unit

/-- The stretches of the handlers of the screen. -/
abbrev Stretch := Handler LanguageScreenState Call Error

/-- The closures that mark an option. -/
def mark (language : Language) : ExceptT Error (StateM LanguageScreenState) Unit :=
  modify fun s => { s with selectedLanguage := some language }

/-- `_loadLanguage` from the preferences on. -/
def loaded (reply : Except Error (Option String)) : Stretch Unit := do
  let stored ← reply
  setState (mark (Language.ofCode (stored.getD "en")))

/-- `_changeLanguage` up to the preferences. -/
def changeLanguage : Option Language → Stretch Unit
  | none => pure ()
  | some language => do
    -- `Provider.of<LocaleProvider>(context, listen: false).setLocale(locale)`
    context
    update do modify fun s => { s with locale := language.code }
    await (.change language)

/-- `_changeLanguage` from the preferences to `setString`. -/
def opened (language : Language) (reply : Except Error Unit) : Stretch Unit := do
  reply
  await (.write language)

/-- `_changeLanguage` from `setString` on. -/
def written (language : Language) (reply : Except Error Unit) : Stretch Unit := do
  reply
  setState (mark language)

/-- The screen, with the locale that it is opened in. `start` is a tap on an option. -/
def screen (locale : String) :
    AsyncWidget.Screen LanguageScreenState Call (Option Language) Error Call.Reply where
  initial := { selectedLanguage := none, locale }
  initState := await .load
  start := changeLanguage
  detached _ := false
  resume
    | .load, reply => loaded reply
    | .change language, reply => opened language reply
    | .write language, reply => written language reply

/-! ### After its removal -/

/-- The replies on which the screen is not used. -/
def quiet : (c : Call) → c.Reply → Prop
  | .load, reply => ¬ reply.isOk
  | .change _, _ => True
  | .write _, reply => ¬ reply.isOk

theorem quietTable (locale : String) : (screen locale).QuietTable quiet where
  silent c r hr := by
    cases c with
    | change language => rcases r with e | _ <;> exact fun _ _ => rfl
    | load | write =>
      rcases r with e | _
      · exact fun _ _ => rfl
      · exact absurd rfl hr
  late c r hr := by
    cases c with
    | change language => exact absurd trivial hr
    | load | write =>
      rcases r with e | _
      · exact absurd (by rintro ⟨⟩) hr
      · exact late_lift_bind (late_setState _)
  detached i hi := by cases hi

/-! ### The handlers of a screen of the app -/

/-- The call of a pending operation. -/
def Call.ofTask : Task → Call
  | .load => .load
  | .change language => .change language
  | .write language => .write language

/-- The calls that the screen `n` waits for. -/
def callsOf (n : ℕ) (ops : List Op) : List Call :=
  (ops.filter fun op => op.screen = n).map fun op => .ofTask op.task

/-- The handlers of the screen `n` in a state of the app. Closed, the screen still waits. -/
structure Shows (n : ℕ) (s : LanguageSetting.State) (sys : System LanguageScreenState Call Error) :
    Prop where
  opened : n < s.opened
  calls : sys.calls = callsOf n s.ops
  mounted : sys.mounted = true →
    s.screen = some ⟨n, sys.state.selectedLanguage⟩ ∧ sys.state.locale = s.locale
  removed : sys.mounted = false → ∀ scr, s.screen = some scr → scr.id ≠ n

variable {n : ℕ} {s : LanguageSetting.State} {sys : System LanguageScreenState Call Error}

theorem callsOf_append (ops ops' : List Op) :
    callsOf n (ops ++ ops') = callsOf n ops ++ callsOf n ops' := by
  rw [callsOf, List.filter_append, List.map_append]
  rfl

theorem callsOf_cons (op : Op) (ops : List Op) :
    callsOf op.screen (op :: ops) = .ofTask op.task :: callsOf op.screen ops := by
  rw [callsOf, List.filter_cons_of_pos (by simp)]
  rfl

theorem callsOf_cons_of_ne {op : Op} (h : op.screen ≠ n) (ops : List Op) :
    callsOf n (op :: ops) = callsOf n ops := by
  rw [callsOf, List.filter_cons_of_neg (by simpa using h)]
  rfl

theorem callsOf_eq_nil {ops : List Op} (h : ∀ op ∈ ops, op.screen ≠ n) : callsOf n ops = [] := by
  rw [callsOf, List.map_eq_nil_iff, List.filter_eq_nil_iff]
  exact fun op hop => by simpa using h op hop

/-- Nothing has happened to the screen `n`. -/
theorem Shows.frame (h : Shows n s sys) {t : LanguageSetting.State} (hopened : s.opened ≤ t.opened)
    (hcalls : callsOf n t.ops = callsOf n s.ops)
    (hscreen : sys.mounted = true → t.screen = s.screen ∧ t.locale = s.locale)
    (hremoved : sys.mounted = false → ∀ scr, t.screen = some scr → scr.id ≠ n) :
    Shows n t sys where
  opened := Nat.lt_of_lt_of_le h.opened hopened
  calls := h.calls.trans hcalls.symm
  mounted hmounted := by
    obtain ⟨hsame, hlocale⟩ := hscreen hmounted
    rw [hsame, hlocale]
    exact h.mounted hmounted
  removed := hremoved

/-- What a call of a running app completes with. -/
def replyOf (s : LanguageSetting.State) : (c : Call) → c.Reply
  | .load => .ok s.prefs.cache
  | .change _ | .write _ => .ok ()

theorem calls_resume (locale : String) (s : LanguageSetting.State) (op : Op)
    (w : AsyncWidget.Widget LanguageScreenState Call) :
    (((screen locale).resume (.ofTask op.task) (replyOf s (.ofTask op.task))).run w).2.calls =
      w.calls ++ callsOf op.screen (followUp op) := by
  obtain ⟨state, mounted, calls, lateUses⟩ := w
  rcases op with ⟨n, _ | l | l⟩
  · cases mounted <;> exact (List.append_nil calls).symm
  · exact congrArg (calls ++ ·) (callsOf_cons ⟨n, .write l⟩ []).symm
  · cases mounted <;> exact (List.append_nil calls).symm

/-- What a handler of a mounted screen marks when it goes on. -/
theorem state_resume {locale : String} {task : Task}
    {w : AsyncWidget.Widget LanguageScreenState Call} (hw : w.mounted = true)
    (hscreen : s.screen = some ⟨n, w.state.selectedLanguage⟩)
    (hlocale : w.state.locale = s.locale) :
    let w' := (((screen locale).resume (.ofTask task) (replyOf s (.ofTask task))).run w).2
    (perform s ⟨n, task⟩).screen = some ⟨n, w'.state.selectedLanguage⟩ ∧
      w'.state.locale = s.locale := by
  obtain ⟨state, mounted, calls, lateUses⟩ := w
  obtain rfl : mounted = true := hw
  cases task with
  | load => exact ⟨mark_screen_self hscreen _, hlocale⟩
  | change l => exact ⟨hscreen, hlocale⟩
  | write l =>
    exact ⟨mark_screen_self (s := { s with prefs := s.prefs.commit l.code }) hscreen l, hlocale⟩

/-- A tap on an option of the mounted screen. -/
theorem shows_select (h : Shows n s sys) (hmounted : sys.mounted = true) (l : Language) :
    Shows n (LanguageSetting.changeLanguage n l s) (exec (changeLanguage (some l)) sys) := by
  obtain ⟨⟨state, mounted, calls, lateUses⟩, escaped⟩ := sys
  obtain rfl : mounted = true := hmounted
  obtain ⟨hscreen, -⟩ := h.mounted rfl
  rw [LanguageSetting.changeLanguage, setLocale_eq]
  refine ⟨h.opened, ?_, fun _ => ⟨hscreen, rfl⟩, by rintro ⟨⟩⟩
  change calls ++ [Call.change l] = callsOf n (s.ops ++ [⟨n, .change l⟩])
  rw [callsOf_append, callsOf_cons ⟨n, .change l⟩ []]
  exact congrArg (· ++ [Call.change l]) h.calls

/-- An operation of the screen completes, open or not, and the handler goes on. -/
theorem shows_resume {op : Op} {rest : List Op} (h : Shows op.screen s sys)
    (hops : s.ops = op :: rest) (locale : String) :
    ∃ sys', EventRun.run (screen locale).step sys
        [.completed 0 (.ofTask op.task) (replyOf s (.ofTask op.task))] = some sys' ∧
      Shows op.screen { perform s op with ops := rest ++ followUp op } sys' := by
  have hcomplete : Outstanding.complete sys.calls 0 =
      some (.ofTask op.task, callsOf op.screen rest) := by
    rw [h.calls, hops, callsOf_cons]
    rfl
  refine ⟨_, Screen.run_completed hcomplete _, ?_⟩
  have hresumed := ((screen locale).resume (.ofTask op.task)
    (replyOf s (.ofTask op.task))).mounted_run { sys.toWidget with calls := callsOf op.screen rest }
  refine ⟨?_, ?_, fun hm => ?_, fun hm scr hscr => ?_⟩
  · exact (perform_opened s op).symm ▸ h.opened
  · rw [callsOf_append]
    exact calls_resume locale s op _
  · obtain ⟨hscreen, hlocale⟩ := h.mounted (hresumed.symm.trans hm)
    obtain ⟨hmarked, hsame⟩ := state_resume (hresumed.symm.trans hm) hscreen hlocale
    exact ⟨hmarked, hsame.trans (perform_locale s op).symm⟩
  · obtain ⟨v, hv, hid⟩ := exists_screen_of_perform hscr
    exact hid ▸ h.removed (hresumed.symm.trans hm) v hv

/-- The screen that is opened in a state in which nothing waits for it. -/
theorem shows_opened {t : LanguageSetting.State} (hfresh : Fresh s)
    (hopen : LanguageSetting.step s .openLanguage = some t) :
    Shows s.opened t (screen s.locale).opened := by
  cases stepped_of_step hopen
  refine ⟨Nat.lt_succ_self _, ?_, fun _ => ⟨rfl, rfl⟩, fun hm => nomatch hm⟩
  change [Call.load] = callsOf s.opened (s.ops ++ [⟨s.opened, .load⟩])
  have hnone : callsOf s.opened s.ops = [] :=
    callsOf_eq_nil fun op hop => Nat.ne_of_lt (hfresh.ops op hop)
  rw [callsOf_append, hnone, callsOf_cons ⟨s.opened, .load⟩ []]
  rfl

/-- What the app does to its `n`-th language screen, short of a launch, the handlers do. -/
theorem simulates (n : ℕ) (locale : String) :
    EventRun.Simulates LanguageSetting.step (screen locale).step
      (fun _ e => ∀ device landed, e ≠ .launch device landed) (Shows n) := by
  intro s e t sys hs he hstep
  cases stepped_of_step hstep with
  | launch device landed => exact absurd rfl (he device landed)
  | openLanguage hrunning hscreen =>
    have hne : s.opened ≠ n := Nat.ne_of_gt hs.opened
    refine ⟨[], sys, rfl, hs.frame (Nat.le_succ _) ?_ (fun hmounted => ?_) fun _ scr hscr => ?_⟩
    · change callsOf n (s.ops ++ [⟨s.opened, .load⟩]) = _
      rw [callsOf_append, callsOf_cons_of_ne hne]
      exact List.append_nil _
    · cases hscreen.symm.trans (hs.mounted hmounted).1
    · obtain rfl := Option.some.inj hscr
      exact hne
  | closeLanguage hscreen =>
    cases hmounted : sys.mounted with
    | true =>
      refine ⟨[.removed], { sys with mounted := false }, ?_, ?_⟩
      · exact Screen.run_removed hmounted
      · exact ⟨hs.opened, hs.calls, fun hm => (nomatch hm), fun _ _ hscr => nomatch hscr⟩
    | false =>
      refine ⟨[], sys, rfl, hs.frame (Nat.le_refl _) rfl (fun hm => ?_) ?_⟩
      · cases hmounted.symm.trans hm
      · exact fun _ _ hscr => nomatch hscr
  | @select scr l hscreen =>
    cases hmounted : sys.mounted with
    | true =>
      obtain ⟨hopen, -⟩ := hs.mounted hmounted
      obtain rfl := Option.some.inj (hscreen.symm.trans hopen)
      refine ⟨[.started (some l)], exec (changeLanguage (some l)) sys, ?_, ?_⟩
      · exact Screen.run_started _ hmounted
      · exact shows_select hs hmounted l
    | false =>
      rw [LanguageSetting.changeLanguage, setLocale_eq]
      refine ⟨[], sys, rfl, hs.frame (Nat.le_refl _) ?_ (fun hm => ?_) hs.removed⟩
      · rw [callsOf_append, callsOf_cons_of_ne (hs.removed hmounted scr hscreen)]
        exact List.append_nil _
      · cases hmounted.symm.trans hm
  | @completed op rest hops =>
    by_cases hop : op.screen = n
    · subst hop
      obtain ⟨sys', hrun, hs'⟩ := shows_resume hs hops locale
      exact ⟨_, sys', hrun, hs'⟩
    · refine ⟨[], sys, rfl, hs.frame (Nat.le_of_eq (perform_opened s op).symm) ?_ (fun hm => ?_)
        fun hm scr hscr => ?_⟩
      · have hnone : callsOf n (followUp op) = [] :=
          callsOf_eq_nil fun op' hop' => screen_of_mem_followUp hop' ▸ hop
        rw [callsOf_append, hnone, List.append_nil, hops, callsOf_cons_of_ne hop]
      · refine ⟨perform_screen_of_ne fun scr hscr => ?_, perform_locale s op⟩
        obtain rfl := Option.some.inj (hscr.symm.trans (hs.mounted hm).1)
        exact Ne.symm hop
      · obtain ⟨v, hv, hid⟩ := exists_screen_of_perform hscr
        exact hid ▸ hs.removed hm v hv

/-- From its opening to the next launch, every language screen of the app runs these handlers. -/
theorem shows_of_run {stored : Option String} {past es : List LanguageSetting.Event}
    {s t u : LanguageSetting.State}
    (hpast : EventRun.run LanguageSetting.step (.off stored) past = some s)
    (hopen : LanguageSetting.step s .openLanguage = some t)
    (hes : ∀ e ∈ es, ∀ device landed, e ≠ .launch device landed)
    (hrun : EventRun.run LanguageSetting.step t es = some u) :
    ∃ es' sys, EventRun.run (screen s.locale).step (screen s.locale).opened es' = some sys ∧
      Shows s.opened u sys := by
  have hfresh : Fresh s :=
    EventRun.invariant_run (fun _ _ _ => fresh_step) (fresh_off stored) hpast
  exact (simulates s.opened s.locale).run (shows_opened hfresh hopen)
    (EventRun.meets_of_forall hes) hrun

end SmartHome.LanguageSetting.Handlers
