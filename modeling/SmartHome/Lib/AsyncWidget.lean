import SmartHome.Lib.EventRun
import SmartHome.Lib.Outstanding

/-!
# Handlers of a widget that may be gone

A widget runs asynchronous handlers. Between two calls that it waits for, a handler runs at a
stretch: it reads and updates the state of the widget, uses its context, issues further calls, and
may throw. The widget can be removed while calls are outstanding; the handlers go on when these
complete, and `setState` and every use of the context then throw.

A stretch is a `Handler`, a computation that carries three laws: it does not remove the widget, on
a mounted widget no use is late, and late uses stay recorded. The laws hold for everything that is
built from the operations below. A `Screen` gives the stretches of a widget: those that start a
handler, and those that follow the completion of a call.

The call that a handler goes on to wait for is issued by `await` at the end of a stretch; what the
handler has to remember is part of the call.

## Main definitions

* `AsyncWidget.Widget`, `AsyncWidget.Handler`, with `AsyncWidget.setState`, `AsyncWidget.context`,
  `AsyncWidget.fields`, `AsyncWidget.await`, `AsyncWidget.fork`.
* `AsyncWidget.Screen`, `AsyncWidget.Event`, `AsyncWidget.Screen.step`.
* `AsyncWidget.Clean` : no use was late, and no exception has escaped from a handler.
* `AsyncWidget.QuietAfterRemoval` : a call completes while the widget is mounted, or with a reply
  on which its handler does not use the widget.

## Main results

* `AsyncWidget.Screen.along_clean_iff` : a run is clean exactly when its calls are quiet after the
  removal of the widget.
* `AsyncWidget.Screen.keeps_run` : invariants of the runs of a screen.
-/

namespace AsyncWidget

/-- How a handler uses its widget. -/
inductive Use where
  | setState
  | context
  deriving Repr, DecidableEq

/-- A widget: its state, whether it is mounted, the calls that its handlers wait for, and the uses
that were made of it after its removal, oldest first. -/
structure Widget (σ κ : Type) where
  state : σ
  mounted : Bool
  calls : List κ
  lateUses : List Use

/-- What a handler can throw: an error of the program, or the one of a use after the removal. -/
inductive Thrown (ε : Type) where
  | error (e : ε)
  | disposed (u : Use)
  deriving Repr, DecidableEq

/-- A stretch of a handler. -/
structure Handler (σ κ ε α : Type) where
  run : Widget σ κ → Except (Thrown ε) α × Widget σ κ
  mounted_run : ∀ w, (run w).2.mounted = w.mounted
  lateUses_run : ∀ w, w.mounted = true → (run w).2.lateUses = w.lateUses
  prefix_run : ∀ w, w.lateUses <+: (run w).2.lateUses

variable {σ κ ι ε α β : Type}

namespace Handler

/-- A handler that does nothing but return. -/
protected def pure (a : α) : Handler σ κ ε α where
  run w := (.ok a, w)
  mounted_run _ := rfl
  lateUses_run _ _ := rfl
  prefix_run _ := List.prefix_rfl

/-- The continuation of a stretch that has returned or thrown. -/
def after (m : Handler σ κ ε α) (next : Except (Thrown ε) α → Handler σ κ ε β) :
    Handler σ κ ε β where
  run w := (next (m.run w).1).run (m.run w).2
  mounted_run w := ((next _).mounted_run _).trans (m.mounted_run w)
  lateUses_run w hw :=
    ((next _).lateUses_run _ ((m.mounted_run w).trans hw)).trans (m.lateUses_run w hw)
  prefix_run w := (m.prefix_run w).trans ((next _).prefix_run _)

/-- `throw`. -/
protected def throw (e : Thrown ε) : Handler σ κ ε α where
  run w := (.error e, w)
  mounted_run _ := rfl
  lateUses_run _ _ := rfl
  prefix_run _ := List.prefix_rfl

/-- A statement after another one. -/
protected def bind (m : Handler σ κ ε α) (f : α → Handler σ κ ε β) : Handler σ κ ε β :=
  m.after fun
    | .ok a => f a
    | .error e => Handler.throw e

/-- `try` and `catch`. -/
protected def tryCatch (m : Handler σ κ ε α) (handle : Thrown ε → Handler σ κ ε α) :
    Handler σ κ ε α :=
  m.after fun
    | .ok a => Handler.pure a
    | .error e => handle e

instance : Monad (Handler σ κ ε) where
  pure := Handler.pure
  bind := Handler.bind

instance : MonadExceptOf (Thrown ε) (Handler σ κ ε) where
  throw := Handler.throw
  tryCatch := Handler.tryCatch

/-- A computation that may throw and does not involve the widget. -/
instance : MonadLift (Except ε) (Handler σ κ ε) where
  monadLift
    | .ok a => Handler.pure a
    | .error e => Handler.throw (.error e)

end Handler

/-! ### Operations -/

/-- A use of the widget, which throws after the removal. -/
def use (u : Use) : Handler σ κ ε Unit where
  run w :=
    if w.mounted then (.ok (), w)
    else (.error (.disposed u), { w with lateUses := w.lateUses ++ [u] })
  mounted_run w := by split <;> rfl
  lateUses_run w hw := by rw [if_pos hw]
  prefix_run w := by
    split
    · exact List.prefix_rfl
    · exact List.prefix_append _ _

/-- A use of the context. -/
def context : Handler σ κ ε Unit := use .context

/-- Assignments to fields, such as the closure of a `setState`. If they throw, those that have been
made stay. -/
def update (f : ExceptT ε (StateM σ) Unit) : Handler σ κ ε Unit where
  run w := ((f.run w.state).1.mapError .error, { w with state := (f.run w.state).2 })
  mounted_run _ := rfl
  lateUses_run _ _ := rfl
  prefix_run _ := List.prefix_rfl

/-- `setState`. After the removal it throws before it calls its closure. -/
def setState (f : ExceptT ε (StateM σ) Unit) : Handler σ κ ε Unit := do
  use .setState
  update f

/-- The fields of the state, which can still be read after the removal. -/
def fields : Handler σ κ ε σ where
  run w := (.ok w.state, w)
  mounted_run _ := rfl
  lateUses_run _ _ := rfl
  prefix_run _ := List.prefix_rfl

/-- The handler issues a call and waits for it. -/
def await (call : κ) : Handler σ κ ε Unit where
  run w := (.ok (), { w with calls := w.calls ++ [call] })
  mounted_run _ := rfl
  lateUses_run _ _ := rfl
  prefix_run _ := List.prefix_rfl

/-- A handler is called and not waited for. What it throws does not reach the caller. -/
def fork (m : Handler σ κ ε Unit) : Handler σ κ ε Unit :=
  m.after fun _ => Handler.pure ()

/-! ### Screens -/

/-- The handlers of a widget. `Reply c` is what the call `c` can complete with. The handlers that
`start` gives are called while the widget is mounted, the `detached` ones also afterwards. -/
structure Screen (σ κ ι ε : Type) (Reply : κ → Type) where
  initial : σ
  initState : Handler σ κ ε Unit
  start : ι → Handler σ κ ε Unit
  detached : ι → Bool
  resume : (c : κ) → Reply c → Handler σ κ ε Unit

/-- What can happen next: a handler is called, the call at position `n` completes, or the widget is
removed. -/
inductive Event (κ ι : Type) (Reply : κ → Type) where
  | started (i : ι)
  | completed (n : ℕ) (call : κ) (reply : Reply call)
  | removed

/-- A widget, and the exceptions with which its handlers have ended, oldest first. -/
structure System (σ κ ε : Type) extends Widget σ κ where
  escaped : List (Thrown ε)

/-- The exception that a stretch ends with, if any. -/
def thrown : Except (Thrown ε) Unit → List (Thrown ε)
  | .ok _ => []
  | .error e => [e]

/-- A stretch is run. -/
def exec (m : Handler σ κ ε Unit) (s : System σ κ ε) : System σ κ ε :=
  { toWidget := (m.run s.toWidget).2, escaped := s.escaped ++ thrown (m.run s.toWidget).1 }

variable {Reply : κ → Type}

namespace Screen

/-- The widget that has just been built. -/
def opened (S : Screen σ κ ι ε Reply) : System σ κ ε :=
  exec S.initState
    { state := S.initial, mounted := true, calls := [], lateUses := [], escaped := [] }

/-- One step. -/
def step [DecidableEq κ] (S : Screen σ κ ι ε Reply) (s : System σ κ ε) :
    Event κ ι Reply → Option (System σ κ ε)
  | .started i => if s.mounted ∨ S.detached i then some (exec (S.start i) s) else none
  | .completed n call reply =>
    (Outstanding.complete s.calls n).bind fun c =>
      if c.1 = call then some (exec (S.resume call reply) { s with calls := c.2 }) else none
  | .removed => if s.mounted then some { s with mounted := false } else none

variable [DecidableEq κ] {S : Screen σ κ ι ε Reply} {s : System σ κ ε}

theorem step_started (i : ι) (h : s.mounted = true) :
    S.step s (.started i) = some (exec (S.start i) s) :=
  if_pos (.inl h)

theorem step_completed {n : ℕ} {c : κ} {rest : List κ}
    (h : Outstanding.complete s.calls n = some (c, rest)) (reply : Reply c) :
    S.step s (.completed n c reply) = some (exec (S.resume c reply) { s with calls := rest }) := by
  rw [step, h, Option.bind_some, if_pos rfl]

theorem run_started (i : ι) (h : s.mounted = true) :
    EventRun.run S.step s [.started i] = some (exec (S.start i) s) :=
  (EventRun.run_singleton _ _).trans (step_started i h)

theorem run_completed {n : ℕ} {c : κ} {rest : List κ}
    (h : Outstanding.complete s.calls n = some (c, rest)) (reply : Reply c) :
    EventRun.run S.step s [.completed n c reply] =
      some (exec (S.resume c reply) { s with calls := rest }) :=
  (EventRun.run_singleton _ _).trans (step_completed h reply)

theorem run_removed (h : s.mounted = true) :
    EventRun.run S.step s [.removed] = some { s with mounted := false } :=
  (EventRun.run_singleton _ _).trans (if_pos h)

end Screen

/-- No use was late and, for a widget whose handlers are to catch everything, no exception has
escaped. -/
def Clean (catches : Bool) (s : System σ κ ε) : Prop :=
  s.lateUses = [] ∧ (catches = true → s.escaped = [])

/-- After the removal calls complete only with quiet replies. -/
def QuietAfterRemoval (quiet : (c : κ) → Reply c → Prop) (s : System σ κ ε) :
    Event κ ι Reply → Prop
  | .completed _ call reply => s.mounted = true ∨ quiet call reply
  | .started _ | .removed => True

/-! ### Stretches after the removal -/

/-- After the removal the stretch makes no use of the widget. -/
def Silent (m : Handler σ κ ε α) : Prop :=
  ∀ w, w.mounted = false → (m.run w).2.lateUses = w.lateUses

/-- After the removal the stretch uses the widget. -/
def Late (m : Handler σ κ ε α) : Prop :=
  ∀ w, w.mounted = false → w.lateUses.length < (m.run w).2.lateUses.length

/-- After the removal the stretch throws. -/
def Fails (m : Handler σ κ ε α) : Prop :=
  ∀ w, w.mounted = false → ∃ e, (m.run w).1 = .error e

/-- The stretch throws after a late use only. -/
def Contained (m : Handler σ κ ε α) : Prop :=
  ∀ w e, (m.run w).1 = .error e → w.lateUses.length < (m.run w).2.lateUses.length

theorem Handler.length_run (m : Handler σ κ ε α) (w : Widget σ κ) :
    w.lateUses.length ≤ (m.run w).2.lateUses.length :=
  (m.prefix_run w).length_le

theorem Handler.ext {m m' : Handler σ κ ε α} (h : ∀ w, m.run w = m'.run w) : m = m' := by
  obtain ⟨run, _, _, _⟩ := m
  obtain ⟨run', _, _, _⟩ := m'
  obtain rfl : run = run' := funext h
  rfl

theorem Handler.run_bind (m : Handler σ κ ε α) (f : α → Handler σ κ ε β) (w : Widget σ κ) :
    (m >>= f).run w = match (m.run w).1 with
      | .ok a => (f a).run (m.run w).2
      | .error e => (.error e, (m.run w).2) := by
  change (Handler.bind m f).run w = _
  simp only [Handler.bind, Handler.after]
  cases (m.run w).1 <;> rfl

theorem Handler.run_tryCatch (m : Handler σ κ ε α) (handle : Thrown ε → Handler σ κ ε α)
    (w : Widget σ κ) :
    (tryCatch m handle).run w = match (m.run w).1 with
      | .ok a => (.ok a, (m.run w).2)
      | .error e => (handle e).run (m.run w).2 := by
  change (Handler.tryCatch m handle).run w = _
  simp only [Handler.tryCatch, Handler.after]
  cases (m.run w).1 <;> rfl

@[simp] theorem Handler.run_lift_ok (a : α) (w : Widget σ κ) :
    (liftM (Except.ok a : Except ε α) : Handler σ κ ε α).run w = (.ok a, w) := rfl

@[simp] theorem Handler.run_lift_error (e : ε) (w : Widget σ κ) :
    (liftM (Except.error e : Except ε α) : Handler σ κ ε α).run w = (.error (.error e), w) := rfl

theorem Handler.run_ok_bind (f : α → Handler σ κ ε β) (a : α) (w : Widget σ κ) :
    (liftM (Except.ok a : Except ε α) >>= f : Handler σ κ ε β).run w = (f a).run w := rfl

theorem Handler.run_error_bind (f : α → Handler σ κ ε β) (e : ε) (w : Widget σ κ) :
    (liftM (Except.error e : Except ε α) >>= f : Handler σ κ ε β).run w =
      (.error (.error e), w) := rfl

theorem run_fork (m : Handler σ κ ε Unit) (w : Widget σ κ) :
    (fork m).run w = (.ok (), (m.run w).2) := rfl

theorem run_use_of_removed (u : Use) {w : Widget σ κ} (hw : w.mounted = false) :
    (use u : Handler σ κ ε Unit).run w =
      (.error (.disposed u), { w with lateUses := w.lateUses ++ [u] }) := by
  simp [use, hw]

/-- On a mounted widget `setState` calls its closure. -/
theorem run_setState (f : ExceptT ε (StateM σ) Unit) {w : Widget σ κ} (hw : w.mounted = true) :
    (setState f : Handler σ κ ε Unit).run w =
      ((f.run w.state).1.mapError .error, { w with state := (f.run w.state).2 }) := by
  simp only [setState, Handler.run_bind, use, hw, if_true, update]

theorem silent_update (f : ExceptT ε (StateM σ) Unit) : Silent (update f : Handler σ κ ε Unit) :=
  fun _ _ => rfl

theorem silent_lift (x : Except ε α) : Silent (liftM x : Handler σ κ ε α) := by
  cases x <;> exact fun _ _ => rfl

theorem Silent.bind {m : Handler σ κ ε α} (hm : Silent m) {f : α → Handler σ κ ε β}
    (hf : ∀ a, Silent (f a)) : Silent (m >>= f) := by
  intro w hw
  rw [Handler.run_bind]
  cases (m.run w).1 with
  | ok a => exact (hf a _ ((m.mounted_run w).trans hw)).trans (hm w hw)
  | error e => exact hm w hw

theorem late_use (u : Use) : Late (use u : Handler σ κ ε Unit) := by
  intro w hw
  rw [run_use_of_removed u hw, List.length_append]
  exact Nat.lt_succ_self _

theorem fails_use (u : Use) : Fails (use u : Handler σ κ ε Unit) := fun w hw =>
  ⟨.disposed u, by rw [run_use_of_removed u hw]⟩

theorem fails_lift (e : ε) : Fails (liftM (Except.error e : Except ε α) : Handler σ κ ε α) :=
  fun _ _ => ⟨.error e, rfl⟩

theorem fails_throw (e : Thrown ε) : Fails (throw e : Handler σ κ ε α) := fun _ _ => ⟨e, rfl⟩

theorem Fails.bind {m : Handler σ κ ε α} (h : Fails m) (f : α → Handler σ κ ε β) :
    Fails (m >>= f) := by
  intro w hw
  obtain ⟨e, he⟩ := h w hw
  exact ⟨e, by rw [Handler.run_bind, he]⟩

/-- What comes before a stretch that throws does not matter. -/
theorem fails_bind (m : Handler σ κ ε α) {f : α → Handler σ κ ε β} (h : ∀ a, Fails (f a)) :
    Fails (m >>= f) := by
  intro w hw
  rw [Handler.run_bind]
  cases (m.run w).1 with
  | ok a => exact h a _ ((m.mounted_run w).trans hw)
  | error e => exact ⟨e, rfl⟩

theorem Late.bind {m : Handler σ κ ε α} (h : Late m) (f : α → Handler σ κ ε β) :
    Late (m >>= f) := by
  intro w hw
  refine Nat.lt_of_lt_of_le (h w hw) ?_
  rw [Handler.run_bind]
  cases (m.run w).1 with
  | ok a => exact (f a).length_run _
  | error e => exact Nat.le_refl _

/-- Where a computation that does not involve the widget throws, so does what it is part of. -/
theorem fails_lift_bind {x : Except ε α} {f : α → Handler σ κ ε β}
    (h : ∀ a, x = .ok a → Fails (f a)) : Fails (liftM x >>= f) := by
  cases x with
  | ok a => exact fun w hw => h a rfl w hw
  | error e => exact (fails_lift e).bind f

theorem late_lift_bind {a : α} {f : α → Handler σ κ ε β} (h : Late (f a)) :
    Late (liftM (Except.ok a : Except ε α) >>= f) :=
  fun w hw => h w hw

/-- What comes before a late use and does not throw does not matter. -/
theorem late_bind {m : Handler σ κ ε α} {f : α → Handler σ κ ε β}
    (hm : ∀ w, ∃ a, (m.run w).1 = .ok a) (hf : ∀ a, Late (f a)) : Late (m >>= f) := by
  intro w hw
  obtain ⟨a, ha⟩ := hm w
  rw [Handler.run_bind, ha]
  exact Nat.lt_of_le_of_lt (m.length_run w) (hf a _ ((m.mounted_run w).trans hw))

theorem late_setState (f : ExceptT ε (StateM σ) Unit) : Late (setState f : Handler σ κ ε Unit) :=
  (late_use .setState).bind _

theorem fails_setState (f : ExceptT ε (StateM σ) Unit) : Fails (setState f : Handler σ κ ε Unit) :=
  (fails_use .setState).bind _

/-- No `catch` takes a late use back. -/
theorem Late.tryCatch {m : Handler σ κ ε α} (h : Late m) (handle : Thrown ε → Handler σ κ ε α) :
    Late (tryCatch m handle) := by
  intro w hw
  refine Nat.lt_of_lt_of_le (h w hw) ?_
  rw [Handler.run_tryCatch]
  cases (m.run w).1 with
  | ok a => exact Nat.le_refl _
  | error e => exact (handle e).length_run _

/-- A `catch` that uses the widget, behind a `try` that throws. -/
theorem late_tryCatch {m : Handler σ κ ε α} {handle : Thrown ε → Handler σ κ ε α} (hm : Fails m)
    (hhandle : ∀ e, Late (handle e)) : Late (tryCatch m handle) := by
  intro w hw
  obtain ⟨e, he⟩ := hm w hw
  rw [Handler.run_tryCatch, he]
  exact Nat.lt_of_le_of_lt (m.length_run w) (hhandle e _ ((m.mounted_run w).trans hw))

/-- A `catch` whose own exceptions come from late uses. -/
theorem contained_tryCatch (m : Handler σ κ ε α) {handle : Thrown ε → Handler σ κ ε α}
    (hhandle : ∀ e, Contained (handle e)) : Contained (tryCatch m handle) := by
  intro w e he
  rw [Handler.run_tryCatch] at he ⊢
  cases hm : (m.run w).1 with
  | ok a => simp only [hm, reduceCtorEq] at he
  | error e' =>
    simp only [hm] at he ⊢
    exact Nat.lt_of_le_of_lt (m.length_run w) (hhandle e' _ e he)

/-- A `setState` whose closure does not throw. -/
theorem contained_setState {f : ExceptT ε (StateM σ) Unit} (hf : ∀ s, (f.run s).1 = .ok ()) :
    Contained (setState f : Handler σ κ ε Unit) := by
  intro w e he
  cases hw : w.mounted with
  | false => exact late_setState f w hw
  | true =>
    rw [run_setState f hw, hf] at he
    cases he

theorem contained_of_ok {m : Handler σ κ ε α} (h : ∀ w, ∃ a, (m.run w).1 = .ok a) :
    Contained m := by
  intro w e he
  obtain ⟨a, ha⟩ := h w
  cases ha.symm.trans he

theorem Contained.bind {m : Handler σ κ ε α} (hm : Contained m) {f : α → Handler σ κ ε β}
    (hf : ∀ a, Contained (f a)) : Contained (m >>= f) := by
  intro w e he
  rw [Handler.run_bind] at he ⊢
  cases hrun : (m.run w).1 with
  | ok a =>
    simp only [hrun] at he ⊢
    exact Nat.lt_of_le_of_lt (m.length_run w) (hf a _ e he)
  | error e' =>
    simp only [hrun] at he ⊢
    exact hm w e' hrun

/-! ### Calls of a stretch -/

/-- The stretch issues calls that satisfy `p` only. -/
def Issues (p : κ → Prop) (m : Handler σ κ ε α) : Prop :=
  ∀ w, ∃ added, (m.run w).2.calls = w.calls ++ added ∧ ∀ c ∈ added, p c

variable {p : κ → Prop}

/-- A stretch without calls. -/
theorem issues_of_calls {m : Handler σ κ ε α} (h : ∀ w, (m.run w).2.calls = w.calls) :
    Issues p m :=
  fun w => ⟨[], (h w).trans (List.append_nil _).symm, by rintro _ ⟨⟩⟩

theorem issues_await {call : κ} (h : p call) : Issues p (await call : Handler σ κ ε Unit) :=
  fun _ => ⟨[call], rfl, fun _ hc => List.mem_singleton.mp hc ▸ h⟩

theorem issues_use (u : Use) : Issues p (use u : Handler σ κ ε Unit) :=
  issues_of_calls fun w => by
    simp only [use]
    split <;> rfl

theorem issues_update (f : ExceptT ε (StateM σ) Unit) :
    Issues p (update f : Handler σ κ ε Unit) :=
  issues_of_calls fun _ => rfl

theorem issues_lift (x : Except ε α) : Issues p (liftM x : Handler σ κ ε α) :=
  issues_of_calls fun w => by cases x <;> rfl

/-- A stretch and what follows it. -/
theorem Issues.after {m : Handler σ κ ε α} (hm : Issues p m)
    {next : Except (Thrown ε) α → Handler σ κ ε β} (h : ∀ r, Issues p (next r)) :
    Issues p (m.after next) := by
  intro w
  obtain ⟨first, hfirst, hp⟩ := hm w
  obtain ⟨second, hsecond, hp'⟩ := h (m.run w).1 (m.run w).2
  refine ⟨first ++ second, ?_, fun c hc => (List.mem_append.mp hc).elim (hp c) (hp' c)⟩
  rw [← List.append_assoc, ← hfirst]
  exact hsecond

theorem Issues.bind {m : Handler σ κ ε α} (hm : Issues p m) {f : α → Handler σ κ ε β}
    (hf : ∀ a, Issues p (f a)) : Issues p (m >>= f) := by
  change Issues p (Handler.bind m f)
  unfold Handler.bind
  refine hm.after fun r => ?_
  cases r with
  | ok a => exact hf a
  | error e => exact issues_of_calls fun _ => rfl

theorem Issues.tryCatch {m : Handler σ κ ε α} (hm : Issues p m)
    {handle : Thrown ε → Handler σ κ ε α} (hhandle : ∀ e, Issues p (handle e)) :
    Issues p (tryCatch m handle) := by
  change Issues p (Handler.tryCatch m handle)
  unfold Handler.tryCatch
  refine hm.after fun r => ?_
  cases r with
  | ok a => exact issues_of_calls fun _ => rfl
  | error e => exact hhandle e

theorem Issues.fork {m : Handler σ κ ε Unit} (hm : Issues p m) : Issues p (fork m) :=
  hm.after fun _ => issues_of_calls fun _ => rfl

theorem issues_setState (f : ExceptT ε (StateM σ) Unit) :
    Issues p (setState f : Handler σ κ ε Unit) :=
  (issues_use .setState).bind fun _ => issues_update f

/-! ### Runs -/

/-- A table of the replies on which the handlers of a screen do not use a widget that is gone. -/
structure Screen.QuietTable (S : Screen σ κ ι ε Reply) (quiet : (c : κ) → Reply c → Prop) :
    Prop where
  silent : ∀ c r, quiet c r → Silent (S.resume c r)
  late : ∀ c r, ¬ quiet c r → Late (S.resume c r)
  detached : ∀ i, S.detached i = true → Silent (S.start i)

/-- The handlers of a screen throw after late uses only. -/
structure Screen.Catches (S : Screen σ κ ι ε Reply) : Prop where
  initState : Contained S.initState
  start : ∀ i, Contained (S.start i)
  resume : ∀ c r, Contained (S.resume c r)

theorem clean_exec {catches : Bool} {s : System σ κ ε} {m : Handler σ κ ε Unit}
    (hs : Clean catches s) (hsame : (m.run s.toWidget).2.lateUses = s.lateUses)
    (hm : catches = true → Contained m) : Clean catches (exec m s) := by
  refine ⟨hsame.trans hs.1, fun hcatches => ?_⟩
  cases hrun : (m.run s.toWidget).1 with
  | ok =>
    simp only [exec, hrun, thrown, List.append_nil]
    exact hs.2 hcatches
  | error e =>
    have hlate := hm hcatches _ e hrun
    rw [hsame] at hlate
    exact absurd hlate (Nat.lt_irrefl _)

variable {S : Screen σ κ ι ε Reply} {quiet : (c : κ) → Reply c → Prop} {catches : Bool}

namespace Screen

theorem lateUses_run_of_quiet (hquiet : S.QuietTable quiet) {w : Widget σ κ} {c : κ} {r : Reply c}
    (h : w.mounted = true ∨ quiet c r) : ((S.resume c r).run w).2.lateUses = w.lateUses := by
  cases hw : w.mounted with
  | true => exact (S.resume c r).lateUses_run w hw
  | false => exact hquiet.silent c r (h.resolve_left (by simp [hw])) w hw

variable [DecidableEq κ]

theorem clean_step (hquiet : S.QuietTable quiet) (hcatches : catches = true → S.Catches)
    {s t : System σ κ ε} {e : Event κ ι Reply} (hs : Clean catches s)
    (he : QuietAfterRemoval quiet s e) (hstep : S.step s e = some t) : Clean catches t := by
  cases e with
  | started i =>
    simp only [step, Option.ite_none_right_eq_some, Option.some.injEq] at hstep
    obtain ⟨hstart, rfl⟩ := hstep
    refine clean_exec hs ?_ fun h => (hcatches h).start i
    cases hw : s.mounted with
    | true => exact (S.start i).lateUses_run _ hw
    | false => exact hquiet.detached i (hstart.resolve_left (by simp [hw])) _ hw
  | completed n call reply =>
    obtain ⟨⟨c, rest⟩, -, hstep⟩ := Option.bind_eq_some_iff.mp hstep
    simp only [Option.ite_none_right_eq_some, Option.some.injEq] at hstep
    obtain ⟨-, rfl⟩ := hstep
    exact clean_exec hs (lateUses_run_of_quiet hquiet he) fun h => (hcatches h).resume call reply
  | removed =>
    simp only [step, Option.ite_none_right_eq_some, Option.some.injEq] at hstep
    obtain ⟨-, rfl⟩ := hstep
    exact hs

/-- A reply that is not quiet leads to a late use. -/
theorem not_clean_step (hquiet : S.QuietTable quiet) {s t : System σ κ ε} {e : Event κ ι Reply}
    (he : ¬ QuietAfterRemoval quiet s e) (hstep : S.step s e = some t) : ¬ Clean catches t := by
  cases e with
  | started | removed => exact absurd trivial he
  | completed n call reply =>
    obtain ⟨⟨c, rest⟩, -, hstep⟩ := Option.bind_eq_some_iff.mp hstep
    simp only [Option.ite_none_right_eq_some, Option.some.injEq] at hstep
    obtain ⟨-, rfl⟩ := hstep
    obtain ⟨hmounted, hreply⟩ := not_or.mp he
    have hlate := hquiet.late call reply hreply { s.toWidget with calls := rest }
      (Bool.not_eq_true _ ▸ hmounted)
    intro hclean
    have hnone : ((S.resume call reply).run { s.toWidget with calls := rest }).2.lateUses = [] :=
      hclean.1
    rw [hnone] at hlate
    exact absurd hlate (Nat.not_lt_zero _)

/-- A run of a screen is clean exactly when its calls are quiet after the removal. -/
theorem along_clean_iff (hquiet : S.QuietTable quiet) (hcatches : catches = true → S.Catches)
    (es : List (Event κ ι Reply)) :
    EventRun.Along S.step (Clean catches) S.opened es ↔
      EventRun.Meets S.step (QuietAfterRemoval quiet) S.opened es := by
  have hopened : Clean catches S.opened :=
    clean_exec ⟨rfl, fun _ => rfl⟩ (S.initState.lateUses_run _ rfl) fun h => (hcatches h).initState
  exact EventRun.along_iff_meets (fun _ _ _ => clean_step hquiet hcatches) (fun _ h => h)
    (fun _ _ _ _ => not_clean_step hquiet) hopened

/-! ### Invariants of screens -/

/-- A property of the widget that holds when it has been built, and that the stretches and the
removal keep. -/
structure Keeps (S : Screen σ κ ι ε Reply) (I : Widget σ κ → Prop) : Prop where
  opened : I S.opened.toWidget
  start : ∀ i w, w.mounted = true ∨ S.detached i = true → I w → I ((S.start i).run w).2
  resume : ∀ c r w rest, w.calls.Perm (c :: rest) → I w →
    I ((S.resume c r).run { w with calls := rest }).2
  removed : ∀ w, I w → I { w with mounted := false }

theorem keeps_step {I : Widget σ κ → Prop} (h : S.Keeps I) {s t : System σ κ ε}
    {e : Event κ ι Reply} (hs : I s.toWidget) (hstep : S.step s e = some t) : I t.toWidget := by
  cases e with
  | started i =>
    simp only [step, Option.ite_none_right_eq_some, Option.some.injEq] at hstep
    obtain ⟨hstart, rfl⟩ := hstep
    exact h.start i s.toWidget hstart hs
  | completed n call reply =>
    obtain ⟨⟨c, rest⟩, hcall, hstep⟩ := Option.bind_eq_some_iff.mp hstep
    simp only [Option.ite_none_right_eq_some, Option.some.injEq] at hstep
    obtain ⟨rfl, rfl⟩ := hstep
    exact h.resume c reply s.toWidget rest (Outstanding.perm_of_complete hcall) hs
  | removed =>
    simp only [step, Option.ite_none_right_eq_some, Option.some.injEq] at hstep
    obtain ⟨-, rfl⟩ := hstep
    exact h.removed s.toWidget hs

/-- What the stretches keep holds in every state of every run. -/
theorem keeps_run {I : Widget σ κ → Prop} (h : S.Keeps I) {es : List (Event κ ι Reply)}
    {s : System σ κ ε} (hrun : EventRun.run S.step S.opened es = some s) : I s.toWidget :=
  EventRun.invariant_run (I := fun s : System σ κ ε => I s.toWidget)
    (fun _ _ _ => keeps_step h) h.opened hrun

end Screen

end AsyncWidget
