import Mathlib.Data.List.Basic
import Mathlib.Logic.Basic

/-!
# Runs of event-driven systems

A system that waits for events is given by a partial function `step : σ → ε → Option σ`: the
state an event leads to, `none` when the event cannot happen. Everything that varies from one
execution to another (which user action comes next, which outstanding call completes and with what
result) is part of the event, so a run is a list of events.

Two ways of restricting or observing a run are provided. `Meets step C s es` says that every event
of the run satisfies `C`, a condition on the state it happens in and the event; `Along step P s es`
says that every state of the run satisfies `P`. The rules below turn facts about one step into
facts about runs.

## Main definitions

* `EventRun.run` : the state a list of events leads to.
* `EventRun.Meets`, `EventRun.Along` : conditions on the steps and on the states of a run.
* `EventRun.Occurred` : a step of a kind has been taken in a run.
* `EventRun.outputs` : what the steps of a run put out.
* `EventRun.Simulates` : the steps of one system are matched by those of another.

## Main results

* `EventRun.invariant_run`, `EventRun.invariant_of_meets` : invariants of all runs, and of the runs
  whose steps meet a condition.
* `EventRun.invariant_history`, `EventRun.invariant_past` : invariants that involve the events so
  far.
* `EventRun.along_of_meets`, `EventRun.along_iff_meets` : a state property that holds along a run
  exactly when every step meets a condition.
* `EventRun.Simulates.run`, `EventRun.run_flatMap`, `EventRun.rel_run` : runs are matched by runs.
-/

namespace EventRun

variable {σ ε : Type*} (step : σ → ε → Option σ)

/-- The state that the events `es` lead to from `s`, `none` if one of them cannot happen. -/
def run : σ → List ε → Option σ
  | s, [] => some s
  | s, e :: es => (step s e).bind fun t => run t es

/-- Every event of the run `es` from `s` satisfies `C` in the state it happens in. -/
def Meets (C : σ → ε → Prop) : σ → List ε → Prop
  | _, [] => True
  | s, e :: es => ∀ t, step s e = some t → C s e ∧ Meets C t es

/-- Every state of the run `es` from `s`, the first one included, satisfies `P`. -/
def Along (P : σ → Prop) : σ → List ε → Prop
  | s, [] => P s
  | s, e :: es => P s ∧ ∀ t, step s e = some t → Along P t es

/-- In the run `es` from `s` an event has been taken that satisfies `P` in the state it happened in.
-/
def Occurred (P : σ → ε → Prop) (s : σ) (es : List ε) : Prop :=
  ∃ before e after t, es = before ++ e :: after ∧ run step s before = some t ∧ P t e

/-- What the steps of the run `es` from `s` put out, in order. -/
def outputs {ω : Type*} (out : σ → ε → List ω) : σ → List ε → List ω
  | _, [] => []
  | s, e :: es => out s e ++ (step s e).elim [] fun t => outputs out t es

variable {step}

theorem run_cons (s : σ) (e : ε) (es : List ε) :
    run step s (e :: es) = (step s e).bind fun t => run step t es := rfl

theorem run_cons_eq_some {s t : σ} {e : ε} {es : List ε} :
    run step s (e :: es) = some t ↔ ∃ u, step s e = some u ∧ run step u es = some t := by
  rw [run_cons, Option.bind_eq_some_iff]

theorem run_singleton (s : σ) (e : ε) : run step s [e] = step s e :=
  Option.bind_fun_some _

theorem run_append (s : σ) (es es' : List ε) :
    run step s (es ++ es') = (run step s es).bind fun t => run step t es' := by
  induction es generalizing s with
  | nil => rfl
  | cons e es ih =>
    rw [List.cons_append, run_cons, run_cons, Option.bind_assoc]
    exact Option.bind_congr fun t _ => ih t

/-! ### Invariants -/

/-- A property that every step preserves holds at the end of every run that starts in it. -/
theorem invariant_run {I : σ → Prop} (hstep : ∀ s e t, I s → step s e = some t → I t)
    {s t : σ} {es : List ε} (hs : I s) (hrun : run step s es = some t) : I t := by
  induction es generalizing s with
  | nil =>
    obtain rfl := Option.some.inj hrun
    exact hs
  | cons e es ih =>
    obtain ⟨u, hu, hrest⟩ := run_cons_eq_some.mp hrun
    exact ih (hstep s e u hs hu) hrest

/-- A property of the state and of the events so far. -/
theorem invariant_history {I : List ε → σ → Prop}
    (hstep : ∀ past s e t, I past s → step s e = some t → I (past ++ [e]) t) {s t : σ}
    {past es : List ε} (hs : I past s) (hrun : run step s es = some t) : I (past ++ es) t := by
  induction es generalizing s past with
  | nil =>
    obtain rfl := Option.some.inj hrun
    rwa [List.append_nil]
  | cons e es ih =>
    obtain ⟨u, hu, hrest⟩ := run_cons_eq_some.mp hrun
    have htail := ih (hstep past s e u hs hu) hrest
    rwa [List.append_assoc] at htail

/-- A property of the state and of the events so far, which lead to the state from `a`. -/
theorem invariant_past {a : σ} {I : List ε → σ → Prop}
    (hstep : ∀ past s e t, run step a past = some s → I past s → step s e = some t →
      I (past ++ [e]) t) {t : σ} {es : List ε} (ha : I [] a) (hrun : run step a es = some t) :
    I es t := by
  have hinv : run step a ([] ++ es) = some t ∧ I ([] ++ es) t := by
    refine invariant_history (I := fun past s => run step a past = some s ∧ I past s)
      (fun past s e t h hnext => ⟨?_, hstep past s e t h.1 h.2 hnext⟩) ⟨rfl, ha⟩ hrun
    rw [run_append, h.1, Option.bind_some, run_cons, hnext]
    rfl
  exact hinv.2

/-! ### What has happened in a run -/

/-- What has happened in a run has happened in every longer one. -/
theorem Occurred.append {P : σ → ε → Prop} {s : σ} {es : List ε} (h : Occurred step P s es)
    (es' : List ε) : Occurred step P s (es ++ es') := by
  obtain ⟨before, e, after, t, rfl, hrun, he⟩ := h
  exact ⟨before, e, after ++ es', t, by rw [List.append_assoc, List.cons_append], hrun, he⟩

/-- What has happened in a run that is one event longer. -/
theorem occurred_concat_iff {P : σ → ε → Prop} {s t : σ} {es : List ε} {e : ε}
    (hrun : run step s es = some t) :
    Occurred step P s (es ++ [e]) ↔ Occurred step P s es ∨ P t e := by
  constructor
  · rintro ⟨before, e', after, u, heq, hbefore, he'⟩
    rcases List.eq_nil_or_concat after with rfl | ⟨after, last, rfl⟩
    · obtain ⟨rfl, hlast⟩ := List.append_inj' heq rfl
      obtain rfl := List.cons.inj hlast |>.1
      obtain rfl := Option.some.inj (hbefore.symm.trans hrun)
      exact .inr he'
    · rw [List.concat_eq_append, ← List.cons_append, ← List.append_assoc] at heq
      exact .inl ⟨before, e', after, u, (List.append_inj' heq rfl).1, hbefore, he'⟩
  · rintro (h | he)
    · exact h.append [e]
    · exact ⟨es, e, [], t, rfl, hrun, he⟩

theorem outputs_concat {ω : Type*} {out : σ → ε → List ω} {s t : σ} {es : List ε}
    (hrun : run step s es = some t) (e : ε) :
    outputs step out s (es ++ [e]) = outputs step out s es ++ out t e := by
  induction es generalizing s with
  | nil =>
    obtain rfl := Option.some.inj hrun
    rw [List.nil_append, outputs, outputs, List.nil_append]
    cases step s e <;> exact List.append_nil _
  | cons first es ih =>
    obtain ⟨u, hu, hrest⟩ := run_cons_eq_some.mp hrun
    rw [List.cons_append, outputs, outputs, hu, Option.elim_some, Option.elim_some, ih hrest,
      List.append_assoc]

variable {C : σ → ε → Prop}

/-- A property that every step meeting `C` preserves holds at the end of every run that starts
in it and whose steps all meet `C`. -/
theorem invariant_of_meets {I : σ → Prop}
    (hstep : ∀ s e t, I s → C s e → step s e = some t → I t)
    {s t : σ} {es : List ε} (hs : I s) (hC : Meets step C s es) (hrun : run step s es = some t) :
    I t := by
  induction es generalizing s with
  | nil =>
    obtain rfl := Option.some.inj hrun
    exact hs
  | cons e es ih =>
    obtain ⟨u, hu, hrest⟩ := run_cons_eq_some.mp hrun
    obtain ⟨he, htail⟩ := hC u hu
    exact ih (hstep s e u hs he hu) htail hrest

/-- A number that only certain events raise, each by one at most, counts these events. -/
theorem le_add_countP_of_run {f : σ → ℕ} {p : ε → Bool}
    (hstep : ∀ s e t, step s e = some t → f t ≤ f s + if p e then 1 else 0) {s t : σ}
    {es : List ε} (hrun : run step s es = some t) : f t ≤ f s + es.countP p := by
  induction es generalizing s with
  | nil =>
    obtain rfl := Option.some.inj hrun
    exact Nat.le_refl _
  | cons e es ih =>
    obtain ⟨u, hu, hrest⟩ := run_cons_eq_some.mp hrun
    have hfirst := hstep s e u hu
    have htail := ih hrest
    rw [List.countP_cons]
    omega

/-! ### Steps and states of a run -/

theorem meets_append {s t : σ} {es es' : List ε} (h : Meets step C s (es ++ es'))
    (hrun : run step s es = some t) : Meets step C s es ∧ Meets step C t es' := by
  induction es generalizing s with
  | nil =>
    obtain rfl := Option.some.inj hrun
    exact ⟨trivial, h⟩
  | cons e es ih =>
    obtain ⟨u, hu, hrest⟩ := run_cons_eq_some.mp hrun
    refine ⟨fun v hv => ?_, (ih (h u hu).2 hrest).2⟩
    obtain rfl : u = v := Option.some.inj (hu.symm.trans hv)
    exact ⟨(h u hu).1, (ih (h u hu).2 hrest).1⟩

/-- A condition on the events alone is met by the runs whose events satisfy it. -/
theorem meets_of_forall {D : ε → Prop} {s : σ} {es : List ε} (h : ∀ e ∈ es, D e) :
    Meets step (fun _ e => D e) s es := by
  induction es generalizing s with
  | nil => trivial
  | cons e es ih =>
    exact fun t _ => ⟨h e List.mem_cons_self, ih fun e' he' => h e' (List.mem_cons_of_mem e he')⟩

/-- Two conditions that agree under an invariant are met by the same runs. -/
theorem meets_congr {I : σ → Prop} {D : σ → ε → Prop}
    (hstep : ∀ s e t, I s → step s e = some t → I t) (h : ∀ s e, I s → (C s e ↔ D s e)) {s : σ}
    (hs : I s) (es : List ε) : Meets step C s es ↔ Meets step D s es := by
  induction es generalizing s with
  | nil => exact Iff.rfl
  | cons e es ih => exact forall₂_congr fun t ht => and_congr (h s e hs) (ih (hstep s e t hs ht))

theorem Meets.cons {s t : σ} {e : ε} {es : List ε} (hstep : step s e = some t) (he : C s e)
    (htail : Meets step C t es) : Meets step C s (e :: es) := by
  intro u hu
  obtain rfl : t = u := Option.some.inj (hstep.symm.trans hu)
  exact ⟨he, htail⟩

/-- The last step of a run whose steps all meet `C` meets `C` in the state it starts from. -/
theorem Meets.last {s t u : σ} {es : List ε} {e : ε} (h : Meets step C s (es ++ [e]))
    (hrun : run step s es = some t) (hlast : step t e = some u) : C t e :=
  ((meets_append h hrun).2 u hlast).1

theorem Along.head {P : σ → Prop} {s : σ} {es : List ε} (h : Along step P s es) : P s := by
  cases es with
  | nil => exact h
  | cons e es => exact h.1

/-- What holds along a run holds where it ends. -/
theorem Along.of_run {P : σ → Prop} {s t : σ} {es : List ε} (h : Along step P s es)
    (hrun : run step s es = some t) : P t := by
  induction es generalizing s with
  | nil =>
    obtain rfl := Option.some.inj hrun
    exact h
  | cons e es ih =>
    obtain ⟨u, hu, hrest⟩ := run_cons_eq_some.mp hrun
    exact ih (h.2 u hu) hrest

/-- A property that holds in the first state and that every step meeting `C` establishes, given
an invariant, holds along every run whose steps meet `C`. -/
theorem along_of_meets {I P : σ → Prop} (hI : ∀ s e t, I s → C s e → step s e = some t → I t)
    (hP : ∀ s, I s → P s) {s : σ} {es : List ε} (hs : I s) (hC : Meets step C s es) :
    Along step P s es := by
  induction es generalizing s with
  | nil => exact hP s hs
  | cons e es ih =>
    refine ⟨hP s hs, fun t ht => ?_⟩
    obtain ⟨he, htail⟩ := hC t ht
    exact ih (hI s e t hs he ht) htail

/-- If moreover a step that does not meet `C` leads out of `P`, then `P` holds along a run exactly
when all its steps meet `C`. -/
theorem along_iff_meets {I P : σ → Prop} (hI : ∀ s e t, I s → C s e → step s e = some t → I t)
    (hP : ∀ s, I s → P s) (hbreak : ∀ s e t, I s → ¬ C s e → step s e = some t → ¬ P t)
    {s : σ} {es : List ε} (hs : I s) : Along step P s es ↔ Meets step C s es := by
  refine ⟨fun h => ?_, along_of_meets hI hP hs⟩
  induction es generalizing s with
  | nil => trivial
  | cons e es ih =>
    intro t ht
    have hrest : Along step P t es := h.2 t ht
    have he : C s e := by
      by_contra he
      exact hbreak s e t hs he ht hrest.head
    exact ⟨he, ih (hI s e t hs he ht) hrest⟩

/-! ### Simulations -/

/-- Every step that meets `C` is matched by events of the second system, which may be none. -/
def Simulates {τ δ : Type*} (step : σ → ε → Option σ) (step' : τ → δ → Option τ)
    (C : σ → ε → Prop) (R : σ → τ → Prop) : Prop :=
  ∀ s e t a, R s a → C s e → step s e = some t → ∃ es b, run step' a es = some b ∧ R t b

/-- A run whose steps meet `C` is matched by a run of the second system. -/
theorem Simulates.run {τ δ : Type*} {step' : τ → δ → Option τ} {R : σ → τ → Prop}
    (h : Simulates step step' C R) {s t : σ} {a : τ} {es : List ε} (hs : R s a)
    (hC : Meets step C s es) (hrun : run step s es = some t) :
    ∃ es' b, EventRun.run step' a es' = some b ∧ R t b := by
  induction es generalizing s a with
  | nil =>
    obtain rfl := Option.some.inj hrun
    exact ⟨[], a, rfl, hs⟩
  | cons e es ih =>
    obtain ⟨u, hu, hrest⟩ := run_cons_eq_some.mp hrun
    obtain ⟨he, htail⟩ := hC u hu
    obtain ⟨first, b, hfirst, hb⟩ := h s e u a hs he hu
    obtain ⟨rest, c, hlast, hc⟩ := ih hb htail hrest
    exact ⟨first ++ rest, c, by rw [run_append, hfirst, Option.bind_some, hlast], hc⟩

/-- If the events that match an event are known, so is the run that matches a run. -/
theorem run_flatMap {τ δ : Type*} {step' : τ → δ → Option τ} {R : σ → τ → Prop} {f : ε → List δ}
    (h : ∀ s e t a, R s a → step s e = some t → ∃ b, run step' a (f e) = some b ∧ R t b) {s t : σ}
    {a : τ} {es : List ε} (hs : R s a) (hrun : run step s es = some t) :
    ∃ b, run step' a (es.flatMap f) = some b ∧ R t b := by
  induction es generalizing s a with
  | nil =>
    obtain rfl := Option.some.inj hrun
    exact ⟨a, rfl, hs⟩
  | cons e es ih =>
    obtain ⟨u, hu, hrest⟩ := run_cons_eq_some.mp hrun
    obtain ⟨b, hfirst, hb⟩ := h s e u a hs hu
    obtain ⟨c, hlast, hc⟩ := ih hb hrest
    exact ⟨c, by rw [List.flatMap_cons, run_append, hfirst, Option.bind_some, hlast], hc⟩

/-- If two systems take the same events, in related states either both or none of them, then either
both take all events of a run and end in related states, or neither does. -/
theorem rel_run {τ δ : Type*} {step' : τ → δ → Option τ} {R : σ → τ → Prop} {f : ε → δ}
    (h : ∀ s a e, R s a → Option.Rel R (step s e) (step' a (f e))) {s : σ} {a : τ} (hs : R s a)
    (es : List ε) : Option.Rel R (run step s es) (run step' a (es.map f)) := by
  induction es generalizing s a with
  | nil => exact .some hs
  | cons e es ih =>
    have hfirst := h s a e hs
    rw [List.map_cons, run_cons, run_cons]
    generalize step s e = first, step' a (f e) = first' at hfirst ⊢
    cases hfirst with
    | some hnext => exact ih hnext
    | none => exact .none

end EventRun
