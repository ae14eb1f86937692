import SmartHome.Lib.EventRun

/-!
# Choosing level by level

A choice is made in levels: what can be chosen at a level depends on what is chosen above it, and a
new choice at a level drops those below it. A picker lists the options of a level. It opens at the
present choice of its level, or at the first option if there is none yet.

## Main definitions

* `Cascade.Path` : every choice is one of the options that the choices above it leave.
* `Cascade.Hierarchy`, `Cascade.State`, `Cascade.step`.
* `Cascade.Valid` : the choices are a path, and the picker stands at an option.

## Main results

* `Cascade.valid_step` : every event keeps what holds of a state.
* `Cascade.Valid.exists_option` : an open picker has an option to confirm.
-/

namespace Cascade

variable {α : Type*}

/-- Every choice is one of the options that the choices above it leave. -/
inductive Path (options : List α → List α) : List α → Prop
  | nil : Path options []
  | snoc {path : List α} {x : α} (hpath : Path options path) (hx : x ∈ options path) :
      Path options (path ++ [x])

/-- The options below each path. Above the lowest level there always are some. -/
structure Hierarchy (α : Type*) where
  depth : ℕ
  options : List α → List α
  options_ne_nil : ∀ path, Path options path → path.length < depth → options path ≠ []

/-- An open picker: the option it has opened at, and the one that is confirmed next. -/
structure Picker where
  level : ℕ
  start : ℕ
  index : ℕ
  deriving DecidableEq

/-- The choices from the top, and the picker that may be open. -/
structure State (α : Type*) where
  chosen : List α
  picker : Option Picker
  deriving DecidableEq

/-- Nothing is chosen. -/
def State.initial : State α := ⟨[], none⟩

/-- What the user can do. -/
inductive Event where
  | open (level : ℕ)
  | scroll (index : ℕ)
  | confirm
  | cancel

/-- The options of a level. -/
def Hierarchy.optionsAt (h : Hierarchy α) (chosen : List α) (level : ℕ) : List α :=
  h.options (chosen.take level)

variable [DecidableEq α]

/-- The option that a picker opens at. -/
def Hierarchy.start (h : Hierarchy α) (chosen : List α) (level : ℕ) : ℕ :=
  chosen[level]?.elim 0 fun x => (h.optionsAt chosen level).idxOf x

/-- A picker as it opens. -/
def Hierarchy.openAt (h : Hierarchy α) (chosen : List α) (level : ℕ) : Picker :=
  ⟨level, h.start chosen level, h.start chosen level⟩

/-- One event. A level is reached when there is a choice at every level above it. -/
def step (h : Hierarchy α) (s : State α) : Event → Option (State α)
  | .open level =>
    if s.picker.isNone ∧ level < h.depth ∧ level ≤ s.chosen.length then
      some { s with picker := some (h.openAt s.chosen level) }
    else none
  | .scroll index =>
    s.picker.bind fun p =>
      if index < (h.optionsAt s.chosen p.level).length then
        some { s with picker := some { p with index } }
      else none
  | .confirm =>
    s.picker.bind fun p =>
      (h.optionsAt s.chosen p.level)[p.index]?.map fun x => ⟨s.chosen.take p.level ++ [x], none⟩
  | .cancel => s.picker.map fun _ => { s with picker := none }

/-- A picker that can be open over the choices. -/
structure Valid.Opened (h : Hierarchy α) (chosen : List α) (p : Picker) : Prop where
  reached : p.level ≤ chosen.length
  level : p.level < h.depth
  start : p.start = h.start chosen p.level
  index : p.index < (h.optionsAt chosen p.level).length

/-- The choices are a path, and the picker stands at an option. -/
structure Valid (h : Hierarchy α) (s : State α) : Prop where
  path : Path h.options s.chosen
  length : s.chosen.length ≤ h.depth
  picker : ∀ p, s.picker = some p → Valid.Opened h s.chosen p

section Path

omit [DecidableEq α]

variable {options : List α → List α} {path : List α}

theorem Path.take (h : Path options path) (n : ℕ) : Path options (path.take n) := by
  induction h with
  | nil =>
    rw [List.take_nil]
    exact .nil
  | @snoc path x hpath hx ih =>
    rcases Nat.lt_or_ge path.length n with hlt | hge
    · have hlength : (path ++ [x]).length ≤ n := by
        rw [List.length_append, List.length_singleton]
        omega
      rw [List.take_of_length_le hlength]
      exact .snoc hpath hx
    · rw [List.take_append_of_le_length hge]
      exact ih

/-- A choice is an option of its level. -/
theorem Path.mem (h : Path options path) {n : ℕ} {x : α} (hx : path[n]? = some x) :
    x ∈ options (path.take n) := by
  induction h with
  | nil => cases hx
  | @snoc path y hpath hy ih =>
    rcases Nat.lt_or_ge n path.length with hlt | hge
    · rw [List.getElem?_append_left hlt] at hx
      rw [List.take_append_of_le_length (Nat.le_of_lt hlt)]
      exact ih hx
    · obtain ⟨hn, hxy⟩ : n - path.length = 0 ∧ y = x := by
        rw [List.getElem?_append_right hge] at hx
        simpa [List.getElem?_singleton] using hx
      obtain rfl : n = path.length := by omega
      rw [List.take_left', ← hxy]
      · exact hy
      · rfl

end Path

variable {h : Hierarchy α} {s t : State α}

/-- A picker opens at an option, since there is one. -/
theorem Valid.opened (hvalid : Valid h s) {level : ℕ} (hlevel : level < h.depth)
    (hreached : level ≤ s.chosen.length) :
    Valid.Opened h s.chosen (h.openAt s.chosen level) := by
  refine ⟨hreached, hlevel, rfl, ?_⟩
  rw [Hierarchy.openAt]
  cases hx : s.chosen[level]? with
  | none =>
    have hne := h.options_ne_nil _ (hvalid.path.take level)
      (by rwa [List.length_take, Nat.min_eq_left hreached])
    simpa [Hierarchy.start, hx, Hierarchy.optionsAt, List.length_pos_iff] using hne
  | some x =>
    have hmem : x ∈ h.optionsAt s.chosen level := hvalid.path.mem hx
    simpa only [Hierarchy.start, hx, Option.elim_some] using List.idxOf_lt_length_of_mem hmem

theorem valid_initial : Valid h .initial := ⟨.nil, Nat.zero_le _, fun _ hp => nomatch hp⟩

/-- Every event keeps the choices a path and the picker at an option. -/
theorem valid_step {e : Event} (hvalid : Valid h s) (hstep : step h s e = some t) :
    Valid h t := by
  cases e with
  | «open» level =>
    simp only [step, Option.ite_none_right_eq_some, Option.some.injEq] at hstep
    obtain ⟨⟨-, hlevel, hreached⟩, rfl⟩ := hstep
    refine ⟨hvalid.path, hvalid.length, ?_⟩
    rintro _ ⟨⟩
    exact hvalid.opened hlevel hreached
  | scroll index =>
    obtain ⟨p, hp, hstep⟩ := Option.bind_eq_some_iff.mp hstep
    simp only [Option.ite_none_right_eq_some, Option.some.injEq] at hstep
    obtain ⟨hindex, rfl⟩ := hstep
    obtain ⟨hreached, hlevel, hstart, -⟩ := hvalid.picker p hp
    refine ⟨hvalid.path, hvalid.length, ?_⟩
    rintro _ ⟨⟩
    exact ⟨hreached, hlevel, hstart, hindex⟩
  | confirm =>
    obtain ⟨p, hp, hstep⟩ := Option.bind_eq_some_iff.mp hstep
    obtain ⟨x, hx, rfl⟩ := Option.map_eq_some_iff.mp hstep
    have hlevel := (hvalid.picker p hp).level
    refine ⟨.snoc (hvalid.path.take _) (List.mem_of_getElem? hx), ?_, fun _ hp => nomatch hp⟩
    rw [List.length_append, List.length_take, List.length_singleton]
    omega
  | cancel =>
    obtain ⟨p, -, rfl⟩ := Option.map_eq_some_iff.mp hstep
    exact ⟨hvalid.path, hvalid.length, fun _ hp => nomatch hp⟩

/-- An open picker has an option to confirm. -/
theorem Valid.exists_option (hvalid : Valid h s) {p : Picker} (hp : s.picker = some p) :
    ∃ x, (h.optionsAt s.chosen p.level)[p.index]? = some x :=
  ⟨_, List.getElem?_eq_getElem (hvalid.picker p hp).index⟩

end Cascade
