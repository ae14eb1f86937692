import SmartHome.Navigation.Navigator

/-!
# The stack after a home has been created

`_createHome` pops until a route named `/settings/home/list` is on top, to keep that page, and then
pushes the page by this name. The menu of `SettingsScreen` pushes the home list without a name, so
the first creation pops everything; later creations find the list that an earlier one has pushed,
and cover it with another.

## Main definitions

* `Navigation.Restores` : the pages below the home list stay, with one home list on top of them.

## Main results

* `Navigation.homeCreated_cases` : what the navigation does.
* `Navigation.not_restores_of_created` : in no reachable state does it restore the list.
-/

namespace SmartHome.Navigation

open RouteStack

/-- The pages below the home list are kept unchanged, and a single home list lies on top of them.
-/
def Restores (before after : List Route) : Prop :=
  ∃ above list below new, before = above ++ list :: below ∧ list.page = .homeList ∧
    after = new :: below ∧ new.page = .homeList ∧ ∀ r ∈ below, r.page ≠ .homeList

/-- The new home list lies at the bottom if no route has its name, and otherwise on the topmost
route of that name. -/
theorem homeCreated_cases (s : State) :
    ((homeCreated s).stack = [⟨s.nextKey, some homeListName, .homeList⟩] ∧
        ∀ r ∈ s.stack, r.name ≠ some homeListName) ∨
      ∃ r below, r :: below <:+ s.stack ∧ r.name = some homeListName ∧
        (homeCreated s).stack = ⟨s.nextKey, some homeListName, .homeList⟩ :: r :: below := by
  have hstack : (homeCreated s).stack = ⟨s.nextKey, some homeListName, .homeList⟩ ::
      popUntil (fun r => r.name = some homeListName) s.stack := rfl
  rcases popUntil_cases (fun r : Route => decide (r.name = some homeListName)) s.stack with
    hnil | ⟨r, below, hpop, hr⟩
  · exact Or.inl ⟨by rw [hstack, hnil], fun r hr => of_decide_eq_false (popUntil_eq_nil hnil r hr)⟩
  · refine Or.inr ⟨r, below, ?_, of_decide_eq_true hr, by rw [hstack, hpop]⟩
    rw [← hpop]
    exact popUntil_suffix _ _

/-- In a stack of the shape that reachable stacks have, the list is never restored: either it lay at
the bottom without a name, which the shape excludes, or a home list stays below the new one. -/
theorem not_restores_homeCreated {s : State} (hs : Shaped s) :
    ¬ Restores s.stack (homeCreated s).stack := by
  rintro ⟨above, list, below, new, hbefore, hlist, hafter, -, hbelow⟩
  rcases homeCreated_cases s with ⟨hstack, hunnamed⟩ | ⟨r, rest, hsuffix, hname, hstack⟩
  · obtain ⟨-, rfl⟩ := List.cons.inj (hstack.symm.trans hafter)
    have hmem : list ∈ s.stack := hbefore ▸ List.mem_append_right above List.mem_cons_self
    have hfits : Fits list [] := Stacked.of_append (hbefore ▸ hs.1)
    exact hfits.homeList hlist (hunnamed list hmem) rfl
  · obtain ⟨-, rfl⟩ := List.cons.inj (hstack.symm.trans hafter)
    have hr : r ∈ s.stack := hsuffix.mem List.mem_cons_self
    exact hbelow r List.mem_cons_self (hs.2 r hr hname)

/-- **Home creation loses or duplicates pages.** Whenever a creation completes in a reachable state
and its form can still navigate, the stack afterwards is not the one below the home list with a
single home list on top. -/
theorem not_restores_of_created {session : Bool} {es : List Event} {s t : State} {i route : ℕ}
    {ok late : Bool} {rest : List Handler}
    (hrun : EventRun.run step (State.launch session) es = some s)
    (hcall : Outstanding.complete s.handlers i = some (.create route, rest))
    (hmounted : mounted route late s = true) (hstep : step s (.completed i ok late) = some t) :
    ¬ Restores s.stack t.stack := by
  cases stepped_of_step hstep with
  | completed _ _ hcall' =>
    obtain ⟨rfl, rfl⟩ := Prod.mk.inj (Option.some.inj (hcall.symm.trans hcall'))
    have hmounted' : mounted route late { s with handlers := rest } = true := hmounted
    have hs : Shaped s := shaped_of_run hrun
    simp only [finish, hmounted', if_true]
    exact not_restores_homeCreated (s := { s with handlers := rest }) hs

/-! ### Two creations from the settings menu -/

/-- A user who is signed in opens the settings page and its home list, and submits a form. -/
def firstCreation : List Event :=
  [.bottomBar navBarProfile, .openPage .homeList, .openPage .homeCreate, .openPage .formCreate,
    .tapCreate]

/-- From the home list, the same again. -/
def secondCreation : List Event := [.openPage .homeCreate, .openPage .formCreate, .tapCreate]

/-- When the first form is submitted. -/
def submittedFirst : State :=
  { stack := [⟨4, none, .formCreate⟩, ⟨3, none, .homeCreate⟩, ⟨2, none, .homeList⟩,
      ⟨1, none, .settings⟩]
    session := true, handlers := [.create 4], nextKey := 5 }

/-- When the second form is submitted. -/
def submittedSecond : State :=
  { stack := [⟨7, none, .formCreate⟩, ⟨6, none, .homeCreate⟩, ⟨5, some homeListName, .homeList⟩]
    session := true, handlers := [.create 7], nextKey := 8 }

/-- The first creation leaves the home list alone, without the settings page below it; the second
leaves two home lists. -/
theorem creations_lose_and_duplicate :
    EventRun.run step (State.launch true) firstCreation = some submittedFirst ∧
      ∃ s t, step submittedFirst (.completed 0 true false) = some s ∧
        s.stack.map Route.page = [.homeList] ∧ ¬ Restores submittedFirst.stack s.stack ∧
        EventRun.run step s secondCreation = some submittedSecond ∧
        step submittedSecond (.completed 0 true false) = some t ∧
        t.stack.map Route.page = [.homeList, .homeList] ∧
        ¬ Restores submittedSecond.stack t.stack := by
  refine ⟨rfl, ⟨[⟨5, some homeListName, .homeList⟩], true, [], 6⟩,
    ⟨[⟨8, some homeListName, .homeList⟩, ⟨5, some homeListName, .homeList⟩], true, [], 9⟩,
    rfl, rfl, ?_, rfl, rfl, rfl, ?_⟩
  · rintro ⟨above, list, below, new, hbefore, hlist, hafter, -⟩
    obtain ⟨-, rfl⟩ := List.cons.inj hafter
    have hlast := congrArg List.getLast? hbefore
    rw [List.getLast?_concat] at hlast
    obtain rfl := Option.some.inj hlast
    cases hlist
  · rintro ⟨above, list, below, new, -, -, hafter, -, hbelow⟩
    obtain ⟨-, rfl⟩ := List.cons.inj hafter
    exact hbelow _ List.mem_cons_self rfl

/-- The first creation, as an instance of the theorem. -/
theorem not_restores_first :
    ¬ Restores submittedFirst.stack [⟨5, some homeListName, .homeList⟩] :=
  @not_restores_of_created true firstCreation submittedFirst
    ⟨[⟨5, some homeListName, .homeList⟩], true, [], 6⟩ 0 4 true false [] rfl rfl rfl rfl

end SmartHome.Navigation
