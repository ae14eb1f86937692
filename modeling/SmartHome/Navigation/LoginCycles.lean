import SmartHome.Navigation.Navigator

/-!
# Logging out and in again

A login replaces the route on top, which is the bottom sheet, by the home page; `FormLogin` stays
below it. That is harmless where `FormLogin` is the gate, which turns into the home page by itself.
After a logout it is the route `/login`, which the next login leaves on the stack, one for each
cycle.

## Main definitions

* `Navigation.inCycle` : the steps of logins, registrations and logouts, bottom-bar taps and back
  presses.
* `Navigation.NoLoginBelow` : signed in, no route shows `FormLogin`, and the stack is small.
* `Navigation.LeavesLogin` : the condition on a step under which this stays so.

## Main results

* `Navigation.noLoginBelow_of_leavesLogin` : it holds along all runs whose steps meet the condition.
-/

namespace SmartHome.Navigation

open RouteStack

/-- The steps of the cycles: what the bottom bar, the back button, the sheets of `FormLogin` and the
Logout button do, and the completions of the calls. -/
def inCycle : Event → Bool
  | .bottomBar _ | .openSheet _ | .back | .tapLogin | .tapLogout | .completed .. => true
  | _ => false

/-- While somebody is signed in no route shows `FormLogin`, and the stack never has more than three
routes. -/
structure NoLoginBelow (s : State) : Prop where
  hidden : s.session = true → ∀ r ∈ s.stack, displayed s.session r.page ≠ .login
  small : s.stack.length ≤ 3

/-- No route of the list is a `/login` route. -/
def LoginFree (stack : List Route) : Prop := ∀ r ∈ stack, r.page ≠ .login

/-- The condition on a handler that completes, in the state without it: a login signs in only while
there is no `/login` route, a Logout navigates only while nobody is signed in, and what navigates
finds no `/login` route below the one that it replaces. -/
def LeavesLoginFinish (h : Handler) (ok late : Bool) (s : State) : Prop :=
  match h with
  | .login _ false => ok = true → LoginFree s.stack
  | .login route true => mounted route late s = true → LoginFree s.stack.tail
  | .logout route true => mounted route late s = true → s.session = false ∧ LoginFree s.stack.tail
  | _ => True

/-- The condition on a step of the cycles. -/
def LeavesLogin (s : State) : Event → Prop
  | .completed i ok late => ∀ h rest, Outstanding.complete s.handlers i = some (h, rest) →
      LeavesLoginFinish h ok late { s with handlers := rest }
  | e => inCycle e = true

/-! ### The shape of the stack -/

/-- The stacks of the cycles. -/
inductive CycleStack : List Page → Prop
  | page {p : Page} (hp : p = .gate ∨ p = .home ∨ p = .settings ∨ p = .login) : CycleStack [p]
  | sheet {sheet p : Page} (hsheet : isSheet sheet = true) (hp : p = .gate ∨ p = .login) :
      CycleStack [sheet, p]
  | aboveGate {p : Page} (hp : p = .home ∨ p = .settings ∨ p = .login) : CycleStack [p, .gate]
  | sheetAboveGate {sheet : Page} (hsheet : isSheet sheet = true) :
      CycleStack [sheet, .login, .gate]

theorem CycleStack.length_le {pages : List Page} (h : CycleStack pages) : pages.length ≤ 3 := by
  cases h <;> simp

/-- A page in the place of the top one, above routes among which there is no login page. -/
theorem CycleStack.replace {pages : List Page} (h : CycleStack pages) {p : Page}
    (hp : p = .home ∨ p = .settings ∨ p = .login) (hfree : ∀ q ∈ pages.tail, q ≠ .login) :
    CycleStack (p :: pages.tail) := by
  cases h with
  | page => exact .page (.inr hp)
  | sheet _ hbelow =>
    rcases hbelow with rfl | rfl
    · exact .aboveGate hp
    · exact absurd rfl (hfree .login List.mem_cons_self)
  | aboveGate => exact .aboveGate hp
  | sheetAboveGate => exact absurd rfl (hfree .login List.mem_cons_self)

theorem CycleStack.pop {pages : List Page} (h : CycleStack pages) (hlength : 2 ≤ pages.length) :
    CycleStack pages.tail := by
  cases h with
  | page => exact absurd hlength (by simp)
  | sheet _ hp => exact .page (hp.imp_right fun h => .inr (.inr h))
  | aboveGate => exact .page (.inl rfl)
  | sheetAboveGate => exact .aboveGate (.inr (.inr rfl))

/-- A sheet over a page of the login. -/
theorem CycleStack.push {pages : List Page} (h : CycleStack pages) {sheet : Page}
    (hsheet : isSheet sheet = true) (htop : pages.head? = some .gate ∨ pages.head? = some .login) :
    CycleStack (sheet :: pages) := by
  cases h with
  | page => exact .sheet hsheet (by simpa using htop)
  | sheet hsheet' => rcases htop with h | h <;> (obtain rfl := Option.some.inj h; cases hsheet')
  | aboveGate hp =>
    obtain rfl : _ = Page.login := by
      rcases htop with h | h
      · obtain rfl := Option.some.inj h
        simp at hp
      · exact Option.some.inj h
    exact .sheetAboveGate hsheet
  | sheetAboveGate hsheet' =>
    rcases htop with h | h <;> (obtain rfl := Option.some.inj h; cases hsheet')

/-- Under a page that is no sheet there is no login page. -/
theorem CycleStack.tail_free {pages : List Page} (h : CycleStack pages)
    (hhead : ∀ p, pages.head? = some p → isSheet p = false) : ∀ q ∈ pages.tail, q ≠ .login := by
  cases h with
  | page => simp
  | sheet hsheet => exact absurd (hhead _ rfl) (by simp [hsheet])
  | aboveGate => simp
  | sheetAboveGate hsheet => exact absurd (hhead _ rfl) (by simp [hsheet])

/-! ### The invariant -/

/-- A handler of a login, a registration or a logout. -/
def isAccount : Handler → Bool
  | .login .. | .logout .. => true
  | _ => false

/-- The invariant of runs whose steps meet the condition. -/
structure CycleInv (s : State) : Prop where
  shape : CycleStack (s.stack.map Route.page)
  hidden : s.session = true → LoginFree s.stack
  handlers : ∀ h ∈ s.handlers, isAccount h = true

theorem displayed_true_eq_login {page : Page} : displayed true page = .login ↔ page = .login := by
  cases page <;> simp [displayed]

theorem CycleInv.noLoginBelow {s : State} (h : CycleInv s) : NoLoginBelow s where
  hidden hsession r hr := by
    rw [hsession, Ne, displayed_true_eq_login]
    exact h.hidden hsession r hr
  small := by
    have hlength := h.shape.length_le
    rwa [List.length_map] at hlength

theorem cycleInv_launch (session : Bool) : CycleInv (State.launch session) where
  shape := .page (.inl rfl)
  hidden _ r hr := by
    obtain rfl := List.mem_singleton.mp hr
    simp
  handlers := by rintro _ ⟨⟩

theorem loginFree_cons {r : Route} {below : List Route} (hr : r.page ≠ .login)
    (h : LoginFree below) : LoginFree (r :: below) := by
  intro r' hr'
  rcases List.mem_cons.mp hr' with rfl | hr'
  · exact hr
  · exact h r' hr'

theorem LoginFree.tail {stack : List Route} (h : LoginFree stack) : LoginFree stack.tail :=
  fun r hr => h r (List.mem_of_mem_tail hr)

theorem CycleInv.wait {s : State} (h : CycleInv s) {handler : Handler}
    (haccount : isAccount handler = true) : CycleInv (wait handler s) where
  shape := h.shape
  hidden := h.hidden
  handlers h' hh' := by
    rcases List.mem_append.mp hh' with hh' | hh'
    · exact h.handlers h' hh'
    · obtain rfl := List.mem_singleton.mp hh'
      exact haccount

/-- The route on top is replaced, above routes among which there is no login page. -/
theorem CycleInv.replaceRoute {s : State} (h : CycleInv s) {name : Option String} {page : Page}
    (hpage : page = .home ∨ page = .settings ∨ page = .login) (hfree : LoginFree s.stack.tail)
    (hlogin : page = .login → s.session = false) : CycleInv (replaceRoute name page s) where
  shape := by
    have hfree' : ∀ q ∈ (s.stack.map Route.page).tail, q ≠ .login := by
      intro q hq
      rw [← List.map_tail] at hq
      obtain ⟨r, hr, rfl⟩ := List.mem_map.mp hq
      exact hfree r hr
    have hshape := h.shape.replace hpage hfree'
    rwa [← List.map_tail] at hshape
  hidden hsession := by
    refine loginFree_cons (fun hpage' => ?_) hfree
    exact absurd (hsession.symm.trans (hlogin hpage')) (by decide)
  handlers := h.handlers

theorem cycleInv_finish {h : Handler} {ok late : Bool} {s : State} (hs : CycleInv s)
    (haccount : isAccount h = true) (hleaves : LeavesLoginFinish h ok late s) :
    CycleInv (finish h ok late s) := by
  rcases h with ⟨route, _ | _⟩ | ⟨route, _ | _⟩ | route | route
  · simp only [finish]
    split
    · exact CycleInv.wait (s := { s with session := true })
        ⟨hs.shape, fun _ => hleaves ‹_›, hs.handlers⟩ rfl
    · exact hs
  · simp only [finish]
    split
    · exact hs.replaceRoute (.inl rfl) (hleaves ‹_›) (by rintro ⟨⟩)
    · exact hs
  · simp only [finish]
    split
    · exact CycleInv.wait (s := { s with session := false })
        ⟨hs.shape, by rintro ⟨⟩, hs.handlers⟩ rfl
    · exact hs
  · simp only [finish]
    split
    · exact hs.replaceRoute (.inr (.inr rfl)) (hleaves ‹_›).2 fun _ => (hleaves ‹_›).1
    · exact hs
  · cases haccount
  · cases haccount

/-- The bottom bar is above routes without a login page. -/
theorem CycleInv.loginFree_tail {s : State} (h : CycleInv s)
    (htop : (top s).any showNavbar = true) : LoginFree s.stack.tail := by
  obtain ⟨page, hpage, hbar⟩ := (Option.any_eq_true _ _).mp htop
  obtain ⟨r, rest, hstack, hdisplayed⟩ := top_eq_some hpage
  have hhead : ∀ p, (s.stack.map Route.page).head? = some p → isSheet p = false := by
    intro p hp
    rw [hstack, List.map_cons, List.head?_cons] at hp
    obtain rfl := Option.some.inj hp
    cases hsheet : r.page <;> first
      | rfl
      | (rw [hsheet] at hdisplayed; subst hdisplayed; cases hbar)
  intro r' hr'
  refine h.shape.tail_free hhead r'.page ?_
  rw [← List.map_tail]
  exact List.mem_map_of_mem hr'

theorem cycleInv_step {s t : State} {e : Event} (hs : CycleInv s) (he : LeavesLogin s e)
    (hstep : step s e = some t) : CycleInv t := by
  cases stepped_of_step hstep with
  | bottomBar index htop =>
    refine hs.replaceRoute ?_ (hs.loginFree_tail htop) fun hlogin => ?_
    · exact (onItemTapped_cases index).imp_right Or.inl
    · rcases onItemTapped_cases index with h | h <;> simp [h] at hlogin
  | openSheet register htop =>
    have hsheet : isSheet (if register then .registerSheet else .loginSheet) = true := by
      cases register <;> rfl
    obtain ⟨r, rest, hstack, hdisplayed⟩ := top_eq_some htop
    refine ⟨hs.shape.push hsheet ?_, fun hsession => ?_, hs.handlers⟩
    · rw [hstack, List.map_cons, List.head?_cons]
      exact (displayed_eq_login hdisplayed).imp (congrArg some) (congrArg some)
    · exact loginFree_cons (by cases register <;> simp) (hs.hidden hsession)
  | back hlength =>
    refine ⟨?_, fun hsession => (hs.hidden hsession).tail, hs.handlers⟩
    rw [RouteStack.pop, List.map_tail]
    exact hs.shape.pop (by rwa [List.length_map])
  | tapLogin | tapLogout => exact hs.wait rfl
  | @completed i h rest ok late hcall =>
    have hmem {h' : Handler} : h' ∈ s.handlers ↔ h' = h ∨ h' ∈ rest :=
      Outstanding.mem_iff_of_complete hcall
    exact cycleInv_finish (s := { s with handlers := rest })
      ⟨hs.shape, hs.hidden, fun h' hh' => hs.handlers h' (hmem.mpr (.inr hh'))⟩
      (hs.handlers h (hmem.mpr (.inl rfl))) (he h rest hcall)
  | openPage | openPopup | tapCreate | tapSave | sessionEnded => cases he

/-- **Logging out and in again.** In every run of the cycles from the launch whose steps leave no
login page behind, in every state that is reached: while somebody is signed in no route shows
`FormLogin`, and there are at most three routes. -/
theorem noLoginBelow_of_leavesLogin {session : Bool} {es : List Event}
    (hes : EventRun.Meets step LeavesLogin (State.launch session) es) :
    EventRun.Along step NoLoginBelow (State.launch session) es :=
  EventRun.along_of_meets (fun _ _ _ => cycleInv_step) (fun _ h => h.noLoginBelow)
    (cycleInv_launch session) hes

/-! ### One cycle after another -/

/-- A login on the sheet of the visible `FormLogin`. -/
def loginSteps : List Event :=
  [.openSheet false, .tapLogin, .completed 0 true false, .completed 0 true false]

/-- A logout on the settings page, and a login. -/
def cycleSteps : List Event :=
  [.bottomBar navBarProfile, .tapLogout, .completed 0 true false, .completed 0 true false] ++
    loginSteps

/-- A number of cycles. -/
def cycles : ℕ → List Event
  | 0 => []
  | n + 1 => cycleSteps ++ cycles n

/-- A login replaces the sheet and leaves the login page. -/
theorem run_loginSteps (key k : ℕ) (name : Option String) (rest : List Route) :
    EventRun.run step ⟨⟨key, name, .login⟩ :: rest, false, [], k⟩ loginSteps =
      some ⟨⟨k + 1, some "/home", .home⟩ :: ⟨key, name, .login⟩ :: rest, true, [], k + 2⟩ := by
  have hmounted : mounted k false
      ⟨⟨k, none, .loginSheet⟩ :: ⟨key, name, .login⟩ :: rest, true, [], k + 1⟩ = true := by
    simp [mounted]
  exact congrArg some (if_pos hmounted)

/-- A cycle leaves one more login page below the home page. -/
theorem run_cycleSteps (key k : ℕ) (name : Option String) (rest : List Route) :
    EventRun.run step ⟨⟨key, name, .home⟩ :: rest, true, [], k⟩ cycleSteps =
      some ⟨⟨k + 3, some "/home", .home⟩ :: ⟨k + 1, some "/login", .login⟩ :: rest, true, [],
        k + 4⟩ := by
  have hmounted : mounted k false ⟨⟨k, none, .settings⟩ :: rest, false, [], k + 1⟩ = true := by
    simp [mounted]
  have hlogout : EventRun.run step ⟨⟨key, name, .home⟩ :: rest, true, [], k⟩
      [.bottomBar navBarProfile, .tapLogout, .completed 0 true false, .completed 0 true false] =
        some ⟨⟨k + 1, some "/login", .login⟩ :: rest, false, [], k + 2⟩ :=
    congrArg some (if_pos hmounted)
  rw [cycleSteps, EventRun.run_append, hlogout]
  exact run_loginSteps (k + 1) (k + 2) (some "/login") rest

theorem run_cycles (n key k : ℕ) (name : Option String) (rest : List Route) :
    ∃ t, EventRun.run step ⟨⟨key, name, .home⟩ :: rest, true, [], k⟩ (cycles n) = some t ∧
      t.session = true ∧ t.stack.length = n + rest.length + 1 := by
  induction n generalizing key k name rest with
  | zero => exact ⟨_, rfl, rfl, by simp⟩
  | succ n ih =>
    obtain ⟨t, hrun, hsession, hlength⟩ :=
      ih (k + 3) (k + 4) (some "/home") (⟨k + 1, some "/login", .login⟩ :: rest)
    refine ⟨t, ?_, hsession, ?_⟩
    · rw [cycles, EventRun.run_append, run_cycleSteps]
      exact hrun
    · rw [hlength, List.length_cons]
      omega

/-- After a login and one cycle a login page lies below the home page, and every further cycle adds
one. -/
theorem login_pages_pile_up :
    (∃ s, EventRun.run step (State.launch false) (loginSteps ++ cycleSteps) = some s ∧
      s.session = true ∧ s.stack.map Route.page = [.home, .login, .gate] ∧ ¬ NoLoginBelow s) ∧
    ∀ n, ∃ s, EventRun.run step (State.launch false) (loginSteps ++ cycles n) = some s ∧
      s.session = true ∧ s.stack.length = n + 2 := by
  refine ⟨⟨⟨[⟨6, some "/home", .home⟩, ⟨4, some "/login", .login⟩, ⟨0, some "/", .gate⟩], true, [],
    7⟩, rfl, rfl, rfl, fun h => ?_⟩, fun n => ?_⟩
  · exact h.hidden rfl ⟨4, some "/login", .login⟩ (List.mem_cons_of_mem _ List.mem_cons_self) rfl
  · have hlogin : EventRun.run step (State.launch false) loginSteps =
        some ⟨[⟨2, some "/home", .home⟩, ⟨0, some "/", .gate⟩], true, [], 3⟩ := rfl
    obtain ⟨t, hrun, hsession, hlength⟩ := run_cycles n 2 3 (some "/home") [⟨0, some "/", .gate⟩]
    refine ⟨t, ?_, hsession, hlength⟩
    rw [EventRun.run_append, hlogin]
    exact hrun

/-- What a call that completes finds, if it is the only one. -/
theorem leavesLogin_completed {stack : List Route} {session ok late : Bool} {h : Handler} {k : ℕ}
    (hleaves : LeavesLoginFinish h ok late ⟨stack, session, [], k⟩) :
    LeavesLogin ⟨stack, session, [h], k⟩ (.completed 0 ok late) := by
  intro h' rest hcall
  obtain ⟨rfl, rfl⟩ := Prod.mk.inj (Option.some.inj hcall)
  exact hleaves

/-- A login at the gate, a logout, and the way back to the gate. -/
theorem noLoginBelow_backToGate :
    EventRun.Along step NoLoginBelow (State.launch false)
      (loginSteps ++ [.bottomBar navBarProfile, .tapLogout, .completed 0 true false,
        .completed 0 true false, .back]) := by
  refine noLoginBelow_of_leavesLogin (.cons rfl rfl (.cons rfl rfl (.cons rfl ?_ (.cons rfl ?_
    (.cons rfl rfl (.cons rfl rfl (.cons rfl ?_ (.cons rfl ?_ (.cons rfl rfl trivial)))))))))
  · refine leavesLogin_completed fun _ r hr => ?_
    rcases List.mem_cons.mp hr with rfl | hr
    · simp
    · obtain rfl := List.mem_singleton.mp hr
      simp
  · refine leavesLogin_completed fun _ r hr => ?_
    obtain rfl := List.mem_singleton.mp hr
    simp
  · exact leavesLogin_completed trivial
  · refine leavesLogin_completed fun _ => ⟨rfl, fun r hr => ?_⟩
    obtain rfl := List.mem_singleton.mp hr
    simp

end SmartHome.Navigation
