import SmartHome.Lib.EventRun
import SmartHome.Lib.Outstanding
import SmartHome.Lib.RouteStack

/-!
# The navigator and the session

The app has one navigator. Its first route is the `home` of `MyApp`, a `StreamBuilder` on
`authStateChanges` that shows `HomeScreen` while somebody is signed in and `FormLogin` otherwise;
every other route shows a fixed page. Pages push routes, the bottom bar and the handlers of login,
registration and logout replace the top route, and a completed home creation pops down to the route
named `/settings/home/list` and pushes that page.

Handlers are asynchronous. A handler that waits for a call is kept with the route whose page runs
it, and navigates only if the context of that page is still alive when the call completes: the page
is on the stack, or its exit transition is still running (`late` in the event).

## Main definitions

* `Navigation.Page`, `Navigation.Route`, `Navigation.Handler`, `Navigation.State`.
* `Navigation.Event`, `Navigation.step` : user actions, completions of calls, and the end of a
  session from outside.
* `Navigation.Fits` : what lies below a route of a reachable stack.

## Main results

* `Navigation.stepped_of_step`, `Navigation.step_stack` : what a step does, and what it does to the
  stack.
* `Navigation.shaped_of_run` : the shape of reachable stacks.
-/

namespace SmartHome.Navigation

open RouteStack

/-- The pages. `gate` is the home of `MyApp`; the sheets are the bottom sheets of `FormLogin`, and
`popup` stands for the menus and pickers that a page opens over itself. -/
inductive Page where
  | gate
  | home
  | settings
  | homeList
  | homeCreate
  | formCreate
  | homeDetail
  | profileDetail
  | profileSettings
  | qrCode
  | language
  | terms
  | policies
  | about
  | report
  | login
  | loginSheet
  | registerSheet
  | popup
  deriving DecidableEq

/-- A route: its identity, its `settings.name`, and its page. -/
structure Route where
  key : ℕ
  name : Option String
  page : Page
  deriving DecidableEq

/-- A handler that waits for a call, and the route whose page runs it. `login` stands for
`_LoginScreenState._login` and `_RegisterScreenState._register`, before and after the session has
begun; `logout` for the handler of the Logout button, before and after the session has ended;
`create` for `_createHome`, `save` for `_updateProfile`. -/
inductive Handler where
  | login (route : ℕ) (signedIn : Bool)
  | logout (route : ℕ) (signedOut : Bool)
  | create (route : ℕ)
  | save (route : ℕ)
  deriving DecidableEq

/-- The stack of routes, visible route first, whether somebody is signed in, the handlers that
wait, and the identity of the next route. -/
structure State where
  stack : List Route
  session : Bool
  handlers : List Handler
  nextKey : ℕ
  deriving DecidableEq

/-- The app after its launch. The session may have been kept from an earlier launch. -/
def State.launch (session : Bool) : State :=
  { stack := [⟨0, some "/", .gate⟩], session, handlers := [], nextKey := 1 }

/-- What can happen next. In `completed`, `ok` says whether the call that the handler waits for
succeeded, and `late` whether the exit transition of the page is still running in case its route
has left the stack. -/
inductive Event where
  | bottomBar (index : Fin 3)
  | openPage (page : Page)
  | openSheet (register : Bool)
  | openPopup
  | back
  | tapLogin
  | tapLogout
  | tapCreate
  | tapSave
  | completed (i : ℕ) (ok late : Bool)
  | sessionEnded
  deriving DecidableEq

/-! ### Pages -/

/-- The page that a route shows: the gate follows the session. -/
def displayed (session : Bool) : Page → Page
  | .gate => if session then .home else .login
  | page => page

/-- The pages that a page can push. -/
def links : Page → List Page
  | .settings =>
    [.profileDetail, .homeList, .language, .terms, .policies, .about, .report, .qrCode]
  | .homeList => [.homeCreate, .homeDetail]
  | .homeDetail => [.homeCreate]
  | .homeCreate => [.formCreate]
  | .profileDetail => [.profileSettings]
  | _ => []

/-- The item `navBarHome` of the bottom bar. -/
def navBarHome : Fin 3 := 0

/-- The item `navBarProfile` of the bottom bar. -/
def navBarProfile : Fin 3 := 2

/-- `_NavbarState._onItemTapped`. -/
def onItemTapped : Fin 3 → Page
  | 0 => .home
  | 1 => .home
  | 2 => .settings

/-- The pages with a bottom bar: all others pass `showNavbar: false`, or have no `Navbar`. -/
def showNavbar (page : Page) : Bool := page = .home || page = .settings

/-- The pages that open a menu or a picker over themselves. -/
def hasPopup (page : Page) : Bool :=
  page = .homeList || page = .homeDetail || page = .formCreate || page = .profileSettings

/-- The bottom sheets of `FormLogin`. -/
def isSheet (page : Page) : Bool := page = .loginSheet || page = .registerSheet

/-- The name that `_createHome` pops to and pushes. -/
def homeListName : String := "/settings/home/list"

/-! ### Steps -/

/-- The page of the top route. -/
def top (s : State) : Option Page := s.stack.head?.map fun r => displayed s.session r.page

/-- `Navigator.push` and `Navigator.pushNamed`. -/
def pushRoute (name : Option String) (page : Page) (s : State) : State :=
  { s with stack := push ⟨s.nextKey, name, page⟩ s.stack, nextKey := s.nextKey + 1 }

/-- `Navigator.pushReplacement` and `Navigator.pushReplacementNamed`. -/
def replaceRoute (name : Option String) (page : Page) (s : State) : State :=
  { s with stack := pushReplacement ⟨s.nextKey, name, page⟩ s.stack, nextKey := s.nextKey + 1 }

/-- Whether the context of the page of a route can still be used. -/
def mounted (route : ℕ) (late : Bool) (s : State) : Bool :=
  late || s.stack.any fun r => r.key = route

/-- The navigation at the end of `_createHome`: `popUntil`, which keeps a page of the name, and
`pushNamed`. -/
def homeCreated (s : State) : State :=
  pushRoute (some homeListName) .homeList
    { s with stack := popUntil (fun r => r.name = some homeListName) s.stack }

/-- A handler starts to wait. -/
def wait (h : Handler) (s : State) : State := { s with handlers := s.handlers ++ [h] }

/-- What a handler does when the call that it waits for completes. `_createHome` gets there in any
case, since `FireBaseController.create` catches the failures of its call. Where the context is no
longer alive the navigator is not found, which is caught or ends the handler. -/
def finish (h : Handler) (ok late : Bool) (s : State) : State :=
  match h with
  | .login route false => if ok then wait (.login route true) { s with session := true } else s
  | .login route true =>
    if mounted route late s then replaceRoute (some "/home") .home s else s
  | .logout route false => if ok then wait (.logout route true) { s with session := false } else s
  | .logout route true =>
    if mounted route late s then replaceRoute (some "/login") .login s else s
  | .create route => if mounted route late s then homeCreated s else s
  | .save route => if ok && mounted route late s then { s with stack := pop s.stack } else s

/-- The route on top, if it shows one of the given pages. -/
def tapped (pages : List Page) (s : State) : Option ℕ :=
  (s.stack.head?.filter fun r => displayed s.session r.page ∈ pages).map Route.key

/-- One step. -/
def step (s : State) : Event → Option State
  | .bottomBar index =>
    if (top s).any showNavbar then some (replaceRoute none (onItemTapped index) s) else none
  | .openPage page =>
    if (top s).any fun p => page ∈ links p then some (pushRoute none page s) else none
  | .openSheet register =>
    if top s = some .login then
      some (pushRoute none (if register then .registerSheet else .loginSheet) s)
    else none
  | .openPopup => if (top s).any hasPopup then some (pushRoute none .popup s) else none
  | .back => if 2 ≤ s.stack.length then some { s with stack := pop s.stack } else none
  | .tapLogin =>
    (tapped [.loginSheet, .registerSheet] s).map fun route => wait (.login route false) s
  | .tapLogout => (tapped [.settings] s).map fun route => wait (.logout route false) s
  | .tapCreate =>
    if s.session then (tapped [.formCreate] s).map fun route => wait (.create route) s else none
  | .tapSave =>
    if s.session then (tapped [.profileSettings] s).map fun route => wait (.save route) s else none
  | .completed i ok late =>
    (Outstanding.complete s.handlers i).map fun call =>
      finish call.1 ok late { s with handlers := call.2 }
  | .sessionEnded => some { s with session := false }

/-- What a step does, with the guards that it has passed. -/
inductive Stepped (s : State) : Event → State → Prop
  | bottomBar (index : Fin 3) (htop : (top s).any showNavbar = true) :
      Stepped s (.bottomBar index) (replaceRoute none (onItemTapped index) s)
  | openPage {p : Page} (page : Page) (htop : top s = some p) (hlink : page ∈ links p) :
      Stepped s (.openPage page) (pushRoute none page s)
  | openSheet (register : Bool) (htop : top s = some .login) :
      Stepped s (.openSheet register)
        (pushRoute none (if register then .registerSheet else .loginSheet) s)
  | openPopup (htop : (top s).any hasPopup = true) :
      Stepped s .openPopup (pushRoute none .popup s)
  | back (hlength : 2 ≤ s.stack.length) : Stepped s .back { s with stack := pop s.stack }
  | tapLogin {route : ℕ} (htapped : tapped [.loginSheet, .registerSheet] s = some route) :
      Stepped s .tapLogin (wait (.login route false) s)
  | tapLogout {route : ℕ} (htapped : tapped [.settings] s = some route) :
      Stepped s .tapLogout (wait (.logout route false) s)
  | tapCreate {route : ℕ} (hsession : s.session = true)
      (htapped : tapped [.formCreate] s = some route) :
      Stepped s .tapCreate (wait (.create route) s)
  | tapSave {route : ℕ} (hsession : s.session = true)
      (htapped : tapped [.profileSettings] s = some route) :
      Stepped s .tapSave (wait (.save route) s)
  | completed {i : ℕ} {h : Handler} {rest : List Handler} (ok late : Bool)
      (hcall : Outstanding.complete s.handlers i = some (h, rest)) :
      Stepped s (.completed i ok late) (finish h ok late { s with handlers := rest })
  | sessionEnded : Stepped s .sessionEnded { s with session := false }

theorem stepped_of_step {s t : State} {e : Event} (hstep : step s e = some t) : Stepped s e t := by
  cases e with
  | bottomBar index =>
    simp only [step, Option.ite_none_right_eq_some, Option.some.injEq] at hstep
    obtain ⟨htop, rfl⟩ := hstep
    exact .bottomBar index htop
  | openPage page =>
    simp only [step, Option.ite_none_right_eq_some, Option.some.injEq, Option.any_eq_true,
      decide_eq_true_eq] at hstep
    obtain ⟨⟨p, htop, hlink⟩, rfl⟩ := hstep
    exact .openPage page htop hlink
  | openSheet register =>
    simp only [step, Option.ite_none_right_eq_some, Option.some.injEq] at hstep
    obtain ⟨htop, rfl⟩ := hstep
    exact .openSheet register htop
  | openPopup =>
    simp only [step, Option.ite_none_right_eq_some, Option.some.injEq] at hstep
    obtain ⟨htop, rfl⟩ := hstep
    exact .openPopup htop
  | back =>
    simp only [step, Option.ite_none_right_eq_some, Option.some.injEq] at hstep
    obtain ⟨hlength, rfl⟩ := hstep
    exact .back hlength
  | tapLogin =>
    obtain ⟨route, htapped, rfl⟩ := Option.map_eq_some_iff.mp hstep
    exact .tapLogin htapped
  | tapLogout =>
    obtain ⟨route, htapped, rfl⟩ := Option.map_eq_some_iff.mp hstep
    exact .tapLogout htapped
  | tapCreate =>
    simp only [step, Option.ite_none_right_eq_some] at hstep
    obtain ⟨hsession, hstep⟩ := hstep
    obtain ⟨route, htapped, rfl⟩ := Option.map_eq_some_iff.mp hstep
    exact .tapCreate hsession htapped
  | tapSave =>
    simp only [step, Option.ite_none_right_eq_some] at hstep
    obtain ⟨hsession, hstep⟩ := hstep
    obtain ⟨route, htapped, rfl⟩ := Option.map_eq_some_iff.mp hstep
    exact .tapSave hsession htapped
  | completed i ok late =>
    obtain ⟨⟨h, rest⟩, hcall, rfl⟩ := Option.map_eq_some_iff.mp hstep
    exact .completed ok late hcall
  | sessionEnded =>
    obtain rfl := Option.some.inj hstep
    exact .sessionEnded

/-! ### The stack -/

/-- What lies below a route: a bottom sheet covers a login page, and a home list that was not
pushed by its name does not lie at the bottom. -/
structure Fits (r : Route) (below : List Route) : Prop where
  sheet : isSheet r.page = true →
    ∃ b rest, below = b :: rest ∧ (b.page = .gate ∨ b.page = .login)
  homeList : r.page = .homeList → r.name ≠ some homeListName → below ≠ []

/-- The name of the home list is carried by home lists only. -/
def Named (r : Route) : Prop := r.name = some homeListName → r.page = .homeList

/-- What a step does to the stack. -/
inductive Change (before after : List Route) : Prop
  | same (h : after = before)
  | popped (h : after = pop before)
  | pushed (r : Route) (hr : Fits r before) (hname : r.name = none) (h : after = push r before)
  | replaced (r : Route) (hr : ∀ below, Fits r below) (hname : Named r)
      (h : after = pushReplacement r before)
  | created (r : Route) (hr : ∀ below, Fits r below) (hname : Named r)
      (h : after = push r (popUntil (fun r => r.name = some homeListName) before))

/-- A route that is neither a sheet nor an unnamed home list fits anywhere. -/
theorem fits_of_page {r : Route} (hsheet : isSheet r.page = false)
    (hlist : r.page = .homeList → r.name = some homeListName) (below : List Route) : Fits r below :=
  ⟨fun h => absurd (hsheet.symm.trans h) (by decide), fun hp hn => absurd (hlist hp) hn⟩

theorem finish_stack (h : Handler) (ok late : Bool) (s : State) :
    Change s.stack (finish h ok late s).stack := by
  have replaced {name : String} {page : Page} (hname : name ≠ homeListName)
      (hsheet : isSheet page = false) (hlist : page ≠ .homeList) :
      Change s.stack (replaceRoute (some name) page s).stack :=
    .replaced _ (fits_of_page hsheet fun h => absurd h hlist)
      (fun h => absurd (Option.some.inj h) hname) rfl
  rcases h with ⟨route, _ | _⟩ | ⟨route, _ | _⟩ | route | route
  · simp only [finish]
    split <;> exact .same rfl
  · simp only [finish]
    split
    · exact replaced (by decide) rfl (by decide)
    · exact .same rfl
  · simp only [finish]
    split <;> exact .same rfl
  · simp only [finish]
    split
    · exact replaced (by decide) rfl (by decide)
    · exact .same rfl
  · simp only [finish]
    split
    · exact .created _ (fits_of_page rfl fun _ => rfl) (fun _ => rfl) rfl
    · exact .same rfl
  · simp only [finish]
    split
    · exact .popped rfl
    · exact .same rfl

theorem displayed_eq_login {session : Bool} {page : Page} (h : displayed session page = .login) :
    page = .gate ∨ page = .login := by
  cases page <;> simp_all [displayed]

theorem top_eq_some {s : State} {page : Page} (h : top s = some page) :
    ∃ r rest, s.stack = r :: rest ∧ displayed s.session r.page = page := by
  obtain ⟨r, hr, rfl⟩ := Option.map_eq_some_iff.mp h
  obtain ⟨rest, hrest⟩ := List.head?_eq_some_iff.mp hr
  exact ⟨r, rest, hrest, rfl⟩

theorem not_isSheet_of_mem_links {p page : Page} (h : page ∈ links p) : isSheet page = false := by
  cases p <;> simp only [links, List.mem_cons, List.not_mem_nil, or_false] at h <;>
    rcases h with rfl | rfl | rfl | rfl | rfl | rfl | rfl | rfl <;> rfl

theorem onItemTapped_cases (index : Fin 3) :
    onItemTapped index = .home ∨ onItemTapped index = .settings := by
  revert index
  decide

/-- A step changes the stack at the top only, by one of the five changes. -/
theorem step_stack {s t : State} {e : Event} (hstep : step s e = some t) :
    Change s.stack t.stack := by
  cases stepped_of_step hstep with
  | bottomBar index =>
    refine .replaced _ (fits_of_page ?_ fun h => absurd h ?_) (by rintro ⟨⟩) rfl
    · rcases onItemTapped_cases index with h | h <;> exact congrArg isSheet h
    · rcases onItemTapped_cases index with h | h <;> simp [h]
  | openPage page htop hlink =>
    obtain ⟨r, rest, hstack, -⟩ := top_eq_some htop
    refine .pushed _ ⟨fun h => ?_, fun _ _ => hstack ▸ List.cons_ne_nil r rest⟩ rfl rfl
    exact absurd ((not_isSheet_of_mem_links hlink).symm.trans h) (by decide)
  | openSheet register htop =>
    obtain ⟨r, rest, hstack, hpage⟩ := top_eq_some htop
    refine .pushed _ ⟨fun _ => ⟨r, rest, hstack, displayed_eq_login hpage⟩, fun h => ?_⟩ rfl rfl
    cases register <;> cases h
  | openPopup => exact .pushed _ ⟨by rintro ⟨⟩, by rintro ⟨⟩⟩ rfl rfl
  | back => exact .popped rfl
  | tapLogin | tapLogout | tapCreate | tapSave | sessionEnded => exact .same rfl
  | @completed _ h rest ok late => exact finish_stack h ok late { s with handlers := rest }

/-- The shape of a reachable stack. -/
def Shaped (s : State) : Prop := Stacked Fits s.stack ∧ ∀ r ∈ s.stack, Named r

theorem shaped_launch (session : Bool) : Shaped (State.launch session) := by
  refine ⟨⟨⟨by rintro ⟨⟩, by rintro ⟨⟩⟩, trivial⟩, fun r hr h => ?_⟩
  obtain rfl := List.mem_singleton.mp hr
  exact absurd (Option.some.inj h) (by decide)

/-- A change of the stack keeps its shape: only the route put on top has to fit. -/
theorem Change.shaped {before after : List Route} (h : Change before after)
    (hfits : Stacked Fits before) (hnamed : ∀ r ∈ before, Named r) :
    Stacked Fits after ∧ ∀ r ∈ after, Named r := by
  have suffix {below : List Route} (hbelow : below <:+ before) {r : Route} (hr : Named r) :
      ∀ r' ∈ r :: below, Named r' := by
    intro r' hr'
    rcases List.mem_cons.mp hr' with rfl | hr'
    · exact hr
    · exact hnamed r' (hbelow.mem hr')
  cases h with
  | same h => exact h ▸ ⟨hfits, hnamed⟩
  | popped h => exact h ▸ ⟨hfits.pop, fun r hr => hnamed r ((pop_suffix before).mem hr)⟩
  | pushed r hr hname h =>
    have hnamed' : Named r := fun h' => absurd (hname.symm.trans h') (by simp)
    exact h ▸ ⟨hfits.push hr, suffix List.suffix_rfl hnamed'⟩
  | replaced r hr hname h =>
    exact h ▸ ⟨hfits.pushReplacement (hr _), suffix (List.tail_suffix before) hname⟩
  | created r hr hname h =>
    exact h ▸ ⟨(hfits.popUntil _).push (hr _), suffix (popUntil_suffix _ before) hname⟩

/-- Every reachable stack has the shape. -/
theorem shaped_of_run {session : Bool} {es : List Event} {s : State}
    (hrun : EventRun.run step (State.launch session) es = some s) : Shaped s :=
  EventRun.invariant_run (fun _ _ _ hs hstep => (step_stack hstep).shaped hs.1 hs.2)
    (shaped_launch session) hrun

end SmartHome.Navigation
