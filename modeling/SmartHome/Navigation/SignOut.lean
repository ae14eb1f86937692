import SmartHome.Navigation.Navigator

/-!
# Signed out, on a login page

Without a session only `FormLogin` and its bottom sheets may be on the stack. The first route sees
to this by itself as long as it is there, since it follows the session. Everything above it, and
every stack whose first route the bottom bar or a logout has replaced, depends on the Logout
handler, which replaces the route that happens to be on top when `signOut` has completed.

## Main definitions

* `Navigation.SignedOutClean` : signed out, the visible page is `FormLogin` and no page that needs a
  user is on the stack.
* `Navigation.Orderly` : the condition on a step under which the navigator follows the session.

## Main results

* `Navigation.signedOutClean_of_orderly` : runs of orderly steps end clean once all handlers are
  done.
-/

namespace SmartHome.Navigation

open RouteStack

/-- The pages that need a user. -/
def needsUser (page : Page) : Bool :=
  page = .home || page = .settings || page = .homeList || page = .homeCreate ||
    page = .formCreate || page = .homeDetail || page = .profileDetail ||
    page = .profileSettings || page = .qrCode

/-- The pages of the login: the gate, `FormLogin` and its bottom sheets. -/
def isLogin (page : Page) : Bool := page = .gate || page = .login || isSheet page

/-- Bottom sheets and popups leave the page below them visible. -/
def isModal (page : Page) : Bool := isSheet page || page = .popup

/-- The page that is visible, possibly behind a sheet or a popup. -/
def visiblePage (s : State) : Option Page :=
  (s.stack.find? fun r => !isModal r.page).map fun r => displayed s.session r.page

/-- Signed out, the visible page is `FormLogin` and no route shows a page that needs a user. -/
def SignedOutClean (s : State) : Prop :=
  s.session = false →
    visiblePage s = some .login ∧ ∀ r ∈ s.stack, needsUser (displayed s.session r.page) = false

/-- Some Logout handler waits. -/
def LoggingOut (s : State) : Prop := ∃ h ∈ s.handlers, ∃ route out, h = Handler.logout route out

/-- There are routes, and all of them are routes of the login. -/
def LoginOnly (stack : List Route) : Prop := stack ≠ [] ∧ ∀ r ∈ stack, isLogin r.page = true

/-- The navigator follows the session: a route that needs a user is on the stack only while there is
one, or while a Logout handler still has to navigate. -/
def Follows (s : State) : Prop := s.session = true ∨ LoggingOut s ∨ LoginOnly s.stack

/-- The condition on a handler that completes, in the state without it.

A failed Logout finds the session still there, another Logout waiting, or routes of the login only;
a Logout that navigates finds routes of the login only below the top route, and one that can no
longer navigate, on the whole stack. The other handlers that navigate do so while there is a session
or a Logout waits. -/
def OrderlyFinish (h : Handler) (ok late : Bool) (s : State) : Prop :=
  match h with
  | .login _ false => True
  | .login route true => mounted route late s = true → s.session = true ∨ LoggingOut s
  | .logout _ false => ok = false → Follows s
  | .logout route true => s.session = true ∨ LoggingOut s ∨
      if mounted route late s then ∀ r ∈ s.stack.tail, isLogin r.page = true else LoginOnly s.stack
  | .create route => mounted route late s = true → s.session = true ∨ LoggingOut s
  | .save route => ok = true → mounted route late s = true →
      s.session = true ∨ LoggingOut s ∨ LoginOnly s.stack.tail

/-- The condition on a step: a session that ends from outside does so while a Logout waits or only
routes of the login are on the stack, and handlers complete in order. -/
def Orderly (s : State) : Event → Prop
  | .sessionEnded => LoggingOut s ∨ LoginOnly s.stack
  | .completed i ok late => ∀ h rest, Outstanding.complete s.handlers i = some (h, rest) →
      OrderlyFinish h ok late { s with handlers := rest }
  | _ => True

/-! ### Orderly steps -/

theorem loggingOut_wait {s : State} (hs : LoggingOut s) (h : Handler) : LoggingOut (wait h s) := by
  obtain ⟨h', hmem, hlogout⟩ := hs
  exact ⟨h', List.mem_append_left _ hmem, hlogout⟩

theorem follows_wait {s : State} (hs : Follows s) (h : Handler) : Follows (wait h s) :=
  hs.imp_right (Or.imp_left fun hout => loggingOut_wait hout h)

/-- What the routes of the login show to a user who is signed out. -/
theorem displayed_of_isLogin {page : Page} (hlogin : isLogin page = true) :
    displayed false page = .login ∨ displayed false page = .loginSheet ∨
      displayed false page = .registerSheet := by
  cases page <;> first | exact absurd hlogin (by decide) | simp [displayed]

/-- What needs a page that is not of the login on top needs a session, or a Logout that waits. -/
theorem session_of_top {s : State} {p : Page → Bool} (htop : (top s).any p = true)
    (hlogin : p .login = false) (hsheet : p .loginSheet = false)
    (hregister : p .registerSheet = false) (hs : Follows s) :
    s.session = true ∨ LoggingOut s := by
  obtain ⟨page, hpage, hp⟩ := (Option.any_eq_true _ _).mp htop
  obtain ⟨r, rest, hstack, rfl⟩ := top_eq_some hpage
  rcases or_assoc.mpr hs with hframe | ⟨-, honly⟩
  · exact hframe
  · cases hsession : s.session with
    | true => exact Or.inl rfl
    | false =>
      rw [hsession] at hp
      have hr : isLogin r.page = true := honly r (hstack ▸ List.mem_cons_self)
      rcases displayed_of_isLogin hr with h | h | h <;> rw [h] at hp
      · exact absurd (hlogin.symm.trans hp) (by decide)
      · exact absurd (hsheet.symm.trans hp) (by decide)
      · exact absurd (hregister.symm.trans hp) (by decide)

/-- While there is a session, or a Logout waits, the stack may change in any way. -/
theorem follows_of_frame {s t : State} (hs : s.session = true ∨ LoggingOut s)
    (hsession : t.session = s.session) (hhandlers : t.handlers = s.handlers) : Follows t := by
  rcases hs with hin | ⟨h, hmem, hlogout⟩
  · exact Or.inl (hsession.trans hin)
  · exact Or.inr (Or.inl ⟨h, hhandlers ▸ hmem, hlogout⟩)

theorem follows_finish {h : Handler} {ok late : Bool} {s : State}
    (hs : Follows s ∨ ∃ route out, h = .logout route out) (hord : OrderlyFinish h ok late s) :
    Follows (finish h ok late s) := by
  rcases h with ⟨route, _ | _⟩ | ⟨route, _ | _⟩ | route | route
  · have hs : Follows s := hs.resolve_right (by simp)
    simp only [finish]
    split
    · exact Or.inl rfl
    · exact hs
  · have hs : Follows s := hs.resolve_right (by simp)
    simp only [finish]
    split
    · exact follows_of_frame (hord ‹_›) rfl rfl
    · exact hs
  · simp only [finish]
    split
    · exact Or.inr (Or.inl ⟨_, List.mem_append_right _ List.mem_cons_self, route, true, rfl⟩)
    · exact hord (Bool.not_eq_true _ ▸ ‹_›)
  · simp only [OrderlyFinish] at hord
    simp only [finish]
    rcases or_assoc.mpr hord with hframe | honly
    · split
      · exact follows_of_frame hframe rfl rfl
      · exact follows_of_frame hframe rfl rfl
    · split at honly <;> rename_i hmounted
      · rw [if_pos hmounted]
        refine Or.inr (Or.inr ⟨List.cons_ne_nil _ _, fun r hr => ?_⟩)
        rcases List.mem_cons.mp hr with rfl | hr
        · rfl
        · exact honly r hr
      · rw [if_neg hmounted]
        exact Or.inr (Or.inr honly)
  · have hs : Follows s := hs.resolve_right (by simp)
    simp only [finish]
    split
    · exact follows_of_frame (hord ‹_›) rfl rfl
    · exact hs
  · have hs : Follows s := hs.resolve_right (by simp)
    simp only [finish]
    split
    · rename_i hpop
      obtain ⟨hok, hmounted⟩ := (Bool.and_eq_true _ _).mp hpop
      rcases or_assoc.mpr (hord hok hmounted) with hframe | honly
      · exact follows_of_frame hframe rfl rfl
      · exact Or.inr (Or.inr honly)
    · exact hs

/-- An orderly step keeps the navigator following the session. -/
theorem follows_step {s t : State} {e : Event} (hs : Follows s) (he : Orderly s e)
    (hstep : step s e = some t) : Follows t := by
  cases stepped_of_step hstep with
  | bottomBar index htop =>
    exact follows_of_frame (session_of_top htop rfl rfl rfl hs) rfl rfl
  | openPage page htop hlink =>
    have hany : (top s).any (fun p => page ∈ links p) = true := by simp [htop, hlink]
    exact follows_of_frame (session_of_top hany rfl rfl rfl hs) rfl rfl
  | openPopup htop =>
    exact follows_of_frame (session_of_top htop rfl rfl rfl hs) rfl rfl
  | openSheet register =>
    rcases or_assoc.mpr hs with hframe | ⟨-, honly⟩
    · exact follows_of_frame hframe rfl rfl
    · refine Or.inr (Or.inr ⟨List.cons_ne_nil _ _, fun r hr => ?_⟩)
      rcases List.mem_cons.mp hr with rfl | hr
      · cases register <;> rfl
      · exact honly r hr
  | back hlength =>
    rcases or_assoc.mpr hs with hframe | ⟨-, honly⟩
    · exact follows_of_frame hframe rfl rfl
    · refine Or.inr (Or.inr ⟨fun hnil => ?_, fun r hr => honly r (List.mem_of_mem_tail hr)⟩)
      have hone : s.stack.length - 1 = 0 :=
        List.length_tail.symm.trans (List.length_eq_zero_iff.mpr hnil)
      omega
  | tapLogin | tapLogout | tapCreate | tapSave => exact follows_wait hs _
  | @completed _ h rest ok late hcall =>
    refine follows_finish ?_ (he h rest hcall)
    rcases hs with hin | ⟨h', hmem, hlogout⟩ | honly
    · exact Or.inl (Or.inl hin)
    · rcases (Outstanding.mem_iff_of_complete hcall).mp hmem with rfl | hrest
      · exact Or.inr hlogout
      · exact Or.inl (Or.inr (Or.inl ⟨h', hrest, hlogout⟩))
    · exact Or.inl (Or.inr (Or.inr honly))
  | sessionEnded => exact Or.inr he

/-- Routes of the login only, in the shape of a reachable stack: `FormLogin` is on top, or behind
the bottom sheet on top. -/
theorem visiblePage_of_loginOnly {s : State} (hs : Shaped s) (honly : LoginOnly s.stack)
    (hout : s.session = false) : visiblePage s = some .login := by
  have hpage {r : Route} (hr : r.page = .gate ∨ r.page = .login) :
      isModal r.page = false ∧ displayed s.session r.page = .login := by
    rcases hr with h | h <;> simp [h, hout, isModal, isSheet, displayed]
  obtain ⟨r, rest, hstack⟩ := List.exists_cons_of_ne_nil honly.1
  have hr : isLogin r.page = true := honly.2 r (hstack ▸ List.mem_cons_self)
  simp only [isLogin, Bool.or_eq_true, decide_eq_true_eq] at hr
  rcases hr with hr | hsheet
  · obtain ⟨hmodal, hlogin⟩ := hpage hr
    simp [visiblePage, hstack, hmodal, hlogin]
  · obtain ⟨b, below, rfl, hb⟩ := (hstack ▸ hs.1).1.sheet hsheet
    obtain ⟨hmodal, hlogin⟩ := hpage hb
    have hsheet' : isModal r.page = true := by simp [isModal, hsheet]
    simp [visiblePage, hstack, hsheet', hmodal, hlogin]

/-- **Signed out, on the login page.** In every run from the launch whose steps are orderly, once
all handlers have completed: if nobody is signed in, the visible page is `FormLogin` and no page
that needs a user is on the stack. -/
theorem signedOutClean_of_orderly {session : Bool} {es : List Event} {s : State}
    (hes : EventRun.Meets step Orderly (State.launch session) es)
    (hrun : EventRun.run step (State.launch session) es = some s) (hdone : s.handlers = []) :
    SignedOutClean s := by
  have hlaunch : Follows (State.launch session) :=
    Or.inr (Or.inr ⟨List.cons_ne_nil _ _, fun r hr => by rw [List.mem_singleton.mp hr]; rfl⟩)
  have hs : Follows s := EventRun.invariant_of_meets (fun _ _ _ => follows_step) hlaunch hes hrun
  intro hout
  have honly : LoginOnly s.stack := by
    rcases hs with hin | ⟨h, hmem, -⟩ | honly
    · exact absurd (hout.symm.trans hin) (by decide)
    · exact absurd hmem (by simp [hdone])
    · exact honly
  refine ⟨visiblePage_of_loginOnly (shaped_of_run hrun) honly hout, fun r hr => ?_⟩
  rw [hout]
  rcases displayed_of_isLogin (honly.2 r hr) with h | h | h <;> rw [h] <;> rfl

/-! ### A session that ends behind the bottom bar, and a logout with a page on top -/

/-- Signed in, the user taps Home, and the session ends. -/
def endedOnHome : List Event := [.bottomBar navBarHome, .sessionEnded]

/-- Signed in, the user goes to the settings, taps Logout, opens the home list while `signOut` is
pending, and `signOut` completes. -/
def logoutUnderList : List Event :=
  [.bottomBar navBarProfile, .tapLogout, .openPage .homeList, .completed 0 true false,
    .completed 0 true false]

/-- In the first run the home page stays visible to nobody; in the second the settings page stays
below the login page. -/
theorem signed_out_with_user_pages :
    (∃ s, EventRun.run step (State.launch true) endedOnHome = some s ∧ s.handlers = [] ∧
      s.session = false ∧ visiblePage s = some .home ∧ ¬ SignedOutClean s) ∧
    ∃ s, EventRun.run step (State.launch true) logoutUnderList = some s ∧ s.handlers = [] ∧
      s.session = false ∧ s.stack.map Route.page = [.login, .settings] ∧ ¬ SignedOutClean s := by
  refine ⟨⟨⟨[⟨1, none, .home⟩], false, [], 2⟩, rfl, rfl, rfl, rfl, fun h => ?_⟩,
    ⟨⟨[⟨3, some "/login", .login⟩, ⟨1, none, .settings⟩], false, [], 4⟩, rfl, rfl, rfl, rfl,
      fun h => ?_⟩⟩
  · exact absurd ((h rfl).2 ⟨1, none, .home⟩ List.mem_cons_self) (by decide)
  · exact absurd ((h rfl).2 ⟨1, none, .settings⟩ (List.mem_cons_of_mem _ List.mem_cons_self))
      (by decide)

/-- A logout on the settings page. -/
theorem signedOutClean_logout :
    SignedOutClean ⟨[⟨2, some "/login", .login⟩], false, [], 3⟩ := by
  have hes : EventRun.Meets step Orderly (State.launch true)
      [.bottomBar navBarProfile, .tapLogout, .completed 0 true false,
        .completed 0 true false] := by
    refine .cons rfl trivial (.cons rfl trivial (.cons rfl ?_ (.cons rfl ?_ trivial)))
    · intro h rest hcall
      obtain ⟨rfl, rfl⟩ := Prod.mk.inj (Option.some.inj hcall)
      exact fun hok => absurd hok (by decide)
    · intro h rest hcall
      obtain ⟨rfl, rfl⟩ := Prod.mk.inj (Option.some.inj hcall)
      exact Or.inr (Or.inr fun r hr => nomatch hr)
  exact signedOutClean_of_orderly hes rfl rfl

end SmartHome.Navigation
