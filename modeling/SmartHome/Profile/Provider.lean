import SmartHome.Lib.EventRun
import SmartHome.Lib.Outstanding
import SmartHome.Profile.UserProfile

/-!
# The profile shown on the settings page

`UserProfileProvider` lives as long as the app. Opening `SettingsScreen` starts a fetch of the
profile of the account signed in at that moment; a fetch that completes and decodes overwrites the
provider, and nothing ever clears it. The header of the page shows what the provider holds.

The stored documents do not change during the runs considered here: sign-ins, sign-outs, openings
of the page and completions of fetches, in any order.

## Main definitions

* `ProfileSession.State`, `ProfileSession.Event`, `ProfileSession.step`.
* `ProfileSession.header` : the name and phone that the page shows.
* `ProfileSession.HeaderOwn` : what the header shows belongs to the account signed in.
* `ProfileSession.SameProfile`, `ProfileSession.Undisturbed` : the condition on a step, by the
  account whose fetch has delivered last, under which no foreign profile comes into view.

## Main results

* `ProfileSession.headerOwn_of_undisturbed` : in a run of undisturbed steps the header never shows
  another account's profile.
-/

namespace SmartHome.ProfileSession

open Dart

/-- The session, the provider, and the settings pages that are built. `deliveredFor` records the
account whose fetch has written the provider last, which the app does not keep. -/
structure State where
  currentUser : Option Uid
  userProfile : Option UserProfile
  deliveredFor : Option Uid
  fetches : List Uid
  settingsPages : ℕ
  deriving DecidableEq

/-- The app after its launch, before anyone signs in. -/
def State.initial : State :=
  { currentUser := none, userProfile := none, deliveredFor := none, fetches := []
    settingsPages := 0 }

/-- How the read of a profile document ends: with a snapshot of the document, or by throwing. -/
inductive Read where
  | snapshot
  | thrown
  deriving DecidableEq

/-- What can happen next. `logout` is the button of a settings page once `signOut` has completed,
which replaces that page; `sessionEnded` is a session that ends in any other way. -/
inductive Event where
  | signIn (uid : Uid)
  | logout
  | sessionEnded
  | openSettings
  | leaveSettings
  | fetched (i : ℕ) (read : Read)
  deriving DecidableEq

/-- `_SettingsScreenState._loadUserProfile`: a fetch is started for the account signed in. -/
def loadUserProfile (s : State) : State :=
  match s.currentUser with
  | some uid => { s with fetches := s.fetches ++ [uid] }
  | none => s

/-- `UserProfileProvider.fetchUserProfile` after its read: the provider is written unless the read
or the decoder throws. -/
def fetchUserProfile (profiles : Profiles) (uid : Uid) (read : Read) (s : State) : State :=
  match read with
  | .thrown => s
  | .snapshot =>
    match UserProfile.fromFirestore (profiles uid) with
    | .ok profile => { s with userProfile := some profile, deliveredFor := some uid }
    | .error _ => s

/-- One step. -/
def step (profiles : Profiles) (s : State) : Event → Option State
  | .signIn uid => some { s with currentUser := some uid }
  | .logout =>
    if s.settingsPages = 0 then none
    else some { s with currentUser := none, settingsPages := s.settingsPages - 1 }
  | .sessionEnded => some { s with currentUser := none }
  | .openSettings => some (loadUserProfile { s with settingsPages := s.settingsPages + 1 })
  | .leaveSettings =>
    if s.settingsPages = 0 then none
    else some { s with settingsPages := s.settingsPages - 1 }
  | .fetched i read =>
    (Outstanding.complete s.fetches i).map fun call =>
      fetchUserProfile profiles call.1 read { s with fetches := call.2 }

/-- The texts shown while the provider holds nothing. -/
structure Placeholders where
  user : String
  mobile : String

/-- The name and the phone in the header of the page. -/
def header (texts : Placeholders) (s : State) : String × String :=
  ((s.userProfile.map UserProfile.name).getD texts.user,
    (s.userProfile.map UserProfile.phone).getD texts.mobile)

/-- While a settings page is built, its header shows the placeholders, or the name and phone of the
document of the account signed in. -/
def HeaderOwn (texts : Placeholders) (profiles : Profiles) (s : State) : Prop :=
  0 < s.settingsPages → header texts s = (texts.user, texts.mobile) ∨
    ∃ uid p, s.currentUser = some uid ∧ UserProfile.fromFirestore (profiles uid) = .ok p ∧
      header texts s = (p.name, p.phone)

/-- An account is signed in, and its document decodes as that of `owner` does. -/
def SameProfile (profiles : Profiles) (user : Option Uid) (owner : Uid) : Prop :=
  ∃ uid, user = some uid ∧
    UserProfile.fromFirestore (profiles uid) = UserProfile.fromFirestore (profiles owner)

/-- No fetch has delivered yet, or the account whose fetch has delivered last has the profile of the
account `user`. -/
def DeliveredOwn (profiles : Profiles) (user : Option Uid) (s : State) : Prop :=
  ∀ owner, s.deliveredFor = some owner → SameProfile profiles user owner

/-- No foreign profile comes into view: the session changes while a settings page is built, or a
settings page is opened, only if no fetch has delivered yet, or the account whose fetch has
delivered last has the profile of the account that is then signed in; and a fetch that delivers
while a settings page is built was started for an account with that profile. -/
def Undisturbed (profiles : Profiles) (s : State) : Event → Prop
  | .signIn uid => 0 < s.settingsPages → DeliveredOwn profiles (some uid) s
  | .logout => 1 < s.settingsPages → s.deliveredFor = none
  | .sessionEnded => 0 < s.settingsPages → s.deliveredFor = none
  | .openSettings => DeliveredOwn profiles s.currentUser s
  | .leaveSettings => True
  | .fetched i .snapshot => 0 < s.settingsPages → ∀ uid p, s.fetches[i]? = some uid →
      UserProfile.fromFirestore (profiles uid) = .ok p → SameProfile profiles s.currentUser uid
  | .fetched _ .thrown => True

variable {profiles : Profiles}

/-- The invariant of undisturbed runs: the provider holds the profile of the account whose fetch has
delivered last, and while it is in view this is the profile of the account signed in. -/
structure InView (profiles : Profiles) (s : State) : Prop where
  delivered : ∀ p, s.userProfile = some p →
    ∃ owner, s.deliveredFor = some owner ∧ UserProfile.fromFirestore (profiles owner) = .ok p
  own : 0 < s.settingsPages → DeliveredOwn profiles s.currentUser s

theorem deliveredOwn_of_none {user : Option Uid} {s : State} (h : s.deliveredFor = none) :
    DeliveredOwn profiles user s :=
  fun _ howner => absurd (h.symm.trans howner) (by simp)

theorem headerOwn_of_inView (texts : Placeholders) {s : State} (h : InView profiles s) :
    HeaderOwn texts profiles s := by
  intro hopen
  cases hp : s.userProfile with
  | none => exact Or.inl (by simp [header, hp])
  | some p =>
    obtain ⟨owner, howner, hdoc⟩ := h.delivered p hp
    obtain ⟨uid, huser, hsame⟩ := h.own hopen owner howner
    exact Or.inr ⟨uid, p, huser, hsame.trans hdoc, by simp [header, hp]⟩

/-- A completed fetch changes nothing, or writes the profile in the document of its account. -/
theorem fetchUserProfile_cases (profiles : Profiles) (uid : Uid) (read : Read) (s : State) :
    fetchUserProfile profiles uid read s = s ∨
      ∃ p, read = .snapshot ∧ UserProfile.fromFirestore (profiles uid) = .ok p ∧
        fetchUserProfile profiles uid read s =
          { s with userProfile := some p, deliveredFor := some uid } := by
  cases read with
  | thrown => exact Or.inl rfl
  | snapshot =>
    cases hdoc : UserProfile.fromFirestore (profiles uid) with
    | ok p => exact Or.inr ⟨p, rfl, rfl, by simp only [fetchUserProfile, hdoc]⟩
    | error e => exact Or.inl (by simp only [fetchUserProfile, hdoc])

/-- Opening the page starts a fetch at most. -/
theorem loadUserProfile_eq (s : State) : ∃ fetches, loadUserProfile s = { s with fetches } := by
  unfold loadUserProfile
  split
  · exact ⟨_, rfl⟩
  · exact ⟨s.fetches, rfl⟩

/-- An undisturbed step keeps foreign profiles out of view. -/
theorem inView_step {s t : State} {e : Event} (hs : InView profiles s)
    (he : Undisturbed profiles s e) (hstep : step profiles s e = some t) : InView profiles t := by
  cases e with
  | signIn uid =>
    obtain rfl := Option.some.inj hstep
    exact ⟨hs.delivered, he⟩
  | logout =>
    simp only [step, Option.ite_none_left_eq_some] at hstep
    obtain ⟨-, hstep⟩ := hstep
    obtain rfl := Option.some.inj hstep
    exact ⟨hs.delivered, fun hopen => deliveredOwn_of_none (he (Nat.lt_of_sub_pos hopen))⟩
  | sessionEnded =>
    obtain rfl := Option.some.inj hstep
    exact ⟨hs.delivered, fun hopen => deliveredOwn_of_none (he hopen)⟩
  | openSettings =>
    obtain ⟨fetches, hload⟩ := loadUserProfile_eq { s with settingsPages := s.settingsPages + 1 }
    obtain rfl := (Option.some.inj hstep).symm.trans hload
    exact ⟨hs.delivered, fun _ => he⟩
  | leaveSettings =>
    simp only [step, Option.ite_none_left_eq_some] at hstep
    obtain ⟨-, hstep⟩ := hstep
    obtain rfl := Option.some.inj hstep
    exact ⟨hs.delivered, fun hopen => hs.own (Nat.lt_of_lt_of_le hopen (Nat.sub_le _ _))⟩
  | fetched i read =>
    obtain ⟨⟨uid, rest⟩, hcall, rfl⟩ := Option.map_eq_some_iff.mp hstep
    change InView profiles (fetchUserProfile profiles uid read { s with fetches := rest })
    rcases fetchUserProfile_cases profiles uid read { s with fetches := rest } with
      heq | ⟨p, rfl, hdoc, heq⟩
    · rw [heq]
      exact ⟨hs.delivered, hs.own⟩
    · rw [heq]
      constructor
      · intro q hq
        obtain rfl := Option.some.inj hq
        exact ⟨uid, rfl, hdoc⟩
      · intro hopen owner howner
        obtain rfl := Option.some.inj howner
        exact he hopen uid p (Outstanding.complete_eq_some.mp hcall).1 hdoc

/-- **No foreign profile on the settings page.** In every run from the launch whose steps are
undisturbed, whatever the order in which fetches complete or fail, the header shows the
placeholders or the profile of the account signed in. -/
theorem headerOwn_of_undisturbed (texts : Placeholders) {es : List Event} {s : State}
    (hes : EventRun.Meets (step profiles) (Undisturbed profiles) State.initial es)
    (hrun : EventRun.run (step profiles) State.initial es = some s) :
    HeaderOwn texts profiles s := by
  have hinit : InView profiles State.initial :=
    ⟨nofun, fun hopen => absurd hopen (Nat.lt_irrefl 0)⟩
  exact headerOwn_of_inView texts
    (EventRun.invariant_of_meets (fun _ _ _ => inView_step) hinit hes hrun)

/-! ### An account without a profile after one with a profile -/

/-- Two accounts, of which only `a` has saved a profile. -/
def profilesOfA : Profiles :=
  fun uid => if uid = "a" then
    some (Fields.ofList
      [("firstname", .str "Ann"), ("lastname", .str "Lee"), ("phone", .str "081")])
  else none

/-- The account `a` opens the settings page, its profile arrives, it logs out, and the account `b`
signs in and opens the settings page. -/
def otherAccountOpens : List Event :=
  [.signIn "a", .openSettings, .fetched 0 .snapshot, .logout, .signIn "b", .openSettings]

/-- The profile of `a`. -/
def profileOfA : UserProfile := { id := "", name := "Ann Lee", email := "", phone := "081" }

/-- The settings page of `b` shows the name and the phone of `a`, and goes on doing so after the
fetch for `b`, whose document does not exist and cannot be decoded. -/
theorem header_shows_other_account :
    ∃ s t, EventRun.run (step profilesOfA) State.initial otherAccountOpens = some s ∧
      step profilesOfA s (.fetched 0 .snapshot) = some t ∧ t.fetches = [] ∧
      t.currentUser = some "b" ∧ profilesOfA "b" = none ∧
      header ⟨"User", "Mobile"⟩ t = ("Ann Lee", "081") ∧
      ¬ HeaderOwn ⟨"User", "Mobile"⟩ profilesOfA s ∧
      ¬ HeaderOwn ⟨"User", "Mobile"⟩ profilesOfA t := by
  refine ⟨⟨some "b", some profileOfA, some "a", ["b"], 1⟩,
    ⟨some "b", some profileOfA, some "a", [], 1⟩, rfl, rfl, rfl, rfl, rfl, rfl, ?_, ?_⟩
  all_goals
    intro h
    rcases h Nat.one_pos with h | ⟨uid, p, huser, hdoc, -⟩
    · exact absurd (congrArg Prod.fst h) (by decide)
    · obtain rfl := Option.some.inj huser
      cases hdoc

/-- Two accounts with profiles. -/
def profilesOfBoth : Profiles :=
  fun uid => if uid = "a" then profilesOfA "a"
  else if uid = "b" then
    some (Fields.ofList
      [("firstname", .str "Bo"), ("lastname", .str "Kim"), ("phone", .str "082")])
  else none

/-- The account `a` opens the settings page and logs out before its profile has arrived. The account
`b` signs in and opens the page, and its profile arrives while the fetch of `a` is still waiting. -/
def sessionChanges : List Event :=
  [.signIn "a", .openSettings, .logout, .signIn "b", .openSettings, .fetched 1 .snapshot]

theorem headerOwn_two_accounts :
    HeaderOwn ⟨"User", "Mobile"⟩ profilesOfBoth
        ⟨some "b", some ⟨"", "Bo Kim", "", "082"⟩, some "b", ["a"], 1⟩ ∧
      header ⟨"User", "Mobile"⟩ ⟨some "b", some ⟨"", "Bo Kim", "", "082"⟩, some "b", ["a"], 1⟩ =
        ("Bo Kim", "082") := by
  have hes : EventRun.Meets (step profilesOfBoth) (Undisturbed profilesOfBoth) State.initial
      sessionChanges := by
    refine .cons rfl (fun h => absurd h (by decide)) (.cons rfl (deliveredOwn_of_none rfl)
      (.cons rfl (fun h => absurd h (by decide)) (.cons rfl (fun h => absurd h (by decide))
        (.cons rfl (deliveredOwn_of_none rfl) (.cons rfl (fun _ uid p huid _ => ?_) trivial)))))
    obtain rfl := Option.some.inj huid
    exact ⟨"b", rfl, rfl⟩
  exact ⟨headerOwn_of_undisturbed _ hes rfl, rfl⟩

end SmartHome.ProfileSession
