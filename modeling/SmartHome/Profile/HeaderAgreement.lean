import SmartHome.Lib.EventRun
import SmartHome.Lib.Outstanding
import SmartHome.Profile.Saves

/-!
# The profile on three pages

One user, with a profile document, goes from the settings page to the profile page and from there to
the form that saves the profile. The document is shown twice: the header of the settings page shows
what `UserProfileProvider` holds, which a fetch at the opening of the settings page fills; the
profile page shows a map of its own, which is fetched when the page opens and, by `onSave`, after a
save. Nothing fetches for the header after a save, and `updateUserProfile` of the provider is never
called.

A fetch reads the document at one moment and delivers what it has read at a later one. A save waits
for the write of its texts and for `updateDisplayName`. Fetches and saves go on when their page is
gone. Neither the profile page nor the form has a bottom bar, so each of the three pages is built at
most once.

## Main definitions

* `ProfilePages.State`, `ProfilePages.Event`, `ProfilePages.step`.
* `ProfilePages.Agreement` : header and profile page show the name and the phone in the document.
* `ProfilePages.Timely` : the condition on a step under which no page is left behind.

## Main results

* `ProfilePages.agreement_of_timely` : in runs of timely steps the pages agree with the document
  whenever no fetch is outstanding.
-/

namespace SmartHome.ProfilePages

open Dart
open ProfileSettings (Texts)

/-- The page on top: none of the three, or one of them on the others before it. -/
inductive Page where
  | away
  | settings
  | detail
  | form
  deriving DecidableEq

namespace Page

/-- A settings page is built. -/
def hasSettings (page : Page) : Bool := page ≠ .away

/-- A profile page is built. -/
def hasDetail (page : Page) : Bool := page = .detail || page = .form

/-- The page below. -/
def below : Page → Page
  | .form => .detail
  | .detail => .settings
  | .settings | .away => .away

end Page

/-- Who waits for a fetch: the provider, or a profile page. -/
inductive Reader where
  | provider
  | detail (id : ℕ)
  deriving DecidableEq

/-- An outstanding fetch, with the document once it has been read. -/
structure Fetch where
  reader : Reader
  snapshot : Option Fields

/-- The call that a save waits for. -/
inductive SaveCall where
  | set (data : List (String × Dyn))
  | updateDisplayName

/-- A save, with the profile page whose `onSave` it calls. -/
structure Save where
  detailId : ℕ
  call : SaveCall

/-- The document, the provider, the pages, and what is outstanding. `detailId` is the identity of
the profile page that was opened last, and `detail` its state. -/
structure State where
  document : Fields
  userProfile : Option UserProfile
  page : Page
  detailId : ℕ
  detail : ProfileDetail
  fetches : List Fetch
  saves : List Save

/-- The app after its launch. -/
def State.initial (document : Fields) : State :=
  { document, userProfile := none, page := .away, detailId := 0, detail := .initial, fetches := [],
    saves := [] }

/-- What can happen next. In `delivered` and `completed`, `ok` says whether the call succeeded; in
`completed`, `alive` says whether the `pop` at the end of a save removes a page: not if the context
of the form is gone, or if a date picker is on top. -/
inductive Event where
  | openSettings
  | openDetail
  | openForm
  | back
  | tapSave (texts : Texts)
  | read (i : ℕ)
  | delivered (i : ℕ) (ok : Bool)
  | completed (i : ℕ) (ok alive : Bool)

/-! ### Steps -/

/-- A fetch starts. -/
def startFetch (reader : Reader) (s : State) : State :=
  { s with fetches := s.fetches ++ [⟨reader, none⟩] }

/-- `UserProfileProvider.fetchUserProfile` after its read: nothing is written if the read or the
decoder throws. -/
def fillProvider (snapshot : Option Fields) (s : State) : State :=
  match snapshot with
  | none => s
  | some d =>
    match UserProfile.fromFirestore (some d) with
    | .ok profile => { s with userProfile := some profile }
    | .error _ => s

/-- `_ProfileDetailScreen.fetchUserProfile` after `getProfile`, which returns null if the read
throws. On a page that is gone `setState` throws. -/
def fillDetail (id : ℕ) (snapshot : Option Fields) (s : State) : State :=
  if s.page.hasDetail ∧ id = s.detailId then
    { s with detail := (s.detail.fetchUserProfile snapshot).1 }
  else s

/-- A fetch that completes. -/
def deliver (f : Fetch) (ok : Bool) (s : State) : State :=
  match f.reader with
  | .provider => fillProvider (if ok then f.snapshot else none) s
  | .detail id => fillDetail id (if ok then f.snapshot else none) s

/-- The end of `_updateProfile`: `onSave` and `Navigator.pop`. -/
def finishUpdate (id : ℕ) (alive : Bool) (s : State) : State :=
  let refreshed := startFetch (.detail id) s
  if alive then { refreshed with page := refreshed.page.below } else refreshed

/-- A save whose call has succeeded goes on. -/
def resumeUpdate (save : Save) (alive : Bool) (s : State) : State :=
  match save.call with
  | .set data =>
    { s with document := s.document.merge data,
             saves := s.saves ++ [⟨save.detailId, .updateDisplayName⟩] }
  | .updateDisplayName => finishUpdate save.detailId alive s

/-- One step. The settings page can be opened from the bottom bar, also of a settings page. -/
def step (s : State) : Event → Option State
  | .openSettings =>
    if s.page = .away ∨ s.page = .settings then
      some (startFetch .provider { s with page := .settings })
    else none
  | .openDetail =>
    if s.page = .settings then
      some (startFetch (.detail (s.detailId + 1))
        { s with page := .detail, detailId := s.detailId + 1, detail := .initial })
    else none
  | .openForm => if s.page = .detail then some { s with page := .form } else none
  | .back => if s.page.hasSettings then some { s with page := s.page.below } else none
  | .tapSave texts =>
    if s.page = .form ∧ ProfileSettings.validate texts then
      some { s with saves := s.saves ++ [⟨s.detailId, .set texts.data⟩] }
    else none
  | .read i =>
    s.fetches[i]?.bind fun f =>
      if f.snapshot.isNone then
        some { s with fetches := s.fetches.set i { f with snapshot := some s.document } }
      else none
  | .delivered i ok =>
    (Outstanding.complete s.fetches i).bind fun call =>
      if ok → call.1.snapshot.isSome then some (deliver call.1 ok { s with fetches := call.2 })
      else none
  | .completed i ok alive =>
    (Outstanding.complete s.saves i).map fun call =>
      if ok then resumeUpdate call.1 alive { s with saves := call.2 }
      else { s with saves := call.2 }

/-- What a step does, with the guards that it has passed. -/
inductive Stepped (s : State) : Event → State → Prop
  | openSettings (hpage : s.page = .away ∨ s.page = .settings) :
      Stepped s .openSettings (startFetch .provider { s with page := .settings })
  | openDetail (hpage : s.page = .settings) :
      Stepped s .openDetail (startFetch (.detail (s.detailId + 1))
        { s with page := .detail, detailId := s.detailId + 1, detail := .initial })
  | openForm (hpage : s.page = .detail) : Stepped s .openForm { s with page := .form }
  | back (hpage : s.page.hasSettings = true) : Stepped s .back { s with page := s.page.below }
  | tapSave (texts : Texts) (hpage : s.page = .form)
      (hvalid : ProfileSettings.validate texts = true) :
      Stepped s (.tapSave texts) { s with saves := s.saves ++ [⟨s.detailId, .set texts.data⟩] }
  | read {i : ℕ} {f : Fetch} (hfetch : s.fetches[i]? = some f) (hunread : f.snapshot = none) :
      Stepped s (.read i)
        { s with fetches := s.fetches.set i { f with snapshot := some s.document } }
  | delivered {i : ℕ} {f : Fetch} {rest : List Fetch} {ok : Bool}
      (hcall : Outstanding.complete s.fetches i = some (f, rest))
      (hread : ok = true → f.snapshot.isSome = true) :
      Stepped s (.delivered i ok) (deliver f ok { s with fetches := rest })
  | written {i : ℕ} {save : Save} {rest : List Save} (alive : Bool)
      (hcall : Outstanding.complete s.saves i = some (save, rest)) :
      Stepped s (.completed i true alive) (resumeUpdate save alive { s with saves := rest })
  | failed {i : ℕ} {save : Save} {rest : List Save} (alive : Bool)
      (hcall : Outstanding.complete s.saves i = some (save, rest)) :
      Stepped s (.completed i false alive) { s with saves := rest }

theorem stepped_of_step {s t : State} {e : Event} (hstep : step s e = some t) : Stepped s e t := by
  cases e with
  | openSettings =>
    simp only [step, Option.ite_none_right_eq_some, Option.some.injEq] at hstep
    obtain ⟨hpage, rfl⟩ := hstep
    exact .openSettings hpage
  | openDetail =>
    simp only [step, Option.ite_none_right_eq_some, Option.some.injEq] at hstep
    obtain ⟨hpage, rfl⟩ := hstep
    exact .openDetail hpage
  | openForm =>
    simp only [step, Option.ite_none_right_eq_some, Option.some.injEq] at hstep
    obtain ⟨hpage, rfl⟩ := hstep
    exact .openForm hpage
  | back =>
    simp only [step, Option.ite_none_right_eq_some, Option.some.injEq] at hstep
    obtain ⟨hpage, rfl⟩ := hstep
    exact .back hpage
  | tapSave texts =>
    simp only [step, Option.ite_none_right_eq_some, Option.some.injEq] at hstep
    obtain ⟨⟨hpage, hvalid⟩, rfl⟩ := hstep
    exact .tapSave texts hpage hvalid
  | read i =>
    obtain ⟨f, hfetch, hstep⟩ := Option.bind_eq_some_iff.mp hstep
    simp only [Option.ite_none_right_eq_some, Option.some.injEq] at hstep
    obtain ⟨hunread, rfl⟩ := hstep
    exact .read hfetch (Option.isNone_iff_eq_none.mp hunread)
  | delivered i ok =>
    obtain ⟨⟨f, rest⟩, hcall, hstep⟩ := Option.bind_eq_some_iff.mp hstep
    simp only [Option.ite_none_right_eq_some, Option.some.injEq] at hstep
    obtain ⟨hread, rfl⟩ := hstep
    exact .delivered hcall hread
  | completed i ok alive =>
    obtain ⟨⟨save, rest⟩, hcall, rfl⟩ := Option.map_eq_some_iff.mp hstep
    cases ok with
    | true => exact .written alive hcall
    | false => exact .failed alive hcall

/-! ### What the pages show -/

/-- The texts shown where there is nothing to show. -/
structure Labels where
  user : String
  mobile : String
  profileDetailErrorDataName : String
  profileDetailErrorDataPhone : String

/-- The name and the phone in a document. -/
def stored (d : Fields) : String × String :=
  (textOrEmpty d "firstname" ++ " " ++ textOrEmpty d "lastname", textOrEmpty d "phone")

/-- The name and the phone in the header of the settings page. -/
def header (labels : Labels) (s : State) : String × String :=
  ((s.userProfile.map UserProfile.name).getD labels.user,
    (s.userProfile.map UserProfile.phone).getD labels.mobile)

/-- A profile page shows a name and a phone. -/
def DetailShows (labels : Labels) (detail : ProfileDetail) (v : String × String) : Prop :=
  detail.fullname.getD labels.profileDetailErrorDataName = v.1 ∧
    detail.phone labels.profileDetailErrorDataPhone = .ok v.2

/-- The pages that are built show what is in the document. -/
structure Agreement (labels : Labels) (s : State) : Prop where
  header : s.page.hasSettings = true → header labels s = stored s.document
  detail : s.page.hasDetail = true → DetailShows labels s.detail (stored s.document)

/-! ### When a page is left behind -/

/-- The page that a fetch is for is built. -/
def Built (s : State) : Reader → Prop
  | .provider => s.page.hasSettings = true
  | .detail id => s.page.hasDetail = true ∧ id = s.detailId

/-- The reader shows a name and a phone of this document, if it gets it. -/
def Readable (d : Fields) : Reader → Prop
  | .provider => ∃ p, UserProfile.fromFirestore (some d) = .ok p
  | .detail _ =>
    (∃ name, ProfileDetail.fullnameOf d = .ok name) ∧ ∃ phone, d "phone" = some (.str phone)

/-- A fetch for the reader is outstanding. -/
def Awaits (fetches : List Fetch) (r : Reader) : Prop := r ∈ fetches.map Fetch.reader

/-- The fetch brings the name and the phone that are stored now. -/
def Current (f : Fetch) (ok : Bool) (s : State) : Prop :=
  ok = true ∧ ∃ d, f.snapshot = some d ∧ Readable d f.reader ∧ stored d = stored s.document

/-- The fetch is for the provider and brings nothing, and the header is right as it is. -/
def Superfluous (labels : Labels) (f : Fetch) (ok : Bool) (s : State) : Prop :=
  f.reader = .provider ∧ (ok = true → ∀ d, f.snapshot = some d → ¬ Readable d .provider) ∧
    header labels s = stored s.document

/-- No page that is built is left behind. A fetch for it that completes brings what is stored now,
or another one is outstanding, or it leaves a header that is right; and a save that changes the
stored name or phone writes while a fetch is outstanding for every page that is built. -/
def Timely (labels : Labels) (s : State) : Event → Prop
  | .delivered i ok => ∀ f rest, Outstanding.complete s.fetches i = some (f, rest) →
      Built s f.reader → Current f ok s ∨ Awaits rest f.reader ∨ Superfluous labels f ok s
  | .completed i true _ => ∀ save rest data, Outstanding.complete s.saves i = some (save, rest) →
      save.call = .set data →
        stored (s.document.merge data) = stored s.document ∨
          ∀ r, Built s r → Awaits s.fetches r
  | _ => True

/-- The page of a reader shows a name and a phone. -/
def Shows (labels : Labels) (s : State) (v : String × String) : Reader → Prop
  | .provider => header labels s = v
  | .detail _ => DetailShows labels s.detail v

/-- The invariant of runs of timely steps: every page that is built shows what is stored, or a fetch
for it is outstanding. -/
def Settled (labels : Labels) (s : State) : Prop :=
  ∀ r, Built s r → Shows labels s (stored s.document) r ∨ Awaits s.fetches r

variable {labels : Labels}

/-! ### What a fetch brings -/

theorem textOrEmpty_of_fieldOrEmpty {d : Fields} {key text : String}
    (h : d.fieldOrEmpty key = .ok text) : textOrEmpty d key = text := by
  have hvalue : (d.field key).orElse (.str "") = .str text := Dyn.asString_eq_ok.mp h
  cases hkey : d key with
  | none =>
    rw [Fields.field_of_none hkey] at hvalue
    rw [textOrEmpty, hkey]
    exact Dyn.str.inj hvalue
  | some v =>
    rw [Fields.field_of_some hkey] at hvalue
    rw [textOrEmpty, hkey]
    cases v with
    | null => exact Dyn.str.inj hvalue
    | str t => exact Dyn.str.inj hvalue
    | bool | int | double | list | map | object => cases hvalue

/-- What the decoder reads is the stored name and phone. -/
theorem stored_of_fromFirestore {d : Fields} {p : UserProfile}
    (hp : UserProfile.fromFirestore (some d) = .ok p) : (p.name, p.phone) = stored d := by
  obtain ⟨-, hphone, -, first, last, hfirst, hlast, hname⟩ := UserProfile.fromFirestore_eq_ok.mp hp
  rw [stored, textOrEmpty_of_fieldOrEmpty hphone, hname,
    textOrEmpty_of_fieldOrEmpty (Fields.fieldOrEmpty_of_str hfirst),
    textOrEmpty_of_fieldOrEmpty (Fields.fieldOrEmpty_of_str hlast)]

/-- So is the full name that the profile page computes. -/
theorem stored_of_fullnameOf {d : Fields} {name : String}
    (h : ProfileDetail.fullnameOf d = .ok name) : name = (stored d).1 := by
  obtain ⟨sum, hsum, h⟩ := bind_eq_ok.mp h
  obtain ⟨first, hfirst, rfl⟩ := Dyn.plusStr_eq_ok.mp hsum
  obtain ⟨last, hlast, rfl⟩ := strPlus_eq_ok.mp h
  rw [stored, textOrEmpty_of_fieldOrEmpty (Dyn.asString_eq_ok.mpr hfirst),
    textOrEmpty_of_fieldOrEmpty (Dyn.asString_eq_ok.mpr hlast)]

/-- A profile page that gets a readable document shows what is stored in it. -/
theorem detailShows_of_readable (detail : ProfileDetail) {d : Fields} {id : ℕ}
    (h : Readable d (.detail id)) :
    DetailShows labels (detail.fetchUserProfile (some d)).1 (stored d) := by
  obtain ⟨⟨name, hname⟩, phone, hphone⟩ := h
  have hstored : (stored d).2 = phone :=
    textOrEmpty_of_fieldOrEmpty (Fields.fieldOrEmpty_of_str hphone)
  rw [DetailShows, hstored]
  simp only [ProfileDetail.fetchUserProfile, hname, Option.getD_some, ProfileDetail.phone,
    Option.elim, Fields.field_of_some hphone, Dyn.orElse_str, Dyn.asString_str]
  exact ⟨stored_of_fullnameOf hname, trivial⟩

@[simp] theorem fillProvider_detail (snapshot : Option Fields) (s : State) :
    (fillProvider snapshot s).detail = s.detail := by
  unfold fillProvider
  split
  · rfl
  · split <;> rfl

/-- Without a document that it can decode the provider keeps what it holds. -/
theorem fillProvider_of_not_readable {snapshot : Option Fields} {s : State}
    (h : ∀ d, snapshot = some d → ¬ Readable d .provider) : fillProvider snapshot s = s := by
  cases snapshot with
  | none => rfl
  | some d =>
    cases hd : UserProfile.fromFirestore (some d) with
    | ok p => exact absurd ⟨p, hd⟩ (h d rfl)
    | error e => simp only [fillProvider, hd]

@[simp] theorem fillDetail_userProfile (id : ℕ) (snapshot : Option Fields) (s : State) :
    (fillDetail id snapshot s).userProfile = s.userProfile := by
  unfold fillDetail
  split <;> rfl

/-- A fetch that completes writes the provider or the map of the profile page. -/
theorem deliver_frame (f : Fetch) (ok : Bool) (s : State) :
    ∃ userProfile detail, deliver f ok s = { s with userProfile, detail } := by
  unfold deliver
  cases f.reader with
  | provider =>
    simp only [fillProvider]
    split
    · exact ⟨_, _, rfl⟩
    · split <;> exact ⟨_, _, rfl⟩
  | detail id =>
    simp only [fillDetail]
    split <;> exact ⟨_, _, rfl⟩

/-- The other page goes on showing what it shows. -/
theorem shows_deliver_of_ne {f : Fetch} {s : State} {r : Reader} {v : String × String} (ok : Bool)
    (hne : r ≠ f.reader) (hbuilt : Built s r) (h : Shows labels s v r) :
    Shows labels (deliver f ok s) v r := by
  unfold deliver
  cases hf : f.reader with
  | provider =>
    cases r with
    | provider => exact absurd hf.symm hne
    | detail id =>
      simp only [Shows, fillProvider_detail]
      exact h
  | detail id =>
    cases r with
    | provider =>
      simp only [Shows, header, fillDetail_userProfile]
      exact h
    | detail id' =>
      have hother : ¬ (s.page.hasDetail = true ∧ id = s.detailId) := by
        rintro ⟨-, rfl⟩
        exact hne (hbuilt.2 ▸ hf.symm)
      simp only [fillDetail, if_neg hother]
      exact h

/-- A page gets to show what is stored by a fetch that brings it. -/
theorem shows_deliver_of_current {f : Fetch} {ok : Bool} {s : State} (hbuilt : Built s f.reader)
    (h : Current f ok s) : Shows labels (deliver f ok s) (stored s.document) f.reader := by
  obtain ⟨rfl, d, hsnapshot, hread, hstored⟩ := h
  unfold deliver
  cases hf : f.reader with
  | provider =>
    rw [hf] at hread
    obtain ⟨p, hp⟩ := hread
    simp only [Shows, if_true, hsnapshot, fillProvider, hp, header, Option.map_some,
      Option.getD_some]
    exact (stored_of_fromFirestore hp).trans hstored
  | detail id =>
    rw [hf] at hread hbuilt
    have hpage : s.page.hasDetail = true ∧ id = s.detailId := hbuilt
    simp only [Shows, if_true, hsnapshot, fillDetail, hpage, and_self]
    exact hstored ▸ detailShows_of_readable s.detail hread

theorem shows_deliver_of_superfluous {f : Fetch} {ok : Bool} {s : State}
    (h : Superfluous labels f ok s) :
    Shows labels (deliver f ok s) (stored s.document) f.reader := by
  obtain ⟨hf, hnothing, hheader⟩ := h
  have hkeep : fillProvider (if ok then f.snapshot else none) s = s := by
    refine fillProvider_of_not_readable fun d hd => ?_
    cases ok with
    | true => exact hnothing rfl d hd
    | false => cases hd
  simp only [deliver, hf, hkeep]
  exact hheader

/-! ### Timely steps -/

/-- A fetch that has read the document is outstanding as before. -/
theorem readers_set {fetches : List Fetch} {i : ℕ} {f : Fetch} (hf : fetches[i]? = some f)
    (snapshot : Option Fields) :
    (fetches.set i { f with snapshot }).map Fetch.reader = fetches.map Fetch.reader := by
  obtain ⟨hi, rfl⟩ := List.getElem?_eq_some_iff.mp hf
  refine List.ext_getElem? fun j => ?_
  by_cases hj : i = j
  · subst hj
    simp [hi]
  · simp [List.getElem?_set_ne hj]

theorem awaits_of_complete {fetches rest : List Fetch} {i : ℕ} {f : Fetch}
    (hcall : Outstanding.complete fetches i = some (f, rest)) {r : Reader}
    (h : Awaits fetches r) : r = f.reader ∨ Awaits rest r :=
  List.mem_cons.mp (((Outstanding.perm_of_complete hcall).map Fetch.reader).mem_iff.mp h)

theorem awaits_append {fetches : List Fetch} {r : Reader} (h : Awaits fetches r)
    (fetches' : List Fetch) : Awaits (fetches ++ fetches') r := by
  rw [Awaits, List.map_append]
  exact List.mem_append_left _ h

theorem awaits_concat (fetches : List Fetch) (r : Reader) (snapshot : Option Fields) :
    Awaits (fetches ++ [⟨r, snapshot⟩]) r := by
  simp [Awaits]

theorem Page.hasSettings_of_below {page : Page} (h : page.below.hasSettings = true) :
    page.hasSettings = true := by
  revert h
  cases page <;> decide

theorem Page.hasDetail_of_below {page : Page} (h : page.below.hasDetail = true) :
    page.hasDetail = true := by
  revert h
  cases page <;> decide

theorem built_of_same {s t : State} {r : Reader} (hpage : t.page = s.page)
    (hid : t.detailId = s.detailId) (h : Built t r) : Built s r := by
  cases r <;> simpa only [Built, hpage, hid] using h

theorem built_of_below {s t : State} {r : Reader} (hpage : t.page = s.page.below)
    (hid : t.detailId = s.detailId) (h : Built t r) : Built s r := by
  cases r with
  | provider => exact Page.hasSettings_of_below (hpage ▸ h)
  | detail id => exact ⟨Page.hasDetail_of_below (hpage ▸ h.1), hid ▸ h.2⟩

/-- Steps that build no page, keep what is shown and stored, and keep the fetches outstanding. -/
theorem Settled.frame {s t : State} (h : Settled labels s) (hbuilt : ∀ r, Built t r → Built s r)
    (hdocument : t.document = s.document) (hprovider : t.userProfile = s.userProfile)
    (hdetail : t.detail = s.detail) (hawaits : ∀ r, Awaits s.fetches r → Awaits t.fetches r) :
    Settled labels t := by
  intro r hr
  refine (h r (hbuilt r hr)).imp (fun hshows => ?_) (hawaits r)
  cases r with
  | provider => simpa only [Shows, header, hdocument, hprovider] using hshows
  | detail id => simpa only [Shows, hdocument, hdetail] using hshows

theorem settled_deliver {s : State} {i : ℕ} {f : Fetch} {rest : List Fetch} {ok : Bool}
    (hs : Settled labels s) (hcall : Outstanding.complete s.fetches i = some (f, rest))
    (he : Timely labels s (.delivered i ok)) :
    Settled labels (deliver f ok { s with fetches := rest }) := by
  obtain ⟨userProfile, detail, hframe⟩ := deliver_frame f ok { s with fetches := rest }
  intro r hr
  have hdocument : (deliver f ok { s with fetches := rest }).document = s.document := by
    rw [hframe]
  have hfetches : (deliver f ok { s with fetches := rest }).fetches = rest := by rw [hframe]
  have hbuilt : Built s r := built_of_same (by rw [hframe]) (by rw [hframe]) hr
  rw [hdocument, hfetches]
  by_cases hreader : r = f.reader
  · subst hreader
    rcases he f rest hcall hbuilt with hcurrent | hawaits | hsuperfluous
    · exact .inl (shows_deliver_of_current (s := { s with fetches := rest }) hbuilt hcurrent)
    · exact .inr hawaits
    · exact .inl (shows_deliver_of_superfluous (s := { s with fetches := rest }) hsuperfluous)
  · rcases hs r hbuilt with hshows | hawaits
    · refine .inl (shows_deliver_of_ne ok hreader ?_ ?_)
      · cases r <;> exact hbuilt
      · cases r <;> exact hshows
    · exact .inr ((awaits_of_complete hcall hawaits).resolve_left hreader)

theorem settled_resumeUpdate {s : State} {i : ℕ} {save : Save} {rest : List Save} {alive : Bool}
    (hs : Settled labels s) (hcall : Outstanding.complete s.saves i = some (save, rest))
    (he : Timely labels s (.completed i true alive)) :
    Settled labels (resumeUpdate save alive { s with saves := rest }) := by
  obtain ⟨id, call⟩ := save
  cases call with
  | set data =>
    rcases he ⟨id, .set data⟩ rest data hcall rfl with hstored | hawaits
    · intro r hr
      have hbuilt : Built s r := built_of_same rfl rfl hr
      refine (hs r hbuilt).imp_left fun hshows => ?_
      change Shows labels _ (stored (s.document.merge data)) r
      rw [hstored]
      cases r <;> exact hshows
    · intro r hr
      exact .inr (hawaits r (built_of_same rfl rfl hr))
  | updateDisplayName =>
    simp only [resumeUpdate, finishUpdate]
    split
    · exact hs.frame (fun r => built_of_below rfl rfl) rfl rfl rfl fun r h => awaits_append h _
    · exact hs.frame (fun _ => built_of_same rfl rfl) rfl rfl rfl fun r h => awaits_append h _

/-- A timely step leaves no page behind. -/
theorem settled_step {s t : State} {e : Event} (hs : Settled labels s) (he : Timely labels s e)
    (hstep : step s e = some t) : Settled labels t := by
  cases stepped_of_step hstep with
  | openSettings hpage =>
    intro r hr
    cases r with
    | provider => exact .inr (awaits_concat s.fetches .provider none)
    | detail id =>
      have hdetail : Page.settings.hasDetail = true := hr.1
      cases hdetail
  | openDetail hpage =>
    intro r hr
    cases r with
    | provider =>
      have hbuilt : Built s .provider := by simp [Built, Page.hasSettings, hpage]
      exact (hs .provider hbuilt).imp_right fun h => awaits_append h _
    | detail id =>
      obtain rfl : id = s.detailId + 1 := hr.2
      exact .inr (awaits_concat s.fetches _ none)
  | openForm hpage =>
    refine hs.frame (fun r hr => ?_) rfl rfl rfl fun _ h => h
    cases r with
    | provider => simp [Built, Page.hasSettings, hpage]
    | detail id => exact ⟨by simp [Page.hasDetail, hpage], hr.2⟩
  | back hpage => exact hs.frame (fun r => built_of_below rfl rfl) rfl rfl rfl fun _ h => h
  | tapSave texts hpage hvalid =>
    exact hs.frame (fun _ => built_of_same rfl rfl) rfl rfl rfl fun _ h => h
  | read hfetch hunread =>
    refine hs.frame (fun _ => built_of_same rfl rfl) rfl rfl rfl fun r h => ?_
    rw [Awaits, readers_set hfetch]
    exact h
  | delivered hcall hread => exact settled_deliver hs hcall he
  | written alive hcall => exact settled_resumeUpdate hs hcall he
  | failed alive hcall =>
    exact hs.frame (fun _ => built_of_same rfl rfl) rfl rfl rfl fun _ h => h

theorem agreement_of_settled {s : State} (hs : Settled labels s) (hfetches : s.fetches = []) :
    Agreement labels s := by
  have hnone (r : Reader) : ¬ Awaits s.fetches r := by simp [Awaits, hfetches]
  exact ⟨fun h => (hs .provider h).resolve_right (hnone _),
    fun h => (hs (.detail s.detailId) ⟨h, rfl⟩).resolve_right (hnone _)⟩

/-- **The two caches of the profile.** In every run from the launch whose steps are timely, in every
state in which no fetch is outstanding, the settings page and the profile page show the name and the
phone that are stored. -/
theorem agreement_of_timely {document : Fields} {es : List Event}
    (hes : EventRun.Meets step (Timely labels) (State.initial document) es) :
    EventRun.Along step (fun s => s.fetches = [] → Agreement labels s) (State.initial document)
      es := by
  have hinit : Settled labels (State.initial document) := by
    rintro (_ | id) hr
    · cases hr
    · cases hr.1
  exact EventRun.along_of_meets (fun _ _ _ => settled_step) (fun _ => agreement_of_settled) hinit
    hes

/-! ### A saved profile and an old header -/

/-- A profile with a name and a phone. -/
def annLee081 : Fields :=
  Fields.ofList [("firstname", .str "Ann"), ("lastname", .str "Lee"), ("phone", .str "081")]

/-- The texts of a save that changes the first name and the phone. -/
def annaLee082 : Texts := ⟨"Anna", "Lee", "082", "01/02/1990", "a@b.co"⟩

/-- The settings page is opened and its fetch completes, then the profile page, then the form, where
the user saves; the save completes, and so does the fetch that it starts. -/
def saveAndReturn : List Event :=
  [.openSettings, .read 0, .delivered 0 true, .openDetail, .read 0, .delivered 0 true, .openForm,
    .tapSave annaLee082, .completed 0 true true, .completed 0 true true, .read 0,
    .delivered 0 true]

/-- The texts shown where there is nothing to show. -/
def noData : Labels := ⟨"User", "Mobile", "No name", "No phone"⟩

/-- After the save the profile page shows the new name and phone, and the header of the settings
page below it the old ones. -/
theorem header_keeps_old_profile :
    (∃ s, EventRun.run step (State.initial annLee081) saveAndReturn = some s ∧ s.fetches = [] ∧
      s.saves = [] ∧ s.page = .detail ∧ stored s.document = ("Anna Lee", "082") ∧
      DetailShows noData s.detail ("Anna Lee", "082") ∧ header noData s = ("Ann Lee", "081")) ∧
    ¬ EventRun.Along step (fun s => s.fetches = [] → Agreement noData s) (State.initial annLee081)
      saveAndReturn := by
  have hrun : ∃ s, EventRun.run step (State.initial annLee081) saveAndReturn = some s ∧
      s.fetches = [] ∧ s.saves = [] ∧ s.page = .detail ∧
      stored s.document = ("Anna Lee", "082") ∧
      DetailShows noData s.detail ("Anna Lee", "082") ∧ header noData s = ("Ann Lee", "081") :=
    ⟨_, rfl, rfl, rfl, rfl, rfl, ⟨rfl, rfl⟩, rfl⟩
  refine ⟨hrun, fun halong => ?_⟩
  obtain ⟨s, hrun, hfetches, -, hpage, hstored, -, hheader⟩ := hrun
  have hagree : header noData s = stored s.document :=
    (halong.of_run hrun hfetches).header (by rw [hpage]; rfl)
  rw [hstored, hheader] at hagree
  exact absurd hagree (by decide)

/-- A fetch that has read the present document completes in time. -/
theorem timely_delivered {s : State} {i : ℕ} {f : Fetch} (hfetch : s.fetches[i]? = some f)
    (hsnapshot : f.snapshot = some s.document) (hread : ∀ r, Readable s.document r) :
    Timely labels s (.delivered i true) := by
  intro g rest hcall _
  obtain rfl : f = g :=
    Option.some.inj (hfetch.symm.trans (Outstanding.complete_eq_some.mp hcall).1)
  exact .inl ⟨rfl, s.document, hsnapshot, hread f.reader, rfl⟩

theorem readable_saved (r : Reader) : Readable (annLee081.merge annaLee082.data) r := by
  cases r with
  | provider =>
    have hid : ProfileSettings.IdReadable annLee081 := .inl rfl
    obtain ⟨p, hp, -⟩ := (ProfileSettings.readBack_merge hid annaLee082).profile
    exact ⟨p, hp⟩
  | detail id => exact ⟨⟨"Anna Lee", rfl⟩, "082", rfl⟩

/-- The two pages are opened one after the other, and the user saves before either of them has read
the document. -/
theorem agreement_saved_before_reads :
    EventRun.Along step (fun s => s.fetches = [] → Agreement noData s) (State.initial annLee081)
      [.openSettings, .openDetail, .openForm, .tapSave annaLee082, .completed 0 true true, .read 0,
        .read 1, .delivered 0 true, .delivered 0 true] := by
  refine agreement_of_timely ?_
  refine .cons rfl trivial (.cons rfl trivial (.cons rfl trivial (.cons rfl trivial
    (.cons rfl ?_ (.cons rfl trivial (.cons rfl trivial (.cons rfl ?_ (.cons rfl ?_ trivial))))))))
  · rintro save rest data - -
    refine .inr fun r hr => ?_
    cases r with
    | provider => exact List.mem_cons_self
    | detail id =>
      obtain rfl : id = 1 := hr.2
      exact List.mem_cons_of_mem _ List.mem_cons_self
  · exact timely_delivered rfl rfl readable_saved
  · exact timely_delivered rfl rfl readable_saved

end SmartHome.ProfilePages
