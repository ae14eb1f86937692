import SmartHome.Lib.Parts
import SmartHome.Profile.Saves

/-!
# Visits to the profile settings form

Any number of `ProfileSettingsScreen`s on one collection `profiles`, in a session that can change
between any two events. A visit reads and writes the documents that are there when its calls
complete, and the calls of different visits complete in any order.

A tap on Submit that passes the validators is a submission: the five texts that are in the form at
the tap. Whatever the visits do, a document changes only when the write of a submission completes,
and it then holds the texts of that submission.

## Main definitions

* `SettingsVisits.State`, `SettingsVisits.step` : the session, the documents and the visits.
* `SettingsVisits.Submission`, `SettingsVisits.SubmittedIn` : what is submitted in a run.
* `SettingsVisits.saved` : the write that a step completes.

## Main results

* `SettingsVisits.readBack_of_run` : what a write stores, and what is read back until the next one.
* `SettingsVisits.complete_of_run` : the documents after any visits.
-/

namespace SmartHome.SettingsVisits

open Dart
open ProfileSettings (IdReadable ReadBack Texts loadUserData saveAll validate written)

/-- A visit, with the account that was signed in when it was opened. -/
structure Visit where
  opener : Option Uid
  form : ProfileSettings.State

/-- The account that is signed in, the documents, and the visits, oldest first. -/
structure State where
  user : Option Uid
  profiles : Profiles
  visits : List Visit

/-- Nobody is signed in, and the form has not been opened. -/
def State.initial (profiles : Profiles) : State := { user := none, profiles, visits := [] }

/-- What can happen next. -/
inductive Event where
  | authStateChanged (user : Option Uid)
  | openForm
  | visit (i : ℕ) (e : ProfileSettings.Event)

/-- A tap on Submit finds the user who is signed in. -/
def findsUser (user : Option Uid) : ProfileSettings.Event → Bool
  | .tapSubmit found => found = user
  | _ => true

/-- One step, for the addresses of the accounts. A visit steps on the documents that are there. -/
def step (address : Uid → Option String) (s : State) : Event → Option State
  | .authStateChanged user => some { s with user }
  | .openForm =>
    some { s with
      visits := s.visits ++ [⟨s.user, .initial s.profiles s.user (s.user.bind address)⟩] }
  | .visit i e =>
    s.visits[i]?.bind fun v =>
      if findsUser s.user e then
        (ProfileSettings.step { v.form with profiles := s.profiles } e).map fun form =>
          { s with profiles := form.profiles, visits := s.visits.set i { v with form } }
      else none

/-! ### Submissions -/

/-- A tap on Submit that starts a write: the visit, the account that had opened it, the account that
is signed in, and the texts that are in the form. -/
structure Submission where
  visit : ℕ
  opener : Option Uid
  owner : Uid
  texts : Texts

/-- What a step submits. -/
def submitted (s : State) : Event → Option Submission
  | .visit i (.tapSubmit (some owner)) =>
    s.visits[i]?.bind fun v =>
      if validate v.form.texts then some ⟨i, v.opener, owner, v.form.texts⟩ else none
  | _ => none

/-- The write that a step completes: its visit, and the account whose document it changes. -/
def saved (s : State) : Event → Option (ℕ × Uid)
  | .visit i e => s.visits[i]?.bind fun v => (written v.form e).map fun w => (i, w.1)
  | _ => none

variable {address : Uid → Option String} {profiles : Profiles}

variable (address profiles) in
/-- The submission was made in a run. -/
def SubmittedIn (es : List Event) (x : Submission) : Prop :=
  EventRun.Occurred (step address) (fun s e => submitted s e = some x) (.initial profiles) es

/-- The texts have passed the validators, and the address is that of the account that had opened the
form. -/
structure Accepted (address : Uid → Option String) (x : Submission) : Prop where
  valid : validate x.texts = true
  account : x.opener.bind address = some x.texts.email

/-- The document of an account, and what a form that loads it shows. -/
structure Stored (address : Uid → Option String) (owner : Uid) (t : Texts) (d : Fields)
    (s : State) : Prop where
  document : s.profiles owner = some d
  loaded : ∀ i v u, s.visits[i]? = some v → v.form.loading = some owner →
    step address s (.visit i (.loaded true)) = some u →
      ∃ w, u.visits[i]? = some w ∧ w.form.texts = { t with email := v.form.email.getD "" }

/-! ### The invariant -/

variable (address profiles) in
/-- The visit `i`: the text for the address, and the outstanding writes, which are those of
submissions. -/
structure VisitInv (es : List Event) (i : ℕ) (v : Visit) : Prop where
  account : v.form.email = v.opener.bind address
  text : v.form.texts.email = "" ∨ v.form.texts.email = (v.opener.bind address).getD ""
  pending : ∀ owner data, .set owner data ∈ v.form.saves →
    ∃ x, SubmittedIn address profiles es x ∧ Accepted address x ∧ x.visit = i ∧ x.owner = owner ∧
      x.texts.data = data

variable (address profiles) in
/-- The visits are in order, and the documents have come from those of the beginning by writes of
submissions. -/
structure Inv (es : List Event) (s : State) : Prop where
  visits : ∀ i v, s.visits[i]? = some v → VisitInv address profiles es i v
  saves : ∃ saves, s.profiles = saveAll profiles saves ∧ ∀ save ∈ saves,
    ∃ x, SubmittedIn address profiles es x ∧ Accepted address x ∧ (x.owner, x.texts) = save

variable {past : List Event}

theorem VisitInv.append {i : ℕ} {v : Visit} (h : VisitInv address profiles past i v)
    (es : List Event) : VisitInv address profiles (past ++ es) i v where
  account := h.account
  text := h.text
  pending owner data hmem := by
    obtain ⟨x, hx, hrest⟩ := h.pending owner data hmem
    exact ⟨x, hx.append es, hrest⟩

theorem inv_initial : Inv address profiles [] (.initial profiles) where
  visits := by simp [State.initial]
  saves := ⟨[], rfl, by rintro _ ⟨⟩⟩

/-- A visit that has just been opened. -/
theorem visitInv_initial (es : List Event) (i : ℕ) (documents : Profiles) (user : Option Uid) :
    VisitInv address profiles es i ⟨user, .initial documents user (user.bind address)⟩ where
  account := rfl
  text := .inl rfl
  pending := by rintro _ _ ⟨⟩

/-- Texts that pass the validators hold the address of the account. -/
theorem accepted_of_validate {i : ℕ} {v : Visit} (h : VisitInv address profiles past i v)
    (hvalid : validate v.form.texts = true) (owner : Uid) :
    Accepted address ⟨i, v.opener, owner, v.form.texts⟩ := by
  have hne := (ProfileSettings.ne_empty_of_validate hvalid).2
  have haddress := h.text.resolve_left hne
  refine ⟨hvalid, ?_⟩
  generalize v.opener.bind address = account at haddress
  cases account with
  | none => exact absurd haddress hne
  | some text => exact congrArg some haddress.symm

/-- What a step of a visit does, with the guards that it has passed. -/
theorem step_visit {s t : State} {i : ℕ} {e : ProfileSettings.Event}
    (hstep : step address s (.visit i e) = some t) :
    ∃ v form, s.visits[i]? = some v ∧
      ProfileSettings.step { v.form with profiles := s.profiles } e = some form ∧
      t = { s with profiles := form.profiles, visits := s.visits.set i { v with form } } := by
  obtain ⟨v, hv, hstep⟩ := Option.bind_eq_some_iff.mp hstep
  simp only [Option.ite_none_right_eq_some, Option.map_eq_some_iff] at hstep
  obtain ⟨-, form, hform, rfl⟩ := hstep
  exact ⟨v, form, hv, hform, rfl⟩

/-- A step of a visit keeps its invariant. -/
theorem VisitInv.step {s : State} {i : ℕ} {v : Visit} {e : ProfileSettings.Event}
    {form : ProfileSettings.State}
    (hpast : EventRun.run (SettingsVisits.step address) (.initial profiles) past = some s)
    (hv : s.visits[i]? = some v) (h : VisitInv address profiles past i v)
    (hstep : ProfileSettings.step { v.form with profiles := s.profiles } e = some form) :
    VisitInv address profiles (past ++ [.visit i e]) i { v with form } := by
  obtain ⟨hemail, htext⟩ := ProfileSettings.email_of_step hstep
  refine ⟨hemail.trans h.account, ?_, fun owner data hmem => ?_⟩
  · rcases htext with hsame | hnew
    · exact hsame ▸ h.text
    · exact .inr (hnew.trans (congrArg (·.getD "") h.account))
  · rcases ProfileSettings.mem_saves_of_step hstep hmem with hold | ⟨rfl, hvalid, rfl, -⟩
    · exact (h.append _).pending owner data hold
    · refine ⟨⟨i, v.opener, owner, v.form.texts⟩,
        (EventRun.occurred_concat_iff hpast).mpr (.inr ?_), accepted_of_validate h hvalid owner,
        rfl, rfl, rfl⟩
      rw [submitted, hv, Option.bind_some]
      exact if_pos hvalid

/-- The write that a step completes is that of a submission. -/
theorem exists_submission {s t : State} {e : Event} (h : Inv address profiles past s)
    (hstep : step address s e = some t) :
    (saved s e = none ∧ t.profiles = s.profiles) ∨
      ∃ x, SubmittedIn address profiles past x ∧ Accepted address x ∧
        saved s e = some (x.visit, x.owner) ∧
        t.profiles = s.profiles.setMerge x.owner x.texts.data := by
  cases e with
  | authStateChanged | openForm =>
    obtain rfl := Option.some.inj hstep
    exact .inl ⟨rfl, rfl⟩
  | visit i e =>
    obtain ⟨v, form, hv, hform, rfl⟩ := step_visit hstep
    have hprofiles := ProfileSettings.profiles_of_step hform
    have hsame : written { v.form with profiles := s.profiles } e = written v.form e := by
      cases e <;> rfl
    rw [hsame] at hprofiles
    rw [saved, hv, Option.bind_some]
    cases hwritten : written v.form e with
    | none =>
      rw [hwritten] at hprofiles
      exact .inl ⟨rfl, hprofiles⟩
    | some w =>
      obtain ⟨owner, data⟩ := w
      rw [hwritten] at hprofiles
      have hmem : .set owner data ∈ v.form.saves := ProfileSettings.mem_saves_of_written hwritten
      obtain ⟨x, hx, haccepted, rfl, rfl, rfl⟩ := (h.visits i v hv).pending owner data hmem
      exact .inr ⟨x, hx, haccepted, rfl, hprofiles⟩

theorem inv_step {s t : State} {e : Event}
    (hpast : EventRun.run (step address) (.initial profiles) past = some s)
    (h : Inv address profiles past s) (hstep : step address s e = some t) :
    Inv address profiles (past ++ [e]) t := by
  constructor
  · intro j w hw
    cases e with
    | authStateChanged user =>
      obtain rfl := Option.some.inj hstep
      exact (h.visits j w hw).append _
    | openForm =>
      obtain rfl := Option.some.inj hstep
      rcases Parts.getElem?_concat_cases hw with hw | ⟨-, rfl⟩
      · exact (h.visits j w hw).append _
      · exact visitInv_initial ..
    | visit i e =>
      obtain ⟨v, form, hv, hform, rfl⟩ := step_visit hstep
      rcases Parts.getElem?_set_cases hw with ⟨rfl, rfl⟩ | ⟨-, hw⟩
      · exact (h.visits j v hv).step hpast hv hform
      · exact (h.visits j w hw).append _
  · obtain ⟨saves, hprofiles, hsaves⟩ := h.saves
    have hold : ∀ save ∈ saves, ∃ x, SubmittedIn address profiles (past ++ [e]) x ∧
        Accepted address x ∧ (x.owner, x.texts) = save := by
      intro save hsave
      obtain ⟨x, hx, hrest⟩ := hsaves save hsave
      exact ⟨x, hx.append [e], hrest⟩
    rcases exists_submission h hstep with ⟨-, hsame⟩ | ⟨x, hx, haccepted, -, hsaved⟩
    · exact ⟨saves, hsame.trans hprofiles, hold⟩
    · refine ⟨saves ++ [(x.owner, x.texts)], ?_, fun save hsave => ?_⟩
      · rw [hsaved, hprofiles, ProfileSettings.saveAll_append]
        rfl
      · rcases List.mem_append.mp hsave with hsave | hsave
        · exact hold save hsave
        · exact ⟨x, hx.append [e], haccepted, (List.mem_singleton.mp hsave).symm⟩

theorem inv_of_run {es : List Event} {s : State}
    (hrun : EventRun.run (step address) (.initial profiles) es = some s) :
    Inv address profiles es s :=
  EventRun.invariant_past (I := Inv address profiles) (fun _ _ _ _ => inv_step) inv_initial hrun

/-! ### What is stored and read back -/

/-- A document that holds the texts is loaded as they are. -/
theorem stored_of_readBack {before d : Fields} {t : Texts} (h : ReadBack before t d) {s : State}
    {owner : Uid} (hd : s.profiles owner = some d) : Stored address owner t d s where
  document := hd
  loaded i v u hv hloading hstep := by
    obtain ⟨v', form, hv', hform, rfl⟩ := step_visit hstep
    obtain rfl := Option.some.inj (hv.symm.trans hv')
    rw [ProfileSettings.step, hloading] at hform
    obtain rfl := Option.some.inj hform
    refine ⟨_, Parts.getElem?_set_of_some hv _, ?_⟩
    exact (congrArg (fun snapshot => loadUserData snapshot v.form.email v.form.texts) hd).trans
      (h.form v.form.email v.form.texts)

/-- The address of the only account. -/
def annAddress (_ : Uid) : Option String := some "ann@lee.org"

/-- Documents without a phone number, a date of birth and an address. -/
def annDocuments : Profiles := fun _ =>
  some (Fields.ofList [("firstname", .str "Ann"), ("lastname", .str "Lee"), ("role", .str "owner")])

/-- A form is completed and submitted, and another one is opened before the write completes. -/
def annEvents : List Event :=
  [.authStateChanged (some "u1"), .openForm, .visit 0 (.loaded true),
    .visit 0 (.edit .phone "081"), .visit 0 (.tapDate ⟨2024, 1, 1⟩),
    .visit 0 (.confirmDate ⟨1990, 1, 2⟩), .visit 0 (.tapSubmit (some "u1")), .openForm]

/-- The texts at the tap. -/
def submittedTexts : Texts :=
  { name := "Ann", surname := "Lee", phone := "081", dob := "02/01/1990", email := "ann@lee.org" }

/-- The first form, with its outstanding calls. -/
def submittedForm (profiles : Profiles) (saves : List ProfileSettings.Save) :
    ProfileSettings.State :=
  { page := .shown, profiles, email := some "ann@lee.org", loading := none, texts := submittedTexts
    selectedDate := some ⟨1990, 1, 2⟩, picker := none, saves, pagePops := 0 }

/-- Both visits, and the account that is signed in. -/
def twoForms (user : Option Uid) (profiles : Profiles) (saves : List ProfileSettings.Save) :
    State :=
  { user, profiles
    visits := [⟨some "u1", submittedForm profiles saves⟩,
      ⟨some "u1", .initial annDocuments (some "u1") (some "ann@lee.org")⟩] }

/-- The documents after the write. -/
def annStored : Profiles := annDocuments.setMerge "u1" submittedTexts.data

theorem idReadable_annDocuments : IdReadable (annDocuments.base "u1") := .inl rfl

/-- The texts are those that the document holds. -/
theorem texts_eq {before d : Fields} {t t' : Texts} (h : ReadBack before t d)
    (h' : ReadBack before t' d) : t = t' := by
  have hname := Dyn.str.inj (Option.some.inj (h.firstname.symm.trans h'.firstname))
  have hsurname := Dyn.str.inj (Option.some.inj (h.lastname.symm.trans h'.lastname))
  have hphone := Dyn.str.inj (Option.some.inj (h.phone.symm.trans h'.phone))
  have hdob := Dyn.str.inj (Option.some.inj (h.dob.symm.trans h'.dob))
  have hemail := Dyn.str.inj (Option.some.inj (h.email.symm.trans h'.email))
  cases t
  cases t'
  simp only [Texts.mk.injEq]
  exact ⟨hname, hsurname, hphone, hdob, hemail⟩

/-- **What visits store.** After every run of visits, a document whose `id` is a string or missing
is as it was before, or complete: it holds the five texts that were in a form when Submit was tapped
in the run, which have passed the validators, with the address of the account that had opened the
form, and everything else as before. The form, the decoder and the page read the texts back, and a
form that is opened again under that address shows texts that pass the validators at once. -/
theorem complete_of_run {es : List Event} {s : State}
    (hrun : EventRun.run (step address) (.initial profiles) es = some s) {uid : Uid}
    (hid : IdReadable (profiles.base uid)) :
    s.profiles uid = profiles uid ∨
      ∃ x d, SubmittedIn address profiles es x ∧ x.owner = uid ∧ Accepted address x ∧
        Stored address uid x.texts d s ∧ ReadBack (profiles.base uid) x.texts d ∧
        ∀ shown, validate (loadUserData (some d) (x.opener.bind address) shown) = true := by
  obtain ⟨saves, hprofiles, hsaves⟩ := (inv_of_run hrun).saves
  rw [hprofiles]
  rcases ProfileSettings.saveAll_eq profiles saves uid with hsame | ⟨t, ht, hlast⟩
  · exact .inl hsame
  · obtain ⟨x, hx, haccepted, heq⟩ := hsaves _ ht
    obtain ⟨rfl, rfl⟩ := Prod.mk.inj heq
    have hread := ProfileSettings.readBack_merge hid x.texts
    refine .inr ⟨x, _, hx, rfl, haccepted,
      stored_of_readBack hread ((congrFun hprofiles _).trans hlast), hread, fun shown => ?_⟩
    rw [hread.form, haccepted.account]
    exact haccepted.valid

/-- The document of the account that has submitted the form is complete. -/
theorem complete_twoVisits :
    ∃ x d, SubmittedIn annAddress annDocuments (annEvents ++ [.visit 0 (.completed 0 true)]) x ∧
      x.owner = "u1" ∧ x.texts = submittedTexts ∧ Accepted annAddress x ∧ annStored "u1" = some d ∧
      ReadBack (annDocuments.base "u1") submittedTexts d ∧
      ∀ shown, validate (loadUserData (some d) (some "ann@lee.org") shown) = true := by
  have hrun : EventRun.run (step annAddress) (.initial annDocuments)
      (annEvents ++ [.visit 0 (.completed 0 true)]) =
        some (twoForms (some "u1") annStored [.updateDisplayName "Ann"]) := rfl
  have hread : ReadBack (annDocuments.base "u1") submittedTexts
      ((annDocuments.base "u1").merge submittedTexts.data) :=
    ProfileSettings.readBack_merge idReadable_annDocuments submittedTexts
  rcases complete_of_run hrun idReadable_annDocuments with
    hsame | ⟨x, d, hx, howner, haccepted, hstored, hback, hvalid⟩
  · cases congrArg (fun d => d.bind fun d => d "phone") hsame
  · obtain rfl : (annDocuments.base "u1").merge submittedTexts.data = d :=
      Option.some.inj hstored.document
    have htexts : x.texts = submittedTexts := texts_eq hback hread
    rw [haccepted.account, htexts] at hvalid
    exact ⟨x, _, hx, howner, htexts, haccepted, rfl, hread, hvalid⟩

end SmartHome.SettingsVisits
