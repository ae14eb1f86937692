import SmartHome.Profile.Saves

/-!
# The display names that a visit to the settings form sets

The display name of the account is set when a write has completed, from the text that the controller
holds then. It is the first name that was written unless the text has changed in the meantime.

## Main definitions

* `ProfileSettings.NameKept` : the text of the name does not change while a write is outstanding.

## Main results

* `ProfileSettings.displayName_of_run` : the display names that a visit sets.
-/

namespace SmartHome.ProfileSettings

open Dart

variable {profiles : Profiles} {user : Option Uid} {email : Option String}

/-- The text of the name changes only while no write is outstanding. -/
def NameKept (s : State) (e : Event) : Prop :=
  (∀ t, step s e = some t → t.texts.name = s.texts.name) ∨
    ∀ owner data, .set owner data ∉ s.saves

/-- The outstanding writes carry the text of the name. -/
def Named (s : State) : Prop :=
  ∀ owner data, .set owner data ∈ s.saves →
    data.lookup "firstname" = some (.str s.texts.name) ∧ s.texts.name ≠ ""

theorem named_step {s t : State} {e : Event} (h : Named s) (he : NameKept s e)
    (hstep : step s e = some t) : Named t := by
  intro owner data hmem
  rcases mem_saves_of_step hstep hmem with hold | ⟨-, hvalid, rfl, htexts⟩
  · have hname : t.texts.name = s.texts.name :=
      (he.resolve_right fun hnone => hnone owner data hold) t hstep
    rw [hname]
    exact h owner data hold
  · rw [htexts]
    exact ⟨rfl, (ne_empty_of_validate hvalid).1⟩

/-- **Display names.** In every visit in which the text of the name changes only while no write is
outstanding, a write that completes is followed by one call of `updateDisplayName`, with the first
name that is stored now, which is not empty. -/
theorem displayName_of_run {es : List Event} {s t : State}
    (hkept : EventRun.Meets step NameKept (State.initial profiles user email) es)
    (hrun : EventRun.run step (State.initial profiles user email) es = some s) {i : ℕ} {owner : Uid}
    {data : List (String × Dyn)} {rest : List Save}
    (hcall : Outstanding.complete s.saves i = some (.set owner data, rest))
    (hstep : step s (.completed i true) = some t) :
    ∃ name d, name ≠ "" ∧ t.saves = rest ++ [.updateDisplayName name] ∧
      t.profiles owner = some d ∧ d "firstname" = some (.str name) := by
  have hnamed : Named s := EventRun.invariant_of_meets (I := Named) (fun _ _ _ => named_step)
    (by rintro _ _ ⟨⟩) hkept hrun
  obtain ⟨hfirst, hne⟩ :=
    hnamed owner data ((Outstanding.mem_iff_of_complete hcall).mpr (.inl rfl))
  rw [step, hcall] at hstep
  obtain rfl := Option.some.inj hstep
  exact ⟨s.texts.name, _, hne, rfl, Collection.setMerge_self _ _ _, Document.merge_of_lookup hfirst⟩

/-- A visit that loads a document without an address, completes it and saves it. -/
def completeVisit : List Event :=
  [.loaded true, .edit .phone "081", .tapDate ⟨2024, 1, 1⟩, .confirmDate ⟨1990, 1, 2⟩,
    .tapSubmit (some "u1"), .completed 0 true]

/-- The documents before that visit. -/
def annProfiles : Profiles :=
  fun _ => some (Fields.ofList [("firstname", .str "Ann"), ("lastname", .str "Lee")])

/-- The texts that the visit saves. -/
def annTexts : Texts :=
  { name := "Ann", surname := "Lee", phone := "081", dob := "02/01/1990", email := "ann@lee.org" }

/-- The visit while it waits for `updateDisplayName`. -/
def annSaved : State :=
  { page := .shown, profiles := annProfiles.setMerge "u1" annTexts.data
    email := some "ann@lee.org", loading := none, texts := annTexts
    selectedDate := some ⟨1990, 1, 2⟩, picker := none, saves := [.updateDisplayName "Ann"]
    pagePops := 0 }

/-- The visit up to the write. -/
def annWriting : State :=
  { annSaved with profiles := annProfiles, saves := [.set "u1" annTexts.data] }

theorem displayName_completeVisit :
    EventRun.run step (State.initial annProfiles (some "u1") (some "ann@lee.org"))
        completeVisit.dropLast = some annWriting ∧
      ∃ name d, name ≠ "" ∧ annSaved.saves = [] ++ [.updateDisplayName name] ∧
        annSaved.profiles "u1" = some d ∧ d "firstname" = some (.str name) := by
  have hrun : EventRun.run step (State.initial annProfiles (some "u1") (some "ann@lee.org"))
      completeVisit.dropLast = some annWriting := rfl
  have hkept : EventRun.Meets step NameKept
      (State.initial annProfiles (some "u1") (some "ann@lee.org")) completeVisit.dropLast := by
    have hnone : ∀ owner data, Save.set owner data ∉ ([] : List Save) := by rintro _ _ ⟨⟩
    exact .cons rfl (.inr hnone) (.cons rfl (.inr hnone) (.cons rfl (.inr hnone)
      (.cons rfl (.inr hnone) (.cons rfl (.inr hnone) trivial))))
  exact ⟨hrun, displayName_of_run (i := 0) hkept hrun rfl rfl⟩

end SmartHome.ProfileSettings
