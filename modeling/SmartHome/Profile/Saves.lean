import Mathlib.Data.List.Induction
import SmartHome.Profile.SettingsForm
import SmartHome.Profile.UserProfile

/-!
# Saving the profile

A save of the settings form merges five texts into the profile document. The form itself, the
decoder `UserProfile.fromFirestore` and the page `ProfileDetailScreen` read them back by the same
keys.

## Main definitions

* `ProfileSettings.saveAll` : the documents after a sequence of saves.
* `ProfileSettings.ReadBack` : what a save changes, and what the three readers get of it.
* `ProfileSettings.written` : the write that a step of a visit completes.

## Main results

* `ProfileSettings.readBack_merge` : what a save writes is read back by the three readers.
* `ProfileSettings.saveAll_eq` : the documents after a sequence of saves.
* `ProfileSettings.profiles_of_step`, `ProfileSettings.mem_saves_of_step`,
  `ProfileSettings.email_of_step` : what a step of a visit does to the documents, to the outstanding
  writes and to the address.
-/

namespace SmartHome

open Dart

/-- The phone number that `ProfileDetailScreen` shows: `profile?['phone'] ?? placeholder`. -/
def ProfileDetail.phone (placeholder : String) (s : ProfileDetail) : Except Error String :=
  ((s.profile.elim .null fun data => data.field "phone").orElse (.str placeholder)).asString

namespace ProfileSettings

/-- The documents after saves of the given accounts and texts, oldest first. -/
def saveAll (profiles : Profiles) (saves : List (Uid × Texts)) : Profiles :=
  saves.foldl (fun profiles save => profiles.setMerge save.1 save.2.data) profiles

/-- The field `id` is a string or missing. -/
def IdReadable (d : Fields) : Prop := d "id" = none ∨ ∃ id, d "id" = some (.str id)

/-- The keys that a save writes. -/
def savedKeys : List String := ["firstname", "lastname", "phone", "dob", "email"]

/-- The document `d` is `before` with the texts `t` under the five keys, and they are what the form,
the decoder and the page read. -/
structure ReadBack (before : Fields) (t : Texts) (d : Fields) : Prop where
  firstname : d "firstname" = some (.str t.name)
  lastname : d "lastname" = some (.str t.surname)
  phone : d "phone" = some (.str t.phone)
  dob : d "dob" = some (.str t.dob)
  email : d "email" = some (.str t.email)
  kept : ∀ key, key ∉ savedKeys → d key = before key
  form : ∀ email shown, loadUserData (some d) email shown = { t with email := email.getD "" }
  profile : ∃ p, UserProfile.fromFirestore (some d) = .ok p ∧
    p.name = t.name ++ " " ++ t.surname ∧ p.phone = t.phone
  detail : ∀ s placeholder, let shown := (ProfileDetail.fetchUserProfile s (some d)).1
    shown.fullname = some (t.name ++ " " ++ t.surname) ∧ shown.phone placeholder = .ok t.phone

theorem lookup_data_of_not_mem {t : Texts} {key : String} (hkey : key ∉ savedKeys) :
    t.data.lookup key = none := by
  rw [List.lookup_eq_none_iff]
  rintro ⟨k, v⟩ hentry
  have hk : k ∈ savedKeys := List.mem_map_of_mem (f := Prod.fst) hentry
  simpa using fun h : key = k => hkey (h ▸ hk)

theorem IdReadable.merge {d : Fields} (h : IdReadable d) (t : Texts) :
    IdReadable (d.merge t.data) := by
  have hid : d.merge t.data "id" = d "id" :=
    Document.merge_of_lookup_none (lookup_data_of_not_mem (by decide))
  unfold IdReadable
  rw [hid]
  exact h

theorem IdReadable.fieldOrEmpty {d : Fields} (h : IdReadable d) :
    ∃ id, d.fieldOrEmpty "id" = .ok id := by
  rcases h with h | ⟨id, h⟩
  · exact ⟨"", Fields.fieldOrEmpty_of_none h⟩
  · exact ⟨id, Fields.fieldOrEmpty_of_str h⟩

/-- The form reads the four texts that it shows. -/
theorem loadUserData_of_texts {d : Fields} {t : Texts} (hname : d "firstname" = some (.str t.name))
    (hsurname : d "lastname" = some (.str t.surname)) (hphone : d "phone" = some (.str t.phone))
    (hdob : d "dob" = some (.str t.dob)) (email : Option String) (shown : Texts) :
    loadUserData (some d) email shown = { t with email := email.getD "" } := by
  simp only [loadUserData, fillTexts, Fields.fieldOrEmpty_of_str hname,
    Fields.fieldOrEmpty_of_str hsurname, Fields.fieldOrEmpty_of_str hphone,
    Fields.fieldOrEmpty_of_str hdob]

theorem profile_fetchUserProfile (s : ProfileDetail) (d : Fields) :
    (s.fetchUserProfile (some d)).1.profile = some d := by
  simp only [ProfileDetail.fetchUserProfile]
  split <;> rfl

/-- What a save writes is read back by the three readers. -/
theorem readBack_merge {before : Fields} (hid : IdReadable before) (t : Texts) :
    ReadBack before t (before.merge t.data) := by
  have hname : before.merge t.data "firstname" = some (.str t.name) := Document.merge_of_lookup rfl
  have hsurname : before.merge t.data "lastname" = some (.str t.surname) :=
    Document.merge_of_lookup rfl
  have hphone : before.merge t.data "phone" = some (.str t.phone) := Document.merge_of_lookup rfl
  have hdob : before.merge t.data "dob" = some (.str t.dob) := Document.merge_of_lookup rfl
  have hemail : before.merge t.data "email" = some (.str t.email) := Document.merge_of_lookup rfl
  obtain ⟨id, hid⟩ := (hid.merge t).fieldOrEmpty
  refine ⟨hname, hsurname, hphone, hdob, hemail, fun key hkey => ?_, ?_, ?_,
    fun s placeholder => ?_⟩
  · exact Document.merge_of_lookup_none (lookup_data_of_not_mem hkey)
  · exact loadUserData_of_texts hname hsurname hphone hdob
  · exact ⟨⟨id, t.name ++ " " ++ t.surname, t.email, t.phone⟩,
      UserProfile.fromFirestore_eq_ok.mpr ⟨hid, Fields.fieldOrEmpty_of_str hphone,
        Fields.fieldOrEmpty_of_str hemail, t.name, t.surname, hname, hsurname, rfl⟩, rfl, rfl⟩
  · refine ⟨s.fullname_of_parts hname hsurname, ?_⟩
    simp only [ProfileDetail.phone, profile_fetchUserProfile, Option.elim,
      Fields.field_of_some hphone, Dyn.orElse_str, Dyn.asString_str]

/-! ### Sequences of saves -/

theorem saveAll_append (profiles : Profiles) (saves saves' : List (Uid × Texts)) :
    saveAll profiles (saves ++ saves') = saveAll (saveAll profiles saves) saves' :=
  List.foldl_append

/-- All saves write the same keys, so a later one replaces an earlier one. -/
theorem merge_data_merge_data (d : Fields) (t t' : Texts) :
    Document.merge (Document.merge d t.data) t'.data = Document.merge d t'.data := by
  funext key
  by_cases hkey : key ∈ savedKeys
  · have hlookup : ∃ v, t'.data.lookup key = some v := by
      simp only [savedKeys, List.mem_cons, List.not_mem_nil, or_false] at hkey
      rcases hkey with rfl | rfl | rfl | rfl | rfl <;> exact ⟨_, rfl⟩
    obtain ⟨v, hv⟩ := hlookup
    rw [Document.merge_of_lookup hv, Document.merge_of_lookup hv]
  · rw [Document.merge_of_lookup_none (lookup_data_of_not_mem hkey),
      Document.merge_of_lookup_none (lookup_data_of_not_mem hkey),
      Document.merge_of_lookup_none (lookup_data_of_not_mem hkey)]

/-- After any saves, a document is what it was, or the last save has replaced its five texts. -/
theorem saveAll_eq (profiles : Profiles) (saves : List (Uid × Texts)) (uid : Uid) :
    saveAll profiles saves uid = profiles uid ∨ ∃ t, (uid, t) ∈ saves ∧
      saveAll profiles saves uid = some ((profiles.base uid).merge t.data) := by
  induction saves using List.reverseRecOn with
  | nil => exact .inl rfl
  | append_singleton saves save ih =>
    obtain ⟨owner, t⟩ := save
    rw [saveAll_append]
    change (saveAll profiles saves).setMerge owner t.data uid = _ ∨ ∃ t', _ ∧
      (saveAll profiles saves).setMerge owner t.data uid = _
    by_cases howner : uid = owner
    · subst howner
      refine .inr ⟨t, List.mem_append_right _ (List.mem_singleton.mpr rfl), ?_⟩
      rw [Collection.setMerge_self]
      rcases ih with hsame | ⟨t', -, hlast⟩
      · rw [Collection.base, hsame, Collection.base]
      · rw [Collection.base_of_some hlast, merge_data_merge_data]
    · rw [Collection.setMerge_of_ne _ howner]
      rcases ih with hsame | ⟨t', ht', hlast⟩
      · exact .inl hsame
      · exact .inr ⟨t', List.mem_append_left _ ht', hlast⟩

/-! ### Steps of a visit -/

/-- The write that a step completes: its account and its data. -/
def written (s : State) : Event → Option (Uid × List (String × Dyn))
  | .completed i true =>
    (Outstanding.complete s.saves i).bind fun call =>
      match call.1 with
      | .set owner data => some (owner, data)
      | .updateDisplayName _ => none
  | _ => none

theorem mem_saves_of_written {s : State} {e : Event} {owner : Uid} {data : List (String × Dyn)}
    (h : written s e = some (owner, data)) : .set owner data ∈ s.saves := by
  cases e with
  | completed i ok =>
    cases ok with
    | false => cases h
    | true =>
      obtain ⟨⟨save, rest⟩, hcall, h⟩ := Option.bind_eq_some_iff.mp h
      cases save with
      | set owner' data' =>
        obtain ⟨rfl, rfl⟩ := Prod.mk.inj (Option.some.inj h)
        exact (Outstanding.mem_iff_of_complete hcall).mpr (.inl rfl)
      | updateDisplayName => cases h
  | _ => cases h

/-- A step changes the documents by the write that it completes. -/
theorem profiles_of_step {s t : State} {e : Event} (hstep : step s e = some t) :
    t.profiles = (written s e).elim s.profiles fun w => s.profiles.setMerge w.1 w.2 := by
  cases stepped_of_step hstep with
  | edit input text =>
    obtain ⟨name, surname, phone, heq⟩ := edit_eq input text s
    rw [heq]
    rfl
  | tapSubmit user =>
    obtain ⟨saves, heq⟩ := startUpdate_eq user s
    rw [heq]
    rfl
  | @completed i save rest hcall =>
    rw [written, hcall, Option.bind_some]
    cases save with
    | set owner data => rfl
    | updateDisplayName =>
      obtain ⟨_, _, _, heq⟩ := finishUpdate_eq { s with saves := rest }
      rw [resumeUpdate, heq]
      rfl
  | loaded | loadFailed | tapDate | confirmDate | closePicker | failed | leave | dispose => rfl

/-- What follows a write is not another one. -/
theorem mem_saves_resumeUpdate {save : Save} {s : State} {owner : Uid} {data : List (String × Dyn)}
    (hmem : .set owner data ∈ (resumeUpdate save s).saves) : .set owner data ∈ s.saves := by
  cases save with
  | set owner' data' =>
    rcases List.mem_append.mp hmem with hmem | hmem
    · exact hmem
    · cases List.mem_singleton.mp hmem
  | updateDisplayName displayName =>
    obtain ⟨_, _, _, heq⟩ := finishUpdate_eq s
    rwa [resumeUpdate, heq] at hmem

/-- A step adds a write only when Submit is tapped. -/
theorem mem_saves_of_step {s t : State} {e : Event} (hstep : step s e = some t) {owner : Uid}
    {data : List (String × Dyn)} (hmem : .set owner data ∈ t.saves) :
    .set owner data ∈ s.saves ∨ (e = .tapSubmit (some owner) ∧ validate s.texts = true ∧
      data = s.texts.data ∧ t.texts = s.texts) := by
  cases stepped_of_step hstep with
  | edit input text =>
    obtain ⟨name, surname, phone, heq⟩ := edit_eq input text s
    rw [heq] at hmem
    exact .inl hmem
  | tapSubmit user =>
    rcases startUpdate_cases user s with heq | ⟨owner', rfl, hvalid, heq⟩ <;> rw [heq] at hmem ⊢
    · exact .inl hmem
    · rcases List.mem_append.mp hmem with hmem | hmem
      · exact .inl hmem
      · obtain ⟨rfl, rfl⟩ := Save.set.inj (List.mem_singleton.mp hmem)
        exact .inr ⟨rfl, hvalid, rfl, rfl⟩
  | completed hcall =>
    exact .inl ((Outstanding.mem_iff_of_complete hcall).mpr (.inr (mem_saves_resumeUpdate hmem)))
  | failed hcall => exact .inl ((Outstanding.mem_iff_of_complete hcall).mpr (.inr hmem))
  | loaded | loadFailed | tapDate | confirmDate | closePicker | leave | dispose => exact .inl hmem

theorem email_fillTexts (d : Fields) (t : Texts) : (fillTexts d t).1.email = t.email := by
  unfold fillTexts
  split
  · rfl
  split
  · rfl
  split
  · rfl
  split <;> rfl

theorem email_loadUserData (snapshot : Option Fields) (email : Option String) (t : Texts) :
    (loadUserData snapshot email t).email = t.email ∨
      (loadUserData snapshot email t).email = email.getD "" := by
  cases snapshot with
  | none => exact .inr rfl
  | some d =>
    have hfill := email_fillTexts d t
    simp only [loadUserData]
    generalize fillTexts d t = filled at hfill ⊢
    rcases filled with ⟨t', _ | _⟩
    · exact .inl hfill
    · exact .inr rfl

/-- The text for the address can only become the address of the account that was there when the page
was created. -/
theorem email_of_step {s t : State} {e : Event} (hstep : step s e = some t) :
    t.email = s.email ∧ (t.texts.email = s.texts.email ∨ t.texts.email = s.email.getD "") := by
  cases stepped_of_step hstep with
  | @loaded user => exact ⟨rfl, email_loadUserData (s.profiles user) s.email s.texts⟩
  | edit input text =>
    obtain ⟨name, surname, phone, heq⟩ := edit_eq input text s
    rw [heq]
    exact ⟨rfl, .inl rfl⟩
  | tapSubmit user =>
    obtain ⟨saves, heq⟩ := startUpdate_eq user s
    rw [heq]
    exact ⟨rfl, .inl rfl⟩
  | @completed i save rest =>
    obtain ⟨_, _, _, _, _, heq⟩ := resumeUpdate_eq save { s with saves := rest }
    rw [heq]
    exact ⟨rfl, .inl rfl⟩
  | loadFailed | tapDate | confirmDate | closePicker | failed | leave | dispose =>
    exact ⟨rfl, .inl rfl⟩

/-- Texts that pass the validators are not empty. -/
theorem ne_empty_of_validate {t : Texts} (h : validate t = true) : t.name ≠ "" ∧ t.email ≠ "" := by
  constructor <;> intro hempty <;> simp [validate, hempty] at h

end ProfileSettings

end SmartHome
