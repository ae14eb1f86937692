import SmartHome.Profile.EarlyEdits

/-!
# The date of birth and the date picker

The settings form holds the date of birth twice: as the text of a controller, and as the date with
which the picker opens. A confirmed picker writes both. The load of the profile document writes the
text only, so that a picker that is opened afterwards starts at the present day, or at a date that
was confirmed before the load.

The document that is loaded is any document: the first theorem holds for those that earlier visits
to the form have saved, and for all others.

## Main definitions

* `ProfileSettings.PickerAgrees` : the picker opens at the date that the field shows.
* `ProfileSettings.LoadAgrees` : a load writes no date other than the one that is selected.

## Main results

* `ProfileSettings.Date.text_injective` : a text shows one date only.
* `ProfileSettings.texts_of_reconfirmed` : opening the picker and confirming it leaves the field
  unchanged exactly if the picker opens at the date that the field shows.
* `ProfileSettings.pickerAgrees_iff_loadAgrees` : the two agree along a run exactly if every load of
  it agrees with the selected date.
-/

namespace SmartHome.ProfileSettings

open Dart

/-! ### The text of a date -/

/-- Up to the first separator, and after it, texts are determined by their concatenation. -/
theorem append_cons_inj {α : Type} {a : α} {xs xs' ys ys' : List α} (hxs : a ∉ xs)
    (hxs' : a ∉ xs') (h : xs ++ a :: ys = xs' ++ a :: ys') : xs = xs' ∧ ys = ys' := by
  induction xs generalizing xs' with
  | nil =>
    cases xs' with
    | nil => exact ⟨rfl, (List.cons.inj h).2⟩
    | cons x xs' => exact absurd (List.cons.inj h).1 fun hx => hxs' (hx ▸ List.mem_cons_self)
  | cons x xs ih =>
    cases xs' with
    | nil => exact absurd (List.cons.inj h).1.symm fun hx => hxs (hx ▸ List.mem_cons_self)
    | cons x' xs' =>
      obtain ⟨rfl, htail⟩ := List.cons.inj h
      obtain ⟨rfl, rfl⟩ := ih (fun hmem => hxs (List.mem_cons_of_mem x hmem))
        (fun hmem => hxs' (List.mem_cons_of_mem x hmem)) htail
      exact ⟨rfl, rfl⟩

theorem toList_padLeft2 (n : ℕ) :
    (padLeft2 n).toList = if n < 10 then '0' :: Nat.toDigits 10 n else Nat.toDigits 10 n := by
  unfold padLeft2
  split <;> simp

theorem isDigit_padLeft2 (n : ℕ) : ∀ c ∈ (padLeft2 n).toList, c.isDigit = true := by
  intro c hc
  rw [toList_padLeft2] at hc
  split at hc
  · rcases List.mem_cons.mp hc with rfl | hc
    · decide
    · exact isDigit_toDigits n c hc
  · exact isDigit_toDigits n c hc

/-- A padded number reads as the number. -/
theorem ofDigitChars_padLeft2 (n : ℕ) : Nat.ofDigitChars 10 (padLeft2 n).toList 0 = n := by
  rw [toList_padLeft2]
  split
  · rw [Nat.ofDigitChars_cons]
    exact Nat.ofDigitChars_ten_toDigits
  · exact Nat.ofDigitChars_ten_toDigits

theorem padLeft2_injective {m n : ℕ} (h : (padLeft2 m).toList = (padLeft2 n).toList) : m = n := by
  rw [← ofDigitChars_padLeft2 m, h, ofDigitChars_padLeft2]

theorem slash_notMem_padLeft2 (n : ℕ) : '/' ∉ (padLeft2 n).toList := fun h =>
  absurd (isDigit_padLeft2 n '/' h) (by decide)

theorem Date.toList_text (d : Date) : d.text.toList =
    (padLeft2 d.day).toList ++ '/' :: ((padLeft2 d.month).toList ++
      '/' :: Nat.toDigits 10 d.year) := by
  simp [Date.text]

/-- A text shows one date only. -/
theorem Date.text_injective {d e : Date} (h : d.text = e.text) : d = e := by
  have htexts : d.text.toList = e.text.toList := congrArg String.toList h
  rw [Date.toList_text, Date.toList_text] at htexts
  obtain ⟨hday, hrest⟩ := append_cons_inj (slash_notMem_padLeft2 _) (slash_notMem_padLeft2 _) htexts
  obtain ⟨hmonth, hdigits⟩ :=
    append_cons_inj (slash_notMem_padLeft2 _) (slash_notMem_padLeft2 _) hrest
  have hyear : d.year = e.year := by
    rw [← @Nat.ofDigitChars_ten_toDigits d.year, hdigits, Nat.ofDigitChars_ten_toDigits]
  obtain ⟨year, month, day⟩ := d
  obtain ⟨year', month', day'⟩ := e
  obtain rfl : day = day' := padLeft2_injective hday
  obtain rfl : month = month' := padLeft2_injective hmonth
  obtain rfl : year = year' := hyear
  rfl

theorem Date.text_ne_empty (d : Date) : d.text ≠ "" := by
  intro h
  have := congrArg String.toList h
  rw [Date.toList_text] at this
  simp at this

/-! ### The picker and the field -/

/-- Where the field shows a date, the picker opens at it, whatever the present day is. -/
def PickerAgrees (s : State) : Prop :=
  ∀ d : Date, s.texts.dob = d.text → ∀ now, s.selectedDate.getD now = d

/-- The date of birth that the load writes, if it is a date, is the one that is selected. -/
def LoadAgrees (s : State) : Event → Prop
  | .loaded ok => ∀ d : Date, loadedText s ok .dob = some d.text → s.selectedDate = some d
  | _ => True

/-- The picker is opened on the form, and confirmed at the date at which it opens. The field is
left as it is exactly if that is the date that it shows. -/
theorem texts_of_reconfirmed {s : State} (hs : interactive s = true) {d : Date}
    (hd : s.texts.dob = d.text) (now : Date) :
    ∃ p t u, step s (.tapDate now) = some t ∧ t.picker = some p ∧
      step t (.confirmDate p) = some u ∧ (u.texts = s.texts ↔ s.selectedDate.getD now = d) := by
  refine ⟨s.selectedDate.getD now, _, _, if_pos hs, rfl, rfl, ?_⟩
  constructor
  · intro h
    have hdob : (s.selectedDate.getD now).text = s.texts.dob := congrArg Texts.dob h
    exact Date.text_injective (hdob.trans hd)
  · rintro rfl
    simp only [← hd]

/-! ### Runs -/

/-- The date that an event selects. -/
def pickedBy : Event → Option Date
  | .confirmDate date => some date
  | _ => none

/-- Only a confirmed picker selects a date. -/
theorem selectedDate_step {s t : State} {e : Event} (hstep : step s e = some t) :
    t.selectedDate = (pickedBy e).or s.selectedDate := by
  cases stepped_of_step hstep with
  | edit input text =>
    obtain ⟨name, surname, phone, heq⟩ := edit_eq input text s
    rw [heq]
    rfl
  | tapSubmit user =>
    obtain ⟨saves, heq⟩ := startUpdate_eq user s
    rw [heq]
    rfl
  | @completed i save rest =>
    obtain ⟨_, _, _, _, _, heq⟩ := resumeUpdate_eq save { s with saves := rest }
    rw [heq]
    rfl
  | loaded | loadFailed | tapDate | confirmDate | closePicker | failed | leave | dispose => rfl

/-- A step keeps the agreement exactly if the load, where it is one, agrees with the selected
date. -/
theorem pickerAgrees_step {s t : State} {e : Event} (hs : PickerAgrees s)
    (hstep : step s e = some t) : PickerAgrees t ↔ LoadAgrees s e := by
  have hselected := selectedDate_step hstep
  by_cases he : ∃ ok, e = .loaded ok
  · obtain ⟨ok, rfl⟩ := he
    have hdob : t.texts.dob = (loadedText s ok .dob).getD s.texts.dob :=
      (step_loaded hstep).2.2 .dob
    have hselected : t.selectedDate = s.selectedDate := hselected
    constructor
    · intro ht d hd
      have hshown : t.texts.dob = d.text := by rw [hdob, hd, Option.getD_some]
      have hnow := ht d hshown
      rw [hselected] at hnow
      cases hdate : s.selectedDate with
      | some date => exact congrArg some (by simpa [hdate] using hnow d)
      | none =>
        -- the present day may be another one
        have hother := hnow ⟨d.year + 1, d.month, d.day⟩
        rw [hdate] at hother
        exact absurd (congrArg Date.year hother) (Nat.succ_ne_self _)
    · intro hload d hd now
      rw [hselected]
      cases hloaded : loadedText s ok .dob with
      | none => exact hs d (by rw [← hd, hdob, hloaded, Option.getD_none]) now
      | some text =>
        have htext : text = d.text := by rw [← hd, hdob, hloaded, Option.getD_some]
        rw [hload d (hloaded.trans (congrArg some htext)), Option.getD_some]
  · have hdob : t.texts.dob = (enteredBy .dob e).getD s.texts.dob :=
      (text_step (fun ok h => he ⟨ok, h⟩) hstep).2 .dob
    have hagrees : LoadAgrees s e := by
      cases e with
      | loaded ok => exact absurd ⟨ok, rfl⟩ he
      | _ => trivial
    refine iff_of_true (fun d hd now => ?_) hagrees
    rw [hselected]
    cases e with
    | confirmDate date => exact Date.text_injective (hdob.symm.trans hd)
    | edit input text => cases input <;> exact hs d (hdob.symm.trans hd) now
    | _ => exact hs d (hdob.symm.trans hd) now

theorem pickerAgrees_initial (profiles : Profiles) (user : Option Uid) (email : Option String) :
    PickerAgrees (State.initial profiles user email) := fun d h =>
  absurd h.symm d.text_ne_empty

/-- **The date of birth.** In a visit to the form on any documents: along a run the picker opens at
the date that the field shows, wherever that shows one, exactly if the load writes no date other
than one that has been confirmed before in this visit. -/
theorem pickerAgrees_iff_loadAgrees (profiles : Profiles) (user : Option Uid)
    (email : Option String) (es : List Event) :
    EventRun.Along step PickerAgrees (State.initial profiles user email) es ↔
      EventRun.Meets step LoadAgrees (State.initial profiles user email) es :=
  EventRun.along_iff_meets (I := PickerAgrees) (fun _ _ _ h hload hstep =>
    (pickerAgrees_step h hstep).mpr hload) (fun _ h => h)
    (fun _ _ _ h hload hstep hagrees => hload ((pickerAgrees_step h hstep).mp hagrees))
    (pickerAgrees_initial profiles user email)

/-- The fields are filled in and saved, in a visit to a form without a document. -/
def firstVisit : List Event :=
  [.loaded true, .edit .name "Anna", .edit .surname "Lee", .edit .phone "081",
    .tapDate ⟨2025, 1, 1⟩, .confirmDate ⟨1990, 2, 1⟩, .tapSubmit (some "u1"), .completed 0 true,
    .completed 0 true]

/-- The form shows the date that it has saved; its picker opens at the present day, and writes that
if it is confirmed as it opens. -/
theorem saved_date_replaced : ∃ s t u v,
    EventRun.run step (State.initial (fun _ => none) (some "u1") (some "a@b.co")) firstVisit =
        some s ∧
      EventRun.run step (State.initial s.profiles (some "u1") (some "a@b.co")) [.loaded true] =
        some t ∧ t.texts.dob = "01/02/1990" ∧
      step t (.tapDate ⟨2025, 1, 2⟩) = some u ∧ u.picker = some ⟨2025, 1, 2⟩ ∧
      step u (.confirmDate ⟨2025, 1, 2⟩) = some v ∧ v.texts.dob = "02/01/2025" ∧
      ¬ PickerAgrees t :=
  ⟨_, _, _, _, rfl, rfl, rfl, rfl, rfl, rfl, rfl, fun h =>
    absurd (h ⟨1990, 2, 1⟩ rfl ⟨2025, 1, 2⟩) (by decide)⟩

end SmartHome.ProfileSettings
