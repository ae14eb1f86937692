import SmartHome.Components.TextArea
import SmartHome.Lib.Utf16

/-!
# Sequences of edits of a text area

Every notification of the controller of a text area can lead to two more, from within. Here they are
followed with a bound on their depth whose exhaustion shows: two levels are always enough, so the
handling of an edit comes to an end.

The text is cut by code units. A surrogate pair that straddles the limit is cut in half.

## Main definitions

* `TextArea.setValue?`, `TextArea.edits?` : the handling of edits, `none` if the depth is exhausted.
* `TextArea.EditingValue.CaretInText`.

## Main results

* `TextArea.settled_after_edits` : every edit of a sequence is handled, and what it leaves.
* `TextArea.wellFormed_iff` : when the text that is left is well-formed UTF-16.
-/

namespace SmartHome.TextArea

/-- The selection lies within the text. -/
def EditingValue.CaretInText (v : EditingValue) : Prop :=
  (0 ≤ v.baseOffset ∧ v.baseOffset ≤ v.text.length) ∧
    0 ≤ v.extentOffset ∧ v.extentOffset ≤ v.text.length

instance (v : EditingValue) : Decidable v.CaretInText :=
  inferInstanceAs (Decidable ((_ ∧ _) ∧ _ ∧ _))

variable {σ : Type} (maxLength : ℕ) (onChange : EditingValue → σ → σ)

/-- Setting the value of the controller, with at most `depth` levels of notifications. -/
def setValue? : ℕ → EditingValue → State × σ → Option (State × σ)
  | 0, _, _ => none
  | depth + 1, v, s =>
    if v = s.1.value then some s
    else
      let notified : State × σ := (⟨v, v.text.length⟩, onChange v s.2)
      if v.text.length > maxLength then do
        let cut ← setValue? depth (.ofText (v.text.take maxLength)) notified
        setValue? depth (cut.1.value.withCaret maxLength) cut
      else some notified

/-- A sequence of edits. -/
def edits? (depth : ℕ) (vs : List EditingValue) (s : State × σ) : Option (State × σ) :=
  vs.foldlM (fun s v => setValue? maxLength onChange depth v s) s

variable {maxLength onChange}

/-- A value that fits notifies once. -/
theorem setValue?_of_le {v : EditingValue} (hv : v.text.length ≤ maxLength) (depth : ℕ)
    (s : State × σ) :
    setValue? maxLength onChange (depth + 1) v s =
      some (setValue maxLength onChange (depth + 1) v s) := by
  rw [setValue_of_le hv, setValue?]
  split
  · rfl
  · simp only [gt_iff_lt, if_neg (Nat.not_lt.mpr hv)]

theorem value_setValue_of_le {v : EditingValue} (hv : v.text.length ≤ maxLength) (depth : ℕ)
    (s : State × σ) : (setValue maxLength onChange (depth + 1) v s).1.value = v := by
  rw [setValue_of_le hv]
  split
  · exact ‹v = _›.symm
  · rfl

/-- Two levels of notifications are enough. -/
theorem setValue?_eq_edit (depth : ℕ) (v : EditingValue) (s : State × σ) :
    setValue? maxLength onChange (depth + 2) v s = some (edit maxLength onChange v s) := by
  rw [← setValue_depth depth v s]
  rcases Nat.lt_or_ge maxLength v.text.length with hv | hv
  · -- the beginning of the text fits, and so does the value with the caret
    have hfits : (EditingValue.ofText (v.text.take maxLength)).text.length ≤ maxLength :=
      List.length_take_le maxLength v.text
    have hcaret (s : State × σ) : ((setValue maxLength onChange (depth + 1)
        (.ofText (v.text.take maxLength)) s).1.value.withCaret maxLength).text.length ≤
          maxLength := by
      rw [value_setValue_of_le hfits]
      exact hfits
    rw [setValue?, setValue]
    split
    · rfl
    · simp only [setValue?_of_le hfits, Option.bind_eq_bind, Option.bind_some,
        setValue?_of_le (hcaret _)]
  · exact setValue?_of_le hv (depth + 1) s

/-- The state after a sequence of edits. -/
def editAll (maxLength : ℕ) (onChange : EditingValue → σ → σ) (vs : List EditingValue)
    (s : State × σ) : State × σ :=
  vs.foldl (fun s v => edit maxLength onChange v s) s

theorem edits?_eq_editAll (depth : ℕ) (vs : List EditingValue) (s : State × σ) :
    edits? maxLength onChange (depth + 2) vs s = some (editAll maxLength onChange vs s) := by
  induction vs generalizing s with
  | nil => rfl
  | cons v vs ih =>
    rw [edits?, List.foldlM_cons, setValue?_eq_edit, Option.bind_eq_bind, Option.bind_some]
    exact ih _

/-- The text fits, and the counter shows its length. -/
def Fits (maxLength : ℕ) (s : State) : Prop :=
  s.value.text.length ≤ maxLength ∧ s.currentLength = s.value.text.length

theorem fits_edit (v : EditingValue) {s : State × σ} (hs : Fits maxLength s.1) :
    Fits maxLength (edit maxLength onChange v s).1 := by
  obtain ⟨htext, hcount⟩ := @edit_text σ maxLength onChange v s hs.1 hs.2
  exact ⟨htext ▸ List.length_take_le maxLength v.text, hcount⟩

theorem fits_editAll (vs : List EditingValue) {s : State × σ} (hs : Fits maxLength s.1) :
    Fits maxLength (editAll maxLength onChange vs s).1 := by
  induction vs generalizing s with
  | nil => exact hs
  | cons v vs ih => exact ih (fits_edit v hs)

theorem fits_initial (env : σ) : Fits maxLength ((State.initial, env) : State × σ).1 :=
  ⟨Nat.zero_le _, rfl⟩

/-- The caret is that of the edit, or stands at the end of a text that has been cut. -/
theorem caret_edit {v : EditingValue} (hv : v.CaretInText) (s : State × σ) :
    (edit maxLength onChange v s).1.value.CaretInText := by
  rcases Nat.lt_or_ge maxLength v.text.length with hlong | hfits
  · rw [edit, setValue_of_lt hlong]
    split
    · exact ‹v = _› ▸ hv
    · have hlength : (v.text.take maxLength).length = maxLength :=
        List.length_take_of_le (Nat.le_of_lt hlong)
      simp [EditingValue.CaretInText, EditingValue.withCaret, EditingValue.ofText, hlength]
  · rw [edit, value_setValue_of_le hfits]
    exact hv

theorem text_after_edits (maxLength : ℕ) (onChange : EditingValue → σ → σ) (env : σ)
    (earlier : List EditingValue) (v : EditingValue) :
    let t := edit maxLength onChange v (editAll maxLength onChange earlier (.initial, env))
    t.1.value.text = v.text.take maxLength ∧ t.1.currentLength = t.1.value.text.length := by
  have hfits := @fits_editAll σ maxLength onChange earlier _ (fits_initial env)
  exact edit_text v hfits.1 hfits.2

/-- **Edits of a text area.** Whatever the limit is and whatever else listens to the controller,
after any sequence of edits the handling of one more edit comes to an end. It leaves as much of the
beginning of its text as the limit allows, with the caret within it, and the counter shows its
length. -/
theorem settled_after_edits (maxLength : ℕ) (onChange : EditingValue → σ → σ) (env : σ)
    (depth : ℕ) (earlier : List EditingValue) {v : EditingValue} (hv : v.CaretInText) :
    ∃ s t, edits? maxLength onChange (depth + 2) earlier (.initial, env) = some s ∧
      setValue? maxLength onChange (depth + 2) v s = some t ∧
      t.1.value.text = v.text.take (min v.text.length maxLength) ∧ t.1.value.CaretInText ∧
      t.1.currentLength = t.1.value.text.length := by
  obtain ⟨htext, hcount⟩ := text_after_edits maxLength onChange env earlier v
  refine ⟨_, _, edits?_eq_editAll depth earlier _, setValue?_eq_edit depth v _, ?_,
    caret_edit hv _, hcount⟩
  rw [htext, Nat.min_comm, ← List.take_eq_take_min]

/-- An edit of a new text area. -/
theorem settled_after_edits_first :
    let v : EditingValue := ⟨[0x61, 0x62, 0x63], 3, 3⟩
    ∃ s t, edits? 2 (fun _ env => env) 2 [] (.initial, ()) = some s ∧
      setValue? 2 (fun _ env => env) 2 v s = some t ∧
      t.1.value.text = v.text.take (min v.text.length 2) ∧ t.1.value.CaretInText ∧
      t.1.currentLength = t.1.value.text.length :=
  @settled_after_edits Unit 2 (fun _ env => env) () 0 [] ⟨[0x61, 0x62, 0x63], 3, 3⟩ (by decide)

/-! ### Surrogate pairs -/

/-- The limit cuts the text between the units of a surrogate pair. -/
def straddles (maxLength : ℕ) (text : List UInt16) : Bool := text[maxLength]?.any Utf16.isLow

/-- **Well-formed texts.** Whatever the limit is, after any sequence of edits one more edit, whose
text is well-formed UTF-16, leaves a well-formed text exactly if no surrogate pair of its text
straddles the limit. -/
theorem wellFormed_iff (maxLength : ℕ) (onChange : EditingValue → σ → σ) (env : σ) (depth : ℕ)
    (earlier : List EditingValue) {v : EditingValue} (hv : Utf16.wellFormed v.text = true) :
    ∃ s t, edits? maxLength onChange (depth + 2) earlier (.initial, env) = some s ∧
      setValue? maxLength onChange (depth + 2) v s = some t ∧
      (Utf16.wellFormed t.1.value.text = true ↔ straddles maxLength v.text = false) := by
  obtain ⟨htext, -⟩ := text_after_edits maxLength onChange env earlier v
  refine ⟨_, _, edits?_eq_editAll depth earlier _, setValue?_eq_edit depth v _, ?_⟩
  rw [htext]
  exact Utf16.wellFormed_take_iff hv maxLength

/-- 249 letters and an emoji, typed into an address of at most 250 units. -/
def emojiAtLimit : EditingValue := ⟨List.replicate 249 0x61 ++ [0xD83D, 0xDE00], 251, 251⟩

theorem wellFormed_letters (n : ℕ) (us : List UInt16) :
    Utf16.wellFormed (List.replicate n 0x61 ++ us) = Utf16.wellFormed us := by
  induction n with
  | zero => rfl
  | succ n ih =>
    rw [List.replicate_succ, List.cons_append, Utf16.wellFormed_cons_of_not_isHigh (by decide), ih]
    rfl

theorem take_letters (n : ℕ) (u : UInt16) (us : List UInt16) :
    (List.replicate n 0x61 ++ u :: us).take (n + 1) = List.replicate n 0x61 ++ [u] := by
  induction n with
  | zero => rfl
  | succ n ih => rw [List.replicate_succ, List.cons_append, List.take_succ_cons, ih]; rfl

/-- The emoji is cut in half. -/
theorem emoji_cut_in_half : Utf16.wellFormed emojiAtLimit.text = true ∧
    ∃ t, setValue? 250 (fun _ env => env) 2 emojiAtLimit (.initial, ()) = some t ∧
      t.1.value.text = List.replicate 249 0x61 ++ [0xD83D] ∧
      Utf16.wellFormed t.1.value.text = false := by
  obtain ⟨htext, -⟩ := text_after_edits 250 (fun _ env => env) () [] emojiAtLimit
  rw [editAll, List.foldl_nil] at htext
  have hcut := htext.trans (take_letters 249 0xD83D [0xDE00])
  refine ⟨(wellFormed_letters 249 _).trans rfl, _, setValue?_eq_edit 0 _ _, hcut, ?_⟩
  exact (congrArg Utf16.wellFormed hcut).trans ((wellFormed_letters 249 [0xD83D]).trans rfl)

/-- An emoji that fits is kept whole. -/
theorem wellFormed_iff_fits :
    let v : EditingValue := ⟨[0x61, 0xD83D, 0xDE00], 3, 3⟩
    ∃ s t, edits? 3 (fun _ env => env) 2 [] (.initial, ()) = some s ∧
      setValue? 3 (fun _ env => env) 2 v s = some t ∧
      (Utf16.wellFormed t.1.value.text = true ↔ straddles 3 v.text = false) :=
  @wellFormed_iff Unit 3 (fun _ env => env) () 0 [] ⟨[0x61, 0xD83D, 0xDE00], 3, 3⟩ (by decide)

end SmartHome.TextArea
