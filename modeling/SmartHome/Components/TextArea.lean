import Mathlib.Data.List.Basic

/-!
# The text area

`TextArea` cuts the text of its controller down to `maxLength` UTF-16 code units, in a listener of
that same controller: setting the text and the selection notifies the listeners again, from within
the notification. The listeners of a controller run in the order in which they were added; those
added before the one of the text area are the parameter `onChange`, acting on the state of the
widgets around it.

Nested notifications are bounded by a depth. Two levels are enough, and more change nothing.

## Main definitions

* `TextArea.State`, `TextArea.setValue`, `TextArea.edit`.

## Main results

* `TextArea.edit_text` : what an edit leaves in the controller.
* `TextArea.setValue_depth` : two levels of notifications are enough.
* `TextArea.edit_rule`, `TextArea.edit_frame` : what every notification of `onChange` establishes,
  and what none of them changes.
-/

namespace SmartHome.TextArea

/-- The value of a text controller: the text as UTF-16 code units, and the selection. -/
structure EditingValue where
  text : List UInt16
  baseOffset : Int
  extentOffset : Int
  deriving DecidableEq

/-- The empty controller. -/
def EditingValue.empty : EditingValue := { text := [], baseOffset := -1, extentOffset := -1 }

/-- The value after `controller.text = text`. -/
def EditingValue.ofText (text : List UInt16) : EditingValue :=
  { text, baseOffset := -1, extentOffset := -1 }

/-- The value after `controller.selection` is set to a caret. -/
def EditingValue.withCaret (offset : ℕ) (v : EditingValue) : EditingValue :=
  { v with baseOffset := offset, extentOffset := offset }

/-- The controller and `_currentLength`. -/
structure State where
  value : EditingValue
  currentLength : ℕ
  deriving DecidableEq

/-- A text area with an empty controller. -/
def State.initial : State := { value := .empty, currentLength := 0 }

variable {σ : Type} (maxLength : ℕ) (onChange : EditingValue → σ → σ)

/-- Setting the value of the controller: an equal value notifies nobody; otherwise the listeners
run, `_updateLength` last. -/
def setValue : ℕ → EditingValue → State × σ → State × σ
  | 0, _, s => s
  | depth + 1, v, s =>
    if v = s.1.value then s
    else
      let notified : State × σ := (⟨v, v.text.length⟩, onChange v s.2)
      if v.text.length > maxLength then
        let cut := setValue depth (.ofText (v.text.take maxLength)) notified
        setValue depth (cut.1.value.withCaret maxLength) cut
      else notified

/-- An edit sets the value that it produces. -/
def edit (v : EditingValue) (s : State × σ) : State × σ := setValue maxLength onChange 2 v s

variable {maxLength onChange}

/-- Where the text fits, one level of notifications is enough. -/
theorem setValue_of_le {v : EditingValue} (hv : v.text.length ≤ maxLength) (depth : ℕ)
    (s : State × σ) :
    setValue maxLength onChange (depth + 1) v s =
      if v = s.1.value then s else (⟨v, v.text.length⟩, onChange v s.2) := by
  simp only [setValue, gt_iff_lt, if_neg (Nat.not_lt.mpr hv)]

/-- Where the text is too long, its beginning is set, which fits, and then the caret. -/
theorem setValue_of_lt {v : EditingValue} (hv : maxLength < v.text.length) (depth : ℕ)
    (s : State × σ) :
    setValue maxLength onChange (depth + 2) v s =
      if v = s.1.value then s
      else
        let cut := EditingValue.ofText (v.text.take maxLength)
        (⟨cut.withCaret maxLength, maxLength⟩,
          onChange (cut.withCaret maxLength) (onChange cut (onChange v s.2))) := by
  have hlength : (v.text.take maxLength).length = maxLength :=
    List.length_take_of_le (Nat.le_of_lt hv)
  have hcut : EditingValue.ofText (v.text.take maxLength) ≠ v := by
    intro h
    have := congrArg (fun w : EditingValue => w.text.length) h
    simp only [EditingValue.ofText, hlength] at this
    omega
  have hcaret : (EditingValue.ofText (v.text.take maxLength)).withCaret maxLength ≠
      EditingValue.ofText (v.text.take maxLength) := by
    intro h
    have := congrArg EditingValue.baseOffset h
    simp only [EditingValue.withCaret, EditingValue.ofText] at this
    omega
  have hfits : (EditingValue.ofText (v.text.take maxLength)).text.length ≤ maxLength :=
    Nat.le_of_eq hlength
  have hfits' : ((EditingValue.ofText (v.text.take maxLength)).withCaret maxLength).text.length ≤
      maxLength := Nat.le_of_eq hlength
  rw [setValue]
  simp only [gt_iff_lt, if_pos hv, setValue_of_le hfits, if_neg hcut, setValue_of_le hfits',
    if_neg hcaret]
  simp only [EditingValue.withCaret, EditingValue.ofText, hlength]

/-- Two levels of notifications are enough. -/
theorem setValue_depth (depth : ℕ) (v : EditingValue) (s : State × σ) :
    setValue maxLength onChange (depth + 2) v s = edit maxLength onChange v s := by
  rcases (Nat.lt_or_ge maxLength v.text.length).symm with hv | hv
  · rw [edit, setValue_of_le hv, setValue_of_le hv]
  · rw [edit, setValue_of_lt hv, setValue_of_lt hv]

/-- An edit leaves the beginning of its text in the controller, as far as it fits, and the counter
shows the length of what is left. -/
theorem edit_text (v : EditingValue) {s : State × σ} (hs : s.1.value.text.length ≤ maxLength)
    (hcount : s.1.currentLength = s.1.value.text.length) :
    (edit maxLength onChange v s).1.value.text = v.text.take maxLength ∧
      (edit maxLength onChange v s).1.currentLength =
        (edit maxLength onChange v s).1.value.text.length := by
  rcases (Nat.lt_or_ge maxLength v.text.length).symm with hv | hv
  · rw [edit, setValue_of_le hv, List.take_of_length_le hv]
    split
    · exact ⟨‹v = _› ▸ rfl, hcount⟩
    · exact ⟨rfl, rfl⟩
  · rw [edit, setValue_of_lt hv]
    split
    · exact absurd (‹v = _› ▸ hs) (Nat.not_le.mpr hv)
    · exact ⟨rfl, (List.length_take_of_le (Nat.le_of_lt hv)).symm⟩

/-- What every notification of `onChange` establishes for the value notified holds after an edit,
if it held before. -/
theorem edit_rule {P : EditingValue → σ → Prop} (hP : ∀ v env, P v (onChange v env))
    (v : EditingValue) {s : State × σ} (hs : P s.1.value s.2) :
    P (edit maxLength onChange v s).1.value (edit maxLength onChange v s).2 := by
  rcases (Nat.lt_or_ge maxLength v.text.length).symm with hv | hv
  · rw [edit, setValue_of_le hv]
    split
    · exact hs
    · exact hP _ _
  · rw [edit, setValue_of_lt hv]
    split
    · exact hs
    · exact hP _ _

/-- What no notification of `onChange` changes is not changed by an edit. -/
theorem edit_frame {β : Type} {f : σ → β} (hf : ∀ v env, f (onChange v env) = f env)
    (v : EditingValue) (s : State × σ) : f (edit maxLength onChange v s).2 = f s.2 := by
  rcases (Nat.lt_or_ge maxLength v.text.length).symm with hv | hv
  · rw [edit, setValue_of_le hv]
    split
    · rfl
    · exact hf _ _
  · rw [edit, setValue_of_lt hv]
    split
    · rfl
    · simp only [hf]

end SmartHome.TextArea
