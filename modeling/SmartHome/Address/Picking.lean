import SmartHome.Home.FormCreate

/-!
# Runs of the address picker

The `ThaiAddress` widget by itself: its state, the picker that may be open over it, and the taps
of a user. The three pickers list rows of three kinds; they are described here in one way, by the
ids and the names of the rows that they list.

A form for a new home contains this widget. Its runs are runs of the widget, between which the form
does other things.

## Main definitions

* `ThaiAddress.Widget`, `ThaiAddress.Tap`, `ThaiAddress.Widget.step`.
* `ThaiAddress.listed` : the rows that a picker lists.
* `ThaiAddress.confirmedId` : the id that Done selects.
* `ThaiAddress.Opened` : a picker that the present tables and selection open.

## Main results

* `ThaiAddress.done_spec` : when Done succeeds, and what it selects.
* `ThaiAddress.openedNow_step` : an open picker stays one that the present state opens.
* `FormCreate.widget_of_run` : the runs of the form are runs of the widget.
-/

namespace SmartHome.ThaiAddress

open Dart

/-- The widget and the picker that is open over it. -/
structure Widget where
  state : State
  picker : Option Picker

/-- The widget after `_loadData`. -/
def Widget.loaded (assets : Assets) : Widget := ⟨loadData assets .initial, none⟩

/-- What the user can do. -/
inductive Tap where
  | tapField (level : Level)
  | scroll (index : ℕ)
  | done
  | cancel

/-- The Done button of the picker. A handler that throws does not get to close it. -/
def Widget.confirm (picker : Picker) (w : Widget) : Widget :=
  match ThaiAddress.done w.state picker with
  | (state, .ok _) => ⟨state, none⟩
  | (state, .error _) => { w with state }

theorem Widget.state_confirm (p : Picker) (w : Widget) :
    (w.confirm p).state = (ThaiAddress.done w.state p).1 := by
  unfold Widget.confirm
  split <;> simp [*]

/-- One tap. An open picker covers the fields. -/
def Widget.step (w : Widget) : Tap → Option Widget
  | .tapField level =>
    if w.picker.isNone && rendered w.state level then
      some { w with picker := (showPicker w.state level).toOption }
    else none
  | .scroll index =>
    w.picker.bind fun picker =>
      if index < picker.items.length then
        some { w with picker := some { picker with selectedItem := index } }
      else none
  | .done => w.picker.map fun picker => w.confirm picker
  | .cancel => w.picker.map fun _ => { w with picker := none }

/-- What a tap does, with the guards that it has passed. -/
inductive Widget.Stepped (w : Widget) : Tap → Widget → Prop
  | tapField (level : Level) (hnone : w.picker = none) (hrendered : rendered w.state level = true) :
      Stepped w (.tapField level) { w with picker := (showPicker w.state level).toOption }
  | scroll {p : Picker} (index : ℕ) (hpicker : w.picker = some p)
      (hindex : index < p.items.length) :
      Stepped w (.scroll index) { w with picker := some { p with selectedItem := index } }
  | done {p : Picker} (hpicker : w.picker = some p) : Stepped w .done (w.confirm p)
  | cancel {p : Picker} (hpicker : w.picker = some p) : Stepped w .cancel { w with picker := none }

theorem Widget.stepped_of_step {w v : Widget} {tap : Tap} (hstep : w.step tap = some v) :
    w.Stepped tap v := by
  cases tap with
  | tapField level =>
    simp only [Widget.step, Option.ite_none_right_eq_some, Bool.and_eq_true,
      Option.isNone_iff_eq_none, Option.some.injEq] at hstep
    obtain ⟨⟨hnone, hrendered⟩, rfl⟩ := hstep
    exact .tapField level hnone hrendered
  | scroll index =>
    obtain ⟨p, hpicker, hstep⟩ := Option.bind_eq_some_iff.mp hstep
    simp only [Option.ite_none_right_eq_some, Option.some.injEq] at hstep
    obtain ⟨hindex, rfl⟩ := hstep
    exact .scroll index hpicker hindex
  | done =>
    obtain ⟨p, hpicker, rfl⟩ := Option.map_eq_some_iff.mp hstep
    exact .done hpicker
  | cancel =>
    obtain ⟨p, hpicker, rfl⟩ := Option.map_eq_some_iff.mp hstep
    exact .cancel hpicker

/-! ### The three levels -/

/-- The id that is selected at a level. -/
def State.selectedId (s : State) : Level → Option Int
  | .province => s.selectedProvinceId
  | .district => s.selectedDistrictId
  | .subdistrict => s.selectedSubdistrictId

/-- The name that is kept for a level. -/
def State.selectedName (s : State) : Level → Option String
  | .province => s.selectedProvinceName
  | .district => s.selectedDistrictName
  | .subdistrict => s.selectedSubdistrictName

/-- The id and the name of a row. -/
structure ListedRow where
  id : Except Error Int
  name : Except Error Dyn

/-- The rows that the picker of a level lists. -/
def listed (s : State) : Level → List ListedRow
  | .province => (s.provinces.getD []).map fun row => ⟨parseField row "id", provinceName row⟩
  | .district =>
    ((s.selectedProvinceId.bind s.districts.get?).getD []).map fun row =>
      ⟨.ok row.id, .ok row.nameTh⟩
  | .subdistrict =>
    ((s.selectedDistrictId.bind s.subdistricts.get?).getD []).map fun row =>
      ⟨.ok row.id, .ok row.nameTh⟩

/-- The id of the row that Done takes. -/
def confirmedId (s : State) (p : Picker) : Option Int :=
  (elementAt (listed s p.level) p.selectedItem >>= ListedRow.id).toOption

theorem listed_province {s : State} {rows : List Dyn} (h : provinceRows s = .ok rows) :
    listed s .province = rows.map fun row => ⟨parseField row "id", provinceName row⟩ := by
  rw [listed, provinceRows_eq_ok.mp h, Option.getD_some]

theorem listed_district {s : State} {rows : List DistrictRow}
    (h : group s.districts s.selectedProvinceId = .ok rows) :
    listed s .district = rows.map fun row => ⟨.ok row.id, .ok row.nameTh⟩ := by
  obtain ⟨key, hkey, hget⟩ := group_eq_ok.mp h
  rw [listed, hkey, Option.bind_some, hget, Option.getD_some]

theorem listed_subdistrict {s : State} {rows : List SubdistrictRow}
    (h : group s.subdistricts s.selectedDistrictId = .ok rows) :
    listed s .subdistrict = rows.map fun row => ⟨.ok row.id, .ok row.nameTh⟩ := by
  obtain ⟨key, hkey, hget⟩ := group_eq_ok.mp h
  rw [listed, hkey, Option.bind_some, hget, Option.getD_some]

theorem elementAt_map {α β : Type} (f : α → β) (rows : List α) (i : Int) :
    elementAt (rows.map f) i = (elementAt rows i).map f := by
  unfold elementAt
  rw [List.getElem?_map]
  split
  · rfl
  · cases rows[i.toNat]? <;> rfl

theorem elementAt_of_lt {α : Type} {rows : List α} {i : Int} (hlow : 0 ≤ i)
    (hhigh : i < rows.length) : ∃ row ∈ rows, elementAt rows i = .ok row := by
  have hlt : i.toNat < rows.length := by omega
  exact ⟨rows[i.toNat], List.getElem_mem hlt,
    elementAt_eq_ok.mpr ⟨by omega, List.getElem?_eq_getElem hlt⟩⟩

theorem itemTexts_length {α : Type} {nameTh : α → Except Error Dyn} {rows : List α}
    {items : List String} (h : itemTexts nameTh rows = .ok items) : items.length = rows.length := by
  induction rows generalizing items with
  | nil =>
    obtain rfl := Except.ok.inj h
    rfl
  | cons row rows ih =>
    obtain ⟨name, -, h⟩ := bind_eq_ok.mp h
    obtain ⟨text, -, h⟩ := bind_eq_ok.mp h
    obtain ⟨texts, htexts, h⟩ := bind_eq_ok.mp h
    obtain rfl := Except.ok.inj h
    rw [List.length_cons, List.length_cons, ih htexts]

/-- A picker lists as many items as there are rows. -/
theorem showPicker_items_length {s : State} {level : Level} {q : Picker}
    (h : showPicker s level = .ok q) : q.items.length = (listed s level).length := by
  cases level with
  | province =>
    obtain ⟨rows, hrows, htexts⟩ := showPicker_province h
    rw [listed_province hrows, List.length_map]
    exact itemTexts_length htexts
  | district =>
    obtain ⟨rows, hrows, htexts⟩ := showPicker_district h
    rw [listed_district hrows, List.length_map]
    exact itemTexts_length htexts
  | subdistrict =>
    obtain ⟨rows, hrows, htexts⟩ := showPicker_subdistrict h
    rw [listed_subdistrict hrows, List.length_map]
    exact itemTexts_length htexts

/-- Done in a picker that the present state opens: it succeeds if it finds a row with an id, and
then selects that id; otherwise it changes nothing. -/
theorem done_spec {s : State} {p q : Picker} (hopen : showPicker s p.level = .ok q)
    (hitems : q.items = p.items) :
    match confirmedId s p with
    | some id => ∃ callbacks, (done s p).2 = .ok callbacks ∧
        (done s p).1.selectedId p.level = some id
    | none => ∃ e, done s p = (s, .error e) := by
  unfold confirmedId done
  cases hlevel : p.level with
  | province =>
    rw [hlevel] at hopen
    obtain ⟨rows, hrows, htexts⟩ := showPicker_province hopen
    rw [hitems] at htexts
    rw [listed_province hrows, elementAt_map]
    simp only [doneProvince, hrows, ok_bind]
    cases hrow : elementAt rows p.selectedItem with
    | error e => exact ⟨e, rfl⟩
    | ok row =>
      obtain ⟨-, text, hname, -⟩ := elementAt_chosen htexts hrow
      cases hid : parseField row "id" with
      | error e => simp [hid, Except.map, Except.toOption]
      | ok id =>
        simp [hid, hname, Except.map, Except.toOption, Dyn.asStringOrNull, State.selectedId]
  | district =>
    rw [hlevel] at hopen
    obtain ⟨rows, hrows, htexts⟩ := showPicker_district hopen
    rw [hitems] at htexts
    rw [listed_district hrows, elementAt_map]
    simp only [doneDistrict, hrows, ok_bind]
    cases hrow : elementAt rows p.selectedItem with
    | error e => exact ⟨e, rfl⟩
    | ok row =>
      obtain ⟨-, text, hname, -⟩ := elementAt_chosen htexts hrow
      have hname : row.nameTh = .str text := Except.ok.inj hname
      simp [hname, Except.map, Except.toOption, Dyn.asStringOrNull, State.selectedId]
  | subdistrict =>
    rw [hlevel] at hopen
    obtain ⟨rows, hrows, htexts⟩ := showPicker_subdistrict hopen
    rw [hitems] at htexts
    rw [listed_subdistrict hrows, elementAt_map]
    simp only [doneSubdistrict, hrows, ok_bind]
    cases hrow : elementAt rows p.selectedItem with
    | error e => exact ⟨e, rfl⟩
    | ok row =>
      obtain ⟨-, text, hname, -⟩ := elementAt_chosen htexts hrow
      have hname : row.nameTh = .str text := Except.ok.inj hname
      simp [hname, Except.map, Except.toOption, Dyn.asStringOrNull, State.selectedId]

/-- What a successful Done selects. -/
theorem confirmedId_of_done {s t : State} {p q : Picker} {callbacks : List Callback}
    (hopen : showPicker s p.level = .ok q) (hitems : q.items = p.items)
    (hdone : done s p = (t, .ok callbacks)) : confirmedId s p = t.selectedId p.level := by
  have hspec := done_spec hopen hitems
  rw [hdone] at hspec
  cases hid : confirmedId s p with
  | none =>
    rw [hid] at hspec
    obtain ⟨e, he⟩ := hspec
    cases he
  | some id =>
    rw [hid] at hspec
    obtain ⟨-, -, hselected⟩ := hspec
    exact hselected.symm

/-! ### The open picker -/

/-- A picker that the present state opens, in which another item may have been scrolled to. -/
structure Opened (s : State) (p q : Picker) : Prop where
  rendered : rendered s p.level = true
  shown : showPicker s p.level = .ok q
  same : p = { q with selectedItem := p.selectedItem }
  scrolled : p.selectedItem = q.selectedItem ∨
    0 ≤ p.selectedItem ∧ p.selectedItem < p.items.length

/-- Whatever picker is open, the present state opens it. -/
def Widget.OpenedNow (w : Widget) : Prop := ∀ p, w.picker = some p → ∃ q, Opened w.state p q

theorem openedNow_loaded (assets : Assets) : (Widget.loaded assets).OpenedNow := by
  rintro _ ⟨⟩

theorem Opened.items {s : State} {p q : Picker} (h : Opened s p q) : q.items = p.items :=
  (congrArg Picker.items h.same).symm

theorem openedNow_step {w v : Widget} {tap : Tap} (h : w.OpenedNow) (hstep : w.step tap = some v) :
    v.OpenedNow := by
  intro p hp
  cases Widget.stepped_of_step hstep with
  | tapField level hnone hrendered =>
    obtain ⟨q, hshow, rfl⟩ : ∃ q, showPicker w.state level = .ok q ∧ q = p := by
      cases hshow : showPicker w.state level with
      | error e => simp [hshow, Except.toOption] at hp
      | ok q => exact ⟨q, rfl, by simpa [hshow, Except.toOption] using hp⟩
    have hlevel := showPicker_level hshow
    exact ⟨q, hlevel ▸ hrendered, hlevel ▸ hshow, rfl, .inl rfl⟩
  | @scroll p' index hpicker hindex =>
    obtain rfl := Option.some.inj hp
    obtain ⟨q, hopened⟩ := h p' hpicker
    exact ⟨q, hopened.rendered, hopened.shown, by rw [hopened.same], .inr ⟨by simp, by simpa⟩⟩
  | @done p' hpicker =>
    obtain ⟨q, hopened⟩ := h p' hpicker
    have hspec := done_spec hopened.shown hopened.items
    unfold Widget.confirm at hp ⊢
    cases hid : confirmedId w.state p' with
    | none =>
      rw [hid] at hspec
      obtain ⟨e, he⟩ := hspec
      rw [he] at hp ⊢
      exact h p hp
    | some id =>
      rw [hid] at hspec
      obtain ⟨callbacks, hok, -⟩ := hspec
      split at hp
      · cases hp
      · rename_i herror
        rw [herror] at hok
        cases hok
  | cancel => cases hp

/-- A district is chosen in the first province, and then the second province. -/
def chooseAgain : List Tap :=
  [.tapField .province, .done, .tapField .district, .done, .tapField .province, .scroll 1, .done]

end SmartHome.ThaiAddress

namespace SmartHome.FormCreate

open ThaiAddress (Assets Picker Tap Widget)

/-! ### The widget in the form -/

/-- The `ThaiAddress` widget of a form. -/
def State.widget (s : State) : Widget := ⟨s.address, s.picker⟩

theorem widget_confirm (p : Picker) (s : State) :
    (confirm p s).widget = s.widget.confirm p := by
  unfold confirm Widget.confirm State.widget
  split <;> simp [*]

theorem frame_editName (text : List UInt16) (s : State) :
    (editName text s).loading = s.loading ∧ (editName text s).widget = s.widget := by
  obtain ⟨name, isButtonDisabled, heq⟩ := editName_eq text s
  rw [heq]
  exact ⟨rfl, rfl⟩

theorem frame_startCreate (user : Option Uid) (s : State) :
    (startCreate user s).loading = s.loading ∧ (startCreate user s).widget = s.widget := by
  obtain ⟨errorMessage, passed, calls, heq⟩ := startCreate_eq user s
  rw [heq]
  exact ⟨rfl, rfl⟩

theorem loading_confirm (p : Picker) (s : State) : (confirm p s).loading = s.loading := by
  obtain ⟨address, picker', callbacks, heq⟩ := confirm_eq p s
  rw [heq]

/-- Leaving the page takes the picker away, as Cancel does. -/
theorem frame_completeCreate (r : HomeRecord) (outcome : Except String Unit) (s : State) :
    (completeCreate r outcome s).loading = s.loading ∧
      ((completeCreate r outcome s).widget = s.widget ∨
        (completeCreate r outcome s).widget = ⟨s.address, none⟩) := by
  obtain ⟨added, heq⟩ := completeCreate_eq r outcome s
  rw [heq, resumeCreate]
  split
  · exact ⟨rfl, .inl rfl⟩
  · exact ⟨rfl, .inr rfl⟩

/-- A step other than the end of the load is a tap on the widget, or leaves the widget alone. -/
theorem tap_of_step {assets : Assets} {s t : State} {e : Event} (he : e ≠ .loaded)
    (hstep : step assets s e = some t) :
    t.loading = s.loading ∧ (t.widget = s.widget ∨ ∃ tap, s.widget.step tap = some t.widget) := by
  cases stepped_of_step hstep with
  | loaded hloading => exact absurd rfl he
  | tapField level hshown hrendered =>
    have hnone := picker_of_interactive hshown
    exact ⟨rfl, .inr ⟨.tapField level, if_pos (by simp [State.widget, hnone, hrendered])⟩⟩
  | @scroll p index hpicker hindex =>
    refine ⟨rfl, .inr ⟨.scroll index, ?_⟩⟩
    rw [Widget.step, State.widget, hpicker, Option.bind_some, if_pos hindex]
    rfl
  | @done p hpicker =>
    refine ⟨loading_confirm p s, .inr ⟨.done, ?_⟩⟩
    rw [widget_confirm, Widget.step, State.widget, hpicker, Option.map_some]
  | @cancel p hpicker =>
    refine ⟨rfl, .inr ⟨.cancel, ?_⟩⟩
    rw [Widget.step, State.widget, hpicker, Option.map_some]
    rfl
  | editName text =>
    have hframe := frame_editName text s
    exact ⟨hframe.1, .inl hframe.2⟩
  | tapCreate user =>
    have hframe := frame_startCreate user s
    exact ⟨hframe.1, .inl hframe.2⟩
  | @completed i r rest outcome hcall =>
    have hframe := frame_completeCreate r outcome { s with calls := rest }
    refine ⟨hframe.1, ?_⟩
    rcases hframe.2 with h | h
    · exact .inl h
    · rw [h]
      cases hpicker : s.picker with
      | none => exact .inl (by rw [State.widget, hpicker])
      | some p => exact .inr ⟨.cancel, by rw [Widget.step, State.widget, hpicker, Option.map_some]⟩
  | editAddress | leave | dispose => exact ⟨rfl, .inl rfl⟩

/-- A step of a loaded form is a tap on its widget, or leaves the widget alone. -/
theorem widget_step {assets : Assets} {s t : State} {e : Event} (hloaded : s.loading = false)
    (hstep : step assets s e = some t) :
    t.loading = false ∧ (t.widget = s.widget ∨ ∃ tap, s.widget.step tap = some t.widget) := by
  by_cases he : e = .loaded
  · subst he
    cases stepped_of_step hstep with
    | loaded hloading => exact absurd (hloaded.symm.trans hloading) Bool.false_ne_true
  · exact (tap_of_step he hstep).imp_left fun h => h.trans hloaded

/-- Until the tables are loaded, no picker opens and nothing else reaches the widget. -/
theorem widget_of_loading {assets : Assets} {s t : State} {e : Event}
    (hwidget : s.widget = ⟨.initial, none⟩) (hstep : step assets s e = some t) :
    t.widget = ⟨.initial, none⟩ ∨ t.widget = Widget.loaded assets ∧ t.loading = false := by
  have haddress : s.address = .initial := congrArg Widget.state hwidget
  have hpicker : s.picker = none := congrArg Widget.picker hwidget
  cases stepped_of_step hstep with
  | loaded => exact .inr ⟨by rw [State.widget, haddress, hpicker, Widget.loaded], rfl⟩
  | tapField level =>
    have hfails : (ThaiAddress.showPicker s.address level).toOption = none := by
      rw [haddress]
      cases level <;> rfl
    exact .inl (by rw [State.widget, hfails, haddress])
  | scroll _ h | done h | cancel h => exact absurd (hpicker.symm.trans h) (by simp)
  | editName text => exact .inl ((frame_editName text s).2.trans hwidget)
  | tapCreate user => exact .inl ((frame_startCreate user s).2.trans hwidget)
  | @completed i r rest outcome hcall =>
    rcases (frame_completeCreate r outcome { s with calls := rest }).2 with h | h
    · exact .inl (h.trans hwidget)
    · exact .inl (h.trans (by rw [haddress]))
  | editAddress | leave | dispose => exact .inl hwidget

/-- **The widget in the form.** While the tables are being loaded the widget of the form is as it
was opened; afterwards it has come from the loaded widget by taps. -/
theorem widget_of_run {assets : Assets} {ofDegrees : ℚ → ℚ → LatLng} {lat long : ℚ}
    {es : List Event} {s : State}
    (hrun : EventRun.run (step assets) (State.initial ofDegrees lat long) es = some s) :
    s.widget = ⟨.initial, none⟩ ∨ s.loading = false ∧
      ∃ taps, EventRun.run Widget.step (Widget.loaded assets) taps = some s.widget := by
  refine EventRun.invariant_run (I := fun s => s.widget = ⟨.initial, none⟩ ∨ s.loading = false ∧
    ∃ taps, EventRun.run Widget.step (Widget.loaded assets) taps = some s.widget)
    (fun s e t hs hstep => ?_) (.inl rfl) hrun
  rcases hs with hwidget | ⟨hloaded, taps, htaps⟩
  · rcases widget_of_loading hwidget hstep with h | ⟨h, hloaded⟩
    · exact .inl h
    · exact .inr ⟨hloaded, [], by rw [h]; rfl⟩
  · obtain ⟨hloaded', hsame | ⟨tap, htap⟩⟩ := widget_step hloaded hstep
    · exact .inr ⟨hloaded', taps, hsame ▸ htaps⟩
    · refine .inr ⟨hloaded', taps ++ [tap], ?_⟩
      rw [EventRun.run_append, htaps, Option.bind_some, EventRun.run_cons, htap]
      rfl

end SmartHome.FormCreate
