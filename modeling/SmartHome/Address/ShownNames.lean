import SmartHome.Address.Loading
import SmartHome.Address.Picking

/-!
# The names that the fields show

Every level keeps the id of its selected row and the name that its field shows. The Done handler of
a higher level resets the ids of the levels below it, and leaves their names; a field that comes
back shows the name of a row that is no longer selected.

## Main definitions

* `ThaiAddress.fieldText` : the text that a field shows.
* `ThaiAddress.NamesShown` : every visible field shows the name of the selected row, or its prompt.
* `ThaiAddress.Fresh` : a tap does not reset a level that shows a name.

## Main results

* `ThaiAddress.namesShown_iff_fresh` : the fields show the right texts along a run exactly if all
  its taps are fresh.
-/

namespace SmartHome.ThaiAddress

open Dart

/-- The text of a field: the name that is kept for its level, or else its prompt. -/
def fieldText (prompt : Level → String) (s : State) (level : Level) : String :=
  (s.selectedName level).getD (prompt level)

/-- A field shows the name of the row whose id is selected at its level, and its prompt if no id
is. -/
def FieldShown (prompt : Level → String) (s : State) (level : Level) : Prop :=
  match s.selectedId level with
  | none => fieldText prompt s level = prompt level
  | some id => ∃ row ∈ listed s level, row.id = .ok id ∧
      row.name = .ok (.str (fieldText prompt s level))

/-- Every visible field shows the right text. -/
def NamesShown (prompt : Level → String) (s : State) : Prop :=
  ∀ level, rendered s level = true → FieldShown prompt s level

/-- The condition on a tap: a province or a district is confirmed only while the field of the next
level would show its prompt. The id 0 is excepted, under which the next field is not shown. -/
def Fresh (prompt : Level → String) (w : Widget) : Tap → Prop
  | .done => ∀ p id, w.picker = some p → confirmedId w.state p = some id → id ≠ 0 →
      match p.level with
      | .province => fieldText prompt w.state .district = prompt .district
      | .district => fieldText prompt w.state .subdistrict = prompt .subdistrict
      | .subdistrict => True
  | _ => True

variable {prompt : Level → String}

theorem namesShown_loaded (assets : Assets) : NamesShown prompt (Widget.loaded assets).state := by
  have hloaded := loaded_loadData assets .initial
  unfold Widget.loaded
  generalize loadData assets .initial = s at hloaded
  intro level _
  cases hloaded <;> cases level <;> rfl

theorem FieldShown.of_same {s t : State} {level : Level} (h : FieldShown prompt s level)
    (hid : t.selectedId level = s.selectedId level)
    (hname : t.selectedName level = s.selectedName level)
    (hlisted : listed t level = listed s level) : FieldShown prompt t level := by
  unfold FieldShown at h ⊢
  rw [hid, hlisted, fieldText, hname]
  exact h

/-- A field whose id has been reset shows its prompt if it would have done so before. -/
theorem FieldShown.of_reset {s t : State} {level : Level} (hreset : t.selectedId level = none)
    (hname : t.selectedName level = s.selectedName level) :
    FieldShown prompt t level ↔ fieldText prompt s level = prompt level := by
  unfold FieldShown
  rw [hreset, fieldText, hname]
  rfl

/-- Which Done taps leave every visible field right: exactly the fresh ones. -/
theorem namesShown_done {w : Widget} {p q : Picker} (h : NamesShown prompt w.state)
    (hopened : Opened w.state p q) (hp : w.picker = some p) :
    NamesShown prompt (done w.state p).1 ↔ Fresh prompt w .done := by
  have houtcome := done_cases hopened.shown hopened.items
  have hspec := done_spec hopened.shown hopened.items
  have hconfirmed (t : State) (callbacks : List Callback)
      (hdone : done w.state p = (t, .ok callbacks)) :
        confirmedId w.state p = t.selectedId p.level :=
    confirmedId_of_done hopened.shown hopened.items hdone
  generalize hresult : ThaiAddress.done w.state p = result at houtcome hspec hconfirmed
  cases houtcome with
  | failed e =>
    refine iff_of_true h ?_
    intro p' id hp' hid
    obtain rfl := Option.some.inj (hp.symm.trans hp')
    rw [hid] at hspec
    obtain ⟨callbacks, hok, -⟩ := hspec
    cases hok
  | @province rows row id text hlevel hrows hrow hid hname hchosen =>
    have hconfirmed := hconfirmed _ _ rfl
    rw [hlevel] at hconfirmed
    constructor
    · intro hshown p' id' hp' hid' hne
      obtain rfl := Option.some.inj (hp.symm.trans hp')
      obtain rfl : id = id' := Option.some.inj (hconfirmed.symm.trans hid')
      rw [hlevel]
      exact (FieldShown.of_reset (s := w.state) (by rfl) (by rfl)).mp
        (hshown .district (by simp [rendered, hne]))
    · intro hfresh level hrendered
      cases level with
      | province =>
        refine ⟨⟨parseField row "id", provinceName row⟩, ?_, hid, hname⟩
        rw [listed, hrows]
        exact List.mem_map_of_mem hrow
      | district =>
        have hne : id ≠ 0 := by simpa [rendered] using hrendered
        have hreset := hfresh p id hp hconfirmed hne
        rw [hlevel] at hreset
        exact (FieldShown.of_reset rfl rfl).mpr hreset
      | subdistrict => cases hrendered
  | @district provinceId rows row text hlevel hprovince hrows hrow hname hchosen =>
    have hconfirmed := hconfirmed _ _ rfl
    rw [hlevel] at hconfirmed
    constructor
    · intro hshown p' id' hp' hid' hne
      obtain rfl := Option.some.inj (hp.symm.trans hp')
      obtain rfl : row.id = id' := Option.some.inj (hconfirmed.symm.trans hid')
      rw [hlevel]
      exact (FieldShown.of_reset (s := w.state) (by rfl) (by rfl)).mp
        (hshown .subdistrict (by simp [rendered, hne]))
    · intro hfresh level hrendered
      cases level with
      | province => exact (h .province rfl).of_same rfl rfl rfl
      | district =>
        refine ⟨⟨.ok row.id, .ok row.nameTh⟩, ?_, rfl, congrArg Except.ok hname⟩
        rw [listed, hprovince, Option.bind_some, hrows]
        exact List.mem_map_of_mem hrow
      | subdistrict =>
        have hne : row.id ≠ 0 := by simpa [rendered] using hrendered
        have hreset := hfresh p row.id hp hconfirmed hne
        rw [hlevel] at hreset
        exact (FieldShown.of_reset rfl rfl).mpr hreset
  | @subdistrict districtId rows row text hlevel hdistrict hrows hrow hname hchosen =>
    refine iff_of_true (fun level hrendered => ?_) (fun p' id' hp' _ _ => ?_)
    · cases level with
      | province => exact (h .province rfl).of_same rfl rfl rfl
      | district => exact (h .district hrendered).of_same rfl rfl rfl
      | subdistrict =>
        refine ⟨⟨.ok row.id, .ok row.nameTh⟩, ?_, rfl, congrArg Except.ok hname⟩
        rw [listed, hdistrict, Option.bind_some, hrows]
        exact List.mem_map_of_mem hrow
    · obtain rfl := Option.some.inj (hp.symm.trans hp')
      rw [hlevel]
      trivial

/-- The invariant along runs of fresh taps. -/
structure Labelled (prompt : Level → String) (w : Widget) : Prop where
  shown : NamesShown prompt w.state
  picker : w.OpenedNow

/-- A tap on a widget whose fields are right leaves them right exactly if it is fresh. -/
theorem namesShown_step {w v : Widget} {tap : Tap} (h : Labelled prompt w)
    (hstep : w.step tap = some v) : NamesShown prompt v.state ↔ Fresh prompt w tap := by
  cases Widget.stepped_of_step hstep with
  | tapField | scroll | cancel => exact iff_of_true h.shown trivial
  | @done p hpicker =>
    obtain ⟨q, hopened⟩ := h.picker p hpicker
    rw [Widget.state_confirm]
    exact namesShown_done h.shown hopened hpicker

/-- **Where the fields show the right texts.** On whatever assets the tables were loaded from, the
visible fields show the names of the selected rows and the prompts along a run exactly if no tap of
it resets a level that shows a name. -/
theorem namesShown_iff_fresh (prompt : Level → String) (assets : Assets) (taps : List Tap) :
    EventRun.Along Widget.step (fun w => NamesShown prompt w.state) (Widget.loaded assets) taps ↔
      EventRun.Meets Widget.step (Fresh prompt) (Widget.loaded assets) taps :=
  EventRun.along_iff_meets (I := Labelled prompt)
    (fun _ _ _ h hfresh hstep =>
      ⟨(namesShown_step h hstep).mpr hfresh, openedNow_step h.picker hstep⟩)
    (fun _ h => h.shown)
    (fun _ _ _ h hfresh hstep hshown => hfresh ((namesShown_step h hstep).mp hshown))
    ⟨namesShown_loaded assets, openedNow_loaded assets⟩

/-- The prompts in English. -/
def selectPrompt : Level → String
  | .province => "SelectProvince"
  | .district => "SelectDistrict"
  | .subdistrict => "SelectSub district"

/-- In the two provinces, the district field of the second province shows the district that was
chosen in the first one, while no district is selected. -/
theorem stale_district_shown :
    EventRun.run Widget.step (Widget.loaded FormCreate.twoProvinces) chooseAgain =
        some ⟨FormCreate.loadedAddress (some 2) none none none (some "Q") (some "D") none, none⟩ ∧
      ¬ EventRun.Along Widget.step (fun w => NamesShown selectPrompt w.state)
        (Widget.loaded FormCreate.twoProvinces) chooseAgain := by
  have hrun : EventRun.run Widget.step (Widget.loaded FormCreate.twoProvinces) chooseAgain =
      some ⟨FormCreate.loadedAddress (some 2) none none none (some "Q") (some "D") none, none⟩ :=
    rfl
  refine ⟨hrun, fun halong => ?_⟩
  have hshown : "D" = "SelectDistrict" := halong.of_run hrun .district rfl
  exact absurd hshown (by decide)

end SmartHome.ThaiAddress
