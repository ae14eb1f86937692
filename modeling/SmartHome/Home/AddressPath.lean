import SmartHome.Home.FormCreate

/-!
# The address of a new home

The selection is kept twice: as ids in `ThaiAddress`, which resets the lower levels when a higher
one is chosen, and as names in the form, which hears of choices but not of resets. While the form
holds no sub-district its Create button is disabled, so choosing again is harmless; once it holds
one, the names of the lower levels survive the choice of another province or district.

## Main definitions

* `FormCreate.OnPath` : four texts lie on one path of the tables.
* `FormCreate.Keeps` : a step does not replace a province or district under a sub-district.

## Main results

* `FormCreate.onPath_of_keeps` : in runs whose steps keep the upper levels, the Create button is
  enabled only while the values to be stored lie on one path.
-/

namespace SmartHome.FormCreate

open Dart
open ThaiAddress (Assets Callback DistrictOf DoneOutcome FromAssets Level Picker SubdistrictOf
  decoded districtRow parseField provinceName subdistrictRow)

/-- There is a province of the given name, a district of that name under it, and a sub-district of
that name and postal code under the district. -/
def OnPath (assets : Assets) (province district subDistrict postalCode : String) : Prop :=
  ∃ ps ds ss, decoded assets = .ok (ps, ds, ss) ∧
    ∃ p ∈ ps, ∃ d ∈ ds, ∃ s ∈ ss, ∃ provinceId districtId,
      parseField p "id" = .ok provinceId ∧ p.index "name_th" = .ok (.str province) ∧
      parseField d "province_id" = .ok provinceId ∧ parseField d "id" = .ok districtId ∧
      d.index "name_th" = .ok (.str district) ∧ parseField s "amphur_id" = .ok districtId ∧
      s.index "name_th" = .ok (.str subDistrict) ∧
      ∃ zipcode, s.index "zipcode" = .ok zipcode ∧ zipcode.text = postalCode

/-- The four values that `_createHome` would store. -/
structure Selection where
  province : Option String
  district : Option String
  subDistrict : Option String
  postalCode : Option String

/-- The values in the form. -/
def Form.selection (form : Form) : Selection :=
  ⟨form.selectedProvince, form.selectedDistrict, form.selectedSubDistrict, form.selectedPostalCode⟩

/-- The four values are there, and lie on one path. -/
def Selection.OnPath (assets : Assets) (sel : Selection) : Prop :=
  ∃ province district subDistrict postalCode,
    sel = ⟨some province, some district, some subDistrict, some postalCode⟩ ∧
      FormCreate.OnPath assets province district subDistrict postalCode

/-- While the Create button is enabled, the values to be stored lie on one path of the tables. -/
def EnabledOnPath (assets : Assets) (s : State) : Prop :=
  s.form.isButtonDisabled = false → s.form.selection.OnPath assets

/-- The condition on a step: while the form holds a sub-district, a province or a district is
confirmed only if it is the one that the form holds. -/
def Keeps (s : State) : Event → Prop
  | .done => ∀ p text, s.picker = some p → p.chosen = some text →
      s.form.selectedSubDistrict ≠ none →
        match p.level with
        | .province => s.form.selectedProvince = some text
        | .district => s.form.selectedDistrict = some text
        | .subdistrict => True
  | _ => True

/-! ### The invariant -/

/-- The ids selected in `ThaiAddress` are those of rows that have the names in the form, and a
sub-district in the form lies under them. -/
structure Synced (assets : Assets) (a : ThaiAddress.State) (sel : Selection) : Prop where
  province : ∀ id, a.selectedProvinceId = some id → ∃ rows row name,
    a.provinces = some rows ∧ row ∈ rows ∧ parseField row "id" = .ok id ∧
      provinceName row = .ok (.str name) ∧ sel.province = some name
  district : ∀ id, a.selectedDistrictId = some id → ∃ provinceId rows row name,
    a.selectedProvinceId = some provinceId ∧ a.districts.get? provinceId = some rows ∧ row ∈ rows ∧
      row.id = id ∧ row.nameTh = .str name ∧ sel.district = some name
  path : sel.subDistrict ≠ none → sel.OnPath assets

/-- The invariant of runs that keep the upper levels. -/
structure Inv (assets : Assets) (s : State) : Prop where
  loading : s.loading = true → s.address = .initial
  picker : ∀ p, s.picker = some p →
    ∃ q, ThaiAddress.showPicker s.address p.level = .ok q ∧ q.items = p.items
  tables : FromAssets assets s.address
  synced : Synced assets s.address s.form.selection

variable {assets : Assets}

theorem enabledOnPath_of_inv {s : State} (h : Inv assets s)
    (hchecked : Checked s.area.value.text s.form) : EnabledOnPath assets s := by
  intro henabled
  have hcomplete := hchecked henabled
  simp only [incomplete, Bool.or_eq_false_iff, Option.isNone_eq_false_iff] at hcomplete
  exact h.synced.path (Option.isSome_iff_ne_none.mp hcomplete.1.2)

theorem inv_initial (ofDegrees : ℚ → ℚ → LatLng) (lat long : ℚ) :
    Inv assets (State.initial ofDegrees lat long) where
  loading _ := rfl
  picker _ h := nomatch h
  tables := ThaiAddress.fromAssets_initial assets
  synced := ⟨fun _ h => (nomatch h), fun _ h => (nomatch h), fun h => absurd rfl h⟩

/-- Steps that leave the tables, the selected ids and the names alone. -/
theorem Inv.frame {s t : State} (h : Inv assets s) (hloading : t.loading = s.loading)
    (haddress : t.address = s.address)
    (hpicker : ∀ p, t.picker = some p →
      ∃ q, ThaiAddress.showPicker s.address p.level = .ok q ∧ q.items = p.items)
    (hselection : t.form.selection = s.form.selection) : Inv assets t where
  loading := by rw [hloading, haddress]; exact h.loading
  picker := by rw [haddress]; exact hpicker
  tables := by rw [haddress]; exact h.tables
  synced := by rw [haddress, hselection]; exact h.synced

/-- The decoded lists are the same wherever a row of the tables comes from. -/
theorem decoded_unique {ps ps' ds ds' ss ss' : List Dyn} (h : decoded assets = .ok (ps, ds, ss))
    (h' : decoded assets = .ok (ps', ds', ss')) : ps' = ps ∧ ds' = ds ∧ ss' = ss := by
  have heq := Except.ok.inj (h'.symm.trans h)
  exact ⟨congrArg Prod.fst heq, congrArg (fun l => l.2.1) heq, congrArg (fun l => l.2.2) heq⟩

theorem districtRow_eq_ok {d : Dyn} {row : ThaiAddress.DistrictRow} (h : districtRow d = .ok row) :
    parseField d "id" = .ok row.id ∧ d.index "name_th" = .ok row.nameTh := by
  obtain ⟨id, hid, h⟩ := bind_eq_ok.mp h
  obtain ⟨name, hname, h⟩ := bind_eq_ok.mp h
  obtain rfl := Except.ok.inj h
  exact ⟨hid, hname⟩

theorem subdistrictRow_eq_ok {s : Dyn} {row : ThaiAddress.SubdistrictRow}
    (h : subdistrictRow s = .ok row) :
    s.index "name_th" = .ok row.nameTh ∧ s.index "zipcode" = .ok row.zipcode := by
  obtain ⟨id, -, h⟩ := bind_eq_ok.mp h
  obtain ⟨name, hname, h⟩ := bind_eq_ok.mp h
  obtain ⟨zipcode, hzipcode, h⟩ := bind_eq_ok.mp h
  obtain rfl := Except.ok.inj h
  exact ⟨hname, hzipcode⟩

/-- A sub-district chosen under the selected district completes a path. -/
theorem onPath_of_subdistrict {a : ThaiAddress.State} {sel : Selection}
    (htables : FromAssets assets a) (hsynced : Synced assets a sel) {districtId : Int}
    {rows : List ThaiAddress.SubdistrictRow} {row : ThaiAddress.SubdistrictRow} {text : String}
    (hdistrict : a.selectedDistrictId = some districtId)
    (hrows : a.subdistricts.get? districtId = some rows) (hrow : row ∈ rows)
    (hname : row.nameTh = .str text) :
    ∃ province district, sel.province = some province ∧ sel.district = some district ∧
      OnPath assets province district text row.zipcode.text := by
  obtain ⟨provinceId, drows, drow, district, hprovince, hdrows, hdrow, hdid, hdname, hdsel⟩ :=
    hsynced.district districtId hdistrict
  obtain ⟨prows, prow, province, hprows, hprow, hpid, hpname, hpsel⟩ :=
    hsynced.province provinceId hprovince
  obtain ⟨ds, ss, hdecoded⟩ := htables.provinces prows hprows
  obtain ⟨ps', ds', ss', hdecoded', d, hd, hdparent, hdfields⟩ :=
    htables.districts provinceId drows hdrows drow hdrow
  obtain ⟨rfl, rfl, rfl⟩ := decoded_unique hdecoded hdecoded'
  obtain ⟨ps', ds', ss', hdecoded', s, hs, hsparent, hsfields⟩ :=
    htables.subdistricts districtId rows hrows row hrow
  obtain ⟨rfl, rfl, rfl⟩ := decoded_unique hdecoded hdecoded'
  obtain ⟨hid, hdname'⟩ := districtRow_eq_ok hdfields
  obtain ⟨hsname, hzipcode⟩ := subdistrictRow_eq_ok hsfields
  refine ⟨province, district, hpsel, hdsel, _, _, _, hdecoded, prow, hprow, d, hd, s, hs,
    provinceId, districtId, hpid, hpname, hdparent, hdid ▸ hid, ?_, hsparent, ?_, row.zipcode,
    hzipcode, rfl⟩
  · rw [hdname', hdname]
  · rw [hsname, hname]

/-- A selection that is not changed while it holds a sub-district. -/
theorem onPath_of_kept {sel sel' : Selection} (h : sel.subDistrict ≠ none → sel.OnPath assets)
    (hkept : sel.subDistrict ≠ none → sel' = sel) (hsub : sel'.subDistrict = sel.subDistrict) :
    sel'.subDistrict ≠ none → sel'.OnPath assets := by
  intro hne
  rw [hsub] at hne
  rw [hkept hne]
  exact h hne

/-- The Done button: with `Keeps`, the selection stays in step with the picker widget. -/
theorem inv_confirm {s : State} (h : Inv assets s) {p : Picker} (hp : s.picker = some p)
    (hkeeps : Keeps s .done) : Inv assets (confirm p s) := by
  obtain ⟨q, hopen, hitems⟩ := h.picker p hp
  have hnot : ¬ s.loading = true := fun hloading =>
    ThaiAddress.showPicker_initial p.level q (h.loading hloading ▸ hopen)
  have hdone := ThaiAddress.done_cases hopen hitems
  unfold confirm
  generalize ThaiAddress.done s.address p = result at hdone ⊢
  cases hdone with
  | failed e => exact h.frame rfl rfl h.picker rfl
  | @province rows row id text hlevel hrows hrow hid hname hchosen =>
    have hkeep : s.form.selectedSubDistrict ≠ none → s.form.selectedProvince = some text := by
      intro hsub
      have := hkeeps p text hp hchosen hsub
      rwa [hlevel] at this
    refine ⟨fun hloading => absurd hloading hnot, by rintro _ ⟨⟩,
      ⟨h.tables.provinces, h.tables.districts, h.tables.subdistricts⟩,
      ⟨?_, by rintro _ ⟨⟩, onPath_of_kept h.synced.path (fun hsub => ?_) rfl⟩⟩
    · rintro id' ⟨⟩
      exact ⟨rows, row, text, hrows, hrow, hid, hname, rfl⟩
    · exact congrArg (fun v => Selection.mk v _ _ _) (hkeep hsub).symm
  | @district provinceId rows row text hlevel hprovince hrows hrow hname hchosen =>
    have hkeep : s.form.selectedSubDistrict ≠ none → s.form.selectedDistrict = some text := by
      intro hsub
      have := hkeeps p text hp hchosen hsub
      rwa [hlevel] at this
    refine ⟨fun hloading => absurd hloading hnot, by rintro _ ⟨⟩,
      ⟨h.tables.provinces, h.tables.districts, h.tables.subdistricts⟩,
      ⟨h.synced.province, ?_, onPath_of_kept h.synced.path (fun hsub => ?_) rfl⟩⟩
    · rintro id' ⟨⟩
      exact ⟨provinceId, rows, row, text, hprovince, hrows, hrow, rfl, hname, rfl⟩
    · exact congrArg (fun v => Selection.mk _ v _ _) (hkeep hsub).symm
  | @subdistrict districtId rows row text hlevel hdistrict hrows hrow hname hchosen =>
    obtain ⟨province, district, hpsel, hdsel, hpath⟩ :=
      onPath_of_subdistrict h.tables h.synced hdistrict hrows hrow hname
    refine ⟨fun hloading => absurd hloading hnot, by rintro _ ⟨⟩,
      ⟨h.tables.provinces, h.tables.districts, h.tables.subdistricts⟩,
      ⟨h.synced.province, h.synced.district, fun _ => ?_⟩⟩
    refine ⟨province, district, text, row.zipcode.text, ?_, hpath⟩
    rw [← hpsel, ← hdsel]
    rfl

theorem inv_editAddress {s : State} (h : Inv assets s) (value : TextArea.EditingValue) :
    Inv assets (editAddress value s) := by
  refine h.frame rfl rfl h.picker ?_
  refine TextArea.edit_frame (f := Form.selection) ?_ value (s.area, s.form)
  exact fun _ _ => rfl

theorem inv_editName {s : State} (h : Inv assets s) (text : List UInt16) :
    Inv assets (editName text s) := by
  obtain ⟨name, isButtonDisabled, heq⟩ := editName_eq text s
  rw [heq]
  exact h.frame rfl rfl h.picker rfl

theorem inv_startCreate {s : State} (h : Inv assets s) (user : Option Uid) :
    Inv assets (startCreate user s) := by
  obtain ⟨errorMessage, passed, calls, heq⟩ := startCreate_eq user s
  rw [heq]
  exact h.frame rfl rfl h.picker rfl

theorem inv_completeCreate {s : State} (h : Inv assets s) (r : HomeRecord)
    (outcome : Except String Unit) : Inv assets (completeCreate r outcome s) := by
  obtain ⟨added, heq⟩ := completeCreate_eq r outcome s
  rw [heq, resumeCreate]
  split
  · exact h.frame rfl rfl h.picker rfl
  · exact h.frame rfl rfl (by rintro _ ⟨⟩) rfl

/-- The tables are loaded while nothing is selected and no picker is open. -/
theorem inv_loaded {s : State} (h : Inv assets s) (hloading : s.loading = true) :
    Inv assets { s with loading := false, address := ThaiAddress.loadData assets s.address } := by
  have haddress := h.loading hloading
  obtain ⟨hprovince, hdistrict⟩ := ThaiAddress.loadData_selected assets s.address
  refine ⟨fun hfalse => (nomatch hfalse), fun p hp => ?_, h.tables.loadData,
    ⟨fun id hid => ?_, fun id hid => ?_, h.synced.path⟩⟩
  · obtain ⟨q, hopen, -⟩ := h.picker p hp
    exact absurd (haddress ▸ hopen) (ThaiAddress.showPicker_initial p.level q)
  · rw [hprovince, haddress] at hid
    cases hid
  · rw [hdistrict, haddress] at hid
    cases hid

theorem inv_tapField {s : State} (h : Inv assets s) (level : Level) :
    Inv assets { s with picker := (ThaiAddress.showPicker s.address level).toOption } := by
  refine h.frame rfl rfl (fun p hp => ?_) rfl
  cases hopen : ThaiAddress.showPicker s.address level with
  | error e =>
    rw [hopen] at hp
    cases hp
  | ok q =>
    rw [hopen] at hp
    obtain rfl : q = p := Option.some.inj hp
    exact ⟨q, ThaiAddress.showPicker_level hopen ▸ hopen, rfl⟩

/-- A step that keeps the upper levels preserves the invariant. -/
theorem inv_step {s t : State} {e : Event} (h : Inv assets s) (he : Keeps s e)
    (hstep : step assets s e = some t) : Inv assets t := by
  cases stepped_of_step hstep with
  | loaded hloading => exact inv_loaded h hloading
  | tapField level => exact inv_tapField h level
  | @scroll p index hpicker =>
    refine h.frame rfl rfl (fun p' hp' => ?_) rfl
    obtain rfl := Option.some.inj hp'
    exact h.picker p hpicker
  | done hpicker => exact inv_confirm h hpicker he
  | cancel => exact h.frame rfl rfl (by rintro _ ⟨⟩) rfl
  | editName text => exact inv_editName h text
  | editAddress value => exact inv_editAddress h value
  | tapCreate user => exact inv_startCreate h user
  | @completed _ r rest outcome =>
    have hrest : Inv assets { s with calls := rest } := h.frame rfl rfl h.picker rfl
    exact inv_completeCreate hrest r outcome
  | leave | dispose => exact h.frame rfl rfl h.picker rfl

/-- **The address of a new home.** For any assets, in every run of the form whose steps keep the
upper levels: while the Create button is enabled, the values that `_createHome` would store lie on
one path of the tables. -/
theorem onPath_of_keeps (assets : Assets) (ofDegrees : ℚ → ℚ → LatLng) (lat long : ℚ)
    {es : List Event} {s : State}
    (hes : EventRun.Meets (step assets) Keeps (State.initial ofDegrees lat long) es)
    (hrun : EventRun.run (step assets) (State.initial ofDegrees lat long) es = some s) :
    EnabledOnPath assets s :=
  enabledOnPath_of_inv (EventRun.invariant_of_meets (fun _ _ _ => inv_step)
    (inv_initial ofDegrees lat long)
    hes hrun) (checked_of_run hrun)

/-! ### Another province under a chosen sub-district -/

/-- The other province is confirmed. -/
def chooseOther : List Event := [.tapField .province, .scroll 1, .done]

/-- After the choice of the other province the Create button is enabled, and the district `D` and
the sub-district `S` of the first province would be stored under the second. -/
theorem other_province_keeps_subdistrict :
    ∃ s, EventRun.run (step twoProvinces) (State.initial LatLng.clampAndWrap 0 0)
        (fillForm ++ chooseOther) = some s ∧
      s.form.isButtonDisabled = false ∧
      s.form.selection = ⟨some "Q", some "D", some "S", some "10200"⟩ ∧
      ¬ EnabledOnPath twoProvinces s := by
  refine ⟨filled (loadedAddress (some 2) none none none (some "Q") (some "D") (some "S")) "Q",
    rfl, rfl, rfl, fun h => ?_⟩
  obtain ⟨province, district, subDistrict, postalCode, hsel, hpath⟩ := h rfl
  obtain rfl : "Q" = province := Option.some.inj (congrArg Selection.province hsel)
  obtain rfl : "D" = district := Option.some.inj (congrArg Selection.district hsel)
  obtain ⟨ps, ds, ss, hdecoded, p, hp, d, hd, s, hs, provinceId, districtId, hpid, hpname, hdparent,
    -, hdname, -⟩ := hpath
  obtain ⟨rfl, rfl, rfl⟩ := @decoded_unique twoProvinces _ _ _ _ _ _ rfl hdecoded
  rcases List.mem_cons.mp hp with rfl | hp
  · exact absurd (Dyn.str.inj (Except.ok.inj hpname)) (by decide)
  · obtain rfl := List.mem_singleton.mp hp
    rcases List.mem_cons.mp hd with rfl | hd
    · exact absurd (Except.ok.inj (hpid.trans hdparent.symm)) (by decide)
    · obtain rfl := List.mem_singleton.mp hd
      exact absurd (Dyn.str.inj (Except.ok.inj hdname)) (by decide)

/-- The form filled in from top to bottom. -/
theorem onPath_filled : EnabledOnPath twoProvinces firstFilled := by
  have hes : EventRun.Meets (step twoProvinces) Keeps (State.initial LatLng.clampAndWrap 0 0)
      fillForm := by
    refine .cons rfl trivial (.cons rfl trivial (.cons rfl ?_ (.cons rfl trivial (.cons rfl ?_
      (.cons rfl trivial (.cons rfl ?_ (.cons rfl trivial (.cons rfl trivial trivial))))))))
    all_goals exact fun _ _ _ _ hsub => absurd rfl hsub
  exact onPath_of_keeps twoProvinces LatLng.clampAndWrap 0 0 hes rfl

end SmartHome.FormCreate
