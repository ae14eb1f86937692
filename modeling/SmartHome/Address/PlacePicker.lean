import SmartHome.Address.Gazetteer

/-!
# The address picker as a choice of places

Over files that list places the widget is a choice along their hierarchy. Exactly the fields that a
choice has reached are there; a picker shows the names of the places below the chosen ones, in the
order of the file, and opens at the chosen one; Done chooses the place that is scrolled to, drops
the places below, and reports the name of the place, for a sub-district also its postal code.

## Main definitions

* `ThaiAddress.Tap.event` : a tap as an event of the choice.
* `ThaiAddress.Follows` : the widget shows and reports what the choice says.

## Main results

* `ThaiAddress.matches_step` : a tap does what its event does, or both are impossible.
* `ThaiAddress.follows_of_files` : after any taps the widget follows the choice.
* `ThaiAddress.follows_in_form` : so it does in every run of the form for a new home.
-/

namespace SmartHome.ThaiAddress

open Dart LinkedMap
open Utf16 (ofString)

/-- How far down a level is. -/
def Level.depth : Level → ℕ
  | .province => 0
  | .district => 1
  | .subdistrict => 2

/-- A tap as an event of the choice. -/
def Tap.event : Tap → Cascade.Event
  | .tapField level => .open level.depth
  | .scroll index => .scroll index
  | .done => .confirm
  | .cancel => .cancel

/-- What Done reports when the place is chosen. -/
def Place.reported (place : Place) : Level → List Callback
  | .province => [.onProvinceSelected (some place.nameTh)]
  | .district => [.onDistrictSelected (some place.nameTh)]
  | .subdistrict =>
    [.onSubDistrictSelected (some place.nameTh),
      .onPostcodeSelected (place.zipcode.map toString)]

variable {g : Gazetteer}

/-- The widget has the chosen places selected. -/
structure Selected (g : Gazetteer) (chosen : List Place) (s : State) : Prop where
  loaded : g.Loaded s
  id : ∀ level, s.selectedId level = chosen[level.depth]?.map Place.id
  name : ∀ level place, chosen[level.depth]? = some place →
    s.selectedName level = some place.nameTh
  postcode : s.postcode = chosen[2]?.bind fun place => place.zipcode.map toString

/-- The picker shows the places below the chosen ones. -/
structure Shows (g : Gazetteer) (chosen : List Place) (p : Picker) (q : Cascade.Picker) :
    Prop where
  level : q.level = p.level.depth
  items : p.items = (g.hierarchy.optionsAt chosen q.level).map Place.nameTh
  initialItem : p.initialItem = q.start
  selectedItem : p.selectedItem = q.index

/-- The widget is where the choice is. -/
structure Matches (g : Gazetteer) (w : Widget) (a : Cascade.State Place) : Prop where
  valid : Cascade.Valid g.hierarchy a
  selected : Selected g a.chosen w.state
  picker : Option.Rel (Shows g a.chosen) w.picker a.picker

/-- The widget is where the choice is, and Done succeeds and reports the place that the choice would
choose. -/
structure Follows (g : Gazetteer) (w : Widget) (a : Cascade.State Place) : Prop
    extends Matches g w a where
  reports : ∀ p q, w.picker = some p → a.picker = some q →
    ∃ place, (g.hierarchy.optionsAt a.chosen q.level)[q.index]? = some place ∧
      (done w.state p).2 = .ok (place.reported p.level)

/-! ### Lists of rows -/

section

variable {α : Type} {R : α → Place → Prop} {rows : List α} {places : List Place}

theorem itemTexts_of_rows {nameTh : α → Except Error Dyn} (h : List.Forall₂ R rows places)
    (hname : ∀ row place, R row place → nameTh row = .ok (.str place.nameTh)) :
    itemTexts nameTh rows = .ok (places.map Place.nameTh) := by
  induction h with
  | nil => rfl
  | cons hhead _ ih =>
    rw [itemTexts, hname _ _ hhead, ok_bind, Dyn.asString_str, ok_bind, ih]
    rfl

/-- The first row that passes a test of one place is the row of that place. -/
theorem indexWhere_of_rows {p : α → Bool} {x : Place} (h : List.Forall₂ R rows places)
    (hp : ∀ row, ∀ place ∈ places, R row place → (p row = true ↔ place = x)) (hx : x ∈ places) :
    indexWhere p rows = places.idxOf x := by
  have hfind : rows.findIdx? p = some (places.idxOf x) := by
    induction h with
    | nil => cases hx
    | @cons row place rows places hhead _ ih =>
      have hplace := hp row place List.mem_cons_self hhead
      by_cases hsame : place = x
      · subst hsame
        rw [List.findIdx?_cons, if_pos (hplace.mpr rfl), List.idxOf_cons_self]
      · have hrest := ih (fun row' place' hplace' => hp row' place' (.tail _ hplace'))
          ((List.mem_cons.mp hx).resolve_left (Ne.symm hsame))
        rw [List.findIdx?_cons, if_neg (hplace.not.mpr hsame), hrest,
          List.idxOf_cons_ne _ hsame]
        rfl
  rw [indexWhere, hfind]
  rfl

/-- A picker of rows shows the places, and opens at the selected one. -/
theorem open_of_rows {nameTh : α → Except Error Dyn} {p : Int → α → Bool}
    {selected : Option Place} (h : List.Forall₂ R rows places)
    (hname : ∀ row place, R row place → nameTh row = .ok (.str place.nameTh))
    (hp : ∀ row, ∀ place ∈ places, ∀ x ∈ places, R row place →
      (p x.id row = true ↔ place = x))
    (hselected : ∀ x, selected = some x → x ∈ places) (level : Level) :
    (itemTexts nameTh rows >>= fun items =>
      (pure (.open level items
        ((selected.map Place.id).elim 0 fun id => indexWhere (p id) rows)) : Except Error Picker)) =
      .ok (.open level (places.map Place.nameTh)
        ((selected.elim 0 fun x => places.idxOf x : ℕ) : Int)) := by
  rw [itemTexts_of_rows h hname, ok_bind]
  cases selected with
  | none => rfl
  | some x =>
    have hx := hselected x rfl
    have hindex : indexWhere (p x.id) rows = places.idxOf x :=
      indexWhere_of_rows h (fun row place hplace => hp row place hplace x hx) hx
    rw [Option.map_some, Option.elim_some, Option.elim_some, hindex]
    rfl

theorem elementAt_of_rows (h : List.Forall₂ R rows places) {i : ℕ} {x : Place}
    (hx : places[i]? = some x) : ∃ row, elementAt rows i = .ok row ∧ R row x := by
  induction h generalizing i with
  | nil => cases hx
  | @cons row place rows places hhead _ ih =>
    cases i with
    | zero =>
      obtain rfl : place = x := by simpa using hx
      exact ⟨row, rfl, hhead⟩
    | succ i =>
      obtain ⟨row', hrow', hR⟩ := ih (by simpa using hx)
      refine ⟨row', elementAt_eq_ok.mpr ⟨by omega, ?_⟩, hR⟩
      simpa using (elementAt_eq_ok.mp hrow').2

end

/-! ### Fields and pickers -/

section

variable {chosen rest : List Place} {s : State}

/-- The fields that a choice has reached are there. -/
theorem Selected.rendered_iff (h : Selected g chosen s) (hpath : Cascade.Path g.below chosen)
    (level : Level) : rendered s level = true ↔ level.depth ≤ chosen.length := by
  cases level with
  | province => simp [rendered, Level.depth]
  | district =>
    have hid : s.selectedProvinceId = chosen[0]?.map Place.id := h.id .province
    rcases chosen with _ | ⟨province, rest⟩
    · simp [rendered, hid, Level.depth]
    · have hne := (g.province_id province (hpath.mem (n := 0) rfl)).2
      simp [rendered, hid, Level.depth, hne]
  | subdistrict =>
    have hid : s.selectedDistrictId = chosen[1]?.map Place.id := h.id .district
    rcases chosen with _ | ⟨province, _ | ⟨district, rest⟩⟩
    · simp [rendered, hid, Level.depth]
    · simp [rendered, hid, Level.depth]
    · have hmem : district ∈ valuesAt g.districts province.id := hpath.mem (n := 1) rfl
      have hne := (g.district_id _ (mem_valuesAt.mp hmem)).2.2
      simp [rendered, hid, Level.depth, hne]

theorem Selected.districtRows {province : Place} (h : Selected g (province :: rest) s)
    (hpath : Cascade.Path g.below (province :: rest)) :
    group s.districts s.selectedProvinceId =
      .ok ((valuesAt g.districts province.id).map Place.districtRow) :=
  group_eq_ok.mpr ⟨province.id, h.id .province,
    h.loaded.districts _ (g.below_ne_nil (hpath.take 1) (by simp))⟩

theorem Selected.subdistrictRows {province district : Place}
    (h : Selected g (province :: district :: rest) s)
    (hpath : Cascade.Path g.below (province :: district :: rest)) :
    group s.subdistricts s.selectedDistrictId =
      .ok ((valuesAt g.subdistricts district.id).map Place.subdistrictRow) :=
  group_eq_ok.mpr ⟨district.id, h.id .district,
    h.loaded.subdistricts _ (g.below_ne_nil (hpath.take 2) (by simp))⟩

/-- A row of a province is found by the id of the province. -/
theorem hasId_iff_of_row {row : Dyn} {place x : Place} (hrow : RowOf row place)
    (hplace : place ∈ g.provinces) (hx : x ∈ g.provinces) :
    hasId x.id row = true ↔ place = x := by
  rw [hasId, hrow.id]
  refine Dyn.isStr_iff.trans ?_
  rw [Dyn.str.injEq, toString_inj (g.province_id place hplace).1 (g.province_id x hx).1]
  exact ⟨g.province_ext place hplace x hx, fun hsame => hsame ▸ rfl⟩

theorem forall₂_map_rows {ρ : Type} (f : Place → ρ) (places : List Place) :
    List.Forall₂ (fun row place => row = f place) (places.map f) places :=
  List.forall₂_map_left_iff.mpr (List.forall₂_same.mpr fun _ _ => rfl)

theorem exists_cons_cons {places : List Place} (h : 2 ≤ places.length) :
    ∃ x y rest, places = x :: y :: rest := by
  obtain ⟨x, rest, rfl⟩ := List.exists_cons_of_length_pos (Nat.lt_of_lt_of_le Nat.two_pos h)
  obtain ⟨y, rest, rfl⟩ := List.exists_cons_of_length_pos (Nat.le_of_succ_le_succ h)
  exact ⟨x, y, rest, rfl⟩

/-- A picker shows the places below the chosen ones, and opens at the chosen one. -/
theorem Selected.showPicker (h : Selected g chosen s) (hpath : Cascade.Path g.below chosen)
    {level : Level} (hreached : level.depth ≤ chosen.length) :
    showPicker s level = .ok (.open level
      ((g.hierarchy.optionsAt chosen level.depth).map Place.nameTh)
      (g.hierarchy.start chosen level.depth)) := by
  have hmem : ∀ x, chosen[level.depth]? = some x →
      x ∈ g.hierarchy.optionsAt chosen level.depth := fun x => hpath.mem
  cases level with
  | province =>
    obtain ⟨rows, hrows, hplaces⟩ := h.loaded.provinces
    rw [ThaiAddress.showPicker, provinceRows_eq_ok.mpr hrows, ok_bind,
      show s.selectedProvinceId = chosen[0]?.map Place.id from h.id .province]
    exact open_of_rows hplaces (fun _ _ hrow => hrow.nameTh)
      (fun _ _ hplace _ hx hrow => hasId_iff_of_row hrow hplace hx) hmem .province
  | district =>
    obtain ⟨province, rest, rfl⟩ := List.exists_cons_of_length_pos hreached
    rw [ThaiAddress.showPicker, h.districtRows hpath, ok_bind,
      show s.selectedDistrictId = rest[0]?.map Place.id from h.id .district]
    refine open_of_rows (forall₂_map_rows _ _) (fun _ _ hrow => hrow ▸ rfl)
      (fun row place hplace x hx hrow => ?_) hmem .district
    rw [hrow, decide_eq_true_iff]
    exact ⟨g.below_ext [province] hplace hx, fun hsame => hsame ▸ rfl⟩
  | subdistrict =>
    obtain ⟨province, district, rest, rfl⟩ := exists_cons_cons hreached
    rw [ThaiAddress.showPicker, h.subdistrictRows hpath, ok_bind,
      show s.selectedSubdistrictId = rest[0]?.map Place.id from h.id .subdistrict]
    refine open_of_rows (forall₂_map_rows _ _) (fun _ _ hrow => hrow ▸ rfl)
      (fun row place hplace x hx hrow => ?_) hmem .subdistrict
    rw [hrow, decide_eq_true_iff]
    exact ⟨g.below_ext [province, district] hplace hx, fun hsame => hsame ▸ rfl⟩

/-! ### Done -/

theorem Selected.doneProvince (h : Selected g chosen s) {i : ℕ} {x : Place}
    (hx : g.provinces[i]? = some x) :
    ∃ t, doneProvince s i = (t, .ok (x.reported .province)) ∧ Selected g [x] t := by
  obtain ⟨rows, hrows, hplaces⟩ := h.loaded.provinces
  obtain ⟨row, hrow, hof⟩ := elementAt_of_rows hplaces hx
  have hid := hof.id.parse (g.isInt64_below [] (List.mem_of_getElem? hx))
  simp only [ThaiAddress.doneProvince, provinceRows_eq_ok.mpr hrows, ok_bind, hrow, hid,
    provinceName, hof.nameTh, Dyn.asStringOrNull]
  refine ⟨_, rfl, ⟨h.loaded.provinces, h.loaded.districts, h.loaded.subdistricts⟩, ?_, ?_, rfl⟩
  · rintro (_ | _ | _) <;> rfl
  · rintro (_ | _ | _) place hplace
    · obtain rfl := Option.some.inj hplace
      rfl
    · cases hplace
    · cases hplace

theorem Selected.doneDistrict {province : Place} (h : Selected g (province :: rest) s)
    (hpath : Cascade.Path g.below (province :: rest)) {i : ℕ} {x : Place}
    (hx : (valuesAt g.districts province.id)[i]? = some x) :
    ∃ t, doneDistrict s i = (t, .ok (x.reported .district)) ∧ Selected g [province, x] t := by
  obtain ⟨row, hrow, hof⟩ := elementAt_of_rows (forall₂_map_rows Place.districtRow _) hx
  subst hof
  simp only [ThaiAddress.doneDistrict, h.districtRows hpath, ok_bind, hrow, Place.districtRow,
    Dyn.asStringOrNull]
  refine ⟨_, rfl, ⟨h.loaded.provinces, h.loaded.districts, h.loaded.subdistricts⟩, ?_, ?_, rfl⟩
  · rintro (_ | _ | _)
    · exact h.id .province
    · rfl
    · rfl
  · rintro (_ | _ | _) place hplace
    · exact h.name .province place hplace
    · obtain rfl := Option.some.inj hplace
      rfl
    · cases hplace

theorem Selected.doneSubdistrict {province district : Place}
    (h : Selected g (province :: district :: rest) s)
    (hpath : Cascade.Path g.below (province :: district :: rest)) {i : ℕ} {x : Place}
    (hx : (valuesAt g.subdistricts district.id)[i]? = some x) :
    ∃ t, doneSubdistrict s i = (t, .ok (x.reported .subdistrict)) ∧
      Selected g [province, district, x] t := by
  obtain ⟨row, hrow, hof⟩ := elementAt_of_rows (forall₂_map_rows Place.subdistrictRow _) hx
  subst hof
  have hmem : (district.id, x) ∈ g.subdistricts := mem_valuesAt.mp (List.mem_of_getElem? hx)
  have hpostcode : x.zipcode.map toString = some (Dyn.text (x.zipcode.elim .null .int)) := by
    obtain ⟨z, hz, -⟩ := g.zipcode _ hmem
    rw [show x.zipcode = some z from hz]
    rfl
  simp only [ThaiAddress.doneSubdistrict, h.subdistrictRows hpath, ok_bind, hrow,
    Place.subdistrictRow, Dyn.asStringOrNull, Place.reported, hpostcode]
  refine ⟨_, rfl, ⟨h.loaded.provinces, h.loaded.districts, h.loaded.subdistricts⟩, ?_, ?_,
    hpostcode.symm⟩
  · rintro (_ | _ | _)
    · exact h.id .province
    · exact h.id .district
    · rfl
  · rintro (_ | _ | _) place hplace
    · exact h.name .province place hplace
    · exact h.name .district place hplace
    · obtain rfl := Option.some.inj hplace
      rfl

/-- Done in a picker of a level that has been reached selects the place and reports it. -/
theorem Selected.done (h : Selected g chosen s) (hpath : Cascade.Path g.below chosen) {p : Picker}
    {i : ℕ} {x : Place} (hreached : p.level.depth ≤ chosen.length) (hi : p.selectedItem = i)
    (hx : (g.hierarchy.optionsAt chosen p.level.depth)[i]? = some x) :
    ∃ t, done s p = (t, .ok (x.reported p.level)) ∧
      Selected g (chosen.take p.level.depth ++ [x]) t := by
  rw [ThaiAddress.done, hi]
  cases hlevel : p.level with
  | province =>
    rw [hlevel] at hx
    exact h.doneProvince hx
  | district =>
    rw [hlevel] at hx hreached
    obtain ⟨province, rest, rfl⟩ := List.exists_cons_of_length_pos hreached
    exact h.doneDistrict hpath hx
  | subdistrict =>
    rw [hlevel] at hx hreached
    obtain ⟨province, district, rest, rfl⟩ := exists_cons_cons hreached
    exact h.doneSubdistrict hpath hx

end

/-! ### Taps -/

variable {w : Widget} {a : Cascade.State Place}

theorem Matches.done (h : Matches g w a) {p : Picker} {q : Cascade.Picker}
    (hq : a.picker = some q) (hshows : Shows g a.chosen p q) :
    ∃ place t, (g.hierarchy.optionsAt a.chosen q.level)[q.index]? = some place ∧
      done w.state p = (t, .ok (place.reported p.level)) ∧
      Selected g (a.chosen.take q.level ++ [place]) t := by
  obtain ⟨place, hplace⟩ := h.valid.exists_option hq
  have hreached := (h.valid.picker q hq).reached
  obtain ⟨t, hdone, ht⟩ := h.selected.done h.valid.path (p := p) (hshows.level ▸ hreached)
    hshows.selectedItem (hshows.level ▸ hplace)
  exact ⟨place, t, hplace, hdone, hshows.level ▸ ht⟩

/-- A tap does to the widget what its event does to the choice, or neither is possible. -/
theorem matches_step (h : Matches g w a) (tap : Tap) :
    Option.Rel (Matches g) (w.step tap) (Cascade.step g.hierarchy a tap.event) := by
  have hpath : Cascade.Path g.below a.chosen := h.valid.path
  have hrel := h.picker
  cases tap with
  | tapField level =>
    have hdepth : level.depth < 3 := by cases level <;> decide
    have hrendered := h.selected.rendered_iff hpath level
    generalize hw : w.picker = p, ha : a.picker = q at hrel
    cases hrel with
    | some hshows =>
      simp only [Widget.step, Tap.event, Cascade.step, hw, ha]
      exact .none
    | none =>
      by_cases hreached : level.depth ≤ a.chosen.length
      · have hstep : Cascade.step g.hierarchy a (.open level.depth) =
            some { a with picker := some (g.hierarchy.openAt a.chosen level.depth) } :=
          if_pos ⟨by rw [ha]; rfl, hdepth, hreached⟩
        rw [Widget.step, if_pos (by rw [hw, hrendered.mpr hreached]; rfl),
          h.selected.showPicker hpath hreached, Tap.event, hstep]
        exact .some ⟨Cascade.valid_step h.valid hstep, h.selected, .some ⟨rfl, rfl, rfl, rfl⟩⟩
      · have hhidden : rendered w.state level = false :=
          Bool.eq_false_iff.mpr (hrendered.not.mpr hreached)
        rw [Widget.step, if_neg (by simp [hhidden]), Tap.event, Cascade.step,
          if_neg fun hopen => hreached hopen.2.2]
        exact .none
  | scroll index =>
    generalize hw : w.picker = p, ha : a.picker = q at hrel
    cases hrel with
    | none =>
      rw [Widget.step, hw, Tap.event, Cascade.step, ha]
      exact .none
    | @some p q hshows =>
      have hlength : p.items.length = (g.hierarchy.optionsAt a.chosen q.level).length := by
        rw [hshows.items, List.length_map]
      rw [Widget.step, hw, Option.bind_some, hlength, Tap.event]
      by_cases hindex : index < (g.hierarchy.optionsAt a.chosen q.level).length
      · have hstep : Cascade.step g.hierarchy a (.scroll index) =
            some { a with picker := some { q with index } } := by
          rw [Cascade.step, ha, Option.bind_some, if_pos hindex]
        rw [if_pos hindex, hstep]
        exact .some ⟨Cascade.valid_step h.valid hstep, h.selected,
          .some ⟨hshows.level, hshows.items, hshows.initialItem, rfl⟩⟩
      · rw [if_neg hindex, Cascade.step, ha, Option.bind_some, if_neg hindex]
        exact .none
  | done =>
    generalize hw : w.picker = p, ha : a.picker = q at hrel
    cases hrel with
    | none =>
      rw [Widget.step, hw, Tap.event, Cascade.step, ha]
      exact .none
    | @some p q hshows =>
      obtain ⟨place, t, hplace, hdone, ht⟩ := h.done ha hshows
      have hstep : Cascade.step g.hierarchy a .confirm =
          some ⟨a.chosen.take q.level ++ [place], none⟩ := by
        rw [Cascade.step, ha, Option.bind_some, hplace, Option.map_some]
      rw [Widget.step, hw, Option.map_some, Widget.confirm, hdone, Tap.event, hstep]
      exact .some ⟨Cascade.valid_step h.valid hstep, ht, .none⟩
  | cancel =>
    generalize hw : w.picker = p, ha : a.picker = q at hrel
    cases hrel with
    | none =>
      rw [Widget.step, hw, Tap.event, Cascade.step, ha]
      exact .none
    | @some p q hshows =>
      have hstep : Cascade.step g.hierarchy a .cancel = some { a with picker := none } := by
        rw [Cascade.step, ha, Option.map_some]
      rw [Widget.step, hw, Option.map_some, Tap.event, hstep]
      exact .some ⟨Cascade.valid_step h.valid hstep, h.selected, .none⟩

/-- After loading nothing is chosen and nothing selected. -/
theorem matches_loaded {assets : Assets} (h : g.Loaded (loadData assets .initial)) :
    Matches g (Widget.loaded assets) .initial := by
  have hselected : (∀ level, (loadData assets .initial).selectedId level = none) ∧
      (loadData assets .initial).postcode = none := by
    have hloaded := loaded_loadData assets .initial
    generalize loadData assets .initial = s at hloaded
    cases hloaded <;> exact ⟨fun level => by cases level <;> rfl, rfl⟩
  exact ⟨Cascade.valid_initial, ⟨h, hselected.1, fun _ _ hplace => (nomatch hplace), hselected.2⟩,
    .none⟩

theorem Matches.follows (h : Matches g w a) : Follows g w a := by
  refine ⟨h, fun p q hp hq => ?_⟩
  have hrel := h.picker
  rw [hp, hq] at hrel
  cases hrel with
  | some hshows =>
    obtain ⟨place, t, hplace, hdone, -⟩ := h.done hq hshows
    exact ⟨place, hplace, congrArg Prod.snd hdone⟩

section

variable {doubleText : List UInt16 → String} {texts : Texts} {assets : Assets}

/-- The widget that has loaded the texts and the choice take the same events, and stay together. -/
theorem matches_of_files (hfiles : g.Files texts) (hassets : texts.Decoded doubleText assets)
    (taps : List Tap) :
    Option.Rel (Matches g) (EventRun.run Widget.step (Widget.loaded assets) taps)
      (EventRun.run (Cascade.step g.hierarchy) .initial (taps.map Tap.event)) :=
  EventRun.rel_run (fun _ _ tap h => matches_step h tap)
    (matches_loaded (hfiles.loaded hassets .initial)) taps

/-- **The picker follows the places.** If the texts of the three files list the places of a
gazetteer, then after any taps on the loaded widget it is where a choice along the hierarchy of the
places is after the same events, or the taps are as impossible as the events: the same fields are
there, the pickers show the places below the chosen ones, and Done succeeds and reports the place
that is chosen. -/
theorem follows_of_files (hfiles : g.Files texts) (hassets : texts.Decoded doubleText assets)
    (taps : List Tap) :
    Option.Rel (Follows g) (EventRun.run Widget.step (Widget.loaded assets) taps)
      (EventRun.run (Cascade.step g.hierarchy) .initial (taps.map Tap.event)) := by
  have hrun := matches_of_files hfiles hassets taps
  generalize EventRun.run Widget.step (Widget.loaded assets) taps = w,
    EventRun.run (Cascade.step g.hierarchy) .initial (taps.map Tap.event) = a at hrun ⊢
  cases hrun with
  | some h => exact .some h.follows
  | none => exact .none

/-- In every form for a new home the widget follows a choice once it has loaded the texts. -/
theorem follows_in_form (hfiles : g.Files texts) (hassets : texts.Decoded doubleText assets)
    {ofDegrees : ℚ → ℚ → LatLng} {lat long : ℚ} {es : List FormCreate.Event} {s : FormCreate.State}
    (hrun : EventRun.run (FormCreate.step assets) (FormCreate.State.initial ofDegrees lat long) es =
      some s) :
    s.widget = ⟨.initial, none⟩ ∨ ∃ events a,
      EventRun.run (Cascade.step g.hierarchy) .initial events = some a ∧ Follows g s.widget a := by
  rcases FormCreate.widget_of_run hrun with hwidget | ⟨-, taps, htaps⟩
  · exact .inl hwidget
  · have hmatches := matches_of_files hfiles hassets taps
    rw [htaps] at hmatches
    generalize ha : EventRun.run (Cascade.step g.hierarchy) .initial (taps.map Tap.event) = a
      at hmatches
    cases hmatches with
    | some h => exact .inr ⟨_, _, ha, h.follows⟩

end

/-! ### A small example -/

/-- A province, a district that is listed twice, and two sub-districts of it. -/
def choAirong : Gazetteer where
  provinces := [⟨96, "Narathiwat", none⟩]
  districts := [(96, ⟨9613, "Cho-airong", none⟩), (96, ⟨9613, "Cho-airong", none⟩)]
  subdistricts := [(9613, ⟨961301, "Chuap", some 96130⟩), (9613, ⟨961302, "Bukit", some 96130⟩)]
  provinces_ne_nil := by decide
  exists_district := by simp
  exists_subdistrict := by simp
  province_ext := by simp
  district_ext := by simp
  subdistrict_ext := by simp
  province_id := by simp [IsInt64]
  district_id := by simp [IsInt64]
  subdistrict_id := by simp [IsInt64]
  zipcode := by simp [IsInt64]

/-- The members that list a place. -/
def Place.members (place : Place) : List (List UInt16 × Json.Value) :=
  [(ofString "id", .str (ofString (toString place.id))),
    (ofString "name_th", .str (ofString place.nameTh))]

/-- The members that list a place under its parent. -/
def membersUnder (parent : String) (entry : Int × Place) : List (List UInt16 × Json.Value) :=
  (ofString parent, .str (ofString (toString entry.1))) :: entry.2.members

/-- Texts that list these places. -/
def choAirongTexts : Texts where
  provinces := Json.encode (.array (choAirong.provinces.map fun p => .object p.members))
  districts := Json.encode (.array (choAirong.districts.map fun d =>
    .object (membersUnder "province_id" d)))
  subdistricts := Json.encode (.array (choAirong.subdistricts.map fun s =>
    .object ((ofString "zipcode", .num ⟨ofString (toString 96130), by decide⟩) ::
      membersUnder "amphur_id" s)))

theorem files_choAirong : choAirong.Files choAirongTexts where
  provinces := ⟨_, Json.decode_encode _,
    List.forall₂_map_left_iff.mpr (List.forall₂_same.mpr fun _ _ => ⟨rfl, rfl⟩)⟩
  districts := ⟨_, Json.decode_encode _,
    List.forall₂_map_left_iff.mpr (List.forall₂_same.mpr fun _ _ => ⟨⟨rfl, rfl⟩, rfl⟩)⟩
  subdistricts := by
    refine ⟨_, Json.decode_encode _, List.forall₂_map_left_iff.mpr (List.forall₂_same.mpr
      fun s hs => ⟨⟨⟨rfl, rfl⟩, rfl⟩, _, 96130, rfl, ?_, rfl⟩)⟩
    simp only [choAirong, List.mem_cons, List.not_mem_nil, or_false] at hs
    rcases hs with rfl | rfl <;> rfl

theorem exists_decoded_choAirong (doubleText : List UInt16 → String) :
    ∃ assets, choAirongTexts.Decoded doubleText assets := by
  obtain ⟨ps, hps⟩ : ∃ d, jsonDecode doubleText choAirongTexts.provinces = some d :=
    ⟨_, jsonDecode_encode _⟩
  obtain ⟨ds, hds⟩ : ∃ d, jsonDecode doubleText choAirongTexts.districts = some d :=
    ⟨_, jsonDecode_encode _⟩
  obtain ⟨ss, hss⟩ : ∃ d, jsonDecode doubleText choAirongTexts.subdistricts = some d :=
    ⟨_, jsonDecode_encode _⟩
  exact ⟨⟨ps, ds, ss⟩, hps, hds, hss⟩

/-- The province, the second row of the district, and the second sub-district. -/
def chooseBukit : List Tap :=
  [.tapField .province, .done, .tapField .district, .scroll 1, .done, .tapField .subdistrict,
    .scroll 1, .done]

theorem run_chooseBukit :
    EventRun.run (Cascade.step choAirong.hierarchy) .initial (chooseBukit.map Tap.event) =
      some ⟨[⟨96, "Narathiwat", none⟩, ⟨9613, "Cho-airong", none⟩,
        ⟨961302, "Bukit", some 96130⟩], none⟩ := by
  decide

theorem follows_choAirong : ∃ assets w a,
    choAirongTexts.Decoded (fun text => (string? text).getD "") assets ∧
      EventRun.run Widget.step (Widget.loaded assets) chooseBukit = some w ∧
      EventRun.run (Cascade.step choAirong.hierarchy) .initial (chooseBukit.map Tap.event) =
        some a ∧
      Follows choAirong w a := by
  obtain ⟨assets, hassets⟩ := exists_decoded_choAirong fun text => (string? text).getD ""
  have hrel := follows_of_files files_choAirong hassets chooseBukit
  rw [run_chooseBukit] at hrel
  generalize hw : EventRun.run Widget.step (Widget.loaded assets) chooseBukit = w at hrel
  cases hrel with
  | some h => exact ⟨assets, _, _, hassets, hw, run_chooseBukit, h⟩

end SmartHome.ThaiAddress
