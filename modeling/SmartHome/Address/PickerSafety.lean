import Mathlib.Data.List.TakeWhile
import SmartHome.Address.Loading
import SmartHome.Address.Picking

/-!
# Safety of the address picker

Three levels are selected one under another, each in a picker that looks its rows up by the ids
selected above it. The lookups are null-checked and the rows are indexed, so the pickers rely on
the selection being a chain in the tables, and on the tables having rows under every id that can be
selected.

The ids of provinces are compared as texts and kept as integers. This goes well for texts that
`toString` gives for an integer, since `int.parse` reads them back.

## Main definitions

* `ThaiAddress.Dataset` : assets with decimal ids, on which loading completes, and where no province
  and no district is without rows below it.
* `ThaiAddress.Chained` : the selection is a chain in the tables.
* `ThaiAddress.Safe` : no picker fails on a null check or an index.

## Main results

* `ThaiAddress.safe_of_run` : every sequence of taps on a loaded widget is safe.
-/

namespace SmartHome.ThaiAddress

open Dart

/-- The text under a key is the decimal text of an integer. -/
def Canonical (row : Dyn) (key : String) (id : Int) : Prop :=
  row.index key = .ok (.str (toString id))

/-- Assets of the lists `ps`, `ds` and `ss` on which loading completes, where all ids are decimal,
every province has a district and every district has a sub-district. -/
structure Dataset (assets : Assets) (ps ds ss : List Dyn) : Prop where
  decoded : decoded assets = .ok (ps, ds, ss)
  completes : ¬ Throws assets
  province : ∀ p ∈ ps, ∃ id, Canonical p "id" id ∧ ∃ d ∈ ds, Canonical d "province_id" id
  district : ∀ d ∈ ds, ∃ id parent, Canonical d "id" id ∧ Canonical d "province_id" parent ∧
    ∃ s ∈ ss, Canonical s "amphur_id" id
  subdistrict : ∀ s ∈ ss, ∃ id parent, Canonical s "id" id ∧ Canonical s "amphur_id" parent

/-- A selected district is one of the selected province, a selected sub-district one of the selected
district, and the postcode is that of the selected sub-district. -/
structure Chained (s : State) : Prop where
  district : ∀ id, s.selectedDistrictId = some id → ∃ provinceId rows row,
    s.selectedProvinceId = some provinceId ∧ s.districts.get? provinceId = some rows ∧ row ∈ rows ∧
      row.id = id
  subdistrict : ∀ id, s.selectedSubdistrictId = some id → ∃ districtId rows row,
    s.selectedDistrictId = some districtId ∧ s.subdistricts.get? districtId = some rows ∧
      row ∈ rows ∧ row.id = id ∧ s.postcode = some row.zipcode.text
  postcode : s.selectedSubdistrictId = none → s.postcode = none

/-- The initial index of a picker is one of an item, and of a row with the selected id if there is
one; Done without scrolling keeps that id. -/
structure StartsInRange (s : State) (q : Picker) : Prop where
  low : 0 ≤ q.initialItem
  high : q.initialItem < q.items.length
  row : ∀ id, s.selectedId q.level = some id →
    ∃ row, elementAt (listed s q.level) q.initialItem = .ok row ∧ row.id = .ok id
  kept : ∀ id, s.selectedId q.level = some id → (done s q).1.selectedId q.level = some id

/-- The selection is a chain, no picker fails to open on a null check or an index, and if there are
provinces at all, every picker starts in range and Done succeeds. -/
structure Safe (ps : List Dyn) (w : Widget) : Prop where
  chained : Chained w.state
  opens : ∀ level, rendered w.state level = true → ∀ e, showPicker w.state level = .error e →
    e ≠ .nullCheck ∧ e ≠ .rangeError
  starts : ps ≠ [] → ∀ level q, rendered w.state level = true → showPicker w.state level = .ok q →
    StartsInRange w.state q
  done : ps ≠ [] → ∀ p, w.picker = some p → ∃ callbacks, (done w.state p).2 = .ok callbacks

/-! ### The tables of a dataset -/

section Dataset

variable {assets : Assets} {ps ds ss : List Dyn}

theorem Dataset.readable_district (h : Dataset assets ps ds ss) :
    ∀ d ∈ ds, districtReadable d = true := by
  intro d hd
  by_contra hbroken
  refine h.completes ?_
  rw [Throws, h.decoded]
  exact .inl ⟨d, hd, by simpa using hbroken⟩

theorem Dataset.readable_subdistrict (h : Dataset assets ps ds ss) :
    ∀ s ∈ ss, subdistrictReadable s = true := by
  intro s hs
  by_contra hbroken
  refine h.completes ?_
  rw [Throws, h.decoded]
  exact .inr ⟨s, hs, by simpa using hbroken⟩

theorem Canonical.parse_eq {row : Dyn} {key : String} {id : Int} (h : Canonical row key id) :
    parseField row key = intParse (toString id) := by
  rw [parseField, h, ok_bind]
  rfl

/-- What is read from a decimal id is that id. -/
theorem Canonical.eq_of_parseField {row : Dyn} {key : String} {id k : Int}
    (h : Canonical row key id) (hparse : parseField row key = .ok k) : k = id :=
  eq_of_intParse_toString (h.parse_eq ▸ hparse)

/-- A decimal id that occurs somewhere with success is read everywhere. -/
theorem Canonical.parse_of {row row' : Dyn} {key key' : String} {id k : Int}
    (h : Canonical row key id) (h' : Canonical row' key' id)
    (hparse : parseField row' key' = .ok k) : parseField row key = .ok id := by
  obtain rfl := h'.eq_of_parseField hparse
  rw [h.parse_eq, ← h'.parse_eq, hparse]

theorem Dataset.parse_province (h : Dataset assets ps ds ss) {p : Dyn} (hp : p ∈ ps) :
    ∃ id, Canonical p "id" id ∧ parseField p "id" = .ok id ∧
      ∃ d ∈ ds, Canonical d "province_id" id := by
  obtain ⟨id, hid, d, hd, hparent⟩ := h.province p hp
  obtain ⟨⟨k, hk⟩, -⟩ := districtReadable_iff.mp (h.readable_district d hd)
  exact ⟨id, hid, hid.parse_of hparent hk, d, hd, hparent⟩

theorem mem_districtsUnder {parent : String} {row : DistrictRow} :
    row ∈ districtsUnder ds parent ↔
      ∃ d ∈ ds, d.index "province_id" = .ok (.str parent) ∧ districtRow d = .ok row := by
  rw [districtsUnder, List.mem_filterMap]
  refine exists_congr fun d => and_congr_right fun _ => ?_
  cases d.index "province_id" with
  | error e => simp
  | ok v => cases districtRow d <;> simp [Dyn.isStr_iff, Except.toOption]

theorem mem_subdistrictsUnder {key : Int} {row : SubdistrictRow} :
    row ∈ subdistrictsUnder ss key ↔
      ∃ s ∈ ss, parseField s "amphur_id" = .ok key ∧ subdistrictRow s = .ok row := by
  rw [subdistrictsUnder, List.mem_filterMap]
  refine exists_congr fun s => and_congr_right fun _ => ?_
  cases subdistrictRow s <;> simp [Except.toOption]

/-- Every province has rows in the table of the districts. -/
theorem Dataset.districts_ne_nil (h : Dataset assets ps ds ss) {p : Dyn} (hp : p ∈ ps) {id : Int}
    (hid : parseField p "id" = .ok id) : ∃ rows, districtTable ds id = some rows ∧ rows ≠ [] := by
  obtain ⟨id', hcanonical, hparse, d, hd, hparent⟩ := h.parse_province hp
  obtain rfl := Except.ok.inj (hid.symm.trans hparse)
  have htext : intParse (toString id) = .ok id := hcanonical.parse_eq ▸ hid
  obtain ⟨-, row, hrow⟩ := districtReadable_iff.mp (h.readable_district d hd)
  cases hfind : ds.reverse.findSome? (parentText id) with
  | none =>
    have hnone := List.findSome?_eq_none_iff.mp hfind d (List.mem_reverse.mpr hd)
    rw [parentText, hparent] at hnone
    simp only [htext, if_true, reduceCtorEq] at hnone
  | some parent =>
    -- a district with another text for the same id would not be decimal
    have heq : parent = toString id := by
      obtain ⟨d', hd', hfound⟩ := List.exists_of_findSome?_eq_some hfind
      obtain ⟨-, parentId, -, hcanonical', -⟩ := h.district d' (List.mem_reverse.mp hd')
      rw [parentText, hcanonical'] at hfound
      simp only [Option.ite_none_right_eq_some, Option.some.injEq] at hfound
      obtain ⟨hparse', rfl⟩ := hfound
      rw [eq_of_intParse_toString hparse']
    refine ⟨districtsUnder ds parent, by rw [districtTable, hfind, Option.map_some], ?_⟩
    exact List.ne_nil_of_mem (mem_districtsUnder.mpr ⟨d, hd, heq ▸ hparent, hrow⟩)

/-- Every district in the table has rows in the table of the sub-districts. -/
theorem Dataset.subdistricts_ne_nil (h : Dataset assets ps ds ss) {key : Int}
    {rows : List DistrictRow} (hrows : districtTable ds key = some rows) {row : DistrictRow}
    (hrow : row ∈ rows) : ∃ rows, subdistrictTable ss row.id = some rows ∧ rows ≠ [] := by
  obtain ⟨parent, -, rfl⟩ := Option.map_eq_some_iff.mp hrows
  obtain ⟨d, hd, -, hd'⟩ := mem_districtsUnder.mp hrow
  obtain ⟨id, hid, hrest⟩ := bind_eq_ok.mp hd'
  obtain ⟨name, -, hrest⟩ := bind_eq_ok.mp hrest
  obtain rfl := Except.ok.inj hrest
  obtain ⟨id', -, hcanonical, -, s, hs, hparent⟩ := h.district d hd
  obtain rfl := hcanonical.eq_of_parseField hid
  obtain ⟨⟨k, hk⟩, srow, hsrow⟩ := subdistrictReadable_iff.mp (h.readable_subdistrict s hs)
  have hall : ss.takeWhile subdistrictReadable = ss :=
    List.takeWhile_eq_self_iff.mpr h.readable_subdistrict
  have hmem : srow ∈ subdistrictsUnder ss id :=
    mem_subdistrictsUnder.mpr ⟨s, hs, hparent.parse_of hparent hk, hsrow⟩
  refine ⟨subdistrictsUnder ss id, ?_, List.ne_nil_of_mem hmem⟩
  rw [subdistrictTable, hall, if_neg fun hempty =>
    List.ne_nil_of_mem hmem (List.isEmpty_iff.mp hempty.1)]

/-! ### Pickers on a dataset -/

/-- The tables of the dataset, with a province of it selected and the rest chained to that. -/
structure Inv (ps ds ss : List Dyn) (s : State) : Prop where
  provinces : s.provinces = some ps
  districts : ∀ key, s.districts.get? key = districtTable ds key
  subdistricts : ∀ key, s.subdistricts.get? key = subdistrictTable ss key
  province : ∀ id, s.selectedProvinceId = some id → ∃ p ∈ ps, parseField p "id" = .ok id
  chained : Chained s

variable {s : State}

theorem Inv.provinceRows (hinv : Inv ps ds ss s) : provinceRows s = .ok ps :=
  provinceRows_eq_ok.mpr hinv.provinces

theorem Inv.districtRows (hinv : Inv ps ds ss s) (h : Dataset assets ps ds ss)
    (hrendered : rendered s .district = true) :
    ∃ rows, group s.districts s.selectedProvinceId = .ok rows ∧ rows ≠ [] := by
  simp only [rendered, Bool.and_eq_true, decide_eq_true_eq, ne_eq] at hrendered
  obtain ⟨id, hid⟩ := Option.ne_none_iff_exists'.mp hrendered.1
  obtain ⟨p, hp, hparse⟩ := hinv.province id hid
  obtain ⟨rows, hrows, hne⟩ := h.districts_ne_nil hp hparse
  exact ⟨rows, group_eq_ok.mpr ⟨id, hid, (hinv.districts id).trans hrows⟩, hne⟩

theorem Inv.subdistrictRows (hinv : Inv ps ds ss s) (h : Dataset assets ps ds ss)
    (hrendered : rendered s .subdistrict = true) :
    ∃ rows, group s.subdistricts s.selectedDistrictId = .ok rows ∧ rows ≠ [] := by
  simp only [rendered, Bool.and_eq_true, decide_eq_true_eq, ne_eq] at hrendered
  obtain ⟨id, hid⟩ := Option.ne_none_iff_exists'.mp hrendered.1
  obtain ⟨provinceId, drows, row, -, hdrows, hrow, rfl⟩ := hinv.chained.district id hid
  obtain ⟨rows, hrows, hne⟩ := h.subdistricts_ne_nil ((hinv.districts provinceId).symm.trans hdrows)
    hrow
  exact ⟨rows, group_eq_ok.mpr ⟨row.id, hid, (hinv.subdistricts row.id).trans hrows⟩, hne⟩

/-- If the name of every row can be looked up, the texts fail only on a name that is no text. -/
theorem itemTexts_error {α : Type} {nameTh : α → Except Error Dyn} {rows : List α} {e : Error}
    (hrows : ∀ row ∈ rows, ∃ name, nameTh row = .ok name) (h : itemTexts nameTh rows = .error e) :
    e = .typeError := by
  induction rows with
  | nil => cases h
  | cons row rows ih =>
    obtain ⟨name, hname⟩ := hrows row List.mem_cons_self
    rw [itemTexts, hname, ok_bind] at h
    cases htext : name.asString with
    | error e' =>
      have he' : e' = .typeError := by
        cases name <;> simp_all [Dyn.asString]
      rw [htext] at h
      exact (Except.error.inj h).symm.trans he'
    | ok text =>
      rw [htext, ok_bind] at h
      cases htexts : itemTexts nameTh rows with
      | error e' =>
        rw [htexts] at h
        exact ih (fun row' hrow' => hrows row' (List.mem_cons_of_mem row hrow'))
          (htexts.trans (congrArg Except.error (Except.error.inj h)))
      | ok texts =>
        rw [htexts] at h
        cases h

/-- A picker of rows that are there can fail to open only on a name that is no text. -/
theorem opens_of_rows {α : Type} {rows : List α} {nameTh : α → Except Error Dyn} {level : Level}
    {initialItem : Int} {e : Error} (hrows : ∀ row ∈ rows, ∃ name, nameTh row = .ok name)
    (h : (itemTexts nameTh rows >>= fun items =>
      (pure (.open level items initialItem) : Except Error Picker)) = .error e) :
    e = .typeError := by
  cases htexts : itemTexts nameTh rows with
  | error e' =>
    rw [htexts] at h
    exact itemTexts_error hrows (htexts.trans (congrArg Except.error (Except.error.inj h)))
  | ok texts =>
    rw [htexts] at h
    cases h

theorem Inv.opens (hinv : Inv ps ds ss s) (h : Dataset assets ps ds ss) {level : Level}
    (hrendered : rendered s level = true) {e : Error} (he : showPicker s level = .error e) :
    e = .typeError := by
  cases level with
  | province =>
    rw [showPicker, hinv.provinceRows, ok_bind] at he
    refine opens_of_rows (fun p hp => ?_) he
    obtain ⟨id, hid, -⟩ := h.parse_province hp
    cases p with
    | map entries => exact ⟨_, rfl⟩
    | _ => cases hid
  | district =>
    obtain ⟨rows, hrows, -⟩ := hinv.districtRows h hrendered
    rw [showPicker, hrows, ok_bind] at he
    exact opens_of_rows (fun row _ => ⟨row.nameTh, rfl⟩) he
  | subdistrict =>
    obtain ⟨rows, hrows, -⟩ := hinv.subdistrictRows h hrendered
    rw [showPicker, hrows, ok_bind] at he
    exact opens_of_rows (fun row _ => ⟨row.nameTh, rfl⟩) he

/-! ### The initial index -/

theorem elementAt_indexWhere {α : Type} {p : α → Bool} {rows : List α}
    (h : ∃ row ∈ rows, p row = true) :
    ∃ row ∈ rows, elementAt rows (indexWhere p rows) = .ok row ∧ p row = true := by
  obtain ⟨i, hi⟩ : ∃ i, rows.findIdx? p = some i :=
    Option.isSome_iff_exists.mp (List.findIdx?_isSome.trans (List.any_eq_true.mpr h))
  obtain ⟨hlt, hrow, -⟩ := List.findIdx?_eq_some_iff_getElem.mp hi
  refine ⟨rows[i], List.getElem_mem hlt, elementAt_eq_ok.mpr ⟨?_, ?_⟩, hrow⟩
  · simp [indexWhere, hi]
  · simp [indexWhere, hi]

/-- The initial index of a picker is one of a row, and of a row with the selected id. -/
theorem elementAt_initialItem {α : Type} {rows : List α} {p : Int → α → Bool}
    {f : α → Except Error Int} {selected : Option Int} (hne : rows ≠ [])
    (hselected : ∀ id, selected = some id → ∃ row ∈ rows, p id row = true)
    (hid : ∀ id, ∀ row ∈ rows, p id row = true → f row = .ok id) :
    ∃ row ∈ rows, elementAt rows (selected.elim 0 fun id => indexWhere (p id) rows) = .ok row ∧
      ∀ id, selected = some id → f row = .ok id := by
  cases selected with
  | none =>
    obtain ⟨row, rest, rfl⟩ := List.exists_cons_of_ne_nil hne
    exact ⟨row, List.mem_cons_self, rfl, by rintro _ ⟨⟩⟩
  | some id =>
    obtain ⟨row, hrow, hget, hfound⟩ := elementAt_indexWhere (hselected id rfl)
    refine ⟨row, hrow, hget, ?_⟩
    rintro _ ⟨⟩
    exact hid id row hrow hfound

theorem Dataset.hasId_iff (h : Dataset assets ps ds ss) {p : Dyn} (hp : p ∈ ps) {id : Int} :
    hasId id p = true ↔ parseField p "id" = .ok id := by
  obtain ⟨id', hcanonical, hparse, -⟩ := h.parse_province hp
  rw [hasId, hcanonical, hparse]
  constructor
  · intro htext
    have htext : toString id' = toString id := Dyn.str.inj (Dyn.isStr_iff.mp htext)
    rw [hcanonical.parse_eq, htext] at hparse
    rw [eq_of_intParse_toString hparse]
  · rintro ⟨⟩
    exact Dyn.isStr_iff.mpr rfl

/-- Whatever picker opens, its initial index is one of a row, and of one with the selected id. -/
theorem Inv.initialItem (hinv : Inv ps ds ss s) (h : Dataset assets ps ds ss) (hps : ps ≠ [])
    {level : Level} (hrendered : rendered s level = true) {q : Picker}
    (hq : showPicker s level = .ok q) :
    q.selectedItem = q.initialItem ∧ ∃ row, elementAt (listed s level) q.initialItem = .ok row ∧
      (∃ id, row.id = .ok id) ∧ ∀ id, s.selectedId level = some id → row.id = .ok id := by
  cases level with
  | province =>
    rw [showPicker, hinv.provinceRows, ok_bind] at hq
    obtain ⟨items, -, hq⟩ := bind_eq_ok.mp hq
    obtain rfl := Except.ok.inj hq
    have hselected : ∀ id, s.selectedProvinceId = some id → ∃ p ∈ ps, hasId id p = true := by
      intro id hid
      obtain ⟨p, hp, hparse⟩ := hinv.province id hid
      exact ⟨p, hp, (h.hasId_iff hp).mpr hparse⟩
    obtain ⟨p, hp, hget, hid⟩ := elementAt_initialItem (f := fun p => parseField p "id") hps
      hselected fun id p hp => (h.hasId_iff hp).mp
    obtain ⟨id, -, hparse, -⟩ := h.parse_province hp
    rw [listed_province hinv.provinceRows, elementAt_map]
    exact ⟨rfl, _, congrArg (Except.map _) hget, ⟨id, hparse⟩, hid⟩
  | district =>
    obtain ⟨rows, hrows, hne⟩ := hinv.districtRows h hrendered
    rw [showPicker, hrows, ok_bind] at hq
    obtain ⟨items, -, hq⟩ := bind_eq_ok.mp hq
    obtain rfl := Except.ok.inj hq
    have hselected : ∀ id, s.selectedDistrictId = some id →
        ∃ row ∈ rows, decide (row.id = id) = true := by
      intro id hid
      obtain ⟨provinceId, rows', row, hprovince, hrows', hrow, hrowid⟩ :=
        hinv.chained.district id hid
      obtain rfl :=
        Except.ok.inj (hrows.symm.trans (group_eq_ok.mpr ⟨provinceId, hprovince, hrows'⟩))
      exact ⟨row, hrow, decide_eq_true hrowid⟩
    obtain ⟨row, -, hget, hid⟩ := elementAt_initialItem (p := fun id row => decide (row.id = id))
      (f := fun row => .ok row.id) hne hselected
      fun id row _ hrow => congrArg Except.ok (of_decide_eq_true hrow)
    rw [listed_district hrows, elementAt_map]
    exact ⟨rfl, _, congrArg (Except.map _) hget, ⟨row.id, rfl⟩, hid⟩
  | subdistrict =>
    obtain ⟨rows, hrows, hne⟩ := hinv.subdistrictRows h hrendered
    rw [showPicker, hrows, ok_bind] at hq
    obtain ⟨items, -, hq⟩ := bind_eq_ok.mp hq
    obtain rfl := Except.ok.inj hq
    have hselected : ∀ id, s.selectedSubdistrictId = some id →
        ∃ row ∈ rows, decide (row.id = id) = true := by
      intro id hid
      obtain ⟨districtId, rows', row, hdistrict, hrows', hrow, hrowid, -⟩ :=
        hinv.chained.subdistrict id hid
      obtain rfl :=
        Except.ok.inj (hrows.symm.trans (group_eq_ok.mpr ⟨districtId, hdistrict, hrows'⟩))
      exact ⟨row, hrow, decide_eq_true hrowid⟩
    obtain ⟨row, -, hget, hid⟩ := elementAt_initialItem (p := fun id row => decide (row.id = id))
      (f := fun row => .ok row.id) hne hselected
      fun id row _ hrow => congrArg Except.ok (of_decide_eq_true hrow)
    rw [listed_subdistrict hrows, elementAt_map]
    exact ⟨rfl, _, congrArg (Except.map _) hget, ⟨row.id, rfl⟩, hid⟩

/-- A picker opens in range, and Done without scrolling keeps the selected id. -/
theorem Inv.startsInRange (hinv : Inv ps ds ss s) (h : Dataset assets ps ds ss) (hps : ps ≠ [])
    {level : Level} (hrendered : rendered s level = true) {q : Picker}
    (hq : showPicker s level = .ok q) : StartsInRange s q := by
  obtain rfl := showPicker_level hq
  obtain ⟨hitem, row, hrow, ⟨id, hid⟩, hselected⟩ := hinv.initialItem h hps hrendered hq
  obtain ⟨hlow, hget⟩ := elementAt_eq_ok.mp hrow
  have hlt := (List.getElem?_eq_some_iff.mp hget).1
  have hlength := showPicker_items_length hq
  refine ⟨by omega, by omega, fun id' hid' => ⟨row, hrow, hselected id' hid'⟩, fun id' hid' => ?_⟩
  have hspec := done_spec hq rfl
  have hconfirmed : confirmedId s q = some id' := by
    rw [confirmedId, hitem, hrow, ok_bind, hselected id' hid']
    rfl
  rw [hconfirmed] at hspec
  obtain ⟨-, -, hkept⟩ := hspec
  exact hkept

/-- Every row that a picker lists has an id. -/
theorem Inv.listed_id (hinv : Inv ps ds ss s) (h : Dataset assets ps ds ss) {level : Level}
    {row : ListedRow} (hrow : row ∈ listed s level) : ∃ id, row.id = .ok id := by
  cases level with
  | province =>
    rw [listed_province hinv.provinceRows] at hrow
    obtain ⟨p, hp, rfl⟩ := List.mem_map.mp hrow
    obtain ⟨id, -, hparse, -⟩ := h.parse_province hp
    exact ⟨id, hparse⟩
  | district | subdistrict =>
    obtain ⟨row', -, rfl⟩ := List.mem_map.mp hrow
    exact ⟨row'.id, rfl⟩

/-- Done succeeds in every open picker. -/
theorem Inv.done_ok (hinv : Inv ps ds ss s) (h : Dataset assets ps ds ss) (hps : ps ≠ [])
    {p q : Picker} (hopened : Opened s p q) : ∃ callbacks, (done s p).2 = .ok callbacks := by
  have hlength := showPicker_items_length hopened.shown
  obtain ⟨row, hrow, hget⟩ : ∃ row ∈ listed s p.level,
      elementAt (listed s p.level) p.selectedItem = .ok row := by
    refine elementAt_of_lt ?_ ?_
    · rcases hopened.scrolled with hsame | ⟨hlow, -⟩
      · have hstarts := hinv.startsInRange h hps hopened.rendered hopened.shown
        obtain ⟨hitem, -⟩ := hinv.initialItem h hps hopened.rendered hopened.shown
        rw [hsame, hitem]
        exact hstarts.low
      · exact hlow
    · rcases hopened.scrolled with hsame | ⟨-, hhigh⟩
      · have hstarts := hinv.startsInRange h hps hopened.rendered hopened.shown
        obtain ⟨hitem, -⟩ := hinv.initialItem h hps hopened.rendered hopened.shown
        rw [hsame, hitem, ← hlength]
        exact hstarts.high
      · rw [← hlength, hopened.items]
        exact hhigh
  obtain ⟨id, hid⟩ := hinv.listed_id h hrow
  have hspec := done_spec hopened.shown hopened.items
  have hconfirmed : confirmedId s p = some id := by
    rw [confirmedId, hget, ok_bind, hid]
    rfl
  rw [hconfirmed] at hspec
  obtain ⟨callbacks, hok, -⟩ := hspec
  exact ⟨callbacks, hok⟩

/-! ### Runs -/

theorem Dataset.inv_loaded (h : Dataset assets ps ds ss) :
    Inv ps ds ss (loadData assets .initial) := by
  have hloaded := loaded_loadData assets .initial
  generalize loadData assets .initial = s at hloaded
  cases hloaded with
  | unread e hdecoded => exact absurd (hdecoded.symm.trans h.decoded) (by simp)
  | provinces hdecoded hbroken =>
    obtain ⟨d, hd, hbroken⟩ := hbroken
    cases hdecoded.symm.trans h.decoded
    exact absurd (h.readable_district d hd) (by simp [hbroken])
  | tables hdecoded hreadable hdistricts hsubdistricts =>
    cases hdecoded.symm.trans h.decoded
    exact ⟨rfl, hdistricts, hsubdistricts, by rintro _ ⟨⟩, by rintro _ ⟨⟩, by rintro _ ⟨⟩,
      fun _ => rfl⟩

/-- What Done leaves is a chain again. -/
theorem Inv.done (hinv : Inv ps ds ss s) {p q : Picker} (hopened : Opened s p q) :
    Inv ps ds ss (done s p).1 := by
  have houtcome := done_cases hopened.shown hopened.items
  generalize ThaiAddress.done s p = result at houtcome
  cases houtcome with
  | failed e => exact hinv
  | province hlevel hrows hrow hid hname hchosen =>
    refine ⟨hinv.provinces, hinv.districts, hinv.subdistricts, ?_, by rintro _ ⟨⟩, by rintro _ ⟨⟩,
      fun _ => rfl⟩
    rintro _ ⟨⟩
    obtain rfl := Option.some.inj (hrows.symm.trans hinv.provinces)
    exact ⟨_, hrow, hid⟩
  | district hlevel hprovince hrows hrow hname hchosen =>
    refine ⟨hinv.provinces, hinv.districts, hinv.subdistricts, hinv.province, ?_, by rintro _ ⟨⟩,
      fun _ => rfl⟩
    rintro _ ⟨⟩
    exact ⟨_, _, _, hprovince, hrows, hrow, rfl⟩
  | subdistrict hlevel hdistrict hrows hrow hname hchosen =>
    refine ⟨hinv.provinces, hinv.districts, hinv.subdistricts, hinv.province, hinv.chained.district,
      ?_, by rintro ⟨⟩⟩
    rintro _ ⟨⟩
    exact ⟨_, _, _, hdistrict, hrows, hrow, rfl, rfl⟩

/-- What holds of the widget after any taps. -/
structure WidgetInv (ps ds ss : List Dyn) (w : Widget) : Prop where
  state : Inv ps ds ss w.state
  picker : w.OpenedNow

theorem widgetInv_step {w v : Widget} {tap : Tap} (hinv : WidgetInv ps ds ss w)
    (hstep : w.step tap = some v) : WidgetInv ps ds ss v := by
  refine ⟨?_, openedNow_step hinv.picker hstep⟩
  cases Widget.stepped_of_step hstep with
  | tapField | scroll | cancel => exact hinv.state
  | @done p hpicker =>
    obtain ⟨q, hopened⟩ := hinv.picker p hpicker
    rw [Widget.state_confirm]
    exact hinv.state.done hopened

theorem Dataset.safe (h : Dataset assets ps ds ss) {w : Widget} (hinv : WidgetInv ps ds ss w) :
    Safe ps w where
  chained := hinv.state.chained
  opens level hrendered e he := by
    obtain rfl := hinv.state.opens h hrendered he
    exact ⟨by decide, by decide⟩
  starts hps level q hrendered hq := hinv.state.startsInRange h hps hrendered hq
  done hps p hp := by
    obtain ⟨q, hopened⟩ := hinv.picker p hp
    exact hinv.state.done_ok h hps hopened

theorem Dataset.widgetInv_of_run (h : Dataset assets ps ds ss) {taps : List Tap} {w : Widget}
    (hrun : EventRun.run Widget.step (Widget.loaded assets) taps = some w) :
    WidgetInv ps ds ss w :=
  EventRun.invariant_run (I := WidgetInv ps ds ss) (fun _ _ _ => widgetInv_step)
    ⟨h.inv_loaded, openedNow_loaded assets⟩ hrun

/-- **Safety of the pickers.** After any sequence of openings, scrolls, Done and Cancel taps on a
widget that has loaded a dataset, the selection is a chain in the tables and no null check or index
of a picker fails, those of an empty picker of provinces apart. -/
theorem safe_of_run (h : Dataset assets ps ds ss) {taps : List Tap} {w : Widget}
    (hrun : EventRun.run Widget.step (Widget.loaded assets) taps = some w) : Safe ps w :=
  h.safe (h.widgetInv_of_run hrun)

/-- In every form for a new home the widget is safe once it has loaded a dataset. -/
theorem Dataset.safe_form (h : Dataset assets ps ds ss) {ofDegrees : ℚ → ℚ → LatLng}
    {lat long : ℚ} {es : List FormCreate.Event} {s : FormCreate.State}
    (hrun : EventRun.run (FormCreate.step assets) (FormCreate.State.initial ofDegrees lat long) es =
      some s) :
    s.widget = ⟨.initial, none⟩ ∨ Safe ps s.widget := by
  rcases FormCreate.widget_of_run hrun with hwidget | ⟨-, taps, htaps⟩
  · exact .inl hwidget
  · exact .inr (h.safe (h.widgetInv_of_run htaps))

end Dataset

/-- Two provinces, each with one district and one sub-district, are a dataset. -/
theorem dataset_twoProvinces :
    ∃ ps ds ss, Dataset FormCreate.twoProvinces ps ds ss ∧ ps ≠ [] := by
  refine ⟨_, _, _, ⟨rfl, ?_, ?_, ?_, ?_⟩, List.cons_ne_nil _ _⟩
  · rintro (⟨d, hd, hbroken⟩ | ⟨s, hs, hbroken⟩)
    · simp only [List.mem_cons, List.not_mem_nil, or_false] at hd
      rcases hd with rfl | rfl <;> exact absurd hbroken (by decide)
    · simp only [List.mem_cons, List.not_mem_nil, or_false] at hs
      rcases hs with rfl | rfl <;> exact absurd hbroken (by decide)
  · intro p hp
    simp only [List.mem_cons, List.not_mem_nil, or_false] at hp
    rcases hp with rfl | rfl
    · exact ⟨1, rfl, _, List.mem_cons_self, rfl⟩
    · exact ⟨2, rfl, _, List.mem_cons_of_mem _ List.mem_cons_self, rfl⟩
  · intro d hd
    simp only [List.mem_cons, List.not_mem_nil, or_false] at hd
    rcases hd with rfl | rfl
    · exact ⟨11, 1, rfl, rfl, _, List.mem_cons_self, rfl⟩
    · exact ⟨21, 2, rfl, rfl, _, List.mem_cons_of_mem _ List.mem_cons_self, rfl⟩
  · intro s hs
    simp only [List.mem_cons, List.not_mem_nil, or_false] at hs
    rcases hs with rfl | rfl
    · exact ⟨111, 11, rfl, rfl⟩
    · exact ⟨211, 21, rfl, rfl⟩

/-- The second province has been chosen, and the picker of its districts is open. -/
theorem safe_chooseAgain : ∃ ps w p,
    EventRun.run Widget.step (Widget.loaded FormCreate.twoProvinces)
        (chooseAgain ++ [.tapField .district]) = some w ∧
      ps ≠ [] ∧ Safe ps w ∧ w.picker = some p ∧
      showPicker w.state .district = .ok p ∧ StartsInRange w.state p ∧
      ∃ callbacks, (done w.state p).2 = .ok callbacks := by
  obtain ⟨ps, ds, ss, h, hps⟩ := dataset_twoProvinces
  obtain ⟨w, p, hw, hp, hrendered, hshow⟩ : ∃ w p,
      EventRun.run Widget.step (Widget.loaded FormCreate.twoProvinces)
          (chooseAgain ++ [.tapField .district]) = some w ∧ w.picker = some p ∧
        rendered w.state .district = true ∧ showPicker w.state .district = .ok p :=
    ⟨_, _, rfl, rfl, rfl, rfl⟩
  have hsafe := safe_of_run h hw
  exact ⟨ps, w, p, hw, hps, hsafe, hp, hshow, hsafe.starts hps .district p hrendered hshow,
    hsafe.done hps p hp⟩

/-- No province, district or sub-district. -/
def noProvinces : Assets :=
  { provinces := .ok (.list []), districts := .ok (.list []), subdistricts := .ok (.list []) }

/-- Without provinces the picker of provinces opens, at an index that is none of an item, and Done
fails on it. -/
theorem empty_picker_opens : Dataset noProvinces [] [] [] ∧
    ∃ w p, EventRun.run Widget.step (Widget.loaded noProvinces) [.tapField .province] = some w ∧
      w.picker = some p ∧ ¬ p.initialItem < p.items.length ∧
      (ThaiAddress.done w.state p).2 = .error .rangeError := by
  refine ⟨⟨rfl, ?_, by simp, by simp, by simp⟩, _, _, rfl, rfl, by decide, rfl⟩
  rintro (⟨d, hd, -⟩ | ⟨s, hs, -⟩)
  · exact List.not_mem_nil hd
  · exact List.not_mem_nil hs

end SmartHome.ThaiAddress
