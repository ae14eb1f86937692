import SmartHome.Lib.DartValue
import SmartHome.Lib.LinkedMap

/-!
# The address picker

`ThaiAddress` loads three tables from the assets of the app and lets the user pick a province, a
district of it and a sub-district of that, one picker at a time. The tables are keyed by the
integers that the parent ids of the rows parse to. Every choice resets the levels below it and is
reported to the parent widget by callbacks.

Rows are dynamic values. A handler that throws keeps the assignments it has made so far.

## Main definitions

* `ThaiAddress.State`, `ThaiAddress.loadData`.
* `ThaiAddress.Picker`, `ThaiAddress.showPicker`, `ThaiAddress.done`.

## Main results

* `ThaiAddress.districtGroup_spec`, `ThaiAddress.buildDistricts_spec`,
  `ThaiAddress.addSubdistricts_spec`: the rows of the tables are rows of the assets.
* `ThaiAddress.done_cases` : what a tap on Done does.
-/

namespace SmartHome.ThaiAddress

open Dart

/-- A row of `_districts`. -/
structure DistrictRow where
  id : Int
  nameTh : Dyn

/-- A row of `_subdistricts`. -/
structure SubdistrictRow where
  id : Int
  nameTh : Dyn
  zipcode : Dyn

/-- What `_loadData` gets from reading and decoding the three asset files. -/
structure Assets where
  provinces : Except Error Dyn
  districts : Except Error Dyn
  subdistricts : Except Error Dyn

/-- The state of the widget. -/
structure State where
  provinces : Option (List Dyn)
  districts : LinkedMap Int (List DistrictRow)
  subdistricts : LinkedMap Int (List SubdistrictRow)
  selectedProvinceId : Option Int
  selectedDistrictId : Option Int
  selectedSubdistrictId : Option Int
  postcode : Option String
  selectedProvinceName : Option String
  selectedDistrictName : Option String
  selectedSubdistrictName : Option String

/-- The widget before anything is loaded. -/
def State.initial : State :=
  { provinces := none, districts := [], subdistricts := [], selectedProvinceId := none,
    selectedDistrictId := none, selectedSubdistrictId := none, postcode := none,
    selectedProvinceName := none, selectedDistrictName := none, selectedSubdistrictName := none }

/-! ### Loading -/

/-- `int.parse(row[key])`. -/
def parseField (row : Dyn) (key : String) : Except Error Int :=
  row.index key >>= Dyn.parseInt

/-- `{'id': int.parse(d['id']), 'name_th': d['name_th']}`. -/
def districtRow (d : Dyn) : Except Error DistrictRow := do
  let id ← parseField d "id"
  let nameTh ← d.index "name_th"
  return { id, nameTh }

/-- The inner list of the comprehension: the districts whose `province_id` equals `parent`. -/
def districtGroup (parent : String) : List Dyn → Except Error (List DistrictRow)
  | [] => .ok []
  | d :: ds => do
    let provinceId ← d.index "province_id"
    if provinceId.isStr parent then
      let row ← districtRow d
      let rows ← districtGroup parent ds
      return row :: rows
    else districtGroup parent ds

/-- The map comprehension, over the districts still to come. -/
def buildDistricts (districts : List Dyn) :
    List Dyn → LinkedMap Int (List DistrictRow) → Except Error (LinkedMap Int (List DistrictRow))
  | [], table => .ok table
  | district :: rest, table => do
    let provinceId ← district.index "province_id"
    let parent ← provinceId.asString
    let key ← intParse parent
    let rows ← districtGroup parent districts
    buildDistricts districts rest (table.put key rows)

/-- `{'id': int.parse(subdistrict['id']), 'name_th': .., 'zipcode': ..}`. -/
def subdistrictRow (subdistrict : Dyn) : Except Error SubdistrictRow := do
  let id ← parseField subdistrict "id"
  let nameTh ← subdistrict.index "name_th"
  let zipcode ← subdistrict.index "zipcode"
  return { id, nameTh, zipcode }

/-- `if (!_subdistricts.containsKey(amphurId)) _subdistricts[amphurId] = []`. -/
def ensureGroup {ρ : Type} (table : LinkedMap Int (List ρ)) (amphurId : Int) :
    LinkedMap Int (List ρ) :=
  if (table.get? amphurId).isSome then table else table.put amphurId []

/-- The loop over the sub-districts still to come. When it throws, the table keeps what has been
added, and the group that has just been made. -/
def addSubdistricts :
    List Dyn → LinkedMap Int (List SubdistrictRow) →
      LinkedMap Int (List SubdistrictRow) × Except Error Unit
  | [], table => (table, .ok ())
  | subdistrict :: rest, table =>
    match parseField subdistrict "amphur_id" with
    | .error e => (table, .error e)
    | .ok amphurId =>
      match subdistrictRow subdistrict with
      | .error e => (ensureGroup table amphurId, .error e)
      | .ok row =>
        let group := ((ensureGroup table amphurId).get? amphurId).getD []
        addSubdistricts rest ((ensureGroup table amphurId).put amphurId (group ++ [row]))

/-- The three lists, before `setState`. -/
def decoded (assets : Assets) : Except Error (List Dyn × List Dyn × List Dyn) := do
  let provinces ← assets.provinces >>= Dyn.asList
  let districts ← assets.districts >>= Dyn.asList
  let subdistricts ← assets.subdistricts >>= Dyn.asList
  return (provinces, districts, subdistricts)

/-- `_loadData`. Everything it throws is caught and printed. -/
def loadData (assets : Assets) (s : State) : State :=
  match decoded assets with
  | .error _ => s
  | .ok (provinces, districts, subdistricts) =>
    match buildDistricts districts districts [] with
    | .error _ => { s with provinces := some provinces }
    | .ok table =>
      { s with provinces := some provinces, districts := table,
               subdistricts := (addSubdistricts subdistricts []).1 }

/-! ### Pickers -/

/-- The `type` of a picker. -/
inductive Level where
  | province
  | district
  | subdistrict
  deriving DecidableEq

/-- The fields of `build` that open a picker. -/
def rendered (s : State) : Level → Bool
  | .province => true
  | .district => s.selectedProvinceId ≠ none && s.selectedProvinceId ≠ some 0
  | .subdistrict => s.selectedDistrictId ≠ none && s.selectedDistrictId ≠ some 0

/-- An open picker: the texts of its items, and the index that Done will use. -/
structure Picker where
  level : Level
  items : List String
  initialItem : Int
  selectedItem : Int
  deriving DecidableEq

/-- `indexWhere`. -/
def indexWhere {α : Type} (p : α → Bool) (rows : List α) : Int :=
  (rows.findIdx? p).elim (-1) fun i => i

/-- `rows[i]`. -/
def elementAt {α : Type} (rows : List α) (i : Int) : Except Error α :=
  if i < 0 then .error .rangeError else rows[i.toNat]?.elim (.error .rangeError) .ok

/-- `table[id]!`. -/
def group {α : Type} (table : LinkedMap Int (List α)) (id : Option Int) : Except Error (List α) :=
  (id.bind table.get?).elim (.error .nullCheck) .ok

/-- `_provinces!`. -/
def provinceRows (s : State) : Except Error (List Dyn) :=
  s.provinces.elim (.error .nullCheck) .ok

/-- The texts of the items of a picker: `Text` takes strings only. -/
def itemTexts {α : Type} (nameTh : α → Except Error Dyn) : List α → Except Error (List String)
  | [] => .ok []
  | row :: rows => do
    let name ← nameTh row
    let text ← name.asString
    let texts ← itemTexts nameTh rows
    return text :: texts

/-- `p['id'] == id.toString()`, on rows that can be indexed. -/
def hasId (id : Int) (p : Dyn) : Bool :=
  match p.index "id" with
  | .ok v => v.isStr (toString id)
  | .error _ => false

/-- A picker as it opens. -/
def Picker.open (level : Level) (items : List String) (initialItem : Int) : Picker :=
  { level, items, initialItem, selectedItem := initialItem }

/-- `province['name_th']`. -/
def provinceName (row : Dyn) : Except Error Dyn := row.index "name_th"

/-- `_showPicker`. -/
def showPicker (s : State) : Level → Except Error Picker
  | .province => do
    let rows ← provinceRows s
    let items ← itemTexts provinceName rows
    return .open .province items (s.selectedProvinceId.elim 0 fun id => indexWhere (hasId id) rows)
  | .district => do
    let rows ← group s.districts s.selectedProvinceId
    let items ← itemTexts (fun d => .ok d.nameTh) rows
    return .open .district items
      (s.selectedDistrictId.elim 0 fun id => indexWhere (fun d => d.id = id) rows)
  | .subdistrict => do
    let rows ← group s.subdistricts s.selectedDistrictId
    let items ← itemTexts (fun d => .ok d.nameTh) rows
    return .open .subdistrict items
      (s.selectedSubdistrictId.elim 0 fun id => indexWhere (fun d => d.id = id) rows)

/-- The text of the item that Done will confirm, if the index is one of an item. -/
def Picker.chosen (p : Picker) : Option String :=
  if p.selectedItem < 0 then none else p.items[p.selectedItem.toNat]?

/-- A call to one of the callbacks of the widget. -/
inductive Callback where
  | onProvinceSelected (province : Option String)
  | onDistrictSelected (district : Option String)
  | onSubDistrictSelected (subDistrict : Option String)
  | onPostcodeSelected (postcode : Option String)
  deriving DecidableEq

/-- The Done handler for a province. -/
def doneProvince (s : State) (selectedItem : Int) : State × Except Error (List Callback) :=
  match provinceRows s >>= fun rows => elementAt rows selectedItem with
  | .error e => (s, .error e)
  | .ok row =>
    match parseField row "id" with
    | .error e => (s, .error e)
    | .ok id =>
      match provinceName row >>= Dyn.asStringOrNull with
      | .error e => ({ s with selectedProvinceId := some id }, .error e)
      | .ok name =>
        ({ s with selectedProvinceId := some id, selectedProvinceName := name,
                  selectedDistrictId := none, selectedSubdistrictId := none, postcode := none },
          .ok [.onProvinceSelected name])

/-- The Done handler for a district. -/
def doneDistrict (s : State) (selectedItem : Int) : State × Except Error (List Callback) :=
  match group s.districts s.selectedProvinceId >>= fun rows => elementAt rows selectedItem with
  | .error e => (s, .error e)
  | .ok row =>
    match row.nameTh.asStringOrNull with
    | .error e => ({ s with selectedDistrictId := some row.id }, .error e)
    | .ok name =>
      ({ s with selectedDistrictId := some row.id, selectedDistrictName := name,
                selectedSubdistrictId := none, postcode := none },
        .ok [.onDistrictSelected name])

/-- The Done handler for a sub-district. -/
def doneSubdistrict (s : State) (selectedItem : Int) : State × Except Error (List Callback) :=
  match group s.subdistricts s.selectedDistrictId >>= fun rows => elementAt rows selectedItem with
  | .error e => (s, .error e)
  | .ok row =>
    match row.nameTh.asStringOrNull with
    | .error e =>
      ({ s with selectedSubdistrictId := some row.id, postcode := some row.zipcode.text }, .error e)
    | .ok name =>
      ({ s with selectedSubdistrictId := some row.id, postcode := some row.zipcode.text,
                selectedSubdistrictName := name },
        .ok [.onSubDistrictSelected name, .onPostcodeSelected (some row.zipcode.text)])

/-- The `setState` of the Done handler, with the callbacks that it calls unless it throws. -/
def done (s : State) (picker : Picker) : State × Except Error (List Callback) :=
  match picker.level with
  | .province => doneProvince s picker.selectedItem
  | .district => doneDistrict s picker.selectedItem
  | .subdistrict => doneSubdistrict s picker.selectedItem

/-! ### The rows of the tables -/

/-- The row of a district of `districts` under the parsed id of its province. -/
def DistrictOf (districts : List Dyn) (provinceId : Int) (row : DistrictRow) : Prop :=
  ∃ d ∈ districts, parseField d "province_id" = .ok provinceId ∧ districtRow d = .ok row

/-- The row of a sub-district of `subdistricts` under the parsed id of its district. -/
def SubdistrictOf (subdistricts : List Dyn) (amphurId : Int) (row : SubdistrictRow) : Prop :=
  ∃ s ∈ subdistricts, parseField s "amphur_id" = .ok amphurId ∧ subdistrictRow s = .ok row

theorem districtGroup_spec {parent : String} {ds : List Dyn} {rows : List DistrictRow}
    (h : districtGroup parent ds = .ok rows) {row : DistrictRow} (hrow : row ∈ rows) :
    ∃ d ∈ ds, d.index "province_id" = .ok (.str parent) ∧ districtRow d = .ok row := by
  induction ds generalizing rows with
  | nil =>
    obtain rfl := Except.ok.inj h
    cases hrow
  | cons d ds ih =>
    obtain ⟨provinceId, hindex, h⟩ := bind_eq_ok.mp h
    split at h
    · obtain ⟨head, hhead, h⟩ := bind_eq_ok.mp h
      obtain ⟨tail, htail, h⟩ := bind_eq_ok.mp h
      obtain rfl := Except.ok.inj h
      rcases List.mem_cons.mp hrow with rfl | hrow
      · obtain rfl := Dyn.isStr_iff.mp ‹_›
        exact ⟨d, List.mem_cons_self, hindex, hhead⟩
      · obtain ⟨d', hd', hspec⟩ := ih htail hrow
        exact ⟨d', List.mem_cons_of_mem d hd', hspec⟩
    · obtain ⟨d', hd', hspec⟩ := ih h hrow
      exact ⟨d', List.mem_cons_of_mem d hd', hspec⟩

theorem buildDistricts_spec {districts rest : List Dyn}
    {table result : LinkedMap Int (List DistrictRow)}
    (htable : table.All fun key rows => ∀ row ∈ rows, DistrictOf districts key row)
    (h : buildDistricts districts rest table = .ok result) :
    result.All fun key rows => ∀ row ∈ rows, DistrictOf districts key row := by
  induction rest generalizing table with
  | nil =>
    obtain rfl := Except.ok.inj h
    exact htable
  | cons d rest ih =>
    obtain ⟨provinceId, -, h⟩ := bind_eq_ok.mp h
    obtain ⟨parent, -, h⟩ := bind_eq_ok.mp h
    obtain ⟨key, hkey, h⟩ := bind_eq_ok.mp h
    obtain ⟨rows, hrows, h⟩ := bind_eq_ok.mp h
    refine ih (htable.put fun row hrow => ?_) h
    obtain ⟨d', hd', hindex, hd'row⟩ := districtGroup_spec hrows hrow
    refine ⟨d', hd', ?_, hd'row⟩
    rw [parseField, hindex, ok_bind]
    exact hkey

theorem all_ensureGroup {P : Int → SubdistrictRow → Prop}
    {table : LinkedMap Int (List SubdistrictRow)}
    (htable : table.All fun key rows => ∀ row ∈ rows, P key row) (amphurId : Int) :
    (ensureGroup table amphurId).All fun key rows => ∀ row ∈ rows, P key row := by
  unfold ensureGroup
  split
  · exact htable
  · exact htable.put fun row hrow => absurd hrow List.not_mem_nil

theorem addSubdistricts_spec {subdistricts rest : List Dyn}
    {table : LinkedMap Int (List SubdistrictRow)} (hrest : ∀ s ∈ rest, s ∈ subdistricts)
    (htable : table.All fun key rows => ∀ row ∈ rows, SubdistrictOf subdistricts key row) :
    (addSubdistricts rest table).1.All fun key rows =>
      ∀ row ∈ rows, SubdistrictOf subdistricts key row := by
  induction rest generalizing table with
  | nil => exact htable
  | cons s rest ih =>
    unfold addSubdistricts
    split
    · exact htable
    · rename_i amphurId hparse
      have hensured := all_ensureGroup htable amphurId
      split
      · exact hensured
      · rename_i row hrow
        refine ih (fun s' hs' => hrest s' (List.mem_cons_of_mem s hs'))
          (hensured.put fun row' hrow' => ?_)
        rcases List.mem_append.mp hrow' with hrow' | hrow'
        · cases hgroup : (ensureGroup table amphurId).get? amphurId with
          | none =>
            rw [hgroup] at hrow'
            cases hrow'
          | some rows =>
            rw [hgroup] at hrow'
            exact hensured amphurId rows hgroup row' hrow'
        · obtain rfl := List.mem_singleton.mp hrow'
          exact ⟨s, hrest s List.mem_cons_self, hparse, hrow⟩

/-- The tables hold rows of the assets, each under the parsed id of its parent. -/
structure FromAssets (assets : Assets) (s : State) : Prop where
  provinces : ∀ rows, s.provinces = some rows → ∃ ds ss, decoded assets = .ok (rows, ds, ss)
  districts : s.districts.All fun key rows => ∀ row ∈ rows,
    ∃ ps ds ss, decoded assets = .ok (ps, ds, ss) ∧ DistrictOf ds key row
  subdistricts : s.subdistricts.All fun key rows => ∀ row ∈ rows,
    ∃ ps ds ss, decoded assets = .ok (ps, ds, ss) ∧ SubdistrictOf ss key row

theorem fromAssets_initial (assets : Assets) : FromAssets assets .initial where
  provinces _ h := nomatch h
  districts := LinkedMap.all_nil _
  subdistricts := LinkedMap.all_nil _

/-- Whatever the assets are, and wherever loading them breaks off, the tables hold rows of them. -/
theorem FromAssets.loadData {assets : Assets} {s : State} (h : FromAssets assets s) :
    FromAssets assets (loadData assets s) := by
  unfold ThaiAddress.loadData
  split
  · exact h
  · rename_i ps ds ss hdecoded
    have hprovinces : ∀ rows, some ps = some rows → ∃ ds ss, decoded assets = .ok (rows, ds, ss) :=
      fun rows hrows => Option.some.inj hrows ▸ ⟨ds, ss, hdecoded⟩
    split
    · exact ⟨hprovinces, h.districts, h.subdistricts⟩
    · rename_i table htable
      refine ⟨hprovinces, fun key rows hrows row hrow => ?_, fun key rows hrows row hrow => ?_⟩
      · exact ⟨ps, ds, ss, hdecoded, buildDistricts_spec (LinkedMap.all_nil _) htable key rows hrows
          row hrow⟩
      · exact ⟨ps, ds, ss, hdecoded, addSubdistricts_spec (fun _ hs => hs) (LinkedMap.all_nil _) key
          rows hrows row hrow⟩

/-- Loading selects nothing. -/
theorem loadData_selected (assets : Assets) (s : State) :
    (loadData assets s).selectedProvinceId = s.selectedProvinceId ∧
      (loadData assets s).selectedDistrictId = s.selectedDistrictId := by
  unfold loadData
  split
  · exact ⟨rfl, rfl⟩
  · split <;> exact ⟨rfl, rfl⟩

/-! ### Done -/

theorem elementAt_eq_ok {α : Type} {rows : List α} {i : Int} {row : α} :
    elementAt rows i = .ok row ↔ ¬ i < 0 ∧ rows[i.toNat]? = some row := by
  unfold elementAt
  split
  · simp [*]
  · cases rows[i.toNat]? <;> simp [*]

theorem group_eq_ok {α : Type} {table : LinkedMap Int (List α)} {id : Option Int} {rows : List α} :
    group table id = .ok rows ↔ ∃ key, id = some key ∧ table.get? key = some rows := by
  rw [← Option.bind_eq_some_iff, group]
  cases id.bind table.get? <;> simp

theorem provinceRows_eq_ok {s : State} {rows : List Dyn} :
    provinceRows s = .ok rows ↔ s.provinces = some rows := by
  rw [provinceRows]
  cases s.provinces <;> simp

/-- The rows of an open picker have texts for names, the texts of its items. -/
theorem itemTexts_getElem? {α : Type} {nameTh : α → Except Error Dyn} {rows : List α}
    {items : List String} (h : itemTexts nameTh rows = .ok items) {i : ℕ} {row : α}
    (hrow : rows[i]? = some row) :
    ∃ text, nameTh row = .ok (.str text) ∧ items[i]? = some text := by
  induction rows generalizing items i with
  | nil => cases hrow
  | cons head rows ih =>
    obtain ⟨name, hname, h⟩ := bind_eq_ok.mp h
    obtain ⟨text, htext, h⟩ := bind_eq_ok.mp h
    obtain ⟨texts, htexts, h⟩ := bind_eq_ok.mp h
    obtain rfl := Except.ok.inj h
    obtain rfl := Dyn.asString_eq_ok.mp htext
    cases i with
    | zero =>
      obtain rfl := Option.some.inj hrow
      exact ⟨text, hname, rfl⟩
    | succ i => exact ih htexts hrow

theorem showPicker_level {s : State} {level : Level} {p : Picker}
    (h : showPicker s level = .ok p) : p.level = level := by
  cases level <;>
  · obtain ⟨rows, -, h⟩ := bind_eq_ok.mp h
    obtain ⟨items, -, h⟩ := bind_eq_ok.mp h
    exact Except.ok.inj h ▸ rfl

/-- An open picker lists the names of the provinces. -/
theorem showPicker_province {s : State} {p : Picker} (h : showPicker s .province = .ok p) :
    ∃ rows, provinceRows s = .ok rows ∧ itemTexts provinceName rows = .ok p.items := by
  obtain ⟨rows, hrows, h⟩ := bind_eq_ok.mp h
  obtain ⟨items, htexts, h⟩ := bind_eq_ok.mp h
  obtain rfl := Except.ok.inj h
  exact ⟨rows, hrows, htexts⟩

/-- An open picker lists the names of the districts of the selected province. -/
theorem showPicker_district {s : State} {p : Picker} (h : showPicker s .district = .ok p) :
    ∃ rows, group s.districts s.selectedProvinceId = .ok rows ∧
      itemTexts (fun d => .ok d.nameTh) rows = .ok p.items := by
  obtain ⟨rows, hrows, h⟩ := bind_eq_ok.mp h
  obtain ⟨items, htexts, h⟩ := bind_eq_ok.mp h
  obtain rfl := Except.ok.inj h
  exact ⟨rows, hrows, htexts⟩

/-- An open picker lists the names of the subdistricts of the selected district. -/
theorem showPicker_subdistrict {s : State} {p : Picker} (h : showPicker s .subdistrict = .ok p) :
    ∃ rows, group s.subdistricts s.selectedDistrictId = .ok rows ∧
      itemTexts (fun d => .ok d.nameTh) rows = .ok p.items := by
  obtain ⟨rows, hrows, h⟩ := bind_eq_ok.mp h
  obtain ⟨items, htexts, h⟩ := bind_eq_ok.mp h
  obtain rfl := Except.ok.inj h
  exact ⟨rows, hrows, htexts⟩

/-- Before the tables are loaded no picker opens. -/
theorem showPicker_initial (level : Level) (p : Picker) : showPicker .initial level ≠ .ok p := by
  cases level <;> exact fun h => nomatch h

/-- The row that Done takes is a row of the list, whose name is the text of the chosen item. -/
theorem elementAt_chosen {α : Type} {nameTh : α → Except Error Dyn} {rows : List α} {p : Picker}
    (htexts : itemTexts nameTh rows = .ok p.items) {row : α}
    (hrow : elementAt rows p.selectedItem = .ok row) :
    row ∈ rows ∧ ∃ text, nameTh row = .ok (.str text) ∧ p.chosen = some text := by
  obtain ⟨hindex, hget⟩ := elementAt_eq_ok.mp hrow
  obtain ⟨text, hname, htext⟩ := itemTexts_getElem? htexts hget
  refine ⟨List.mem_of_getElem? hget, text, hname, ?_⟩
  rw [Picker.chosen, if_neg hindex, htext]

/-- What Done can do in a picker that could be opened on the present state: throw and change
nothing, or select the chosen row of its level and report it. -/
inductive DoneOutcome (s : State) (p : Picker) : State × Except Error (List Callback) → Prop
  | failed (e : Error) : DoneOutcome s p (s, .error e)
  | province {rows : List Dyn} {row : Dyn} {id : Int} {text : String}
      (hlevel : p.level = .province) (hrows : s.provinces = some rows) (hrow : row ∈ rows)
      (hid : parseField row "id" = .ok id) (hname : provinceName row = .ok (.str text))
      (hchosen : p.chosen = some text) :
      DoneOutcome s p
        ({ s with selectedProvinceId := some id, selectedProvinceName := some text,
                  selectedDistrictId := none, selectedSubdistrictId := none, postcode := none },
          .ok [.onProvinceSelected (some text)])
  | district {provinceId : Int} {rows : List DistrictRow} {row : DistrictRow} {text : String}
      (hlevel : p.level = .district) (hprovince : s.selectedProvinceId = some provinceId)
      (hrows : s.districts.get? provinceId = some rows) (hrow : row ∈ rows)
      (hname : row.nameTh = .str text) (hchosen : p.chosen = some text) :
      DoneOutcome s p
        ({ s with selectedDistrictId := some row.id, selectedDistrictName := some text,
                  selectedSubdistrictId := none, postcode := none },
          .ok [.onDistrictSelected (some text)])
  | subdistrict {districtId : Int} {rows : List SubdistrictRow} {row : SubdistrictRow}
      {text : String} (hlevel : p.level = .subdistrict)
      (hdistrict : s.selectedDistrictId = some districtId)
      (hrows : s.subdistricts.get? districtId = some rows) (hrow : row ∈ rows)
      (hname : row.nameTh = .str text) (hchosen : p.chosen = some text) :
      DoneOutcome s p
        ({ s with selectedSubdistrictId := some row.id, postcode := some row.zipcode.text,
                  selectedSubdistrictName := some text },
          .ok [.onSubDistrictSelected (some text), .onPostcodeSelected (some row.zipcode.text)])

theorem done_cases {s : State} {p q : Picker} (hopen : showPicker s p.level = .ok q)
    (hitems : q.items = p.items) : DoneOutcome s p (done s p) := by
  unfold done
  cases hlevel : p.level with
  | province =>
    rw [hlevel] at hopen
    obtain ⟨rows, hrows, htexts⟩ := showPicker_province hopen
    rw [hitems] at htexts
    simp only [doneProvince, hrows, ok_bind]
    cases hrow : elementAt rows p.selectedItem with
    | error e => exact .failed e
    | ok row =>
      obtain ⟨hmem, text, hname, hchosen⟩ := elementAt_chosen htexts hrow
      cases hid : parseField row "id" with
      | error e =>
        simp only [hid]
        exact .failed e
      | ok id =>
        simp only [hid, hname, ok_bind, Dyn.asStringOrNull]
        exact .province hlevel (provinceRows_eq_ok.mp hrows) hmem hid hname hchosen
  | district =>
    rw [hlevel] at hopen
    obtain ⟨rows, hrows, htexts⟩ := showPicker_district hopen
    rw [hitems] at htexts
    simp only [doneDistrict, hrows, ok_bind]
    cases hrow : elementAt rows p.selectedItem with
    | error e => exact .failed e
    | ok row =>
      obtain ⟨hmem, text, hname, hchosen⟩ := elementAt_chosen htexts hrow
      obtain ⟨provinceId, hprovince, hgroup⟩ := group_eq_ok.mp hrows
      have hname : row.nameTh = .str text := Except.ok.inj hname
      simp only [hname, Dyn.asStringOrNull]
      exact .district hlevel hprovince hgroup hmem hname hchosen
  | subdistrict =>
    rw [hlevel] at hopen
    obtain ⟨rows, hrows, htexts⟩ := showPicker_subdistrict hopen
    rw [hitems] at htexts
    simp only [doneSubdistrict, hrows, ok_bind]
    cases hrow : elementAt rows p.selectedItem with
    | error e => exact .failed e
    | ok row =>
      obtain ⟨hmem, text, hname, hchosen⟩ := elementAt_chosen htexts hrow
      obtain ⟨districtId, hdistrict, hgroup⟩ := group_eq_ok.mp hrows
      have hname : row.nameTh = .str text := Except.ok.inj hname
      simp only [hname, Dyn.asStringOrNull]
      exact .subdistrict hlevel hdistrict hgroup hmem hname hchosen

end SmartHome.ThaiAddress
