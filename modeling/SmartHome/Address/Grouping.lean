import SmartHome.Address.Loading

/-!
# The two builders of the tables

`_loadData` groups the districts by a map comprehension, which builds the whole group of a province
again for each of its districts, and compares the province ids as texts; it groups the sub-districts
by a loop, which adds one row at a time to the group under the parsed id. On rows that can be read,
and whose parent ids are written in one way each, both group the rows by the parsed parent ids.

## Main definitions

* `ThaiAddress.insertRows` : the loop, for any kind of rows.
* `ThaiAddress.Parsed` : rows together with what they are read as.
* `ThaiAddress.SameTexts` : parent ids that are equal as integers are equal as texts.

## Main results

* `ThaiAddress.addSubdistricts_eq` : the loop of the sub-districts is `insertRows`.
* `ThaiAddress.builders_group` : both builders group the rows, and on the same rows they agree.
-/

namespace SmartHome.ThaiAddress

open Dart LinkedMap

variable {ρ : Type}

/-- The loop of the sub-districts over rows of any kind, whose parent ids stand under `parent`. -/
def insertRows (parent : String) (read : Dyn → Except Error ρ) :
    List Dyn → LinkedMap Int (List ρ) → LinkedMap Int (List ρ) × Except Error Unit
  | [], table => (table, .ok ())
  | d :: rest, table =>
    match parseField d parent with
    | .error e => (table, .error e)
    | .ok key =>
      match read d with
      | .error e => (ensureGroup table key, .error e)
      | .ok row => insertRows parent read rest ((ensureGroup table key).add key row)

/-- The rows can be read as the entries: parsed parent ids and fields. -/
def Parsed (parent : String) (read : Dyn → Except Error ρ) (rows : List Dyn)
    (entries : List (Int × ρ)) : Prop :=
  List.Forall₂ (fun d entry => parseField d parent = .ok entry.1 ∧ read d = .ok entry.2) rows
    entries

/-- Two parent ids are equal as texts exactly if they parse to the same integer. -/
def SameTexts (parent : String) (rows : List Dyn) : Prop :=
  ∀ d ∈ rows, ∀ d' ∈ rows, d.index parent = d'.index parent ↔
    parseField d parent = parseField d' parent

/-! ### The loop -/

theorem addSubdistricts_eq (rest : List Dyn) (table : LinkedMap Int (List SubdistrictRow)) :
    addSubdistricts rest table = insertRows "amphur_id" subdistrictRow rest table := by
  induction rest generalizing table with
  | nil => rfl
  | cons s rest ih =>
    unfold addSubdistricts insertRows
    cases parseField s "amphur_id" with
    | error e => rfl
    | ok key =>
      cases subdistrictRow s with
      | error e => rfl
      | ok row => exact ih _

theorem add_ensureGroup (table : LinkedMap Int (List ρ)) (key : Int) (row : ρ) :
    (ensureGroup table key).add key row = table.add key row := by
  unfold ensureGroup
  cases hgroup : table.get? key with
  | some rows => simp
  | none => simp [add, hgroup, get?_put, put_put]

/-- On rows that can be read the loop adds them all. -/
theorem insertRows_of_parsed {parent : String} {read : Dyn → Except Error ρ} {rows : List Dyn}
    {entries : List (Int × ρ)} (h : Parsed parent read rows entries)
    (table : LinkedMap Int (List ρ)) :
    insertRows parent read rows table = (table.addAll entries, .ok ()) := by
  induction h generalizing table with
  | nil => rfl
  | cons hhead _ ih =>
    obtain ⟨hparse, hread⟩ := hhead
    simp only [insertRows, hparse, hread]
    rw [ih, add_ensureGroup]
    rfl

/-! ### The comprehension -/

/-- The keys of the comprehension are added as the districts come. -/
theorem keys_buildDistricts {districts rest : List Dyn} {entries : List (Int × DistrictRow)}
    (hrest : Parsed "province_id" districtRow rest entries)
    {table result : LinkedMap Int (List DistrictRow)}
    (h : buildDistricts districts rest table = .ok result) :
    result.keys = (entries.map Prod.fst).foldl addKey table.keys := by
  induction hrest generalizing table with
  | nil =>
    obtain rfl := Except.ok.inj h
    rfl
  | @cons d entry rest entries hhead _ ih =>
    obtain ⟨text, hindex, htext⟩ := parseField_eq_ok.mp hhead.1
    simp only [buildDistricts, hindex, ok_bind, Dyn.asString_str, htext] at h
    obtain ⟨rows, -, hresult⟩ := bind_eq_ok.mp h
    rw [ih hresult, keys_put, List.map_cons, List.foldl_cons]

/-- The districts with a text as their province id are those whose province id parses to the same
integer. -/
theorem districtsUnder_eq {ds : List Dyn} {entries : List (Int × DistrictRow)}
    (h : Parsed "province_id" districtRow ds entries) {text : String} {key : Int}
    (hsame : ∀ d ∈ ds, d.index "province_id" = .ok (.str text) ↔
      parseField d "province_id" = .ok key) :
    districtsUnder ds text = valuesAt entries key := by
  induction h with
  | nil => rfl
  | @cons d entry ds entries hhead _ ih =>
    obtain ⟨own, hindex, -⟩ := parseField_eq_ok.mp hhead.1
    have htail := ih fun d' hd' => hsame d' (List.mem_cons_of_mem d hd')
    have hd := hsame d List.mem_cons_self
    rw [hindex, hhead.1, Except.ok.injEq, Except.ok.injEq, Dyn.str.injEq] at hd
    rw [valuesAt_cons, ← htail]
    by_cases hkey : entry.1 = key
    · obtain rfl := hd.mpr hkey
      simp [districtsUnder, hindex, Dyn.isStr, hkey, hhead.2, Except.toOption]
    · have hown : own ≠ text := fun h => hkey (hd.mp h)
      simp [districtsUnder, hindex, Dyn.isStr, hkey, hown]

/-- Under every key the comprehension has the districts whose province id parses to it. -/
theorem districtTable_eq {ds : List Dyn} {entries : List (Int × DistrictRow)}
    (h : Parsed "province_id" districtRow ds entries) (hsame : SameTexts "province_id" ds)
    (key : Int) :
    districtTable ds key =
      if valuesAt entries key = [] then none else some (valuesAt entries key) := by
  have hnone : valuesAt entries key = [] ↔ ∀ d ∈ ds, parseField d "province_id" ≠ .ok key := by
    clear hsame
    induction h with
    | nil => simp [valuesAt]
    | @cons d entry ds entries hhead _ ih =>
      rw [valuesAt_cons, List.forall_mem_cons, hhead.1]
      by_cases hkey : entry.1 = key <;> simp [hkey, ih]
  rw [districtTable]
  cases hfind : ds.reverse.findSome? (parentText key) with
  | none =>
    rw [if_pos, Option.map_none]
    refine hnone.mpr fun d hd hparse => ?_
    obtain ⟨text, hindex, htext⟩ := parseField_eq_ok.mp hparse
    have hskip := List.findSome?_eq_none_iff.mp hfind d (List.mem_reverse.mpr hd)
    simp [parentText, hindex, htext] at hskip
  | some text =>
    obtain ⟨d, hd, htext⟩ := List.exists_of_findSome?_eq_some hfind
    have hd : d ∈ ds := List.mem_reverse.mp hd
    -- the text is the province id of some district, and parses to the key
    obtain ⟨hindex, hparse⟩ : d.index "province_id" = .ok (.str text) ∧
        parseField d "province_id" = .ok key := by
      unfold parentText at htext
      split at htext
      · rename_i own hown
        split at htext
        · obtain rfl := Option.some.inj htext
          exact ⟨hown, parseField_eq_ok.mpr ⟨own, hown, ‹_›⟩⟩
        · cases htext
      · cases htext
    rw [if_neg fun hnil => hnone.mp hnil d hd hparse, Option.map_some,
      districtsUnder_eq h fun d' hd' => ?_]
    rw [← hindex, ← hparse]
    exact hsame d' hd' d hd

/-! ### The two builders -/

/-- Rows that can be read are read as entries. -/
theorem exists_parsed {parent : String} {read : Dyn → Except Error ρ} {rows : List Dyn}
    (h : ∀ d ∈ rows, (∃ key, parseField d parent = .ok key) ∧ ∃ row, read d = .ok row) :
    ∃ entries, Parsed parent read rows entries := by
  induction rows with
  | nil => exact ⟨[], .nil⟩
  | cons d rows ih =>
    obtain ⟨entries, htail⟩ := ih fun d' hd' => h d' (List.mem_cons_of_mem d hd')
    obtain ⟨⟨key, hkey⟩, row, hrow⟩ := h d List.mem_cons_self
    exact ⟨(key, row) :: entries, .cons ⟨hkey, hrow⟩ htail⟩

/-- **The two builders.** On districts and sub-districts that can all be read, with every province
id written in one way: both builders succeed, each groups its rows by their parsed parent ids, and
on the districts the loop of the sub-districts builds the same table as the comprehension. -/
theorem builders_group {ds ss : List Dyn} (hds : ∀ d ∈ ds, districtReadable d = true)
    (hss : ∀ s ∈ ss, subdistrictReadable s = true) (hsame : SameTexts "province_id" ds) :
    (∃ entries table, Parsed "province_id" districtRow ds entries ∧
      buildDistricts ds ds [] = .ok table ∧ Groups entries table ∧
      insertRows "province_id" districtRow ds [] = (table, .ok ())) ∧
    ∃ entries table, Parsed "amphur_id" subdistrictRow ss entries ∧
      addSubdistricts ss [] = (table, .ok ()) ∧ Groups entries table ∧
      insertRows "amphur_id" subdistrictRow ss [] = (table, .ok ()) := by
  constructor
  · obtain ⟨entries, hparsed⟩ := exists_parsed fun d hd => districtReadable_iff.mp (hds d hd)
    obtain ⟨table, hbuild, hget⟩ := buildDistricts_of_readable hds (fun _ hd => hd)
      ([] : LinkedMap Int (List DistrictRow))
    have hgroups := groups_addAll entries
    have htable : table = addAll [] entries := by
      have hkeys : keys table = keys (addAll [] entries) := by
        rw [keys_buildDistricts hparsed hbuild, keys_addAll]
      refine ext_of_get? (hkeys ▸ hgroups.nodup) hkeys fun key => ?_
      rw [hget key, get?_addAll, ← districtTable, districtTable_eq hparsed hsame]
      by_cases hnil : valuesAt entries key = [] <;> simp [hnil, LinkedMap.get?]
    subst htable
    exact ⟨entries, _, hparsed, hbuild, hgroups, insertRows_of_parsed hparsed []⟩
  · obtain ⟨entries, hparsed⟩ := exists_parsed fun s hs => subdistrictReadable_iff.mp (hss s hs)
    have hinsert := insertRows_of_parsed hparsed []
    exact ⟨entries, _, hparsed, (addSubdistricts_eq ss []).trans hinsert, groups_addAll entries,
      hinsert⟩

/-- A district with its id and the id of its province. -/
def districtJson (id province : String) : Dyn :=
  .map [("id", .str id), ("name_th", .str id), ("province_id", .str province)]

/-- Three districts of two provinces, not in the order of the provinces. -/
def threeDistricts : List Dyn :=
  [districtJson "11" "1", districtJson "21" "2", districtJson "12" "1"]

/-- Their table. -/
def threeGrouped : LinkedMap Int (List DistrictRow) :=
  [(1, [⟨11, .str "11"⟩, ⟨12, .str "12"⟩]), (2, [⟨21, .str "21"⟩])]

/-- A sub-district with its id, the id of its district and its postal code. -/
def subdistrictJson (id district : String) (zipcode : Int) : Dyn :=
  .map [("id", .str id), ("name_th", .str id), ("amphur_id", .str district),
    ("zipcode", .int zipcode)]

/-- Two sub-districts of a district, with one of another district between them. -/
def threeSubdistricts : List Dyn :=
  [subdistrictJson "111" "11" 10200, subdistrictJson "211" "21" 20000,
    subdistrictJson "112" "11" 10300]

/-- Their table. -/
def threeSubGrouped : LinkedMap Int (List SubdistrictRow) :=
  [(11, [⟨111, .str "111", .int 10200⟩, ⟨112, .str "112", .int 10300⟩]),
    (21, [⟨211, .str "211", .int 20000⟩])]

/-- The tables of three districts and three sub-districts. -/
theorem builders_group_three :
    (∃ entries, Parsed "province_id" districtRow threeDistricts entries ∧
      buildDistricts threeDistricts threeDistricts [] = .ok threeGrouped ∧
      Groups entries threeGrouped ∧
      insertRows "province_id" districtRow threeDistricts [] = (threeGrouped, .ok ())) ∧
    ∃ entries, Parsed "amphur_id" subdistrictRow threeSubdistricts entries ∧
      addSubdistricts threeSubdistricts [] = (threeSubGrouped, .ok ()) ∧
      Groups entries threeSubGrouped ∧
      insertRows "amphur_id" subdistrictRow threeSubdistricts [] = (threeSubGrouped, .ok ()) := by
  have hsame : SameTexts "province_id" threeDistricts := by
    have h1 (id : String) : parseField (districtJson id "1") "province_id" = .ok 1 := rfl
    have h2 (id : String) : parseField (districtJson id "2") "province_id" = .ok 2 := rfl
    have hindex (id province : String) :
        (districtJson id province).index "province_id" = .ok (.str province) := rfl
    simp [SameTexts, threeDistricts, h1, h2, hindex]
  obtain ⟨⟨entries, table, hparsed, hbuild, hgroups, hinsert⟩, entries', table', hparsed', hadd,
    hgroups', hinsert'⟩ :=
      @builders_group threeDistricts threeSubdistricts (by decide) (by decide) hsame
  have htable : buildDistricts threeDistricts threeDistricts [] = .ok threeGrouped := rfl
  have htable' : addSubdistricts threeSubdistricts [] = (threeSubGrouped, .ok ()) := rfl
  obtain rfl := Except.ok.inj (htable.symm.trans hbuild)
  obtain rfl := congrArg Prod.fst (htable'.symm.trans hadd)
  exact ⟨⟨entries, hparsed, hbuild, hgroups, hinsert⟩, entries', hparsed', hadd, hgroups', hinsert'⟩

end SmartHome.ThaiAddress
