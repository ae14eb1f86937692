import Mathlib.Data.List.TakeWhile
import SmartHome.Address.ThaiAddress

/-!
# The tables that loading leaves

`_loadData` reads and decodes the three files before it assigns anything, and then fills the tables
one after another in a single `setState`. A row that cannot be read ends the loading where it
stands: what has been assigned stays, and the exception is caught.

The tables are described here by what they hold under each key, without reference to the loops that
build them.

## Main definitions

* `ThaiAddress.districtReadable`, `ThaiAddress.subdistrictReadable` : the rows on which no lookup,
  cast or `int.parse` throws.
* `ThaiAddress.districtTable`, `ThaiAddress.subdistrictTable` : the rows under a key.
* `ThaiAddress.Loaded` : what a call of `_loadData` leaves.
* `ThaiAddress.StopsWhereThrown` : how far the tables have come, by where something throws.

## Main results

* `ThaiAddress.loaded_loadData` : every call leaves one of the three outcomes of `Loaded`.
* `ThaiAddress.stopsWhereThrown_loadData` : every call leaves the tables up to the first throw.
-/

namespace SmartHome.ThaiAddress

open Dart

/-! ### Districts -/

/-- No lookup, cast or `int.parse` on the district throws. -/
def districtReadable (d : Dyn) : Bool :=
  (parseField d "province_id").isOk && (districtRow d).isOk

/-- The districts with the given text as their `province_id`. -/
def districtsUnder (districts : List Dyn) (parent : String) : List DistrictRow :=
  districts.filterMap fun d =>
    match d.index "province_id" with
    | .ok provinceId => if provinceId.isStr parent then (districtRow d).toOption else none
    | .error _ => none

/-- The text of the `province_id` of a district, if it parses to `key`. -/
def parentText (key : Int) (d : Dyn) : Option String :=
  match d.index "province_id" with
  | .ok (.str parent) => if intParse parent = .ok key then some parent else none
  | _ => none

/-- The rows under a key in the complete table of the districts. Where several texts parse to the
same key, the last one in the file counts. -/
def districtTable (districts : List Dyn) (key : Int) : Option (List DistrictRow) :=
  (districts.reverse.findSome? (parentText key)).map (districtsUnder districts)

theorem isOk_iff {α : Type} {x : Except Error α} : x.isOk = true ↔ ∃ a, x = .ok a := by
  cases x <;> simp [Except.isOk, Except.toBool]

theorem districtReadable_iff {d : Dyn} :
    districtReadable d = true ↔
      (∃ key, parseField d "province_id" = .ok key) ∧ ∃ row, districtRow d = .ok row := by
  rw [districtReadable, Bool.and_eq_true, isOk_iff, isOk_iff]

theorem parseField_eq_ok {row : Dyn} {field : String} {key : Int} :
    parseField row field = .ok key ↔
      ∃ text, row.index field = .ok (.str text) ∧ intParse text = .ok key := by
  constructor
  · intro h
    obtain ⟨v, hv, h⟩ := bind_eq_ok.mp h
    obtain ⟨text, htext, h⟩ := bind_eq_ok.mp h
    exact ⟨text, Dyn.asString_eq_ok.mp htext ▸ hv, h⟩
  · rintro ⟨text, hindex, hparse⟩
    rw [parseField, hindex, ok_bind]
    exact hparse

/-- The inner loop, on districts that can all be read. -/
theorem districtGroup_of_readable {parent : String} {ds : List Dyn}
    (hds : ∀ d ∈ ds, districtReadable d = true) :
    districtGroup parent ds = .ok (districtsUnder ds parent) := by
  induction ds with
  | nil => rfl
  | cons d ds ih =>
    have htail := ih fun d' hd' => hds d' (List.mem_cons_of_mem d hd')
    obtain ⟨⟨key, hkey⟩, row, hrow⟩ := districtReadable_iff.mp (hds d List.mem_cons_self)
    obtain ⟨text, hindex, -⟩ := parseField_eq_ok.mp hkey
    cases hsame : (Dyn.str text).isStr parent with
    | true =>
      simp [districtGroup, districtsUnder, hindex, hsame, hrow, htail, Except.toOption, pure,
        Except.pure]
    | false => simp [districtGroup, districtsUnder, hindex, hsame, htail]

/-- If the inner loop completes, it has read every district under its parent. -/
theorem mem_districtGroup {parent : String} {ds : List Dyn} {rows : List DistrictRow}
    (h : districtGroup parent ds = .ok rows) {d : Dyn} (hd : d ∈ ds)
    (hparent : d.index "province_id" = .ok (.str parent)) :
    ∃ row, districtRow d = .ok row := by
  induction ds generalizing rows with
  | nil => cases hd
  | cons head ds ih =>
    obtain ⟨provinceId, hindex, h⟩ := bind_eq_ok.mp h
    split at h
    · obtain ⟨row, hrow, h⟩ := bind_eq_ok.mp h
      obtain ⟨tail, htail, -⟩ := bind_eq_ok.mp h
      rcases List.mem_cons.mp hd with rfl | hd
      · exact ⟨row, hrow⟩
      · exact ih htail hd
    · rename_i hother
      rcases List.mem_cons.mp hd with rfl | hd
      · obtain rfl := Except.ok.inj (hparent.symm.trans hindex)
        exact absurd (Dyn.isStr_iff.mpr rfl) hother
      · exact ih h hd

/-- The comprehension throws if some district cannot be read. -/
theorem readable_of_buildDistricts {districts rest : List Dyn}
    {table result : LinkedMap Int (List DistrictRow)} (hrest : ∀ d ∈ rest, d ∈ districts)
    (h : buildDistricts districts rest table = .ok result) :
    ∀ d ∈ rest, districtReadable d = true := by
  induction rest generalizing table with
  | nil => exact fun d hd => nomatch hd
  | cons head rest ih =>
    obtain ⟨provinceId, hprovinceId, h⟩ := bind_eq_ok.mp h
    obtain ⟨parent, hparent, h⟩ := bind_eq_ok.mp h
    obtain ⟨key, hkey, h⟩ := bind_eq_ok.mp h
    obtain ⟨rows, hrows, h⟩ := bind_eq_ok.mp h
    have hindex : head.index "province_id" = .ok (.str parent) :=
      Dyn.asString_eq_ok.mp hparent ▸ hprovinceId
    intro d hd
    rcases List.mem_cons.mp hd with rfl | hd
    · exact districtReadable_iff.mpr ⟨⟨key, parseField_eq_ok.mpr ⟨parent, hindex, hkey⟩⟩,
        mem_districtGroup hrows (hrest d List.mem_cons_self) hindex⟩
    · exact ih (fun d' hd' => hrest d' (List.mem_cons_of_mem head hd')) h d hd

/-- The comprehension over the districts still to come, where all districts can be read. -/
theorem buildDistricts_of_readable {districts rest : List Dyn}
    (hdistricts : ∀ d ∈ districts, districtReadable d = true)
    (hrest : ∀ d ∈ rest, d ∈ districts) (table : LinkedMap Int (List DistrictRow)) :
    ∃ result, buildDistricts districts rest table = .ok result ∧
      ∀ key, result.get? key =
        ((rest.reverse.findSome? (parentText key)).map (districtsUnder districts)).or
          (table.get? key) := by
  induction rest generalizing table with
  | nil => exact ⟨table, rfl, fun key => rfl⟩
  | cons d rest ih =>
    obtain ⟨⟨parentId, hparse⟩, -⟩ :=
      districtReadable_iff.mp (hdistricts d (hrest d List.mem_cons_self))
    obtain ⟨text, hindex, htext⟩ := parseField_eq_ok.mp hparse
    obtain ⟨result, hresult, hget⟩ := ih (fun d' hd' => hrest d' (List.mem_cons_of_mem d hd'))
      (table.put parentId (districtsUnder districts text))
    refine ⟨result, ?_, fun key => ?_⟩
    · rw [buildDistricts, hindex, ok_bind, Dyn.asString_str, ok_bind, htext, ok_bind,
        districtGroup_of_readable hdistricts, ok_bind, hresult]
    · have hhead : parentText key d = if parentId = key then some text else none := by
        simp only [parentText, hindex, htext, Except.ok.injEq]
      rw [hget key, LinkedMap.get?_put, List.reverse_cons, List.findSome?_append,
        List.findSome?_singleton, hhead]
      cases rest.reverse.findSome? (parentText key) <;> by_cases hkey : parentId = key <;>
        simp [hkey]

/-! ### Sub-districts -/

/-- No lookup, cast or `int.parse` on the sub-district throws. -/
def subdistrictReadable (s : Dyn) : Bool :=
  (parseField s "amphur_id").isOk && (subdistrictRow s).isOk

theorem subdistrictReadable_iff {s : Dyn} :
    subdistrictReadable s = true ↔
      (∃ key, parseField s "amphur_id" = .ok key) ∧ ∃ row, subdistrictRow s = .ok row := by
  rw [subdistrictReadable, Bool.and_eq_true, isOk_iff, isOk_iff]

/-- The sub-districts whose `amphur_id` parses to `key`. -/
def subdistrictsUnder (subdistricts : List Dyn) (key : Int) : List SubdistrictRow :=
  subdistricts.filterMap fun s =>
    if parseField s "amphur_id" = .ok key then (subdistrictRow s).toOption else none

/-- The parsed `amphur_id` of the first sub-district that cannot be read, if that much of it can. -/
def brokenParent (subdistricts : List Dyn) : Option Int :=
  (subdistricts.find? fun s => !subdistrictReadable s).bind fun s =>
    (parseField s "amphur_id").toOption

/-- The rows under a key in the table of the sub-districts before the first one that cannot be read.
The group of that one is there even if it is empty. -/
def subdistrictTable (subdistricts : List Dyn) (key : Int) : Option (List SubdistrictRow) :=
  let rows := subdistrictsUnder (subdistricts.takeWhile subdistrictReadable) key
  if rows.isEmpty ∧ brokenParent subdistricts ≠ some key then none else some rows

theorem ensureGroup_get? (table : LinkedMap Int (List SubdistrictRow)) (amphurId key : Int) :
    (ensureGroup table amphurId).get? key =
      if amphurId = key then some ((table.get? amphurId).getD []) else table.get? key := by
  unfold ensureGroup
  cases hgroup : table.get? amphurId with
  | none => simp [LinkedMap.get?_put]
  | some rows =>
    by_cases hkey : amphurId = key
    · subst hkey
      simp [hgroup]
    · simp [hkey]

theorem addSubdistricts_get? (rest : List Dyn) (table : LinkedMap Int (List SubdistrictRow))
    (key : Int) :
    (addSubdistricts rest table).1.get? key =
      match table.get? key with
      | some rows => some (rows ++ subdistrictsUnder (rest.takeWhile subdistrictReadable) key)
      | none => subdistrictTable rest key := by
  induction rest generalizing table with
  | nil =>
    cases hgroup : table.get? key <;>
      simp [addSubdistricts, hgroup, subdistrictsUnder, subdistrictTable, brokenParent]
  | cons s rest ih =>
    unfold addSubdistricts
    cases hparse : parseField s "amphur_id" with
    | error e =>
      have hs : subdistrictReadable s = false := by simp [subdistrictReadable, hparse, Except.isOk,
        Except.toBool]
      cases table.get? key <;>
        simp [hs, subdistrictsUnder, subdistrictTable, brokenParent, hparse, Except.toOption]
    | ok amphurId =>
      cases hrow : subdistrictRow s with
      | error e =>
        have hs : subdistrictReadable s = false := by simp [subdistrictReadable, hrow, Except.isOk,
          Except.toBool]
        simp only [ensureGroup_get?]
        by_cases hkey : amphurId = key
        · subst hkey
          cases hgroup : table.get? amphurId <;>
            simp [hs, subdistrictsUnder, subdistrictTable, brokenParent, hparse, Except.toOption]
        · cases hgroup : table.get? key <;>
            simp [hkey, hs, subdistrictsUnder, subdistrictTable, brokenParent, hparse,
              Except.toOption]
      | ok row =>
        have hs : subdistrictReadable s = true := by
          simp [subdistrictReadable, hparse, hrow, Except.isOk, Except.toBool]
        simp only [ih, LinkedMap.get?_put, ensureGroup_get?]
        by_cases hkey : amphurId = key
        · subst hkey
          cases hgroup : table.get? amphurId <;>
            simp [hs, subdistrictsUnder, subdistrictTable, hparse, hrow, Except.toOption]
        · cases hgroup : table.get? key <;>
            simp [hkey, hs, subdistrictsUnder, subdistrictTable, brokenParent, hparse]

/-! ### A call of `_loadData` -/

/-- What a call of `_loadData` leaves: nothing changed if a file cannot be read or decoded; only the
provinces if a district cannot be read; and otherwise the complete tables of the provinces and the
districts, with the sub-districts up to the first one that cannot be read. -/
inductive Loaded (assets : Assets) (s : State) : State → Prop
  | unread (e : Error) (hdecoded : decoded assets = .error e) : Loaded assets s s
  | provinces {ps ds ss : List Dyn} (hdecoded : decoded assets = .ok (ps, ds, ss))
      (hbroken : ∃ d ∈ ds, districtReadable d = false) :
      Loaded assets s { s with provinces := some ps }
  | tables {ps ds ss : List Dyn} (hdecoded : decoded assets = .ok (ps, ds, ss))
      (hreadable : ∀ d ∈ ds, districtReadable d = true)
      {districts : LinkedMap Int (List DistrictRow)}
      {subdistricts : LinkedMap Int (List SubdistrictRow)}
      (hdistricts : ∀ key, districts.get? key = districtTable ds key)
      (hsubdistricts : ∀ key, subdistricts.get? key = subdistrictTable ss key) :
      Loaded assets s { s with provinces := some ps, districts, subdistricts }

/-- Whatever the files contain, a call of `_loadData` on any state leaves one of the outcomes of
`Loaded`. -/
theorem loaded_loadData (assets : Assets) (s : State) : Loaded assets s (loadData assets s) := by
  unfold loadData
  cases hdecoded : decoded assets with
  | error e => exact .unread e hdecoded
  | ok lists =>
    obtain ⟨ps, ds, ss⟩ := lists
    by_cases hreadable : ∀ d ∈ ds, districtReadable d = true
    · obtain ⟨table, hbuild, hget⟩ :=
        buildDistricts_of_readable hreadable (fun _ hd => hd) ([] : LinkedMap Int _)
      simp only [hbuild]
      exact .tables hdecoded hreadable (fun key => (hget key).trans (Option.or_none))
        (addSubdistricts_get? ss [])
    · have hbroken : ∃ d ∈ ds, districtReadable d = false := by simpa using hreadable
      cases hbuild : buildDistricts ds ds [] with
      | error e =>
        simp only [hbuild]
        exact .provinces hdecoded hbroken
      | ok table =>
        exact absurd (readable_of_buildDistricts (fun _ hd => hd) hbuild) hreadable

/-- How far a call of `_loadData` on `s` has come in `t`, by where something throws. -/
structure StopsWhereThrown (assets : Assets) (s t : State) : Prop where
  /-- A read, a decode or a cast to a list throws: nothing has changed. -/
  unread : ∀ e, decoded assets = .error e → t = s
  /-- Something throws on a district: only the provinces are new. -/
  atDistrict : ∀ ps ds ss, decoded assets = .ok (ps, ds, ss) →
    (∃ d ∈ ds, districtReadable d = false) → t = { s with provinces := some ps }
  /-- Nothing throws on a district: the sub-districts are those before the first one on which
  something throws. -/
  atSubdistrict : ∀ ps ds ss, decoded assets = .ok (ps, ds, ss) →
    (∀ d ∈ ds, districtReadable d = true) → t.provinces = some ps ∧
      (∀ key, t.districts.get? key = districtTable ds key) ∧
      ∀ key, t.subdistricts.get? key = subdistrictTable ss key
  /-- Nothing throws on a sub-district either: every sub-district is under its key. -/
  complete : ∀ ps ds ss, decoded assets = .ok (ps, ds, ss) →
    (∀ d ∈ ds, districtReadable d = true) → (∀ s' ∈ ss, subdistrictReadable s' = true) →
    ∀ key, t.subdistricts.get? key =
      if subdistrictsUnder ss key = [] then none else some (subdistrictsUnder ss key)
  /-- The selection is never touched. -/
  selection : t = { s with
    provinces := t.provinces
    districts := t.districts
    subdistricts := t.subdistricts }

/-- Where every sub-district can be read, the table misses none of them. -/
theorem subdistrictTable_of_readable {subdistricts : List Dyn}
    (h : ∀ s ∈ subdistricts, subdistrictReadable s = true) (key : Int) :
    subdistrictTable subdistricts key =
      if subdistrictsUnder subdistricts key = [] then none
      else some (subdistrictsUnder subdistricts key) := by
  have hall : subdistricts.takeWhile subdistrictReadable = subdistricts :=
    List.takeWhile_eq_self_iff.mpr h
  have hbroken : brokenParent subdistricts = none := by
    have hfind : subdistricts.find? (fun s => !subdistrictReadable s) = none :=
      List.find?_eq_none.mpr fun s hs => by simp [h s hs]
    rw [brokenParent, hfind, Option.bind_none]
  simp [subdistrictTable, hall, hbroken]

/-- **The tables after loading.** Whatever the files contain, a call of `_loadData` on any state
leaves the tables as far as they have come where something throws, and complete tables where nothing
does. -/
theorem stopsWhereThrown_loadData (assets : Assets) (s : State) :
    StopsWhereThrown assets s (loadData assets s) := by
  have hloaded := loaded_loadData assets s
  generalize loadData assets s = t at hloaded
  cases hloaded with
  | unread e hdecoded =>
    refine ⟨fun _ _ => rfl, ?_, ?_, ?_, rfl⟩ <;>
      exact fun ps ds ss h => nomatch hdecoded.symm.trans h
  | provinces hdecoded hbroken =>
    refine ⟨fun e h => (nomatch hdecoded.symm.trans h), ?_, ?_, ?_, rfl⟩
    · rintro ps ds ss h -
      cases hdecoded.symm.trans h
      rfl
    all_goals
      intro ps ds ss h hreadable
      cases hdecoded.symm.trans h
      obtain ⟨d, hd, hbroken⟩ := hbroken
      exact absurd (hreadable d hd) (by simp [hbroken])
  | tables hdecoded hreadable hdistricts hsubdistricts =>
    refine ⟨fun e h => (nomatch hdecoded.symm.trans h), ?_, ?_, ?_, rfl⟩
    · rintro ps ds ss h ⟨d, hd, hbroken⟩
      cases hdecoded.symm.trans h
      exact absurd (hreadable d hd) (by simp [hbroken])
    · intro ps ds ss h _
      cases hdecoded.symm.trans h
      exact ⟨rfl, hdistricts, hsubdistricts⟩
    · intro ps ds ss h _ hss key
      cases hdecoded.symm.trans h
      exact (hsubdistricts key).trans (subdistrictTable_of_readable hss key)

/-- Some read, decode, cast, lookup or `int.parse` of a call of `_loadData` throws. -/
def Throws (assets : Assets) : Prop :=
  match decoded assets with
  | .error _ => True
  | .ok (_, ds, ss) =>
    (∃ d ∈ ds, districtReadable d = false) ∨ ∃ s ∈ ss, subdistrictReadable s = false

/-- All or nothing: the three tables are as before if something throws, and complete otherwise. -/
def AllOrNothing (assets : Assets) (s t : State) : Prop :=
  (Throws assets → t.provinces = s.provinces ∧ t.districts = s.districts ∧
    t.subdistricts = s.subdistricts) ∧
  (¬ Throws assets → ∃ ps ds ss, decoded assets = .ok (ps, ds, ss) ∧ t.provinces = some ps ∧
    (∀ key, t.districts.get? key = districtTable ds key) ∧
    ∀ key, t.subdistricts.get? key = subdistrictTable ss key)

/-- A province, and a district whose id is not a number. -/
def brokenDistrict : Assets :=
  { provinces := .ok (.list [.map [("id", .str "1"), ("name_th", .str "P")]])
    districts := .ok (.list [.map [("id", .str "x"), ("name_th", .str "D"),
      ("province_id", .str "1")]])
    subdistricts := .ok (.list []) }

/-- A district that cannot be read leaves the new provinces beside the old districts. -/
theorem loading_stops_after_provinces :
    (loadData brokenDistrict .initial).provinces =
        some [.map [("id", .str "1"), ("name_th", .str "P")]] ∧
      (loadData brokenDistrict .initial).districts = [] ∧
      ¬ AllOrNothing brokenDistrict .initial (loadData brokenDistrict .initial) := by
  refine ⟨rfl, rfl, fun h => ?_⟩
  have hthrows : Throws brokenDistrict := Or.inl ⟨_, List.mem_cons_self, rfl⟩
  exact absurd (h.1 hthrows).1 (Option.some_ne_none _)

end SmartHome.ThaiAddress
