import SmartHome.Address.Grouping
import SmartHome.Address.PickerSafety
import SmartHome.Lib.Cascade
import SmartHome.Lib.DartJson

/-!
# The places in the address files

The three files list provinces, districts and sub-districts. A district names its province, and a
sub-district its district, by the id; ids are written as decimal texts, and the postal code of a
sub-district as a number. A place may be listed twice. Rows may have further members.

The places form a hierarchy of three levels. Loading the files leaves tables from which the rows
below every place can be read.

## Main definitions

* `ThaiAddress.Gazetteer` : the places, with what the widget relies on.
* `ThaiAddress.Gazetteer.hierarchy` : what lies below a place.
* `ThaiAddress.Gazetteer.Files` : the texts of the files list the places.
* `ThaiAddress.Gazetteer.Loaded` : the tables hold the places.

## Main results

* `ThaiAddress.Gazetteer.Files.loaded` : loading the files leaves such tables.
-/

namespace SmartHome.ThaiAddress

open Dart LinkedMap
open Utf16 (ofString)

/-! ### Places -/

/-- A province, district or sub-district. Only sub-districts have a postal code. -/
structure Place where
  id : Int
  nameTh : String
  zipcode : Option Int
  deriving DecidableEq

/-- An integer that `int.parse` reads. -/
def IsInt64 (z : Int) : Prop := -2 ^ 63 ≤ z ∧ z < 2 ^ 63

/-- The places of the three files, districts and sub-districts each with the id of their parent.
Every province has a district and every district a sub-district, and among the places of one parent
an id stands for one place. The field of a level is hidden if the id above it is zero. -/
structure Gazetteer where
  provinces : List Place
  districts : List (Int × Place)
  subdistricts : List (Int × Place)
  provinces_ne_nil : provinces ≠ []
  exists_district : ∀ p ∈ provinces, ∃ d, (p.id, d) ∈ districts
  exists_subdistrict : ∀ d ∈ districts, ∃ s, (d.2.id, s) ∈ subdistricts
  province_ext : ∀ p ∈ provinces, ∀ q ∈ provinces, p.id = q.id → p = q
  district_ext : ∀ d ∈ districts, ∀ e ∈ districts, d.1 = e.1 → d.2.id = e.2.id → d.2 = e.2
  subdistrict_ext : ∀ s ∈ subdistricts, ∀ t ∈ subdistricts, s.1 = t.1 → s.2.id = t.2.id →
    s.2 = t.2
  province_id : ∀ p ∈ provinces, IsInt64 p.id ∧ p.id ≠ 0
  district_id : ∀ d ∈ districts, IsInt64 d.1 ∧ IsInt64 d.2.id ∧ d.2.id ≠ 0
  subdistrict_id : ∀ s ∈ subdistricts, IsInt64 s.1 ∧ IsInt64 s.2.id
  zipcode : ∀ s ∈ subdistricts, ∃ z, s.2.zipcode = some z ∧ IsInt64 z

namespace Gazetteer

variable (g : Gazetteer)

/-- The places below a path from the top. -/
def below : List Place → List Place
  | [] => g.provinces
  | [province] => valuesAt g.districts province.id
  | [_, district] => valuesAt g.subdistricts district.id
  | _ => []

theorem below_ne_nil {path : List Place} (hpath : Cascade.Path g.below path)
    (hlength : path.length < 3) : g.below path ≠ [] := by
  match path with
  | [] => exact g.provinces_ne_nil
  | [province] =>
    have hmem : province ∈ g.provinces := hpath.mem (n := 0) rfl
    obtain ⟨d, hd⟩ := g.exists_district province hmem
    exact List.ne_nil_of_mem (mem_valuesAt.mpr hd)
  | [province, district] =>
    have hmem : district ∈ valuesAt g.districts province.id := hpath.mem (n := 1) rfl
    obtain ⟨s, hs⟩ := g.exists_subdistrict (province.id, district) (mem_valuesAt.mp hmem)
    exact List.ne_nil_of_mem (mem_valuesAt.mpr hs)
  | _ :: _ :: _ :: _ => exact absurd hlength (by simp)

/-- Provinces, their districts, and the sub-districts of these. -/
def hierarchy : Cascade.Hierarchy Place where
  depth := 3
  options := g.below
  options_ne_nil := fun _ => g.below_ne_nil

/-- Among the places below a path an id stands for one place. -/
theorem below_ext (path : List Place) {x y : Place} (hx : x ∈ g.below path)
    (hy : y ∈ g.below path) (hid : x.id = y.id) : x = y := by
  match path with
  | [] => exact g.province_ext x hx y hy hid
  | [_] => exact g.district_ext _ (mem_valuesAt.mp hx) _ (mem_valuesAt.mp hy) rfl hid
  | [_, _] => exact g.subdistrict_ext _ (mem_valuesAt.mp hx) _ (mem_valuesAt.mp hy) rfl hid
  | _ :: _ :: _ :: _ => exact absurd hx List.not_mem_nil

/-- The ids below a path can be read. -/
theorem isInt64_below (path : List Place) {x : Place} (hx : x ∈ g.below path) :
    IsInt64 x.id := by
  match path with
  | [] => exact (g.province_id x hx).1
  | [_] => exact (g.district_id _ (mem_valuesAt.mp hx)).2.1
  | [_, _] => exact (g.subdistrict_id _ (mem_valuesAt.mp hx)).2
  | _ :: _ :: _ :: _ => exact absurd hx List.not_mem_nil

end Gazetteer

/-! ### The files -/

/-- The texts of the three files. -/
structure Texts where
  provinces : List UInt16
  districts : List UInt16
  subdistricts : List UInt16

/-- The object lists the place. -/
structure Written (v : Json.Value) (place : Place) : Prop where
  id : member v "id" = some (.str (ofString (toString place.id)))
  nameTh : member v "name_th" = some (.str (ofString place.nameTh))

/-- The object lists the place under its parent. -/
structure WrittenUnder (parent : String) (v : Json.Value) (entry : Int × Place) : Prop
    extends Written v entry.2 where
  parent : member v parent = some (.str (ofString (toString entry.1)))

/-- The object lists the sub-district under its district. -/
structure WrittenSubdistrict (v : Json.Value) (entry : Int × Place) : Prop
    extends WrittenUnder "amphur_id" v entry where
  zipcode : ∃ n z, member v "zipcode" = some (.num n) ∧ entry.2.zipcode = some z ∧
    n.text = ofString (toString z)

/-- The text is an array with one object for each of the places. -/
def Lists {α : Type} (R : Json.Value → α → Prop) (text : List UInt16) (places : List α) : Prop :=
  ∃ vs, Json.decode text = some (.array vs) ∧ List.Forall₂ R vs places

/-- The texts list the places. -/
structure Gazetteer.Files (g : Gazetteer) (texts : Texts) : Prop where
  provinces : Lists Written texts.provinces g.provinces
  districts : Lists (WrittenUnder "province_id") texts.districts g.districts
  subdistricts : Lists WrittenSubdistrict texts.subdistricts g.subdistricts

/-- What `_loadData` gets from the texts. -/
structure Texts.Decoded (doubleText : List UInt16 → String) (texts : Texts) (assets : Assets) :
    Prop where
  provinces : jsonDecode doubleText texts.provinces = some assets.provinces
  districts : jsonDecode doubleText texts.districts = some assets.districts
  subdistricts : jsonDecode doubleText texts.subdistricts = some assets.subdistricts

/-! ### Rows -/

/-- A row of a place. -/
structure RowOf (row : Dyn) (place : Place) : Prop where
  id : Canonical row "id" place.id
  nameTh : row.index "name_th" = .ok (.str place.nameTh)

/-- A row of a place under its parent. -/
structure RowUnder (parent : String) (row : Dyn) (entry : Int × Place) : Prop
    extends RowOf row entry.2 where
  parent : Canonical row parent entry.1

/-- A row of a sub-district under its district. -/
structure SubdistrictRowOf (row : Dyn) (entry : Int × Place) : Prop
    extends RowUnder "amphur_id" row entry where
  zipcode : ∃ z, entry.2.zipcode = some z ∧ (IsInt64 z → row.index "zipcode" = .ok (.int z))

/-- The row that the table of the districts has for a place. -/
def Place.districtRow (place : Place) : DistrictRow := ⟨place.id, .str place.nameTh⟩

/-- The row that the table of the sub-districts has for a place. -/
def Place.subdistrictRow (place : Place) : SubdistrictRow :=
  ⟨place.id, .str place.nameTh, place.zipcode.elim .null .int⟩

section

variable {doubleText : List UInt16 → String} {v : Json.Value} {d : Dyn}

theorem Written.rowOf {place : Place} (h : Written v place) (hd : dyn? doubleText v = some d) :
    RowOf d place :=
  ⟨index_eq_ok hd h.id (dyn?_str _), index_eq_ok hd h.nameTh (dyn?_str _)⟩

theorem WrittenUnder.rowUnder {parent : String} {entry : Int × Place}
    (h : WrittenUnder parent v entry) (hd : dyn? doubleText v = some d) :
    RowUnder parent d entry :=
  ⟨h.toWritten.rowOf hd, index_eq_ok hd h.parent (dyn?_str _)⟩

theorem WrittenSubdistrict.rowOf {entry : Int × Place} (h : WrittenSubdistrict v entry)
    (hd : dyn? doubleText v = some d) : SubdistrictRowOf d entry := by
  obtain ⟨n, z, hmember, hz, htext⟩ := h.zipcode
  refine ⟨h.toWrittenUnder.rowUnder hd, z, hz, fun hint => index_eq_ok hd hmember ?_⟩
  rw [dyn?, number_of_int htext hint.1 hint.2]

/-- The decoded text is the list of the rows of the places. -/
theorem Lists.decoded {α : Type} {R : Json.Value → α → Prop} {S : Dyn → α → Prop}
    {text : List UInt16} {places : List α} {asset : Except Error Dyn} (h : Lists R text places)
    (hRS : ∀ v d a, dyn? doubleText v = some d → R v a → S d a)
    (hasset : jsonDecode doubleText text = some asset) :
    ∃ rows, asset = .ok (.list rows) ∧ List.Forall₂ S rows places := by
  obtain ⟨vs, hvs, hplaces⟩ := h
  rw [jsonDecode, hvs] at hasset
  obtain ⟨d, hd, rfl⟩ := Option.map_eq_some_iff.mp hasset
  obtain ⟨rows, rfl, hrows⟩ := dyn?_array_eq_some.mp hd
  exact ⟨rows, rfl, forall₂_of_common hRS hrows hplaces⟩

end

theorem IsInt64.parse {z : Int} (h : IsInt64 z) : intParse (toString z) = .ok z :=
  (intParse_toString z).trans (if_pos h)

theorem Canonical.parse {row : Dyn} {key : String} {id : Int} (h : Canonical row key id)
    (hid : IsInt64 id) : parseField row key = .ok id :=
  h.parse_eq.trans hid.parse

theorem toString_inj {a b : Int} (ha : IsInt64 a) (hb : IsInt64 b) :
    toString a = toString b ↔ a = b := by
  refine ⟨fun h => ?_, fun h => congrArg toString h⟩
  have hparse : intParse (toString a) = intParse (toString b) := congrArg intParse h
  rw [ha.parse, hb.parse] at hparse
  exact Except.ok.inj hparse

theorem RowUnder.districtRow {row : Dyn} {entry : Int × Place} {parent : String}
    (h : RowUnder parent row entry) (hid : IsInt64 entry.2.id) :
    districtRow row = .ok entry.2.districtRow := by
  rw [ThaiAddress.districtRow, h.id.parse hid, ok_bind, h.nameTh]
  rfl

theorem SubdistrictRowOf.subdistrictRow {row : Dyn} {entry : Int × Place}
    (h : SubdistrictRowOf row entry) (hid : IsInt64 entry.2.id)
    (hzipcode : ∃ z, entry.2.zipcode = some z ∧ IsInt64 z) :
    subdistrictRow row = .ok entry.2.subdistrictRow := by
  obtain ⟨z, hz, hindex⟩ := h.zipcode
  obtain ⟨z', hz', hint⟩ := hzipcode
  obtain rfl := Option.some.inj (hz.symm.trans hz')
  rw [ThaiAddress.subdistrictRow, h.id.parse hid, ok_bind, h.nameTh, ok_bind, hindex hint,
    Place.subdistrictRow, hz]
  rfl

/-! ### The tables -/

/-- Under every key the loop has the sub-districts whose district id parses to it. -/
theorem subdistrictTable_eq {ss : List Dyn} {entries : List (Int × SubdistrictRow)}
    (h : Parsed "amphur_id" subdistrictRow ss entries) (key : Int) :
    subdistrictTable ss key =
      if valuesAt entries key = [] then none else some (valuesAt entries key) := by
  have htable := addSubdistricts_get? ss [] key
  rw [addSubdistricts_eq, insertRows_of_parsed h, get?_addAll] at htable
  exact htable.symm

/-- The tables hold the places: all provinces in their order, and under the id of each parent its
places in their order. -/
structure Gazetteer.Loaded (g : Gazetteer) (s : State) : Prop where
  provinces : ∃ rows, s.provinces = some rows ∧ List.Forall₂ RowOf rows g.provinces
  districts : ∀ key, valuesAt g.districts key ≠ [] →
    s.districts.get? key = some ((valuesAt g.districts key).map Place.districtRow)
  subdistricts : ∀ key, valuesAt g.subdistricts key ≠ [] →
    s.subdistricts.get? key = some ((valuesAt g.subdistricts key).map Place.subdistrictRow)

/-- Rows with decimal parent ids are written in one way each. -/
theorem sameTexts_of_rows {parent : String} {ds : List Dyn} {entries : List (Int × Place)}
    (hrows : List.Forall₂ (RowUnder parent) ds entries) (hint : ∀ e ∈ entries, IsInt64 e.1) :
    SameTexts parent ds := by
  have hparent : ∀ d ∈ ds, ∃ id, Canonical d parent id ∧ IsInt64 id := by
    induction hrows with
    | nil => exact fun d hd => nomatch hd
    | @cons d entry ds entries hhead _ ih =>
      obtain ⟨hentry, hentries⟩ := List.forall_mem_cons.mp hint
      exact List.forall_mem_cons.mpr ⟨⟨entry.1, hhead.parent, hentry⟩, ih hentries⟩
  intro d hd d' hd'
  obtain ⟨id, hid, hint⟩ := hparent d hd
  obtain ⟨id', hid', hint'⟩ := hparent d' hd'
  rw [hid, hid', hid.parse hint, hid'.parse hint', Except.ok.injEq, Except.ok.injEq,
    Dyn.str.injEq, toString_inj hint hint']

/-- Rows of places are read as the places. -/
theorem parsed_of_rows {ρ : Type} {parent : String} {read : Dyn → Except Error ρ}
    {S : Dyn → Int × Place → Prop} {f : Place → ρ} {rows : List Dyn} {entries : List (Int × Place)}
    (hrows : List.Forall₂ S rows entries)
    (hread : ∀ row, ∀ e ∈ entries, S row e → parseField row parent = .ok e.1 ∧
      read row = .ok (f e.2)) :
    Parsed parent read rows (entries.map fun e => (e.1, f e.2)) := by
  induction hrows with
  | nil => exact .nil
  | @cons row e rows entries hhead _ ih =>
    exact .cons (hread row e List.mem_cons_self hhead)
      (ih fun row' e' he' => hread row' e' (List.mem_cons_of_mem e he'))

theorem readable_of_parsed {ds : List Dyn} {entries : List (Int × DistrictRow)}
    (h : Parsed "province_id" districtRow ds entries) : ∀ d ∈ ds, districtReadable d = true := by
  induction h with
  | nil => exact fun d hd => nomatch hd
  | cons hhead _ ih =>
    exact List.forall_mem_cons.mpr ⟨districtReadable_iff.mpr ⟨⟨_, hhead.1⟩, _, hhead.2⟩, ih⟩

/-- Where there are places below a key, the table holds their rows. -/
theorem some_of_ne_nil {ρ : Type} {f : Place → ρ} {entries : List (Int × Place)} {key : Int}
    {table : Option (List ρ)} (hne : valuesAt entries key ≠ [])
    (htable : table = if valuesAt (entries.map fun e => (e.1, f e.2)) key = [] then none
      else some (valuesAt (entries.map fun e => (e.1, f e.2)) key)) :
    table = some ((valuesAt entries key).map f) := by
  rw [htable, valuesAt_map, if_neg (List.map_eq_nil_iff.not.mpr hne)]

/-- **The tables of the files.** Loading texts that list the places leaves tables that hold them. -/
theorem Gazetteer.Files.loaded {doubleText : List UInt16 → String} {g : Gazetteer} {texts : Texts}
    {assets : Assets} (h : g.Files texts) (hassets : texts.Decoded doubleText assets) (s : State) :
    g.Loaded (loadData assets s) := by
  obtain ⟨ps, hps, hprovinces⟩ :=
    h.provinces.decoded (fun _ _ _ hd hv => hv.rowOf hd) hassets.provinces
  obtain ⟨ds, hds, hdistricts⟩ :=
    h.districts.decoded (fun _ _ _ hd hv => hv.rowUnder hd) hassets.districts
  obtain ⟨ss, hss, hsubdistricts⟩ :=
    h.subdistricts.decoded (fun _ _ _ hd hv => hv.rowOf hd) hassets.subdistricts
  have hparsed : Parsed "province_id" ThaiAddress.districtRow ds
      (g.districts.map fun e => (e.1, e.2.districtRow)) :=
    parsed_of_rows hdistricts fun row e he hrow =>
      ⟨hrow.parent.parse (g.district_id e he).1, hrow.districtRow (g.district_id e he).2.1⟩
  have hparsed' : Parsed "amphur_id" ThaiAddress.subdistrictRow ss
      (g.subdistricts.map fun e => (e.1, e.2.subdistrictRow)) :=
    parsed_of_rows hsubdistricts fun row e he hrow =>
      ⟨hrow.parent.parse (g.subdistrict_id e he).1,
        hrow.subdistrictRow (g.subdistrict_id e he).2 (g.zipcode e he)⟩
  have hsame := sameTexts_of_rows hdistricts fun e he => (g.district_id e he).1
  have hdecoded : decoded assets = .ok (ps, ds, ss) := by
    rw [ThaiAddress.decoded, hps, hds, hss]
    rfl
  have hloaded := loaded_loadData assets s
  generalize loadData assets s = t at hloaded
  cases hloaded with
  | unread e herror => exact absurd (herror.symm.trans hdecoded) (by simp)
  | provinces hlists hbroken =>
    cases hlists.symm.trans hdecoded
    obtain ⟨d, hd, hbroken⟩ := hbroken
    exact absurd (readable_of_parsed hparsed d hd) (by simp [hbroken])
  | tables hlists hreadable hget hget' =>
    cases hlists.symm.trans hdecoded
    exact ⟨⟨ps, rfl, hprovinces⟩,
      fun key hne => some_of_ne_nil hne ((hget key).trans (districtTable_eq hparsed hsame key)),
      fun key hne => some_of_ne_nil hne ((hget' key).trans (subdistrictTable_eq hparsed' key))⟩

end SmartHome.ThaiAddress
