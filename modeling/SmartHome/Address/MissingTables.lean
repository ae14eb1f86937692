import SmartHome.Address.Loading
import SmartHome.Address.Picking

/-!
# Taps and missing tables

The fields of `ThaiAddress` can be tapped while its tables are being loaded, and after a load that
has failed. `_showPicker` takes the table of its level, and the group of the selected row above it,
with a null check.

The rows of a group come from the assets: there is a group under an id if some row of the assets
that the load has got to has that id as its parent.

## Main definitions

* `ThaiAddress.LoadingWidget`, `ThaiAddress.LoadEvent` : the widget with its load.
* `ThaiAddress.Backed` : the load has finished, and the assets have rows for a picker.

## Main results

* `ThaiAddress.showPicker_nullCheck` : when a null check of `_showPicker` fails.
* `ThaiAddress.found_iff_backed` : in a run no tap fails on a missing table or group exactly if the
  assets have rows for every picker that is tapped for, once they are loaded.
* `FormCreate.loadingWidget_of_run` : the runs of the form are runs of the widget with its load.
-/

namespace SmartHome.ThaiAddress

open Dart

/-! ### The widget with its load -/

/-- The widget, and whether `_loadData` is still running. -/
structure LoadingWidget where
  loading : Bool
  widget : Widget

/-- What can happen next: the load ends, completely or with an exception somewhere, or the user taps
something. -/
inductive LoadEvent where
  | loaded
  | tap (t : Tap)

namespace LoadingWidget

/-- The widget as it is created. -/
def initial : LoadingWidget := ⟨true, ⟨.initial, none⟩⟩

/-- One step, with the assets of the app. -/
def step (assets : Assets) (w : LoadingWidget) : LoadEvent → Option LoadingWidget
  | .loaded =>
    if w.loading then some ⟨false, { w.widget with state := loadData assets w.widget.state }⟩
    else none
  | .tap t => (w.widget.step t).map fun v => { w with widget := v }

end LoadingWidget

/-! ### The null checks of `_showPicker` -/

/-- The table of a level is there, with a group for the row that is selected above. -/
def hasGroup (s : State) : Level → Bool
  | .province => s.provinces.isSome
  | .district => (s.selectedProvinceId.bind s.districts.get?).isSome
  | .subdistrict => (s.selectedDistrictId.bind s.subdistricts.get?).isSome

theorem itemTexts_ne_nullCheck {α : Type} {nameTh : α → Except Error Dyn}
    (hname : ∀ row, nameTh row ≠ .error .nullCheck) (rows : List α) :
    itemTexts nameTh rows ≠ .error .nullCheck := by
  induction rows with
  | nil => exact fun h => nomatch h
  | cons row rows ih =>
    intro h
    rcases bind_eq_error.mp h with h | ⟨name, -, h⟩
    · exact hname row h
    rcases bind_eq_error.mp h with h | ⟨text, -, h⟩
    · cases name <;> cases h
    rcases bind_eq_error.mp h with h | ⟨texts, -, h⟩
    · exact ih h
    · cases h

/-- The texts of the items and the initial item do not involve a null check. -/
theorem nullCheck_iff {α : Type} {rows : Except Error (List α)} {nameTh : α → Except Error Dyn}
    {open' : List α → List String → Picker} (hname : ∀ row, nameTh row ≠ .error .nullCheck) :
    (do
      let rows ← rows
      let items ← itemTexts nameTh rows
      return open' rows items : Except Error Picker) = .error .nullCheck ↔
        rows = .error .nullCheck := by
  refine ⟨fun h => ?_, fun h => by rw [h]; rfl⟩
  rcases bind_eq_error.mp h with h | ⟨list, -, h⟩
  · exact h
  rcases bind_eq_error.mp h with h | ⟨items, -, h⟩
  · exact absurd h (itemTexts_ne_nullCheck hname list)
  · cases h

theorem provinceName_ne_nullCheck (row : Dyn) : provinceName row ≠ .error .nullCheck := by
  cases row <;> exact fun h => nomatch h

theorem ok_ne_nullCheck {α : Type} (nameTh : α → Dyn) (row : α) :
    (.ok (nameTh row) : Except Error Dyn) ≠ .error .nullCheck := fun h => nomatch h

theorem elim_nullCheck_iff {α : Type} {o : Option α} :
    (o.elim (.error .nullCheck) .ok : Except Error α) = .error .nullCheck ↔ o.isSome = false := by
  cases o <;> simp

/-- A tap fails on a null check exactly where the group is missing. -/
theorem showPicker_nullCheck (s : State) (level : Level) :
    showPicker s level = .error .nullCheck ↔ hasGroup s level = false := by
  cases level with
  | province => exact (nullCheck_iff provinceName_ne_nullCheck).trans elim_nullCheck_iff
  | district => exact (nullCheck_iff (ok_ne_nullCheck DistrictRow.nameTh)).trans elim_nullCheck_iff
  | subdistrict =>
    exact (nullCheck_iff (ok_ne_nullCheck SubdistrictRow.nameTh)).trans elim_nullCheck_iff

theorem isSome_bind_iff {α β : Type} {o : Option α} {f : α → Option β} :
    (o.bind f).isSome = true ↔ ∃ a, o = some a ∧ (f a).isSome = true := by
  cases o <;> simp

/-! ### The groups that the assets have -/

/-- The sub-districts that a load gets to: those before the first one that cannot be read, and that
one. -/
def reached (subdistricts : List Dyn) : List Dyn :=
  subdistricts.takeWhile subdistrictReadable ++
    (subdistricts.find? fun s => !subdistrictReadable s).toList

/-- The rows of the assets are enough for the picker of a level: below the provinces only if every
district can be read, and one of them is a district of the selected province, or a sub-district that
the load gets to is one of the selected district. -/
def HasRows (ds ss : List Dyn) (s : State) : Level → Prop
  | .province => True
  | .district => (∀ d ∈ ds, districtReadable d = true) ∧
      ∃ id, s.selectedProvinceId = some id ∧ ∃ d ∈ ds, parseField d "province_id" = .ok id
  | .subdistrict => (∀ d ∈ ds, districtReadable d = true) ∧
      ∃ id, s.selectedDistrictId = some id ∧
        ∃ s' ∈ reached ss, parseField s' "amphur_id" = .ok id

/-- The load has finished, the assets decode to lists, and their rows are enough for the picker of a
level. -/
def Backed (assets : Assets) (w : LoadingWidget) (level : Level) : Prop :=
  w.loading = false ∧ ∃ ps ds ss, decoded assets = .ok (ps, ds, ss) ∧
    HasRows ds ss w.widget.state level

theorem backed_iff {assets : Assets} {ps ds ss : List Dyn}
    (hdecoded : decoded assets = .ok (ps, ds, ss)) (w : Widget) (level : Level) :
    Backed assets ⟨false, w⟩ level ↔ HasRows ds ss w.state level := by
  constructor
  · rintro ⟨-, ps', ds', ss', hdecoded', h⟩
    cases hdecoded.symm.trans hdecoded'
    exact h
  · exact fun h => ⟨rfl, ps, ds, ss, hdecoded, h⟩

theorem parentText_isSome {key : Int} {d : Dyn} :
    (parentText key d).isSome = true ↔ parseField d "province_id" = .ok key := by
  rw [parseField_eq_ok]
  constructor
  · intro h
    unfold parentText at h
    split at h
    · rename_i text hindex
      split at h
      · exact ⟨text, hindex, ‹_›⟩
      · cases h
    · cases h
  · rintro ⟨text, hindex, hparse⟩
    simp only [parentText, hindex, hparse, if_true, Option.isSome_some]

/-- There is a group of districts under the parsed ids of their provinces. -/
theorem districtTable_isSome {ds : List Dyn} {key : Int} :
    (districtTable ds key).isSome = true ↔ ∃ d ∈ ds, parseField d "province_id" = .ok key := by
  rw [districtTable, Option.isSome_map, List.findSome?_isSome_iff]
  simp only [List.mem_reverse, parentText_isSome]

theorem subdistrictsUnder_ne_nil {ss : List Dyn} (hss : ∀ s ∈ ss, subdistrictReadable s = true)
    {key : Int} :
    subdistrictsUnder ss key ≠ [] ↔ ∃ s ∈ ss, parseField s "amphur_id" = .ok key := by
  rw [subdistrictsUnder, Ne, List.filterMap_eq_nil_iff]
  push Not
  refine exists_congr fun s => and_congr_right fun hs => ?_
  obtain ⟨-, row, hrow⟩ := subdistrictReadable_iff.mp (hss s hs)
  by_cases hparse : parseField s "amphur_id" = .ok key <;> simp [hparse, hrow, Except.toOption]

theorem brokenParent_eq_some {ss : List Dyn} {key : Int} :
    brokenParent ss = some key ↔ ∃ s, (ss.find? fun s => !subdistrictReadable s) = some s ∧
      parseField s "amphur_id" = .ok key := by
  rw [brokenParent, Option.bind_eq_some_iff]
  refine exists_congr fun s => and_congr_right fun _ => ?_
  cases parseField s "amphur_id" <;> simp [Except.toOption]

/-- There is a group of sub-districts under the parsed district ids of those that the load
gets to. -/
theorem subdistrictTable_isSome {ss : List Dyn} {key : Int} :
    (subdistrictTable ss key).isSome = true ↔
      ∃ s ∈ reached ss, parseField s "amphur_id" = .ok key := by
  have hread : ∀ s ∈ ss.takeWhile subdistrictReadable, subdistrictReadable s = true :=
    fun s hs => List.mem_takeWhile_imp hs
  have hsplit : (∃ s ∈ reached ss, parseField s "amphur_id" = .ok key) ↔
      subdistrictsUnder (ss.takeWhile subdistrictReadable) key ≠ [] ∨
        brokenParent ss = some key := by
    rw [subdistrictsUnder_ne_nil hread, brokenParent_eq_some]
    simp only [reached, List.mem_append, Option.mem_toList, or_and_right, exists_or]
  rw [hsplit, subdistrictTable]
  by_cases hrows : subdistrictsUnder (ss.takeWhile subdistrictReadable) key = [] <;>
    by_cases hbroken : brokenParent ss = some key <;> simp [hrows, hbroken]

/-! ### Runs -/

/-- The three tables. -/
def State.tables (s : State) :
    Option (List Dyn) × LinkedMap Int (List DistrictRow) × LinkedMap Int (List SubdistrictRow) :=
  (s.provinces, s.districts, s.subdistricts)

/-- Done selects, and leaves the tables alone. -/
theorem tables_done (s : State) (p : Picker) : (done s p).1.tables = s.tables := by
  unfold done
  cases p.level with
  | province =>
    simp only [doneProvince]
    split
    · rfl
    · split
      · rfl
      · split <;> rfl
  | district | subdistrict =>
    simp only [doneDistrict, doneSubdistrict]
    split
    · rfl
    · split <;> rfl

theorem tables_step {w v : Widget} {t : Tap} (hstep : w.step t = some v) :
    v.state.tables = w.state.tables := by
  cases Widget.stepped_of_step hstep with
  | tapField | scroll | cancel => rfl
  | @done p hpicker => exact (congrArg State.tables (w.state_confirm p)).trans (tables_done _ _)

namespace LoadingWidget

/-- Before the load has finished the widget is as it was created; afterwards its tables are those
that the load has left. -/
def Loads (assets : Assets) (w : LoadingWidget) : Prop :=
  if w.loading then w.widget = ⟨.initial, none⟩
  else w.widget.state.tables = (loadData assets .initial).tables

theorem loads_initial (assets : Assets) : initial.Loads assets := rfl

theorem loads_step {assets : Assets} {w v : LoadingWidget} {e : LoadEvent} (h : w.Loads assets)
    (hstep : step assets w e = some v) : v.Loads assets := by
  obtain ⟨loading, widget⟩ := w
  cases e with
  | loaded =>
    simp only [step, Option.ite_none_right_eq_some, Option.some.injEq] at hstep
    obtain ⟨rfl, rfl⟩ := hstep
    obtain rfl : widget = ⟨.initial, none⟩ := h
    rfl
  | tap t =>
    obtain ⟨u, hu, rfl⟩ := Option.map_eq_some_iff.mp hstep
    cases loading with
    | false => exact (tables_step hu).trans h
    | true =>
      obtain rfl : widget = ⟨.initial, none⟩ := h
      cases Widget.stepped_of_step hu with
      | tapField level => cases level <;> rfl
      | scroll _ hpicker | done hpicker | cancel hpicker => cases hpicker

/-- The groups that the widget has are those that the assets have rows for. -/
theorem hasGroup_iff_backed {assets : Assets} {w : LoadingWidget} (h : w.Loads assets)
    (level : Level) : hasGroup w.widget.state level = true ↔ Backed assets w level := by
  obtain ⟨loading, ⟨s, picker⟩⟩ := w
  cases loading with
  | true =>
    obtain ⟨rfl, rfl⟩ := Widget.mk.inj h
    cases level <;> simp [hasGroup, State.initial, Backed]
  | false =>
    have htables : s.tables = (loadData assets .initial).tables := h
    have hloaded := loaded_loadData assets .initial
    generalize loadData assets .initial = t at hloaded htables
    obtain ⟨hprovinces, hdistricts, hsubdistricts⟩ :
        s.provinces = t.provinces ∧ s.districts = t.districts ∧
          s.subdistricts = t.subdistricts := by
      simpa only [State.tables, Prod.mk.injEq] using htables
    cases hloaded with
    | unread e hdecoded =>
      cases level <;>
        simp [hasGroup, hprovinces, hdistricts, hsubdistricts, State.initial, LinkedMap.get?,
          Backed, hdecoded]
    | @provinces ps ds ss hdecoded hbroken =>
      have hbroken : ¬ ∀ d ∈ ds, districtReadable d = true := by simpa using hbroken
      rw [backed_iff hdecoded]
      cases level <;>
        simp [hasGroup, hprovinces, hdistricts, hsubdistricts, State.initial, LinkedMap.get?,
          HasRows, hbroken]
    | @tables ps ds ss hdecoded hreadable _ _ hget hget' =>
      rw [backed_iff hdecoded]
      cases level with
      | province => simp only [hasGroup, hprovinces, HasRows, Option.isSome_some]
      | district =>
        simp only [hasGroup, hdistricts, isSome_bind_iff, hget, districtTable_isSome, HasRows]
        exact (and_iff_right hreadable).symm
      | subdistrict =>
        simp only [hasGroup, hsubdistricts, isSome_bind_iff, hget', subdistrictTable_isSome,
          HasRows]
        exact (and_iff_right hreadable).symm

end LoadingWidget

/-- The tap does not fail on a missing table or group. -/
def FindsTable (w : LoadingWidget) : LoadEvent → Prop
  | .tap (.tapField level) => showPicker w.widget.state level ≠ .error .nullCheck
  | _ => True

/-- The condition on a tap: the assets have rows for the picker, and they have been loaded. -/
def TapBacked (assets : Assets) (w : LoadingWidget) : LoadEvent → Prop
  | .tap (.tapField level) => Backed assets w level
  | _ => True

/-- **Taps and missing tables.** Whatever the assets are, in every interleaving of taps with the
load: no tap on a field fails on a missing table or group exactly if every picker is tapped for
after the load, with rows for it in the assets. -/
theorem found_iff_backed (assets : Assets) (es : List LoadEvent) :
    EventRun.Meets (LoadingWidget.step assets) FindsTable .initial es ↔
      EventRun.Meets (LoadingWidget.step assets) (TapBacked assets) .initial es := by
  refine EventRun.meets_congr (I := LoadingWidget.Loads assets)
    (fun _ _ _ => LoadingWidget.loads_step) (fun w e h => ?_)
    (LoadingWidget.loads_initial assets) es
  cases e with
  | loaded => exact Iff.rfl
  | tap t =>
    cases t with
    | tapField level =>
      rw [FindsTable, TapBacked, ← LoadingWidget.hasGroup_iff_backed h, Ne, showPicker_nullCheck,
        Bool.not_eq_false]
    | scroll | done | cancel => exact Iff.rfl

/-- A tap on the province field while the tables are being loaded fails on the missing table. -/
theorem province_tapped_early :
    showPicker LoadingWidget.initial.widget.state .province = .error .nullCheck ∧
      ¬ EventRun.Meets (LoadingWidget.step FormCreate.twoProvinces) FindsTable .initial
        [.tap (.tapField .province)] :=
  ⟨rfl, fun h => (h _ rfl).1 rfl⟩

end SmartHome.ThaiAddress

namespace SmartHome.FormCreate

open ThaiAddress (Assets Level LoadingWidget)

/-- The `ThaiAddress` widget of a form, with its load. -/
def State.loadingWidget (s : State) : LoadingWidget := ⟨s.loading, s.widget⟩

theorem loadingWidget_step {assets : Assets} {s t : State} {e : Event}
    (hstep : step assets s e = some t) :
    t.loadingWidget = s.loadingWidget ∨
      ∃ e', LoadingWidget.step assets s.loadingWidget e' = some t.loadingWidget := by
  by_cases he : e = .loaded
  · subst he
    cases stepped_of_step hstep with
    | loaded hloading => exact .inr ⟨.loaded, if_pos hloading⟩
  · obtain ⟨hloading, hsame | ⟨tap, htap⟩⟩ := tap_of_step he hstep
    · exact .inl (by rw [State.loadingWidget, State.loadingWidget, hloading, hsame])
    · refine .inr ⟨.tap tap, ?_⟩
      rw [LoadingWidget.step, State.loadingWidget, htap, State.loadingWidget, hloading,
        Option.map_some]

/-- What the widget of a form goes through is a run of the widget with its load. -/
theorem loadingWidget_of_run {assets : Assets} {ofDegrees : ℚ → ℚ → LatLng} {lat long : ℚ}
    {es : List Event} {s : State}
    (hrun : EventRun.run (step assets) (State.initial ofDegrees lat long) es = some s) :
    ∃ es', EventRun.run (LoadingWidget.step assets) .initial es' = some s.loadingWidget := by
  refine EventRun.invariant_run (I := fun s => ∃ es',
    EventRun.run (LoadingWidget.step assets) .initial es' = some s.loadingWidget)
    (fun s e t hs hstep => ?_) ⟨[], rfl⟩ hrun
  obtain ⟨es', hes'⟩ := hs
  rcases loadingWidget_step hstep with hsame | ⟨e', he'⟩
  · exact ⟨es', hsame ▸ hes'⟩
  · refine ⟨es' ++ [e'], ?_⟩
    rw [EventRun.run_append, hes', Option.bind_some, EventRun.run_cons, he']
    rfl

/-- In a form for a new home, a tap on a field fails on a missing table or group exactly where the
assets have no rows for the picker, or have not been loaded. -/
theorem tapField_fails_iff {assets : Assets} {ofDegrees : ℚ → ℚ → LatLng} {lat long : ℚ}
    {es : List Event} {s : State}
    (hrun : EventRun.run (step assets) (State.initial ofDegrees lat long) es = some s)
    (level : Level) :
    ThaiAddress.showPicker s.address level = .error .nullCheck ↔
      ¬ ThaiAddress.Backed assets s.loadingWidget level := by
  obtain ⟨es', hes'⟩ := loadingWidget_of_run hrun
  have hloads : s.loadingWidget.Loads assets :=
    EventRun.invariant_run (I := LoadingWidget.Loads assets)
      (fun _ _ _ => LoadingWidget.loads_step) (LoadingWidget.loads_initial assets) hes'
  rw [ThaiAddress.showPicker_nullCheck, ← LoadingWidget.hasGroup_iff_backed hloads,
    Bool.not_eq_true]
  rfl

end SmartHome.FormCreate
