import SmartHome.Components.GoogleApiService
import SmartHome.Lib.QueryParameters
import SmartHome.Settings.Language

/-!
# The requests for a location

`AddressUtils.getAddress` asks the geocoder of OpenStreetMap, the map asks the geocoder of Google,
and `AirThai` asks for the air quality. The coordinates, the language of the app and the keys are
spliced into the texts of the URLs as they are.

The coordinates are given by the texts of two doubles. Those hold digits, `-`, `.` and letters only;
a `+` comes in from 10^21 on.

## Main definitions

* `Requests.addressUri`, `Requests.geocodeUri`, `Requests.airUri`.

## Main results

* `Requests.decodesTo_of_run` : what the services are asked for.
-/

namespace SmartHome.Requests

open GoogleApiService (apiKeyText isName_ofString)
open Uri (Plain IsName Names isUnreserved spliceAll)
open Utf16 (code ofString)

/-! ### The URIs -/

/-- The URI that `AddressUtils.getAddress` requests. -/
def addressUri (lat long localeCode : List UInt16) : Uri :=
  Uri.parse (ofString "https://nominatim.openstreetmap.org/reverse?lat=" ++ lat ++
    ofString "&lon=" ++ long ++ ofString "&format=json&accept-language=" ++ localeCode)

/-- The URI that `_onPositionChanged` of the map requests. -/
def geocodeUri (apiKey : Option (List UInt16)) (latitude longitude locale : List UInt16) : Uri :=
  Uri.parse (ofString "https://maps.googleapis.com/maps/api/geocode/json" ++
    ofString "?latlng=" ++ latitude ++ ofString "," ++ longitude ++
    ofString "&key=" ++ apiKeyText apiKey ++ ofString "&language=" ++ locale)

/-- The URI that `_getAir` of `AirThai` requests, for the URL and the key of the environment. -/
def airUri (url apiKey : Option (List UInt16)) (latitude longitude : List UInt16) : Uri :=
  Uri.parse (apiKeyText url ++ ofString "?lat=" ++ latitude ++ ofString "&lon=" ++ longitude ++
    ofString "&key=" ++ apiKeyText apiKey)

/-! ### Their parameters -/

/-- The parameters of `addressUri`. -/
def addressParameters (lat long localeCode : List UInt16) : List (List UInt16 × List UInt16) :=
  [(ofString "lat", lat), (ofString "lon", long), (ofString "format", ofString "json"),
    (ofString "accept-language", localeCode)]

/-- The parameters of `geocodeUri`. -/
def geocodeParameters (apiKey latitude longitude locale : List UInt16) :
    List (List UInt16 × List UInt16) :=
  [(ofString "latlng", latitude ++ code ',' :: longitude), (ofString "key", apiKey),
    (ofString "language", locale)]

/-- The parameters of `airUri`. -/
def airParameters (apiKey latitude longitude : List UInt16) : List (List UInt16 × List UInt16) :=
  [(ofString "lat", latitude), (ofString "lon", longitude), (ofString "key", apiKey)]

/-- Different names in letters, digits and hyphens. -/
theorem names_of_keys {ps : List (List UInt16 × List UInt16)} (names : List (List UInt16))
    (hkeys : LinkedMap.keys ps = names)
    (hchars : (names.all fun name => name.all fun u => isUnreserved u.toNat) = true)
    (hne : [] ∉ names) (hnodup : names.Nodup) : Names ps where
  isName p hp := by
    have hname : p.1 ∈ names := hkeys ▸ List.mem_map_of_mem hp
    exact Uri.isName_of_unreserved (List.all_eq_true.mp (List.all_eq_true.mp hchars _ hname))
      fun hnil => hne (hnil ▸ hname)
  nodup := hkeys ▸ hnodup

theorem names_addressParameters (lat long localeCode : List UInt16) :
    Names (addressParameters lat long localeCode) :=
  names_of_keys [ofString "lat", ofString "lon", ofString "format", ofString "accept-language"]
    rfl rfl (by decide) (by decide)

theorem names_geocodeParameters (apiKey latitude longitude locale : List UInt16) :
    Names (geocodeParameters apiKey latitude longitude locale) :=
  names_of_keys [ofString "latlng", ofString "key", ofString "language"] rfl rfl
    (by decide) (by decide)

theorem names_airParameters (apiKey latitude longitude : List UInt16) :
    Names (airParameters apiKey latitude longitude) :=
  names_of_keys [ofString "lat", ofString "lon", ofString "key"] rfl rfl
    (by decide) (by decide)

theorem addressUri_eq (lat long localeCode : List UInt16) :
    addressUri lat long localeCode = Uri.parse
      (ofString "https://nominatim.openstreetmap.org/reverse" ++
        code '?' :: spliceAll (addressParameters lat long localeCode)) := by
  have hlat : ofString "https://nominatim.openstreetmap.org/reverse?lat=" =
      ofString "https://nominatim.openstreetmap.org/reverse" ++
        code '?' :: (ofString "lat" ++ [code '=']) := rfl
  have hlon : ofString "&lon=" = code '&' :: (ofString "lon" ++ [code '=']) := rfl
  have hlanguage : ofString "&format=json&accept-language=" =
      code '&' :: (ofString "format" ++ code '=' :: (ofString "json" ++
        code '&' :: (ofString "accept-language" ++ [code '=']))) := rfl
  rw [addressUri, hlat, hlon, hlanguage]
  simp only [addressParameters, spliceAll, Uri.splice, List.append_assoc, List.cons_append,
    List.nil_append]

theorem geocodeUri_eq (apiKey latitude longitude locale : List UInt16) :
    geocodeUri (some apiKey) latitude longitude locale = Uri.parse
      (ofString "https://maps.googleapis.com/maps/api/geocode/json" ++
        code '?' :: spliceAll (geocodeParameters apiKey latitude longitude locale)) := by
  have hlatlng : ofString "?latlng=" = code '?' :: (ofString "latlng" ++ [code '=']) := rfl
  have hcomma : ofString "," = [code ','] := rfl
  have hkey : ofString "&key=" = code '&' :: (ofString "key" ++ [code '=']) := rfl
  have hlanguage : ofString "&language=" = code '&' :: (ofString "language" ++ [code '=']) := rfl
  rw [geocodeUri, hlatlng, hcomma, hkey, hlanguage]
  simp only [geocodeParameters, spliceAll, Uri.splice, List.append_assoc, List.cons_append,
    List.nil_append, apiKeyText, Option.getD_some]

theorem airUri_eq (url apiKey latitude longitude : List UInt16) :
    airUri (some url) (some apiKey) latitude longitude = Uri.parse
      (url ++ code '?' :: spliceAll (airParameters apiKey latitude longitude)) := by
  have hlat : ofString "?lat=" = code '?' :: (ofString "lat" ++ [code '=']) := rfl
  have hlon : ofString "&lon=" = code '&' :: (ofString "lon" ++ [code '=']) := rfl
  have hkey : ofString "&key=" = code '&' :: (ofString "key" ++ [code '=']) := rfl
  rw [airUri, hlat, hlon, hkey]
  simp only [airParameters, spliceAll, Uri.splice, List.append_assoc, List.cons_append,
    List.nil_append, apiKeyText, Option.getD_some]

/-! ### What the services are asked -/

/-- The coordinates between which a comma stands. -/
theorem plain_latlng {latitude longitude : List UInt16}
    (hlatitude : ∀ u ∈ latitude, isUnreserved u.toNat = true)
    (hlongitude : ∀ u ∈ longitude, isUnreserved u.toNat = true) :
    Plain (latitude ++ code ',' :: longitude) := by
  have hascii {u : UInt16} (hu : isUnreserved u.toNat = true) :
      u.toNat < 0x80 ∧ u ∉ [code '+', code '%', code '&', code '#'] := by
    refine ⟨(Uri.lt_of_isUnreserved hu).1, ?_⟩
    rintro hmem
    simp only [List.mem_cons, List.not_mem_nil, or_false] at hmem
    rcases hmem with rfl | rfl | rfl | rfl <;> cases hu
  refine Uri.plain_of_ascii fun u hu => ?_
  simp only [List.mem_append, List.mem_cons] at hu
  rcases hu with hu | rfl | hu
  · exact hascii (hlatitude u hu)
  · decide
  · exact hascii (hlongitude u hu)

/-- The language of the app is English or Thai, whatever the language of the device. -/
theorem locale_step {s t : LanguageSetting.State} {e : LanguageSetting.Event}
    (h : s.locale = "en" ∨ s.locale = "th") (hstep : LanguageSetting.step s e = some t) :
    t.locale = "en" ∨ t.locale = "th" := by
  cases e with
  | launch device landed =>
    obtain rfl := Option.some.inj hstep
    exact .inl rfl
  | openLanguage =>
    simp only [LanguageSetting.step, Option.ite_none_right_eq_some, Option.some.injEq] at hstep
    obtain ⟨-, rfl⟩ := hstep
    exact h
  | closeLanguage =>
    simp only [LanguageSetting.step, Option.ite_none_left_eq_some, Option.some.injEq] at hstep
    obtain ⟨-, rfl⟩ := hstep
    exact h
  | select l =>
    simp only [LanguageSetting.step] at hstep
    split at hstep
    · cases hstep
    · simp only [Option.ite_none_left_eq_some, Option.some.injEq] at hstep
      obtain ⟨-, rfl⟩ := hstep
      have hlocale : (LanguageSetting.setLocale l.code s).locale = l.code := by
        unfold LanguageSetting.setLocale
        split
        · assumption
        · rfl
      change (LanguageSetting.setLocale l.code s).locale = _ ∨
        (LanguageSetting.setLocale l.code s).locale = _
      rw [hlocale]
      cases l with
      | thai => exact .inr rfl
      | english => exact .inl rfl
  | completed =>
    simp only [LanguageSetting.step] at hstep
    split at hstep
    · cases hstep
    · rename_i op rest _
      obtain rfl := Option.some.inj hstep
      rcases op with ⟨n, _ | l | l⟩ <;> exact h

theorem locale_of_run {stored : Option String} {es : List LanguageSetting.Event}
    {s : LanguageSetting.State}
    (hrun : EventRun.run LanguageSetting.step (.off stored) es = some s) :
    s.locale = "en" ∨ s.locale = "th" :=
  EventRun.invariant_run (I := fun s : LanguageSetting.State => s.locale = "en" ∨ s.locale = "th")
    (fun _ _ _ => locale_step) (.inl rfl) hrun

theorem plain_locale {locale : String} (h : locale = "en" ∨ locale = "th") :
    Plain (ofString locale) := by
  rcases h with rfl | rfl <;> exact Uri.plain_of_unreserved (List.all_eq_true.mp rfl)

/-- **The requests for a location.** Whatever has happened to the language of the app, the geocoder
of OpenStreetMap is asked for the address of the location in that language. The geocoder of Google
is asked for the location, with the key and the language, exactly if the key can be spliced in, and
so is the service for the air quality, if its URL is a well-formed scheme, authority and path. -/
theorem decodesTo_of_run {stored : Option String} {es : List LanguageSetting.Event}
    {s : LanguageSetting.State}
    (hrun : EventRun.run LanguageSetting.step (.off stored) es = some s)
    {latitude longitude : List UInt16} (hlatitude : ∀ u ∈ latitude, isUnreserved u.toNat = true)
    (hlongitude : ∀ u ∈ longitude, isUnreserved u.toNat = true) {url : List UInt16}
    (hurl : Uri.WellFormedBase url) (apiKey : List UInt16) :
    (addressUri latitude longitude (ofString s.locale)).DecodesTo
      (addressParameters latitude longitude (ofString s.locale)) ∧
    ((geocodeUri (some apiKey) latitude longitude (ofString s.locale)).DecodesTo
      (geocodeParameters apiKey latitude longitude (ofString s.locale)) ↔ Plain apiKey) ∧
    ((airUri (some url) (some apiKey) latitude longitude).DecodesTo
      (airParameters apiKey latitude longitude) ↔ Plain apiKey) := by
  have hlat : Plain latitude := Uri.plain_of_unreserved hlatitude
  have hlong : Plain longitude := Uri.plain_of_unreserved hlongitude
  have hlocale := plain_locale (locale_of_run hrun)
  have hjson : Plain (ofString "json") := Uri.plain_of_unreserved (List.all_eq_true.mp rfl)
  refine ⟨?_, ?_, ?_⟩
  · rw [addressUri_eq, Uri.decodesTo_spliceAll_iff (by decide) (by decide)
      (by exact List.cons_ne_nil _ _) (names_addressParameters _ _ _)]
    simp [addressParameters, hlat, hlong, hjson, hlocale]
  · rw [geocodeUri_eq, Uri.decodesTo_spliceAll_iff (by decide) (by decide)
      (by exact List.cons_ne_nil _ _) (names_geocodeParameters _ _ _ _)]
    simp [geocodeParameters, plain_latlng hlatitude hlongitude, hlocale]
  · rw [airUri_eq, Uri.decodesTo_spliceAll_iff (hurl.notMem rfl) (hurl.notMem rfl)
      (by exact List.cons_ne_nil _ _) (names_airParameters _ _ _)]
    simp [airParameters, hlat, hlong]

/-- Bangkok, after Thai has been chosen. -/
theorem decodesTo_bangkok :
    (addressUri (ofString "13.75") (ofString "100.5") (ofString "th")).DecodesTo
      (addressParameters (ofString "13.75") (ofString "100.5") (ofString "th")) ∧
    (geocodeUri (some (ofString "K")) (ofString "13.75") (ofString "100.5")
        (ofString "th")).DecodesTo
      (geocodeParameters (ofString "K") (ofString "13.75") (ofString "100.5") (ofString "th")) ∧
    (airUri (some (ofString "https://api.airvisual.com/v2/nearest_city")) (some (ofString "K"))
        (ofString "13.75") (ofString "100.5")).DecodesTo
      (airParameters (ofString "K") (ofString "13.75") (ofString "100.5")) := by
  have hrun : EventRun.run LanguageSetting.step (.off none)
      [.launch "en" 0, .openLanguage, .select .thai] =
        some ⟨true, ⟨some "en", some "en"⟩, "th", some ⟨0, none⟩, 1,
          [⟨0, .load⟩, ⟨0, .change .thai⟩]⟩ := rfl
  have hurl : Uri.WellFormedBase (ofString "https://api.airvisual.com/v2/nearest_city") :=
    ⟨ofString "https", ofString "api.airvisual.com", [], ofString "/v2/nearest_city", rfl,
      ⟨List.cons_ne_nil _ _, List.all_eq_true.mp rfl⟩,
      ⟨List.cons_ne_nil _ _, List.all_eq_true.mp rfl⟩, .inl rfl,
      .inr ⟨ofString "v2/nearest_city", rfl, List.all_eq_true.mp rfl⟩⟩
  have hlatitude : ∀ u ∈ ofString "13.75", isUnreserved u.toNat = true := List.all_eq_true.mp rfl
  have hlongitude : ∀ u ∈ ofString "100.5", isUnreserved u.toNat = true := List.all_eq_true.mp rfl
  have hkey : Plain (ofString "K") := Uri.plain_of_unreserved (List.all_eq_true.mp rfl)
  obtain ⟨haddress, hgeocode, hair⟩ :=
    decodesTo_of_run hrun hlatitude hlongitude hurl (ofString "K")
  exact ⟨haddress, hgeocode.mpr hkey, hair.mpr hkey⟩

end SmartHome.Requests
