import SmartHome.Lib.QueryString
import SmartHome.Map.MapComponent

/-!
# The places and geocoding service

`GoogleApiService` splices a query or an address, and the key of the API, into the text of a URL,
parses it, and requests it. What is spliced in is not encoded.

The texts are sequences of UTF-16 code units. The reply of the service is a function of the URI.

## Main definitions

* `GoogleApiService.getPlaceInfo`, `GoogleApiService.getGeocodeInfo`, with the URIs `placeUri` and
  `geocodeUri` that they request.

## Main results

* `GoogleApiService.info_eq_ok` : the replies that hold information.
* `GoogleApiService.request_decodesTo_iff` : the texts that the service is asked for as they are.
* `GoogleApiService.getPlaceInfo_of_plain`, `GoogleApiService.getGeocodeInfo_of_plain` : the answers
  for these texts.
-/

namespace SmartHome.GoogleApiService

open Dart
open MapComponent (Reply)
open Uri (Plain IsName isUnreserved)
open Utf16 (code ofString)

/-- `_placesBaseUrl`. -/
def placesBaseUrl : String := "https://maps.googleapis.com/maps/api/place/textsearch/json"

/-- `_geocodingBaseUrl`. -/
def geocodingBaseUrl : String := "https://maps.googleapis.com/maps/api/geocode/json"

/-- The text of `_apiKey`, which is `null` if the environment does not hold it. -/
def apiKeyText (apiKey : Option (List UInt16)) : List UInt16 := apiKey.getD (ofString "null")

/-- The URI of `'$baseUrl?$name=$value&key=$_apiKey'`. -/
def requestUri (baseUrl name : String) (apiKey : Option (List UInt16)) (value : List UInt16) :
    Uri :=
  Uri.parse (ofString baseUrl ++ ofString "?" ++ ofString name ++ ofString "=" ++ value ++
    ofString "&key=" ++ apiKeyText apiKey)

/-- The URI that `getPlaceInfo` requests. -/
def placeUri : Option (List UInt16) → List UInt16 → Uri := requestUri placesBaseUrl "query"

/-- The URI that `getGeocodeInfo` requests. -/
def geocodeUri : Option (List UInt16) → List UInt16 → Uri := requestUri geocodingBaseUrl "address"

/-- The information in a reply, an object of JSON. -/
def info : Reply → Except Error (List (String × Dyn))
  | .thrown => .error (.exception "ClientException")
  | .response status body =>
    if status = 200 then do
      match ← body with
      | .map entries => return entries
      | _ => .error .typeError
    else .error (.exception "Failed to load data")

variable (get : Uri → Reply) (apiKey : Option (List UInt16))

/-- `getPlaceInfo`. -/
def getPlaceInfo (query : List UInt16) : Except Error (List (String × Dyn)) :=
  info (get (placeUri apiKey query))

/-- `getGeocodeInfo`. -/
def getGeocodeInfo (address : List UInt16) : Except Error (List (String × Dyn)) :=
  info (get (geocodeUri apiKey address))

/-- There is information only in an object of JSON with the status 200. -/
theorem info_eq_ok {reply : Reply} {entries : List (String × Dyn)} :
    info reply = .ok entries ↔ reply = .response 200 (.ok (.map entries)) := by
  constructor
  · intro h
    cases reply with
    | thrown => cases h
    | response status body =>
      rw [info] at h
      split at h
      · next hstatus =>
        obtain ⟨data, hbody, hdata⟩ := bind_eq_ok.mp h
        cases data <;> cases hdata
        rw [hstatus, hbody]
      · cases h
  · rintro rfl
    rfl

/-! ### What the service is asked -/

/-- A name in letters is the name of a parameter. -/
theorem isName_ofString {name : String}
    (h : ((ofString name).all fun u => isUnreserved u.toNat) = true) (hne : ofString name ≠ []) :
    IsName (ofString name) :=
  Uri.isName_of_unreserved (List.all_eq_true.mp h) hne

/-- A request for a name and a value asks for them, with the key, exactly if both texts can be
spliced in. -/
theorem requestUri_decodesTo_iff {baseUrl name : String} (hbase : code '#' ∉ ofString baseUrl)
    (hquestion : code '?' ∉ ofString baseUrl) (hname : IsName (ofString name))
    (hne : ofString name ≠ ofString "key") (apiKey value : List UInt16) :
    (requestUri baseUrl name (some apiKey) value).DecodesTo
      [(ofString name, value), (ofString "key", apiKey)] ↔ Plain value ∧ Plain apiKey := by
  have hkey : IsName (ofString "key") := isName_ofString rfl (by decide)
  have htext : ofString baseUrl ++ ofString "?" ++ ofString name ++ ofString "=" ++ value ++
      ofString "&key=" ++ apiKey = ofString baseUrl ++ code '?' :: (ofString name ++
        code '=' :: value ++ code '&' :: (ofString "key" ++ code '=' :: apiKey)) := by
    have hquestion : ofString "?" = [code '?'] := rfl
    have hequals : ofString "=" = [code '='] := rfl
    have hkey : ofString "&key=" = code '&' :: (ofString "key" ++ [code '=']) := rfl
    rw [hquestion, hequals, hkey]
    simp only [List.append_assoc, List.cons_append, List.nil_append]
  rw [requestUri, apiKeyText, Option.getD_some, htext]
  exact Uri.decodesTo_iff hname hkey hne hbase hquestion value apiKey

theorem placeUri_decodesTo_iff (apiKey query : List UInt16) :
    (placeUri (some apiKey) query).DecodesTo
      [(ofString "query", query), (ofString "key", apiKey)] ↔ Plain query ∧ Plain apiKey :=
  requestUri_decodesTo_iff (by decide) (by decide) (isName_ofString rfl (by decide)) (by decide)
    apiKey query

theorem geocodeUri_decodesTo_iff (apiKey address : List UInt16) :
    (geocodeUri (some apiKey) address).DecodesTo
      [(ofString "address", address), (ofString "key", apiKey)] ↔ Plain address ∧ Plain apiKey :=
  requestUri_decodesTo_iff (by decide) (by decide) (isName_ofString rfl (by decide)) (by decide)
    apiKey address

/-- **The parameters of a request.** The URI that `getPlaceInfo` requests for a query, and the one
that `getGeocodeInfo` requests for an address, has that text and the key as its parameters, and no
fragment, exactly if nothing in the two texts is read in another way: they are well-formed UTF-16
without a byte order mark at the start, and hold no `&`, no `#`, no `+` and no escape. -/
theorem request_decodesTo_iff (apiKey text : List UInt16) :
    ((placeUri (some apiKey) text).DecodesTo
      [(ofString "query", text), (ofString "key", apiKey)] ↔ Plain text ∧ Plain apiKey) ∧
    ((geocodeUri (some apiKey) text).DecodesTo
      [(ofString "address", text), (ofString "key", apiKey)] ↔ Plain text ∧ Plain apiKey) :=
  ⟨placeUri_decodesTo_iff apiKey text, geocodeUri_decodesTo_iff apiKey text⟩

/-- A query with an `&` is cut there, and its end becomes the name of a parameter. -/
theorem query_cut_at_ampersand :
    (placeUri (some (ofString "K")) (ofString "H&M")).queryParameters =
        some [(ofString "query", ofString "H"), (ofString "M", []),
          (ofString "key", ofString "K")] ∧
      ¬(placeUri (some (ofString "K")) (ofString "H&M")).DecodesTo
        [(ofString "query", ofString "H&M"), (ofString "key", ofString "K")] ∧
      ¬(geocodeUri (some (ofString "K")) (ofString "H&M")).DecodesTo
        [(ofString "address", ofString "H&M"), (ofString "key", ofString "K")] := by
  have hplace : (placeUri (some (ofString "K")) (ofString "H&M")).queryParameters =
      some [(ofString "query", ofString "H"), (ofString "M", []),
        (ofString "key", ofString "K")] := by decide
  have hgeocode : (geocodeUri (some (ofString "K")) (ofString "H&M")).queryParameters =
      some [(ofString "address", ofString "H"), (ofString "M", []),
        (ofString "key", ofString "K")] := by decide
  refine ⟨hplace, ?_, ?_⟩
  · rintro ⟨⟨m, hm, hget⟩, -⟩
    obtain rfl := Option.some.inj (hplace.symm.trans hm)
    exact absurd (hget (ofString "query")) (by decide)
  · rintro ⟨⟨m, hm, hget⟩, -⟩
    obtain rfl := Option.some.inj (hgeocode.symm.trans hm)
    exact absurd (hget (ofString "address")) (by decide)

section Answers

-- a service that goes by the parameters of a request
variable {get : Uri → Reply} {answer : LinkedMap (List UInt16) (List UInt16) → Reply}
  (hget : ∀ uri parameters, uri.DecodesTo parameters → get uri = answer parameters)
include hget

/-- For a text that can be spliced in, the information is the answer for that text. -/
theorem getPlaceInfo_of_plain {apiKey query : List UInt16} (hkey : Plain apiKey)
    (hquery : Plain query) :
    getPlaceInfo get (some apiKey) query =
      info (answer [(ofString "query", query), (ofString "key", apiKey)]) := by
  rw [getPlaceInfo, hget _ _ ((placeUri_decodesTo_iff apiKey query).mpr ⟨hquery, hkey⟩)]

theorem getGeocodeInfo_of_plain {apiKey address : List UInt16} (hkey : Plain apiKey)
    (haddress : Plain address) :
    getGeocodeInfo get (some apiKey) address =
      info (answer [(ofString "address", address), (ofString "key", apiKey)]) := by
  rw [getGeocodeInfo, hget _ _ ((geocodeUri_decodesTo_iff apiKey address).mpr ⟨haddress, hkey⟩)]

end Answers

end SmartHome.GoogleApiService
