import SmartHome.Firestore

/-!
# Reading a profile document

Two readers decode the same document of the collection `profiles`. `UserProfile.fromFirestore` is
used by `UserProfileProvider`, `FirestoreService` and `FireBaseController`; the page
`ProfileDetailScreen` keeps the raw map and computes the full name itself.

In `fromFirestore` the expression `data['firstname']+" "+data['lastname'] ?? ''` groups as
`(data['firstname']+" "+data['lastname']) ?? ''`, so the default applies to a sum that is never
null while a missing part makes the sum itself throw. The other reader defaults each part.

## Main definitions

* `UserProfile`, `UserProfile.fromFirestore`, `UserProfile.toMap`.
* `ProfileDetail`, `ProfileDetail.fetchUserProfile`.
* `TextFields` : the fields both readers use are strings or missing.

## Main results

* `UserProfile.fromFirestore_eq_ok` : when and to what the decoder succeeds.
* `decodeAgrees_iff` : on a document with text fields, the two readers agree exactly when both parts
  of the name are present.
-/

namespace SmartHome

open Dart

/-- A decoded profile. -/
structure UserProfile where
  id : String
  name : String
  email : String
  phone : String
  deriving Repr, DecidableEq

namespace UserProfile

/-- The decoder. Its steps are in the order of the constructor call, so the first field that fails
decides the error. -/
def fromFirestore (snapshot : Option Fields) : Except Error UserProfile := do
  let data ← dataAsMap snapshot
  let id ← data.fieldOrEmpty "id"
  -- the operand of `?? ''` is the whole sum, a string
  let name ← strPlus (← (data.field "firstname").plusStr " ") (data.field "lastname")
  let phone ← data.fieldOrEmpty "phone"
  let email ← data.fieldOrEmpty "email"
  return { id, name, email, phone }

/-- The encoder. -/
def toMap (p : UserProfile) : List (String × Dyn) :=
  [("id", .str p.id), ("name", .str p.name), ("phone", .str p.phone), ("email", .str p.email)]

end UserProfile

/-- The state of `ProfileDetailScreen` that a fetch writes. -/
structure ProfileDetail where
  profile : Option Fields
  fullname : Option String

namespace ProfileDetail

/-- The page before its first fetch completes. -/
def initial : ProfileDetail := { profile := none, fullname := none }

/-- `(profileJson['firstname'] ?? '') + " " + (profileJson['lastname'] ?? '')`. -/
def fullnameOf (profileJson : Fields) : Except Error String := do
  strPlus (← ((profileJson.field "firstname").orElse (.str "")).plusStr " ")
    ((profileJson.field "lastname").orElse (.str ""))

/-- What the page does with the map that `getProfile` returned. The closure assigns the map before
it computes the name, so the map stays when the name throws. -/
def fetchUserProfile (s : ProfileDetail) : Option Fields → ProfileDetail × Option Error
  | some profileJson =>
    match fullnameOf profileJson with
    | .ok fullname => ({ profile := some profileJson, fullname := some fullname }, none)
    | .error e => ({ s with profile := some profileJson }, some e)
  | none => ({ profile := none, fullname := none }, none)

end ProfileDetail

/-! ### When the decoder succeeds -/

theorem Fields.fieldOrEmpty_of_none {d : Fields} {key : String} (h : d key = none) :
    d.fieldOrEmpty key = .ok "" := by
  simp [Fields.fieldOrEmpty, h]

theorem Fields.fieldOrEmpty_of_str {d : Fields} {key s : String} (h : d key = some (.str s)) :
    d.fieldOrEmpty key = .ok s := by
  simp [Fields.fieldOrEmpty, h]

namespace UserProfile

/-- A document that does not exist cannot be decoded. -/
theorem fromFirestore_none : fromFirestore none = .error .typeError := rfl

/-- The decoder succeeds exactly when both parts of the name are strings and the other three fields
are strings or missing. -/
theorem fromFirestore_eq_ok {d : Fields} {p : UserProfile} :
    fromFirestore (some d) = .ok p ↔
      d.fieldOrEmpty "id" = .ok p.id ∧ d.fieldOrEmpty "phone" = .ok p.phone ∧
        d.fieldOrEmpty "email" = .ok p.email ∧
        ∃ first last, d "firstname" = some (.str first) ∧ d "lastname" = some (.str last) ∧
          p.name = first ++ " " ++ last := by
  simp only [← Fields.field_eq_str]
  constructor
  · intro h
    obtain ⟨data, hdata, h⟩ := bind_eq_ok.mp h
    obtain rfl : d = data := Except.ok.inj hdata
    obtain ⟨id, hid, h⟩ := bind_eq_ok.mp h
    obtain ⟨sum, hsum, h⟩ := bind_eq_ok.mp h
    obtain ⟨name, hname, h⟩ := bind_eq_ok.mp h
    obtain ⟨phone, hphone, h⟩ := bind_eq_ok.mp h
    obtain ⟨email, hemail, h⟩ := bind_eq_ok.mp h
    obtain rfl := Except.ok.inj h
    obtain ⟨first, hfirst, rfl⟩ := Dyn.plusStr_eq_ok.mp hsum
    obtain ⟨last, hlast, rfl⟩ := strPlus_eq_ok.mp hname
    exact ⟨hid, hphone, hemail, first, last, hfirst, hlast, rfl⟩
  · rintro ⟨hid, hphone, hemail, first, last, hfirst, hlast, hname⟩
    refine bind_eq_ok.mpr ⟨d, rfl, ?_⟩
    simp only [hid, hphone, hemail, hfirst, hlast, Dyn.plusStr_str, strPlus_str, ok_bind, ← hname]
    rfl

end UserProfile

/-! ### Agreement of the two readers -/

/-- The fields that the two readers use are strings or missing. -/
def TextFields (d : Fields) : Prop :=
  ∀ key ∈ ["id", "firstname", "lastname", "phone", "email"],
    d key = none ∨ ∃ s, d key = some (.str s)

/-- The text of a field, empty if it is missing. -/
def textOrEmpty (d : Fields) (key : String) : String :=
  match d key with
  | some (.str s) => s
  | _ => ""

/-- The decoder completes on the snapshot, missing fields read as the empty text, and the name is
the one that the page `s` computes from the same snapshot. -/
def DecodeAgrees (s : ProfileDetail) (snapshot : Option Fields) : Prop :=
  ∃ p, UserProfile.fromFirestore snapshot = .ok p ∧
    p.id = textOrEmpty (snapshot.getD Document.empty) "id" ∧
    p.phone = textOrEmpty (snapshot.getD Document.empty) "phone" ∧
    p.email = textOrEmpty (snapshot.getD Document.empty) "email" ∧
    (s.fetchUserProfile snapshot).1.fullname = some p.name

theorem fieldOrEmpty_of_textFields {d : Fields} (hd : TextFields d) {key : String}
    (hkey : key ∈ ["id", "firstname", "lastname", "phone", "email"]) :
    d.fieldOrEmpty key = .ok (textOrEmpty d key) := by
  rcases hd key hkey with h | ⟨s, h⟩
  · rw [Fields.fieldOrEmpty_of_none h, textOrEmpty, h]
  · rw [Fields.fieldOrEmpty_of_str h, textOrEmpty, h]

/-- Where both parts of the name are strings the page computes the same sum as the decoder. -/
theorem ProfileDetail.fullname_of_parts (s : ProfileDetail) {d : Fields} {first last : String}
    (hfirst : d "firstname" = some (.str first)) (hlast : d "lastname" = some (.str last)) :
    (s.fetchUserProfile (some d)).1.fullname = some (first ++ " " ++ last) := by
  have h : ProfileDetail.fullnameOf d = .ok (first ++ " " ++ last) := by
    simp only [ProfileDetail.fullnameOf, Fields.field_of_some hfirst, Fields.field_of_some hlast,
      Dyn.orElse_str, Dyn.plusStr_str, ok_bind, strPlus_str]
  simp only [ProfileDetail.fetchUserProfile, h]

/-- **The two readers of a profile document.** On a snapshot whose fields are strings or missing,
the decoder completes with the documented defaults and with the full name of the page exactly when
the document exists and has both parts of the name. -/
theorem decodeAgrees_iff {snapshot : Option Fields} (hd : ∀ d, snapshot = some d → TextFields d)
    (s : ProfileDetail) :
    DecodeAgrees s snapshot ↔
      ∃ d, snapshot = some d ∧ d "firstname" ≠ none ∧ d "lastname" ≠ none := by
  constructor
  · rintro ⟨p, hp, -⟩
    cases snapshot with
    | none => cases hp
    | some d =>
      obtain ⟨-, -, -, first, last, hfirst, hlast, -⟩ := UserProfile.fromFirestore_eq_ok.mp hp
      exact ⟨d, rfl, by simp [hfirst], by simp [hlast]⟩
  · rintro ⟨d, rfl, hfirst, hlast⟩
    have htext := hd d rfl
    obtain ⟨first, hfirst⟩ := (htext "firstname" (by simp)).resolve_left hfirst
    obtain ⟨last, hlast⟩ := (htext "lastname" (by simp)).resolve_left hlast
    refine ⟨⟨textOrEmpty d "id", first ++ " " ++ last, textOrEmpty d "email",
      textOrEmpty d "phone"⟩, ?_, rfl, rfl, rfl, s.fullname_of_parts hfirst hlast⟩
    exact UserProfile.fromFirestore_eq_ok.mpr ⟨fieldOrEmpty_of_textFields htext (by simp),
      fieldOrEmpty_of_textFields htext (by simp), fieldOrEmpty_of_textFields htext (by simp),
      first, last, hfirst, hlast, rfl⟩

/-- A document that was written with text values only. -/
theorem textFields_ofList {entries : List (String × Dyn)}
    (h : ∀ entry ∈ entries, ∃ s, entry.2 = .str s) : TextFields (Fields.ofList entries) := by
  intro key _
  cases hkey : entries.lookup key with
  | none => exact Or.inl (by rw [Fields.ofList, Document.merge_of_lookup_none hkey]; rfl)
  | some v =>
    obtain ⟨before, after, rfl, -⟩ := List.lookup_eq_some_iff.mp hkey
    obtain ⟨s, rfl⟩ := h (key, v) (List.mem_append_right before List.mem_cons_self)
    exact Or.inr ⟨s, by rw [Fields.ofList, Document.merge_of_lookup hkey]⟩

/-- A profile with both parts of a name and no other field. -/
def annLee : Fields := Fields.ofList [("firstname", .str "Ann"), ("lastname", .str "Lee")]

/-- A profile with a first name only. -/
def ann : Fields := Fields.ofList [("firstname", .str "Ann")]

theorem textFields_annLee : TextFields annLee :=
  textFields_ofList (by simp)

theorem textFields_ann : TextFields ann :=
  textFields_ofList (by simp)

theorem decodeAgrees_annLee :
    DecodeAgrees ProfileDetail.initial (some annLee) ↔
      ∃ d, some annLee = some d ∧ d "firstname" ≠ none ∧ d "lastname" ≠ none :=
  decodeAgrees_iff (fun _ h => Option.some.inj h ▸ textFields_annLee) ProfileDetail.initial

/-- The decoder throws on the profile of an account that never saved one, and on a profile without
a last name, which the page shows as `Ann` and a blank. -/
theorem decoder_throws_where_page_reads :
    UserProfile.fromFirestore none = .error .typeError ∧
      TextFields ann ∧ UserProfile.fromFirestore (some ann) = .error .typeError ∧
      (ProfileDetail.initial.fetchUserProfile (some ann)).1.fullname = some "Ann " ∧
      ¬ DecodeAgrees ProfileDetail.initial none ∧
      ¬ DecodeAgrees ProfileDetail.initial (some ann) := by
  refine ⟨rfl, textFields_ann, rfl, rfl, ?_, ?_⟩
  · rintro ⟨p, hp, -⟩
    cases hp
  · rintro ⟨p, hp, -⟩
    obtain ⟨-, -, -, first, last, -, hlast, -⟩ := UserProfile.fromFirestore_eq_ok.mp hp
    cases hlast

end SmartHome
