import SmartHome.Lib.Json

/-!
# The QR code of an account

`ProfileQRCodeScreen` shows the data of the account that was signed in when the page was opened, as
a JSON text in a QR code. Four of the five members are what `getCurrentUserData` returns.

## Main definitions

* `QrCode.User`, `QrCode.getCurrentUserData`.
* `QrCode.getUserDataAsJson`, `QrCode.userDataJson` : the text of the code.

## Main results

* `QrCode.userDataJson_reads_back` : the text determines the account, and a reader gets its data.
-/

namespace SmartHome.QrCode

open Json (Value)
open Utf16 (ofString)

/-- An account as `FirebaseAuth` hands it over. -/
structure User where
  uid : List UInt16
  email : Option (List UInt16)
  displayName : Option (List UInt16)
  phoneNumber : Option (List UInt16)
  photoURL : Option (List UInt16)
  deriving DecidableEq

/-- The fields that `getCurrentUserData` can be asked for. -/
inductive UserDataField where
  | uid
  | email
  | displayName
  | phoneNumber
  deriving DecidableEq

/-- `getCurrentUser`, for the account that is signed in. -/
def getCurrentUser (user : Option User) : Option (List UInt16) := user.map User.uid

/-- `getCurrentUserData`, for the account that is signed in. -/
def getCurrentUserData (user : Option User) (field : UserDataField) : Option (List UInt16) :=
  user.bind fun user =>
    match field with
    | .uid => some user.uid
    | .email => user.email
    | .displayName => user.displayName
    | .phoneNumber => user.phoneNumber

/-- A string that may be null. -/
def nullable (s : Option (List UInt16)) : Value := s.elim .null .str

/-- The members of `userData`. -/
def members (user : User) : List (List UInt16 × Value) :=
  [(ofString "uid", .str user.uid), (ofString "email", nullable user.email),
    (ofString "displayName", nullable user.displayName),
    (ofString "phoneNumber", nullable user.phoneNumber),
    (ofString "photoURL", nullable user.photoURL)]

/-- `_getUserDataAsJson`. -/
def getUserDataAsJson (user : User) : List UInt16 := Json.encode (.object (members user))

/-- The text of the code that `build` shows. -/
def userDataJson (user : Option User) : List UInt16 := user.elim [] getUserDataAsJson

/-- The name of the member with a field. -/
def UserDataField.name : UserDataField → List UInt16
  | .uid => ofString "uid"
  | .email => ofString "email"
  | .displayName => ofString "displayName"
  | .phoneNumber => ofString "phoneNumber"

theorem nullable_injective : Function.Injective nullable := by
  rintro (_ | s) (_ | t) h
  · rfl
  · cases h
  · cases h
  · exact congrArg some (Value.str.inj h)

/-- The members determine the account. -/
theorem members_injective : Function.Injective members := by
  rintro ⟨uid, email, displayName, phoneNumber, photoURL⟩
    ⟨uid', email', displayName', phoneNumber', photoURL'⟩ h
  simp only [members, List.cons.injEq, Prod.mk.injEq, Value.str.injEq, true_and, and_true] at h
  obtain ⟨rfl, hemail, hname, hphone, hphoto⟩ := h
  rw [nullable_injective hemail, nullable_injective hname, nullable_injective hphone,
    nullable_injective hphoto]

theorem getUserDataAsJson_injective : Function.Injective getUserDataAsJson := fun _ _ h =>
  members_injective (Value.object.inj (Json.encode_injective h))

theorem getUserDataAsJson_ne_nil (user : User) : getUserDataAsJson user ≠ [] :=
  List.length_pos_iff.mp (Json.length_encode_pos _)

/-- **The QR code of an account.** Different accounts have different codes, and the code of nobody
is that of no account. The text is well-formed UTF-16 whatever the data holds. It is read back as an
object with the five members, among them what `getCurrentUserData` returns. -/
theorem userDataJson_reads_back :
    Function.Injective userDataJson ∧ ∀ user : User,
      Utf16.wellFormed (userDataJson (some user)) = true ∧
      Json.decode (userDataJson (some user)) = some (.object (members user)) ∧
      ∀ field : UserDataField, (members user).lookup field.name =
        some (nullable (getCurrentUserData (some user) field)) := by
  refine ⟨?_, fun user => ⟨Json.wellFormed_encode _, Json.decode_encode _, fun field => ?_⟩⟩
  · rintro (_ | user) (_ | user') h
    · rfl
    · exact absurd h.symm (getUserDataAsJson_ne_nil user')
    · exact absurd h (getUserDataAsJson_ne_nil user)
    · exact congrArg some (getUserDataAsJson_injective h)
  · cases field <;> rfl

/-- A quote and half a pair of surrogates in a name. -/
example : getUserDataAsJson ⟨ofString "u1", none, some (ofString "A\"" ++ [0xD83D]), none, none⟩ =
    ofString "\x7b\"uid\":\"u1\",\"email\":null,\"displayName\":\"A\\\"\\ud83d\"," ++
      ofString "\"phoneNumber\":null,\"photoURL\":null\x7d" := by
  decide

end SmartHome.QrCode
