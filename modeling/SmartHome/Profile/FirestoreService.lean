import SmartHome.Profile.UserProfile

/-!
# Writing a profile and reading it back

`FirestoreService.updateUser` merges the encoded profile into the document of the account;
`getUser` and `streamUser` decode that document. The encoder writes the name under the key `name`
while the decoder reads `firstname` and `lastname`, which the encoder leaves as they were.

## Main definitions

* `FirestoreService.getUser`, `FirestoreService.streamUser`, `FirestoreService.updateUser`.
* `FirestoreService.ReadsBack` : an update is read back as the profile that was written.

## Main results

* `FirestoreService.readsBack_iff` : an update is read back exactly when the document already held
  the two parts of the written name.
-/

namespace SmartHome.FirestoreService

open Dart

/-- `getUser`, on the outcome of the read. Whatever is thrown is caught. -/
def getUser (read : Except Error (Option Fields)) : Option UserProfile :=
  match read with
  | .ok (some d) => (UserProfile.fromFirestore (some d)).toOption
  | .ok none => none
  | .error _ => none

/-- The value that `streamUser` emits for a snapshot, or the error of the stream. -/
def streamUser (snapshot : Option Fields) : Except Error (Option UserProfile) :=
  match snapshot with
  | some d => (UserProfile.fromFirestore (some d)).map some
  | none => .ok none

/-- `updateUser`, with the outcome of the write. A write that throws is caught and changes
nothing. -/
def updateUser (profiles : Profiles) (userId : Uid) (profile : UserProfile)
    (write : Except Error Unit) : Profiles :=
  match write with
  | .ok _ => profiles.setMerge userId profile.toMap
  | .error _ => profiles

/-- After `updateUser` has written `p`, both readers give exactly `p`. -/
def ReadsBack (profiles : Profiles) (userId : Uid) (p : UserProfile) : Prop :=
  getUser (.ok (updateUser profiles userId p (.ok ()) userId)) = some p ∧
    streamUser (updateUser profiles userId p (.ok ()) userId) = .ok (some p)

/-- An update touches the document of one account only. -/
theorem updateUser_of_ne (profiles : Profiles) {userId other : Uid} (h : other ≠ userId)
    (p : UserProfile) (write : Except Error Unit) :
    updateUser profiles userId p write other = profiles other := by
  cases write with
  | ok _ => exact Collection.setMerge_of_ne profiles h p.toMap
  | error _ => rfl

/-- The document after an update. -/
theorem updateUser_self (profiles : Profiles) (userId : Uid) (p : UserProfile) :
    updateUser profiles userId p (.ok ()) userId =
      some ((profiles.base userId).merge p.toMap) :=
  Collection.setMerge_self profiles userId p.toMap

section Update

variable (profiles : Profiles) (userId : Uid) (p : UserProfile)

/-- What the decoder makes of the document after an update: the written id, phone and email, and
the name of the earlier document. -/
theorem fromFirestore_updateUser {q : UserProfile} :
    UserProfile.fromFirestore (updateUser profiles userId p (.ok ()) userId) = .ok q ↔
      q.id = p.id ∧ q.phone = p.phone ∧ q.email = p.email ∧
        ∃ first last, profiles.base userId "firstname" = some (.str first) ∧
          profiles.base userId "lastname" = some (.str last) ∧
          q.name = first ++ " " ++ last := by
  have hid : ((profiles.base userId).merge p.toMap) "id" = some (.str p.id) :=
    Document.merge_of_lookup rfl
  have hphone : ((profiles.base userId).merge p.toMap) "phone" = some (.str p.phone) :=
    Document.merge_of_lookup rfl
  have hemail : ((profiles.base userId).merge p.toMap) "email" = some (.str p.email) :=
    Document.merge_of_lookup rfl
  -- the encoder writes neither part of the name
  have hfirst : ((profiles.base userId).merge p.toMap) "firstname" =
      profiles.base userId "firstname" := Document.merge_of_lookup_none rfl
  have hlast : ((profiles.base userId).merge p.toMap) "lastname" =
      profiles.base userId "lastname" := Document.merge_of_lookup_none rfl
  rw [updateUser_self, UserProfile.fromFirestore_eq_ok, Fields.fieldOrEmpty_of_str hid,
    Fields.fieldOrEmpty_of_str hphone, Fields.fieldOrEmpty_of_str hemail, hfirst, hlast]
  simp only [Except.ok.injEq, eq_comm (a := q.id), eq_comm (a := q.phone), eq_comm (a := q.email)]

theorem getUser_ok_eq_some {snapshot : Option Fields} {q : UserProfile} :
    getUser (.ok snapshot) = some q ↔ UserProfile.fromFirestore snapshot = .ok q := by
  cases snapshot with
  | none => simp [getUser, UserProfile.fromFirestore_none]
  | some d => cases h : UserProfile.fromFirestore (some d) <;> simp [getUser, h, Except.toOption]

theorem streamUser_eq_ok_some {snapshot : Option Fields} {q : UserProfile} :
    streamUser snapshot = .ok (some q) ↔ UserProfile.fromFirestore snapshot = .ok q := by
  cases snapshot with
  | none => simp [streamUser, UserProfile.fromFirestore_none]
  | some d => cases h : UserProfile.fromFirestore (some d) <;> simp [streamUser, h, Except.map]

/-- **Round trip of an update.** The profile that was written is read back, by `getUser` and by the
stream, exactly when the document already held a first and a last name that make up the written
name. -/
theorem readsBack_iff :
    ReadsBack profiles userId p ↔
      ∃ d first last, profiles userId = some d ∧ d "firstname" = some (.str first) ∧
        d "lastname" = some (.str last) ∧ p.name = first ++ " " ++ last := by
  rw [ReadsBack, getUser_ok_eq_some, streamUser_eq_ok_some, and_self, fromFirestore_updateUser]
  constructor
  · rintro ⟨-, -, -, first, last, hfirst, hlast, hname⟩
    cases h : profiles userId with
    | none =>
      rw [Collection.base_of_none h] at hfirst
      cases hfirst
    | some d =>
      rw [Collection.base_of_some h] at hfirst hlast
      exact ⟨d, first, last, rfl, hfirst, hlast, hname⟩
  · rintro ⟨d, first, last, h, hfirst, hlast, hname⟩
    rw [Collection.base_of_some h]
    exact ⟨rfl, rfl, rfl, first, last, hfirst, hlast, hname⟩

end Update

/-- The profile that is written in `new_profile_not_read_back`. -/
def annLeeProfile : UserProfile :=
  { id := "u1", name := "Ann Lee", email := "ann@lee.org", phone := "081" }

/-- A profile that is written for an account without a document is stored and never read back. -/
theorem new_profile_not_read_back :
    getUser (.ok (updateUser (fun _ => none) "u1" annLeeProfile (.ok ()) "u1")) = none ∧
      streamUser (updateUser (fun _ => none) "u1" annLeeProfile (.ok ()) "u1") =
        .error .noSuchMethod ∧
      ¬ ReadsBack (fun _ => none) "u1" annLeeProfile := by
  refine ⟨rfl, rfl, ?_⟩
  rintro ⟨h, -⟩
  cases h

end SmartHome.FirestoreService
