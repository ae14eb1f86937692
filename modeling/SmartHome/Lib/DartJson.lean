import SmartHome.Lib.DartValue
import SmartHome.Lib.Json
import SmartHome.Lib.LinkedMap

/-!
# What a JSON text decodes to

The dynamic values that `json.decode` builds. A name that an object repeats keeps its first place
and takes its last value. A number that is written as an integer and fits into 64 bits is an `int`;
every other number is a `double`, whose text is a parameter.

The strings of a dynamic value consist of characters. What a text decodes to where an escaped
surrogate has no partner is not represented.

## Main definitions

* `Dart.dyn?`, `Dart.jsonDecode`.
* `Dart.member` : the last member of an object with a name.

## Main results

* `Dart.index_eq_ok` : a decoded object is read by the last member with a name.
* `Dart.dyn?_array_eq_some` : a decoded array is the list of its decoded elements.
* `Dart.jsonDecode_encode` : what is written decodes to what the value stands for.
-/

namespace Dart

open Json (Number Value)
open Utf16 (ofString)

/-- The characters of a string. -/
def string? (s : List UInt16) : Option String :=
  if Utf16.wellFormed s then some (String.ofList ((Utf16.runes s).map Char.ofNat)) else none

section

variable (doubleText : List UInt16 → String)

/-- A number. -/
def number (n : Number) : Dyn :=
  match (string? n.text).bind fun text => (intParse text).toOption with
  | some z => .int z
  | none => .double (doubleText n.text)

mutual

/-- A decoded value. -/
def dyn? : Value → Option Dyn
  | .null => some .null
  | .bool b => some (.bool b)
  | .num n => some (number doubleText n)
  | .str s => (string? s).map .str
  | .array vs => (dynElements? vs).map .list
  | .object ms => (dynMembers? ms []).map .map

/-- The elements of an array. -/
def dynElements? : List Value → Option (List Dyn)
  | [] => some []
  | v :: vs => (dyn? v).bind fun d => (dynElements? vs).map fun ds => d :: ds

/-- The entries of an object, after those of the members before. -/
def dynMembers? :
    List (List UInt16 × Value) → LinkedMap String Dyn → Option (LinkedMap String Dyn)
  | [], entries => some entries
  | (k, v) :: ms, entries =>
    (string? k).bind fun name => (dyn? v).bind fun d => dynMembers? ms (entries.put name d)

end

/-- `json.decode`. -/
def jsonDecode (text : List UInt16) : Option (Except Error Dyn) :=
  match Json.decode text with
  | none => some (.error .formatException)
  | some v => (dyn? doubleText v).map .ok

end

/-- The last of the members with a name. -/
def lastMember (ms : List (List UInt16 × Value)) (name : String) : Option Value :=
  (ms.reverse.find? fun m => m.1 = ofString name).map Prod.snd

/-- The value under a name in an object. -/
def member : Value → String → Option Value
  | .object ms, name => lastMember ms name
  | _, _ => none

/-! ### Strings and numbers -/

theorem map_ofNat_runes (cs : List Char) :
    (Utf16.runes (Utf16.ofChars cs)).map Char.ofNat = cs := by
  rw [Utf16.runes_ofChars, List.map_map]
  exact List.map_id'' Char.ofNat_toNat cs

theorem string?_ofString (s : String) : string? (ofString s) = some s := by
  rw [string?, ofString, if_pos (Utf16.wellFormed_ofChars _), map_ofNat_runes, String.ofList_toList]

/-- The only units of a string are its own. -/
theorem string?_eq_some {us : List UInt16} {s : String} :
    string? us = some s ↔ us = ofString s := by
  constructor
  · intro h
    obtain ⟨hwellFormed, hs⟩ : Utf16.wellFormed us = true ∧
        String.ofList ((Utf16.runes us).map Char.ofNat) = s := by simpa [string?] using h
    obtain ⟨cs, rfl⟩ := Utf16.wellFormed_iff_ofChars.mp hwellFormed
    rw [map_ofNat_runes] at hs
    rw [← hs, ofString, String.toList_ofList]
  · rintro rfl
    exact string?_ofString s

section

variable {doubleText : List UInt16 → String}

/-- The decimal text of an integer that fits into 64 bits decodes to it. -/
theorem number_of_int {n : Number} {z : ℤ} (htext : n.text = ofString (toString z))
    (hlow : -2 ^ 63 ≤ z) (hhigh : z < 2 ^ 63) : number doubleText n = .int z := by
  have hparse : intParse (toString z) = .ok z := by
    rw [intParse_toString, if_pos ⟨hlow, hhigh⟩]
  rw [number, htext, string?_ofString, Option.bind_some, hparse]
  rfl

theorem dyn?_str (s : String) : dyn? doubleText (.str (ofString s)) = some (.str s) := by
  rw [dyn?, string?_ofString, Option.map_some]

/-- A written value decodes to what the value stands for. -/
theorem jsonDecode_encode (v : Value) :
    jsonDecode doubleText (Json.encode v) = (dyn? doubleText v).map .ok := by
  rw [jsonDecode, Json.decode_encode]

/-! ### Arrays and objects -/

/-- Two lists that are related to a third one element by element are related so to each other. -/
theorem forall₂_of_common {α β γ : Type} {P : α → β → Prop} {Q : α → γ → Prop} {R : β → γ → Prop}
    (h : ∀ a b c, P a b → Q a c → R b c) {as : List α} {bs : List β} {cs : List γ}
    (hbs : List.Forall₂ P as bs) (hcs : List.Forall₂ Q as cs) : List.Forall₂ R bs cs := by
  induction hbs generalizing cs with
  | nil =>
    cases hcs
    exact .nil
  | cons hhead _ ih =>
    cases hcs with
    | cons hhead' htail' => exact .cons (h _ _ _ hhead hhead') (ih htail')

theorem dynElements?_eq_some {vs : List Value} {ds : List Dyn} :
    dynElements? doubleText vs = some ds ↔
      List.Forall₂ (fun v d => dyn? doubleText v = some d) vs ds := by
  induction vs generalizing ds with
  | nil => simp [dynElements?, eq_comm]
  | cons v vs ih =>
    rw [dynElements?, Option.bind_eq_some_iff, List.forall₂_cons_left_iff]
    refine exists_congr fun d => ?_
    rw [Option.map_eq_some_iff]
    constructor
    · rintro ⟨hd, rest, hrest, rfl⟩
      exact ⟨rest, hd, ih.mp hrest, rfl⟩
    · rintro ⟨rest, hd, hrest, rfl⟩
      exact ⟨hd, rest, ih.mpr hrest, rfl⟩

/-- A decoded array is the list of its decoded elements. -/
theorem dyn?_array_eq_some {vs : List Value} {d : Dyn} :
    dyn? doubleText (.array vs) = some d ↔
      ∃ ds, d = .list ds ∧ List.Forall₂ (fun v d => dyn? doubleText v = some d) vs ds := by
  rw [dyn?, Option.map_eq_some_iff]
  refine exists_congr fun ds => ?_
  rw [dynElements?_eq_some, and_comm, eq_comm]

theorem lookup_eq_get? (m : LinkedMap String Dyn) (key : String) : m.lookup key = m.get? key := by
  induction m with
  | nil => rfl
  | cons entry m ih =>
    obtain ⟨k, d⟩ := entry
    by_cases hk : k = key
    · subst hk
      simp [LinkedMap.get?]
    · have hbeq : (key == k) = false := beq_false_of_ne (Ne.symm hk)
      simp [LinkedMap.get?, List.lookup_cons, hk, hbeq, ih]

theorem lastMember_cons (k : List UInt16) (v : Value) (ms : List (List UInt16 × Value))
    (name : String) :
    lastMember ((k, v) :: ms) name =
      (lastMember ms name).or (if k = ofString name then some v else none) := by
  rw [lastMember, List.reverse_cons, List.find?_append, Option.map_or, ← lastMember]
  by_cases hk : k = ofString name <;> simp [hk]

/-- Under a name the entries hold the decoded last member with it. -/
theorem get?_of_dynMembers {ms : List (List UInt16 × Value)} {entries result : LinkedMap String Dyn}
    (h : dynMembers? doubleText ms entries = some result) (name : String) :
    result.get? name = (lastMember ms name).elim (entries.get? name) (dyn? doubleText) := by
  induction ms generalizing entries with
  | nil =>
    obtain rfl := Option.some.inj h
    rfl
  | cons m ms ih =>
    obtain ⟨k, v⟩ := m
    rw [dynMembers?] at h
    obtain ⟨own, hown, h⟩ := Option.bind_eq_some_iff.mp h
    obtain ⟨d, hd, h⟩ := Option.bind_eq_some_iff.mp h
    rw [ih h, lastMember_cons, LinkedMap.get?_put]
    obtain rfl := string?_eq_some.mp hown
    have hsame : ofString own = ofString name ↔ own = name := by
      rw [← string?_eq_some, string?_ofString, Option.some.injEq]
    cases lastMember ms name with
    | some w => rfl
    | none => by_cases hname : own = name <;> simp [hsame, hname, hd]

/-- A decoded object is read by the last member with the name. -/
theorem index_eq_ok {v w : Value} {d e : Dyn} {name : String} (hd : dyn? doubleText v = some d)
    (hw : member v name = some w) (he : dyn? doubleText w = some e) : d.index name = .ok e := by
  cases v with
  | object ms =>
    rw [dyn?] at hd
    obtain ⟨entries, hentries, rfl⟩ := Option.map_eq_some_iff.mp hd
    have hget := get?_of_dynMembers hentries name
    rw [member] at hw
    rw [hw, Option.elim_some, he] at hget
    rw [Dyn.index, lookup_eq_get?, hget, Option.getD_some]
  | _ => cases hw

end

end Dart
