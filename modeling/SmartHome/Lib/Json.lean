import SmartHome.Lib.Uri

/-!
# JSON texts

A JSON text is a list of UTF-16 code units. `encode` writes a value without white space; in a string
it escapes quotes, backslashes, control characters and the surrogates that have no partner, so that
every text it writes is well-formed UTF-16. `decode` reads a value between any white space. The
calls of the reader within each other are bounded by the length of the text.

A number is represented by its text, and an object by the list of its members.

## Main definitions

* `Json.Value`, `Json.encode`, `Json.decode`.

## Main results

* `Json.decode_encode` : a value is read back.
* `Json.encode_injective`, `Json.wellFormed_encode`.
-/

namespace Json

open Utf16 (code isHigh isLow ofString wellFormed)
open Uri (hexDigitValue)

/-! ### Numbers -/

/-- A decimal digit. -/
def isDigit (u : UInt16) : Bool := 0x30 ≤ u && u ≤ 0x39

/-- A character that can be part of a number. -/
def isNumberChar (u : UInt16) : Bool :=
  isDigit u || (ofString "+-.eE").contains u

/-- The text after one or more digits. -/
def afterDigits : List UInt16 → Option (List UInt16)
  | [] => none
  | u :: us => if isDigit u then some (us.dropWhile isDigit) else none

/-- The text after the integer part of a number, which has no leading zeros. -/
def afterInteger : List UInt16 → Option (List UInt16)
  | [] => none
  | u :: us => if u = code '0' then some us else afterDigits (u :: us)

/-- The text after the fraction, if there is one. -/
def afterFraction : List UInt16 → Option (List UInt16)
  | [] => some []
  | u :: us => if u = code '.' then afterDigits us else some (u :: us)

/-- The text after the sign of an exponent, if there is one. -/
def afterSign : List UInt16 → List UInt16
  | [] => []
  | u :: us => if u = code '+' ∨ u = code '-' then us else u :: us

/-- The text after the exponent, if there is one. -/
def afterExponent : List UInt16 → Option (List UInt16)
  | [] => some []
  | u :: us => if u = code 'e' ∨ u = code 'E' then afterDigits (afterSign us) else some (u :: us)

/-- The text after a minus sign, if there is one. -/
def afterMinus : List UInt16 → List UInt16
  | [] => []
  | u :: us => if u = code '-' then us else u :: us

/-- The text is a number. -/
def isNumber (s : List UInt16) : Bool :=
  s.all isNumberChar &&
    (((afterInteger (afterMinus s)).bind afterFraction).bind afterExponent).any List.isEmpty

/-- A number. -/
structure Number where
  text : List UInt16
  isNumber_text : isNumber text = true
  deriving DecidableEq

/-! ### Values -/

/-- A value. The members of an object are listed as they are written. -/
inductive Value where
  | null
  | bool (b : Bool)
  | num (n : Number)
  | str (s : List UInt16)
  | array (elements : List Value)
  | object (members : List (List UInt16 × Value))

/-! ### Writing -/

/-- A lower case hexadecimal digit. -/
def hexDigit (n : ℕ) : UInt16 := .ofNat (if n < 10 then 0x30 + n else 0x57 + n)

/-- The escape of a unit by its four digits. -/
def hexEscape (u : UInt16) : List UInt16 :=
  [code '\\', code 'u', hexDigit (u.toNat / 0x1000), hexDigit (u.toNat / 0x100 % 0x10),
    hexDigit (u.toNat / 0x10 % 0x10), hexDigit (u.toNat % 0x10)]

/-- The units with an escape of two characters, and the letters of these. -/
def shortEscapes : List (UInt16 × UInt16) :=
  [(0x08, code 'b'), (0x09, code 't'), (0x0A, code 'n'), (0x0C, code 'f'), (0x0D, code 'r'),
    (code '"', code '"'), (code '\\', code '\\')]

/-- A unit in a string, where it is not part of a pair of surrogates. -/
def escapeUnit (u : UInt16) : List UInt16 :=
  match shortEscapes.find? fun e => e.1 = u with
  | some e => [code '\\', e.2]
  | none => if isHigh u || isLow u || u < 0x20 then hexEscape u else [u]

/-- The characters of a string. -/
def escape : List UInt16 → List UInt16
  | [] => []
  | [u] => escapeUnit u
  | u :: v :: us =>
    if isHigh u && isLow v then u :: v :: escape us else escapeUnit u ++ escape (v :: us)

/-- A string. -/
def quoted (s : List UInt16) : List UInt16 := code '"' :: (escape s ++ [code '"'])

mutual

/-- `jsonEncode`. -/
def encode : Value → List UInt16
  | .null => ofString "null"
  | .bool true => ofString "true"
  | .bool false => ofString "false"
  | .num n => n.text
  | .str s => quoted s
  | .array [] => ofString "[]"
  | .array (v :: vs) => code '[' :: (encode v ++ encodeElements vs)
  | .object [] => ofString "\x7b\x7d"
  | .object ((k, v) :: ms) =>
    code '\x7b' :: (quoted k ++ code ':' :: (encode v ++ encodeMembers ms))

/-- The elements after the first one, and the end of the array. -/
def encodeElements : List Value → List UInt16
  | [] => [code ']']
  | v :: vs => code ',' :: (encode v ++ encodeElements vs)

/-- The members after the first one, and the end of the object. -/
def encodeMembers : List (List UInt16 × Value) → List UInt16
  | [] => [code '\x7d']
  | (k, v) :: ms => code ',' :: (quoted k ++ code ':' :: (encode v ++ encodeMembers ms))

end

/-! ### Reading -/

/-- White space. -/
def isSpace (u : UInt16) : Bool := [0x20, 0x09, 0x0A, 0x0D].contains u

/-- The text after white space. -/
def skip (s : List UInt16) : List UInt16 := s.dropWhile isSpace

/-- The text after the given character and white space in front of it. -/
def after (u : UInt16) (s : List UInt16) : Option (List UInt16) :=
  match skip s with
  | [] => none
  | v :: rest => if v = u then some rest else none

/-- The text after a word. -/
def afterWord : List UInt16 → List UInt16 → Option (List UInt16)
  | [], s => some s
  | _ :: _, [] => none
  | u :: word, v :: s => if u = v then afterWord word s else none

/-- The unit with four hexadecimal digits. -/
def hexUnit (a b c d : UInt16) : Option UInt16 := do
  let a ← hexDigitValue a.toNat
  let b ← hexDigitValue b.toNat
  let c ← hexDigitValue c.toNat
  let d ← hexDigitValue d.toNat
  return .ofNat (((16 * a + b) * 16 + c) * 16 + d)

/-- The unit that a letter after a backslash stands for. -/
def unescapeLetter (letter : UInt16) : Option UInt16 :=
  if letter = code '/' then some letter
  else (shortEscapes.find? fun e => e.2 = letter).map Prod.fst

/-- A string after its opening quote, and the text after it. -/
def readString : List UInt16 → Option (List UInt16 × List UInt16)
  | [] => none
  | u :: us =>
    if u = code '"' then some ([], us)
    else if u = code '\\' then
      match us with
      | [] => none
      | letter :: vs =>
        if letter = code 'u' then
          match vs with
          | a :: b :: c :: d :: rest =>
            (hexUnit a b c d).bind fun v => (readString rest).map fun r => (v :: r.1, r.2)
          | _ => none
        else (unescapeLetter letter).bind fun v => (readString vs).map fun r => (v :: r.1, r.2)
    else if u < 0x20 then none
    else (readString us).map fun r => (u :: r.1, r.2)

/-- A name and the colon after it, and the text after these. -/
def readName (s : List UInt16) : Option (List UInt16 × List UInt16) :=
  (after (code '"') s).bind fun s =>
    (readString s).bind fun r => (after (code ':') r.2).map fun s => (r.1, s)

/-- A number or a word at the start of a text, and the text after it. -/
def readScalar (s : List UInt16) : Option (Value × List UInt16) :=
  if h : isNumber (s.takeWhile isNumberChar) then
    some (.num ⟨s.takeWhile isNumberChar, h⟩, s.dropWhile isNumberChar)
  else
    ((afterWord (ofString "null") s).map fun rest => (.null, rest)) <|>
    ((afterWord (ofString "true") s).map fun rest => (.bool true, rest)) <|>
    ((afterWord (ofString "false") s).map fun rest => (.bool false, rest))

mutual

/-- A value, and the text after it. The number bounds the calls within each other. -/
def readValue : ℕ → List UInt16 → Option (Value × List UInt16)
  | 0, _ => none
  | n + 1, s =>
    match skip s with
    | [] => none
    | u :: us =>
      if u = code '"' then (readString us).map fun r => (.str r.1, r.2)
      else if u = code '[' then
        match after (code ']') us with
        | some rest => some (.array [], rest)
        | none =>
          (readValue n us).bind fun r =>
            (readElements n r.2).map fun r' => (.array (r.1 :: r'.1), r'.2)
      else if u = code '\x7b' then
        match after (code '\x7d') us with
        | some rest => some (.object [], rest)
        | none =>
          (readName us).bind fun r =>
            (readValue n r.2).bind fun r' =>
              (readMembers n r'.2).map fun r'' => (.object ((r.1, r'.1) :: r''.1), r''.2)
      else readScalar (u :: us)

/-- The elements after the first one, and the text after the end of the array. -/
def readElements : ℕ → List UInt16 → Option (List Value × List UInt16)
  | 0, _ => none
  | n + 1, s =>
    match after (code ']') s with
    | some rest => some ([], rest)
    | none =>
      (after (code ',') s).bind fun s =>
        (readValue n s).bind fun r =>
          (readElements n r.2).map fun r' => (r.1 :: r'.1, r'.2)

/-- The members after the first one, and the text after the end of the object. -/
def readMembers : ℕ → List UInt16 → Option (List (List UInt16 × Value) × List UInt16)
  | 0, _ => none
  | n + 1, s =>
    match after (code '\x7d') s with
    | some rest => some ([], rest)
    | none =>
      (after (code ',') s).bind fun s =>
        (readName s).bind fun r =>
          (readValue n r.2).bind fun r' =>
            (readMembers n r'.2).map fun r'' => ((r.1, r'.1) :: r''.1, r''.2)

end

/-- `jsonDecode`, `none` where it throws. -/
def decode (s : List UInt16) : Option Value :=
  (readValue (s.length + 1) s).bind fun r => if skip r.2 = [] then some r.1 else none

/-! ### Strings -/

theorem hexDigitValue_hexDigit {n : ℕ} (h : n < 16) :
    hexDigitValue (hexDigit n).toNat = some n := by
  have hall : ∀ n : Fin 16, hexDigitValue (hexDigit n).toNat = some n.val := by decide
  exact hall ⟨n, h⟩

/-- The four digits of a unit are read back. -/
theorem hexUnit_hexDigit (u : UInt16) :
    hexUnit (hexDigit (u.toNat / 0x1000)) (hexDigit (u.toNat / 0x100 % 0x10))
      (hexDigit (u.toNat / 0x10 % 0x10)) (hexDigit (u.toNat % 0x10)) = some u := by
  have hu : u.toNat < 0x10000 := u.toNat_lt
  have hvalue : ((16 * (u.toNat / 0x1000) + u.toNat / 0x100 % 0x10) * 16 +
      u.toNat / 0x10 % 0x10) * 16 + u.toNat % 0x10 = u.toNat := by omega
  rw [hexUnit, hexDigitValue_hexDigit (by omega), hexDigitValue_hexDigit (by omega),
    hexDigitValue_hexDigit (by omega), hexDigitValue_hexDigit (by omega)]
  change some (UInt16.ofNat _) = some u
  rw [hvalue, UInt16.ofNat_toNat]

theorem readString_quote (t : List UInt16) : readString (code '"' :: t) = some ([], t) := by
  rw [readString.eq_def]
  exact if_pos rfl

theorem readString_hex (a b c d : UInt16) (t : List UInt16) :
    readString (code '\\' :: code 'u' :: a :: b :: c :: d :: t) =
      (hexUnit a b c d).bind fun v => (readString t).map fun r => (v :: r.1, r.2) := rfl

theorem readString_letter {letter : UInt16} (h : letter ≠ code 'u') (t : List UInt16) :
    readString (code '\\' :: letter :: t) =
      (unescapeLetter letter).bind fun v => (readString t).map fun r => (v :: r.1, r.2) := by
  rw [readString.eq_def]
  simp only [if_neg h, if_neg (show ¬code '\\' = code '"' by decide), if_true]

theorem readString_unit {u : UInt16} (hquote : u ≠ code '"') (hbackslash : u ≠ code '\\')
    (hcontrol : ¬u < 0x20) (t : List UInt16) :
    readString (u :: t) = (readString t).map fun r => (u :: r.1, r.2) := by
  rw [readString.eq_def]
  simp only [if_neg hquote, if_neg hbackslash, if_neg hcontrol]

/-- The short escapes are read back. -/
theorem unescapeLetter_of_mem {e : UInt16 × UInt16} (h : e ∈ shortEscapes) :
    e.2 ≠ code 'u' ∧ unescapeLetter e.2 = some e.1 := by
  have hall : shortEscapes.all (fun e => e.2 ≠ code 'u' ∧ unescapeLetter e.2 = some e.1) = true :=
    rfl
  simpa using List.all_eq_true.mp hall e h

/-- A unit that is written alone is its short escape, its escape by digits, or itself. -/
theorem escapeUnit_cases (u : UInt16) :
    (∃ letter, (u, letter) ∈ shortEscapes ∧ escapeUnit u = [code '\\', letter]) ∨
      escapeUnit u = hexEscape u ∨
      (escapeUnit u = [u] ∧ u ≠ code '"' ∧ u ≠ code '\\' ∧ ¬u < 0x20 ∧
        isHigh u = false ∧ isLow u = false) := by
  unfold escapeUnit
  split
  · next e he =>
    obtain rfl : e.1 = u := by simpa using List.find?_some he
    exact .inl ⟨e.2, List.mem_of_find?_eq_some he, rfl⟩
  · next hnone =>
    have hne (e) (he : e ∈ shortEscapes) : e.1 ≠ u := by
      simpa using List.find?_eq_none.mp hnone e he
    split
    · exact .inr (.inl rfl)
    · next hplain =>
      simp only [Bool.or_eq_true, decide_eq_true_eq, not_or, Bool.not_eq_true] at hplain
      obtain ⟨⟨hhigh, hlow⟩, hcontrol⟩ := hplain
      refine .inr (.inr ⟨rfl, ?_, ?_, hcontrol, hhigh, hlow⟩)
      · exact (hne (code '"', code '"') (by decide)).symm
      · exact (hne (code '\\', code '\\') (by decide)).symm

/-- A unit that is written alone is read back. -/
theorem readString_escapeUnit (u : UInt16) (t : List UInt16) :
    readString (escapeUnit u ++ t) = (readString t).map fun r => (u :: r.1, r.2) := by
  obtain ⟨letter, hmem, h⟩ | h | ⟨h, hquote, hbackslash, hcontrol, -⟩ := escapeUnit_cases u
  · obtain ⟨hne, hletter⟩ := unescapeLetter_of_mem hmem
    rw [h]
    refine (readString_letter hne t).trans ?_
    rw [hletter, Option.bind_some]
  · rw [h]
    refine (readString_hex _ _ _ _ t).trans ?_
    rw [hexUnit_hexDigit, Option.bind_some]
  · rw [h]
    exact readString_unit hquote hbackslash hcontrol t

/-- A surrogate is written as it is in a pair. -/
theorem readString_surrogate {u : UInt16} (h : isHigh u = true ∨ isLow u = true)
    (t : List UInt16) : readString (u :: t) = (readString t).map fun r => (u :: r.1, r.2) := by
  have hu : 0xD800 ≤ u.toNat := by
    rcases h with h | h
    · exact (Utf16.isHigh_iff.mp h).1
    · have := (Utf16.isLow_iff.mp h).1
      omega
  refine readString_unit ?_ ?_ ?_ t
  · rintro rfl
    exact absurd hu (by decide)
  · rintro rfl
    exact absurd hu (by decide)
  · rw [UInt16.lt_iff_toNat_lt]
    exact not_lt.mpr (le_trans (by decide) hu)

/-- The characters of a string are read back. -/
theorem readString_escape (s t : List UInt16) :
    readString (escape s ++ code '"' :: t) = some (s, t) := by
  induction s using escape.induct with
  | case1 => exact readString_quote t
  | case2 u => rw [escape, readString_escapeUnit, readString_quote, Option.map_some]
  | case3 u v us hpair ih =>
    obtain ⟨hu, hv⟩ := Bool.and_eq_true_iff.mp hpair
    rw [escape, if_pos hpair, List.cons_append, List.cons_append, readString_surrogate (.inl hu),
      readString_surrogate (.inr hv), ih, Option.map_some, Option.map_some]
  | case4 u v us hpair ih =>
    rw [escape, if_neg hpair, List.append_assoc, readString_escapeUnit, ih, Option.map_some]

/-! ### Values -/

theorem skip_cons {u : UInt16} (h : isSpace u = false) (s : List UInt16) :
    skip (u :: s) = u :: s :=
  List.dropWhile_cons_of_neg (by simp [h])

theorem after_self {u : UInt16} (h : isSpace u = false) (s : List UInt16) :
    after u (u :: s) = some s := by
  rw [after, skip_cons h]
  exact if_pos rfl

theorem after_of_ne {u v : UInt16} (h : isSpace v = false) (hne : v ≠ u) (s : List UInt16) :
    after u (v :: s) = none := by
  rw [after, skip_cons h]
  exact if_neg hne

theorem readString_quoted (s t : List UInt16) :
    quoted s ++ t = code '"' :: (escape s ++ code '"' :: t) := by
  rw [quoted, List.cons_append, List.append_assoc, List.singleton_append]

theorem readName_quoted (s t : List UInt16) :
    readName (quoted s ++ code ':' :: t) = some (s, t) := by
  have hquote : isSpace (code '"') = false := by decide
  have hcolon : isSpace (code ':') = false := by decide
  rw [readString_quoted, readName, after_self hquote, Option.bind_some, readString_escape,
    Option.bind_some, after_self hcolon, Option.map_some]

/-- The text does not go on with a number. -/
def NumberEnds (s : List UInt16) : Prop := ∀ u ∈ s.head?, isNumberChar u = false

theorem takeWhile_number {p s : List UInt16} (hp : p.all isNumberChar = true)
    (hs : NumberEnds s) :
    (p ++ s).takeWhile isNumberChar = p ∧ (p ++ s).dropWhile isNumberChar = s := by
  have hall : ∀ u ∈ p, isNumberChar u = true := List.all_eq_true.mp hp
  rw [List.takeWhile_append_of_pos hall, List.dropWhile_append_of_pos hall]
  cases s with
  | nil => exact ⟨List.append_nil p, rfl⟩
  | cons u s =>
    have hu : ¬isNumberChar u = true := by simp [hs u rfl]
    rw [List.takeWhile_cons_of_neg hu, List.dropWhile_cons_of_neg hu, List.append_nil]
    exact ⟨rfl, rfl⟩

/-- A number begins with a character of a number. -/
theorem exists_numberChar (n : Number) :
    ∃ u us, n.text = u :: us ∧ isNumberChar u = true := by
  obtain ⟨text, h⟩ := n
  cases text with
  | nil => exact absurd h (by decide)
  | cons u us =>
    simp only [isNumber, List.all_cons, Bool.and_eq_true] at h
    exact ⟨u, us, rfl, h.1.1⟩

theorem readScalar_number (n : Number) {s : List UInt16} (hs : NumberEnds s) :
    readScalar (n.text ++ s) = some (.num n, s) := by
  have hchars : n.text.all isNumberChar = true := (Bool.and_eq_true_iff.mp n.isNumber_text).1
  obtain ⟨htake, hdrop⟩ := takeWhile_number hchars hs
  simp only [readScalar, htake, hdrop, n.isNumber_text, dif_pos]

theorem readScalar_null (s : List UInt16) :
    readScalar (ofString "null" ++ s) = some (.null, s) := by
  rfl

theorem readScalar_true (s : List UInt16) :
    readScalar (ofString "true" ++ s) = some (.bool true, s) := by
  rfl

theorem readScalar_false (s : List UInt16) :
    readScalar (ofString "false" ++ s) = some (.bool false, s) := by
  rfl

theorem isSpace_of_isNumberChar {u : UInt16} (h : isNumberChar u = true) : isSpace u = false := by
  rw [← Bool.not_eq_true]
  intro hspace
  simp only [isSpace, List.contains_iff_mem, List.mem_cons, List.not_mem_nil, or_false] at hspace
  rcases hspace with rfl | rfl | rfl | rfl <;> exact absurd h (by decide)

/-- A value begins with neither white space nor the end of an array. -/
theorem exists_encode_head (v : Value) :
    ∃ u us, encode v = u :: us ∧ isSpace u = false ∧ u ≠ code ']' := by
  match v with
  | .null | .bool true | .bool false => exact ⟨_, _, by rw [encode]; rfl, by decide, by decide⟩
  | .num n =>
    obtain ⟨u, us, htext, hu⟩ := exists_numberChar n
    refine ⟨u, us, by rw [encode, htext], isSpace_of_isNumberChar hu, ?_⟩
    rintro rfl
    exact absurd hu (by decide)
  | .str s => exact ⟨_, _, by rw [encode, quoted], by decide, by decide⟩
  | .array [] | .object [] => exact ⟨_, _, by rw [encode]; rfl, by decide, by decide⟩
  | .array (_ :: _) | .object (_ :: _) => exact ⟨_, _, by rw [encode], by decide, by decide⟩

theorem length_encode_pos (v : Value) : 0 < (encode v).length := by
  obtain ⟨u, us, h, -⟩ := exists_encode_head v
  rw [h]
  exact Nat.succ_pos _

theorem numberEnds_elements (vs : List Value) (s : List UInt16) :
    NumberEnds (encodeElements vs ++ s) := by
  cases vs <;> rw [encodeElements] <;> rintro u ⟨⟩ <;> decide

theorem numberEnds_members (ms : List (List UInt16 × Value)) (s : List UInt16) :
    NumberEnds (encodeMembers ms ++ s) := by
  rcases ms with _ | ⟨m, ms⟩ <;> rw [encodeMembers] <;> rintro u ⟨⟩ <;> decide

section Steps

variable (n : ℕ)

theorem readValue_string (t : List UInt16) :
    readValue (n + 1) (code '"' :: t) = (readString t).map fun r => (.str r.1, r.2) := by
  rw [readValue, skip_cons (by decide)]
  exact if_pos rfl

theorem readValue_array {t : List UInt16} (h : after (code ']') t = none) :
    readValue (n + 1) (code '[' :: t) = (readValue n t).bind fun r =>
      (readElements n r.2).map fun r' => (.array (r.1 :: r'.1), r'.2) := by
  rw [readValue, skip_cons (by decide)]
  simp only [h, if_neg (show ¬code '[' = code '"' by decide), if_true]

theorem readValue_object {t : List UInt16} (h : after (code '\x7d') t = none) :
    readValue (n + 1) (code '\x7b' :: t) = (readName t).bind fun r =>
      (readValue n r.2).bind fun r' =>
        (readMembers n r'.2).map fun r'' => (.object ((r.1, r'.1) :: r''.1), r''.2) := by
  rw [readValue, skip_cons (by decide)]
  simp only [h, if_neg (show ¬code '\x7b' = code '"' by decide),
    if_neg (show ¬code '\x7b' = code '[' by decide), if_true]

theorem readValue_scalar {u : UInt16} (hspace : isSpace u = false)
    (hother : u ∉ [code '"', code '[', code '\x7b']) (t : List UInt16) :
    readValue (n + 1) (u :: t) = readScalar (u :: t) := by
  simp only [List.mem_cons, List.not_mem_nil, or_false, not_or] at hother
  rw [readValue, skip_cons hspace]
  simp only [if_neg hother.1, if_neg hother.2.1, if_neg hother.2.2]

theorem readElements_end (s : List UInt16) :
    readElements (n + 1) (code ']' :: s) = some ([], s) := by
  rw [readElements, after_self (by decide)]

theorem readElements_comma (s : List UInt16) :
    readElements (n + 1) (code ',' :: s) = (readValue n s).bind fun r =>
      (readElements n r.2).map fun r' => (r.1 :: r'.1, r'.2) := by
  rw [readElements, after_of_ne (by decide) (by decide), after_self (by decide)]
  exact Option.bind_some ..

theorem readMembers_end (s : List UInt16) :
    readMembers (n + 1) (code '\x7d' :: s) = some ([], s) := by
  rw [readMembers, after_self (by decide)]

theorem readMembers_comma (s : List UInt16) :
    readMembers (n + 1) (code ',' :: s) = (readName s).bind fun r =>
      (readValue n r.2).bind fun r' =>
        (readMembers n r'.2).map fun r'' => ((r.1, r'.1) :: r''.1, r''.2) := by
  rw [readMembers, after_of_ne (by decide) (by decide), after_self (by decide)]
  exact Option.bind_some ..

end Steps

mutual

/-- A value is read back, whatever comes after it. -/
theorem readValue_encode : (v : Value) → {n : ℕ} → {s : List UInt16} → (encode v).length ≤ n →
    NumberEnds s → readValue n (encode v ++ s) = some (v, s)
  | v, 0, _, hn, _ => absurd hn (not_le.mpr (length_encode_pos v))
  | .null, n + 1, s, _, _ => by
    rw [encode]
    exact (readValue_scalar n (by decide) (by decide) _).trans (readScalar_null s)
  | .bool true, n + 1, s, _, _ => by
    rw [encode]
    exact (readValue_scalar n (by decide) (by decide) _).trans (readScalar_true s)
  | .bool false, n + 1, s, _, _ => by
    rw [encode]
    exact (readValue_scalar n (by decide) (by decide) _).trans (readScalar_false s)
  | .num number, n + 1, s, _, hs => by
    obtain ⟨u, us, htext, hu⟩ := exists_numberChar number
    have hother : u ∉ [code '"', code '[', code '\x7b'] := by
      intro hmem
      simp only [List.mem_cons, List.not_mem_nil, or_false] at hmem
      rcases hmem with rfl | rfl | rfl <;> exact absurd hu (by decide)
    have hscalar := readScalar_number number hs
    rw [encode]
    rw [htext, List.cons_append] at hscalar ⊢
    exact (readValue_scalar n (isSpace_of_isNumberChar hu) hother _).trans hscalar
  | .str t, n + 1, s, _, _ => by
    rw [encode, readString_quoted, readValue_string, readString_escape, Option.map_some]
  | .array [], n + 1, s, _, _ => by
    rw [encode]
    rfl
  | .array (v :: vs), n + 1, s, hn, _ => by
    rw [encode, List.length_cons, List.length_append] at hn
    obtain ⟨u, us, hhead, hspace, hne⟩ := exists_encode_head v
    have hafter : after (code ']') (encode v ++ (encodeElements vs ++ s)) = none := by
      rw [hhead]
      exact after_of_ne hspace hne _
    rw [encode, List.cons_append, List.append_assoc, readValue_array n hafter,
      readValue_encode v (by omega) (numberEnds_elements vs s), Option.bind_some,
      readElements_encode vs (by omega), Option.map_some]
  | .object [], n + 1, s, _, _ => by
    rw [encode]
    rfl
  | .object ((k, v) :: ms), n + 1, s, hn, _ => by
    simp only [encode, List.length_cons, List.length_append] at hn
    have hafter (t : List UInt16) : after (code '\x7d') (quoted k ++ t) = none :=
      after_of_ne (by decide) (by decide) _
    rw [encode, List.cons_append, List.append_assoc, readValue_object n (hafter _),
      List.cons_append, readName_quoted, Option.bind_some, List.append_assoc,
      readValue_encode v (by omega) (numberEnds_members ms s), Option.bind_some,
      readMembers_encode ms (by omega), Option.map_some]

/-- The elements after the first one are read back. -/
theorem readElements_encode : (vs : List Value) → {n : ℕ} → {s : List UInt16} →
    (encodeElements vs).length ≤ n → readElements n (encodeElements vs ++ s) = some (vs, s)
  | [], 0, _, hn => by simp [encodeElements] at hn
  | _ :: _, 0, _, hn => by simp [encodeElements] at hn
  | [], n + 1, s, _ => by
    rw [encodeElements]
    exact readElements_end n s
  | v :: vs, n + 1, s, hn => by
    rw [encodeElements, List.length_cons, List.length_append] at hn
    rw [encodeElements, List.cons_append, List.append_assoc, readElements_comma,
      readValue_encode v (by omega) (numberEnds_elements vs s), Option.bind_some,
      readElements_encode vs (by omega), Option.map_some]

/-- The members after the first one are read back. -/
theorem readMembers_encode : (ms : List (List UInt16 × Value)) → {n : ℕ} → {s : List UInt16} →
    (encodeMembers ms).length ≤ n → readMembers n (encodeMembers ms ++ s) = some (ms, s)
  | [], 0, _, hn => by simp [encodeMembers] at hn
  | (_, _) :: _, 0, _, hn => by simp [encodeMembers] at hn
  | [], n + 1, s, _ => by
    rw [encodeMembers]
    exact readMembers_end n s
  | (k, v) :: ms, n + 1, s, hn => by
    simp only [encodeMembers, List.length_cons, List.length_append] at hn
    rw [encodeMembers, List.cons_append, List.append_assoc, readMembers_comma, List.cons_append,
      readName_quoted, Option.bind_some, List.append_assoc,
      readValue_encode v (by omega) (numberEnds_members ms s), Option.bind_some,
      readMembers_encode ms (by omega), Option.map_some]

end

/-- **JSON texts.** Every value is read back from the text that is written for it. -/
theorem decode_encode (v : Value) : decode (encode v) = some v := by
  have hread : readValue ((encode v).length + 1) (encode v ++ []) = some (v, []) :=
    readValue_encode v (Nat.le_succ _) (by rintro u ⟨⟩)
  rw [List.append_nil] at hread
  rw [decode, hread]
  rfl

/-- Different values are written as different texts. -/
theorem encode_injective : Function.Injective encode := fun v w h =>
  Option.some.inj ((decode_encode v).symm.trans (h ▸ decode_encode w))

/-! ### Surrogates -/

theorem hexDigit_lt {n : ℕ} (h : n < 16) : (hexDigit n).toNat < 0xD800 := by
  have hall : ∀ n : Fin 16, (hexDigit n).toNat < 0xD800 := by decide
  exact hall ⟨n, h⟩

theorem lt_of_mem_hexEscape {u v : UInt16} (h : v ∈ hexEscape u) : v.toNat < 0xD800 := by
  have hu : u.toNat < 0x10000 := u.toNat_lt
  simp only [hexEscape, List.mem_cons, List.not_mem_nil, or_false] at h
  rcases h with rfl | rfl | rfl | rfl | rfl | rfl
  · decide
  · decide
  all_goals exact hexDigit_lt (by omega)

theorem wellFormed_escapeUnit (u : UInt16) (t : List UInt16) :
    wellFormed (escapeUnit u ++ t) = wellFormed t := by
  obtain ⟨letter, hmem, h⟩ | h | ⟨h, -, -, -, hhigh, hlow⟩ := escapeUnit_cases u
  · have hletters : shortEscapes.all (fun e => e.2.toNat < 0xD800) = true := rfl
    have hletter : letter.toNat < 0xD800 := by
      simpa using List.all_eq_true.mp hletters (u, letter) hmem
    rw [h]
    refine Utf16.wellFormed_append_of_lt (fun v hv => ?_) t
    simp only [List.mem_cons, List.not_mem_nil, or_false] at hv
    rcases hv with rfl | rfl
    · decide
    · exact hletter
  · rw [h]
    exact Utf16.wellFormed_append_of_lt (fun v hv => lt_of_mem_hexEscape hv) t
  · rw [h, List.singleton_append, Utf16.wellFormed_cons_of_not_isHigh hhigh, hlow, Bool.not_false,
      Bool.true_and]

theorem wellFormed_escape (s t : List UInt16) : wellFormed (escape s ++ t) = wellFormed t := by
  induction s using escape.induct with
  | case1 => rfl
  | case2 u => exact wellFormed_escapeUnit u t
  | case3 u v us hpair ih =>
    obtain ⟨hu, hv⟩ := Bool.and_eq_true_iff.mp hpair
    rw [escape, if_pos hpair, List.cons_append, List.cons_append, Utf16.wellFormed_pair hu hv, ih]
  | case4 u v us hpair ih =>
    rw [escape, if_neg hpair, List.append_assoc, wellFormed_escapeUnit, ih]

/-- A character of ASCII. -/
theorem wellFormed_cons {c : UInt16} (h : c.toNat < 0xD800) (t : List UInt16) :
    wellFormed (c :: t) = wellFormed t :=
  Utf16.wellFormed_append_of_lt (p := [c]) (fun _ hu => List.mem_singleton.mp hu ▸ h) t

theorem wellFormed_quoted (s t : List UInt16) : wellFormed (quoted s ++ t) = wellFormed t := by
  rw [readString_quoted, wellFormed_cons (by decide), wellFormed_escape,
    wellFormed_cons (by decide)]

theorem lt_of_all {s : List UInt16} (h : (s.all fun u => decide (u.toNat < 0xD800)) = true) :
    ∀ u ∈ s, u.toNat < 0xD800 :=
  fun u hu => of_decide_eq_true (List.all_eq_true.mp h u hu)

theorem lt_of_isNumberChar {u : UInt16} (h : isNumberChar u = true) : u.toNat < 0xD800 := by
  simp only [isNumberChar, isDigit, Bool.or_eq_true, Bool.and_eq_true, decide_eq_true_eq,
    UInt16.le_iff_toNat_le, List.contains_iff_mem] at h
  rcases h with ⟨-, h⟩ | h
  · exact lt_of_le_of_lt h (by decide)
  · exact lt_of_all (s := ofString "+-.eE") rfl u h

mutual

theorem wellFormed_encode_append : (v : Value) → (t : List UInt16) →
    wellFormed (encode v ++ t) = wellFormed t
  | .null, t | .bool true, t | .bool false, t | .array [], t | .object [], t => by
    rw [encode]
    exact Utf16.wellFormed_append_of_lt (lt_of_all rfl) t
  | .num n, t => by
    rw [encode]
    have hchars : n.text.all isNumberChar = true := (Bool.and_eq_true_iff.mp n.isNumber_text).1
    exact Utf16.wellFormed_append_of_lt
      (fun u hu => lt_of_isNumberChar (List.all_eq_true.mp hchars u hu)) t
  | .str s, t => by
    rw [encode, wellFormed_quoted]
  | .array (v :: vs), t => by
    rw [encode, List.cons_append, wellFormed_cons (by decide), List.append_assoc,
      wellFormed_encode_append v, wellFormed_encodeElements vs]
  | .object ((k, v) :: ms), t => by
    rw [encode, List.cons_append, wellFormed_cons (by decide), List.append_assoc,
      wellFormed_quoted, List.cons_append, wellFormed_cons (by decide), List.append_assoc,
      wellFormed_encode_append v, wellFormed_encodeMembers ms]

theorem wellFormed_encodeElements : (vs : List Value) → (t : List UInt16) →
    wellFormed (encodeElements vs ++ t) = wellFormed t
  | [], t => by
    rw [encodeElements, List.singleton_append, wellFormed_cons (by decide)]
  | v :: vs, t => by
    rw [encodeElements, List.cons_append, wellFormed_cons (by decide), List.append_assoc,
      wellFormed_encode_append v, wellFormed_encodeElements vs]

theorem wellFormed_encodeMembers : (ms : List (List UInt16 × Value)) → (t : List UInt16) →
    wellFormed (encodeMembers ms ++ t) = wellFormed t
  | [], t => by
    rw [encodeMembers, List.singleton_append, wellFormed_cons (by decide)]
  | (k, v) :: ms, t => by
    rw [encodeMembers, List.cons_append, wellFormed_cons (by decide), List.append_assoc,
      wellFormed_quoted, List.cons_append, wellFormed_cons (by decide), List.append_assoc,
      wellFormed_encode_append v, wellFormed_encodeMembers ms]

end

/-- What is written is well-formed UTF-16, also where a string is not. -/
theorem wellFormed_encode (v : Value) : wellFormed (encode v) = true := by
  have happend := wellFormed_encode_append v []
  rwa [List.append_nil] at happend

end Json
