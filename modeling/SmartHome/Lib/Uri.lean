import Mathlib.Data.List.Infix
import SmartHome.Lib.Utf16

/-!
# The query component of a URI

A URI is split at the first `#` and at the first `?` before it. Its query is normalized: characters
that a query may not hold are percent-encoded, and so is a `%` with which no escape begins; an
escape is kept, or replaced by its character if that is unreserved. A component of the query is read
back by `decodeQueryComponent`, which reads `+` as a blank and decodes the escapes as UTF-8. It
throws, which is `none`, where they are not UTF-8.

The part before the query is taken as it is. It has to be a well-formed scheme, authority and path.

## Main definitions

* `Uri`, `Uri.parse`, `Uri.normalize`, `Uri.decodeQueryComponent`.
* `Uri.WellFormedBase` : a text that is a scheme, an authority and a path.
* `Uri.pieces` : the escapes and the other characters of a text.
* `Uri.Literal` : a text that a query holds as it is meant.

## Main results

* `Uri.decodeBytes_normalize` : the bytes that are decoded.
* `Uri.decode_normalize_iff` : the texts that are read back as they are.
-/

open Utf16 (code ofChars ofString runes)

/-- A URI: the scheme, authority and path, the query, and the fragment. -/
structure Uri where
  base : List UInt16
  query : Option (List UInt16)
  fragment : Option (List UInt16)
  deriving DecidableEq

namespace Uri

/-! ### UTF-8 -/

/-- The UTF-8 bytes of a code point. A surrogate is encoded like any other. -/
def encodeRune (n : ℕ) : List UInt8 :=
  if n ≤ 0x7F then [.ofNat n]
  else if n ≤ 0x7FF then [.ofNat (n / 0x40 % 0x20 + 0xC0), .ofNat (n % 0x40 + 0x80)]
  else if n ≤ 0xFFFF then
    [.ofNat (n / 0x1000 % 0x10 + 0xE0), .ofNat (n / 0x40 % 0x40 + 0x80), .ofNat (n % 0x40 + 0x80)]
  else
    [.ofNat (n / 0x40000 % 0x08 + 0xF0), .ofNat (n / 0x1000 % 0x40 + 0x80),
      .ofNat (n / 0x40 % 0x40 + 0x80), .ofNat (n % 0x40 + 0x80)]

/-- The byte order mark. -/
def byteOrderMark : Char := '\uFEFF'

/-- A byte order mark at the start is dropped. -/
def dropMark : List Char → List Char
  | [] => []
  | c :: cs => if c = byteOrderMark then cs else c :: cs

/-- `utf8.decode`. -/
def decodeUtf8 (bytes : List UInt8) : Option (List Char) :=
  bytes.toByteArray.utf8Decode?.map fun cs => dropMark cs.toList

/-! ### Normalization -/

/-- The value of a hexadecimal digit. -/
def hexDigitValue (n : ℕ) : Option ℕ :=
  if 0x30 ≤ n ∧ n ≤ 0x39 then some (n - 0x30)
  else if 0x41 ≤ n ∧ n ≤ 0x46 then some (n - 0x37)
  else if 0x61 ≤ n ∧ n ≤ 0x66 then some (n - 0x57)
  else none

/-- The byte that an escape of these three characters stands for. -/
def escapeValue (r x y : ℕ) : Option UInt8 :=
  if r = '%'.toNat then do
    let a ← hexDigitValue x
    let b ← hexDigitValue y
    return .ofNat (16 * a + b)
  else none

/-- A letter, a digit, or one of `-._~`. -/
def isUnreserved (n : ℕ) : Bool :=
  (0x30 ≤ n && n ≤ 0x39) || (0x41 ≤ n && n ≤ 0x5A) || (0x61 ≤ n && n ≤ 0x7A) ||
    n ∈ [0x2D, 0x2E, 0x5F, 0x7E]

/-- A character that a query may hold: an unreserved one, or one of `!$&'()*+,/:;=?@`. -/
def isQueryChar (n : ℕ) : Bool :=
  isUnreserved n || n ∈ [0x21, 0x24, 0x26, 0x27, 0x28, 0x29, 0x2A, 0x2B, 0x2C, 0x2F, 0x3A, 0x3B,
    0x3D, 0x3F, 0x40]

/-- An upper case hexadecimal digit. -/
def hexDigit (n : ℕ) : UInt16 := .ofNat (if n < 10 then 0x30 + n else 0x37 + n)

/-- The escape of a byte. -/
def escapeByte (b : UInt8) : List UInt16 :=
  [code '%', hexDigit (b.toNat / 16), hexDigit (b.toNat % 16)]

/-- What a text consists of: escapes, and other characters. -/
inductive Piece where
  | escape (value : UInt8)
  | rune (n : ℕ)

/-- The pieces of a text. -/
def pieces : List ℕ → List Piece
  | r :: x :: y :: rs =>
    match escapeValue r x y with
    | some b => .escape b :: pieces rs
    | none => .rune r :: pieces (x :: y :: rs)
  | r :: rs => .rune r :: pieces rs
  | [] => []

/-- The text of a piece in a query. -/
def Piece.normalize : Piece → List UInt16
  | .escape b => if isUnreserved b.toNat then [.ofNat b.toNat] else escapeByte b
  | .rune n => if isQueryChar n then [.ofNat n] else (encodeRune n).flatMap escapeByte

/-- The query that a text becomes. -/
def normalize (s : List UInt16) : List UInt16 := (pieces (runes s)).flatMap Piece.normalize

/-- The text before the first `u` and the text after it. -/
def splitFirst (u : UInt16) : List UInt16 → List UInt16 × Option (List UInt16)
  | [] => ([], none)
  | v :: s => if v = u then ([], some s) else ((v :: (splitFirst u s).1), (splitFirst u s).2)

/-- `Uri.parse`, for a text whose scheme, authority and path are well formed. -/
def parse (text : List UInt16) : Uri :=
  let (head, fragment) := splitFirst (code '#') text
  let (base, query) := splitFirst (code '?') head
  { base, query := query.map normalize, fragment := fragment.map normalize }

/-! ### The part before the query -/

/-- A letter. -/
def isLetter (n : ℕ) : Bool := (0x41 ≤ n && n ≤ 0x5A) || (0x61 ≤ n && n ≤ 0x7A)

/-- A decimal digit. -/
def isDigit (n : ℕ) : Bool := 0x30 ≤ n && n ≤ 0x39

/-- A character of a path: an unreserved one, or one of `!$%&'()*+,/:;=@`. -/
def isPathChar (n : ℕ) : Bool :=
  isUnreserved n || n ∈ [0x21, 0x24, 0x25, 0x26, 0x27, 0x28, 0x29, 0x2A, 0x2B, 0x2C, 0x2F, 0x3A,
    0x3B, 0x3D, 0x40]

/-- No port, or `:` and a decimal number. -/
def IsPort (text : List UInt16) : Prop :=
  text = [] ∨ ∃ u us, text = code ':' :: u :: us ∧ ∀ v ∈ u :: us, isDigit v.toNat = true

/-- No path, or one that begins with `/`. -/
def IsPath (text : List UInt16) : Prop :=
  text = [] ∨ ∃ us, text = code '/' :: us ∧ ∀ v ∈ us, isPathChar v.toNat = true

/-- A scheme in letters, `://`, a host in unreserved characters with or without a port, and a path.
-/
def WellFormedBase (text : List UInt16) : Prop :=
  ∃ scheme host port path, text = scheme ++ (ofString "://" ++ (host ++ (port ++ path))) ∧
    (scheme ≠ [] ∧ ∀ u ∈ scheme, isLetter u.toNat = true) ∧
    (host ≠ [] ∧ ∀ u ∈ host, isUnreserved u.toNat = true) ∧ IsPort port ∧ IsPath path

theorem isPathChar_of_isUnreserved {n : ℕ} (h : isUnreserved n = true) : isPathChar n = true := by
  rw [isPathChar, h, Bool.true_or]

theorem isUnreserved_of_isLetter {n : ℕ} (h : isLetter n = true) : isUnreserved n = true := by
  simp only [isLetter, Bool.or_eq_true] at h
  simp only [isUnreserved, Bool.or_eq_true]
  exact .inl (h.imp_left .inr)

theorem isUnreserved_of_isDigit {n : ℕ} (h : isDigit n = true) : isUnreserved n = true := by
  simp only [isUnreserved, Bool.or_eq_true]
  exact .inl (.inl (.inl h))

/-- A well-formed base consists of characters of a path. -/
theorem WellFormedBase.isPathChar {text : List UInt16} (h : WellFormedBase text) :
    ∀ u ∈ text, Uri.isPathChar u.toNat = true := by
  obtain ⟨scheme, host, port, path, rfl, ⟨-, hscheme⟩, ⟨-, hhost⟩, hport, hpath⟩ := h
  simp only [List.forall_mem_append]
  refine ⟨fun u hu => isPathChar_of_isUnreserved (isUnreserved_of_isLetter (hscheme u hu)),
    List.all_eq_true.mp rfl, fun u hu => isPathChar_of_isUnreserved (hhost u hu), ?_, ?_⟩
  · rcases hport with rfl | ⟨v, vs, rfl, hdigits⟩
    · exact List.forall_mem_nil _
    · exact List.forall_mem_cons.mpr
        ⟨rfl, fun u hu => isPathChar_of_isUnreserved (isUnreserved_of_isDigit (hdigits u hu))⟩
  · rcases hpath with rfl | ⟨us, rfl, hus⟩
    · exact List.forall_mem_nil _
    · exact List.forall_mem_cons.mpr ⟨rfl, hus⟩

/-- It has neither a query nor a fragment. -/
theorem WellFormedBase.notMem {text : List UInt16} (h : WellFormedBase text) {u : UInt16}
    (hu : Uri.isPathChar u.toNat = false) : u ∉ text :=
  fun hmem => absurd (h.isPathChar u hmem) (by simp [hu])

/-! ### Components -/

/-- The bytes of a component. -/
def decodeBytes : List UInt16 → Option (List UInt8)
  | [] => some []
  | u :: us =>
    if 127 < u.toNat then none
    else if u = code '%' then
      match us with
      | x :: y :: rest => do
        let b ← escapeValue u.toNat x.toNat y.toNat
        let bytes ← decodeBytes rest
        return b :: bytes
      | _ => none
    else do
      let bytes ← decodeBytes us
      return (if u = code '+' then 0x20 else .ofNat u.toNat) :: bytes

/-- A character that stands for itself in a component. -/
def isSimple (u : UInt16) : Bool := u.toNat ≤ 127 && u ≠ code '%' && u ≠ code '+'

/-- `Uri.decodeQueryComponent`. -/
def decodeQueryComponent (text : List UInt16) : Option (List UInt16) :=
  if text.all isSimple then some text
  else ((decodeBytes text).bind decodeUtf8).map ofChars

/-- A text that a component holds as it is meant: it is well-formed UTF-16 without a byte order mark
at its start, and holds no `+` and no escape. -/
structure Literal (s : List UInt16) : Prop where
  wellFormed : Utf16.wellFormed s = true
  noMark : s.head? ≠ some 0xFEFF
  noPlus : code '+' ∉ s
  noEscape : ∀ x y : UInt16, (hexDigitValue x.toNat).isSome → (hexDigitValue y.toNat).isSome →
    ¬[code '%', x, y] <:+: s

/-! ### UTF-8 of characters -/

theorem encodeRune_toNat (c : Char) : encodeRune c.toNat = String.utf8EncodeChar c := rfl

theorem length_encodeRune_pos (n : ℕ) : 0 < (encodeRune n).length := by
  unfold encodeRune
  split
  · exact Nat.one_pos
  · split
    · exact Nat.two_pos
    · split <;> exact Nat.succ_pos _

theorem decodeUtf8_eq_some {bytes : List UInt8} {cs : List Char} :
    decodeUtf8 bytes = some cs ↔
      ∃ ds, bytes = ds.flatMap String.utf8EncodeChar ∧ dropMark ds = cs := by
  have hinj {bytes' : List UInt8} (h : bytes.toByteArray = bytes'.toByteArray) :
      bytes = bytes' := by
    simpa using congrArg (fun b : ByteArray => b.data.toList) h
  rw [decodeUtf8, Option.map_eq_some_iff]
  constructor
  · rintro ⟨ds, hds, rfl⟩
    refine ⟨ds.toList, hinj ?_, rfl⟩
    have hget : (bytes.toByteArray.utf8Decode?.get (hds ▸ rfl)).toList.utf8Encode =
        bytes.toByteArray := ByteArray.utf8Encode_get_utf8Decode?
    simp only [hds, Option.get_some] at hget
    exact hget.symm
  · rintro ⟨ds, rfl, rfl⟩
    exact ⟨ds.toArray, List.utf8Decode?_utf8Encode, rfl⟩

/-! ### Pieces -/

/-- No escape begins at the first of these characters. -/
def NoEscapeAt (r : ℕ) (rs : List ℕ) : Prop :=
  ∀ x y rest, rs = x :: y :: rest → escapeValue r x y = none

theorem pieces_escape {r x y : ℕ} {b : UInt8} (h : escapeValue r x y = some b) (rs : List ℕ) :
    pieces (r :: x :: y :: rs) = .escape b :: pieces rs := by
  rw [pieces, h]

theorem pieces_rune {r : ℕ} {rs : List ℕ} (h : NoEscapeAt r rs) :
    pieces (r :: rs) = .rune r :: pieces rs := by
  rcases rs with - | ⟨x, - | ⟨y, rs⟩⟩
  · rfl
  · rfl
  · rw [pieces, h x y rs rfl]

/-- Induction along the pieces of a text. -/
@[elab_as_elim]
theorem pieces_induction {P : List ℕ → Prop} (nil : P [])
    (escape : ∀ r x y b rs, escapeValue r x y = some b → P rs → P (r :: x :: y :: rs))
    (rune : ∀ r rs, NoEscapeAt r rs → P rs → P (r :: rs)) (rs : List ℕ) : P rs := by
  induction rs using pieces.induct with
  | case1 r x y rs b hb ih => exact escape r x y b rs hb ih
  | case2 r x y rs hnone ih =>
    refine rune r _ (fun x' y' rest h => ?_) ih
    obtain ⟨hx, hrest⟩ := List.cons.inj h
    rw [← hx, ← (List.cons.inj hrest).1, hnone]
  | case3 r rs hshort ih => exact rune r rs (fun x y rest h => (hshort x y rest h).elim) ih
  | case4 => exact nil

/-! ### The bytes of a component -/

/-- The bytes that a piece of a text becomes. -/
def Piece.bytes : Piece → List UInt8
  | .escape b => [b]
  | .rune n => if n = '+'.toNat then [0x20] else encodeRune n

/-- The bytes that a text becomes. -/
def bytesOf (rs : List ℕ) : List UInt8 := (pieces rs).flatMap Piece.bytes

theorem decodeBytes_cons {u : UInt16} (h : u.toNat ≤ 127) (hpercent : u ≠ code '%')
    (us : List UInt16) :
    decodeBytes (u :: us) =
      (decodeBytes us).map ((if u = code '+' then 0x20 else .ofNat u.toNat) :: ·) := by
  rw [decodeBytes.eq_def]
  dsimp only
  rw [if_neg (Nat.not_lt.mpr h), if_neg hpercent]
  cases decodeBytes us <;> rfl

theorem decodeBytes_percent (x y : UInt16) (us : List UInt16) :
    decodeBytes (code '%' :: x :: y :: us) =
      (escapeValue '%'.toNat x.toNat y.toNat).bind fun b => (decodeBytes us).map (b :: ·) := by
  rw [decodeBytes, if_neg (by decide), if_pos rfl]
  change (escapeValue '%'.toNat x.toNat y.toNat >>= _) = _
  cases escapeValue '%'.toNat x.toNat y.toNat with
  | none => rfl
  | some b => cases decodeBytes us <;> rfl

theorem hexDigitValue_hexDigit {n : ℕ} (h : n < 16) :
    hexDigitValue (hexDigit n).toNat = some n := by
  have hall : ∀ n : Fin 16, hexDigitValue (hexDigit n).toNat = some n.val := by decide
  exact hall ⟨n, h⟩

theorem decodeBytes_escapeByte (b : UInt8) (us : List UInt16) :
    decodeBytes (escapeByte b ++ us) = (decodeBytes us).map (b :: ·) := by
  have hb : b.toNat < 256 := b.toNat_lt
  have hvalue : escapeValue '%'.toNat (hexDigit (b.toNat / 16)).toNat
      (hexDigit (b.toNat % 16)).toNat = some b := by
    rw [escapeValue, if_pos rfl, hexDigitValue_hexDigit (by omega),
      hexDigitValue_hexDigit (by omega)]
    change some (UInt8.ofNat (16 * (b.toNat / 16) + b.toNat % 16)) = some b
    rw [Nat.div_add_mod, UInt8.ofNat_toNat]
  refine (decodeBytes_percent _ _ us).trans ?_
  rw [hvalue, Option.bind_some]

theorem decodeBytes_escapeBytes (bytes : List UInt8) (us : List UInt16) :
    decodeBytes (bytes.flatMap escapeByte ++ us) = (decodeBytes us).map (bytes ++ ·) := by
  induction bytes with
  | nil => simp
  | cons b bytes ih =>
    rw [List.flatMap_cons, List.append_assoc, decodeBytes_escapeByte, ih, Option.map_map]
    rfl

theorem lt_of_isUnreserved {n : ℕ} (h : isUnreserved n = true) :
    n < 128 ∧ n ≠ '%'.toNat ∧ n ≠ '+'.toNat := by
  have hpercent : isUnreserved '%'.toNat = false := by decide
  have hplus : isUnreserved '+'.toNat = false := by decide
  refine ⟨?_, fun hn => ?_, fun hn => ?_⟩
  · simp only [isUnreserved, Bool.or_eq_true, Bool.and_eq_true, decide_eq_true_eq, List.mem_cons,
      List.not_mem_nil, or_false] at h
    omega
  · rw [hn, hpercent] at h
    cases h
  · rw [hn, hplus] at h
    cases h

theorem lt_of_isQueryChar {n : ℕ} (h : isQueryChar n = true) : n < 128 ∧ n ≠ '%'.toNat := by
  have hpercent : isQueryChar '%'.toNat = false := by decide
  refine ⟨?_, fun hn => ?_⟩
  · rcases Bool.or_eq_true _ _ ▸ h with h | h
    · exact (lt_of_isUnreserved h).1
    · simp only [decide_eq_true_eq, List.mem_cons, List.not_mem_nil, or_false] at h
      omega
  · rw [hn, hpercent] at h
    cases h

/-- The unit of an ASCII character. -/
theorem toNat_ofNat_of_lt {n : ℕ} (h : n < 128) : (UInt16.ofNat n).toNat = n :=
  UInt16.toNat_ofNat_of_lt' (Nat.lt_trans h (by decide))

theorem ofNat_ne_code {n : ℕ} {c : Char} (h : n < 128) (hc : (code c).toNat = c.toNat)
    (hne : n ≠ c.toNat) : UInt16.ofNat n ≠ code c := by
  intro heq
  rw [← toNat_ofNat_of_lt h, heq, hc] at hne
  exact hne rfl

/-- A piece of a text is read back as its bytes. -/
theorem decodeBytes_piece (p : Piece) (us : List UInt16) :
    decodeBytes (p.normalize ++ us) = (decodeBytes us).map (p.bytes ++ ·) := by
  cases p with
  | escape b =>
    rw [Piece.normalize]
    split
    · next h =>
      obtain ⟨hlt, hpercent, hplus⟩ := lt_of_isUnreserved h
      rw [List.singleton_append, decodeBytes_cons (by rw [toNat_ofNat_of_lt hlt]; omega)
        (ofNat_ne_code hlt rfl hpercent), if_neg (ofNat_ne_code hlt rfl hplus),
        toNat_ofNat_of_lt hlt, UInt8.ofNat_toNat]
      rfl
    · exact decodeBytes_escapeByte b us
  | rune n =>
    rw [Piece.normalize, Piece.bytes]
    by_cases h : isQueryChar n = true
    · obtain ⟨hlt, hpercent⟩ := lt_of_isQueryChar h
      rw [if_pos h, List.singleton_append, decodeBytes_cons (by rw [toNat_ofNat_of_lt hlt]; omega)
        (ofNat_ne_code hlt rfl hpercent), toNat_ofNat_of_lt hlt]
      by_cases hplus : n = '+'.toNat
      · rw [if_pos hplus, if_pos (show UInt16.ofNat n = code '+' from hplus ▸ rfl)]
        rfl
      · rw [if_neg hplus, if_neg (ofNat_ne_code hlt rfl hplus), encodeRune, if_pos (by omega)]
        rfl
    · rw [if_neg h, if_neg fun hplus : n = '+'.toNat => h (hplus ▸ rfl)]
      exact decodeBytes_escapeBytes (encodeRune n) us

/-- The bytes that are decoded. -/
theorem decodeBytes_normalize (s : List UInt16) :
    decodeBytes (normalize s) = some (bytesOf (runes s)) := by
  rw [normalize, bytesOf]
  induction pieces (runes s) with
  | nil => rfl
  | cons p ps ih => rw [List.flatMap_cons, decodeBytes_piece, ih]; rfl

/-- A text of simple characters is a text of ASCII characters, and these are its bytes. -/
theorem exists_chars_of_simple {text : List UInt16} (h : text.all isSimple = true) :
    ∃ cs, ofChars cs = text ∧ (∀ c ∈ cs, c.toNat < 128) ∧
      decodeBytes text = some (cs.flatMap String.utf8EncodeChar) := by
  induction text with
  | nil => exact ⟨[], rfl, List.forall_mem_nil _, rfl⟩
  | cons u us ih =>
    rw [List.all_cons, Bool.and_eq_true] at h
    obtain ⟨cs, rfl, hcs, hbytes⟩ := ih h.2
    obtain ⟨⟨hlt, hpercent⟩, hplus⟩ : (u.toNat ≤ 127 ∧ u ≠ code '%') ∧ u ≠ code '+' := by
      simpa [isSimple] using h.1
    obtain ⟨hhigh, hlow⟩ := Utf16.not_surrogate_of_lt (Nat.lt_of_le_of_lt hlt (by decide))
    obtain ⟨c, hc⟩ := Utf16.exists_ofChar_of_not_surrogate hhigh hlow
    have htoNat := Utf16.toNat_of_ofChar hc
    refine ⟨c :: cs, by rw [Utf16.ofChars_cons, hc]; rfl, ?_, ?_⟩
    · exact List.forall_mem_cons.mpr ⟨by omega, hcs⟩
    · rw [decodeBytes_cons hlt hpercent, if_neg hplus, hbytes, List.flatMap_cons,
        ← encodeRune_toNat c, encodeRune, if_pos (by omega), htoNat]
      rfl

/-- A text of simple characters needs no case of its own. -/
theorem decodeQueryComponent_eq (text : List UInt16) :
    decodeQueryComponent text = ((decodeBytes text).bind decodeUtf8).map ofChars := by
  rw [decodeQueryComponent]
  split
  · next h =>
    obtain ⟨cs, rfl, hcs, hbytes⟩ := exists_chars_of_simple h
    have hmark : dropMark cs = cs := by
      cases cs with
      | nil => rfl
      | cons c cs =>
        refine if_neg fun hc => ?_
        have hlt := hcs c List.mem_cons_self
        rw [hc] at hlt
        exact absurd hlt (by decide)
    rw [hbytes, Option.bind_some, decodeUtf8_eq_some.mpr ⟨cs, rfl, hmark⟩]
    rfl
  · rfl

/-- What a component is read as. -/
theorem decode_normalize_eq_some {s t : List UInt16} :
    decodeQueryComponent (normalize s) = some t ↔
      ∃ cs, bytesOf (runes s) = cs.flatMap String.utf8EncodeChar ∧ ofChars (dropMark cs) = t := by
  rw [decodeQueryComponent_eq, decodeBytes_normalize, Option.bind_some, Option.map_eq_some_iff]
  constructor
  · rintro ⟨cs, hcs, rfl⟩
    obtain ⟨ds, hds, rfl⟩ := decodeUtf8_eq_some.mp hcs
    exact ⟨ds, hds, rfl⟩
  · rintro ⟨cs, hcs, rfl⟩
    exact ⟨_, decodeUtf8_eq_some.mpr ⟨cs, hcs, rfl⟩, rfl⟩

/-! ### Texts that are read back -/

/-- The bytes of a text as it is, surrogates included. -/
def rawBytes (rs : List ℕ) : List UInt8 := rs.flatMap encodeRune

theorem rawBytes_map_toNat (cs : List Char) :
    rawBytes (cs.map Char.toNat) = cs.flatMap String.utf8EncodeChar := by
  rw [rawBytes, List.flatMap_map]
  rfl

theorem rawBytes_append (rs ts : List ℕ) : rawBytes (rs ++ ts) = rawBytes rs ++ rawBytes ts :=
  List.flatMap_append

theorem length_bytes_rune_le (n : ℕ) : (Piece.rune n).bytes.length ≤ (encodeRune n).length := by
  rw [Piece.bytes]
  split
  · exact length_encodeRune_pos n
  · exact Nat.le_refl _

/-- An escape makes a text shorter. -/
theorem length_bytesOf_escape {r x y : ℕ} {rs : List ℕ}
    (h : (bytesOf rs).length ≤ (rawBytes rs).length) :
    (bytesOf rs).length + 1 < (rawBytes (r :: x :: y :: rs)).length := by
  have hr := length_encodeRune_pos r
  have hx := length_encodeRune_pos x
  have hy := length_encodeRune_pos y
  simp only [rawBytes, List.flatMap_cons, List.length_append] at h ⊢
  omega

theorem length_bytesOf_le (rs : List ℕ) : (bytesOf rs).length ≤ (rawBytes rs).length := by
  induction rs using pieces_induction with
  | nil => exact Nat.le_refl _
  | escape r x y b rs hb ih =>
    rw [bytesOf, pieces_escape hb]
    exact Nat.le_of_lt (length_bytesOf_escape ih)
  | rune r rs hnone ih =>
    rw [bytesOf, pieces_rune hnone, List.flatMap_cons, List.length_append, rawBytes,
      List.flatMap_cons, List.length_append]
    exact Nat.add_le_add (length_bytes_rune_le r) ih

/-- No escape begins anywhere. -/
def NoEscape (rs : List ℕ) : Prop := ∀ r x y, [r, x, y] <:+: rs → escapeValue r x y = none

theorem noEscape_cons {r : ℕ} {rs : List ℕ} :
    NoEscape (r :: rs) ↔ NoEscapeAt r rs ∧ NoEscape rs := by
  constructor
  · intro h
    refine ⟨?_, fun r' x y hsub => h r' x y (hsub.trans (List.suffix_cons r rs).isInfix)⟩
    rintro x y rest rfl
    exact h r x y (List.prefix_append [r, x, y] rest).isInfix
  · rintro ⟨hat, hrs⟩ r' x y hsub
    rcases List.infix_cons_iff.mp hsub with hprefix | hsub
    · obtain ⟨rest, hrest⟩ := hprefix
      obtain ⟨hr, htail⟩ := List.cons.inj hrest
      exact hr ▸ hat x y rest htail.symm
    · exact hrs r' x y hsub

/-- The bytes of a text are kept exactly if it holds no `+` and no escape. -/
theorem bytesOf_eq_rawBytes_iff {rs : List ℕ} :
    bytesOf rs = rawBytes rs ↔ '+'.toNat ∉ rs ∧ NoEscape rs := by
  induction rs using pieces_induction with
  | nil =>
    refine ⟨fun _ => ⟨List.not_mem_nil, fun r x y h => ?_⟩, fun _ => rfl⟩
    cases List.infix_nil.mp h
  | escape r x y b rs hb ih =>
    constructor
    · intro h
      have hlength := length_bytesOf_escape (r := r) (x := x) (y := y) (length_bytesOf_le rs)
      have hbytes : bytesOf (r :: x :: y :: rs) = b :: bytesOf rs := by
        rw [bytesOf, pieces_escape hb]
        rfl
      rw [← h, hbytes, List.length_cons] at hlength
      exact absurd hlength (Nat.lt_irrefl _)
    · rintro ⟨-, h⟩
      rw [h r x y (List.prefix_append [r, x, y] rs).isInfix] at hb
      cases hb
  | rune r rs hnone ih =>
    rw [noEscape_cons, List.mem_cons, not_or, bytesOf, pieces_rune hnone, rawBytes,
      List.flatMap_cons, List.flatMap_cons, Piece.bytes]
    by_cases hplus : r = '+'.toNat
    · -- a blank is not a plus
      rw [if_pos hplus, hplus]
      exact iff_of_false (fun h => absurd (List.cons.inj h).1 (by decide)) fun h => h.1.1 rfl
    · rw [if_neg hplus, List.append_cancel_left_eq]
      exact ih.trans ⟨fun h => ⟨⟨Ne.symm hplus, h.1⟩, hnone, h.2⟩, fun h => ⟨h.1.2, h.2.2⟩⟩

theorem escapeValue_eq_none_iff {r x y : ℕ} :
    escapeValue r x y = none ↔
      (r = '%'.toNat → (hexDigitValue x).isSome → (hexDigitValue y).isSome → False) := by
  rw [escapeValue]
  by_cases hr : r = '%'.toNat
  · rw [if_pos hr]
    cases hexDigitValue x <;> cases hexDigitValue y <;> simp [hr]
  · rw [if_neg hr]
    exact iff_of_true rfl fun h => absurd h hr

theorem lt_of_hexDigitValue {n : ℕ} (h : (hexDigitValue n).isSome) : n < 128 := by
  unfold hexDigitValue at h
  split at h
  · omega
  · split at h
    · omega
    · split at h
      · omega
      · cases h

/-- The escapes in a text of characters, found in its code points and in its units. -/
theorem noEscape_runes_iff {cs : List Char} :
    NoEscape (runes (ofChars cs)) ↔
      ∀ x y : UInt16, (hexDigitValue x.toNat).isSome → (hexDigitValue y.toNat).isSome →
        ¬[code '%', x, y] <:+: ofChars cs := by
  constructor
  · rintro h x y hx hy ⟨s, t, hst⟩
    have hascii {u : UInt16} (hu : (hexDigitValue u.toNat).isSome) :
        Utf16.isHigh u = false ∧ Utf16.isLow u = false :=
      Utf16.not_surrogate_of_lt (Nat.lt_trans (lt_of_hexDigitValue hu) (by decide))
    have hrunes : runes (ofChars cs) =
        runes s ++ [(code '%').toNat, x.toNat, y.toNat] ++ runes t := by
      rw [← hst, List.append_assoc, List.append_assoc]
      simp only [List.cons_append, List.nil_append]
      rw [Utf16.runes_append_cons (by decide) (by decide),
        Utf16.runes_cons_of_not_isHigh (hascii hx).1, Utf16.runes_cons_of_not_isHigh (hascii hy).1]
    exact escapeValue_eq_none_iff.mp (h _ _ _ ⟨runes s, runes t, hrunes.symm⟩) rfl hx hy
  · intro h r x y hsub
    refine escapeValue_eq_none_iff.mpr fun hr hx hy => ?_
    subst hr
    obtain ⟨s, t, hst⟩ := hsub
    rw [Utf16.runes_ofChars, List.append_assoc] at hst
    obtain ⟨ds, es, rfl, -, hes⟩ := List.map_eq_append_iff.mp hst.symm
    obtain ⟨c, es, rfl, hc, hes⟩ := List.map_eq_cons_iff.mp hes
    obtain ⟨c₁, es, rfl, hc₁, hes⟩ := List.map_eq_cons_iff.mp hes
    obtain ⟨c₂, es, rfl, hc₂, -⟩ := List.map_eq_cons_iff.mp hes
    obtain rfl := Char.toNat_inj.mp hc
    have hunit {c : Char} {n : ℕ} (hn : (hexDigitValue n).isSome) (hc : c.toNat = n) :
        Utf16.ofChar c = [code c] := by
      have hlt := lt_of_hexDigitValue hn
      exact if_pos (by omega)
    have hunits := (Utf16.code_spec (hunit hx hc₁)).1
    refine h (code c₁) (code c₂) ?_ ?_ ⟨ofChars ds, ofChars es, ?_⟩
    · rw [(Utf16.code_spec (hunit hx hc₁)).1, hc₁]
      exact hx
    · rw [(Utf16.code_spec (hunit hy hc₂)).1, hc₂]
      exact hy
    · rw [Utf16.ofChars_append, Utf16.ofChars_cons, Utf16.ofChars_cons, Utf16.ofChars_cons,
        hunit hx hc₁, hunit hy hc₂, List.append_assoc]
      rfl

theorem dropMark_eq_self_iff {cs : List Char} :
    dropMark cs = cs ↔ (ofChars cs).head? ≠ some 0xFEFF := by
  have hmark : Utf16.ofChar byteOrderMark = [code byteOrderMark] := rfl
  constructor
  · intro h hhead
    obtain ⟨us, hus⟩ : ∃ us, ofChars cs = code byteOrderMark :: us :=
      List.head?_eq_some_iff.mp hhead
    obtain ⟨ds, es, rfl, hds, -⟩ := (Utf16.ofChars_eq_append_cons (s := []) hmark).mp hus
    cases ds with
    | nil =>
      rw [List.nil_append, dropMark, if_pos rfl] at h
      exact List.cons_ne_self _ _ h.symm
    | cons d ds => exact Utf16.ofChars_ne_nil (List.cons_ne_nil d ds) hds
  · intro h
    cases cs with
    | nil => rfl
    | cons c cs =>
      refine if_neg fun hc => h ?_
      rw [Utf16.ofChars_cons, hc, hmark]
      rfl

/-- The texts that are read back as they are. -/
theorem decode_normalize_iff {s : List UInt16} :
    decodeQueryComponent (normalize s) = some s ↔ Literal s := by
  have hplus : Utf16.ofChar '+' = [code '+'] := rfl
  -- for the code units of characters all conditions are about the characters
  have hchars (cs : List Char) : Literal (ofChars cs) ↔
      dropMark cs = cs ∧ bytesOf (cs.map Char.toNat) = cs.flatMap String.utf8EncodeChar := by
    rw [← rawBytes_map_toNat, bytesOf_eq_rawBytes_iff, dropMark_eq_self_iff, ← Utf16.runes_ofChars,
      noEscape_runes_iff, Utf16.runes_ofChars, List.mem_map_of_injective Utf16.toNat_injective,
      ← Utf16.code_mem_ofChars hplus]
    constructor
    · exact fun h => ⟨h.noMark, h.noPlus, h.noEscape⟩
    · exact fun h => ⟨Utf16.wellFormed_ofChars cs, h.1, h.2.1, h.2.2⟩
  constructor
  · intro h
    obtain ⟨cs, hbytes, rfl⟩ := decode_normalize_eq_some.mp h
    rw [Utf16.runes_ofChars] at hbytes
    have hmark : dropMark cs = cs := by
      cases cs with
      | nil => rfl
      | cons c cs =>
        refine if_neg fun hc => ?_
        rw [dropMark, if_pos hc] at hbytes
        have hle := length_bytesOf_le (cs.map Char.toNat)
        have hpos := length_encodeRune_pos c.toNat
        rw [hbytes, rawBytes_map_toNat, List.flatMap_cons, List.length_append,
          ← encodeRune_toNat] at hle
        omega
    rw [hmark] at hbytes ⊢
    exact (hchars cs).mpr ⟨hmark, hbytes⟩
  · intro h
    obtain ⟨cs, rfl⟩ := Utf16.wellFormed_iff_ofChars.mp h.wellFormed
    obtain ⟨hmark, hbytes⟩ := (hchars cs).mp h
    exact decode_normalize_eq_some.mpr
      ⟨cs, by rw [Utf16.runes_ofChars, hbytes], by rw [hmark]⟩

end Uri
