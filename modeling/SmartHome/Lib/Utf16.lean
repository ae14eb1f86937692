import Mathlib.Data.List.Basic
import Mathlib.Data.List.Infix

/-!
# UTF-16 code units

A text in UTF-16 is a list of code units. It is well formed if its surrogates come in pairs, a high
one followed by a low one; the well-formed texts are those of the lists of characters. The runes of
a text are the code points of its characters, and its surrogates that have no partner.

## Main definitions

* `Utf16.isHigh`, `Utf16.isLow`, `Utf16.wellFormed`.
* `Utf16.ofChars` : the code units of characters.
* `Utf16.runes` : the code points of a text.
* `Utf16.toChars` : the characters of a text.

## Main results

* `Utf16.wellFormed_take_iff` : a beginning of a well-formed text is well formed exactly if it does
  not end between the two units of a pair.
* `Utf16.wellFormed_iff_ofChars` : the well-formed texts.
* `Utf16.runes_ofChars`, `Utf16.runes_append_cons` : the runes of a text.
-/

namespace Utf16

/-- A high surrogate, the first unit of a pair. -/
def isHigh (u : UInt16) : Bool := 0xD800 ≤ u && u ≤ 0xDBFF

/-- A low surrogate, the second unit of a pair. -/
def isLow (u : UInt16) : Bool := 0xDC00 ≤ u && u ≤ 0xDFFF

/-- Every high surrogate is followed by a low one, and no low surrogate stands elsewhere. -/
def wellFormed : List UInt16 → Bool
  | [] => true
  | [u] => !isHigh u && !isLow u
  | u :: v :: us =>
    if isHigh u then isLow v && wellFormed us else !isLow u && wellFormed (v :: us)

/-- The code unit of a character below U+10000. -/
def code (c : Char) : UInt16 := .ofNat c.toNat

/-- The code units of a character. -/
def ofChar (c : Char) : List UInt16 :=
  if c.toNat < 0x10000 then [code c]
  else
    [.ofNat (0xD800 + (c.toNat - 0x10000) / 0x400), .ofNat (0xDC00 + (c.toNat - 0x10000) % 0x400)]

/-- The code units of characters. -/
def ofChars (cs : List Char) : List UInt16 := cs.flatMap ofChar

/-- The code units of a string. -/
def ofString (s : String) : List UInt16 := ofChars s.toList

/-- The code point that a pair of surrogates stands for. -/
def pairValue (u v : UInt16) : ℕ := 0x10000 + (u.toNat - 0xD800) * 0x400 + (v.toNat - 0xDC00)

/-- The code points of a text. A surrogate without a partner stands for itself. -/
def runes : List UInt16 → List ℕ
  | [] => []
  | [u] => [u.toNat]
  | u :: v :: us =>
    if isHigh u && isLow v then pairValue u v :: runes us else u.toNat :: runes (v :: us)

/-- The character of a code point. A surrogate is replaced. -/
def charOfRune (n : ℕ) : Char := if 0xD800 ≤ n ∧ n ≤ 0xDFFF then '\uFFFD' else Char.ofNat n

/-- The characters of a text. A surrogate without a partner is replaced. -/
def toChars (us : List UInt16) : List Char := (runes us).map charOfRune

/-! ### Surrogates -/

theorem isHigh_iff {u : UInt16} : isHigh u = true ↔ 0xD800 ≤ u.toNat ∧ u.toNat ≤ 0xDBFF := by
  simp only [isHigh, Bool.and_eq_true, decide_eq_true_eq, UInt16.le_iff_toNat_le]
  exact Iff.rfl

theorem isLow_iff {u : UInt16} : isLow u = true ↔ 0xDC00 ≤ u.toNat ∧ u.toNat ≤ 0xDFFF := by
  simp only [isLow, Bool.and_eq_true, decide_eq_true_eq, UInt16.le_iff_toNat_le]
  exact Iff.rfl

theorem isLow_of_isHigh {u : UInt16} (h : isHigh u = true) : isLow u = false := by
  have hhigh := isHigh_iff.mp h
  rw [← Bool.not_eq_true, isLow_iff]
  omega

theorem not_surrogate_of_lt {u : UInt16} (h : u.toNat < 0xD800) :
    isHigh u = false ∧ isLow u = false := by
  rw [← Bool.not_eq_true, ← Bool.not_eq_true, isHigh_iff, isLow_iff]
  omega

theorem wellFormed_cons_of_not_isHigh {u : UInt16} (h : isHigh u = false) (us : List UInt16) :
    wellFormed (u :: us) = (!isLow u && wellFormed us) := by
  cases us <;> simp [wellFormed, h]

theorem wellFormed_pair {u v : UInt16} (hu : isHigh u = true) (hv : isLow v = true)
    (us : List UInt16) : wellFormed (u :: v :: us) = wellFormed us := by
  simp [wellFormed, hu, hv]

/-- What comes after units that are no surrogates. -/
theorem wellFormed_append_of_lt {p : List UInt16} (h : ∀ u ∈ p, u.toNat < 0xD800)
    (t : List UInt16) : wellFormed (p ++ t) = wellFormed t := by
  induction p with
  | nil => rfl
  | cons u p ih =>
    obtain ⟨hhigh, hlow⟩ := not_surrogate_of_lt (h u List.mem_cons_self)
    rw [List.cons_append, wellFormed_cons_of_not_isHigh hhigh, hlow, Bool.not_false, Bool.true_and]
    exact ih fun v hv => h v (List.mem_cons_of_mem u hv)

/-- A cut of a well-formed text leaves a well-formed text exactly if the first unit after it is not
a low surrogate. -/
theorem wellFormed_take_iff {us : List UInt16} (h : wellFormed us = true) (n : ℕ) :
    wellFormed (us.take n) = true ↔ us[n]?.any isLow = false := by
  induction us using wellFormed.induct generalizing n with
  | case1 => simp [wellFormed]
  | case2 u =>
    have hu : isLow u = false := by simp_all [wellFormed]
    cases n with
    | zero => simp [wellFormed, hu]
    | succ n => simpa using h
  | case3 u v us hhigh ih =>
    simp only [wellFormed, hhigh, if_true, Bool.and_eq_true] at h
    cases n with
    | zero => simp [wellFormed, isLow_of_isHigh hhigh]
    | succ n =>
      cases n with
      | zero => simp [wellFormed, hhigh, h.1]
      | succ n => simpa [wellFormed, hhigh, h.1] using ih h.2 n
  | case4 u v us hhigh ih =>
    have hhigh : isHigh u = false := by simpa using hhigh
    rw [wellFormed_cons_of_not_isHigh hhigh, Bool.and_eq_true] at h
    cases n with
    | zero => simpa [wellFormed] using h.1
    | succ n =>
      rw [List.take_succ_cons, wellFormed_cons_of_not_isHigh hhigh, h.1, Bool.true_and,
        List.getElem?_cons_succ]
      exact ih h.2 n

theorem runes_cons_of_not_isHigh {u : UInt16} (h : isHigh u = false) (us : List UInt16) :
    runes (u :: us) = u.toNat :: runes us := by
  cases us <;> simp [runes, h]

theorem runes_pair {u v : UInt16} (hu : isHigh u = true) (hv : isLow v = true)
    (us : List UInt16) : runes (u :: v :: us) = pairValue u v :: runes us := by
  simp [runes, hu, hv]

/-! ### Characters -/

/-- A character is one unit that is no surrogate, or a pair of surrogates. -/
theorem ofChar_cases (c : Char) :
    (ofChar c = [code c] ∧ (code c).toNat = c.toNat ∧
      isHigh (code c) = false ∧ isLow (code c) = false) ∨
    ∃ u v, ofChar c = [u, v] ∧ isHigh u = true ∧ isLow v = true ∧ pairValue u v = c.toNat := by
  have hvalid : c.toNat < 0xD800 ∨ 0xDFFF < c.toNat ∧ c.toNat < 0x110000 := c.valid
  rw [← Bool.not_eq_true, ← Bool.not_eq_true, isHigh_iff, isLow_iff]
  by_cases hc : c.toNat < 0x10000
  · left
    have hcode : (code c).toNat = c.toNat := UInt16.toNat_ofNat_of_lt' hc
    exact ⟨if_pos hc, hcode, by omega, by omega⟩
  · right
    have hhigh : (UInt16.ofNat (0xD800 + (c.toNat - 0x10000) / 0x400)).toNat =
        0xD800 + (c.toNat - 0x10000) / 0x400 := by
      rw [UInt16.toNat_ofNat']
      omega
    have hlow : (UInt16.ofNat (0xDC00 + (c.toNat - 0x10000) % 0x400)).toNat =
        0xDC00 + (c.toNat - 0x10000) % 0x400 := by
      rw [UInt16.toNat_ofNat']
      omega
    refine ⟨_, _, if_neg hc, isHigh_iff.mpr ?_, isLow_iff.mpr ?_, ?_⟩
    · omega
    · omega
    · have hsplit (n : ℕ) (hn : 0x10000 ≤ n) : 0x10000 + (0xD800 + (n - 0x10000) / 0x400 - 0xD800) *
          0x400 + (0xDC00 + (n - 0x10000) % 0x400 - 0xDC00) = n := by omega
      unfold pairValue
      rw [hhigh, hlow]
      exact hsplit c.toNat (Nat.le_of_not_lt hc)

theorem wellFormed_ofChar_append (c : Char) (us : List UInt16) :
    wellFormed (ofChar c ++ us) = wellFormed us := by
  rcases ofChar_cases c with ⟨hc, -, hhigh, hlow⟩ | ⟨u, v, hc, hu, hv, -⟩
  · rw [hc, List.singleton_append, wellFormed_cons_of_not_isHigh hhigh, hlow]
    rfl
  · rw [hc]
    exact wellFormed_pair hu hv us

theorem runes_ofChar_append (c : Char) (us : List UInt16) :
    runes (ofChar c ++ us) = c.toNat :: runes us := by
  rcases ofChar_cases c with ⟨hc, hcode, hhigh, -⟩ | ⟨u, v, hc, hu, hv, hvalue⟩
  · rw [hc, List.singleton_append, runes_cons_of_not_isHigh hhigh, hcode]
  · rw [hc, ← hvalue]
    exact runes_pair hu hv us

theorem ofChars_cons (c : Char) (cs : List Char) : ofChars (c :: cs) = ofChar c ++ ofChars cs := rfl

theorem ofChars_append (cs ds : List Char) : ofChars (cs ++ ds) = ofChars cs ++ ofChars ds :=
  List.flatMap_append

theorem ofChars_ne_nil {cs : List Char} (h : cs ≠ []) : ofChars cs ≠ [] := by
  obtain ⟨c, cs, rfl⟩ := List.exists_cons_of_ne_nil h
  rw [ofChars_cons]
  rcases ofChar_cases c with ⟨hc, -⟩ | ⟨u, v, hc, -⟩ <;> rw [hc] <;> exact List.cons_ne_nil _ _

theorem runes_ofChars (cs : List Char) : runes (ofChars cs) = cs.map Char.toNat := by
  induction cs with
  | nil => rfl
  | cons c cs ih => rw [ofChars_cons, runes_ofChar_append, ih, List.map_cons]

theorem runes_ne_nil {us : List UInt16} (h : us ≠ []) : runes us ≠ [] := by
  match us, h with
  | [u], _ => simp [runes]
  | u :: v :: us, _ =>
    rw [runes]
    split <;> simp

theorem charOfRune_toNat (c : Char) : charOfRune c.toNat = c := by
  have hvalid : c.toNat < 0xD800 ∨ 0xDFFF < c.toNat ∧ c.toNat < 0x110000 := c.valid
  rw [charOfRune, if_neg (by omega), Char.ofNat_toNat]

/-- The characters are those that the text was made of. -/
theorem toChars_ofChars (cs : List Char) : toChars (ofChars cs) = cs := by
  rw [toChars, runes_ofChars, List.map_map]
  exact List.map_id'' charOfRune_toNat cs

theorem toChars_ne_nil {us : List UInt16} (h : us ≠ []) : toChars us ≠ [] := by
  rw [toChars, Ne, List.map_eq_nil_iff]
  exact runes_ne_nil h

theorem toNat_injective : Function.Injective Char.toNat := fun _ _ => Char.toNat_inj.mp

theorem wellFormed_ofChars (cs : List Char) : wellFormed (ofChars cs) = true := by
  induction cs with
  | nil => rfl
  | cons c cs ih => rw [ofChars_cons, wellFormed_ofChar_append, ih]

/-- A unit that is no surrogate is a character. -/
theorem exists_ofChar_of_not_surrogate {u : UInt16} (hhigh : isHigh u = false)
    (hlow : isLow u = false) : ∃ c, ofChar c = [u] := by
  have hu : u.toNat < 65536 := u.toNat_lt
  have hvalid : u.toNat.isValidChar := by
    rw [← Bool.not_eq_true, isHigh_iff] at hhigh
    rw [← Bool.not_eq_true, isLow_iff] at hlow
    change u.toNat < 0xD800 ∨ 0xDFFF < u.toNat ∧ u.toNat < 0x110000
    omega
  have hc : (Char.ofNatAux u.toNat hvalid).toNat = u.toNat := rfl
  exact ⟨.ofNatAux u.toNat hvalid, by rw [ofChar, hc, if_pos hu, code, hc, UInt16.ofNat_toNat]⟩

/-- A pair of surrogates is a character. -/
theorem exists_ofChar_of_pair {u v : UInt16} (hu : isHigh u = true) (hv : isLow v = true) :
    ∃ c, ofChar c = [u, v] := by
  have hhigh := isHigh_iff.mp hu
  have hlow := isLow_iff.mp hv
  have hvalid : (pairValue u v).isValidChar := by
    change pairValue u v < 0xD800 ∨ 0xDFFF < pairValue u v ∧ pairValue u v < 0x110000
    unfold pairValue
    omega
  have hc : (Char.ofNatAux (pairValue u v) hvalid).toNat = pairValue u v := rfl
  refine ⟨.ofNatAux (pairValue u v) hvalid, ?_⟩
  have hquotient : 0xD800 + (pairValue u v - 0x10000) / 0x400 = u.toNat := by
    unfold pairValue
    omega
  have hremainder : 0xDC00 + (pairValue u v - 0x10000) % 0x400 = v.toNat := by
    unfold pairValue
    omega
  rw [ofChar, hc, if_neg (by unfold pairValue; omega), hquotient, hremainder, UInt16.ofNat_toNat,
    UInt16.ofNat_toNat]

/-- The well-formed texts are those of the lists of characters. -/
theorem wellFormed_iff_ofChars {us : List UInt16} :
    wellFormed us = true ↔ ∃ cs, ofChars cs = us := by
  constructor
  · intro h
    induction us using wellFormed.induct with
    | case1 => exact ⟨[], rfl⟩
    | case2 u =>
      simp only [wellFormed, Bool.and_eq_true, Bool.not_eq_true'] at h
      obtain ⟨c, hc⟩ := exists_ofChar_of_not_surrogate h.1 h.2
      exact ⟨[c], by rw [ofChars_cons, hc]; rfl⟩
    | case3 u v us hu ih =>
      simp only [wellFormed, hu, if_true, Bool.and_eq_true] at h
      obtain ⟨c, hc⟩ := exists_ofChar_of_pair hu h.1
      obtain ⟨cs, rfl⟩ := ih h.2
      exact ⟨c :: cs, by rw [ofChars_cons, hc]; rfl⟩
    | case4 u v us hu ih =>
      have hu : isHigh u = false := by simpa using hu
      rw [wellFormed_cons_of_not_isHigh hu, Bool.and_eq_true, Bool.not_eq_true'] at h
      obtain ⟨c, hc⟩ := exists_ofChar_of_not_surrogate hu h.1
      obtain ⟨cs, hcs⟩ := ih h.2
      exact ⟨c :: cs, by rw [ofChars_cons, hc, hcs]; rfl⟩
  · rintro ⟨cs, rfl⟩
    exact wellFormed_ofChars cs

/-! ### Separators -/

section Separator

variable {u : UInt16}

/-- A unit that is no surrogate separates the runes before it from those after it. -/
theorem runes_append_cons (hhigh : isHigh u = false) (hlow : isLow u = false)
    (s t : List UInt16) : runes (s ++ u :: t) = runes s ++ u.toNat :: runes t := by
  induction s using runes.induct with
  | case1 => exact runes_cons_of_not_isHigh hhigh t
  | case2 a =>
    change runes (a :: u :: t) = a.toNat :: u.toNat :: runes t
    rw [runes, hlow, Bool.and_false, if_neg Bool.false_ne_true, runes_cons_of_not_isHigh hhigh]
  | case3 a b s hpair ih =>
    rw [List.cons_append, List.cons_append, runes, runes, if_pos hpair, if_pos hpair, ih]
    rfl
  | case4 a b s hpair ih =>
    rw [List.cons_append, List.cons_append, runes, runes, if_neg hpair, if_neg hpair,
      ← List.cons_append, ih]
    rfl

/-- A unit that is a rune of a text is a unit of it. -/
theorem mem_of_toNat_mem_runes {s : List UInt16} (h : u.toNat ∈ runes s) : u ∈ s := by
  induction s using runes.induct with
  | case1 => cases h
  | case2 a => exact List.mem_singleton.mpr (UInt16.toNat_inj.mp (List.mem_singleton.mp h))
  | case3 a b s hpair ih =>
    rw [runes, if_pos hpair] at h
    rcases List.mem_cons.mp h with h | h
    · -- a pair stands for a code point above all units
      have hu := u.toNat_lt
      unfold pairValue at h
      omega
    · exact List.mem_cons_of_mem a (List.mem_cons_of_mem b (ih h))
  | case4 a b s hpair ih =>
    rw [runes, if_neg hpair] at h
    rcases List.mem_cons.mp h with h | h
    · exact List.mem_cons.mpr (.inl (UInt16.toNat_inj.mp h))
    · exact List.mem_cons_of_mem a (ih h)

end Separator

/-- The unit of a character that has one unit. -/
theorem code_spec {c : Char} (hc : ofChar c = [code c]) :
    (code c).toNat = c.toNat ∧ isHigh (code c) = false ∧ isLow (code c) = false := by
  rcases ofChar_cases c with ⟨-, h⟩ | ⟨u, v, h, -⟩
  · exact h
  · rw [hc] at h
    cases h

theorem toNat_of_ofChar {c : Char} {u : UInt16} (h : ofChar c = [u]) : c.toNat = u.toNat := by
  rcases ofChar_cases c with ⟨hc, hcode, -⟩ | ⟨v, w, hc, -⟩
  · rw [← hcode, (List.cons.inj (hc.symm.trans h)).1]
  · rw [hc] at h
    cases h

theorem code_inj {c d : Char} (hc : ofChar c = [code c]) (hd : ofChar d = [code d])
    (h : code c = code d) : c = d :=
  Char.toNat_inj.mp ((code_spec hc).1.symm.trans ((congrArg _ h).trans (code_spec hd).1))

/-- A character that has one unit is found in a text at its unit. -/
theorem ofChars_eq_append_cons {c : Char} (hc : ofChar c = [code c]) {cs : List Char}
    {s t : List UInt16} :
    ofChars cs = s ++ code c :: t ↔
      ∃ ds es, cs = ds ++ c :: es ∧ ofChars ds = s ∧ ofChars es = t := by
  constructor
  · obtain ⟨-, hhigh, hlow⟩ := code_spec hc
    intro h
    induction cs generalizing s with
    | nil => exact absurd h.symm (List.append_ne_nil_of_right_ne_nil s (List.cons_ne_nil _ _))
    | cons d cs ih =>
      rw [ofChars_cons] at h
      rcases ofChar_cases d with ⟨hd, -⟩ | ⟨u, v, hd, hu, hv, -⟩
      · rw [hd, List.singleton_append] at h
        cases s with
        | nil =>
          obtain ⟨hcode, ht⟩ := List.cons.inj h
          exact ⟨[], cs, by rw [code_inj hd hc hcode]; rfl, rfl, ht⟩
        | cons a s =>
          obtain ⟨ha, h⟩ := List.cons.inj h
          obtain ⟨ds, es, rfl, hds, hes⟩ := ih h
          exact ⟨d :: ds, es, rfl, by rw [ofChars_cons, hd, hds, ha]; rfl, hes⟩
      · -- the unit is none of a pair
        rw [hd] at h
        rcases s with - | ⟨a, - | ⟨b, s⟩⟩
        · rw [(List.cons.inj h).1, hhigh] at hu
          cases hu
        · rw [(List.cons.inj (List.cons.inj h).2).1, hlow] at hv
          cases hv
        · obtain ⟨ha, h⟩ := List.cons.inj h
          obtain ⟨hb, h⟩ := List.cons.inj h
          obtain ⟨ds, es, rfl, hds, hes⟩ := ih h
          exact ⟨d :: ds, es, rfl, by rw [ofChars_cons, hd, hds, ha, hb]; rfl, hes⟩
  · rintro ⟨ds, es, rfl, rfl, rfl⟩
    rw [ofChars_append, ofChars_cons, hc]
    rfl

theorem code_mem_ofChars {c : Char} (hc : ofChar c = [code c]) {cs : List Char} :
    code c ∈ ofChars cs ↔ c ∈ cs := by
  constructor
  · intro h
    obtain ⟨s, t, h⟩ := List.append_of_mem h
    obtain ⟨ds, es, rfl, -⟩ := (ofChars_eq_append_cons hc).mp h
    exact List.mem_append_right ds List.mem_cons_self
  · intro h
    obtain ⟨ds, es, rfl⟩ := List.append_of_mem h
    rw [(ofChars_eq_append_cons hc).mpr ⟨ds, es, rfl, rfl, rfl⟩]
    exact List.mem_append_right _ List.mem_cons_self

end Utf16
