import SmartHome.Lib.LinkedMap
import SmartHome.Lib.Uri

/-!
# The parameters of a query

A query is split at `&` into its elements, and an element at the first `=` into the name of a
parameter and its value. Parameters of one name overwrite each other. A URI into which names and
values are spliced as they are says what is meant exactly if no value holds a character that is read
in another way.

## Main definitions

* `Uri.splitQueryString`, `Uri.queryParameters`.
* `Uri.Plain` : a text that can be spliced into a query.
* `Uri.DecodesTo` : the parameters of a URI, which has no fragment.

## Main results

* `Uri.plain_of_unreserved` : texts of unreserved characters can be spliced in.
* `Uri.splitOn_normalize`, `Uri.parameter_normalize` : a query is split where its text is.
* `Uri.get?_splitQueryString` : where the value of a parameter comes from.
* `Uri.decodesTo_iff` : the URIs with two parameters that are read back as they were meant.
-/

namespace Uri

open Utf16 (code ofChars runes)

/-- The name and the value of the parameter that an element of a query holds, if it holds one. -/
def parameter (element : List UInt16) : Option (Option (List UInt16 × List UInt16)) :=
  match splitFirst (code '=') element with
  | ([], _) => some none
  | (name, none) => (decodeQueryComponent name).map fun name => some (name, [])
  | (name, some value) =>
    (decodeQueryComponent name).bind fun name =>
      (decodeQueryComponent value).map fun value => some (name, value)

/-- An element of a query is added to the parameters. -/
def addElement (m : LinkedMap (List UInt16) (List UInt16)) (element : List UInt16) :
    Option (LinkedMap (List UInt16) (List UInt16)) :=
  (parameter element).map fun p => p.elim m fun p => m.put p.1 p.2

/-- `Uri.splitQueryString`. -/
def splitQueryString (query : List UInt16) : Option (LinkedMap (List UInt16) (List UInt16)) :=
  (query.splitOn (code '&')).foldlM addElement []

/-- `queryParameters`. -/
def queryParameters (uri : Uri) : Option (LinkedMap (List UInt16) (List UInt16)) :=
  splitQueryString (uri.query.getD [])

/-- The URI has these parameters and no others, and it has no fragment. -/
def DecodesTo (uri : Uri) (parameters : LinkedMap (List UInt16) (List UInt16)) : Prop :=
  (∃ m, uri.queryParameters = some m ∧ ∀ name, m.get? name = parameters.get? name) ∧
    uri.fragment = none

/-- A text that can be spliced into a query: nothing in it is read in another way. -/
structure Plain (s : List UInt16) : Prop extends Literal s where
  noAmpersand : code '&' ∉ s
  noHash : code '#' ∉ s

/-- A text that can be the name of a parameter. -/
structure IsName (s : List UInt16) : Prop extends Plain s where
  ne_nil : s ≠ []
  noEquals : code '=' ∉ s

/-! ### Texts of unreserved characters -/

section Unreserved

variable {s : List UInt16} (h : ∀ u ∈ s, isUnreserved u.toNat = true)
include h

theorem notMem_of_unreserved {u : UInt16} (hu : isUnreserved u.toNat = false) : u ∉ s := by
  intro hmem
  rw [h u hmem] at hu
  cases hu

theorem wellFormed_of_unreserved : Utf16.wellFormed s = true := by
  induction s with
  | nil => rfl
  | cons u s ih =>
    obtain ⟨hu, hs⟩ := List.forall_mem_cons.mp h
    obtain ⟨hhigh, hlow⟩ :=
      Utf16.not_surrogate_of_lt (Nat.lt_trans (lt_of_isUnreserved hu).1 (by decide))
    rw [Utf16.wellFormed_cons_of_not_isHigh hhigh, hlow, ih hs]
    rfl

/-- A text of unreserved characters can be spliced in. -/
theorem plain_of_unreserved : Plain s where
  wellFormed := wellFormed_of_unreserved h
  noMark := fun hhead => notMem_of_unreserved h (by decide) (List.mem_of_head? hhead)
  noPlus := notMem_of_unreserved h (by decide)
  noEscape := fun _ _ _ _ hsub =>
    notMem_of_unreserved h (by decide) (hsub.subset List.mem_cons_self)
  noAmpersand := notMem_of_unreserved h (by decide)
  noHash := notMem_of_unreserved h (by decide)

theorem isName_of_unreserved (hne : s ≠ []) : IsName s where
  toPlain := plain_of_unreserved h
  ne_nil := hne
  noEquals := notMem_of_unreserved h (by decide)

end Unreserved

/-! ### Splits -/

theorem splitFirst_of_notMem {u : UInt16} {s : List UInt16} (h : u ∉ s) :
    splitFirst u s = (s, none) := by
  induction s with
  | nil => rfl
  | cons v s ih =>
    rw [List.mem_cons, not_or] at h
    rw [splitFirst, if_neg (Ne.symm h.1), ih h.2]

theorem splitFirst_append_cons {u : UInt16} {s : List UInt16} (h : u ∉ s) (t : List UInt16) :
    splitFirst u (s ++ u :: t) = (s, some t) := by
  induction s with
  | nil => exact if_pos rfl
  | cons v s ih =>
    rw [List.mem_cons, not_or] at h
    rw [List.cons_append, splitFirst, if_neg (Ne.symm h.1), ih h.2]

/-- A text holds no `u`, or can be split at the first one. -/
theorem notMem_or_split (u : UInt16) (s : List UInt16) :
    u ∉ s ∨ ∃ a b, s = a ++ u :: b ∧ u ∉ a := by
  by_cases h : u ∈ s
  · obtain ⟨a, b, hs, ha⟩ := List.eq_append_cons_of_mem h
    exact .inr ⟨a, b, hs, ha⟩
  · exact .inl h

/-- Induction along the pieces between which `u` stands. -/
@[elab_as_elim]
theorem split_induction (u : UInt16) {P : List UInt16 → Prop} (single : ∀ s, u ∉ s → P s)
    (cut : ∀ a b, u ∉ a → P b → P (a ++ u :: b)) (s : List UInt16) : P s := by
  induction hn : s.length using Nat.strong_induction_on generalizing s with
  | _ n ih =>
    rcases notMem_or_split u s with h | ⟨a, b, rfl, ha⟩
    · exact single s h
    · have hlength : b.length < n := by
        rw [← hn, List.length_append, List.length_cons]
        omega
      exact cut a b ha (ih b.length hlength b rfl)

section Separator

/-- A reserved character that a query may hold. -/
def IsSeparator (u : UInt16) : Prop := isQueryChar u.toNat = true ∧ isUnreserved u.toNat = false

variable {u : UInt16} (hu : IsSeparator u)
include hu

theorem IsSeparator.hexDigitValue : hexDigitValue u.toNat = none := by
  obtain ⟨-, hreserved⟩ := hu
  simp only [isUnreserved, Bool.or_eq_false_iff, Bool.and_eq_false_iff, decide_eq_false_iff_not]
    at hreserved
  rw [Uri.hexDigitValue, if_neg (by omega), if_neg (by omega), if_neg (by omega)]

theorem IsSeparator.not_surrogate : Utf16.isHigh u = false ∧ Utf16.isLow u = false :=
  Utf16.not_surrogate_of_lt (Nat.lt_trans (lt_of_isQueryChar hu.1).1 (by decide))

theorem pieces_append_cons (rs ts : List ℕ) :
    pieces (rs ++ u.toNat :: ts) = pieces rs ++ .rune u.toNat :: pieces ts := by
  have hnone {x y : ℕ} {r : ℕ} (h : x = u.toNat ∨ y = u.toNat) : escapeValue r x y = none := by
    refine escapeValue_eq_none_iff.mpr fun _ hx hy => ?_
    rcases h with rfl | rfl
    · rw [hu.hexDigitValue] at hx
      cases hx
    · rw [hu.hexDigitValue] at hy
      cases hy
  induction rs using pieces_induction with
  | nil =>
    refine pieces_rune fun x y rest _ => escapeValue_eq_none_iff.mpr fun h => ?_
    exact absurd h (lt_of_isQueryChar hu.1).2
  | escape r x y b rs hb ih =>
    rw [List.cons_append, List.cons_append, List.cons_append, pieces_escape hb, pieces_escape hb,
      ih]
    rfl
  | rune r rs hat ih =>
    have hat' : NoEscapeAt r (rs ++ u.toNat :: ts) := by
      intro x y rest hrest
      rcases rs with - | ⟨x', - | ⟨y', rs⟩⟩
      · exact hnone (.inl (List.cons.inj hrest).1.symm)
      · exact hnone (.inr (List.cons.inj (List.cons.inj hrest).2).1.symm)
      · rw [← (List.cons.inj hrest).1, ← (List.cons.inj (List.cons.inj hrest).2).1]
        exact hat x' y' rs rfl
    rw [List.cons_append, pieces_rune hat', pieces_rune hat, ih]
    rfl

theorem normalize_append_cons (s t : List UInt16) :
    normalize (s ++ u :: t) = normalize s ++ u :: normalize t := by
  rw [normalize, Utf16.runes_append_cons hu.not_surrogate.1 hu.not_surrogate.2,
    pieces_append_cons hu, List.flatMap_append, List.flatMap_cons, Piece.normalize, if_pos hu.1,
    UInt16.ofNat_toNat]
  rfl

omit hu in
theorem mem_of_rune_mem_pieces {n : ℕ} {rs : List ℕ} (h : Piece.rune n ∈ pieces rs) : n ∈ rs := by
  induction rs using pieces_induction with
  | nil => cases h
  | escape r x y b rs hb ih =>
    rw [pieces_escape hb] at h
    rcases List.mem_cons.mp h with h | h
    · cases h
    · exact List.mem_cons_of_mem r (List.mem_cons_of_mem x (List.mem_cons_of_mem y (ih h)))
  | rune r rs hat ih =>
    rw [pieces_rune hat] at h
    rcases List.mem_cons.mp h with h | h
    · cases h
      exact List.mem_cons_self
    · exact List.mem_cons_of_mem r (ih h)

/-- An escape holds no separator. -/
theorem notMem_escapeByte (b : UInt8) : u ∉ escapeByte b := by
  have hb : b.toNat < 256 := b.toNat_lt
  have hdigit {n : ℕ} (hn : n < 16) (h : u = hexDigit n) : False := by
    have hvalue := hexDigitValue_hexDigit hn
    rw [← h, hu.hexDigitValue] at hvalue
    cases hvalue
  intro h
  rcases List.mem_cons.mp h with h | h
  · exact (lt_of_isQueryChar hu.1).2 (h ▸ rfl)
  · rcases List.mem_cons.mp h with h | h
    · exact hdigit (by omega) h
    · exact hdigit (by omega) (List.mem_singleton.mp h)

/-- A separator in a piece of a query is that piece. -/
theorem eq_rune_of_mem_normalize {p : Piece} (h : u ∈ p.normalize) : p = .rune u.toNat := by
  cases p with
  | escape b =>
    rw [Piece.normalize] at h
    split at h
    · next hb =>
      have hnat := toNat_ofNat_of_lt (lt_of_isUnreserved hb).1
      rw [← List.mem_singleton.mp h] at hnat
      rw [← hnat, hu.2] at hb
      cases hb
    · exact absurd h (notMem_escapeByte hu b)
  | rune n =>
    rw [Piece.normalize] at h
    split at h
    · next hn =>
      rw [List.mem_singleton.mp h, toNat_ofNat_of_lt (lt_of_isQueryChar hn).1]
    · obtain ⟨b, -, hb⟩ := List.mem_flatMap.mp h
      exact absurd hb (notMem_escapeByte hu b)

/-- A separator in a query is one in its text. -/
theorem notMem_normalize {s : List UInt16} (h : u ∉ s) : u ∉ normalize s := by
  intro hmem
  obtain ⟨p, hp, hup⟩ := List.mem_flatMap.mp hmem
  rw [eq_rune_of_mem_normalize hu hup] at hp
  exact h (Utf16.mem_of_toNat_mem_runes (mem_of_rune_mem_pieces hp))

/-- A query is split where its text is. -/
theorem splitOn_normalize (s : List UInt16) :
    (normalize s).splitOn u = (s.splitOn u).map normalize := by
  induction s using split_induction u with
  | single s h =>
    rw [List.splitOn_eq_singleton h, List.splitOn_eq_singleton (notMem_normalize hu h)]
    rfl
  | cut a b ha ih =>
    rw [normalize_append_cons hu, List.splitOn_append_cons_self, List.splitOn_append_cons_self,
      List.splitOn_eq_singleton ha, List.splitOn_eq_singleton (notMem_normalize hu ha), ih]
    rfl

theorem splitFirst_normalize (s : List UInt16) :
    splitFirst u (normalize s) =
      (normalize (splitFirst u s).1, (splitFirst u s).2.map normalize) := by
  rcases notMem_or_split u s with h | ⟨a, b, rfl, ha⟩
  · rw [splitFirst_of_notMem h, splitFirst_of_notMem (notMem_normalize hu h)]
    rfl
  · rw [normalize_append_cons hu, splitFirst_append_cons ha,
      splitFirst_append_cons (notMem_normalize hu ha)]
    rfl

end Separator

theorem isSeparator_ampersand : IsSeparator (code '&') := ⟨rfl, rfl⟩

theorem isSeparator_equals : IsSeparator (code '=') := ⟨rfl, rfl⟩

/-! ### Parameters -/

/-- What a text in a query is read as. -/
def component (s : List UInt16) : Option (List UInt16) := decodeQueryComponent (normalize s)

theorem component_of_literal {s : List UInt16} (h : Literal s) : component s = some s :=
  decode_normalize_iff.mpr h

/-- The number of bytes of a text. -/
def size (s : List UInt16) : ℕ := (rawBytes (runes s)).length

theorem size_append_cons {u : UInt16} (hu : IsSeparator u) (s t : List UInt16) :
    size (s ++ u :: t) = size s + size t + 1 := by
  have hone : (encodeRune u.toNat).length = 1 := by
    rw [encodeRune, if_pos (Nat.le_of_lt_succ (lt_of_isQueryChar hu.1).1)]
    rfl
  rw [size, Utf16.runes_append_cons hu.not_surrogate.1 hu.not_surrogate.2, rawBytes_append,
    rawBytes, rawBytes, List.flatMap_cons, List.length_append, List.length_append, hone]
  simp only [size, rawBytes]
  omega

/-- A text does not become longer. -/
theorem size_le_of_component {s t : List UInt16} (h : component s = some t) : size t ≤ size s := by
  obtain ⟨cs, hbytes, rfl⟩ := decode_normalize_eq_some.mp h
  have hle := length_bytesOf_le (runes s)
  have hdrop : (rawBytes ((dropMark cs).map Char.toNat)).length ≤
      (rawBytes (cs.map Char.toNat)).length := by
    cases cs with
    | nil => exact Nat.le_refl _
    | cons c cs =>
      rw [dropMark]
      split
      · rw [rawBytes, rawBytes, List.map_cons, List.flatMap_cons, List.length_append]
        exact Nat.le_add_left _ _
      · exact Nat.le_refl _
  rw [hbytes, ← rawBytes_map_toNat] at hle
  rw [size, Utf16.runes_ofChars]
  exact hdrop.trans hle

/-- A name and a value that are spliced into a query are a parameter of that name. -/
theorem parameter_splice {name : List UInt16} (hname : IsName name) (value : List UInt16) :
    parameter (normalize (name ++ code '=' :: value)) =
      (component value).map fun v => some (name, v) := by
  have hdecode : decodeQueryComponent (normalize name) = some name :=
    decode_normalize_iff.mpr hname.toLiteral
  have hne : normalize name ≠ [] := by
    intro h
    rw [h] at hdecode
    exact hname.ne_nil (Option.some.inj hdecode).symm
  obtain ⟨u, us, hus⟩ := List.exists_cons_of_ne_nil hne
  rw [parameter, splitFirst_normalize isSeparator_equals, splitFirst_append_cons hname.noEquals]
  simp only [Option.map_some, hus]
  rw [← hus, hdecode]
  rfl

/-- The value of a parameter is not longer than the element that holds it. -/
theorem size_le_of_parameter {element name value : List UInt16}
    (h : parameter (normalize element) = some (some (name, value))) :
    size value ≤ size element := by
  rw [parameter, splitFirst_normalize isSeparator_equals] at h
  rcases notMem_or_split (code '=') element with hnot | ⟨a, b, rfl, ha⟩
  · rw [splitFirst_of_notMem hnot] at h
    split at h
    · cases h
    · obtain ⟨n, -, hn⟩ := Option.map_eq_some_iff.mp h
      cases hn
      exact Nat.zero_le _
    · next hsplit => cases hsplit
  · rw [splitFirst_append_cons ha] at h
    have hle := Nat.le_add_left (size b) (size a)
    rw [size_append_cons isSeparator_equals]
    split at h
    · cases h
    · next hsplit => cases hsplit
    · next hsplit =>
      cases hsplit
      obtain ⟨n, -, h⟩ := Option.bind_eq_some_iff.mp h
      obtain ⟨v, hv, hn⟩ := Option.map_eq_some_iff.mp h
      cases hn
      have hsize : size value ≤ size b := size_le_of_component hv
      omega

/-! ### Where a value comes from -/

/-- A parameter has its value from the last element that holds it, or had it before. -/
theorem get?_of_foldlM {elements : List (List UInt16)}
    {m m' : LinkedMap (List UInt16) (List UInt16)} (h : elements.foldlM addElement m = some m')
    {name value : List UInt16} (hget : m'.get? name = some value) :
    (∃ e ∈ elements, parameter e = some (some (name, value))) ∨
      m.get? name = some value ∧ ∀ e ∈ elements, ∀ v, parameter e ≠ some (some (name, v)) := by
  induction elements generalizing m with
  | nil =>
    cases h
    exact .inr ⟨hget, List.forall_mem_nil _⟩
  | cons e es ih =>
    rw [List.foldlM_cons] at h
    obtain ⟨m₁, hm₁, h⟩ := Option.bind_eq_some_iff.mp h
    obtain ⟨p, hp, rfl⟩ := Option.map_eq_some_iff.mp hm₁
    rcases ih h with ⟨e', he', hvalue⟩ | ⟨hvalue, hnone⟩
    · exact .inl ⟨e', List.mem_cons_of_mem e he', hvalue⟩
    · cases p with
      | none =>
        refine .inr ⟨hvalue, List.forall_mem_cons.mpr ⟨fun v hv => ?_, hnone⟩⟩
        rw [hp] at hv
        cases hv
      | some p =>
        rw [Option.elim_some, LinkedMap.get?_put] at hvalue
        split at hvalue
        · next hname =>
          refine .inl ⟨e, List.mem_cons_self, ?_⟩
          rw [hp, ← hname, ← Option.some.inj hvalue]
        · next hname =>
          refine .inr ⟨hvalue, List.forall_mem_cons.mpr ⟨fun v hv => ?_, hnone⟩⟩
          rw [hp] at hv
          exact hname (congrArg Prod.fst (Option.some.inj (Option.some.inj hv)))

/-- All elements of a query that is read have been read. -/
theorem exists_parameter_of_foldlM {elements : List (List UInt16)}
    {m m' : LinkedMap (List UInt16) (List UInt16)} (h : elements.foldlM addElement m = some m')
    {e : List UInt16} (he : e ∈ elements) : ∃ p, parameter e = some p := by
  induction elements generalizing m with
  | nil => cases he
  | cons e' es ih =>
    rw [List.foldlM_cons] at h
    obtain ⟨m₁, hm₁, h⟩ := Option.bind_eq_some_iff.mp h
    rcases List.mem_cons.mp he with rfl | he
    · obtain ⟨p, hp, -⟩ := Option.map_eq_some_iff.mp hm₁
      exact ⟨p, hp⟩
    · exact ih h he

/-- An element of a query is not longer than the query. -/
theorem size_le_of_mem_splitOn {e s : List UInt16} (h : e ∈ s.splitOn (code '&')) :
    size e ≤ size s := by
  induction s using split_induction (code '&') with
  | single s hnot =>
    rw [List.splitOn_eq_singleton hnot] at h
    rw [List.mem_singleton.mp h]
  | cut a b ha ih =>
    rw [List.splitOn_append_cons_self, List.splitOn_eq_singleton ha] at h
    rw [size_append_cons isSeparator_ampersand]
    rcases List.mem_append.mp h with h | h
    · rw [List.mem_singleton.mp h]
      omega
    · have hle := ih h
      omega

section Splice

variable {name value : List UInt16} (hname : IsName name)
include hname

theorem noAmpersand_splice {a : List UInt16} (ha : code '&' ∉ a) :
    code '&' ∉ name ++ code '=' :: a := by
  simp only [List.mem_append, List.mem_cons, not_or]
  exact ⟨hname.noAmpersand, by decide, ha⟩

/-- The first element of a name and a value that are spliced in. -/
theorem exists_mem_splitOn_splice (value : List UInt16) :
    ∃ a, name ++ code '=' :: a ∈ (name ++ code '=' :: value).splitOn (code '&') := by
  rcases notMem_or_split (code '&') value with hnot | ⟨a, b, rfl, ha⟩
  · refine ⟨value, ?_⟩
    rw [List.splitOn_eq_singleton (noAmpersand_splice hname hnot)]
    exact List.mem_singleton_self _
  · refine ⟨a, ?_⟩
    rw [← List.cons_append, ← List.append_assoc, List.splitOn_append_cons_self,
      List.splitOn_eq_singleton (noAmpersand_splice hname ha)]
    exact List.mem_cons_self

/-- No element of a value with an `&` is read as all of it. -/
theorem noAmpersand_of_parameter {name' e : List UInt16}
    (he : e ∈ (name ++ code '=' :: value).splitOn (code '&'))
    (h : parameter (normalize e) = some (some (name', value))) : code '&' ∉ value := by
  rcases notMem_or_split (code '&') value with hnot | ⟨a, b, rfl, ha⟩
  · exact hnot
  · exfalso
    rw [← List.cons_append, ← List.append_assoc, List.splitOn_append_cons_self,
      List.splitOn_eq_singleton (noAmpersand_splice hname ha)] at he
    have hsize := size_append_cons isSeparator_ampersand a b
    rcases List.mem_append.mp he with he | he
    · rw [List.mem_singleton.mp he, parameter_splice hname] at h
      obtain ⟨v, hv, hvalue⟩ := Option.map_eq_some_iff.mp h
      cases hvalue
      have hle := size_le_of_component hv
      omega
    · have hle := (size_le_of_parameter h).trans (size_le_of_mem_splitOn he)
      omega

/-- If an element of a name and a value that are spliced in is read as that value, nothing in the
value is read in another way. -/
theorem literal_of_parameter {name' e : List UInt16}
    (he : e ∈ (name ++ code '=' :: value).splitOn (code '&'))
    (h : parameter (normalize e) = some (some (name', value))) :
    e = name ++ code '=' :: value ∧ name' = name ∧ Literal value := by
  have hnot := noAmpersand_of_parameter hname he h
  rw [List.splitOn_eq_singleton (noAmpersand_splice hname hnot)] at he
  obtain rfl := List.mem_singleton.mp he
  rw [parameter_splice hname] at h
  obtain ⟨v, hv, hvalue⟩ := Option.map_eq_some_iff.mp h
  cases hvalue
  exact ⟨rfl, rfl, decode_normalize_iff.mp hv⟩

end Splice

/-! ### URIs with two parameters -/

theorem parse_of_notMem {base query : List UInt16} (hbase : code '#' ∉ base)
    (hquestion : code '?' ∉ base) (hquery : code '#' ∉ query) :
    parse (base ++ code '?' :: query) = ⟨base, some (normalize query), none⟩ := by
  have hnot : code '#' ∉ base ++ code '?' :: query := by
    simp only [List.mem_append, List.mem_cons, not_or]
    exact ⟨hbase, by decide, hquery⟩
  simp only [parse, splitFirst_of_notMem hnot, splitFirst_append_cons hquestion]
  rfl

theorem fragment_parse_of_mem {text : List UInt16} (h : code '#' ∈ text) :
    (parse text).fragment ≠ none := by
  obtain ⟨a, b, rfl, ha⟩ := List.eq_append_cons_of_mem h
  rw [parse, splitFirst_append_cons ha]
  exact Option.some_ne_none _

section TwoParameters

variable {name₁ name₂ : List UInt16} (hname₁ : IsName name₁) (hname₂ : IsName name₂)
  (hne : name₁ ≠ name₂)
include hname₁ hname₂ hne

/-- The query into which two names and two values are spliced. -/
theorem splitQueryString_iff (value₁ value₂ : List UInt16) :
    (∃ m, splitQueryString (normalize (name₁ ++ code '=' :: value₁ ++
        code '&' :: (name₂ ++ code '=' :: value₂))) = some m ∧
      ∀ name, m.get? name = LinkedMap.get? [(name₁, value₁), (name₂, value₂)] name) ↔
    (Literal value₁ ∧ code '&' ∉ value₁) ∧ Literal value₂ ∧ code '&' ∉ value₂ := by
  rw [splitQueryString, splitOn_normalize isSeparator_ampersand, List.splitOn_append_cons_self]
  constructor
  · rintro ⟨m, hm, hget⟩
    have hget₁ : m.get? name₁ = some value₁ := by rw [hget, LinkedMap.get?, if_pos rfl]
    have hget₂ : m.get? name₂ = some value₂ := by
      rw [hget, LinkedMap.get?, if_neg hne, LinkedMap.get?, if_pos rfl]
    -- the last element that holds the second name comes with the second value
    have h₂ : Literal value₂ ∧ code '&' ∉ value₂ := by
      rw [List.map_append, List.foldlM_append] at hm
      obtain ⟨m₁, -, hm₂⟩ := Option.bind_eq_some_iff.mp hm
      obtain ⟨a, ha⟩ := exists_mem_splitOn_splice hname₂ value₂
      obtain ⟨p, hp⟩ := exists_parameter_of_foldlM hm₂ (List.mem_map_of_mem ha)
      rcases get?_of_foldlM hm₂ hget₂ with ⟨_, hmem, hvalue⟩ | ⟨-, hnone⟩
      · obtain ⟨e, he, rfl⟩ := List.mem_map.mp hmem
        exact ⟨(literal_of_parameter hname₂ he hvalue).2.2,
          noAmpersand_of_parameter hname₂ he hvalue⟩
      · rw [parameter_splice hname₂] at hp
        obtain ⟨v, hv, -⟩ := Option.map_eq_some_iff.mp hp
        refine absurd ?_ (hnone _ (List.mem_map_of_mem ha) v)
        rw [parameter_splice hname₂, hv]
        rfl
    -- so it is the only element after the first value
    rcases get?_of_foldlM hm hget₁ with ⟨_, hmem, hvalue⟩ | ⟨hnil, -⟩
    · obtain ⟨e, helement, rfl⟩ := List.mem_map.mp hmem
      rcases List.mem_append.mp helement with he | he
      · exact ⟨⟨(literal_of_parameter hname₁ he hvalue).2.2,
          noAmpersand_of_parameter hname₁ he hvalue⟩, h₂⟩
      · rw [List.splitOn_eq_singleton (noAmpersand_splice hname₂ h₂.2)] at he
        rw [List.mem_singleton.mp he, parameter_splice hname₂] at hvalue
        obtain ⟨v, -, hv⟩ := Option.map_eq_some_iff.mp hvalue
        exact absurd (congrArg Prod.fst (Option.some.inj hv)).symm hne
    · cases hnil
  · rintro ⟨⟨hliteral₁, hamp₁⟩, hliteral₂, hamp₂⟩
    refine ⟨[(name₁, value₁), (name₂, value₂)], ?_, fun _ => rfl⟩
    have hadd {name value : List UInt16} (hname : IsName name) (hvalue : Literal value)
        (m : LinkedMap (List UInt16) (List UInt16)) :
        addElement m (normalize (name ++ code '=' :: value)) = some (m.put name value) := by
      rw [addElement, parameter_splice hname, component_of_literal hvalue]
      rfl
    rw [List.splitOn_eq_singleton (noAmpersand_splice hname₁ hamp₁),
      List.splitOn_eq_singleton (noAmpersand_splice hname₂ hamp₂)]
    change (addElement [] _ >>= fun m => addElement m _ >>= pure) = _
    rw [hadd hname₁ hliteral₁]
    change (addElement _ _ >>= pure) = _
    rw [hadd hname₂ hliteral₂]
    change some (LinkedMap.put [(name₁, value₁)] name₂ value₂) = _
    rw [LinkedMap.put, if_neg hne]
    rfl

/-- **URIs with two parameters.** A URI into which two names and two values are spliced says what is
meant exactly if nothing in the values is read in another way. -/
theorem decodesTo_iff {base : List UInt16} (hbase : code '#' ∉ base) (hquestion : code '?' ∉ base)
    (value₁ value₂ : List UInt16) :
    (parse (base ++ code '?' :: (name₁ ++ code '=' :: value₁ ++
        code '&' :: (name₂ ++ code '=' :: value₂)))).DecodesTo
      [(name₁, value₁), (name₂, value₂)] ↔ Plain value₁ ∧ Plain value₂ := by
  have hhash : code '#' ∉ name₁ ++ code '=' :: value₁ ++ code '&' :: (name₂ ++ code '=' :: value₂) ↔
      code '#' ∉ value₁ ∧ code '#' ∉ value₂ := by
    have hequals : code '#' ≠ code '=' := by decide
    have hampersand : code '#' ≠ code '&' := by decide
    simp only [List.mem_append, List.mem_cons, hname₁.noHash, hname₂.noHash, hequals, hampersand,
      false_or, not_or]
  rw [DecodesTo]
  constructor
  · rintro ⟨hparameters, hfragment⟩
    have hquery : code '#' ∉ name₁ ++ code '=' :: value₁ ++
        code '&' :: (name₂ ++ code '=' :: value₂) := by
      intro hmem
      exact fragment_parse_of_mem (List.mem_append_right base (List.mem_cons_of_mem _ hmem))
        hfragment
    rw [parse_of_notMem hbase hquestion hquery] at hparameters
    obtain ⟨h₁, h₂⟩ := (splitQueryString_iff hname₁ hname₂ hne value₁ value₂).mp hparameters
    obtain ⟨hhash₁, hhash₂⟩ := hhash.mp hquery
    exact ⟨⟨h₁.1, h₁.2, hhash₁⟩, h₂.1, h₂.2, hhash₂⟩
  · rintro ⟨h₁, h₂⟩
    rw [parse_of_notMem hbase hquestion (hhash.mpr ⟨h₁.noHash, h₂.noHash⟩)]
    refine ⟨(splitQueryString_iff hname₁ hname₂ hne value₁ value₂).mpr ?_, rfl⟩
    exact ⟨⟨h₁.toLiteral, h₁.noAmpersand⟩, h₂.toLiteral, h₂.noAmpersand⟩

end TwoParameters

end Uri
