import Mathlib.Data.List.TakeWhile
import SmartHome.Lib.RegExp
import SmartHome.Lib.Utf16
import SmartHome.Profile.SettingsForm

/-!
# The validators of email addresses

The forms for login, for registration and for the settings of a profile validate an email address by
one regular expression, which is anchored at the start of the text only. So a text is accepted if it
begins with an address, whatever follows.

A text is a sequence of UTF-16 code units, which is what the regular expression goes through.

## Main definitions

* `EmailValidators.emailRegex`, `EmailValidators.emailValidator`.
* `EmailValidators.Form` : the three forms.
* `EmailValidators.IsEmail` : what an address looks like.

## Main results

* `EmailValidators.hasMatch_iff_isPrefix` : the texts that the regular expression matches.
* `EmailValidators.accepted_iff_isEmail_iff` : the texts on which the validators are right.
* `EmailValidators.emailMatches_eq`, `EmailValidators.validate_iff` : the form for the settings of
  a profile validates by this expression.
-/

namespace SmartHome.EmailValidators

open RegExp RegExp.Pattern
open Utf16 (code ofChar ofChars ofString)

/-! ### The validators -/

section Regex

variable {α : Type} [DecidableEq α] (atSign dot : α)

/-- `^[^@]+@[^@]+\.[^@]+`. -/
def emailRegex : Pattern α :=
  .seq .atStart (.seq (many1 fun a => a ≠ atSign) (.seq (.chr fun a => a = atSign)
    (.seq (many1 fun a => a ≠ atSign) (.seq (.chr fun a => a = dot)
      (many1 fun a => a ≠ atSign)))))

end Regex

/-- The localized texts that the validators show. -/
structure Texts where
  emailValidationIsNull : String
  emailValidation : String
  profileSettingEmailIsEmpty : String
  profileSettingEmailValidation : String

/-- A validator of an email address, with the texts for a missing and for a wrong address. A text
is accepted if there is nothing to show. -/
def emailValidator (isEmpty invalid : String) : Option (List UInt16) → Option String
  | none => some isEmpty
  | some value =>
    if value.isEmpty then some isEmpty
    else if !(emailRegex (code '@') (code '.')).hasMatch value then some invalid
    else none

/-- The validator in `_LoginScreenState.build`. -/
def loginValidator (texts : Texts) : Option (List UInt16) → Option String :=
  emailValidator texts.emailValidationIsNull texts.emailValidation

/-- The validator in `_RegisterScreenState.build`. -/
def registerValidator (texts : Texts) : Option (List UInt16) → Option String :=
  emailValidator texts.emailValidationIsNull texts.emailValidation

/-- The validator in `_ProfileSettingsScreenState.build`. -/
def profileSettingsValidator (texts : Texts) : Option (List UInt16) → Option String :=
  emailValidator texts.profileSettingEmailIsEmpty texts.profileSettingEmailValidation

/-- The forms with an email address. -/
inductive Form where
  | login
  | register
  | profileSettings
  deriving DecidableEq

/-- The validator of a form. -/
def Form.validator (texts : Texts) : Form → Option (List UInt16) → Option String
  | .login => loginValidator texts
  | .register => registerValidator texts
  | .profileSettings => profileSettingsValidator texts

/-! ### Addresses -/

section Addresses

variable {α : Type} [DecidableEq α]

/-- An address: one `@` with something before it, and after it a dot with something on each side. -/
def IsEmail (atSign dot : α) (s : List α) : Prop :=
  s.count atSign = 1 ∧ ∃ user domain, s = user ++ atSign :: domain ∧ user ≠ [] ∧
    ∃ name suffix, domain = name ++ dot :: suffix ∧ name ≠ [] ∧ suffix ≠ []

/-- The text begins with an address that another `@` follows. -/
def AddressThenAt (atSign dot : α) (s : List α) : Prop :=
  ∃ address rest, s = address ++ atSign :: rest ∧ IsEmail atSign dot address

variable {atSign dot : α}

/-- What the regular expression asks of a text. After the dot it looks at one character only. -/
theorem hasMatch_emailRegex {s : List α} :
    (emailRegex atSign dot).hasMatch s = true ↔
      ∃ u v a t, s = u ++ atSign :: (v ++ dot :: a :: t) ∧
        (u ≠ [] ∧ atSign ∉ u) ∧ (v ≠ [] ∧ atSign ∉ v) ∧ a ≠ atSign := by
  have hclass {m : List α} : (∀ a ∈ m, decide (a ≠ atSign) = true) ↔ atSign ∉ m := by
    simp only [decide_eq_true_eq]
    exact ⟨fun h hmem => h _ hmem rfl, fun h a ha haa => h (haa ▸ ha)⟩
  rw [emailRegex, hasMatch_atStart_seq]
  constructor
  · rintro ⟨t, hs⟩
    obtain ⟨u, s₁, hu, rfl, hu', hs₁⟩ := mem_ends_many1_seq.mp hs
    obtain ⟨b, s₂, rfl, hb, hs₂⟩ := mem_ends_chr_seq.mp hs₁
    obtain rfl := of_decide_eq_true hb
    obtain ⟨v, s₃, hv, rfl, hv', hs₃⟩ := mem_ends_many1_seq.mp hs₂
    obtain ⟨d, s₄, rfl, hd, hs₄⟩ := mem_ends_chr_seq.mp hs₃
    obtain rfl := of_decide_eq_true hd
    obtain ⟨w, hw, rfl, hw'⟩ := mem_ends_many1.mp hs₄
    obtain ⟨a, w, rfl⟩ := List.exists_cons_of_ne_nil hw
    exact ⟨u, v, a, w ++ t, rfl, ⟨hu, hclass.mp hu'⟩, ⟨hv, hclass.mp hv'⟩,
      fun ha => hclass.mp hw' (ha ▸ List.mem_cons_self)⟩
  · rintro ⟨u, v, a, t, rfl, ⟨hu, hu'⟩, ⟨hv, hv'⟩, ha⟩
    refine ⟨t, mem_ends_many1_seq.mpr ⟨u, _, hu, rfl, hclass.mpr hu', ?_⟩⟩
    refine mem_ends_chr_seq.mpr ⟨atSign, _, rfl, decide_eq_true rfl, ?_⟩
    refine mem_ends_many1_seq.mpr ⟨v, _, hv, rfl, hclass.mpr hv', ?_⟩
    refine mem_ends_chr_seq.mpr ⟨dot, _, rfl, decide_eq_true rfl, ?_⟩
    refine mem_ends_many1.mpr ⟨[a], List.cons_ne_nil a [], rfl, hclass.mpr fun h => ?_⟩
    exact ha (List.mem_singleton.mp h).symm

variable (hne : dot ≠ atSign)
include hne

/-- An address, taken apart. -/
theorem isEmail_iff {s : List α} :
    IsEmail atSign dot s ↔
      ∃ u v w, s = u ++ atSign :: (v ++ dot :: w) ∧
        (u ≠ [] ∧ atSign ∉ u) ∧ (v ≠ [] ∧ atSign ∉ v) ∧ (w ≠ [] ∧ atSign ∉ w) := by
  have hcount (u v w : List α) : (u ++ atSign :: (v ++ dot :: w)).count atSign =
      u.count atSign + (v.count atSign + w.count atSign) + 1 := by
    rw [List.count_append, List.count_cons_self, List.count_append, List.count_cons_of_ne hne]
    rfl
  constructor
  · rintro ⟨hone, u, -, rfl, hu, v, w, rfl, hv, hw⟩
    rw [hcount] at hone
    exact ⟨u, v, w, rfl, ⟨hu, List.count_eq_zero.mp (by omega)⟩,
      ⟨hv, List.count_eq_zero.mp (by omega)⟩, hw, List.count_eq_zero.mp (by omega)⟩
  · rintro ⟨u, v, w, rfl, ⟨hu, hu'⟩, ⟨hv, hv'⟩, hw, hw'⟩
    refine ⟨?_, u, _, rfl, hu, v, w, rfl, hv, hw⟩
    rw [hcount, List.count_eq_zero.mpr hu', List.count_eq_zero.mpr hv', List.count_eq_zero.mpr hw']

/-- The regular expression matches the texts that begin with an address. -/
theorem hasMatch_iff_isPrefix {s : List α} :
    (emailRegex atSign dot).hasMatch s = true ↔ ∃ p, p <+: s ∧ IsEmail atSign dot p := by
  rw [hasMatch_emailRegex]
  constructor
  · rintro ⟨u, v, a, t, rfl, hu, hv, ha⟩
    refine ⟨u ++ atSign :: (v ++ [dot, a]), ⟨t, by simp⟩, (isEmail_iff hne).mpr ?_⟩
    exact ⟨u, v, [a], rfl, hu, hv, List.cons_ne_nil a [],
      fun h => ha (List.mem_singleton.mp h).symm⟩
  · rintro ⟨p, ⟨t, rfl⟩, hp⟩
    obtain ⟨u, v, w, rfl, hu, hv, hw, hw'⟩ := (isEmail_iff hne).mp hp
    obtain ⟨a, w, rfl⟩ := List.exists_cons_of_ne_nil hw
    exact ⟨u, v, a, w ++ t, by simp, hu, hv, fun ha => hw' (ha ▸ List.mem_cons_self)⟩

/-- What follows an address, up to another `@`, belongs to it. -/
theorem IsEmail.append {p t : List α} (hp : IsEmail atSign dot p) (ht : atSign ∉ t) :
    IsEmail atSign dot (p ++ t) := by
  obtain ⟨u, v, w, rfl, hu, hv, hw, hw'⟩ := (isEmail_iff hne).mp hp
  refine (isEmail_iff hne).mpr ⟨u, v, w ++ t, by simp, hu, hv, ?_, ?_⟩
  · exact List.append_ne_nil_of_left_ne_nil hw t
  · exact fun h => (List.mem_append.mp h).elim hw' ht

omit hne in
/-- There is one `@` in an address. -/
theorem not_addressThenAt_of_isEmail {s : List α} (hs : IsEmail atSign dot s) :
    ¬AddressThenAt atSign dot s := by
  rintro ⟨address, rest, rfl, haddress⟩
  have hone := hs.1
  rw [List.count_append, haddress.1, List.count_cons_self] at hone
  omega

/-- The texts that are matched: addresses, and addresses that another `@` follows. -/
theorem hasMatch_iff_or {s : List α} :
    (emailRegex atSign dot).hasMatch s = true ↔
      IsEmail atSign dot s ∨ AddressThenAt atSign dot s := by
  rw [hasMatch_iff_isPrefix hne]
  constructor
  · rintro ⟨p, ⟨t, rfl⟩, hp⟩
    by_cases ht : atSign ∈ t
    · obtain ⟨t, rest, rfl, ht'⟩ := List.eq_append_cons_of_mem ht
      exact .inr ⟨p ++ t, rest, by simp, hp.append hne ht'⟩
    · exact .inl (hp.append hne ht)
  · rintro (hs | ⟨address, rest, rfl, haddress⟩)
    · exact ⟨s, List.prefix_rfl, hs⟩
    · exact ⟨address, List.prefix_append address _, haddress⟩

end Addresses

/-! ### The texts that are accepted -/

theorem emailValidator_eq_none_iff {isEmpty invalid : String} {s : List UInt16} :
    emailValidator isEmpty invalid (some s) = none ↔
      (emailRegex (code '@') (code '.')).hasMatch s = true := by
  cases s with
  | nil =>
    have hnil : (emailRegex (code '@') (code '.')).hasMatch [] = false := rfl
    simp [emailValidator, hnil]
  | cons u s =>
    cases h : (emailRegex (code '@') (code '.')).hasMatch (u :: s) <;> simp [emailValidator, h]

theorem Form.validator_eq_none_iff (texts : Texts) (form : Form) {s : List UInt16} :
    form.validator texts (some s) = none ↔
      (emailRegex (code '@') (code '.')).hasMatch s = true := by
  cases form <;> exact emailValidator_eq_none_iff

/-- **The validators of email addresses.** Each of the three forms is right about a text, accepting
it if and only if it is an address, exactly if the text does not begin with an address that another
`@` follows. -/
theorem accepted_iff_isEmail_iff (texts : Texts) (form : Form) (s : List UInt16) :
    (form.validator texts (some s) = none ↔ IsEmail (code '@') (code '.') s) ↔
      ¬AddressThenAt (code '@') (code '.') s := by
  rw [form.validator_eq_none_iff, hasMatch_iff_or (by decide)]
  constructor
  · intro h hthen
    exact not_addressThenAt_of_isEmail (h.mp (.inr hthen)) hthen
  · intro hnot
    exact ⟨fun h => h.resolve_right hnot, .inl⟩

/-- The texts of the localization for English. -/
def englishTexts : Texts :=
  { emailValidationIsNull := "Please enter an email address"
    emailValidation := "Please enter a valid email address"
    profileSettingEmailIsEmpty := "Please enter your email"
    profileSettingEmailValidation := "Please enter a valid email" }

/-- Two addresses in one field are accepted by all forms. -/
theorem two_addresses_accepted :
    let s := ofString "ann@lee.org,bob@lee.org"
    (∀ form : Form, form.validator englishTexts (some s) = none) ∧
      ¬IsEmail (code '@') (code '.') s := by
  refine ⟨fun form => ?_, fun h => absurd h.1 (by decide)⟩
  cases form <;> decide

/-! ### The form for the settings of a profile -/

/-- The regular expression goes through characters as through their code units. -/
theorem hasMatch_ofChars (cs : List Char) :
    (emailRegex (code '@') (code '.')).hasMatch (ofChars cs) =
      (emailRegex '@' '.').hasMatch cs := by
  have hat : ofChar '@' = [code '@'] := rfl
  have hdot : ofChar '.' = [code '.'] := rfl
  rw [Bool.eq_iff_iff, hasMatch_emailRegex, hasMatch_emailRegex]
  constructor
  · rintro ⟨u, v, a, t, hs, ⟨hu, hu'⟩, ⟨hv, hv'⟩, ha⟩
    obtain ⟨us, rest, rfl, rfl, hrest⟩ := (Utf16.ofChars_eq_append_cons hat).mp hs
    obtain ⟨vs, ts, rfl, rfl, hts⟩ := (Utf16.ofChars_eq_append_cons hdot).mp hrest
    cases ts with
    | nil => cases hts
    | cons c ts =>
      refine ⟨us, vs, c, ts, rfl, ⟨?_, ?_⟩, ⟨?_, ?_⟩, ?_⟩
      · rintro rfl
        exact hu rfl
      · exact fun hmem => hu' ((Utf16.code_mem_ofChars hat).mpr hmem)
      · rintro rfl
        exact hv rfl
      · exact fun hmem => hv' ((Utf16.code_mem_ofChars hat).mpr hmem)
      · rintro rfl
        exact ha (List.cons.inj hts).1.symm
  · rintro ⟨us, vs, c, ts, rfl, ⟨hu, hu'⟩, ⟨hv, hv'⟩, hc⟩
    obtain ⟨a, t, hat'⟩ := List.exists_cons_of_ne_nil (Utf16.ofChars_ne_nil (List.cons_ne_nil c ts))
    refine ⟨ofChars us, ofChars vs, a, t, ?_, ⟨Utf16.ofChars_ne_nil hu, ?_⟩,
      ⟨Utf16.ofChars_ne_nil hv, ?_⟩, ?_⟩
    · rw [← hat']
      simp only [Utf16.ofChars_append, Utf16.ofChars_cons, hat, hdot]
      rfl
    · exact fun hmem => hu' ((Utf16.code_mem_ofChars hat).mp hmem)
    · exact fun hmem => hv' ((Utf16.code_mem_ofChars hat).mp hmem)
    · rintro rfl
      obtain ⟨ds, es, h, hds, -⟩ :=
        (Utf16.ofChars_eq_append_cons (s := []) hat).mp hat'
      cases ds with
      | nil => exact hc (List.cons.inj h).1
      | cons d ds => exact Utf16.ofChars_ne_nil (List.cons_ne_nil d ds) hds

theorem mem_dropLast_iff {α : Type} {a : α} {l : List α} :
    a ∈ l.dropLast ↔ ∃ x b y, l = x ++ a :: b :: y := by
  induction l with
  | nil => simp
  | cons c l ih =>
    cases l with
    | nil =>
      constructor
      · rintro ⟨⟩
      · rintro ⟨x, b, y, h⟩
        have hlength := congrArg List.length h
        simp at hlength
        omega
    | cons d l =>
      rw [List.dropLast_cons_cons, List.mem_cons, ih]
      constructor
      · rintro (rfl | ⟨x, b, y, h⟩)
        · exact ⟨[], d, l, rfl⟩
        · exact ⟨c :: x, b, y, congrArg (c :: ·) h⟩
      · rintro ⟨x, b, y, h⟩
        cases x with
        | nil => exact .inl (List.cons.inj h).1.symm
        | cons e x => exact .inr ⟨x, b, y, (List.cons.inj h).2⟩

open ProfileSettings (upToAt emailMatches)

/-- The characters up to the next `@`. -/
theorem upToAt_eq {cs : List Char} :
    (upToAt cs).1 ++ (upToAt cs).2 = cs ∧ '@' ∉ (upToAt cs).1 := by
  rw [upToAt, List.span_eq_takeWhile_dropWhile]
  refine ⟨List.takeWhile_append_dropWhile, fun h => ?_⟩
  simpa using List.mem_takeWhile_imp h

theorem upToAt_append {cs : List Char} (h : '@' ∉ cs) (ds : List Char) :
    upToAt (cs ++ ds) = (cs ++ (upToAt ds).1, (upToAt ds).2) := by
  have hcs : ∀ c ∈ cs, decide (c ≠ '@') = true := fun c hc =>
    decide_eq_true fun hat => h (hat ▸ hc)
  rw [upToAt, upToAt, List.span_eq_takeWhile_dropWhile, List.span_eq_takeWhile_dropWhile,
    List.takeWhile_append_of_pos hcs, List.dropWhile_append_of_pos hcs]

/-- There is a dot that is neither the first nor the last character. -/
theorem contains_dot_iff {cs : List Char} :
    ((cs.drop 1).dropLast).contains '.' = true ↔
      ∃ v a t, cs = v ++ '.' :: a :: t ∧ v ≠ [] := by
  rw [List.contains_iff_mem, mem_dropLast_iff]
  constructor
  · rintro ⟨x, a, t, h⟩
    cases cs with
    | nil => exact absurd h.symm (List.append_ne_nil_of_right_ne_nil x (List.cons_ne_nil _ _))
    | cons c cs => exact ⟨c :: x, a, t, congrArg (c :: ·) h, List.cons_ne_nil c x⟩
  · rintro ⟨v, a, t, rfl, hv⟩
    obtain ⟨c, v, rfl⟩ := List.exists_cons_of_ne_nil hv
    exact ⟨v, a, t, rfl⟩

/-- The settings form validates by the regular expression. -/
theorem emailMatches_eq (value : String) :
    emailMatches value = (emailRegex (code '@') (code '.')).hasMatch (ofString value) := by
  rw [ofString, hasMatch_ofChars, Bool.eq_iff_iff, hasMatch_emailRegex, emailMatches]
  constructor
  · intro h
    obtain ⟨hvalue, hu⟩ := @upToAt_eq value.toList
    split at h
    · next c us rest hsplit =>
      rw [hsplit] at hvalue hu
      obtain ⟨hrest, hv⟩ := @upToAt_eq rest
      obtain ⟨v, a, t, hfirst, hne⟩ := contains_dot_iff.mp h
      rw [hfirst] at hrest hv
      refine ⟨c :: us, v, a, t ++ (upToAt rest).2, ?_, ⟨List.cons_ne_nil c us, hu⟩, ⟨hne, ?_⟩, ?_⟩
      · refine hvalue.symm.trans (congrArg (c :: us ++ '@' :: ·) (hrest.symm.trans ?_))
        simp
      · exact fun hmem => hv (List.mem_append_left _ hmem)
      · rintro rfl
        simp at hv
    · cases h
  · rintro ⟨u, v, a, t, hvalue, ⟨hu, hu'⟩, ⟨hv, hv'⟩, ha⟩
    obtain ⟨c, u, rfl⟩ := List.exists_cons_of_ne_nil hu
    have hat (ds : List Char) : upToAt ('@' :: ds) = ([], '@' :: ds) := by
      rw [upToAt, List.span_eq_takeWhile_dropWhile]
      simp
    have hlast : upToAt (v ++ '.' :: a :: t) =
        (v ++ '.' :: a :: (upToAt t).1, (upToAt t).2) := by
      have hdot : '@' ∉ v ++ ['.', a] := by
        simp only [List.mem_append, List.mem_cons, List.not_mem_nil, or_false, not_or]
        exact ⟨hv', by decide, ha.symm⟩
      simpa using upToAt_append hdot t
    rw [hvalue, upToAt_append hu', hat]
    simp only [List.append_nil, hlast]
    exact contains_dot_iff.mpr ⟨v, a, _, rfl, hv⟩

/-- What `validate` asks of the settings form: no field is empty, and the validator of the address
has nothing to show. -/
theorem validate_iff (texts : Texts) {t : ProfileSettings.Texts} :
    ProfileSettings.validate t = true ↔
      (t.name.isEmpty = false ∧ t.surname.isEmpty = false ∧ t.dob.isEmpty = false ∧
        t.phone.isEmpty = false) ∧
      Form.profileSettings.validator texts (some (ofString t.email)) = none := by
  rw [Form.validator_eq_none_iff, ← emailMatches_eq]
  have hempty : emailMatches t.email = true → t.email.isEmpty = false := by
    intro h
    rw [← Bool.not_eq_true, String.isEmpty_iff]
    intro hnil
    rw [hnil] at h
    cases h
  simp only [ProfileSettings.validate, Bool.and_eq_true, Bool.not_eq_true']
  tauto

end SmartHome.EmailValidators
