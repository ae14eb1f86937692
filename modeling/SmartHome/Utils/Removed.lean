import Mathlib.Data.List.DropRight
import Mathlib.Data.List.TakeWhile
import SmartHome.Utils.AddressUtils

/-!
# The matches of unwanted details

A match is a keyword with the word after it, a number with a slash at the start of the text, or the
name of the country at its end. It holds something other than blanks, so a text of which no more
than blanks at its ends is lost is one without a match.

## Main definitions

* `AddressUtils.Removed` : what a match is.
* `AddressUtils.Clean` : the texts in which nothing is found.

## Main results

* `AddressUtils.removed_of_first` : a match that is found is one of the three.
* `AddressUtils.removeUnwanted_eq_trimChars_iff` : when only the ends of a text are trimmed.
-/

namespace SmartHome.AddressUtils

open Dart RegExp

/-! ### Blanks at the ends of a text -/

theorem trimChars_eq (s : List Char) :
    trimChars s = (s.dropWhile isWhiteSpace).rdropWhile isWhiteSpace := rfl

theorem countP_dropWhile {α : Type} (p : α → Bool) (s : List α) :
    (s.dropWhile p).countP (fun a => !p a) = s.countP fun a => !p a := by
  induction s with
  | nil => rfl
  | cons a s ih =>
    cases ha : p a with
    | true => rw [List.dropWhile_cons_of_pos ha, ih, List.countP_cons_of_neg (by simp [ha])]
    | false => rw [List.dropWhile_cons_of_neg (by simp [ha])]

/-- Trimming removes blanks only. -/
theorem countP_trimChars (s : List Char) :
    (trimChars s).countP (fun c => !isWhiteSpace c) = s.countP fun c => !isWhiteSpace c := by
  rw [trimChars, List.countP_reverse, countP_dropWhile, List.countP_reverse, countP_dropWhile]

theorem trimChars_isInfix (s : List Char) : trimChars s <:+: s :=
  (List.rdropWhile_prefix _ _).isInfix.trans (List.dropWhile_suffix _).isInfix

theorem dropWhile_rdropWhile {α : Type} (p : α → Bool) {s : List α} (h : s.dropWhile p = s) :
    (s.rdropWhile p).dropWhile p = s.rdropWhile p := by
  rw [List.dropWhile_eq_self_iff] at h ⊢
  intro hl
  have hs : 0 < s.length := hl.trans_le (List.rdropWhile_prefix p s).length_le
  rw [(List.rdropWhile_prefix p s).getElem hl]
  exact h hs

theorem trimChars_trimChars (s : List Char) : trimChars (trimChars s) = trimChars s := by
  rw [trimChars_eq, trimChars_eq, dropWhile_rdropWhile _ (List.dropWhile_idempotent _ _),
    List.rdropWhile_idempotent]

/-! ### What a match is -/

variable {n : ℕ}

theorem first_unwantedRegex (s : List Char) :
    unwantedRegex.first n s =
      (keywordRegex.first n s).or ((numberRegex.first n s).or (countryRegex.first n s)) := by
  rw [unwantedRegex, Pattern.first_alt, Pattern.first_alt]

/-- The text ends with the name of the country. -/
def EndsWithThailand (s : List Char) : Prop := thailand.toList <:+ s

instance (s : List Char) : Decidable (EndsWithThailand s) := inferInstanceAs (Decidable (_ <:+ _))

/-- The text begins with digits, a slash and digits. -/
def BeginsWithNumber (s : List Char) : Prop :=
  ∃ ds es t, ds ≠ [] ∧ es ≠ [] ∧ (∀ c ∈ ds, isDigit c = true) ∧ (∀ c ∈ es, isDigit c = true) ∧
    s = ds ++ '/' :: (es ++ t)

/-- A match in a text of length `n`, and what remains after it. -/
inductive Removed (n : ℕ) : List Char → List Char → Prop where
  | keyword {m t : List Char} (k : String) (a v : List Char) (hk : k ∈ liveKeywords)
      (ha : a.map canonicalize = k.toList.map canonicalize) (hm : m = a ++ v)
      (ht : ∀ c ∈ t.head?, isWord c = false) : Removed n m t
  | number {m t : List Char} (ds es : List Char) (hds : ds ≠ [])
      (hdigits : ∀ c ∈ ds ++ es, isDigit c = true) (hm : m = ds ++ '/' :: es)
      (hlength : (m ++ t).length = n) : Removed n m t
  | country {m : List Char} (hm : isCountry m = true) : Removed n m []

theorem isWord_head_afterKeyword (s : List Char) :
    ∀ c ∈ (afterKeyword s).head?, isWord c = false := by
  intro c hc
  have h := List.head?_dropWhile_not isWord (s.dropWhile isSpace)
  rw [afterKeyword] at hc
  rw [Option.mem_def.mp hc] at h
  exact h

theorem afterKeyword_suffix (s : List Char) : afterKeyword s <:+ s :=
  (List.dropWhile_suffix _).trans (List.dropWhile_suffix _)

/-- The digits at the start of a text. -/
theorem digitsEnd?_eq_some {s t : List Char} (h : digitsEnd? s = some t) :
    ∃ ds, ds ≠ [] ∧ (∀ c ∈ ds, isDigit c = true) ∧ s = ds ++ t := by
  cases s with
  | nil => cases h
  | cons a s =>
    obtain ⟨ha, h⟩ := Option.ite_none_right_eq_some.mp h
    obtain rfl := Option.some.inj h
    refine ⟨a :: s.takeWhile isDigit, by simp, ?_, ?_⟩
    · intro c hc
      rcases List.mem_cons.mp hc with rfl | hc
      · exact ha
      · exact List.mem_takeWhile_imp hc
    · rw [List.cons_append, List.takeWhile_append_dropWhile]

theorem slashEnd?_eq_some {s t : List Char} (h : slashEnd? s = some t) : s = '/' :: t := by
  cases s with
  | nil => cases h
  | cons a s =>
    obtain ⟨rfl, h⟩ := Option.ite_none_right_eq_some.mp h
    rw [Option.some.inj h]

theorem numberEnd?_eq_some {s t : List Char} (h : numberEnd? s = some t) :
    ∃ ds es, ds ≠ [] ∧ es ≠ [] ∧ (∀ c ∈ ds ++ es, isDigit c = true) ∧
      s = ds ++ '/' :: (es ++ t) := by
  obtain ⟨u, hu, h⟩ := Option.bind_eq_some_iff.mp h
  obtain ⟨v, hv, hdigits⟩ := Option.bind_eq_some_iff.mp h
  obtain ⟨ds, hds, hdsdigits, rfl⟩ := digitsEnd?_eq_some hu
  obtain ⟨es, hes, hesdigits, rfl⟩ := digitsEnd?_eq_some hdigits
  refine ⟨ds, es, hds, hes, fun c hc => ?_, congrArg (ds ++ ·) (slashEnd?_eq_some hv)⟩
  rcases List.mem_append.mp hc with hc | hc
  · exact hdsdigits c hc
  · exact hesdigits c hc

theorem dropWhile_isDigit {ds : List Char} (hds : ∀ c ∈ ds, isDigit c = true) {a : Char}
    (ha : isDigit a = false) (s : List Char) : (ds ++ a :: s).dropWhile isDigit = a :: s := by
  rw [List.dropWhile_append_of_pos hds, List.dropWhile_cons_of_neg (by simp [ha])]

theorem numberEnd?_eq_none {s : List Char} : numberEnd? s = none ↔ ¬ BeginsWithNumber s := by
  rw [← not_iff_not, not_not, ← ne_eq, Option.ne_none_iff_exists']
  constructor
  · rintro ⟨t, ht⟩
    obtain ⟨ds, es, hds, hes, hdigits, rfl⟩ := numberEnd?_eq_some ht
    exact ⟨ds, es, t, hds, hes, fun c hc => hdigits c (List.mem_append_left es hc),
      fun c hc => hdigits c (List.mem_append_right ds hc), rfl⟩
  · rintro ⟨ds, es, t, hds, hes, hdsdigits, hesdigits, rfl⟩
    obtain ⟨d, ds, rfl⟩ := List.exists_cons_of_ne_nil hds
    obtain ⟨e, es, rfl⟩ := List.exists_cons_of_ne_nil hes
    refine ⟨(es ++ t).dropWhile isDigit, ?_⟩
    rw [numberEnd?, List.cons_append, digitsEnd?, if_pos (hdsdigits d List.mem_cons_self),
      dropWhile_isDigit (fun c hc => hdsdigits c (List.mem_cons_of_mem d hc)) (by decide)]
    exact if_pos (hesdigits e List.mem_cons_self)

instance (s : List Char) : Decidable (BeginsWithNumber s) :=
  decidable_of_iff (numberEnd? s ≠ none) (by rw [ne_eq, numberEnd?_eq_none, not_not])

theorem removed_of_first {m t : List Char} (h : unwantedRegex.first n (m ++ t) = some t) :
    Removed n m t := by
  rw [first_unwantedRegex] at h
  cases hkeyword : keywordRegex.first n (m ++ t) with
  | some u =>
    rw [hkeyword, Option.some_or] at h
    obtain rfl := Option.some.inj h
    obtain ⟨k, hk, a, v, hv, hafter, ha⟩ := keyword_of_first n hkeyword
    obtain ⟨w, hw⟩ := afterKeyword_suffix v
    refine .keyword k a w hk ha ?_ (hafter ▸ isWord_head_afterKeyword v)
    refine List.append_cancel_right (hv.trans ?_)
    rw [List.append_assoc, hafter, hw]
  | none =>
    rw [hkeyword, Option.none_or, first_numberRegex] at h
    cases hnumber : (if (m ++ t).length = n then numberEnd? (m ++ t) else none) with
    | some u =>
      rw [hnumber, Option.some_or] at h
      obtain rfl := Option.some.inj h
      obtain ⟨hlength, hnumber⟩ := Option.ite_none_right_eq_some.mp hnumber
      obtain ⟨ds, es, hds, -, hdigits, hs⟩ := numberEnd?_eq_some hnumber
      refine .number ds es hds hdigits (List.append_cancel_right (hs.trans ?_)) hlength
      rw [List.append_assoc, List.cons_append]
    | none =>
      rw [hnumber, Option.none_or, first_countryRegex] at h
      obtain ⟨hcountry, h⟩ := Option.ite_none_right_eq_some.mp h
      obtain rfl := Option.some.inj h
      exact .country (by simpa using hcountry)

/-- A check of the words of a table, and of their characters in the form in which these are
compared. -/
theorem forall_canonicalize {ks : List String} {p : Char → Bool}
    (h : (ks.all fun k => !k.toList.isEmpty && (k.toList.map canonicalize).all p) = true) :
    ∀ k ∈ ks, k.toList ≠ [] ∧ ∀ c ∈ k.toList.map canonicalize, p c = true := by
  intro k hk
  have hword := List.all_eq_true.mp h k hk
  rw [Bool.and_eq_true, Bool.not_eq_true', List.isEmpty_eq_false_iff, List.all_eq_true] at hword
  exact hword

/-- No keyword holds a blank, a comma or a digit. -/
theorem canonicalize_keyword : ∀ k ∈ keywords, k.toList ≠ [] ∧ ∀ c ∈ k.toList.map canonicalize,
    isWhiteSpace c = false ∧ c ≠ ',' ∧ isDigit c = false := by
  intro k hk
  have h := @forall_canonicalize keywords
    (fun c => !isWhiteSpace c && c != ',' && !isDigit c) rfl k hk
  exact ⟨h.1, fun c hc => by simpa [and_assoc] using h.2 c hc⟩

theorem mem_keywords_of_mem_liveKeywords : ∀ k ∈ liveKeywords, k ∈ keywords := by decide

theorem thailand_suffix_of_isCountry {s : List Char} (h : isCountry s = true) :
    thailand.toList <:+ s := by
  have hdrop : dropComma s <:+ s := by
    unfold dropComma
    split
    · exact List.suffix_cons _ _
    · exact List.suffix_rfl
  rw [← of_decide_eq_true h]
  exact (List.dropWhile_suffix _).trans hdrop

/-- A match holds more than blanks. -/
theorem Removed.nonblank {m t : List Char} (h : Removed n m t) :
    ∃ c ∈ m, (!isWhiteSpace c) = true := by
  cases h with
  | keyword k a v hk ha hm ht =>
    obtain ⟨hne, hchars⟩ := canonicalize_keyword k (mem_keywords_of_mem_liveKeywords k hk)
    cases a with
    | nil => exact absurd (List.map_eq_nil_iff.mp ha.symm) hne
    | cons c a =>
      refine ⟨c, hm ▸ List.mem_cons_self, ?_⟩
      by_contra hblank
      have hblank : isWhiteSpace c = true := by simpa using hblank
      have hc := (hchars (canonicalize c) (ha ▸ List.mem_cons_self)).1
      rw [canonicalize_of_not_isWord (isWord_of_isWhiteSpace hblank), hblank] at hc
      cases hc
  | number ds es hds hdigits hm hlength => exact ⟨'/', by simp [hm], by decide⟩
  | country hm =>
    refine ⟨'ป', (thailand_suffix_of_isCountry hm).mem ?_, by decide⟩
    rw [toList_thailand]
    exact List.mem_cons_self

theorem consumes_unwantedRegex (n : ℕ) : unwantedRegex.Consumes n := by
  intro s h
  obtain ⟨c, hc, -⟩ := (removed_of_first (m := []) h).nonblank
  cases hc

/-! ### Texts without a match -/

/-- A text in which nothing is found. -/
def Clean (s : List Char) : Prop :=
  (∀ k ∈ keywords, ¬ Occurs k s) ∧ ¬ BeginsWithNumber s ∧ ¬ EndsWithThailand s

theorem first_unwantedRegex_eq_none {s : List Char} :
    unwantedRegex.first n s = none ↔ (∀ k ∈ keywords, ¬ BeginsWith k s) ∧
      (s.length = n → ¬ BeginsWithNumber s) ∧ isCountry s = false := by
  rw [first_unwantedRegex, Option.or_eq_none_iff, Option.or_eq_none_iff,
    first_keywordRegex_eq_none, first_numberRegex, first_countryRegex]
  refine and_congr Iff.rfl (and_congr ?_ ?_)
  · rw [ite_eq_right_iff, numberEnd?_eq_none]
  · simp

theorem replaceAll_eq_self_iff {s : List Char} :
    unwantedRegex.replaceAll s = s ↔ Clean s := by
  rw [Pattern.replaceAll, Pattern.delete_eq_self_iff (consumes_unwantedRegex _)]
  constructor
  · intro h
    refine ⟨fun k hk hoccurs => ?_, ?_, fun hends => ?_⟩
    · obtain ⟨t, ht, hbegins⟩ := occurs_iff.mp hoccurs
      exact (first_unwantedRegex_eq_none.mp (h t ht)).1 k hk hbegins
    · exact (first_unwantedRegex_eq_none.mp (h s List.suffix_rfl)).2.1 rfl
    · have hcountry := (first_unwantedRegex_eq_none.mp (h _ hends)).2.2
      revert hcountry
      decide
  · rintro ⟨hkeywords, hnumber, hcountry⟩ t ht
    refine first_unwantedRegex_eq_none.mpr ⟨fun k hk hbegins => ?_, fun hlength => ?_, ?_⟩
    · exact hkeywords k hk (occurs_iff.mpr ⟨t, ht, hbegins⟩)
    · rw [ht.eq_of_length hlength]
      exact hnumber
    · by_contra h
      exact hcountry ((thailand_suffix_of_isCountry (by simpa using h)).trans ht)

/-- No more than blanks at the ends is lost of a text in which nothing is found, and of no other. -/
theorem removeUnwanted_eq_trimChars_iff {s : List Char} :
    removeUnwanted s = trimChars s ↔ Clean s := by
  rw [← replaceAll_eq_self_iff]
  refine ⟨fun h => ?_, fun h => congrArg trimChars h⟩
  refine Pattern.delete_eq_self_of_countP (consumes_unwantedRegex _) (q := fun c => !isWhiteSpace c)
    (fun m t hmatch => (removed_of_first hmatch).nonblank) ?_
  rw [← countP_trimChars, ← countP_trimChars s]
  exact congrArg (List.countP _) h

end SmartHome.AddressUtils
