import SmartHome.Lib.RegExp
import SmartHome.Map.MapComponent

/-!
# The address of a location

`AddressUtils.getAddress` asks a geocoder for the address of a location, joins the parts that the
caller wants, and removes what is unwanted from the text: words for administrative units together
with the word after them, a number with a slash at the start, and the name of the country at the
end.

The pattern is matched without regard to case and by code points. Beside the ASCII letters, the long
s and the Kelvin sign are matched by the letters s and k, and belong to `\w`.

The request carries the location and the language, which only the reply depends on; it is left out.

## Main definitions

* `AddressUtils.unwantedRegex`, with the alternatives `keywordRegex`, `numberRegex` and
  `countryRegex`.
* `AddressUtils.removeUnwantedDetails`, `AddressUtils.getAddress`.

## Main results

* `AddressUtils.first_keywordRegex`, `AddressUtils.first_numberRegex`,
  `AddressUtils.first_countryRegex` : what each alternative matches.
-/

namespace SmartHome.AddressUtils

open Dart RegExp
open RegExp.Pattern (opt many1 alts literal)
open MapComponent (Reply)

/-! ### Classes of characters -/

/-- The form in which characters are compared with the letters of the pattern. -/
def canonicalize (c : Char) : Char :=
  if c.toNat = 0x17F then 's' else if c.toNat = 0x212A then 'k' else c.toLower

/-- `\d`. -/
def isDigit (c : Char) : Bool := c.isDigit

/-- `\s`, which unlike `trim` does not know the character U+0085. -/
def isSpace (c : Char) : Bool := isWhiteSpace c && c.toNat ≠ 0x85

/-- `\w`. -/
def isWord (c : Char) : Bool :=
  c.isAlphanum || c = '_' || c.toNat = 0x17F || c.toNat = 0x212A

/-! ### The pattern -/

def thaiKeywords : List String :=
  ["แขวง", "เขต", "ตำบล", "อำเภอ", "เขตการปกครอง", "แขวงการปกครอง"]

def englishKeywords : List String :=
  ["District", "Subdistrict", "Neighborhood", "County", "City", "State", "Province", "Prefecture",
    "Region", "Municipality", "Town", "Village", "Ward", "Area", "Sector", "Zone", "Block",
    "Quarter"]

/-- The words for administrative units. -/
def keywords : List String := thaiKeywords ++ englishKeywords

/-- The name of the country. -/
def thailand : String := "ประเทศไทย"

/-- A word, in any case. -/
def word (s : String) : Pattern Char := literal canonicalize s.toList

/-- A keyword and the word after it. -/
def keywordRegex : Pattern Char :=
  .seq (alts (keywords.map word)) (.seq (.many isSpace) (.many isWord))

/-- `^\d+/\d+`. -/
def numberRegex : Pattern Char :=
  .seq .atStart (.seq (.chr isDigit) (.seq (.many isDigit)
    (.seq (.chr fun c => c = '/') (.seq (.chr isDigit) (.many isDigit)))))

/-- The name of the country at the end, with a comma before it. -/
def countryRegex : Pattern Char :=
  .seq (opt (.chr fun c => c = ',')) (.seq (.many isSpace) (.seq (word thailand) .atEnd))

def unwantedRegex : Pattern Char := .alt keywordRegex (.alt numberRegex countryRegex)

/-- `address.replaceAll(unwantedRegex, '').trim()`, on the characters of the address. -/
def removeUnwanted (address : List Char) : List Char :=
  trimChars (unwantedRegex.replaceAll address)

def removeUnwantedDetails (address : String) : String :=
  String.ofList (removeUnwanted address.toList)

/-- `address.trim()`. -/
def trim (address : String) : String := String.ofList (trimChars address.toList)

/-! ### `getAddress` -/

/-- The parts of an address that a caller wants. -/
structure Wanted where
  quarter : Bool := false
  suburb : Bool := false
  district : Bool := false
  city : Bool := false
  state : Bool := false
  country : Bool := false

/-- The keys of the wanted parts, in the order in which they are joined. -/
def Wanted.keys (wanted : Wanted) : List (Bool × String) :=
  [(wanted.quarter, "quarter"), (wanted.suburb, "suburb"), (wanted.district, "district"),
    (wanted.city, "city"), (wanted.state, "state"), (wanted.country, "country")]

/-- `v.containsKey(key)`. -/
def containsKey : Dyn → String → Except Error Bool
  | .map entries, key => .ok (entries.lookup key).isSome
  | _, _ => .error .noSuchMethod

/-- One of the parts, `null` if it is not wanted or not there. -/
def part (address : Dyn) (key : Bool × String) : Except Error Dyn :=
  if key.1 then do
    if ← containsKey address key.2 then address.index key.2 else return .null
  else return .null

/-- `parts.join(', ')`. -/
def joinParts : List String → String
  | [] => ""
  | [s] => s
  | s :: ss => s ++ ", " ++ joinParts ss

/-- `v != null`. -/
def isNotNull : Dyn → Bool
  | .null => false
  | _ => true

/-- `getAddress`, from the reply of the geocoder on. -/
def getAddress (wanted : Wanted) : Reply → Except Error String
  | .thrown => .error (.exception "ClientException")
  | .response status body =>
    if status = 200 then do
      let data ← body
      let address ← data.index "address"
      if isNotNull address then
        let parts ← wanted.keys.mapM (part address)
        return removeUnwantedDetails (joinParts ((parts.filter isNotNull).map Dyn.text))
      else return "Unable to fetch address"
    else return "Unable to fetch address"

/-! ### Letters, digits and blanks -/

theorem isDigit_iff (c : Char) : isDigit c = true ↔ 48 ≤ c.toNat ∧ c.toNat ≤ 57 := by
  change (decide ('0'.val ≤ c.val) && decide (c.val ≤ '9'.val)) = true ↔ _
  rw [Bool.and_eq_true, decide_eq_true_eq, decide_eq_true_eq]
  exact Iff.rfl

theorem isLower_iff (c : Char) : c.isLower = true ↔ 97 ≤ c.toNat ∧ c.toNat ≤ 122 := by
  change (decide ('a'.val ≤ c.val) && decide (c.val ≤ 'z'.val)) = true ↔ _
  rw [Bool.and_eq_true, decide_eq_true_eq, decide_eq_true_eq]
  exact Iff.rfl

theorem isUpper_iff (c : Char) : c.isUpper = true ↔ 65 ≤ c.toNat ∧ c.toNat ≤ 90 := by
  change decide ('A'.val ≤ c.val ∧ c.val ≤ 'Z'.val) = true ↔ _
  rw [decide_eq_true_eq]
  exact Iff.rfl

theorem isWord_iff (c : Char) : isWord c = true ↔
    c.isUpper = true ∨ c.isLower = true ∨ isDigit c = true ∨
      c.toNat = 95 ∨ c.toNat = 0x17F ∨ c.toNat = 0x212A := by
  have hunderscore : c = '_' ↔ c.toNat = 95 := Char.toNat_inj.symm
  have halphanum : c.isAlphanum = (c.isUpper || c.isLower || isDigit c) := rfl
  simp only [isWord, halphanum, Bool.or_eq_true, decide_eq_true_eq, hunderscore, or_assoc]

/-- A character that is compared in another form than its own is a letter of a word. -/
theorem canonicalize_cases (c : Char) :
    canonicalize c = c ∨
      isWord c = true ∧ isDigit c = false ∧ (canonicalize c).isLower = true := by
  have hspecial (h : c.toNat = 0x17F ∨ c.toNat = 0x212A) :
      isWord c = true ∧ isDigit c = false := by
    rw [isWord_iff, ← Bool.not_eq_true, isDigit_iff]
    exact ⟨.inr (.inr (.inr (.inr h))), by omega⟩
  unfold canonicalize
  split
  · next h => exact .inr ⟨(hspecial (.inl h)).1, (hspecial (.inl h)).2, rfl⟩
  split
  · next h => exact .inr ⟨(hspecial (.inr h)).1, (hspecial (.inr h)).2, rfl⟩
  by_cases hupper : c.isUpper = true
  · right
    have hrange := (isUpper_iff c).mp hupper
    have hlower : (c.toLower).toNat = c.toNat + 32 := by
      have h : c.val ≥ 'A'.val ∧ c.val ≤ 'Z'.val := of_decide_eq_true hupper
      have hval : c.toLower.val = c.val + ('a'.val - 'A'.val) :=
        congrArg Char.val (show c.toLower = _ from dif_pos h)
      have hadd : (c.val + ('a'.val - 'A'.val)).toNat = (c.val.toNat + 32) % 2 ^ 32 :=
        UInt32.toNat_add _ _
      have hc : c.val.toNat = c.toNat := rfl
      change c.toLower.val.toNat = c.toNat + 32
      rw [hval]
      omega
    refine ⟨(isWord_iff c).mpr (.inl hupper), ?_, (isLower_iff _).mpr (by omega)⟩
    rw [← Bool.not_eq_true, isDigit_iff]
    omega
  · left
    exact dif_neg fun h => hupper (decide_eq_true h)

theorem canonicalize_of_not_isWord {c : Char} (hc : isWord c = false) : canonicalize c = c := by
  rcases canonicalize_cases c with h | ⟨hword, -⟩
  · exact h
  · rw [hc] at hword
    cases hword

theorem canonicalize_of_isDigit {c : Char} (hc : isDigit c = true) : canonicalize c = c := by
  rcases canonicalize_cases c with h | ⟨-, hdigit, -⟩
  · exact h
  · rw [hc] at hdigit
    cases hdigit

theorem isWord_of_isWhiteSpace {c : Char} (hc : isWhiteSpace c = true) : isWord c = false := by
  simp only [isWhiteSpace, Bool.and_eq_true, Bool.or_eq_true, decide_eq_true_eq,
    List.contains_iff_mem, List.mem_cons, List.not_mem_nil, or_false] at hc
  rw [← Bool.not_eq_true, isWord_iff, isUpper_iff, isLower_iff, isDigit_iff]
  omega

theorem isWord_of_isSpace {c : Char} (hc : isSpace c = true) : isWord c = false :=
  isWord_of_isWhiteSpace (Bool.and_eq_true_iff.mp hc).1

/-- What is compared as a letter is a letter. -/
theorem isLetter_of_canonicalize {c : Char} (hc : (canonicalize c).isLower = true) :
    isWord c = true ∧ isDigit c = false := by
  rcases canonicalize_cases c with h | ⟨hword, hdigit, -⟩
  · rw [h] at hc
    refine ⟨(isWord_iff c).mpr (.inr (.inl hc)), ?_⟩
    rw [isLower_iff] at hc
    rw [← Bool.not_eq_true, isDigit_iff]
    omega
  · exact ⟨hword, hdigit⟩

/-- A character that is no letter is compared in its own form only. -/
theorem eq_of_canonicalize {c d : Char} (hd : d.isLower = false) (h : canonicalize c = d) :
    c = d := by
  rcases canonicalize_cases c with hc | ⟨-, -, hlower⟩
  · exact hc.symm.trans h
  · rw [h, hd] at hlower
    cases hlower

/-! ### What the alternatives match -/

/-- The text begins with the word, in any case. -/
def BeginsWith (k : String) (s : List Char) : Prop :=
  k.toList.map canonicalize <+: s.map canonicalize

/-- The word occurs in the text, in any case. -/
def Occurs (k : String) (s : List Char) : Prop :=
  k.toList.map canonicalize <:+: s.map canonicalize

instance (k : String) (s : List Char) : Decidable (BeginsWith k s) :=
  inferInstanceAs (Decidable (_ <+: _))

instance (k : String) (s : List Char) : Decidable (Occurs k s) :=
  inferInstanceAs (Decidable (_ <:+: _))

theorem beginsWith_iff {k : String} {s : List Char} :
    BeginsWith k s ↔
      ∃ m t, s = m ++ t ∧ m.map canonicalize = k.toList.map canonicalize := by
  constructor
  · rintro ⟨u, hu⟩
    obtain ⟨m, t, rfl, hm, -⟩ := List.map_eq_append_iff.mp hu.symm
    exact ⟨m, t, rfl, hm⟩
  · rintro ⟨m, t, rfl, hm⟩
    exact ⟨t.map canonicalize, by rw [List.map_append, hm]⟩

theorem occurs_iff {k : String} {s : List Char} :
    Occurs k s ↔ ∃ t, t <:+ s ∧ BeginsWith k t := by
  constructor
  · rintro ⟨u, v, huv⟩
    rw [List.append_assoc] at huv
    obtain ⟨a, t, rfl, -, ht⟩ := List.map_eq_append_iff.mp huv.symm
    exact ⟨t, List.suffix_append a t, ⟨v, ht.symm⟩⟩
  · rintro ⟨t, ⟨a, rfl⟩, v, hv⟩
    exact ⟨a.map canonicalize, v, by rw [List.append_assoc, hv, List.map_append]⟩

variable (n : ℕ)

theorem first_word_eq_none {k : String} {s : List Char} :
    (word k).first n s = none ↔ ¬ BeginsWith k s := by
  rw [beginsWith_iff, ← not_iff_not, not_not, ← ne_eq, Option.ne_none_iff_exists']
  constructor
  · rintro ⟨t, ht⟩
    obtain ⟨m, hs, hm⟩ := (Pattern.first_literal_eq_some n canonicalize).mp ht
    exact ⟨m, t, hs, hm⟩
  · rintro ⟨m, t, hs, hm⟩
    exact ⟨t, (Pattern.first_literal_eq_some n canonicalize).mpr ⟨m, hs, hm⟩⟩

/-- The text without the blanks that it begins with and the word after them. -/
def afterKeyword (s : List Char) : List Char := (s.dropWhile isSpace).dropWhile isWord

theorem first_keywordRegex (s : List Char) :
    keywordRegex.first n s =
      (keywords.findSome? fun k => (word k).first n s).map afterKeyword := by
  have hmany (s : List Char) :
      (Pattern.seq (.many isSpace) (.many isWord)).first n s = some (afterKeyword s) := by
    rw [Pattern.first_seq_of_total n _ fun s => by rw [Pattern.first_many]; simp,
      Pattern.first_many, Option.bind_some, Pattern.first_many]
    rfl
  rw [keywordRegex, Pattern.first_seq_of_total n _ fun s => by rw [hmany]; simp,
    Pattern.first_alts, List.findSome?_map, funext hmany]
  exact Option.map_eq_bind.symm

theorem first_keywordRegex_eq_none {s : List Char} :
    keywordRegex.first n s = none ↔ ∀ k ∈ keywords, ¬ BeginsWith k s := by
  rw [first_keywordRegex, Option.map_eq_none_iff, List.findSome?_eq_none_iff]
  exact forall₂_congr fun k _ => first_word_eq_none n

/-- The keywords that are tried before all of their beginnings. -/
def liveKeywords : List String := ["แขวง", "เขต", "ตำบล", "อำเภอ"] ++ englishKeywords

theorem beginsWith_of_isPrefix {k k' : String} {s : List Char} (h : k.toList <+: k'.toList)
    (hs : BeginsWith k' s) : BeginsWith k s :=
  (h.map canonicalize).trans hs

/-- The compound keywords are not reached. -/
theorem findSome?_keywords (s : List Char) :
    (keywords.findSome? fun k => (word k).first n s) =
      liveKeywords.findSome? fun k => (word k).first n s := by
  have hkeywords : keywords =
      ["แขวง", "เขต", "ตำบล", "อำเภอ"] ++ (["เขตการปกครอง", "แขวงการปกครอง"] ++ englishKeywords) :=
    rfl
  rw [hkeywords, liveKeywords, List.findSome?_append, List.findSome?_append, List.findSome?_append]
  cases hfour : (["แขวง", "เขต", "ตำบล", "อำเภอ"].findSome? fun k => (word k).first n s) with
  | some t => rfl
  | none =>
    rw [List.findSome?_eq_none_iff] at hfour
    have hkhwaeng := (first_word_eq_none n).mp (hfour "แขวง" (by simp))
    have hkhet := (first_word_eq_none n).mp (hfour "เขต" (by simp))
    have htwo :
        (["เขตการปกครอง", "แขวงการปกครอง"].findSome? fun k => (word k).first n s) = none := by
      rw [List.findSome?_eq_none_iff]
      intro k hk
      rw [first_word_eq_none]
      rcases List.mem_pair.mp hk with rfl | rfl
      · exact fun h => hkhet (beginsWith_of_isPrefix (by decide) h)
      · exact fun h => hkhwaeng (beginsWith_of_isPrefix (by decide) h)
    rw [htwo, Option.none_or]

/-- A match of a keyword takes the blanks and the word after it. -/
theorem keyword_of_first {s t : List Char} (h : keywordRegex.first n s = some t) :
    ∃ k ∈ liveKeywords, ∃ m u, s = m ++ u ∧ t = afterKeyword u ∧
      m.map canonicalize = k.toList.map canonicalize := by
  rw [first_keywordRegex, findSome?_keywords, Option.map_eq_some_iff] at h
  obtain ⟨u, hu, rfl⟩ := h
  obtain ⟨k, hk, hfirst⟩ := List.exists_of_findSome?_eq_some hu
  obtain ⟨m, rfl, hm⟩ := (Pattern.first_literal_eq_some n canonicalize).mp hfirst
  exact ⟨k, hk, m, u, rfl, rfl, hm⟩

/-- What follows the digits that the text begins with. -/
def digitsEnd? : List Char → Option (List Char)
  | [] => none
  | a :: s => if isDigit a then some (s.dropWhile isDigit) else none

/-- What follows the slash that the text begins with. -/
def slashEnd? : List Char → Option (List Char)
  | [] => none
  | a :: s => if a = '/' then some s else none

/-- What follows the digits, slash and digits that the text begins with. -/
def numberEnd? (s : List Char) : Option (List Char) :=
  (digitsEnd? s).bind fun t => (slashEnd? t).bind digitsEnd?

theorem first_numberRegex (s : List Char) :
    numberRegex.first n s = if s.length = n then numberEnd? s else none := by
  have hdigits (s : List Char) :
      (Pattern.seq (.chr isDigit) (.many isDigit)).first n s = digitsEnd? s := by
    cases s with
    | nil => rfl
    | cons a s => rw [Pattern.first_chr_seq, Pattern.first_many]; rfl
  have hslash (s : List Char) :
      (Pattern.seq (.chr fun c => c = '/') (.seq (.chr isDigit) (.many isDigit))).first n s =
        (slashEnd? s).bind digitsEnd? := by
    cases s with
    | nil => rfl
    | cons a s =>
      rw [Pattern.first_chr_seq, hdigits, slashEnd?, if_congr decide_eq_true_iff rfl rfl]
      split <;> rfl
  -- no digit is a slash
  have hgreedy : ∀ a s, isDigit a = true →
      (Pattern.seq (.chr fun c => c = '/') (.seq (.chr isDigit) (.many isDigit))).ends n
        (a :: s) = [] := by
    intro a s ha
    have hslash : a ≠ '/' := by
      rintro rfl
      cases ha
    simp only [Pattern.ends, decide_eq_true_eq, if_neg hslash, List.flatMap_nil]
  rw [numberRegex, Pattern.first_atStart_seq]
  refine if_congr Iff.rfl ?_ rfl
  cases s with
  | nil => rfl
  | cons a s =>
    rw [Pattern.first_chr_seq, Pattern.first_many_seq n isDigit hgreedy, hslash, numberEnd?,
      digitsEnd?]
    split <;> rfl

/-- The text without a comma that it begins with. -/
def dropComma : List Char → List Char
  | ',' :: s => s
  | s => s

theorem dropComma_cons {c : Char} (hc : c ≠ ',') (s : List Char) : dropComma (c :: s) = c :: s := by
  unfold dropComma
  split
  · next h => exact absurd (List.cons.inj h).1 hc
  · rfl

/-- The text is the name of the country, with blanks and a comma before it. -/
def isCountry (s : List Char) : Bool := (dropComma s).dropWhile isSpace = thailand.toList

theorem toList_thailand : thailand.toList = 'ป' :: thailand.toList.tail := rfl

theorem map_canonicalize_eq_thailand {s : List Char}
    (h : s.map canonicalize = thailand.toList.map canonicalize) : s = thailand.toList := by
  have hthai : thailand.toList.map canonicalize = thailand.toList := by decide
  have hlower : (thailand.toList.all fun c => !c.isLower) = true := rfl
  rw [hthai] at h
  refine List.ext_getElem ((List.length_map _).symm.trans (congrArg List.length h)) ?_
  intro i hi hi'
  have hc : canonicalize s[i] = thailand.toList[i] := by
    rw [← List.getElem_map canonicalize (h := by simpa using hi)]
    exact List.getElem_of_eq h _
  refine eq_of_canonicalize ?_ hc
  exact Bool.not_eq_true' _ ▸ List.all_eq_true.mp hlower _ (List.getElem_mem hi')

theorem first_thailand (s : List Char) :
    (Pattern.seq (word thailand) .atEnd).first n s =
      if s = thailand.toList then some [] else none := by
  rw [Pattern.first, Pattern.ends, word, Pattern.ends_literal]
  cases hword : (literal canonicalize thailand.toList).first n s with
  | none =>
    have hs : s ≠ thailand.toList := by
      rintro rfl
      exact (first_word_eq_none n).mp hword List.prefix_rfl
    rw [if_neg hs]
    rfl
  | some t =>
    obtain ⟨m, rfl, hm⟩ := (Pattern.first_literal_eq_some n canonicalize).mp hword
    rw [map_canonicalize_eq_thailand hm, Option.toList_some, List.flatMap_singleton, Pattern.ends]
    cases t with
    | nil => simp
    | cons a t => simp

theorem first_countryRegex (s : List Char) :
    countryRegex.first n s = if isCountry s then some [] else none := by
  have hspaces (s : List Char) :
      (Pattern.seq (.many isSpace) (.seq (word thailand) .atEnd)).first n s =
        if s.dropWhile isSpace = thailand.toList then some [] else none := by
    rw [Pattern.first_many_seq n isSpace ?_ s, first_thailand]
    -- the name of the country does not begin with a blank
    intro a s ha
    have hfirst : (Pattern.seq (word thailand) .atEnd).first n (a :: s) = none := by
      rw [first_thailand, if_neg]
      intro h
      rw [(List.cons.inj (h.trans toList_thailand)).1] at ha
      revert ha
      decide
    exact List.head?_eq_none_iff.mp hfirst
  rw [countryRegex, Pattern.first_opt_seq, hspaces, isCountry]
  cases s with
  | nil => rfl
  | cons a s =>
    rw [Pattern.first_chr_seq, hspaces]
    by_cases ha : a = ','
    · subst ha
      have hcomma : (',' :: s).dropWhile isSpace ≠ thailand.toList := by
        rw [List.dropWhile_cons_of_neg (by decide)]
        intro h
        exact absurd (List.cons.inj (h.trans toList_thailand)).1
          (by decide)
      rw [if_pos (by decide), if_neg hcomma, Option.or_none]
      exact if_congr decide_eq_true_iff.symm rfl rfl
    · rw [if_neg (by simpa using ha), Option.none_or, dropComma_cons ha]
      exact if_congr decide_eq_true_iff.symm rfl rfl

example : removeUnwantedDetails "12/3 เขต A1, ประเทศไทย" = "" := by decide

end SmartHome.AddressUtils
