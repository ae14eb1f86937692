import SmartHome.Utils.Removed

/-!
# The parts of a cleaned address

The three alternatives do not get in each other's way: a cleaning removes the number at the start,
then the name of the country at the end, and then the keywords. No match of a keyword goes past a
comma, so that the parts of an address are cleaned each on its own.

## Main definitions

* `AddressUtils.innerRegex` : the alternatives that match anywhere.
* `AddressUtils.cleanPart` : a part without its own keywords.

## Main results

* `AddressUtils.replaceAll_unwantedRegex` : the alternatives are removed one after the other.
* `AddressUtils.barrier_keywordRegex` : no keyword depends on a comma or on what follows.
* `AddressUtils.cleaned_join` : a joined address is cleaned part by part.
-/

namespace SmartHome.AddressUtils

open Dart RegExp

variable {n : ℕ}

/-! ### The alternatives one after the other -/

theorem hasStart_keywordRegex : keywordRegex.hasStart = false := by
  have halts : (Pattern.alts (keywords.map word)).hasStart = false := by
    refine Pattern.hasStart_alts fun r hr => ?_
    obtain ⟨k, -, rfl⟩ := List.mem_map.mp hr
    exact Pattern.hasStart_literal canonicalize k.toList
  rw [keywordRegex, Pattern.hasStart, halts]
  rfl

theorem consumes_keywordRegex (n : ℕ) : keywordRegex.Consumes n := by
  intro s h
  refine consumes_unwantedRegex n s ?_
  rw [first_unwantedRegex, h, Option.some_or]

theorem consumes_numberRegex (n : ℕ) : numberRegex.Consumes n := by
  intro s h
  rw [first_numberRegex] at h
  obtain ⟨ds, es, hds, -, -, hs⟩ := numberEnd?_eq_some (Option.ite_none_right_eq_some.mp h).2
  have hlength := congrArg List.length hs
  simp only [List.length_append, List.length_cons] at hlength
  omega

/-- No keyword begins with a character that no keyword holds. -/
theorem first_keywordRegex_cons {c : Char}
    (hc : ∀ k ∈ keywords, canonicalize c ∉ k.toList.map canonicalize) (s : List Char) :
    keywordRegex.first n (c :: s) = none := by
  rw [first_keywordRegex_eq_none]
  intro k hk hbegins
  obtain ⟨m, t, hs, hm⟩ := beginsWith_iff.mp hbegins
  cases m with
  | nil => exact (canonicalize_keyword k hk).1 (List.map_eq_nil_iff.mp hm.symm)
  | cons d m =>
    obtain ⟨rfl, -⟩ := List.cons.inj hs
    exact hc k hk (hm ▸ List.mem_cons_self)

theorem first_keywordRegex_of_isDigit {c : Char} (hc : isDigit c = true) (s : List Char) :
    keywordRegex.first n (c :: s) = none := by
  refine first_keywordRegex_cons (fun k hk hmem => ?_) s
  have hdigit := ((canonicalize_keyword k hk).2 _ hmem).2.2
  rw [canonicalize_of_isDigit hc, hc] at hdigit
  cases hdigit

/-- The keywords and the name of the country. -/
def innerRegex : Pattern Char := .alt keywordRegex countryRegex

theorem first_innerRegex (s : List Char) :
    innerRegex.first n s = (keywordRegex.first n s).or (countryRegex.first n s) :=
  Pattern.first_alt n keywordRegex countryRegex s

/-- Where no number begins, only the other alternatives can match. -/
theorem first_unwantedRegex_eq_inner {s : List Char} (h : numberRegex.first n s = none) (k : ℕ) :
    unwantedRegex.first n s = innerRegex.first k s := by
  rw [first_unwantedRegex, h, Option.none_or, first_innerRegex, first_countryRegex,
    first_countryRegex, Pattern.first_eq_of_hasStart hasStart_keywordRegex n k]

theorem first_numberRegex_of_length {s : List Char} (h : s.length ≠ n) :
    numberRegex.first n s = none := by rw [first_numberRegex, if_neg h]

theorem consumes_innerRegex (n : ℕ) : innerRegex.Consumes n := by
  intro s h
  refine consumes_unwantedRegex (s.length + 1) s ?_
  rw [first_unwantedRegex_eq_inner (first_numberRegex_of_length (by omega)) n, h]

/-- The number at the start is removed first. -/
theorem delete_number (s : List Char) (k : ℕ) :
    unwantedRegex.replaceAll s = innerRegex.delete k (numberRegex.replaceAll s) := by
  rw [Pattern.replaceAll, Pattern.replaceAll]
  cases hnumber : numberRegex.first s.length s with
  | none =>
    have hnone : ∀ t, t <:+ s → numberRegex.first s.length t = none := by
      intro t ht
      by_cases hlength : t.length = s.length
      · rw [ht.eq_of_length hlength]
        exact hnumber
      · exact first_numberRegex_of_length hlength
    rw [(Pattern.delete_eq_self_iff (consumes_numberRegex _)).mpr hnone]
    exact Pattern.delete_congr fun t ht => first_unwantedRegex_eq_inner (hnone t ht) k
  | some u =>
    obtain ⟨m, hs⟩ := Pattern.isSuffix_of_first hnumber
    have hshort : ∀ t, t <:+ u → numberRegex.first s.length t = none := by
      intro t ht
      have hm : m ≠ [] := by
        rintro rfl
        obtain rfl : u = s := hs
        exact consumes_numberRegex _ _ hnumber
      have hpos := List.length_pos_iff.mpr hm
      have hle := ht.length_le
      refine first_numberRegex_of_length ?_
      rw [← hs, List.length_append]
      omega
    have hunwanted : unwantedRegex.first s.length s = some u := by
      have hdigits := hnumber
      rw [first_numberRegex] at hdigits
      obtain ⟨ds, es, hds, -, hall, hs'⟩ :=
        numberEnd?_eq_some (Option.ite_none_right_eq_some.mp hdigits).2
      obtain ⟨d, ds, rfl⟩ := List.exists_cons_of_ne_nil hds
      have hkeyword : keywordRegex.first s.length s = none := by
        rw [hs']
        exact first_keywordRegex_of_isDigit (hall d (by simp)) _
      rw [first_unwantedRegex, hkeyword, hnumber, Option.none_or, Option.some_or]
    generalize s.length = l at *
    subst hs
    rw [Pattern.delete_append_of_match hunwanted, Pattern.delete_append_of_match hnumber,
      (Pattern.delete_eq_self_iff (consumes_numberRegex _)).mpr hshort]
    exact Pattern.delete_congr fun t ht => first_unwantedRegex_eq_inner (hshort t ht) k

/-! ### The name of the country -/

theorem delete_country_of_isCountry {s : List Char} (h : isCountry s = true) :
    countryRegex.delete n s = [] := by
  have hmatch : countryRegex.first n (s ++ []) = some [] := by
    rw [List.append_nil, first_countryRegex, if_pos h]
  rw [← List.append_nil s, Pattern.delete_append_of_match hmatch, Pattern.delete_nil]

theorem delete_country_cons {c : Char} {s : List Char} (h : isCountry (c :: s) = false) :
    countryRegex.delete n (c :: s) = c :: countryRegex.delete n s :=
  Pattern.delete_cons_of_none (by rw [first_countryRegex, h]; rfl)

/-- What is left without the name of the country is the beginning of the text. -/
theorem delete_country_isPrefix (s : List Char) : countryRegex.delete n s <+: s := by
  induction s with
  | nil => exact List.prefix_rfl
  | cons c s ih =>
    cases h : isCountry (c :: s) with
    | true =>
      rw [delete_country_of_isCountry h]
      exact List.nil_prefix
    | false =>
      rw [delete_country_cons h, List.prefix_cons_inj]
      exact ih

/-- The name of the country is preceded by a comma and blanks. -/
theorem head_of_isCountry {c : Char} {s : List Char} (h : isCountry (c :: s) = true) :
    c = ',' ∨ isSpace c = true ∨ c = 'ป' := by
  by_cases hcomma : c = ','
  · exact .inl hcomma
  by_cases hspace : isSpace c = true
  · exact .inr (.inl hspace)
  · right
    right
    have hthailand := of_decide_eq_true h
    rw [dropComma_cons hcomma, List.dropWhile_cons_of_neg hspace] at hthailand
    exact (List.cons.inj (hthailand.trans toList_thailand)).1

theorem isCountry_thailand : isCountry thailand.toList = true := by decide

theorem delete_country_dropWhile_isSpace (s : List Char) :
    (countryRegex.delete n s).dropWhile isSpace = countryRegex.delete n (s.dropWhile isSpace) := by
  induction s with
  | nil => rfl
  | cons c s ih =>
    cases hspace : isSpace c with
    | false =>
      rw [List.dropWhile_cons_of_neg (by simp [hspace])]
      cases h : isCountry (c :: s) with
      | true => rw [delete_country_of_isCountry h, List.dropWhile_nil]
      | false => rw [delete_country_cons h, List.dropWhile_cons_of_neg (by simp [hspace])]
    | true =>
      cases h : isCountry (c :: s) with
      | true =>
        -- the blanks belong to the match, and what remains is the name alone
        have hcomma : c ≠ ',' := by
          rintro rfl
          exact absurd hspace (by decide)
        have hthailand := of_decide_eq_true h
        rw [dropComma_cons hcomma] at hthailand
        rw [delete_country_of_isCountry h, hthailand,
          delete_country_of_isCountry isCountry_thailand, List.dropWhile_nil]
      | false =>
        rw [delete_country_cons h, List.dropWhile_cons_of_pos hspace,
          List.dropWhile_cons_of_pos hspace, ih]

theorem delete_country_dropWhile_isWord (s : List Char) :
    (countryRegex.delete n s).dropWhile isWord = countryRegex.delete n (s.dropWhile isWord) := by
  induction s with
  | nil => rfl
  | cons c s ih =>
    cases h : isCountry (c :: s) with
    | true =>
      have hword : isWord c = false := by
        rcases head_of_isCountry h with rfl | hspace | rfl
        · decide
        · exact isWord_of_isSpace hspace
        · decide
      rw [List.dropWhile_cons_of_neg (by simp [hword]), delete_country_of_isCountry h,
        List.dropWhile_nil]
    | false =>
      rw [delete_country_cons h]
      cases hword : isWord c with
      | true => rw [List.dropWhile_cons_of_pos hword, List.dropWhile_cons_of_pos hword, ih]
      | false =>
        rw [List.dropWhile_cons_of_neg (by simp [hword]),
          List.dropWhile_cons_of_neg (by simp [hword]), delete_country_cons h]

theorem afterKeyword_delete_country (s : List Char) :
    afterKeyword (countryRegex.delete n s) = countryRegex.delete n (afterKeyword s) := by
  rw [afterKeyword, afterKeyword, delete_country_dropWhile_isSpace, delete_country_dropWhile_isWord]

/-! ### The keywords that are found -/

/-- No character of a keyword that is found begins the name of the country. -/
theorem canonicalize_live : ∀ k ∈ liveKeywords, k.toList ≠ [] ∧
    ∀ c ∈ k.toList.map canonicalize, (c != ',' && !isSpace c && c != 'ป') = true :=
  forall_canonicalize rfl

theorem delete_country_append_keyword {k : String} (hk : k ∈ liveKeywords) {a : List Char}
    (ha : ∀ c ∈ a, canonicalize c ∈ k.toList.map canonicalize) (s : List Char) :
    countryRegex.delete n (a ++ s) = a ++ countryRegex.delete n s := by
  induction a with
  | nil => rfl
  | cons c a ih =>
    have hcountry : isCountry (c :: (a ++ s)) = false := by
      by_contra h
      have hlive := (canonicalize_live k hk).2 _ (ha c List.mem_cons_self)
      rcases head_of_isCountry (by simpa using h) with rfl | hc | rfl
      · exact absurd hlive (by decide)
      · rw [canonicalize_of_not_isWord (isWord_of_isSpace hc), hc] at hlive
        simp at hlive
      · exact absurd hlive (by decide)
    rw [List.cons_append, delete_country_cons hcountry,
      ih fun d hd => ha d (List.mem_cons_of_mem c hd), List.cons_append]

/-- No keyword that is found is the beginning of another one. -/
theorem live_prefix_free : ∀ k ∈ liveKeywords, ∀ k' ∈ liveKeywords,
    k.toList.map canonicalize <+: k'.toList.map canonicalize → k = k' := by
  have hall : (liveKeywords.all fun k => liveKeywords.all fun k' =>
      !(k.toList.map canonicalize).isPrefixOf (k'.toList.map canonicalize) || k == k') = true := rfl
  intro k hk k' hk' hpre
  have h := List.all_eq_true.mp (List.all_eq_true.mp hall k hk) k' hk'
  rw [List.isPrefixOf_iff_prefix.mpr hpre] at h
  exact eq_of_beq h

/-- A keyword is found whatever comes after it. -/
theorem first_keyword_append {k : String} (hk : k ∈ liveKeywords) {a : List Char}
    (ha : a.map canonicalize = k.toList.map canonicalize) (s : List Char) :
    keywordRegex.first n (a ++ s) = some (afterKeyword s) := by
  cases h : keywordRegex.first n (a ++ s) with
  | none =>
    have hbegins : BeginsWith k (a ++ s) := beginsWith_iff.mpr ⟨a, s, rfl, ha⟩
    exact absurd hbegins
      ((first_keywordRegex_eq_none n).mp h k (mem_keywords_of_mem_liveKeywords k hk))
  | some t =>
    obtain ⟨k', hk', m, u, hs, rfl, hm⟩ := keyword_of_first n h
    have hsame : k = k' := by
      rcases List.prefix_or_prefix_of_prefix (List.prefix_append a s) ⟨u, hs.symm⟩ with hpre | hpre
      · exact live_prefix_free k hk k' hk' (ha ▸ hm ▸ hpre.map canonicalize)
      · exact (live_prefix_free k' hk' k hk (ha ▸ hm ▸ hpre.map canonicalize)).symm
    subst hsame
    have hlength : a.length = m.length := by
      rw [← List.length_map canonicalize, ha, ← hm, List.length_map]
    rw [(List.append_inj hs hlength).2]

/-- The name of the country is removed before the keywords. -/
theorem delete_inner (s : List Char) :
    innerRegex.delete n s = keywordRegex.delete n (countryRegex.delete n s) := by
  induction s using Pattern.scan (consumes_innerRegex n) with
  | nil => rfl
  | skip m t hm hmatch ih =>
    rw [Pattern.delete_append_of_match hmatch]
    rw [first_innerRegex] at hmatch
    cases hkeyword : keywordRegex.first n (m ++ t) with
    | some u =>
      rw [hkeyword, Option.some_or] at hmatch
      obtain rfl := Option.some.inj hmatch
      obtain ⟨k, hk, a, v, hs, rfl, ha⟩ := keyword_of_first n hkeyword
      have hchars : ∀ c ∈ a, canonicalize c ∈ k.toList.map canonicalize := fun c hc =>
        ha ▸ List.mem_map_of_mem hc
      have hfirst : keywordRegex.first n (a ++ countryRegex.delete n v) =
          some (countryRegex.delete n (afterKeyword v)) := by
        rw [first_keyword_append hk ha, afterKeyword_delete_country]
      obtain ⟨w, hw⟩ := Pattern.isSuffix_of_first hfirst
      rw [hs, delete_country_append_keyword hk hchars, ih, ← hw]
      exact (Pattern.delete_append_of_match (hw.symm ▸ hfirst)).symm
    | none =>
      rw [hkeyword, Option.none_or, first_countryRegex] at hmatch
      obtain ⟨hcountry, ht⟩ := Option.ite_none_right_eq_some.mp hmatch
      obtain rfl := Option.some.inj ht
      rw [delete_country_of_isCountry hcountry]
      rfl
  | keep c s hnone ih =>
    rw [Pattern.delete_cons_of_none hnone]
    rw [first_innerRegex, Option.or_eq_none_iff, first_countryRegex] at hnone
    obtain ⟨hkeyword, hcountry⟩ := hnone
    have hcountry : isCountry (c :: s) = false := by simpa using hcountry
    have hnone : keywordRegex.first n (c :: countryRegex.delete n s) = none := by
      rw [first_keywordRegex_eq_none] at hkeyword ⊢
      intro k hk hbegins
      have hpre : c :: countryRegex.delete n s <+: c :: s :=
        (List.prefix_cons_inj c).mpr (delete_country_isPrefix s)
      exact hkeyword k hk (hbegins.trans (hpre.map canonicalize))
    rw [delete_country_cons hcountry, Pattern.delete_cons_of_none hnone, ih]

/-- The alternatives are removed one after the other. -/
theorem replaceAll_unwantedRegex (s : List Char) :
    unwantedRegex.replaceAll s =
      keywordRegex.replaceAll (countryRegex.replaceAll (numberRegex.replaceAll s)) := by
  have hcountry (k : ℕ) (t : List Char) : countryRegex.delete k t = countryRegex.replaceAll t :=
    Pattern.delete_congr fun u _ => by rw [first_countryRegex, first_countryRegex]
  rw [delete_number s 0, delete_inner, hcountry]
  exact Pattern.delete_congr fun t _ => Pattern.first_eq_of_hasStart hasStart_keywordRegex _ _ t

/-! ### Parts between commas -/

theorem barrier_keywordRegex : keywordRegex.Barrier n ',' := by
  have hmany (s : List Char) : (Pattern.many isWord).first n s ≠ none := by
    rw [Pattern.first_many]
    exact Option.some_ne_none _
  have htail (s : List Char) :
      (Pattern.seq (.many isSpace) (.many isWord)).first n s ≠ none := by
    rw [Pattern.first_seq_of_total n _ hmany, Pattern.first_many, Option.bind_some]
    exact hmany _
  refine Pattern.barrier_seq_of_total (Pattern.barrier_alts fun r hr => ?_)
    (Pattern.barrier_seq_of_total (Pattern.barrier_many (by decide))
      (Pattern.barrier_many (by decide)) hmany) htail
  obtain ⟨k, hk, rfl⟩ := List.mem_map.mp hr
  refine Pattern.barrier_literal fun c hc h => ?_
  have hcomma := ((canonicalize_keyword k hk).2 _ (List.mem_map_of_mem hc)).2.1
  exact hcomma (h.symm.trans (by decide))

theorem first_keywordRegex_blank (s : List Char) : keywordRegex.first n (' ' :: s) = none :=
  first_keywordRegex_cons
    (fun k hk hmem => absurd ((canonicalize_keyword k hk).2 _ hmem).1 (by decide)) s

/-- The marks of the parts, with separators that no match covers. -/
def joinMarks (ms : List (List (Char × Bool))) : List (Char × Bool) :=
  [(',', false), (' ', false)].intercalate ms

/-- The parts of a joined text are scanned each on its own. -/
theorem marks_join (cs : List (List Char)) :
    keywordRegex.marks n ([',', ' '].intercalate cs) =
      joinMarks (cs.map (keywordRegex.marks n)) :=
  Pattern.marks_intercalate (consumes_keywordRegex n) barrier_keywordRegex
    (fun s => Pattern.marks_cons_of_none (first_keywordRegex_blank s)) cs

/-- What is left of the parts is joined as the parts were. -/
theorem delete_join (cs : List (List Char)) :
    keywordRegex.delete n ([',', ' '].intercalate cs) =
      [',', ' '].intercalate (cs.map (keywordRegex.delete n)) :=
  Pattern.delete_intercalate (consumes_keywordRegex n) barrier_keywordRegex
    (fun s => Pattern.delete_cons_of_none (first_keywordRegex_blank s)) cs

theorem toList_joinParts (ss : List String) :
    (joinParts ss).toList = [',', ' '].intercalate (ss.map String.toList) := by
  induction ss with
  | nil => rfl
  | cons s ss ih =>
    cases ss with
    | nil => simp [joinParts]
    | cons s' ss =>
      rw [joinParts, String.toList_append, String.toList_append, ih, List.append_assoc]
      · exact (Pattern.intercalate_cons_sep ',' [' '] _ _ _).symm
      · simp

theorem first_keywordRegex_eq (k : ℕ) (s : List Char) :
    keywordRegex.first n s = keywordRegex.first k s :=
  Pattern.first_eq_of_hasStart hasStart_keywordRegex n k s

/-- Without a number at the start and the name of the country at the end, only keywords are
found. -/
theorem first_unwantedRegex_eq_keyword {s t : List Char} (hnumber : ¬ BeginsWithNumber s)
    (hcountry : ¬ EndsWithThailand s) (ht : t <:+ s) (k : ℕ) :
    unwantedRegex.first s.length t = keywordRegex.first k t := by
  have hnone : numberRegex.first s.length t = none := by
    rw [first_numberRegex, ite_eq_right_iff]
    intro hlength
    rw [ht.eq_of_length hlength]
    exact numberEnd?_eq_none.mpr hnumber
  have hno : isCountry t = false := by
    by_contra h
    exact hcountry ((thailand_suffix_of_isCountry (by simpa using h)).trans ht)
  rw [first_unwantedRegex_eq_inner hnone k, first_innerRegex, first_countryRegex, hno]
  exact Option.or_none

/-- A part without its own keywords. -/
def cleanPart (s : String) : String := String.ofList (keywordRegex.replaceAll s.toList)

/-- **Joined addresses.** The ", "-join of parts that neither begins with a number nor ends with the
name of the country is cleaned part by part, and then trimmed. No match covers a character of a
separator, and the matches in a part are those of the part on its own. -/
theorem cleaned_join (parts : List String) (hnumber : ¬ BeginsWithNumber (joinParts parts).toList)
    (hcountry : ¬ EndsWithThailand (joinParts parts).toList) :
    removeUnwantedDetails (joinParts parts) = trim (joinParts (parts.map cleanPart)) ∧
      unwantedRegex.marks (joinParts parts).toList.length (joinParts parts).toList =
        joinMarks (parts.map fun s => keywordRegex.marks s.toList.length s.toList) := by
  have hfirst : ∀ t, t <:+ (joinParts parts).toList →
      unwantedRegex.first (joinParts parts).toList.length t = keywordRegex.first 0 t := fun t ht =>
    first_unwantedRegex_eq_keyword hnumber hcountry ht 0
  constructor
  · have hparts : (joinParts (parts.map cleanPart)).toList =
        unwantedRegex.replaceAll (joinParts parts).toList := by
      rw [Pattern.replaceAll, Pattern.delete_congr hfirst, toList_joinParts, toList_joinParts,
        delete_join, List.map_map, List.map_map]
      refine congrArg _ (List.map_congr_left fun s _ => ?_)
      exact String.toList_ofList.trans
        (Pattern.delete_congr fun t _ => first_keywordRegex_eq 0 t)
    rw [removeUnwantedDetails, trim, removeUnwanted, hparts]
  · rw [Pattern.marks_congr hfirst, toList_joinParts, marks_join, List.map_map]
    refine congrArg _ (List.map_congr_left fun s _ => ?_)
    exact Pattern.marks_congr fun t _ => first_keywordRegex_eq _ t

/-- A part is cleaned in the middle of an address. -/
theorem cleaned_join_three :
    removeUnwantedDetails (joinParts ["Lumphini", "Pathum Wan District", "Bangkok"]) =
      trim (joinParts (["Lumphini", "Pathum Wan District", "Bangkok"].map cleanPart)) :=
  (cleaned_join ["Lumphini", "Pathum Wan District", "Bangkok"] (by decide)
    (by decide)).1

end SmartHome.AddressUtils
