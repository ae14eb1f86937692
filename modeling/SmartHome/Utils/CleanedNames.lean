import SmartHome.Utils.Removed

/-!
# What a cleaning leaves of a name

A keyword is also removed inside a longer word. The scan goes over a text once. An occurrence of a
keyword never survives it, but what stands on both sides of a match comes together, and may form a
Thai keyword, or bring a number to the start or the name of the country to the end. It never forms
an English keyword, since a match goes on to the end of the word in which its keyword ends.

## Main results

* `AddressUtils.unchanged_iff_no_keyword` : the names that are not damaged.
* `AddressUtils.infix_of_delete` : letters that are together in the result are together in the text.
* `AddressUtils.cleaned_text` : which occurrences of keywords are removed, what the result does not
  hold, and when it is left as it is by another cleaning.
-/

namespace SmartHome.AddressUtils

open Dart RegExp

variable {n : ℕ}

/-! ### Names -/

/-- The characters of names and of what separates them. -/
def isNameChar (c : Char) : Bool := c.isAlpha || c = ' ' || c = ','

/-- The Thai words hold no character of a name. -/
theorem canonicalize_thai : ∀ k ∈ thailand :: thaiKeywords, k.toList ≠ [] ∧
    ∀ c ∈ k.toList.map canonicalize, (!c.isLower && !isNameChar c) = true :=
  forall_canonicalize rfl

theorem not_occurs_thai {s : List Char} (hs : ∀ c ∈ s, isNameChar c = true) {k : String}
    (hk : k ∈ thailand :: thaiKeywords) : ¬ Occurs k s := by
  intro hoccurs
  obtain ⟨hne, hchars⟩ := canonicalize_thai k hk
  obtain ⟨c, hc⟩ := List.exists_mem_of_ne_nil _ (mt List.map_eq_nil_iff.mp hne)
  obtain ⟨hlower, hname⟩ := Bool.and_eq_true_iff.mp (hchars c hc)
  obtain ⟨d, hd, hdc⟩ := List.mem_map.mp (hoccurs.mem hc)
  have hdname := hs d hd
  rw [eq_of_canonicalize (by simpa using hlower) hdc] at hdname
  rw [hdname] at hname
  cases hname

/-- A name is clean if it holds no English keyword, not even inside a word. -/
theorem clean_iff_of_name {s : List Char} (hs : ∀ c ∈ s, isNameChar c = true) :
    Clean s ↔ ∀ k ∈ englishKeywords, ¬ Occurs k s := by
  constructor
  · exact fun h k hk => h.1 k (List.mem_append_right thaiKeywords hk)
  · refine fun h => ⟨fun k hk => ?_, ?_, fun hends => ?_⟩
    · rcases List.mem_append.mp hk with hthai | henglish
      · exact not_occurs_thai hs (List.mem_cons_of_mem thailand hthai)
      · exact h k henglish
    · rintro ⟨ds, es, t, -, -, -, -, rfl⟩
      have hslash := hs '/' (by simp)
      revert hslash
      decide
    · exact not_occurs_thai hs List.mem_cons_self (hends.isInfix.map canonicalize)

/-- **Names that are not damaged.** A text of ASCII letters, spaces and commas loses no more than
the blanks at its ends exactly if no English keyword occurs in it, whether as a word or inside
one. -/
theorem unchanged_iff_no_keyword (address : String)
    (haddress : ∀ c ∈ address.toList, isNameChar c = true) :
    removeUnwantedDetails address = trim address ↔
      ∀ k ∈ englishKeywords, ¬ Occurs k address.toList := by
  rw [← clean_iff_of_name haddress, ← removeUnwanted_eq_trimChars_iff]
  exact String.ofList_inj

/-- A name without a keyword in it. -/
theorem unchanged_khlong_toei :
    removeUnwantedDetails " Khlong Toei, Bangkok" = trim " Khlong Toei, Bangkok" :=
  (unchanged_iff_no_keyword " Khlong Toei, Bangkok" (List.all_eq_true.mp rfl)).mpr (by decide)

/-- The words of a name. -/
def wordsOf (s : List Char) : List (List Char) := s.splitOnP fun c => !c.isAlpha

/-- No word of the name is a keyword, but it is damaged. -/
theorem chinatown_damaged :
    (∀ c ∈ "Chinatown".toList, isNameChar c = true) ∧
      (∀ w ∈ wordsOf "Chinatown".toList, ∀ k ∈ englishKeywords,
        w.map canonicalize ≠ k.toList.map canonicalize) ∧
      removeUnwantedDetails "Chinatown" = "China" ∧ trim "Chinatown" = "Chinatown" := by
  have hwords : ((wordsOf "Chinatown".toList).all fun w => englishKeywords.all fun k =>
      w.map canonicalize != k.toList.map canonicalize) = true := rfl
  refine ⟨List.all_eq_true.mp rfl, fun w hw k hk => ?_, by decide, by decide⟩
  exact bne_iff_ne.mp (List.all_eq_true.mp (List.all_eq_true.mp hwords w hw) k hk)

/-! ### What survives a cleaning -/

/-- After a text that does not begin with a word no word begins. -/
theorem isWord_head_delete {s : List Char} (hs : ∀ c ∈ s.head?, isWord c = false) :
    ∀ c ∈ (unwantedRegex.delete n s).head?, isWord c = false := by
  induction s using Pattern.scan (consumes_unwantedRegex n) with
  | nil => exact hs
  | skip m t hm hmatch ih =>
    rw [Pattern.delete_append_of_match hmatch]
    cases removed_of_first hmatch with
    | keyword k a v hk ha hm' ht => exact ih ht
    | number ds es hds hdigits hm' hlength =>
      obtain ⟨d, ds, rfl⟩ := List.exists_cons_of_ne_nil hds
      have hword := hs d (by simp [hm'])
      have hdigit : isWord d = true :=
        (isWord_iff d).mpr (.inr (.inr (.inl (hdigits d (by simp)))))
      rw [hword] at hdigit
      cases hdigit
    | country hm' => exact fun c hc => nomatch hc
  | keep a s hnone ih =>
    rw [Pattern.delete_cons_of_none hnone]
    exact hs

/-- The letters that the result begins with are together in the text, if no match stands before
them. -/
theorem prefix_of_delete {s b c : List Char} (hn : s.length ≤ n)
    (hb : ∀ x ∈ b, isWord x = true) (hnone : unwantedRegex.first n s = none)
    (h : unwantedRegex.delete n s = b ++ c) : b <+: s := by
  induction b generalizing s with
  | nil => exact List.nil_prefix
  | cons x b ih =>
    cases s with
    | nil => cases h
    | cons y s =>
      rw [Pattern.delete_cons_of_none hnone] at h
      obtain ⟨rfl, htail⟩ := List.cons.inj h
      rw [List.prefix_cons_inj]
      rw [List.length_cons] at hn
      cases hmatch : unwantedRegex.first n s with
      | none =>
        exact ih (Nat.le_of_succ_le hn) (fun z hz => hb z (List.mem_cons_of_mem y hz)) hmatch htail
      | some t =>
        -- after a match the next character that is left is not one of a word
        obtain ⟨m, rfl⟩ := Pattern.isSuffix_of_first hmatch
        rw [Pattern.delete_append_of_match hmatch] at htail
        cases b with
        | nil => exact List.nil_prefix
        | cons z b =>
          have hz : isWord z = true := hb z (by simp)
          cases removed_of_first hmatch with
          | keyword k a v hk ha hm' ht =>
            have hhead := isWord_head_delete ht z (by rw [htail]; rfl)
            rw [hz] at hhead
            cases hhead
          | number ds es hds hdigits hm' hlength => omega
          | country hm' => cases htail

/-- The letters that are together in the result are together in the text. -/
theorem infix_of_delete {s a b c : List Char} (hn : s.length ≤ n) (hne : b ≠ [])
    (hb : ∀ x ∈ b, isWord x = true) (h : unwantedRegex.delete n s = a ++ b ++ c) :
    ∃ t, unwantedRegex.first n t = none ∧ b <+: t := by
  induction s using Pattern.scan (consumes_unwantedRegex n) generalizing a with
  | nil =>
    obtain ⟨hab, -⟩ := List.append_eq_nil_iff.mp h.symm
    exact absurd (List.append_eq_nil_iff.mp hab).2 hne
  | skip m t hm hmatch ih =>
    rw [Pattern.delete_append_of_match hmatch] at h
    rw [List.length_append] at hn
    exact ih (Nat.le_trans (Nat.le_add_left _ _) hn) h
  | keep x s hnone ih =>
    cases a with
    | nil => exact ⟨x :: s, hnone, prefix_of_delete hn hb hnone h⟩
    | cons y a =>
      rw [Pattern.delete_cons_of_none hnone] at h
      rw [List.length_cons] at hn
      exact ih (Nat.le_of_succ_le hn) (List.cons.inj h).2

/-- The characters of the English keywords are compared as lower case letters. -/
theorem canonicalize_english : ∀ k ∈ englishKeywords, k.toList ≠ [] ∧
    ∀ c ∈ k.toList.map canonicalize, c.isLower = true :=
  forall_canonicalize rfl

/-- What is compared as an English keyword is made of letters. -/
theorem letters_of_english {k : String} (hk : k ∈ englishKeywords) {b : List Char}
    (hb : b.map canonicalize = k.toList.map canonicalize) :
    b ≠ [] ∧ ∀ c ∈ b, isWord c = true ∧ isDigit c = false := by
  obtain ⟨hne, hlower⟩ := canonicalize_english k hk
  refine ⟨?_, fun c hc => isLetter_of_canonicalize (hlower _ (hb ▸ List.mem_map_of_mem hc))⟩
  rintro rfl
  exact hne (List.map_eq_nil_iff.mp hb.symm)

/-- No English keyword is left. -/
theorem not_occurs_english (s : List Char) {k : String} (hk : k ∈ englishKeywords) :
    ¬ Occurs k (removeUnwanted s) := by
  intro hoccurs
  have hsub := hoccurs.trans ((trimChars_isInfix (unwantedRegex.replaceAll s)).map canonicalize)
  obtain ⟨t, ⟨a, ha⟩, hbegins⟩ := occurs_iff.mp hsub
  obtain ⟨b, c, rfl, hb⟩ := beginsWith_iff.mp hbegins
  obtain ⟨hne, hletters⟩ := letters_of_english hk hb
  obtain ⟨u, hnone, v, rfl⟩ := infix_of_delete (Nat.le_refl _) hne (fun x hx => (hletters x hx).1)
    (ha.symm.trans (List.append_assoc a b c).symm)
  exact (first_unwantedRegex_eq_none.mp hnone).1 k (List.mem_append_right thaiKeywords hk)
    (beginsWith_iff.mpr ⟨b, v, rfl, hb⟩)

/-! ### What a cleaning removes -/

/-- The marks from a place in a match on. -/
theorem drop_marks_of_match {a m t : List Char}
    (h : unwantedRegex.first n (a ++ m ++ t) = some t) :
    (unwantedRegex.marks n (a ++ m ++ t)).drop a.length =
      m.map (·, true) ++ unwantedRegex.marks n t := by
  rw [Pattern.marks_append_of_match h, List.map_append, List.append_assoc,
    List.drop_left' (List.length_map _)]

/-- A match that holds the first letters of an English keyword holds all of them. -/
theorem Removed.letters {a m t b c : List Char} (h : Removed n (a ++ m) t) (hm : m ≠ [])
    (hb : ∀ x ∈ b, isWord x = true ∧ isDigit x = false) (hbc : b ++ c = m ++ t) : b <+: m := by
  rcases List.append_eq_append_iff.mp hbc with ⟨m', rfl, -⟩ | ⟨b', rfl, ht⟩
  · exact List.prefix_append b m'
  cases b' with
  | nil => simp
  | cons x b' =>
    obtain ⟨y, m, rfl⟩ := List.exists_cons_of_ne_nil hm
    cases h with
    | keyword k u v hk hu hm' hhead =>
      have hx := hhead x (by rw [ht]; rfl)
      rw [(hb x (by simp)).1] at hx
      cases hx
    | number ds es hds hdigits hm' hlength =>
      -- a number holds no letters
      obtain ⟨hword, hdigit⟩ := hb y (by simp)
      have hy : y ∈ ds ++ '/' :: es := hm' ▸ List.mem_append_right a List.mem_cons_self
      rcases List.mem_append.mp hy with hy | hy
      · rw [hdigits y (List.mem_append_left es hy)] at hdigit
        cases hdigit
      rcases List.mem_cons.mp hy with rfl | hy
      · exact absurd hword (by decide)
      · rw [hdigits y (List.mem_append_right ds hy)] at hdigit
        cases hdigit
    | country hm' => cases ht

/-- What is removed of an occurrence of a keyword: a part `d` of its beginning that every match into
which it reaches holds. -/
theorem marks_of_occurrence {s a b c d : List Char} {k : String} (hk : k ∈ keywords)
    (hs : s = a ++ (b ++ c)) (hb : b.map canonicalize = k.toList.map canonicalize)
    (hd : ∀ a' m t c', Removed n (a' ++ m) t → m ≠ [] → b ++ c' = m ++ t → d <+: m) :
    ((unwantedRegex.marks n s).drop a.length).take d.length = d.map (·, true) := by
  induction s using Pattern.scan (consumes_unwantedRegex n) generalizing a with
  | nil =>
    obtain ⟨-, hbc⟩ := List.append_eq_nil_iff.mp hs.symm
    rw [(List.append_eq_nil_iff.mp hbc).1] at hb
    exact absurd (List.map_eq_nil_iff.mp hb.symm) (canonicalize_keyword k hk).1
  | skip m t hm hmatch ih =>
    rcases List.append_eq_append_iff.mp hs with ⟨a', rfl, ht⟩ | ⟨m', rfl, hbc⟩
    · rw [Pattern.marks_append_of_match hmatch, List.length_append, ← List.drop_drop,
        List.drop_left' (List.length_map _)]
      exact ih ht
    · rw [drop_marks_of_match hmatch]
      cases m' with
      | nil => exact @ih [] hbc.symm
      | cons x m' =>
        obtain ⟨v, hv⟩ := hd a (x :: m') t c (removed_of_first hmatch) (by simp) hbc
        rw [← hv, List.map_append, List.append_assoc, List.take_left' (List.length_map _)]
  | keep x s hnone ih =>
    cases a with
    | nil =>
      have hbegins : BeginsWith k (x :: s) := beginsWith_iff.mpr ⟨b, c, hs, hb⟩
      exact absurd hbegins ((first_unwantedRegex_eq_none.mp hnone).1 k hk)
    | cons y a =>
      rw [Pattern.marks_cons_of_none hnone, List.length_cons, List.drop_succ_cons]
      exact ih (List.cons.inj hs).2

/-- An occurrence of a keyword does not survive: its first character is removed. -/
theorem head_removed {s a b c : List Char} {k : String} (hk : k ∈ keywords)
    (hs : s = a ++ (b ++ c)) (hb : b.map canonicalize = k.toList.map canonicalize) :
    ((unwantedRegex.marks n s).drop a.length).take 1 = (b.take 1).map (·, true) := by
  cases b with
  | nil => exact absurd (List.map_eq_nil_iff.mp hb.symm) (canonicalize_keyword k hk).1
  | cons x b =>
    refine @marks_of_occurrence n s a (x :: b) c [x] k hk hs hb fun a' m t c' _ hm hbc => ?_
    obtain ⟨y, m, rfl⟩ := List.exists_cons_of_ne_nil hm
    obtain ⟨rfl, -⟩ := List.cons.inj hbc
    exact List.prefix_append [x] m

/-- An occurrence of an English keyword is removed whole. -/
theorem english_removed {s a b c : List Char} {k : String} (hk : k ∈ englishKeywords)
    (hs : s = a ++ (b ++ c)) (hb : b.map canonicalize = k.toList.map canonicalize) :
    ((unwantedRegex.marks n s).drop a.length).take b.length = b.map (·, true) :=
  marks_of_occurrence (List.mem_append_right thaiKeywords hk) hs hb
    fun _ _ _ _ h hm hbc => h.letters hm (letters_of_english hk hb).2 hbc

/-- A cleaned text is left as it is by another cleaning if nothing is found in it. -/
theorem removeUnwanted_removeUnwanted_iff (s : List Char) :
    removeUnwanted (removeUnwanted s) = removeUnwanted s ↔
      (∀ k ∈ thaiKeywords, ¬ Occurs k (removeUnwanted s)) ∧
        ¬ BeginsWithNumber (removeUnwanted s) ∧ ¬ EndsWithThailand (removeUnwanted s) := by
  have htrim : trimChars (removeUnwanted s) = removeUnwanted s := trimChars_trimChars _
  have hclean : removeUnwanted (removeUnwanted s) = removeUnwanted s ↔
      Clean (removeUnwanted s) := by
    rw [← removeUnwanted_eq_trimChars_iff, htrim]
  rw [hclean]
  refine and_congr ⟨fun h k hk => h k (List.mem_append_left englishKeywords hk), fun h k hk => ?_⟩
    Iff.rfl
  rcases List.mem_append.mp hk with hthai | henglish
  · exact h k hthai
  · exact not_occurs_english s henglish

/-- **One cleaning.** No occurrence of a keyword in a text survives: its first character is removed,
and an English one is removed whole. The result holds no English keyword, and is left as it is by
another cleaning exactly if it holds no Thai keyword, does not begin with a number and does not end
with the name of the country. -/
theorem cleaned_text (address : String) :
    (∀ k ∈ keywords, ∀ a b c, address.toList = a ++ (b ++ c) →
      b.map canonicalize = k.toList.map canonicalize →
      ((unwantedRegex.marks address.toList.length address.toList).drop a.length).take 1 =
        (b.take 1).map (·, true)) ∧
    (∀ k ∈ englishKeywords, ∀ a b c, address.toList = a ++ (b ++ c) →
      b.map canonicalize = k.toList.map canonicalize →
      ((unwantedRegex.marks address.toList.length address.toList).drop a.length).take b.length =
        b.map (·, true)) ∧
    (∀ k ∈ englishKeywords, ¬ Occurs k (removeUnwantedDetails address).toList) ∧
    (removeUnwantedDetails (removeUnwantedDetails address) = removeUnwantedDetails address ↔
      (∀ k ∈ thaiKeywords, ¬ Occurs k (removeUnwantedDetails address).toList) ∧
        ¬ BeginsWithNumber (removeUnwantedDetails address).toList ∧
        ¬ EndsWithThailand (removeUnwantedDetails address).toList) := by
  have hresult : (removeUnwantedDetails address).toList = removeUnwanted address.toList :=
    String.toList_ofList
  refine ⟨fun k hk a b c => head_removed hk, fun k hk a b c => english_removed hk,
    fun k hk => ?_, ?_⟩
  · rw [hresult]
    exact not_occurs_english _ hk
  · rw [hresult, ← removeUnwanted_removeUnwanted_iff, removeUnwantedDetails, hresult]
    exact String.ofList_inj

/-- The word is removed with what comes after it. -/
theorem cleaned_city :
    ((unwantedRegex.marks 10 "Rak City 5".toList).drop 4).take 1 = [('C', true)] ∧
      ((unwantedRegex.marks 10 "Rak City 5".toList).drop 4).take 4 =
        "City".toList.map (·, true) ∧
      ¬ Occurs "City" (removeUnwantedDetails "Rak City 5").toList ∧
      removeUnwantedDetails (removeUnwantedDetails "Rak City 5") =
        removeUnwantedDetails "Rak City 5" := by
  obtain ⟨hhead, henglish, hnone, hagain⟩ := cleaned_text "Rak City 5"
  refine ⟨?_, ?_, hnone "City" (by decide), hagain.mpr (by decide)⟩
  · exact hhead "City" (by decide) "Rak ".toList "City".toList " 5".toList (by decide) (by decide)
  · exact henglish "City" (by decide) "Rak ".toList "City".toList " 5".toList (by decide)
      (by decide)

/-- What stands on both sides of a match forms a keyword, which another cleaning removes, and of a
compound keyword the second half is left. -/
theorem keyword_formed :
    removeUnwantedDetails "เขเขตต" = "เขต" ∧ Occurs "เขต" "เขต".toList ∧
      removeUnwantedDetails (removeUnwantedDetails "เขเขตต") = "" ∧
      removeUnwantedDetails "เขตการปกครอง" = "การปกครอง" := by
  decide

end SmartHome.AddressUtils
