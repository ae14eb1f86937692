import SmartHome.Utils.CleanedParts

/-!
# Neat addresses

`getAddress` joins the wanted parts of an address and cleans the joined text. What is left of the
parts stays where it is, with the commas between the parts, and only the ends of the whole text are
trimmed: a part that is lost leaves its comma, and a keyword at the end of a part leaves the blank
before it.

A part of an address may hold commas itself. What counts is the parts of the joined text between its
commas, after the number at the start and the name of the country at the end are gone.

## Main definitions

* `AddressUtils.neat` : a non-empty list of components, joined by commas with a blank.
* `AddressUtils.ownParts` : what is left of the parts of a joined text.
* `AddressUtils.leavesNeat` : what has to be left of them.

## Main results

* `AddressUtils.neat_removeUnwantedDetails` : when a cleaned text is neat.
* `AddressUtils.getAddress_addressJson` : the text for an address with string values.
* `AddressUtils.address_neat_iff` : when `getAddress` returns a neat list.
-/

namespace SmartHome.AddressUtils

open Dart RegExp
open RegExp.Pattern (dropWhile_append_cons intercalate_cons_sep)

variable {n : ℕ}

/-! ### Neat lists -/

/-- The parts of a text between its commas. -/
def partsOf (s : List Char) : List (List Char) := s.splitOn ','

/-- A character that trimming does not remove. -/
def solid (c : Char) : Bool := !isWhiteSpace c

/-- The text begins with something other than a blank, or is empty. -/
def solidStart (s : List Char) : Bool := s.head?.all solid

/-- The text ends with something other than a blank, or is empty. -/
def solidEnd (s : List Char) : Bool := s.getLast?.all solid

/-- The text without the blank of a separator. -/
def dropBlank : List Char → List Char
  | ' ' :: s => s
  | s => s

/-- A component: not empty, and without a blank at its start or its end. -/
def tidy (s : List Char) : Bool := !s.isEmpty && solidStart s && solidEnd s

/-- The parts of a list of components with a comma, and at most one blank, between them. -/
def neatParts : List (List Char) → Bool
  | [] => false
  | q :: qs => tidy q && qs.all fun q => tidy (dropBlank q)

/-- A non-empty list of components. -/
def neat (text : String) : Bool := neatParts (partsOf text.toList)

/-- What has to be left of the parts: something, without a blank at the end before a comma, and
without a blank other than that of the separator after a comma. -/
def leavesNeat (qs : List (List Char)) : Bool :=
  qs.all (fun q => q.any solid) && qs.dropLast.all solidEnd &&
    qs.tail.all fun q => solidStart (dropBlank q)

theorem any_solid_dropWhile (q : List Char) :
    (q.dropWhile isWhiteSpace).any solid = q.any solid := by
  induction q with
  | nil => rfl
  | cons c q ih =>
    cases hc : isWhiteSpace c with
    | true => rw [List.dropWhile_cons_of_pos hc, ih, List.any_cons, solid, hc]; rfl
    | false => rw [List.dropWhile_cons_of_neg (by simp [hc])]

theorem any_solid_rdropWhile (q : List Char) :
    (q.rdropWhile isWhiteSpace).any solid = q.any solid := by
  rw [List.rdropWhile, List.any_reverse, any_solid_dropWhile, List.any_reverse]

theorem solidStart_dropWhile (q : List Char) : solidStart (q.dropWhile isWhiteSpace) = true := by
  rw [solidStart, Option.all_eq_true]
  intro c hc
  have h := List.head?_dropWhile_not isWhiteSpace q
  rw [hc] at h
  rw [solid, h]
  rfl

theorem solidEnd_rdropWhile (q : List Char) : solidEnd (q.rdropWhile isWhiteSpace) = true := by
  rw [solidEnd, List.rdropWhile, List.getLast?_reverse]
  exact solidStart_dropWhile q.reverse

theorem solidEnd_dropWhile {q : List Char} (hq : q.any solid = true) :
    solidEnd (q.dropWhile isWhiteSpace) = solidEnd q := by
  have hne : q.dropWhile isWhiteSpace ≠ [] := by
    intro h
    rw [← any_solid_dropWhile, h] at hq
    cases hq
  have hlast : q.getLast? = (q.dropWhile isWhiteSpace).getLast? := by
    conv_lhs => rw [← @List.takeWhile_append_dropWhile _ isWhiteSpace q]
    rw [List.getLast?_append, List.getLast?_eq_some_getLast hne, Option.some_or]
  rw [solidEnd, solidEnd, hlast]

theorem tidy_eq (q : List Char) : tidy q = (q.any solid && solidEnd q && solidStart q) := by
  cases q with
  | nil => rfl
  | cons c q =>
    simp only [tidy, solidStart, List.head?_cons, Option.all_some, List.any_cons]
    cases solid c <;> simp

theorem dropBlank_cons {c : Char} (hc : c ≠ ' ') (s : List Char) : dropBlank (c :: s) = c :: s := by
  unfold dropBlank
  split
  · next h => exact absurd (List.cons.inj h).1 hc
  · rfl

/-- The blank of a separator is not the end of a part. -/
theorem tidy_dropBlank (q : List Char) :
    tidy (dropBlank q) = (q.any solid && solidEnd q && solidStart (dropBlank q)) := by
  unfold dropBlank
  split
  · next s =>
    rw [tidy_eq, List.any_cons, show solid ' ' = false from by decide, Bool.false_or]
    cases s with
    | nil => rfl
    | cons c s => rw [solidEnd, solidEnd, List.getLast?_cons_cons]
  · exact tidy_eq q

theorem solidStart_dropBlank_rdropWhile {q : List Char} (hq : q.any solid = true) :
    solidStart (dropBlank (q.rdropWhile isWhiteSpace)) = solidStart (dropBlank q) := by
  rw [← any_solid_rdropWhile] at hq
  obtain ⟨w, hw⟩ := List.rdropWhile_prefix isWhiteSpace q
  generalize q.rdropWhile isWhiteSpace = p at hq hw
  subst hw
  cases p with
  | nil => cases hq
  | cons c p =>
    by_cases hc : c = ' '
    · subst hc
      cases p with
      | nil => exact absurd hq (by decide)
      | cons d p => rfl
    · rw [List.cons_append, dropBlank_cons hc, dropBlank_cons hc]
      rfl

/-- The parts of a text that is trimmed at its end. -/
def trimLast : List (List Char) → List (List Char)
  | [] => []
  | [q] => [q.rdropWhile isWhiteSpace]
  | q :: q' :: qs => q :: trimLast (q' :: qs)

theorem mem_trimLast {q : List Char} {qs : List (List Char)} (h : q ∈ trimLast qs) :
    ∃ q' ∈ qs, q <:+: q' := by
  induction qs with
  | nil => cases h
  | cons q' qs ih =>
    cases qs with
    | nil =>
      obtain rfl := List.mem_singleton.mp h
      exact ⟨q', List.mem_cons_self, (List.rdropWhile_prefix _ _).isInfix⟩
    | cons q'' qs =>
      rcases List.mem_cons.mp h with rfl | h
      · exact ⟨q, List.mem_cons_self, List.infix_rfl⟩
      · obtain ⟨r, hr, hsub⟩ := ih h
        exact ⟨r, List.mem_cons_of_mem q' hr, hsub⟩

/-- The components after the first one. -/
theorem tidy_trimLast (qs : List (List Char)) :
    ((trimLast qs).all fun q => tidy (dropBlank q)) =
      (qs.all (fun q => q.any solid) && qs.dropLast.all solidEnd &&
        qs.all fun q => solidStart (dropBlank q)) := by
  induction qs with
  | nil => rfl
  | cons q qs ih =>
    cases qs with
    | nil =>
      simp only [trimLast, List.all_cons, List.all_nil, List.dropLast_singleton, Bool.and_true,
        tidy_dropBlank, any_solid_rdropWhile, solidEnd_rdropWhile]
      cases hq : q.any solid with
      | false => rfl
      | true => rw [solidStart_dropBlank_rdropWhile hq]
    | cons q' qs =>
      have hall (p : List Char → Bool) : (q :: q' :: qs).all p = (p q && (q' :: qs).all p) := rfl
      have hlast : (q :: (q' :: qs).dropLast).all solidEnd =
          (solidEnd q && (q' :: qs).dropLast.all solidEnd) := rfl
      rw [trimLast, List.all_cons, ih, tidy_dropBlank, List.dropLast_cons_cons, hall, hall, hlast]
      ac_rfl

theorem dropWhile_intercalate (q : List Char) (qs : List (List Char)) :
    ([','].intercalate (q :: qs)).dropWhile isWhiteSpace =
      [','].intercalate (q.dropWhile isWhiteSpace :: qs) := by
  cases qs with
  | nil => simp
  | cons q' qs =>
    rw [intercalate_cons_sep, intercalate_cons_sep, dropWhile_append_cons (by decide)]

theorem rdropWhile_intercalate (qs : List (List Char)) :
    ([','].intercalate qs).rdropWhile isWhiteSpace = [','].intercalate (trimLast qs) := by
  induction qs with
  | nil => rfl
  | cons q qs ih =>
    cases qs with
    | nil => simp [trimLast]
    | cons q' qs =>
      have hne : ∃ p ps, trimLast (q' :: qs) = p :: ps := by cases qs <;> exact ⟨_, _, rfl⟩
      obtain ⟨p, ps, hps⟩ := hne
      rw [intercalate_cons_sep, List.rdropWhile, List.reverse_append, List.reverse_cons,
        List.append_assoc, List.singleton_append, dropWhile_append_cons (by decide),
        List.reverse_append, List.reverse_cons, List.reverse_reverse, List.append_assoc,
        List.singleton_append, trimLast, hps, intercalate_cons_sep, ← hps, ← ih]
      rfl

/-- A list of parts is neat, once it is trimmed, if what the parts hold is. -/
theorem neatParts_trimChars {qs : List (List Char)} (hne : qs ≠ []) (hcomma : ∀ q ∈ qs, ',' ∉ q) :
    neatParts (partsOf (trimChars ([','].intercalate qs))) = leavesNeat qs := by
  obtain ⟨q, qs, rfl⟩ := List.exists_cons_of_ne_nil hne
  have hparts : partsOf (trimChars ([','].intercalate (q :: qs))) =
      trimLast (q.dropWhile isWhiteSpace :: qs) := by
    rw [trimChars_eq, dropWhile_intercalate, rdropWhile_intercalate]
    refine List.splitOn_intercalate ',' (fun p hp hmem => ?_) ?_
    · obtain ⟨p', hp', hsub⟩ := mem_trimLast hp
      rcases List.mem_cons.mp hp' with rfl | hp'
      · exact hcomma q List.mem_cons_self
          ((List.dropWhile_suffix _).mem (hsub.mem hmem))
      · exact hcomma p' (List.mem_cons_of_mem q hp') (hsub.mem hmem)
    · cases qs <;> exact List.cons_ne_nil _ _
  rw [hparts]
  cases qs with
  | nil =>
    have hstart : solidStart (trimChars q) = true := by
      have hdrop : (trimChars q).dropWhile isWhiteSpace = trimChars q :=
        dropWhile_rdropWhile _ (List.dropWhile_idempotent _ _)
      rw [← hdrop]
      exact solidStart_dropWhile _
    rw [trimLast, ← trimChars_eq, neatParts, tidy_eq, hstart, trimChars_eq, any_solid_rdropWhile,
      any_solid_dropWhile, solidEnd_rdropWhile]
    simp [leavesNeat]
  | cons q' qs =>
    rw [trimLast, neatParts, tidy_trimLast, tidy_eq, any_solid_dropWhile, solidStart_dropWhile]
    cases hq : q.any solid with
    | false => simp [leavesNeat, hq]
    | true =>
      rw [solidEnd_dropWhile hq]
      simp [leavesNeat, hq, Bool.and_assoc, Bool.and_left_comm]

/-! ### `getAddress` -/

/-- What is left of the parts of a joined address: without a number at its start and the name of the
country at its end, each part without its own keywords. -/
def ownParts (joined : List Char) : List (List Char) :=
  (partsOf (countryRegex.replaceAll (numberRegex.replaceAll joined))).map keywordRegex.replaceAll

theorem delete_intercalate (cs : List (List Char)) :
    keywordRegex.delete n ([','].intercalate cs) =
      [','].intercalate (cs.map (keywordRegex.delete n)) :=
  Pattern.delete_intercalate (consumes_keywordRegex n) barrier_keywordRegex (fun _ => rfl) cs

theorem replaceAll_unwantedRegex_eq_intercalate (joined : List Char) :
    unwantedRegex.replaceAll joined = [','].intercalate (ownParts joined) := by
  rw [replaceAll_unwantedRegex, ownParts]
  generalize countryRegex.replaceAll (numberRegex.replaceAll joined) = s
  have hsame (k : ℕ) (t : List Char) : keywordRegex.delete k t = keywordRegex.replaceAll t :=
    Pattern.delete_congr fun u _ => first_keywordRegex_eq _ u
  have hs : [','].intercalate (partsOf s) = s := List.intercalate_splitOn ','
  calc keywordRegex.replaceAll s
      = keywordRegex.delete 0 ([','].intercalate (partsOf s)) := by rw [hs, hsame]
    _ = [','].intercalate ((partsOf s).map (keywordRegex.delete 0)) := delete_intercalate _
    _ = _ := by rw [List.map_congr_left fun t _ => hsame 0 t]

theorem comma_notMem_partsOf {s q : List Char} (h : q ∈ partsOf s) : ',' ∉ q := by
  induction s generalizing q with
  | nil =>
    obtain rfl := List.mem_singleton.mp h
    exact List.not_mem_nil
  | cons c s ih =>
    obtain ⟨p, ps, hps⟩ := List.exists_cons_of_ne_nil (List.splitOn_ne_nil ',' s)
    rw [partsOf, hps] at ih
    rw [partsOf, List.splitOn_cons_eq_if_modifyHead, hps] at h
    by_cases hc : c = ','
    · rw [if_pos (by simp [hc])] at h
      rcases List.mem_cons.mp h with rfl | h
      · exact List.not_mem_nil
      · exact ih h
    · rw [if_neg (by simpa using hc), List.modifyHead_cons] at h
      rcases List.mem_cons.mp h with rfl | h
      · exact fun hmem => (List.mem_cons.mp hmem).elim (fun h => hc h.symm) (ih List.mem_cons_self)
      · exact ih (List.mem_cons_of_mem p h)

/-- A cleaned text is neat if what is left of its parts is. -/
theorem neat_removeUnwantedDetails (address : String) :
    neat (removeUnwantedDetails address) = leavesNeat (ownParts address.toList) := by
  rw [neat, removeUnwantedDetails, String.toList_ofList, removeUnwanted,
    replaceAll_unwantedRegex_eq_intercalate]
  refine neatParts_trimChars (by simp [ownParts, partsOf]) fun q hq hcomma => ?_
  obtain ⟨p, hp, rfl⟩ := List.mem_map.mp hq
  exact comma_notMem_partsOf hp
    ((Pattern.delete_sublist (consumes_keywordRegex _) p).mem hcomma)

/-- The JSON of an address with string values. -/
def addressJson (address : List (String × String)) : Dyn :=
  .map (address.map fun e => (e.1, .str e.2))

/-- The wanted parts that an address has. -/
def wantedParts (wanted : Wanted) (address : List (String × String)) : List String :=
  wanted.keys.filterMap fun key => if key.1 then address.lookup key.2 else none

theorem lookup_addressJson (address : List (String × String)) (key : String) :
    (address.map fun e => (e.1, Dyn.str e.2)).lookup key = (address.lookup key).map .str := by
  induction address with
  | nil => rfl
  | cons e address ih =>
    rw [List.map_cons, List.lookup_cons, List.lookup_cons, ih]
    cases key == e.1 <;> rfl

/-- A part of an address with string values. -/
theorem part_addressJson (address : List (String × String)) (key : Bool × String) :
    part (addressJson address) key =
      .ok ((if key.1 then address.lookup key.2 else none).elim .null .str) := by
  obtain ⟨wanted, key⟩ := key
  cases wanted with
  | false => rfl
  | true =>
    simp only [part, addressJson, containsKey, Dyn.index, lookup_addressJson, if_true]
    cases address.lookup key <;> rfl

theorem texts_of_parts {α : Type} (f : α → Option String) (keys : List α) :
    ((keys.map fun key => (f key).elim Dyn.null .str).filter isNotNull).map Dyn.text =
      keys.filterMap f := by
  induction keys with
  | nil => rfl
  | cons key keys ih =>
    cases h : f key with
    | none =>
      rw [List.filterMap_cons_none h, ← ih, List.map_cons, h]
      rfl
    | some s =>
      rw [List.filterMap_cons_some h, ← ih, List.map_cons, h]
      rfl

/-- The text for an address with string values. -/
theorem getAddress_addressJson (wanted : Wanted) {entries : List (String × Dyn)}
    {address : List (String × String)}
    (h : (entries.lookup "address").getD .null = addressJson address) :
    getAddress wanted (.response 200 (.ok (.map entries))) =
      .ok (removeUnwantedDetails (joinParts (wantedParts wanted address))) := by
  have hparts : wanted.keys.mapM (part (addressJson address)) = .ok (wanted.keys.map fun key =>
      (if key.1 then address.lookup key.2 else none).elim .null .str) := by
    rw [funext (part_addressJson address)]
    exact List.mapM_pure
  have htexts := texts_of_parts
    (fun key : Bool × String => if key.1 then address.lookup key.2 else none) wanted.keys
  simp only [getAddress, if_true, ok_bind, Dyn.index, h, hparts]
  rw [if_pos (show isNotNull (addressJson address) = true from rfl), htexts]
  rfl

/-- **Neat addresses.** For every reply with a status other than 200, or with a JSON map in which
the address is missing or has string values, `getAddress` returns its text for a failure or a neat
list exactly if there is no address, or what is left of its wanted parts is neat. -/
theorem address_neat_iff (wanted : Wanted) (status : ℕ) (body : Except Error Dyn)
    (address : Option (List (String × String)))
    (hbody : status = 200 → ∃ entries, body = .ok (.map entries) ∧
      (entries.lookup "address").getD .null = address.elim .null addressJson) :
    ∃ text, getAddress wanted (.response status body) = .ok text ∧
      (text = "Unable to fetch address" ∨ neat text = true ↔
        status ≠ 200 ∨ address = none ∨ ∃ a, address = some a ∧
          leavesNeat (ownParts (joinParts (wantedParts wanted a)).toList) = true) := by
  by_cases hstatus : status = 200
  · obtain ⟨entries, rfl, hentries⟩ := hbody hstatus
    subst hstatus
    cases address with
    | none =>
      refine ⟨"Unable to fetch address", ?_, by simp⟩
      simp only [getAddress, if_true, ok_bind, Dyn.index, hentries]
      rfl
    | some a =>
      refine ⟨_, getAddress_addressJson wanted hentries, ?_⟩
      have hfailure : removeUnwantedDetails (joinParts (wantedParts wanted a)) =
          "Unable to fetch address" →
          neat (removeUnwantedDetails (joinParts (wantedParts wanted a))) = true := by
        intro h
        rw [h]
        decide
      rw [or_iff_right_of_imp hfailure, neat_removeUnwantedDetails]
      simp
  · refine ⟨"Unable to fetch address", ?_, by simp [hstatus]⟩
    rw [getAddress, if_neg hstatus]
    rfl

/-- The parts of an address in which no keyword stands at an end. -/
theorem address_neat_lumphini :
    ∃ text, getAddress { suburb := true, city := true } (.response 200 (.ok (.map [("address",
        addressJson [("suburb", "Lumphini"), ("city", "Bangkok")])]))) = .ok text ∧
      (text = "Unable to fetch address" ∨ neat text = true) := by
  obtain ⟨text, htext, hneat⟩ := address_neat_iff { suburb := true, city := true } 200
    (.ok (.map [("address", addressJson [("suburb", "Lumphini"), ("city", "Bangkok")])]))
    (some [("suburb", "Lumphini"), ("city", "Bangkok")]) fun _ => ⟨_, rfl, rfl⟩
  exact ⟨text, htext, hneat.mpr (.inr (.inr ⟨_, rfl, by decide⟩))⟩

/-- The blank before a keyword at the end of a part is left, a part may be lost altogether, and so
may all of them. -/
theorem address_not_neat :
    (getAddress { suburb := true, city := true } (.response 200 (.ok (.map [("address",
        addressJson [("suburb", "Pathum Wan District"), ("city", "Bangkok")])]))) =
      .ok "Pathum Wan , Bangkok" ∧ neat "Pathum Wan , Bangkok" = false) ∧
    (getAddress { city := true, country := true } (.response 200 (.ok (.map [("address",
        addressJson [("city", "City"), ("country", "Thailand")])]))) = .ok ", Thailand" ∧
      neat ", Thailand" = false) ∧
    getAddress { quarter := true, suburb := true } (.response 200 (.ok (.map [("address",
        addressJson [("city", "Bangkok")])]))) = .ok "" ∧ neat "" = false :=
  ⟨⟨rfl, by decide⟩, ⟨rfl, by decide +kernel⟩, rfl, by decide +kernel⟩

end SmartHome.AddressUtils
