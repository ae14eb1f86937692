import Mathlib.Data.List.Infix
import Mathlib.Data.List.TakeDrop

/-!
# Backtracking regular expressions

A pattern is matched by a backtracking search: the first alternative comes first, and a quantifier
takes as many characters as it can before it gives some back. The search is described by the list of
all that can remain of a text after a match, in the order in which the search comes to it; the match
that is found is the first of the list. Classes of characters are quantified, not whole patterns.

The anchor `^` holds at the start of the whole text, which is told by the length `n` of that text.

`delete` replaces all matches by nothing: the text is scanned from the left, and the scan goes on
after a match, or after the next character where there is none.

## Main definitions

* `RegExp.Pattern`, with `RegExp.Pattern.ends` and `RegExp.Pattern.first`.
* `RegExp.Pattern.hasMatch` : whether there is a match in a text.
* `RegExp.Pattern.marksFrom` : the characters of a text, each with whether a match covers it.
* `RegExp.Pattern.delete`, `RegExp.Pattern.replaceAll` : the text without its matches.
* `RegExp.Pattern.Barrier` : a character that no match depends on.

## Main results

* `RegExp.Pattern.mem_ends_many1_seq`, `RegExp.Pattern.hasMatch_atStart_seq` : where there is a
  match.
* `RegExp.Pattern.first_seq_of_total`, `RegExp.Pattern.first_many_seq` : where the search does not
  have to come back.
* `RegExp.Pattern.scan` : induction along the scan.
* `RegExp.Pattern.delete_eq_self_iff` : the texts without a match.
* `RegExp.Pattern.delete_barrier` : the texts between barriers are scanned each on its own.
-/

namespace RegExp

variable {α β : Type*}

/-- A pattern. `many p` is a greedy quantifier on the class of the characters with `p`. -/
inductive Pattern (α : Type*) where
  | empty
  | chr (p : α → Bool)
  | seq (r s : Pattern α)
  | alt (r s : Pattern α)
  | many (p : α → Bool)
  | atStart
  | atEnd

namespace Pattern

/-- What can remain after characters with `p`, the longest match first. -/
def manyEnds (p : α → Bool) : List α → List (List α)
  | [] => [[]]
  | a :: s => if p a then manyEnds p s ++ [a :: s] else [a :: s]

/-- What can remain of `s`, at the end of a text of length `n`, after a match. -/
def ends (n : ℕ) : Pattern α → List α → List (List α)
  | .empty, s => [s]
  | .chr _, [] => []
  | .chr p, a :: s => if p a then [s] else []
  | .seq r t, s => (r.ends n s).flatMap (t.ends n)
  | .alt r t, s => r.ends n s ++ t.ends n s
  | .many p, s => manyEnds p s
  | .atStart, s => if s.length = n then [s] else []
  | .atEnd, s => if s.isEmpty then [s] else []

/-- What remains after the match that is found. -/
def first (n : ℕ) (r : Pattern α) (s : List α) : Option (List α) := (r.ends n s).head?

/-- The pattern `r?`, which prefers a match of `r`. -/
def opt (r : Pattern α) : Pattern α := .alt r .empty

/-- The pattern `p+` of a class. -/
def many1 (p : α → Bool) : Pattern α := .seq (.chr p) (.many p)

/-- Alternatives, the first one preferred. -/
def alts : List (Pattern α) → Pattern α
  | [] => .chr fun _ => false
  | r :: rs => .alt r (alts rs)

/-- The characters of a word, compared in their canonical form. -/
def literal [DecidableEq β] (canonicalize : α → β) : List α → Pattern α
  | [] => .empty
  | a :: word => .seq (.chr fun b => canonicalize b = canonicalize a) (literal canonicalize word)

/-- A pattern that holds `^`. -/
def hasStart : Pattern α → Bool
  | .seq r s | .alt r s => r.hasStart || s.hasStart
  | .atStart => true
  | _ => false

/-! ### The search, case by case -/

section Equations

variable (n : ℕ) (p : α → Bool) (r t : Pattern α) (a : α) (s : List α)

theorem manyEnds_cons :
    manyEnds p (a :: s) = if p a then manyEnds p s ++ [a :: s] else [a :: s] := rfl

theorem ends_chr_cons : (Pattern.chr p).ends n (a :: s) = if p a then [s] else [] := rfl

theorem ends_seq : (Pattern.seq r t).ends n s = (r.ends n s).flatMap (t.ends n) := rfl

theorem ends_alt : (Pattern.alt r t).ends n s = r.ends n s ++ t.ends n s := rfl

theorem ends_atStart : (Pattern.atStart : Pattern α).ends n s = if s.length = n then [s] else [] :=
  rfl

theorem ends_atEnd : (Pattern.atEnd : Pattern α).ends n s = if s.isEmpty then [s] else [] := rfl

theorem first_eq : r.first n s = (r.ends n s).head? := rfl

theorem literal_cons [DecidableEq β] (canonicalize : α → β) (word : List α) :
    literal canonicalize (a :: word) =
      .seq (.chr fun b => canonicalize b = canonicalize a) (literal canonicalize word) := rfl

end Equations

/-! ### What remains -/

/-- Without `^` it does not matter what comes before. -/
theorem ends_eq_of_hasStart {r : Pattern α} (hr : r.hasStart = false) (n k : ℕ) (s : List α) :
    r.ends n s = r.ends k s := by
  induction r generalizing s with
  | empty | many | atEnd => rfl
  | chr => cases s <;> rfl
  | seq r t ihr iht =>
    obtain ⟨hr, ht⟩ := Bool.or_eq_false_iff.mp hr
    rw [ends_seq, ends_seq, ihr hr, funext (iht ht)]
  | alt r t ihr iht =>
    obtain ⟨hr, ht⟩ := Bool.or_eq_false_iff.mp hr
    rw [ends_alt, ends_alt, ihr hr, iht ht]
  | atStart => cases hr

theorem first_eq_of_hasStart {r : Pattern α} (hr : r.hasStart = false) (n k : ℕ) (s : List α) :
    r.first n s = r.first k s := by
  rw [first_eq, first_eq, ends_eq_of_hasStart hr n k]

theorem hasStart_literal [DecidableEq β] (canonicalize : α → β) (word : List α) :
    (literal canonicalize word).hasStart = false := by
  induction word with
  | nil => rfl
  | cons a word ih => exact ih

theorem hasStart_alts {rs : List (Pattern α)} (h : ∀ r ∈ rs, r.hasStart = false) :
    (alts rs).hasStart = false := by
  induction rs with
  | nil => rfl
  | cons r rs ih =>
    change (r.hasStart || (alts rs).hasStart) = false
    rw [h r List.mem_cons_self, Bool.false_or]
    exact ih fun r' hr' => h r' (List.mem_cons_of_mem r hr')

/-- What can remain after characters of a class. -/
theorem mem_manyEnds {p : α → Bool} {s t : List α} :
    t ∈ manyEnds p s ↔ ∃ m, s = m ++ t ∧ ∀ a ∈ m, p a = true := by
  induction s with
  | nil => simp [manyEnds]
  | cons a s ih =>
    rw [manyEnds_cons]
    constructor
    · intro h
      split at h
      · next ha =>
        rcases List.mem_append.mp h with h | h
        · obtain ⟨m, rfl, hm⟩ := ih.mp h
          exact ⟨a :: m, rfl, List.forall_mem_cons.mpr ⟨ha, hm⟩⟩
        · exact ⟨[], (List.mem_singleton.mp h).symm, List.forall_mem_nil _⟩
      · exact ⟨[], (List.mem_singleton.mp h).symm, List.forall_mem_nil _⟩
    · rintro ⟨m, hs, hm⟩
      cases m with
      | nil =>
        obtain rfl : a :: s = t := hs
        split
        · exact List.mem_append_right _ (List.mem_singleton_self _)
        · exact List.mem_singleton_self _
      | cons b m =>
        obtain ⟨rfl, rfl⟩ := List.cons.inj hs
        obtain ⟨ha, hm⟩ := List.forall_mem_cons.mp hm
        rw [if_pos ha]
        exact List.mem_append_left _ (ih.mpr ⟨m, rfl, hm⟩)

theorem isSuffix_of_mem_ends {n : ℕ} {r : Pattern α} {s t : List α} (h : t ∈ r.ends n s) :
    t <:+ s := by
  induction r generalizing s t with
  | empty => exact List.mem_singleton.mp h ▸ List.suffix_rfl
  | chr p =>
    cases s with
    | nil => cases h
    | cons a s =>
      rw [ends_chr_cons] at h
      split at h
      · exact List.mem_singleton.mp h ▸ List.suffix_cons a s
      · cases h
  | seq r u ihr ihu =>
    obtain ⟨v, hv, ht⟩ := List.mem_flatMap.mp h
    exact (ihu ht).trans (ihr hv)
  | alt r u ihr ihu =>
    rcases List.mem_append.mp h with h | h
    · exact ihr h
    · exact ihu h
  | many p =>
    obtain ⟨m, rfl, -⟩ := mem_manyEnds.mp h
    exact List.suffix_append m t
  | atStart =>
    rw [ends_atStart] at h
    split at h
    · exact List.mem_singleton.mp h ▸ List.suffix_rfl
    · cases h
  | atEnd =>
    rw [ends_atEnd] at h
    split at h
    · exact List.mem_singleton.mp h ▸ List.suffix_rfl
    · cases h

theorem isSuffix_of_first {n : ℕ} {r : Pattern α} {s t : List α} (h : r.first n s = some t) :
    t <:+ s :=
  isSuffix_of_mem_ends (List.mem_of_head? h)

/-! ### Where there is a match -/

theorem mem_ends_chr_seq {n : ℕ} {p : α → Bool} {r : Pattern α} {s t : List α} :
    t ∈ (Pattern.seq (.chr p) r).ends n s ↔ ∃ a s', s = a :: s' ∧ p a = true ∧ t ∈ r.ends n s' := by
  cases s with
  | nil => simp [ends]
  | cons a s =>
    rw [ends_seq, ends_chr_cons]
    cases ha : p a <;> simp [ha]

theorem mem_ends_many1 {n : ℕ} {p : α → Bool} {s t : List α} :
    t ∈ (many1 p).ends n s ↔ ∃ m, m ≠ [] ∧ s = m ++ t ∧ ∀ a ∈ m, p a = true := by
  rw [many1, mem_ends_chr_seq]
  constructor
  · rintro ⟨a, s, rfl, ha, ht⟩
    obtain ⟨m, rfl, hm⟩ := mem_manyEnds.mp ht
    exact ⟨a :: m, List.cons_ne_nil a m, rfl, List.forall_mem_cons.mpr ⟨ha, hm⟩⟩
  · rintro ⟨m, hne, rfl, hm⟩
    cases m with
    | nil => exact absurd rfl hne
    | cons a m =>
      obtain ⟨ha, hm⟩ := List.forall_mem_cons.mp hm
      exact ⟨a, m ++ t, rfl, ha, mem_manyEnds.mpr ⟨m, rfl, hm⟩⟩

theorem mem_ends_many1_seq {n : ℕ} {p : α → Bool} {r : Pattern α} {s t : List α} :
    t ∈ (Pattern.seq (many1 p) r).ends n s ↔
      ∃ m s', m ≠ [] ∧ s = m ++ s' ∧ (∀ a ∈ m, p a = true) ∧ t ∈ r.ends n s' := by
  rw [ends_seq, List.mem_flatMap]
  constructor
  · rintro ⟨s', hs', ht⟩
    obtain ⟨m, hne, hs, hm⟩ := mem_ends_many1.mp hs'
    exact ⟨m, s', hne, hs, hm, ht⟩
  · rintro ⟨m, s', hne, hs, hm, ht⟩
    exact ⟨s', mem_ends_many1.mpr ⟨m, hne, hs, hm⟩, ht⟩

/-- There is a match somewhere in the text. -/
def hasMatch (r : Pattern α) (s : List α) : Bool :=
  s.tails.any fun t => !(r.ends s.length t).isEmpty

theorem hasMatch_iff {r : Pattern α} {s : List α} :
    r.hasMatch s = true ↔ ∃ t, t <:+ s ∧ ∃ u, u ∈ r.ends s.length t := by
  simp only [hasMatch, List.any_eq_true, List.mem_tails, Bool.not_eq_true',
    List.isEmpty_eq_false_iff, ne_eq, List.eq_nil_iff_forall_not_mem, not_forall, not_not]

/-- With `^` in front, a match begins at the start. -/
theorem hasMatch_atStart_seq {r : Pattern α} {s : List α} :
    (Pattern.seq .atStart r).hasMatch s = true ↔ ∃ u, u ∈ r.ends s.length s := by
  rw [hasMatch_iff]
  constructor
  · rintro ⟨t, ht, u, hu⟩
    obtain ⟨v, hv, hu⟩ := List.mem_flatMap.mp hu
    rw [ends_atStart] at hv
    split at hv
    · next hlength =>
      rw [List.mem_singleton.mp hv, ht.eq_of_length hlength] at hu
      exact ⟨u, hu⟩
    · cases hv
  · rintro ⟨u, hu⟩
    refine ⟨s, List.suffix_rfl, u, List.mem_flatMap.mpr ⟨s, ?_, hu⟩⟩
    rw [ends_atStart, if_pos rfl]
    exact List.mem_singleton_self s

/-! ### The match that is found -/

variable (n : ℕ)

theorem first_alt (r t : Pattern α) (s : List α) :
    (Pattern.alt r t).first n s = (r.first n s).or (t.first n s) := List.head?_append

theorem first_alts (rs : List (Pattern α)) (s : List α) :
    (alts rs).first n s = rs.findSome? fun r => r.first n s := by
  induction rs with
  | nil => cases s <;> rfl
  | cons r rs ih =>
    refine (first_alt n r (alts rs) s).trans ?_
    rw [ih, List.findSome?_cons]
    cases r.first n s <;> rfl

theorem first_chr_seq (p : α → Bool) (r : Pattern α) (a : α) (s : List α) :
    (Pattern.seq (.chr p) r).first n (a :: s) = if p a then r.first n s else none := by
  rw [first_eq, ends_seq, ends_chr_cons]
  split
  · rw [List.flatMap_singleton, first_eq]
  · rfl

theorem first_chr_seq_nil (p : α → Bool) (r : Pattern α) :
    (Pattern.seq (.chr p) r).first n [] = none := rfl

theorem first_opt_seq (r t : Pattern α) (s : List α) :
    (Pattern.seq (opt r) t).first n s = ((Pattern.seq r t).first n s).or (t.first n s) := by
  rw [first_eq, ends_seq, opt, ends_alt, List.flatMap_append, List.head?_append]
  exact congrArg (Option.or _ <| List.head? ·) (List.flatMap_singleton (t.ends n) s)

theorem first_atStart_seq (r : Pattern α) (s : List α) :
    (Pattern.seq .atStart r).first n s = if s.length = n then r.first n s else none := by
  rw [first_eq, ends_seq, ends_atStart]
  split
  · rw [List.flatMap_singleton, first_eq]
  · rfl

theorem first_many (p : α → Bool) (s : List α) :
    (Pattern.many p).first n s = some (s.dropWhile p) := by
  change (manyEnds p s).head? = _
  induction s with
  | nil => rfl
  | cons a s ih =>
    rw [manyEnds_cons]
    cases ha : p a with
    | true => rw [if_pos rfl, List.head?_append, ih, List.dropWhile_cons_of_pos ha, Option.some_or]
    | false => rw [if_neg (by simp), List.dropWhile_cons_of_neg (by simp [ha]), List.head?_cons]

/-- Where the second pattern always matches, the search does not come back to the first one. -/
theorem first_seq_of_total (r : Pattern α) {t : Pattern α} (ht : ∀ s, t.first n s ≠ none)
    (s : List α) : (Pattern.seq r t).first n s = (r.first n s).bind (t.first n) := by
  rw [first_eq, ends_seq, first_eq]
  cases r.ends n s with
  | nil => rfl
  | cons u us =>
    obtain ⟨v, hv⟩ := Option.ne_none_iff_exists'.mp (ht u)
    rw [List.flatMap_cons, List.head?_append, List.head?_cons, Option.bind_some]
    exact (congrArg (Option.or · _) hv).trans hv.symm

/-- Where the second pattern does not match at a character of the class, all of the class that comes
next is taken. -/
theorem first_many_seq (p : α → Bool) {r : Pattern α}
    (hr : ∀ a s, p a = true → r.ends n (a :: s) = []) (s : List α) :
    (Pattern.seq (.many p) r).first n s = r.first n (s.dropWhile p) := by
  change ((manyEnds p s).flatMap (r.ends n)).head? = (r.ends n (s.dropWhile p)).head?
  induction s with
  | nil => exact congrArg List.head? (List.flatMap_singleton (r.ends n) [])
  | cons a s ih =>
    rw [manyEnds_cons]
    cases ha : p a with
    | true =>
      rw [if_pos rfl, List.flatMap_append, List.flatMap_singleton, hr a s ha, List.append_nil, ih,
        List.dropWhile_cons_of_pos ha]
    | false =>
      rw [if_neg (by simp), List.flatMap_singleton, List.dropWhile_cons_of_neg (by simp [ha])]

section Literal

variable [DecidableEq β] (canonicalize : α → β)

/-- A literal matches the texts that begin with its word. -/
theorem first_literal_eq_some {word s t : List α} :
    (literal canonicalize word).first n s = some t ↔
      ∃ m, s = m ++ t ∧ m.map canonicalize = word.map canonicalize := by
  induction word generalizing s with
  | nil =>
    constructor
    · intro h
      exact ⟨[], Option.some.inj h, rfl⟩
    · rintro ⟨m, rfl, hm⟩
      rw [List.map_eq_nil_iff.mp hm]
      rfl
  | cons a word ih =>
    cases s with
    | nil =>
      rw [literal_cons, first_chr_seq_nil]
      constructor
      · rintro ⟨⟩
      · rintro ⟨m, hs, hm⟩
        rw [(List.append_eq_nil_iff.mp hs.symm).1] at hm
        cases hm
    | cons b s =>
      rw [literal_cons, first_chr_seq]
      constructor
      · intro h
        obtain ⟨hb, h⟩ := Option.ite_none_right_eq_some.mp h
        obtain ⟨m, rfl, hm⟩ := ih.mp h
        exact ⟨b :: m, rfl, by rw [List.map_cons, List.map_cons, hm, of_decide_eq_true hb]⟩
      · rintro ⟨m, hs, hm⟩
        cases m with
        | nil => cases hm
        | cons c m =>
          obtain ⟨rfl, rfl⟩ := List.cons.inj hs
          obtain ⟨hb, hm⟩ := List.cons.inj hm
          rw [if_pos (decide_eq_true hb)]
          exact ih.mpr ⟨m, rfl, hm⟩

/-- A literal has one match at most. -/
theorem ends_literal (word s : List α) :
    (literal canonicalize word).ends n s = ((literal canonicalize word).first n s).toList := by
  induction word generalizing s with
  | nil => rfl
  | cons a word ih =>
    cases s with
    | nil => rfl
    | cons b s =>
      rw [literal_cons, first_chr_seq, ends_seq, ends_chr_cons]
      split
      · rw [List.flatMap_singleton, ih]
      · rfl

end Literal

/-! ### Deletion -/

/-- The length of the match that is found at `s`, 0 if there is none. -/
def matchLength (r : Pattern α) (s : List α) : ℕ :=
  (r.first n s).elim 0 fun t => s.length - t.length

/-- The characters of a text, each with whether a match covers it. The first `k` characters are the
rest of a match. -/
def marksFrom (r : Pattern α) : ℕ → List α → List (α × Bool)
  | _, [] => []
  | k + 1, a :: s => (a, true) :: marksFrom r k s
  | 0, a :: s =>
    (a, 0 < r.matchLength n (a :: s)) :: marksFrom r (r.matchLength n (a :: s) - 1) s

/-- The characters of a text, each with whether a match covers it. -/
def marks (r : Pattern α) (s : List α) : List (α × Bool) := r.marksFrom n 0 s

/-- The text without its matches. -/
def delete (r : Pattern α) (s : List α) : List α :=
  ((r.marks n s).filter fun a => !a.2).map Prod.fst

theorem marks_cons (r : Pattern α) (a : α) (s : List α) :
    r.marks n (a :: s) = (a, decide (0 < r.matchLength n (a :: s))) ::
      r.marksFrom n (r.matchLength n (a :: s) - 1) s := rfl

/-- No match of the pattern is empty. -/
def Consumes (r : Pattern α) : Prop := ∀ s, r.first n s ≠ some s

variable {n} {r : Pattern α}

theorem marksFrom_append (m t : List α) :
    r.marksFrom n m.length (m ++ t) = m.map (·, true) ++ r.marks n t := by
  induction m with
  | nil => rfl
  | cons a m ih => exact congrArg ((a, true) :: ·) ih

theorem marks_append_of_match {m t : List α} (h : r.first n (m ++ t) = some t) :
    r.marks n (m ++ t) = m.map (·, true) ++ r.marks n t := by
  cases m with
  | nil => rfl
  | cons a m =>
    have hlength : r.matchLength n (a :: (m ++ t)) = m.length + 1 := by
      rw [matchLength, ← List.cons_append, h]
      simp only [Option.elim_some, List.length_append, List.length_cons]
      omega
    rw [List.cons_append, marks_cons, hlength, Nat.add_sub_cancel, marksFrom_append]
    simp

theorem marks_cons_of_none {a : α} {s : List α} (h : r.first n (a :: s) = none) :
    r.marks n (a :: s) = (a, false) :: r.marks n s := by
  have hlength : r.matchLength n (a :: s) = 0 := by rw [matchLength, h, Option.elim_none]
  rw [marks_cons, hlength]
  rfl

@[simp] theorem delete_nil : r.delete n [] = [] := rfl

theorem delete_append_of_match {m t : List α} (h : r.first n (m ++ t) = some t) :
    r.delete n (m ++ t) = r.delete n t := by
  rw [delete, marks_append_of_match h, List.filter_append, List.map_append]
  simp [delete, List.filter_map, Function.comp_def]

theorem delete_cons_of_none {a : α} {s : List α} (h : r.first n (a :: s) = none) :
    r.delete n (a :: s) = a :: r.delete n s := by
  rw [delete, marks_cons_of_none h]
  rfl

/-- Induction along the scan. -/
@[elab_as_elim]
theorem scan (hr : r.Consumes n) {P : List α → Prop} (nil : P [])
    (skip : ∀ m t, m ≠ [] → r.first n (m ++ t) = some t → P t → P (m ++ t))
    (keep : ∀ a s, r.first n (a :: s) = none → P s → P (a :: s)) (s : List α) : P s := by
  induction hlength : s.length using Nat.strongRecOn generalizing s with
  | ind l ih =>
    subst hlength
    cases hmatch : r.first n s with
    | none =>
      cases s with
      | nil => exact nil
      | cons a s => exact keep a s hmatch (ih s.length (Nat.lt_succ_self _) s rfl)
    | some t =>
      obtain ⟨m, rfl⟩ := isSuffix_of_first hmatch
      have hm : m ≠ [] := by
        rintro rfl
        exact hr t hmatch
      have hlt : t.length < (m ++ t).length := by
        rw [List.length_append]
        exact Nat.lt_add_of_pos_left (List.length_pos_iff.mpr hm)
      exact skip m t hm hmatch (ih t.length hlt t rfl)

/-- The scan of a text depends on what is found in it only. -/
theorem marks_congr {k : ℕ} {r' : Pattern α} {s : List α}
    (h : ∀ t, t <:+ s → r.first n t = r'.first k t) : r.marks n s = r'.marks k s := by
  have hfrom (j : ℕ) : r.marksFrom n j s = r'.marksFrom k j s := by
    induction s generalizing j with
    | nil => cases j <;> rfl
    | cons a s ih =>
      have hrest := ih fun t ht => h t (ht.trans (List.suffix_cons a s))
      cases j with
      | zero =>
        have hlength : r.matchLength n (a :: s) = r'.matchLength k (a :: s) := by
          rw [matchLength, matchLength, h _ List.suffix_rfl]
        change (_, _) :: _ = (_, _) :: _
        rw [hlength, hrest]
      | succ j => exact congrArg ((a, true) :: ·) (hrest j)
  exact hfrom 0

theorem delete_congr {k : ℕ} {r' : Pattern α} {s : List α}
    (h : ∀ t, t <:+ s → r.first n t = r'.first k t) : r.delete n s = r'.delete k s := by
  rw [delete, delete, marks_congr h]

section Consumes

variable (hr : r.Consumes n)
include hr

theorem first_nil_of_consumes : r.first n [] = none := by
  cases hmatch : r.first n [] with
  | none => rfl
  | some u => exact absurd (List.suffix_nil.mp (isSuffix_of_first hmatch) ▸ hmatch) (hr [])

theorem delete_sublist (s : List α) : (r.delete n s).Sublist s := by
  induction s using scan hr with
  | nil => exact List.Sublist.slnil
  | skip m t hm hmatch ih =>
    rw [delete_append_of_match hmatch]
    exact ih.trans (List.sublist_append_right m t)
  | keep a s hnone ih =>
    rw [delete_cons_of_none hnone]
    exact ih.cons_cons a

/-- If every match holds a character with `q`, a deletion that leaves all these characters deletes
nothing. -/
theorem delete_eq_self_of_countP {q : α → Bool}
    (hq : ∀ m t, r.first n (m ++ t) = some t → ∃ a ∈ m, q a = true) {s : List α}
    (h : (r.delete n s).countP q = s.countP q) : r.delete n s = s := by
  induction s using scan hr with
  | nil => rfl
  | skip m t hm hmatch ih =>
    have hpos : 0 < m.countP q := List.countP_pos_iff.mpr (hq m t hmatch)
    have hle : (r.delete n t).countP q ≤ t.countP q := (delete_sublist hr t).countP_le
    rw [delete_append_of_match hmatch, List.countP_append] at h
    omega
  | keep a s hnone ih =>
    rw [delete_cons_of_none hnone, List.countP_cons, List.countP_cons] at h
    rw [delete_cons_of_none hnone, ih (Nat.add_right_cancel h)]

/-- A text is left as it is if there is no match in it. -/
theorem delete_eq_self_iff {s : List α} :
    r.delete n s = s ↔ ∀ t, t <:+ s → r.first n t = none := by
  induction s using scan hr with
  | nil =>
    refine ⟨fun _ t ht => ?_, fun _ => rfl⟩
    rw [List.suffix_nil.mp ht]
    exact first_nil_of_consumes hr
  | skip m t hm hmatch ih =>
    constructor
    · intro h
      rw [delete_append_of_match hmatch] at h
      have hle := (delete_sublist hr t).length_le
      have hpos := List.length_pos_iff.mpr hm
      rw [h, List.length_append] at hle
      omega
    · intro h
      rw [h _ List.suffix_rfl] at hmatch
      cases hmatch
  | keep a s hnone ih =>
    rw [delete_cons_of_none hnone, List.cons_inj_right, ih]
    constructor
    · intro h t ht
      rcases List.suffix_cons_iff.mp ht with rfl | ht
      · exact hnone
      · exact h t ht
    · exact fun h t ht => h t (ht.trans (List.suffix_cons a s))

end Consumes

/-- All matches are replaced by nothing. -/
def replaceAll (r : Pattern α) (s : List α) : List α := r.delete s.length s

/-! ### Barriers -/

/-- No match at a text before `b` depends on `b` or on what follows. -/
def Barrier (n : ℕ) (r : Pattern α) (b : α) : Prop :=
  ∀ s t, r.first n (s ++ b :: t) = (r.first n s).map (· ++ b :: t)

theorem dropWhile_append_cons {p : α → Bool} {b : α} (hb : p b = false) (s t : List α) :
    (s ++ b :: t).dropWhile p = s.dropWhile p ++ b :: t := by
  induction s with
  | nil => exact List.dropWhile_cons_of_neg (by simp [hb])
  | cons a s ih =>
    rw [List.cons_append, List.dropWhile_cons, List.dropWhile_cons]
    split
    · exact ih
    · rfl

theorem barrier_many {p : α → Bool} {b : α} (hb : p b = false) : (Pattern.many p).Barrier n b := by
  intro s t
  rw [first_many, first_many, Option.map_some, dropWhile_append_cons hb]

theorem barrier_seq_of_total {r' : Pattern α} {b : α} (hr : r.Barrier n b) (hr' : r'.Barrier n b)
    (htotal : ∀ s, r'.first n s ≠ none) : (Pattern.seq r r').Barrier n b := by
  intro s t
  rw [first_seq_of_total n r htotal, first_seq_of_total n r htotal, hr]
  cases r.first n s with
  | none => rfl
  | some u => exact hr' u t

theorem barrier_alts {rs : List (Pattern α)} {b : α} (h : ∀ r ∈ rs, r.Barrier n b) :
    (alts rs).Barrier n b := by
  intro s t
  rw [first_alts, first_alts]
  induction rs with
  | nil => rfl
  | cons r rs ih =>
    rw [List.findSome?_cons, List.findSome?_cons, h r List.mem_cons_self]
    cases r.first n s with
    | none => exact ih fun r' hr' => h r' (List.mem_cons_of_mem r hr')
    | some u => rfl

theorem barrier_literal [DecidableEq β] {canonicalize : α → β} {word : List α} {b : α}
    (hb : ∀ a ∈ word, canonicalize b ≠ canonicalize a) :
    (literal canonicalize word).Barrier n b := by
  intro s t
  induction word generalizing s with
  | nil => rfl
  | cons a word ih =>
    cases s with
    | nil =>
      rw [literal_cons, List.nil_append, first_chr_seq, first_chr_seq_nil,
        if_neg (by simpa using hb a List.mem_cons_self)]
      rfl
    | cons c s =>
      rw [literal_cons, List.cons_append, first_chr_seq, first_chr_seq]
      split
      · exact ih (fun a' ha' => hb a' (List.mem_cons_of_mem a ha')) s
      · rfl

/-- The texts before and after a barrier are scanned each on its own. -/
theorem marks_barrier (hr : r.Consumes n) {b : α} (hb : r.Barrier n b) (s t : List α) :
    r.marks n (s ++ b :: t) = r.marks n s ++ (b, false) :: r.marks n t := by
  induction s using scan hr with
  | nil =>
    refine marks_cons_of_none ?_
    rw [← List.nil_append (b :: t), hb, first_nil_of_consumes hr]
    rfl
  | skip m u hm hmatch ih =>
    have hmatch' : r.first n (m ++ (u ++ b :: t)) = some (u ++ b :: t) := by
      rw [← List.append_assoc, hb, hmatch]
      rfl
    rw [List.append_assoc, marks_append_of_match hmatch', marks_append_of_match hmatch, ih,
      List.append_assoc]
  | keep a s hnone ih =>
    have hnone' : r.first n (a :: (s ++ b :: t)) = none := by
      rw [← List.cons_append, hb, hnone]
      rfl
    rw [List.cons_append, marks_cons_of_none hnone', marks_cons_of_none hnone, ih, List.cons_append]

theorem delete_barrier (hr : r.Consumes n) {b : α} (hb : r.Barrier n b) (s t : List α) :
    r.delete n (s ++ b :: t) = r.delete n s ++ b :: r.delete n t := by
  rw [delete, marks_barrier hr hb, List.filter_append, List.map_append]
  rfl

theorem intercalate_cons_sep (b : α) (w c c' : List α) (cs : List (List α)) :
    (b :: w).intercalate (c :: c' :: cs) = c ++ b :: (w ++ (b :: w).intercalate (c' :: cs)) := by
  rw [List.intercalate_cons_cons, List.append_assoc]
  rfl

/-- Texts that are separated by a barrier, and by characters at which no match begins. -/
theorem marks_intercalate (hr : r.Consumes n) {b : α} (hb : r.Barrier n b) {w : List α}
    (hw : ∀ s, r.marks n (w ++ s) = w.map (·, false) ++ r.marks n s) (cs : List (List α)) :
    r.marks n ((b :: w).intercalate cs) =
      ((b, false) :: w.map (·, false)).intercalate (cs.map (r.marks n)) := by
  induction cs with
  | nil => rfl
  | cons c cs ih =>
    cases cs with
    | nil => simp
    | cons c' cs =>
      rw [intercalate_cons_sep, marks_barrier hr hb, hw, ih]
      exact (intercalate_cons_sep _ _ _ _ _).symm

theorem delete_intercalate (hr : r.Consumes n) {b : α} (hb : r.Barrier n b) {w : List α}
    (hw : ∀ s, r.delete n (w ++ s) = w ++ r.delete n s) (cs : List (List α)) :
    r.delete n ((b :: w).intercalate cs) = (b :: w).intercalate (cs.map (r.delete n)) := by
  induction cs with
  | nil => rfl
  | cons c cs ih =>
    cases cs with
    | nil => simp
    | cons c' cs =>
      rw [intercalate_cons_sep, delete_barrier hr hb, hw, ih]
      exact (intercalate_cons_sep _ _ _ _ _).symm

end Pattern

end RegExp
