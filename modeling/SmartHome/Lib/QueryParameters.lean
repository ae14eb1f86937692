import Mathlib.Data.List.Induction
import SmartHome.Lib.QueryString

/-!
# URIs with any number of parameters

Names and values are spliced into the text of a URI, with `=` between a name and its value and `&`
between two parameters. For names that differ, the URI is read back as it was meant exactly if every
value is plain.

The proof goes backwards along the parameters: once the later values are known to be plain, each of
them is one element of the query with its own name, so that the value of the parameter before them
has to come from its own elements.

## Main definitions

* `Uri.splice`, `Uri.spliceAll` : the text of a parameter, and of a list of them.

## Main results

* `Uri.decodesTo_spliceAll_iff` : the URIs that are read back as they were meant.
* `Uri.plain_of_ascii` : ASCII texts that can be spliced in.
-/

namespace Uri

open Utf16 (code)

/-- A name and a value, and the character between them. -/
def splice (p : List UInt16 × List UInt16) : List UInt16 := p.1 ++ code '=' :: p.2

/-- Parameters, and the characters between them. -/
def spliceAll : List (List UInt16 × List UInt16) → List UInt16
  | [] => []
  | [p] => splice p
  | p :: q :: ps => splice p ++ code '&' :: spliceAll (q :: ps)

/-- The elements that the splices of parameters are split into. -/
def elements (ps : List (List UInt16 × List UInt16)) : List (List UInt16) :=
  ps.flatMap fun p => (splice p).splitOn (code '&')

theorem splitOn_spliceAll {ps : List (List UInt16 × List UInt16)} (h : ps ≠ []) :
    (spliceAll ps).splitOn (code '&') = elements ps := by
  induction ps with
  | nil => exact absurd rfl h
  | cons p ps ih =>
    cases ps with
    | nil => simp [spliceAll, elements]
    | cons q ps =>
      rw [spliceAll, List.splitOn_append_cons_self, ih (List.cons_ne_nil q ps)]
      rfl

/-- A value of which nothing is read in another way. -/
def Fits (p : List UInt16 × List UInt16) : Prop := Literal p.2 ∧ code '&' ∉ p.2

/-- The names are names, and differ. -/
structure Names (ps : List (List UInt16 × List UInt16)) : Prop where
  isName : ∀ p ∈ ps, IsName p.1
  nodup : (LinkedMap.keys ps).Nodup

theorem splitOn_splice {p : List UInt16 × List UInt16} (hname : IsName p.1) (hp : Fits p) :
    (splice p).splitOn (code '&') = [splice p] :=
  List.splitOn_eq_singleton (noAmpersand_splice hname hp.2)

theorem elements_of_fits {ps : List (List UInt16 × List UInt16)} (hnames : Names ps)
    (h : ∀ p ∈ ps, Fits p) : elements ps = ps.map splice := by
  induction ps with
  | nil => rfl
  | cons p ps ih =>
    obtain ⟨hp, hps⟩ := List.forall_mem_cons.mp h
    obtain ⟨hname, hrest⟩ := List.forall_mem_cons.mp hnames.isName
    have htail := ih ⟨hrest, (List.nodup_cons.mp hnames.nodup).2⟩ hps
    rw [elements, List.flatMap_cons, splitOn_splice hname hp]
    exact congrArg (splice p :: ·) htail

/-! ### Values that fit -/

theorem addElement_splice {p : List UInt16 × List UInt16} (hname : IsName p.1) (hp : Fits p)
    (m : LinkedMap (List UInt16) (List UInt16)) :
    addElement m (normalize (splice p)) = some (m.put p.1 p.2) := by
  rw [addElement, splice, parameter_splice hname, component_of_literal hp.1]
  rfl

/-- A new name goes to the end. -/
theorem put_of_notMem {m : LinkedMap (List UInt16) (List UInt16)} {name : List UInt16}
    (h : name ∉ m.keys) (value : List UInt16) : m.put name value = m ++ [(name, value)] := by
  induction m with
  | nil => rfl
  | cons entry m ih =>
    obtain ⟨k, v⟩ := entry
    simp only [LinkedMap.keys, List.map_cons, List.mem_cons, not_or] at h
    rw [LinkedMap.put, if_neg (Ne.symm h.1), ih h.2]
    rfl

/-- Parameters whose values fit are read one by one. -/
theorem foldlM_of_fits {ps : List (List UInt16 × List UInt16)}
    {m : LinkedMap (List UInt16) (List UInt16)} (hname : ∀ p ∈ ps, IsName p.1)
    (h : ∀ p ∈ ps, Fits p) (hnodup : (LinkedMap.keys (m ++ ps)).Nodup) :
    ((ps.map splice).map normalize).foldlM addElement m = some (m ++ ps) := by
  induction ps generalizing m with
  | nil => simp
  | cons p ps ih =>
    obtain ⟨hp, hps⟩ := List.forall_mem_cons.mp h
    obtain ⟨hfirst, hrest⟩ := List.forall_mem_cons.mp hname
    have hnew : p.1 ∉ m.keys := by
      simp only [LinkedMap.keys, List.map_append, List.map_cons] at hnodup ⊢
      exact fun hmem => (List.nodup_append.mp hnodup).2.2 _ hmem _ List.mem_cons_self rfl
    rw [List.map_cons, List.map_cons, List.foldlM_cons, addElement_splice hfirst hp,
      put_of_notMem hnew, Option.bind_eq_bind, Option.bind_some]
    have happend : m ++ p :: ps = (m ++ [p]) ++ ps := by simp
    rw [happend] at hnodup ⊢
    exact ih hrest hps hnodup

/-! ### Values that are read back -/

theorem names_tail {ps : List (List UInt16 × List UInt16)} {p : List UInt16 × List UInt16}
    {qs : List (List UInt16 × List UInt16)} (h : Names (ps ++ p :: qs)) :
    IsName p.1 ∧ (∀ q ∈ qs, q.1 ≠ p.1) ∧ ∀ q ∈ qs, IsName q.1 := by
  have hnodup := h.nodup
  simp only [LinkedMap.keys, List.map_append, List.map_cons] at hnodup
  have hp := (List.nodup_cons.mp (List.nodup_append.mp hnodup).2.1).1
  refine ⟨h.isName p (by simp), fun q hq heq => hp ?_, fun q hq => h.isName q (by simp [hq])⟩
  exact heq ▸ List.mem_map_of_mem hq

/-- A value that is read back fits, if the values after it do. -/
theorem fits_of_last {ps qs : List (List UInt16 × List UInt16)} {p : List UInt16 × List UInt16}
    (hnames : Names (ps ++ p :: qs)) (hqs : ∀ q ∈ qs, Fits q)
    {m : LinkedMap (List UInt16) (List UInt16)}
    (hm : ((elements (ps ++ p :: qs)).map normalize).foldlM addElement [] = some m)
    (hget : m.get? p.1 = some p.2) : Fits p := by
  obtain ⟨hname, hother, hnames'⟩ := names_tail hnames
  have helements : elements (ps ++ p :: qs) =
      elements ps ++ ((splice p).splitOn (code '&') ++ elements qs) := by
    simp [elements]
  rw [helements, List.map_append, List.foldlM_append] at hm
  obtain ⟨m₁, -, hm₂⟩ := Option.bind_eq_some_iff.mp hm
  obtain ⟨a, ha⟩ := exists_mem_splitOn_splice hname p.2
  rcases get?_of_foldlM hm₂ hget with ⟨_, hmem, hvalue⟩ | ⟨-, hnone⟩
  · obtain ⟨e, he, rfl⟩ := List.mem_map.mp hmem
    rcases List.mem_append.mp he with he | he
    · exact ⟨(literal_of_parameter hname he hvalue).2.2, noAmpersand_of_parameter hname he hvalue⟩
    · -- the later parameters have other names
      obtain ⟨q, hq, he⟩ := List.mem_flatMap.mp he
      rw [splitOn_splice (hnames' q hq) (hqs q hq), List.mem_singleton] at he
      rw [he, splice, parameter_splice (hnames' q hq)] at hvalue
      obtain ⟨v, -, hv⟩ := Option.map_eq_some_iff.mp hvalue
      exact absurd (congrArg Prod.fst (Option.some.inj hv)) (hother q hq)
  · -- the first element of the value has the name
    have hfirst := List.mem_map_of_mem (f := normalize) (List.mem_append_left (elements qs) ha)
    obtain ⟨r, hr⟩ := exists_parameter_of_foldlM hm₂ hfirst
    rw [parameter_splice hname] at hr
    obtain ⟨v, hv, -⟩ := Option.map_eq_some_iff.mp hr
    refine absurd ?_ (hnone _ hfirst v)
    rw [parameter_splice hname, hv]
    rfl

theorem fits_of_foldlM {ps qs : List (List UInt16 × List UInt16)} (hnames : Names (ps ++ qs))
    (hqs : ∀ q ∈ qs, Fits q) {m : LinkedMap (List UInt16) (List UInt16)}
    (hm : ((elements (ps ++ qs)).map normalize).foldlM addElement [] = some m)
    (hget : ∀ p ∈ ps, m.get? p.1 = some p.2) : ∀ p ∈ ps, Fits p := by
  induction ps using List.reverseRecOn generalizing qs with
  | nil => exact fun p hp => absurd hp List.not_mem_nil
  | append_singleton ps p ih =>
    rw [List.append_assoc, List.singleton_append] at hnames hm
    have hp : Fits p := fits_of_last hnames hqs hm (hget p (by simp))
    have hrest := ih hnames (List.forall_mem_cons.mpr ⟨hp, hqs⟩) hm
      fun q hq => hget q (List.mem_append_left _ hq)
    intro q hq
    rcases List.mem_append.mp hq with hq | hq
    · exact hrest q hq
    · exact List.mem_singleton.mp hq ▸ hp

theorem get?_of_mem {ps : LinkedMap (List UInt16) (List UInt16)} (hnodup : ps.keys.Nodup)
    {p : List UInt16 × List UInt16} (hp : p ∈ ps) : ps.get? p.1 = some p.2 := by
  induction ps with
  | nil => cases hp
  | cons q ps ih =>
    obtain ⟨k, v⟩ := q
    obtain ⟨hk, hrest⟩ := List.nodup_cons.mp hnodup
    rcases List.mem_cons.mp hp with rfl | hmem
    · rw [LinkedMap.get?, if_pos rfl]
    · have hkey : p.1 ∈ LinkedMap.keys ps := List.mem_map_of_mem hmem
      rw [LinkedMap.get?, if_neg (ne_of_mem_of_not_mem hkey hk).symm]
      exact ih hrest hmem

/-- A query into which parameters are spliced is read back exactly if their values fit. -/
theorem splitQueryString_spliceAll_iff {ps : List (List UInt16 × List UInt16)} (hne : ps ≠ [])
    (hnames : Names ps) :
    (∃ m, splitQueryString (normalize (spliceAll ps)) = some m ∧
      ∀ name, m.get? name = LinkedMap.get? ps name) ↔ ∀ p ∈ ps, Fits p := by
  rw [splitQueryString, splitOn_normalize isSeparator_ampersand, splitOn_spliceAll hne]
  constructor
  · rintro ⟨m, hm, hget⟩
    have hnil : ∀ q ∈ ([] : List (List UInt16 × List UInt16)), Fits q := by rintro _ ⟨⟩
    rw [← List.append_nil ps] at hm hnames
    refine fits_of_foldlM hnames hnil hm fun p hp => (hget p.1).trans ?_
    exact get?_of_mem (List.append_nil ps ▸ hnames.nodup) hp
  · intro h
    rw [elements_of_fits hnames h]
    exact ⟨ps, foldlM_of_fits hnames.isName h hnames.nodup, fun _ => rfl⟩

theorem notMem_spliceAll_iff {ps : List (List UInt16 × List UInt16)} (hnames : Names ps) :
    code '#' ∉ spliceAll ps ↔ ∀ p ∈ ps, code '#' ∉ p.2 := by
  have hequals : code '#' ≠ code '=' := by decide
  have hampersand : code '#' ≠ code '&' := by decide
  have hsplice {p : List UInt16 × List UInt16} (hname : IsName p.1) :
      code '#' ∉ splice p ↔ code '#' ∉ p.2 := by
    simp [splice, hname.noHash, hequals]
  induction ps with
  | nil => simp [spliceAll]
  | cons p ps ih =>
    obtain ⟨hname, hrest⟩ := List.forall_mem_cons.mp hnames.isName
    have htail : code '#' ∉ spliceAll ps ↔ ∀ p ∈ ps, code '#' ∉ p.2 :=
      ih ⟨hrest, (List.nodup_cons.mp hnames.nodup).2⟩
    rw [List.forall_mem_cons, ← htail, ← hsplice hname]
    cases ps with
    | nil => simp [spliceAll]
    | cons q ps =>
      rw [spliceAll, List.mem_append, List.mem_cons]
      simp [hampersand]

/-- **URIs with any number of parameters.** A URI into which parameters with different names are
spliced says what is meant exactly if nothing in the values is read in another way. -/
theorem decodesTo_spliceAll_iff {base : List UInt16} (hbase : code '#' ∉ base)
    (hquestion : code '?' ∉ base) {ps : List (List UInt16 × List UInt16)} (hne : ps ≠ [])
    (hnames : Names ps) :
    (parse (base ++ code '?' :: spliceAll ps)).DecodesTo ps ↔ ∀ p ∈ ps, Plain p.2 := by
  have hhash := notMem_spliceAll_iff hnames
  rw [DecodesTo]
  constructor
  · rintro ⟨hparameters, hfragment⟩
    have hquery : code '#' ∉ spliceAll ps := fun hmem =>
      fragment_parse_of_mem (List.mem_append_right base (List.mem_cons_of_mem _ hmem)) hfragment
    rw [parse_of_notMem hbase hquestion hquery] at hparameters
    have hfits := (splitQueryString_spliceAll_iff hne hnames).mp hparameters
    exact fun p hp => ⟨(hfits p hp).1, (hfits p hp).2, hhash.mp hquery p hp⟩
  · intro h
    rw [parse_of_notMem hbase hquestion (hhash.mpr fun p hp => (h p hp).noHash)]
    exact ⟨(splitQueryString_spliceAll_iff hne hnames).mpr fun p hp =>
      ⟨(h p hp).toLiteral, (h p hp).noAmpersand⟩, rfl⟩

/-! ### ASCII texts -/

/-- An ASCII text without the characters that are read in another way can be spliced in. -/
theorem plain_of_ascii {s : List UInt16}
    (h : ∀ u ∈ s, u.toNat < 0x80 ∧ u ∉ [code '+', code '%', code '&', code '#']) : Plain s where
  wellFormed := by
    have hlt : ∀ u ∈ s, u.toNat < 0xD800 := fun u hu => Nat.lt_trans (h u hu).1 (by decide)
    rw [← List.append_nil s, Utf16.wellFormed_append_of_lt hlt]
    rfl
  noMark := fun hhead => absurd (h _ (List.mem_of_head? hhead)).1 (by decide)
  noPlus := fun hmem => (h _ hmem).2 (by simp)
  noEscape := fun _ _ _ _ hsub => (h _ (hsub.subset List.mem_cons_self)).2 (by simp)
  noAmpersand := fun hmem => (h _ hmem).2 (by simp)
  noHash := fun hmem => (h _ hmem).2 (by simp)

end Uri
