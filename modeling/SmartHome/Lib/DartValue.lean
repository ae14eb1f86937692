import Mathlib.Algebra.Group.Int.Defs
import Mathlib.Algebra.Group.Nat.Defs
import Mathlib.Data.List.Basic

/-!
# Dynamic values

Values of the static type `dynamic` as they come out of a JSON decoder or of a document database,
with the operations that programs apply to them: indexing, the implicit casts to `String` and to
collections, `??`, `+`, `toString` and `int.parse`. An operation that the language rejects at run
time throws, which is modelled by `Except Error`.

A `double` is represented by the text that `toString` gives for it: nothing below computes with
floating point numbers. Objects of other classes are represented by their class name.

## Main definitions

* `Dart.Error`, `Dart.Dyn`.
* `Dart.Dyn.index`, `Dart.Dyn.getAt`, `Dart.Dyn.orElse`, `Dart.Dyn.asString`, `Dart.Dyn.asList`,
  `Dart.Dyn.plusStr`, `Dart.strPlus`, `Dart.Dyn.text`.
* `Dart.intParse` : `int.parse` without a radix.

## Main results

* `Dart.intParse_toString` : `int.parse` reads back the decimal text of an integer.
-/

namespace Dart

/-- What the operations below can throw. -/
inductive Error where
  | typeError
  | noSuchMethod
  | formatException
  | rangeError
  | nullCheck
  | exception (message : String)
  deriving Repr, DecidableEq

/-- A value of static type `dynamic`. The entries of a map are listed in insertion order. -/
inductive Dyn where
  | null
  | bool (b : Bool)
  | int (z : Int)
  | double (text : String)
  | str (s : String)
  | list (xs : List Dyn)
  | map (entries : List (String × Dyn))
  | object (className : String)
  deriving Repr, Inhabited

/-- A sequence of two computations completes when both do. -/
theorem bind_eq_ok {α β : Type} {x : Except Error α} {f : α → Except Error β} {b : β} :
    (x >>= f) = .ok b ↔ ∃ a, x = .ok a ∧ f a = .ok b := by
  cases x <;> simp [bind, Except.bind]

/-- A sequence of two computations throws what the first one that throws does. -/
theorem bind_eq_error {α β : Type} {x : Except Error α} {f : α → Except Error β} {e : Error} :
    (x >>= f) = .error e ↔ x = .error e ∨ ∃ a, x = .ok a ∧ f a = .error e := by
  cases x <;> simp [bind, Except.bind]

@[simp] theorem ok_bind {α β : Type} (a : α) (f : α → Except Error β) :
    ((Except.ok a : Except Error α) >>= f) = f a := rfl

namespace Dyn

/-- `v[key]` for a string key: a missing key of a map reads as `null`. -/
def index : Dyn → String → Except Error Dyn
  | .map entries, key => .ok ((entries.lookup key).getD .null)
  | .list _, _ | .str _, _ => .error .typeError
  | _, _ => .error .noSuchMethod

/-- `v[i]` for an integer index. A map with string keys holds nothing under an integer. -/
def getAt : Dyn → Nat → Except Error Dyn
  | .list xs, i => xs[i]?.elim (.error .rangeError) .ok
  | .str s, i => s.toList[i]?.elim (.error .rangeError) fun c => .ok (.str (String.singleton c))
  | .map _, _ => .ok .null
  | _, _ => .error .noSuchMethod

/-- `v.isNotEmpty`. -/
def isNotEmpty : Dyn → Except Error Bool
  | .list xs => .ok !xs.isEmpty
  | .map entries => .ok !entries.isEmpty
  | .str s => .ok !s.isEmpty
  | _ => .error .noSuchMethod

/-- `v ?? d`. -/
def orElse : Dyn → Dyn → Dyn
  | .null, d => d
  | v, _ => v

/-- The implicit cast to `String`. -/
def asString : Dyn → Except Error String
  | .str s => .ok s
  | _ => .error .typeError

/-- The implicit cast to `String?`. -/
def asStringOrNull : Dyn → Except Error (Option String)
  | .null => .ok none
  | .str s => .ok (some s)
  | _ => .error .typeError

/-- `v as List<dynamic>`. -/
def asList : Dyn → Except Error (List Dyn)
  | .list xs => .ok xs
  | _ => .error .typeError

/-- `v == s` for a string `s`. -/
def isStr : Dyn → String → Bool
  | .str t, s => t == s
  | _, _ => false

/-- `v + s` for a string `s`: numbers and lists have a `+`, but not one that takes a string. -/
def plusStr : Dyn → String → Except Error String
  | .str t, s => .ok (t ++ s)
  | .int _, _ | .double _, _ | .list _, _ => .error .typeError
  | _, _ => .error .noSuchMethod

mutual

/-- `v.toString()`. -/
def text : Dyn → String
  | .null => "null"
  | .bool b => toString b
  | .int z => toString z
  | .double t => t
  | .str s => s
  | .list xs => "[" ++ textList xs ++ "]"
  | .map entries => "\x7b" ++ textEntries entries ++ "\x7d"
  | .object className => "Instance of '" ++ className ++ "'"

/-- The elements of a list, separated by commas. -/
def textList : List Dyn → String
  | [] => ""
  | [v] => text v
  | v :: vs => text v ++ ", " ++ textList vs

/-- The entries of a map, separated by commas. -/
def textEntries : List (String × Dyn) → String
  | [] => ""
  | [(k, v)] => k ++ ": " ++ text v
  | (k, v) :: es => k ++ ": " ++ text v ++ ", " ++ textEntries es

end

@[simp] theorem orElse_null (d : Dyn) : Dyn.orElse .null d = d := rfl

@[simp] theorem orElse_str (s : String) (d : Dyn) : (Dyn.str s).orElse d = .str s := rfl

@[simp] theorem asString_str (s : String) : (Dyn.str s).asString = .ok s := rfl

@[simp] theorem plusStr_str (t s : String) : (Dyn.str t).plusStr s = .ok (t ++ s) := rfl

theorem asString_eq_ok {v : Dyn} {s : String} : v.asString = .ok s ↔ v = .str s := by
  cases v <;> simp [asString]

theorem isStr_iff {v : Dyn} {s : String} : v.isStr s = true ↔ v = .str s := by
  cases v <;> simp [isStr]

/-- Only a string can be added to a string on its right. -/
theorem plusStr_eq_ok {v : Dyn} {s t : String} :
    v.plusStr s = .ok t ↔ ∃ u, v = .str u ∧ t = u ++ s := by
  cases v <;> simp [plusStr, eq_comm]

end Dyn

/-- `s + v` for a string `s`: the argument must be a string. -/
def strPlus (s : String) : Dyn → Except Error String
  | .str t => .ok (s ++ t)
  | _ => .error .typeError

@[simp] theorem strPlus_str (s t : String) : strPlus s (.str t) = .ok (s ++ t) := rfl

theorem strPlus_eq_ok {s t : String} {v : Dyn} :
    strPlus s v = .ok t ↔ ∃ u, v = .str u ∧ t = s ++ u := by
  cases v <;> simp [strPlus, eq_comm]

/-! ### Integers in text -/

/-- The white space that `trim` and `int.parse` skip. -/
def isWhiteSpace (c : Char) : Bool :=
  (0x09 ≤ c.toNat && c.toNat ≤ 0x0D) || (0x2000 ≤ c.toNat && c.toNat ≤ 0x200A) ||
    [0x20, 0x85, 0xA0, 0x1680, 0x2028, 0x2029, 0x202F, 0x205F, 0x3000, 0xFEFF].contains c.toNat

/-- The characters without white space at either end. -/
def trimChars (cs : List Char) : List Char :=
  ((cs.dropWhile isWhiteSpace).reverse.dropWhile isWhiteSpace).reverse

/-- The value of a digit in base sixteen. -/
def digitValue? (c : Char) : Option Nat :=
  if '0' ≤ c ∧ c ≤ '9' then some (c.toNat - '0'.toNat)
  else if 'a' ≤ c ∧ c ≤ 'f' then some (c.toNat - 'a'.toNat + 10)
  else if 'A' ≤ c ∧ c ≤ 'F' then some (c.toNat - 'A'.toNat + 10)
  else none

/-- The value of the digits read after those worth `acc`; `none` at a character that is no digit
of the radix. -/
def parseDigits (radix : Nat) : Nat → List Char → Option Nat
  | acc, [] => some acc
  | acc, c :: cs =>
    match digitValue? c with
    | some d => if d < radix then parseDigits radix (acc * radix + d) cs else none
    | none => none

/-- A non-empty sequence of digits. -/
def parseRadix (radix : Nat) (cs : List Char) : Option Nat :=
  if cs.isEmpty then none else parseDigits radix 0 cs

/-- The integer literal after its sign, as a 64-bit integer: decimal digits, or `0x` and
hexadecimal digits, which without a minus sign may also fill all 64 bits. -/
def parseMagnitude (negative : Bool) (cs : List Char) : Option Int :=
  match cs with
  | '0' :: 'x' :: hex | '0' :: 'X' :: hex =>
    (parseRadix 16 hex).bind fun n =>
      if negative then if n ≤ 2 ^ 63 then some (-n) else none
      else if n < 2 ^ 63 then some n else if n < 2 ^ 64 then some (n - 2 ^ 64) else none
  | _ =>
    (parseRadix 10 cs).bind fun n =>
      if negative then if n ≤ 2 ^ 63 then some (-n) else none
      else if n < 2 ^ 63 then some n else none

/-- `int.parse(source)`. -/
def intParse (source : String) : Except Error Int :=
  let parsed :=
    match trimChars source.toList with
    | '-' :: cs => parseMagnitude true cs
    | '+' :: cs => parseMagnitude false cs
    | cs => parseMagnitude false cs
  parsed.elim (.error .formatException) .ok

/-- `int.parse(v)` for a dynamic argument, which is first cast to `String`. -/
def Dyn.parseInt (v : Dyn) : Except Error Int := v.asString.bind intParse

theorem digitValue?_of_isDigit {c : Char} (hc : c.isDigit = true) :
    digitValue? c = some (c.toNat - '0'.toNat) ∧ c.toNat - '0'.toNat < 10 := by
  simp only [Char.isDigit, Bool.and_eq_true, decide_eq_true_eq] at hc
  refine ⟨if_pos hc, ?_⟩
  have hle : c.toNat ≤ '9'.toNat := hc.2
  simp at hle ⊢
  omega

theorem parseDigits_of_isDigit {cs : List Char} (hcs : ∀ c ∈ cs, c.isDigit = true) (acc : ℕ) :
    parseDigits 10 acc cs = some (Nat.ofDigitChars 10 cs acc) := by
  induction cs generalizing acc with
  | nil => simp [parseDigits]
  | cons c cs ih =>
    obtain ⟨hvalue, hlt⟩ := digitValue?_of_isDigit (hcs c List.mem_cons_self)
    rw [parseDigits, hvalue, Nat.ofDigitChars_cons, Nat.mul_comm 10 acc]
    simp only [if_pos hlt]
    exact ih (fun c' hc' => hcs c' (List.mem_cons_of_mem c hc')) _

theorem isDigit_toDigits (n : ℕ) : ∀ c ∈ Nat.toDigits 10 n, c.isDigit = true :=
  fun _ hc => Nat.isDigit_of_mem_toDigits (by decide) (by decide) hc

theorem parseRadix_toDigits (n : ℕ) : parseRadix 10 (Nat.toDigits 10 n) = some n := by
  rw [parseRadix, if_neg (by simp [Nat.toDigits_ne_nil]),
    parseDigits_of_isDigit (isDigit_toDigits n), Nat.ofDigitChars_ten_toDigits]

theorem isWhiteSpace_of_isDigit {c : Char} (hc : c.isDigit = true) : isWhiteSpace c = false := by
  simp only [Char.isDigit, Bool.and_eq_true, decide_eq_true_eq] at hc
  have hlow : 48 ≤ c.toNat := hc.1
  have hhigh : c.toNat ≤ 57 := hc.2
  simp [isWhiteSpace]
  omega

theorem trimChars_of_ne {cs : List Char} (hcs : ∀ c ∈ cs, isWhiteSpace c = false) :
    trimChars cs = cs := by
  have hdrop {l : List Char} (hl : ∀ c ∈ l, isWhiteSpace c = false) :
      l.dropWhile isWhiteSpace = l := by
    cases l with
    | nil => rfl
    | cons c l => exact List.dropWhile_cons_of_neg (by simp [hl c List.mem_cons_self])
  rw [trimChars, hdrop hcs, hdrop fun c hc => hcs c (List.mem_reverse.mp hc), List.reverse_reverse]

theorem parseMagnitude_toDigits (negative : Bool) (n : ℕ) :
    parseMagnitude negative (Nat.toDigits 10 n) =
      if negative then if n ≤ 2 ^ 63 then some (-(n : ℤ)) else none
      else if n < 2 ^ 63 then some (n : ℤ) else none := by
  unfold parseMagnitude
  split
  · rename_i hex h
    have hx : 'x' ∈ Nat.toDigits 10 n := by simp [h]
    exact absurd (isDigit_toDigits n _ hx) (by decide)
  · rename_i hex h
    have hx : 'X' ∈ Nat.toDigits 10 n := by simp [h]
    exact absurd (isDigit_toDigits n _ hx) (by decide)
  · rw [parseRadix_toDigits, Option.bind_some]

/-- `int.parse` reads the decimal text of an integer, if that fits into 64 bits. -/
theorem intParse_toString (z : ℤ) :
    intParse (toString z) =
      if -2 ^ 63 ≤ z ∧ z < 2 ^ 63 then .ok z else .error .formatException := by
  have hwhite (n : ℕ) : ∀ c ∈ Nat.toDigits 10 n, isWhiteSpace c = false := fun c hc =>
    isWhiteSpace_of_isDigit (isDigit_toDigits n c hc)
  rw [Int.toString_eq_repr, Int.repr_eq_if]
  by_cases hz : 0 ≤ z
  · have hfits : (-2 ^ 63 ≤ z ∧ z < 2 ^ 63) ↔ z.toNat < 2 ^ 63 := by omega
    rw [if_pos hz, intParse, Nat.toList_repr, trimChars_of_ne (hwhite _), if_congr hfits rfl rfl]
    cases hcs : Nat.toDigits 10 z.toNat with
    | nil => exact absurd hcs Nat.toDigits_ne_nil
    | cons c cs =>
      have hc := isDigit_toDigits z.toNat c (hcs ▸ List.mem_cons_self)
      have hparse : parseMagnitude false (c :: cs) =
          if z.toNat < 2 ^ 63 then some z else none := by
        rw [← hcs, parseMagnitude_toDigits, if_neg (by decide), Int.toNat_of_nonneg hz]
      split
      · rename_i h
        obtain ⟨rfl, -⟩ := List.cons.inj h
        exact absurd hc (by decide)
      · rename_i h
        obtain ⟨rfl, -⟩ := List.cons.inj h
        exact absurd hc (by decide)
      · rw [hparse]
        split <;> rfl
  · have hfits : (-2 ^ 63 ≤ z ∧ z < 2 ^ 63) ↔ (-z).toNat ≤ 2 ^ 63 := by omega
    have hlist : ("-" ++ (-z).toNat.repr).toList = '-' :: Nat.toDigits 10 (-z).toNat := by simp
    have htrim : trimChars ('-' :: Nat.toDigits 10 (-z).toNat) =
        '-' :: Nat.toDigits 10 (-z).toNat := by
      refine trimChars_of_ne fun c hc => ?_
      rcases List.mem_cons.mp hc with rfl | hc
      · decide
      · exact hwhite _ c hc
    rw [if_neg hz, intParse, hlist, htrim, if_congr hfits rfl rfl]
    simp only [parseMagnitude_toDigits, if_true, Int.toNat_of_nonneg (show 0 ≤ -z by omega),
      Int.neg_neg]
    split <;> rfl

/-- Only one integer is read from a decimal text. -/
theorem eq_of_intParse_toString {z k : ℤ} (h : intParse (toString z) = .ok k) : k = z := by
  rw [intParse_toString] at h
  split at h
  · exact (Except.ok.inj h).symm
  · cases h

example : intParse " -42\n" = .ok (-42) := by decide

example : intParse "4 2" = .error .formatException := by decide

end Dart
