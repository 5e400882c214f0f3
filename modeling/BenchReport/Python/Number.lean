import BenchReport.Python.Text
import Mathlib.Algebra.Group.Nat.Basic
import Mathlib.Order.Basic

/-!
# Python numbers

The scripts read integers with `int()` and durations with `float()`, scale and compare the
durations, and print both. `PyFloat` is the part of Python's `float` the report uses; it is
kept abstract, so that the results hold for IEEE doubles, whose rounding none of them depends
on. The durations the parser produces are non-negative decimals, never NaN, so the comparisons
the report makes on them are those of a linear order.

`int()` and `float()` themselves are modelled on the strings the patterns capture, which hold
only decimal digits (and, for `float()`, points): on those, Python accepts exactly the strings
below and reads the digits as `PyUnicode.digit` gives them. CPython converts between `int`
and `str` only up to `sys.int_info.default_max_str_digits` (`maxStrDigits`) decimal digits, in
either direction: `int()` rejects a longer string and `format` a larger integer with a
`ValueError`.
-/

namespace BenchReport

/-- The operations on Python's `float` that the report performs. -/
class PyFloat (F : Type) extends LinearOrder F, Mul F, Div F where
  /-- `float` of the decimal with digits `m`, `e` of them after the point: the double nearest
  to `m · 10⁻ᵉ`. -/
  ofDecimal : ℕ → ℕ → F
  /-- `f"{x:.{n}f}"`. -/
  fixed : ℕ → F → String

/-- An integer constant of the scripts, such as `1000` in `value *= 1000`. -/
def PyFloat.ofNat {F : Type} [PyFloat F] (n : ℕ) : F := PyFloat.ofDecimal n 0

/-- Naturals, with `float` rounding down, for evaluating the model on concrete inputs. -/
instance instPyFloatNat : PyFloat ℕ :=
  { Nat.instLinearOrder with
    mul := Nat.mul
    div := Nat.div
    ofDecimal := fun m e => Nat.div m (Nat.pow 10 e)
    fixed := fun _ x => Nat.repr x }

/-- Python's `ValueError`, with the string a conversion rejected: the text `int()` or `float()`
could not read, and nothing for an integer that `format()` refuses to write. -/
structure ValueError where
  arg : List Char
  deriving DecidableEq, Repr

@[simp] lemma ok_bind {ε α β : Type} (a : α) (f : α → Except ε β) :
    (Except.ok a >>= f) = f a := rfl

lemma bind_eq_ok {ε α β : Type} {x : Except ε α} {f : α → Except ε β} {b : β} :
    (x >>= f) = .ok b ↔ ∃ a, x = .ok a ∧ f a = .ok b := by
  cases x
  · exact iff_of_false (fun h => by cases h) fun ⟨_, h, _⟩ => by cases h
  · simp

@[simp] lemma error_bind {ε α β : Type} (e : ε) (f : α → Except ε β) :
    (Except.error e >>= f) = Except.error e := rfl

instance instDecidableEqExcept {ε α : Type} [DecidableEq ε] [DecidableEq α] :
    DecidableEq (Except ε α)
  | .ok a, .ok b => decidable_of_iff (a = b) (by simp)
  | .error a, .error b => decidable_of_iff (a = b) (by simp)
  | .ok _, .error _ => isFalse (by simp)
  | .error _, .ok _ => isFalse (by simp)

/-- `sys.int_info.default_max_str_digits`: since CPython 3.11, `int()` refuses a string of more
decimal digits than this, and `str()` and `format()` an integer that has more. -/
def maxStrDigits : ℕ := 4300

/-- The number a list of decimal digits spells. -/
def digitsValue (ds : List ℕ) : ℕ := ds.foldl (fun n d => 10 * n + d) 0

/-- The decimal digits of `n`, with a comma before each digit that starts a group of three
counted from the right. -/
def groupThousands (n : ℕ) : String :=
  let ds := Nat.toDigits 10 n
  ⟨(ds.enum.map fun (i, d) => if i ≠ 0 ∧ (ds.length - i) % 3 = 0 then [',', d] else [d]).flatten⟩

example : groupThousands 6549 = "6,549" := by decide

/-- `f"{n:,}"`: `ValueError` for an integer of more than `maxStrDigits` digits, that is one of at
least `10 ^ maxStrDigits`. -/
def formatThousands (n : ℕ) : Except ValueError String :=
  if 10 ^ maxStrDigits ≤ n then throw ⟨[]⟩ else pure (groupThousands n)

lemma formatThousands_of_lt {n : ℕ} (h : n < 10 ^ maxStrDigits) :
    formatThousands n = .ok (groupThousands n) :=
  if_neg (Nat.not_le.mpr h)

lemma formatThousands_ok_iff {n : ℕ} :
    (∃ t, formatThousands n = .ok t) ↔ n < 10 ^ maxStrDigits := by
  unfold formatThousands
  split_ifs with h
  · exact iff_of_false (fun ⟨_, h'⟩ => by cases h') (Nat.not_lt.mpr h)
  · exact iff_of_true ⟨_, rfl⟩ (Nat.not_le.mp h)

/-- Digits below ten, read after `a`, stay below `a + 1` shifted by their number. -/
lemma foldl_digits_lt {ds : List ℕ} (h : ∀ d ∈ ds, d < 10) (a : ℕ) :
    ds.foldl (fun n d => 10 * n + d) a < (a + 1) * 10 ^ ds.length := by
  induction ds generalizing a with
  | nil => simp
  | cons d ds ih =>
    rw [List.forall_mem_cons] at h
    calc _ < (10 * a + d + 1) * 10 ^ ds.length := ih h.2 _
      _ ≤ (a + 1) * 10 * 10 ^ ds.length := Nat.mul_le_mul_right _ (by omega)
      _ = (a + 1) * 10 ^ (d :: ds).length := by
        rw [List.length_cons, Nat.pow_succ, Nat.mul_assoc, Nat.mul_comm 10]

lemma digitsValue_lt {ds : List ℕ} (h : ∀ d ∈ ds, d < 10) : digitsValue ds < 10 ^ ds.length := by
  simpa using foldl_digits_lt h 0

variable [PyUnicode]

open PyUnicode

/-- `int(s)` on a string of digits: Python rejects the empty string, and one of more than
`maxStrDigits` digits. -/
def pyInt (s : List Char) : Option ℕ :=
  match s.mapM digit with
  | some (d :: ds) =>
    if maxStrDigits < (d :: ds).length then none else some (digitsValue (d :: ds))
  | _ => none

/-- `float(s)` on a string of digits and points: Python accepts it when it has at most one
point and at least one digit. -/
def pyFloat {F : Type} [PyFloat F] (s : List Char) : Option F :=
  match s.splitOn '.' with
  | [a] => decimal a []
  | [a, b] => decimal a b
  | _ => none
where
  /-- The literal with integer digits `a` and fraction digits `b`. -/
  decimal (a b : List Char) : Option F :=
    match (a ++ b).mapM digit with
    | some (d :: ds) => some (PyFloat.ofDecimal (digitsValue (d :: ds)) b.length)
    | _ => none

lemma mapM_digit_eq {l : List Char} (h : ∀ c ∈ l, (digit c).isSome) :
    l.mapM digit = some (l.filterMap digit) := by
  induction l with
  | nil => rfl
  | cons c l ih =>
    simp only [List.mem_cons, forall_eq_or_imp] at h
    obtain ⟨v, hv⟩ := Option.isSome_iff_exists.mp h.1
    rw [List.mapM_cons, hv, ih h.2, List.filterMap_cons, hv]
    rfl

lemma length_filterMap_digit {l : List Char} (h : ∀ c ∈ l, (digit c).isSome) :
    (l.filterMap digit).length = l.length := by
  rw [List.length_filterMap_eq_countP, List.countP_eq_length.mpr h]

/-- The values of digits are below ten. -/
lemma lt_of_mem_mapM_digit {l : List Char} {ds : List ℕ} (h : l.mapM digit = some ds) :
    ∀ d ∈ ds, d < 10 := by
  induction l generalizing ds with
  | nil => cases h; simp
  | cons c l ih =>
    rw [List.mapM_cons] at h
    cases hc : digit c with
    | none => rw [hc] at h; cases h
    | some d =>
      cases hl : l.mapM digit with
      | none => rw [hc, hl] at h; cases h
      | some ds' =>
        rw [hc, hl] at h
        cases h
        exact List.forall_mem_cons.mpr ⟨digit_lt c d hc, ih hl⟩

/-- `int` reads a string of digits as the number it spells, when it is neither empty nor longer
than `maxStrDigits`. -/
lemma pyInt_of_digits {l : List Char} (h : ∀ c ∈ l, (digit c).isSome) :
    pyInt l = if l ≠ [] ∧ l.length ≤ maxStrDigits then some (digitsValue (l.filterMap digit))
      else none := by
  have hds := length_filterMap_digit h
  unfold pyInt
  rw [mapM_digit_eq h]
  cases hd : l.filterMap digit with
  | nil =>
    rw [hd, List.length_nil] at hds
    rw [if_neg (fun hl => hl.1 (List.eq_nil_of_length_eq_zero hds.symm))]
  | cons d ds =>
    rw [hd, List.length_cons] at hds
    have hne : l ≠ [] := fun hl => by rw [hl, List.length_nil] at hds; cases hds
    dsimp only
    by_cases hlen : l.length ≤ maxStrDigits
    · rw [if_neg (by rw [List.length_cons]; omega), if_pos ⟨hne, hlen⟩]
    · rw [if_pos (by rw [List.length_cons]; omega), if_neg fun h => hlen h.2]

/-- What `int` returns is below `10 ^ maxStrDigits`. -/
lemma pyInt_lt {l : List Char} {v : ℕ} (h : pyInt l = some v) : v < 10 ^ maxStrDigits := by
  unfold pyInt at h
  split at h
  · rename_i ds hds
    split_ifs at h with hlen
    cases h
    exact lt_of_lt_of_le (digitsValue_lt (lt_of_mem_mapM_digit hds))
      (Nat.pow_le_pow_right (by decide) (Nat.not_lt.mp hlen))
  · cases h

/-- `float` reads digits `a` before the point and `b` after it as the number they spell, scaled
down by `b`'s length. -/
lemma pyFloat_decimal {F : Type} [PyFloat F] {a b : List Char}
    (h : ∀ c ∈ a ++ b, (digit c).isSome) (hne : a ++ b ≠ []) :
    pyFloat.decimal a b =
      some (PyFloat.ofDecimal (F := F) (digitsValue ((a ++ b).filterMap digit)) b.length) := by
  unfold pyFloat.decimal
  obtain ⟨c, l, hcl⟩ := List.exists_cons_of_ne_nil hne
  obtain ⟨v, hv⟩ := Option.isSome_iff_exists.mp (h c (hcl ▸ List.mem_cons_self c l))
  rw [mapM_digit_eq h, hcl, List.filterMap_cons, hv]

end BenchReport
