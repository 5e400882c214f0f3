import Mathlib.Data.List.Infix
import Mathlib.Data.List.Basic

/-!
# Python strings

A Python `str` is a sequence of code points, so a string the scripts take apart is a
`List Char` here. The character classes of `re` (`\w`, `\s`, `\d`) and the digit values that
`int()` and `float()` read come from Python's Unicode database; `PyUnicode` carries them, with
fields stating what the database says of the characters that the report's patterns spell out.
Every result of the development holds for any database with those properties.

Besides the classes, this file gives the string methods the scripts call: `in`, `replace`
(with an empty replacement), `strip`, and `split('\n')`, which is `List.splitOn`.
-/

namespace BenchReport

/-! ### Character classes -/

/-- `\w` on ASCII: letters, digits and the underscore. -/
def asciiWord (c : Char) : Bool := c.isAlphanum || c == '_'

/-- `\s` on ASCII: the characters `str.isspace()` accepts. -/
def asciiSpace (c : Char) : Bool :=
  c ∈ [' ', '\t', '\n', '\r', '\x0b', '\x0c', '\x1c', '\x1d', '\x1e', '\x1f']

/-- The decimal value of an ASCII digit. -/
def asciiDigit (c : Char) : Option ℕ := if c.isDigit then some (c.toNat - '0'.toNat) else none

/-- The characters outside ASCII that the patterns and the input formats spell out. -/
def patternGlyphs : List Char := ['├', '╰', '─', '│', 'µ']

/-- Python's Unicode database, as far as `re`, `int()`, `float()` and `str.title()` read it. -/
class PyUnicode where
  /-- `\w`: `str.isalnum()` or the underscore. -/
  isWord : Char → Bool
  /-- `\s`: `str.isspace()`. -/
  isSpace : Char → Bool
  /-- `\d` and the value of the digit: the characters of category `Nd`. -/
  digit : Char → Option ℕ
  /-- `str.title()`. -/
  title : String → String
  ascii : ∀ c : Char, c.toNat < 128 →
    isWord c = asciiWord c ∧ isSpace c = asciiSpace c ∧ digit c = asciiDigit c
  glyphs : ∀ c ∈ patternGlyphs, isSpace c = false ∧ digit c = none ∧ (c ≠ 'µ' → isWord c = false)
  word_of_digit : ∀ c, (digit c).isSome → isWord c = true
  digit_lt : ∀ c d, digit c = some d → d < 10
  not_space_of_word : ∀ c, isWord c = true → isSpace c = false

/-- `str.title()` on ASCII: a letter is upper case after a non-letter, lower case otherwise. -/
def asciiTitle (s : String) : String :=
  ⟨(s.data.foldl (fun (acc : List Char × Bool) c =>
      (acc.1 ++ [if acc.2 then c.toLower else c.toUpper], c.isAlpha)) ([], false)).1⟩

/-- The database restricted to ASCII, for evaluating the model on concrete inputs. -/
instance asciiUnicode : PyUnicode where
  isWord := asciiWord
  isSpace := asciiSpace
  digit := asciiDigit
  title := asciiTitle
  ascii _ _ := ⟨rfl, rfl, rfl⟩
  glyphs := by decide
  word_of_digit c h := by
    simp only [asciiDigit] at h
    split at h
    · simp_all [asciiWord, Char.isAlphanum]
    · simp at h
  digit_lt c d h := by
    simp only [asciiDigit] at h
    split at h
    · cases h
      rename_i hc
      simp only [Char.isDigit, Bool.and_eq_true, decide_eq_true_eq, Char.le_def] at hc
      have h9 : c.val.toNat ≤ 57 := hc.2
      exact Nat.lt_of_le_of_lt (Nat.sub_le_sub_right h9 _) (by decide)
    · simp at h
  not_space_of_word c h := by
    cases hs : asciiSpace c
    · rfl
    · simp only [asciiSpace, List.mem_cons, List.mem_singleton, List.not_mem_nil, or_false,
        decide_eq_true_eq] at hs
      rcases hs with rfl | rfl | rfl | rfl | rfl | rfl | rfl | rfl | rfl | rfl <;> revert h <;>
        decide

/-! ### String methods -/

/-- `s.replace(pat, '')`, scanning left to right: `skip` counts the characters of an occurrence
still to drop. -/
def removeAllAux (pat : List Char) : ℕ → List Char → List Char
  | _, [] => []
  | skip + 1, _ :: cs => removeAllAux pat skip cs
  | 0, c :: cs =>
    if pat <+: c :: cs then removeAllAux pat (pat.length - 1) cs
    else c :: removeAllAux pat 0 cs

/-- `s.replace(pat, '')`: every occurrence of `pat`, leftmost first and without overlaps,
removed. An empty `pat` leaves `s` unchanged, as in Python. -/
def removeAll (pat s : List Char) : List Char :=
  if pat = [] then s else removeAllAux pat 0 s

lemma removeAllAux_length_append (pat l r : List Char) :
    removeAllAux pat l.length (l ++ r) = removeAllAux pat 0 r := by
  induction l with
  | nil => rfl
  | cons c l ih => simpa [removeAllAux] using ih

lemma removeAllAux_eq_self {pat s : List Char} (h : ¬ pat <:+: s) :
    removeAllAux pat 0 s = s := by
  induction s with
  | nil => rfl
  | cons c s ih =>
    rw [removeAllAux, if_neg (fun hc => h hc.isInfix),
      ih (fun hs => h (hs.trans (List.suffix_cons c s).isInfix))]

lemma removeAll_eq_self {pat s : List Char} (h : ¬ pat <:+: s) : removeAll pat s = s := by
  unfold removeAll
  split_ifs with hp
  · rfl
  · exact removeAllAux_eq_self h

/-- `s.replace(c, '')` for a single character removes each of its occurrences. -/
lemma removeAll_singleton (c : Char) (s : List Char) : removeAll [c] s = s.filter (· ≠ c) := by
  rw [removeAll, if_neg (List.cons_ne_nil c [])]
  induction s with
  | nil => rfl
  | cons x s ih =>
    by_cases hx : x = c
    · subst hx; simp [removeAllAux, ih]
    · simp [removeAllAux, hx, ih, Ne.symm hx]

/-- A pattern whose first character does not recur in it cannot overlap a later copy of
itself: this is what makes `removeAll` take off a trailing copy. -/
lemma not_prefix_append_self {p : Char} {ps t : List Char} (hp : p ∉ ps) (ht : t ≠ [])
    (hinf : ¬ p :: ps <:+: t) : ¬ p :: ps <+: t ++ p :: ps := by
  intro h
  rcases le_or_lt (p :: ps).length t.length with hle | hlt
  · exact hinf (List.prefix_of_prefix_length_le h (List.prefix_append t _) hle).isInfix
  · -- `t` is a proper prefix of the pattern, whose character at `t.length` is then `p`
    obtain ⟨c, t', rfl⟩ := List.exists_cons_of_ne_nil ht
    have hget := h.getElem hlt
    rw [List.getElem_append_right (le_refl _)] at hget
    simp only [Nat.sub_self, List.getElem_cons_zero, List.length_cons, List.getElem_cons_succ]
      at hget
    exact hp (hget ▸ List.getElem_mem _)

/-- Removing a pattern with no inner copy of its first character from `t ++ pat`, where `t`
does not contain it, gives back `t`. -/
lemma removeAll_append_self {p : Char} {ps t : List Char} (hp : p ∉ ps)
    (hinf : ¬ p :: ps <:+: t) : removeAll (p :: ps) (t ++ p :: ps) = t := by
  rw [removeAll, if_neg (List.cons_ne_nil _ _)]
  induction t with
  | nil =>
    have h := removeAllAux_length_append (p :: ps) ps []
    rw [List.append_nil] at h
    rw [List.nil_append, removeAllAux, if_pos (List.prefix_refl _), List.length_cons,
      Nat.add_sub_cancel, h]
    rfl
  | cons c t ih =>
    have hn := not_prefix_append_self hp (List.cons_ne_nil c t) hinf
    rw [List.cons_append] at hn
    rw [List.cons_append, removeAllAux, if_neg hn,
      ih (fun h => hinf (h.trans (List.suffix_cons c t).isInfix))]

/-- A prefix of `l₁ ++ c :: l₂` that does not contain `c` is a prefix of `l₁`. -/
lemma prefix_of_prefix_append_cons {α : Type} {x l₂ : List α} {c : α} (l₁ : List α) (hc : c ∉ x)
    (h : x <+: l₁ ++ c :: l₂) : x <+: l₁ := by
  rcases le_or_lt x.length l₁.length with hle | hlt
  · exact List.prefix_of_prefix_length_le h (List.prefix_append l₁ _) hle
  · have hget := h.getElem hlt
    rw [List.getElem_append_right (le_refl _)] at hget
    simp only [Nat.sub_self, List.getElem_cons_zero] at hget
    exact absurd (hget ▸ List.getElem_mem _) hc

/-- An infix of `l₁ ++ c :: l₂` that does not contain `c` is an infix of `l₁` or of `l₂`. -/
lemma infix_append_cons {α : Type} {x l₁ l₂ : List α} {c : α} (hc : c ∉ x)
    (h : x <:+: l₁ ++ c :: l₂) : x <:+: l₁ ∨ x <:+: l₂ := by
  induction l₁ with
  | nil =>
    exact (List.infix_cons_iff.mp h).imp
      (fun hp => (prefix_of_prefix_append_cons [] hc hp).isInfix) id
  | cons a l₁ ih =>
    rcases List.infix_cons_iff.mp h with hp | hi
    · exact .inl (prefix_of_prefix_append_cons (a :: l₁) hc hp).isInfix
    · exact (ih hi).imp_left fun h' => h'.trans (List.suffix_cons a l₁).isInfix

variable [PyUnicode]

open PyUnicode

lemma isWord_of_ascii {c : Char} (h : c.toNat < 128) : isWord c = asciiWord c := (ascii c h).1

lemma isSpace_of_ascii {c : Char} (h : c.toNat < 128) : isSpace c = asciiSpace c :=
  (ascii c h).2.1

lemma digit_of_ascii {c : Char} (h : c.toNat < 128) : digit c = asciiDigit c := (ascii c h).2.2

lemma not_word_of_space {c : Char} (h : isSpace c = true) : isWord c = false := by
  cases hw : isWord c
  · rfl
  · simp [not_space_of_word c hw] at h

lemma digit_eq_none_of_space {c : Char} (h : isSpace c = true) : digit c = none := by
  cases hd : digit c
  · rfl
  · have := word_of_digit c (by simp [hd]); simp [not_word_of_space h] at this

lemma isSpace_newline : isSpace '\n' = true := by rw [isSpace_of_ascii (by decide)]; decide

lemma ne_newline_of_word {c : Char} (h : isWord c = true) : c ≠ '\n' := by
  rintro rfl
  have := not_space_of_word _ h
  rw [isSpace_newline] at this
  cases this

lemma isSpace_eq_false {c : Char} (h : c.toNat < 128 ∧ asciiSpace c = false) :
    isSpace c = false := by
  rw [isSpace_of_ascii h.1, h.2]

lemma isSpace_space : isSpace ' ' = true := by rw [isSpace_of_ascii (by decide)]; decide

lemma isSpace_glyph {c : Char} (h : c ∈ patternGlyphs) : isSpace c = false := (glyphs c h).1

lemma ne_of_space {c c' : Char} (h : isSpace c = true) (h' : isSpace c' = false) : c ≠ c' := by
  rintro rfl; rw [h] at h'; cases h'

lemma ne_newline_of_not_space {c : Char} (h : isSpace c = false) : c ≠ '\n' :=
  (ne_of_space isSpace_newline h).symm

/-- `s.strip()`. -/
def strip (s : List Char) : List Char :=
  ((s.dropWhile isSpace).reverse.dropWhile isSpace).reverse

omit [PyUnicode] in
lemma dropWhile_of_head {p : Char → Bool} {l : List Char} (h : ∀ c ∈ l.head?, p c = false) :
    l.dropWhile p = l := by
  cases l with
  | nil => rfl
  | cons c l => simp [List.dropWhile_cons, h c rfl]

/-- A string that neither starts nor ends with whitespace is its own `strip()`. -/
lemma strip_eq_self {s : List Char} (h₁ : ∀ c ∈ s.head?, isSpace c = false)
    (h₂ : ∀ c ∈ s.getLast?, isSpace c = false) : strip s = s := by
  rw [strip, dropWhile_of_head h₁, dropWhile_of_head (by rwa [List.head?_reverse]),
    List.reverse_reverse]

omit [PyUnicode] in
lemma length_dropWhile_lt {p : Char → Bool} {l : List Char} {c : Char} (hc : c ∈ l.head?)
    (hp : p c = true) : (l.dropWhile p).length < l.length := by
  cases l with
  | nil => cases hc
  | cons d l =>
    obtain rfl : d = c := by simpa using hc
    rw [List.dropWhile_cons_of_pos hp, List.length_cons]
    exact Nat.lt_succ_of_le (List.dropWhile_sublist p).length_le

/-- `strip()` leaves a string alone exactly when it neither starts nor ends with whitespace. -/
lemma strip_eq_self_iff {s : List Char} :
    strip s = s ↔ (∀ c ∈ s.head?, isSpace c = false) ∧ ∀ c ∈ s.getLast?, isSpace c = false := by
  refine ⟨fun h => ⟨fun c hc => ?_, fun c hc => ?_⟩, fun h => strip_eq_self h.1 h.2⟩ <;>
    by_contra hsp <;> rw [Bool.not_eq_false] at hsp <;>
    have hlen := congrArg List.length h <;>
    rw [strip, List.length_reverse] at hlen
  · have h₁ := (List.dropWhile_sublist (l := (s.dropWhile isSpace).reverse) isSpace).length_le
    have h₂ := length_dropWhile_lt hc hsp
    rw [List.length_reverse] at h₁
    omega
  · rcases eq_or_ne (s.dropWhile isSpace) [] with ht | ht
    · rw [ht] at hlen
      obtain rfl : s = [] := List.eq_nil_of_length_eq_zero hlen.symm
      cases hc
    · have hu : c ∈ (s.dropWhile isSpace).reverse.head? := by
        rwa [List.head?_reverse, ← List.getLast?_append_of_ne_nil (s.takeWhile isSpace) ht,
          List.takeWhile_append_dropWhile]
      have h₁ := length_dropWhile_lt hu hsp
      have h₂ := (List.dropWhile_sublist (l := s) isSpace).length_le
      rw [List.length_reverse] at h₁
      omega

/-! ### Reading a file -/

omit [PyUnicode] in
/-- `Path.read_text()` on the decoded text: its universal newlines read `\r\n` and a lone `\r`
as `\n`. -/
def readText : List Char → List Char
  | [] => []
  | '\r' :: '\n' :: s => '\n' :: readText s
  | '\r' :: s => '\n' :: readText s
  | c :: s => c :: readText s

omit [PyUnicode] in
/-- A text without `\r` is read as it is. -/
lemma readText_of_not_mem {s : List Char} (h : '\r' ∉ s) : readText s = s := by
  induction s with
  | nil => rfl
  | cons c s ih =>
    rw [List.mem_cons, not_or] at h
    rw [readText.eq_4 c s (fun t => by simp [Ne.symm h.1]) (Ne.symm h.1), ih h.2]

end BenchReport
