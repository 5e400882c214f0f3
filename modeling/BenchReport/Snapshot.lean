import BenchReport.Python.Text

/-!
# The snapshot checker

`check.py` validates the Python type stubs that facet-python's snapshot tests record. A snapshot
file is in insta's format: a header between two `---` lines, then the recorded text.
`extract_python_code` takes the third `---`-separated part of the file, `add_imports_if_needed`
puts the `typing` imports in front of it, and `main` checks each file's code, first with
`compile`, then with `mypy --strict`, sorting the file into one of three lists.

The two checks are external programs and are kept abstract (`Checkers`). The extractor gives
back the recorded text of any snapshot whose header has no `---`, cut at the text's own first
`---` if it has one (`extractPythonCode_snapshotText`). Over any list of files, each of `main`'s
lists holds, in order, the files with that outcome (`foldl_checkFile`); its three counts add up to
the files with code (`main_counts`), and it exits with `0` exactly when there is a file and the code
of every file that has some compiles and type-checks (`main_eq_zero_iff`).
-/

namespace BenchReport

namespace Snapshot

/-! ### Reading a snapshot -/

/-- `s.split(sep)`, scanning left to right: `skip` counts the characters of a separator just
found that are still to be passed over. -/
def splitSepAux (sep : List Char) : ℕ → List Char → List Char → List (List Char)
  | _, acc, [] => [acc]
  | skip + 1, acc, _ :: cs => splitSepAux sep skip acc cs
  | 0, acc, c :: cs =>
    if sep <+: c :: cs then acc :: splitSepAux sep (sep.length - 1) [] cs
    else splitSepAux sep 0 (acc ++ [c]) cs

/-- `s.split(sep)` for a non-empty separator: the pieces between its occurrences, found left to
right without overlaps. -/
def splitSep (sep s : List Char) : List (List Char) := splitSepAux sep 0 [] s

/-- The separator of insta's header. -/
def separator : List Char := "---".data

/-- `extract_python_code(content)`: the third part, stripped, or nothing when there are fewer
than three. -/
def extractPythonCode [PyUnicode] (content : List Char) : List Char :=
  match splitSep separator content with
  | _ :: _ :: code :: _ => strip code
  | _ => []

/-- The imports `add_imports_if_needed` puts in front. -/
def preamble : List Char := "from typing import Any, Literal, Required, TypedDict, Union\n\n".data

/-- `add_imports_if_needed(code)`. -/
def addImportsIfNeeded (code : List Char) : List Char :=
  if ¬ "from typing import".data <+: code ∧ ¬ "import ".data <+: code then preamble ++ code
  else code

/-- insta's layout of a snapshot file: the header between two separators, then the recorded
text. -/
def snapshotText (header body : List Char) : List Char := separator ++ header ++ separator ++ body

lemma splitSepAux_length_append (sep l r acc : List Char) :
    splitSepAux sep l.length acc (l ++ r) = splitSepAux sep 0 acc r := by
  induction l with
  | nil => rfl
  | cons c l ih => simpa [splitSepAux] using ih

lemma splitSepAux_ne_nil (sep : List Char) (s : List Char) :
    ∀ n acc, splitSepAux sep n acc s ≠ [] := by
  induction s with
  | nil => simp [splitSepAux]
  | cons c s ih =>
    intro n acc
    cases n with
    | succ n => exact ih n acc
    | zero =>
      rw [splitSepAux]
      split_ifs
      · exact List.cons_ne_nil _ _
      · exact ih 0 _

/-- The first piece ends at the first separator; one can start no earlier than `a`'s end when
`a`, followed by all but the separator's last character, does not contain it. -/
lemma splitSepAux_append_sep {sep a : List Char} (hne : sep ≠ [])
    (h : ¬ sep <:+: a ++ sep.dropLast) (b acc : List Char) :
    splitSepAux sep 0 acc (a ++ (sep ++ b)) = (acc ++ a) :: splitSepAux sep 0 [] b := by
  induction a generalizing acc with
  | nil =>
    obtain ⟨c, cs, rfl⟩ := List.exists_cons_of_ne_nil hne
    rw [List.nil_append, List.cons_append, splitSepAux,
      if_pos (show c :: cs <+: c :: (cs ++ b) from List.prefix_append (c :: cs) b),
      List.length_cons, Nat.add_sub_cancel, splitSepAux_length_append, List.append_nil]
  | cons c a ih =>
    have hpos := List.length_pos.mpr hne
    have hnp : ¬ sep <+: c :: (a ++ (sep ++ b)) := fun hp => by
      have hpre : (c :: a) ++ sep.dropLast <+: (c :: a) ++ (sep ++ b) :=
        (List.prefix_append_right_inj (c :: a)).mpr
          ((List.dropLast_prefix sep).trans (List.prefix_append sep b))
      refine h (List.prefix_of_prefix_length_le hp hpre ?_).isInfix
      simp only [List.length_append, List.length_cons, List.length_dropLast]
      omega
    rw [List.cons_append, splitSepAux, if_neg hnp,
      ih (fun hi => h (hi.trans (List.suffix_cons c _).isInfix))]
    simp

/-- The code of a snapshot whose header has no separator is its recorded text up to the text's
own first separator, if it has one, stripped. -/
theorem extractPythonCode_snapshotText [PyUnicode] (header body : List Char)
    (hheader : ¬ separator <:+: header ++ "--".data) :
    extractPythonCode (snapshotText header body) = strip ((splitSep separator body).headD []) := by
  have hsplit : splitSep separator (snapshotText header body) =
      [] :: header :: splitSep separator body := by
    have h := @splitSepAux_append_sep separator [] (by decide) (by decide)
      (header ++ (separator ++ body)) []
    rw [splitSepAux_append_sep (by decide) hheader] at h
    simpa [splitSep, snapshotText] using h
  obtain ⟨p, ps, hp⟩ := List.exists_cons_of_ne_nil (splitSepAux_ne_nil separator body 0 [])
  rw [extractPythonCode, hsplit]
  simp only [splitSep, hp]
  rfl

theorem extractPythonCode_stubSnapshot :
    ¬ separator <:+: "\nsource: stub\n".data ++ "--".data ∧
      extractPythonCode (snapshotText "\nsource: stub\n".data "\nx: int\n".data) =
        strip ((splitSep separator "\nx: int\n".data).headD []) :=
  ⟨by decide, extractPythonCode_snapshotText _ _ (by decide)⟩

/-! ### Checking the files -/

/-- `validate_syntax` (Python's `compile`) and the verdict of `typecheck_code` (`mypy --strict`),
on a file's prepared code and its name. -/
structure Checkers where
  validSyntax : List Char → String → Bool
  typecheck : List Char → String → Bool

/-- `syntax_failed`, `typecheck_failed` and `passed`. -/
structure Lists where
  syntaxFailed : List String
  typecheckFailed : List String
  passed : List String
  deriving DecidableEq, Repr

variable [PyUnicode] (chk : Checkers)

/-- The body of `main`'s loop for one file, its name and its content. -/
def checkFile (st : Lists) (file : String × List Char) : Lists :=
  let pythonCode := extractPythonCode file.2
  if pythonCode = [] then st
  else
    let pythonCode := addImportsIfNeeded pythonCode
    if !chk.validSyntax pythonCode file.1 then { st with syntaxFailed := st.syntaxFailed ++ [file.1] }
    else if chk.typecheck pythonCode file.1 then { st with passed := st.passed ++ [file.1] }
    else { st with typecheckFailed := st.typecheckFailed ++ [file.1] }

/-- `main()` on the sorted snapshot files: the lists, and the exit status. -/
def main (snapFiles : List (String × List Char)) : Lists × ℕ :=
  if snapFiles = [] then (⟨[], [], []⟩, 1)
  else
    let st := snapFiles.foldl (checkFile chk) ⟨[], [], []⟩
    (st, if st.syntaxFailed ≠ [] ∨ st.typecheckFailed ≠ [] then 1 else 0)

/-! ### A run -/

/-- The branch of the loop's body a file takes. -/
inductive Outcome
  | noCode
  | syntaxError
  | typeError
  | passed
  deriving DecidableEq, Repr

/-- The outcome of a file. -/
def outcome (file : String × List Char) : Outcome :=
  let pythonCode := extractPythonCode file.2
  if pythonCode = [] then .noCode
  else if !chk.validSyntax (addImportsIfNeeded pythonCode) file.1 then .syntaxError
  else if chk.typecheck (addImportsIfNeeded pythonCode) file.1 then .passed
  else .typeError

/-- The names of the files with an outcome, in order. -/
def filesWith (o : Outcome) (files : List (String × List Char)) : List String :=
  (files.filter fun f => outcome chk f = o).map Prod.fst

lemma filesWith_cons (o : Outcome) (f : String × List Char) (files : List (String × List Char)) :
    filesWith chk o (f :: files) =
      (if outcome chk f = o then [f.1] else []) ++ filesWith chk o files := by
  simp only [filesWith, List.filter_cons]
  split_ifs <;> simp_all

/-- The lists after a file with an outcome: its name appended to the list of the outcome. -/
def Lists.add (st : Lists) (name : String) : Outcome → Lists
  | .noCode => st
  | .syntaxError => { st with syntaxFailed := st.syntaxFailed ++ [name] }
  | .typeError => { st with typecheckFailed := st.typecheckFailed ++ [name] }
  | .passed => { st with passed := st.passed ++ [name] }

/-- The loop's body appends the file's name to the list of its outcome. -/
lemma checkFile_eq (st : Lists) (f : String × List Char) :
    checkFile chk st f = st.add f.1 (outcome chk f) := by
  simp only [checkFile, outcome]
  split_ifs <;> rfl

/-- Over any files, each list holds the files with its outcome, in order. -/
lemma foldl_checkFile (files : List (String × List Char)) (st : Lists) :
    files.foldl (checkFile chk) st = ⟨st.syntaxFailed ++ filesWith chk .syntaxError files,
      st.typecheckFailed ++ filesWith chk .typeError files,
      st.passed ++ filesWith chk .passed files⟩ := by
  induction files generalizing st with
  | nil => simp [filesWith]
  | cons f files ih =>
    rw [List.foldl_cons, checkFile_eq, ih, filesWith_cons, filesWith_cons, filesWith_cons]
    cases outcome chk f <;> simp [Lists.add]

lemma outcome_eq_noCode_iff (f : String × List Char) :
    outcome chk f = .noCode ↔ extractPythonCode f.2 = [] := by
  simp only [outcome]
  split_ifs <;> simp_all

/-- A file fails neither check exactly when it has no code or its code passes both. -/
lemma outcome_ne_iff (f : String × List Char) :
    (outcome chk f ≠ .syntaxError ∧ outcome chk f ≠ .typeError) ↔
      (extractPythonCode f.2 ≠ [] →
        chk.validSyntax (addImportsIfNeeded (extractPythonCode f.2)) f.1 = true ∧
          chk.typecheck (addImportsIfNeeded (extractPythonCode f.2)) f.1 = true) := by
  simp only [outcome]
  split_ifs <;> simp_all

/-- Each file with code is in exactly one of the three lists, and a file without code in none. -/
lemma filesWith_length_add (files : List (String × List Char)) :
    (filesWith chk .passed files).length + (filesWith chk .syntaxError files).length +
        (filesWith chk .typeError files).length =
      (files.filter fun f => extractPythonCode f.2 ≠ []).length := by
  induction files with
  | nil => rfl
  | cons f files ih =>
    have hno := outcome_eq_noCode_iff chk f
    rw [filesWith_cons, filesWith_cons, filesWith_cons, List.filter_cons]
    cases h : outcome chk f <;> simp_all <;> omega

/-- The summary's three counts add up to the files with code: each of those is in exactly one
list, and a file without code, skipped with a warning, is in none. -/
theorem main_counts (files : List (String × List Char)) :
    (main chk files).1.passed.length + (main chk files).1.syntaxFailed.length +
        (main chk files).1.typecheckFailed.length =
      (files.filter fun f => extractPythonCode f.2 ≠ []).length := by
  unfold main
  split_ifs with hf
  · simp [hf]
  · simpa only [foldl_checkFile, List.nil_append] using filesWith_length_add chk files

/-- `main` exits with `0` exactly when there is a snapshot file and the code of every file that
has some compiles and passes `mypy --strict`, with the `typing` imports put in front when it
has none. -/
theorem main_eq_zero_iff (files : List (String × List Char)) :
    (main chk files).2 = 0 ↔ files ≠ [] ∧ ∀ f ∈ files, extractPythonCode f.2 ≠ [] →
      chk.validSyntax (addImportsIfNeeded (extractPythonCode f.2)) f.1 = true ∧
        chk.typecheck (addImportsIfNeeded (extractPythonCode f.2)) f.1 = true := by
  by_cases hf : files = []
  · subst hf
    simp [main]
  have hnil : ∀ o, filesWith chk o files = [] ↔ ∀ f ∈ files, outcome chk f ≠ o := fun o => by
    simp only [filesWith, List.map_eq_nil_iff, List.filter_eq_nil_iff, decide_eq_true_eq]
  have hchecks : (∀ f ∈ files, extractPythonCode f.2 ≠ [] →
      chk.validSyntax (addImportsIfNeeded (extractPythonCode f.2)) f.1 = true ∧
        chk.typecheck (addImportsIfNeeded (extractPythonCode f.2)) f.1 = true) ↔
      filesWith chk .syntaxError files = [] ∧ filesWith chk .typeError files = [] := by
    rw [hnil, hnil, ← forall₂_and]
    exact forall₂_congr fun f _ => (outcome_ne_iff chk f).symm
  rw [hchecks, main, if_neg hf, foldl_checkFile, ite_eq_right_iff]
  simp only [List.nil_append, Nat.one_ne_zero, imp_false, not_or, not_not, ne_eq, hf,
    not_false_eq_true, true_and]

end Snapshot

/-- A `---` in the recorded code cuts it: only what comes before is checked. -/
example : Snapshot.extractPythonCode
    (Snapshot.snapshotText "\nsource: stub\n".data "\nx: int\n# ---\ny: str\n".data) =
      "x: int\n#".data := by
  decide

end BenchReport
