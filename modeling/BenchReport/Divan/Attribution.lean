import BenchReport.Divan

/-!
# What the divan parser stores, and when it raises

`parse_divan_output` attributes each result line to the nearest section line above it, and
each section line assigns a fresh entry to its benchmark. In terms of the text, then, the time
stored for a benchmark, an operation and a target is that of the last result line for them
among the lines of the *last* section naming the benchmark (`parseDivanOutput_get?`): a
benchmark whose section occurs twice keeps only the rows of its second occurrence.

The parse raises, rather than returning, exactly when a result line attributed to some section
has a number that `float` rejects (`parseDivanOutput_ok_iff`); a single such line anywhere
under a section makes the whole parse fail.
-/

namespace BenchReport

variable {F : Type}

open PyUnicode

/-! ### The last measurement of a target -/

section

variable [PyUnicode] [PyFloat F]

/-- Where `parse_bench.py` stores a result line's time: under its operation and its target. -/
def resultKey (r : ResultLine) : Op × String := (operationOf r.name, ⟨targetBase r.name⟩)

/-- The time of the last result line of `blk` with operation `op` and target `t`. -/
def lastMeasurement (blk : List (List Char)) (op : Op) (t : String) : Option F :=
  (lookupEntry (op, t)
      ((blk.filterMap (resultMatch targetChar)).map fun r => (resultKey r, r)).reverse).bind
    fun r => (measuredValue r).toOption

omit [PyUnicode] [PyFloat F] in
/-- Storing measurements one after the other leaves under each key the last one stored. -/
lemma get?_foldl_store (ms : List (ResultLine × F)) (t₀ : OpTables F) (op : Op) (t : String) :
    ((ms.foldl OpTables.store t₀).get op).get? t =
      (lookupEntry (op, t) (ms.map fun m => (resultKey m.1, m.2)).reverse).or
        ((t₀.get op).get? t) := by
  induction ms generalizing t₀ with
  | nil => simp
  | cons m ms ih =>
    rw [List.foldl_cons, ih, List.map_cons, List.reverse_cons, lookupEntry_append,
      Option.or_assoc]
    congr 1
    by_cases hop : operationOf m.1.name = op <;> by_cases ht : (⟨targetBase m.1.name⟩ : String) = t <;>
      simp [OpTables.store, resultKey, hop, ht]

/-- A section's measurements, keyed, are its result lines keyed, with their times. -/
lemma lookupEntry_measurements {blk : List (List Char)} {ms : List (ResultLine × F)}
    (h : measurements targetChar blk = .ok ms) (k : Op × String) :
    lookupEntry k (ms.map fun m => (resultKey m.1, m.2)).reverse =
      (lookupEntry k ((blk.filterMap (resultMatch targetChar)).map fun r =>
        (resultKey r, r)).reverse).bind fun r => (measuredValue r).toOption := by
  have hms : List.Forall₂ (fun r m => measuredValue r = .ok m.2 ∧ m.1 = r)
      (blk.filterMap (resultMatch targetChar)) ms :=
    ((mapM_eq_ok_iff _).mp h).imp fun r m hm => by
      obtain ⟨v, hv, rfl⟩ := (map_eq_ok_iff _ _ _).mp hm
      exact ⟨hv, rfl⟩
  have hkeyed : List.Forall₂ (fun a b => b.1 = a.1 ∧ measuredValue a.2 = .ok b.2)
      (((blk.filterMap (resultMatch targetChar)).map fun r => (resultKey r, r)).reverse)
      (ms.map fun m => (resultKey m.1, m.2)).reverse := by
    refine List.forall₂_reverse_iff.mpr (List.forall₂_map_left_iff.mpr
      (List.forall₂_map_right_iff.mpr (hms.imp fun r m hm => ?_)))
    obtain ⟨hv, rfl⟩ := hm
    exact ⟨rfl, hv⟩
  have hrel := lookupEntry_rel (P := fun r v => measuredValue r = .ok v) hkeyed k
  revert hrel
  generalize lookupEntry k _ = x
  generalize lookupEntry k _ = y
  rintro (hv | _)
  · simp [hv, Except.toOption]
  · rfl

/-- On a successful parse, the time stored for benchmark `b`, operation `op` and target `t` is
the last one measured for `op` and `t` among the lines of the last section named `b`; there is
none if no section is named `b`. -/
theorem parseDivanOutput_get? {text : String} {R : PyDict String (OpTables F)}
    (h : parseDivanOutput text = .ok R) (b : String) (op : Op) (t : String) :
    ((R.get? b).bind fun e => (e.get op).get? t) =
      (lookupEntry b (divanSections text).reverse).bind fun blk => lastMeasurement blk op t := by
  have hrel := sectionLoop_get? divanFormat h b
  rw [sectionsOf_divanFormat] at hrel
  revert hrel
  generalize lookupEntry b _ = x
  generalize R.get? b = y
  rintro (hblk | _)
  · rw [tableOf_divanFormat] at hblk
    obtain ⟨ms, hms, rfl⟩ := (map_eq_ok_iff _ _ _).mp hblk
    simp only [Option.some_bind, get?_foldl_store, OpTables.get_empty, PyDict.get?_empty,
      Option.or_none, lookupEntry_measurements hms, lastMeasurement]
  · rfl

/-- The benchmarks of a successful parse are the names of the section lines, in the order of
their first occurrence. -/
theorem parseDivanOutput_keys {text : String} {R : PyDict String (OpTables F)}
    (h : parseDivanOutput text = .ok R) :
    R.keys = ((divanSections text).map Prod.fst).foldl insertKey [] :=
  sectionLoop_keys divanFormat h

end

theorem parseDivanOutput_keys_repeated :
    parseDivanOutput (F := ℕ) "├─ a \n├─ b \n├─ a " =
        .ok (((∅ : PyDict String (OpTables ℕ)).insert "a" .empty).insert "b" .empty) ∧
      (((∅ : PyDict String (OpTables ℕ)).insert "a" .empty).insert "b" .empty).keys =
        ((divanSections "├─ a \n├─ b \n├─ a ").map Prod.fst).foldl insertKey [] :=
  ⟨by decide, parseDivanOutput_keys (by decide)⟩

/-- The time stored under a repeated benchmark: only the second section's row is kept. -/
theorem parseDivanOutput_get?_repeated :
    parseDivanOutput (F := ℕ) "├─ a \n│  ├─ x_serialize  1 ns\n├─ a \n│  ├─ y_serialize  2 ns" =
        .ok ((∅ : PyDict String (OpTables ℕ)).insert "a" (OpTables.empty.set .serialize "y" 2)) ∧
      ((((∅ : PyDict String (OpTables ℕ)).insert "a"
          (OpTables.empty.set .serialize "y" 2)).get? "a").bind fun e =>
          (e.get .serialize).get? "y") =
        (lookupEntry "a" (divanSections
          "├─ a \n│  ├─ x_serialize  1 ns\n├─ a \n│  ├─ y_serialize  2 ns").reverse).bind
          fun blk => lastMeasurement blk .serialize "y" :=
  ⟨by decide, parseDivanOutput_get? (by decide) "a" .serialize "y"⟩

/-- A row under the first of two sections named `a` is attributed to `a`, and the parse
returns `a` with no row. -/
theorem parseDivanOutput_drops_repeated :
    divanSections "├─ a \n│  ├─ x_serialize  1 ns\n├─ a " =
        [("a", ["│  ├─ x_serialize  1 ns".data]), ("a", [])] ∧
      parseDivanOutput (F := ℕ) "├─ a \n│  ├─ x_serialize  1 ns\n├─ a " =
        .ok ((∅ : PyDict String (OpTables ℕ)).insert "a" .empty) := by
  decide

/-! ### When the parse raises -/

section

variable [PyUnicode] [PyFloat F]

/-- `parse_divan_output` of `parse_bench.py` returns exactly when `float` accepts the number of
every result line attributed to a section. -/
theorem parseDivanOutput_ok_iff (text : String) :
    (∃ R, parseDivanOutput (F := F) text = .ok R) ↔
      ∀ s ∈ divanSections text, ∀ r ∈ s.2.filterMap (resultMatch targetChar),
        (pyFloat (F := F) r.number).isSome := by
  simp only [parseDivanOutput, sectionLoop_ok_iff, sectionsOf_divanFormat, tableOf_divanFormat,
    exists_map_eq_ok, measurements_ok_iff]

end

/-- One result line with the number `1.2.3` under a section makes both versions raise. -/
theorem parseDivanOutput_malformed_number :
    parseDivanOutput (F := ℕ) "├─ simple_struct " =
        .ok ((∅ : PyDict String (OpTables ℕ)).insert "simple_struct" .empty) ∧
      parseDivanOutput (F := ℕ) "├─ simple_struct \n│  ├─ serde_json_deserialize  1.2.3 µs" =
        .error ⟨"1.2.3".data⟩ ∧
      Legacy.parseDivanOutput (F := ℕ) "├─ simple_struct " =
        .ok ((∅ : PyDict String (PyDict String ℕ)).insert "simple_struct" ∅) ∧
      Legacy.parseDivanOutput (F := ℕ)
          "├─ simple_struct \n│  ├─ serde_json_deserialize  1.2.3 µs" =
        .error ⟨"1.2.3".data⟩ := by
  decide

end BenchReport
