import BenchReport.Divan.Attribution

/-!
# The redesigned divan parser against the original one

`parse_bench.py` stores a result line's time under its operation and target, where
`parse-bench.py` stored it under the full result name. Both cut the text into the same
sections, and their name classes `[\w_]` and `\w` are the same class, so they see the same
result lines with the same times. The new parser therefore raises exactly when the old one
does; when neither does, they have the same benchmarks in the same order, and, as long as no
two result names of a section share an operation and a target, the new table of a benchmark is
the old one with each name split into its operation and its target
(`parseDivanOutput_refines`).
-/

namespace BenchReport

variable {F : Type}

open PyUnicode

section

variable [PyUnicode]

/-- No two result names of a section share an operation and a target. -/
def KeysDistinct (text : String) : Prop :=
  ∀ s ∈ divanSections text, ∀ r₁ ∈ s.2.filterMap (resultMatch isWord),
    ∀ r₂ ∈ s.2.filterMap (resultMatch isWord), resultKey r₁ = resultKey r₂ → r₁.name = r₂.name

instance instDecidableKeysDistinct (text : String) : Decidable (KeysDistinct text) :=
  inferInstanceAs (Decidable (∀ s ∈ divanSections text, ∀ r₁ ∈ s.2.filterMap (resultMatch isWord),
    ∀ r₂ ∈ s.2.filterMap (resultMatch isWord), resultKey r₁ = resultKey r₂ → r₁.name = r₂.name))

variable [PyFloat F]

omit [PyUnicode] [PyFloat F] in
/-- The old table of a section, as an assignment of each result name in turn. -/
lemma foldl_insert_eq_insertAll (ms : List (ResultLine × F)) :
    ms.foldl (fun t m => t.insert ⟨m.1.name⟩ m.2) ∅ =
      (∅ : PyDict String F).insertAll (ms.map fun m => (⟨m.1.name⟩, m.2)) := by
  rw [PyDict.insertAll, List.foldl_map]

/-- Within one section, the new lookup by operation and target is the old lookup by any name
with that operation and target. -/
lemma lookupEntry_resultKey {blk : List (List Char)} {ms : List (ResultLine × F)}
    (hms : measurements isWord blk = .ok ms)
    (hd : ∀ r₁ ∈ blk.filterMap (resultMatch isWord), ∀ r₂ ∈ blk.filterMap (resultMatch isWord),
      resultKey r₁ = resultKey r₂ → r₁.name = r₂.name) (op : Op) (t : String) (v : F) :
    lookupEntry (op, t) (ms.map fun m => (resultKey m.1, m.2)).reverse = some v ↔
      ∃ n : String, operationOf n.data = op ∧ (⟨targetBase n.data⟩ : String) = t ∧
        lookupEntry n (ms.map fun m => ((⟨m.1.name⟩ : String), m.2)).reverse = some v := by
  have hnames : ∀ n ∈ ((ms.map fun m => ((⟨m.1.name⟩ : String), m.2)).reverse).map Prod.fst,
      ∃ r ∈ blk.filterMap (resultMatch isWord), n = ⟨r.name⟩ := by
    intro n hn
    simp only [List.map_reverse, List.mem_reverse, List.map_map, List.mem_map,
      Function.comp_apply] at hn
    obtain ⟨m, hm, rfl⟩ := hn
    exact ⟨m.1, measurements_map_fst hms ▸ List.mem_map_of_mem _ hm, rfl⟩
  have hinj := lookupEntry_map_eq_some (fun n : String => (operationOf n.data,
      (⟨targetBase n.data⟩ : String))) (fun n₁ h₁ n₂ h₂ he => by
    obtain ⟨r₁, hr₁, rfl⟩ := hnames n₁ h₁
    obtain ⟨r₂, hr₂, rfl⟩ := hnames n₂ h₂
    rw [hd r₁ hr₁ r₂ hr₂ he]) (op, t) v
  simp only [List.map_reverse, List.map_map, Function.comp_def] at hinj
  simpa [resultKey, Prod.ext_iff, and_assoc] using hinj

/-- The two versions raise on the same texts: they convert the numbers of the same lines. -/
lemma parseDivanOutput_ok_iff_legacy (text : String) :
    (∃ R, parseDivanOutput (F := F) text = .ok R) ↔
      ∃ R', Legacy.parseDivanOutput (F := F) text = .ok R' := by
  simp only [parseDivanOutput, Legacy.parseDivanOutput, sectionLoop_ok_iff, sectionsOf_divanFormat,
    Legacy.sectionsOf_divanFormat, tableOf_divanFormat, tableOf_legacy_divanFormat,
    exists_map_eq_ok, measurements_ok_iff, targetChar_eq]

/-- The redesigned parser refines the original one: it raises exactly when the original does;
otherwise the two have the same benchmarks in the same order and, when no two result names of a
section share an operation and a target, the new time of a benchmark, an operation and a target
is the old time of a result name with that operation and target. -/
theorem parseDivanOutput_refines (text : String) (hd : KeysDistinct text) :
    ((∃ R, parseDivanOutput (F := F) text = .ok R) ↔
      ∃ R', Legacy.parseDivanOutput (F := F) text = .ok R') ∧
    ∀ (R : PyDict String (OpTables F)) (R' : PyDict String (PyDict String F)),
      parseDivanOutput text = .ok R → Legacy.parseDivanOutput text = .ok R' →
      R.keys = R'.keys ∧
      ∀ b op t v, ((R.get? b).bind fun e => (e.get op).get? t) = some v ↔
        ∃ n : String, operationOf n.data = op ∧ (⟨targetBase n.data⟩ : String) = t ∧
          (R'.get? b).bind (·.get? n) = some v := by
  refine ⟨parseDivanOutput_ok_iff_legacy text, fun R R' h h' => ⟨?_, fun b op t v => ?_⟩⟩
  · rw [sectionLoop_keys _ h, sectionLoop_keys _ h', sectionsOf_divanFormat,
      Legacy.sectionsOf_divanFormat]
  have hnew := sectionLoop_get? divanFormat h b
  have hold := sectionLoop_get? Legacy.divanFormat h' b
  rw [sectionsOf_divanFormat] at hnew
  rw [Legacy.sectionsOf_divanFormat] at hold
  revert hnew hold
  generalize hb : lookupEntry b (divanSections text).reverse = x
  generalize R.get? b = y
  generalize R'.get? b = y'
  rintro (hblk | _) (hblk' | _)
  · rw [tableOf_divanFormat, targetChar_eq] at hblk
    rw [tableOf_legacy_divanFormat] at hblk'
    obtain ⟨ms, hms, rfl⟩ := (map_eq_ok_iff _ _ _).mp hblk
    obtain ⟨ms', hms', rfl⟩ := (map_eq_ok_iff _ _ _).mp hblk'
    rw [hms] at hms'
    cases hms'
    have hsec := mem_of_lookupEntry hb
    rw [List.mem_reverse] at hsec
    simp only [Option.some_bind, get?_foldl_store, OpTables.get_empty, PyDict.get?_empty,
      Option.or_none, foldl_insert_eq_insertAll, PyDict.get?_insertAll]
    exact lookupEntry_resultKey hms (hd _ hsec) op t v
  · simp

end

/-- A section with a deserialize and a serialize row of one target. -/
theorem parseDivanOutput_refines_two_rows :
    KeysDistinct "├─ a \n│  ├─ x_deserialize  2 ns\n│  ├─ x_serialize  1 ns" ∧
      (((∃ R, parseDivanOutput (F := ℕ) "├─ a \n│  ├─ x_deserialize  2 ns\n│  ├─ x_serialize  1 ns" = .ok R) ↔
        ∃ R', Legacy.parseDivanOutput (F := ℕ)
          "├─ a \n│  ├─ x_deserialize  2 ns\n│  ├─ x_serialize  1 ns" = .ok R') ∧
      ∀ (R : PyDict String (OpTables ℕ)) (R' : PyDict String (PyDict String ℕ)),
        parseDivanOutput "├─ a \n│  ├─ x_deserialize  2 ns\n│  ├─ x_serialize  1 ns" = .ok R →
        Legacy.parseDivanOutput "├─ a \n│  ├─ x_deserialize  2 ns\n│  ├─ x_serialize  1 ns" =
          .ok R' →
        R.keys = R'.keys ∧
        ∀ b op t v, ((R.get? b).bind fun e => (e.get op).get? t) = some v ↔
          ∃ n : String, operationOf n.data = op ∧ (⟨targetBase n.data⟩ : String) = t ∧
            (R'.get? b).bind (·.get? n) = some v) :=
  ⟨by decide, parseDivanOutput_refines _ (by decide)⟩

end BenchReport
