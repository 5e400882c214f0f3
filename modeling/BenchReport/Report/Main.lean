import BenchReport.Divan.RoundTrip
import BenchReport.Report.Document

/-!
# A run of the script

`main` reads the two outputs it is given (a missing file reads as the empty text, and
`read_text` turns each `\r\n` and each lone `\r` into `\n`), parses them, renders the report and
prints the number of benchmarks with deserialize and with serialize measurements. `mainReport`
is that run: the report's blocks and the two counts, or the `ValueError` it stops with.

Every count `parse_gungraun_output` returns can be formatted, so a run on a well-formed divan
tree of distinct benchmarks without a `\r` returns, whatever gungraun printed, and its report
has exactly one section for each benchmark of the tree and each operation it measures
(`mainReport_divanText`).
-/

namespace BenchReport

variable {F : Type} [PyFloat F]

/-- What `main` computes from the contents of its two input files: the report's blocks and the
counts it prints, or the `ValueError` it stops with. -/
def mainReport [PyUnicode] (divanText gungraunText : String) :
    Except ValueError (List Block × ℕ × ℕ) := do
  let divanData ← parseDivanOutput (F := F) ⟨readText divanText.data⟩
  let gungraunData ← parseGungraunOutput ⟨readText gungraunText.data⟩
  let doc ← generateSectionsHtml divanData gungraunData
  pure (doc, mainCounts divanData)

section

variable [PyUnicode]

/-- A section of the printed tree has a row under the operation. -/
def SectionSpec.measures (s : SectionSpec) (op : Op) : Prop := ∃ m ∈ s.rows, m.op = op

instance SectionSpec.instDecidableMeasures (s : SectionSpec) (op : Op) :
    Decidable (s.measures op) :=
  inferInstanceAs (Decidable (∃ m ∈ s.rows, m.op = op))

lemma parseGungraunOutput_exists (gungraunText : String) :
    ∃ G, parseGungraunOutput gungraunText = .ok G :=
  (sectionLoop_ok_iff gungraunFormat gungraunText).mpr fun s _ => ⟨_, tableOf_gungraunFormat s.2⟩

/-- A run whose parses and rendering return. -/
lemma mainReport_of_ok {divanText gungraunText : String} {D : PyDict String (OpTables F)}
    {G : PyDict String (PyDict String ℕ)} {doc : List Block}
    (hD : parseDivanOutput ⟨readText divanText.data⟩ = .ok D)
    (hG : parseGungraunOutput ⟨readText gungraunText.data⟩ = .ok G)
    (hdoc : generateSectionsHtml D G = .ok doc) :
    mainReport (F := F) divanText gungraunText = .ok (doc, mainCounts D) := by
  rw [mainReport, hD, ok_bind, hG, ok_bind, hdoc]
  rfl

lemma SectionSpec.table_nonempty (s : SectionSpec) (op : Op) :
    ((s.table (F := F)).get op).entries ≠ [] ↔ s.measures op := by
  simp [SectionSpec.entries_table, SectionSpec.expected, SectionSpec.measures,
    List.filter_eq_nil_iff]

/-- A run on a well-formed divan tree of distinct benchmarks without a `\r` returns, whatever
gungraun printed, and its report has exactly one section for each benchmark of the tree and each
operation it has rows under; the counts are the numbers of benchmarks with rows under each
operation. -/
theorem mainReport_divanText (secs : List SectionSpec) (hb : (secs.map SectionSpec.bench).Nodup)
    (hr : '\r' ∉ (divanText secs).data) (gungraunText : String) :
    ∃ doc c, mainReport (F := F) (divanText secs) gungraunText = .ok (doc, c) ∧
      (∀ b op, (b, op) ∈ (documentSections doc).map BenchmarkSection.key ↔
        ∃ s ∈ secs, (⟨s.bench⟩ : String) = b ∧ s.measures op) ∧
      ((documentSections doc).map BenchmarkSection.key).Nodup ∧
      c = (secs.countP fun s => s.measures .deserialize,
        secs.countP fun s => s.measures .serialize) := by
  obtain ⟨R, hR, hent⟩ := parseDivanOutput_divanText_entries (F := F) secs hb
  replace hR : parseDivanOutput (F := F) ⟨readText (divanText secs).data⟩ = .ok R := by
    rwa [readText_of_not_mem hr]
  obtain ⟨G, hG⟩ := parseGungraunOutput_exists ⟨readText gungraunText.data⟩
  have hdoc := generateSectionsHtml_of_forall fun b (_ : b ∈ R.keys) =>
    benchSections_ok_of_countsFit (countsFit_of_parse hG) b
  refine ⟨_, _, mainReport_of_ok hR hG hdoc, fun b op => ?_, keys_nodup_generateSectionsHtml hdoc,
    ?_⟩
  · rw [mem_keys_generateSectionsHtml hdoc]
    simp only [PyDict.get?_eq_some_iff, hent, List.mem_map, Prod.mk.injEq]
    constructor
    · rintro ⟨_, ⟨s, hs, rfl, rfl⟩, hne⟩
      exact ⟨s, hs, rfl, (s.table_nonempty op).mp hne⟩
    · rintro ⟨s, hs, rfl, hm⟩
      exact ⟨_, ⟨s, hs, rfl, rfl⟩, (s.table_nonempty op).mpr hm⟩
  · simp only [mainCounts, PyDict.values, hent, List.map_map, List.countP_map]
    congr 1 <;> exact List.countP_congr fun s _ => by simp [SectionSpec.table_nonempty]

end

theorem mainReport_divanText_simpleStruct :
    ([simpleStructSection].map SectionSpec.bench).Nodup ∧
      '\r' ∉ (divanText [simpleStructSection]).data ∧ ∃ doc c, mainReport (F := ℕ) (divanText [simpleStructSection]) "" = .ok (doc, c) ∧
        (∀ b op, (b, op) ∈ (documentSections doc).map BenchmarkSection.key ↔
          ∃ s ∈ [simpleStructSection], (⟨s.bench⟩ : String) = b ∧ s.measures op) ∧
        ((documentSections doc).map BenchmarkSection.key).Nodup ∧
        c = ([simpleStructSection].countP fun s => s.measures .deserialize,
          [simpleStructSection].countP fun s => s.measures .serialize) :=
  ⟨by decide, by decide, mainReport_divanText _ (by decide) (by decide) ""⟩

end BenchReport
