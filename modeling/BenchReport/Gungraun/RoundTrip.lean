import BenchReport.Gungraun
import BenchReport.Divan.RoundTrip

/-!
# Gungraun's report, printed and parsed back

The report gungraun prints, as far as `parse_gungraun_output` reads it: for each benchmark a
line `gungraun_jit::<namespace>::<key>` with possibly more text after the key, then one line per
metric, `  <label>:  <count>` followed for instance by `|N/A`. `GungraunSection` and
`MetricSpec` describe such a text by its parts, with the conditions under which the patterns
read it back: one namespace segment before the key, labels made of word characters and
whitespace, and counts of at most `maxStrDigits` digits, the most `int()` reads.

`parseGungraunOutput_gungraunText` is the round trip: for distinct keys the parse returns the
keys in order, each with its labels, in order, mapped to their counts.
-/

namespace BenchReport

open PyUnicode

section

variable [PyUnicode]

/-! ### The printed report -/

/-- A metric line. -/
structure MetricSpec where
  indent : Gap
  label : List Char
  gap : Gap
  /-- The count: digits, with or without thousands separators. -/
  count : List Char
  /-- What follows the count, such as `|N/A` or `|6549`. -/
  rest : List Char
  label_chars : ∀ c ∈ label, labelChar c = true ∧ c ≠ '\n'
  label_ne : label ≠ []
  label_trim : (∀ c ∈ label.head?, isSpace c = false) ∧ ∀ c ∈ label.getLast?, isSpace c = false
  count_chars : ∀ c ∈ count, countChar c = true
  count_digit : ∃ c ∈ count, (digit c).isSome
  /-- At most `maxStrDigits` digits: `int()` refuses a longer count. -/
  count_digits : (count.filter (· ≠ ',')).length ≤ maxStrDigits
  rest_stop : Re.Stops countChar rest
  rest_line : '\n' ∉ rest

/-- The metric line as printed. -/
def MetricSpec.text (m : MetricSpec) : List Char :=
  m.indent.chars ++ m.label ++ ':' :: m.gap.chars ++ m.count ++ m.rest

/-- The count's value: the number its digits spell, the separators left out. -/
def MetricSpec.value (m : MetricSpec) : ℕ :=
  digitsValue ((m.count.filter (· ≠ ',')).filterMap digit)

/-- A benchmark's section: its benchmark line and its metric lines. -/
structure GungraunSection where
  /-- The namespace segment, such as `jit_benchmarks`. -/
  ns : List Char
  key : List Char
  /-- The rest of the benchmark line. -/
  rest : List Char
  metrics : List MetricSpec
  ns_word : ns ≠ [] ∧ ∀ c ∈ ns, isWord c = true
  key_word : key ≠ [] ∧ ∀ c ∈ key, isWord c = true
  rest_stop : Re.Stops isWord rest
  rest_line : '\n' ∉ rest
  labels_nodup : (metrics.map MetricSpec.label).Nodup

/-- The benchmark line as printed. -/
def GungraunSection.header (s : GungraunSection) : List Char :=
  "gungraun_jit::".data ++ s.ns ++ "::".data ++ s.key ++ s.rest

/-- The printed report: the sections' lines, joined by line breaks. -/
def gungraunText (secs : List GungraunSection) : String :=
  ⟨['\n'].intercalate (secs.flatMap fun s => s.header :: s.metrics.map MetricSpec.text)⟩

/-- What a section should parse to: each label with its count, in order. -/
def GungraunSection.expected (s : GungraunSection) : List (String × ℕ) :=
  s.metrics.map fun m => (⟨m.label⟩, m.value)

/-! ### Reading the lines back -/

lemma isWord_colon : isWord ':' = false := by rw [isWord_of_ascii (by decide)]; decide

lemma isSpace_colon : isSpace ':' = false := isSpace_eq_false (by decide)

lemma not_space_of_countChar {c : Char} (h : countChar c = true) : isSpace c = false := by
  simp only [countChar, Bool.or_eq_true, beq_iff_eq] at h
  rcases h with h | rfl
  · exact not_space_of_word c (word_of_digit c h)
  · exact isSpace_eq_false (by decide)

lemma GungraunSection.newline_not_mem_header (s : GungraunSection) : '\n' ∉ s.header := by
  intro h
  simp only [GungraunSection.header, List.mem_append] at h
  rcases h with (((h | h) | h) | h) | h
  · exact absurd h (by decide)
  · exact ne_newline_of_word (s.ns_word.2 _ h) rfl
  · exact absurd h (by decide)
  · exact ne_newline_of_word (s.key_word.2 _ h) rfl
  · exact s.rest_line h

lemma MetricSpec.newline_not_mem (m : MetricSpec) : '\n' ∉ m.text := by
  intro h
  simp only [MetricSpec.text, List.append_assoc, List.cons_append, List.mem_append,
    List.mem_cons] at h
  rcases h with h | h | h | h | h | h
  · exact m.indent.newline_not_mem h
  · exact (m.label_chars _ h).2 rfl
  · exact absurd h (by decide)
  · exact m.gap.newline_not_mem h
  · exact ne_newline_of_not_space (not_space_of_countChar (m.count_chars _ h)) rfl
  · exact m.rest_line h

lemma benchName_header (s : GungraunSection) : benchName s.header = some ⟨s.key⟩ := by
  have hm : reMatch benchRe s.header = some [s.key] := by
    simp only [reMatch, benchRe, GungraunSection.header, Re.seqs_cons, Re.seqs_nil, Re.go_seq,
      Re.go_group, Re.go_eps, List.append_assoc]
    rw [Re.go_lit_append]
    refine Re.go_plus_append s.ns_word.1 (fun c hc => targetChar_eq ▸ s.ns_word.2 c hc)
      (by simp [targetChar_eq, isWord_colon]) ?_
    rw [Re.go_lit_append]
    refine Re.go_plus_append s.key_word.1 (fun c hc => targetChar_eq ▸ s.key_word.2 c hc)
      (targetChar_eq ▸ s.rest_stop) ?_
    simp
  simp [benchName, hm]

/-- A metric line starts with whitespace, so it is not a benchmark line. -/
lemma benchName_metric (m : MetricSpec) : benchName m.text = none := by
  obtain ⟨c, cs, hc, hsp⟩ := m.indent.exists_cons
  have hg : c ≠ 'g' := ne_of_space hsp (isSpace_eq_false (by decide))
  simp [benchName, reMatch, benchRe, MetricSpec.text, hc, Re.lit, hg]

lemma MetricSpec.count_ne (m : MetricSpec) : m.count ≠ [] := by
  obtain ⟨c, hc, -⟩ := m.count_digit
  exact List.ne_nil_of_mem hc

lemma metricMatch_text (m : MetricSpec) : metricMatch m.text = some ⟨m.label, m.count⟩ := by
  have hm : reMatch metricRe m.text = some [m.label, m.count] := by
    simp only [reMatch, metricRe, MetricSpec.text, Re.seqs_cons, Re.seqs_nil, Re.go_seq,
      Re.go_group, Re.go_eps, List.append_assoc, List.cons_append]
    refine m.indent.go_plus (Re.stops_append m.label_ne m.label_trim.1) ?_
    refine Re.go_plus_append m.label_ne (fun c hc => (m.label_chars c hc).1)
      (by simp [labelChar, isWord_colon, isSpace_colon]) ?_
    simp only [Re.go_chr_cons, if_true]
    refine m.gap.go_plus (Re.stops_append m.count_ne fun c hc =>
      not_space_of_countChar (m.count_chars c (List.mem_of_mem_head? hc))) ?_
    refine Re.go_plus_append m.count_ne m.count_chars m.rest_stop ?_
    simp
  simp [metricMatch, hm]

/-- A metric line stores its label and its count's value. -/
lemma metricOf_text (m : MetricSpec) : metricOf m.text = some (⟨m.label⟩, m.value) := by
  rw [metricOf, metricMatch_text, Option.some_bind, metricEntry, valueStr_eq m.count_chars,
    pyInt_count m.count_chars, if_pos ⟨m.count_digit, m.count_digits⟩, strip_eq_self m.label_trim.1 m.label_trim.2]
  rfl

/-! ### The round trip -/

/-- The sections of the printed report: each key with its metric lines. -/
lemma sectionsOf_gungraunText (secs : List GungraunSection) :
    sectionsOf gungraunFormat (gungraunText secs) =
      secs.map fun s => ((⟨s.key⟩ : String), s.metrics.map MetricSpec.text) :=
  sectionsOf_intercalate gungraunFormat GungraunSection.header (fun s => s.metrics.map MetricSpec.text)
    (fun s => ⟨s.key⟩) benchName_header
    (fun _ _ hl => by obtain ⟨m, -, rfl⟩ := List.mem_map.mp hl; exact benchName_metric m) rfl
    (fun s => ⟨s.newline_not_mem_header,
      fun _ hl => by obtain ⟨m, -, rfl⟩ := List.mem_map.mp hl; exact m.newline_not_mem⟩) secs

lemma GungraunSection.tableOf_metrics (s : GungraunSection) :
    tableOf gungraunFormat (s.metrics.map MetricSpec.text) =
      .ok ((∅ : PyDict String ℕ).insertAll s.expected) := by
  rw [tableOf_gungraunFormat, List.filterMap_map, GungraunSection.expected,
    ← List.filterMap_eq_map]
  simp [Function.comp_def, metricOf_text]

lemma GungraunSection.entries_table (s : GungraunSection) :
    ((∅ : PyDict String ℕ).insertAll s.expected).entries = s.expected := by
  have hlabels : ((s.metrics.map MetricSpec.label).map String.mk).Nodup :=
    s.labels_nodup.map fun _ _ h => congrArg String.data h
  exact PyDict.entries_insertAll_of_nodup _ _
    (by simpa [GungraunSection.expected, List.map_map, Function.comp_def] using hlabels)

/-- The round trip: the printed report of distinct keys parses to those keys, in order, each
with its labels, in order, mapped to their counts. -/
theorem parseGungraunOutput_gungraunText (secs : List GungraunSection)
    (hk : (secs.map GungraunSection.key).Nodup) :
    ∃ R, parseGungraunOutput (gungraunText secs) = .ok R ∧
      R.entries.map (fun e => (e.1, e.2.entries)) =
        secs.map fun s => ((⟨s.key⟩ : String), s.expected) := by
  have hkeys : ((secs.map GungraunSection.key).map String.mk).Nodup :=
    hk.map fun _ _ h => congrArg String.data h
  obtain ⟨R, hR, hentries⟩ := sectionLoop_intercalate gungraunFormat GungraunSection.header
    (fun s => s.metrics.map MetricSpec.text) (fun s => ⟨s.key⟩)
    (t := fun s => (∅ : PyDict String ℕ).insertAll s.expected) benchName_header
    (fun _ _ hl => by obtain ⟨m, -, rfl⟩ := List.mem_map.mp hl; exact benchName_metric m) rfl
    (fun s => ⟨s.newline_not_mem_header,
      fun _ hl => by obtain ⟨m, -, rfl⟩ := List.mem_map.mp hl; exact m.newline_not_mem⟩)
    GungraunSection.tableOf_metrics (by simpa [List.map_map, Function.comp_def] using hkeys)
  refine ⟨R, hR, ?_⟩
  rw [hentries]
  simp [Function.comp_def, GungraunSection.entries_table]

end

/-- The section of `simple_struct_facet_format_jit` with the metric `  Instructions: 6,549|N/A`. -/
def simpleStructJitSection : GungraunSection where
  ns := "jit_benchmarks".data
  key := "simple_struct_facet_format_jit".data
  rest := []
  metrics := [{
    indent := ⟨[' ', ' '], by decide, by decide⟩
    label := "Instructions".data
    gap := ⟨[' '], by decide, by decide⟩
    count := "6,549".data
    rest := "|N/A".data
    label_chars := by decide
    label_ne := by decide
    label_trim := by decide
    count_chars := by decide
    count_digit := by decide
    count_digits := by decide
    rest_stop := by simp [Re.Stops, countChar, asciiUnicode, asciiDigit]
    rest_line := by decide }]
  ns_word := by decide
  key_word := by decide
  rest_stop := by simp [Re.Stops]
  rest_line := by decide
  labels_nodup := by decide

theorem parseGungraunOutput_gungraunText_simpleStruct :
    ([simpleStructJitSection].map GungraunSection.key).Nodup ∧
      ∃ R, parseGungraunOutput (gungraunText [simpleStructJitSection]) = .ok R ∧
        R.entries.map (fun e => (e.1, e.2.entries)) =
          [simpleStructJitSection].map fun s => ((⟨s.key⟩ : String), s.expected) :=
  ⟨by decide, parseGungraunOutput_gungraunText _ (by decide)⟩

/-- With two namespace segments the key is the second segment, and a label with a `+` is not
read. -/
theorem parseGungraunOutput_nested_namespace :
    parseGungraunOutput "gungraun_jit::jit::benches::simple_struct\n  Instructions: 5" =
        .ok ((∅ : PyDict String (PyDict String ℕ)).insert "benches"
          ((∅ : PyDict String ℕ).insert "Instructions" 5)) ∧
      parseGungraunOutput "gungraun_jit::jit::simple_struct\n  Total read+write: 7" =
        .ok ((∅ : PyDict String (PyDict String ℕ)).insert "simple_struct" ∅) := by
  decide

end BenchReport
