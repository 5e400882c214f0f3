import BenchReport.Divan

/-!
# Parsing gungraun's output

`parse_gungraun_output` reads the report gungraun prints for the instruction-count benchmarks:
a benchmark line `gungraun_jit::jit_benchmarks::simple_struct_facet_format_jit …` opens the
section of the benchmark named by the segment after the first namespace, and a metric line
`  Instructions:  6549|N/A` under it gives a count. It is the section loop again, with an entry
step that never raises: a count that `int` rejects, for want of a digit or for having more than
`maxStrDigits` of them, is skipped.

`tableOf_gungraunFormat` says what a section's table is: each matched metric line whose count
converts assigns the count to the stripped label, in order. So the parse always returns, and
returns the tables of its sections in order (`parseGungraunOutput_eq`); each count in them is
below `10 ^ maxStrDigits` (`countsFit_of_parse`).
-/

namespace BenchReport

variable [PyUnicode]

open PyUnicode

/-! ### Patterns -/

/-- `[\w\s]`, the class of a metric's label. -/
def labelChar (c : Char) : Bool := isWord c || isSpace c

/-- `[\d,]`, the class of a count. -/
def countChar (c : Char) : Bool := (digit c).isSome || c == ','

/-- `r'gungraun_jit::[\w_]+::([\w_]+)'`. -/
def benchRe : Re :=
  .seqs [.lit "gungraun_jit::".data, .plus targetChar, .lit "::".data, .group (.plus targetChar)]

/-- `r'\s+([\w\s]+):\s+([\d,]+)'`. -/
def metricRe : Re :=
  .seqs [.plus isSpace, .group (.plus labelChar), .chr ':', .plus isSpace, .group (.plus countChar)]

/-- `name_match.group(1)`. -/
def benchName (line : List Char) : Option String :=
  match reMatch benchRe line with
  | some [name] => some ⟨name⟩
  | _ => none

/-- The groups of a metric line: the label and the count. -/
structure MetricLine where
  label : List Char
  count : List Char
  deriving DecidableEq, Repr

/-- `metric_match.group(1)`, `.group(2)`. -/
def metricMatch (line : List Char) : Option MetricLine :=
  match reMatch metricRe line with
  | some [label, count] => some ⟨label, count⟩
  | _ => none

lemma benchName_ne (line : List Char) (b : String) (h : benchName line = some b) : b ≠ "" := by
  unfold benchName at h
  split at h
  · rename_i name hm
    cases h
    obtain ⟨s', hm⟩ := reMatch_sound hm
    have hne := hm.capture_ne_nil rfl name (by simp)
    exact fun he => hne (congrArg String.data he)
  · cases h

/-! ### What a metric line stores -/

/-- `value_str`: the count with its commas removed, cut at a `|` if there is one. -/
def valueStr (count : List Char) : List Char :=
  let s := removeAll [','] count
  if '|' ∈ s then (s.splitOn '|').headD [] else s

/-- `metric` and `int(value_str)`, or nothing when `int` raises `ValueError`. -/
def metricEntry (r : MetricLine) : Option (String × ℕ) :=
  (pyInt (valueStr r.count)).map fun v => (⟨strip r.label⟩, v)

/-- `parse_gungraun_output` as a section loop: the `try`/`except ValueError: continue` around the
conversion makes its entry step total. -/
def gungraunFormat : SectionFormat MetricLine (PyDict String ℕ) where
  header := benchName
  entry := metricMatch
  fresh := ∅
  record r t := pure <|
    match metricEntry r with
    | some (metric, value) => t.insert metric value
    | none => t
  header_ne := benchName_ne

/-- `parse_gungraun_output(text)`: benchmark, then metric, to the count. -/
def parseGungraunOutput (text : String) : Except ValueError (PyDict String (PyDict String ℕ)) :=
  sectionLoop gungraunFormat text

lemma digit_comma : digit ',' = none := by rw [digit_of_ascii (by decide)]; decide

/-- A count's characters other than its commas are digits. -/
lemma digits_of_countChar {count : List Char} (h : ∀ c ∈ count, countChar c = true) :
    ∀ c ∈ count.filter (· ≠ ','), (digit c).isSome := by
  intro c hc
  simp only [List.mem_filter, decide_eq_true_eq] at hc
  simpa [countChar, hc.2] using h c hc.1

/-- `int` reads a count with its commas removed exactly when the count has a digit, and at most
`maxStrDigits` of them. -/
lemma pyInt_count {count : List Char} (h : ∀ c ∈ count, countChar c = true) :
    pyInt (count.filter (· ≠ ',')) =
      if (∃ c ∈ count, (digit c).isSome) ∧ (count.filter (· ≠ ',')).length ≤ maxStrDigits then
        some (digitsValue ((count.filter (· ≠ ',')).filterMap digit))
      else none := by
  have hne : count.filter (· ≠ ',') ≠ [] ↔ ∃ c ∈ count, (digit c).isSome := by
    refine ⟨fun hne => ?_, fun ⟨c, hc, hdc⟩ => List.ne_nil_of_mem (a := c) ?_⟩
    · obtain ⟨c, hc⟩ := List.exists_mem_of_ne_nil _ hne
      exact ⟨c, (List.mem_filter.mp hc).1, digits_of_countChar h c hc⟩
    · refine List.mem_filter.mpr ⟨hc, ?_⟩
      simp only [decide_eq_true_eq]
      rintro rfl
      simp [digit_comma] at hdc
  rw [pyInt_of_digits (digits_of_countChar h)]
  exact if_congr (and_congr_left' hne) rfl rfl

/-- A captured count holds no `|`, so `value_str` is the count without its commas: the branch for
`12345|67890` never runs. -/
lemma valueStr_eq {count : List Char} (h : ∀ c ∈ count, countChar c = true) :
    valueStr count = count.filter (· ≠ ',') := by
  have hbar : '|' ∉ count.filter (· ≠ ',') := fun hb => by
    have hbar : digit '|' = none := by rw [digit_of_ascii (by decide)]; decide
    simpa [hbar] using digits_of_countChar h '|' hb
  rw [valueStr, removeAll_singleton]
  exact if_neg hbar

/-- What a line under a section stores, if anything. -/
def metricOf (line : List Char) : Option (String × ℕ) := (metricMatch line).bind metricEntry

lemma entryStep_gungraun (t : PyDict String ℕ) (l : List Char) :
    entryStep gungraunFormat t l = .ok (t.insertAll (metricOf l).toList) := by
  simp only [entryStep, metricOf, gungraunFormat]
  cases metricMatch l with
  | none => rfl
  | some r => cases h : metricEntry r <;> simp [h, pure, Except.pure]

lemma foldlM_entryStep_gungraun (blk : List (List Char)) (t₀ : PyDict String ℕ) :
    blk.foldlM (entryStep gungraunFormat) t₀ = .ok (t₀.insertAll (blk.filterMap metricOf)) := by
  induction blk generalizing t₀ with
  | nil => rfl
  | cons l blk ih =>
    rw [List.foldlM_cons, entryStep_gungraun, ok_bind, ih, List.filterMap_cons]
    cases metricOf l <;> rfl

/-- A section's table: each metric line that matches and converts assigns its count to its
label, in order. -/
lemma tableOf_gungraunFormat (blk : List (List Char)) :
    tableOf gungraunFormat blk = .ok ((∅ : PyDict String ℕ).insertAll (blk.filterMap metricOf)) :=
  foldlM_entryStep_gungraun blk ∅

lemma metricOf_lt {line : List Char} {e : String × ℕ} (h : metricOf line = some e) :
    e.2 < 10 ^ maxStrDigits := by
  obtain ⟨r, -, hr⟩ := Option.bind_eq_some.mp h
  obtain ⟨v, hv, rfl⟩ := Option.map_eq_some'.mp hr
  exact pyInt_lt hv

lemma sectionTables_gungraun (secs : List (String × List (List Char))) :
    sectionTables gungraunFormat secs =
      .ok (secs.map fun s => (s.1, (∅ : PyDict String ℕ).insertAll (s.2.filterMap metricOf))) :=
  mapM_eq_ok_map fun s _ => by rw [tableOf_gungraunFormat]; rfl

/-- `parse_gungraun_output` never raises, and returns the dictionary that assigns to each
section's name, in order, the table of the metric lines under it: each label whose count `int`
reads, with that count, in order. A count of more than `maxStrDigits` digits is skipped. -/
theorem parseGungraunOutput_eq (text : String) :
    parseGungraunOutput text = .ok ((∅ : PyDict String (PyDict String ℕ)).insertAll
      ((sectionsOf gungraunFormat text).map fun s =>
        (s.1, (∅ : PyDict String ℕ).insertAll (s.2.filterMap metricOf)))) := by
  rw [parseGungraunOutput, sectionLoop_eq, sectionTables_gungraun]
  rfl

/-- Every count of a gungraun dataset has at most `maxStrDigits` digits. -/
def CountsFit (G : PyDict String (PyDict String ℕ)) : Prop :=
  ∀ m ∈ G.values, ∀ n ∈ m.values, n < 10 ^ maxStrDigits

omit [PyUnicode] in
lemma CountsFit.lt {G : PyDict String (PyDict String ℕ)} (hG : CountsFit G)
    {key metric : String} {m : PyDict String ℕ} {n : ℕ} (hm : G.get? key = some m)
    (hn : m.get? metric = some n) : n < 10 ^ maxStrDigits :=
  hG m (List.mem_map_of_mem Prod.snd ((G.get?_eq_some_iff _ _).mp hm)) n
    (List.mem_map_of_mem Prod.snd ((m.get?_eq_some_iff _ _).mp hn))

/-- The counts `parse_gungraun_output` returns are ones `int` read, so none is too long to be
written back. -/
lemma countsFit_of_parse {text : String} {G : PyDict String (PyDict String ℕ)}
    (h : parseGungraunOutput text = .ok G) : CountsFit G := by
  rw [parseGungraunOutput, sectionLoop_eq, sectionTables_gungraun] at h
  cases h
  intro m hm n hn
  obtain ⟨_, hs, rfl⟩ := List.mem_map.mp (PyDict.mem_values_insertAll hm)
  obtain ⟨s, -, rfl⟩ := List.mem_map.mp hs
  obtain ⟨_, he, rfl⟩ := List.mem_map.mp (PyDict.mem_values_insertAll hn)
  obtain ⟨l, -, hl⟩ := List.mem_filterMap.mp he
  exact metricOf_lt hl

end BenchReport
