import BenchReport.Divan.Attribution

/-!
# Divan's tree, printed and parsed back

The tree divan prints, as far as `parse_divan_output` reads it: for each benchmark a section
line `├─ name` (or `╰─ name`) followed by whitespace and the rest of the header columns, then
one line per measurement, `│  ├─ target_operation  1.046 µs …` (or `   ╰─ …` for the last).
`SectionSpec` and `MeasureLine` describe such a text by its parts, each part carrying the
conditions under which the patterns read it back; `divanText` prints them.

`parseDivanOutput_divanText` is the round trip: for distinct benchmark names the parse
returns, with the benchmarks in order and, for each and each operation, exactly the targets
measured under that operation, each with its time in nanoseconds.
-/

namespace BenchReport

variable {F : Type}

open PyUnicode

/-! ### The printed tree -/

/-- The time units divan prints. -/
inductive TimeUnit
  | ns
  | us
  | ms
  deriving DecidableEq, Repr

/-- The unit as printed. -/
def TimeUnit.text : TimeUnit → List Char
  | .ns => "ns".data
  | .us => "µs".data
  | .ms => "ms".data

/-- A value read in unit `u`, in nanoseconds: multiplied by 1, 1000 or 1,000,000. -/
def TimeUnit.nanos [PyFloat F] : TimeUnit → F → F
  | .ns, v => v
  | .us, v => v * PyFloat.ofNat 1000
  | .ms, v => v * PyFloat.ofNat 1000000

/-- The suffix naming an operation in a result name. -/
def Op.text (op : Op) : List Char := op.key.data

section

variable [PyUnicode]

/-- A gap between two columns: a non-empty run of whitespace within the line. -/
structure Gap where
  chars : List Char
  ne_nil : chars ≠ []
  space : ∀ c ∈ chars, isSpace c = true ∧ c ≠ '\n'

/-- A decimal literal: digits, then possibly a point and more digits; at least one digit. -/
structure DecimalLit where
  whole : List Char
  frac : Option (List Char)
  digits : ∀ c ∈ whole ++ frac.getD [], (digit c).isSome
  ne_nil : whole ++ frac.getD [] ≠ []

/-- The literal as printed. -/
def DecimalLit.text (d : DecimalLit) : List Char := d.whole ++ (d.frac.map ('.' :: ·)).getD []

/-- The number a literal denotes: its digits, scaled down by its digits after the point. -/
def DecimalLit.value [PyFloat F] (d : DecimalLit) : F :=
  PyFloat.ofDecimal (digitsValue ((d.whole ++ d.frac.getD []).filterMap digit))
    (d.frac.getD []).length

/-- A measurement line: the row of `target` under operation `op`. -/
structure MeasureLine where
  /-- Printed with `   ╰─ ` (the last row of its section) rather than `│  ├─ `. -/
  last : Bool
  target : List Char
  op : Op
  gap₁ : Gap
  number : DecimalLit
  gap₂ : Gap
  unit : TimeUnit
  /-- The further columns. -/
  tail : List Char
  target_word : ∀ c ∈ target, isWord c = true
  target_free : ¬ "deserialize".data <:+: target ∧ ¬ "_serialize".data <:+: target
  tail_line : '\n' ∉ tail

/-- The measurement line as printed. -/
def MeasureLine.text (m : MeasureLine) : List Char :=
  (if m.last then "   ╰─ ".data else "│  ├─ ".data) ++ m.target ++ '_' :: m.op.text ++
    m.gap₁.chars ++ m.number.text ++ m.gap₂.chars ++ m.unit.text ++ m.tail

/-- A benchmark's section: its section line and its measurement lines. -/
structure SectionSpec where
  glyph : Char
  bench : List Char
  gap : Gap
  /-- The further header columns. -/
  rest : List Char
  rows : List MeasureLine
  glyph_tree : treeGlyph glyph = true
  bench_word : bench ≠ [] ∧ ∀ c ∈ bench, isWord c = true
  rest_line : '\n' ∉ rest
  rows_nodup : (rows.map fun m => (m.target, m.op)).Nodup

/-- The section line as printed. -/
def SectionSpec.header (s : SectionSpec) : List Char :=
  s.glyph :: '─' :: ' ' :: s.bench ++ s.gap.chars ++ s.rest

/-- The printed tree: the sections' lines, joined by line breaks. -/
def divanText (secs : List SectionSpec) : String :=
  ⟨['\n'].intercalate (secs.flatMap fun s => s.header :: s.rows.map MeasureLine.text)⟩

/-- What a section should parse to under operation `op`: its rows under `op`, in order, each
target with its time in nanoseconds. -/
def SectionSpec.expected [PyFloat F] (s : SectionSpec) (op : Op) : List (String × F) :=
  (s.rows.filter fun m => m.op = op).map fun m => (⟨m.target⟩, m.unit.nanos m.number.value)

/-! ### Reading the lines back -/

namespace Gap

variable {α : Type} {k : List Char → List (List Char) → Option α} {gs : List (List Char)} {x : α}

lemma exists_cons (g : Gap) : ∃ c cs, g.chars = c :: cs ∧ isSpace c = true := by
  obtain ⟨c, cs, hc⟩ := List.exists_cons_of_ne_nil g.ne_nil
  exact ⟨c, cs, hc, (g.space c (hc ▸ List.mem_cons_self c cs)).1⟩

/-- A class with no whitespace stops in front of a gap. -/
lemma stops (g : Gap) (rest : List Char) {p : Char → Bool}
    (hp : ∀ c, isSpace c = true → p c = false) : Re.Stops p (g.chars ++ rest) := by
  obtain ⟨c, cs, hc, hsp⟩ := g.exists_cons
  rw [hc, List.cons_append, Re.stops_cons]
  exact hp c hsp

/-- `\s+` takes the whole gap. -/
lemma go_plus (g : Gap) {rest : List Char} (hs : Re.Stops isSpace rest)
    (hk : k rest gs = some x) : (Re.plus isSpace).go (g.chars ++ rest) gs k = some x :=
  Re.go_plus_append g.ne_nil (fun c hc => (g.space c hc).1) hs hk

lemma newline_not_mem (g : Gap) : '\n' ∉ g.chars := fun h => (g.space _ h).2 rfl

end Gap

/-! #### Characters -/

lemma not_space_of_targetChar {c : Char} (h : targetChar c = true) : isSpace c = false := by
  simp only [targetChar, Bool.or_eq_true, beq_iff_eq] at h
  rcases h with h | rfl
  · exact not_space_of_word c h
  · exact isSpace_eq_false (by decide)

lemma targetChar_eq_false {c : Char} (h : isSpace c = true) : targetChar c = false := by
  simp [targetChar, not_word_of_space h, ne_of_space h (isSpace_eq_false (c := '_') (by decide))]

lemma not_space_of_numberChar {c : Char} (h : numberChar c = true) : isSpace c = false := by
  simp only [numberChar, Bool.or_eq_true, beq_iff_eq] at h
  rcases h with h | rfl
  · exact not_space_of_word c (word_of_digit c h)
  · exact isSpace_eq_false (by decide)

lemma numberChar_eq_false {c : Char} (h : isSpace c = true) : numberChar c = false := by
  simp [numberChar, digit_eq_none_of_space h,
    ne_of_space h (isSpace_eq_false (c := '.') (by decide))]

/-! #### The parts of a line -/

lemma Op.text_word (op : Op) : ∀ c ∈ op.text, isWord c = true := by
  have : ∀ c ∈ op.text, c.toNat < 128 ∧ asciiWord c = true := by cases op <;> decide
  exact fun c hc => (isWord_of_ascii (this c hc).1).trans (this c hc).2

omit [PyUnicode] in
lemma TimeUnit.text_ne_nil (u : TimeUnit) : u.text ≠ [] := by cases u <;> simp [TimeUnit.text]

lemma TimeUnit.not_space (u : TimeUnit) : ∀ c ∈ u.text, isSpace c = false := by
  have hn : isSpace 'n' = false := isSpace_eq_false (by decide)
  have hm : isSpace 'm' = false := isSpace_eq_false (by decide)
  have hs : isSpace 's' = false := isSpace_eq_false (by decide)
  cases u <;> simp [TimeUnit.text, hn, hm, hs, isSpace_glyph (c := 'µ') (by decide)]

lemma DecimalLit.text_ne_nil (d : DecimalLit) : d.text ≠ [] := by
  have := d.ne_nil
  rcases h : d.frac with _ | f <;> simp_all [DecimalLit.text]

lemma DecimalLit.numberChar_of_mem (d : DecimalLit) {c : Char} (hc : c ∈ d.text) :
    numberChar c = true := by
  have hd := d.digits
  rcases h : d.frac with _ | f <;>
    simp only [DecimalLit.text, h, Option.map_none', Option.getD_none, List.append_nil,
      Option.map_some', Option.getD_some, List.mem_append, List.mem_cons] at hc hd
  · simp [numberChar, hd c hc]
  · rcases hc with hc | rfl | hc
    · simp [numberChar, hd c (Or.inl hc)]
    · simp [numberChar]
    · simp [numberChar, hd c (Or.inr hc)]

/-- `float` reads a decimal literal as the number it denotes. -/
lemma DecimalLit.pyFloat_text [PyFloat F] (d : DecimalLit) :
    pyFloat d.text = some (d.value (F := F)) := by
  have hdig : digit '.' = none := by rw [digit_of_ascii (by decide)]; decide
  have hdot : ∀ l ∈ [d.whole] ++ d.frac.toList, '.' ∉ l := by
    intro l hl hd
    refine absurd (d.digits '.' ?_) (by simp [hdig])
    rcases h : d.frac with _ | f <;> simp only [h, Option.toList_none, Option.toList_some,
      List.append_nil, List.singleton_append, List.mem_cons, List.mem_singleton,
      List.not_mem_nil, or_false] at hl <;> rcases hl with rfl | rfl <;> simp [h, hd]
  have htext : d.text = ['.'].intercalate ([d.whole] ++ d.frac.toList) := by
    rcases h : d.frac with _ | f <;> simp [DecimalLit.text, h, List.intercalate]
  rw [DecimalLit.value, ← pyFloat_decimal d.digits d.ne_nil, pyFloat, htext,
    List.splitOn_intercalate _ _ hdot (by simp)]
  rcases d.frac with _ | f <;> simp

/-- The result name of a measurement line. -/
def MeasureLine.name (m : MeasureLine) : List Char := m.target ++ '_' :: m.op.text

/-- The groups the result pattern captures in a measurement line. -/
def MeasureLine.result (m : MeasureLine) : ResultLine := ⟨m.name, m.number.text, m.unit.text⟩

lemma MeasureLine.name_ne (m : MeasureLine) : m.name ≠ [] := by simp [MeasureLine.name]

lemma MeasureLine.targetChar_of_mem_name (m : MeasureLine) {c : Char} (hc : c ∈ m.name) :
    targetChar c = true := by
  simp only [MeasureLine.name, List.mem_append, List.mem_cons] at hc
  rcases hc with hc | rfl | hc
  · simp [targetChar, m.target_word c hc]
  · simp [targetChar]
  · simp [targetChar, m.op.text_word c hc]

lemma MeasureLine.text_eq (m : MeasureLine) : m.text =
    (if m.last then "   ╰─ ".data else "│  ├─ ".data) ++ (m.name ++ (m.gap₁.chars ++
      (m.number.text ++ (m.gap₂.chars ++ (m.unit.text ++ m.tail))))) := by
  simp [MeasureLine.text, MeasureLine.name]

lemma MeasureLine.newline_not_mem (m : MeasureLine) : '\n' ∉ m.text := by
  rw [MeasureLine.text_eq]
  intro h
  simp only [List.mem_append] at h
  rcases h with h | h | h | h | h | h | h
  · split at h <;> simp at h
  · exact ne_newline_of_not_space (not_space_of_targetChar (m.targetChar_of_mem_name h)) rfl
  · exact m.gap₁.newline_not_mem h
  · exact ne_newline_of_not_space (not_space_of_numberChar (m.number.numberChar_of_mem h)) rfl
  · exact m.gap₂.newline_not_mem h
  · exact ne_newline_of_not_space (m.unit.not_space _ h) rfl
  · exact m.tail_line h

/-! #### Matching the lines -/

lemma moduleName_header (s : SectionSpec) : moduleName s.header = some ⟨s.bench⟩ := by
  obtain ⟨c, cs, hc, hsp⟩ := s.gap.exists_cons
  have hm : reMatch moduleRe s.header = some [s.bench] := by
    simp only [reMatch, moduleRe, SectionSpec.header, Re.seqs_cons, Re.seqs_nil, Re.go_seq,
      Re.go_group, Re.go_cls_cons, s.glyph_tree, if_true, Re.go_chr_cons, List.append_assoc,
      List.cons_append]
    refine Re.go_plus_append s.bench_word.1 s.bench_word.2
      (s.gap.stops _ fun _ h => not_word_of_space h) ?_
    simp [hc, hsp]
  simp [moduleName, hm]

/-- A measurement line starts with `│` or a space, so it is not a section line. -/
lemma moduleName_measure (m : MeasureLine) : moduleName m.text = none := by
  rw [MeasureLine.text_eq]
  split <;> simp [moduleName, reMatch, moduleRe, treeGlyph]

lemma resultMatch_measure (m : MeasureLine) : resultMatch targetChar m.text = some m.result := by
  have hm : reMatch (resultRe targetChar) m.text = some [m.name, m.number.text, m.unit.text] := by
    rw [MeasureLine.text_eq]
    simp only [reMatch, resultRe, Re.seqs_cons, Re.seqs_nil, Re.go_seq, Re.go_group, Re.go_eps]
    cases m.last <;>
      simp only [if_true, if_false, Bool.false_eq_true, List.cons_append, List.nil_append]
    -- the prefix: `│` and two spaces, or three spaces
    on_goal 1 =>
      refine Re.go_opt_cons_of (by decide) (Re.go_star_append (u := [' ', ' '])
        (by simp [isSpace_space]) (by simp [isSpace_glyph, patternGlyphs]) ?_)
    on_goal 2 =>
      rw [Re.go_opt_of_stops (by simp)]
      refine Re.go_star_append (u := [' ', ' ', ' ']) (by simp [isSpace_space])
        (by simp [isSpace_glyph, patternGlyphs]) ?_
    -- the glyph, then each column in turn
    all_goals
      simp only [Re.go_cls_cons, Re.go_chr_cons, treeGlyph, beq_self_eq_true, Bool.true_or,
        Bool.or_true, if_true]
      refine Re.go_plus_append (u := [' ']) (by simp) (by simp [isSpace_space])
        (Re.stops_append m.name_ne fun c hc =>
          not_space_of_targetChar (m.targetChar_of_mem_name (List.mem_of_mem_head? hc))) ?_
      refine Re.go_plus_append m.name_ne (fun c hc => m.targetChar_of_mem_name hc)
        (m.gap₁.stops _ fun c h => targetChar_eq_false h) ?_
      refine m.gap₁.go_plus (Re.stops_append m.number.text_ne_nil fun c hc =>
        not_space_of_numberChar (m.number.numberChar_of_mem (List.mem_of_mem_head? hc))) ?_
      refine Re.go_plus_append m.number.text_ne_nil (fun c hc => m.number.numberChar_of_mem hc)
        (m.gap₂.stops _ fun c h => numberChar_eq_false h) ?_
      refine m.gap₂.go_plus (Re.stops_append m.unit.text_ne_nil
        fun c hc => m.unit.not_space c (List.mem_of_mem_head? hc)) ?_
      cases m.unit <;> simp [TimeUnit.text, Re.lit, List.append_eq, Nat.add_assoc]
  simp [resultMatch, hm, MeasureLine.result]

lemma measuredValue_result [PyFloat F] (m : MeasureLine) :
    measuredValue m.result = .ok (m.unit.nanos (m.number.value (F := F))) := by
  rw [measuredValue, MeasureLine.result, m.number.pyFloat_text]
  cases m.unit <;> simp [toNanos, TimeUnit.text, TimeUnit.nanos, pure, Except.pure]

/-- A measurement line's name is split back into its operation and its target. -/
lemma MeasureLine.operationOf_name (m : MeasureLine) : operationOf m.name = m.op := by
  have hde : ¬ "deserialize".data <:+: m.target := m.target_free.1
  unfold operationOf MeasureLine.name
  cases m.op with
  | deserialize => exact if_pos ⟨m.target ++ ['_'], [], by simp [Op.text, Op.key]⟩
  | serialize =>
    refine if_neg fun hin => ?_
    rcases infix_append_cons (by decide) hin with hin | hin
    · exact hde hin
    · exact absurd hin (by decide)

lemma MeasureLine.targetBase_name (m : MeasureLine) : targetBase m.name = m.target := by
  have hde : ¬ '_' :: "deserialize".data <:+: m.target :=
    fun h => m.target_free.1 ((List.suffix_cons '_' _).isInfix.trans h)
  have hse : ¬ '_' :: "serialize".data <:+: m.target := m.target_free.2
  unfold targetBase MeasureLine.name
  cases m.op with
  | deserialize =>
    show removeAll ('_' :: "serialize".data)
      (removeAll ('_' :: "deserialize".data) (m.target ++ '_' :: "deserialize".data)) = m.target
    rw [removeAll_append_self (by decide) hde, removeAll_eq_self hse]
  | serialize =>
    have hnot : ¬ '_' :: "deserialize".data <:+: m.target ++ '_' :: "serialize".data := fun hin =>
      (infix_append_cons (by decide) ((List.suffix_cons '_' _).isInfix.trans hin)).elim
        m.target_free.1 (by decide)
    show removeAll ('_' :: "serialize".data)
      (removeAll ('_' :: "deserialize".data) (m.target ++ '_' :: "serialize".data)) = m.target
    rw [removeAll_eq_self hnot, removeAll_append_self (by decide) hse]

lemma SectionSpec.newline_not_mem_header (s : SectionSpec) : '\n' ∉ s.header := by
  intro h
  simp only [SectionSpec.header, List.append_assoc, List.cons_append, List.mem_cons,
    List.mem_append] at h
  rcases h with h | h | h | h | h | h
  · have := s.glyph_tree
    rw [← h] at this
    exact absurd this (by decide)
  · exact absurd h (by decide)
  · exact absurd h (by decide)
  · exact ne_newline_of_word (s.bench_word.2 _ h) rfl
  · exact s.gap.newline_not_mem h
  · exact s.rest_line h

/-! ### The round trip -/

variable [PyFloat F]

lemma measurements_rows (rows : List MeasureLine) :
    measurements targetChar (rows.map MeasureLine.text) =
      .ok (rows.map fun m => (m.result, m.unit.nanos (m.number.value (F := F)))) := by
  induction rows with
  | nil => rfl
  | cons m rows ih =>
    rw [List.map_cons, measurements_cons, resultMatch_measure]
    simp [measuredValue_result, ih, pure, Except.pure]

omit [PyUnicode] [PyFloat F] in
/-- Storing measurements one after the other assigns, in each operation's table, each of that
operation's targets in turn. -/
lemma get_foldl_store (ms : List (ResultLine × F)) (t₀ : OpTables F) (op : Op) :
    (ms.foldl OpTables.store t₀).get op =
      (t₀.get op).insertAll ((ms.filter fun m => operationOf m.1.name = op).map
        fun m => (⟨targetBase m.1.name⟩, m.2)) := by
  induction ms generalizing t₀ with
  | nil => rfl
  | cons m ms ih =>
    rw [List.foldl_cons, ih, OpTables.store, OpTables.get_set, List.filter_cons]
    by_cases h : operationOf m.1.name = op <;> simp [h]

lemma SectionSpec.nodup_expected (s : SectionSpec) (op : Op) :
    ((s.expected (F := F) op).map Prod.fst).Nodup := by
  have hsub : ((s.rows.filter fun m => m.op = op).map fun m => (m.target, m.op)).Nodup :=
    s.rows_nodup.sublist ((List.filter_sublist _).map _)
  simp only [SectionSpec.expected, List.map_map]
  refine List.Nodup.map_on (fun x hx y hy hxy => List.inj_on_of_nodup_map hsub hx hy ?_)
    (hsub.of_map _)
  simp only [List.mem_filter, decide_eq_true_eq] at hx hy
  rw [show x.target = y.target from congrArg String.data hxy, hx.2, hy.2]

/-- The table a section's rows build. -/
def SectionSpec.table (s : SectionSpec) : OpTables F :=
  (s.rows.map fun m => (m.result, m.unit.nanos m.number.value)).foldl OpTables.store .empty

/-- A section's table holds, for each operation, the rows under it. -/
lemma SectionSpec.entries_table (s : SectionSpec) (op : Op) :
    ((s.table (F := F)).get op).entries = s.expected op := by
  have hexp : ((s.rows.map fun m => (m.result, m.unit.nanos (m.number.value (F := F)))).filter
      fun m => operationOf m.1.name = op).map (fun m => ((⟨targetBase m.1.name⟩ : String), m.2)) =
        s.expected op := by
    simp [SectionSpec.expected, List.filter_map, Function.comp_def, MeasureLine.result,
      MeasureLine.operationOf_name, MeasureLine.targetBase_name]
  rw [SectionSpec.table, get_foldl_store, OpTables.get_empty, hexp,
    PyDict.entries_insertAll_of_nodup _ _ (by simpa using s.nodup_expected op)]
  rfl

/-- The printed tree of distinct benchmarks parses to the tables of its sections, in order. -/
lemma parseDivanOutput_divanText_entries (secs : List SectionSpec)
    (hb : (secs.map SectionSpec.bench).Nodup) :
    ∃ R, parseDivanOutput (F := F) (divanText secs) = .ok R ∧
      R.entries = secs.map fun s => ((⟨s.bench⟩ : String), s.table) := by
  have hkeys : ((secs.map SectionSpec.bench).map String.mk).Nodup :=
    hb.map fun _ _ h => congrArg String.data h
  exact sectionLoop_intercalate (divanFormat (F := F)) SectionSpec.header
    (fun s => s.rows.map MeasureLine.text) (fun s => ⟨s.bench⟩) moduleName_header
    (fun _ _ hl => by obtain ⟨m, -, rfl⟩ := List.mem_map.mp hl; exact moduleName_measure m) rfl
    (fun s => ⟨s.newline_not_mem_header,
      fun _ hl => by obtain ⟨m, -, rfl⟩ := List.mem_map.mp hl; exact m.newline_not_mem⟩)
    (fun s => by rw [tableOf_divanFormat, measurements_rows]; rfl)
    (by simpa [List.map_map, Function.comp_def] using hkeys)

/-- The round trip: the printed tree of distinct benchmarks parses to those benchmarks, in order,
each with, under each operation, exactly its rows under that operation, in order, each target
with its time in nanoseconds. -/
theorem parseDivanOutput_divanText (secs : List SectionSpec)
    (hb : (secs.map SectionSpec.bench).Nodup) :
    ∃ R, parseDivanOutput (F := F) (divanText secs) = .ok R ∧
      R.entries.map (fun e => (e.1, (e.2.get .deserialize).entries, (e.2.get .serialize).entries)) =
        secs.map fun s => ((⟨s.bench⟩ : String), s.expected .deserialize, s.expected .serialize) := by
  obtain ⟨R, hR, hentries⟩ := parseDivanOutput_divanText_entries (F := F) secs hb
  refine ⟨R, hR, ?_⟩
  rw [hentries]
  simp [Function.comp_def, SectionSpec.entries_table]

end

/-- The section `├─ simple_struct  │` with the row `   ╰─ serde_json_deserialize  1.046 µs`. -/
def simpleStructSection : SectionSpec where
  glyph := '├'
  bench := "simple_struct".data
  gap := ⟨[' ', ' '], by decide, by decide⟩
  rest := "│".data
  rows := [{
    last := true
    target := "serde_json".data
    op := .deserialize
    gap₁ := ⟨[' ', ' '], by decide, by decide⟩
    number := ⟨"1".data, some "046".data, by decide, by decide⟩
    gap₂ := ⟨[' '], by decide, by decide⟩
    unit := .us
    tail := []
    target_word := by decide
    target_free := by decide
    tail_line := by decide }]
  glyph_tree := by decide
  bench_word := by decide
  rest_line := by decide
  rows_nodup := by decide

theorem parseDivanOutput_divanText_simpleStruct :
    ([simpleStructSection].map SectionSpec.bench).Nodup ∧
      ∃ R, parseDivanOutput (F := ℕ) (divanText [simpleStructSection]) = .ok R ∧
        R.entries.map (fun e => (e.1, (e.2.get .deserialize).entries,
          (e.2.get .serialize).entries)) =
          [simpleStructSection].map fun s =>
            ((⟨s.bench⟩ : String), s.expected .deserialize, s.expected .serialize) :=
  ⟨by decide, parseDivanOutput_divanText _ (by decide)⟩

/-- The comment above the module pattern gives `├─ simple_struct` as a section line, but the
pattern needs a whitespace character after the name: a section line with nothing after the name is
not read as one, the rows under `b` go to `a`, and `b` is missing. -/
theorem parseDivanOutput_bare_section_line :
    parseDivanOutput (F := ℕ) "├─ a \n│  ├─ x_serialize  1 ns\n├─ b\n│  ├─ y_serialize  2 ns" =
      .ok ((∅ : PyDict String (OpTables ℕ)).insert "a"
        ((OpTables.empty.set .serialize "x" 1).set .serialize "y" 2)) := by
  decide

end BenchReport
