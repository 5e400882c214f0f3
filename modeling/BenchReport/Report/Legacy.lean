import BenchReport.Report
import BenchReport.Gungraun.Legacy

/-!
# The older report

`generate_html_report` of `parse-bench.py` renders a wall-clock table for each of seven named
benchmarks, a block of instruction counts for each benchmark gungraun measured, and one chart of
the micro benchmarks. The model keeps what these compute, in the order the function computes
them.

The chart's loop looks up each dataset's colour in `chartColors`, a name that only the page's
JavaScript text defines, as a `const`: no variable of the script has it, and the lookup raises
`NameError` on the loop's first round. `main` calls the function after its two parsers, and every
count the gungraun parser returns can be formatted, so the function gets past the instruction
counts to the chart: a run of the older script always ends with an exception, the `ValueError` of
a parser or this `NameError`, and never writes its report (`Legacy.mainReport_eq_error`).
-/

namespace BenchReport

namespace Legacy

/-- The exceptions a run of `parse-bench.py` stops with. -/
inductive PyError
  | valueError (e : ValueError)
  | nameError (name : String)
  deriving DecidableEq, Repr

/-- `micro_benchmarks`. -/
def microBenchmarks : List String := ["simple_struct", "single_nested_struct", "simple_with_options"]

/-- `realistic_benchmarks`. -/
def realisticBenchmarks : List String := ["twitter", "canada", "hashmaps", "nested_structs"]

/-- `s.replace('_', ' ')`. -/
def spaced (s : String) : String := ⟨s.data.map fun c => if c = '_' then ' ' else c⟩

/-- `bench.replace('_', ' ').title()`. -/
def benchTitle [PyUnicode] (bench : String) : String := PyUnicode.title (spaced bench)

variable {F : Type} [PyFloat F]

/-- `format_time(ns)` of `parse-bench.py`: the body of `format_time` in `parse_bench.py`. -/
def formatTime (ns : F) : String := BenchReport.formatTime ns

/-- `format_number(n)`: `f"{n:,}"`. -/
def formatNumber (n : ℕ) : Except ValueError String := formatThousands n

/-! ### The wall-clock tables -/

/-- A row of a wall-clock table: its class and its four cells, the last two with their class. -/
structure TableRow where
  rowClass : RowClass
  target : String
  time : String
  speedupClass : String
  vsFastest : String
  vsSerde : String
  deriving DecidableEq, Repr

/-- `row_class`: `fastest` for the fastest time, then `jit-highlight` for a name with
`format_jit` in it and `baseline` for a name with `serde` in it. -/
def rowClassOf (target : String) (time fastest : F) : RowClass :=
  if time = fastest then .fastest
  else if "format_jit".data <:+: target.data then .jitHighlight
  else if "serde".data <:+: target.data then .baseline
  else .plain

/-- `"speedup" if time_ns <= fastest * 1.1 else ("slowdown" if time_ns > fastest * 2 else "")`. -/
def speedupClass (time fastest : F) : String :=
  if time ≤ fastest * PyFloat.ofDecimal 11 1 then "speedup"
  else if fastest * PyFloat.ofNat 2 < time then "slowdown"
  else ""

/-- `f"{time_ns / fastest:.2f}x" if fastest > 0 else "-"`. -/
def vsFastest (time fastest : F) : String :=
  if PyFloat.ofNat 0 < fastest then PyFloat.fixed 2 (time / fastest) ++ "x" else "-"

/-- `f"{time_ns / serde_time:.2f}x" if serde_time and serde_time > 0 else "-"`. -/
def vsSerde (serdeTime : Option F) (time : F) : String :=
  match serdeTime with
  | some s =>
    if s ≠ PyFloat.ofNat 0 ∧ PyFloat.ofNat 0 < s then PyFloat.fixed 2 (time / s) ++ "x" else "-"
  | none => "-"

/-- The row of a target. -/
def tableRow (fastest : F) (serdeTime : Option F) (target : String) (time : F) : TableRow where
  rowClass := rowClassOf target time fastest
  target := spaced target
  time := formatTime time
  speedupClass := speedupClass time fastest
  vsFastest := vsFastest time fastest
  vsSerde := vsSerde serdeTime time

/-- A benchmark's table: its heading and its rows, fastest first. -/
structure Table where
  heading : String
  rows : List TableRow
  deriving DecidableEq, Repr

/-- The table of a benchmark, or nothing for an empty `data`. -/
def benchTable [PyUnicode] (bench : String) (data : PyDict String F) : Option Table :=
  match data.values with
  | [] => none
  | v :: vs =>
    let fastest := pyMin v vs
    let serdeTime := (data.get? "serde_json_deserialize").or (data.get? "serde_json_serialize")
    some ⟨benchTitle bench, (sortedTargets data).map fun e => tableRow fastest serdeTime e.1 e.2⟩

/-- The two categories, each with the tables of its benchmarks that `divan_data` has. -/
def wallClockTables [PyUnicode] (D : PyDict String (PyDict String F)) :
    List (String × List Table) :=
  [("Micro Benchmarks", microBenchmarks), ("Realistic Benchmarks", realisticBenchmarks)].map
    fun c => (c.1, c.2.filterMap fun bench => (D.get? bench).bind (benchTable bench))

/-! ### The instruction counts -/

/-- A benchmark's instruction counts, as the page shows them. -/
structure CountsBlock where
  heading : String
  instructions : Option String
  estimatedCycles : Option String
  deriving DecidableEq, Repr

/-- A benchmark's block: its title, then its instruction count and its estimated cycles, each
formatted if present. -/
def countsBlock [PyUnicode] (benchName : String) (metrics : PyDict String ℕ) :
    Except ValueError CountsBlock := do
  let instructions ← (metrics.get? "Instructions").mapM formatNumber
  let estimatedCycles ← (metrics.get? "Estimated Cycles").mapM formatNumber
  pure ⟨benchTitle benchName, instructions, estimatedCycles⟩

/-- The blocks of the benchmarks with at least one metric, in the order of `gungraun_data`. -/
def gungraunBlocks [PyUnicode] (G : PyDict String (PyDict String ℕ)) :
    Except ValueError (List CountsBlock) :=
  G.entries.filterMapM fun e => if e.2.entries = [] then pure none else some <$> countsBlock e.1 e.2

/-! ### The micro chart -/

/-- A dataset of the micro chart. -/
structure Dataset (F : Type) where
  label : String
  data : List (Option F)
  backgroundColor : String
  borderColor : String

/-- What the function builds. -/
structure Page (F : Type) where
  tables : List (String × List Table)
  counts : List CountsBlock
  microLabels : List String
  datasets : List (Dataset F)

/-- The five datasets' result names. -/
def chartTargets : List String :=
  ["facet_format_jit_deserialize", "facet_format_json_deserialize", "facet_json_deserialize",
    "facet_json_cranelift_deserialize", "serde_json_deserialize"]

/-- `target_labels`. -/
def targetLabels : List String :=
  ["Format JIT ⭐", "Format Interp", "JSON Interp", "JSON JIT", "serde_json 🎯"]

/-- The Python name `chartColors`. The script has no variable of that name: the only
`chartColors` is the `const` of the JavaScript text the function writes. -/
def chartColors : Except PyError (PyDict String String) := throw (.nameError "chartColors")

/-- `target.split('_')[0] + '_' + target.split('_')[1]`; each of the five names has two
segments. -/
def colorKey (target : String) : String :=
  let parts := target.data.splitOn '_'
  ⟨parts.headD [] ++ '_' :: (parts.drop 1).headD []⟩

/-- A round of the chart's loop: the target's time on each micro benchmark, in microseconds, and
its colour. -/
def microDataset (D : PyDict String (PyDict String F)) (target label : String) :
    Except PyError (Dataset F) := do
  let dataPoints := microBenchmarks.map fun bench =>
    ((D.get? bench).bind (·.get? target)).map (· / PyFloat.ofNat 1000)
  let colors ← chartColors
  let color := (colors.get? (colorKey target)).getD "#999"
  pure ⟨label, dataPoints, color ++ "88", color⟩

/-- `generate_html_report(divan_data, gungraun_data, git_info)`: the tables, the instruction
counts, the micro chart's labels, then its datasets. -/
def generateHtmlReport [PyUnicode] (D : PyDict String (PyDict String F))
    (G : PyDict String (PyDict String ℕ)) : Except PyError (Page F) := do
  let tables := wallClockTables D
  let counts ← (gungraunBlocks G).mapError .valueError
  let microLabels := (microBenchmarks.filter (· ∈ D.keys)).map benchTitle
  let datasets ← (chartTargets.zip targetLabels).mapM fun e => microDataset D e.1 e.2
  pure ⟨tables, counts, microLabels, datasets⟩

/-- What `main` of `parse-bench.py` computes from the contents of its two input files, each read
with `read_text`: the page, or the exception it stops with. -/
def mainReport [PyUnicode] (divanText gungraunText : String) : Except PyError (Page F) := do
  let divanData ← (parseDivanOutput (F := F) ⟨readText divanText.data⟩).mapError .valueError
  let gungraunData ← (parseGungraunOutput ⟨readText gungraunText.data⟩).mapError .valueError
  generateHtmlReport divanData gungraunData

/-! ### A run -/

section

variable [PyUnicode]

omit [PyUnicode] in
lemma mapM_formatNumber {o : Option ℕ} (h : ∀ n ∈ o, n < 10 ^ maxStrDigits) :
    o.mapM formatNumber = .ok (o.map groupThousands) := by
  cases o with
  | none => rfl
  | some n =>
    unfold Option.mapM formatNumber
    dsimp only
    rw [formatThousands_of_lt (h n rfl)]
    rfl

/-- With counts that fit, every block is written: each benchmark with a metric, its counts with
thousands separators. -/
lemma gungraunBlocks_of_countsFit {G : PyDict String (PyDict String ℕ)} (hG : CountsFit G) :
    gungraunBlocks G = .ok (G.entries.filterMap fun e => if e.2.entries = [] then none
      else some ⟨benchTitle e.1, (e.2.get? "Instructions").map groupThousands,
        (e.2.get? "Estimated Cycles").map groupThousands⟩) := by
  have hblock : ∀ e ∈ G.entries, (if e.2.entries = [] then pure none
      else some <$> countsBlock e.1 e.2 : Except ValueError (Option CountsBlock)) =
        .ok (if e.2.entries = [] then none else some ⟨benchTitle e.1,
          (e.2.get? "Instructions").map groupThousands,
          (e.2.get? "Estimated Cycles").map groupThousands⟩) := fun e he => by
    split_ifs
    · rfl
    · have hlt := fun metric n (hn : n ∈ e.2.get? metric) =>
        CountsFit.lt hG ((G.get?_eq_some_iff _ _).mpr he) hn
      rw [countsBlock, mapM_formatNumber (hlt _), ok_bind, mapM_formatNumber (hlt _)]
      rfl
  rw [gungraunBlocks, filterMapM_eq, mapM_eq_ok_map hblock]
  exact congrArg Except.ok (List.filterMap_map ..)

/-- With counts that fit, the function writes its tables and instruction counts and stops at the
chart's first round. -/
lemma generateHtmlReport_eq (D : PyDict String (PyDict String F))
    {G : PyDict String (PyDict String ℕ)} (hG : CountsFit G) :
    generateHtmlReport D G = .error (.nameError "chartColors") := by
  rw [generateHtmlReport, gungraunBlocks_of_countsFit hG]
  rfl

end

end Legacy

end BenchReport
