import BenchReport.Gungraun
import Mathlib.Data.List.Sort

/-!
# The report

`generate_benchmark_section` renders one benchmark and operation: a table with a row per known
target, fastest first, and a bar chart whose four arrays (labels, data, fill and border colours)
are written by four more loops over the same sorted targets. `generate_sections_html` groups the
benchmarks into four categories and renders, for each benchmark, a section per operation that
has measurements.

The model keeps what these functions compute: the ids, the heading, each row's class, cells and
data attribute, and the chart's arrays. The markup and the style and script text around them,
the same for every section, are left out.
-/

namespace BenchReport

variable {F : Type}

/-! ### Targets -/

/-- An entry of `TARGETS`: what the report shows of a target. -/
structure TargetConfig where
  emoji : String
  label : String
  color : String
  deriving DecidableEq, Repr

/-- `TARGETS`. -/
def targets : PyDict String TargetConfig :=
  ⟨[("facet_format_jit", ⟨"⚡", "Format JIT", "#FFD700"⟩),
    ("facet_format_json", ⟨"📦", "Format Interp", "#FF6B6B"⟩),
    ("facet_json", ⟨"🔧", "JSON Interp", "#4ECDC4"⟩),
    ("facet_json_cranelift", ⟨"🚀", "JSON JIT", "#95E1D3"⟩),
    ("serde_json", ⟨"🎯", "serde_json", "#9B59B6"⟩)], by decide⟩

/-! ### A benchmark's section -/

/-- The class of a table row. -/
inductive RowClass
  | fastest
  | baseline
  | jitHighlight
  | plain
  deriving DecidableEq, Repr

/-- The class attribute as written. -/
def RowClass.text : RowClass → String
  | .fastest => "fastest"
  | .baseline => "baseline"
  | .jitHighlight => "jit-highlight"
  | .plain => ""

/-- A table row: its class, its `data-target`, and its four cells. -/
structure Row where
  rowClass : RowClass
  target : String
  emoji : String
  label : String
  time : String
  instructions : String
  vsSerdeClass : String
  vsSerde : String
  deriving DecidableEq, Repr

/-- A benchmark's section: its id, heading, table rows and chart arrays. -/
structure BenchmarkSection where
  benchName : String
  op : Op
  benchId : String
  heading : String
  rows : List Row
  labels : List String
  data : List String
  backgroundColor : List String
  borderColor : List String
  deriving DecidableEq, Repr

/-- The ids of the section's elements: `bench-…`, `table-…` and `chart-…`. -/
def BenchmarkSection.elementIds (s : BenchmarkSection) : List String :=
  ["bench-" ++ s.benchId, "table-" ++ s.benchId, "chart-" ++ s.benchId]

/-- `gungraun_data.get(gungraun_key, {}).get('Instructions')`. -/
def instructionsOf (G : PyDict String (PyDict String ℕ)) (key : String) : Option ℕ :=
  ((G.get? key).getD ∅).get? "Instructions"

/-- `f"{instructions:,}" if instructions else "-"`: a count of `0` is falsy, and `format`
raises on a count of more than `maxStrDigits` digits. -/
def instructionsStr : Option ℕ → Except ValueError String
  | some n => if n ≠ 0 then formatThousands n else pure "-"
  | none => pure "-"

variable [PyFloat F]

/-- `min(divan_data.values())`: the first of the smallest values. -/
def pyMin (v : F) (vs : List F) : F := vs.foldl (fun m x => if x < m then x else m) v

/-- `format_time(ns)`. -/
def formatTime (ns : F) : String :=
  if ns < PyFloat.ofNat 1000 then PyFloat.fixed 1 ns ++ " ns"
  else if ns < PyFloat.ofNat 1000000 then PyFloat.fixed 2 (ns / PyFloat.ofNat 1000) ++ " µs"
  else PyFloat.fixed 2 (ns / PyFloat.ofNat 1000000) ++ " ms"

/-- `time_ns / serde_time if serde_time and serde_time > 0 else 0`. -/
def vsSerde (serdeTime : Option F) (time : F) : F :=
  match serdeTime with
  | some s => if s ≠ PyFloat.ofNat 0 ∧ PyFloat.ofNat 0 < s then time / s else PyFloat.ofNat 0
  | none => PyFloat.ofNat 0

/-- `f"{vs_serde:.2f}x" if vs_serde > 0 else "-"`. -/
def vsSerdeStr (vs : F) : String :=
  if PyFloat.ofNat 0 < vs then PyFloat.fixed 2 vs ++ "x" else "-"

/-- `"speedup" if vs_serde <= 1.0 else ("neutral" if vs_serde <= 2.0 else "slowdown")`. -/
def vsSerdeClass (vs : F) : String :=
  if vs ≤ PyFloat.ofNat 1 then "speedup" else if vs ≤ PyFloat.ofNat 2 then "neutral" else "slowdown"

/-- The row class: `fastest` for the fastest time, then `baseline` for serde_json and
`jit-highlight` for facet_format_jit. -/
def rowClassOf (target : String) (time fastestTime : F) : RowClass :=
  if time = fastestTime then .fastest
  else if target = "serde_json" then .baseline
  else if target = "facet_format_jit" then .jitHighlight
  else .plain

/-- The order of `sorted(…, key=lambda x: x[1])`: by time. -/
def byTime (a b : String × F) : Prop := a.2 ≤ b.2

instance instDecidableRelByTime : DecidableRel (byTime (F := F)) :=
  fun a b => inferInstanceAs (Decidable (a.2 ≤ b.2))

/-- `sorted(divan_data.items(), key=lambda x: x[1])`: a stable sort by time. -/
def sortedTargets (divanData : PyDict String F) : List (String × F) :=
  divanData.entries.insertionSort byTime

/-- The row of a target, with the cell `instructions_str`, or nothing for a target outside
`TARGETS`. -/
def rowOf (config : TargetConfig) (serdeTime : Option F) (fastestTime : F) (target : String)
    (time : F) (instructions : String) : Row where
  rowClass := rowClassOf target time fastestTime
  target := target
  emoji := config.emoji
  label := config.label
  time := formatTime time
  instructions := instructions
  vsSerdeClass := vsSerdeClass (vsSerde serdeTime time)
  vsSerde := vsSerdeStr (vsSerde serdeTime time)

/-- A round of the table's loop: nothing for a target outside `TARGETS`, else its row, unless
writing its instruction count raises. -/
def tableRow (benchName : String) (G : PyDict String (PyDict String ℕ)) (serdeTime : Option F)
    (fastestTime : F) (target : String) (time : F) : Except ValueError (Option Row) :=
  match targets.get? target with
  | none => pure none
  | some config => do
    let instructions ← instructionsStr (instructionsOf G (benchName ++ "_" ++ target))
    pure (some (rowOf config serdeTime fastestTime target time instructions))

/-- `operation.title()`, for the two operations. -/
def Op.title [PyUnicode] (op : Op) : String := PyUnicode.title op.key

/-- The section built from its rows: the heading, then the chart's four arrays, each written by a
loop over the sorted targets that skips those outside `TARGETS`. -/
def sectionOf [PyUnicode] (benchName : String) (op : Op) (divanData : PyDict String F)
    (benchId : String) (rows : List Row) : BenchmarkSection :=
  let sorted := sortedTargets divanData
  { benchName, op, benchId, rows
    heading := PyUnicode.title ⟨benchName.data.map fun c => if c = '_' then ' ' else c⟩ ++
      " - " ++ op.title
    labels := sorted.filterMap fun e =>
      (targets.get? e.1).map fun config => config.emoji ++ " " ++ config.label
    data := sorted.filterMap fun e =>
      if e.1 ∈ targets.keys then some (PyFloat.fixed 3 (e.2 / PyFloat.ofNat 1000)) else none
    backgroundColor := sorted.filterMap fun e =>
      if e.1 ∈ targets.keys then (targets.get? e.1).map (·.color ++ "CC") else none
    borderColor := sorted.filterMap fun e =>
      if e.1 ∈ targets.keys then (targets.get? e.1).map (·.color) else none }

/-- The section `generate_benchmark_section` renders for a non-empty `divan_data` whose smallest
time is `fastestTime`: the table's loop, which may raise, then the rest. -/
def benchmarkSection [PyUnicode] (benchName : String) (op : Op) (divanData : PyDict String F)
    (G : PyDict String (PyDict String ℕ)) (benchId : String) (fastestTime : F) :
    Except ValueError BenchmarkSection := do
  let serdeTime := divanData.get? "serde_json"
  let rows ← (sortedTargets divanData).filterMapM fun e =>
    tableRow benchName G serdeTime fastestTime e.1 e.2
  pure (sectionOf benchName op divanData benchId rows)

/-- `generate_benchmark_section(bench_name, operation, divan_data, gungraun_data, bench_id)`:
nothing for an empty `divan_data`. -/
def generateBenchmarkSection [PyUnicode] (benchName : String) (op : Op)
    (divanData : PyDict String F) (G : PyDict String (PyDict String ℕ)) (benchId : String) :
    Except ValueError (Option BenchmarkSection) :=
  match divanData.values with
  | [] => pure none
  | v :: vs => some <$> benchmarkSection benchName op divanData G benchId (pyMin v vs)

/-! ### The page's script -/

/-- `targetIndex` in `highlightChart(benchId, targetName)`: the index of the last table row whose
`data-target` is the target, `none` for `-1`. -/
def highlightIndex (rows : List Row) (targetName : String) : Option ℕ :=
  rows.enum.foldl (fun targetIndex r => if r.2.target = targetName then some r.1 else targetIndex)
    none

/-- JavaScript's `s.replace(pattern, replacement)` for a string pattern: only the first
occurrence is replaced. -/
def replaceFirst (pattern replacement : List Char) : List Char → List Char
  | [] => if pattern = [] then replacement else []
  | c :: s =>
    if pattern <+: c :: s then replacement ++ (c :: s).drop pattern.length
    else c :: replaceFirst pattern replacement s

/-- `newBg` in `highlightChart`: the highlighted bar keeps its colour, the others are dimmed by
`color.replace('CC', '40')`. -/
def highlightColors (backgroundColor : List String) (targetIndex : ℕ) : List String :=
  backgroundColor.enum.map fun e =>
    if e.1 = targetIndex then e.2 else ⟨replaceFirst "CC".data "40".data e.2.data⟩

/-- `newWidth` in `highlightChart`: a border of 4 for the highlighted bar, 2 for the others. -/
def highlightWidths (borderColor : List String) (targetIndex : ℕ) : List ℕ :=
  (List.replicate borderColor.length 2).set targetIndex 4

/-! ### The sections of the report -/

/-- `bench_id`: the benchmark's name with `_deser` or `_ser`. -/
def benchIdOf (benchName : String) : Op → String
  | .deserialize => benchName ++ "_deser"
  | .serialize => benchName ++ "_ser"

/-- A piece of `generate_sections_html`'s output: a category header or a benchmark's section. -/
inductive Block
  | header (title : String)
  | section (s : BenchmarkSection)
  deriving DecidableEq, Repr

/-- The micro benchmarks' names. -/
def microNames : List String :=
  ["simple_struct", "single_nested_struct", "simple_with_options", "nested_struct"]

/-- The realistic benchmarks' names. -/
def realisticNames : List String := ["twitter", "canada", "hashmaps", "nested_structs"]

/-- The array benchmarks' names. -/
def arrayNames : List String :=
  ["floats", "integers", "booleans", "short_strings", "long_strings", "escaped_strings"]

/-- The four categories with their titles and benchmarks, in order. -/
def categories (benches : List String) : List (String × List String) :=
  let micro := benches.filter (· ∈ microNames)
  let realistic := benches.filter (· ∈ realisticNames)
  let array := benches.filter (· ∈ arrayNames)
  let other := benches.filter (· ∉ micro ++ realistic ++ array)
  [("🔬 Micro Benchmarks (JIT Testing)", micro),
   ("🌍 Realistic Benchmarks (Real-World Data)", realistic),
   ("📊 Array Benchmarks (Vec&lt;T&gt;)", array),
   ("📦 Other Benchmarks", other)]

/-- The section of one operation of a benchmark, if `bench_data.get(operation)` is not empty. -/
def opSection [PyUnicode] (G : PyDict String (PyDict String ℕ)) (benchName : String)
    (benchData : OpTables F) (op : Op) : Except ValueError (Option BenchmarkSection) :=
  if (benchData.get op).entries = [] then pure none
  else generateBenchmarkSection benchName op (benchData.get op) G (benchIdOf benchName op)

/-- The sections of a benchmark: its deserialize section, then its serialize section. -/
def benchSections [PyUnicode] (D : PyDict String (OpTables F))
    (G : PyDict String (PyDict String ℕ)) (benchName : String) :
    Except ValueError (List BenchmarkSection) :=
  match D.get? benchName with
  | some benchData => do
    let deser ← opSection G benchName benchData .deserialize
    let ser ← opSection G benchName benchData .serialize
    pure (deser.toList ++ ser.toList)
  | none => pure []

/-- `generate_sections_html(divan_data, gungraun_data)`: each non-empty category's header, then
its benchmarks' sections. -/
def generateSectionsHtml [PyUnicode] (D : PyDict String (OpTables F))
    (G : PyDict String (PyDict String ℕ)) : Except ValueError (List Block) := do
  let blocks ← (categories D.keys).mapM fun c =>
    if c.2 = [] then pure []
    else do
      let secs ← c.2.mapM (benchSections D G)
      pure (.header c.1 :: secs.flatten.map .section)
  pure blocks.flatten

/-- `deser_count` and `ser_count` of `main`: the benchmarks with measurements under each
operation. -/
def mainCounts (D : PyDict String (OpTables F)) : ℕ × ℕ :=
  (D.values.countP fun e => (e.get .deserialize).entries ≠ [],
   D.values.countP fun e => (e.get .serialize).entries ≠ [])

end BenchReport
