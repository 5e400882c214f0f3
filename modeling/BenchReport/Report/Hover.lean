import BenchReport.Report.Table

/-!
# Hovering over a table

Each row of a section's table calls `highlightChart(benchId, target)` when the pointer enters it
and `unhighlightChart(benchId)` when it leaves. The first call saves the chart's dataset in
`window.chartOriginalConfigs[benchId]`; each highlight then recolours the dataset as it is at
that moment, and each unhighlight puts the saved one back. The keys of `window.charts` are
pairwise distinct (`rendersOnce_of_ok`), so the charts do not share state and one
chart can be followed alone.

`ChartState` is one chart under this script and `hoverStep` its transition on a pointer event.
Over every run in which the pointer leaves each row before it enters the next, the chart shows
its original dataset after each leave and the entered row's highlight after each enter
(`hoverRun_visits`). For a rendered section the highlight of a row's target is that row's bar:
lit in its target's colour, every other bar dimmed (`generateBenchmarkSection_highlight`). When
an enter is not preceded by a leave, the new highlight is computed from colours already dimmed,
and the entered bar stays dim.
-/

namespace BenchReport

/-! ### The script's state -/

/-- `borderWidth` of a dataset: one width for every bar, or a width per bar. -/
inductive BorderWidth
  | uniform (w : ℕ)
  | perBar (ws : List ℕ)
  deriving DecidableEq, Repr

/-- What the script changes in a chart's dataset. -/
structure ChartView where
  backgroundColor : List String
  borderColor : List String
  borderWidth : BorderWidth
  deriving DecidableEq, Repr

/-- A chart in the page: its dataset, the configuration saved in
`window.chartOriginalConfigs[benchId]` if any, and the rows of its table. -/
structure ChartState where
  view : ChartView
  original : Option ChartView
  rows : List Row
  deriving DecidableEq, Repr

/-- The chart of a rendered section, as `new Chart(ctx, config)` creates it: the section's
colours with `borderWidth: 2`, nothing saved yet. -/
def BenchmarkSection.chart (s : BenchmarkSection) : ChartState where
  view := ⟨s.backgroundColor, s.borderColor, .uniform 2⟩
  original := none
  rows := s.rows

/-- The dataset after highlighting bar `targetIndex`. -/
def ChartView.highlight (v : ChartView) (targetIndex : ℕ) : ChartView :=
  { v with
    backgroundColor := highlightColors v.backgroundColor targetIndex
    borderWidth := .perBar (highlightWidths v.borderColor targetIndex) }

/-- `highlightChart(benchId, targetName)`: save the dataset if nothing is saved, then, if a row
has the target, recolour the current dataset around that row's bar. -/
def highlightChart (st : ChartState) (targetName : String) : ChartState :=
  let st := { st with original := some (st.original.getD st.view) }
  match highlightIndex st.rows targetName with
  | none => st
  | some targetIndex => { st with view := st.view.highlight targetIndex }

/-- `unhighlightChart(benchId)`: put the saved dataset back, if there is one. -/
def unhighlightChart (st : ChartState) : ChartState :=
  match st.original with
  | none => st
  | some original => { st with view := original }

/-- The pointer events of a table row. -/
inductive HoverEvent
  /-- `onmouseenter="highlightChart('{bench_id}', '{target}')"`. -/
  | enter (targetName : String)
  /-- `onmouseleave="unhighlightChart('{bench_id}')"`. -/
  | leave
  deriving DecidableEq, Repr

/-- One event. -/
def hoverStep (st : ChartState) : HoverEvent → ChartState
  | .enter targetName => highlightChart st targetName
  | .leave => unhighlightChart st

/-- A run of events. -/
def hoverRun (st : ChartState) (events : List HoverEvent) : ChartState :=
  events.foldl hoverStep st

/-- The events of a pointer that enters each row of a list and leaves it before the next. -/
def visits (targets : List String) : List HoverEvent :=
  targets.flatMap fun t => [.enter t, .leave]

/-- What a chart whose saved dataset is `v` shows while the pointer is on the row of a target. -/
def ChartView.hovered (v : ChartView) (rows : List Row) (targetName : String) : ChartView :=
  match highlightIndex rows targetName with
  | none => v
  | some targetIndex => v.highlight targetIndex

/-! ### Steps -/

lemma hoverRun_append (st : ChartState) (events events' : List HoverEvent) :
    hoverRun st (events ++ events') = hoverRun (hoverRun st events) events' :=
  List.foldl_append _ _ _ _

lemma visits_cons (t : String) (targets : List String) :
    visits (t :: targets) = [.enter t, .leave] ++ visits targets := rfl

@[simp] lemma highlightChart_rows (st : ChartState) (t : String) :
    (highlightChart st t).rows = st.rows := by
  dsimp only [highlightChart]
  split <;> rfl

@[simp] lemma unhighlightChart_rows (st : ChartState) : (unhighlightChart st).rows = st.rows := by
  unfold unhighlightChart
  split <;> rfl

lemma highlightChart_original (st : ChartState) (t : String) :
    (highlightChart st t).original = some (st.original.getD st.view) := by
  dsimp only [highlightChart]
  split <;> rfl

/-- Highlighting recolours the dataset as it is. -/
lemma highlightChart_view (st : ChartState) (t : String) :
    (highlightChart st t).view = st.view.hovered st.rows t := by
  unfold highlightChart ChartView.hovered
  split <;> simp_all

/-- A visit from a calm chart, whose dataset is the one saved or about to be, leaves it calm with
that dataset saved. -/
lemma hoverRun_visit {st : ChartState} (hst : st.original = none ∨ st.original = some st.view)
    (t : String) :
    hoverRun st [.enter t, .leave] = { st with original := some st.view } := by
  have horig := highlightChart_original st t
  have hsaved : st.original.getD st.view = st.view := by rcases hst with h | h <;> simp [h]
  rw [hsaved] at horig
  simp only [hoverRun, List.foldl_cons, List.foldl_nil, hoverStep, unhighlightChart, horig]
  cases st
  simp_all

/-- Over visits that each leave the row before entering the next, the chart stays calm: it shows
the dataset it started with, which is saved as soon as there was a visit. -/
lemma hoverRun_visits_calm {st : ChartState}
    (hst : st.original = none ∨ st.original = some st.view) (targets : List String) :
    hoverRun st (visits targets) =
      if targets = [] then st else { st with original := some st.view } := by
  induction targets generalizing st with
  | nil => rfl
  | cons t targets ih =>
    rw [visits_cons, hoverRun_append, hoverRun_visit hst, ih (.inr rfl)]
    by_cases h : targets = [] <;> simp [h]

/-! ### Runs of a rendered chart -/

/-- Whatever rows the pointer visited before, leaving each before entering the next, the chart of
a section shows its original dataset while the pointer is on no row, and the entered row's
highlight while it is on one. -/
theorem hoverRun_visits (s : BenchmarkSection) (targets : List String) (current : Option String) :
    (hoverRun s.chart (visits targets ++ (current.map HoverEvent.enter).toList)).view =
      match current with
      | none => s.chart.view
      | some t => s.chart.view.hovered s.rows t := by
  rw [hoverRun_append, hoverRun_visits_calm (.inl rfl)]
  cases current with
  | none => split_ifs <;> rfl
  | some t => split_ifs <;> exact highlightChart_view _ t

/-! ### The charts of rendered sections -/

section

variable {F : Type} [PyFloat F]

/-- The five colours of `TARGETS` are dimmed by replacing their alpha `CC` with `40`: none of them
has a `CC` earlier. -/
lemma replaceFirst_color : ∀ t ∈ targets.keys,
    replaceFirst "CC".data "40".data ((configOf t).color ++ "CC").data =
      ((configOf t).color ++ "40").data := by
  decide

/-- Highlighting bar `i` of a rendered chart keeps it in its target's colour and dims every other
bar to alpha `40`. -/
lemma highlightColors_generateBenchmarkSection [PyUnicode] {benchName : String} {op : Op}
    {G : PyDict String F} {gd : PyDict String (PyDict String ℕ)} {benchId : String}
    {s : BenchmarkSection} (h : generateBenchmarkSection benchName op G gd benchId = .ok (some s))
    (i : ℕ) :
    highlightColors s.backgroundColor i =
      (knownTimes G).enum.map fun e => (configOf e.2.1).color ++ if e.1 = i then "CC" else "40" := by
  obtain ⟨v, vs, rows, -, rfl, -⟩ := generateBenchmarkSection_eq_some h
  rw [highlightColors, sectionOf_backgroundColor, List.enum_map, List.map_map]
  refine List.map_congr_left fun e he => ?_
  have hknown := (mem_knownTimes (List.snd_mem_of_mem_enum he)).2
  by_cases hi : e.1 = i
  · simp [hi]
  · simp only [Function.comp_apply, Prod.map_fst, Prod.map_snd, id_eq, hi, ↓reduceIte,
      replaceFirst_color _ hknown]

/-- The section of `sampleGroup`. -/
def sampleSection : BenchmarkSection :=
  (generateBenchmarkSection "simple_struct" .deserialize sampleGroup ∅
    "simple_struct_deser").toOption.join.get (by decide)

end

/-- An enter that is not preceded by a leave recolours a dimmed dataset: in the section of
`sampleGroup` the bar of `facet_format_jit` stays dim after the pointer jumps to it from the row
of `serde_json`. -/
example :
    ((generateBenchmarkSection "simple_struct" .deserialize sampleGroup ∅
        "simple_struct_deser").map <| Option.map fun s =>
      (hoverRun s.chart [.enter "serde_json", .enter "facet_format_jit"]).view.backgroundColor) =
      .ok (some ["#FFD70040", "#9B59B640"]) := by
  decide

end BenchReport
