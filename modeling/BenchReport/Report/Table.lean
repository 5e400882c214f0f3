import BenchReport.Report

/-!
# A benchmark's table and chart

`generate_benchmark_section` walks the sorted targets five times: once for the table rows and
once for each of the chart's four arrays, each walk skipping the targets outside `TARGETS`.
The five results are maps over one list, `knownTimes`: the group's known targets, fastest
first, ties in the group's order. So the rows and the bars agree, and the row index
`highlightChart` finds for a row's target is the row's own (`generateBenchmarkSection_chart`).

A row is marked `fastest` when its time equals the smallest time of the whole group, whose
unknown targets count too: the marked rows come first, but there may be none of them, or
several (`generateBenchmarkSection_fastest`).

A row's Instructions cell is `f"{instructions:,}"`, which raises on a count of more than
`maxStrDigits` digits; a section is returned exactly when none of its rows has such a count
(`generateBenchmarkSection_ok_iff`), and the results above are about the sections returned.
-/

namespace BenchReport

variable {F : Type} [PyFloat F]

/-! ### The smallest time -/

lemma pyMin_cons (v y : F) (vs : List F) :
    pyMin v (y :: vs) = pyMin (if y < v then y else v) vs := rfl

lemma pyMin_le (v : F) (vs : List F) : ∀ x ∈ v :: vs, pyMin v vs ≤ x := by
  induction vs generalizing v with
  | nil => simp [pyMin]
  | cons y vs ih =>
    have hv : (if y < v then y else v) ≤ v ∧ (if y < v then y else v) ≤ y := by
      split_ifs with h
      · exact ⟨h.le, le_rfl⟩
      · exact ⟨le_rfl, not_lt.mp h⟩
    intro x hx
    rw [pyMin_cons]
    rcases List.mem_cons.mp hx with rfl | hx
    · exact (ih _ _ (List.mem_cons_self _ _)).trans hv.1
    rcases List.mem_cons.mp hx with rfl | hx
    · exact (ih _ _ (List.mem_cons_self _ _)).trans hv.2
    · exact ih _ x (List.mem_cons_of_mem _ hx)

lemma pyMin_mem (v : F) (vs : List F) : pyMin v vs ∈ v :: vs := by
  induction vs generalizing v with
  | nil => exact List.mem_cons_self _ _
  | cons y vs ih =>
    rw [pyMin_cons]
    split_ifs
    · rcases List.mem_cons.mp (ih y) with h | h <;> simp [h]
    · rcases List.mem_cons.mp (ih v) with h | h <;> simp [h]

/-- A time no time of the group is below. -/
def IsMinTime (G : PyDict String F) (time : F) : Prop := ∀ x ∈ G.values, time ≤ x

instance instDecidableIsMinTime (G : PyDict String F) (time : F) : Decidable (IsMinTime G time) :=
  inferInstanceAs (Decidable (∀ x ∈ G.values, time ≤ x))

/-- `time_ns == fastest_time` holds of the times that are a minimum. -/
lemma eq_pyMin_iff {v x : F} {vs : List F} (hx : x ∈ v :: vs) :
    x = pyMin v vs ↔ ∀ y ∈ v :: vs, x ≤ y :=
  ⟨fun h => h ▸ pyMin_le v vs, fun h => le_antisymm (h _ (pyMin_mem v vs)) (pyMin_le v vs x hx)⟩

/-! ### The sorted targets -/

instance instIsTotalByTime : IsTotal (String × F) byTime := ⟨fun a b => le_total a.2 b.2⟩

instance instIsTransByTime : IsTrans (String × F) byTime := ⟨fun _ _ _ => le_trans⟩

/-- The targets of a group that are in `TARGETS`, with their times, in the sorted order. -/
def knownTimes (G : PyDict String F) : List (String × F) :=
  (sortedTargets G).filter fun e => e.1 ∈ targets.keys

lemma knownTimes_sorted (G : PyDict String F) : (knownTimes G).Sorted byTime :=
  (List.sorted_insertionSort byTime G.entries).filter _

lemma knownTimes_perm (G : PyDict String F) :
    (knownTimes G).Perm (G.entries.filter fun e => e.1 ∈ targets.keys) :=
  (List.perm_insertionSort byTime G.entries).filter _

lemma knownTimes_nodup (G : PyDict String F) : ((knownTimes G).map Prod.fst).Nodup :=
  ((knownTimes_perm G).map Prod.fst).nodup_iff.mpr
    (G.keys_nodup.sublist ((List.filter_sublist _).map Prod.fst))

/-- The sort is stable: of two known targets, one no slower that comes first in the group comes
first in the table. -/
lemma pair_sublist_knownTimes {G : PyDict String F} {a b : String × F}
    (h : [a, b].Sublist G.entries) (hab : a.2 ≤ b.2) (ha : a.1 ∈ targets.keys)
    (hb : b.1 ∈ targets.keys) : [a, b].Sublist (knownTimes G) := by
  have := (List.pair_sublist_insertionSort (r := byTime) hab h).filter
    fun e => decide (e.1 ∈ targets.keys)
  simpa [ha, hb] using this

/-! ### The five walks -/

/-- The entry of `TARGETS` for a known target. -/
def configOf (target : String) : TargetConfig := (targets.get? target).getD ⟨"", "", ""⟩

lemma targets_get? (target : String) :
    targets.get? target = if target ∈ targets.keys then some (configOf target) else none := by
  split_ifs with h
  · obtain ⟨c, hc⟩ := Option.isSome_iff_exists.mp ((targets.get?_isSome target).mpr h)
    simp [configOf, hc]
  · exact (targets.get?_eq_none target).mpr h

/-- A walk over the sorted targets that skips the unknown ones is a map over `knownTimes`. -/
lemma filterMap_sortedTargets {β : Type} (G : PyDict String F) {f : String × F → Option β}
    {g : String × F → β} (hf : ∀ e, f e = if e.1 ∈ targets.keys then some (g e) else none) :
    (sortedTargets G).filterMap f = (knownTimes G).map g := by
  rw [knownTimes, ← List.filterMap_eq_map, List.filterMap_filter]
  congr 1
  funext e
  by_cases h : e.1 ∈ targets.keys <;> simp [hf, h]

section

variable [PyUnicode] (benchName : String) (op : Op) (G : PyDict String F) (benchId : String)
  (rows : List Row)

lemma sectionOf_labels :
    (sectionOf benchName op G benchId rows).labels =
      (knownTimes G).map fun e => (configOf e.1).emoji ++ " " ++ (configOf e.1).label :=
  filterMap_sortedTargets G fun e => by
    rw [targets_get?]
    split_ifs <;> rfl

lemma sectionOf_data :
    (sectionOf benchName op G benchId rows).data =
      (knownTimes G).map fun e => PyFloat.fixed 3 (e.2 / PyFloat.ofNat 1000) :=
  filterMap_sortedTargets G fun _ => rfl

lemma sectionOf_backgroundColor :
    (sectionOf benchName op G benchId rows).backgroundColor =
      (knownTimes G).map fun e => (configOf e.1).color ++ "CC" :=
  filterMap_sortedTargets G fun e => by
    rw [targets_get?]
    split_ifs <;> rfl

lemma sectionOf_borderColor :
    (sectionOf benchName op G benchId rows).borderColor =
      (knownTimes G).map fun e => (configOf e.1).color :=
  filterMap_sortedTargets G fun e => by
    rw [targets_get?]
    split_ifs <;> rfl

end

section

variable [PyUnicode] {benchName : String} {op : Op} {G : PyDict String F}
  {gd : PyDict String (PyDict String ℕ)} {benchId : String} {fastestTime : F}

omit [PyUnicode] in
/-- A round of the table's loop that returns gives a row for a known target only, with the
target and its class. -/
lemma tableRow_ok {serdeTime : Option F} {target : String} {time : F} {o : Option Row}
    (h : tableRow benchName gd serdeTime fastestTime target time = .ok o) :
    o.map (fun r => (r.target, r.rowClass)) =
      if target ∈ targets.keys then some (target, rowClassOf target time fastestTime) else none := by
  unfold tableRow at h
  rw [targets_get?] at h
  split_ifs at h with hk
  · obtain ⟨_, -, h⟩ := bind_eq_ok.mp h
    cases h
    rw [if_pos hk]
    rfl
  · cases h
    rw [if_neg hk]
    rfl

/-- When the table's loop returns, its rows are the known targets', sorted, each with its
class. -/
lemma benchmarkSection_ok {s : BenchmarkSection}
    (h : benchmarkSection benchName op G gd benchId fastestTime = .ok s) :
    ∃ rows, s = sectionOf benchName op G benchId rows ∧ rows.map (fun r => (r.target, r.rowClass)) =
      (knownTimes G).map fun e => (e.1, rowClassOf e.1 e.2 fastestTime) := by
  obtain ⟨rows, hr, h⟩ := bind_eq_ok.mp h
  cases h
  exact ⟨rows, rfl, (filterMapM_map_of_step (fun _ _ ho => tableRow_ok ho) hr).trans
    (filterMap_sortedTargets G fun _ => rfl)⟩

/-- A rendered section is built from rows that are the known targets', sorted, each with its
class against the smallest time of the group. -/
lemma generateBenchmarkSection_eq_some {s : BenchmarkSection}
    (h : generateBenchmarkSection benchName op G gd benchId = .ok (some s)) :
    ∃ v vs rows, G.values = v :: vs ∧ s = sectionOf benchName op G benchId rows ∧
      rows.map (fun r => (r.target, r.rowClass)) =
        (knownTimes G).map fun e => (e.1, rowClassOf e.1 e.2 (pyMin v vs)) := by
  unfold generateBenchmarkSection at h
  split at h
  · cases h
  · rename_i v vs hvs
    obtain ⟨s', hs', hss⟩ := (map_eq_ok_iff _ _ _).mp h
    cases hss
    obtain ⟨rows, rfl, hrows⟩ := benchmarkSection_ok hs'
    exact ⟨v, vs, rows, hvs, rfl, hrows⟩

lemma rows_target_of_eq_some {s : BenchmarkSection}
    (h : generateBenchmarkSection benchName op G gd benchId = .ok (some s)) :
    s.rows.map Row.target = (knownTimes G).map Prod.fst := by
  obtain ⟨v, vs, rows, -, rfl, hrows⟩ := generateBenchmarkSection_eq_some h
  simpa [List.map_map, Function.comp_def] using congrArg (List.map Prod.fst) hrows

/-! ### When a section raises -/

omit [PyUnicode] in
/-- `f"{instructions:,}"` returns for a count of at most `maxStrDigits` digits only. -/
lemma instructionsStr_ok_iff (count : Option ℕ) :
    (∃ t, instructionsStr count = .ok t) ↔ ∀ n, count = some n → n < 10 ^ maxStrDigits := by
  cases count with
  | none => exact iff_of_true ⟨_, rfl⟩ fun _ h => by cases h
  | some n =>
    simp only [instructionsStr, Option.some.injEq, forall_eq']
    split_ifs with h0
    · exact formatThousands_ok_iff
    · rw [not_not.mp h0]
      exact iff_of_true ⟨_, rfl⟩ (Nat.pos_pow_of_pos _ (by decide))

/-- The instruction count of a target's row can be written: the target has no row, or its count
has at most `maxStrDigits` digits. -/
def RowFits (gd : PyDict String (PyDict String ℕ)) (benchName target : String) : Prop :=
  target ∈ targets.keys →
    ∀ n, instructionsOf gd (benchName ++ "_" ++ target) = some n → n < 10 ^ maxStrDigits

omit [PyUnicode] in
lemma tableRow_ok_iff (serdeTime : Option F) (target : String) (time : F) :
    (∃ o, tableRow benchName gd serdeTime fastestTime target time = .ok o) ↔
      RowFits gd benchName target := by
  unfold tableRow RowFits
  rw [targets_get?]
  split_ifs with hk
  · rw [forall_prop_of_true hk, ← instructionsStr_ok_iff]
    cases instructionsStr (instructionsOf gd (benchName ++ "_" ++ target)) <;> simp
  · simp [hk, pure, Except.pure]

/-- A section returns exactly when the row of each of its targets can be written. -/
lemma generateBenchmarkSection_ok_iff :
    (∃ o, generateBenchmarkSection benchName op G gd benchId = .ok o) ↔
      ∀ e ∈ G.entries, RowFits gd benchName e.1 := by
  unfold generateBenchmarkSection
  split
  · rename_i hv
    have he : G.entries = [] := List.map_eq_nil_iff.mp hv
    simp [he, pure, Except.pure]
  · simp only [benchmarkSection, bind_pure_comp, exists_map_eq_ok, filterMapM_ok_exists_iff,
      tableRow_ok_iff]
    exact forall_congr' fun e => imp_congr_left (List.perm_insertionSort byTime G.entries).mem_iff

end

/-! ### The row a pointer enters -/

section Highlight

variable {targetName : String}

lemma foldl_highlight_of_not_mem {rows : List Row} (h : targetName ∉ rows.map Row.target)
    (n : ℕ) (acc : Option ℕ) :
    (rows.enumFrom n).foldl (fun targetIndex r =>
      if r.2.target = targetName then some r.1 else targetIndex) acc = acc := by
  induction rows generalizing n with
  | nil => rfl
  | cons r rows ih =>
    simp only [List.map_cons, List.mem_cons, not_or] at h
    rw [List.enumFrom_cons, List.foldl_cons, if_neg (Ne.symm h.1), ih h.2]

lemma foldl_highlight_get {rows : List Row} (hnd : (rows.map Row.target).Nodup) (n : ℕ)
    (acc : Option ℕ) (i : ℕ) (hi : i < rows.length) :
    (rows.enumFrom n).foldl (fun targetIndex r =>
      if r.2.target = rows[i].target then some r.1 else targetIndex) acc = some (n + i) := by
  induction rows generalizing n acc i with
  | nil => cases hi
  | cons r rows ih =>
    rw [List.map_cons, List.nodup_cons] at hnd
    rw [List.enumFrom_cons, List.foldl_cons]
    cases i with
    | zero =>
      simp only [List.getElem_cons_zero, ↓reduceIte]
      rw [foldl_highlight_of_not_mem hnd.1]
      rfl
    | succ k =>
      rw [List.getElem_cons_succ, ih hnd.2 (n + 1) _ k (Nat.lt_of_succ_lt_succ hi)]
      rw [Nat.add_right_comm, Nat.add_assoc]

/-- When no two rows share a target, `highlightChart` finds each row at its own index. -/
lemma highlightIndex_getElem {rows : List Row} (hnd : (rows.map Row.target).Nodup) (i : ℕ)
    (hi : i < rows.length) : highlightIndex rows rows[i].target = some i := by
  rw [highlightIndex, List.enum, foldl_highlight_get hnd 0 none i hi, Nat.zero_add]

end Highlight

/-! ### The sections -/

lemma rowClassOf_eq_fastest {target : String} {time fastestTime : F} :
    rowClassOf target time fastestTime = .fastest ↔ time = fastestTime := by
  unfold rowClassOf
  split_ifs <;> simp [*]

/-- Keeping the elements of a property that holds of all before any of its elements keeps a
prefix. -/
lemma filter_isPrefix {α : Type} (p : α → Bool) {l : List α}
    (h : l.Pairwise fun a b => p b → p a) : l.filter p <+: l := by
  induction l with
  | nil => exact List.nil_prefix
  | cons a l ih =>
    obtain ⟨ha, hl⟩ := List.pairwise_cons.mp h
    by_cases hp : p a
    · rw [List.filter_cons_of_pos hp, List.prefix_cons_inj]
      exact ih hl
    · rw [List.filter_cons_of_neg hp, List.filter_eq_nil_iff.mpr fun b hb hpb => hp (ha b hb hpb)]
      exact List.nil_prefix

lemma mem_knownTimes {G : PyDict String F} {e : String × F} (h : e ∈ knownTimes G) :
    e ∈ G.entries ∧ e.1 ∈ targets.keys := by
  have := (knownTimes_perm G).mem_iff.mp h
  simpa using this

/-- A group whose fastest target is unknown to the report, with two known targets out of order. -/
def sampleGroup : PyDict String ℕ :=
  ⟨[("serde_json", 3000), ("custom", 500), ("facet_format_jit", 1200)], by decide⟩

/-- The rows marked `fastest` are those of the known targets whose time is a minimum of the whole
group, and they come first. -/
theorem generateBenchmarkSection_fastest [PyUnicode] {benchName : String} {op : Op}
    {G : PyDict String F} {gd : PyDict String (PyDict String ℕ)} {benchId : String}
    {s : BenchmarkSection} (h : generateBenchmarkSection benchName op G gd benchId = .ok (some s)) :
    (s.rows.filter fun r => r.rowClass = .fastest).map Row.target =
        ((knownTimes G).filter fun e => IsMinTime G e.2).map Prod.fst ∧
      (s.rows.filter fun r => r.rowClass = .fastest) <+: s.rows := by
  obtain ⟨v, vs, rows, hvs, rfl, hrows⟩ := generateBenchmarkSection_eq_some h
  have hmin : ∀ e ∈ knownTimes G, (e.2 = pyMin v vs ↔ IsMinTime G e.2) := fun e he => by
    rw [IsMinTime, hvs]
    exact eq_pyMin_iff (hvs ▸ List.mem_map_of_mem Prod.snd (mem_knownTimes he).1)
  constructor
  · have := congrArg (fun l => (l.filter fun e => e.2 = RowClass.fastest).map Prod.fst) hrows
    simp only [List.filter_map, List.map_map] at this
    refine this.trans (congrArg _ (List.filter_congr fun e he => ?_))
    simp [rowClassOf_eq_fastest, hmin e he]
  · refine filter_isPrefix _ ?_
    have hsorted : ((knownTimes G).map fun e => (e.1, rowClassOf e.1 e.2 (pyMin v vs))).Pairwise
        fun a b => b.2 = .fastest → a.2 = .fastest := by
      refine List.pairwise_map.mpr ((knownTimes_sorted G).imp_of_mem fun ha hb hab hfb => ?_)
      rw [rowClassOf_eq_fastest] at hfb ⊢
      rw [hmin _ ha]
      intro x hx
      exact le_trans hab ((hmin _ hb).mp hfb x hx)
    rw [← hrows] at hsorted
    simpa using List.pairwise_map.mp hsorted

theorem generateBenchmarkSection_fastest_sample :
    ∃ s, generateBenchmarkSection "simple_struct" .deserialize sampleGroup ∅
        "simple_struct_deser" = .ok (some s) ∧
      (s.rows.filter fun r => r.rowClass = .fastest).map Row.target =
          ((knownTimes sampleGroup).filter fun e => IsMinTime sampleGroup e.2).map Prod.fst ∧
        (s.rows.filter fun r => r.rowClass = .fastest) <+: s.rows := by
  have hs : generateBenchmarkSection "simple_struct" .deserialize sampleGroup ∅
      "simple_struct_deser" = .ok (some _) := rfl
  exact ⟨_, hs, generateBenchmarkSection_fastest hs⟩

/-- Two known targets tied at the smallest time both get the class `fastest`; and when an unknown
target alone has the smallest time, no row does. -/
theorem generateBenchmarkSection_fastest_ties :
    ((generateBenchmarkSection "simple_struct" .deserialize
        (⟨[("serde_json", 1000), ("facet_json", 1000)], by decide⟩ : PyDict String ℕ) ∅
        "simple_struct_deser").map (Option.map fun s => s.rows.map Row.rowClass)) =
      .ok (some [.fastest, .fastest]) ∧
    ((generateBenchmarkSection "simple_struct" .deserialize sampleGroup ∅
        "simple_struct_deser").map (Option.map fun s => s.rows.map Row.rowClass)) =
      .ok (some [.jitHighlight, .baseline]) := by
  decide

/-- What a section shows of its group: the rows' targets and the chart's four arrays are maps over
the group's known targets, which are each known target once, sorted by time, stably; and the row
a pointer enters is the bar `highlightChart` keeps lit. -/
structure ChartAgrees (G : PyDict String F) (s : BenchmarkSection) : Prop where
  rows : s.rows.map Row.target = (knownTimes G).map Prod.fst
  labels : s.labels = (knownTimes G).map fun e => (configOf e.1).emoji ++ " " ++ (configOf e.1).label
  data : s.data = (knownTimes G).map fun e => PyFloat.fixed 3 (e.2 / PyFloat.ofNat 1000)
  backgroundColor : s.backgroundColor = (knownTimes G).map fun e => (configOf e.1).color ++ "CC"
  borderColor : s.borderColor = (knownTimes G).map fun e => (configOf e.1).color
  perm : (knownTimes G).Perm (G.entries.filter fun e => e.1 ∈ targets.keys)
  nodup : ((knownTimes G).map Prod.fst).Nodup
  sorted : (knownTimes G).Sorted byTime
  stable : ∀ a b, [a, b].Sublist G.entries → a.2 ≤ b.2 → a.1 ∈ targets.keys →
    b.1 ∈ targets.keys → [a, b].Sublist (knownTimes G)
  highlight : ∀ i (hi : i < s.rows.length), highlightIndex s.rows s.rows[i].target = some i

/-- The table and the chart of a rendered section agree. -/
theorem generateBenchmarkSection_chart [PyUnicode] {benchName : String} {op : Op}
    {G : PyDict String F} {gd : PyDict String (PyDict String ℕ)} {benchId : String}
    {s : BenchmarkSection} (h : generateBenchmarkSection benchName op G gd benchId = .ok (some s)) :
    ChartAgrees G s := by
  have hrows := rows_target_of_eq_some h
  obtain ⟨v, vs, rows, -, rfl, -⟩ := generateBenchmarkSection_eq_some h
  exact ⟨hrows, sectionOf_labels .., sectionOf_data ..,
    sectionOf_backgroundColor .., sectionOf_borderColor .., knownTimes_perm G,
    knownTimes_nodup G, knownTimes_sorted G,
    fun _ _ hs hab ha hb => pair_sublist_knownTimes hs hab ha hb,
    highlightIndex_getElem (hrows ▸ knownTimes_nodup G)⟩

theorem generateBenchmarkSection_chart_sample :
    ∃ s, generateBenchmarkSection "simple_struct" .deserialize sampleGroup ∅
        "simple_struct_deser" = .ok (some s) ∧ ChartAgrees sampleGroup s := by
  have hs : generateBenchmarkSection "simple_struct" .deserialize sampleGroup ∅
      "simple_struct_deser" = .ok (some _) := rfl
  exact ⟨_, hs, generateBenchmarkSection_chart hs⟩

end BenchReport
