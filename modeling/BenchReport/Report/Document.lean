import BenchReport.Report.Table

/-!
# The report's sections

`generate_sections_html` sorts the benchmarks into four categories, the last of which takes
every name the first three lists do not have, and renders, under each non-empty category's
header, a section for each operation of a benchmark that has measurements.

Read back (`documentSections`, `headedSections`), the document has exactly one section for each
benchmark and operation with measurements, under the header of the benchmark's category; the
`bench_id`s, hence the element ids and the keys of `window.charts`, are pairwise distinct; and the
counts `main` prints are the numbers of sections of each operation (`rendersOnce_of_ok`).

`format` raises on a count of more than `maxStrDigits` digits and nothing catches it, so the
document is returned exactly when no row it writes has such a count
(`generateSectionsHtml_ok_iff`), in particular for every dataset `parse_gungraun_output` returns
(`generateSectionsHtml_sections`).
-/

namespace BenchReport

variable {F : Type} [PyFloat F]

/-! ### Reading a document back -/

/-- The benchmark sections of a document, in order. -/
def documentSections (doc : List Block) : List BenchmarkSection :=
  doc.filterMap fun
    | .section s => some s
    | .header _ => none

/-- The category headers of a document, in order. -/
def documentHeaders (doc : List Block) : List String :=
  doc.filterMap fun
    | .header t => some t
    | .section _ => none

/-- Each section of a document with the title of the nearest header above it. -/
def headedSections : Option String → List Block → List (Option String × BenchmarkSection)
  | _, [] => []
  | _, .header t :: doc => headedSections (some t) doc
  | h, .section s :: doc => (h, s) :: headedSections h doc

@[simp] lemma documentSections_append (doc doc' : List Block) :
    documentSections (doc ++ doc') = documentSections doc ++ documentSections doc' :=
  List.filterMap_append _ _ _

@[simp] lemma documentSections_map_section (l : List BenchmarkSection) :
    documentSections (l.map .section) = l := by
  induction l with
  | nil => rfl
  | cons s l ih => exact congrArg (s :: ·) ih

@[simp] lemma documentHeaders_append (doc doc' : List Block) :
    documentHeaders (doc ++ doc') = documentHeaders doc ++ documentHeaders doc' :=
  List.filterMap_append _ _ _

@[simp] lemma documentHeaders_map_section (l : List BenchmarkSection) :
    documentHeaders (l.map .section) = [] := by
  induction l with
  | nil => rfl
  | cons s l ih => exact ih

lemma headedSections_sections (h : Option String) (l : List BenchmarkSection) (doc : List Block) :
    headedSections h (l.map .section ++ doc) = l.map (h, ·) ++ headedSections h doc := by
  induction l with
  | nil => rfl
  | cons s l ih => exact congrArg ((h, s) :: ·) ih

/-- The document of a list of categories, as `generate_sections_html` renders it. -/
lemma documentSections_categories (f : String → List BenchmarkSection)
    (cs : List (String × List String)) :
    documentSections (cs.flatMap fun c =>
        if c.2 = [] then [] else .header c.1 :: (c.2.flatMap f).map .section) =
      (cs.flatMap Prod.snd).flatMap f := by
  induction cs with
  | nil => rfl
  | cons c cs ih =>
    rw [List.flatMap_cons, documentSections_append, ih, List.flatMap_cons, List.flatMap_append]
    split_ifs with h
    · simp [h, documentSections]
    · exact congrArg (· ++ _) (documentSections_map_section (c.2.flatMap f))

lemma headedSections_categories (f : String → List BenchmarkSection)
    (cs : List (String × List String)) (h : Option String) :
    headedSections h (cs.flatMap fun c =>
        if c.2 = [] then [] else .header c.1 :: (c.2.flatMap f).map .section) =
      cs.flatMap fun c => (c.2.flatMap f).map (some c.1, ·) := by
  induction cs generalizing h with
  | nil => rfl
  | cons c cs ih =>
    rw [List.flatMap_cons, List.flatMap_cons]
    split_ifs with hc
    · simp [hc, ih]
    · rw [List.cons_append, headedSections, headedSections_sections, ih]

lemma documentHeaders_categories (f : String → List BenchmarkSection)
    (cs : List (String × List String)) :
    documentHeaders (cs.flatMap fun c =>
        if c.2 = [] then [] else .header c.1 :: (c.2.flatMap f).map .section) =
      (cs.filter fun c => c.2 ≠ []).map Prod.fst := by
  induction cs with
  | nil => rfl
  | cons c cs ih =>
    rw [List.flatMap_cons, documentHeaders_append, ih]
    by_cases hc : c.2 = []
    · simp [hc, documentHeaders]
    · simp [hc, documentHeaders]

/-! ### Categories -/

/-- The titles of the four categories, in order. -/
def categoryTitles : List String :=
  ["🔬 Micro Benchmarks (JIT Testing)", "🌍 Realistic Benchmarks (Real-World Data)",
    "📊 Array Benchmarks (Vec&lt;T&gt;)", "📦 Other Benchmarks"]

/-- The title of a benchmark's category: that of the first of the three lists that has its
name, or that of the other benchmarks. -/
def categoryTitle (benchName : String) : String :=
  if benchName ∈ microNames then "🔬 Micro Benchmarks (JIT Testing)"
  else if benchName ∈ realisticNames then "🌍 Realistic Benchmarks (Real-World Data)"
  else if benchName ∈ arrayNames then "📊 Array Benchmarks (Vec&lt;T&gt;)"
  else "📦 Other Benchmarks"

lemma categoryTitle_mem (benchName : String) : categoryTitle benchName ∈ categoryTitles := by
  unfold categoryTitle
  split_ifs <;> simp [categoryTitles]

lemma microNames_disjoint : ∀ b ∈ microNames, b ∉ realisticNames ∧ b ∉ arrayNames := by decide

lemma realisticNames_disjoint : ∀ b ∈ realisticNames, b ∉ arrayNames := by decide

/-- Which category title a name gets: the lists' disjointness makes each title name exactly the
benchmarks of its list. -/
lemma categoryTitle_eq_iff (b : String) :
    (categoryTitle b = "🔬 Micro Benchmarks (JIT Testing)" ↔ b ∈ microNames) ∧
    (categoryTitle b = "🌍 Realistic Benchmarks (Real-World Data)" ↔ b ∈ realisticNames) ∧
    (categoryTitle b = "📊 Array Benchmarks (Vec&lt;T&gt;)" ↔ b ∈ arrayNames) ∧
    (categoryTitle b = "📦 Other Benchmarks" ↔
      b ∉ microNames ∧ b ∉ realisticNames ∧ b ∉ arrayNames) := by
  unfold categoryTitle
  split_ifs with h₁ h₂ h₃
  · simp [h₁, microNames_disjoint b h₁]
  · simp [h₁, h₂, realisticNames_disjoint b h₂]
  · simp [h₁, h₂, h₃]
  · simp [h₁, h₂, h₃]

/-- Each category is the benchmarks whose category title is its title. -/
lemma categories_eq (ks : List String) :
    categories ks = categoryTitles.map fun t => (t, ks.filter fun b => categoryTitle b = t) := by
  simp only [categories, categoryTitles, List.map_cons, List.map_nil, List.mem_append,
    List.mem_filter, categoryTitle_eq_iff]
  refine congrArg₂ _ rfl (congrArg₂ _ rfl (congrArg₂ _ rfl
    (congrArg₂ _ (congrArg _ (List.filter_congr fun b hb => ?_)) rfl)))
  simp [hb, Bool.and_assoc]

/-- The names in the categories are the benchmarks', each once. -/
lemma mem_categories {ks : List String} {b : String} :
    b ∈ (categories ks).flatMap Prod.snd ↔ b ∈ ks := by
  simp [categories_eq, categoryTitle_mem]

lemma nodup_categories {ks : List String} (h : ks.Nodup) :
    ((categories ks).flatMap Prod.snd).Nodup := by
  rw [categories_eq, List.flatMap_map]
  refine List.nodup_flatMap.mpr ⟨fun _ _ => h.filter _, ?_⟩
  refine (show categoryTitles.Nodup by decide).imp fun hne b hb hb' => hne ?_
  simp only [List.mem_filter, decide_eq_true_eq] at hb hb'
  exact hb.2.symm.trans hb'.2

lemma title_categories {ks : List String} {c : String × List String} (hc : c ∈ categories ks)
    {b : String} (hb : b ∈ c.2) : c.1 = categoryTitle b := by
  rw [categories_eq, List.mem_map] at hc
  obtain ⟨t, -, rfl⟩ := hc
  exact ((List.mem_filter.mp hb).2 |> of_decide_eq_true).symm

/-! ### Element ids -/

/-- `bench_id` determines the benchmark and the operation: `_deser` and `_ser` differ in the
fourth character from the end, so `b + '_deser'` is never `b' + '_ser'`. -/
lemma benchIdOf_injective : Function.Injective fun p : String × Op => benchIdOf p.1 p.2 := by
  rintro ⟨b₁, op₁⟩ ⟨b₂, op₂⟩ h
  have h' := congrArg (fun s : String => s.data.reverse) h
  cases op₁ <;> cases op₂ <;> simp [benchIdOf, String.ext_iff] at h' ⊢ <;> exact h'

/-- The prefixes of the element ids, all of six characters. -/
lemma elementIds_eq (s : BenchmarkSection) :
    s.elementIds = ["bench-", "table-", "chart-"].map (· ++ s.benchId) := rfl

lemma elementIds_nodup (s : BenchmarkSection) : s.elementIds.Nodup := by
  simp [elementIds_eq, String.ext_iff]

/-- Sections with different `bench_id`s have no element id in common: the prefixes have the same
length, so an id determines its prefix and its `bench_id`. -/
lemma elementIds_disjoint {s s' : BenchmarkSection} (h : s.benchId ≠ s'.benchId) :
    s.elementIds.Disjoint s'.elementIds := by
  have hlen : ∀ p ∈ ["bench-", "table-", "chart-"], p.data.length = 6 := by decide
  intro x hx hx'
  rw [elementIds_eq] at hx hx'
  obtain ⟨p, hp, rfl⟩ := List.mem_map.mp hx
  obtain ⟨q, hq, he⟩ := List.mem_map.mp hx'
  have := List.append_inj (congrArg String.data he) ((hlen q hq).trans (hlen p hp).symm)
  exact h (String.ext this.2.symm)

lemma mem_map_fst_filter {α β : Type} [DecidableEq β] {l : List (α × β)} {a : α} {b : β} :
    a ∈ (l.filter fun x => x.2 = b).map Prod.fst ↔ (a, b) ∈ l := by
  simp only [List.mem_map, List.mem_filter, decide_eq_true_eq, Prod.exists]
  exact ⟨fun ⟨_, _, ⟨hl, hb⟩, ha⟩ => hb ▸ ha ▸ hl, fun h => ⟨a, b, ⟨h, rfl⟩, rfl⟩⟩

/-! ### A benchmark's sections -/

/-- A section's benchmark and operation. -/
def BenchmarkSection.key (s : BenchmarkSection) : String × Op := (s.benchName, s.op)

section

variable [PyUnicode] {D : PyDict String (OpTables F)} {G : PyDict String (PyDict String ℕ)}

lemma generateBenchmarkSection_isSome {benchName : String} {op : Op} {T : PyDict String F}
    {benchId : String} {o : Option BenchmarkSection}
    (h : generateBenchmarkSection benchName op T G benchId = .ok o) :
    o.isSome ↔ T.entries ≠ [] := by
  unfold generateBenchmarkSection at h
  split at h
  · rename_i hv
    cases h
    simpa using List.map_eq_nil_iff.mp hv
  · rename_i v vs hv
    obtain ⟨s, -, rfl⟩ := (map_eq_ok_iff _ _ _).mp h
    simp only [Option.isSome_some, true_iff]
    rintro he
    simp [PyDict.values, he] at hv

lemma generateBenchmarkSection_key {benchName : String} {op : Op} {T : PyDict String F}
    {benchId : String} {s : BenchmarkSection}
    (h : generateBenchmarkSection benchName op T G benchId = .ok (some s)) :
    s.key = (benchName, op) ∧ s.benchId = benchId := by
  obtain ⟨v, vs, rows, -, rfl, -⟩ := generateBenchmarkSection_eq_some h
  exact ⟨rfl, rfl⟩

lemma opSection_eq_some {benchName : String} {benchData : OpTables F} {op : Op}
    {s : BenchmarkSection} :
    opSection G benchName benchData op = .ok (some s) ↔ (benchData.get op).entries ≠ [] ∧
      generateBenchmarkSection benchName op (benchData.get op) G (benchIdOf benchName op) =
        .ok (some s) := by
  unfold opSection
  split_ifs with h <;> simp [h, pure, Except.pure]

lemma opSection_key {benchName : String} {benchData : OpTables F} {op : Op} {s : BenchmarkSection}
    (h : opSection G benchName benchData op = .ok (some s)) : s.key = (benchName, op) :=
  (generateBenchmarkSection_key (opSection_eq_some.mp h).2).1

lemma opSection_ok_iff {benchName : String} {benchData : OpTables F} {op : Op} :
    (∃ o, opSection G benchName benchData op = .ok o) ↔
      ∀ e ∈ (benchData.get op).entries, RowFits G benchName e.1 := by
  unfold opSection
  split_ifs with h
  · simp [h, pure, Except.pure]
  · exact generateBenchmarkSection_ok_iff

/-- What the sections of a benchmark are, when they return: none for a name without data, else
the section of each operation, deserialize first. -/
lemma benchSections_eq_ok {benchName : String} {l : List BenchmarkSection}
    (hl : benchSections D G benchName = .ok l) :
    (D.get? benchName = none ∧ l = []) ∨ ∃ benchData o₁ o₂, D.get? benchName = some benchData ∧
      opSection G benchName benchData .deserialize = .ok o₁ ∧
      opSection G benchName benchData .serialize = .ok o₂ ∧ l = o₁.toList ++ o₂.toList := by
  unfold benchSections at hl
  split at hl
  · rename_i benchData hD
    obtain ⟨o₁, h₁, hl⟩ := bind_eq_ok.mp hl
    obtain ⟨o₂, h₂, hl⟩ := bind_eq_ok.mp hl
    exact .inr ⟨benchData, o₁, o₂, hD, h₁, h₂, (Except.ok.inj hl).symm⟩
  · exact .inl ⟨‹_›, (Except.ok.inj hl).symm⟩

lemma benchSections_ok_iff (benchName : String) :
    (∃ l, benchSections D G benchName = .ok l) ↔ ∀ benchData, D.get? benchName = some benchData →
      ∀ op, ∀ e ∈ (benchData.get op).entries, RowFits G benchName e.1 := by
  unfold benchSections
  split
  · rename_i benchData hD
    simp only [hD, Option.some.injEq, forall_eq']
    constructor
    · rintro ⟨l, hl⟩ op
      obtain ⟨o₁, h₁, hl⟩ := bind_eq_ok.mp hl
      obtain ⟨o₂, h₂, -⟩ := bind_eq_ok.mp hl
      cases op
      · exact opSection_ok_iff.mp ⟨_, h₁⟩
      · exact opSection_ok_iff.mp ⟨_, h₂⟩
    · intro h
      obtain ⟨o₁, h₁⟩ := opSection_ok_iff.mpr (h .deserialize)
      obtain ⟨o₂, h₂⟩ := opSection_ok_iff.mpr (h .serialize)
      exact ⟨_, by rw [h₁, ok_bind, h₂, ok_bind]; rfl⟩
  · simp [‹D.get? benchName = none›, pure, Except.pure]

lemma mem_benchSections {benchName : String} {l : List BenchmarkSection}
    (hl : benchSections D G benchName = .ok l) {s : BenchmarkSection} :
    s ∈ l ↔ ∃ benchData, D.get? benchName = some benchData ∧
      opSection G benchName benchData s.op = .ok (some s) := by
  rcases benchSections_eq_ok hl with ⟨hD, rfl⟩ | ⟨benchData, o₁, o₂, hD, h₁, h₂, rfl⟩
  · simp [hD]
  · simp only [hD, Option.some.injEq, exists_eq_left', List.mem_append, Option.mem_toList,
      Option.mem_def]
    constructor
    · rintro (rfl | rfl)
      · rwa [show s.op = .deserialize from congrArg Prod.snd (opSection_key h₁)]
      · rwa [show s.op = .serialize from congrArg Prod.snd (opSection_key h₂)]
    · intro h
      cases hop : s.op <;> rw [hop] at h
      · exact .inl (Except.ok.inj (h₁.symm.trans h))
      · exact .inr (Except.ok.inj (h₂.symm.trans h))

lemma key_of_mem_benchSections {benchName : String} {l : List BenchmarkSection}
    (hl : benchSections D G benchName = .ok l) {s : BenchmarkSection} (h : s ∈ l) :
    s.benchName = benchName := by
  obtain ⟨_, -, h⟩ := (mem_benchSections hl).mp h
  exact congrArg Prod.fst (opSection_key h)

/-- A benchmark has at most one section per operation. -/
lemma benchSections_nodup {benchName : String} {l : List BenchmarkSection}
    (hl : benchSections D G benchName = .ok l) : (l.map BenchmarkSection.key).Nodup := by
  rcases benchSections_eq_ok hl with ⟨-, rfl⟩ | ⟨_, o₁, o₂, -, h₁, h₂, rfl⟩
  · exact List.nodup_nil
  · rcases o₁ with _ | s₁ <;> rcases o₂ with _ | s₂
    · exact List.nodup_nil
    · simp
    · simp
    · simp [opSection_key h₁, opSection_key h₂]

/-! ### The sections of the report -/

/-- The sections a benchmark renders to, when it does. -/
def renderedSections (D : PyDict String (OpTables F)) (G : PyDict String (PyDict String ℕ))
    (benchName : String) : List BenchmarkSection :=
  ((benchSections D G benchName).toOption).getD []

lemma renderedSections_of_ok {b : String} {l : List BenchmarkSection}
    (hl : benchSections D G b = .ok l) : renderedSections D G b = l := by
  rw [renderedSections, hl]
  rfl

/-- `generate_sections_html` when the sections of each benchmark return. -/
lemma generateSectionsHtml_of_forall {S : String → List BenchmarkSection}
    (hS : ∀ b ∈ D.keys, benchSections D G b = .ok (S b)) :
    generateSectionsHtml D G = .ok ((categories D.keys).flatMap fun c =>
      if c.2 = [] then [] else .header c.1 :: (c.2.flatMap S).map .section) := by
  have hcat : ∀ c ∈ categories D.keys, (if c.2 = [] then pure [] else do
      let secs ← c.2.mapM (benchSections D G)
      pure (.header c.1 :: secs.flatten.map .section)) =
        (.ok (if c.2 = [] then [] else .header c.1 :: (c.2.flatMap S).map .section) :
          Except ValueError (List Block)) := fun c hc => by
    split_ifs
    · rfl
    · rw [mapM_eq_ok_map fun b hb => hS b (mem_categories.mp (List.mem_flatMap.mpr ⟨c, hc, hb⟩)),
        ok_bind, List.flatMap]
      rfl
  rw [generateSectionsHtml, mapM_eq_ok_map hcat, ok_bind, List.flatMap]
  rfl

lemma benchSections_ok_of_generateSectionsHtml {doc : List Block}
    (h : generateSectionsHtml D G = .ok doc) {b : String} (hb : b ∈ D.keys) :
    ∃ l, benchSections D G b = .ok l := by
  obtain ⟨blocks, hblocks, -⟩ := bind_eq_ok.mp h
  obtain ⟨c, hc, hbc⟩ := List.mem_flatMap.mp (mem_categories.mpr hb)
  obtain ⟨blk, hblk⟩ := (mapM_ok_exists_iff _ _).mp ⟨_, hblocks⟩ c hc
  rw [if_neg (List.ne_nil_of_mem hbc)] at hblk
  obtain ⟨secs, hsecs, -⟩ := bind_eq_ok.mp hblk
  exact (mapM_ok_exists_iff _ _).mp ⟨_, hsecs⟩ b hbc

/-- A document `generate_sections_html` returns: each non-empty category's header, then the
sections of its benchmarks, each of which returned. -/
lemma generateSectionsHtml_eq_ok {doc : List Block} (h : generateSectionsHtml D G = .ok doc) :
    (∀ b ∈ D.keys, benchSections D G b = .ok (renderedSections D G b)) ∧
      doc = (categories D.keys).flatMap fun c =>
        if c.2 = [] then [] else .header c.1 :: (c.2.flatMap (renderedSections D G)).map .section := by
  have hS : ∀ b ∈ D.keys, benchSections D G b = .ok (renderedSections D G b) := fun b hb =>
    (benchSections_ok_of_generateSectionsHtml h hb).elim fun _ hl => by
      rwa [renderedSections_of_ok hl]
  exact ⟨hS, Except.ok.inj (h.symm.trans (generateSectionsHtml_of_forall hS))⟩

variable {doc : List Block}

lemma mem_documentSections (h : generateSectionsHtml D G = .ok doc) {s : BenchmarkSection} :
    s ∈ documentSections doc ↔ ∃ benchData, D.get? s.benchName = some benchData ∧
      opSection G s.benchName benchData s.op = .ok (some s) := by
  obtain ⟨hS, rfl⟩ := generateSectionsHtml_eq_ok h
  rw [documentSections_categories, List.mem_flatMap]
  constructor
  · rintro ⟨b, hb, hs⟩
    have hl := hS b (mem_categories.mp hb)
    exact key_of_mem_benchSections hl hs ▸ (mem_benchSections hl).mp hs
  · rintro ⟨benchData, hD, hs⟩
    have hb : s.benchName ∈ D.keys := PyDict.mem_keys_of_get? hD
    exact ⟨s.benchName, mem_categories.mpr hb,
      (mem_benchSections (hS _ hb)).mpr ⟨benchData, hD, hs⟩⟩

lemma mem_keys_generateSectionsHtml (h : generateSectionsHtml D G = .ok doc) {b : String}
    {op : Op} :
    (b, op) ∈ (documentSections doc).map BenchmarkSection.key ↔
      ∃ benchData, D.get? b = some benchData ∧ (benchData.get op).entries ≠ [] := by
  rw [List.mem_map]
  constructor
  · rintro ⟨s, hs, hk⟩
    obtain ⟨benchData, hD, ho⟩ := (mem_documentSections h).mp hs
    obtain ⟨rfl, rfl⟩ := Prod.mk.inj hk
    exact ⟨benchData, hD, (opSection_eq_some.mp ho).1⟩
  · rintro ⟨benchData, hD, hne⟩
    have hb : b ∈ D.keys := PyDict.mem_keys_of_get? hD
    obtain ⟨l, hl⟩ := benchSections_ok_of_generateSectionsHtml h hb
    obtain ⟨o, ho⟩ := opSection_ok_iff.mpr
      ((benchSections_ok_iff b).mp ⟨l, hl⟩ benchData hD op)
    rw [opSection, if_neg hne] at ho
    obtain ⟨s, rfl⟩ := Option.isSome_iff_exists.mp ((generateBenchmarkSection_isSome ho).mpr hne)
    have hs : opSection G b benchData op = .ok (some s) := opSection_eq_some.mpr ⟨hne, ho⟩
    obtain ⟨hsb, hsop⟩ := Prod.mk.inj (opSection_key hs)
    refine ⟨s, (mem_documentSections h).mpr ⟨benchData, hsb ▸ hD, ?_⟩, opSection_key hs⟩
    rwa [hsb, hsop]

lemma keys_nodup_generateSectionsHtml (h : generateSectionsHtml D G = .ok doc) :
    ((documentSections doc).map BenchmarkSection.key).Nodup := by
  obtain ⟨hS, rfl⟩ := generateSectionsHtml_eq_ok h
  rw [documentSections_categories, List.map_flatMap]
  refine List.nodup_flatMap.mpr ⟨fun b hb => benchSections_nodup (hS b (mem_categories.mp hb)),
    (nodup_categories D.keys_nodup).imp_of_mem fun hb hb' hne x hx hx' => hne ?_⟩
  obtain ⟨s, hs, rfl⟩ := List.mem_map.mp hx
  obtain ⟨s', hs', hss'⟩ := List.mem_map.mp hx'
  rw [← key_of_mem_benchSections (hS _ (mem_categories.mp hb)) hs,
    ← key_of_mem_benchSections (hS _ (mem_categories.mp hb')) hs']
  exact (congrArg Prod.fst hss').symm

/-- The count `main` prints for an operation is the number of its sections. -/
lemma countP_generateSectionsHtml (h : generateSectionsHtml D G = .ok doc) (op : Op) :
    D.values.countP (fun benchData => (benchData.get op).entries ≠ []) =
      (documentSections doc).countP (·.op = op) := by
  have hperm : ((((documentSections doc).map BenchmarkSection.key).filter
        fun x => x.2 = op).map Prod.fst).Perm
      ((D.entries.filter fun e => (e.2.get op).entries ≠ []).map Prod.fst) := by
    refine (List.perm_ext_iff_of_nodup ?_ ?_).mpr fun b => ?_
    · refine ((keys_nodup_generateSectionsHtml h).filter _).map_on fun x hx y hy hxy => ?_
      simp only [List.mem_filter, decide_eq_true_eq] at hx hy
      exact Prod.ext hxy (hx.2.trans hy.2.symm)
    · exact D.keys_nodup.sublist ((List.filter_sublist _).map Prod.fst)
    · rw [mem_map_fst_filter, mem_keys_generateSectionsHtml h]
      simp [PyDict.get?_eq_some_iff]
  have h₁ : D.values.countP (fun benchData => (benchData.get op).entries ≠ []) =
      ((D.entries.filter fun e => (e.2.get op).entries ≠ []).map Prod.fst).length := by
    rw [PyDict.values, List.countP_map, List.countP_eq_length_filter, List.length_map]
    rfl
  have h₂ : (documentSections doc).countP (·.op = op) =
      ((((documentSections doc).map BenchmarkSection.key).filter
        fun x => x.2 = op).map Prod.fst).length := by
    rw [List.length_map, ← List.countP_eq_length_filter, List.countP_map]
    rfl
  rw [h₁, h₂, hperm.length_eq]

omit [PyUnicode] in
/-- With counts that fit, each row can be written. -/
lemma rowFits_of_countsFit (hG : CountsFit G) (benchName target : String) :
    RowFits G benchName target := fun _ n hn => by
  unfold instructionsOf at hn
  cases hm : G.get? (benchName ++ "_" ++ target) with
  | none => rw [hm] at hn; cases hn
  | some m => rw [hm] at hn; exact hG.lt hm hn

lemma benchSections_ok_of_countsFit (hG : CountsFit G) (b : String) :
    benchSections D G b = .ok (renderedSections D G b) := by
  have : ∃ l, benchSections D G b = .ok l :=
    (benchSections_ok_iff b).mpr fun _ _ _ e _ => rowFits_of_countsFit hG b e.1
  exact this.elim fun _ hl => by rwa [renderedSections_of_ok hl]

end

/-- What a document shows of a parsed dataset: exactly one section for each benchmark and
operation with measurements, and that section is the one `generate_benchmark_section` renders
for the group; each section under the header of its benchmark's category, and each header once;
the ids of the elements and the keys of `window.charts` pairwise distinct; and the counts `main`
prints are the numbers of sections of each operation. -/
structure RendersOnce [PyUnicode] (D : PyDict String (OpTables F))
    (G : PyDict String (PyDict String ℕ)) (doc : List Block) : Prop where
  sections : ∀ b op, (b, op) ∈ (documentSections doc).map BenchmarkSection.key ↔
    ∃ benchData, D.get? b = some benchData ∧ (benchData.get op).entries ≠ []
  once : ((documentSections doc).map BenchmarkSection.key).Nodup
  rendered : ∀ s ∈ documentSections doc, ∃ benchData, D.get? s.benchName = some benchData ∧
    generateBenchmarkSection s.benchName s.op (benchData.get s.op) G
      (benchIdOf s.benchName s.op) = .ok (some s)
  headed : ∀ p ∈ headedSections none doc, p.1 = some (categoryTitle p.2.benchName)
  headers : (documentHeaders doc).Nodup
  chartKeys : ((documentSections doc).map BenchmarkSection.benchId).Nodup
  elementIds : ((documentSections doc).flatMap BenchmarkSection.elementIds).Nodup
  counts : mainCounts D = ((documentSections doc).countP (·.op = .deserialize),
    (documentSections doc).countP (·.op = .serialize))

section

variable [PyUnicode] {D : PyDict String (OpTables F)} {G : PyDict String (PyDict String ℕ)}
  {doc : List Block}

/-- Every document `generate_sections_html` returns shows each benchmark and operation with
measurements once. -/
lemma rendersOnce_of_ok (h : generateSectionsHtml D G = .ok doc) : RendersOnce D G doc := by
  have hrendered : ∀ s ∈ documentSections doc, ∃ benchData,
      D.get? s.benchName = some benchData ∧ generateBenchmarkSection s.benchName s.op
        (benchData.get s.op) G (benchIdOf s.benchName s.op) = .ok (some s) := fun s hs => by
    obtain ⟨benchData, hD, ho⟩ := (mem_documentSections h).mp hs
    exact ⟨benchData, hD, (opSection_eq_some.mp ho).2⟩
  have hcharts : ((documentSections doc).map BenchmarkSection.benchId).Nodup := by
    have hids : (documentSections doc).map BenchmarkSection.benchId =
        ((documentSections doc).map BenchmarkSection.key).map fun p => benchIdOf p.1 p.2 := by
      rw [List.map_map]
      refine List.map_congr_left fun s hs => ?_
      obtain ⟨_, -, h⟩ := hrendered s hs
      exact (generateBenchmarkSection_key h).2
    rw [hids]
    exact (keys_nodup_generateSectionsHtml h).map benchIdOf_injective
  refine ⟨fun _ _ => mem_keys_generateSectionsHtml h, keys_nodup_generateSectionsHtml h,
    hrendered, ?_, ?_, hcharts, ?_, ?_⟩
  · obtain ⟨hS, rfl⟩ := generateSectionsHtml_eq_ok h
    rw [headedSections_categories]
    intro p hp
    obtain ⟨c, hc, hp⟩ := List.mem_flatMap.mp hp
    obtain ⟨s, hs, rfl⟩ := List.mem_map.mp hp
    obtain ⟨b, hb, hs⟩ := List.mem_flatMap.mp hs
    rw [key_of_mem_benchSections (hS b (mem_categories.mp (List.mem_flatMap.mpr ⟨c, hc, hb⟩))) hs,
      title_categories hc hb]
  · obtain ⟨-, rfl⟩ := generateSectionsHtml_eq_ok h
    rw [documentHeaders_categories]
    exact ((List.filter_sublist _).map Prod.fst).nodup (by decide : categoryTitles.Nodup)
  · exact List.nodup_flatMap.mpr ⟨fun s _ => elementIds_nodup s,
      (List.pairwise_map.mp hcharts).imp elementIds_disjoint⟩
  · exact Prod.ext (countP_generateSectionsHtml h _) (countP_generateSectionsHtml h _)

end

/-- For a gungraun dataset whose counts fit, `generate_sections_html` returns, and renders each
benchmark and operation with measurements once, under its category, with distinct ids; an empty
dataset renders nothing. -/
theorem generateSectionsHtml_sections [PyUnicode] (D : PyDict String (OpTables F))
    (G : PyDict String (PyDict String ℕ)) (hG : CountsFit G) :
    (∃ doc, generateSectionsHtml D G = .ok doc ∧ RendersOnce D G doc) ∧
      generateSectionsHtml (∅ : PyDict String (OpTables F)) G = .ok [] := by
  have h := generateSectionsHtml_of_forall fun b (_ : b ∈ D.keys) => benchSections_ok_of_countsFit hG b
  exact ⟨⟨_, h, rendersOnce_of_ok h⟩, rfl⟩

theorem generateSectionsHtml_sections_simpleStruct :
    CountsFit (∅ : PyDict String (PyDict String ℕ)) ∧
      ((∃ doc, generateSectionsHtml ((∅ : PyDict String (OpTables ℕ)).insert "simple_struct"
          (OpTables.empty.set .deserialize "serde_json" 1)) ∅ = .ok doc ∧
        RendersOnce ((∅ : PyDict String (OpTables ℕ)).insert "simple_struct"
          (OpTables.empty.set .deserialize "serde_json" 1)) ∅ doc) ∧
      generateSectionsHtml (∅ : PyDict String (OpTables ℕ)) ∅ = .ok []) :=
  ⟨fun _ hm => (nomatch hm), generateSectionsHtml_sections _ _ fun _ hm => (nomatch hm)⟩

/-- `format` refuses a count of more than `maxStrDigits` digits, and nothing catches it: a
gungraun count of `10 ^ maxStrDigits` instructions for a row of the report makes
`generate_sections_html` raise. -/
theorem generateSectionsHtml_long_count :
    ∃ e, generateSectionsHtml ((∅ : PyDict String (OpTables ℕ)).insert "simple_struct"
        (OpTables.empty.set .deserialize "serde_json" 1))
      ((∅ : PyDict String (PyDict String ℕ)).insert "simple_struct_serde_json"
        ((∅ : PyDict String ℕ).insert "Instructions" (10 ^ maxStrDigits))) = .error e := by
  cases h : generateSectionsHtml ((∅ : PyDict String (OpTables ℕ)).insert "simple_struct"
      (OpTables.empty.set .deserialize "serde_json" 1))
    ((∅ : PyDict String (PyDict String ℕ)).insert "simple_struct_serde_json"
      ((∅ : PyDict String ℕ).insert "Instructions" (10 ^ maxStrDigits))) with
  | error e => exact ⟨e, rfl⟩
  | ok doc =>
    obtain ⟨l, hl⟩ := benchSections_ok_of_generateSectionsHtml h (b := "simple_struct") (by decide)
    exact absurd ((benchSections_ok_iff "simple_struct").mp ⟨l, hl⟩ _ rfl .deserialize
      ("serde_json", 1) (by decide) (by decide) _ rfl) (lt_irrefl _)

/-- `generate_sections_html` returns exactly when every row it writes has an instruction count,
if any, of at most `maxStrDigits` digits. -/
theorem generateSectionsHtml_ok_iff [PyUnicode] (D : PyDict String (OpTables F))
    (G : PyDict String (PyDict String ℕ)) :
    (∃ doc, generateSectionsHtml D G = .ok doc) ↔ ∀ b benchData, D.get? b = some benchData →
      ∀ op, ∀ e ∈ (benchData.get op).entries, RowFits G b e.1 := by
  constructor
  · rintro ⟨doc, h⟩ b benchData hD
    exact (benchSections_ok_iff b).mp
      (benchSections_ok_of_generateSectionsHtml h (PyDict.mem_keys_of_get? hD)) benchData hD
  · intro h
    refine ⟨_, generateSectionsHtml_of_forall (S := renderedSections D G) fun b _ => ?_⟩
    obtain ⟨l, hl⟩ := (benchSections_ok_iff (D := D) b).mpr (h b)
    rwa [renderedSections_of_ok hl]

/-- The Instructions cell tests the count for truth, not for presence: a count of `0` for a
benchmark and a target is in the parsed gungraun data, and the row shows `-`. -/
theorem generateSectionsHtml_zero_instructions :
    (do
      let D ← parseDivanOutput (F := ℕ) "├─ simple_struct \n│  ├─ serde_json_deserialize  1 ns"
      let G ← parseGungraunOutput "gungraun_jit::jit::simple_struct_serde_json\n  Instructions: 0"
      let doc ← generateSectionsHtml D G
      pure (instructionsOf G "simple_struct_serde_json",
        (documentSections doc).map fun s => s.rows.map Row.instructions)) =
      (.ok (some 0, [["-"]]) : Except ValueError (Option ℕ × List (List String))) := by
  decide

end BenchReport
