import BenchReport.Python.Dict
import BenchReport.Python.Number

/-!
# The section loop

The four parsers of the two scripts run one loop over the lines of their input:

    results = {}
    current = None
    for line in text.split('\n'):
        if <section pattern matches line>:
            current = <captured name>
            results[current] = <fresh table>
            continue
        if current:
            if <entry pattern matches line>:
                <convert the groups and store them in results[current]>

`sectionLoop` is that loop; each parser is it applied to its own `SectionFormat`. The second
half of the file gives the loop its meaning. The lines are cut into sections at the section
lines, the lines before the first one being dropped; each section's entries are folded into a
fresh table; and the result is the dictionary obtained by assigning each section's table to its
name, in order (`sectionLoop_eq`). A name that heads several sections thus keeps its first
position and the table of its last section.
-/

namespace BenchReport

/-- A parser of the scripts, as the parts the section loop is made of. -/
structure SectionFormat (E T : Type) where
  /-- The section pattern, with the name it captures. -/
  header : List Char → Option String
  /-- The entry pattern, with the groups it captures. -/
  entry : List Char → Option E
  /-- The table a section line starts. -/
  fresh : T
  /-- Convert an entry's groups and store the value in the current table. -/
  record : E → T → Except ValueError T
  /-- The section patterns capture a non-empty run, so a section name is never falsy. -/
  header_ne : ∀ l b, header l = some b → b ≠ ""

/-- The loop's variables: `results`, and `current` which is always one of its keys. -/
structure LoopState (T : Type) where
  results : PyDict String T
  current : Option String
  current_mem : ∀ b ∈ current, b ∈ results.keys

namespace LoopState

variable {T : Type}

/-- `results = {}`, `current = None`. -/
def init : LoopState T := ⟨∅, none, by simp⟩

/-- A section line: `current = b`, `results[current] = t`. -/
def enter (st : LoopState T) (b : String) (t : T) : LoopState T :=
  ⟨st.results.insert b t, some b, by simp [mem_insertKey]⟩

/-- `results[b] = t`, with `current` unchanged. -/
def set (st : LoopState T) (b : String) (t : T) : LoopState T :=
  ⟨st.results.insert b t, st.current, fun b' hb => by
    simpa [mem_insertKey] using Or.inr (st.current_mem b' hb)⟩

lemma set_of_get? {st : LoopState T} {b : String} {t : T} (h : st.results.get? b = some t) :
    st.set b t = st := by
  cases st
  simp only [set, mk.injEq, and_true]
  exact PyDict.insert_of_get? h

@[simp] lemma set_set (st : LoopState T) (b : String) (t t' : T) :
    (st.set b t).set b t' = st.set b t' := by
  simp [set]

@[simp] lemma results_init : (init : LoopState T).results = ∅ := rfl

@[simp] lemma current_init : (init : LoopState T).current = none := rfl

@[simp] lemma results_enter (st : LoopState T) (b : String) (t : T) :
    (st.enter b t).results = st.results.insert b t := rfl

@[simp] lemma current_enter (st : LoopState T) (b : String) (t : T) :
    (st.enter b t).current = some b := rfl

@[simp] lemma results_set (st : LoopState T) (b : String) (t : T) :
    (st.set b t).results = st.results.insert b t := rfl

@[simp] lemma current_set (st : LoopState T) (b : String) (t : T) :
    (st.set b t).current = st.current := rfl

end LoopState

variable {E T : Type} (fmt : SectionFormat E T)

/-- One iteration of the loop. The `none` case of the lookup cannot happen: `current` is
always a key of `results`. -/
def loopStep (st : LoopState T) (line : List Char) : Except ValueError (LoopState T) :=
  match fmt.header line with
  | some b => pure (st.enter b fmt.fresh)
  | none =>
    match st.current with
    | some b =>
      if b = "" then pure st
      else
        match fmt.entry line with
        | some e =>
          match st.results.get? b with
          | some t => do
            let t' ← fmt.record e t
            pure (st.set b t')
          | none => pure st
        | none => pure st
    | none => pure st

/-- The loop over `text.split('\n')`, returning `results`. -/
def sectionLoop (text : String) : Except ValueError (PyDict String T) :=
  LoopState.results <$> (text.data.splitOn '\n').foldlM (loopStep fmt) .init

/-! ### Sections -/

/-- The lines before the first section line, and each section line's name with the lines that
follow it up to the next section line. -/
def splitSections (header : List Char → Option String) :
    List (List Char) → List (List Char) × List (String × List (List Char))
  | [] => ([], [])
  | l :: ls =>
    let r := splitSections header ls
    match header l with
    | some b => ([], (b, r.1) :: r.2)
    | none => (l :: r.1, r.2)

/-- The sections of a text: the names of its section lines, each with the lines attributed to
it, that is, the lines up to the next section line. -/
def sectionsOf (text : String) : List (String × List (List Char)) :=
  (splitSections fmt.header (text.data.splitOn '\n')).2

/-- What a line under a section does to its table. -/
def entryStep (t : T) (line : List Char) : Except ValueError T :=
  match fmt.entry line with
  | some e => fmt.record e t
  | none => pure t

/-- The table a section's lines build. -/
def tableOf (blk : List (List Char)) : Except ValueError T :=
  blk.foldlM (entryStep fmt) fmt.fresh

/-- Each section's name with its table, or the first error. -/
def sectionTables (secs : List (String × List (List Char))) :
    Except ValueError (List (String × T)) :=
  secs.mapM fun s => (s.1, ·) <$> tableOf fmt s.2

@[simp] lemma sectionTables_nil : sectionTables fmt [] = pure [] := rfl

@[simp] lemma sectionTables_cons (s : String × List (List Char))
    (secs : List (String × List (List Char))) :
    sectionTables fmt (s :: secs) = (do
      let t ← tableOf fmt s.2
      let ts ← sectionTables fmt secs
      pure ((s.1, t) :: ts)) := by
  simp only [sectionTables, List.mapM_cons, map_eq_pure_bind, bind_assoc, pure_bind]

@[simp] lemma splitSections_nil (header : List Char → Option String) :
    splitSections header [] = ([], []) := rfl

lemma splitSections_cons_some {header : List Char → Option String} {l : List Char} {b : String}
    (ls : List (List Char)) (h : header l = some b) :
    splitSections header (l :: ls) =
      ([], (b, (splitSections header ls).1) :: (splitSections header ls).2) := by
  simp [splitSections, h]

lemma splitSections_cons_none {header : List Char → Option String} {l : List Char}
    (ls : List (List Char)) (h : header l = none) :
    splitSections header (l :: ls) =
      (l :: (splitSections header ls).1, (splitSections header ls).2) := by
  simp [splitSections, h]

/-- The lines before the first section line hold no section line. -/
lemma header_of_mem_lead {header : List Char → Option String} {ls : List (List Char)}
    {l : List Char} (hl : l ∈ (splitSections header ls).1) : header l = none := by
  induction ls with
  | nil => simp at hl
  | cons l' ls ih =>
    cases h : header l' with
    | some b => simp [splitSections_cons_some ls h] at hl
    | none =>
      rw [splitSections_cons_none ls h, List.mem_cons] at hl
      exact hl.elim (fun e => e ▸ h) ih

/-! ### The loop computes the sections' tables -/

/-- Lines with `current` unset and no section line change nothing. -/
lemma foldlM_loopStep_of_current_none {st : LoopState T} (hst : st.current = none)
    {ls : List (List Char)} (hls : ∀ l ∈ ls, fmt.header l = none) :
    ls.foldlM (loopStep fmt) st = pure st := by
  induction ls with
  | nil => rfl
  | cons l ls ih =>
    simp only [List.mem_cons, forall_eq_or_imp] at hls
    simp [loopStep, hls.1, hst, ih hls.2]

/-- Under a section named `b`, the lines up to the next section line fold into `b`'s table. -/
lemma foldlM_loopStep_block {st : LoopState T} {b : String} {t : T} (hcur : st.current = some b)
    (hb : b ≠ "") (ht : st.results.get? b = some t) {ls : List (List Char)}
    (hls : ∀ l ∈ ls, fmt.header l = none) :
    ls.foldlM (loopStep fmt) st = (st.set b ·) <$> ls.foldlM (entryStep fmt) t := by
  induction ls generalizing st t with
  | nil => simp [LoopState.set_of_get? ht]
  | cons l ls ih =>
    simp only [List.mem_cons, forall_eq_or_imp] at hls
    cases he : fmt.entry l with
    | none => simp [loopStep, entryStep, hls.1, hcur, hb, he, ih hcur ht hls.2]
    | some e =>
      cases hr : fmt.record e t with
      | error err => simp [loopStep, entryStep, hls.1, hcur, hb, he, ht, hr]
      | ok t' =>
        have : ls.foldlM (loopStep fmt) (st.set b t') =
            ((st.set b t').set b ·) <$> ls.foldlM (entryStep fmt) t' :=
          ih hcur (by simp) hls.2
        simp [loopStep, entryStep, hls.1, hcur, hb, he, ht, hr, this]

/-- The run of the loop over any lines from any state: the lines before the first section line
act on the current table, then each section assigns its table to its name. -/
lemma foldlM_loopStep (ls : List (List Char)) (st : LoopState T) :
    LoopState.results <$> ls.foldlM (loopStep fmt) st =
      ((splitSections fmt.header ls).1.foldlM (loopStep fmt) st >>= fun st' =>
        st'.results.insertAll <$> sectionTables fmt (splitSections fmt.header ls).2) := by
  induction ls generalizing st with
  | nil => rfl
  | cons l ls ih =>
    cases h : fmt.header l with
    | some b =>
      have hblk : (splitSections fmt.header ls).1.foldlM (loopStep fmt) (st.enter b fmt.fresh) =
          ((st.enter b fmt.fresh).set b ·) <$>
            (splitSections fmt.header ls).1.foldlM (entryStep fmt) fmt.fresh :=
        foldlM_loopStep_block fmt rfl (fmt.header_ne l b h) (by simp)
          (fun _ hl => header_of_mem_lead hl)
      rw [splitSections_cons_some ls h]
      simp [loopStep, h, ih, hblk, tableOf]
    | none =>
      rw [splitSections_cons_none ls h]
      simp [ih]

/-- The loop's result is the dictionary that assigns each section's table to its name, in
order; the loop fails with the first error of a section's table. -/
theorem sectionLoop_eq (text : String) :
    sectionLoop fmt text = PyDict.insertAll ∅ <$> sectionTables fmt (sectionsOf fmt text) := by
  rw [sectionLoop, foldlM_loopStep, foldlM_loopStep_of_current_none fmt rfl
    (fun _ hl => header_of_mem_lead hl)]
  simp [sectionsOf]

/-! ### What a successful run returns -/

/-- A `mapM` over `Except` succeeds exactly when each element's computation does. -/
lemma mapM_eq_ok_iff {ε α β : Type} (f : α → Except ε β) {l : List α} {l' : List β} :
    l.mapM f = .ok l' ↔ List.Forall₂ (fun a b => f a = .ok b) l l' := by
  induction l generalizing l' with
  | nil => rw [List.mapM_nil]; cases l' <;> simp [pure, Except.pure]
  | cons a l ih =>
    rw [List.mapM_cons]
    cases h : f a with
    | error e => cases l' <;> simp [h]
    | ok b =>
      cases l' with
      | nil => cases hr : l.mapM f <;> simp [hr, pure, Except.pure]
      | cons b' bs' =>
        rw [List.forall₂_cons, ← ih, h]
        cases hr : l.mapM f <;> simp [hr, pure, Except.pure]

/-- A `mapM` over `Except` whose computations all succeed returns their values. -/
lemma mapM_eq_ok_map {ε α β : Type} {f : α → Except ε β} {g : α → β} {l : List α}
    (h : ∀ a ∈ l, f a = .ok (g a)) : l.mapM f = .ok (l.map g) :=
  (mapM_eq_ok_iff f).mpr (List.forall₂_map_right_iff.mpr (List.forall₂_same.mpr h))

lemma map_eq_ok_iff {ε α β : Type} (g : α → β) (x : Except ε α) (b : β) :
    g <$> x = .ok b ↔ ∃ a, x = .ok a ∧ g a = b := by
  cases x <;> simp [Functor.map, Except.map]

lemma exists_map_eq_ok {ε α β : Type} (g : α → β) (x : Except ε α) :
    (∃ b, g <$> x = .ok b) ↔ ∃ a, x = .ok a := by
  cases x <;> simp [Functor.map, Except.map]

/-- A `mapM` over `Except` returns when each element's computation does. -/
lemma mapM_ok_exists_iff {ε α β : Type} (f : α → Except ε β) (l : List α) :
    (∃ l', l.mapM f = .ok l') ↔ ∀ a ∈ l, ∃ b, f a = .ok b := by
  induction l with
  | nil => exact ⟨fun _ _ h => absurd h (List.not_mem_nil _), fun _ => ⟨[], rfl⟩⟩
  | cons a l ih =>
    rw [List.mapM_cons, List.forall_mem_cons, ← ih]
    cases f a <;> cases l.mapM f <;> simp [pure, Except.pure]

/-- Each value a successful `mapM` returns comes from an element. -/
lemma mem_of_mapM_eq_ok {ε α β : Type} {f : α → Except ε β} {l : List α} {l' : List β}
    (h : l.mapM f = .ok l') {b : β} (hb : b ∈ l') : ∃ a ∈ l, f a = .ok b := by
  have hf := (mapM_eq_ok_iff f).mp h
  clear h
  induction hf with
  | nil => cases hb
  | @cons a b' l l' hab _ ih =>
    rcases List.mem_cons.mp hb with rfl | hb
    · exact ⟨a, List.mem_cons_self a l, hab⟩
    · obtain ⟨a', ha', h'⟩ := ih hb
      exact ⟨a', List.mem_cons_of_mem a ha', h'⟩

lemma filterMapM_loop_eq {ε α β : Type} (f : α → Except ε (Option β)) (l : List α)
    (acc : List β) :
    List.filterMapM.loop f l acc = (fun os => acc.reverse ++ os.filterMap id) <$> l.mapM f := by
  induction l generalizing acc with
  | nil =>
    rw [List.mapM_nil]
    simp [List.filterMapM.loop, pure, Except.pure, Functor.map, Except.map]
  | cons a l ih =>
    simp only [List.filterMapM.loop, List.mapM_cons]
    cases f a with
    | error e => rfl
    | ok o =>
      cases o <;> simp only [ok_bind, ih] <;> cases l.mapM f <;> simp [Functor.map, Except.map]

/-- The loop `for … : if …: continue … append` of the scripts, over `Except`: its computations in
order, the skipped ones left out. -/
lemma filterMapM_eq {ε α β : Type} (f : α → Except ε (Option β)) (l : List α) :
    l.filterMapM f = (·.filterMap id) <$> l.mapM f :=
  (filterMapM_loop_eq f l []).trans (by simp)

/-- A successful `filterMapM` keeps, of each element, what its successful computation gives. -/
lemma filterMapM_map_of_step {ε α β γ : Type} {f : α → Except ε (Option β)} {g : β → γ}
    {h : α → Option γ} (hf : ∀ a o, f a = .ok o → o.map g = h a) {l : List α} {bs : List β}
    (hl : l.filterMapM f = .ok bs) : bs.map g = l.filterMap h := by
  rw [filterMapM_eq, map_eq_ok_iff] at hl
  obtain ⟨os, hos, rfl⟩ := hl
  have hstep := (mapM_eq_ok_iff f).mp hos
  clear hos
  induction hstep with
  | nil => rfl
  | @cons a o l os hao _ ih =>
    have hh := hf a o hao
    cases o <;> simp [List.filterMap_cons, ← hh, ih]

lemma filterMapM_ok_exists_iff {ε α β : Type} (f : α → Except ε (Option β)) (l : List α) :
    (∃ bs, l.filterMapM f = .ok bs) ↔ ∀ a ∈ l, ∃ o, f a = .ok o := by
  rw [filterMapM_eq, exists_map_eq_ok, mapM_ok_exists_iff]

lemma sectionTables_ok_iff {secs : List (String × List (List Char))} {ts : List (String × T)} :
    sectionTables fmt secs = .ok ts ↔
      List.Forall₂ (fun s e => e.1 = s.1 ∧ tableOf fmt s.2 = .ok e.2) secs ts := by
  rw [sectionTables, mapM_eq_ok_iff]
  refine ⟨fun h => h.imp fun s e he => ?_, fun h => h.imp fun s e he => ?_⟩
  · obtain ⟨t, ht, rfl⟩ := (map_eq_ok_iff _ _ _).mp he
    exact ⟨rfl, ht⟩
  · exact (map_eq_ok_iff _ _ _).mpr ⟨e.2, he.2, by rw [← he.1]⟩

lemma map_fst_of_forall₂ {α β γ : Type} {P : α → β → Prop} {l₁ : List (γ × α)}
    {l₂ : List (γ × β)} (h : List.Forall₂ (fun a b => b.1 = a.1 ∧ P a.2 b.2) l₁ l₂) :
    l₂.map Prod.fst = l₁.map Prod.fst := by
  induction h with
  | nil => rfl
  | cons hab _ ih => simp [hab.1, ih]

/-- Two formats whose tables agree on each section agree on the list of tables. -/
lemma sectionTables_congr {E' : Type} {fmt' : SectionFormat E' T}
    {secs : List (String × List (List Char))} (h : ∀ s ∈ secs, tableOf fmt s.2 = tableOf fmt' s.2) :
    sectionTables fmt secs = sectionTables fmt' secs := by
  induction secs with
  | nil => rfl
  | cons s secs ih =>
    simp only [sectionTables_cons, h s (List.mem_cons_self s secs),
      ih fun s' hs' => h s' (List.mem_cons_of_mem s hs')]

/-- The loop returns, rather than raising, exactly when every section's table can be built. -/
theorem sectionLoop_ok_iff (text : String) :
    (∃ R, sectionLoop fmt text = .ok R) ↔
      ∀ s ∈ sectionsOf fmt text, ∃ t, tableOf fmt s.2 = .ok t := by
  simp only [sectionLoop_eq, exists_map_eq_ok, sectionTables, mapM_ok_exists_iff]

/-- A format that converts each entry and stores the value builds a block's table as a fold over
the block's converted entries, or fails with the first conversion's error. -/
lemma foldlM_entryStep_of_convert {V : Type} (conv : E → Except ValueError V)
    (store : T → E × V → T) (hrecord : ∀ e t, fmt.record e t = (fun v => store t (e, v)) <$> conv e)
    (blk : List (List Char)) (t₀ : T) :
    blk.foldlM (entryStep fmt) t₀ =
      (fun ms => ms.foldl store t₀) <$> (blk.filterMap fmt.entry).mapM fun e => (e, ·) <$> conv e := by
  induction blk generalizing t₀ with
  | nil => rfl
  | cons l blk ih =>
    cases he : fmt.entry l with
    | none => simp [entryStep, he, ih]
    | some e =>
      rw [List.filterMap_cons_some he, List.mapM_cons]
      cases hv : conv e with
      | error err => simp [entryStep, he, hrecord, hv]
      | ok v =>
        generalize (blk.filterMap fmt.entry).mapM (fun e => (e, ·) <$> conv e) = M at ih
        cases M <;> simp [entryStep, he, hrecord, hv, ih]

/-- The names of a successful run, in the order of their first section. -/
theorem sectionLoop_keys {text : String} {R : PyDict String T} (h : sectionLoop fmt text = .ok R) :
    R.keys = ((sectionsOf fmt text).map Prod.fst).foldl insertKey [] := by
  rw [sectionLoop_eq] at h
  cases hr : sectionTables fmt (sectionsOf fmt text) with
  | error e => simp [hr] at h
  | ok ts =>
    simp only [hr] at h
    cases h
    rw [PyDict.keys_insertAll, PyDict.keys_empty,
      map_fst_of_forall₂ (P := fun blk t => tableOf fmt blk = .ok t) (sectionTables_ok_iff fmt |>.mp hr)]

/-- On a successful run, each name holds the table of its last section. -/
theorem sectionLoop_get? {text : String} {R : PyDict String T} (h : sectionLoop fmt text = .ok R)
    (b : String) :
    Option.Rel (fun blk t => tableOf fmt blk = .ok t)
      (lookupEntry b (sectionsOf fmt text).reverse) (R.get? b) := by
  rw [sectionLoop_eq] at h
  cases hr : sectionTables fmt (sectionsOf fmt text) with
  | error e => simp [hr] at h
  | ok ts =>
    simp only [hr] at h
    cases h
    rw [PyDict.get?_insertAll, PyDict.get?_empty, Option.or_none]
    exact lookupEntry_rel (List.forall₂_reverse_iff.mpr (sectionTables_ok_iff fmt |>.mp hr)) b

/-! ### Printed sections

A text printed as section lines, each followed by lines that are not section lines, is read back
section by section. -/

lemma splitSections_append {header : List Char → Option String} {ls : List (List Char)}
    (hls : ∀ l ∈ ls, header l = none) (rest : List (List Char)) :
    splitSections header (ls ++ rest) =
      (ls ++ (splitSections header rest).1, (splitSections header rest).2) := by
  induction ls with
  | nil => rfl
  | cons l ls ih =>
    simp only [List.mem_cons, forall_eq_or_imp] at hls
    rw [List.cons_append, splitSections_cons_none _ hls.1, ih hls.2]
    rfl

section Printed

variable {ι : Type} (line : ι → List Char) (body : ι → List (List Char)) (name : ι → String)
  (hhead : ∀ i, fmt.header (line i) = some (name i)) (hbody : ∀ i, ∀ l ∈ body i, fmt.header l = none)
include hhead hbody

lemma splitSections_flatMap (secs : List ι) :
    splitSections fmt.header (secs.flatMap fun i => line i :: body i) =
      ([], secs.map fun i => (name i, body i)) := by
  induction secs with
  | nil => rfl
  | cons i secs ih =>
    rw [List.flatMap_cons, List.cons_append, splitSections_cons_some _ (hhead i),
      splitSections_append (hbody i), ih]
    simp

lemma sectionsOf_intercalate (hnil : fmt.header [] = none)
    (hnl : ∀ i, '\n' ∉ line i ∧ ∀ l ∈ body i, '\n' ∉ l) (secs : List ι) :
    sectionsOf fmt ⟨['\n'].intercalate (secs.flatMap fun i => line i :: body i)⟩ =
      secs.map fun i => (name i, body i) := by
  cases secs with
  | nil => simp [sectionsOf, splitSections, hnil]
  | cons i secs =>
    have hx : ∀ l ∈ (i :: secs).flatMap fun i => line i :: body i, '\n' ∉ l := by
      intro l hl
      obtain ⟨j, -, hl⟩ := List.mem_flatMap.mp hl
      rcases List.mem_cons.mp hl with rfl | hl
      · exact (hnl j).1
      · exact (hnl j).2 l hl
    rw [sectionsOf, List.splitOn_intercalate _ _ hx (by simp), splitSections_flatMap fmt line body name hhead hbody]

/-- The round trip of the loop: a text printed as distinctly named sections, each of whose
tables builds, is read back as those names with those tables, in order. -/
theorem sectionLoop_intercalate {t : ι → T} (hnil : fmt.header [] = none)
    (hnl : ∀ i, '\n' ∉ line i ∧ ∀ l ∈ body i, '\n' ∉ l)
    (htable : ∀ i, tableOf fmt (body i) = .ok (t i)) {secs : List ι} (hnames : (secs.map name).Nodup) :
    ∃ R, sectionLoop fmt ⟨['\n'].intercalate (secs.flatMap fun i => line i :: body i)⟩ = .ok R ∧
      R.entries = secs.map fun i => (name i, t i) := by
  have htables : sectionTables fmt (secs.map fun i => (name i, body i)) =
      .ok (secs.map fun i => (name i, t i)) := by
    induction secs with
    | nil => rfl
    | cons i secs ih => simp [htable, ih (List.nodup_cons.mp hnames).2, pure, Except.pure]
  refine ⟨_, by rw [sectionLoop_eq, sectionsOf_intercalate fmt line body name hhead hbody hnil hnl, htables]; rfl, ?_⟩
  exact PyDict.entries_insertAll_of_nodup _ _ (by simpa [Function.comp_def] using hnames)

end Printed

end BenchReport
