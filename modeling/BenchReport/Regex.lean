import Mathlib.Data.List.Basic

/-!
# Regular expressions

`re.match(pattern, line)` for the patterns of the scripts. A pattern is a `Re`, written in the
order of its source text. `Re.go` is the backtracking matcher of Python's `re`: alternatives are
tried left to right, and a greedy quantifier tries its longest run first and gives characters
back one at a time. `reMatch` returns the groups of the first match anchored at the start of
the line, in the order of their closing parentheses, which for the scripts' patterns (no
nested groups) is the order of `group(1)`, `group(2)`, ...

The matcher is written in continuation-passing style: `k` receives the rest of the line and
the groups captured so far, and a construct succeeds when some way of matching it makes `k`
succeed. The lemmas below follow one match of each construct: when the first candidate the
engine tries makes the continuation succeed, that is the result.
-/

namespace BenchReport

/-- The constructs of Python's regular expressions that the scripts use. -/
inductive Re where
  /-- The empty pattern. -/
  | eps
  /-- A literal character. -/
  | chr (c : Char)
  /-- A character class such as `[├╰]`, `\w` or `\s`. -/
  | cls (p : Char → Bool)
  /-- `[…]?`, greedy. -/
  | opt (p : Char → Bool)
  /-- `[…]*`, greedy. -/
  | star (p : Char → Bool)
  /-- `[…]+`, greedy. -/
  | plus (p : Char → Bool)
  /-- `r|t`. -/
  | alt (r t : Re)
  /-- `rt`. -/
  | seq (r t : Re)
  /-- `(r)`. -/
  | group (r : Re)
  /-- `(?:r)*`, greedy. -/
  | rep (r : Re)

namespace Re

/-- A greedy run of `p`-characters: the longest run first, then one character shorter. -/
def greedy {α : Type} (p : Char → Bool) (k : List Char → Option α) : List Char → Option α
  | [] => k []
  | c :: cs => if p c then (greedy p k cs).or (k (c :: cs)) else k (c :: cs)

/-- A greedy repetition of a pattern, given by its matcher `body`: one more iteration first, then
the rest of the pattern. An iteration that consumes nothing is not taken, so the line's length
plus one is enough `fuel`. -/
def repeatGo {α : Type}
    (body : List Char → List (List Char) → (List Char → List (List Char) → Option α) → Option α)
    (k : List Char → List (List Char) → Option α) : ℕ → List Char → List (List Char) → Option α
  | 0, s, gs => k s gs
  | n + 1, s, gs =>
    (body s gs fun s' gs' => if s'.length < s.length then repeatGo body k n s' gs' else none).or
      (k s gs)

/-- The backtracking matcher. -/
def go {α : Type} : Re → List Char → List (List Char) →
    (List Char → List (List Char) → Option α) → Option α
  | eps, s, gs, k => k s gs
  | chr c, s, gs, k =>
    match s with
    | x :: xs => if x = c then k xs gs else none
    | [] => none
  | cls p, s, gs, k =>
    match s with
    | x :: xs => if p x then k xs gs else none
    | [] => none
  | opt p, s, gs, k =>
    match s with
    | x :: xs => if p x then (k xs gs).or (k (x :: xs) gs) else k (x :: xs) gs
    | [] => k [] gs
  | star p, s, gs, k => greedy p (k · gs) s
  | plus p, s, gs, k =>
    match s with
    | x :: xs => if p x then greedy p (k · gs) xs else none
    | [] => none
  | alt r t, s, gs, k => (r.go s gs k).or (t.go s gs k)
  | seq r t, s, gs, k => r.go s gs fun s' gs' => t.go s' gs' k
  | group r, s, gs, k => r.go s gs fun s' gs' => k s' (gs' ++ [s.take (s.length - s'.length)])
  | rep r, s, gs, k => repeatGo r.go k (s.length + 1) s gs

/-- Concatenation of a list of patterns. -/
def seqs : List Re → Re
  | [] => eps
  | r :: rs => seq r (seqs rs)

/-- A literal string. -/
def lit (w : List Char) : Re := seqs (w.map chr)

end Re

/-- `re.match(r, s)`: the groups of the first match of `r` at the start of `s`. -/
def reMatch (r : Re) (s : List Char) : Option (List (List Char)) :=
  r.go s [] fun _ gs => some gs

namespace Re

variable {α : Type} {p : Char → Bool} {k : List Char → List (List Char) → Option α}
  {gs : List (List Char)} {x : α}

/-- `rest` does not begin with a `p`-character, so a greedy `p`-run stops in front of it. -/
def Stops (p : Char → Bool) (rest : List Char) : Prop := ∀ c ∈ rest.head?, p c = false

@[simp] lemma stops_nil : Stops p [] := by simp [Stops]

@[simp] lemma stops_cons {c : Char} {s : List Char} : Stops p (c :: s) ↔ p c = false := by
  simp [Stops]

lemma stops_append {u rest : List Char} (hne : u ≠ []) (hu : ∀ c ∈ u.head?, p c = false) :
    Stops p (u ++ rest) := by
  obtain ⟨c, u, rfl⟩ := List.exists_cons_of_ne_nil hne
  simpa using hu c rfl

@[simp] lemma go_eps (s : List Char) : eps.go s gs k = k s gs := rfl

@[simp] lemma go_seq (r t : Re) (s : List Char) :
    (seq r t).go s gs k = r.go s gs fun s' gs' => t.go s' gs' k := rfl

@[simp] lemma go_group (r : Re) (s : List Char) :
    (group r).go s gs k = r.go s gs fun s' gs' => k s' (gs' ++ [s.take (s.length - s'.length)]) :=
  rfl

@[simp] lemma go_alt (r t : Re) (s : List Char) :
    (alt r t).go s gs k = (r.go s gs k).or (t.go s gs k) := rfl

lemma go_rep (r : Re) (s : List Char) : (rep r).go s gs k = repeatGo r.go k (s.length + 1) s gs :=
  rfl

@[simp] lemma seqs_cons (r : Re) (rs : List Re) : seqs (r :: rs) = seq r (seqs rs) := rfl

@[simp] lemma seqs_nil : seqs [] = eps := rfl

@[simp] lemma go_chr_cons (c x : Char) (s : List Char) :
    (chr c).go (x :: s) gs k = if x = c then k s gs else none := rfl

@[simp] lemma go_cls_cons (x : Char) (s : List Char) :
    (cls p).go (x :: s) gs k = if p x then k s gs else none := rfl

@[simp] lemma go_chr_nil (c : Char) : (chr c).go [] gs k = none := rfl

@[simp] lemma go_cls_nil : (cls p).go [] gs k = none := rfl

/-- The text a group captures: what its pattern consumed. -/
@[simp] lemma capture_append (u rest : List Char) :
    (u ++ rest).take ((u ++ rest).length - rest.length) = u := by
  simp

lemma greedy_append {k : List Char → Option α} {u rest : List Char} (hu : ∀ c ∈ u, p c = true)
    (hs : Stops p rest) (hk : k rest = some x) : greedy p k (u ++ rest) = some x := by
  induction u with
  | nil =>
    cases rest with
    | nil => exact hk
    | cons c rest => simpa [greedy, (stops_cons.mp hs)] using hk
  | cons c u ih =>
    simp only [List.mem_cons, forall_eq_or_imp] at hu
    simp [greedy, hu.1, ih hu.2]

lemma go_star_append {u rest : List Char} (hu : ∀ c ∈ u, p c = true) (hs : Stops p rest)
    (hk : k rest gs = some x) : (star p).go (u ++ rest) gs k = some x :=
  greedy_append hu hs hk

lemma go_plus_append {u rest : List Char} (hne : u ≠ []) (hu : ∀ c ∈ u, p c = true)
    (hs : Stops p rest) (hk : k rest gs = some x) : (plus p).go (u ++ rest) gs k = some x := by
  obtain ⟨c, u, rfl⟩ := List.exists_cons_of_ne_nil hne
  simp only [List.mem_cons, forall_eq_or_imp] at hu
  simp only [go, List.cons_append, hu.1, if_true]
  exact greedy_append hu.2 hs hk

lemma go_plus_of_stops {s : List Char} (hs : Stops p s) : (plus p).go s gs k = none := by
  cases s with
  | nil => rfl
  | cons c s => simp [go, stops_cons.mp hs]

lemma go_opt_cons_of {c : Char} {s : List Char} (hc : p c = true) (hk : k s gs = some x) :
    (opt p).go (c :: s) gs k = some x := by
  simp [go, hc, hk]

lemma go_opt_of_stops {s : List Char} (hs : Stops p s) : (opt p).go s gs k = k s gs := by
  cases s with
  | nil => rfl
  | cons c s => simp [go, stops_cons.mp hs]

lemma go_lit_append (w rest : List Char) : (lit w).go (w ++ rest) gs k = k rest gs := by
  induction w generalizing k with
  | nil => rfl
  | cons c w ih => simpa [lit, seqs] using ih

lemma stops_dropWhile (l : List Char) : Stops p (l.dropWhile p) := by
  intro c hc
  simpa [Option.mem_def.mp hc] using List.head?_dropWhile_not p l

/-! ### Alternating runs -/

/-- `u` is made of runs of `p`- and of `q`-characters, alternating, from a `p`-run to a `q`-run:
what `(?:[p]+[q]+)*` consumes. -/
structure Alternating (p q : Char → Bool) (u : List Char) : Prop where
  chars : ∀ c ∈ u, (p c || q c) = true
  head : ∀ c ∈ u.head?, p c = true
  last : ∀ c ∈ u.getLast?, q c = true

section Alternating

variable {q : Char → Bool} (hpq : ∀ c, p c = true → q c = false)
include hpq

/-- Non-empty alternating runs start with a `p`-run and a `q`-run, and alternate after them. -/
lemma Alternating.split {u : List Char} (hu : Alternating p q u) (hne : u ≠ []) :
    ∃ a b u', u = a ++ (b ++ u') ∧ a ≠ [] ∧ (∀ c ∈ a, p c = true) ∧ b ≠ [] ∧
      (∀ c ∈ b, q c = true) ∧ Stops q u' ∧ Alternating p q u' := by
  have hsplit := (List.takeWhile_append_dropWhile p u).symm
  have hsplit' := (List.takeWhile_append_dropWhile q (u.dropWhile p)).symm
  have hq_of : ∀ c ∈ u.dropWhile p, p c = false → q c = true := fun c hc hpc => by
    simpa [hpc] using hu.chars c ((List.dropWhile_sublist p).subset hc)
  have hv : u.dropWhile p ≠ [] := fun h => by
    have hlast := hu.last (u.getLast hne) (by simp [List.getLast?_eq_getLast u hne])
    have hp := List.dropWhile_eq_nil_iff.mp h _ (List.getLast_mem hne)
    simp [hpq _ hp] at hlast
  obtain ⟨c, v, hcv⟩ := List.exists_cons_of_ne_nil hv
  have hqc : q c = true := hq_of c (by simp [hcv]) (stops_cons.mp (hcv ▸ stops_dropWhile u))
  refine ⟨u.takeWhile p, (u.dropWhile p).takeWhile q, (u.dropWhile p).dropWhile q,
    by rw [← hsplit']; exact hsplit, ?_, fun c => List.mem_takeWhile_imp, ?_, fun c => List.mem_takeWhile_imp,
    stops_dropWhile _, ⟨fun c hc => hu.chars c ?_, fun c hc => ?_, fun c hc => hu.last c ?_⟩⟩
  · obtain ⟨d, u', rfl⟩ := List.exists_cons_of_ne_nil hne
    simp [List.takeWhile_cons_of_pos (hu.head d rfl)]
  · simp [hcv, List.takeWhile_cons_of_pos hqc]
  · exact ((List.dropWhile_sublist q).trans (List.dropWhile_sublist p)).subset hc
  · have hqf := stops_dropWhile (p := q) (u.dropWhile p) c hc
    have hmem := (List.dropWhile_sublist q).subset (List.mem_of_mem_head? hc)
    simpa [hqf] using hu.chars c ((List.dropWhile_sublist p).subset hmem)
  · rw [hsplit, hsplit', List.getLast?_append, List.getLast?_append, Option.mem_def.mp hc]
    rfl

/-- `(?:[p]+[q]+)*` on alternating runs takes them all, when what follows starts with neither a
`p`- nor a `q`-character. -/
lemma repeatGo_alternating {rest : List Char} (hp : Stops p rest) (hq : Stops q rest)
    (hk : k rest gs = some x) (n : ℕ) :
    ∀ u, u.length < n → Alternating p q u →
      repeatGo (seq (plus p) (plus q)).go k n (u ++ rest) gs = some x := by
  induction n with
  | zero => intro u hn; omega
  | succ n ih =>
    intro u hn hu
    rcases eq_or_ne u [] with rfl | hne
    · simp [repeatGo, go_plus_of_stops hp, hk]
    obtain ⟨a, b, u', rfl, ha, hpa, hb, hqb, hu', halt⟩ := hu.split hpq hne
    have hpos := List.length_pos.mpr ha
    have hlen : u'.length < n := by
      simp only [List.length_append] at hn
      omega
    have hstop : Stops p (b ++ (u' ++ rest)) := stops_append hb fun d hd => by
      have hqd := hqb d (List.mem_of_mem_head? hd)
      cases hpd : p d
      · rfl
      · simp [hpq d hpd] at hqd
    have hstop' : Stops q (u' ++ rest) := by
      rcases eq_or_ne u' [] with rfl | hne'
      · simpa using hq
      · exact stops_append hne' hu'
    show ((seq (plus p) (plus q)).go _ gs _).or _ = some x
    rw [go_seq, List.append_assoc, List.append_assoc]
    refine Option.or_eq_some.mpr (.inl (go_plus_append ha hpa hstop (go_plus_append hb hqb hstop' ?_)))
    simp only [List.length_append]
    rw [if_pos (by omega)]
    exact ih u' hlen halt

end Alternating

/-! ### What a match consumes and captures -/

/-- `Matches r s s' gs`: `r` matches a prefix of `s`, leaving `s'`, and captures `gs`. -/
inductive Matches : Re → List Char → List Char → List (List Char) → Prop
  | eps (s : List Char) : Matches eps s s []
  | chr (c : Char) (s : List Char) : Matches (chr c) (c :: s) s []
  | cls {p : Char → Bool} {c : Char} (s : List Char) : p c = true → Matches (cls p) (c :: s) s []
  | opt {p : Char → Bool} {u : List Char} (s : List Char) :
      u.length ≤ 1 → (∀ c ∈ u, p c = true) → Matches (opt p) (u ++ s) s []
  | star {p : Char → Bool} {u : List Char} (s : List Char) :
      (∀ c ∈ u, p c = true) → Matches (star p) (u ++ s) s []
  | plus {p : Char → Bool} {u : List Char} (s : List Char) :
      u ≠ [] → (∀ c ∈ u, p c = true) → Matches (plus p) (u ++ s) s []
  | altL {r t : Re} {s s' : List Char} {g : List (List Char)} :
      Matches r s s' g → Matches (alt r t) s s' g
  | altR {r t : Re} {s s' : List Char} {g : List (List Char)} :
      Matches t s s' g → Matches (alt r t) s s' g
  | seq {r t : Re} {s s₁ s₂ : List Char} {g₁ g₂ : List (List Char)} :
      Matches r s s₁ g₁ → Matches t s₁ s₂ g₂ → Matches (seq r t) s s₂ (g₁ ++ g₂)
  | group {r : Re} {u s : List Char} {g : List (List Char)} :
      Matches r (u ++ s) s g → Matches (group r) (u ++ s) s (g ++ [u])
  | repNil {r : Re} (s : List Char) : Matches (rep r) s s []
  | repCons {r : Re} {s s₁ s₂ : List Char} {g₁ g₂ : List (List Char)} :
      Matches r s s₁ g₁ → s₁.length < s.length → Matches (rep r) s₁ s₂ g₂ →
        Matches (rep r) s s₂ (g₁ ++ g₂)

lemma Matches.suffix {r : Re} {s s' : List Char} {g : List (List Char)} (h : Matches r s s' g) :
    ∃ u, s = u ++ s' := by
  induction h with
  | eps s => exact ⟨[], rfl⟩
  | chr c s => exact ⟨[c], rfl⟩
  | cls s _ => exact ⟨[_], rfl⟩
  | opt s _ _ | star s _ | plus s _ _ => exact ⟨_, rfl⟩
  | altL _ ih | altR _ ih => exact ih
  | seq _ _ ih₁ ih₂ | repCons _ _ _ ih₁ ih₂ =>
    obtain ⟨u₁, rfl⟩ := ih₁
    obtain ⟨u₂, rfl⟩ := ih₂
    exact ⟨u₁ ++ u₂, by simp⟩
  | group _ _ => exact ⟨_, rfl⟩
  | repNil s => exact ⟨[], rfl⟩

lemma greedy_sound {k : List Char → Option α} {s : List Char} (h : greedy p k s = some x) :
    ∃ u s', s = u ++ s' ∧ (∀ c ∈ u, p c = true) ∧ k s' = some x := by
  induction s with
  | nil => exact ⟨[], [], rfl, by simp, h⟩
  | cons c s ih =>
    simp only [greedy] at h
    split_ifs at h with hc
    · rcases Option.or_eq_some.mp h with h | ⟨-, h⟩
      · obtain ⟨u, s', rfl, hu, hk⟩ := ih h
        exact ⟨c :: u, s', rfl, List.forall_mem_cons.mpr ⟨hc, hu⟩, hk⟩
      · exact ⟨[], c :: s, rfl, by simp, h⟩
    · exact ⟨[], c :: s, rfl, by simp, h⟩

/-- A repetition returns what a run of matches of its body, each consuming a character, makes the
continuation return. -/
lemma repeatGo_sound {r : Re}
    {body : List Char → List (List Char) → (List Char → List (List Char) → Option α) → Option α}
    (hbody : ∀ {s gs k'}, body s gs k' = some x → ∃ s' g, Matches r s s' g ∧ k' s' (gs ++ g) = some x)
    {n : ℕ} {s : List Char} (h : repeatGo body k n s gs = some x) :
    ∃ s' g, Matches (rep r) s s' g ∧ k s' (gs ++ g) = some x := by
  induction n generalizing s gs with
  | zero => exact ⟨s, [], .repNil s, by simpa using h⟩
  | succ n ih =>
    rcases Option.or_eq_some.mp h with h | ⟨-, h⟩
    · obtain ⟨s₁, g₁, hm₁, h₁⟩ := hbody h
      split_ifs at h₁ with hlt
      obtain ⟨s₂, g₂, hm₂, h₂⟩ := ih h₁
      exact ⟨s₂, g₁ ++ g₂, .repCons hm₁ hlt hm₂, by simpa using h₂⟩
    · exact ⟨s, [], .repNil s, by simpa using h⟩

/-- Whatever the matcher returns comes from a match of the pattern. -/
lemma go_sound {r : Re} {s : List Char} (h : r.go s gs k = some x) :
    ∃ s' g, Matches r s s' g ∧ k s' (gs ++ g) = some x := by
  induction r generalizing s gs k with
  | eps => exact ⟨s, [], .eps s, by simpa using h⟩
  | chr c =>
    cases s with
    | nil => simp at h
    | cons y s =>
      simp only [go_chr_cons] at h
      split_ifs at h with hy
      exact ⟨s, [], hy ▸ .chr y s, by simpa using h⟩
  | cls p =>
    cases s with
    | nil => simp at h
    | cons y s =>
      simp only [go_cls_cons] at h
      split_ifs at h with hy
      exact ⟨s, [], .cls s hy, by simpa using h⟩
  | opt p =>
    cases s with
    | nil => exact ⟨[], [], .opt (u := []) [] (by simp) (by simp), by simpa using h⟩
    | cons y s =>
      simp only [go] at h
      split_ifs at h with hy
      · rcases Option.or_eq_some.mp h with h | ⟨-, h⟩
        · exact ⟨s, [], .opt (u := [y]) s (by simp) (by simp [hy]), by simpa using h⟩
        · exact ⟨y :: s, [], .opt (u := []) _ (by simp) (by simp), by simpa using h⟩
      · exact ⟨y :: s, [], .opt (u := []) _ (by simp) (by simp), by simpa using h⟩
  | star p =>
    obtain ⟨u, s', rfl, hu, hk⟩ := greedy_sound h
    exact ⟨s', [], .star s' hu, by simpa using hk⟩
  | plus p =>
    cases s with
    | nil => simp [go] at h
    | cons y s =>
      simp only [go] at h
      split_ifs at h with hy
      obtain ⟨u, s', rfl, hu, hk⟩ := greedy_sound h
      exact ⟨s', [], .plus (u := y :: u) s' (by simp) (List.forall_mem_cons.mpr ⟨hy, hu⟩),
        by simpa using hk⟩
  | alt r t ihr iht =>
    rcases Option.or_eq_some.mp h with h | ⟨-, h⟩
    · obtain ⟨s', g, hm, hk⟩ := ihr h
      exact ⟨s', g, .altL hm, hk⟩
    · obtain ⟨s', g, hm, hk⟩ := iht h
      exact ⟨s', g, .altR hm, hk⟩
  | seq r t ihr iht =>
    obtain ⟨s₁, g₁, hm₁, h₁⟩ := ihr h
    obtain ⟨s₂, g₂, hm₂, h₂⟩ := iht h₁
    exact ⟨s₂, g₁ ++ g₂, .seq hm₁ hm₂, by simpa using h₂⟩
  | group r ih =>
    obtain ⟨s', g, hm, hk⟩ := ih h
    obtain ⟨u, rfl⟩ := hm.suffix
    exact ⟨s', g ++ [u], .group hm, by simpa using hk⟩
  | rep r ih => exact repeatGo_sound ih h

/-! ### Inversion -/

variable {s s' : List Char} {g : List (List Char)}

@[simp] lemma matches_eps : Matches eps s s' g ↔ s' = s ∧ g = [] := by
  constructor
  · intro h; cases h; simp
  · rintro ⟨rfl, rfl⟩; exact .eps _

@[simp] lemma matches_chr {c : Char} : Matches (chr c) s s' g ↔ s = c :: s' ∧ g = [] := by
  constructor
  · intro h; cases h; simp
  · rintro ⟨rfl, rfl⟩; exact .chr c _

@[simp] lemma matches_cls : Matches (cls p) s s' g ↔ ∃ c, p c = true ∧ s = c :: s' ∧ g = [] := by
  constructor
  · intro h; cases h; exact ⟨_, by assumption, rfl, rfl⟩
  · rintro ⟨c, hc, rfl, rfl⟩; exact .cls _ hc

@[simp] lemma matches_plus :
    Matches (plus p) s s' g ↔ ∃ u, u ≠ [] ∧ (∀ c ∈ u, p c = true) ∧ s = u ++ s' ∧ g = [] := by
  constructor
  · intro h; cases h; exact ⟨_, by assumption, by assumption, rfl, rfl⟩
  · rintro ⟨u, hne, hu, rfl, rfl⟩; exact .plus _ hne hu

@[simp] lemma matches_seq {r t : Re} :
    Matches (seq r t) s s' g ↔
      ∃ s₁ g₁ g₂, Matches r s s₁ g₁ ∧ Matches t s₁ s' g₂ ∧ g = g₁ ++ g₂ := by
  constructor
  · intro h; cases h; exact ⟨_, _, _, by assumption, by assumption, rfl⟩
  · rintro ⟨s₁, g₁, g₂, h₁, h₂, rfl⟩; exact .seq h₁ h₂

@[simp] lemma matches_group {r : Re} :
    Matches (group r) s s' g ↔ ∃ u g', Matches r s s' g' ∧ s = u ++ s' ∧ g = g' ++ [u] := by
  constructor
  · intro h; cases h; exact ⟨_, _, by assumption, rfl, rfl⟩
  · rintro ⟨u, g', h, rfl, rfl⟩; exact .group h

/-- What `(?:[p]+[q]+)*` consumes alternates between `p`- and `q`-runs; it captures nothing. -/
lemma Matches.alternating {q : Char → Bool} (h : Matches (.rep (.seq (.plus p) (.plus q))) s s' g) :
    ∃ u, s = u ++ s' ∧ Alternating p q u ∧ g = [] := by
  generalize hr : Re.rep (.seq (.plus p) (.plus q)) = r at h
  induction h with
  | repNil s => exact ⟨[], rfl, ⟨by simp, by simp, by simp⟩, rfl⟩
  | repCons h₁ _ _ _ ih =>
    cases hr
    obtain ⟨u, rfl, hu, rfl⟩ := ih rfl
    simp only [matches_seq, matches_plus] at h₁
    obtain ⟨_, _, _, ⟨a, ha, hpa, rfl, rfl⟩, ⟨b, hb, hqb, rfl, rfl⟩, rfl⟩ := h₁
    obtain ⟨c, a, rfl⟩ := List.exists_cons_of_ne_nil ha
    refine ⟨c :: a ++ b ++ u, by simp, ⟨fun d hd => ?_, by simpa using hpa c, ?_⟩, rfl⟩
    · simp only [List.mem_append] at hd
      rcases hd with (hd | hd) | hd
      · simp [hpa d hd]
      · simp [hqb d hd]
      · exact hu.chars d hd
    · intro d hd
      rcases eq_or_ne u [] with rfl | hne
      · rw [List.append_nil, List.getLast?_append_of_ne_nil _ hb] at hd
        exact hqb d (List.mem_of_mem_getLast? hd)
      · rw [List.getLast?_append_of_ne_nil _ hne] at hd
        exact hu.last d hd
  | _ => cases hr

/-! ### Non-empty groups -/

/-- Every match of the pattern consumes a character. -/
def consumes : Re → Bool
  | chr _ | cls _ | plus _ => true
  | eps | opt _ | star _ | rep _ => false
  | alt r t => r.consumes && t.consumes
  | seq r t => r.consumes || t.consumes
  | group r => r.consumes

/-- Every group of the pattern wraps a pattern that consumes a character. -/
def groupsNonempty : Re → Bool
  | alt r t | seq r t => r.groupsNonempty && t.groupsNonempty
  | group r => r.consumes && r.groupsNonempty
  | rep r => r.groupsNonempty
  | _ => true

lemma Matches.ne_of_consumes {r : Re} (h : Matches r s s' g) (hr : r.consumes = true) :
    ∃ u, u ≠ [] ∧ s = u ++ s' := by
  induction h with
  | eps | opt | star | repNil | repCons => simp [Re.consumes] at hr
  | chr c s => exact ⟨[c], by simp, rfl⟩
  | cls s _ => exact ⟨[_], by simp, rfl⟩
  | plus s hne _ => exact ⟨_, hne, rfl⟩
  | altL _ ih => exact ih (by simp_all [Re.consumes])
  | altR _ ih => exact ih (by simp_all [Re.consumes])
  | @seq r t _ _ _ _ _ h₁ h₂ ih₁ ih₂ =>
    obtain ⟨u₁, rfl⟩ := h₁.suffix
    obtain ⟨u₂, rfl⟩ := h₂.suffix
    rcases Bool.or_eq_true_iff.mp hr with hr | hr
    · obtain ⟨u, hu, he⟩ := ih₁ hr
      exact ⟨u₁ ++ u₂, by simp_all, by simp⟩
    · obtain ⟨u, hu, he⟩ := ih₂ hr
      exact ⟨u₁ ++ u₂, by simp_all, by simp⟩
  | group _ ih => exact ih hr

/-- In a pattern whose groups wrap consuming patterns, every capture is non-empty. -/
lemma Matches.capture_ne_nil {r : Re} (h : Matches r s s' g) (hr : r.groupsNonempty = true) :
    ∀ u ∈ g, u ≠ [] := by
  induction h with
  | eps | chr | cls | opt | star | plus => simp
  | altL _ ih => exact ih (by simp_all [groupsNonempty])
  | altR _ ih => exact ih (by simp_all [groupsNonempty])
  | seq _ _ ih₁ ih₂ =>
    simp only [groupsNonempty, Bool.and_eq_true] at hr
    simpa [or_imp, forall_and] using ⟨ih₁ hr.1, ih₂ hr.2⟩
  | repNil => simp
  | repCons _ _ _ ih₁ ih₂ => simpa [or_imp, forall_and] using ⟨ih₁ hr, ih₂ hr⟩
  | @group r u s g hm ih =>
    simp only [groupsNonempty, Bool.and_eq_true] at hr
    obtain ⟨v, hv, he⟩ := hm.ne_of_consumes hr.1
    have : u = v := by simpa using he
    simpa [or_imp, forall_and, this, hv] using ih hr.2

end Re

/-- A successful `re.match` comes from a match of the pattern. -/
lemma reMatch_sound {r : Re} {s : List Char} {gs : List (List Char)} (h : reMatch r s = some gs) :
    ∃ s', Re.Matches r s s' gs := by
  obtain ⟨s', g, hm, hk⟩ := Re.go_sound h
  obtain rfl : g = gs := by simpa using hk
  exact ⟨s', hm⟩

end BenchReport
