import Mathlib.Data.List.Nodup
import Mathlib.Data.List.Forall2

/-!
# Python dictionaries

The report keeps all its data in Python `dict`s, which hold each key once and remember the
order in which keys were first inserted. `PyDict K V` is that: the entries in insertion order,
with a field stating that no key occurs twice, so that a dictionary with a repeated key cannot
be built.

The assignment `d[k] = v` (`PyDict.insert`) replaces the value in place when `k` is present and
appends the entry otherwise. The lemmas at the end describe a dictionary built by a run of
assignments: its keys in first-insertion order, and the last value assigned to each key.
-/

namespace BenchReport

/-- The value of the first entry with key `k`. -/
def lookupEntry {K V : Type} [DecidableEq K] (k : K) : List (K × V) → Option V
  | [] => none
  | (k', v) :: es => if k' = k then some v else lookupEntry k es

/-- `d[k] = v` on the entry list: overwrite in place, or append. -/
def setEntry {K V : Type} [DecidableEq K] (k : K) (v : V) : List (K × V) → List (K × V)
  | [] => [(k, v)]
  | (k', v') :: es => if k' = k then (k', v) :: es else (k', v') :: setEntry k v es

/-- The key order after assigning to `k`: unchanged if `k` is present, `k` last otherwise. -/
def insertKey {K : Type} [DecidableEq K] (ks : List K) (k : K) : List K :=
  if k ∈ ks then ks else ks ++ [k]

/-- A Python `dict`: its entries in insertion order, each key once. -/
structure PyDict (K V : Type) where
  entries : List (K × V)
  nodup_keys : (entries.map Prod.fst).Nodup

variable {K V : Type}

namespace PyDict

instance instEmptyCollection : EmptyCollection (PyDict K V) := ⟨⟨[], List.nodup_nil⟩⟩

/-- `list(d.keys())`. -/
def keys (d : PyDict K V) : List K := d.entries.map Prod.fst

/-- `list(d.values())`. -/
def values (d : PyDict K V) : List V := d.entries.map Prod.snd

@[simp] lemma entries_empty : (∅ : PyDict K V).entries = [] := rfl

@[simp] lemma keys_empty : (∅ : PyDict K V).keys = [] := rfl

lemma keys_nodup (d : PyDict K V) : d.keys.Nodup := d.nodup_keys

@[ext] lemma ext {d₁ d₂ : PyDict K V} (h : d₁.entries = d₂.entries) : d₁ = d₂ := by
  cases d₁; cases d₂; cases h; rfl

/-- Dictionaries are equal when their entries are, in order: this is what evaluating the model
compares. -/
instance instDecidableEq [DecidableEq K] [DecidableEq V] : DecidableEq (PyDict K V) :=
  fun d₁ d₂ => decidable_of_iff (d₁.entries = d₂.entries) ⟨ext, congrArg _⟩

end PyDict

variable [DecidableEq K]

/-! ### Entry lists -/

@[simp] lemma lookupEntry_nil (k : K) : lookupEntry k ([] : List (K × V)) = none := rfl

@[simp] lemma lookupEntry_cons (k k' : K) (v : V) (es : List (K × V)) :
    lookupEntry k ((k', v) :: es) = if k' = k then some v else lookupEntry k es := rfl

lemma lookupEntry_append (k : K) (l₁ l₂ : List (K × V)) :
    lookupEntry k (l₁ ++ l₂) = (lookupEntry k l₁).or (lookupEntry k l₂) := by
  induction l₁ with
  | nil => rfl
  | cons e l₁ ih => obtain ⟨k', v⟩ := e; by_cases h : k' = k <;> simp [h, ih]

lemma lookupEntry_isSome (k : K) (es : List (K × V)) :
    (lookupEntry k es).isSome ↔ k ∈ es.map Prod.fst := by
  induction es with
  | nil => simp
  | cons e es ih =>
    obtain ⟨k', v⟩ := e
    by_cases h : k' = k
    · simp [h]
    · simp [h, ih, Ne.symm h]

lemma lookupEntry_eq_none (k : K) (es : List (K × V)) :
    lookupEntry k es = none ↔ k ∉ es.map Prod.fst := by
  rw [← lookupEntry_isSome, Option.not_isSome_iff_eq_none]

lemma map_fst_setEntry (k : K) (v : V) (es : List (K × V)) :
    (setEntry k v es).map Prod.fst = insertKey (es.map Prod.fst) k := by
  induction es with
  | nil => simp [setEntry, insertKey]
  | cons e es ih =>
    obtain ⟨k', v'⟩ := e
    by_cases h : k' = k
    · simp [setEntry, insertKey, h]
    · simp only [setEntry, h, if_false, List.map_cons, ih, insertKey, List.mem_cons, Ne.symm h,
        false_or]
      split_ifs <;> rfl

lemma lookupEntry_setEntry (k k' : K) (v : V) (es : List (K × V)) :
    lookupEntry k' (setEntry k v es) = if k = k' then some v else lookupEntry k' es := by
  induction es with
  | nil => simp [setEntry]
  | cons e es ih =>
    obtain ⟨k'', v'⟩ := e
    by_cases h : k'' = k
    · subst h; by_cases h' : k'' = k' <;> simp [setEntry, h']
    · simp only [setEntry, h, if_false, lookupEntry_cons, ih]
      by_cases h' : k'' = k'
      · subst h'; simp [Ne.symm h]
      · simp [h']

/-- Entry lists with the same keys and related values have related lookups. -/
lemma lookupEntry_rel {V' : Type} {P : V → V' → Prop} {l₁ : List (K × V)} {l₂ : List (K × V')}
    (h : List.Forall₂ (fun a b => b.1 = a.1 ∧ P a.2 b.2) l₁ l₂) (k : K) :
    Option.Rel P (lookupEntry k l₁) (lookupEntry k l₂) := by
  induction h with
  | nil => exact .none
  | @cons a b _ _ hab _ ih =>
    obtain ⟨k₁, v₁⟩ := a
    obtain ⟨k₂, v₂⟩ := b
    obtain ⟨rfl, hp⟩ := hab
    by_cases hk : k₂ = k
    · simpa [hk] using Option.Rel.some hp
    · simpa [hk] using ih

lemma mem_of_lookupEntry {k : K} {v : V} {es : List (K × V)} (h : lookupEntry k es = some v) :
    (k, v) ∈ es := by
  induction es with
  | nil => cases h
  | cons e es ih =>
    obtain ⟨k', v'⟩ := e
    by_cases hk : k' = k
    · simp only [lookupEntry_cons, hk, if_true, Option.some.injEq] at h
      simp [hk, h]
    · simp only [lookupEntry_cons, hk, if_false] at h
      exact List.mem_cons_of_mem _ (ih h)

/-- Without repeated keys, an entry is what its key looks up. -/
lemma lookupEntry_of_mem {k : K} {v : V} {es : List (K × V)} (hnd : (es.map Prod.fst).Nodup)
    (h : (k, v) ∈ es) : lookupEntry k es = some v := by
  induction es with
  | nil => cases h
  | cons e es ih =>
    obtain ⟨k', v'⟩ := e
    rw [List.map_cons, List.nodup_cons] at hnd
    rcases List.mem_cons.mp h with h | h
    · cases h
      simp
    · have hk : k' ≠ k := by
        rintro rfl
        exact hnd.1 (List.mem_map.mpr ⟨_, h, rfl⟩)
      rw [lookupEntry_cons, if_neg hk, ih hnd.2 h]

/-- Renaming the keys of an entry list by a map that is injective on them keeps its lookups. -/
lemma lookupEntry_map_eq_some {K' : Type} [DecidableEq K'] (g : K → K') {es : List (K × V)}
    (hg : ∀ k₁ ∈ es.map Prod.fst, ∀ k₂ ∈ es.map Prod.fst, g k₁ = g k₂ → k₁ = k₂)
    (k' : K') (v : V) :
    lookupEntry k' (es.map fun e => (g e.1, e.2)) = some v ↔
      ∃ k, g k = k' ∧ lookupEntry k es = some v := by
  induction es with
  | nil => simp
  | cons e es ih =>
    obtain ⟨k₁, v₁⟩ := e
    have ih := ih fun a ha b hb => hg a (List.mem_cons_of_mem _ ha) b (List.mem_cons_of_mem _ hb)
    by_cases hk : g k₁ = k'
    · -- the first entry answers both lookups: no other key of `es` is renamed to `k'`
      refine ⟨fun h => ⟨k₁, hk, by simpa [hk] using h⟩, fun ⟨k, hgk, h⟩ => ?_⟩
      by_cases hkk : k₁ = k
      · subst hkk
        simp only [lookupEntry_cons, if_true] at h
        simp only [List.map_cons, lookupEntry_cons, hk, if_true, h]
      · simp only [lookupEntry_cons, hkk, if_false] at h
        have hmem : k ∈ es.map Prod.fst := List.mem_map.mpr ⟨_, mem_of_lookupEntry h, rfl⟩
        exact absurd (hg k₁ (by simp) k (List.mem_cons_of_mem _ hmem) (hk.trans hgk.symm)) hkk
    · simp only [List.map_cons, lookupEntry_cons, hk, if_false, ih]
      refine exists_congr fun k => and_congr_right fun hgk => ?_
      rw [if_neg (fun h : k₁ = k => hk (h ▸ hgk))]

lemma setEntry_of_not_mem {k : K} {v : V} {es : List (K × V)} (h : k ∉ es.map Prod.fst) :
    setEntry k v es = es ++ [(k, v)] := by
  induction es with
  | nil => rfl
  | cons e es ih =>
    simp only [List.map_cons, List.mem_cons, not_or] at h
    simp [setEntry, Ne.symm h.1, ih h.2]

@[simp] lemma setEntry_setEntry (k : K) (v v' : V) (es : List (K × V)) :
    setEntry k v' (setEntry k v es) = setEntry k v' es := by
  induction es with
  | nil => simp [setEntry]
  | cons e es ih =>
    obtain ⟨k', w⟩ := e
    by_cases h : k' = k <;> simp [setEntry, h, ih]

lemma setEntry_of_lookupEntry {k : K} {v : V} {es : List (K × V)}
    (h : lookupEntry k es = some v) : setEntry k v es = es := by
  induction es with
  | nil => simp at h
  | cons e es ih =>
    obtain ⟨k', w⟩ := e
    by_cases hk : k' = k
    · simp_all [setEntry]
    · simp_all [setEntry]

lemma mem_setEntry {k : K} {w : V} {es : List (K × V)} {e : K × V} (h : e ∈ setEntry k w es) :
    e ∈ es ∨ e = (k, w) := by
  induction es with
  | nil => exact .inr (List.mem_singleton.mp h)
  | cons e' es ih =>
    obtain ⟨k', v'⟩ := e'
    unfold setEntry at h
    split_ifs at h with hk
    · rcases List.mem_cons.mp h with rfl | h
      · exact .inr (by rw [hk])
      · exact .inl (List.mem_cons_of_mem _ h)
    · rcases List.mem_cons.mp h with rfl | h
      · exact .inl (List.mem_cons_self _ _)
      · exact (ih h).imp_left (List.mem_cons_of_mem _)

lemma nodup_insertKey {ks : List K} (h : ks.Nodup) (k : K) : (insertKey ks k).Nodup := by
  unfold insertKey
  split_ifs with hk
  · exact h
  · exact h.append (List.nodup_singleton k) (by simpa using hk)

lemma mem_insertKey {ks : List K} {k k' : K} : k' ∈ insertKey ks k ↔ k' = k ∨ k' ∈ ks := by
  unfold insertKey
  split_ifs with hk
  · constructor
    · exact Or.inr
    · rintro (rfl | h) <;> assumption
  · simp [or_comm]

namespace PyDict

/-- `d.get(k)`. -/
def get? (d : PyDict K V) (k : K) : Option V := lookupEntry k d.entries

/-- `d[k] = v`. -/
def insert (d : PyDict K V) (k : K) (v : V) : PyDict K V where
  entries := setEntry k v d.entries
  nodup_keys := by rw [map_fst_setEntry]; exact nodup_insertKey d.nodup_keys k

@[simp] lemma get?_empty (k : K) : (∅ : PyDict K V).get? k = none := rfl

@[simp] lemma keys_insert (d : PyDict K V) (k : K) (v : V) :
    (d.insert k v).keys = insertKey d.keys k :=
  map_fst_setEntry k v d.entries

@[simp] lemma insert_insert (d : PyDict K V) (k : K) (v v' : V) :
    (d.insert k v).insert k v' = d.insert k v' :=
  ext (setEntry_setEntry k v v' d.entries)

lemma insert_of_get? {d : PyDict K V} {k : K} {v : V} (h : d.get? k = some v) :
    d.insert k v = d :=
  ext (setEntry_of_lookupEntry h)

@[simp] lemma get?_insert (d : PyDict K V) (k k' : K) (v : V) :
    (d.insert k v).get? k' = if k = k' then some v else d.get? k' :=
  lookupEntry_setEntry k k' v d.entries

lemma get?_isSome (d : PyDict K V) (k : K) : (d.get? k).isSome ↔ k ∈ d.keys :=
  lookupEntry_isSome k d.entries

lemma get?_eq_none (d : PyDict K V) (k : K) : d.get? k = none ↔ k ∉ d.keys :=
  lookupEntry_eq_none k d.entries

lemma get?_eq_some_iff (d : PyDict K V) (k : K) (v : V) : d.get? k = some v ↔ (k, v) ∈ d.entries :=
  ⟨mem_of_lookupEntry, lookupEntry_of_mem d.nodup_keys⟩

lemma mem_keys_of_get? {d : PyDict K V} {k : K} {v : V} (h : d.get? k = some v) : k ∈ d.keys :=
  (d.get?_isSome k).mp (by rw [h]; rfl)

/-! ### Runs of assignments -/

/-- The dictionary after assigning each entry of `l` in turn. -/
def insertAll (d : PyDict K V) (l : List (K × V)) : PyDict K V :=
  l.foldl (fun d e => d.insert e.1 e.2) d

@[simp] lemma insertAll_nil (d : PyDict K V) : d.insertAll [] = d := rfl

@[simp] lemma insertAll_cons (d : PyDict K V) (e : K × V) (l : List (K × V)) :
    d.insertAll (e :: l) = (d.insert e.1 e.2).insertAll l := rfl

lemma keys_insertAll (d : PyDict K V) (l : List (K × V)) :
    (d.insertAll l).keys = (l.map Prod.fst).foldl insertKey d.keys := by
  induction l generalizing d with
  | nil => rfl
  | cons e l ih => simp [ih]

/-- A key's value after a run of assignments is the last one assigned to it. -/
lemma get?_insertAll (d : PyDict K V) (l : List (K × V)) (k : K) :
    (d.insertAll l).get? k = (lookupEntry k l.reverse).or (d.get? k) := by
  induction l generalizing d with
  | nil => rfl
  | cons e l ih =>
    obtain ⟨k', v⟩ := e
    rw [insertAll_cons, ih, List.reverse_cons, lookupEntry_append, Option.or_assoc, get?_insert]
    by_cases h : k' = k <;> simp [h]

/-- After a run of assignments, each entry is one the dictionary had or one assigned. -/
lemma mem_insertAll {d : PyDict K V} {l : List (K × V)} {e : K × V}
    (h : e ∈ (d.insertAll l).entries) : e ∈ d.entries ∨ e ∈ l := by
  induction l generalizing d with
  | nil => exact .inl h
  | cons e' l ih =>
    rcases ih h with h | h
    · rcases mem_setEntry h with h | rfl
      · exact .inl h
      · exact .inr (List.mem_cons_self _ _)
    · exact .inr (List.mem_cons_of_mem _ h)

/-- A value of a dictionary built from nothing by a run of assignments is one assigned. -/
lemma mem_values_insertAll {l : List (K × V)} {v : V}
    (h : v ∈ ((∅ : PyDict K V).insertAll l).values) : v ∈ l.map Prod.snd := by
  obtain ⟨e, he, rfl⟩ := List.mem_map.mp h
  exact List.mem_map_of_mem _ ((mem_insertAll he).resolve_left (List.not_mem_nil _))

/-- Assigning entries with distinct new keys appends them in order. -/
lemma entries_insertAll_of_nodup (d : PyDict K V) (l : List (K × V))
    (hl : (d.keys ++ l.map Prod.fst).Nodup) : (d.insertAll l).entries = d.entries ++ l := by
  induction l generalizing d with
  | nil => simp
  | cons e l ih =>
    have hnew : e.1 ∉ d.keys := fun h => (List.nodup_middle.mp hl).not_mem (List.mem_append_left _ h)
    have hset : (d.insert e.1 e.2).entries = d.entries ++ [e] := setEntry_of_not_mem hnew
    rw [insertAll_cons, ih _ (by rw [keys, hset]; simpa [keys] using hl), hset]
    simp

end PyDict

end BenchReport
