import BenchReport.Regex
import BenchReport.SectionLoop
import BenchReport.Python.Number

/-!
# Parsing divan's output

`parse_divan_output` reads the tree that divan prints: a module line `├─ name …` opens the
section of a benchmark, and a result line `│  ├─ target_operation  1.046 µs …` under it gives a
median time. Both scripts define it as the section loop with the module pattern as section
pattern and the result pattern as entry pattern; they differ in what they store.
`parse_bench.py` splits the result name into an operation (by looking for `deserialize` in it)
and a target (by removing the `_deserialize` and `_serialize` suffixes), and stores the time
under both; `parse-bench.py`, the earlier version, stores it under the full name.
-/

namespace BenchReport

variable {F : Type}

/-! ### Benchmark entries -/

/-- The two operations, the keys of each benchmark's entry. -/
inductive Op
  | deserialize
  | serialize
  deriving DecidableEq, Repr

/-- The operation's key in a benchmark's entry. -/
def Op.key : Op → String
  | .deserialize => "deserialize"
  | .serialize => "serialize"

/-- A benchmark's entry `{'deserialize': {…}, 'serialize': {…}}`: target to median time, per
operation. -/
structure OpTables (F : Type) where
  deserialize : PyDict String F
  serialize : PyDict String F
  deriving DecidableEq

namespace OpTables

/-- `{'deserialize': {}, 'serialize': {}}`. -/
def empty : OpTables F := ⟨∅, ∅⟩

/-- `entry[op]`. -/
def get (t : OpTables F) : Op → PyDict String F
  | .deserialize => t.deserialize
  | .serialize => t.serialize

/-- `entry[op][target] = v`. -/
def set (t : OpTables F) (op : Op) (target : String) (v : F) : OpTables F :=
  match op with
  | .deserialize => { t with deserialize := t.deserialize.insert target v }
  | .serialize => { t with serialize := t.serialize.insert target v }

@[simp] lemma get_empty (op : Op) : (empty : OpTables F).get op = ∅ := by cases op <;> rfl

@[simp] lemma get_set (t : OpTables F) (op op' : Op) (target : String) (v : F) :
    (t.set op target v).get op' = if op = op' then (t.get op').insert target v else t.get op' := by
  cases op <;> cases op' <;> rfl

end OpTables

variable [PyUnicode]

open PyUnicode

/-! ### Patterns -/

/-- `[├╰]`. -/
def treeGlyph (c : Char) : Bool := c == '├' || c == '╰'

/-- `r'[├╰]─ (\w+)\s'`. -/
def moduleRe : Re :=
  .seqs [.cls treeGlyph, .chr '─', .chr ' ', .group (.plus isWord), .cls isSpace]

/-- `[\d.]`. -/
def numberChar (c : Char) : Bool := (digit c).isSome || c == '.'

/-- `r'│?\s*[├╰]─\s+(…)\s+([\d.]+)\s+(ns|µs|ms)'`, with the class of the name group given:
`[\w_]` in `parse_bench.py`, `\w` in `parse-bench.py`. -/
def resultRe (nameClass : Char → Bool) : Re :=
  .seqs [.opt (· == '│'), .star isSpace, .cls treeGlyph, .chr '─', .plus isSpace,
    .group (.plus nameClass), .plus isSpace, .group (.plus numberChar), .plus isSpace,
    .group (.alt (.lit "ns".data) (.alt (.lit "µs".data) (.lit "ms".data)))]

/-- `module_match.group(1)`. -/
def moduleName (line : List Char) : Option String :=
  match reMatch moduleRe line with
  | some [name] => some ⟨name⟩
  | _ => none

/-- The groups of a result line: the result name, the number and the unit. -/
structure ResultLine where
  name : List Char
  number : List Char
  unit : List Char
  deriving DecidableEq, Repr

/-- `result_match.group(1)`, `.group(2)`, `.group(3)`. -/
def resultMatch (nameClass : Char → Bool) (line : List Char) : Option ResultLine :=
  match reMatch (resultRe nameClass) line with
  | some [name, number, unit] => some ⟨name, number, unit⟩
  | _ => none

lemma moduleName_ne (line : List Char) (b : String) (h : moduleName line = some b) : b ≠ "" := by
  unfold moduleName at h
  split at h
  · rename_i name hm
    cases h
    obtain ⟨s', hm⟩ := reMatch_sound hm
    have hne := hm.capture_ne_nil rfl name (by simp)
    exact fun he => hne (congrArg String.data he)
  · cases h

/-! ### What a result line stores -/

variable [PyFloat F]

/-- `'deserialize' if 'deserialize' in target_full else 'serialize'`. -/
def operationOf (name : List Char) : Op :=
  if "deserialize".data <:+: name then .deserialize else .serialize

/-- `target_full.replace('_deserialize', '').replace('_serialize', '')`. -/
def targetBase (name : List Char) : List Char :=
  removeAll "_serialize".data (removeAll "_deserialize".data name)

/-- `results[current_benchmark][operation][target_base] = value`, for a result line and its time. -/
def OpTables.store (t : OpTables F) (m : ResultLine × F) : OpTables F :=
  t.set (operationOf m.1.name) ⟨targetBase m.1.name⟩ m.2

/-- The conversion to nanoseconds: `value *= 1000` for `µs`, `value *= 1_000_000` for `ms`. -/
def toNanos (unit : List Char) (v : F) : F :=
  if unit = "µs".data then v * PyFloat.ofNat 1000
  else if unit = "ms".data then v * PyFloat.ofNat 1000000
  else v

/-- `value = float(result_match.group(2))`, in nanoseconds; `float` raises on a malformed
number. -/
def measuredValue (r : ResultLine) : Except ValueError F :=
  match pyFloat r.number with
  | some v => pure (toNanos r.unit v)
  | none => throw ⟨r.number⟩

/-- The name class of `parse_bench.py`'s result pattern: `[\w_]`. -/
def targetChar (c : Char) : Bool := isWord c || c == '_'

/-- `[\w_]` is `\w`: the underscore is a word character. -/
lemma targetChar_eq : targetChar = isWord := by
  funext c
  by_cases hc : c = '_'
  · subst hc; simp [targetChar, isWord_of_ascii (c := '_') (by decide), asciiWord]
  · simp [targetChar, hc]

/-- `parse_divan_output` of `parse_bench.py` as a section loop. -/
def divanFormat : SectionFormat ResultLine (OpTables F) where
  header := moduleName
  entry := resultMatch targetChar
  fresh := .empty
  record r t := do
    let v ← measuredValue r
    pure (t.store (r, v))
  header_ne := moduleName_ne

/-- `parse_divan_output(text)` of `parse_bench.py`: benchmark, then operation, then target, to
the median time in nanoseconds. -/
def parseDivanOutput (text : String) : Except ValueError (PyDict String (OpTables F)) :=
  sectionLoop divanFormat text

/-- The sections both versions cut a text into: the section pattern is the same. -/
def divanSections (text : String) : List (String × List (List Char)) :=
  (splitSections moduleName (text.data.splitOn '\n')).2

lemma sectionsOf_divanFormat (text : String) :
    sectionsOf (divanFormat (F := F)) text = divanSections text := rfl

namespace Legacy

/-- `parse_divan_output` of `parse-bench.py` as a section loop. -/
def divanFormat : SectionFormat ResultLine (PyDict String F) where
  header := moduleName
  entry := resultMatch isWord
  fresh := ∅
  record r t := do
    let v ← measuredValue r
    pure (t.insert ⟨r.name⟩ v)
  header_ne := moduleName_ne

/-- `parse_divan_output(text)` of `parse-bench.py`: benchmark, then full result name, to the
median time in nanoseconds. -/
def parseDivanOutput (text : String) : Except ValueError (PyDict String (PyDict String F)) :=
  sectionLoop divanFormat text

lemma sectionsOf_divanFormat (text : String) :
    sectionsOf (divanFormat (F := F)) text = divanSections text := rfl

end Legacy

/-! ### A section's table from its measurements -/

/-- The result lines of a section with their times in nanoseconds, or the first number that
`float` rejects. -/
def measurements (nameClass : Char → Bool) (blk : List (List Char)) :
    Except ValueError (List (ResultLine × F)) :=
  (blk.filterMap (resultMatch nameClass)).mapM fun r => (r, ·) <$> measuredValue r

lemma measurements_cons (nameClass : Char → Bool) (l : List Char) (blk : List (List Char)) :
    measurements (F := F) nameClass (l :: blk) =
      match resultMatch nameClass l with
      | some r => do
        let v ← measuredValue r
        let ms ← measurements nameClass blk
        pure ((r, v) :: ms)
      | none => measurements nameClass blk := by
  unfold measurements
  cases h : resultMatch nameClass l <;>
    simp only [List.filterMap_cons, h, List.mapM_cons, map_eq_pure_bind, bind_assoc, pure_bind]

/-- Both divan formats store each measurement by a function of the table, the line and the
time; their sections' tables are then folds over the section's measurements. -/
lemma foldlM_entryStep_divan {T : Type} (fmt : SectionFormat ResultLine T) (nameClass : Char → Bool)
    (store : T → ResultLine × F → T) (hentry : fmt.entry = resultMatch nameClass)
    (hrecord : ∀ r t, fmt.record r t = (fun v => store t (r, v)) <$> measuredValue r)
    (blk : List (List Char)) (t₀ : T) :
    blk.foldlM (entryStep fmt) t₀ =
      (fun ms => ms.foldl store t₀) <$> measurements nameClass blk := by
  rw [foldlM_entryStep_of_convert fmt measuredValue store hrecord, hentry]
  rfl

lemma measuredValue_ok_iff (r : ResultLine) :
    (∃ v, measuredValue (F := F) r = .ok v) ↔ (pyFloat (F := F) r.number).isSome := by
  unfold measuredValue
  cases pyFloat (F := F) r.number <;> simp [pure, Except.pure, throw, throwThe, MonadExceptOf.throw]

/-- A section's measurements can be taken exactly when `float` accepts each of its numbers. -/
lemma measurements_ok_iff (nameClass : Char → Bool) (blk : List (List Char)) :
    (∃ ms, measurements (F := F) nameClass blk = .ok ms) ↔
      ∀ r ∈ blk.filterMap (resultMatch nameClass), (pyFloat (F := F) r.number).isSome := by
  simp only [measurements, mapM_ok_exists_iff, exists_map_eq_ok, measuredValue_ok_iff]

/-- A section's measurements are its result lines, in order. -/
lemma measurements_map_fst {nameClass : Char → Bool} {blk : List (List Char)}
    {ms : List (ResultLine × F)} (h : measurements nameClass blk = .ok ms) :
    ms.map Prod.fst = blk.filterMap (resultMatch nameClass) := by
  have hms := (mapM_eq_ok_iff _).mp h
  clear h
  generalize blk.filterMap (resultMatch nameClass) = rs at hms ⊢
  induction hms with
  | nil => rfl
  | cons hm _ ih =>
    obtain ⟨v, _, rfl⟩ := (map_eq_ok_iff _ _ _).mp hm
    simp [ih]

lemma tableOf_divanFormat (blk : List (List Char)) :
    tableOf divanFormat blk =
      (fun ms => ms.foldl OpTables.store .empty) <$> measurements (F := F) targetChar blk :=
  foldlM_entryStep_divan divanFormat targetChar OpTables.store rfl
    (fun _ _ => by simp only [divanFormat, bind_pure_comp]) blk _

lemma tableOf_legacy_divanFormat (blk : List (List Char)) :
    tableOf Legacy.divanFormat blk = (fun ms => ms.foldl (fun t m => t.insert ⟨m.1.name⟩ m.2) ∅) <$>
        measurements (F := F) isWord blk :=
  foldlM_entryStep_divan Legacy.divanFormat isWord (fun t m => t.insert ⟨m.1.name⟩ m.2) rfl
    (fun _ _ => by simp only [Legacy.divanFormat, bind_pure_comp]) blk _

end BenchReport
