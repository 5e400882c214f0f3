import BenchReport.Gungraun.RoundTrip

/-!
# The older gungraun parser

`parse-bench.py`, the older version of the script, reads gungraun's report with the same loop and
the same benchmark pattern as `parse_bench.py`. Its metric pattern is
`\s+(\w+(?:\s+\w+)*):\s+([\d,]+)`, whose label starts and ends with a word character, and its
`int` has no `try` around it.

Both metric patterns are whitespace, a label in a group, a colon and the same tail
(`metricShape`). The older one reads a line exactly when the newer one reads it with a label that
`strip` leaves alone, and then with the same groups (`legacy_metricMatch_eq_some_iff`). The older
parser raises exactly when a section has a metric line whose count has no digit or more than
`maxStrDigits` of them (`legacy_parseGungraunOutput_ok_iff`). When every metric line under a
section has a label without whitespace around it and a count `int` accepts, the two versions
return the same dictionary
(`legacy_parseGungraunOutput_eq_of`); the report as gungraun prints it is such a text
(`legacy_parseGungraunOutput_gungraunText`).
-/

namespace BenchReport

open PyUnicode

section

variable [PyUnicode]

namespace Legacy

/-- `\w+(?:\s+\w+)*`, the label of the older metric pattern. -/
def labelRe : Re := .seq (.plus isWord) (.rep (.seq (.plus isSpace) (.plus isWord)))

/-- `r'\s+(\w+(?:\s+\w+)*):\s+([\d,]+)'`. -/
def metricRe : Re :=
  .seqs [.plus isSpace, .group labelRe, .chr ':', .plus isSpace, .group (.plus countChar)]

/-- `metric_match.group(1)`, `.group(2)`. -/
def metricMatch (line : List Char) : Option MetricLine :=
  match reMatch metricRe line with
  | some [label, count] => some ⟨label, count⟩
  | _ => none

/-- `int(metric_match.group(2).replace(',', ''))`: `ValueError` when no digit is left. -/
def metricValue (r : MetricLine) : Except ValueError ℕ :=
  match pyInt (removeAll [','] r.count) with
  | some v => pure v
  | none => throw ⟨removeAll [','] r.count⟩

/-- `parse_gungraun_output` of `parse-bench.py` as a section loop. -/
def gungraunFormat : SectionFormat MetricLine (PyDict String ℕ) where
  header := benchName
  entry := metricMatch
  fresh := ∅
  record r t := do
    let v ← metricValue r
    pure (t.insert ⟨strip r.label⟩ v)
  header_ne := benchName_ne

/-- `parse_gungraun_output(text)` of `parse-bench.py`: benchmark, then metric, to the count. -/
def parseGungraunOutput (text : String) : Except ValueError (PyDict String (PyDict String ℕ)) :=
  sectionLoop gungraunFormat text

end Legacy

/-! ### The two metric patterns -/

/-- `\s+([\d,]+)`, what both metric patterns read after the colon. -/
def countTail : Re := .seqs [.plus isSpace, .group (.plus countChar)]

/-- A metric pattern with label pattern `label`. -/
def metricShape (label : Re) : Re :=
  .seqs [.plus isSpace, .group label, .chr ':', .plus isSpace, .group (.plus countChar)]

lemma metricRe_eq : metricRe = metricShape (.plus labelChar) := rfl

lemma Legacy.metricRe_eq : Legacy.metricRe = metricShape Legacy.labelRe := rfl

lemma reMatch_metricShape (L : Re) (line : List Char) :
    reMatch (metricShape L) line =
      (Re.plus isSpace).go line [] fun s gs => (Re.group L).go s gs fun s gs =>
        (Re.chr ':').go s gs fun s gs => countTail.go s gs fun _ gs => some gs :=
  rfl

/-- The tail reads a count of `[\d,]` characters, the last group. -/
lemma countTail_sound {rest : List Char} {g gs : List (List Char)}
    (h : countTail.go rest g (fun _ gs => some gs) = some gs) :
    ∃ count, gs = g ++ [count] ∧ ∀ c ∈ count, countChar c = true := by
  obtain ⟨s', g', hm, hk⟩ := Re.go_sound h
  obtain ⟨_, _, _, hsp, hgroup, rfl⟩ := Re.matches_seq.mp hm
  obtain ⟨-, -, -, -, rfl⟩ := Re.matches_plus.mp hsp
  obtain ⟨_, _, _, hg, heps, rfl⟩ := Re.matches_seq.mp hgroup
  obtain ⟨-, rfl⟩ := Re.matches_eps.mp heps
  obtain ⟨count, _, hc, rfl, rfl⟩ := Re.matches_group.mp hg
  obtain ⟨u, -, hu, heq, rfl⟩ := Re.matches_plus.mp hc
  obtain rfl := List.append_cancel_right heq
  exact ⟨count, by simpa using hk.symm, hu⟩

/-- What a metric pattern reads: whitespace, a label that its label pattern matches up to the
colon, and the tail, which gives the groups. -/
lemma metricShape_sound {L : Re} {line : List Char} {gs : List (List Char)}
    (h : reMatch (metricShape L) line = some gs) :
    ∃ sp label rest g, line = sp ++ (label ++ ':' :: rest) ∧ sp ≠ [] ∧
      (∀ c ∈ sp, isSpace c = true) ∧ Re.Matches L (label ++ ':' :: rest) (':' :: rest) g ∧
      countTail.go rest (g ++ [label]) (fun _ gs => some gs) = some gs := by
  rw [reMatch_metricShape] at h
  obtain ⟨s₁, g₁, hm₁, h₁⟩ := Re.go_sound h
  obtain ⟨sp, hsp, hspc, rfl, rfl⟩ := Re.matches_plus.mp hm₁
  obtain ⟨s₂, g₂, hm₂, h₂⟩ := Re.go_sound h₁
  obtain ⟨label, g, hm, rfl, rfl⟩ := Re.matches_group.mp hm₂
  cases s₂ with
  | nil => simp at h₂
  | cons c rest =>
    simp only [Re.go_chr_cons] at h₂
    split_ifs at h₂ with hc
    subst hc
    exact ⟨sp, label, rest, g, rfl, hsp, hspc, hm, by simpa using h₂⟩

/-- A metric pattern reads whitespace, then a label that its label pattern takes up to the colon
at its first try, then the tail. -/
lemma reMatch_metricShape_of {L : Re} {sp label rest : List Char} {gs : List (List Char)}
    (hsp : sp ≠ []) (hspc : ∀ c ∈ sp, isSpace c = true)
    (hlabel : Re.Stops isSpace (label ++ ':' :: rest))
    (hL : ∀ {k : List Char → List (List Char) → Option (List (List Char))} {x},
      k (':' :: rest) [] = some x → L.go (label ++ ':' :: rest) [] k = some x)
    (htail : countTail.go rest [label] (fun _ gs => some gs) = some gs) :
    reMatch (metricShape L) (sp ++ (label ++ ':' :: rest)) = some gs := by
  rw [reMatch_metricShape]
  refine Re.go_plus_append hsp hspc hlabel ?_
  simp only [Re.go_group]
  exact hL (by simpa using htail)

/-! ### The labels they read -/

lemma labelChar_colon : labelChar ':' = false := by simp [labelChar, isWord_colon, isSpace_colon]

lemma word_of_labelChar {c : Char} (h : labelChar c = true) (hs : isSpace c = false) :
    isWord c = true := by
  simpa [labelChar, hs] using h

/-- `\w+(?:\s+\w+)*` takes a label of word characters and whitespace that `strip` leaves alone, when
what follows it starts with neither. -/
lemma Legacy.labelRe_go {α : Type} {label rest : List Char} {gs : List (List Char)}
    {k : List Char → List (List Char) → Option α} {x : α} (hne : label ≠ [])
    (hchars : ∀ c ∈ label, labelChar c = true) (hstrip : strip label = label)
    (hs : Re.Stops isSpace rest) (hw : Re.Stops isWord rest) (hk : k rest gs = some x) :
    Legacy.labelRe.go (label ++ rest) gs k = some x := by
  obtain ⟨hhead, hlast⟩ := strip_eq_self_iff.mp hstrip
  have hsplit := List.takeWhile_append_dropWhile isWord label
  set w := label.takeWhile isWord
  set v := label.dropWhile isWord
  have hwne : w ≠ [] := by
    obtain ⟨c, l, rfl⟩ := List.exists_cons_of_ne_nil hne
    have hc := word_of_labelChar (hchars c (List.mem_cons_self c l)) (hhead c rfl)
    simp [w, List.takeWhile_cons_of_pos hc]
  have hv : Re.Alternating isSpace isWord v := by
    refine ⟨fun c hc => ?_, fun c hc => ?_, fun c hc => ?_⟩
    · rw [Bool.or_comm]
      exact hchars c ((List.dropWhile_sublist isWord).subset hc)
    · have hc' := hchars c ((List.dropWhile_sublist isWord).subset (List.mem_of_mem_head? hc))
      simpa [labelChar, Re.stops_dropWhile label c hc] using hc'
    · have hvne : v ≠ [] := List.ne_nil_of_mem (List.mem_of_mem_getLast? hc)
      have hcl : c ∈ label.getLast? := by
        rwa [← hsplit, List.getLast?_append_of_ne_nil _ hvne]
      exact word_of_labelChar (hchars c (List.mem_of_mem_getLast? hcl)) (hlast c hcl)
  have hvw : Re.Stops isWord (v ++ rest) := by
    rcases eq_or_ne v [] with hv0 | hv0
    · rwa [hv0]
    · exact Re.stops_append hv0 (Re.stops_dropWhile label)
  rw [← hsplit, List.append_assoc, Legacy.labelRe, Re.go_seq]
  refine Re.go_plus_append hwne (fun c => List.mem_takeWhile_imp) hvw ?_
  rw [Re.go_rep]
  exact Re.repeatGo_alternating (fun c hc => Bool.eq_false_iff.mpr fun hw' =>
    by simp [not_space_of_word c hw'] at hc) hs hw hk _ v (by simp only [List.length_append]; omega) hv

/-- What `\w+(?:\s+\w+)*` matches: a label of word characters and whitespace that `strip` leaves
alone; it captures nothing. -/
lemma Legacy.labelRe_sound {s s' : List Char} {g : List (List Char)}
    (h : Re.Matches Legacy.labelRe s s' g) :
    ∃ label, s = label ++ s' ∧ label ≠ [] ∧ (∀ c ∈ label, labelChar c = true) ∧
      strip label = label ∧ g = [] := by
  obtain ⟨s₁, _, _, hw, hrep, rfl⟩ := Re.matches_seq.mp h
  obtain ⟨w, hwne, hww, rfl, rfl⟩ := Re.matches_plus.mp hw
  obtain ⟨v, rfl, hv, rfl⟩ := hrep.alternating
  refine ⟨w ++ v, by simp, by simp [hwne], ?_, strip_eq_self_iff.mpr ⟨?_, ?_⟩, rfl⟩ <;>
    intro c hc
  · rcases List.mem_append.mp hc with hc | hc
    · simp [labelChar, hww c hc]
    · simpa [labelChar, Bool.or_comm] using hv.chars c hc
  · obtain ⟨d, w, rfl⟩ := List.exists_cons_of_ne_nil hwne
    obtain rfl : d = c := by simpa using hc
    exact not_space_of_word _ (hww _ (List.mem_cons_self _ w))
  · rcases eq_or_ne v [] with rfl | hvne
    · rw [List.append_nil] at hc
      exact not_space_of_word c (hww c (List.mem_of_mem_getLast? hc))
    · rw [List.getLast?_append_of_ne_nil _ hvne] at hc
      exact not_space_of_word c (hv.last c hc)

/-! ### One line -/

omit [PyUnicode] in
/-- The groups of a metric pattern's match, as both versions take them. -/
lemma metricGroups_eq_some_iff (o : Option (List (List Char))) (r : MetricLine) :
    (match o with
      | some [label, count] => some (⟨label, count⟩ : MetricLine)
      | _ => none) = some r ↔ o = some [r.label, r.count] := by
  split
  · cases r; simp
  · rename_i h
    simpa using h r.label r.count

lemma metricMatch_eq_some {line : List Char} {r : MetricLine} :
    metricMatch line = some r ↔ reMatch metricRe line = some [r.label, r.count] :=
  metricGroups_eq_some_iff _ r

lemma Legacy.metricMatch_eq_some {line : List Char} {r : MetricLine} :
    Legacy.metricMatch line = some r ↔ reMatch Legacy.metricRe line = some [r.label, r.count] :=
  metricGroups_eq_some_iff _ r

/-- The older metric pattern reads a line exactly when the newer one reads it with a label that
`strip` leaves alone, and then with the same groups. -/
lemma legacy_reMatch_metricRe_iff {line label count : List Char} :
    reMatch Legacy.metricRe line = some [label, count] ↔
      reMatch metricRe line = some [label, count] ∧ strip label = label := by
  rw [Legacy.metricRe_eq, metricRe_eq]
  constructor
  · intro h
    obtain ⟨sp, lab, rest, g, rfl, hsp, hspc, hm, htail⟩ := metricShape_sound h
    obtain ⟨lab', heq, hne, hchars, hstrip, rfl⟩ := Legacy.labelRe_sound hm
    obtain rfl := List.append_cancel_right heq
    obtain ⟨count', hgs, -⟩ := countTail_sound htail
    obtain ⟨rfl, rfl⟩ : label = lab ∧ count = count' := by simpa using hgs
    exact ⟨reMatch_metricShape_of hsp hspc (Re.stops_append hne (strip_eq_self_iff.mp hstrip).1)
      (fun hk => Re.go_plus_append hne hchars (by simp [labelChar_colon]) hk) htail, hstrip⟩
  · rintro ⟨h, hstrip⟩
    obtain ⟨sp, lab, rest, g, rfl, hsp, hspc, hm, htail⟩ := metricShape_sound h
    obtain ⟨lab', hne, hchars, heq, rfl⟩ := Re.matches_plus.mp hm
    obtain rfl := List.append_cancel_right heq
    obtain ⟨count', hgs, -⟩ := countTail_sound htail
    obtain ⟨rfl, rfl⟩ : label = lab ∧ count = count' := by simpa using hgs
    exact reMatch_metricShape_of hsp hspc (Re.stops_append hne (strip_eq_self_iff.mp hstrip).1)
      (fun hk => Legacy.labelRe_go hne hchars hstrip (by simp [isSpace_colon])
        (by simp [isWord_colon]) hk) htail

/-- The older metric pattern reads exactly the lines that the newer one reads with a label that
`strip` leaves alone, and with the same label and count. -/
theorem legacy_metricMatch_eq_some_iff (line : List Char) (r : MetricLine) :
    Legacy.metricMatch line = some r ↔ metricMatch line = some r ∧ strip r.label = r.label := by
  rw [Legacy.metricMatch_eq_some, metricMatch_eq_some, legacy_reMatch_metricRe_iff]

/-- A count that a metric line gives is made of digits and commas. -/
lemma metricMatch_count {line : List Char} {r : MetricLine} (h : metricMatch line = some r) :
    ∀ c ∈ r.count, countChar c = true := by
  rw [metricMatch_eq_some, metricRe_eq] at h
  obtain ⟨sp, lab, rest, g, -, -, -, hm, htail⟩ := metricShape_sound h
  obtain ⟨count, hgs, hc⟩ := countTail_sound htail
  obtain ⟨-, -, -, -, rfl⟩ := Re.matches_plus.mp hm
  obtain ⟨-, hcount⟩ : r.label = lab ∧ r.count = count := by simpa using hgs
  exact hcount ▸ hc

lemma legacy_metricMatch_count {line : List Char} {r : MetricLine}
    (h : Legacy.metricMatch line = some r) : ∀ c ∈ r.count, countChar c = true := by
  rw [Legacy.metricMatch_eq_some, legacy_reMatch_metricRe_iff] at h
  exact metricMatch_count (metricMatch_eq_some.mpr h.1)

/-! ### What a section stores -/

/-- The value of a count with a digit and at most `maxStrDigits` of them; the `ValueError` of
`int` for any other. -/
lemma Legacy.metricValue_eq {r : MetricLine} (h : ∀ c ∈ r.count, countChar c = true) :
    Legacy.metricValue r =
      if (∃ c ∈ r.count, (digit c).isSome) ∧ (r.count.filter (· ≠ ',')).length ≤ maxStrDigits then
        .ok (digitsValue ((r.count.filter (· ≠ ',')).filterMap digit))
      else .error ⟨r.count.filter (· ≠ ',')⟩ := by
  rw [Legacy.metricValue, removeAll_singleton, pyInt_count h]
  split_ifs <;> rfl

lemma Legacy.tableOf_gungraunFormat (blk : List (List Char)) :
    tableOf Legacy.gungraunFormat blk =
      (fun ms => ms.foldl (fun t m => t.insert ⟨strip m.1.label⟩ m.2) ∅) <$>
        (blk.filterMap Legacy.metricMatch).mapM fun r => (r, ·) <$> Legacy.metricValue r :=
  foldlM_entryStep_of_convert _ Legacy.metricValue _
    (fun _ _ => by simp only [Legacy.gungraunFormat, bind_pure_comp]) blk _

lemma Legacy.metricValue_lt {r : MetricLine} {v : ℕ} (h : Legacy.metricValue r = .ok v) :
    v < 10 ^ maxStrDigits := by
  unfold Legacy.metricValue at h
  split at h
  · cases h
    exact pyInt_lt ‹_›
  · cases h

/-- The counts the older parser returns are ones `int` read, so none is too long to be written
back. -/
lemma Legacy.countsFit_of_parse {text : String} {G : PyDict String (PyDict String ℕ)}
    (h : Legacy.parseGungraunOutput text = .ok G) : CountsFit G := by
  rw [Legacy.parseGungraunOutput, sectionLoop_eq, map_eq_ok_iff] at h
  obtain ⟨ts, hts, rfl⟩ := h
  intro m hm n hn
  obtain ⟨_, hbm, rfl⟩ := List.mem_map.mp (PyDict.mem_values_insertAll hm)
  obtain ⟨s, -, hs⟩ := mem_of_mapM_eq_ok hts hbm
  obtain ⟨t, ht, htm⟩ := (map_eq_ok_iff _ _ _).mp hs
  cases htm
  rw [Legacy.tableOf_gungraunFormat, map_eq_ok_iff] at ht
  obtain ⟨ms, hms, rfl⟩ := ht
  have hfold : ms.foldl (fun t m => t.insert ⟨strip m.1.label⟩ m.2) ∅ =
      (∅ : PyDict String ℕ).insertAll (ms.map fun m => (⟨strip m.1.label⟩, m.2)) := by
    simp only [PyDict.insertAll, List.foldl_map]
  rw [hfold] at hn
  obtain ⟨_, hkn, rfl⟩ := List.mem_map.mp (PyDict.mem_values_insertAll hn)
  obtain ⟨⟨r, v⟩, hrv, rfl⟩ := List.mem_map.mp hkn
  obtain ⟨r', -, hr'⟩ := mem_of_mapM_eq_ok hms hrv
  obtain ⟨v', hv', hrv'⟩ := (map_eq_ok_iff _ _ _).mp hr'
  cases hrv'
  exact Legacy.metricValue_lt hv'

/-- The older parser returns, rather than raising, exactly when every metric line under a section
has a count of at least one digit and at most `maxStrDigits` of them: `int` raises on a count made
of commas only and on a longer one. -/
theorem legacy_parseGungraunOutput_ok_iff (text : String) :
    (∃ R, Legacy.parseGungraunOutput text = .ok R) ↔
      ∀ s ∈ sectionsOf Legacy.gungraunFormat text, ∀ r ∈ s.2.filterMap Legacy.metricMatch,
        (∃ c ∈ r.count, (digit c).isSome) ∧ (r.count.filter (· ≠ ',')).length ≤ maxStrDigits := by
  rw [Legacy.parseGungraunOutput, sectionLoop_ok_iff]
  refine forall₂_congr fun s _ => ?_
  rw [Legacy.tableOf_gungraunFormat, exists_map_eq_ok, mapM_ok_exists_iff]
  refine forall₂_congr fun r hr => ?_
  obtain ⟨l, -, hl⟩ := List.mem_filterMap.mp hr
  rw [exists_map_eq_ok, Legacy.metricValue_eq (legacy_metricMatch_count hl)]
  split_ifs with hd
  · exact iff_of_true ⟨_, rfl⟩ hd
  · exact iff_of_false (fun ⟨_, h⟩ => by cases h) hd

/-! ### When the two versions agree -/

/-- A section each of whose metric lines has a label that `strip` leaves alone and a count that
`int` reads gets the same table from both versions. -/
lemma legacy_tableOf_eq {blk : List (List Char)}
    (h : ∀ r ∈ blk.filterMap metricMatch, strip r.label = r.label ∧
      (∃ c ∈ r.count, (digit c).isSome) ∧ (r.count.filter (· ≠ ',')).length ≤ maxStrDigits) :
    tableOf Legacy.gungraunFormat blk = tableOf gungraunFormat blk := by
  have hmatch : blk.filterMap Legacy.metricMatch = blk.filterMap metricMatch :=
    List.filterMap_congr fun l hl => Option.ext fun r => by
      show _ = some r ↔ _ = some r
      rw [Legacy.metricMatch_eq_some, legacy_reMatch_metricRe_iff, ← metricMatch_eq_some]
      exact and_iff_left_of_imp fun hm => (h r (List.mem_filterMap.mpr ⟨l, hl, hm⟩)).1
  have hvalue : ∀ r ∈ blk.filterMap metricMatch, Legacy.metricValue r =
      .ok (digitsValue ((r.count.filter (· ≠ ',')).filterMap digit)) := fun r hr => by
    obtain ⟨l, -, hl⟩ := List.mem_filterMap.mp hr
    rw [Legacy.metricValue_eq (metricMatch_count hl), if_pos (h r hr).2]
  have hentry : ∀ r ∈ blk.filterMap metricMatch, metricEntry r =
      some (⟨strip r.label⟩, digitsValue ((r.count.filter (· ≠ ',')).filterMap digit)) :=
    fun r hr => by
      obtain ⟨l, -, hl⟩ := List.mem_filterMap.mp hr
      rw [metricEntry, valueStr_eq (metricMatch_count hl), pyInt_count (metricMatch_count hl),
        if_pos (h r hr).2]
      rfl
  have hof : blk.filterMap metricOf = (blk.filterMap metricMatch).map fun r =>
      ((⟨strip r.label⟩ : String), digitsValue ((r.count.filter (· ≠ ',')).filterMap digit)) :=
    (List.filterMap_filterMap _ _ _).symm.trans
      ((List.filterMap_congr hentry).trans (congrFun (List.filterMap_eq_map _) _))
  rw [Legacy.tableOf_gungraunFormat, tableOf_gungraunFormat, hmatch, hof,
    mapM_eq_ok_map fun r hr => by rw [hvalue r hr]; rfl]
  simp only [Functor.map, Except.map, PyDict.insertAll, List.foldl_map]

/-- When every metric line under a section has a label without whitespace around it and a count
that `int` reads, both versions return the same dictionary. -/
lemma legacy_parseGungraunOutput_eq_of {text : String}
    (h : ∀ s ∈ sectionsOf gungraunFormat text, ∀ r ∈ s.2.filterMap metricMatch,
      strip r.label = r.label ∧
        (∃ c ∈ r.count, (digit c).isSome) ∧ (r.count.filter (· ≠ ',')).length ≤ maxStrDigits) :
    Legacy.parseGungraunOutput text = parseGungraunOutput text := by
  rw [Legacy.parseGungraunOutput, parseGungraunOutput, sectionLoop_eq, sectionLoop_eq]
  exact congrArg _ (sectionTables_congr _ fun s hs => legacy_tableOf_eq (h s hs))

/-- On the report as gungraun prints it, the older parser returns what the newer one returns. -/
theorem legacy_parseGungraunOutput_gungraunText (secs : List GungraunSection) :
    Legacy.parseGungraunOutput (gungraunText secs) = parseGungraunOutput (gungraunText secs) := by
  refine legacy_parseGungraunOutput_eq_of fun s hs r hr => ?_
  rw [sectionsOf_gungraunText] at hs
  obtain ⟨sec, -, rfl⟩ := List.mem_map.mp hs
  obtain ⟨l, hl, hr⟩ := List.mem_filterMap.mp hr
  obtain ⟨m, -, rfl⟩ := List.mem_map.mp hl
  rw [metricMatch_text] at hr
  cases hr
  exact ⟨strip_eq_self m.label_trim.1 m.label_trim.2, m.count_digit, m.count_digits⟩

end

/-! ### Where the versions differ -/

/-- A label with a space before the colon is read by the newer pattern only. -/
example : Legacy.metricMatch "  Instructions :  5".data = none ∧
    metricMatch "  Instructions :  5".data = some ⟨"Instructions ".data, "5".data⟩ := by
  decide

/-- A count of commas only stops the older parser; the newer one skips the line. -/
example : Legacy.parseGungraunOutput "gungraun_jit::jit::simple_struct\n  Instructions:  ,," =
      .error ⟨[]⟩ ∧
    parseGungraunOutput "gungraun_jit::jit::simple_struct\n  Instructions:  ,," =
      .ok ((∅ : PyDict String (PyDict String ℕ)).insert "simple_struct" ∅) := by
  decide

end BenchReport
