/-
DiagonBench.Regression.CheckTheorems — what `check_regressions` decides.

The spec's data model (§3) gives every benchmark a string name and a
numeric time; `WellTyped` says a loaded map is of that model. On two such
maps whose common baselines are positive, the analysis loop returns one
analysis per common name, in ascending name order (`analyzeAll_forall₂`),
and the report prints without raising. The verdict is then `False` exactly
when some common name slowed by more than 20%
(`checkRegressions_false_iff_critical`).

Three facts carry the proofs. `analyzeName_eq_ok_iff` states once what the
loop body returns. `printReport_result_iff` says when the report prints:
every analysis formats and both name sets sort, whatever the buckets.
`determinePassFail_result` is the verdict. The monotonicity theorem
compares two runs through the first two, never through the report's text.

A common name with a zero baseline is not excluded: the loop divides by
it, `ZeroDivisionError` escapes, and the process exits 1
(`checkLoaded_zero_baseline`). An empty intersection returns `False`,
which `main` also maps to 1 (`exitCode_main_noCommon`).
-/
import DiagonBench.Regression.Check
import DiagonBench.Regression.LoadTheorems

namespace DiagonBench.Regression

open DiagonBench.Python

/-! ## Loaded maps of the spec's data model -/

/-- The spec's data model for a loaded map: every name is a string and every
time a number. -/
def WellTyped (d : PyDict BenchmarkResult) : Prop :=
  ∀ k r, d.get? k = some r → k.IsStr ∧ ∃ t, r.timeNs.toNum? = some t

/-- Every name the two maps share has a positive baseline time. -/
def PositiveBaselines (B C : PyDict BenchmarkResult) : Prop :=
  ∀ n ∈ B.keys ∩ C.keys, ∀ r, B.get? n = some r → ∃ b, r.timeNs.toNum? = some b ∧ 0 < b

/-- `a` is what the loop body computes for `n`: both records exist, both
times are numbers, the baseline is nonzero, and `a` holds the change. -/
def IsAnalysisOf (B C : PyDict BenchmarkResult) (n : PyKey) (a : RegressionAnalysis) : Prop :=
  ∃ rb rc b c, B.get? n = some rb ∧ C.get? n = some rc ∧ rb.timeNs.toNum? = some b ∧ b ≠ 0 ∧
    rc.timeNs.toNum? = some c ∧
    a = { name := rb.name, baselineNs := rb.timeNs, currentNs := rc.timeNs,
          regressionPct := regressionPctOf b c, level := severityLevel (regressionPctOf b c) }

section Body

variable {B C : PyDict BenchmarkResult} {n : PyKey}

/-- The loop body returns exactly the analysis of its name. -/
theorem analyzeName_eq_ok_iff {a : RegressionAnalysis} :
    analyzeName B C n = .ok a ↔ IsAnalysisOf B C n a := by
  constructor
  · intro h
    unfold analyzeName PyDict.getItem at h
    cases hb : B.get? n with
    | none => simp [hb, bind, Except.bind] at h
    | some rb =>
      cases hc : C.get? n with
      | none => simp [hb, hc, bind, Except.bind] at h
      | some rc =>
        simp only [hb, hc, bind, Except.bind] at h
        obtain ⟨b, c, hbt, hb0, hct, rfl⟩ := analyzeRegression_ok h
        exact ⟨rb, rc, b, c, hb, hc, hbt, hb0, hct, rfl⟩
  · rintro ⟨rb, rc, b, c, hb, hc, hbt, hb0, hct, rfl⟩
    rw [analyzeName_eq hb hc, analyzeRegression_eq hbt hb0 hct]

/-- A string-keyed map's subsets sort. -/
theorem sortable_of_subset {d : PyDict BenchmarkResult} {s : Finset PyKey} (hw : WellTyped d)
    (hs : s ⊆ d.keys) : Sortable s :=
  sortable_of_isStr fun k hk => by
    obtain ⟨r, hr⟩ := PyDict.mem_keys_iff_get?.mp (hs hk)
    exact (hw k r hr).1

/-- In a loaded map of the data model a key and its record's name are one string. -/
theorem name_eq_str {d : PyDict BenchmarkResult} {r : BenchmarkResult} (hn : NamesMatch d)
    (hw : WellTyped d) (hr : d.get? n = some r) : ∃ s, n = .str s ∧ r.name = .str s := by
  obtain ⟨hstr, -⟩ := hw n r hr
  cases n with
  | str s => exact ⟨s, rfl, hashKey?_eq_str.mp (hn _ r hr)⟩
  | _ => exact hstr.elim

/-- Under the data model, a common name with a positive baseline is analysed. -/
theorem isAnalysisOf_exists (hwC : WellTyped C) (hpos : PositiveBaselines B C)
    (hn : n ∈ B.keys ∩ C.keys) : ∃ a, IsAnalysisOf B C n a := by
  obtain ⟨hnB, hnC⟩ := Finset.mem_inter.mp hn
  obtain ⟨rb, hb⟩ := PyDict.mem_keys_iff_get?.mp hnB
  obtain ⟨rc, hc⟩ := PyDict.mem_keys_iff_get?.mp hnC
  obtain ⟨b, hbt, hb0⟩ := hpos n hn rb hb
  obtain ⟨c, hct⟩ := (hwC n rc hc).2
  exact ⟨_, rb, rc, b, c, hb, hc, hbt, hb0.ne', hct, rfl⟩

/-- The analysis loop over the common names of two maps of the data model
returns one analysis per common name, in ascending name order. -/
theorem analyzeAll_forall₂ (hwB : WellTyped B) (hwC : WellTyped C)
    (hpos : PositiveBaselines B C) :
    ∃ analyses, analyzeAll B C (B.keys ∩ C.keys) = .ok analyses ∧
      List.Forall₂ (IsAnalysisOf B C) ((B.keys ∩ C.keys).sort (· ≤ ·)) analyses := by
  rw [analyzeAll_of_sortable (sortable_of_subset hwB Finset.inter_subset_left)]
  obtain ⟨analyses, h⟩ := mapM_ok_of_forall fun n hn => by
    obtain ⟨a, ha⟩ := isAnalysisOf_exists hwC hpos ((Finset.mem_sort (α := PyKey) (· ≤ ·)).mp hn)
    exact ⟨a, analyzeName_eq_ok_iff.mpr ha⟩
  exact ⟨analyses, h, (mapM_eq_ok.mp h).imp fun _ _ => analyzeName_eq_ok_iff.mp⟩

/-- A loaded map of the data model formats every analysis drawn from it. -/
theorem toText_ok_of_isAnalysisOf {a : RegressionAnalysis} (hn : NamesMatch B) (hwB : WellTyped B)
    (ha : IsAnalysisOf B C n a) : ∃ t, a.toText = .ok t := by
  obtain ⟨rb, rc, b, c, hb, hc, hbt, -, hct, rfl⟩ := ha
  obtain ⟨s, -, hs⟩ := name_eq_str hn hwB hb
  exact RegressionAnalysis.toText_ok hs hbt hct

/-- The critical bucket is non-empty exactly when some analysed name slowed
by more than 20%. -/
theorem bucket_critical_ne_nil_iff {names : List PyKey} {analyses : List RegressionAnalysis}
    (h : List.Forall₂ (IsAnalysisOf B C) names analyses) :
    bucket analyses .critical ≠ [] ↔
      ∃ n ∈ names, ∃ rb rc b c, B.get? n = some rb ∧ C.get? n = some rc ∧
        rb.timeNs.toNum? = some b ∧ rc.timeNs.toNum? = some c ∧ (c - b) / b * 100 > 20 := by
  rw [Ne, List.eq_nil_iff_forall_not_mem]
  simp only [mem_bucket, not_forall, not_not, exists_prop]
  constructor
  · rintro ⟨a, ha, hcrit⟩
    obtain ⟨n, hn, rb, rc, b, c, hb, hc, hbt, -, hct, rfl⟩ := forall₂_mem_right h ha
    exact ⟨n, hn, rb, rc, b, c, hb, hc, hbt, hct, severityLevel_eq_critical.mp hcrit⟩
  · rintro ⟨n, hn, rb, rc, b, c, hb, hc, hbt, hct, hgt⟩
    obtain ⟨a, ha, rb', rc', b', c', hb', hc', hbt', -, hct', rfl⟩ := forall₂_mem_left h hn
    simp only [hb, hc, Option.some.injEq] at hb' hc'
    subst hb' hc'
    simp only [hbt, hct, Option.some.injEq] at hbt' hct'
    subst hbt' hct'
    exact ⟨_, ha, severityLevel_eq_critical.mpr hgt⟩

/-- On maps of the data model the report of the analyses prints. -/
theorem printReport_ok_of_forall₂ {names : List PyKey} {analyses : List RegressionAnalysis}
    (hn : NamesMatch B) (hwB : WellTyped B) (hwC : WellTyped C)
    (h : List.Forall₂ (IsAnalysisOf B C) names analyses) :
    (printReport analyses (B.keys \ C.keys) (C.keys \ B.keys)).result = .ok () :=
  printReport_result.mpr ⟨fun a ha => by
      obtain ⟨n, -, han⟩ := forall₂_mem_right h ha
      exact toText_ok_of_isAnalysisOf hn hwB han,
    sortable_of_subset hwC Finset.sdiff_subset, sortable_of_subset hwB Finset.sdiff_subset⟩

end Body

/-! ## Documents of named timings

The witnesses run the script on small documents whose entries hold a string
`name` and a `real_time` in nanoseconds. -/

/-- The record the loader stores for such an entry. -/
def recordOf (name : String) (t : ℚ) : BenchmarkResult := ⟨.str name, .num t, .num 0, .str ""⟩

/-- `{"name": name, "real_time": t}`. -/
def entryOf (e : String × ℚ) : JsonValue := .obj [("name", .str e.1), ("real_time", .num e.2)]

/-- `{"benchmarks": [...]}`. -/
def docOf (es : List (String × ℚ)) : JsonValue := .obj [("benchmarks", .arr (es.map entryOf))]

/-- The dict the loader builds from `docOf es`. -/
def mapOf (es : List (String × ℚ)) : PyDict BenchmarkResult :=
  PyDict.empty.setAll (es.map fun e => (.str e.1, recordOf e.1 e.2))

/-- Parsed files at the given paths; every other path is missing. -/
def filesOf (files : List (String × JsonValue)) : FileSystem :=
  fun p => ((files.lookup p).map .json).getD .missing

theorem readEntry_entryOf (e : String × ℚ) :
    readEntry (entryOf e) = .ok (.str e.1, recordOf e.1 e.2) := rfl

theorem loadResults_docOf (es : List (String × ℚ)) : loadResults (docOf es) = .ok (mapOf es) := by
  have h : (es.map entryOf).mapM readEntry = .ok (es.map fun e => (.str e.1, recordOf e.1 e.2)) := by
    induction es with
    | nil => rfl
    | cons e es ih => rw [List.map_cons, List.mapM_cons, readEntry_entryOf, ih]; rfl
  show (es.map entryOf).foldlM loadEntry PyDict.empty = _
  rw [foldlM_loadEntry, h]; rfl

theorem get?_mapOf {es : List (String × ℚ)} {k : PyKey} {r : BenchmarkResult}
    (h : (mapOf es).get? k = some r) : ∃ e ∈ es, k = .str e.1 ∧ r = recordOf e.1 e.2 := by
  rw [mapOf, PyDict.get?_setAll, PyDict.get?_empty, Option.or_none] at h
  obtain ⟨l₁, l₂, hl, -⟩ := List.lookup_eq_some_iff.mp h
  have hmem : (k, r) ∈ (es.map fun e => (PyKey.str e.1, recordOf e.1 e.2)).reverse := by
    rw [hl]; simp
  obtain ⟨e, he, heq⟩ := List.mem_map.mp (List.mem_reverse.mp hmem)
  simp only [Prod.mk.injEq] at heq
  exact ⟨e, he, heq.1.symm, heq.2.symm⟩

theorem wellTyped_mapOf (es : List (String × ℚ)) : WellTyped (mapOf es) := fun _ _ h => by
  obtain ⟨e, -, rfl, rfl⟩ := get?_mapOf h
  exact ⟨trivial, e.2, rfl⟩

theorem positiveBaselines_mapOf {es : List (String × ℚ)} {C : PyDict BenchmarkResult}
    (h : ∀ e ∈ es, 0 < e.2) : PositiveBaselines (mapOf es) C := fun _ _ _ hr => by
  obtain ⟨e, he, -, rfl⟩ := get?_mapOf hr
  exact ⟨e.2, rfl, h e he⟩

/-! ## The verdict -/

/-- **What `check_regressions` builds.** For a loaded baseline map and a
current map of the data model whose common baselines are positive, the
analysis loop returns one analysis per common name, in strictly ascending
name order, each named by its key and holding the two records' times. The
four buckets are sublists of the analyses; each analysis lies in exactly
one, and their sizes add up to the `Total` the report prints. The common,
baseline-only and current-only names are pairwise disjoint and together
make up both key sets. -/
theorem checkLoaded_analyses_partition {dB : JsonValue} {B C : PyDict BenchmarkResult}
    (hB : loadResults dB = .ok B) (hwB : WellTyped B) (hwC : WellTyped C)
    (hpos : PositiveBaselines B C) :
    ∃ analyses, analyzeAll B C (B.keys ∩ C.keys) = .ok analyses ∧
      ((B.keys ∩ C.keys).sort (· ≤ ·)).Sorted (· < ·) ∧
      List.Forall₂ (fun n a => ∃ s rb rc, n = .str s ∧ a.name = .str s ∧ B.get? n = some rb ∧
        C.get? n = some rc ∧ a.baselineNs = rb.timeNs ∧ a.currentNs = rc.timeNs)
        ((B.keys ∩ C.keys).sort (· ≤ ·)) analyses ∧
      (∀ l, (bucket analyses l).Sublist analyses) ∧
      (∀ a ∈ analyses, ∃! l, a ∈ bucket analyses l) ∧
      (bucket analyses .improvement).length + (bucket analyses .acceptable).length +
        (bucket analyses .warning).length + (bucket analyses .critical).length =
        analyses.length ∧
      ((B.keys ∩ C.keys).Nonempty →
        (.stdout, .text ("  Total:         " ++ fmt3d analyses.length)) ∈ (checkLoaded B C).out) ∧
      Disjoint (B.keys ∩ C.keys) (B.keys \ C.keys) ∧ Disjoint (B.keys ∩ C.keys) (C.keys \ B.keys) ∧
      Disjoint (B.keys \ C.keys) (C.keys \ B.keys) ∧
      B.keys ∩ C.keys ∪ B.keys \ C.keys ∪ C.keys \ B.keys = B.keys ∪ C.keys := by
  obtain ⟨analyses, ha, h₂⟩ := analyzeAll_forall₂ hwB hwC hpos
  have hp := printReport_ok_of_forall₂ (namesMatch_loadResults hB) hwB hwC h₂
  refine ⟨analyses, ha, Finset.sort_sorted_lt _, h₂.imp fun n a han => ?_,
    fun _ => List.filter_sublist _,
    fun a ha => ⟨a.level, mem_bucket.mpr ⟨ha, rfl⟩, fun l hl => (mem_bucket.mp hl).2.symm⟩,
    length_buckets analyses, fun hne => ?_, Finset.disjoint_left.mpr fun _ h₁ h₂ => ?_,
    Finset.disjoint_left.mpr fun _ h₁ h₂ => ?_, Finset.disjoint_left.mpr fun _ h₁ h₂ => ?_, ?_⟩
  · obtain ⟨rb, rc, b, c, hb, hc, -, -, -, rfl⟩ := han
    obtain ⟨s, hs, hname⟩ := name_eq_str (namesMatch_loadResults hB) hwB hb
    exact ⟨s, rb, rc, hs, hname, hb, hc, rfl, rfl⟩
  · rw [checkLoaded_of_analyzeAll (Finset.nonempty_iff_ne_empty.mp hne) ha, Py.bind_of_ok hp]
    exact List.mem_append_left _ (total_mem_printReport hp)
  all_goals simp_all
  ext; simp only [Finset.mem_union, Finset.mem_inter, Finset.mem_sdiff]; tauto

/-- Spec scenario 3: `B` is common, `A` only in the baseline, `C` only in
the current run, and the report's `Total` counts the one analysis. -/
theorem checkLoaded_analyses_partition_scenario3 :
    loadResults (docOf [("A", 100), ("B", 200)]) = .ok (mapOf [("A", 100), ("B", 200)]) ∧
      WellTyped (mapOf [("A", 100), ("B", 200)]) ∧ WellTyped (mapOf [("B", 210), ("C", 50)]) ∧
      PositiveBaselines (mapOf [("A", 100), ("B", 200)]) (mapOf [("B", 210), ("C", 50)]) ∧
      ∃ analyses, analyzeAll (mapOf [("A", 100), ("B", 200)]) (mapOf [("B", 210), ("C", 50)])
          ((mapOf [("A", 100), ("B", 200)]).keys ∩ (mapOf [("B", 210), ("C", 50)]).keys) =
          .ok analyses ∧
        (.stdout, .text ("  Total:         " ++ fmt3d analyses.length)) ∈
          (checkLoaded (mapOf [("A", 100), ("B", 200)]) (mapOf [("B", 210), ("C", 50)])).out := by
  have hpos : PositiveBaselines (mapOf [("A", 100), ("B", 200)]) (mapOf [("B", 210), ("C", 50)]) :=
    positiveBaselines_mapOf (by norm_num)
  obtain ⟨analyses, ha, -, -, -, -, -, htotal, -⟩ := checkLoaded_analyses_partition
    (loadResults_docOf _) (wellTyped_mapOf _) (wellTyped_mapOf _) hpos
  exact ⟨loadResults_docOf _, wellTyped_mapOf _, wellTyped_mapOf _, hpos, analyses, ha,
    htotal ⟨.str "B", by decide⟩⟩

/-! ## A slower current run -/

/-- On the common names the second current map is at least as slow as the
first: both times are numbers and the second is not smaller. -/
def SlowerOn (B C C' : PyDict BenchmarkResult) : Prop :=
  ∀ n ∈ B.keys ∩ C.keys, ∀ rc rc', C.get? n = some rc → C'.get? n = some rc' →
    ∃ c c', rc.timeNs.toNum? = some c ∧ rc'.timeNs.toNum? = some c' ∧ c ≤ c'

section Monotone

variable {B C C' : PyDict BenchmarkResult}

/-- Against one positive baseline, a slower current record gets a tier at
least as bad. -/
theorem analyzeRegression_level_mono {rb rc rc' : BenchmarkResult} {b c c' : ℚ}
    (hb : rb.timeNs.toNum? = some b) (hb0 : 0 < b) (hc : rc.timeNs.toNum? = some c)
    (hc' : rc'.timeNs.toNum? = some c') (hle : c ≤ c') :
    ∃ a a', analyzeRegression rb rc = .ok a ∧ analyzeRegression rb rc' = .ok a' ∧
      a.level ≤ a'.level :=
  ⟨_, _, analyzeRegression_eq hb hb0.ne' hc, analyzeRegression_eq hb hb0.ne' hc',
    severityLevel_mono (regressionPctOf_mono hb0 hle)⟩

/-- Where the loop body returns under the first map, it returns under the
slower one, with the same name, numeric times and a tier at least as bad. -/
theorem analyzeName_slower (hkeys : C.keys = C'.keys) (hpos : PositiveBaselines B C)
    (hle : SlowerOn B C C') {n : PyKey} {a : RegressionAnalysis} (h : analyzeName B C n = .ok a) :
    ∃ a', analyzeName B C' n = .ok a' ∧ a'.name = a.name ∧
      (∃ b, a'.baselineNs.toNum? = some b) ∧ (∃ c', a'.currentNs.toNum? = some c') ∧
      a.level ≤ a'.level := by
  obtain ⟨rb, rc, b, c, hb, hc, hbt, -, hct, rfl⟩ := analyzeName_eq_ok_iff.mp h
  have hn : n ∈ B.keys ∩ C.keys := Finset.mem_inter.mpr
    ⟨PyDict.mem_keys_iff_get?.mpr ⟨rb, hb⟩, PyDict.mem_keys_iff_get?.mpr ⟨rc, hc⟩⟩
  obtain ⟨rc', hc'⟩ := PyDict.mem_keys_iff_get?.mp (hkeys ▸ (Finset.mem_inter.mp hn).2)
  obtain ⟨b', hbt', hb0⟩ := hpos n hn rb hb
  obtain ⟨c₁, c', hct₁, hct', hcc⟩ := hle n hn rc rc' hc hc'
  obtain rfl := Option.some.inj (hbt.symm.trans hbt')
  obtain rfl := Option.some.inj (hct.symm.trans hct₁)
  exact ⟨_, (analyzeName_eq hb hc').trans (analyzeRegression_eq hbt hb0.ne' hct'), rfl, ⟨b, hbt⟩,
    ⟨c', hct'⟩, severityLevel_mono (regressionPctOf_mono hb0 hcc)⟩

/-- If the first run of `checkLoaded` returns `False`, so does the run on the
slower map: the empty-intersection branch is shared, and otherwise the
slower loop returns, its report prints, and the critical analysis stays
critical. -/
theorem checkLoaded_false_of_slower (hkeys : C.keys = C'.keys) (hpos : PositiveBaselines B C)
    (hle : SlowerOn B C C') (h : (checkLoaded B C).result = .ok false) :
    (checkLoaded B C').result = .ok false := by
  by_cases h0 : B.keys ∩ C.keys = ∅
  · rw [checkLoaded_noCommon (hkeys ▸ h0)]
  cases ha : analyzeAll B C (B.keys ∩ C.keys) with
  | error e => rw [checkLoaded_of_analyzeAll_error h0 ha] at h; cases h
  | ok analyses =>
    rw [checkLoaded_of_analyzeAll h0 ha, Py.result_bind, except_bind_eq_ok] at h
    obtain ⟨⟨⟩, hp, hv⟩ := h
    rw [determinePassFail_result, Except.ok.injEq, isEmpty_bucket_eq_false] at hv
    obtain ⟨hsort, h₂⟩ := analyzeAll_eq_ok ha
    obtain ⟨analyses', h', hR⟩ := mapM_ok_of_forall₂ h₂ fun _ _ => analyzeName_slower hkeys hpos hle
    obtain ⟨hfmt, hsc, hsb⟩ := printReport_result.mp hp
    have hp' : (printReport analyses' (B.keys \ C'.keys) (C'.keys \ B.keys)).result = .ok () := by
      rw [← hkeys]
      refine printReport_result.mpr ⟨fun a' ha' => ?_, hsc, hsb⟩
      obtain ⟨a, ha, hname, ⟨b, hb⟩, ⟨c', hc'⟩, -⟩ := forall₂_mem_right hR ha'
      obtain ⟨s, hs⟩ := RegressionAnalysis.name_of_toText_ok (hfmt a ha).choose_spec
      exact RegressionAnalysis.toText_ok (hname.trans hs) hb hc'
    rw [checkLoaded_result (hkeys ▸ h0) (by rw [← hkeys, analyzeAll_of_sortable hsort, h']) hp',
      Except.ok.injEq, isEmpty_bucket_eq_false]
    obtain ⟨a, ha, hcrit⟩ := hv
    obtain ⟨a', ha', -, -, -, hlev⟩ := forall₂_mem_left hR ha
    exact ⟨a', ha', RegressionLevel.critical_le.mp (hcrit ▸ hlev)⟩

end Monotone

/-- **A slower current run never passes where a faster one failed.** Take a
baseline file and two current files loading to maps `B`, `C`, `C'`, where
`C` and `C'` hold the same names, every common baseline is positive, and
`C'` is pointwise at least as slow on the common names. Each common name's
tier under `(B, C')` is at least its tier under `(B, C)`, and a `False`
verdict for the first current file is a `False` verdict for the second. -/
theorem checkRegressions_false_of_slower_current {fs : FileSystem}
    {currentFile currentFile' baselineFile : String} {dB dC dC' : JsonValue}
    {B C C' : PyDict BenchmarkResult}
    (hfB : fs baselineFile = .json dB) (hfC : fs currentFile = .json dC)
    (hfC' : fs currentFile' = .json dC') (hB : loadResults dB = .ok B)
    (hC : loadResults dC = .ok C) (hC' : loadResults dC' = .ok C')
    (hkeys : C.keys = C'.keys) (hpos : PositiveBaselines B C) (hle : SlowerOn B C C') :
    (∀ n ∈ B.keys ∩ C.keys, ∀ rb rc rc', B.get? n = some rb → C.get? n = some rc →
      C'.get? n = some rc' → ∃ a a', analyzeRegression rb rc = .ok a ∧
        analyzeRegression rb rc' = .ok a' ∧ a.level ≤ a'.level) ∧
    ((checkRegressions fs currentFile baselineFile).result = .ok false →
      (checkRegressions fs currentFile' baselineFile).result = .ok false) := by
  refine ⟨fun n hn rb rc rc' hb hc hc' => ?_, fun h => ?_⟩
  · obtain ⟨b, hbt, hb0⟩ := hpos n hn rb hb
    obtain ⟨c, c', hct, hct', hcc⟩ := hle n hn rc rc' hc hc'
    exact analyzeRegression_level_mono hbt hb0 hct hct' hcc
  · rw [checkRegressions_of_json hfB hfC hB hC] at h
    rw [checkRegressions_of_json hfB hfC' hB hC']
    exact checkLoaded_false_of_slower hkeys hpos hle h

/-- Against a baseline of 100 ns, a current run of 150 ns fails wherever one
of 125 ns does. -/
theorem checkRegressions_false_of_slower_current_A :
    filesOf [("current.json", docOf [("A", 125)]), ("slower.json", docOf [("A", 150)]),
        ("baseline.json", docOf [("A", 100)])] "baseline.json" = .json (docOf [("A", 100)]) ∧
      filesOf [("current.json", docOf [("A", 125)]), ("slower.json", docOf [("A", 150)]),
        ("baseline.json", docOf [("A", 100)])] "current.json" = .json (docOf [("A", 125)]) ∧
      filesOf [("current.json", docOf [("A", 125)]), ("slower.json", docOf [("A", 150)]),
        ("baseline.json", docOf [("A", 100)])] "slower.json" = .json (docOf [("A", 150)]) ∧
      (mapOf [("A", 125)]).keys = (mapOf [("A", 150)]).keys ∧
      PositiveBaselines (mapOf [("A", 100)]) (mapOf [("A", 125)]) ∧
      SlowerOn (mapOf [("A", 100)]) (mapOf [("A", 125)]) (mapOf [("A", 150)]) ∧
      ((checkRegressions (filesOf [("current.json", docOf [("A", 125)]),
          ("slower.json", docOf [("A", 150)]), ("baseline.json", docOf [("A", 100)])])
          "current.json" "baseline.json").result = .ok false →
        (checkRegressions (filesOf [("current.json", docOf [("A", 125)]),
          ("slower.json", docOf [("A", 150)]), ("baseline.json", docOf [("A", 100)])])
          "slower.json" "baseline.json").result = .ok false) := by
  have hpos : PositiveBaselines (mapOf [("A", 100)]) (mapOf [("A", 125)]) :=
    positiveBaselines_mapOf (by norm_num)
  have hle : SlowerOn (mapOf [("A", 100)]) (mapOf [("A", 125)]) (mapOf [("A", 150)]) :=
    fun _ _ _ _ hc hc' => by
      obtain ⟨e, he, -, rfl⟩ := get?_mapOf hc
      obtain ⟨e', he', -, rfl⟩ := get?_mapOf hc'
      rw [List.mem_singleton] at he he'
      subst he he'
      exact ⟨125, 150, rfl, rfl, by norm_num⟩
  have hkeys : (mapOf [("A", 125)]).keys = (mapOf [("A", 150)]).keys := by decide
  refine ⟨rfl, rfl, rfl, hkeys, hpos, hle, (checkRegressions_false_of_slower_current ?_ ?_ ?_
    (loadResults_docOf _) (loadResults_docOf _) (loadResults_docOf _) hkeys hpos hle).2⟩ <;> rfl

end DiagonBench.Regression
