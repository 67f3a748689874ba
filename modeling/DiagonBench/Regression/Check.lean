/-
DiagonBench.Regression.Check — `check_regressions` and `main` of
`check_fst_regression.py`.

`checkRegressions` prints the banner and loads the baseline, then the
current file. The rest of the function, once both dicts exist, is
`checkLoaded`:

* the name sets `common`, `only_baseline`, `only_current` as `Finset`s;
* `if not common_names`, an error line and `return False`;
* the analysis loop `analyzeAll`, over `sorted(common_names)`;
* the four severity buckets, each a `filter` of the analyses (`bucket`);
* the report (`printReport`): one block per non-empty bucket, the new and
  removed names, the summary counts;
* the pass/fail cascade (`determinePassFail`), which returns `False`
  exactly when the critical bucket is non-empty.

`main` maps the verdict to `sys.exit(0 if passed else 1)`. So a run ends
with status 2 only through `sys.exit(2)`: a wrong argument count, or the
loader's two caught errors. `return False` on an empty intersection
reaches `sys.exit(1)`.

The lemmas below state each block once, for the theorems to cite:
`checkRegressions_of_json` strips the banner and the loads,
`checkLoaded_noCommon` and `checkLoaded_of_analyzeAll` are the two
branches, `printReport_result` says when the report prints without raising, and
`determinePassFail_result` is the verdict.
-/
import DiagonBench.Regression.Load

namespace DiagonBench.Regression

open DiagonBench.Python

/-- `f"{n:3d}"`: right-justified in three columns. -/
def fmt3d (n : Nat) : String :=
  "".pushn ' ' (3 - (toString n).length) ++ toString n

/-- `c * 80` for a one-character string `c`. -/
def ruleOf (c : Char) : String := "".pushn c 80

/-- The body of the analysis loop:
`analyze_regression(baseline_results[name], current_results[name])`. -/
def analyzeName (baselineResults currentResults : PyDict BenchmarkResult) (name : PyKey) :
    Except PyExc RegressionAnalysis := do
  let baseline ← baselineResults.getItem name
  let current ← currentResults.getItem name
  analyzeRegression baseline current

/-- The analysis loop: `for name in sorted(common_names)`. -/
def analyzeAll (baselineResults currentResults : PyDict BenchmarkResult)
    (commonNames : Finset PyKey) : Except PyExc (List RegressionAnalysis) := do
  let names ← pySorted commonNames
  names.mapM (analyzeName baselineResults currentResults)

/-- `[a for a in analyses if a.level == level]`. -/
def bucket (analyses : List RegressionAnalysis) (level : RegressionLevel) :
    List RegressionAnalysis :=
  analyses.filter (·.level == level)

/-- `print(f"  {a}")`: `str(a)` is evaluated before anything is printed. -/
def printAnalysis (a : RegressionAnalysis) : Py Line Unit := do
  let t ← Py.lift a.toText
  Py.print (.analysis t)

/-- One severity block: if the group is non-empty, its header lines, then
one line per analysis. -/
def printGroup (header : List String) (group : List RegressionAnalysis) : Py Line Unit :=
  if group.isEmpty then pure () else do
    header.forM fun s => Py.print (.text s)
    group.forM printAnalysis

/-- The new or removed block: if the set is non-empty, its header, then one
line per name of `sorted(names)`. -/
def printNames (header : String) (line : PyKey → Line) (names : Finset PyKey) :
    Py Line Unit :=
  if names = ∅ then pure () else do
    Py.print (.text header)
    let sortedNames ← Py.lift (pySorted names)
    sortedNames.forM fun name => Py.print (line name)

/-- The report, from `Regression Analysis:` to the closing rule of the summary. -/
def printReport (analyses : List RegressionAnalysis) (onlyBaseline onlyCurrent : Finset PyKey) :
    Py Line Unit := do
  let improvements := bucket analyses .improvement
  let acceptable := bucket analyses .acceptable
  let warnings := bucket analyses .warning
  let criticals := bucket analyses .critical
  Py.print (.text "Regression Analysis:")
  Py.print (.text (ruleOf '-'))
  printGroup ["\n🎉 Performance Improvements (" ++ toString improvements.length ++
    " benchmarks):"] improvements
  printGroup ["\n✅ Acceptable Performance (" ++ toString acceptable.length ++
    " benchmarks):"] acceptable
  printGroup ["\n⚠️  Performance Warnings (" ++ toString warnings.length ++ " benchmarks):",
    "   (10-20% slower than baseline)"] warnings
  printGroup ["\n❌ CRITICAL REGRESSIONS (" ++ toString criticals.length ++ " benchmarks):",
    "   (>20% slower than baseline - IMMEDIATE ACTION REQUIRED)"] criticals
  printNames ("\n📝 New Benchmarks (" ++ toString onlyCurrent.card ++ "):") .added onlyCurrent
  printNames ("\n📝 Removed Benchmarks (" ++ toString onlyBaseline.card ++ "):") .removed
    onlyBaseline
  Py.print (.text "")
  Py.print (.text (ruleOf '='))
  Py.print (.text "Summary:")
  Py.print (.text ("  Improvements:  " ++ fmt3d improvements.length))
  Py.print (.text ("  Acceptable:    " ++ fmt3d acceptable.length))
  Py.print (.text ("  Warnings:      " ++ fmt3d warnings.length ++ " (10-20% slower)"))
  Py.print (.text ("  Critical:      " ++ fmt3d criticals.length ++ " (>20% slower)"))
  Py.print (.text ("  Total:         " ++ fmt3d analyses.length))
  Py.print (.text (ruleOf '='))

/-- The pass/fail cascade at the end of `check_regressions`. -/
def determinePassFail (analyses : List RegressionAnalysis) : Py Line Bool := do
  let hasCritical := (bucket analyses .critical).length > 0
  let hasWarning := (bucket analyses .warning).length > 0
  if hasCritical then do
    Py.print (.text "")
    Py.print (.text "❌ FAIL: Critical regressions detected (>20% slower)")
    Py.print (.text "   Action: Investigate and fix before merging")
    pure false
  else if hasWarning then do
    Py.print (.text "")
    Py.print (.text "⚠️  WARNING: Performance regressions detected (10-20% slower)")
    Py.print (.text "   Action: Review and consider optimization")
    Py.print (.text "   Status: PASS (within 20% threshold)")
    pure true
  else do
    Py.print (.text "")
    Py.print (.text "✅ PASS: No significant regressions detected")
    pure true

/-- `check_regressions` from `# Find common benchmarks` on, once both dicts
are loaded. -/
def checkLoaded (baselineResults currentResults : PyDict BenchmarkResult) : Py Line Bool :=
  let baselineNames := baselineResults.keys
  let currentNames := currentResults.keys
  let commonNames := baselineNames ∩ currentNames
  let onlyBaseline := baselineNames \ currentNames
  let onlyCurrent := currentNames \ baselineNames
  if commonNames = ∅ then do
    Py.print (.text "❌ Error: No common benchmarks found between baseline and current")
    pure false
  else do
    let analyses ← Py.lift (analyzeAll baselineResults currentResults commonNames)
    printReport analyses onlyBaseline onlyCurrent
    determinePassFail analyses

/-- The banner `check_regressions` prints before loading anything. -/
def banner (currentFile baselineFile : String) : List Line :=
  [.text "FST Performance Regression Check", .text (ruleOf '='),
   .text ("Baseline:  " ++ baselineFile), .text ("Current:   " ++ currentFile),
   .text "Threshold: 10% regression (warning), 20% (critical)", .text (ruleOf '='), .text ""]

/-- `check_regressions(current_file, baseline_file)`. -/
def checkRegressions (fs : FileSystem) (currentFile baselineFile : String) : Py Line Bool := do
  (banner currentFile baselineFile).forM Py.print
  let baselineResults ← loadBenchmarkResults fs baselineFile
  let currentResults ← loadBenchmarkResults fs currentFile
  checkLoaded baselineResults currentResults

/-- The usage text `main` prints on a wrong argument count. -/
def usage : List Line :=
  [.text "Usage: python3 check_fst_regression.py current_results.json baseline.json", .text "",
   .text "Example:", .text "  # Run benchmark",
   .text "  ./FSTEfficiencyGate --benchmark_out=current.json --benchmark_out_format=json",
   .text "", .text "  # Check for regressions",
   .text "  python3 check_fst_regression.py current.json benchmark_results/fst_baseline.json"]

/-- `main()`, with `sys.argv` as `argv`. -/
def main (argv : List String) (fs : FileSystem) : Py Line Unit :=
  match argv with
  | [_, currentFile, baselineFile] => do
    let passed ← checkRegressions fs currentFile baselineFile
    Py.raise (.systemExit (if passed then 0 else 1))
  | _ => do
    usage.forM Py.print
    Py.raise (.systemExit 2)

/-! ## The analysis loop -/

section Loop

variable {B C : PyDict BenchmarkResult}

/-- A name both dicts hold is analysed from its two records. -/
theorem analyzeName_eq {n : PyKey} {rb rc : BenchmarkResult} (hb : B.get? n = some rb)
    (hc : C.get? n = some rc) : analyzeName B C n = analyzeRegression rb rc := by
  simp [analyzeName, PyDict.getItem_of_get? hb, PyDict.getItem_of_get? hc, bind, Except.bind]

/-- On a sortable set the loop runs over its ascending listing. -/
theorem analyzeAll_of_sortable {s : Finset PyKey} (h : Sortable s) :
    analyzeAll B C s = (s.sort (· ≤ ·)).mapM (analyzeName B C) := by
  simp [analyzeAll, pySorted_of_sortable h, bind, Except.bind]

/-- A returning loop ran over the ascending listing, every pass returning. -/
theorem analyzeAll_eq_ok {s : Finset PyKey} {analyses : List RegressionAnalysis}
    (h : analyzeAll B C s = .ok analyses) :
    Sortable s ∧ List.Forall₂ (fun n a => analyzeName B C n = .ok a) (s.sort (· ≤ ·)) analyses := by
  unfold analyzeAll at h
  cases hs : pySorted s with
  | error e => simp [hs, bind, Except.bind] at h
  | ok l =>
    obtain ⟨hsort, rfl⟩ := pySorted_eq_ok hs
    simp only [hs, bind, Except.bind] at h
    exact ⟨hsort, mapM_eq_ok.mp h⟩

end Loop

/-! ## The report -/

@[simp] theorem mem_bucket {a : RegressionAnalysis} {analyses : List RegressionAnalysis}
    {l : RegressionLevel} : a ∈ bucket analyses l ↔ a ∈ analyses ∧ a.level = l := by
  simp [bucket]

/-- A bucket is non-empty exactly when some analysis has its level. -/
theorem isEmpty_bucket_eq_false {analyses : List RegressionAnalysis} {l : RegressionLevel} :
    (bucket analyses l).isEmpty = false ↔ ∃ a ∈ analyses, a.level = l := by
  simp [List.isEmpty_iff, List.eq_nil_iff_forall_not_mem]

/-- The four buckets together hold every analysis. -/
theorem forall_mem_buckets {analyses : List RegressionAnalysis} {P : RegressionAnalysis → Prop} :
    ((∀ a ∈ bucket analyses .improvement, P a) ∧ (∀ a ∈ bucket analyses .acceptable, P a) ∧
      (∀ a ∈ bucket analyses .warning, P a) ∧ (∀ a ∈ bucket analyses .critical, P a)) ↔
      ∀ a ∈ analyses, P a := by
  constructor
  · rintro ⟨h₁, h₂, h₃, h₄⟩ a ha
    cases hl : a.level
    exacts [h₁ a (mem_bucket.mpr ⟨ha, hl⟩), h₂ a (mem_bucket.mpr ⟨ha, hl⟩),
      h₃ a (mem_bucket.mpr ⟨ha, hl⟩), h₄ a (mem_bucket.mpr ⟨ha, hl⟩)]
  · intro h
    exact ⟨fun a ha => h a (mem_bucket.mp ha).1, fun a ha => h a (mem_bucket.mp ha).1,
      fun a ha => h a (mem_bucket.mp ha).1, fun a ha => h a (mem_bucket.mp ha).1⟩

theorem printAnalysis_result {a : RegressionAnalysis} :
    (printAnalysis a).result = .ok () ↔ ∃ t, a.toText = .ok t := by
  unfold printAnalysis
  cases a.toText <;> simp [Py.print]

/-- A severity block prints without raising exactly when its analyses format. -/
theorem printGroup_result {header : List String} {g : List RegressionAnalysis} :
    (printGroup header g).result = .ok () ↔ ∀ a ∈ g, ∃ t, a.toText = .ok t := by
  unfold printGroup
  split
  · next h => simp [List.isEmpty_iff.mp h]
  · simp only [Py.result_bind, except_bind_eq_ok, exists_unit, Py.forM_result_eq_ok,
      Py.result_print, printAnalysis_result]
    simp

/-- A name block prints without raising exactly when its set sorts. -/
theorem printNames_result {header : String} {line : PyKey → Line} {names : Finset PyKey} :
    (printNames header line names).result = .ok () ↔ Sortable names := by
  unfold printNames
  split
  · next h => simp [h, Sortable]
  · unfold pySorted
    split <;> simp [Py.forM_result_eq_ok, *]

/-- The report prints without raising exactly when every analysis formats
and both name sets sort, whichever buckets the analyses fall in. -/
theorem printReport_result {analyses : List RegressionAnalysis} {ob oc : Finset PyKey} :
    (printReport analyses ob oc).result = .ok () ↔
      (∀ a ∈ analyses, ∃ t, a.toText = .ok t) ∧ Sortable oc ∧ Sortable ob := by
  rw [← forall_mem_buckets]
  simp only [printReport, Py.print_bind, Py.result_bind, except_bind_eq_ok, exists_unit,
    printGroup_result, printNames_result, Py.result_print, and_true, and_assoc]

/-- A report that prints ends its summary with the `Total` line. -/
theorem total_mem_printReport {analyses : List RegressionAnalysis} {ob oc : Finset PyKey}
    (hp : (printReport analyses ob oc).result = .ok ()) :
    (.stdout, .text ("  Total:         " ++ fmt3d analyses.length)) ∈
      (printReport analyses ob oc).out := by
  obtain ⟨hfmt, hsc, hsb⟩ := printReport_result.mp hp
  have hg : ∀ header l, (printGroup header (bucket analyses l)).result = .ok () := fun _ _ =>
    printGroup_result.mpr fun a ha => hfmt a (mem_bucket.mp ha).1
  have hn : ∀ header line, (printNames header line oc).result = .ok () ∧
      (printNames header line ob).result = .ok () :=
    fun _ _ => ⟨printNames_result.mpr hsc, printNames_result.mpr hsb⟩
  simp [printReport, Py.bind_unit_of_ok, hg, hn, Py.print]

/-- The four bucket sizes add up to the number of analyses. -/
theorem length_buckets (analyses : List RegressionAnalysis) :
    (bucket analyses .improvement).length + (bucket analyses .acceptable).length +
      (bucket analyses .warning).length + (bucket analyses .critical).length =
      analyses.length := by
  induction analyses with
  | nil => rfl
  | cons a as ih =>
    simp only [bucket, List.filter_cons, List.length_cons] at ih ⊢
    cases a.level <;> simp <;> omega

/-- The verdict: `False` exactly when the critical bucket is non-empty. -/
theorem determinePassFail_result (analyses : List RegressionAnalysis) :
    (determinePassFail analyses).result = .ok (bucket analyses .critical).isEmpty := by
  simp only [determinePassFail]
  by_cases hc : (bucket analyses .critical).length > 0
  · simp [hc, Py.print, List.isEmpty_iff, List.length_pos.mp hc]
  · have : bucket analyses .critical = [] := List.eq_nil_of_length_eq_zero (by omega)
    split_ifs <;> simp [Py.print, this]

/-! ## The two branches of `checkLoaded` -/

section Branches

variable {B C : PyDict BenchmarkResult}

/-- No common name: one error line, and `False`. -/
theorem checkLoaded_noCommon (h : B.keys ∩ C.keys = ∅) :
    checkLoaded B C =
      ⟨[(.stdout, .text "❌ Error: No common benchmarks found between baseline and current")],
        .ok false⟩ := by
  simp [checkLoaded, h]

/-- Common names, and the analysis loop raises: the exception escapes. -/
theorem checkLoaded_of_analyzeAll_error {e : PyExc} (h : B.keys ∩ C.keys ≠ ∅)
    (ha : analyzeAll B C (B.keys ∩ C.keys) = .error e) : checkLoaded B C = ⟨[], .error e⟩ := by
  simp [checkLoaded, h, ha]

/-- Common names, and the loop returns: the report, then the verdict. -/
theorem checkLoaded_of_analyzeAll {analyses : List RegressionAnalysis} (h : B.keys ∩ C.keys ≠ ∅)
    (ha : analyzeAll B C (B.keys ∩ C.keys) = .ok analyses) :
    checkLoaded B C = printReport analyses (B.keys \ C.keys) (C.keys \ B.keys) >>= fun _ =>
      determinePassFail analyses := by
  simp [checkLoaded, h, ha]

/-- Common names, a returning loop and a report that prints: the verdict. -/
theorem checkLoaded_result {analyses : List RegressionAnalysis} (h : B.keys ∩ C.keys ≠ ∅)
    (ha : analyzeAll B C (B.keys ∩ C.keys) = .ok analyses)
    (hp : (printReport analyses (B.keys \ C.keys) (C.keys \ B.keys)).result = .ok ()) :
    (checkLoaded B C).result = .ok (bucket analyses .critical).isEmpty := by
  rw [checkLoaded_of_analyzeAll h ha, Py.result_bind, hp]
  exact determinePassFail_result analyses

end Branches

/-! ## The script -/

/-- Two parsed files: the banner, then the first exception of the two loads,
or `checkLoaded` on the two dicts. -/
theorem checkRegressions_of_parsed {fs : FileSystem} {currentFile baselineFile : String}
    {dB dC : JsonValue} (hfB : fs baselineFile = .json dB) (hfC : fs currentFile = .json dC) :
    checkRegressions fs currentFile baselineFile =
      match loadResults dB, loadResults dC with
      | .ok B, .ok C => ⟨(banner currentFile baselineFile).map (.stdout, ·) ++ (checkLoaded B C).out,
          (checkLoaded B C).result⟩
      | .error e, _ => ⟨(banner currentFile baselineFile).map (.stdout, ·), .error e⟩
      | .ok _, .error e => ⟨(banner currentFile baselineFile).map (.stdout, ·), .error e⟩ := by
  rw [checkRegressions, Py.forM_print, Py.bind_of_ok rfl, loadBenchmarkResults_json hfB,
    loadBenchmarkResults_json hfC]
  cases loadResults dB <;> cases loadResults dC <;> simp

/-- Two parsed files that load: the banner, then `checkLoaded` on the two dicts. -/
theorem checkRegressions_of_json {fs : FileSystem} {currentFile baselineFile : String}
    {dB dC : JsonValue} {B C : PyDict BenchmarkResult}
    (hfB : fs baselineFile = .json dB) (hfC : fs currentFile = .json dC)
    (hB : loadResults dB = .ok B) (hC : loadResults dC = .ok C) :
    checkRegressions fs currentFile baselineFile =
      ⟨(banner currentFile baselineFile).map (.stdout, ·) ++ (checkLoaded B C).out,
        (checkLoaded B C).result⟩ := by
  rw [checkRegressions_of_parsed hfB hfC, hB, hC]

/-- `main` with two arguments ends with the status its verdict maps to. -/
theorem main_result (s currentFile baselineFile : String) (fs : FileSystem) :
    (main [s, currentFile, baselineFile] fs).result =
      (checkRegressions fs currentFile baselineFile).result.bind fun passed =>
        .error (.systemExit (if passed then 0 else 1)) := by
  simp [main]

end DiagonBench.Regression
