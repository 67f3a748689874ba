/-
DiagonBench.Regression.ExitStatus — the status a run of
`check_fst_regression.py` ends with.

The module docstring promises three statuses: 0 for no significant
regression, 1 for a regression, 2 for an error ("file not found, parse
error, etc."). `main` produces 2 only through `sys.exit(2)`: a wrong
argument count, whose usage text goes to stdout (`main_usage_exit_two`),
and the loader's two caught errors. Every other error ends
the run with 1 (`exitCode_main`):

* an empty intersection prints an error line and returns `False`, which
  `main` maps to 1 (`main_noCommon`);
* a directory, an unreadable file or undecodable text raises from `open`
  or the decoder, and a document that is not a dict has no `get`; the
  exception escapes (`exitCode_main_of_open_error`,
  `exitCode_main_of_notDict`);
* a common name with a zero baseline makes the analysis loop raise
  `ZeroDivisionError`. Nothing guards the division, so the run ends with a
  traceback after the banner, before any report line (`main_zero_baseline`).
-/
import DiagonBench.Regression.CheckTheorems

namespace DiagonBench.Regression

open DiagonBench.Python

/-! ## `main`'s status -/

/-- `main` with two arguments: 0 for `True`, 1 for `False`, and the status of
whatever escapes `check_regressions`. -/
theorem exitCode_main (s currentFile baselineFile : String) (fs : FileSystem) :
    exitCode (main [s, currentFile, baselineFile] fs).result =
      match (checkRegressions fs currentFile baselineFile).result with
      | .ok passed => if passed then 0 else 1
      | .error e => exitCode (.error e : Except PyExc Unit) := by
  rw [main_result]
  rcases (checkRegressions fs currentFile baselineFile).result with e | (_ | _) <;> rfl

/-- A baseline load that raises ends `check_regressions` with its exception. -/
theorem checkRegressions_of_baseline_error {fs : FileSystem} {currentFile baselineFile : String}
    {e : PyExc} (h : (loadBenchmarkResults fs baselineFile).result = .error e) :
    (checkRegressions fs currentFile baselineFile).result = .error e := by
  simp [checkRegressions, h]

/-- A baseline path that is a directory, unreadable, or not text: `open` or
the decoder raises, nothing catches it, and the status is 1. -/
theorem exitCode_main_of_open_error {fs : FileSystem} {s currentFile baselineFile : String}
    (h : fs baselineFile = .directory ∨ fs baselineFile = .unreadable ∨
      fs baselineFile = .notUtf8) :
    exitCode (main [s, currentFile, baselineFile] fs).result = 1 := by
  obtain ⟨e, hl, hcode⟩ : ∃ e, loadBenchmarkResults fs baselineFile = Py.raise e ∧
      exitCode (.error e : Except PyExc Unit) = 1 := by
    rcases h with h | h | h
    exacts [⟨.isADirectoryError, by simp [loadBenchmarkResults, openJson, h], rfl⟩,
      ⟨.permissionError, by simp [loadBenchmarkResults, openJson, h], rfl⟩,
      ⟨.unicodeDecodeError, by simp [loadBenchmarkResults, openJson, h], rfl⟩]
  rw [exitCode_main, checkRegressions_of_baseline_error (by rw [hl]; rfl)]
  exact hcode

/-- A parsed document that is not a dict has no `get`. -/
theorem loadResults_notDict {v : JsonValue} (h : ∀ kvs, v ≠ .obj kvs) :
    loadResults v = .error .attributeError := by
  cases v <;> simp_all [loadResults, pyGet, bind, Except.bind]

/-- A baseline document that is not a dict: status 1. -/
theorem exitCode_main_of_notDict {fs : FileSystem} {s currentFile baselineFile : String}
    {v : JsonValue} (hf : fs baselineFile = .json v) (h : ∀ kvs, v ≠ .obj kvs) :
    exitCode (main [s, currentFile, baselineFile] fs).result = 1 := by
  rw [exitCode_main, checkRegressions_of_baseline_error (by
    rw [loadBenchmarkResults_json hf, Py.result_lift, loadResults_notDict h])]
  rfl

/-! ## No common benchmark -/

/-- Two files that load to maps with no common name: the banner, the error
line, and status 1. -/
theorem main_noCommon {fs : FileSystem} {s currentFile baselineFile : String} {dB dC : JsonValue}
    {B C : PyDict BenchmarkResult}
    (hfB : fs baselineFile = .json dB) (hfC : fs currentFile = .json dC)
    (hB : loadResults dB = .ok B) (hC : loadResults dC = .ok C) (h : B.keys ∩ C.keys = ∅) :
    main [s, currentFile, baselineFile] fs =
      ⟨(banner currentFile baselineFile).map (.stdout, ·) ++
        [(.stdout, .text "❌ Error: No common benchmarks found between baseline and current")],
        .error (.systemExit 1)⟩ := by
  have hrun : checkRegressions fs currentFile baselineFile = _ :=
    checkRegressions_of_json hfB hfC hB hC
  rw [checkLoaded_noCommon h] at hrun
  simp [main, hrun, Py.bind_of_ok]

/-- Three runs that cannot compute a regression signal: the spec's
`NoCommonBenchmarks` case, two paths that are directories, and a baseline
document that is a list. Each ends with status 1, the status the script's
docstring reserves for a detected regression, not 2. -/
theorem main_operational_errors_exit_one :
    exitCode (main ["check_fst_regression.py", "current.json", "baseline.json"]
      (filesOf [("current.json", docOf [("B", 100)]), ("baseline.json", docOf [("A", 100)])])).result
      = 1 ∧
    exitCode (main ["check_fst_regression.py", "current.json", "baseline.json"]
      fun _ => .directory).result = 1 ∧
    exitCode (main ["check_fst_regression.py", "current.json", "baseline.json"]
      (filesOf [("current.json", docOf [("A", 100)]), ("baseline.json", .arr [])])).result = 1 := by
  refine ⟨?_, ?_, ?_⟩
  · have h : main ["check_fst_regression.py", "current.json", "baseline.json"]
        (filesOf [("current.json", docOf [("B", 100)]), ("baseline.json", docOf [("A", 100)])]) = _ :=
      main_noCommon rfl rfl (loadResults_docOf _) (loadResults_docOf _) (by decide)
    rw [h]; rfl
  · exact exitCode_main_of_open_error (.inl rfl)
  · exact exitCode_main_of_notDict rfl fun _ h => by cases h

/-! ## A zero baseline -/

section ZeroBaseline

variable {B C : PyDict BenchmarkResult}

/-- Under the data model every pass of the loop returns or divides by zero. -/
theorem analyzeName_ok_or_zeroDivision (hwB : WellTyped B) (hwC : WellTyped C) {n : PyKey}
    (hn : n ∈ B.keys ∩ C.keys) :
    (∃ a, analyzeName B C n = .ok a) ∨ analyzeName B C n = .error .zeroDivisionError := by
  obtain ⟨rb, hb⟩ := PyDict.mem_keys_iff_get?.mp (Finset.mem_inter.mp hn).1
  obtain ⟨rc, hc⟩ := PyDict.mem_keys_iff_get?.mp (Finset.mem_inter.mp hn).2
  obtain ⟨b, hbt⟩ := (hwB n rb hb).2
  obtain ⟨c, hct⟩ := (hwC n rc hc).2
  rw [analyzeName_eq hb hc]
  by_cases hb0 : b = 0
  · subst hb0; exact .inr (analyzeRegression_zero hbt hct)
  · exact .inl ⟨_, analyzeRegression_eq hbt hb0 hct⟩

/-- A common name with a zero baseline: the loop raises `ZeroDivisionError`,
and `check_regressions` ends before printing a line of the report. -/
theorem checkLoaded_zero_baseline (hwB : WellTyped B) (hwC : WellTyped C)
    (hz : ∃ n ∈ B.keys ∩ C.keys, ∃ rb, B.get? n = some rb ∧ rb.timeNs.toNum? = some 0) :
    checkLoaded B C = ⟨[], .error .zeroDivisionError⟩ := by
  obtain ⟨n, hn, rb, hb, hbt⟩ := hz
  refine checkLoaded_of_analyzeAll_error (Finset.nonempty_iff_ne_empty.mp ⟨n, hn⟩) ?_
  rw [analyzeAll_of_sortable (sortable_of_subset hwB Finset.inter_subset_left)]
  refine mapM_eq_error (fun m hm => analyzeName_ok_or_zeroDivision hwB hwC
    ((Finset.mem_sort (α := PyKey) (· ≤ ·)).mp hm)) ⟨n, (Finset.mem_sort _).mpr hn, ?_⟩
  obtain ⟨rc, hc⟩ := PyDict.mem_keys_iff_get?.mp (Finset.mem_inter.mp hn).2
  obtain ⟨c, hct⟩ := (hwC n rc hc).2
  rw [analyzeName_eq hb hc, analyzeRegression_zero hbt hct]

/-- Two files of the data model sharing a name with a zero baseline: the
banner, then the uncaught `ZeroDivisionError`, whatever the other names. -/
theorem main_zero_baseline {fs : FileSystem} {s currentFile baselineFile : String}
    {dB dC : JsonValue} (hfB : fs baselineFile = .json dB) (hfC : fs currentFile = .json dC)
    (hB : loadResults dB = .ok B) (hC : loadResults dC = .ok C) (hwB : WellTyped B)
    (hwC : WellTyped C)
    (hz : ∃ n ∈ B.keys ∩ C.keys, ∃ rb, B.get? n = some rb ∧ rb.timeNs.toNum? = some 0) :
    main [s, currentFile, baselineFile] fs =
      ⟨(banner currentFile baselineFile).map (.stdout, ·), .error .zeroDivisionError⟩ := by
  have hrun : checkRegressions fs currentFile baselineFile = _ :=
    checkRegressions_of_json hfB hfC hB hC
  rw [checkLoaded_zero_baseline hwB hwC hz] at hrun
  simp [main, hrun, Py.bind_of_error]

end ZeroBaseline

/-- Spec scenario 4, baseline `A` at 0 ns and current `A` at 10 ns: the run
prints the banner and ends with `ZeroDivisionError`, status 1. `A` is not
reported as undefined and the run is not completed without it. -/
theorem main_scenario4_zeroDivision :
    main ["check_fst_regression.py", "current.json", "baseline.json"]
        (filesOf [("current.json", docOf [("A", 10)]), ("baseline.json", docOf [("A", 0)])]) =
      ⟨(banner "current.json" "baseline.json").map (.stdout, ·), .error .zeroDivisionError⟩ ∧
    exitCode (main ["check_fst_regression.py", "current.json", "baseline.json"]
        (filesOf [("current.json", docOf [("A", 10)]), ("baseline.json", docOf [("A", 0)])])).result
      = 1 := by
  have h : main ["check_fst_regression.py", "current.json", "baseline.json"]
      (filesOf [("current.json", docOf [("A", 10)]), ("baseline.json", docOf [("A", 0)])]) = _ :=
    main_zero_baseline rfl rfl (loadResults_docOf _) (loadResults_docOf _) (wellTyped_mapOf _)
      (wellTyped_mapOf _) ⟨.str "A", by decide, _, rfl, rfl⟩
  exact ⟨h, by rw [h]; rfl⟩

end DiagonBench.Regression
