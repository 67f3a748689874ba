/-
DiagonBench.Regression.Contract — the exit status of a run of
`check_fst_regression.py` with two paths, for every pair of files.

A CI job reads only the status. The script calls `sys.exit` in two places:
the loader exits with 2 on a missing file and on a JSON syntax error
(`loaderExits`), and `main` exits with 0 or 1 on the verdict. Every other
way a run can end is an exception an operation raises, never `SystemExit`,
and the process ends with 1. So (`exitCode_main_contract`):

* the status is 2 exactly when the baseline file is missing or not JSON,
  or the baseline loads and the current file is missing or not JSON;
* it is 0 exactly when `check_regressions` returns `True`;
* it is 1 otherwise, never anything but 0, 1 or 2.

With another number of arguments the status is 2 (`main_usage_exit_two`).

## How the proof goes

Section 1 says once, per operation the script applies, that it raises no
`SystemExit`, and lifts that through the loops with `raisesOnly_mapM` and
`Py.raisesOnly_forM`. The report is taken whole, through
`printReport_result_eq`. Section 2 follows the run through its three
stages: the baseline load, the current load, and `checkLoaded`.
-/
import DiagonBench.Regression.Invariance
import DiagonBench.Regression.ExitStatus

namespace DiagonBench.Regression

open DiagonBench.Python

/-! ## 1. Operations raise, they do not exit -/

theorem noExit_pyGet (v : JsonValue) (k : String) (d : JsonValue) :
    RaisesOnly (·.isExit = false) (pyGet v k d) := fun e he => by
  unfold pyGet at he; split at he <;> cases he; rfl

theorem noExit_pySubscript (v : JsonValue) (k : String) :
    RaisesOnly (·.isExit = false) (pySubscript v k) := fun e he => by
  unfold pySubscript at he; split at he
  · split at he <;> cases he; rfl
  · cases he; rfl

theorem noExit_pyIter (v : JsonValue) : RaisesOnly (·.isExit = false) (pyIter v) := fun e he => by
  unfold pyIter at he; split at he <;> cases he; rfl

theorem noExit_pyMulNat (v : JsonValue) (k : ℕ) :
    RaisesOnly (·.isExit = false) (pyMulNat v k) := fun e he => by
  unfold pyMulNat at he; split at he <;> cases he; rfl

theorem noExit_pyHash (v : JsonValue) : RaisesOnly (·.isExit = false) (pyHash v) := fun e he => by
  unfold pyHash at he; split at he <;> cases he; rfl

theorem noExit_toNanoseconds (t u : JsonValue) :
    RaisesOnly (·.isExit = false) (toNanoseconds t u) := by
  unfold toNanoseconds
  split_ifs
  · exact noExit_pyMulNat _ _
  · exact noExit_pyMulNat _ _
  · exact raisesOnly_ok _

/-- Reading an entry raises only what its operations raise. -/
theorem noExit_readEntry (b : JsonValue) : RaisesOnly (·.isExit = false) (readEntry b) :=
  (noExit_pySubscript _ _).bind fun _ _ => (noExit_pyGet _ _ _).bind fun _ _ =>
    (noExit_pyGet _ _ _).bind fun _ _ => (noExit_pyGet _ _ _).bind fun _ _ =>
    (noExit_toNanoseconds _ _).bind fun _ _ => (noExit_pyGet _ _ _).bind fun _ _ =>
    (noExit_pyGet _ _ _).bind fun _ _ => (noExit_pyHash _).bind fun _ _ => raisesOnly_ok _

/-- The loader after `json.load` raises no `SystemExit`. -/
theorem noExit_loadResults (data : JsonValue) : RaisesOnly (·.isExit = false) (loadResults data) :=
  (noExit_pyGet _ _ _).bind fun _ _ => (noExit_pyIter _).bind fun entries _ => by
    rw [foldlM_loadEntry]
    exact (raisesOnly_mapM fun b _ => noExit_readEntry b).map _

theorem noExit_pySorted (s : Finset PyKey) : RaisesOnly (·.isExit = false) (pySorted s) :=
  fun e he => by unfold pySorted at he; split_ifs at he; cases he; rfl

theorem noExit_getItem {α : Type} (d : PyDict α) (k : PyKey) :
    RaisesOnly (·.isExit = false) (d.getItem k) := fun e he => by
  unfold PyDict.getItem at he; split at he <;> cases he; rfl

theorem noExit_pySub (a b : JsonValue) : RaisesOnly (·.isExit = false) (pySub a b) := fun e he => by
  unfold pySub at he; split at he <;> cases he; rfl

theorem noExit_pyDiv (x : ℚ) (b : JsonValue) : RaisesOnly (·.isExit = false) (pyDiv x b) :=
  fun e he => by unfold pyDiv at he; split at he <;> (try split_ifs at he) <;> cases he <;> rfl

theorem noExit_analyzeName (B C : PyDict BenchmarkResult) (n : PyKey) :
    RaisesOnly (·.isExit = false) (analyzeName B C n) :=
  (noExit_getItem _ _).bind fun _ _ => (noExit_getItem _ _).bind fun _ _ =>
    (noExit_pySub _ _).bind fun _ _ => (noExit_pyDiv _ _).bind fun _ _ => raisesOnly_ok _

/-- The analysis loop raises no `SystemExit`. -/
theorem noExit_analyzeAll (B C : PyDict BenchmarkResult) (s : Finset PyKey) :
    RaisesOnly (·.isExit = false) (analyzeAll B C s) :=
  (noExit_pySorted s).bind fun _ _ => raisesOnly_mapM fun n _ => noExit_analyzeName B C n

/-- `str(a)` raises no `SystemExit`. -/
theorem noExit_printAnalysis (a : RegressionAnalysis) :
    RaisesOnly (·.isExit = false) (printAnalysis a).result := by
  have hs : ∀ v, RaisesOnly (·.isExit = false) (formatStr50 v) := fun v e he => by
    unfold formatStr50 at he; split at he <;> cases he <;> rfl
  have hf : ∀ v, RaisesOnly (·.isExit = false) (formatFloat v) := fun v e he => by
    unfold formatFloat at he; split at he <;> cases he <;> rfl
  rw [printAnalysis, Py.result_bind, Py.result_lift]
  exact ((hs _).bind fun _ _ => (hf _).bind fun _ _ => (hf _).bind fun _ _ => raisesOnly_ok _).bind
    fun _ _ => raisesOnly_ok _

/-- Everything after the two loads raises no `SystemExit`. -/
theorem noExit_checkLoaded (B C : PyDict BenchmarkResult) :
    RaisesOnly (·.isExit = false) (checkLoaded B C).result := by
  by_cases h0 : B.keys ∩ C.keys = ∅
  · rw [checkLoaded_noCommon h0]; exact raisesOnly_ok _
  cases ha : analyzeAll B C (B.keys ∩ C.keys) with
  | error e =>
    rw [checkLoaded_of_analyzeAll_error h0 ha]
    rintro e' ⟨⟩
    exact noExit_analyzeAll B C _ e ha
  | ok analyses =>
    rw [checkLoaded_of_analyzeAll h0 ha, Py.result_bind, printReport_result_eq,
      determinePassFail_result]
    exact ((Py.raisesOnly_forM fun a _ => noExit_printAnalysis a).bind fun _ _ =>
      (noExit_pySorted _).bind fun _ _ => (noExit_pySorted _).bind fun _ _ => raisesOnly_ok _).bind
        fun _ _ => raisesOnly_ok _

theorem noExit_openJson (fs : FileSystem) (f : String) :
    RaisesOnly (·.isExit = false) (openJson fs f) := fun e he => by
  unfold openJson at he; split at he <;> cases he <;> rfl

/-! ## 2. The three stages of a run -/

/-- The outcomes of `open` and `json.load` the loader catches, printing an
error and exiting with status 2: a missing file and a JSON syntax error. -/
def loaderExits : FileState → Bool
  | .missing => true
  | .invalidJson _ => true
  | _ => false

/-- The loader exits with 2 on what it catches, and otherwise returns or
raises what `open`, `json.load` and the loop return or raise. -/
theorem loadBenchmarkResults_result (fs : FileSystem) (f : String) :
    (loadBenchmarkResults fs f).result =
      if loaderExits (fs f) then .error (.systemExit 2) else (openJson fs f).bind loadResults := by
  unfold loadBenchmarkResults openJson
  cases fs f <;> simp [loaderExits]

/-- A load the loader does not catch raises no `SystemExit`. -/
theorem noExit_loadBenchmarkResults {fs : FileSystem} {f : String} (h : loaderExits (fs f) = false) :
    RaisesOnly (·.isExit = false) (loadBenchmarkResults fs f).result := by
  rw [loadBenchmarkResults_result, h, if_neg Bool.false_ne_true]
  exact (noExit_openJson fs f).bind fun d _ => noExit_loadResults d

/-- The banner prints and never raises: the run ends as its three stages do. -/
theorem checkRegressions_result (fs : FileSystem) (currentFile baselineFile : String) :
    (checkRegressions fs currentFile baselineFile).result =
      (loadBenchmarkResults fs baselineFile).result.bind fun B =>
        (loadBenchmarkResults fs currentFile).result.bind fun C => (checkLoaded B C).result := by
  simp [checkRegressions]

/-- **The exit status.** With two paths, the status is 2 exactly when the
baseline file is missing or not JSON, or the baseline loads and the current
file is missing or not JSON; 0 exactly when `check_regressions` returns
`True`; and 1 otherwise. -/
theorem exitCode_main_contract (s currentFile baselineFile : String) (fs : FileSystem) :
    (exitCode (main [s, currentFile, baselineFile] fs).result = 2 ↔
        loaderExits (fs baselineFile) ∨
          (∃ B, (loadBenchmarkResults fs baselineFile).result = .ok B) ∧
            loaderExits (fs currentFile)) ∧
      (exitCode (main [s, currentFile, baselineFile] fs).result = 0 ↔
        (checkRegressions fs currentFile baselineFile).result = .ok true) ∧
      exitCode (main [s, currentFile, baselineFile] fs).result ≤ 2 := by
  rw [exitCode_main, checkRegressions_result]
  by_cases hb : loaderExits (fs baselineFile)
  · rw [loadBenchmarkResults_result, if_pos hb]
    simp [hb, exitCode]
  have hbn : loaderExits (fs baselineFile) = false := Bool.eq_false_iff.mpr hb
  cases hB : (loadBenchmarkResults fs baselineFile).result with
  | error e =>
    have h1 : exitCode (.error e : Except PyExc Unit) = 1 :=
      exitCode_error_of_not_isExit (noExit_loadBenchmarkResults hbn e hB)
    simp [hb, h1]
  | ok B =>
    by_cases hc : loaderExits (fs currentFile)
    · rw [loadBenchmarkResults_result fs currentFile, if_pos hc]
      simp [hb, hc, exitCode]
    have hcn : loaderExits (fs currentFile) = false := Bool.eq_false_iff.mpr hc
    cases hC : (loadBenchmarkResults fs currentFile).result with
    | error e =>
      have h1 : exitCode (.error e : Except PyExc Unit) = 1 :=
        exitCode_error_of_not_isExit (noExit_loadBenchmarkResults hcn e hC)
      simp [hb, hc, h1]
    | ok C =>
      cases hL : (checkLoaded B C).result with
      | error e =>
        have h1 : exitCode (.error e : Except PyExc Unit) = 1 :=
          exitCode_error_of_not_isExit (noExit_checkLoaded B C e hL)
        simp [hb, hc, h1, hL]
      | ok passed => cases passed <;> simp [hb, hc, hL]

end DiagonBench.Regression
