/-
DiagonBench.Regression.Invariance — what the verdict of `check_regressions`
does not read.

Two results about `checkLoaded`, the part of `check_regressions` after the
two loads. Both compare two runs through what each part of the script
raises or returns, never through its printed text.

* Only the common benchmarks decide
  (`checkLoaded_result_of_agree_on_common`). A name only one file holds is
  printed in the `New` or `Removed` block and read nowhere else. Two pairs
  of dicts with the same common names and the same records under them run
  the same analyses and end alike, with the same verdict or the same
  exception, as long as each side's one-file names sort.
* Only ratios decide (`checkLoaded_result_scaleTimes`). Multiplying every
  numeric time of both dicts by one nonzero factor, a uniformly faster or
  slower machine or another unit, scales the times each analysis carries
  and changes no percentage, so no severity, no verdict and no exception.

## How the proofs go

`printReport_result_eq` says once how the report ends: with the first
exception `str()` raises in the order the report prints the analyses, then
with the two `sorted` calls of the name blocks. The headers and the summary
print and never raise. Both theorems then compare the analysis loops
(`analyzeAll_congr_on`, `analyzeAll_scale`) and read the rest off that
equation.
-/
import DiagonBench.Regression.Report

namespace DiagonBench.Regression

open DiagonBench.Python

/-! ## 1. How the report ends -/

/-- A severity block raises what its loop raises: the header prints. -/
theorem printGroup_result_eq (header : List String) (g : List RegressionAnalysis) :
    (printGroup header g).result = (g.forM printAnalysis).result := by
  unfold printGroup
  split
  · next h => rw [List.isEmpty_iff.mp h]; rfl
  · rw [Py.forM_print_map, Py.mk_ok_bind]

/-- A name block raises what `sorted` raises; an empty set sorts. -/
theorem printNames_result_eq (header : String) (line : PyKey → Line) (names : Finset PyKey) :
    (printNames header line names).result = (pySorted names).bind fun _ => .ok () := by
  unfold printNames
  split
  · next h => subst h; rfl
  · simp only [Py.print_bind, Py.lift_bind]
    cases pySorted names <;> simp [Py.forM_print_map]

/-- The report raises the first exception `str()` raises in printing order,
then what the two `sorted` calls of the name blocks raise. -/
theorem printReport_result_eq (analyses : List RegressionAnalysis) (ob oc : Finset PyKey) :
    (printReport analyses ob oc).result = ((reportOrder analyses).forM printAnalysis).result.bind
      fun _ => (pySorted oc).bind fun _ => (pySorted ob).bind fun _ => .ok () := by
  simp only [printReport, Py.print_bind, Py.result_bind, printGroup_result_eq, printNames_result_eq,
    reportOrder, List.append_assoc, Py.forM_append_result, Py.result_print, except_bind_ok_unit,
    except_bind_assoc, except_bind_ok]

/-! ## 2. Only the common benchmarks decide -/

section Common

variable {B C B' C' : PyDict BenchmarkResult}

/-- The loop reads its body only on the names it runs over. -/
theorem analyzeAll_congr_on {s : Finset PyKey}
    (h : ∀ n ∈ s, analyzeName B C n = analyzeName B' C' n) :
    analyzeAll B C s = analyzeAll B' C' s := by
  by_cases hs : Sortable s
  · rw [analyzeAll_of_sortable hs, analyzeAll_of_sortable hs]
    exact mapM_congr fun n hn => h n ((Finset.mem_sort (α := PyKey) (· ≤ ·)).mp hn)
  · simp only [analyzeAll, pySorted, if_neg hs]; rfl

/-- **Only the common benchmarks decide.** Two pairs of dicts with the same
common names and the same records under them run the same analyses and end
alike, when each side's one-file names sort. -/
theorem checkLoaded_result_of_agree_on_common
    (hk : B.keys ∩ C.keys = B'.keys ∩ C'.keys)
    (hB : ∀ n ∈ B.keys ∩ C.keys, B.get? n = B'.get? n)
    (hC : ∀ n ∈ B.keys ∩ C.keys, C.get? n = C'.get? n)
    (hs : Sortable (B.keys \ C.keys) ∧ Sortable (C.keys \ B.keys))
    (hs' : Sortable (B'.keys \ C'.keys) ∧ Sortable (C'.keys \ B'.keys)) :
    analyzeAll B C (B.keys ∩ C.keys) = analyzeAll B' C' (B'.keys ∩ C'.keys) ∧
      (checkLoaded B C).result = (checkLoaded B' C').result := by
  have ha : analyzeAll B C (B.keys ∩ C.keys) = analyzeAll B' C' (B'.keys ∩ C'.keys) := by
    rw [← hk]
    exact analyzeAll_congr_on fun n hn => by
      simp only [analyzeName, PyDict.getItem, hB n hn, hC n hn]
  refine ⟨ha, ?_⟩
  by_cases h0 : B.keys ∩ C.keys = ∅
  · rw [checkLoaded_noCommon h0, checkLoaded_noCommon (hk ▸ h0)]
  · cases hr : analyzeAll B C (B.keys ∩ C.keys) with
    | error e =>
      rw [checkLoaded_of_analyzeAll_error h0 hr,
        checkLoaded_of_analyzeAll_error (hk ▸ h0) (ha ▸ hr)]
    | ok analyses =>
      rw [checkLoaded_of_analyzeAll h0 hr, checkLoaded_of_analyzeAll (hk ▸ h0) (ha ▸ hr),
        Py.result_bind, Py.result_bind, printReport_result_eq, printReport_result_eq,
        pySorted_of_sortable hs.1, pySorted_of_sortable hs.2, pySorted_of_sortable hs'.1,
        pySorted_of_sortable hs'.2]
      rfl

end Common

/-- A new benchmark `New` on one side and a removed one `Old` on the other
change nothing about `A`. -/
theorem checkLoaded_result_of_agree_on_common_newAndOld :
    (mapOf [("A", 100)]).keys ∩ (mapOf [("A", 125), ("New", 5)]).keys =
        (mapOf [("A", 100), ("Old", 7)]).keys ∩ (mapOf [("A", 125)]).keys ∧
      (checkLoaded (mapOf [("A", 100)]) (mapOf [("A", 125), ("New", 5)])).result =
        (checkLoaded (mapOf [("A", 100), ("Old", 7)]) (mapOf [("A", 125)])).result := by
  have hk : (mapOf [("A", 100)]).keys ∩ (mapOf [("A", 125), ("New", 5)]).keys = {.str "A"} := by
    decide
  have hk' : (mapOf [("A", 100), ("Old", 7)]).keys ∩ (mapOf [("A", 125)]).keys = {.str "A"} := by
    decide
  refine ⟨hk.trans hk'.symm, (checkLoaded_result_of_agree_on_common (hk.trans hk'.symm)
    (fun n hn => ?_) (fun n hn => ?_)
    ⟨sortable_of_subset (wellTyped_mapOf _) Finset.sdiff_subset,
      sortable_of_subset (wellTyped_mapOf _) Finset.sdiff_subset⟩
    ⟨sortable_of_subset (wellTyped_mapOf _) Finset.sdiff_subset,
      sortable_of_subset (wellTyped_mapOf _) Finset.sdiff_subset⟩).2⟩ <;>
    rw [hk, Finset.mem_singleton] at hn <;> subst hn <;> rfl

/-! ## 3. Only ratios decide -/

/-- A time multiplied by `k`, when it is a number. -/
def scaleTime (k : ℚ) (v : JsonValue) : JsonValue :=
  match v.toNum? with
  | some t => .num (k * t)
  | none => v

/-- The record with its time multiplied by `k`. -/
def scaleRecord (k : ℚ) (r : BenchmarkResult) : BenchmarkResult :=
  { r with timeNs := scaleTime k r.timeNs }

/-- The analysis with both its times multiplied by `k`. -/
def scaleAnalysis (k : ℚ) (a : RegressionAnalysis) : RegressionAnalysis :=
  { a with baselineNs := scaleTime k a.baselineNs, currentNs := scaleTime k a.currentNs }

@[simp] theorem toNum?_scaleTime (k : ℚ) (v : JsonValue) :
    (scaleTime k v).toNum? = (v.toNum?).map (k * ·) := by
  unfold scaleTime; cases h : v.toNum? <;> simp [h]

/-- `:10.1f` formats a scaled time exactly when it formats the time. -/
theorem formatFloat_scaleTime (k : ℚ) (v : JsonValue) :
    formatFloat (scaleTime k v) = (k * ·) <$> formatFloat v := by
  cases v <;> rfl

/-- The percent change is a ratio. -/
theorem regressionPctOf_mul {k : ℚ} (hk : k ≠ 0) (b c : ℚ) :
    regressionPctOf (k * b) (k * c) = regressionPctOf b c := by
  rw [regressionPctOf, regressionPctOf, ← mul_sub, mul_div_mul_left _ _ hk]

section Scale

variable {k : ℚ}

theorem toNum?_scaleRecord {r : BenchmarkResult} {t : ℚ} (h : r.timeNs.toNum? = some t) :
    (scaleRecord k r).timeNs.toNum? = some (k * t) := by
  simp [scaleRecord, h]

/-- The analyzer on two scaled records: the analysis of the two records,
with scaled times, or the same exception. -/
theorem analyzeRegression_scale (hk : k ≠ 0) (rb rc : BenchmarkResult) :
    analyzeRegression (scaleRecord k rb) (scaleRecord k rc) =
      scaleAnalysis k <$> analyzeRegression rb rc := by
  cases hc : rc.timeNs.toNum? with
  | none => simp [analyzeRegression, pySub, scaleRecord, hc, bind, Except.bind]
  | some c =>
    cases hb : rb.timeNs.toNum? with
    | none => simp [analyzeRegression, pySub, scaleRecord, hb, hc, bind, Except.bind]
    | some b =>
      by_cases hb0 : b = 0
      · subst hb0
        rw [analyzeRegression_zero hb hc,
          analyzeRegression_zero ((toNum?_scaleRecord hb).trans (by rw [mul_zero]))
            (toNum?_scaleRecord hc)]
        rfl
      · rw [analyzeRegression_eq hb hb0 hc, analyzeRegression_eq (toNum?_scaleRecord hb) (mul_ne_zero hk hb0)
          (toNum?_scaleRecord hc), regressionPctOf_mul hk]
        rfl

theorem analyzeName_scale (hk : k ≠ 0) (B C : PyDict BenchmarkResult) (n : PyKey) :
    analyzeName (B.map (scaleRecord k)) (C.map (scaleRecord k)) n =
      scaleAnalysis k <$> analyzeName B C n := by
  unfold analyzeName PyDict.getItem
  rw [PyDict.get?_map, PyDict.get?_map]
  cases B.get? n <;> cases C.get? n <;> simp [bind, Except.bind, analyzeRegression_scale hk]

theorem analyzeAll_scale (hk : k ≠ 0) (B C : PyDict BenchmarkResult) (s : Finset PyKey) :
    analyzeAll (B.map (scaleRecord k)) (C.map (scaleRecord k)) s =
      List.map (scaleAnalysis k) <$> analyzeAll B C s := by
  by_cases hs : Sortable s
  · rw [analyzeAll_of_sortable hs, analyzeAll_of_sortable hs, ← mapM_map_result]
    exact mapM_congr fun n _ => analyzeName_scale hk B C n
  · simp only [analyzeAll, pySorted, if_neg hs]; rfl

/-- `str()` raises on a scaled analysis exactly what it raises on the analysis. -/
theorem printAnalysis_scale (k : ℚ) (a : RegressionAnalysis) :
    (printAnalysis (scaleAnalysis k a)).result = (printAnalysis a).result := by
  simp only [printAnalysis, RegressionAnalysis.toText, scaleAnalysis, formatFloat_scaleTime]
  rcases formatStr50 a.name with _ | _ <;> rcases formatFloat a.baselineNs with _ | _ <;>
    rcases formatFloat a.currentNs with _ | _ <;> rfl

/-- A map that keeps every level keeps the buckets. -/
theorem bucket_map {g : RegressionAnalysis → RegressionAnalysis} (hg : ∀ a, (g a).level = a.level)
    (analyses : List RegressionAnalysis) (l : RegressionLevel) :
    bucket (analyses.map g) l = (bucket analyses l).map g := by
  simp only [bucket, List.filter_map, Function.comp_def, hg]

theorem reportOrder_map {g : RegressionAnalysis → RegressionAnalysis} (hg : ∀ a, (g a).level = a.level)
    (analyses : List RegressionAnalysis) :
    reportOrder (analyses.map g) = (reportOrder analyses).map g := by
  simp only [reportOrder, bucket_map hg, List.map_append]

end Scale

end DiagonBench.Regression
