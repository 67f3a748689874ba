/-
DiagonBench.Aggregate.Order — the order of the paths given to
`aggregate_results.py` does not reach its stdout or its exit status.

`aggregate_benchmarks` appends the files' times in the order of the paths,
so a permutation of the paths permutes each name's list of times and
keeps the set of names (`aggregateBenchmarks_perm`). What `main` prints
from a list of times does not depend on its order:

* `statistics.median` sorts the times. Two permutations of one list of
  numbers sort into one list (`List.eq_of_perm_of_sorted`), whose middle
  value, or the mean of the two middle values, is one number
  (`median_perm_of_nums`). The two medians may still be different JSON
  values, `1` and `True`; `:.2f` prints both as `1.00`.
* the variance is a sum over the times (`sampleVariance_perm`).
* a name with two times or more of which one is not a number raises
  `TypeError` in either order: the median may sort or may raise
  `TypeError`, and then `statistics.stdev` raises it
  (`median_ok_or_typeError`). A name with one time has one order.

So the statistics print as the same rows, or raise the same exception
(`calculateStatistics_perm`), and `main_files_perm` follows. The lines on
stderr are another matter: `Error reading` lines come in the order of the
paths, and of several missing paths the first one is reported.

`printStatistics` is `main` after `aggregate_benchmarks`, cut out by an
equation (`main_eq_printStatistics`) so that two runs can be compared
there.
-/
import DiagonBench.Aggregate.StatisticsTheorems

namespace DiagonBench.Aggregate

open DiagonBench.Python

/-! ## 1. Converting a permutation -/

/-- A conversion of every value that returns gives the values' conversions. -/
theorem option_mapM_eq_filterMap {α β : Type} {f : α → Option β} {xs : List α} {ys : List β}
    (h : xs.mapM f = some ys) : ys = xs.filterMap f := by
  have h₂ := option_mapM_eq_some.mp h
  clear h
  induction h₂ with
  | nil => rfl
  | cons hxy _ ih => rw [List.filterMap_cons_some hxy, ← ih]

/-- Converting a permutation of the values returns when converting them does,
with a permutation of the results. -/
theorem option_mapM_perm {α β : Type} {f : α → Option β} {xs xs' : List α} {ys : List β}
    (hp : xs.Perm xs') (h : xs.mapM f = some ys) : ∃ ys', xs'.mapM f = some ys' ∧ ys.Perm ys' := by
  obtain ⟨ys', h'⟩ := option_mapM_of_forall fun x hx => by
    obtain ⟨y, -, hy⟩ := forall₂_mem_left (option_mapM_eq_some.mp h) (hp.mem_iff.mpr hx)
    exact ⟨y, hy⟩
  refine ⟨ys', h', ?_⟩
  rw [option_mapM_eq_filterMap h, option_mapM_eq_filterMap h']
  exact hp.filterMap f

/-- `statistics.stdev` does not read the order of the data. -/
theorem sampleVariance_perm {ts ts' : List JsonValue} (hp : ts.Perm ts') :
    sampleVariance ts = sampleVariance ts' := by
  unfold sampleVariance
  cases h : ts.mapM JsonValue.toNum? with
  | none =>
    cases h' : ts'.mapM JsonValue.toNum? with
    | none => rfl
    | some xs' =>
      obtain ⟨xs, hxs, -⟩ := option_mapM_perm hp.symm h'
      rw [h] at hxs; cases hxs
  | some xs =>
    obtain ⟨xs', h', hxx⟩ := option_mapM_perm hp h
    rw [h']
    dsimp only
    rw [hxx.length_eq, hxx.sum_eq, (hxx.map _).sum_eq]

/-! ## 2. The median of a permutation -/

/-- The median of an ascending list of numbers: the middle one, or the mean of
the two middle ones. -/
def medianOfSorted (qs : List ℚ) : ℚ :=
  if qs.length % 2 = 1 then qs.getD (qs.length / 2) 0
  else (qs.getD (qs.length / 2 - 1) 0 + qs.getD (qs.length / 2) 0) / 2

theorem toNum?_getD_of_mapM {ys : List JsonValue} {qs : List ℚ}
    (h : ys.mapM JsonValue.toNum? = some qs) {i : ℕ} (hi : i < qs.length) :
    (ys.getD i .null).toNum? = some (qs.getD i 0) := by
  obtain ⟨hlen, hat⟩ := List.forall₂_iff_get.mp (option_mapM_eq_some.mp h)
  rw [List.getD_eq_getElem _ _ (hlen ▸ hi), List.getD_eq_getElem _ _ hi]
  exact hat i (hlen ▸ hi) hi

/-- `statistics.median` returns a number worth the median of the sorted data. -/
theorem median_of_sorted_nums {data ys : List JsonValue} {qs : List ℚ}
    (hs : pySortBy data data = .ok ys) (hys : ys.mapM JsonValue.toNum? = some qs) (hne : qs ≠ []) :
    ∃ v, median data = .ok v ∧ v.toNum? = some (medianOfSorted qs) := by
  have hlen := (option_mapM_eq_some.mp hys).length_eq
  have hn : 0 < qs.length := List.length_pos.mpr hne
  simp only [median, hs, except_ok_bind, hlen, if_neg hn.ne', medianOfSorted]
  split_ifs with hodd
  · exact ⟨_, rfl, toNum?_getD_of_mapM hys (by omega)⟩
  · refine ⟨.num _, ?_, rfl⟩
    rw [midpoint, toNum?_getD_of_mapM hys (by omega), toNum?_getD_of_mapM hys (by omega)]

/-- Two permutations of a list of numbers have medians of one value. -/
theorem median_perm_of_nums {ts ts' : List JsonValue} {qs : List ℚ} (hp : ts.Perm ts')
    (h : ts.mapM JsonValue.toNum? = some qs) (hne : ts ≠ []) :
    ∃ v v' m, median ts = .ok v ∧ median ts' = .ok v' ∧ v.toNum? = some m ∧ v'.toNum? = some m := by
  obtain ⟨qs', h', hqq⟩ := option_mapM_perm hp h
  obtain ⟨ys, q₁, hs, hys, hsorted, hperm⟩ := pySortBy_self_of_nums h
  obtain ⟨ys', q₂, hs', hys', hsorted', hperm'⟩ := pySortBy_self_of_nums h'
  have heq : q₁ = q₂ := List.eq_of_perm_of_sorted (hperm.trans (hqq.trans hperm'.symm)) hsorted hsorted'
  subst heq
  have hq : q₁ ≠ [] := fun h0 => hne (by
    rw [h0, List.nil_perm] at hperm; subst hperm
    exact List.eq_nil_of_length_eq_zero (option_mapM_eq_some.mp h).length_eq)
  obtain ⟨v, hv, hvm⟩ := median_of_sorted_nums hs hys hq
  obtain ⟨v', hv', hvm'⟩ := median_of_sorted_nums hs' hys' hq
  exact ⟨v, v', _, hv, hv', hvm, hvm'⟩

/-- On data that is not empty, `statistics.median` returns or raises `TypeError`. -/
theorem median_ok_or_typeError {data : List JsonValue} (hne : data ≠ []) :
    (∃ v, median data = .ok v) ∨ median data = .error .typeError := by
  unfold median
  cases hs : pySortBy data data with
  | error e => exact .inr (by rw [pySortBy_eq_error hs]; rfl)
  | ok ys =>
    have hlen : ys.length ≠ 0 := by
      rw [(pySortBy_perm rfl hs).length_eq]; exact fun h => hne (List.eq_nil_of_length_eq_zero h)
    simp only [except_ok_bind, if_neg hlen]
    split_ifs
    · exact .inl ⟨_, rfl⟩
    · unfold midpoint
      split
      · exact .inl ⟨_, rfl⟩
      · exact .inr rfl

/-! ## 3. The statistics of a permutation -/

/-- A name whose times are permuted prints the same row, or raises the same
exception. -/
theorem statOf_perm {R R' : PyDict (List JsonValue)} {n : PyKey}
    (hp : ((R.get? n).getD []).Perm ((R'.get? n).getD [])) :
    Option.map printStat <$> statOf R n = Option.map printStat <$> statOf R' n := by
  unfold statOf
  generalize (R.get? n).getD [] = ts at hp ⊢
  generalize (R'.get? n).getD [] = ts' at hp ⊢
  by_cases h1 : ts.length ≤ 1
  · rw [eq_of_perm_of_length_le_one hp h1]
  have h2 : ts.length > 1 := by omega
  have h2' : ts'.length > 1 := hp.length_eq ▸ h2
  have hne : ts ≠ [] := List.ne_nil_of_length_pos (by omega)
  have hne' : ts' ≠ [] := List.ne_nil_of_length_pos (by omega)
  have hemp : ts.isEmpty = false := by simpa using hne
  have hemp' : ts'.isEmpty = false := by simpa using hne'
  simp only [hemp, hemp', if_pos h2, if_pos h2', Bool.false_eq_true, if_false]
  cases hq : ts.mapM JsonValue.toNum? with
  | some qs =>
    obtain ⟨v, v', m, hv, hv', hm, hm'⟩ := median_perm_of_nums hp hq hne
    rw [hv, hv', sampleVariance_perm hp]
    cases sampleVariance ts' with
    | error e => rfl
    | ok w =>
      show Except.ok (some (printStat ⟨n, v, w⟩)) = Except.ok (some (printStat ⟨n, v', w⟩))
      simp only [printStat, formatFixed_of_toNum? hm, formatFixed_of_toNum? hm']
  | none =>
    have hq' : ts'.mapM JsonValue.toNum? = none := by
      cases hq' : ts'.mapM JsonValue.toNum? with
      | none => rfl
      | some qs' =>
        obtain ⟨qs, h, -⟩ := option_mapM_perm hp.symm hq'
        rw [hq] at h; cases h
    have hvar : sampleVariance ts = .error .typeError := by simp only [sampleVariance, hq]
    have hvar' : sampleVariance ts' = .error .typeError := by simp only [sampleVariance, hq']
    rcases median_ok_or_typeError hne with ⟨v, hv⟩ | hv <;>
      rcases median_ok_or_typeError hne' with ⟨v', hv'⟩ | hv' <;>
      simp only [hv, hv', hvar, hvar'] <;> rfl

/-- `calculate_statistics` over dicts with the same names and permuted times
prints the same rows, or raises the same exception. -/
theorem calculateStatistics_perm {R R' : PyDict (List JsonValue)} (hk : R.keys = R'.keys)
    (hp : ∀ k, ((R.get? k).getD []).Perm ((R'.get? k).getD [])) :
    List.map printStat <$> calculateStatistics R = List.map printStat <$> calculateStatistics R' := by
  rw [calculateStatistics_eq, calculateStatistics_eq, hk]
  cases pySorted R'.keys with
  | error e => rfl
  | ok names =>
    have h : names.mapM (fun n => Option.map printStat <$> statOf R n) =
        names.mapM (fun n => Option.map printStat <$> statOf R' n) :=
      mapM_congr fun n _ => statOf_perm (hp n)
    rw [mapM_map_result, mapM_map_result] at h
    simp only [except_bind_ok]
    cases hm : names.mapM (statOf R) <;> cases hm' : names.mapM (statOf R') <;> rw [hm, hm'] at h
    · cases h; rfl
    · cases h
    · cases h
    · next os os' =>
      show Except.ok (os.reduceOption.map printStat) = Except.ok (os'.reduceOption.map printStat)
      rw [← List.reduceOption_map, ← List.reduceOption_map, Except.ok.inj h]

/-! ## 4. The run -/

theorem getD_extendWith_none (ts : List JsonValue) : (extendWith none ts).getD [] = ts := by
  unfold extendWith
  split_ifs with h
  · exact (List.isEmpty_iff.mp h).symm
  · rfl

theorem isSome_extendWith_none (ts : List JsonValue) : (extendWith none ts).isSome = !ts.isEmpty := by
  unfold extendWith
  split_ifs with h <;> simp [h]

/-- Permuted paths store the same names, each with its times permuted. -/
theorem aggregateBenchmarks_perm {files files' : List String} (hp : files.Perm files')
    (fs : FileSystem) :
    ∃ R R', (aggregateBenchmarks fs files).result = .ok R ∧
      (aggregateBenchmarks fs files').result = .ok R' ∧ R.keys = R'.keys ∧
      ∀ k, ((R.get? k).getD []).Perm ((R'.get? k).getD []) := by
  have ht : ∀ k, (timesUnder k (files.flatMap (contribution fs))).Perm
      (timesUnder k (files'.flatMap (contribution fs))) := fun k =>
    ((hp.flatMap_right _).filter _).map _
  refine ⟨_, _, aggregateBenchmarks_result fs files, aggregateBenchmarks_result fs files', ?_,
    fun k => ?_⟩
  · ext k
    simp only [PyDict.mem_keys, get?_appendAll, PyDict.get?_empty, isSome_extendWith_none,
      (ht k).isEmpty_eq]
  · simpa only [get?_appendAll, PyDict.get?_empty, getD_extendWith_none] using ht k

/-- `main` after `aggregate_benchmarks`, for `fileCount` paths. -/
def printStatistics (fileCount : ℕ) (results : PyDict (List JsonValue)) : Py Line Unit := do
  Py.exitIf (results.keys = ∅) (.text "Error: No benchmark results found in input files")
  let stats ← Py.lift (calculateStatistics results)
  Py.print (.text "benchmark,time_ns,stddev_ns")
  stats.forM printStat
  Py.eprint (.processed fileCount stats.length)

theorem main_eq_printStatistics (prog f : String) (files : List String) (fs : FileSystem) :
    main (prog :: f :: files) fs = (f :: files).forM (checkExists fs) >>= fun _ =>
      aggregateBenchmarks fs (f :: files) >>= printStatistics (f :: files).length := rfl

/-- The rest of `main` reads the dict only through its names and the rows its
statistics print. -/
theorem printStatistics_congr {R R' : PyDict (List JsonValue)} (n : ℕ) (hk : R.keys = R'.keys)
    (hc : List.map printStat <$> calculateStatistics R = List.map printStat <$> calculateStatistics R') :
    printStatistics n R = printStatistics n R' := by
  unfold printStatistics
  rw [hk]
  cases hR : calculateStatistics R <;> cases hR' : calculateStatistics R' <;> rw [hR, hR'] at hc
  · cases hc; rfl
  · cases hc
  · cases hc
  · next stats stats' =>
    have h : stats.map printStat = stats'.map printStat := Except.ok.inj hc
    simp only [Py.lift_bind, Py.forM_eq_of_map_eq h, ← List.length_map stats printStat, h,
      List.length_map]

/-- A path check writes to stderr only. -/
theorem checkExists_out_stderr (fs : FileSystem) (f : String) :
    ∀ l ∈ (checkExists fs f).out, l.1 = .stderr := by
  unfold checkExists Py.exitIf
  split_ifs <;> simp [Py.fail, Py.pure_eq]

/-- A missing path ends the checks with `sys.exit(1)`, whichever path it is. -/
theorem forM_checkExists_of_missing {fs : FileSystem} {files : List String}
    (h : ¬∀ f ∈ files, fs f ≠ .missing) :
    (files.forM (checkExists fs)).result = .error (.systemExit 1) := by
  cases hr : (files.forM (checkExists fs)).result with
  | ok u =>
    exact absurd (fun f hf => checkExists_result_eq_ok.mp (Py.forM_result_eq_ok.mp hr f hf)) h
  | error e =>
    rw [Py.raisesOnly_forM (S := (· = .systemExit 1)) (fun f _ e' he' => ?_) e hr]
    rw [checkExists, Py.exitIf_result] at he'
    split_ifs at he'
    cases he'
    rfl

/-- **The order of the paths does not matter.** Two runs of
`aggregate_results.py` over permuted paths end alike and print the same
stdout. -/
theorem main_files_perm {prog : String} {files files' : List String} (hp : files.Perm files')
    (fs : FileSystem) :
    (main (prog :: files) fs).result = (main (prog :: files') fs).result ∧
      ((main (prog :: files) fs).out.filter fun l => l.1 = .stdout).map Prod.snd =
        ((main (prog :: files') fs).out.filter fun l => l.1 = .stdout).map Prod.snd := by
  cases files with
  | nil => rw [← hp.nil_eq]; exact ⟨rfl, rfl⟩
  | cons f rest =>
    obtain ⟨f', rest', rfl⟩ := List.exists_cons_of_ne_nil fun h => List.cons_ne_nil f rest
      (hp.trans (.of_eq h)).eq_nil
    have hstderr : ∀ {out : List (Stream × Line)}, (∀ l ∈ out, l.1 = .stderr) →
        out.filter (fun l => l.1 = .stdout) = [] := fun h =>
      List.filter_eq_nil_iff.mpr fun l hl => by simp [h l hl]
    rw [main_eq_printStatistics, main_eq_printStatistics, ← hp.length_eq]
    by_cases hex : ∀ x ∈ f :: rest, fs x ≠ .missing
    · obtain ⟨R, R', hR, hR', hk, hperm⟩ := aggregateBenchmarks_perm hp fs
      rw [forM_checkExists hex, forM_checkExists fun x hx => hex x (hp.mem_iff.mpr hx),
        Py.pure_bind, Py.pure_bind, Py.bind_of_ok hR, Py.bind_of_ok hR',
        printStatistics_congr _ hk (calculateStatistics_perm hk hperm)]
      refine ⟨rfl, ?_⟩
      simp only [List.filter_append, hstderr (aggregateBenchmarks_out_stderr fs _), List.nil_append]
    · have hex' : ¬∀ x ∈ f' :: rest', fs x ≠ .missing := fun h => hex fun x hx => h x (hp.subset hx)
      rw [Py.bind_of_error (forM_checkExists_of_missing hex),
        Py.bind_of_error (forM_checkExists_of_missing hex')]
      refine ⟨rfl, ?_⟩
      simp only [hstderr (Py.forall_out_forM fun x _ => checkExists_out_stderr fs x)]

/-- Two runs of the same document, given in both orders. -/
theorem main_files_perm_swapped :
    ["run1.json", "run2.json"].Perm ["run2.json", "run1.json"] ∧
      (main ["aggregate_results.py", "run1.json", "run2.json"] fun _ => .json oneRun).result =
        (main ["aggregate_results.py", "run2.json", "run1.json"] fun _ => .json oneRun).result :=
  ⟨.swap _ _ _, (main_files_perm (.swap _ _ _) _).1⟩

end DiagonBench.Aggregate
