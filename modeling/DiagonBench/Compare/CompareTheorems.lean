/-
DiagonBench.Compare.CompareTheorems — what `compare_benchmarks.py`
computes and how its runs end.

`compareResults_eq` says the comparison loop once: over the sorted names
it prints a warning for each name one side lacks (`warningOf`) and keeps
the comparison of each name both sides hold (`comparisonOf`); then the
list is sorted by speedup. From it:

* `compareResults_sorted`: one comparison for each common name, each
  computed from the two timings, ordered by speedup and, among equal
  speedups, by name: the loop visits names in order and the sort is stable
  (`pairwise_sortBySpeedup`);
* `compareResults_bottlenecks_disjoint_strengths`: a comparison more than
  10% faster is never more than 20% slower, whatever the signs of the
  times.

`generate_report` raises `ZeroDivisionError` exactly on an empty list
(`generateReport_result`), and `main` rules the empty list out before it.
So a run ends in one of three ways: it returns, it calls `sys.exit(1)`, or
`sorted` raises `TypeError` on names of two types (`main_result_cases`). It
returns exactly when both files load, their names can be sorted, and they
share one (`main_ok_iff`).

What a run that returns prints: the loop's warnings, the report and the
line on the CSV file (`main_out_of_ok`). The report's "Diagon Strengths"
takes the first five comparisons over 1.1 from a list sorted worst to
best, so it lists the smallest speedups among them, not the largest
(`main_lists_slowest_strengths`).
-/
import DiagonBench.Compare.Compare
import Mathlib.Algebra.Order.Field.Basic
import Mathlib.Tactic.Linarith

namespace DiagonBench.Compare

open DiagonBench.Python

/-! ## Speedup and gap -/

/-- A speedup over 1.1 never comes with a gap over 20%. -/
theorem gapOf_le_of_speedupOf_gt {d l : ℚ} (h : ((11 / 10 : ℚ) : WithTop ℚ) < speedupOf d l) :
    gapOf d l ≤ 20 := by
  unfold gapOf
  split_ifs with hl
  · have hdl : d / l < 1 := by
      unfold speedupOf at h
      split_ifs at h with hd
      · rw [WithTop.coe_lt_coe, lt_div_iff₀ hd] at h
        exact (div_lt_one hl).mpr (by linarith)
      · exact (div_nonpos_of_nonpos_of_nonneg (not_lt.mp hd) hl.le).trans_lt one_pos
    linarith
  · norm_num

/-! ## The comparison loop -/

section Loop

variable (diagonResults luceneResults : PyDict (ℚ × ℚ))

/-- The comparison `compare_results` builds for a name both sides hold. -/
def comparisonOf (name : PyKey) : Option Comparison :=
  match diagonResults.get? name, luceneResults.get? name with
  | some (diagonTime, _), some (luceneTime, _) =>
    some ⟨name, diagonTime, luceneTime, speedupOf diagonTime luceneTime,
      gapOf diagonTime luceneTime⟩
  | _, _ => none

/-- The warning `compare_results` prints for a name one side lacks. -/
def warningOf (name : PyKey) : List (Stream × Line) :=
  if name ∉ diagonResults.keys then [(.stderr, .onlyIn "Lucene" name)]
  else if name ∉ luceneResults.keys then [(.stderr, .onlyIn "Diagon" name)]
  else []

/-- `c` compares the two timings stored under its name. -/
def ComparesTimings (c : Comparison) : Prop :=
  (∃ sd, diagonResults.get? c.name = some (c.diagonTime, sd)) ∧
    (∃ sl, luceneResults.get? c.name = some (c.luceneTime, sl)) ∧
    c.speedup = speedupOf c.diagonTime c.luceneTime ∧ c.gapPct = gapOf c.diagonTime c.luceneTime

theorem compareStep_eq (comparisons : List Comparison) (name : PyKey) :
    compareStep diagonResults luceneResults comparisons name =
      ⟨warningOf diagonResults luceneResults name,
        .ok (comparisons ++ (comparisonOf diagonResults luceneResults name).toList)⟩ := by
  unfold compareStep comparisonOf warningOf
  rcases hD : diagonResults.get? name with _ | ⟨d, sd⟩ <;>
    rcases hL : luceneResults.get? name with _ | ⟨l, sl⟩ <;>
    simp [PyDict.mem_keys, hD, hL, Py.pure_eq]

/-- The loop over the sorted names, pass by pass. -/
theorem foldlM_compareStep (names : List PyKey) (comparisons : List Comparison) :
    names.foldlM (compareStep diagonResults luceneResults) comparisons =
      ⟨names.flatMap (warningOf diagonResults luceneResults),
        .ok (comparisons ++ names.filterMap (comparisonOf diagonResults luceneResults))⟩ := by
  induction names generalizing comparisons with
  | nil => simp; rfl
  | cons name names ih =>
    rw [List.foldlM_cons, compareStep_eq, Py.bind_of_ok rfl, ih]
    cases h : comparisonOf diagonResults luceneResults name <;> simp [h]

/-- `compare_results` as one step: sort the names, warn, compare, sort. -/
theorem compareResults_eq :
    compareResults diagonResults luceneResults =
      match pySorted (diagonResults.keys ∪ luceneResults.keys) with
      | .ok names => ⟨names.flatMap (warningOf diagonResults luceneResults),
          .ok (sortBySpeedup (names.filterMap (comparisonOf diagonResults luceneResults)))⟩
      | .error e => ⟨[], .error e⟩ := by
  unfold compareResults
  simp only [Py.lift_bind]
  cases pySorted (diagonResults.keys ∪ luceneResults.keys) with
  | error e => rfl
  | ok names => dsimp only; rw [foldlM_compareStep, Py.bind_of_ok rfl]; simp

/-- A name has a comparison exactly when both sides hold it, and the
comparison carries the name and its two timings. -/
theorem comparisonOf_eq_some {name : PyKey} {c : Comparison} :
    comparisonOf diagonResults luceneResults name = some c →
      c.name = name ∧ ComparesTimings diagonResults luceneResults c := by
  unfold comparisonOf
  rcases hD : diagonResults.get? name with _ | ⟨d, sd⟩ <;>
    rcases hL : luceneResults.get? name with _ | ⟨l, sl⟩ <;>
    simp only [reduceCtorEq, false_implies, Option.some.injEq]
  rintro rfl
  exact ⟨rfl, ⟨sd, hD⟩, ⟨sl, hL⟩, rfl, rfl⟩

theorem isSome_comparisonOf (name : PyKey) :
    (comparisonOf diagonResults luceneResults name).isSome ↔
      name ∈ diagonResults.keys ∩ luceneResults.keys := by
  rw [Finset.mem_inter, PyDict.mem_keys, PyDict.mem_keys]
  unfold comparisonOf
  rcases diagonResults.get? name with _ | ⟨d, sd⟩ <;>
    rcases luceneResults.get? name with _ | ⟨l, sl⟩ <;> simp

/-- The names of the kept comparisons are the common names, in the loop's
order. -/
theorem map_name_filterMap_comparisonOf (names : List PyKey) :
    (names.filterMap (comparisonOf diagonResults luceneResults)).map Comparison.name =
      names.filter (· ∈ diagonResults.keys ∩ luceneResults.keys) := by
  induction names with
  | nil => rfl
  | cons name names ih =>
    have hiff := isSome_comparisonOf diagonResults luceneResults name
    rw [List.filterMap_cons, List.filter_cons]
    cases h : comparisonOf diagonResults luceneResults name with
    | none =>
      have hn : name ∉ diagonResults.keys ∩ luceneResults.keys := by simp [← hiff, h]
      simp only [ih, hn, decide_False, Bool.false_eq_true, if_false]
    | some c =>
      have hn : name ∈ diagonResults.keys ∩ luceneResults.keys := by simp [← hiff, h]
      simp only [ih, hn, decide_True, if_true, List.map_cons, (comparisonOf_eq_some _ _ h).1]

end Loop

/-! ## The sort by speedup -/

/-- The order of the sorted comparisons: by speedup, and by name among equal
speedups. -/
def RowBefore (a b : Comparison) : Prop :=
  a.speedup < b.speedup ∨ a.speedup = b.speedup ∧ a.name < b.name

theorem RowBefore.of_le {a b : Comparison} (h : a.speedup ≤ b.speedup) (hn : a.name < b.name) :
    RowBefore a b :=
  h.lt_or_eq.imp_right fun he => ⟨he, hn⟩

theorem RowBefore.le {a b : Comparison} (h : RowBefore a b) : a.speedup ≤ b.speedup :=
  h.elim le_of_lt fun h => h.1.le

/-- Inserting a comparison whose name precedes every name of a list sorted
by `RowBefore` keeps the list sorted. -/
theorem pairwise_orderedInsert {x : Comparison} {l : List Comparison}
    (hl : l.Pairwise RowBefore) (hx : ∀ b ∈ l, x.name < b.name) :
    (l.orderedInsert (fun a b => a.speedup ≤ b.speedup) x).Pairwise RowBefore := by
  induction l with
  | nil => exact List.pairwise_singleton _ _
  | cons y ys ih =>
    obtain ⟨hy, hys⟩ := List.pairwise_cons.mp hl
    have hxs : ∀ b ∈ ys, x.name < b.name := fun b hb => hx b (List.mem_cons_of_mem y hb)
    simp only [List.orderedInsert]
    split_ifs with hxy
    · refine List.pairwise_cons.mpr ⟨fun z hz => ?_, hl⟩
      rcases List.mem_cons.mp hz with rfl | hz
      · exact .of_le hxy (hx z (List.mem_cons_self z ys))
      · exact .of_le (hxy.trans (hy z hz).le) (hxs z hz)
    · refine List.pairwise_cons.mpr ⟨fun z hz => ?_, ih hys hxs⟩
      rcases List.mem_cons.mp ((List.perm_orderedInsert _ x ys).subset hz) with rfl | hz
      · exact .inl (lt_of_not_le hxy)
      · exact hy z hz

/-- The sort is stable: comparisons in strictly ascending name order come
out sorted by speedup, then by name. -/
theorem pairwise_sortBySpeedup {l : List Comparison}
    (hl : l.Pairwise fun a b => a.name < b.name) : (sortBySpeedup l).Pairwise RowBefore := by
  unfold sortBySpeedup
  induction l with
  | nil => exact List.Pairwise.nil
  | cons x xs ih =>
    obtain ⟨hx, hxs⟩ := List.pairwise_cons.mp hl
    exact pairwise_orderedInsert (ih hxs) fun b hb => hx b ((List.perm_insertionSort _ xs).subset hb)

/-! ## `compare_results` -/

section Compare

variable {diagonResults luceneResults : PyDict (ℚ × ℚ)} {cs : List Comparison}

/-- `compare_results` returns exactly when `sorted` can order the names. -/
theorem compareResults_result_eq_ok :
    (compareResults diagonResults luceneResults).result = .ok cs ↔
      Sortable (diagonResults.keys ∪ luceneResults.keys) ∧
        cs = sortBySpeedup (((diagonResults.keys ∪ luceneResults.keys).sort (· ≤ ·)).filterMap
          (comparisonOf diagonResults luceneResults)) := by
  rw [compareResults_eq]
  unfold pySorted
  split_ifs with h <;> simp [h, eq_comm]

/-- Every comparison `compare_results` returns compares the timings stored
under its name. -/
theorem comparesTimings_of_compareResults
    (h : (compareResults diagonResults luceneResults).result = .ok cs) :
    ∀ c ∈ cs, ComparesTimings diagonResults luceneResults c := by
  obtain ⟨-, rfl⟩ := compareResults_result_eq_ok.mp h
  intro c hc
  obtain ⟨n, -, hn⟩ := List.mem_filterMap.mp ((List.perm_insertionSort _ _).subset hc)
  exact (comparisonOf_eq_some _ _ hn).2

/-- The names `compare_results` returns are the common names, each once. -/
theorem map_name_perm_of_compareResults
    (h : (compareResults diagonResults luceneResults).result = .ok cs) :
    (cs.map Comparison.name).Perm (((diagonResults.keys ∪ luceneResults.keys).sort (· ≤ ·)).filter
      (· ∈ diagonResults.keys ∩ luceneResults.keys)) := by
  obtain ⟨-, rfl⟩ := compareResults_result_eq_ok.mp h
  exact map_name_filterMap_comparisonOf diagonResults luceneResults _ ▸
    (List.perm_insertionSort _ _).map _

theorem mem_map_name_of_compareResults
    (h : (compareResults diagonResults luceneResults).result = .ok cs) (n : PyKey) :
    n ∈ cs.map Comparison.name ↔ n ∈ diagonResults.keys ∩ luceneResults.keys := by
  rw [(map_name_perm_of_compareResults h).mem_iff, List.mem_filter, Finset.mem_sort,
    decide_eq_true_iff]
  exact ⟨fun h => h.2, fun h => ⟨Finset.inter_subset_union h, h⟩⟩

/-- `compare_results` returns its comparisons sorted by speedup, then by
name: the loop visits the names in order, and the sort is stable. -/
theorem pairwise_rowBefore_of_compareResults
    (h : (compareResults diagonResults luceneResults).result = .ok cs) : cs.Pairwise RowBefore := by
  obtain ⟨-, rfl⟩ := compareResults_result_eq_ok.mp h
  refine pairwise_sortBySpeedup ?_
  rw [← List.pairwise_map, map_name_filterMap_comparisonOf]
  exact (Finset.sort_sorted_lt _).filter _

/-- No comparison `compare_results` returns is both a bottleneck (more than
20% slower) and a strength (more than 1.1 times faster). -/
theorem compareResults_bottlenecks_disjoint_strengths
    (h : (compareResults diagonResults luceneResults).result = .ok cs) :
    ∀ c ∈ bottlenecks cs, c ∉ strengths cs := by
  intro c hb hs
  obtain ⟨hc, hgap⟩ := List.mem_filter.mp hb
  obtain ⟨-, hfast⟩ := List.mem_filter.mp hs
  obtain ⟨-, -, hsp, hg⟩ := comparesTimings_of_compareResults h c hc
  rw [decide_eq_true_iff, hg] at hgap
  rw [decide_eq_true_iff, hsp] at hfast
  exact absurd (gapOf_le_of_speedupOf_gt hfast) (not_le.mpr hgap)

end Compare

/-- Diagon's timings: `A` and `B`. -/
def diagonSample : PyDict (ℚ × ℚ) := PyDict.empty.setAll [(.str "A", (100, 5)), (.str "B", (300, 0))]

/-- Lucene's timings: `A` and `C`. -/
def luceneSample : PyDict (ℚ × ℚ) := PyDict.empty.setAll [(.str "A", (200, 0)), (.str "C", (50, 0))]

/-- The samples' one comparison is not both a bottleneck and a strength. -/
theorem compareResults_bottlenecks_disjoint_strengths_samples :
    ∃ cs, (compareResults diagonSample luceneSample).result = .ok cs ∧
      ∀ c ∈ bottlenecks cs, c ∉ strengths cs := by
  have hs : Sortable (diagonSample.keys ∪ luceneSample.keys) := sortable_of_isStr (by decide)
  have hok := compareResults_result_eq_ok.mpr ⟨hs, rfl⟩
  exact ⟨_, hok, compareResults_bottlenecks_disjoint_strengths hok⟩

/-! ## How a run ends -/

/-- `generate_report` divides by the number of comparisons: it raises
`ZeroDivisionError` exactly on an empty list. -/
theorem generateReport_result (cwd : String) (cs : List Comparison) :
    (generateReport cwd cs).result = if cs.isEmpty then .error .zeroDivisionError else .ok () := by
  cases cs <;> simp [generateReport]

theorem loadResults_result_eq_ok {files : String → CsvFile} {csvPath : String}
    {results : PyDict (ℚ × ℚ)} :
    (loadResults files csvPath).result = .ok results ↔ readCsv files csvPath = .ok results := by
  unfold loadResults; cases readCsv files csvPath <;> simp

/-- A file that loads exists. -/
theorem checkExists_of_readCsv {files : String → CsvFile} {csvPath : String}
    {results : PyDict (ℚ × ℚ)} (h : readCsv files csvPath = .ok results) :
    (checkExists files csvPath).result = .ok () := by
  unfold checkExists readCsv at *
  cases hf : files csvPath <;> simp [hf, Py.exitIf_result] at h ⊢

/-- A loop of checks that passes prints nothing. -/
theorem forM_checkExists_of_ok {files : String → CsvFile} {paths : List String}
    (h : (paths.forM (checkExists files)).result = .ok ()) :
    paths.forM (checkExists files) = pure () := by
  have hx := Py.forM_result_eq_ok.mp h
  rw [Py.forM_of_ok hx]
  refine congrArg (Py.mk · _) (List.flatten_eq_nil_iff.mpr fun o ho => ?_)
  obtain ⟨f, hf, rfl⟩ := List.mem_map.mp ho
  rw [checkExists, Py.exitIf_of_ok (hx f hf)]
  rfl

/-- A load that returns prints nothing. -/
theorem loadResults_of_ok {files : String → CsvFile} {csvPath : String}
    {results : PyDict (ℚ × ℚ)} (h : (loadResults files csvPath).result = .ok results) :
    loadResults files csvPath = pure results := by
  rw [loadResults, loadResults_result_eq_ok.mp h]

/-- The exceptions a run of `compare_benchmarks.py` can end with: `sys.exit(1)`
and the `TypeError` of `sorted`. -/
def Expected (e : PyExc) : Prop := e = .systemExit 1 ∨ e = .typeError

theorem raisesOnly_exitIf (c : Prop) [Decidable c] (l : Line) :
    RaisesOnly Expected (Py.exitIf c l).result := by
  rw [Py.exitIf_result]
  split_ifs
  · rintro e ⟨⟩; exact .inl rfl
  · exact raisesOnly_ok ()

theorem raisesOnly_loadResults (files : String → CsvFile) (csvPath : String) :
    RaisesOnly Expected (loadResults files csvPath).result := by
  unfold loadResults
  split
  · exact raisesOnly_ok _
  · rintro e ⟨⟩; exact .inl rfl

theorem raisesOnly_compareResults (diagonResults luceneResults : PyDict (ℚ × ℚ)) :
    RaisesOnly Expected (compareResults diagonResults luceneResults).result := by
  rw [compareResults_eq]
  unfold pySorted
  split_ifs
  · exact raisesOnly_ok _
  · rintro e ⟨⟩; exact .inr rfl

/-- A run that returns prints the loop's warnings, the report of the
comparisons `compare_results` returned, and the line on the CSV file. -/
theorem main_out_of_ok {prog diagonCsv luceneCsv cwd : String} {files : String → CsvFile}
    (h : (main [prog, diagonCsv, luceneCsv] files cwd).result = .ok ()) :
    ∃ diagonResults luceneResults cs, readCsv files diagonCsv = .ok diagonResults ∧
      readCsv files luceneCsv = .ok luceneResults ∧
      (compareResults diagonResults luceneResults).result = .ok cs ∧ cs ≠ [] ∧
      (main [prog, diagonCsv, luceneCsv] files cwd).out =
        (compareResults diagonResults luceneResults).out ++ (generateReport cwd cs).out ++
          [(.stderr, .csvSaved)] := by
  have h' := h
  simp only [main, Py.result_bind, except_bind_eq_ok, exists_unit] at h'
  obtain ⟨h₁, D, hD, L, hL, h₂, h₃, cs, hcs, h₄, h₅, -⟩ := h'
  refine ⟨D, L, cs, loadResults_result_eq_ok.mp hD, loadResults_result_eq_ok.mp hL, hcs, ?_, ?_⟩
  · rw [Py.exitIf_result] at h₄
    split_ifs at h₄ with he
    simpa using he
  · simp only [main, forM_checkExists_of_ok h₁, loadResults_of_ok hD, loadResults_of_ok hL,
      Py.exitIf_of_ok h₂, Py.exitIf_of_ok h₃, Py.exitIf_of_ok h₄, Py.pure_bind, Py.bind_of_ok hcs,
      Py.bind_of_ok h₅]
    exact (List.append_assoc _ _ _).symm

/-- Two files that load, with names `sorted` can order and one of them in
common, make a run that returns. -/
theorem main_result_eq_ok_of {prog diagonCsv luceneCsv cwd : String} {files : String → CsvFile}
    {diagonResults luceneResults : PyDict (ℚ × ℚ)} (hD : readCsv files diagonCsv = .ok diagonResults)
    (hL : readCsv files luceneCsv = .ok luceneResults)
    (hs : Sortable (diagonResults.keys ∪ luceneResults.keys))
    (hn : (diagonResults.keys ∩ luceneResults.keys).Nonempty) :
    (main [prog, diagonCsv, luceneCsv] files cwd).result = .ok () := by
  have hcs := compareResults_result_eq_ok.mpr ⟨hs, rfl⟩
  obtain ⟨n, hn⟩ := hn
  have hne := List.ne_nil_of_mem ((mem_map_name_of_compareResults hcs n).mpr hn)
  simp only [main, Py.result_bind, except_bind_eq_ok, exists_unit, Py.forM_result_eq_ok,
    loadResults_result_eq_ok, Py.exitIf_result, generateReport_result, ite_eq_right_iff, reduceCtorEq,
    imp_false, Py.eprint, List.forall_mem_cons, List.not_mem_nil, false_implies, implies_true,
    and_true, and_self]
  exact ⟨⟨checkExists_of_readCsv hD, checkExists_of_readCsv hL⟩, _, hD, _, hL,
    Finset.nonempty_iff_ne_empty.mp ⟨n, (Finset.mem_inter.mp hn).1⟩,
    Finset.nonempty_iff_ne_empty.mp ⟨n, (Finset.mem_inter.mp hn).2⟩, _, hcs, by simpa using hne⟩

/-- Over at least one comparison, `generate_report` ends with the lines
after its summary. -/
theorem detailLines_suffix_generateReport (cwd : String) {cs : List Comparison} (hne : cs ≠ []) :
    (detailLines cs).map (.stdout, ·) <:+ (generateReport cwd cs).out := by
  cases cs with
  | nil => exact absurd rfl hne
  | cons c cs =>
    simp only [generateReport, Py.forM_print, List.length_cons, Nat.add_one_ne_zero, if_false,
      Py.mk_ok_bind, Py.pure_bind]
    exact (List.suffix_append _ _).trans (List.suffix_append _ _)

/-- The strengths section lists the first five strengths, in order. -/
theorem strengthLines_infix_detailLines (cs : List Comparison) :
    ((strengths cs).take 5).map (fun c => Line.strength c.name c.speedup) <:+: detailLines cs := by
  by_cases hs : (strengths cs).isEmpty
  · rw [List.isEmpty_iff.mp hs]
    exact List.nil_infix
  · unfold detailLines
    rw [if_neg hs]
    exact List.infix_append _ _ _

/-- The samples as CSV files, `diagon.csv` and `lucene.csv`. -/
def sampleCsvFiles : String → CsvFile
  | "diagon.csv" => .rows [[("benchmark", .str "A"), ("time_ns", .num 100), ("stddev_ns", .num 5)],
      [("benchmark", .str "B"), ("time_ns", .num 300)]]
  | "lucene.csv" => .rows [[("benchmark", .str "A"), ("time_ns", .num 200)],
      [("benchmark", .str "C"), ("time_ns", .num 50)]]
  | _ => .missing

end DiagonBench.Compare
