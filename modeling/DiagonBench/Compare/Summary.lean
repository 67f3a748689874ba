/-
DiagonBench.Compare.Summary — the summary of the comparison report agrees
with its table.

`generate_report` counts `diagon_faster` as the comparisons with a speedup
over 1.0 and `lucene_faster` as the rest, and prints each count with its
share of the total. The table below has one row per comparison. So in
every run that returns, the two counts add up to the number of rows, and
the two percentages to 100 (`main_summary_counts_rows`).

A row's status uses other thresholds than the count: `🟢` from 1.0 up,
so a comparison with a speedup of exactly 1.0 is marked green and counted
under Lucene. A bottleneck, more than 20% slower, is never that close:
its speedup is below 0.9, so its row is marked `❌` and it is counted
under Lucene (`compareResults_bottlenecks_marked_slower`), whatever the
signs of the times.

The two lists under the table sit at its ends, since the table is sorted
by speedup, worst first: the strengths, speedups over 1.1, are its last
rows, and when every Lucene time is positive the bottlenecks are its first
rows (`compareResults_bottlenecks_first_strengths_last`). There a gap over
20% is exactly a speedup under 5/6.

The verdict after the average agrees with the rows: the report says Diagon
outperforms Lucene overall only if some comparison has a speedup over 1,
and underperforms only if some has a speedup under 1
(`main_verdict_agrees_with_rows`). Speedups all at most 1 average at most
1, and speedups all at least 1 average at least 1, `inf` included.
-/
import DiagonBench.Compare.CompareTheorems
import Mathlib.Algebra.Order.BigOperators.Group.List
import Mathlib.Tactic.FieldSimp
import Mathlib.Tactic.Ring

namespace DiagonBench.Compare

open DiagonBench.Python

/-! ## The summary counts -/

/-- The comparisons `generate_report` counts as Diagon faster. -/
theorem generateReport_summary_lines (cwd : String) {cs : List Comparison} (hne : cs ≠ []) :
    [(.stdout, .compared cs.length),
      (.stdout, .faster "Diagon" (cs.filter fun c => c.speedup > ((1 : ℚ) : WithTop ℚ)).length
        (((cs.filter fun c => c.speedup > ((1 : ℚ) : WithTop ℚ)).length : ℚ) / cs.length * 100)),
      (.stdout, .faster "Lucene"
        (cs.length - (cs.filter fun c => c.speedup > ((1 : ℚ) : WithTop ℚ)).length)
        (((cs.length - (cs.filter fun c => c.speedup > ((1 : ℚ) : WithTop ℚ)).length : ℕ) : ℚ) /
          cs.length * 100))] <:+: (generateReport cwd cs).out := by
  cases cs with
  | nil => exact absurd rfl hne
  | cons c cs =>
    simp only [generateReport, Py.forM_print, List.length_cons, Nat.add_one_ne_zero, if_false,
      Py.mk_ok_bind, Py.pure_bind, List.map_cons, List.cons_append]
    iterate 5 refine List.infix_cons ?_
    exact (List.prefix_append _ _).isInfix

/-- Counts that split a total have shares that add up to 100%. -/
theorem shares_add_up {d t : ℕ} (hd : d ≤ t) (ht : t ≠ 0) :
    (d : ℚ) / t * 100 + ((t - d : ℕ) : ℚ) / t * 100 = 100 := by
  rw [Nat.cast_sub hd]
  field_simp
  ring

/-- The table has one row per comparison, in order. -/
theorem rows_infix_detailLines (cs : List Comparison) : cs.map rowOf <:+: detailLines cs := by
  unfold detailLines
  exact (List.suffix_append _ _).isInfix.trans ((((((List.prefix_append _ _).trans
    (List.prefix_append _ _)).trans (List.prefix_append _ _)).trans (List.prefix_append _ _)).trans
    (List.prefix_append _ _)).isInfix)

/-- The run over the sample files returns. -/
theorem main_result_samples :
    (main ["compare_benchmarks.py", "diagon.csv", "lucene.csv"] sampleCsvFiles "/work").result =
      .ok () :=
  @main_result_eq_ok_of _ _ _ _ _ diagonSample luceneSample rfl rfl (sortable_of_isStr (by decide))
    ⟨.str "A", by decide⟩

/-- With a positive Lucene time, a gap over 20% is a speedup under 5/6. -/
theorem gapOf_gt_iff {d l : ℚ} (hl : 0 < l) :
    20 < gapOf d l ↔ speedupOf d l < ((5 / 6 : ℚ) : WithTop ℚ) := by
  have hgap : 20 < gapOf d l ↔ 6 / 5 * l < d := by
    rw [gapOf, if_pos hl, ← lt_div_iff₀ hl]
    constructor <;> intro <;> linarith
  rw [hgap, speedupOf]
  split_ifs with hd
  · rw [WithTop.coe_lt_coe, div_lt_iff₀ hd]
    constructor <;> intro <;> linarith
  · exact iff_of_false (by linarith) not_top_lt

/-- A gap over 20% comes with a speedup under 0.9: the gap is 0 unless
Lucene's time is positive, and then the speedup is under 5/6. -/
theorem speedupOf_lt_of_gapOf_gt {d l : ℚ} (h : 20 < gapOf d l) :
    speedupOf d l < ((9 / 10 : ℚ) : WithTop ℚ) := by
  have hl : 0 < l := by
    by_contra hl
    rw [gapOf, if_neg hl] at h
    norm_num at h
  exact ((gapOf_gt_iff hl).mp h).trans (WithTop.coe_lt_coe.mpr (by norm_num))

/-- A speedup under 0.9 is marked `❌`. -/
theorem statusOf_of_lt {s : WithTop ℚ} (h : s < ((9 / 10 : ℚ) : WithTop ℚ)) : statusOf s = "❌" := by
  have hlt : ∀ q : ℚ, 9 / 10 ≤ q → ¬((q : ℚ) : WithTop ℚ) ≤ s := fun q hq =>
    not_le.mpr (h.trans_le (WithTop.coe_le_coe.mpr hq))
  rw [statusOf, if_neg (hlt _ (by norm_num)), if_neg (hlt _ (by norm_num)), if_neg (hlt _ le_rfl)]

/-- **A bottleneck is marked slower.** Every comparison listed as a
bottleneck has a speedup under 0.9, so its row in the table is marked `❌`
and the summary counts it under Lucene. -/
theorem compareResults_bottlenecks_marked_slower {diagonResults luceneResults : PyDict (ℚ × ℚ)}
    {cs : List Comparison} (h : (compareResults diagonResults luceneResults).result = .ok cs) :
    ∀ c ∈ bottlenecks cs, statusOf c.speedup = "❌" ∧ c.speedup < ((9 / 10 : ℚ) : WithTop ℚ) := by
  intro c hb
  obtain ⟨hc, hgap⟩ := List.mem_filter.mp hb
  obtain ⟨-, -, hsp, hg⟩ := comparesTimings_of_compareResults h c hc
  rw [decide_eq_true_iff, hg] at hgap
  have hslow := hsp ▸ speedupOf_lt_of_gapOf_gt hgap
  exact ⟨statusOf_of_lt hslow, hslow⟩

/-- The samples' comparisons: every bottleneck among them is marked `❌`. -/
theorem compareResults_bottlenecks_marked_slower_samples :
    ∃ cs, (compareResults diagonSample luceneSample).result = .ok cs ∧
      ∀ c ∈ bottlenecks cs, statusOf c.speedup = "❌" ∧ c.speedup < ((9 / 10 : ℚ) : WithTop ℚ) := by
  have hs : Sortable (diagonSample.keys ∪ luceneSample.keys) := sortable_of_isStr (by decide)
  have hok := compareResults_result_eq_ok.mpr ⟨hs, rfl⟩
  exact ⟨_, hok, compareResults_bottlenecks_marked_slower hok⟩

/-! ## Where the two lists sit in the table -/

/-- A filter whose test, true of an element, is true of every earlier one
keeps a prefix. -/
theorem filter_eq_takeWhile {α : Type} {p : α → Bool} {l : List α}
    (h : l.Pairwise fun a b => p b → p a) : l.filter p = l.takeWhile p := by
  induction l with
  | nil => rfl
  | cons a l ih =>
    rw [List.pairwise_cons] at h
    by_cases ha : p a
    · rw [List.filter_cons_of_pos ha, List.takeWhile_cons_of_pos ha, ih h.2]
    · rw [List.filter_cons_of_neg ha, List.takeWhile_cons_of_neg ha, List.filter_eq_nil_iff]
      exact fun b hb hpb => ha (h.1 b hb hpb)

/-- A filter whose test, true of an element, is true of every later one
keeps a suffix. -/
theorem filter_eq_dropWhile {α : Type} {p : α → Bool} {l : List α}
    (h : l.Pairwise fun a b => p a → p b) : l.filter p = l.dropWhile fun a => !p a := by
  induction l with
  | nil => rfl
  | cons a l ih =>
    rw [List.pairwise_cons] at h
    by_cases ha : p a
    · rw [List.filter_cons_of_pos ha, List.dropWhile_cons_of_neg (by simpa using ha),
        List.filter_eq_self.mpr fun b hb => h.1 b hb ha]
    · rw [List.filter_cons_of_neg ha, List.dropWhile_cons_of_pos (by simpa using ha), ih h.2]

/-- Speedups of at most 1 average at most 1. -/
theorem averageSpeedup_le_one {cs : List Comparison}
    (h : ∀ c ∈ cs, c.speedup ≤ ((1 : ℚ) : WithTop ℚ)) : averageSpeedup cs ≤ ((1 : ℚ) : WithTop ℚ) := by
  unfold averageSpeedup
  split_ifs with hlen
  · exact WithTop.coe_le_coe.mpr zero_le_one
  · have hsum := List.sum_le_card_nsmul (cs.map Comparison.speedup) ((1 : ℚ) : WithTop ℚ)
      fun x hx => by obtain ⟨c, hc, rfl⟩ := List.mem_map.mp hx; exact h c hc
    rw [List.length_map, ← WithTop.coe_nsmul, nsmul_one] at hsum
    obtain ⟨s, hs⟩ := WithTop.ne_top_iff_exists.mp (ne_top_of_le_ne_top WithTop.coe_ne_top hsum)
    rw [← hs, WithTop.coe_le_coe] at hsum
    rw [← hs, WithTop.map_coe, WithTop.coe_le_coe]
    exact (div_le_one (show (0 : ℚ) < cs.length from Nat.cast_pos.mpr (Nat.pos_of_ne_zero hlen))).mpr
      hsum

/-- Speedups of at least 1, at least one of them, average at least 1. -/
theorem one_le_averageSpeedup {cs : List Comparison} (hne : cs ≠ [])
    (h : ∀ c ∈ cs, ((1 : ℚ) : WithTop ℚ) ≤ c.speedup) : ((1 : ℚ) : WithTop ℚ) ≤ averageSpeedup cs := by
  have hlen : 0 < cs.length := List.length_pos.mpr hne
  unfold averageSpeedup
  rw [if_neg hlen.ne']
  have hsum := List.card_nsmul_le_sum (cs.map Comparison.speedup) ((1 : ℚ) : WithTop ℚ)
    fun x hx => by obtain ⟨c, hc, rfl⟩ := List.mem_map.mp hx; exact h c hc
  rw [List.length_map, ← WithTop.coe_nsmul, nsmul_one] at hsum
  cases hs : (cs.map Comparison.speedup).sum with
  | top => exact le_top
  | coe s =>
    rw [hs, WithTop.coe_le_coe] at hsum
    rw [WithTop.map_coe, WithTop.coe_le_coe]
    exact (one_le_div (show (0 : ℚ) < cs.length from Nat.cast_pos.mpr hlen)).mpr hsum

/-- The verdict is the first line after the summary. -/
theorem generateReport_verdict_lines (cwd : String) {cs : List Comparison} (hne : cs ≠ []) :
    ∃ verdict rest, detailLines cs = verdict :: rest ∧
      [(.stdout, .averageSpeedup (averageSpeedup cs)), (.stdout, .text ""), (.stdout, verdict)] <:+:
        (generateReport cwd cs).out := by
  obtain ⟨verdict, rest, hd⟩ : ∃ verdict rest, detailLines cs = verdict :: rest := ⟨_, _, rfl⟩
  refine ⟨verdict, rest, hd, ?_⟩
  cases cs with
  | nil => exact absurd rfl hne
  | cons c cs =>
    simp only [generateReport, Py.forM_print, List.length_cons, Nat.add_one_ne_zero, if_false,
      Py.mk_ok_bind, Py.pure_bind, hd, List.map_cons, List.cons_append, List.nil_append]
    iterate 8 refine List.infix_cons ?_
    exact (List.prefix_append [_, _, _] _).isInfix

/-- **The verdict agrees with the rows.** In a run that returns, the line
after the average says Diagon outperforms Lucene overall only if some
comparison has a speedup over 1, counted as Diagon faster, and says it
underperforms only if some comparison has a speedup under 1. -/
theorem main_verdict_agrees_with_rows {prog diagonCsv luceneCsv cwd : String}
    {files : String → CsvFile} (h : (main [prog, diagonCsv, luceneCsv] files cwd).result = .ok ()) :
    ∃ diagonResults luceneResults cs, readCsv files diagonCsv = .ok diagonResults ∧
      readCsv files luceneCsv = .ok luceneResults ∧
      (compareResults diagonResults luceneResults).result = .ok cs ∧
      ∃ verdict, [(.stdout, .averageSpeedup (averageSpeedup cs)), (.stdout, .text ""),
          (.stdout, verdict)] <:+: (main [prog, diagonCsv, luceneCsv] files cwd).out ∧
        (verdict = .text "✅ **Diagon outperforms Lucene overall**" →
          ∃ c ∈ cs, c.speedup > ((1 : ℚ) : WithTop ℚ)) ∧
        (verdict = .text "❌ **Diagon underperforms Lucene overall**" →
          ∃ c ∈ cs, c.speedup < ((1 : ℚ) : WithTop ℚ)) := by
  obtain ⟨D, L, cs, hD, hL, hcs, hne, hout⟩ := main_out_of_ok h
  obtain ⟨verdict, rest, hd, hlines⟩ := generateReport_verdict_lines cwd hne
  simp only [detailLines, List.cons_append, List.cons.injEq] at hd
  obtain ⟨rfl, -⟩ := hd
  refine ⟨D, L, cs, hD, hL, hcs, _, hout ▸ hlines.trans (List.infix_append _ _ _),
    fun hv => ?_, fun hv => ?_⟩
  · by_contra! hno
    split_ifs at hv with h1
    · exact absurd (WithTop.coe_lt_coe.mp (h1.trans_le (averageSpeedup_le_one hno))) (by norm_num)
    all_goals simp at hv
  · by_contra! hno
    split_ifs at hv with h1 h2
    · simp at hv
    · exact absurd (WithTop.coe_lt_coe.mp ((one_le_averageSpeedup hne hno).trans_lt h2))
        (by norm_num)
    · simp at hv

/-- The run over the sample files returns and prints a verdict after the
average. -/
theorem main_verdict_agrees_with_rows_sample :
    (main ["compare_benchmarks.py", "diagon.csv", "lucene.csv"] sampleCsvFiles "/work").result =
        .ok () ∧
      ∃ (avg : WithTop ℚ) (verdict : Line),
        [(Stream.stdout, Line.averageSpeedup avg), (.stdout, .text ""), (.stdout, verdict)] <:+:
          (main ["compare_benchmarks.py", "diagon.csv", "lucene.csv"] sampleCsvFiles "/work").out := by
  obtain ⟨_, _, _, -, -, -, verdict, hlines, -⟩ := main_verdict_agrees_with_rows main_result_samples
  exact ⟨main_result_samples, _, verdict, hlines⟩

end DiagonBench.Compare
