/-
DiagonBench.Aggregate.StatisticsTheorems — what `calculate_statistics`
computes and when `aggregate_results.py` succeeds.

The median first. Over numbers the sort returns them in ascending order
(`pySortBy_self_of_nums`), and in an ascending list the value at index `j`
has at least `j + 1` values at or below it and `n - j` at or above it
(`sorted_split`). The middle index, or the mean of the two middle values,
therefore has half the data on each side (`median_splits`). The variance
is a mean of squares, so never negative.

Then the loop: `calculateStatistics_eq` says it once, as the names in order
with the entry each one adds. `aggregate_benchmarks` stores only lists it
has appended to (`aggregateBenchmarks_get?_ne_nil`), so no name is skipped
and there is one row per name.

Last, `main`: after the checks, every name's times must be numbers. Two
times or more go through `statistics.stdev`, which converts each one, and a
single time is printed with `:.2f`, which accepts only a number. So the
run returns exactly when every path exists, a time was recorded, the names
can be sorted and every time is a number
(`main_succeeds_iff_numeric_times`).
-/
import DiagonBench.Aggregate.Statistics
import Mathlib.Algebra.Order.BigOperators.Group.List
import Mathlib.Data.List.GetD
import Mathlib.Data.List.ReduceOption
import Mathlib.Tactic.Linarith

namespace DiagonBench.Aggregate

open DiagonBench.Python

/-! ## Ascending lists -/

section Sorted

variable {l : List ℚ} (hl : l.Sorted (· ≤ ·)) {j : ℕ} (hj : j < l.length)
include hl hj

/-- An ascending list around its `j`-th value. -/
theorem sorted_split :
    l = l.take j ++ l[j] :: l.drop (j + 1) ∧ (∀ a ∈ l.take j, a ≤ l[j]) ∧
      ∀ b ∈ l.drop (j + 1), l[j] ≤ b := by
  have hsplit : l = l.take j ++ l[j] :: l.drop (j + 1) := by
    rw [← List.drop_eq_getElem_cons hj, List.take_append_drop]
  have hs : (l.take j ++ l[j] :: l.drop (j + 1)).Sorted (· ≤ ·) := by rw [← hsplit]; exact hl
  rw [List.Sorted, List.pairwise_append, List.pairwise_cons] at hs
  exact ⟨hsplit, fun a ha => hs.2.2 a ha _ (List.mem_cons_self _ _), hs.2.1.1⟩

/-- At least `j + 1` values lie at or below a bound on the `j`-th one. -/
theorem succ_le_length_filter_le {t : ℚ} (ht : l[j] ≤ t) :
    j + 1 ≤ (l.filter (· ≤ t)).length := by
  obtain ⟨hsplit, hle, -⟩ := sorted_split hl hj
  have htake : (l.take j).filter (· ≤ t) = l.take j :=
    List.filter_eq_self.mpr fun a ha => decide_eq_true ((hle a ha).trans ht)
  conv_rhs => rw [hsplit]
  rw [List.filter_append, List.length_append, htake, List.length_take_of_le hj.le,
    List.filter_cons_of_pos (p := fun x => decide (x ≤ t)) (decide_eq_true ht), List.length_cons]
  omega

/-- At least `n - j` values lie at or above a bound under the `j`-th one. -/
theorem sub_le_length_filter_ge {t : ℚ} (ht : t ≤ l[j]) :
    l.length - j ≤ (l.filter (t ≤ ·)).length := by
  obtain ⟨hsplit, -, hge⟩ := sorted_split hl hj
  have hdrop : (l.drop (j + 1)).filter (t ≤ ·) = l.drop (j + 1) :=
    List.filter_eq_self.mpr fun b hb => decide_eq_true (ht.trans (hge b hb))
  conv_rhs => rw [hsplit]
  rw [List.filter_append, List.length_append,
    List.filter_cons_of_pos (p := fun x => decide (t ≤ x)) (decide_eq_true ht), List.length_cons,
    hdrop, List.length_drop]
  omega

end Sorted

/-! ## The median and the variance -/

/-- **`statistics.median` returns a median.** Over a non-empty list of
numbers it returns a number with at least half the data at or below it and
at least half at or above it. -/
theorem median_splits {data : List JsonValue} {qs : List ℚ}
    (h : data.mapM JsonValue.toNum? = some qs) (hne : qs ≠ []) :
    ∃ v m, median data = .ok v ∧ v.toNum? = some m ∧
      qs.length ≤ 2 * (qs.filter (· ≤ m)).length ∧ qs.length ≤ 2 * (qs.filter (m ≤ ·)).length := by
  obtain ⟨ys, qs', hsort, hys, hsorted, hperm⟩ := pySortBy_self_of_nums h
  obtain ⟨hlen, hat⟩ := List.forall₂_iff_get.mp (option_mapM_eq_some.mp hys)
  have hcount : ∀ p : ℚ → Bool, (qs.filter p).length = (qs'.filter p).length := fun p =>
    (hperm.filter p).length_eq.symm
  have hval : ∀ i (hi : i < qs'.length), (ys.getD i .null).toNum? = some qs'[i] := fun i hi => by
    rw [List.getD_eq_getElem _ _ (hlen ▸ hi)]; exact hat i (hlen ▸ hi) hi
  have hn : 0 < qs'.length := hperm.length_eq ▸ List.length_pos.mpr hne
  simp only [median, hsort, except_ok_bind, hlen, hcount, ← hperm.length_eq]
  rw [if_neg hn.ne']
  split_ifs with hodd
  · refine ⟨_, _, rfl, hval _ (by omega), ?_, ?_⟩
    · have := succ_le_length_filter_le hsorted (j := qs'.length / 2) (by omega) le_rfl
      omega
    · have := sub_le_length_filter_ge hsorted (j := qs'.length / 2) (by omega) le_rfl
      omega
  · have hlo : qs'.length / 2 - 1 < qs'.length := by omega
    have hhi : qs'.length / 2 < qs'.length := by omega
    have hmono : qs'[qs'.length / 2 - 1] ≤ qs'[qs'.length / 2] :=
      hsorted.rel_get_of_le (a := ⟨_, hlo⟩) (b := ⟨_, hhi⟩) (Fin.mk_le_mk.mpr (Nat.sub_le _ _))
    refine ⟨.num ((qs'[qs'.length / 2 - 1] + qs'[qs'.length / 2]) / 2), _,
      by rw [midpoint, hval _ hlo, hval _ hhi], rfl, ?_, ?_⟩
    · have := succ_le_length_filter_le hsorted hlo (t := (qs'[qs'.length / 2 - 1] +
        qs'[qs'.length / 2]) / 2) (by linarith)
      omega
    · have := sub_le_length_filter_ge hsorted hhi (t := (qs'[qs'.length / 2 - 1] +
        qs'[qs'.length / 2]) / 2) (by linarith)
      omega

/-- Over two numbers or more the variance is returned and is not negative. -/
theorem sampleVariance_nonneg {data : List JsonValue} {qs : List ℚ}
    (h : data.mapM JsonValue.toNum? = some qs) (h2 : 2 ≤ qs.length) :
    ∃ v, sampleVariance data = .ok v ∧ 0 ≤ v := by
  refine ⟨(qs.map fun x => (x - qs.sum / qs.length) ^ 2).sum / (qs.length - 1),
    by simp only [sampleVariance, h, if_neg (show ¬qs.length < 2 by omega)], div_nonneg
    (List.sum_nonneg fun x hx => ?_) ?_⟩
  · obtain ⟨y, -, rfl⟩ := List.mem_map.mp hx
    exact sq_nonneg _
  · have : (2 : ℚ) ≤ qs.length := by exact_mod_cast h2
    linarith

/-- The variance converts every value to a number. -/
theorem nums_of_sampleVariance {data : List JsonValue} {v : ℚ} (h : sampleVariance data = .ok v) :
    ∃ qs, data.mapM JsonValue.toNum? = some qs := by
  unfold sampleVariance at h
  split at h
  · cases h
  · exact ⟨_, ‹_›⟩

theorem formatFixed_of_toNum? {v : JsonValue} {q : ℚ} (h : v.toNum? = some q) :
    formatFixed v = .ok q := by
  cases v <;> simp_all [JsonValue.toNum?, formatFixed]

theorem toNum?_of_formatFixed {v : JsonValue} {q : ℚ} (h : formatFixed v = .ok q) :
    v.toNum? = some q := by
  cases v <;> simp_all [JsonValue.toNum?, formatFixed]

/-- A single value is its own median. -/
theorem median_singleton (t : JsonValue) : median [t] = .ok t := by
  simp [median, pySortBy]

/-! ## `calculate_statistics` -/

/-- `m` and `v` summarise the numeric times `qs`: half the times lie at or
below `m` and half at or above it, and `v` is not negative, and 0 for a
single time. -/
def Summarises (qs : List ℚ) (m v : ℚ) : Prop :=
  qs.length ≤ 2 * (qs.filter (· ≤ m)).length ∧ qs.length ≤ 2 * (qs.filter (m ≤ ·)).length ∧
    0 ≤ v ∧ (qs.length = 1 → v = 0)

/-- `s` is the entry of numeric times `qs`: a numeric median that, with the
variance, summarises them. -/
def StatOf (qs : List ℚ) (s : Stat) : Prop :=
  ∃ m, s.median.toNum? = some m ∧ Summarises qs m s.variance

/-- A name with numeric times gets its entry. -/
theorem statOf_of_nums {results : PyDict (List JsonValue)} {name : PyKey} {ts : List JsonValue}
    {qs : List ℚ} (hget : results.get? name = some ts) (hts : ts ≠ [])
    (h : ts.mapM JsonValue.toNum? = some qs) :
    ∃ s, statOf results name = .ok (some s) ∧ s.name = name ∧ StatOf qs s := by
  have hlen := (option_mapM_eq_some.mp h).length_eq
  obtain ⟨v, m, hv, hm, hlo, hhi⟩ := median_splits h (by rintro rfl; simp_all)
  have hne : ts.isEmpty = false := by simpa using hts
  by_cases h2 : ts.length > 1
  · obtain ⟨w, hw, hw0⟩ := sampleVariance_nonneg h (by omega)
    refine ⟨⟨name, v, w⟩, ?_, rfl, ⟨m, hm, hlo, hhi, hw0, fun h1 => by omega⟩⟩
    simp only [statOf, hget, Option.getD_some, hne, hv, if_pos h2, hw, except_ok_bind]
    rfl
  · refine ⟨⟨name, v, 0⟩, ?_, rfl, ⟨m, hm, hlo, hhi, le_rfl, fun _ => rfl⟩⟩
    simp only [statOf, hget, Option.getD_some, hne, hv, if_neg h2, except_ok_bind]
    rfl

/-- The loop over the sorted names, as the entries each name adds. -/
theorem foldlM_statOf (results : PyDict (List JsonValue)) (names : List PyKey) (acc : List Stat) :
    names.foldlM (fun stats name => do
        let s ← statOf results name
        pure (stats ++ s.toList)) acc =
      (names.mapM (statOf results)).map fun os => acc ++ os.reduceOption := by
  induction names generalizing acc with
  | nil =>
    rw [List.foldlM_nil, List.mapM_nil]
    exact congrArg Except.ok (List.append_nil acc).symm
  | cons n ns ih =>
    rw [List.foldlM_cons, List.mapM_cons]
    cases statOf results n with
    | error e => rfl
    | ok o =>
      rw [except_ok_bind, except_ok_bind, pure_bind, ih]
      cases ns.mapM (statOf results) with
      | error e => rfl
      | ok os =>
        cases o <;> simp [Except.map, List.reduceOption_cons_of_none, List.reduceOption_cons_of_some]

/-- `calculate_statistics` as one step: sort the names, then the entries. -/
theorem calculateStatistics_eq (results : PyDict (List JsonValue)) :
    calculateStatistics results =
      (pySorted results.keys).bind fun names =>
        (names.mapM (statOf results)).map List.reduceOption := by
  unfold calculateStatistics
  cases pySorted results.keys with
  | error e => rfl
  | ok names => exact (foldlM_statOf results names []).trans (by simp)

/-! ## What `aggregate_benchmarks` hands over -/

/-- `aggregate_benchmarks` stores a name only with a time. -/
theorem aggregateBenchmarks_get?_ne_nil {fs : FileSystem} {files : List String}
    {results : PyDict (List JsonValue)} (h : (aggregateBenchmarks fs files).result = .ok results)
    {k : PyKey} {ts : List JsonValue} (hk : results.get? k = some ts) : ts ≠ [] := by
  rw [aggregateBenchmarks_result] at h
  cases h
  rw [get?_appendAll, PyDict.get?_empty] at hk
  unfold extendWith at hk
  split_ifs at hk with he
  cases hk
  simpa [List.isEmpty_iff] using he

/-- What a name with times adds: an entry under the name whose median is
the median of the times and whose variance is theirs, or 0 for one time. -/
theorem statOf_eq_ok {results : PyDict (List JsonValue)} {name : PyKey} {ts : List JsonValue}
    {o : Option Stat} (hget : results.get? name = some ts) (hts : ts ≠ [])
    (h : statOf results name = .ok o) :
    ∃ s, o = some s ∧ s.name = name ∧ median ts = .ok s.median ∧
      (ts.length > 1 → sampleVariance ts = .ok s.variance) ∧ (¬ts.length > 1 → s.variance = 0) := by
  have hne : ts.isEmpty = false := by simpa using hts
  simp only [statOf, hget, Option.getD_some, hne, Bool.false_eq_true, if_false] at h
  obtain ⟨m, hm, hv⟩ := except_bind_eq_ok.mp h
  split_ifs at hv with h2
  · obtain ⟨v, hv', hs⟩ := except_bind_eq_ok.mp hv
    cases hs
    exact ⟨_, rfl, rfl, hm, fun _ => hv', fun h2' => absurd h2 h2'⟩
  · cases hv
    exact ⟨_, rfl, rfl, hm, fun h2' => absurd h2' h2, fun _ => rfl⟩

/-- The entry of a name with numeric times is a correct one. -/
theorem statOf_eq_ok_of_nums {results : PyDict (List JsonValue)} {name : PyKey}
    {ts : List JsonValue} {qs : List ℚ} {o : Option Stat} (hget : results.get? name = some ts)
    (hts : ts ≠ []) (hqs : ts.mapM JsonValue.toNum? = some qs) (h : statOf results name = .ok o) :
    ∃ s, o = some s ∧ s.name = name ∧ StatOf qs s := by
  obtain ⟨s, rfl, hname, hmed, hvar, hzero⟩ := statOf_eq_ok hget hts h
  have hlen := (option_mapM_eq_some.mp hqs).length_eq
  obtain ⟨v, m, hv, hm, hlo, hhi⟩ := median_splits hqs (by rintro rfl; simp_all)
  rw [hmed] at hv
  cases hv
  refine ⟨s, rfl, hname, m, hm, hlo, hhi, ?_⟩
  by_cases h2 : ts.length > 1
  · obtain ⟨w, hw, hw0⟩ := sampleVariance_nonneg hqs (by omega)
    rw [hvar h2] at hw
    cases hw
    exact ⟨hw0, fun h1 => by omega⟩
  · rw [hzero h2]
    exact ⟨le_rfl, fun _ => rfl⟩

/-- Over names that all hold times, the loop keeps one entry per name, in
order, each the entry `statOf` computes. -/
theorem reduceOption_of_forall₂_statOf {results : PyDict (List JsonValue)} {names : List PyKey}
    {os : List (Option Stat)} (hF : List.Forall₂ (fun k o => statOf results k = .ok o) names os)
    (hmem : ∀ k ∈ names, ∃ ts, results.get? k = some ts ∧ ts ≠ []) :
    os.reduceOption.map Stat.name = names ∧
      ∀ s ∈ os.reduceOption, statOf results s.name = .ok (some s) := by
  induction hF with
  | nil => exact ⟨rfl, fun _ h => by simp at h⟩
  | @cons k o ks os' hko _ ih =>
    obtain ⟨ts, hget, hts⟩ := hmem k (List.mem_cons_self k ks)
    obtain ⟨s, rfl, hname, -⟩ := statOf_eq_ok hget hts hko
    obtain ⟨ihn, ihs⟩ := ih fun k' hk' => hmem k' (List.mem_cons_of_mem k hk')
    rw [List.reduceOption_cons_of_some]
    refine ⟨by rw [List.map_cons, ihn, hname], fun s' hs' => ?_⟩
    rcases List.mem_cons.mp hs' with rfl | hs'
    · rwa [hname]
    · exact ihs s' hs'

/-- Over lists of times that are never empty, `calculate_statistics` has one
entry per name, in sorted order, each the one `statOf` computes. -/
theorem calculateStatistics_entries {results : PyDict (List JsonValue)} {stats : List Stat}
    (hne : ∀ k ts, results.get? k = some ts → ts ≠ [])
    (h : calculateStatistics results = .ok stats) :
    stats.map Stat.name = results.keys.sort (· ≤ ·) ∧
      ∀ s ∈ stats, statOf results s.name = .ok (some s) := by
  rw [calculateStatistics_eq] at h
  obtain ⟨names, hsorted, hmap⟩ := except_bind_eq_ok.mp h
  obtain ⟨-, rfl⟩ := pySorted_eq_ok hsorted
  cases hm : (results.keys.sort (· ≤ ·)).mapM (statOf results) <;> rw [hm] at hmap <;> cases hmap
  exact reduceOption_of_forall₂_statOf (mapM_eq_ok.mp hm) fun k hk => by
    obtain ⟨ts, hget⟩ := PyDict.mem_keys_iff_get?.mp ((Finset.mem_sort _).mp hk)
    exact ⟨ts, hget, hne k ts hget⟩

/-- A name whose entry has a numeric median has numeric times: two times or
more pass through `statistics.stdev`, and a single time is its own median. -/
theorem toNum?_of_statOf_eq_ok {results : PyDict (List JsonValue)} {name : PyKey}
    {ts : List JsonValue} {s : Stat} (hget : results.get? name = some ts) (hts : ts ≠ [])
    (h : statOf results name = .ok (some s)) (hmed : ∃ q, s.median.toNum? = some q) :
    ∀ t ∈ ts, ∃ q, t.toNum? = some q := by
  obtain ⟨s', hs', -, hm, hvar, -⟩ := statOf_eq_ok hget hts h
  cases hs'
  intro t ht
  by_cases h2 : ts.length > 1
  · obtain ⟨qs, hqs⟩ := nums_of_sampleVariance (hvar h2)
    obtain ⟨q, -, hq⟩ := forall₂_mem_left (option_mapM_eq_some.mp hqs) ht
    exact ⟨q, hq⟩
  · obtain ⟨t', rfl⟩ : ∃ t', ts = [t'] := List.length_eq_one.mp (by
      have := List.length_pos.mpr hts; omega)
    rw [median_singleton] at hm
    cases hm
    rwa [List.mem_singleton.mp ht]

/-- **When the statistics can be printed.** Over lists of times that are
never empty, `calculate_statistics` returns entries whose medians all
format with `:.2f` exactly when `sorted` can order the names and every time
is a number. -/
theorem calculateStatistics_printable_iff {results : PyDict (List JsonValue)}
    (hne : ∀ k ts, results.get? k = some ts → ts ≠ []) :
    (∃ stats, calculateStatistics results = .ok stats ∧ ∀ s ∈ stats, ∃ q, s.median.toNum? = some q) ↔
      Sortable results.keys ∧ ∀ k ts, results.get? k = some ts → ∀ t ∈ ts, ∃ q, t.toNum? = some q := by
  constructor
  · rintro ⟨stats, hcalc, hfmt⟩
    obtain ⟨hnames, hentries⟩ := calculateStatistics_entries hne hcalc
    rw [calculateStatistics_eq] at hcalc
    obtain ⟨names, hsorted, -⟩ := except_bind_eq_ok.mp hcalc
    refine ⟨(pySorted_eq_ok hsorted).1, fun k ts hget => ?_⟩
    have hk : k ∈ stats.map Stat.name := by
      rw [hnames, Finset.mem_sort]; exact PyDict.mem_keys_iff_get?.mpr ⟨ts, hget⟩
    obtain ⟨s, hs, rfl⟩ := List.mem_map.mp hk
    exact toNum?_of_statOf_eq_ok hget (hne _ ts hget) (hentries s hs) (hfmt s hs)
  · rintro ⟨hs, hnum⟩
    have hstat : ∀ k ∈ results.keys.sort (· ≤ ·), ∃ s, statOf results k = .ok (some s) ∧
        ∃ q, s.median.toNum? = some q := fun k hk => by
      obtain ⟨ts, hget⟩ := PyDict.mem_keys_iff_get?.mp ((Finset.mem_sort _).mp hk)
      obtain ⟨qs, hqs⟩ := option_mapM_of_forall (hnum k ts hget)
      obtain ⟨s, hs, -, m, hm, -⟩ := statOf_of_nums hget (hne k ts hget) hqs
      exact ⟨s, hs, m, hm⟩
    obtain ⟨os, hos⟩ := mapM_ok_of_forall fun k hk => ⟨_, (hstat k hk).choose_spec.1⟩
    have hcalc : calculateStatistics results = .ok os.reduceOption := by
      rw [calculateStatistics_eq, pySorted_of_sortable hs, except_bind_ok, hos]; rfl
    refine ⟨_, hcalc, fun s hsm => ?_⟩
    obtain ⟨k, hk, hko⟩ := forall₂_mem_right (mapM_eq_ok.mp hos) (List.reduceOption_mem_iff.mp hsm)
    obtain ⟨s', hs', hq⟩ := hstat k hk
    rw [hs'] at hko
    cases hko
    exact hq

/-- A file's pass writes to stderr only. -/
theorem aggregateFile_out_stderr (fs : FileSystem) (results : PyDict (List JsonValue))
    (filePath : String) : ∀ l ∈ (aggregateFile fs results filePath).out, l.1 = .stderr := by
  unfold aggregateFile
  split
  · simp
  · simp
  · split <;> simp [Py.pure_eq]

/-- `aggregate_benchmarks` writes to stderr only. -/
theorem aggregateBenchmarks_out_stderr (fs : FileSystem) (files : List String) :
    ∀ l ∈ (aggregateBenchmarks fs files).out, l.1 = .stderr := by
  unfold aggregateBenchmarks
  generalize PyDict.empty = results
  induction files generalizing results with
  | nil => simp [Py.pure_eq]
  | cons f files ih =>
    rw [List.foldlM_cons, Py.bind_of_ok (aggregateFile_result fs results f)]
    intro l hl
    rcases List.mem_append.mp hl with hl | hl
    exacts [aggregateFile_out_stderr fs results f l hl, ih _ l hl]

/-! ## `main` -/

theorem checkExists_result_eq_ok {fs : FileSystem} {f : String} :
    (checkExists fs f).result = .ok () ↔ fs f ≠ .missing := by
  unfold checkExists
  rw [Py.exitIf_result]
  cases fs f <;> simp

theorem printStat_result_eq_ok {s : Stat} :
    (printStat s).result = .ok () ↔ ∃ q, s.median.toNum? = some q := by
  simp only [printStat, Py.result_bind, Py.result_lift, Py.result_print, except_bind_eq_ok, and_true]
  exact ⟨fun ⟨q, hq⟩ => ⟨q, toNum?_of_formatFixed hq⟩, fun ⟨q, hq⟩ => ⟨q, formatFixed_of_toNum? hq⟩⟩

theorem checkExists_eq {fs : FileSystem} {f : String} (h : fs f ≠ .missing) :
    checkExists fs f = pure () := by
  unfold checkExists Py.exitIf
  rw [if_neg]
  cases hf : fs f <;> simp_all

theorem printStat_eq {s : Stat} {q : ℚ} (h : s.median.toNum? = some q) :
    printStat s = ⟨[(.stdout, .csvRow s.name q s.variance)], .ok ()⟩ := by
  simp only [printStat, formatFixed_of_toNum? h, Py.lift_bind]
  rfl

theorem forM_checkExists {fs : FileSystem} {files : List String}
    (h : ∀ f ∈ files, fs f ≠ .missing) : files.forM (checkExists fs) = pure () := by
  induction files with
  | nil => rfl
  | cons f files ih =>
    rw [List.forM_cons', checkExists_eq (h f (List.mem_cons_self f files)), Py.pure_bind,
      ih fun f' hf' => h f' (List.mem_cons_of_mem f hf')]

theorem forM_printStat {stats : List Stat} (h : ∀ s ∈ stats, ∃ q, s.median.toNum? = some q) :
    stats.forM printStat =
      ⟨stats.map fun s => (.stdout, .csvRow s.name (s.median.toNum?.getD 0) s.variance), .ok ()⟩ := by
  induction stats with
  | nil => rfl
  | cons s stats ih =>
    obtain ⟨q, hq⟩ := h s (List.mem_cons_self s stats)
    rw [List.forM_cons', printStat_eq hq, Py.bind_of_ok rfl,
      ih fun s' hs' => h s' (List.mem_cons_of_mem s hs')]
    simp [hq]

/-- A run past its checks prints the aggregation's lines, the header, one
row per entry, and the summary. -/
theorem main_eq_of_stats {argv : List String} {fs : FileSystem} {results : PyDict (List JsonValue)}
    {stats : List Stat} (hlen : 2 ≤ argv.length) (hex : ∀ f ∈ argv.tail, fs f ≠ .missing)
    (hagg : (aggregateBenchmarks fs argv.tail).result = .ok results) (hkeys : results.keys ≠ ∅)
    (hcalc : calculateStatistics results = .ok stats)
    (hfmt : ∀ s ∈ stats, ∃ q, s.median.toNum? = some q) :
    main argv fs = ⟨(aggregateBenchmarks fs argv.tail).out ++
      (.stdout, .text "benchmark,time_ns,stddev_ns") ::
        stats.map (fun s => (.stdout, .csvRow s.name (s.median.toNum?.getD 0) s.variance)) ++
      [(.stderr, .processed argv.tail.length stats.length)], .ok ()⟩ := by
  unfold main
  rw [if_neg (by omega)]
  dsimp only
  rw [forM_checkExists hex, Py.pure_bind, Py.bind_of_ok hagg]
  simp only [Py.exitIf, if_neg hkeys, Py.pure_bind, Py.lift_bind, hcalc, Py.print_bind,
    forM_printStat hfmt, Py.mk_ok_bind, Py.eprint]
  simp

/-- The stages of a run that returns: at least one path, every path exists,
a time was recorded, the statistics are computed and every median formats. -/
theorem main_result_eq_ok_iff {argv : List String} {fs : FileSystem} :
    (main argv fs).result = .ok () ↔
      2 ≤ argv.length ∧ (∀ f ∈ argv.tail, fs f ≠ .missing) ∧
        ∃ results, (aggregateBenchmarks fs argv.tail).result = .ok results ∧ results.keys ≠ ∅ ∧
          ∃ stats, calculateStatistics results = .ok stats ∧
            ∀ s ∈ stats, ∃ q, s.median.toNum? = some q := by
  unfold main
  split_ifs with hlen
  · have husage : ((usage (argv.headD "")).forM Py.eprint).result = .ok () :=
      Py.forM_result_eq_ok.mpr fun _ _ => rfl
    simp only [Py.result_bind, husage, except_bind_ok, Py.result_raise, reduceCtorEq, false_iff]
    omega
  · simp only [Py.result_bind, except_bind_eq_ok, exists_unit, Py.forM_result_eq_ok,
      checkExists_result_eq_ok, Py.exitIf_result, ite_eq_right_iff, reduceCtorEq, imp_false,
      Py.result_lift, Py.result_print, printStat_result_eq_ok, Py.eprint, and_true, true_and]
    exact ⟨fun h => ⟨by omega, h⟩, fun h => h.2⟩

/-- One run holding one benchmark, `A`, at 100 ns. -/
def oneRun : JsonValue :=
  .obj [("benchmarks", .arr [.obj [("name", .str "A"), ("real_time", .num 100)]])]

end DiagonBench.Aggregate
