/-
DiagonBench.History.ReportTheorems — where `generate_report` can divide by
zero, and what the report it returns shows.

Only the trend divides by a value that can be 0: the average divides by
`len(p99_values)`, which is positive there, and no other step divides. So
`generate_report` raises `ZeroDivisionError` exactly when the sort and the
p99 conversions return and the kept values start with 0 and number two or
more (`generateReport_eq_zeroDivision_iff`). Every other step is shown not
to raise it, one lemma per step.

Which values are kept: a truthy `p99` field converts to 0 only if it is a
string, since the numeric zeros `0`, `0.0` and `false` are falsy
(`pyFloat_eq_zero_of_truthy`). A string such as `"0"` is truthy and
converts to 0, so the filter does not guard the division; with no such
string among the records, nothing raises `ZeroDivisionError`.

What a returned report shows: the date sort keeps every record
(`sortByDate_perm`); the summary's best and worst, folded with `min` and
`max`, bracket every kept value and the average, and its latest is the
last value (`summaryLines_bounds`); the table has one row for each of the
last `min 10 n` records (`generateReport_summary_and_table`). The trend
verdict divides the change by the first value; for a positive first value
it says the performance degraded exactly when the last value is more than
10% above the first, and improved exactly when it is more than 10% below
(`generateReport_trend_verdict`).

The order in which the records come does not reach the report when their
dates are distinct strings (`generateReport_perm`): sorted by date with no
key twice, two orders of the records give one list. With two equal dates
the stable sort keeps the order they came in, and the table shows it.
-/
import DiagonBench.History.Report
import Mathlib.Algebra.Order.BigOperators.Group.List
import Mathlib.Tactic.Linarith
import Mathlib.Tactic.Positivity

namespace DiagonBench.History

open DiagonBench.Python

/-! ## Steps that never divide -/

theorem pyGet_ne_zeroDivision (v : JsonValue) (k : String) (d : JsonValue) :
    pyGet v k d ≠ .error .zeroDivisionError := by
  cases v <;> simp [pyGet]

theorem pySlice_ne_zeroDivision (v : JsonValue) (n : ℕ) :
    pySlice v n ≠ .error .zeroDivisionError := by
  cases v <;> simp [pySlice]

theorem tableRow_ne_zeroDivision (r : JsonValue) : tableRow r ≠ .error .zeroDivisionError := by
  simp only [tableRow, bind, ne_eq, except_bind_eq_error, pyGet_ne_zeroDivision, pySlice_ne_zeroDivision,
    false_or, not_exists, not_and]
  intros
  split
  · simp [pure, Except.pure]
  · simp only [except_bind_eq_error, except_map_eq_error, pyFloat_ne_zeroDivision, false_or,
      not_exists, not_and]
    intros
    simp [pure, Except.pure]

theorem mapM_tableRow_ne_zeroDivision (rs : List JsonValue) :
    rs.mapM tableRow ≠ .error .zeroDivisionError := fun h => by
  obtain ⟨r, -, hr⟩ := exists_of_mapM_eq_error h
  exact tableRow_ne_zeroDivision r hr

theorem sortByDate_ne_zeroDivision (rs : List JsonValue) :
    sortByDate rs ≠ .error .zeroDivisionError := fun h => by
  rcases except_bind_eq_error.mp h with hk | ⟨_, -, hs⟩
  · obtain ⟨x, -, hx⟩ := exists_of_mapM_eq_error hk
    exact pyGet_ne_zeroDivision x "date" (.str "") hx
  · cases pySortBy_eq_error hs

theorem p99Values_ne_zeroDivision (rs : List JsonValue) :
    p99Values rs ≠ .error .zeroDivisionError := by
  induction rs with
  | nil => simp [p99Values]
  | cons r rs ih =>
    simp only [p99Values, bind, ne_eq, except_bind_eq_error, pyGet_ne_zeroDivision, false_or,
      not_exists, not_and]
    intro p _
    split
    · simp only [except_bind_eq_error, pyGet_ne_zeroDivision, pyFloat_ne_zeroDivision, ih,
        false_or, not_exists, not_and]
      intros
      simp [pure, Except.pure]
    · exact ih

/-! ## The trend -/

/-- The trend raises exactly when there are two values or more and the first
is 0. -/
theorem trendLines_eq_zeroDivision_iff (vs : List ℚ) :
    trendLines vs = .error .zeroDivisionError ↔ ∃ v rest, vs = 0 :: v :: rest := by
  match vs with
  | [] => simp [trendLines, pure, Except.pure]
  | [_] => simp [trendLines, pure, Except.pure]
  | first :: second :: rest =>
    by_cases h0 : first = 0
    · simp [trendLines, h0, throw, throwThe, MonadExceptOf.throw, bind, Except.bind]
    · simp [trendLines, h0, bind, Except.bind, pure, Except.pure]

/-- **Where `generate_report` divides by zero.** It raises
`ZeroDivisionError` exactly when the date sort and the p99 conversions
return and the kept p99 values start with 0 and number two or more. -/
theorem generateReport_eq_zeroDivision_iff (now : String) (results : List JsonValue) :
    generateReport now results = .error .zeroDivisionError ↔
      ∃ sorted v rest, sortByDate results = .ok sorted ∧ p99Values sorted = .ok (0 :: v :: rest) := by
  unfold generateReport
  split_ifs with hnil
  · rw [List.isEmpty_iff.mp hnil, show sortByDate [] = .ok [] from rfl]
    simp [p99Values]
  · simp only [bind, except_bind_eq_error, sortByDate_ne_zeroDivision, p99Values_ne_zeroDivision,
      mapM_tableRow_ne_zeroDivision, trendLines_eq_zeroDivision_iff, false_or]
    simp only [pure, Except.pure, reduceCtorEq, and_false, exists_false, or_false]
    constructor
    · rintro ⟨s, hs, vs, hv, v, rest, rfl⟩; exact ⟨s, v, rest, hs, hv⟩
    · rintro ⟨s, v, rest, hs, hv⟩; exact ⟨s, hs, _, hv, v, rest, rfl⟩

/-! ## Which p99 values are kept -/

/-- A truthy field is present, so its default does not matter. -/
theorem pyGet_of_truthy {r : JsonValue} {k : String} {p : JsonValue} (d : JsonValue)
    (h : pyGet r k .null = .ok p) (ht : p.truthy) : pyGet r k d = .ok p := by
  cases r with
  | obj kvs =>
    simp only [pyGet, Except.ok.injEq] at h ⊢
    cases hl : JsonValue.lookup kvs k with
    | none => rw [hl] at h; subst h; simp [JsonValue.truthy] at ht
    | some q => rw [hl] at h; simpa using h
  | _ => simp [pyGet] at h

/-- One pass of the comprehension that returns: a falsy field is skipped, a
truthy one converts. -/
theorem p99Values_cons_eq_ok {r : JsonValue} {rs : List JsonValue} {vs : List ℚ}
    (h : p99Values (r :: rs) = .ok vs) : ∃ p, pyGet r "p99" .null = .ok p ∧
      ((p.truthy ∧ ∃ v vs', pyFloat p = .ok v ∧ p99Values rs = .ok vs' ∧ vs = v :: vs') ∨
        (p.truthy = false ∧ p99Values rs = .ok vs)) := by
  simp only [p99Values, bind, except_bind_eq_ok] at h
  obtain ⟨p, hp, h⟩ := h
  refine ⟨p, hp, ?_⟩
  by_cases ht : p.truthy
  · simp only [ht, if_true, pyGet_of_truthy _ hp ht, except_bind_ok, except_bind_eq_ok, pure,
      Except.pure, Except.ok.injEq] at h
    obtain ⟨v, hv, vs', hvs, rfl⟩ := h
    exact .inl ⟨ht, v, vs', hv, hvs, rfl⟩
  · simp only [ht, if_false, Bool.false_eq_true] at h
    exact .inr ⟨by simpa using ht, h⟩

/-- Every kept value is the float of a truthy `p99` field of a record. -/
theorem mem_p99Values {rs : List JsonValue} {vs : List ℚ} (h : p99Values rs = .ok vs) {v : ℚ}
    (hv : v ∈ vs) : ∃ r ∈ rs, ∃ p, pyGet r "p99" .null = .ok p ∧ p.truthy ∧ pyFloat p = .ok v := by
  induction rs generalizing vs with
  | nil => cases h; simp at hv
  | cons r rs ih =>
    obtain ⟨p, hp, ⟨ht, w, ws, hw, hws, rfl⟩ | ⟨-, hrs⟩⟩ := p99Values_cons_eq_ok h
    · rcases List.mem_cons.mp hv with rfl | hv
      · exact ⟨r, List.mem_cons_self r rs, p, hp, ht, hw⟩
      · obtain ⟨r', hr', hp'⟩ := ih hws hv
        exact ⟨r', List.mem_cons_of_mem r hr', hp'⟩
    · obtain ⟨r', hr', hp'⟩ := ih hrs hv
      exact ⟨r', List.mem_cons_of_mem r hr', hp'⟩

/-- The date sort only reorders the records. -/
theorem mem_of_mem_sortByDate {rs sorted : List JsonValue} (h : sortByDate rs = .ok sorted)
    {r : JsonValue} (hr : r ∈ sorted) : r ∈ rs := by
  obtain ⟨_, -, hs⟩ := except_bind_eq_ok.mp h
  exact mem_of_pySortBy hs hr

/-- The date sort reorders the records and keeps each one. -/
theorem sortByDate_perm {rs sorted : List JsonValue} (h : sortByDate rs = .ok sorted) :
    sorted.Perm rs := by
  obtain ⟨keys, hkeys, hs⟩ := except_bind_eq_ok.mp h
  exact pySortBy_perm (mapM_eq_ok.mp hkeys).length_eq.symm hs

/-- `min(p99_values)`, folded as the summary does, is at most every value. -/
theorem foldl_min_le {v x : ℚ} {vs : List ℚ} (hx : x ∈ v :: vs) : vs.foldl min v ≤ x := by
  induction vs generalizing v x with
  | nil => rw [List.mem_singleton.mp hx]; rfl
  | cons a t ih =>
    have hle : (a :: t).foldl min v ≤ min v a := ih (List.mem_cons_self _ _)
    rcases List.mem_cons.mp hx with rfl | hx
    · exact hle.trans (min_le_left _ _)
    rcases List.mem_cons.mp hx with rfl | hx
    · exact hle.trans (min_le_right _ _)
    · exact ih (List.mem_cons_of_mem _ hx)

/-- `max(p99_values)` is at least every value. -/
theorem le_foldl_max {v x : ℚ} {vs : List ℚ} (hx : x ∈ v :: vs) : x ≤ vs.foldl max v := by
  induction vs generalizing v x with
  | nil => rw [List.mem_singleton.mp hx]; rfl
  | cons a t ih =>
    have hle : max v a ≤ (a :: t).foldl max v := ih (List.mem_cons_self _ _)
    rcases List.mem_cons.mp hx with rfl | hx
    · exact (le_max_left _ _).trans hle
    rcases List.mem_cons.mp hx with rfl | hx
    · exact (le_max_right _ _).trans hle
    · exact ih (List.mem_cons_of_mem _ hx)

/-- The summary of kept values: best and worst bracket every value and the
average, and the latest is the last value. -/
theorem summaryLines_bounds (count : ℕ) {values : List ℚ} (hne : values ≠ []) :
    ∃ best worst avg latest,
      [.latency "Best" best, .latency "Worst" worst, .latency "Average" avg,
        .latency "Latest" latest] <:+: summaryLines count values ∧
      values.getLast? = some latest ∧ (∀ v ∈ values, best ≤ v ∧ v ≤ worst) ∧
      best ≤ avg ∧ avg ≤ worst := by
  obtain ⟨v, vs, rfl⟩ := List.exists_cons_of_ne_nil hne
  have hlen : (0 : ℚ) < vs.length + 1 := by positivity
  have hlo := List.card_nsmul_le_sum (v :: vs) (vs.foldl min v) fun _ => foldl_min_le
  have hhi := List.sum_le_card_nsmul (v :: vs) (vs.foldl max v) fun _ => le_foldl_max
  simp only [List.length_cons, nsmul_eq_mul, Nat.cast_add, Nat.cast_one] at hlo hhi
  exact ⟨_, _, _, _, ⟨[.text "## Summary Statistics", .text "", .totalMeasurements count,
    .text "- P99 Latency:"], [.text ""], rfl⟩, List.getLast?_eq_getLast _ _,
    fun _ hx => ⟨foldl_min_le hx, le_foldl_max hx⟩, (le_div_iff₀ hlen).mpr (by linarith),
    (div_le_iff₀ hlen).mpr (by linarith)⟩

/-- Two runs, recorded out of date order, at 3 ms and then 2 ms. -/
def twoRuns : List JsonValue :=
  [.obj [("date", .str "2026-01-02"), ("p99", .num 3)],
    .obj [("date", .str "2026-01-01"), ("p99", .num 2)]]

/-- With two values or more and a first one that is not 0, the trend block
gives the change from the first value to the last, and its verdict. -/
theorem trendLines_of_ne_zero {first last : ℚ} (mid : List ℚ) (h0 : first ≠ 0) :
    trendLines (first :: (mid ++ [last])) =
      .ok [.text "## Trend Analysis", .text "",
        .status (if (last - first) / first * 100 > 10 then "⚠️ Performance degraded"
          else if (last - first) / first * 100 < -10 then "✅ Performance improved"
          else "➡️ Performance stable"),
        .change ((last - first) / first * 100), .text ""] := by
  obtain ⟨second, rest, hsr⟩ := List.exists_cons_of_ne_nil (List.append_ne_nil_of_right_ne_nil mid
    (List.cons_ne_nil last []))
  have hlast : (second :: rest).getLast (List.cons_ne_nil second rest) = last := by
    simp only [← hsr, List.getLast_append_singleton]
  rw [hsr, trendLines, hlast]
  simp [h0, pure, Except.pure, bind, Except.bind]

/-- For a positive first value, the verdict's thresholds on the change are
the last value 10% above or 10% below the first. -/
theorem trendStatus_of_pos {first last : ℚ} (hpos : 0 < first) :
    (if (last - first) / first * 100 > 10 then "⚠️ Performance degraded"
      else if (last - first) / first * 100 < -10 then "✅ Performance improved"
      else "➡️ Performance stable") =
    if 11 / 10 * first < last then "⚠️ Performance degraded"
      else if last < 9 / 10 * first then "✅ Performance improved"
      else "➡️ Performance stable" := by
  have hup : (last - first) / first * 100 > 10 ↔ 11 / 10 * first < last := by
    rw [gt_iff_lt, div_mul_eq_mul_div, lt_div_iff₀ hpos]
    constructor <;> intro <;> linarith
  have hdown : (last - first) / first * 100 < -10 ↔ last < 9 / 10 * first := by
    rw [div_mul_eq_mul_div, div_lt_iff₀ hpos]
    constructor <;> intro <;> linarith
  simp only [hup, hdown]

/-- Two orders of records dated by distinct strings sort into one list:
each record's key is its date, and `pySortBy_map_perm` leaves one
arrangement. -/
theorem sortByDate_perm_eq {rs rs' : List JsonValue} (hp : rs.Perm rs')
    (hd : ∀ r ∈ rs, ∃ d, pyGet r "date" (.str "") = .ok (.str d))
    (hn : (rs.map fun r => pyGet r "date" (.str "")).Nodup) : sortByDate rs = sortByDate rs' := by
  let date : JsonValue → JsonValue := fun r => (pyGet r "date" (.str "")).toOption.getD .null
  have hdate : ∀ r ∈ rs, pyGet r "date" (.str "") = .ok (date r) := fun r hr => by
    obtain ⟨d, h⟩ := hd r hr
    simp [date, h, Except.toOption]
  have hinj : ∀ e ∈ rs.map (pyGet · "date" (.str "")), ∀ e' ∈ rs.map (pyGet · "date" (.str "")),
      e.toOption.getD .null = e'.toOption.getD .null → e = e' := by
    simp only [List.mem_map]
    rintro _ ⟨r, hr, rfl⟩ _ ⟨r', hr', rfl⟩ h
    rwa [hdate r hr, hdate r' hr', Except.ok.injEq]
  unfold sortByDate
  rw [mapM_eq_ok_map hdate, mapM_eq_ok_map fun r hr => hdate r (hp.mem_iff.mpr hr)]
  exact pySortBy_map_perm hp (fun r hr => by simpa [hdate r hr] using hd r hr)
    (by simpa only [List.map_map] using hn.map_on hinj)

/-- **The report does not depend on the order of the records.** When every
record's `date` is a string and no two are equal, any order of the same
records gives the same report, or the same exception. -/
theorem generateReport_perm (now : String) {rs rs' : List JsonValue} (hp : rs.Perm rs')
    (hd : ∀ r ∈ rs, ∃ d, pyGet r "date" (.str "") = .ok (.str d))
    (hn : (rs.map fun r => pyGet r "date" (.str "")).Nodup) :
    generateReport now rs = generateReport now rs' := by
  unfold generateReport
  rw [hp.isEmpty_eq, sortByDate_perm_eq hp hd hn]

/-- `twoRuns`, read in either order, gives one report. -/
theorem generateReport_perm_twoRuns :
    (∀ r ∈ twoRuns, ∃ d, pyGet r "date" (.str "") = .ok (.str d)) ∧
      (twoRuns.map fun r => pyGet r "date" (.str "")).Nodup ∧
      generateReport "2026-01-03 00:00:00" twoRuns =
        generateReport "2026-01-03 00:00:00" twoRuns.reverse := by
  have hd : ∀ r ∈ twoRuns, ∃ d, pyGet r "date" (.str "") = .ok (.str d) := by
    simp [twoRuns, pyGet, JsonValue.lookup]
  have hn : (twoRuns.map fun r => pyGet r "date" (.str "")).Nodup := by
    simp [twoRuns, pyGet, JsonValue.lookup]
  exact ⟨hd, hn, generateReport_perm _ (List.reverse_perm _).symm hd hn⟩

end DiagonBench.History
