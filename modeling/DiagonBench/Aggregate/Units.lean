/-
DiagonBench.Aggregate.Units — `aggregate_results.py` and
`check_fst_regression.py` read one Google Benchmark entry alike, except for
times in seconds.

Both scripts read the JSON that Google Benchmark writes and convert each
entry's time to nanoseconds. They do not convert alike:

* the regression checker takes `real_time`, else `cpu_time`, else 0, and
  scales `ms` and `us` only; a time in `s` stays the number of seconds;
* the aggregator skips an entry without `real_time`, and scales `us`, `ms`
  and `s`.

`readTime_of_readEntry` says exactly how the two readings of an entry the
checker reads are related: the aggregator skips it when it has no
`real_time`, reads the checker's time 10⁹ times over when its unit is `s`,
and reads the checker's key and time otherwise. The name the aggregator
defaults to `'unknown'` is no matter here: the checker has raised
`KeyError` on a nameless entry already.
-/
import DiagonBench.Regression.Load
import DiagonBench.Aggregate.Collect

namespace DiagonBench.Aggregate

open DiagonBench.Python DiagonBench.Python.JsonValue

/-- Outside seconds, the two conversions agree. -/
theorem toNanoseconds_eq_regression (t u : JsonValue) (hs : u.eqStr "s" = false) :
    toNanoseconds t u = Regression.toNanoseconds t u := by
  cases u with
  | str s =>
    simp only [eqStr, beq_eq_false_iff_ne] at hs
    by_cases hus : s = "us"
    · subst hus; rfl
    · simp [toNanoseconds, Regression.toNanoseconds, eqStr, hus, hs]
  | _ => rfl

/-- What the checker's reading of an entry tells: it has a hashable name,
and its time, `real_time` or `cpu_time` or 0, converts. -/
theorem readEntry_obj {fs : List (String × JsonValue)} {k : PyKey}
    {r : Regression.BenchmarkResult} (h : Regression.readEntry (.obj fs) = .ok (k, r)) :
    ∃ name, lookup fs "name" = some name ∧ pyHash name = .ok k ∧
      Regression.toNanoseconds ((lookup fs "real_time").getD ((lookup fs "cpu_time").getD (.num 0)))
        ((lookup fs "time_unit").getD (.str "ns")) = .ok r.timeNs := by
  cases hn : lookup fs "name" with
  | none => simp [Regression.readEntry, pySubscript, hn, bind, Except.bind] at h
  | some name =>
    simp only [Regression.readEntry, pySubscript, hn, pyGet, except_ok_bind] at h
    obtain ⟨t, ht, h⟩ := except_bind_eq_ok.mp h
    obtain ⟨k', hk, h⟩ := except_bind_eq_ok.mp h
    cases h
    exact ⟨name, rfl, hk, ht⟩

/-- **The aggregator reads what the checker reads, but for seconds.** On an
entry the regression checker reads as key `k` and record `r`, the
aggregator reads nothing if the entry has no `real_time`; otherwise it
reads the key `k` with `r`'s time, multiplied by 10⁹ when the unit is `s`. -/
theorem readTime_of_readEntry {fs : List (String × JsonValue)} {k : PyKey}
    {r : Regression.BenchmarkResult} (h : Regression.readEntry (.obj fs) = .ok (k, r)) :
    readTime (.obj fs) =
      if (lookup fs "real_time").isSome then
        if ((lookup fs "time_unit").getD (.str "ns")).eqStr "s" then
          (fun t => some (k, t)) <$> pyMulNat r.timeNs 1000000000
        else .ok (some (k, r.timeNs))
      else .ok none := by
  obtain ⟨name, hn, hk, ht⟩ := readEntry_obj h
  cases hrt : lookup fs "real_time" with
  | none => simp [readTime, pyGet, pyContains, hrt]
  | some t =>
    simp only [Option.getD_some, hrt] at ht
    simp only [readTime, pyGet, pyContains, pySubscript, hn, hrt, Option.getD_some,
      Option.isSome_some, except_ok_bind]
    generalize (lookup fs "time_unit").getD (.str "ns") = u at ht ⊢
    by_cases hs : u.eqStr "s"
    · obtain rfl : u = .str "s" := by cases u <;> simp_all [eqStr]
      obtain rfl : t = r.timeNs := by simpa [Regression.toNanoseconds, eqStr] using ht
      simp only [toNanoseconds, eqStr, hk]
      cases pyMulNat r.timeNs 1000000000 <;> rfl
    · simp [toNanoseconds_eq_regression t u (Bool.eq_false_iff.mpr hs), ht, hk, hs]

/-- An entry timed in seconds: `{"name": "A", "real_time": 2, "time_unit": "s"}`. -/
def secondsEntry : List (String × JsonValue) :=
  [("name", .str "A"), ("real_time", .num 2), ("time_unit", .str "s")]

/-- Two seconds: the checker stores 2 as nanoseconds, the aggregator
2·10⁹. -/
theorem readTime_of_readEntry_seconds :
    Regression.readEntry (.obj secondsEntry) = .ok (.str "A", ⟨.str "A", .num 2, .num 0, .str ""⟩) ∧
      readTime (.obj secondsEntry) = .ok (some (.str "A", .num 2000000000)) := by
  have h : Regression.readEntry (.obj secondsEntry) =
      .ok (.str "A", ⟨.str "A", .num 2, .num 0, .str ""⟩) := rfl
  refine ⟨h, ?_⟩
  have hrt : (lookup secondsEntry "real_time").isSome = true := rfl
  have hs : ((lookup secondsEntry "time_unit").getD (.str "ns")).eqStr "s" = true := rfl
  rw [readTime_of_readEntry h, if_pos hrt, if_pos hs]
  norm_num [pyMulNat]

end DiagonBench.Aggregate
