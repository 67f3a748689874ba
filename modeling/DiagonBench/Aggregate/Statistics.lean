/-
DiagonBench.Aggregate.Statistics — `calculate_statistics` and `main` of
`aggregate_results.py`.

`calculate_statistics` walks `sorted(results.items())` and, for each name
with times, computes `statistics.median` and, for two times or more,
`statistics.stdev`. The items are pairs with distinct names, so every
comparison the sort makes is decided by the names: the sort is `pySorted`
of the keys. The loop body is cut as in `aggregate_benchmarks`: `statOf`
computes what a name adds, and only then is `stats` extended.

`statistics.median` sorts the data with Python's rules (`pySortBy`), takes
the middle value of an odd count and the mean of the two middle values of
an even count; two middle strings concatenate and the division raises
`TypeError`. `statistics.stdev` converts every value to a number
(`TypeError` otherwise) and needs two of them. The model keeps the
standard deviation as the sample variance `Σ (x - mean)² / (n - 1)` under
its square root: the root of a rational need not be rational, and only the
printed digits depend on it, so the renderer takes it.

`main` checks that every path exists, aggregates, stops when no name was
recorded, and prints the CSV: a header and one row per name, whose median
is formatted with `:.2f`, a format that raises on anything but a number.
-/
import DiagonBench.Aggregate.Collect
import DiagonBench.Python.Sort

namespace DiagonBench.Aggregate

open DiagonBench.Python

/-! ## `statistics.median` and `statistics.stdev` -/

/-- `(data[i - 1] + data[i]) / 2`: numbers average, and anything else raises
`TypeError`. -/
def midpoint (a b : JsonValue) : Except PyExc JsonValue :=
  match a.toNum?, b.toNum? with
  | some x, some y => .ok (.num ((x + y) / 2))
  | _, _ => .error .typeError

/-- `statistics.median(data)`. -/
def median (data : List JsonValue) : Except PyExc JsonValue := do
  let data ← pySortBy data data
  let n := data.length
  if n = 0 then .error .statisticsError
  else if n % 2 = 1 then .ok (data.getD (n / 2) .null)
  else midpoint (data.getD (n / 2 - 1) .null) (data.getD (n / 2) .null)

/-- `statistics.stdev(data)`, as the variance under its square root. -/
def sampleVariance (data : List JsonValue) : Except PyExc ℚ :=
  match data.mapM JsonValue.toNum? with
  | none => .error .typeError
  | some xs =>
    if xs.length < 2 then .error .statisticsError
    else .ok ((xs.map fun x => (x - xs.sum / xs.length) ^ 2).sum / (xs.length - 1))

/-! ## `calculate_statistics` -/

/-- One entry of `stats`: `(name, median, stddev)`, the stddev as the
variance under its square root. -/
structure Stat where
  name : PyKey
  median : JsonValue
  variance : ℚ

/-- The loop body up to the append: `none` for a name without times
(`continue`), else its entry; `0.0` is the stddev of a single time. -/
def statOf (results : PyDict (List JsonValue)) (name : PyKey) : Except PyExc (Option Stat) :=
  let times := (results.get? name).getD []
  if times.isEmpty then .ok none
  else do
    let median ← median times
    let stddev ← if times.length > 1 then sampleVariance times else pure 0
    pure (some ⟨name, median, stddev⟩)

/-- `calculate_statistics(results)`. -/
def calculateStatistics (results : PyDict (List JsonValue)) : Except PyExc (List Stat) := do
  let names ← pySorted results.keys
  names.foldlM (fun stats name => do
    let s ← statOf results name
    pure (stats ++ s.toList)) []

/-! ## `main` -/

/-- `{v:.2f}`: numbers format; a string raises `ValueError` and any other
value `TypeError`. -/
def formatFixed : JsonValue → Except PyExc ℚ
  | .num q => .ok q
  | .bool b => .ok (if b then 1 else 0)
  | .str _ => .error .valueError
  | _ => .error .typeError

/-- The usage text, on stderr. -/
def usage (prog : String) : List Line :=
  [.usage prog, .text "", .text "Aggregates Google Benchmark results across multiple runs.",
    .text "Outputs CSV: benchmark_name,median_time_ns,stddev_ns"]

/-- A pass of the loop over the paths: `if not Path(f).exists()`. -/
def checkExists (fs : FileSystem) (f : String) : Py Line Unit :=
  Py.exitIf (fs f matches .missing) (.fileNotFound f)

/-- `print(f"{name},{median:.2f},{stddev:.2f}")`. -/
def printStat (s : Stat) : Py Line Unit := do
  let median ← Py.lift (formatFixed s.median)
  Py.print (.csvRow s.name median s.variance)

/-- `main()`, with `sys.argv` as `argv`. -/
def main (argv : List String) (fs : FileSystem) : Py Line Unit :=
  if argv.length < 2 then do
    (usage (argv.headD "")).forM Py.eprint
    Py.raise (.systemExit 1)
  else do
    let files := argv.tail
    files.forM (checkExists fs)
    let results ← aggregateBenchmarks fs files
    Py.exitIf (results.keys = ∅) (.text "Error: No benchmark results found in input files")
    let stats ← Py.lift (calculateStatistics results)
    Py.print (.text "benchmark,time_ns,stddev_ns")
    stats.forM printStat
    Py.eprint (.processed files.length stats.length)

end DiagonBench.Aggregate
