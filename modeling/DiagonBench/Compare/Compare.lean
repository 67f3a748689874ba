/-
DiagonBench.Compare.Compare — `compare_benchmarks.py`: the Diagon and Lucene
timings side by side.

`load_results` reads a CSV file with `csv.DictReader` and stores, under
each row's `benchmark`, the pair `(float(time_ns), float(stddev_ns))`; any
exception prints `Error reading ...` and exits 1. The CSV reader is the
library's: a file is what it makes of it (`CsvFile`), its rows as dicts
from column names to fields, a short row's missing fields `None`.

`compare_results` walks `sorted(all_benchmarks)`, warns about a name one
side lacks, and builds one `Comparison` per name both sides hold:
`speedup = lucene / diagon` unless Diagon's time is not positive, when it
is `float('inf')` (here `⊤` of `WithTop ℚ`), and `gap_pct = (diagon /
lucene - 1) * 100` unless Lucene's time is not positive, when it is 0. The
list is then sorted by speedup; Python's sort is stable, and so is
`insertionSort`.

`generate_report` prints the summary, the table, the bottlenecks (gap over
20%) and the strengths (speedup over 1.1). Its percentages divide by the
number of comparisons, and `main` calls it only with at least one.

The number literals `1.2`, `1.1`, `1.0`, `0.9` are the rationals they
spell; float formatting is left to the renderer. Writing
`comparison_summary.csv` is taken to succeed.
-/
import DiagonBench.Python.Dict
import DiagonBench.Python.Float
import DiagonBench.Python.Run
import Mathlib.Data.List.Sort
import Mathlib.Order.WithBot

namespace DiagonBench.Compare

open DiagonBench.Python

/-- What `csv.DictReader` over an opened file yields. -/
inductive CsvFile where
  /-- `Path(f).exists()` is false. -/
  | missing
  /-- The path exists but opening or reading it raises. -/
  | unreadable (e : PyExc)
  /-- The rows, each from the header's column names to its fields. -/
  | rows (rs : List (List (String × JsonValue)))

/-- A time as `format_time` prints it: the scaled value, its decimals, its
unit. -/
structure TimeText where
  value : ℚ
  decimals : ℕ
  unit : String

/-- One comparison: `(name, diagon_time, lucene_time, speedup, gap_pct)`. -/
structure Comparison where
  name : PyKey
  diagonTime : ℚ
  luceneTime : ℚ
  speedup : WithTop ℚ
  gapPct : ℚ

/-- A line `compare_benchmarks.py` prints. -/
inductive Line where
  /-- A line whose whole text the model spells out. -/
  | text (s : String)
  /-- `Error reading {csv_path}: {e}`. -/
  | errorReading (path : String) (e : PyExc)
  /-- `Warning: Benchmark '{name}' only in {side}`. -/
  | onlyIn (side : String) (name : PyKey)
  /-- `Error: File not found: {f}`. -/
  | fileNotFound (path : String)
  /-- `Usage: {sys.argv[0]} <diagon.csv> <lucene.csv>`. -/
  | usage (prog : String)
  /-- `*Generated: {Path.cwd()}*`, then an empty line. -/
  | generated (cwd : String)
  /-- `- **Benchmarks compared**: {total}`. -/
  | compared (total : ℕ)
  /-- `- **{who} faster**: {n} ({pct:.1f}%)`. -/
  | faster (who : String) (n : ℕ) (pct : ℚ)
  /-- `- **Average speedup**: {avg:.2f}x`. -/
  | averageSpeedup (avg : WithTop ℚ)
  /-- A row of the gaps table. -/
  | row (status : String) (name : PyKey) (diagon lucene : TimeText) (speedup : WithTop ℚ)
      (gapSign : String) (gapPct : ℚ)
  /-- `- **{name}**: {gap_pct:.1f}% slower ({speedup:.2f}x)`. -/
  | bottleneck (name : PyKey) (gapPct : ℚ) (speedup : WithTop ℚ)
  /-- `**Priority**: Fix these {n} bottlenecks first (P0)`. -/
  | priority (n : ℕ)
  /-- `- **{name}**: {speedup:.2f}x faster`. -/
  | strength (name : PyKey) (speedup : WithTop ℚ)
  /-- `*CSV saved to: ...comparison_summary.csv*`. -/
  | csvSaved

/-! ## `load_results` -/

/-- One row: `row['benchmark']`, `float(row['time_ns'])`,
`float(row.get('stddev_ns', 0))`, and hashing the name for the store. -/
def readRow (row : List (String × JsonValue)) : Except PyExc (PyKey × ℚ × ℚ) := do
  let name ← pySubscript (.obj row) "benchmark"
  let timeNs ← pyFloat (← pySubscript (.obj row) "time_ns")
  let stddevNs ← pyFloat (← pyGet (.obj row) "stddev_ns" (.num 0))
  let key ← pyHash name
  pure (key, timeNs, stddevNs)

/-- The body of the `try`: open the file and store every row. -/
def readCsv (files : String → CsvFile) (csvPath : String) : Except PyExc (PyDict (ℚ × ℚ)) :=
  match files csvPath with
  | .missing => .error .fileNotFoundError
  | .unreadable e => .error e
  | .rows rs => rs.foldlM (fun results row => do
      let (key, timeNs, stddevNs) ← readRow row
      pure (results.set key (timeNs, stddevNs))) PyDict.empty

/-- `load_results(csv_path)`. -/
def loadResults (files : String → CsvFile) (csvPath : String) : Py Line (PyDict (ℚ × ℚ)) :=
  match readCsv files csvPath with
  | .ok results => pure results
  | .error e => do
    Py.eprint (.errorReading csvPath e)
    Py.raise (.systemExit 1)

/-! ## `compare_results` -/

/-- `lucene_time / diagon_time if diagon_time > 0 else float('inf')`. -/
def speedupOf (diagonTime luceneTime : ℚ) : WithTop ℚ :=
  if diagonTime > 0 then ((luceneTime / diagonTime : ℚ) : WithTop ℚ) else ⊤

/-- `(diagon_time / lucene_time - 1.0) * 100 if lucene_time > 0 else 0`. -/
def gapOf (diagonTime luceneTime : ℚ) : ℚ :=
  if luceneTime > 0 then (diagonTime / luceneTime - 1) * 100 else 0

/-- One pass of the loop over `sorted(all_benchmarks)`: warn and `continue`
past a name one side lacks, or append the name's comparison. -/
def compareStep (diagonResults luceneResults : PyDict (ℚ × ℚ)) (comparisons : List Comparison)
    (name : PyKey) : Py Line (List Comparison) :=
  match diagonResults.get? name, luceneResults.get? name with
  | none, _ => do
    Py.eprint (.onlyIn "Lucene" name)
    pure comparisons
  | some _, none => do
    Py.eprint (.onlyIn "Diagon" name)
    pure comparisons
  | some (diagonTime, _), some (luceneTime, _) =>
    pure (comparisons ++ [⟨name, diagonTime, luceneTime, speedupOf diagonTime luceneTime,
      gapOf diagonTime luceneTime⟩])

/-- `comparisons.sort(key=lambda x: x[3])`. -/
def sortBySpeedup (comparisons : List Comparison) : List Comparison :=
  comparisons.insertionSort fun a b => a.speedup ≤ b.speedup

/-- `compare_results(diagon_results, lucene_results)`. -/
def compareResults (diagonResults luceneResults : PyDict (ℚ × ℚ)) : Py Line (List Comparison) := do
  let names ← Py.lift (pySorted (diagonResults.keys ∪ luceneResults.keys))
  let comparisons ← names.foldlM (compareStep diagonResults luceneResults) []
  pure (sortBySpeedup comparisons)

/-! ## `generate_report` -/

/-- `format_time(time_ns)`. -/
def formatTime (timeNs : ℚ) : TimeText :=
  if timeNs < 1000 then ⟨timeNs, 1, "ns"⟩
  else if timeNs < 1000000 then ⟨timeNs / 1000, 1, "µs"⟩
  else if timeNs < 1000000000 then ⟨timeNs / 1000000, 1, "ms"⟩
  else ⟨timeNs / 1000000000, 2, "s"⟩

/-- The status emoji of a row. -/
def statusOf (speedup : WithTop ℚ) : String :=
  if speedup ≥ ((6 / 5 : ℚ) : WithTop ℚ) then "✅"
  else if speedup ≥ ((1 : ℚ) : WithTop ℚ) then "🟢"
  else if speedup ≥ ((9 / 10 : ℚ) : WithTop ℚ) then "🟡"
  else "❌"

/-- `sum(c[3] for c in comparisons) / total if total > 0 else 0`; a sum with
`inf` in it is `inf`. -/
def averageSpeedup (comparisons : List Comparison) : WithTop ℚ :=
  if comparisons.length = 0 then ((0 : ℚ) : WithTop ℚ)
  else WithTop.map (· / (comparisons.length : ℚ)) (comparisons.map Comparison.speedup).sum

/-- A row of the gaps table. -/
def rowOf (c : Comparison) : Line :=
  .row (statusOf c.speedup) c.name (formatTime c.diagonTime) (formatTime c.luceneTime) c.speedup
    (if c.gapPct > 0 then "+" else "") c.gapPct

/-- `[c for c in comparisons if g > 20]`. -/
def bottlenecks (comparisons : List Comparison) : List Comparison :=
  comparisons.filter fun c => c.gapPct > 20

/-- `[c for c in comparisons if s > 1.1]`. -/
def strengths (comparisons : List Comparison) : List Comparison :=
  comparisons.filter fun c => c.speedup > ((11 / 10 : ℚ) : WithTop ℚ)

/-- The lines after the summary, from the interpretation to the end. -/
def detailLines (comparisons : List Comparison) : List Line :=
  let avg := averageSpeedup comparisons
  [if avg > ((11 / 10 : ℚ) : WithTop ℚ) then .text "✅ **Diagon outperforms Lucene overall**"
    else if avg < ((9 / 10 : ℚ) : WithTop ℚ) then .text "❌ **Diagon underperforms Lucene overall**"
    else .text "⚖️ **Diagon and Lucene have comparable performance**",
    .text "", .text "## Performance Gaps", .text "",
    .text "| Status | Benchmark | Diagon | Lucene | Speedup | Gap |",
    .text "|--------|-----------|--------|--------|---------|-----|"] ++
  comparisons.map rowOf ++
  [.text "", .text "## Identified Bottlenecks (>20% slower)", .text ""] ++
  (if (bottlenecks comparisons).isEmpty then [.text "✅ No major bottlenecks identified"]
    else (bottlenecks comparisons).map (fun c => .bottleneck c.name c.gapPct c.speedup) ++
      [.text "", .priority (bottlenecks comparisons).length]) ++
  [.text "", .text "## Diagon Strengths", .text ""] ++
  (if (strengths comparisons).isEmpty then
      [.text "No significant performance advantages identified yet"]
    else ((strengths comparisons).take 5).map fun c => .strength c.name c.speedup) ++
  [.text "", .text "## Next Steps", .text "",
    .text "1. **Profile bottlenecks**: Run \x60perf\x60 profiling on slow benchmarks",
    .text "2. **Micro-benchmark**: Isolate bottleneck components",
    .text "3. **Optimize**: Implement fixes (see OPTIMIZATION_LOG.md)",
    .text "4. **Validate**: Re-run benchmarks to measure improvement", .text ""]

/-- `generate_report(comparisons)`, run in the directory `cwd`. The first
percentage divides by the number of comparisons. -/
def generateReport (cwd : String) (comparisons : List Comparison) : Py Line Unit := do
  let total := comparisons.length
  let diagonFaster := (comparisons.filter fun c => c.speedup > ((1 : ℚ) : WithTop ℚ)).length
  let luceneFaster := total - diagonFaster
  [Line.text "# Diagon vs Lucene Benchmark Comparison", .text "", .generated cwd,
    .text "## Summary", .text "", .compared total].forM Py.print
  if total = 0 then Py.raise .zeroDivisionError
  [Line.faster "Diagon" diagonFaster (diagonFaster / total * 100),
    .faster "Lucene" luceneFaster (luceneFaster / total * 100),
    .averageSpeedup (averageSpeedup comparisons), .text ""].forM Py.print
  (detailLines comparisons).forM Py.print

/-! ## `main` -/

/-- The usage text, on stderr. -/
def usage (prog : String) : List Line :=
  [.usage prog, .text "", .text "Compare Diagon and Lucene benchmark results.",
    .text "Generates markdown report to stdout."]

/-- A pass of the loop over the two paths: `if not Path(f).exists()`. -/
def checkExists (files : String → CsvFile) (f : String) : Py Line Unit :=
  Py.exitIf (files f matches .missing) (.fileNotFound f)

/-- `main()`, with `sys.argv` as `argv`, run in the directory `cwd`. -/
def main (argv : List String) (files : String → CsvFile) (cwd : String) : Py Line Unit :=
  match argv with
  | [_, diagonCsv, luceneCsv] => do
    [diagonCsv, luceneCsv].forM (checkExists files)
    let diagonResults ← loadResults files diagonCsv
    let luceneResults ← loadResults files luceneCsv
    Py.exitIf (diagonResults.keys = ∅) (.text "Error: No Diagon results found")
    Py.exitIf (luceneResults.keys = ∅) (.text "Error: No Lucene results found")
    let comparisons ← compareResults diagonResults luceneResults
    Py.exitIf comparisons.isEmpty (.text "Error: No matching benchmarks found")
    generateReport cwd comparisons
    Py.eprint .csvSaved
  | _ => do
    (usage (argv.headD "")).forM Py.eprint
    Py.raise (.systemExit 1)

end DiagonBench.Compare
