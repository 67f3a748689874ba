/-
DiagonBench.Regression.Load — `load_benchmark_results` of
`check_fst_regression.py`.

The loader opens the file, parses it, and walks `data.get('benchmarks', [])`
storing one `BenchmarkResult` per entry under the entry's `name`. A missing
file and a JSON syntax error are caught: the loader prints to stderr and
calls `sys.exit(2)`. Every other failure escapes: a directory or an
unreadable file raises from `open`, a document that is not a dict has no
`get`, an entry that is not a dict or has no `name` raises at
`benchmark['name']`, a `null` time in `ms` or `us` raises at the
multiplication, and a list or dict name is unhashable.

The loop body is cut in two. `readEntry` is everything the body computes
from the entry alone: the key and the record. `loadEntry` stores them.
Nothing `readEntry` does depends on the dict built so far, so the loop is
"read every entry, first failure wins, then store them all in order"
(`foldlM_loadEntry`). Every loader theorem goes through that equation.
-/
import DiagonBench.Python.Dict
import DiagonBench.Python.Run
import DiagonBench.Regression.Analyze

namespace DiagonBench.Regression

open DiagonBench.Python

/-- A line `check_fst_regression.py` prints. -/
inductive Line where
  /-- A line whose whole text the model spells out. -/
  | text (s : String)
  /-- `print(f"  {a}")`: two spaces, then `str(a)`. -/
  | analysis (t : AnalysisText)
  /-- `print(f"  + {name}")`. -/
  | added (k : PyKey)
  /-- `print(f"  - {name}")`. -/
  | removed (k : PyKey)

/-- The unit conversion: `ms` and `us` scale, any other unit is nanoseconds. -/
def toNanoseconds (timeNs timeUnit : JsonValue) : Except PyExc JsonValue :=
  if timeUnit.eqStr "ms" then pyMulNat timeNs 1000000
  else if timeUnit.eqStr "us" then pyMulNat timeNs 1000
  else .ok timeNs

/-- The loop body of `load_benchmark_results` up to the store: the key
`results[name]` uses and the record stored under it. -/
def readEntry (benchmark : JsonValue) : Except PyExc (PyKey × BenchmarkResult) := do
  let name ← pySubscript benchmark "name"
  let timeNs ← pyGet benchmark "real_time" (← pyGet benchmark "cpu_time" (.num 0))
  let timeUnit ← pyGet benchmark "time_unit" (.str "ns")
  let timeNs ← toNanoseconds timeNs timeUnit
  let itemsPerSec ← pyGet benchmark "items_per_second" (.num 0)
  let label ← pyGet benchmark "label" (.str "")
  let key ← pyHash name
  pure (key, { name, timeNs, itemsPerSec, label })

/-- One pass of the loop: `results[name] = BenchmarkResult(...)`. -/
def loadEntry (results : PyDict BenchmarkResult) (benchmark : JsonValue) :
    Except PyExc (PyDict BenchmarkResult) := do
  let (key, result) ← readEntry benchmark
  pure (results.set key result)

/-- The loader after `json.load`: the loop over `data.get('benchmarks', [])`. -/
def loadResults (data : JsonValue) : Except PyExc (PyDict BenchmarkResult) := do
  let benchmarks ← pyGet data "benchmarks" (.arr [])
  let entries ← pyIter benchmarks
  entries.foldlM loadEntry PyDict.empty

/-- `load_benchmark_results(filename)`. -/
def loadBenchmarkResults (fs : FileSystem) (filename : String) :
    Py Line (PyDict BenchmarkResult) := do
  let data ← match openJson fs filename with
    | .ok data => pure data
    | .error .fileNotFoundError => do
      Py.eprint (.text ("❌ Error: File not found: " ++ filename))
      Py.raise (.systemExit 2)
    | .error (.jsonDecodeError e) => do
      Py.eprint (.text ("❌ Error: Invalid JSON in " ++ filename ++ ": " ++ e))
      Py.raise (.systemExit 2)
    | .error e => Py.raise e
  Py.lift (loadResults data)

/-! ## The loop -/

/-- The loop reads every entry, then stores the records in entry order. -/
theorem foldlM_loadEntry (entries : List JsonValue) (d : PyDict BenchmarkResult) :
    entries.foldlM loadEntry d = (entries.mapM readEntry).map d.setAll := by
  induction entries generalizing d with
  | nil => rfl
  | cons b bs ih =>
    rw [List.foldlM_cons, List.mapM_cons]
    cases h : readEntry b with
    | error e => simp only [loadEntry, h]; rfl
    | ok kr =>
      simp only [loadEntry, h]
      show List.foldlM loadEntry (d.set kr.1 kr.2) bs = _
      rw [ih]; cases bs.mapM readEntry <;> rfl

/-- A read record's name hashes to the key it is stored under. -/
theorem readEntry_name {b : JsonValue} {k : PyKey} {r : BenchmarkResult}
    (h : readEntry b = .ok (k, r)) : r.name.hashKey? = some k := by
  simp only [readEntry, bind, Except.bind, pure, Except.pure] at h
  split at h <;> try cases h
  rename_i name _
  repeat (split at h <;> try cases h)
  rename_i hk
  exact pyHash_eq_ok.mp hk

/-! ## The file -/

/-- A file `json.load` parses is loaded by `loadResults`, silently. -/
theorem loadBenchmarkResults_json {fs : FileSystem} {f : String} {v : JsonValue}
    (h : fs f = .json v) : loadBenchmarkResults fs f = Py.lift (loadResults v) := by
  simp [loadBenchmarkResults, openJson, h]

/-- A missing file prints its error and exits with status 2. -/
theorem loadBenchmarkResults_missing {fs : FileSystem} {f : String} (h : fs f = .missing) :
    loadBenchmarkResults fs f =
      ⟨[(.stderr, .text ("❌ Error: File not found: " ++ f))], .error (.systemExit 2)⟩ := by
  simp [loadBenchmarkResults, openJson, h]

/-- A JSON syntax error prints its error and exits with status 2. -/
theorem loadBenchmarkResults_invalidJson {fs : FileSystem} {f e : String}
    (h : fs f = .invalidJson e) :
    loadBenchmarkResults fs f =
      ⟨[(.stderr, .text ("❌ Error: Invalid JSON in " ++ f ++ ": " ++ e))],
        .error (.systemExit 2)⟩ := by
  simp [loadBenchmarkResults, openJson, h]

end DiagonBench.Regression
