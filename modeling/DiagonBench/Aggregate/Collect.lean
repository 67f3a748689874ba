/-
DiagonBench.Aggregate.Collect — `aggregate_benchmarks` of
`aggregate_results.py`.

The function walks the files in order and, in each, the entries of
`data['benchmarks']`, appending each entry's nanosecond time to the list
`results[name]`. Everything from `open` to the last append of a file runs
inside one `try`; `except Exception` prints `Error reading ...` and moves
on to the next file. Nothing undoes the appends a file made before its
exception: `results` is mutated in place.

The model says so in the loop's type. `aggregateEntries` returns the dict
as the loop leaves it together with the exception that stopped it, if
any. The loop body is cut as in the regression loader: `readTime` computes
the key and the time from the entry alone, and only then is the dict
touched, so one entry is appended entirely or not at all. A file thus
contributes the times of the entries before its first failing entry,
`(entries.takeWhile reads).filterMap`, and a file that fails before its
loop contributes nothing (`aggregateFile_result`).

`aggregateBenchmarks_keeps_partial_files` is the whole function: it always
returns, and each name holds, in file order, the times every file
contributed under it. Taken over all names, nothing is lost or counted
twice (`aggregateBenchmarks_times_perm`): one append adds its time to the
dict's times, whether it extends a list in place or opens a new one
(`flatMap_appendTime`), so the lists hold the contributed times, each as
often as it was read.
-/
import DiagonBench.Python.Dict
import DiagonBench.Python.Run

namespace DiagonBench.Aggregate

open DiagonBench.Python

/-- A line `aggregate_results.py` prints. -/
inductive Line where
  /-- `Warning: No 'benchmarks' key in {file_path}`. -/
  | noBenchmarksKey (path : String)
  /-- `Error reading {file_path}: {e}`. -/
  | errorReading (path : String) (e : PyExc)
  /-- A line whose whole text the model spells out. -/
  | text (s : String)
  /-- `Usage: {sys.argv[0]} <file1.json> <file2.json> ...`. -/
  | usage (prog : String)
  /-- `Error: File not found: {f}`. -/
  | fileNotFound (path : String)
  /-- `{name},{median:.2f},{stddev:.2f}`, the stddev the square root of
  `variance`. -/
  | csvRow (name : PyKey) (median variance : ℚ)
  /-- An empty line, then `Processed {len(files)} files, {len(stats)} benchmarks`. -/
  | processed (files benchmarks : ℕ)

/-- The unit conversion: `us`, `ms` and `s` scale, any other unit is
nanoseconds. -/
def toNanoseconds (realTime timeUnit : JsonValue) : Except PyExc JsonValue :=
  if timeUnit.eqStr "us" then pyMulNat realTime 1000
  else if timeUnit.eqStr "ms" then pyMulNat realTime 1000000
  else if timeUnit.eqStr "s" then pyMulNat realTime 1000000000
  else .ok realTime

/-- The inner loop's body up to the update: the key `results[name]` uses and
the time appended under it, or `none` for an entry without `real_time`. -/
def readTime (benchmark : JsonValue) : Except PyExc (Option (PyKey × JsonValue)) := do
  let name ← pyGet benchmark "name" (.str "unknown")
  if !(← pyContains benchmark "real_time") then return none
  let realTime ← pySubscript benchmark "real_time"
  let timeUnit ← pyGet benchmark "time_unit" (.str "ns")
  let realTime ← toNanoseconds realTime timeUnit
  let key ← pyHash name
  pure (some (key, realTime))

/-- `if name not in results: results[name] = []`, then
`results[name].append(real_time)`. -/
def appendTime (results : PyDict (List JsonValue)) (key : PyKey) (t : JsonValue) :
    PyDict (List JsonValue) :=
  let results := if key ∈ results.keys then results else results.set key []
  results.set key ((results.get? key).getD [] ++ [t])

/-- One pass of the inner loop. -/
def aggregateEntry (results : PyDict (List JsonValue)) (benchmark : JsonValue) :
    Except PyExc (PyDict (List JsonValue)) := do
  match ← readTime benchmark with
  | none => pure results
  | some (key, t) => pure (appendTime results key t)

/-- `for benchmark in data['benchmarks']`: the dict as the loop leaves it,
and the exception that stopped the loop, if any. -/
def aggregateEntries (results : PyDict (List JsonValue)) :
    List JsonValue → PyDict (List JsonValue) × Option PyExc
  | [] => (results, none)
  | b :: bs =>
    match aggregateEntry results b with
    | .ok results' => aggregateEntries results' bs
    | .error e => (results, some e)

/-- The `with` block up to the loop: the entries to walk, `none` when
`'benchmarks' not in data`, or the exception. -/
def fileEntries (fs : FileSystem) (filePath : String) :
    Except PyExc (Option (List JsonValue)) := do
  let data ← openJson fs filePath
  if !(← pyContains data "benchmarks") then return none
  let benchmarks ← pySubscript data "benchmarks"
  let entries ← pyIter benchmarks
  pure (some entries)

/-- One pass of the file loop: the `try` body and its `except Exception`. -/
def aggregateFile (fs : FileSystem) (results : PyDict (List JsonValue)) (filePath : String) :
    Py Line (PyDict (List JsonValue)) :=
  match fileEntries fs filePath with
  | .error e => do
    Py.eprint (.errorReading filePath e)
    pure results
  | .ok none => do
    Py.eprint (.noBenchmarksKey filePath)
    pure results
  | .ok (some entries) =>
    match aggregateEntries results entries with
    | (results', none) => pure results'
    | (results', some e) => do
      Py.eprint (.errorReading filePath e)
      pure results'

/-- `aggregate_benchmarks(files)`. -/
def aggregateBenchmarks (fs : FileSystem) (files : List String) :
    Py Line (PyDict (List JsonValue)) :=
  files.foldlM (aggregateFile fs) PyDict.empty

/-! ## Appending times -/

/-- The times `kvs` holds under `k`, in order. -/
def timesUnder (k : PyKey) (kvs : List (PyKey × JsonValue)) : List JsonValue :=
  (kvs.filter (·.1 = k)).map Prod.snd

/-- `ts` appended to the list a key holds, creating it if there are any. -/
def extendWith (old : Option (List JsonValue)) (ts : List JsonValue) : Option (List JsonValue) :=
  if ts.isEmpty then old else some (old.getD [] ++ ts)

/-- `appendTime` for every pair, in order. -/
def appendAll (results : PyDict (List JsonValue)) (kvs : List (PyKey × JsonValue)) :
    PyDict (List JsonValue) :=
  kvs.foldl (fun r kv => appendTime r kv.1 kv.2) results

theorem get?_appendTime (results : PyDict (List JsonValue)) (key k : PyKey) (t : JsonValue) :
    (appendTime results key t).get? k =
      if k = key then some ((results.get? key).getD [] ++ [t]) else results.get? k := by
  by_cases hmem : key ∈ results.keys
  · simp [appendTime, hmem, PyDict.get?_set]
  · have hnone : results.get? key = none := by simpa [PyDict.mem_keys] using hmem
    by_cases hk : k = key
    · subst hk; simp [appendTime, hmem, PyDict.get?_set, hnone]
    · simp [appendTime, hmem, PyDict.get?_set, hk]

/-- After appending a run of pairs, a key holds its old list extended by the
run's times under it. -/
theorem get?_appendAll (results : PyDict (List JsonValue)) (kvs : List (PyKey × JsonValue))
    (k : PyKey) : (appendAll results kvs).get? k = extendWith (results.get? k) (timesUnder k kvs) := by
  induction kvs generalizing results with
  | nil => simp [appendAll, extendWith, timesUnder]
  | cons kv kvs ih =>
    obtain ⟨key, t⟩ := kv
    have hstep : appendAll results ((key, t) :: kvs) = appendAll (appendTime results key t) kvs :=
      rfl
    rw [hstep, ih, get?_appendTime]
    by_cases hk : k = key
    · subst hk
      by_cases hts : timesUnder k kvs = [] <;> simp [extendWith, timesUnder, hts] at hts ⊢
    · simp [timesUnder, hk, Ne.symm hk]

theorem appendAll_append (results : PyDict (List JsonValue)) (kvs kvs' : List (PyKey × JsonValue)) :
    appendAll results (kvs ++ kvs') = appendAll (appendAll results kvs) kvs' :=
  List.foldl_append _ _ _ _

/-- Extending the list a key holds adds one time to all the times, entry
after entry, up to order. -/
theorem flatMap_map_overwrite {es : List (PyKey × List JsonValue)} (hn : (es.map Prod.fst).Nodup)
    {k : PyKey} {old : List JsonValue} (h : es.lookup k = some old) (t : JsonValue) :
    ((es.map (PyDict.overwrite k (old ++ [t]))).flatMap Prod.snd).Perm
      (es.flatMap Prod.snd ++ [t]) := by
  induction es with
  | nil => simp at h
  | cons e es ih =>
    obtain ⟨a, ts⟩ := e
    rw [List.map_cons, List.nodup_cons] at hn
    by_cases ha : a = k
    · subst ha
      obtain rfl : ts = old := by simpa using h
      rw [List.map_cons, PyDict.overwrite, if_pos rfl, PyDict.map_overwrite_of_not_mem hn.1]
      simp only [List.flatMap_cons, List.append_assoc]
      exact List.perm_append_comm.append_left ts
    · rw [PyDict.lookup_cons_ne (Ne.symm ha)] at h
      rw [List.map_cons, PyDict.overwrite, if_neg ha]
      simp only [List.flatMap_cons, List.append_assoc]
      exact (ih hn.2 h).append_left ts

/-- One append adds its time to the times the dict holds. -/
theorem flatMap_appendTime (results : PyDict (List JsonValue)) (key : PyKey) (t : JsonValue) :
    ((appendTime results key t).entries.flatMap Prod.snd).Perm
      (results.entries.flatMap Prod.snd ++ [t]) := by
  unfold appendTime
  by_cases hmem : key ∈ results.keys
  · obtain ⟨old, hold⟩ := PyDict.mem_keys_iff_get?.mp hmem
    rw [if_pos hmem]
    dsimp only
    rw [hold, Option.getD_some, PyDict.entries_set_of_mem _ hmem]
    exact flatMap_map_overwrite results.nodup hold t
  · have hnew : (results.set key []).get? key = some [] := by simp
    rw [if_neg hmem]
    dsimp only
    rw [hnew, Option.getD_some,
      PyDict.entries_set_of_mem _ (PyDict.mem_keys_iff_get?.mpr ⟨_, hnew⟩)]
    simpa [PyDict.entries_set_of_not_mem _ hmem] using
      flatMap_map_overwrite (results.set key []).nodup hnew t

/-- A run of appends adds its times, each once. -/
theorem flatMap_appendAll (results : PyDict (List JsonValue)) (kvs : List (PyKey × JsonValue)) :
    ((appendAll results kvs).entries.flatMap Prod.snd).Perm
      (results.entries.flatMap Prod.snd ++ kvs.map Prod.snd) := by
  induction kvs generalizing results with
  | nil => simp [appendAll]
  | cons kv kvs ih =>
    refine (ih _).trans (((flatMap_appendTime results kv.1 kv.2).append_right _).trans (.of_eq ?_))
    simp

/-! ## The entry loop -/

/-- Whether an entry is read without raising. -/
def reads (b : JsonValue) : Bool := (readTime b).toBool

/-- The times the read entries of `bs` contribute. -/
def timesOf (bs : List JsonValue) : List (PyKey × JsonValue) :=
  bs.filterMap fun b => (readTime b).toOption.join

/-- The first exception of the entries, if any. -/
def firstError : List JsonValue → Option PyExc
  | [] => none
  | b :: bs =>
    match readTime b with
    | .ok _ => firstError bs
    | .error e => some e

/-- The entry loop appends the times of the entries before the first failing
one and stops there with its exception. -/
theorem aggregateEntries_eq (results : PyDict (List JsonValue)) (entries : List JsonValue) :
    aggregateEntries results entries =
      (appendAll results (timesOf (entries.takeWhile reads)), firstError entries) := by
  induction entries generalizing results with
  | nil => rfl
  | cons b bs ih =>
    cases hb : readTime b with
    | error e =>
      have hr : reads b = false := by simp [reads, hb, Except.toBool]
      simp [aggregateEntries, aggregateEntry, hb, bind, Except.bind, List.takeWhile_cons_of_neg,
        hr, timesOf, appendAll, firstError]
    | ok o =>
      have hr : reads b = true := by simp [reads, hb, Except.toBool]
      rw [List.takeWhile_cons_of_pos hr]
      rcases o with _ | ⟨key, t⟩ <;>
        simp [aggregateEntries, aggregateEntry, hb, bind, Except.bind, pure, Except.pure, ih,
          timesOf, firstError, Except.toOption, appendAll]

/-! ## The file loop -/

/-- What a file adds: the times of its entries before the first failing one;
nothing when it fails before its loop or has no `benchmarks`. -/
def contribution (fs : FileSystem) (filePath : String) : List (PyKey × JsonValue) :=
  match fileEntries fs filePath with
  | .ok (some entries) => timesOf (entries.takeWhile reads)
  | _ => []

/-- The line a file makes the loop print: the exception that stopped it, or
the missing `benchmarks` key; nothing for a file read to its end. -/
def fileMessage (fs : FileSystem) (filePath : String) : Option Line :=
  match fileEntries fs filePath with
  | .error e => some (.errorReading filePath e)
  | .ok none => some (.noBenchmarksKey filePath)
  | .ok (some entries) => (firstError entries).map (.errorReading filePath)

/-- One file: its line, if any, and its contribution appended, whether or
not it raised. -/
theorem aggregateFile_eq (fs : FileSystem) (results : PyDict (List JsonValue)) (filePath : String) :
    aggregateFile fs results filePath =
      ⟨(fileMessage fs filePath).toList.map (.stderr, ·),
        .ok (appendAll results (contribution fs filePath))⟩ := by
  unfold aggregateFile contribution fileMessage
  rcases fileEntries fs filePath with e | _ | entries
  · rfl
  · rfl
  · dsimp only
    rw [aggregateEntries_eq]
    cases firstError entries <;> rfl

theorem aggregateFile_result (fs : FileSystem) (results : PyDict (List JsonValue))
    (filePath : String) :
    (aggregateFile fs results filePath).result = .ok (appendAll results (contribution fs filePath)) := by
  rw [aggregateFile_eq]

/-- The file loop: each file's line in file order, and every file's
contribution. -/
theorem aggregateBenchmarks_eq (fs : FileSystem) (files : List String) :
    aggregateBenchmarks fs files =
      ⟨(files.filterMap (fileMessage fs)).map (.stderr, ·),
        .ok (appendAll PyDict.empty (files.flatMap (contribution fs)))⟩ := by
  unfold aggregateBenchmarks
  generalize PyDict.empty = results
  induction files generalizing results with
  | nil => rfl
  | cons f fs' ih =>
    rw [List.foldlM_cons, aggregateFile_eq, Py.mk_ok_bind, ih, List.filterMap_cons,
      List.flatMap_cons, appendAll_append]
    cases fileMessage fs f <;> rfl

/-- The file loop returns, and holds every file's contribution in file order. -/
theorem aggregateBenchmarks_result (fs : FileSystem) (files : List String) :
    (aggregateBenchmarks fs files).result =
      .ok (appendAll PyDict.empty (files.flatMap (contribution fs))) := by
  rw [aggregateBenchmarks_eq]

/-- **What `aggregate_benchmarks` returns.** It returns for every list of
files, and each name holds the times all files contributed under it, in
file order. A file that raises in its entry loop keeps the times of the
entries before the failing one. -/
theorem aggregateBenchmarks_keeps_partial_files (fs : FileSystem) (files : List String) :
    ∃ results, (aggregateBenchmarks fs files).result = .ok results ∧
      ∀ k, results.get? k = extendWith none (timesUnder k (files.flatMap (contribution fs))) :=
  ⟨_, aggregateBenchmarks_result fs files, fun k => by rw [get?_appendAll, PyDict.get?_empty]⟩

/-- A run whose second entry is not a dict. -/
def partialRun : JsonValue :=
  .obj [("benchmarks", .arr [.obj [("name", .str "A"), ("real_time", .num 1)], .num 5])]

/-- `5.get('name', 'unknown')` raises `AttributeError` in the second entry,
the file is reported as unreadable, and yet `A` keeps the time the first
entry appended. -/
theorem aggregateBenchmarks_partialRun_keeps_A :
    (aggregateBenchmarks (fun _ => .json partialRun) ["run1.json"]).out =
        [(.stderr, .errorReading "run1.json" .attributeError)] ∧
      ∃ results, (aggregateBenchmarks (fun _ => .json partialRun) ["run1.json"]).result =
        .ok results ∧ results.get? (.str "A") = some [.num 1] :=
  ⟨rfl, _, rfl, rfl⟩

/-! ## What the loop prints -/

/-- **One line per file not read to its end.** `aggregate_benchmarks`
prints, on stderr and in the order of the paths, one line for each file it
could not read completely: the exception that stopped it, from `open` to
the last entry, or the missing `benchmarks` key. A file read to its end
prints nothing. -/
theorem aggregateBenchmarks_out (fs : FileSystem) (files : List String) :
    (aggregateBenchmarks fs files).out = (files.filterMap (fileMessage fs)).map (.stderr, ·) := by
  rw [aggregateBenchmarks_eq]

/-! ## No time is lost or counted twice -/

/-- **Every time read is kept once.** Whatever the files hold, the lists
`aggregate_benchmarks` returns hold, together, exactly the times the files
contributed, each as often as it was read. -/
theorem aggregateBenchmarks_times_perm (fs : FileSystem) (files : List String) :
    ∃ results, (aggregateBenchmarks fs files).result = .ok results ∧
      (results.entries.flatMap Prod.snd).Perm ((files.flatMap (contribution fs)).map Prod.snd) :=
  ⟨_, aggregateBenchmarks_result fs files, by simpa using flatMap_appendAll PyDict.empty _⟩

end DiagonBench.Aggregate
