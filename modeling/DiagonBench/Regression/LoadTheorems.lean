/-
DiagonBench.Regression.LoadTheorems — what `load_benchmark_results` builds.

The loop stores each entry under the key its `name` hashes to, in entry
order, so a key ends up holding the record of the LAST entry named by it
(`get?_loadResults`), and the key set is the set of names
(`keys_loadResults`). Both rest on `foldlM_loadEntry`: the loop reads every
entry first and stores afterwards, and `PyDict.get?_setAll` says a run of
stores leaves each key with its last value.

The spec describes the stored record in its own words: its time is
`real_time`, else `cpu_time`, else 0, times 1,000,000 for `ms`, 1,000 for
`us` and 1 for any other unit. `specRecord` is that description, and on
an entry with a hashable name and numeric times the loader's record is
`specRecord` (`readEntry_of_wellFormed`).

The spec also says a malformed entry is skipped. The loader has no such
branch: `benchmark['name']` raises on a non-dict entry and on a dict
without `name`, and the exception ends the load
(`loadResults_error_of_malformed`).
-/
import DiagonBench.Regression.Load

namespace DiagonBench.Regression

open DiagonBench.Python JsonValue

/-! ## The spec's reading of an entry -/

/-- The key an entry is stored under, read off its `name`. -/
def entryKey : JsonValue → Option PyKey
  | .obj fields => (lookup fields "name").bind hashKey?
  | _ => none

/-- The fields of `b`, if `b` is a dict entry named `n`. -/
def fieldsIfNamed (n : PyKey) : JsonValue → Option (List (String × JsonValue))
  | .obj fields => if (lookup fields "name").bind hashKey? = some n then some fields else none
  | _ => none

/-- The fields of the last entry whose name hashes to `n`. -/
def lastEntryNamed (bs : List JsonValue) (n : PyKey) : Option (List (String × JsonValue)) :=
  bs.reverse.findSome? (fieldsIfNamed n)

/-- The spec's time of an entry: `real_time` if present, else `cpu_time`
if present, else 0. -/
def specTime (fields : List (String × JsonValue)) : ℚ :=
  match lookup fields "real_time", lookup fields "cpu_time" with
  | some t, _ => (toNum? t).getD 0
  | none, some t => (toNum? t).getD 0
  | none, none => 0

/-- The spec's unit factor: 1,000,000 for `ms`, 1,000 for `us`, 1 otherwise. -/
def specFactor (fields : List (String × JsonValue)) : ℚ :=
  match lookup fields "time_unit" with
  | some (.str "ms") => 1000000
  | some (.str "us") => 1000
  | _ => 1

/-- The record the spec describes for an entry. -/
def specRecord (fields : List (String × JsonValue)) : BenchmarkResult where
  name := (lookup fields "name").getD .null
  timeNs := .num (specTime fields * specFactor fields)
  itemsPerSec := (lookup fields "items_per_second").getD (.num 0)
  label := (lookup fields "label").getD (.str "")

/-- An entry as the loader expects one: a dict with a hashable `name`,
whose `real_time` and `cpu_time`, where present, are numbers. -/
def WellFormedEntry : JsonValue → Prop
  | .obj fields => (∃ k, (lookup fields "name").bind hashKey? = some k) ∧
      (∀ v, lookup fields "real_time" = some v → ∃ q, v = .num q) ∧
      (∀ v, lookup fields "cpu_time" = some v → ∃ q, v = .num q)
  | _ => False

/-- An entry the spec calls malformed: not a dict, or a dict with no `name`. -/
def malformed : JsonValue → Bool
  | .obj fields => (lookup fields "name").isNone
  | _ => true

/-! ## One entry -/

/-- A read entry is stored under the key its name hashes to. -/
theorem readEntry_key {b : JsonValue} {k : PyKey} {r : BenchmarkResult}
    (h : readEntry b = .ok (k, r)) : entryKey b = some k := by
  cases b with
  | obj fields =>
    cases hn : lookup fields "name" with
    | none => simp [readEntry, pySubscript, hn, bind, Except.bind] at h
    | some nm =>
      have hk := readEntry_name h
      simp only [readEntry, pySubscript, hn, bind, Except.bind] at h
      repeat (split at h <;> try cases h)
      simpa [entryKey, hn] using hk
  | _ => simp [readEntry, pySubscript, bind, Except.bind] at h

/-- The code's unit conversion is the spec's factor, on a number. -/
theorem toNanoseconds_num (t : ℚ) (fields : List (String × JsonValue)) :
    toNanoseconds (.num t) ((lookup fields "time_unit").getD (.str "ns")) =
      .ok (.num (t * specFactor fields)) := by
  unfold toNanoseconds specFactor
  rcases lookup fields "time_unit" with _ | ((_ | _) | _ | _ | s | _ | _) <;>
    simp [eqStr]
  by_cases hms : s = "ms"
  · simp [hms]
  · by_cases hus : s = "us" <;> simp [hms, hus]

/-- On a well-formed entry the loader reads the spec's record. -/
theorem readEntry_of_wellFormed {fields : List (String × JsonValue)} {k : PyKey}
    (hk : (lookup fields "name").bind hashKey? = some k)
    (hr : ∀ v, lookup fields "real_time" = some v → ∃ q, v = .num q)
    (hc : ∀ v, lookup fields "cpu_time" = some v → ∃ q, v = .num q) :
    readEntry (.obj fields) = .ok (k, specRecord fields) := by
  obtain ⟨nm, hnm, hkey⟩ := Option.bind_eq_some.mp hk
  have htime : (lookup fields "real_time").getD ((lookup fields "cpu_time").getD (.num 0)) =
      .num (specTime fields) := by
    unfold specTime
    rcases hrt : lookup fields "real_time" with _ | t
    · rcases hct : lookup fields "cpu_time" with _ | t
      · rfl
      · obtain ⟨q, rfl⟩ := hc t hct; rfl
    · obtain ⟨q, rfl⟩ := hr t hrt; rfl
  simp [readEntry, pySubscript, pyGet, hnm, htime, toNanoseconds_num, pyHash, hkey, specRecord,
    bind, Except.bind, pure, Except.pure]

/-! ## The loop -/

/-- The record an entry contributes to key `n`, if it is read and named `n`. -/
def readAt (n : PyKey) (b : JsonValue) : Option BenchmarkResult :=
  match readEntry b with
  | .ok (k, r) => if k = n then some r else none
  | .error _ => none

/-- On a dict document, the loop runs over what `data.get('benchmarks', [])`
iterates. -/
theorem loadResults_obj {kvs : List (String × JsonValue)} {bs : List JsonValue}
    (h : pyIter ((lookup kvs "benchmarks").getD (.arr [])) = .ok bs) :
    loadResults (.obj kvs) = (bs.mapM readEntry).map PyDict.empty.setAll := by
  simp [loadResults, pyGet, h, foldlM_loadEntry, bind, Except.bind]

/-- A document that loads is a dict whose `benchmarks` member iterates. -/
theorem loadResults_ok_obj {data : JsonValue} {d : PyDict BenchmarkResult}
    (h : loadResults data = .ok d) :
    ∃ kvs bs, data = .obj kvs ∧ pyIter ((lookup kvs "benchmarks").getD (.arr [])) = .ok bs := by
  cases data with
  | obj kvs =>
    cases hi : pyIter ((lookup kvs "benchmarks").getD (.arr [])) with
    | error e => simp [loadResults, pyGet, hi, bind, Except.bind] at h
    | ok bs => exact ⟨kvs, bs, rfl, hi⟩
  | _ => simp [loadResults, pyGet, bind, Except.bind] at h

/-- Looking a key up among read entries finds the first entry read under it. -/
theorem lookup_of_forall₂ {bs : List JsonValue} {krs : List (PyKey × BenchmarkResult)}
    (h : List.Forall₂ (fun b kr => readEntry b = .ok kr) bs krs) (n : PyKey) :
    krs.lookup n = bs.findSome? (readAt n) := by
  induction h with
  | nil => rfl
  | @cons b kr bs krs hb _ ih =>
    obtain ⟨k, r⟩ := kr
    by_cases hk : n = k
    · subst hk; simp [readAt, hb]
    · simp [readAt, hb, PyDict.lookup_cons_ne hk, ih, Ne.symm hk]

/-- The read entries' keys are the entries' names. -/
theorem filterMap_entryKey_of_forall₂ {bs : List JsonValue} {krs : List (PyKey × BenchmarkResult)}
    (h : List.Forall₂ (fun b kr => readEntry b = .ok kr) bs krs) :
    bs.filterMap entryKey = krs.map Prod.fst := by
  induction h with
  | nil => rfl
  | @cons b kr bs krs hb _ ih => simp [List.filterMap_cons, readEntry_key hb, ih]

section Loaded

variable {kvs : List (String × JsonValue)} {bs : List JsonValue} {d : PyDict BenchmarkResult}

/-- A loaded key holds the record of the LAST entry read under it. -/
theorem get?_loadResults (hbs : pyIter ((lookup kvs "benchmarks").getD (.arr [])) = .ok bs)
    (hd : loadResults (.obj kvs) = .ok d) (n : PyKey) :
    d.get? n = bs.reverse.findSome? (readAt n) := by
  rw [loadResults_obj hbs] at hd
  cases hm : bs.mapM readEntry with
  | error e => rw [hm] at hd; cases hd
  | ok krs =>
    rw [hm] at hd; cases hd
    have h2 := List.forall₂_reverse_iff.mpr (mapM_eq_ok.mp hm)
    simp [PyDict.get?_setAll, lookup_of_forall₂ h2]

/-- The loaded keys are the entries' names. -/
theorem keys_loadResults (hbs : pyIter ((lookup kvs "benchmarks").getD (.arr [])) = .ok bs)
    (hd : loadResults (.obj kvs) = .ok d) : d.keys = (bs.filterMap entryKey).toFinset := by
  rw [loadResults_obj hbs] at hd
  cases hm : bs.mapM readEntry with
  | error e => rw [hm] at hd; cases hd
  | ok krs =>
    rw [hm] at hd; cases hd
    simp [filterMap_entryKey_of_forall₂ (mapM_eq_ok.mp hm)]

end Loaded

/-- The loader's invariant: each record's name hashes to the key it is
stored under. -/
def NamesMatch (d : PyDict BenchmarkResult) : Prop :=
  ∀ k r, d.get? k = some r → r.name.hashKey? = some k

/-- Every dict the loader returns keeps its records under their names. -/
theorem namesMatch_loadResults {data : JsonValue} {d : PyDict BenchmarkResult}
    (h : loadResults data = .ok d) : NamesMatch d := by
  obtain ⟨kvs, bs, rfl, hbs⟩ := loadResults_ok_obj h
  intro k r hr
  rw [get?_loadResults hbs h, List.findSome?_eq_some_iff] at hr
  obtain ⟨_, b, _, _, hb, _⟩ := hr
  unfold readAt at hb
  split at hb
  · next k' r' hread =>
    split_ifs at hb with hk
    cases hb; subst hk
    exact readEntry_name hread
  · cases hb

/-! ## Documents of well-formed entries -/

theorem findSome?_map_of_forall {α β γ : Type} {l : List α} {f : α → Option β}
    {g : α → Option γ} {h : γ → β} (hfg : ∀ x ∈ l, f x = (g x).map h) :
    l.findSome? f = (l.findSome? g).map h := by
  induction l with
  | nil => rfl
  | cons x l ih =>
    rw [List.findSome?_cons, List.findSome?_cons, hfg x (List.mem_cons_self x l)]
    cases g x <;> simp [ih fun y hy => hfg y (List.mem_cons_of_mem x hy)]

/-- A well-formed entry contributes the spec's record to its own name. -/
theorem readAt_of_wellFormed {b : JsonValue} (hb : WellFormedEntry b) (n : PyKey) :
    readAt n b = (fieldsIfNamed n b).map specRecord := by
  cases b with
  | obj fields =>
    obtain ⟨⟨k, hk⟩, hr, hc⟩ := hb
    by_cases hkn : k = n <;> simp [readAt, fieldsIfNamed, readEntry_of_wellFormed hk hr hc, hk, hkn]
  | _ => exact hb.elim

theorem readEntry_ok_of_wellFormed {b : JsonValue} (hb : WellFormedEntry b) :
    ∃ kr, readEntry b = .ok kr := by
  cases b with
  | obj fields =>
    obtain ⟨⟨k, hk⟩, hr, hc⟩ := hb
    exact ⟨_, readEntry_of_wellFormed hk hr hc⟩
  | _ => exact hb.elim

/-- A document whose `benchmarks` list (absent meaning empty) holds only
well-formed entries loads to the dict whose keys are the entries' names and
whose value at each name is the spec's record of the LAST entry so named. -/
theorem loadResults_last_entry_wins {kvs : List (String × JsonValue)} {bs : List JsonValue}
    (hbs : (lookup kvs "benchmarks").getD (.arr []) = .arr bs)
    (hwf : ∀ b ∈ bs, WellFormedEntry b) :
    ∃ d, loadResults (.obj kvs) = .ok d ∧ d.keys = (bs.filterMap entryKey).toFinset ∧
      ∀ n, d.get? n = (lastEntryNamed bs n).map specRecord := by
  have hit : pyIter ((lookup kvs "benchmarks").getD (.arr [])) = .ok bs := by rw [hbs]; rfl
  obtain ⟨krs, hkrs⟩ := mapM_ok_of_forall fun b hb => readEntry_ok_of_wellFormed (hwf b hb)
  have hd : loadResults (.obj kvs) = .ok (PyDict.empty.setAll krs) := by
    rw [loadResults_obj hit, hkrs]; rfl
  refine ⟨_, hd, keys_loadResults hit hd, fun n => ?_⟩
  rw [get?_loadResults hit hd, lastEntryNamed]
  exact findSome?_map_of_forall fun b hb =>
    readAt_of_wellFormed (hwf b (List.mem_reverse.mp hb)) n

/-- Two entries named `A`: in `us`, then in `ms` with only a `cpu_time`. -/
def twoEntriesNamedA : List JsonValue :=
  [.obj [("name", .str "A"), ("real_time", .num 5), ("time_unit", .str "us")],
   .obj [("name", .str "A"), ("cpu_time", .num 2), ("time_unit", .str "ms")]]

theorem loadResults_last_entry_wins_twoEntriesNamedA :
    (lookup [("benchmarks", .arr twoEntriesNamedA)] "benchmarks").getD (.arr []) =
        .arr twoEntriesNamedA ∧
      (∀ b ∈ twoEntriesNamedA, WellFormedEntry b) ∧
      ∃ d, loadResults (.obj [("benchmarks", .arr twoEntriesNamedA)]) = .ok d ∧
        d.keys = (twoEntriesNamedA.filterMap entryKey).toFinset ∧
        ∀ n, d.get? n = (lastEntryNamed twoEntriesNamedA n).map specRecord := by
  have hwf : ∀ b ∈ twoEntriesNamedA, WellFormedEntry b := by
    simp [twoEntriesNamedA, WellFormedEntry, lookup, hashKey?]
  exact ⟨rfl, hwf, loadResults_last_entry_wins rfl hwf⟩

/-! ## Malformed entries -/

/-- `benchmark['name']` on a malformed entry: `KeyError` on a dict, `TypeError`
on anything else. -/
theorem readEntry_of_malformed {b : JsonValue} (h : malformed b) :
    readEntry b = .error (match b with | .obj _ => .keyError | _ => .typeError) := by
  cases b with
  | obj fields =>
    simp only [malformed, Option.isNone_iff_eq_none] at h
    simp [readEntry, pySubscript, h, bind, Except.bind]
  | _ => rfl

/-- `kvs` with every `benchmarks` member replaced by the list `bs'`. -/
def withBenchmarks (kvs : List (String × JsonValue)) (bs' : List JsonValue) :
    List (String × JsonValue) :=
  kvs.map fun kv => if kv.1 = "benchmarks" then ("benchmarks", .arr bs') else kv

theorem lookup_withBenchmarks (kvs : List (String × JsonValue)) (bs' : List JsonValue) :
    lookup (withBenchmarks kvs bs') "benchmarks" =
      (lookup kvs "benchmarks").map fun _ => .arr bs' := by
  induction kvs with
  | nil => rfl
  | cons kv kvs ih =>
    obtain ⟨k, v⟩ := kv
    by_cases hk : k = "benchmarks"
    · subst hk
      have hcons : withBenchmarks (("benchmarks", v) :: kvs) bs' =
          ("benchmarks", .arr bs') :: withBenchmarks kvs bs' := by simp [withBenchmarks]
      rw [hcons]; simp only [lookup, ih]; cases lookup kvs "benchmarks" <;> rfl
    · have hcons : withBenchmarks ((k, v) :: kvs) bs' = (k, v) :: withBenchmarks kvs bs' := by
        simp [withBenchmarks, hk]
      rw [hcons]; simp only [lookup, ih]; cases lookup kvs "benchmarks" <;> simp [hk]

/-- A loaded document's result depends on its `benchmarks` member only. -/
theorem loadResults_congr {kvs kvs' : List (String × JsonValue)}
    (h : lookup kvs "benchmarks" = lookup kvs' "benchmarks") :
    loadResults (.obj kvs) = loadResults (.obj kvs') := by
  simp [loadResults, pyGet, h]

/-- The loader does not skip a malformed entry: a document with one raises,
and a document that loads equals its malformed-free version, since it has
no malformed entry to remove. -/
theorem loadResults_error_of_malformed {kvs : List (String × JsonValue)} {bs : List JsonValue}
    (hbs : lookup kvs "benchmarks" = some (.arr bs)) :
    ((∃ b ∈ bs, malformed b) → ∃ e, loadResults (.obj kvs) = .error e) ∧
      ∀ d, loadResults (.obj kvs) = .ok d →
        loadResults (.obj (withBenchmarks kvs (bs.filter (!malformed ·)))) = .ok d := by
  have hit : pyIter ((lookup kvs "benchmarks").getD (.arr [])) = .ok bs := by rw [hbs]; rfl
  have hraise : (∃ b ∈ bs, malformed b) → ∃ e, loadResults (.obj kvs) = .error e := by
    rintro ⟨b, hb, hm⟩
    obtain ⟨e, he⟩ := mapM_error_of_mem hb (readEntry_of_malformed hm)
    exact ⟨e, by rw [loadResults_obj hit, he]; rfl⟩
  refine ⟨hraise, fun d hd => ?_⟩
  have hnone : bs.filter (!malformed ·) = bs := List.filter_eq_self.mpr fun b hb => by
    by_contra hm
    obtain ⟨e, he⟩ := hraise ⟨b, hb, by simpa using hm⟩
    rw [he] at hd; cases hd
  rw [← hd, hnone]
  exact loadResults_congr (by rw [lookup_withBenchmarks, hbs]; rfl)

/-- A one-entry document whose entry has no `name`. -/
def namelessEntry : List (String × JsonValue) :=
  [("benchmarks", .arr [.obj [("real_time", .num 1)]])]

theorem loadResults_error_of_malformed_namelessEntry :
    lookup namelessEntry "benchmarks" = some (.arr [.obj [("real_time", .num 1)]]) ∧
      ((∃ b ∈ [JsonValue.obj [("real_time", .num 1)]], malformed b) →
        ∃ e, loadResults (.obj namelessEntry) = .error e) ∧
      ∀ d, loadResults (.obj namelessEntry) = .ok d →
        loadResults (.obj (withBenchmarks namelessEntry
          ([JsonValue.obj [("real_time", .num 1)]].filter (!malformed ·)))) = .ok d :=
  ⟨rfl, loadResults_error_of_malformed rfl⟩

/-- The claimed skip fails at once: the nameless entry makes the load raise
`KeyError`, where the same document without it loads to the empty dict. -/
theorem loadResults_namelessEntry_raises :
    loadResults (.obj namelessEntry) = .error .keyError ∧
      ∃ d, loadResults (.obj (withBenchmarks namelessEntry [])) = .ok d := by
  exact ⟨rfl, _, rfl⟩

end DiagonBench.Regression
