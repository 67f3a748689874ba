/-
DiagonBench.Regression.Order — the order of a document's entries does not
reach the output of `check_regressions`.

Everything after the loads reads a dict only through its lookups and its
key set: `getItem` in the analysis loop, `keys()` for the three name sets,
which `sorted` and the set operations order themselves. Two dicts with the
same lookups therefore give the same run of `checkLoaded`, printed lines
and result together (`checkLoaded_congr`).

The loader is where order could enter: a later entry overwrites an earlier
one of the same name. With no name repeated, every key is stored once, and
`PyDict.get?_setAll_perm` says the stores commute. A load that raises on
one order raises on every order, though the first failing entry, and so
the exception, may differ (`loadResults_perm`).

`PermutedDoc d d'` says `d'` is `d` with its `benchmarks` list permuted.
-/
import DiagonBench.Regression.CheckTheorems

namespace DiagonBench.Regression

open DiagonBench.Python

/-! ## What `checkLoaded` reads -/

section Congr

variable {B B' C C' : PyDict BenchmarkResult}

/-- The analysis loop reads the dicts only through their lookups. -/
theorem analyzeAll_congr (hB : ∀ k, B.get? k = B'.get? k) (hC : ∀ k, C.get? k = C'.get? k) :
    analyzeAll B C = analyzeAll B' C' := by
  have hname : analyzeName B C = analyzeName B' C' := funext fun n => by
    simp only [analyzeName, PyDict.getItem, hB n, hC n]
  funext s
  simp only [analyzeAll, hname]

/-- `checkLoaded` sees a dict only through its lookups. -/
theorem checkLoaded_congr (hB : ∀ k, B.get? k = B'.get? k) (hC : ∀ k, C.get? k = C'.get? k) :
    checkLoaded B C = checkLoaded B' C' := by
  simp only [checkLoaded, analyzeAll_congr hB hC, PyDict.keys_eq_of_get? hB,
    PyDict.keys_eq_of_get? hC]

end Congr

/-! ## Loading a permuted document -/

/-- `d'` is the dict document `d` with its `benchmarks` list permuted, and
no name occurs twice in that list. -/
def PermutedDoc (d d' : JsonValue) : Prop :=
  ∃ kvs bs bs', d = .obj kvs ∧ JsonValue.lookup kvs "benchmarks" = some (.arr bs) ∧
    d' = .obj (withBenchmarks kvs bs') ∧ bs'.Perm bs ∧ (bs.filterMap entryKey).Nodup

/-- Two documents load alike: both loads raise, or both return dicts with the
same lookups. -/
def LoadAlike (d d' : JsonValue) : Prop :=
  (∃ e e', loadResults d = .error e ∧ loadResults d' = .error e') ∨
    ∃ D D', loadResults d = .ok D ∧ loadResults d' = .ok D' ∧ ∀ k, D.get? k = D'.get? k

theorem loadAlike_refl (d : JsonValue) : LoadAlike d d := by
  cases h : loadResults d with
  | error e => exact .inl ⟨e, e, h, h⟩
  | ok D => exact .inr ⟨D, D, h, h, fun _ => rfl⟩

/-- Permuting a `benchmarks` list without repeated names: the loop reads the
same entries, so both orders raise or both store the same pairs, each key
once. -/
theorem loadResults_perm {d d' : JsonValue} (h : PermutedDoc d d') : LoadAlike d d' := by
  obtain ⟨kvs, bs, bs', rfl, hbs, rfl, hp, hnd⟩ := h
  have hit : pyIter ((JsonValue.lookup kvs "benchmarks").getD (.arr [])) = .ok bs := by
    rw [hbs]; rfl
  have hit' : pyIter ((JsonValue.lookup (withBenchmarks kvs bs') "benchmarks").getD (.arr [])) =
      .ok bs' := by rw [lookup_withBenchmarks, hbs]; rfl
  unfold LoadAlike
  rw [loadResults_obj hit, loadResults_obj hit']
  cases hm : bs.mapM readEntry with
  | error e =>
    cases hm' : bs'.mapM readEntry with
    | error e' => exact .inl ⟨e, e', rfl, rfl⟩
    | ok krs' =>
      obtain ⟨krs, h₁, -⟩ := List.perm_comp_forall₂ hp.symm (mapM_eq_ok.mp hm')
      rw [mapM_eq_ok.mpr h₁] at hm; cases hm
  | ok krs =>
    have h₂ := mapM_eq_ok.mp hm
    obtain ⟨krs', h₁, hperm⟩ := List.perm_comp_forall₂ hp h₂
    rw [mapM_eq_ok.mpr h₁]
    have hn : (krs.map Prod.fst).Nodup := filterMap_entryKey_of_forall₂ h₂ ▸ hnd
    exact .inr ⟨_, _, rfl, rfl, PyDict.get?_setAll_perm _ hperm.symm hn⟩

/-! ## The run -/

/-- **Entry order does not matter.** Run the script on two file systems
whose baseline and current files are the same documents up to permuting
either `benchmarks` list, no name repeated. When the four documents load,
the analyses and the new and removed names are the same. In every case the
printed lines are the same, and one run returns a verdict exactly when the
other returns the same one. -/
theorem checkRegressions_perm_invariant {fs fs' : FileSystem} {currentFile baselineFile : String}
    {dB dB' dC dC' : JsonValue}
    (hfB : fs baselineFile = .json dB) (hfB' : fs' baselineFile = .json dB')
    (hfC : fs currentFile = .json dC) (hfC' : fs' currentFile = .json dC')
    (hB : dB' = dB ∨ PermutedDoc dB dB') (hC : dC' = dC ∨ PermutedDoc dC dC') :
    (∀ B C B' C', loadResults dB = .ok B → loadResults dC = .ok C → loadResults dB' = .ok B' →
      loadResults dC' = .ok C' →
      analyzeAll B C (B.keys ∩ C.keys) = analyzeAll B' C' (B'.keys ∩ C'.keys) ∧
        B.keys \ C.keys = B'.keys \ C'.keys ∧ C.keys \ B.keys = C'.keys \ B'.keys) ∧
    (checkRegressions fs currentFile baselineFile).out =
      (checkRegressions fs' currentFile baselineFile).out ∧
    ∀ passed, (checkRegressions fs currentFile baselineFile).result = .ok passed ↔
      (checkRegressions fs' currentFile baselineFile).result = .ok passed := by
  have alike : ∀ {d d'}, d' = d ∨ PermutedDoc d d' → LoadAlike d d'
    | _, _, .inl rfl => loadAlike_refl _
    | _, _, .inr h => loadResults_perm h
  rw [checkRegressions_of_parsed hfB hfC, checkRegressions_of_parsed hfB' hfC']
  rcases alike hB with ⟨e, e', heB, heB'⟩ | ⟨B, B', hlB, hlB', hgB⟩
  · refine ⟨fun B _ _ _ hlB => ?_, ?_⟩
    · rw [heB] at hlB; cases hlB
    · rw [heB, heB']; simp
  rcases alike hC with ⟨e, e', heC, heC'⟩ | ⟨C, C', hlC, hlC', hgC⟩
  · refine ⟨fun _ C _ _ _ hlC => ?_, ?_⟩
    · rw [heC] at hlC; cases hlC
    · rw [hlB, hlB', heC, heC']; simp
  refine ⟨fun B₁ C₁ B₁' C₁' h₁ h₂ h₃ h₄ => ?_, ?_⟩
  · cases hlB.symm.trans h₁; cases hlC.symm.trans h₂
    cases hlB'.symm.trans h₃; cases hlC'.symm.trans h₄
    simp only [analyzeAll_congr hgB hgC, PyDict.keys_eq_of_get? hgB, PyDict.keys_eq_of_get? hgC,
      and_self]
  · simp [hlB, hlB', hlC, hlC', checkLoaded_congr hgB hgC]

/-- Swapping the baseline's two entries leaves the printed lines alone. -/
theorem checkRegressions_perm_invariant_swapped :
    PermutedDoc (docOf [("A", 100), ("B", 200)]) (docOf [("B", 200), ("A", 100)]) ∧
      (checkRegressions (filesOf [("current.json", docOf [("A", 95)]),
          ("baseline.json", docOf [("A", 100), ("B", 200)])]) "current.json" "baseline.json").out =
        (checkRegressions (filesOf [("current.json", docOf [("A", 95)]),
          ("baseline.json", docOf [("B", 200), ("A", 100)])]) "current.json" "baseline.json").out := by
  have hperm : PermutedDoc (docOf [("A", 100), ("B", 200)]) (docOf [("B", 200), ("A", 100)]) :=
    ⟨_, _, [("B", 200), ("A", 100)].map entryOf, rfl, rfl, rfl, .swap _ _ _, by decide⟩
  exact ⟨hperm, (checkRegressions_perm_invariant rfl rfl rfl rfl (.inr hperm) (.inl rfl)).2.1⟩

end DiagonBench.Regression
