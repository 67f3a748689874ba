/-
DiagonBench.Regression.Report — the report `check_regressions` prints, as a
whole.

`printReport` prints four severity blocks, then the new and the removed
names, then the summary; the verdict lines follow. Three observers read a
run's stdout: the `str(a)` of each analysis line (`Line.analysis?`), and
the names of the `+` and `-` lines (`Line.added?`, `Line.removed?`). On two
files of the data model with positive common baselines, the run prints
(`checkRegressions_report`):

* one analysis line per common benchmark and no other, in `reportOrder`:
  the improvement block, then the acceptable, warning and critical blocks,
  and within a block ascending names;
* as `+` lines the names only the current file holds, ascending, and as
  `-` lines those only the baseline holds, ascending.

Every other line is fixed text: the banner, the block headers, the
summary counts and the verdict.

## How the proof goes

Each printing step has one equation for its output when it returns
(`printGroup_eq`, `printNames_eq`), and the observers distribute over
`++` (`stdoutOf_append`), so `printReport_lines` reads the three lists
off the report. The order comes from the loop: the analyses are in
ascending name order, a bucket is a `filter`, so each block keeps that
order (`reportOrder_pairwise`), and the four filters partition the
analyses (`reportOrder_perm`).
-/
import DiagonBench.Regression.CheckTheorems

namespace DiagonBench.Regression

open DiagonBench.Python

/-! ## 1. Observers of the printed lines -/

/-- The lines a run prints to stdout that `f` reads, in order. -/
def stdoutOf {β : Type} (f : Line → Option β) (out : List (Stream × Line)) : List β :=
  out.filterMap fun l => if l.1 = .stdout then f l.2 else none

/-- An analysis line `  {a}` gives the analysis's `str`. -/
@[simp] def Line.analysis? : Line → Option AnalysisText
  | .analysis t => some t
  | _ => none

/-- A `  + {name}` line gives the name. -/
@[simp] def Line.added? : Line → Option PyKey
  | .added k => some k
  | _ => none

/-- A `  - {name}` line gives the name. -/
@[simp] def Line.removed? : Line → Option PyKey
  | .removed k => some k
  | _ => none

section Observe

variable {β : Type} {f : Line → Option β}

@[simp] theorem stdoutOf_append (o o' : List (Stream × Line)) :
    stdoutOf f (o ++ o') = stdoutOf f o ++ stdoutOf f o' :=
  List.filterMap_append _ _ _

@[simp] theorem stdoutOf_cons (l : Line) (o : List (Stream × Line)) :
    stdoutOf f ((.stdout, l) :: o) = (f l).toList ++ stdoutOf f o := by
  cases h : f l <;> simp [stdoutOf, h]

@[simp] theorem stdoutOf_nil : stdoutOf f [] = [] := rfl

@[simp] theorem stdoutOf_map {γ : Type} (g : γ → Line) (xs : List γ) :
    stdoutOf f (xs.map fun x => (.stdout, g x)) = xs.filterMap fun x => f (g x) := by
  simp [stdoutOf, List.filterMap_map, Function.comp_def]

@[simp] theorem stdoutOf_ite (c : Prop) [Decidable c] (o o' : List (Stream × Line)) :
    stdoutOf f (if c then o else o') = if c then stdoutOf f o else stdoutOf f o' := by
  split_ifs <;> rfl

end Observe

@[simp] theorem filterMap_none {γ β : Type} (xs : List γ) :
    xs.filterMap (fun _ => (none : Option β)) = [] := by
  simp

/-! ## 2. One equation per printing step -/

theorem printAnalysis_eq {a : RegressionAnalysis} {t : AnalysisText} (h : a.toText = .ok t) :
    printAnalysis a = ⟨[(.stdout, .analysis t)], .ok ()⟩ := by
  simp [printAnalysis, h, Py.print]

/-- `for a in group: print(f"  {a}")`. -/
theorem forM_printAnalysis {g : List RegressionAnalysis} {ts : List AnalysisText}
    (h : List.Forall₂ (fun a t => a.toText = .ok t) g ts) :
    g.forM printAnalysis = ⟨ts.map fun t => (.stdout, .analysis t), .ok ()⟩ := by
  induction h with
  | nil => rfl
  | cons ha _ ih => rw [List.forM_cons', printAnalysis_eq ha, Py.mk_ok_bind, ih]; rfl

/-- A severity block: the header lines when the block is not empty, then
one line per analysis. -/
theorem printGroup_eq {header : List String} {g : List RegressionAnalysis} {ts : List AnalysisText}
    (h : List.Forall₂ (fun a t => a.toText = .ok t) g ts) :
    printGroup header g = ⟨(if g.isEmpty then [] else header.map fun s => (.stdout, .text s)) ++
      ts.map fun t => (.stdout, .analysis t), .ok ()⟩ := by
  unfold printGroup
  split
  · next hg =>
    rw [List.isEmpty_iff.mp hg] at h
    cases h
    rfl
  · next hg =>
    rw [Py.forM_print_map, Py.mk_ok_bind, forM_printAnalysis h]

/-- The new or the removed names: the header when there is one, then one
line per name in ascending order. -/
theorem printNames_eq {header : String} {line : PyKey → Line} {names : Finset PyKey}
    (h : Sortable names) :
    printNames header line names = ⟨(if names = ∅ then [] else [(.stdout, .text header)]) ++
      (names.sort (· ≤ ·)).map fun k => (.stdout, line k), .ok ()⟩ := by
  unfold printNames
  split
  · next hn => subst hn; rw [Finset.sort_empty]; rfl
  · next hn =>
    simp only [Py.print_bind, pySorted_of_sortable h, Py.lift_bind, hn, if_false,
      Py.forM_print_map]
    rfl

/-! ## 3. The analysis lines -/

/-- The order in which the report prints the analyses: the four severity
blocks, each in the loop's order. -/
def reportOrder (analyses : List RegressionAnalysis) : List RegressionAnalysis :=
  bucket analyses .improvement ++ bucket analyses .acceptable ++ bucket analyses .warning ++
    bucket analyses .critical

theorem exists_forall₂_toText {g : List RegressionAnalysis} (h : ∀ a ∈ g, ∃ t, a.toText = .ok t) :
    ∃ ts, List.Forall₂ (fun a t => a.toText = .ok t) g ts := by
  obtain ⟨ts, hts⟩ := mapM_ok_of_forall h
  exact ⟨ts, mapM_eq_ok.mp hts⟩

/-- What the report prints, read by the three observers. -/
theorem printReport_lines {analyses : List RegressionAnalysis} {ob oc : Finset PyKey}
    (hp : (printReport analyses ob oc).result = .ok ()) :
    List.Forall₂ (fun a t => a.toText = .ok t) (reportOrder analyses)
        (stdoutOf Line.analysis? (printReport analyses ob oc).out) ∧
      stdoutOf Line.added? (printReport analyses ob oc).out = oc.sort (· ≤ ·) ∧
      stdoutOf Line.removed? (printReport analyses ob oc).out = ob.sort (· ≤ ·) := by
  obtain ⟨hfmt, hsc, hsb⟩ := printReport_result.mp hp
  have hb : ∀ l, ∃ ts, List.Forall₂ (fun a t => a.toText = .ok t) (bucket analyses l) ts :=
    fun l => exists_forall₂_toText fun a ha => hfmt a (mem_bucket.mp ha).1
  obtain ⟨t₁, h₁⟩ := hb .improvement
  obtain ⟨t₂, h₂⟩ := hb .acceptable
  obtain ⟨t₃, h₃⟩ := hb .warning
  obtain ⟨t₄, h₄⟩ := hb .critical
  simp only [printReport, Py.print_bind, printGroup_eq h₁, printGroup_eq h₂, printGroup_eq h₃,
    printGroup_eq h₄, printNames_eq hsc, printNames_eq hsb, Py.mk_ok_bind]
  simp only [stdoutOf_append, stdoutOf_cons, stdoutOf_map, stdoutOf_ite, stdoutOf_nil, Py.print,
    Line.analysis?, Line.added?, Line.removed?, filterMap_none, List.filterMap_some_fun, id,
    Option.toList, ite_self, List.nil_append, List.append_nil, and_true, reportOrder,
    List.append_assoc]
  exact List.rel_append h₁ (List.rel_append h₂ (List.rel_append h₃ h₄))

/-- Every analysis is printed once: the four blocks partition the list. -/
theorem reportOrder_perm (analyses : List RegressionAnalysis) :
    (reportOrder analyses).Perm analyses := by
  induction analyses with
  | nil => rfl
  | cons a as ih =>
    simp only [reportOrder, bucket, List.filter_cons, List.append_assoc] at ih ⊢
    cases h : a.level <;> simp only [h, beq_self_eq_true, if_true, reduceCtorEq, beq_iff_eq,
      if_false, List.cons_append]
    · exact ih.cons a
    · exact List.perm_middle.trans (ih.cons a)
    · exact (List.perm_middle.append_left _).trans (List.perm_middle.trans (ih.cons a))
    · exact ((List.perm_middle.append_left _).append_left _).trans
        ((List.perm_middle.append_left _).trans (List.perm_middle.trans (ih.cons a)))

/-- A block comes after every block of lower severity, and within a block the
loop's order is kept. -/
theorem reportOrder_pairwise {R : RegressionAnalysis → RegressionAnalysis → Prop}
    {analyses : List RegressionAnalysis} (h : analyses.Pairwise R) :
    (reportOrder analyses).Pairwise fun a b =>
      a.level.rank < b.level.rank ∨ a.level = b.level ∧ R a b := by
  have hin : ∀ l, (bucket analyses l).Pairwise fun a b =>
      a.level.rank < b.level.rank ∨ a.level = b.level ∧ R a b := fun l =>
    (h.filter _).imp_of_mem fun ha hb hab =>
      .inr ⟨(mem_bucket.mp ha).2.trans (mem_bucket.mp hb).2.symm, hab⟩
  simp only [reportOrder, List.pairwise_append, List.mem_append, mem_bucket]
  refine ⟨⟨⟨hin _, hin _, fun a ha b hb => .inl ?_⟩, hin _, fun a ha b hb => .inl ?_⟩, hin _,
    fun a ha b hb => .inl ?_⟩ <;> rw [hb.2]
  · rw [ha.2]; decide
  · rcases ha with ⟨-, h⟩ | ⟨-, h⟩ <;> rw [h] <;> decide
  · rcases ha with (⟨-, h⟩ | ⟨-, h⟩) | ⟨-, h⟩ <;> rw [h] <;> decide

/-! ## 4. The whole run -/

/-- The verdict prints only text. -/
theorem stdoutOf_determinePassFail {β : Type} {f : Line → Option β} (hf : ∀ s, f (.text s) = none)
    (analyses : List RegressionAnalysis) : stdoutOf f (determinePassFail analyses).out = [] := by
  simp only [determinePassFail]
  split_ifs <;> simp [hf]

/-- An order on one list carries over to a list related to it element by
element. -/
theorem pairwise_of_forall₂ {α β : Type} {R : α → β → Prop} {S : α → α → Prop}
    {T : β → β → Prop} {xs : List α} {ys : List β} (h : List.Forall₂ R xs ys)
    (hS : xs.Pairwise S) (hT : ∀ a b x y, R a x → R b y → S a b → T x y) : ys.Pairwise T := by
  induction h with
  | nil => exact List.Pairwise.nil
  | cons hxy _ ih =>
    obtain ⟨hx, hxs⟩ := List.pairwise_cons.mp hS
    refine List.Pairwise.cons (fun y hy => ?_) (ih hxs)
    obtain ⟨b, hb, hby⟩ := forall₂_mem_right ‹_› hy
    exact hT _ _ _ _ hxy hby (hx b hb)

/-- **The report of a run.** On two files that load, with positive common
baselines, the analysis lines are one per common benchmark, from the improvements
to the critical regressions and by ascending name within a severity, and the
`+` and `-` lines are the names only one file holds, ascending. -/
theorem checkRegressions_report {fs : FileSystem} {currentFile baselineFile : String}
    {dB dC : JsonValue} {B C : PyDict BenchmarkResult}
    (hfB : fs baselineFile = .json dB) (hfC : fs currentFile = .json dC)
    (hB : loadResults dB = .ok B) (hC : loadResults dC = .ok C)
    (hwB : WellTyped B) (hwC : WellTyped C) (hcommon : (B.keys ∩ C.keys).Nonempty)
    (hpos : PositiveBaselines B C) :
    ∃ analyses, analyzeAll B C (B.keys ∩ C.keys) = .ok analyses ∧
      List.Forall₂ (IsAnalysisOf B C) ((B.keys ∩ C.keys).sort (· ≤ ·)) analyses ∧
      List.Forall₂ (fun a t => a.toText = .ok t) (reportOrder analyses)
        (stdoutOf Line.analysis? (checkRegressions fs currentFile baselineFile).out) ∧
      (reportOrder analyses).Perm analyses ∧
      (reportOrder analyses).Pairwise (fun a b => a.level.rank < b.level.rank ∨
        a.level = b.level ∧ ∃ s t, a.name = .str s ∧ b.name = .str t ∧ s < t) ∧
      stdoutOf Line.added? (checkRegressions fs currentFile baselineFile).out =
        (C.keys \ B.keys).sort (· ≤ ·) ∧
      stdoutOf Line.removed? (checkRegressions fs currentFile baselineFile).out =
        (B.keys \ C.keys).sort (· ≤ ·) := by
  obtain ⟨analyses, ha, h₂⟩ := analyzeAll_forall₂ hwB hwC hpos
  have hp := printReport_ok_of_forall₂ (namesMatch_loadResults hB) hwB hwC h₂
  obtain ⟨htexts, hadded, hremoved⟩ := printReport_lines hp
  have hout : (checkRegressions fs currentFile baselineFile).out =
      (banner currentFile baselineFile).map (.stdout, ·) ++
        ((printReport analyses (B.keys \ C.keys) (C.keys \ B.keys)).out ++
          (determinePassFail analyses).out) := by
    rw [checkRegressions_of_json hfB hfC hB hC,
      checkLoaded_of_analyzeAll (Finset.nonempty_iff_ne_empty.mp hcommon) ha, Py.bind_of_ok hp]
  have hnames := pairwise_of_forall₂ h₂ (Finset.sort_sorted_lt (B.keys ∩ C.keys))
    (T := fun a b => ∃ s t, a.name = .str s ∧ b.name = .str t ∧ s < t)
    fun n m a b han hbm hnm => by
      obtain ⟨rb, -, -, -, hb, -, -, -, -, rfl⟩ := han
      obtain ⟨rb', -, -, -, hb', -, -, -, -, rfl⟩ := hbm
      obtain ⟨s, rfl, hs⟩ := name_eq_str (namesMatch_loadResults hB) hwB hb
      obtain ⟨t, rfl, ht⟩ := name_eq_str (namesMatch_loadResults hB) hwB hb'
      exact ⟨s, t, hs, ht, PyKey.str_lt_str.mp hnm⟩
  refine ⟨analyses, ha, h₂, ?_, reportOrder_perm _, reportOrder_pairwise hnames, ?_, ?_⟩ <;>
    rw [hout] <;> simp [banner, stdoutOf_determinePassFail, htexts, hadded, hremoved]

/-- Spec scenario 3: `A` is only in the baseline, `C` only in the current
file, and `B` is common; the run prints `+ C` and `- A`. -/
theorem checkRegressions_report_scenario3 :
    ((mapOf [("A", 100), ("B", 200)]).keys ∩ (mapOf [("B", 210), ("C", 50)]).keys).Nonempty ∧
      PositiveBaselines (mapOf [("A", 100), ("B", 200)]) (mapOf [("B", 210), ("C", 50)]) ∧
      stdoutOf Line.added? (checkRegressions (filesOf [("current.json", docOf [("B", 210),
        ("C", 50)]), ("baseline.json", docOf [("A", 100), ("B", 200)])]) "current.json"
        "baseline.json").out = [.str "C"] ∧
      stdoutOf Line.removed? (checkRegressions (filesOf [("current.json", docOf [("B", 210),
        ("C", 50)]), ("baseline.json", docOf [("A", 100), ("B", 200)])]) "current.json"
        "baseline.json").out = [.str "A"] := by
  have hne : ((mapOf [("A", 100), ("B", 200)]).keys ∩
      (mapOf [("B", 210), ("C", 50)]).keys).Nonempty := ⟨.str "B", by decide⟩
  have hpos : PositiveBaselines (mapOf [("A", 100), ("B", 200)]) (mapOf [("B", 210), ("C", 50)]) :=
    positiveBaselines_mapOf (by norm_num)
  obtain ⟨-, -, -, -, -, -, hadded, hremoved⟩ := @checkRegressions_report
    (filesOf [("current.json", docOf [("B", 210), ("C", 50)]),
      ("baseline.json", docOf [("A", 100), ("B", 200)])])
    "current.json" "baseline.json" _ _ _ _ rfl rfl (loadResults_docOf _) (loadResults_docOf _)
    (wellTyped_mapOf _) (wellTyped_mapOf _) hne hpos
  have hC : (mapOf [("B", 210), ("C", 50)]).keys \ (mapOf [("A", 100), ("B", 200)]).keys =
      {.str "C"} := by decide
  have hA : (mapOf [("A", 100), ("B", 200)]).keys \ (mapOf [("B", 210), ("C", 50)]).keys =
      {.str "A"} := by decide
  exact ⟨hne, hpos, by rw [hadded, hC, Finset.sort_singleton],
    by rw [hremoved, hA, Finset.sort_singleton]⟩

end DiagonBench.Regression
