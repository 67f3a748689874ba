/-
DiagonBench.Regression.Analyze — the pairwise analyzer of
`check_fst_regression.py`: `analyze_regression` and the severity cascade.

`analyzeRegression` evaluates `((current_ns - baseline_ns) / baseline_ns) * 100`
with Python's operators, so a non-numeric time raises `TypeError` at the
subtraction and a zero baseline raises `ZeroDivisionError` at the division.
Nothing in the analyzer guards either. On two numbers with a nonzero
baseline it returns the analysis `analyzeRegression_eq` spells out.

`severityLevel` is the `if`/`elif` cascade, first match wins:

    r ≤ -5 → improvement,  r ≤ 10 → acceptable,  r ≤ 20 → warning,  else critical

The four tiers partition the line (`severityLevel_eq_*`), and the cascade
is monotone in `r` for the badness order `improvement < acceptable <
warning < critical` (`severityLevel_mono`). Since `r` is increasing in the
current time for a positive baseline (`regressionPctOf_mono`), a slower
current run never gets a better tier.

`RegressionAnalysis.__str__` formats its name with `:50s` and its times
with `:10.1f`. A name that is not a string makes the first raise;
`toText` keeps that, and leaves the float formatting to the renderer.
-/
import DiagonBench.Python.Value
import Mathlib.Tactic.Linarith

namespace DiagonBench.Regression

open DiagonBench.Python

/-- `RegressionLevel`. -/
inductive RegressionLevel where
  | improvement
  | acceptable
  | warning
  | critical
  deriving DecidableEq, Repr

namespace RegressionLevel

/-- Position in the badness order. -/
def rank : RegressionLevel → ℕ
  | improvement => 0
  | acceptable => 1
  | warning => 2
  | critical => 3

instance : LE RegressionLevel := ⟨fun a b => a.rank ≤ b.rank⟩

instance (a b : RegressionLevel) : Decidable (a ≤ b) := inferInstanceAs (Decidable (a.rank ≤ b.rank))

theorem le_def {a b : RegressionLevel} : a ≤ b ↔ a.rank ≤ b.rank := Iff.rfl

/-- Nothing is worse than `critical`. -/
theorem critical_le {l : RegressionLevel} : critical ≤ l ↔ l = critical := by
  cases l <;> decide

/-- The `symbol` table of `__str__`. -/
def symbol : RegressionLevel → String
  | improvement => "✅"
  | acceptable => "✅"
  | warning => "⚠️"
  | critical => "❌"

end RegressionLevel

/-- `BenchmarkResult`: one loaded entry. The fields are the Python objects
the loader stored, unconverted. -/
structure BenchmarkResult where
  name : JsonValue
  timeNs : JsonValue
  itemsPerSec : JsonValue
  label : JsonValue

/-- `RegressionAnalysis`. -/
structure RegressionAnalysis where
  name : JsonValue
  baselineNs : JsonValue
  currentNs : JsonValue
  regressionPct : ℚ
  level : RegressionLevel

/-- The severity cascade of `analyze_regression`. -/
def severityLevel (regressionPct : ℚ) : RegressionLevel :=
  if regressionPct ≤ -5 then .improvement
  else if regressionPct ≤ 10 then .acceptable
  else if regressionPct ≤ 20 then .warning
  else .critical

/-- `analyze_regression(baseline, current)`. -/
def analyzeRegression (baseline current : BenchmarkResult) : Except PyExc RegressionAnalysis := do
  let baselineNs := baseline.timeNs
  let currentNs := current.timeNs
  let delta ← pySub currentNs baselineNs
  let ratio ← pyDiv delta baselineNs
  let regressionPct := ratio * 100
  pure { name := baseline.name, baselineNs, currentNs, regressionPct,
         level := severityLevel regressionPct }

/-- The percent change on exact numbers. -/
def regressionPctOf (b c : ℚ) : ℚ := (c - b) / b * 100

/-! ## The cascade -/

theorem severityLevel_eq_improvement {r : ℚ} : severityLevel r = .improvement ↔ r ≤ -5 := by
  unfold severityLevel; split_ifs <;> simp_all

theorem severityLevel_eq_acceptable {r : ℚ} :
    severityLevel r = .acceptable ↔ -5 < r ∧ r ≤ 10 := by
  unfold severityLevel; split_ifs <;> simp_all

theorem severityLevel_eq_warning {r : ℚ} : severityLevel r = .warning ↔ 10 < r ∧ r ≤ 20 := by
  unfold severityLevel
  split_ifs with h₁ h₂ h₃ <;> simp only [reduceCtorEq, false_iff, true_iff, not_and, not_le]
  · intro; linarith
  · intro; linarith
  · exact ⟨lt_of_not_le h₂, h₃⟩
  · exact fun _ => lt_of_not_le h₃

theorem severityLevel_eq_critical {r : ℚ} : severityLevel r = .critical ↔ 20 < r := by
  unfold severityLevel
  split_ifs with h₁ h₂ h₃ <;> simp only [reduceCtorEq, false_iff, true_iff, not_lt]
  · linarith
  · linarith
  · exact h₃
  · exact lt_of_not_le h₃

/-- The cascade never assigns a better tier to a larger change. -/
theorem severityLevel_mono {r r' : ℚ} (h : r ≤ r') : severityLevel r ≤ severityLevel r' := by
  rw [RegressionLevel.le_def]
  unfold severityLevel
  split_ifs <;> simp [RegressionLevel.rank] <;> linarith

/-- For a positive baseline the change grows with the current time. -/
theorem regressionPctOf_mono {b c c' : ℚ} (hb : 0 < b) (h : c ≤ c') :
    regressionPctOf b c ≤ regressionPctOf b c' := by
  unfold regressionPctOf
  have : (c - b) / b ≤ (c' - b) / b := div_le_div_of_nonneg_right (by linarith) hb.le
  linarith

/-! ## The analyzer -/

/-- On a numeric current time and a nonzero numeric baseline, the analysis. -/
theorem analyzeRegression_eq {baseline current : BenchmarkResult} {b c : ℚ}
    (hb : baseline.timeNs.toNum? = some b) (hb0 : b ≠ 0) (hc : current.timeNs.toNum? = some c) :
    analyzeRegression baseline current =
      .ok { name := baseline.name, baselineNs := baseline.timeNs, currentNs := current.timeNs,
            regressionPct := regressionPctOf b c,
            level := severityLevel (regressionPctOf b c) } := by
  simp [analyzeRegression, pySub, hb, hc, pyDiv_of_toNum? hb hb0, regressionPctOf, bind,
    Except.bind, pure, Except.pure]

/-- A zero baseline raises `ZeroDivisionError` once the current time is a number. -/
theorem analyzeRegression_zero {baseline current : BenchmarkResult} {c : ℚ}
    (hb : baseline.timeNs.toNum? = some 0) (hc : current.timeNs.toNum? = some c) :
    analyzeRegression baseline current = .error .zeroDivisionError := by
  simp [analyzeRegression, pySub, hb, hc, pyDiv_zero hb, bind, Except.bind]

/-- An analysis exists only for two numeric times and a nonzero baseline. -/
theorem analyzeRegression_ok {baseline current : BenchmarkResult} {a : RegressionAnalysis}
    (h : analyzeRegression baseline current = .ok a) :
    ∃ b c, baseline.timeNs.toNum? = some b ∧ b ≠ 0 ∧ current.timeNs.toNum? = some c ∧
      a = { name := baseline.name, baselineNs := baseline.timeNs, currentNs := current.timeNs,
            regressionPct := regressionPctOf b c,
            level := severityLevel (regressionPctOf b c) } := by
  cases hc : current.timeNs.toNum? with
  | none => simp [analyzeRegression, pySub, hc, bind, Except.bind] at h
  | some c =>
    cases hb : baseline.timeNs.toNum? with
    | none => simp [analyzeRegression, pySub, hc, hb, bind, Except.bind] at h
    | some b =>
      by_cases hb0 : b = 0
      · subst hb0; rw [analyzeRegression_zero hb hc] at h; cases h
      · rw [analyzeRegression_eq hb hb0 hc] at h
        exact ⟨b, c, rfl, hb0, rfl, (Except.ok.inj h).symm⟩

/-! ## `__str__` -/

/-- What `RegressionAnalysis.__str__` prints, the float formatting aside:
the symbol, the name left-justified to 50 columns, the two times, the sign
prefix and the change. -/
structure AnalysisText where
  symbol : String
  name : String
  baselineNs : ℚ
  currentNs : ℚ
  sign : String
  regressionPct : ℚ

/-- `format(v, '50s')`: strings pad, numbers raise `ValueError` (no `s`
code), `None` and containers raise `TypeError`. -/
def formatStr50 : JsonValue → Except PyExc String
  | .str s => .ok (s.pushn ' ' (50 - s.length))
  | .num _ | .bool _ => .error .valueError
  | _ => .error .typeError

/-- `format(v, '10.1f')`: numbers format, strings raise `ValueError`,
`None` and containers raise `TypeError`. -/
def formatFloat : JsonValue → Except PyExc ℚ
  | .num q => .ok q
  | .bool b => .ok (if b then 1 else 0)
  | .str _ => .error .valueError
  | _ => .error .typeError

/-- `RegressionAnalysis.__str__`, evaluated left to right. -/
def RegressionAnalysis.toText (a : RegressionAnalysis) : Except PyExc AnalysisText := do
  let symbol := a.level.symbol
  let sign := if a.regressionPct > 0 then "+" else ""
  let name ← formatStr50 a.name
  let baselineNs ← formatFloat a.baselineNs
  let currentNs ← formatFloat a.currentNs
  pure { symbol, name, baselineNs, currentNs, sign, regressionPct := a.regressionPct }

/-- `__str__` succeeds on a string name and numeric times. -/
theorem RegressionAnalysis.toText_ok {a : RegressionAnalysis} {s : String} {b c : ℚ}
    (hn : a.name = .str s) (hb : a.baselineNs.toNum? = some b) (hc : a.currentNs.toNum? = some c) :
    ∃ t, a.toText = .ok t := by
  obtain ⟨name, baselineNs, currentNs, pct, level⟩ := a
  simp only at hn hb hc
  subst hn
  cases baselineNs <;> cases currentNs <;>
    simp_all [toText, formatStr50, formatFloat, JsonValue.toNum?, bind, Except.bind, pure,
      Except.pure]

/-- `__str__` raises on a name that is not a string. -/
theorem RegressionAnalysis.toText_error {a : RegressionAnalysis} (hn : ∀ s, a.name ≠ .str s) :
    ∃ e, a.toText = .error e := by
  obtain ⟨name, baselineNs, currentNs, pct, level⟩ := a
  cases name <;> simp_all [toText, formatStr50, bind, Except.bind]

/-- An analysis that formats has a string name. -/
theorem RegressionAnalysis.name_of_toText_ok {a : RegressionAnalysis} {t : AnalysisText}
    (h : a.toText = .ok t) : ∃ s, a.name = .str s := by
  by_contra hn
  obtain ⟨e, he⟩ := toText_error fun s hs => hn ⟨s, hs⟩
  rw [h] at he; cases he

end DiagonBench.Regression
