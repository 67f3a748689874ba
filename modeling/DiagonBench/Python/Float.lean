/-
DiagonBench.Python.Float — `float()` on the values a JSON or CSV file holds.

Numbers convert to themselves and booleans to 0 and 1; `None`, lists and
dicts raise `TypeError`. A string converts if it spells a decimal number:
`parseParts` reads surrounding whitespace, a sign, the digits with single
underscores between them, a fraction and an exponent, as a sign, the
integer of the digits, the number of digits after the point and the
exponent; `partsValue` is the number they denote. Python's `float()` also
reads `inf`, `infinity` and `nan`, whose values are not rationals, and
non-ASCII digits and spaces: those are outside the model, which raises
`ValueError` on them.

A string converts to 0 exactly when its digits are all zeros
(`partsValue_eq_zero`), so `"0"`, `"0.0"` and `"-0e5"` are truthy strings
whose float is 0, while every falsy value is `None`, `False`, a numeric
zero or empty (`pyFloat_eq_zero_of_truthy`).

What `f"{x:.{k}f}"` writes for `x = ±m / 10 ^ k`, `fixedText`, is read back
as `x` (`parseFloat_fixedText`): the text has no space, no exponent and one
point at most, so the reader takes the sign and the two digit runs, whose
values `Nat.toDigits` and the zero padding preserve.
-/
import DiagonBench.Python.Value
import Mathlib.Data.Nat.Digits

namespace DiagonBench.Python

/-- The ASCII characters `str.isspace` accepts, which `float()` strips. -/
def isSpace (c : Char) : Bool :=
  (9 ≤ c.toNat && c.toNat ≤ 13) || (28 ≤ c.toNat && c.toNat ≤ 32)

/-- The value of an ASCII digit. -/
def digitVal (c : Char) : ℕ := c.toNat - '0'.toNat

/-- The rest of a `digitpart`, `(["_"] digit)*`, after the digits read so far:
their value `acc` and their number `n`. -/
def digitsFrom (acc n : ℕ) : List Char → Option (ℕ × ℕ)
  | [] => some (acc, n)
  | c :: rest =>
    if c.isDigit then digitsFrom (acc * 10 + digitVal c) (n + 1) rest
    else if c = '_' then
      match rest with
      | d :: rest' => if d.isDigit then digitsFrom (acc * 10 + digitVal d) (n + 1) rest' else none
      | [] => none
    else none

/-- `digitpart ::= digit (["_"] digit)*`: its value and its number of digits. -/
def digitPart : List Char → Option (ℕ × ℕ)
  | c :: rest => if c.isDigit then digitsFrom (digitVal c) 1 rest else none
  | [] => none

/-- `[sign] digitpart`, an exponent's digits. -/
def signedDigits : List Char → Option ℤ
  | '-' :: rest => (digitPart rest).map fun p => -(p.1 : ℤ)
  | '+' :: rest => (digitPart rest).map fun p => (p.1 : ℤ)
  | rest => (digitPart rest).map fun p => (p.1 : ℤ)

/-- `number ::= [digitpart] "." digitpart | digitpart ["."]`: the integer its
digits spell and the number of digits after the point. -/
def numberPart (cs : List Char) : Option (ℕ × ℕ) :=
  match cs.span fun c => c != '.' with
  | (intPart, []) => (digitPart intPart).map fun p => (p.1, 0)
  | ([], _ :: frac) => digitPart frac
  | (intPart, [_]) => (digitPart intPart).map fun p => (p.1, 0)
  | (intPart, _ :: frac) => do
    let (i, _) ← digitPart intPart
    let (f, k) ← digitPart frac
    pure (i * 10 ^ k + f, k)

/-- `float(s)` for a string `s` up to the arithmetic: whitespace,
`[sign] number [exponent]`, whitespace, read as the sign, the integer of the
digits, the number of digits after the point, and the exponent. -/
def parseParts (s : String) : Option (Bool × ℕ × ℕ × ℤ) := do
  let cs := ((s.toList.dropWhile isSpace).reverse.dropWhile isSpace).reverse
  let (neg, cs) := match cs with
    | '-' :: rest => (true, rest)
    | '+' :: rest => (false, rest)
    | rest => (false, rest)
  let (mant, expo) := cs.span fun c => c != 'e' && c != 'E'
  let e ← match expo with
    | [] => some 0
    | _ :: rest => signedDigits rest
  let (m, k) ← numberPart mant
  pure (neg, m, k, e)

/-- The number `parseParts` read: `± m · 10 ^ (e - k)`. -/
def partsValue : Bool × ℕ × ℕ × ℤ → ℚ
  | (neg, m, k, e) => (if neg then -1 else 1) * m * (10 : ℚ) ^ (e - k)

/-- `float(s)` for a string `s`. -/
def parseFloat (s : String) : Option ℚ := (parseParts s).map partsValue

/-- A string converts to 0 exactly when its digits are all zeros. -/
theorem partsValue_eq_zero {p : Bool × ℕ × ℕ × ℤ} : partsValue p = 0 ↔ p.2.1 = 0 := by
  obtain ⟨neg, m, k, e⟩ := p
  have h10 : (10 : ℚ) ^ (e - k) ≠ 0 := zpow_ne_zero _ (by simp)
  cases neg <;> simp [partsValue, h10]

/-- `float(v)`: numbers convert, a string converts if `parseFloat` reads it,
and `None`, lists and dicts raise `TypeError`. -/
def pyFloat : JsonValue → Except PyExc ℚ
  | .num q => .ok q
  | .bool b => .ok (if b then 1 else 0)
  | .str s =>
    match parseFloat s with
    | some q => .ok q
    | none => .error .valueError
  | _ => .error .typeError

theorem pyFloat_ne_zeroDivision (v : JsonValue) : pyFloat v ≠ .error .zeroDivisionError := by
  cases v with
  | str s => simp only [pyFloat]; split <;> simp
  | _ => simp [pyFloat]

/-- The numeric zeros are falsy: a kept field converting to 0 is a string. -/
theorem pyFloat_eq_zero_of_truthy {p : JsonValue} (ht : p.truthy) (h : pyFloat p = .ok 0) :
    ∃ s, p = .str s ∧ parseFloat s = some 0 := by
  cases p with
  | num q => simp_all [JsonValue.truthy, pyFloat]
  | bool b => cases b <;> simp_all [JsonValue.truthy, pyFloat]
  | str s =>
    refine ⟨s, rfl, ?_⟩
    simp only [pyFloat] at h
    split at h <;> simp_all
  | _ => simp [pyFloat] at h

/-! ## Reading back fixed-point text

`float()` reads back what `f"{x:.{k}f}"` writes (`parseFloat_fixedText`).
The digits are those of `Nat.toDigits 10`, Python's `str` of a natural
number; `decimalDigits` lists the ten characters, so that facts about every
digit are checked once by `decide`.
-/

/-- `f"{x:.{k}f}"` for `x = ±m / 10 ^ k`: the sign, the integer part, and
for `k > 0` a point and the fraction padded to `k` digits. -/
def fixedText (neg : Bool) (m k : ℕ) : String :=
  let intPart := Nat.toDigits 10 (m / 10 ^ k)
  let frac := Nat.toDigits 10 (m % 10 ^ k)
  ⟨(if neg then ['-'] else []) ++
    if k = 0 then intPart else intPart ++ '.' :: (List.replicate (k - frac.length) '0' ++ frac)⟩

/-- The ten decimal digits, as `str` writes them. -/
def decimalDigits : List Char := (List.range 10).map Nat.digitChar

/-- The number a run of digits spells, most significant first. -/
def digitsValue (cs : List Char) : ℕ := cs.foldl (fun a c => a * 10 + digitVal c) 0

theorem decimalDigits_facts : ∀ c ∈ decimalDigits, c.isDigit ∧ isSpace c = false ∧
    (c != 'e' && c != 'E') = true ∧ (c != '.') = true ∧ c ≠ '-' ∧ c ≠ '+' := by
  decide

theorem digitVal_digitChar {d : ℕ} (h : d < 10) : digitVal (Nat.digitChar d) = d := by
  interval_cases d <;> rfl

theorem digitChar_mem_decimalDigits (n : ℕ) : Nat.digitChar (n % 10) ∈ decimalDigits :=
  List.mem_map.mpr ⟨n % 10, List.mem_range.mpr (Nat.mod_lt n (by norm_num)), rfl⟩

theorem digitsFrom_of_digits (acc n : ℕ) {cs : List Char} (h : ∀ c ∈ cs, c ∈ decimalDigits) :
    digitsFrom acc n cs = some (cs.foldl (fun a c => a * 10 + digitVal c) acc, n + cs.length) := by
  induction cs generalizing acc n with
  | nil => rfl
  | cons c cs ih =>
    rw [digitsFrom.eq_def]
    simp only [if_pos (decimalDigits_facts c (h c (List.mem_cons_self c cs))).1,
      ih _ _ fun c' hc' => h c' (List.mem_cons_of_mem c hc')]
    simp only [List.foldl_cons, List.length_cons, Option.some.injEq, Prod.mk.injEq, true_and]
    omega

theorem digitPart_of_digits {cs : List Char} (hne : cs ≠ []) (h : ∀ c ∈ cs, c ∈ decimalDigits) :
    digitPart cs = some (digitsValue cs, cs.length) := by
  obtain ⟨c, cs, rfl⟩ := List.exists_cons_of_ne_nil hne
  rw [digitPart, if_pos (decimalDigits_facts c (h c (List.mem_cons_self c cs))).1,
    digitsFrom_of_digits _ _ fun c' hc' => h c' (List.mem_cons_of_mem c hc')]
  simp [digitsValue, Nat.add_comm 1]

/-- Leading zeros spell nothing. -/
theorem digitsValue_replicate_zero_append (n : ℕ) (cs : List Char) :
    digitsValue (List.replicate n '0' ++ cs) = digitsValue cs := by
  induction n with
  | zero => rfl
  | succ n ih => exact ih

/-- `Nat.toDigits 10`, Python's `str` of a natural number, is a non-empty run
of digits spelling the number. -/
theorem toDigitsCore_ten (fuel n : ℕ) (ds : List Char) (h : n < fuel) :
    ∃ cs, Nat.toDigitsCore 10 fuel n ds = cs ++ ds ∧ cs ≠ [] ∧ (∀ c ∈ cs, c ∈ decimalDigits) ∧
      digitsValue cs = n := by
  induction fuel generalizing n ds with
  | zero => omega
  | succ fuel ih =>
    have hval := digitVal_digitChar (Nat.mod_lt n (by norm_num : 10 > 0))
    simp only [Nat.toDigitsCore]
    split_ifs with h0
    · exact ⟨[Nat.digitChar (n % 10)], rfl, List.cons_ne_nil _ _,
        by simpa using digitChar_mem_decimalDigits n, by simp [digitsValue, hval]; omega⟩
    · obtain ⟨cs, hcs, hne, hdig, hcs_val⟩ := ih (n / 10) (Nat.digitChar (n % 10) :: ds) (by omega)
      refine ⟨cs ++ [Nat.digitChar (n % 10)], by rw [hcs]; simp, by simp, fun c hc =>
        (List.mem_append.mp hc).elim (hdig c) fun hc =>
          List.mem_singleton.mp hc ▸ digitChar_mem_decimalDigits n, ?_⟩
      rw [digitsValue, List.foldl_append, ← digitsValue, hcs_val]
      simp [hval]
      omega

theorem dropWhile_of_forall_not {p : Char → Bool} {l : List Char} (h : ∀ c ∈ l, p c = false) :
    l.dropWhile p = l := by
  cases l with
  | nil => rfl
  | cons c l => exact List.dropWhile_cons_of_neg (by simp [h c (List.mem_cons_self c l)])

/-- A text that starts with a digit has no sign. -/
theorem sign_match_of_ne {β : Type} {b : Char} {body : List Char} (h1 : b ≠ '-') (h2 : b ≠ '+')
    (f1 f2 f3 : List Char → β) :
    (match b :: body with
      | '-' :: rest => f1 rest
      | '+' :: rest => f2 rest
      | rest => f3 rest) = f3 (b :: body) := by
  split <;> simp_all

/-- A text that starts with `-` is negative. -/
theorem sign_match_minus {β : Type} (body : List Char) (f1 f2 f3 : List Char → β) :
    (match '-' :: body with
      | '-' :: rest => f1 rest
      | '+' :: rest => f2 rest
      | rest => f3 rest) = f1 body := rfl

/-- A sign, then digits and points, the first a digit: `float()` reads the
number the digits and points spell, with that sign. -/
theorem parseParts_of_digits (neg : Bool) {b : Char} {body : List Char} (hb : b ∈ decimalDigits)
    (hchars : ∀ c ∈ body, c ∈ decimalDigits ∨ c = '.') :
    parseParts ⟨(if neg then ['-'] else []) ++ b :: body⟩ =
      (numberPart (b :: body)).map fun p => (neg, p.1, p.2, 0) := by
  have hall : ∀ c ∈ b :: body, c ∈ decimalDigits ∨ c = '.' := by
    simpa [hb] using hchars
  have hspace : ∀ c ∈ (if neg then ['-'] else []) ++ b :: body, isSpace c = false := by
    intro c hc
    rcases List.mem_append.mp hc with hc | hc
    · split_ifs at hc <;> simp_all [isSpace]
    · rcases hall c hc with hc | rfl
      exacts [(decimalDigits_facts c hc).2.1, rfl]
  have hexp : ∀ c ∈ b :: body, (c != 'e' && c != 'E') = true := fun c hc => by
    rcases hall c hc with hc | rfl
    exacts [(decimalDigits_facts c hc).2.2.1, rfl]
  obtain ⟨-, -, -, -, h1, h2⟩ := decimalDigits_facts b hb
  unfold parseParts
  simp only [String.toList, dropWhile_of_forall_not hspace, List.reverse_reverse,
    dropWhile_of_forall_not (fun c hc => hspace c (List.mem_reverse.mp hc))]
  cases neg <;>
    simp only [Bool.false_eq_true, ↓reduceIte, List.nil_append, List.singleton_append,
      sign_match_of_ne h1 h2, sign_match_minus, List.span_eq_take_drop,
      List.takeWhile_eq_self_iff.mpr hexp, List.dropWhile_eq_nil_iff.mpr hexp] <;>
    cases numberPart (b :: body) <;> rfl

/-- Digits without a point: an integer. -/
theorem numberPart_of_digits {cs : List Char} (hne : cs ≠ []) (h : ∀ c ∈ cs, c ∈ decimalDigits) :
    numberPart cs = some (digitsValue cs, 0) := by
  have hdot : ∀ c ∈ cs, (c != '.') = true := fun c hc => (decimalDigits_facts c (h c hc)).2.2.2.1
  unfold numberPart
  simp only [List.span_eq_take_drop, List.takeWhile_eq_self_iff.mpr hdot,
    List.dropWhile_eq_nil_iff.mpr hdot, digitPart_of_digits hne h]
  rfl

/-- Digits, a point, digits: the integer of all the digits, and the number
after the point. -/
theorem numberPart_of_point {i f : List Char} (hi : i ≠ []) (hf : f ≠ [])
    (hid : ∀ c ∈ i, c ∈ decimalDigits) (hfd : ∀ c ∈ f, c ∈ decimalDigits) :
    numberPart (i ++ '.' :: f) = some (digitsValue i * 10 ^ f.length + digitsValue f, f.length) := by
  have hdot : ∀ c ∈ i, (c != '.') = true := fun c hc => (decimalDigits_facts c (hid c hc)).2.2.2.1
  obtain ⟨a, i', rfl⟩ := List.exists_cons_of_ne_nil hi
  obtain ⟨c, f', rfl⟩ := List.exists_cons_of_ne_nil hf
  unfold numberPart
  simp only [List.span_eq_take_drop, List.takeWhile_append_of_pos hdot,
    List.dropWhile_append_of_pos hdot, List.takeWhile_cons, List.dropWhile_cons]
  simp [digitPart_of_digits hi hid, digitPart_of_digits hf hfd]

/-- **`float()` reads back fixed-point text.** Whatever the sign, the
digits and the number of decimals, `float(f"{x:.{k}f}")` for
`x = ±m / 10 ^ k` returns `x`. -/
theorem parseFloat_fixedText (neg : Bool) (m k : ℕ) :
    parseFloat (fixedText neg m k) = some ((if neg then -1 else 1) * (m : ℚ) / 10 ^ k) := by
  obtain ⟨I, hI, hIne, hIdig, hIval⟩ := toDigitsCore_ten (m / 10 ^ k + 1) (m / 10 ^ k) [] (by omega)
  obtain ⟨F, hF, hFne, hFdig, hFval⟩ := toDigitsCore_ten (m % 10 ^ k + 1) (m % 10 ^ k) [] (by omega)
  rw [List.append_nil] at hI hF
  obtain ⟨b, I', rfl⟩ := List.exists_cons_of_ne_nil hIne
  have hb := hIdig b (List.mem_cons_self b I')
  have hI' : ∀ c ∈ I', c ∈ decimalDigits := fun c hc => hIdig c (List.mem_cons_of_mem b hc)
  unfold fixedText parseFloat
  simp only [Nat.toDigits, hI, hF]
  rcases Nat.eq_zero_or_pos k with rfl | hk
  · rw [if_pos rfl, parseParts_of_digits neg hb fun c hc => .inl (hI' c hc),
      numberPart_of_digits hIne hIdig]
    simp [partsValue, hIval]
  · have hlen : F.length ≤ k := by
      have := Nat.toDigitsCore_length 10 (by norm_num) (m % 10 ^ k + 1) (m % 10 ^ k) k
        (Nat.mod_lt _ (by positivity)) hk
      rwa [hF] at this
    have hzero : '0' ∈ decimalDigits := by decide
    have hpad : ∀ c ∈ List.replicate (k - F.length) '0' ++ F, c ∈ decimalDigits := by
      intro c hc
      rcases List.mem_append.mp hc with hc | hc
      exacts [(List.eq_of_mem_replicate hc).symm ▸ hzero, hFdig c hc]
    have hpadlen : (List.replicate (k - F.length) '0' ++ F).length = k := by simp; omega
    rw [if_neg hk.ne', List.cons_append, parseParts_of_digits neg hb fun c hc => ?_,
      ← List.cons_append, numberPart_of_point hIne (by simp [hFne]) hIdig hpad, hpadlen,
      digitsValue_replicate_zero_append, hIval, hFval, Nat.div_add_mod']
    · simp [partsValue, zpow_neg, zpow_natCast, div_eq_mul_inv]
    · rcases List.mem_append.mp hc with hc | hc
      · exact .inl (hI' c hc)
      · rcases List.mem_cons.mp hc with rfl | hc
        exacts [.inr rfl, .inl (hpad c hc)]

example : fixedText false 1234 2 = "12.34" ∧ fixedText true 5 2 = "-0.05" := ⟨rfl, rfl⟩

end DiagonBench.Python
