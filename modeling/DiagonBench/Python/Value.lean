/-
DiagonBench.Python.Value — the Python values the benchmark scripts read,
and the Python operators they apply to them.

`json.load` hands every script a tree of dicts, lists, strings, numbers,
booleans and `None`; `JsonValue` is that tree. A number is an exact
rational: a JSON number is a decimal literal, so `ℚ` holds it without
rounding and the scripts' thresholds are compared exactly. The
`int`/`float` split and the `NaN`/`Infinity` extensions of `json` are not
modelled.

An object keeps its members in the order `json.load` read them. A repeated
key reads as its LAST value (`lookup`), which is the value `json.load`
keeps.

Dict keys are `PyKey`: a hashable value up to Python's `==`. `True == 1`
and `hash(True) == hash(1)`, so a boolean key is its integer. Lists and
dicts are unhashable: `hashKey?` is `none` on them, and a script that uses
one as a key raises `TypeError`.

Each operator below raises what CPython raises on the shapes a JSON value
can take. The scripts catch some of these exceptions by class, so
`PyExc` keeps the classes apart.
-/
import Mathlib.Algebra.Order.Field.Rat
import Mathlib.Data.Char
import Mathlib.Data.List.Infix
import Mathlib.Data.List.Lex
import Mathlib.Data.Prod.Lex
import Mathlib.Data.String.Basic

namespace DiagonBench.Python

/-- A value as `json.load` returns it. -/
inductive JsonValue where
  | null
  | bool (b : Bool)
  | num (q : ℚ)
  | str (s : String)
  | arr (xs : List JsonValue)
  | obj (kvs : List (String × JsonValue))
  deriving Inhabited

/-- The exceptions the scripts raise, catch or let escape. A decode error
carries the message `json` attaches to it, which one script prints. -/
inductive PyExc where
  | systemExit (code : Nat)
  | fileNotFoundError
  | isADirectoryError
  | permissionError
  | unicodeDecodeError
  | jsonDecodeError (msg : String)
  | attributeError
  | keyError
  | typeError
  | valueError
  | zeroDivisionError
  | statisticsError
  deriving DecidableEq, Repr

/-- A hashable value, identified up to Python's `==`. -/
inductive PyKey where
  | none
  | num (q : ℚ)
  | str (s : String)
  deriving DecidableEq, Repr

namespace JsonValue

/-- The value of a member of an object: its last binding, as the dict
`json.load` builds keeps it. -/
def lookup : List (String × JsonValue) → String → Option JsonValue
  | [], _ => none
  | (k', v) :: kvs, k => match lookup kvs k with
    | some w => some w
    | none => if k' = k then some v else none

/-- The number a value stands for in arithmetic: an `int` or `float`, or a
`bool` as the `int` it subclasses. -/
def toNum? : JsonValue → Option ℚ
  | num q => some q
  | bool b => some (if b then 1 else 0)
  | _ => none

/-- `v == s` for a string literal `s`: only an equal `str` compares equal. -/
def eqStr : JsonValue → String → Bool
  | str t, s => t == s
  | _, _ => false

/-- Python truthiness: `None`, `False`, zero and empty containers are false. -/
def truthy : JsonValue → Bool
  | null => false
  | bool b => b
  | num q => q != 0
  | str s => s != ""
  | arr xs => !xs.isEmpty
  | obj kvs => !kvs.isEmpty

/-- The dict key a value hashes to; `none` for the unhashable list and dict. -/
def hashKey? : JsonValue → Option PyKey
  | null => some .none
  | bool b => some (.num (if b then 1 else 0))
  | num q => some (.num q)
  | str s => some (.str s)
  | _ => Option.none

end JsonValue

open JsonValue

/-- `v.get(k, d)`: only a dict has `get`. -/
def pyGet (v : JsonValue) (k : String) (d : JsonValue) : Except PyExc JsonValue :=
  match v with
  | .obj kvs => .ok ((lookup kvs k).getD d)
  | _ => .error .attributeError

/-- `v[k]` for a string `k`: a dict without `k` raises `KeyError`; lists and
strings want an integer index and the scalars are not subscriptable, so
every other shape raises `TypeError`. -/
def pySubscript (v : JsonValue) (k : String) : Except PyExc JsonValue :=
  match v with
  | .obj kvs => match lookup kvs k with
    | some x => .ok x
    | none => .error .keyError
  | _ => .error .typeError

/-- `k in v` for a string `k`: key membership in a dict, element membership
in a list, substring in a string; a scalar is not iterable. -/
def pyContains (v : JsonValue) (k : String) : Except PyExc Bool :=
  match v with
  | .obj kvs => .ok ((lookup kvs k).isSome)
  | .arr xs => .ok (xs.any (·.eqStr k))
  | .str s => .ok (decide (k.toList <:+: s.toList))
  | _ => .error .typeError

/-- `for x in v`: a list yields its elements, a dict its keys (each once, in
first-insertion order), a string its one-character strings; a scalar is
not iterable. -/
def pyIter (v : JsonValue) : Except PyExc (List JsonValue) :=
  match v with
  | .arr xs => .ok xs
  | .obj kvs => .ok ((kvs.map (·.1)).eraseDups.map .str)
  | .str s => .ok (s.toList.map fun c => .str c.toString)
  | _ => .error .typeError

/-- `v * k` for a positive `int` literal `k`: numbers multiply, strings and
lists repeat, `None` and dicts raise `TypeError`. -/
def pyMulNat (v : JsonValue) (k : Nat) : Except PyExc JsonValue :=
  match v with
  | .num q => .ok (.num (q * k))
  | .bool b => .ok (.num ((if b then 1 else 0) * k))
  | .str s => .ok (.str (String.join (List.replicate k s)))
  | .arr xs => .ok (.arr (List.replicate k xs).flatten)
  | _ => .error .typeError

/-- Using `v` as a dict key: an unhashable value raises `TypeError`. -/
def pyHash (v : JsonValue) : Except PyExc PyKey :=
  match v.hashKey? with
  | some k => .ok k
  | none => .error .typeError

/-- `a - b`: defined on numbers only. -/
def pySub (a b : JsonValue) : Except PyExc ℚ :=
  match a.toNum?, b.toNum? with
  | some x, some y => .ok (x - y)
  | _, _ => .error .typeError

/-- `x / b` (true division) for a number `x`: a zero divisor raises
`ZeroDivisionError`, whatever its numeric type. -/
def pyDiv (x : ℚ) (b : JsonValue) : Except PyExc ℚ :=
  match b.toNum? with
  | some y => if y = 0 then .error .zeroDivisionError else .ok (x / y)
  | none => .error .typeError

/-! ## Operator lemmas -/

@[simp] theorem toNum?_num (q : ℚ) : (num q).toNum? = some q := rfl

@[simp] theorem pyMulNat_num (q : ℚ) (k : Nat) : pyMulNat (.num q) k = .ok (.num (q * k)) := rfl

@[simp] theorem pySub_num (x y : ℚ) : pySub (.num x) (.num y) = .ok (x - y) := rfl

/-- Subtraction succeeds exactly on two numbers. -/
theorem pySub_eq_ok {a b : JsonValue} {d : ℚ} :
    pySub a b = .ok d ↔ ∃ x y, a.toNum? = some x ∧ b.toNum? = some y ∧ d = x - y := by
  unfold pySub
  cases a.toNum? <;> cases b.toNum? <;> simp [eq_comm]

/-- Division by a nonzero number succeeds. -/
theorem pyDiv_of_toNum? {x y : ℚ} {b : JsonValue} (hb : b.toNum? = some y) (hy : y ≠ 0) :
    pyDiv x b = .ok (x / y) := by
  simp [pyDiv, hb, hy]

/-- Division by a number that is zero raises `ZeroDivisionError`. -/
theorem pyDiv_zero {x : ℚ} {b : JsonValue} (hb : b.toNum? = some 0) :
    pyDiv x b = .error .zeroDivisionError := by
  simp [pyDiv, hb]

theorem pyHash_eq_ok {v : JsonValue} {k : PyKey} : pyHash v = .ok k ↔ v.hashKey? = some k := by
  unfold pyHash; cases v.hashKey? <;> simp

/-- A string hashes to the string key, and nothing else does. -/
theorem hashKey?_eq_str {v : JsonValue} {s : String} :
    v.hashKey? = some (.str s) ↔ v = .str s := by
  cases v <;> simp [hashKey?]

/-! ## Key order

`sorted` compares keys with `<`. Two strings compare by code points, two
numbers by value; any other pair raises `TypeError`. The linear order
below agrees with Python's on keys of one type, and is only used to list a
set of such keys. -/

namespace PyKey

/-- Tag, number, then characters: injective, and order-preserving on keys
of one type. -/
def rank : PyKey → ℕ ×ₗ (ℚ ×ₗ List Char)
  | none => toLex (0, toLex (0, []))
  | num q => toLex (1, toLex (q, []))
  | str s => toLex (2, toLex (0, s.toList))

theorem rank_injective : Function.Injective rank := by
  intro a b h
  cases a <;> cases b <;> simp_all [rank, String.ext_iff]

instance : LinearOrder PyKey := LinearOrder.lift' rank rank_injective

/-- Two string keys compare as their strings do. -/
theorem str_lt_str {s t : String} : PyKey.str s < PyKey.str t ↔ s < t := by
  show rank (str s) < rank (str t) ↔ _
  simp [rank, Prod.Lex.lt_iff, String.lt_iff_toList_lt]

/-- Whether a key is a string; `sorted` accepts a set of them. -/
def IsStr : PyKey → Prop
  | str _ => True
  | _ => False

/-- Whether a key is a number; `sorted` accepts a set of them. -/
def IsNum : PyKey → Prop
  | num _ => True
  | _ => False

instance : DecidablePred IsStr := fun k => by cases k <;> unfold IsStr <;> infer_instance

instance : DecidablePred IsNum := fun k => by cases k <;> unfold IsNum <;> infer_instance

end PyKey

end DiagonBench.Python
