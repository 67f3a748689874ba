/-
DiagonBench.Python.Run — a script run: what it prints, how it ends, and
the files it reads.

`Py L α` is a run of Python code that returns an `α`: the lines it printed,
in order, tagged with their stream, and its result or the exception that
ended it. A raised exception keeps the lines printed before it, as a real
run does. `L` is the script's own line type: each script's lines either
spell out their text or carry the values an f-string formats.

The file system is a function from path to what `open` and `json.load`
make of the file (`FileState`). The JSON parser is the library's; the model
takes its outcome, not its algorithm.

`exitCode` is the process status: `sys.exit(n)` gives `n`, an uncaught
exception prints a traceback and gives 1, and a normal end gives 0.
-/
import DiagonBench.Python.Value
import Mathlib.Data.List.Forall2

namespace DiagonBench.Python

/-- The two streams a script writes to. -/
inductive Stream where
  | stdout
  | stderr
  deriving DecidableEq, Repr

/-- A run: printed lines and result. -/
structure Py (L α : Type) where
  out : List (Stream × L)
  result : Except PyExc α

namespace Py

variable {L α β : Type}

/-- Sequencing: the second part runs only if the first returned. -/
def bind (x : Py L α) (f : α → Py L β) : Py L β :=
  match x.result with
  | .ok a => ⟨x.out ++ (f a).out, (f a).result⟩
  | .error e => ⟨x.out, .error e⟩

instance : Monad (Py L) where
  pure a := ⟨[], .ok a⟩
  bind := bind

/-- `print(l)`. -/
def print (l : L) : Py L Unit := ⟨[(.stdout, l)], .ok ()⟩

/-- `print(l, file=sys.stderr)`. -/
def eprint (l : L) : Py L Unit := ⟨[(.stderr, l)], .ok ()⟩

/-- `raise e`, and `sys.exit(n)` as `raise SystemExit(n)`. -/
def raise (e : PyExc) : Py L α := ⟨[], .error e⟩

/-- A computation that prints nothing. -/
def lift (r : Except PyExc α) : Py L α := ⟨[], r⟩

/-- An error line on stderr, then `sys.exit(1)`. -/
def fail (l : L) : Py L α := ⟨[(.stderr, l)], .error (.systemExit 1)⟩

/-- `if c: print(l, file=sys.stderr); sys.exit(1)`. -/
def exitIf (c : Prop) [Decidable c] (l : L) : Py L Unit :=
  if c then fail l else pure ()

@[simp] theorem result_pure (a : α) : (pure a : Py L α).result = .ok a := rfl

@[simp] theorem out_pure (a : α) : (pure a : Py L α).out = [] := rfl

theorem pure_eq (a : α) : (pure a : Py L α) = ⟨[], .ok a⟩ := rfl

@[simp] theorem result_print (l : L) : (print l).result = .ok () := rfl

@[simp] theorem result_lift (r : Except PyExc α) : (lift r : Py L α).result = r := rfl

@[simp] theorem out_raise (e : PyExc) : (raise e : Py L α).out = [] := rfl

@[simp] theorem result_raise (e : PyExc) : (raise e : Py L α).result = .error e := rfl

theorem exitIf_result (c : Prop) [Decidable c] (l : L) :
    (exitIf c l).result = if c then .error (.systemExit 1) else .ok () := by
  unfold exitIf; split_ifs <;> rfl

/-- A check that passes prints nothing. -/
theorem exitIf_of_ok {c : Prop} [Decidable c] {l : L} (h : (exitIf c l).result = .ok ()) :
    exitIf c l = pure () := by
  unfold exitIf at h ⊢
  split_ifs at h ⊢
  · cases h
  · rfl

@[simp] theorem result_bind (x : Py L α) (f : α → Py L β) :
    (x >>= f).result = x.result.bind fun a => (f a).result := by
  show (bind x f).result = _
  unfold bind; cases x.result <;> rfl

theorem bind_of_ok {x : Py L α} {a : α} (h : x.result = .ok a) (f : α → Py L β) :
    x >>= f = ⟨x.out ++ (f a).out, (f a).result⟩ := by
  show bind x f = _
  simp [bind, h]

/-- `bind_of_ok` for a run written out. -/
theorem mk_ok_bind (o : List (Stream × L)) (a : α) (f : α → Py L β) :
    (⟨o, .ok a⟩ : Py L α) >>= f = ⟨o ++ (f a).out, (f a).result⟩ := rfl

/-- `bind_of_ok` for a statement, whose value needs no naming. -/
theorem bind_unit_of_ok {x : Py L Unit} (h : x.result = .ok ()) (f : Unit → Py L β) :
    x >>= f = ⟨x.out ++ (f ()).out, (f ()).result⟩ :=
  bind_of_ok h f

theorem bind_of_error {x : Py L α} {e : PyExc} (h : x.result = .error e) (f : α → Py L β) :
    x >>= f = ⟨x.out, .error e⟩ := by
  show bind x f = _
  simp [bind, h]

@[simp] theorem lift_bind (r : Except PyExc α) (f : α → Py L β) :
    lift r >>= f = match r with
      | .ok a => f a
      | .error e => ⟨[], .error e⟩ := by
  cases r <;> rfl

@[simp] theorem print_bind (l : L) (f : Unit → Py L β) :
    print l >>= f = ⟨(.stdout, l) :: (f ()).out, (f ()).result⟩ := rfl

@[simp] theorem eprint_bind (l : L) (f : Unit → Py L β) :
    eprint l >>= f = ⟨(.stderr, l) :: (f ()).out, (f ()).result⟩ := rfl

@[simp] theorem raise_bind (e : PyExc) (f : α → Py L β) :
    (raise e : Py L α) >>= f = raise e := rfl

@[simp] theorem pure_bind (a : α) (f : α → Py L β) : (pure a : Py L α) >>= f = f a := by
  show bind _ f = _
  simp [bind, Pure.pure]

/-- A `for` loop whose body returns: its lines, in order, and no exception. -/
theorem forM_of_ok {xs : List α} {f : α → Py L Unit} (h : ∀ x ∈ xs, (f x).result = .ok ()) :
    xs.forM f = ⟨(xs.map fun x => (f x).out).flatten, .ok ()⟩ := by
  induction xs with
  | nil => rfl
  | cons x xs ih =>
    rw [List.forM_cons', bind_of_ok (h x (List.mem_cons_self x xs)),
      ih fun y hy => h y (List.mem_cons_of_mem x hy)]
    rfl

/-- `for x in xs: print(g(x))`. -/
theorem forM_print_map {γ : Type} (g : γ → L) (xs : List γ) :
    xs.forM (fun x => print (g x)) = ⟨xs.map fun x => (.stdout, g x), .ok ()⟩ := by
  induction xs with
  | nil => rfl
  | cons x xs ih => rw [List.forM_cons', print_bind, ih]; rfl

/-- `for l in lines: print(l)`. -/
@[simp] theorem forM_print (lines : List L) :
    lines.forM print = ⟨lines.map (.stdout, ·), .ok ()⟩ :=
  forM_print_map id lines

/-- Two loops whose passes end alike, pass by pass, end alike. -/
theorem forM_result_congr {γ : Type} {xs : List α} {ys : List γ} {f : α → Py L Unit}
    {g : γ → Py L Unit} (h : List.Forall₂ (fun x y => (f x).result = (g y).result) xs ys) :
    (xs.forM f).result = (ys.forM g).result := by
  induction h with
  | nil => rfl
  | cons hxy _ ih => rw [List.forM_cons', List.forM_cons', result_bind, result_bind, hxy, ih]

/-- Two loops in a row raise what the loop over both lists raises. -/
theorem forM_append_result (xs ys : List α) (f : α → Py L Unit) :
    ((xs ++ ys).forM f).result = (xs.forM f).result.bind fun _ => (ys.forM f).result := by
  induction xs with
  | nil => rfl
  | cons x xs ih =>
    rw [List.cons_append, List.forM_cons', List.forM_cons', result_bind, result_bind, ih]
    cases (f x).result <;> rfl

/-- A loop prints only lines its passes print. -/
theorem forall_out_forM {xs : List α} {f : α → Py L Unit} {P : Stream × L → Prop}
    (h : ∀ x ∈ xs, ∀ l ∈ (f x).out, P l) : ∀ l ∈ (xs.forM f).out, P l := by
  induction xs with
  | nil => simp [pure_eq]
  | cons x xs ih =>
    rw [List.forM_cons']
    cases hx : (f x).result with
    | error e => rw [bind_of_error hx]; exact h x (List.mem_cons_self x xs)
    | ok u =>
      rw [bind_of_ok hx]
      intro l hl
      rcases List.mem_append.mp hl with hl | hl
      exacts [h x (List.mem_cons_self x xs) l hl,
        ih (fun y hy => h y (List.mem_cons_of_mem x hy)) l hl]

/-- Two loops whose passes are the same runs, pass by pass, are the same run. -/
theorem forM_eq_of_map_eq {γ : Type} {xs : List α} {ys : List γ} {f : α → Py L Unit}
    {g : γ → Py L Unit} (h : xs.map f = ys.map g) : xs.forM f = ys.forM g := by
  induction xs generalizing ys with
  | nil => cases ys with
    | nil => rfl
    | cons => cases h
  | cons x xs ih =>
    cases ys with
    | nil => cases h
    | cons y ys =>
      simp only [List.map_cons, List.cons.injEq] at h
      rw [List.forM_cons', List.forM_cons', h.1, ih h.2]

end Py

@[simp] theorem except_bind_ok {ε α β : Type} (a : α) (f : α → Except ε β) :
    (Except.ok a : Except ε α).bind f = f a := rfl

/-- `except_bind_ok` for a `do` block's bind. -/
@[simp] theorem except_ok_bind {ε α β : Type} (a : α) (f : α → Except ε β) :
    (Except.ok a : Except ε α) >>= f = f a := rfl

@[simp] theorem except_bind_error {ε α β : Type} (e : ε) (f : α → Except ε β) :
    (Except.error e : Except ε α).bind f = .error e := rfl

@[simp] theorem except_bind_assoc {ε α β γ : Type} (x : Except ε α) (f : α → Except ε β)
    (g : β → Except ε γ) : (x.bind f).bind g = x.bind fun a => (f a).bind g := by
  cases x <;> rfl

/-- A statement followed by nothing. -/
@[simp] theorem except_bind_ok_unit {ε : Type} (x : Except ε Unit) :
    x.bind (fun _ => .ok ()) = x := by
  cases x <;> rfl

theorem except_bind_eq_ok {ε α β : Type} {x : Except ε α} {f : α → Except ε β} {b : β} :
    x.bind f = .ok b ↔ ∃ a, x = .ok a ∧ f a = .ok b := by
  cases x <;> simp

theorem except_bind_eq_error {ε α β : Type} {x : Except ε α} {f : α → Except ε β} {e : ε} :
    x.bind f = .error e ↔ x = .error e ∨ ∃ a, x = .ok a ∧ f a = .error e := by
  cases x <;> simp

theorem except_map_eq_error {ε α β : Type} {x : Except ε α} {f : α → β} {e : ε} :
    f <$> x = .error e ↔ x = .error e := by
  cases x <;> simp [Functor.map, Except.map]

/-! ## Which exceptions a run can raise -/

/-- Every exception `r` ends with satisfies `S`. -/
def RaisesOnly {α : Type} (S : PyExc → Prop) (r : Except PyExc α) : Prop :=
  ∀ e, r = .error e → S e

theorem raisesOnly_ok {α : Type} {S : PyExc → Prop} (a : α) : RaisesOnly S (.ok a) :=
  fun _ h => by cases h

theorem RaisesOnly.bind {α β : Type} {S : PyExc → Prop} {x : Except PyExc α}
    {f : α → Except PyExc β} (hx : RaisesOnly S x) (hf : ∀ a, x = .ok a → RaisesOnly S (f a)) :
    RaisesOnly S (x.bind f) := by
  cases x with
  | error e => exact fun e' h => hx e' (by cases h; rfl)
  | ok a => exact hf a rfl

theorem RaisesOnly.map {α β : Type} {S : PyExc → Prop} {x : Except PyExc α} (g : α → β)
    (hx : RaisesOnly S x) : RaisesOnly S (x.map g) := fun e he => hx e (by
  cases x with
  | error e' => cases he; rfl
  | ok a => cases he)

/-- A `for` loop raises only what its passes raise. -/
theorem Py.raisesOnly_forM {L α : Type} {S : PyExc → Prop} {xs : List α} {f : α → Py L Unit}
    (h : ∀ x ∈ xs, RaisesOnly S (f x).result) : RaisesOnly S (xs.forM f).result := by
  induction xs with
  | nil => exact raisesOnly_ok ()
  | cons x xs ih =>
    rw [List.forM_cons', Py.result_bind]
    exact (h x (List.mem_cons_self x xs)).bind fun _ _ =>
      ih fun y hy => h y (List.mem_cons_of_mem x hy)

@[simp] theorem exists_unit {P : Unit → Prop} : (∃ u, P u) ↔ P () :=
  ⟨fun ⟨⟨⟩, h⟩ => h, fun h => ⟨(), h⟩⟩

/-- A `for` loop returns exactly when each pass returns. -/
theorem Py.forM_result_eq_ok {L α : Type} {xs : List α} {f : α → Py L Unit} :
    (xs.forM f).result = .ok () ↔ ∀ x ∈ xs, (f x).result = .ok () := by
  induction xs with
  | nil => simp
  | cons x xs ih =>
    rw [List.forM_cons', Py.result_bind, List.forall_mem_cons, ← ih]
    rcases (f x).result with e | ⟨⟩ <;> simp

/-! ## Loops that stop at the first exception -/

section MapM

variable {α β : Type} {f : α → Except PyExc β}

/-- A loop over `xs` returns exactly when every pass returns. -/
theorem mapM_eq_ok {xs : List α} {ys : List β} :
    xs.mapM f = .ok ys ↔ List.Forall₂ (fun x y => f x = .ok y) xs ys := by
  induction xs generalizing ys with
  | nil => rw [List.mapM_nil]; cases ys <;> simp [pure, Except.pure]
  | cons x xs ih =>
    rw [List.mapM_cons]
    cases ys with
    | nil => cases f x <;> cases xs.mapM f <;> simp [bind, Except.bind, pure, Except.pure]
    | cons y ys =>
      rw [List.forall₂_cons, ← ih]
      cases f x <;> cases xs.mapM f <;> simp [bind, Except.bind, pure, Except.pure]

/-- Every pass of a loop that returned returned. -/
theorem forall_ok_of_mapM_eq_ok {xs : List α} {ys : List β} (h : xs.mapM f = .ok ys) :
    ∀ x ∈ xs, ∃ y, f x = .ok y := by
  have h2 := mapM_eq_ok.mp h
  clear h
  induction h2 with
  | nil => simp
  | cons hxy _ ih => exact fun x hx => (List.mem_cons.mp hx).elim (· ▸ ⟨_, hxy⟩) (ih x)

/-- A loop with a failing pass raises. -/
theorem mapM_error_of_mem {xs : List α} {x : α} (hx : x ∈ xs) {e : PyExc} (he : f x = .error e) :
    ∃ e', xs.mapM f = .error e' := by
  cases h : xs.mapM f with
  | error e' => exact ⟨e', rfl⟩
  | ok ys =>
    obtain ⟨y, hy⟩ := forall_ok_of_mapM_eq_ok h x hx
    rw [he] at hy; cases hy

/-- A loop whose every pass returns `g x` returns the list of them. -/
theorem mapM_eq_ok_map {γ : Type} {xs : List γ} {g : γ → β} {f : γ → Except PyExc β}
    (h : ∀ x ∈ xs, f x = .ok (g x)) : xs.mapM f = .ok (xs.map g) := by
  induction xs with
  | nil => rfl
  | cons x xs ih =>
    rw [List.mapM_cons, h x (List.mem_cons_self x xs),
      ih fun y hy => h y (List.mem_cons_of_mem x hy)]
    rfl

/-- A loop reads its body only on the elements it runs over. -/
theorem mapM_congr {xs : List α} {g : α → Except PyExc β} (h : ∀ x ∈ xs, f x = g x) :
    xs.mapM f = xs.mapM g := by
  induction xs with
  | nil => rfl
  | cons x xs ih =>
    rw [List.mapM_cons, List.mapM_cons, h x (List.mem_cons_self x xs),
      ih fun y hy => h y (List.mem_cons_of_mem x hy)]

/-- A loop whose every pass is mapped by `g` returns the mapped list. -/
theorem mapM_map_result {γ : Type} {xs : List α} (g : β → γ) :
    xs.mapM (fun x => g <$> f x) = List.map g <$> xs.mapM f := by
  induction xs with
  | nil => rfl
  | cons x xs ih =>
    rw [List.mapM_cons, List.mapM_cons, ih]
    cases f x <;> cases xs.mapM f <;> rfl

/-- A loop returns when every pass returns. -/
theorem mapM_ok_of_forall {xs : List α} (h : ∀ x ∈ xs, ∃ y, f x = .ok y) :
    ∃ ys, xs.mapM f = .ok ys := by
  induction xs with
  | nil => exact ⟨[], rfl⟩
  | cons x xs ih =>
    obtain ⟨y, hy⟩ := h x (List.mem_cons_self x xs)
    obtain ⟨ys, hys⟩ := ih fun x' hx' => h x' (List.mem_cons_of_mem x hx')
    exact ⟨y :: ys, by rw [List.mapM_cons, hy, hys]; rfl⟩

/-- A loop that raises raised in one of its passes. -/
theorem exists_of_mapM_eq_error {xs : List α} {e : PyExc} (h : xs.mapM f = .error e) :
    ∃ x ∈ xs, f x = .error e := by
  induction xs with
  | nil => cases h
  | cons x xs ih =>
    rw [List.mapM_cons] at h
    cases hx : f x with
    | error e' => rw [hx] at h; cases h; exact ⟨x, List.mem_cons_self x xs, hx⟩
    | ok y =>
      cases hxs : xs.mapM f with
      | error e' =>
        rw [hx, hxs] at h; cases h
        obtain ⟨z, hz, hfz⟩ := ih hxs
        exact ⟨z, List.mem_cons_of_mem x hz, hfz⟩
      | ok ys => rw [hx, hxs] at h; cases h

/-- When every pass either returns or raises `e`, and some pass raises, the
loop raises `e`. -/
theorem mapM_eq_error {xs : List α} {e : PyExc}
    (h : ∀ x ∈ xs, (∃ y, f x = .ok y) ∨ f x = .error e) (he : ∃ x ∈ xs, f x = .error e) :
    xs.mapM f = .error e := by
  induction xs with
  | nil => simp at he
  | cons x xs ih =>
    rw [List.mapM_cons]
    rcases h x (List.mem_cons_self x xs) with ⟨y, hy⟩ | hx
    · obtain ⟨x', hx'mem, hx'⟩ := he
      rcases List.mem_cons.mp hx'mem with rfl | hmem
      · rw [hx'] at hy; cases hy
      · rw [hy, ih (fun z hz => h z (List.mem_cons_of_mem x hz)) ⟨x', hmem, hx'⟩]; rfl
    · rw [hx]; rfl

/-- Two loops over one list, where every returning pass of the first has a
returning pass of the second related to it: a returning first loop has a
returning second loop, related pass by pass. -/
theorem mapM_ok_of_forall₂ {g : α → Except PyExc β} {R : β → β → Prop} {xs : List α}
    {ys : List β} (h : List.Forall₂ (fun x y => f x = .ok y) xs ys)
    (hg : ∀ x y, f x = .ok y → ∃ y', g x = .ok y' ∧ R y y') :
    ∃ ys', xs.mapM g = .ok ys' ∧ List.Forall₂ R ys ys' := by
  simp only [mapM_eq_ok]
  induction h with
  | nil => exact ⟨[], .nil, .nil⟩
  | cons hxy _ ih =>
    obtain ⟨y', hy', hR⟩ := hg _ _ hxy
    obtain ⟨ys', h₁, h₂⟩ := ih
    exact ⟨y' :: ys', .cons hy' h₁, .cons hR h₂⟩

/-- A loop that returns gives the values its passes return. -/
theorem mapM_eq_filterMap {xs : List α} {ys : List β} (h : xs.mapM f = .ok ys) :
    ys = xs.filterMap fun x => (f x).toOption := by
  have h₂ := mapM_eq_ok.mp h
  clear h
  induction h₂ with
  | nil => rfl
  | cons hxy _ ih => rw [List.filterMap_cons, hxy, ← ih]; rfl

/-- A loop over a permutation returns when the loop does, with a permutation
of its values. -/
theorem mapM_perm {xs xs' : List α} {ys : List β} (hp : xs.Perm xs') (h : xs.mapM f = .ok ys) :
    ∃ ys', xs'.mapM f = .ok ys' ∧ ys.Perm ys' := by
  obtain ⟨ys', h'⟩ := mapM_ok_of_forall fun x hx =>
    forall_ok_of_mapM_eq_ok h x (hp.mem_iff.mpr hx)
  refine ⟨ys', h', ?_⟩
  rw [mapM_eq_filterMap h, mapM_eq_filterMap h']
  exact hp.filterMap _

end MapM

/-- A loop raises only what its passes raise. -/
theorem raisesOnly_mapM {α β : Type} {S : PyExc → Prop} {xs : List α} {f : α → Except PyExc β}
    (h : ∀ x ∈ xs, RaisesOnly S (f x)) : RaisesOnly S (xs.mapM f) := fun e he => by
  obtain ⟨x, hx, hfx⟩ := exists_of_mapM_eq_error he
  exact h x hx e hfx

section Forall₂

variable {α β : Type} {R : α → β → Prop}

theorem forall₂_mem_left {xs : List α} {ys : List β} (h : List.Forall₂ R xs ys) {x : α}
    (hx : x ∈ xs) : ∃ y ∈ ys, R x y := by
  induction h with
  | nil => simp at hx
  | cons hab _ ih =>
    rcases List.mem_cons.mp hx with rfl | hx
    · exact ⟨_, List.mem_cons_self _ _, hab⟩
    · obtain ⟨y, hy, hxy⟩ := ih hx
      exact ⟨y, List.mem_cons_of_mem _ hy, hxy⟩

theorem forall₂_mem_right {xs : List α} {ys : List β} (h : List.Forall₂ R xs ys) {y : β}
    (hy : y ∈ ys) : ∃ x ∈ xs, R x y := by
  induction h with
  | nil => simp at hy
  | cons hab _ ih =>
    rcases List.mem_cons.mp hy with rfl | hy
    · exact ⟨_, List.mem_cons_self _ _, hab⟩
    · obtain ⟨x, hx, hxy⟩ := ih hy
      exact ⟨x, List.mem_cons_of_mem _ hx, hxy⟩

end Forall₂

/-- The process status of a finished run. -/
def exitCode {α : Type} : Except PyExc α → Nat
  | .ok _ => 0
  | .error (.systemExit n) => n
  | .error _ => 1

/-- `SystemExit`, as opposed to the exceptions operations raise. -/
def PyExc.isExit : PyExc → Bool
  | .systemExit _ => true
  | _ => false

/-- An exception that is not `SystemExit` ends the process with status 1. -/
theorem exitCode_error_of_not_isExit {α : Type} {e : PyExc} (h : e.isExit = false) :
    exitCode (.error e : Except PyExc α) = 1 := by
  cases e <;> first | rfl | cases h

/-- What `open(path)` and `json.load` make of a path. -/
inductive FileState where
  /-- `open` raises `FileNotFoundError`. -/
  | missing
  /-- `open` raises `IsADirectoryError`. -/
  | directory
  /-- `open` raises `PermissionError`. -/
  | unreadable
  /-- Reading the text raises `UnicodeDecodeError`. -/
  | notUtf8
  /-- `json.load` raises `JSONDecodeError` with this message. -/
  | invalidJson (msg : String)
  /-- `json.load` returns this value. -/
  | json (v : JsonValue)

/-- The files a run can see. -/
def FileSystem : Type := String → FileState

/-- `with open(path, 'r') as f: data = json.load(f)`. -/
def openJson (fs : FileSystem) (path : String) : Except PyExc JsonValue :=
  match fs path with
  | .missing => .error .fileNotFoundError
  | .directory => .error .isADirectoryError
  | .unreadable => .error .permissionError
  | .notUtf8 => .error .unicodeDecodeError
  | .invalidJson msg => .error (.jsonDecodeError msg)
  | .json v => .ok v

end DiagonBench.Python
