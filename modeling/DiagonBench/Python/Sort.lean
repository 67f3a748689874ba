/-
DiagonBench.Python.Sort — `sorted` over JSON values.

Python's sort compares with `<` only: strings with strings by code point,
numbers with numbers (booleans among them), and any other pair raises
`TypeError`. A list of one value or none is returned without a
comparison. `pySortBy keys xs` sorts `xs` by keys already computed, as
`sorted(xs, key=...)` computes every key first; `sorted(data)` is
`pySortBy data data`. Python compares two lists element by element; the
model treats lists as incomparable, as no script sorts them on purpose.

The sort is stable, and so is `insertionSort`, on which `sortKeyed` rests.
Over numbers the sorted values are the numbers in ascending order
(`pySortBy_self_of_nums`).
-/
import DiagonBench.Python.Value
import Mathlib.Data.List.Forall2
import Mathlib.Data.List.Sort

namespace DiagonBench.Python

/-- The sort key's characters, for a string key. -/
def strKey? : JsonValue → Option (List Char)
  | .str s => some s.toList
  | _ => none

/-- A stable sort of values by key, ascending. -/
def sortKeyed {κ : Type} [LE κ] [DecidableRel (α := κ) (· ≤ ·)]
    (kxs : List (κ × JsonValue)) : List JsonValue :=
  (kxs.insertionSort fun a b => a.1 ≤ b.1).map Prod.snd

/-- `sorted(xs, key=...)` with the keys computed: with two values or more,
string keys or numeric keys are compared and anything else raises
`TypeError`. -/
def pySortBy (keys xs : List JsonValue) : Except PyExc (List JsonValue) :=
  if xs.length ≤ 1 then .ok xs
  else
    match keys.mapM strKey?, keys.mapM JsonValue.toNum? with
    | some ks, _ => .ok (sortKeyed (ks.zip xs))
    | none, some qs => .ok (sortKeyed (qs.zip xs))
    | none, none => .error .typeError

/-! ## What the sort returns -/

/-- A conversion of every value returns exactly when each one does. -/
theorem option_mapM_eq_some {α β : Type} {f : α → Option β} {xs : List α} {ys : List β} :
    xs.mapM f = some ys ↔ List.Forall₂ (fun x y => f x = some y) xs ys := by
  induction xs generalizing ys with
  | nil => rw [List.mapM_nil]; cases ys <;> simp
  | cons x xs ih =>
    rw [List.mapM_cons]
    cases ys with
    | nil => cases f x <;> cases xs.mapM f <;> simp
    | cons y ys => rw [List.forall₂_cons, ← ih]; cases f x <;> cases xs.mapM f <;> simp

/-- A conversion of every value returns when each one does. -/
theorem option_mapM_of_forall {α β : Type} {f : α → Option β} {xs : List α}
    (h : ∀ x ∈ xs, ∃ y, f x = some y) : ∃ ys, xs.mapM f = some ys := by
  induction xs with
  | nil => exact ⟨[], rfl⟩
  | cons x xs ih =>
    obtain ⟨y, hy⟩ := h x (List.mem_cons_self x xs)
    obtain ⟨ys, hys⟩ := ih fun x' hx' => h x' (List.mem_cons_of_mem x hx')
    exact ⟨y :: ys, by rw [List.mapM_cons, hy, hys]; rfl⟩

theorem mem_of_mem_sortKeyed {κ : Type} [LE κ] [DecidableRel (α := κ) (· ≤ ·)] {ks : List κ}
    {rs : List JsonValue} {r : JsonValue} (hr : r ∈ sortKeyed (ks.zip rs)) : r ∈ rs := by
  obtain ⟨p, hp, rfl⟩ := List.mem_map.mp hr
  exact (List.of_mem_zip ((List.perm_insertionSort _ _).mem_iff.mp hp)).2

/-- The sort only reorders. -/
theorem mem_of_pySortBy {keys xs ys : List JsonValue} (h : pySortBy keys xs = .ok ys)
    {r : JsonValue} (hr : r ∈ ys) : r ∈ xs := by
  unfold pySortBy at h
  split_ifs at h
  · cases h; exact hr
  · split at h <;> cases h <;> exact mem_of_mem_sortKeyed hr

theorem sortKeyed_perm {κ : Type} [LE κ] [DecidableRel (α := κ) (· ≤ ·)] {ks : List κ}
    {xs : List JsonValue} (hlen : xs.length ≤ ks.length) : (sortKeyed (ks.zip xs)).Perm xs :=
  ((List.perm_insertionSort _ _).map Prod.snd).trans (.of_eq (List.map_snd_zip _ _ hlen))

/-- With one key per value, the sort returns a permutation of the values. -/
theorem pySortBy_perm {keys xs ys : List JsonValue} (hlen : keys.length = xs.length)
    (h : pySortBy keys xs = .ok ys) : ys.Perm xs := by
  unfold pySortBy at h
  split_ifs at h
  · cases h; rfl
  · split at h <;> cases h
    all_goals
      rename_i hks
      exact sortKeyed_perm (by rw [← (option_mapM_eq_some.mp hks).length_eq, hlen])

/-- The sort raises nothing but `TypeError`. -/
theorem pySortBy_eq_error {keys xs : List JsonValue} {e : PyExc} (h : pySortBy keys xs = .error e) :
    e = .typeError := by
  unfold pySortBy at h
  split_ifs at h
  split at h <;> cases h
  rfl

theorem strKey?_of_toNum? {x : JsonValue} {q : ℚ} (h : x.toNum? = some q) : strKey? x = none := by
  cases x <;> simp_all [JsonValue.toNum?, strKey?]

/-- Pairs whose value converts to its key: the values convert to the keys. -/
theorem mapM_toNum?_map_snd {ps : List (ℚ × JsonValue)} (h : ∀ p ∈ ps, p.2.toNum? = some p.1) :
    (ps.map Prod.snd).mapM JsonValue.toNum? = some (ps.map Prod.fst) :=
  option_mapM_eq_some.mpr (List.forall₂_map_left_iff.mpr (List.forall₂_map_right_iff.mpr
    (List.forall₂_same.mpr h)))

/-- **`sorted` over numbers.** A list of numbers sorts into the same numbers
in ascending order. -/
theorem pySortBy_self_of_nums {xs : List JsonValue} {qs : List ℚ}
    (h : xs.mapM JsonValue.toNum? = some qs) :
    ∃ ys qs', pySortBy xs xs = .ok ys ∧ ys.mapM JsonValue.toNum? = some qs' ∧
      qs'.Sorted (· ≤ ·) ∧ qs'.Perm qs := by
  have h₂ := option_mapM_eq_some.mp h
  unfold pySortBy
  split_ifs with hlen
  · refine ⟨xs, qs, rfl, h, ?_, .refl _⟩
    rw [h₂.length_eq] at hlen
    match qs, hlen with
    | [], _ => exact List.sorted_nil
    | [_], _ => exact List.sorted_singleton _
  obtain ⟨x, xs', rfl⟩ := List.exists_cons_of_ne_nil (l := xs) (by rintro rfl; simp at hlen)
  obtain ⟨q, qs', hq, -, rfl⟩ := List.forall₂_cons_left_iff.mp h₂
  have hstr : (x :: xs').mapM strKey? = none := by
    rw [List.mapM_cons, strKey?_of_toNum? hq]; rfl
  rw [hstr, h]
  let r : ℚ × JsonValue → ℚ × JsonValue → Prop := fun a b => a.1 ≤ b.1
  have : IsTotal (ℚ × JsonValue) r := ⟨fun a b => le_total a.1 b.1⟩
  have : IsTrans (ℚ × JsonValue) r := ⟨fun _ _ _ => le_trans⟩
  have hpairs : ∀ p ∈ (q :: qs').zip (x :: xs'), p.2.toNum? = some p.1 := fun ⟨_, _⟩ hp =>
    (List.forall₂_iff_zip.mp h₂.flip).2 hp
  have hperm := List.perm_insertionSort r ((q :: qs').zip (x :: xs'))
  refine ⟨_, _, rfl, mapM_toNum?_map_snd fun p hp => hpairs p (hperm.subset hp),
    List.pairwise_map.mpr (List.sorted_insertionSort r _), ?_⟩
  exact (hperm.map Prod.fst).trans
    (.of_eq (List.map_fst_zip (q :: qs') (x :: xs') (by simp [h₂.length_eq])))

/-! ## Sorting a permutation -/

/-- A list of one value or none is the only permutation of itself. -/
theorem eq_of_perm_of_length_le_one {α : Type} {l l' : List α} (hp : l.Perm l') (h : l.length ≤ 1) :
    l = l' :=
  match l, h with
  | [], _ => hp.nil_eq
  | [_], _ => (List.perm_singleton.mp hp.symm).symm

/-- With no key twice, two permutations of one list sort into one list:
sorted by key and with distinct keys, each is strictly increasing, and a
strict order leaves one arrangement. -/
theorem sortKeyed_eq_of_perm {κ : Type} [LinearOrder κ] {kxs kxs' : List (κ × JsonValue)}
    (hp : kxs.Perm kxs') (hn : (kxs.map Prod.fst).Nodup) : sortKeyed kxs = sortKeyed kxs' := by
  let le : κ × JsonValue → κ × JsonValue → Prop := fun a b => a.1 ≤ b.1
  let lt : κ × JsonValue → κ × JsonValue → Prop := fun a b => a.1 < b.1
  have : IsTotal (κ × JsonValue) le := ⟨fun a b => le_total a.1 b.1⟩
  have : IsTrans (κ × JsonValue) le := ⟨fun _ _ _ => le_trans⟩
  have : IsAntisymm (κ × JsonValue) lt := ⟨fun _ _ h h' => absurd h' (lt_asymm h)⟩
  have hstrict : ∀ l : List (κ × JsonValue), (l.map Prod.fst).Nodup → (l.insertionSort le).Sorted lt :=
    fun l hl => ((List.sorted_insertionSort le l).and (List.pairwise_map.mp
      (((List.perm_insertionSort le l).map Prod.fst).nodup_iff.mpr hl))).imp
        fun h => lt_of_le_of_ne h.1 h.2
  unfold sortKeyed
  rw [List.eq_of_perm_of_sorted (((List.perm_insertionSort le _).trans hp).trans
    (List.perm_insertionSort le _).symm) (hstrict _ hn) (hstrict _ ((hp.map _).nodup_iff.mp hn))]

/-- String keys read off the values by `g`: with no key twice, two
permutations of the values sort into one list. -/
theorem pySortBy_map_perm {g : JsonValue → JsonValue} {xs xs' : List JsonValue} (hp : xs.Perm xs')
    (hs : ∀ x ∈ xs, ∃ s, g x = .str s) (hn : (xs.map g).Nodup) :
    pySortBy (xs.map g) xs = pySortBy (xs'.map g) xs' := by
  unfold pySortBy
  rw [← hp.length_eq]
  split_ifs with hlen
  · rw [eq_of_perm_of_length_le_one hp hlen]
  let k : JsonValue → List Char := fun x => (strKey? (g x)).getD []
  have hk : ∀ ys : List JsonValue, (∀ y ∈ ys, y ∈ xs) →
      (ys.map g).mapM strKey? = some (ys.map k) ∧ (ys.map k).zip ys = ys.map fun y => (k y, y) := by
    intro ys hys
    refine ⟨option_mapM_eq_some.mpr (List.forall₂_map_left_iff.mpr (List.forall₂_map_right_iff.mpr
      (List.forall₂_same.mpr fun y hy => ?_))), ?_⟩
    · obtain ⟨s, hs⟩ := hs y (hys y hy)
      simp [k, hs, strKey?]
    · clear hys; induction ys <;> simp_all
  obtain ⟨h₁, h₂⟩ := hk xs fun _ => id
  obtain ⟨h₁', h₂'⟩ := hk xs' fun _ hy => hp.mem_iff.mpr hy
  rw [h₁, h₁']
  dsimp only
  rw [h₂, h₂']
  refine congrArg Except.ok (sortKeyed_eq_of_perm (hp.map _) ?_)
  have hinj : ∀ v ∈ xs.map g, ∀ w ∈ xs.map g, (strKey? v).getD [] = (strKey? w).getD [] → v = w := by
    simp only [List.mem_map]
    rintro _ ⟨x, hx, rfl⟩ _ ⟨y, hy, rfl⟩ h
    obtain ⟨s, hgx⟩ := hs x hx
    obtain ⟨t, hgy⟩ := hs y hy
    rw [hgx, hgy] at h ⊢
    simpa [strKey?, String.ext_iff] using h
  simpa only [List.map_map] using hn.map_on hinj

end DiagonBench.Python
