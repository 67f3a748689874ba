/-
DiagonBench.Python.Dict — Python dicts and sets of keys.

`PyDict` is a dict as the scripts use one: its entries in insertion order,
each key once. The no-duplicate invariant is a field, so every dict the
model builds is one Python could hold. `set` is `d[k] = v`: a present key
keeps its place and takes the new value, a new key goes last.

A set of keys (`set(d.keys())`, `&`, `-`) is a `Finset PyKey`. Python's
`sorted` on such a set returns its elements in ascending order when they
are mutually comparable (`pySorted`); the order is `PyKey`'s, which is
Python's on keys of one type.

Why `pySorted` raises on a mixed set. `sorted` is a comparison sort, so on
a set of two or more keys it compares every pair that ends adjacent in its
output, and a set holding a string and a number, or `None` and anything
else, has an adjacent pair of keys of different types; comparing them
raises `TypeError`. A set of at most one key is returned without a
comparison.
-/
import DiagonBench.Python.Value
import Mathlib.Data.Finset.Sort

namespace DiagonBench.Python

variable {α : Type}

/-- A dict with keys `PyKey`: entries in insertion order, no key twice. -/
structure PyDict (α : Type) where
  entries : List (PyKey × α)
  nodup : (entries.map Prod.fst).Nodup

namespace PyDict

/-- `{}`. -/
def empty : PyDict α := ⟨[], List.nodup_nil⟩

/-- `d.get(k)`, with `None` as `Option.none`. -/
def get? (d : PyDict α) (k : PyKey) : Option α := d.entries.lookup k

/-- `set(d.keys())`. -/
def keys (d : PyDict α) : Finset PyKey := ⟨d.entries.map Prod.fst, d.nodup⟩

/-- The entry update `d[k] = v` makes in place. -/
def overwrite (k : PyKey) (v : α) (e : PyKey × α) : PyKey × α :=
  if e.1 = k then (k, v) else e

theorem map_fst_overwrite (k : PyKey) (v : α) (es : List (PyKey × α)) :
    (es.map (overwrite k v)).map Prod.fst = es.map Prod.fst := by
  induction es with
  | nil => rfl
  | cons e es ih => by_cases h : e.1 = k <;> simp [overwrite, h, ih]

/-- `d[k] = v`. -/
def set (d : PyDict α) (k : PyKey) (v : α) : PyDict α :=
  if h : k ∈ d.entries.map Prod.fst then
    ⟨d.entries.map (overwrite k v), by rw [map_fst_overwrite]; exact d.nodup⟩
  else
    ⟨d.entries ++ [(k, v)], by
      rw [List.map_append]
      exact d.nodup.append (List.nodup_singleton k) (List.disjoint_singleton.mpr h)⟩

/-- `d[k]`: a missing key raises `KeyError`. -/
def getItem (d : PyDict α) (k : PyKey) : Except PyExc α :=
  match d.get? k with
  | some v => .ok v
  | none => .error .keyError

/-! ## Lookup after an update -/

theorem lookup_cons_ne {k a : PyKey} {b : α} {es : List (PyKey × α)} (h : k ≠ a) :
    ((a, b) :: es).lookup k = es.lookup k := by
  simp [List.lookup_cons, beq_eq_false_iff_ne.mpr h]

theorem lookup_map_overwrite (k k' : PyKey) (v : α) (es : List (PyKey × α)) :
    (es.map (overwrite k v)).lookup k' =
      if k' = k then (if k ∈ es.map Prod.fst then some v else none) else es.lookup k' := by
  induction es with
  | nil => by_cases h : k' = k <;> simp [h]
  | cons e es ih =>
    obtain ⟨a, b⟩ := e
    by_cases ha : a = k
    · subst ha
      by_cases hk : k' = a
      · subst hk; simp [overwrite]
      · simp [overwrite, lookup_cons_ne hk, hk, ih]
    · have hov : overwrite k v (a, b) = (a, b) := if_neg ha
      by_cases hk : k' = a
      · subst hk; simp [hov, ha]
      · have hmem : k ∈ a :: es.map Prod.fst ↔ k ∈ es.map Prod.fst := by simp [Ne.symm ha]
        simp only [List.map_cons, hov, lookup_cons_ne hk, ih, hmem]

theorem lookup_append_new (k k' : PyKey) (v : α) (es : List (PyKey × α))
    (hk : k ∉ es.map Prod.fst) :
    (es ++ [(k, v)]).lookup k' = if k' = k then some v else es.lookup k' := by
  induction es with
  | nil => by_cases h : k' = k <;> simp [lookup_cons_ne, h]
  | cons e es ih =>
    obtain ⟨a, b⟩ := e
    simp only [List.map_cons, List.mem_cons, not_or] at hk
    by_cases ha : k' = a
    · subst ha; simp [Ne.symm hk.1]
    · simp [lookup_cons_ne ha, ih hk.2]

theorem lookup_isSome_iff (k : PyKey) (es : List (PyKey × α)) :
    (es.lookup k).isSome ↔ k ∈ es.map Prod.fst := by
  induction es with
  | nil => simp
  | cons e es ih =>
    obtain ⟨a, b⟩ := e
    by_cases h : k = a
    · subst h; simp
    · simp only [lookup_cons_ne h, ih, List.map_cons, List.mem_cons, h, false_or]

@[simp] theorem get?_empty (k : PyKey) : (empty : PyDict α).get? k = none := rfl

@[simp] theorem keys_empty : (empty : PyDict α).keys = ∅ := rfl

theorem mem_keys {d : PyDict α} {k : PyKey} : k ∈ d.keys ↔ (d.get? k).isSome := by
  rw [get?, lookup_isSome_iff]; rfl

theorem mem_keys_iff_get? {d : PyDict α} {k : PyKey} : k ∈ d.keys ↔ ∃ v, d.get? k = some v := by
  rw [mem_keys, Option.isSome_iff_exists]

@[simp] theorem get?_set (d : PyDict α) (k k' : PyKey) (v : α) :
    (d.set k v).get? k' = if k' = k then some v else d.get? k' := by
  unfold set get?
  split
  · next h => simp [lookup_map_overwrite, h]
  · next h => exact lookup_append_new k k' v _ h

@[simp] theorem keys_set (d : PyDict α) (k : PyKey) (v : α) :
    (d.set k v).keys = insert k d.keys := by
  ext k'
  simp only [mem_keys, get?_set, Finset.mem_insert]
  by_cases h : k' = k <;> simp [h]

/-- An update leaves the entries of the other keys as they are. -/
theorem map_overwrite_of_not_mem {k : PyKey} {v : α} {es : List (PyKey × α)}
    (h : k ∉ es.map Prod.fst) : es.map (overwrite k v) = es := by
  induction es with
  | nil => rfl
  | cons e es ih =>
    simp only [List.map_cons, List.mem_cons, not_or] at h ⊢
    rw [ih h.2, overwrite, if_neg (Ne.symm h.1)]

/-- `d[k] = v` on a key of `d` replaces its entry in place. -/
theorem entries_set_of_mem {d : PyDict α} {k : PyKey} (v : α) (h : k ∈ d.keys) :
    (d.set k v).entries = d.entries.map (overwrite k v) := by
  unfold set
  rw [dif_pos (show k ∈ d.entries.map Prod.fst from h)]

/-- `d[k] = v` on a new key appends its entry. -/
theorem entries_set_of_not_mem {d : PyDict α} {k : PyKey} (v : α) (h : k ∉ d.keys) :
    (d.set k v).entries = d.entries ++ [(k, v)] := by
  unfold set
  rw [dif_neg (show k ∉ d.entries.map Prod.fst from h)]

/-- Two dicts with the same lookups have the same keys. -/
theorem keys_eq_of_get? {d d' : PyDict α} (h : ∀ k, d.get? k = d'.get? k) : d.keys = d'.keys := by
  ext k; simp only [mem_keys, h]

/-- `d[k]` on a key of `d` returns its value. -/
theorem getItem_of_get? {d : PyDict α} {k : PyKey} {v : α} (h : d.get? k = some v) :
    d.getItem k = .ok v := by
  simp [getItem, h]

/-! ## Mapping the values -/

theorem lookup_map_snd {β : Type} (f : α → β) (es : List (PyKey × α)) (k : PyKey) :
    (es.map fun e => (e.1, f e.2)).lookup k = (es.lookup k).map f := by
  induction es with
  | nil => rfl
  | cons e es ih =>
    obtain ⟨a, b⟩ := e
    by_cases h : k = a
    · subst h; simp
    · simp [lookup_cons_ne h, ih]

/-- `{k: f(v) for k, v in d.items()}`. -/
def map {β : Type} (f : α → β) (d : PyDict α) : PyDict β :=
  ⟨d.entries.map fun e => (e.1, f e.2), by rw [List.map_map]; exact d.nodup⟩

@[simp] theorem get?_map {β : Type} (f : α → β) (d : PyDict α) (k : PyKey) :
    (d.map f).get? k = (d.get? k).map f :=
  lookup_map_snd f d.entries k

@[simp] theorem keys_map {β : Type} (f : α → β) (d : PyDict α) : (d.map f).keys = d.keys := by
  ext k; simp [mem_keys]

/-! ## A run of updates -/

/-- `for k, v in kvs: d[k] = v`. -/
def setAll (d : PyDict α) (kvs : List (PyKey × α)) : PyDict α :=
  kvs.foldl (fun d kv => d.set kv.1 kv.2) d

@[simp] theorem setAll_nil (d : PyDict α) : d.setAll [] = d := rfl

@[simp] theorem setAll_cons (d : PyDict α) (kv : PyKey × α) (kvs : List (PyKey × α)) :
    d.setAll (kv :: kvs) = (d.set kv.1 kv.2).setAll kvs := rfl

theorem lookup_append_singleton (k k' : PyKey) (v : α) (es : List (PyKey × α)) :
    (es ++ [(k', v)]).lookup k = (es.lookup k).or (if k = k' then some v else none) := by
  induction es with
  | nil => by_cases h : k = k' <;> simp [lookup_cons_ne, h]
  | cons e es ih =>
    obtain ⟨a, b⟩ := e
    by_cases h : k = a
    · subst h; simp
    · simp [lookup_cons_ne h, ih]

/-- After a run of updates, a key holds the value of its LAST update, or its
old value if the run never updates it. -/
theorem get?_setAll (d : PyDict α) (kvs : List (PyKey × α)) (k : PyKey) :
    (d.setAll kvs).get? k = (kvs.reverse.lookup k).or (d.get? k) := by
  induction kvs generalizing d with
  | nil => simp
  | cons kv kvs ih =>
    obtain ⟨k', v⟩ := kv
    rw [setAll_cons, ih, get?_set, List.reverse_cons, lookup_append_singleton, Option.or_assoc]
    by_cases h : k = k' <;> simp [h]

/-- Pairs with distinct keys are looked up the same in any order. -/
theorem lookup_perm {l l' : List (PyKey × α)} (hp : l.Perm l') (hn : (l.map Prod.fst).Nodup)
    (k : PyKey) : l.lookup k = l'.lookup k := by
  induction hp with
  | nil => rfl
  | cons x _ ih =>
    obtain ⟨a, v⟩ := x
    rw [List.map_cons, List.nodup_cons] at hn
    by_cases hk : k = a
    · subst hk; simp
    · rw [lookup_cons_ne hk, lookup_cons_ne hk, ih hn.2]
  | swap x y l =>
    obtain ⟨a, u⟩ := x
    obtain ⟨b, v⟩ := y
    have hba : b ≠ a := by simp_all
    by_cases hkb : k = b
    · subst hkb; rw [List.lookup_cons_self, lookup_cons_ne hba, List.lookup_cons_self]
    · by_cases hka : k = a
      · subst hka; rw [lookup_cons_ne hkb, List.lookup_cons_self, List.lookup_cons_self]
      · rw [lookup_cons_ne hkb, lookup_cons_ne hka, lookup_cons_ne hka, lookup_cons_ne hkb]
  | trans h₁ _ ih₁ ih₂ => exact (ih₁ hn).trans (ih₂ ((h₁.map Prod.fst).nodup_iff.mp hn))

/-- With no key twice, a key finds the value it is paired with. -/
theorem lookup_of_mem {es : List (PyKey × α)} (hn : (es.map Prod.fst).Nodup) {k : PyKey} {v : α}
    (h : (k, v) ∈ es) : es.lookup k = some v := by
  induction es with
  | nil => cases h
  | cons e es ih =>
    obtain ⟨a, w⟩ := e
    rw [List.map_cons, List.nodup_cons] at hn
    rcases List.mem_cons.mp h with he | he
    · obtain ⟨rfl, rfl⟩ := Prod.mk.inj he
      exact List.lookup_cons_self
    · have hk : k ≠ a := by
        rintro rfl
        exact hn.1 (List.mem_map.mpr ⟨_, he, rfl⟩)
      rw [lookup_cons_ne hk, ih hn.2 he]

/-- A run of updates with distinct keys leaves the same lookups in any order. -/
theorem get?_setAll_perm (d : PyDict α) {kvs kvs' : List (PyKey × α)} (hp : kvs.Perm kvs')
    (hn : (kvs.map Prod.fst).Nodup) (k : PyKey) : (d.setAll kvs).get? k = (d.setAll kvs').get? k := by
  rw [get?_setAll, get?_setAll, lookup_perm ((List.reverse_perm kvs).trans
    (hp.trans (List.reverse_perm kvs').symm)) (by rwa [List.map_reverse, List.nodup_reverse])]

@[simp] theorem keys_setAll (d : PyDict α) (kvs : List (PyKey × α)) :
    (d.setAll kvs).keys = d.keys ∪ (kvs.map Prod.fst).toFinset := by
  induction kvs generalizing d with
  | nil => simp
  | cons kv kvs ih =>
    rw [setAll_cons, ih, keys_set]
    ext k; simp [or_comm, or_left_comm]

end PyDict

/-! ## Sorting a set of keys -/

/-- The keys of a set `sorted` can order: at most one key, or all strings, or
all numbers. -/
def Sortable (s : Finset PyKey) : Prop :=
  s.card ≤ 1 ∨ (∀ k ∈ s, k.IsStr) ∨ (∀ k ∈ s, k.IsNum)

instance (s : Finset PyKey) : Decidable (Sortable s) := by unfold Sortable; infer_instance

/-- `sorted(s)` for a set of keys. -/
def pySorted (s : Finset PyKey) : Except PyExc (List PyKey) :=
  if Sortable s then .ok (s.sort (· ≤ ·)) else .error .typeError

theorem pySorted_of_sortable {s : Finset PyKey} (h : Sortable s) :
    pySorted s = .ok (s.sort (· ≤ ·)) := if_pos h

theorem pySorted_eq_ok {s : Finset PyKey} {l : List PyKey} (h : pySorted s = .ok l) :
    Sortable s ∧ l = s.sort (· ≤ ·) := by
  unfold pySorted at h
  split at h
  · next hs => exact ⟨hs, (Except.ok.inj h).symm⟩
  · cases h

/-- A set of string keys is sortable. -/
theorem sortable_of_isStr {s : Finset PyKey} (h : ∀ k ∈ s, k.IsStr) : Sortable s :=
  .inr (.inl h)

/-- A subset of a sortable set is sortable. -/
theorem Sortable.mono {s t : Finset PyKey} (ht : Sortable t) (hst : s ⊆ t) : Sortable s := by
  rcases ht with h | h | h
  · exact .inl ((Finset.card_le_card hst).trans h)
  · exact .inr (.inl fun k hk => h k (hst hk))
  · exact .inr (.inr fun k hk => h k (hst hk))

end DiagonBench.Python
