import Mathlib.Data.List.Dedup
import Mathlib.Data.List.Perm.Basic

/-!
# Support — Go maps and their iteration order

A Go `map[K]V` holds one value per key and has no order: `for k, v := range m` visits the
entries in an order the runtime picks afresh at every loop.  `GoMap` is a map as the list of
its entries, one per key (`nodup`), and `RangeOrder` is the runtime's choice: for each `range`
loop of a run, some permutation of the entries.  A result about code that ranges over
a map is stated for every `RangeOrder`, so it holds whatever order Go picks.

* `GoMap.lookup_eq_some_iff`: on entries with one value per key, a lookup finds exactly the
  entries.
* `GoMap.lookup_foldl_insertIfAbsent`: the `if _, ok := m[k]; !ok { m[k] = v }` idiom over a
  list keeps the first value given for each key.
* `GoMap.lookup_perm`: two listings of one map look up alike, so the idiom's outcome does not
  depend on the order a map is ranged over.
-/

namespace NetworkOperator

/-- A Go map: its entries, one per key. -/
structure GoMap (κ ν : Type) where
  entries : List (κ × ν)
  nodup : (entries.map Prod.fst).Nodup

namespace GoMap

variable {κ ν : Type} [DecidableEq κ]

/-- `make(map[K]V)`. -/
def empty : GoMap κ ν := ⟨[], List.nodup_nil⟩

/-- The keys of `m`. -/
def keys (m : GoMap κ ν) : List κ := m.entries.map Prod.fst

/-- `v, ok := m[k]`, with `ok` as `isSome`. -/
def lookup (m : GoMap κ ν) (k : κ) : Option ν := m.entries.lookup k

/-- `if _, ok := m[k]; !ok { m[k] = v }`: set `k` only when it is absent. -/
def insertIfAbsent (m : GoMap κ ν) (k : κ) (v : ν) : GoMap κ ν :=
  if h : (m.lookup k).isSome then m
  else ⟨m.entries ++ [(k, v)], by
    simp only [lookup, List.lookup_isSome_iff, beq_iff_eq, not_exists, not_and] at h
    simpa [List.nodup_append, m.nodup] using fun x hx => h (k, x) hx rfl⟩

/-- The fold the `range` loop performs: `insertIfAbsent` for each pair of `l` in turn. -/
def insertAllIfAbsent (m : GoMap κ ν) (l : List (κ × ν)) : GoMap κ ν :=
  l.foldl (fun m p => m.insertIfAbsent p.1 p.2) m

@[simp] theorem lookup_empty (k : κ) : (empty : GoMap κ ν).lookup k = none := rfl

theorem lookup_insertIfAbsent (m : GoMap κ ν) (k k' : κ) (v : ν) :
    (m.insertIfAbsent k v).lookup k' = (m.lookup k').or (if k' = k then some v else none) := by
  unfold insertIfAbsent
  split
  · rename_i h
    by_cases e : k' = k
    · subst e; obtain ⟨w, hw⟩ := Option.isSome_iff_exists.mp h; simp [hw]
    · simp [e]
  · simp only [lookup, List.lookup_append, List.lookup_cons, List.lookup_nil]
    by_cases e : k' = k
    · simp [e]
    · simp [e, beq_eq_false_iff_ne.mpr e]

/-- **First value wins**: after the idiom over `l`, a key holds its value before the loop, or
else the first value `l` gives it. -/
theorem lookup_foldl_insertIfAbsent (l : List (κ × ν)) (m : GoMap κ ν) (k : κ) :
    (m.insertAllIfAbsent l).lookup k = (m.lookup k).or (l.lookup k) := by
  induction l generalizing m with
  | nil => simp [insertAllIfAbsent]
  | cons p l ih =>
    obtain ⟨k', v⟩ := p
    simp only [insertAllIfAbsent, List.foldl_cons] at ih ⊢
    rw [ih, lookup_insertIfAbsent, List.lookup_cons]
    by_cases e : k = k'
    · simp [e, Option.or_assoc]
    · simp [e, beq_eq_false_iff_ne.mpr e]

/-- On entries with one value per key, a lookup finds exactly the entries. -/
theorem lookup_eq_some_iff {l : List (κ × ν)} (hl : (l.map Prod.fst).Nodup) (k : κ) (v : ν) :
    l.lookup k = some v ↔ (k, v) ∈ l := by
  induction l with
  | nil => simp
  | cons p l ih =>
    obtain ⟨k', v'⟩ := p
    simp only [List.map_cons, List.nodup_cons, List.mem_map] at hl
    rw [List.lookup_cons, List.mem_cons, ← ih hl.2]
    by_cases e : k = k'
    · subst e
      have : l.lookup k = none := by
        simpa using fun p hp (hk : k = p.1) => hl.1 ⟨p, hp, hk.symm⟩
      simp [this, eq_comm]
    · simp [e, beq_eq_false_iff_ne.mpr e]

/-- Two listings of one map look up alike. -/
theorem lookup_perm {l₁ l₂ : List (κ × ν)} (h : l₁.Perm l₂) (hl : (l₂.map Prod.fst).Nodup)
    (k : κ) : l₁.lookup k = l₂.lookup k := by
  have hl₁ : (l₁.map Prod.fst).Nodup := (h.map Prod.fst).nodup_iff.mpr hl
  cases e : l₂.lookup k with
  | none =>
    simp only [List.lookup_eq_none_iff] at e ⊢
    exact fun p hp => e p (h.mem_iff.mp hp)
  | some v => exact (lookup_eq_some_iff hl₁ k v).mpr (h.mem_iff.mpr ((lookup_eq_some_iff hl k v).mp e))

theorem mem_entries_iff (m : GoMap κ ν) (k : κ) (v : ν) : (k, v) ∈ m.entries ↔ m.lookup k = some v :=
  (lookup_eq_some_iff m.nodup k v).symm

end GoMap

/-- The order in which each `range` loop over a map visits its entries, the loops of a run told
apart by an index of type `ι`: a permutation of the entries, picked by the runtime. -/
structure RangeOrder (ι κ ν : Type) where
  order : ι → List (κ × ν) → List (κ × ν)
  perm : ∀ i l, (order i l).Perm l

/-! ### Slices -/

/-- Writing back the element a slice already holds leaves it as it was. -/
theorem set_eq_self_of_getElem? {α : Type} {l : List α} {i : Nat} {a : α} (h : l[i]? = some a) :
    l.set i a = l := by
  apply List.ext_getElem?
  intro j
  rw [List.getElem?_set]
  split
  · subst_vars; simp [h, (List.getElem?_eq_some_iff.mp h).1]
  · rfl

end NetworkOperator
