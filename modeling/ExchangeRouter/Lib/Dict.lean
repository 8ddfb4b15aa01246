import Mathlib.Data.List.Induction
import Mathlib.Data.List.Nodup

/-!
# Insertion-ordered dictionaries

A dictionary keeps its entries in the order in which their keys were first
inserted: assigning to a present key keeps its position, a new key goes last,
and popping a key closes the gap.  Key uniqueness is a field, so every
dictionary that can be built has it.  Mathlib's `AList` reorders on insertion,
which is why this type is separate.
-/
namespace ExchangeRouter.Lib

universe u v w

structure Dict (K : Type u) (V : Type v) where
  entries : List (K × V)
  nodupKeys : (entries.map Prod.fst).Nodup
  deriving DecidableEq

namespace Dict
variable {K : Type u} {V : Type v} {W : Type w}

def empty : Dict K V := ⟨[], List.nodup_nil⟩

def keys (d : Dict K V) : List K := d.entries.map Prod.fst

def values (d : Dict K V) : List V := d.entries.map Prod.snd

def isEmpty (d : Dict K V) : Bool := d.entries.isEmpty

variable [DecidableEq K]

def get? (d : Dict K V) (k : K) : Option V :=
  (d.entries.find? fun e => e.1 = k).map Prod.snd

def getD (d : Dict K V) (k : K) (fallback : V) : V := (d.get? k).getD fallback

/-- Assignment on the entry list: replace in place, or append. -/
def assign (k : K) (v : V) : List (K × V) → List (K × V)
  | [] => [(k, v)]
  | e :: rest => if e.1 = k then (k, v) :: rest else e :: assign k v rest

theorem mem_assign_fst (k x : K) (v : V) (l : List (K × V)) :
    x ∈ (assign k v l).map Prod.fst ↔ x = k ∨ x ∈ l.map Prod.fst := by
  induction l with
  | nil => simp [assign]
  | cons e rest ih =>
    by_cases h : e.1 = k
    · simp [assign, h]
    · simp only [assign, h, if_false, List.map_cons, List.mem_cons, ih]
      tauto

theorem nodup_assign (k : K) (v : V) {l : List (K × V)} (h : (l.map Prod.fst).Nodup) :
    ((assign k v l).map Prod.fst).Nodup := by
  induction l with
  | nil => simp [assign]
  | cons e rest ih =>
    have split := List.nodup_cons.mp h
    by_cases he : e.1 = k
    · simpa [assign, he] using h
    · simp only [assign, he, if_false, List.map_cons]
      refine List.nodup_cons.mpr ⟨fun hm => ?_, ih split.2⟩
      rcases (mem_assign_fst k e.1 v rest).mp hm with same | inside
      · exact he same
      · exact split.1 inside

def set (d : Dict K V) (k : K) (v : V) : Dict K V :=
  ⟨assign k v d.entries, nodup_assign k v d.nodupKeys⟩

def pop (d : Dict K V) (k : K) : Dict K V :=
  ⟨d.entries.filter fun e => e.1 ≠ k,
    d.nodupKeys.sublist (List.filter_sublist.map Prod.fst)⟩

omit [DecidableEq K] in
/-- Two entries under one key are the same entry. -/
theorem value_unique (d : Dict K V) {k : K} {v w : V}
    (hv : (k, v) ∈ d.entries) (hw : (k, w) ∈ d.entries) : v = w := by
  have same := List.inj_on_of_nodup_map d.nodupKeys hv hw rfl
  exact congrArg Prod.snd same

theorem get?_eq_some_iff (d : Dict K V) (k : K) (v : V) :
    d.get? k = some v ↔ (k, v) ∈ d.entries := by
  unfold get?
  constructor
  · intro h
    obtain ⟨e, found, rfl⟩ := Option.map_eq_some_iff.mp h
    have key : e.1 = k := by simpa using List.find?_some found
    subst key
    exact List.mem_of_find?_eq_some found
  · intro h
    cases found : d.entries.find? fun e => e.1 = k with
    | none =>
      have absent := List.find?_eq_none.mp found (k, v) h
      simp at absent
    | some e =>
      have key : e.1 = k := by simpa using List.find?_some found
      have member : (k, e.2) ∈ d.entries := by
        rw [← key]
        exact List.mem_of_find?_eq_some found
      rw [Option.map_some, d.value_unique member h]

theorem get?_isSome_iff (d : Dict K V) (k : K) : (d.get? k).isSome ↔ k ∈ d.keys := by
  rw [Option.isSome_iff_exists]
  simp [get?_eq_some_iff, keys]

theorem get?_eq_none_iff (d : Dict K V) (k : K) : d.get? k = none ↔ k ∉ d.keys := by
  rw [← get?_isSome_iff, Option.not_isSome_iff_eq_none]

theorem mem_keys_of_get? {d : Dict K V} {k : K} {v : V} (h : d.get? k = some v) :
    k ∈ d.keys := (d.get?_isSome_iff k).mp (by simp [h])

theorem mem_values_iff (d : Dict K V) (v : V) : v ∈ d.values ↔ ∃ k, d.get? k = some v := by
  simp [values, get?_eq_some_iff]

@[simp] theorem get?_empty (k : K) : (empty : Dict K V).get? k = none := rfl

omit [DecidableEq K] in
@[simp] theorem keys_empty : (empty : Dict K V).keys = [] := rfl

@[simp] theorem mem_keys_set (d : Dict K V) (k x : K) (v : V) :
    x ∈ (d.set k v).keys ↔ x = k ∨ x ∈ d.keys := mem_assign_fst k x v d.entries

theorem mem_assign (k : K) (v : V) {l : List (K × V)} (h : (l.map Prod.fst).Nodup)
    (x : K) (y : V) :
    (x, y) ∈ assign k v l ↔ (x = k ∧ y = v) ∨ (x ≠ k ∧ (x, y) ∈ l) := by
  induction l with
  | nil => simp [assign]
  | cons e rest ih =>
    have split := List.nodup_cons.mp h
    by_cases he : e.1 = k
    · have gone : ∀ z, (k, z) ∉ rest := fun z hz =>
        split.1 (List.mem_map.mpr ⟨(k, z), hz, he.symm⟩)
      simp only [assign, he, if_true, List.mem_cons, Prod.mk.injEq]
      constructor
      · rintro (new | old)
        · exact Or.inl new
        · exact Or.inr ⟨fun same => gone y (same ▸ old), Or.inr old⟩
      · rintro (new | ⟨differ, old | old⟩)
        · exact Or.inl new
        · exact absurd (congrArg Prod.fst old |>.trans he) differ
        · exact Or.inr old
    · simp only [assign, he, if_false, List.mem_cons, ih split.2]
      constructor
      · rintro (old | new | ⟨differ, old⟩)
        · exact Or.inr ⟨fun same => he (by rw [← old]; exact same), Or.inl old⟩
        · exact Or.inl new
        · exact Or.inr ⟨differ, Or.inr old⟩
      · rintro (new | ⟨differ, old | old⟩)
        · exact Or.inr (Or.inl new)
        · exact Or.inl old
        · exact Or.inr (Or.inr ⟨differ, old⟩)

theorem get?_set (d : Dict K V) (k x : K) (v : V) :
    (d.set k v).get? x = if x = k then some v else d.get? x := by
  apply Option.ext
  intro y
  rw [get?_eq_some_iff]
  change (x, y) ∈ assign k v d.entries ↔ _
  rw [mem_assign k v d.nodupKeys]
  by_cases h : x = k
  · simp [h, eq_comm]
  · simp [h, get?_eq_some_iff]

@[simp] theorem get?_set_self (d : Dict K V) (k : K) (v : V) :
    (d.set k v).get? k = some v := by simp [get?_set]

theorem get?_set_ne (d : Dict K V) {k x : K} (v : V) (h : x ≠ k) :
    (d.set k v).get? x = d.get? x := by simp [get?_set, h]

theorem get?_pop (d : Dict K V) (k x : K) :
    (d.pop k).get? x = if x = k then none else d.get? x := by
  apply Option.ext
  intro y
  rw [get?_eq_some_iff]
  by_cases h : x = k
  · simp [pop, h]
  · simp [pop, h, get?_eq_some_iff]

@[simp] theorem get?_pop_self (d : Dict K V) (k : K) : (d.pop k).get? k = none := by
  simp [get?_pop]

theorem get?_pop_ne (d : Dict K V) {k x : K} (h : x ≠ k) :
    (d.pop k).get? x = d.get? x := by simp [get?_pop, h]

/-- What is found after a removal was there, at another key. -/
theorem get?_of_pop {d : Dict K V} {k x : K} {v : V} (found : (d.pop k).get? x = some v) :
    x ≠ k ∧ d.get? x = some v := by
  rw [get?_pop] at found
  split at found
  · cases found
  · exact ⟨‹_›, found⟩

@[simp] theorem mem_keys_pop (d : Dict K V) (k x : K) :
    x ∈ (d.pop k).keys ↔ x ≠ k ∧ x ∈ d.keys := by
  rw [← get?_isSome_iff, ← get?_isSome_iff, get?_pop]
  by_cases h : x = k <;> simp [h]

theorem getD_set (d : Dict K V) (k x : K) (v fallback : V) :
    (d.set k v).getD x fallback = if x = k then v else d.getD x fallback := by
  by_cases h : x = k <;> simp [getD, get?_set, h]

theorem getD_pop (d : Dict K V) (k x : K) (fallback : V) :
    (d.pop k).getD x fallback = if x = k then fallback else d.getD x fallback := by
  by_cases h : x = k <;> simp [getD, get?_pop, h]

theorem assign_of_notMem (k : K) (v : V) {l : List (K × V)} (h : k ∉ l.map Prod.fst) :
    assign k v l = l ++ [(k, v)] := by
  induction l with
  | nil => rfl
  | cons e rest ih =>
    simp only [List.map_cons, List.mem_cons, not_or] at h
    simp [assign, Ne.symm h.1, ih h.2]

/-- A new key goes last. -/
theorem values_set_new (d : Dict K V) {k : K} (h : d.get? k = none) (v : V) :
    (d.set k v).values = d.values ++ [v] := by
  have absent : k ∉ d.entries.map Prod.fst := (d.get?_eq_none_iff k).mp h
  simp [values, set, assign_of_notMem k v absent]

theorem keys_set_new (d : Dict K V) {k : K} (h : d.get? k = none) (v : V) :
    (d.set k v).keys = d.keys ++ [k] := by
  have absent : k ∉ d.entries.map Prod.fst := (d.get?_eq_none_iff k).mp h
  simp [keys, set, assign_of_notMem k v absent]

theorem assign_fst_of_mem (k : K) (v : V) {l : List (K × V)} (h : k ∈ l.map Prod.fst) :
    (assign k v l).map Prod.fst = l.map Prod.fst := by
  induction l with
  | nil => cases h
  | cons e rest ih =>
    by_cases own : e.1 = k
    · simp [assign, own]
    · have later : k ∈ rest.map Prod.fst := by simpa [Ne.symm own] using h
      simp [assign, own, ih later]

/-- A known key keeps its place. -/
theorem keys_set_known (d : Dict K V) {k : K} (h : k ∈ d.keys) (v : V) : (d.set k v).keys = d.keys :=
  assign_fst_of_mem k v h

/-- Keys that are assigned in the order of a list stay in that order. -/
theorem keys_set_sublist (d : Dict K V) {order : List K} (h : d.keys.Sublist order) (k : K) (v : V) :
    (d.set k v).keys.Sublist (order ++ [k]) := by
  by_cases known : k ∈ d.keys
  · rw [keys_set_known d known v]
    exact h.trans (List.sublist_append_left _ _)
  · rw [keys_set_new d ((get?_eq_none_iff d k).mpr known) v]
    exact h.append (List.Sublist.refl _)

/-- Assignments one after the other: each key has what it was assigned, the others stay. -/
theorem get?_foldl_set (f : W → V) (d : Dict K V) {items : List (K × W)}
    (distinct : (items.map Prod.fst).Nodup) (k : K) :
    (items.foldl (fun d item => d.set item.1 (f item.2)) d).get? k =
      ((items.find? fun item => item.1 = k).map fun item => f item.2).or (d.get? k) := by
  induction items generalizing d with
  | nil => rfl
  | cons item items ih =>
    obtain ⟨fresh, rest⟩ := List.nodup_cons.mp distinct
    rw [List.foldl_cons, ih _ rest]
    by_cases own : item.1 = k
    · have later : items.find? (fun item => item.1 = k) = none := by
        refine List.find?_eq_none.mpr fun other member same => fresh ?_
        rw [own, ← of_decide_eq_true same]
        exact List.mem_map_of_mem member
      rw [later, List.find?_cons_of_pos (by simpa using own)]
      simp [own]
    · rw [List.find?_cons_of_neg (by simpa using own), get?_set_ne d _ (Ne.symm own)]

/-- Popping a key takes its value, and no other, out of a count. -/
theorem countP_values_pop (d : Dict K V) {k : K} {v : V} (h : d.get? k = some v) (p : V → Bool) :
    (d.pop k).values.countP p + (if p v then 1 else 0) = d.values.countP p := by
  have member := (d.get?_eq_some_iff k v).mp h
  obtain ⟨before, after, shape⟩ := List.append_of_mem member
  have nodup := d.nodupKeys
  simp only [shape, List.map_append, List.map_cons, List.nodup_append, List.nodup_cons,
    List.mem_map, List.mem_cons] at nodup
  obtain ⟨-, ⟨notAfter, -⟩, apart⟩ := nodup
  have keepBefore : before.filter (fun e => e.1 ≠ k) = before :=
    List.filter_eq_self.mpr fun e inside => by
      simpa using apart e.1 ⟨e, inside, rfl⟩ k (Or.inl rfl)
  have keepAfter : after.filter (fun e => e.1 ≠ k) = after :=
    List.filter_eq_self.mpr fun e inside => by
      simpa using fun same => notAfter ⟨e, inside, same⟩
  simp only [values, pop, shape, List.filter_append, List.filter_cons, keepBefore, keepAfter]
  simp [List.countP_cons]
  omega

theorem filter_assign (k : K) (v : V) (l : List (K × V)) :
    (assign k v l).filter (fun e => e.1 ≠ k) = l.filter fun e => e.1 ≠ k := by
  induction l with
  | nil => simp [assign]
  | cons e rest ih =>
    by_cases h : e.1 = k
    · simp [assign, h]
    · simp only [assign, h, if_false, List.filter_cons, ih]

theorem pop_set (d : Dict K V) (k : K) (v : V) : (d.set k v).pop k = d.pop k := by
  have same := filter_assign k v d.entries
  simp only [pop, set, same]

/-- Counting after an assignment to a present key. -/
theorem countP_values_set (d : Dict K V) {k : K} {old : V} (h : d.get? k = some old) (v : V)
    (p : V → Bool) : (d.set k v).values.countP p + (if p old then 1 else 0) =
      d.values.countP p + if p v then 1 else 0 := by
  have before := d.countP_values_pop h p
  have after := (d.set k v).countP_values_pop (d.get?_set_self k v) p
  rw [pop_set] at after
  omega

theorem countP_values_set_new (d : Dict K V) {k : K} (h : d.get? k = none) (v : V) (p : V → Bool) :
    (d.set k v).values.countP p = d.values.countP p + if p v then 1 else 0 := by
  rw [values_set_new d h, List.countP_append, List.countP_singleton]

theorem isEmpty_iff (d : Dict K V) : d.isEmpty ↔ ∀ k, d.get? k = none := by
  constructor
  · intro h k
    have nil : d.entries = [] := by simpa [isEmpty] using h
    simp [get?, nil]
  · intro h
    rw [isEmpty, List.isEmpty_iff]
    refine List.eq_nil_iff_forall_not_mem.mpr fun e member => ?_
    have found := (d.get?_eq_some_iff e.1 e.2).mpr member
    rw [h e.1] at found
    cases found

theorem isEmpty_eq_false_of_get? {d : Dict K V} {k : K} {v : V} (h : d.get? k = some v) :
    d.isEmpty = false := by
  refine Bool.eq_false_iff.mpr fun isEmpty => ?_
  rw [(d.isEmpty_iff.mp isEmpty) k] at h
  cases h

section Collect
variable {R : Type*} {key : R → K} {items : List R}

/-- A comprehension: an item replaces the earlier ones of its key. -/
def collect (key : R → K) (value : R → V) (items : List R) : Dict K V :=
  items.foldl (fun d x => d.set (key x) (value x)) empty

theorem get?_collect (value : R → V) (items : List R) (k : K) :
    (collect key value items).get? k =
      (items.reverse.find? fun x => key x = k).map value := by
  induction items using List.reverseRecOn with
  | nil => rfl
  | append_singleton items x ih =>
    rw [collect, List.foldl_append, List.reverse_append]
    simp only [List.foldl_cons, List.foldl_nil, get?_set, List.reverse_singleton,
      List.singleton_append, List.find?_cons]
    by_cases own : key x = k
    · simp [own]
    · simp only [own, decide_false, Ne.symm own, if_false]
      exact ih

/-- The item of a key is found, if items of one key are the same. -/
theorem get?_collect_of_mem (value : R → V) (distinct : ∀ y ∈ items, ∀ x ∈ items,
    key y = key x → y = x) {x : R} (member : x ∈ items) :
    (collect key value items).get? (key x) = some (value x) := by
  rw [get?_collect]
  cases found : items.reverse.find? fun y => key y = key x with
  | none =>
    have other := List.find?_eq_none.mp found x (List.mem_reverse.mpr member)
    simp at other
  | some y =>
    have sameKey : key y = key x := by simpa using List.find?_some found
    rw [distinct y (List.mem_reverse.mp (List.mem_of_find?_eq_some found)) x member sameKey]
    rfl

theorem get?_collect_eq_none (value : R → V) {k : K} (none : ∀ x ∈ items, key x ≠ k) :
    (collect key value items).get? k = Option.none := by
  rw [get?_collect, List.find?_eq_none.mpr, Option.map_none]
  intro x member
  simpa using none x (List.mem_reverse.mp member)

/-- Collecting keeps one of each item, when items of one key are the same. -/
theorem values_collect_perm {l : List R} (distinct : (l.map key).Nodup)
    (same : ∀ x, x ∈ items ↔ x ∈ l) : (collect key id items).values.Perm l := by
  have entry : ∀ {k x}, (collect key id items).get? k = some x → key x = k ∧ x ∈ l := by
    intro k x found
    rw [get?_collect, Option.map_id_apply] at found
    exact ⟨by simpa using List.find?_some found,
      (same x).mp (List.mem_reverse.mp (List.mem_of_find?_eq_some found))⟩
  have own : (collect key id items).values.map key = (collect key id items).keys := by
    rw [values, keys, List.map_map]
    refine List.map_congr_left fun e member => ?_
    exact (entry (((collect key id items).get?_eq_some_iff e.1 e.2).mpr member)).1
  have nodup : (collect key id items).values.Nodup := by
    refine List.Nodup.of_map key ?_
    rw [own]
    exact (collect key id items).nodupKeys
  refine (List.perm_ext_iff_of_nodup nodup (List.Nodup.of_map key distinct)).mpr fun x => ?_
  rw [mem_values_iff]
  constructor
  · rintro ⟨k, found⟩
    exact (entry found).2
  · intro member
    refine ⟨key x, get?_collect_of_mem id ?_ ((same x).mpr member)⟩
    intro y inside z inside' sameKey
    exact List.inj_on_of_nodup_map distinct ((same y).mp inside) ((same z).mp inside') sameKey

end Collect

end Dict
end ExchangeRouter.Lib
