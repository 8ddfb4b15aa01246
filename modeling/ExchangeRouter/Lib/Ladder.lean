import ExchangeRouter.Lib.Dict
import Mathlib.Algebra.GroupWithZero.Basic
import Mathlib.Data.List.Sort
import Mathlib.Order.MinMax
import Mathlib.Order.RelClasses

/-!
# Price ladders

One side of an order book is a function from prices to quantities, zero where
there is no level.  `Best before depth side levels` says that `levels` are the
first `depth` levels of a side in the order `before`, which is `>` for bids and
`<` for asks.  A dictionary that holds exactly the non-zero quantities
represents a side; sorting it and cutting it gives the best levels.
-/
namespace ExchangeRouter.Lib

universe u v

variable {P : Type u} {Q : Type v}

/-- The first `depth` levels of a side, in order. -/
structure Best [Zero Q] (before : P → P → Prop) (depth : Nat) (side : P → Q)
    (levels : List (P × Q)) : Prop where
  sorted : levels.Pairwise fun a b => before a.1 b.1
  own : ∀ level ∈ levels, side level.1 = level.2 ∧ level.2 ≠ 0
  short : levels.length ≤ depth
  first : ∀ p, side p ≠ 0 → p ∈ levels.map Prod.fst ∨
    levels.length = depth ∧ ∀ level ∈ levels, before level.1 p

section update
variable [DecidableEq P]

/-- A level gets a new quantity. -/
def setLevel (side : P → Q) (level : P × Q) : P → Q :=
  fun p => if p = level.1 then level.2 else side p

def setLevels (side : P → Q) (levels : List (P × Q)) : P → Q := levels.foldl setLevel side

theorem setLevels_append (side : P → Q) (first second : List (P × Q)) :
    setLevels side (first ++ second) = setLevels (setLevels side first) second :=
  List.foldl_append

theorem setLevels_of_absent (side : P → Q) {levels : List (P × Q)} {p : P}
    (absent : p ∉ levels.map Prod.fst) : setLevels side levels p = side p := by
  induction levels generalizing side with
  | nil => rfl
  | cons level rest ih =>
    rw [List.map_cons, List.mem_cons, not_or] at absent
    rw [setLevels, List.foldl_cons, ← setLevels, ih _ absent.2, setLevel, if_neg absent.1]

/-- All entries for a price agree. -/
theorem setLevels_of_agreed (side : P → Q) {levels : List (P × Q)} {p : P} {q : Q}
    (listed : p ∈ levels.map Prod.fst) (agreed : ∀ level ∈ levels, level.1 = p → level.2 = q) :
    setLevels side levels p = q := by
  induction levels generalizing side with
  | nil => cases listed
  | cons level rest ih =>
    rw [setLevels, List.foldl_cons, ← setLevels]
    by_cases later : p ∈ rest.map Prod.fst
    · exact ih _ later fun other member => agreed other (List.mem_cons_of_mem level member)
    · have now : p = level.1 := by simpa [later] using listed
      rw [setLevels_of_absent _ later, setLevel, if_pos now]
      exact agreed level List.mem_cons_self now.symm

end update

namespace Dict
variable [DecidableEq P] [DecidableEq Q] [MulZeroClass Q]

/-- A dictionary holds the levels of a side, with each quantity multiplied. -/
def Represents (factor : Q) (d : Dict P Q) (side : P → Q) : Prop :=
  ∀ p, d.get? p = if side p = 0 then none else some (side p * factor)

theorem represents_empty (factor : Q) : (empty : Dict P Q).Represents factor fun _ => 0 :=
  fun _ => by simp

/-- A level of quantity zero is removed, any other one is stored. -/
def setLevel (factor : Q) (d : Dict P Q) (level : P × Q) : Dict P Q :=
  if level.2 = 0 then d.pop level.1 else d.set level.1 (level.2 * factor)

def setLevels (factor : Q) (d : Dict P Q) (levels : List (P × Q)) : Dict P Q :=
  levels.foldl (setLevel factor) d

theorem Represents.setLevel {factor : Q} {d : Dict P Q} {side : P → Q}
    (h : d.Represents factor side) (level : P × Q) :
    (d.setLevel factor level).Represents factor (Lib.setLevel side level) := by
  intro p
  unfold Dict.setLevel Lib.setLevel
  by_cases gone : level.2 = 0
  · rw [if_pos gone, get?_pop]
    by_cases same : p = level.1
    · simp [same, gone]
    · simp [same, h p]
  · rw [if_neg gone, get?_set]
    by_cases same : p = level.1
    · simp [same, gone]
    · simp [same, h p]

theorem Represents.setLevels {factor : Q} {d : Dict P Q} {side : P → Q}
    (h : d.Represents factor side) (levels : List (P × Q)) :
    (d.setLevels factor levels).Represents factor (Lib.setLevels side levels) := by
  induction levels generalizing d side with
  | nil => exact h
  | cons level rest ih => exact ih (h.setLevel level)

end Dict

section best
variable (before : P → P → Prop) [DecidableRel before]

/-- Sort the entries and cut the list. -/
def Dict.best (depth : Nat) (d : Dict P Q) : List (P × Q) :=
  (d.entries.insertionSort fun a b => ¬ before b.1 a.1).take depth

variable [IsStrictTotalOrder P before]

theorem pairwise_sorted (entries : List (P × Q)) (nodup : (entries.map Prod.fst).Nodup) :
    (entries.insertionSort fun a b => ¬ before b.1 a.1).Pairwise fun a b => before a.1 b.1 := by
  have total : Std.Total fun a b : P × Q => ¬ before b.1 a.1 :=
    ⟨fun a b => by
      by_contra both
      simp only [not_or, not_not] at both
      exact asymm_of before both.1 both.2⟩
  have trans : IsTrans (P × Q) fun a b => ¬ before b.1 a.1 :=
    ⟨fun a b c first second third => by
      rcases trichotomous_of before b.1 c.1 with earlier | same | later
      · exact first (trans_of before earlier third)
      · exact first (same ▸ third)
      · exact second later⟩
  have weak := List.pairwise_insertionSort (fun a b : P × Q => ¬ before b.1 a.1) entries
  have distinct : (entries.insertionSort fun a b => ¬ before b.1 a.1).Pairwise
      fun a b => a.1 ≠ b.1 := by
    have perm := (List.perm_insertionSort (fun a b : P × Q => ¬ before b.1 a.1) entries).map Prod.fst
    exact List.pairwise_map.mp (perm.nodup_iff.mpr nodup)
  refine (weak.and distinct).imp fun {a b} both => ?_
  rcases trichotomous_of before a.1 b.1 with earlier | same | later
  · exact earlier
  · exact absurd same both.2
  · exact absurd later both.1

/-- What is cut off comes after what is kept. -/
theorem Dict.mem_best_or (depth : Nat) (d : Dict P Q) {entry : P × Q} (member : entry ∈ d.entries) :
    entry ∈ d.best before depth ∨ (d.best before depth).length = depth ∧
      ∀ level ∈ d.best before depth, before level.1 entry.1 := by
  have sorted := pairwise_sorted before d.entries d.nodupKeys
  have inside : entry ∈ d.entries.insertionSort fun a b => ¬ before b.1 a.1 :=
    List.mem_insertionSort _ |>.mpr member
  rw [← List.take_append_drop depth (d.entries.insertionSort fun a b => ¬ before b.1 a.1)]
    at sorted inside
  rcases List.mem_append.mp inside with kept | cut
  · exact Or.inl kept
  · refine Or.inr ⟨?_, fun level kept => (List.pairwise_append.mp sorted).2.2 level kept entry cut⟩
    have long := List.length_pos_of_mem cut
    rw [List.length_drop] at long
    rw [Dict.best, List.length_take]
    omega

variable [DecidableEq P] [DecidableEq Q] [MulZeroClass Q] [NoZeroDivisors Q]

/-- The cut of a dictionary is the top of the side it represents. -/
theorem Dict.Represents.best {factor : Q} (nonzero : factor ≠ 0) {d : Dict P Q} {side : P → Q}
    (h : d.Represents factor side) (depth : Nat) :
    Best before depth (fun p => side p * factor) (d.best before depth) where
  sorted := (pairwise_sorted before d.entries d.nodupKeys).sublist (List.take_sublist _ _)
  own := fun level kept => by
    have member : level ∈ d.entries := (List.mem_insertionSort _).mp (List.mem_of_mem_take kept)
    have found := (d.get?_eq_some_iff level.1 level.2).mpr member
    rw [h] at found
    split at found
    · cases found
    · rename_i present
      have quantity := Option.some.inj found
      exact ⟨quantity, quantity ▸ mul_ne_zero present nonzero⟩
  short := List.length_take_le _ _
  first := fun p present => by
    have found : d.get? p = some (side p * factor) := by
      rw [h, if_neg fun zero => present (by rw [zero, zero_mul])]
    have member := (d.get?_eq_some_iff _ _).mp found
    exact (d.mem_best_or before depth member).imp_left fun kept => List.mem_map.mpr ⟨_, kept, rfl⟩

end best

/-! ## The best level alone -/

/-- A level of a side that comes before all others. -/
structure Leads [Zero Q] (before : P → P → Prop) (side : P → Q) (level : P × Q) : Prop where
  own : side level.1 = level.2 ∧ level.2 ≠ 0
  first : ∀ p, side p ≠ 0 → p = level.1 ∨ before level.1 p

section leads
variable [LinearOrder P] [DecidableEq Q] [MulZeroClass Q] [NoZeroDivisors Q] {factor : Q}
  {d : Dict P Q} {side : P → Q}

omit [NoZeroDivisors Q] in
theorem Dict.Represents.mem_keys (h : d.Represents factor side) (p : P) :
    p ∈ d.keys ↔ side p ≠ 0 := by
  rw [← d.get?_isSome_iff, h]
  split <;> simp_all

theorem Dict.Represents.own (nonzero : factor ≠ 0) (h : d.Represents factor side) {p : P} {q : Q}
    (found : d.get? p = some q) : side p * factor = q ∧ q ≠ 0 := by
  rw [h] at found
  split at found
  · cases found
  · rename_i present
    cases found
    exact ⟨rfl, mul_ne_zero present nonzero⟩

theorem Dict.Represents.leads_max (nonzero : factor ≠ 0) (h : d.Represents factor side) {p : P}
    {q : Q} (top : d.keys.max? = some p) (found : d.get? p = some q) :
    Leads (· > ·) (fun p => side p * factor) (p, q) where
  own := h.own nonzero found
  first := fun other present => by
    have listed := (h.mem_keys other).mpr fun zero => present (by simp [zero])
    have below := (List.max?_eq_some_iff.mp top).2 other listed
    exact below.eq_or_lt

theorem Dict.Represents.leads_min (nonzero : factor ≠ 0) (h : d.Represents factor side) {p : P}
    {q : Q} (top : d.keys.min? = some p) (found : d.get? p = some q) :
    Leads (· < ·) (fun p => side p * factor) (p, q) where
  own := h.own nonzero found
  first := fun other present => by
    have listed := (h.mem_keys other).mpr fun zero => present (by simp [zero])
    have above := (List.min?_eq_some_iff.mp top).2 other listed
    exact above.eq_or_lt.imp_left Eq.symm

end leads

end ExchangeRouter.Lib
