import ExchangeRouter.Lib.Ladder
import Mathlib.Data.List.Perm.Subperm

/-!
# Ladders seen through a scope

A sender keeps the levels of a side sorted and reports only the first `n` of
them: what is in the scope, comes into it or is deleted in it, but not what is
pushed out of it.  A receiver that stores what it is sent holds every level of
the scope, and also the levels that were pushed out and have not been back.
Once such a level is deleted it is a phantom.
-/
namespace ExchangeRouter.Lib

universe u v

variable {P : Type u} {Q : Type v} {before : P → P → Prop}

section ahead
variable [DecidableRel before]

/-- The number of levels that are better than a price. -/
def ahead (before : P → P → Prop) [DecidableRel before] (levels : List (P × Q)) (p : P) : Nat :=
  levels.countP fun level => before level.1 p

/-- The levels that are better than a price come first. -/
theorem take_of_le_ahead [IsTrans P before] {levels : List (P × Q)}
    (sorted : levels.Pairwise fun a b => before a.1 b.1) {p : P} {depth : Nat}
    (deep : depth ≤ ahead before levels p) : (levels.take depth).length = depth ∧
      ∀ level ∈ levels.take depth, before level.1 p := by
  refine ⟨List.length_take_of_le (deep.trans List.countP_le_length), ?_⟩
  induction levels generalizing depth with
  | nil => simp
  | cons a rest ih =>
    obtain ⟨first, sorted⟩ := List.pairwise_cons.mp sorted
    cases depth with
    | zero => simp
    | succ depth =>
      have better : before a.1 p := by
        by_contra worse
        have behind : ∀ b ∈ rest, ¬ before b.1 p := fun b member earlier =>
          worse (trans_of before (first b member) earlier)
        have none : ahead before (a :: rest) p = 0 := by
          refine List.countP_eq_zero.mpr fun b member => ?_
          rcases List.mem_cons.mp member with rfl | later
          · simpa using worse
          · simpa using behind b later
        omega
      have deep' : depth ≤ ahead before rest p := by
        rw [ahead, List.countP_cons_of_pos (by simpa using better)] at deep
        exact Nat.le_of_succ_le_succ deep
      intro level member
      rcases List.mem_cons.mp member with rfl | later
      · exact better
      · exact ih sorted deep' level later

theorem le_ahead_of_take {levels : List (P × Q)} {p : P} {depth : Nat}
    (full : (levels.take depth).length = depth)
    (better : ∀ level ∈ levels.take depth, before level.1 p) : depth ≤ ahead before levels p := by
  have all : (levels.take depth).countP (fun level => before level.1 p) = depth := by
    rw [List.countP_eq_length.mpr fun level member => by simpa using better level member, full]
  rw [← all]
  exact (List.take_sublist depth levels).countP_le

end ahead

/-- The levels of one side, best first. -/
structure Side (before : P → P → Prop) (Q : Type v) [Zero Q] where
  levels : List (P × Q)
  sorted : levels.Pairwise fun a b => before a.1 b.1
  present : ∀ level ∈ levels, level.2 ≠ 0

variable [Zero Q]

theorem Best.level_mem {depth : Nat} {side : P → Q} {levels : List (P × Q)}
    (h : Best before depth side levels) {p : P} (shown : p ∈ levels.map Prod.fst) :
    (p, side p) ∈ levels := by
  obtain ⟨level, member, rfl⟩ := List.mem_map.mp shown
  rw [(h.own level member).1]
  exact member

section unique
variable [IsStrictTotalOrder P before] {depth : Nat} {side : P → Q} {first second : List (P × Q)}

theorem Best.nodup (h : Best before depth side first) : first.Nodup :=
  h.sorted.imp fun {a b} earlier same => by
    rw [same] at earlier
    exact irrefl_of before b.1 earlier

theorem Best.mem_of_mem (h : Best before depth side first) (h' : Best before depth side second)
    {level : P × Q} (member : level ∈ first) : level ∈ second := by
  obtain ⟨quantity, present⟩ := h.own level member
  by_contra absent
  -- all of the second list comes before the level, so it is in the first list too
  obtain ⟨full, ahead⟩ := (h'.first level.1 (quantity ▸ present)).resolve_left fun shown =>
    absent (by simpa [quantity] using h'.level_mem shown)
  have inside : second ⊆ first := fun x shown => by
    obtain ⟨own, present'⟩ := h'.own x shown
    rcases h.first x.1 (own ▸ present') with found | ⟨-, behind⟩
    · simpa [own] using h.level_mem found
    · exact absurd (behind level member) (asymm_of before (ahead x shown))
  have distinct : (level :: second).Nodup := List.nodup_cons.mpr ⟨absent, h'.nodup⟩
  have more : (level :: second).length ≤ first.length :=
    (distinct.subperm (List.cons_subset.mpr ⟨member, inside⟩)).length_le
  have short := h.short
  rw [List.length_cons] at more
  omega

/-- The best levels of a side are determined. -/
theorem Best.unique (h : Best before depth side first) (h' : Best before depth side second) :
    first = second := by
  have irreflexive : Std.Irrefl fun a b : P × Q => before a.1 b.1 :=
    ⟨fun a => irrefl_of before a.1⟩
  exact List.Pairwise.eq_of_mem_iff h.sorted h'.sorted fun level =>
    ⟨h.mem_of_mem h', h'.mem_of_mem h⟩

end unique

namespace Side

def empty : Side before Q := ⟨[], List.Pairwise.nil, fun _ member => by cases member⟩

/-- The first levels of a side, and their prices. -/
def top (side : Side before Q) (n : Nat) : List (P × Q) := side.levels.take n

def scope (side : Side before Q) (n : Nat) : List P := (side.top n).map Prod.fst

@[simp] theorem top_empty (n : Nat) : (empty : Side before Q).top n = [] := List.take_nil

@[simp] theorem scope_empty (n : Nat) : (empty : Side before Q).scope n = [] := by simp [scope]

variable [DecidableEq P]

/-- The quantity at a price, zero where there is no level. -/
def quantity (side : Side before Q) (p : P) : Q :=
  ((side.levels.find? fun level => level.1 = p).map Prod.snd).getD 0

theorem mem_levels_of_quantity {side : Side before Q} {p : P} (level : side.quantity p ≠ 0) :
    (p, side.quantity p) ∈ side.levels := by
  unfold quantity at level ⊢
  cases found : side.levels.find? fun level => level.1 = p with
  | none => simp [found] at level
  | some own =>
    have price : own.1 = p := by simpa using List.find?_some found
    subst price
    exact List.mem_of_find?_eq_some found

variable [IsStrictTotalOrder P before] {side : Side before Q}

omit [DecidableEq P] in
theorem nodup_prices (side : Side before Q) : (side.levels.map Prod.fst).Nodup :=
  List.pairwise_map.mpr <| side.sorted.imp fun {a b} earlier => by
    rintro same
    rw [same] at earlier
    exact irrefl_of before b.1 earlier

theorem quantity_of_mem {level : P × Q} (member : level ∈ side.levels) :
    side.quantity level.1 = level.2 := by
  unfold quantity
  cases found : side.levels.find? fun other => other.1 = level.1 with
  | none =>
    have absent := List.find?_eq_none.mp found level member
    simp at absent
  | some other =>
    have price : other.1 = level.1 := by simpa using List.find?_some found
    have same : other = level :=
      List.inj_on_of_nodup_map side.nodup_prices (List.mem_of_find?_eq_some found) member price
    rw [same, Option.map_some, Option.getD_some]

/-- The first levels are the best ones. -/
theorem best_top (side : Side before Q) (depth : Nat) :
    Best before depth side.quantity (side.top depth) where
  sorted := side.sorted.sublist (List.take_sublist _ _)
  own := fun level shown => by
    have member := List.mem_of_mem_take shown
    exact ⟨quantity_of_mem member, side.present level member⟩
  short := List.length_take_le _ _
  first := fun p level => by
    have sorted := side.sorted
    have member := mem_levels_of_quantity level
    rw [← List.take_append_drop depth side.levels] at sorted member
    rcases List.mem_append.mp member with shown | cut
    · exact Or.inl (List.mem_map.mpr ⟨_, shown, rfl⟩)
    · have long := List.length_pos_of_mem cut
      rw [List.length_drop] at long
      refine Or.inr ⟨List.length_take_of_le (by omega), fun better shown => ?_⟩
      exact (List.pairwise_append.mp sorted).2.2 better shown _ cut

theorem quantity_of_mem_top {n : Nat} {level : P × Q} (shown : level ∈ side.top n) :
    side.quantity level.1 = level.2 ∧ level.2 ≠ 0 := (side.best_top n).own level shown

/-- A price of the scope is a level. -/
theorem quantity_of_mem_scope {n : Nat} {p : P} (inside : p ∈ side.scope n) :
    (p, side.quantity p) ∈ side.top n ∧ side.quantity p ≠ 0 := by
  have member := (side.best_top n).level_mem inside
  exact ⟨member, (quantity_of_mem_top member).2⟩

end Side

variable [DecidableEq P]

/-- The levels that a sender reports when a side changes: those that are in the
scope or come into it, and, with quantity zero, those deleted in it. -/
structure Reports (n : Nat) (old new : Side before Q) (levels : List (P × Q)) : Prop where
  current : ∀ level ∈ new.top n, level ∈ old.top n ∨ level ∈ levels
  deleted : ∀ p ∈ old.scope n, new.quantity p = 0 → (p, 0) ∈ levels
  only : ∀ level ∈ levels, level ∈ new.top n ∨
    level.1 ∈ old.scope n ∧ new.quantity level.1 = 0 ∧ level.2 = 0

instance [DecidableEq Q] (n : Nat) (old new : Side before Q) (levels : List (P × Q)) :
    Decidable (Reports n old new levels) :=
  decidable_of_iff
    ((∀ level ∈ new.top n, level ∈ old.top n ∨ level ∈ levels) ∧
      (∀ p ∈ old.scope n, new.quantity p = 0 → (p, 0) ∈ levels) ∧
      ∀ level ∈ levels, level ∈ new.top n ∨
        level.1 ∈ old.scope n ∧ new.quantity level.1 = 0 ∧ level.2 = 0)
    ⟨fun ⟨current, deleted, only⟩ => ⟨current, deleted, only⟩,
      fun h => ⟨h.current, h.deleted, h.only⟩⟩

/-- A level was pushed out of the scope and has not been back. -/
def PushedOut (n : Nat) (history : List (Side before Q)) (p : P) : Prop :=
  ∃ earlier old next later, history = earlier ++ old :: next :: later ∧ p ∈ old.scope n ∧
    next.quantity p ≠ 0 ∧ ∀ side ∈ next :: later, p ∉ side.scope n

theorem pushedOut_concat {n : Nat} {history : List (Side before Q)} {old new : Side before Q}
    {p : P} : PushedOut n (history ++ [old] ++ [new]) p ↔ p ∉ new.scope n ∧
      (PushedOut n (history ++ [old]) p ∨ p ∈ old.scope n ∧ new.quantity p ≠ 0) := by
  constructor
  · rintro ⟨earlier, first, next, later, shape, inside, remains, away⟩
    rcases List.eq_nil_or_concat' later with rfl | ⟨later, last, rfl⟩
    · have split : earlier ++ [first] ++ [next] = history ++ [old] ++ [new] := by simp [shape]
      obtain ⟨same, isNew⟩ := List.append_inj' split rfl
      obtain ⟨-, isOld⟩ := List.append_inj' same rfl
      cases isNew
      cases isOld
      exact ⟨away _ List.mem_cons_self, Or.inr ⟨inside, remains⟩⟩
    · have split : (earlier ++ first :: next :: later) ++ [last] = history ++ [old] ++ [new] := by
        simp [shape]
      obtain ⟨same, isNew⟩ := List.append_inj' split rfl
      cases isNew
      exact ⟨away _ (by simp), Or.inl ⟨earlier, first, next, later, same.symm, inside, remains,
        fun side member => away side (by simpa using List.mem_append_left [new] member)⟩⟩
  · rintro ⟨outside, ⟨earlier, first, next, later, shape, inside, remains, away⟩ | ⟨inside, remains⟩⟩
    · refine ⟨earlier, first, next, later ++ [new], by simp [shape], inside, remains, ?_⟩
      intro side member
      rw [← List.cons_append] at member
      rcases List.mem_append.mp member with before | last
      · exact away side before
      · rw [List.mem_singleton.mp last]
        exact outside
    · exact ⟨history, old, new, [], by simp, inside, remains, by simpa using outside⟩

theorem PushedOut.outside {n : Nat} {history : List (Side before Q)} {last : Side before Q} {p : P}
    (h : PushedOut n (history ++ [last]) p) : p ∉ last.scope n := by
  obtain ⟨earlier, old, next, later, shape, -, -, away⟩ := h
  have ends := congrArg List.getLast? shape
  rw [List.getLast?_concat, List.getLast?_append_cons, List.getLast?_cons_cons] at ends
  exact away last (List.mem_of_getLast? ends.symm)

theorem not_pushedOut_singleton {n : Nat} {first : Side before Q} {p : P} :
    ¬ PushedOut n [first] p := by
  rintro ⟨earlier, old, next, later, shape, -⟩
  have long := congrArg List.length shape
  simp only [List.length_append, List.length_cons, List.length_nil] at long
  omega

theorem Reports.of_listed {n : Nat} {old new : Side before Q} {levels : List (P × Q)}
    (h : Reports n old new levels) {p : P}
    (listed : p ∈ levels.map Prod.fst) :
    p ∈ new.scope n ∨ p ∈ old.scope n ∧ new.quantity p = 0 := by
  obtain ⟨level, member, rfl⟩ := List.mem_map.mp listed
  rcases h.only level member with current | ⟨inside, gone, -⟩
  · exact Or.inl (List.mem_map_of_mem current)
  · exact Or.inr ⟨inside, gone⟩

/-- Nothing is pushed out of a scope that is never full. -/
theorem not_pushedOut_of_short {n : Nat} {history : List (Side before Q)}
    (short : ∀ side ∈ history, side.levels.length ≤ n) {p : P} : ¬ PushedOut n history p := by
  rintro ⟨earlier, old, next, later, rfl, -, remains, away⟩
  have whole : next.top n = next.levels := List.take_of_length_le (short next (by simp))
  refine away next List.mem_cons_self (List.mem_map.mpr ⟨(p, next.quantity p), ?_, rfl⟩)
  exact whole ▸ Side.mem_levels_of_quantity remains

section receiver
variable [IsStrictTotalOrder P before] {n : Nat} {old new : Side before Q} {levels : List (P × Q)}

theorem Reports.quantity (h : Reports n old new levels) {level : P × Q} (listed : level ∈ levels) :
    new.quantity level.1 = level.2 := by
  rcases h.only level listed with current | ⟨-, gone, zero⟩
  · exact (Side.quantity_of_mem_top current).1
  · rw [gone, zero]

/-- What a receiver that stores the reported levels holds. -/
structure Follows (n : Nat) (earlier : List (Side before Q)) (current : Side before Q)
    (held : P → Q) : Prop where
  inScope : ∀ level ∈ current.top n, held level.1 = level.2
  outside : ∀ p, p ∉ current.scope n → (held p ≠ 0 ↔ PushedOut n (earlier ++ [current]) p)

theorem Reports.setLevels (h : Reports n old new levels) {held : P → Q} {p : P}
    (listed : p ∈ levels.map Prod.fst) : setLevels held levels p = new.quantity p :=
  setLevels_of_agreed held listed fun level member same => by
    rw [← h.quantity member, same]

theorem Reports.inScope (h : Reports n old new levels) {held : P → Q}
    (agrees : ∀ level ∈ old.top n, held level.1 = level.2) :
    ∀ level ∈ new.top n, Lib.setLevels held levels level.1 = level.2 := by
  intro level current
  by_cases listed : level.1 ∈ levels.map Prod.fst
  · rw [h.setLevels listed]
    exact (Side.quantity_of_mem_top current).1
  · rw [setLevels_of_absent held listed]
    rcases h.current level current with before' | reported
    · exact agrees level before'
    · exact absurd (List.mem_map_of_mem reported) listed

/-- The first report starts from an empty side. -/
theorem Follows.start (h : Reports n .empty new levels) :
    Follows n [] new (setLevels (fun _ => 0) levels) where
  inScope := h.inScope (by simp)
  outside := fun p outside => by
    have unlisted : p ∉ levels.map Prod.fst := fun listed => by
      rcases h.of_listed listed with current | ⟨inside, -⟩
      · exact outside current
      · simp at inside
    simp [setLevels_of_absent _ unlisted, not_pushedOut_singleton]

theorem Follows.step {earlier : List (Side before Q)} {held : P → Q} (h : Follows n earlier old held)
    (reports : Reports n old new levels) :
    Follows n (earlier ++ [old]) new (setLevels held levels) where
  inScope := reports.inScope h.inScope
  outside := fun p outside => by
    rw [pushedOut_concat]
    by_cases listed : p ∈ levels.map Prod.fst
    · obtain ⟨inside, gone⟩ := (reports.of_listed listed).resolve_left outside
      rw [reports.setLevels listed, gone]
      refine ⟨fun held' => absurd rfl held', ?_⟩
      rintro ⟨-, back | ⟨-, remains⟩⟩
      · exact absurd inside back.outside
      · exact absurd rfl remains
    · rw [setLevels_of_absent held listed]
      by_cases inside : p ∈ old.scope n
      · obtain ⟨member, present⟩ := Side.quantity_of_mem_scope inside
        have remains : new.quantity p ≠ 0 := fun gone =>
          listed (List.mem_map_of_mem (reports.deleted p inside gone))
        rw [h.inScope _ member]
        exact ⟨fun _ => ⟨outside, Or.inr ⟨inside, remains⟩⟩, fun _ => present⟩
      · rw [h.outside p inside]
        exact ⟨fun away => ⟨outside, Or.inl away⟩, fun ⟨_, away⟩ => away.resolve_right fun back =>
          inside back.1⟩

/-- The best levels that a receiver holds are the sender's, unless a price that
was pushed out and has no level now is among them. -/
theorem Follows.shows_iff [DecidableRel before] {earlier : List (Side before Q)} {held : P → Q}
    (h : Follows n earlier new held) {depth : Nat} (narrow : depth ≤ n) {shown : List (P × Q)}
    (best : Best before depth held shown) : shown = new.top depth ↔
      ∀ p, PushedOut n (earlier ++ [new]) p → new.quantity p = 0 →
        depth ≤ ahead before new.levels p := by
  constructor
  · rintro rfl p away gone
    have present : held p ≠ 0 := (h.outside p away.outside).mpr away
    rcases best.first p present with inside | ⟨full, better⟩
    · exact absurd gone (Side.quantity_of_mem_scope inside).2
    · exact le_ahead_of_take full better
  · intro deep
    refine best.unique ⟨(new.best_top depth).sorted, fun level inside => ?_,
      (new.best_top depth).short, fun p present => ?_⟩
    · have wider : level ∈ new.top n := List.take_subset_take_left new.levels narrow inside
      exact ⟨h.inScope level wider, (Side.quantity_of_mem_top inside).2⟩
    · by_cases gone : new.quantity p = 0
      · have outside : p ∉ new.scope n := fun inside => (Side.quantity_of_mem_scope inside).2 gone
        exact Or.inr (take_of_le_ahead new.sorted (deep p ((h.outside p outside).mp present) gone))
      · exact (new.best_top depth).first p gone

end receiver

end ExchangeRouter.Lib
