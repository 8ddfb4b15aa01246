import Mathlib.Tactic.Linarith
import ExchangeRouter.Lib.Timeline

/-!
# Windows of time

A log of times, newest first, and how many of them lie in any closed window of a
given length: a limiter that looks back from the present bounds every window.
And the length of what two windows share, which adds up over a split of one.
-/
namespace ExchangeRouter.Lib

universe u

variable {T : Type u} [AddCommGroup T] [LinearOrder T]

/-- The number of times of the log in the closed window that begins at `t`. -/
def inWindow (length t : T) (log : List T) : ℕ := log.countP fun g => t ≤ g ∧ g ≤ t + length

/-- No closed window of the given length has more than `most` times of the log. -/
def AtMostPerWindow (most : ℕ) (length : T) (log : List T) : Prop :=
  ∀ t, inWindow length t log ≤ most

variable {most : ℕ} {length now : T} {log : List T}

theorem atMostPerWindow_nil : AtMostPerWindow most length ([] : List T) :=
  fun _ => Nat.zero_le _

variable [IsOrderedAddMonoid T]

/-- A window that holds the newest time reaches back to `now - length` at most. -/
theorem inWindow_le_recent {t : T} (held : now ≤ t + length) :
    inWindow length t log ≤ log.countP fun g => now - length ≤ g := by
  refine List.countP_mono_left fun g _ inside => ?_
  obtain ⟨later, -⟩ := of_decide_eq_true inside
  exact decide_eq_true ((sub_le_iff_le_add.mpr held).trans later)

/-- A grant that finds fewer than `most` in the window up to now keeps the bound. -/
theorem AtMostPerWindow.grant (bound : AtMostPerWindow most length log)
    (few : (log.countP fun g => now - length ≤ g) < most) :
    AtMostPerWindow most length (now :: log) := by
  intro t
  rw [inWindow, List.countP_cons]
  by_cases held : t ≤ now ∧ now ≤ t + length
  · have recent : inWindow length t log ≤ _ := inWindow_le_recent held.2
    rw [inWindow] at recent
    simp only [held, and_self, decide_true, if_true]
    omega
  · simp only [held, decide_false, Bool.false_eq_true, if_false, Nat.add_zero]
    exact bound t

section Overlap
variable {F : Type u} [Field F] [LinearOrder F] [IsStrictOrderedRing F]

/-- The length of what the window from `start` to `stop` has between `first` and `last`. -/
def overlap (start stop first last : F) : F := max 0 (min stop last - max start first)

theorem overlap_split (start stop : F) {first between last : F} (before : first ≤ between)
    (after : between ≤ last) :
    overlap start stop first last =
      overlap start stop first between + overlap start stop between last := by
  simp only [overlap, max_def, min_def]
  split_ifs <;> linarith

end Overlap
end ExchangeRouter.Lib
