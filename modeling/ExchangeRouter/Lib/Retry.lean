import Mathlib.Data.List.Range
import Mathlib.Tactic.Common

/-!
# Loops with a retry budget

A loop issues a request in each round, until the outcome settles it or its
budget of retries is spent.  A round may also refuse to issue the request, and a
flawed loop has rounds that neither settle anything nor spend a retry.
-/
namespace ExchangeRouter.Lib

/-- What a round of the loop comes to. -/
inductive Mark
  | refused
  | settled
  | spent
  | silent
  deriving DecidableEq, Repr

/-- The number of requests issued from round `i` on; `none` when the fuel does
not reach the end of the loop. -/
def requestsOf (mark : ℕ → Mark) : ℕ → ℕ → ℕ → Option ℕ
  | 0, _, _ => none
  | _ + 1, _, 0 => some 0
  | fuel + 1, i, retries + 1 =>
    match mark i with
    | .refused => some 0
    | .settled => some 1
    | .spent => (requestsOf mark fuel (i + 1) retries).map (· + 1)
    | .silent => (requestsOf mark fuel (i + 1) (retries + 1)).map (· + 1)

/-- The loop ends and issues at most `most` requests. -/
def EndsWithin (mark : ℕ → Mark) (i retries most : ℕ) : Prop :=
  ∃ fuel n, requestsOf mark fuel i retries = some n ∧ n ≤ most

variable {mark : ℕ → Mark} {i retries most : ℕ}

@[simp] theorem endsWithin_zero : EndsWithin mark i 0 most :=
  ⟨1, 0, rfl, Nat.zero_le _⟩

theorem endsWithin_refused (h : mark i = .refused) : EndsWithin mark i retries most := by
  cases retries with
  | zero => exact endsWithin_zero
  | succ retries => exact ⟨1, 0, by simp [requestsOf, h], Nat.zero_le _⟩

theorem endsWithin_settled (h : mark i = .settled) : EndsWithin mark i retries (most + 1) := by
  cases retries with
  | zero => exact endsWithin_zero
  | succ retries => exact ⟨1, 1, by simp [requestsOf, h], Nat.le_add_left _ _⟩

/-- A round that goes on uses one request, and leaves the rest to the later rounds. -/
theorem endsWithin_next {left : ℕ}
    (goesOn : ∀ fuel, requestsOf mark (fuel + 1) i (retries + 1) =
      (requestsOf mark fuel (i + 1) left).map (· + 1)) :
    EndsWithin mark i (retries + 1) (most + 1) ↔ EndsWithin mark (i + 1) left most := by
  constructor
  · rintro ⟨fuel, n, ran, within⟩
    cases fuel with
    | zero => simp [requestsOf] at ran
    | succ fuel =>
      rw [goesOn] at ran
      obtain ⟨rest, ranRest, rfl⟩ := Option.map_eq_some_iff.mp ran
      exact ⟨fuel, rest, ranRest, Nat.le_of_succ_le_succ within⟩
  · rintro ⟨fuel, n, ran, within⟩
    exact ⟨fuel + 1, n + 1, by rw [goesOn, ran]; rfl, Nat.succ_le_succ within⟩

theorem not_endsWithin_zero (issues : mark i ≠ .refused) :
    ¬ EndsWithin mark i (retries + 1) 0 := by
  rintro ⟨fuel, n, ran, within⟩
  cases fuel with
  | zero => simp [requestsOf] at ran
  | succ fuel =>
    obtain rfl : n = 0 := Nat.le_zero.mp within
    cases h : mark i <;> simp_all [requestsOf]

/-- The spending rounds among the first `most` from round `i` on. -/
def spentWithin (mark : ℕ → Mark) (i : ℕ) : ℕ → ℕ
  | 0 => 0
  | most + 1 => (if mark i = .spent then 1 else 0) + spentWithin mark (i + 1) most

theorem exists_lt_succ_shift (p : ℕ → Prop) (n : ℕ) :
    (∃ k < n + 1, p (i + k)) ↔ p i ∨ ∃ k < n, p (i + 1 + k) := by
  constructor
  · rintro ⟨k, inside, holds⟩
    cases k with
    | zero => exact .inl holds
    | succ k => exact .inr ⟨k, Nat.lt_of_succ_lt_succ inside, by rwa [Nat.add_right_comm]⟩
  · rintro (holds | ⟨k, inside, holds⟩)
    · exact ⟨0, Nat.succ_pos n, holds⟩
    · exact ⟨k + 1, Nat.succ_lt_succ inside, by rwa [Nat.add_right_comm] at holds⟩

/-- A loop ends within `most` requests when it is refused before the next one,
settled by one of them, or has spent its retries on them. -/
theorem endsWithin_iff : EndsWithin mark i retries most ↔
    (∃ k < most + 1, mark (i + k) = .refused) ∨ (∃ k < most, mark (i + k) = .settled) ∨
      retries ≤ spentWithin mark i most := by
  induction most generalizing i retries with
  | zero =>
    cases retries with
    | zero => simp
    | succ retries =>
      by_cases h : mark i = .refused
      · simp [endsWithin_refused h, h]
      · simp [not_endsWithin_zero h, h, spentWithin]
  | succ most ih =>
    rw [exists_lt_succ_shift (fun k => mark k = .refused),
      exists_lt_succ_shift (fun k => mark k = .settled)]
    cases retries with
    | zero => simp
    | succ retries =>
      cases h : mark i with
      | refused => simp [endsWithin_refused h]
      | settled => simp [endsWithin_settled h]
      | spent =>
        have goesOn (fuel : ℕ) : requestsOf mark (fuel + 1) i (retries + 1) =
            (requestsOf mark fuel (i + 1) retries).map (· + 1) := by
          simp [requestsOf, h]
        rw [endsWithin_next goesOn, ih]
        simp [spentWithin, h, Nat.add_comm 1]
      | silent =>
        have goesOn (fuel : ℕ) : requestsOf mark (fuel + 1) i (retries + 1) =
            (requestsOf mark fuel (i + 1) (retries + 1)).map (· + 1) := by
          simp [requestsOf, h]
        rw [endsWithin_next goesOn, ih]
        simp [spentWithin, h]

theorem spentWithin_le : spentWithin mark i most ≤ most := by
  induction most generalizing i with
  | zero => exact Nat.le_refl _
  | succ most ih =>
    have := @ih (i + 1)
    simp only [spentWithin]
    split <;> omega

/-- The whole budget is spent exactly when every round spends. -/
theorem le_spentWithin_iff : most ≤ spentWithin mark i most ↔ ∀ k < most, mark (i + k) = .spent := by
  induction most generalizing i with
  | zero => simp
  | succ most ih =>
    have upper := @spentWithin_le mark (i + 1) most
    constructor
    · intro all k inside
      by_cases h : mark i = .spent
      · simp only [spentWithin, h, if_true] at all
        cases k with
        | zero => exact h
        | succ k =>
          have rest : most ≤ spentWithin mark (i + 1) most := by omega
          have := ih.mp rest k (Nat.lt_of_succ_lt_succ inside)
          rwa [Nat.add_right_comm] at this
      · simp only [spentWithin, h, if_false] at all
        omega
    · intro all
      have first : mark i = .spent := all 0 (Nat.succ_pos _)
      have rest : most ≤ spentWithin mark (i + 1) most := ih.mpr fun k inside => by
        have := all (k + 1) (Nat.succ_lt_succ inside)
        rwa [← Nat.add_assoc, Nat.add_right_comm] at this
      simp only [spentWithin, first, if_true]
      omega

/-- With a budget as large as the bound: the loop stays within it unless a
silent round has used up a request and nothing cuts the loop short. -/
theorem endsWithin_budget_iff : EndsWithin mark i most most ↔
    ((∃ k < most, mark (i + k) = .silent) →
      (∃ k < most + 1, mark (i + k) = .refused) ∨ ∃ k < most, mark (i + k) = .settled) := by
  rw [endsWithin_iff, le_spentWithin_iff]
  constructor
  · rintro (refused | settled | spent) ⟨k, inside, silent⟩
    · exact .inl refused
    · exact .inr settled
    · rw [spent k inside] at silent
      cases silent
  · intro cut
    by_cases quiet : ∃ k < most, mark (i + k) = .silent
    · exact (cut quiet).imp_right .inl
    · by_cases stopped : (∃ k < most + 1, mark (i + k) = .refused) ∨
          ∃ k < most, mark (i + k) = .settled
      · exact stopped.imp_right .inl
      · refine .inr (.inr fun k inside => ?_)
        cases h : mark (i + k) with
        | refused => exact absurd (.inl ⟨k, Nat.lt_succ_of_lt inside, h⟩) stopped
        | settled => exact absurd (.inr ⟨k, inside, h⟩) stopped
        | spent => rfl
        | silent => exact absurd ⟨k, inside, h⟩ quiet

/-- A loop whose rounds are all silent never ends. -/
theorem requestsOf_silent (silent : ∀ k, mark k = .silent) (fuel : ℕ) :
    requestsOf mark fuel i (retries + 1) = none := by
  induction fuel generalizing i with
  | zero => rfl
  | succ fuel ih => simp [requestsOf, silent, ih]

end ExchangeRouter.Lib
