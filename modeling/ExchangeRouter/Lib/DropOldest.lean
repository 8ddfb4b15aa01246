import Mathlib.Data.List.Induction
import Mathlib.Data.List.Perm.Basic

/-!
# Queues that drop their oldest entries

Everything that leaves a queue leaves at its head: a consumer takes it or the
producer drops it to make room.  What arrived is what left, in order, followed by
what is still there.
-/
namespace ExchangeRouter.Lib

universe u

variable {A : Type u}

/-- `whole` is made of `taken` and `dropped`, each in order. -/
inductive Shuffle : List A → List A → List A → Prop
  | nil : Shuffle [] [] []
  | take {taken dropped whole : List A} (a : A) (before : Shuffle taken dropped whole) :
      Shuffle (taken ++ [a]) dropped (whole ++ [a])
  | drop {taken dropped whole : List A} (a : A) (before : Shuffle taken dropped whole) :
      Shuffle taken (dropped ++ [a]) (whole ++ [a])

theorem Shuffle.taken_sublist {taken dropped whole : List A} (parts : Shuffle taken dropped whole) :
    taken.Sublist whole := by
  induction parts with
  | nil => exact List.Sublist.refl []
  | take a _ ih => exact List.Sublist.append ih (List.Sublist.refl [a])
  | drop a _ ih => exact ih.trans (List.sublist_append_left _ _)

theorem Shuffle.perm {taken dropped whole : List A} (parts : Shuffle taken dropped whole) :
    (taken ++ dropped).Perm whole := by
  induction parts with
  | nil => exact List.Perm.refl []
  | @take taken dropped whole a _ ih =>
    rw [List.append_assoc]
    calc (taken ++ ([a] ++ dropped)).Perm (taken ++ (dropped ++ [a])) :=
          List.perm_append_comm.append_left taken
      _ = (taken ++ dropped) ++ [a] := (List.append_assoc _ _ _).symm
      _ |>.Perm (whole ++ [a]) := ih.append_right [a]
  | @drop taken dropped whole a _ ih =>
    rw [← List.append_assoc]
    exact ih.append_right [a]

/-- The account of a queue: what arrived, what was taken, what was dropped and what
is there. -/
def Accounted (arrived taken dropped items : List A) : Prop :=
  ∃ gone, Shuffle taken dropped gone ∧ arrived = gone ++ items

namespace Accounted
variable {arrived taken dropped items : List A} {a : A}

theorem start : Accounted ([] : List A) [] [] [] := ⟨[], .nil, rfl⟩

theorem put (account : Accounted arrived taken dropped items) (a : A) :
    Accounted (arrived ++ [a]) taken dropped (items ++ [a]) := by
  obtain ⟨gone, parts, rfl⟩ := account
  exact ⟨gone, parts, List.append_assoc _ _ _⟩

theorem take (account : Accounted arrived taken dropped (a :: items)) :
    Accounted arrived (taken ++ [a]) dropped items := by
  obtain ⟨gone, parts, rfl⟩ := account
  exact ⟨gone ++ [a], parts.take a, by rw [List.append_assoc, List.singleton_append]⟩

theorem drop (account : Accounted arrived taken dropped (a :: items)) :
    Accounted arrived taken (dropped ++ [a]) items := by
  obtain ⟨gone, parts, rfl⟩ := account
  exact ⟨gone ++ [a], parts.drop a, by rw [List.append_assoc, List.singleton_append]⟩

theorem kept (account : Accounted arrived taken dropped items) :
    (taken ++ items).Sublist arrived := by
  obtain ⟨gone, parts, rfl⟩ := account
  exact List.Sublist.append parts.taken_sublist (List.Sublist.refl items)

theorem taken_sublist (account : Accounted arrived taken dropped items) : taken.Sublist arrived :=
  (List.sublist_append_left taken items).trans account.kept

/-- Once nothing is left, all that arrived was taken or dropped. -/
theorem shuffle (account : Accounted arrived taken dropped []) : Shuffle taken dropped arrived := by
  obtain ⟨gone, parts, all⟩ := account
  rw [List.append_nil] at all
  exact all ▸ parts

/-- Nothing is lost but what was dropped. -/
theorem perm (account : Accounted arrived taken dropped items) :
    (taken ++ dropped ++ items).Perm arrived := by
  obtain ⟨gone, parts, rfl⟩ := account
  exact parts.perm.append_right items

theorem mem_or (account : Accounted arrived taken dropped items) (member : a ∈ arrived) :
    a ∈ taken ∨ a ∈ dropped ∨ a ∈ items := by
  have listed := account.perm.mem_iff.mpr member
  simpa [or_assoc] using listed

end Accounted

/-- Each dropped entry has `n` arrivals after it. -/
def Overtaken (n : ℕ) (arrived dropped : List A) : Prop :=
  ∀ a ∈ dropped, ∃ before after, arrived = before ++ a :: after ∧ n ≤ after.length

theorem Overtaken.start {n : ℕ} {arrived : List A} : Overtaken n arrived [] :=
  fun _ member => absurd member List.not_mem_nil

theorem Overtaken.put {n : ℕ} {arrived dropped : List A} (overtaken : Overtaken n arrived dropped)
    (b : A) : Overtaken n (arrived ++ [b]) dropped := by
  intro a member
  obtain ⟨before, after, rfl, long⟩ := overtaken a member
  refine ⟨before, after ++ [b], by simp, ?_⟩
  rw [List.length_append]
  exact Nat.le_add_right_of_le long

/-- The oldest of `n` entries makes room for a new one. -/
theorem Overtaken.replace {n : ℕ} {arrived taken dropped rest : List A} {a : A}
    (overtaken : Overtaken n arrived dropped)
    (account : Accounted arrived taken dropped (a :: rest)) (full : n ≤ rest.length + 1) (b : A) :
    Overtaken n (arrived ++ [b]) (dropped ++ [a]) := by
  intro x member
  rcases List.mem_append.mp member with old | new
  · exact overtaken.put b x old
  · obtain rfl := List.mem_singleton.mp new
    obtain ⟨gone, -, rfl⟩ := account
    refine ⟨gone, rest ++ [b], by simp, ?_⟩
    rw [List.length_append]
    exact full

end ExchangeRouter.Lib
