import Mathlib.Init

/-!
# Runs of a labelled system

The label of a step resolves every choice left to the environment, so a step is
a partial function and a run is determined by its labels.  `Reachable` collects
the states of all runs whose labels satisfy a side condition `allowed`, which
may look at the state before the step.
-/
namespace ExchangeRouter.Lib

universe u v

structure System (σ : Type u) (α : Type v) where
  init : σ
  step : σ → α → Option σ

variable {σ : Type u} {α : Type v}

inductive Reachable (S : System σ α) (allowed : σ → α → Prop) : σ → Prop
  | init : Reachable S allowed S.init
  | next {s s' : σ} {a : α} (before : Reachable S allowed s) (permitted : allowed s a)
      (taken : S.step s a = some s') : Reachable S allowed s'

/-- The side condition that permits every step. -/
def anyStep (_ : σ) (_ : α) : Prop := True

/-- An invariant is carried from the initial state over every permitted step;
the step may use that the state before it is reachable. -/
theorem Reachable.invariant {S : System σ α} {allowed : σ → α → Prop} {Inv : σ → Prop}
    (start : Inv S.init)
    (keep : ∀ s a s', Reachable S allowed s → Inv s → allowed s a → S.step s a = some s' → Inv s')
    {s : σ} (run : Reachable S allowed s) : Inv s := by
  induction run with
  | init => exact start
  | next before permitted taken ih => exact keep _ _ _ before ih permitted taken

theorem Reachable.mono {S : System σ α} {allowed permitted : σ → α → Prop}
    (weaker : ∀ s a, allowed s a → permitted s a) {s : σ} (run : Reachable S allowed s) :
    Reachable S permitted s := by
  induction run with
  | init => exact .init
  | next _ ok taken ih => exact .next ih (weaker _ _ ok) taken

/-- The runs from a state, with their labels in order. -/
inductive Steps (S : System σ α) (allowed : σ → α → Prop) (s : σ) : List α → σ → Prop
  | none : Steps S allowed s [] s
  | snoc {t u : σ} {labels : List α} {a : α} (before : Steps S allowed s labels t)
      (permitted : allowed t a) (taken : S.step t a = some u) : Steps S allowed s (labels ++ [a]) u

theorem Steps.reachable {S : System σ α} {allowed : σ → α → Prop} {s t : σ} {labels : List α}
    (run : Steps S allowed s labels t) (before : Reachable S allowed s) :
    Reachable S allowed t := by
  induction run with
  | none => exact before
  | snoc _ permitted taken ih => exact .next ih permitted taken

theorem Steps.mono {S : System σ α} {allowed permitted : σ → α → Prop}
    (weaker : ∀ s a, allowed s a → permitted s a) {s t : σ} {labels : List α}
    (run : Steps S allowed s labels t) : Steps S permitted s labels t := by
  induction run with
  | none => exact .none
  | snoc _ ok taken ih => exact .snoc ih (weaker _ _ ok) taken

theorem Steps.cons {S : System σ α} {allowed : σ → α → Prop} {s t u : σ} {a : α}
    {labels : List α} (permitted : allowed s a) (taken : S.step s a = some t)
    (run : Steps S allowed t labels u) : Steps S allowed s (a :: labels) u := by
  induction run with
  | none =>
    have single : Steps S allowed s ([] ++ [a]) t := .snoc .none permitted taken
    exact single
  | snoc _ next moved ih => exact .snoc ih next moved

/-- Where every step lowers a measure, a run has no more steps than its start allows. -/
theorem Steps.length_le {S : System σ α} {allowed : σ → α → Prop} {Inv : σ → Prop}
    {measure : σ → Nat}
    (keep : ∀ t a u, Inv t → allowed t a → S.step t a = some u → Inv u ∧ measure u < measure t)
    {s t : σ} {labels : List α} (run : Steps S allowed s labels t) (start : Inv s) :
    Inv t ∧ labels.length + measure t ≤ measure s := by
  induction run with
  | none => exact ⟨start, by simp⟩
  | snoc _ permitted taken ih =>
    obtain ⟨held, bound⟩ := ih
    obtain ⟨after, lower⟩ := keep _ _ _ held permitted taken
    refine ⟨after, ?_⟩
    rw [List.length_append, List.length_singleton]
    omega

namespace System

/-- Execute a list of labels, refusing a label that the side condition or the
step itself refuses. -/
def exec (S : System σ α) (allowed : σ → α → Bool) : σ → List α → Option σ
  | s, [] => some s
  | s, a :: rest =>
    if allowed s a then
      match S.step s a with
      | none => none
      | some s' => exec S allowed s' rest
    else none

theorem steps_exec {S : System σ α} {allowed : σ → α → Prop} {check : σ → α → Bool}
    {labels : List α} (sound : ∀ s, ∀ a ∈ labels, check s a = true → allowed s a) {s s' : σ}
    (h : S.exec check s labels = some s') : Steps S allowed s labels s' := by
  induction labels generalizing s with
  | nil =>
    simp only [exec, Option.some.injEq] at h
    exact h ▸ .none
  | cons a rest ih =>
    simp only [exec] at h
    split at h
    · rename_i permitted
      split at h
      · cases h
      · rename_i next taken
        apply Steps.cons (sound _ a List.mem_cons_self permitted) taken
        exact ih (fun s b member => sound s b (List.mem_cons_of_mem a member)) h
    · cases h

theorem reachable_exec {S : System σ α} {allowed : σ → α → Prop} {check : σ → α → Bool}
    {labels : List α} (sound : ∀ s, ∀ a ∈ labels, check s a = true → allowed s a) {s s' : σ}
    (before : Reachable S allowed s) (h : S.exec check s labels = some s') :
    Reachable S allowed s' :=
  (steps_exec sound h).reachable before

/-- The state after a concrete run satisfies a decidable condition. -/
def endsIn (S : System σ α) (allowed : σ → α → Bool) (labels : List α) (P : σ → Bool) : Bool :=
  match S.exec allowed S.init labels with
  | some s => P s
  | none => false

/-- A checked concrete run is a run of the system. -/
theorem exists_reachable {S : System σ α} {allowed : σ → α → Prop} {check : σ → α → Bool}
    {labels : List α} {P : σ → Bool} (sound : ∀ s, ∀ a ∈ labels, check s a = true → allowed s a)
    (h : S.endsIn check labels P = true) : ∃ s, Reachable S allowed s ∧ P s = true := by
  unfold endsIn at h
  split at h
  · rename_i s ends
    exact ⟨s, reachable_exec sound .init ends, h⟩
  · cases h

end System
end ExchangeRouter.Lib
