import ExchangeRouter.Lib.Stream

/-!
# Generators that skip malformed messages

The body of the loop leaves a state and has an output, none, or an exception.
A message whose exception is caught is skipped, and the state stays as the body
has left it.
-/
namespace ExchangeRouter.Lib

universe u v w x

structure Guarded (σ : Type u) (μ : Type v) (ε : Type w) (β : Type x) where
  init : σ
  body : σ → μ → σ × Except ε (Option β)
  caught : ε → Bool

namespace Guarded
variable {σ : Type u} {μ : Type v} {ε : Type w} {β : Type x} (G : Guarded σ μ ε β)

def stream : Stream σ μ β where
  init := G.init
  step := fun s m =>
    match G.body s m with
    | (s', .ok out) => (out.toList, some s')
    | (s', .error e) => ([], if G.caught e then some s' else none)

/-- The message is skipped with a warning. -/
def malformed (s : σ) (m : μ) : Bool :=
  match (G.body s m).2 with
  | .ok _ => false
  | .error e => G.caught e

/-- The messages of a run but for those that it skips. -/
def accepted : σ → List μ → List μ
  | _, [] => []
  | s, m :: rest =>
    match (G.stream.step s m).2 with
    | none => m :: rest
    | some s' => if G.malformed s m then accepted s' rest else m :: accepted s' rest

variable {G} {s t s' : σ} {m : μ} {b : β}

theorem mem_step : b ∈ (G.stream.step s m).1 ↔ (G.body s m).2 = .ok (some b) := by
  simp only [stream]
  split <;> simp_all

theorem step_of_malformed (skipped : G.malformed s m = true) :
    G.stream.step s m = ([], some (G.body s m).1) := by
  unfold malformed at skipped
  simp only [stream]
  split <;> simp_all

theorem step_state (moved : (G.stream.step s m).2 = some s') : s' = (G.body s m).1 := by
  simp only [stream] at moved
  split at moved <;> simp_all

theorem ok_of_wellFormed (kept : G.malformed s m = false)
    (moved : (G.stream.step s m).2 = some s') : ∃ out, G.body s m = (s', .ok out) := by
  unfold malformed at kept
  simp only [stream] at moved
  split at moved
  · next out ran => exact ⟨out, by rw [ran, Option.some.inj moved]⟩
  · next e ran =>
    have kept : G.caught e = false := by simpa only [ran] using kept
    simp [kept] at moved

/-- Every output is that of a message which the generator was there to read. -/
theorem mem_yields {messages : List μ} : (m, b) ∈ G.stream.yields s messages ↔
    ∃ first last s', messages = first ++ m :: last ∧ G.stream.after s first = some s' ∧
      (G.body s' m).2 = .ok (some b) := by
  simp only [Stream.mem_yields, mem_step]

/-- States that the body does not tell apart. -/
structure Congruence (G : Guarded σ μ ε β) (R : σ → σ → Prop) : Prop where
  trans : ∀ {r s t}, R r s → R s t → R r t
  result : ∀ {s t} (m), R s t → (G.body s m).2 = (G.body t m).2
  state : ∀ {s t} (m), R s t → R (G.body s m).1 (G.body t m).1

variable {R : σ → σ → Prop}

theorem Congruence.step (same : G.Congruence R) (related : R s t) :
    (G.stream.step s m).1 = (G.stream.step t m).1 ∧
      ((G.stream.step s m).2 = none ∧ (G.stream.step t m).2 = none ∨
        ∃ s' t', (G.stream.step s m).2 = some s' ∧ (G.stream.step t m).2 = some t' ∧ R s' t') := by
  have result := same.result m related
  have state := same.state m related
  simp only [stream]
  cases left : (G.body s m) with
  | mk s' out =>
    cases right : (G.body t m) with
    | mk t' out' =>
      rw [left, right] at result state
      obtain rfl : out = out' := result
      cases out with
      | ok out => exact ⟨rfl, .inr ⟨s', t', rfl, rfl, state⟩⟩
      | error e =>
        refine ⟨rfl, ?_⟩
        by_cases caught : G.caught e = true
        · exact .inr ⟨s', t', if_pos caught, if_pos caught, state⟩
        · exact .inl ⟨if_neg caught, if_neg caught⟩

theorem Congruence.malformed_eq (same : G.Congruence R) (related : R s t) :
    G.malformed s m = G.malformed t m := by
  rw [malformed, malformed, same.result m related]

/-- At every message that the run from `s` skips, the body leaves a state that
it does not tell apart from the one before. -/
def Harmless (G : Guarded σ μ ε β) (R : σ → σ → Prop) (s : σ) (messages : List μ) : Prop :=
  ∀ first m last s', messages = first ++ m :: last → G.stream.after s first = some s' →
    G.malformed s' m = true → R (G.body s' m).1 s'

theorem Harmless.head {rest : List μ} (harmless : G.Harmless R s (m :: rest))
    (skipped : G.malformed s m = true) : R (G.body s m).1 s :=
  harmless [] m rest s rfl rfl skipped

theorem Harmless.tail {rest : List μ} (harmless : G.Harmless R s (m :: rest))
    (moved : (G.stream.step s m).2 = some s') : G.Harmless R s' rest := by
  intro first next last s'' shape reached
  refine harmless (m :: first) next last s'' (by rw [shape, List.cons_append]) ?_
  rw [Stream.after_cons, moved, Option.bind_some, reached]

/-- Skipped messages without effect might as well never have arrived. -/
theorem yields_accepted (same : G.Congruence R) {messages : List μ} (related : R s t)
    (harmless : G.Harmless R s messages) :
    G.stream.yields s messages = G.stream.yields t (G.accepted s messages) := by
  induction messages generalizing s t with
  | nil => rfl
  | cons m rest ih =>
    obtain ⟨outputs, ⟨ends, ends'⟩ | ⟨s', t', moved, moved', next⟩⟩ := same.step (m := m) related
    · rw [accepted, ends, Stream.yields, Stream.yields, ends, ends', outputs]
    · rw [accepted, moved, Stream.yields, moved]
      by_cases skipped : G.malformed s m = true
      · obtain rfl : s' = (G.body s m).1 := step_state moved
        have back := same.trans (harmless.head skipped) related
        simp only [skipped, if_true, step_of_malformed skipped, List.map_nil, List.nil_append]
        exact ih back (harmless.tail moved)
      · simp only [skipped, Bool.false_eq_true, if_false]
        rw [Stream.yields, moved', outputs, ih next (harmless.tail moved)]

/-- A run without its skipped messages skips none. -/
theorem accepted_wellFormed (same : G.Congruence R) {messages first last : List μ}
    (related : R s t) (harmless : G.Harmless R s messages)
    (split : G.accepted s messages = first ++ m :: last) (reached : G.stream.after t first = some s')
    (goesOn : (G.stream.step s' m).2.isSome) : G.malformed s' m = false := by
  induction messages generalizing s t first with
  | nil => simp [accepted] at split
  | cons next rest ih =>
    obtain ⟨-, ⟨ends, ends'⟩ | ⟨s₁, t₁, moved, moved', follows⟩⟩ := same.step (m := next) related
    · rw [accepted, ends] at split
      cases first with
      | nil =>
        cases split
        cases reached
        simp [ends'] at goesOn
      | cons head first =>
        cases split
        simp [ends'] at reached
    · rw [accepted, moved] at split
      by_cases skipped : G.malformed s next = true
      · obtain rfl : s₁ = (G.body s next).1 := step_state moved
        simp only [skipped, if_true] at split
        exact ih (same.trans (harmless.head skipped) related) (harmless.tail moved) split reached
      · simp only [skipped, Bool.false_eq_true, if_false] at split
        cases first with
        | nil =>
          cases split
          cases reached
          rw [← same.malformed_eq related]
          exact Bool.eq_false_iff.mpr skipped
        | cons head first =>
          obtain ⟨rfl, later⟩ := List.cons.inj split
          rw [Stream.after_cons, moved', Option.bind_some] at reached
          exact ih follows (harmless.tail moved) later reached

end Guarded
end ExchangeRouter.Lib
