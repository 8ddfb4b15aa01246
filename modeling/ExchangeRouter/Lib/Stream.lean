import Mathlib.Data.List.Basic

/-!
# Generators that read a feed

A generator reads one message after another, yields what it has to say about
each, and may return.  `after` is its state once some messages are read, `none`
when it has returned; `yields` lists its outputs with the message that was
being processed.
-/
namespace ExchangeRouter.Lib

universe u v w x

structure Stream (σ : Type u) (μ : Type v) (β : Type w) where
  init : σ
  step : σ → μ → List β × Option σ

namespace Stream
variable {σ : Type u} {μ : Type v} {β : Type w} (T : Stream σ μ β)

def after : σ → List μ → Option σ
  | s, [] => some s
  | s, m :: rest =>
    match (T.step s m).2 with
    | none => none
    | some s' => after s' rest

def yields : σ → List μ → List (μ × β)
  | _, [] => []
  | s, m :: rest =>
    (T.step s m).1.map (m, ·) ++
      match (T.step s m).2 with
      | none => []
      | some s' => yields s' rest

@[simp] theorem after_nil (s : σ) : T.after s [] = some s := rfl

@[simp] theorem yields_nil (s : σ) : T.yields s [] = [] := rfl

@[simp] theorem after_cons (s : σ) (m : μ) (rest : List μ) :
    T.after s (m :: rest) = (T.step s m).2.bind fun s' => T.after s' rest := by
  rw [after]
  cases (T.step s m).2 <;> rfl

theorem after_append (s : σ) (first second : List μ) :
    T.after s (first ++ second) = (T.after s first).bind fun s' => T.after s' second := by
  induction first generalizing s with
  | nil => rfl
  | cons m rest ih => simp [ih, Option.bind_assoc]

theorem after_concat (s : σ) (first : List μ) (m : μ) :
    T.after s (first ++ [m]) = (T.after s first).bind fun s' => (T.step s' m).2 := by
  simp [after_append]

/-- Every output belongs to a message that the generator was still there to
read. -/
theorem mem_yields {s : σ} {messages : List μ} {m : μ} {b : β} :
    (m, b) ∈ T.yields s messages ↔ ∃ first last s', messages = first ++ m :: last ∧
      T.after s first = some s' ∧ b ∈ (T.step s' m).1 := by
  induction messages generalizing s with
  | nil => simp
  | cons next rest ih =>
    rw [yields, List.mem_append]
    constructor
    · rintro (now | later)
      · obtain ⟨b', member, same⟩ := List.mem_map.mp now
        cases same
        exact ⟨[], rest, s, rfl, rfl, member⟩
      · cases moved : (T.step s next).2 with
        | none => simp [moved] at later
        | some s₁ =>
          rw [moved] at later
          obtain ⟨first, last, s', rfl, reached, member⟩ := ih.mp later
          exact ⟨next :: first, last, s', rfl, by simp [moved, reached], member⟩
    · rintro ⟨first, last, s', shape, reached, member⟩
      cases first with
      | nil =>
        cases shape
        cases reached
        exact Or.inl (List.mem_map_of_mem member)
      | cons head first =>
        cases shape
        rw [after_cons] at reached
        obtain ⟨s₁, moved, reached⟩ := Option.bind_eq_some_iff.mp reached
        rw [moved]
        exact Or.inr (ih.mpr ⟨first, last, s', rfl, reached, member⟩)

theorem yields_append (s : σ) (first second : List μ) :
    T.yields s (first ++ second) = T.yields s first ++
      match T.after s first with
      | none => []
      | some s' => T.yields s' second := by
  induction first generalizing s with
  | nil => rfl
  | cons m rest ih =>
    rw [List.cons_append, yields, yields, after_cons]
    cases (T.step s m).2 with
    | none => simp
    | some s' => simp [ih]

theorem yields_concat {s s' : σ} {first : List μ} (reached : T.after s first = some s') (m : μ) :
    T.yields s (first ++ [m]) = T.yields s first ++ (T.step s' m).1.map (m, ·) := by
  rw [yields_append, reached]
  cases ends : (T.step s' m).2 <;> simp [yields, ends]

/-- A generator that yields at most once for a message keeps the order of the messages. -/
theorem yields_sublist (single : ∀ s m, (T.step s m).1.length ≤ 1) (s : σ) (messages : List μ) :
    ((T.yields s messages).map Prod.fst).Sublist messages := by
  induction messages generalizing s with
  | nil => exact List.Sublist.refl _
  | cons m rest ih =>
    rw [yields, List.map_append, ← List.singleton_append]
    apply List.Sublist.append
    · have short := single s m
      cases outputs : (T.step s m).1 with
      | nil => exact List.nil_sublist _
      | cons b more =>
        cases more with
        | nil => exact List.Sublist.refl _
        | cons => simp [outputs] at short
    · cases (T.step s m).2 with
      | none => exact List.nil_sublist _
      | some s' => exact ih s'

/-- A generator whose outputs are rendered with the message they belong to. -/
def render {γ : Type x} (f : μ → β → γ) : Stream σ μ γ where
  init := T.init
  step := fun s m => ((T.step s m).1.map (f m), (T.step s m).2)

@[simp] theorem render_init {γ : Type x} (f : μ → β → γ) : (T.render f).init = T.init := rfl

theorem render_step {γ : Type x} (f : μ → β → γ) (s : σ) (m : μ) :
    (T.render f).step s m = ((T.step s m).1.map (f m), (T.step s m).2) := rfl

theorem render_after {γ : Type x} (f : μ → β → γ) (s : σ) (messages : List μ) :
    (T.render f).after s messages = T.after s messages := by
  induction messages generalizing s with
  | nil => rfl
  | cons m rest ih => simp [ih, render_step]

theorem mem_render_yields {γ : Type x} {f : μ → β → γ} {s : σ} {messages : List μ} {m : μ} {c : γ}
    (member : (m, c) ∈ (T.render f).yields s messages) :
    ∃ b, (m, b) ∈ T.yields s messages ∧ c = f m b := by
  obtain ⟨first, last, s', shape, reached, output⟩ := (T.render f).mem_yields.mp member
  obtain ⟨b, own, rfl⟩ := List.mem_map.mp output
  rw [render_after] at reached
  exact ⟨b, T.mem_yields.mpr ⟨first, last, s', shape, reached, own⟩, rfl⟩

/-- A generator that reads frames and goes through the parts of each. -/
def batch {ν : Type x} (parts : ν → List μ) : Stream σ ν β where
  init := T.init
  step := fun s frame => ((T.yields s (parts frame)).map Prod.snd, T.after s (parts frame))

theorem batch_step {ν : Type x} (parts : ν → List μ) (s : σ) (frame : ν) :
    (T.batch parts).step s frame =
      ((T.yields s (parts frame)).map Prod.snd, T.after s (parts frame)) := rfl

theorem batch_after {ν : Type x} (parts : ν → List μ) (s : σ) (frames : List ν) :
    (T.batch parts).after s frames = T.after s (frames.flatMap parts) := by
  induction frames generalizing s with
  | nil => rfl
  | cons first rest ih => simp [batch_step, after_append, ← ih]

theorem batch_yields {ν : Type x} (parts : ν → List μ) (s : σ) (frames : List ν) :
    ((T.batch parts).yields s frames).map Prod.snd =
      (T.yields s (frames.flatMap parts)).map Prod.snd := by
  induction frames generalizing s with
  | nil => rfl
  | cons first rest ih =>
    rw [yields, List.flatMap_cons, yields_append]
    simp only [batch_step, List.map_append, List.map_map, Function.comp_def]
    cases T.after s (parts first) with
    | none => simp
    | some s' => simpa using ih s'

end Stream
end ExchangeRouter.Lib
