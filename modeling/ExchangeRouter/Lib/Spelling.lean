import Mathlib.Data.List.DropRight
import Mathlib.Data.List.Forall2
import Mathlib.Data.Set.Function

/-!
# Native names and their short forms

Each kind of thing has native names, a short form of each, and the way back; a
short form may be spelled in several ways.  Once every spelling leads back to the
native name, the short forms are distinct and stable.
-/
namespace ExchangeRouter.Lib

universe u v w

section RoundTrip
variable {K : Type u} {N : Type v} {M : Type w}

/-- `expand` undoes `shorten` on the native names of each kind, and reads every
spelling of a short form alike. -/
structure RoundTrip (natives : K → Set N) (shorten : K → N → M) (expand : K → M → N)
    (spells : K → M → M → Prop) : Prop where
  back : ∀ kind, ∀ native ∈ natives kind, expand kind (shorten kind native) = native
  stable : ∀ kind, ∀ native ∈ natives kind,
    shorten kind (expand kind (shorten kind native)) = shorten kind native
  distinct : ∀ kind, Set.InjOn (shorten kind) (natives kind)
  spelled : ∀ kind, ∀ native ∈ natives kind, ∀ spelling,
    spells kind (shorten kind native) spelling →
      expand kind spelling = expand kind (shorten kind native)

variable {natives : K → Set N} {shorten : K → N → M} {expand : K → M → N}
  {spells : K → M → M → Prop}

/-- It is enough that a short form is a spelling of itself and that each spelling
leads back to the native name. -/
theorem RoundTrip.ofSpelled
    (own : ∀ kind, ∀ native ∈ natives kind,
      spells kind (shorten kind native) (shorten kind native))
    (read : ∀ kind, ∀ native ∈ natives kind, ∀ spelling,
      spells kind (shorten kind native) spelling → expand kind spelling = native) :
    RoundTrip natives shorten expand spells := by
  have back : ∀ kind, ∀ native ∈ natives kind, expand kind (shorten kind native) = native :=
    fun kind native member => read kind native member _ (own kind native member)
  refine ⟨back, ?_, ?_, ?_⟩
  · intro kind native member
    rw [back kind native member]
  · intro kind first isFirst second isSecond same
    rw [← back kind first isFirst, same, back kind second isSecond]
  · intro kind native member spelling spells
    rw [read kind native member spelling spells, back kind native member]

end RoundTrip

section Spelling
variable {A : Type u}

/-- Each letter is written as one of its forms, and separators may stand anywhere. -/
inductive Spells (form : A → A → Prop) (separators : List A) : List A → List A → Prop
  | nil : Spells form separators [] []
  | letter {c d : A} {word spelling : List A} (written : form c d)
      (rest : Spells form separators word spelling) :
      Spells form separators (c :: word) (d :: spelling)
  | separator {d : A} {word spelling : List A} (between : d ∈ separators)
      (rest : Spells form separators word spelling) : Spells form separators word (d :: spelling)

variable {form : A → A → Prop} {separators word spelling : List A} {fold : A → A}

/-- Without separators, folding the forms gives the word. -/
theorem map_of_forms (written : List.Forall₂ form word spelling)
    (folds : ∀ c d, form c d → fold d = c) : spelling.map fold = word := by
  induction written with
  | nil => rfl
  | cons first _ ih => rw [List.map_cons, folds _ _ first, ih]

variable [DecidableEq A]

/-- Without its separators, a spelling has a form for each letter. -/
theorem Spells.letters (spells : Spells form separators word spelling)
    (apart : ∀ c d, form c d → d ∉ separators) :
    List.Forall₂ form word (spelling.filter fun d => d ∉ separators) := by
  induction spells with
  | nil => exact .nil
  | @letter c d word spelling written _ ih =>
    rw [List.filter_cons_of_pos (by simpa using apart c d written)]
    exact .cons written ih
  | @separator d word spelling between _ ih =>
    rw [List.filter_cons_of_neg (by simpa using between)]
    exact ih

/-- The word is also read off when the forms are folded first. -/
theorem Spells.read (spells : Spells form separators word spelling)
    (folds : ∀ c d, form c d → fold d = c ∧ c ∉ separators)
    (fixed : ∀ d ∈ separators, fold d = d) :
    (spelling.map fold).filter (fun c => c ∉ separators) = word := by
  induction spells with
  | nil => rfl
  | @letter c d word spelling written _ ih =>
    obtain ⟨folded, apart⟩ := folds c d written
    rw [List.map_cons, folded, List.filter_cons_of_pos (by simpa using apart), ih]
  | @separator d word spelling between _ ih =>
    rw [List.map_cons, fixed d between, List.filter_cons_of_neg (by simpa using between), ih]

end Spelling
end ExchangeRouter.Lib
