import Mathlib.Algebra.Order.Ring.Rat
import Mathlib.Data.List.Forall2
import Mathlib.Data.List.ReduceOption

/-!
# Decoded JSON values

What `json()` and `orjson.loads` give to Python code, with the accesses that
Python code makes to it and the exceptions these raise.  Finite numbers only.
-/
namespace ExchangeRouter.Lib

inductive Json
  | null
  | bool (b : Bool)
  | num (q : ℚ)
  | str (s : String)
  | arr (items : List Json)
  | obj (fields : List (String × Json))

/-- The exception classes that the callers tell apart. -/
inductive PyError
  | valueError (text : String)
  | keyError (key : String)
  | typeError
  | attributeError
  | other (name : String)
  deriving DecidableEq, Repr

def PyError.isValueError : PyError → Bool
  | .valueError _ => true
  | _ => false

theorem bind_eq_ok {ε α β : Type} {x : Except ε α} {f : α → Except ε β} {b : β} :
    x >>= f = .ok b ↔ ∃ a, x = .ok a ∧ f a = .ok b := by
  cases x <;> simp [bind, Except.bind]

theorem mapM_eq_ok {ε α β : Type} {f : α → Except ε β} {l : List α} {out : List β}
    (each : List.Forall₂ (fun a b => f a = .ok b) l out) : l.mapM f = .ok out := by
  induction each with
  | nil => rfl
  | cons first _ ih =>
    rw [List.mapM_cons, first, ih]
    rfl

theorem reduceOption_map_some {α : Type} (l : List α) : (l.map some).reduceOption = l := by
  induction l with
  | nil => rfl
  | cons a rest ih => rw [List.map_cons, List.reduceOption_cons_of_some, ih]

theorem mapM_eq_ok_some {ε α β : Type} {f : α → Except ε (Option β)} {l : List α} {out : List β}
    (each : List.Forall₂ (fun a b => f a = .ok (some b)) l out) :
    l.mapM f = .ok (out.map some) :=
  mapM_eq_ok (List.forall₂_map_right_iff.mpr each)

/-- Lists related one by one, through a third. -/
theorem forall₂_comp {α β γ : Type} {R : α → β → Prop} {S : β → γ → Prop} {T : α → γ → Prop}
    {l : List α} {m : List β} {n : List γ} (first : List.Forall₂ R l m)
    (second : List.Forall₂ S m n) (both : ∀ a b c, R a b → S b c → T a c) :
    List.Forall₂ T l n := by
  induction first generalizing n with
  | nil =>
    cases second
    exact .nil
  | cons head _ ih =>
    cases second with
    | cons next rest => exact .cons (both _ _ _ head next) (ih rest)

/-- A step that succeeds on each element, and what relates its results. -/
theorem forall₂_mapM {ε α β γ : Type} {R : α → β → Prop} {S : α → γ → Prop} {f : β → Except ε γ}
    {l : List α} {m : List β} (related : List.Forall₂ R l m)
    (step : ∀ a ∈ l, ∀ b, R a b → ∃ c, f b = .ok c ∧ S a c) :
    ∃ out, m.mapM f = .ok out ∧ List.Forall₂ S l out := by
  induction related with
  | nil => exact ⟨[], rfl, .nil⟩
  | @cons a b l m head _ ih =>
    obtain ⟨c, made, relates⟩ := step a List.mem_cons_self b head
    obtain ⟨out, later, rest⟩ := ih fun a member => step a (List.mem_cons_of_mem _ member)
    refine ⟨c :: out, ?_, .cons relates rest⟩
    rw [List.mapM_cons, made, later]
    rfl

/-- `float` and `int` of a text; `none` is a `ValueError`. -/
structure TextNumbers where
  float : String → Option ℚ
  int : String → Option ℤ

/-- No text is a number: where numbers are given as such. -/
def noTexts : TextNumbers := ⟨fun _ => none, fun _ => none⟩

namespace Json

/-- `value[key]` with a text key. -/
def item (value : Json) (key : String) : Except PyError Json :=
  match value with
  | .obj fields =>
    match fields.lookup key with
    | some found => .ok found
    | none => .error (.keyError key)
  | _ => .error .typeError

/-- `value[i]`. -/
def index (value : Json) (i : ℕ) : Except PyError Json :=
  let within := fun items : List Json =>
    match items[i]? with
    | some found => .ok found
    | none => .error (.other "IndexError")
  match value with
  | .arr items => within items
  | .str s => within (s.toList.map fun c => .str c.toString)
  | .obj _ => .error (.keyError (toString i))
  | _ => .error .typeError

/-- What `for x in value` goes through. -/
def elements : Json → Except PyError (List Json)
  | .arr items => .ok items
  | .obj fields => .ok (fields.map fun field => .str field.1)
  | .str s => .ok (s.toList.map fun c => .str c.toString)
  | _ => .error .typeError

/-- `value.get(key)`, told apart from a present `null`. -/
def get? (value : Json) (key : String) : Except PyError (Option Json) :=
  match value with
  | .obj fields => .ok (fields.lookup key)
  | _ => .error .attributeError

/-- `value.get(key, fallback)`. -/
def getD (value : Json) (key : String) (fallback : Json) : Except PyError Json :=
  (value.get? key).map fun found => found.getD fallback

/-- `value == n` for a number `n`; in Python `True == 1`. -/
def isNumber (value : Json) (n : ℚ) : Bool :=
  match value with
  | .num q => q = n
  | .bool b => (if b then 1 else 0) = n
  | _ => false

/-- `value == text` for a text. -/
def isText (value : Json) (text : String) : Bool :=
  match value with
  | .str s => s = text
  | _ => false

/-- `bool(value)`. -/
def truthy : Json → Bool
  | .null => false
  | .bool b => b
  | .num q => q ≠ 0
  | .str s => s ≠ ""
  | .arr items => !items.isEmpty
  | .obj fields => !fields.isEmpty

/-- `value or fallback`. -/
def or (value fallback : Json) : Json := if value.truthy then value else fallback

/-- `float(value)`, in exact arithmetic. -/
def float (text : TextNumbers) : Json → Except PyError ℚ
  | .num q => .ok q
  | .bool b => .ok (if b then 1 else 0)
  | .str s =>
    match text.float s with
    | some q => .ok q
    | none => .error (.valueError "could not convert string to float")
  | _ => .error .typeError

/-- `int(value)`. -/
def int (text : TextNumbers) : Json → Except PyError ℤ
  | .num q => .ok (q.num.tdiv q.den)
  | .bool b => .ok (if b then 1 else 0)
  | .str s =>
    match text.int s with
    | some n => .ok n
    | none => .error (.valueError "invalid literal for int()")
  | _ => .error .typeError

end Json
end ExchangeRouter.Lib
