import ExchangeRouter.Lib.Run
import Mathlib.Data.Nat.Notation

/-!
# The synchronous stream bridge

`_LoopThread.iterate` of `client/exchange_router_client/client.py`.  The pump runs
the generator on the loop thread and offers its items, its error and the end
marker to a bounded queue; the consumer takes from it on its own thread.  A step
is one operation on the queue or one resumption of the generator, which decides
what the generator does.  What the consumer cancels once it has left is left out.
-/
namespace ExchangeRouter.Client.Bridge
open Lib

def streamBufferMax : ℕ := 1024

inductive Entry (A E : Type) where
  | item (a : A)
  | error (e : E)
  | sentinel
  deriving DecidableEq, Repr

/-- `pump` between two of its steps. -/
inductive Pump (A E : Type) where
  /-- In `async for`. -/
  | iterating
  /-- In `offer`, before `put_nowait`. -/
  | putting (entry : Entry A E)
  /-- In `offer`, after `put_nowait` raised `queue.Full`. -/
  | evicting (entry : Entry A E)
  /-- In `finally`, before `aclose` has returned. -/
  | closing
  | done
  deriving DecidableEq, Repr

inductive Consumer (E : Type) where
  | reading
  | ended
  | failed (e : E)
  deriving DecidableEq, Repr

/-- How the generator ended. -/
inductive Ending (E : Type) where
  | finished
  | raised (e : E)
  deriving DecidableEq, Repr

structure State (A E : Type) where
  items : List (Entry A E)
  pump : Pump A E
  consumer : Consumer E
  /-- What the generator produced, what `iterate` yielded and what `offer` discarded. -/
  produced : List A
  yielded : List A
  discarded : List (Entry A E)
  ending : Option (Ending E)
  deriving DecidableEq, Repr

variable {A E : Type}

def State.initial : State A E := ⟨[], .iterating, .reading, [], [], [], none⟩

/-- Where `pump` goes on once `offer` has returned. -/
def Entry.after : Entry A E → Pump A E
  | .item _ => .iterating
  | .error _ => .closing
  | .sentinel => .done

inductive Label (A E : Type) where
  | next (a : A)
  | finish
  | raise (e : E)
  | aclose
  | put
  | evict
  | get
  deriving DecidableEq, Repr

/-- The generator produces an item. -/
def next (s : State A E) (a : A) : Option (State A E) :=
  match s.pump with
  | .iterating => some { s with produced := s.produced ++ [a], pump := .putting (.item a) }
  | _ => none

def finish (s : State A E) : Option (State A E) :=
  match s.pump with
  | .iterating => some { s with ending := some .finished, pump := .closing }
  | _ => none

/-- The generator raises; `except Exception` passes over any other `BaseException`. -/
def raise (isException : E → Bool) (s : State A E) (e : E) : Option (State A E) :=
  match s.pump with
  | .iterating =>
    some { s with
      ending := some (.raised e)
      pump := if isException e then .putting (.error e) else .closing }
  | _ => none

/-- The generator has ended, so `aclose` has nothing to do. -/
def aclose (s : State A E) : Option (State A E) :=
  match s.pump with
  | .closing => some { s with pump := .putting .sentinel }
  | _ => none

/-- `items.put_nowait(item)`. -/
def put (capacity : ℕ) (s : State A E) : Option (State A E) :=
  match s.pump with
  | .putting entry =>
    if s.items.length < capacity then
      some { s with items := s.items ++ [entry], pump := entry.after }
    else some { s with pump := .evicting entry }
  | _ => none

/-- `items.get_nowait()` of `offer`; an empty queue is passed over. -/
def evict (s : State A E) : Option (State A E) :=
  match s.pump with
  | .evicting entry =>
    match s.items with
    | [] => some { s with pump := .putting entry }
    | oldest :: rest =>
      some { s with
        items := rest
        discarded := s.discarded ++ [oldest]
        pump := .putting entry }
  | _ => none

/-- `items.get()` of the consumer, and what it does with the entry. -/
def get (s : State A E) : Option (State A E) :=
  match s.consumer, s.items with
  | .reading, .item a :: rest => some { s with items := rest, yielded := s.yielded ++ [a] }
  | .reading, .error e :: rest => some { s with items := rest, consumer := .failed e }
  | .reading, .sentinel :: rest => some { s with items := rest, consumer := .ended }
  | _, _ => none

def step (capacity : ℕ) (isException : E → Bool) (s : State A E) :
    Label A E → Option (State A E)
  | .next a => next s a
  | .finish => finish s
  | .raise e => raise isException s e
  | .aclose => aclose s
  | .put => put capacity s
  | .evict => evict s
  | .get => get s

/-- All runs of one `iterate`. -/
def system (capacity : ℕ) (isException : E → Bool) : System (State A E) (Label A E) :=
  ⟨.initial, step capacity isException⟩

/-- The branches of a step, with their guards. -/
inductive Step (capacity : ℕ) (isException : E → Bool) (s : State A E) :
    Label A E → State A E → Prop
  | next {a : A} (pump : s.pump = .iterating) : Step capacity isException s (.next a)
      { s with produced := s.produced ++ [a], pump := .putting (.item a) }
  | finish (pump : s.pump = .iterating) : Step capacity isException s .finish
      { s with ending := some .finished, pump := .closing }
  | raiseCaught {e : E} (pump : s.pump = .iterating) (caught : isException e = true) :
      Step capacity isException s (.raise e)
        { s with ending := some (.raised e), pump := .putting (.error e) }
  | raisePast {e : E} (pump : s.pump = .iterating) (past : isException e = false) :
      Step capacity isException s (.raise e)
        { s with ending := some (.raised e), pump := .closing }
  | aclose (pump : s.pump = .closing) : Step capacity isException s .aclose
      { s with pump := .putting .sentinel }
  | put {entry : Entry A E} (pump : s.pump = .putting entry) (room : s.items.length < capacity) :
      Step capacity isException s .put { s with items := s.items ++ [entry], pump := entry.after }
  | full {entry : Entry A E} (pump : s.pump = .putting entry) (full : capacity ≤ s.items.length) :
      Step capacity isException s .put { s with pump := .evicting entry }
  | empty {entry : Entry A E} (pump : s.pump = .evicting entry) (items : s.items = []) :
      Step capacity isException s .evict { s with pump := .putting entry }
  | evict {entry oldest : Entry A E} {rest : List (Entry A E)} (pump : s.pump = .evicting entry)
      (items : s.items = oldest :: rest) : Step capacity isException s .evict
        { s with items := rest, discarded := s.discarded ++ [oldest], pump := .putting entry }
  | yield {a : A} {rest : List (Entry A E)} (reading : s.consumer = .reading)
      (items : s.items = .item a :: rest) : Step capacity isException s .get
        { s with items := rest, yielded := s.yielded ++ [a] }
  | fail {e : E} {rest : List (Entry A E)} (reading : s.consumer = .reading)
      (items : s.items = .error e :: rest) : Step capacity isException s .get
        { s with items := rest, consumer := .failed e }
  | stop {rest : List (Entry A E)} (reading : s.consumer = .reading)
      (items : s.items = .sentinel :: rest) : Step capacity isException s .get
        { s with items := rest, consumer := .ended }

theorem step_cases {capacity : ℕ} {isException : E → Bool} {s s' : State A E} {label : Label A E}
    (taken : step capacity isException s label = some s') :
    Step capacity isException s label s' := by
  cases label with
  | next a =>
    simp only [step, next] at taken
    split at taken
    · cases taken
      exact .next ‹_›
    · cases taken
  | finish =>
    simp only [step, finish] at taken
    split at taken
    · cases taken
      exact .finish ‹_›
    · cases taken
  | raise e =>
    simp only [step, raise] at taken
    split at taken
    · cases caught : isException e with
      | true =>
        simp only [caught, if_true] at taken
        cases taken
        exact .raiseCaught ‹_› caught
      | false =>
        simp only [caught, Bool.false_eq_true, if_false] at taken
        cases taken
        exact .raisePast ‹_› caught
    · cases taken
  | aclose =>
    simp only [step, aclose] at taken
    split at taken
    · cases taken
      exact .aclose ‹_›
    · cases taken
  | put =>
    simp only [step, put] at taken
    split at taken
    · split at taken
      · cases taken
        exact .put ‹_› ‹_›
      · rename_i full
        cases taken
        exact .full ‹_› (Nat.not_lt.mp full)
    · cases taken
  | evict =>
    simp only [step, evict] at taken
    split at taken
    · split at taken
      · cases taken
        exact .empty ‹_› ‹_›
      · cases taken
        exact .evict ‹_› ‹_›
    · cases taken
  | get =>
    simp only [step, get] at taken
    split at taken
    · cases taken
      exact .yield ‹_› ‹_›
    · cases taken
      exact .fail ‹_› ‹_›
    · cases taken
      exact .stop ‹_› ‹_›
    · cases taken

end ExchangeRouter.Client.Bridge
