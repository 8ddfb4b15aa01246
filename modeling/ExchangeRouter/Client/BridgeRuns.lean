import ExchangeRouter.Client.Bridge
import ExchangeRouter.Lib.DropOldest

/-!
# What the synchronous stream bridge delivers

The entries of the queue and those that the pump still has to put make up one
list: the items that wait, then what the consumer is owed for the generator's
end.  `offer` discards at the head of that list.  It discards the error in front
of the end marker when a consumer has taken every item between the put that found
the queue full and the discard.
-/
namespace ExchangeRouter.Client.Bridge
open Lib

variable {A E : Type}

/-- What `pump` puts after `entry`, with no further item. -/
def Entry.later : Entry A E → List (Entry A E)
  | .error _ => [.sentinel]
  | _ => []

/-- What `pump` still has to put, as far as it is decided. -/
def Pump.pending : Pump A E → List (Entry A E)
  | .iterating => []
  | .putting entry => entry :: entry.later
  | .evicting entry => entry :: entry.later
  | .closing => [.sentinel]
  | .done => []

/-- The generator is still running. -/
def Pump.running : Pump A E → Bool
  | .iterating => true
  | .putting (.item _) => true
  | .evicting (.item _) => true
  | _ => false

@[simp] theorem Pump.pending_putting (entry : Entry A E) :
    (Pump.putting entry).pending = entry :: entry.later := rfl

@[simp] theorem Pump.pending_evicting (entry : Entry A E) :
    (Pump.evicting entry).pending = entry :: entry.later := rfl

@[simp] theorem Entry.pending_after (entry : Entry A E) : entry.after.pending = entry.later := by
  cases entry <;> rfl

@[simp] theorem Entry.running_after (entry : Entry A E) :
    entry.after.running = (Pump.putting entry).running := by
  cases entry <;> rfl

@[simp] theorem Pump.running_evicting (entry : Entry A E) :
    (Pump.evicting entry).running = (Pump.putting entry).running := by
  cases entry <;> rfl

def State.queued (s : State A E) : List (Entry A E) := s.items ++ s.pump.pending

/-- What the consumer is owed for the generator's end. -/
def owed : Option (Ending E) → List (Entry A E)
  | none => []
  | some .finished => [.sentinel]
  | some (.raised e) => [.error e, .sentinel]

section Line
variable {waiting : List A} {ending : Option (Ending E)} {rest : List (Entry A E)}

theorem line_item {a : A} (line : Entry.item a :: rest = waiting.map .item ++ owed ending) :
    ∃ waits, waiting = a :: waits ∧ rest = waits.map .item ++ owed ending := by
  cases waiting with
  | cons b waits =>
    simp only [List.map_cons, List.cons_append, List.cons.injEq, Entry.item.injEq] at line
    exact ⟨waits, by rw [line.1], line.2⟩
  | nil =>
    cases ending with
    | none => simp [owed] at line
    | some ending => cases ending <;> simp [owed] at line

theorem line_error {e : E} (line : Entry.error e :: rest = waiting.map .item ++ owed ending) :
    waiting = [] ∧ ending = some (.raised e) ∧ rest = [.sentinel] := by
  cases waiting with
  | cons b waits => simp at line
  | nil =>
    cases ending with
    | none => simp [owed] at line
    | some ending =>
      cases ending with
      | finished => simp [owed] at line
      | raised e' => simpa [owed, eq_comm] using line

theorem line_sentinel (line : Entry.sentinel :: rest = waiting.map .item ++ owed ending) :
    waiting = [] ∧ ending = some .finished ∧ rest = [] := by
  cases waiting with
  | cons b waits => simp at line
  | nil =>
    cases ending with
    | none => simp [owed] at line
    | some ending =>
      cases ending with
      | finished => simpa [owed] using line
      | raised e => simp [owed] at line

end Line

/-- How the consumer is to leave. -/
def Ending.outcome : Ending E → Consumer E
  | .finished => .ended
  | .raised e => .failed e

/-- The error reaches the queue, and `offer` does not discard it: when it is about
to make room for the end marker behind an error, the queue does not hold exactly
one entry. -/
def Spares (isException : E → Bool) (s : State A E) : Label A E → Prop
  | .raise e => isException e = true
  | .evict => ∀ e, s.pump = .evicting .sentinel → s.ending = some (.raised e) → s.items.length ≠ 1
  | _ => True

section Invariant
variable {capacity : ℕ} {isException : E → Bool} {s s' : State A E} {label : Label A E}

/-- Of what was produced, `dropped` was discarded and `waiting` is still to come. -/
structure Sound (capacity : ℕ) (s : State A E) (dropped waiting : List A) : Prop where
  discarded : s.discarded = dropped.map .item
  account : Accounted s.produced s.yielded dropped waiting
  bounded : s.items.length ≤ capacity
  running : s.ending = none ↔ s.pump.running = true
  reading : s.consumer = .reading → s.queued = waiting.map .item ++ owed s.ending
  failed : ∀ e, s.consumer = .failed e →
    s.ending = some (.raised e) ∧ waiting = [] ∧ s.queued = [.sentinel]
  ended : s.consumer = .ended → s.ending = some .finished ∧ waiting = [] ∧ s.queued = []

theorem Sound.start : Sound (A := A) (E := E) capacity .initial [] [] := by
  constructor <;> simp [State.initial, State.queued, Pump.pending, Pump.running, owed,
    Accounted.start]

/-- Before the generator has ended the consumer has not left. -/
theorem Sound.stillReading {dropped waiting : List A} (sound : Sound capacity s dropped waiting)
    (live : s.ending = none) : s.consumer = .reading := by
  cases left : s.consumer with
  | reading => rfl
  | ended => exact absurd ((sound.ended left).1.symm.trans live) (by simp)
  | failed e => exact absurd ((sound.failed e left).1.symm.trans live) (by simp)

theorem Sound.ofReading {dropped waiting : List A} (discarded : s.discarded = dropped.map .item)
    (account : Accounted s.produced s.yielded dropped waiting) (bounded : s.items.length ≤ capacity)
    (running : s.ending = none ↔ s.pump.running = true) (reading : s.consumer = .reading)
    (queued : s.queued = waiting.map .item ++ owed s.ending) :
    Sound capacity s dropped waiting := by
  constructor
  · exact discarded
  · exact account
  · exact bounded
  · exact running
  · exact fun _ => queued
  · intro e left
    exact absurd (reading.symm.trans left) (by simp)
  · intro left
    exact absurd (reading.symm.trans left) (by simp)

/-- The pump goes on while its entries and those of the queue stay in line. -/
theorem Sound.movePump {dropped waiting : List A} (sound : Sound capacity s dropped waiting)
    {items : List (Entry A E)} {pump : Pump A E} (same : items ++ pump.pending = s.queued)
    (bounded : items.length ≤ capacity) (running : pump.running = s.pump.running) :
    Sound capacity { s with items := items, pump := pump } dropped waiting := by
  constructor
  · exact sound.discarded
  · exact sound.account
  · exact bounded
  · simpa only [running] using sound.running
  · intro reading
    exact same.trans (sound.reading reading)
  · intro e left
    obtain ⟨ending, nothing, queued⟩ := sound.failed e left
    exact ⟨ending, nothing, same.trans queued⟩
  · intro left
    obtain ⟨ending, nothing, queued⟩ := sound.ended left
    exact ⟨ending, nothing, same.trans queued⟩

/-- While the generator runs on, the queue holds what waits. -/
theorem Sound.items_eq {dropped waiting : List A} (sound : Sound capacity s dropped waiting)
    (iterating : s.pump = .iterating) :
    s.ending = none ∧ s.consumer = .reading ∧ s.items = waiting.map .item := by
  have live : s.ending = none := sound.running.mpr (by simp [iterating, Pump.running])
  have reading := sound.stillReading live
  refine ⟨live, reading, ?_⟩
  simpa [State.queued, iterating, live, Pump.pending, owed] using sound.reading reading

/-- The generator ends, so its end is what `pump` has to put. -/
theorem Sound.close {dropped waiting : List A} (sound : Sound capacity s dropped waiting)
    (iterating : s.pump = .iterating) {ending : Ending E} {pump : Pump A E}
    (pending : pump.pending = owed (some ending)) (stopped : pump.running = false) :
    Sound capacity { s with ending := some ending, pump := pump } dropped waiting := by
  obtain ⟨-, reading, queued⟩ := sound.items_eq iterating
  apply Sound.ofReading
  · exact sound.discarded
  · exact sound.account
  · exact sound.bounded
  · simp [stopped]
  · exact reading
  · simp only [State.queued, queued, pending]

/-- `offer` finds an item at the head of the queue. -/
theorem Sound.oldest {dropped waiting : List A} (sound : Sound capacity s dropped waiting)
    {entry oldest : Entry A E} {rest : List (Entry A E)} (pump : s.pump = .evicting entry)
    (items : s.items = oldest :: rest) (spares : Spares isException s .evict) :
    s.consumer = .reading ∧ ∃ a waits, waiting = a :: waits ∧ oldest = .item a := by
  have queued : s.queued = oldest :: (rest ++ entry :: entry.later) := by
    simp [State.queued, items, pump, Pump.pending]
  cases left : s.consumer with
  | ended =>
    have nothing := (sound.ended left).2.2
    simp [queued] at nothing
  | failed e =>
    have marker := (sound.failed e left).2.2
    simp [queued] at marker
  | reading =>
    have line := queued.symm.trans (sound.reading left)
    cases oldest with
    | item a =>
      obtain ⟨waits, waiting_eq, -⟩ := line_item line
      exact ⟨rfl, a, waits, waiting_eq, rfl⟩
    | error e =>
      -- the end marker is the only entry behind the error, so the queue holds no other
      obtain ⟨-, ending, behind⟩ := line_error line
      have alone : rest = [] := by
        apply List.eq_nil_of_length_eq_zero
        have counted := congrArg List.length behind
        simp only [List.length_append, List.length_cons, List.length_nil] at counted
        omega
      have marker : entry = .sentinel := by
        rw [alone, List.nil_append, List.cons.injEq] at behind
        exact behind.1
      have lone := spares e (pump.trans (by rw [marker])) ending
      simp [items, alone] at lone
    | sentinel =>
      have behind := (line_sentinel line).2.2
      simp at behind

/-- `offer` discards the oldest item. -/
theorem Sound.evict {dropped waiting : List A} (sound : Sound capacity s dropped waiting)
    {entry oldest : Entry A E} {rest : List (Entry A E)} (pump : s.pump = .evicting entry)
    (items : s.items = oldest :: rest) (spares : Spares isException s .evict) :
    ∃ a waits, oldest = .item a ∧ Sound capacity
      { s with items := rest, discarded := s.discarded ++ [oldest], pump := .putting entry }
      (dropped ++ [a]) waits := by
  obtain ⟨reading, a, waits, rfl, rfl⟩ := sound.oldest pump items spares
  have line := sound.reading reading
  simp only [State.queued, items, pump, List.cons_append, List.map_cons, List.cons.injEq,
    true_and] at line
  have bounded := sound.bounded
  rw [items, List.length_cons] at bounded
  refine ⟨a, waits, rfl, ?_⟩
  apply Sound.ofReading
  · simp [sound.discarded]
  · exact sound.account.drop
  · exact Nat.le_of_succ_le bounded
  · simpa [pump] using sound.running
  · exact reading
  · exact line

/-- The consumer takes the oldest entry. -/
theorem Sound.taken {dropped waiting : List A} (sound : Sound capacity s dropped waiting)
    {entry : Entry A E} {rest : List (Entry A E)} (reading : s.consumer = .reading)
    (items : s.items = entry :: rest) :
    entry :: (rest ++ s.pump.pending) = waiting.map .item ++ owed s.ending ∧
      rest.length ≤ capacity := by
  constructor
  · have line := sound.reading reading
    rwa [State.queued, items, List.cons_append] at line
  · have bounded := sound.bounded
    rw [items, List.length_cons] at bounded
    exact Nat.le_of_succ_le bounded

theorem Sound.yield {dropped waiting : List A} (sound : Sound capacity s dropped waiting)
    {a : A} {rest : List (Entry A E)} (reading : s.consumer = .reading)
    (items : s.items = .item a :: rest) : ∃ waits,
    Sound capacity { s with items := rest, yielded := s.yielded ++ [a] } dropped waits := by
  obtain ⟨line, bounded⟩ := sound.taken reading items
  obtain ⟨waits, rfl, behind⟩ := line_item line
  apply Exists.intro waits
  apply Sound.ofReading
  · exact sound.discarded
  · exact sound.account.take
  · exact bounded
  · exact sound.running
  · exact reading
  · exact behind

theorem Sound.fail {dropped waiting : List A} (sound : Sound capacity s dropped waiting)
    {e : E} {rest : List (Entry A E)} (reading : s.consumer = .reading)
    (items : s.items = .error e :: rest) :
    Sound capacity { s with items := rest, consumer := .failed e } dropped waiting := by
  obtain ⟨line, bounded⟩ := sound.taken reading items
  obtain ⟨nothing, ending, marker⟩ := line_error line
  constructor
  · exact sound.discarded
  · exact sound.account
  · exact bounded
  · exact sound.running
  · exact fun left => absurd left (by simp)
  · intro e' left
    obtain rfl : e = e' := by simpa using left
    exact ⟨ending, nothing, marker⟩
  · exact fun left => absurd left (by simp)

theorem Sound.stop {dropped waiting : List A} (sound : Sound capacity s dropped waiting)
    {rest : List (Entry A E)} (reading : s.consumer = .reading)
    (items : s.items = .sentinel :: rest) :
    Sound capacity { s with items := rest, consumer := .ended } dropped waiting := by
  obtain ⟨line, bounded⟩ := sound.taken reading items
  obtain ⟨nothing, ending, behind⟩ := line_sentinel line
  constructor
  · exact sound.discarded
  · exact sound.account
  · exact bounded
  · exact sound.running
  · exact fun left => absurd left (by simp)
  · exact fun e left => absurd left (by simp)
  · exact fun _ => ⟨ending, nothing, behind⟩

theorem Sound.produce {dropped waiting : List A} (sound : Sound capacity s dropped waiting)
    (iterating : s.pump = .iterating) (a : A) :
    Sound capacity { s with produced := s.produced ++ [a], pump := .putting (.item a) } dropped
      (waiting ++ [a]) := by
  obtain ⟨live, reading, queued⟩ := sound.items_eq iterating
  apply Sound.ofReading
  · exact sound.discarded
  · exact sound.account.put a
  · exact sound.bounded
  · simp [live, Pump.running]
  · exact reading
  · simp [State.queued, Pump.pending, Entry.later, queued, live, owed]

theorem Sound.afterStep {dropped waiting : List A} (sound : Sound capacity s dropped waiting)
    (spares : Spares isException s label) (taken : step capacity isException s label = some s') :
    ∃ dropped' waiting', Sound capacity s' dropped' waiting' := by
  cases step_cases taken with
  | next pump => exact ⟨_, _, sound.produce pump _⟩
  | finish pump => exact ⟨_, _, sound.close pump rfl rfl⟩
  | raiseCaught pump caught => exact ⟨_, _, sound.close pump rfl rfl⟩
  | raisePast pump past => exact absurd (past.symm.trans spares) (by simp)
  | aclose pump =>
    exact ⟨_, _, sound.movePump (by simp [State.queued, pump, Pump.pending, Entry.later])
      sound.bounded (by simp [pump, Pump.running])⟩
  | @put entry pump room =>
    have bounded : (s.items ++ [entry]).length ≤ capacity := by
      rw [List.length_append]
      exact room
    exact ⟨_, _, sound.movePump (by simp [State.queued, pump]) bounded (by simp [pump])⟩
  | full pump full =>
    exact ⟨_, _, sound.movePump (by simp [State.queued, pump]) sound.bounded
      (by simp [pump])⟩
  | empty pump items =>
    exact ⟨_, _, sound.movePump (by simp [State.queued, pump]) sound.bounded
      (by simp [pump])⟩
  | evict pump items =>
    obtain ⟨a, waits, -, after⟩ := sound.evict pump items spares
    exact ⟨_, _, after⟩
  | yield reading items =>
    obtain ⟨waits, after⟩ := sound.yield reading items
    exact ⟨_, _, after⟩
  | fail reading items => exact ⟨_, _, sound.fail reading items⟩
  | stop reading items => exact ⟨_, _, sound.stop reading items⟩

end Invariant

/-- What a state owes its readers: the items yielded and discarded are all that was
produced once the consumer has left, and it has left as the generator ended. -/
structure Delivers (s : State A E) : Prop where
  order : s.yielded.Sublist s.produced
  onlyItems : ∃ dropped : List A, s.discarded = dropped.map .item ∧
    (s.consumer ≠ .reading → Shuffle s.yielded dropped s.produced)
  outcome : s.consumer ≠ .reading →
    ∃ ending, s.ending = some ending ∧ s.consumer = ending.outcome

/-- A step takes nothing from the queue but for the consumer, or it discards the
oldest entry, an item. -/
def DiscardsOldest (s s' : State A E) : Prop :=
  s'.discarded = s.discarded ∨
    ∃ a rest, s.items = .item a :: rest ∧ s'.items = rest ∧
      s'.discarded = s.discarded ++ [.item a]

section Runs
variable {capacity : ℕ} {isException : E → Bool} {s s' : State A E} {label : Label A E}
  {labels : List (Label A E)}

theorem Sound.delivers {dropped waiting : List A} (sound : Sound capacity s dropped waiting) :
    Delivers s := by
  constructor
  · exact sound.account.taken_sublist
  · apply Exists.intro dropped
    constructor
    · exact sound.discarded
    · intro left
      have nothing : waiting = [] := by
        cases consumer : s.consumer with
        | reading => exact absurd consumer left
        | ended => exact (sound.ended consumer).2.1
        | failed e => exact (sound.failed e consumer).2.1
      have account := sound.account
      rw [nothing] at account
      exact account.shuffle
  · intro left
    cases consumer : s.consumer with
    | reading => exact absurd consumer left
    | ended => exact ⟨.finished, (sound.ended consumer).1, rfl⟩
    | failed e => exact ⟨.raised e, (sound.failed e consumer).1, rfl⟩

theorem Sound.discards {dropped waiting : List A} (sound : Sound capacity s dropped waiting)
    (spares : Spares isException s label) (taken : step capacity isException s label = some s') :
    DiscardsOldest s s' := by
  cases step_cases taken with
  | evict pump items =>
    obtain ⟨a, waits, rfl, -⟩ := sound.evict pump items spares
    exact .inr ⟨a, _, items, rfl, rfl⟩
  | _ => exact .inl rfl

theorem sound_of_run (run : Steps (system capacity isException) (Spares isException)
    .initial labels s) : ∃ dropped waiting, Sound capacity s dropped waiting := by
  induction run with
  | none => exact ⟨[], [], .start⟩
  | snoc _ permitted taken ih =>
    obtain ⟨dropped, waiting, sound⟩ := ih
    exact sound.afterStep permitted taken

/-- `pump` makes room only after a put that found the queue full, with nothing but
the consumer in between. -/
def FoundFull (capacity : ℕ) (isException : E → Bool) (labels : List (Label A E)) : Prop :=
  ∃ before gets t, labels = before ++ .put :: gets ∧ (∀ label ∈ gets, label = .get) ∧
    Steps (system capacity isException) anyStep .initial before t ∧ capacity ≤ t.items.length

theorem foundFull_of_evicting
    (run : Steps (system capacity isException) anyStep .initial labels s) {entry : Entry A E}
    (evicting : s.pump = .evicting entry) : FoundFull capacity isException labels := by
  induction run with
  | none => simp [State.initial] at evicting
  | @snoc t u labels label earlier permitted taken ih =>
    have consumerStep (get : label = .get) (same : u.pump = t.pump) :
        FoundFull capacity isException (labels ++ [label]) := by
      obtain ⟨before, gets, full, rfl, only, reached, bound⟩ := ih (same.symm.trans evicting)
      refine ⟨before, gets ++ [label], full, by simp, ?_, reached, bound⟩
      intro other member
      rcases List.mem_append.mp member with old | new
      · exact only other old
      · rw [List.mem_singleton.mp new, get]
    cases step_cases taken with
    | full pump full => exact ⟨labels, [], t, rfl, by simp, earlier, full⟩
    | @put entry' pump room =>
      simp only at evicting
      cases entry' <;> simp [Entry.after] at evicting
    | yield reading items => exact consumerStep rfl rfl
    | fail reading items => exact consumerStep rfl rfl
    | stop reading items => exact consumerStep rfl rfl
    | _ => simp at evicting

/-- The steps left of `pump` once `entry` is in the queue. -/
def Entry.rank : Entry A E → ℕ
  | .error _ => 5
  | _ => 0

/-- The steps left of `pump` once the generator has ended, at most. -/
def Pump.rank (room : Bool) : Pump A E → ℕ
  | .iterating => 0
  | .putting entry => entry.rank + if room then 2 else 4
  | .evicting entry => entry.rank + 3
  | .closing => 5
  | .done => 0

def State.remaining (capacity : ℕ) (s : State A E) : ℕ :=
  s.items.length + s.pump.rank (s.items.length < capacity)

theorem Pump.rank_putting (entry : Entry A E) (room : Bool) :
    (Pump.putting entry).rank room = entry.rank + if room then 2 else 4 := rfl

theorem Pump.rank_evicting (entry : Entry A E) (room : Bool) :
    (Pump.evicting entry).rank room = entry.rank + 3 := rfl

theorem Pump.rank_closing (room : Bool) : (Pump.closing : Pump A E).rank room = 5 := rfl

theorem Entry.rank_after (entry : Entry A E) (room : Bool) :
    entry.after.rank room = entry.rank := by
  cases entry <;> rfl

theorem Pump.rank_mono (pump : Pump A E) (room : Bool) : pump.rank true ≤ pump.rank room := by
  cases room with
  | true => exact Nat.le_refl _
  | false => cases pump <;> simp [Pump.rank]

theorem Entry.rank_le (entry : Entry A E) : entry.rank ≤ 5 := by
  cases entry <;> simp [Entry.rank]

theorem State.remaining_le (bounded : s.items.length ≤ capacity) :
    s.remaining capacity ≤ capacity + 9 := by
  unfold State.remaining
  have rank : s.pump.rank (s.items.length < capacity) ≤ 9 := by
    cases s.pump with
    | putting entry =>
      have := entry.rank_le
      simp only [Pump.rank]
      split <;> omega
    | evicting entry =>
      have := entry.rank_le
      simp only [Pump.rank]
      omega
    | _ => simp [Pump.rank]
  omega

/-- Once the generator has ended every step brings the end nearer. -/
theorem Sound.lowers {dropped waiting : List A} (sound : Sound capacity s dropped waiting)
    (positive : 0 < capacity) (ended : s.ending ≠ none)
    (taken : Bridge.step capacity isException s label = some s') :
    s'.ending = s.ending ∧ s'.remaining capacity < s.remaining capacity := by
  have stopped : s.pump ≠ .iterating := by
    intro iterating
    exact ended (sound.running.mpr (by simp [iterating, Pump.running]))
  have consumerStep {entry : Entry A E} {rest : List (Entry A E)}
      (items : s.items = entry :: rest) :
      rest.length + s.pump.rank (rest.length < capacity) < s.remaining capacity := by
    have bounded := sound.bounded
    have room : rest.length < capacity := by simpa [items, Nat.succ_le_iff] using bounded
    have rank := s.pump.rank_mono (s.items.length < capacity)
    simp only [State.remaining, items, List.length_cons] at rank ⊢
    simp only [room, decide_true]
    omega
  cases step_cases taken with
  | next pump => exact absurd pump stopped
  | finish pump => exact absurd pump stopped
  | raiseCaught pump caught => exact absurd pump stopped
  | raisePast pump past => exact absurd pump stopped
  | aclose pump =>
    refine ⟨rfl, ?_⟩
    simp only [State.remaining, pump, Pump.rank_putting, Pump.rank_closing, Entry.rank]
    split <;> omega
  | put pump room =>
    refine ⟨rfl, ?_⟩
    simp only [State.remaining, pump, Pump.rank_putting, Entry.rank_after, List.length_append,
      List.length_singleton, room, decide_true, if_true]
    omega
  | full pump full =>
    refine ⟨rfl, ?_⟩
    simp only [State.remaining, pump, Pump.rank_putting, Pump.rank_evicting,
      Nat.not_lt.mpr full, decide_false, Bool.false_eq_true, if_false]
    omega
  | empty pump items =>
    refine ⟨rfl, ?_⟩
    simp only [State.remaining, pump, Pump.rank_putting, Pump.rank_evicting, items,
      List.length_nil, positive, decide_true, if_true]
    omega
  | evict pump items =>
    have bounded := sound.bounded
    simp only [items, List.length_cons] at bounded
    refine ⟨rfl, ?_⟩
    simp only [State.remaining, pump, Pump.rank_putting, Pump.rank_evicting, items,
      List.length_cons, Nat.lt_of_succ_le bounded, decide_true, if_true]
    omega
  | yield reading items => exact ⟨rfl, consumerStep items⟩
  | fail reading items => exact ⟨rfl, consumerStep items⟩
  | stop reading items => exact ⟨rfl, consumerStep items⟩

/-- A consumer that reads is not left behind by an ended generator. -/
theorem Sound.progress {dropped waiting : List A} (sound : Sound capacity s dropped waiting)
    (ended : s.ending ≠ none) (reading : s.consumer = .reading) :
    ∃ label s', Spares isException s label ∧
      Bridge.step capacity isException s label = some s' := by
  cases items : s.items with
  | cons oldest rest =>
    have spares : Spares isException s .get := trivial
    cases oldest <;> exact ⟨.get, _, spares, by simp [Bridge.step, get, reading, items]; rfl⟩
  | nil =>
    cases pump : s.pump with
    | iterating => exact absurd (sound.running.mpr (by simp [pump, Pump.running])) ended
    | putting entry =>
      by_cases room : s.items.length < capacity
      · exact ⟨.put, _, trivial, by simp only [Bridge.step, put, pump, room, if_true]; rfl⟩
      · exact ⟨.put, _, trivial, by simp only [Bridge.step, put, pump, room, if_false]; rfl⟩
    | evicting entry =>
      have spares : Spares isException s .evict := by
        intro e _ _
        simp [items]
      exact ⟨.evict, _, spares, by simp only [Bridge.step, Bridge.evict, pump, items]; rfl⟩
    | closing => exact ⟨.aclose, _, trivial, by simp only [Bridge.step, aclose, pump]; rfl⟩
    | done =>
      have line := sound.reading reading
      simp only [State.queued, items, pump, Pump.pending, List.append_nil] at line
      cases ending : s.ending with
      | none => exact absurd ending ended
      | some ending' => cases ending' <;> simp [ending, owed] at line

/-- Once the generator has ended, a run has a last step, and then the consumer has
left as the generator did. -/
def Terminates (capacity : ℕ) (isException : E → Bool) (s : State A E) : Prop :=
  ∀ ending, s.ending = some ending → ∀ more t,
    Steps (system capacity isException) (Spares isException) s more t →
      more.length ≤ capacity + 9 ∧
        ((∀ label u, Spares isException t label → step capacity isException t label ≠ some u) →
          t.consumer = ending.outcome)

theorem Sound.terminates {dropped waiting : List A} (sound : Sound capacity s dropped waiting)
    (positive : 0 < capacity) : Terminates capacity isException s := by
  intro ending ended more t run
  have keep : ∀ t label u, (t.ending = some ending ∧ ∃ dropped waiting,
      Sound (A := A) capacity t dropped waiting) → Spares isException t label →
      (system capacity isException).step t label = some u →
      (u.ending = some ending ∧ ∃ dropped waiting, Sound capacity u dropped waiting) ∧
        u.remaining capacity < t.remaining capacity := by
    intro t label u held spares taken
    obtain ⟨known, dropped, waiting, sound⟩ := held
    obtain ⟨same, lower⟩ := sound.lowers positive (by simp [known]) taken
    exact ⟨⟨same.trans known, sound.afterStep spares taken⟩, lower⟩
  obtain ⟨⟨known, dropped', waiting', sound'⟩, bound⟩ :=
    run.length_le keep ⟨ended, dropped, waiting, sound⟩
  constructor
  · have most := State.remaining_le sound.bounded
    omega
  · intro stuck
    have left : t.consumer ≠ .reading := by
      intro reading
      obtain ⟨label, u, spares, taken⟩ := sound'.progress (by simp [known]) reading
      exact stuck label u spares taken
    obtain ⟨ending', ended', leaves⟩ := sound'.delivers.outcome left
    rw [known, Option.some.injEq] at ended'
    rw [leaves, ended']

end Runs

/-- In every run that spares the error, the bridge delivers, it discards only the
oldest item and only right after a put found the queue full, and it terminates once
the generator has ended. -/
theorem iterate_delivers {capacity : ℕ} {isException : E → Bool} (positive : 0 < capacity)
    {labels : List (Label A E)} {s : State A E}
    (run : Steps (system capacity isException) (Spares isException) .initial labels s) :
    Delivers s ∧
    (∀ label s', Spares isException s label → step capacity isException s label = some s' →
      DiscardsOldest s s' ∧ (s'.discarded ≠ s.discarded → FoundFull capacity isException labels)) ∧
    Terminates capacity isException s := by
  obtain ⟨dropped, waiting, sound⟩ := sound_of_run run
  refine ⟨sound.delivers, ?_, sound.terminates positive⟩
  intro label s' spares taken
  refine ⟨sound.discards spares taken, ?_⟩
  intro discards
  have anyRun : Steps (system capacity isException) anyStep .initial labels s :=
    run.mono fun _ _ _ => trivial
  cases step_cases taken with
  | evict pump items => exact foundFull_of_evicting anyRun pump
  | _ => exact absurd rfl discards

/-- Two entries fit.  The third item and the error each make room for themselves, and
the consumer takes both entries before `pump` makes room for the end marker. -/
def crowdedRun : List (Label ℕ Unit) :=
  [.next 0, .put, .next 1, .put, .next 2, .put, .evict, .put, .raise (), .put, .evict, .put,
    .aclose, .put, .get, .get, .evict, .put]

def crowdedEnd : State ℕ Unit :=
  ⟨[.sentinel], .done, .failed (), [0, 1, 2], [2], [.item 0, .item 1], some (.raised ())⟩

/-- Decides `Spares`. -/
def sparesB (isException : Unit → Bool) (s : State ℕ Unit) : Label ℕ Unit → Bool
  | .raise e => isException e
  | .evict => s.items.length != 1
  | _ => true

theorem crowdedRun_steps : Steps (system 2 fun _ => true) (Spares fun _ => true) .initial
    crowdedRun crowdedEnd := by
  apply System.steps_exec
  rotate_left
  · exact (by decide : (system 2 fun _ => true).exec (sparesB fun _ => true) .initial crowdedRun =
      some crowdedEnd)
  · intro s label _ checked
    cases label with
    | evict =>
      intro e _ _
      simpa [sparesB] using checked
    | raise e => rfl
    | _ => trivial

theorem iterate_delivers_crowded : crowdedEnd.discarded = [.item 0, .item 1] ∧
    Delivers crowdedEnd ∧ Terminates 2 (fun _ => true) crowdedEnd := by
  have delivered := iterate_delivers (by decide) crowdedRun_steps
  exact ⟨rfl, delivered.1, delivered.2.2⟩

section Loss
variable {capacity : ℕ} {isException : E → Bool}

/-- The generator fills the queue. -/
theorem reachable_filled (a : A) {k : ℕ} (room : k ≤ capacity) :
    Reachable (system capacity isException) anyStep
      ⟨List.replicate k (.item a), .iterating, .reading, List.replicate k a, [], [], none⟩ := by
  induction k with
  | zero => exact .init
  | succ k ih =>
    have produced := (ih (Nat.le_of_succ_le room)).next (a := .next a) trivial rfl
    apply produced.next (a := .put) trivial
    simp [system, step, put, Nat.lt_of_succ_le room, Entry.after, List.replicate_succ']

/-- The consumer takes the items at the head of the queue. -/
theorem reachable_drained (a : A) {k : ℕ} {rest discarded : List (Entry A E)} {pump : Pump A E}
    {produced yielded : List A} {ending : Option (Ending E)}
    (full : Reachable (system capacity isException) anyStep
      ⟨List.replicate k (.item a) ++ rest, pump, .reading, produced, yielded, discarded, ending⟩) :
    Reachable (system capacity isException) anyStep
      ⟨rest, pump, .reading, produced, yielded ++ List.replicate k a, discarded, ending⟩ := by
  induction k generalizing yielded with
  | zero => simpa using full
  | succ k ih =>
    have fewer := ih (full.next (a := .get) trivial rfl)
    simpa [List.replicate_succ] using fewer

/-- The error is the last entry that fits, and between the put that finds the queue
full and the discard the consumer takes every item. -/
theorem reachable_lost (a : A) {e : E} {k : ℕ} (size : capacity = k + 1)
    (caught : isException e = true) :
    Reachable (system capacity isException) anyStep
      ⟨[], .done, .ended, List.replicate k a, List.replicate k a, [.error e],
        some (.raised e)⟩ := by
  have raised : Reachable (system capacity isException) anyStep
      ⟨List.replicate k (.item a), .putting (.error e), .reading, List.replicate k a, [], [],
        some (.raised e)⟩ := by
    have room : k ≤ capacity := by omega
    apply (reachable_filled a room).next (a := .raise e) trivial
    simp [system, step, raise, caught]
  have closing : Reachable (system capacity isException) anyStep
      ⟨List.replicate k (.item a) ++ [.error e], .closing, .reading, List.replicate k a, [], [],
        some (.raised e)⟩ := by
    apply raised.next (a := .put) trivial
    simp [system, step, put, size, Entry.after]
  have full : Reachable (system capacity isException) anyStep
      ⟨List.replicate k (.item a) ++ [.error e], .evicting .sentinel, .reading,
        List.replicate k a, [], [], some (.raised e)⟩ := by
    apply (closing.next (a := .aclose) trivial rfl).next (a := .put) trivial
    simp [system, step, put, size]
  have evicted := (reachable_drained a full).next (a := .evict) trivial rfl
  have marked : Reachable (system capacity isException) anyStep
      ⟨[.sentinel], .done, .reading, List.replicate k a, List.replicate k a, [.error e],
        some (.raised e)⟩ := by
    apply evicted.next (a := .put) trivial
    simp [system, step, put, size, Entry.after]
  exact marked.next (a := .get) trivial rfl

/-- With 1023 items in the queue, the error is discarded and the consumer ends as if
the generator had finished. -/
theorem error_discarded : ∃ s : State ℕ Unit,
    Reachable (system streamBufferMax fun _ => true) anyStep s ∧
      s.ending = some (.raised ()) ∧ s.consumer = .ended ∧ .error () ∈ s.discarded ∧
      ¬ Delivers s := by
  have size : streamBufferMax = 1023 + 1 := rfl
  have lost : Reachable (system streamBufferMax fun _ => true) anyStep _ :=
    reachable_lost 0 size (e := ()) rfl
  refine ⟨_, lost, rfl, rfl, List.mem_singleton_self _, ?_⟩
  intro delivers
  obtain ⟨ending, known, left⟩ := delivers.outcome (by simp)
  rw [← Option.some.inj known] at left
  cases left

end Loss
end ExchangeRouter.Client.Bridge
