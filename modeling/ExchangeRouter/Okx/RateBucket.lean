import Mathlib.Algebra.Order.Ring.Rat
import ExchangeRouter.Lib.Dict
import ExchangeRouter.Lib.Run
import ExchangeRouter.Lib.Window

/-!
# The rate bucket of the OKX adapter

`src/exchanges/okx/adapter.py`: `_RateBucket.acquire`.  The section under the
lock runs without an await, so it is one step and reads one time.  A caller
sleeps outside the lock and competes anew when it wakes; how long that takes on
the clock of `time.time` is left open.  `granted` records the grants, newest
first.
-/
namespace ExchangeRouter.Okx.RateBucket
open Lib

abbrev Time := ℚ

abbrev CallId := ℕ

structure Bucket where
  maxRequests : ℕ
  windowS : ℚ

/-- `waiting` has what each call last gave to `asyncio.sleep`, zero at first. -/
structure State where
  timestamps : List Time
  waiting : Dict CallId ℚ
  clock : Time
  granted : List Time

def State.initial (clock : Time) : State := ⟨[], .empty, clock, []⟩

inductive Event
  | call (id : CallId)
  /-- A call takes the lock; `jitter` is its `random.uniform(0, 0.05)`. -/
  | turn (id : CallId) (now : Time) (jitter : ℚ)

/-- `while self.timestamps and self.timestamps[0] < now - self.window: popleft()`. -/
def evict (bucket : Bucket) (timestamps : List Time) (now : Time) : List Time :=
  timestamps.dropWhile fun t => t < now - bucket.windowS

/-- The section of `acquire` under the lock, and the sleep behind it. -/
def State.acquire (bucket : Bucket) (s : State) (id : CallId) (now : Time) (jitter : ℚ) : State :=
  let timestamps := evict bucket s.timestamps now
  if timestamps.length < bucket.maxRequests then
    { timestamps := timestamps ++ [now]
      waiting := s.waiting.pop id
      clock := now
      granted := now :: s.granted }
  else
    match timestamps with
    | [] => { s with timestamps := [], waiting := s.waiting.pop id, clock := now }  -- `IndexError`
    | oldest :: _ =>
      let wait := oldest + bucket.windowS - now
      { s with timestamps, clock := now,
               waiting := s.waiting.set id (max wait (1 / 100) + jitter) }

def step (bucket : Bucket) (s : State) : Event → Option State
  | .call id =>
    match s.waiting.get? id with
    | some _ => none
    | none => some { s with waiting := s.waiting.set id 0 }
  | .turn id now jitter =>
    match s.waiting.get? id with
    | none => none
    | some _ =>
      if s.clock ≤ now ∧ 0 ≤ jitter ∧ jitter ≤ 1 / 20 then
        some (s.acquire bucket id now jitter)
      else none

/-- The clock begins at any time. -/
def system (bucket : Bucket) (clock : Time) : System State Event := ⟨.initial clock, step bucket⟩

variable {bucket : Bucket} {s s' : State} {event : Event}

/-- What each step can do: a turn evicts, and may grant. -/
inductive StepCase (bucket : Bucket) (s : State) : Event → State → Prop
  | called {id : CallId} {waiting : Dict CallId ℚ} :
    StepCase bucket s (.call id) { s with waiting := waiting }
  | granted {id : CallId} {now : Time} {jitter : ℚ} {waiting : Dict CallId ℚ}
      (later : s.clock ≤ now)
      (room : (evict bucket s.timestamps now).length < bucket.maxRequests) :
    StepCase bucket s (.turn id now jitter)
      ⟨evict bucket s.timestamps now ++ [now], waiting, now, now :: s.granted⟩
  | refused {id : CallId} {now : Time} {jitter : ℚ} {waiting : Dict CallId ℚ}
      (later : s.clock ≤ now) :
    StepCase bucket s (.turn id now jitter)
      ⟨evict bucket s.timestamps now, waiting, now, s.granted⟩

theorem stepCase_of_step (taken : step bucket s event = some s') : StepCase bucket s event s' := by
  cases event with
  | call id =>
    simp only [step] at taken
    split at taken
    · cases taken
    · cases taken
      exact .called
  | turn id now jitter =>
    simp only [step] at taken
    split at taken
    · cases taken
    · split at taken
      · rename_i guards
        cases taken
        unfold State.acquire
        dsimp only
        split
        · rename_i room
          exact .granted guards.1 room
        · split
          · rename_i empty
            have none : StepCase bucket s (.turn id now jitter)
                ⟨evict bucket s.timestamps now, s.waiting.pop id, now, s.granted⟩ :=
              .refused guards.1
            rwa [empty] at none
          · exact .refused guards.1
      · cases taken

/-- The deque is the newest part of the log, and everything before it is older
than the window. -/
structure Logged (bucket : Bucket) (s : State) : Prop where
  sorted : Ascending id s.timestamps
  past : ∀ g ∈ s.granted, g ≤ s.clock
  recent : ∃ old, s.granted = s.timestamps.reverse ++ old ∧ ∀ g ∈ old, g < s.clock - bucket.windowS
  bounded : AtMostPerWindow bucket.maxRequests bucket.windowS s.granted

theorem logged_initial (clock : Time) : Logged bucket (.initial clock) :=
  ⟨List.Pairwise.nil, by simp [State.initial], ⟨[], rfl, by simp⟩, atMostPerWindow_nil⟩

section Evict
variable {now : Time}

theorem evict_eq (inv : Logged bucket s) :
    evict bucket s.timestamps now = since id (now - bucket.windowS) s.timestamps :=
  inv.sorted.dropWhile_eq (now - bucket.windowS)

/-- Eviction keeps the deque the newest part of the log. -/
theorem Logged.evict (inv : Logged bucket s) (later : s.clock ≤ now) :
    Ascending id (evict bucket s.timestamps now) ∧
      ∃ old, s.granted = (evict bucket s.timestamps now).reverse ++ old ∧
        ∀ g ∈ old, g < now - bucket.windowS := by
  obtain ⟨old, log, outside⟩ := inv.recent
  obtain ⟨early, split, before⟩ := inv.sorted.split_since (now - bucket.windowS)
  rw [evict_eq inv]
  refine ⟨List.Pairwise.filter _ inv.sorted, early.reverse ++ old, ?_, fun g member => ?_⟩
  · rw [log, ← List.append_assoc, ← List.reverse_append, ← split]
  · rcases List.mem_append.mp member with evicted | older
    · exact before g (List.mem_reverse.mp evicted)
    · exact (outside g older).trans_le (sub_le_sub_right later _)

/-- The grants of the window up to now are those left in the deque. -/
theorem Logged.countP_recent (inv : Logged bucket s) (later : s.clock ≤ now) :
    (s.granted.countP fun g => now - bucket.windowS ≤ g) ≤
      (RateBucket.evict bucket s.timestamps now).length := by
  obtain ⟨-, old, log, outside⟩ := inv.evict later
  have none : (old.countP fun g => now - bucket.windowS ≤ g) = 0 :=
    List.countP_eq_zero.mpr fun g member => by
      rw [decide_eq_true_eq, not_le]
      exact outside g member
  rw [log, List.countP_append, none, Nat.add_zero, ← List.length_reverse]
  exact List.countP_le_length

end Evict

theorem logged_step (inv : Logged bucket s) (taken : step bucket s event = some s') :
    Logged bucket s' := by
  cases stepCase_of_step taken with
  | called => exact ⟨inv.sorted, inv.past, inv.recent, inv.bounded⟩
  | @granted id now jitter waiting later room =>
    obtain ⟨sorted, old, log, outside⟩ := inv.evict later
    refine ⟨List.pairwise_append.mpr ⟨sorted, List.pairwise_singleton _ _, ?_⟩,
      List.forall_mem_cons.mpr ⟨le_rfl, fun g member => (inv.past g member).trans later⟩,
      ⟨old, ?_, outside⟩, inv.bounded.grant ((inv.countP_recent later).trans_lt room)⟩
    · intro g kept t isNow
      obtain rfl := List.mem_singleton.mp isNow
      have member : g ∈ s.granted := log ▸ List.mem_append_left old (List.mem_reverse.mpr kept)
      exact (inv.past g member).trans later
    · rw [log, List.reverse_append, List.reverse_singleton, List.singleton_append,
        List.cons_append]
  | refused later =>
    obtain ⟨sorted, recent⟩ := inv.evict later
    exact ⟨sorted, fun g member => (inv.past g member).trans later, recent, inv.bounded⟩

theorem logged_reachable {clock : Time} (run : Reachable (system bucket clock) anyStep s) :
    Logged bucket s := by
  refine run.invariant (logged_initial clock) fun s event s' _ inv _ taken => ?_
  exact logged_step inv taken

/-- What is promised of a bucket: the deque is sorted and holds every grant of
the window up to now, and no closed window holds more than the maximum. -/
structure Bounded (bucket : Bucket) (s : State) : Prop where
  sorted : s.timestamps.Pairwise (· ≤ ·)
  held : ∃ old, s.granted = s.timestamps.reverse ++ old ∧ ∀ g ∈ old, g < s.clock - bucket.windowS
  grants : ∀ t, (s.granted.filter fun g => t ≤ g ∧ g ≤ t + bucket.windowS).length ≤
    bucket.maxRequests

/-- In every run of any number of calls, the bucket is bounded. -/
theorem acquire_bounded {clock : Time} (run : Reachable (system bucket clock) anyStep s) :
    Bounded bucket s := by
  have inv := logged_reachable run
  refine ⟨inv.sorted, inv.recent, fun t => ?_⟩
  rw [← List.countP_eq_length_filter]
  exact inv.bounded t

/-- Two calls of a bucket of one request in two seconds. -/
def twoCalls : List Event :=
  [.call 0, .call 1, .turn 0 10 0, .turn 1 10 0, .turn 1 12 (1 / 20), .turn 1 (2501 / 200) 0]

theorem twoCalls_ends : (system ⟨1, 2⟩ 0).endsIn (fun _ _ => true) twoCalls
    (fun s => s.timestamps = [2501 / 200] ∧ s.granted = [2501 / 200, 10]) = true := by
  decide +kernel

/-- At the end of the window the deque still holds the first grant, and the
second call waits once more. -/
theorem acquire_bounded_twoCalls : ∃ s, Reachable (system ⟨1, 2⟩ 0) anyStep s ∧
    s.granted = [2501 / 200, 10] ∧ Bounded ⟨1, 2⟩ s := by
  obtain ⟨s, run, ends⟩ := System.exists_reachable (fun _ _ _ _ => trivial) twoCalls_ends
  exact ⟨s, run, (of_decide_eq_true ends).2, acquire_bounded run⟩

end ExchangeRouter.Okx.RateBucket
