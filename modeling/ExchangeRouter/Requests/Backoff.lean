import Mathlib.Tactic.Linarith
import ExchangeRouter.Lib.Run
import ExchangeRouter.Requests.Budget

/-!
# Requests that slip through a backoff window

Any number of `_make_request` calls on the adapters.  A call reads the shared
deadline, sleeps for what it read and then issues its request without reading
again; on OKX a request may also queue at the semaphore and the rate bucket.
`slipped` counts the requests issued before the deadline in force since a
response set it.
-/
namespace ExchangeRouter.Requests
open Lib

/-- One `_backoff_until`: Binance keeps one for each host, the others one for
the adapter. -/
inductive DeadlineKey
  | binance (host : String)
  | bybit
  | okx
  | kucoin
  | hyperliquid
  deriving DecidableEq, Repr

def Adapter.key : Adapter → DeadlineKey
  | .binance host _ => .binance host
  | .bybit _ => .bybit
  | .okx _ => .okx
  | .kucoin _ _ => .kucoin
  | .hyperliquid _ => .hyperliquid

/-- A suspension lies between the check of the deadline and the request:
`async with self._request_sem` and `await bucket.acquire()` of OKX. -/
def Adapter.queues : Adapter → Bool
  | .okx _ => true
  | _ => false

abbrev CallId := ℕ

inductive Phase
  /-- At the head of the loop, from the given time on. -/
  | head (ready : Time)
  /-- Past the check: issues its request at the given time or later. -/
  | committed (earliest : Time)
  | inFlight
  deriving DecidableEq, Repr

structure Call where
  adapter : Adapter
  retries : ℕ
  phase : Phase

structure State where
  clock : Time
  deadlines : Dict DeadlineKey Time
  calls : Dict CallId Call
  slipped : Dict DeadlineKey ℕ

def State.initial : State := ⟨0, .empty, .empty, .empty⟩

def State.deadline (s : State) (key : DeadlineKey) : Time := s.deadlines.getD key 0

def State.slips (s : State) (key : DeadlineKey) : ℕ := s.slipped.getD key 0

inductive Event
  | call (id : CallId) (adapter : Adapter)
  | check (id : CallId) (now : Time) (jitter : ℚ)
  | issue (id : CallId) (now : Time)
  | respond (id : CallId) (now : Time) (outcome : Outcome)

/-- `random.uniform(0.05, ...)`. -/
def minJitter : ℚ := 1 / 20

/-- The request of call `id` goes out. -/
def State.send (s : State) (id : CallId) (call : Call) (now : Time) : State :=
  { s with
    clock := now
    calls := s.calls.set id { call with phase := .inFlight }
    slipped :=
      if now < s.deadline call.adapter.key then
        s.slipped.set call.adapter.key (s.slips call.adapter.key + 1)
      else s.slipped }

/-- The head of the loop. -/
def State.check (s : State) (id : CallId) (call : Call) (now : Time) (jitter : ℚ) : State :=
  match call.adapter.scheme.gate now (s.deadline call.adapter.key) with
  | .refuse _ => { s with clock := now, calls := s.calls.pop id }
  | .sleep wait =>
    { s with clock := now
             calls := s.calls.set id { call with phase := .committed (now + wait + jitter) } }
  | .go =>
    if call.adapter.queues then
      { s with clock := now, calls := s.calls.set id { call with phase := .committed now } }
    else s.send id call now

/-- The call after its response was handled. -/
def Call.next (call : Call) (now : Time) : Verdict → Option Call
  | .returns _ => none
  | .raises _ => none
  | .again pause =>
    if call.retries ≤ 1 then none
    else some { call with retries := call.retries - 1, phase := .head (now + pause) }
  | .silent => some { call with phase := .head now }

/-- The deadline that handling an outcome leaves. -/
def State.newDeadline (s : State) (call : Call) (now : Time) (outcome : Outcome) : Time :=
  (call.adapter.scheme.handle call.retries now (s.deadline call.adapter.key) outcome).1

def State.respond (s : State) (id : CallId) (call : Call) (now : Time) (outcome : Outcome) : State :=
  let key := call.adapter.key
  let deadline := s.newDeadline call now outcome
  let verdict := (call.adapter.scheme.handle call.retries now (s.deadline key) outcome).2
  { clock := now
    deadlines := s.deadlines.set key deadline
    calls := match call.next now verdict with
      | some call => s.calls.set id call
      | none => s.calls.pop id
    slipped := if deadline = s.deadline key then s.slipped else s.slipped.set key 0 }

def step (s : State) : Event → Option State
  | .call id adapter =>
    match s.calls.get? id with
    | some _ => none
    | none => some { s with calls := s.calls.set id ⟨adapter, retryBudget, .head s.clock⟩ }
  | .check id now jitter =>
    match s.calls.get? id with
    | some call =>
      match call.phase with
      | .head ready =>
        if s.clock ≤ now ∧ ready ≤ now ∧ minJitter ≤ jitter then some (s.check id call now jitter)
        else none
      | _ => none
    | none => none
  | .issue id now =>
    match s.calls.get? id with
    | some call =>
      match call.phase with
      | .committed earliest =>
        if s.clock ≤ now ∧ earliest ≤ now then some (s.send id call now) else none
      | _ => none
    | none => none
  | .respond id now outcome =>
    match s.calls.get? id with
    | some call =>
      if call.phase = .inFlight ∧ s.clock ≤ now then some (s.respond id call now outcome) else none
    | none => none

def system : System State Event := ⟨.initial, step⟩

/-- The call has read an older deadline, and its request may go out before `deadline`. -/
def Call.dueBefore (key : DeadlineKey) (deadline : Time) (call : Call) : Bool :=
  match call.phase with
  | .committed earliest => call.adapter.key = key ∧ earliest < deadline
  | _ => false

def State.due (s : State) (key : DeadlineKey) (deadline : Time) : ℕ :=
  s.calls.values.countP (Call.dueBefore key deadline)

/-- At most one request goes out before a deadline while it stands. -/
def AtMostOneSlips (s : State) : Prop := ∀ key, s.slips key ≤ 1

/-- When a response moves a deadline, at most one call is past its check and due
before the new one. -/
def movesWithOneDue (s : State) : Event → Prop
  | .respond id now outcome => ∀ call ∈ s.calls.get? id,
      s.newDeadline call now outcome ≠ s.deadline call.adapter.key →
      s.due call.adapter.key (s.newDeadline call now outcome) ≤ 1
  | _ => True

instance (s : State) (event : Event) : Decidable (movesWithOneDue s event) :=
  match event with
  | .respond id now outcome => inferInstanceAs (Decidable (∀ call ∈ s.calls.get? id,
      s.newDeadline call now outcome ≠ s.deadline call.adapter.key →
      s.due call.adapter.key (s.newDeadline call now outcome) ≤ 1))
  | .call _ _ => .isTrue trivial
  | .check _ _ _ => .isTrue trivial
  | .issue _ _ => .isTrue trivial

/-- A wait lasts at least to the deadline it was computed from. -/
theorem Adapter.gate_sleep {adapter : Adapter} {now deadline : Time} {wait : ℚ}
    (sleeps : adapter.scheme.gate now deadline = .sleep wait) : deadline ≤ now + wait := by
  have exact_wait : wait = deadline - now := by
    cases adapter <;>
      simp only [Adapter.scheme, Requests.binance, Requests.bybit, Requests.okx, Requests.kucoin,
        Requests.hyperliquid, failFastGate] at sleeps <;>
      split_ifs at sleeps <;> cases sleeps <;> rfl
  rw [exact_wait]
  linarith

theorem Adapter.gate_go {adapter : Adapter} {now deadline : Time}
    (goes : adapter.scheme.gate now deadline = .go) : deadline ≤ now := by
  refine le_of_not_gt fun early => ?_
  cases adapter <;>
    simp only [Adapter.scheme, Requests.binance, Requests.bybit, Requests.okx, Requests.kucoin,
      Requests.hyperliquid, failFastGate, early, if_true] at goes <;>
    first
    | cases goes
    | split_ifs at goes

/-- The slips so far and the calls that may still slip make at most one. -/
def OneSlip (s : State) : Prop :=
  ∀ key, s.slips key + s.due key (s.deadline key) ≤ 1

theorem dueBefore_head {call : Call} {ready : Time} (atHead : call.phase = .head ready)
    (key : DeadlineKey) (deadline : Time) : call.dueBefore key deadline = false := by
  simp [Call.dueBefore, atHead]

theorem dueBefore_inFlight {call : Call} (flying : call.phase = .inFlight)
    (key : DeadlineKey) (deadline : Time) : call.dueBefore key deadline = false := by
  simp [Call.dueBefore, flying]

theorem dueBefore_committed {call : Call} {earliest : Time} (phase : call.phase = .committed earliest)
    (key : DeadlineKey) (deadline : Time) :
    call.dueBefore key deadline = true ↔ call.adapter.key = key ∧ earliest < deadline := by
  simp [Call.dueBefore, phase]

/-- A call that is not due neither before nor after an update leaves the count. -/
theorem countP_set_of_not_due {calls : Dict CallId Call} {id : CallId} {old new : Call}
    (found : calls.get? id = some old) {key : DeadlineKey} {deadline : Time}
    (before : old.dueBefore key deadline = false) (after : new.dueBefore key deadline = false) :
    (calls.set id new).values.countP (Call.dueBefore key deadline) =
      calls.values.countP (Call.dueBefore key deadline) := by
  simpa [before, after] using calls.countP_values_set found new (Call.dueBefore key deadline)

theorem countP_pop_le (calls : Dict CallId Call) {id : CallId} {old : Call}
    (found : calls.get? id = some old) (p : Call → Bool) :
    (calls.pop id).values.countP p ≤ calls.values.countP p := by
  rw [← calls.countP_values_pop found p]
  exact Nat.le_add_right _ _

/-- Calls move on without a new deadline and without becoming due. -/
theorem OneSlip.of_calls {s s' : State} (inv : OneSlip s) (deadlines : s'.deadlines = s.deadlines)
    (slipped : s'.slipped = s.slipped)
    (due : ∀ key, s'.due key (s.deadline key) ≤ s.due key (s.deadline key)) : OneSlip s' := by
  intro key
  have bound := inv key
  have fewer := due key
  simp only [State.slips, State.deadline, deadlines, slipped] at bound fewer ⊢
  omega

/-- A request goes out early only when its call was counted as due. -/
theorem OneSlip.send {s : State} (inv : OneSlip s) {id : CallId} {call : Call} {now : Time}
    (found : s.calls.get? id = some call)
    (counted : now < s.deadline call.adapter.key →
      call.dueBefore call.adapter.key (s.deadline call.adapter.key) = true) :
    OneSlip (s.send id call now) := by
  intro key
  have bound := inv key
  have moved := s.calls.countP_values_set found { call with phase := .inFlight }
    (Call.dueBefore key (s.deadline key))
  rw [@dueBefore_inFlight { call with phase := .inFlight } rfl key (s.deadline key)] at moved
  by_cases early : now < s.deadline call.adapter.key
  · by_cases same : key = call.adapter.key
    · subst same
      have slipped : (s.send id call now).slips call.adapter.key = s.slips call.adapter.key + 1 := by
        simp [State.send, State.slips, early, Dict.getD_set]
      rw [counted early] at moved
      simp only [if_true, Bool.false_eq_true, if_false] at moved
      rw [slipped]
      simp only [State.due, State.send, State.deadline] at bound moved ⊢
      omega
    · have slipped : (s.send id call now).slips key = s.slips key := by
        simp [State.send, State.slips, early, Dict.getD_set, same]
      rw [slipped]
      simp only [State.due, State.send, State.deadline, Bool.false_eq_true, if_false] at bound moved ⊢
      omega
  · have slipped : (s.send id call now).slips key = s.slips key := by
      simp [State.send, State.slips, early]
    rw [slipped]
    simp only [State.due, State.send, State.deadline, Bool.false_eq_true, if_false] at bound moved ⊢
    omega

/-- A call that commits itself now is not due before the deadline it has read. -/
theorem not_due_of_committed {s : State} {call : Call} {earliest : Time}
    (late : s.deadline call.adapter.key ≤ earliest) (key : DeadlineKey) :
    Call.dueBefore key (s.deadline key) { call with phase := .committed earliest } = false := by
  refine Bool.eq_false_iff.mpr fun due => ?_
  obtain ⟨rfl, early⟩ := (dueBefore_committed rfl _ _).mp due
  exact absurd late (not_le.mpr early)

theorem OneSlip.check {s : State} (inv : OneSlip s) {id : CallId} {call : Call} {ready now : Time}
    {jitter : ℚ} (found : s.calls.get? id = some call) (atHead : call.phase = .head ready)
    (jittered : minJitter ≤ jitter) : OneSlip (s.check id call now jitter) := by
  have before := dueBefore_head atHead
  have positive : 0 ≤ jitter := le_trans (by decide +kernel) jittered
  unfold State.check
  cases gate : call.adapter.scheme.gate now (s.deadline call.adapter.key) with
  | refuse e => exact inv.of_calls rfl rfl fun key => countP_pop_le s.calls found _
  | sleep wait =>
    have late : s.deadline call.adapter.key ≤ now + wait + jitter := by
      have := Adapter.gate_sleep gate
      linarith
    exact inv.of_calls rfl rfl fun key =>
      (countP_set_of_not_due found (before _ _) (not_due_of_committed late key)).le
  | go =>
    have late := Adapter.gate_go gate
    dsimp only
    split
    · exact inv.of_calls rfl rfl fun key =>
        (countP_set_of_not_due found (before _ _) (not_due_of_committed late key)).le
    · exact inv.send found fun early => absurd late (not_le.mpr early)

/-- Handling a response ends the call or brings it back to the head of the loop. -/
theorem Call.next_atHead {call next : Call} {now : Time} {verdict : Verdict}
    (goesOn : call.next now verdict = some next) :
    next.adapter = call.adapter ∧ ∃ ready, next.phase = .head ready := by
  cases verdict with
  | returns data => cases goesOn
  | raises e => cases goesOn
  | again pause =>
    simp only [Call.next] at goesOn
    split at goesOn
    · cases goesOn
    · cases goesOn
      exact ⟨rfl, _, rfl⟩
  | silent =>
    cases goesOn
    exact ⟨rfl, _, rfl⟩

theorem OneSlip.respond {s : State} (inv : OneSlip s) {id : CallId} {call : Call} {now : Time}
    {outcome : Outcome} (found : s.calls.get? id = some call) (flying : call.phase = .inFlight)
    (permitted : s.newDeadline call now outcome ≠ s.deadline call.adapter.key →
      s.due call.adapter.key (s.newDeadline call now outcome) ≤ 1) :
    OneSlip (s.respond id call now outcome) := by
  have fewer : ∀ key deadline,
      (s.respond id call now outcome).due key deadline ≤ s.due key deadline := by
    intro key deadline
    simp only [State.due, State.respond]
    split
    · rename_i next goesOn
      obtain ⟨_, ready, atHead⟩ := Call.next_atHead goesOn
      exact (countP_set_of_not_due found (dueBefore_inFlight flying key deadline)
        (dueBefore_head atHead key deadline)).le
    · exact countP_pop_le s.calls found _
  intro key
  have bound := inv key
  have less := fewer key ((s.respond id call now outcome).deadline key)
  by_cases same : key = call.adapter.key
  · subst same
    have deadline : (s.respond id call now outcome).deadline call.adapter.key =
        s.newDeadline call now outcome := by
      simp [State.respond, State.deadline, State.newDeadline, Dict.getD_set]
    rw [deadline] at less ⊢
    by_cases moved : s.newDeadline call now outcome = s.deadline call.adapter.key
    · have slipped : (s.respond id call now outcome).slips call.adapter.key =
          s.slips call.adapter.key := by
        simp only [State.respond, State.slips]
        rw [if_pos moved]
      rw [slipped]
      rw [moved] at less ⊢
      omega
    · have slipped : (s.respond id call now outcome).slips call.adapter.key = 0 := by
        simp only [State.respond, State.slips]
        rw [if_neg moved, Dict.getD_set, if_pos rfl]
      have few := permitted moved
      omega
  · have deadline : (s.respond id call now outcome).deadline key = s.deadline key := by
      simp [State.respond, State.deadline, Dict.getD_set, same]
    have slipped : (s.respond id call now outcome).slips key = s.slips key := by
      simp only [State.respond, State.slips]
      split
      · rfl
      · rw [Dict.getD_set, if_neg same]
    rw [deadline] at less ⊢
    omega

theorem oneSlip_step {s s' : State} {event : Event} (inv : OneSlip s)
    (permitted : movesWithOneDue s event) (taken : step s event = some s') : OneSlip s' := by
  cases event with
  | call id adapter =>
    simp only [step] at taken
    split at taken
    · cases taken
    · rename_i absent
      cases taken
      refine inv.of_calls rfl rfl fun key => le_of_eq ?_
      simp [State.due, s.calls.countP_values_set_new absent, Call.dueBefore]
  | check id now jitter =>
    simp only [step] at taken
    split at taken
    · rename_i call found
      split at taken
      · rename_i ready atHead
        split at taken
        · rename_i guards
          cases taken
          exact inv.check found atHead guards.2.2
        · cases taken
      · cases taken
    · cases taken
  | issue id now =>
    simp only [step] at taken
    split at taken
    · rename_i call found
      split at taken
      · rename_i earliest committed
        split at taken
        · rename_i guards
          cases taken
          exact inv.send found fun early =>
            (dueBefore_committed committed _ _).mpr ⟨rfl, guards.2.trans_lt early⟩
        · cases taken
      · cases taken
    · cases taken
  | respond id now outcome =>
    simp only [step] at taken
    split at taken
    · rename_i call found
      split at taken
      · rename_i guards
        cases taken
        exact inv.respond found guards.1 (permitted call found)
      · cases taken
    · cases taken

theorem oneSlip_initial : OneSlip State.initial := fun _ => Nat.zero_le _

/-- In every run in which a response moves a deadline only while at most one
call is past its check and due before the new one, at most one request slips. -/
theorem atMostOneSlips_of_movesWithOneDue {s : State} (run : Reachable system movesWithOneDue s) :
    AtMostOneSlips s := by
  have inv : OneSlip s := run.invariant oneSlip_initial
    fun _ _ _ _ inv permitted taken => oneSlip_step inv permitted taken
  exact fun key => le_of_add_le_left (inv key)

/-- A response that carries a status and nothing else. -/
def statusOnly (status : ℕ) : Outcome :=
  .response ⟨status, .empty, .error (.valueError "Expecting value"), ""⟩

/-- Calls 0 and 1 are in flight when a 429 sets the deadline to 105; `waiting`
calls then sleep for it, and a 403 moves it to 705 before they wake. -/
def banWhileAsleep (waiting : List CallId) : List Event :=
  [.call 0 (.bybit "/v5/market/time"), .check 0 99 1, .call 1 (.bybit "/v5/market/time"),
    .check 1 99 1, .respond 0 100 (statusOnly 429)] ++
  waiting.flatMap (fun id => [.call id (.bybit "/v5/market/time"), .check id 101 1]) ++
  [.respond 1 105 (statusOnly 403)] ++ waiting.map fun id => .issue id 106

/-- Two sleepers issue their requests during the ban. -/
theorem banWhileAsleep_two : system.endsIn (fun _ _ => true) (banWhileAsleep [2, 3])
    (fun s => s.slips .bybit = 2) = true := by
  decide +kernel

theorem banWhileAsleep_one : system.endsIn (fun s event => movesWithOneDue s event)
    (banWhileAsleep [2]) (fun s => s.slips .bybit = 1) = true := by
  decide +kernel

theorem not_atMostOneSlips : ¬ ∀ s, Reachable system anyStep s → AtMostOneSlips s := by
  intro claim
  obtain ⟨s, run, ends⟩ := System.exists_reachable (fun _ _ _ _ => trivial) banWhileAsleep_two
  have slips : s.slips .bybit = 2 := of_decide_eq_true ends
  have bound := claim s run .bybit
  omega

/-- One sleeper issues its request during the ban, and no other follows. -/
theorem atMostOneSlips_of_movesWithOneDue_ban :
    ∃ s, Reachable system movesWithOneDue s ∧ s.slips .bybit = 1 ∧ AtMostOneSlips s := by
  obtain ⟨s, run, ends⟩ := System.exists_reachable (fun _ _ _ ok => of_decide_eq_true ok)
    banWhileAsleep_one
  exact ⟨s, run, of_decide_eq_true ends, atMostOneSlips_of_movesWithOneDue run⟩

end ExchangeRouter.Requests
