import Mathlib.Tactic.Linarith
import ExchangeRouter.Lib.Dict
import ExchangeRouter.Lib.Run

/-!
# The request throttle of the Kraken adapter

`src/exchanges/kraken/adapter.py`: `_pair_endpoint`, `_await_throttle` and
`_set_backoff`.  Every section under `_rate_lock` runs without an await, so it is
one step and reads one time.  A waiter sleeps outside the lock and evaluates its
delays anew when it wakes.  `granted` records the granted requests, newest first.
-/
namespace ExchangeRouter.Kraken.Throttle
open Lib

abbrev Time := ℚ

def spotRestUrl : String := "https://api.kraken.com/0/public"

def baseIntervalMs : ℚ := 200

def pairIntervalMs : ℚ := 1100

/-- A value of the request parameters, by `bool(value)` and `str(value)`. -/
structure Param where
  truthy : Bool
  text : String
  deriving DecidableEq, Repr

/-- `None`, or anything that is no dict, is `none`. -/
abbrev Params := Option (Dict String Param)

/-- `url.rsplit("/", 1)[1]`. -/
def afterLastSlash (url : String) : String :=
  String.ofList (url.toList.reverse.takeWhile (· ≠ '/')).reverse

def pairEndpoint (url : String) : Option String :=
  if spotRestUrl.toList.isPrefixOf url.toList &&
      ("/OHLC".toList.isSuffixOf url.toList || "/Trades".toList.isSuffixOf url.toList) then
    some (afterLastSlash url)
  else none

/-- The pair of a throttled endpoint, when the request names one. -/
def pairKey (url : String) (params : Params) : Option (String × String) :=
  match pairEndpoint url with
  | none => none
  | some endpoint =>
    match params.bind fun params => params.get? "pair" with
    | none => none
    | some pair => if pair.truthy then some (endpoint, pair.text) else none

structure Grant where
  time : Time
  url : String
  params : Params
  deriving DecidableEq

def Grant.key (grant : Grant) : Option (String × String) := pairKey grant.url grant.params

/-- A call of `_await_throttle` that has not returned, and what it last gave to
`asyncio.sleep`, zero at first. -/
structure Waiter where
  url : String
  params : Params
  slept : ℚ

abbrev CallId := ℕ

structure State where
  backoffUntil : Time
  slowdownUntil : Time
  extraIntervalMs : ℚ
  lastRequestAt : Time
  lastPairCallAt : Dict (String × String) Time
  clock : Time
  waiting : Dict CallId Waiter
  granted : List Grant

def State.initial : State := ⟨0, 0, 0, 0, .empty, 0, .empty, []⟩

def backoffDelay (s : State) (now : Time) : Option ℚ :=
  if now < s.backoffUntil then some (s.backoffUntil - now) else none

def globalIntervalMs (s : State) (now : Time) : ℚ :=
  if now < s.slowdownUntil then baseIntervalMs + s.extraIntervalMs else baseIntervalMs

/-- What is left of an interval since an earlier time; the time 0 means never. -/
def intervalDelay (last now : Time) (interval : ℚ) : Option ℚ :=
  if 0 < last ∧ now - last < interval then some (interval - (now - last)) else none

def pairDelay (s : State) (now : Time) (url : String) (params : Params) : Option ℚ :=
  match pairKey url params with
  | none => none
  | some key => intervalDelay (s.lastPairCallAt.getD key 0) now (pairIntervalMs / 1000)

def delays (s : State) (now : Time) (url : String) (params : Params) : List ℚ :=
  (backoffDelay s now).toList ++
  (intervalDelay s.lastRequestAt now (globalIntervalMs s now / 1000)).toList ++
  (pairDelay s now url params).toList

/-- `max(delays) if delays else 0.0`. -/
def waitFor (s : State) (now : Time) (url : String) (params : Params) : ℚ :=
  ((delays s now url params).max?).getD 0

/-- The section of `_await_throttle` under the lock, and the sleep behind it. -/
def awaitThrottle (s : State) (id : CallId) (call : Waiter) (now : Time) (jitter : ℚ) : State :=
  let wait := waitFor s now call.url call.params
  if wait ≤ 0 then
    { s with
      lastRequestAt := now
      lastPairCallAt := match pairKey call.url call.params with
        | some key => s.lastPairCallAt.set key now
        | none => s.lastPairCallAt
      clock := now
      waiting := s.waiting.pop id
      granted := ⟨now, call.url, call.params⟩ :: s.granted }
  else
    { s with clock := now
             waiting := s.waiting.set id { call with slept := wait + jitter } }

/-- The wait of `_set_backoff`; a `retry_until` of zero counts as none. -/
def backoffWait (now : Time) (attempt : ℕ) (retryUntil : Option Time) (factor : ℚ) : ℚ :=
  match retryUntil with
  | some deadline =>
    if deadline ≠ 0 ∧ now < deadline then deadline - now else min 60 (2 ^ attempt) * factor
  | none => min 60 (2 ^ attempt) * factor

def setBackoff (s : State) (now : Time) (attempt : ℕ) (retryUntil : Option Time) (strong : Bool)
    (factor : ℚ) : State :=
  { s with
    backoffUntil := max s.backoffUntil (now + backoffWait now attempt retryUntil factor)
    slowdownUntil := if strong then max s.slowdownUntil (now + 60) else s.slowdownUntil
    extraIntervalMs := if strong then max s.extraIntervalMs 1000 else s.extraIntervalMs
    clock := now }

inductive Event
  | await (id : CallId) (url : String) (params : Params)
  /-- A waiter takes the lock; `jitter` is its `random.uniform(0.01, 0.1)`. -/
  | turn (id : CallId) (now : Time) (jitter : ℚ)
  /-- `factor` is `0.5 + random.random()`. -/
  | setBackoff (now : Time) (attempt : ℕ) (retryUntil : Option Time) (strong : Bool) (factor : ℚ)

def step (s : State) : Event → Option State
  | .await id url params =>
    match s.waiting.get? id with
    | some _ => none
    | none => some { s with waiting := s.waiting.set id ⟨url, params, 0⟩ }
  | .turn id now jitter =>
    match s.waiting.get? id with
    | none => none
    | some call =>
      if 0 < now ∧ s.clock ≤ now ∧ 1 / 100 ≤ jitter ∧ jitter ≤ 1 / 10 then
        some (awaitThrottle s id call now jitter)
      else none
  | .setBackoff now attempt retryUntil strong factor =>
    if 0 < now ∧ s.clock ≤ now ∧ 1 / 2 ≤ factor ∧ factor < 3 / 2 then
      some (setBackoff s now attempt retryUntil strong factor)
    else none

def system : System State Event := ⟨.initial, step⟩

/-- A call returns: its request is granted. -/
def State.grant (s : State) (id : CallId) (call : Waiter) (now : Time) : State :=
  { s with
    lastRequestAt := now
    lastPairCallAt := match pairKey call.url call.params with
      | some key => s.lastPairCallAt.set key now
      | none => s.lastPairCallAt
    clock := now
    waiting := s.waiting.pop id
    granted := ⟨now, call.url, call.params⟩ :: s.granted }

/-- What each step can do. -/
inductive StepCase (s : State) : Event → State → Prop
  | queued {id : CallId} {url : String} {params : Params} :
    StepCase s (.await id url params)
      { s with waiting := s.waiting.set id ⟨url, params, 0⟩ }
  | granted {id : CallId} {now : Time} {jitter : ℚ} {call : Waiter} (positive : 0 < now)
      (later : s.clock ≤ now) (clear : waitFor s now call.url call.params ≤ 0) :
    StepCase s (.turn id now jitter) (s.grant id call now)
  | asleep {id : CallId} {now : Time} {jitter : ℚ} {call : Waiter} (later : s.clock ≤ now) :
    StepCase s (.turn id now jitter)
      { s with clock := now, waiting := s.waiting.set id call }
  | backedOff {now : Time} {attempt : ℕ} {retryUntil : Option Time} {strong : Bool} {factor : ℚ}
      (later : s.clock ≤ now) :
    StepCase s (.setBackoff now attempt retryUntil strong factor)
      (Throttle.setBackoff s now attempt retryUntil strong factor)

theorem stepCase_of_step {s s' : State} {event : Event} (taken : step s event = some s') :
    StepCase s event s' := by
  cases event with
  | await id url params =>
    simp only [step] at taken
    split at taken
    · cases taken
    · cases taken
      exact .queued
  | turn id now jitter =>
    simp only [step] at taken
    split at taken
    · cases taken
    · split at taken
      · rename_i guards
        cases taken
        unfold awaitThrottle
        dsimp only
        split
        · rename_i clear
          exact .granted guards.1 guards.2.1 clear
        · exact .asleep guards.2.1
      · cases taken
  | setBackoff now attempt retryUntil strong factor =>
    simp only [step] at taken
    split at taken
    · rename_i guards
      cases taken
      exact .backedOff guards.2.1
    · cases taken

theorem afterLastSlash_eq {url : String} {tail : List Char} (noSlash : '/' ∉ tail)
    (ends : ('/' :: tail) <:+ url.toList) : afterLastSlash url = String.ofList tail := by
  obtain ⟨front, shape⟩ := ends
  have kept : ∀ c ∈ tail.reverse, decide (c ≠ '/') = true := by
    intro c inside
    refine decide_eq_true fun slash => noSlash ?_
    rw [← slash]
    exact List.mem_reverse.mp inside
  rw [afterLastSlash, ← shape, List.reverse_append, List.reverse_cons, List.append_assoc,
    List.takeWhile_append_of_pos kept]
  simp

/-- The endpoints with an interval of their own for each pair: spot OHLC and
spot Trades. -/
theorem pairEndpoint_eq_some_iff {url endpoint : String} : pairEndpoint url = some endpoint ↔
    spotRestUrl.toList <+: url.toList ∧
      ("/OHLC".toList <:+ url.toList ∧ endpoint = "OHLC" ∨
        "/Trades".toList <:+ url.toList ∧ endpoint = "Trades") := by
  have ohlc : "/OHLC".toList <:+ url.toList → afterLastSlash url = "OHLC" :=
    afterLastSlash_eq (by decide : '/' ∉ "OHLC".toList)
  have trades : "/Trades".toList <:+ url.toList → afterLastSlash url = "Trades" :=
    afterLastSlash_eq (by decide : '/' ∉ "Trades".toList)
  simp only [pairEndpoint, Bool.and_eq_true, Bool.or_eq_true, List.isPrefixOf_iff_prefix,
    List.isSuffixOf_iff_suffix]
  constructor
  · intro found
    split at found
    · rename_i matched
      obtain rfl : afterLastSlash url = endpoint := by simpa using found
      exact ⟨matched.1, matched.2.imp (fun ends => ⟨ends, ohlc ends⟩) fun ends => ⟨ends, trades ends⟩⟩
    · cases found
  · rintro ⟨spot, ⟨ends, rfl⟩ | ⟨ends, rfl⟩⟩
    · rw [if_pos ⟨spot, .inl ends⟩, ohlc ends]
    · rw [if_pos ⟨spot, .inr ends⟩, trades ends]

/-- A spot OHLC or Trades call for the pair of the given text. -/
structure PairCall (url : String) (params : Params) (endpoint text : String) : Prop where
  spot : spotRestUrl.toList <+: url.toList
  endpoint : "/OHLC".toList <:+ url.toList ∧ endpoint = "OHLC" ∨
    "/Trades".toList <:+ url.toList ∧ endpoint = "Trades"
  pair : ∃ pair, (params.bind fun params => params.get? "pair") = some pair ∧
    pair.truthy = true ∧ pair.text = text

theorem pairKey_eq_some_iff {url : String} {params : Params} {endpoint text : String} :
    pairKey url params = some (endpoint, text) ↔ PairCall url params endpoint text := by
  unfold pairKey
  constructor
  · intro found
    split at found
    · cases found
    · rename_i _ known
      split at found
      · cases found
      · rename_i pair named
        split at found
        · rename_i truthy
          cases found
          obtain ⟨spot, kind⟩ := pairEndpoint_eq_some_iff.mp known
          exact ⟨spot, kind, pair, named, truthy, rfl⟩
        · cases found
  · rintro ⟨spot, kind, pair, named, truthy, rfl⟩
    rw [pairEndpoint_eq_some_iff.mpr ⟨spot, kind⟩]
    simp [named, truthy]

theorem pos_of_mem_intervalDelay {last now : Time} {interval delay : ℚ}
    (found : intervalDelay last now interval = some delay) : 0 < delay := by
  unfold intervalDelay at found
  split at found
  · rename_i early
    cases found
    linarith [early.2]
  · cases found

theorem le_of_intervalDelay_none {last now : Time} {interval : ℚ} (some : 0 < last)
    (clear : intervalDelay last now interval = none) : last + interval ≤ now := by
  unfold intervalDelay at clear
  split at clear
  · cases clear
  · rename_i late
    by_contra early
    exact late ⟨some, by linarith⟩

theorem pos_of_mem_delays {s : State} {now : Time} {url : String} {params : Params} {delay : ℚ}
    (member : delay ∈ delays s now url params) : 0 < delay := by
  simp only [delays, List.mem_append, Option.mem_toList] at member
  rcases member with (backoff | interval) | pair
  · unfold backoffDelay at backoff
    split at backoff
    · cases backoff
      linarith
    · cases backoff
  · exact pos_of_mem_intervalDelay interval
  · unfold pairDelay at pair
    split at pair
    · cases pair
    · exact pos_of_mem_intervalDelay pair

/-- No wait is left exactly when no delay is. -/
theorem delays_eq_nil_of_wait {s : State} {now : Time} {url : String} {params : Params}
    (granted : waitFor s now url params ≤ 0) : delays s now url params = [] := by
  cases longest : (delays s now url params).max? with
  | none => exact List.max?_eq_none_iff.mp longest
  | some delay =>
    have positive := pos_of_mem_delays (List.max?_mem longest)
    rw [waitFor, longest, Option.getD_some] at granted
    exact absurd positive (not_lt.mpr granted)

/-- The recorded times are those of the grants. -/
structure Recorded (s : State) : Prop where
  clock : 0 ≤ s.clock
  extra : 0 ≤ s.extraIntervalMs
  times : ∀ grant ∈ s.granted, 0 < grant.time ∧ grant.time ≤ s.clock
  ordered : s.granted.Pairwise fun later earlier => earlier.time ≤ later.time
  last : s.lastRequestAt = (s.granted.head?.map Grant.time).getD 0
  pairs : ∀ key, s.lastPairCallAt.get? key =
    (s.granted.find? fun grant => grant.key = some key).map Grant.time

/-- A grant at the given time keeps its distance to the grants before it. -/
structure Spaced (s : State) (grant : Grant) : Prop where
  backoff : s.backoffUntil ≤ grant.time
  base : ∀ previous, s.granted.head? = some previous →
    previous.time + baseIntervalMs / 1000 ≤ grant.time
  slowdown : grant.time < s.slowdownUntil → ∀ previous, s.granted.head? = some previous →
    previous.time + (baseIntervalMs + s.extraIntervalMs) / 1000 ≤ grant.time
  pair : ∀ endpoint text, PairCall grant.url grant.params endpoint text →
    ∀ previous ∈ s.granted, PairCall previous.url previous.params endpoint text →
      previous.time + pairIntervalMs / 1000 ≤ grant.time

theorem recorded_initial : Recorded State.initial :=
  ⟨le_refl _, le_refl _, by simp [State.initial], List.Pairwise.nil, rfl, fun _ => rfl⟩

theorem Recorded.spaced {s : State} (inv : Recorded s) {now : Time} {url : String}
    {params : Params} (granted : waitFor s now url params ≤ 0) : Spaced s ⟨now, url, params⟩ := by
  have clear := delays_eq_nil_of_wait granted
  simp only [delays, List.append_eq_nil_iff, Option.toList_eq_nil_iff] at clear
  obtain ⟨⟨backoff, interval⟩, pair⟩ := clear
  have spaced : ∀ previous, s.granted.head? = some previous →
      previous.time + globalIntervalMs s now / 1000 ≤ now := by
    intro previous head
    have last : s.lastRequestAt = previous.time := by simp [inv.last, head]
    rw [last] at interval
    exact le_of_intervalDelay_none (inv.times previous (List.mem_of_mem_head? head)).1 interval
  refine ⟨?_, ?_, ?_, ?_⟩
  · unfold backoffDelay at backoff
    split at backoff
    · cases backoff
    · exact le_of_not_gt ‹_›
  · intro previous head
    have wide : baseIntervalMs ≤ globalIntervalMs s now := by
      unfold globalIntervalMs
      split
      · linarith [inv.extra]
      · exact le_refl _
    have far := spaced previous head
    linarith
  · intro slow previous head
    have far := spaced previous head
    rwa [globalIntervalMs, if_pos slow] at far
  · intro endpoint text call previous member same
    have key := pairKey_eq_some_iff.mpr call
    have previousKey : previous.key = some (endpoint, text) := pairKey_eq_some_iff.mpr same
    simp only [pairDelay, key, Dict.getD, inv.pairs] at pair
    cases found : s.granted.find? fun grant => grant.key = some (endpoint, text) with
    | none => simpa [previousKey] using List.find?_eq_none.mp found previous member
    | some latest =>
      rw [found] at pair
      have newest : previous.time ≤ latest.time := by
        obtain ⟨_, before, after, shape, none⟩ := List.find?_eq_some_iff_append.mp found
        rw [shape] at member
        rcases List.mem_append.mp member with early | late
        · simpa [previousKey] using none previous early
        · rcases List.mem_cons.mp late with rfl | behind
          · exact le_refl _
          · have ordered := inv.ordered
            rw [shape] at ordered
            exact (List.pairwise_cons.mp (List.pairwise_append.mp ordered).2.1).1 previous behind
      have far := le_of_intervalDelay_none (inv.times latest (List.mem_of_find?_eq_some found)).1 pair
      exact le_trans (by linarith) far

theorem Recorded.tick {s : State} (inv : Recorded s) {now : Time} (later : s.clock ≤ now)
    (waiting : Dict CallId Waiter) : Recorded { s with clock := now, waiting := waiting } :=
  ⟨inv.clock.trans later, inv.extra,
    fun grant member => ⟨(inv.times grant member).1, (inv.times grant member).2.trans later⟩,
    inv.ordered, inv.last, inv.pairs⟩

theorem Recorded.grant {s : State} (inv : Recorded s) {now : Time} (positive : 0 < now)
    (later : s.clock ≤ now) (id : CallId) (call : Waiter) : Recorded (s.grant id call now) := by
  refine ⟨inv.clock.trans later, inv.extra, ?_, ?_, rfl, ?_⟩
  · intro grant member
    rcases List.mem_cons.mp member with rfl | before
    · exact ⟨positive, le_refl _⟩
    · exact ⟨(inv.times grant before).1, (inv.times grant before).2.trans later⟩
  · exact List.pairwise_cons.mpr
      ⟨fun grant member => (inv.times grant member).2.trans later, inv.ordered⟩
  · intro key
    have kept := inv.pairs key
    cases called : pairKey call.url call.params with
    | none => simpa [State.grant, List.find?_cons, Grant.key, called] using kept
    | some calledKey =>
      by_cases same : key = calledKey
      · subst same
        simp [State.grant, Grant.key, called]
      · have other : ¬ calledKey = key := fun equal => same equal.symm
        simpa [State.grant, List.find?_cons, Grant.key, called, other,
          Dict.get?_set_ne _ _ same] using kept

theorem Recorded.setBackoff {s : State} (inv : Recorded s) {now : Time} (later : s.clock ≤ now)
    (attempt : ℕ) (retryUntil : Option Time) (strong : Bool) (factor : ℚ) :
    Recorded (setBackoff s now attempt retryUntil strong factor) := by
  refine ⟨inv.clock.trans later, ?_, ?_, inv.ordered, inv.last, inv.pairs⟩
  · show 0 ≤ if strong then max s.extraIntervalMs 1000 else s.extraIntervalMs
    split
    · exact le_max_of_le_left inv.extra
    · exact inv.extra
  · exact fun grant member => ⟨(inv.times grant member).1, (inv.times grant member).2.trans later⟩

theorem recorded_step {s s' : State} {event : Event} (inv : Recorded s)
    (taken : step s event = some s') : Recorded s' := by
  cases stepCase_of_step taken with
  | queued => exact inv.tick (le_refl _) _
  | granted positive later _ => exact inv.grant positive later _ _
  | asleep later => exact inv.tick later _
  | backedOff later => exact inv.setBackoff later _ _ _ _

theorem recorded_reachable {s : State} (run : Reachable system anyStep s) : Recorded s := by
  refine run.invariant recorded_initial fun s event s' _ inv _ taken => ?_
  exact recorded_step inv taken

/-- No step lowers a deadline. -/
theorem deadlines_mono {s s' : State} {event : Event} (taken : step s event = some s') :
    s.backoffUntil ≤ s'.backoffUntil ∧ s.slowdownUntil ≤ s'.slowdownUntil := by
  cases stepCase_of_step taken with
  | queued | granted | asleep => exact ⟨le_refl _, le_refl _⟩
  | backedOff later =>
    refine ⟨le_max_left _ _, ?_⟩
    simp only [setBackoff]
    split
    · exact le_max_left _ _
    · exact le_refl _

/-- Only a waiter's turn without a wait grants a request. -/
theorem granted_step {s s' : State} {event : Event} {grant : Grant}
    (taken : step s event = some s') (granted : s'.granted = grant :: s.granted) :
    waitFor s grant.time grant.url grant.params ≤ 0 := by
  have longer : s'.granted ≠ s.granted := by
    rw [granted]
    exact List.cons_ne_self _ _
  cases stepCase_of_step taken with
  | queued | asleep | backedOff => exact absurd rfl longer
  | granted _ _ clear =>
    obtain rfl := (List.cons.inj granted).1
    exact clear

/-- In every run, every granted request is spaced, and no deadline ever falls. -/
theorem awaitThrottle_spaced {s s' : State} {event : Event} (run : Reachable system anyStep s)
    (taken : step s event = some s') :
    s.backoffUntil ≤ s'.backoffUntil ∧ s.slowdownUntil ≤ s'.slowdownUntil ∧
      ∀ grant, s'.granted = grant :: s.granted → Spaced s grant :=
  ⟨(deadlines_mono taken).1, (deadlines_mono taken).2,
    fun _ granted => (recorded_reachable run).spaced (granted_step taken granted)⟩

/-- A candle request for one pair. -/
def candleCall (time : Time) : Grant :=
  ⟨time, "https://api.kraken.com/0/public/OHLC", some (Dict.empty.set "pair" ⟨true, "XBTUSD"⟩)⟩

/-- A rate limit, then two requests for one pair; the second finds a wait of 0.2 s. -/
def twoCandleCalls : List Event :=
  [.setBackoff 1 0 none true 1, .await 0 (candleCall 0).url (candleCall 0).params,
    .turn 0 1 (1 / 50), .turn 0 3 (1 / 50), .await 1 (candleCall 0).url (candleCall 0).params,
    .turn 1 4 (1 / 50)]

theorem twoCandleCalls_ends : system.endsIn (fun _ _ => true) twoCandleCalls (fun s =>
    s.granted = [candleCall 3] ∧ (step s (.turn 1 5 (1 / 50))).any (fun s' =>
      s'.granted = [candleCall 5, candleCall 3])) = true := by
  decide +kernel

theorem awaitThrottle_spaced_twoCandleCalls : ∃ s s', Reachable system anyStep s ∧
    step s (.turn 1 5 (1 / 50)) = some s' ∧ s.granted = [candleCall 3] ∧
    Spaced s (candleCall 5) := by
  obtain ⟨s, run, ends⟩ := System.exists_reachable (fun _ _ _ _ => trivial) twoCandleCalls_ends
  obtain ⟨granted, next⟩ := of_decide_eq_true ends
  obtain ⟨s', taken, last⟩ := (Option.any_eq_true _ _).mp next
  have grants : s'.granted = candleCall 5 :: s.granted := by
    rw [granted]
    exact of_decide_eq_true last
  exact ⟨s, s', run, taken, granted, (awaitThrottle_spaced run taken).2.2 _ grants⟩

end ExchangeRouter.Kraken.Throttle
