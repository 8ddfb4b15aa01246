import Mathlib.Tactic.Linarith
import ExchangeRouter.Lib.Dict
import ExchangeRouter.Lib.Run
import ExchangeRouter.OrderBooks.Model

/-!
# The SymbolInfo cache

`src/exchanges/base.py`: `BaseExchange._ensure_info_cache`.  Calls for any market
types queue on one lock; the holder answers from the cache or awaits
`_fetch_exchange_info`, which the adapter provides and which may also write the
adapter's own side caches.  The dictionary of a market type is replaced as a
whole, so a listing is a value.  A caller may be cancelled in the queue or in its
fetch; `except Exception` does not catch that.  `attempts` records the fetches and
`answers` what the calls return or raise, newest first.
-/
namespace ExchangeRouter.InfoCache
open Lib OrderBooks

abbrev Time := ℚ

abbrev CallId := ℕ

def infoRefreshS : ℚ := 24 * 60 * 60

def infoRetryS : ℚ := 60 * 60

abbrev Listing (Info : Type) := Dict String Info

/-- `_fetch_exchange_info` of an adapter, as a function of what the upstream
replies and of the side caches, which keep what was written before an error. -/
structure Source (Info Side Reply Err : Type) where
  fetchExchangeInfo : MarketType → Reply → Side → Side × Except Err (List Info)
  symbol : Info → String

/-- `{info.symbol: info for info in infos}`. -/
def listingOf {Info : Type} (symbol : Info → String) (infos : List Info) : Listing Info :=
  infos.foldl (fun listing info => listing.set (symbol info) info) .empty

/-- The locals of the call that holds the lock and awaits its fetch. -/
structure Fetching (Info : Type) where
  id : CallId
  marketType : MarketType
  now : Time
  cached : Option (Listing Info)

/-- A fetch; `result` is `none` while it runs and when its call was cancelled. -/
structure Attempt (Info Reply Err : Type) where
  marketType : MarketType
  startedAt : Time
  result : Option (Reply × Except Err (Listing Info))

structure Answer (Info Err : Type) where
  id : CallId
  marketType : MarketType
  result : Except Err (Listing Info)

structure State (Info Side Reply Err : Type) where
  cache : Dict MarketType (Listing Info)
  cachedAt : Dict MarketType Time
  side : Side
  clock : Time
  waiting : Dict CallId MarketType
  holder : Option (Fetching Info)
  attempts : List (Attempt Info Reply Err)
  answers : List (Answer Info Err)

variable {Info Side Reply Err : Type}

def State.initial (side : Side) : State Info Side Reply Err :=
  ⟨.empty, .empty, side, 0, .empty, none, [], []⟩

inductive Event (Reply : Type)
  | call (id : CallId) (marketType : MarketType)
  /-- The lock passes to a waiting call, which reads the clock. -/
  | acquire (id : CallId) (now : Time)
  /-- The upstream has replied to the holder. -/
  | finish (now : Time) (reply : Reply)
  | cancel (id : CallId)

/-- Under the lock, up to the fetch or the answer from the cache. -/
def State.acquire (s : State Info Side Reply Err) (id : CallId) (marketType : MarketType)
    (now : Time) : State Info Side Reply Err :=
  let cached := s.cache.get? marketType
  let elapsed := now - s.cachedAt.getD marketType 0
  match cached with
  | some listing =>
    if elapsed < infoRefreshS then
      { s with clock := now, waiting := s.waiting.pop id,
               answers := ⟨id, marketType, .ok listing⟩ :: s.answers }
    else
      { s with clock := now, waiting := s.waiting.pop id,
               holder := some ⟨id, marketType, now, cached⟩,
               attempts := ⟨marketType, now, none⟩ :: s.attempts }
  | none =>
    { s with clock := now, waiting := s.waiting.pop id,
             holder := some ⟨id, marketType, now, cached⟩,
             attempts := ⟨marketType, now, none⟩ :: s.attempts }

/-- Note the result of the running fetch. -/
def settleAttempt (result : Reply × Except Err (Listing Info)) :
    List (Attempt Info Reply Err) → List (Attempt Info Reply Err)
  | [] => []
  | attempt :: rest => { attempt with result := some result } :: rest

/-- From the fetch to the end of the call. -/
def State.finish (source : Source Info Side Reply Err) (s : State Info Side Reply Err)
    (call : Fetching Info) (now : Time) (reply : Reply) : State Info Side Reply Err :=
  let (side, infos) := source.fetchExchangeInfo call.marketType reply s.side
  match infos with
  | .error e =>
    let s := { s with side, clock := now, holder := none,
                      attempts := settleAttempt (reply, .error e) s.attempts }
    match call.cached with
    | none => { s with answers := ⟨call.id, call.marketType, .error e⟩ :: s.answers }
    | some listing =>
      { s with cachedAt := s.cachedAt.set call.marketType (call.now - infoRefreshS + infoRetryS),
               answers := ⟨call.id, call.marketType, .ok listing⟩ :: s.answers }
  | .ok infos =>
    let listing := listingOf source.symbol infos
    { s with side, clock := now, holder := none,
             cache := s.cache.set call.marketType listing,
             cachedAt := s.cachedAt.set call.marketType call.now,
             attempts := settleAttempt (reply, .ok listing) s.attempts,
             answers := ⟨call.id, call.marketType, .ok listing⟩ :: s.answers }

/-- A cancelled call leaves the queue, or frees the lock without a timestamp.  Its
fetch has written nothing: the side caches are written after the last await. -/
def State.cancel (s : State Info Side Reply Err) (id : CallId) :
    Option (State Info Side Reply Err) :=
  if s.holder.any (fun call => call.id = id) then some { s with holder := none }
  else if (s.waiting.get? id).isSome then some { s with waiting := s.waiting.pop id }
  else none

def step (source : Source Info Side Reply Err) (s : State Info Side Reply Err) :
    Event Reply → Option (State Info Side Reply Err)
  | .call id marketType =>
    if (s.waiting.get? id).isSome ∨ s.holder.any (fun call => call.id = id) then none
    else some { s with waiting := s.waiting.set id marketType }
  | .acquire id now =>
    match s.holder, s.waiting.get? id with
    | none, some marketType => if s.clock ≤ now then some (s.acquire id marketType now) else none
    | _, _ => none
  | .finish now reply =>
    match s.holder with
    | some call => if s.clock ≤ now then some (s.finish source call now reply) else none
    | none => none
  | .cancel id => s.cancel id

def system (source : Source Info Side Reply Err) (side : Side) :
    System (State Info Side Reply Err) (Event Reply) :=
  ⟨.initial side, step source⟩

/-- The reply and the listing of a successful fetch of a market type. -/
def Attempt.served (marketType : MarketType) (attempt : Attempt Info Reply Err) :
    Option (Reply × Listing Info) :=
  if attempt.marketType = marketType then
    match attempt.result with
    | some (reply, .ok listing) => some (reply, listing)
    | _ => none
  else none

/-- The latest successful fetch of a market type. -/
def latestSuccess (attempts : List (Attempt Info Reply Err)) (marketType : MarketType) :
    Option (Reply × Listing Info) :=
  attempts.findSome? (Attempt.served marketType)

def latestListing (attempts : List (Attempt Info Reply Err)) (marketType : MarketType) :
    Option (Listing Info) :=
  (latestSuccess attempts marketType).map Prod.snd

def Attempt.succeeded (attempt : Attempt Info Reply Err) : Bool :=
  match attempt.result with
  | some (_, .ok _) => true
  | _ => false

/-- The timestamp that a finished fetch leaves for a market type with a listing. -/
def Attempt.stamp (attempt : Attempt Info Reply Err) : Time :=
  if attempt.succeeded then attempt.startedAt else attempt.startedAt - infoRefreshS + infoRetryS

end ExchangeRouter.InfoCache
