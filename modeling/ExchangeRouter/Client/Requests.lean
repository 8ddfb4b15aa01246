import Mathlib.Data.List.Infix
import ExchangeRouter.Client.Model
import ExchangeRouter.Records.Model
import ExchangeRouter.Requests.Model

/-!
# One request of the SDK, from the route to its caller

`AsyncCore._request`, `_route_block` and `_preflight` of
`client/exchange_router_client/_core.py` with `error_for_status` of `errors.py`, and
`validate_request`, `validate_interval` and the exception handlers of `src/main.py`.
A route returns a value or raises; a handler turns the exception into a response;
the SDK repeats what may pass and turns the rest into an exception of its own.
`random.uniform(0, 1)` and `str` of a JSON value are parameters, and the warning
about the depth of an order book is left out.
-/
namespace ExchangeRouter.Client.Requests
open Lib OrderBooks ExchangeRouter.Requests Records

/-! ## The SDK -/

inductive ErrorClass
  | routerError
  | badRequest
  | notFound
  | rateLimited
  | upstreamUnavailable
  | notSupported
  | routerUnreachable
  deriving DecidableEq, Repr

/-- A `RouterError` or one of its subclasses. -/
structure RouterError where
  cls : ErrorClass
  detail : Json
  status : Option ℕ
  retryAfter : Option ℚ

def errorForStatus (status : ℕ) (detail : Json) (retryAfter : Option ℚ) : RouterError :=
  if status = 400 then ⟨.badRequest, detail, some status, none⟩
  else if status = 404 then ⟨.notFound, detail, some status, none⟩
  else if status = 429 then ⟨.rateLimited, detail, some status, none⟩
  else if status = 501 then ⟨.notSupported, detail, some status, none⟩
  else if status = 503 then ⟨.upstreamUnavailable, detail, some status, retryAfter⟩
  else ⟨.routerError, detail, some status, none⟩

def maxSleepS : ℚ := 60

def retriedStatuses : List ℕ := [429, 500, 502, 503, 504]

/-- `_detail`; `str` is Python's. -/
def detailOf (str : Json → String) (resp : Response) : Json :=
  let read : Except PyError Json := do
    let body ← resp.json
    return ((← body.getD "detail" .null).or (← body.getD "error" .null)).or (.str (str body))
  match read with
  | .ok detail => detail
  | .error _ => .str (if resp.text ≠ "" then resp.text else s!"HTTP {resp.status}")

/-- `_retry_after`. -/
def retryAfterOf (resp : Response) : Option ℚ :=
  (resp.headers.get? "Retry-After").bind HeaderText.asFloat

def sleepFor (attempt : ℕ) (retryAfter : Option ℚ) (jitter : ℚ) : ℚ :=
  match retryAfter with
  | some seconds => min seconds maxSleepS
  | none => attempt + jitter

/-- What `request` of the HTTP client does. -/
inductive Exchanged
  | response (resp : Response)
  | transportError (text : String)
  /-- Any other `httpx.HTTPError`. -/
  | httpError (text : String)

inductive Result
  | returns (data : Json)
  | raises (error : RouterError)
  | propagates (error : PyError)

/-- A round settles the request, or is repeated while the budget lasts. -/
inductive Judged
  | settled (result : Result)
  | retry (retryAfter : Option ℚ) (error : RouterError)

def Judged.repeats : Judged → Bool
  | .settled _ => false
  | .retry .. => true

def Judged.retryAfter : Judged → Option ℚ
  | .settled _ => none
  | .retry retryAfter _ => retryAfter

/-- What the caller gets when the round is the last one. -/
def Judged.last : Judged → Result
  | .settled result => result
  | .retry _ error => .raises error

def judge (str : Json → String) : Exchanged → Judged
  | .response resp =>
    if isSuccess resp.status then
      match resp.json with
      | .ok data => .settled (.returns data)
      | .error e => .settled (.propagates e)
    else
      let retryAfter := retryAfterOf resp
      let error := errorForStatus resp.status (detailOf str resp) retryAfter
      if resp.status ∉ retriedStatuses then .settled (.raises error) else .retry retryAfter error
  | .transportError text => .retry none ⟨.routerUnreachable, .str text, none, none⟩
  | .httpError text => .settled (.raises ⟨.routerUnreachable, .str text, none, none⟩)

structure Run where
  result : Result
  requests : ℕ
  sleeps : List ℚ

/-- The rounds from `attempt` on, with `left` repetitions left. -/
def requestFrom (rounds : ℕ → Judged) (jitter : ℕ → ℚ) : ℕ → ℕ → Run
  | 0, attempt =>
    match rounds attempt with
    | .settled result => ⟨result, 1, []⟩
    | .retry _ error => ⟨.raises error, 1, []⟩
  | left + 1, attempt =>
    match rounds attempt with
    | .settled result => ⟨result, 1, []⟩
    | .retry retryAfter _ =>
      let rest := requestFrom rounds jitter left (attempt + 1)
      ⟨rest.result, rest.requests + 1,
        sleepFor (attempt + 1) retryAfter (jitter attempt) :: rest.sleeps⟩

/-- `_request`, where `exchanged k` is what the request after `k` repetitions meets. -/
def request (str : Json → String) (maxRetries : ℕ) (exchanged : ℕ → Exchanged) (jitter : ℕ → ℚ) :
    Run :=
  requestFrom (fun k => judge str (exchanged k)) jitter maxRetries 0

/-- `value in container`. -/
def contains (container : Json) (value : String) : Except PyError Bool :=
  match container with
  | .arr items => .ok (items.any fun item => item.isText value)
  | .obj fields => .ok (fields.any fun field => field.1 = value)
  | .str s => .ok (decide (value.toList <:+: s.toList))
  | _ => .error .typeError

/-- `_route_block`, from the cached capabilities of the exchange; `validate_interval` looks the
block up in the same way. -/
def routeBlock (capabilities : Json) (marketType : MarketType) (route : String) :
    Except PyError Json := do
  let markets := orEmpty (← (orEmpty capabilities).getD "markets" (.obj []))
  let mt := orEmpty (← markets.getD (value marketType) .null)
  return orEmpty (← mt.getD route .null)

/-- `', '.join(intervals)`. -/
def joined (intervals : Json) : Except PyError String := do
  let texts ← (← intervals.elements).mapM fun item =>
    match item with
    | .str s => .ok s
    | _ => .error .typeError
  return ", ".intercalate texts

/-- An exception of Python itself, inside the SDK. -/
def orPropagate {α : Type} (read : Except PyError α) : Except Result α :=
  read.mapError .propagates

/-- `intervals and interval not in intervals`. -/
def excludes (intervals : Json) (interval : String) : Except PyError Bool :=
  if intervals.truthy then (contains intervals interval).map not else .ok false

/-- `value is False`. -/
def isFalse : Json → Bool
  | .bool b => !b
  | _ => false

/-- The check of `_preflight` on a block of a route. -/
def preflightBlock (block : Json) (exchange : String) (marketType : MarketType) (route : String)
    (interval : Option String) (label : String) : Except Result Unit := do
  if isFalse (← orPropagate (block.getD "rest" .null)) then
    throw (.raises ⟨.notSupported,
      .str (route ++ " is not exposed on " ++ exchange ++ "/" ++ value marketType), none, none⟩)
  else
    let intervals ← orPropagate (block.getD "intervals" .null)
    match interval with
    | none => return ()
    | some interval =>
      if ← orPropagate (excludes intervals interval) then
        let valid ← orPropagate (joined intervals)
        throw (.raises ⟨.badRequest, .str (label ++ " '" ++ interval ++ "' is not valid for " ++
          exchange ++ " " ++ value marketType ++ " " ++ route ++ ". valid: " ++ valid), none, none⟩)

/-- `_preflight`, with what `_ensure_capabilities` has returned. -/
def preflight (capabilities : Json) (exchange : String) (marketType : MarketType) (route : String)
    (interval : Option String) (label : String) : Except Result Unit := do
  let block ← orPropagate (routeBlock capabilities marketType route)
  if capabilities.truthy && block.truthy then
    preflightBlock block exchange marketType route interval label

/-! ## The router -/

/-- What a route raises, as the handlers tell it apart: `validation` is pydantic's
`ValidationError`, whose handler comes before that of its base class `ValueError`. -/
inductive RouteError
  | upstreamUnavailable (text : String) (retryAfter : Option ℚ)
  | validation (text : String)
  | valueError (text : String)
  | notImplemented (text : String)
  | exchangeNotFound (exchange : String)
  | marketTypeNotSupported (exchange : String) (marketType : MarketType)
  | other (text : String)

inductive Served
  | value (data : Json)
  | raised (error : RouteError)

def errorBody (error detail : String) : Json :=
  .obj [("error", .str error), ("detail", .str detail)]

/-- `JSONResponse`; the SDK has no use for its text. -/
def jsonResponse (status : ℕ) (content : Json) (headers : Dict String HeaderText) : Response :=
  ⟨status, headers, .ok content, ""⟩

/-- `str(max(int(retry_after), 1))`, as the SDK reads it. -/
def retryAfterHeader (retryAfter : Option ℚ) : Dict String HeaderText :=
  match retryAfter with
  | none => .empty
  | some seconds =>
    let whole := max (truncate seconds) 1
    Dict.empty.set "Retry-After" ⟨some whole, some whole⟩

/-- The exception handlers. -/
def handleException : RouteError → Response
  | .upstreamUnavailable text retryAfter =>
    jsonResponse 503 (errorBody "Upstream Unavailable" text) (retryAfterHeader retryAfter)
  | .validation text => jsonResponse 502 (errorBody "Bad Upstream Response" text) .empty
  | .valueError text => jsonResponse 400 (errorBody "Invalid Request" text) .empty
  | .notImplemented text => jsonResponse 501 (errorBody "Not Implemented" text) .empty
  | .exchangeNotFound exchange => jsonResponse 404
      (.obj [("detail", .str ("Exchange '" ++ exchange ++ "' not found or not enabled"))]) .empty
  | .marketTypeNotSupported exchange marketType => jsonResponse 400
      (.obj [("detail", .str ("Market type '" ++ value marketType ++ "' not supported on " ++
        exchange))]) .empty
  | .other text => jsonResponse 500 (errorBody "Internal Server Error" text) .empty

def respond : Served → Response
  | .value data => jsonResponse 200 data .empty
  | .raised error => handleException error

def validateRequest (registry : Registry) (exchange : String) (marketType : MarketType) :
    Except RouteError Adapter :=
  match registry.get? exchange with
  | none => .error (.exchangeNotFound exchange)
  | some adapter =>
    if marketType ∈ adapter.supportedMarketTypes then .ok adapter
    else .error (.marketTypeNotSupported exchange marketType)

/-- Any exception but a `ValueError` of the capabilities lookup is unhandled. -/
def ofPyError : PyError → RouteError
  | .valueError text => .valueError text
  | .keyError key => .other key
  | .typeError => .other "TypeError"
  | .attributeError => .other "AttributeError"
  | .other name => .other name

def validateInterval (adapter : Adapter) (exchange : String) (marketType : MarketType)
    (route label interval : String) : Except RouteError Unit := do
  let block ← (routeBlock adapter.capabilities marketType route).mapError ofPyError
  let intervals ← (block.getD "intervals" .null).mapError ofPyError
  if ← (excludes intervals interval).mapError ofPyError then
    throw (.valueError (label ++ " '" ++ interval ++ "' is not valid for " ++ exchange ++ " " ++
      value marketType ++ " " ++ route))

/-- A route with an interval: `adapterCall` is what the adapter does when it is asked.  An
adapter is registered under its name. -/
def intervalRoute (registry : Registry) (exchange : String) (marketType : MarketType)
    (route label interval : String) (adapterCall : Adapter → Served) : Served :=
  match validateRequest registry exchange marketType with
  | .error e => .raised e
  | .ok adapter =>
    match validateInterval adapter exchange marketType route label interval with
    | .error e => .raised e
    | .ok _ => adapterCall adapter

/-- `exchange_capabilities`. -/
def capabilitiesRoute (registry : Registry) (exchange : String) : Served :=
  match registry.get? exchange with
  | none => .raised (.exchangeNotFound exchange)
  | some adapter => .value adapter.capabilities

/-! ## What the caller is told -/

/-- The SDK asks again. -/
def RouteError.temporary : RouteError → Bool
  | .upstreamUnavailable .. | .validation _ | .other _ => true
  | .valueError _ | .notImplemented _ | .exchangeNotFound _ | .marketTypeNotSupported .. => false

/-- `detail`, or `error` when it is empty. -/
def detailOr (error text : String) : Json := .str (if text = "" then error else text)

/-- The exception of the SDK for one of a route. -/
def RouteError.reported : RouteError → RouterError
  | .upstreamUnavailable text retryAfter =>
    ⟨.upstreamUnavailable, detailOr "Upstream Unavailable" text, some 503,
      retryAfter.map fun seconds => ((max (truncate seconds) 1 : ℤ) : ℚ)⟩
  | .validation text => ⟨.routerError, detailOr "Bad Upstream Response" text, some 502, none⟩
  | .valueError text => ⟨.badRequest, detailOr "Invalid Request" text, some 400, none⟩
  | .notImplemented text => ⟨.notSupported, detailOr "Not Implemented" text, some 501, none⟩
  | .exchangeNotFound exchange =>
    ⟨.notFound, .str ("Exchange '" ++ exchange ++ "' not found or not enabled"), some 404, none⟩
  | .marketTypeNotSupported exchange marketType =>
    ⟨.badRequest, .str ("Market type '" ++ value marketType ++ "' not supported on " ++ exchange),
      some 400, none⟩
  | .other text => ⟨.routerError, detailOr "Internal Server Error" text, some 500, none⟩

/-- What a request meets: the network, or a route. -/
inductive Round
  | lost (text : String)
  | met (served : Served)

def Round.exchanged : Round → Exchanged
  | .lost text => .transportError text
  | .met served => .response (respond served)

/-- The round is not the last one unless the budget is spent. -/
def Round.temporary : Round → Bool
  | .lost _ => true
  | .met (.value _) => false
  | .met (.raised error) => error.temporary

def Round.retryAfter : Round → Option ℚ
  | .met (.raised error) => error.reported.retryAfter
  | _ => none

/-- What the caller gets when the round is the last one. -/
def Round.outcome : Round → Result
  | .lost text => .raises ⟨.routerUnreachable, .str text, none, none⟩
  | .met (.value data) => .returns data
  | .met (.raised error) => .raises error.reported

section Reports
variable {str : Json → String}

theorem detailOf_errorBody (status : ℕ) (error text : String) (headers : Dict String HeaderText)
    (named : error ≠ "") :
    detailOf str (jsonResponse status (errorBody error text) headers) = detailOr error text := by
  by_cases empty : text = ""
  · simp [detailOf, jsonResponse, errorBody, detailOr, Json.getD, Json.get?, Json.or, Json.truthy,
      empty, named, bind, Except.bind, pure, Except.pure, Except.map, List.lookup_cons]
  · simp [detailOf, jsonResponse, errorBody, detailOr, Json.getD, Json.get?, Json.or, Json.truthy,
      empty, bind, Except.bind, pure, Except.pure, Except.map, List.lookup_cons]

theorem detailOf_detail (status : ℕ) (detail : String) (headers : Dict String HeaderText)
    (given : detail ≠ "") :
    detailOf str (jsonResponse status (.obj [("detail", .str detail)]) headers) = .str detail := by
  simp [detailOf, jsonResponse, Json.getD, Json.get?, Json.or, Json.truthy, given, bind,
    Except.bind, pure, Except.pure, Except.map, List.lookup_cons]

theorem retryAfterOf_header (status : ℕ) (content : Json) (retryAfter : Option ℚ) :
    retryAfterOf (jsonResponse status content (retryAfterHeader retryAfter)) =
      retryAfter.map fun seconds => ((max (truncate seconds) 1 : ℤ) : ℚ) := by
  cases retryAfter <;> rfl

/-- An exception on its way from the route through its handler to the SDK. -/
theorem judge_handleException (str : Json → String) (error : RouteError) :
    judge str (.response (handleException error)) =
      if error.temporary then .retry error.reported.retryAfter error.reported
      else .settled (.raises error.reported) := by
  cases error with
  | upstreamUnavailable text retryAfter =>
    simp only [judge, handleException, RouteError.temporary, RouteError.reported, if_true]
    rw [retryAfterOf_header, detailOf_errorBody _ _ _ _ (by decide)]
    rfl
  | validation text =>
    simp only [judge, handleException, RouteError.temporary, RouteError.reported, if_true]
    rw [detailOf_errorBody _ _ _ _ (by decide)]
    rfl
  | valueError text =>
    simp only [judge, handleException, RouteError.temporary, RouteError.reported]
    rw [detailOf_errorBody _ _ _ _ (by decide)]
    rfl
  | notImplemented text =>
    simp only [judge, handleException, RouteError.temporary, RouteError.reported]
    rw [detailOf_errorBody _ _ _ _ (by decide)]
    rfl
  | exchangeNotFound exchange =>
    simp only [judge, handleException, RouteError.temporary, RouteError.reported]
    rw [detailOf_detail _ _ _ (by simp)]
    rfl
  | marketTypeNotSupported exchange marketType =>
    simp only [judge, handleException, RouteError.temporary, RouteError.reported]
    rw [detailOf_detail _ _ _ (by simp)]
    rfl
  | other text =>
    simp only [judge, handleException, RouteError.temporary, RouteError.reported, if_true]
    rw [detailOf_errorBody _ _ _ _ (by decide)]
    rfl

theorem judge_round (str : Json → String) (round : Round) :
    (judge str round.exchanged).repeats = round.temporary ∧
      (judge str round.exchanged).retryAfter = round.retryAfter ∧
      (judge str round.exchanged).last = round.outcome := by
  cases round with
  | lost text => exact ⟨rfl, rfl, rfl⟩
  | met served =>
    cases served with
    | value data => exact ⟨rfl, rfl, rfl⟩
    | raised error =>
      have judged := judge_handleException str error
      simp only [Round.exchanged, respond, Round.temporary, Round.retryAfter, Round.outcome, judged]
      cases error <;> exact ⟨rfl, rfl, rfl⟩

end Reports

section Loop
variable {rounds : ℕ → Judged} {jitter : ℕ → ℚ} {left attempt : ℕ}

/-- A run whose last round is the `n`th after `attempt`. -/
structure EndsAt (rounds : ℕ → Judged) (jitter : ℕ → ℚ) (left attempt : ℕ) (run : Run) (n : ℕ) :
    Prop where
  within : n ≤ left
  repeated : ∀ k < n, (rounds (attempt + k)).repeats = true
  spent : (rounds (attempt + n)).repeats = true → n = left
  requests : run.requests = n + 1
  sleeps : run.sleeps = (List.range n).map fun k =>
    sleepFor (attempt + k + 1) (rounds (attempt + k)).retryAfter (jitter (attempt + k))
  result : run.result = (rounds (attempt + n)).last

theorem EndsAt.settled {result : Result} (met : rounds attempt = .settled result) :
    EndsAt rounds jitter left attempt ⟨result, 1, []⟩ 0 where
  within := Nat.zero_le _
  repeated := nofun
  spent := fun repeats => by
    rw [Nat.add_zero, met] at repeats
    cases repeats
  requests := rfl
  sleeps := rfl
  result := by rw [Nat.add_zero, met]; rfl

/-- A round that is repeated, and the run after it. -/
theorem EndsAt.retry {run : Run} {n : ℕ} {retryAfter : Option ℚ} {error : RouterError}
    (met : rounds attempt = .retry retryAfter error)
    (rest : EndsAt rounds jitter left (attempt + 1) run n) :
    EndsAt rounds jitter (left + 1) attempt ⟨run.result, run.requests + 1,
      sleepFor (attempt + 1) retryAfter (jitter attempt) :: run.sleeps⟩ (n + 1) := by
  have shift (k : ℕ) : attempt + (k + 1) = attempt + 1 + k := by omega
  refine ⟨Nat.succ_le_succ rest.within, ?_, ?_, by rw [rest.requests], ?_, ?_⟩
  · intro k inside
    cases k with
    | zero => rw [Nat.add_zero, met]; rfl
    | succ k =>
      rw [shift]
      exact rest.repeated k (Nat.lt_of_succ_lt_succ inside)
  · intro repeats
    rw [shift] at repeats
    rw [rest.spent repeats]
  · have first : (rounds (attempt + 0)).retryAfter = retryAfter := by rw [Nat.add_zero, met]; rfl
    rw [rest.sleeps, List.range_succ_eq_map, List.map_cons, List.map_map, first]
    refine congrArg _ (List.map_congr_left fun k _ => ?_)
    rw [Function.comp_apply, Nat.succ_eq_add_one, shift k]
  · have result := rest.result
    rw [← shift] at result
    exact result

theorem requestFrom_endsAt (rounds : ℕ → Judged) (jitter : ℕ → ℚ) (left attempt : ℕ) :
    ∃ n, EndsAt rounds jitter left attempt (requestFrom rounds jitter left attempt) n := by
  induction left generalizing attempt with
  | zero =>
    cases met : rounds attempt with
    | settled result =>
      simp only [requestFrom, met]
      exact ⟨0, .settled met⟩
    | retry retryAfter error =>
      simp only [requestFrom, met]
      exact ⟨0, le_rfl, nofun, fun _ => rfl, rfl, rfl, by rw [Nat.add_zero, met]; rfl⟩
  | succ left ih =>
    cases met : rounds attempt with
    | settled result =>
      simp only [requestFrom, met]
      exact ⟨0, .settled met⟩
    | retry retryAfter error =>
      obtain ⟨n, rest⟩ := ih (attempt + 1)
      simp only [requestFrom, met]
      exact ⟨n + 1, rest.retry met⟩

end Loop

/-- Whatever the network and the route do, round by round: the SDK asks until a round that is
not temporary, at most `max_retries` times more, and its caller gets what that round came to,
with the text and the waiting time of the route's exception. -/
theorem request_reports (str : Json → String) (maxRetries : ℕ) (rounds : ℕ → Round)
    (jitter : ℕ → ℚ) :
    let run := request str maxRetries (fun k => (rounds k).exchanged) jitter
    ∃ n ≤ maxRetries, (∀ k < n, (rounds k).temporary = true) ∧
      ((rounds n).temporary = true → n = maxRetries) ∧ run.requests = n + 1 ∧
      run.result = (rounds n).outcome ∧
      run.sleeps = (List.range n).map fun k =>
        sleepFor (k + 1) (rounds k).retryAfter (jitter k) := by
  intro run
  obtain ⟨n, ends⟩ :=
    requestFrom_endsAt (fun k => judge str (rounds k).exchanged) jitter maxRetries 0
  have judged (k : ℕ) := judge_round str (rounds k)
  refine ⟨n, ends.within, ?_, ?_, ends.requests, ?_, ?_⟩
  · intro k inside
    have repeats := ends.repeated k inside
    rwa [Nat.zero_add, (judged k).1] at repeats
  · intro temporary
    apply ends.spent
    rwa [Nat.zero_add, (judged n).1]
  · have result := ends.result
    rwa [Nat.zero_add, (judged n).2.2] at result
  · have sleeps := ends.sleeps
    simp only [Nat.zero_add, (judged _).2.1] at sleeps
    exact sleeps

/-- `_ensure_capabilities` for an exchange that is not cached yet, from what its request came to:
what it returns is cached for good, also after a failure. -/
def ensureCapabilities : Result → Except Result Json
  | .returns data => .ok (orEmpty data)
  | .raises _ => .ok (.obj [])
  | .propagates e => .error (.propagates e)

section Preflight
variable {registry : Registry} {exchange route label interval : String} {marketType : MarketType}

/-- Capabilities that could be fetched are the adapter's, else there are none. -/
theorem ensureCapabilities_eq {str : Json → String} {maxRetries : ℕ} {rounds : ℕ → Round}
    {jitter : ℕ → ℚ} {capabilities : Json}
    (routed : ∀ k, (∃ text, rounds k = .lost text) ∨
      rounds k = .met (capabilitiesRoute registry exchange))
    (ensured : ensureCapabilities
      (request str maxRetries (fun k => (rounds k).exchanged) jitter).result = .ok capabilities) :
    capabilities.truthy = false ∨
      ∃ adapter, registry.get? exchange = some adapter ∧ capabilities = adapter.capabilities := by
  obtain ⟨n, -, -, -, -, result, -⟩ := request_reports str maxRetries rounds jitter
  rw [result] at ensured
  rcases routed n with ⟨text, lost⟩ | met
  · rw [lost] at ensured
    cases ensured
    exact .inl rfl
  · rw [met] at ensured
    unfold capabilitiesRoute at ensured
    cases found : registry.get? exchange with
    | none =>
      rw [found] at ensured
      cases ensured
      exact .inl rfl
    | some adapter =>
      rw [found] at ensured
      simp only [Round.outcome, ensureCapabilities, orEmpty, Except.ok.injEq] at ensured
      subst ensured
      cases given : adapter.capabilities.truthy with
      | false => exact .inl (by simp [Json.truthy])
      | true => exact .inr ⟨adapter, rfl, by simp⟩

/-- What is raised behind a lookup was not raised by the lookup. -/
theorem orPropagate_raises {α β : Type} {read : Except PyError α} {next : α → Except Result β}
    {error : RouterError} (raised : (orPropagate read >>= next) = .error (.raises error)) :
    ∃ a, read = .ok a ∧ next a = .error (.raises error) := by
  cases read with
  | error e => cases raised
  | ok a => exact ⟨a, rfl, raised⟩

/-- The interval is what a preflight that raises `BadRequest` complains about. -/
theorem preflight_badRequest {capabilities : Json} {error : RouterError}
    (refused : preflight capabilities exchange marketType route (some interval) label =
      .error (.raises error)) (class' : error.cls = .badRequest) :
    capabilities.truthy = true ∧ ∃ block intervals,
      routeBlock capabilities marketType route = .ok block ∧
      block.getD "intervals" .null = .ok intervals ∧ excludes intervals interval = .ok true := by
  unfold preflight at refused
  obtain ⟨block, looked, checked⟩ := orPropagate_raises refused
  split at checked
  · rename_i given
    refine ⟨(Bool.and_eq_true _ _ ▸ given).1, block, ?_⟩
    unfold preflightBlock at checked
    obtain ⟨rest, -, checked⟩ := orPropagate_raises checked
    split at checked
    · cases checked
      cases class'
    · obtain ⟨intervals, listed, checked⟩ := orPropagate_raises checked
      obtain ⟨excluded, tested, checked⟩ := orPropagate_raises checked
      split at checked
      · rename_i yes
        exact ⟨intervals, looked, listed, by rw [tested, yes]⟩
      · cases checked
  · cases checked

/-- The router refuses the interval as well, for good and as a bad request. -/
theorem intervalRoute_badRequest {adapter : Adapter} {adapterCall : Adapter → Served}
    {block intervals : Json} (registered : registry.get? exchange = some adapter)
    (looked : routeBlock adapter.capabilities marketType route = .ok block)
    (listed : block.getD "intervals" .null = .ok intervals)
    (excluded : excludes intervals interval = .ok true) :
    ∃ error, intervalRoute registry exchange marketType route label interval adapterCall =
      .raised error ∧ error.temporary = false ∧ error.reported.cls = .badRequest := by
  unfold intervalRoute validateRequest
  simp only [registered]
  split
  · next error refused =>
    split at refused
    · cases refused
    · cases refused
      exact ⟨_, rfl, rfl, rfl⟩
  · next given accepted =>
    split at accepted
    · cases accepted
      have raised : validateInterval adapter exchange marketType route label interval =
          .error (.valueError (label ++ " '" ++ interval ++ "' is not valid for " ++ exchange ++
            " " ++ value marketType ++ " " ++ route)) := by
        simp [validateInterval, looked, listed, excluded, bind, Except.bind, Except.mapError]
        rfl
      rw [raised]
      exact ⟨_, rfl, rfl, rfl⟩
    · cases accepted

/-- A preflight that refuses an interval saves a request that the router would have refused in
the same way, whatever happened when the capabilities were fetched. -/
theorem preflight_agrees {str : Json → String} {maxRetries : ℕ} {rounds : ℕ → Round}
    {jitter : ℕ → ℚ} {capabilities : Json} {error : RouterError}
    (routed : ∀ k, (∃ text, rounds k = .lost text) ∨
      rounds k = .met (capabilitiesRoute registry exchange))
    (ensured : ensureCapabilities
      (request str maxRetries (fun k => (rounds k).exchanged) jitter).result = .ok capabilities)
    (refused : preflight capabilities exchange marketType route (some interval) label =
      .error (.raises error)) (class' : error.cls = .badRequest) (adapterCall : Adapter → Served) :
    ∃ e, intervalRoute registry exchange marketType route label interval adapterCall = .raised e ∧
      e.temporary = false ∧ e.reported.cls = error.cls := by
  obtain ⟨given, block, intervals, looked, listed, excluded⟩ := preflight_badRequest refused class'
  rcases ensureCapabilities_eq routed ensured with none | ⟨adapter, registered, rfl⟩
  · rw [none] at given
    cases given
  · rw [class']
    exact intervalRoute_badRequest registered looked listed excluded

def candleCapabilities : Json :=
  .obj [("markets", .obj [("spot", .obj [("candles",
    .obj [("rest", .bool true), ("intervals", .arr [.str "1m", .str "1h"])])])])]

def candleRouter : Registry := Dict.empty.set "kraken" ⟨[.spot], candleCapabilities⟩

/-- The network loses the first request for the capabilities. -/
def capabilityRounds : ℕ → Round
  | 0 => .lost "ConnectError"
  | _ + 1 => .met (capabilitiesRoute candleRouter "kraken")

theorem capabilityRounds_routed (k : ℕ) : (∃ text, capabilityRounds k = .lost text) ∨
    capabilityRounds k = .met (capabilitiesRoute candleRouter "kraken") := by
  cases k with
  | zero => exact .inl ⟨_, rfl⟩
  | succ k => exact .inr rfl

theorem preflight_agrees_kraken : ∃ e,
    intervalRoute candleRouter "kraken" .spot "candles" "Interval" "7m" (fun _ => .value .null) =
      .raised e ∧ e.temporary = false ∧ e.reported.cls = .badRequest := by
  have ensured : ensureCapabilities (request (fun _ => "") 1
      (fun k => (capabilityRounds k).exchanged) fun _ => 0).result =
        .ok candleCapabilities := by rfl
  have refused : preflight candleCapabilities "kraken" .spot "candles" (some "7m") "Interval" =
      .error (.raises ⟨.badRequest, .str ("Interval '7m' is not valid for kraken spot candles. " ++
        "valid: 1m, 1h"), none, none⟩) := by rfl
  exact preflight_agrees capabilityRounds_routed ensured refused rfl _

end Preflight

end ExchangeRouter.Client.Requests
