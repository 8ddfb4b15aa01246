import Mathlib.Data.Rat.Floor
import ExchangeRouter.Lib.Dict
import ExchangeRouter.Lib.Json

/-!
# The request loops of the adapters

`_make_request` in `src/exchanges/{binance,bybit,okx,kucoin,hyperliquid}/adapter.py`.
A round of the loop reads the shared `_backoff_until`, may wait or give up, issues
one HTTP request and acts on what comes back.  `gate` is the part before the
request, `handle` the part after it; both run without an await between reading
the clock and their end, so each sees one time.  Logging is left out, and so are
the semaphore and the rate buckets of OKX, which only delay a request.
-/
namespace ExchangeRouter.Requests
open Lib

/-- Seconds, as `time.time()` gives them. -/
abbrev Time := ℚ

/-- What `int(...)` and `float(...)` make of a header; `none` is a `ValueError`. -/
structure HeaderText where
  asInt : Option ℤ
  asFloat : Option ℚ
  deriving DecidableEq, Repr

structure Response where
  status : ℕ
  headers : Dict String HeaderText
  /-- `resp.json()`, a `ValueError` when the body is not JSON. -/
  json : Except PyError Json
  text : String

/-- What `http_client.request` does. -/
inductive Outcome
  | response (resp : Response)
  | raised (e : PyError)

inductive RequestError
  /-- `ValueError(f"{exchange} API Error ({code}): {message}")`. -/
  | apiError (exchange : String) (code message : Json)
  | valueError (text : String)
  | unavailable (text : String) (retryAfter : Option ℚ)
  | httpStatusError (status : ℕ)
  | reraised (e : PyError)

/-- The part of a round before the request. -/
inductive Gate
  | go
  | sleep (wait : ℚ)
  | refuse (e : RequestError)

/-- The part of a round after the request: `again` spends a retry and sleeps,
and `silent` falls out of the `try` with nothing done. -/
inductive Verdict
  | returns (data : Json)
  | raises (e : RequestError)
  | again (pause : ℚ)
  | silent

/-- `_make_request` of one adapter for one target.  `handle` takes the retries
left, the time, the deadline in force and the outcome, and gives the new deadline. -/
structure Scheme where
  gate : Time → Time → Gate
  handle : ℕ → Time → Time → Outcome → Time × Verdict
  target : String

/-- `int(resp.headers.get(name, fallback))`. -/
def Response.intHeader (resp : Response) (name : String) (fallback : ℤ) : Option ℤ :=
  match resp.headers.get? name with
  | none => some fallback
  | some header => header.asInt

/-- The rounding of `f"{q:.0f}"`. -/
def wholeSeconds (q : ℚ) : ℤ :=
  let below := ⌊q⌋
  let rest := q - below
  if rest < 1 / 2 ∨ rest = 1 / 2 ∧ below % 2 = 0 then below else below + 1

/-- The start of a round where long waits fail fast. -/
def failFastGate (limit : ℚ) (reason : String) (now deadline : Time) : Gate :=
  if now < deadline then
    let wait := deadline - now
    if limit < wait then
      let seconds := wholeSeconds wait
      .refuse (.unavailable s!"{reason}. Retry in {seconds}s." (some wait))
    else .sleep wait
  else .go

/-- What `raise_for_status` lets pass. -/
def isSuccess (status : ℕ) : Bool := 200 ≤ status && status < 300

/-- The end of `except httpx.HTTPStatusError`, the same in every adapter. -/
def onStatusError (exchange target : String) (status : ℕ) : Verdict :=
  if status ∈ [502, 503, 504, 520] then .again 1
  else if 500 ≤ status then
    .raises (.unavailable s!"{exchange} upstream error {status} on {target}" none)
  else .raises (.httpStatusError status)

/-- `except Exception`: a `ValueError` leaves the loop. -/
def onException (e : PyError) : Verdict :=
  if e.isValueError then .raises (.reraised e) else .again 1

/-- The value of a body read inside the `try`. -/
def onBody (read : Except PyError Verdict) : Verdict :=
  match read with
  | .ok verdict => verdict
  | .error e => onException e

/-- The last statement of the `try`. -/
def raiseForStatus (exchange target : String) (status : ℕ) : Verdict :=
  if isSuccess status then .silent else onStatusError exchange target status

/-- `err_msg` of the Binance handler. -/
def binanceMessage (resp : Response) : Json :=
  match resp.json.bind fun body => body.getD "msg" (.str "Unknown API Error") with
  | .ok message => message
  | .error _ => .str resp.text

def weightLimits : Dict String ℚ :=
  ((Dict.empty.set "api.binance.com" 6000).set "fapi.binance.com" 2400).set "dapi.binance.com" 2400

/-- The pause of two seconds at a high used weight. -/
def binancePause (host : String) (usedWeight : ℤ) (now deadline : Time) : Time :=
  if weightLimits.getD host 1200 * (95 / 100) < usedWeight then
    if deadline < now then now + 2 else deadline
  else deadline

def binanceHandle (host url : String) (now deadline : Time) : Outcome → Time × Verdict
  | .raised e => (deadline, onException e)
  | .response resp =>
    match resp.intHeader "x-mbx-used-weight-1m" 0 with
    | none => (deadline, .raises (.valueError "invalid literal for int()"))
    | some usedWeight =>
      let deadline := binancePause host usedWeight now deadline
      if resp.status = 200 then (deadline, onBody (resp.json.map .returns))
      else if resp.status = 429 ∨ resp.status = 418 then
        let retryAfter := (resp.intHeader "Retry-After" 5).getD 5
        (max deadline (now + retryAfter), .again 0)
      else if isSuccess resp.status then (deadline, .silent)
      else if resp.status ∈ [400, 404, 405] then
        (deadline, .raises (.apiError "Binance" (.num resp.status) (binanceMessage resp)))
      else (deadline, onStatusError "Binance" url resp.status)

/-- `BinanceAdapter._make_request`, with the deadline of the host. -/
def binance (host url : String) : Scheme where
  gate now deadline := if now < deadline then .sleep (deadline - now) else .go
  handle _ := binanceHandle host url
  target := url

/-- The `retCode` and `result` of a Bybit answer; `none` is the soft rate limit. -/
def bybitResult (data : Json) : Except PyError (Option Verdict) := do
  let retCode ← data.item "retCode"
  if retCode.isNumber 10006 then return none
  if !retCode.isNumber 0 then
    return some (.raises (.apiError "Bybit" retCode (← data.item "retMsg")))
  let result ← data.item "result"
  match result, data with
  | .obj fields, .obj envelope =>
    match envelope.lookup "time", fields.lookup "_envelope_ts" with
    | some time, none => return some (.returns (.obj (fields ++ [("_envelope_ts", time)])))
    | _, _ => return some (.returns result)
  | _, _ => return some (.returns result)

def bybitHandle (endpoint : String) (now deadline : Time) : Outcome → Time × Verdict
  | .raised e => (deadline, onException e)
  | .response resp =>
    let invalid : Verdict := .raises (.valueError "invalid literal for int()")
    match resp.intHeader "X-Bapi-Limit-Status" 100 with
    | none => (deadline, invalid)
    | some remaining =>
      let reset : Option Time :=
        if remaining < 10 then
          (resp.intHeader "X-Bapi-Limit-Reset-Timestamp" (⌊now * 1000⌋ + 5000)).map fun resetTimeMs =>
            max deadline (resetTimeMs / 1000)
        else some deadline
      match reset with
      | none => (deadline, invalid)
      | some deadline =>
        if resp.status = 200 then
          match resp.json.bind bybitResult with
          | .ok none => (max deadline (now + 2), .again 0)
          | .ok (some verdict) => (deadline, verdict)
          | .error e => (deadline, onException e)
        else if resp.status = 403 then
          (max deadline (now + 600),
            .raises (.unavailable "Bybit IP ban triggered (403). Retry in 10 minutes." (some 600)))
        else if resp.status = 429 then (max deadline (now + 5), .again 0)
        else (deadline, raiseForStatus "Bybit" endpoint resp.status)

/-- `BybitAdapter._make_request`. -/
def bybit (endpoint : String) : Scheme where
  gate := failFastGate 30 "Bybit IP ban in effect"
  handle _ := bybitHandle endpoint
  target := s!"https://api.bybit.com{endpoint}"

/-- The body of an OKX or KuCoin answer, with the code that means success. -/
def codedResult (exchange success : String) (noData : Json) (body : Json) :
    Except PyError Verdict := do
  let code ← body.getD "code" (.str success)
  if !code.isText success then
    return .raises (.apiError exchange code (← body.getD "msg" (.str "Unknown error")))
  return .returns (← body.getD "data" noData)

/-- `wait_s` of the OKX handler. -/
def okxWait (resp : Response) : ℚ :=
  match resp.headers.get? "Retry-After" with
  | none => 10
  | some header =>
    match header.asFloat with
    | some seconds => max seconds 2
    | none => 10

def okxHandle (endpoint : String) (now deadline : Time) : Outcome → Time × Verdict
  | .raised e => (deadline, onException e)
  | .response resp =>
    if resp.status = 429 then (max deadline (now + okxWait resp), .again 0)
    else if resp.status = 200 then
      (deadline, onBody (resp.json.bind (codedResult "OKX" "0" (.arr []))))
    else (deadline, raiseForStatus "OKX" endpoint resp.status)

/-- `OkxAdapter._make_request`. -/
def okx (endpoint : String) : Scheme where
  gate := failFastGate 60 "OKX backoff active"
  handle _ := okxHandle endpoint
  target := s!"https://www.okx.com{endpoint}"

def kucoinHandle (endpoint : String) (now deadline : Time) : Outcome → Time × Verdict
  | .raised e => (deadline, onException e)
  | .response resp =>
    if resp.status = 429 then (max deadline (now + 5), .again 0)
    else if resp.status = 200 then
      (deadline, onBody (resp.json.bind (codedResult "KuCoin" "200000" .null)))
    else (deadline, raiseForStatus "KuCoin" endpoint resp.status)

/-- `KucoinAdapter._make_request`. -/
def kucoin (base endpoint : String) : Scheme where
  gate := failFastGate 30 "KuCoin backoff active"
  handle _ := kucoinHandle endpoint
  target := base ++ endpoint

def hyperliquidHandle (infoType : String) (retries : ℕ) (now deadline : Time) :
    Outcome → Time × Verdict
  | .raised e => (deadline, onException e)
  | .response resp =>
    if resp.status = 200 then (deadline, onBody (resp.json.map .returns))
    else if resp.status = 429 then
      let backoff : ℚ := 5 * (4 - retries)
      (max deadline (now + backoff), .again 0)
    else if resp.status = 422 then
      (deadline, .raises (.valueError s!"Hyperliquid rejected {infoType} request (422)"))
    else (deadline, raiseForStatus "Hyperliquid" infoType resp.status)

/-- `HyperliquidAdapter._make_request`. -/
def hyperliquid (infoType : String) : Scheme where
  gate := failFastGate 30 "Hyperliquid backoff in effect"
  handle := hyperliquidHandle infoType
  target := infoType

end ExchangeRouter.Requests
