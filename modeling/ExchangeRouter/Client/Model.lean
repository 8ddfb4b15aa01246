import ExchangeRouter.Lib.Dict
import ExchangeRouter.Lib.Json
import ExchangeRouter.Lib.Run
import ExchangeRouter.OrderBooks.Model

/-!
# The SDK stream against the router's WebSocket endpoint

`AsyncCore.subscribe` and `stream` of `client/exchange_router_client/_core.py`,
and `websocket_endpoint` of `src/main.py` up to the subscription.  The network
decides which attempts reach a router and when an open connection drops; an
answer of the router reaches the client.  Each attempt may meet another registry
of adapters.  A path whose market type is none of the enumeration never reaches
the endpoint and is refused in the same way as an unknown exchange.
-/
namespace ExchangeRouter.Client
open Lib OrderBooks

/-- What the endpoint reads of an adapter. -/
structure Adapter where
  supportedMarketTypes : List MarketType
  capabilities : Json

/-- `EXCHANGE_REGISTRY`. -/
abbrev Registry := Dict String Adapter

/-- `market_type.value`. -/
def value : MarketType → String
  | .spot => "spot"
  | .linear => "linear"
  | .inverse => "inverse"

/-- The `market_type` parameter of the path. -/
def marketTypeOf (text : String) : Option MarketType :=
  [MarketType.spot, .linear, .inverse].find? fun marketType => value marketType = text

def knownWsChannels : List String :=
  ["ticker", "book_ticker", "mark_price", "agg_trades", "trades", "orderbook", "liquidations"]

/-- What the endpoint looks up before it accepts; `none` is `close(code=1008)`. -/
def admitted (registry : Registry) (exchange marketType : String) : Option (Adapter × MarketType) := do
  let marketType ← marketTypeOf marketType
  let adapter ← registry.get? exchange
  if marketType ∈ adapter.supportedMarketTypes then some (adapter, marketType) else none

/-- `block or {}`. -/
def orEmpty (block : Json) : Json := if block.truthy then block else .obj []

/-- The checks of a received subscription: the code that the endpoint closes
with, if it refuses. -/
def refuseSubscription (adapter : Adapter) (marketType : MarketType) (channel symbol : String) :
    Except PyError (Option ℕ) := do
  if channel = "" ∨ symbol = "" then return some 1003
  if channel ∉ knownWsChannels then return some 1003
  let marketsBlock := orEmpty (← (orEmpty adapter.capabilities).getD "markets" (.obj []))
  let mtBlock := orEmpty (← marketsBlock.getD (value marketType) .null)
  let chBlock := orEmpty (← mtBlock.getD channel .null)
  if !(← chBlock.getD "ws" .null).truthy then return some 1003
  return none

/-- What can be raised in the body of `stream`'s `try`. -/
inductive ClientError
  /-- `ConnectionClosed`, with the code of the close frame received. -/
  | connectionClosed (rcvd : Option ℕ)
  | invalidStatus (status : ℕ)
  /-- Any other `WebSocketException`. -/
  | webSocketException
  | osError
  | jsonDecodeError
  deriving DecidableEq, Repr

/-- `except (ConnectionClosed, WebSocketException, OSError)`. -/
def ClientError.caught : ClientError → Bool
  | .jsonDecodeError => false
  | _ => true

/-- `getattr(error, "rcvd", None)`, by its code. -/
def ClientError.rcvd : ClientError → Option ℕ
  | .connectionClosed rcvd => rcvd
  | _ => none

/-- `getattr(error, "code", None)`: 1006 without a close frame. -/
def ClientError.code : ClientError → Option ℕ
  | .connectionClosed rcvd => some (rcvd.getD 1006)
  | _ => none

def fatalCloseCodes : List ℕ := [1003, 1008]

def isFatalClose (error : ClientError) : Bool :=
  match error.rcvd with
  | some code => code ∈ fatalCloseCodes
  | none =>
    match error.code with
    | some code => code ∈ fatalCloseCodes
    | none => false

/-- The arguments of `stream`. -/
structure Call where
  exchange : String
  marketType : String
  channel : String
  symbol : String
  reconnect : Bool

inductive Phase
  /-- Inside `websockets.connect`. -/
  | connecting
  /-- Refused before `accept`: the HTTP response is on its way. -/
  | rejected
  /-- Accepted, the subscription not yet received. -/
  | handshaking (adapter : Adapter) (marketType : MarketType)
  /-- Closed by the endpoint: the close frame is on its way. -/
  | closing (code : ℕ)
  | subscribed
  /-- The endpoint has ended on an exception of its own. -/
  | abandoned
  | sleeping
  | raised (error : ClientError)

/-- `attempts` counts the calls of `websockets.connect`; `refusals` has the
numbers of those that the router refused, newest first. -/
structure State where
  phase : Phase
  attempts : ℕ
  refusals : List ℕ
  yielded : ℕ

def State.initial : State := ⟨.connecting, 1, [], 0⟩

inductive Event
  /-- The attempt fails on its way to the endpoint. -/
  | fail (error : ClientError)
  /-- It reaches a router with these adapters. -/
  | reach (registry : Registry)
  /-- The endpoint receives the subscription, or has waited for it in vain. -/
  | receive
  | timeout
  /-- The answer of a router that refused reaches the client. -/
  | arrive
  | message (decodes : Bool)
  | drop (error : ClientError)
  | wake

/-- The handler of `stream`. -/
def State.except (call : Call) (s : State) (error : ClientError) : State :=
  if !error.caught || !call.reconnect || isFatalClose error then { s with phase := .raised error }
  else { s with phase := .sleeping }

/-- The router refuses the current attempt. -/
def State.refuse (s : State) (answer : Phase) : State :=
  { s with phase := answer, refusals := s.attempts :: s.refusals }

def step (call : Call) (s : State) : Event → Option State
  | .fail error =>
    match s.phase with
    | .connecting => some (s.except call error)
    | _ => none
  | .reach registry =>
    match s.phase with
    | .connecting =>
      match admitted registry call.exchange call.marketType with
      | none => some (s.refuse .rejected)
      | some (adapter, marketType) => some { s with phase := .handshaking adapter marketType }
    | _ => none
  | .receive =>
    match s.phase with
    | .handshaking adapter marketType =>
      match refuseSubscription adapter marketType call.channel call.symbol with
      | .error _ => some { s with phase := .abandoned }
      | .ok (some code) => some (s.refuse (.closing code))
      | .ok none => some { s with phase := .subscribed }
    | _ => none
  | .timeout =>
    match s.phase with
    | .handshaking _ _ => some (s.refuse (.closing 1008))
    | _ => none
  | .arrive =>
    match s.phase with
    | .rejected => some (s.except call (.invalidStatus 403))
    | .closing code => some (s.except call (.connectionClosed (some code)))
    | _ => none
  | .message decodes =>
    match s.phase with
    | .subscribed =>
      if decodes then some { s with yielded := s.yielded + 1 }
      else some (s.except call .jsonDecodeError)
    | _ => none
  | .drop error =>
    match s.phase with
    | .handshaking _ _ | .subscribed | .abandoned => some (s.except call error)
    | _ => none
  | .wake =>
    match s.phase with
    | .sleeping => some { s with phase := .connecting, attempts := s.attempts + 1 }
    | _ => none

def system (call : Call) : System State Event := ⟨.initial, step call⟩

end ExchangeRouter.Client
