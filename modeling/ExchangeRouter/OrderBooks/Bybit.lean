import ExchangeRouter.OrderBooks.Model

/-!
# Bybit `stream_orderbook`

`src/exchanges/bybit/adapter.py`.  The generator is the follower of a sequenced
feed in which a delta `u` continues the message `u - 1`.
-/
namespace ExchangeRouter.OrderBooks.Bybit
open Lib

/-- What is fixed when the stream starts. -/
structure Context where
  apiSymbol : String
  /-- `get_model_symbol(·, market_type)`. -/
  modelSymbol : String → String
  marketType : MarketType
  quote : String
  depth : Nat

/-- `ts` is `none` where `normalize_timestamp` raises. -/
structure Frame where
  type : Option String
  u : Option ℤ
  s : Option String
  b : List Entry
  a : List Entry
  ts : Option ℤ
  deriving DecidableEq

/-- The branches on `type`, up to `last_u = u`; `none` is the sequence gap. -/
def received (locals : Locals) (msg : Frame) : Option Locals :=
  if msg.type = some "snapshot" then
    some ⟨.empty, .empty, msg.u, true⟩
  else
    match locals.last, msg.u with
    | some lastU, some u =>
      if u ≠ lastU + 1 then none else some { locals with last := msg.u }
    | _, _ => some { locals with last := msg.u }

def orderBook (ctx : Context) (msg : Frame) (shown : Ladders ℚ ℚ) (timestamp : ℤ) : OrderBook where
  symbol := ctx.modelSymbol (msg.s.getD ctx.apiSymbol)
  marketType := ctx.marketType
  quote := ctx.quote
  bids := shown.bids
  asks := shown.asks
  qtyUnit := if ctx.marketType = .inverse then .contract else .base
  timestamp := timestamp

def step (ctx : Context) (locals : Locals) (msg : Frame) : List OrderBook × Option Locals :=
  match received locals msg with
  | none => ([], none)
  | some locals => process (fun q => q) ctx.depth (orderBook ctx msg) msg.b msg.a msg.ts locals

def streamOrderbook (ctx : Context) : Stream Locals Frame OrderBook := ⟨.init, step ctx⟩

/-- How Bybit's messages are meant. -/
def protocol : Protocol Frame ℚ ℚ ℤ where
  snapshot := fun msg => msg.type = some "snapshot"
  id := Frame.u
  previous := fun msg => msg.u.map (· - 1)
  bids := fun msg => msg.b.reduceOption
  asks := fun msg => msg.a.reduceOption
  parses := fun msg => parsed msg.b && parsed msg.a && msg.ts.isSome

theorem received_eq (locals : Locals) (msg : Frame) : received locals msg =
    if protocol.gap locals msg then none else some (protocol.receive locals msg) := by
  unfold received Protocol.gap Protocol.receive
  by_cases snapshot : msg.type = some "snapshot"
  · cases locals.last <;> cases u : msg.u <;> simp [protocol, snapshot, u]
  · cases last : locals.last with
    | none => simp [protocol, snapshot]
    | some lastU =>
      cases u : msg.u with
      | none => simp [protocol, snapshot, u]
      | some u' =>
        by_cases continues : u' = lastU + 1
        · simp [protocol, snapshot, u, continues]
        · have other : lastU ≠ u' - 1 := by omega
          simp [protocol, snapshot, u, continues, other]

/-- The generator is the follower of Bybit's protocol. -/
theorem streamOrderbook_eq (ctx : Context) :
    streamOrderbook ctx = (protocol.follower 1 ctx.depth).render
      fun msg shown => orderBook ctx msg shown (msg.ts.getD 0) := by
  unfold streamOrderbook Protocol.follower Stream.render
  congr 1
  funext locals msg
  unfold step
  rw [received_eq]
  cases gap : protocol.gap locals msg with
  | true => simp [Protocol.follow, gap]
  | false => exact process_eq protocol (fun q => (mul_one q).symm) _ _ rfl rfl rfl gap

end ExchangeRouter.OrderBooks.Bybit
