import ExchangeRouter.OrderBooks.Model

/-!
# OKX `stream_orderbook`

`src/exchanges/okx/adapter.py`.  A frame carries an action and a list of books;
each book of an update on the `books` channel names the sequence id it
continues.  Every other book is a snapshot.
-/
namespace ExchangeRouter.OrderBooks.Okx
open Lib

/-- What is fixed when the stream starts; `multiplier` is
`_multiplier_for(market_type, model_sym)`. -/
structure Context where
  modelSym : String
  marketType : MarketType
  quote : String
  multiplier : Option ℚ
  depth : Nat

def Context.channel (ctx : Context) : String :=
  if ctx.depth ≤ 1 then "bbo-tbt" else if ctx.depth ≤ 5 then "books5" else "books"

/-- `none` where the stream raises because the multiplier is unavailable. -/
def Context.qtyMult (ctx : Context) : Option ℚ :=
  match ctx.marketType with
  | .linear => ctx.multiplier
  | .inverse | .spot => some 1

/-- An element of `data`. -/
structure Item where
  seqId : Option ℤ
  prevSeqId : Option ℤ
  bids : List Entry
  asks : List Entry
  ts : Option ℤ
  deriving DecidableEq

structure Frame where
  action : Option String
  data : List Item
  deriving DecidableEq

/-- The books of a frame, each with the action. -/
def Frame.items (msg : Frame) : List (Option String × Item) := msg.data.map (msg.action, ·)

/-- The book replaces the local one. -/
def Context.replaces (ctx : Context) (action : Option String) : Bool :=
  ctx.channel ≠ "books" || action ≠ some "update"

/-- The branches on `channel` and `action`; `none` is the sequence gap. -/
def received (ctx : Context) (locals : Locals) (action : Option String) (b : Item) :
    Option Locals :=
  if ctx.replaces action then
    some ⟨.empty, .empty, b.seqId, true⟩
  else
    match locals.last, b.prevSeqId with
    | some lastSeq, some prev =>
      if prev ≠ lastSeq then none else some { locals with last := b.seqId }
    | _, _ => some { locals with last := b.seqId }

def orderBook (ctx : Context) (shown : Ladders ℚ ℚ) (timestamp : ℤ) : OrderBook where
  symbol := ctx.modelSym
  marketType := ctx.marketType
  quote := ctx.quote
  bids := shown.bids
  asks := shown.asks
  qtyUnit := if ctx.marketType = .inverse then .contract else .base
  timestamp := timestamp

/-- The body of `for b in msg.get("data", [])`. -/
def step (ctx : Context) (qtyMult : ℚ) (locals : Locals) (item : Option String × Item) :
    List OrderBook × Option Locals :=
  match received ctx locals item.1 item.2 with
  | none => ([], none)
  | some locals =>
    process (· * qtyMult) ctx.depth (orderBook ctx) item.2.bids item.2.asks item.2.ts locals

def loop (ctx : Context) (qtyMult : ℚ) : Stream Locals (Option String × Item) OrderBook :=
  ⟨.init, step ctx qtyMult⟩

/-- `none` where the stream raises before it subscribes. -/
def streamOrderbook (ctx : Context) : Option (Stream Locals Frame OrderBook) :=
  ctx.qtyMult.map fun qtyMult => (loop ctx qtyMult).batch Frame.items

/-- How OKX's books are meant. -/
def protocol (ctx : Context) : Protocol (Option String × Item) ℚ ℚ ℤ where
  snapshot := fun item => ctx.replaces item.1
  id := fun item => item.2.seqId
  previous := fun item => item.2.prevSeqId
  bids := fun item => item.2.bids.reduceOption
  asks := fun item => item.2.asks.reduceOption
  parses := fun item => parsed item.2.bids && parsed item.2.asks && item.2.ts.isSome

theorem received_eq (ctx : Context) (locals : Locals) (item : Option String × Item) :
    received ctx locals item.1 item.2 = if (protocol ctx).gap locals item then none
      else some ((protocol ctx).receive locals item) := by
  unfold received Protocol.gap Protocol.receive
  by_cases snapshot : ctx.replaces item.1 = true
  · cases locals.last <;> cases prev : item.2.prevSeqId <;> simp [protocol, snapshot, prev]
  · cases last : locals.last with
    | none => simp [protocol, snapshot]
    | some lastSeq =>
      cases prev : item.2.prevSeqId with
      | none => simp [protocol, snapshot, prev]
      | some prev' =>
        by_cases continues : prev' = lastSeq
        · simp [protocol, snapshot, prev, continues]
        · simp [protocol, snapshot, prev, continues, Ne.symm continues]

/-- The loop over the books is the follower of OKX's protocol. -/
theorem loop_eq (ctx : Context) (qtyMult : ℚ) :
    loop ctx qtyMult = ((protocol ctx).follower qtyMult ctx.depth).render
      fun item shown => orderBook ctx shown (item.2.ts.getD 0) := by
  unfold loop Protocol.follower Stream.render
  congr 1
  funext locals item
  unfold step
  rw [received_eq]
  cases gap : (protocol ctx).gap locals item with
  | true => simp [Protocol.follow, gap]
  | false => exact process_eq (protocol ctx) (fun q => rfl) _ _ rfl rfl rfl gap

end ExchangeRouter.OrderBooks.Okx
