import ExchangeRouter.Lib.Sequenced
import Mathlib.Algebra.Order.Ring.Rat
import Mathlib.Data.List.ReduceOption

/-!
# What the order book streams have in common

`OrderBook` of `src/models.py`, and the loop of every `stream_orderbook` over
the levels of a frame.  Prices and quantities are rationals; an entry is `none`
where unpacking it or `float` raises.
-/
namespace ExchangeRouter.OrderBooks
open Lib

inductive MarketType where
  | spot
  | linear
  | inverse
  deriving DecidableEq, Repr

inductive QtyUnit where
  | base
  | contract
  deriving DecidableEq, Repr

structure OrderBook where
  symbol : String
  marketType : MarketType
  quote : String
  bids : List (ℚ × ℚ)
  asks : List (ℚ × ℚ)
  qtyUnit : QtyUnit
  timestamp : ℤ
  deriving DecidableEq

def OrderBook.ladders (book : OrderBook) : Ladders ℚ ℚ := ⟨book.bids, book.asks⟩

abbrev Entry := Option (ℚ × ℚ)

/-- `for p, q in entries: ...`; `store` is applied to a quantity that is kept. -/
def applyEntries (store : ℚ → ℚ) : Dict ℚ ℚ → List Entry → Option (Dict ℚ ℚ)
  | side, [] => some side
  | _, none :: _ => none
  | side, some (p, q) :: rest =>
    applyEntries store (if q = 0 then side.pop p else side.set p (store q)) rest

def parsed (entries : List Entry) : Bool := entries.all Option.isSome

theorem applyEntries_eq {store : ℚ → ℚ} {factor : ℚ} (scales : ∀ q, store q = q * factor)
    (side : Dict ℚ ℚ) (entries : List Entry) : applyEntries store side entries =
      if parsed entries then some (side.setLevels factor entries.reduceOption) else none := by
  induction entries generalizing side with
  | nil => rfl
  | cons entry rest ih =>
    cases entry with
    | none => rfl
    | some level =>
      rw [applyEntries, ih, List.reduceOption_cons_of_some]
      simp [parsed, Dict.setLevels, Dict.setLevel, scales]

/-- The local variables of a stream; `last` is the sequence cursor. -/
abbrev Locals := Replica ℚ ℚ ℤ

/-- The rest of the loop body once a message was received: it is skipped before
the first snapshot, else its levels are applied and the book is yielded.  `ts`
is `none` where `normalize_timestamp` raises; any exception ends the stream. -/
def process (store : ℚ → ℚ) (depth : Nat) (book : Ladders ℚ ℚ → ℤ → OrderBook)
    (bids asks : List Entry) (ts : Option ℤ) (locals : Locals) : List OrderBook × Option Locals :=
  if !locals.bootstrapped then ([], some locals)
  else
    match applyEntries store locals.bids bids, applyEntries store locals.asks asks, ts with
    | some bids, some asks, some timestamp =>
      ([book ⟨bids.best (· > ·) depth, asks.best (· < ·) depth⟩ timestamp],
        some { locals with bids := bids, asks := asks })
    | _, _, _ => ([], none)

/-- Once bootstrapped, `process` ends the stream or yields the updated book. -/
theorem process_cases {store : ℚ → ℚ} {factor : ℚ} (scales : ∀ q, store q = q * factor)
    (depth : Nat) (book : Ladders ℚ ℚ → ℤ → OrderBook) (bids asks : List Entry) (ts : Option ℤ)
    {locals : Locals} (ready : locals.bootstrapped = true) :
    process store depth book bids asks ts locals = ([], none) ∨ ∃ timestamp,
      process store depth book bids asks ts locals =
        ([book ⟨(locals.bids.setLevels factor bids.reduceOption).best (· > ·) depth,
            (locals.asks.setLevels factor asks.reduceOption).best (· < ·) depth⟩ timestamp],
          some { locals with
            bids := locals.bids.setLevels factor bids.reduceOption
            asks := locals.asks.setLevels factor asks.reduceOption }) := by
  unfold process
  rw [applyEntries_eq scales, applyEntries_eq scales]
  cases parsed bids <;> cases parsed asks <;> cases ts <;> simp [ready]

/-- `process` is what the follower of a feed does with a message that it
accepts. -/
theorem process_eq {μ : Type*} (feed : Protocol μ ℚ ℚ ℤ) {store : ℚ → ℚ} {factor : ℚ}
    (scales : ∀ q, store q = q * factor) (depth : Nat) (book : Ladders ℚ ℚ → ℤ → OrderBook)
    {bids asks : List Entry} {ts : Option ℤ} {locals : Locals} {m : μ}
    (bidsRead : feed.bids m = bids.reduceOption) (asksRead : feed.asks m = asks.reduceOption)
    (parses : feed.parses m = (parsed bids && parsed asks && ts.isSome))
    (accepted : feed.gap locals m = false) :
    process store depth book bids asks ts (feed.receive locals m) =
      ((feed.follow factor depth locals m).1.map fun shown => book shown (ts.getD 0),
        (feed.follow factor depth locals m).2) := by
  unfold process Protocol.follow
  rw [applyEntries_eq scales, applyEntries_eq scales, parses]
  cases ready : (feed.receive locals m).bootstrapped with
  | false => simp [accepted]
  | true =>
    cases bidsParse : parsed bids <;> cases asksParse : parsed asks <;> cases ts <;>
      simp [accepted, Protocol.update, ready, bidsRead, asksRead]

end ExchangeRouter.OrderBooks
