import Mathlib.Tactic.NormNum
import ExchangeRouter.Lib.Guarded
import ExchangeRouter.Records.Model

/-!
# Hyperliquid `stream_ticker`

`src/exchanges/hyperliquid/adapter.py`.  The venue publishes no 24h extremes.
They come from a candle snapshot (`_high_low_24h`, whose outcome is a
parameter), are widened by the price of each frame, and are replaced by a new
snapshot when one is due.  Clocks are in seconds, and numbers are finite.
-/
namespace ExchangeRouter.Hyperliquid.Tickers
open Lib OrderBooks Records

def tickerReseedS : ℚ := 120

/-- What `_high_low_24h` returns when there are candles. -/
structure HighLow where
  high : ℚ
  low : ℚ
  ordered : low ≤ high

/-- What is fixed when the stream starts. -/
structure Context where
  text : TextNumbers
  modelSym : String
  marketType : MarketType
  quote : String

/-- A message, and what happens while it is processed: the readings of the clock
at the test, after a test that is due and at the ticker, and the reseed. -/
structure Frame where
  msg : Json
  now : ℚ
  again : ℚ
  reseed : Except PyError (Option HighLow)
  stamp : ℚ

structure Locals where
  high : Option ℚ
  low : Option ℚ
  reseedAt : ℚ

/-- `if high is None or close > high: high = close`. -/
def widenHigh (high : Option ℚ) (close : ℚ) : ℚ :=
  match high with
  | none => close
  | some high => if high < close then close else high

/-- `if low is None or close < low: low = close`. -/
def widenLow (low : Option ℚ) (close : ℚ) : ℚ :=
  match low with
  | none => close
  | some low => if close < low then close else low

/-- `ctx` and `close` of a message. -/
def priced (text : TextNumbers) (msg : Json) : Except PyError (Json × ℚ) := do
  let asset := (← ((← msg.getD "data" .null).or (.obj [])).getD "ctx" .null).or (.obj [])
  let px := (← asset.getD "midPx" .null).or (← asset.getD "markPx" .null)
  return (asset, ← (px.or (.num 0)).float text)

/-- `prev` and the native volume. -/
def figures (text : TextNumbers) (asset : Json) : Except PyError (ℚ × ℚ) := do
  let prev ← ((← asset.getD "prevDayPx" .null).or (.num 0)).float text
  return (prev, ← ((← asset.getD "dayBaseVlm" .null).or (.num 0)).float text)

def ticker (ctx : Context) (asset : Json) (close high low stamp : ℚ) :
    Except PyError (Option Ticker) := do
  let (prev, native) ← figures ctx.text asset
  return some {
    symbol := ctx.modelSym
    marketType := ctx.marketType
    quote := ctx.quote
    price := close
    open24h := prev
    high24h := high
    low24h := low
    volume24h := ← buildVolumeValue native .base none close
    priceChangePercent := if 0 < prev then (close - prev) / prev * 100 else 0
    timestamp := truncate (stamp * 1000) }

/-- The body of the loop. -/
def body (ctx : Context) (locals : Locals) (frame : Frame) :
    Locals × Except PyError (Option Ticker) :=
  match priced ctx.text frame.msg with
  | .error e => (locals, .error e)
  | .ok (asset, close) =>
    if close ≤ 0 then (locals, .ok none)
    else
      let high := widenHigh locals.high close
      let low := widenLow locals.low close
      if frame.now < locals.reseedAt then
        (⟨some high, some low, locals.reseedAt⟩, ticker ctx asset close high low frame.stamp)
      else
        let reseedAt := frame.again + tickerReseedS
        match frame.reseed with
        | .error e => (⟨some high, some low, reseedAt⟩, .error e)
        | .ok none =>
          (⟨some high, some low, reseedAt⟩, ticker ctx asset close high low frame.stamp)
        | .ok (some ⟨h2, l2, _⟩) =>
          (⟨some h2, some l2, reseedAt⟩, ticker ctx asset close h2 l2 frame.stamp)

/-- The stream, from the first snapshot and the clock after it. -/
def streamTicker (ctx : Context) (seed : Option HighLow) (started : ℚ) :
    Guarded Locals Frame PyError Ticker where
  init := ⟨seed.map HighLow.high, seed.map HighLow.low, started + tickerReseedS⟩
  body := body ctx
  caught := skipsFrame

/-- `low_24h <= price <= high_24h`. -/
def Bracketed (ticker : Ticker) : Prop :=
  ticker.low24h ≤ ticker.price ∧ ticker.price ≤ ticker.high24h

instance (ticker : Ticker) : Decidable (Bracketed ticker) := inferInstanceAs (Decidable (_ ∧ _))

theorem le_widenHigh (high : Option ℚ) (close : ℚ) : close ≤ widenHigh high close := by
  unfold widenHigh
  split
  · exact le_refl close
  · split
    · exact le_refl close
    · next above => exact not_lt.mp above

theorem widenLow_le (low : Option ℚ) (close : ℚ) : widenLow low close ≤ close := by
  unfold widenLow
  split
  · exact le_refl close
  · split
    · exact le_refl close
    · next below => exact not_lt.mp below

section Bracket
variable {ctx : Context}

/-- A frame with readable figures is yielded with the price and the extremes
that it was given. -/
theorem ticker_eq_ok {asset : Json} {close high low stamp : ℚ} {shown : Ticker}
    (built : ticker ctx asset close high low stamp = .ok (some shown)) :
    (∃ read, figures ctx.text asset = .ok read) ∧ shown.price = close ∧ shown.high24h = high ∧
      shown.low24h = low := by
  unfold ticker at built
  cases read : figures ctx.text asset with
  | error e => simp [read, bind, Except.bind] at built
  | ok numbers =>
    simp only [read, bind, Except.bind, buildVolumeValue, pure, Except.pure, Except.ok.injEq,
      Option.some.injEq] at built
    subst built
    exact ⟨⟨numbers, rfl⟩, rfl, rfl, rfl⟩

theorem ticker_isOk (ctx : Context) {asset : Json} {numbers : ℚ × ℚ} (close high low stamp : ℚ)
    (read : figures ctx.text asset = .ok numbers) :
    ∃ shown, ticker ctx asset close high low stamp = .ok (some shown) := by
  simp [ticker, read, bind, Except.bind, buildVolumeValue, pure, Except.pure]

/-- A reseed that is due at a readable frame, and has values, brackets its price. -/
def ReseedFits (ctx : Context) (locals : Locals) (frame : Frame) : Prop :=
  ∀ asset close numbers hl, priced ctx.text frame.msg = .ok (asset, close) → 0 < close →
    figures ctx.text asset = .ok numbers → locals.reseedAt ≤ frame.now →
    frame.reseed = .ok (some hl) → hl.low ≤ close ∧ close ≤ hl.high

/-- What a frame that is yielded has done to the extremes. -/
theorem body_yields {locals : Locals} {frame : Frame} {shown : Ticker}
    (yielded : (body ctx locals frame).2 = .ok (some shown)) :
    Bracketed shown ∨ ∃ asset close numbers hl, priced ctx.text frame.msg = .ok (asset, close) ∧
      0 < close ∧ figures ctx.text asset = .ok numbers ∧ locals.reseedAt ≤ frame.now ∧
      frame.reseed = .ok (some hl) ∧ shown.price = close ∧ shown.high24h = hl.high ∧
      shown.low24h = hl.low := by
  have widened : ∀ {asset close}, ticker ctx asset close (widenHigh locals.high close)
      (widenLow locals.low close) frame.stamp = .ok (some shown) → Bracketed shown := by
    intro asset close built
    obtain ⟨-, price, high, low⟩ := ticker_eq_ok built
    unfold Bracketed
    rw [price, high, low]
    exact ⟨widenLow_le _ _, le_widenHigh _ _⟩
  unfold body at yielded
  cases read : priced ctx.text frame.msg with
  | error e => simp [read] at yielded
  | ok priced' =>
    obtain ⟨asset, close⟩ := priced'
    simp only [read] at yielded
    by_cases none' : close ≤ 0
    · simp [none'] at yielded
    · rw [if_neg none'] at yielded
      by_cases early : frame.now < locals.reseedAt
      · rw [if_pos early] at yielded
        exact .inl (widened yielded)
      · rw [if_neg early] at yielded
        cases reseed : frame.reseed with
        | error e => simp [reseed] at yielded
        | ok outcome =>
          simp only [reseed] at yielded
          cases outcome with
          | none => exact .inl (widened yielded)
          | some hl =>
            obtain ⟨⟨numbers, figured⟩, price, high, low⟩ := ticker_eq_ok yielded
            exact .inr ⟨asset, close, numbers, hl, rfl, not_le.mp none', figured,
              not_lt.mp early, rfl, price, high, low⟩

/-- A due reseed is what the frame is yielded with. -/
theorem body_reseeds {locals : Locals} {frame : Frame} {asset : Json} {close : ℚ}
    {numbers : ℚ × ℚ} {hl : HighLow} (read : priced ctx.text frame.msg = .ok (asset, close))
    (positive : 0 < close) (figured : figures ctx.text asset = .ok numbers)
    (due : locals.reseedAt ≤ frame.now) (reseed : frame.reseed = .ok (some hl)) :
    ∃ shown, (body ctx locals frame).2 = .ok (some shown) ∧ shown.price = close ∧
      shown.high24h = hl.high ∧ shown.low24h = hl.low := by
  obtain ⟨shown, built⟩ := ticker_isOk ctx close hl.high hl.low frame.stamp figured
  refine ⟨shown, ?_, (ticker_eq_ok built).2⟩
  simp only [body, read, if_neg (not_le.mpr positive), if_neg (not_lt.mpr due), reseed]
  exact built

/-- The tickers of a stream are all bracketed exactly when every reseed that
replaces the extremes of a ticker brackets its price. -/
theorem streamTicker_bracketed_iff (ctx : Context) (seed : Option HighLow) (started : ℚ)
    (frames : List Frame) :
    (∀ frame shown, (frame, shown) ∈ (streamTicker ctx seed started).stream.yields
        (streamTicker ctx seed started).init frames → Bracketed shown) ↔
      ∀ first frame last locals, frames = first ++ frame :: last →
        (streamTicker ctx seed started).stream.after (streamTicker ctx seed started).init first =
          some locals → ReseedFits ctx locals frame := by
  constructor
  · intro bracketed first frame last locals split reached asset close numbers hl read positive
      figured due reseed
    obtain ⟨shown, yielded, price, high, low⟩ := body_reseeds read positive figured due reseed
    have held := bracketed frame shown
      (Guarded.mem_yields.mpr ⟨first, last, locals, split, reached, yielded⟩)
    unfold Bracketed at held
    rwa [price, high, low] at held
  · intro fits frame shown member
    obtain ⟨first, last, locals, split, reached, yielded⟩ := Guarded.mem_yields.mp member
    rcases body_yields yielded with held | ⟨asset, close, numbers, hl, read, positive, figured,
      due, reseed, price, high, low⟩
    · exact held
    · unfold Bracketed
      rw [price, high, low]
      exact fits first frame last locals split reached asset close numbers hl read positive
        figured due reseed

/-- Bitcoin, with prices sent as numbers. -/
def btc : Context := ⟨noTexts, "BTC", .linear, "USDC"⟩

/-- A frame at the given price and second, with a reseed to 90 and 110. -/
def frameAt (price seconds : ℚ) : Frame where
  msg := .obj [("data", .obj [("ctx", .obj [("midPx", .num price), ("prevDayPx", .num 100),
    ("dayBaseVlm", .num 5)])])]
  now := seconds
  again := seconds
  reseed := .ok (some ⟨110, 90, by norm_num⟩)
  stamp := seconds

/-- The mid leaves the traded range just before a reseed is due: the range is
widened, and the reseed takes it back. -/
theorem reseed_drops_widening : ¬ ∀ (ctx : Context) (seed : Option HighLow) (started : ℚ)
    (frames : List Frame) (frame : Frame) (shown : Ticker),
    (frame, shown) ∈ (streamTicker ctx seed started).stream.yields
      (streamTicker ctx seed started).init frames → Bracketed shown := by
  intro claimed
  obtain ⟨shown, yielded, price, high, -⟩ := @body_reseeds btc ⟨some 110, some 90, 120⟩
    (frameAt 111 120) _ 111 (100, 5) ⟨110, 90, by norm_num⟩ rfl (by norm_num) rfl (le_refl _) rfl
  have held := claimed btc (some ⟨110, 90, by norm_num⟩) 0 [frameAt 111 120] _ shown
    (Guarded.mem_yields.mpr ⟨[], [], _, rfl, by simp [streamTicker, tickerReseedS], yielded⟩)
  unfold Bracketed at held
  rw [price, high] at held
  exact absurd held.2 (by norm_num)

end Bracket
end ExchangeRouter.Hyperliquid.Tickers
