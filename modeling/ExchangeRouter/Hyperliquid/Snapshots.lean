import ExchangeRouter.Hyperliquid.Tickers
import ExchangeRouter.Lib.ReadThrough

/-!
# Snapshots behind the REST tickers of Hyperliquid

`src/exchanges/hyperliquid/adapter.py`: `_ctx_snapshot`, `_asset_ctx`,
`_high_low_24h`, `_high_low_24h_cached` and `get_ticker`.  Both caches look
before they queue on the lock of their key and once more behind it.  The
extremes of a coin are widened by the price of each ticker, in the cache too.
-/
namespace ExchangeRouter.Hyperliquid.Snapshots
open Lib OrderBooks Records Tickers

def ctxTtlS : ℚ := 3

/-- What `_ctx_snapshot` asks for. -/
inductive CtxBody
  | spot
  | linear (dex : Option String)

def CtxBody.body : CtxBody → Json
  | .spot => .obj [("type", .str "spotMetaAndAssetCtxs")]
  | .linear none => .obj [("type", .str "metaAndAssetCtxs")]
  | .linear (some dex) => .obj [("type", .str "metaAndAssetCtxs"), ("dex", .str dex)]

def CtxBody.key : CtxBody → String
  | .spot => "spot"
  | .linear none => "linear"
  | .linear (some dex) => "linear:" ++ dex

/-- `_ctx_snapshot`. -/
def ctxCache : ReadThrough ℚ Json Unit := .ofTtl true ctxTtlS fun _ data => data

/-- The first of `rows` for which `test` holds; a test that raises ends the loop. -/
def findRow {α : Type} (test : α → Except PyError Bool) : List α → Except PyError (Option α)
  | [] => .ok none
  | row :: rest => do if ← test row then return some row else findRow test rest

/-- `_asset_ctx`, from the snapshot on. -/
def assetCtx (marketType : MarketType) (coin : String) (data : Json) : Except PyError Json := do
  if marketType = .spot then
    let rows ← (← data.index 1).elements
    match ← findRow (fun row => do return (← row.getD "coin" .null).isText coin) rows with
    | some row => return row
    | none => throw (.valueError ("Coin " ++ coin ++ " not found on Hyperliquid spot"))
  else
    let universe' ← (← data.index 0).item "universe"
    let ctxs ← data.index 1
    let pairs := (← universe'.elements).zip (← ctxs.elements)
    match ← findRow (fun pair => do return (← pair.1.item "name").isText coin) pairs with
    | some pair => return pair.2
    | none => throw (.valueError ("Coin " ++ coin ++ " not found on Hyperliquid linear"))

/-- The extremes as `_hl_cache` holds them, without their time. -/
structure Extremes where
  high : Option ℚ
  low : Option ℚ
  deriving DecidableEq

/-- The highs and the lows of candles. -/
def highsAndLows (text : TextNumbers) (rows : Json) : Except PyError (List ℚ × List ℚ) := do
  if !rows.truthy then return ([], [])
  else
    let items ← rows.elements
    let highs ← items.mapM fun row => do (← row.item "h").float text
    let lows ← items.mapM fun row => do (← row.item "l").float text
    return (highs, lows)

/-- `_high_low_24h`, from the candles on. -/
def highLow24h (text : TextNumbers) (rows : Json) : Except PyError Extremes :=
  (highsAndLows text rows).map fun (highs, lows) => ⟨highs.max?, lows.min?⟩

/-- `if close > 0`: widen both, also in the cache. -/
def widen (close : ℚ) (extremes : Extremes) : Extremes :=
  if 0 < close then
    ⟨some (widenHigh extremes.high close), some (widenLow extremes.low close)⟩
  else extremes

/-- `_high_low_24h_cached`. -/
def highLowCache : ReadThrough ℚ Extremes ℚ := .ofTtl true tickerReseedS widen

/-- `close` of `get_ticker`. -/
def closeOf (text : TextNumbers) (coin : String) (asset : Json) : Except PyError ℚ := do
  match (← asset.getD "midPx" .null).or (← asset.getD "markPx" .null) with
  | .null => throw (.valueError ("Hyperliquid returned no price for " ++ coin))
  | px => px.float text

/-- `ctx` and `close` of `get_ticker`, in a snapshot. -/
def quoted (ctx : Context) (coin : String) (data : Json) : Except PyError (Json × ℚ) := do
  let asset ← assetCtx ctx.marketType coin data
  return (asset, ← closeOf ctx.text coin asset)

/-- `get_ticker`, from the snapshot and the extremes that its price was given. -/
def getTicker (ctx : Context) (coin : String) (data : Json) (extremes : Extremes) (stamp : ℚ) :
    Except PyError (Option Ticker) := do
  let (asset, close) ← quoted ctx coin data
  ticker ctx asset close (extremes.high.getD close) (extremes.low.getD close) stamp

section Bodies

/-- Requests that share an entry of `_ctx_cache` are the same request. -/
theorem CtxBody.key_injective {a b : CtxBody} (same : a.key = b.key) : a = b := by
  have letters := congrArg String.toList same
  cases a with
  | spot =>
    cases b with
    | spot => rfl
    | linear dex => cases dex <;> simp [CtxBody.key] at letters
  | linear dex =>
    cases b with
    | spot => cases dex <;> simp [CtxBody.key] at letters
    | linear other =>
      cases dex <;> cases other <;> simp [CtxBody.key] at letters
      · rfl
      · rw [String.toList_inj.mp letters]

theorem CtxBody.body_injective {a b : CtxBody} (same : a.body = b.body) : a = b := by
  cases a with
  | spot =>
    cases b with
    | spot => rfl
    | linear dex => cases dex <;> simp [CtxBody.body] at same
  | linear dex =>
    cases b with
    | spot => cases dex <;> simp [CtxBody.body] at same
    | linear other => cases dex <;> cases other <;> simp_all [CtxBody.body]

end Bodies

section Widening

/-- A price is within the extremes. -/
def Extremes.Within (extremes : Extremes) (price : ℚ) : Prop :=
  ∃ high low, extremes.high = some high ∧ extremes.low = some low ∧ low ≤ price ∧ price ≤ high

theorem le_of_widenHigh {high close : ℚ} : high ≤ widenHigh (some high) close := by
  simp only [widenHigh]
  split
  · next above => exact above.le
  · exact le_rfl

theorem le_of_widenLow {low close : ℚ} : widenLow (some low) close ≤ low := by
  simp only [widenLow]
  split
  · next below => exact below.le
  · exact le_rfl

theorem widen_within {extremes : Extremes} {close : ℚ} (positive : 0 < close) :
    (widen close extremes).Within close := by
  refine ⟨widenHigh extremes.high close, widenLow extremes.low close, ?_, ?_, ?_, ?_⟩
  · simp [widen, positive]
  · simp [widen, positive]
  · exact widenLow_le _ _
  · exact le_widenHigh _ _

/-- Widening keeps what was within. -/
theorem Extremes.Within.widen {extremes : Extremes} {price close : ℚ}
    (within : extremes.Within price) : (Snapshots.widen close extremes).Within price := by
  unfold Snapshots.widen
  split
  · obtain ⟨high, low, isHigh, isLow, above, below⟩ := within
    refine ⟨_, _, rfl, rfl, ?_, ?_⟩
    · rw [isLow]
      exact le_of_widenLow.trans above
    · rw [isHigh]
      exact below.trans le_of_widenHigh
  · exact within

/-- Every positive price that has widened the extremes is within them. -/
theorem foldr_widen_within {closes : List ℚ} {close : ℚ} (seed : Extremes) (member : close ∈ closes)
    (positive : 0 < close) : (closes.foldr widen seed).Within close := by
  induction closes with
  | nil => cases member
  | cons newest older ih =>
    rcases List.mem_cons.mp member with rfl | earlier
    · exact widen_within positive
    · exact (ih earlier).widen

/-- Extremes that are there are those of the candles, or prices that widened them. -/
theorem foldr_widen_high {closes : List ℚ} {seed : Extremes} {high : ℚ}
    (isHigh : (closes.foldr widen seed).high = some high) :
    seed.high = some high ∨ high ∈ closes := by
  induction closes generalizing high with
  | nil => exact .inl isHigh
  | cons newest older ih =>
    simp only [List.foldr_cons, widen] at isHigh
    split at isHigh
    · simp only [Option.some.injEq] at isHigh
      cases earlier : (older.foldr widen seed).high with
      | none => simp_all [widenHigh]
      | some before =>
        rw [earlier] at isHigh
        simp only [widenHigh] at isHigh
        split at isHigh
        · exact .inr (by simp [isHigh])
        · subst isHigh
          exact (ih earlier).imp_right (List.mem_cons_of_mem _)
    · exact (ih isHigh).imp_right (List.mem_cons_of_mem _)

/-- Widening never narrows. -/
theorem foldr_widen_wider (closes : List ℚ) (seed : Extremes) :
    (∀ h ∈ seed.high, ∃ top ∈ (closes.foldr widen seed).high, h ≤ top) ∧
      ∀ l ∈ seed.low, ∃ bottom ∈ (closes.foldr widen seed).low, bottom ≤ l := by
  induction closes with
  | nil => exact ⟨fun h own => ⟨h, own, le_rfl⟩, fun l own => ⟨l, own, le_rfl⟩⟩
  | cons newest older ih =>
    rw [List.foldr_cons, widen]
    split
    · refine ⟨fun h own => ?_, fun l own => ?_⟩
      · obtain ⟨top, isHigh, above⟩ := ih.1 h own
        rw [Option.mem_def.mp isHigh]
        exact ⟨_, rfl, above.trans le_of_widenHigh⟩
      · obtain ⟨bottom, isLow, below⟩ := ih.2 l own
        rw [Option.mem_def.mp isLow]
        exact ⟨_, rfl, le_of_widenLow.trans below⟩
    · exact ih

/-- The extremes of candles are theirs, and bound them also when they were widened. -/
theorem highLow24h_bounds {text : TextNumbers} {rows : Json} {highs lows : List ℚ}
    {seed : Extremes} (read : highsAndLows text rows = .ok (highs, lows))
    (seeded : highLow24h text rows = .ok seed) (closes : List ℚ) :
    (∀ h ∈ highs, ∃ top ∈ (closes.foldr widen seed).high, h ≤ top) ∧
      (∀ l ∈ lows, ∃ bottom ∈ (closes.foldr widen seed).low, bottom ≤ l) ∧
      ∀ h ∈ seed.high, h ∈ highs := by
  rw [highLow24h, read] at seeded
  obtain rfl : ⟨highs.max?, lows.min?⟩ = seed := Except.ok.inj seeded
  have wider := foldr_widen_wider closes ⟨highs.max?, lows.min?⟩
  refine ⟨fun h member => ?_, fun l member => ?_, fun h isHigh => List.max?_mem isHigh⟩
  · obtain ⟨x, best⟩ := Option.isSome_iff_exists.mp (List.isSome_max?_of_mem member)
    have above := (List.max?_eq_some_iff.mp best).2 h member
    obtain ⟨top, isHigh, higher⟩ := wider.1 x best
    exact ⟨top, isHigh, above.trans higher⟩
  · obtain ⟨x, best⟩ := Option.isSome_iff_exists.mp (List.isSome_min?_of_mem member)
    have below := (List.min?_eq_some_iff.mp best).2 l member
    obtain ⟨bottom, isLow, lower⟩ := wider.2 x best
    exact ⟨bottom, isLow, lower.trans below⟩

/-- The figures of a ticker that come from its price and the extremes. -/
theorem getTicker_eq_ok {ctx : Context} {coin : String} {data asset : Json} {close at' : ℚ}
    {extremes : Extremes} {shown : Ticker} (priced : quoted ctx coin data = .ok (asset, close))
    (built : getTicker ctx coin data extremes at' = .ok (some shown)) :
    shown.price = close ∧ shown.high24h = extremes.high.getD close ∧
      shown.low24h = extremes.low.getD close := by
  rw [getTicker, priced] at built
  exact (ticker_eq_ok built).2

end Widening

section Runs
variable {Err : Type}

/-- Concurrent `_ctx_snapshot` calls: for each key there is one request at a time, requests
are three seconds apart, and every call gets the snapshot served last for its own request
body, less than three seconds old when the call looked; calls share a key exactly when
they share the body. -/
theorem ctxSnapshot_shared {start : ℚ} {s : ReadThrough.State String ℚ Json Unit Err}
    (run : Reachable (ctxCache.system start) anyStep s) :
    (∀ later between rest started id key now at',
      s.log = later ++ .started started key now :: (between ++ .started id key at' :: rest) →
        ReadThrough.Ended id key between) ∧
    (∀ later rest started id key now stamp data,
      s.log = later ++ .started started key now :: rest → .served id key stamp data ∈ rest →
        ctxTtlS ≤ now - stamp) ∧
    (∀ later rest id (asked : CtxBody) now stamp data,
      s.log = later ++ .answered id asked.key () now stamp data :: rest →
        now - stamp < ctxTtlS ∧ ∃ since other before,
          rest = since ++ .served other asked.key stamp data :: before ∧
          (∀ record ∈ since, record.serves asked.key = false) ∧
          (∀ asked' : CtxBody, asked'.key = asked.key → asked' = asked) ∧
          ∀ asked' : CtxBody, asked'.body = asked.body → asked'.key = asked.key) := by
  have shared := ReadThrough.shared_reachable run
  refine ⟨shared.oneAtATime, ?_, ?_⟩
  · intro later rest started id key now stamp data split served
    exact of_decide_eq_true (shared.apart later rest started id key now stamp data split served rfl)
  · intro later rest id asked now stamp data split
    obtain ⟨recent, since, other, served, before, shape, others, folded⟩ :=
      shared.given later rest id asked.key () now stamp data split
    rw [ReadThrough.foldr_unadjusted fun _ _ => rfl] at folded
    subst folded
    refine ⟨?_, since, other, before, shape, others, fun _ same => CtxBody.key_injective same,
      fun _ same => congrArg CtxBody.key (CtxBody.body_injective same)⟩
    rcases recent with rfl | recent
    · rw [sub_self]
      exact three_pos
    · exact not_le.mp (of_decide_eq_false recent)

/-- Two calls at once share a request; a third, three seconds later, issues its own. -/
def twoRequests : List (ReadThrough.Event String ℚ Json Unit Unit) :=
  [.call 0 "spot" () 0, .call 1 "spot" () 0, .acquire 0 0, .reply "spot" 1 (.ok .null),
    .acquire 1 2, .call 2 "spot" () 4, .acquire 2 4]

/-- The log is that of a shared request and a new one. -/
def sharesOne (s : ReadThrough.State String ℚ Json Unit Unit) : Bool :=
  match s.log with
  | [.started 2 "spot" _, .answered 1 "spot" () _ _ _, .answered 0 "spot" () _ _ _,
      .served 0 "spot" _ _, .started 0 "spot" _] => true
  | _ => false

theorem twoRequests_ends :
    (ctxCache.system 0).endsIn (fun _ _ => true) twoRequests sharesOne = true := by
  decide +kernel

theorem ctxSnapshot_shared_twoRequests : ∃ s : ReadThrough.State String ℚ Json Unit Unit,
    Reachable (ctxCache.system 0) anyStep s ∧ ∃ later rest now stamp data,
      s.log = later ++ .started 2 "spot" now :: rest ∧ .served 0 "spot" stamp data ∈ rest ∧
        ctxTtlS ≤ now - stamp := by
  obtain ⟨s, run, ends⟩ := System.exists_reachable (fun _ _ _ _ => trivial) twoRequests_ends
  unfold sharesOne at ends
  split at ends
  · rename_i now now1 stamp1 data1 now0 stamp0 data0 stamp data first shape
    have apart := (ctxSnapshot_shared run).2.1 [] _ 2 0 "spot" now stamp data shape (by simp)
    exact ⟨s, run, [], _, now, stamp, data, shape, by simp, apart⟩
  · cases ends

/-- Concurrent `get_ticker` calls for a coin: its candles are read by one call at a time,
and once in two minutes; the price of each ticker, every price quoted since the candles
were read and every candle is between its extremes; and its high is that of a candle or
such a price. -/
theorem getTicker_covers {start : ℚ} {s : ReadThrough.State String ℚ Extremes ℚ Err}
    (run : Reachable (highLowCache.system start) anyStep s) :
    (∀ later between rest started id coin now at',
      s.log = later ++ .started started coin now :: (between ++ .started id coin at' :: rest) →
        ReadThrough.Ended id coin between) ∧
    (∀ later rest started id coin now stamp seed,
      s.log = later ++ .started started coin now :: rest → .served id coin stamp seed ∈ rest →
        tickerReseedS ≤ now - stamp) ∧
    ∀ later rest id coin close now stamp extremes,
      s.log = later ++ .answered id coin close now stamp extremes :: rest →
      now - stamp < tickerReseedS ∧ ∃ since other seed before,
        rest = since ++ .served other coin stamp seed :: before ∧
        (∀ record ∈ since, record.serves coin = false) ∧
        ∀ ctx data asset at' shown, quoted ctx coin data = .ok (asset, close) →
          getTicker ctx coin data extremes at' = .ok (some shown) →
          (0 < close → Bracketed shown) ∧
          (∀ price ∈ ReadThrough.argsOf coin since, 0 < price →
            shown.low24h ≤ price ∧ price ≤ shown.high24h) ∧
          (seed.high = some shown.high24h ∨
            shown.high24h ∈ close :: ReadThrough.argsOf coin since) ∧
          ∀ rows highs lows, highsAndLows ctx.text rows = .ok (highs, lows) →
            highLow24h ctx.text rows = .ok seed →
            (∀ h ∈ highs, h ≤ shown.high24h) ∧ (∀ l ∈ lows, shown.low24h ≤ l) ∧
            (shown.high24h ∈ highs ∨ shown.high24h ∈ close :: ReadThrough.argsOf coin since) := by
  have shared := ReadThrough.shared_reachable run
  refine ⟨shared.oneAtATime, ?_, ?_⟩
  · intro later rest started id coin now stamp seed split served
    have apart := shared.apart later rest started id coin now stamp seed split served rfl
    exact of_decide_eq_true apart
  · intro later rest id coin close now stamp extremes split
    obtain ⟨recent, since, other, seed, before, shape, others, folded⟩ :=
      shared.given later rest id coin close now stamp extremes split
    refine ⟨?_, since, other, seed, before, shape, others, ?_⟩
    · rcases recent with rfl | recent
      · rw [sub_self]
        norm_num [tickerReseedS]
      · exact not_le.mp (of_decide_eq_false recent)
    · intro ctx data asset at' shown priced built
      obtain ⟨price, high, low⟩ := getTicker_eq_ok priced built
      -- A price within the extremes is between those of the ticker.
      have between {quoted : ℚ} (within : extremes.Within quoted) :
          shown.low24h ≤ quoted ∧ quoted ≤ shown.high24h := by
        obtain ⟨h, l, isHigh, isLow, above, below⟩ := within
        rw [high, low, isHigh, isLow]
        exact ⟨above, below⟩
      have told : seed.high = some shown.high24h ∨
          shown.high24h ∈ close :: ReadThrough.argsOf coin since := by
        rw [high]
        cases isHigh : extremes.high with
        | none => exact .inr List.mem_cons_self
        | some top => exact foldr_widen_high (folded ▸ isHigh)
      refine ⟨?_, ?_, told, ?_⟩
      · intro positive
        rw [Bracketed, price]
        exact between (folded ▸ foldr_widen_within seed List.mem_cons_self positive)
      · intro quoted member positive
        exact between
          (folded ▸ foldr_widen_within seed (List.mem_cons_of_mem _ member) positive)
      · intro rows highs lows read seeded
        obtain ⟨above, below, own⟩ :=
          highLow24h_bounds read seeded (close :: ReadThrough.argsOf coin since)
        refine ⟨fun h member => ?_, fun l member => ?_, told.imp_left (own _)⟩
        · obtain ⟨top, isHigh, higher⟩ := above h member
          have given : extremes.high = some top := folded ▸ isHigh
          rwa [high, given]
        · obtain ⟨bottom, isLow, lower⟩ := below l member
          have given : extremes.low = some bottom := folded ▸ isLow
          rwa [low, given]

/-- A snapshot that quotes bitcoin at 7. -/
def snapshotAtSeven : Json :=
  .arr [.obj [("universe", .arr [.obj [("name", .str "BTC")]])],
    .arr [.obj [("midPx", .num 7), ("prevDayPx", .num 5), ("dayBaseVlm", .num 1)]]]

/-- The second ticker is quoted above the candles. -/
def twoPrices : List (ReadThrough.Event String ℚ Extremes ℚ Unit) :=
  [.call 0 "BTC" 5 0, .acquire 0 0, .reply "BTC" 1 (.ok ⟨some 6, some 4⟩), .call 1 "BTC" 7 2]

theorem twoPrices_ends : (highLowCache.system 0).endsIn (fun _ _ => true) twoPrices (fun s =>
    s.log = [.answered 1 "BTC" 7 2 1 ⟨some 7, some 4⟩, .answered 0 "BTC" 5 1 1 ⟨some 6, some 4⟩,
      .served 0 "BTC" 1 ⟨some 6, some 4⟩, .started 0 "BTC" 0]) = true := by
  decide +kernel

theorem getTicker_covers_twoPrices : ∃ s : ReadThrough.State String ℚ Extremes ℚ Unit,
    Reachable (highLowCache.system 0) anyStep s ∧
      ∃ rest, s.log = .answered 1 "BTC" 7 2 1 ⟨some 7, some 4⟩ :: rest ∧
      ∃ shown, getTicker btc "BTC" snapshotAtSeven ⟨some 7, some 4⟩ 2 = .ok (some shown) ∧
        Bracketed shown := by
  obtain ⟨s, run, ends⟩ := System.exists_reachable (fun _ _ _ _ => trivial) twoPrices_ends
  have shape := of_decide_eq_true ends
  obtain ⟨-, since, other, seed, before, -, -, covers⟩ :=
    (getTicker_covers run).2.2 [] _ 1 "BTC" 7 2 1 ⟨some 7, some 4⟩ shape
  obtain ⟨shown, built⟩ : ∃ shown,
      getTicker btc "BTC" snapshotAtSeven ⟨some 7, some 4⟩ 2 = .ok (some shown) := ⟨_, rfl⟩
  exact ⟨s, run, _, shape, shown, built,
    (covers btc snapshotAtSeven _ 2 shown rfl built).1 (by norm_num)⟩

end Runs

end ExchangeRouter.Hyperliquid.Snapshots
