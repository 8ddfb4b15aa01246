import ExchangeRouter.History.Pagination
import ExchangeRouter.InfoCache.Instruments
import ExchangeRouter.Records.Model

/-!
# Kraken futures candles

The futures branch of `get_candles` of `src/exchanges/kraken/adapter.py`: a walk
forward from `limit` intervals before the anchor, cut at the anchor.
-/
namespace ExchangeRouter.Kraken.Candles
open Lib OrderBooks Records History InfoCache

/-- What `get_candles` asks of the adapter: the symbol maps, `_info_for`, the
clock (`int(time.time())`) and `_make_request` with `from`. -/
structure Adapter where
  text : TextNumbers
  iso : String → Option ℤ
  getApiSymbol : String → MarketType → String
  getModelSymbol : String → String
  infoFor : MarketType → String → Option (SymbolInfo ℚ)
  nowSecs : ℤ
  makeRequest : String → ℤ → Except FetchError Json

/-- `interval_secs_map`. -/
def intervalSecs : String → Option ℤ
  | "1m" => some 60
  | "5m" => some 300
  | "15m" => some 900
  | "30m" => some 1800
  | "1h" => some 3600
  | "4h" => some 14400
  | "12h" => some 43200
  | "1d" => some 86400
  | "1w" => some 604800
  | _ => none

theorem intervalSecs_positive {interval : String} {secs : ℤ}
    (named : intervalSecs interval = some secs) : 0 < secs := by
  unfold intervalSecs at named
  split at named <;> cases named <;> decide

def maxPages : ℕ := 20

def futuresChartUrl : String := "https://futures.kraken.com/api/charts/v1"

section Walk
variable (adapter : Adapter) (marketType : MarketType) (symbol interval : String)

def modelSym : String := adapter.getModelSymbol (adapter.getApiSymbol symbol marketType)

def url : String :=
  futuresChartUrl ++ "/trade/" ++ adapter.getApiSymbol symbol marketType ++ "/" ++ interval

def rowTime (b : Json) : Except PyError ℤ := do
  normalizeTimestamp adapter.text adapter.iso (← b.item "time")

def rowCandle (tsMs : ℤ) (b : Json) : Except PyError Candle := do
  let info := adapter.infoFor marketType (modelSym adapter marketType symbol)
  let number := fun key => b.item key >>= Json.float adapter.text
  let close ← number "close"
  return {
    symbol := modelSym adapter marketType symbol
    marketType := marketType
    quote := (info.map SymbolInfo.quoteAsset).getD ""
    interval := interval
    timestamp := tsMs
    «open» := ← number "open"
    high := ← number "high"
    low := ← number "low"
    close := close
    volume := ← buildVolumeValue (← number "volume")
      (if marketType = .inverse then .contract else .base)
      (info.bind SymbolInfo.contractSize) close }

/-- The locals of the loop over a batch. -/
structure Batch where
  allCandles : List Candle
  seenTs : Finset ℤ
  added : ℕ
  lastTsSecs : ℤ

def addRows : List Json → Batch → Except PyError Batch
  | [], batch => .ok batch
  | b :: rest, batch =>
    match rowTime adapter b with
    | .error e => .error e
    | .ok tsMs =>
      if tsMs ∈ batch.seenTs then addRows rest { batch with lastTsSecs := tsMs / 1000 }
      else
        match rowCandle adapter marketType symbol interval tsMs b with
        | .error e => .error e
        | .ok candle =>
          addRows rest ⟨batch.allCandles ++ [candle], insert tsMs batch.seenTs, batch.added + 1,
            tsMs / 1000⟩

/-- The loop over the pages; its counter is the number of pages left. -/
def walk (intervalSecs anchorSecs : ℤ) :
    ℕ → ℤ → List Candle → Finset ℤ → Except FetchError (List Candle)
  | 0, _, allCandles, _ => .ok allCandles
  | left + 1, fromTs, allCandles, seenTs =>
    match adapter.makeRequest (url adapter marketType symbol interval) fromTs with
    | .error e => if e.stopsPagination then .ok allCandles else .error e
    | .ok data =>
      match data.getD "candles" (.arr []) with
      | .error e => .error (.ofPy e)
      | .ok (.arr rows) =>
        if rows.isEmpty then .ok allCandles
        else
          match addRows adapter marketType symbol interval rows
            ⟨allCandles, seenTs, 0, fromTs⟩ with
          | .error e => .error (.ofPy e)
          | .ok batch =>
            if batch.added = 0 ∨ anchorSecs - intervalSecs ≤ batch.lastTsSecs then
              .ok batch.allCandles
            else
              walk intervalSecs anchorSecs left (batch.lastTsSecs + intervalSecs) batch.allCandles
                batch.seenTs
      -- only a list has rows with a time
      | .ok other => if other.truthy then .error (.ofPy .typeError) else .ok allCandles

/-- `get_candles` on linear and inverse. -/
def getCandlesFutures (startTime : Option ℤ) (limit : ℕ) : Except FetchError (List Candle) :=
  match intervalSecs interval with
  | none => .error (.valueError ("Kraken does not support interval " ++ interval))
  | some intervalSecs =>
    let start := startTime.filter fun start => start ≠ 0
    let anchorSecs := start.elim adapter.nowSecs fun start => start.tdiv 1000
    (walk adapter marketType symbol interval intervalSecs anchorSecs maxPages
      (anchorSecs - limit * intervalSecs) [] ∅).map fun allCandles =>
        let sorted := sortByTime Candle.timestamp allCandles
        lastSlice limit (start.elim sorted fun start => upTo Candle.timestamp start sorted)

end Walk
end ExchangeRouter.Kraken.Candles
