import ExchangeRouter.Funding.Model
import ExchangeRouter.Records.Model

/-!
# Binance candles and aggregate trades

`get_candles` and `get_agg_trades` of `src/exchanges/binance/adapter.py`.  Both
make one request when it can bring all that is asked for, and go back page by
page otherwise.
-/
namespace ExchangeRouter.Binance.Candles
open Lib OrderBooks Records History InfoCache
open Funding (getRestUrl getApiSymbol getModelSymbol)

/-- The URL and `params` of the upstream call. -/
structure Query where
  url : String
  symbol : String
  interval : Option String
  limit : ℕ
  endTime : Option ℤ

/-- What the routes ask of the adapter: `_info_for` and `_make_request`.  `str` is
that of Python. -/
structure Adapter where
  text : TextNumbers
  iso : String → Option ℤ
  str : Json → String
  infoFor : MarketType → String → Option (SymbolInfo ℚ)
  makeRequest : Query → Except FetchError Json

/-- An anchor of zero is no anchor. -/
def anchorOf (startTime endTs : Option ℤ) : Option ℤ :=
  (endTs.or startTime).filter fun anchor => anchor ≠ 0

section Parse
variable (adapter : Adapter) (marketType : MarketType) (symbol interval : String)

def quoteOf : String :=
  ((adapter.infoFor marketType (getModelSymbol (getApiSymbol symbol marketType))).map
    SymbolInfo.quoteAsset).getD ""

def unitOf : QtyUnit := if marketType = .inverse then .contract else .base

def contractSizeOf : Option ℚ :=
  (adapter.infoFor marketType (getModelSymbol (getApiSymbol symbol marketType))).bind
    SymbolInfo.contractSize

def candleOf (k : Json) : Except PyError Candle := do
  let cell := fun i => k.index i >>= Json.float adapter.text
  let close ← cell 4
  return {
    symbol := getModelSymbol (getApiSymbol symbol marketType)
    marketType := marketType
    quote := quoteOf adapter marketType symbol
    interval := interval
    timestamp := ← normalizeTimestamp adapter.text adapter.iso (← k.index 0)
    «open» := ← cell 1
    high := ← cell 2
    low := ← cell 3
    close := close
    volume := ← buildVolumeValue (← cell 5) (unitOf marketType)
      (contractSizeOf adapter marketType symbol) close }

def aggTradeOf (t : Json) : Except PyError AggTrade := do
  let price ← (← t.item "p").float adapter.text
  return {
    aggId := adapter.str (← t.item "a")
    symbol := getModelSymbol (getApiSymbol symbol marketType)
    marketType := marketType
    quote := quoteOf adapter marketType symbol
    price := price
    qty := ← buildQtyValue (← (← t.item "q").float adapter.text) (unitOf marketType)
      (contractSizeOf adapter marketType symbol) price
    firstTradeId := adapter.str (← t.item "f")
    lastTradeId := adapter.str (← t.item "l")
    side := if (← t.item "m").truthy then .sell else .buy
    timestamp := ← normalizeTimestamp adapter.text adapter.iso (← t.item "T") }

/-- The records of an answer, in its order. -/
def parse {R : Type} (recordOf : Json → Except PyError R) (data : Json) :
    Except FetchError (List R) :=
  (data.elements >>= List.mapM recordOf).mapError FetchError.ofPy

end Parse

section Candles
variable (adapter : Adapter) (marketType : MarketType) (symbol interval : String)

def klinesPath : MarketType → String
  | .spot => "/api/v3/klines"
  | .linear => "/fapi/v1/klines"
  | .inverse => "/dapi/v1/klines"

def fetchCandles (startTime endTs : Option ℤ) (l : ℕ) : Except FetchError (List Candle) :=
  adapter.makeRequest ⟨getRestUrl marketType ++ klinesPath marketType,
    getApiSymbol symbol marketType, some interval, l, anchorOf startTime endTs⟩ >>=
      parse (candleOf adapter marketType symbol interval)

def maxPerReq (marketType : MarketType) : ℕ := if marketType = .spot then 1000 else 1500

def getCandles (startTime : Option ℤ) (limit : ℕ) : Except FetchError (List Candle) :=
  let fetch := fetchCandles adapter marketType symbol interval startTime
  if startTime ≠ none ∨ maxPerReq marketType < limit then
    -- the text of a record determines it, so records stand for their JSON
    paginateBackwards Candle.timestamp id (fun _ => fetch) (maxPerReq marketType) limit
  else fetch none limit

end Candles

section AggTrades
variable (adapter : Adapter) (marketType : MarketType) (symbol : String)

def aggTradesPath : MarketType → String
  | .spot => "/api/v3/aggTrades"
  | .linear => "/fapi/v1/aggTrades"
  | .inverse => "/dapi/v1/aggTrades"

def fetchAggTrades (startTime endTs : Option ℤ) (l : ℕ) : Except FetchError (List AggTrade) :=
  adapter.makeRequest ⟨getRestUrl marketType ++ aggTradesPath marketType,
    getApiSymbol symbol marketType, none, l, anchorOf startTime endTs⟩ >>=
      parse (aggTradeOf adapter marketType symbol)

/-- A start of zero is no start. -/
def getAggTrades (startTime : Option ℤ) (limit : ℕ) : Except FetchError (List AggTrade) :=
  let fetch := fetchAggTrades adapter marketType symbol startTime
  if startTime.getD 0 ≠ 0 ∨ 1000 < limit then
    paginateBackwards AggTrade.timestamp id (fun _ => fetch) 1000 limit
  else fetch none limit

end AggTrades
end ExchangeRouter.Binance.Candles
