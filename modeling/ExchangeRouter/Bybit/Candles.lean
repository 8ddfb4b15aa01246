import ExchangeRouter.Bybit.Tickers
import ExchangeRouter.History.Pagination
import ExchangeRouter.InfoCache.Instruments

/-!
# Bybit candles

`get_candles` of `src/exchanges/bybit/adapter.py`.
-/
namespace ExchangeRouter.Bybit.Candles
open Lib OrderBooks Records History InfoCache

/-- `params` of the upstream call to `/v5/market/kline`. -/
structure Query where
  category : String
  symbol : String
  interval : String
  limit : ℕ
  «end» : Option ℤ

/-- What `get_candles` asks of the adapter: `_info_for` and `_make_request`. -/
structure Adapter where
  text : TextNumbers
  infoFor : MarketType → String → Option (SymbolInfo ℚ)
  makeRequest : Query → Except FetchError Json

def getCategory : MarketType → String
  | .spot => "spot"
  | .linear => "linear"
  | .inverse => "inverse"

def getApiSymbol (symbol : String) : String :=
  let s := symbol.toUpper
  if s.endsWith "_PERP" then s.replace "_PERP" "" else s

/-- `none` is the `ValueError` of `int`. -/
def mapCandleInterval (text : TextNumbers) (interval : String) : Option String :=
  let count := String.ofList interval.toList.dropLast
  if interval = "1d" then some "D"
  else if interval = "1w" then some "W"
  else if interval = "1M" then some "M"
  else if interval.toList.getLast? = some 'm' then some count
  else if interval.toList.getLast? = some 'h' then
    (text.int count).map fun hours => toString (hours * 60)
  else some interval

def maxPerReq : ℕ := 1000

section Candles
variable (adapter : Adapter) (marketType : MarketType) (symbol interval : String)

def candleOf (k : Json) : Except PyError Candle := do
  let modelSym := Tickers.getModelSymbol (getApiSymbol symbol)
  let info := adapter.infoFor marketType modelSym
  let cell := fun i => k.index i >>= Json.float adapter.text
  let close ← cell 4
  return {
    symbol := modelSym
    marketType := marketType
    quote := (info.map SymbolInfo.quoteAsset).getD ""
    interval := interval
    timestamp := ← Tickers.normalizeTimestamp adapter.text (← k.index 0)
    «open» := ← cell 1
    high := ← cell 2
    low := ← cell 3
    close := close
    volume := ← buildVolumeValue (← cell 5) (if marketType = .inverse then .contract else .base)
      (info.bind SymbolInfo.contractSize) close }

def parse (data : Json) : Except PyError (List Candle) := do
  let rows ← data.item "list"
  if !rows.truthy then return []
  let parsed ← (← rows.elements).mapM (candleOf adapter marketType symbol interval)
  return sortByTime Candle.timestamp parsed

/-- An anchor of zero is no anchor. -/
def fetchCandles (bybitInterval : String) (startTime endTs : Option ℤ) (l : ℕ) :
    Except FetchError (List Candle) :=
  adapter.makeRequest ⟨getCategory marketType, getApiSymbol symbol, bybitInterval,
    min l maxPerReq, (endTs.or startTime).filter fun anchor => anchor ≠ 0⟩ >>=
      fun data => (parse adapter marketType symbol interval data).mapError FetchError.ofPy

def getCandles (startTime : Option ℤ) (limit : ℕ) : Except FetchError (List Candle) :=
  match mapCandleInterval adapter.text interval with
  | none => .error (.valueError "invalid literal for int()")
  | some bybitInterval =>
    let fetch := fetchCandles adapter marketType symbol interval bybitInterval startTime
    if startTime ≠ none ∨ maxPerReq < limit then
      -- the text of a record determines it, so records stand for their JSON
      paginateBackwards Candle.timestamp id (fun _ => fetch) maxPerReq limit
    else fetch none limit

end Candles
end ExchangeRouter.Bybit.Candles
