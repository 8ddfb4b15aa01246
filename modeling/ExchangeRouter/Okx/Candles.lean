import ExchangeRouter.History.Pagination
import ExchangeRouter.InfoCache.Instruments
import ExchangeRouter.Lib.Dict
import ExchangeRouter.Records.Model

/-!
# OKX candles

`get_candles` of `src/exchanges/okx/adapter.py`.  The newest candles come from
one endpoint, older ones from a second with smaller pages, and the two are
joined.
-/
namespace ExchangeRouter.Okx.Candles
open Lib OrderBooks Records History InfoCache

/-- `params` of the upstream call. -/
structure Query where
  instId : String
  bar : String
  limit : ℕ
  after : Option ℤ

/-- What `get_candles` asks of the adapter: `_resolve_symbol`, `_info_for` and
`_make_request`. -/
structure Adapter where
  text : TextNumbers
  iso : String → Option ℤ
  resolveSymbol : String → MarketType → String
  infoFor : MarketType → String → Option (SymbolInfo ℚ)
  makeRequest : String → Query → Except FetchError Json

def mapCandleInterval (interval : String) : String :=
  if interval ∈ ["1h", "2h", "4h", "6h", "8h", "12h", "1d", "1w"] then interval.toUpper
  else interval

def perReq : ℕ := 300

def historyPerReq : ℕ := 100

section Parse
variable (adapter : Adapter) (marketType : MarketType) (apiSymbol interval : String)

/-- The volume of a row, its unit and the contract size that goes with it. -/
def rowVolume (cells : List Json) : Except PyError (ℚ × QtyUnit × Option ℚ) :=
  let cell := fun i => (cells.getD i .null).float adapter.text
  if marketType = .linear ∧ 7 ≤ cells.length then
    (cell 6).map fun volNative => (volNative, .base, none)
  else if marketType = .inverse then
    (cell 5).map fun volNative => (volNative, .contract,
      (adapter.infoFor marketType (okxModelSymbol apiSymbol)).bind SymbolInfo.contractSize)
  else (cell 5).map fun volNative => (volNative, .base, none)

def rowCandle (ts : ℤ) (cells : List Json) : Except PyError Candle := do
  let cell := fun i => (cells.getD i .null).float adapter.text
  let close ← cell 4
  let (volNative, volUnit, volCs) ← rowVolume adapter marketType apiSymbol cells
  return {
    symbol := okxModelSymbol apiSymbol
    marketType := marketType
    quote := ((adapter.infoFor marketType (okxModelSymbol apiSymbol)).map
      SymbolInfo.quoteAsset).getD ""
    interval := interval
    timestamp := ts
    «open» := ← cell 1
    high := ← cell 2
    low := ← cell 3
    close := close
    volume := ← buildVolumeValue volNative volUnit volCs close }

/-- The body of the loop of `_parse`, on a row with at least six cells. -/
def readRow (cells : List Json) : Except PyError (Option Candle) := do
  let ts ← normalizeTimestamp adapter.text adapter.iso (cells.getD 0 .null)
  if ts ≤ 0 then return none
  return some (← rowCandle adapter marketType apiSymbol interval ts cells)

/-- The candle of a row; `none` where `_parse` skips it.  Only `ValueError` and
`TypeError` arise in `readRow`. -/
def parseRow (row : Json) : Option Candle :=
  match row with
  | .arr cells =>
    if cells.length < 6 then none
    else
      match readRow adapter marketType apiSymbol interval cells with
      | .ok candle => candle
      | .error _ => none
  | _ => none

def parse (rows : Json) : List Candle :=
  match rows with
  | .arr rows =>
    sortByTime Candle.timestamp (rows.filterMap (parseRow adapter marketType apiSymbol interval))
  | _ => []

/-- `fetch_recent` and `fetch_history`; an anchor of zero is no anchor. -/
def fetchPage (endpoint : String) (cap : ℕ) (startTime endTs : Option ℤ) (l : ℕ) :
    Except FetchError (List Candle) :=
  (adapter.makeRequest endpoint ⟨apiSymbol, mapCandleInterval interval, min l cap,
    ((endTs.or startTime).filter fun anchor => anchor ≠ 0).map (· + 1)⟩).map
      (parse adapter marketType apiSymbol interval)

def fetchRecent : Option ℤ → Option ℤ → ℕ → Except FetchError (List Candle) :=
  fetchPage adapter marketType apiSymbol interval "/api/v5/market/candles" perReq

def fetchHistory : Option ℤ → Option ℤ → ℕ → Except FetchError (List Candle) :=
  fetchPage adapter marketType apiSymbol interval "/api/v5/market/history-candles" historyPerReq

end Parse

/-- `{c.timestamp: c for c in candles}`. -/
def byTimestamp (candles : List Candle) : Dict ℤ Candle := .collect Candle.timestamp id candles

def getCandles (adapter : Adapter) (marketType : MarketType) (symbol interval : String)
    (startTime : Option ℤ) (limit : ℕ) : Except FetchError (List Candle) :=
  let apiSymbol := adapter.resolveSymbol symbol marketType
  let recent := fetchRecent adapter marketType apiSymbol interval startTime none
  let history := fetchHistory adapter marketType apiSymbol interval startTime
  -- the text of a record determines it, so records stand for their JSON
  let paginate := fun fetch total =>
    paginateBackwards Candle.timestamp id (fun _ => fetch) historyPerReq total
  if startTime = none ∧ limit ≤ perReq then (recent limit).map (lastSlice limit)
  else
    match recent (min limit perReq) with
    | .error e => .error e
    | .ok [] => paginate history limit
    | .ok (oldest :: rest) =>
      let recentBatch := oldest :: rest
      if limit ≤ recentBatch.length then .ok (lastSlice limit recentBatch)
      else
        (paginate (fun endTs => history (endTs.or (some (oldest.timestamp - 1))))
          (limit - recentBatch.length)).map fun historyBatch =>
            lastSlice limit
              (sortByTime Candle.timestamp (byTimestamp (historyBatch ++ recentBatch)).values)

/-- Candles collected by their times and sorted are the one ascending list of them. -/
theorem sort_byTimestamp {items l : List Candle}
    (strict : l.Pairwise fun a b => a.timestamp < b.timestamp) (same : ∀ c, c ∈ items ↔ c ∈ l) :
    sortByTime Candle.timestamp (byTimestamp items).values = l := by
  have distinct : (l.map Candle.timestamp).Nodup :=
    List.pairwise_map.mpr (strict.imp fun earlier => earlier.ne)
  exact sortByTime_eq_of_perm (Dict.values_collect_perm distinct same) strict

end ExchangeRouter.Okx.Candles
