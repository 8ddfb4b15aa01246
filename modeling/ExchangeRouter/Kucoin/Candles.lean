import ExchangeRouter.History.Pagination
import ExchangeRouter.InfoCache.Instruments
import ExchangeRouter.Records.Model

/-!
# KuCoin candles

`get_candles` of `src/exchanges/kucoin/adapter.py`.  Spot is asked for windows of
time in seconds, futures for the rows up to a time in milliseconds.
-/
namespace ExchangeRouter.Kucoin.Candles
open Lib OrderBooks Records History InfoCache

/-- The upstream calls: `/api/v1/market/candles` of the spot host and
`/api/v1/kline/query` of the futures host, with their parameters. -/
inductive Request
  | marketCandles (symbol ktype : String) (startAt endAt : ℤ)
  | klineQuery (symbol : String) (granularity : ℕ) (toMs : Option ℤ)
  deriving DecidableEq

/-- What `get_candles` asks of the adapter: `_resolve_symbol` (`none` where the
symbol is not listed), `_info_for`, `_multiplier_for`, the clock
(`int(time.time() * 1000)`) and `_make_request`. -/
structure Adapter where
  text : TextNumbers
  resolveSymbol : String → MarketType → Option String
  infoFor : MarketType → String → Option (SymbolInfo ℚ)
  multiplierFor : MarketType → String → Option ℚ
  nowMs : ℤ
  makeRequest : Request → Except FetchError Json

def mapSpotInterval : String → Option String
  | "1m" => some "1min"
  | "3m" => some "3min"
  | "5m" => some "5min"
  | "15m" => some "15min"
  | "30m" => some "30min"
  | "1h" => some "1hour"
  | "2h" => some "2hour"
  | "4h" => some "4hour"
  | "6h" => some "6hour"
  | "8h" => some "8hour"
  | "12h" => some "12hour"
  | "1d" => some "1day"
  | "1w" => some "1week"
  | _ => none

def mapFuturesGranularity : String → Option ℕ
  | "1m" => some 1
  | "5m" => some 5
  | "15m" => some 15
  | "30m" => some 30
  | "1h" => some 60
  | "2h" => some 120
  | "4h" => some 240
  | "8h" => some 480
  | "12h" => some 720
  | "1d" => some 1440
  | "1w" => some 10080
  | _ => none

def unitMs : Char → ℤ
  | 'm' => 60 * 1000
  | 'h' => 60 * 60 * 1000
  | 'd' => 24 * 60 * 60 * 1000
  | 'w' => 7 * 24 * 60 * 60 * 1000
  | _ => 0

/-- `int` of digits, and 0 where it fails; an interval has no blank, sign or
underscore. -/
def digitsValue (digits : List Char) : ℤ :=
  if digits ≠ [] ∧ digits.all Char.isDigit then
    digits.foldl (fun value c => 10 * value + (c.toNat - '0'.toNat : ℕ)) 0
  else 0

def intervalToMs (interval : String) : ℤ :=
  match interval.toList.getLast? with
  | none => 0
  | some unit => digitsValue interval.toList.dropLast * unitMs unit

/-- `_s_to_ms`. -/
def sToMs (text : TextNumbers) (ts : Json) : ℤ :=
  match ts.int text with
  | .ok v => if v < 10 ^ 11 then v * 1000 else v
  | .error _ => 0

/-- Both `_parse` functions, around the body of their loops. -/
def parse (parseRow : List Json → Option Candle) (rows : Json) : List Candle :=
  match rows with
  | .arr rows => sortByTime Candle.timestamp (rows.filterMap fun row =>
      match row with
      | .arr cells => if cells.length < 6 then none else parseRow cells
      | _ => none)
  | _ => []

section Spot
variable (adapter : Adapter) (apiSymbol interval : String)

def quoteOf (marketType : MarketType) : String :=
  ((adapter.infoFor marketType (kucoinModelSymbol apiSymbol)).map SymbolInfo.quoteAsset).getD ""

def spotCandle (ts : ℤ) (cells : List Json) : Except PyError Candle := do
  let cell := fun i => (cells.getD i .null).float adapter.text
  let close ← cell 2
  return {
    symbol := kucoinModelSymbol apiSymbol
    marketType := .spot
    quote := quoteOf adapter apiSymbol .spot
    interval := interval
    timestamp := ts
    «open» := ← cell 1
    close := close
    high := ← cell 3
    low := ← cell 4
    volume := ← buildVolumeValue (← cell 5) .base none close }

/-- Only `ValueError` and `TypeError` arise in `spotCandle`. -/
def parseSpotRow (cells : List Json) : Option Candle :=
  let ts := sToMs adapter.text (cells.getD 0 .null)
  if ts ≤ 0 then none else (spotCandle adapter apiSymbol interval ts cells).toOption

def spotPerReq : ℕ := 1500

/-- The start of the window of `l` intervals before a second. -/
def windowStart (interval : String) (endS : ℤ) (l : ℕ) : ℤ :=
  max (endS - max (intervalToMs interval * l / 1000) 60) 0

def fetchSpot (ktype : String) (startTime endTs : Option ℤ) (l : ℕ) :
    Except FetchError (List Candle) :=
  let anchorMs := (endTs.or startTime).getD adapter.nowMs
  let endS := anchorMs / 1000 + 1
  (adapter.makeRequest (.marketCandles apiSymbol ktype (windowStart interval endS l) endS)).map
    (parse (parseSpotRow adapter apiSymbol interval))

def getCandlesSpot (startTime : Option ℤ) (limit : ℕ) : Except FetchError (List Candle) :=
  match mapSpotInterval interval with
  | none => .error (.valueError ("KuCoin does not support interval " ++ interval))
  | some ktype =>
    let fetch := fetchSpot adapter apiSymbol interval ktype startTime
    if startTime = none ∧ limit ≤ spotPerReq then (fetch none limit).map (lastSlice limit)
    -- the text of a record determines it, so records stand for their JSON
    else paginateBackwards Candle.timestamp id (fun _ => fetch) spotPerReq limit

end Spot

section Futures
variable (adapter : Adapter) (marketType : MarketType) (apiSymbol interval : String)

/-- The volume of a row, its unit and the contract size that goes with it. -/
def futuresVolume (volRaw : ℚ) : ℚ × QtyUnit × Option ℚ :=
  let modelSym := kucoinModelSymbol apiSymbol
  if marketType = .inverse then
    (volRaw, .contract, (adapter.infoFor marketType modelSym).bind SymbolInfo.contractSize)
  else (volRaw * (adapter.multiplierFor marketType modelSym).getD 0, .base, none)

def futuresCandle (ts : ℤ) (cells : List Json) : Except PyError Candle := do
  let cell := fun i => (cells.getD i .null).float adapter.text
  let close ← cell 4
  let (volNative, volUnit, volCs) := futuresVolume adapter marketType apiSymbol (← cell 5)
  return {
    symbol := kucoinModelSymbol apiSymbol
    marketType := marketType
    quote := quoteOf adapter apiSymbol marketType
    interval := interval
    timestamp := ts
    «open» := ← cell 1
    high := ← cell 2
    low := ← cell 3
    close := close
    volume := ← buildVolumeValue volNative volUnit volCs close }

/-- A time that is no number raises `ValueError` or `TypeError` too. -/
def parseFuturesRow (cells : List Json) : Option Candle :=
  match (cells.getD 0 .null).int adapter.text with
  | .ok ts =>
    if ts ≤ 0 then none
    else (futuresCandle adapter marketType apiSymbol interval ts cells).toOption
  | .error _ => none

def futuresPerReq : ℕ := 200

/-- An anchor of zero is no anchor; the size of the page is not sent. -/
def fetchFutures (granularity : ℕ) (startTime endTs : Option ℤ) (_l : ℕ) :
    Except FetchError (List Candle) :=
  (adapter.makeRequest (.klineQuery apiSymbol granularity
    (((endTs.or startTime).filter fun anchor => anchor ≠ 0).map (· + 1)))).map
      (parse (parseFuturesRow adapter marketType apiSymbol interval))

def getCandlesFutures (startTime : Option ℤ) (limit : ℕ) : Except FetchError (List Candle) :=
  match mapFuturesGranularity interval with
  | none => .error (.valueError ("KuCoin does not support interval " ++ interval))
  | some granularity =>
    let modelSym := kucoinModelSymbol apiSymbol
    -- the multiplier is present where `futuresVolume` reads it
    if marketType ≠ .inverse ∧ adapter.multiplierFor marketType modelSym = none then
      .error (.valueError
        ("Contract multiplier unavailable for " ++ modelSym ++ " on KuCoin linear"))
    else
      let fetch := fetchFutures adapter marketType apiSymbol interval granularity startTime
      if startTime = none ∧ limit ≤ futuresPerReq then (fetch none limit).map (lastSlice limit)
      else paginateBackwards Candle.timestamp id (fun _ => fetch) futuresPerReq limit

end Futures

def getCandles (adapter : Adapter) (marketType : MarketType) (symbol interval : String)
    (startTime : Option ℤ) (limit : ℕ) : Except FetchError (List Candle) :=
  match adapter.resolveSymbol symbol marketType with
  | none => .error (.valueError ("Symbol " ++ symbol ++ " not listed on KuCoin spot"))
  | some apiSymbol =>
    if marketType = .spot then getCandlesSpot adapter apiSymbol interval startTime limit
    else getCandlesFutures adapter marketType apiSymbol interval startTime limit

/-- A spot interval is a whole number of minutes. -/
theorem intervalToMs_minutes {interval ktype : String}
    (named : mapSpotInterval interval = some ktype) :
    ∃ minutes, 0 < minutes ∧ intervalToMs interval = 60000 * minutes := by
  unfold mapSpotInterval at named
  split at named
  · exact ⟨1, by decide, by decide⟩
  · exact ⟨3, by decide, by decide⟩
  · exact ⟨5, by decide, by decide⟩
  · exact ⟨15, by decide, by decide⟩
  · exact ⟨30, by decide, by decide⟩
  · exact ⟨60, by decide, by decide⟩
  · exact ⟨120, by decide, by decide⟩
  · exact ⟨240, by decide, by decide⟩
  · exact ⟨360, by decide, by decide⟩
  · exact ⟨480, by decide, by decide⟩
  · exact ⟨720, by decide, by decide⟩
  · exact ⟨1440, by decide, by decide⟩
  · exact ⟨10080, by decide, by decide⟩
  · cases named

end ExchangeRouter.Kucoin.Candles
