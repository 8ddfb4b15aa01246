import ExchangeRouter.Binance.Candles
import ExchangeRouter.Bybit.Candles
import ExchangeRouter.History.Paged
import ExchangeRouter.Okx.Candles
import ExchangeRouter.Symbols.Model

/-!
# Statistics of perpetuals

`get_open_interest` and `get_long_short_ratio` of the Binance, Bybit and OKX
adapters, and `get_funding_rate` of the last two: they differ in what they ask
and read, in the size of a page, and in whether a single page is walked as well.
-/
namespace ExchangeRouter.History.Statistics
open Lib OrderBooks Records InfoCache
open ExchangeRouter.Funding (FundingRate FundingHistorical)

abbrev Params := List (String × Json)

structure Query where
  endpoint : String
  params : Params

/-- What the routes ask of an adapter.  `resolveSymbol` and `fundingIntervalMs` are
`_resolve_symbol` and `_funding_interval_ms_for`. -/
structure Adapter where
  text : TextNumbers
  iso : String → Option ℤ
  resolveSymbol : String → MarketType → String
  infoFor : MarketType → String → Option (SymbolInfo ℚ)
  fundingIntervalMs : MarketType → String → Option ℤ
  makeRequest : Query → Except FetchError Json

/-- `if anchor: p[name] = ...`. -/
def anchored (name : String) (value : ℤ → Json) (anchor : Option ℤ) : Params :=
  (anchor.map fun anchor => (name, value anchor)).toList

/-- An open interest without a candle to price it. -/
def oiRow (modelSym : String) (marketType : MarketType) (quote period : String) (native : ℚ)
    (unit : QtyUnit) (contractSize : Option ℚ) (timestamp : Except PyError ℤ) :
    Except PyError OpenInterest := do
  return {
    symbol := modelSym
    marketType := marketType
    quote := quote
    interval := period
    openInterest := ← buildOiValue native unit contractSize none none
    timestamp := ← timestamp }

section Routes
variable (adapter : Adapter) (marketType : MarketType) (symbol period : String)

def quoteOf (modelSym : String) : String :=
  ((adapter.infoFor marketType modelSym).map SymbolInfo.quoteAsset).getD ""

def contractSizeOf (modelSym : String) : Option ℚ :=
  (adapter.infoFor marketType modelSym).bind SymbolInfo.contractSize

namespace Binance
open ExchangeRouter.Funding (getRestUrl normalizeSymbol getModelSymbol)
open ExchangeRouter.Binance.Candles (unitOf)

def rawSymbol : String := (normalizeSymbol symbol).replace "_PERP" ""

def symKey : String := if marketType = .linear then "symbol" else "pair"

def openInterest : Paged Query OpenInterest where
  timestamp := OpenInterest.timestamp
  perReq := 500
  always := true
  query := fun l anchor => ⟨getRestUrl marketType ++ "/futures/data/openInterestHist",
    [(symKey marketType, .str (rawSymbol symbol)), ("period", .str period), ("limit", .num l)] ++
      anchored "endTime" (fun anchor => .num anchor) anchor ++
      if marketType = .inverse then [("contractType", .str "PERPETUAL")] else []⟩
  rows := Json.elements
  row := fun i => do
    let modelSymbol := getModelSymbol (rawSymbol symbol)
    return some (← oiRow modelSymbol marketType (quoteOf adapter marketType modelSymbol) period
      (← (← i.item "sumOpenInterest").float adapter.text) (unitOf marketType)
      (contractSizeOf adapter marketType modelSymbol)
      (i.item "timestamp" >>= normalizeTimestamp adapter.text adapter.iso))
  sorts := false
  slices := false

def getOpenInterest (startTime : Option ℤ) (limit : ℕ) : Except FetchError (List OpenInterest) :=
  perpetualOnly marketType
    ((openInterest adapter marketType symbol period).get adapter.makeRequest startTime limit)

end Binance

namespace Bybit
open ExchangeRouter.Bybit.Candles (getCategory getApiSymbol)
open ExchangeRouter.Bybit.Tickers (getModelSymbol normalizeTimestamp)

def mapMetricInterval (interval : String) : String :=
  if interval.toList.getLast? = some 'm' then String.ofList interval.toList.dropLast ++ "min"
  else interval

def modelSym : String := getModelSymbol (getApiSymbol symbol)

/-- `data.get("list", [])`. -/
def listOf (data : Json) : Except PyError (List Json) := do
  (← data.getD "list" (.arr [])).elements

def asked (perReq l : ℕ) (anchor : Option ℤ) (own : Params) : Params :=
  [("category", .str (getCategory marketType)), ("symbol", .str (getApiSymbol symbol))] ++ own ++
    [("limit", .num (min l perReq : ℕ))] ++ anchored "endTime" (fun anchor => .num anchor) anchor

def fundingRate : Paged Query FundingRate where
  timestamp := FundingRate.timestamp
  perReq := 200
  always := true
  query := fun l anchor => ⟨"/v5/market/funding/history",
    asked marketType symbol 200 l anchor []⟩
  rows := listOf
  row := fun i => do
    return some {
      symbol := modelSym symbol
      marketType := marketType
      quote := quoteOf adapter marketType (modelSym symbol)
      rate := ⟨.discrete, ← (← i.item "fundingRate").float adapter.text,
        (adapter.fundingIntervalMs marketType (modelSym symbol)).getD (8 * 3600000)⟩
      timestamp := ← normalizeTimestamp adapter.text (← i.item "fundingRateTimestamp") }
  sorts := true
  slices := false

def getFundingRate (startTime : Option ℤ) (limit : ℕ) : Except FetchError (List FundingRate) :=
  perpetualOnly marketType
    ((fundingRate adapter marketType symbol).get adapter.makeRequest startTime limit)

def openInterest : Paged Query OpenInterest where
  timestamp := OpenInterest.timestamp
  perReq := 200
  always := true
  query := fun l anchor => ⟨"/v5/market/open-interest",
    asked marketType symbol 200 l anchor [("intervalTime", .str (mapMetricInterval period))]⟩
  rows := fun data => data.item "list" >>= Json.elements
  row := fun i => do
    return some (← oiRow (modelSym symbol) marketType (quoteOf adapter marketType (modelSym symbol))
      period (← (← i.item "openInterest").float adapter.text)
      (if marketType = .inverse then .contract else .base)
      (contractSizeOf adapter marketType (modelSym symbol))
      (i.item "timestamp" >>= normalizeTimestamp adapter.text))
  sorts := true
  slices := false

def getOpenInterest (startTime : Option ℤ) (limit : ℕ) : Except FetchError (List OpenInterest) :=
  perpetualOnly marketType
    ((openInterest adapter marketType symbol period).get adapter.makeRequest startTime limit)

end Bybit

namespace Okx
open ExchangeRouter.Okx.Candles (mapCandleInterval)
open Symbols (quoted endsWith)
open Symbols.Okx (normalizeSymbol getApiSymbol)

/-- `continue` on rows that are no lists or too short, and on what `_parse` catches. -/
def listRow {R : Type} (read : List Json → Except PyError (Option R)) : Json →
    Except PyError (Option R)
  | .arr cells =>
    if cells.length < 2 then .ok none
    else
      match read cells with
      | .error (.valueError _) | .error .typeError => .ok none
      | other => other
  | _ => .ok none

/-- A time that is not positive is skipped. -/
def timed {R : Type} (cells : List Json) (record : ℤ → Except PyError R) :
    Except PyError (Option R) := do
  let ts ← normalizeTimestamp adapter.text adapter.iso (cells.getD 0 .null)
  if ts ≤ 0 then return none
  return some (← record ts)

def asked (own : Params) (l : ℕ) : Params := own ++ [("limit", .num (min l 100 : ℕ))]

def fundingRate : Paged Query FundingRate where
  timestamp := FundingRate.timestamp
  perReq := 100
  always := false
  query := fun l anchor => ⟨"/api/v5/public/funding-rate-history",
    asked [("instId", .str (adapter.resolveSymbol symbol marketType))] l ++
      anchored "after" (fun anchor => .str (toString (anchor + 1))) anchor⟩
  rows := Json.elements
  row := fun r => do
    let apiSymbol := adapter.resolveSymbol symbol marketType
    return some {
      symbol := okxModelSymbol apiSymbol
      marketType := marketType
      quote := quoteOf adapter marketType (okxModelSymbol apiSymbol)
      rate := ⟨.discrete, ← (← r.item "fundingRate").float adapter.text,
        (adapter.fundingIntervalMs marketType apiSymbol).getD (8 * 3600000)⟩
      timestamp := ← normalizeTimestamp adapter.text adapter.iso (← r.item "fundingTime") }
  sorts := true
  slices := true

def getFundingRate (startTime : Option ℤ) (limit : ℕ) : Except FetchError (List FundingRate) :=
  perpetualOnly marketType
    ((fundingRate adapter marketType symbol).get adapter.makeRequest startTime limit)

/-- A linear row has its amount in the base asset in the third cell. -/
def openInterest : Paged Query OpenInterest where
  timestamp := OpenInterest.timestamp
  perReq := 100
  always := false
  query := fun l anchor => ⟨"/api/v5/rubik/stat/contracts/open-interest-history",
    asked [("instId", .str (adapter.resolveSymbol symbol marketType)),
      ("period", .str (mapCandleInterval period))] l ++
      anchored "end" (fun anchor => .str (toString anchor)) anchor⟩
  rows := Json.elements
  row := listRow fun cells =>
    let modelSym := okxModelSymbol (adapter.resolveSymbol symbol marketType)
    let quote := quoteOf adapter marketType modelSym
    timed adapter cells fun ts => do
      if marketType = .linear ∧ 3 ≤ cells.length then
        oiRow modelSym marketType quote period (← (cells.getD 2 .null).float adapter.text) .base
          none (.ok ts)
      else
        oiRow modelSym marketType quote period (← (cells.getD 1 .null).float adapter.text) .contract
          (contractSizeOf adapter marketType modelSym) (.ok ts)
  sorts := true
  slices := true

def getOpenInterest (startTime : Option ℤ) (limit : ℕ) : Except FetchError (List OpenInterest) :=
  perpetualOnly marketType
    ((openInterest adapter marketType symbol period).get adapter.makeRequest startTime limit)

end Okx

end Routes

section Hours

def hour (n : ℕ) : ℤ := 1700000000000 + 3600000 * n

def hourRow (n : ℕ) : Json := .obj [("openInterest", .num (n + 1)), ("timestamp", .num (hour n))]

def hourRecord (n : ℕ) : OpenInterest where
  symbol := Bybit.modelSym "BTCUSDT"
  marketType := .linear
  quote := ""
  interval := "1h"
  openInterest := ⟨n + 1, .base, none, none, ⟨.candleClose, none, none, unpaired⟩, unsized⟩
  timestamp := hour n

def numberAt (name : String) (params : Params) : Option ℤ :=
  (params.lookup name).bind fun value =>
    match value with
    | .num q => some q.num
    | _ => none

/-- An upstream with these hours: the newest that are asked for, newest first. -/
def hourAdapter (hours : List ℕ) : Adapter where
  text := noTexts
  iso _ := none
  resolveSymbol symbol _ := symbol
  infoFor _ _ := none
  fundingIntervalMs _ _ := none
  makeRequest query := .ok (.obj [("list", .arr ((page hour hours (numberAt "endTime" query.params)
    ((numberAt "limit" query.params).getD 50).toNat).reverse.map hourRow))])

theorem hourRow_read (hours : List ℕ) (n : ℕ) :
    (Bybit.openInterest (hourAdapter hours) .linear "BTCUSDT" "1h").row (hourRow n) =
      .ok (some (hourRecord n)) := by
  have time : ExchangeRouter.Bybit.Tickers.normalizeTimestamp noTexts (.num (hour n)) =
      .ok (hour n) := by
    have late : ¬ hour n < 100000000000 := by rw [hour]; omega
    simp [ExchangeRouter.Bybit.Tickers.normalizeTimestamp, Json.float, truncate_intCast, late]
  have amount : (hourRow n).item "openInterest" = .ok (.num (n + 1)) := rfl
  have sent : (hourRow n).item "timestamp" = .ok (.num (hour n)) := rfl
  simp only [Bybit.openInterest, oiRow, amount, sent, Json.float, bind, Except.bind, hourAdapter,
    time]
  rfl

/-- The numbers of a request are those it is made with. -/
theorem asked_numbers {l : ℕ} (few : l ≤ 200) (anchor : Option ℤ) (period : String) :
    numberAt "limit" (Bybit.asked .linear "BTCUSDT" 200 l anchor [("intervalTime", .str period)]) =
        some (l : ℤ) ∧
      numberAt "endTime"
        (Bybit.asked .linear "BTCUSDT" 200 l anchor [("intervalTime", .str period)]) = anchor := by
  have small : min l 200 = l := Nat.min_eq_left few
  constructor
  · simp only [numberAt, Bybit.asked, small]
    simp [List.lookup_cons]
  · cases anchor with
    | none => simp [numberAt, Bybit.asked, anchored, List.lookup_cons]
    | some t => simp [numberAt, Bybit.asked, anchored, List.lookup_cons]

theorem hours_answer (hours : List ℕ) :
    (Bybit.openInterest (hourAdapter hours) .linear "BTCUSDT" "1h").Answers
      (hourAdapter hours).makeRequest (hours.map hourRecord) := by
  intro l few anchor _
  obtain ⟨limit, endTime⟩ := asked_numbers few anchor (Bybit.mapMetricInterval "1h")
  have paged : page OpenInterest.timestamp (hours.map hourRecord) anchor l =
      (page hour hours anchor l).map hourRecord := page_map (fun _ => rfl) hours anchor l
  refine ⟨_, rfl, (page hour hours anchor l).reverse.map hourRow,
    (page hour hours anchor l).reverse.map hourRecord, ?_, ?_, ?_⟩
  · simp only [hourAdapter, Bybit.openInterest, limit, endTime]
    simp [Json.item, Json.elements, bind, Except.bind]
  · exact List.forall₂_map_left_iff.mpr (List.forall₂_map_right_iff.mpr
      (List.forall₂_same.mpr fun n _ => hourRow_read hours n))
  · exact ⟨paged ▸ (List.reverse_perm _).map _, nofun⟩

end Hours
end ExchangeRouter.History.Statistics
