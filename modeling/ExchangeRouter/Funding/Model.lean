import ExchangeRouter.History.Pagination
import ExchangeRouter.InfoCache.Instruments

/-!
# The funding history of Binance

`get_funding_rate` of `src/exchanges/binance/adapter.py`.  The upstream answers a
query with settlements; what the SymbolInfo cache gives for the symbol is a
parameter.
-/
namespace ExchangeRouter.Funding
open Lib OrderBooks History InfoCache

/-- A settlement as the upstream sends it.  Its time is in milliseconds, which
`normalize_timestamp` tells from seconds by its size. -/
structure Settlement where
  symbol : String
  fundingRate : ℚ
  fundingTime : ℤ
  inMilliseconds : 100000000000 ≤ fundingTime

/-- `params` of the upstream call. -/
structure Query where
  symbol : String
  limit : ℕ
  startTime : Option ℤ
  endTime : Option ℤ

structure FundingHistorical where
  kind : FundingKind
  perCycle : ℚ
  cycleMs : ℤ
  deriving DecidableEq

structure FundingRate where
  symbol : String
  marketType : MarketType
  quote : String
  rate : FundingHistorical
  timestamp : ℤ
  deriving DecidableEq

/-- What `get_funding_rate` asks of the adapter: `info.quote_asset` of
`_info_for`, `_funding_interval_ms_for` and `_make_request`. -/
structure Adapter where
  quoteAsset : MarketType → String → Option String
  fundingIntervalMs : MarketType → String → Option ℤ
  makeRequest : String → Query → Except PyError (List Settlement)

def perReq : ℕ := 1000

def defaultCadenceMs : ℤ := 8 * 3600000

def getRestUrl : MarketType → String
  | .spot => "https://api.binance.com"
  | .linear => "https://fapi.binance.com"
  | .inverse => "https://dapi.binance.com"

def endpoint (marketType : MarketType) : String :=
  if marketType = .linear then "/fapi/v1/fundingRate" else "/dapi/v1/fundingRate"

def normalizeSymbol (symbol : String) : String :=
  (String.ofList (symbol.toList.filter fun c => c ≠ '/' ∧ c ≠ '-')).toUpper

def isPerp (symbol : String) : Bool := "_PERP".toList.isSuffixOf symbol.toList

def getApiSymbol (symbol : String) (marketType : MarketType) : String :=
  let s := normalizeSymbol symbol
  if marketType = .inverse ∧ ¬ isPerp s then s ++ "_PERP" else s

def getModelSymbol (apiSymbol : String) : String :=
  let s := apiSymbol.toUpper
  if isPerp s then String.ofList (s.toList.rdrop 5) else s

/-- `normalize_timestamp` of a number. -/
def normalizeTimestamp (ts : ℤ) : ℤ := if ts < 100000000000 then ts * 1000 else ts

section Rows
variable (adapter : Adapter) (marketType : MarketType) (symbol : String)

def modelSymbol : String := getModelSymbol (getApiSymbol symbol marketType)

def cycleMs : ℤ :=
  (adapter.fundingIntervalMs marketType (modelSymbol marketType symbol)).getD defaultCadenceMs

/-- One element of the comprehension in `call`. -/
def row (settlement : Settlement) : FundingRate where
  symbol := getModelSymbol settlement.symbol
  marketType := marketType
  quote := (adapter.quoteAsset marketType (modelSymbol marketType symbol)).getD ""
  rate := ⟨.discrete, settlement.fundingRate, cycleMs adapter marketType symbol⟩
  timestamp := normalizeTimestamp settlement.fundingTime

def call (limit : ℕ) (startTime endTime : Option ℤ) : Except PyError (List FundingRate) :=
  (adapter.makeRequest (getRestUrl marketType ++ endpoint marketType)
    ⟨getApiSymbol symbol marketType, limit, startTime, endTime⟩).map fun data =>
      data.map (row adapter marketType symbol)

/-- The differences of successive timestamps. -/
def intervals : List ℤ → List ℤ
  | t :: u :: rest => (u - t) :: intervals (u :: rest)
  | _ => []

/-- `cadence_ms`: the upper median of the intervals, if there are any. -/
def cadenceMs (timestamps : List ℤ) : ℤ :=
  let sorted := (intervals timestamps).insertionSort (· ≤ ·)
  match sorted[sorted.length / 2]? with
  | some median => max median 60000
  | none => defaultCadenceMs

/-- The loop over older pages; its counter is `safety_pages`. -/
def olderPages (limit : ℕ) (cadence : ℤ) :
    ℕ → List FundingRate → Finset ℤ → Except PyError (List FundingRate)
  | 0, collected, _ => .ok collected
  | safetyPages + 1, collected, seen =>
    if collected.length < limit then
      match (collected.map FundingRate.timestamp).min? with
      | none => .error (.valueError "min() iterable argument is empty")
      | some oldestTs =>
        match call adapter marketType symbol perReq (some (max 0 (oldestTs - perReq * cadence)))
          (some (oldestTs - 1)) with
        | .error e => .error e
        | .ok batch =>
          let new := batch.filter fun r => r.timestamp ∉ seen
          if new.isEmpty then .ok collected
          else
            olderPages limit cadence safetyPages (collected ++ new)
              (seen ∪ (new.map FundingRate.timestamp).toFinset)
    else .ok collected

def getFundingRate (startTime : Option ℤ) (limit : ℕ) : Except PyError (List FundingRate) :=
  if marketType = .spot then
    .error (.other "NotImplementedError: binance does not support funding_rate for spot")
  else
    match startTime with
    | some startTime =>
      (call adapter marketType symbol (min limit perReq)
        (some (max 0 (startTime - min limit perReq * cycleMs adapter marketType symbol)))
        (some startTime)).map (lastSlice limit)
    | none =>
      match call adapter marketType symbol (min limit 200) none none with
      | .error e => .error e
      | .ok recent =>
        if limit ≤ recent.length then .ok (lastSlice limit recent)
        else
          let timestamps := recent.map FundingRate.timestamp
          (olderPages adapter marketType symbol limit (cadenceMs timestamps) 10 recent
            timestamps.toFinset).map fun collected =>
              lastSlice limit (sortByTime FundingRate.timestamp collected)

end Rows

/-- What an upstream with the settlements `H` answers. -/
def answer (H : List Settlement) (query : Query) : List Settlement :=
  match query.startTime, query.endTime with
  | some startTime, some endTime =>
    (H.filter fun s => startTime ≤ s.fundingTime ∧ s.fundingTime ≤ endTime).take query.limit
  | _, _ => H.rtake query.limit

/-- The upstream has the settlements `H`. -/
def Serves (H : List Settlement) (adapter : Adapter) : Prop :=
  ∀ url query, adapter.makeRequest url query = .ok (answer H query)

section Upstream
variable {adapter : Adapter} {marketType : MarketType} {symbol : String} {H : List Settlement}

@[simp] theorem row_timestamp (s : Settlement) :
    (row adapter marketType symbol s).timestamp = s.fundingTime :=
  if_neg (not_lt.mpr s.inMilliseconds)

theorem map_row_timestamp (l : List Settlement) :
    (l.map (row adapter marketType symbol)).map FundingRate.timestamp =
      l.map Settlement.fundingTime := by
  simp [Function.comp_def]

theorem call_eq (serves : Serves H adapter) (limit : ℕ) (startTime endTime : Option ℤ) :
    call adapter marketType symbol limit startTime endTime =
      .ok ((answer H ⟨getApiSymbol symbol marketType, limit, startTime, endTime⟩).map
        (row adapter marketType symbol)) := by
  rw [call, serves]
  rfl

/-- A window is answered with its oldest settlements; no settlement is before zero. -/
theorem answer_window (H : List Settlement) (symbol : String) (limit : ℕ) (startTime endTime : ℤ) :
    answer H ⟨symbol, limit, some (max 0 startTime), some endTime⟩ =
      (since Settlement.fundingTime startTime
        (upTo Settlement.fundingTime endTime H)).take limit := by
  simp only [answer, since, upTo, List.filter_filter]
  congr 1
  refine List.filter_congr fun s _ => ?_
  have positive : 0 ≤ s.fundingTime := le_trans (by norm_num) s.inMilliseconds
  simp [positive]

end Upstream
end ExchangeRouter.Funding
