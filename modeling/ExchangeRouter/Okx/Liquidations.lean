import ExchangeRouter.Okx.Candles

/-!
# OKX liquidations

`get_liquidations` of `src/exchanges/okx/adapter.py`.  The upstream lists the
liquidations of an underlying, several of them in an entry; they carry no id.
-/
namespace ExchangeRouter.Okx.Liquidations
open Lib OrderBooks Records History InfoCache

/-- `params` of the upstream call; `instType` and `state` are constant. -/
structure Query where
  uly : String
  limit : ℕ
  after : Option ℤ

/-- What `get_liquidations` asks of the adapter: `_resolve_symbol`, `_info_for`,
`_multiplier_for` and `_make_request`. -/
structure Adapter where
  text : TextNumbers
  iso : String → Option ℤ
  resolveSymbol : String → MarketType → String
  infoFor : MarketType → String → Option (SymbolInfo ℚ)
  multiplierFor : MarketType → String → Option ℚ
  makeRequest : Query → Except FetchError Json

def perReq : ℕ := 100

def underlying (apiSymbol : String) : String := apiSymbol.replace "-SWAP" ""

def sideOf : String → Option Side
  | "buy" => some .buy
  | "sell" => some .sell
  | _ => none

/-- `value.lower()`. -/
def lower : Json → Except PyError String
  | .str s => .ok s.toLower
  | _ => .error .attributeError

section Parse
variable (adapter : Adapter) (marketType : MarketType) (apiSymbol : String)

def multiplier : Option ℚ :=
  adapter.multiplierFor marketType (okxModelSymbol apiSymbol)

/-- The native quantity, its unit and the contract size that goes with it.  A
linear market without a multiplier does not come this far. -/
def quantityOf (szRaw : ℚ) : Except PyError (ℚ × QtyUnit × Option ℚ) :=
  match marketType with
  | .linear =>
    match multiplier adapter .linear apiSymbol with
    | some size => .ok (szRaw * size, .base, none)
    | none => .error .typeError
  | .inverse => .ok (szRaw, .contract,
      (adapter.infoFor .inverse (okxModelSymbol apiSymbol)).bind SymbolInfo.contractSize)
  | .spot => .ok (szRaw, .base, none)

/-- The liquidation of a detail; `none` where `_parse` skips it. -/
def readDetail (d : Json) : Except PyError (Option Liquidation) := do
  let side ← lower (← d.getD "side" (.str ""))
  match sideOf side with
  | none => return none
  | some side =>
    let price ← (← d.item "bkPx").float adapter.text
    let szRaw ← (← d.item "sz").float adapter.text
    let (native, qtyUnit, contractSize) ← quantityOf adapter marketType apiSymbol szRaw
    return some {
      symbol := okxModelSymbol apiSymbol
      marketType := marketType
      quote := ((adapter.infoFor marketType (okxModelSymbol apiSymbol)).map
        SymbolInfo.quoteAsset).getD ""
      side := side
      price := price
      qty := ← buildQtyValue native qtyUnit contractSize price
      timestamp := ← normalizeTimestamp adapter.text adapter.iso (← d.item "ts") }

/-- The liquidations of an entry: those of other instruments are skipped. -/
def readEntry (entry : Json) : Except PyError (List Liquidation) := do
  let instId ← entry.get? "instId"
  if instId.any (fun id => id.isText apiSymbol) then
    let details ← (← entry.getD "details" (.arr [])).elements
    return (← details.mapM (readDetail adapter marketType apiSymbol)).reduceOption
  else return []

def parse (rows : Json) : Except PyError (List Liquidation) := do
  let entries ← rows.elements
  let read ← entries.mapM (readEntry adapter marketType apiSymbol)
  return sortByTime Liquidation.timestamp read.flatten

/-- `fetch_backward`: a failed request is an empty page, and an anchor of zero is
no anchor. -/
def fetchBackward (startTime endTs : Option ℤ) (l : ℕ) : Except FetchError (List Liquidation) :=
  match adapter.makeRequest ⟨underlying apiSymbol, min l perReq,
      ((endTs.or startTime).filter fun anchor => anchor ≠ 0).map (· + 1)⟩ with
  | .error e => if e.stopsPagination then .ok [] else .error e
  | .ok rows => (parse adapter marketType apiSymbol rows).mapError FetchError.ofPy

end Parse

def getLiquidations (adapter : Adapter) (marketType : MarketType) (symbol : String)
    (startTime : Option ℤ) (limit : ℕ) : Except FetchError (List Liquidation) :=
  let apiSymbol := adapter.resolveSymbol symbol marketType
  let fetch := fetchBackward adapter marketType apiSymbol startTime
  if marketType = .spot then .error (.other "NotImplementedError")
  else if marketType = .linear ∧ multiplier adapter marketType apiSymbol = none then
    .error (.valueError ("Contract multiplier unavailable for " ++
      okxModelSymbol apiSymbol ++ " on OKX linear"))
  else if startTime ≠ none ∨ perReq < limit then
    -- the text of a record determines it, so records stand for their JSON
    paginateBackwards Liquidation.timestamp id (fun _ => fetch) perReq limit
  else (fetch none limit).map (lastSlice limit)

end ExchangeRouter.Okx.Liquidations
