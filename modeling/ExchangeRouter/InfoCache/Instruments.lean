import ExchangeRouter.InfoCache.Model
import ExchangeRouter.Lib.Json

/-!
# Instrument rows

`_fetch_exchange_info` of `src/exchanges/{bybit,kucoin,okx}/adapter.py`.  A row may
be skipped, may raise, and may write the side caches before it raises, so it is
read as an effect: what it writes, then how it ends.  Python's floats are a type
with the operations that the rows use; `ValidationError` is a `ValueError`.
-/
namespace ExchangeRouter.InfoCache
open Lib OrderBooks

/-- `float` and `int` as the rows use them. -/
structure Numerals (F : Type) where
  floatOfText : String → Option F
  floatOfRat : ℚ → F
  intOfText : String → Option ℤ
  abs : F → F
  /-- `v > 0`. -/
  positive : F → Bool
  /-- `v <= 0`. -/
  notPositive : F → Bool
  /-- `round(v * multiplier, 12)`. -/
  scaled : F → F → F
  /-- `f"{v * multiplier:.10f}"`. -/
  fixed10 : F → F → String
  /-- `str(value)`. -/
  str : Json → String

/-- The texts that `int` reads. -/
def Numerals.texts {F : Type} (py : Numerals F) : TextNumbers := ⟨fun _ => none, py.intOfText⟩

/-- `self._contract_multiplier_cache` and `self._funding_interval_cache` are
keyed by what the row gives as its symbol. -/
inductive SymbolKey
  | text (symbol : String)
  | other (text : String)
  deriving DecidableEq, Repr

structure Side (F : Type) where
  multipliers : Dict MarketType (Dict SymbolKey F)
  intervals : Dict MarketType (Dict SymbolKey ℤ)

def Side.empty {F : Type} : Side F := ⟨.empty, .empty⟩

inductive FundingKind
  | discrete
  | continuous
  deriving DecidableEq, Repr

structure SymbolInfo (F : Type) where
  symbol : String
  nativeSymbol : String
  baseAsset : String
  quoteAsset : String
  pricePrecision : ℕ
  quantityPrecision : ℕ
  minQty : Option F
  maxQty : Option F
  minNotional : Option F
  qtyUnit : QtyUnit
  contractSize : Option F
  funding : Option FundingKind

/-- What a row does: its writes, and then the record it adds, nothing, or an error. -/
structure RowEffect (F : Type) where
  multiplier : Option (SymbolKey × F)
  interval : Option (SymbolKey × ℤ)
  outcome : Except PyError (Option (SymbolInfo F))

section Reading
variable {F : Type} (py : Numerals F)

/-- `float(value)`. -/
def floatOf : Json → Except PyError F
  | .num q => .ok (py.floatOfRat q)
  | .bool b => .ok (py.floatOfRat (if b then 1 else 0))
  | .str s =>
    match py.floatOfText s with
    | some v => .ok v
    | none => .error (.valueError "could not convert string to float")
  | _ => .error .typeError

/-- `value is not None`, for the result of `.get`. -/
def present : Option Json → Option Json
  | some .null => none
  | found => found

/-- `try: ... except (TypeError, ValueError): None`. -/
def orNone {α : Type} : Except PyError α → Option α
  | .ok a => some a
  | .error _ => none

/-- `float(raw) if raw is not None else None`. -/
def optionalFloat (raw : Option Json) : Except PyError (Option F) :=
  match present raw with
  | none => .ok none
  | some value => (floatOf py value).map some

/-- A text field of `SymbolInfo`. -/
def textField : Json → Except PyError String
  | .str s => .ok s
  | _ => .error (.valueError "Input should be a valid string")

/-- The characters behind the first point, without zeros at the end. -/
def decimals (text : String) : ℕ :=
  let fraction := ((text.toList.dropWhile (· ≠ '.')).drop 1).takeWhile (· ≠ '.')
  (fraction.reverse.dropWhile (· = '0')).length

/-- `_precision` of Bybit and OKX. -/
def precision (value : Json) : Except PyError ℕ :=
  if !value.truthy then .ok 0
  else
    match value with
    | .str s => .ok (decimals s)
    | .arr items => if items.any (·.isText ".") then .error .attributeError else .ok 0
    | .obj fields => if (fields.lookup ".").isSome then .error .attributeError else .ok 0
    | _ => .error .typeError

/-- `_precision` of KuCoin. -/
def precisionOfStr (value : Json) : ℕ :=
  if value.truthy then decimals (py.str value) else 0

/-- The key of a subscript assignment. -/
def symbolKey : Json → Except PyError SymbolKey
  | .str s => .ok (.text s)
  | .arr _ => .error .typeError
  | .obj _ => .error .typeError
  | value => .ok (.other (py.str value))

end Reading

section Rows
variable {F : Type} (py : Numerals F) (marketType : MarketType)

/-- A row that ends before its writes. -/
def RowEffect.early (outcome : Except PyError (Option (SymbolInfo F))) : RowEffect F :=
  ⟨none, none, outcome⟩

/-- The reading of a row up to its writes, then the writes and the record. -/
def RowEffect.ofRead {α : Type} (read : Except PyError (Option α)) (write : α → RowEffect F) :
    RowEffect F :=
  match read with
  | .error e => .early (.error e)
  | .ok none => .early (.ok none)
  | .ok (some a) => write a

/-- `v if v > 0 else None` of a float that may be missing. -/
def positiveFloat (raw : Option Json) : Except PyError (Option F) :=
  (optionalFloat py raw).map fun v => v.filter py.positive

/-- A float that may be missing, dropped when `v <= 0`. -/
def unlessNotPositive (raw : Option Json) : Except PyError (Option F) :=
  (optionalFloat py raw).map fun v => v.filter fun v => !py.notPositive v

/-- `s.get(key, {}).get(inner, fallback)`. -/
def nested (s : Json) (key inner fallback : String) : Except PyError Json := do
  (← s.getD key (.obj [])).getD inner (.str fallback)

def funding : Option FundingKind :=
  if marketType = .spot then none else some .discrete

def qtyUnit : QtyUnit := if marketType = .inverse then .contract else .base

/-- The locals of the Bybit loop at its writes. -/
structure BybitRow (F : Type) where
  minQty : Option F
  maxQty : Option F
  minNotional : Option F
  write : Option (SymbolKey × ℤ)

def bybitRead (s : Json) : Except PyError (Option (BybitRow F)) := do
  if !(← s.item "status").isText "Trading" then return none
  let contractType ← s.getD "contractType" .null
  if marketType = .linear ∧ !contractType.isText "LinearPerpetual" then return none
  if marketType = .inverse ∧ !contractType.isText "InversePerpetual" then return none
  let filter ← s.getD "lotSizeFilter" .null
  let lot := if filter.truthy then filter else .obj []
  let rawMinQty ← lot.get? "minOrderQty"
  let rawMaxQty ← lot.get? "maxOrderQty"
  let rawMinNotional ← lot.get? "minNotionalValue"
  let minQty ← positiveFloat py rawMinQty
  let maxQty ← positiveFloat py rawMaxQty
  let minNotional ← positiveFloat py rawMinNotional
  let raw ← s.get? "fundingInterval"
  let interval : Option ℤ :=
    if marketType = .spot then none
    else (present raw).bind fun raw => (orNone (raw.int py.texts)).map (· * 60000)
  match interval with
  | none => return some ⟨minQty, maxQty, minNotional, none⟩
  | some ms => return some ⟨minQty, maxQty, minNotional, some (← symbolKey py (← s.item "symbol"), ms)⟩

def bybitInfo (s : Json) (row : BybitRow F) : Except PyError (SymbolInfo F) := do
  let symbol ← s.item "symbol"
  let base ← s.item "baseCoin"
  let quote ← s.item "quoteCoin"
  let pricePrecision ← precision (← nested s "priceFilter" "tickSize" "0.01")
  let quantityPrecision ← precision (← nested s "lotSizeFilter" "qtyStep" "0.001")
  return {
    symbol := ← textField symbol
    nativeSymbol := ← textField symbol
    baseAsset := ← textField base
    quoteAsset := ← textField quote
    pricePrecision
    quantityPrecision
    minQty := row.minQty
    maxQty := row.maxQty
    minNotional := row.minNotional
    qtyUnit := qtyUnit marketType
    contractSize := if marketType = .inverse then some (py.floatOfRat 1) else none
    funding := funding marketType }

def bybitRow (s : Json) : RowEffect F :=
  .ofRead (bybitRead py marketType s) fun row =>
    ⟨none, row.write, (bybitInfo py marketType s row).map some⟩

/-- `symbol.upper().replace("/", "").replace("-", "")`. -/
def bareSymbol (symbol : String) : List Char :=
  symbol.toUpper.toList.filter fun c => c ≠ '/' ∧ c ≠ '-'

/-- `KucoinAdapter.normalize_symbol`, which is its `get_model_symbol`. -/
def kucoinModelSymbol (symbol : String) : String :=
  let s := bareSymbol symbol
  if "USDTM".toList.isSuffixOf s || "USDM".toList.isSuffixOf s then String.ofList s.dropLast
  else String.ofList s

/-- `text.replace("-SWAP", "")`. -/
def dropSwap : List Char → List Char
  | [] => []
  | '-' :: 'S' :: 'W' :: 'A' :: 'P' :: rest => dropSwap rest
  | c :: rest => c :: dropSwap rest

/-- `OkxAdapter.get_model_symbol`. -/
def okxModelSymbol (symbol : String) : String :=
  String.ofList ((dropSwap symbol.toUpper.toList).filter fun c => c ≠ '-')

/-- A method of `str` on a value that may be none. -/
def onText (f : String → String) : Json → Except PyError String
  | .str s => .ok (f s)
  | _ => .error .attributeError

/-- `a or b` on the results of `.get`. -/
def orElseFalsy (first second : Option Json) : Option Json :=
  if first.any Json.truthy then first else second

/-- `not value` on the result of `.get`. -/
def isFalsy (value : Option Json) : Bool := !value.any Json.truthy

def kucoinSpotInfo (s : Json) : Except PyError (Option (SymbolInfo F)) := do
  if isFalsy (← s.get? "enableTrading") then return none
  let apiSym ← s.item "symbol"
  let base ← s.get? "baseCurrency"
  let quote ← s.get? "quoteCurrency"
  if isFalsy base || isFalsy quote then return none
  let rawMinNotional := orElseFalsy (← s.get? "minFunds") (← s.get? "quoteMinSize")
  let minQty ← unlessNotPositive py (← s.get? "baseMinSize")
  let maxQty ← unlessNotPositive py (← s.get? "baseMaxSize")
  let minNotional ← unlessNotPositive py rawMinNotional
  return some {
    symbol := ← onText kucoinModelSymbol apiSym
    nativeSymbol := ← textField apiSym
    baseAsset := ← textField (base.getD .null)
    quoteAsset := ← textField (quote.getD .null)
    pricePrecision := precisionOfStr py (← s.getD "priceIncrement" (.str "0"))
    quantityPrecision := precisionOfStr py (← s.getD "baseIncrement" (.str "0"))
    minQty
    maxQty
    minNotional
    qtyUnit := .base
    contractSize := none
    funding := none }

/-- Quantities in contracts, in units of the base on linear markets. -/
def inBaseUnits (multiplier : Option F) (qty : Option F) : Option F :=
  if marketType = .linear then
    match multiplier with
    | none => none
    | some multiplier => qty.map fun qty => py.scaled qty multiplier
  else qty

/-- The locals of the KuCoin loop over contracts at its writes. -/
structure KucoinRow (F : Type) where
  apiSym : Json
  modelSym : String
  base : Option Json
  quote : Option Json
  multiplier : Option F
  interval : Option ℤ
  minQty : Option F
  maxQty : Option F
  quantityPrecision : ℕ

def kucoinRead (s : Json) : Except PyError (Option (KucoinRow F)) := do
  if !((← s.getD "status" .null).isText "Open") then return none
  let isInv := (← s.getD "isInverse" .null).truthy
  if marketType = .linear ∧ isInv then return none
  if marketType = .inverse ∧ !isInv then return none
  let apiSym ← s.item "symbol"
  let multRaw ← s.get? "multiplier"
  let multiplier := (present multRaw).bind fun raw => (orNone (floatOf py raw)).map py.abs
  let granularity ← s.get? "fundingRateGranularity"
  let interval := (present granularity).bind fun raw => orNone (raw.int py.texts)
  let base ← s.get? "baseCurrency"
  let quote ← s.get? "quoteCurrency"
  if isFalsy base || isFalsy quote then return none
  let rawLot ← s.get? "lotSize"
  let rawMax ← s.get? "maxOrderQty"
  let minQty ← unlessNotPositive py rawLot
  let maxQty ← unlessNotPositive py rawMax
  let quantityPrecision : ℕ ←
    match multiplier, present rawLot with
    | some multiplier, some lot =>
      if marketType = .linear then
        pure (decimals (py.fixed10 (← floatOf py lot) multiplier))
      else pure (decimals (py.str lot))
    | _, _ => pure (decimals (py.str (rawLot.getD (.str "0"))))
  let modelSym ← onText kucoinModelSymbol apiSym
  return some {
    apiSym
    modelSym
    base
    quote
    multiplier
    interval
    minQty := inBaseUnits py marketType multiplier minQty
    maxQty := inBaseUnits py marketType multiplier maxQty
    quantityPrecision }

def kucoinInfo (s : Json) (row : KucoinRow F) : Except PyError (SymbolInfo F) := do
  return {
    symbol := row.modelSym
    nativeSymbol := ← textField row.apiSym
    baseAsset := ← textField (row.base.getD .null)
    quoteAsset := ← textField (row.quote.getD .null)
    pricePrecision := decimals (py.str (← s.getD "tickSize" (.str "0")))
    quantityPrecision := row.quantityPrecision
    minQty := row.minQty
    maxQty := row.maxQty
    minNotional := none
    qtyUnit := qtyUnit marketType
    contractSize :=
      if marketType = .inverse then some (row.multiplier.getD (py.floatOfRat 1)) else none
    funding := some .discrete }

def kucoinRow (s : Json) : RowEffect F :=
  if marketType = .spot then .early (kucoinSpotInfo py s)
  else
    .ofRead (kucoinRead py marketType s) fun row =>
      ⟨row.multiplier.map fun v => (.text row.modelSym, v),
        row.interval.map fun v => (.text row.modelSym, v),
        (kucoinInfo py marketType s row).map some⟩

/-- The base and the quote of an OKX row. -/
def okxAssets (s : Json) : Except PyError (Option Json × Option Json) := do
  if marketType = .spot then
    return ((← s.get? "baseCcy").filter Json.truthy, (← s.get? "quoteCcy").filter Json.truthy)
  match ← s.getD "uly" (.str "") with
  | .str uly =>
    match uly.toList.splitOn '-' with
    | base :: quote :: _ => return (some (.str (String.ofList base)), some (.str (String.ofList quote)))
    | _ => return (none, none)
  | _ => throw .attributeError

/-- The locals of the OKX loop at its write. -/
structure OkxRow (F : Type) where
  apiSym : Json
  modelSym : String
  base : Option Json
  quote : Option Json
  multiplier : Option F
  minQty : Option F
  maxQty : Option F
  quantityPrecision : ℕ

def okxRead (s : Json) : Except PyError (Option (OkxRow F)) := do
  if !((← s.getD "state" .null).isText "live") then return none
  let ctType ← s.getD "ctType" .null
  if marketType = .linear ∧ !ctType.isText "linear" then return none
  if marketType = .inverse ∧ !ctType.isText "inverse" then return none
  let apiSym ← s.item "instId"
  let (base, quote) ← okxAssets marketType s
  if isFalsy base || isFalsy quote then return none
  let ctValRaw ← s.get? "ctVal"
  let multiplier : Option F :=
    if marketType = .spot then none
    else (present ctValRaw).bind fun raw => orNone (floatOf py raw)
  let rawMinQty ← s.get? "minSz"
  let rawMaxQty := orElseFalsy (← s.get? "maxLmtSz") (← s.get? "maxMktSz")
  let minQty ← unlessNotPositive py rawMinQty
  let maxQty ← unlessNotPositive py rawMaxQty
  let lotRaw ← s.getD "lotSz" (.str "0")
  let quantityPrecision : ℕ ←
    match multiplier, orNone (floatOf py lotRaw) with
    | some multiplier, some lot =>
      if marketType = .linear then pure (decimals (py.fixed10 lot multiplier)) else precision lotRaw
    | _, _ => precision lotRaw
  let modelSym ← onText okxModelSymbol apiSym
  return some {
    apiSym
    modelSym
    base
    quote
    multiplier
    minQty := inBaseUnits py marketType multiplier minQty
    maxQty := inBaseUnits py marketType multiplier maxQty
    quantityPrecision }

def okxInfo (s : Json) (row : OkxRow F) : Except PyError (SymbolInfo F) := do
  return {
    symbol := row.modelSym
    nativeSymbol := ← textField row.apiSym
    baseAsset := ← textField (row.base.getD .null)
    quoteAsset := ← textField (row.quote.getD .null)
    pricePrecision := ← precision (← s.getD "tickSz" (.str "0"))
    quantityPrecision := row.quantityPrecision
    minQty := row.minQty
    maxQty := row.maxQty
    minNotional := none
    qtyUnit := qtyUnit marketType
    contractSize := if marketType = .inverse then row.multiplier else none
    funding := funding marketType }

def okxRow (s : Json) : RowEffect F :=
  .ofRead (okxRead py marketType s) fun row =>
    ⟨row.multiplier.map fun v => (.text row.modelSym, v), none, (okxInfo marketType s row).map some⟩

end Rows

section Fetch
variable {F : Type}

/-- `cache.setdefault(market_type, {})`, then the assignment. -/
def writeEntry {V : Type} (cache : Dict MarketType (Dict SymbolKey V)) (marketType : MarketType)
    (entry : Option (SymbolKey × V)) : Dict MarketType (Dict SymbolKey V) :=
  match entry with
  | none => cache
  | some (key, v) => cache.set marketType ((cache.getD marketType .empty).set key v)

def Side.write (side : Side F) (marketType : MarketType) (effect : RowEffect F) : Side F :=
  ⟨writeEntry side.multipliers marketType effect.multiplier,
    writeEntry side.intervals marketType effect.interval⟩

/-- The loop over the rows. -/
def readRows (marketType : MarketType) (row : Json → RowEffect F) :
    List Json → Side F → Side F × Except PyError (List (SymbolInfo F))
  | [], side => (side, .ok [])
  | s :: rest, side =>
    let effect := row s
    let side := side.write marketType effect
    match effect.outcome with
    | .error e => (side, .error e)
    | .ok info =>
      let (side, infos) := readRows marketType row rest side
      (side, infos.map fun infos => info.toList ++ infos)

/-- The replies to the successive requests of a fetch. -/
abbrev Replies := ℕ → Except PyError Json

/-- A fetch that first collects its rows and then reads them. -/
def fetchRows (rows : Replies → Except PyError (List Json)) (row : MarketType → Json → RowEffect F) :
    Source (SymbolInfo F) (Side F) Replies PyError where
  fetchExchangeInfo marketType replies side :=
    match rows replies with
    | .error e => (side, .error e)
    | .ok list => readRows marketType (row marketType) list side
  symbol := SymbolInfo.symbol

/-- The pages of Bybit's instrument list, with the number of pages left. -/
def bybitInstruments (replies : Replies) : ℕ → ℕ → Except PyError (List Json)
  | 0, _ => .ok []
  | left + 1, page => do
    let data ← replies page
    let rows ← (← data.item "list").elements
    let cursor ← data.getD "nextPageCursor" .null
    if cursor.truthy then return rows ++ (← bybitInstruments replies left (page + 1))
    else return rows

/-- `data or []`. -/
def kucoinInstruments (replies : Replies) : Except PyError (List Json) := do
  let data ← replies 0
  if data.truthy then data.elements else return []

def okxInstruments (replies : Replies) : Except PyError (List Json) := do
  (← replies 0).elements

/-- The adapters with a side cache of this kind. -/
inductive Venue
  | bybit
  | kucoin
  | okx
  deriving DecidableEq, Repr

/-- `_fetch_exchange_info` of an adapter. -/
def Venue.source (venue : Venue) (py : Numerals F) :
    Source (SymbolInfo F) (Side F) Replies PyError :=
  match venue with
  | .bybit => fetchRows (fun replies => bybitInstruments replies 50 0) (bybitRow py)
  | .kucoin => fetchRows kucoinInstruments (kucoinRow py)
  | .okx => fetchRows okxInstruments (okxRow py)

end Fetch
end ExchangeRouter.InfoCache
