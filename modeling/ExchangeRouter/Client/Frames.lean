import ExchangeRouter.Client.FundingPaid
import ExchangeRouter.Client.Model
import ExchangeRouter.Funding.Model

/-!
# The funding frame of the SDK

`_indexed`, `_const`, `_coerce`, `_finalize`, `_empty` and `_funding_rate` of
`client/exchange_router_client/frames.py`, `per_hour_view` of `funding.py` and
`mark_price_row` of `rows.py`.  pandas is a parameter: a table is its column
names and its rows, and a missing cell is `null`.
-/
namespace ExchangeRouter.Client.Frames
open Lib FundingPaid Funding

/-- A row of a table, with its place in the index. -/
structure TableRow where
  index : ℤ
  cell : String → Json

structure Table where
  columns : List String
  rows : List TableRow

/-- What the builder calls of pandas. -/
structure Pandas where
  /-- `pd.json_normalize(rows, sep="_")`, numbered from 0. -/
  jsonNormalize : List Json → Table
  /-- `pd.to_datetime` of one cell, with `unit="ms", utc=True`, in nanoseconds. -/
  toDatetime : Json → Except PyError ℤ
  sortIndex : List TableRow → List TableRow
  /-- `df.rename(columns=names)`. -/
  rename : List (String × String) → Table → Table
  /-- `df.reindex(columns=columns)`. -/
  reindex : List String → Table → Table
  /-- `pd.to_numeric` of one cell, with `errors="coerce"`. -/
  toNumeric : Json → Json
  /-- `series.nunique(dropna=True)`. -/
  nunique : List Json → ℕ

/-- `ctx`. -/
structure Context where
  exchange : String
  marketType : String
  symbol : String
  requested : Option ℕ
  paginated : Bool

/-- `f"{ctx['exchange']}/{ctx['market_type']}/{ctx['symbol']}"`. -/
def Context.path (ctx : Context) : String :=
  ctx.exchange ++ "/" ++ ctx.marketType ++ "/" ++ ctx.symbol

/-- A data frame: a table with its `attrs`. -/
structure DataFrame where
  table : Table
  attrs : Dict String Json

def schemaVersion : ℕ := 3

def textColumns : List String :=
  ["side", "id", "agg_id", "first_trade_id", "last_trade_id", "exchange", "market_type", "symbol",
    "quote", "unit"]

/-- `COLUMNS["funding_rate"]`. -/
def fundingColumns : List String := ["rate", "funding_per_hour", "cycle_ms"]

def texts (messages : List String) : Json := .arr (messages.map .str)

def baseAttrs (ctx : Context) : Dict String Json :=
  ((((Dict.empty.set "exchange" (.str ctx.exchange)).set "market_type" (.str ctx.marketType)).set
    "symbol" (.str ctx.symbol)).set "schema_version" (.num schemaVersion)).set "warnings" (texts [])

/-- `df[name]`. -/
def Table.column (table : Table) (name : String) : Except PyError (List Json) :=
  if name ∈ table.columns then .ok (table.rows.map fun row => row.cell name)
  else .error (.keyError name)

/-- `df[name] = values`, in one row. -/
def TableRow.assign (row : TableRow) (name : String) (value : Json) : TableRow :=
  { row with cell := Function.update row.cell name value }

/-- A data frame as `funding_paid` reads it. -/
def DataFrame.view (df : DataFrame) : Frame where
  columns := df.table.columns
  rows := df.table.rows.map fun row =>
    (row.index, .obj (df.table.columns.map fun name => (name, row.cell name)))
  fundingKind := df.attrs.get? "funding_kind"

section Build
variable (pandas : Pandas)

/-- One row under its `datetime`. -/
def placed (row : TableRow) : Except PyError TableRow := do
  let ns ← pandas.toDatetime (row.cell "timestamp")
  return { row with index := ns }

def indexed (rows : List Json) : Except PyError Table := do
  let df := pandas.jsonNormalize rows
  let _ ← df.column "timestamp"
  let placedRows ← df.rows.mapM (placed pandas)
  return ⟨df.columns.filter fun name => name ≠ "datetime", pandas.sortIndex placedRows⟩

def isNull : Json → Bool
  | .null => true
  | _ => false

def const (df : Table) (column : String) : Json :=
  if column ∈ df.columns then
    (((df.rows.map fun row => row.cell column).filter fun cell => !isNull cell).head?).getD .null
  else .null

/-- An operand of the arithmetic on a column; `none` is `NaN`. -/
def operand : Json → Except PyError (Option ℚ)
  | .num q => .ok (some q)
  | .bool b => .ok (some (if b then 1 else 0))
  | .null => .ok none
  | _ => .error .typeError

/-- `rate.where(cycle_hours == 0, rate / cycle_hours)` in one row. -/
def perHourCell (rate cycleMs : Json) : Except PyError Json := do
  let cycleHours := (← operand cycleMs).map fun ms => ms / 3600000
  let perCycle ← operand rate
  match perCycle, cycleHours with
  | some perCycle, some hours => return if hours = 0 then rate else .num (perCycle / hours)
  | _, _ => return .null

/-- `df["funding_per_hour"] = …`. -/
def withPerHour (df : Table) : Except PyError Table := do
  let _ ← df.column "cycle_ms"
  let _ ← df.column "rate"
  let rows ← df.rows.mapM fun row => do
    return row.assign "funding_per_hour" (← perHourCell (row.cell "rate") (row.cell "cycle_ms"))
  return ⟨if "funding_per_hour" ∈ df.columns then df.columns else df.columns ++ ["funding_per_hour"],
    rows⟩

def shortResultWarning (df : Table) (ctx : Context) (route : String) : Option String :=
  match ctx.requested with
  | none => none
  | some requested =>
    if ctx.paginated ∧ 0 < df.rows.length ∧ df.rows.length < requested then
      some (route ++ " " ++ ctx.path ++ ": got " ++ toString df.rows.length ++ " of " ++
        toString requested ++ " requested; pass start= to fetch older history")
    else none

def coerce (df : Table) : Table :=
  { df with rows := df.rows.map fun row =>
      { row with cell := fun column =>
          if column ∈ df.columns ∧ column ∉ textColumns then pandas.toNumeric (row.cell column)
          else row.cell column } }

def finalize (df : Table) (attrs : Dict String Json) (columns : List String)
    (warnings : List String) : DataFrame :=
  ⟨coerce pandas (pandas.reindex columns df), attrs.set "warnings" (texts warnings)⟩

def cycleWarning (df : Table) (ctx : Context) : Option String :=
  if 1 < pandas.nunique (df.rows.map fun row => row.cell "cycle_ms") then
    some ("funding_rate " ++ ctx.path ++ ": funding cycle changed within the window; " ++
      "funding_per_hour is per-row correct")
  else none

/-- The columns of the wire that the frame has under another name. -/
def renamed : List (String × String) :=
  [("rate_per_cycle", "rate"), ("rate_cycle_ms", "cycle_ms")]

/-- `_funding_rate`. -/
def fundingFrame (rows : List Json) (ctx : Context) : Except PyError DataFrame := do
  let df ← withPerHour (pandas.rename renamed (← indexed pandas rows))
  let attrs := ((baseAttrs ctx).set "quote" (const df "quote")).set "funding_kind"
    (const df "rate_kind")
  let warnings := (cycleWarning pandas df ctx).toList ++
    (shortResultWarning df ctx "funding_rate").toList
  return finalize pandas df attrs fundingColumns warnings

def empty (ctx : Context) : DataFrame :=
  let message := "0 rows returned for " ++ ctx.path ++ " funding_rate"
  ⟨⟨fundingColumns, []⟩, (baseAttrs ctx).set "warnings" (texts [message])⟩

/-- `build("funding_rate", rows, ctx)`; its warnings are in the attributes. -/
def build (rows : List Json) (ctx : Context) : Except PyError DataFrame :=
  if rows.isEmpty then .ok (empty ctx) else fundingFrame pandas rows ctx

end Build

/-- What `per_hour_view` takes. -/
inductive FundingRow
  | series (row : Json)
  | mapping (row : Json)

/-- `per_cycle / (cycle_ms / 3_600_000)`. -/
def perHour (perCycle cycleMs : ℚ) : Except PyError ℚ :=
  if cycleMs / 3600000 = 0 then .error (.other "ZeroDivisionError")
  else .ok (perCycle / (cycleMs / 3600000))

def perHourView (text : TextNumbers) : FundingRow → Except PyError ℚ
  | .series (.obj fields) =>
    if (fields.lookup "funding_per_hour").isSome then do
      (← (Json.obj fields).item "funding_per_hour").float text
    else do
      let rate ← seriesFields text (.obj fields)
      perHour rate.perCycle rate.cycleMs
  | .mapping (.obj fields) =>
    if given fields "funding_per_hour" then do
      (← (Json.obj fields).item "funding_per_hour").float text
    else do
      let rate ← rateFields text (.obj fields)
      perHour rate.perCycle rate.cycleMs
  | .series _ | .mapping _ => .error unrecognized

/-- A factor of the quotient that `mark_price_row` forms. -/
def factor : Json → Except PyError ℚ
  | .num q => .ok q
  | .bool b => .ok (if b then 1 else 0)
  | _ => .error .typeError

/-- `per_cycle / (cycle_ms / 3_600_000)` of what the wire has, where `cycle_ms` is not 0. -/
def perHourQuotient (perCycle cycleMs : Json) : Except PyError Json := do
  let cycle ← factor cycleMs
  return .num ((← factor perCycle) / (cycle / 3600000))

def markPriceRow (raw : Json) : Except PyError Json := do
  let funding := orEmpty ((← raw.get? "funding").getD .null)
  let perCycle ← funding.getD "per_cycle" .null
  let cycleMs ← funding.getD "cycle_ms" .null
  let perHour ←
    if !isNull perCycle ∧ cycleMs.truthy then perHourQuotient perCycle cycleMs else pure .null
  return .obj [("symbol", ← raw.getD "symbol" .null),
    ("market_type", ← raw.getD "market_type" .null),
    ("quote", ← raw.getD "quote" .null),
    ("mark_price", ← raw.getD "mark_price" .null),
    ("index_price", ← raw.getD "index_price" .null),
    ("funding_kind", ← funding.getD "kind" .null),
    ("funding_per_cycle", perCycle),
    ("funding_cycle_ms", cycleMs),
    ("funding_per_hour", perHour),
    ("funding_valid_until_ts", ← funding.getD "valid_until_ts" .null),
    ("timestamp", ← raw.getD "timestamp" .null)]

/-- `model_dump` of the kind. -/
def kindText : InfoCache.FundingKind → String
  | .discrete => "discrete"
  | .continuous => "continuous"

/-- The fields of a `FundingRate` as the router sends it. -/
def wireFields (row : FundingRate) : List (String × Json) :=
  [("symbol", .str row.symbol), ("market_type", .str (value row.marketType)),
    ("quote", .str row.quote),
    ("rate", .obj [("kind", .str (kindText row.rate.kind)), ("per_cycle", .num row.rate.perCycle),
      ("cycle_ms", .num row.rate.cycleMs)]),
    ("timestamp", .num row.timestamp)]

def wireOf (row : FundingRate) : Json := .obj (wireFields row)

end ExchangeRouter.Client.Frames
