import ExchangeRouter.Lib.Json
import ExchangeRouter.OrderBooks.Model

/-!
# Market data records

The records of `src/models.py` that the adapters build, with the checks of their
validators as fields, and the value builders of `src/exchanges/base.py`.
Numbers are rationals, times are in milliseconds.
-/
namespace ExchangeRouter.Records
open Lib OrderBooks

/-- `int(x)` of a number. -/
def truncate (x : ℚ) : ℤ := x.num.tdiv x.den

/-- `normalize_timestamp` of `BaseExchange`; `iso` is `datetime.fromisoformat`, in
milliseconds. -/
def normalizeTimestamp (text : TextNumbers) (iso : String → Option ℤ) (ts : Json) :
    Except PyError ℤ :=
  let ofNumber := fun x : ℚ => if x < 100000000000 then truncate (x * 1000) else truncate x
  match ts with
  | .num x => .ok (ofNumber x)
  | .bool b => .ok (ofNumber (if b then 1 else 0))
  | .str s =>
    match text.float s, iso s with
    | some x, _ => .ok (ofNumber x)
    | none, some ms => .ok ms
    | none, none => .error (.valueError ("Could not parse timestamp string: " ++ s))
  | .null => .error (.valueError "Unsupported timestamp format: <class 'NoneType'>")
  | .arr _ => .error (.valueError "Unsupported timestamp format: <class 'list'>")
  | .obj _ => .error (.valueError "Unsupported timestamp format: <class 'dict'>")

@[simp] theorem truncate_intCast (n : ℤ) : truncate n = n := by
  simp [truncate]

/-- A number of milliseconds is kept. -/
theorem normalizeTimestamp_ms (text : TextNumbers) (iso : String → Option ℤ) {ms : ℤ}
    (inMilliseconds : 100000000000 ≤ ms) : normalizeTimestamp text iso (.num ms) = .ok ms := by
  have large : ¬ (ms : ℚ) < 100000000000 := not_lt.mpr (by exact_mod_cast inMilliseconds)
  simp only [normalizeTimestamp, if_neg large, truncate_intCast]

/-- The exceptions with which a stream skips a frame as malformed. -/
def skipsFrame : PyError → Bool
  | .valueError _ | .typeError | .keyError _ | .attributeError => true
  | .other name => name = "IndexError"

inductive UsdMethod where
  | close
  | contractSize
  | candleClose
  deriving DecidableEq, Repr

/-- `_close_pair_consistency`: the close and its time come together. -/
structure UsdBasis where
  method : UsdMethod
  close : Option ℚ
  closeTs : Option ℤ
  paired : close.isSome = closeTs.isSome
  deriving DecidableEq

/-- `_contract_requires_size`, here and in the next two. -/
structure QtyValue where
  native : ℚ
  unit : QtyUnit
  contractSize : Option ℚ
  usd : ℚ
  sized : unit = .contract → contractSize.isSome
  deriving DecidableEq

structure VolumeValue where
  native : ℚ
  unit : QtyUnit
  contractSize : Option ℚ
  usd : ℚ
  usdBasis : UsdBasis
  sized : unit = .contract → contractSize.isSome
  deriving DecidableEq

structure OiValue where
  native : ℚ
  unit : QtyUnit
  contractSize : Option ℚ
  usd : Option ℚ
  usdBasis : UsdBasis
  sized : unit = .contract → contractSize.isSome
  deriving DecidableEq

theorem paired (close : ℚ) (closeTs : ℤ) : (some close).isSome = (some closeTs).isSome := rfl

theorem unpaired : (none : Option ℚ).isSome = (none : Option ℤ).isSome := rfl

/-- A quantity in the base asset has no contract size. -/
theorem unsized : QtyUnit.base = .contract → (none : Option ℚ).isSome := nofun

def buildQtyValue (native : ℚ) (qtyUnit : QtyUnit) (contractSize : Option ℚ) (price : ℚ) :
    Except PyError QtyValue :=
  match qtyUnit, contractSize with
  | .contract, none => .error (.valueError
      "build_qty_value: contract_size is required when qty_unit == 'contract'")
  | .contract, some size => .ok ⟨native, .contract, some size, native * size, fun _ => rfl⟩
  | .base, _ => .ok ⟨native, .base, none, native * price, nofun⟩

def buildVolumeValue (native : ℚ) (volumeUnit : QtyUnit) (contractSize : Option ℚ) (close : ℚ) :
    Except PyError VolumeValue :=
  match volumeUnit, contractSize with
  | .contract, none => .error (.valueError
      "build_volume_value: contract_size is required when volume_unit == 'contract'")
  | .contract, some size =>
    .ok ⟨native, .contract, some size, native * size, ⟨.contractSize, none, none, rfl⟩, fun _ => rfl⟩
  | .base, _ => .ok ⟨native, .base, none, native * close, ⟨.close, none, none, rfl⟩, nofun⟩

def buildOiValue (native : ℚ) (oiUnit : QtyUnit) (contractSize candleClose : Option ℚ)
    (candleCloseTs : Option ℤ) : Except PyError OiValue :=
  match oiUnit, contractSize with
  | .contract, none => .error (.valueError
      "build_oi_value: contract_size is required when oi_unit == 'contract'")
  | .contract, some size =>
    .ok ⟨native, .contract, some size, some (native * size), ⟨.contractSize, none, none, rfl⟩,
      fun _ => rfl⟩
  | .base, _ =>
    match candleClose, candleCloseTs with
    | some close, some closeTs =>
      .ok ⟨native, .base, none, some (native * close),
        ⟨.candleClose, some close, some closeTs, rfl⟩, nofun⟩
    | _, _ => .ok ⟨native, .base, none, none, ⟨.candleClose, none, none, rfl⟩, nofun⟩

structure Ticker where
  symbol : String
  marketType : MarketType
  quote : String
  price : ℚ
  open24h : ℚ
  high24h : ℚ
  low24h : ℚ
  volume24h : VolumeValue
  priceChangePercent : ℚ
  timestamp : ℤ
  deriving DecidableEq

structure BookTicker where
  symbol : String
  marketType : MarketType
  quote : String
  bidPrice : ℚ
  bidQty : QtyValue
  askPrice : ℚ
  askQty : QtyValue
  timestamp : ℤ
  deriving DecidableEq

structure Candle where
  symbol : String
  marketType : MarketType
  quote : String
  interval : String
  timestamp : ℤ
  «open» : ℚ
  high : ℚ
  low : ℚ
  close : ℚ
  volume : VolumeValue
  deriving DecidableEq

structure OpenInterest where
  symbol : String
  marketType : MarketType
  quote : String
  interval : String
  openInterest : OiValue
  timestamp : ℤ
  deriving DecidableEq

inductive Side where
  | buy
  | sell
  deriving DecidableEq, Repr

structure AggTrade where
  aggId : String
  symbol : String
  marketType : MarketType
  quote : String
  price : ℚ
  qty : QtyValue
  firstTradeId : String
  lastTradeId : String
  side : Side
  timestamp : ℤ
  deriving DecidableEq

structure Liquidation where
  symbol : String
  marketType : MarketType
  quote : String
  side : Side
  price : ℚ
  qty : QtyValue
  timestamp : ℤ
  deriving DecidableEq

end ExchangeRouter.Records
