import ExchangeRouter.History.Statistics
import ExchangeRouter.History.Windowed
import ExchangeRouter.Kucoin.Candles

/-!
# Candles and funding rates in windows of time

`get_candles` and `get_funding_rate` of the Hyperliquid adapter, and
`get_funding_rate` of the KuCoin adapter.  The clock is read once.
-/
namespace ExchangeRouter.History.WindowRoutes
open Lib OrderBooks Records InfoCache
open ExchangeRouter.Funding (FundingRate FundingHistorical)

namespace Hyperliquid

/-- The bodies that `_make_request` is given. -/
inductive Body
  | candleSnapshot (coin interval : String) (startTime endTime : ℤ)
  | fundingHistory (coin : String) (startTime endTime : ℤ)

/-- What `_lookup` returns. -/
structure Listed where
  modelSym : String
  coin : String
  quote : String

/-- What the routes ask of the adapter.  `fundingIntervalMs` is
`_funding_interval_ms_for`. -/
structure Adapter where
  text : TextNumbers
  iso : String → Option ℤ
  nowMs : ℤ
  lookup : MarketType → String → Except FetchError Listed
  fundingIntervalMs : MarketType → String → Option ℕ
  makeRequest : Body → Except FetchError Json

def unitMs : Char → ℤ
  | 'm' => 60 * 1000
  | 'h' => 60 * 60 * 1000
  | 'd' => 24 * 60 * 60 * 1000
  | 'w' => 7 * 24 * 60 * 60 * 1000
  | 'M' => 30 * 24 * 60 * 60 * 1000
  | _ => 0

/-- What is no number, or has no known unit, is 0. -/
def intervalToMs (text : TextNumbers) (interval : String) : ℤ :=
  match interval.toList.getLast? with
  | none => 0
  | some unit => ((text.int (String.ofList interval.toList.dropLast)).getD 0) * unitMs unit

def fundingCycleMs : ℕ := 3600000

section Routes
variable (adapter : Adapter) (marketType : MarketType) (listed : Listed) (interval : String)

def candles : Windowed Body Candle where
  timestamp := Candle.timestamp
  perReq := 5000
  always := false
  span := fun l => (min l 5000 : ℕ) * intervalToMs adapter.text interval
  floored := true
  ends := fun anchor => anchor.elim adapter.nowMs fun anchor => min anchor adapter.nowMs
  query := .candleSnapshot listed.coin interval
  rows := fun data => if data.truthy then data.elements else .ok []
  row := fun k => do
    let close ← (← k.item "c").float adapter.text
    return some {
      symbol := listed.modelSym
      marketType := marketType
      quote := listed.quote
      interval := interval
      timestamp := ← normalizeTimestamp adapter.text adapter.iso (← k.item "t")
      «open» := ← (← k.item "o").float adapter.text
      high := ← (← k.item "h").float adapter.text
      low := ← (← k.item "l").float adapter.text
      close := close
      volume := ← buildVolumeValue (← (← k.item "v").float adapter.text) .base none close }

def getCandles (symbol : String) (startTime : Option ℤ) (limit : ℕ) :
    Except FetchError (List Candle) := do
  let listed ← adapter.lookup marketType symbol
  if intervalToMs adapter.text interval ≤ 0 then
    .error (.valueError ("Unsupported candle interval " ++ interval ++ " for Hyperliquid"))
  else (candles adapter marketType listed interval).get adapter.makeRequest startTime limit

def cycleMs : ℕ := (adapter.fundingIntervalMs marketType listed.modelSym).getD fundingCycleMs

def fundingRate : Windowed Body FundingRate where
  timestamp := FundingRate.timestamp
  perReq := 500
  always := true
  span := fun l => (min l 500 * cycleMs adapter marketType listed : ℕ)
  floored := false
  ends := fun anchor => anchor.getD adapter.nowMs
  query := .fundingHistory listed.coin
  rows := Json.elements
  row := fun r => do
    return some {
      symbol := listed.modelSym
      marketType := marketType
      quote := listed.quote
      rate := ⟨.discrete, ← (← r.item "fundingRate").float adapter.text,
        cycleMs adapter marketType listed⟩
      timestamp := ← normalizeTimestamp adapter.text adapter.iso (← r.item "time") }

def getFundingRate (symbol : String) (startTime : Option ℤ) (limit : ℕ) :
    Except FetchError (List FundingRate) :=
  if marketType ≠ .linear then .error (.other "NotImplementedError")
  else do
    let listed ← adapter.lookup marketType symbol
    (fundingRate adapter marketType listed).get adapter.makeRequest startTime limit

end Routes
end Hyperliquid

namespace Kucoin

/-- The parameters of `/api/v1/contract/funding-rates`; `to` itself is not in the
window. -/
structure FundingRates where
  symbol : String
  fromMs : ℤ
  toMs : ℤ

/-- What `get_funding_rate` asks of the adapter. -/
structure Adapter where
  text : TextNumbers
  nowMs : ℤ
  resolveSymbol : String → MarketType → String
  infoFor : MarketType → String → Option (SymbolInfo ℚ)
  fundingIntervalMs : MarketType → String → Option ℤ
  makeRequest : FundingRates → Except FetchError Json

def fundingWindowMs : ℤ := 8 * 60 * 60 * 1000

/-- `except (ValueError, TypeError): continue`. -/
def skipsMalformed {R : Type} (read : Except PyError (Option R)) : Except PyError (Option R) :=
  match read with
  | .error (.valueError _) => .ok none
  | .error .typeError => .ok none
  | read => read

variable (adapter : Adapter) (marketType : MarketType) (symbol : String)

/-- The window of a request ends just before `to`. -/
def fundingRate : Windowed FundingRates FundingRate :=
  let apiSymbol := adapter.resolveSymbol symbol marketType
  let modelSym := kucoinModelSymbol apiSymbol
  { timestamp := FundingRate.timestamp
    perReq := 100
    always := false
    span := fun _ => fundingWindowMs * 100 - 1
    floored := true
    ends := fun anchor =>
      (anchor.filter fun anchor => anchor ≠ 0).getD (adapter.nowMs - 1)
    query := fun first last => ⟨apiSymbol, first, last + 1⟩
    rows := fun data => (data.or (.arr [])).elements
    row := fun r => skipsMalformed do
      let sent := (← r.getD "timepoint" .null).or ((← r.getD "timePoint" .null).or (.num 0))
      let ts ← sent.int adapter.text
      if ts ≤ 0 then return none
      return some {
        symbol := modelSym
        marketType := marketType
        quote := ((adapter.infoFor marketType modelSym).map SymbolInfo.quoteAsset).getD ""
        rate := ⟨.discrete, ← ((← r.getD "fundingRate" .null).or (.num 0)).float adapter.text,
          (adapter.fundingIntervalMs marketType modelSym).getD (8 * 3600000)⟩
        timestamp := ts } }

def getFundingRate (startTime : Option ℤ) (limit : ℕ) : Except FetchError (List FundingRate) :=
  perpetualOnly marketType
    ((fundingRate adapter marketType symbol).get adapter.makeRequest startTime limit)

end Kucoin

/-- The candles and funding rates of an archive that is served in windows. -/
theorem windows_exact :
    (∀ (adapter : Hyperliquid.Adapter) marketType symbol interval listed,
      adapter.lookup marketType symbol = .ok listed →
      0 < Hyperliquid.intervalToMs adapter.text interval →
      (Hyperliquid.candles adapter marketType listed interval).Exact adapter.makeRequest
        (Hyperliquid.getCandles adapter marketType interval symbol)) ∧
    (∀ (adapter : Hyperliquid.Adapter) symbol listed,
      adapter.lookup .linear symbol = .ok listed →
      (Hyperliquid.fundingRate adapter .linear listed).Exact adapter.makeRequest
        (Hyperliquid.getFundingRate adapter .linear symbol)) ∧
    (∀ (adapter : Kucoin.Adapter) marketType symbol, marketType ≠ .spot →
      (Kucoin.fundingRate adapter marketType symbol).Exact adapter.makeRequest
        (Kucoin.getFundingRate adapter marketType symbol)) := by
  refine ⟨fun adapter marketType symbol interval listed found positive => ?candles,
    fun adapter symbol listed found => ?funding,
    fun adapter marketType symbol perpetual => ?kucoin⟩
  case candles =>
    have routed : Hyperliquid.getCandles adapter marketType interval symbol =
        (Hyperliquid.candles adapter marketType listed interval).get
          adapter.makeRequest := by
      funext startTime limit
      simp only [Hyperliquid.getCandles, found, bind, Except.bind, if_neg (not_le.mpr positive)]
    rw [routed]
    refine Windowed.get_exact ?_ ?_
    · exact mul_nonneg (Int.natCast_nonneg _) positive.le
    · intro startTime t _ early
      have kept : t ≤ adapter.nowMs := by
        cases startTime with
        | none => exact early
        | some start => exact early.trans (min_le_right _ _)
      exact min_eq_left kept
  case funding =>
    have routed : Hyperliquid.getFundingRate adapter .linear symbol =
        (Hyperliquid.fundingRate adapter .linear listed).get adapter.makeRequest := by
      funext startTime limit
      simp only [Hyperliquid.getFundingRate, found, bind, Except.bind, ne_eq, not_true_eq_false,
        if_false]
    rw [routed]
    exact Windowed.get_exact (Int.natCast_nonneg _) fun _ t _ _ => rfl
  case kucoin =>
    have routed : Kucoin.getFundingRate adapter marketType symbol =
        (Kucoin.fundingRate adapter marketType symbol).get adapter.makeRequest := by
      funext startTime limit
      exact if_neg perpetual
    rw [routed]
    refine Windowed.get_exact (by decide : (0 : ℤ) ≤ Kucoin.fundingWindowMs * 100 - 1) ?_
    intro _ t later _
    have kept : (some t).filter (fun anchor => anchor ≠ 0) = some t := by
      simp [Option.filter, later.ne']
    exact congrArg (fun anchor => Option.getD anchor (adapter.nowMs - 1)) kept

section Hours
open ExchangeRouter.History.WindowRoutes.Hyperliquid

def hour (n : ℕ) : ℤ := 1700000000000 + 3600000 * n

def bitcoin : Listed := ⟨"BTCUSDC", "BTC", "USDC"⟩

def hourRow (n : ℕ) : Json := .obj [("time", .num (hour n)), ("fundingRate", .num (n + 1))]

def hourRate (n : ℕ) : FundingRate :=
  ⟨"BTCUSDC", .linear, "USDC", ⟨.discrete, n + 1, 3600000⟩, hour n⟩

/-- An upstream with these hours. -/
def hourAdapter (hours : List ℕ) : Adapter where
  text := noTexts
  iso _ := none
  nowMs := hour 9
  lookup _ _ := .ok bitcoin
  fundingIntervalMs _ _ := none
  makeRequest
    | .fundingHistory _ startTime endTime =>
      .ok (.arr ((since hour startTime (upTo hour endTime hours)).map hourRow))
    | .candleSnapshot _ _ _ _ => .ok (.arr [])

theorem hourRow_read (hours : List ℕ) (n : ℕ) :
    (fundingRate (hourAdapter hours) .linear bitcoin).row (hourRow n) =
      .ok (some (hourRate n)) := by
  have late : 100000000000 ≤ hour n := by rw [hour]; omega
  have time : normalizeTimestamp noTexts (fun _ => none) (.num (hour n)) = .ok (hour n) :=
    normalizeTimestamp_ms _ _ late
  have rate : (hourRow n).item "fundingRate" = .ok (.num (n + 1)) := rfl
  have sent : (hourRow n).item "time" = .ok (.num (hour n)) := rfl
  simp only [fundingRate, rate, sent, Json.float, bind, Except.bind, hourAdapter, time]
  rfl

theorem hours_answer (hours : List ℕ) :
    (fundingRate (hourAdapter hours) .linear bitcoin).Answers (hourAdapter hours).makeRequest
      (hours.map hourRate) := by
  intro first last
  have served : since FundingRate.timestamp first
      (upTo FundingRate.timestamp last (hours.map hourRate)) =
        (since hour first (upTo hour last hours)).map hourRate := by
    rw [since, upTo, List.filter_map, List.filter_map]
    rfl
  refine ⟨_, _, (since hour first (upTo hour last hours)).map hourRate, rfl, rfl, ?_, ?_⟩
  · exact List.forall₂_map_left_iff.mpr (List.forall₂_map_right_iff.mpr
      (List.forall₂_same.mpr fun n _ => hourRow_read hours n))
  · exact .of_eq served.symm

/-- The newest two of three hours, four hours apart. -/
theorem windows_exact_hours :
    getFundingRate (hourAdapter [0, 1, 5]) .linear "BTC" (some (hour 5)) 2 =
      .ok [hourRate 1, hourRate 5] := by
  have strict : ([0, 1, 5].map hourRate).Pairwise fun a b => a.timestamp < b.timestamp := by
    decide +kernel
  have positive : ∀ r ∈ [0, 1, 5].map hourRate, 0 < r.timestamp := by decide +kernel
  have within : (fundingRate (hourAdapter [0, 1, 5]) .linear bitcoin).WithinCap
      ([0, 1, 5].map hourRate) (some (hour 5)) 2 := by
    refine .inr (.inl ?_)
    decide +kernel
  have unbroken : (fundingRate (hourAdapter [0, 1, 5]) .linear bitcoin).Unbroken (some (hour 5)) 2
      [hourRate 1, hourRate 5] := by
    have several : ¬ (fundingRate (hourAdapter [0, 1, 5]) .linear bitcoin).alone
        (some (hour 5)) 2 := by decide
    rw [Windowed.Unbroken, if_neg several]
    exact ⟨by decide +kernel, by decide +kernel⟩
  exact ((windows_exact.2.1 (hourAdapter [0, 1, 5]) "BTC" bitcoin rfl).newest _ strict positive
    (hours_answer _) (some (hour 5)) 2 (by decide) within).mpr unbroken

end Hours
end ExchangeRouter.History.WindowRoutes
