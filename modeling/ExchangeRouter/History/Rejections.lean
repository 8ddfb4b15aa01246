import ExchangeRouter.Binance.Candles
import ExchangeRouter.Bybit.Candles
import ExchangeRouter.Kucoin.Candles
import ExchangeRouter.Okx.Candles

/-!
# Rejected requests on both paths

The routes that make one request or paginate, against an upstream that rejects
every request.
-/
namespace ExchangeRouter.History
open Lib OrderBooks Records

/-- A route with a single-request path and a paginated one, on its adapter. -/
inductive Route
  | binanceCandles (adapter : Binance.Candles.Adapter) (marketType : MarketType)
      (symbol interval : String)
  | binanceAggTrades (adapter : Binance.Candles.Adapter) (marketType : MarketType) (symbol : String)
  | bybitCandles (adapter : Bybit.Candles.Adapter) (marketType : MarketType)
      (symbol interval : String)
  | okxCandles (adapter : Okx.Candles.Adapter) (marketType : MarketType) (symbol interval : String)
  | kucoinCandles (adapter : Kucoin.Candles.Adapter) (marketType : MarketType)
      (symbol interval : String)

namespace Route

def Row : Route → Type
  | binanceCandles _ _ _ _ => Candle
  | binanceAggTrades _ _ _ => AggTrade
  | bybitCandles _ _ _ _ => Candle
  | okxCandles _ _ _ _ => Candle
  | kucoinCandles _ _ _ _ => Candle

def Request : Route → Type
  | binanceCandles _ _ _ _ => Binance.Candles.Query
  | binanceAggTrades _ _ _ => Binance.Candles.Query
  | bybitCandles _ _ _ _ => Bybit.Candles.Query
  | okxCandles _ _ _ _ => String × Okx.Candles.Query
  | kucoinCandles _ _ _ _ => Kucoin.Candles.Request

def makeRequest : (route : Route) → route.Request → Except FetchError Json
  | binanceCandles adapter _ _ _ => adapter.makeRequest
  | binanceAggTrades adapter _ _ => adapter.makeRequest
  | bybitCandles adapter _ _ _ => adapter.makeRequest
  | okxCandles adapter _ _ _ => fun request => adapter.makeRequest request.1 request.2
  | kucoinCandles adapter _ _ _ => adapter.makeRequest

def call : (route : Route) → Option ℤ → ℕ → Except FetchError (List route.Row)
  | binanceCandles adapter marketType symbol interval =>
    Binance.Candles.getCandles adapter marketType symbol interval
  | binanceAggTrades adapter marketType symbol =>
    Binance.Candles.getAggTrades adapter marketType symbol
  | bybitCandles adapter marketType symbol interval =>
    Bybit.Candles.getCandles adapter marketType symbol interval
  | okxCandles adapter marketType symbol interval =>
    Okx.Candles.getCandles adapter marketType symbol interval
  | kucoinCandles adapter marketType symbol interval =>
    Kucoin.Candles.getCandles adapter marketType symbol interval

/-- Every request is rejected, each with a text of its own. -/
def Rejects (route : Route) (text : route.Request → String) : Prop :=
  ∀ request, route.makeRequest request = .error (.valueError (text request))

/-- The call comes to its first request: the symbol is resolved, the interval
supported and the multiplier known. -/
def Requests : Route → Prop
  | binanceCandles _ _ _ _ => True
  | binanceAggTrades _ _ _ => True
  | bybitCandles adapter _ _ interval =>
    Bybit.Candles.mapCandleInterval adapter.text interval ≠ none
  | okxCandles _ _ _ _ => True
  | kucoinCandles adapter marketType symbol interval =>
    ∃ apiSymbol, adapter.resolveSymbol symbol marketType = some apiSymbol ∧
      if marketType = .spot then Kucoin.Candles.mapSpotInterval interval ≠ none
      else Kucoin.Candles.mapFuturesGranularity interval ≠ none ∧
        (marketType = .inverse ∨
          adapter.multiplierFor marketType (InfoCache.kucoinModelSymbol apiSymbol) ≠ none)

/-- The first request is made outside the pagination. -/
def FirstUnguarded : Route → Option ℤ → ℕ → Prop
  | binanceCandles _ marketType _ _, startTime, limit =>
    startTime = none ∧ limit ≤ Binance.Candles.maxPerReq marketType
  | binanceAggTrades _ _ _, startTime, limit => startTime.getD 0 = 0 ∧ limit ≤ 1000
  | bybitCandles _ _ _ _, startTime, limit => startTime = none ∧ limit ≤ Bybit.Candles.maxPerReq
  | okxCandles _ _ _ _, _, _ => True
  | kucoinCandles _ marketType _ _, startTime, limit =>
    startTime = none ∧ limit ≤ if marketType = .spot then Kucoin.Candles.spotPerReq
      else Kucoin.Candles.futuresPerReq

section Fetch
variable {Q A B : Type} {makeRequest : Q → Except FetchError A} {text : Q → String}

theorem bind_rejected (rejects : ∀ request, makeRequest request = .error (.valueError (text request)))
    (request : Q) (f : A → Except FetchError B) :
    makeRequest request >>= f = .error (.valueError (text request)) := by
  rw [rejects]
  rfl

theorem map_rejected (rejects : ∀ request, makeRequest request = .error (.valueError (text request)))
    (request : Q) (f : A → B) :
    (makeRequest request).map f = .error (.valueError (text request)) := by
  rw [rejects]
  rfl

/-- A page that is rejected, whatever its end and size. -/
def Rejected (text : Q → String) (fetch : Option ℤ → ℕ → Except FetchError (List B)) : Prop :=
  ∀ endTs l, ∃ request, fetch endTs l = .error (.valueError (text request))

theorem binanceCandles_rejected {adapter : Binance.Candles.Adapter}
    {text : Binance.Candles.Query → String}
    (rejects : ∀ request, adapter.makeRequest request = .error (.valueError (text request)))
    (marketType : MarketType) (symbol interval : String) (startTime : Option ℤ) :
    Rejected text (Binance.Candles.fetchCandles adapter marketType symbol interval startTime) :=
  fun _ _ => ⟨_, bind_rejected rejects _ _⟩

theorem binanceAggTrades_rejected {adapter : Binance.Candles.Adapter}
    {text : Binance.Candles.Query → String}
    (rejects : ∀ request, adapter.makeRequest request = .error (.valueError (text request)))
    (marketType : MarketType) (symbol : String) (startTime : Option ℤ) :
    Rejected text (Binance.Candles.fetchAggTrades adapter marketType symbol startTime) :=
  fun _ _ => ⟨_, bind_rejected rejects _ _⟩

theorem bybitCandles_rejected {adapter : Bybit.Candles.Adapter}
    {text : Bybit.Candles.Query → String}
    (rejects : ∀ request, adapter.makeRequest request = .error (.valueError (text request)))
    (marketType : MarketType) (symbol interval bybitInterval : String) (startTime : Option ℤ) :
    Rejected text
      (Bybit.Candles.fetchCandles adapter marketType symbol interval bybitInterval startTime) :=
  fun _ _ => ⟨_, bind_rejected rejects _ _⟩

theorem okxRecent_rejected {adapter : Okx.Candles.Adapter} {text : String × Okx.Candles.Query → String}
    (rejects : ∀ request : String × Okx.Candles.Query,
      adapter.makeRequest request.1 request.2 = .error (.valueError (text request)))
    (marketType : MarketType) (apiSymbol interval : String) (startTime : Option ℤ) :
    Rejected text (Okx.Candles.fetchRecent adapter marketType apiSymbol interval startTime) :=
  fun _ _ => ⟨(_, _), congrArg (Except.map _) (rejects (_, _))⟩

theorem kucoinSpot_rejected {adapter : Kucoin.Candles.Adapter}
    {text : Kucoin.Candles.Request → String}
    (rejects : ∀ request, adapter.makeRequest request = .error (.valueError (text request)))
    (apiSymbol interval ktype : String) (startTime : Option ℤ) :
    Rejected text (Kucoin.Candles.fetchSpot adapter apiSymbol interval ktype startTime) :=
  fun _ _ => ⟨_, map_rejected rejects _ _⟩

theorem kucoinFutures_rejected {adapter : Kucoin.Candles.Adapter}
    {text : Kucoin.Candles.Request → String}
    (rejects : ∀ request, adapter.makeRequest request = .error (.valueError (text request)))
    (marketType : MarketType) (apiSymbol interval : String) (granularity : ℕ)
    (startTime : Option ℤ) :
    Rejected text
      (Kucoin.Candles.fetchFutures adapter marketType apiSymbol interval granularity startTime) :=
  fun _ _ => ⟨_, map_rejected rejects _ _⟩

variable {fetch : Option ℤ → ℕ → Except FetchError (List B)}

theorem Rejected.paginated [DecidableEq B] (rejected : Rejected text fetch) (timestamp : B → ℤ)
    (n total : ℕ) : paginateBackwards timestamp id (fun _ => fetch) n total = .ok [] := by
  obtain ⟨request, failed⟩ := rejected none n
  exact paginateBackwards_rejected failed rfl total

theorem Rejected.single (rejected : Rejected text fetch) (l : ℕ) (f : List B → List B) :
    ∃ request, (fetch none l).map f = .error (.valueError (text request)) := by
  obtain ⟨request, failed⟩ := rejected none l
  exact ⟨request, by rw [failed]; rfl⟩

end Fetch

variable {route : Route} {text : route.Request → String} {startTime : Option ℤ} {limit : ℕ}

/-- A rejected request is raised, or it ends the pagination before any record. -/
theorem call_rejected (rejects : route.Rejects text) (requests : route.Requests)
    (startTime : Option ℤ) (limit : ℕ) :
    (route.FirstUnguarded startTime limit →
        ∃ request, route.call startTime limit = .error (.valueError (text request))) ∧
      (¬ route.FirstUnguarded startTime limit → route.call startTime limit = .ok []) := by
  cases route with
  | binanceCandles adapter marketType symbol interval =>
    have rejected := binanceCandles_rejected rejects marketType symbol interval startTime
    simp only [FirstUnguarded, call, Binance.Candles.getCandles]
    constructor
    · rintro ⟨rfl, small⟩
      rw [if_neg (by simpa using small)]
      exact rejected none limit
    · intro several
      rw [if_pos (by rwa [← not_le, ← not_and_or])]
      exact rejected.paginated _ _ _
  | binanceAggTrades adapter marketType symbol =>
    have rejected := binanceAggTrades_rejected rejects marketType symbol startTime
    simp only [FirstUnguarded, call, Binance.Candles.getAggTrades]
    constructor
    · rintro ⟨noStart, small⟩
      rw [if_neg (by omega)]
      exact rejected none limit
    · intro several
      rw [if_pos (by omega)]
      exact rejected.paginated _ _ _
  | bybitCandles adapter marketType symbol interval =>
    obtain ⟨bybitInterval, known⟩ := Option.ne_none_iff_exists'.mp requests
    have rejected := bybitCandles_rejected rejects marketType symbol interval bybitInterval startTime
    simp only [FirstUnguarded, call, Bybit.Candles.getCandles, known]
    constructor
    · rintro ⟨rfl, small⟩
      rw [if_neg (by simpa using small)]
      exact rejected none limit
    · intro several
      rw [if_pos (by rwa [← not_le, ← not_and_or])]
      exact rejected.paginated _ _ _
  | okxCandles adapter marketType symbol interval =>
    refine ⟨fun _ => ?_, fun guarded => absurd trivial guarded⟩
    have rejected := okxRecent_rejected rejects marketType
      (adapter.resolveSymbol symbol marketType) interval startTime
    simp only [call, Okx.Candles.getCandles]
    by_cases single : startTime = none ∧ limit ≤ Okx.Candles.perReq
    · rw [if_pos single]
      exact rejected.single limit _
    · obtain ⟨request, failed⟩ := rejected none (min limit Okx.Candles.perReq)
      rw [if_neg single, failed]
      exact ⟨request, rfl⟩
  | kucoinCandles adapter marketType symbol interval =>
    obtain ⟨apiSymbol, resolved, supported⟩ := requests
    simp only [FirstUnguarded, call, Kucoin.Candles.getCandles, resolved]
    by_cases spot : marketType = .spot
    · rw [if_pos spot] at supported ⊢
      rw [if_pos spot]
      obtain ⟨ktype, known⟩ := Option.ne_none_iff_exists'.mp supported
      have rejected := kucoinSpot_rejected rejects apiSymbol interval ktype startTime
      simp only [Kucoin.Candles.getCandlesSpot, known]
      constructor
      · intro single
        rw [if_pos single]
        exact rejected.single limit _
      · intro several
        rw [if_neg several]
        exact rejected.paginated _ _ _
    · rw [if_neg spot] at supported ⊢
      rw [if_neg spot]
      obtain ⟨some', multiplied⟩ := supported
      obtain ⟨granularity, known⟩ := Option.ne_none_iff_exists'.mp some'
      have rejected := kucoinFutures_rejected rejects marketType apiSymbol interval granularity
        startTime
      have multiplier : ¬ (marketType ≠ .inverse ∧
          adapter.multiplierFor marketType (InfoCache.kucoinModelSymbol apiSymbol) = none) := by
        rintro ⟨linear, missing⟩
        rcases multiplied with inverse | present
        · exact linear inverse
        · exact present missing
      simp only [Kucoin.Candles.getCandlesFutures, known]
      rw [if_neg multiplier]
      constructor
      · intro single
        rw [if_pos single]
        exact rejected.single limit _
      · intro several
        rw [if_neg several]
        exact rejected.paginated _ _ _

/-- A call that comes to no request raises a `ValueError` of its own. -/
theorem call_unsupported (unsupported : ¬ route.Requests) :
    ∃ message, route.call startTime limit = .error (.valueError message) := by
  cases route with
  | binanceCandles adapter marketType symbol interval => exact absurd trivial unsupported
  | binanceAggTrades adapter marketType symbol => exact absurd trivial unsupported
  | bybitCandles adapter marketType symbol interval =>
    have missing : Bybit.Candles.mapCandleInterval adapter.text interval = none :=
      not_not.mp unsupported
    simp only [call, Bybit.Candles.getCandles, missing]
    exact ⟨_, rfl⟩
  | okxCandles adapter marketType symbol interval => exact absurd trivial unsupported
  | kucoinCandles adapter marketType symbol interval =>
    simp only [call, Kucoin.Candles.getCandles]
    cases resolved : adapter.resolveSymbol symbol marketType with
    | none => exact ⟨_, rfl⟩
    | some apiSymbol =>
      have unsupported : ¬ if marketType = .spot then Kucoin.Candles.mapSpotInterval interval ≠ none
          else Kucoin.Candles.mapFuturesGranularity interval ≠ none ∧
            (marketType = .inverse ∨ adapter.multiplierFor marketType
              (InfoCache.kucoinModelSymbol apiSymbol) ≠ none) :=
        fun supported => unsupported ⟨apiSymbol, resolved, supported⟩
      by_cases spot : marketType = .spot
      · rw [if_pos spot, not_not] at unsupported
        simp only [if_pos spot, Kucoin.Candles.getCandlesSpot, unsupported]
        exact ⟨_, rfl⟩
      · rw [if_neg spot] at unsupported
        simp only [if_neg spot, Kucoin.Candles.getCandlesFutures]
        cases known : Kucoin.Candles.mapFuturesGranularity interval with
        | none => exact ⟨_, rfl⟩
        | some granularity =>
          have missing : marketType ≠ .inverse ∧
              adapter.multiplierFor marketType (InfoCache.kucoinModelSymbol apiSymbol) = none := by
            simpa [known] using unsupported
          simp only [if_pos missing]
          exact ⟨_, rfl⟩

/-- The `ValueError` of a rejection is raised exactly when the first request is
made outside the pagination. -/
theorem raises_rejection_iff (rejects : route.Rejects text) :
    ((∃ message, route.call startTime limit = .error (.valueError message)) ∧
        (route.Requests →
          ∃ request, route.call startTime limit = .error (.valueError (text request)))) ↔
      (route.Requests → route.FirstUnguarded startTime limit) := by
  by_cases requests : route.Requests
  · obtain ⟨raised, empty⟩ := call_rejected rejects requests startTime limit
    constructor
    · rintro ⟨-, reported⟩ _
      obtain ⟨request, failed⟩ := reported requests
      by_contra guarded
      rw [empty guarded] at failed
      cases failed
    · intro first
      obtain ⟨request, failed⟩ := raised (first requests)
      exact ⟨⟨_, failed⟩, fun _ => ⟨request, failed⟩⟩
  · exact ⟨fun _ own => absurd own requests,
      fun _ => ⟨call_unsupported requests, fun own => absurd own requests⟩⟩

/-- An upstream that knows no symbol. -/
def unknownSymbol : Binance.Candles.Adapter where
  text := noTexts
  iso _ := none
  str _ := ""
  infoFor _ _ := none
  makeRequest _ := .error (.valueError "Binance API Error (400): Invalid symbol.")

theorem unknownSymbol_rejects : (binanceCandles unknownSymbol .spot "NONE" "1h").Rejects
    fun _ => "Binance API Error (400): Invalid symbol." := fun _ => rfl

/-- The newest hundred candles are one request. -/
theorem raises_rejection_iff_newest :
    ∃ message, (binanceCandles unknownSymbol .spot "NONE" "1h").call none 100 =
      .error (.valueError message) :=
  ((raises_rejection_iff unknownSymbol_rejects).mpr fun _ => ⟨rfl, by decide⟩).1

/-- With a start, the rejection is an empty list. -/
theorem rejection_as_empty : ¬ ∀ (route : Route) (text : route.Request → String)
    (startTime : Option ℤ) (limit : ℕ), route.Rejects text → route.Requests →
    ∃ request, route.call startTime limit = .error (.valueError (text request)) := by
  intro claimed
  obtain ⟨request, failed⟩ := claimed _ _ (some 1700000000000) 100 unknownSymbol_rejects trivial
  have guarded : ¬ (binanceCandles unknownSymbol .spot "NONE" "1h").FirstUnguarded
      (some 1700000000000) 100 := fun first => by simpa using first.1
  rw [(call_rejected unknownSymbol_rejects trivial _ _).2 guarded] at failed
  cases failed

end Route
end ExchangeRouter.History
