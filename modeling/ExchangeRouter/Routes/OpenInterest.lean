import Mathlib.Algebra.Order.Ring.Int
import Mathlib.Data.List.Forall2
import Mathlib.Tactic.Ring
import ExchangeRouter.Lib.Dict
import ExchangeRouter.Records.Model

/-!
# The `open_interest` route

`src/main.py`: `_period_to_ms`, `validate_interval` and `get_open_interest`.
On linear markets each row is joined with the candle that closes at its time.
-/
namespace ExchangeRouter.Routes
open Lib OrderBooks Records

/-- `_PERIOD_MS`. -/
def periodMs : Char → Option ℤ
  | 'm' => some 60000
  | 'h' => some 3600000
  | 'd' => some 86400000
  | 'w' => some 604800000
  | _ => none

def periodToMs (text : TextNumbers) (period : String) : Option ℤ :=
  if period.length < 2 then none
  else do
    let scale ← periodMs (← period.toList.getLast?)
    let count ← text.int (String.ofList period.toList.dropLast)
    return count * scale

def marketTypeValue : MarketType → String
  | .spot => "spot"
  | .linear => "linear"
  | .inverse => "inverse"

/-- What the route asks of an adapter.  `intervals` are those that
`get_capabilities` lists for the market type's `open_interest`, if any. -/
structure Adapter where
  name : String
  intervals : MarketType → List String
  getOpenInterest : MarketType → String → String → Option ℤ → ℕ →
    Except PyError (List OpenInterest)
  getCandles : MarketType → String → String → Option ℤ → ℕ → Except PyError (List Candle)

def validateInterval (adapter : Adapter) (marketType : MarketType) (route label value : String) :
    Except PyError Unit :=
  if adapter.intervals marketType ≠ [] ∧ value ∉ adapter.intervals marketType then
    .error (.valueError (label ++ " '" ++ value ++ "' is not valid for " ++ adapter.name ++ " " ++
      marketTypeValue marketType ++ " " ++ route))
  else .ok ()

/-- `close_by_close_ts` of the candles that it is built from. -/
def closeByCloseTs (periodMs : ℤ) (candles : List Candle) : Dict ℤ ℚ :=
  .collect (fun c => c.timestamp + periodMs) Candle.close candles

/-- The body of the loop over the rows. -/
def joinRow (closes : Dict ℤ ℚ) (row : OpenInterest) : Except PyError OpenInterest :=
  match closes.get? row.timestamp with
  | none => .ok row
  | some matchingClose =>
    (buildOiValue row.openInterest.native row.openInterest.unit row.openInterest.contractSize
      (some matchingClose) (some row.timestamp)).map fun value => { row with openInterest := value }

/-- What follows the two calls. -/
def joinCandles (text : TextNumbers) (period : String) (rows : List OpenInterest)
    (candles : List Candle) : Except PyError (List OpenInterest) :=
  match candles with
  | first :: second :: _ =>
    let periodMs := (periodToMs text period).getD (second.timestamp - first.timestamp)
    rows.mapM (joinRow (closeByCloseTs periodMs candles.dropLast))
  | _ => .ok rows

def getOpenInterest (text : TextNumbers) (adapter : Adapter) (marketType : MarketType)
    (symbol period : String) (start : Option ℤ) (limit : ℕ) : Except PyError (List OpenInterest) := do
  validateInterval adapter marketType "open_interest" "Period" period
  let oiRows ← adapter.getOpenInterest marketType symbol period start limit
  if marketType ≠ .linear ∨ oiRows = [] then return oiRows
  match adapter.getCandles marketType symbol period start (limit + 1) with
  | .error _ => return oiRows
  | .ok candles => joinCandles text period oiRows candles

section Join
variable {periodMs : ℤ} {candles : List Candle} {row : OpenInterest}

/-- The candle that closes at a time is found, if its time is its own. -/
theorem closeByCloseTs_eq_some
    (strict : candles.Pairwise fun a b => a.timestamp < b.timestamp) {c : Candle}
    (member : c ∈ candles) :
    (closeByCloseTs periodMs candles).get? (c.timestamp + periodMs) = some c.close := by
  have distinct : (candles.map Candle.timestamp).Nodup :=
    List.pairwise_map.mpr (strict.imp fun earlier => earlier.ne)
  refine Dict.get?_collect_of_mem Candle.close (fun d inside d' inside' sameClose => ?_) member
  exact List.inj_on_of_nodup_map distinct inside inside' (by omega)

/-- Open interest in the base asset, priced with a close at the row's time. -/
def pricedAt (row : OpenInterest) (close : ℚ) : OiValue :=
  ⟨row.openInterest.native, .base, none, some (row.openInterest.native * close),
    ⟨.candleClose, some close, some row.timestamp, paired close row.timestamp⟩, unsized⟩

theorem joinRow_priced {closes : Dict ℤ ℚ} {close : ℚ} (base : row.openInterest.unit = .base)
    (found : closes.get? row.timestamp = some close) :
    joinRow closes row = .ok { row with openInterest := pricedAt row close } := by
  simp only [joinRow, found, base, buildOiValue, Except.map, pricedAt]

/-- What becomes of a row: it is priced with the one of these candles that closes
at its time, or left as it was. -/
structure Joined (periodMs : ℤ) (candles : List Candle) (row out : OpenInterest) : Prop where
  rest : { out with openInterest := row.openInterest } = row
  matched : ∀ c ∈ candles, c.timestamp + periodMs = row.timestamp →
    out.openInterest = pricedAt row c.close
  unmatched : (∀ c ∈ candles, c.timestamp + periodMs ≠ row.timestamp) → out = row

theorem joinRow_joined (strict : candles.Pairwise fun a b => a.timestamp < b.timestamp)
    (base : row.openInterest.unit = .base) :
    ∃ out, joinRow (closeByCloseTs periodMs candles) row = .ok out ∧
      Joined periodMs candles row out := by
  by_cases matched : ∃ c ∈ candles, c.timestamp + periodMs = row.timestamp
  · obtain ⟨c, member, closes⟩ := matched
    have found : ∀ d ∈ candles, d.timestamp + periodMs = row.timestamp →
        (closeByCloseTs periodMs candles).get? row.timestamp = some d.close :=
      fun d inside sameClose => sameClose ▸ closeByCloseTs_eq_some strict inside
    refine ⟨_, joinRow_priced base (found c member closes), rfl, ?_, ?_⟩
    · intro d inside sameClose
      have sameValue := (found c member closes).symm.trans (found d inside sameClose)
      rw [Option.some.inj sameValue]
    · intro unmatched
      exact absurd closes (unmatched c member)
  · have unmatched : ∀ c ∈ candles, c.timestamp + periodMs ≠ row.timestamp :=
      fun c member closes => matched ⟨c, member, closes⟩
    have unpriced : joinRow (closeByCloseTs periodMs candles) row = .ok row := by
      rw [joinRow, closeByCloseTs, Dict.get?_collect_eq_none _ unmatched]
    refine ⟨row, unpriced, rfl, ?_, fun _ => rfl⟩
    intro c member closes
    exact absurd closes (unmatched c member)

/-- Rows that can each be joined are joined one by one. -/
theorem mapM_joined {α β ε : Type*} {f : α → Except ε β} {R : α → β → Prop} {l : List α}
    (each : ∀ a ∈ l, ∃ b, f a = .ok b ∧ R a b) :
    ∃ out, l.mapM f = .ok out ∧ List.Forall₂ R l out := by
  induction l with
  | nil => exact ⟨[], rfl, .nil⟩
  | cons a rest ih =>
    obtain ⟨b, first, related⟩ := each a List.mem_cons_self
    obtain ⟨out, later, all⟩ := ih fun x member => each x (List.mem_cons_of_mem a member)
    refine ⟨b :: out, ?_, .cons related all⟩
    rw [List.mapM_cons, first, later]
    rfl

/-- The join reads the candles but for the last. -/
theorem joinCandles_eq {text : TextNumbers} {period : String} (rows : List OpenInterest)
    (candles : List Candle) (understood : periodToMs text period = some periodMs) :
    joinCandles text period rows candles =
      rows.mapM (joinRow (closeByCloseTs periodMs candles.dropLast)) := by
  have untouched : rows.mapM (joinRow (closeByCloseTs periodMs [])) = .ok rows := by
    have noClose : joinRow (closeByCloseTs periodMs []) = pure := rfl
    rw [noClose, List.mapM_pure, List.map_id']
    rfl
  rcases candles with _ | ⟨first, _ | ⟨second, rest⟩⟩
  · exact untouched.symm
  · exact untouched.symm
  · simp only [joinCandles, understood, Option.getD_some]

theorem joinCandles_joined {text : TextNumbers} {period : String} {rows : List OpenInterest}
    (understood : periodToMs text period = some periodMs)
    (base : ∀ row ∈ rows, row.openInterest.unit = .base)
    (strict : candles.Pairwise fun a b => a.timestamp < b.timestamp) :
    ∃ out, joinCandles text period rows candles = .ok out ∧
      List.Forall₂ (fun row joined => row ∈ rows ∧ Joined periodMs candles.dropLast row joined)
        rows out := by
  rw [joinCandles_eq rows candles understood]
  refine mapM_joined fun row member => ?_
  obtain ⟨out, ran, joined⟩ :=
    joinRow_joined (strict.sublist (List.dropLast_sublist _)) (base row member)
  exact ⟨out, ran, member, joined⟩

/-- A candle with a later one is not the last. -/
theorem mem_dropLast_of_later (strict : candles.Pairwise fun a b => a.timestamp < b.timestamp)
    {c d : Candle} (member : c ∈ candles) (later : d ∈ candles) (after : c.timestamp < d.timestamp) :
    c ∈ candles.dropLast := by
  rcases List.eq_nil_or_concat' candles with rfl | ⟨closed, last, rfl⟩
  · cases member
  · rw [List.dropLast_concat]
    rcases List.mem_append.mp member with closedOne | isLast
    · exact closedOne
    · obtain rfl := List.mem_singleton.mp isLast
      rcases List.mem_append.mp later with before | same
      · have earlier := (List.pairwise_append.mp strict).2.2 d before c isLast
        omega
      · rw [List.mem_singleton.mp same] at after
        exact absurd after (lt_irrefl _)

end Join

section Aligned
variable {periodMs : ℤ} {candles : List Candle}

/-- Times are the newest `n` multiples of the period that are not after an anchor. -/
def NewestMultiples (periodMs anchor : ℤ) (n : ℕ) (times : List ℤ) : Prop :=
  ∀ t, t ∈ times ↔ periodMs ∣ t ∧ t ≤ anchor ∧ anchor < t + n * periodMs

/-- Each of the newest closes is that of a candle which is not the last, when the
candles reach back one more. -/
theorem NewestMultiples.closes {anchor t : ℤ} {n : ℕ} {times : List ℤ}
    (strict : candles.Pairwise fun a b => a.timestamp < b.timestamp)
    (closeTimes : NewestMultiples periodMs anchor n times)
    (openTimes : NewestMultiples periodMs anchor (n + 1) (candles.map Candle.timestamp))
    (member : t ∈ times) : ∃ c ∈ candles.dropLast, c.timestamp + periodMs = t := by
  obtain ⟨multiple, notAfter, close⟩ := (closeTimes t).mp member
  have positive : 0 < periodMs := by
    by_contra backwards
    have shrinks := mul_nonpos_of_nonneg_of_nonpos (Int.natCast_nonneg n) (not_lt.mp backwards)
    omega
  have wider : ((n + 1 : ℕ) : ℤ) * periodMs = n * periodMs + periodMs := by push_cast; ring
  obtain ⟨c, inside, opens⟩ := List.mem_map.mp ((openTimes (t - periodMs)).mpr
    ⟨Int.dvd_sub multiple (Int.dvd_refl periodMs), by omega, by omega⟩)
  obtain ⟨d, next, nextOpens⟩ := List.mem_map.mp ((openTimes t).mpr
    ⟨multiple, notAfter, by omega⟩)
  exact ⟨c, mem_dropLast_of_later strict inside next (by omega), by omega⟩

end Aligned

section Route
variable {text : TextNumbers} {adapter : Adapter} {symbol period : String} {start : Option ℤ}
  {limit : ℕ} {rows : List OpenInterest} {candles : List Candle} {periodMs : ℤ}

theorem getOpenInterest_linear
    (allowed : validateInterval adapter .linear "open_interest" "Period" period = .ok ())
    (served : adapter.getOpenInterest .linear symbol period start limit = .ok rows)
    (priced : adapter.getCandles .linear symbol period start (limit + 1) = .ok candles)
    (understood : periodToMs text period = some periodMs) :
    getOpenInterest text adapter .linear symbol period start limit =
      joinCandles text period rows candles := by
  simp only [getOpenInterest, allowed, served, priced, bind, Except.bind, pure, Except.pure]
  cases rows with
  | nil => rw [joinCandles_eq [] candles understood]; rfl
  | cons row rest => simp

/-- Every row is joined with the candle that closes at its time, unless there is
none but the last; and none is left out when the rows are the newest closes and
the candles the newest opens up to one anchor. -/
theorem getOpenInterest_joins
    (allowed : validateInterval adapter .linear "open_interest" "Period" period = .ok ())
    (served : adapter.getOpenInterest .linear symbol period start limit = .ok rows)
    (priced : adapter.getCandles .linear symbol period start (limit + 1) = .ok candles)
    (understood : periodToMs text period = some periodMs)
    (base : ∀ row ∈ rows, row.openInterest.unit = .base)
    (strict : candles.Pairwise fun a b => a.timestamp < b.timestamp) :
    ∃ out, getOpenInterest text adapter .linear symbol period start limit = .ok out ∧
      List.Forall₂ (Joined periodMs candles.dropLast) rows out ∧
      (∀ last, joinCandles text period rows (candles.dropLast ++ [last]) = .ok out) ∧
      ∀ anchor, NewestMultiples periodMs anchor limit (rows.map OpenInterest.timestamp) →
        NewestMultiples periodMs anchor (limit + 1) (candles.map Candle.timestamp) →
        List.Forall₂ (fun row joined => ∃ c ∈ candles.dropLast,
          c.timestamp + periodMs = row.timestamp ∧
            joined.openInterest = pricedAt row c.close) rows out := by
  obtain ⟨out, ran, joined⟩ := joinCandles_joined understood base strict
  refine ⟨out, ?_, joined.imp fun row out' each => each.2, ?_, ?_⟩
  · rw [getOpenInterest_linear allowed served priced understood, ran]
  · intro last
    rw [joinCandles_eq rows _ understood, List.dropLast_concat, ← ran,
      joinCandles_eq rows candles understood]
  · intro anchor closeTimes openTimes
    refine joined.imp fun row out' each => ?_
    obtain ⟨c, inside, closes⟩ := closeTimes.closes strict openTimes
      (List.mem_map_of_mem each.1)
    exact ⟨c, inside, closes, each.2.matched c inside closes⟩

/-- Two hours of candles and the open interest at the end of the first. -/
def hourRow : OpenInterest where
  symbol := "BTCUSDT"
  marketType := .linear
  quote := "USDT"
  interval := "1h"
  openInterest := ⟨80000, .base, none, none, ⟨.candleClose, none, none, unpaired⟩, unsized⟩
  timestamp := 1712847600000

def hourCandle (timestamp : ℤ) (close : ℚ) : Candle where
  symbol := "BTCUSDT"
  marketType := .linear
  quote := "USDT"
  interval := "1h"
  timestamp := timestamp
  «open» := 70000
  high := 71500
  low := 69500
  close := close
  volume := ⟨10, .base, none, 10 * close, ⟨.close, none, none, unpaired⟩, unsized⟩

def hourCandles : List Candle := [hourCandle 1712844000000 70500, hourCandle 1712847600000 71000]

def hourAdapter : Adapter where
  name := "binance"
  intervals _ := ["1h"]
  getOpenInterest _ _ _ _ _ := .ok [hourRow]
  getCandles _ _ _ _ _ := .ok hourCandles

/-- `int` of the one count that is read. -/
def readsOne : TextNumbers := ⟨fun _ => none, fun s => if s = "1" then some 1 else none⟩

theorem getOpenInterest_joins_hour : ∃ out,
    getOpenInterest readsOne hourAdapter .linear "BTCUSDT" "1h" none 1 = .ok out ∧
      List.Forall₂ (fun row joined => ∃ c ∈ hourCandles.dropLast,
        c.timestamp + 3600000 = row.timestamp ∧
          joined.openInterest = pricedAt row c.close) [hourRow] out := by
  have understood : periodToMs readsOne "1h" = some 3600000 := rfl
  have served : hourAdapter.getOpenInterest .linear "BTCUSDT" "1h" none 1 = .ok [hourRow] := rfl
  have priced : hourAdapter.getCandles .linear "BTCUSDT" "1h" none 2 = .ok hourCandles := rfl
  obtain ⟨out, ran, -, -, aligned⟩ := getOpenInterest_joins rfl served priced understood
    (by simp [hourRow]) (by simp [hourCandles, hourCandle])
  refine ⟨out, ran, aligned 1712848000000 ?_ ?_⟩
  · intro t
    simp only [hourRow, List.map_cons, List.map_nil, List.mem_singleton]
    omega
  · intro t
    simp only [hourCandles, hourCandle, List.map_cons, List.map_nil, List.mem_cons,
      List.not_mem_nil, or_false]
    omega

end Route
end ExchangeRouter.Routes
