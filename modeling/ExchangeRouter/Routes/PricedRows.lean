import ExchangeRouter.History.Statistics
import ExchangeRouter.Lib.Newest
import ExchangeRouter.Routes.OpenInterest

/-!
# Open interest, from the exchange to the route

The `open_interest` route over the Binance and Bybit adapters: the rows and the
candles come in pages, and each row is priced with the candle that closes at its
time.
-/
namespace ExchangeRouter.Routes
open Lib OrderBooks Records History

/-! ## The candles, page by page -/

section Klines

variable (marketType : MarketType) (symbol interval : String)

end Klines

/-! ## The candle of each row -/

section Aligned
variable {periodMs : ℤ} {candles : List Candle} {rows : List OpenInterest} {row : OpenInterest}
  {limit : ℕ}

/-- At the time of each row one candle closes and the next one opens, candles do
not overlap, and from the first row on there is a row for each. -/
structure Aligned (periodMs : ℤ) (candles : List Candle) (rows : List OpenInterest) : Prop where
  positive : 0 < periodMs
  apart : candles.Pairwise fun c d => c.timestamp + periodMs ≤ d.timestamp
  opens : ∀ row ∈ rows, ∃ c ∈ candles, c.timestamp = row.timestamp
  closes : ∀ row ∈ rows, ∃ c ∈ candles, c.timestamp + periodMs = row.timestamp
  recorded : ∀ row ∈ rows, ∀ c ∈ candles, row.timestamp ≤ c.timestamp →
    ∃ r ∈ rows, r.timestamp = c.timestamp

theorem Aligned.strict (aligned : Aligned periodMs candles rows) :
    candles.Pairwise fun c d => c.timestamp < d.timestamp := by
  refine aligned.apart.imp fun {c d} room => ?_
  have positive := aligned.positive
  omega

theorem Aligned.room (aligned : Aligned periodMs candles rows) {c d : Candle} (member : c ∈ candles)
    (other : d ∈ candles) (later : c.timestamp < d.timestamp) :
    c.timestamp + periodMs ≤ d.timestamp := by
  have positive := aligned.positive
  obtain ⟨before, after, rfl⟩ := List.append_of_mem member
  obtain ⟨-, behind, ahead⟩ := List.pairwise_append.mp aligned.apart
  rcases List.mem_append.mp other with early | late
  · have backwards := ahead d early c List.mem_cons_self
    omega
  · rcases List.mem_cons.mp late with rfl | late
    · exact absurd later (lt_irrefl _)
    · exact (List.pairwise_cons.mp behind).1 d late

/-- From the candle on that closes at a row's time there is one candle more than rows. -/
theorem Aligned.length_since_le (aligned : Aligned periodMs candles rows) (member : row ∈ rows) :
    (since Candle.timestamp (row.timestamp - periodMs) candles).length ≤
      (since OpenInterest.timestamp row.timestamp rows).length + 1 := by
  have positive := aligned.positive
  obtain ⟨opened, own, opens⟩ := aligned.opens row member
  obtain ⟨closed, before, closes⟩ := aligned.closes row member
  have distinct : (candles.map Candle.timestamp).Nodup :=
    List.pairwise_map.mpr (aligned.strict.imp fun earlier => earlier.ne)
  have single : ((since Candle.timestamp (row.timestamp - periodMs) candles).map
      Candle.timestamp).Nodup := distinct.sublist ((List.filter_sublist).map _)
  have covered : (since Candle.timestamp (row.timestamp - periodMs) candles).map Candle.timestamp ⊆
      (row.timestamp - periodMs) ::
        (since OpenInterest.timestamp row.timestamp rows).map OpenInterest.timestamp := by
    intro t listed
    obtain ⟨c, kept, rfl⟩ := List.mem_map.mp listed
    obtain ⟨inside, late⟩ := List.mem_filter.mp kept
    have late : row.timestamp - periodMs ≤ c.timestamp := of_decide_eq_true late
    rcases late.eq_or_lt with same | later
    · exact same ▸ List.mem_cons_self
    · have room := aligned.room before inside (by omega)
      obtain ⟨r, recorded, sameTime⟩ := aligned.recorded row member c inside (by omega)
      refine List.mem_cons_of_mem _ (List.mem_map.mpr ⟨r, ?_, sameTime⟩)
      exact List.mem_filter.mpr ⟨recorded, decide_eq_true (by omega)⟩
  have fewer := (single.subperm covered).length_le
  rw [List.length_map, List.length_cons, List.length_map] at fewer
  exact fewer

/-- The newest rows have their candles, and a later one, among one candle more. -/
theorem Aligned.newest (aligned : Aligned periodMs candles rows)
    (strict : rows.Pairwise fun r s => r.timestamp < s.timestamp)
    (member : row ∈ rows.rtake limit) :
    ∃ c ∈ (candles.rtake (limit + 1)).dropLast, c.timestamp + periodMs = row.timestamp := by
  have positive := aligned.positive
  have inside := (rtake_suffix _ _).mem member
  obtain ⟨opened, own, opens⟩ := aligned.opens row inside
  obtain ⟨closed, before, closes⟩ := aligned.closes row inside
  have later := aligned.length_since_le inside
  have few := length_since_le_of_mem_rtake strict member
  have ascending : Ascending Candle.timestamp candles :=
    aligned.strict.imp fun earlier => earlier.le
  have taken := ascending.mem_rtake (n := limit + 1) (by omega) before
    (show row.timestamp - periodMs ≤ closed.timestamp by omega)
  have next := ascending.mem_rtake (n := limit + 1) (by omega) own
    (show row.timestamp - periodMs ≤ opened.timestamp by omega)
  have suffix := aligned.strict.sublist (rtake_suffix candles (limit + 1)).sublist
  exact ⟨closed, mem_dropLast_of_later suffix taken next (by omega), closes⟩

end Aligned
/-! ## The records up to the start -/

section Upstream
variable {Q R : Type} (route : Paged Q R) (makeRequest : Q → Except FetchError Json)

/-- An upstream that answers from these records. -/
structure Upstream (H : List R) : Prop where
  strict : H.Pairwise fun a b => route.timestamp a < route.timestamp b
  positive : ∀ r ∈ H, 0 < route.timestamp r
  answers : route.Answers makeRequest H

/-- A hundred pages bring the records asked for. -/
def Reaches (H : List R) (start : Option ℤ) (limit : ℕ) : Prop :=
  min limit (route.known H start).length ≤ route.perReq + 99 * (route.perReq - 1)

instance reaches_decidable (H : List R) (start : Option ℤ) (limit : ℕ) :
    Decidable (Reaches route H start limit) :=
  inferInstanceAs (Decidable (min limit _ ≤ _))

variable {route makeRequest} {H : List R} {start : Option ℤ} {r : R}

theorem mem_known : r ∈ route.known H start ↔
    r ∈ H ∧ ∀ bound ∈ start, bound ≠ 0 → route.timestamp r ≤ bound := by
  constructor
  · intro member
    exact ⟨(Paged.known_sublist route H start).mem member, Paged.le_of_mem_known member⟩
  · rintro ⟨member, early⟩
    rw [Paged.known]
    cases given : start.filter fun start => decide (start ≠ 0) with
    | none => exact member
    | some bound =>
      obtain ⟨own, nonzero⟩ := Option.filter_eq_some_iff.mp given
      have before := early bound own (of_decide_eq_true nonzero)
      exact List.mem_filter.mpr ⟨member, decide_eq_true before⟩

/-- A record is the last of the page up to its time. -/
theorem Upstream.mem_page (upstream : Upstream route makeRequest H) (roomy : 1 < route.perReq)
    (member : r ∈ H) : r ∈ page route.timestamp H (some (route.timestamp r)) route.perReq := by
  obtain ⟨older, newer, rfl⟩ := List.append_of_mem member
  obtain ⟨-, behind, ahead⟩ := List.pairwise_append.mp upstream.strict
  have early : upTo route.timestamp (route.timestamp r) older = older :=
    upTo_eq_self fun x inside => (ahead x inside r List.mem_cons_self).le
  have late : upTo route.timestamp (route.timestamp r) newer = [] :=
    upTo_eq_nil (List.pairwise_cons.mp behind).1
  have last : upTo route.timestamp (route.timestamp r) (older ++ r :: newer) = older ++ [r] := by
    rw [List.append_cons, upTo_append, upTo_append, early, late, List.append_nil]
    simp [upTo]
  obtain ⟨less, size⟩ := Nat.exists_eq_add_one.mpr (Nat.zero_lt_of_lt roomy)
  rw [page, Option.elim_some, last, size, List.rtake_concat_succ]
  exact List.mem_append_right _ (List.mem_singleton.mpr rfl)

/-- Each record is read from a row. -/
theorem Upstream.exists_row (upstream : Upstream route makeRequest H) (roomy : 1 < route.perReq)
    (member : r ∈ H) : ∃ row, route.row row = .ok (some r) := by
  obtain ⟨data, -, rows, read, -, each, perm, -⟩ :=
    upstream.answers route.perReq le_rfl (some (route.timestamp r))
      fun t own => Option.some.inj own ▸ upstream.positive r member
  have listed := perm.mem_iff.mpr (upstream.mem_page roomy member)
  obtain ⟨i, inside, rfl⟩ := List.getElem_of_mem listed
  exact ⟨rows.get ⟨i, each.length_eq ▸ inside⟩, each.get _ inside⟩

end Upstream
/-! ## The route -/

/-- What the route sees of a failed request. -/
def ofFetch : FetchError → PyError
  | .httpStatusError _ => .other "HTTPStatusError"
  | .valueError message => .valueError message
  | .other name => .other name

section Route
variable {Q Q' : Type} (text : TextNumbers) (adapter : Adapter) (symbol period : String)
  (oi : Paged Q OpenInterest) (oiRequest : Q → Except FetchError Json)
  (klines : Paged Q' Candle) (klinesRequest : Q' → Except FetchError Json)

/-- A row with the close of one of these candles that closes at its time. -/
def PricedBy (periodMs : ℤ) (candles : List Candle) (row out : OpenInterest) : Prop :=
  ∃ c ∈ candles, c.timestamp + periodMs = row.timestamp ∧
    out = { row with openInterest := pricedAt row c.close }

/-- The newest rows up to the start, each of them once: all of them priced when
candles and rows are aligned, and some of them whatever requests for candles fail. -/
structure Prices : Prop where
  priced : ∀ periodMs rows candles start limit, periodToMs text period = some periodMs →
    Upstream oi oiRequest rows → Upstream klines klinesRequest candles →
    Aligned periodMs candles rows → (∀ bound ∈ start, 0 ≤ bound) → 0 < limit →
    Reaches oi rows start limit → Reaches klines candles start (limit + 1) →
    ∃ out, getOpenInterest text adapter .linear symbol period start limit = .ok out ∧
      List.Forall₂ (PricedBy periodMs candles) ((oi.known rows start).rtake limit) out
  kept : ∀ periodMs rows candles start limit, periodToMs text period = some periodMs →
    Upstream oi oiRequest rows →
    (candles.Pairwise fun c d => c.timestamp < d.timestamp) → (∀ c ∈ candles, 0 < c.timestamp) →
    klines.MayRaise klinesRequest candles → (∀ bound ∈ start, 0 ≤ bound) → 0 < limit →
    Reaches oi rows start limit →
    ∃ out, getOpenInterest text adapter .linear symbol period start limit = .ok out ∧
      List.Forall₂ (fun row out => out = row ∨ PricedBy periodMs candles row out)
        ((oi.known rows start).rtake limit) out

variable {text adapter symbol period oi oiRequest klines klinesRequest} {periodMs : ℤ}
  {rows : List OpenInterest} {candles : List Candle} {start : Option ℤ} {limit : ℕ}

/-- The newest part up to the start keeps the alignment. -/
theorem Aligned.known (aligned : Aligned periodMs candles rows)
    (rowTime : oi.timestamp = OpenInterest.timestamp)
    (candleTime : klines.timestamp = Candle.timestamp) (start : Option ℤ) :
    Aligned periodMs (klines.known candles start) (oi.known rows start) where
  positive := aligned.positive
  apart := aligned.apart.sublist (Paged.known_sublist klines candles start)
  opens := by
    intro row member
    obtain ⟨inside, early⟩ := mem_known.mp member
    obtain ⟨c, own, opens⟩ := aligned.opens row inside
    refine ⟨c, mem_known.mpr ⟨own, fun bound given nonzero => ?_⟩, opens⟩
    have before := early bound given nonzero
    rw [rowTime] at before
    rw [candleTime]
    omega
  closes := by
    intro row member
    have positive := aligned.positive
    obtain ⟨inside, early⟩ := mem_known.mp member
    obtain ⟨c, own, closes⟩ := aligned.closes row inside
    refine ⟨c, mem_known.mpr ⟨own, fun bound given nonzero => ?_⟩, closes⟩
    have before := early bound given nonzero
    rw [rowTime] at before
    rw [candleTime]
    omega
  recorded := by
    intro row member c listed late
    obtain ⟨inside, early⟩ := mem_known.mp listed
    obtain ⟨r, own, sameTime⟩ := aligned.recorded row (mem_known.mp member).1 c inside late
    refine ⟨r, mem_known.mpr ⟨own, fun bound given nonzero => ?_⟩, sameTime⟩
    have before := early bound given nonzero
    rw [candleTime] at before
    rw [rowTime]
    omega

/-- The rows stand when the candles fail. -/
theorem getOpenInterest_unpriced {e : PyError}
    (allowed : validateInterval adapter .linear "open_interest" "Period" period = .ok ())
    (served : adapter.getOpenInterest .linear symbol period start limit = .ok rows)
    (failed : adapter.getCandles .linear symbol period start (limit + 1) = .error e) :
    getOpenInterest text adapter .linear symbol period start limit = .ok rows := by
  simp only [getOpenInterest, allowed, served, failed, bind, Except.bind, pure, Except.pure]
  split
  · rfl
  · rfl

theorem Joined.eq_priced {row out : OpenInterest} (joined : Joined periodMs candles row out)
    {c : Candle} (member : c ∈ candles) (closes : c.timestamp + periodMs = row.timestamp) :
    PricedBy periodMs candles row out := by
  refine ⟨c, member, closes, ?_⟩
  rw [← joined.matched c member closes]
  conv_rhs => rw [← joined.rest]

theorem Joined.eq_or_priced {row out : OpenInterest} (joined : Joined periodMs candles row out) :
    out = row ∨ PricedBy periodMs candles row out := by
  by_cases matched : ∃ c ∈ candles, c.timestamp + periodMs = row.timestamp
  · obtain ⟨c, member, closes⟩ := matched
    exact .inr (joined.eq_priced member closes)
  · refine .inl (joined.unmatched fun c member closes => matched ⟨c, member, closes⟩)

theorem PricedBy.mono {row out : OpenInterest} {fewer : List Candle}
    (priced : PricedBy periodMs fewer row out) (part : fewer ⊆ candles) :
    PricedBy periodMs candles row out := by
  obtain ⟨c, member, closes, same⟩ := priced
  exact ⟨c, part member, closes, same⟩

/-- What is asked of the two routes of an adapter. -/
structure Serves (adapter : Adapter) (symbol period : String) (oi : Paged Q OpenInterest)
    (oiRequest : Q → Except FetchError Json) (klines : Paged Q' Candle)
    (klinesRequest : Q' → Except FetchError Json) : Prop where
  rowTime : oi.timestamp = OpenInterest.timestamp
  candleTime : klines.timestamp = Candle.timestamp
  roomy : 1 < oi.perReq
  base : ∀ row r, oi.row row = .ok (some r) → r.openInterest.unit = .base
  rows : ∃ get, oi.Exact oiRequest get ∧ ∀ start limit,
    adapter.getOpenInterest .linear symbol period start limit = (get start limit).mapError ofFetch
  wide : 1 < klines.perReq
  candles : ∀ start limit, adapter.getCandles .linear symbol period start limit =
    (klines.get klinesRequest start limit).mapError ofFetch

variable (serves : Serves adapter symbol period oi oiRequest klines klinesRequest)

include serves

theorem Serves.newest (upstream : Upstream oi oiRequest rows)
    (later : ∀ bound ∈ start, 0 ≤ bound) (wanted : 0 < limit)
    (reach : Reaches oi rows start limit) :
    adapter.getOpenInterest .linear symbol period start limit =
        .ok ((oi.known rows start).rtake limit) ∧
      ∀ row ∈ (oi.known rows start).rtake limit, row.openInterest.unit = .base := by
  obtain ⟨get, exact, asked⟩ := serves.rows
  constructor
  · rw [asked, exact.newest rows upstream.strict upstream.positive upstream.answers start limit
      later wanted reach]
    rfl
  · intro row member
    have inside := (mem_known.mp ((rtake_suffix _ _).mem member)).1
    obtain ⟨sent, read⟩ := upstream.exists_row serves.roomy inside
    exact serves.base sent row read

theorem Serves.prices
    (allowed : validateInterval adapter .linear "open_interest" "Period" period = .ok ()) :
    Prices text adapter symbol period oi oiRequest klines klinesRequest where
  priced := by
    intro periodMs rows candles start limit understood oiUp klinesUp aligned later wanted reach
      further
    obtain ⟨served, base⟩ := serves.newest oiUp later wanted reach
    have exact := Paged.get_exact klines klinesRequest serves.wide
    have priced : adapter.getCandles .linear symbol period start (limit + 1) =
        .ok ((klines.known candles start).rtake (limit + 1)) := by
      rw [serves.candles, exact.newest candles klinesUp.strict klinesUp.positive klinesUp.answers start _
        later (Nat.succ_pos limit) further]
      rfl
    have known := aligned.known serves.rowTime serves.candleTime start
    have strict := known.strict.sublist (rtake_suffix _ (limit + 1)).sublist
    have ordered : (oi.known rows start).Pairwise fun r s => r.timestamp < s.timestamp :=
      (serves.rowTime ▸ oiUp.strict).sublist (Paged.known_sublist oi rows start)
    obtain ⟨out, ran, joined⟩ := joinCandles_joined understood base strict
    refine ⟨out, (getOpenInterest_linear allowed served priced understood).trans ran, ?_⟩
    refine joined.imp fun row out' each => ?_
    obtain ⟨c, inside, closes⟩ := known.newest ordered each.1
    refine (each.2.eq_priced inside closes).mono ?_
    exact ((List.dropLast_sublist _).trans ((rtake_suffix _ _).sublist.trans
      (Paged.known_sublist klines candles start))).subset
  kept := by
    intro periodMs rows candles start limit understood oiUp strict positive mayRaise later wanted
      reach
    obtain ⟨served, base⟩ := serves.newest oiUp later wanted reach
    have ordered : candles.Pairwise fun c d => klines.timestamp c < klines.timestamp d :=
      serves.candleTime ▸ strict
    have early : ∀ c ∈ candles, 0 < klines.timestamp c := serves.candleTime ▸ positive
    rcases mayRaise.get serves.wide ordered early start (Nat.succ_pos limit) with
      ⟨part, answered, suffix⟩ | ⟨e, failed⟩
    · have priced : adapter.getCandles .linear symbol period start (limit + 1) = .ok part := by
        rw [serves.candles, answered]
        rfl
      have inside := suffix.sublist.trans (Paged.known_sublist klines candles start)
      obtain ⟨out, ran, joined⟩ := joinCandles_joined understood base (strict.sublist inside)
      refine ⟨out, (getOpenInterest_linear allowed served priced understood).trans ran, ?_⟩
      refine joined.imp fun row out' each => each.2.eq_or_priced.imp_right fun priced => ?_
      exact priced.mono ((List.dropLast_sublist _).trans inside).subset
    · have unpriced : adapter.getCandles .linear symbol period start (limit + 1) =
          .error (ofFetch e) := by
        rw [serves.candles, failed]
        rfl
      exact ⟨_, getOpenInterest_unpriced allowed served unpriced,
        List.forall₂_same.mpr fun row _ => .inl rfl⟩

end Route

/-! ## The two exchanges -/

section Exchanges
variable (text : TextNumbers) (intervals : MarketType → List String)
  (statistics : Statistics.Adapter) (symbol period : String)

variable {text intervals period}

end Exchanges

section Hours
open Statistics (hour hourRecord hours_answer)

end Hours
end ExchangeRouter.Routes
