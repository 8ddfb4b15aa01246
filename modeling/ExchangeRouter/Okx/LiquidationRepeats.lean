import ExchangeRouter.History.Repeats
import ExchangeRouter.Okx.Liquidations

/-!
# Liquidations that look alike

What `get_liquidations` returns when events of the same time may be equal in all
that the upstream tells of them.
-/
namespace ExchangeRouter.Okx.Liquidations
open Lib OrderBooks Records History InfoCache

section Upstream
variable (adapter : Adapter) (marketType : MarketType) (apiSymbol : String)

/-- A detail that `_parse` keeps. -/
structure Served where
  detail : Json
  event : Liquidation
  reads : readDetail adapter marketType apiSymbol detail = .ok (some event)
  positive : 0 < event.timestamp

variable {adapter marketType apiSymbol}

/-- An entry of the instrument with these details. -/
structure Reports (entry : Json) (details : List (Served adapter marketType apiSymbol)) :
    Prop where
  instId : entry.get? "instId" = .ok (some (.str apiSymbol))
  details : entry.get? "details" = .ok (some (.arr (details.map Served.detail)))

/-- The newest `limit` of the details before `after`. -/
def newest (known : List (Served adapter marketType apiSymbol)) (limit : ℕ) (after : Option ℤ) :
    List (Served adapter marketType apiSymbol) :=
  (after.elim known fun t => known.filter fun d => d.event.timestamp < t).rtake limit

/-- The upstream answers with the newest of these details, in entries of its own. -/
def Serves (known : List (Served adapter marketType apiSymbol)) : Prop :=
  ∀ limit after, ∃ entries groups,
    adapter.makeRequest ⟨underlying apiSymbol, limit, after⟩ = .ok (.arr entries) ∧
      List.Forall₂ Reports entries groups ∧ groups.flatten.Perm (newest known limit after)

def events (known : List (Served adapter marketType apiSymbol)) : List Liquidation :=
  known.map Served.event

/-- The events not later than the start, if there is one. -/
def upToStart (startTime : Option ℤ) (l : List Liquidation) : List Liquidation :=
  startTime.elim l fun t => upTo Liquidation.timestamp t l

theorem Reports.readEntry_eq {entry : Json} {details : List (Served adapter marketType apiSymbol)}
    (reports : Reports entry details) :
    readEntry adapter marketType apiSymbol entry = .ok (events details) := by
  have each : List.Forall₂
      (fun detail event => readDetail adapter marketType apiSymbol detail = .ok (some event))
      (details.map Served.detail) (events details) :=
    List.forall₂_map_left_iff.mpr (List.forall₂_map_right_iff.mpr
      (List.forall₂_same.mpr fun d _ => d.reads))
  have read := mapM_eq_ok_some each
  have own : (some (Json.str apiSymbol)).any (fun id => id.isText apiSymbol) = true :=
    decide_eq_true rfl
  have found : entry.getD "details" (.arr []) = .ok (.arr (details.map Served.detail)) := by
    rw [Json.getD, reports.details]
    rfl
  rw [readEntry, reports.instId]
  simp only [bind, Except.bind, own, if_true, found, Json.elements, read, pure, Except.pure,
    reduceOption_map_some]

theorem parse_perm {entries : List Json}
    {groups : List (List (Served adapter marketType apiSymbol))}
    (reports : List.Forall₂ Reports entries groups) :
    ∃ batch, parse adapter marketType apiSymbol (.arr entries) = .ok batch ∧
      Ascending Liquidation.timestamp batch ∧ batch.Perm (events groups.flatten) := by
  have read : entries.mapM (readEntry adapter marketType apiSymbol) = .ok (groups.map events) :=
    mapM_eq_ok (List.forall₂_map_right_iff.mpr (reports.imp fun _ _ own => own.readEntry_eq))
  refine ⟨sortByTime Liquidation.timestamp (groups.map events).flatten, ?_, ?_, ?_⟩
  · rw [parse, Json.elements]
    simp only [bind, Except.bind, read, pure, Except.pure]
  · exact sortByTime_ascending _ _
  · rw [events, List.map_flatten]
    exact List.perm_insertionSort _ _

theorem events_newest (known : List (Served adapter marketType apiSymbol)) (limit : ℕ)
    (anchor : Option ℤ) : events (newest known limit (anchor.map (· + 1))) =
      (upToStart anchor (events known)).rtake limit := by
  rw [events, newest, ← map_rtake]
  cases anchor with
  | none => rfl
  | some t =>
    simp only [Option.map_some, Option.elim_some, upToStart, upTo, events, List.filter_map,
      Function.comp_def, Int.lt_add_one_iff]

variable {known : List (Served adapter marketType apiSymbol)} {startTime : Option ℤ}

/-- A page is, in some order, the newest part of what is known up to its anchor. -/
theorem fetchBackward_perm (serves : Serves known) (startTime endTs : Option ℤ) (l : ℕ) :
    ∃ batch, fetchBackward adapter marketType apiSymbol startTime endTs l = .ok batch ∧
      Ascending Liquidation.timestamp batch ∧ batch.Perm ((upToStart
        ((endTs.or startTime).filter fun anchor => anchor ≠ 0) (events known)).rtake
          (min l perReq)) := by
  obtain ⟨entries, groups, answered, reports, perm⟩ := serves (min l perReq)
    (((endTs.or startTime).filter fun anchor => anchor ≠ 0).map (· + 1))
  obtain ⟨batch, parsed, sorted, same⟩ := parse_perm reports
  refine ⟨batch, ?_, sorted, ?_⟩
  · rw [fetchBackward, answered]
    simp only [parsed, Except.mapError]
  · rw [← events_newest]
    exact same.trans (perm.map _)

theorem events_positive {e : Liquidation} (member : e ∈ events known) : 0 < e.timestamp := by
  obtain ⟨d, -, rfl⟩ := List.mem_map.mp member
  exact d.positive

theorem upToStart_sublist (startTime : Option ℤ) (l : List Liquidation) :
    (upToStart startTime l).Sublist l := by
  cases startTime with
  | none => exact List.Sublist.refl l
  | some t => exact upTo_sublist _ t l

/-- The pages of the walk are those of the events up to the start. -/
theorem fetchBackward_serves (serves : Serves known) (started : ∀ t ∈ startTime, 0 < t) :
    ServesSome Liquidation.timestamp perReq (upToStart startTime (events known))
      fun _ => fetchBackward adapter marketType apiSymbol startTime := by
  intro _ current ends
  obtain ⟨batch, fetched, -, perm⟩ := fetchBackward_perm serves startTime current perReq
  refine ⟨batch, fetched, ?_⟩
  rw [min_self] at perm
  cases current with
  | none =>
    cases startTime with
    | none => exact perm
    | some t =>
      have nonzero : t ≠ 0 := (started t rfl).ne'
      rw [Option.none_or, Option.filter_some, if_pos (decide_eq_true nonzero)] at perm
      exact perm
  | some t =>
    obtain ⟨e, inside, rfl⟩ := ends t rfl
    have nonzero : e.timestamp ≠ 0 :=
      (events_positive ((upToStart_sublist startTime _).mem inside)).ne'
    have anchored : (Option.filter (fun anchor => anchor ≠ 0)
        ((some e.timestamp).or startTime)) = some e.timestamp := by
      rw [Option.some_or, Option.filter_some, if_pos (decide_eq_true nonzero)]
    rw [anchored] at perm
    refine perm.trans (List.Perm.of_eq (congrArg (List.rtake · perReq) ?_))
    cases startTime with
    | none => rfl
    | some s => exact (upTo_upTo (le_of_mem_upTo inside) _).symm

theorem upToStart_ascending (ascending : Ascending Liquidation.timestamp (events known))
    (startTime : Option ℤ) :
    Ascending Liquidation.timestamp (upToStart startTime (events known)) :=
  List.Pairwise.sublist (upToStart_sublist startTime _) ascending

end Upstream

section Calls
variable {adapter : Adapter} {marketType : MarketType} {symbol : String}
  {known : List (Served adapter marketType (adapter.resolveSymbol symbol marketType))}
  {startTime : Option ℤ} {limit : ℕ}

/-- The market has liquidations, and their sizes can be told. -/
def Supported (adapter : Adapter) (marketType : MarketType) (symbol : String) : Prop :=
  marketType ≠ .spot ∧ (marketType = .linear →
    multiplier adapter marketType (adapter.resolveSymbol symbol marketType) ≠ none)

/-- One request brings the newest events, equal ones included. -/
theorem getLiquidations_single (supported : Supported adapter marketType symbol)
    (ascending : Ascending Liquidation.timestamp (events known)) (serves : Serves known)
    (wanted : 0 < limit) (few : limit ≤ perReq) :
    ∃ out, getLiquidations adapter marketType symbol none limit = .ok out ∧
      NewestOf Liquidation.timestamp limit (events known) out := by
  obtain ⟨batch, fetched, sorted, perm⟩ := fetchBackward_perm serves none none limit
  rw [min_eq_left few] at perm
  have short : batch.length ≤ limit := by
    rw [perm.length_eq, length_rtake]
    exact min_le_left _ _
  have whole : lastSlice limit batch = batch := by
    rw [lastSlice, if_neg wanted.ne', rtake_of_length_le short]
  refine ⟨batch, ?_, .of_perm ascending sorted perm⟩
  have single : ¬ ((none : Option ℤ) ≠ none ∨ perReq < limit) := by
    rintro (start | many)
    · exact start rfl
    · omega
  rw [getLiquidations, if_neg supported.1, if_neg (not_and.mpr supported.2), if_neg single]
  simp only [fetched, Except.map, whole]

/-- Page by page, the newest events are returned exactly when they are told apart. -/
theorem getLiquidations_paginated_iff (supported : Supported adapter marketType symbol)
    (ascending : Ascending Liquidation.timestamp (events known)) (serves : Serves known)
    (few : ∀ t, (events known).countP (fun e => e.timestamp = t) < perReq)
    (started : ∀ t ∈ startTime, 0 < t) (wanted : 0 < limit)
    (several : startTime ≠ none ∨ perReq < limit) :
    (∃ out, getLiquidations adapter marketType symbol startTime limit = .ok out ∧
      NewestOf Liquidation.timestamp limit (upToStart startTime (events known)) out) ↔
      ToldApart Liquidation.timestamp limit (upToStart startTime (events known))
        (reached Liquidation.timestamp perReq (upToStart startTime (events known))
          maxRequests) := by
  rw [getLiquidations, if_neg supported.1, if_neg (not_and.mpr supported.2), if_pos several]
  have part := upToStart_sublist startTime (events known)
  exact paginateBackwards_newest_iff (upToStart_ascending ascending startTime)
    (fun e member => events_positive (part.mem member))
    (fun t => part.countP_le.trans_lt (few t)) (fetchBackward_serves serves started) wanted

/-- The newest events up to the start are returned, counted with their repeats,
exactly when one request does or they are told apart. -/
theorem getLiquidations_newest_iff (supported : Supported adapter marketType symbol)
    (ascending : Ascending Liquidation.timestamp (events known)) (serves : Serves known)
    (few : ∀ t, (events known).countP (fun e => e.timestamp = t) < perReq)
    (started : ∀ t ∈ startTime, 0 < t) (wanted : 0 < limit) :
    (∃ out, getLiquidations adapter marketType symbol startTime limit = .ok out ∧
      NewestOf Liquidation.timestamp limit (upToStart startTime (events known)) out) ↔
      (startTime = none ∧ limit ≤ perReq) ∨
        ToldApart Liquidation.timestamp limit (upToStart startTime (events known))
          (reached Liquidation.timestamp perReq (upToStart startTime (events known))
            maxRequests) := by
  by_cases single : startTime = none ∧ limit ≤ perReq
  · obtain ⟨rfl, few⟩ := single
    exact ⟨fun _ => .inl ⟨rfl, few⟩,
      fun _ => getLiquidations_single supported ascending serves wanted few⟩
  · have several : startTime ≠ none ∨ perReq < limit := by
      rwa [← not_le, ← not_and_or]
    rw [getLiquidations_paginated_iff supported ascending serves few started wanted several]
    exact ⟨.inr, fun apart => apart.resolve_left single⟩

section Twice

/-- A detail of a perpetual, with numbers given as such. -/
def detail : Json :=
  .obj [("side", .str "sell"), ("bkPx", .num 60000), ("sz", .num 3), ("ts", .num 1700000000000)]

def seller : Liquidation where
  symbol := okxModelSymbol "BTC-USDT-SWAP"
  marketType := .linear
  quote := ""
  side := .sell
  price := 60000
  qty := ⟨3 * (1 / 100), .base, none, 3 * (1 / 100) * 60000, unsized⟩
  timestamp := 1700000000000

/-- Two liquidations of one size, price and millisecond. -/
def twice : Adapter where
  text := noTexts
  iso _ := none
  resolveSymbol _ _ := "BTC-USDT-SWAP"
  infoFor _ _ := none
  multiplierFor _ _ := some (1 / 100)
  makeRequest query :=
    let few := if query.after.any (fun t => t ≤ 1700000000000) then 0 else min query.limit 2
    .ok (.arr [.obj [("instId", .str "BTC-USDT-SWAP"),
      ("details", .arr (List.replicate few detail))]])

def sold : Served twice .linear "BTC-USDT-SWAP" where
  detail := detail
  event := seller
  reads := by
    have given : detail.getD "side" (.str "") = .ok (.str "sell") := rfl
    have lowered : "sell".toLower = "sell" := by decide +kernel
    rw [readDetail, given]
    simp only [bind, Except.bind, lower, lowered]
    rfl
  positive := by decide

theorem newest_sold (limit : ℕ) (after : Option ℤ) : newest (List.replicate 2 sold) limit after =
    List.replicate (if after.any (fun t => t ≤ 1700000000000) then 0 else min limit 2) sold := by
  have cut : (List.replicate 2 sold).rtake limit = List.replicate (min limit 2) sold := by
    rw [List.rtake, List.drop_replicate, List.length_replicate]
    exact congrArg (List.replicate · sold) (by omega)
  cases after with
  | none => exact cut
  | some t =>
    have part : newest (List.replicate 2 sold) limit (some t) =
        (if 1700000000000 < t then List.replicate 2 sold else []).rtake limit := by
      rw [newest, Option.elim_some, List.filter_replicate]
      simp only [decide_eq_true_eq]
      rfl
    rw [part, Option.any_some]
    by_cases early : t ≤ 1700000000000
    · rw [if_neg (not_lt.mpr early), if_pos (decide_eq_true early)]
      exact List.drop_nil
    · rw [if_pos (not_le.mp early), if_neg (fun own => early (of_decide_eq_true own))]
      exact cut

theorem twice_serves : Serves (List.replicate 2 sold) := by
  intro limit after
  refine ⟨_, [newest (List.replicate 2 sold) limit after], rfl, .cons ⟨rfl, ?_⟩ .nil, by simp⟩
  rw [newest_sold, List.map_replicate]
  rfl

theorem twice_supported : Supported twice .linear "BTC-USDT" :=
  ⟨by decide, fun _ => Option.some_ne_none _⟩

theorem twice_few (t : ℤ) :
    (events (List.replicate 2 sold)).countP (fun e => e.timestamp = t) < perReq :=
  List.countP_le_length.trans_lt (by decide)

/-- One request returns both. -/
theorem getLiquidations_newest_iff_twice :
    ∃ out, getLiquidations twice .linear "BTC-USDT" none 2 = .ok out ∧
      NewestOf Liquidation.timestamp 2 (events (List.replicate 2 sold)) out :=
  (@getLiquidations_newest_iff twice .linear "BTC-USDT" (List.replicate 2 sold) none 2
    twice_supported (by decide) twice_serves twice_few (by simp) (by decide)).mpr
      (.inl ⟨rfl, by decide⟩)

/-- With a start, one of the two is lost. -/
theorem second_liquidation_lost : ¬ ∀ (adapter : Adapter) (marketType : MarketType)
    (symbol : String) (startTime : Option ℤ) (limit : ℕ)
    (known : List (Served adapter marketType (adapter.resolveSymbol symbol marketType))),
    Supported adapter marketType symbol → Ascending Liquidation.timestamp (events known) →
    Serves known → (∀ t, (events known).countP (fun e => e.timestamp = t) < perReq) →
    (∀ t ∈ startTime, 0 < t) → 0 < limit →
    min limit (upToStart startTime (events known)).length ≤
      (reached Liquidation.timestamp perReq (upToStart startTime (events known))
        maxRequests).length →
    ∃ out, getLiquidations adapter marketType symbol startTime limit = .ok out ∧
      NewestOf Liquidation.timestamp limit (upToStart startTime (events known)) out := by
  intro claimed
  have whole : [seller, seller] <:+
      reached Liquidation.timestamp perReq [seller, seller] maxRequests :=
    reached_mono Liquidation.timestamp perReq [seller, seller] 1 99
  have paged := claimed twice .linear "BTC-USDT" (some 1700000000000) 2 (List.replicate 2 sold)
    twice_supported (by decide) twice_serves twice_few (by decide) (by decide) whole.length_le
  have apart : ToldApart Liquidation.timestamp 2 [seller, seller]
      (reached Liquidation.timestamp perReq [seller, seller] maxRequests) :=
    (@getLiquidations_paginated_iff twice .linear "BTC-USDT" (List.replicate 2 sold)
      (some 1700000000000) 2 twice_supported (by decide) twice_serves twice_few (by decide)
      (by decide) (.inl (Option.some_ne_none _))).mp paged
  have several := (apart seller rfl).2
  have one : (since Liquidation.timestamp seller.timestamp
      (reached Liquidation.timestamp perReq [seller, seller] maxRequests)).toFinset ⊆ {seller} := by
    intro e member
    have reach := reached_suffix Liquidation.timestamp perReq [seller, seller] maxRequests
    have inside := reach.mem (List.mem_filter.mp (List.mem_toFinset.mp member)).1
    simpa using inside
  have few := Finset.card_le_card one
  rw [Finset.card_singleton] at few
  exact absurd (several.trans few) (by decide)

end Twice
end Calls
end ExchangeRouter.Okx.Liquidations
