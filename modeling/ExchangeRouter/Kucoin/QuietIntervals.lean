import ExchangeRouter.History.Windows
import ExchangeRouter.Kucoin.Candles

/-!
# Spot candles with quiet intervals

What `get_candles` returns on spot when intervals without trades have no candle.
-/
namespace ExchangeRouter.Kucoin.Candles
open Lib OrderBooks Records History InfoCache

section Upstream
variable (adapter : Adapter) (apiSymbol interval : String)

/-- A row that reads as a candle. -/
structure Served where
  cells : List Json
  candle : Candle
  enough : 6 ≤ cells.length
  time : sToMs adapter.text (cells.getD 0 .null) = candle.timestamp
  reads : spotCandle adapter apiSymbol interval candle.timestamp cells = .ok candle

variable {adapter apiSymbol interval}

def Served.openTime (r : Served adapter apiSymbol interval) : ℤ := r.candle.timestamp

def candles (rows : List (Served adapter apiSymbol interval)) : List Candle :=
  rows.map Served.candle

/-- The rows that open in a window of seconds. -/
def between (startAt endAt : ℤ) (rows : List (Served adapter apiSymbol interval)) :
    List (Served adapter apiSymbol interval) :=
  rows.filter fun r => 1000 * startAt ≤ r.openTime ∧ r.openTime < 1000 * endAt

/-- The upstream answers with the rows of the window, at most 1500 of them, in some
order. -/
def Serves (ktype : String) (rows : List (Served adapter apiSymbol interval)) : Prop :=
  ∀ startAt endAt, ∃ (answer : List Json) (part : List (Served adapter apiSymbol interval)),
    adapter.makeRequest (.marketCandles apiSymbol ktype startAt endAt) = .ok (.arr answer) ∧
      answer.Perm (part.map fun r => .arr r.cells) ∧ part.Sublist (between startAt endAt rows) ∧
      part.length = min spotPerReq (between startAt endAt rows).length

/-- Candles of their own times, at multiples of the interval. -/
structure OnInterval (rows : List (Served adapter apiSymbol interval)) : Prop where
  strict : rows.Pairwise fun a b => a.openTime < b.openTime
  multiples : ∀ r ∈ rows, intervalToMs interval ∣ r.openTime

/-- `_parse` keeps the candles after time zero. -/
theorem parse_served {rows : List (Served adapter apiSymbol interval)} {answer : List Json}
    (strict : rows.Pairwise fun a b => a.openTime < b.openTime)
    (perm : answer.Perm (rows.map fun r => .arr r.cells)) :
    parse (parseSpotRow adapter apiSymbol interval) (.arr answer) =
      since Candle.timestamp 1 (candles rows) := by
  have read : ∀ r : Served adapter apiSymbol interval,
      (if r.cells.length < 6 then none else parseSpotRow adapter apiSymbol interval r.cells) =
        Option.guard (fun c => 1 ≤ c.timestamp) r.candle := by
    intro r
    rw [if_neg (not_lt.mpr r.enough), parseSpotRow, r.time, r.reads]
    by_cases positive : 1 ≤ r.candle.timestamp
    · rw [if_neg (by omega), Option.guard, if_pos (decide_eq_true positive)]
      rfl
    · rw [if_pos (by omega), Option.guard, if_neg (by simpa using positive)]
  have ordered : (since Candle.timestamp 1 (candles rows)).Pairwise
      fun a b => a.timestamp < b.timestamp :=
    List.Pairwise.filter _ (List.pairwise_map.mpr strict)
  refine sortByTime_eq_of_perm ((perm.filterMap _).trans (.of_eq ?_)) ordered
  rw [List.filterMap_map, candles, since, ← List.filterMap_eq_filter, List.filterMap_map]
  exact List.filterMap_congr fun r _ => read r

section Windows
variable {rows : List (Served adapter apiSymbol interval)} {ktype : String} {minutes : ℤ}

theorem windowStart_eq (length : intervalToMs interval = 60000 * minutes) (positive : 0 < minutes)
    (endS : ℤ) {l : ℕ} (some' : 1 ≤ l) :
    windowStart interval endS l = max (endS - 60 * (minutes * l)) 0 := by
  have room : 1 * 1 ≤ minutes * l := Int.mul_le_mul positive (by omega) (by omega) (by omega)
  rw [windowStart, length, mul_assoc]
  omega

theorem OnInterval.whole_second (on : OnInterval rows)
    (length : intervalToMs interval = 60000 * minutes) {r : Served adapter apiSymbol interval}
    (member : r ∈ rows) : 1000 ∣ r.openTime :=
  (Dvd.intro_left (minutes * 60) (by rw [length]; ring)).trans (on.multiples r member)

/-- A window of as many intervals as a page has room for holds no more candles. -/
theorem OnInterval.between_length (on : OnInterval rows)
    (length : intervalToMs interval = 60000 * minutes) (positive : 0 < minutes) (endS : ℤ) {l : ℕ}
    (some' : 1 ≤ l) : (between (windowStart interval endS l) endS rows).length ≤ l := by
  have multiples : ∀ r ∈ between (windowStart interval endS l) endS rows,
      60000 * minutes ∣ r.openTime := fun r member =>
    length ▸ on.multiples r (List.mem_filter.mp member).1
  refine length_le_of_apart (apart_of_multiples (on.strict.filter _) (by omega) multiples)
    (1000 * (endS - 60 * (minutes * l))) (1000 * endS) l (fun r member => ?_) ?_
  · have inside := of_decide_eq_true (List.mem_filter.mp member).2
    rw [windowStart_eq length positive endS some'] at inside
    omega
  · have wide : (l : ℤ) * (60000 * minutes) = 60000 * (minutes * l) := by ring
    omega

/-- A request brings what is known in its window. -/
theorem fetchSpot_eq (serves : Serves ktype rows) (on : OnInterval rows)
    (length : intervalToMs interval = 60000 * minutes) (positive : 0 < minutes)
    (startTime endTs : Option ℤ) {l : ℕ} (some' : 1 ≤ l) (few : l ≤ spotPerReq) {anchor : ℤ}
    (ends : (endTs.or startTime).getD adapter.nowMs = anchor) :
    fetchSpot adapter apiSymbol interval ktype startTime endTs l =
      .ok (since Candle.timestamp (1000 * windowStart interval (anchor / 1000 + 1) l)
        (upTo Candle.timestamp anchor (since Candle.timestamp 1 (candles rows)))) := by
  obtain ⟨answer, part, answered, perm, sublist, size⟩ :=
    serves (windowStart interval (anchor / 1000 + 1) l) (anchor / 1000 + 1)
  have room := on.between_length length positive (anchor / 1000 + 1) some'
  have whole := sublist.eq_of_length (by omega)
  subst whole
  have cut : candles (between (windowStart interval (anchor / 1000 + 1) l) (anchor / 1000 + 1) rows) =
      since Candle.timestamp (1000 * windowStart interval (anchor / 1000 + 1) l)
        (upTo Candle.timestamp anchor (candles rows)) := by
    rw [candles, candles, since, upTo, List.filter_filter, List.filter_map, between]
    congr 1
    refine List.filter_congr fun r member => ?_
    obtain ⟨n, second⟩ := on.whole_second length member
    have inside : (1000 * windowStart interval (anchor / 1000 + 1) l ≤ r.openTime ∧
        r.openTime < 1000 * (anchor / 1000 + 1)) ↔
        (1000 * windowStart interval (anchor / 1000 + 1) l ≤ r.openTime ∧ r.openTime ≤ anchor) := by
      omega
    exact (decide_eq_decide.mpr inside).trans (Bool.decide_and _ _)
  have ordered : (between (windowStart interval (anchor / 1000 + 1) l) (anchor / 1000 + 1)
      rows).Pairwise fun a b => a.openTime < b.openTime := on.strict.filter _
  rw [fetchSpot, ends, answered, Except.map, parse_served ordered perm, cut, since_comm, since_upTo]

end Windows

section Newest
variable {rows : List (Served adapter apiSymbol interval)} {ktype : String} {minutes anchor : ℤ}
  {startTime : Option ℤ} {limit : ℕ}

/-- Where the windows of full pages begin, in milliseconds. -/
def pageStart (interval : String) (anchor : ℤ) (current : Option ℤ) : ℤ :=
  1000 * windowStart interval (current.getD anchor / 1000 + 1) spotPerReq

/-- The candles that the code reads, of those known at the anchor. -/
def readable (anchor : ℤ) (rows : List (Served adapter apiSymbol interval)) : List Candle :=
  upTo Candle.timestamp anchor (since Candle.timestamp 1 (candles rows))

theorem OnInterval.readable_times (on : OnInterval rows)
    (length : intervalToMs interval = 60000 * minutes) {c : Candle}
    (member : c ∈ readable anchor rows) : 0 < c.timestamp ∧ c.timestamp ≤ anchor ∧
      1000 ∣ c.timestamp := by
  have early := le_of_mem_upTo member
  have kept := (List.mem_filter.mp member).1
  have late := le_of_mem_since kept
  obtain ⟨r, inside, rfl⟩ := List.mem_map.mp (List.mem_filter.mp kept).1
  exact ⟨by omega, early, on.whole_second length inside⟩

theorem OnInterval.candles_strict (on : OnInterval rows) :
    (candles rows).Pairwise fun a b => a.timestamp < b.timestamp :=
  List.pairwise_map.mpr on.strict

theorem OnInterval.readable_strict (on : OnInterval rows) :
    (readable anchor rows).Pairwise fun a b => a.timestamp < b.timestamp :=
  List.Pairwise.filter _ (List.Pairwise.filter _ on.candles_strict)

theorem pageStart_eq (length : intervalToMs interval = 60000 * minutes) (positive : 0 < minutes)
    (current : Option ℤ) : pageStart interval anchor current =
      1000 * max (current.getD anchor / 1000 + 1 - 90000 * minutes) 0 := by
  rw [pageStart, windowStart_eq length positive _ (by decide), spotPerReq]
  omega

/-- The windows of full pages are 1500 intervals wide. -/
theorem OnInterval.wide (on : OnInterval rows)
    (length : intervalToMs interval = 60000 * minutes) (positive : 0 < minutes) :
    Wide Candle.timestamp (pageStart interval anchor) (intervalToMs interval * spotPerReq)
      (readable anchor rows) where
  first a own b other begins := by
    obtain ⟨-, known, -⟩ := on.readable_times length other
    rw [pageStart_eq length positive, Option.getD_none] at begins
    rw [length, spotPerReq]
    omega
  next a own b other := by
    obtain ⟨later, -, m, whole⟩ := on.readable_times length own
    obtain ⟨-, -, n, whole'⟩ := on.readable_times length other
    rw [pageStart_eq length positive, Option.getD_some, length, spotPerReq]
    omega

theorem OnInterval.endsIn (on : OnInterval rows)
    (length : intervalToMs interval = 60000 * minutes) (positive : 0 < minutes) :
    EndsIn Candle.timestamp (pageStart interval anchor) (readable anchor rows) := by
  intro c member
  obtain ⟨later, -, -⟩ := on.readable_times length member
  rw [pageStart_eq length positive, Option.getD_some]
  omega

/-- On the single path a request brings the newest candles of its window. -/
theorem getCandlesSpot_single (serves : Serves ktype rows) (on : OnInterval rows)
    (named : mapSpotInterval interval = some ktype) (small : limit ≤ spotPerReq)
    (wanted : 1 ≤ limit) :
    getCandlesSpot adapter apiSymbol interval none limit =
      .ok ((since Candle.timestamp
        (1000 * windowStart interval (adapter.nowMs / 1000 + 1) limit)
        (readable adapter.nowMs rows)).rtake limit) := by
  obtain ⟨minutes, positive, length⟩ := intervalToMs_minutes named
  simp only [getCandlesSpot, named, small, and_self, if_true]
  rw [fetchSpot_eq serves on length positive none none wanted small rfl, Except.map, lastSlice,
    if_neg (by omega)]
  rfl

/-- On the other path the windows are followed from the anchor back. -/
theorem getCandlesSpot_paginated (serves : Serves ktype rows) (on : OnInterval rows)
    (named : mapSpotInterval interval = some ktype)
    (several : ¬ (startTime = none ∧ limit ≤ spotPerReq)) (wanted : 1 ≤ limit)
    (ends : startTime.getD adapter.nowMs = anchor) :
    getCandlesSpot adapter apiSymbol interval startTime limit =
      .ok ((reach Candle.timestamp (pageStart interval anchor) (readable anchor rows)
        maxRequests).rtake limit) := by
  obtain ⟨minutes, positive, length⟩ := intervalToMs_minutes named
  simp only [getCandlesSpot, named, several, if_false]
  refine paginateBackwards_windows on.readable_strict
    (fun c member => (on.readable_times length member).1) (on.endsIn length positive)
    (fun current known => ?_) wanted
  cases current with
  | none =>
    exact fetchSpot_eq serves on length positive startTime none (by decide) le_rfl
      (by rw [Option.none_or, ends, Option.getD_none])
  | some t =>
    obtain ⟨c, member, rfl⟩ := known t rfl
    have before := (on.readable_times length member).2.1
    rw [fetchSpot_eq serves on length positive startTime (some c.timestamp) (by decide) le_rfl rfl,
      windowPage, Option.elim_some, readable, upTo_upTo before]
    rfl

/-- When the newest candles are within reach.  One request reaches back as many
intervals as candles are asked for.  Several requests need the newest candle in
the last 1500 intervals, and every other one less than 1500 intervals before the
next; a candle at or before time zero is never read. -/
def Unbroken (interval : String) (anchor : ℤ) (startTime : Option ℤ) (limit : ℕ)
    (newest : List Candle) : Prop :=
  (∀ c ∈ newest, 0 < c.timestamp) ∧
    if startTime = none ∧ limit ≤ spotPerReq then
      ∀ c ∈ newest, 1000 * (anchor / 1000 + 1) ≤ c.timestamp + intervalToMs interval * limit
    else
      (∀ c ∈ newest.getLast?,
        1000 * (anchor / 1000 + 1) ≤ c.timestamp + intervalToMs interval * spotPerReq) ∧
          Connected Candle.timestamp (intervalToMs interval * spotPerReq) newest

/-- One request is made, or the hundredth page has enough, or one more page
brings nothing. -/
def WithinCap (startTime : Option ℤ) (limit : ℕ) (anchor : ℤ)
    (rows : List (Served adapter apiSymbol interval)) : Prop :=
  (startTime = none ∧ limit ≤ spotPerReq) ∨
    limit ≤ (reach Candle.timestamp (pageStart interval anchor) (readable anchor rows)
      maxRequests).length ∨
    reach Candle.timestamp (pageStart interval anchor) (readable anchor rows) (maxRequests + 1) =
      reach Candle.timestamp (pageStart interval anchor) (readable anchor rows) maxRequests

/-- Candles that were read are the newest when these are readable. -/
theorem newest_readable_iff (on : OnInterval rows) {out : List Candle}
    (read : ∀ c ∈ out, 0 < c.timestamp) :
    out = (upTo Candle.timestamp anchor (candles rows)).rtake limit ↔
      (∀ c ∈ (upTo Candle.timestamp anchor (candles rows)).rtake limit, 0 < c.timestamp) ∧
        out = (readable anchor rows).rtake limit := by
  have ascending : Ascending Candle.timestamp (upTo Candle.timestamp anchor (candles rows)) :=
    (on.candles_strict.sublist (upTo_sublist _ _ _)).imp fun earlier => earlier.le
  have cut := ascending.since_rtake_iff 1 limit
  rw [since_upTo] at cut
  constructor
  · rintro rfl
    exact ⟨read, (cut.mpr read).symm⟩
  · rintro ⟨positive, same⟩
    exact same.trans (cut.mpr positive)

/-- The newest candles up to the anchor are returned exactly when no quiet time
between them is as long as the windows. -/
theorem getCandlesSpot_newest_iff (serves : Serves ktype rows) (on : OnInterval rows)
    (named : mapSpotInterval interval = some ktype) (wanted : 1 ≤ limit)
    (ends : startTime.getD adapter.nowMs = anchor) (within : WithinCap startTime limit anchor rows) :
    getCandlesSpot adapter apiSymbol interval startTime limit =
        .ok ((upTo Candle.timestamp anchor (candles rows)).rtake limit) ↔
      Unbroken interval anchor startTime limit
        ((upTo Candle.timestamp anchor (candles rows)).rtake limit) := by
  obtain ⟨minutes, minute, length⟩ := intervalToMs_minutes named
  have ascending : Ascending Candle.timestamp (readable anchor rows) :=
    on.readable_strict.imp fun earlier => earlier.le
  have positive : ∀ c ∈ readable anchor rows, 0 < c.timestamp :=
    fun c member => (on.readable_times length member).1
  unfold Unbroken
  by_cases single : startTime = none ∧ limit ≤ spotPerReq
  · obtain ⟨rfl, small⟩ := single
    obtain rfl : adapter.nowMs = anchor := ends
    have read : ∀ c ∈ (since Candle.timestamp
        (1000 * windowStart interval (adapter.nowMs / 1000 + 1) limit)
        (readable adapter.nowMs rows)).rtake limit, 0 < c.timestamp := fun c member =>
      positive c (List.mem_filter.mp ((rtake_suffix _ _).mem member)).1
    rw [getCandlesSpot_single serves on named small wanted, Except.ok.injEq,
      newest_readable_iff on read, if_pos ⟨rfl, small⟩]
    refine and_congr_right fun late => ?_
    have same := ((newest_readable_iff on late).mp rfl).2
    rw [ascending.since_rtake_iff, ← same]
    refine forall₂_congr fun c member => ?_
    have later := late c member
    rw [windowStart_eq length minute _ wanted, length, mul_assoc]
    omega
  · rw [getCandlesSpot_paginated serves on named single wanted ends, Except.ok.injEq,
      newest_readable_iff on fun c member =>
        positive c ((reach_suffix _ ascending _).mem ((rtake_suffix _ _).mem member)),
      if_neg single]
    refine and_congr_right fun late => ?_
    have same := ((newest_readable_iff on late).mp rfl).2
    rw [reach_newest_iff ascending (on.wide length minute) (on.endsIn length minute)
      (within.resolve_left single), ← same]
    refine and_congr_left fun _ => forall₂_congr fun c member => ?_
    have later := late c (List.mem_of_getLast? member)
    rw [pageStart_eq length minute, Option.getD_none, length, spotPerReq]
    omega

end Newest

end Upstream

section Call
variable {adapter : Adapter} {symbol apiSymbol interval ktype : String}
  {rows : List (Served adapter apiSymbol interval)} {startTime : Option ℤ} {limit : ℕ}

/-- The newest candles up to the start, or now, are returned exactly when no quiet
time between them is as long as the windows. -/
theorem getCandles_newest_iff (resolved : adapter.resolveSymbol symbol .spot = some apiSymbol)
    (named : mapSpotInterval interval = some ktype) (serves : Serves ktype rows)
    (on : OnInterval rows) (wanted : 1 ≤ limit)
    (within : WithinCap startTime limit (startTime.getD adapter.nowMs) rows) :
    getCandles adapter .spot symbol interval startTime limit =
        .ok ((upTo Candle.timestamp (startTime.getD adapter.nowMs) (candles rows)).rtake limit) ↔
      Unbroken interval (startTime.getD adapter.nowMs) startTime limit
        ((upTo Candle.timestamp (startTime.getD adapter.nowMs) (candles rows)).rtake limit) := by
  have spot := getCandlesSpot_newest_iff serves on named wanted rfl within
  simpa only [getCandles, resolved, if_true] using spot

end Call

section Hours

/-- The seconds of some hours. -/
def hour (n : Fin 6) : ℤ := 1700002800 + 3600 * n

def hourRow (n : Fin 6) : List Json :=
  [.num (hour n), .num 1, .num 2, .num 2, .num 1, .num 7]

/-- A spot candle of Bitcoin, as parsed. -/
def hourCandle (n : Fin 6) : Candle where
  symbol := kucoinModelSymbol "BTC-USDT"
  marketType := .spot
  quote := ""
  interval := "1h"
  timestamp := hour n * 1000
  «open» := 1
  high := 2
  low := 1
  close := 2
  volume := ⟨7, .base, none, 7 * 2, ⟨.close, none, none, unpaired⟩, unsized⟩

/-- Two candles with four quiet hours between them, and half an hour after. -/
def quietAdapter : Adapter where
  text := noTexts
  resolveSymbol symbol _ := some symbol
  infoFor _ _ := none
  multiplierFor _ _ := none
  nowMs := (hour 5 + 1800) * 1000
  makeRequest
    | .marketCandles _ _ startAt endAt => .ok (.arr (([0, 5].filter fun n =>
        1000 * startAt ≤ hour n * 1000 ∧ hour n * 1000 < 1000 * endAt).map fun n =>
          .arr (hourRow n)))
    | .klineQuery _ _ _ => .ok .null

def hourServed (n : Fin 6) : Served quietAdapter "BTC-USDT" "1h" where
  cells := hourRow n
  candle := hourCandle n
  enough := le_rfl
  time := by
    have seconds : hour n < 10 ^ 11 := by
      rw [hour]
      omega
    have read : sToMs noTexts (.num (hour n)) = hour n * 1000 := by
      simp only [sToMs, Json.int, Rat.num_intCast, Rat.den_intCast, Nat.cast_one, Int.tdiv_one,
        if_pos seconds]
    exact read
  reads := rfl

theorem quiet_serves : Serves "1hour" ([0, 5].map hourServed) := by
  intro startAt endAt
  refine ⟨_, between startAt endAt ([0, 5].map hourServed), rfl, ?_, List.Sublist.refl _, ?_⟩
  · rw [between, List.filter_map, List.map_map]
    exact .refl _
  · have few : (between startAt endAt ([0, 5].map hourServed)).length ≤ 2 :=
      List.length_filter_le _ _
    rw [spotPerReq]
    omega

theorem quiet_onInterval : OnInterval ([0, 5].map hourServed) where
  strict := by decide
  multiples := by decide

/-- From the newer candle back, the older one is in the same window. -/
theorem getCandles_newest_iff_quiet :
    getCandles quietAdapter .spot "BTC-USDT" "1h" (some (hour 5 * 1000)) 2 =
      .ok [hourCandle 0, hourCandle 5] := by
  have ascending : Ascending Candle.timestamp
      (readable (hour 5 * 1000) ([0, 5].map hourServed)) :=
    quiet_onInterval.readable_strict.imp fun earlier => earlier.le
  obtain ⟨minutes, minute, length⟩ := intervalToMs_minutes
    (rfl : mapSpotInterval "1h" = some "1hour")
  have more := (reach_mono ascending (quiet_onInterval.endsIn length minute) 1 99).length_le
  have two : 2 ≤ (reach Candle.timestamp (pageStart "1h" (hour 5 * 1000))
      (readable (hour 5 * 1000) ([0, 5].map hourServed)) 1).length := by decide
  have newest : (upTo Candle.timestamp (hour 5 * 1000) (candles ([0, 5].map hourServed))).rtake 2 =
      [hourCandle 0, hourCandle 5] := rfl
  have unbroken : Unbroken "1h" (hour 5 * 1000) (some (hour 5 * 1000)) 2
      [hourCandle 0, hourCandle 5] := by
    refine ⟨by decide, ?_⟩
    rw [if_neg (by simp)]
    unfold Connected
    decide
  have iff := @getCandles_newest_iff quietAdapter "BTC-USDT" _ "1h" "1hour" _
    (some (hour 5 * 1000)) 2 rfl rfl quiet_serves quiet_onInterval (by decide)
    (.inr (.inl (two.trans more)))
  rw [Option.getD_some, newest] at iff
  exact iff.mpr unbroken

/-- Without a start, two hours are asked for, and the older candle is not in them. -/
theorem quiet_hours_hide : ¬ ∀ (adapter : Adapter) (symbol apiSymbol interval ktype : String)
    (rows : List (Served adapter apiSymbol interval)) (startTime : Option ℤ) (limit : ℕ),
    adapter.resolveSymbol symbol .spot = some apiSymbol →
    mapSpotInterval interval = some ktype → Serves ktype rows → OnInterval rows →
    (∀ start ∈ startTime, 0 < start) → 1 ≤ limit →
    WithinCap startTime limit (startTime.getD adapter.nowMs) rows →
    getCandles adapter .spot symbol interval startTime limit =
      .ok ((upTo Candle.timestamp (startTime.getD adapter.nowMs) (candles rows)).rtake limit) := by
  intro claimed
  have full := claimed quietAdapter "BTC-USDT" "BTC-USDT" "1h" "1hour" _ none 2 rfl rfl
    quiet_serves quiet_onInterval (by simp) (by decide) (.inl ⟨rfl, by decide⟩)
  have single := getCandlesSpot_single quiet_serves quiet_onInterval rfl
    (by decide : 2 ≤ spotPerReq) (by decide)
  have same := Except.ok.inj (single.symm.trans full)
  exact absurd (congrArg List.length same) (by decide)

end Hours
end ExchangeRouter.Kucoin.Candles
