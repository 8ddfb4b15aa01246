import ExchangeRouter.Okx.Candles

/-!
# Joining recent candles and history

What `get_candles` returns when the recent endpoint has the newest part of the
history.
-/
namespace ExchangeRouter.Okx.Candles
open Lib OrderBooks Records History InfoCache

section Upstream
variable (adapter : Adapter) (marketType : MarketType) (apiSymbol interval : String)

/-- A row that `_parse` keeps. -/
structure Served where
  row : Json
  candle : Candle
  parses : parseRow adapter marketType apiSymbol interval row = some candle

variable {adapter marketType apiSymbol interval}

/-- The newest `limit` of the rows before `after`. -/
def newest (rows : List (Served adapter marketType apiSymbol interval)) (limit : ℕ)
    (after : Option ℤ) : List (Served adapter marketType apiSymbol interval) :=
  (after.elim rows fun t => rows.filter fun r => r.candle.timestamp < t).rtake limit

/-- An endpoint answers with the newest of these rows, in some order. -/
def ServesAt (endpoint : String) (rows : List (Served adapter marketType apiSymbol interval)) :
    Prop :=
  ∀ limit after, ∃ answer,
    adapter.makeRequest endpoint ⟨apiSymbol, mapCandleInterval interval, limit, after⟩ =
      .ok (.arr answer) ∧ answer.Perm ((newest rows limit after).map Served.row)

def candles (rows : List (Served adapter marketType apiSymbol interval)) : List Candle :=
  rows.map Served.candle

theorem rowCandle_timestamp {ts : ℤ} {cells : List Json} {c : Candle}
    (built : rowCandle adapter marketType apiSymbol interval ts cells = .ok c) :
    c.timestamp = ts := by
  simp only [rowCandle, bind_eq_ok, pure, Except.pure, Except.ok.injEq] at built
  obtain ⟨_, _, _, _, _, _, _, _, _, _, _, _, rfl⟩ := built
  rfl

/-- `_parse` keeps no candle at or before time zero. -/
theorem Served.positive (r : Served adapter marketType apiSymbol interval) :
    0 < r.candle.timestamp := by
  have parses := r.parses
  unfold parseRow at parses
  split at parses
  · split at parses
    · cases parses
    · split at parses
      · next read =>
        rw [parses, readRow, bind_eq_ok] at read
        obtain ⟨ts, _, read⟩ := read
        split at read
        · cases read
        · next later =>
          obtain ⟨c, built, kept⟩ := bind_eq_ok.mp read
          cases kept
          rw [rowCandle_timestamp built]
          exact not_le.mp later
      · cases parses
  · cases parses

/-- The candles of an endpoint not later than an anchor, if there is one. -/
def known (anchor : Option ℤ) (l : List Candle) : List Candle :=
  anchor.elim l fun t => upTo Candle.timestamp t l

theorem parse_perm {rows : List (Served adapter marketType apiSymbol interval)}
    {answer : List Json} (strict : (candles rows).Pairwise fun a b => a.timestamp < b.timestamp)
    (perm : answer.Perm (rows.map Served.row)) :
    parse adapter marketType apiSymbol interval (.arr answer) = candles rows := by
  have kept : (rows.map Served.row).filterMap (parseRow adapter marketType apiSymbol interval) =
      candles rows := by
    rw [List.filterMap_map, candles, ← List.filterMap_eq_map]
    exact List.filterMap_congr fun r _ => r.parses
  exact sortByTime_eq_of_perm (kept ▸ perm.filterMap _) strict

theorem candles_newest (rows : List (Served adapter marketType apiSymbol interval)) (limit : ℕ)
    (anchor : Option ℤ) : candles (newest rows limit (anchor.map (· + 1))) =
      (known anchor (candles rows)).rtake limit := by
  rw [candles, newest, ← map_rtake]
  cases anchor with
  | none => rfl
  | some t =>
    simp only [Option.map_some, Option.elim_some, known, upTo, candles, List.filter_map,
      Function.comp_def, Int.lt_add_one_iff]

/-- A page is the newest part of what is known up to its anchor. -/
theorem fetchPage_eq {endpoint : String}
    {rows : List (Served adapter marketType apiSymbol interval)}
    (serves : ServesAt endpoint rows)
    (strict : (candles rows).Pairwise fun a b => a.timestamp < b.timestamp) (cap : ℕ)
    (startTime endTs : Option ℤ) (l : ℕ) :
    fetchPage adapter marketType apiSymbol interval endpoint cap startTime endTs l =
      .ok ((known ((endTs.or startTime).filter fun anchor => anchor ≠ 0) (candles rows)).rtake
        (min l cap)) := by
  obtain ⟨answer, answered, perm⟩ := serves (min l cap)
    (((endTs.or startTime).filter fun anchor => anchor ≠ 0).map (· + 1))
  have shown := candles_newest rows (min l cap)
    ((endTs.or startTime).filter fun anchor => anchor ≠ 0)
  have part : (candles (newest rows (min l cap)
      (((endTs.or startTime).filter fun anchor => anchor ≠ 0).map (· + 1)))).Pairwise
        fun a b => a.timestamp < b.timestamp := by
    rw [shown]
    refine strict.sublist ((rtake_suffix _ _).sublist.trans ?_)
    unfold known
    cases (endTs.or startTime).filter fun anchor => anchor ≠ 0 with
    | none => exact List.Sublist.refl _
    | some t => exact upTo_sublist _ t _
  rw [fetchPage, answered, Except.map, parse_perm part perm, shown]

section Known
variable {l newer : List Candle} {anchor : Option ℤ}

theorem known_sublist (anchor : Option ℤ) (l : List Candle) : (known anchor l).Sublist l := by
  cases anchor with
  | none => exact List.Sublist.refl l
  | some t => exact upTo_sublist _ t l

theorem known_suffix (anchor : Option ℤ) (part : newer <:+ l) :
    known anchor newer <:+ known anchor l := by
  cases anchor with
  | none => exact part
  | some t => exact part.filter _

theorem le_of_mem_known {c : Candle} (member : c ∈ known anchor l) :
    ∀ t ∈ anchor, c.timestamp ≤ t := by
  rintro t own
  cases own
  exact le_of_mem_upTo member

/-- A later cut of what is known. -/
theorem upTo_known {t : ℤ} (within : ∀ s ∈ anchor, t ≤ s) :
    upTo Candle.timestamp t (known anchor l) = upTo Candle.timestamp t l := by
  cases anchor with
  | none => rfl
  | some s => exact upTo_upTo (within s rfl) l

end Known

section Fetch
variable {recent history : List (Served adapter marketType apiSymbol interval)}

theorem candles_positive (rows : List (Served adapter marketType apiSymbol interval)) :
    ∀ c ∈ candles rows, 0 < c.timestamp := by
  intro c member
  obtain ⟨r, _, rfl⟩ := List.mem_map.mp member
  exact r.positive

/-- A positive anchor is sent. -/
theorem filter_positive {anchor : Option ℤ} (positive : ∀ s ∈ anchor, 0 < s) :
    anchor.filter (fun a => a ≠ 0) = anchor := by
  cases anchor with
  | none => rfl
  | some s => exact Option.filter_some_pos (by simpa using (positive s rfl).ne')

theorem fetchRecent_eq (serves : ServesAt "/api/v5/market/candles" recent)
    (strict : (candles recent).Pairwise fun a b => a.timestamp < b.timestamp)
    {startTime : Option ℤ} (positive : ∀ s ∈ startTime, 0 < s) (l : ℕ) :
    fetchRecent adapter marketType apiSymbol interval startTime none l =
      .ok ((known startTime (candles recent)).rtake (min l perReq)) := by
  rw [fetchRecent, fetchPage_eq serves strict, Option.none_or, filter_positive positive]

/-- The pages of the history that end at known candles. -/
theorem fetchHistory_page (serves : ServesAt "/api/v5/market/history-candles" history)
    (strict : (candles history).Pairwise fun a b => a.timestamp < b.timestamp)
    {anchor : Option ℤ} (positive : ∀ s ∈ anchor, 0 < s) {current : Option ℤ}
    (ends : ∀ t ∈ current, ∃ c ∈ known anchor (candles history), c.timestamp = t) :
    fetchHistory adapter marketType apiSymbol interval anchor current historyPerReq =
      .ok (page Candle.timestamp (known anchor (candles history)) current historyPerReq) := by
  rw [fetchHistory, fetchPage_eq serves strict, Nat.min_self, page]
  cases current with
  | none => rw [Option.none_or, filter_positive positive]; rfl
  | some t =>
    obtain ⟨c, member, rfl⟩ := ends t rfl
    have later := candles_positive history c ((known_sublist _ _).mem member)
    rw [Option.some_or, Option.filter_some_pos (by simpa using later.ne'), Option.elim_some,
      upTo_known (le_of_mem_known member)]
    rfl

/-- The pages of history up to an anchor bring its newest candles. -/
theorem paginate_history (serves : ServesAt "/api/v5/market/history-candles" history)
    (strict : (candles history).Pairwise fun a b => a.timestamp < b.timestamp)
    {anchor : Option ℤ} (positive : ∀ s ∈ anchor, 0 < s) {total : ℕ} (wanted : 0 < total) :
    ∃ newer, newer <:+ known anchor (candles history) ∧
      (known anchor (candles history) ≠ [] → newer ≠ []) ∧
      paginateBackwards Candle.timestamp id
          (fun _ => fetchHistory adapter marketType apiSymbol interval anchor) historyPerReq total =
        .ok (newer.rtake total) ∧
      (min total (known anchor (candles history)).length ≤
          historyPerReq + 99 * (historyPerReq - 1) →
        newer.rtake total = (known anchor (candles history)).rtake total) :=
  paginateBackwards_strict (strict.sublist (known_sublist _ _))
    (fun c member => candles_positive history c ((known_sublist _ _).mem member))
    (fun _ ends => fetchHistory_page serves strict positive ends) (by decide) wanted

/-- The pages older than the recent candles; before a candle at the first
millisecond there is no anchor. -/
theorem fetchHistory_older (startTime : Option ℤ) (oldest : ℤ) :
    (fun endTs => fetchHistory adapter marketType apiSymbol interval startTime
        (endTs.or (some (oldest - 1)))) =
      fetchHistory adapter marketType apiSymbol interval
        (if oldest = 1 then none else some (oldest - 1)) := by
  funext endTs l
  simp only [fetchHistory, fetchPage]
  congr 4
  cases endTs with
  | some t => rfl
  | none =>
    by_cases first : oldest = 1
    · simp [first]
    · simp [first]

end Fetch

section Stitch
variable {recent history : List (Served adapter marketType apiSymbol interval)}

/-- When the two endpoints make up the newest candles: one request of the recent
ones is enough, if only one is made; and no anchor at zero is lost on the way
from the recent candles to the older ones. -/
def Stitches (recent history : List Candle) (startTime : Option ℤ) (limit : ℕ) : Prop :=
  match startTime with
  | none => limit ≤ perReq → min limit history.length ≤ recent.length
  | some start => (∃ c ∈ recent, c.timestamp = 1) →
      limit ≤ (upTo Candle.timestamp start recent).length ∨
      perReq < (upTo Candle.timestamp start recent).length ∨
      ∀ c ∈ history, c.timestamp ≤ start

/-- Older candles before the recent ones: nothing is missing at the seam. -/
theorem joined_eq {older batch : List Candle} {limit : ℕ}
    (strict : (older ++ batch).Pairwise fun a b => a.timestamp < b.timestamp)
    (short : batch.length < limit) :
    lastSlice limit (sortByTime Candle.timestamp
        (byTimestamp (older.rtake (limit - batch.length) ++ batch)).values) =
      (older ++ batch).rtake limit := by
  have part : (older.rtake (limit - batch.length) ++ batch).Pairwise
      fun a b => a.timestamp < b.timestamp :=
    strict.sublist ((rtake_suffix older _).sublist.append (List.Sublist.refl batch))
  have size := length_rtake older (limit - batch.length)
  rw [sort_byTimestamp part fun c => Iff.rfl, lastSlice, if_neg (by omega), rtake_of_length_le,
    rtake_append, rtake_of_length_le (by omega : batch.length ≤ limit)]
  rw [List.length_append]
  omega

/-- The latest of all collected candles is returned. -/
theorem latest_returned {H items : List Candle} {latest : Candle} {limit : ℕ}
    (strict : H.Pairwise fun a b => a.timestamp < b.timestamp) (inside : ∀ c ∈ items, c ∈ H)
    (last : H.getLast? = some latest) (member : latest ∈ items) (wanted : 1 ≤ limit) :
    latest ∈ lastSlice limit (sortByTime Candle.timestamp (byTimestamp items).values) := by
  obtain ⟨before, rfl⟩ := List.getLast?_eq_some_iff.mp last
  have collected : sortByTime Candle.timestamp (byTimestamp items).values =
      (before.filter fun c => c ∈ items) ++ [latest] := by
    refine sort_byTimestamp (strict.sublist (List.filter_sublist.append_right _)) fun c => ?_
    rw [List.mem_append, List.mem_filter, List.mem_singleton, decide_eq_true_eq]
    constructor
    · intro own
      rcases List.mem_append.mp (inside c own) with early | same
      · exact .inl ⟨early, own⟩
      · exact .inr (List.mem_singleton.mp same)
    · rintro (⟨_, own⟩ | rfl)
      · exact own
      · exact member
  rw [collected, lastSlice, if_neg (by omega), rtake_append,
    rtake_of_length_le (by simpa using wanted : [latest].length ≤ limit)]
  exact List.mem_append_right _ (List.mem_singleton_self latest)

/-- The endpoints answer from one history, of which the recent one has the newest
part. -/
structure Endpoints (recent history : List (Served adapter marketType apiSymbol interval)) :
    Prop where
  servesRecent : ServesAt "/api/v5/market/candles" recent
  servesHistory : ServesAt "/api/v5/market/history-candles" history
  strict : (candles history).Pairwise fun a b => a.timestamp < b.timestamp
  part : recent <:+ history

theorem Endpoints.candles_part (endpoints : Endpoints recent history) :
    candles recent <:+ candles history := endpoints.part.map _

/-- What the first request brings, when a second may follow. -/
def batch (recent : List (Served adapter marketType apiSymbol interval)) (startTime : Option ℤ)
    (limit : ℕ) : List Candle :=
  (known startTime (candles recent)).rtake (min limit perReq)

theorem Endpoints.fetchRecent_batch (endpoints : Endpoints recent history) {startTime : Option ℤ}
    (positive : ∀ s ∈ startTime, 0 < s) (limit : ℕ) :
    fetchRecent adapter marketType apiSymbol interval startTime none (min limit perReq) =
      .ok (batch recent startTime limit) := by
  rw [fetchRecent_eq endpoints.servesRecent
    (endpoints.strict.sublist endpoints.candles_part.sublist) positive, min_assoc, min_self, batch]

theorem Endpoints.batch_part (endpoints : Endpoints recent history) (startTime : Option ℤ)
    (limit : ℕ) : batch recent startTime limit <:+ known startTime (candles history) :=
  (rtake_suffix _ _).trans (known_suffix startTime endpoints.candles_part)

end Stitch

end Upstream

section Call
variable {adapter : Adapter} {marketType : MarketType} {symbol interval : String}
  {recent history : List (Served adapter marketType (adapter.resolveSymbol symbol marketType)
    interval)} {startTime : Option ℤ} {limit : ℕ}

theorem getCandles_single (endpoints : Endpoints recent history) (small : limit ≤ perReq)
    (wanted : 1 ≤ limit) : getCandles adapter marketType symbol interval none limit =
      .ok ((candles recent).rtake limit) := by
  have strict := endpoints.strict.sublist endpoints.candles_part.sublist
  simp only [getCandles, small, and_self, if_true,
    fetchRecent_eq endpoints.servesRecent strict (by simp : ∀ s ∈ (none : Option ℤ), 0 < s),
    Except.map, known, Option.elim_none, Nat.min_eq_left small, lastSlice]
  rw [if_neg (by omega), rtake_of_length_le]
  rw [length_rtake]
  omega

/-- What a call does with its first batch. -/
theorem getCandles_batch (endpoints : Endpoints recent history)
    (positive : ∀ s ∈ startTime, 0 < s) (several : ¬ (startTime = none ∧ limit ≤ perReq)) :
    getCandles adapter marketType symbol interval startTime limit =
      match batch recent startTime limit with
      | [] => paginateBackwards Candle.timestamp id
          (fun _ => fetchHistory adapter marketType (adapter.resolveSymbol symbol marketType)
            interval startTime) historyPerReq limit
      | oldest :: rest =>
        if limit ≤ (oldest :: rest).length then .ok (lastSlice limit (oldest :: rest))
        else
          (paginateBackwards Candle.timestamp id
            (fun _ => fetchHistory adapter marketType (adapter.resolveSymbol symbol marketType)
              interval (if oldest.timestamp = 1 then none else some (oldest.timestamp - 1)))
            historyPerReq (limit - (oldest :: rest).length)).map fun historyBatch =>
              lastSlice limit (sortByTime Candle.timestamp
                (byTimestamp (historyBatch ++ oldest :: rest)).values) := by
  simp only [getCandles, if_neg several, endpoints.fetchRecent_batch positive]
  cases batch recent startTime limit with
  | nil => rfl
  | cons oldest rest =>
    simp only
    rw [← fetchHistory_older startTime oldest.timestamp]

/-- Without recent candles the history has everything. -/
theorem getCandles_empty (endpoints : Endpoints recent history)
    (positive : ∀ s ∈ startTime, 0 < s) (several : ¬ (startTime = none ∧ limit ≤ perReq))
    (wanted : 1 ≤ limit) (empty : batch recent startTime limit = [])
    (reach : min limit (known startTime (candles history)).length ≤
      historyPerReq + 99 * (historyPerReq - 1)) :
    getCandles adapter marketType symbol interval startTime limit =
        .ok ((known startTime (candles history)).rtake limit) ∧
      Stitches (candles recent) (candles history) startTime limit := by
  obtain ⟨newer, -, -, paged, all⟩ :=
    paginate_history endpoints.servesHistory endpoints.strict positive wanted
  have returned : getCandles adapter marketType symbol interval startTime limit =
      .ok ((known startTime (candles history)).rtake limit) := by
    rw [getCandles_batch endpoints positive several, empty]
    simp only
    rw [paged, all reach]
  refine ⟨returned, ?_⟩
  have none : known startTime (candles recent) = [] := by
    have size := congrArg List.length empty
    rw [batch, length_rtake, List.length_nil, perReq] at size
    exact List.length_eq_zero_iff.mp (by omega)
  cases startTime with
  | none => exact fun small => absurd ⟨rfl, small⟩ several
  | some start =>
    rintro ⟨c, member, first⟩
    have early : c ∈ known (some start) (candles recent) := by
      refine List.mem_filter.mpr ⟨member, decide_eq_true ?_⟩
      have later := positive start rfl
      omega
    rw [none] at early
    cases early

/-- A batch of all that is wanted is the answer. -/
theorem getCandles_full (endpoints : Endpoints recent history)
    (positive : ∀ s ∈ startTime, 0 < s) (several : ¬ (startTime = none ∧ limit ≤ perReq))
    (wanted : 1 ≤ limit) (full : limit ≤ (batch recent startTime limit).length) :
    getCandles adapter marketType symbol interval startTime limit =
        .ok ((known startTime (candles history)).rtake limit) ∧
      Stitches (candles recent) (candles history) startTime limit := by
  constructor
  · rw [getCandles_batch endpoints positive several]
    obtain ⟨older, split⟩ := endpoints.batch_part startTime limit
    rw [← split, rtake_append_of_le full]
    cases shape : batch recent startTime limit with
    | nil =>
      rw [shape, List.length_nil] at full
      omega
    | cons oldest rest =>
      rw [shape] at full
      simp only
      rw [if_pos full, lastSlice, if_neg (by omega)]
  · rw [batch, length_rtake] at full
    cases startTime with
    | none => exact fun small => absurd ⟨rfl, small⟩ several
    | some start =>
      have enough : limit ≤ (upTo Candle.timestamp start (candles recent)).length := by
        rw [known, Option.elim_some] at full
        omega
      exact fun _ => .inl enough

section Seam
variable {oldest : Candle} {rest older : List Candle}

theorem Endpoints.strict_known (endpoints : Endpoints recent history) (startTime : Option ℤ) :
    (known startTime (candles history)).Pairwise fun a b => a.timestamp < b.timestamp :=
  endpoints.strict.sublist (known_sublist _ _)

theorem Endpoints.positive_oldest (endpoints : Endpoints recent history)
    (shape : batch recent startTime limit = oldest :: rest) : 0 < oldest.timestamp :=
  candles_positive history oldest ((known_sublist startTime _).mem
    ((endpoints.batch_part startTime limit).mem (shape ▸ List.mem_cons_self)))

/-- What precedes the batch is the history up to the moment before it. -/
theorem Endpoints.known_older (endpoints : Endpoints recent history)
    (split : known startTime (candles history) = older ++ oldest :: rest) :
    known (some (oldest.timestamp - 1)) (candles history) = older := by
  have member : oldest ∈ known startTime (candles history) := by simp [split]
  have within : ∀ s ∈ startTime, oldest.timestamp - 1 ≤ s := by
    intro s own
    have early := le_of_mem_known member s own
    omega
  have strict := endpoints.strict_known startTime
  rw [split] at strict
  rw [known, Option.elim_some, ← upTo_known within, split, upTo_before strict]

/-- A batch that is too short is joined to the history before it. -/
theorem getCandles_older (endpoints : Endpoints recent history)
    (positive : ∀ s ∈ startTime, 0 < s) (several : ¬ (startTime = none ∧ limit ≤ perReq))
    (shape : batch recent startTime limit = oldest :: rest)
    (short : (oldest :: rest).length < limit) (later : oldest.timestamp ≠ 1)
    (reach : min limit (known startTime (candles history)).length ≤
      (oldest :: rest).length + (historyPerReq + 99 * (historyPerReq - 1))) :
    getCandles adapter marketType symbol interval startTime limit =
        .ok ((known startTime (candles history)).rtake limit) ∧
      Stitches (candles recent) (candles history) startTime limit := by
  have early := endpoints.positive_oldest shape
  constructor
  · obtain ⟨older, split⟩ := endpoints.batch_part startTime limit
    rw [shape] at split
    have before := endpoints.known_older split.symm
    have anchored : ∀ s ∈ some (oldest.timestamp - 1), 0 < s := by
      rintro s own
      cases own
      omega
    obtain ⟨newer, -, -, paged, all⟩ := paginate_history endpoints.servesHistory endpoints.strict
      anchored (by omega : 0 < limit - (oldest :: rest).length)
    have strict := endpoints.strict_known startTime
    rw [← split] at strict reach ⊢
    rw [before] at all
    rw [List.length_append] at reach
    rw [getCandles_batch endpoints positive several, shape]
    simp only
    rw [if_neg (by omega), if_neg later, paged, all (by omega), Except.map, joined_eq strict short]
  · cases startTime with
    | none => exact fun small => absurd ⟨rfl, small⟩ several
    | some start =>
      rintro ⟨c, member, first⟩
      by_cases enough : limit ≤ (upTo Candle.timestamp start (candles recent)).length
      · exact .inl enough
      · by_cases more : perReq < (upTo Candle.timestamp start (candles recent)).length
        · exact .inr (.inl more)
        · have whole : upTo Candle.timestamp start (candles recent) = oldest :: rest := by
            rw [← shape, batch, known, Option.elim_some, rtake_of_length_le (by omega)]
          have inside : c ∈ oldest :: rest := by
            rw [← whole]
            refine List.mem_filter.mpr ⟨member, decide_eq_true ?_⟩
            have later := positive start rfl
            omega
          have strict := (endpoints.strict_known (some start)).sublist
            (endpoints.batch_part (some start) limit).sublist
          rw [shape] at strict
          rcases List.mem_cons.mp inside with rfl | behind
          · exact absurd first later
          · have after := (List.pairwise_cons.mp strict).1 c behind
            omega

/-- When the batch begins at the first millisecond, the history is asked for
without an anchor. -/
theorem getCandles_first (endpoints : Endpoints recent history)
    (positive : ∀ s ∈ startTime, 0 < s) (several : ¬ (startTime = none ∧ limit ≤ perReq))
    (shape : batch recent startTime limit = oldest :: rest)
    (short : (oldest :: rest).length < limit) (first : oldest.timestamp = 1) :
    getCandles adapter marketType symbol interval startTime limit =
        .ok ((known startTime (candles history)).rtake limit) ↔
      Stitches (candles recent) (candles history) startTime limit := by
  have strict := endpoints.strict_known startTime
  have whole : known startTime (candles history) = oldest :: rest := by
    obtain ⟨older, split⟩ := endpoints.batch_part startTime limit
    rw [shape] at split
    cases older with
    | nil => exact split.symm
    | cons c older =>
      have early := candles_positive history c ((known_sublist startTime _).mem
        (split ▸ List.mem_cons_self))
      rw [← split] at strict
      have before := (List.pairwise_append.mp strict).2.2 c List.mem_cons_self oldest
        List.mem_cons_self
      omega
  obtain ⟨newer, part, some', paged, -⟩ := paginate_history endpoints.servesHistory
    endpoints.strict (by simp : ∀ s ∈ (none : Option ℤ), 0 < s)
    (by omega : 0 < limit - (oldest :: rest).length)
  rw [known, Option.elim_none] at part some'
  have inside : ∀ c ∈ newer.rtake (limit - (oldest :: rest).length) ++ oldest :: rest,
      c ∈ candles history := by
    intro c member
    rcases List.mem_append.mp member with own | own
    · exact part.mem ((rtake_suffix _ _).mem own)
    · exact (known_sublist startTime _).mem (whole ▸ own)
  rw [getCandles_batch endpoints positive several, shape]
  simp only
  rw [if_neg (by omega), if_pos first, paged, Except.map, Except.ok.injEq]
  constructor
  · intro same
    cases startTime with
    | none => exact fun small => absurd ⟨rfl, small⟩ several
    | some start =>
      refine fun _ => .inr (.inr fun c member => ?_)
      obtain ⟨latest, last⟩ := Option.isSome_iff_exists.mp
        (List.getLast?_isSome.mpr (some' (List.ne_nil_of_mem member)))
      have lastOfAll : (candles history).getLast? = some latest := by
        obtain ⟨before, split⟩ := part
        rw [← split, List.getLast?_append_of_ne_nil _ (some' (List.ne_nil_of_mem member)), last]
      have collected : latest ∈ newer.rtake (limit - (oldest :: rest).length) := by
        have size := List.length_pos_of_mem (List.mem_of_getLast? last)
        refine List.mem_of_getLast? ?_
        rw [List.rtake, List.getLast?_drop, if_neg (by omega), last]
      have returned := latest_returned endpoints.strict inside lastOfAll
        (List.mem_append_left _ collected) (by omega : 1 ≤ limit)
      rw [same] at returned
      have early := le_of_mem_known ((rtake_suffix _ _).mem returned) start rfl
      obtain ⟨before, split⟩ := List.getLast?_eq_some_iff.mp lastOfAll
      have ordered := endpoints.strict
      rw [split] at ordered member
      rcases List.mem_append.mp member with older | same
      · have after := (List.pairwise_append.mp ordered).2.2 c older latest List.mem_cons_self
        omega
      · rwa [List.mem_singleton.mp same]
  · intro stitches
    have within : ∀ c ∈ candles history, ∀ s ∈ startTime, c.timestamp ≤ s := by
      cases startTime with
      | none => simp
      | some start =>
        have recentPart := (known_suffix (some start) endpoints.candles_part).length_le
        have own : oldest ∈ candles recent := (known_sublist (some start) _).mem
          ((rtake_suffix _ _).mem (shape ▸ List.mem_cons_self :
            oldest ∈ batch recent (some start) limit))
        have capped := congrArg List.length shape
        rw [batch, length_rtake] at capped
        rw [whole, known, Option.elim_some] at recentPart
        rcases stitches ⟨oldest, own, first⟩ with enough | more | within
        · omega
        · omega
        · rintro c member s own
          cases own
          exact within c member
    have all : known startTime (candles history) = candles history := by
      cases startTime with
      | none => rfl
      | some start => exact upTo_eq_self fun c member => within c member start rfl
    have collected := sort_byTimestamp endpoints.strict fun c =>
      ⟨inside c, fun member => List.mem_append_right _ (whole ▸ all.symm ▸ member)⟩
    rw [collected, all, lastSlice, if_neg (by omega)]

end Seam

/-- What the pages of the history reach: a hundred candles, and ninety-nine more
on each of the other pages. -/
def Reaches (recent history : List (Served adapter marketType
    (adapter.resolveSymbol symbol marketType) interval)) (startTime : Option ℤ) (limit : ℕ) : Prop :=
  min limit (known startTime (candles history)).length ≤
    (batch recent startTime limit).length + (historyPerReq + 99 * (historyPerReq - 1))

/-- The newest candles of the history are returned exactly when the recent
endpoint and the history stitch together. -/
theorem getCandles_stitches_iff (endpoints : Endpoints recent history)
    (positive : ∀ s ∈ startTime, 0 < s) (wanted : 1 ≤ limit)
    (reaches : Reaches recent history startTime limit) :
    getCandles adapter marketType symbol interval startTime limit =
        .ok ((known startTime (candles history)).rtake limit) ↔
      Stitches (candles recent) (candles history) startTime limit := by
  by_cases single : startTime = none ∧ limit ≤ perReq
  · obtain ⟨rfl, small⟩ := single
    rw [getCandles_single endpoints small wanted, Except.ok.injEq, known, Option.elim_none,
      rtake_suffix_iff endpoints.candles_part, Stitches]
    exact ⟨fun enough _ => enough, fun enough => enough small⟩
  · unfold Reaches at reaches
    cases shape : batch recent startTime limit with
    | nil =>
      rw [shape, List.length_nil, Nat.zero_add] at reaches
      obtain ⟨returned, stitches⟩ := getCandles_empty endpoints positive single wanted shape reaches
      exact iff_of_true returned stitches
    | cons oldest rest =>
      by_cases full : limit ≤ (oldest :: rest).length
      · obtain ⟨returned, stitches⟩ :=
          getCandles_full endpoints positive single wanted (shape ▸ full)
        exact iff_of_true returned stitches
      · by_cases first : oldest.timestamp = 1
        · exact getCandles_first endpoints positive single shape (not_le.mp full) first
        · rw [shape] at reaches
          obtain ⟨returned, stitches⟩ :=
            getCandles_older endpoints positive single shape (not_le.mp full) first reaches
          exact iff_of_true returned stitches

end Call

section Hours

def hour (n : ℕ) : ℤ := 1700000000000 + 3600000 * n

/-- A spot candle of Bitcoin, as sent and as parsed. -/
def hourRow (n : ℕ) : Json := .arr [.num (hour n), .num 1, .num 2, .num 1, .num 2, .num 7]

def hourCandle (n : ℕ) : Candle where
  symbol := okxModelSymbol "BTC-USDT"
  marketType := .spot
  quote := ""
  interval := "1h"
  timestamp := hour n
  «open» := 1
  high := 2
  low := 1
  close := 2
  volume := ⟨7, .base, none, 7 * 2, ⟨.close, none, none, unpaired⟩, unsized⟩

/-- An upstream with these hours. -/
def hourAdapter (recent history : List ℕ) : Adapter where
  text := noTexts
  iso _ := none
  resolveSymbol symbol _ := symbol
  infoFor _ _ := none
  makeRequest endpoint query :=
    let hours := if endpoint = "/api/v5/market/candles" then recent else history
    .ok (.arr (((query.after.elim hours fun t => hours.filter fun n => hour n < t).rtake
      query.limit).map hourRow))

def hourServed (recent history : List ℕ) (n : ℕ) :
    Served (hourAdapter recent history) .spot "BTC-USDT" "1h" where
  row := hourRow n
  candle := hourCandle n
  parses := by
    have time : normalizeTimestamp noTexts (fun _ => none) (.num (hour n)) = .ok (hour n) :=
      normalizeTimestamp_ms _ _ (by rw [hour]; omega)
    have later : ¬ hour n ≤ 0 := by rw [hour]; omega
    have read : readRow (hourAdapter recent history) .spot "BTC-USDT" "1h"
        [.num (hour n), .num 1, .num 2, .num 1, .num 2, .num 7] = .ok (some (hourCandle n)) := by
      rw [readRow, bind_eq_ok]
      exact ⟨hour n, time, by rw [if_neg later]; rfl⟩
    simp [parseRow, hourRow, read]

theorem hours_serve (recent history hours : List ℕ) (endpoint : String)
    (own : hours = if endpoint = "/api/v5/market/candles" then recent else history) :
    ServesAt endpoint (hours.map (hourServed recent history)) := by
  intro limit after
  refine ⟨_, rfl, ?_⟩
  rw [← own, newest, ← map_rtake]
  cases after with
  | none =>
    rw [Option.elim_none, Option.elim_none, map_rtake, map_rtake, List.map_map]
    exact .refl _
  | some t =>
    rw [Option.elim_some, Option.elim_some, List.filter_map, map_rtake, map_rtake, List.map_map]
    exact .refl _

theorem hours_endpoints {recent history : List ℕ} (part : recent <:+ history)
    (strict : history.Pairwise (· < ·)) :
    Endpoints (recent.map (hourServed recent history)) (history.map (hourServed recent history)) where
  servesRecent := hours_serve recent history recent _ rfl
  servesHistory := hours_serve recent history history _ rfl
  strict := by
    rw [candles, List.map_map]
    refine List.pairwise_map.mpr (strict.imp fun {a b} earlier => ?_)
    simp only [Function.comp_apply, hourServed, hourCandle, hour]
    omega
  part := part.map _

/-- The older hour comes from the history. -/
theorem getCandles_stitches_iff_seam :
    getCandles (hourAdapter [1] [0, 1]) .spot "BTC-USDT" "1h" (some (hour 1)) 2 =
      .ok [hourCandle 0, hourCandle 1] := by
  have endpoints := hours_endpoints (by decide : [1] <:+ [0, 1]) (by decide)
  have later : ¬ ∃ c ∈ candles ([1].map (hourServed [1] [0, 1])), c.timestamp = 1 := by
    simp [candles, hourServed, hourCandle, hour]
  exact (getCandles_stitches_iff endpoints (by simp [hour]) (by decide)
    (by unfold Reaches; decide)).mpr fun first => absurd first later

/-- Two candles are asked for, and the recent endpoint has one. -/
theorem single_request_short : ¬ ∀ (adapter : Adapter) (marketType : MarketType)
    (symbol interval : String) (recent history : List (Served adapter marketType
      (adapter.resolveSymbol symbol marketType) interval)) (startTime : Option ℤ) (limit : ℕ),
    Endpoints recent history → (∀ s ∈ startTime, 0 < s) → 1 ≤ limit →
    Reaches recent history startTime limit →
    getCandles adapter marketType symbol interval startTime limit =
      .ok ((known startTime (candles history)).rtake limit) := by
  intro claimed
  have endpoints := hours_endpoints (by decide : [1] <:+ [0, 1]) (by decide)
  have full := claimed _ .spot "BTC-USDT" "1h" _ _ none 2 endpoints (by simp) (by decide)
    (by unfold Reaches; decide)
  rw [getCandles_single endpoints (by decide) (by decide), Except.ok.injEq] at full
  exact absurd (congrArg List.length full) (by decide)

end Hours
end ExchangeRouter.Okx.Candles
