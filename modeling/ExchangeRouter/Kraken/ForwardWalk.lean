import ExchangeRouter.Kraken.Candles

/-!
# The forward walk over gap-free candles

Which candles the pages of the walk bring, and when the newest ones are among
them.
-/
namespace ExchangeRouter.Kraken.Candles
open Lib OrderBooks Records History InfoCache

section Upstream
variable (adapter : Adapter) (marketType : MarketType) (symbol interval : String)

/-- A row that reads as a candle. -/
structure Served where
  row : Json
  candle : Candle
  time : rowTime adapter row = .ok candle.timestamp
  reads : rowCandle adapter marketType symbol interval candle.timestamp row = .ok candle

variable {adapter marketType symbol interval}

def candles (rows : List (Served adapter marketType symbol interval)) : List Candle :=
  rows.map Served.candle

def Served.openTime (r : Served adapter marketType symbol interval) : ℤ := r.candle.timestamp

/-- The chart endpoint answers with the earliest `pageSize` rows from a second on. -/
def Serves (pageSize : ℕ) (rows : List (Served adapter marketType symbol interval)) : Prop :=
  ∀ fromTs, ∃ data,
    adapter.makeRequest (url adapter marketType symbol interval) fromTs = .ok data ∧
      data.getD "candles" (.arr []) =
        .ok (.arr (((since Served.openTime (1000 * fromTs) rows).take pageSize).map Served.row))

/-- Rows with times of their own are all added. -/
theorem addRows_new (rows : List (Served adapter marketType symbol interval)) (batch : Batch)
    (distinct : (rows.map Served.openTime).Nodup)
    (new : ∀ r ∈ rows, r.openTime ∉ batch.seenTs) :
    addRows adapter marketType symbol interval (rows.map Served.row) batch =
      .ok ⟨batch.allCandles ++ candles rows,
        batch.seenTs ∪ (rows.map Served.openTime).toFinset, batch.added + rows.length,
        (rows.getLast?.map fun r => r.openTime / 1000).getD batch.lastTsSecs⟩ := by
  induction rows generalizing batch with
  | nil => simp [addRows, candles]
  | cons r rest ih =>
    have own : r.candle.timestamp ∉ batch.seenTs := new r List.mem_cons_self
    obtain ⟨apart, later⟩ := List.nodup_cons.mp distinct
    have stillNew : ∀ q ∈ rest, q.openTime ∉ insert r.candle.timestamp batch.seenTs := by
      intro q member known
      rcases Finset.mem_insert.mp known with same | before
      · exact apart (List.mem_map.mpr ⟨q, member, same⟩)
      · exact new q (List.mem_cons_of_mem r member) before
    rw [List.map_cons, addRows, r.time]
    simp only [if_neg own, r.reads]
    rw [ih _ later stillNew]
    congr 2
    · simp [candles]
    · simp [Served.openTime, Finset.insert_union, Finset.union_insert]
    · simp only [List.length_cons]
      omega
    · cases rest with
      | nil => rfl
      | cons q rest => rfl

/-- Rows one interval apart, at whole seconds. -/
structure GapFree (intervalSecs : ℤ) (rows : List (Served adapter marketType symbol interval)) :
    Prop where
  spaced : Spaced Served.openTime (1000 * intervalSecs) rows
  multiples : ∀ r ∈ rows, 1000 * intervalSecs ∣ r.openTime

section Walk
variable {intervalSecs anchorSecs : ℤ} {pageSize : ℕ}
  {rows early done low high : List (Served adapter marketType symbol interval)}

theorem GapFree.strict (gapFree : GapFree intervalSecs rows) (positive : 0 < intervalSecs) :
    rows.Pairwise fun a b => a.openTime < b.openTime :=
  gapFree.spaced.strict (by omega)

/-- The second after a row is where the rows behind it begin. -/
theorem GapFree.since_next (positive : 0 < intervalSecs) {before after :
    List (Served adapter marketType symbol interval)} {r : Served adapter marketType symbol interval}
    (gapFree : GapFree intervalSecs (before ++ r :: after)) :
    since Served.openTime (1000 * (r.openTime / 1000 + intervalSecs)) (before ++ r :: after) =
      after := by
  have whole : 1000 * (r.openTime / 1000) = r.openTime :=
    Int.mul_ediv_cancel' ((Int.dvd_mul_right 1000 intervalSecs).trans
      (gapFree.multiples r (by simp)))
  rw [mul_add, whole, gapFree.spaced.since_next (by omega)]

/-- A page of the walk. -/
theorem walk_page (serves : Serves pageSize rows)
    {page : List (Served adapter marketType symbol interval)} {fromTs : ℤ} {last : Served adapter marketType symbol interval}
    (strict : rows.Pairwise fun a b => a.openTime < b.openTime)
    (part : (done ++ page).Sublist rows)
    (shown : (since Served.openTime (1000 * fromTs) rows).take pageSize = page)
    (ends : page.getLast? = some last) (left : ℕ) :
    walk adapter marketType symbol interval intervalSecs anchorSecs (left + 1) fromTs (candles done)
        (done.map Served.openTime).toFinset =
      if anchorSecs - intervalSecs ≤ last.openTime / 1000 then .ok (candles (done ++ page))
      else walk adapter marketType symbol interval intervalSecs anchorSecs left
        (last.openTime / 1000 + intervalSecs) (candles (done ++ page))
        ((done ++ page).map Served.openTime).toFinset := by
  have distinct : ((done ++ page).map Served.openTime).Nodup :=
    List.pairwise_map.mpr ((strict.sublist part).imp fun earlier => earlier.ne)
  rw [List.map_append] at distinct
  obtain ⟨-, own, apart⟩ := List.nodup_append.mp distinct
  obtain ⟨data, answered, read⟩ := serves fromTs
  rw [shown] at read
  have some' : page ≠ [] := List.ne_nil_of_mem (List.mem_of_getLast? ends)
  have size := List.length_pos_of_ne_nil some'
  have new : ∀ r ∈ page, r.openTime ∉ (done.map Served.openTime).toFinset := by
    intro r member known
    exact apart _ (List.mem_toFinset.mp known) _ (List.mem_map_of_mem member) rfl
  have added := addRows_new page ⟨candles done, (done.map Served.openTime).toFinset, 0, fromTs⟩
    own new
  have joined : candles done ++ candles page = candles (done ++ page) := (List.map_append).symm
  simp only [walk, answered, read, List.isEmpty_map, List.isEmpty_eq_false_iff.mpr some',
    Bool.false_eq_true, if_false, added, ends, Option.map_some, Option.getD_some, Nat.zero_add,
    Nat.ne_of_gt size, false_or, joined, List.map_append, List.toFinset_append]

/-- The walk brings whole pages, up to the first that ends within an interval of
the anchor. -/
theorem walk_collects (positive : 0 < intervalSecs) (sized : 1 ≤ pageSize)
    (serves : Serves pageSize rows) (gapFree : GapFree intervalSecs rows) {fromTs : ℤ}
    (shape : rows = early ++ (done ++ (low ++ high)))
    (ready : since Served.openTime (1000 * fromTs) rows = low ++ high)
    (lows : ∀ r ∈ low, r.openTime / 1000 < anchorSecs - intervalSecs)
    (highs : ∀ r ∈ high, anchorSecs - intervalSecs ≤ r.openTime / 1000) (more : high ≠ [])
    {left : ℕ} (few : low.length / pageSize < left) :
    walk adapter marketType symbol interval intervalSecs anchorSecs left fromTs (candles done)
        (done.map Served.openTime).toFinset =
      .ok (candles (done ++ (low ++ high).take (pageSize * (low.length / pageSize + 1)))) := by
  have strict := gapFree.strict positive
  induction left generalizing fromTs done low with
  | zero => exact absurd few (Nat.not_lt_zero _)
  | succ left ih =>
    have part : (done ++ (low ++ high).take pageSize).Sublist rows := by
      rw [shape]
      exact ((List.Sublist.refl done).append (List.take_sublist _ _)).trans
        (List.sublist_append_right _ _)
    have shown : (since Served.openTime (1000 * fromTs) rows).take pageSize =
        (low ++ high).take pageSize := by rw [ready]
    by_cases short : low.length < pageSize
    · have split : (low ++ high).take pageSize = low ++ high.take (pageSize - low.length) := by
        rw [List.take_append, List.take_of_length_le short.le]
      have reached : high.take (pageSize - low.length) ≠ [] := by
        simp only [ne_eq, List.take_eq_nil_iff, more, or_false]
        omega
      obtain ⟨last, ends⟩ := Option.isSome_iff_exists.mp (List.getLast?_isSome.mpr reached)
      have late := highs last (List.mem_of_mem_take (List.mem_of_getLast? ends))
      have lastOfPage : ((low ++ high).take pageSize).getLast? = some last := by
        rw [split, List.getLast?_append_of_ne_nil _ reached, ends]
      rw [walk_page serves strict part shown lastOfPage, if_pos late,
        Nat.div_eq_of_lt short, Nat.zero_add, Nat.mul_one]
    · obtain ⟨page, rest, rfl, size⟩ : ∃ page rest, low = page ++ rest ∧ page.length = pageSize :=
        ⟨low.take pageSize, low.drop pageSize, (List.take_append_drop _ _).symm,
          List.length_take_of_le (not_lt.mp short)⟩
      rw [List.append_assoc] at shape ready
      have full : (page ++ rest ++ high).take pageSize = page := by
        rw [List.append_assoc, List.take_left' size]
      obtain ⟨last, ends⟩ := Option.isSome_iff_exists.mp
        (List.getLast?_isSome.mpr (List.ne_nil_of_length_pos (by omega : 0 < page.length)))
      obtain ⟨before, rfl⟩ := List.getLast?_eq_some_iff.mp ends
      have reached := lows last (by simp)
      have next : rows = (early ++ done ++ before) ++ last :: (rest ++ high) := by simp [shape]
      have again := (next ▸ gapFree).since_next positive
      rw [← next] at again
      have shape' : rows = early ++ (done ++ (before ++ [last]) ++ (rest ++ high)) := by
        simp [shape]
      have pages : ((before ++ [last]) ++ rest).length / pageSize = rest.length / pageSize + 1 := by
        rw [List.length_append, size, Nat.add_div_left _ sized]
      have amount : pageSize * (rest.length / pageSize + 1 + 1) =
          pageSize + pageSize * (rest.length / pageSize + 1) := by rw [Nat.mul_succ, Nat.add_comm]
      rw [walk_page serves strict part shown (full.symm ▸ ends), if_neg (not_le.mpr reached), full,
        ih shape' again (fun r member => lows r (List.mem_append_right _ member)) (by omega),
        pages, amount, List.append_assoc done, List.append_assoc (before ++ [last]), List.take_add,
        List.take_left' size, List.drop_left' size]

end Walk

section Anchor
variable {intervalSecs start : ℤ} {pageSize limit : ℕ}
  {rows low high : List (Served adapter marketType symbol interval)}

/-- The last candle opens in the current interval. -/
def UpToNow (intervalSecs : ℤ) (rows : List (Served adapter marketType symbol interval)) : Prop :=
  ∀ newest ∈ rows.getLast?, newest.openTime ≤ 1000 * adapter.nowSecs ∧
    1000 * adapter.nowSecs < newest.openTime + 1000 * intervalSecs

theorem UpToNow.suffix (current : UpToNow intervalSecs rows) (part : high <:+ rows) :
    UpToNow intervalSecs high := by
  obtain ⟨early, rfl⟩ := part
  intro newest ends
  have some' : high ≠ [] := List.ne_nil_of_mem (List.mem_of_getLast? ends)
  exact current newest (by rw [List.getLast?_append_of_ne_nil _ some']; exact ends)

/-- The rows from `from_ts` on. -/
def asked (intervalSecs start : ℤ) (limit : ℕ)
    (rows : List (Served adapter marketType symbol interval)) :
    List (Served adapter marketType symbol interval) :=
  since Served.openTime (1000 * (start / 1000 - limit * intervalSecs)) rows

/-- The rows the walk passes on its way to the anchor. -/
def passed (intervalSecs start : ℤ) (limit : ℕ)
    (rows : List (Served adapter marketType symbol interval)) :
    List (Served adapter marketType symbol interval) :=
  upTo Served.openTime (1000 * (start / 1000) - 1) (asked intervalSecs start limit rows)

/-- How many rows the pages hold, up to the first that ends within an interval of
the anchor. -/
def walkedRows (intervalSecs start : ℤ) (pageSize : ℕ)
    (rows : List (Served adapter marketType symbol interval)) : ℕ :=
  pageSize * ((upTo Served.openTime (1000 * (start / 1000 - intervalSecs) - 1) rows).length /
    pageSize + 1)

theorem GapFree.suffix (gapFree : GapFree intervalSecs rows) (part : high <:+ rows) :
    GapFree intervalSecs high where
  spaced := List.IsChain.suffix gapFree.spaced part
  multiples r member := gapFree.multiples r (part.mem member)

/-- Up to a start that is not in the future, the last candle is less than an
interval old. -/
theorem GapFree.last_near (gapFree : GapFree intervalSecs rows) (positive : 0 < intervalSecs)
    (current : UpToNow intervalSecs rows) (past : start < 1000 * (adapter.nowSecs + 1))
    {last : Served adapter marketType symbol interval}
    (ends : (upTo Served.openTime start rows).getLast? = some last) :
    last.openTime ≤ start ∧ start < last.openTime + 1000 * intervalSecs := by
  have ascending : Ascending Served.openTime rows :=
    (gapFree.strict positive).imp fun earlier => earlier.le
  refine ⟨le_of_mem_upTo (List.mem_of_getLast? ends), ?_⟩
  obtain ⟨before, split⟩ := List.getLast?_eq_some_iff.mp ends
  obtain ⟨late, whole⟩ := ascending.prefix_upTo start
  cases late with
  | nil =>
    rw [List.append_nil] at whole
    rw [whole] at ends
    obtain ⟨n, multiple⟩ := gapFree.multiples last (List.mem_of_getLast? ends)
    have now := (current last ends).2
    rw [multiple, mul_assoc] at now ⊢
    omega
  | cons next after =>
    have spaced := gapFree.spaced
    rw [← whole, split, List.append_assoc] at spaced
    have follows : next.openTime = last.openTime + 1000 * intervalSecs :=
      (List.isChain_cons_cons.mp spaced.right_of_append).1
    have distinct := gapFree.strict positive
    rw [← whole] at distinct
    by_contra far
    have early : next ∈ upTo Served.openTime start rows := by
      refine List.mem_filter.mpr ⟨whole ▸ by simp, decide_eq_true ?_⟩
      omega
    exact lt_irrefl _ ((List.pairwise_append.mp distinct).2.2 next early next List.mem_cons_self)

/-- The newest `limit` candles are among those asked for. -/
theorem GapFree.asked_enough (gapFree : GapFree intervalSecs rows) (positive : 0 < intervalSecs)
    (current : UpToNow intervalSecs rows) (past : start < 1000 * (adapter.nowSecs + 1))
    (wanted : 1 ≤ limit) (enough : limit ≤ (upTo Served.openTime start rows).length) :
    limit ≤ (upTo Served.openTime start (asked intervalSecs start limit rows)).length := by
  have ascending : Ascending Served.openTime rows :=
    (gapFree.strict positive).imp fun earlier => earlier.le
  obtain ⟨early, split, before⟩ := ascending.split_since
    (1000 * (start / 1000 - limit * intervalSecs))
  by_contra short
  obtain ⟨last, ends⟩ := Option.isSome_iff_exists.mp (List.getLast?_isSome.mpr
    (List.ne_nil_of_length_pos (lt_of_lt_of_le wanted enough)))
  have near := gapFree.last_near positive current past ends
  have known : upTo Served.openTime start rows = upTo Served.openTime start early ++
      upTo Served.openTime start (asked intervalSecs start limit rows) := by
    nth_rewrite 1 [split]
    exact upTo_append _ _ _ _
  rw [known] at enough ends
  cases shape : (upTo Served.openTime start early).getLast? with
  | none =>
    rw [List.getLast?_eq_none_iff.mp shape, List.nil_append] at enough
    exact short enough
  | some r =>
    obtain ⟨older, whole⟩ := List.getLast?_eq_some_iff.mp shape
    have spaced : Spaced Served.openTime (1000 * intervalSecs)
        (r :: upTo Served.openTime start (asked intervalSecs start limit rows)) := by
      have all := List.IsChain.prefix gapFree.spaced (ascending.prefix_upTo start)
      rw [known, whole, List.append_assoc] at all
      exact all.right_of_append
    rw [whole, List.append_assoc, List.singleton_append, List.getLast?_append_cons] at ends
    have span := spaced.time_last ends
    have old := before r (List.mem_filter.mp (List.mem_of_getLast? shape)).1
    have few : ((upTo Served.openTime start (asked intervalSecs start limit rows)).length : ℤ) *
        (1000 * intervalSecs) ≤ (limit - 1) * (1000 * intervalSecs) :=
      mul_le_mul_of_nonneg_right (by omega) (by omega)
    have unfolded : ((limit : ℤ) - 1) * (1000 * intervalSecs) =
        1000 * (limit * intervalSecs) - 1000 * intervalSecs := by ring
    omega

theorem pages_cover_iff {m pageSize : ℕ} (sized : 1 ≤ pageSize) :
    m + 2 ≤ pageSize * (m / pageSize + 1) ↔ ¬ pageSize ∣ m + 1 := by
  have beyond : m < pageSize * (m / pageSize + 1) := Nat.lt_mul_div_succ m sized
  constructor
  · rintro room ⟨n, whole⟩
    have below : m / pageSize < n := Nat.div_lt_of_lt_mul (by omega)
    have fewer : pageSize * n < pageSize * (m / pageSize + 1) := by omega
    have less := Nat.lt_of_mul_lt_mul_left fewer
    omega
  · intro apart
    by_contra short
    have whole : m + 1 = pageSize * (m / pageSize + 1) := by omega
    exact apart ⟨_, whole⟩

/-- Candles open at multiples of the interval. -/
theorem GapFree.multiple (gapFree : GapFree intervalSecs rows)
    {r : Served adapter marketType symbol interval} (member : r ∈ rows) :
    ∃ n, r.openTime = 1000 * (intervalSecs * n) := by
  obtain ⟨n, multiple⟩ := gapFree.multiples r member
  exact ⟨n, by rw [multiple, mul_assoc]⟩

/-- With an anchor between two candles, one candle opens in the interval before it. -/
theorem GapFree.unaligned (gapFree : GapFree intervalSecs rows) (positive : 0 < intervalSecs)
    (between : ¬ intervalSecs ∣ start / 1000) :
    (upTo Served.openTime start
      (since Served.openTime (1000 * (start / 1000 - intervalSecs)) rows)).length ≤ 1 := by
  have ascending : Ascending Served.openTime rows :=
    (gapFree.strict positive).imp fun earlier => earlier.le
  obtain ⟨early, split, -⟩ := ascending.split_since (1000 * (start / 1000 - intervalSecs))
  have part : upTo Served.openTime start
      (since Served.openTime (1000 * (start / 1000 - intervalSecs)) rows) <:+: rows :=
    ((ascending.suffix ⟨early, split.symm⟩).prefix_upTo start).isInfix.trans
      (List.IsSuffix.isInfix ⟨early, split.symm⟩)
  have spaced : Spaced Served.openTime (1000 * intervalSecs) (upTo Served.openTime start
      (since Served.openTime (1000 * (start / 1000 - intervalSecs)) rows)) :=
    List.IsChain.infix gapFree.spaced part
  refine spaced.length_le (by omega) (1000 * (start / 1000 - intervalSecs) + 1)
    (1000 * (start / 1000)) 1 (fun r member => ?_) (by omega)
  have early := le_of_mem_upTo member
  have late := le_of_mem_since (List.mem_filter.mp member).1
  obtain ⟨n, whole⟩ := gapFree.multiple (part.mem member)
  have below : intervalSecs * n ≠ start / 1000 - intervalSecs := by
    intro same
    exact between ⟨n + 1, by rw [mul_add, same]; ring⟩
  have above : intervalSecs * n ≠ start / 1000 := fun same => between ⟨n, same.symm⟩
  omega

/-- With an anchor at a candle, this one is the last and the passed ones come before. -/
theorem GapFree.aligned (gapFree : GapFree intervalSecs rows) (positive : 0 < intervalSecs)
    (at' : intervalSecs ∣ start / 1000) {before rest : List (Served adapter marketType symbol interval)}
    {last : Served adapter marketType symbol interval} (split : rows = before ++ last :: rest)
    (near : last.openTime ≤ start ∧ start < last.openTime + 1000 * intervalSecs) :
    upTo Served.openTime (1000 * (start / 1000) - 1) rows = before ∧
      (upTo Served.openTime (1000 * (start / 1000 - intervalSecs) - 1) rows).length + 1 =
        max before.length 1 := by
  obtain ⟨n, multiple⟩ := gapFree.multiple (split ▸ by simp : last ∈ rows)
  obtain ⟨k, anchor⟩ := at'
  have step : n = k := by
    have notLater : intervalSecs * n < intervalSecs * (k + 1) := by rw [mul_add]; omega
    have notEarlier : intervalSecs * k < intervalSecs * (n + 1) := by rw [mul_add]; omega
    have upper := lt_of_mul_lt_mul_left notLater positive.le
    have lower := lt_of_mul_lt_mul_left notEarlier positive.le
    omega
  have opens : last.openTime = 1000 * (start / 1000) := by rw [multiple, step, anchor]
  have strict := gapFree.strict positive
  rw [split] at strict
  have passed := upTo_before strict
  rw [opens, ← split] at passed
  refine ⟨passed, ?_⟩
  have within : upTo Served.openTime (1000 * (start / 1000 - intervalSecs) - 1) rows =
      upTo Served.openTime (1000 * (start / 1000 - intervalSecs) - 1) before := by
    rw [← passed, upTo_upTo (by omega)]
  cases shape : before.getLast? with
  | none =>
    rw [within, List.getLast?_eq_none_iff.mp shape]
    rfl
  | some previous =>
    obtain ⟨older, rfl⟩ := List.getLast?_eq_some_iff.mp shape
    have whole : rows = older ++ previous :: last :: rest := by
      rw [split, List.append_assoc, List.singleton_append]
    rw [← split, whole] at strict
    have spaced := gapFree.spaced
    rw [whole] at spaced
    have follows : last.openTime = previous.openTime + 1000 * intervalSecs :=
      (List.isChain_cons_cons.mp spaced.right_of_append).1
    have earlier : previous.openTime = 1000 * (start / 1000 - intervalSecs) := by omega
    have lows := upTo_before strict
    rw [earlier, ← whole] at lows
    rw [lows, List.length_append, List.length_singleton]
    omega

/-- The pages of the walk bring every candle up to the anchor, unless the anchor
is at a candle and a page ends with the one before it. -/
theorem GapFree.pages_bring_iff (gapFree : GapFree intervalSecs rows) (positive : 0 < intervalSecs)
    (sized : 1 ≤ pageSize) {last : Served adapter marketType symbol interval}
    (ends : (upTo Served.openTime start rows).getLast? = some last)
    (near : start < last.openTime + 1000 * intervalSecs) :
    (upTo Served.openTime start rows).length ≤ walkedRows intervalSecs start pageSize rows ↔
      ¬ (intervalSecs ∣ start / 1000 ∧
        upTo Served.openTime (1000 * (start / 1000) - 1) rows ≠ [] ∧
        pageSize ∣ (upTo Served.openTime (1000 * (start / 1000) - 1) rows).length) := by
  unfold walkedRows
  have ascending : Ascending Served.openTime rows :=
    (gapFree.strict positive).imp fun earlier => earlier.le
  by_cases aligned : intervalSecs ∣ start / 1000
  · obtain ⟨before, split⟩ := List.getLast?_eq_some_iff.mp ends
    obtain ⟨late, whole⟩ := ascending.prefix_upTo start
    rw [split, List.append_assoc, List.singleton_append] at whole
    obtain ⟨passed, lows⟩ := gapFree.aligned positive aligned whole.symm
      ⟨le_of_mem_upTo (List.mem_of_getLast? ends), near⟩
    rw [split, passed, List.length_append, List.length_singleton]
    have some' := List.length_pos_iff (l := before)
    cases count : before.length with
    | zero =>
      rw [count] at lows some'
      have none : before = [] := List.length_eq_zero_iff.mp count
      have nothing : (upTo Served.openTime (1000 * (start / 1000 - intervalSecs) - 1) rows).length
          = 0 := by omega
      rw [nothing, Nat.zero_div]
      simp only [none, ne_eq, not_true_eq_false, false_and, and_false, not_false_eq_true, iff_true]
      omega
    | succ m =>
      rw [count] at lows some'
      have same : (upTo Served.openTime (1000 * (start / 1000 - intervalSecs) - 1) rows).length = m :=
        by omega
      rw [same, pages_cover_iff sized]
      simp only [aligned, some'.mp (Nat.succ_pos m), ne_eq, not_false_eq_true, true_and]
  · simp only [aligned, false_and, not_false_eq_true, iff_true]
    have cut := ascending.cut (1000 * (start / 1000 - intervalSecs))
    have few := gapFree.unaligned positive aligned
    have beyond := Nat.lt_mul_div_succ
      (upTo Served.openTime (1000 * (start / 1000 - intervalSecs) - 1) rows).length sized
    have joined : upTo Served.openTime start rows =
        upTo Served.openTime start
          (upTo Served.openTime (1000 * (start / 1000 - intervalSecs) - 1) rows) ++
        upTo Served.openTime start
          (since Served.openTime (1000 * (start / 1000 - intervalSecs)) rows) := by
      nth_rewrite 1 [cut]
      exact upTo_append _ _ _ _
    have shorter : (upTo Served.openTime start
        (upTo Served.openTime (1000 * (start / 1000 - intervalSecs) - 1) rows)).length ≤
        (upTo Served.openTime (1000 * (start / 1000 - intervalSecs) - 1) rows).length :=
      List.length_filter_le _ _
    have size := congrArg List.length joined
    rw [List.length_append] at size
    omega

theorem candles_upTo (start : ℤ) (rows : List (Served adapter marketType symbol interval)) :
    upTo Candle.timestamp start (candles rows) = candles (upTo Served.openTime start rows) := by
  rw [upTo, candles, List.filter_map]
  rfl

theorem candles_strict (strict : rows.Pairwise fun a b => a.openTime < b.openTime) :
    (candles rows).Pairwise fun a b => a.timestamp < b.timestamp :=
  List.pairwise_map.mpr strict

/-- Fewer than `limit` candles lie before the last interval. -/
theorem GapFree.asked_few (gapFree : GapFree intervalSecs rows) (positive : 0 < intervalSecs)
    (start : ℤ) (wanted : 1 ≤ limit) :
    (upTo Served.openTime (1000 * (start / 1000 - intervalSecs) - 1)
      (asked intervalSecs start limit rows)).length ≤ limit - 1 := by
  have ascending : Ascending Served.openTime rows :=
    (gapFree.strict positive).imp fun earlier => earlier.le
  obtain ⟨early, split, -⟩ := ascending.split_since
    (1000 * (start / 1000 - limit * intervalSecs))
  have part : asked intervalSecs start limit rows <:+ rows := ⟨early, split.symm⟩
  have spaced : Spaced Served.openTime (1000 * intervalSecs)
      (upTo Served.openTime (1000 * (start / 1000 - intervalSecs) - 1)
        (asked intervalSecs start limit rows)) :=
    List.IsChain.prefix (List.IsChain.suffix gapFree.spaced part)
      ((ascending.suffix part).prefix_upTo _)
  refine spaced.length_le (by omega) (1000 * (start / 1000 - limit * intervalSecs))
    (1000 * (start / 1000 - intervalSecs)) (limit - 1) (fun r member => ?_) ?_
  · have before := le_of_mem_upTo member
    exact ⟨le_of_mem_since (List.mem_filter.mp member).1, by omega⟩
  · obtain ⟨n, rfl⟩ := Nat.exists_eq_add_of_le' wanted
    push_cast
    ring_nf
    omega

/-- The walk asks for the last candle. -/
theorem asked_last (positive : 0 < intervalSecs) (current : UpToNow intervalSecs rows)
    (past : start < 1000 * (adapter.nowSecs + 1)) (wanted : 1 ≤ limit) (some' : rows ≠ []) :
    since Served.openTime (1000 * (start / 1000 - intervalSecs))
      (asked intervalSecs start limit rows) ≠ [] := by
  obtain ⟨newest, ends⟩ := Option.isSome_iff_exists.mp (List.getLast?_isSome.mpr some')
  have now := (current newest ends).2
  have wide : 1 * intervalSecs ≤ limit * intervalSecs :=
    mul_le_mul_of_nonneg_right (by omega) positive.le
  refine List.ne_nil_of_mem (List.mem_filter.mpr
    ⟨List.mem_filter.mpr ⟨List.mem_of_getLast? ends, decide_eq_true ?_⟩, decide_eq_true ?_⟩)
  · omega
  · omega

/-- What the walk returns: the newest candles of its pages. -/
theorem getCandlesFutures_walked (named : Candles.intervalSecs interval = some intervalSecs)
    (sized : 1 ≤ pageSize) (serves : Serves pageSize rows) (gapFree : GapFree intervalSecs rows)
    (current : UpToNow intervalSecs rows) (positive : 0 < start)
    (past : start < 1000 * (adapter.nowSecs + 1)) (wanted : 1 ≤ limit)
    (pages : limit + 1 ≤ maxPages * pageSize) (some' : rows ≠ []) :
    getCandlesFutures adapter marketType symbol interval (some start) limit =
      .ok ((candles ((upTo Served.openTime start (asked intervalSecs start limit rows)).take
        (walkedRows intervalSecs start pageSize (asked intervalSecs start limit rows)))).rtake
          limit) := by
  have secs := intervalSecs_positive named
  have strict := gapFree.strict secs
  have ascending : Ascending Served.openTime rows := strict.imp fun earlier => earlier.le
  obtain ⟨early, split, -⟩ := ascending.split_since
    (1000 * (start / 1000 - limit * intervalSecs))
  have part : asked intervalSecs start limit rows <:+ rows := ⟨early, split.symm⟩
  have cut := (ascending.suffix part).cut (1000 * (start / 1000 - intervalSecs))
  have lows : ∀ r ∈ upTo Served.openTime (1000 * (start / 1000 - intervalSecs) - 1)
      (asked intervalSecs start limit rows), r.openTime / 1000 < start / 1000 - intervalSecs := by
    intro r member
    have before := le_of_mem_upTo member
    omega
  have highs : ∀ r ∈ since Served.openTime (1000 * (start / 1000 - intervalSecs))
      (asked intervalSecs start limit rows), start / 1000 - intervalSecs ≤ r.openTime / 1000 := by
    intro r member
    have after := le_of_mem_since member
    omega
  have few := gapFree.asked_few secs start wanted
  have walked : walk adapter marketType symbol interval intervalSecs (start / 1000) maxPages
      (start / 1000 - limit * intervalSecs) [] ∅ =
      .ok (candles ((asked intervalSecs start limit rows).take
        (walkedRows intervalSecs start pageSize (asked intervalSecs start limit rows)))) := by
    have run := @walk_collects _ _ _ _ _ _ _ _ early [] _ _ secs sized serves gapFree _
      (split.trans (congrArg (early ++ ·) cut)) cut lows highs
      (asked_last secs current past wanted some') maxPages
      (Nat.div_lt_of_lt_mul (by rw [Nat.mul_comm]; omega))
    rwa [List.nil_append, ← cut] at run
  have sorted : Ascending Candle.timestamp (candles ((asked intervalSecs start limit rows).take
      (walkedRows intervalSecs start pageSize (asked intervalSecs start limit rows)))) :=
    (candles_strict (strict.sublist ((List.take_sublist _ _).trans part.sublist))).imp
      fun earlier => earlier.le
  rw [getCandlesFutures, named]
  simp only
  rw [Option.filter_some_pos (by simpa using positive.ne'), Option.elim_some,
    Int.tdiv_eq_ediv_of_nonneg positive.le, walked, Except.map, sorted.sortByTime_eq,
    Option.elim_some, candles_upTo, (ascending.suffix part).upTo_take, lastSlice,
    if_neg (by omega)]

/-- The newest candles up to the start are returned, unless the start is at a
candle and a page ends with the one before it. -/
theorem getCandlesFutures_newest_iff (named : Candles.intervalSecs interval = some intervalSecs)
    (sized : 1 ≤ pageSize) (serves : Serves pageSize rows) (gapFree : GapFree intervalSecs rows)
    (current : UpToNow intervalSecs rows) (positive : 0 < start)
    (past : start < 1000 * (adapter.nowSecs + 1)) (wanted : 1 ≤ limit)
    (pages : limit + 1 ≤ maxPages * pageSize)
    (enough : limit ≤ (upTo Candle.timestamp start (candles rows)).length) :
    getCandlesFutures adapter marketType symbol interval (some start) limit =
        .ok ((upTo Candle.timestamp start (candles rows)).rtake limit) ↔
      ¬ (intervalSecs ∣ start / 1000 ∧ passed intervalSecs start limit rows ≠ [] ∧
        pageSize ∣ (passed intervalSecs start limit rows).length) := by
  have secs := intervalSecs_positive named
  have strict := gapFree.strict secs
  have ascending : Ascending Served.openTime rows := strict.imp fun earlier => earlier.le
  obtain ⟨early, split, -⟩ := ascending.split_since
    (1000 * (start / 1000 - limit * intervalSecs))
  have part : asked intervalSecs start limit rows <:+ rows := ⟨early, split.symm⟩
  rw [candles_upTo, candles, List.length_map] at enough
  have some' : rows ≠ [] := by
    rintro rfl
    rw [upTo, List.filter_nil, List.length_nil] at enough
    omega
  have within := gapFree.asked_enough secs current past wanted enough
  have newest : (candles (upTo Served.openTime start rows)).rtake limit =
      (candles (upTo Served.openTime start (asked intervalSecs start limit rows))).rtake limit := by
    have known : upTo Served.openTime start rows = upTo Served.openTime start early ++
        upTo Served.openTime start (asked intervalSecs start limit rows) := by
      nth_rewrite 1 [split]
      exact upTo_append _ _ _ _
    rw [candles, candles, map_rtake, map_rtake, known, rtake_append_of_le within]
  obtain ⟨last, ends⟩ := Option.isSome_iff_exists.mp (List.getLast?_isSome.mpr
    (List.ne_nil_of_length_pos (lt_of_lt_of_le wanted within)))
  obtain ⟨-, near⟩ := (gapFree.suffix part).last_near secs (current.suffix part) past ends
  rw [getCandlesFutures_walked named sized serves gapFree current positive past wanted pages some',
    Except.ok.injEq, candles_upTo, newest, passed,
    ← (gapFree.suffix part).pages_bring_iff secs sized ends near]
  constructor
  · intro same
    by_contra short
    have ordered := candles_strict (strict.sublist
      ((upTo_sublist Served.openTime start _).trans part.sublist))
    have cut : walkedRows intervalSecs start pageSize (asked intervalSecs start limit rows) <
        (candles (upTo Served.openTime start (asked intervalSecs start limit rows))).length := by
      rw [candles, List.length_map]
      exact not_le.mp short
    apply rtake_take_ne ordered (by omega : 0 < limit) cut
    rw [candles, ← List.map_take]
    exact same
  · intro covers
    rw [List.take_of_length_le covers]

end Anchor

end Upstream

section Hours

def hour (n : ℕ) : ℤ := 604800000000 + 3600000 * n

def hourRow (n : ℕ) : Json :=
  .obj [("time", .num (hour n)), ("open", .num 1), ("high", .num 2), ("low", .num 1),
    ("close", .num 2), ("volume", .num 7)]

/-- A linear candle of Bitcoin, as parsed. -/
def hourCandle (n : ℕ) : Candle where
  symbol := "BTCUSD"
  marketType := .linear
  quote := ""
  interval := "1h"
  timestamp := hour n
  «open» := 1
  high := 2
  low := 1
  close := 2
  volume := ⟨7, .base, none, 7 * 2, ⟨.close, none, none, unpaired⟩, unsized⟩

/-- Four hours, in pages of two. -/
def hourAdapter : Adapter where
  text := noTexts
  iso _ := none
  getApiSymbol symbol _ := symbol
  getModelSymbol symbol := symbol
  infoFor _ _ := none
  nowSecs := 604800000 + 3600 * 3 + 1800
  makeRequest _ fromTs :=
    .ok (.obj [("candles",
      .arr ((([0, 1, 2, 3].filter fun n => 1000 * fromTs ≤ hour n).take 2).map hourRow))])

def hourServed (n : ℕ) : Served hourAdapter .linear "BTCUSD" "1h" where
  row := hourRow n
  candle := hourCandle n
  time := normalizeTimestamp_ms noTexts (fun _ => none) (by rw [hour]; omega)
  reads := rfl

theorem hours_serve : Serves 2 ([0, 1, 2, 3].map hourServed) := by
  intro fromTs
  refine ⟨_, rfl, ?_⟩
  rw [since, List.filter_map, ← List.map_take, List.map_map]
  rfl

theorem hours_gapFree : GapFree 3600 ([0, 1, 2, 3].map hourServed) where
  spaced := by
    unfold Spaced
    decide
  multiples := by decide

theorem hours_upToNow : UpToNow 3600 ([0, 1, 2, 3].map hourServed) := by
  unfold UpToNow
  decide

/-- The start is at the third candle, and one is asked for. -/
theorem getCandlesFutures_newest_iff_aligned :
    getCandlesFutures hourAdapter .linear "BTCUSD" "1h" (some (hour 2)) 1 =
      .ok [hourCandle 2] :=
  (getCandlesFutures_newest_iff rfl (by decide : 1 ≤ 2) hours_serve hours_gapFree hours_upToNow
    (by decide : 0 < hour 2) (by decide) le_rfl (by decide) (by decide)).mpr (by decide)

/-- Two are asked for: the page ends with the candle before the start. -/
theorem walk_stops_early : ¬ ∀ (adapter : Adapter) (marketType : MarketType)
    (symbol interval : String) (secs : ℤ) (pageSize : ℕ)
    (rows : List (Served adapter marketType symbol interval)) (start : ℤ) (limit : ℕ),
    intervalSecs interval = some secs → 1 ≤ pageSize → Serves pageSize rows → GapFree secs rows →
    UpToNow secs rows → 0 < start → start < 1000 * (adapter.nowSecs + 1) → 1 ≤ limit →
    limit + 1 ≤ maxPages * pageSize →
    limit ≤ (upTo Candle.timestamp start (candles rows)).length →
    getCandlesFutures adapter marketType symbol interval (some start) limit =
      .ok ((upTo Candle.timestamp start (candles rows)).rtake limit) := by
  intro claimed
  have full := claimed _ .linear "BTCUSD" "1h" 3600 2 _ (hour 2) 2 rfl (by decide) hours_serve
    hours_gapFree hours_upToNow (by decide) (by decide) (by decide) (by decide) (by decide)
  rw [getCandlesFutures_walked rfl (by decide : 1 ≤ 2) hours_serve hours_gapFree hours_upToNow
    (by decide) (by decide) (by decide) (by decide) (by decide), Except.ok.injEq] at full
  exact absurd (congrArg (List.map Candle.timestamp) full) (by decide)

end Hours
end ExchangeRouter.Kraken.Candles
