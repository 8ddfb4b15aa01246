import ExchangeRouter.Funding.Model

/-!
# Funding history from an anchor

With a start time, `get_funding_rate` asks for one window that ends there.
-/
namespace ExchangeRouter.Funding
open Lib OrderBooks History

variable {adapter : Adapter} {marketType : MarketType} {symbol : String} {H : List Settlement}

/-- The settlements of the window, from its old end. -/
theorem getFundingRate_anchored (serves : Serves H adapter) (perpetual : marketType ≠ .spot)
    (start : ℤ) {limit : ℕ} (wanted : 1 ≤ limit) :
    getFundingRate adapter marketType symbol (some start) limit =
      .ok (((since Settlement.fundingTime
        (start - min limit perReq * cycleMs adapter marketType symbol)
        (upTo Settlement.fundingTime start H)).take (min limit perReq)).map
          (row adapter marketType symbol)) := by
  simp only [getFundingRate, if_neg perpetual, call_eq serves, Except.map]
  rw [answer_window, lastSlice, if_neg (by omega), rtake_of_length_le]
  rw [List.length_map, List.length_take]
  omega

/-- The settlements not newer than the anchor all fit the window and the page,
or the newest of them lies before the anchor by one cycle at most. -/
def AnchorFits (cycle start : ℤ) (limit : ℕ) (known : List Settlement) : Prop :=
  (known.length ≤ min limit perReq ∧
    ∀ s ∈ known, start - min limit perReq * cycle ≤ s.fundingTime) ∨
  limit ≤ perReq ∧ ∃ newest ∈ known.getLast?, newest.fundingTime < start ∧
    start ≤ newest.fundingTime + cycle

instance (cycle start : ℤ) (limit : ℕ) (known : List Settlement) :
    Decidable (AnchorFits cycle start limit known) :=
  inferInstanceAs (Decidable (_ ∨ _))

section Window
variable {cycle start : ℤ} {page : ℕ} {early inside : List Settlement}

/-- The newest settlement is `inside.length - 1` cycles after the first inside
the window. -/
theorem span_inside (spaced : Spaced Settlement.fundingTime cycle (early ++ inside))
    {first newest : Settlement} {rest : List Settlement} (head : inside = first :: rest)
    (last : (early ++ inside).getLast? = some newest) :
    newest.fundingTime = first.fundingTime + rest.length * cycle := by
  subst head
  have own : Spaced Settlement.fundingTime cycle (first :: rest) := spaced.right_of_append
  refine own.time_last ?_
  rw [List.getLast?_append_of_ne_nil _ (List.cons_ne_nil _ _)] at last
  exact last

/-- The newest settlement is `inside.length` cycles after the last before the
window. -/
theorem span_early (spaced : Spaced Settlement.fundingTime cycle (early ++ inside))
    {skipped newest : Settlement} (before : early.getLast? = some skipped)
    (last : (early ++ inside).getLast? = some newest) :
    newest.fundingTime = skipped.fundingTime + inside.length * cycle := by
  obtain ⟨older, rfl⟩ := List.getLast?_eq_some_iff.mp before
  have own : Spaced Settlement.fundingTime cycle (skipped :: inside) := by
    rw [List.append_assoc] at spaced
    exact spaced.right_of_append
  refine own.time_last ?_
  rw [List.append_assoc, List.getLast?_append_of_ne_nil _ (by simp)] at last
  exact last

/-- With a settlement before a window of `inside.length` cycles, the newest one
is before the window's end. -/
theorem newest_before (spaced : Spaced Settlement.fundingTime cycle (early ++ inside))
    (skips : ∀ s ∈ early, s.fundingTime < start - inside.length * cycle) (more : early ≠ [])
    {newest : Settlement} (last : (early ++ inside).getLast? = some newest) :
    newest.fundingTime < start := by
  obtain ⟨s, skipped⟩ := Option.isSome_iff_exists.mp (List.getLast?_isSome.mpr more)
  have span := span_early spaced skipped last
  have outside := skips s (List.mem_of_getLast? skipped)
  omega

/-- In a window of `inside.length` cycles, the newest settlement is not more than
one cycle before its end. -/
theorem newest_close (spaced : Spaced Settlement.fundingTime cycle (early ++ inside))
    (late : ∀ s ∈ inside, start - inside.length * cycle ≤ s.fundingTime) (some' : inside ≠ [])
    {newest : Settlement} (last : (early ++ inside).getLast? = some newest) :
    start ≤ newest.fundingTime + cycle := by
  obtain ⟨first, rest, head⟩ := List.exists_cons_of_ne_nil some'
  have span := span_inside spaced head last
  have firstLate := late first (head ▸ List.mem_cons_self)
  rw [head, List.length_cons, Nat.cast_succ, add_mul, one_mul] at firstLate
  omega

end Window

section Fits
variable {cycle start : ℤ} {limit : ℕ} {known : List Settlement}

/-- Settlements spaced by the cycle, of which the newest lies before the anchor
by one cycle at most: the window has the newest `limit`, or all. -/
theorem since_of_newest (positive : 0 < cycle)
    (spaced : Spaced Settlement.fundingTime cycle known) {newest : Settlement}
    (last : known.getLast? = some newest) (before : newest.fundingTime < start)
    (close : start ≤ newest.fundingTime + cycle) :
    since Settlement.fundingTime (start - limit * cycle) known = known.rtake limit := by
  have ascending : Ascending Settlement.fundingTime known :=
    (spaced.strict positive).imp fun earlier => earlier.le
  obtain ⟨early, split, skips⟩ := ascending.split_since (start - limit * cycle)
  obtain ⟨inside, isInside⟩ : ∃ inside, inside =
    since Settlement.fundingTime (start - limit * cycle) known := ⟨_, rfl⟩
  rw [← isInside] at split ⊢
  subst split
  have short : inside.length ≤ limit := by
    by_contra more
    obtain ⟨first, rest, head⟩ := List.exists_cons_of_ne_nil
      (List.ne_nil_of_length_pos (by omega : 0 < inside.length))
    have late : start - limit * cycle ≤ first.fundingTime :=
      le_of_mem_since (isInside ▸ head ▸ List.mem_cons_self)
    have longer : (limit : ℤ) ≤ rest.length := by
      rw [head, List.length_cons] at more
      omega
    have span := span_inside spaced head last
    have grows := mul_le_mul_of_nonneg_right longer positive.le
    omega
  cases skipped : early.getLast? with
  | none =>
    rw [List.getLast?_eq_none_iff.mp skipped, List.nil_append, rtake_of_length_le short]
  | some s =>
    have full : (limit : ℤ) - 1 < inside.length := by
      have span := span_early spaced skipped last
      have outside := skips s (List.mem_of_getLast? skipped)
      refine lt_of_mul_lt_mul_right ?_ positive.le
      rw [sub_mul, one_mul]
      omega
    rw [rtake_append_of_le (by omega), rtake_of_length_le short]

/-- A page that shows the newest settlement was not cut. -/
theorem length_le_of_newest {page : ℕ} {inside : List Settlement} {newest : Settlement}
    (strict : inside.Pairwise fun a b => a.fundingTime < b.fundingTime)
    (last : inside.getLast? = some newest)
    (shown : newest.fundingTime ∈ (inside.take page).map Settlement.fundingTime) :
    inside.length ≤ page := by
  by_contra more
  obtain ⟨s, member, sameTime⟩ := List.mem_map.mp shown
  have beyond : newest ∈ inside.drop page := by
    refine List.mem_of_getLast? ?_
    rw [List.getLast?_drop, if_neg more, last]
  rw [← List.take_append_drop page inside] at strict
  have earlier := (List.pairwise_append.mp strict).2.2 s member newest beyond
  omega

/-- If the page shows the newest `limit` settlements, the anchor fits. -/
theorem fits_of_newest (positive : 0 < cycle) (wanted : 1 ≤ limit)
    (spaced : Spaced Settlement.fundingTime cycle known)
    (newestShown : ((since Settlement.fundingTime (start - min limit perReq * cycle) known).take
      (min limit perReq)).map Settlement.fundingTime =
        (known.rtake limit).map Settlement.fundingTime) :
    AnchorFits cycle start limit known := by
  have strict := spaced.strict positive
  obtain ⟨early, split, skips⟩ := Ascending.split_since
    (strict.imp fun earlier => earlier.le : Ascending Settlement.fundingTime known)
    (start - min limit perReq * cycle)
  obtain ⟨inside, isInside⟩ : ∃ inside, inside =
    since Settlement.fundingTime (start - min limit perReq * cycle) known := ⟨_, rfl⟩
  have late : ∀ s ∈ inside, start - min limit perReq * cycle ≤ s.fundingTime :=
    fun s member => le_of_mem_since (isInside ▸ member)
  rw [← isInside] at split newestShown
  cases last : known.getLast? with
  | none => exact Or.inl (by simp [List.getLast?_eq_none_iff.mp last])
  | some newest =>
    have shown : newest.fundingTime ∈ (known.rtake limit).map Settlement.fundingTime := by
      refine List.mem_map_of_mem (List.mem_of_getLast? ?_)
      rw [List.rtake, List.getLast?_drop, last, if_neg]
      have some' := List.length_pos_of_mem (List.mem_of_getLast? last)
      omega
    have short : inside.length ≤ min limit perReq := by
      cases empty : inside with
      | nil => exact Nat.zero_le _
      | cons first rest =>
        rw [← empty]
        have own : inside.getLast? = some newest := by
          rw [split, List.getLast?_append_of_ne_nil _ (by simp [empty])] at last
          exact last
        refine length_le_of_newest (strict.sublist ?_) own (newestShown ▸ shown)
        exact isInside ▸ List.filter_sublist
    have size : inside.length = min limit known.length := by
      have same := congrArg List.length newestShown
      rwa [List.length_map, List.length_map, List.take_of_length_le short, length_rtake] at same
    have total := congrArg List.length split
    rw [List.length_append] at total
    by_cases all : known.length ≤ limit
    · have none : early = [] := List.length_eq_zero_iff.mp (by omega)
      rw [none, List.nil_append] at split
      exact Or.inl ⟨by omega, split ▸ late⟩
    · have one : min limit perReq = limit := by omega
      have full : inside.length = limit := by omega
      rw [one, ← full] at late skips
      have spacedParts : Spaced Settlement.fundingTime cycle (early ++ inside) := split ▸ spaced
      exact Or.inr ⟨by omega, newest, last,
        newest_before spacedParts skips (List.ne_nil_of_length_pos (by omega)) (split ▸ last),
        newest_close spacedParts late (List.ne_nil_of_length_pos (by omega)) (split ▸ last)⟩

theorem newest_of_fits (positive : 0 < cycle)
    (spaced : Spaced Settlement.fundingTime cycle known)
    (fits : AnchorFits cycle start limit known) :
    (since Settlement.fundingTime (start - min limit perReq * cycle) known).take
      (min limit perReq) = known.rtake limit := by
  rcases fits with ⟨few, within⟩ | ⟨onePage, newest, last, before, close⟩
  · have all : since Settlement.fundingTime (start - min limit perReq * cycle) known = known :=
      since_eq_self within
    rw [all, List.take_of_length_le few, rtake_of_length_le (few.trans (Nat.min_le_left _ _))]
  · rw [Nat.min_eq_left onePage, since_of_newest positive spaced last before close,
      List.take_of_length_le]
    rw [length_rtake]
    exact Nat.min_le_left _ _

end Fits

/-- With settlements spaced by the cycle, the newest `limit` of those not newer
than the anchor are returned exactly when the anchor fits. -/
theorem getFundingRate_anchored_iff (serves : Serves H adapter) (perpetual : marketType ≠ .spot)
    (positive : 0 < cycleMs adapter marketType symbol)
    (spaced : Spaced Settlement.fundingTime (cycleMs adapter marketType symbol) H) (start : ℤ)
    {limit : ℕ} (wanted : 1 ≤ limit) :
    getFundingRate adapter marketType symbol (some start) limit =
        .ok (((upTo Settlement.fundingTime start H).rtake limit).map
          (row adapter marketType symbol)) ↔
      AnchorFits (cycleMs adapter marketType symbol) start limit
        (upTo Settlement.fundingTime start H) := by
  have ascending : Ascending Settlement.fundingTime H :=
    (spaced.strict positive).imp fun earlier => earlier.le
  have known : Spaced Settlement.fundingTime (cycleMs adapter marketType symbol)
      (upTo Settlement.fundingTime start H) := spaced.prefix (ascending.prefix_upTo start)
  rw [getFundingRate_anchored serves perpetual start wanted]
  constructor
  · intro same
    have times := congrArg (List.map FundingRate.timestamp) (Except.ok.inj same)
    rw [map_row_timestamp, map_row_timestamp] at times
    exact fits_of_newest positive wanted known times
  · intro fits
    rw [newest_of_fits positive known fits]

/-- An adapter without cached symbols, on an upstream with the settlements `H`. -/
def bareAdapter (H : List Settlement) : Adapter where
  quoteAsset _ _ := none
  fundingIntervalMs _ _ := none
  makeRequest _ query := .ok (answer H query)

/-- Settlements every eight hours from the start of 2020. -/
def everyEightHours (count : ℕ) : List Settlement :=
  (List.range count).map fun k : ℕ => ⟨"BTCUSDT", 1 / 10000, 1577836800000 + 28800000 * k, by omega⟩

theorem everyEightHours_spaced : Spaced Settlement.fundingTime
    (cycleMs (bareAdapter (everyEightHours 3)) .linear "BTCUSDT") (everyEightHours 3) := by
  decide +kernel

/-- The anchor is a millisecond after the third settlement. -/
theorem getFundingRate_anchored_iff_between :
    getFundingRate (bareAdapter (everyEightHours 3)) .linear "BTCUSDT" (some 1577894400001) 1 =
      .ok (((upTo Settlement.fundingTime 1577894400001 (everyEightHours 3)).rtake 1).map
        (row (bareAdapter (everyEightHours 3)) .linear "BTCUSDT")) :=
  (getFundingRate_anchored_iff (fun _ _ => rfl) (by decide) (by decide) everyEightHours_spaced
    1577894400001 (le_refl 1)).mpr (by decide +kernel)

/-- At the third settlement, the page of one is the second. -/
theorem anchored_misses_newest : ¬ ∀ (adapter : Adapter) (marketType : MarketType) (symbol : String)
    (H : List Settlement) (start : ℤ) (limit : ℕ), Serves H adapter → marketType ≠ .spot →
    0 < cycleMs adapter marketType symbol →
    Spaced Settlement.fundingTime (cycleMs adapter marketType symbol) H → 0 < start → 1 ≤ limit →
    getFundingRate adapter marketType symbol (some start) limit =
      .ok (((upTo Settlement.fundingTime start H).rtake limit).map
        (row adapter marketType symbol)) := by
  intro claimed
  have same := claimed (bareAdapter (everyEightHours 3)) .linear "BTCUSDT" (everyEightHours 3)
    1577894400000 1 (fun _ _ => rfl) (by decide) (by decide) everyEightHours_spaced (by decide)
    (le_refl 1)
  have times := congrArg (fun rows => rows.toOption.map (List.map FundingRate.timestamp)) same
  exact absurd times (by decide +kernel)

end ExchangeRouter.Funding
