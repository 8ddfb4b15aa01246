import Mathlib.Data.List.Perm.Basic
import ExchangeRouter.Funding.Anchored

/-!
# Funding history without an anchor

Without a start time, `get_funding_rate` goes back page by page.  A page is the
oldest part of its window, so a window with more settlements than fit on a page
leaves a hole.
-/
namespace ExchangeRouter.Funding
open Lib OrderBooks History

/-- The settlements in the window of the page below an oldest known time. -/
def pageWindow (cadence : ℤ) (H : List Settlement) (oldest : ℤ) : List Settlement :=
  since Settlement.fundingTime (oldest - perReq * cadence)
    (upTo Settlement.fundingTime (oldest - 1) H)

/-- What the upstream answers with: the oldest settlements of the window. -/
def cutPage (cadence : ℤ) (H : List Settlement) (oldest : ℤ) : List Settlement :=
  (pageWindow cadence H oldest).take perReq

/-- Going back window by window, from the newest settlements `newer`, no window
has more settlements than fit on a page. -/
def PagesFit (limit : ℕ) (cadence : ℤ) (H : List Settlement) : ℕ → List Settlement → Prop
  | 0, _ => True
  | _ + 1, [] => True
  | pages + 1, oldest :: newer =>
    (oldest :: newer).length < limit →
      (pageWindow cadence H oldest.fundingTime).length ≤ perReq ∧
        PagesFit limit cadence H pages (pageWindow cadence H oldest.fundingTime ++ oldest :: newer)

instance decidablePagesFit (limit : ℕ) (cadence : ℤ) (H : List Settlement) :
    (pages : ℕ) → (newer : List Settlement) → Decidable (PagesFit limit cadence H pages newer)
  | 0, _ => isTrue trivial
  | _ + 1, [] => isTrue trivial
  | pages + 1, oldest :: newer =>
    have := decidablePagesFit limit cadence H pages
      (pageWindow cadence H oldest.fundingTime ++ oldest :: newer)
    inferInstanceAs (Decidable ((oldest :: newer).length < limit → _ ∧ _))

/-- The page of a query without times. -/
def recentPage (limit : ℕ) (H : List Settlement) : List Settlement := H.rtake (min limit 200)

/-- Settlements in strictly ascending order of time. -/
def Strict (H : List Settlement) : Prop := H.Pairwise fun a b => a.fundingTime < b.fundingTime

/-- The rows of a contiguous end of `H`, ascending, without repetition and not
more than the limit. -/
structure HoleFree (adapter : Adapter) (marketType : MarketType) (symbol : String)
    (H : List Settlement) (limit : ℕ) (rows : List FundingRate) : Prop where
  suffix : ∃ part, part <:+ H ∧ rows = part.map (row adapter marketType symbol)
  ascending : Ascending FundingRate.timestamp rows
  distinct : (rows.map FundingRate.timestamp).Nodup
  length : rows.length ≤ limit

/-- A settlement is missing between the newest ones, fewer than the limit, and
those before them. -/
def Holed (H : List Settlement) (limit : ℕ) (known : List Settlement) : Prop :=
  ∃ older last newer, known = older ++ last :: newer ∧ newer.length < limit ∧
    ∃ missing ∈ H, last.fundingTime < missing.fundingTime ∧
      ∀ s ∈ newer, missing.fundingTime < s.fundingTime

variable {adapter : Adapter} {marketType : MarketType} {symbol : String} {H : List Settlement}

theorem Strict.of_chain (chain : H.IsChain fun a b => a.fundingTime < b.fundingTime) : Strict H :=
  List.pairwise_map.mp (List.isChain_map Settlement.fundingTime |>.mpr chain).pairwise

theorem Strict.ascending (strict : Strict H) : Ascending Settlement.fundingTime H :=
  strict.imp fun earlier => earlier.le

/-- The rows of an end of `H` have no hole. -/
theorem HoleFree.of_suffix (strict : Strict H) {part : List Settlement} (suffix : part <:+ H)
    {limit : ℕ} (few : part.length ≤ limit) :
    HoleFree adapter marketType symbol H limit (part.map (row adapter marketType symbol)) where
  suffix := ⟨part, suffix, rfl⟩
  ascending := by
    rw [Ascending, List.pairwise_map]
    simp only [row_timestamp]
    exact strict.ascending.suffix suffix
  distinct := by
    rw [map_row_timestamp, List.Nodup, List.pairwise_map]
    exact (List.Pairwise.sublist suffix.sublist strict).imp fun earlier => earlier.ne
  length := by rwa [List.length_map]

theorem Holed.prepend {limit : ℕ} {known : List Settlement} (holed : Holed H limit known)
    (before : List Settlement) : Holed H limit (before ++ known) := by
  obtain ⟨older, last, newer, rfl, few, missing⟩ := holed
  exact ⟨before ++ older, last, newer, by rw [List.append_assoc], few, missing⟩

/-- A hole below the newest settlements is in what is returned of them. -/
theorem Holed.not_holeFree (strict : Strict H) {limit : ℕ} {known : List Settlement}
    (sorted : Strict known) (holed : Holed H limit known) :
    ¬ HoleFree adapter marketType symbol H limit
      ((known.rtake limit).map (row adapter marketType symbol)) := by
  rintro ⟨⟨part, suffix, same⟩, -, -, -⟩
  have times := congrArg (List.map FundingRate.timestamp) same
  rw [map_row_timestamp, map_row_timestamp] at times
  obtain ⟨older, last, newer, rfl, few, missing, isSettlement, after, before⟩ := holed
  have shown : (older ++ last :: newer).rtake limit =
      older.rtake (limit - (newer.length + 1)) ++ last :: newer := by
    have whole : (last :: newer).rtake limit = last :: newer :=
      rtake_of_length_le (by rw [List.length_cons]; omega)
    rw [rtake_append, whole, List.length_cons]
  have lastShown : last.fundingTime ∈ part.map Settlement.fundingTime := by
    rw [← times, shown]
    simp
  obtain ⟨p, inPart, sameTime⟩ := List.mem_map.mp lastShown
  obtain ⟨skipped, rfl⟩ := suffix
  have within : missing ∈ part := by
    rcases List.mem_append.mp isSettlement with early | within
    · have earlier := (List.pairwise_append.mp strict).2.2 missing early p inPart
      omega
    · exact within
  have missingShown : missing.fundingTime ∈
      ((older ++ last :: newer).rtake limit).map Settlement.fundingTime := by
    rw [times]
    exact List.mem_map_of_mem within
  obtain ⟨s, inKnown, itsTime⟩ := List.mem_map.mp missingShown
  rcases List.mem_append.mp ((rtake_suffix _ _).mem inKnown) with early | late
  · have earlier := (List.pairwise_append.mp sorted).2.2 s early last List.mem_cons_self
    omega
  · rcases List.mem_cons.mp late with rfl | newest
    · omega
    · have later := before s newest
      omega

/-- The settlements behind what the loop has collected. -/
structure Walked (adapter : Adapter) (marketType : MarketType) (symbol : String)
    (H known : List Settlement) (collected : List FundingRate) (seen : Finset ℤ) : Prop where
  rows : collected.Perm (known.map (row adapter marketType symbol))
  seen : seen = (known.map Settlement.fundingTime).toFinset
  strict : Strict known
  part : ∀ s ∈ known, s ∈ H

variable {known newer : List Settlement} {collected : List FundingRate} {seen : Finset ℤ}
  {oldest : Settlement}

theorem Walked.length (walked : Walked adapter marketType symbol H known collected seen) :
    collected.length = known.length := by
  rw [walked.rows.length_eq, List.length_map]

/-- `min(r.timestamp for r in collected)`. -/
theorem Walked.oldestTs
    (walked : Walked adapter marketType symbol H (oldest :: newer) collected seen) :
    (collected.map FundingRate.timestamp).min? = some oldest.fundingTime := by
  have times : (collected.map FundingRate.timestamp).Perm
      ((oldest :: newer).map Settlement.fundingTime) := by
    have moved := walked.rows.map FundingRate.timestamp
    rwa [map_row_timestamp] at moved
  rw [List.min?_eq_some_iff]
  refine ⟨times.mem_iff.mpr List.mem_cons_self, fun t member => ?_⟩
  obtain ⟨s, inKnown, rfl⟩ := List.mem_map.mp (times.mem_iff.mp member)
  rcases List.mem_cons.mp inKnown with rfl | later
  · exact le_rfl
  · exact ((List.pairwise_cons.mp walked.strict).1 s later).le

theorem mem_pageWindow {cadence t : ℤ} {s : Settlement} (member : s ∈ pageWindow cadence H t) :
    s ∈ H ∧ s.fundingTime < t := by
  obtain ⟨inside, -⟩ := List.mem_filter.mp member
  obtain ⟨settlement, early⟩ := List.mem_filter.mp inside
  exact ⟨settlement, Int.lt_of_le_sub_one (of_decide_eq_true early)⟩

theorem Strict.pageWindow (strict : Strict H) (cadence t : ℤ) : Strict (pageWindow cadence H t) :=
  strict.sublist (List.filter_sublist.trans List.filter_sublist)

/-- The page joins at the old end. -/
theorem Walked.page (walked : Walked adapter marketType symbol H (oldest :: newer) collected seen)
    (strict : Strict H) (cadence : ℤ) :
    Walked adapter marketType symbol H
      (cutPage cadence H oldest.fundingTime ++ oldest :: newer)
      (collected ++ (cutPage cadence H oldest.fundingTime).map
        (row adapter marketType symbol))
      (seen ∪ (((cutPage cadence H oldest.fundingTime).map
        (row adapter marketType symbol)).map FundingRate.timestamp).toFinset) where
  rows := by
    rw [List.map_append]
    exact (walked.rows.append_right _).trans List.perm_append_comm
  seen := by
    rw [map_row_timestamp, List.map_append, List.toFinset_append, walked.seen, Finset.union_comm]
  strict := by
    refine List.pairwise_append.mpr ⟨(strict.pageWindow _ _).sublist (List.take_sublist _ _),
      walked.strict, fun s early u known => ?_⟩
    have before := (mem_pageWindow (List.mem_of_mem_take early)).2
    rcases List.mem_cons.mp known with rfl | later
    · exact before
    · exact before.trans ((List.pairwise_cons.mp walked.strict).1 u later)
  part := fun s member => by
    rcases List.mem_append.mp member with early | known
    · exact (mem_pageWindow (List.mem_of_mem_take early)).1
    · exact walked.part s known

/-- Nothing on the page was seen before. -/
theorem Walked.unseen (walked : Walked adapter marketType symbol H (oldest :: newer) collected seen)
    (cadence : ℤ) :
    ((cutPage cadence H oldest.fundingTime).map
      (row adapter marketType symbol)).filter (fun r => r.timestamp ∉ seen) =
        (cutPage cadence H oldest.fundingTime).map (row adapter marketType symbol) := by
  refine List.filter_eq_self.mpr fun r member => ?_
  obtain ⟨s, onPage, rfl⟩ := List.mem_map.mp member
  have before := (mem_pageWindow (List.mem_of_mem_take onPage)).2
  rw [row_timestamp, walked.seen, decide_eq_true_eq, List.mem_toFinset]
  intro again
  obtain ⟨u, known, sameTime⟩ := List.mem_map.mp again
  rcases List.mem_cons.mp known with rfl | later
  · omega
  · have order := (List.pairwise_cons.mp walked.strict).1 u later
    omega

/-- From a contiguous end of `H`, the whole window is what comes before it. -/
theorem window_suffix (strict : Strict H) (suffix : oldest :: newer <:+ H) (cadence : ℤ) :
    pageWindow cadence H oldest.fundingTime ++ oldest :: newer <:+ H := by
  obtain ⟨early, rfl⟩ := suffix
  have window : pageWindow cadence (early ++ oldest :: newer) oldest.fundingTime =
      since Settlement.fundingTime (oldest.fundingTime - perReq * cadence) early := by
    rw [pageWindow, upTo_before strict]
  obtain ⟨skipped, split, -⟩ := Ascending.split_since
    (Strict.ascending (List.pairwise_append.mp strict).1) (oldest.fundingTime - perReq * cadence)
  rw [window]
  refine ⟨skipped, ?_⟩
  rw [← List.append_assoc, ← split]

/-- A window with more settlements than a page leaves a hole. -/
theorem holed_of_cut (strict : Strict H) (sorted : Strict (oldest :: newer)) {limit : ℕ}
    (wanting : (oldest :: newer).length < limit) {cadence : ℤ}
    (more : perReq < (pageWindow cadence H oldest.fundingTime).length) :
    Holed H limit (cutPage cadence H oldest.fundingTime ++ oldest :: newer) := by
  obtain ⟨missing, rest, beyond⟩ := List.exists_cons_of_ne_nil
    (List.ne_nil_of_length_pos (by rw [List.length_drop]; omega :
      0 < ((pageWindow cadence H oldest.fundingTime).drop perReq).length))
  obtain ⟨last, isLast⟩ := Option.isSome_iff_exists.mp (List.getLast?_isSome.mpr
    (List.ne_nil_of_length_pos (by rw [cutPage, List.length_take, perReq]; omega :
      0 < (cutPage cadence H oldest.fundingTime).length)))
  obtain ⟨older, page⟩ := List.getLast?_eq_some_iff.mp isLast
  have inWindow : missing ∈ pageWindow cadence H oldest.fundingTime :=
    List.mem_of_mem_drop (beyond ▸ List.mem_cons_self)
  have whole := strict.pageWindow cadence oldest.fundingTime
  rw [← List.take_append_drop perReq (pageWindow cadence H oldest.fundingTime)] at whole
  refine ⟨older, last, oldest :: newer, by rw [page, List.append_assoc]; rfl, wanting, missing,
    (mem_pageWindow inWindow).1, ?_, fun s member => ?_⟩
  · exact (List.pairwise_append.mp whole).2.2 last (List.mem_of_getLast? isLast) missing
      (beyond ▸ List.mem_cons_self)
  · have below := (mem_pageWindow inWindow).2
    rcases List.mem_cons.mp member with rfl | later
    · exact below
    · exact below.trans ((List.pairwise_cons.mp sorted).1 s later)

/-- Where nothing older is in the window, no page is cut. -/
theorem pagesFit_of_empty (limit : ℕ) {cadence : ℤ}
    (empty : pageWindow cadence H oldest.fundingTime = []) (pages : ℕ) :
    PagesFit limit cadence H pages (oldest :: newer) := by
  induction pages with
  | zero => trivial
  | succ pages ih =>
    intro _
    rw [empty]
    exact ⟨Nat.zero_le _, ih⟩

section Loop
variable {limit : ℕ} {cadence : ℤ}

theorem olderPages_enough (enough : limit ≤ collected.length) (pages : ℕ) :
    olderPages adapter marketType symbol limit cadence pages collected seen = .ok collected := by
  cases pages with
  | zero => rfl
  | succ pages => rw [olderPages, if_neg (by omega)]

/-- One turn of the loop asks for the page below the oldest settlement. -/
theorem olderPages_turn (serves : Serves H adapter)
    (walked : Walked adapter marketType symbol H (oldest :: newer) collected seen)
    (wanting : (oldest :: newer).length < limit) (pages : ℕ) :
    olderPages adapter marketType symbol limit cadence (pages + 1) collected seen =
      if cutPage cadence H oldest.fundingTime = [] then .ok collected
      else olderPages adapter marketType symbol limit cadence pages
        (collected ++ (cutPage cadence H oldest.fundingTime).map
          (row adapter marketType symbol))
        (seen ∪ (((cutPage cadence H oldest.fundingTime).map
          (row adapter marketType symbol)).map FundingRate.timestamp).toFinset) := by
  have fewer : collected.length < limit := walked.length ▸ wanting
  rw [olderPages, if_pos fewer, walked.oldestTs]
  dsimp only
  rw [call_eq serves, answer_window]
  dsimp only
  rw [← pageWindow, ← cutPage, walked.unseen]
  simp only [List.isEmpty_iff, List.map_eq_nil_iff]

/-- The loop returns what it had and what it found before. -/
theorem olderPages_extends (serves : Serves H adapter) (strict : Strict H) (pages : ℕ)
    (walked : Walked adapter marketType symbol H (oldest :: newer) collected seen) :
    ∃ before collected' seen',
      olderPages adapter marketType symbol limit cadence pages collected seen = .ok collected' ∧
        Walked adapter marketType symbol H (before ++ oldest :: newer) collected' seen' := by
  induction pages generalizing oldest newer collected seen with
  | zero => exact ⟨[], collected, seen, rfl, walked⟩
  | succ pages ih =>
    by_cases wanting : (oldest :: newer).length < limit
    · rw [olderPages_turn serves walked wanting]
      cases found : cutPage cadence H oldest.fundingTime with
      | nil => exact ⟨[], collected, seen, if_pos rfl, walked⟩
      | cons first page =>
        have joined := walked.page strict cadence
        rw [found, List.cons_append] at joined
        obtain ⟨before, collected', seen', returned, result⟩ := ih joined
        refine ⟨before ++ first :: page, collected', seen', ?_, ?_⟩
        · rw [if_neg (List.cons_ne_nil _ _)]
          exact returned
        · rwa [List.append_assoc, List.cons_append]
    · have enough : limit ≤ collected.length := by rw [walked.length]; omega
      exact ⟨[], collected, seen, olderPages_enough enough _, walked⟩

/-- A cut page leaves a hole, which whatever is found before it does not close. -/
theorem olderPages_cut (serves : Serves H adapter) (strict : Strict H) (pages : ℕ)
    (walked : Walked adapter marketType symbol H (oldest :: newer) collected seen)
    (wanting : (oldest :: newer).length < limit)
    (more : perReq < (pageWindow cadence H oldest.fundingTime).length) :
    ∃ known' collected' seen',
      olderPages adapter marketType symbol limit cadence (pages + 1) collected seen =
          .ok collected' ∧
        Walked adapter marketType symbol H known' collected' seen' ∧ Holed H limit known' := by
  have hole := holed_of_cut strict walked.strict wanting more
  have joined := walked.page strict cadence
  rw [olderPages_turn serves walked wanting]
  cases found : cutPage cadence H oldest.fundingTime with
  | nil =>
    have size := congrArg List.length found
    rw [cutPage, List.length_take, List.length_nil, perReq] at size
    rw [perReq] at more
    omega
  | cons first page =>
    rw [found, List.cons_append] at joined hole
    obtain ⟨before, collected', seen', returned, result⟩ :=
      olderPages_extends serves strict pages joined
    refine ⟨_, collected', seen', ?_, result, hole.prepend before⟩
    rw [if_neg (List.cons_ne_nil _ _)]
    exact returned

/-- The loop returns an end of the settlements where no page was cut, and leaves
a hole where one was. -/
theorem olderPages_walks (limit : ℕ) (cadence : ℤ) (serves : Serves H adapter)
    (strict : Strict H) (pages : ℕ) (suffix : oldest :: newer <:+ H)
    (walked : Walked adapter marketType symbol H (oldest :: newer) collected seen) :
    ∃ known' collected' seen',
      olderPages adapter marketType symbol limit cadence pages collected seen = .ok collected' ∧
        Walked adapter marketType symbol H known' collected' seen' ∧
          (PagesFit limit cadence H pages (oldest :: newer) → known' <:+ H) ∧
            (¬ PagesFit limit cadence H pages (oldest :: newer) → Holed H limit known') := by
  induction pages generalizing oldest newer collected seen with
  | zero =>
    exact ⟨_, collected, seen, rfl, walked, fun _ => suffix, fun cut => absurd trivial cut⟩
  | succ pages ih =>
    by_cases wanting : (oldest :: newer).length < limit
    · by_cases fits : (pageWindow cadence H oldest.fundingTime).length ≤ perReq
      · -- the page is the whole window
        have whole : cutPage cadence H oldest.fundingTime =
            pageWindow cadence H oldest.fundingTime := List.take_of_length_le fits
        have joined := walked.page strict cadence
        have longer := window_suffix strict suffix cadence
        rw [olderPages_turn serves walked wanting]
        cases found : pageWindow cadence H oldest.fundingTime with
        | nil =>
          have allFit : PagesFit limit cadence H (pages + 1) (oldest :: newer) :=
            pagesFit_of_empty limit found _
          exact ⟨_, collected, seen, if_pos (whole.trans found), walked, fun _ => suffix,
            fun cut => absurd allFit cut⟩
        | cons first page =>
          rw [whole, found, List.cons_append] at joined
          rw [found, List.cons_append] at longer
          obtain ⟨known', collected', seen', returned, result, kept, cut⟩ := ih longer joined
          refine ⟨known', collected', seen', ?_, result, fun fit => kept ?_, fun unfit => cut ?_⟩
          · rw [whole, found, if_neg (List.cons_ne_nil _ _)]
            exact returned
          · have rest := (fit wanting).2
            rwa [found, List.cons_append] at rest
          · intro rest
            refine unfit fun _ => ⟨fits, ?_⟩
            rwa [found, List.cons_append]
      · obtain ⟨known', collected', seen', returned, result, hole⟩ :=
          olderPages_cut serves strict pages walked wanting (not_le.mp fits)
        exact ⟨known', collected', seen', returned, result, fun fit => absurd (fit wanting).1 fits,
          fun _ => hole⟩
    · have enough : limit ≤ collected.length := by rw [walked.length]; omega
      exact ⟨_, collected, seen, olderPages_enough enough _, walked, fun _ => suffix,
        fun cut => absurd (fun wanted => absurd wanted wanting) cut⟩

end Loop

section Returned
variable {limit : ℕ}

/-- The cadence that the newest settlements give. -/
def recentCadence (limit : ℕ) (H : List Settlement) : ℤ :=
  cadenceMs ((recentPage limit H).map Settlement.fundingTime)

theorem Walked.recent (strict : Strict H) (limit : ℕ) :
    Walked adapter marketType symbol H (recentPage limit H)
      ((recentPage limit H).map (row adapter marketType symbol))
      ((recentPage limit H).map Settlement.fundingTime).toFinset where
  rows := List.Perm.refl _
  seen := rfl
  strict := List.Pairwise.sublist (rtake_suffix _ _).sublist strict
  part := fun _ member => (rtake_suffix _ _).mem member

/-- The newest settlements are enough. -/
theorem getFundingRate_recent (serves : Serves H adapter) (perpetual : marketType ≠ .spot)
    (wanted : 1 ≤ limit) (enough : limit ≤ (recentPage limit H).length) :
    getFundingRate adapter marketType symbol none limit =
      .ok ((recentPage limit H).map (row adapter marketType symbol)) := by
  have few : (recentPage limit H).length ≤ limit := by
    rw [recentPage, length_rtake]
    omega
  simp only [getFundingRate, if_neg perpetual, call_eq serves, answer, List.length_map]
  rw [← recentPage, if_pos enough, lastSlice, if_neg (by omega), rtake_of_length_le]
  rwa [List.length_map]

/-- Without any settlement, the loop takes the minimum of nothing. -/
theorem getFundingRate_nothing (serves : Serves [] adapter) (perpetual : marketType ≠ .spot)
    (wanted : 1 ≤ limit) :
    getFundingRate adapter marketType symbol none limit =
      .error (.valueError "min() iterable argument is empty") := by
  have none : [].rtake (min limit 200) = ([] : List Settlement) := List.rtake_nil _
  simp only [getFundingRate, if_neg perpetual, call_eq serves, answer, none, List.map_nil]
  rw [List.length_nil, if_neg (by omega), olderPages, List.length_nil, if_pos (by omega)]
  rfl

/-- What is returned when the newest settlements are not enough. -/
theorem getFundingRate_older (serves : Serves H adapter) (perpetual : marketType ≠ .spot)
    (strict : Strict H) (wanted : 1 ≤ limit) (some' : H ≠ [])
    (wanting : (recentPage limit H).length < limit) :
    ∃ known, getFundingRate adapter marketType symbol none limit =
        .ok ((known.rtake limit).map (row adapter marketType symbol)) ∧ Strict known ∧
      (PagesFit limit (recentCadence limit H) H 10 (recentPage limit H) → known <:+ H) ∧
      (¬ PagesFit limit (recentCadence limit H) H 10 (recentPage limit H) →
        Holed H limit known) := by
  have walked : Walked adapter marketType symbol H (recentPage limit H) _ _ :=
    Walked.recent strict limit
  have suffix : recentPage limit H <:+ H := rtake_suffix _ _
  have shown : 0 < (recentPage limit H).length := by
    have settlements := List.length_pos_of_ne_nil some'
    rw [recentPage, length_rtake]
    omega
  obtain ⟨oldest, newer, found⟩ := List.exists_cons_of_ne_nil (List.ne_nil_of_length_pos shown)
  rw [found] at walked suffix
  obtain ⟨known, collected, seen, returned, result, kept, cut⟩ := olderPages_walks
    limit (recentCadence limit H) serves strict 10 suffix walked
  refine ⟨known, ?_, result.strict, found ▸ kept, found ▸ cut⟩
  have sorted : sortByTime FundingRate.timestamp collected =
      known.map (row adapter marketType symbol) := by
    refine sortByTime_eq_of_perm result.rows (List.pairwise_map.mpr ?_)
    simp only [row_timestamp]
    exact result.strict
  simp only [getFundingRate, if_neg perpetual, call_eq serves, answer, List.length_map,
    map_row_timestamp]
  rw [← recentPage, if_neg (by omega), ← recentCadence, found, returned, Except.map, sorted,
    lastSlice, if_neg (by omega), map_rtake]

/-- A page that was cut leaves a hole in what is returned. -/
theorem not_holeFree_of_cut (serves : Serves H adapter) (perpetual : marketType ≠ .spot)
    (strict : Strict H) (wanted : 1 ≤ limit) (some' : H ≠ [])
    (wanting : (recentPage limit H).length < limit)
    (unfit : ¬ PagesFit limit (recentCadence limit H) H 10 (recentPage limit H)) :
    ¬ ∃ rows, getFundingRate adapter marketType symbol none limit = .ok rows ∧
      HoleFree adapter marketType symbol H limit rows := by
  rintro ⟨rows, same, holeFree⟩
  obtain ⟨known, returned, sorted, -, cut⟩ :=
    getFundingRate_older serves perpetual strict wanted some' wanting
  obtain rfl := Except.ok.inj (returned.symm.trans same)
  exact (cut unfit).not_holeFree strict sorted holeFree

end Returned

/-- What is returned has no hole exactly when there are settlements and going
back from the newest ones meets no window with more of them than fit on a page. -/
theorem getFundingRate_holeFree_iff (serves : Serves H adapter) (perpetual : marketType ≠ .spot)
    (strict : Strict H) {limit : ℕ} (wanted : 1 ≤ limit) :
    (∃ rows, getFundingRate adapter marketType symbol none limit = .ok rows ∧
        HoleFree adapter marketType symbol H limit rows) ↔
      H ≠ [] ∧ PagesFit limit (recentCadence limit H) H 10 (recentPage limit H) := by
  by_cases some' : H = []
  · subst some'
    rw [getFundingRate_nothing serves perpetual wanted]
    simp
  · by_cases wanting : (recentPage limit H).length < limit
    · constructor
      · intro holeFree
        refine ⟨some', ?_⟩
        by_contra unfit
        exact not_holeFree_of_cut serves perpetual strict wanted some' wanting unfit holeFree
      · rintro ⟨-, fit⟩
        obtain ⟨known, returned, -, kept, -⟩ :=
          getFundingRate_older serves perpetual strict wanted some' wanting
        refine ⟨_, returned, HoleFree.of_suffix strict ((rtake_suffix _ _).trans (kept fit)) ?_⟩
        rw [length_rtake]
        exact Nat.min_le_left _ _
    · refine iff_of_true ⟨_, getFundingRate_recent serves perpetual wanted (not_lt.mp wanting),
        HoleFree.of_suffix strict (rtake_suffix _ _) ?_⟩ ⟨some', ?_⟩
      · rw [length_rtake]
        omega
      · cases found : recentPage limit H with
        | nil => trivial
        | cons oldest newer => exact fun fewer => absurd (found ▸ fewer) wanting

theorem everyEightHours_strict : Strict (everyEightHours 250) :=
  Spaced.strict (by decide +kernel : Spaced Settlement.fundingTime 28800000 _) (by decide)

/-- Two hundred and fifty settlements are two hundred and an older page of fifty. -/
theorem getFundingRate_holeFree_iff_everyEightHours :
    ∃ rows, getFundingRate (bareAdapter (everyEightHours 250)) .linear "BTCUSDT" none 300 =
        .ok rows ∧
      HoleFree (bareAdapter (everyEightHours 250)) .linear "BTCUSDT" (everyEightHours 250) 300
        rows :=
  (getFundingRate_holeFree_iff (fun _ _ => rfl) (by decide) everyEightHours_strict
    (by decide)).mpr ⟨by decide +kernel, by decide +kernel⟩

/-- Settlements every hour, the eleven hundredth an hour before 2020. -/
def everyHour (count : ℕ) : List Settlement :=
  (List.range count).map fun k : ℕ => ⟨"BTCUSDT", 1 / 10000, 1573876800000 + 3600000 * k, by omega⟩

/-- After eleven hundred settlements every hour, two hundred every eight hours. -/
def hourlyBefore : List Settlement := everyHour 1100 ++ everyEightHours 200

theorem hourlyBefore_spaced :
    hourlyBefore.IsChain fun a b => a.fundingTime + 60000 ≤ b.fundingTime := by
  decide +kernel

/-- A hundred of the settlements every hour are missing. -/
theorem walk_leaves_hole : ¬ ∀ (adapter : Adapter) (marketType : MarketType) (symbol : String)
    (H : List Settlement) (limit : ℕ), Serves H adapter → marketType ≠ .spot →
    (H.IsChain fun a b => a.fundingTime + 60000 ≤ b.fundingTime) → 1 ≤ limit →
    ∃ rows, getFundingRate adapter marketType symbol none limit = .ok rows ∧
      HoleFree adapter marketType symbol H limit rows := by
  intro claimed
  have strict : Strict hourlyBefore :=
    Strict.of_chain (hourlyBefore_spaced.imp fun a b apart => by omega)
  exact not_holeFree_of_cut (fun _ _ => rfl) (by decide) strict (by decide) (by decide +kernel)
    (by decide +kernel) (by decide +kernel)
    (claimed (bareAdapter hourlyBefore) .linear "BTCUSDT" hourlyBefore 300 (fun _ _ => rfl)
      (by decide) hourlyBefore_spaced (by decide))

end ExchangeRouter.Funding
