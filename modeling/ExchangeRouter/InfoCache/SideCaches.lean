import ExchangeRouter.InfoCache.Instruments
import ExchangeRouter.InfoCache.Protocol

/-!
# The side caches of the instrument fetch

`_contract_multiplier_cache` and `_funding_interval_cache` are written row by row
and never cleared, so a fetch lays its entries over those of earlier ones, also
when it fails.
-/
namespace ExchangeRouter.InfoCache
open Lib OrderBooks

variable {F : Type}

def lookupEntry {V : Type} (cache : Dict MarketType (Dict SymbolKey V)) (marketType : MarketType)
    (key : SymbolKey) : Option V :=
  (cache.getD marketType .empty).get? key

/-- `_multiplier_for`, once the cache is ensured. -/
def Side.multiplier (side : Side F) (marketType : MarketType) (key : SymbolKey) : Option F :=
  lookupEntry side.multipliers marketType key

/-- `_funding_interval_ms_for`, once the cache is ensured. -/
def Side.interval (side : Side F) (marketType : MarketType) (key : SymbolKey) : Option ℤ :=
  lookupEntry side.intervals marketType key

theorem lookup_writeEntry {V : Type} (cache : Dict MarketType (Dict SymbolKey V))
    (marketType other : MarketType) (entry : Option (SymbolKey × V)) (key : SymbolKey) :
    lookupEntry (writeEntry cache marketType entry) other key =
      (lookupEntry (writeEntry .empty marketType entry) other key).or
        (lookupEntry cache other key) := by
  cases entry with
  | none => rfl
  | some written =>
    obtain ⟨target, v⟩ := written
    by_cases same : other = marketType
    · subst same
      by_cases hit : key = target
      · subst hit
        simp [lookupEntry, writeEntry, Dict.getD]
      · simp [lookupEntry, writeEntry, Dict.get?_set_ne _ _ hit, Dict.getD]
    · simp [lookupEntry, writeEntry, Dict.getD, Dict.get?_set_ne _ _ same]

theorem lookup_writeEntry_other {V : Type} {marketType other : MarketType} (apart : other ≠ marketType)
    (entry : Option (SymbolKey × V)) (key : SymbolKey) :
    lookupEntry (writeEntry .empty marketType entry) other key = none := by
  cases entry with
  | none => rfl
  | some written => simp [lookupEntry, writeEntry, Dict.getD, Dict.get?_set_ne _ _ apart]

/-- Reading rows lays what they write over what is there. -/
theorem readRows_overlay (marketType other : MarketType) (row : Json → RowEffect F)
    (rows : List Json) (key : SymbolKey) (side : Side F) :
    (readRows marketType row rows side).1.multiplier other key =
        ((readRows marketType row rows .empty).1.multiplier other key).or
          (side.multiplier other key) ∧
      (readRows marketType row rows side).1.interval other key =
        ((readRows marketType row rows .empty).1.interval other key).or
          (side.interval other key) := by
  induction rows generalizing side with
  | nil => exact ⟨rfl, rfl⟩
  | cons s rest ih =>
    have multiplier := lookup_writeEntry side.multipliers marketType other (row s).multiplier key
    have interval := lookup_writeEntry side.intervals marketType other (row s).interval key
    simp only [readRows]
    cases outcome : (row s).outcome with
    | error e => exact ⟨multiplier, interval⟩
    | ok info =>
      dsimp only
      rw [(ih (side.write marketType (row s))).1, (ih (side.write marketType (row s))).2,
        (ih (Side.empty.write marketType (row s))).1, (ih (Side.empty.write marketType (row s))).2,
        Option.or_assoc, Option.or_assoc]
      exact ⟨congrArg _ multiplier, congrArg _ interval⟩

theorem readRows_other {marketType other : MarketType} (apart : other ≠ marketType)
    (row : Json → RowEffect F) (rows : List Json) (key : SymbolKey) :
    (readRows marketType row rows .empty).1.multiplier other key = none ∧
      (readRows marketType row rows .empty).1.interval other key = none := by
  induction rows with
  | nil => exact ⟨rfl, rfl⟩
  | cons s rest ih =>
    have multiplier := lookup_writeEntry_other apart (row s).multiplier key
    have interval := lookup_writeEntry_other apart (row s).interval key
    simp only [readRows]
    cases outcome : (row s).outcome with
    | error e => exact ⟨multiplier, interval⟩
    | ok info =>
      have overlay := readRows_overlay marketType other row rest key
        (Side.empty.write marketType (row s))
      dsimp only
      rw [overlay.1, overlay.2, ih.1, ih.2]
      exact ⟨multiplier, interval⟩

theorem readRows_outcome (marketType : MarketType) (row : Json → RowEffect F) (rows : List Json)
    (side side' : Side F) :
    (readRows marketType row rows side).2 = (readRows marketType row rows side').2 := by
  induction rows generalizing side side' with
  | nil => rfl
  | cons s rest ih =>
    simp only [readRows]
    cases (row s).outcome with
    | error e => rfl
    | ok info =>
      dsimp only
      rw [ih (side.write marketType (row s)) (side'.write marketType (row s))]

/-- A fetch lays its own entries over the side caches, whatever these hold. -/
structure Overlays (source : Source (SymbolInfo F) (Side F) Replies PyError) : Prop where
  outcome : ∀ marketType replies side, (source.fetchExchangeInfo marketType replies side).2 =
    (source.fetchExchangeInfo marketType replies .empty).2
  multiplier : ∀ marketType replies side other key,
    (source.fetchExchangeInfo marketType replies side).1.multiplier other key =
      ((source.fetchExchangeInfo marketType replies .empty).1.multiplier other key).or
        (side.multiplier other key)
  interval : ∀ marketType replies side other key,
    (source.fetchExchangeInfo marketType replies side).1.interval other key =
      ((source.fetchExchangeInfo marketType replies .empty).1.interval other key).or
        (side.interval other key)
  other : ∀ marketType replies other key, other ≠ marketType →
    (source.fetchExchangeInfo marketType replies .empty).1.multiplier other key = none ∧
      (source.fetchExchangeInfo marketType replies .empty).1.interval other key = none

theorem fetchRows_overlays (rows : Replies → Except PyError (List Json))
    (row : MarketType → Json → RowEffect F) : Overlays (fetchRows rows row) where
  outcome marketType replies side := by
    simp only [fetchRows]
    cases rows replies with
    | error e => rfl
    | ok list => exact readRows_outcome marketType (row marketType) list side .empty
  multiplier marketType replies side other key := by
    simp only [fetchRows]
    cases rows replies with
    | error e => rfl
    | ok list => exact (readRows_overlay marketType other (row marketType) list key side).1
  interval marketType replies side other key := by
    simp only [fetchRows]
    cases rows replies with
    | error e => rfl
    | ok list => exact (readRows_overlay marketType other (row marketType) list key side).2
  other marketType replies other key apart := by
    simp only [fetchRows]
    cases rows replies with
    | error e => exact ⟨rfl, rfl⟩
    | ok list => exact readRows_other apart (row marketType) list key

theorem Venue.overlays (venue : Venue) (py : Numerals F) : Overlays (venue.source py) := by
  cases venue <;> exact fetchRows_overlays _ _

section Match
variable (source : Source (SymbolInfo F) (Side F) Replies PyError)

/-- What a fetch writes into empty side caches, and how it ends. -/
def derived (marketType : MarketType) (replies : Replies) : Side F :=
  (source.fetchExchangeInfo marketType replies .empty).1

/-- The side caches are those that the reply behind the listing gives. -/
def SideCachesMatch (s : State (SymbolInfo F) (Side F) Replies PyError) : Prop :=
  ∀ marketType key,
    s.side.multiplier marketType key = (latestSuccess s.attempts marketType).bind (fun served =>
      (derived source marketType served.1).multiplier marketType key) ∧
    s.side.interval marketType key = (latestSuccess s.attempts marketType).bind fun served =>
      (derived source marketType served.1).interval marketType key

/-- Every entry written is there already. -/
def WritesNothingNew (side written : Side F) (marketType : MarketType) : Prop :=
  ∀ key, (∀ v, written.multiplier marketType key = some v →
      side.multiplier marketType key = some v) ∧
    ∀ ms, written.interval marketType key = some ms → side.interval marketType key = some ms

/-- Every key with an entry is written. -/
def RewritesAll (side written : Side F) (marketType : MarketType) : Prop :=
  ∀ key, (written.multiplier marketType key = none → side.multiplier marketType key = none) ∧
    (written.interval marketType key = none → side.interval marketType key = none)

/-- A fetch that fails has written nothing new, and one that succeeds writes
every key that has an entry. -/
def keepsFetch (side : Side F) (replies : Replies) (marketType : MarketType) : Prop :=
  match (source.fetchExchangeInfo marketType replies .empty).2 with
  | .error _ => WritesNothingNew side (derived source marketType replies) marketType
  | .ok _ => RewritesAll side (derived source marketType replies) marketType

def keepsSideCaches (s : State (SymbolInfo F) (Side F) Replies PyError) : Event Replies → Prop
  | .finish _ replies => ∀ call ∈ s.holder, keepsFetch source s.side replies call.marketType
  | _ => True

end Match

theorem mem_keys_of_lookupEntry {V : Type} {cache : Dict MarketType (Dict SymbolKey V)}
    {marketType : MarketType} {key : SymbolKey} {v : V}
    (found : lookupEntry cache marketType key = some v) :
    key ∈ (cache.getD marketType .empty).keys :=
  Dict.mem_keys_of_get? found

theorem lookupEntry_eq_none {V : Type} {cache : Dict MarketType (Dict SymbolKey V)}
    {marketType : MarketType} {key : SymbolKey}
    (absent : key ∉ (cache.getD marketType .empty).keys) :
    lookupEntry cache marketType key = none :=
  (Dict.get?_eq_none_iff _ _).mpr absent

section Decide
variable {side written : Side F} {marketType : MarketType}

theorem writesNothingNew_iff : WritesNothingNew side written marketType ↔
    (∀ key ∈ (written.multipliers.getD marketType .empty).keys,
      side.multiplier marketType key = written.multiplier marketType key) ∧
    ∀ key ∈ (written.intervals.getD marketType .empty).keys,
      side.interval marketType key = written.interval marketType key := by
  constructor
  · intro nothing
    refine ⟨fun key member => ?_, fun key member => ?_⟩
    · obtain ⟨v, found⟩ := Option.isSome_iff_exists.mp ((Dict.get?_isSome_iff _ _).mpr member)
      exact ((nothing key).1 v found).trans found.symm
    · obtain ⟨ms, found⟩ := Option.isSome_iff_exists.mp ((Dict.get?_isSome_iff _ _).mpr member)
      exact ((nothing key).2 ms found).trans found.symm
  · rintro ⟨multipliers, intervals⟩ key
    refine ⟨fun v found => ?_, fun ms found => ?_⟩
    · rw [multipliers key (mem_keys_of_lookupEntry found), found]
    · rw [intervals key (mem_keys_of_lookupEntry found), found]

theorem rewritesAll_iff : RewritesAll side written marketType ↔
    (∀ key ∈ (side.multipliers.getD marketType .empty).keys,
      written.multiplier marketType key ≠ none) ∧
    ∀ key ∈ (side.intervals.getD marketType .empty).keys,
      written.interval marketType key ≠ none := by
  constructor
  · intro all
    refine ⟨fun key member omitted => ?_, fun key member omitted => ?_⟩
    · exact (Dict.get?_eq_none_iff _ _).mp ((all key).1 omitted) member
    · exact (Dict.get?_eq_none_iff _ _).mp ((all key).2 omitted) member
  · rintro ⟨multipliers, intervals⟩ key
    refine ⟨fun omitted => ?_, fun omitted => ?_⟩
    · exact lookupEntry_eq_none fun member => multipliers key member omitted
    · exact lookupEntry_eq_none fun member => intervals key member omitted

variable [DecidableEq F]

instance : Decidable (WritesNothingNew side written marketType) :=
  decidable_of_iff _ writesNothingNew_iff.symm

instance : Decidable (RewritesAll side written marketType) :=
  decidable_of_iff _ rewritesAll_iff.symm

instance (source : Source (SymbolInfo F) (Side F) Replies PyError) (replies : Replies) :
    Decidable (keepsFetch source side replies marketType) :=
  match outcome : (source.fetchExchangeInfo marketType replies .empty).2 with
  | .error _ =>
    decidable_of_iff (WritesNothingNew side (derived source marketType replies) marketType)
      (by simp [keepsFetch, outcome])
  | .ok _ =>
    decidable_of_iff (RewritesAll side (derived source marketType replies) marketType)
      (by simp [keepsFetch, outcome])

instance (source : Source (SymbolInfo F) (Side F) Replies PyError)
    (s : State (SymbolInfo F) (Side F) Replies PyError) (event : Event Replies) :
    Decidable (keepsSideCaches source s event) :=
  match event with
  | .call _ _ => isTrue trivial
  | .acquire _ _ => isTrue trivial
  | .cancel _ => isTrue trivial
  | .finish _ replies =>
    inferInstanceAs
      (Decidable (∀ call ∈ s.holder, keepsFetch source s.side replies call.marketType))

end Decide

theorem or_eq_right_iff {α : Type} {first second : Option α} :
    first.or second = second ↔ ∀ a, first = some a → second = some a := by
  cases first with
  | none => simp
  | some a => simp [eq_comm]

theorem or_eq_left_iff {α : Type} {first second : Option α} :
    first.or second = first ↔ (first = none → second = none) := by
  cases first <;> simp

section Steps
variable {source : Source (SymbolInfo F) (Side F) Replies PyError}
  {s s' : State (SymbolInfo F) (Side F) Replies PyError} {event : Event Replies}

/-- The side caches of the other market types stay. -/
theorem Overlays.stays (overlays : Overlays source) {marketType other : MarketType}
    (apart : other ≠ marketType) (replies : Replies) (side : Side F) (key : SymbolKey) :
    (source.fetchExchangeInfo marketType replies side).1.multiplier other key =
        side.multiplier other key ∧
      (source.fetchExchangeInfo marketType replies side).1.interval other key =
        side.interval other key := by
  have untouched := overlays.other marketType replies other key apart
  rw [overlays.multiplier, overlays.interval, untouched.1, untouched.2]
  exact ⟨Option.none_or, Option.none_or⟩

/-- A failed fetch keeps the match exactly when it has written nothing new. -/
theorem match_failed_iff (overlays : Overlays source) (matched : SideCachesMatch source s)
    {marketType : MarketType} {replies : Replies}
    (side : s'.side = (source.fetchExchangeInfo marketType replies s.side).1)
    (attempts : ∀ other, latestSuccess s'.attempts other = latestSuccess s.attempts other) :
    SideCachesMatch source s' ↔
      WritesNothingNew s.side (derived source marketType replies) marketType := by
  unfold SideCachesMatch WritesNothingNew
  simp only [side, attempts]
  constructor
  · intro after key
    have here := after marketType key
    rw [← (matched marketType key).1, ← (matched marketType key).2, overlays.multiplier,
      overlays.interval] at here
    exact ⟨or_eq_right_iff.mp here.1, or_eq_right_iff.mp here.2⟩
  · intro nothing other key
    rw [← (matched other key).1, ← (matched other key).2]
    by_cases same : other = marketType
    · subst same
      rw [overlays.multiplier, overlays.interval]
      exact ⟨or_eq_right_iff.mpr (nothing key).1, or_eq_right_iff.mpr (nothing key).2⟩
    · exact overlays.stays same replies s.side key

/-- A successful fetch keeps the match exactly when it rewrites every entry. -/
theorem match_fetched_iff (overlays : Overlays source) (matched : SideCachesMatch source s)
    {marketType : MarketType} {replies : Replies} {listing : Listing (SymbolInfo F)}
    (side : s'.side = (source.fetchExchangeInfo marketType replies s.side).1)
    (attempts : ∀ other, latestSuccess s'.attempts other =
      if marketType = other then some (replies, listing) else latestSuccess s.attempts other) :
    SideCachesMatch source s' ↔
      RewritesAll s.side (derived source marketType replies) marketType := by
  unfold SideCachesMatch RewritesAll
  simp only [side, attempts]
  constructor
  · intro after key
    have here := after marketType key
    rw [if_pos rfl, Option.bind_some, Option.bind_some, overlays.multiplier marketType replies s.side,
      overlays.interval marketType replies s.side] at here
    exact ⟨or_eq_left_iff.mp here.1, or_eq_left_iff.mp here.2⟩
  · intro all other key
    by_cases same : marketType = other
    · subst same
      rw [if_pos rfl, Option.bind_some, Option.bind_some,
        overlays.multiplier marketType replies s.side, overlays.interval marketType replies s.side]
      exact ⟨or_eq_left_iff.mpr (all key).1, or_eq_left_iff.mpr (all key).2⟩
    · rw [if_neg same, ← (matched other key).1, ← (matched other key).2]
      exact overlays.stays (Ne.symm same) replies s.side key

/-- From a match, a step keeps it exactly when the condition holds. -/
theorem sideCachesMatch_step_iff (overlays : Overlays source) (inv : Consistent s)
    (matched : SideCachesMatch source s) (taken : StepCase source s event s') :
    SideCachesMatch source s' ↔ keepsSideCaches source s event := by
  cases taken with
  | queued => exact iff_of_true matched trivial
  | hit idle waits later cached fresh => exact iff_of_true matched trivial
  | miss idle waits later due =>
    refine iff_of_true (fun marketType key => ?_) trivial
    simpa using matched marketType key
  | abandoned | left => exact iff_of_true matched trivial
  | raised holds later failed uncached =>
    obtain ⟨_, rest, attempts⟩ := inv.running _ holds
    rw [match_failed_iff overlays matched rfl fun other => by simp [attempts, settleAttempt]]
    simp [keepsSideCaches, keepsFetch, holds, ← overlays.outcome _ _ s.side, failed]
  | stale holds later failed cached =>
    obtain ⟨_, rest, attempts⟩ := inv.running _ holds
    rw [match_failed_iff overlays matched rfl fun other => by simp [attempts, settleAttempt]]
    simp [keepsSideCaches, keepsFetch, holds, ← overlays.outcome _ _ s.side, failed]
  | fetched holds later succeeded =>
    rename_i now replies call infos
    obtain ⟨_, rest, attempts⟩ := inv.running call holds
    have served : ∀ other, latestSuccess (settleAttempt
        (replies, .ok (listingOf source.symbol infos)) s.attempts) other =
        if call.marketType = other then some (replies, listingOf source.symbol infos)
        else latestSuccess s.attempts other := fun other => by
      simp only [attempts, settleAttempt, latestSuccess_served, latestSuccess_running]
    rw [match_fetched_iff overlays matched rfl served]
    simp [keepsSideCaches, keepsFetch, holds, ← overlays.outcome _ _ s.side, succeeded]

end Steps

/-- In every run whose failed fetches have written nothing new and whose
successful ones rewrite every entry, the side caches match the listing. -/
theorem sideCachesMatch_of_keepsSideCaches (venue : Venue) (py : Numerals F)
    {s : State (SymbolInfo F) (Side F) Replies PyError}
    (run : Reachable (system (venue.source py) .empty) (keepsSideCaches (venue.source py)) s) :
    SideCachesMatch (venue.source py) s := by
  refine run.invariant (fun _ _ => ⟨rfl, rfl⟩) fun s event s' before matched kept taken => ?_
  have inv := consistent_reachable (before.mono fun _ _ _ => trivial)
  exact (sideCachesMatch_step_iff (venue.overlays py) inv matched (stepCase_of_step taken)).mpr kept

/-- Numbers without rounding errors, and no texts that read as numbers. -/
def exactNumerals : Numerals ℚ where
  floatOfText _ := none
  floatOfRat := id
  intOfText _ := none
  abs v := |v|
  positive v := 0 < v
  notPositive v := v ≤ 0
  scaled v multiplier := v * multiplier
  fixed10 _ _ := ""
  str
    | .str s => s
    | _ => ""

/-- KuCoin's contract XBTUSDTM with a multiplier. -/
def xbtContract (multiplier : ℚ) : Json :=
  .obj [("status", .str "Open"), ("isInverse", .bool false), ("symbol", .str "XBTUSDTM"),
    ("multiplier", .num multiplier), ("fundingRateGranularity", .num 28800000),
    ("baseCurrency", .str "XBT"), ("quoteCurrency", .str "USDT")]

/-- Every request of a fetch is answered with these rows. -/
def rowsReply (rows : List Json) : Replies := fun _ => .ok (.arr rows)

/-- A first fetch, and a refresh a day later that reads one contract, then one
without a symbol. -/
def brokenRefresh (multiplier : ℚ) : List (Event Replies) :=
  [.call 0 .linear, .acquire 0 10, .finish 11 (rowsReply [xbtContract (1 / 1000)]),
    .call 1 .linear, .acquire 1 86410,
    .finish 86411 (rowsReply [xbtContract multiplier, .obj [("status", .str "Open")]])]

theorem brokenRefresh_keeps : (system (Venue.kucoin.source exactNumerals) .empty).endsIn
    (fun s event => keepsSideCaches (Venue.kucoin.source exactNumerals) s event)
    (brokenRefresh (1 / 1000)) (fun s =>
      s.side.multiplier .linear (.text "XBTUSDT") = some (1 / 1000) ∧
      s.side.interval .linear (.text "XBTUSDT") = some 28800000) = true := by
  decide +kernel

/-- The refresh repeats what is there before it fails. -/
theorem sideCachesMatch_of_keepsSideCaches_repeated : ∃ s,
    s.side.multiplier .linear (.text "XBTUSDT") = some (1 / 1000) ∧
    Reachable (system (Venue.kucoin.source exactNumerals) .empty)
      (keepsSideCaches (Venue.kucoin.source exactNumerals)) s ∧
    SideCachesMatch (Venue.kucoin.source exactNumerals) s := by
  obtain ⟨s, run, ends⟩ :=
    System.exists_reachable (fun _ _ _ kept => of_decide_eq_true kept) brokenRefresh_keeps
  exact ⟨s, (of_decide_eq_true ends).1, run,
    sideCachesMatch_of_keepsSideCaches .kucoin exactNumerals run⟩

theorem brokenRefresh_rescales : (system (Venue.kucoin.source exactNumerals) .empty).endsIn
    (fun _ _ => true) (brokenRefresh (1 / 100)) (fun s =>
      s.side.multiplier .linear (.text "XBTUSDT") = some (1 / 100) ∧
      (latestSuccess s.attempts .linear).map (fun served =>
        (derived (Venue.kucoin.source exactNumerals) .linear served.1).multiplier .linear
          (.text "XBTUSDT")) = some (some (1 / 1000))) = true := by
  decide +kernel

/-- The listing stays, and its contract is scaled by the multiplier of the reply
that failed. -/
theorem not_sideCachesMatch : ¬ ∀ s,
    Reachable (system (Venue.kucoin.source exactNumerals) .empty) anyStep s →
    SideCachesMatch (Venue.kucoin.source exactNumerals) s := by
  intro claimed
  obtain ⟨s, run, ends⟩ := System.exists_reachable (fun _ _ _ _ => trivial) brokenRefresh_rescales
  obtain ⟨held, derivedOne⟩ := of_decide_eq_true ends
  have promised := (claimed s run .linear (.text "XBTUSDT")).1
  obtain ⟨served, found, entry⟩ := Option.map_eq_some_iff.mp derivedOne
  rw [held, found, Option.bind_some, entry] at promised
  norm_num at promised

end ExchangeRouter.InfoCache
