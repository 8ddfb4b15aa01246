import ExchangeRouter.InfoCache.Model

/-!
# The protocol of the SymbolInfo cache

What holds over every run of concurrent `_ensure_info_cache` calls: which listing
a call returns, when it raises, and how far apart the fetches lie.  A call that is
cancelled while it fetches leaves no timestamp, so the next fetch may start at once.
-/
namespace ExchangeRouter.InfoCache
open Lib OrderBooks

variable {Info Side Reply Err : Type} {source : Source Info Side Reply Err}
  {s s' : State Info Side Reply Err} {event : Event Reply}

/-- What one step does. -/
inductive StepCase (source : Source Info Side Reply Err) (s : State Info Side Reply Err) :
    Event Reply → State Info Side Reply Err → Prop
  | queued {id : CallId} {marketType : MarketType} :
      StepCase source s (.call id marketType)
        { s with waiting := s.waiting.set id marketType }
  | hit {id : CallId} {marketType : MarketType} {now : Time} {listing : Listing Info}
      (idle : s.holder = none) (waits : s.waiting.get? id = some marketType)
      (later : s.clock ≤ now) (cached : s.cache.get? marketType = some listing)
      (fresh : now - s.cachedAt.getD marketType 0 < infoRefreshS) :
      StepCase source s (.acquire id now)
        { s with clock := now, waiting := s.waiting.pop id,
                 answers := ⟨id, marketType, .ok listing⟩ :: s.answers }
  | miss {id : CallId} {marketType : MarketType} {now : Time}
      (idle : s.holder = none) (waits : s.waiting.get? id = some marketType)
      (later : s.clock ≤ now)
      (due : (s.cache.get? marketType).isSome →
        infoRefreshS ≤ now - s.cachedAt.getD marketType 0) :
      StepCase source s (.acquire id now)
        { s with clock := now, waiting := s.waiting.pop id,
                 holder := some ⟨id, marketType, now, s.cache.get? marketType⟩,
                 attempts := ⟨marketType, now, none⟩ :: s.attempts }
  | raised {now : Time} {reply : Reply} {call : Fetching Info} {e : Err}
      (holds : s.holder = some call) (later : s.clock ≤ now)
      (failed : (source.fetchExchangeInfo call.marketType reply s.side).2 = .error e)
      (uncached : call.cached = none) :
      StepCase source s (.finish now reply)
        { s with side := (source.fetchExchangeInfo call.marketType reply s.side).1, clock := now,
                 holder := none, attempts := settleAttempt (reply, .error e) s.attempts,
                 answers := ⟨call.id, call.marketType, .error e⟩ :: s.answers }
  | stale {now : Time} {reply : Reply} {call : Fetching Info} {e : Err} {listing : Listing Info}
      (holds : s.holder = some call) (later : s.clock ≤ now)
      (failed : (source.fetchExchangeInfo call.marketType reply s.side).2 = .error e)
      (cached : call.cached = some listing) :
      StepCase source s (.finish now reply)
        { s with side := (source.fetchExchangeInfo call.marketType reply s.side).1, clock := now,
                 holder := none, attempts := settleAttempt (reply, .error e) s.attempts,
                 cachedAt := s.cachedAt.set call.marketType
                   (call.now - infoRefreshS + infoRetryS),
                 answers := ⟨call.id, call.marketType, .ok listing⟩ :: s.answers }
  | fetched {now : Time} {reply : Reply} {call : Fetching Info} {infos : List Info}
      (holds : s.holder = some call) (later : s.clock ≤ now)
      (succeeded : (source.fetchExchangeInfo call.marketType reply s.side).2 = .ok infos) :
      StepCase source s (.finish now reply)
        { s with side := (source.fetchExchangeInfo call.marketType reply s.side).1, clock := now,
                 holder := none,
                 cache := s.cache.set call.marketType (listingOf source.symbol infos),
                 cachedAt := s.cachedAt.set call.marketType call.now,
                 attempts := settleAttempt (reply, .ok (listingOf source.symbol infos)) s.attempts,
                 answers := ⟨call.id, call.marketType,
                   .ok (listingOf source.symbol infos)⟩ :: s.answers }
  | abandoned {id : CallId} {call : Fetching Info} (holds : s.holder = some call)
      (own : call.id = id) :
      StepCase source s (.cancel id) { s with holder := none }
  | left {id : CallId} {marketType : MarketType} (waits : s.waiting.get? id = some marketType) :
      StepCase source s (.cancel id) { s with waiting := s.waiting.pop id }

theorem stepCase_of_step (taken : step source s event = some s') : StepCase source s event s' := by
  cases event with
  | call id marketType =>
    simp only [step] at taken
    split at taken
    · cases taken
    · cases taken
      exact .queued
  | acquire id now =>
    simp only [step] at taken
    split at taken
    · rename_i marketType idle waits
      split at taken
      · rename_i later
        cases taken
        unfold State.acquire
        cases cached : s.cache.get? marketType with
        | none =>
          dsimp only
          rw [← cached]
          exact .miss idle waits later (by simp [cached])
        | some listing =>
          dsimp only
          split
          · rename_i fresh
            exact .hit idle waits later cached fresh
          · rename_i old
            rw [← cached]
            exact .miss idle waits later fun _ => not_lt.mp old
      · cases taken
    · cases taken
  | finish now reply =>
    simp only [step] at taken
    split at taken
    · rename_i call holds
      split at taken
      · rename_i later
        cases taken
        unfold State.finish
        cases outcome : (source.fetchExchangeInfo call.marketType reply s.side).2 with
        | error e =>
          dsimp only
          simp only [outcome]
          cases cached : call.cached with
          | none => exact .raised holds later outcome cached
          | some listing => exact .stale holds later outcome cached
        | ok infos =>
          dsimp only
          simp only [outcome]
          exact .fetched holds later outcome
      · cases taken
    · cases taken
  | cancel id =>
    simp only [step, State.cancel] at taken
    split at taken
    · rename_i holding
      obtain ⟨call, holds, own⟩ := (Option.any_eq_true _ _).mp holding
      cases taken
      exact .abandoned holds (of_decide_eq_true own)
    · split at taken
      · rename_i waiting
        obtain ⟨marketType, waits⟩ := Option.isSome_iff_exists.mp waiting
        cases taken
        exact .left waits
      · cases taken

/-- The latest finished fetch of a market type. -/
def latestFinished (attempts : List (Attempt Info Reply Err)) (marketType : MarketType) :
    Option (Attempt Info Reply Err) :=
  attempts.find? fun attempt => attempt.marketType = marketType ∧ attempt.result.isSome

section Attempts
variable {attempts : List (Attempt Info Reply Err)} {marketType other : MarketType}
  {startedAt : Time} {reply : Reply}

@[simp] theorem latestSuccess_running :
    latestSuccess (⟨other, startedAt, none⟩ :: attempts) marketType =
      latestSuccess attempts marketType := by
  simp [latestSuccess, Attempt.served]

@[simp] theorem latestSuccess_failed {e : Err} :
    latestSuccess (⟨other, startedAt, some (reply, .error e)⟩ :: attempts) marketType =
      latestSuccess attempts marketType := by
  simp [latestSuccess, Attempt.served]

theorem latestSuccess_served {listing : Listing Info} :
    latestSuccess (⟨other, startedAt, some (reply, .ok listing)⟩ :: attempts) marketType =
      if other = marketType then some (reply, listing) else latestSuccess attempts marketType := by
  by_cases same : other = marketType <;> simp [latestSuccess, Attempt.served, same]

@[simp] theorem latestFinished_running :
    latestFinished (⟨other, startedAt, none⟩ :: attempts) marketType =
      latestFinished attempts marketType := by
  simp [latestFinished]

theorem latestFinished_settled {result : Reply × Except Err (Listing Info)} :
    latestFinished (⟨other, startedAt, some result⟩ :: attempts) marketType =
      if other = marketType then some ⟨other, startedAt, some result⟩
      else latestFinished attempts marketType := by
  by_cases same : other = marketType <;> simp [latestFinished, same]

end Attempts

/-- The cache holds the listing of the latest successful fetch, its timestamp is
that of the latest finished one, and the holder's fetch is the latest. -/
structure Consistent (s : State Info Side Reply Err) : Prop where
  running : ∀ call, s.holder = some call → call.cached = s.cache.get? call.marketType ∧
    ∃ rest, s.attempts = ⟨call.marketType, call.now, none⟩ :: rest
  cache : ∀ marketType, s.cache.get? marketType = latestListing s.attempts marketType
  stamped : ∀ marketType, (s.cache.get? marketType).isSome →
    ∃ attempt, latestFinished s.attempts marketType = some attempt ∧
      s.cachedAt.get? marketType = some attempt.stamp

theorem Consistent.initial (side : Side) :
    Consistent (State.initial side : State Info Side Reply Err) :=
  ⟨fun _ holds => by simp [State.initial] at holds, fun _ => rfl,
    fun _ cached => by simp [State.initial] at cached⟩

theorem Consistent.step (inv : Consistent s) (taken : StepCase source s event s') :
    Consistent s' := by
  cases taken with
  | queued => exact ⟨inv.running, inv.cache, inv.stamped⟩
  | hit idle waits later cached fresh => exact ⟨inv.running, inv.cache, inv.stamped⟩
  | miss idle waits later due =>
    refine ⟨?_, ?_, ?_⟩
    · rintro call ⟨rfl⟩
      exact ⟨rfl, s.attempts, rfl⟩
    · intro marketType
      simpa [latestListing] using inv.cache marketType
    · simpa using inv.stamped
  | raised holds later failed uncached =>
    rename_i now reply call e
    obtain ⟨cached, rest, attempts⟩ := inv.running call holds
    refine ⟨fun _ held => by simp at held, fun marketType => ?_, fun marketType present => ?_⟩
    · simpa [attempts, settleAttempt, latestListing] using inv.cache marketType
    · have absent : call.marketType ≠ marketType := by
        rintro rfl
        rw [← cached, uncached] at present
        cases present
      simpa [attempts, settleAttempt, latestFinished_settled, absent] using
        inv.stamped marketType present
  | stale holds later failed cached =>
    rename_i now reply call e listing
    obtain ⟨_, rest, attempts⟩ := inv.running call holds
    refine ⟨fun _ held => by simp at held, fun marketType => ?_, fun marketType present => ?_⟩
    · simpa [attempts, settleAttempt, latestListing] using inv.cache marketType
    · by_cases same : call.marketType = marketType
      · subst same
        simp [attempts, settleAttempt, latestFinished_settled, Attempt.stamp, Attempt.succeeded]
      · have kept := inv.stamped marketType present
        simpa [attempts, settleAttempt, latestFinished_settled, same,
          Dict.get?_set_ne _ _ (Ne.symm same)] using kept
  | fetched holds later succeeded =>
    rename_i now reply call infos
    obtain ⟨_, rest, attempts⟩ := inv.running call holds
    refine ⟨fun _ held => by simp at held, fun marketType => ?_, fun marketType present => ?_⟩
    · by_cases same : call.marketType = marketType
      · subst same
        simp [attempts, settleAttempt, latestListing, latestSuccess_served]
      · simpa [attempts, settleAttempt, latestListing, latestSuccess_served, same,
          Dict.get?_set_ne _ _ (Ne.symm same)] using inv.cache marketType
    · by_cases same : call.marketType = marketType
      · subst same
        simp [attempts, settleAttempt, latestFinished_settled, Attempt.stamp, Attempt.succeeded]
      · rw [Dict.get?_set_ne _ _ (Ne.symm same)] at present
        have kept := inv.stamped marketType present
        simpa [attempts, settleAttempt, latestFinished_settled, same,
          Dict.get?_set_ne _ _ (Ne.symm same)] using kept
  | abandoned => exact ⟨fun _ held => by simp at held, inv.cache, inv.stamped⟩
  | left => exact ⟨inv.running, inv.cache, inv.stamped⟩

theorem consistent_reachable {side : Side} (run : Reachable (system source side) anyStep s) :
    Consistent s := by
  refine run.invariant (Consistent.initial side) fun s event s' _ inv _ taken => ?_
  exact inv.step (stepCase_of_step taken)

/-- The market type of the call that a step is about. -/
def State.subject (s : State Info Side Reply Err) : Event Reply → Option MarketType
  | .call _ marketType => some marketType
  | .acquire id _ => s.waiting.get? id
  | .finish _ _ => s.holder.map Fetching.marketType
  | .cancel _ => none

/-- What a step of the cache may do. -/
structure Protocol (s : State Info Side Reply Err) (event : Event Reply)
    (s' : State Info Side Reply Err) : Prop where
  listing : ∀ marketType, s'.cache.get? marketType = latestListing s'.attempts marketType
  /-- Before the first listing, a call passes on its own fetch. -/
  first : ∀ answer, s'.answers = answer :: s.answers →
    latestListing s.attempts answer.marketType = none →
    (∃ call, s.holder = some call ∧ call.id = answer.id ∧ call.marketType = answer.marketType) ∧
    (∃ startedAt reply rest,
      s'.attempts = ⟨answer.marketType, startedAt, some (reply, answer.result)⟩ :: rest) ∧
    ∀ e, answer.result = .error e → s'.cache = s.cache ∧ s'.cachedAt = s.cachedAt
  served : ∀ answer, s'.answers = answer :: s.answers →
    latestListing s.attempts answer.marketType ≠ none →
    ∃ listing, answer.result = .ok listing ∧
      latestListing s'.attempts answer.marketType = some listing
  failed : ∀ attempt rest reply e, s'.attempts = attempt :: rest →
    attempt.result = some (reply, .error e) → s'.cache = s.cache
  /-- A fetch keeps its distance from the latest one that was not cancelled. -/
  spaced : ∀ attempt previous, s'.attempts = attempt :: s.attempts →
    latestFinished s.attempts attempt.marketType = some previous →
    latestListing s.attempts attempt.marketType ≠ none →
    previous.startedAt + infoRetryS ≤ attempt.startedAt ∧
      (previous.succeeded → previous.startedAt + infoRefreshS ≤ attempt.startedAt)
  /-- A cancelled call is not answered, and leaves listings and timestamps alone. -/
  cancelled : ∀ id, event = .cancel id →
    s'.answers = s.answers ∧ s'.cache = s.cache ∧ s'.cachedAt = s.cachedAt
  isolated : ∀ marketType, s.subject event ≠ some marketType →
    s'.cache.get? marketType = s.cache.get? marketType ∧
      s'.cachedAt.get? marketType = s.cachedAt.get? marketType

theorem length_settleAttempt (result : Reply × Except Err (Listing Info))
    (attempts : List (Attempt Info Reply Err)) :
    (settleAttempt result attempts).length = attempts.length := by
  cases attempts <;> rfl

/-- Settling a fetch is no new fetch. -/
theorem settleAttempt_ne_cons {result : Reply × Except Err (Listing Info)}
    {attempts : List (Attempt Info Reply Err)} {attempt : Attempt Info Reply Err} :
    settleAttempt result attempts ≠ attempt :: attempts := by
  intro same
  have length := congrArg List.length same
  rw [length_settleAttempt, List.length_cons] at length
  omega

/-- A call that does not find a fresh listing fetches at its proper distance. -/
theorem Consistent.spaced (inv : Consistent s) {marketType : MarketType}
    {now : Time} {previous : Attempt Info Reply Err}
    (due : (s.cache.get? marketType).isSome →
      infoRefreshS ≤ now - s.cachedAt.getD marketType 0)
    (found : latestFinished s.attempts marketType = some previous)
    (populated : latestListing s.attempts marketType ≠ none) :
    previous.startedAt + infoRetryS ≤ now ∧
      (previous.succeeded → previous.startedAt + infoRefreshS ≤ now) := by
  have present : (s.cache.get? marketType).isSome := by
    rw [inv.cache]
    exact Option.isSome_iff_ne_none.mpr populated
  obtain ⟨latest, finished, stamp⟩ := inv.stamped marketType present
  obtain rfl : previous = latest := Option.some.inj (found.symm.trans finished)
  have old := due present
  rw [Dict.getD, stamp, Option.getD_some, Attempt.stamp] at old
  split at old
  · simp only [infoRefreshS, infoRetryS] at old ⊢
    exact ⟨by linarith, fun _ => by linarith⟩
  · rename_i failed
    exact ⟨by linarith, fun succeeded => absurd succeeded failed⟩

/-- A step that answers no call and starts no fetch. -/
theorem Protocol.quiet (listing : ∀ marketType, s'.cache.get? marketType =
      latestListing s'.attempts marketType)
    (answers : s'.answers = s.answers) (attempts : s'.attempts = s.attempts)
    (cache : s'.cache = s.cache) (stamps : s'.cachedAt = s.cachedAt) : Protocol s event s' := by
  have silent (answer : Answer Info Err) : s'.answers ≠ answer :: s.answers := by
    rw [answers]
    exact (List.cons_ne_self _ _).symm
  have idle (attempt : Attempt Info Reply Err) : s'.attempts ≠ attempt :: s.attempts := by
    rw [attempts]
    exact (List.cons_ne_self _ _).symm
  exact ⟨listing, fun answer grown => absurd grown (silent answer),
    fun answer grown => absurd grown (silent answer), fun _ _ _ _ _ _ => cache,
    fun attempt _ grown => absurd grown (idle attempt), fun _ _ => ⟨answers, cache, stamps⟩,
    fun marketType _ => ⟨by rw [cache], by rw [stamps]⟩⟩

/-- A step that answers a call, with what is left to say of its answer. -/
theorem Protocol.answering {answer : Answer Info Err}
    (listing : ∀ marketType, s'.cache.get? marketType = latestListing s'.attempts marketType)
    (answers : s'.answers = answer :: s.answers)
    (settled : ∀ attempt, s'.attempts ≠ attempt :: s.attempts)
    (alive : ∀ id, event ≠ .cancel id)
    (first : latestListing s.attempts answer.marketType = none →
      (∃ call, s.holder = some call ∧ call.id = answer.id ∧ call.marketType = answer.marketType) ∧
      (∃ startedAt reply rest,
        s'.attempts = ⟨answer.marketType, startedAt, some (reply, answer.result)⟩ :: rest) ∧
      ∀ e, answer.result = .error e → s'.cache = s.cache ∧ s'.cachedAt = s.cachedAt)
    (served : latestListing s.attempts answer.marketType ≠ none →
      ∃ listing, answer.result = .ok listing ∧
        latestListing s'.attempts answer.marketType = some listing)
    (failed : ∀ attempt rest reply e, s'.attempts = attempt :: rest →
      attempt.result = some (reply, .error e) → s'.cache = s.cache)
    (isolated : ∀ marketType, s.subject event ≠ some marketType →
      s'.cache.get? marketType = s.cache.get? marketType ∧
        s'.cachedAt.get? marketType = s.cachedAt.get? marketType) : Protocol s event s' := by
  have own {other : Answer Info Err} (grown : s'.answers = other :: s.answers) : other = answer :=
    (List.cons.inj (grown.symm.trans answers)).1
  refine ⟨listing, fun other grown => ?_, fun other grown => ?_, failed,
    fun attempt _ grown => absurd grown (settled attempt), fun id named => absurd named (alive id),
    isolated⟩
  · rw [own grown]
    exact first
  · rw [own grown]
    exact served

theorem Consistent.protocol (inv : Consistent s) (taken : StepCase source s event s') :
    Protocol s event s' := by
  have next := inv.step taken
  cases taken with
  | queued => exact .quiet next.cache rfl rfl rfl rfl
  | hit idle waits later cached fresh =>
    rename_i id marketType now listing
    refine .answering next.cache rfl (fun _ => (List.cons_ne_self _ _).symm)
      (fun _ named => by cases named) ?_ ?_ (fun _ _ _ _ _ _ => rfl) fun _ _ => ⟨rfl, rfl⟩
    · intro empty
      rw [← inv.cache, cached] at empty
      cases empty
    · exact fun _ => ⟨listing, rfl, (inv.cache marketType).symm.trans cached⟩
  | miss idle waits later due =>
    refine ⟨next.cache, fun answer grown => absurd grown.symm (List.cons_ne_self _ _),
      fun answer grown => absurd grown.symm (List.cons_ne_self _ _), fun _ _ _ _ _ _ => rfl, ?_,
      (fun _ named => by cases named), fun _ _ => ⟨rfl, rfl⟩⟩
    intro attempt previous grown found populated
    obtain rfl := (List.cons.inj grown).1
    exact inv.spaced due found populated
  | raised holds later failed uncached =>
    rename_i now reply call e
    obtain ⟨cached, rest, attempts⟩ := inv.running call holds
    refine .answering next.cache rfl (fun _ => settleAttempt_ne_cons)
      (fun _ named => by cases named) ?_ ?_ (fun _ _ _ _ _ _ => rfl) fun _ _ => ⟨rfl, rfl⟩
    · exact fun _ => ⟨⟨call, holds, rfl, rfl⟩,
        ⟨call.now, reply, rest, by simp [attempts, settleAttempt]⟩, fun _ _ => ⟨rfl, rfl⟩⟩
    · exact fun populated => absurd (by rw [← inv.cache, ← cached, uncached]) populated
  | stale holds later failed cached =>
    rename_i now reply call e listing
    obtain ⟨same, rest, attempts⟩ := inv.running call holds
    have current : latestListing s.attempts call.marketType = some listing := by
      rw [← inv.cache, ← same, cached]
    refine .answering next.cache rfl (fun _ => settleAttempt_ne_cons)
      (fun _ named => by cases named) ?_ ?_ (fun _ _ _ _ _ _ => rfl) ?_
    · intro empty
      rw [current] at empty
      cases empty
    · exact fun _ => ⟨listing, rfl, by rw [← next.cache, ← current, inv.cache]⟩
    · intro marketType other
      have apart : marketType ≠ call.marketType := by
        rintro rfl
        simp [State.subject, holds] at other
      exact ⟨rfl, Dict.get?_set_ne _ _ apart⟩
  | fetched holds later succeeded =>
    rename_i now reply call infos
    obtain ⟨_, rest, attempts⟩ := inv.running call holds
    refine .answering next.cache rfl (fun _ => settleAttempt_ne_cons)
      (fun _ named => by cases named) ?_ ?_ ?_ ?_
    · exact fun _ => ⟨⟨call, holds, rfl, rfl⟩,
        ⟨call.now, reply, rest, by simp [attempts, settleAttempt]⟩, fun e raised => by cases raised⟩
    · exact fun _ => ⟨_, rfl, by rw [← next.cache, Dict.get?_set_self]⟩
    · intro attempt older reply' e grown raised
      simp only [attempts, settleAttempt, List.cons.injEq] at grown
      obtain ⟨rfl, _⟩ := grown
      cases raised
    · intro marketType other
      have apart : marketType ≠ call.marketType := by
        rintro rfl
        simp [State.subject, holds] at other
      exact ⟨Dict.get?_set_ne _ _ apart, Dict.get?_set_ne _ _ apart⟩
  | abandoned | left => exact .quiet next.cache rfl rfl rfl rfl

/-- Every step of every run follows the protocol. -/
theorem ensureInfoCache_protocol {side : Side}
    (run : Reachable (system source side) anyStep s) (taken : step source s event = some s') :
    Protocol s event s' :=
  (consistent_reachable run).protocol (stepCase_of_step taken)

/-- An adapter that lists the symbols that the upstream replies with. -/
def plainSource : Source String Unit (Except String (List String)) String where
  fetchExchangeInfo _ reply side := (side, reply)
  symbol := id

/-- A first fetch, and a refresh a day later that has not been answered yet. -/
def refreshAfterADay : List (Event (Except String (List String))) :=
  [.call 0 .spot, .acquire 0 10, .finish 11 (.ok ["BTCUSDT"]), .call 1 .spot, .acquire 1 86410]

theorem refreshAfterADay_ends : (system plainSource ()).endsIn (fun _ _ => true) refreshAfterADay
    (fun s => (step plainSource s (.finish 86411 (.error "down"))).any fun s' =>
      s'.answers.map (fun answer => (answer.id, answer.result.toOption.map Dict.keys)) =
        [(1, some ["BTCUSDT"]), (0, some ["BTCUSDT"])]) = true := by
  decide +kernel

/-- The refresh fails, and the call is answered with the earlier listing. -/
theorem ensureInfoCache_protocol_refreshAfterADay : ∃ s s',
    Reachable (system plainSource ()) anyStep s ∧
    step plainSource s (.finish 86411 (.error "down")) = some s' ∧
    Protocol s (.finish 86411 (.error "down")) s' := by
  obtain ⟨s, run, ends⟩ := System.exists_reachable (fun _ _ _ _ => trivial) refreshAfterADay_ends
  obtain ⟨s', taken, _⟩ := (Option.any_eq_true _ _).mp ends
  exact ⟨s, s', run, taken, ensureInfoCache_protocol run taken⟩

/-- A refresh whose call is cancelled, and the next call a second later. -/
def cancelledRefresh : List (Event (Except String (List String))) :=
  [.call 0 .spot, .acquire 0 10, .finish 11 (.ok ["BTCUSDT"]), .call 1 .spot, .acquire 1 86410,
    .call 2 .spot, .cancel 1]

theorem cancelledRefresh_ends : (system plainSource ()).endsIn (fun _ _ => true) cancelledRefresh
    (fun s => s.holder.isNone ∧ s.waiting.get? 2 = some .spot ∧ s.clock ≤ 86411 ∧
      infoRefreshS ≤ 86411 - s.cachedAt.getD .spot 0 ∧ (latestListing s.attempts .spot).isSome ∧
      (s.attempts.find? fun earlier => earlier.marketType = .spot).map Attempt.startedAt =
        some 86410) = true := by
  decide +kernel

/-- Two fetches for a populated market type, a second apart. -/
theorem cancelled_refresh_repeats : ¬ ∀ s event s',
    Reachable (system plainSource ()) anyStep s → step plainSource s event = some s' →
    ∀ attempt previous, s'.attempts = attempt :: s.attempts →
      s.attempts.find? (fun earlier => earlier.marketType = attempt.marketType) = some previous →
      latestListing s.attempts attempt.marketType ≠ none →
      previous.startedAt + infoRetryS ≤ attempt.startedAt := by
  intro claimed
  obtain ⟨s, run, ends⟩ := System.exists_reachable (fun _ _ _ _ => trivial) cancelledRefresh_ends
  obtain ⟨idle, waits, later, old, populated, earlier⟩ := of_decide_eq_true ends
  obtain ⟨previous, found, started⟩ := Option.map_eq_some_iff.mp earlier
  have taken : step plainSource s (.acquire 2 86411) = some (s.acquire 2 .spot 86411) := by
    simp only [step, Option.isNone_iff_eq_none.mp idle, waits, if_pos later]
  have grown : (s.acquire 2 .spot 86411).attempts = ⟨.spot, 86411, none⟩ :: s.attempts := by
    unfold State.acquire
    cases cached : s.cache.get? .spot with
    | none => rfl
    | some listing =>
      dsimp only
      rw [if_neg (not_lt.mpr old)]
  have spaced := claimed s _ _ run taken _ previous grown found
    (Option.isSome_iff_ne_none.mp populated)
  rw [started, infoRetryS] at spaced
  norm_num at spaced

end ExchangeRouter.InfoCache
