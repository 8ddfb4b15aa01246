import ExchangeRouter.Lib.Retry
import ExchangeRouter.Requests.Model

/-!
# The retry budget of a request

One call of `_make_request`, for any sequence of rounds.  Other calls may move
the shared deadline at any await, so a round reads it afresh.
-/
namespace ExchangeRouter.Requests
open Lib

/-- The environment of one round: the clock and the deadline at its head, the
outcome of its request, and the clock and the deadline when that is handled. -/
structure Round where
  now : Time
  deadline : Time
  outcome : Outcome
  answeredAt : Time
  deadlineThen : Time

/-- `retries = 3`. -/
def retryBudget : ℕ := 3

/-- The raise behind the loop. -/
def maxRetriesExceeded (target : String) (round : Round) : RequestError :=
  let remaining := round.deadline - round.now
  .unavailable s!"Max retries exceeded for {target}" (if 0 < remaining then some remaining else none)

/-- `_make_request` from round `i` on: the reply and the number of HTTP requests
issued; `none` when the fuel does not reach the end. -/
def makeRequest (scheme : Scheme) (rounds : ℕ → Round) :
    ℕ → ℕ → ℕ → Option (Except RequestError Json × ℕ)
  | 0, _, _ => none
  | _ + 1, i, 0 => some (.error (maxRetriesExceeded scheme.target (rounds i)), 0)
  | fuel + 1, i, retries + 1 =>
    let round := rounds i
    match scheme.gate round.now round.deadline with
    | .refuse e => some (.error e, 0)
    | .go | .sleep _ =>
      match (scheme.handle (retries + 1) round.answeredAt round.deadlineThen round.outcome).2 with
      | .returns data => some (.ok data, 1)
      | .raises e => some (.error e, 1)
      | .again _ => (makeRequest scheme rounds fuel (i + 1) retries).map fun r => (r.1, r.2 + 1)
      | .silent =>
        (makeRequest scheme rounds fuel (i + 1) (retries + 1)).map fun r => (r.1, r.2 + 1)

/-- The call returns or raises after at most three HTTP requests. -/
def WithinBudget (scheme : Scheme) (rounds : ℕ → Round) : Prop :=
  ∃ fuel reply n, makeRequest scheme rounds fuel 0 retryBudget = some (reply, n) ∧ n ≤ retryBudget

/-- The adapters with such a loop, each at a target. -/
inductive Adapter
  | binance (host url : String)
  | bybit (endpoint : String)
  | okx (endpoint : String)
  | kucoin (base endpoint : String)
  | hyperliquid (infoType : String)

def Adapter.scheme : Adapter → Scheme
  | .binance host url => Requests.binance host url
  | .bybit endpoint => Requests.bybit endpoint
  | .okx endpoint => Requests.okx endpoint
  | .kucoin base endpoint => Requests.kucoin base endpoint
  | .hyperliquid infoType => Requests.hyperliquid infoType

/-- A success other than 200. -/
def Outcome.isOtherSuccess : Outcome → Prop
  | .response resp => 200 < resp.status ∧ resp.status < 300
  | .raised _ => False

/-- The call gives up before it issues the request of the round. -/
def Round.refuses (round : Round) (scheme : Scheme) : Prop :=
  ∃ e, scheme.gate round.now round.deadline = .refuse e

def Verdict.concludes : Verdict → Prop
  | .returns _ => True
  | .raises _ => True
  | .again _ => False
  | .silent => False

/-- The call returns or raises on the outcome of the round. -/
def Round.concludes (round : Round) (scheme : Scheme) : Prop :=
  (scheme.handle retryBudget round.answeredAt round.deadlineThen round.outcome).2.concludes

/-- The retries left do not enter the verdict. -/
theorem Adapter.verdict_retries (adapter : Adapter) (left left' : ℕ) (now deadline : Time)
    (outcome : Outcome) : (adapter.scheme.handle left now deadline outcome).2 =
      (adapter.scheme.handle left' now deadline outcome).2 := by
  cases adapter with
  | binance host url => rfl
  | bybit endpoint => rfl
  | okx endpoint => rfl
  | kucoin base endpoint => rfl
  | hyperliquid infoType =>
    cases outcome with
    | raised e => rfl
    | response resp =>
      simp only [Adapter.scheme, Requests.hyperliquid, hyperliquidHandle]
      split_ifs <;> rfl

theorem onException_ne_silent (e : PyError) : onException e ≠ .silent := by
  unfold onException
  split <;> simp

theorem onStatusError_ne_silent (exchange target : String) (status : ℕ) :
    onStatusError exchange target status ≠ .silent := by
  unfold onStatusError
  split_ifs <;> simp

theorem raiseForStatus_silent {exchange target : String} {status : ℕ} :
    raiseForStatus exchange target status = .silent ↔ isSuccess status = true := by
  unfold raiseForStatus
  split
  · simp_all
  · simp_all [onStatusError_ne_silent]

theorem onBody_ne_silent {read : Except PyError Verdict} (spoken : read ≠ .ok .silent) :
    onBody read ≠ .silent := by
  cases read with
  | ok verdict => exact fun silent => spoken (congrArg _ silent)
  | error e => exact onException_ne_silent e

theorem returns_ne_silent (json : Except PyError Json) : json.map Verdict.returns ≠ .ok .silent := by
  cases json <;> simp [Except.map]

theorem bind_ne_silent {json : Except PyError Json} {read : Json → Except PyError Verdict}
    (spoken : ∀ body, read body ≠ .ok .silent) : json.bind read ≠ .ok .silent := by
  cases json with
  | error e => simp [Except.bind]
  | ok body => exact spoken body

theorem codedResult_ne_silent (exchange success : String) (noData body : Json) :
    codedResult exchange success noData body ≠ .ok .silent := by
  simp only [codedResult, bind, pure, Except.bind, Except.pure]
  repeat' split
  all_goals simp

theorem bybitResult_ne_silent (data : Json) : bybitResult data ≠ .ok (some .silent) := by
  simp only [bybitResult, bind, pure, Except.bind, Except.pure]
  repeat' split
  all_goals simp

/-- A success other than 200 is neither refused nor retried by any adapter. -/
theorem isSuccess_iff {resp : Response} (notOk : resp.status ≠ 200) :
    isSuccess resp.status = true ↔ (Outcome.response resp).isOtherSuccess := by
  simp only [isSuccess, Outcome.isOtherSuccess, Bool.and_eq_true, decide_eq_true_eq]
  omega

/-- Only a success other than 200 leaves a round silent, and on such a response
the round is silent or ends the call. -/
structure SilentOnly (outcome : Outcome) (verdict : Verdict) : Prop where
  otherSuccess : verdict = .silent → outcome.isOtherSuccess
  silent : outcome.isOtherSuccess → verdict = .silent ∨ verdict.concludes

theorem SilentOnly.of_raised (e e' : PyError) : SilentOnly (.raised e) (onException e') :=
  ⟨fun silent => absurd silent (onException_ne_silent e'), False.elim⟩

theorem SilentOnly.of_spoken {resp : Response} {verdict : Verdict} (spoken : verdict ≠ .silent)
    (usual : ¬ (Outcome.response resp).isOtherSuccess) : SilentOnly (.response resp) verdict :=
  ⟨fun silent => absurd silent spoken, fun other => absurd other usual⟩

theorem SilentOnly.of_raiseForStatus {resp : Response} (exchange target : String)
    (notOk : resp.status ≠ 200) :
    SilentOnly (.response resp) (raiseForStatus exchange target resp.status) :=
  ⟨fun silent => (isSuccess_iff notOk).mp (raiseForStatus_silent.mp silent),
    fun other => .inl (raiseForStatus_silent.mpr ((isSuccess_iff notOk).mpr other))⟩

theorem SilentOnly.of_concludes {outcome : Outcome} {verdict : Verdict}
    (spoken : verdict.concludes) : SilentOnly outcome verdict :=
  ⟨fun silent => (silent ▸ spoken : Verdict.concludes .silent).elim, fun _ => .inr spoken⟩

theorem not_isOtherSuccess {resp : Response} (usual : resp.status = 200 ∨ 300 ≤ resp.status) :
    ¬ (Outcome.response resp).isOtherSuccess := by
  rintro ⟨above, below⟩
  omega

theorem binanceHandle_silentOnly (host url : String) (now deadline : Time) (outcome : Outcome) :
    SilentOnly outcome (binanceHandle host url now deadline outcome).2 := by
  cases outcome with
  | raised e => exact .of_raised e e
  | response resp =>
    simp only [binanceHandle]
    split
    · exact .of_concludes trivial
    · split_ifs with ok limited success known
      · exact .of_spoken (onBody_ne_silent (returns_ne_silent _)) (not_isOtherSuccess (.inl ok))
      · exact .of_spoken (by simp) (not_isOtherSuccess (by omega))
      · exact ⟨fun _ => (isSuccess_iff ok).mp success, fun _ => .inl rfl⟩
      · exact .of_concludes trivial
      · exact .of_spoken (onStatusError_ne_silent _ _ _)
          fun other => success ((isSuccess_iff ok).mpr other)

theorem bybitHandle_silentOnly (endpoint : String) (now deadline : Time) (outcome : Outcome) :
    SilentOnly outcome (bybitHandle endpoint now deadline outcome).2 := by
  cases outcome with
  | raised e => exact .of_raised e e
  | response resp =>
    simp only [bybitHandle]
    split
    · exact .of_concludes trivial
    · split
      · exact .of_concludes trivial
      · split_ifs with ok banned limited
        · have usual := not_isOtherSuccess (.inl ok)
          cases read : resp.json.bind bybitResult with
          | error e => exact .of_spoken (onException_ne_silent e) usual
          | ok result =>
            cases result with
            | none => exact .of_spoken (by simp) usual
            | some verdict =>
              refine .of_spoken (fun silent => ?_) usual
              subst silent
              cases json : resp.json with
              | error e => simp [json, Except.bind] at read
              | ok data => exact bybitResult_ne_silent data (by simpa [json, Except.bind] using read)
        · exact .of_concludes trivial
        · exact .of_spoken (by simp) (not_isOtherSuccess (by omega))
        · exact .of_raiseForStatus _ _ ok

theorem okxHandle_silentOnly (endpoint : String) (now deadline : Time) (outcome : Outcome) :
    SilentOnly outcome (okxHandle endpoint now deadline outcome).2 := by
  cases outcome with
  | raised e => exact .of_raised e e
  | response resp =>
    simp only [okxHandle]
    split_ifs with limited ok
    · exact .of_spoken (by simp) (not_isOtherSuccess (by omega))
    · exact .of_spoken (onBody_ne_silent (bind_ne_silent (codedResult_ne_silent _ _ _)))
        (not_isOtherSuccess (.inl ok))
    · exact .of_raiseForStatus _ _ ok

theorem kucoinHandle_silentOnly (endpoint : String) (now deadline : Time) (outcome : Outcome) :
    SilentOnly outcome (kucoinHandle endpoint now deadline outcome).2 := by
  cases outcome with
  | raised e => exact .of_raised e e
  | response resp =>
    simp only [kucoinHandle]
    split_ifs with limited ok
    · exact .of_spoken (by simp) (not_isOtherSuccess (by omega))
    · exact .of_spoken (onBody_ne_silent (bind_ne_silent (codedResult_ne_silent _ _ _)))
        (not_isOtherSuccess (.inl ok))
    · exact .of_raiseForStatus _ _ ok

theorem hyperliquidHandle_silentOnly (infoType : String) (retries : ℕ) (now deadline : Time)
    (outcome : Outcome) :
    SilentOnly outcome (hyperliquidHandle infoType retries now deadline outcome).2 := by
  cases outcome with
  | raised e => exact .of_raised e e
  | response resp =>
    simp only [hyperliquidHandle]
    split_ifs with ok limited rejected
    · exact .of_spoken (onBody_ne_silent (returns_ne_silent _)) (not_isOtherSuccess (.inl ok))
    · exact .of_spoken (by simp) (not_isOtherSuccess (by omega))
    · exact .of_concludes trivial
    · exact .of_raiseForStatus _ _ ok

theorem Adapter.silentOnly (adapter : Adapter) (retries : ℕ) (now deadline : Time)
    (outcome : Outcome) : SilentOnly outcome (adapter.scheme.handle retries now deadline outcome).2 := by
  cases adapter with
  | binance host url => exact binanceHandle_silentOnly host url now deadline outcome
  | bybit endpoint => exact bybitHandle_silentOnly endpoint now deadline outcome
  | okx endpoint => exact okxHandle_silentOnly endpoint now deadline outcome
  | kucoin base endpoint => exact kucoinHandle_silentOnly endpoint now deadline outcome
  | hyperliquid infoType => exact hyperliquidHandle_silentOnly infoType retries now deadline outcome

def Verdict.mark : Verdict → Mark
  | .returns _ => .settled
  | .raises _ => .settled
  | .again _ => .spent
  | .silent => .silent

/-- What a round comes to, as a round of a loop with a budget. -/
def Round.mark (round : Round) (scheme : Scheme) : Mark :=
  match scheme.gate round.now round.deadline with
  | .refuse _ => .refused
  | .go | .sleep _ =>
    (scheme.handle retryBudget round.answeredAt round.deadlineThen round.outcome).2.mark

theorem Round.mark_issued {round : Round} {scheme : Scheme} (issues : ¬ round.refuses scheme) :
    round.mark scheme =
      (scheme.handle retryBudget round.answeredAt round.deadlineThen round.outcome).2.mark := by
  unfold Round.mark
  cases gate : scheme.gate round.now round.deadline with
  | refuse e => exact absurd ⟨e, gate⟩ issues
  | go => rfl
  | sleep wait => rfl

theorem Round.mark_refused {round : Round} {scheme : Scheme} :
    round.mark scheme = .refused ↔ round.refuses scheme := by
  by_cases refuses : round.refuses scheme
  · obtain ⟨e, gate⟩ := refuses
    simp [Round.mark, Round.refuses, gate]
  · rw [Round.mark_issued refuses]
    cases (scheme.handle retryBudget round.answeredAt round.deadlineThen round.outcome).2 <;>
      simp [Verdict.mark, refuses]

theorem Verdict.mark_settled {verdict : Verdict} : verdict.mark = .settled ↔ verdict.concludes := by
  cases verdict <;> simp [Verdict.mark, Verdict.concludes]

theorem Verdict.mark_silent {verdict : Verdict} : verdict.mark = .silent ↔ verdict = .silent := by
  cases verdict <;> simp [Verdict.mark]

theorem makeRequest_issued {scheme : Scheme} {rounds : ℕ → Round} {i : ℕ}
    (issues : ¬ (rounds i).refuses scheme) (fuel retries : ℕ) :
    makeRequest scheme rounds (fuel + 1) i (retries + 1) =
      match (scheme.handle (retries + 1) (rounds i).answeredAt (rounds i).deadlineThen
        (rounds i).outcome).2 with
      | .returns data => some (.ok data, 1)
      | .raises e => some (.error e, 1)
      | .again _ => (makeRequest scheme rounds fuel (i + 1) retries).map fun r => (r.1, r.2 + 1)
      | .silent =>
        (makeRequest scheme rounds fuel (i + 1) (retries + 1)).map fun r => (r.1, r.2 + 1) := by
  cases gate : scheme.gate (rounds i).now (rounds i).deadline with
  | refuse e => exact absurd ⟨e, gate⟩ issues
  | go => simp only [makeRequest, gate]
  | sleep wait => simp only [makeRequest, gate]

/-- The requests of a call are those of a loop with a budget. -/
theorem makeRequest_requests (adapter : Adapter) (rounds : ℕ → Round) (fuel i retries : ℕ) :
    (makeRequest adapter.scheme rounds fuel i retries).map Prod.snd =
      requestsOf (fun k => (rounds k).mark adapter.scheme) fuel i retries := by
  induction fuel generalizing i retries with
  | zero => rfl
  | succ fuel ih =>
    cases retries with
    | zero => rfl
    | succ retries =>
      by_cases refuses : (rounds i).refuses adapter.scheme
      · have mark := Round.mark_refused.mpr refuses
        obtain ⟨e, gate⟩ := refuses
        simp [makeRequest, requestsOf, mark, gate]
      · have mark := Round.mark_issued refuses
        have counted : ∀ again : Option (Except RequestError Json × ℕ),
            (again.map fun r => (r.1, r.2 + 1)).map Prod.snd = (again.map Prod.snd).map (· + 1) := by
          intro again
          cases again <;> rfl
        rw [adapter.verdict_retries retryBudget (retries + 1)] at mark
        rw [makeRequest_issued refuses]
        cases verdict : (adapter.scheme.handle (retries + 1) (rounds i).answeredAt
            (rounds i).deadlineThen (rounds i).outcome).2 with
        | returns data => simp [requestsOf, mark, verdict, Verdict.mark]
        | raises e => simp [requestsOf, mark, verdict, Verdict.mark]
        | again pause => simp only [requestsOf, mark, verdict, Verdict.mark, counted, ih]
        | silent => simp only [requestsOf, mark, verdict, Verdict.mark, counted, ih]

theorem withinBudget_iff_endsWithin (adapter : Adapter) (rounds : ℕ → Round) :
    WithinBudget adapter.scheme rounds ↔
      EndsWithin (fun k => (rounds k).mark adapter.scheme) 0 retryBudget retryBudget := by
  constructor
  · rintro ⟨fuel, reply, n, ran, within⟩
    exact ⟨fuel, n, by rw [← makeRequest_requests, ran]; rfl, within⟩
  · rintro ⟨fuel, n, ran, within⟩
    rw [← makeRequest_requests] at ran
    obtain ⟨⟨reply, n'⟩, found, rfl⟩ := Option.map_eq_some_iff.mp ran
    exact ⟨fuel, reply, n', found, within⟩

/-- A call stays within its budget unless one of its first three requests is
answered with a success other than 200, nothing concludes the call within these
three, and it is not refused before the fourth. -/
theorem makeRequest_withinBudget_iff (adapter : Adapter) (rounds : ℕ → Round) :
    WithinBudget adapter.scheme rounds ↔
      ((∃ k < 3, (rounds k).outcome.isOtherSuccess) →
        (∃ k < 4, (rounds k).refuses adapter.scheme) ∨
          ∃ k < 3, (rounds k).concludes adapter.scheme) := by
  rw [withinBudget_iff_endsWithin, retryBudget, endsWithin_budget_iff]
  simp only [Nat.zero_add, Round.mark_refused]
  by_cases refused : ∃ k < 4, (rounds k).refuses adapter.scheme
  · simp [refused]
  · have issues : ∀ k < 3, ¬ (rounds k).refuses adapter.scheme :=
      fun k inside refuses => refused ⟨k, by omega, refuses⟩
    have settled : (∃ k < 3, (rounds k).mark adapter.scheme = .settled) ↔
        ∃ k < 3, (rounds k).concludes adapter.scheme := by
      refine exists_congr fun k => and_congr_right fun inside => ?_
      rw [Round.mark_issued (issues k inside), Verdict.mark_settled, Round.concludes]
    rw [settled]
    by_cases concluded : ∃ k < 3, (rounds k).concludes adapter.scheme
    · simp [concluded]
    · have silent : (∃ k < 3, (rounds k).mark adapter.scheme = .silent) ↔
          ∃ k < 3, (rounds k).outcome.isOtherSuccess := by
        refine exists_congr fun k => and_congr_right fun inside => ?_
        have only := adapter.silentOnly retryBudget (rounds k).answeredAt (rounds k).deadlineThen
          (rounds k).outcome
        rw [Round.mark_issued (issues k inside), Verdict.mark_silent]
        exact ⟨only.otherSuccess, fun other => (only.silent other).resolve_right
          fun concludes => concluded ⟨k, inside, concludes⟩⟩
      rw [silent]

/-- The answer `204 No Content`, over and over. -/
def noContent : Round :=
  ⟨0, 0, .response ⟨204, .empty, .error (.valueError "Expecting value"), ""⟩, 0, 0⟩

theorem noContent_mark (adapter : Adapter) : noContent.mark adapter.scheme = .silent := by
  cases adapter <;> rfl

theorem noContent_endless (adapter : Adapter) :
    ¬ WithinBudget adapter.scheme (fun _ => noContent) := by
  rw [withinBudget_iff_endsWithin]
  rintro ⟨fuel, n, ran, _⟩
  rw [show retryBudget = 2 + 1 from rfl, requestsOf_silent fun _ => noContent_mark adapter] at ran
  cases ran

/-- None of the five loops ends on it. -/
theorem makeRequest_not_withinBudget :
    ¬ WithinBudget (binance "api.binance.com" "https://api.binance.com/api/v3/time")
      (fun _ => noContent) ∧
    ¬ WithinBudget (bybit "/v5/market/time") (fun _ => noContent) ∧
    ¬ WithinBudget (okx "/api/v5/public/time") (fun _ => noContent) ∧
    ¬ WithinBudget (kucoin "https://api.kucoin.com" "/api/v1/timestamp") (fun _ => noContent) ∧
    ¬ WithinBudget (hyperliquid "meta") (fun _ => noContent) :=
  ⟨noContent_endless (.binance _ _), noContent_endless (.bybit _), noContent_endless (.okx _),
    noContent_endless (.kucoin _ _), noContent_endless (.hyperliquid _)⟩

end ExchangeRouter.Requests
