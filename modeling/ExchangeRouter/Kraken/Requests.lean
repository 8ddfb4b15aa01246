import ExchangeRouter.Kraken.Answers

/-!
# Concurrent requests to Kraken

Any number of calls of `_make_request` in `src/exchanges/kraken/adapter.py` over
the one throttle.  An answer is handled and its pause set without an await that
lets another call in between; `trace` records requests and answers, oldest first.
-/
namespace ExchangeRouter.Kraken.Requests
open Lib
open Throttle (Time Params Grant CallId PairCall backoffWait baseIntervalMs pairIntervalMs)

/-- A call of `_make_request` that has not returned. -/
structure Call where
  url : String
  params : Params
  progress : Progress
  /-- The request of the attempt is issued and not answered. -/
  inFlight : Bool

inductive Moment
  | request (id : CallId) (grant : Grant)
  | answer (id : CallId) (url : String) (attempt : ℕ) (answer : Answer)

structure State where
  throttle : Throttle.State
  calls : Dict CallId Call
  ended : Dict CallId (String × Reply)
  trace : List Moment

def State.initial : State := ⟨.initial, .empty, .empty, []⟩

/-- An attempt begins with `_await_throttle`. -/
def State.enter (s : State) (id : CallId) (call : Call) : Option State :=
  (Throttle.step s.throttle (.await id call.url call.params)).map fun throttle =>
    { s with throttle := throttle, calls := s.calls.set id call }

/-- The `_set_backoff` of an answer, if it has one. -/
def State.pause (texts : Texts) (s : State) (call : Call) (answer : Answer) : Option State :=
  match answer.verdict texts call.url with
  | .backoff retryUntil strong _ =>
    (Throttle.step s.throttle (.setBackoff answer.now call.progress.attempt retryUntil strong
      answer.factor)).map fun throttle => { s with throttle := throttle }
  | _ => some s

def State.settle (s : State) (id : CallId) (call : Call) : Standing → Option State
  | .running p => s.enter id { call with progress := p, inFlight := false }
  | .ended reply =>
    some { s with calls := s.calls.pop id, ended := s.ended.set id (call.url, reply) }

def State.respond (texts : Texts) (s : State) (id : CallId) (call : Call) (answer : Answer) :
    Option State :=
  (s.pause texts call answer).bind fun paused =>
    { paused with
      trace := s.trace ++ [Moment.answer id call.url call.progress.attempt answer] }.settle id call
      (call.progress.after texts call.url answer)

inductive Event
  | call (id : CallId) (url : String) (params : Params)
  /-- A call takes the lock of the throttle; it is let through or sleeps. -/
  | turn (id : CallId) (now : Time) (jitter : ℚ)
  | respond (id : CallId) (answer : Answer)

def step (texts : Texts) (s : State) : Event → Option State
  | .call id url params =>
    if (s.calls.get? id).isSome || (s.ended.get? id).isSome then none
    else s.enter id ⟨url, params, .start, false⟩
  | .turn id now jitter =>
    match s.calls.get? id with
    | none => none
    | some call =>
      if call.inFlight then none
      else
        (Throttle.step s.throttle (.turn id now jitter)).map fun throttle =>
          if (throttle.waiting.get? id).isSome then { s with throttle := throttle }
          else
            { s with throttle := throttle
                     calls := s.calls.set id { call with inFlight := true }
                     trace := s.trace ++ [.request id ⟨now, call.url, call.params⟩] }
  | .respond id answer =>
    match s.calls.get? id with
    | none => none
    | some call =>
      if call.inFlight ∧ s.throttle.clock ≤ answer.readAt ∧ answer.readAt ≤ answer.now then
        s.respond texts id call answer
      else none

def system (texts : Texts) : System State Event := ⟨.initial, step texts⟩

/-! ## What the trace says -/

def Moment.grant? : Moment → Option Grant
  | .request _ grant => some grant
  | .answer .. => none

def requests (trace : List Moment) : List Grant := trace.filterMap Moment.grant?

def Moment.requestOf? (id : CallId) : Moment → Option Grant
  | .request other grant => if other = id then some grant else none
  | .answer .. => none

def requestsOf (id : CallId) (trace : List Moment) : List Grant :=
  trace.filterMap (Moment.requestOf? id)

def Moment.answerOf? (id : CallId) : Moment → Option Answer
  | .request .. => none
  | .answer other _ _ given => if other = id then some given else none

def answersOf (id : CallId) (trace : List Moment) : List Answer :=
  trace.filterMap (Moment.answerOf? id)

/-- All requests are to wait; after a rate limit they also keep a larger distance. -/
structure Hold where
  setAt : Time
  deadline : Time
  strong : Bool

def Moment.hold (texts : Texts) : Moment → Option Hold
  | .request .. => none
  | .answer _ url attempt given =>
    match given.verdict texts url with
    | .backoff retryUntil strong _ => some ⟨given.now,
        given.now + backoffWait given.now attempt retryUntil given.factor, strong⟩
    | _ => none

/-- A request keeps to all that went before: the pauses that answers asked for,
and its distance to the earlier requests. -/
structure Clear (texts : Texts) (earlier : List Moment) (grant : Grant) : Prop where
  held : ∀ moment ∈ earlier, ∀ hold, moment.hold texts = some hold → hold.deadline ≤ grant.time
  base : ∀ previous ∈ requests earlier, previous.time + baseIntervalMs / 1000 ≤ grant.time
  slowed : ∀ moment ∈ earlier, ∀ hold, moment.hold texts = some hold → hold.strong = true →
    grant.time < hold.setAt + 60 → ∀ previous ∈ requests earlier,
      previous.time + (baseIntervalMs + 1000) / 1000 ≤ grant.time
  pair : ∀ endpoint text, PairCall grant.url grant.params endpoint text →
    ∀ previous ∈ requests earlier, PairCall previous.url previous.params endpoint text →
      previous.time + pairIntervalMs / 1000 ≤ grant.time

/-- The throttle knows of a hold, which lies ahead of the time at which it was set. -/
structure Knows (throttle : Throttle.State) (hold : Hold) : Prop where
  ahead : 0 < hold.setAt ∧ hold.setAt ≤ hold.deadline
  deadline : hold.deadline ≤ throttle.backoffUntil
  slow : hold.strong = true →
    hold.setAt + 60 ≤ throttle.slowdownUntil ∧ 1000 ≤ throttle.extraIntervalMs

/-- The requests of the trace are the grants of the throttle, which knows its holds. -/
structure Paced (texts : Texts) (s : State) : Prop where
  reached : Reachable Throttle.system anyStep s.throttle
  waiting : ∀ id call, s.calls.get? id = some call → call.inFlight = false →
    ∃ waiter, s.throttle.waiting.get? id = some waiter ∧ waiter.url = call.url ∧
      waiter.params = call.params
  granted : requests s.trace = s.throttle.granted.reverse
  knows : ∀ moment ∈ s.trace, ∀ hold, moment.hold texts = some hold → Knows s.throttle hold
  clear : ∀ earlier id grant later, s.trace = earlier ++ .request id grant :: later →
    Clear texts earlier grant

section Steps
variable {texts : Texts} {s s' : State} {id : CallId} {call : Call} {answer : Answer}

/-! ## Steps of the throttle -/

theorem throttle_next {t t' : Throttle.State} {event : Throttle.Event}
    (reached : Reachable Throttle.system anyStep t) (taken : Throttle.step t event = some t') :
    Reachable Throttle.system anyStep t' := .next reached trivial taken

/-- The throttle forgets no hold. -/
theorem Knows.step {t t' : Throttle.State} {event : Throttle.Event} {hold : Hold}
    (knows : Knows t hold) (taken : Throttle.step t event = some t') : Knows t' hold := by
  have extra : t.extraIntervalMs ≤ t'.extraIntervalMs := by
    cases Throttle.stepCase_of_step taken with
    | queued | granted | asleep => exact le_refl _
    | backedOff later =>
      simp only [Throttle.setBackoff]
      split
      · exact le_max_left _ _
      · exact le_refl _
  obtain ⟨backoff, slowdown⟩ := Throttle.deadlines_mono taken
  exact ⟨knows.ahead, knows.deadline.trans backoff, fun strong =>
    ⟨(knows.slow strong).1.trans slowdown, (knows.slow strong).2.trans extra⟩⟩

theorem backoffWait_nonneg (now : ℚ) (attempt : ℕ) (retryUntil : Option Time) {factor : ℚ}
    (positive : 1 / 2 ≤ factor) : 0 ≤ backoffWait now attempt retryUntil factor := by
  have usual : 0 ≤ min (60 : ℚ) (2 ^ attempt) * factor := by
    have lower : (0 : ℚ) ≤ min 60 (2 ^ attempt) := le_min (by norm_num) (by positivity)
    exact mul_nonneg lower (by linarith)
  unfold backoffWait
  cases retryUntil with
  | none => exact usual
  | some deadline =>
    dsimp only
    split
    · rename_i later
      linarith [later.2]
    · exact usual

/-- A pause lasts to the deadline that was named for it. -/
theorem deadline_le_backoffWait {now factor deadline : ℚ} {attempt : ℕ} (later : 0 < now)
    (forward : now ≤ now + backoffWait now attempt (some deadline) factor) :
    deadline ≤ now + backoffWait now attempt (some deadline) factor := by
  by_cases named : deadline ≠ 0 ∧ now < deadline
  · simp [backoffWait, named]
  · rw [not_and_or, not_not, not_lt] at named
    rcases named with rfl | past <;> linarith

/-- A caller of the throttle is let through, or sleeps on. -/
theorem turn_cases {t t' : Throttle.State} {now : Time} {jitter : ℚ}
    (taken : Throttle.step t (.turn id now jitter) = some t') :
    ∃ waiter, t.waiting.get? id = some waiter ∧
      (t' = t.grant id waiter now ∧ Throttle.waitFor t now waiter.url waiter.params ≤ 0 ∨
        ∃ slept, t' = { t with clock := now,
                               waiting := t.waiting.set id { waiter with slept := slept } }) := by
  simp only [Throttle.step] at taken
  split at taken
  · cases taken
  · rename_i waiter found
    refine ⟨waiter, found, ?_⟩
    split at taken
    · cases taken
      unfold Throttle.awaitThrottle
      dsimp only
      split
      · rename_i through
        exact .inl ⟨rfl, through⟩
      · exact .inr ⟨_, rfl⟩
    · cases taken

/-- A request goes through only when it keeps to all that the throttle knows. -/
theorem clear_of_wait {t : Throttle.State} {trace : List Moment} {now : Time} {url : String}
    {params : Params} (reached : Reachable Throttle.system anyStep t)
    (granted : requests trace = t.granted.reverse)
    (knows : ∀ moment ∈ trace, ∀ hold, moment.hold texts = some hold → Knows t hold)
    (through : Throttle.waitFor t now url params ≤ 0) : Clear texts trace ⟨now, url, params⟩ := by
  have recorded := Throttle.recorded_reachable reached
  have spaced := recorded.spaced through
  have member (previous : Grant) : previous ∈ requests trace ↔ previous ∈ t.granted := by
    rw [granted, List.mem_reverse]
  have newest : ∀ previous ∈ t.granted, ∃ head, t.granted.head? = some head ∧
      previous.time ≤ head.time := by
    intro previous inside
    have ordered := recorded.ordered
    cases grants : t.granted with
    | nil => simp [grants] at inside
    | cons head older =>
      rw [grants] at inside ordered
      refine ⟨head, rfl, ?_⟩
      rcases List.mem_cons.mp inside with rfl | behind
      · exact le_refl _
      · exact (List.pairwise_cons.mp ordered).1 previous behind
  refine ⟨?_, ?_, ?_, ?_⟩
  · intro moment inside hold asked
    exact (knows moment inside hold asked).deadline.trans spaced.backoff
  · intro previous inside
    obtain ⟨head, first, later⟩ := newest previous ((member previous).mp inside)
    have far := spaced.base head first
    linarith
  · intro moment inside hold asked strong early previous before
    obtain ⟨slow, extra⟩ := (knows moment inside hold asked).slow strong
    obtain ⟨head, first, later⟩ := newest previous ((member previous).mp before)
    have far := spaced.slowdown (lt_of_lt_of_le early slow) head first
    linarith
  · intro endpoint text called previous before same
    exact spaced.pair endpoint text called previous ((member previous).mp before) same

/-! ## Steps of the calls -/

theorem enter_cases (taken : s.enter id call = some s') :
    s.throttle.waiting.get? id = none ∧
      Throttle.step s.throttle (.await id call.url call.params) = some s'.throttle ∧
      s' = { s with
        throttle := { s.throttle with
          waiting := s.throttle.waiting.set id ⟨call.url, call.params, 0⟩ }
        calls := s.calls.set id call } := by
  simp only [State.enter, Throttle.step] at taken ⊢
  split at taken
  · cases taken
  · rename_i free
    cases taken
    simp [free]

theorem pause_cases (taken : s.pause texts call answer = some s') :
    s' = { s with throttle := s'.throttle } ∧
      ((∀ id, (Moment.answer id call.url call.progress.attempt answer).hold texts = none) ∧
        s'.throttle = s.throttle ∨
      ∃ hold event, (∀ id, (Moment.answer id call.url call.progress.attempt answer).hold texts =
          some hold) ∧ Throttle.step s.throttle event = some s'.throttle ∧
        s'.throttle.waiting = s.throttle.waiting ∧ s'.throttle.granted = s.throttle.granted ∧
        Knows s'.throttle hold) := by
  simp only [State.pause] at taken
  split at taken
  · rename_i retryUntil strong bodyError verdict
    obtain ⟨throttle, moved, rfl⟩ := Option.map_eq_some_iff.mp taken
    refine ⟨rfl, .inr ⟨⟨answer.now, answer.now + backoffWait answer.now call.progress.attempt
      retryUntil answer.factor, strong⟩, _, fun id => by simp [Moment.hold, verdict], moved, ?_⟩⟩
    simp only [Throttle.step] at moved
    split at moved
    · rename_i guards
      cases moved
      have forward := backoffWait_nonneg answer.now call.progress.attempt retryUntil guards.2.2.1
      refine ⟨rfl, rfl, ⟨guards.1, by simpa using forward⟩, le_max_right _ _, fun slow => ?_⟩
      simp only at slow
      simp [Throttle.setBackoff, slow]
    · cases moved
  · rename_i none
    cases taken
    refine ⟨rfl, .inl ⟨fun id => ?_, rfl⟩⟩
    simp only [Moment.hold]

theorem split_snoc {trace earlier later : List Moment} {moment : Moment} {grant : Grant}
    (shape : trace ++ [moment] = earlier ++ .request id grant :: later) :
    earlier = trace ∧ moment = .request id grant ∨
      ∃ rest, trace = earlier ++ .request id grant :: rest := by
  rcases List.eq_nil_or_concat later with rfl | ⟨rest, last, rfl⟩
  · obtain ⟨same, singles⟩ := List.append_inj' shape rfl
    exact .inl ⟨same.symm, by simpa using singles⟩
  · rw [List.concat_eq_append, ← List.cons_append, ← List.append_assoc] at shape
    exact .inr ⟨rest, (List.append_inj' shape rfl).1⟩

theorem requests_snoc (trace : List Moment) (moment : Moment) :
    requests (trace ++ [moment]) = requests trace ++ moment.grant?.toList := by
  rw [requests, List.filterMap_append]
  cases moment <;> rfl

theorem Paced.initial : Paced texts State.initial :=
  ⟨.init, by simp [State.initial], rfl, by simp [State.initial], by simp [State.initial]⟩

theorem Paced.enter (paced : Paced texts s) (taken : s.enter id call = some s') :
    Paced texts s' := by
  obtain ⟨-, moved, rfl⟩ := enter_cases taken
  refine ⟨throttle_next paced.reached moved, fun other call' found sleeping => ?_, paced.granted,
    fun moment member hold asked => (paced.knows moment member hold asked).step moved, paced.clear⟩
  by_cases same : other = id
  · subst same
    rw [Dict.get?_set_self, Option.some.injEq] at found
    exact ⟨_, Dict.get?_set_self _ _ _, by rw [found], by rw [found]⟩
  · rw [Dict.get?_set_ne _ _ same] at found ⊢
    exact paced.waiting other call' found sleeping

/-- A pause is set, and the answer that asked for it recorded. -/
theorem Paced.answered (paced : Paced texts s) {paused : State}
    (taken : s.pause texts call answer = some paused) : Paced texts { paused with
      trace := s.trace ++ [Moment.answer id call.url call.progress.attempt answer] } := by
  obtain ⟨same, effect⟩ := pause_cases taken
  have calls : paused.calls = s.calls := by
    have fields := congrArg State.calls same
    exact fields
  have clear : ∀ earlier other grant later,
      s.trace ++ [Moment.answer id call.url call.progress.attempt answer] =
        earlier ++ .request other grant :: later → Clear texts earlier grant := by
    intro earlier other grant later shape
    rcases split_snoc shape with ⟨-, isRequest⟩ | ⟨rest, before⟩
    · cases isRequest
    · exact paced.clear earlier other grant rest before
  have granted (t : Throttle.State) (kept : t.granted = s.throttle.granted) :
      requests (s.trace ++ [Moment.answer id call.url call.progress.attempt answer]) =
        t.granted.reverse := by
    rw [requests_snoc, kept, paced.granted]
    exact List.append_nil _
  rcases effect with ⟨none, kept⟩ | ⟨hold, event, asked, moved, waiting, grants, knows⟩
  · refine ⟨kept ▸ paced.reached, ?_, granted _ (by rw [kept]), ?_, clear⟩
    · intro other call' found
      rw [calls] at found
      rw [kept]
      exact paced.waiting other call' found
    · intro moment member hold asked
      rw [kept]
      rcases List.mem_append.mp member with before | last
      · exact paced.knows moment before hold asked
      · rw [List.mem_singleton.mp last, none] at asked
        cases asked
  · refine ⟨throttle_next paced.reached moved, ?_, granted _ grants, ?_, clear⟩
    · intro other call' found
      rw [calls] at found
      rw [waiting]
      exact paced.waiting other call' found
    · intro moment member hold' asked'
      rcases List.mem_append.mp member with before | last
      · exact (paced.knows moment before hold' asked').step moved
      · rw [List.mem_singleton.mp last, asked] at asked'
        cases asked'
        exact knows

theorem Paced.settle (paced : Paced texts s) {standing : Standing}
    (taken : s.settle id call standing = some s') : Paced texts s' := by
  cases standing with
  | running p => exact paced.enter taken
  | ended reply =>
    cases taken
    refine ⟨paced.reached, fun other call' found => ?_, paced.granted, paced.knows, paced.clear⟩
    exact paced.waiting other call' (Dict.get?_of_pop found).2

/-- What the turn of a call can do. -/
theorem turned_cases {now : Time} {jitter : ℚ} (paced : Paced texts s)
    (taken : step texts s (.turn id now jitter) = some s') :
    ∃ call, s.calls.get? id = some call ∧ call.inFlight = false ∧
      Throttle.step s.throttle (.turn id now jitter) = some s'.throttle ∧
      (s' = { s with throttle := s'.throttle } ∧ s'.throttle.granted = s.throttle.granted ∧
          (∀ other waiter, s.throttle.waiting.get? other = some waiter →
            ∃ slept, s'.throttle.waiting.get? other = some { waiter with slept := slept }) ∨
        s' = { s with throttle := s'.throttle
                      calls := s.calls.set id { call with inFlight := true }
                      trace := s.trace ++ [.request id ⟨now, call.url, call.params⟩] } ∧
          s'.throttle.granted = ⟨now, call.url, call.params⟩ :: s.throttle.granted ∧
          s'.throttle.waiting = s.throttle.waiting.pop id ∧
          Throttle.waitFor s.throttle now call.url call.params ≤ 0) := by
  simp only [step] at taken
  split at taken
  · cases taken
  · rename_i call found
    split at taken
    · cases taken
    · rename_i waits
      rw [Bool.not_eq_true] at waits
      obtain ⟨throttle, moved, shape⟩ := Option.map_eq_some_iff.mp taken
      obtain ⟨waiter, asked, url, params⟩ := paced.waiting id call found waits
      obtain ⟨same, known, what⟩ := turn_cases moved
      cases asked.symm.trans known
      rcases what with ⟨rfl, through⟩ | ⟨slept, rfl⟩
      · rw [if_neg (by simp [Throttle.State.grant])] at shape
        subst shape
        refine ⟨call, found, waits, moved, .inr ⟨rfl, ?_, rfl, ?_⟩⟩
        · rw [Throttle.State.grant, url, params]
        · rwa [url, params] at through
      · rw [if_pos (by simp)] at shape
        subst shape
        refine ⟨call, found, waits, moved, .inl ⟨rfl, rfl, fun other waiter' found' => ?_⟩⟩
        by_cases own : other = id
        · subst own
          cases asked.symm.trans found'
          exact ⟨slept, Dict.get?_set_self _ _ _⟩
        · exact ⟨waiter'.slept, (Dict.get?_set_ne _ _ own).trans found'⟩

theorem Paced.turned {now : Time} {jitter : ℚ} (paced : Paced texts s)
    (taken : step texts s (.turn id now jitter) = some s') : Paced texts s' := by
  obtain ⟨call, found, waits, moved, what⟩ := turned_cases paced taken
  have reached := throttle_next paced.reached moved
  rcases what with ⟨same, grants, asleep⟩ | ⟨same, grants, popped, through⟩
  · have trace : s'.trace = s.trace := by
      have fields := congrArg State.trace same
      exact fields
    have calls : s'.calls = s.calls := by
      have fields := congrArg State.calls same
      exact fields
    refine ⟨reached, fun other call' found' sleeping => ?_, ?_, ?_, ?_⟩
    · rw [calls] at found'
      obtain ⟨waiter, known, url, params⟩ := paced.waiting other call' found' sleeping
      obtain ⟨slept, later⟩ := asleep other waiter known
      exact ⟨_, later, url, params⟩
    · rw [trace, grants]
      exact paced.granted
    · rw [trace]
      exact fun moment member hold asked => (paced.knows moment member hold asked).step moved
    · rw [trace]
      exact paced.clear
  · have trace : s'.trace = s.trace ++ [.request id ⟨now, call.url, call.params⟩] := by
      have fields := congrArg State.trace same
      exact fields
    have calls : s'.calls = s.calls.set id { call with inFlight := true } := by
      have fields := congrArg State.calls same
      exact fields
    refine ⟨reached, fun other call' found' sleeping => ?_, ?_, ?_, ?_⟩
    · rw [calls] at found'
      by_cases own : other = id
      · subst own
        rw [Dict.get?_set_self, Option.some.injEq] at found'
        rw [← found'] at sleeping
        cases sleeping
      · rw [Dict.get?_set_ne _ _ own] at found'
        rw [popped, Dict.get?_pop_ne _ own]
        exact paced.waiting other call' found' sleeping
    · rw [trace, grants, requests_snoc, paced.granted, List.reverse_cons]
      rfl
    · rw [trace]
      intro moment member hold asked
      rcases List.mem_append.mp member with before | last
      · exact (paced.knows moment before hold asked).step moved
      · rw [List.mem_singleton.mp last] at asked
        cases asked
    · rw [trace]
      intro earlier other grant later shape
      rcases split_snoc shape with ⟨rfl, isRequest⟩ | ⟨rest, before⟩
      · cases isRequest
        exact clear_of_wait paced.reached paced.granted paced.knows through
      · exact paced.clear earlier other grant rest before

theorem respond_cases (taken : step texts s (.respond id answer) = some s') :
    ∃ call paused, s.calls.get? id = some call ∧ call.inFlight = true ∧
      s.pause texts call answer = some paused ∧
      { paused with trace := s.trace ++ [Moment.answer id call.url call.progress.attempt answer]
        }.settle id call (call.progress.after texts call.url answer) = some s' := by
  simp only [step] at taken
  split at taken
  · cases taken
  · rename_i call found
    split at taken
    · rename_i guards
      obtain ⟨paused, pauses, settles⟩ := Option.bind_eq_some_iff.mp taken
      exact ⟨call, paused, found, guards.1, pauses, settles⟩
    · cases taken

theorem call_cases {url : String} {params : Params}
    (taken : step texts s (.call id url params) = some s') :
    s.calls.get? id = none ∧ s.ended.get? id = none ∧
      s.enter id ⟨url, params, .start, false⟩ = some s' := by
  simp only [step] at taken
  split at taken
  · cases taken
  · rename_i fresh
    simp only [Bool.or_eq_true, not_or, Bool.not_eq_true, Option.isSome_eq_false_iff,
      Option.isNone_iff_eq_none] at fresh
    exact ⟨fresh.1, fresh.2, taken⟩

theorem Paced.step {event : Event} (paced : Paced texts s)
    (taken : step texts s event = some s') : Paced texts s' := by
  cases event with
  | call id url params => exact paced.enter (call_cases taken).2.2
  | turn id now jitter => exact paced.turned taken
  | respond id answer =>
    obtain ⟨call, paused, -, -, pauses, settles⟩ := respond_cases taken
    exact (paced.answered pauses).settle settles

/-! ## The attempts of a call -/

/-- The requests of a call go to its address, one for each answer and those in flight. -/
structure Issued (trace : List Moment) (id : CallId) (url : String) (inFlight : ℕ) : Prop where
  count : (requestsOf id trace).length = (answersOf id trace).length + inFlight
  target : ∀ grant ∈ requestsOf id trace, grant.url = url

/-- The answers of a call are those that its loop has gone through. -/
structure Account (texts : Texts) (s : State) (id : CallId) : Prop where
  running : ∀ call, s.calls.get? id = some call →
    GoesOn texts call.url (answersOf id s.trace) call.progress ∧
      Issued s.trace id call.url (if call.inFlight then 1 else 0)
  ended : ∀ url reply, s.ended.get? id = some (url, reply) →
    s.calls.get? id = none ∧ (makeRequest texts url (answersOf id s.trace) = .ended reply ∧
      Ends texts url (answersOf id s.trace) reply) ∧ Issued s.trace id url 0
  unused : s.calls.get? id = none → s.ended.get? id = none →
    requestsOf id s.trace = [] ∧ answersOf id s.trace = []

theorem requestsOf_snoc (trace : List Moment) (moment : Moment) :
    requestsOf id (trace ++ [moment]) = requestsOf id trace ++ (moment.requestOf? id).toList := by
  rw [requestsOf, List.filterMap_append]
  cases found : moment.requestOf? id <;> simp [requestsOf, found]

theorem answersOf_snoc (trace : List Moment) (moment : Moment) :
    answersOf id (trace ++ [moment]) = answersOf id trace ++ (moment.answerOf? id).toList := by
  rw [answersOf, List.filterMap_append]
  cases found : moment.answerOf? id <;> simp [answersOf, found]

/-- The call that a moment is about. -/
def Moment.caller : Moment → CallId
  | .request id _ => id
  | .answer id _ _ _ => id

theorem others_snoc {moment : Moment} (other : id ≠ moment.caller) (trace : List Moment) :
    requestsOf id (trace ++ [moment]) = requestsOf id trace ∧
      answersOf id (trace ++ [moment]) = answersOf id trace := by
  rw [requestsOf_snoc, answersOf_snoc]
  cases moment <;> simp_all [Moment.requestOf?, Moment.answerOf?, Moment.caller, Ne.symm]

theorem Account.congr (account : Account texts s id) (calls : s'.calls.get? id = s.calls.get? id)
    (ended : s'.ended.get? id = s.ended.get? id)
    (trace : requestsOf id s'.trace = requestsOf id s.trace ∧
      answersOf id s'.trace = answersOf id s.trace) : Account texts s' id := by
  obtain ⟨requests, answers⟩ := trace
  have issued (url : String) (inFlight : ℕ) (before : Issued s.trace id url inFlight) :
      Issued s'.trace id url inFlight :=
    ⟨by rw [requests, answers, before.count], by rw [requests]; exact before.target⟩
  refine ⟨fun call found => ?_, fun url reply found => ?_, fun noCall noReply => ?_⟩
  · rw [calls] at found
    rw [answers]
    exact (account.running call found).imp_right (issued _ _)
  · rw [ended] at found
    rw [calls, answers]
    exact (account.ended url reply found).imp_right (And.imp_right (issued _ _))
  · rw [requests, answers]
    exact account.unused (calls ▸ noCall) (ended ▸ noReply)

theorem Account.called {url : String} {params : Params} (account : ∀ other, Account texts s other)
    (taken : step texts s (.call id url params) = some s') (other : CallId) :
    Account texts s' other := by
  obtain ⟨noCall, noReply, entered⟩ := call_cases taken
  obtain ⟨-, -, rfl⟩ := enter_cases entered
  by_cases own : other = id
  · subst own
    obtain ⟨requests, answers⟩ := (account other).unused noCall noReply
    refine ⟨fun call found => ?_, fun url reply found => ?_, fun none => ?_⟩
    · rw [Dict.get?_set_self, Option.some.injEq] at found
      subst found
      rw [answers]
      exact ⟨goesOn_start, by simp [requests, answers], by simp [requests]⟩
    · exact absurd found (by simp [noReply])
    · simp at none
  · exact (account other).congr (Dict.get?_set_ne _ _ own) rfl ⟨rfl, rfl⟩

theorem Account.turned {now : Time} {jitter : ℚ} (paced : Paced texts s)
    (account : ∀ other, Account texts s other)
    (taken : step texts s (.turn id now jitter) = some s') (other : CallId) :
    Account texts s' other := by
  obtain ⟨call, found, waits, -, what⟩ := turned_cases paced taken
  rcases what with ⟨same, -⟩ | ⟨same, -⟩
  · rw [same]
    exact (account other).congr rfl rfl ⟨rfl, rfl⟩
  · rw [same]
    by_cases own : other = id
    · subst own
      obtain ⟨goesOn, issued⟩ := (account other).running call found
      rw [waits] at issued
      refine ⟨fun call' found' => ?_, fun url reply replied => ?_, fun none => ?_⟩
      · rw [Dict.get?_set_self, Option.some.injEq] at found'
        subst found'
        rw [answersOf_snoc]
        simp only [Moment.answerOf?, Option.toList_none, List.append_nil]
        refine ⟨goesOn, ?_, fun grant member => ?_⟩
        · rw [requestsOf_snoc, answersOf_snoc, List.length_append, issued.count]
          simp [Moment.requestOf?, Moment.answerOf?]
        · rw [requestsOf_snoc] at member
          rcases List.mem_append.mp member with before | last
          · exact issued.target grant before
          · simp only [Moment.requestOf?, if_true, Option.toList_some, List.mem_singleton] at last
            rw [last]
      · exact absurd ((account other).ended url reply replied).1 (by simp [found])
      · simp at none
    · exact (account other).congr (Dict.get?_set_ne _ _ own) rfl (others_snoc own s.trace)

theorem Account.responded (account : ∀ other, Account texts s other)
    (taken : step texts s (.respond id answer) = some s') (other : CallId) :
    Account texts s' other := by
  obtain ⟨call, paused, found, flying, pauses, settles⟩ := respond_cases taken
  obtain ⟨same, -⟩ := pause_cases pauses
  have calls : paused.calls = s.calls := by
    have fields := congrArg State.calls same
    exact fields
  have replies : paused.ended = s.ended := by
    have fields := congrArg State.ended same
    exact fields
  obtain ⟨goesOn, issued⟩ := (account id).running call found
  rw [flying, if_pos rfl] at issued
  have answers : answersOf id
      (s.trace ++ [Moment.answer id call.url call.progress.attempt answer]) =
      answersOf id s.trace ++ [answer] := by
    rw [answersOf_snoc]
    simp [Moment.answerOf?]
  have requests : requestsOf id (s.trace ++
      [Moment.answer id call.url call.progress.attempt answer]) = requestsOf id s.trace := by
    rw [requestsOf_snoc]
    simp [Moment.requestOf?]
  have issued' : Issued (s.trace ++ [Moment.answer id call.url call.progress.attempt answer]) id
      call.url 0 := by
    refine ⟨?_, by rw [requests]; exact issued.target⟩
    rw [requests, answers, issued.count, List.length_append, List.length_singleton, Nat.add_zero]
  cases standing : call.progress.after texts call.url answer with
  | running p =>
    rw [standing] at settles
    obtain ⟨-, -, rfl⟩ := enter_cases settles
    by_cases own : other = id
    · subst own
      refine ⟨fun call' found' => ?_, fun url reply replied => ?_, fun none => ?_⟩
      · rw [Dict.get?_set_self, Option.some.injEq] at found'
        subst found'
        rw [answers]
        exact ⟨goesOn.after.1 p standing, issued'⟩
      · rw [replies] at replied
        exact absurd ((account other).ended url reply replied).1 (by simp [found])
      · simp at none
    · exact (account other).congr ((Dict.get?_set_ne _ _ own).trans (by rw [calls]))
        (by rw [replies]) (others_snoc own s.trace)
  | ended reply =>
    rw [standing] at settles
    cases settles
    by_cases own : other = id
    · subst own
      refine ⟨fun call' found' => ?_, fun url reply' replied => ?_, fun _ none => ?_⟩
      · exact absurd (Dict.get?_of_pop found').1 (by simp)
      · rw [Dict.get?_set_self, Option.some.injEq] at replied
        cases replied
        rw [answers]
        exact ⟨Dict.get?_pop_self _ _, goesOn.after.2 reply standing, issued'⟩
      · simp at none
    · exact (account other).congr ((Dict.get?_pop_ne _ own).trans (by rw [calls]))
        ((Dict.get?_set_ne _ _ own).trans (by rw [replies])) (others_snoc own s.trace)

theorem paced_reachable (run : Reachable (system texts) anyStep s) : Paced texts s := by
  refine run.invariant Paced.initial fun s event s' _ paced _ taken => ?_
  exact paced.step taken

theorem account_reachable (run : Reachable (system texts) anyStep s) (id : CallId) :
    Account texts s id := by
  induction run generalizing id with
  | init =>
    exact ⟨by simp [system, State.initial], by simp [system, State.initial], fun _ _ => ⟨rfl, rfl⟩⟩
  | @next before after event reached _ taken ih =>
    cases event with
    | call other url params => exact Account.called ih taken id
    | turn other now jitter => exact Account.turned (paced_reachable reached) ih taken id
    | respond other answer => exact Account.responded ih taken id

/-- In every interleaving of the calls: a request keeps to the pauses that earlier answers asked
for and to its distances from earlier requests; a call issues at most its number of requests; and
its reply is what the loop makes of its own answers, whatever the other calls do. -/
theorem makeRequest_paced (run : Reachable (system texts) anyStep s) :
    (∀ earlier id grant later, s.trace = earlier ++ .request id grant :: later →
      Clear texts earlier grant) ∧
    (∀ id call, s.calls.get? id = some call →
      (requestsOf id s.trace).length ≤ maxRetries call.url ∧
        ∀ grant ∈ requestsOf id s.trace, grant.url = call.url) ∧
    ∀ id url reply, s.ended.get? id = some (url, reply) →
      (requestsOf id s.trace).length = (answersOf id s.trace).length ∧
        (answersOf id s.trace).length ≤ maxRetries url ∧
        (∀ grant ∈ requestsOf id s.trace, grant.url = url) ∧
        makeRequest texts url (answersOf id s.trace) = .ended reply ∧
        Ends texts url (answersOf id s.trace) reply := by
  refine ⟨(paced_reachable run).clear, fun id call found => ?_, fun id url reply replied => ?_⟩
  · obtain ⟨goesOn, issued⟩ := (account_reachable run id).running call found
    refine ⟨?_, issued.target⟩
    have count := issued.count
    have within := goesOn.within
    split at count <;> omega
  · obtain ⟨-, ends, issued⟩ := (account_reachable run id).ended url reply replied
    exact ⟨issued.count, ends.2.length_le, issued.target, ends⟩

/-! ## The deadlines that Kraken names -/

/-- An answer that names a deadline for the next request. -/
inductive Names (texts : Texts) (answer : Answer) : Time → Prop
  /-- A status that asks for a pause, with a `Retry-After` in seconds. -/
  | retryAfter {resp : Requests.Response} {header : Requests.HeaderText} {seconds : ℚ}
      (got : answer.outcome = .response resp) (busy : resp.status ∈ [429, 418, 502, 503, 504, 520])
      (known : resp.headers.get? "Retry-After" = some header)
      (number : header.asFloat = some seconds) : Names texts answer (answer.readAt + seconds)
  /-- A list of errors, one of them `EService:Throttled: ` and the deadline. -/
  | throttled {resp : Requests.Response} {fields : List (String × Json)} {front : List String}
      {token : List Char} {back : List Json} {deadline : Time}
      (got : answer.outcome = .response resp) (status : resp.status = 200)
      (body : resp.json = .ok (.obj fields))
      (errors : fields.lookup "error" = some (.arr (front.map .str ++
        .str (String.ofList (throttledMark ++ ' ' :: token)) :: back)))
      (first : ∀ s ∈ front, ¬ throttledMark <:+: s.toList) (nonempty : token ≠ [])
      (word : ∀ c ∈ token, Plain c ∧ c ∉ [' ', ']', ','])
      (number : texts.float (String.ofList token) = some deadline) (nonzero : deadline ≠ 0) :
    Names texts answer deadline

theorem handleBody_throttled {fields : List (String × Json)} {err : Json} {deadline : Time}
    (errors : fields.lookup "error" = some err) (some : err.truthy = true)
    (parsed : parseThrottleUntil texts (texts.str err) = .some deadline) (nonzero : deadline ≠ 0)
    (url : String) : handleBody texts url (.obj fields) =
      .backoff (.some deadline) true (.some (texts.str err)) := by
  simp [handleBody, errors, some, parsed, nonzero]

theorem Names.verdict {deadline : Time} (names : Names texts answer deadline) (url : String) :
    ∃ strong bodyError, answer.verdict texts url = .backoff (some deadline) strong bodyError := by
  cases names with
  | @retryAfter resp _ _ got busy known number =>
    refine ⟨decide (resp.status ∈ [429, 418]), none, ?_⟩
    rw [Answer.verdict, got]
    simp only [handle, busy, if_true, retryAfterUntil, known, Option.bind_some, number,
      Option.map_some]
  | @throttled resp fields front token back deadline got status body errors first nonempty word
      number nonzero =>
    have found := throttledWord_errors texts.writing first nonempty word back
    have parsed : parseThrottleUntil texts (texts.str (.arr (front.map .str ++
        .str (String.ofList (throttledMark ++ ' ' :: token)) :: back))) = some deadline := by
      rw [parseThrottleUntil, Texts.str, String.toList_ofList, found]
      exact number
    refine ⟨true, some (texts.str (.arr (front.map .str ++
      .str (String.ofList (throttledMark ++ ' ' :: token)) :: back))), ?_⟩
    rw [Answer.verdict, got]
    simp only [handle, status, body]
    exact handleBody_throttled errors (by simp [Json.truthy]) parsed nonzero url

/-- No request is issued before a deadline that an earlier answer named, to whichever call and
for whichever address. -/
theorem deadlines_obeyed (run : Reachable (system texts) anyStep s) {earlier later : List Moment}
    {grant : Grant} (shape : s.trace = earlier ++ .request id grant :: later) {other : CallId}
    {url : String} {attempt : ℕ} {deadline : Time}
    (answered : Moment.answer other url attempt answer ∈ earlier)
    (names : Names texts answer deadline) : deadline ≤ grant.time := by
  obtain ⟨strong, bodyError, verdict⟩ := names.verdict url
  have asked : (Moment.answer other url attempt answer).hold texts = some ⟨answer.now,
      answer.now + backoffWait answer.now attempt (some deadline) answer.factor, strong⟩ := by
    simp [Moment.hold, verdict]
  have paced := paced_reachable run
  have member : Moment.answer other url attempt answer ∈ s.trace := by
    rw [shape]
    exact List.mem_append_left _ answered
  obtain ⟨positive, forward⟩ := (paced.knows _ member _ asked).ahead
  exact (deadline_le_backoffWait positive forward).trans
    ((paced.clear earlier id grant later shape).held _ answered _ asked)

end Steps

/-! ## A run -/

def plainTexts : Texts :=
  ⟨fun s => if s = "20" then some 20 else none, ⟨fun _ => "0", fun _ => true⟩, fun _ => "Exception"⟩

def answered (now : Time) (body : Json) : Answer :=
  ⟨now, now, 1, .response ⟨200, .empty, .ok body, ""⟩⟩

/-- A call is throttled until 20; another call, and its own next attempt, wait for that. -/
def throttledRun : List Event :=
  [.call 0 "https://api.kraken.com/0/public/OHLC" none,
    .call 1 "https://futures.kraken.com/derivatives/api/v3/tickers" none,
    .turn 0 1 (1 / 50),
    .respond 0 (answered 2 (.obj [("error", .arr [.str "EGeneral:Busy",
      .str "EService:Throttled: 20"])])),
    .turn 1 3 (1 / 50), .turn 1 21 (1 / 50),
    .respond 1 (answered 22 (.obj [("result", .str "success")])), .turn 0 23 (1 / 50)]

/-- The answer of `throttledRun` that names a deadline. -/
def namesTwenty : Moment → Bool
  | .answer _ _ _ ⟨_, _, _, .response ⟨200, _, .ok (.obj [(key, .arr [.str first, .str second])]),
      _⟩⟩ => key = "error" && first = "EGeneral:Busy" && second = "EService:Throttled: 20"
  | _ => false

theorem names_of_namesTwenty {moment : Moment} (named : namesTwenty moment = true) :
    ∃ id url attempt given, moment = .answer id url attempt given ∧ Names plainTexts given 20 := by
  unfold namesTwenty at named
  split at named
  · simp only [Bool.and_eq_true, decide_eq_true_eq] at named
    obtain ⟨⟨rfl, rfl⟩, rfl⟩ := named
    refine ⟨_, _, _, _, rfl, ?_⟩
    have first : ∀ s ∈ ["EGeneral:Busy"], ¬ throttledMark <:+: s.toList := by decide
    have word : ∀ c ∈ ['2', '0'], Plain c ∧ c ∉ [' ', ']', ','] :=
      List.forall_mem_cons.mpr ⟨by decide, List.forall_mem_singleton.mpr (by decide)⟩
    have errors : List.lookup "error" [("error", Json.arr [.str "EGeneral:Busy",
        .str "EService:Throttled: 20"])] = some (.arr (["EGeneral:Busy"].map .str ++
          .str (String.ofList (throttledMark ++ ' ' :: ['2', '0'])) :: [])) := rfl
    exact .throttled rfl rfl rfl errors first (by decide) word (by decide) (by decide)
  · cases named

theorem throttledRun_ends : (system plainTexts).endsIn (fun _ _ => true) throttledRun (fun s =>
    (s.trace[1]?).any namesTwenty &&
      (s.trace[2]?).any (fun moment => (moment.requestOf? 1).any fun grant => grant.time = 21) &&
      (s.ended.get? 1).isSome) = true := by
  decide +kernel

/-- The trace of `throttledRun` up to the request that waits for the deadline. -/
theorem throttledRun_trace : ∃ s first given grant later,
    Reachable (system plainTexts) anyStep s ∧
    s.trace = [first, given] ++ .request 1 grant :: later ∧ namesTwenty given = true ∧
    grant.time = 21 ∧ ∃ url reply, s.ended.get? 1 = some (url, reply) := by
  obtain ⟨s, run, ends⟩ := System.exists_reachable (fun _ _ _ _ => trivial) throttledRun_ends
  simp only [Bool.and_eq_true] at ends
  obtain ⟨⟨names, waits⟩, replied⟩ := ends
  obtain ⟨given, second, named⟩ := (Option.any_eq_true _ _).mp names
  obtain ⟨moment, third, requested⟩ := (Option.any_eq_true _ _).mp waits
  obtain ⟨grant, isRequest, time⟩ := (Option.any_eq_true _ _).mp requested
  obtain ⟨reply, ended⟩ := Option.isSome_iff_exists.mp replied
  obtain rfl : moment = .request 1 grant := by
    cases moment with
    | request id other =>
      simp only [Moment.requestOf?] at isRequest
      split at isRequest
      · rename_i own
        rw [own, Option.some.inj isRequest]
      · cases isRequest
    | answer => cases isRequest
  rcases trace : s.trace with _ | ⟨a, _ | ⟨b, _ | ⟨c, later⟩⟩⟩
  · simp [trace] at second
  · simp [trace] at second
  · simp [trace] at third
  · rw [trace] at second third
    cases second
    cases third
    exact ⟨s, a, given, grant, later, run, trace, named, of_decide_eq_true time, reply.1, reply.2,
      ended⟩

theorem makeRequest_paced_throttled : ∃ s first given grant later,
    Reachable (system plainTexts) anyStep s ∧
    s.trace = [first, given] ++ .request 1 grant :: later ∧
    Clear plainTexts [first, given] grant ∧ ∃ url reply, s.ended.get? 1 = some (url, reply) ∧
      Ends plainTexts url (answersOf 1 s.trace) reply := by
  obtain ⟨s, first, given, grant, later, run, trace, -, -, url, reply, ended⟩ := throttledRun_trace
  obtain ⟨clear, -, replies⟩ := makeRequest_paced run
  exact ⟨s, first, given, grant, later, run, trace, clear _ _ _ _ trace, url, reply, ended,
    (replies 1 url reply ended).2.2.2.2⟩

theorem deadlines_obeyed_throttled : ∃ s first given grant later,
    Reachable (system plainTexts) anyStep s ∧
    s.trace = [first, given] ++ .request 1 grant :: later ∧ grant.time = 21 ∧ 20 ≤ grant.time := by
  obtain ⟨s, first, given, grant, later, run, trace, named, time, -⟩ := throttledRun_trace
  obtain ⟨id, url, attempt, answer, rfl, names⟩ := names_of_namesTwenty named
  have answered : Moment.answer id url attempt answer ∈
      [first, Moment.answer id url attempt answer] := by simp
  exact ⟨s, first, _, grant, later, run, trace, time, deadlines_obeyed run trace answered names⟩

end ExchangeRouter.Kraken.Requests
