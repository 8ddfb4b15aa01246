import ExchangeRouter.StreamHub.Wire

/-!
# Consumers of a hub

`_ws_connect` of an adapter: `subscribe`, then read the queue inside a `try`
whose `finally` calls `unsubscribe` with that queue.  A consumer is a call of
the hub: it reads while the call is `returned`, and it has ended once the call
is `finished` or `cancelled`.

Every registered queue belongs to one consumer that has not ended, as long as
no consumer is cancelled inside `subscribe`, where the `try` has not begun.
-/
namespace ExchangeRouter.StreamHub
open Lib

variable {Topic Payload Msg : Type}

namespace Call

/-- The topic and queue of a consumer from `subscribe` to its `finally`. -/
def holding : Call Topic Payload → Option (Topic × QueueId)
  | waiting topic q | woken topic q | sending topic q _ _ | returned topic q => some (topic, q)
  | _ => none

def topic : Call Topic Payload → Topic
  | waiting topic _ | woken topic _ | sending topic _ _ _ | returned topic _
  | unsubscribing topic _ _ _ | finished topic _ | cancelled topic _ => topic

def queue : Call Topic Payload → QueueId
  | waiting _ q | woken _ q | sending _ q _ _ | returned _ q
  | unsubscribing _ q _ _ | finished _ q | cancelled _ q => q

def ended : Call Topic Payload → Bool
  | finished .. | cancelled .. => true
  | _ => false

theorem queue_of_holding {call : Call Topic Payload} {topic : Topic} {q : QueueId}
    (h : call.holding = some (topic, q)) : call.queue = q := by
  cases call <;> cases h <;> rfl

theorem topic_of_holding {call : Call Topic Payload} {topic : Topic} {q : QueueId}
    (h : call.holding = some (topic, q)) : call.topic = topic := by
  cases call <;> cases h <;> rfl

theorem holding_of_ended {call : Call Topic Payload} (h : call.ended = true) :
    call.holding = none := by
  cases call <;> first | rfl | cases h

theorem holding_of_subscribing {call : Call Topic Payload} {x : Topic × QueueId}
    (h : call.subscribing = some x) : call.holding = some x := by
  cases call <;> first | exact h | cases h

end Call

variable [DecidableEq Topic]

/-- A consumer gives back the queue that its own `subscribe` returned. -/
def ownQueue (s : State Topic Payload Msg) : Event Topic Msg → Bool
  | .unsubscribe id topic q _ =>
    match s.calls.get? id with
    | some (.returned t x) => t = topic && x = q
    | _ => false
  | _ => true

/-- A cancellation finds the consumer inside its `try`, or ended. -/
def cancelsInTry (s : State Topic Payload Msg) : Event Topic Msg → Bool
  | .cancel id =>
    match s.calls.get? id with
    | some call => call.subscribing.isNone
    | none => true
  | _ => true

/-- The runs of the consumers of a hub, cancelled anywhere. -/
def ConsumerStep (s : State Topic Payload Msg) (label : Label Topic Payload Msg) : Prop :=
  ownQueue s label.2 = true

def CancelledInTryStep (s : State Topic Payload Msg) (label : Label Topic Payload Msg) : Prop :=
  ownQueue s label.2 = true ∧ cancelsInTry s label.2 = true

structure Owned (s : State Topic Payload Msg) : Prop where
  owner : ∀ topic q, q ∈ queuesOf s topic →
    ∃ id call, s.calls.get? id = some call ∧ call.holding = some (topic, q)
  unique : ∀ id₁ id₂ c₁ c₂, s.calls.get? id₁ = some c₁ → s.calls.get? id₂ = some c₂ →
    c₁.queue = c₂.queue → id₁ = id₂
  fresh : ∀ id call, s.calls.get? id = some call → call.queue < s.nextQueue

theorem Owned.initial : Owned (State.initial : State Topic Payload Msg) where
  owner := fun _ _ member => by cases member
  unique := fun _ _ _ _ running _ _ => by simp [State.initial] at running
  fresh := fun _ _ running => by simp [State.initial] at running

/-- Where the call of a consumer comes from in one step. -/
def CallFrom (s s' : State Topic Payload Msg) (ev : Event Topic Msg) (id : CallId)
    (call' : Call Topic Payload) : Prop :=
  (∃ call, s.calls.get? id = some call ∧ call.queue = call'.queue ∧ s.nextQueue ≤ s'.nextQueue) ∨
  (call'.queue = s.nextQueue ∧ s.nextQueue < s'.nextQueue ∧ ∃ topic, ev = .subscribe id topic)

omit [DecidableEq Topic] in
theorem callFrom_set {s s' : State Topic Payload Msg} {ev : Event Topic Msg} {id : CallId}
    {moved : Call Topic Payload}
    (calls : s'.calls = s.calls.set id moved) (counter : s.nextQueue ≤ s'.nextQueue)
    (own : CallFrom s s' ev id moved) {id' : CallId} {call' : Call Topic Payload}
    (running : s'.calls.get? id' = some call') : CallFrom s s' ev id' call' := by
  rw [calls, Dict.get?_set] at running
  split at running
  · rename_i same
    cases running
    exact same ▸ own
  · exact Or.inl ⟨call', running, rfl, counter⟩

omit [DecidableEq Topic] in
@[simp] theorem afterSubscribeSend_queue (topic : Topic) (q : QueueId)
    (pending : Option (Conn × List Payload)) : (afterSubscribeSend topic q pending).queue = q := by
  cases pending <;> rfl

omit [DecidableEq Topic] in
@[simp] theorem afterSubscribeSend_holding (topic : Topic) (q : QueueId)
    (pending : Option (Conn × List Payload)) :
    (afterSubscribeSend topic q pending).holding = some (topic, q) := by
  cases pending <;> rfl

omit [DecidableEq Topic] in
@[simp] theorem afterUnsubscribeSend_queue (topic : Topic) (q : QueueId)
    (pending : Option (Conn × List Payload)) :
    (afterUnsubscribeSend topic q pending).queue = q := by
  cases pending <;> rfl

theorem returned_of_ownQueue {s : State Topic Payload Msg} {id : CallId} {topic : Topic}
    {q : QueueId} {ok : Bool}
    (own : ownQueue s (.unsubscribe id topic q ok : Event Topic Msg) = true) :
    s.calls.get? id = some (.returned topic q) := by
  simp only [ownQueue] at own
  split at own
  · rename_i t x call
    simp only [Bool.and_eq_true, decide_eq_true_eq] at own
    obtain ⟨rfl, rfl⟩ := own
    exact call
  · cases own

/-- A step keeps the queue of every call; a new call has the next queue. -/
theorem callFrom_step {cfg : Config Topic Payload Msg} {s s' : State Topic Payload Msg}
    {ev : Event Topic Msg} (own : ownQueue s ev = true) (step : Step cfg s ev s') {id' : CallId}
    {call' : Call Topic Payload} (running : s'.calls.get? id' = some call') :
    CallFrom s s' ev id' call' := by
  cases step with
  | subscribeNew fresh | subscribeJoin fresh =>
    refine callFrom_set rfl ?_ ?_ running
    · exact Nat.le_succ _
    · exact Or.inr ⟨rfl, Nat.lt_succ_self _, _, rfl⟩
  | wake call | timeout call | resumeKnown call | cancelUnsubscribe call =>
    refine callFrom_set rfl ?_ ?_ running
    · exact le_rfl
    · exact Or.inl ⟨_, call, rfl, le_rfl⟩
  | resumeSend call new send =>
    refine callFrom_set rfl ?_ ?_ running
    · exact le_of_eq send.nextQueue.symm
    · exact Or.inl ⟨_, call, (afterSubscribeSend_queue _ _ _).symm, le_of_eq send.nextQueue.symm⟩
  | sentSubscribe call send =>
    refine callFrom_set rfl ?_ ?_ running
    · exact le_of_eq send.nextQueue.symm
    · exact Or.inl ⟨_, call, (afterSubscribeSend_queue _ _ _).symm, le_of_eq send.nextQueue.symm⟩
  | sentUnsubscribe call send =>
    refine callFrom_set rfl ?_ ?_ running
    · exact le_of_eq send.nextQueue.symm
    · exact Or.inl ⟨_, call, (afterUnsubscribeSend_queue _ _ _).symm, le_of_eq send.nextQueue.symm⟩
  | unsubscribeKeep | unsubscribeQuiet =>
    refine callFrom_set rfl ?_ ?_ running
    · exact le_rfl
    · exact Or.inl ⟨_, returned_of_ownQueue own, rfl, le_rfl⟩
  | unsubscribeSend startable notHeld last connected send =>
    have call := returned_of_ownQueue own
    refine callFrom_set rfl ?_ ?_ running
    · exact le_of_eq send.nextQueue.symm
    · exact Or.inl ⟨_, call, (afterUnsubscribeSend_queue _ _ _).symm, le_of_eq send.nextQueue.symm⟩
  | @cancelSubscribe id call topic q found holds =>
    have same := Call.queue_of_holding (Call.holding_of_subscribing holds)
    refine callFrom_set rfl ?_ ?_ running
    · exact le_rfl
    · exact Or.inl ⟨_, found, same, le_rfl⟩
  | connect task send =>
    rw [afterResubscribe_calls, show _ = _ from send.calls] at running
    exact Or.inl ⟨call', running, rfl, by cases send <;> exact le_rfl⟩
  | resubscribed task send =>
    rw [afterResubscribe_calls, send.calls] at running
    exact Or.inl ⟨call', running, rfl, by cases send <;> exact le_rfl⟩
  | connectFailed | receive | disconnect | closed | reconnect | get | die =>
    exact Or.inl ⟨call', running, rfl, le_rfl⟩

theorem Owned.fresh_step {cfg : Config Topic Payload Msg} {s s' : State Topic Payload Msg}
    {ev : Event Topic Msg} (h : Owned s) (own : ownQueue s ev = true) (step : Step cfg s ev s') :
    ∀ id call, s'.calls.get? id = some call → call.queue < s'.nextQueue := by
  intro id call' running
  rcases callFrom_step own step running with ⟨call, before, same, counter⟩ | ⟨new, counter, -⟩
  · exact same ▸ lt_of_lt_of_le (h.fresh id call before) counter
  · exact new ▸ counter

theorem Owned.unique_step {cfg : Config Topic Payload Msg} {s s' : State Topic Payload Msg}
    {ev : Event Topic Msg} (h : Owned s) (own : ownQueue s ev = true) (step : Step cfg s ev s') :
    ∀ id₁ id₂ c₁ c₂, s'.calls.get? id₁ = some c₁ → s'.calls.get? id₂ = some c₂ →
      c₁.queue = c₂.queue → id₁ = id₂ := by
  intro id₁ id₂ c₁ c₂ running₁ running₂ same
  rcases callFrom_step own step running₁ with ⟨b₁, before₁, kept₁, -⟩ | ⟨new₁, -, t₁, rfl⟩
  · rcases callFrom_step own step running₂ with ⟨b₂, before₂, kept₂, -⟩ | ⟨new₂, -, -⟩
    · exact h.unique id₁ id₂ b₁ b₂ before₁ before₂ (by rw [kept₁, kept₂, same])
    · have older := h.fresh id₁ b₁ before₁
      rw [kept₁, same, new₂] at older
      exact absurd older (Nat.lt_irrefl _)
  · rcases callFrom_step own step running₂ with ⟨b₂, before₂, kept₂, -⟩ | ⟨-, -, t₂, again⟩
    · have older := h.fresh id₂ b₂ before₂
      rw [kept₂, ← same, new₁] at older
      exact absurd older (Nat.lt_irrefl _)
    · cases again
      rfl

/-- `owner` over a step that moves one call: its queue stays only if the call
still holds it. -/
theorem owner_set {s s' : State Topic Payload Msg} (h : Owned s) {id : CallId}
    {moved : Call Topic Payload} (calls : s'.calls = s.calls.set id moved)
    (keeps : ∀ topic q, q ∈ queuesOf s' topic → moved.holding = some (topic, q) ∨
      (q ∈ queuesOf s topic ∧ ∀ call, s.calls.get? id = some call →
        call.holding ≠ some (topic, q))) :
    ∀ topic q, q ∈ queuesOf s' topic →
      ∃ id call, s'.calls.get? id = some call ∧ call.holding = some (topic, q) := by
  intro topic q member
  rcases keeps topic q member with own | ⟨before, other⟩
  · exact ⟨id, moved, by simp [calls], own⟩
  · obtain ⟨id', call, running, holds⟩ := h.owner topic q before
    have differ : id' ≠ id := by
      rintro rfl
      exact other call running holds
    exact ⟨id', call, by rw [calls, Dict.get?_set_ne _ _ differ, running], holds⟩

/-- A call that goes on holding its queue. -/
theorem owner_keep {s s' : State Topic Payload Msg} (h : Owned s) {id : CallId}
    {call moved : Call Topic Payload} (running : s.calls.get? id = some call)
    (calls : s'.calls = s.calls.set id moved) (queues : s'.queues = s.queues)
    (holds : moved.holding = call.holding) :
    ∀ topic q, q ∈ queuesOf s' topic →
      ∃ id call, s'.calls.get? id = some call ∧ call.holding = some (topic, q) := by
  refine owner_set h calls fun topic q member => ?_
  rw [holds]
  by_cases own : call.holding = some (topic, q)
  · exact Or.inl own
  · refine Or.inr ⟨mem_queuesOf_congr queues member, fun call' running' => ?_⟩
    rw [running] at running'
    exact Option.some.inj running' ▸ own

/-- Calls and queues that no step of `_run` touches. -/
theorem owner_congr {s s' : State Topic Payload Msg} (h : Owned s) (calls : s'.calls = s.calls)
    (queues : s'.queues = s.queues) :
    ∀ topic q, q ∈ queuesOf s' topic →
      ∃ id call, s'.calls.get? id = some call ∧ call.holding = some (topic, q) := by
  intro topic q member
  rw [calls]
  exact h.owner topic q (mem_queuesOf_congr queues member)

/-- The consumer that gives its queue back held it under its own topic only. -/
theorem owner_leave {s s' : State Topic Payload Msg} (h : Owned s) {id : CallId} {topic : Topic}
    {q : QueueId} {moved : Call Topic Payload}
    (returned : s.calls.get? id = some (.returned topic q)) (calls : s'.calls = s.calls.set id moved)
    (keeps : ∀ t x, x ∈ queuesOf s' t → x ∈ queuesOf s t ∧ (t = topic → x ≠ q)) :
    ∀ topic q, q ∈ queuesOf s' topic →
      ∃ id call, s'.calls.get? id = some call ∧ call.holding = some (topic, q) := by
  refine owner_set h calls fun t x member => Or.inr ?_
  obtain ⟨before, other⟩ := keeps t x member
  refine ⟨before, fun call running holds => ?_⟩
  rw [returned] at running
  cases running
  cases holds
  exact other rfl rfl

theorem Owned.owner_step {cfg : Config Topic Payload Msg} {s s' : State Topic Payload Msg}
    {ev : Event Topic Msg} (h : Owned s) (own : ownQueue s ev = true)
    (inTry : cancelsInTry s ev = true) (step : Step cfg s ev s') :
    ∀ topic q, q ∈ queuesOf s' topic →
      ∃ id call, s'.calls.get? id = some call ∧ call.holding = some (topic, q) := by
  cases step with
  | @subscribeNew id topic fresh new =>
    refine owner_set h rfl fun t q member => ?_
    by_cases same : t = topic
    · subst same
      have isNew : q = s.nextQueue := by simpa [queuesOf, Dict.getD_set] using member
      exact Or.inl (by rw [isNew]; rfl)
    · exact Or.inr ⟨by simpa [queuesOf, Dict.getD_set, same] using member, by simp [fresh]⟩
  | @subscribeJoin id topic qs fresh known =>
    refine owner_set h rfl fun t q member => ?_
    by_cases same : t = topic
    · subst same
      have either : q ∈ qs ∨ q = s.nextQueue := by simpa [queuesOf, Dict.getD_set] using member
      rcases either with before | isNew
      · exact Or.inr ⟨by rwa [queuesOf_eq known], by simp [fresh]⟩
      · exact Or.inl (by rw [isNew]; rfl)
    · exact Or.inr ⟨by simpa [queuesOf, Dict.getD_set, same] using member, by simp [fresh]⟩
  | wake call | timeout call | resumeKnown call => exact owner_keep h call rfl rfl rfl
  | resumeSend call new send =>
    exact owner_keep h call rfl send.queues (afterSubscribeSend_holding _ _ _)
  | sentSubscribe call send =>
    exact owner_keep h call rfl send.queues (afterSubscribeSend_holding _ _ _)
  | @sentUnsubscribe id ok topic q c rest mid pending call send =>
    refine owner_keep h call rfl send.queues ?_
    cases pending <;> rfl
  | @unsubscribeKeep id topic q ok startable notHeld others =>
    refine owner_leave h (returned_of_ownQueue own) rfl fun t x member => ?_
    by_cases same : t = topic
    · subst same
      have kept : x ∈ (queuesOf s t).filter (fun y => y ≠ q) := by
        simpa [queuesOf, Dict.getD_set] using member
      obtain ⟨before, other⟩ := List.mem_filter.mp kept
      exact ⟨before, fun _ => by simpa using other⟩
    · exact ⟨by simpa [queuesOf, Dict.getD_set, same] using member, fun same' => absurd same' same⟩
  | @unsubscribeQuiet id topic q ok startable notHeld last disconnected =>
    refine owner_leave h (returned_of_ownQueue own) rfl fun t x member => ?_
    by_cases same : t = topic
    · simp [queuesOf, dropTopic, Dict.getD_pop, same] at member
    · exact ⟨by simpa [queuesOf, dropTopic, Dict.getD_pop, same] using member,
        fun same' => absurd same' same⟩
  | @unsubscribeSend id topic q ok mid pending startable notHeld last connected send =>
    refine owner_leave h (returned_of_ownQueue own) rfl fun t x member => ?_
    have dropped : x ∈ queuesOf (dropTopic s topic) t := mem_queuesOf_congr send.queues member
    by_cases same : t = topic
    · simp [queuesOf, dropTopic, Dict.getD_pop, same] at dropped
    · exact ⟨by simpa [queuesOf, dropTopic, Dict.getD_pop, same] using dropped,
        fun same' => absurd same' same⟩
  | cancelSubscribe running holds => simp [cancelsInTry, running, holds] at inTry
  | cancelUnsubscribe running => exact owner_keep h running rfl rfl rfl
  | connect task send =>
    exact owner_congr h ((afterResubscribe_calls _ _ _).trans send.calls)
      ((afterResubscribe_queues _ _ _).trans send.queues)
  | resubscribed task send =>
    exact owner_congr h ((afterResubscribe_calls _ _ _).trans send.calls)
      ((afterResubscribe_queues _ _ _).trans send.queues)
  | connectFailed | receive | disconnect | closed | reconnect | get | die => exact h.owner

theorem owned_reachable {s : State Topic Payload Msg}
    (run : Reachable system CancelledInTryStep s) : Owned s :=
  run.invariant .initial fun _ _ _ _ before permitted taken =>
    have step := step_cases taken
    ⟨before.owner_step permitted.1 permitted.2 step, before.unique_step permitted.1 step,
      before.fresh_step permitted.1 step⟩

/-- A consumer that has ended left no queue in `_queues`. -/
theorem Owned.ended_free {s : State Topic Payload Msg} (h : Owned s) {id : CallId}
    {call : Call Topic Payload} (running : s.calls.get? id = some call)
    (ended : call.ended = true) (topic : Topic) : call.queue ∉ queuesOf s topic := by
  intro member
  obtain ⟨id', call', running', holds⟩ := h.owner topic _ member
  obtain rfl : id' = id :=
    h.unique id' id call' call running' running (Call.queue_of_holding holds)
  rw [running] at running'
  cases running'
  rw [Call.holding_of_ended ended] at holds
  cases holds

/-- A step of the hub keeps every call, and a consumer's call its topic. -/
def KeepsTopics (s s' : State Topic Payload Msg) : Prop :=
  ∀ id call, s.calls.get? id = some call →
    ∃ call', s'.calls.get? id = some call' ∧ call'.topic = call.topic

omit [DecidableEq Topic] in
theorem keepsTopics_set {s s' : State Topic Payload Msg} {id : CallId}
    {moved : Call Topic Payload} (calls : s'.calls = s.calls.set id moved)
    (same : ∀ call, s.calls.get? id = some call → moved.topic = call.topic) :
    KeepsTopics s s' := by
  intro id' call running
  rw [calls, Dict.get?_set]
  split
  · rename_i own
    subst own
    exact ⟨moved, rfl, same call running⟩
  · exact ⟨call, running, rfl⟩

theorem keepsTopics_step {cfg : Config Topic Payload Msg} {s s' : State Topic Payload Msg}
    {ev : Event Topic Msg} (own : ownQueue s ev = true) (step : Step cfg s ev s') :
    KeepsTopics s s' := by
  have one : ∀ {id : CallId} {call moved : Call Topic Payload}, s.calls.get? id = some call →
      moved.topic = call.topic →
        ∀ call', s.calls.get? id = some call' → moved.topic = call'.topic := by
    intro id call moved found same call' found'
    rw [found] at found'
    exact Option.some.inj found' ▸ same
  cases step with
  | subscribeNew fresh | subscribeJoin fresh =>
    exact keepsTopics_set rfl fun call found => by
      rw [fresh] at found
      cases found
  | wake call | timeout call | resumeKnown call | cancelUnsubscribe call =>
    exact keepsTopics_set rfl (one call rfl)
  | @resumeSend id ok topic q mid pending call new send =>
    exact keepsTopics_set rfl (one call (by cases pending <;> rfl))
  | @sentSubscribe id ok topic q c rest mid pending call send =>
    exact keepsTopics_set rfl (one call (by cases pending <;> rfl))
  | @sentUnsubscribe id ok topic q c rest mid pending call send =>
    exact keepsTopics_set rfl (one call (by cases pending <;> rfl))
  | unsubscribeKeep | unsubscribeQuiet =>
    exact keepsTopics_set rfl (one (returned_of_ownQueue own) rfl)
  | @unsubscribeSend id topic q ok mid pending startable notHeld last connected send =>
    exact keepsTopics_set rfl (one (returned_of_ownQueue own) (by cases pending <;> rfl))
  | cancelSubscribe found holds =>
    exact keepsTopics_set rfl
      (one found (Call.topic_of_holding (Call.holding_of_subscribing holds)).symm)
  | connect task send =>
    intro id call running
    rw [afterResubscribe_calls, show _ = _ from send.calls]
    exact ⟨call, running, rfl⟩
  | resubscribed task send =>
    intro id call running
    rw [afterResubscribe_calls, send.calls]
    exact ⟨call, running, rfl⟩
  | connectFailed | receive | disconnect | closed | reconnect | get | die =>
    exact fun _ call running => ⟨call, running, rfl⟩

/-- A consumer was there before the step, not ended and on the same topic, or the
step is its `subscribe`. -/
def UnendedFrom (s : State Topic Payload Msg) (ev : Event Topic Msg) (id : CallId)
    (call' : Call Topic Payload) : Prop :=
  (∃ call, s.calls.get? id = some call ∧ call.ended = false ∧ call.topic = call'.topic) ∨
  ev = .subscribe id call'.topic

omit [DecidableEq Topic] in
theorem unended_set {s s' : State Topic Payload Msg} {ev : Event Topic Msg} {id : CallId}
    {moved : Call Topic Payload} (calls : s'.calls = s.calls.set id moved)
    (own : moved.ended = false → UnendedFrom s ev id moved) {id' : CallId}
    {call' : Call Topic Payload} (running : s'.calls.get? id' = some call')
    (unended : call'.ended = false) : UnendedFrom s ev id' call' := by
  rw [calls, Dict.get?_set] at running
  split at running
  · rename_i same
    cases running
    exact same ▸ own unended
  · exact Or.inl ⟨call', running, unended, rfl⟩

theorem unended_step {cfg : Config Topic Payload Msg} {s s' : State Topic Payload Msg}
    {ev : Event Topic Msg} (step : Step cfg s ev s') {id : CallId} {call' : Call Topic Payload}
    (running : s'.calls.get? id = some call') (unended : call'.ended = false)
    (own : ownQueue s ev = true) : UnendedFrom s ev id call' := by
  have same : s'.calls = s.calls → UnendedFrom s ev id call' := fun calls =>
    Or.inl ⟨call', calls ▸ running, unended, rfl⟩
  cases step with
  | subscribeNew | subscribeJoin => exact unended_set rfl (fun _ => Or.inr rfl) running unended
  | wake call | timeout call | resumeKnown call =>
    refine unended_set rfl (fun _ => Or.inl ⟨_, call, rfl, ?_⟩) running unended
    rfl
  | @resumeSend id ok topic q mid pending call new send =>
    refine unended_set rfl (fun _ => Or.inl ⟨_, call, rfl, ?_⟩) running unended
    cases pending <;> rfl
  | @sentSubscribe id ok topic q c rest mid pending call send =>
    refine unended_set rfl (fun _ => Or.inl ⟨_, call, rfl, ?_⟩) running unended
    cases pending <;> rfl
  | @sentUnsubscribe id ok topic q c rest mid pending call send =>
    refine unended_set rfl (fun _ => Or.inl ⟨_, call, rfl, ?_⟩) running unended
    cases pending <;> rfl
  | unsubscribeKeep | unsubscribeQuiet => exact unended_set rfl (fun gone => by cases gone) running unended
  | @unsubscribeSend id topic q ok mid pending startable notHeld last connected send =>
    refine unended_set rfl (fun _ => Or.inl ⟨_, returned_of_ownQueue own, rfl, ?_⟩) running unended
    cases pending <;> rfl
  | cancelSubscribe | cancelUnsubscribe =>
    exact unended_set rfl (fun gone => by cases gone) running unended
  | connect task send => exact same ((afterResubscribe_calls _ _ _).trans send.calls)
  | resubscribed task send => exact same ((afterResubscribe_calls _ _ _).trans send.calls)
  | connectFailed | receive | disconnect | closed | reconnect | get | die => exact same rfl

/-- A topic in `_queues` has a consumer that has not ended. -/
theorem Owned.unended_of_key {s : State Topic Payload Msg} (h : Owned s) (populated : Populated s)
    {topic : Topic} (key : topic ∈ s.queues.keys) :
    ∃ id call, s.calls.get? id = some call ∧ call.ended = false ∧ call.topic = topic := by
  obtain ⟨q, member⟩ := List.exists_mem_of_ne_nil _ (populated.queuesOf_ne_nil key)
  obtain ⟨id, call, running, holds⟩ := h.owner topic q member
  refine ⟨id, call, running, ?_, Call.topic_of_holding holds⟩
  cases ended : call.ended with
  | false => rfl
  | true => rw [Call.holding_of_ended ended] at holds; cases holds

theorem subscribe_call {s s' : State Topic Payload Msg} {id : CallId} {topic : Topic}
    (h : subscribe s id topic = some s') :
    ∃ call, s'.calls.get? id = some call ∧ call.topic = topic := by
  unfold subscribe at h
  split at h
  · cases h
  · cases h
    refine ⟨_, Dict.get?_set_self _ _ _, ?_⟩
    split <;> rfl

end ExchangeRouter.StreamHub
