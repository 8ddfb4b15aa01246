import ExchangeRouter.Lib.DropOldest
import ExchangeRouter.StreamHub.Overflow

/-!
# What a bounded queue receives and loses

A hub is run with a record of the messages it routed and of the moment at which
each queue joined its topic.  Whatever the router does at each step, a queue of
capacity `maxsize` is handed its topic's messages from then on, gives them to its
consumer in order, and drops one only when `maxsize` later ones have come.  What
the other consumers take makes no difference to it.
-/
namespace ExchangeRouter.StreamHub
open Lib

variable {Topic Payload Msg : Type}

/-- A hub with the messages it routed, oldest first, and for each queue its topic
and how many messages had been routed when it joined. -/
structure Watched (Topic Payload Msg : Type) where
  hub : State Topic Payload Msg
  routed : List (Topic × Arrival Msg)
  joined : QueueId → Option (Topic × ℕ)

/-- What a step routes. -/
def routedBy (cfg : Config Topic Payload Msg) (s : State Topic Payload Msg) :
    Event Topic Msg → List (Topic × Arrival Msg)
  | .receive m =>
    match s.task, cfg.route m with
    | .receiving c _, some topic => [(topic, ⟨s.received.length, c, m⟩)]
    | _, _ => []
  | _ => []

/-- The record of the queues after a step. -/
def joinedBy (w : Watched Topic Payload Msg) : Event Topic Msg → QueueId → Option (Topic × ℕ)
  | .subscribe _ topic => Function.update w.joined w.hub.nextQueue (some (topic, w.routed.length))
  | _ => w.joined

/-- The messages of a topic that came after the first `since`. -/
def messagesSince [DecidableEq Topic] (routed : List (Topic × Arrival Msg)) (topic : Topic)
    (since : ℕ) : List (Arrival Msg) :=
  ((routed.drop since).filter fun e => e.1 = topic).map Prod.snd

variable [DecidableEq Topic]

def watchedStep (w : Watched Topic Payload Msg) (label : Label Topic Payload Msg) :
    Option (Watched Topic Payload Msg) :=
  (step label.1 w.hub label.2).map fun hub =>
    ⟨hub, w.routed ++ routedBy label.1 w.hub label.2, joinedBy w label.2⟩

def watched : System (Watched Topic Payload Msg) (Label Topic Payload Msg) :=
  ⟨⟨.initial, [], fun _ => none⟩, watchedStep⟩

/-- The queue size is set once, when the hub is built. -/
def Sized {σ : Type} (maxsize : ℕ) (_ : σ) (label : Label Topic Payload Msg) : Prop :=
  label.1.queueSize = maxsize

/-- Every run of the hub can be watched. -/
theorem exists_watched {maxsize : ℕ} {s : State Topic Payload Msg}
    (run : Reachable system (Sized maxsize) s) :
    ∃ w : Watched Topic Payload Msg, Reachable watched (Sized maxsize) w ∧ w.hub = s := by
  induction run with
  | init => exact ⟨_, .init, rfl⟩
  | @next s s' label _ permitted taken ih =>
    obtain ⟨w, reached, rfl⟩ := ih
    refine ⟨⟨s', w.routed ++ routedBy label.1 w.hub label.2, joinedBy w label.2⟩,
      .next reached permitted ?_, rfl⟩
    have moved : step label.1 w.hub label.2 = some s' := taken
    change watchedStep w label = _
    rw [watchedStep, moved, Option.map_some]

/-! ## One queue -/

/-- A bounded queue with its account. -/
structure Bounded (maxsize : ℕ) (q : Queue Msg) : Prop where
  short : q.items.length ≤ maxsize
  account : ∃ dropped, Accounted q.arrived q.taken dropped q.items ∧
    Overtaken maxsize q.arrived dropped

namespace Bounded
variable {maxsize : ℕ} {q : Queue Msg}

theorem new : Bounded maxsize (Queue.new : Queue Msg) :=
  ⟨Nat.zero_le _, [], .start, .start⟩

/-- Offered a message, the queue has it last, in place of its oldest if it was full. -/
theorem offer_eq (positive : 1 ≤ maxsize) (bounded : Bounded maxsize q) (m : Arrival Msg) :
    q.offer maxsize m =
      ⟨(if q.items.length = maxsize then q.items.tail else q.items) ++ [m], q.arrived ++ [m],
        q.taken⟩ := by
  have short := bounded.short
  by_cases filled : q.items.length = maxsize
  · have nonzero : 0 < maxsize := positive
    have noRoom : q.full maxsize = true := by simp [Queue.full, filled, nonzero]
    have emptied : Queue.full maxsize
        { q with items := q.items.tail, arrived := q.arrived ++ [m] } = false := by
      simp only [Queue.full, List.length_tail, Bool.and_eq_false_imp, decide_eq_true_eq,
        decide_eq_false_iff_not]
      omega
    rw [Queue.offer_full noRoom, Queue.putNowait, emptied, if_pos filled]
    rfl
  · have room : q.full maxsize = false := by
      simp only [Queue.full, Bool.and_eq_false_imp, decide_eq_true_eq, decide_eq_false_iff_not]
      omega
    rw [Queue.offer_room room, if_neg filled]

theorem offer (positive : 1 ≤ maxsize) (bounded : Bounded maxsize q) (m : Arrival Msg) :
    Bounded maxsize (q.offer maxsize m) := by
  rw [bounded.offer_eq positive]
  have short := bounded.short
  obtain ⟨dropped, account, overtaken⟩ := bounded.account
  by_cases filled : q.items.length = maxsize
  · obtain ⟨oldest, rest, items⟩ := List.exists_cons_of_length_pos (filled ▸ positive)
    rw [items] at account filled
    simp only [items, filled, if_true, List.tail_cons]
    refine ⟨?_, dropped ++ [oldest], account.drop.put m,
      overtaken.replace account (le_of_eq filled.symm) m⟩
    simpa using filled.le
  · simp only [if_neg filled]
    refine ⟨?_, dropped, account.put m, overtaken.put m⟩
    simp only [List.length_append, List.length_singleton]
    omega

theorem get (bounded : Bounded maxsize q) {m : Arrival Msg} {rest : List (Arrival Msg)}
    (items : q.items = m :: rest) :
    Bounded maxsize { q with items := rest, taken := q.taken ++ [m] } := by
  have short := bounded.short
  obtain ⟨dropped, account, overtaken⟩ := bounded.account
  rw [items] at account short
  exact ⟨Nat.le_of_succ_le short, dropped, account.take, overtaken⟩

end Bounded

/-! ## All queues of a run -/

/-- A queue listed once is offered the message once, any other is left alone. -/
theorem fanOut_nodup (maxsize : ℕ) (m : Arrival Msg) (queue : QueueId → Queue Msg)
    {qs : List QueueId} (nodup : qs.Nodup) (q : QueueId) :
    fanOut maxsize m queue qs q = if q ∈ qs then (queue q).offer maxsize m else queue q := by
  induction qs generalizing queue with
  | nil => rfl
  | cons x rest ih =>
    obtain ⟨fresh, later⟩ := List.nodup_cons.mp nodup
    rw [fanOut_cons, ih _ later]
    by_cases same : q = x
    · subst same
      rw [if_neg fresh, if_pos List.mem_cons_self, Function.update_self]
    · simp only [List.mem_cons, same, false_or, Function.update_of_ne same]

theorem messagesSince_append {routed : List (Topic × Arrival Msg)} {topic : Topic} {since : ℕ}
    (past : since ≤ routed.length) (more : List (Topic × Arrival Msg)) :
    messagesSince (routed ++ more) topic since =
      messagesSince routed topic since ++ messagesSince more topic 0 := by
  simp [messagesSince, List.drop_append_of_le_length past]

theorem messagesSince_end (routed : List (Topic × Arrival Msg)) (topic : Topic) :
    messagesSince routed topic routed.length = [] := by
  simp [messagesSince]

theorem messagesSince_one (topic own : Topic) (a : Arrival Msg) :
    messagesSince [(topic, a)] own 0 = if topic = own then [a] else [] := by
  by_cases same : topic = own <;> simp [messagesSince, same]

/-- What the queues of a hub have received and lost. -/
structure Tracked (maxsize : ℕ) (w : Watched Topic Payload Msg) : Prop where
  listed : Listed w.hub
  bounded : ∀ q, Bounded maxsize (w.hub.queue q)
  ordered : ∀ q, Ordered (w.hub.queue q).arrived
  numbered : ∀ q, ∀ a ∈ (w.hub.queue q).arrived, a.index < w.hub.received.length
  apart : ∀ q, w.joined q = none → (w.hub.queue q).arrived = []
  unused : ∀ q, w.hub.nextQueue ≤ q → w.joined q = none
  handed : ∀ q topic since, w.joined q = some (topic, since) → since ≤ w.routed.length ∧
    (w.hub.queue q).arrived <+: messagesSince w.routed topic since
  registered : ∀ topic, ∀ q ∈ queuesOf w.hub topic, ∃ since, w.joined q = some (topic, since) ∧
    (w.hub.queue q).arrived = messagesSince w.routed topic since

namespace Tracked
variable {maxsize : ℕ} {w : Watched Topic Payload Msg} {cfg : Config Topic Payload Msg}
  {s' : State Topic Payload Msg}

theorem initial : Tracked maxsize (⟨.initial, [], fun _ => none⟩ : Watched Topic Payload Msg) where
  listed := .initial
  bounded := fun _ => .new
  ordered := fun _ => List.Pairwise.nil
  numbered := fun _ _ member => by cases member
  apart := fun _ _ => rfl
  unused := fun _ _ => rfl
  handed := fun _ _ _ joined => by cases joined
  registered := fun _ _ member => by cases member

omit [DecidableEq Topic] in
/-- Only `subscribe` changes the record, at the new queue. -/
theorem joinedBy_cases (w : Watched Topic Payload Msg) (ev : Event Topic Msg) (q : QueueId) :
    joinedBy w ev q = w.joined q ∨ (q = w.hub.nextQueue ∧ ∃ id topic, ev = .subscribe id topic ∧
      joinedBy w ev q = some (topic, w.routed.length)) := by
  cases ev with
  | subscribe id topic =>
    by_cases new : q = w.hub.nextQueue
    · refine .inr ⟨new, id, topic, rfl, ?_⟩
      rw [joinedBy, new, Function.update_self]
    · exact .inl (Function.update_of_ne new _ _)
  | _ => exact .inl rfl

/-- A step that moves no message. -/
theorem quiet (tracked : Tracked maxsize w) {ev : Event Topic Msg} (step : Step cfg w.hub ev s')
    (notReceive : ∀ m, ev ≠ .receive m) (notGet : ∀ q, ev ≠ .get q) :
    Tracked maxsize ⟨s', w.routed ++ routedBy cfg w.hub ev, joinedBy w ev⟩ := by
  have still : s'.queue = w.hub.queue ∧ s'.received = w.hub.received := by
    rcases queue_step step with ⟨queue, received, -⟩ | ⟨_, m, is, -⟩ | ⟨q, _, _, is, -⟩
    · exact ⟨queue, received⟩
    · exact absurd is (notReceive m)
    · exact absurd is (notGet q)
  obtain ⟨queue, received⟩ := still
  have routes : routedBy cfg w.hub ev = [] := by
    cases ev with
    | receive m => exact absurd rfl (notReceive m)
    | _ => rfl
  have unusedNew : (w.hub.queue w.hub.nextQueue).arrived = [] :=
    tracked.apart _ (tracked.unused _ le_rfl)
  rw [routes, List.append_nil]
  refine ⟨tracked.listed.step step, ?_, ?_, ?_, ?_, ?_, ?_, ?_⟩
  · exact fun q => queue ▸ tracked.bounded q
  · exact fun q => queue ▸ tracked.ordered q
  · exact fun q => queue ▸ received ▸ tracked.numbered q
  · intro q none
    rw [queue]
    rcases joinedBy_cases w ev q with same | ⟨rfl, -⟩
    · exact tracked.apart q (same ▸ none)
    · exact unusedNew
  · intro q above
    have before := (nextQueue_step step).1.trans above
    rcases joinedBy_cases w ev q with same | ⟨rfl, id, topic, is, -⟩
    · exact same.trans (tracked.unused q before)
    · exact absurd ((nextQueue_step step).2 id topic is) (Nat.not_lt.mpr above)
  · intro q topic since joined
    rw [queue]
    rcases joinedBy_cases w ev q with same | ⟨rfl, id, own, is, now⟩
    · exact tracked.handed q topic since (same ▸ joined)
    · obtain ⟨-, rfl⟩ := Prod.mk.inj (Option.some.inj (now.symm.trans joined))
      rw [unusedNew]
      exact ⟨le_rfl, List.nil_prefix⟩
  · intro topic q member
    rw [queue]
    rcases queuesOf_step step member with before | ⟨rfl, id, is⟩
    · obtain ⟨since, joined, all⟩ := tracked.registered topic q before
      refine ⟨since, ?_, all⟩
      rcases joinedBy_cases w ev q with same | ⟨rfl, -⟩
      · exact same.trans joined
      · exact absurd (tracked.listed.fresh topic _ before) (Nat.lt_irrefl _)
    · refine ⟨w.routed.length, ?_, unusedNew.trans (messagesSince_end _ _).symm⟩
      rw [is]
      exact Function.update_self (f := w.joined) _ _

/-- A consumer takes the oldest message of its queue. -/
theorem get (tracked : Tracked maxsize w) {q : QueueId} (step : Step cfg w.hub (.get q) s') :
    Tracked maxsize ⟨s', w.routed ++ routedBy cfg w.hub (.get q), joinedBy w (.get q)⟩ := by
  have listed := tracked.listed.step step
  cases step with
  | @get _ m rest items =>
    have arrived (x : QueueId) : (Function.update w.hub.queue q
        { w.hub.queue q with items := rest, taken := (w.hub.queue q).taken ++ [m] } x).arrived =
          (w.hub.queue x).arrived := by
      by_cases same : x = q
      · subst same
        rw [Function.update_self]
      · rw [Function.update_of_ne same]
    have routes : routedBy cfg w.hub (.get q : Event Topic Msg) = [] := rfl
    rw [routes, List.append_nil]
    refine ⟨listed, fun x => ?_, ?_, ?_, ?_, tracked.unused, ?_, ?_⟩
    · by_cases same : x = q
      · subst same
        simp only [Function.update_self]
        exact (tracked.bounded x).get items
      · simp only [Function.update_of_ne same]
        exact tracked.bounded x
    · exact fun x => (arrived x).symm ▸ tracked.ordered x
    · exact fun x => (arrived x).symm ▸ tracked.numbered x
    · exact fun x none => (arrived x).trans (tracked.apart x none)
    · exact fun x topic since joined => (arrived x).symm ▸ tracked.handed x topic since joined
    · exact fun topic x member => (arrived x).symm ▸ tracked.registered topic x member

omit [DecidableEq Topic] in
theorem routedBy_receive {m : Msg} {c : Conn} {stable : Bool}
    (task : w.hub.task = .receiving c stable) : routedBy cfg w.hub (.receive m : Event Topic Msg) =
      (cfg.route m).toList.map fun topic => (topic, ⟨w.hub.received.length, c, m⟩) := by
  simp only [routedBy, task]
  cases cfg.route m <;> rfl

/-- A queue after the receive loop took a message. -/
theorem delivered_eq (sized : cfg.queueSize = maxsize) (tracked : Tracked maxsize w) (c : Conn)
    {m : Msg} {topic : Topic} (routed : cfg.route m = some topic) (q : QueueId) :
    delivered cfg w.hub c m q = if q ∈ queuesOf w.hub topic then
      (w.hub.queue q).offer maxsize ⟨w.hub.received.length, c, m⟩ else w.hub.queue q := by
  simp only [delivered, routed, sized]
  exact fanOut_nodup _ _ _ (tracked.listed.nodup topic) q

/-- A queue of any topic still has all that came since it joined. -/
theorem delivered_registered (tracked : Tracked maxsize w) (c : Conn) {m : Msg} {topic : Topic}
    (routed : cfg.route m = some topic) (own : Topic) {q : QueueId}
    (member : q ∈ queuesOf w.hub own) :
    ∃ since, w.joined q = some (own, since) ∧ (delivered cfg w.hub c m q).arrived =
      messagesSince (w.routed ++ [(topic, ⟨w.hub.received.length, c, m⟩)]) own since := by
  obtain ⟨since, joined, all⟩ := tracked.registered own q member
  refine ⟨since, joined, ?_⟩
  rw [messagesSince_append (tracked.handed q own since joined).1, ← all,
    arrived_once tracked.listed routed, messagesSince_one]
  by_cases same : topic = own
  · subst same
    rw [if_pos member, if_pos rfl]
  · have elsewhere : q ∉ queuesOf w.hub topic := fun also =>
      same (tracked.listed.own topic own q also member)
    rw [if_neg elsewhere, if_neg same]

/-- The receive loop takes a message that is routed nowhere. -/
theorem receive_unrouted (tracked : Tracked maxsize w) {m : Msg} {c : Conn} {stable : Bool}
    (task : w.hub.task = .receiving c stable) (step : Step cfg w.hub (.receive m) s')
    (unrouted : cfg.route m = none) :
    Tracked maxsize ⟨s', w.routed ++ routedBy cfg w.hub (.receive m), joinedBy w (.receive m)⟩ := by
  have listed := tracked.listed.step step
  rw [routedBy_receive task, unrouted, Option.toList_none, List.map_nil, List.append_nil]
  cases step with
  | @receive _ c' stable' task' =>
    have queue : delivered cfg w.hub c' m = w.hub.queue := by simp only [delivered, unrouted]
    simp only [queue] at listed ⊢
    refine ⟨listed, tracked.bounded, tracked.ordered, ?_, tracked.apart, tracked.unused,
      tracked.handed, tracked.registered⟩
    intro q a member
    simp only [List.length_append]
    exact Nat.lt_add_right _ (tracked.numbered q a member)

/-- The receive loop takes a message. -/
theorem receive (positive : 1 ≤ maxsize) (sized : cfg.queueSize = maxsize)
    (tracked : Tracked maxsize w) {m : Msg} (step : Step cfg w.hub (.receive m) s') :
    Tracked maxsize ⟨s', w.routed ++ routedBy cfg w.hub (.receive m), joinedBy w (.receive m)⟩ := by
  have listed := tracked.listed.step step
  obtain ⟨c, stable, task⟩ : ∃ c stable, w.hub.task = .receiving c stable := by
    cases step with
    | receive task => exact ⟨_, _, task⟩
  cases routed : cfg.route m with
  | none => exact tracked.receive_unrouted task step routed
  | some topic =>
    rw [routedBy_receive task, routed, Option.toList_some, List.map_singleton]
    cases step with
    | @receive _ c' stable' task' =>
      obtain ⟨rfl, -⟩ := Task.receiving.inj (task.symm.trans task')
      have arrived := arrived_once tracked.listed routed c
      have later (q : QueueId) :=
        delivered_ordered tracked.listed (tracked.ordered q) (tracked.numbered q) cfg c m
      refine ⟨listed, ?_, ?_, ?_, ?_, tracked.unused, ?_, fun own q member =>
        tracked.delivered_registered c routed own member⟩
      · intro q
        change Bounded maxsize (delivered cfg w.hub c m q)
        rw [tracked.delivered_eq sized c routed q]
        split
        · exact (tracked.bounded q).offer positive _
        · exact tracked.bounded q
      · exact fun q => (later q).1
      · intro q a member
        change a.index < (w.hub.received ++ [(c, m)]).length
        rw [List.length_append, List.length_singleton]
        exact (later q).2 a member
      · intro q none
        change (delivered cfg w.hub c m q).arrived = []
        have elsewhere : q ∉ queuesOf w.hub topic := fun member => by
          obtain ⟨since, joined, -⟩ := tracked.registered topic q member
          cases none.symm.trans joined
        rw [arrived q, if_neg elsewhere, List.append_nil]
        exact tracked.apart q none
      · intro q own since joined
        obtain ⟨past, isPrefix⟩ := tracked.handed q own since joined
        refine ⟨past.trans (by simp), ?_⟩
        by_cases member : q ∈ queuesOf w.hub topic
        · obtain ⟨since', joined', all⟩ := tracked.delivered_registered c routed topic member
          obtain ⟨rfl, rfl⟩ := Prod.mk.inj (Option.some.inj (joined.symm.trans joined'))
          exact all ▸ List.prefix_refl _
        · change (delivered cfg w.hub c m q).arrived <+: _
          rw [arrived q, if_neg member, List.append_nil, messagesSince_append past]
          exact isPrefix.trans (List.prefix_append _ _)

theorem step (positive : 1 ≤ maxsize) {label : Label Topic Payload Msg}
    (sized : label.1.queueSize = maxsize) {w' : Watched Topic Payload Msg}
    (tracked : Tracked maxsize w) (taken : watchedStep w label = some w') : Tracked maxsize w' := by
  obtain ⟨s', moved, rfl⟩ := Option.map_eq_some_iff.mp taken
  have step := step_cases moved
  rcases label with ⟨cfg, ev⟩
  cases ev with
  | receive m => exact tracked.receive positive sized step
  | get q => exact tracked.get step
  | _ => exact tracked.quiet step (by simp) (by simp)

end Tracked

theorem tracked_reachable {maxsize : ℕ} (positive : 1 ≤ maxsize) {w : Watched Topic Payload Msg}
    (run : Reachable watched (Sized maxsize) w) : Tracked maxsize w :=
  run.invariant .initial fun _ _ _ _ tracked sized taken => tracked.step positive sized taken

/-! ## Other consumers make no difference -/

/-- The same hub with other queues. -/
def State.withQueue (s : State Topic Payload Msg) (queue : QueueId → Queue Msg) :
    State Topic Payload Msg :=
  { s with queue }

omit [DecidableEq Topic] in
theorem sendPayloads_withQueue (s : State Topic Payload Msg) (queue : QueueId → Queue Msg)
    (ws : Option Conn) (frame : Payload → Frame Payload) (payloads : List Payload) (ok : Bool) :
    sendPayloads (s.withQueue queue) ws frame payloads ok =
      (sendPayloads s ws frame payloads ok).map fun sent => (sent.1.withQueue queue, sent.2) := by
  cases ws with
  | none => rfl
  | some c =>
    cases payloads with
    | nil => rfl
    | cons p rest =>
      cases ok with
      | true => rfl
      | false => by_cases dead : c ∈ s.dead <;> simp [sendPayloads, State.withQueue, dead]

omit [DecidableEq Topic] in
/-- What follows a send is the same, with the other queues. -/
theorem afterSend_withQueue (s : State Topic Payload Msg) (queue : QueueId → Queue Msg)
    (ws : Option Conn) (frame : Payload → Frame Payload) (payloads : List Payload) (ok : Bool)
    {after : State Topic Payload Msg × Option (Conn × List Payload) → State Topic Payload Msg}
    (same : ∀ t pending, after (t.withQueue queue, pending) = (after (t, pending)).withQueue queue) :
    (sendPayloads (s.withQueue queue) ws frame payloads ok).map after =
      ((sendPayloads s ws frame payloads ok).map after).map fun t => t.withQueue queue := by
  rw [sendPayloads_withQueue]
  cases sendPayloads s ws frame payloads ok with
  | none => rfl
  | some sent => exact congrArg some (same sent.1 sent.2)

theorem unsubscribe_withQueue (cfg : Config Topic Payload Msg) (s : State Topic Payload Msg)
    (queue : QueueId → Queue Msg) (id : CallId) (topic : Topic) (q : QueueId) (ok : Bool) :
    unsubscribe cfg (s.withQueue queue) id topic q ok =
      (unsubscribe cfg s id topic q ok).map fun t => t.withQueue queue := by
  unfold unsubscribe
  extract_lets _ _ _ _ startable qs connected dropped
  by_cases refused : (!startable || held s q) = true
  · rw [if_pos refused]
    exact if_pos refused
  · rw [if_neg refused]
    refine (if_neg refused).trans ?_
    by_cases others : qs ≠ []
    · rw [if_pos others]
      exact if_pos others
    · rw [if_neg others]
      refine (if_neg others).trans ?_
      by_cases set : connected = true
      · rw [if_pos set]
        refine (if_pos set).trans ?_
        exact afterSend_withQueue dropped queue _ _ _ _ fun _ _ => rfl
      · rw [if_neg set]
        exact if_neg set

/-- Steps that move no message do not look at the queues. -/
theorem step_withQueue (cfg : Config Topic Payload Msg) (s : State Topic Payload Msg)
    (queue : QueueId → Queue Msg) {ev : Event Topic Msg} (notReceive : ∀ m, ev ≠ .receive m)
    (notGet : ∀ q, ev ≠ .get q) :
    step cfg (s.withQueue queue) ev = (step cfg s ev).map fun t => t.withQueue queue := by
  obtain ⟨queues, subscribedTopics, connected, ws, task, reconnectDelay, calls, queue', nextQueue,
    nextConn, wire, dead, failed, received⟩ := s
  cases ev with
  | receive m => exact absurd rfl (notReceive m)
  | get q => exact absurd rfl (notGet q)
  | subscribe id topic =>
    simp only [step, subscribe, State.withQueue]
    cases calls.get? id <;> rfl
  | wake id =>
    simp only [step, wake, State.withQueue]
    rcases calls.get? id with _ | (_ | _ | _ | _ | _ | _ | _) <;> try rfl
    cases connected <;> rfl
  | timeout id =>
    simp only [step, timeout, State.withQueue]
    rcases calls.get? id with _ | (_ | _ | _ | _ | _ | _ | _) <;> rfl
  | resume id ok =>
    simp only [step, resume, State.withQueue]
    rcases calls.get? id with _ | (_ | ⟨topic, q⟩ | _ | _ | _ | _ | _) <;> try rfl
    by_cases known : topic ∈ subscribedTopics
    · simp only [if_pos known]
      exact if_pos known
    · simp only [if_neg known]
      refine (if_neg known).trans ?_
      symm
      exact (afterSend_withQueue _ queue _ _ _ _ fun _ _ => rfl).symm
  | sent id ok =>
    simp only [step, sent, State.withQueue]
    rcases calls.get? id with _ | (_ | _ | ⟨_, _, c, rest⟩ | _ | ⟨_, _, c, rest⟩ | _ | _) <;>
      try rfl
    · symm
      exact (afterSend_withQueue _ queue _ _ _ _ fun _ _ => rfl).symm
    · symm
      exact (afterSend_withQueue _ queue _ _ _ _ fun _ _ => rfl).symm
  | unsubscribe id topic q ok =>
    exact unsubscribe_withQueue cfg _ queue id topic q ok
  | cancel id =>
    simp only [step, cancel, State.withQueue]
    rcases calls.get? id with _ | (_ | _ | _ | _ | _ | _ | _) <;> rfl
  | connect ok =>
    simp only [step, connect, State.withQueue]
    cases task <;> try rfl
    symm
    refine (afterSend_withQueue _ queue _ _ _ _ ?_).symm
    intro t pending
    cases pending <;> rfl
  | connectFailed =>
    simp only [step, connectFailed, State.withQueue]
    cases task <;> rfl
  | resubscribed ok =>
    simp only [step, resubscribed, State.withQueue]
    cases task with
    | resubscribing c rest =>
      symm
      refine (afterSend_withQueue _ queue _ _ _ _ ?_).symm
      intro t pending
      cases pending <;> rfl
    | _ => rfl
  | disconnect =>
    simp only [step, disconnect, State.withQueue]
    cases task <;> rfl
  | closed =>
    simp only [step, closed, State.withQueue]
    cases task <;> rfl
  | reconnect =>
    simp only [step, reconnect, State.withQueue]
    cases task <;> rfl
  | die c => rfl

/-- The same hub, as far as the consumer of one queue can tell. -/
def SameBut (q : QueueId) (s s' : State Topic Payload Msg) : Prop :=
  ∃ queue, s' = s.withQueue queue ∧ queue q = s.queue q

/-- The steps that are not a consumer's of another queue. -/
def concerns (q : QueueId) (label : Label Topic Payload Msg) : Bool :=
  match label.2 with
  | .get x => x = q
  | _ => true

omit [DecidableEq Topic] in
theorem fanOut_congr (maxsize : ℕ) (m : Arrival Msg) {queue queue' : QueueId → Queue Msg}
    {q : QueueId} (same : queue' q = queue q) (qs : List QueueId) :
    fanOut maxsize m queue' qs q = fanOut maxsize m queue qs q := by
  induction qs generalizing queue queue' with
  | nil => exact same
  | cons x rest ih =>
    rw [fanOut_cons, fanOut_cons]
    refine ih ?_
    by_cases own : q = x
    · subst own
      rw [Function.update_self, Function.update_self, same]
    · rw [Function.update_of_ne own, Function.update_of_ne own, same]

theorem receive_eq {cfg : Config Topic Payload Msg} {s : State Topic Payload Msg} {c : Conn}
    {stable : Bool} (task : s.task = .receiving c stable) (m : Msg) :
    step cfg s (.receive m) = some { s with
      task := .receiving c true
      reconnectDelay := if stable then s.reconnectDelay else 1
      received := s.received ++ [(c, m)]
      queue := delivered cfg s c m } := by
  simp only [step, receive, task, delivered]
  cases cfg.route m <;> rfl

/-- A step that concerns a queue does the same to it, whatever is in the others. -/
theorem SameBut.step {q : QueueId} {s s' t : State Topic Payload Msg} (same : SameBut q s s')
    {label : Label Topic Payload Msg} (concerned : concerns q label = true)
    (taken : step label.1 s label.2 = some t) :
    ∃ t', step label.1 s' label.2 = some t' ∧ SameBut q t t' := by
  obtain ⟨queue, rfl, own⟩ := same
  obtain ⟨cfg, ev⟩ := label
  have branch := step_cases taken
  cases ev with
  | receive m =>
    cases branch with
    | @receive _ c stable task =>
      refine ⟨_, receive_eq (s := s.withQueue queue) task m, _, rfl, ?_⟩
      simp only [delivered, State.withQueue]
      cases cfg.route m with
      | none => exact own
      | some topic => exact fanOut_congr _ _ own _
  | get x =>
    obtain rfl : x = q := by simpa [concerns] using concerned
    cases branch with
    | @get _ m rest items =>
      have items' : ((s.withQueue queue).queue x).items = m :: rest := by
        rw [← items, ← own]
        rfl
      refine ⟨_, by simp only [StreamHub.step, get, items']; rfl, _, rfl, ?_⟩
      simp only [State.withQueue, Function.update_self, own]
  | _ =>
    have still : t.queue = s.queue := by
      rcases queue_step branch with ⟨same, -⟩ | ⟨_, _, is, -⟩ | ⟨_, _, _, is, -⟩
      · exact same
      · cases is
      · cases is
    refine ⟨t.withQueue queue, ?_, queue, rfl, own.trans (congrFun still q).symm⟩
    rw [step_withQueue cfg s queue (by simp) (by simp)]
    exact congrArg (Option.map fun t => t.withQueue queue) taken

/-- What another consumer takes does not show. -/
theorem SameBut.skip {q : QueueId} {s s' t : State Topic Payload Msg} (same : SameBut q s s')
    {label : Label Topic Payload Msg} (other : concerns q label = false)
    (taken : StreamHub.step label.1 s label.2 = some t) : SameBut q t s' := by
  obtain ⟨queue, rfl, own⟩ := same
  obtain ⟨cfg, ev⟩ := label
  cases ev with
  | get x =>
    have apart : x ≠ q := by simpa [concerns] using other
    have branch := step_cases taken
    cases branch with
    | get items =>
      refine ⟨queue, rfl, own.trans ?_⟩
      exact (Function.update_of_ne (Ne.symm apart) _ _).symm
  | _ => cases other

/-- A run without the other consumers' steps is a run, and does the same to the queue. -/
theorem exec_concerned {q : QueueId} (labels : List (Label Topic Payload Msg))
    {s s' t : State Topic Payload Msg} (same : SameBut q s s')
    (run : system.exec (fun _ _ => true) s labels = some t) :
    ∃ t', system.exec (fun _ _ => true) s' (labels.filter (concerns q)) = some t' ∧
      SameBut q t t' := by
  induction labels generalizing s s' with
  | nil =>
    obtain rfl := Option.some.inj run
    exact ⟨s', rfl, same⟩
  | cons label rest ih =>
    simp only [System.exec, if_true] at run
    cases taken : system.step s label with
    | none => simp [taken] at run
    | some mid =>
      rw [taken] at run
      cases concerned : concerns q label with
      | true =>
        obtain ⟨mid', taken', same'⟩ := same.step concerned taken
        obtain ⟨t', run', ends⟩ := ih same' run
        refine ⟨t', ?_, ends⟩
        rw [List.filter_cons_of_pos concerned]
        have moved : system.step s' label = some mid' := taken'
        simp only [System.exec, if_true, moved]
        exact run'
      | false =>
        obtain ⟨t', run', ends⟩ := ih (same.skip concerned taken) run
        rw [List.filter_cons_of_neg (by simp [concerned])]
        exact ⟨t', run', ends⟩

/-! ## The queues of a hub -/

/-- What a queue has been handed, has given away and has lost. -/
structure DropsOldest (maxsize : ℕ) (w : Watched Topic Payload Msg) (q : QueueId) : Prop where
  /-- It receives nothing but its topic's messages since it joined, and all of them while
  it is registered. -/
  handed : (w.joined q = none ∧ (w.hub.queue q).arrived = []) ∨
    ∃ topic since, w.joined q = some (topic, since) ∧
      (w.hub.queue q).arrived <+: messagesSince w.routed topic since
  registered : ∀ topic, q ∈ queuesOf w.hub topic → ∃ since, w.joined q = some (topic, since) ∧
    (w.hub.queue q).arrived = messagesSince w.routed topic since
  inOrder : (w.hub.queue q).taken.Sublist (w.hub.queue q).arrived
  once : (w.hub.queue q).arrived.Nodup
  within : (w.hub.queue q).items.length ≤ maxsize
  /-- A message that is neither taken nor there has `maxsize` later ones. -/
  overtaken : ∀ a ∈ (w.hub.queue q).arrived, a ∉ (w.hub.queue q).taken →
    a ∉ (w.hub.queue q).items →
    ∃ before after, (w.hub.queue q).arrived = before ++ a :: after ∧ maxsize ≤ after.length

theorem Tracked.dropsOldest {maxsize : ℕ} {w : Watched Topic Payload Msg}
    (tracked : Tracked maxsize w) (q : QueueId) : DropsOldest maxsize w q := by
  obtain ⟨dropped, account, overtaken⟩ := (tracked.bounded q).account
  refine ⟨?_, fun topic => tracked.registered topic q, account.taken_sublist,
    (tracked.ordered q).nodup, (tracked.bounded q).short, ?_⟩
  · cases joined : w.joined q with
    | none => exact .inl ⟨rfl, tracked.apart q joined⟩
    | some record => exact .inr ⟨record.1, record.2, rfl, (tracked.handed q _ _ joined).2⟩
  · intro a member notTaken notThere
    rcases account.mem_or member with taken | lost | there
    · exact absurd taken notTaken
    · exact overtaken a lost
    · exact absurd there notThere

/-- Right after a message is routed it is the newest in each queue of its topic. -/
theorem Tracked.newest {maxsize : ℕ} (positive : 1 ≤ maxsize) {w w' : Watched Topic Payload Msg}
    (tracked : Tracked maxsize w) {label : Label Topic Payload Msg}
    (sized : label.1.queueSize = maxsize) (taken : watchedStep w label = some w') {topic : Topic}
    {a : Arrival Msg} (routed : (topic, a) ∈ routedBy label.1 w.hub label.2) {q : QueueId}
    (member : q ∈ queuesOf w.hub topic) : (w'.hub.queue q).items.getLast? = some a := by
  obtain ⟨s', moved, rfl⟩ := Option.map_eq_some_iff.mp taken
  have branch := step_cases moved
  obtain ⟨cfg, ev⟩ := label
  cases ev with
  | receive m =>
    cases branch with
    | @receive _ c stable task =>
      rw [routedBy_receive task] at routed
      obtain ⟨own, isRoute, same⟩ := List.mem_map.mp routed
      cases same
      have queue := tracked.delivered_eq sized c (Option.mem_toList.mp isRoute) q
      change (delivered cfg w.hub c m q).items.getLast? = _
      rw [queue, if_pos member, (tracked.bounded q).offer_eq positive]
      exact List.getLast?_concat
  | _ => cases routed

/-- Bounded fan-out queues drop only their oldest messages, and each is alone with its
consumer. -/
theorem queues_dropOldest {maxsize : ℕ} (positive : 1 ≤ maxsize) :
    (∀ s : State Topic Payload Msg, Reachable system (Sized maxsize) s →
      ∃ w, Reachable watched (Sized maxsize) w ∧ w.hub = s) ∧
    (∀ w : Watched Topic Payload Msg, Reachable watched (Sized maxsize) w →
      (∀ q, DropsOldest maxsize w q) ∧
      ∀ label w', label.1.queueSize = maxsize → watched.step w label = some w' →
        ∀ topic a, (topic, a) ∈ routedBy label.1 w.hub label.2 → ∀ q ∈ queuesOf w.hub topic,
          (w'.hub.queue q).items.getLast? = some a) ∧
    ∀ (q : QueueId) (labels labels' : List (Label Topic Payload Msg))
      (s s' : State Topic Payload Msg),
      labels.filter (concerns q) = labels'.filter (concerns q) →
      system.exec (fun _ _ => true) system.init labels = some s →
      system.exec (fun _ _ => true) system.init labels' = some s' → s'.queue q = s.queue q := by
  refine ⟨fun s run => exists_watched run, fun w run => ?_, ?_⟩
  · have tracked := tracked_reachable positive run
    exact ⟨tracked.dropsOldest, fun label w' sized taken topic a routed q member =>
      tracked.newest positive sized taken routed member⟩
  · intro q labels labels' s s' same run run'
    have start : SameBut q (State.initial : State Topic Payload Msg) .initial := ⟨_, rfl, rfl⟩
    obtain ⟨t, alone, queue, rfl, own⟩ := exec_concerned labels start run
    obtain ⟨t', alone', queue', rfl, own'⟩ := exec_concerned labels' start run'
    rw [same, alone'] at alone
    have ends := congrArg (fun t => t.queue q) (Option.some.inj alone)
    exact own'.symm.trans (ends.trans own)

/-- One queue of one place: the message 4 comes while 2 is there. -/
def crowdedConfig : Config Nat (List Nat) Nat := ⟨fun topics => [topics], fun topics => [topics],
  fun m => some (m % 2), 1⟩

def crowdedRun : List (Label Nat (List Nat) Nat) :=
  [.subscribe 0 0, .connect true, .resubscribed true, .receive 2, .receive 3, .receive 4].map
    fun ev => (crowdedConfig, ev)

theorem crowdedRun_ends : watched.endsIn (fun _ label => label.1.queueSize = 1) crowdedRun
    (fun w => (w.hub.queue 0).arrived = [⟨0, 0, 2⟩, ⟨2, 0, 4⟩] &&
      (w.hub.queue 0).items = [⟨2, 0, 4⟩] && (w.hub.queue 0).taken = []) = true := by decide

theorem queues_dropOldest_crowded : ∃ w : Watched Nat (List Nat) Nat,
    Reachable watched (Sized 1) w ∧ (w.hub.queue 0).items = [⟨2, 0, 4⟩] ∧
      ∃ before after, (w.hub.queue 0).arrived = before ++ ⟨0, 0, 2⟩ :: after ∧ 1 ≤ after.length := by
  obtain ⟨w, run, ends⟩ := System.exists_reachable
    (fun _ _ _ sized => of_decide_eq_true sized) crowdedRun_ends
  simp only [Bool.and_eq_true, decide_eq_true_eq] at ends
  obtain ⟨⟨arrived, items⟩, taken⟩ := ends
  have kept := ((queues_dropOldest le_rfl).2.1 w run).1 0
  exact ⟨w, run, items, kept.overtaken _ (by simp [arrived]) (by simp [taken]) (by simp [items])⟩

end ExchangeRouter.StreamHub
