import ExchangeRouter.StreamHub.Model

/-!
# What one step of a hub can do

`Step` lists the branches of `step` with their guards, one constructor for each
path through the source between two suspensions.  Every invariant of the hub is
proved by cases on it, so that a change of one method is a change of its
constructors.
-/
namespace ExchangeRouter.StreamHub
open Lib

variable {Topic Payload Msg : Type}

/-- The three ways `_send_payloads` reaches its next suspension or its end. -/
inductive SendOutcome (s : State Topic Payload Msg) (ws : Option Conn)
    (frame : Payload → Frame Payload) (payloads : List Payload) (ok : Bool) :
    State Topic Payload Msg → Option (Conn × List Payload) → Prop
  | nothing (idle : ws = none ∨ payloads = []) : SendOutcome s ws frame payloads ok s none
  | left {c : Conn} {p : Payload} {rest : List Payload} (on : ws = some c)
      (next : payloads = p :: rest) :
      SendOutcome s ws frame payloads ok { s with wire := s.wire ++ [(c, frame p)] } (some (c, rest))
  | raised {c : Conn} {p : Payload} {rest : List Payload} (on : ws = some c)
      (next : payloads = p :: rest) (refused : ok = false) (dead : c ∈ s.dead) :
      SendOutcome s ws frame payloads ok { s with failed := insert c s.failed } none

theorem sendPayloads_outcome {s s' : State Topic Payload Msg} {ws : Option Conn}
    {frame : Payload → Frame Payload} {payloads : List Payload} {ok : Bool}
    {pending : Option (Conn × List Payload)}
    (h : sendPayloads s ws frame payloads ok = some (s', pending)) :
    SendOutcome s ws frame payloads ok s' pending := by
  unfold sendPayloads at h
  split at h
  · split at h
    · cases h
      exact .left rfl rfl
    · rename_i refused
      split at h
      · cases h
        exact .raised rfl rfl (by simpa using refused) ‹_›
      · cases h
  · rename_i notBoth
    cases h
    refine .nothing ?_
    cases ws with
    | none => exact Or.inl rfl
    | some c =>
      cases payloads with
      | nil => exact Or.inr rfl
      | cons p rest => exact absurd rfl (notBoth c p rest rfl)

/-- A send changes the wire and the record of failures, nothing else. -/
theorem SendOutcome.frame {s mid : State Topic Payload Msg} {ws : Option Conn}
    {frame : Payload → Frame Payload} {payloads : List Payload}
    {ok : Bool} {pending : Option (Conn × List Payload)}
    (h : SendOutcome s ws frame payloads ok mid pending) :
    mid = { s with wire := mid.wire, failed := mid.failed } := by
  cases h <;> rfl

section
variable {s mid : State Topic Payload Msg} {ws : Option Conn} {frame : Payload → Frame Payload}
  {payloads : List Payload} {ok : Bool} {pending : Option (Conn × List Payload)}

theorem SendOutcome.queues (h : SendOutcome s ws frame payloads ok mid pending) :
    mid.queues = s.queues := by rw [h.frame]

theorem SendOutcome.calls (h : SendOutcome s ws frame payloads ok mid pending) :
    mid.calls = s.calls := by rw [h.frame]

theorem SendOutcome.subscribedTopics (h : SendOutcome s ws frame payloads ok mid pending) :
    mid.subscribedTopics = s.subscribedTopics := by rw [h.frame]

theorem SendOutcome.ws_eq (h : SendOutcome s ws frame payloads ok mid pending) :
    mid.ws = s.ws := by rw [h.frame]

theorem SendOutcome.connected (h : SendOutcome s ws frame payloads ok mid pending) :
    mid.connected = s.connected := by rw [h.frame]

theorem SendOutcome.nextQueue (h : SendOutcome s ws frame payloads ok mid pending) :
    mid.nextQueue = s.nextQueue := by rw [h.frame]

end

theorem SendOutcome.mem_wire {s mid : State Topic Payload Msg} {ws : Option Conn}
    {frame : Payload → Frame Payload} {payloads : List Payload} {ok : Bool}
    {pending : Option (Conn × List Payload)}
    (send : SendOutcome s ws frame payloads ok mid pending) {e : Conn × Frame Payload}
    (member : e ∈ mid.wire) :
    e ∈ s.wire ∨ ∃ c p, ws = some c ∧ p ∈ payloads ∧ e = (c, frame p) := by
  cases send with
  | nothing _ => exact Or.inl member
  | raised _ _ _ _ => exact Or.inl member
  | @left c p rest on next =>
    refine (List.mem_append.mp member).imp_right fun new => ?_
    exact ⟨c, p, on, by simp [next], List.mem_singleton.mp new⟩

/-- What is still to be sent was handed over, on the same connection. -/
theorem SendOutcome.pending_sub {s mid : State Topic Payload Msg} {ws : Option Conn}
    {frame : Payload → Frame Payload} {payloads : List Payload} {ok : Bool} {c : Conn}
    {rest : List Payload} (send : SendOutcome s ws frame payloads ok mid (some (c, rest))) :
    ws = some c ∧ ∀ p ∈ rest, p ∈ payloads := by
  cases send with
  | left on next => exact ⟨on, fun p later => by simp [next, later]⟩

/-- `self._task` after `subscribe`. -/
def started : Task Payload → Task Payload
  | .idle => .connecting
  | task => task

/-- `subscribe` starts no resubscription. -/
theorem started_resubscribing {task : Task Payload} {c : Conn} {rest : List Payload} :
    started task = .resubscribing c rest ↔ task = .resubscribing c rest := by
  cases task <;> simp [started]

/-- A task may call `unsubscribe` if it runs no other call. -/
def Startable (s : State Topic Payload Msg) (id : CallId) : Prop :=
  s.calls.get? id = none ∨ ∃ topic q, s.calls.get? id = some (.returned topic q)

/-- No subscriber that has not returned holds `q`. -/
def NotHeld (s : State Topic Payload Msg) (q : QueueId) : Prop :=
  ∀ id call topic, s.calls.get? id = some call → call.subscribing ≠ some (topic, q)

variable [DecidableEq Topic]

/-- `_queues` and `_subscribed_topics` after the last queue of a topic left. -/
def dropTopic (s : State Topic Payload Msg) (topic : Topic) : State Topic Payload Msg :=
  { s with
    queues := s.queues.pop topic
    subscribedTopics := s.subscribedTopics.erase topic }

def markSubscribed (s : State Topic Payload Msg) (topic : Topic) : State Topic Payload Msg :=
  { s with subscribedTopics := insert topic s.subscribedTopics }

/-- `_run` after `_connect` returned and the snapshot was taken. -/
def snapshot (s : State Topic Payload Msg) : State Topic Payload Msg :=
  { s with
    ws := some s.nextConn
    nextConn := s.nextConn + 1
    subscribedTopics := s.queues.keys.toFinset }

/-- The receive loop's effect on the queues. -/
def delivered (cfg : Config Topic Payload Msg) (s : State Topic Payload Msg) (c : Conn) (m : Msg) :
    QueueId → Queue Msg :=
  match cfg.route m with
  | none => s.queue
  | some topic => fanOut cfg.queueSize ⟨s.received.length, c, m⟩ s.queue (queuesOf s topic)

inductive Step (cfg : Config Topic Payload Msg) (s : State Topic Payload Msg) :
    Event Topic Msg → State Topic Payload Msg → Prop
  | subscribeNew {id : CallId} {topic : Topic} (fresh : s.calls.get? id = none)
      (new : s.queues.get? topic = none) :
      Step cfg s (.subscribe id topic) { s with
        queues := s.queues.set topic [s.nextQueue]
        task := started s.task
        nextQueue := s.nextQueue + 1
        calls := s.calls.set id (.waiting topic s.nextQueue) }
  | subscribeJoin {id : CallId} {topic : Topic} {qs : List QueueId}
      (fresh : s.calls.get? id = none) (known : s.queues.get? topic = some qs) :
      Step cfg s (.subscribe id topic) { s with
        queues := s.queues.set topic (qs ++ [s.nextQueue])
        task := started s.task
        nextQueue := s.nextQueue + 1
        calls := s.calls.set id (.returned topic s.nextQueue) }
  | wake {id : CallId} {topic : Topic} {q : QueueId}
      (call : s.calls.get? id = some (.waiting topic q)) (connected : s.connected = true) :
      Step cfg s (.wake id) { s with calls := s.calls.set id (.woken topic q) }
  | timeout {id : CallId} {topic : Topic} {q : QueueId}
      (call : s.calls.get? id = some (.waiting topic q)) :
      Step cfg s (.timeout id) { s with calls := s.calls.set id (.returned topic q) }
  | resumeKnown {id : CallId} {ok : Bool} {topic : Topic} {q : QueueId}
      (call : s.calls.get? id = some (.woken topic q)) (known : topic ∈ s.subscribedTopics) :
      Step cfg s (.resume id ok) { s with calls := s.calls.set id (.returned topic q) }
  | resumeSend {id : CallId} {ok : Bool} {topic : Topic} {q : QueueId}
      {mid : State Topic Payload Msg} {pending : Option (Conn × List Payload)}
      (call : s.calls.get? id = some (.woken topic q)) (new : topic ∉ s.subscribedTopics)
      (send : SendOutcome (markSubscribed s topic) s.ws .subscribe
        (cfg.subscribePayload [topic]) ok mid pending) :
      Step cfg s (.resume id ok)
        { mid with calls := s.calls.set id (afterSubscribeSend topic q pending) }
  | sentSubscribe {id : CallId} {ok : Bool} {topic : Topic} {q : QueueId} {c : Conn}
      {rest : List Payload} {mid : State Topic Payload Msg}
      {pending : Option (Conn × List Payload)}
      (call : s.calls.get? id = some (.sending topic q c rest))
      (send : SendOutcome s (some c) .subscribe rest ok mid pending) :
      Step cfg s (.sent id ok)
        { mid with calls := s.calls.set id (afterSubscribeSend topic q pending) }
  | sentUnsubscribe {id : CallId} {ok : Bool} {topic : Topic} {q : QueueId} {c : Conn}
      {rest : List Payload} {mid : State Topic Payload Msg}
      {pending : Option (Conn × List Payload)}
      (call : s.calls.get? id = some (.unsubscribing topic q c rest))
      (send : SendOutcome s (some c) .unsubscribe rest ok mid pending) :
      Step cfg s (.sent id ok)
        { mid with calls := s.calls.set id (afterUnsubscribeSend topic q pending) }
  | unsubscribeKeep {id : CallId} {topic : Topic} {q : QueueId} {ok : Bool}
      (startable : Startable s id) (notHeld : NotHeld s q)
      (others : (queuesOf s topic).filter (fun x => x ≠ q) ≠ []) :
      Step cfg s (.unsubscribe id topic q ok) { s with
        queues := s.queues.set topic ((queuesOf s topic).filter fun x => x ≠ q)
        calls := s.calls.set id (.finished topic q) }
  | unsubscribeQuiet {id : CallId} {topic : Topic} {q : QueueId} {ok : Bool}
      (startable : Startable s id) (notHeld : NotHeld s q)
      (last : (queuesOf s topic).filter (fun x => x ≠ q) = []) (disconnected : s.connected = false) :
      Step cfg s (.unsubscribe id topic q ok)
        { dropTopic s topic with calls := s.calls.set id (.finished topic q) }
  | unsubscribeSend {id : CallId} {topic : Topic} {q : QueueId} {ok : Bool}
      {mid : State Topic Payload Msg} {pending : Option (Conn × List Payload)}
      (startable : Startable s id) (notHeld : NotHeld s q)
      (last : (queuesOf s topic).filter (fun x => x ≠ q) = []) (connected : s.connected = true)
      (send : SendOutcome (dropTopic s topic) s.ws .unsubscribe
        (cfg.unsubscribePayload [topic]) ok mid pending) :
      Step cfg s (.unsubscribe id topic q ok)
        { mid with calls := s.calls.set id (afterUnsubscribeSend topic q pending) }
  | cancelSubscribe {id : CallId} {call : Call Topic Payload} {topic : Topic} {q : QueueId}
      (running : s.calls.get? id = some call) (holds : call.subscribing = some (topic, q)) :
      Step cfg s (.cancel id) { s with calls := s.calls.set id (.cancelled topic q) }
  | cancelUnsubscribe {id : CallId} {topic : Topic} {q : QueueId} {c : Conn}
      {rest : List Payload} (running : s.calls.get? id = some (.unsubscribing topic q c rest)) :
      Step cfg s (.cancel id) { s with calls := s.calls.set id (.cancelled topic q) }
  | connect {ok : Bool} {mid : State Topic Payload Msg}
      {pending : Option (Conn × List Payload)} (task : s.task = .connecting)
      (send : SendOutcome (snapshot s) (some s.nextConn) .subscribe
        (if s.queues.keys = [] then [] else cfg.subscribePayload s.queues.keys) ok mid pending) :
      Step cfg s (.connect ok) (afterResubscribe s.nextConn mid pending)
  | connectFailed (task : s.task = .connecting) :
      Step cfg s .connectFailed { s with connected := false, ws := none, task := .sleeping }
  | resubscribed {ok : Bool} {c : Conn} {rest : List Payload} {mid : State Topic Payload Msg}
      {pending : Option (Conn × List Payload)} (task : s.task = .resubscribing c rest)
      (send : SendOutcome s (some c) .subscribe rest ok mid pending) :
      Step cfg s (.resubscribed ok) (afterResubscribe c mid pending)
  | receive {m : Msg} {c : Conn} {stable : Bool} (task : s.task = .receiving c stable) :
      Step cfg s (.receive m) { s with
        task := .receiving c true
        reconnectDelay := if stable then s.reconnectDelay else 1
        received := s.received ++ [(c, m)]
        queue := delivered cfg s c m }
  | disconnect {c : Conn} {stable : Bool} (task : s.task = .receiving c stable) :
      Step cfg s .disconnect { s with connected := false, ws := none, task := .closing }
  | closed (task : s.task = .closing) : Step cfg s .closed { s with task := .sleeping }
  | reconnect (task : s.task = .sleeping) :
      Step cfg s .reconnect
        { s with task := .connecting, reconnectDelay := min (s.reconnectDelay * 2) 30 }
  | get {q : QueueId} {m : Arrival Msg} {rest : List (Arrival Msg)}
      (items : (s.queue q).items = m :: rest) :
      Step cfg s (.get q) { s with
        queue := Function.update s.queue q
          { s.queue q with items := rest, taken := (s.queue q).taken ++ [m] } }
  | die {c : Conn} : Step cfg s (.die c) { s with dead := insert c s.dead }

variable {cfg : Config Topic Payload Msg} {s s' : State Topic Payload Msg}

omit [DecidableEq Topic] in
theorem notHeld_of_held {q : QueueId} (h : held s q = false) : NotHeld s q := by
  intro id call topic running holds
  have member : call ∈ s.calls.values := (s.calls.mem_values_iff call).mpr ⟨id, running⟩
  have free := List.any_eq_false.mp h call member
  simp [holds] at free

omit [DecidableEq Topic] in
theorem startable_of_match {id : CallId}
    (h : (match s.calls.get? id with
      | none | some (.returned ..) => true
      | _ => false) = true) : Startable s id := by
  split at h
  · exact Or.inl ‹_›
  · exact Or.inr ⟨_, _, ‹_›⟩
  · cases h

theorem subscribe_step {id : CallId} {topic : Topic} (h : subscribe s id topic = some s') :
    Step cfg s (.subscribe id topic) s' := by
  unfold subscribe at h
  split at h
  · cases h
  · rename_i fresh
    cases known : s.queues.get? topic with
    | none =>
      simp only [queuesOf, Dict.getD, known, Option.isNone_none, Option.getD_none, if_true,
        List.nil_append, Option.some.injEq] at h
      subst h
      exact .subscribeNew fresh known
    | some qs =>
      simp only [queuesOf, Dict.getD, known, Option.isNone_some, Option.getD_some,
        Bool.false_eq_true, if_false, Option.some.injEq] at h
      subst h
      exact .subscribeJoin fresh known

theorem resume_step {id : CallId} {ok : Bool} (h : resume cfg s id ok = some s') :
    Step cfg s (.resume id ok) s' := by
  unfold resume at h
  split at h
  · rename_i topic q call
    split at h
    · rename_i known
      cases h
      exact .resumeKnown call known
    · rename_i new
      obtain ⟨⟨mid, pending⟩, sends, rfl⟩ := Option.map_eq_some_iff.mp h
      have send := sendPayloads_outcome sends
      have calls : mid.calls = s.calls := send.calls
      dsimp only
      rw [calls]
      exact .resumeSend call new send
  · cases h

theorem sent_step {id : CallId} {ok : Bool} (h : sent s id ok = some s') :
    Step cfg s (.sent id ok) s' := by
  unfold sent at h
  split at h
  · rename_i topic q c rest call
    obtain ⟨⟨mid, pending⟩, sends, rfl⟩ := Option.map_eq_some_iff.mp h
    have send := sendPayloads_outcome sends
    dsimp only
    rw [send.calls]
    exact .sentSubscribe call send
  · rename_i topic q c rest call
    obtain ⟨⟨mid, pending⟩, sends, rfl⟩ := Option.map_eq_some_iff.mp h
    have send := sendPayloads_outcome sends
    dsimp only
    rw [send.calls]
    exact .sentUnsubscribe call send
  · cases h

theorem unsubscribe_step {id : CallId} {topic : Topic} {q : QueueId} {ok : Bool}
    (h : unsubscribe cfg s id topic q ok = some s') :
    Step cfg s (.unsubscribe id topic q ok) s' := by
  unfold unsubscribe at h
  extract_lets startable qs connected dropped at h
  split at h
  · cases h
  · rename_i permitted
    simp only [Bool.or_eq_true, Bool.not_eq_true', not_or, Bool.not_eq_true,
      Bool.not_eq_false] at permitted
    have canStart := startable_of_match permitted.1
    have notHeld := notHeld_of_held permitted.2
    split at h
    · rename_i others
      cases h
      exact .unsubscribeKeep canStart notHeld others
    · rename_i last
      have last : qs = [] := not_not.mp last
      split at h
      · rename_i set
        obtain ⟨⟨mid, pending⟩, sends, rfl⟩ := Option.map_eq_some_iff.mp h
        have send := sendPayloads_outcome sends
        have calls : mid.calls = s.calls := send.calls
        dsimp only
        rw [calls]
        exact .unsubscribeSend canStart notHeld last set send
      · rename_i clear
        cases h
        exact .unsubscribeQuiet canStart notHeld last (by simpa using clear)

theorem cancel_step {id : CallId} (h : cancel s id = some s') : Step cfg s (.cancel id) s' := by
  unfold cancel at h
  split at h
  · cases h
    exact .cancelSubscribe ‹_› rfl
  · cases h
    exact .cancelSubscribe ‹_› rfl
  · cases h
    exact .cancelSubscribe ‹_› rfl
  · cases h
    exact .cancelUnsubscribe ‹_›
  · cases h

theorem connect_step {ok : Bool} (h : connect cfg s ok = some s') : Step cfg s (.connect ok) s' := by
  unfold connect at h
  split at h
  · rename_i task
    obtain ⟨⟨mid, pending⟩, sends, rfl⟩ := Option.map_eq_some_iff.mp h
    exact .connect task (sendPayloads_outcome sends)
  · cases h

theorem resubscribed_step {ok : Bool} (h : resubscribed s ok = some s') :
    Step cfg s (.resubscribed ok) s' := by
  unfold resubscribed at h
  split at h
  · rename_i task
    obtain ⟨⟨mid, pending⟩, sends, rfl⟩ := Option.map_eq_some_iff.mp h
    exact .resubscribed task (sendPayloads_outcome sends)
  · cases h

theorem receive_step {m : Msg} (h : receive cfg s m = some s') : Step cfg s (.receive m) s' := by
  unfold receive at h
  split at h
  · rename_i c stable task
    have shape : s' = { s with
        task := .receiving c true
        reconnectDelay := if stable then s.reconnectDelay else 1
        received := s.received ++ [(c, m)]
        queue := delivered cfg s c m } := by
      simp only [delivered]
      cases route : cfg.route m with
      | none =>
        simp only [route, Option.some.injEq] at h
        exact h.symm
      | some topic =>
        simp only [route, Option.some.injEq] at h
        exact h.symm
    rw [shape]
    exact .receive task
  · cases h

/-- Every step the model takes is one of the listed branches. -/
theorem step_cases {ev : Event Topic Msg} (h : step cfg s ev = some s') : Step cfg s ev s' := by
  cases ev with
  | subscribe id topic => exact subscribe_step h
  | wake id =>
    simp only [step, wake] at h
    split at h
    · split at h
      · cases h
        exact .wake ‹_› ‹_›
      · cases h
    · cases h
  | timeout id =>
    simp only [step, timeout] at h
    split at h
    · cases h
      exact .timeout ‹_›
    · cases h
  | resume id ok => exact resume_step h
  | sent id ok => exact sent_step h
  | unsubscribe id topic q ok => exact unsubscribe_step h
  | cancel id => exact cancel_step h
  | connect ok => exact connect_step h
  | connectFailed =>
    simp only [step, connectFailed] at h
    split at h
    · cases h
      exact .connectFailed ‹_›
    · cases h
  | resubscribed ok => exact resubscribed_step h
  | receive m => exact receive_step h
  | disconnect =>
    simp only [step, disconnect] at h
    split at h
    · cases h
      exact .disconnect ‹_›
    · cases h
  | closed =>
    simp only [step, closed] at h
    split at h
    · cases h
      exact .closed ‹_›
    · cases h
  | reconnect =>
    simp only [step, reconnect] at h
    split at h
    · cases h
      exact .reconnect ‹_›
    · cases h
  | get q =>
    simp only [step, get] at h
    split at h
    · cases h
    · cases h
      exact .get ‹_›
  | die c =>
    cases h
    exact .die

end ExchangeRouter.StreamHub
