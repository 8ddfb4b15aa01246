import ExchangeRouter.StreamHub.Steps

/-!
# The wire and the calls of a hub

`Served` reads the wire: the last frame of a connection that names a topic is a
subscribe payload.  `Wiring` holds in every reachable state and ties the phase
of `_run` to `_ws` and `_connected`, and every subscriber that has not returned
to the queue it registered.
-/
namespace ExchangeRouter.StreamHub
open Lib

variable {Topic Payload Msg : Type}

/-- A subscribe payload that names the topic left on `c`, and no unsubscribe
payload that names it left on `c` after it. -/
def Served (names : Payload → List Topic) (wire : List (Conn × Frame Payload)) (c : Conn)
    (topic : Topic) : Prop :=
  ∃ before p after, wire = before ++ (c, .subscribe p) :: after ∧ topic ∈ names p ∧
    ∀ p', (c, Frame.unsubscribe p') ∈ after → topic ∉ names p'

/-- One more frame: it serves the topic, or it leaves the topic served. -/
theorem served_snoc (names : Payload → List Topic) (wire : List (Conn × Frame Payload))
    (e : Conn × Frame Payload) (c : Conn) (topic : Topic) :
    Served names (wire ++ [e]) c topic ↔
      (∃ p, e = (c, .subscribe p) ∧ topic ∈ names p) ∨
      (Served names wire c topic ∧ ∀ p, e = (c, .unsubscribe p) → topic ∉ names p) := by
  constructor
  · rintro ⟨before, p, after, shape, named, clear⟩
    rcases List.eq_nil_or_concat after with rfl | ⟨init, last, rfl⟩
    · have parts := List.append_inj' shape rfl
      exact Or.inl ⟨p, by simpa using parts.2, named⟩
    · rw [List.concat_eq_append] at shape clear
      have regrouped : wire ++ [e] = (before ++ (c, .subscribe p) :: init) ++ [last] := by
        simpa using shape
      have parts := List.append_inj' regrouped rfl
      have same : e = last := by simpa using parts.2
      refine Or.inr ⟨⟨before, p, init, parts.1, named, fun p' member =>
        clear p' (by simp [member])⟩, fun p' isLast => clear p' ?_⟩
      simp [← same, isLast]
  · rintro (⟨p, rfl, named⟩ | ⟨⟨before, p, after, rfl, named, clear⟩, keeps⟩)
    · exact ⟨wire, p, [], rfl, named, by simp⟩
    · refine ⟨before, p, after ++ [e], by simp, named, fun p' member => ?_⟩
      rcases List.mem_append.mp member with old | new
      · exact clear p' old
      · exact keeps p' (by simpa using (List.mem_singleton.mp new).symm)

/-- A subscribe frame never ends a subscription. -/
theorem Served.snoc_subscribe {names : Payload → List Topic} {wire : List (Conn × Frame Payload)}
    {c : Conn} {topic : Topic} (h : Served names wire c topic) (c' : Conn) (p : Payload) :
    Served names (wire ++ [(c', .subscribe p)]) c topic :=
  (served_snoc names wire _ c topic).mpr (Or.inr ⟨h, fun _ same => by cases same⟩)

/-- What `_ws` and `_connected` hold in each phase of `_run`. -/
def Phase (s : State Topic Payload Msg) : Prop :=
  match s.task with
  | .receiving c _ => s.ws = some c ∧ s.connected = true
  | .resubscribing c _ => s.ws = some c ∧ s.connected = false
  | _ => s.ws = none ∧ s.connected = false

theorem Phase.connected_receiving {s : State Topic Payload Msg} (h : Phase s)
    (connected : s.connected = true) :
    ∃ c stable, s.task = .receiving c stable ∧ s.ws = some c := by
  unfold Phase at h
  split at h
  · rename_i c stable task
    exact ⟨c, stable, task, h.1⟩
  · rw [h.2] at connected
    cases connected
  · rw [h.2] at connected
    cases connected

theorem Phase.resubscribing {s : State Topic Payload Msg} (h : Phase s) {c : Conn}
    {rest : List Payload} (task : s.task = .resubscribing c rest) :
    s.ws = some c ∧ s.connected = false := by
  unfold Phase at h
  rwa [task] at h

section
variable (c : Conn) (s : State Topic Payload Msg) (pending : Option (Conn × List Payload))

@[simp] theorem afterResubscribe_queues : (afterResubscribe c s pending).queues = s.queues := by
  cases pending <;> rfl

@[simp] theorem afterResubscribe_subscribedTopics :
    (afterResubscribe c s pending).subscribedTopics = s.subscribedTopics := by
  cases pending <;> rfl

@[simp] theorem afterResubscribe_ws : (afterResubscribe c s pending).ws = s.ws := by
  cases pending <;> rfl

@[simp] theorem afterResubscribe_wire : (afterResubscribe c s pending).wire = s.wire := by
  cases pending <;> rfl

@[simp] theorem afterResubscribe_calls : (afterResubscribe c s pending).calls = s.calls := by
  cases pending <;> rfl

@[simp] theorem afterResubscribe_failed : (afterResubscribe c s pending).failed = s.failed := by
  cases pending <;> rfl

@[simp] theorem afterResubscribe_nextConn :
    (afterResubscribe c s pending).nextConn = s.nextConn := by
  cases pending <;> rfl

end

theorem phase_afterResubscribe {s : State Topic Payload Msg} {c : Conn}
    (ws : s.ws = some c) (clear : s.connected = false) (pending : Option (Conn × List Payload)) :
    Phase (afterResubscribe c s pending) := by
  cases pending with
  | none => exact ⟨ws, rfl⟩
  | some send => exact ⟨ws, clear⟩

variable [DecidableEq Topic]

structure Wiring (s : State Topic Payload Msg) : Prop where
  phase : Phase s
  registered : ∀ id call topic q, s.calls.get? id = some call →
    call.subscribing = some (topic, q) → q ∈ queuesOf s topic

theorem queuesOf_eq_nil {s : State Topic Payload Msg} {topic : Topic}
    (h : s.queues.get? topic = none) : queuesOf s topic = [] := by
  simp [queuesOf, Dict.getD, h]

theorem queuesOf_eq {s : State Topic Payload Msg} {topic : Topic} {qs : List QueueId}
    (h : s.queues.get? topic = some qs) : queuesOf s topic = qs := by
  simp [queuesOf, Dict.getD, h]

theorem queuesOf_congr {s s' : State Topic Payload Msg} (h : s'.queues = s.queues)
    (topic : Topic) : queuesOf s' topic = queuesOf s topic := by
  rw [queuesOf, queuesOf, h]

theorem mem_queuesOf_congr {s s' : State Topic Payload Msg} (h : s'.queues = s.queues)
    {topic : Topic} {q : QueueId} (member : q ∈ queuesOf s' topic) : q ∈ queuesOf s topic :=
  queuesOf_congr h topic ▸ member

theorem mem_keys_of_mem_queuesOf {s : State Topic Payload Msg} {topic : Topic} {q : QueueId}
    (h : q ∈ queuesOf s topic) : topic ∈ s.queues.keys := by
  by_contra absent
  rw [queuesOf_eq_nil ((s.queues.get?_eq_none_iff topic).mpr absent)] at h
  cases h

/-- The topic of a subscriber that has not returned has a queue. -/
theorem Wiring.topic_key {s : State Topic Payload Msg} (h : Wiring s) {id : CallId}
    {call : Call Topic Payload} {topic : Topic} {q : QueueId}
    (running : s.calls.get? id = some call) (holds : call.subscribing = some (topic, q)) :
    topic ∈ s.queues.keys :=
  mem_keys_of_mem_queuesOf (h.registered id call topic q running holds)

/-- A topic that loses its last queue has no subscriber under way. -/
theorem Wiring.no_subscriber {s : State Topic Payload Msg} (h : Wiring s) {topic : Topic}
    {q : QueueId} (notHeld : NotHeld s q)
    (last : (queuesOf s topic).filter (fun x => x ≠ q) = []) {id : CallId}
    {call : Call Topic Payload} (running : s.calls.get? id = some call) {x : QueueId} :
    call.subscribing ≠ some (topic, x) := by
  intro holds
  have member := h.registered id call topic x running holds
  have gone := List.filter_eq_nil_iff.mp last x member
  have same : x = q := by simpa using gone
  exact notHeld id call topic running (same ▸ holds)

/-- `registered` over one step: the other calls keep their queue, and the call
that moved has one. -/
theorem registered_set {s s' : State Topic Payload Msg} (h : Wiring s) {id : CallId}
    {moved : Call Topic Payload} (calls : s'.calls = s.calls.set id moved)
    (keep : ∀ id' call topic q, s.calls.get? id' = some call → id' ≠ id →
      call.subscribing = some (topic, q) → q ∈ queuesOf s topic → q ∈ queuesOf s' topic)
    (own : ∀ topic q, moved.subscribing = some (topic, q) → q ∈ queuesOf s' topic) :
    ∀ id' call topic q, s'.calls.get? id' = some call →
      call.subscribing = some (topic, q) → q ∈ queuesOf s' topic := by
  intro id' call topic q running holds
  rw [calls, Dict.get?_set] at running
  split at running
  · cases running
    exact own topic q holds
  · rename_i other
    exact keep id' call topic q running other holds (h.registered id' call topic q running holds)

omit [DecidableEq Topic] in
theorem afterSubscribeSend_subscribing {topic : Topic} {q : QueueId}
    {pending : Option (Conn × List Payload)} {x : Topic × QueueId}
    (h : (afterSubscribeSend topic q pending).subscribing = some x) : x = (topic, q) := by
  cases pending with
  | none => cases h
  | some send =>
    cases h
    rfl

omit [DecidableEq Topic] in
theorem afterUnsubscribeSend_subscribing (topic : Topic) (q : QueueId)
    (pending : Option (Conn × List Payload)) :
    (afterUnsubscribeSend topic q pending).subscribing = none := by
  cases pending <;> rfl

theorem Wiring.initial : Wiring (State.initial : State Topic Payload Msg) :=
  ⟨⟨rfl, rfl⟩, fun _ _ _ _ running _ => by simp [State.initial] at running⟩

theorem phase_step {cfg : Config Topic Payload Msg} {s s' : State Topic Payload Msg}
    {ev : Event Topic Msg} (h : Phase s) (step : Step cfg s ev s') : Phase s' := by
  cases step with
  | subscribeNew fresh new =>
    unfold Phase at h ⊢
    cases task : s.task <;> simpa [started, task] using h
  | subscribeJoin fresh known =>
    unfold Phase at h ⊢
    cases task : s.task <;> simpa [started, task] using h
  | resumeSend call new send => cases send <;> exact h
  | sentSubscribe call send => cases send <;> exact h
  | sentUnsubscribe call send => cases send <;> exact h
  | unsubscribeSend startable notHeld last connected send => cases send <;> exact h
  | connect task send =>
    have clear : s.connected = false := by
      unfold Phase at h
      rw [task] at h
      exact h.2
    exact phase_afterResubscribe send.ws_eq (send.connected.trans clear) _
  | resubscribed task send =>
    have now := h.resubscribing task
    exact phase_afterResubscribe (send.ws_eq.trans now.1) (send.connected.trans now.2) _
  | receive task =>
    unfold Phase at h ⊢
    rw [task] at h
    exact h
  | connectFailed | disconnect | closed | reconnect =>
    unfold Phase at h ⊢
    simp_all
  | wake | timeout | resumeKnown | unsubscribeKeep | unsubscribeQuiet | cancelSubscribe
  | cancelUnsubscribe | get | die => exact h

theorem registered_step {cfg : Config Topic Payload Msg} {s s' : State Topic Payload Msg}
    {ev : Event Topic Msg} (h : Wiring s) (step : Step cfg s ev s') :
    ∀ id call topic q, s'.calls.get? id = some call →
      call.subscribing = some (topic, q) → q ∈ queuesOf s' topic := by
  cases step with
  | @subscribeNew id topic fresh new =>
    refine registered_set h rfl (fun id' call t q _ _ _ member => ?_) (fun t q holds => ?_)
    · have differ : t ≠ topic := by
        rintro rfl
        rw [queuesOf_eq_nil new] at member
        cases member
      simpa [queuesOf, Dict.getD_set, differ] using member
    · cases holds
      simp [queuesOf, Dict.getD_set]
  | @subscribeJoin id topic qs fresh known =>
    refine registered_set h rfl (fun id' call t q _ _ _ member => ?_) (fun t q holds => by cases holds)
    by_cases same : t = topic
    · subst same
      rw [queuesOf_eq known] at member
      simp [queuesOf, Dict.getD_set, member]
    · simpa [queuesOf, Dict.getD_set, same] using member
  | wake call connected =>
    refine registered_set h rfl (fun _ _ _ _ _ _ _ member => member) (fun t q holds => ?_)
    exact h.registered _ _ t q call holds
  | timeout call =>
    exact registered_set h rfl (fun _ _ _ _ _ _ _ member => member) (fun t q holds => by cases holds)
  | resumeKnown call known =>
    exact registered_set h rfl (fun _ _ _ _ _ _ _ member => member) (fun t q holds => by cases holds)
  | @resumeSend id ok topic q mid pending call new send =>
    have queues : ∀ t, queuesOf mid t = queuesOf s t := queuesOf_congr send.queues
    refine registered_set h rfl (fun _ _ t _ _ _ _ member => (queues t).symm ▸ member)
      (fun t q holds => (queues t).symm ▸ ?_)
    cases afterSubscribeSend_subscribing holds
    exact h.registered _ _ _ _ call rfl
  | @sentSubscribe id ok topic q c rest mid pending call send =>
    have queues : ∀ t, queuesOf mid t = queuesOf s t := queuesOf_congr send.queues
    refine registered_set h rfl (fun _ _ t _ _ _ _ member => (queues t).symm ▸ member)
      (fun t q holds => (queues t).symm ▸ ?_)
    cases afterSubscribeSend_subscribing holds
    exact h.registered _ _ _ _ call rfl
  | @sentUnsubscribe id ok topic q c rest mid pending call send =>
    have queues : ∀ t, queuesOf mid t = queuesOf s t := queuesOf_congr send.queues
    refine registered_set h rfl (fun _ _ t _ _ _ _ member => (queues t).symm ▸ member)
      (fun t q holds => ?_)
    rw [afterUnsubscribeSend_subscribing] at holds
    cases holds
  | @unsubscribeKeep id topic q ok startable notHeld others =>
    refine registered_set h rfl (fun id' call t x running _ holds member => ?_)
      (fun t q holds => by cases holds)
    by_cases same : t = topic
    · subst same
      have differ : x ≠ q := by
        rintro rfl
        exact notHeld id' call t running holds
      simp [queuesOf, Dict.getD_set, differ] at member ⊢
      exact member
    · simpa [queuesOf, Dict.getD_set, same] using member
  | @unsubscribeQuiet id topic q ok startable notHeld last disconnected =>
    refine registered_set h rfl (fun id' call t x running _ holds member => ?_)
      (fun t q holds => by cases holds)
    have differ : t ≠ topic := by
      rintro rfl
      exact h.no_subscriber notHeld last running holds
    simpa [queuesOf, dropTopic, Dict.getD_pop, differ] using member
  | @unsubscribeSend id topic q ok mid pending startable notHeld last connected send =>
    have queues : ∀ t, t ≠ topic → queuesOf mid t = queuesOf s t := fun t differ => by
      rw [queuesOf_congr send.queues]
      simp [queuesOf, dropTopic, Dict.getD_pop, differ]
    refine registered_set h rfl (fun id' call t x running _ holds member => ?_)
      (fun t q holds => ?_)
    · have differ : t ≠ topic := by
        rintro rfl
        exact h.no_subscriber notHeld last running holds
      exact (queues t differ).symm ▸ member
    · rw [afterUnsubscribeSend_subscribing] at holds
      cases holds
  | cancelSubscribe running holds =>
    exact registered_set h rfl (fun _ _ _ _ _ _ _ member => member) (fun t q holds => by cases holds)
  | cancelUnsubscribe running =>
    exact registered_set h rfl (fun _ _ _ _ _ _ _ member => member) (fun t q holds => by cases holds)
  | connect task send =>
    cases send <;> exact h.registered
  | resubscribed task send =>
    cases send <;> exact h.registered
  | connectFailed | receive | disconnect | closed | reconnect | get | die => exact h.registered

theorem Wiring.step {cfg : Config Topic Payload Msg} {s s' : State Topic Payload Msg}
    {ev : Event Topic Msg} (h : Wiring s) (step : Step cfg s ev s') : Wiring s' :=
  ⟨phase_step h.phase step, registered_step h step⟩

/-- Connections are numbered in the order in which they are opened. -/
structure Numbered (s : State Topic Payload Msg) : Prop where
  current : ∀ c, s.ws = some c → c < s.nextConn
  wire : ∀ e ∈ s.wire, e.1 < s.nextConn
  sending : ∀ id call c, s.calls.get? id = some call → call.sendingOn = some c → c < s.nextConn

omit [DecidableEq Topic] in
theorem Numbered.initial : Numbered (State.initial : State Topic Payload Msg) where
  current := fun _ up => by cases up
  wire := fun _ member => by cases member
  sending := fun _ _ _ running _ => by simp [State.initial] at running

omit [DecidableEq Topic] in
/-- A step that opens no connection and moves one call keeps the numbering. -/
theorem Numbered.set {s s' : State Topic Payload Msg} (h : Numbered s) {id : CallId}
    {moved : Call Topic Payload} (calls : s'.calls = s.calls.set id moved)
    (nextConn : s'.nextConn = s.nextConn) (ws : s'.ws = s.ws)
    (wire : ∀ e ∈ s'.wire, e ∈ s.wire ∨ e.1 < s.nextConn)
    (own : ∀ c, moved.sendingOn = some c → c < s.nextConn) : Numbered s' where
  current := fun c up => nextConn ▸ h.current c (ws ▸ up)
  wire := fun e member => nextConn ▸ (wire e member).elim (h.wire e) (fun x => x)
  sending := fun id' call c running on => by
    rw [calls, Dict.get?_set] at running
    rw [nextConn]
    split at running
    · cases running
      exact own c on
    · exact h.sending id' call c running on

omit [DecidableEq Topic] in
/-- The wire of a send on a known connection. -/
theorem SendOutcome.numbered {s mid : State Topic Payload Msg} {ws : Option Conn}
    {frame : Payload → Frame Payload} {payloads : List Payload} {ok : Bool}
    {pending : Option (Conn × List Payload)}
    (send : SendOutcome s ws frame payloads ok mid pending) (bound : Conn)
    (known : ∀ c, ws = some c → c < bound) :
    (∀ e ∈ mid.wire, e ∈ s.wire ∨ e.1 < bound) ∧ ∀ c rest, pending = some (c, rest) → c < bound := by
  refine ⟨fun e member => (send.mem_wire member).imp_right ?_, fun c rest isPending => ?_⟩
  · rintro ⟨c, p, on, -, rfl⟩
    exact known c on
  · subst isPending
    exact known c send.pending_sub.1

omit [DecidableEq Topic] in
theorem afterSubscribeSend_sendingOn {topic : Topic} {q : QueueId}
    {pending : Option (Conn × List Payload)} {c : Conn}
    (h : (afterSubscribeSend topic q pending).sendingOn = some c) :
    ∃ rest, pending = some (c, rest) := by
  cases pending with
  | none => cases h
  | some send =>
    cases h
    exact ⟨send.2, rfl⟩

omit [DecidableEq Topic] in
theorem afterUnsubscribeSend_sendingOn {topic : Topic} {q : QueueId}
    {pending : Option (Conn × List Payload)} {c : Conn}
    (h : (afterUnsubscribeSend topic q pending).sendingOn = some c) :
    ∃ rest, pending = some (c, rest) := by
  cases pending with
  | none => cases h
  | some send =>
    cases h
    exact ⟨send.2, rfl⟩

theorem Numbered.step {cfg : Config Topic Payload Msg} {s s' : State Topic Payload Msg}
    {ev : Event Topic Msg} (h : Numbered s) (wiring : Wiring s) (step : Step cfg s ev s') :
    Numbered s' := by
  cases step with
  | subscribeNew | subscribeJoin | wake | timeout | resumeKnown | unsubscribeKeep
  | unsubscribeQuiet | cancelSubscribe | cancelUnsubscribe =>
    exact h.set rfl rfl rfl (fun _ => Or.inl) (fun c on => by cases on)
  | resumeSend call new send =>
    have numbered := send.numbered _ h.current
    refine h.set rfl (by rw [send.frame]; rfl) send.ws_eq numbered.1 (fun c on => ?_)
    obtain ⟨rest, isPending⟩ := afterSubscribeSend_sendingOn on
    exact numbered.2 c rest isPending
  | sentSubscribe call send =>
    have numbered := send.numbered s.nextConn fun c on => by
      cases on
      exact h.sending _ _ _ call rfl
    refine h.set rfl (by rw [send.frame]) send.ws_eq numbered.1 (fun c on => ?_)
    obtain ⟨rest, isPending⟩ := afterSubscribeSend_sendingOn on
    exact numbered.2 c rest isPending
  | sentUnsubscribe call send =>
    have numbered := send.numbered s.nextConn fun c on => by
      cases on
      exact h.sending _ _ _ call rfl
    refine h.set rfl (by rw [send.frame]) send.ws_eq numbered.1 (fun c on => ?_)
    obtain ⟨rest, isPending⟩ := afterUnsubscribeSend_sendingOn on
    exact numbered.2 c rest isPending
  | unsubscribeSend startable notHeld last connected send =>
    have numbered := send.numbered _ h.current
    refine h.set rfl (by rw [send.frame]; rfl) send.ws_eq numbered.1 (fun c on => ?_)
    obtain ⟨rest, isPending⟩ := afterUnsubscribeSend_sendingOn on
    exact numbered.2 c rest isPending
  | @connect ok mid pending task send =>
    have numbered := send.numbered (s.nextConn + 1) fun c on => by
      cases on
      exact Nat.lt_succ_self _
    have opened : Numbered mid := {
      current := fun c up => by
        rw [send.ws_eq] at up
        cases up
        rw [send.frame]
        exact Nat.lt_succ_self _
      wire := fun e member => by
        rw [send.frame]
        exact (numbered.1 e member).elim (fun old => Nat.lt_succ_of_lt (h.wire e old)) (fun x => x)
      sending := fun id call c running on => by
        rw [send.calls] at running
        rw [send.frame]
        exact Nat.lt_succ_of_lt (h.sending id call c running on) }
    cases pending <;> exact ⟨opened.current, opened.wire, opened.sending⟩
  | @resubscribed ok c rest mid pending task send =>
    have current := (wiring.phase.resubscribing task).1
    have numbered := send.numbered s.nextConn fun c' on => h.current c' (current.trans on)
    have nextConn : mid.nextConn = s.nextConn := by rw [send.frame]
    have resumed : Numbered mid := {
      current := fun c up => nextConn ▸ h.current c (send.ws_eq ▸ up)
      wire := fun e member => nextConn ▸ (numbered.1 e member).elim (h.wire e) (fun x => x)
      sending := fun id call c running on =>
        nextConn ▸ h.sending id call c (send.calls ▸ running) on }
    cases pending <;> exact ⟨resumed.current, resumed.wire, resumed.sending⟩
  | connectFailed | disconnect =>
    exact ⟨fun c up => (by cases up), h.wire, h.sending⟩
  | receive | closed | reconnect | get | die => exact ⟨h.current, h.wire, h.sending⟩

/-- No entry of `_queues` is empty. -/
def Populated (s : State Topic Payload Msg) : Prop :=
  ∀ topic qs, s.queues.get? topic = some qs → qs ≠ []

theorem Populated.set {s s' : State Topic Payload Msg} (h : Populated s) {topic : Topic}
    {qs : List QueueId} (queues : s'.queues = s.queues.set topic qs) (nonempty : qs ≠ []) :
    Populated s' := by
  intro t xs found
  rw [queues, Dict.get?_set] at found
  split at found
  · exact Option.some.inj found ▸ nonempty
  · exact h t xs found

theorem Populated.pop {s s' : State Topic Payload Msg} (h : Populated s) {topic : Topic}
    (queues : s'.queues = s.queues.pop topic) : Populated s' := by
  intro t xs found
  rw [queues] at found
  exact h t xs (Dict.get?_of_pop found).2

theorem Populated.congr {s s' : State Topic Payload Msg} (h : Populated s)
    (queues : s'.queues = s.queues) : Populated s' :=
  fun t xs found => h t xs (queues ▸ found)

theorem Populated.step {cfg : Config Topic Payload Msg} {s s' : State Topic Payload Msg}
    {ev : Event Topic Msg} (h : Populated s) (step : Step cfg s ev s') : Populated s' := by
  cases step with
  | subscribeNew => exact h.set rfl (by simp)
  | subscribeJoin => exact h.set rfl (by simp)
  | unsubscribeKeep startable notHeld others => exact h.set rfl others
  | unsubscribeQuiet => exact h.pop rfl
  | unsubscribeSend startable notHeld last connected send => exact h.pop send.queues
  | resumeSend call new send => exact h.congr send.queues
  | sentSubscribe call send => exact h.congr send.queues
  | sentUnsubscribe call send => exact h.congr send.queues
  | connect task send => cases send <;> exact h
  | resubscribed task send => cases send <;> exact h
  | wake | timeout | resumeKnown | cancelSubscribe | cancelUnsubscribe | connectFailed | receive
  | disconnect | closed | reconnect | get | die => exact h

theorem populated_reachable {allowed : State Topic Payload Msg → Label Topic Payload Msg → Prop}
    {s : State Topic Payload Msg} (run : Reachable system allowed s) : Populated s :=
  run.invariant (fun _ _ found => by simp [system, State.initial] at found)
    fun _ _ _ _ before _ taken => before.step (step_cases taken)

/-- A key of `_queues` has a queue. -/
theorem Populated.queuesOf_ne_nil {s : State Topic Payload Msg} (h : Populated s) {topic : Topic}
    (key : topic ∈ s.queues.keys) : queuesOf s topic ≠ [] := by
  obtain ⟨qs, found⟩ := Option.isSome_iff_exists.mp ((s.queues.get?_isSome_iff topic).mpr key)
  rw [queuesOf_eq found]
  exact h topic qs found

/-- Every run of a hub, whatever its builders and the timing, keeps the wiring. -/
theorem wiring_reachable {allowed : State Topic Payload Msg → Label Topic Payload Msg → Prop}
    {s : State Topic Payload Msg} (run : Reachable system allowed s) : Wiring s :=
  run.invariant .initial fun _ _ _ _ before _ taken => before.step (step_cases taken)

theorem nextConn_step {cfg : Config Topic Payload Msg} {s s' : State Topic Payload Msg}
    {ev : Event Topic Msg} (step : Step cfg s ev s') : s.nextConn ≤ s'.nextConn := by
  cases step with
  | connect task send =>
    rw [afterResubscribe_nextConn, send.frame]
    exact Nat.le_succ _
  | resubscribed task send =>
    rw [afterResubscribe_nextConn, send.frame]
  | resumeSend call new send => cases send <;> exact le_rfl
  | sentSubscribe call send => cases send <;> exact le_rfl
  | sentUnsubscribe call send => cases send <;> exact le_rfl
  | unsubscribeSend startable notHeld last connected send => cases send <;> exact le_rfl
  | subscribeNew | subscribeJoin | wake | timeout | resumeKnown | unsubscribeKeep
  | unsubscribeQuiet | cancelSubscribe | cancelUnsubscribe | connectFailed | receive | disconnect
  | closed | reconnect | get | die => exact le_rfl

/-- A connection is the one that was current, or the step opened it. -/
theorem ws_step {cfg : Config Topic Payload Msg} {s s' : State Topic Payload Msg}
    {ev : Event Topic Msg} (step : Step cfg s ev s') {c : Conn} (up : s'.ws = some c) :
    s.ws = some c ∨ c = s.nextConn := by
  cases step with
  | resumeSend call new send => exact Or.inl (send.ws_eq ▸ up)
  | sentSubscribe call send => exact Or.inl (send.ws_eq ▸ up)
  | sentUnsubscribe call send => exact Or.inl (send.ws_eq ▸ up)
  | unsubscribeSend startable notHeld last connected send => exact Or.inl (send.ws_eq ▸ up)
  | connect task send =>
    rw [afterResubscribe_ws, send.ws_eq] at up
    exact Or.inr (Option.some.inj up).symm
  | resubscribed task send =>
    rw [afterResubscribe_ws, send.ws_eq] at up
    exact Or.inl up
  | connectFailed | disconnect => cases up
  | subscribeNew | subscribeJoin | wake | timeout | resumeKnown | unsubscribeKeep
  | unsubscribeQuiet | cancelSubscribe | cancelUnsubscribe | receive | closed | reconnect | get
  | die => exact Or.inl up

/-- The queues of a topic only lose members, or gain the new one last. -/
theorem queuesOf_change {cfg : Config Topic Payload Msg} {s s' : State Topic Payload Msg}
    {ev : Event Topic Msg} (step : Step cfg s ev s') (topic : Topic) :
    (queuesOf s' topic).Sublist (queuesOf s topic) ∨
      (queuesOf s' topic = queuesOf s topic ++ [s.nextQueue] ∧ ∃ id, ev = .subscribe id topic) := by
  have same : s'.queues = s.queues → (queuesOf s' topic).Sublist (queuesOf s topic) :=
    fun queues => queuesOf_congr queues topic ▸ List.Sublist.refl _
  have dropped : ∀ t, s'.queues = (dropTopic s t).queues →
      (queuesOf s' topic).Sublist (queuesOf s topic) := by
    intro t queues
    rw [queuesOf_congr queues topic]
    by_cases own : topic = t
    · simp [queuesOf, dropTopic, Dict.getD_pop, own]
    · simp [queuesOf, dropTopic, Dict.getD_pop, own]
  cases step with
  | @subscribeNew id t fresh new =>
    by_cases own : topic = t
    · subst own
      exact Or.inr ⟨by simp [queuesOf, Dict.getD, new], id, rfl⟩
    · exact Or.inl (by simp [queuesOf, Dict.getD_set, own])
  | @subscribeJoin id t qs fresh known =>
    by_cases own : topic = t
    · subst own
      exact Or.inr ⟨by simp [queuesOf, Dict.getD, known], id, rfl⟩
    · exact Or.inl (by simp [queuesOf, Dict.getD_set, own])
  | @unsubscribeKeep id t x ok startable notHeld others =>
    by_cases own : topic = t
    · subst own
      exact Or.inl (by simp [queuesOf, Dict.getD_set])
    · exact Or.inl (by simp [queuesOf, Dict.getD_set, own])
  | @unsubscribeQuiet id t x ok startable notHeld last disconnected => exact Or.inl (dropped t rfl)
  | @unsubscribeSend id t x ok mid pending startable notHeld last connected send =>
    exact Or.inl (dropped t send.queues)
  | resumeSend call new send => exact Or.inl (same send.queues)
  | sentSubscribe call send => exact Or.inl (same send.queues)
  | sentUnsubscribe call send => exact Or.inl (same send.queues)
  | connect task send => exact Or.inl (same ((afterResubscribe_queues _ _ _).trans send.queues))
  | resubscribed task send => exact Or.inl (same ((afterResubscribe_queues _ _ _).trans send.queues))
  | wake | timeout | resumeKnown | cancelSubscribe | cancelUnsubscribe | connectFailed | receive
  | disconnect | closed | reconnect | get | die => exact Or.inl (same rfl)

/-- A queue of a topic was one before, or a `subscribe` step made it. -/
theorem queuesOf_step {cfg : Config Topic Payload Msg} {s s' : State Topic Payload Msg}
    {ev : Event Topic Msg} (step : Step cfg s ev s') {topic : Topic} {q : QueueId}
    (member : q ∈ queuesOf s' topic) :
    q ∈ queuesOf s topic ∨ (q = s.nextQueue ∧ ∃ id, ev = .subscribe id topic) := by
  rcases queuesOf_change step topic with fewer | ⟨more, subscribes⟩
  · exact Or.inl (fewer.subset member)
  · rw [more, List.mem_append, List.mem_singleton] at member
    exact member.imp_right fun new => ⟨new, subscribes⟩

theorem numbered_reachable {allowed : State Topic Payload Msg → Label Topic Payload Msg → Prop}
    {s : State Topic Payload Msg} (run : Reachable system allowed s) : Numbered s :=
  run.invariant .initial fun _ _ _ reached before _ taken =>
    before.step (wiring_reachable reached) (step_cases taken)

end ExchangeRouter.StreamHub
