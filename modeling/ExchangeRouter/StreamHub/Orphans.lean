import ExchangeRouter.StreamHub.Starvation

/-!
# Orphan upstream subscriptions

Every topic served on the current connection is in `_subscribed_topics`, and
every topic there has a queue: the frames sent by `_run` come from the snapshot,
those sent by `subscribe` from a topic whose queue is registered, and the last
`unsubscribe` of a topic both forgets it and sends its frame.  The exception is
the window between the snapshot and `_connected.set()`: a topic of the snapshot
that loses its last queue there is forgotten, but `unsubscribe` finds
`_connected` clear and sends nothing.
-/
namespace ExchangeRouter.StreamHub
open Lib

variable {Topic Payload Msg : Type}

def Event.uncancelled : Event Topic Msg → Bool
  | .cancel _ => false
  | _ => true

/-- A topic served after a subscribe send was served before or is named by a
payload that was handed over. -/
theorem SendOutcome.served_subscribe {names : Payload → List Topic}
    {s mid : State Topic Payload Msg} {ws : Option Conn} {payloads : List Payload} {ok : Bool}
    {pending : Option (Conn × List Payload)}
    (send : SendOutcome s ws .subscribe payloads ok mid pending) {c : Conn} {t : Topic}
    (served : Served names mid.wire c t) :
    Served names s.wire c t ∨ ∃ p ∈ payloads, t ∈ names p := by
  cases send with
  | nothing _ => exact Or.inl served
  | raised _ _ _ _ => exact Or.inl served
  | @left c' p rest on next =>
    rcases (served_snoc names s.wire _ c t).mp served with ⟨p', same, named⟩ | ⟨old, -⟩
    · cases same
      exact Or.inr ⟨p, by simp [next], named⟩
    · exact Or.inl old

variable [DecidableEq Topic]

/-- Runs with builders that name the topics they are given. -/
def NamingStep (names : Payload → List Topic) (s : State Topic Payload Msg)
    (label : Label Topic Payload Msg) : Prop :=
  Asked (NamesGiven names label.1) (UnsubscribesTopic names label.1) s label.2 ∧
    label.2.uncancelled = true

/-- No topic of the snapshot loses its last queue before `_connected` is set,
and the send of an unsubscribe payload does not raise. -/
def leavesCleanly (s : State Topic Payload Msg) : Event Topic Msg → Bool
  | .unsubscribe _ topic q ok =>
    ok && (s.connected || s.ws = none || topic ∉ s.subscribedTopics ||
      (queuesOf s topic).filter (fun x => x ≠ q) ≠ [])
  | _ => true

def CleanStep (names : Payload → List Topic) (s : State Topic Payload Msg)
    (label : Label Topic Payload Msg) : Prop :=
  NamingStep names s label ∧ leavesCleanly s label.2 = true

structure Rooted (names : Payload → List Topic) (s : State Topic Payload Msg) : Prop where
  keys : ∀ t ∈ s.subscribedTopics, t ∈ s.queues.keys
  served : ∀ c, s.ws = some c → ∀ t, Served names s.wire c t → t ∈ s.subscribedTopics
  resubscribing : ∀ c rest, s.task = .resubscribing c rest →
    ∀ p ∈ rest, ∀ t ∈ names p, t ∈ s.subscribedTopics
  sending : ∀ id topic q c rest, s.calls.get? id = some (.sending topic q c rest) →
    topic ∈ s.subscribedTopics ∧ ∀ p ∈ rest, ∀ t ∈ names p, t = topic

omit [DecidableEq Topic] in
theorem Rooted.initial (names : Payload → List Topic) :
    Rooted names (State.initial : State Topic Payload Msg) where
  keys := fun _ member => by cases member
  served := fun _ up => by cases up
  resubscribing := fun _ _ task => by cases task
  sending := fun _ _ _ _ _ running => by simp [State.initial] at running

theorem Rooted.keys_step {names : Payload → List Topic} {cfg : Config Topic Payload Msg}
    {s s' : State Topic Payload Msg} {ev : Event Topic Msg} (h : Rooted names s)
    (wiring : Wiring s) (step : Step cfg s ev s') :
    ∀ t ∈ s'.subscribedTopics, t ∈ s'.queues.keys := by
  cases step with
  | subscribeNew | subscribeJoin =>
    exact fun t member => (Dict.mem_keys_set _ _ _ _).mpr (Or.inr (h.keys t member))
  | unsubscribeKeep =>
    exact fun t member => (Dict.mem_keys_set _ _ _ _).mpr (Or.inr (h.keys t member))
  | unsubscribeQuiet =>
    intro t member
    obtain ⟨differ, old⟩ := Finset.mem_erase.mp member
    exact (Dict.mem_keys_pop _ _ _).mpr ⟨differ, h.keys t old⟩
  | unsubscribeSend startable notHeld last connected send =>
    intro t member
    rw [show _ = _ from send.subscribedTopics] at member
    rw [show _ = _ from send.queues]
    obtain ⟨differ, old⟩ := Finset.mem_erase.mp member
    exact (Dict.mem_keys_pop _ _ _).mpr ⟨differ, h.keys t old⟩
  | resumeSend call new send =>
    intro t member
    rw [show _ = _ from send.subscribedTopics] at member
    rw [show _ = _ from send.queues]
    rcases Finset.mem_insert.mp member with rfl | old
    · exact wiring.topic_key call rfl
    · exact h.keys t old
  | sentSubscribe call send =>
    exact fun t member => send.queues.symm ▸ h.keys t (send.subscribedTopics ▸ member)
  | sentUnsubscribe call send =>
    exact fun t member => send.queues.symm ▸ h.keys t (send.subscribedTopics ▸ member)
  | connect task send =>
    intro t member
    rw [afterResubscribe_subscribedTopics, send.subscribedTopics] at member
    rw [afterResubscribe_queues, send.queues]
    simpa [snapshot] using member
  | resubscribed task send => cases send <;> exact h.keys
  | wake | timeout | resumeKnown | cancelSubscribe | cancelUnsubscribe | connectFailed | receive
  | disconnect | closed | reconnect | get | die => exact h.keys

/-- A clean leave behind the snapshot of a new connection is one of a topic that
the snapshot does not have. -/
theorem not_subscribed_of_leavesCleanly {s : State Topic Payload Msg} {id : CallId} {topic : Topic}
    {q : QueueId} {ok : Bool} {c : Conn}
    (clean : leavesCleanly s (.unsubscribe id topic q ok) = true)
    (last : (queuesOf s topic).filter (fun x => x ≠ q) = []) (disconnected : s.connected = false)
    (up : s.ws = some c) : topic ∉ s.subscribedTopics := by
  rw [leavesCleanly, last] at clean
  simpa [disconnected, up] using (Bool.and_eq_true_iff.mp clean).2

omit [DecidableEq Topic] in
/-- `served` over a step that adds no frame and forgets no served topic. -/
theorem served_set {names : Payload → List Topic} {s s' : State Topic Payload Msg}
    (h : Rooted names s) (ws : s'.ws = s.ws) (wire : s'.wire = s.wire)
    (subscribed : ∀ c t, s.ws = some c → t ∈ s.subscribedTopics → t ∈ s'.subscribedTopics) :
    ∀ c, s'.ws = some c → ∀ t, Served names s'.wire c t → t ∈ s'.subscribedTopics := by
  intro c up t served
  rw [wire] at served
  rw [ws] at up
  exact subscribed c t up (h.served c up t served)

omit [DecidableEq Topic] in
/-- `served` over a subscribe send whose payloads name known topics. -/
theorem served_send {names : Payload → List Topic} {s s₁ mid : State Topic Payload Msg}
    (h : Rooted names s) {ws : Option Conn} {payloads : List Payload} {ok : Bool}
    {pending : Option (Conn × List Payload)}
    (send : SendOutcome s₁ ws .subscribe payloads ok mid pending) (same : s₁.wire = s.wire)
    (subscribed : ∀ t ∈ s.subscribedTopics, t ∈ mid.subscribedTopics)
    (named : ∀ p ∈ payloads, ∀ t ∈ names p, t ∈ mid.subscribedTopics) :
    ∀ c, s.ws = some c → ∀ t, Served names mid.wire c t → t ∈ mid.subscribedTopics := by
  intro c up t served
  rcases send.served_subscribe served with old | ⟨p, built, mentioned⟩
  · exact subscribed t (h.served c up t (same ▸ old))
  · exact named p built t mentioned

theorem Rooted.served_step {names : Payload → List Topic} {cfg : Config Topic Payload Msg}
    {s s' : State Topic Payload Msg} {ev : Event Topic Msg} (h : Rooted names s)
    (wiring : Wiring s) (numbered : Numbered s)
    (asked : Asked (NamesGiven names cfg) (UnsubscribesTopic names cfg) s ev)
    (clean : leavesCleanly s ev = true)
    (step : Step cfg s ev s') :
    ∀ c, s'.ws = some c → ∀ t, Served names s'.wire c t → t ∈ s'.subscribedTopics := by
  cases step with
  | @resumeSend id ok topic q mid pending call new send =>
    have subscribed : mid.subscribedTopics = insert topic s.subscribedTopics := send.subscribedTopics
    have ws : mid.ws = s.ws := send.ws_eq
    intro c up
    refine served_send h send rfl (fun t old => by simp [subscribed, old])
      (fun p built t named => ?_) c (ws ▸ up)
    have isTopic : t = topic := by simpa using asked.resume call new p built t named
    simp [subscribed, isTopic]
  | @sentSubscribe id ok topic q c₀ rest mid pending call send =>
    obtain ⟨known, alone⟩ := h.sending id topic q c₀ rest call
    intro c up
    refine served_send h send rfl (fun t old => send.subscribedTopics.symm ▸ old)
      (fun p later t named => ?_) c (send.ws_eq ▸ up)
    rw [alone p later t named, send.subscribedTopics]
    exact known
  | sentUnsubscribe call send =>
    cases send with
    | nothing _ => exact h.served
    | raised _ _ _ _ => exact h.served
    | left on next =>
      intro c up t served
      rcases (served_snoc names s.wire _ c t).mp served with ⟨p, same, -⟩ | ⟨old, -⟩
      · cases same
      · exact h.served c up t old
  | @unsubscribeQuiet id topic q ok startable notHeld last disconnected =>
    refine served_set h rfl rfl fun c t up old => ?_
    have foreign := not_subscribed_of_leavesCleanly clean last disconnected up
    exact Finset.mem_erase.mpr ⟨fun same => foreign (same ▸ old), old⟩
  | @unsubscribeSend id topic q ok mid pending startable notHeld last connected send =>
    obtain ⟨p, later, built, named⟩ := asked.unsubscribe last connected
    obtain ⟨c₁, stable, task, current⟩ := wiring.phase.connected_receiving connected
    cases send with
    | nothing idle => simp [current, built] at idle
    | raised on next refused dead => simp [leavesCleanly, refused] at clean
    | left on next =>
      intro c up t served
      rw [built] at next
      cases next
      have here : _ = c := Option.some.inj (on.symm.trans up)
      rcases (served_snoc names s.wire _ c t).mp served with ⟨p', same, -⟩ | ⟨old, clear⟩
      · cases same
      · refine Finset.mem_erase.mpr ⟨?_, h.served c up t old⟩
        rintro rfl
        exact clear p (by rw [here]) named
  | @connect ok mid pending task send =>
    have subscribed : mid.subscribedTopics = s.queues.keys.toFinset := send.subscribedTopics
    have fresh : ∀ t, Served names mid.wire s.nextConn t → t ∈ mid.subscribedTopics := by
      intro t served
      rw [subscribed, List.mem_toFinset]
      rcases send.served_subscribe served with old | ⟨p, built, named⟩
      · obtain ⟨p, sent, -⟩ := old.exists_frame
        exact absurd (numbered.wire _ sent) (Nat.lt_irrefl _)
      · split at built
        · cases built
        · rename_i live
          exact asked.connect live p built t named
    have ws : mid.ws = some s.nextConn := send.ws_eq
    intro c up t
    rw [afterResubscribe_ws, ws] at up
    cases up
    rw [afterResubscribe_wire, afterResubscribe_subscribedTopics]
    exact fresh t
  | @resubscribed ok c₀ rest mid pending task send =>
    have now := wiring.phase.resubscribing task
    have kept := served_send h send rfl (fun t old => send.subscribedTopics.symm ▸ old)
      (fun p later t named => send.subscribedTopics.symm ▸ h.resubscribing c₀ rest task p later t named)
    intro c up
    rw [afterResubscribe_ws, send.ws_eq] at up
    rw [afterResubscribe_wire, afterResubscribe_subscribedTopics]
    exact kept c up
  | connectFailed | disconnect =>
    intro c up
    cases up
  | subscribeNew | subscribeJoin | wake | timeout | resumeKnown | unsubscribeKeep
  | cancelSubscribe | cancelUnsubscribe | receive | closed | reconnect | get | die =>
    exact h.served

omit [DecidableEq Topic] in
/-- `resubscribing` over a step of another task that forgets no topic while
`_run` resubscribes. -/
theorem resubscribing_set {names : Payload → List Topic} {s s' : State Topic Payload Msg}
    (h : Rooted names s)
    (task : ∀ c rest, s'.task = .resubscribing c rest → s.task = .resubscribing c rest)
    (subscribed : ∀ c rest, s.task = .resubscribing c rest →
      ∀ t ∈ s.subscribedTopics, t ∈ s'.subscribedTopics) :
    ∀ c rest, s'.task = .resubscribing c rest →
      ∀ p ∈ rest, ∀ t ∈ names p, t ∈ s'.subscribedTopics := by
  intro c rest resub p member t named
  have before := task c rest resub
  exact subscribed c rest before t (h.resubscribing c rest before p member t named)

omit [DecidableEq Topic] in
/-- What `_run` has still to send after a resubscription send was handed over. -/
theorem SendOutcome.resubscribing_sub {s mid : State Topic Payload Msg} {c c' : Conn}
    {payloads rest : List Payload} {ok : Bool} {pending : Option (Conn × List Payload)}
    (send : SendOutcome s (some c) .subscribe payloads ok mid pending)
    (resub : (afterResubscribe c mid pending).task = .resubscribing c' rest) :
    ∀ p ∈ rest, p ∈ payloads := by
  cases pending with
  | none => cases resub
  | some later =>
    cases resub
    exact send.pending_sub.2

theorem Rooted.resubscribing_step {names : Payload → List Topic} {cfg : Config Topic Payload Msg}
    {s s' : State Topic Payload Msg} {ev : Event Topic Msg} (h : Rooted names s)
    (wiring : Wiring s)
    (asked : Asked (NamesGiven names cfg) (UnsubscribesTopic names cfg) s ev)
    (clean : leavesCleanly s ev = true)
    (step : Step cfg s ev s') :
    ∀ c rest, s'.task = .resubscribing c rest →
      ∀ p ∈ rest, ∀ t ∈ names p, t ∈ s'.subscribedTopics := by
  cases step with
  | subscribeNew | subscribeJoin =>
    exact resubscribing_set h (fun _ _ => started_resubscribing.mp) fun _ _ _ t member => member
  | resumeSend call new send =>
    refine resubscribing_set h (fun c rest resub => ?_) fun _ _ _ t member => ?_
    · rw [← resub, send.frame]
      rfl
    · rw [show _ = _ from send.subscribedTopics]
      exact Finset.mem_insert_of_mem member
  | sentSubscribe call send =>
    refine resubscribing_set h (fun c rest resub => ?_) fun _ _ _ t member => ?_
    · rw [← resub, send.frame]
    · rwa [show _ = _ from send.subscribedTopics]
  | sentUnsubscribe call send =>
    refine resubscribing_set h (fun c rest resub => ?_) fun _ _ _ t member => ?_
    · rw [← resub, send.frame]
    · rwa [show _ = _ from send.subscribedTopics]
  | @unsubscribeQuiet id topic q ok startable notHeld last disconnected =>
    refine resubscribing_set h (fun _ _ resub => resub) fun c rest resub t member => ?_
    have foreign := not_subscribed_of_leavesCleanly clean last disconnected
      (wiring.phase.resubscribing resub).1
    exact Finset.mem_erase.mpr ⟨fun same => foreign (same ▸ member), member⟩
  | unsubscribeSend startable notHeld last connected send =>
    refine resubscribing_set h (fun c rest resub => ?_) fun c rest resub => ?_
    · rw [← resub, send.frame]
      rfl
    · rw [(wiring.phase.resubscribing resub).2] at connected
      cases connected
  | connect task send =>
    intro c rest resub p later t named
    have built := send.resubscribing_sub resub p later
    rw [afterResubscribe_subscribedTopics, show _ = _ from send.subscribedTopics]
    split at built
    · cases built
    · rename_i live
      exact List.mem_toFinset.mpr (asked.connect live p built t named)
  | resubscribed task send =>
    intro c rest resub p later t named
    rw [afterResubscribe_subscribedTopics, send.subscribedTopics]
    exact h.resubscribing _ _ task p (send.resubscribing_sub resub p later) t named
  | connectFailed | receive | disconnect | closed | reconnect =>
    intro c rest resub
    cases resub
  | wake | timeout | resumeKnown | unsubscribeKeep | cancelSubscribe | cancelUnsubscribe | get
  | die => exact h.resubscribing

omit [DecidableEq Topic] in
/-- `sending` over a step that moves one call. -/
theorem sending_set {names : Payload → List Topic} {s s' : State Topic Payload Msg}
    (h : Rooted names s) {id : CallId} {moved : Call Topic Payload}
    (calls : s'.calls = s.calls.set id moved)
    (subscribed : ∀ id t q c rest, s.calls.get? id = some (.sending t q c rest) →
      t ∈ s.subscribedTopics → t ∈ s'.subscribedTopics)
    (own : ∀ t q c rest, moved = .sending t q c rest →
      t ∈ s'.subscribedTopics ∧ ∀ p ∈ rest, ∀ x ∈ names p, x = t) :
    ∀ id t q c rest, s'.calls.get? id = some (.sending t q c rest) →
      t ∈ s'.subscribedTopics ∧ ∀ p ∈ rest, ∀ x ∈ names p, x = t := by
  intro id' t q c rest running
  rw [calls, Dict.get?_set] at running
  split at running
  · exact own t q c rest (Option.some.inj running)
  · obtain ⟨known, alone⟩ := h.sending id' t q c rest running
    exact ⟨subscribed id' t q c rest running known, alone⟩

omit [DecidableEq Topic] in
theorem afterSubscribeSend_eq_sending {topic t : Topic} {q x : QueueId} {c : Conn}
    {pending : Option (Conn × List Payload)} {rest : List Payload}
    (h : afterSubscribeSend topic q pending = .sending t x c rest) :
    t = topic ∧ pending = some (c, rest) := by
  cases pending with
  | none => cases h
  | some later =>
    cases h
    exact ⟨rfl, rfl⟩

theorem Rooted.sending_step {names : Payload → List Topic} {cfg : Config Topic Payload Msg}
    {s s' : State Topic Payload Msg} {ev : Event Topic Msg} (h : Rooted names s)
    (wiring : Wiring s)
    (asked : Asked (NamesGiven names cfg) (UnsubscribesTopic names cfg) s ev)
    (step : Step cfg s ev s') :
    ∀ id topic q c rest, s'.calls.get? id = some (.sending topic q c rest) →
      topic ∈ s'.subscribedTopics ∧ ∀ p ∈ rest, ∀ t ∈ names p, t = topic := by
  cases step with
  | @resumeSend id ok topic q mid pending call new send =>
    have subscribed : mid.subscribedTopics = insert topic s.subscribedTopics := send.subscribedTopics
    refine sending_set h rfl (fun _ _ _ _ _ _ known => by simp [subscribed, known])
      fun t x c rest moved => ?_
    obtain ⟨rfl, rfl⟩ := afterSubscribeSend_eq_sending moved
    refine ⟨by simp [subscribed], fun p later y named => ?_⟩
    simpa using asked.resume call new p (send.pending_sub.2 p later) y named
  | @sentSubscribe id ok topic q c₀ rest₀ mid pending call send =>
    refine sending_set h rfl (fun _ _ _ _ _ _ known => send.subscribedTopics.symm ▸ known)
      fun t x c rest moved => ?_
    obtain ⟨rfl, rfl⟩ := afterSubscribeSend_eq_sending moved
    obtain ⟨known, alone⟩ := h.sending id t q c₀ rest₀ call
    exact ⟨send.subscribedTopics.symm ▸ known, fun p later => alone p (send.pending_sub.2 p later)⟩
  | sentUnsubscribe call send =>
    refine sending_set h rfl (fun _ _ _ _ _ _ known => send.subscribedTopics.symm ▸ known)
      fun t x c rest moved => ?_
    cases send <;> cases moved
  | @unsubscribeQuiet id topic q ok startable notHeld last disconnected =>
    refine sending_set h rfl (fun id' t x c rest running known => ?_)
      fun t x c rest moved => by cases moved
    refine Finset.mem_erase.mpr ⟨?_, known⟩
    rintro rfl
    exact wiring.no_subscriber notHeld last running rfl
  | @unsubscribeSend id topic q ok mid pending startable notHeld last connected send =>
    have subscribed : mid.subscribedTopics = s.subscribedTopics.erase topic := send.subscribedTopics
    refine sending_set h rfl
      (fun id' t x c rest running known => ?_) fun t x c rest moved => ?_
    · refine subscribed ▸ Finset.mem_erase.mpr ⟨?_, known⟩
      rintro rfl
      exact wiring.no_subscriber notHeld last running rfl
    · cases send <;> cases moved
  | connect task send =>
    intro id topic q c rest running
    rw [afterResubscribe_calls, show _ = _ from send.calls] at running
    rw [afterResubscribe_subscribedTopics, show _ = _ from send.subscribedTopics]
    exact ⟨List.mem_toFinset.mpr (wiring.topic_key running rfl),
      (h.sending id topic q c rest running).2⟩
  | resubscribed task send =>
    intro id topic q c rest running
    rw [afterResubscribe_calls, send.calls] at running
    rw [afterResubscribe_subscribedTopics, send.subscribedTopics]
    exact h.sending id topic q c rest running
  | subscribeNew | subscribeJoin | wake | timeout | resumeKnown | unsubscribeKeep
  | cancelSubscribe | cancelUnsubscribe =>
    exact sending_set h rfl (fun _ _ _ _ _ _ known => known)
      fun t x c rest moved => by cases moved
  | connectFailed | receive | disconnect | closed | reconnect | get | die => exact h.sending

theorem rooted_reachable {names : Payload → List Topic} {s : State Topic Payload Msg}
    (run : Reachable system (CleanStep names) s) : Rooted names s := by
  refine run.invariant (Rooted.initial names) fun s label s' before rooted permitted taken => ?_
  obtain ⟨⟨asked, -⟩, clean⟩ := permitted
  have wiring := wiring_reachable before
  have step := step_cases taken
  exact ⟨rooted.keys_step wiring step,
    rooted.served_step wiring (numbered_reachable before) asked clean step,
    rooted.resubscribing_step wiring asked clean step, rooted.sending_step wiring asked step⟩

/-- While no topic is left between the snapshot and `_connected.set()`, every
topic whose last frame on the current connection subscribes it has a queue. -/
theorem served_topic_live {names : Payload → List Topic} {s : State Topic Payload Msg}
    (run : Reachable system (CleanStep names) s) (connected : s.connected = true) :
    ∃ c, s.ws = some c ∧ ∀ topic, Served names s.wire c topic → queuesOf s topic ≠ [] := by
  obtain ⟨c, -, -, current⟩ := (wiring_reachable run).phase.connected_receiving connected
  refine ⟨c, current, fun topic served => ?_⟩
  have rooted := rooted_reachable run
  exact (populated_reachable run).queuesOf_ne_nil
    (rooted.keys topic (rooted.served c current topic served))

/-- A builder that knows the topics 7 and 8 only. -/
def payloadOf (topic : Nat) : Option (List Nat) :=
  if topic ∈ [7, 8] then some [topic] else none

theorem naming_known {label : Label Nat (List Nat) Nat} {events : List (Event Nat Nat)}
    {s : State Nat (List Nat) Nat}
    (member : label ∈ events.map (eachKnown payloadOf some 1024, ·))
    (known : ∀ topic ∈ builtTopics s label.2, topic ∈ [7, 8])
    (calm : label.2.uncancelled = true) : NamingStep id s label := by
  obtain ⟨ev, -, rfl⟩ := List.mem_map.mp member
  have own : ∀ topic p, payloadOf topic = some p → id p = [topic] := by
    intro topic p found
    obtain ⟨-, same⟩ := Option.ite_none_right_eq_some.mp found
    exact (Option.some.inj same).symm
  refine ⟨Asked.of_known (fun topics _ => eachKnown_namesGiven some 1024 own topics)
    (fun topic known => ?_) known, calm⟩
  exact eachKnown_unsubscribesTopic some 1024 own (by rw [payloadOf, if_pos known]; rfl)

/-- One of two topics is left while the connection is up. -/
def leaveConnectedRun : List (Label Nat (List Nat) Nat) :=
  [.subscribe 0 7, .subscribe 1 8, .connect true, .resubscribed true, .resubscribed true,
    .wake 0, .wake 1, .resume 0 true, .resume 1 true, .unsubscribe 1 8 1 true,
    .sent 1 true].map (eachKnown payloadOf some 1024, ·)

theorem leaveConnectedRun_ends :
    system.endsIn (fun s label => label.2.uncancelled && leavesCleanly s label.2 &&
        (builtTopics s label.2).all (· ∈ [7, 8])) leaveConnectedRun
      (fun s => s.connected && s.ws = some 0 && s.wire = [(0, .subscribe [7]), (0, .subscribe [8]),
        (0, .unsubscribe [8])]) = true := by decide

theorem served_topic_live_leave : ∃ s : State Nat (List Nat) Nat,
    Reachable system (CleanStep id) s ∧ s.ws = some 0 ∧ s.wire.length = 3 ∧ queuesOf s 7 ≠ [] := by
  have permitted : ∀ s, ∀ label ∈ leaveConnectedRun,
      (label.2.uncancelled && leavesCleanly s label.2 &&
        (builtTopics s label.2).all (· ∈ [7, 8])) = true → CleanStep id s label := by
    intro s label member ok
    simp only [Bool.and_eq_true, List.all_eq_true, decide_eq_true_eq] at ok
    obtain ⟨⟨calm, clean⟩, known⟩ := ok
    exact ⟨naming_known member known calm, clean⟩
  obtain ⟨s, run, ends⟩ := System.exists_reachable permitted leaveConnectedRun_ends
  simp only [Bool.and_eq_true, decide_eq_true_eq] at ends
  obtain ⟨⟨connected, current⟩, wire⟩ := ends
  obtain ⟨c, up, live⟩ := served_topic_live run connected
  obtain rfl : c = 0 := by simpa [current] using up.symm
  refine ⟨s, run, current, by simp [wire], live 7 ?_⟩
  exact ⟨[], [7], [(0, .subscribe [8]), (0, .unsubscribe [8])], wire, by simp, by simp⟩

/-- The same topic is left after a reconnect, between the snapshot and
`_connected.set()`. -/
def leaveResubscribingRun : List (Label Nat (List Nat) Nat) :=
  [.subscribe 0 7, .subscribe 1 8, .connect true, .resubscribed true, .resubscribed true,
    .wake 0, .wake 1, .resume 0 true, .resume 1 true, .disconnect, .closed, .reconnect,
    .connect true, .unsubscribe 1 8 1 true, .resubscribed true,
    .resubscribed true].map (eachKnown payloadOf some 1024, ·)

theorem leaveResubscribingRun_ends :
    system.endsIn (fun s label => label.2.uncancelled &&
        (builtTopics s label.2).all (· ∈ [7, 8])) leaveResubscribingRun
      (fun s => s.connected && s.ws = some 1 && s.task = .receiving 1 false &&
        s.dead = ∅ && queuesOf s 8 = [] && s.wire = [(0, .subscribe [7]), (0, .subscribe [8]),
          (1, .subscribe [7]), (1, .subscribe [8])] &&
        s.calls.values.all fun call => !call.inFlight) = true := by decide

/-- The resubscription frame of the topic leaves after its last queue did, and
nothing unsubscribes it. -/
theorem orphan_after_resubscription :
    ∃ s : State Nat (List Nat) Nat, Reachable system (NamingStep id) s ∧ s.connected = true ∧
      Quiet s ∧ s.dead = ∅ ∧
        ∃ c, s.ws = some c ∧ ∃ topic, Served id s.wire c topic ∧ queuesOf s topic = [] := by
  have permitted : ∀ s, ∀ label ∈ leaveResubscribingRun,
      (label.2.uncancelled && (builtTopics s label.2).all (· ∈ [7, 8])) = true →
        NamingStep id s label := by
    intro s label member ok
    simp only [Bool.and_eq_true, List.all_eq_true, decide_eq_true_eq] at ok
    exact naming_known member ok.2 ok.1
  obtain ⟨s, run, ends⟩ := System.exists_reachable permitted leaveResubscribingRun_ends
  simp only [Bool.and_eq_true, decide_eq_true_eq, List.all_eq_true, Bool.not_eq_true'] at ends
  obtain ⟨⟨⟨⟨⟨⟨connected, current⟩, task⟩, sound⟩, gone⟩, wire⟩, resting⟩ := ends
  refine ⟨s, run, connected, ⟨resting, by simp [task]⟩, sound, 1, current, 8, ?_, gone⟩
  exact ⟨[(0, .subscribe [7]), (0, .subscribe [8]), (1, .subscribe [7])], [8], [], wire,
    by simp, by simp⟩

end ExchangeRouter.StreamHub
