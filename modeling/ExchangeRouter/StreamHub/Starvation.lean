import ExchangeRouter.StreamHub.Builders
import ExchangeRouter.StreamHub.Wire

/-!
# No live topic is starved

While a connection is up, a topic with a queue is in `_subscribed_topics` or its
first subscriber has not run its second lock section (`known`), and a topic in
`_subscribed_topics` is served on the connection or its payload is among those
still to be sent there (`sent`).  Both survive every order of subscriptions,
removals, disconnects and reconnects, as long as no send on the connection has
raised.  A send that raises is only logged, so the statement is about
connections on which none has.
-/
namespace ExchangeRouter.StreamHub
open Lib

variable {Topic Payload Msg : Type}

/-- Calls are neither cancelled nor left at their timeout. -/
def Event.uninterrupted : Event Topic Msg → Bool
  | .cancel _ | .timeout _ => false
  | _ => true

/-- No call and no resubscription send is under way. -/
def Quiet (s : State Topic Payload Msg) : Prop :=
  (∀ call ∈ s.calls.values, call.inFlight = false) ∧ ∀ c rest, s.task ≠ .resubscribing c rest

/-- The first subscriber of a topic has yet to run its second lock section. -/
def Awaited (s : State Topic Payload Msg) (topic : Topic) : Prop :=
  ∃ id call q, s.calls.get? id = some call ∧ call.awaiting = some (topic, q)

/-- A subscribe payload that names the topic is still to be sent on `c`. -/
def Pending (names : Payload → List Topic) (s : State Topic Payload Msg) (c : Conn)
    (topic : Topic) : Prop :=
  (∃ rest, s.task = .resubscribing c rest ∧ ∃ p ∈ rest, topic ∈ names p) ∨
  ∃ id t q rest, s.calls.get? id = some (.sending t q c rest) ∧ ∃ p ∈ rest, topic ∈ names p

structure Fed (names : Payload → List Topic) (s : State Topic Payload Msg) : Prop where
  known : s.ws ≠ none → ∀ topic ∈ s.queues.keys, topic ∈ s.subscribedTopics ∨ Awaited s topic
  sent : ∀ c, s.ws = some c → c ∉ s.failed → ∀ topic ∈ s.subscribedTopics,
    Served names s.wire c topic ∨ Pending names s c topic
  single : ∀ id topic q c rest,
    s.calls.get? id = some (.unsubscribing topic q c rest) → rest = []

/-- A call that moved leaves the awaited topics of the others as they were. -/
theorem Awaited.set {s s' : State Topic Payload Msg} {topic : Topic} (h : Awaited s topic)
    {id : CallId} {moved : Call Topic Payload} (calls : s'.calls = s.calls.set id moved)
    (still : ∀ call q, s.calls.get? id = some call → call.awaiting = some (topic, q) →
      moved.awaiting = some (topic, q)) : Awaited s' topic := by
  obtain ⟨id', call, q, running, awaits⟩ := h
  by_cases same : id' = id
  · subst same
    exact ⟨id', moved, q, by simp [calls], still call q running awaits⟩
  · exact ⟨id', call, q, by rw [calls, Dict.get?_set_ne _ _ same, running], awaits⟩

/-- A pending payload stays pending when another call moves. -/
theorem Pending.set {names : Payload → List Topic} {s s' : State Topic Payload Msg} {c : Conn}
    {topic : Topic} (h : Pending names s c topic) {id : CallId} {moved : Call Topic Payload}
    (task : ∀ rest, s.task = .resubscribing c rest → s'.task = .resubscribing c rest)
    (calls : s'.calls = s.calls.set id moved)
    (other : ∀ t q rest, s.calls.get? id ≠ some (.sending t q c rest)) :
    Pending names s' c topic := by
  rcases h with ⟨rest, resubscribing, named⟩ | ⟨id', t, q, rest, running, named⟩
  · exact Or.inl ⟨rest, task rest resubscribing, named⟩
  · have differ : id' ≠ id := by
      rintro rfl
      exact other t q rest running
    exact Or.inr ⟨id', t, q, rest, by rw [calls, Dict.get?_set_ne _ _ differ, running], named⟩

theorem Fed.initial (names : Payload → List Topic) :
    Fed names (State.initial : State Topic Payload Msg) where
  known := fun up => absurd rfl up
  sent := fun _ up => by cases up
  single := fun _ _ _ _ _ running => by simp [State.initial] at running

/-- After the second lock section's send, the topic is served, pending, or the
send raised. -/
theorem sendOutcome_subscribe {names : Payload → List Topic} {s mid : State Topic Payload Msg}
    {ws : Option Conn} {payloads : List Payload} {ok : Bool}
    {pending : Option (Conn × List Payload)}
    (send : SendOutcome s ws .subscribe payloads ok mid pending) {c : Conn} (up : ws = some c)
    (sound : c ∉ mid.failed) {topic : Topic} {p : Payload} (member : p ∈ payloads)
    (named : topic ∈ names p) :
    Served names mid.wire c topic ∨ ∃ rest, pending = some (c, rest) ∧ ∃ p ∈ rest, topic ∈ names p := by
  cases send with
  | nothing idle =>
    rcases idle with down | empty
    · rw [down] at up
      cases up
    · rw [empty] at member
      cases member
  | @left c' first rest on next =>
    obtain rfl : c' = c := by simpa [on] using up
    rw [next] at member
    rcases List.mem_cons.mp member with rfl | later
    · exact Or.inl ((served_snoc names s.wire _ c' topic).mpr (Or.inl ⟨p, rfl, named⟩))
    · exact Or.inr ⟨rest, rfl, p, later, named⟩
  | @raised c' first rest on next refused dead =>
    obtain rfl : c' = c := by simpa [on] using up
    exact absurd (Finset.mem_insert_self c' s.failed) sound

/-- A subscribe send keeps every subscription and every failure. -/
theorem SendOutcome.keeps_served {names : Payload → List Topic} {s mid : State Topic Payload Msg}
    {ws : Option Conn} {payloads : List Payload} {ok : Bool}
    {pending : Option (Conn × List Payload)}
    (send : SendOutcome s ws .subscribe payloads ok mid pending) {c : Conn} {topic : Topic}
    (h : Served names s.wire c topic) : Served names mid.wire c topic := by
  cases send with
  | nothing _ => exact h
  | left _ _ => exact h.snoc_subscribe _ _
  | raised _ _ _ _ => exact h

/-- An unsubscribe send keeps the subscriptions that it does not name. -/
theorem SendOutcome.keeps_unnamed {names : Payload → List Topic} {s mid : State Topic Payload Msg}
    {ws : Option Conn} {payloads : List Payload} {ok : Bool}
    {pending : Option (Conn × List Payload)}
    (send : SendOutcome s ws .unsubscribe payloads ok mid pending) {c : Conn} {topic : Topic}
    (unnamed : ∀ p ∈ payloads, topic ∉ names p) (h : Served names s.wire c topic) :
    Served names mid.wire c topic := by
  cases send with
  | nothing _ => exact h
  | raised _ _ _ _ => exact h
  | @left c' p rest on next =>
    refine (served_snoc names s.wire _ c topic).mpr (Or.inr ⟨h, fun p' same named => ?_⟩)
    cases same
    exact unnamed p (by simp [next]) named

theorem SendOutcome.failed_mono {s mid : State Topic Payload Msg} {ws : Option Conn}
    {frame : Payload → Frame Payload} {payloads : List Payload} {ok : Bool}
    {pending : Option (Conn × List Payload)}
    (send : SendOutcome s ws frame payloads ok mid pending) {c : Conn} (sound : c ∉ mid.failed) :
    c ∉ s.failed := by
  cases send with
  | nothing _ => exact sound
  | left _ _ => exact sound
  | raised _ _ _ _ => exact fun member => sound (Finset.mem_insert_of_mem member)

theorem Startable.not_awaiting {s : State Topic Payload Msg} {id : CallId} (h : Startable s id)
    {call : Call Topic Payload} (running : s.calls.get? id = some call) :
    call.awaiting = none := by
  rcases h with none | ⟨topic, q, returned⟩
  · rw [none] at running
    cases running
  · rw [returned] at running
    cases running
    rfl

theorem Startable.not_sending {s : State Topic Payload Msg} {id : CallId} (h : Startable s id)
    (c : Conn) (t : Topic) (q : QueueId) (rest : List Payload) :
    s.calls.get? id ≠ some (.sending t q c rest) := by
  rcases h with none | ⟨topic, q', returned⟩
  · simp [none]
  · simp [returned]

variable [DecidableEq Topic]

/-- The runs of the starvation property. -/
def OrdinaryStep (names : Payload → List Topic) (s : State Topic Payload Msg)
    (label : Label Topic Payload Msg) : Prop :=
  Asked (Covers names label.1) (UnsubscribesAlone names label.1) s label.2 ∧
    label.2.uninterrupted = true

omit [DecidableEq Topic] in
/-- `known` over a step that moves one call and brings no topic: the topic a
moved subscriber stops awaiting is in `_subscribed_topics`. -/
theorem known_set {names : Payload → List Topic} {s s' : State Topic Payload Msg}
    (h : Fed names s) {id : CallId} {moved : Call Topic Payload}
    (calls : s'.calls = s.calls.set id moved) (ws : s'.ws = s.ws)
    (keys : ∀ t ∈ s'.queues.keys, t ∈ s.queues.keys ∧ (t ∈ s.subscribedTopics → t ∈ s'.subscribedTopics))
    (still : ∀ call t q, s.calls.get? id = some call → call.awaiting = some (t, q) →
      t ∈ s'.subscribedTopics ∨ moved.awaiting = some (t, q)) :
    s'.ws ≠ none → ∀ topic ∈ s'.queues.keys, topic ∈ s'.subscribedTopics ∨ Awaited s' topic := by
  intro up t member
  obtain ⟨old, kept⟩ := keys t member
  rcases h.known (ws ▸ up) t old with subscribed | ⟨id', call, q, running, awaits⟩
  · exact Or.inl (kept subscribed)
  · by_cases same : id' = id
    · subst same
      refine (still call t q running awaits).imp_right fun awaits => ?_
      exact ⟨id', moved, q, by simp [calls], awaits⟩
    · exact Or.inr ⟨id', call, q, by rw [calls, Dict.get?_set_ne _ _ same, running], awaits⟩

omit [DecidableEq Topic] in
/-- `known` over a step of a call that is known. -/
theorem known_moved {names : Payload → List Topic} {s s' : State Topic Payload Msg}
    (h : Fed names s) {id : CallId} {before moved : Call Topic Payload}
    (call : s.calls.get? id = some before) (calls : s'.calls = s.calls.set id moved)
    (ws : s'.ws = s.ws) (queues : s'.queues = s.queues)
    (subscribed : s.subscribedTopics ⊆ s'.subscribedTopics)
    (still : ∀ t q, before.awaiting = some (t, q) →
      t ∈ s'.subscribedTopics ∨ moved.awaiting = some (t, q)) :
    s'.ws ≠ none → ∀ topic ∈ s'.queues.keys, topic ∈ s'.subscribedTopics ∨ Awaited s' topic := by
  refine known_set h calls ws (fun t member => ⟨queues ▸ member, fun x => subscribed x⟩)
    fun c t q running awaits => ?_
  cases call.symm.trans running
  exact still t q awaits

omit [DecidableEq Topic] in
/-- `known` over the first section of an unsubscribe call. -/
theorem known_leaving {names : Payload → List Topic} {s s' : State Topic Payload Msg}
    (h : Fed names s) {id : CallId} {moved : Call Topic Payload} (startable : Startable s id)
    (calls : s'.calls = s.calls.set id moved) (ws : s'.ws = s.ws)
    (keys : ∀ t ∈ s'.queues.keys,
      t ∈ s.queues.keys ∧ (t ∈ s.subscribedTopics → t ∈ s'.subscribedTopics)) :
    s'.ws ≠ none → ∀ topic ∈ s'.queues.keys, topic ∈ s'.subscribedTopics ∨ Awaited s' topic := by
  refine known_set h calls ws keys fun c t q running awaits => ?_
  rw [startable.not_awaiting running] at awaits
  cases awaits

theorem Fed.known_step {names : Payload → List Topic} {cfg : Config Topic Payload Msg}
    {s s' : State Topic Payload Msg} {ev : Event Topic Msg} (h : Fed names s)
    (calm : ev.uninterrupted = true) (step : Step cfg s ev s') :
    s'.ws ≠ none → ∀ topic ∈ s'.queues.keys, topic ∈ s'.subscribedTopics ∨ Awaited s' topic := by
  cases step with
  | @subscribeNew id topic fresh new =>
    intro up t member
    by_cases same : t = topic
    · subst same
      exact Or.inr ⟨id, .waiting t s.nextQueue, s.nextQueue, by simp, rfl⟩
    · have old : t ∈ s.queues.keys := by simpa [same] using member
      refine (h.known up t old).imp_right fun awaited => awaited.set rfl fun call q running _ => ?_
      rw [fresh] at running
      cases running
  | @subscribeJoin id topic qs fresh known =>
    refine known_set h rfl rfl (fun t member => ⟨?_, fun x => x⟩) (fun call t q running _ => ?_)
    · rcases (Dict.mem_keys_set _ _ _ _).mp member with rfl | old
      · exact Dict.mem_keys_of_get? known
      · exact old
    · rw [fresh] at running
      cases running
  | wake call connected =>
    exact known_moved h call rfl rfl rfl (Finset.Subset.refl _) fun t q awaits => Or.inr awaits
  | timeout call => cases calm
  | resumeKnown call known =>
    refine known_moved h call rfl rfl rfl (Finset.Subset.refl _) fun t q awaits => ?_
    cases awaits
    exact Or.inl known
  | @resumeSend id ok topic q mid pending call new send =>
    have subscribed : mid.subscribedTopics = insert topic s.subscribedTopics := send.subscribedTopics
    refine known_moved h call rfl send.ws_eq send.queues ?_ fun t q awaits => ?_
    · rw [subscribed]
      exact Finset.subset_insert _ _
    · cases awaits
      exact Or.inl (by simp [subscribed])
  | sentSubscribe call send =>
    exact known_moved h call rfl send.ws_eq send.queues send.subscribedTopics.symm.subset
      fun t q awaits => by cases awaits
  | sentUnsubscribe call send =>
    exact known_moved h call rfl send.ws_eq send.queues send.subscribedTopics.symm.subset
      fun t q awaits => by cases awaits
  | unsubscribeKeep startable notHeld others =>
    refine known_leaving h startable rfl rfl fun t member => ⟨?_, fun x => x⟩
    rcases (Dict.mem_keys_set _ _ _ _).mp member with rfl | old
    · obtain ⟨x, kept⟩ := List.exists_mem_of_ne_nil _ others
      exact mem_keys_of_mem_queuesOf (List.mem_filter.mp kept).1
    · exact old
  | unsubscribeQuiet startable notHeld last disconnected =>
    refine known_leaving h startable rfl rfl fun t member => ?_
    obtain ⟨differ, old⟩ := (Dict.mem_keys_pop _ _ _).mp member
    exact ⟨old, fun x => Finset.mem_erase.mpr ⟨differ, x⟩⟩
  | @unsubscribeSend id topic q ok mid pending startable notHeld last connected send =>
    have queues : mid.queues = s.queues.pop topic := send.queues
    have subscribed : mid.subscribedTopics = s.subscribedTopics.erase topic := send.subscribedTopics
    refine known_leaving h startable rfl send.ws_eq fun t member => ?_
    obtain ⟨differ, old⟩ := (Dict.mem_keys_pop _ _ _).mp (queues ▸ member)
    exact ⟨old, fun x => subscribed ▸ Finset.mem_erase.mpr ⟨differ, x⟩⟩
  | cancelSubscribe running holds => cases calm
  | cancelUnsubscribe running => cases calm
  | @connect ok mid pending task send =>
    intro up t member
    have queues : mid.queues = s.queues := send.queues
    have subscribed : mid.subscribedTopics = s.queues.keys.toFinset := send.subscribedTopics
    rw [afterResubscribe_queues, queues] at member
    rw [afterResubscribe_subscribedTopics, subscribed, List.mem_toFinset]
    exact Or.inl member
  | resubscribed task send => cases send <;> exact h.known
  | connectFailed task => exact fun up => absurd rfl up
  | disconnect task => exact fun up => absurd rfl up
  | receive | closed | reconnect | get | die => exact h.known

omit [DecidableEq Topic] in
/-- `sent` over a step that sends nothing and moves a call that was not sending. -/
theorem sent_set {names : Payload → List Topic} {s s' : State Topic Payload Msg}
    (h : Fed names s) {id : CallId} {moved : Call Topic Payload}
    (calls : s'.calls = s.calls.set id moved) (ws : s'.ws = s.ws) (failed : s'.failed = s.failed)
    (wire : s'.wire = s.wire) (subscribed : s'.subscribedTopics ⊆ s.subscribedTopics)
    (task : ∀ c rest, s.task = .resubscribing c rest → s'.task = .resubscribing c rest)
    (other : ∀ c t q rest, s.calls.get? id ≠ some (.sending t q c rest)) :
    ∀ c, s'.ws = some c → c ∉ s'.failed → ∀ topic ∈ s'.subscribedTopics,
      Served names s'.wire c topic ∨ Pending names s' c topic := by
  intro c up sound t member
  rw [wire]
  exact (h.sent c (ws ▸ up) (failed ▸ sound) t (subscribed member)).imp_right fun pending =>
    pending.set (task c) calls (other c)

/-- The second lock section sends the payloads of a new topic. -/
theorem Fed.sent_resume {names : Payload → List Topic} {cfg : Config Topic Payload Msg}
    {s mid : State Topic Payload Msg} {id : CallId} {topic : Topic} {q : QueueId} {ok : Bool}
    {pending : Option (Conn × List Payload)} (h : Fed names s)
    (covers : Covers names cfg [topic]) (call : s.calls.get? id = some (.woken topic q))
    (send : SendOutcome (markSubscribed s topic) s.ws .subscribe (cfg.subscribePayload [topic]) ok
      mid pending) {c : Conn} (up : mid.ws = some c) (sound : c ∉ mid.failed) {t : Topic}
    (member : t ∈ mid.subscribedTopics) :
    Served names mid.wire c t ∨
      Pending names { mid with calls := s.calls.set id (afterSubscribeSend topic q pending) } c t := by
  have subscribed : mid.subscribedTopics = insert topic s.subscribedTopics := send.subscribedTopics
  have ws : mid.ws = s.ws := send.ws_eq
  have task : mid.task = s.task := by
    rw [send.frame]
    rfl
  rcases Finset.mem_insert.mp (subscribed ▸ member) with rfl | old
  · obtain ⟨p, built, named⟩ := covers t (List.mem_singleton.mpr rfl)
    refine (sendOutcome_subscribe send (ws ▸ up) sound built named).imp_right ?_
    rintro ⟨rest, rfl, later⟩
    exact Or.inr ⟨id, t, q, rest, by simp [afterSubscribeSend], later⟩
  · refine (h.sent c (ws ▸ up) (send.failed_mono sound) t old).imp send.keeps_served fun waiting => ?_
    exact waiting.set (fun rest resub => task.trans resub) rfl (fun t q rest => by simp [call])

omit [DecidableEq Topic] in
/-- A subscriber goes on with its payloads. -/
theorem Fed.sent_subscribe {names : Payload → List Topic} {s mid : State Topic Payload Msg}
    {id : CallId} {topic : Topic} {q : QueueId} {ok : Bool} {c₀ : Conn} {rest₀ : List Payload}
    {pending : Option (Conn × List Payload)} (h : Fed names s)
    (call : s.calls.get? id = some (.sending topic q c₀ rest₀))
    (send : SendOutcome s (some c₀) .subscribe rest₀ ok mid pending) {c : Conn}
    (up : mid.ws = some c) (sound : c ∉ mid.failed) {t : Topic}
    (member : t ∈ mid.subscribedTopics) :
    Served names mid.wire c t ∨
      Pending names { mid with calls := s.calls.set id (afterSubscribeSend topic q pending) } c t := by
  have task : mid.task = s.task := by rw [send.frame]
  have old : t ∈ s.subscribedTopics := send.subscribedTopics ▸ member
  rcases h.sent c (send.ws_eq ▸ up) (send.failed_mono sound) t old with
    served | ⟨rest, resub, named⟩ | ⟨id', t', q', rest, running, p, built, named⟩
  · exact Or.inl (send.keeps_served served)
  · exact Or.inr (Or.inl ⟨rest, task.trans resub, named⟩)
  · by_cases same : id' = id
    · subst same
      rw [call] at running
      cases running
      refine (sendOutcome_subscribe send rfl sound built named).imp_right ?_
      rintro ⟨later, rfl, left⟩
      exact Or.inr ⟨id', topic, q, later, by simp [afterSubscribeSend], left⟩
    · exact Or.inr (Or.inr ⟨id', t', q', rest,
        by rw [Dict.get?_set_ne _ _ same, running], p, built, named⟩)

/-- The last consumer of a topic sends a payload that names no other. -/
theorem Fed.sent_unsubscribe {names : Payload → List Topic} {cfg : Config Topic Payload Msg}
    {s mid : State Topic Payload Msg} {id : CallId} {topic : Topic} {ok : Bool}
    {moved : Call Topic Payload} {pending : Option (Conn × List Payload)} (h : Fed names s)
    (alone : UnsubscribesAlone names cfg topic) (startable : Startable s id)
    (send : SendOutcome (dropTopic s topic) s.ws .unsubscribe (cfg.unsubscribePayload [topic]) ok
      mid pending) {c : Conn} (up : mid.ws = some c) (sound : c ∉ mid.failed) {t : Topic}
    (member : t ∈ mid.subscribedTopics) :
    Served names mid.wire c t ∨
      Pending names { mid with calls := s.calls.set id moved } c t := by
  have subscribed : mid.subscribedTopics = s.subscribedTopics.erase topic := send.subscribedTopics
  have ws : mid.ws = s.ws := send.ws_eq
  have task : mid.task = s.task := by
    rw [send.frame]
    rfl
  obtain ⟨differ, old⟩ := Finset.mem_erase.mp (subscribed ▸ member)
  have unnamed : ∀ p ∈ cfg.unsubscribePayload [topic], t ∉ names p := fun p built named =>
    differ (alone.2 p built t named)
  refine (h.sent c (ws ▸ up) (send.failed_mono sound) t old).imp
    (send.keeps_unnamed unnamed) fun waiting => ?_
  exact waiting.set (fun rest resub => task.trans resub) rfl
    (fun t q rest => startable.not_sending c t q rest)

omit [DecidableEq Topic] in
/-- `_run` hands over the first payload of its snapshot. -/
theorem sent_connect {names : Payload → List Topic} {cfg : Config Topic Payload Msg}
    {s mid : State Topic Payload Msg} {ok : Bool} {pending : Option (Conn × List Payload)}
    {topics : List Topic} {c₀ c : Conn}
    (covers : topics ≠ [] → Covers names cfg topics)
    (send : SendOutcome s (some c₀) .subscribe
      (if topics = [] then [] else cfg.subscribePayload topics) ok mid pending)
    (up : mid.ws = some c₀) (current : (afterResubscribe c₀ mid pending).ws = some c)
    (sound : c ∉ mid.failed) {t : Topic} (member : t ∈ topics) :
    Served names mid.wire c t ∨ Pending names (afterResubscribe c₀ mid pending) c t := by
  have live := List.ne_nil_of_mem member
  rw [afterResubscribe_ws, up] at current
  obtain rfl : c₀ = c := Option.some.inj current
  obtain ⟨p, built, named⟩ := covers live t member
  rw [if_neg live] at send
  refine (sendOutcome_subscribe send rfl sound built named).imp_right ?_
  rintro ⟨rest, rfl, later⟩
  exact Or.inl ⟨rest, rfl, later⟩

omit [DecidableEq Topic] in
/-- `_run` goes on with its snapshot. -/
theorem Fed.sent_resubscribed {names : Payload → List Topic} {s mid : State Topic Payload Msg}
    {ok : Bool} {c : Conn} {rest₀ : List Payload} {pending : Option (Conn × List Payload)}
    (h : Fed names s) (up : s.ws = some c) (task : s.task = .resubscribing c rest₀)
    (send : SendOutcome s (some c) .subscribe rest₀ ok mid pending) (sound : c ∉ mid.failed)
    {t : Topic} (member : t ∈ s.subscribedTopics) :
    Served names mid.wire c t ∨ Pending names (afterResubscribe c mid pending) c t := by
  rcases h.sent c up (send.failed_mono sound) t member with
    served | ⟨rest, resub, p, built, named⟩ | ⟨id, t', q, rest, running, named⟩
  · exact Or.inl (send.keeps_served served)
  · rw [task] at resub
    cases resub
    refine (sendOutcome_subscribe send rfl sound built named).imp_right ?_
    rintro ⟨later, rfl, left⟩
    exact Or.inl ⟨later, rfl, left⟩
  · exact Or.inr (Or.inr ⟨id, t', q, rest,
      by rw [afterResubscribe_calls, send.calls, running], named⟩)

theorem Fed.sent_step {names : Payload → List Topic} {cfg : Config Topic Payload Msg}
    {s s' : State Topic Payload Msg} {ev : Event Topic Msg} (h : Fed names s) (wiring : Wiring s)
    (asked : Asked (Covers names cfg) (UnsubscribesAlone names cfg) s ev)
    (calm : ev.uninterrupted = true) (step : Step cfg s ev s') :
    ∀ c, s'.ws = some c → c ∉ s'.failed → ∀ topic ∈ s'.subscribedTopics,
      Served names s'.wire c topic ∨ Pending names s' c topic := by
  cases step with
  | subscribeNew fresh | subscribeJoin fresh =>
    exact sent_set h rfl rfl rfl rfl subset_rfl (fun _ _ => started_resubscribing.mpr)
      (fun c t q rest => by simp [fresh])
  | wake call | resumeKnown call =>
    exact sent_set h rfl rfl rfl rfl subset_rfl (fun _ _ task => task)
      (fun c t q rest => by simp [call])
  | resumeSend call new send =>
    exact fun c up sound t member =>
      h.sent_resume (asked.resume call new) call send up sound member
  | sentSubscribe call send =>
    exact fun c up sound t member => h.sent_subscribe call send up sound member
  | @sentUnsubscribe id ok topic q c₀ rest₀ mid pending call send =>
    obtain rfl := h.single id topic q c₀ rest₀ call
    cases send with
    | nothing _ =>
      exact sent_set h rfl rfl rfl rfl subset_rfl (fun _ _ task => task)
        (fun c t q rest => by simp [call])
    | left _ next => cases next
    | raised _ next _ _ => cases next
  | unsubscribeKeep startable notHeld others =>
    exact sent_set h rfl rfl rfl rfl subset_rfl (fun _ _ task => task)
      (fun c t q rest => startable.not_sending c t q rest)
  | unsubscribeQuiet startable notHeld last disconnected =>
    exact sent_set h rfl rfl rfl rfl (Finset.erase_subset _ _) (fun _ _ task => task)
      (fun c t q rest => startable.not_sending c t q rest)
  | unsubscribeSend startable notHeld last connected send =>
    exact fun c up sound t member =>
      h.sent_unsubscribe (asked.unsubscribe last connected) startable send up sound member
  | timeout | cancelSubscribe | cancelUnsubscribe => cases calm
  | connect task send =>
    intro c up sound t member
    rw [afterResubscribe_failed] at sound
    rw [afterResubscribe_subscribedTopics, send.subscribedTopics] at member
    rw [afterResubscribe_wire]
    exact sent_connect asked.connect send send.ws_eq up sound (List.mem_toFinset.mp member)
  | resubscribed task send =>
    intro c up sound t member
    have now := (wiring.phase.resubscribing task).1
    rw [afterResubscribe_ws, send.ws_eq, now] at up
    obtain rfl := Option.some.inj up
    rw [afterResubscribe_failed] at sound
    rw [afterResubscribe_subscribedTopics, send.subscribedTopics] at member
    rw [afterResubscribe_wire]
    exact h.sent_resubscribed now task send sound member
  | connectFailed | disconnect =>
    intro c up
    cases up
  | receive task | closed task | reconnect task =>
    intro c up sound t member
    refine (h.sent c up sound t member).imp_right (Or.imp_left ?_)
    rintro ⟨rest, resub, -⟩
    rw [task] at resub
    cases resub
  | get | die => exact h.sent

omit [DecidableEq Topic] in
theorem single_set {names : Payload → List Topic} {s s' : State Topic Payload Msg}
    (h : Fed names s) {id : CallId} {moved : Call Topic Payload}
    (calls : s'.calls = s.calls.set id moved)
    (own : ∀ t q c rest, moved = .unsubscribing t q c rest → rest = []) :
    ∀ id topic q c rest, s'.calls.get? id = some (.unsubscribing topic q c rest) → rest = [] := by
  intro id' t q c rest running
  rw [calls, Dict.get?_set] at running
  split at running
  · exact own t q c rest (Option.some.inj running)
  · exact h.single id' t q c rest running

theorem Fed.single_step {names : Payload → List Topic} {cfg : Config Topic Payload Msg}
    {s s' : State Topic Payload Msg} {ev : Event Topic Msg} (h : Fed names s)
    (asked : Asked (Covers names cfg) (UnsubscribesAlone names cfg) s ev)
    (step : Step cfg s ev s') :
    ∀ id topic q c rest, s'.calls.get? id = some (.unsubscribing topic q c rest) → rest = [] := by
  cases step with
  | resumeSend call new send =>
    refine single_set h rfl fun t q c rest same => ?_
    cases send <;> cases same
  | sentSubscribe call send =>
    refine single_set h rfl fun t q c rest same => ?_
    cases send <;> cases same
  | @sentUnsubscribe id ok topic q c rest mid pending call send =>
    obtain rfl := h.single id topic q c rest call
    refine single_set h rfl fun t q c rest same => ?_
    cases send with
    | nothing _ => cases same
    | left _ next => cases next
    | raised _ next _ _ => cases next
  | @unsubscribeSend id topic q ok mid pending startable notHeld last connected send =>
    refine single_set h rfl fun t q c rest same => ?_
    cases send with
    | nothing _ => cases same
    | raised _ _ _ _ => cases same
    | left _ next =>
      cases same
      have short := (asked.unsubscribe last connected).1
      rw [next] at short
      simpa using short
  | connect task send => cases send <;> exact h.single
  | resubscribed task send => cases send <;> exact h.single
  | connectFailed | receive | disconnect | closed | reconnect | get | die => exact h.single
  | subscribeNew | subscribeJoin | wake | timeout | resumeKnown | unsubscribeKeep
  | unsubscribeQuiet | cancelSubscribe | cancelUnsubscribe =>
    exact single_set h rfl fun t q c rest same => by cases same

theorem fed_reachable {names : Payload → List Topic} {s : State Topic Payload Msg}
    (run : Reachable system (OrdinaryStep names) s) : Fed names s := by
  refine run.invariant (Fed.initial names) fun s label s' before fed permitted taken => ?_
  obtain ⟨asked, calm⟩ := permitted
  have step := step_cases taken
  exact ⟨fed.known_step calm step, fed.sent_step (wiring_reachable before) asked calm step,
    fed.single_step asked step⟩

/-- At rest, a live topic is served on the current connection unless a send on
it has raised, whatever the order in which subscribers, removals, disconnects
and reconnects ran. -/
theorem live_topic_served {names : Payload → List Topic} {s : State Topic Payload Msg}
    (run : Reachable system (OrdinaryStep names) s) (connected : s.connected = true)
    (quiet : Quiet s) :
    ∃ c, s.ws = some c ∧
      (c ∉ s.failed → ∀ topic, queuesOf s topic ≠ [] → Served names s.wire c topic) := by
  obtain ⟨c, stable, task, current⟩ := (wiring_reachable run).phase.connected_receiving connected
  refine ⟨c, current, fun sound topic live => ?_⟩
  have fed := fed_reachable run
  have resting : ∀ id call, s.calls.get? id = some call → call.inFlight = false :=
    fun id call running => quiet.1 call ((s.calls.mem_values_iff call).mpr ⟨id, running⟩)
  obtain ⟨q, member⟩ := List.exists_mem_of_ne_nil _ live
  have subscribed : topic ∈ s.subscribedTopics := by
    rcases fed.known (by simp [current]) topic (mem_keys_of_mem_queuesOf member) with
      inside | ⟨id, call, x, running, awaits⟩
    · exact inside
    · have rest := resting id call running
      rw [Call.inFlight_of_awaiting awaits] at rest
      cases rest
  rcases fed.sent c current sound topic subscribed with
    served | ⟨rest, task, -⟩ | ⟨id, t, x, rest, running, -⟩
  · exact served
  · exact absurd task (quiet.2 c rest)
  · cases resting id _ running

omit [DecidableEq Topic] in
theorem Served.exists_frame {names : Payload → List Topic} {wire : List (Conn × Frame Payload)}
    {c : Conn} {topic : Topic} (h : Served names wire c topic) :
    ∃ p, (c, Frame.subscribe p) ∈ wire ∧ topic ∈ names p := by
  obtain ⟨before, p, after, rfl, named, -⟩ := h
  exact ⟨p, by simp, named⟩

theorem ordinary_joint {label : Label Nat (List Nat) Nat} {events : List (Event Nat Nat)}
    (member : label ∈ events.map (joint some 1024, ·)) (calm : label.2.uninterrupted = true)
    (s : State Nat (List Nat) Nat) : OrdinaryStep id s label := by
  obtain ⟨ev, -, rfl⟩ := List.mem_map.mp member
  exact ⟨.of_all (joint_covers _ _) (joint_unsubscribesAlone _ _), calm⟩

/-- The second topic is subscribed by its subscriber, then by a reconnect. -/
def reconnectRun : List (Label Nat (List Nat) Nat) :=
  [.subscribe 0 7, .connect true, .resubscribed true, .wake 0, .resume 0 true,
    .subscribe 1 8, .wake 1, .resume 1 true, .sent 1 true, .disconnect, .closed, .reconnect,
    .connect true, .resubscribed true].map (joint some 1024, ·)

theorem reconnectRun_ends : system.endsIn (fun _ label => label.2.uninterrupted) reconnectRun
    (fun s => s.connected && s.ws = some 1 && s.task = .receiving 1 false && 1 ∉ s.failed &&
      queuesOf s 8 = [1] && s.calls.values.all fun call => !call.inFlight) = true := by decide

theorem live_topic_served_reconnect : ∃ s : State Nat (List Nat) Nat,
    Reachable system (OrdinaryStep id) s ∧ s.ws = some 1 ∧ Served id s.wire 1 8 := by
  obtain ⟨s, run, ends⟩ := System.exists_reachable
    (fun s label member calm => ordinary_joint member calm s) reconnectRun_ends
  simp only [Bool.and_eq_true, decide_eq_true_eq, List.all_eq_true, Bool.not_eq_true'] at ends
  obtain ⟨⟨⟨⟨⟨connected, current⟩, task⟩, sound⟩, live⟩, resting⟩ := ends
  obtain ⟨c, up, served⟩ := live_topic_served run connected ⟨resting, by simp [task]⟩
  obtain rfl : c = 1 := by simpa [current] using up.symm
  exact ⟨s, run, current, served sound 8 (by simp [live])⟩

/-- A second subscriber arrives, the connection dies before its payload is
sent, and the receive loop has not noticed. -/
def deadSendRun : List (Label Nat (List Nat) Nat) :=
  [.subscribe 0 7, .connect true, .resubscribed true, .wake 0, .resume 0 true,
    .subscribe 1 8, .wake 1, .die 0, .resume 1 false].map (joint some 1024, ·)

theorem deadSendRun_ends : system.endsIn (fun _ label => label.2.uninterrupted) deadSendRun
    (fun s => s.connected && s.ws = some 0 && s.task = .receiving 0 false && 0 ∈ s.dead &&
      s.wire = [(0, .subscribe [7])] && queuesOf s 8 = [1] &&
      s.calls.values.all fun call => !call.inFlight) = true := by decide

/-- A send that raised on a dead connection leaves a live topic unserved there
until the receive loop notices. -/
theorem unserved_on_dead_connection :
    ∃ s : State Nat (List Nat) Nat, Reachable system (OrdinaryStep id) s ∧ s.connected = true ∧
      Quiet s ∧ ∃ c, s.ws = some c ∧ c ∈ s.dead ∧
        ∃ topic, queuesOf s topic ≠ [] ∧ ¬ Served id s.wire c topic := by
  obtain ⟨s, run, ends⟩ := System.exists_reachable
    (fun s label member calm => ordinary_joint member calm s) deadSendRun_ends
  simp only [Bool.and_eq_true, decide_eq_true_eq, List.all_eq_true, Bool.not_eq_true'] at ends
  obtain ⟨⟨⟨⟨⟨⟨connected, current⟩, task⟩, dead⟩, wire⟩, live⟩, resting⟩ := ends
  refine ⟨s, run, connected, ⟨resting, by simp [task]⟩, 0, current, dead, 8, by simp [live], ?_⟩
  intro served
  obtain ⟨p, sent, named⟩ := served.exists_frame
  simp only [wire, List.mem_singleton, Prod.mk.injEq, Frame.subscribe.injEq, true_and] at sent
  subst sent
  simp at named

end ExchangeRouter.StreamHub
