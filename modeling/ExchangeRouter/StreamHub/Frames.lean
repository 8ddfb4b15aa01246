import ExchangeRouter.StreamHub.Builders
import ExchangeRouter.StreamHub.Consumers

/-!
# What a hub puts on the wire

Every frame of a hub was built by the payload builder of some step from topics
the hub knew then.  A property that the builder gives its payloads holds of
every frame, sent or still to be sent.
-/
namespace ExchangeRouter.StreamHub
open Lib

variable {Topic Payload Msg : Type}

def Frame.payload : Frame Payload → Payload
  | .subscribe p | .unsubscribe p => p

/-- What a call still has to send. -/
def Call.rest : Call Topic Payload → List Payload
  | .sending _ _ _ rest | .unsubscribing _ _ _ rest => rest
  | _ => []

/-- The topic a consumer names in a step. -/
def Event.named : Event Topic Msg → Option Topic
  | .subscribe _ topic | .unsubscribe _ topic _ _ => some topic
  | _ => none

/-- From topics it knows a builder makes good payloads. -/
def Builds (known : Topic → Prop) (good : Payload → Prop) (cfg : Config Topic Payload Msg) : Prop :=
  ∀ topics, (∀ topic ∈ topics, known topic) →
    (∀ p ∈ cfg.subscribePayload topics, good p) ∧ ∀ p ∈ cfg.unsubscribePayload topics, good p

structure Framed (known : Topic → Prop) (good : Payload → Prop) (s : State Topic Payload Msg) :
    Prop where
  wire : ∀ e ∈ s.wire, good e.2.payload
  keys : ∀ topic ∈ s.queues.keys, known topic
  calls : ∀ id call, s.calls.get? id = some call → known call.topic ∧ ∀ p ∈ call.rest, good p
  resubscribing : ∀ c rest, s.task = .resubscribing c rest → ∀ p ∈ rest, good p

theorem Framed.mono {known known' : Topic → Prop} {good good' : Payload → Prop}
    {s : State Topic Payload Msg} (h : Framed known good s) (more : ∀ topic, known topic → known' topic)
    (better : ∀ p, good p → good' p) : Framed known' good' s where
  wire := fun e member => better _ (h.wire e member)
  keys := fun topic member => more topic (h.keys topic member)
  calls := fun id call running =>
    ⟨more _ (h.calls id call running).1, fun p left => better p ((h.calls id call running).2 p left)⟩
  resubscribing := fun c rest task p left => better p (h.resubscribing c rest task p left)

theorem Framed.initial (known : Topic → Prop) (good : Payload → Prop) :
    Framed known good (State.initial : State Topic Payload Msg) where
  wire := fun _ member => by cases member
  keys := fun _ member => by cases member
  calls := fun _ _ running => by simp [State.initial] at running
  resubscribing := fun _ _ task => by cases task

/-- The frames and the payloads left after a send of good payloads. -/
theorem SendOutcome.good {good : Payload → Prop} {s mid : State Topic Payload Msg}
    {ws : Option Conn} {frame : Payload → Frame Payload} {payloads : List Payload} {ok : Bool}
    {pending : Option (Conn × List Payload)}
    (send : SendOutcome s ws frame payloads ok mid pending) (wire : ∀ e ∈ s.wire, good e.2.payload)
    (own : ∀ p, (frame p).payload = p) (built : ∀ p ∈ payloads, good p) :
    (∀ e ∈ mid.wire, good e.2.payload) ∧ ∀ c rest, pending = some (c, rest) → ∀ p ∈ rest, good p := by
  refine ⟨fun e member => ?_, fun c rest isPending p left => ?_⟩
  · rcases send.mem_wire member with old | ⟨c, p, -, new, rfl⟩
    · exact wire e old
    · exact (own p).symm ▸ built p new
  · subst isPending
    exact built p (send.pending_sub.2 p left)

theorem afterSubscribeSend_rest {topic : Topic} {q : QueueId}
    {pending : Option (Conn × List Payload)} {p : Payload}
    (h : p ∈ (afterSubscribeSend topic q pending).rest) :
    ∃ c rest, pending = some (c, rest) ∧ p ∈ rest := by
  cases pending with
  | none => cases h
  | some send => exact ⟨send.1, send.2, rfl, h⟩

theorem afterUnsubscribeSend_rest {topic : Topic} {q : QueueId}
    {pending : Option (Conn × List Payload)} {p : Payload}
    (h : p ∈ (afterUnsubscribeSend topic q pending).rest) :
    ∃ c rest, pending = some (c, rest) ∧ p ∈ rest := by
  cases pending with
  | none => cases h
  | some send => exact ⟨send.1, send.2, rfl, h⟩

@[simp] theorem afterSubscribeSend_topic (topic : Topic) (q : QueueId)
    (pending : Option (Conn × List Payload)) :
    (afterSubscribeSend topic q pending).topic = topic := by
  cases pending <;> rfl

@[simp] theorem afterUnsubscribeSend_topic (topic : Topic) (q : QueueId)
    (pending : Option (Conn × List Payload)) :
    (afterUnsubscribeSend topic q pending).topic = topic := by
  cases pending <;> rfl

/-- A step that moves one call of a known topic. -/
theorem Framed.set {known : Topic → Prop} {good : Payload → Prop} {s s' : State Topic Payload Msg}
    (h : Framed known good s) {id : CallId} {moved : Call Topic Payload}
    (calls : s'.calls = s.calls.set id moved) (wire : ∀ e ∈ s'.wire, good e.2.payload)
    (keys : ∀ topic ∈ s'.queues.keys, known topic)
    (task : ∀ c rest, s'.task = .resubscribing c rest → s.task = .resubscribing c rest)
    (own : known moved.topic ∧ ∀ p ∈ moved.rest, good p) : Framed known good s' where
  wire := wire
  keys := keys
  calls := fun id' call running => by
    rw [calls, Dict.get?_set] at running
    split at running
    · cases running
      exact own
    · exact h.calls id' call running
  resubscribing := fun c rest resub => h.resubscribing c rest (task c rest resub)

/-- `_run` goes on after a resubscription send. -/
theorem Framed.afterResubscribe {known : Topic → Prop} {good : Payload → Prop}
    {mid : State Topic Payload Msg} {pending : Option (Conn × List Payload)} {c : Conn}
    (sends : (∀ e ∈ mid.wire, good e.2.payload) ∧
      ∀ c rest, pending = some (c, rest) → ∀ p ∈ rest, good p)
    (keys : ∀ topic ∈ mid.queues.keys, known topic)
    (calls : ∀ id call, mid.calls.get? id = some call →
      known call.topic ∧ ∀ p ∈ call.rest, good p) :
    Framed known good (StreamHub.afterResubscribe c mid pending) := by
  cases pending with
  | none => exact ⟨sends.1, keys, calls, fun _ _ resub => by cases resub⟩
  | some later =>
    refine ⟨sends.1, keys, calls, fun c' rest resub => ?_⟩
    cases resub
    exact sends.2 _ _ rfl

variable [DecidableEq Topic]

theorem Framed.keys_set {known : Topic → Prop} {good : Payload → Prop}
    {s : State Topic Payload Msg} (h : Framed known good s) {topic : Topic}
    (isKnown : known topic) (qs : List QueueId) : ∀ t ∈ (s.queues.set topic qs).keys, known t := by
  intro t member
  rcases (Dict.mem_keys_set _ _ _ _).mp member with rfl | old
  · exact isKnown
  · exact h.keys t old

theorem Framed.step {known : Topic → Prop} {good : Payload → Prop}
    {cfg : Config Topic Payload Msg} {s s' : State Topic Payload Msg} {ev : Event Topic Msg}
    (h : Framed known good s) (builds : Builds known good cfg)
    (named : ∀ topic, ev.named = some topic → known topic) (step : Step cfg s ev s') :
    Framed known good s' := by
  have one : ∀ topic, known topic → ∀ t ∈ [topic], known t := fun topic isKnown t member =>
    List.mem_singleton.mp member ▸ isKnown
  cases step with
  | @subscribeNew id topic fresh new =>
    have isKnown : known topic := named topic rfl
    exact h.set rfl h.wire (h.keys_set isKnown _) (fun _ _ => started_resubscribing.mp)
      ⟨isKnown, by simp [Call.rest]⟩
  | @subscribeJoin id topic qs fresh found =>
    have isKnown : known topic := named topic rfl
    exact h.set rfl h.wire (h.keys_set isKnown _) (fun _ _ => started_resubscribing.mp)
      ⟨isKnown, by simp [Call.rest]⟩
  | wake call | timeout call | resumeKnown call =>
    exact h.set rfl h.wire h.keys (fun _ _ resub => resub) ⟨(h.calls _ _ call).1, by simp [Call.rest]⟩
  | @resumeSend id ok topic q mid pending call new send =>
    have isKnown : known topic := (h.calls _ _ call).1
    have sends := send.good h.wire (fun _ => rfl) (builds [topic] (one topic isKnown)).1
    refine h.set rfl sends.1 (fun t member => h.keys t ?_) (fun c rest resub => ?_)
      ⟨by simpa using isKnown, fun p left => ?_⟩
    · exact (congrArg Dict.keys send.queues) ▸ member
    · rw [← resub, send.frame]
      rfl
    · obtain ⟨c, rest, isPending, member⟩ := afterSubscribeSend_rest left
      exact sends.2 c rest isPending p member
  | @sentSubscribe id ok topic q c₀ rest₀ mid pending call send =>
    have isKnown : known topic := (h.calls _ _ call).1
    have sends := send.good h.wire (fun _ => rfl) (h.calls _ _ call).2
    refine h.set rfl sends.1 (fun t member => h.keys t ?_) (fun c rest resub => ?_)
      ⟨by simpa using isKnown, fun p left => ?_⟩
    · exact (congrArg Dict.keys send.queues) ▸ member
    · rw [← resub, send.frame]
    · obtain ⟨c, rest, isPending, member⟩ := afterSubscribeSend_rest left
      exact sends.2 c rest isPending p member
  | @sentUnsubscribe id ok topic q c₀ rest₀ mid pending call send =>
    have isKnown : known topic := (h.calls _ _ call).1
    have sends := send.good h.wire (fun _ => rfl) (h.calls _ _ call).2
    refine h.set rfl sends.1 (fun t member => h.keys t ?_) (fun c rest resub => ?_)
      ⟨by simpa using isKnown, fun p left => ?_⟩
    · exact (congrArg Dict.keys send.queues) ▸ member
    · rw [← resub, send.frame]
    · obtain ⟨c, rest, isPending, member⟩ := afterUnsubscribeSend_rest left
      exact sends.2 c rest isPending p member
  | @unsubscribeKeep id topic q ok startable notHeld others =>
    have isKnown : known topic := named topic rfl
    exact h.set rfl h.wire (h.keys_set isKnown _) (fun _ _ resub => resub)
      ⟨isKnown, by simp [Call.rest]⟩
  | @unsubscribeQuiet id topic q ok startable notHeld last disconnected =>
    exact h.set rfl h.wire (fun t member => h.keys t ((Dict.mem_keys_pop _ _ _).mp member).2)
      (fun _ _ resub => resub) ⟨named topic rfl, by simp [Call.rest]⟩
  | @unsubscribeSend id topic q ok mid pending startable notHeld last connected send =>
    have isKnown : known topic := named topic rfl
    have sends := send.good h.wire (fun _ => rfl) (builds [topic] (one topic isKnown)).2
    refine h.set rfl sends.1 (fun t member => h.keys t ?_) (fun c rest resub => ?_)
      ⟨by simpa using isKnown, fun p left => ?_⟩
    · have kept : t ∈ (s.queues.pop topic).keys := (congrArg Dict.keys send.queues) ▸ member
      exact ((Dict.mem_keys_pop _ _ _).mp kept).2
    · rw [← resub, send.frame]
      rfl
    · obtain ⟨c, rest, isPending, member⟩ := afterUnsubscribeSend_rest left
      exact sends.2 c rest isPending p member
  | @cancelSubscribe id call topic q running holds =>
    have same := Call.topic_of_holding (Call.holding_of_subscribing holds)
    exact h.set rfl h.wire h.keys (fun _ _ resub => resub)
      ⟨same ▸ (h.calls _ _ running).1, by simp [Call.rest]⟩
  | cancelUnsubscribe running =>
    exact h.set rfl h.wire h.keys (fun _ _ resub => resub)
      ⟨(h.calls _ _ running).1, by simp [Call.rest]⟩
  | @connect ok mid pending task send =>
    have queues : mid.queues = s.queues := send.queues
    have calls : mid.calls = s.calls := send.calls
    have sends := send.good h.wire (fun _ => rfl) (fun p built => by
      split at built
      · cases built
      · exact (builds s.queues.keys h.keys).1 p built)
    exact .afterResubscribe sends (queues ▸ h.keys) (calls ▸ h.calls)
  | @resubscribed ok c₀ rest₀ mid pending task send =>
    have sends := send.good h.wire (fun _ => rfl) (h.resubscribing c₀ rest₀ task)
    exact .afterResubscribe sends (send.queues ▸ h.keys) (send.calls ▸ h.calls)
  | connectFailed | receive | disconnect | closed | reconnect =>
    exact ⟨h.wire, h.keys, h.calls, fun _ _ resub => by cases resub⟩
  | get | die => exact ⟨h.wire, h.keys, h.calls, h.resubscribing⟩

/-- `subscribe` registers a queue and sends nothing yet. -/
theorem Framed.subscribe {known : Topic → Prop} {good : Payload → Prop}
    {s s' : State Topic Payload Msg} (h : Framed known good s) {id : CallId} {topic : Topic}
    (isKnown : known topic) (taken : StreamHub.subscribe s id topic = some s') :
    Framed known good s' := by
  let silent : Config Topic Payload Msg := ⟨fun _ => [], fun _ => [], fun _ => none, 0⟩
  have builds : Builds known good silent := by
    refine fun _ _ => ⟨fun _ member => ?_, fun _ member => ?_⟩ <;> cases member
  have step : Step silent s (.subscribe id topic) s' := subscribe_step taken
  refine h.step builds (fun t named => ?_) step
  cases named
  exact isKnown

end ExchangeRouter.StreamHub
