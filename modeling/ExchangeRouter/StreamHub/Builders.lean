import ExchangeRouter.StreamHub.Model

/-!
# Payload builders

What the properties of a hub ask of the two builders it is given, for the topics
that its steps hand to them, and the shapes the adapters pass: one frame whose
arguments are all the topics (Binance and Bybit, and OKX for the topics whose
argument it holds), one frame for each topic (KuCoin), and one frame for each
topic that the adapter knows (Kraken and Hyperliquid).  A payload is read by the
topics it names.
-/
namespace ExchangeRouter.StreamHub
open Lib

variable {Topic Payload Msg : Type}

/-- `subscribe_payload` covers every topic it is given. -/
def Covers (names : Payload → List Topic) (cfg : Config Topic Payload Msg)
    (topics : List Topic) : Prop :=
  ∀ topic ∈ topics, ∃ p ∈ cfg.subscribePayload topics, topic ∈ names p

/-- `subscribe_payload` names no other topic. -/
def NamesGiven (names : Payload → List Topic) (cfg : Config Topic Payload Msg)
    (topics : List Topic) : Prop :=
  ∀ p ∈ cfg.subscribePayload topics, ∀ topic ∈ names p, topic ∈ topics

/-- Unsubscribing the topic takes at most one payload, and it names that topic
only. -/
def UnsubscribesAlone (names : Payload → List Topic) (cfg : Config Topic Payload Msg)
    (topic : Topic) : Prop :=
  (cfg.unsubscribePayload [topic]).length ≤ 1 ∧
    ∀ p ∈ cfg.unsubscribePayload [topic], ∀ named ∈ names p, named = topic

/-- The first payload that unsubscribes the topic names it. -/
def UnsubscribesTopic (names : Payload → List Topic) (cfg : Config Topic Payload Msg)
    (topic : Topic) : Prop :=
  ∃ p rest, cfg.unsubscribePayload [topic] = p :: rest ∧ topic ∈ names p

section Asked
variable [DecidableEq Topic]

/-- The topics that a step hands to its payload builders. -/
def builtTopics (s : State Topic Payload Msg) : Event Topic Msg → List Topic
  | .resume id _ =>
    match s.calls.get? id with
    | some (.woken topic _) => if topic ∈ s.subscribedTopics then [] else [topic]
    | _ => []
  | .unsubscribe _ topic q _ =>
    if (queuesOf s topic).filter (fun x => x ≠ q) = [] ∧ s.connected then [topic] else []
  | .connect _ => s.queues.keys
  | _ => []

/-- What is asked of the builders holds of the topics that a step hands to them. -/
def Asked (subscribes : List Topic → Prop) (unsubscribes : Topic → Prop)
    (s : State Topic Payload Msg) (ev : Event Topic Msg) : Prop :=
  match ev with
  | .unsubscribe _ _ _ _ => ∀ topic ∈ builtTopics s ev, unsubscribes topic
  | _ => builtTopics s ev ≠ [] → subscribes (builtTopics s ev)

variable {subscribes : List Topic → Prop} {unsubscribes : Topic → Prop}
  {s : State Topic Payload Msg} {id : CallId} {topic : Topic} {q : QueueId} {ok : Bool}

theorem Asked.resume
    (asked : Asked subscribes unsubscribes s (.resume id ok : Event Topic Msg))
    (call : s.calls.get? id = some (.woken topic q)) (new : topic ∉ s.subscribedTopics) :
    subscribes [topic] := by
  simp only [Asked, builtTopics, call, if_neg new] at asked
  exact asked (List.cons_ne_nil _ _)

theorem Asked.connect
    (asked : Asked subscribes unsubscribes s (.connect ok : Event Topic Msg))
    (live : s.queues.keys ≠ []) : subscribes s.queues.keys := by
  simp only [Asked, builtTopics] at asked
  exact asked live

theorem Asked.unsubscribe
    (asked : Asked subscribes unsubscribes s (.unsubscribe id topic q ok : Event Topic Msg))
    (last : (queuesOf s topic).filter (fun x => x ≠ q) = []) (connected : s.connected = true) :
    unsubscribes topic := by
  simp only [Asked, builtTopics, last, connected, and_self, if_true] at asked
  exact asked topic (List.mem_singleton.mpr rfl)

theorem Asked.of_all {ev : Event Topic Msg} (subscribed : ∀ topics, subscribes topics)
    (unsubscribed : ∀ topic, unsubscribes topic) : Asked subscribes unsubscribes s ev := by
  unfold Asked
  split
  · exact fun topic _ => unsubscribed topic
  · exact fun _ => subscribed _

/-- Builders may ask for a property of the topics. -/
theorem Asked.of_known {ev : Event Topic Msg} {known : Topic → Prop}
    (subscribed : ∀ topics, (∀ topic ∈ topics, known topic) → subscribes topics)
    (unsubscribed : ∀ topic, known topic → unsubscribes topic)
    (all : ∀ topic ∈ builtTopics s ev, known topic) : Asked subscribes unsubscribes s ev := by
  unfold Asked
  split
  · exact fun topic member => unsubscribed topic (all topic member)
  · exact fun _ => subscribed _ all

end Asked

/-- `{"op": "subscribe", "args": ts}`: one frame for all topics. -/
def joint (route : Msg → Option Topic) (queueSize : Nat) : Config Topic (List Topic) Msg where
  subscribePayload := fun topics => [topics]
  unsubscribePayload := fun topics => [topics]
  route := route
  queueSize := queueSize

/-- `[{"type": "subscribe", "topic": t} for t in topics]`: one frame a topic. -/
def each (route : Msg → Option Topic) (queueSize : Nat) : Config Topic (List Topic) Msg where
  subscribePayload := fun topics => topics.map fun topic => [topic]
  unsubscribePayload := fun topics => topics.map fun topic => [topic]
  route := route
  queueSize := queueSize

/-- One frame for each topic that has a payload. -/
def eachKnown (payloadOf : Topic → Option Payload) (route : Msg → Option Topic)
    (queueSize : Nat) : Config Topic Payload Msg where
  subscribePayload := fun topics => topics.filterMap payloadOf
  unsubscribePayload := fun topics => topics.filterMap payloadOf
  route := route
  queueSize := queueSize

variable (route : Msg → Option Topic) (queueSize : Nat)

theorem joint_covers (topics : List Topic) : Covers id (joint route queueSize) topics :=
  fun _ member => ⟨topics, by simp [joint], member⟩

theorem joint_unsubscribesAlone (topic : Topic) :
    UnsubscribesAlone id (joint route queueSize) topic :=
  ⟨by simp [joint], by simp [joint]⟩

section Known
variable {payloadOf : Topic → Option Payload} {names : Payload → List Topic}
  (own : ∀ topic p, payloadOf topic = some p → names p = [topic])
include own

theorem eachKnown_namesGiven (topics : List Topic) :
    NamesGiven names (eachKnown payloadOf route queueSize) topics := by
  intro p built topic named
  obtain ⟨given, member, found⟩ := List.mem_filterMap.mp built
  rw [own given p found, List.mem_singleton] at named
  exact named ▸ member

theorem eachKnown_unsubscribesTopic {topic : Topic} (known : (payloadOf topic).isSome) :
    UnsubscribesTopic names (eachKnown payloadOf route queueSize) topic := by
  obtain ⟨p, found⟩ := Option.isSome_iff_exists.mp known
  refine ⟨p, [], by simp [eachKnown, found], ?_⟩
  rw [own topic p found]
  exact List.mem_singleton.mpr rfl

end Known
end ExchangeRouter.StreamHub
