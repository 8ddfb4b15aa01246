import Mathlib.Data.Finset.Card
import ExchangeRouter.StreamHub.Consumers

/-!
# Topic slots of the Hyperliquid adapter

`src/exchanges/hyperliquid/adapter.py`: `_acquire_topic`, `_release_topic` and
`_ws_connect`.  Topics are spread over hubs of bounded size; `_topic_refs`
counts the consumers of a topic.  No await lies between `_acquire_topic` and the
first suspension of `hub.subscribe`, nor between the end of `hub.unsubscribe`
and the end of `_release_topic`, so each pair is one step.
-/
namespace ExchangeRouter.Hyperliquid
open Lib StreamHub

/-- The place of a hub in `_hubs`. -/
abbrev HubId := Nat

def maxSubsPerHub : Nat := 900

def maxHubs : Nat := 10

structure Slot (Topic Arg Msg : Type) where
  hub : StreamHub.State Topic Arg Msg
  topics : Finset Topic

/-- The locals of a `_ws_connect` generator that has not finished. -/
structure Consumer (Topic : Type) where
  hub : HubId
  topic : Topic
  deriving DecidableEq, Repr

structure State (Topic Arg Msg : Type) where
  hubs : List (Slot Topic Arg Msg)
  topicHub : Dict Topic HubId
  topicArgs : Dict Topic Arg
  topicRefs : Dict Topic Int
  running : Dict CallId (Consumer Topic)

variable {Topic Arg Msg : Type}

def State.initial : State Topic Arg Msg := ⟨[], .empty, .empty, .empty, .empty⟩

variable [DecidableEq Topic]

/-- `_sub_payload` and `_unsub_payload`: the arguments of the known topics. -/
def subPayload (s : State Topic Arg Msg) (topics : List Topic) : List Arg :=
  topics.filterMap fun t => s.topicArgs.get? t

def hubConfig (route : Msg → Option Topic) (s : State Topic Arg Msg) :
    StreamHub.Config Topic Arg Msg where
  subscribePayload := subPayload s
  unsubscribePayload := subPayload s
  route := route
  queueSize := 1024

/-- The slot a new topic goes to: the first with room, else a new one. -/
def placeTopic (s : State Topic Arg Msg) : Option (List (Slot Topic Arg Msg) × HubId) :=
  match s.hubs.findIdx? fun slot => slot.topics.card < maxSubsPerHub with
  | some i => some (s.hubs, i)
  | none =>
    if maxHubs ≤ s.hubs.length then none
    else some (s.hubs ++ [⟨StreamHub.State.initial, ∅⟩], s.hubs.length)

/-- `_acquire_topic`; `none` is `UpstreamUnavailableError`. -/
def acquireTopic (s : State Topic Arg Msg) (topic : Topic) (arg : Arg) :
    Option (State Topic Arg Msg × HubId) :=
  let assigned : Option (State Topic Arg Msg × HubId) := match s.topicHub.get? topic with
    | some i => some (s, i)
    | none => (placeTopic s).map fun (hubs, i) =>
      ({ s with
        hubs := hubs.modify i fun slot => { slot with topics := insert topic slot.topics }
        topicHub := s.topicHub.set topic i }, i)
  assigned.map fun (s, i) =>
    ({ s with
      topicArgs := s.topicArgs.set topic arg
      topicRefs := s.topicRefs.set topic (s.topicRefs.getD topic 0 + 1) }, i)

/-- `_release_topic` after `hub.unsubscribe`. -/
def releaseTopic (s : State Topic Arg Msg) (topic : Topic) : State Topic Arg Msg :=
  let refs := s.topicRefs.getD topic 1 - 1
  if refs ≤ 0 then
    { s with
      topicRefs := s.topicRefs.pop topic
      topicArgs := s.topicArgs.pop topic
      topicHub := s.topicHub.pop topic
      hubs := match s.topicHub.get? topic with
        | some i => s.hubs.modify i fun slot => { slot with topics := slot.topics.erase topic }
        | none => s.hubs }
  else { s with topicRefs := s.topicRefs.set topic refs }

/-- Replace one hub. -/
def setHub (s : State Topic Arg Msg) (i : HubId) (hub : StreamHub.State Topic Arg Msg) :
    State Topic Arg Msg :=
  { s with hubs := s.hubs.modify i fun slot => { slot with hub := hub } }

/-- `_ws_connect` up to its first suspension. -/
def start (s : State Topic Arg Msg) (id : CallId) (topic : Topic) (arg : Arg) :
    Option (State Topic Arg Msg) :=
  match s.running.get? id with
  | some _ => none
  | none =>
    match acquireTopic s topic arg with
    | none => none
    | some (s, i) =>
      match s.hubs[i]? with
      | none => none
      | some slot => (StreamHub.subscribe slot.hub id topic).map fun hub =>
        { setHub s i hub with running := s.running.set id ⟨i, topic⟩ }

/-- Once the consumer's `hub.unsubscribe` is over, release its topic. -/
def settle (s : State Topic Arg Msg) (i : HubId) (id : CallId) (hub : StreamHub.State Topic Arg Msg) :
    State Topic Arg Msg :=
  let s := setHub s i hub
  match s.running.get? id, hub.calls.get? id with
  | some consumer, some (.finished ..) =>
    releaseTopic { s with running := s.running.pop id } consumer.topic
  | _, _ => s

/-- The `finally` of `_ws_connect`, up to its first suspension or its end. -/
def finish (route : Msg → Option Topic) (s : State Topic Arg Msg) (id : CallId) (ok : Bool) :
    Option (State Topic Arg Msg) :=
  match s.running.get? id with
  | none => none
  | some consumer =>
    match s.hubs[consumer.hub]? with
    | none => none
    | some slot =>
      match slot.hub.calls.get? id with
      | some (.returned _ q) =>
        (StreamHub.unsubscribe (hubConfig route s) slot.hub id consumer.topic q ok).map fun hub =>
          settle s consumer.hub id hub
      | _ => none

/-- A cancellation inside `hub.subscribe` or inside the `finally`: nothing
catches it.  Cancelled while it reads, a consumer goes to its `finally`. -/
def cancel (s : State Topic Arg Msg) (id : CallId) : Option (State Topic Arg Msg) :=
  match s.running.get? id with
  | none => none
  | some consumer =>
    match s.hubs[consumer.hub]? with
    | none => none
    | some slot => (StreamHub.cancel slot.hub id).map fun hub =>
      { setHub s consumer.hub hub with running := s.running.pop id }

/-- Steps that `_ws_connect` takes on behalf of a consumer. -/
def byConsumer : StreamHub.Event Topic Msg → Bool
  | .subscribe .. | .unsubscribe .. | .cancel .. => true
  | _ => false

/-- Any other step of a hub; the return of an awaited send may end a `finally`. -/
def hubStep (route : Msg → Option Topic) (s : State Topic Arg Msg) (i : HubId)
    (ev : StreamHub.Event Topic Msg) : Option (State Topic Arg Msg) :=
  match s.hubs[i]? with
  | none => none
  | some slot =>
    if byConsumer ev then none
    else (StreamHub.step (hubConfig route s) slot.hub ev).map fun hub =>
      match ev with
      | .sent id _ => settle s i id hub
      | _ => setHub s i hub

inductive Event (Topic Arg Msg : Type) where
  | start (id : CallId) (topic : Topic) (arg : Arg)
  | finish (id : CallId) (ok : Bool)
  | cancel (id : CallId)
  | hub (i : HubId) (ev : StreamHub.Event Topic Msg)
  deriving DecidableEq, Repr

def step (route : Msg → Option Topic) (s : State Topic Arg Msg) :
    Event Topic Arg Msg → Option (State Topic Arg Msg)
  | .start id topic arg => start s id topic arg
  | .finish id ok => finish route s id ok
  | .cancel id => cancel s id
  | .hub i ev => hubStep route s i ev

def system (route : Msg → Option Topic) : System (State Topic Arg Msg) (Event Topic Arg Msg) :=
  ⟨.initial, step route⟩

end ExchangeRouter.Hyperliquid
