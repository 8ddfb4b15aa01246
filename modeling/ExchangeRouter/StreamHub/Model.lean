import Mathlib.Data.Finset.Dedup
import Mathlib.Data.Finset.Insert
import Mathlib.Data.Finset.Erase
import Mathlib.Logic.Function.Basic
import ExchangeRouter.Lib.Dict
import ExchangeRouter.Lib.Run

/-!
# StreamHub: one upstream connection shared by many topic consumers

`src/exchanges/base.py`, class `StreamHub`.  A step runs one task from one
suspension point to the next.  A lock section contains no await, so the lock is
never contended and its section, with the `ws.send` call that follows it, is a
single step.  The label of a step carries what the outside decides: which task
runs, what arrives, whether a send raises.

The payload builders and the router are read anew at every step, because some
adapters close over a dictionary that changes while the hub runs.  Keep-alive
frames name no topic and are left out, and so is `close`, which belongs to
adapter shutdown.
-/
namespace ExchangeRouter.StreamHub
open Lib

abbrev Conn := Nat
abbrev QueueId := Nat
abbrev CallId := Nat

/-- The constructor arguments a running hub consults.  `route` is the adapter's
router after `_parse`; an unparsable frame routes to `none`. -/
structure Config (Topic Payload Msg : Type) where
  subscribePayload : List Topic → List Payload
  unsubscribePayload : List Topic → List Payload
  route : Msg → Option Topic
  queueSize : Nat

inductive Frame (Payload : Type) where
  | subscribe (payload : Payload)
  | unsubscribe (payload : Payload)
  deriving DecidableEq, Repr

/-- A message taken off a connection, numbered by its place in `received`. -/
structure Arrival (Msg : Type) where
  index : Nat
  conn : Conn
  msg : Msg
  deriving DecidableEq, Repr

/-- An `asyncio.Queue` with what was handed to it and what its consumer took. -/
structure Queue (Msg : Type) where
  items : List (Arrival Msg)
  arrived : List (Arrival Msg)
  taken : List (Arrival Msg)
  deriving DecidableEq, Repr

namespace Queue
variable {Msg : Type}

def new : Queue Msg := ⟨[], [], []⟩

/-- `asyncio.Queue.full`: a maximum of zero is no maximum. -/
def full (maxsize : Nat) (q : Queue Msg) : Bool := 0 < maxsize && maxsize ≤ q.items.length

def putNowait (maxsize : Nat) (q : Queue Msg) (m : Arrival Msg) : Option (Queue Msg) :=
  if q.full maxsize then none else some { q with items := q.items ++ [m] }

def getNowait (q : Queue Msg) : Option (Queue Msg) :=
  match q.items with
  | [] => none
  | _ :: rest => some { q with items := rest }

/-- The body of the fan-out loop of `_run` for one queue. -/
def offer (maxsize : Nat) (q : Queue Msg) (m : Arrival Msg) : Queue Msg :=
  let q := { q with arrived := q.arrived ++ [m] }
  match q.putNowait maxsize m with
  | some q' => q'
  | none =>
    let q := (q.getNowait).getD q
    (q.putNowait maxsize m).getD q

end Queue

/-- The `_run` task between two of its steps.  `rest` is what `_send_payloads`
still has to send once the awaited `ws.send` returns; `stable` is the local of
that name. -/
inductive Task (Payload : Type) where
  | idle
  | connecting
  | resubscribing (ws : Conn) (rest : List Payload)
  | receiving (ws : Conn) (stable : Bool)
  | closing
  | sleeping
  deriving DecidableEq, Repr

/-- A `subscribe` or `unsubscribe` call between two of its steps.  `woken` is a
subscriber whose wait on `_connected` has ended and whose second lock section
has not run. -/
inductive Call (Topic Payload : Type) where
  | waiting (topic : Topic) (q : QueueId)
  | woken (topic : Topic) (q : QueueId)
  | sending (topic : Topic) (q : QueueId) (ws : Conn) (rest : List Payload)
  | returned (topic : Topic) (q : QueueId)
  | unsubscribing (topic : Topic) (q : QueueId) (ws : Conn) (rest : List Payload)
  | finished (topic : Topic) (q : QueueId)
  | cancelled (topic : Topic) (q : QueueId)
  deriving DecidableEq, Repr

namespace Call
variable {Topic Payload : Type}

/-- The topic and queue of a `subscribe` call that has not returned. -/
def subscribing : Call Topic Payload → Option (Topic × QueueId)
  | waiting topic q | woken topic q | sending topic q _ _ => some (topic, q)
  | _ => none

/-- The topic and queue of a `subscribe` call before its second lock section. -/
def awaiting : Call Topic Payload → Option (Topic × QueueId)
  | waiting topic q | woken topic q => some (topic, q)
  | _ => none

/-- The connection a call is sending on. -/
def sendingOn : Call Topic Payload → Option Conn
  | sending _ _ c _ | unsubscribing _ _ c _ => some c
  | _ => none

def inFlight : Call Topic Payload → Bool
  | waiting .. | woken .. | sending .. | unsubscribing .. => true
  | _ => false

theorem inFlight_of_awaiting {call : Call Topic Payload} {x : Topic × QueueId}
    (h : call.awaiting = some x) : call.inFlight = true := by
  cases call <;> first | rfl | cases h

end Call

structure State (Topic Payload Msg : Type) where
  queues : Dict Topic (List QueueId)
  subscribedTopics : Finset Topic
  connected : Bool
  ws : Option Conn
  task : Task Payload
  reconnectDelay : Nat
  calls : Dict CallId (Call Topic Payload)
  queue : QueueId → Queue Msg
  nextQueue : QueueId
  nextConn : Conn
  /-- Every frame that left, in the order of the `ws.send` calls. -/
  wire : List (Conn × Frame Payload)
  /-- The connections that are dead, and those on which a send has raised. -/
  dead : Finset Conn
  failed : Finset Conn
  received : List (Conn × Msg)

variable {Topic Payload Msg : Type}

def State.initial : State Topic Payload Msg where
  queues := .empty
  subscribedTopics := ∅
  connected := false
  ws := none
  task := .idle
  reconnectDelay := 1
  calls := .empty
  queue := fun _ => .new
  nextQueue := 0
  nextConn := 0
  wire := []
  dead := ∅
  failed := ∅
  received := []

/-- `_send_payloads` from one suspension to the next: the call of `ws.send` for
the first payload.  A send that raises ends the loop with a warning, and only a
dead connection makes it raise.  The second component is the awaited send. -/
def sendPayloads (s : State Topic Payload Msg) (ws : Option Conn)
    (frame : Payload → Frame Payload) (payloads : List Payload) (ok : Bool) :
    Option (State Topic Payload Msg × Option (Conn × List Payload)) :=
  match ws, payloads with
  | some c, p :: rest =>
    if ok then some ({ s with wire := s.wire ++ [(c, frame p)] }, some (c, rest))
    else if c ∈ s.dead then some ({ s with failed := insert c s.failed }, none)
    else none
  | _, _ => some (s, none)

variable [DecidableEq Topic]

def queuesOf (s : State Topic Payload Msg) (topic : Topic) : List QueueId :=
  s.queues.getD topic []

/-- `subscribe`, first lock section: register a queue and start `_run`. -/
def subscribe (s : State Topic Payload Msg) (id : CallId) (topic : Topic) :
    Option (State Topic Payload Msg) :=
  match s.calls.get? id with
  | some _ => none
  | none =>
    let q := s.nextQueue
    let isNewTopic := (s.queues.get? topic).isNone
    some { s with
      queues := s.queues.set topic (queuesOf s topic ++ [q])
      task := match s.task with
        | .idle => .connecting
        | task => task
      nextQueue := q + 1
      calls := s.calls.set id (if isNewTopic then .waiting topic q else .returned topic q) }

/-- `self._connected.wait()` completes only after the event was set; the event
may be clear again when the subscriber runs. -/
def wake (s : State Topic Payload Msg) (id : CallId) : Option (State Topic Payload Msg) :=
  match s.calls.get? id with
  | some (.waiting topic q) =>
    if s.connected then some { s with calls := s.calls.set id (.woken topic q) } else none
  | _ => none

/-- The 30 s timeout of `subscribe`: the queue is returned unsubscribed. -/
def timeout (s : State Topic Payload Msg) (id : CallId) : Option (State Topic Payload Msg) :=
  match s.calls.get? id with
  | some (.waiting topic q) => some { s with calls := s.calls.set id (.returned topic q) }
  | _ => none

/-- What a `subscribe` call does after a send: await it, or return its queue. -/
def afterSubscribeSend (topic : Topic) (q : QueueId) :
    Option (Conn × List Payload) → Call Topic Payload
  | none => .returned topic q
  | some (c, rest) => .sending topic q c rest

def afterUnsubscribeSend (topic : Topic) (q : QueueId) :
    Option (Conn × List Payload) → Call Topic Payload
  | none => .finished topic q
  | some (c, rest) => .unsubscribing topic q c rest

/-- `subscribe`, second lock section and the send that follows it. -/
def resume (cfg : Config Topic Payload Msg) (s : State Topic Payload Msg) (id : CallId)
    (ok : Bool) : Option (State Topic Payload Msg) :=
  match s.calls.get? id with
  | some (.woken topic q) =>
    if topic ∈ s.subscribedTopics then
      some { s with calls := s.calls.set id (.returned topic q) }
    else
      let s := { s with subscribedTopics := insert topic s.subscribedTopics }
      (sendPayloads s s.ws .subscribe (cfg.subscribePayload [topic]) ok).map fun (s, pending) =>
        { s with calls := s.calls.set id (afterSubscribeSend topic q pending) }
  | _ => none

/-- The awaited `ws.send` of a call returned: go on with `_send_payloads`. -/
def sent (s : State Topic Payload Msg) (id : CallId) (ok : Bool) :
    Option (State Topic Payload Msg) :=
  match s.calls.get? id with
  | some (.sending topic q c rest) =>
    (sendPayloads s (some c) .subscribe rest ok).map fun (s, pending) =>
      { s with calls := s.calls.set id (afterSubscribeSend topic q pending) }
  | some (.unsubscribing topic q c rest) =>
    (sendPayloads s (some c) .unsubscribe rest ok).map fun (s, pending) =>
      { s with calls := s.calls.set id (afterUnsubscribeSend topic q pending) }
  | _ => none

/-- A caller has a queue only once `subscribe` returned it. -/
def held (s : State Topic Payload Msg) (q : QueueId) : Bool :=
  s.calls.values.any fun call => call.subscribing.any fun owned => owned.2 = q

/-- `unsubscribe` up to its first suspension.  The task that runs the call is a
fresh one or one whose `subscribe` returned. -/
def unsubscribe (cfg : Config Topic Payload Msg) (s : State Topic Payload Msg) (id : CallId)
    (topic : Topic) (q : QueueId) (ok : Bool) : Option (State Topic Payload Msg) :=
  let startable := match s.calls.get? id with
    | none | some (.returned ..) => true
    | _ => false
  if !startable || held s q then none
  else
    let qs := (queuesOf s topic).filter fun x => x ≠ q
    if qs ≠ [] then
      some { s with
        queues := s.queues.set topic qs
        calls := s.calls.set id (.finished topic q) }
    else
      let connected := s.connected
      let s := { s with
        queues := s.queues.pop topic
        subscribedTopics := s.subscribedTopics.erase topic }
      if connected then
        (sendPayloads s s.ws .unsubscribe (cfg.unsubscribePayload [topic]) ok).map
          fun (s, pending) =>
            { s with calls := s.calls.set id (afterUnsubscribeSend topic q pending) }
      else some { s with calls := s.calls.set id (.finished topic q) }

/-- Cancellation at the await a call is suspended at; nothing in `subscribe` or
`unsubscribe` catches it. -/
def cancel (s : State Topic Payload Msg) (id : CallId) : Option (State Topic Payload Msg) :=
  match s.calls.get? id with
  | some (.waiting topic q) | some (.woken topic q) | some (.sending topic q _ _)
  | some (.unsubscribing topic q _ _) =>
    some { s with calls := s.calls.set id (.cancelled topic q) }
  | _ => none

/-- `_run` after its resubscription: await the next send, or set `_connected`
and enter the receive loop. -/
def afterResubscribe (c : Conn) (s : State Topic Payload Msg) :
    Option (Conn × List Payload) → State Topic Payload Msg
  | none => { s with connected := true, task := .receiving c false }
  | some (_, rest) => { s with task := .resubscribing c rest }

/-- `_run` from the return of `_connect` to the first resubscription send. -/
def connect (cfg : Config Topic Payload Msg) (s : State Topic Payload Msg) (ok : Bool) :
    Option (State Topic Payload Msg) :=
  match s.task with
  | .connecting =>
    let c := s.nextConn
    let topics := s.queues.keys
    let s := { s with
      ws := some c
      nextConn := c + 1
      subscribedTopics := topics.toFinset }
    let payloads := if topics = [] then [] else cfg.subscribePayload topics
    (sendPayloads s (some c) .subscribe payloads ok).map fun (s, pending) =>
      afterResubscribe c s pending
  | _ => none

def connectFailed (s : State Topic Payload Msg) : Option (State Topic Payload Msg) :=
  match s.task with
  | .connecting => some { s with connected := false, ws := none, task := .sleeping }
  | _ => none

/-- The awaited resubscription send of `_run` returned. -/
def resubscribed (s : State Topic Payload Msg) (ok : Bool) : Option (State Topic Payload Msg) :=
  match s.task with
  | .resubscribing c rest =>
    (sendPayloads s (some c) .subscribe rest ok).map fun (s, pending) =>
      afterResubscribe c s pending
  | _ => none

/-- Hand one message to every queue of its topic, in list order. -/
def fanOut (maxsize : Nat) (m : Arrival Msg) (queue : QueueId → Queue Msg) :
    List QueueId → QueueId → Queue Msg
  | [] => queue
  | q :: rest => fanOut maxsize m (Function.update queue q ((queue q).offer maxsize m)) rest

/-- One iteration of the receive loop. -/
def receive (cfg : Config Topic Payload Msg) (s : State Topic Payload Msg) (m : Msg) :
    Option (State Topic Payload Msg) :=
  match s.task with
  | .receiving c stable =>
    let arrival : Arrival Msg := ⟨s.received.length, c, m⟩
    let s := { s with
      task := .receiving c true
      reconnectDelay := if stable then s.reconnectDelay else 1
      received := s.received ++ [(c, m)] }
    match cfg.route m with
    | none => some s
    | some topic =>
      some { s with queue := fanOut cfg.queueSize arrival s.queue (queuesOf s topic) }
  | _ => none

/-- The receive loop ends or raises; `finally` runs up to `ws.close()`. -/
def disconnect (s : State Topic Payload Msg) : Option (State Topic Payload Msg) :=
  match s.task with
  | .receiving _ _ => some { s with connected := false, ws := none, task := .closing }
  | _ => none

def closed (s : State Topic Payload Msg) : Option (State Topic Payload Msg) :=
  match s.task with
  | .closing => some { s with task := .sleeping }
  | _ => none

/-- `asyncio.sleep(reconnect_delay)` is over. -/
def reconnect (s : State Topic Payload Msg) : Option (State Topic Payload Msg) :=
  match s.task with
  | .sleeping =>
    some { s with task := .connecting, reconnectDelay := min (s.reconnectDelay * 2) 30 }
  | _ => none

/-- A consumer takes the oldest message of its queue. -/
def get (s : State Topic Payload Msg) (q : QueueId) : Option (State Topic Payload Msg) :=
  match (s.queue q).items with
  | [] => none
  | m :: rest =>
    some { s with
      queue := Function.update s.queue q
        { s.queue q with items := rest, taken := (s.queue q).taken ++ [m] } }

inductive Event (Topic Msg : Type) where
  | subscribe (id : CallId) (topic : Topic)
  | wake (id : CallId)
  | timeout (id : CallId)
  | resume (id : CallId) (ok : Bool)
  | sent (id : CallId) (ok : Bool)
  | unsubscribe (id : CallId) (topic : Topic) (q : QueueId) (ok : Bool)
  | cancel (id : CallId)
  | connect (ok : Bool)
  | connectFailed
  | resubscribed (ok : Bool)
  | receive (m : Msg)
  | disconnect
  | closed
  | reconnect
  | get (q : QueueId)
  | die (c : Conn)
  deriving DecidableEq, Repr

def step (cfg : Config Topic Payload Msg) (s : State Topic Payload Msg) :
    Event Topic Msg → Option (State Topic Payload Msg)
  | .subscribe id topic => subscribe s id topic
  | .wake id => wake s id
  | .timeout id => timeout s id
  | .resume id ok => resume cfg s id ok
  | .sent id ok => sent s id ok
  | .unsubscribe id topic q ok => unsubscribe cfg s id topic q ok
  | .cancel id => cancel s id
  | .connect ok => connect cfg s ok
  | .connectFailed => connectFailed s
  | .resubscribed ok => resubscribed s ok
  | .receive m => receive cfg s m
  | .disconnect => disconnect s
  | .closed => closed s
  | .reconnect => reconnect s
  | .get q => get s q
  | .die c => some { s with dead := insert c s.dead }

abbrev Label (Topic Payload Msg : Type) := Config Topic Payload Msg × Event Topic Msg

/-- All runs of one hub. -/
def system : System (State Topic Payload Msg) (Label Topic Payload Msg) :=
  ⟨.initial, fun s label => step label.1 s label.2⟩

end ExchangeRouter.StreamHub
