import ExchangeRouter.Lib.Dict
import ExchangeRouter.Lib.Run

/-!
# StreamManager: one upstream task shared by the clients of a key

`src/stream_manager.py`.  A step runs one task from one suspension point to the
next.  The sections under `_lock` contain no await, so taking the lock never
suspends.  A cancellation is delivered when the cancelled task is next resumed,
and adapter streams let it pass.  `asyncio.gather` runs one child for each
send; cancelling the handler cancels the children, and one that has not started
never starts.

`unsubscribe` waits two seconds for the cancelled task and cancels it again;
the second cancellation finds it cancelled or done.  `shutdown` is left out.
-/
namespace ExchangeRouter.StreamManager
open Lib

abbrev ClientId := Nat
abbrev HandlerId := Nat

/-- A child of `gather`: `wait_for(client.send_text(data), 5.0)`. -/
inductive SendStatus where
  | unstarted
  | started
  | sent
  | failed
  deriving DecidableEq, Repr

structure Send (Socket : Type) where
  client : ClientId
  socket : Socket
  status : SendStatus
  deriving DecidableEq, Repr

/-- Where an `_upstream_handler` task is suspended.  From `closing` on it has
run the locked section of its `finally`. -/
inductive Pc (Socket : Type) where
  | created
  | receiving
  | sending (sends : List (Send Socket))
  | closing
  | done
  deriving DecidableEq, Repr

def Pc.active {Socket : Type} : Pc Socket → Bool
  | created | receiving | sending _ => true
  | closing | done => false

structure Handler (Key Socket Item : Type) where
  key : Key
  pc : Pc Socket
  cancelled : Bool
  /-- What the adapter's stream has yielded to this handler. -/
  yielded : List Item
  deriving DecidableEq, Repr

/-- A `subscribe` that returned: its arguments, and the task registered for the
key at that moment. -/
structure Subscription (Key Socket : Type) where
  key : Key
  socket : Socket
  handler : HandlerId
  unsubscribed : Bool
  deriving DecidableEq, Repr

/-- One call of `send_text`, or the failure of one. -/
inductive Record (Item : Type) where
  | attempt (client : ClientId) (handler : HandlerId) (index : Nat) (item : Item)
  | failed (client : ClientId)
  deriving DecidableEq, Repr

structure State (Key Socket Item : Type) where
  activeStreams : Dict Key (Dict ClientId Socket)
  upstreamTasks : Dict Key HandlerId
  handlers : Dict HandlerId (Handler Key Socket Item)
  nextHandler : HandlerId
  /-- The sockets for which a `_close_client` task was created. -/
  closes : List Socket
  subscriptions : Dict ClientId (Subscription Key Socket)
  history : List (Record Item)

variable {Key Socket Item : Type}

def State.initial : State Key Socket Item := ⟨.empty, .empty, .empty, 0, [], .empty, []⟩

variable [DecidableEq Key]

def setHandler (s : State Key Socket Item) (h : HandlerId) (handler : Handler Key Socket Item) :
    State Key Socket Item :=
  { s with handlers := s.handlers.set h handler }

/-- The branch of `subscribe` for a key with no bucket. -/
def openStream (s : State Key Socket Item) (key : Key) : State Key Socket Item :=
  { s with
    activeStreams := s.activeStreams.set key .empty
    upstreamTasks := s.upstreamTasks.set key s.nextHandler
    handlers := s.handlers.set s.nextHandler ⟨key, .created, false, []⟩
    nextHandler := s.nextHandler + 1 }

/-- `self.active_streams[key][client_id] = websocket`. -/
def addClient (s : State Key Socket Item) (client : ClientId) (key : Key) (socket : Socket) :
    State Key Socket Item :=
  { s with
    activeStreams :=
      s.activeStreams.set key ((s.activeStreams.getD key .empty).set client socket)
    subscriptions :=
      s.subscriptions.set client ⟨key, socket, s.upstreamTasks.getD key 0, false⟩ }

/-- `subscribe` with a fresh client id. -/
def subscribe (s : State Key Socket Item) (client : ClientId) (key : Key) (socket : Socket) :
    Option (State Key Socket Item) :=
  match s.subscriptions.get? client with
  | some _ => none
  | none =>
    match s.activeStreams.get? key with
    | some _ => some (addClient s client key socket)
    | none => some (addClient (openStream s key) client key socket)

/-- The record that the client was unsubscribed from its key. -/
def markUnsubscribed (s : State Key Socket Item) (key : Key) (client : ClientId) :
    State Key Socket Item :=
  match s.subscriptions.get? client with
  | some sub =>
    if sub.key = key then
      { s with subscriptions := s.subscriptions.set client { sub with unsubscribed := true } }
    else s
  | none => s

/-- `task.cancel()`. -/
def cancelTask (s : State Key Socket Item) (h : HandlerId) : State Key Socket Item :=
  match s.handlers.get? h with
  | some handler =>
    match handler.pc with
    | .done => s
    | _ => setHandler s h { handler with cancelled := true }
  | none => s

/-- Both dictionaries forget the key. -/
def dropKey (s : State Key Socket Item) (key : Key) : State Key Socket Item :=
  { s with
    activeStreams := s.activeStreams.pop key
    upstreamTasks := s.upstreamTasks.pop key }

def unsubscribe (s : State Key Socket Item) (key : Key) (client : ClientId) :
    State Key Socket Item :=
  let s := markUnsubscribed s key client
  match s.activeStreams.get? key with
  | none => s
  | some bucket =>
    let bucket := bucket.pop client
    if bucket.isEmpty then
      match s.upstreamTasks.get? key with
      | some h => cancelTask (dropKey s key) h
      | none => dropKey s key
    else { s with activeStreams := s.activeStreams.set key bucket }

/-- The `finally` of `_upstream_handler` up to its first await. -/
def finalize (s : State Key Socket Item) (h : HandlerId) (handler : Handler Key Socket Item) :
    State Key Socket Item :=
  if s.upstreamTasks.get? handler.key = some h then
    let bucket := s.activeStreams.getD handler.key .empty
    let s := dropKey s handler.key
    setHandler { s with closes := s.closes ++ bucket.values } h
      { handler with pc := if bucket.isEmpty then .done else .closing, cancelled := false }
  else setHandler s h { handler with pc := .done, cancelled := false }

/-- The handler starts; an unknown channel returns at once. -/
def begin (s : State Key Socket Item) (h : HandlerId) (known : Bool) :
    Option (State Key Socket Item) :=
  match s.handlers.get? h with
  | some handler =>
    match handler.pc, handler.cancelled with
    | .created, false =>
      if known then some (setHandler s h { handler with pc := .receiving })
      else some (finalize s h handler)
    | _, _ => none
  | none => none

/-- The stream yields an item: the handler gathers the sends to its bucket. -/
def item (s : State Key Socket Item) (h : HandlerId) (x : Item) : Option (State Key Socket Item) :=
  match s.handlers.get? h with
  | some handler =>
    match handler.pc, handler.cancelled with
    | .receiving, false =>
      let handler := { handler with yielded := handler.yielded ++ [x] }
      let bucket := s.activeStreams.getD handler.key .empty
      if bucket.isEmpty then some (finalize s h handler)
      else
        let sends := bucket.entries.map fun e => (⟨e.1, e.2, .unstarted⟩ : Send Socket)
        some (setHandler s h { handler with pc := .sending sends })
    | _, _ => none
  | none => none

/-- Change the status of the child that sends to a client. -/
def setStatus (client : ClientId) (status : SendStatus) (sends : List (Send Socket)) :
    List (Send Socket) :=
  sends.map fun send => if send.client = client then { send with status := status } else send

def statusOf (sends : List (Send Socket)) (client : ClientId) : Option SendStatus :=
  (sends.find? fun send => send.client = client).map Send.status

/-- A child starts and calls `send_text`. -/
def attempt (s : State Key Socket Item) (h : HandlerId) (client : ClientId) :
    Option (State Key Socket Item) :=
  match s.handlers.get? h with
  | some handler =>
    match handler.pc, handler.cancelled, handler.yielded.getLast? with
    | .sending sends, false, some x =>
      if statusOf sends client = some .unstarted then
        some { setHandler s h { handler with pc := .sending (setStatus client .started sends) } with
          history := s.history ++ [.attempt client h (handler.yielded.length - 1) x] }
      else none
    | _, _, _ => none
  | none => none

/-- A `send_text` returns, or raises, times out or is cancelled. -/
def settle (s : State Key Socket Item) (h : HandlerId) (client : ClientId) (ok : Bool) :
    Option (State Key Socket Item) :=
  match s.handlers.get? h with
  | some handler =>
    match handler.pc with
    | .sending sends =>
      if statusOf sends client = some .started then
        let status := if ok then SendStatus.sent else .failed
        some { setHandler s h { handler with pc := .sending (setStatus client status sends) } with
          history := if ok then s.history else s.history ++ [.failed client] }
      else none
    | _ => none
  | none => none

def Send.completed (send : Send Socket) : Bool := send.status = .sent || send.status = .failed

def deadItems (sends : List (Send Socket)) : List (Send Socket) :=
  sends.filter fun send => send.status = .failed

/-- `current.pop(cid, None)` for every dead client. -/
def popDead (dead : List (Send Socket)) (bucket : Dict ClientId Socket) : Dict ClientId Socket :=
  dead.foldl (fun bucket send => bucket.pop send.client) bucket

/-- The removal of the dead clients; the second component is `emptied`. -/
def removeDead (s : State Key Socket Item) (key : Key) (dead : List (Send Socket)) :
    State Key Socket Item × Bool :=
  let s := { s with closes := s.closes ++ dead.map Send.socket }
  match s.activeStreams.get? key with
  | none => (s, false)
  | some current =>
    let current := popDead dead current
    if current.isEmpty then (dropKey s key, true)
    else ({ s with activeStreams := s.activeStreams.set key current }, false)

/-- `gather` returns: remove the dead clients and go on, or break. -/
def gathered (s : State Key Socket Item) (h : HandlerId) : Option (State Key Socket Item) :=
  match s.handlers.get? h with
  | some handler =>
    match handler.pc, handler.cancelled with
    | .sending sends, false =>
      if sends.all Send.completed then
        let dead := deadItems sends
        if dead = [] then some (setHandler s h { handler with pc := .receiving })
        else
          let (s, emptied) := removeDead s handler.key dead
          if emptied then some (finalize s h handler)
          else some (setHandler s h { handler with pc := .receiving })
      else none
    | _, _ => none
  | none => none

/-- The stream ends or raises. -/
def ended (s : State Key Socket Item) (h : HandlerId) : Option (State Key Socket Item) :=
  match s.handlers.get? h with
  | some handler =>
    match handler.pc, handler.cancelled with
    | .receiving, false => some (finalize s h handler)
    | _, _ => none
  | none => none

/-- A cancelled handler is resumed.  Before its first step the body, with its
`finally`, never runs; while it awaits close tasks nothing catches it. -/
def interrupted (s : State Key Socket Item) (h : HandlerId) : Option (State Key Socket Item) :=
  match s.handlers.get? h with
  | some handler =>
    if handler.cancelled then
      match handler.pc with
      | .created | .closing => some (setHandler s h { handler with pc := .done, cancelled := false })
      | .receiving | .sending _ => some (finalize s h handler)
      | .done => none
    else none
  | none => none

/-- The close tasks of the `finally` are completed. -/
def closed (s : State Key Socket Item) (h : HandlerId) : Option (State Key Socket Item) :=
  match s.handlers.get? h with
  | some handler =>
    match handler.pc, handler.cancelled with
    | .closing, false => some (setHandler s h { handler with pc := .done })
    | _, _ => none
  | none => none

inductive Event (Key Socket Item : Type) where
  | subscribe (client : ClientId) (key : Key) (socket : Socket)
  | unsubscribe (key : Key) (client : ClientId)
  | begin (h : HandlerId) (known : Bool)
  | item (h : HandlerId) (x : Item)
  | attempt (h : HandlerId) (client : ClientId)
  | settle (h : HandlerId) (client : ClientId) (ok : Bool)
  | gathered (h : HandlerId)
  | ended (h : HandlerId)
  | interrupted (h : HandlerId)
  | closed (h : HandlerId)
  deriving DecidableEq, Repr

def step (s : State Key Socket Item) : Event Key Socket Item → Option (State Key Socket Item)
  | .subscribe client key socket => subscribe s client key socket
  | .unsubscribe key client => some (unsubscribe s key client)
  | .begin h known => begin s h known
  | .item h x => item s h x
  | .attempt h client => attempt s h client
  | .settle h client ok => settle s h client ok
  | .gathered h => gathered s h
  | .ended h => ended s h
  | .interrupted h => interrupted s h
  | .closed h => closed s h

def system : System (State Key Socket Item) (Event Key Socket Item) := ⟨.initial, step⟩

end ExchangeRouter.StreamManager
