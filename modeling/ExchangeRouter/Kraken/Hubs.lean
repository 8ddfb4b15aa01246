import ExchangeRouter.StreamHub.Frames

/-!
# Hubs of the Kraken adapter

`src/exchanges/kraken/adapter.py`: `_hub_key`, `_topic_key`, `_get_kraken_hub`
and `_ws_connect`.  The payloads of all hubs are in one dictionary keyed by
topic, and a hub reads it when it sends, at a connect, a reconnect or an
unsubscribe.  As long as no two consumers of one topic belong to different
hubs, what a hub reads there was passed by a consumer of its own.
-/
namespace ExchangeRouter.Kraken
open Lib StreamHub

/-- The URL and payload handed to `_ws_connect`: the v2 URL of spot with its
`params`, or the futures URL. -/
inductive Request where
  | spot (channel : String) (symbol : List String) (eventTrigger : Option String)
      (depth : Option Nat) (snapshot : Option Bool)
  | futures (feed : String) (productIds : List String)
  deriving DecidableEq, Repr

/-- `str` of a Python boolean. -/
def strBool : Bool → String
  | true => "True"
  | false => "False"

/-- `_hub_key`. -/
def hubKey : Request → String
  | .spot channel _ eventTrigger depth snapshot =>
    "spot:" ++ ":".intercalate [channel, eventTrigger.getD "", (depth.map toString).getD "",
      (snapshot.map strBool).getD ""]
  | .futures feed _ => "fut:" ++ feed

/-- `_topic_key`. -/
def topicKey : Request → String
  | .spot channel symbol _ _ _ => channel ++ ":" ++ symbol.headD ""
  | .futures feed productIds => feed ++ ":" ++ productIds.headD ""

/-- What a frame is built from: the topic it is for and the stored payload. -/
structure Stored where
  topic : String
  request : Request
  deriving DecidableEq, Repr

structure State (Msg : Type) where
  topicPayloads : Dict String Request
  hubs : Dict String (StreamHub.State String Stored Msg)
  /-- Hub key and topic of every consumer. -/
  consumers : Dict CallId (String × String)
  /-- The payloads passed to `_ws_connect`. -/
  passed : List Request

variable {Msg : Type}

def State.initial : State Msg := ⟨.empty, .empty, .empty, []⟩

/-- `_sub` and `_unsub` of `_get_kraken_hub`: a frame for each topic that has a
stored payload. -/
def payloads (s : State Msg) (topics : List String) : List Stored :=
  topics.filterMap fun t => (s.topicPayloads.get? t).map fun p => ⟨t, p⟩

def hubConfig (route : Msg → Option String) (s : State Msg) :
    StreamHub.Config String Stored Msg where
  subscribePayload := payloads s
  unsubscribePayload := payloads s
  route := route
  queueSize := 1024

/-- `_get_kraken_hub`. -/
def getKrakenHub (s : State Msg) (request : Request) : StreamHub.State String Stored Msg :=
  (s.hubs.get? (hubKey request)).getD .initial

/-- `_ws_connect` up to its first suspension. -/
def start (s : State Msg) (id : CallId) (request : Request) : Option (State Msg) :=
  match s.consumers.get? id with
  | some _ => none
  | none =>
    let topic := topicKey request
    let s := { s with
      topicPayloads := s.topicPayloads.set topic request
      passed := s.passed ++ [request] }
    (StreamHub.subscribe (getKrakenHub s request) id topic).map fun hub =>
      { s with
        hubs := s.hubs.set (hubKey request) hub
        consumers := s.consumers.set id (hubKey request, topic) }

/-- The `finally` of `_ws_connect`. -/
def finish (route : Msg → Option String) (s : State Msg) (id : CallId) (ok : Bool) :
    Option (State Msg) :=
  match s.consumers.get? id with
  | none => none
  | some (key, topic) =>
    match s.hubs.get? key with
    | none => none
    | some hub =>
      match hub.calls.get? id with
      | some (.returned _ q) =>
        (StreamHub.unsubscribe (hubConfig route s) hub id topic q ok).map fun hub =>
          { s with hubs := s.hubs.set key hub }
      | _ => none

/-- Any other step of a hub, cancellations among them. -/
def hubStep (route : Msg → Option String) (s : State Msg) (key : String)
    (ev : StreamHub.Event String Msg) : Option (State Msg) :=
  match s.hubs.get? key with
  | none => none
  | some hub =>
    if ev.named.isSome then none
    else (StreamHub.step (hubConfig route s) hub ev).map fun hub =>
      { s with hubs := s.hubs.set key hub }

inductive Event (Msg : Type) where
  | start (id : CallId) (request : Request)
  | finish (id : CallId) (ok : Bool)
  | hub (key : String) (ev : StreamHub.Event String Msg)
  deriving DecidableEq, Repr

def step (route : Msg → Option String) (s : State Msg) : Event Msg → Option (State Msg)
  | .start id request => start s id request
  | .finish id ok => finish route s id ok
  | .hub key ev => hubStep route s key ev

def system (route : Msg → Option String) : System (State Msg) (Event Msg) :=
  ⟨.initial, step route⟩

/-- A consumer finds no payload of another hub stored for its topic. -/
def keepsHub (s : State Msg) : Event Msg → Bool
  | .start _ request =>
    match s.topicPayloads.get? (topicKey request) with
    | some stored => hubKey stored = hubKey request
    | none => true
  | _ => true

def KeepsHubStep (s : State Msg) (ev : Event Msg) : Prop := keepsHub s ev = true

/-- The payload stored for the topic belongs to the hub. -/
def Known (s : State Msg) (key topic : String) : Prop :=
  ∃ p, s.topicPayloads.get? topic = some p ∧ hubKey p = key

/-- A consumer of the hub passed the payload for the topic. -/
def OwnPayload (s : State Msg) (key : String) (stored : Stored) : Prop :=
  stored.request ∈ s.passed ∧ hubKey stored.request = key ∧
    topicKey stored.request = stored.topic

structure Separate (s : State Msg) : Prop where
  stored : ∀ topic p, s.topicPayloads.get? topic = some p → p ∈ s.passed ∧ topicKey p = topic
  consumers : ∀ id key topic, s.consumers.get? id = some (key, topic) → Known s key topic
  hubs : ∀ key hub, s.hubs.get? key = some hub → Framed (Known s key) (OwnPayload s key) hub

theorem Separate.initial : Separate (State.initial : State Msg) where
  stored := fun _ _ found => by simp [State.initial] at found
  consumers := fun _ _ _ found => by simp [State.initial] at found
  hubs := fun _ _ found => by simp [State.initial] at found

/-- From topics of the hub, `_sub` and `_unsub` build the hub's own frames. -/
theorem Separate.builds {s : State Msg} (h : Separate s) (route : Msg → Option String)
    (key : String) : Builds (Known s key) (OwnPayload s key) (hubConfig route s) := by
  have own : ∀ topics, (∀ topic ∈ topics, Known s key topic) →
      ∀ p ∈ payloads s topics, OwnPayload s key p := by
    intro topics known p member
    obtain ⟨topic, given, built⟩ := List.mem_filterMap.mp member
    obtain ⟨request, found, rfl⟩ := Option.map_eq_some_iff.mp built
    obtain ⟨request', found', isKey⟩ := known topic given
    rw [found] at found'
    cases found'
    obtain ⟨passed, isTopic⟩ := h.stored topic request found
    exact ⟨passed, isKey, isTopic⟩
  exact fun topics known => ⟨own topics known, own topics known⟩

/-- A step of one hub that names a topic of its own. -/
theorem Separate.setHub {s : State Msg} (h : Separate s) {route : Msg → Option String}
    {key : String} {hub hub' : StreamHub.State String Stored Msg}
    (found : s.hubs.get? key = some hub) {ev : StreamHub.Event String Msg}
    (named : ∀ topic, ev.named = some topic → Known s key topic)
    (taken : StreamHub.step (hubConfig route s) hub ev = some hub') :
    Separate { s with hubs := s.hubs.set key hub' } := by
  refine ⟨h.stored, h.consumers, fun key' x at' => ?_⟩
  rw [Dict.get?_set] at at'
  split at at'
  · rename_i same
    cases at'
    subst same
    exact (h.hubs key' hub found).step (h.builds route key') named (step_cases taken)
  · exact h.hubs key' x at'

/-- `_ws_connect` before it subscribes: the payload is stored and passed. -/
def store (s : State Msg) (request : Request) : State Msg :=
  { s with
    topicPayloads := s.topicPayloads.set (topicKey request) request
    passed := s.passed ++ [request] }

/-- A payload of the same hub takes the place of the stored one. -/
theorem known_store {s : State Msg} {id : CallId} {request : Request}
    (ours : keepsHub s (.start id request) = true) {key topic : String} (h : Known s key topic) :
    Known (store s request) key topic := by
  obtain ⟨p, found, isKey⟩ := h
  by_cases same : topic = topicKey request
  · subst same
    have keeps : hubKey p = hubKey request := by simpa [keepsHub, found] using ours
    exact ⟨request, by simp [store], keeps.symm.trans isKey⟩
  · exact ⟨p, by rw [store, Dict.get?_set_ne _ _ same, found], isKey⟩

theorem OwnPayload.store {s : State Msg} {key : String} {stored : Stored}
    (h : OwnPayload s key stored) (request : Request) :
    OwnPayload (Kraken.store s request) key stored :=
  ⟨List.mem_append_left _ h.1, h.2⟩

theorem Separate.start {s s' : State Msg} (h : Separate s) {id : CallId} {request : Request}
    (ours : keepsHub s (.start id request) = true) (taken : start s id request = some s') :
    Separate s' := by
  unfold Kraken.start at taken
  split at taken
  · cases taken
  · obtain ⟨hub, subscribed, rfl⟩ := Option.map_eq_some_iff.mp taken
    have own : Known (store s request) (hubKey request) (topicKey request) :=
      ⟨request, by simp [store], rfl⟩
    have later : ∀ key (x : StreamHub.State String Stored Msg),
        Framed (Known s key) (OwnPayload s key) x →
          Framed (Known (store s request) key) (OwnPayload (store s request) key) x :=
      fun key x framed => framed.mono (fun _ => known_store ours) fun _ good => good.store request
    refine ⟨fun topic p found => ?_, fun id' key topic found => ?_, fun key x at' => ?_⟩
    · change p ∈ s.passed ++ [request] ∧ _
      rw [Dict.get?_set] at found
      split at found
      · rename_i same
        cases found
        exact ⟨by simp, same.symm⟩
      · exact (h.stored topic p found).imp_left fun old => List.mem_append_left _ old
    · change Known (store s request) key topic
      rw [Dict.get?_set] at found
      split at found
      · cases found
        exact own
      · exact known_store ours (h.consumers id' key topic found)
    · change Framed (Known (store s request) key) (OwnPayload (store s request) key) x
      rw [Dict.get?_set] at at'
      split at at'
      · rename_i same
        cases at'
        subst same
        refine Framed.subscribe (later _ _ ?_) own subscribed
        unfold getKrakenHub
        cases found : s.hubs.get? (hubKey request) with
        | none => exact .initial _ _
        | some hub₀ => exact h.hubs _ hub₀ found
      · exact later key x (h.hubs key x at')

theorem Separate.finish {s s' : State Msg} (h : Separate s) {route : Msg → Option String}
    {id : CallId} {ok : Bool} (taken : finish route s id ok = some s') : Separate s' := by
  unfold Kraken.finish at taken
  split at taken
  · cases taken
  · rename_i key topic consumer
    split at taken
    · cases taken
    · rename_i hub found
      split at taken
      · rename_i t q returned
        obtain ⟨hub', left, rfl⟩ := Option.map_eq_some_iff.mp taken
        have step : StreamHub.step (hubConfig route s) hub (.unsubscribe id topic q ok) =
          some hub' := left
        refine h.setHub found (fun t named => ?_) step
        cases named
        exact h.consumers id key topic consumer
      · cases taken

theorem Separate.hubStep {s s' : State Msg} (h : Separate s) {route : Msg → Option String}
    {key : String} {ev : StreamHub.Event String Msg} (taken : hubStep route s key ev = some s') :
    Separate s' := by
  unfold Kraken.hubStep at taken
  split at taken
  · cases taken
  · rename_i hub found
    split at taken
    · cases taken
    · rename_i unnamed
      obtain ⟨hub', moved, rfl⟩ := Option.map_eq_some_iff.mp taken
      refine h.setHub found (fun topic named => ?_) moved
      simp [named] at unnamed

theorem separate_reachable {route : Msg → Option String} {s : State Msg}
    (run : Reachable (system route) KeepsHubStep s) : Separate s := by
  refine run.invariant .initial fun s ev s' _ h permitted taken => ?_
  cases ev with
  | start id request => exact h.start permitted taken
  | finish id ok => exact h.finish taken
  | hub key ev => exact h.hubStep taken

/-- Every frame that a hub sent for a topic was built from a payload that one of
its own consumers passed for that topic, if no two consumers of one topic
belonged to different hubs. -/
theorem frames_of_own_consumers {route : Msg → Option String} {s : State Msg}
    (run : Reachable (system route) KeepsHubStep s) {key : String}
    {hub : StreamHub.State String Stored Msg} (created : s.hubs.get? key = some hub)
    {c : Conn} {frame : Frame Stored} (sent : (c, frame) ∈ hub.wire) :
    ∃ p ∈ s.passed, hubKey p = key ∧ topicKey p = frame.payload.topic ∧
      frame.payload.request = p := by
  obtain ⟨passed, isKey, isTopic⟩ := ((separate_reachable run).hubs key hub created).wire _ sent
  exact ⟨frame.payload.request, passed, isKey, isTopic, rfl⟩

/-- The payload of `stream_ticker` on spot. -/
def tickerRequest (symbol : String) : Request := .spot "ticker" [symbol] none none none

/-- The payload of `stream_book_ticker` on spot. -/
def bookTickerRequest (symbol : String) : Request := .spot "ticker" [symbol] (some "bbo") none none

def tickerRun : List (Event Nat) :=
  [.start 0 (tickerRequest "XBT/USD"), .hub "spot:ticker:::" (.connect true)]

theorem tickerRun_ends : (system fun _ => none).endsIn keepsHub tickerRun
    (fun s => (s.hubs.get? "spot:ticker:::").map (fun hub => hub.wire) =
      some [(0, .subscribe ⟨"ticker:XBT/USD", tickerRequest "XBT/USD"⟩)]) = true := by decide +kernel

theorem frames_of_own_consumers_ticker : ∃ s : State Nat,
    Reachable (system fun _ => none) KeepsHubStep s ∧
      ∃ p ∈ s.passed, hubKey p = "spot:ticker:::" ∧ topicKey p = "ticker:XBT/USD" := by
  obtain ⟨s, run, ends⟩ := System.exists_reachable (fun _ _ _ ok => ok) tickerRun_ends
  obtain ⟨hub, created, wire⟩ := Option.map_eq_some_iff.mp (of_decide_eq_true ends)
  obtain ⟨p, passed, isKey, isTopic, -⟩ :=
    frames_of_own_consumers run created (wire ▸ List.mem_singleton_self _)
  exact ⟨s, run, p, passed, isKey, isTopic⟩

/-- A ticker consumer, then a book ticker consumer of the same symbol, then the
ticker's hub reconnects. -/
def bookTickerRun : List (Event Nat) :=
  tickerRun ++ [.start 1 (bookTickerRequest "XBT/USD"), .hub "spot:ticker:::" (.resubscribed true),
    .hub "spot:ticker:::" .disconnect, .hub "spot:ticker:::" .closed,
    .hub "spot:ticker:::" .reconnect, .hub "spot:ticker:::" (.connect true)]

theorem bookTickerRun_ends : (system fun _ => none).endsIn (fun _ _ => true) bookTickerRun
    (fun s => (s.hubs.get? "spot:ticker:::").map (fun hub => hub.wire) =
      some [(0, .subscribe ⟨"ticker:XBT/USD", tickerRequest "XBT/USD"⟩),
        (1, .subscribe ⟨"ticker:XBT/USD", bookTickerRequest "XBT/USD"⟩)]) = true := by decide +kernel

/-- The hub of the ticker subscribes with the event trigger of the book ticker,
a payload that belongs to another hub. -/
theorem ticker_hub_sends_bbo : ∃ s : State Nat, Reachable (system fun _ => none) anyStep s ∧
    ∃ hub, s.hubs.get? (hubKey (tickerRequest "XBT/USD")) = some hub ∧
      ∃ c frame, (c, frame) ∈ hub.wire ∧ frame.payload.request = bookTickerRequest "XBT/USD" ∧
        hubKey frame.payload.request ≠ hubKey (tickerRequest "XBT/USD") := by
  have key : hubKey (tickerRequest "XBT/USD") = "spot:ticker:::" := by decide +kernel
  have other : hubKey (bookTickerRequest "XBT/USD") ≠ "spot:ticker:::" := by decide +kernel
  obtain ⟨s, run, ends⟩ := System.exists_reachable (fun _ _ _ _ => trivial) bookTickerRun_ends
  obtain ⟨hub, created, wire⟩ := Option.map_eq_some_iff.mp (of_decide_eq_true ends)
  rw [key]
  refine ⟨s, run, hub, created, 1, .subscribe ⟨"ticker:XBT/USD", bookTickerRequest "XBT/USD"⟩, ?_,
    rfl, other⟩
  simp [wire]

end ExchangeRouter.Kraken
