import Mathlib.Data.Finset.SDiff
import Mathlib.Data.Finset.Lattice.Basic
import ExchangeRouter.StreamHub.Builders
import ExchangeRouter.StreamHub.Queues
import ExchangeRouter.StreamHub.Wire

/-!
# Snapshot before deltas

A hub linked to an exchange that reads the frames of each connection in order
and answers a subscribe payload with one snapshot of every topic it names,
followed by deltas until an unsubscribe payload names the topic.  Messages wait
in the connection until the receive loop takes them.

A consumer that registers its queue ahead of the snapshot is handed the
snapshot first.  `subscribe` sends no payload for a topic that already has a
queue, so a consumer that joins a topic in mid-stream is handed deltas only.
-/
namespace ExchangeRouter.StreamHub
open Lib

/-- What the exchange sends for a topic. -/
inductive Feed (Topic : Type) where
  | snapshot (topic : Topic)
  | delta (topic : Topic)
  deriving DecidableEq, Repr

def Feed.topic {Topic : Type} : Feed Topic → Topic
  | .snapshot topic | .delta topic => topic

/-- A hub and the exchange: for each connection the number of frames the
exchange has read, the topics it serves and the messages under way. -/
structure Linked (Topic Payload : Type) where
  hub : State Topic Payload (Feed Topic)
  handled : Conn → Nat
  live : Conn → Finset Topic
  pipe : Conn → List (Feed Topic)

inductive LinkLabel (Topic Payload : Type) where
  | hub (label : Label Topic Payload (Feed Topic))
  | read (c : Conn)
  | publish (c : Conn) (topic : Topic)
  | deliver (cfg : Config Topic Payload (Feed Topic))

variable {Topic Payload Msg : Type}

def framesOn (wire : List (Conn × Frame Payload)) (c : Conn) : List (Frame Payload) :=
  (wire.filter fun e => e.1 = c).map Prod.snd

variable [DecidableEq Topic]

/-- The exchange reads the next frame of a connection. -/
def read (names : Payload → List Topic) (s : Linked Topic Payload) (c : Conn) :
    Option (Linked Topic Payload) :=
  match (framesOn s.hub.wire c)[s.handled c]? with
  | none => none
  | some (.subscribe p) =>
    some { s with
      handled := Function.update s.handled c (s.handled c + 1)
      live := Function.update s.live c (s.live c ∪ (names p).toFinset)
      pipe := Function.update s.pipe c (s.pipe c ++ (names p).map .snapshot) }
  | some (.unsubscribe p) =>
    some { s with
      handled := Function.update s.handled c (s.handled c + 1)
      live := Function.update s.live c (s.live c \ (names p).toFinset) }

def publish (s : Linked Topic Payload) (c : Conn) (topic : Topic) :
    Option (Linked Topic Payload) :=
  if topic ∈ s.live c then
    some { s with pipe := Function.update s.pipe c (s.pipe c ++ [.delta topic]) }
  else none

/-- The receive loop takes the next message of its connection. -/
def deliver (cfg : Config Topic Payload (Feed Topic)) (s : Linked Topic Payload) :
    Option (Linked Topic Payload) :=
  match s.hub.task with
  | .receiving c _ =>
    match s.pipe c with
    | [] => none
    | m :: rest => (receive cfg s.hub m).map fun hub =>
      { s with hub := hub, pipe := Function.update s.pipe c rest }
  | _ => none

/-- The hub receives what the exchange sent, so `receive` has no label of its
own. -/
def Event.received : Event Topic Msg → Bool
  | .receive _ => true
  | _ => false

def linkStep (names : Payload → List Topic) (s : Linked Topic Payload) :
    LinkLabel Topic Payload → Option (Linked Topic Payload)
  | .hub label =>
    if label.2.received then none
    else (step label.1 s.hub label.2).map fun hub => { s with hub := hub }
  | .read c => read names s c
  | .publish c topic => publish s c topic
  | .deliver cfg => deliver cfg s

def Linked.initial : Linked Topic Payload :=
  ⟨.initial, fun _ => 0, fun _ => ∅, fun _ => []⟩

def link (names : Payload → List Topic) :
    System (Linked Topic Payload) (LinkLabel Topic Payload) :=
  ⟨.initial, linkStep names⟩

/-- The next message of the topic may be a delta. -/
def midStream (pipe : List (Feed Topic)) (live : Finset Topic) (topic : Topic) : Bool :=
  match pipe.find? fun m => m.topic = topic with
  | some (.delta _) => true
  | some (.snapshot _) => false
  | none => topic ∈ live

/-- The hub routes a message by its topic. -/
def RoutedStep (_ : Linked Topic Payload) : LinkLabel Topic Payload → Prop
  | .deliver cfg => cfg.route = fun m => some m.topic
  | _ => True

/-- A queue is registered while no connection is up or none of the topic's
deltas can be next on it. -/
def joinsAhead (s : Linked Topic Payload) : LinkLabel Topic Payload → Bool
  | .hub (_, .subscribe _ topic) =>
    match s.hub.ws with
    | none => true
    | some c => !midStream (s.pipe c) (s.live c) topic
  | _ => true

def AheadStep (s : Linked Topic Payload) (label : LinkLabel Topic Payload) : Prop :=
  RoutedStep s label ∧ joinsAhead s label = true

/-- A snapshot of the topic from the connection is among the messages. -/
def HasSnapshot (arrived : List (Arrival (Feed Topic))) (c : Conn) (topic : Topic) : Prop :=
  ∃ a ∈ arrived, a.conn = c ∧ a.msg = .snapshot topic

/-- Every delta handed to a queue follows a snapshot of its topic from the same
connection. -/
def SnapshotFirst (arrived : List (Arrival (Feed Topic))) : Prop :=
  ∀ before d after topic, arrived = before ++ d :: after → d.msg = .delta topic →
    HasSnapshot before d.conn topic

section midStream
variable {pipe : List (Feed Topic)} {live : Finset Topic} {topic : Topic}

theorem midStream_snapshots (h : midStream pipe live topic = false) (topics : List Topic) :
    midStream (pipe ++ topics.map .snapshot) (live ∪ topics.toFinset) topic = false := by
  unfold midStream at h ⊢
  rw [List.find?_append]
  cases first : pipe.find? fun m => m.topic = topic with
  | some m =>
    cases m with
    | snapshot _ => rfl
    | delta _ => simp [first] at h
  | none =>
    rw [first] at h
    cases later : (topics.map Feed.snapshot).find? fun m => m.topic = topic with
    | some m =>
      obtain ⟨t, -, rfl⟩ := List.mem_map.mp (List.mem_of_find?_eq_some later)
      rfl
    | none =>
      have absent : topic ∉ topics := fun member => by
        have other := List.find?_eq_none.mp later (.snapshot topic) (List.mem_map_of_mem member)
        simp [Feed.topic] at other
      simpa [absent] using h

theorem midStream_sdiff (h : midStream pipe live topic = false) (gone : Finset Topic) :
    midStream pipe (live \ gone) topic = false := by
  unfold midStream at h ⊢
  cases first : pipe.find? fun m => m.topic = topic with
  | some m =>
    cases m with
    | snapshot _ => rfl
    | delta _ => simp [first] at h
  | none =>
    simp only [first, decide_eq_false_iff_not] at h
    simp [h]

theorem midStream_delta (h : midStream pipe live topic = false) {sent : Topic}
    (served : sent ∈ live) : midStream (pipe ++ [.delta sent]) live topic = false := by
  unfold midStream at h ⊢
  rw [List.find?_append]
  cases first : pipe.find? fun m => m.topic = topic with
  | some m =>
    cases m with
    | snapshot _ => rfl
    | delta _ => simp [first] at h
  | none =>
    simp only [first, decide_eq_false_iff_not] at h
    have differ : sent ≠ topic := fun same => h (same ▸ served)
    simp [Feed.topic, differ, h]

theorem midStream_cons_ne {m : Feed Topic} (differ : m.topic ≠ topic) :
    midStream (m :: pipe) live topic = midStream pipe live topic := by
  simp [midStream, differ]

theorem midStream_cons_delta : midStream (.delta topic :: pipe) live topic = true := by
  simp [midStream, Feed.topic]

end midStream

omit [DecidableEq Topic] in
theorem HasSnapshot.append {arrived : List (Arrival (Feed Topic))} {c : Conn} {topic : Topic}
    (h : HasSnapshot arrived c topic) (later : List (Arrival (Feed Topic))) :
    HasSnapshot (arrived ++ later) c topic := by
  obtain ⟨a, member, found⟩ := h
  exact ⟨a, List.mem_append_left later member, found⟩

omit [DecidableEq Topic] in
/-- Handing on copies of a message whose topic has had its snapshot. -/
theorem SnapshotFirst.append {arrived : List (Arrival (Feed Topic))} (h : SnapshotFirst arrived)
    {m : Arrival (Feed Topic)}
    (ready : ∀ topic, m.msg = .delta topic → HasSnapshot arrived m.conn topic) (n : Nat) :
    SnapshotFirst (arrived ++ List.replicate n m) := by
  intro before d after topic shape isDelta
  rcases List.append_eq_append_iff.mp shape with ⟨extra, rfl, copies⟩ | ⟨extra, old, rest⟩
  · have same : d = m := by
      have member : d ∈ List.replicate n m := by
        rw [copies]
        simp
      exact List.eq_of_mem_replicate member
    subst same
    exact (ready topic isDelta).append extra
  · cases extra with
    | nil =>
      have member : d ∈ List.replicate n m := by
        rw [List.nil_append] at rest
        rw [← rest]
        simp
      rw [List.append_nil] at old
      rw [← old, List.eq_of_mem_replicate member]
      exact ready topic (List.eq_of_mem_replicate member ▸ isDelta)
    | cons x xs =>
      cases rest
      exact h before d xs topic old isDelta

structure Bootstrapped (s : Linked Topic Payload) : Prop where
  fresh : ∀ c, s.hub.nextConn ≤ c → s.pipe c = [] ∧ s.live c = ∅
  ahead : ∀ c, s.hub.ws = some c → ∀ topic, ∀ q ∈ queuesOf s.hub topic,
    HasSnapshot (s.hub.queue q).arrived c topic ∨ midStream (s.pipe c) (s.live c) topic = false
  ordered : ∀ q, SnapshotFirst (s.hub.queue q).arrived

/-- The branches of `linkStep`. -/
inductive LinkStep (names : Payload → List Topic) (s : Linked Topic Payload) :
    LinkLabel Topic Payload → Linked Topic Payload → Prop
  | hub {cfg : Config Topic Payload (Feed Topic)} {ev : Event Topic (Feed Topic)}
      {hub : State Topic Payload (Feed Topic)} (own : ev.received = false)
      (taken : step cfg s.hub ev = some hub) :
      LinkStep names s (.hub (cfg, ev)) { s with hub := hub }
  | answer {c : Conn} {p : Payload} (sent : (c, Frame.subscribe p) ∈ s.hub.wire) :
      LinkStep names s (.read c) { s with
        handled := Function.update s.handled c (s.handled c + 1)
        live := Function.update s.live c (s.live c ∪ (names p).toFinset)
        pipe := Function.update s.pipe c (s.pipe c ++ (names p).map .snapshot) }
  | stop {c : Conn} {p : Payload} (sent : (c, Frame.unsubscribe p) ∈ s.hub.wire) :
      LinkStep names s (.read c) { s with
        handled := Function.update s.handled c (s.handled c + 1)
        live := Function.update s.live c (s.live c \ (names p).toFinset) }
  | publish {c : Conn} {topic : Topic} (served : topic ∈ s.live c) :
      LinkStep names s (.publish c topic)
        { s with pipe := Function.update s.pipe c (s.pipe c ++ [.delta topic]) }
  | deliver {cfg : Config Topic Payload (Feed Topic)} {c : Conn} {stable : Bool} {m : Feed Topic}
      {rest : List (Feed Topic)} {hub : State Topic Payload (Feed Topic)}
      (task : s.hub.task = .receiving c stable) (next : s.pipe c = m :: rest)
      (taken : step cfg s.hub (.receive m) = some hub) :
      LinkStep names s (.deliver cfg)
        { s with hub := hub, pipe := Function.update s.pipe c rest }

omit [DecidableEq Topic] in
theorem mem_wire_of_framesOn {wire : List (Conn × Frame Payload)} {c : Conn} {n : Nat}
    {frame : Frame Payload} (h : (framesOn wire c)[n]? = some frame) : (c, frame) ∈ wire := by
  have member := List.mem_of_getElem? h
  obtain ⟨e, kept, rfl⟩ := List.mem_map.mp member
  obtain ⟨sent, on⟩ := List.mem_filter.mp kept
  have same : e.1 = c := by simpa using on
  exact same ▸ sent

theorem linkStep_cases {names : Payload → List Topic} {s s' : Linked Topic Payload}
    {label : LinkLabel Topic Payload} (h : linkStep names s label = some s') :
    LinkStep names s label s' := by
  cases label with
  | hub label =>
    simp only [linkStep] at h
    split at h
    · cases h
    · rename_i own
      obtain ⟨hub, taken, rfl⟩ := Option.map_eq_some_iff.mp h
      exact .hub (by simpa using own) taken
  | read c =>
    simp only [linkStep, read] at h
    split at h
    · cases h
    · rename_i p next
      cases h
      exact .answer (mem_wire_of_framesOn next)
    · rename_i p next
      cases h
      exact .stop (mem_wire_of_framesOn next)
  | publish c topic =>
    simp only [linkStep, publish] at h
    split at h
    · cases h
      exact .publish ‹_›
    · cases h
  | deliver cfg =>
    simp only [linkStep, deliver] at h
    split at h
    · rename_i c stable task
      split at h
      · cases h
      · rename_i m rest next
        obtain ⟨hub, taken, rfl⟩ := Option.map_eq_some_iff.mp h
        exact .deliver task next taken
    · cases h

/-- The hub's part of a linked run is a run of the hub. -/
theorem hub_reachable {names : Payload → List Topic}
    {allowed : Linked Topic Payload → LinkLabel Topic Payload → Prop} {s : Linked Topic Payload}
    (run : Reachable (link names) allowed s) : Reachable system anyStep s.hub := by
  induction run with
  | init => exact .init
  | @next s s' label _ _ taken before =>
    cases linkStep_cases taken with
    | @hub cfg ev hub own moved => exact .next (a := (cfg, ev)) before trivial moved
    | @deliver cfg c stable m rest hub task next moved =>
      exact .next (a := (cfg, .receive m)) before trivial moved
    | answer | stop | publish => exact before

theorem Bootstrapped.initial : Bootstrapped (Linked.initial : Linked Topic Payload) where
  fresh := fun _ _ => ⟨rfl, rfl⟩
  ahead := fun _ up => by cases up
  ordered := fun _ before _ _ _ shape => by
    cases before <;> cases shape

/-- A step of the hub that is not a receive: no message moves, and a new queue
or a new connection starts ahead of the topic's deltas. -/
theorem Bootstrapped.hub_step {s : Linked Topic Payload} (h : Bootstrapped s)
    {cfg : Config Topic Payload (Feed Topic)} {ev : Event Topic (Feed Topic)}
    {hub : State Topic Payload (Feed Topic)} (own : ev.received = false)
    (ahead : joinsAhead s (.hub (cfg, ev)) = true) (step : Step cfg s.hub ev hub) :
    Bootstrapped { s with hub := hub } := by
  have other : ∀ m, ev ≠ .receive m := by
    rintro m rfl
    cases own
  have arrived := arrived_step step other
  refine ⟨fun c old => h.fresh c (le_trans (nextConn_step step) old), ?_, fun q => ?_⟩
  · intro c up topic q member
    have silent : c = s.hub.nextConn → midStream (s.pipe c) (s.live c) topic = false := by
      intro new
      obtain ⟨noPipe, noLive⟩ := h.fresh c (le_of_eq new.symm)
      simp [midStream, noPipe, noLive]
    rcases ws_step step up with current | new
    · rcases queuesOf_step step member with before | ⟨-, id, rfl⟩
      · exact (h.ahead c current topic q before).imp_left fun found => (arrived q).symm ▸ found
      · exact Or.inr (by simpa [joinsAhead, current] using ahead)
    · exact Or.inr (silent new)
  · rw [arrived q]
    exact h.ordered q

/-- A step of the exchange on a connection in use: it may only add snapshots,
stop topics, or add deltas of a topic it serves. -/
theorem Bootstrapped.exchange_step {s s' : Linked Topic Payload} (h : Bootstrapped s) {c : Conn}
    (used : c < s.hub.nextConn) (hub : s'.hub = s.hub)
    (pipe : ∀ c', c' ≠ c → s'.pipe c' = s.pipe c') (live : ∀ c', c' ≠ c → s'.live c' = s.live c')
    (keeps : ∀ topic, midStream (s.pipe c) (s.live c) topic = false →
      midStream (s'.pipe c) (s'.live c) topic = false) : Bootstrapped s' := by
  refine ⟨fun c' old => ?_, fun c' up topic q member => ?_, hub.symm ▸ h.ordered⟩
  · rw [hub] at old
    have differ : c' ≠ c := by
      rintro rfl
      exact absurd used (Nat.not_lt_of_ge old)
    rw [pipe c' differ, live c' differ]
    exact h.fresh c' old
  · rw [hub] at up member ⊢
    refine (h.ahead c' up topic q member).imp_right fun ready => ?_
    by_cases same : c' = c
    · subst same
      exact keeps topic ready
    · rwa [pipe c' same, live c' same]

/-- The receive loop takes a message: every queue of its topic has it, and a
delta found the snapshot there. -/
theorem Bootstrapped.deliver_step {s : Linked Topic Payload} (h : Bootstrapped s)
    {cfg : Config Topic Payload (Feed Topic)} (routed : cfg.route = fun m => some m.topic)
    {c : Conn} {m : Feed Topic} {rest : List (Feed Topic)}
    (current : s.hub.ws = some c) (used : c < s.hub.nextConn) (next : s.pipe c = m :: rest)
    {hub : State Topic Payload (Feed Topic)} (nextConn : hub.nextConn = s.hub.nextConn)
    (ws : hub.ws = s.hub.ws) (queues : hub.queues = s.hub.queues)
    (queue : hub.queue = delivered cfg s.hub c m) :
    Bootstrapped { s with hub := hub, pipe := Function.update s.pipe c rest } := by
  have arrived : ∀ q, (hub.queue q).arrived = (s.hub.queue q).arrived ++
      List.replicate ((queuesOf s.hub m.topic).count q) ⟨s.hub.received.length, c, m⟩ := by
    intro q
    rw [queue]
    exact arrived_delivered (congrFun routed m) s.hub c q
  have ready : ∀ q ∈ queuesOf s.hub m.topic, ∀ topic, m = .delta topic →
      HasSnapshot (s.hub.queue q).arrived c topic := by
    intro q member topic isDelta
    rw [isDelta] at next member
    refine (h.ahead c current topic q member).resolve_right fun quiet => ?_
    rw [next, midStream_cons_delta] at quiet
    cases quiet
  refine ⟨fun c' old => ?_, fun c' up topic q member => ?_, fun q => ?_⟩
  · have differ : c' ≠ c := by
      rintro rfl
      exact absurd used (Nat.not_lt_of_ge (nextConn ▸ old))
    simpa [Function.update_of_ne differ] using h.fresh c' (nextConn ▸ old)
  · obtain rfl : c = c' := Option.some.inj (current.symm.trans (ws.symm.trans up))
    have registered : q ∈ queuesOf s.hub topic := mem_queuesOf_congr queues member
    simp only [Function.update_self]
    by_cases same : m.topic = topic
    · have listed : q ∈ queuesOf s.hub m.topic := same ▸ registered
      refine Or.inl ?_
      rw [arrived q]
      cases m with
      | snapshot t =>
        refine ⟨_, List.mem_append_right _ (List.mem_replicate.mpr ⟨?_, rfl⟩), rfl, ?_⟩
        · exact (List.count_pos_iff.mpr listed).ne'
        · exact congrArg Feed.snapshot same
      | delta t => exact (ready q listed topic (congrArg Feed.delta same)).append _
    · refine (h.ahead c current topic q registered).imp (fun found => ?_) fun quiet => ?_
      · rw [arrived q]
        exact found.append _
      · rwa [next, midStream_cons_ne same] at quiet
  · change SnapshotFirst (hub.queue q).arrived
    rw [arrived q]
    by_cases listed : q ∈ queuesOf s.hub m.topic
    · exact (h.ordered q).append (ready q listed) _
    · rw [List.count_eq_zero.mpr listed]
      simpa using h.ordered q

theorem bootstrapped_reachable {names : Payload → List Topic} {s : Linked Topic Payload}
    (run : Reachable (link names) AheadStep s) : Bootstrapped s := by
  refine run.invariant .initial fun s label s' before h permitted moves => ?_
  have numbered := numbered_reachable (hub_reachable before)
  have wiring := wiring_reachable (hub_reachable before)
  cases linkStep_cases moves with
  | hub own moved => exact h.hub_step own permitted.2 (step_cases moved)
  | @answer c p sent =>
    refine h.exchange_step (numbered.wire _ sent) rfl (fun c' differ => ?_) (fun c' differ => ?_)
      fun topic quiet => ?_
    · exact Function.update_of_ne differ _ _
    · exact Function.update_of_ne differ _ _
    · simpa using midStream_snapshots quiet (names p)
  | @stop c p sent =>
    refine h.exchange_step (numbered.wire _ sent) rfl (fun _ _ => rfl) (fun c' differ => ?_)
      fun topic quiet => ?_
    · exact Function.update_of_ne differ _ _
    · simpa using midStream_sdiff quiet (names p).toFinset
  | @publish c topic served =>
    have used : c < s.hub.nextConn := by
      by_contra unused
      rw [(h.fresh c (Nat.le_of_not_lt unused)).2] at served
      cases served
    refine h.exchange_step used rfl (fun c' differ => ?_) (fun _ _ => rfl) fun t quiet => ?_
    · exact Function.update_of_ne differ _ _
    · simpa using midStream_delta quiet served
  | @deliver cfg c stable m rest hub task next moved =>
    have current : s.hub.ws = some c := by
      have phase := wiring.phase
      unfold Phase at phase
      rw [task] at phase
      exact phase.1
    cases step_cases moved with
    | receive taken =>
      rw [task] at taken
      cases taken
      exact h.deliver_step permitted.1 current (numbered.current c current) next rfl rfl rfl rfl

/-- Every delta handed to a queue comes after a snapshot from the same
connection, if no consumer joined its topic in mid-stream. -/
theorem snapshot_before_delta {names : Payload → List Topic} {s : Linked Topic Payload}
    (run : Reachable (link names) AheadStep s) {q : QueueId} {topic : Topic}
    {before after : List (Arrival (Feed Topic))} {d : Arrival (Feed Topic)}
    (handed : (s.hub.queue q).arrived = before ++ d :: after) (delta : d.msg = .delta topic) :
    ∃ a ∈ before, a.conn = d.conn ∧ a.msg = .snapshot topic :=
  (bootstrapped_reachable run).ordered q before d after topic handed delta

def feedHub : Config Nat (List Nat) (Feed Nat) := joint (fun m => some m.topic) 1024

/-- A consumer subscribes a topic and is handed its snapshot. -/
def firstConsumer : List (LinkLabel Nat (List Nat)) :=
  [.hub (feedHub, .subscribe 0 7), .hub (feedHub, .connect true), .read 0,
    .hub (feedHub, .resubscribed true), .hub (feedHub, .wake 0), .hub (feedHub, .resume 0 true),
    .deliver feedHub]

def firstConsumerRun : List (LinkLabel Nat (List Nat)) :=
  firstConsumer ++ [.publish 0 7, .deliver feedHub]

theorem firstConsumerRun_ends : (link id).endsIn joinsAhead firstConsumerRun
    (fun s => (s.hub.queue 0).arrived = [⟨0, 0, .snapshot 7⟩, ⟨1, 0, .delta 7⟩]) = true := by
  decide +kernel

theorem routed_feedHub {labels : List (LinkLabel Nat (List Nat))}
    (only : ∀ label ∈ labels, ∀ cfg, label = .deliver cfg → cfg = feedHub)
    (s : Linked Nat (List Nat)) {label : LinkLabel Nat (List Nat)} (member : label ∈ labels) :
    RoutedStep s label := by
  cases label with
  | deliver cfg =>
    rw [only _ member cfg rfl]
    rfl
  | hub | read | publish => trivial

theorem snapshot_before_delta_first : ∃ s : Linked Nat (List Nat),
    Reachable (link id) AheadStep s ∧ (s.hub.queue 0).arrived.length = 2 ∧
      ∃ a ∈ (s.hub.queue 0).arrived, a.msg = .snapshot 7 := by
  have permitted : ∀ s, ∀ label ∈ firstConsumerRun, joinsAhead s label = true → AheadStep s label :=
    fun s label member ahead =>
      ⟨routed_feedHub (by simp [firstConsumerRun, firstConsumer]) s member, ahead⟩
  obtain ⟨s, run, ends⟩ := System.exists_reachable permitted firstConsumerRun_ends
  have arrived : (s.hub.queue 0).arrived = [⟨0, 0, .snapshot 7⟩] ++ ⟨1, 0, .delta 7⟩ :: [] :=
    of_decide_eq_true ends
  obtain ⟨a, member, -, isSnapshot⟩ := snapshot_before_delta run arrived rfl
  exact ⟨s, run, by simp [arrived], a, by simp [arrived, List.mem_singleton.mp member], isSnapshot⟩

/-- A second consumer joins the topic, then a delta arrives. -/
def secondConsumerRun : List (LinkLabel Nat (List Nat)) :=
  firstConsumer ++ [.hub (feedHub, .subscribe 1 7), .publish 0 7, .deliver feedHub]

theorem secondConsumerRun_ends : (link id).endsIn (fun _ _ => true) secondConsumerRun
    (fun s => s.hub.calls.get? 1 = some (.returned 7 1) &&
      (s.hub.queue 1).arrived = [⟨1, 0, .delta 7⟩]) = true := by decide +kernel

/-- A queue that `subscribe` returned is handed a delta and no snapshot. -/
theorem delta_without_snapshot : ∃ s : Linked Nat (List Nat), Reachable (link id) RoutedStep s ∧
    s.hub.calls.get? 1 = some (.returned 7 1) ∧
      ¬ ∀ before d after topic, (s.hub.queue 1).arrived = before ++ d :: after →
        d.msg = .delta topic → ∃ a ∈ before, a.conn = d.conn ∧ a.msg = .snapshot topic := by
  have permitted : ∀ s, ∀ label ∈ secondConsumerRun, true = true → RoutedStep s label :=
    fun s label member _ => routed_feedHub (by simp [secondConsumerRun, firstConsumer]) s member
  obtain ⟨s, run, ends⟩ := System.exists_reachable permitted secondConsumerRun_ends
  simp only [Bool.and_eq_true, decide_eq_true_eq] at ends
  refine ⟨s, run, ends.1, fun always => ?_⟩
  obtain ⟨a, member, -⟩ := always [] ⟨1, 0, .delta 7⟩ [] 7 ends.2 rfl
  cases member

end ExchangeRouter.StreamHub
