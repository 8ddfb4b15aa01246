import ExchangeRouter.Lib.Stream
import ExchangeRouter.StreamHub.Consumers
import ExchangeRouter.StreamHub.Freshness
import ExchangeRouter.StreamManager.Delivery

/-!
# From the frames of the exchanges to the clients

An `_upstream_handler` of `src/stream_manager.py` iterates a `stream_*` generator
of an adapter, which iterates the adapter's `_ws_connect`, which reads one queue
of a `StreamHub`.  A run interleaves the steps of all hubs, of the manager and of
the generators of its handlers.

The id of a generator's `subscribe` call is the id of its handler.  A generator
runs only while its handler waits for an item: it takes a message off its queue
once everything that the message before made it yield is handed over.
-/
namespace ExchangeRouter.Streams
open Lib StreamHub StreamManager

/-- A generator with its local variables, `none` once it has returned, and what it has still
to yield of the message it took last. -/
structure Consumer (Hub Msg Item σ : Type) where
  hub : Hub
  generator : Stream σ Msg Item
  locals : Option σ
  ready : List Item

structure State (Hub Topic Payload Msg Key Socket Item σ : Type) where
  hubs : Hub → Watched Topic Payload Msg
  manager : StreamManager.State Key Socket Item
  consumers : Dict HandlerId (Consumer Hub Msg Item σ)

inductive Event (Hub Topic Payload Msg Key Socket Item σ : Type)
  | hub (i : Hub) (label : Label Topic Payload Msg)
  | manager (ev : StreamManager.Event Key Socket Item)
  | subscribe (h : HandlerId) (i : Hub) (cfg : Config Topic Payload Msg) (topic : Topic)
      (generator : Stream σ Msg Item)
  | read (h : HandlerId) (cfg : Config Topic Payload Msg)
  | yield (h : HandlerId)

variable {Hub Topic Payload Msg Key Socket Item σ : Type}

def State.initial : State Hub Topic Payload Msg Key Socket Item σ :=
  ⟨fun _ => ⟨.initial, [], fun _ => none⟩, .initial, .empty⟩

/-- The steps of a hub that only a generator takes. -/
def ofConsumer : StreamHub.Event Topic Msg → Bool
  | .subscribe .. | .get _ => true
  | _ => false

/-- The steps of the manager that hand over an item. -/
def ofItem : StreamManager.Event Key Socket Item → Bool
  | .item .. => true
  | _ => false

/-- The handler waits in `async for item in stream`. -/
def awaitsItem (s : StreamManager.State Key Socket Item) (h : HandlerId) : Bool :=
  match s.handlers.get? h with
  | some handler =>
    match handler.pc with
    | .receiving => !handler.cancelled
    | _ => false
  | none => false

variable [DecidableEq Hub] [DecidableEq Topic]

def hubStep (s : State Hub Topic Payload Msg Key Socket Item σ) (i : Hub)
    (label : Label Topic Payload Msg) : Option (State Hub Topic Payload Msg Key Socket Item σ) :=
  (watchedStep (s.hubs i) label).map fun w => { s with hubs := Function.update s.hubs i w }

/-- The generator is started and calls `hub.subscribe`. -/
def subscribe (s : State Hub Topic Payload Msg Key Socket Item σ) (h : HandlerId) (i : Hub)
    (cfg : Config Topic Payload Msg) (topic : Topic) (generator : Stream σ Msg Item) :
    Option (State Hub Topic Payload Msg Key Socket Item σ) :=
  match s.consumers.get? h with
  | some _ => none
  | none =>
    if awaitsItem s.manager h then
      (hubStep s i (cfg, .subscribe h topic)).map fun s =>
        { s with consumers := s.consumers.set h ⟨i, generator, some generator.init, []⟩ }
    else none

/-- `msg = await q.get()`, and what the generator does with the message. -/
def read (s : State Hub Topic Payload Msg Key Socket Item σ) (h : HandlerId)
    (cfg : Config Topic Payload Msg) : Option (State Hub Topic Payload Msg Key Socket Item σ) :=
  match s.consumers.get? h with
  | none => none
  | some consumer =>
    match consumer.locals, consumer.ready, (s.hubs consumer.hub).hub.calls.get? h with
    | some locals, [], some (.returned _ q) =>
      match ((s.hubs consumer.hub).hub.queue q).items with
      | [] => none
      | m :: _ =>
        if awaitsItem s.manager h then
          (hubStep s consumer.hub (cfg, .get q)).map fun s =>
            { s with consumers := s.consumers.set h { consumer with
                locals := (consumer.generator.step locals m.msg).2
                ready := (consumer.generator.step locals m.msg).1 } }
        else none
    | _, _, _ => none

variable [DecidableEq Key]

/-- The generator yields and the handler has the item. -/
def yield (s : State Hub Topic Payload Msg Key Socket Item σ) (h : HandlerId) :
    Option (State Hub Topic Payload Msg Key Socket Item σ) :=
  match s.consumers.get? h with
  | none => none
  | some consumer =>
    match consumer.ready with
    | [] => none
    | x :: rest =>
      (StreamManager.item s.manager h x).map fun manager =>
        { s with
          manager
          consumers := s.consumers.set h { consumer with ready := rest } }

def step (s : State Hub Topic Payload Msg Key Socket Item σ) :
    Event Hub Topic Payload Msg Key Socket Item σ → Option (State Hub Topic Payload Msg Key Socket Item σ)
  | .hub i label => if ofConsumer label.2 then none else hubStep s i label
  | .manager ev =>
    if ofItem ev then none
    else (StreamManager.step s.manager ev).map fun manager => { s with manager }
  | .subscribe h i cfg topic generator => subscribe s h i cfg topic generator
  | .read h cfg => read s h cfg
  | .yield h => yield s h

def system : System (State Hub Topic Payload Msg Key Socket Item σ)
    (Event Hub Topic Payload Msg Key Socket Item σ) := ⟨.initial, step⟩

/-- Each hub has its queue size, a consumer gives back its own queue, and a generator is one
that the adapters open for the handler's key, on the hub and topic that it is opened on. -/
def Opened (maxsize : Hub → ℕ) (opens : Key → Hub → Topic → Stream σ Msg Item → Prop)
    (s : State Hub Topic Payload Msg Key Socket Item σ) :
    Event Hub Topic Payload Msg Key Socket Item σ → Prop
  | .hub i label => label.1.queueSize = maxsize i ∧ ownQueue (s.hubs i).hub label.2 = true
  | .manager _ => True
  | .subscribe h i cfg topic generator => cfg.queueSize = maxsize i ∧
      ∀ handler, s.manager.handlers.get? h = some handler → opens handler.key i topic generator
  | .read h cfg => ∀ consumer, s.consumers.get? h = some consumer →
      cfg.queueSize = maxsize consumer.hub
  | .yield _ => True

/-- What one step does. -/
inductive Step (s : State Hub Topic Payload Msg Key Socket Item σ) :
    Event Hub Topic Payload Msg Key Socket Item σ → State Hub Topic Payload Msg Key Socket Item σ → Prop
  | hub {i : Hub} {label : Label Topic Payload Msg} {w : Watched Topic Payload Msg}
      (notOwn : ofConsumer label.2 = false) (moved : watchedStep (s.hubs i) label = some w) :
      Step s (.hub i label) { s with hubs := Function.update s.hubs i w }
  | manager {ev : StreamManager.Event Key Socket Item} {m : StreamManager.State Key Socket Item}
      (notItem : ofItem ev = false) (moved : StreamManager.step s.manager ev = some m) :
      Step s (.manager ev) { s with manager := m }
  | subscribe {h : HandlerId} {i : Hub} {cfg : Config Topic Payload Msg} {topic : Topic}
      {generator : Stream σ Msg Item} {w : Watched Topic Payload Msg}
      (fresh : s.consumers.get? h = none) (awaits : awaitsItem s.manager h = true)
      (moved : watchedStep (s.hubs i) (cfg, .subscribe h topic) = some w) :
      Step s (.subscribe h i cfg topic generator)
        { s with
          hubs := Function.update s.hubs i w
          consumers := s.consumers.set h ⟨i, generator, some generator.init, []⟩ }
  | read {h : HandlerId} {cfg : Config Topic Payload Msg} {consumer : Consumer Hub Msg Item σ}
      {locals : σ} {topic : Topic} {q : QueueId} {m : Arrival Msg} {rest : List (Arrival Msg)}
      {w : Watched Topic Payload Msg} (found : s.consumers.get? h = some consumer)
      (running : consumer.locals = some locals) (drained : consumer.ready = [])
      (awaits : awaitsItem s.manager h = true)
      (call : (s.hubs consumer.hub).hub.calls.get? h = some (.returned topic q))
      (items : ((s.hubs consumer.hub).hub.queue q).items = m :: rest)
      (moved : watchedStep (s.hubs consumer.hub) (cfg, .get q) = some w) :
      Step s (.read h cfg)
        { s with
          hubs := Function.update s.hubs consumer.hub w
          consumers := s.consumers.set h { consumer with
            locals := (consumer.generator.step locals m.msg).2
            ready := (consumer.generator.step locals m.msg).1 } }
  | yield {h : HandlerId} {consumer : Consumer Hub Msg Item σ} {x : Item} {rest : List Item}
      {m : StreamManager.State Key Socket Item} (found : s.consumers.get? h = some consumer)
      (ready : consumer.ready = x :: rest)
      (moved : StreamManager.step s.manager (.item h x) = some m) :
      Step s (.yield h)
        { s with manager := m, consumers := s.consumers.set h { consumer with ready := rest } }

theorem step_cases {s s' : State Hub Topic Payload Msg Key Socket Item σ}
    {ev : Event Hub Topic Payload Msg Key Socket Item σ} (taken : step s ev = some s') :
    Step s ev s' := by
  cases ev with
  | hub i label =>
    simp only [step] at taken
    split at taken
    · cases taken
    · rename_i notOwn
      obtain ⟨w, moved, rfl⟩ := Option.map_eq_some_iff.mp taken
      exact .hub (Bool.eq_false_iff.mpr notOwn) moved
  | manager ev =>
    simp only [step] at taken
    split at taken
    · cases taken
    · rename_i notItem
      obtain ⟨m, moved, rfl⟩ := Option.map_eq_some_iff.mp taken
      exact .manager (Bool.eq_false_iff.mpr notItem) moved
  | subscribe h i cfg topic generator =>
    simp only [step, subscribe] at taken
    split at taken
    · cases taken
    · rename_i fresh
      split at taken
      · rename_i awaits
        obtain ⟨mid, opened, rfl⟩ := Option.map_eq_some_iff.mp taken
        obtain ⟨w, moved, rfl⟩ := Option.map_eq_some_iff.mp opened
        exact .subscribe fresh awaits moved
      · cases taken
  | read h cfg =>
    simp only [step, read] at taken
    split at taken
    · cases taken
    · rename_i consumer found
      split at taken
      · rename_i locals topic q running drained call
        split at taken
        · cases taken
        · rename_i m rest items
          split at taken
          · rename_i awaits
            obtain ⟨mid, got, rfl⟩ := Option.map_eq_some_iff.mp taken
            obtain ⟨w, moved, rfl⟩ := Option.map_eq_some_iff.mp got
            exact .read found running drained awaits call items moved
          · cases taken
      · cases taken
  | yield h =>
    simp only [step, yield] at taken
    split at taken
    · cases taken
    · rename_i consumer found
      split at taken
      · cases taken
      · rename_i x rest ready
        obtain ⟨m, moved, rfl⟩ := Option.map_eq_some_iff.mp taken
        exact .yield found ready moved

/-! ## The parts of a run -/

variable {maxsize : Hub → ℕ} {opens : Key → Hub → Topic → Stream σ Msg Item → Prop}

/-- The manager of a run makes a run of its own. -/
theorem manager_reachable {s : State Hub Topic Payload Msg Key Socket Item σ}
    (run : Reachable system (Opened maxsize opens) s) :
    Reachable StreamManager.system anyStep s.manager := by
  induction run with
  | init => exact .init
  | @next s s' ev _ _ taken ih =>
    cases step_cases taken with
    | hub | subscribe | read => exact ih
    | @manager ev m _ moved =>
      have taken' : StreamManager.system.step s.manager ev = some m := moved
      exact .next ih trivial taken'
    | @yield h consumer x rest m _ _ moved =>
      have taken' : StreamManager.system.step s.manager (.item h x) = some m := moved
      exact .next ih trivial taken'

/-- So does each hub. -/
theorem hub_reachable {s : State Hub Topic Payload Msg Key Socket Item σ}
    (run : Reachable system (Opened maxsize opens) s) (i : Hub) :
    Reachable watched (Sized (maxsize i)) (s.hubs i) := by
  have other : ∀ (hubs : Hub → Watched Topic Payload Msg) (j : Hub) (label) (w),
      Reachable watched (Sized (maxsize i)) (hubs i) → label.1.queueSize = maxsize j →
      watchedStep (hubs j) label = some w →
      Reachable watched (Sized (maxsize i)) (Function.update hubs j w i) := by
    intro hubs j label w before sized moved
    by_cases same : i = j
    · subst same
      rw [Function.update_self]
      exact .next before sized moved
    · rwa [Function.update_of_ne same]
  induction run with
  | init => exact .init
  | next _ permitted taken ih =>
    cases step_cases taken with
    | manager | yield => exact ih
    | hub _ moved => exact other _ _ _ _ ih permitted.1 moved
    | subscribe _ _ moved => exact other _ _ _ _ ih permitted.1 moved
    | read found _ _ _ _ _ moved => exact other _ _ _ _ ih (permitted _ found) moved

end ExchangeRouter.Streams
