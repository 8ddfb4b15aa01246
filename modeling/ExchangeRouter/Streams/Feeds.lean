import ExchangeRouter.Streams.Model

/-!
# What a client is sent

A client is sent a contiguous part of what one generator makes of the messages
that it took off its queue, and these are messages of its topic, in order and
without repetition.  The invariant ties three logs together: the messages taken
off the queue, the outputs of the generator, and what its handler was handed.
-/
namespace ExchangeRouter.Streams
open Lib StreamHub StreamManager

variable {Hub Topic Payload Msg Key Socket Item σ : Type}

/-! ## The queue of a call -/

/-- Each call of a hub has a queue of its own, which joined the topic of the call. -/
structure OwnQueues (w : Watched Topic Payload Msg) : Prop where
  unique : ∀ id₁ id₂ call₁ call₂, w.hub.calls.get? id₁ = some call₁ →
    w.hub.calls.get? id₂ = some call₂ → call₁.queue = call₂.queue → id₁ = id₂
  fresh : ∀ id call, w.hub.calls.get? id = some call → call.queue < w.hub.nextQueue
  joined : ∀ id call, w.hub.calls.get? id = some call →
    ∃ since, w.joined call.queue = some (call.topic, since)

section Hub
variable [DecidableEq Topic] {cfg : Config Topic Payload Msg} {w w' : Watched Topic Payload Msg}
  {label : Label Topic Payload Msg}

/-- A call keeps its topic and its queue. -/
theorem call_kept {s s' : StreamHub.State Topic Payload Msg} {ev : StreamHub.Event Topic Msg}
    (own : ownQueue s ev = true) (step : StreamHub.Step cfg s ev s') {id : CallId}
    {call : Call Topic Payload} (found : s.calls.get? id = some call) :
    ∃ call', s'.calls.get? id = some call' ∧ call'.topic = call.topic ∧
      call'.queue = call.queue := by
  obtain ⟨call', found', topic⟩ := keepsTopics_step own step id call found
  refine ⟨call', found', topic, ?_⟩
  rcases callFrom_step own step found' with ⟨before, at', queue, -⟩ | ⟨-, -, topic', is⟩
  · rw [found] at at'
    cases at'
    exact queue.symm
  · subst is
    cases step with
    | subscribeNew fresh | subscribeJoin fresh =>
      rw [found] at fresh
      cases fresh

omit [DecidableEq Topic] in
theorem OwnQueues.initial :
    OwnQueues (⟨.initial, [], fun _ => none⟩ : Watched Topic Payload Msg) where
  unique := fun _ _ _ _ found _ _ => by simp [StreamHub.State.initial] at found
  fresh := fun _ _ found => by simp [StreamHub.State.initial] at found
  joined := fun _ _ found => by simp [StreamHub.State.initial] at found

theorem OwnQueues.step (queues : OwnQueues w) (own : ownQueue w.hub label.2 = true)
    (moved : watchedStep w label = some w') : OwnQueues w' := by
  obtain ⟨s', taken, rfl⟩ := Option.map_eq_some_iff.mp moved
  have branch := StreamHub.step_cases taken
  have older : ∀ id call, w.hub.calls.get? id = some call →
      joinedBy w label.2 call.queue = w.joined call.queue := by
    intro id call found
    rcases Tracked.joinedBy_cases w label.2 call.queue with same | ⟨new, -⟩
    · exact same
    · exact absurd (queues.fresh id call found) (new ▸ Nat.lt_irrefl _)
  constructor
  · intro id₁ id₂ call₁ call₂ found₁ found₂ same
    rcases callFrom_step own branch found₁ with ⟨b₁, before₁, kept₁, -⟩ | ⟨new₁, -, t₁, is₁⟩
    · rcases callFrom_step own branch found₂ with ⟨b₂, before₂, kept₂, -⟩ | ⟨new₂, -, -⟩
      · exact queues.unique id₁ id₂ b₁ b₂ before₁ before₂ (by rw [kept₁, kept₂, same])
      · have below := queues.fresh id₁ b₁ before₁
        rw [kept₁, same, new₂] at below
        exact absurd below (Nat.lt_irrefl _)
    · rcases callFrom_step own branch found₂ with ⟨b₂, before₂, kept₂, -⟩ | ⟨-, -, t₂, is₂⟩
      · have below := queues.fresh id₂ b₂ before₂
        rw [kept₂, ← same, new₁] at below
        exact absurd below (Nat.lt_irrefl _)
      · cases is₁.symm.trans is₂
        rfl
  · intro id call found
    rcases callFrom_step own branch found with ⟨before, at', kept, counter⟩ | ⟨new, counter, -⟩
    · exact kept ▸ lt_of_lt_of_le (queues.fresh id before at') counter
    · exact new ▸ counter
  · intro id call found
    rcases callFrom_step own branch found with ⟨before, at', kept, -⟩ | ⟨new, -, topic, is⟩
    · obtain ⟨call', found', sameTopic, sameQueue⟩ := call_kept own branch at'
      cases found.symm.trans found'
      obtain ⟨since, joined⟩ := queues.joined id before at'
      refine ⟨since, ?_⟩
      rw [sameTopic, ← joined, sameQueue]
      exact older id before at'
    · rw [is] at taken
      obtain ⟨call', found', sameTopic⟩ := subscribe_call taken
      cases found.symm.trans found'
      refine ⟨w.routed.length, ?_⟩
      rw [new, is, sameTopic]
      exact Function.update_self (f := w.joined) _ _

/-- A queue is taken from by `get` only. -/
theorem taken_kept {s s' : StreamHub.State Topic Payload Msg} {ev : StreamHub.Event Topic Msg}
    (kept : ∀ q, Kept (s.queue q)) (step : StreamHub.Step cfg s ev s') {q : QueueId}
    (other : ev ≠ .get q) : (s'.queue q).taken = (s.queue q).taken := by
  rcases queue_step step with ⟨same, -⟩ | ⟨c, m, -, delivered, -⟩ | ⟨x, m, rest, is, -, -, got, -⟩
  · rw [same]
  · rw [delivered]
    exact (kept_delivered kept cfg c m q).2
  · rw [got, Function.update_of_ne]
    intro same
    exact other (same ▸ is)

theorem taken_get {s s' : StreamHub.State Topic Payload Msg} {q : QueueId} {m : Arrival Msg}
    {rest : List (Arrival Msg)} (step : StreamHub.Step cfg s (.get q) s')
    (items : (s.queue q).items = m :: rest) : (s'.queue q).taken = (s.queue q).taken ++ [m] := by
  cases step with
  | get items' =>
    cases items.symm.trans items'
    simp

theorem kept_of_tracked {maxsize : ℕ} (tracked : Tracked maxsize w) (q : QueueId) :
    Kept (w.hub.queue q) := by
  obtain ⟨dropped, account, -⟩ := (tracked.bounded q).account
  exact account.kept

end Hub

/-! ## The feed of a handler -/

section Manager
variable [DecidableEq Key] {s s' : StreamManager.State Key Socket Item}
  {ev : StreamManager.Event Key Socket Item} {h : HandlerId} {handler : Handler Key Socket Item}

theorem handler_kept (tasks : Tasks s) (step : StreamManager.Step s ev s')
    (other : ∀ x, ev ≠ .item h x) (found : s.handlers.get? h = some handler) :
    ∃ moved, s'.handlers.get? h = some moved ∧ moved.key = handler.key ∧
      moved.yielded = handler.yielded := by
  obtain ⟨moved, now⟩ := handlers_kept step found
  refine ⟨moved, now, ?_⟩
  rcases handlers_step tasks step now with ⟨absent, -⟩ | ⟨before, at', move⟩
  · rw [found] at absent
    cases absent
  · rw [found] at at'
    cases at'
    refine ⟨move.key, ?_⟩
    cases move with
    | item => exact absurd rfl (other _)
    | stop key yielded stopped => exact yielded
    | stay | cancel | begin | gathered | attempt | settle => rfl

/-- A handler that is there after a step was there before it, or is new. -/
theorem handler_from (tasks : Tasks s) (step : StreamManager.Step s ev s')
    (found : s'.handlers.get? h = some handler) :
    (s.handlers.get? h = none ∧ handler.yielded = []) ∨
      ∃ before, s.handlers.get? h = some before := by
  rcases handlers_step tasks step found with ⟨absent, -, nothing⟩ | ⟨before, at', -⟩
  · exact .inl ⟨absent, nothing⟩
  · exact .inr ⟨before, at'⟩

theorem handler_item {x : Item} (step : StreamManager.Step s (.item h x) s')
    (found : s.handlers.get? h = some handler) :
    ∃ moved, s'.handlers.get? h = some moved ∧ moved.key = handler.key ∧
      moved.yielded = handler.yielded ++ [x] := by
  cases step with
  | item at' =>
    rw [found] at at'
    cases at'
    exact ⟨_, Dict.get?_set_self _ _ _, rfl, rfl⟩
  | itemGone at' =>
    rw [found] at at'
    cases at'
    obtain ⟨pc, -, handlers⟩ := finalize_handlers s h (handler.yields x)
    rw [handlers]
    exact ⟨_, Dict.get?_set_self _ _ _, rfl, rfl⟩

end Manager

/-! ## The invariant -/

/-- The messages that were taken off a queue. -/
def messagesTaken (w : Watched Topic Payload Msg) (q : QueueId) : List Msg :=
  (w.hub.queue q).taken.map Arrival.msg

/-- What a generator makes of some messages. -/
def outputs (generator : Stream σ Msg Item) (messages : List Msg) : List Item :=
  (generator.yields generator.init messages).map Prod.snd

/-- The messages taken, the local variables of the generator, and what was handed over. -/
structure Reading (opens : Key → Hub → Topic → Stream σ Msg Item → Prop)
    (hubs : Hub → Watched Topic Payload Msg) (manager : StreamManager.State Key Socket Item)
    (h : HandlerId) (consumer : Consumer Hub Msg Item σ) (handler : Handler Key Socket Item)
    (call : Call Topic Payload) : Prop where
  registered : manager.handlers.get? h = some handler
  called : (hubs consumer.hub).hub.calls.get? h = some call
  opened : opens handler.key consumer.hub call.topic consumer.generator
  locals : consumer.generator.after consumer.generator.init
    (messagesTaken (hubs consumer.hub) call.queue) = consumer.locals
  yields : outputs consumer.generator (messagesTaken (hubs consumer.hub) call.queue) =
    handler.yielded ++ consumer.ready

structure Fed (opens : Key → Hub → Topic → Stream σ Msg Item → Prop)
    (s : State Hub Topic Payload Msg Key Socket Item σ) : Prop where
  queues : ∀ i, OwnQueues (s.hubs i)
  reading : ∀ h consumer, s.consumers.get? h = some consumer →
    ∃ handler call, Reading opens s.hubs s.manager h consumer handler call
  unread : ∀ h handler, s.manager.handlers.get? h = some handler → s.consumers.get? h = none →
    handler.yielded = []

section Steps
variable {opens : Key → Hub → Topic → Stream σ Msg Item → Prop}
  {hubs : Hub → Watched Topic Payload Msg} {manager m : StreamManager.State Key Socket Item}
  {h : HandlerId} {consumer : Consumer Hub Msg Item σ} {handler : Handler Key Socket Item}
  {call : Call Topic Payload} {i : Hub} {w : Watched Topic Payload Msg}
  {label : Label Topic Payload Msg}

section Hub
variable [DecidableEq Hub] [DecidableEq Topic]

/-- A hub moves without taking a message off this queue. -/
theorem Reading.hub (reading : Reading opens hubs manager h consumer handler call)
    (kept : ∀ q, Kept ((hubs i).hub.queue q)) (own : ownQueue (hubs i).hub label.2 = true)
    (moved : watchedStep (hubs i) label = some w)
    (other : consumer.hub = i → label.2 ≠ .get call.queue) :
    ∃ call', Reading opens (Function.update hubs i w) manager h consumer handler call' := by
  by_cases same : consumer.hub = i
  · subst same
    obtain ⟨s', taken, rfl⟩ := Option.map_eq_some_iff.mp moved
    have branch := StreamHub.step_cases taken
    obtain ⟨call', found, topic, queue⟩ := call_kept own branch reading.called
    have still := taken_kept kept branch (other rfl)
    refine ⟨call', reading.registered, ?_, topic ▸ reading.opened, ?_, ?_⟩
    · rw [Function.update_self]
      exact found
    · rw [Function.update_self, ← reading.locals, messagesTaken, messagesTaken, queue, still]
    · rw [Function.update_self, ← reading.yields, messagesTaken, messagesTaken, queue, still]
  · refine ⟨call, reading.registered, ?_, reading.opened, ?_, ?_⟩
    · rw [Function.update_of_ne same]
      exact reading.called
    · rw [Function.update_of_ne same]
      exact reading.locals
    · rw [Function.update_of_ne same]
      exact reading.yields

/-- The generator takes the next message off its queue. -/
theorem Reading.read {cfg : Config Topic Payload Msg} {locals : σ} {a : Arrival Msg}
    {rest : List (Arrival Msg)} (reading : Reading opens hubs manager h consumer handler call)
    (running : consumer.locals = some locals) (drained : consumer.ready = [])
    (items : ((hubs consumer.hub).hub.queue call.queue).items = a :: rest)
    (moved : watchedStep (hubs consumer.hub) (cfg, .get call.queue) = some w) :
    ∃ call', Reading opens (Function.update hubs consumer.hub w) manager h { consumer with
      locals := (consumer.generator.step locals a.msg).2
      ready := (consumer.generator.step locals a.msg).1 } handler call' := by
  obtain ⟨s', taken, rfl⟩ := Option.map_eq_some_iff.mp moved
  have branch := StreamHub.step_cases taken
  obtain ⟨call', found, topic, queue⟩ := call_kept rfl branch reading.called
  have more := taken_get branch items
  have reached := reading.locals.trans running
  have yields := reading.yields
  rw [outputs, drained, List.append_nil] at yields
  refine ⟨call', reading.registered, ?_, topic ▸ reading.opened, ?_, ?_⟩
  · rw [Function.update_self]
    exact found
  · rw [Function.update_self, messagesTaken, queue, more, List.map_append, List.map_singleton,
      Stream.after_concat]
    rw [messagesTaken] at reached
    rw [reached, Option.bind_some]
  · rw [Function.update_self, messagesTaken, queue, more, List.map_append, List.map_singleton,
      outputs]
    rw [messagesTaken] at reached yields
    rw [Stream.yields_concat _ reached, List.map_append, yields]
    simp [Function.comp_def]

end Hub

section Manager
variable [DecidableEq Key]

/-- The manager moves without taking an item of this generator. -/
theorem Reading.managed {ev : StreamManager.Event Key Socket Item}
    (reading : Reading opens hubs manager h consumer handler call) (tasks : Tasks manager)
    (step : StreamManager.Step manager ev m) (other : ∀ x, ev ≠ .item h x) :
    ∃ moved, Reading opens hubs m h consumer moved call := by
  obtain ⟨moved, found, key, yielded⟩ := handler_kept tasks step other reading.registered
  exact ⟨moved, found, reading.called, key ▸ reading.opened, reading.locals,
    yielded ▸ reading.yields⟩

/-- The generator yields. -/
theorem Reading.yield {x : Item} {rest : List Item}
    (reading : Reading opens hubs manager h consumer handler call)
    (ready : consumer.ready = x :: rest) (step : StreamManager.Step manager (.item h x) m) :
    ∃ moved, Reading opens hubs m h { consumer with ready := rest } moved call := by
  obtain ⟨moved, found, key, yielded⟩ := handler_item step reading.registered
  refine ⟨moved, found, reading.called, key ▸ reading.opened, reading.locals, ?_⟩
  have yields := reading.yields
  rwa [ready, ← List.singleton_append, ← List.append_assoc, ← yielded] at yields

end Manager

variable [DecidableEq Hub] [DecidableEq Topic] [DecidableEq Key] {maxsize : Hub → ℕ}
  {s s' : State Hub Topic Payload Msg Key Socket Item σ}
  {ev : Event Hub Topic Payload Msg Key Socket Item σ}

omit [DecidableEq Hub] [DecidableEq Topic] [DecidableEq Key] in
theorem exists_handler (awaits : awaitsItem manager h = true) :
    ∃ handler, manager.handlers.get? h = some handler := by
  unfold awaitsItem at awaits
  split at awaits
  · rename_i handler found
    exact ⟨handler, found⟩
  · cases awaits

/-- A new call has a queue that nothing was taken off. -/
theorem subscribed {cfg : Config Topic Payload Msg} {topic : Topic} {n : ℕ}
    (tracked : Tracked n w) {w' : Watched Topic Payload Msg}
    (moved : watchedStep w (cfg, .subscribe h topic) = some w') :
    ∃ call, w'.hub.calls.get? h = some call ∧ call.topic = topic ∧
      messagesTaken w' call.queue = [] := by
  obtain ⟨s', taken, rfl⟩ := Option.map_eq_some_iff.mp moved
  have branch := StreamHub.step_cases taken
  obtain ⟨call, found, own⟩ := subscribe_call taken
  refine ⟨call, found, own, ?_⟩
  rcases callFrom_step rfl branch found with ⟨before, at', -⟩ | ⟨new, -, -⟩
  · cases branch with
    | subscribeNew fresh | subscribeJoin fresh =>
      rw [at'] at fresh
      cases fresh
  · have nothing : (w.hub.queue w.hub.nextQueue).arrived = [] :=
      tracked.apart _ (tracked.unused _ le_rfl)
    have part : ((w.hub.queue w.hub.nextQueue).taken).Sublist [] := by
      rw [← nothing]
      exact (List.sublist_append_left _ _).trans (kept_of_tracked tracked _)
    rw [messagesTaken, taken_kept (kept_of_tracked tracked) branch (by simp), new,
      List.sublist_nil.mp part, List.map_nil]

theorem ownQueues_update {hubs : Hub → Watched Topic Payload Msg}
    (queues : ∀ i, OwnQueues (hubs i)) (own : ownQueue (hubs i).hub label.2 = true)
    (moved : watchedStep (hubs i) label = some w) (j : Hub) :
    OwnQueues (Function.update hubs i w j) := by
  by_cases same : j = i
  · subst same
    rw [Function.update_self]
    exact (queues j).step own moved
  · rw [Function.update_of_ne same]
    exact queues j

omit [DecidableEq Hub] [DecidableEq Topic] in
/-- A handler without a generator has been handed nothing, whatever the manager does. -/
theorem Fed.unread_managed {moves : StreamManager.Event Key Socket Item} (fed : Fed opens s)
    (tasks : Tasks s.manager) (branch : StreamManager.Step s.manager moves m)
    (other : ∀ x, moves ≠ .item h x) (registered : m.handlers.get? h = some handler)
    (idle : s.consumers.get? h = none) : handler.yielded = [] := by
  rcases handler_from tasks branch registered with ⟨-, nothing⟩ | ⟨before, at'⟩
  · exact nothing
  · obtain ⟨moved, now, -, yielded⟩ := handler_kept tasks branch other at'
    cases registered.symm.trans now
    exact yielded.trans (fed.unread h before at' idle)

omit [DecidableEq Key] in
/-- A hub moves, and no generator takes a message. -/
theorem Fed.hub (fed : Fed opens s) (tracked : ∀ i, Tracked (maxsize i) (s.hubs i))
    (own : ownQueue (s.hubs i).hub label.2 = true) (notOwn : ofConsumer label.2 = false)
    (moved : watchedStep (s.hubs i) label = some w) :
    Fed opens { s with hubs := Function.update s.hubs i w } := by
  refine ⟨ownQueues_update fed.queues own moved, ?_, fed.unread⟩
  intro h consumer found
  obtain ⟨handler, call, reading⟩ := fed.reading h consumer found
  obtain ⟨call', reading'⟩ := reading.hub (kept_of_tracked (tracked i)) own moved fun _ is => by
    rw [is] at notOwn
    cases notOwn
  exact ⟨handler, call', reading'⟩

omit [DecidableEq Hub] [DecidableEq Topic] in
/-- The manager moves, and no generator yields. -/
theorem Fed.managed {moves : StreamManager.Event Key Socket Item} (fed : Fed opens s)
    (tasks : Tasks s.manager) (branch : StreamManager.Step s.manager moves m)
    (notItem : ofItem moves = false) : Fed opens { s with manager := m } := by
  have other (h : HandlerId) (x : Item) : moves ≠ .item h x := by
    rintro rfl
    cases notItem
  refine ⟨fed.queues, ?_, ?_⟩
  · intro h consumer found
    obtain ⟨handler, call, reading⟩ := fed.reading h consumer found
    obtain ⟨handler', reading'⟩ := reading.managed tasks branch (other h)
    exact ⟨handler', call, reading'⟩
  · exact fun h handler found idle => fed.unread_managed tasks branch (other h) found idle

omit [DecidableEq Key] in
/-- A handler opens a generator on a new call of a hub. -/
theorem Fed.subscribe {cfg : Config Topic Payload Msg} {topic : Topic}
    {generator : Stream σ Msg Item} (fed : Fed opens s)
    (tracked : ∀ i, Tracked (maxsize i) (s.hubs i)) (fresh : s.consumers.get? h = none)
    (awaits : awaitsItem s.manager h = true)
    (opened : ∀ handler, s.manager.handlers.get? h = some handler →
      opens handler.key i topic generator)
    (moved : watchedStep (s.hubs i) (cfg, .subscribe h topic) = some w) :
    Fed opens { s with
      hubs := Function.update s.hubs i w
      consumers := s.consumers.set h ⟨i, generator, some generator.init, []⟩ } := by
  refine ⟨ownQueues_update fed.queues rfl moved, ?_, ?_⟩
  · intro id consumer found
    rw [Dict.get?_set] at found
    split at found
    · rename_i same
      subst same
      cases found
      obtain ⟨handler, registered⟩ := exists_handler awaits
      obtain ⟨call, called, topic', nothing⟩ := subscribed (tracked i) moved
      refine ⟨handler, call, registered, ?_, ?_, ?_, ?_⟩
      · simpa using called
      · rw [topic']
        exact opened handler registered
      · simp [nothing]
      · simp [nothing, outputs, fed.unread id handler registered fresh]
    · obtain ⟨handler, call, reading⟩ := fed.reading id consumer found
      obtain ⟨call', reading'⟩ :=
        reading.hub (kept_of_tracked (tracked i)) rfl moved fun _ is => by cases is
      exact ⟨handler, call', reading'⟩
  · intro id handler found idle
    rw [Dict.get?_set] at idle
    split at idle
    · cases idle
    · exact fed.unread id handler found idle

omit [DecidableEq Key] in
/-- A generator takes a message off its own queue. -/
theorem Fed.read {cfg : Config Topic Payload Msg} {locals : σ} {topic : Topic} {q : QueueId}
    {a : Arrival Msg} {rest : List (Arrival Msg)} (fed : Fed opens s)
    (tracked : ∀ i, Tracked (maxsize i) (s.hubs i)) (found : s.consumers.get? h = some consumer)
    (running : consumer.locals = some locals) (drained : consumer.ready = [])
    (call : (s.hubs consumer.hub).hub.calls.get? h = some (.returned topic q))
    (items : ((s.hubs consumer.hub).hub.queue q).items = a :: rest)
    (moved : watchedStep (s.hubs consumer.hub) (cfg, .get q) = some w) :
    Fed opens { s with
      hubs := Function.update s.hubs consumer.hub w
      consumers := s.consumers.set h { consumer with
        locals := (consumer.generator.step locals a.msg).2
        ready := (consumer.generator.step locals a.msg).1 } } := by
  refine ⟨ownQueues_update fed.queues rfl moved, ?_, ?_⟩
  · intro id consumer' found'
    rw [Dict.get?_set] at found'
    split at found'
    · rename_i same
      subst same
      cases found'
      obtain ⟨handler, call', reading⟩ := fed.reading id consumer found
      cases call.symm.trans reading.called
      obtain ⟨call', reading'⟩ := reading.read running drained items moved
      exact ⟨handler, call', reading'⟩
    · rename_i different
      obtain ⟨handler, call', reading⟩ := fed.reading id consumer' found'
      -- Another call has another queue.
      have apart : consumer'.hub = consumer.hub → q ≠ call'.queue := by
        rintro same rfl
        have called := reading.called
        rw [same] at called
        exact different ((fed.queues consumer.hub).unique _ _ _ _ called call rfl)
      obtain ⟨call'', reading'⟩ := reading.hub (kept_of_tracked (tracked consumer.hub)) rfl moved
        fun same is => apart same (StreamHub.Event.get.inj is)
      exact ⟨handler, call'', reading'⟩
  · intro id handler registered idle
    rw [Dict.get?_set] at idle
    split at idle
    · cases idle
    · exact fed.unread id handler registered idle

omit [DecidableEq Hub] [DecidableEq Topic] in
/-- A generator yields to its handler. -/
theorem Fed.yield {x : Item} {rest : List Item} (fed : Fed opens s) (tasks : Tasks s.manager)
    (found : s.consumers.get? h = some consumer) (ready : consumer.ready = x :: rest)
    (branch : StreamManager.Step s.manager (.item h x) m) :
    Fed opens { s with
      manager := m, consumers := s.consumers.set h { consumer with ready := rest } } := by
  have other {id : HandlerId} (different : ¬ id = h) (y : Item) :
      (StreamManager.Event.item h x : StreamManager.Event Key Socket Item) ≠ .item id y := by
    intro is
    cases is
    exact different rfl
  refine ⟨fed.queues, ?_, ?_⟩
  · intro id consumer' found'
    rw [Dict.get?_set] at found'
    split at found'
    · rename_i same
      subst same
      cases found'
      obtain ⟨handler, call, reading⟩ := fed.reading id consumer found
      obtain ⟨handler', reading'⟩ := reading.yield ready branch
      exact ⟨handler', call, reading'⟩
    · rename_i different
      obtain ⟨handler, call, reading⟩ := fed.reading id consumer' found'
      obtain ⟨handler', reading'⟩ := reading.managed tasks branch (other different)
      exact ⟨handler', call, reading'⟩
  · intro id handler registered idle
    rw [Dict.get?_set] at idle
    split at idle
    · cases idle
    · rename_i different
      exact fed.unread_managed tasks branch (other different) registered idle

theorem Fed.step (fed : Fed opens s) (tasks : Tasks s.manager)
    (tracked : ∀ i, Tracked (maxsize i) (s.hubs i)) (permitted : Opened maxsize opens s ev)
    (step : Step s ev s') : Fed opens s' := by
  cases step with
  | hub notOwn moved => exact fed.hub tracked permitted.2 notOwn moved
  | manager notItem moved => exact fed.managed tasks (StreamManager.step_cases moved) notItem
  | subscribe fresh awaits moved => exact fed.subscribe tracked fresh awaits permitted.2 moved
  | read found running drained awaits call items moved =>
    exact fed.read tracked found running drained call items moved
  | yield found ready moved =>
    exact fed.yield tasks found ready (StreamManager.step_cases moved)

theorem fed_reachable (positive : ∀ i, 1 ≤ maxsize i)
    (run : Reachable system (Opened maxsize opens) s) : Fed opens s := by
  induction run with
  | init =>
    refine ⟨fun _ => .initial, fun _ _ found => ?_, fun _ _ found => ?_⟩
    · simp [system, State.initial] at found
    · simp [system, State.initial, StreamManager.State.initial] at found
  | next before permitted taken ih =>
    exact ih.step (tasks_reachable (manager_reachable before))
      (fun i => tracked_reachable (positive i) (hub_reachable before i)) permitted
      (step_cases taken)

/-- The messages taken off a queue are its topic's, in order and without repetition. -/
theorem taken_sublist {n : ℕ} {q : QueueId} {topic : Topic} {since : ℕ} (tracked : Tracked n w)
    (joined : w.joined q = some (topic, since)) :
    ((w.hub.queue q).taken).Sublist (messagesSince w.routed topic since) ∧
      ((w.hub.queue q).taken).Nodup := by
  have part := (tracked.dropsOldest q).inOrder
  exact ⟨part.trans (tracked.handed q topic since joined).2.sublist,
    (tracked.dropsOldest q).once.sublist part⟩

/-- In every interleaving of hubs, generators, handlers and clients: what is sent to a client is
a contiguous part of the outputs of the generator of its handler on the messages taken off one
queue.  These are messages of the topic that the client's key is opened on, in order and without
repetition, and the queue lost only messages that as many later ones as its size overtook. -/
theorem clients_fed (positive : ∀ i, 1 ≤ maxsize i)
    (run : Reachable system (Opened maxsize opens) s) (c : ClientId) :
    attemptsOn c s.manager.history = [] ∨
    ∃ sub consumer call since, s.manager.subscriptions.get? c = some sub ∧
      s.consumers.get? sub.handler = some consumer ∧
      (s.hubs consumer.hub).hub.calls.get? sub.handler = some call ∧
      opens sub.key consumer.hub call.topic consumer.generator ∧
      (s.hubs consumer.hub).joined call.queue = some (call.topic, since) ∧
      attemptsOn c s.manager.history <:+: (outputs consumer.generator
        (messagesTaken (s.hubs consumer.hub) call.queue)).zipIdx.map
          (fun e => (sub.handler, e.2, e.1)) ∧
      (((s.hubs consumer.hub).hub.queue call.queue).taken).Sublist
        (messagesSince (s.hubs consumer.hub).routed call.topic since) ∧
      (((s.hubs consumer.hub).hub.queue call.queue).taken).Nodup ∧
      DropsOldest (maxsize consumer.hub) (s.hubs consumer.hub) call.queue := by
  have fed := fed_reachable positive run
  have delivery := delivery_reachable (manager_reachable run)
  have tracked (i : Hub) := tracked_reachable (positive i) (hub_reachable run i)
  cases known : s.manager.subscriptions.get? c with
  | none => exact .inl (delivery.unknown c known).1
  | some sub =>
    obtain ⟨handler, registered, key, progress⟩ :=
      delivery.joined c _ _ _ ⟨sub, known, rfl, rfl, rfl⟩
    have segment := progress.segment
    cases found : s.consumers.get? sub.handler with
    | none =>
      left
      rw [Handler.feed, fed.unread sub.handler handler registered found] at segment
      exact List.eq_nil_of_infix_nil segment
    | some consumer =>
      right
      obtain ⟨handler', call, reading⟩ := fed.reading sub.handler consumer found
      cases registered.symm.trans reading.registered
      obtain ⟨since, joined⟩ := (fed.queues consumer.hub).joined sub.handler call reading.called
      obtain ⟨part, once⟩ := taken_sublist (tracked consumer.hub) joined
      refine ⟨sub, consumer, call, since, rfl, found, reading.called, key ▸ reading.opened, joined,
        ?_, part, once, (tracked consumer.hub).dropsOldest call.queue⟩
      rw [reading.yields, List.zipIdx_append, List.map_append]
      exact segment.trans (List.prefix_append _ _).isInfix

end Steps

/-! ## A run -/

/-- It yields the sum of the messages so far. -/
def totals : Stream ℕ ℕ ℕ := ⟨0, fun sum m => ([sum + m], some (sum + m))⟩

def lastDigit : Config ℕ (List ℕ) ℕ :=
  ⟨fun topics => [topics], fun topics => [topics], fun m => some (m % 10), 1⟩

/-- The topic of a key is the key. -/
def opensTotals (key : ℕ) (_ : Unit) (topic : ℕ) (generator : Stream ℕ ℕ ℕ) : Prop :=
  topic = key ∧ generator = totals

/-- The message 25 is overtaken before the generator asks for it. -/
def overtakenRun : List (Event Unit ℕ (List ℕ) ℕ ℕ ℕ ℕ ℕ) :=
  [.manager (.subscribe 0 5 100), .manager (.begin 0 true), .subscribe 0 () lastDigit 5 totals,
    .hub () (lastDigit, .connect true), .hub () (lastDigit, .resubscribed true),
    .hub () (lastDigit, .wake 0), .hub () (lastDigit, .resume 0 true),
    .hub () (lastDigit, .receive 15), .read 0 lastDigit, .yield 0, .manager (.attempt 0 0),
    .hub () (lastDigit, .receive 25), .hub () (lastDigit, .receive 35),
    .manager (.settle 0 0 true), .manager (.gathered 0), .read 0 lastDigit, .yield 0,
    .manager (.attempt 0 0)]

/-- The handler that opens a generator has the key 5. -/
def opensFive (s : State Unit ℕ (List ℕ) ℕ ℕ ℕ ℕ ℕ) : Event Unit ℕ (List ℕ) ℕ ℕ ℕ ℕ ℕ → Bool
  | .subscribe h .. => (s.manager.handlers.get? h).all fun handler => handler.key = 5
  | _ => true

theorem overtakenRun_opened (s : State Unit ℕ (List ℕ) ℕ ℕ ℕ ℕ ℕ) (ev) (member : ev ∈ overtakenRun)
    (five : opensFive s ev = true) : Opened (fun _ => 1) opensTotals s ev := by
  simp only [overtakenRun, List.mem_cons, List.not_mem_nil, or_false] at member
  rcases member with rfl | rfl | rfl | rfl | rfl | rfl | rfl | rfl | rfl | rfl | rfl | rfl | rfl |
    rfl | rfl | rfl | rfl | rfl
  case inr.inr.inl =>
    refine ⟨rfl, fun handler found => ?_⟩
    simp only [opensFive, found, Option.all_some, decide_eq_true_eq] at five
    exact ⟨five.symm, rfl⟩
  all_goals first | trivial | exact ⟨rfl, rfl⟩ | exact fun _ _ => rfl

theorem overtakenRun_ends : system.endsIn opensFive overtakenRun (fun s =>
    attemptsOn 0 s.manager.history = [(0, 0, 15), (0, 1, 50)]) = true := by decide +kernel

theorem clients_fed_overtaken : ∃ s : State Unit ℕ (List ℕ) ℕ ℕ ℕ ℕ ℕ,
    Reachable system (Opened (fun _ => 1) opensTotals) s ∧ ∃ h q, [(0, 0, 15), (0, 1, 50)] <:+:
      (outputs totals (messagesTaken (s.hubs ()) q)).zipIdx.map fun e => (h, e.2, e.1) := by
  obtain ⟨s, run, ends⟩ := System.exists_reachable overtakenRun_opened overtakenRun_ends
  have attempts : attemptsOn 0 s.manager.history = [(0, 0, 15), (0, 1, 50)] := by simpa using ends
  rcases clients_fed (fun _ => le_rfl) run 0 with nothing |
    ⟨sub, consumer, call, since, -, -, -, ⟨-, generator⟩, -, segment, -⟩
  · rw [attempts] at nothing
    cases nothing
  · rw [attempts, generator] at segment
    exact ⟨s, run, sub.handler, call.queue, segment⟩

end ExchangeRouter.Streams
