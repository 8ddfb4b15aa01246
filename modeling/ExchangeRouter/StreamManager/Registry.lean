import ExchangeRouter.StreamManager.Steps

/-!
# The registry of the manager

The two dictionaries of the manager have the same keys, no bucket is empty, and
a task is registered for its key exactly while it runs: until it is cancelled,
runs the locked section of its `finally` or takes the key out itself.  A client
that was not unsubscribed is in its bucket or has been told to close.
-/
namespace ExchangeRouter.StreamManager
open Lib

variable {Key Socket Item : Type}

/-- Neither cancelled nor past the locked section of its `finally`. -/
def Handler.running (handler : Handler Key Socket Item) : Bool :=
  !handler.cancelled && handler.pc.active

variable [DecidableEq Key]

structure Tasks (s : State Key Socket Item) : Prop where
  sameKeys : ∀ k, (s.activeStreams.get? k).isSome = (s.upstreamTasks.get? k).isSome
  nonempty : ∀ k bucket, s.activeStreams.get? k = some bucket → bucket.isEmpty = false
  live : ∀ k h, s.upstreamTasks.get? k = some h →
    ∃ handler, s.handlers.get? h = some handler ∧ handler.key = k ∧ handler.running = true
  registered : ∀ h handler, s.handlers.get? h = some handler → handler.running = true →
    s.upstreamTasks.get? handler.key = some h
  fresh : ∀ h handler, s.handlers.get? h = some handler → h < s.nextHandler

theorem Tasks.initial : Tasks (State.initial : State Key Socket Item) where
  sameKeys := fun _ => rfl
  nonempty := fun _ _ found => by simp [State.initial] at found
  live := fun _ _ found => by simp [State.initial] at found
  registered := fun _ _ found => by simp [State.initial] at found
  fresh := fun _ _ found => by simp [State.initial] at found

/-- A handler takes a step without being cancelled or finalized. -/
theorem Tasks.setHandler {s s' : State Key Socket Item} (h : Tasks s) {id : HandlerId}
    {handler moved : Handler Key Socket Item} (at' : s.handlers.get? id = some handler)
    (streams : s'.activeStreams = s.activeStreams) (tasks : s'.upstreamTasks = s.upstreamTasks)
    (handlers : s'.handlers = s.handlers.set id moved) (next : s'.nextHandler = s.nextHandler)
    (key : moved.key = handler.key) (running : moved.running = handler.running) : Tasks s' where
  sameKeys := fun k => by rw [streams, tasks, h.sameKeys]
  nonempty := fun k bucket found => h.nonempty k bucket (streams ▸ found)
  live := fun k task found => by
    rw [tasks] at found
    obtain ⟨own, at'', isKey, runs⟩ := h.live k task found
    rw [handlers, Dict.get?_set]
    split
    · rename_i same
      subst same
      rw [at'] at at''
      cases at''
      exact ⟨moved, rfl, key.trans isKey, running.trans runs⟩
    · exact ⟨own, at'', isKey, runs⟩
  registered := fun id' own found runs => by
    rw [handlers, Dict.get?_set] at found
    rw [tasks]
    split at found
    · rename_i same
      cases found
      rw [key, same]
      exact h.registered id handler at' (running ▸ runs)
    · exact h.registered id' own found runs
  fresh := fun id' own found => by
    rw [handlers, Dict.get?_set] at found
    rw [next]
    split at found
    · rename_i same
      exact same ▸ h.fresh id handler at'
    · exact h.fresh id' own found

theorem Tasks.congr {s s' : State Key Socket Item} (h : Tasks s)
    (streams : s'.activeStreams = s.activeStreams) (tasks : s'.upstreamTasks = s.upstreamTasks)
    (handlers : s'.handlers = s.handlers) (next : s'.nextHandler = s.nextHandler) : Tasks s' where
  sameKeys := fun k => by rw [streams, tasks, h.sameKeys]
  nonempty := fun k bucket found => h.nonempty k bucket (streams ▸ found)
  live := fun k task found => handlers ▸ h.live k task (tasks ▸ found)
  registered := fun id handler found runs => tasks ▸ h.registered id handler (handlers ▸ found) runs
  fresh := fun id handler found => next ▸ h.fresh id handler (handlers ▸ found)

/-- A bucket changes and keeps a client. -/
theorem Tasks.setBucket {s s' : State Key Socket Item} (h : Tasks s) {key : Key}
    {bucket bucket' : Dict ClientId Socket} (known : s.activeStreams.get? key = some bucket)
    (others : bucket'.isEmpty = false)
    (streams : s'.activeStreams = s.activeStreams.set key bucket')
    (tasks : s'.upstreamTasks = s.upstreamTasks) (handlers : s'.handlers = s.handlers)
    (next : s'.nextHandler = s.nextHandler) : Tasks s' where
  sameKeys := fun k => by
    rw [streams, tasks, ← h.sameKeys, Dict.get?_set]
    split
    · rename_i same
      rw [same, known]
      rfl
    · rfl
  nonempty := fun k x found => by
    rw [streams, Dict.get?_set] at found
    split at found
    · cases found
      exact others
    · exact h.nonempty k x found
  live := fun k task found => by
    rw [tasks] at found
    rw [handlers]
    exact h.live k task found
  registered := fun id handler found runs => by
    rw [handlers] at found
    rw [tasks]
    exact h.registered id handler found runs
  fresh := fun id handler found => by
    rw [handlers] at found
    rw [next]
    exact h.fresh id handler found

/-- The task of a key stops running and the key is forgotten. -/
theorem Tasks.drop {s s' : State Key Socket Item} (h : Tasks s) {id : HandlerId}
    {handler moved : Handler Key Socket Item} (at' : s.handlers.get? id = some handler)
    (task : s.upstreamTasks.get? handler.key = some id)
    (streams : s'.activeStreams = s.activeStreams.pop handler.key)
    (tasks : s'.upstreamTasks = s.upstreamTasks.pop handler.key)
    (handlers : s'.handlers = s.handlers.set id moved) (next : s'.nextHandler = s.nextHandler)
    (stopped : moved.running = false) : Tasks s' where
  sameKeys := fun k => by
    rw [streams, tasks, Dict.get?_pop, Dict.get?_pop]
    split
    · rfl
    · exact h.sameKeys k
  nonempty := fun k bucket found => by
    rw [streams] at found
    exact h.nonempty k bucket (Dict.get?_of_pop found).2
  live := fun k other found => by
    rw [tasks, Dict.get?_pop] at found
    split at found
    · cases found
    · rename_i differ
      obtain ⟨own, at'', isKey, runs⟩ := h.live k other found
      have another : other ≠ id := by
        rintro rfl
        rw [at'] at at''
        cases at''
        exact differ isKey.symm
      exact ⟨own, by rw [handlers, Dict.get?_set_ne _ _ another, at''], isKey, runs⟩
  registered := fun id' own found runs => by
    rw [handlers, Dict.get?_set] at found
    split at found
    · cases found
      rw [stopped] at runs
      cases runs
    · rename_i another
      have before := h.registered id' own found runs
      have differ : own.key ≠ handler.key := by
        intro same
        rw [same, task] at before
        exact another (Option.some.inj before).symm
      rw [tasks, Dict.get?_pop_ne _ differ]
      exact before
  fresh := fun id' own found => by
    rw [handlers, Dict.get?_set] at found
    rw [next]
    split at found
    · rename_i same
      exact same ▸ h.fresh id handler at'
    · exact h.fresh id' own found

/-- A new key gets a bucket with its first client and a new task. -/
theorem Tasks.open {s s' : State Key Socket Item} (h : Tasks s) {key : Key}
    {bucket : Dict ClientId Socket} (absent : s.activeStreams.get? key = none)
    (filled : bucket.isEmpty = false)
    (streams : s'.activeStreams = (s.activeStreams.set key .empty).set key bucket)
    (tasks : s'.upstreamTasks = s.upstreamTasks.set key s.nextHandler)
    (handlers : s'.handlers = s.handlers.set s.nextHandler ⟨key, .created, false, []⟩)
    (next : s'.nextHandler = s.nextHandler + 1) : Tasks s' where
  sameKeys := fun k => by
    rw [streams, tasks, Dict.get?_set, Dict.get?_set, Dict.get?_set]
    by_cases same : k = key
    · simp [same]
    · simpa [same] using h.sameKeys k
  nonempty := fun k x found => by
    rw [streams, Dict.get?_set] at found
    split at found
    · cases found
      exact filled
    · rename_i differ
      rw [Dict.get?_set_ne _ _ differ] at found
      exact h.nonempty k x found
  live := fun k task found => by
    rw [tasks, Dict.get?_set] at found
    rw [handlers, Dict.get?_set]
    split at found
    · rename_i same
      cases found
      exact ⟨_, if_pos rfl, same.symm, rfl⟩
    · obtain ⟨own, at', isKey, runs⟩ := h.live k task found
      have older := h.fresh task own at'
      exact ⟨own, by rw [if_neg (Nat.ne_of_lt older), at'], isKey, runs⟩
  registered := fun id own found runs => by
    rw [handlers, Dict.get?_set] at found
    rw [tasks, Dict.get?_set]
    split at found
    · rename_i same
      cases found
      rw [if_pos rfl, same]
    · have before := h.registered id own found runs
      have differ : own.key ≠ key := by
        intro same
        have both := h.sameKeys key
        rw [absent, ← same, before] at both
        cases both
      rw [if_neg differ, before]
  fresh := fun id own found => by
    rw [handlers, Dict.get?_set] at found
    rw [next]
    split at found
    · rename_i same
      exact same ▸ Nat.lt_succ_self _
    · exact Nat.lt_succ_of_lt (h.fresh id own found)

/-- The `finally` of the registered task. -/
theorem finalize_registered {s : State Key Socket Item} {h : HandlerId}
    {handler : Handler Key Socket Item} (task : s.upstreamTasks.get? handler.key = some h) :
    finalize s h handler = setHandler { dropKey s handler.key with
      closes := s.closes ++ (s.activeStreams.getD handler.key .empty).values } h { handler with
        pc := if (s.activeStreams.getD handler.key .empty).isEmpty then .done else .closing
        cancelled := false } :=
  if_pos task

/-- The `finally` of a task that is no longer registered touches nothing. -/
theorem finalize_unregistered {s : State Key Socket Item} {h : HandlerId}
    {handler : Handler Key Socket Item} (other : s.upstreamTasks.get? handler.key ≠ some h) :
    finalize s h handler = setHandler s h { handler with pc := .done, cancelled := false } :=
  if_neg other

theorem finalize_handlers (s : State Key Socket Item) (h : HandlerId)
    (handler : Handler Key Socket Item) : ∃ pc : Pc Socket, pc.active = false ∧
      (finalize s h handler).handlers =
        s.handlers.set h { handler with pc := pc, cancelled := false } := by
  by_cases task : s.upstreamTasks.get? handler.key = some h
  · rw [finalize_registered task]
    refine ⟨_, ?_, rfl⟩
    split <;> rfl
  · rw [finalize_unregistered task]
    exact ⟨.done, rfl, rfl⟩

omit [DecidableEq Key] in
theorem running_of_calm {handler : Handler Key Socket Item} (calm : handler.cancelled = false)
    (active : handler.pc.active = true) : handler.running = true := by
  simp [Handler.running, calm, active]

theorem Tasks.finalize_running {s : State Key Socket Item} (h : Tasks s) {id : HandlerId}
    {handler moved : Handler Key Socket Item} (at' : s.handlers.get? id = some handler)
    (runs : handler.running = true) (key : moved.key = handler.key) :
    Tasks (finalize s id moved) := by
  have task := h.registered id handler at' runs
  rw [finalize_registered (key ▸ task)]
  refine h.drop at' task (by rw [← key]; rfl) (by rw [← key]; rfl) rfl rfl ?_
  simp only [Handler.running, Bool.not_false, Bool.true_and]
  split <;> rfl

/-- A cancelled task is not the registered one. -/
theorem Tasks.unregistered {s : State Key Socket Item} (h : Tasks s) {id : HandlerId}
    {handler : Handler Key Socket Item} (at' : s.handlers.get? id = some handler)
    (stopped : handler.running = false) (k : Key) : s.upstreamTasks.get? k ≠ some id := by
  intro task
  obtain ⟨own, at'', -, runs⟩ := h.live k id task
  rw [at'] at at''
  cases at''
  rw [stopped] at runs
  cases runs

omit [DecidableEq Key] in
/-- `cancelTask` of a running task. -/
theorem cancelTask_running {s : State Key Socket Item} {h : HandlerId}
    {handler : Handler Key Socket Item} (at' : s.handlers.get? h = some handler)
    (runs : handler.running = true) :
    cancelTask s h = setHandler s h { handler with cancelled := true } := by
  unfold cancelTask
  simp only [at']
  cases pc : handler.pc with
  | done => simp [Handler.running, pc, Pc.active] at runs
  | created | receiving | sending | closing => rfl

theorem Tasks.step {s s' : State Key Socket Item} {ev : Event Key Socket Item} (h : Tasks s)
    (step : Step s ev s') : Tasks s' := by
  cases step with
  | @subscribeJoin client key socket bucket fresh known =>
    exact h.setBucket known (Dict.isEmpty_eq_false_of_get? (Dict.get?_set_self _ client socket)) rfl
      rfl rfl rfl
  | @subscribeOpen client key socket fresh absent =>
    exact h.open absent (Dict.isEmpty_eq_false_of_get? (Dict.get?_set_self _ client socket)) rfl rfl
      rfl rfl
  | unsubscribeAbsent absent => exact h.congr (by simp) (by simp) (by simp) (by simp)
  | unsubscribeKeep known others => exact h.setBucket known others rfl (by simp) (by simp) (by simp)
  | @unsubscribeLast client key bucket id known last task =>
    obtain ⟨handler, at', rfl, runs⟩ := h.live key id task
    have found : (dropKey (markUnsubscribed s handler.key client) handler.key).handlers.get? id =
        some handler := by simpa [dropKey] using at'
    rw [cancelTask_running found runs]
    have stopped : ({ handler with cancelled := true } : Handler Key Socket Item).running = false :=
      rfl
    refine h.drop at' task ?_ ?_ ?_ ?_ stopped <;> simp [StreamManager.setHandler, dropKey]
  | @unsubscribeTaskless client key bucket known last taskless =>
    have both := h.sameKeys key
    rw [known, taskless] at both
    cases both
  | begin at' pc calm =>
    exact h.setHandler at' rfl rfl rfl rfl rfl (by simp [Handler.running, pc, Pc.active])
  | beginUnknown at' pc calm =>
    exact h.finalize_running at' (running_of_calm calm (by rw [pc]; rfl)) rfl
  | item at' pc calm clients =>
    exact h.setHandler at' rfl rfl rfl rfl rfl
      (by simp [Handler.running, Handler.yields, pc, Pc.active])
  | itemGone at' pc calm gone =>
    exact h.finalize_running at' (running_of_calm calm (by rw [pc]; rfl)) rfl
  | attempt at' pc calm last unstarted =>
    exact h.setHandler at' rfl rfl rfl rfl rfl (by simp [Handler.running, pc, Pc.active])
  | settle at' pc started =>
    exact h.setHandler at' rfl rfl rfl rfl rfl (by simp [Handler.running, pc, Pc.active])
  | gatheredAlive at' pc calm completed alive =>
    exact h.setHandler at' rfl rfl rfl rfl rfl (by simp [Handler.running, pc, Pc.active])
  | gatheredGone at' pc calm completed gone =>
    exact h.setHandler at' rfl rfl rfl rfl rfl (by simp [Handler.running, pc, Pc.active])
  | @gatheredKept id handler sends bucket at' pc calm completed known others =>
    have moved : Tasks (StreamManager.setHandler s id { handler with pc := .receiving }) :=
      h.setHandler at' rfl rfl rfl rfl rfl (by simp [Handler.running, pc, Pc.active])
    exact moved.setBucket known others rfl rfl rfl rfl
  | @gatheredEmptied id handler sends bucket at' pc calm completed known emptied =>
    have task := h.registered id handler at' (running_of_calm calm (by rw [pc]; rfl))
    rw [finalize_unregistered (by simp [dropKey])]
    exact h.drop at' task rfl rfl rfl rfl rfl
  | ended at' pc calm =>
    exact h.finalize_running at' (running_of_calm calm (by rw [pc]; rfl)) rfl
  | @interruptedBody id handler at' cancelled active =>
    have stopped : handler.running = false := by simp [Handler.running, cancelled]
    rw [finalize_unregistered (h.unregistered at' stopped _)]
    exact h.setHandler at' rfl rfl rfl rfl rfl (by simp [Handler.running, cancelled, Pc.active])
  | interruptedOutside at' cancelled outside =>
    exact h.setHandler at' rfl rfl rfl rfl rfl (by simp [Handler.running, cancelled, Pc.active])
  | closed at' pc =>
    exact h.setHandler at' rfl rfl rfl rfl rfl (by simp [Handler.running, pc, Pc.active])

theorem tasks_reachable {s : State Key Socket Item} (run : Reachable system anyStep s) : Tasks s :=
  run.invariant .initial fun _ _ _ _ before _ taken => before.step (step_cases taken)

/-- A running handler has clients. -/
theorem Tasks.clients {s : State Key Socket Item} (h : Tasks s) {id : HandlerId}
    {handler : Handler Key Socket Item} (at' : s.handlers.get? id = some handler)
    (runs : handler.running = true) :
    ∃ bucket, s.activeStreams.get? handler.key = some bucket ∧ bucket.isEmpty = false := by
  have both := h.sameKeys handler.key
  rw [h.registered id handler at' runs] at both
  obtain ⟨bucket, known⟩ := Option.isSome_iff_exists.mp both
  exact ⟨bucket, known, h.nonempty _ bucket known⟩

/-- A client subscribed with these arguments while the task was registered. -/
def Joined (s : State Key Socket Item) (client : ClientId) (key : Key) (socket : Socket)
    (h : HandlerId) : Prop :=
  ∃ sub, s.subscriptions.get? client = some sub ∧ sub.key = key ∧ sub.socket = socket ∧
    sub.handler = h

/-- A client is in the bucket of a key. -/
def InBucket (s : State Key Socket Item) (key : Key) (client : ClientId) (socket : Socket) : Prop :=
  ∃ bucket, s.activeStreams.get? key = some bucket ∧ bucket.get? client = some socket

theorem joined_markUnsubscribed {s : State Key Socket Item} {client : ClientId} {key : Key}
    {socket : Socket} {h : HandlerId} (joined : Joined s client key socket h) (k : Key)
    (c : ClientId) : Joined (markUnsubscribed s k c) client key socket h := by
  unfold markUnsubscribed
  split
  · rename_i other found
    split
    · obtain ⟨sub, at', rest⟩ := joined
      by_cases same : client = c
      · subst same
        rw [found] at at'
        cases at'
        exact ⟨_, Dict.get?_set_self _ _ _, rest⟩
      · exact ⟨sub, by rw [Dict.get?_set_ne _ _ same, at'], rest⟩
    · exact joined
  · exact joined

theorem joined_addClient {s : State Key Socket Item} {client c : ClientId} {key k : Key}
    {socket so : Socket} {h : HandlerId} (joined : Joined s client key socket h)
    (fresh : s.subscriptions.get? c = none) : Joined (addClient s c k so) client key socket h := by
  obtain ⟨sub, at', rest⟩ := joined
  have differ : client ≠ c := by
    rintro rfl
    rw [fresh] at at'
    cases at'
  exact ⟨sub, by rw [addClient, Dict.get?_set_ne _ _ differ, at'], rest⟩

/-- A subscription is never taken back. -/
theorem joined_step {s s' : State Key Socket Item} {ev : Event Key Socket Item}
    (step : Step s ev s') {client : ClientId} {key : Key} {socket : Socket} {h : HandlerId}
    (joined : Joined s client key socket h) : Joined s' client key socket h := by
  cases step with
  | subscribeJoin fresh known => exact joined_addClient joined fresh
  | subscribeOpen fresh absent => exact joined_addClient (s := openStream s _) joined fresh
  | unsubscribeAbsent absent => exact joined_markUnsubscribed joined _ _
  | unsubscribeKeep known others => exact joined_markUnsubscribed joined _ _
  | @unsubscribeLast c k bucket id known last task =>
    have marked := joined_markUnsubscribed joined k c
    simpa [Joined, dropKey] using marked
  | unsubscribeTaskless known last taskless => exact joined_markUnsubscribed joined _ _
  | beginUnknown at' pc calm => simpa [Joined] using joined
  | itemGone at' pc calm gone => simpa [Joined] using joined
  | gatheredEmptied at' pc calm completed known emptied => simpa [Joined, dropKey] using joined
  | ended at' pc calm => simpa [Joined] using joined
  | interruptedBody at' cancelled active => simpa [Joined] using joined
  | begin | item | attempt | settle | gatheredAlive | gatheredGone | gatheredKept
  | interruptedOutside | closed => exact joined

theorem inBucket_addClient {s : State Key Socket Item} {client c : ClientId} {key k : Key}
    {socket so : Socket} (inside : InBucket (addClient s client key socket) k c so) :
    InBucket s k c so ∨ (c = client ∧ k = key ∧ so = socket) := by
  obtain ⟨bucket, known, member⟩ := inside
  rw [addClient, Dict.get?_set] at known
  split at known
  · rename_i same
    cases known
    rw [Dict.get?_set] at member
    split at member
    · exact Or.inr ⟨‹_›, same, (Option.some.inj member).symm⟩
    · refine Or.inl ?_
      rw [Dict.getD] at member
      cases found : s.activeStreams.get? key with
      | none => simp [found] at member
      | some bucket => exact ⟨bucket, same ▸ found, by simpa [found] using member⟩
  · exact Or.inl ⟨bucket, known, member⟩

/-- The new client is in its bucket. -/
theorem inBucket_new (s : State Key Socket Item) (client : ClientId) (key : Key)
    (socket : Socket) : InBucket (addClient s client key socket) key client socket :=
  ⟨_, Dict.get?_set_self _ _ _, Dict.get?_set_self _ _ _⟩

theorem inBucket_dropKey {s s' : State Key Socket Item} (key : Key) {k : Key} {c : ClientId}
    {so : Socket}
    (streams : s'.activeStreams = s.activeStreams.pop key)
    (tasks : s'.upstreamTasks = s.upstreamTasks.pop key) (inside : InBucket s' k c so) :
    InBucket s k c so ∧ s'.upstreamTasks.get? k = s.upstreamTasks.get? k := by
  obtain ⟨bucket, known, member⟩ := inside
  rw [streams] at known
  obtain ⟨differ, old⟩ := Dict.get?_of_pop known
  exact ⟨⟨bucket, old, member⟩, by rw [tasks, Dict.get?_pop_ne _ differ]⟩

theorem inBucket_finalize {s : State Key Socket Item} {h : HandlerId}
    {handler : Handler Key Socket Item} {k : Key} {c : ClientId} {so : Socket}
    (inside : InBucket (finalize s h handler) k c so) :
    InBucket s k c so ∧ (finalize s h handler).upstreamTasks.get? k = s.upstreamTasks.get? k := by
  by_cases task : s.upstreamTasks.get? handler.key = some h
  · rw [finalize_registered task] at inside ⊢
    exact inBucket_dropKey _ rfl rfl inside
  · rw [finalize_unregistered task] at inside ⊢
    exact ⟨inside, rfl⟩

/-- A bucket loses clients. -/
theorem inBucket_set {s s' : State Key Socket Item} {key k : Key}
    {bucket bucket' : Dict ClientId Socket}
    {c : ClientId} {so : Socket} (known : s.activeStreams.get? key = some bucket)
    (streams : s'.activeStreams = s.activeStreams.set key bucket')
    (fewer : ∀ c so, bucket'.get? c = some so → bucket.get? c = some so)
    (inside : InBucket s' k c so) : InBucket s k c so := by
  obtain ⟨found, known', member⟩ := inside
  rw [streams, Dict.get?_set] at known'
  split at known'
  · rename_i same
    cases known'
    exact ⟨bucket, same ▸ known, fewer c so member⟩
  · exact ⟨found, known', member⟩

theorem get?_popDead (dead : List (Send Socket)) (bucket : Dict ClientId Socket) (c : ClientId) :
    (popDead dead bucket).get? c =
      if c ∈ dead.map Send.client then none else bucket.get? c := by
  induction dead generalizing bucket with
  | nil => simp [popDead]
  | cons send rest ih =>
    change (popDead rest (bucket.pop send.client)).get? c = _
    rw [ih, Dict.get?_pop]
    by_cases same : c = send.client <;> simp [same]

/-- A client in a bucket was there before, under the same task, or has just
subscribed. -/
theorem inBucket_step {s s' : State Key Socket Item} {ev : Event Key Socket Item} (h : Tasks s)
    (step : Step s ev s') {k : Key} {c : ClientId} {so : Socket} (inside : InBucket s' k c so) :
    (InBucket s k c so ∧ s'.upstreamTasks.get? k = s.upstreamTasks.get? k) ∨
      (s.subscriptions.get? c = none ∧
        ∃ id, s'.upstreamTasks.get? k = some id ∧ Joined s' c k so id) := by
  cases step with
  | @subscribeJoin client key socket bucket fresh known =>
    rcases inBucket_addClient inside with old | ⟨rfl, rfl, rfl⟩
    · exact Or.inl ⟨old, rfl⟩
    · have both := h.sameKeys k
      rw [known] at both
      obtain ⟨id, task⟩ := Option.isSome_iff_exists.mp both.symm
      refine Or.inr ⟨fresh, id, task, _, Dict.get?_set_self _ _ _, rfl, rfl, ?_⟩
      simp [Dict.getD, task]
  | @subscribeOpen client key socket fresh absent =>
    rcases inBucket_addClient inside with old | ⟨rfl, rfl, rfl⟩
    · obtain ⟨bucket, known, member⟩ := old
      rw [openStream, Dict.get?_set] at known
      split at known
      · cases known
        cases member
      · rename_i differ
        exact Or.inl ⟨⟨bucket, known, member⟩, Dict.get?_set_ne _ _ differ⟩
    · refine Or.inr ⟨fresh, s.nextHandler, Dict.get?_set_self _ _ _, _, Dict.get?_set_self _ _ _, rfl,
        rfl, ?_⟩
      simp [openStream, Dict.getD]
  | unsubscribeAbsent absent => exact Or.inl ⟨by simpa [InBucket] using inside, by simp⟩
  | unsubscribeKeep known others =>
    have fewer := inBucket_set known rfl (fun _ _ found => (Dict.get?_of_pop found).2) inside
    exact Or.inl ⟨fewer, by simp⟩
  | @unsubscribeLast client key bucket id known last task =>
    exact Or.inl (inBucket_dropKey key (by simp [dropKey]) (by simp [dropKey]) inside)
  | @unsubscribeTaskless client key bucket known last taskless =>
    exact Or.inl (inBucket_dropKey key (by simp [dropKey]) (by simp [dropKey]) inside)
  | beginUnknown at' pc calm => exact Or.inl (inBucket_finalize inside)
  | itemGone at' pc calm gone => exact Or.inl (inBucket_finalize inside)
  | gatheredKept at' pc calm completed known others =>
    refine Or.inl ⟨inBucket_set known rfl (fun c so found => ?_) inside, rfl⟩
    rw [get?_popDead] at found
    split at found
    · cases found
    · exact found
  | gatheredEmptied at' pc calm completed known emptied =>
    obtain ⟨before, same⟩ := inBucket_finalize inside
    obtain ⟨old, kept⟩ := inBucket_dropKey _ rfl rfl before
    exact Or.inl ⟨old, same.trans kept⟩
  | ended at' pc calm => exact Or.inl (inBucket_finalize inside)
  | interruptedBody at' cancelled active => exact Or.inl (inBucket_finalize inside)
  | begin | item | attempt | settle | gatheredAlive | gatheredGone | interruptedOutside | closed =>
    exact Or.inl ⟨inside, rfl⟩

/-- What a step does to one handler. -/
inductive HandlerMove (s : State Key Socket Item) (id : HandlerId)
    (handler : Handler Key Socket Item) : Event Key Socket Item → Handler Key Socket Item → Prop
  | stay {ev : Event Key Socket Item} : HandlerMove s id handler ev handler
  | cancel {ev : Event Key Socket Item} :
      HandlerMove s id handler ev { handler with cancelled := true }
  | stop {ev : Event Key Socket Item} {moved : Handler Key Socket Item}
      (key : moved.key = handler.key) (yielded : moved.yielded = handler.yielded)
      (stopped : moved.pc.active = false) : HandlerMove s id handler ev moved
  | begin (pc : handler.pc = .created) :
      HandlerMove s id handler (.begin id true) { handler with pc := .receiving }
  | gathered {sends : List (Send Socket)} (pc : handler.pc = .sending sends)
      (runs : handler.running = true) (completed : ∀ send ∈ sends, send.completed = true) :
      HandlerMove s id handler (.gathered id) { handler with pc := .receiving }
  | item {x : Item} {bucket : Dict ClientId Socket} (pc : handler.pc = .receiving)
      (runs : handler.running = true) (known : s.activeStreams.get? handler.key = some bucket) :
      HandlerMove s id handler (.item id x)
        { handler.yields x with pc := .sending (freshSends bucket) }
  | attempt {client : ClientId} {sends : List (Send Socket)} {x : Item}
      (pc : handler.pc = .sending sends) (last : handler.yielded.getLast? = some x)
      (unstarted : statusOf sends client = some .unstarted) :
      HandlerMove s id handler (.attempt id client)
        { handler with pc := .sending (setStatus client .started sends) }
  | settle {client : ClientId} {ok : Bool} {sends : List (Send Socket)}
      (pc : handler.pc = .sending sends) (started : statusOf sends client = some .started) :
      HandlerMove s id handler (.settle id client ok)
        { handler with pc := .sending (setStatus client (if ok then .sent else .failed) sends) }

/-- One handler moves and the others stay. -/
theorem handlerMove_set {s s' : State Key Socket Item} {ev : Event Key Socket Item}
    {id : HandlerId} {handler moved : Handler Key Socket Item}
    (at' : s.handlers.get? id = some handler) (handlers : s'.handlers = s.handlers.set id moved)
    (move : HandlerMove s id handler ev moved) {id' : HandlerId} {found : Handler Key Socket Item}
    (now : s'.handlers.get? id' = some found) :
    ∃ before, s.handlers.get? id' = some before ∧ HandlerMove s id' before ev found := by
  rw [handlers, Dict.get?_set] at now
  split at now
  · rename_i same
    cases now
    exact same ▸ ⟨handler, at', move⟩
  · exact ⟨found, now, .stay⟩

/-- The `finally` of a handler, registered or not. -/
theorem handlerMove_finalize {s s₁ : State Key Socket Item} {ev : Event Key Socket Item}
    {id : HandlerId} {handler : Handler Key Socket Item}
    (at' : s.handlers.get? id = some handler) {id' : HandlerId} {found : Handler Key Socket Item}
    (now : (finalize s₁ id handler).handlers.get? id' = some found)
    (same : s₁.handlers = s.handlers) :
    ∃ before, s.handlers.get? id' = some before ∧ HandlerMove s id' before ev found := by
  obtain ⟨pc, stopped, handlers⟩ := finalize_handlers s₁ id handler
  rw [same] at handlers
  exact handlerMove_set at' handlers (.stop rfl rfl stopped) now

/-- A handler is as it was, or it moved, or it is new. -/
theorem handlers_step {s s' : State Key Socket Item} {ev : Event Key Socket Item} (h : Tasks s)
    (step : Step s ev s') {id : HandlerId} {found : Handler Key Socket Item}
    (now : s'.handlers.get? id = some found) :
    (s.handlers.get? id = none ∧ found.pc = .created ∧ found.yielded = []) ∨
      ∃ before, s.handlers.get? id = some before ∧ HandlerMove s id before ev found := by
  cases step with
  | subscribeJoin fresh known => exact Or.inr ⟨found, now, .stay⟩
  | @subscribeOpen client key socket fresh absent =>
    change (s.handlers.set s.nextHandler _).get? id = some found at now
    rw [Dict.get?_set] at now
    split at now
    · rename_i same
      cases now
      refine Or.inl ⟨?_, rfl, rfl⟩
      cases older : s.handlers.get? id with
      | none => rfl
      | some handler => exact absurd same (Nat.ne_of_lt (h.fresh id handler older))
    · exact Or.inr ⟨found, now, .stay⟩
  | unsubscribeAbsent absent => exact Or.inr ⟨found, by simpa using now, .stay⟩
  | unsubscribeKeep known others => exact Or.inr ⟨found, by simpa using now, .stay⟩
  | @unsubscribeLast client key bucket task known last registered =>
    obtain ⟨handler, at', -, runs⟩ := h.live key task registered
    have at'' : (dropKey (markUnsubscribed s key client) key).handlers.get? task = some handler := by
      simpa [dropKey] using at'
    rw [cancelTask_running at'' runs] at now
    exact Or.inr (handlerMove_set at' (by simp [StreamManager.setHandler, dropKey]) .cancel now)
  | unsubscribeTaskless known last taskless =>
    exact Or.inr ⟨found, by simpa [dropKey] using now, .stay⟩
  | begin at' pc calm => exact Or.inr (handlerMove_set at' rfl (.begin pc) now)
  | beginUnknown at' pc calm => exact Or.inr (handlerMove_finalize at' now rfl)
  | @item id x handler at' pc calm clients =>
    have runs := running_of_calm calm (by rw [pc]; rfl)
    obtain ⟨bucket, known, -⟩ := h.clients at' runs
    refine Or.inr (handlerMove_set at' rfl ?_ now)
    rw [show s.activeStreams.getD handler.key .empty = bucket by simp [Dict.getD, known]]
    exact .item pc runs known
  | itemGone at' pc calm gone =>
    obtain ⟨bucket, known, filled⟩ := h.clients at' (running_of_calm calm (by rw [pc]; rfl))
    rw [Dict.getD, known, Option.getD_some, filled] at gone
    cases gone
  | attempt at' pc calm last unstarted =>
    exact Or.inr (handlerMove_set at' rfl (.attempt pc last unstarted) now)
  | settle at' pc started => exact Or.inr (handlerMove_set at' rfl (.settle pc started) now)
  | gatheredAlive at' pc calm completed alive =>
    exact Or.inr (handlerMove_set at' rfl
      (.gathered pc (running_of_calm calm (by rw [pc]; rfl)) completed) now)
  | gatheredGone at' pc calm completed gone =>
    exact Or.inr (handlerMove_set at' rfl
      (.gathered pc (running_of_calm calm (by rw [pc]; rfl)) completed) now)
  | gatheredKept at' pc calm completed known others =>
    exact Or.inr (handlerMove_set at' rfl
      (.gathered pc (running_of_calm calm (by rw [pc]; rfl)) completed) now)
  | gatheredEmptied at' pc calm completed known emptied =>
    exact Or.inr (handlerMove_finalize at' now rfl)
  | ended at' pc calm => exact Or.inr (handlerMove_finalize at' now rfl)
  | interruptedBody at' cancelled active => exact Or.inr (handlerMove_finalize at' now rfl)
  | interruptedOutside at' cancelled outside =>
    refine Or.inr (handlerMove_set at' rfl ?_ now)
    exact .stop rfl rfl rfl
  | closed at' pc =>
    refine Or.inr (handlerMove_set at' rfl ?_ now)
    exact .stop rfl rfl rfl

structure Clients (s : State Key Socket Item) : Prop where
  owner : ∀ k c so, InBucket s k c so → ∃ h, s.upstreamTasks.get? k = some h ∧ Joined s c k so h
  sends : ∀ h handler sends, s.handlers.get? h = some handler → handler.pc = .sending sends →
    ∀ send ∈ sends, Joined s send.client handler.key send.socket h

theorem Clients.initial : Clients (State.initial : State Key Socket Item) where
  owner := fun _ _ _ inside => by
    obtain ⟨bucket, known, -⟩ := inside
    simp [State.initial] at known
  sends := fun _ _ _ found => by simp [State.initial] at found

omit [DecidableEq Key] in
theorem joined_unique {s : State Key Socket Item} {c : ClientId} {k k' : Key} {so so' : Socket}
    {h h' : HandlerId} (first : Joined s c k so h) (second : Joined s c k' so' h') :
    k = k' ∧ so = so' ∧ h = h' := by
  obtain ⟨sub, found, rfl, rfl, rfl⟩ := first
  obtain ⟨sub', found', rfl, rfl, rfl⟩ := second
  rw [found] at found'
  cases found'
  exact ⟨rfl, rfl, rfl⟩

omit [DecidableEq Key] in
theorem mem_freshSends {bucket : Dict ClientId Socket} {send : Send Socket}
    (member : send ∈ freshSends bucket) :
    bucket.get? send.client = some send.socket ∧ send.status = .unstarted := by
  obtain ⟨e, inside, rfl⟩ := List.mem_map.mp member
  exact ⟨(bucket.get?_eq_some_iff _ _).mpr inside, rfl⟩

omit [DecidableEq Key] in
theorem mem_setStatus {client : ClientId} {status : SendStatus} {sends : List (Send Socket)}
    {send : Send Socket} (member : send ∈ setStatus client status sends) :
    ∃ before ∈ sends, before.client = send.client ∧ before.socket = send.socket := by
  obtain ⟨before, inside, rfl⟩ := List.mem_map.mp member
  exact ⟨before, inside, by split <;> rfl, by split <;> rfl⟩

theorem Clients.step {s s' : State Key Socket Item} {ev : Event Key Socket Item} (h : Clients s)
    (tasks : Tasks s) (step : Step s ev s') : Clients s' where
  owner := fun k c so inside => by
    rcases inBucket_step tasks step inside with ⟨before, same⟩ | ⟨-, id, task, joined⟩
    · obtain ⟨id, task, joined⟩ := h.owner k c so before
      exact ⟨id, same.trans task, joined_step step joined⟩
    · exact ⟨id, task, joined⟩
  sends := fun id found sends now sending => by
    rcases handlers_step tasks step now with ⟨-, pc, -⟩ | ⟨before, at', move⟩
    · rw [pc] at sending
      cases sending
    · cases move with
      | stay =>
        exact fun send member => joined_step step (h.sends id found sends at' sending send member)
      | cancel =>
        exact fun send member => joined_step step (h.sends id before sends at' sending send member)
      | stop key yielded stopped =>
        rw [sending] at stopped
        cases stopped
      | begin pc => cases sending
      | gathered pc runs completed => cases sending
      | @item x bucket pc runs known =>
        cases sending
        intro send member
        obtain ⟨inside, -⟩ := mem_freshSends member
        obtain ⟨owner, task, joined⟩ := h.owner before.key _ _ ⟨bucket, known, inside⟩
        rw [tasks.registered id before at' runs] at task
        cases task
        exact joined_step step joined
      | attempt pc last unstarted =>
        cases sending
        intro send member
        obtain ⟨old, inside, client, socket⟩ := mem_setStatus member
        have joined := h.sends id before _ at' pc old inside
        exact joined_step step (client ▸ socket ▸ joined)
      | settle pc started =>
        cases sending
        intro send member
        obtain ⟨old, inside, client, socket⟩ := mem_setStatus member
        have joined := h.sends id before _ at' pc old inside
        exact joined_step step (client ▸ socket ▸ joined)

theorem clients_reachable {s : State Key Socket Item} (run : Reachable system anyStep s) :
    Clients s :=
  run.invariant .initial fun _ _ _ reached before _ taken =>
    before.step (tasks_reachable reached) (step_cases taken)

/-- A close task is never taken back. -/
theorem closes_step {s s' : State Key Socket Item} {ev : Event Key Socket Item}
    (step : Step s ev s') {so : Socket} (closing : so ∈ s.closes) : so ∈ s'.closes := by
  have finalized : ∀ (s : State Key Socket Item) h (handler : Handler Key Socket Item),
      so ∈ s.closes → so ∈ (finalize s h handler).closes := by
    intro s h handler closing
    unfold finalize
    split
    · exact List.mem_append_left _ closing
    · exact closing
  cases step with
  | unsubscribeAbsent absent => simpa using closing
  | unsubscribeKeep known others => simpa using closing
  | unsubscribeLast known last task => simpa [dropKey] using closing
  | unsubscribeTaskless known last taskless => simpa [dropKey] using closing
  | gatheredGone at' pc calm completed gone => exact List.mem_append_left _ closing
  | gatheredKept at' pc calm completed known others => exact List.mem_append_left _ closing
  | gatheredEmptied at' pc calm completed known emptied =>
    exact finalized _ _ _ (List.mem_append_left _ closing)
  | beginUnknown | itemGone | ended | interruptedBody => exact finalized _ _ _ closing
  | subscribeJoin | subscribeOpen | begin | item | attempt | settle | gatheredAlive
  | interruptedOutside | closed => exact closing

/-- The `finally` of a handler tells every client of its bucket to close. -/
theorem inBucket_finalized {s : State Key Socket Item} {k : Key} {c : ClientId} {so : Socket}
    (inside : InBucket s k c so) (h : HandlerId) (handler : Handler Key Socket Item) :
    InBucket (finalize s h handler) k c so ∨ so ∈ (finalize s h handler).closes := by
  by_cases task : s.upstreamTasks.get? handler.key = some h
  · rw [finalize_registered task]
    obtain ⟨bucket, known, member⟩ := inside
    by_cases same : k = handler.key
    · subst same
      refine Or.inr (List.mem_append_right _ ?_)
      rw [Dict.getD, known]
      exact (bucket.mem_values_iff so).mpr ⟨c, member⟩
    · exact Or.inl ⟨bucket, by rw [← known]; exact Dict.get?_pop_ne _ same, member⟩
  · rw [finalize_unregistered task]
    exact Or.inl inside

theorem inBucket_addClient_old {s : State Key Socket Item} {client c : ClientId} {key k : Key}
    {socket so : Socket} (inside : InBucket s k c so) (differ : c ≠ client) :
    InBucket (addClient s client key socket) k c so := by
  obtain ⟨bucket, known, member⟩ := inside
  by_cases same : k = key
  · subst same
    refine ⟨_, Dict.get?_set_self _ _ _, ?_⟩
    rw [Dict.get?_set_ne _ _ differ, Dict.getD, known]
    exact member
  · exact ⟨bucket, by rw [addClient, Dict.get?_set_ne _ _ same, known], member⟩

/-- A client whose send failed and that leaves its bucket is told to close. -/
theorem mem_closes_of_dead {s : State Key Socket Item} (h : Clients s) {k : Key} {c : ClientId}
    {so : Socket} (inside : InBucket s k c so) {id : HandlerId}
    {handler : Handler Key Socket Item} {sends : List (Send Socket)}
    (at' : s.handlers.get? id = some handler) (pc : handler.pc = .sending sends)
    (dead : c ∈ (deadItems sends).map Send.client) : so ∈ (deadItems sends).map Send.socket := by
  obtain ⟨send, member, rfl⟩ := List.mem_map.mp dead
  have joined := h.sends id handler sends at' pc send (List.mem_filter.mp member).1
  obtain ⟨owner, -, joined'⟩ := h.owner k send.client so inside
  exact List.mem_map.mpr ⟨send, member, (joined_unique joined joined').2.1⟩

/-- Who subscribes anew is not in a bucket yet. -/
theorem Clients.ne_of_fresh {s : State Key Socket Item} (h : Clients s) {k : Key}
    {c client : ClientId} {so : Socket} (inside : InBucket s k c so)
    (fresh : s.subscriptions.get? client = none) : c ≠ client := by
  rintro rfl
  obtain ⟨-, -, sub, found, -⟩ := h.owner k c so inside
  rw [fresh] at found
  cases found

theorem inBucket_openStream {s : State Key Socket Item} {k key : Key} {c : ClientId} {so : Socket}
    (inside : InBucket s k c so) (absent : s.activeStreams.get? key = none) :
    InBucket (openStream s key) k c so := by
  obtain ⟨bucket, known, member⟩ := inside
  have differ : k ≠ key := by
    rintro rfl
    rw [absent] at known
    cases known
  exact ⟨bucket, by rw [openStream, Dict.get?_set_ne _ _ differ, known], member⟩

section Replaced
variable {s s' : State Key Socket Item} {k key : Key} {c : ClientId} {so : Socket}
  {bucket fewer : Dict ClientId Socket}

/-- A bucket is replaced by one that still has the client. -/
theorem inBucket_replaced (inside : InBucket s k c so)
    (known : s.activeStreams.get? key = some bucket)
    (keeps : k = key → fewer.get? c = bucket.get? c)
    (streams : s'.activeStreams = s.activeStreams.set key fewer) : InBucket s' k c so := by
  obtain ⟨own, known', member⟩ := inside
  by_cases same : k = key
  · subst same
    cases known.symm.trans known'
    exact ⟨fewer, by rw [streams, Dict.get?_set_self], (keeps rfl).trans member⟩
  · exact ⟨own, by rw [streams, Dict.get?_set_ne _ _ same, known'], member⟩

/-- A bucket is dropped once nobody is left in it. -/
theorem inBucket_dropped (inside : InBucket s k c so)
    (known : s.activeStreams.get? key = some bucket)
    (keeps : k = key → fewer.get? c = bucket.get? c) (emptied : fewer.isEmpty = true)
    (streams : s'.activeStreams = s.activeStreams.pop key) : InBucket s' k c so := by
  obtain ⟨own, known', member⟩ := inside
  have differ : k ≠ key := by
    rintro rfl
    cases known.symm.trans known'
    have gone := (Dict.isEmpty_iff _).mp emptied c
    rw [keeps rfl, member] at gone
    cases gone
  exact ⟨own, by rw [streams, Dict.get?_pop_ne _ differ, known'], member⟩

end Replaced

/-- A client stays in its bucket until it is unsubscribed or told to close. -/
theorem inBucket_kept {s s' : State Key Socket Item} {ev : Event Key Socket Item} (h : Clients s)
    (step : Step s ev s') {k : Key} {c : ClientId} {so : Socket} (inside : InBucket s k c so) :
    InBucket s' k c so ∨ so ∈ s'.closes ∨ ev = .unsubscribe k c := by
  have finalized : ∀ (s : State Key Socket Item) id handler, InBucket s k c so →
      InBucket (finalize s id handler) k c so ∨ so ∈ (finalize s id handler).closes ∨
        ev = .unsubscribe k c :=
    fun s id handler inside => (inBucket_finalized inside id handler).imp_right Or.inl
  have others {client : ClientId} {key : Key} {bucket : Dict ClientId Socket}
      (differ : ¬ (k = key ∧ c = client)) (same : k = key) :
      (bucket.pop client).get? c = bucket.get? c :=
    Dict.get?_pop_ne _ fun is => differ ⟨same, is⟩
  cases step with
  | subscribeJoin fresh known =>
    exact Or.inl (inBucket_addClient_old inside (h.ne_of_fresh inside fresh))
  | subscribeOpen fresh absent =>
    exact Or.inl (inBucket_addClient_old (inBucket_openStream inside absent)
      (h.ne_of_fresh inside fresh))
  | unsubscribeAbsent absent => exact Or.inl (by simpa [InBucket] using inside)
  | @unsubscribeKeep client key bucket known stay =>
    by_cases own : k = key ∧ c = client
    · exact Or.inr (Or.inr (by rw [own.1, own.2]))
    · exact Or.inl (inBucket_replaced inside known (others own) rfl)
  | @unsubscribeLast client key bucket id known last task =>
    by_cases own : k = key ∧ c = client
    · exact Or.inr (Or.inr (by rw [own.1, own.2]))
    · exact Or.inl (inBucket_dropped inside known (others own) last (by simp [dropKey]))
  | @unsubscribeTaskless client key bucket known last taskless =>
    by_cases own : k = key ∧ c = client
    · exact Or.inr (Or.inr (by rw [own.1, own.2]))
    · exact Or.inl (inBucket_dropped inside known (others own) last (by simp [dropKey]))
  | @gatheredKept id handler sends bucket at' pc calm completed known stay =>
    by_cases dead : c ∈ (deadItems sends).map Send.client
    · exact Or.inr (Or.inl (List.mem_append_right _ (mem_closes_of_dead h inside at' pc dead)))
    · exact Or.inl (inBucket_replaced inside known (fun _ => by rw [get?_popDead, if_neg dead]) rfl)
  | @gatheredEmptied id handler sends bucket at' pc calm completed known emptied =>
    by_cases dead : c ∈ (deadItems sends).map Send.client
    · have closing := mem_closes_of_dead h inside at' pc dead
      rw [finalize_unregistered (by simp [dropKey])]
      exact Or.inr (Or.inl (List.mem_append_right _ closing))
    · refine finalized _ _ _ (inBucket_dropped inside known (fun _ => ?_) emptied rfl)
      rw [get?_popDead, if_neg dead]
  | beginUnknown | itemGone | ended | interruptedBody => exact finalized _ _ _ inside
  | begin | item | attempt | settle | gatheredAlive | gatheredGone | interruptedOutside | closed =>
    exact Or.inl inside

/-- A client that was not unsubscribed is in its bucket or told to close. -/
def Attached (s : State Key Socket Item) : Prop :=
  ∀ c sub, s.subscriptions.get? c = some sub → sub.unsubscribed = false →
    InBucket s sub.key c sub.socket ∨ sub.socket ∈ s.closes

/-- A subscription is new and in its bucket, or it is an old one whose client
this step does not unsubscribe. -/
theorem subscription_step {s s' : State Key Socket Item} {ev : Event Key Socket Item}
    (step : Step s ev s') {c : ClientId} {sub : Subscription Key Socket}
    (found : s'.subscriptions.get? c = some sub) (stays : sub.unsubscribed = false) :
    InBucket s' sub.key c sub.socket ∨
      (s.subscriptions.get? c = some sub ∧ ev ≠ .unsubscribe sub.key c) := by
  have added : ∀ (s : State Key Socket Item) client key socket,
      (addClient s client key socket).subscriptions.get? c = some sub →
        InBucket (addClient s client key socket) sub.key c sub.socket ∨
          s.subscriptions.get? c = some sub := by
    intro s client key socket found
    rw [addClient, Dict.get?_set] at found
    split at found
    · rename_i same
      cases found
      subst same
      exact Or.inl (inBucket_new s c key socket)
    · exact Or.inr found
  have marked : ∀ key client, (markUnsubscribed s key client).subscriptions.get? c = some sub →
      s.subscriptions.get? c = some sub ∧
        (Event.unsubscribe key client : Event Key Socket Item) ≠ .unsubscribe sub.key c := by
    intro key client found
    unfold markUnsubscribed at found
    split at found
    · rename_i old known
      split at found
      · rw [Dict.get?_set] at found
        split at found
        · cases found
          cases stays
        · rename_i differ
          refine ⟨found, fun same => ?_⟩
          cases same
          exact differ rfl
      · rename_i otherKey
        refine ⟨found, fun same => ?_⟩
        cases same
        rw [known] at found
        cases found
        exact otherKey rfl
    · rename_i unknown
      refine ⟨found, fun same => ?_⟩
      cases same
      rw [unknown] at found
      cases found
  cases step with
  | subscribeJoin fresh known => exact (added _ _ _ _ found).imp_right fun old => ⟨old, by simp⟩
  | subscribeOpen fresh absent => exact (added _ _ _ _ found).imp_right fun old => ⟨old, by simp⟩
  | unsubscribeAbsent absent => exact Or.inr (marked _ _ found)
  | unsubscribeKeep known others => exact Or.inr (marked _ _ found)
  | @unsubscribeLast client key bucket id known last task =>
    exact Or.inr (marked key client (by simpa [dropKey] using found))
  | unsubscribeTaskless known last taskless => exact Or.inr (marked _ _ found)
  | beginUnknown | itemGone | gatheredEmptied | ended | interruptedBody =>
    exact Or.inr ⟨by simpa [dropKey] using found, by simp⟩
  | begin | item | attempt | settle | gatheredAlive | gatheredGone | gatheredKept
  | interruptedOutside | closed => exact Or.inr ⟨found, by simp⟩

theorem Attached.step {s s' : State Key Socket Item} {ev : Event Key Socket Item}
    (h : Attached s) (clients : Clients s) (step : Step s ev s') : Attached s' := by
  intro c sub found stays
  rcases subscription_step step found stays with inside | ⟨old, other⟩
  · exact Or.inl inside
  · rcases h c sub old stays with inside | closing
    · exact (inBucket_kept clients step inside).imp_right fun rest => rest.resolve_right other
    · exact Or.inr (closes_step step closing)

theorem attached_reachable {s : State Key Socket Item} (run : Reachable system anyStep s) :
    Attached s :=
  run.invariant (fun _ _ found => by simp [system, State.initial] at found)
    fun _ _ _ reached before _ taken => before.step (clients_reachable reached) (step_cases taken)

/-- The registry in every state of every run: equal keys, no empty bucket, only
tasks that have not run the locked section of their `finally`, and every client
that was not unsubscribed in its bucket or told to close. -/
theorem registry_invariant {s : State Key Socket Item} (run : Reachable system anyStep s) :
    (∀ k, k ∈ s.activeStreams.keys ↔ k ∈ s.upstreamTasks.keys) ∧
    (∀ k bucket, s.activeStreams.get? k = some bucket → bucket.isEmpty = false) ∧
    (∀ k h, s.upstreamTasks.get? k = some h →
      ∃ handler, s.handlers.get? h = some handler ∧ handler.key = k ∧ handler.pc.active = true) ∧
    ∀ client sub, s.subscriptions.get? client = some sub → sub.unsubscribed = false →
      (∃ bucket, s.activeStreams.get? sub.key = some bucket ∧
        bucket.get? client = some sub.socket) ∨ sub.socket ∈ s.closes := by
  have tasks := tasks_reachable run
  refine ⟨fun k => ?_, tasks.nonempty, fun k h task => ?_, attached_reachable run⟩
  · rw [← Dict.get?_isSome_iff, ← Dict.get?_isSome_iff, tasks.sameKeys]
  · obtain ⟨handler, at', key, runs⟩ := tasks.live k h task
    exact ⟨handler, at', key, (Bool.and_eq_true_iff.mp runs).2⟩

/-- Two clients share key 5; the send to the second one times out. -/
def deadClientRun : List (Event Nat Nat Nat) :=
  [.subscribe 0 5 100, .subscribe 1 5 101, .begin 0 true, .item 0 42, .attempt 0 0, .attempt 0 1,
    .settle 0 0 true, .settle 0 1 false, .gathered 0]

theorem deadClientRun_ends :
    system.endsIn (fun _ _ => true) deadClientRun (fun s =>
      s.activeStreams.keys = [5] && s.closes = [101] &&
        s.subscriptions.get? 0 = some ⟨5, 100, 0, false⟩) = true := by decide +kernel

theorem registry_invariant_deadClient : ∃ s : State Nat Nat Nat, Reachable system anyStep s ∧
    s.closes = [101] ∧ 5 ∈ s.upstreamTasks.keys ∧
      ∃ bucket, s.activeStreams.get? 5 = some bucket ∧ bucket.get? 0 = some 100 := by
  obtain ⟨s, run, ends⟩ := System.exists_reachable (fun _ _ _ _ => trivial) deadClientRun_ends
  simp only [Bool.and_eq_true, decide_eq_true_eq] at ends
  obtain ⟨⟨keys, closes⟩, subscribed⟩ := ends
  obtain ⟨sameKeys, -, -, attached⟩ := registry_invariant run
  refine ⟨s, run, closes, (sameKeys 5).mp (by simp [keys]), ?_⟩
  rcases attached 0 _ subscribed rfl with inside | closing
  · exact inside
  · simp [closes] at closing

end ExchangeRouter.StreamManager
