import ExchangeRouter.StreamManager.Delivery

/-!
# The manager shuts down

`shutdown` clears both dictionaries and cancels the registered tasks, without
taking the lock, and waits for these tasks.  Clients may leave and come
meanwhile.  The wait for the close tasks, five seconds each, is left out.
-/
namespace ExchangeRouter.StreamManager
open Lib

variable {Key Socket Item : Type}

/-- `shutdown` up to its `gather`. -/
def shutdown (s : State Key Socket Item) : State Key Socket Item :=
  s.upstreamTasks.values.foldl cancelTask
    { s with activeStreams := .empty, upstreamTasks := .empty }

/-- The `gather` of the tasks returns. -/
def Gathered (tasks : List HandlerId) (s : State Key Socket Item) : Prop :=
  ∀ h ∈ tasks, ∃ handler, s.handlers.get? h = some handler ∧ handler.pc = .done

/-- Done, or a cancellation is on its way. -/
def Handler.leaving (handler : Handler Key Socket Item) : Prop :=
  handler.pc = .done ∨ handler.cancelled = true

theorem Handler.leaving.stopped {handler : Handler Key Socket Item} (leaving : handler.leaving) :
    handler.running = false := by
  rcases leaving with done | cancelled
  · simp [Handler.running, done, Pc.active]
  · simp [Handler.running, cancelled]

/-! ## The cancellations -/

theorem cancelTasks_frame (tasks : List HandlerId) (s : State Key Socket Item) :
    tasks.foldl cancelTask s = { s with handlers := (tasks.foldl cancelTask s).handlers } := by
  induction tasks generalizing s with
  | nil => rfl
  | cons h rest ih =>
    rw [List.foldl_cons]
    exact (ih _).trans (by rw [cancelTask_frame])

theorem cancelTask_cases (s : State Key Socket Item) (h : HandlerId) :
    (cancelTask s h = s ∧ ∀ own, s.handlers.get? h = some own → own.pc = .done) ∨
      ∃ own, s.handlers.get? h = some own ∧
        cancelTask s h = setHandler s h { own with cancelled := true } := by
  unfold cancelTask
  split
  · rename_i handler found
    split
    · rename_i done
      refine .inl ⟨rfl, fun own at' => ?_⟩
      obtain rfl : handler = own := Option.some.inj (found.symm.trans at')
      exact done
    · exact .inr ⟨handler, found, rfl⟩
  · rename_i absent
    exact .inl ⟨rfl, fun own at' => by rw [absent] at at'; cases at'⟩

/-- Cancelling a task changes no other one. -/
theorem cancelTask_get? (s : State Key Socket Item) (h other : HandlerId)
    {handler : Handler Key Socket Item} (at' : s.handlers.get? other = some handler) :
    ∃ moved, (cancelTask s h).handlers.get? other = some moved ∧
      (moved = handler ∨ moved = { handler with cancelled := true }) ∧
      (h = other → moved.leaving) := by
  rcases cancelTask_cases s h with ⟨same, done⟩ | ⟨own, found, same⟩
  · rw [same]
    refine ⟨handler, at', .inl rfl, ?_⟩
    rintro rfl
    exact .inl (done handler at')
  · rw [same, setHandler, Dict.get?_set]
    split
    · next isOwn =>
      subst isOwn
      obtain rfl : handler = own := Option.some.inj (at'.symm.trans found)
      exact ⟨_, rfl, .inr rfl, fun _ => .inr rfl⟩
    · next another => exact ⟨handler, at', .inl rfl, fun eq => absurd eq.symm another⟩

theorem cancelTasks_get? (tasks : List HandlerId) (s : State Key Socket Item) (h : HandlerId)
    {handler : Handler Key Socket Item} (at' : s.handlers.get? h = some handler) :
    ∃ moved, (tasks.foldl cancelTask s).handlers.get? h = some moved ∧
      (moved = handler ∨ moved = { handler with cancelled := true }) ∧
      (h ∈ tasks → moved.leaving) := by
  induction tasks generalizing s handler with
  | nil => exact ⟨handler, at', .inl rfl, nofun⟩
  | cons first rest ih =>
    obtain ⟨once, found, either, own⟩ := cancelTask_get? s first h at'
    obtain ⟨moved, found', either', own'⟩ := ih (cancelTask s first) found
    refine ⟨moved, found', ?_, fun member => ?_⟩
    · rcases either' with rfl | rfl
      · exact either
      · rcases either with rfl | rfl
        · exact .inr rfl
        · exact .inr rfl
    · rcases List.mem_cons.mp member with rfl | later
      · rcases either' with rfl | rfl
        · exact own rfl
        · exact .inr rfl
      · exact own' later

theorem cancelTasks_none (tasks : List HandlerId) (s : State Key Socket Item) (h : HandlerId)
    (absent : s.handlers.get? h = none) : (tasks.foldl cancelTask s).handlers.get? h = none := by
  induction tasks generalizing s with
  | nil => exact absent
  | cons first rest ih =>
    refine ih (cancelTask s first) ?_
    rcases cancelTask_cases s first with ⟨same, -⟩ | ⟨own, found, same⟩
    · rw [same, absent]
    · have another : h ≠ first := by
        rintro rfl
        rw [absent] at found
        cases found
      rw [same, setHandler, Dict.get?_set_ne _ _ another, absent]

variable [DecidableEq Key]

/-! ## A stopped task -/

/-- A task that is leaving does not come back. -/
theorem leaving_step {t t' : State Key Socket Item} {ev : Event Key Socket Item} (tasks : Tasks t)
    (step : Step t ev t') {h : HandlerId} {handler : Handler Key Socket Item}
    (at' : t.handlers.get? h = some handler) (stopped : handler.running = false) :
    ∃ moved, t'.handlers.get? h = some moved ∧ moved.running = false ∧
      (handler.leaving → moved.leaving) := by
  have kept : ∃ moved, t.handlers.get? h = some moved ∧ moved.running = false ∧
      (handler.leaving → moved.leaving) := ⟨handler, at', stopped, id⟩
  have set : ∀ id own, (h = id → own.running = false ∧ (handler.leaving → own.leaving)) →
      ∃ moved, (t.handlers.set id own).get? h = some moved ∧ moved.running = false ∧
        (handler.leaving → moved.leaving) := by
    intro id own fits
    rw [Dict.get?_set]
    split
    · exact ⟨own, rfl, fits ‹_›⟩
    · exact kept
  -- a running task is another one
  have other : ∀ {id own}, t.handlers.get? id = some own → own.running = true → h ≠ id := by
    rintro id own found runs rfl
    obtain rfl : handler = own := Option.some.inj (at'.symm.trans found)
    rw [stopped] at runs
    cases runs
  have finalized : ∀ {t₁ : State Key Socket Item} {id own}, t₁.handlers = t.handlers → h ≠ id →
      ∃ moved, (finalize t₁ id own).handlers.get? h = some moved ∧ moved.running = false ∧
        (handler.leaving → moved.leaving) := by
    intro t₁ id own same another
    obtain ⟨pc, -, handlers⟩ := finalize_handlers t₁ id own
    rw [handlers, same]
    exact set _ _ fun eq => absurd eq another
  have own : ∀ {found}, t.handlers.get? h = some found → found = handler := fun found =>
    Option.some.inj (found.symm.trans at')
  cases step with
  | subscribeJoin => exact kept
  | subscribeOpen => exact set _ _ fun eq => absurd eq (Nat.ne_of_lt (tasks.fresh h handler at'))
  | unsubscribeAbsent | unsubscribeKeep | unsubscribeTaskless => simpa [dropKey] using kept
  | @unsubscribeLast client key bucket id known last task =>
    obtain ⟨own, found, -, runs⟩ := tasks.live key id task
    have found' : (dropKey (markUnsubscribed t key client) key).handlers.get? id = some own := by
      simpa [dropKey] using found
    rw [cancelTask_running found' runs]
    simpa [setHandler, dropKey] using set id { own with cancelled := true }
      fun eq => absurd eq (other found runs)
  | begin found pc calm | attempt found pc calm =>
    exact set _ _ fun eq => absurd eq (other found (running_of_calm calm (by rw [pc]; rfl)))
  | item found pc calm =>
    exact set _ _ fun eq => absurd eq (other found (running_of_calm calm (by rw [pc]; rfl)))
  | gatheredAlive found pc calm | gatheredGone found pc calm | gatheredKept found pc calm =>
    exact set _ _ fun eq => absurd eq (other found (running_of_calm calm (by rw [pc]; rfl)))
  | beginUnknown found pc calm | ended found pc calm | itemGone found pc calm =>
    exact finalized rfl (other found (running_of_calm calm (by rw [pc]; rfl)))
  | gatheredEmptied found pc calm =>
    exact finalized rfl (other found (running_of_calm calm (by rw [pc]; rfl)))
  | settle found pc =>
    refine set _ _ ?_
    rintro rfl
    obtain rfl := own found
    refine ⟨by simpa [Handler.running, pc, Pc.active] using stopped, fun leaving => .inr ?_⟩
    exact leaving.resolve_left (by simp [pc])
  | interruptedBody found cancelled active =>
    rw [finalize_unregistered (tasks.unregistered found (by simp [Handler.running, cancelled]) _)]
    exact set _ _ fun _ => ⟨rfl, fun _ => .inl rfl⟩
  | interruptedOutside found cancelled outside =>
    exact set _ _ fun _ => ⟨rfl, fun _ => .inl rfl⟩
  | closed found pc =>
    exact set _ _ fun _ => ⟨by simp [Handler.running, Pc.active], fun _ => .inl rfl⟩

/-- A task that is leaving can be over at once. -/
theorem leaving_interrupted {t : State Key Socket Item} (tasks : Tasks t) {h : HandlerId}
    {handler : Handler Key Socket Item} (at' : t.handlers.get? h = some handler)
    (leaving : handler.leaving) :
    handler.pc = .done ∨ interrupted t h =
      some (setHandler t h { handler with pc := .done, cancelled := false }) := by
  rcases leaving with done | cancelled
  · exact .inl done
  · have unregistered := tasks.unregistered at' (by simp [Handler.running, cancelled]) handler.key
    cases pc : handler.pc with
    | done => exact .inl rfl
    | created | closing => exact .inr (by simp [interrupted, at', cancelled, pc])
    | receiving | sending =>
      exact .inr (by simp [interrupted, at', cancelled, pc, finalize_unregistered unregistered])

/-! ## What the tasks still do -/

/-- A client of a running task. -/
def Served (t : State Key Socket Item) (client : ClientId) (socket : Socket) : Prop :=
  ∃ key h handler, Joined t client key socket h ∧ t.handlers.get? h = some handler ∧
    handler.running = true

/-- Only running tasks send. -/
theorem history_served {t t' : State Key Socket Item} {ev : Event Key Socket Item}
    (clients : Clients t) (step : Step t ev t') :
    ∃ more, t'.history = t.history ++ more ∧
      ∀ c h index x, .attempt c h index x ∈ more → ∃ socket, Served t c socket := by
  have nothing : ∀ {t' : State Key Socket Item}, t'.history = t.history →
      ∃ more, t'.history = t.history ++ more ∧
        ∀ c h index x, .attempt c h index x ∈ more → ∃ socket, Served t c socket :=
    fun same => ⟨[], by rw [same, List.append_nil], nofun⟩
  cases step with
  | @attempt h client handler sends x at' pc calm last unstarted =>
    refine ⟨_, rfl, fun c h' index x' member => ?_⟩
    cases List.mem_singleton.mp member
    obtain ⟨socket, joined⟩ := clients.joined_of_status at' pc unstarted
    exact ⟨socket, _, _, handler, joined, at', running_of_calm calm (by rw [pc]; rfl)⟩
  | @settle h client ok handler sends at' pc started =>
    cases ok with
    | true => exact nothing rfl
    | false => exact ⟨_, rfl, fun c h index x member => by cases List.mem_singleton.mp member⟩
  | subscribeJoin | subscribeOpen | begin | item | gatheredAlive | gatheredGone | gatheredKept =>
    exact nothing rfl
  | unsubscribeAbsent | unsubscribeKeep | unsubscribeLast | unsubscribeTaskless =>
    exact nothing (by simp [dropKey])
  | beginUnknown | itemGone | gatheredEmptied | ended | interruptedBody =>
    exact nothing (by simp [dropKey])
  | interruptedOutside | closed => exact nothing rfl

/-- Only clients of running tasks are told to close. -/
theorem closes_served {t t' : State Key Socket Item} {ev : Event Key Socket Item}
    (tasks : Tasks t) (clients : Clients t) (step : Step t ev t') :
    ∃ told, t'.closes = t.closes ++ told ∧ ∀ socket ∈ told, ∃ c, Served t c socket := by
  have nothing : ∀ {t' : State Key Socket Item}, t'.closes = t.closes →
      ∃ told, t'.closes = t.closes ++ told ∧ ∀ socket ∈ told, ∃ c, Served t c socket :=
    fun same => ⟨[], by rw [same, List.append_nil], nofun⟩
  have dead : ∀ {h handler sends}, t.handlers.get? h = some handler → handler.pc = .sending sends →
      handler.cancelled = false →
      ∀ socket ∈ (deadItems sends).map Send.socket, ∃ c, Served t c socket := by
    intro h handler sends at' pc calm socket member
    obtain ⟨send, failed, rfl⟩ := List.mem_map.mp member
    have joined := clients.sends h handler sends at' pc send (List.mem_filter.mp failed).1
    exact ⟨send.client, _, h, handler, joined, at', running_of_calm calm (by rw [pc]; rfl)⟩
  -- the `finally` of a running task tells the clients of its bucket
  have finalized : ∀ {h handler} {moved : Handler Key Socket Item},
      t.handlers.get? h = some handler → handler.running = true → moved.key = handler.key →
      ∃ told, (finalize t h moved).closes = t.closes ++ told ∧
        ∀ socket ∈ told, ∃ c, Served t c socket := by
    intro h handler moved at' runs key
    have task := tasks.registered h handler at' runs
    rw [finalize_registered (key ▸ task), key]
    refine ⟨_, rfl, fun socket member => ?_⟩
    obtain ⟨c, inside⟩ := (Dict.mem_values_iff _ socket).mp member
    obtain ⟨bucket, known, -⟩ := tasks.clients at' runs
    rw [Dict.getD, known] at inside
    obtain ⟨owner, task', joined⟩ := clients.owner handler.key c socket ⟨bucket, known, inside⟩
    obtain rfl : h = owner := Option.some.inj (task.symm.trans task')
    exact ⟨c, _, h, handler, joined, at', runs⟩
  cases step with
  | subscribeJoin | subscribeOpen | begin | item | attempt | settle | gatheredAlive =>
    exact nothing rfl
  | unsubscribeAbsent | unsubscribeKeep | unsubscribeLast | unsubscribeTaskless =>
    exact nothing (by simp [dropKey])
  | beginUnknown at' pc calm | ended at' pc calm | itemGone at' pc calm =>
    exact finalized at' (running_of_calm calm (by rw [pc]; rfl)) rfl
  | gatheredGone at' pc calm => exact ⟨_, rfl, dead at' pc calm⟩
  | gatheredKept at' pc calm => exact ⟨_, rfl, dead at' pc calm⟩
  | gatheredEmptied at' pc calm =>
    refine ⟨_, ?_, dead at' pc calm⟩
    rw [finalize_unregistered (by simp [dropKey])]
    rfl
  | interruptedBody at' cancelled active =>
    rw [finalize_unregistered (tasks.unregistered at' (by simp [Handler.running, cancelled]) _)]
    exact nothing rfl
  | interruptedOutside | closed => exact nothing rfl

/-! ## After the shutdown -/

/-- A state after the shutdown of `s`: what was subscribed before it is over. -/
structure Silenced (s t : State Key Socket Item) : Prop where
  tasks : Tasks t
  clients : Clients t
  stopped : ∀ h handler, s.handlers.get? h = some handler →
    ∃ moved, t.handlers.get? h = some moved ∧ moved.running = false
  leaving : ∀ h ∈ s.upstreamTasks.values,
    ∃ moved, t.handlers.get? h = some moved ∧ moved.leaving
  joined : ∀ c key socket h, Joined s c key socket h → Joined t c key socket h
  known : ∀ c key socket h, Joined s c key socket h → ∃ handler, s.handlers.get? h = some handler
  history : ∃ more, t.history = s.history ++ more ∧
    ∀ c h index x, .attempt c h index x ∈ more → s.subscriptions.get? c = none
  closes : ∃ told, t.closes = s.closes ++ told ∧ ∀ socket ∈ told, ∃ c key h,
    Joined t c key socket h ∧ s.subscriptions.get? c = none
  attached : ∀ c sub, t.subscriptions.get? c = some sub → s.subscriptions.get? c = none →
    sub.unsubscribed = false → InBucket t sub.key c sub.socket ∨ sub.socket ∈ t.closes

theorem Silenced.fresh {s t : State Key Socket Item} (silenced : Silenced s t) {c : ClientId}
    {socket : Socket} (served : Served t c socket) : s.subscriptions.get? c = none := by
  obtain ⟨key, h, handler, joined, at', runs⟩ := served
  cases before : s.subscriptions.get? c with
  | none => rfl
  | some sub =>
    have old : Joined s c sub.key sub.socket sub.handler := ⟨sub, before, rfl, rfl, rfl⟩
    obtain ⟨own, there⟩ := silenced.known _ _ _ _ old
    obtain ⟨-, -, rfl⟩ := joined_unique joined (silenced.joined _ _ _ _ old)
    obtain ⟨moved, now, stopped⟩ := silenced.stopped _ own there
    obtain rfl : handler = moved := Option.some.inj (at'.symm.trans now)
    rw [stopped] at runs
    cases runs

theorem Silenced.step {s t t' : State Key Socket Item} {ev : Event Key Socket Item}
    (silenced : Silenced s t) (step : Step t ev t') : Silenced s t' where
  tasks := silenced.tasks.step step
  clients := silenced.clients.step silenced.tasks step
  stopped := fun h handler there => by
    obtain ⟨moved, now, stopped⟩ := silenced.stopped h handler there
    obtain ⟨next, then', stopped', -⟩ := leaving_step silenced.tasks step now stopped
    exact ⟨next, then', stopped'⟩
  leaving := fun h member => by
    obtain ⟨moved, now, leaving⟩ := silenced.leaving h member
    obtain ⟨next, then', -, stays⟩ := leaving_step silenced.tasks step now leaving.stopped
    exact ⟨next, then', stays leaving⟩
  joined := fun c key socket h joined => joined_step step (silenced.joined c key socket h joined)
  known := silenced.known
  history := by
    obtain ⟨before, told, own⟩ := silenced.history
    obtain ⟨more, grown, served⟩ := history_served silenced.clients step
    refine ⟨before ++ more, by rw [grown, told, List.append_assoc], fun c h index x member => ?_⟩
    rcases List.mem_append.mp member with early | late
    · exact own c h index x early
    · obtain ⟨socket, served⟩ := served c h index x late
      exact silenced.fresh served
  closes := by
    obtain ⟨before, told, own⟩ := silenced.closes
    obtain ⟨more, grown, served⟩ := closes_served silenced.tasks silenced.clients step
    refine ⟨before ++ more, by rw [grown, told, List.append_assoc], fun socket member => ?_⟩
    rcases List.mem_append.mp member with early | late
    · obtain ⟨c, key, h, joined, new⟩ := own socket early
      exact ⟨c, key, h, joined_step step joined, new⟩
    · obtain ⟨c, served⟩ := served socket late
      have new := silenced.fresh served
      obtain ⟨key, h, handler, joined, -⟩ := served
      exact ⟨c, key, h, joined_step step joined, new⟩
  attached := fun c sub found new stays => by
    rcases subscription_step step found stays with inside | ⟨old, other⟩
    · exact .inl inside
    · rcases silenced.attached c sub old new stays with inside | closing
      · exact (inBucket_kept silenced.clients step inside).imp_right fun rest =>
          rest.resolve_right other
      · exact .inr (closes_step step closing)

omit [DecidableEq Key] in
theorem shutdown_frame (s : State Key Socket Item) :
    shutdown s = { s with
      activeStreams := .empty, upstreamTasks := .empty, handlers := (shutdown s).handlers } :=
  cancelTasks_frame _ _

/-- No task runs once the registered ones are cancelled. -/
theorem shutdown_stopped {s : State Key Socket Item} (tasks : Tasks s) {h : HandlerId}
    {moved : Handler Key Socket Item} (now : (shutdown s).handlers.get? h = some moved) :
    ∃ handler, s.handlers.get? h = some handler ∧
      (moved = handler ∨ moved = { handler with cancelled := true }) ∧ moved.running = false := by
  cases at' : s.handlers.get? h with
  | none =>
    have absent : (shutdown s).handlers.get? h = none := cancelTasks_none _ _ h at'
    rw [absent] at now
    cases now
  | some handler =>
    obtain ⟨same, found, either, own⟩ := cancelTasks_get? s.upstreamTasks.values
      { s with activeStreams := .empty, upstreamTasks := .empty } h at'
    obtain rfl : same = moved := Option.some.inj (found.symm.trans now)
    refine ⟨handler, rfl, either, ?_⟩
    rcases either with rfl | rfl
    · cases runs : same.running with
      | false => rfl
      | true =>
        have task := tasks.registered h same at' runs
        exact runs.symm.trans (own ((Dict.mem_values_iff _ h).mpr ⟨_, task⟩)).stopped
    · rfl

theorem Silenced.shutdown {s : State Key Socket Item} (run : Reachable system anyStep s) :
    Silenced s (shutdown s) := by
  have tasks := tasks_reachable run
  have frame := shutdown_frame s
  have subscriptions : (StreamManager.shutdown s).subscriptions = s.subscriptions := by rw [frame]
  have streams : (StreamManager.shutdown s).activeStreams = .empty := by rw [frame]
  have registered : (StreamManager.shutdown s).upstreamTasks = .empty := by rw [frame]
  have joined : ∀ c key socket h, Joined s c key socket h →
      Joined (StreamManager.shutdown s) c key socket h := by
    intro c key socket h old
    rwa [Joined, subscriptions]
  refine ⟨?_, ⟨?_, ?_⟩, ?_, ?_, joined, ?_, ?_, ?_, ?_⟩
  · refine ⟨?_, ?_, ?_, ?_, ?_⟩
    · intro k
      rw [streams, registered]
      rfl
    · intro k bucket found
      rw [streams] at found
      cases found
    · intro k h found
      rw [registered] at found
      cases found
    · intro h moved now runs
      obtain ⟨handler, -, -, stopped⟩ := shutdown_stopped tasks now
      rw [stopped] at runs
      cases runs
    · intro h moved now
      obtain ⟨handler, at', -⟩ := shutdown_stopped tasks now
      have next : (StreamManager.shutdown s).nextHandler = s.nextHandler := by rw [frame]
      exact next ▸ tasks.fresh h handler at'
  · rintro k c socket ⟨bucket, known, -⟩
    rw [streams] at known
    cases known
  · intro h moved sends now pc send member
    obtain ⟨handler, at', either, -⟩ := shutdown_stopped tasks now
    rcases either with rfl | rfl
    · exact joined _ _ _ _ ((clients_reachable run).sends h _ sends at' pc send member)
    · exact joined _ _ _ _ ((clients_reachable run).sends h handler sends at' pc send member)
  · intro h handler at'
    obtain ⟨moved, now, -⟩ := cancelTasks_get? s.upstreamTasks.values
      { s with activeStreams := .empty, upstreamTasks := .empty } h at'
    obtain ⟨-, -, -, stopped⟩ := shutdown_stopped tasks now
    exact ⟨moved, now, stopped⟩
  · intro h member
    obtain ⟨key, task⟩ := (Dict.mem_values_iff _ h).mp member
    obtain ⟨handler, at', -⟩ := tasks.live key h task
    obtain ⟨moved, now, -, own⟩ := cancelTasks_get? s.upstreamTasks.values
      { s with activeStreams := .empty, upstreamTasks := .empty } h at'
    exact ⟨moved, now, own member⟩
  · intro c key socket h old
    obtain ⟨handler, at', -⟩ := (delivery_reachable run).joined c key socket h old
    exact ⟨handler, at'⟩
  · exact ⟨[], by rw [frame, List.append_nil], fun _ _ _ _ member => absurd member List.not_mem_nil⟩
  · exact ⟨[], by rw [frame, List.append_nil], fun _ member => absurd member List.not_mem_nil⟩
  · intro c sub found new
    rw [subscriptions, new] at found
    cases found

theorem Silenced.steps {s t u : State Key Socket Item} (silenced : Silenced s t)
    {labels : List (Event Key Socket Item)} (later : Steps system anyStep t labels u) :
    Silenced s u := by
  induction later with
  | none => exact silenced
  | snoc _ _ taken ih => exact ih.step (step_cases taken)

/-- The tasks that `shutdown` waits for are ended after one step each. -/
theorem Silenced.gathers {s t : State Key Socket Item} (silenced : Silenced s t)
    (tasks : List HandlerId) (part : ∀ h ∈ tasks, h ∈ s.upstreamTasks.values) :
    ∃ labels u, Steps system anyStep t labels u ∧ labels.length ≤ tasks.length ∧
      (∀ ev ∈ labels, ∃ h ∈ tasks, ev = .interrupted h) ∧ Gathered tasks u := by
  induction tasks with
  | nil => exact ⟨[], t, .none, Nat.le_refl _, nofun, nofun⟩
  | cons h rest ih =>
    obtain ⟨labels, u, ran, few, own, ended⟩ :=
      ih fun h member => part h (List.mem_cons_of_mem _ member)
    have after := silenced.steps ran
    have wider : ∀ ev ∈ labels, ∃ h' ∈ h :: rest, ev = .interrupted h' := by
      intro ev member
      obtain ⟨h', inside, same⟩ := own ev member
      exact ⟨h', List.mem_cons_of_mem _ inside, same⟩
    obtain ⟨moved, now, leaving⟩ := after.leaving h (part h List.mem_cons_self)
    rcases leaving_interrupted after.tasks now leaving with done | taken
    · refine ⟨labels, u, ran, Nat.le_succ_of_le few, wider, fun h' member => ?_⟩
      rcases List.mem_cons.mp member with rfl | inside
      · exact ⟨moved, now, done⟩
      · exact ended h' inside
    · have moves : system.step u (.interrupted h) = some _ := taken
      refine ⟨labels ++ [.interrupted h], _, .snoc ran trivial moves, ?_, fun ev member => ?_,
        fun h' member => ?_⟩
      · rw [List.length_append, List.length_singleton, List.length_cons]
        omega
      · rcases List.mem_append.mp member with early | last
        · exact wider ev early
        · exact ⟨h, List.mem_cons_self, List.mem_singleton.mp last⟩
      · rw [setHandler, Dict.get?_set]
        split
        · exact ⟨_, rfl, rfl⟩
        · next another => exact ended h' ((List.mem_cons.mp member).resolve_left another)

/-- Whatever clients and tasks do after the shutdown: no client of before is sent
to, told to close or in a bucket any more; a client that comes after it is in its
bucket or told to close; and the `gather` can return, after at most one step of
each task it waits for. -/
theorem shutdown_silences {s t : State Key Socket Item} (run : Reachable system anyStep s)
    {labels : List (Event Key Socket Item)}
    (later : Steps system anyStep (shutdown s) labels t) :
    (∃ more, t.history = s.history ++ more ∧
      ∀ client h index x, .attempt client h index x ∈ more →
        s.subscriptions.get? client = none) ∧
    (∃ told, t.closes = s.closes ++ told ∧ ∀ socket ∈ told, ∃ client sub,
      t.subscriptions.get? client = some sub ∧ sub.socket = socket ∧
        s.subscriptions.get? client = none) ∧
    (∀ key bucket client socket, t.activeStreams.get? key = some bucket →
      bucket.get? client = some socket → s.subscriptions.get? client = none) ∧
    (∀ client sub, t.subscriptions.get? client = some sub →
      s.subscriptions.get? client = none → sub.unsubscribed = false →
        (∃ bucket, t.activeStreams.get? sub.key = some bucket ∧
          bucket.get? client = some sub.socket) ∨ sub.socket ∈ t.closes) ∧
    ∃ more u, Steps system anyStep t more u ∧ more.length ≤ s.upstreamTasks.values.length ∧
      (∀ ev ∈ more, ∃ h ∈ s.upstreamTasks.values, ev = .interrupted h) ∧
      Gathered s.upstreamTasks.values u := by
  have silenced := (Silenced.shutdown run).steps later
  refine ⟨silenced.history, ?_, ?_, silenced.attached, silenced.gathers _ fun _ => id⟩
  · obtain ⟨told, grown, own⟩ := silenced.closes
    refine ⟨told, grown, fun socket member => ?_⟩
    obtain ⟨c, key, h, ⟨sub, found, -, same, -⟩, new⟩ := own socket member
    exact ⟨c, sub, found, same, new⟩
  · intro key bucket client socket known member
    obtain ⟨h, task, joined⟩ := silenced.clients.owner key client socket ⟨bucket, known, member⟩
    obtain ⟨handler, at', -, runs⟩ := silenced.tasks.live key h task
    exact silenced.fresh ⟨key, h, handler, joined, at', runs⟩

/-- A client is being sent to when the manager shuts down, and another comes. -/
def lastClientRun : List (Event Nat Nat Nat) :=
  [.subscribe 0 5 100, .begin 0 true, .item 0 42, .attempt 0 0]

def lateClientsRun : List (Event Nat Nat Nat) :=
  [.subscribe 1 5 101, .settle 0 0 false, .begin 1 true, .item 1 43, .attempt 1 1]

theorem lateClientsRun_ends :
    (system.exec (fun _ _ => true) State.initial lastClientRun).any (fun s =>
      s.upstreamTasks.values = [0] && s.history = [.attempt 0 0 0 42] &&
        (system.exec (fun _ _ => true) (shutdown s) lateClientsRun).any fun t =>
          t.history = [.attempt 0 0 0 42, .failed 0, .attempt 1 1 0 43]) = true := by
  decide +kernel

theorem shutdown_silences_lateClient : ∃ s t u : State Nat Nat Nat,
    Reachable system anyStep s ∧ Steps system anyStep (shutdown s) lateClientsRun t ∧
      s.subscriptions.get? 1 = none ∧ (∃ more, Steps system anyStep t more u ∧ more.length ≤ 1) ∧
        Gathered [0] u := by
  obtain ⟨s, before, ends⟩ := (Option.any_eq_true _ _).mp lateClientsRun_ends
  simp only [Bool.and_eq_true, decide_eq_true_eq] at ends
  obtain ⟨⟨tasks, history⟩, ends⟩ := ends
  obtain ⟨t, after, told⟩ := (Option.any_eq_true _ _).mp ends
  have run : Reachable system anyStep s :=
    System.reachable_exec (fun _ _ _ _ => trivial) .init before
  have later : Steps system anyStep (shutdown s) lateClientsRun t :=
    System.steps_exec (fun _ _ _ _ => trivial) after
  obtain ⟨⟨more, grown, new⟩, -, -, -, last, u, ran, few, -, ended⟩ := shutdown_silences run later
  rw [tasks] at few ended
  have sent : more = [.failed 0, .attempt 1 1 0 43] := by
    rw [of_decide_eq_true told, history] at grown
    exact (List.cons.inj grown).2.symm
  exact ⟨s, t, u, run, later, new 1 1 0 43 (by simp [sent]), ⟨last, ran, few⟩, ended⟩

end ExchangeRouter.StreamManager
