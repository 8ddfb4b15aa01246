import ExchangeRouter.StreamManager.Registry

/-!
# Delivery to one client

The sends attempted on a client are a contiguous part of what one handler's
stream yielded.  The invariant compares the sends with the feed of the task
under which the client subscribed: while the client is in its bucket they end
where the feed ends, up to the one item whose send has not started yet.
-/
namespace ExchangeRouter.StreamManager
open Lib

variable {Key Socket Item : Type}

/-- The sends attempted on a client, in order: the handler, the index of the
item among those the handler's stream yielded, and the item. -/
def attemptsOn (c : ClientId) (history : List (Record Item)) : List (HandlerId × Nat × Item) :=
  history.filterMap fun
    | .attempt client h index x => if client = c then some (h, index, x) else none
    | .failed _ => none

/-- What the stream of a handler yielded, in the form of `attemptsOn`. -/
def Handler.feed (h : HandlerId) (handler : Handler Key Socket Item) :
    List (HandlerId × Nat × Item) :=
  handler.yielded.zipIdx.map fun e => (h, e.2, e.1)

@[simp] theorem attemptsOn_append (c : ClientId) (first second : List (Record Item)) :
    attemptsOn c (first ++ second) = attemptsOn c first ++ attemptsOn c second :=
  List.filterMap_append

theorem feed_append (h : HandlerId) (handler : Handler Key Socket Item) (x : Item) (pc : Pc Socket) :
    Handler.feed h { handler.yields x with pc := pc } =
      handler.feed h ++ [(h, handler.yielded.length, x)] := by
  simp [Handler.feed, Handler.yields, List.zipIdx_append]

theorem feed_last {h : HandlerId} {handler : Handler Key Socket Item} {x : Item}
    (last : handler.yielded.getLast? = some x) :
    ∃ earlier, handler.feed h = earlier ++ [(h, handler.yielded.length - 1, x)] := by
  obtain ⟨earlier, shape⟩ := List.getLast?_eq_some_iff.mp last
  refine ⟨earlier.zipIdx.map fun e => (h, e.2, e.1), ?_⟩
  simp [Handler.feed, shape, List.zipIdx_append]

theorem statusOf_setStatus (client c : ClientId) (status : SendStatus) (sends : List (Send Socket)) :
    statusOf (setStatus client status sends) c =
      if c = client then (statusOf sends c).map fun _ => status else statusOf sends c := by
  induction sends with
  | nil => simp [statusOf, setStatus]
  | cons send rest ih =>
    unfold statusOf setStatus at ih ⊢
    by_cases own : send.client = client
    · by_cases same : send.client = c
      · simp [own, ← same]
      · have differ : c ≠ client := fun eq => same (own.trans eq.symm)
        simpa [own, same, differ, Ne.symm differ] using ih
    · by_cases same : send.client = c
      · have differ : c ≠ client := fun eq => own (same.trans eq)
        simp [same, differ]
      · simpa [own, same] using ih

theorem statusOf_freshSends (bucket : Dict ClientId Socket) (c : ClientId) :
    statusOf (freshSends bucket) c = (bucket.get? c).map fun _ => .unstarted := by
  unfold statusOf freshSends Dict.get?
  rw [List.find?_map, Option.map_map, Option.map_map]
  rfl

theorem mem_of_statusOf {sends : List (Send Socket)} {c : ClientId} {status : SendStatus}
    (found : statusOf sends c = some status) :
    ∃ send ∈ sends, send.client = c ∧ send.status = status := by
  obtain ⟨send, first, rfl⟩ := Option.map_eq_some_iff.mp found
  exact ⟨send, List.mem_of_find?_eq_some first, by simpa using List.find?_some first, rfl⟩

/-- The send of the current item to a client has not started. -/
def Pending (handler : Handler Key Socket Item) (c : ClientId) : Prop :=
  ∃ sends, handler.pc = .sending sends ∧ statusOf sends c = some .unstarted

/-- The send of the current item to a client failed. -/
def Failing (handler : Handler Key Socket Item) (c : ClientId) : Prop :=
  ∃ sends, handler.pc = .sending sends ∧ statusOf sends c = some .failed

theorem not_pending_of_completed {handler : Handler Key Socket Item} {sends : List (Send Socket)}
    (pc : handler.pc = .sending sends) (completed : ∀ send ∈ sends, send.completed = true)
    (c : ClientId) :
    ¬ Pending handler c := by
  rintro ⟨sends', pc', unstarted⟩
  rw [pc] at pc'
  cases pc'
  obtain ⟨send, member, -, status⟩ := mem_of_statusOf unstarted
  have finished := completed send member
  simp [Send.completed, status] at finished

variable [DecidableEq Key]

/-- A client is in the bucket of a key. -/
def Inside (s : State Key Socket Item) (k : Key) (c : ClientId) : Prop := ∃ so, InBucket s k c so

/-- How far the sends to a client got in the feed of its handler. -/
structure Progress (s : State Key Socket Item) (c : ClientId) (h : HandlerId)
    (handler : Handler Key Socket Item) : Prop where
  segment : attemptsOn c s.history <:+: handler.feed h
  pending : attemptsOn c s.history ≠ [] → Pending handler c →
    ∃ e, attemptsOn c s.history ++ [e] <:+ handler.feed h
  caughtUp : attemptsOn c s.history ≠ [] → ¬ Pending handler c → Inside s handler.key c →
    attemptsOn c s.history <:+ handler.feed h
  failed : .failed c ∈ s.history → ¬ Pending handler c ∧ (Inside s handler.key c → Failing handler c)

/-- A step attempts no send to the client, or it is the start of one of the
children of its handler. -/
theorem attempts_step {s s' : State Key Socket Item} {ev : Event Key Socket Item}
    (step : Step s ev s') (c : ClientId) :
    (attemptsOn c s'.history = attemptsOn c s.history ∧ ∀ h, ev ≠ .attempt h c) ∨
      ∃ h handler sends x, s.handlers.get? h = some handler ∧ handler.pc = .sending sends ∧
        handler.yielded.getLast? = some x ∧ statusOf sends c = some .unstarted ∧
        s'.handlers.get? h =
          some { handler with pc := .sending (setStatus c .started sends) } ∧
        s'.history = s.history ++ [.attempt c h (handler.yielded.length - 1) x] := by
  cases step with
  | @attempt h client handler sends x at' pc calm last unstarted =>
    by_cases same : client = c
    · subst same
      exact Or.inr ⟨h, handler, sends, x, at', pc, last, unstarted, Dict.get?_set_self _ _ _, rfl⟩
    · refine Or.inl ⟨?_, fun h eq => ?_⟩
      · simp [attemptsOn, same]
      · cases eq
        exact same rfl
  | @settle h client ok handler sends at' pc started =>
    refine Or.inl ⟨?_, by simp⟩
    cases ok with
    | true => rfl
    | false => simp [attemptsOn]
  | unsubscribeAbsent | unsubscribeKeep | unsubscribeLast | unsubscribeTaskless | beginUnknown
  | itemGone | gatheredEmptied | ended | interruptedBody => exact Or.inl ⟨by simp [dropKey], by simp⟩
  | subscribeJoin | subscribeOpen | begin | item | gatheredAlive | gatheredGone | gatheredKept
  | interruptedOutside | closed => exact Or.inl ⟨rfl, by simp⟩

/-- A failure is an old one or this step records it. -/
theorem failed_step {s s' : State Key Socket Item} {ev : Event Key Socket Item}
    (step : Step s ev s') {c : ClientId} (failed : .failed c ∈ s'.history) :
    .failed c ∈ s.history ∨
      ∃ h handler sends, s.handlers.get? h = some handler ∧ handler.pc = .sending sends ∧
        statusOf sends c = some .started ∧
        s'.handlers.get? h =
          some { handler with pc := .sending (setStatus c .failed sends) } := by
  cases step with
  | attempt at' pc calm last unstarted => exact Or.inl (by simpa using failed)
  | @settle h client ok handler sends at' pc started =>
    cases ok with
    | true => exact Or.inl failed
    | false =>
      rcases List.mem_append.mp failed with old | new
      · exact Or.inl old
      · cases List.mem_singleton.mp new
        exact Or.inr ⟨h, handler, sends, at', pc, started, Dict.get?_set_self _ _ _⟩
  | unsubscribeAbsent | unsubscribeKeep | unsubscribeLast | unsubscribeTaskless | beginUnknown
  | itemGone | gatheredEmptied | ended | interruptedBody =>
    exact Or.inl (by simpa [dropKey] using failed)
  | subscribeJoin | subscribeOpen | begin | item | gatheredAlive | gatheredGone | gatheredKept
  | interruptedOutside | closed => exact Or.inl failed

/-- After the gather the clients whose send failed are out of the bucket. -/
theorem gathered_removes {s s' : State Key Socket Item} {h : HandlerId}
    (step : Step s (.gathered h) s')
    {handler : Handler Key Socket Item} {c : ClientId} (at' : s.handlers.get? h = some handler)
    (failing : Failing handler c) : ¬ Inside s' handler.key c := by
  obtain ⟨sends, pc, failed⟩ := failing
  obtain ⟨send, member, client, status⟩ := mem_of_statusOf failed
  have dead : send ∈ deadItems sends := List.mem_filter.mpr ⟨member, by simp [status]⟩
  rintro ⟨so, inside⟩
  cases step with
  | gatheredAlive at'' pc' calm completed alive =>
    rw [at'] at at''
    cases at''
    rw [pc] at pc'
    cases pc'
    rw [alive] at dead
    cases dead
  | gatheredGone at'' pc' calm completed gone =>
    rw [at'] at at''
    cases at''
    obtain ⟨bucket, known, -⟩ := inside
    exact absurd (gone.symm.trans known) (Option.some_ne_none bucket).symm
  | gatheredKept at'' pc' calm completed known others =>
    rw [at'] at at''
    cases at''
    rw [pc] at pc'
    cases pc'
    obtain ⟨bucket, known', found⟩ := inside
    cases (Dict.get?_set_self _ _ _).symm.trans known'
    rw [get?_popDead, if_pos (List.mem_map.mpr ⟨send, dead, client⟩)] at found
    cases found
  | gatheredEmptied at'' pc' calm completed known emptied =>
    rw [at'] at at''
    cases at''
    obtain ⟨⟨bucket, known', -⟩, -⟩ := inBucket_finalize inside
    cases (Dict.get?_pop_self _ _).symm.trans known'

/-- A known client in a bucket was there before. -/
theorem inside_before {s s' : State Key Socket Item} {ev : Event Key Socket Item} (h : Tasks s)
    (step : Step s ev s') {k k' : Key} {c : ClientId} {so : Socket} {id : HandlerId}
    (joined : Joined s c k' so id) (inside : Inside s' k c) : Inside s k c := by
  obtain ⟨so', inside⟩ := inside
  rcases inBucket_step h step inside with ⟨before, -⟩ | ⟨fresh, -⟩
  · exact ⟨so', before⟩
  · obtain ⟨sub, found, -⟩ := joined
    rw [fresh] at found
    cases found

/-- A client of a handler that stopped running is out of the bucket. -/
theorem not_inside_of_stopped {s : State Key Socket Item} (tasks : Tasks s) (clients : Clients s)
    {c : ClientId} {k : Key} {so : Socket} {h : HandlerId} {handler : Handler Key Socket Item}
    (joined : Joined s c k so h) (at' : s.handlers.get? h = some handler)
    (stopped : handler.running = false) : ¬ Inside s k c := by
  rintro ⟨so', inside⟩
  obtain ⟨id, task, joined'⟩ := clients.owner k c so' inside
  obtain ⟨-, -, rfl⟩ := joined_unique joined joined'
  exact tasks.unregistered at' stopped k task

section progress
variable {s s' : State Key Socket Item} {ev : Event Key Socket Item} {c : ClientId} {k : Key}
  {so : Socket} {h : HandlerId} {handler moved : Handler Key Socket Item}

/-- A step that moves the handler without touching the sends to the client. -/
theorem Progress.idle (progress : Progress s c h handler)
    (quiet : attemptsOn c s'.history = attemptsOn c s.history)
    (older : .failed c ∈ s'.history → .failed c ∈ s.history) (key : moved.key = handler.key)
    (feed : moved.feed h = handler.feed h) (pending : Pending moved c ↔ Pending handler c)
    (failing : Failing handler c → Failing moved c)
    (inside : Inside s' handler.key c → Inside s handler.key c) : Progress s' c h moved where
  segment := by
    rw [quiet, feed]
    exact progress.segment
  pending := fun started waits => by
    rw [quiet] at started ⊢
    rw [feed]
    exact progress.pending started (pending.mp waits)
  caughtUp := fun started settled within => by
    rw [quiet] at started ⊢
    rw [feed]
    exact progress.caughtUp started (mt pending.mpr settled) (inside (key ▸ within))
  failed := fun failed => by
    obtain ⟨settled, within⟩ := progress.failed (older failed)
    exact ⟨mt pending.mp settled, fun still => failing (within (inside (key ▸ still)))⟩

/-- The client is out of the bucket and its send is not pending. -/
theorem Progress.left (progress : Progress s c h handler)
    (quiet : attemptsOn c s'.history = attemptsOn c s.history)
    (feed : ∃ more, moved.feed h = handler.feed h ++ more) (settled : ¬ Pending moved c)
    (outside : ¬ Inside s' moved.key c) : Progress s' c h moved where
  segment := by
    obtain ⟨more, feed⟩ := feed
    rw [quiet, feed]
    exact progress.segment.trans (List.prefix_append _ _).isInfix
  pending := fun _ waits => absurd waits settled
  caughtUp := fun _ _ within => absurd within outside
  failed := fun _ => ⟨settled, fun within => absurd within outside⟩

/-- The stream yields the next item. -/
theorem Progress.item {x : Item} {bucket : Dict ClientId Socket}
    (progress : Progress s c h handler) (pc : handler.pc = .receiving)
    (known : s.activeStreams.get? handler.key = some bucket)
    (quiet : attemptsOn c s'.history = attemptsOn c s.history)
    (older : .failed c ∈ s'.history → .failed c ∈ s.history)
    (inside : Inside s' handler.key c → Inside s handler.key c) :
    Progress s' c h { handler.yields x with pc := .sending (freshSends bucket) } := by
  have idle : ¬ Pending handler c := by
    rintro ⟨sends, pc', -⟩
    rw [pc] at pc'
    cases pc'
  have calm : ¬ Failing handler c := by
    rintro ⟨sends, pc', -⟩
    rw [pc] at pc'
    cases pc'
  have inBucket : Pending { handler.yields x with pc := .sending (freshSends bucket) } c ↔
      Inside s handler.key c := by
    constructor
    · rintro ⟨sends, pc', unstarted⟩
      cases pc'
      rw [statusOf_freshSends] at unstarted
      obtain ⟨so, found, -⟩ := Option.map_eq_some_iff.mp unstarted
      exact ⟨so, bucket, known, found⟩
    · rintro ⟨so, bucket', known', found⟩
      rw [known] at known'
      cases known'
      exact ⟨_, rfl, by rw [statusOf_freshSends, found]; rfl⟩
  constructor
  · rw [quiet, feed_append]
    exact progress.segment.trans (List.prefix_append _ _).isInfix
  · intro started waits
    rw [quiet] at started ⊢
    rw [feed_append]
    obtain ⟨missed, shape⟩ := progress.caughtUp started idle (inBucket.mp waits)
    exact ⟨_, missed, by rw [← shape, List.append_assoc]⟩
  · intro started settled within
    exact absurd (inBucket.mpr (inside within)) settled
  · intro failed
    have outside := fun within => calm ((progress.failed (older failed)).2 within)
    exact ⟨fun waits => outside (inBucket.mp waits), fun within => absurd (inside within) outside⟩

/-- The send of the current item to the client starts. -/
theorem Progress.attempt {sends : List (Send Socket)} {x : Item}
    (progress : Progress s c h handler) (pc : handler.pc = .sending sends)
    (last : handler.yielded.getLast? = some x) (unstarted : statusOf sends c = some .unstarted)
    (history : s'.history = s.history ++ [.attempt c h (handler.yielded.length - 1) x]) :
    Progress s' c h { handler with pc := .sending (setStatus c .started sends) } := by
  have settled : ¬ Pending { handler with pc := .sending (setStatus c .started sends) } c := by
    rintro ⟨sends', pc', waits⟩
    cases pc'
    simp [statusOf_setStatus, unstarted] at waits
  have attempts : attemptsOn c s'.history =
      attemptsOn c s.history ++ [(h, handler.yielded.length - 1, x)] := by
    rw [history, attemptsOn_append]
    simp [attemptsOn]
  obtain ⟨earlier, shape⟩ := feed_last (h := h) last
  have ends : attemptsOn c s'.history <:+ handler.feed h := by
    rw [attempts]
    by_cases first : attemptsOn c s.history = []
    · rw [first, shape]
      exact ⟨earlier, rfl⟩
    · obtain ⟨e, missed, upto⟩ := progress.pending first ⟨sends, pc, unstarted⟩
      rw [shape, ← List.append_assoc] at upto
      obtain ⟨before, same⟩ := List.append_inj' upto rfl
      rw [shape, ← before]
      exact ⟨missed, (List.append_assoc _ _ _).symm⟩
  refine ⟨ends.isInfix, fun _ waits => absurd waits settled, fun _ _ _ => ends, fun failed => ?_⟩
  have old : .failed c ∈ s.history := by simpa [history] using failed
  exact absurd ⟨sends, pc, unstarted⟩ (progress.failed old).1

/-- The send of the current item to the client fails. -/
theorem Progress.fail {sends : List (Send Socket)} (progress : Progress s c h handler)
    (pc : handler.pc = .sending sends) (started : statusOf sends c = some .started)
    (quiet : attemptsOn c s'.history = attemptsOn c s.history)
    (inside : Inside s' handler.key c → Inside s handler.key c) :
    Progress s' c h { handler with pc := .sending (setStatus c .failed sends) } := by
  have now : statusOf (setStatus c .failed sends) c = some .failed := by
    simp [statusOf_setStatus, started]
  have before : ¬ Pending handler c := by
    rintro ⟨sends', pc', waits⟩
    rw [pc] at pc'
    cases pc'
    rw [started] at waits
    cases waits
  have settled : ¬ Pending { handler with pc := .sending (setStatus c .failed sends) } c := by
    rintro ⟨sends', pc', waits⟩
    cases pc'
    rw [now] at waits
    cases waits
  refine ⟨quiet ▸ progress.segment, fun _ waits => absurd waits settled, fun begun _ within => ?_,
    fun _ => ⟨settled, fun _ => ⟨_, rfl, now⟩⟩⟩
  rw [quiet] at begun ⊢
  exact progress.caughtUp begun before (inside within)

end progress

/-- A subscription is an old one, or a new one under the registered task. -/
theorem joined_before {s s' : State Key Socket Item} {ev : Event Key Socket Item} (h : Tasks s)
    (step : Step s ev s') {c : ClientId} {k : Key} {so : Socket} {id : HandlerId}
    (joined : Joined s' c k so id) :
    Joined s c k so id ∨
      (s.subscriptions.get? c = none ∧ s'.upstreamTasks.get? k = some id) := by
  have marked : ∀ key client, Joined (markUnsubscribed s key client) c k so id →
      Joined s c k so id := by
    intro key client joined
    unfold markUnsubscribed at joined
    split at joined
    · rename_i old found
      split at joined
      · obtain ⟨sub, at', rest⟩ := joined
        rw [Dict.get?_set] at at'
        split at at'
        · rename_i same
          cases at'
          exact ⟨old, same ▸ found, rest⟩
        · exact ⟨sub, at', rest⟩
      · exact joined
    · exact joined
  cases step with
  | @subscribeJoin client key socket bucket fresh known =>
    obtain ⟨sub, at', rest⟩ := joined
    rw [addClient, Dict.get?_set] at at'
    split at at'
    · rename_i same
      cases at'
      obtain ⟨rfl, rfl, rfl⟩ := rest
      obtain ⟨task, registered⟩ : ∃ task, s.upstreamTasks.get? key = some task :=
        Option.isSome_iff_exists.mp (by rw [← h.sameKeys, known]; rfl)
      refine Or.inr ⟨same ▸ fresh, ?_⟩
      simp [addClient, Dict.getD, registered]
    · exact Or.inl ⟨sub, at', rest⟩
  | @subscribeOpen client key socket fresh absent =>
    obtain ⟨sub, at', rest⟩ := joined
    rw [addClient, Dict.get?_set] at at'
    split at at'
    · rename_i same
      cases at'
      obtain ⟨rfl, rfl, rfl⟩ := rest
      refine Or.inr ⟨same ▸ fresh, ?_⟩
      simp [addClient, openStream, Dict.getD]
    · exact Or.inl ⟨sub, at', rest⟩
  | unsubscribeAbsent absent => exact Or.inl (marked _ _ joined)
  | unsubscribeKeep known others => exact Or.inl (marked _ _ joined)
  | @unsubscribeLast client key bucket task known last registered =>
    exact Or.inl (marked key client (by simpa [Joined, dropKey] using joined))
  | unsubscribeTaskless known last taskless => exact Or.inl (marked _ _ joined)
  | beginUnknown | itemGone | gatheredEmptied | ended | interruptedBody =>
    exact Or.inl (by simpa [Joined, dropKey] using joined)
  | begin | item | attempt | settle | gatheredAlive | gatheredGone | gatheredKept
  | interruptedOutside | closed => exact Or.inl joined

/-- A handler is never forgotten. -/
theorem handlers_kept {s s' : State Key Socket Item} {ev : Event Key Socket Item}
    (step : Step s ev s') {h : HandlerId} {handler : Handler Key Socket Item}
    (at' : s.handlers.get? h = some handler) : ∃ moved, s'.handlers.get? h = some moved := by
  have set : ∀ id own, ∃ moved, (s.handlers.set id own).get? h = some moved := by
    intro id own
    rw [Dict.get?_set]
    split
    · exact ⟨own, rfl⟩
    · exact ⟨handler, at'⟩
  have finalized : ∀ (s₁ : State Key Socket Item) id own, s₁.handlers = s.handlers →
      ∃ moved, (finalize s₁ id own).handlers.get? h = some moved := by
    intro s₁ id own same
    obtain ⟨pc, -, handlers⟩ := finalize_handlers s₁ id own
    rw [handlers, same]
    exact set _ _
  cases step with
  | subscribeJoin | unsubscribeAbsent | unsubscribeKeep | unsubscribeTaskless =>
    exact ⟨handler, by simpa [addClient, dropKey] using at'⟩
  | unsubscribeLast known last task =>
    unfold cancelTask
    split
    · split
      · exact ⟨handler, by simpa [dropKey] using at'⟩
      · simpa [setHandler, dropKey] using set _ _
    · exact ⟨handler, by simpa [dropKey] using at'⟩
  | beginUnknown | itemGone | gatheredEmptied | ended | interruptedBody => exact finalized _ _ _ rfl
  | subscribeOpen | begin | item | attempt | settle | gatheredAlive | gatheredGone | gatheredKept
  | interruptedOutside | closed => exact set _ _

theorem HandlerMove.key {s : State Key Socket Item} {h : HandlerId}
    {handler moved : Handler Key Socket Item} {ev : Event Key Socket Item}
    (move : HandlerMove s h handler ev moved) : moved.key = handler.key := by
  cases move with
  | stop key yielded stopped => exact key
  | stay | cancel | begin | gathered | item | attempt | settle => rfl

/-- The children of a handler send to clients that subscribed under it. -/
theorem Clients.joined_of_status {s : State Key Socket Item} (h : Clients s) {id : HandlerId}
    {handler : Handler Key Socket Item} {sends : List (Send Socket)} {c : ClientId}
    {status : SendStatus} (at' : s.handlers.get? id = some handler)
    (pc : handler.pc = .sending sends) (found : statusOf sends c = some status) :
    ∃ so, Joined s c handler.key so id := by
  obtain ⟨send, member, rfl, -⟩ := mem_of_statusOf found
  exact ⟨send.socket, h.sends id handler sends at' pc send member⟩

theorem Progress.step {s s' : State Key Socket Item} {ev : Event Key Socket Item} {c : ClientId}
    {so : Socket} {h : HandlerId} {handler moved : Handler Key Socket Item}
    (progress : Progress s c h handler) (tasks : Tasks s) (clients : Clients s)
    (step : Step s ev s') (joined : Joined s c handler.key so h)
    (at' : s.handlers.get? h = some handler) (now : s'.handlers.get? h = some moved) :
    Progress s' c h moved := by
  have inside : Inside s' handler.key c → Inside s handler.key c := inside_before tasks step joined
  have own : ∀ {id own sends status}, s.handlers.get? id = some own → own.pc = .sending sends →
      statusOf sends c = some status → id = h ∧ own = handler := by
    intro id own sends status at'' pc found
    obtain ⟨so', joined'⟩ := clients.joined_of_status at'' pc found
    obtain ⟨-, -, rfl⟩ := joined_unique joined joined'
    rw [at'] at at''
    cases at''
    exact ⟨rfl, rfl⟩
  rcases attempts_step step c with ⟨quiet, other⟩ | ⟨id, own', sends, x, at'', pc, last, unstarted,
    now', history⟩
  swap
  · obtain ⟨rfl, rfl⟩ := own at'' pc unstarted
    rw [now] at now'
    cases now'
    exact progress.attempt pc last unstarted history
  by_cases fails : .failed c ∈ s'.history ∧ .failed c ∉ s.history
  · rcases failed_step step fails.1 with old | ⟨id, own', sends, at'', pc, started, now'⟩
    · exact absurd old fails.2
    · obtain ⟨rfl, rfl⟩ := own at'' pc started
      rw [now] at now'
      cases now'
      exact progress.fail pc started quiet inside
  have older : .failed c ∈ s'.history → .failed c ∈ s.history := by
    intro failed
    by_contra new
    exact fails ⟨failed, new⟩
  rcases handlers_step tasks step now with ⟨absent, -, -⟩ | ⟨before, at'', move⟩
  · rw [absent] at at'
    cases at'
  rw [at'] at at''
  cases at''
  cases move with
  | stay | cancel => exact progress.idle quiet older rfl rfl Iff.rfl id inside
  | stop key yielded stopped =>
    have outside : ¬ Inside s' moved.key c :=
      not_inside_of_stopped (tasks.step step) (clients.step tasks step)
        (key ▸ joined_step step joined) now (by simp [Handler.running, stopped])
    refine progress.left quiet ⟨[], by simp [Handler.feed, yielded]⟩ ?_ outside
    rintro ⟨sends, pc, -⟩
    rw [pc] at stopped
    cases stopped
  | begin pc =>
    refine progress.idle quiet older rfl rfl ?_ ?_ inside
    · simp [Pending, pc]
    · simp [Failing, pc]
  | @gathered sends pc runs completed =>
    by_cases failing : Failing handler c
    · have outside : ¬ Inside s' handler.key c := gathered_removes step at' failing
      exact progress.left quiet ⟨[], by simp [Handler.feed]⟩ (by simp [Pending]) outside
    · exact progress.idle quiet older rfl rfl
        (iff_of_false (by simp [Pending]) (not_pending_of_completed pc completed c))
        (absurd · failing) inside
  | item pc runs known => exact progress.item pc known quiet older inside
  | @attempt client sends x pc last unstarted =>
    have differ : c ≠ client := by
      rintro rfl
      exact other h rfl
    refine progress.idle quiet older rfl rfl ?_ ?_ inside
    · simp [Pending, pc, statusOf_setStatus, differ]
    · simp [Failing, pc, statusOf_setStatus, differ]
  | @settle client ok sends pc started =>
    by_cases same : c = client
    · subst same
      refine progress.idle quiet older rfl rfl ?_ ?_ inside
      · cases ok <;> simp [Pending, pc, statusOf_setStatus, started]
      · simp [Failing, pc, started]
    · refine progress.idle quiet older rfl rfl ?_ ?_ inside
      · simp [Pending, pc, statusOf_setStatus, same]
      · simp [Failing, pc, statusOf_setStatus, same]

/-- What was sent to the clients so far. -/
structure Delivery (s : State Key Socket Item) : Prop where
  unknown : ∀ c, s.subscriptions.get? c = none →
    attemptsOn c s.history = [] ∧ .failed c ∉ s.history
  joined : ∀ c k so h, Joined s c k so h →
    ∃ handler, s.handlers.get? h = some handler ∧ handler.key = k ∧ Progress s c h handler
  silent : ∀ c, s.history.Pairwise fun earlier later =>
    earlier = .failed c → ∀ h index x, later ≠ .attempt c h index x

theorem Delivery.initial : Delivery (State.initial : State Key Socket Item) where
  unknown := fun _ _ => ⟨rfl, List.not_mem_nil⟩
  joined := fun _ _ _ _ joined => by
    obtain ⟨sub, found, -⟩ := joined
    simp [State.initial] at found
  silent := fun _ => List.Pairwise.nil

/-- A client that has not subscribed before this step was sent nothing. -/
theorem Delivery.untouched {s s' : State Key Socket Item} {ev : Event Key Socket Item}
    (delivery : Delivery s) (clients : Clients s) (step : Step s ev s') {c : ClientId}
    (fresh : s.subscriptions.get? c = none) :
    attemptsOn c s'.history = [] ∧ .failed c ∉ s'.history := by
  obtain ⟨nothing, noFailure⟩ := delivery.unknown c fresh
  have stranger : ∀ {h handler sends status}, s.handlers.get? h = some handler →
      handler.pc = .sending sends → statusOf sends c ≠ some status := by
    intro h handler sends status at' pc found
    obtain ⟨so, sub, known, -⟩ := clients.joined_of_status at' pc found
    rw [fresh] at known
    cases known
  constructor
  · rcases attempts_step step c with ⟨quiet, -⟩ | ⟨h, handler, sends, x, at', pc, -, unstarted, -⟩
    · rw [quiet, nothing]
    · exact absurd unstarted (stranger at' pc)
  · intro failed
    rcases failed_step step failed with old | ⟨h, handler, sends, at', pc, started, -⟩
    · exact noFailure old
    · exact stranger at' pc started

/-- A step records at most one thing, and no attempt on a client whose send
failed. -/
theorem Delivery.history_step {s s' : State Key Socket Item} {ev : Event Key Socket Item}
    (delivery : Delivery s) (clients : Clients s) (step : Step s ev s') :
    s'.history = s.history ∨ ∃ record, s'.history = s.history ++ [record] ∧
      ∀ c h index x, record = .attempt c h index x → .failed c ∉ s.history := by
  cases step with
  | @attempt h client handler sends x at' pc calm last unstarted =>
    refine Or.inr ⟨_, rfl, fun c h' index x' same failed => ?_⟩
    cases same
    obtain ⟨so, joined⟩ := clients.joined_of_status at' pc unstarted
    obtain ⟨handler', at'', -, progress⟩ := delivery.joined _ _ _ _ joined
    rw [at'] at at''
    cases at''
    exact (progress.failed failed).1 ⟨sends, pc, unstarted⟩
  | @settle h client ok handler sends at' pc started =>
    cases ok with
    | true => exact Or.inl rfl
    | false => exact Or.inr ⟨_, rfl, fun _ _ _ _ same => by cases same⟩
  | unsubscribeAbsent | unsubscribeKeep | unsubscribeLast | unsubscribeTaskless | beginUnknown
  | itemGone | gatheredEmptied | ended | interruptedBody => exact Or.inl (by simp [dropKey])
  | subscribeJoin | subscribeOpen | begin | item | gatheredAlive | gatheredGone | gatheredKept
  | interruptedOutside | closed => exact Or.inl rfl

theorem Delivery.step {s s' : State Key Socket Item} {ev : Event Key Socket Item}
    (delivery : Delivery s) (tasks : Tasks s) (clients : Clients s) (step : Step s ev s') :
    Delivery s' where
  unknown := fun c fresh => by
    refine delivery.untouched clients step ?_
    cases found : s.subscriptions.get? c with
    | none => rfl
    | some sub =>
      obtain ⟨sub', found', -⟩ := joined_step step ⟨sub, found, rfl, rfl, rfl⟩
      rw [fresh] at found'
      cases found'
  joined := fun c k so h joined => by
    rcases joined_before tasks step joined with before | ⟨fresh, task⟩
    · obtain ⟨handler, at', rfl, progress⟩ := delivery.joined c k so h before
      obtain ⟨moved, now⟩ := handlers_kept step at'
      refine ⟨moved, now, ?_, progress.step tasks clients step before at' now⟩
      rcases handlers_step tasks step now with ⟨absent, -, -⟩ | ⟨handler', at'', move⟩
      · rw [at'] at absent
        cases absent
      · rw [at'] at at''
        cases at''
        exact move.key
    · obtain ⟨handler, at', key, -⟩ := (tasks.step step).live k h task
      obtain ⟨nothing, noFailure⟩ := delivery.untouched clients step fresh
      refine ⟨handler, at', key, ?_, fun started => absurd nothing started,
        fun started => absurd nothing started, fun failed => absurd failed noFailure⟩
      rw [nothing]
      exact List.nil_infix
  silent := fun c => by
    rcases delivery.history_step clients step with same | ⟨record, grown, allowed⟩
    · rw [same]
      exact delivery.silent c
    · rw [grown]
      refine List.pairwise_append.mpr ⟨delivery.silent c, List.pairwise_singleton _ _, ?_⟩
      intro earlier member later last failed h index x attempts
      rw [List.mem_singleton.mp last] at attempts
      exact allowed c h index x attempts (failed ▸ member)

theorem delivery_reachable {s : State Key Socket Item} (run : Reachable system anyStep s) :
    Delivery s :=
  run.invariant .initial fun _ _ _ reached before _ taken =>
    before.step (tasks_reachable reached) (clients_reachable reached) (step_cases taken)

/-- The sends attempted on a client are a contiguous part of the feed of the
task registered for its key when it subscribed, and none follows a failed one. -/
theorem delivery_segment {s : State Key Socket Item} (run : Reachable system anyStep s)
    (c : ClientId) :
    (attemptsOn c s.history = [] ∨
      ∃ sub handler, s.subscriptions.get? c = some sub ∧
        s.handlers.get? sub.handler = some handler ∧ handler.key = sub.key ∧
        attemptsOn c s.history <:+: handler.feed sub.handler) ∧
    s.history.Pairwise fun earlier later =>
      earlier = .failed c → ∀ h index x, later ≠ .attempt c h index x := by
  have delivery := delivery_reachable run
  refine ⟨?_, delivery.silent c⟩
  cases found : s.subscriptions.get? c with
  | none => exact Or.inl (delivery.unknown c found).1
  | some sub =>
    obtain ⟨handler, at', key, progress⟩ := delivery.joined c _ _ _ ⟨sub, found, rfl, rfl, rfl⟩
    exact Or.inr ⟨sub, handler, rfl, at', key, progress.segment⟩

/-- A client joins between two items of a handler, and the key is reopened. -/
def lateClientRun : List (Event Nat Nat Nat) :=
  [.subscribe 0 5 100, .begin 0 true, .item 0 40, .attempt 0 0, .settle 0 0 true, .gathered 0,
    .subscribe 1 5 101, .item 0 41, .attempt 0 1, .attempt 0 0, .settle 0 1 true, .settle 0 0 true,
    .gathered 0, .item 0 42, .attempt 0 1, .unsubscribe 5 0, .unsubscribe 5 1, .subscribe 2 5 102,
    .interrupted 0, .begin 1 true, .item 1 43, .attempt 1 2]

theorem lateClientRun_ends :
    system.endsIn (fun _ _ => true) lateClientRun (fun s =>
      attemptsOn 1 s.history = [(0, 1, 41), (0, 2, 42)]) = true := by decide +kernel

theorem delivery_segment_lateClient : ∃ s : State Nat Nat Nat, Reachable system anyStep s ∧
    ∃ sub handler, s.subscriptions.get? 1 = some sub ∧ handler.key = sub.key ∧
      s.handlers.get? sub.handler = some handler ∧
      [(0, 1, 41), (0, 2, 42)] <:+: handler.feed sub.handler := by
  obtain ⟨s, run, ends⟩ := System.exists_reachable (fun _ _ _ _ => trivial) lateClientRun_ends
  have attempts : attemptsOn 1 s.history = [(0, 1, 41), (0, 2, 42)] := by simpa using ends
  obtain ⟨nothing | ⟨sub, handler, found, at', key, segment⟩, -⟩ := delivery_segment run 1
  · rw [attempts] at nothing
    cases nothing
  · exact ⟨s, run, sub, handler, found, key, at', attempts ▸ segment⟩

end ExchangeRouter.StreamManager
