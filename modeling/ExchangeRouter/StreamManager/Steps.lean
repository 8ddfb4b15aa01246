import ExchangeRouter.StreamManager.Model

/-!
# What one step of the manager can do

`Step` lists the branches of `step` with their guards; the invariants of the
manager are proved by cases on it.
-/
namespace ExchangeRouter.StreamManager
open Lib

variable {Key Socket Item : Type} [DecidableEq Key]

/-- The handler after its stream yielded one more item. -/
def Handler.yields (handler : Handler Key Socket Item) (x : Item) : Handler Key Socket Item :=
  { handler with yielded := handler.yielded ++ [x] }

/-- The children that `gather` creates for a bucket. -/
def freshSends (bucket : Dict ClientId Socket) : List (Send Socket) :=
  bucket.entries.map fun e => ⟨e.1, e.2, .unstarted⟩

inductive Step (s : State Key Socket Item) :
    Event Key Socket Item → State Key Socket Item → Prop
  | subscribeJoin {client : ClientId} {key : Key} {socket : Socket} {bucket : Dict ClientId Socket}
      (fresh : s.subscriptions.get? client = none) (known : s.activeStreams.get? key = some bucket) :
      Step s (.subscribe client key socket) (addClient s client key socket)
  | subscribeOpen {client : ClientId} {key : Key} {socket : Socket}
      (fresh : s.subscriptions.get? client = none) (absent : s.activeStreams.get? key = none) :
      Step s (.subscribe client key socket) (addClient (openStream s key) client key socket)
  | unsubscribeAbsent {client : ClientId} {key : Key} (absent : s.activeStreams.get? key = none) :
      Step s (.unsubscribe key client) (markUnsubscribed s key client)
  | unsubscribeKeep {client : ClientId} {key : Key} {bucket : Dict ClientId Socket}
      (known : s.activeStreams.get? key = some bucket)
      (others : (bucket.pop client).isEmpty = false) :
      Step s (.unsubscribe key client) { markUnsubscribed s key client with
        activeStreams := s.activeStreams.set key (bucket.pop client) }
  | unsubscribeLast {client : ClientId} {key : Key} {bucket : Dict ClientId Socket} {h : HandlerId}
      (known : s.activeStreams.get? key = some bucket) (last : (bucket.pop client).isEmpty = true)
      (task : s.upstreamTasks.get? key = some h) :
      Step s (.unsubscribe key client) (cancelTask (dropKey (markUnsubscribed s key client) key) h)
  | unsubscribeTaskless {client : ClientId} {key : Key} {bucket : Dict ClientId Socket}
      (known : s.activeStreams.get? key = some bucket) (last : (bucket.pop client).isEmpty = true)
      (taskless : s.upstreamTasks.get? key = none) :
      Step s (.unsubscribe key client) (dropKey (markUnsubscribed s key client) key)
  | begin {h : HandlerId} {handler : Handler Key Socket Item}
      (at' : s.handlers.get? h = some handler) (pc : handler.pc = .created)
      (calm : handler.cancelled = false) :
      Step s (.begin h true) (setHandler s h { handler with pc := .receiving })
  | beginUnknown {h : HandlerId} {handler : Handler Key Socket Item}
      (at' : s.handlers.get? h = some handler) (pc : handler.pc = .created)
      (calm : handler.cancelled = false) :
      Step s (.begin h false) (finalize s h handler)
  | item {h : HandlerId} {x : Item} {handler : Handler Key Socket Item}
      (at' : s.handlers.get? h = some handler) (pc : handler.pc = .receiving)
      (calm : handler.cancelled = false)
      (clients : (s.activeStreams.getD handler.key .empty).isEmpty = false) :
      Step s (.item h x) (setHandler s h { handler.yields x with
        pc := .sending (freshSends (s.activeStreams.getD handler.key .empty)) })
  | itemGone {h : HandlerId} {x : Item} {handler : Handler Key Socket Item}
      (at' : s.handlers.get? h = some handler) (pc : handler.pc = .receiving)
      (calm : handler.cancelled = false)
      (gone : (s.activeStreams.getD handler.key .empty).isEmpty = true) :
      Step s (.item h x) (finalize s h (handler.yields x))
  | attempt {h : HandlerId} {client : ClientId} {handler : Handler Key Socket Item}
      {sends : List (Send Socket)} {x : Item}
      (at' : s.handlers.get? h = some handler) (pc : handler.pc = .sending sends)
      (calm : handler.cancelled = false) (last : handler.yielded.getLast? = some x)
      (unstarted : statusOf sends client = some .unstarted) :
      Step s (.attempt h client)
        { setHandler s h { handler with pc := .sending (setStatus client .started sends) } with
          history := s.history ++ [.attempt client h (handler.yielded.length - 1) x] }
  | settle {h : HandlerId} {client : ClientId} {ok : Bool} {handler : Handler Key Socket Item}
      {sends : List (Send Socket)} (at' : s.handlers.get? h = some handler)
      (pc : handler.pc = .sending sends) (started : statusOf sends client = some .started) :
      Step s (.settle h client ok)
        { setHandler s h { handler with
            pc := .sending (setStatus client (if ok then .sent else .failed) sends) } with
          history := if ok then s.history else s.history ++ [.failed client] }
  | gatheredAlive {h : HandlerId} {handler : Handler Key Socket Item} {sends : List (Send Socket)}
      (at' : s.handlers.get? h = some handler) (pc : handler.pc = .sending sends)
      (calm : handler.cancelled = false) (completed : ∀ send ∈ sends, send.completed = true)
      (alive : deadItems sends = []) :
      Step s (.gathered h) (setHandler s h { handler with pc := .receiving })
  | gatheredGone {h : HandlerId} {handler : Handler Key Socket Item} {sends : List (Send Socket)}
      (at' : s.handlers.get? h = some handler) (pc : handler.pc = .sending sends)
      (calm : handler.cancelled = false) (completed : ∀ send ∈ sends, send.completed = true)
      (gone : s.activeStreams.get? handler.key = none) :
      Step s (.gathered h) (setHandler { s with
        closes := s.closes ++ (deadItems sends).map Send.socket } h { handler with pc := .receiving })
  | gatheredKept {h : HandlerId} {handler : Handler Key Socket Item} {sends : List (Send Socket)}
      {bucket : Dict ClientId Socket}
      (at' : s.handlers.get? h = some handler) (pc : handler.pc = .sending sends)
      (calm : handler.cancelled = false) (completed : ∀ send ∈ sends, send.completed = true)
      (known : s.activeStreams.get? handler.key = some bucket)
      (others : (popDead (deadItems sends) bucket).isEmpty = false) :
      Step s (.gathered h) (setHandler { s with
        closes := s.closes ++ (deadItems sends).map Send.socket
        activeStreams := s.activeStreams.set handler.key (popDead (deadItems sends) bucket) } h
          { handler with pc := .receiving })
  | gatheredEmptied {h : HandlerId} {handler : Handler Key Socket Item} {sends : List (Send Socket)}
      {bucket : Dict ClientId Socket}
      (at' : s.handlers.get? h = some handler) (pc : handler.pc = .sending sends)
      (calm : handler.cancelled = false) (completed : ∀ send ∈ sends, send.completed = true)
      (known : s.activeStreams.get? handler.key = some bucket)
      (emptied : (popDead (deadItems sends) bucket).isEmpty = true) :
      Step s (.gathered h) (finalize (dropKey { s with
        closes := s.closes ++ (deadItems sends).map Send.socket } handler.key) h handler)
  | ended {h : HandlerId} {handler : Handler Key Socket Item}
      (at' : s.handlers.get? h = some handler) (pc : handler.pc = .receiving)
      (calm : handler.cancelled = false) : Step s (.ended h) (finalize s h handler)
  | interruptedBody {h : HandlerId} {handler : Handler Key Socket Item}
      (at' : s.handlers.get? h = some handler) (cancelled : handler.cancelled = true)
      (active : handler.pc.active = true) : Step s (.interrupted h) (finalize s h handler)
  | interruptedOutside {h : HandlerId} {handler : Handler Key Socket Item}
      (at' : s.handlers.get? h = some handler) (cancelled : handler.cancelled = true)
      (outside : handler.pc = .created ∨ handler.pc = .closing) :
      Step s (.interrupted h) (setHandler s h { handler with pc := .done, cancelled := false })
  | closed {h : HandlerId} {handler : Handler Key Socket Item}
      (at' : s.handlers.get? h = some handler) (pc : handler.pc = .closing) :
      Step s (.closed h) (setHandler s h { handler with pc := .done })

variable {s s' : State Key Socket Item}

theorem subscribe_step {client : ClientId} {key : Key} {socket : Socket}
    (h : subscribe s client key socket = some s') : Step s (.subscribe client key socket) s' := by
  unfold subscribe at h
  split at h
  · cases h
  · rename_i fresh
    split at h
    · cases h
      exact .subscribeJoin fresh ‹_›
    · cases h
      exact .subscribeOpen fresh ‹_›

section frame
variable (s) (key : Key) (client : ClientId) (h : HandlerId) (handler : Handler Key Socket Item)

/-- Marking a client as unsubscribed touches its subscription only. -/
theorem markUnsubscribed_frame : markUnsubscribed s key client =
    { s with subscriptions := (markUnsubscribed s key client).subscriptions } := by
  unfold markUnsubscribed
  split
  · split <;> rfl
  · rfl

@[simp] theorem markUnsubscribed_activeStreams :
    (markUnsubscribed s key client).activeStreams = s.activeStreams := by
  rw [markUnsubscribed_frame]

@[simp] theorem markUnsubscribed_upstreamTasks :
    (markUnsubscribed s key client).upstreamTasks = s.upstreamTasks := by
  rw [markUnsubscribed_frame]

@[simp] theorem markUnsubscribed_handlers :
    (markUnsubscribed s key client).handlers = s.handlers := by
  rw [markUnsubscribed_frame]

@[simp] theorem markUnsubscribed_nextHandler :
    (markUnsubscribed s key client).nextHandler = s.nextHandler := by
  rw [markUnsubscribed_frame]

@[simp] theorem markUnsubscribed_closes :
    (markUnsubscribed s key client).closes = s.closes := by
  rw [markUnsubscribed_frame]

@[simp] theorem markUnsubscribed_history :
    (markUnsubscribed s key client).history = s.history := by
  rw [markUnsubscribed_frame]

omit [DecidableEq Key] in
/-- Cancelling a task sets its flag only. -/
theorem cancelTask_frame : cancelTask s h = { s with handlers := (cancelTask s h).handlers } := by
  unfold cancelTask
  split
  · split <;> rfl
  · rfl

omit [DecidableEq Key] in
@[simp] theorem cancelTask_activeStreams : (cancelTask s h).activeStreams = s.activeStreams := by
  rw [cancelTask_frame]

omit [DecidableEq Key] in
@[simp] theorem cancelTask_upstreamTasks : (cancelTask s h).upstreamTasks = s.upstreamTasks := by
  rw [cancelTask_frame]

omit [DecidableEq Key] in
@[simp] theorem cancelTask_subscriptions : (cancelTask s h).subscriptions = s.subscriptions := by
  rw [cancelTask_frame]

omit [DecidableEq Key] in
@[simp] theorem cancelTask_closes : (cancelTask s h).closes = s.closes := by
  rw [cancelTask_frame]

omit [DecidableEq Key] in
@[simp] theorem cancelTask_history : (cancelTask s h).history = s.history := by
  rw [cancelTask_frame]

@[simp] theorem finalize_subscriptions :
    (finalize s h handler).subscriptions = s.subscriptions := by
  unfold finalize
  split <;> rfl

@[simp] theorem finalize_history : (finalize s h handler).history = s.history := by
  unfold finalize
  split <;> rfl

end frame

theorem unsubscribe_step (key : Key) (client : ClientId) :
    Step s (.unsubscribe key client) (unsubscribe s key client) := by
  unfold unsubscribe
  dsimp only
  rw [markUnsubscribed_activeStreams]
  split
  · exact .unsubscribeAbsent ‹_›
  · rename_i bucket known
    split
    · rename_i last
      rw [markUnsubscribed_upstreamTasks]
      split
      · exact .unsubscribeLast known last ‹_›
      · exact .unsubscribeTaskless known last ‹_›
    · rename_i others
      exact .unsubscribeKeep known (by simpa using others)

theorem gathered_step {h : HandlerId} (taken : gathered s h = some s') :
    Step s (.gathered h) s' := by
  unfold gathered at taken
  split at taken
  · rename_i handler at'
    split at taken
    · rename_i sends pc calm
      split at taken
      · rename_i allOver
        have completed : ∀ send ∈ sends, send.completed = true := List.all_eq_true.mp allOver
        dsimp only at taken
        split at taken
        · rename_i alive
          cases taken
          exact .gatheredAlive at' pc calm completed alive
        · unfold removeDead at taken
          cases known : s.activeStreams.get? handler.key with
          | none =>
            simp only [known] at taken
            cases taken
            exact .gatheredGone at' pc calm completed known
          | some bucket =>
            simp only [known] at taken
            cases emptied : (popDead (deadItems sends) bucket).isEmpty with
            | true =>
              simp only [emptied, if_true] at taken
              cases taken
              exact .gatheredEmptied at' pc calm completed known emptied
            | false =>
              simp only [emptied, Bool.false_eq_true, if_false] at taken
              cases taken
              exact .gatheredKept at' pc calm completed known emptied
      · cases taken
    · cases taken
  · cases taken

theorem interrupted_step {h : HandlerId} (taken : interrupted s h = some s') :
    Step s (.interrupted h) s' := by
  unfold interrupted at taken
  split at taken
  · rename_i handler at'
    split at taken
    · rename_i cancelled
      split at taken
      · rename_i pc
        cases taken
        exact .interruptedOutside at' cancelled (Or.inl pc)
      · rename_i pc
        cases taken
        exact .interruptedOutside at' cancelled (Or.inr pc)
      · rename_i pc
        cases taken
        exact .interruptedBody at' cancelled (by rw [pc]; rfl)
      · rename_i sends pc
        cases taken
        exact .interruptedBody at' cancelled (by rw [pc]; rfl)
      · cases taken
    · cases taken
  · cases taken

theorem begin_step {h : HandlerId} {known : Bool} (taken : begin s h known = some s') :
    Step s (.begin h known) s' := by
  unfold StreamManager.begin at taken
  split at taken
  · rename_i handler at'
    split at taken
    · rename_i pc calm
      cases known with
      | true =>
        cases taken
        exact .begin at' pc calm
      | false =>
        cases taken
        exact .beginUnknown at' pc calm
    · cases taken
  · cases taken

theorem item_step {h : HandlerId} {x : Item} (taken : item s h x = some s') :
    Step s (.item h x) s' := by
  unfold StreamManager.item at taken
  split at taken
  · rename_i handler at'
    split at taken
    · rename_i pc calm
      dsimp only at taken
      split at taken
      · rename_i gone
        cases taken
        exact .itemGone at' pc calm gone
      · rename_i clients
        cases taken
        exact .item at' pc calm (by simpa using clients)
    · cases taken
  · cases taken

theorem attempt_step {h : HandlerId} {client : ClientId} (taken : attempt s h client = some s') :
    Step s (.attempt h client) s' := by
  unfold StreamManager.attempt at taken
  split at taken
  · rename_i handler at'
    split at taken
    · rename_i sends x pc calm last
      split at taken
      · cases taken
        exact .attempt at' pc calm last ‹_›
      · cases taken
    · cases taken
  · cases taken

theorem settle_step {h : HandlerId} {client : ClientId} {ok : Bool}
    (taken : settle s h client ok = some s') : Step s (.settle h client ok) s' := by
  unfold StreamManager.settle at taken
  split at taken
  · rename_i handler at'
    split at taken
    · rename_i sends pc
      split at taken
      · cases taken
        exact .settle at' pc ‹_›
      · cases taken
    · cases taken
  · cases taken

theorem ended_step {h : HandlerId} (taken : ended s h = some s') : Step s (.ended h) s' := by
  unfold StreamManager.ended at taken
  split at taken
  · rename_i handler at'
    split at taken
    · cases taken
      exact .ended at' ‹_› ‹_›
    · cases taken
  · cases taken

theorem closed_step {h : HandlerId} (taken : closed s h = some s') : Step s (.closed h) s' := by
  unfold StreamManager.closed at taken
  split at taken
  · rename_i handler at'
    split at taken
    · cases taken
      exact .closed at' ‹_›
    · cases taken
  · cases taken

theorem step_cases {ev : Event Key Socket Item} (taken : step s ev = some s') : Step s ev s' := by
  cases ev with
  | subscribe client key socket => exact subscribe_step taken
  | unsubscribe key client =>
    cases taken
    exact unsubscribe_step key client
  | begin h known => exact begin_step taken
  | item h x => exact item_step taken
  | attempt h client => exact attempt_step taken
  | settle h client ok => exact settle_step taken
  | gathered h => exact gathered_step taken
  | ended h => exact ended_step taken
  | interrupted h => exact interrupted_step taken
  | closed h => exact closed_step taken

end ExchangeRouter.StreamManager
