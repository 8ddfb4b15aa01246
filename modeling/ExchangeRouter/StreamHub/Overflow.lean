import ExchangeRouter.StreamHub.Wire
import ExchangeRouter.StreamHub.Queues

/-!
# What a full queue loses

A registered queue is handed the messages of its topic from some moment on.
Its consumer takes a subsequence: the fan-out drops the oldest message of a full
queue without telling anyone.  As long as nothing that came after the latest
snapshot is dropped ahead of a message that is taken, what was taken since that
snapshot is what was received since.
-/
namespace ExchangeRouter.StreamHub
open Lib

/-- The part of a list from the last element with a property on. -/
def sinceLast {α : Type} (p : α → Bool) : List α → List α
  | [] => []
  | a :: rest => if rest.any p then sinceLast p rest else if p a then a :: rest else []

theorem sinceLast_suffix {α : Type} (p : α → Bool) (l : List α) : sinceLast p l <:+ l := by
  induction l with
  | nil => exact List.suffix_refl []
  | cons a rest ih =>
    unfold sinceLast
    split
    · exact ih.trans (List.suffix_cons a rest)
    · split
      · exact List.suffix_refl _
      · exact List.nil_suffix

theorem sinceLast_starts {α : Type} {p : α → Bool} {l : List α} (some' : l.any p = true) :
    ∃ first rest, sinceLast p l = first :: rest ∧ p first = true := by
  induction l with
  | nil => cases some'
  | cons a rest ih =>
    unfold sinceLast
    by_cases later : rest.any p = true
    · rw [if_pos later]
      exact ih later
    · have now : p a = true := by simpa [later] using some'
      exact ⟨a, rest, by rw [if_neg later, if_pos now], now⟩

/-- A subsequence that has every element of a final part ends with it. -/
theorem suffix_of_sublist {α : Type} {early final read : List α} (nodup : (early ++ final).Nodup)
    (sub : read.Sublist (early ++ final)) (all : ∀ x ∈ final, x ∈ read) :
    ∃ older, read = older ++ final := by
  obtain ⟨older, newer, rfl, inEarly, inFinal⟩ := List.sublist_append_iff.mp sub
  obtain ⟨-, finalNodup, apart⟩ := List.nodup_append.mp nodup
  have covered : final ⊆ newer := fun x member => by
    rcases List.mem_append.mp (all x member) with old | new
    · exact absurd rfl (apart x (inEarly.subset old) x member)
    · exact new
  have long : final.length ≤ newer.length := (finalNodup.subperm covered).length_le
  exact ⟨older, by rw [inFinal.eq_of_length_le long]⟩

variable {Topic Payload Msg : Type}

/-- The messages that came ahead of number `n`. -/
def earlier (n : Nat) (arrivals : List (Arrival Msg)) : List (Arrival Msg) :=
  arrivals.filter fun a => a.index < n

/-- Messages are numbered in the order in which they came. -/
def Ordered (arrivals : List (Arrival Msg)) : Prop :=
  arrivals.Pairwise fun a b => a.index < b.index

theorem Ordered.nodup {arrivals : List (Arrival Msg)} (h : Ordered arrivals) : arrivals.Nodup :=
  h.imp fun {a b} before same => by
    rw [same] at before
    exact Nat.lt_irrefl _ before

theorem Ordered.earlier_concat {before : List (Arrival Msg)} {a : Arrival Msg}
    (h : Ordered (before ++ [a])) : ∀ b ∈ before, b.index < a.index := fun b member =>
  (List.pairwise_append.mp h).2.2 b member a (List.mem_singleton.mpr rfl)

theorem Ordered.concat {arrivals : List (Arrival Msg)} (h : Ordered arrivals) {a : Arrival Msg}
    (last : ∀ b ∈ arrivals, b.index < a.index) : Ordered (arrivals ++ [a]) := by
  apply List.pairwise_append.mpr
  refine ⟨h, List.pairwise_singleton _ _, ?_⟩
  intro b member new isNew
  rw [List.mem_singleton.mp isNew]
  exact last b member

theorem earlier_append_late {n : Nat} {arrivals late : List (Arrival Msg)}
    (after : ∀ a ∈ late, n ≤ a.index) : earlier n (arrivals ++ late) = earlier n arrivals := by
  have none : late.filter (fun a => a.index < n) = [] :=
    List.filter_eq_nil_iff.mpr fun a member => by simpa using after a member
  rw [earlier, List.filter_append, none, List.append_nil, earlier]

variable [DecidableEq Topic]

/-- The messages of a topic among those a hub received. -/
def topicLog (route : Msg → Option Topic) (topic : Topic) (received : List (Conn × Msg)) :
    List (Arrival Msg) :=
  (received.zipIdx.map fun e => (⟨e.2, e.1.1, e.1.2⟩ : Arrival Msg)).filter fun a =>
    route a.msg = some topic

theorem topicLog_append (route : Msg → Option Topic) (topic : Topic)
    (received : List (Conn × Msg)) (c : Conn) (m : Msg) :
    topicLog route topic (received ++ [(c, m)]) = topicLog route topic received ++
      if route m = some topic then [⟨received.length, c, m⟩] else [] := by
  by_cases own : route m = some topic <;> simp [topicLog, List.zipIdx_append, own]

/-- Later messages have later numbers. -/
theorem earlier_topicLog (route : Msg → Option Topic) (topic : Topic) {received : List (Conn × Msg)}
    {n : Nat} (small : n ≤ received.length) (more : List (Conn × Msg)) :
    earlier n (topicLog route topic (received ++ more)) =
      earlier n (topicLog route topic received) := by
  induction more using List.reverseRecOn with
  | nil => rw [List.append_nil]
  | append_singleton more e ih =>
    rw [← List.append_assoc, topicLog_append, earlier_append_late fun a late => ?_, ih]
    split at late
    · rw [List.mem_singleton.mp late, List.length_append]
      exact Nat.le_add_right_of_le small
    · cases late

/-- Where the queues of a hub are registered. -/
structure Listed (s : State Topic Payload Msg) : Prop where
  nodup : ∀ topic, (queuesOf s topic).Nodup
  fresh : ∀ topic, ∀ q ∈ queuesOf s topic, q < s.nextQueue
  own : ∀ topic topic' q, q ∈ queuesOf s topic → q ∈ queuesOf s topic' → topic = topic'

theorem Listed.initial : Listed (State.initial : State Topic Payload Msg) where
  nodup := fun _ => List.nodup_nil
  fresh := fun _ _ member => by cases member
  own := fun _ _ _ member => by cases member

theorem nextQueue_step {cfg : Config Topic Payload Msg} {s s' : State Topic Payload Msg}
    {ev : Event Topic Msg} (step : Step cfg s ev s') : s.nextQueue ≤ s'.nextQueue ∧
      ∀ id topic, ev = .subscribe id topic → s.nextQueue < s'.nextQueue := by
  cases step with
  | subscribeNew | subscribeJoin => exact ⟨Nat.le_succ _, fun _ _ _ => Nat.lt_succ_self _⟩
  | resumeSend call new send => exact ⟨le_of_eq send.nextQueue.symm, by simp⟩
  | sentSubscribe call send => exact ⟨le_of_eq send.nextQueue.symm, by simp⟩
  | sentUnsubscribe call send => exact ⟨le_of_eq send.nextQueue.symm, by simp⟩
  | unsubscribeSend startable notHeld last connected send =>
    exact ⟨le_of_eq send.nextQueue.symm, by simp⟩
  | @connect ok mid pending task send =>
    refine ⟨le_of_eq ?_, by simp⟩
    cases pending <;> exact send.nextQueue.symm
  | @resubscribed ok c rest mid pending task send =>
    refine ⟨le_of_eq ?_, by simp⟩
    cases pending <;> exact send.nextQueue.symm
  | wake | timeout | resumeKnown | unsubscribeKeep | unsubscribeQuiet | cancelSubscribe
  | cancelUnsubscribe | connectFailed | receive | disconnect | closed | reconnect | get | die =>
    exact ⟨le_refl _, by simp⟩

theorem Listed.step {cfg : Config Topic Payload Msg} {s s' : State Topic Payload Msg}
    {ev : Event Topic Msg} (h : Listed s) (step : Step cfg s ev s') : Listed s' where
  nodup := fun topic => by
    rcases queuesOf_change step topic with fewer | ⟨more, -⟩
    · exact (h.nodup topic).sublist fewer
    · rw [more]
      refine List.nodup_append.mpr ⟨h.nodup topic, List.nodup_singleton _, fun q member x new => ?_⟩
      rw [List.mem_singleton.mp new]
      exact Nat.ne_of_lt (h.fresh topic q member)
  fresh := fun topic q member => by
    obtain ⟨grows, subscribes⟩ := nextQueue_step step
    rcases queuesOf_step step member with before | ⟨rfl, id, subscribed⟩
    · exact lt_of_lt_of_le (h.fresh topic q before) grows
    · exact subscribes id topic subscribed
  own := fun topic topic' q member member' => by
    rcases queuesOf_step step member with before | ⟨rfl, id, subscribed⟩ <;>
      rcases queuesOf_step step member' with before' | ⟨same, id', subscribed'⟩
    · exact h.own topic topic' q before before'
    · exact absurd (h.fresh topic q before) (same ▸ Nat.lt_irrefl _)
    · exact absurd (h.fresh topic' _ before') (Nat.lt_irrefl _)
    · rw [subscribed] at subscribed'
      cases subscribed'
      rfl

theorem listed_reachable {allowed : State Topic Payload Msg → Label Topic Payload Msg → Prop}
    {s : State Topic Payload Msg} (run : Reachable system allowed s) : Listed s :=
  run.invariant .initial fun _ _ _ _ before _ taken => before.step (step_cases taken)

/-- Messages move in the receive loop and when a consumer takes one. -/
theorem queue_step {cfg : Config Topic Payload Msg} {s s' : State Topic Payload Msg}
    {ev : Event Topic Msg} (step : Step cfg s ev s') :
    (s'.queue = s.queue ∧ s'.received = s.received ∧ ∀ q, ev ≠ .get q) ∨
    (∃ c m, ev = .receive m ∧ s'.queue = delivered cfg s c m ∧
      s'.received = s.received ++ [(c, m)] ∧ s'.queues = s.queues) ∨
    ∃ q m rest, ev = .get q ∧ (s.queue q).items = m :: rest ∧ s'.received = s.received ∧
      s'.queue = Function.update s.queue q
        { s.queue q with items := rest, taken := (s.queue q).taken ++ [m] } ∧
      s'.queues = s.queues := by
  cases step with
  | @receive m c stable task => exact Or.inr (Or.inl ⟨c, m, rfl, rfl, rfl, rfl⟩)
  | @get q m rest items => exact Or.inr (Or.inr ⟨q, m, rest, rfl, items, rfl, rfl, rfl⟩)
  | resumeSend call new send => exact Or.inl (by cases send <;> exact ⟨rfl, rfl, by simp⟩)
  | sentSubscribe call send => exact Or.inl (by cases send <;> exact ⟨rfl, rfl, by simp⟩)
  | sentUnsubscribe call send => exact Or.inl (by cases send <;> exact ⟨rfl, rfl, by simp⟩)
  | unsubscribeSend startable notHeld last connected send =>
    exact Or.inl (by cases send <;> exact ⟨rfl, rfl, by simp⟩)
  | connect task send => exact Or.inl (by cases send <;> exact ⟨rfl, rfl, by simp⟩)
  | resubscribed task send => exact Or.inl (by cases send <;> exact ⟨rfl, rfl, by simp⟩)
  | subscribeNew | subscribeJoin | wake | timeout | resumeKnown | unsubscribeKeep
  | unsubscribeQuiet | cancelSubscribe | cancelUnsubscribe | connectFailed | disconnect | closed
  | reconnect | die => exact Or.inl ⟨rfl, rfl, by simp⟩

/-- What a consumer took and can still take is a part of what its queue was
handed. -/
def Kept (q : Queue Msg) : Prop := (q.taken ++ q.items).Sublist q.arrived

omit [DecidableEq Topic] in
theorem Kept.offer {q : Queue Msg} (h : Kept q) (maxsize : Nat) (m : Arrival Msg) :
    Kept (q.offer maxsize m) := by
  unfold Kept at h ⊢
  cases room : q.full maxsize with
  | false =>
    rw [Queue.offer_room room, ← List.append_assoc]
    exact List.Sublist.append h (List.Sublist.refl _)
  | true =>
    have shorter : (q.taken ++ q.items.tail).Sublist q.arrived :=
      ((List.append_sublist_append_left _).mpr (List.tail_sublist _)).trans h
    rw [Queue.offer_full room]
    unfold Queue.putNowait
    split
    · exact shorter.trans (List.sublist_append_left _ _)
    · change (q.taken ++ (q.items.tail ++ [m])).Sublist (q.arrived ++ [m])
      rw [← List.append_assoc]
      exact List.Sublist.append shorter (List.Sublist.refl _)

omit [DecidableEq Topic] in
theorem kept_fanOut {maxsize : Nat} {m : Arrival Msg} {queue : QueueId → Queue Msg}
    (h : ∀ q, Kept (queue q)) (qs : List QueueId) (q : QueueId) :
    Kept (fanOut maxsize m queue qs q) ∧ (fanOut maxsize m queue qs q).taken = (queue q).taken := by
  induction qs generalizing queue with
  | nil => exact ⟨h q, rfl⟩
  | cons x rest ih =>
    have offered : ∀ y, Kept (Function.update queue x ((queue x).offer maxsize m) y) := by
      intro y
      by_cases same : y = x
      · subst same
        rw [Function.update_self]
        exact (h y).offer maxsize m
      · rw [Function.update_of_ne same]
        exact h y
    rw [fanOut_cons]
    refine ⟨(ih offered).1, (ih offered).2.trans ?_⟩
    by_cases same : q = x
    · subst same
      simp
    · rw [Function.update_of_ne same]

theorem kept_delivered {s : State Topic Payload Msg} (h : ∀ q, Kept (s.queue q))
    (cfg : Config Topic Payload Msg) (c : Conn) (m : Msg) (q : QueueId) :
    Kept (delivered cfg s c m q) ∧ (delivered cfg s c m q).taken = (s.queue q).taken := by
  unfold delivered
  cases cfg.route m with
  | none => exact ⟨h q, rfl⟩
  | some topic => exact kept_fanOut h _ q

/-- A registered queue is handed each message of its topic once. -/
theorem arrived_once {s : State Topic Payload Msg} (h : Listed s) {cfg : Config Topic Payload Msg}
    {m : Msg} {topic : Topic} (routed : cfg.route m = some topic) (c : Conn) (q : QueueId) :
    (delivered cfg s c m q).arrived = (s.queue q).arrived ++
      if q ∈ queuesOf s topic then [⟨s.received.length, c, m⟩] else [] := by
  rw [arrived_delivered routed]
  by_cases listed : q ∈ queuesOf s topic
  · rw [List.count_eq_one_of_mem (h.nodup topic) listed, if_pos listed]
    rfl
  · rw [List.count_eq_zero.mpr listed, if_neg listed]
    rfl

/-- The message that is delivered comes after all that were handed to a queue before. -/
theorem delivered_ordered {s : State Topic Payload Msg} (listed : Listed s) {q : QueueId}
    (ordered : Ordered (s.queue q).arrived)
    (numbered : ∀ a ∈ (s.queue q).arrived, a.index < s.received.length)
    (cfg : Config Topic Payload Msg) (c : Conn) (m : Msg) :
    Ordered (delivered cfg s c m q).arrived ∧
      ∀ a ∈ (delivered cfg s c m q).arrived, a.index < s.received.length + 1 := by
  have unchanged : ∀ a ∈ (s.queue q).arrived, a.index < s.received.length + 1 :=
    fun a member => Nat.lt_succ_of_lt (numbered a member)
  cases routed : cfg.route m with
  | none =>
    simp only [delivered, routed]
    exact ⟨ordered, unchanged⟩
  | some topic =>
    rw [arrived_once listed routed]
    split
    · refine ⟨ordered.concat numbered, ?_⟩
      intro a member
      rcases List.mem_append.mp member with old | new
      · exact unchanged a old
      · rw [List.mem_singleton.mp new]
        exact Nat.lt_succ_self _
    · rw [List.append_nil]
      exact ⟨ordered, unchanged⟩

/-- What the queues of a hub were handed of the messages it received. -/
structure Holds (route : Msg → Option Topic) (s : State Topic Payload Msg) : Prop where
  kept : ∀ q, Kept (s.queue q)
  ordered : ∀ q, Ordered (s.queue q).arrived
  numbered : ∀ q, ∀ a ∈ (s.queue q).arrived, a.index < s.received.length
  unused : ∀ q, s.nextQueue ≤ q → (s.queue q).arrived = []
  handed : ∀ topic, ∀ q ∈ queuesOf s topic,
    (s.queue q).arrived <:+ topicLog route topic s.received

theorem Holds.initial (route : Msg → Option Topic) :
    Holds route (State.initial : State Topic Payload Msg) where
  kept := fun _ => List.Sublist.refl _
  ordered := fun _ => List.Pairwise.nil
  numbered := fun _ _ member => by cases member
  unused := fun _ _ => rfl
  handed := fun _ _ member => by cases member

/-- A step that hands no message to a queue. -/
theorem Holds.keep {route : Msg → Option Topic} {cfg : Config Topic Payload Msg}
    {s s' : State Topic Payload Msg} {ev : Event Topic Msg} (h : Holds route s)
    (step : Step cfg s ev s') (kept : ∀ q, Kept (s'.queue q))
    (arrived : ∀ q, (s'.queue q).arrived = (s.queue q).arrived)
    (received : s'.received = s.received) : Holds route s' where
  kept := kept
  ordered := fun q => arrived q ▸ h.ordered q
  numbered := fun q a member => received ▸ h.numbered q a (arrived q ▸ member)
  unused := fun q above => (arrived q).trans (h.unused q ((nextQueue_step step).1.trans above))
  handed := fun topic q member => by
    rw [arrived q, received]
    rcases queuesOf_step step member with before | ⟨rfl, -⟩
    · exact h.handed topic q before
    · rw [h.unused _ (le_refl _)]
      exact List.nil_suffix

/-- The receive loop takes a message. -/
theorem Holds.receive {cfg : Config Topic Payload Msg} {s s' : State Topic Payload Msg} {m : Msg}
    {c : Conn} (h : Holds cfg.route s) (listed : Listed s) (step : Step cfg s (.receive m) s')
    (queue : s'.queue = delivered cfg s c m) (received : s'.received = s.received ++ [(c, m)])
    (queues : s'.queues = s.queues) : Holds cfg.route s' := by
  have arrived : ∀ q, (s'.queue q).arrived = (s.queue q).arrived ∨
      (∃ topic, cfg.route m = some topic ∧ q ∈ queuesOf s topic ∧
        (s'.queue q).arrived = (s.queue q).arrived ++ [⟨s.received.length, c, m⟩]) := by
    intro q
    rw [queue]
    cases routed : cfg.route m with
    | none => exact Or.inl (by simp [delivered, routed])
    | some topic =>
      rw [arrived_once listed routed]
      by_cases member : q ∈ queuesOf s topic
      · exact Or.inr ⟨topic, rfl, member, by rw [if_pos member]⟩
      · exact Or.inl (by rw [if_neg member, List.append_nil])
  constructor
  · exact fun q => queue ▸ (kept_delivered h.kept cfg c m q).1
  · intro q
    rw [queue]
    exact (delivered_ordered listed (h.ordered q) (h.numbered q) cfg c m).1
  · intro q a member
    rw [received, List.length_append, List.length_singleton]
    rw [queue] at member
    exact (delivered_ordered listed (h.ordered q) (h.numbered q) cfg c m).2 a member
  · intro q above
    have before := (nextQueue_step step).1.trans above
    rcases arrived q with same | ⟨topic, -, member, -⟩
    · exact same.trans (h.unused q before)
    · exact absurd (listed.fresh topic q member) (Nat.not_lt.mpr before)
  · intro topic q member
    have registered : q ∈ queuesOf s topic := mem_queuesOf_congr queues member
    obtain ⟨skipped, before⟩ := h.handed topic q registered
    rw [received, topicLog_append, ← before]
    by_cases own : cfg.route m = some topic
    · rw [queue, arrived_once listed own, if_pos registered, if_pos own, List.append_assoc]
      exact List.suffix_append _ _
    · rw [if_neg own, List.append_nil]
      rcases arrived q with same | ⟨other, routed, listedThere, -⟩
      · rw [same]
        exact List.suffix_append _ _
      · exact absurd (listed.own topic other q registered listedThere ▸ routed) own

/-- The router of the hub does not change. -/
def FixedRoute (route : Msg → Option Topic) (label : Label Topic Payload Msg) : Prop :=
  label.1.route = route

theorem holds_reachable {route : Msg → Option Topic}
    {allowed : State Topic Payload Msg → Label Topic Payload Msg → Prop}
    (fixed : ∀ s label, allowed s label → FixedRoute route label) {s : State Topic Payload Msg}
    (run : Reachable system allowed s) : Holds route s := by
  refine run.invariant (.initial route) fun s label s' reached h permitted taken => ?_
  have step := step_cases taken
  rcases queue_step step with ⟨queue, received, -⟩ | ⟨c, m, isReceive, queue, received, queues⟩ |
    ⟨q, m, rest, isGet, items, received, queue, -⟩
  · exact h.keep step (fun q => queue ▸ h.kept q) (fun q => by rw [queue]) received
  · obtain rfl : label.1.route = route := fixed s label permitted
    exact h.receive (listed_reachable reached) (isReceive ▸ step) queue received queues
  · refine h.keep step (fun x => ?_) (fun x => ?_) received
    · rw [queue]
      by_cases same : x = q
      · subst same
        have before := h.kept x
        unfold Kept at before ⊢
        rw [items] at before
        simpa using before
      · rw [Function.update_of_ne same]
        exact h.kept x
    · rw [queue]
      by_cases same : x = q
      · subst same
        simp
      · rw [Function.update_of_ne same]

/-- Once a consumer has taken a snapshot, nothing that its queue was handed from
the latest snapshot to the message it takes was dropped. -/
def TakesUnbroken (starts : Msg → Bool) (s : State Topic Payload Msg) : Event Topic Msg → Prop
  | .get q => ∀ m ∈ (s.queue q).items.head?,
      ((s.queue q).taken ++ [m]).any (fun a => starts a.msg) = true →
      ∀ x ∈ sinceLast (fun a => starts a.msg) (earlier m.index (s.queue q).arrived ++ [m]),
        x ∈ (s.queue q).taken ++ [m]
  | _ => True

instance [DecidableEq Msg] (starts : Msg → Bool) (s : State Topic Payload Msg) :
    (ev : Event Topic Msg) → Decidable (TakesUnbroken starts s ev)
  | .get q => inferInstanceAs (Decidable (∀ m ∈ (s.queue q).items.head?,
      ((s.queue q).taken ++ [m]).any (fun a => starts a.msg) = true →
      ∀ x ∈ sinceLast (fun a => starts a.msg) (earlier m.index (s.queue q).arrived ++ [m]),
        x ∈ (s.queue q).taken ++ [m]))
  | .subscribe .. | .wake .. | .timeout .. | .resume .. | .sent .. | .unsubscribe .. | .cancel ..
  | .connect .. | .connectFailed | .resubscribed .. | .receive .. | .disconnect | .closed
  | .reconnect | .die .. => isTrue trivial

def UnbrokenStep (route : Msg → Option Topic) (starts : Msg → Bool) (s : State Topic Payload Msg)
    (label : Label Topic Payload Msg) : Prop :=
  FixedRoute route label ∧ TakesUnbroken starts s label.2

/-- Every consumer that has taken a snapshot has taken all that its queue was
handed since the latest one, up to each message it took. -/
def Unbroken (starts : Msg → Bool) (s : State Topic Payload Msg) : Prop :=
  ∀ q before a, before ++ [a] <+: (s.queue q).taken →
    (before ++ [a]).any (fun x => starts x.msg) = true →
    ∀ x ∈ sinceLast (fun a => starts a.msg) (earlier a.index (s.queue q).arrived ++ [a]),
      x ∈ before ++ [a]

theorem unbroken_reachable {route : Msg → Option Topic} {starts : Msg → Bool}
    {s : State Topic Payload Msg} (run : Reachable system (UnbrokenStep route starts) s) :
    Unbroken starts s := by
  refine run.invariant (fun q before a taken => ?_) fun s label s' reached h permitted taken => ?_
  · have nothing := List.prefix_nil.mp taken
    simp at nothing
  have holds : Holds route s := holds_reachable (fun _ _ ok => ok.1) reached
  rcases queue_step (step_cases taken) with ⟨queue, -, -⟩ | ⟨c, m, -, queue, -, -⟩ |
    ⟨q, m, rest, isGet, items, -, queue, -⟩
  · exact fun q before a inTaken => queue ▸ h q before a (queue ▸ inTaken)
  · intro q before a inTaken
    have fixed : label.1.route = route := permitted.1
    rw [queue, (kept_delivered holds.kept label.1 c m q).2] at inTaken
    have member : a ∈ (s.queue q).arrived := by
      refine (holds.kept q).subset (List.mem_append_left _ (inTaken.subset ?_))
      simp
    have older := holds.numbered q a member
    have same : earlier a.index (s'.queue q).arrived = earlier a.index (s.queue q).arrived := by
      rw [queue]
      cases routed : label.1.route m with
      | none => simp [delivered, routed]
      | some topic =>
        rw [arrived_delivered routed]
        refine earlier_append_late fun b new => ?_
        rw [List.eq_of_mem_replicate new]
        exact Nat.le_of_lt older
    rw [same]
    exact h q before a inTaken
  · intro x before a inTaken
    rw [queue] at inTaken ⊢
    by_cases own : x = q
    · subst own
      rw [Function.update_self] at inTaken ⊢
      rcases List.prefix_concat_iff.mp inTaken with last | old
      · obtain ⟨rfl, same⟩ := List.append_inj' last rfl
        cases same
        have condition := permitted.2
        rw [isGet] at condition
        exact condition m (by rw [items]; rfl)
      · exact h x before a old
    · rw [Function.update_of_ne own] at inTaken ⊢
      exact h x before a inTaken

/-- The messages that a consumer took after the latest snapshot are those the
hub received of the topic after that snapshot. -/
theorem Holds.caughtUp {route : Msg → Option Topic} {s : State Topic Payload Msg}
    (h : Holds route s) {starts : Msg → Bool} {topic : Topic} {q : QueueId}
    (registered : q ∈ queuesOf s topic) (unbroken : Unbroken starts s)
    {before : List (Arrival Msg)} {a : Arrival Msg} (taken : before ++ [a] <+: (s.queue q).taken)
    (started : (before ++ [a]).any (fun x => starts x.msg) = true) :
    ∃ older skipped since first rest, before ++ [a] = older ++ since ∧
      earlier a.index (topicLog route topic s.received) ++ [a] = skipped ++ since ∧
      since = first :: rest ∧ starts first.msg = true := by
  have read : (before ++ [a]).Sublist (s.queue q).arrived :=
    (taken.sublist.trans (List.sublist_append_left _ _)).trans (h.kept q)
  have inOrder : Ordered (before ++ [a]) := (h.ordered q).sublist read
  have ahead : before.Sublist (earlier a.index (s.queue q).arrived) := by
    have all : before.filter (fun b => b.index < a.index) = before :=
      List.filter_eq_self.mpr fun b member => by simpa using inOrder.earlier_concat b member
    exact all ▸ ((List.sublist_append_left _ _).trans read).filter _
  have whole : (before ++ [a]).Sublist (earlier a.index (s.queue q).arrived ++ [a]) :=
    List.Sublist.append ahead (List.Sublist.refl _)
  have someStart : (earlier a.index (s.queue q).arrived ++ [a]).any (fun x => starts x.msg) = true := by
    obtain ⟨x, member, isStart⟩ := List.any_eq_true.mp started
    exact List.any_eq_true.mpr ⟨x, whole.subset member, isStart⟩
  obtain ⟨first, rest, shape, isStart⟩ := sinceLast_starts someStart
  obtain ⟨early, split⟩ := sinceLast_suffix (fun x => starts x.msg)
    (earlier a.index (s.queue q).arrived ++ [a])
  have distinct : (earlier a.index (s.queue q).arrived ++ [a]).Nodup := by
    refine List.nodup_append.mpr ⟨(h.ordered q).nodup.filter _, List.nodup_singleton _, ?_⟩
    intro x member y last
    rw [List.mem_singleton.mp last]
    rintro rfl
    simpa using (List.mem_filter.mp member).2
  rw [← split] at distinct
  obtain ⟨older, ends⟩ := suffix_of_sublist distinct (split.symm ▸ whole)
    (unbroken q before a taken started)
  obtain ⟨missed, handed⟩ := h.handed topic q registered
  refine ⟨older, earlier a.index missed ++ early, _, first, rest, ends, ?_, shape, isStart⟩
  rw [← handed, List.append_assoc, split, ← List.append_assoc]
  simp [earlier]

/-- Messages in the order in which they come, numbered from `n`. -/
def arrivals (n : Nat) (c : Conn) (ms : List Msg) : List (Arrival Msg) :=
  (ms.zipIdx n).map fun e => ⟨e.2, c, e.1⟩

omit [DecidableEq Topic] in
/-- A queue holds the last messages that fit. -/
theorem offer_items {maxsize : Nat} (positive : 0 < maxsize) {q : Queue Msg}
    (fits : q.items.length ≤ maxsize) (m : Arrival Msg) :
    (q.offer maxsize m).items = (q.items ++ [m]).drop (q.items.length + 1 - maxsize) := by
  cases room : q.full maxsize with
  | false =>
    rw [Queue.offer_room room]
    have short : q.items.length < maxsize := by simpa [Queue.full, positive] using room
    rw [Nat.sub_eq_zero_of_le short, List.drop_zero]
  | true =>
    have filled : q.items.length = maxsize := by
      have long : maxsize ≤ q.items.length := by simpa [Queue.full, positive] using room
      exact Nat.le_antisymm fits long
    have nonempty : 0 < q.items.length := filled ▸ positive
    rw [Queue.offer_full room]
    have emptied : Queue.full maxsize
        { q with items := q.items.tail, arrived := q.arrived ++ [m] } = false := by
      simp only [Queue.full, List.length_tail, Bool.and_eq_false_imp, decide_eq_true_eq,
        decide_eq_false_iff_not]
      omega
    rw [Queue.putNowait, emptied, filled, Nat.add_sub_cancel_left,
      List.drop_append_of_le_length nonempty, List.drop_one]
    rfl

/-- The receive loop takes messages of a topic with one queue, and nobody takes
any from the queue. -/
theorem receives_reachable {allowed : State Topic Payload Msg → Label Topic Payload Msg → Prop}
    (cfg : Config Topic Payload Msg) {topic : Topic} {q : QueueId} {c : Conn}
    {s : State Topic Payload Msg} (run : Reachable system allowed s)
    (task : ∃ stable, s.task = .receiving c stable) (listed : queuesOf s topic = [q])
    (empty : (s.queue q).items = []) (positive : 0 < cfg.queueSize) (ms : List Msg)
    (routed : ∀ m ∈ ms, cfg.route m = some topic)
    (permitted : ∀ s, ∀ m ∈ ms, allowed s (cfg, .receive m)) :
    ∃ s', Reachable system allowed s' ∧ (∃ stable, s'.task = .receiving c stable) ∧
      queuesOf s' topic = [q] ∧ s'.received = s.received ++ ms.map (c, ·) ∧
      (s'.queue q).taken = (s.queue q).taken ∧
      (s'.queue q).items =
        (arrivals s.received.length c ms).drop (ms.length - cfg.queueSize) := by
  induction ms using List.reverseRecOn with
  | nil => exact ⟨s, run, task, listed, by simp, rfl, by simp [empty, arrivals]⟩
  | append_singleton ms m ih =>
    obtain ⟨s', run', ⟨stable, task'⟩, listed', received, taken, items⟩ :=
      ih (fun x member => routed x (List.mem_append_left _ member))
        fun s x member => permitted s x (List.mem_append_left _ member)
    have isRouted : cfg.route m = some topic := routed m (by simp)
    have moved : ∃ s'', step cfg s' (.receive m) = some s'' ∧ s''.task = .receiving c true ∧
        s''.queues = s'.queues ∧ s''.received = s'.received ++ [(c, m)] ∧
        s''.queue q = (s'.queue q).offer cfg.queueSize ⟨s'.received.length, c, m⟩ := by
      simp only [step, receive, task', isRouted]
      refine ⟨_, rfl, rfl, rfl, rfl, ?_⟩
      change fanOut _ _ _ (queuesOf s' topic) q = _
      rw [listed', fanOut_cons, fanOut_nil, Function.update_self]
    obtain ⟨s'', taken'', task'', queues, received'', queue⟩ := moved
    have length : s'.received.length = s.received.length + ms.length := by simp [received]
    have fits : (s'.queue q).items.length ≤ cfg.queueSize := by
      rw [items, List.length_drop, arrivals, List.length_map, List.length_zipIdx]
      omega
    refine ⟨s'', .next run' (permitted s' m (by simp)) taken'', ⟨true, task''⟩, ?_, ?_, ?_, ?_⟩
    · rw [queuesOf_congr queues, listed']
    · rw [received'', received, List.map_append, List.append_assoc]
      rfl
    · rw [queue, Queue.offer_taken, taken]
    · have last : arrivals s.received.length c (ms ++ [m]) =
          arrivals s.received.length c ms ++ [⟨s'.received.length, c, m⟩] := by
        simp [arrivals, List.zipIdx_append, length]
      have count : (arrivals s.received.length c ms).length = ms.length := by simp [arrivals]
      rw [queue, offer_items positive fits, items, last, ← List.drop_append_of_le_length (by omega),
        List.drop_drop]
      congr 1
      rw [List.length_drop, count, List.length_append, List.length_singleton]
      omega

end ExchangeRouter.StreamHub
