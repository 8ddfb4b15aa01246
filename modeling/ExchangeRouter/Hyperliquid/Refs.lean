import ExchangeRouter.Hyperliquid.Model

/-!
# Topic references of the Hyperliquid adapter

`_topic_refs` counts the running consumers of every topic, a topic has a slot
exactly while it has a consumer, and each hub of the adapter is a hub whose
consumers give back their own queues.  A consumer cancelled inside
`hub.subscribe`, or inside the unsubscribe send of its `finally`, ends without
its share of `_release_topic`; the runs here have none.
-/
namespace ExchangeRouter.Hyperliquid
open Lib StreamHub

variable {Topic Arg Msg : Type}

def hubAt (s : State Topic Arg Msg) (i : HubId) : Option (StreamHub.State Topic Arg Msg) :=
  s.hubs[i]?.map Slot.hub

def topicsAt (s : State Topic Arg Msg) (i : HubId) : Finset Topic :=
  (s.hubs[i]?.map Slot.topics).getD ∅

/-- Changing the topics of a slot leaves its hub. -/
theorem map_hub_modify (l : List (Slot Topic Arg Msg)) (i j : HubId)
    (f : Finset Topic → Finset Topic) :
    ((l.modify i fun slot => { slot with topics := f slot.topics })[j]?).map Slot.hub =
      (l[j]?).map Slot.hub := by
  rw [List.getElem?_modify]
  cases l[j]? with
  | none => rfl
  | some slot => by_cases same : i = j <;> simp [same]

theorem map_topics_modify (l : List (Slot Topic Arg Msg)) (i j : HubId)
    (f : Finset Topic → Finset Topic) :
    ((l.modify i fun slot => { slot with topics := f slot.topics })[j]?).map Slot.topics =
      (l[j]?).map fun slot => if i = j then f slot.topics else slot.topics := by
  rw [List.getElem?_modify]
  cases l[j]? with
  | none => rfl
  | some slot => by_cases same : i = j <;> simp [same]

theorem hubAt_setHub (s : State Topic Arg Msg) (i j : HubId)
    (hub : StreamHub.State Topic Arg Msg) :
    hubAt (setHub s i hub) j = if i = j then (hubAt s j).map fun _ => hub else hubAt s j := by
  simp only [hubAt, setHub, List.getElem?_modify]
  split <;> cases s.hubs[j]? <;> rfl

@[simp] theorem topicsAt_setHub (s : State Topic Arg Msg) (i j : HubId)
    (hub : StreamHub.State Topic Arg Msg) : topicsAt (setHub s i hub) j = topicsAt s j := by
  simp only [topicsAt, setHub, List.getElem?_modify]
  split <;> cases s.hubs[j]? <;> rfl

variable [DecidableEq Topic]

/-- The number of consumers of a topic still running. -/
def consumersOf (running : Dict CallId (Consumer Topic)) (topic : Topic) : Nat :=
  running.values.countP fun consumer => consumer.topic = topic

structure Counted (s : State Topic Arg Msg) : Prop where
  hubs : ∀ i hub, hubAt s i = some hub → Reachable StreamHub.system CancelledInTryStep hub
  running : ∀ id consumer, s.running.get? id = some consumer →
    s.topicHub.get? consumer.topic = some consumer.hub ∧
      ∃ hub call, hubAt s consumer.hub = some hub ∧ hub.calls.get? id = some call ∧
        call.topic = consumer.topic
  refs : ∀ topic, s.topicRefs.get? topic =
    if consumersOf s.running topic = 0 then none else some (consumersOf s.running topic : Int)
  assigned : ∀ topic i, s.topicHub.get? topic = some i → consumersOf s.running topic ≠ 0
  slots : ∀ i, ∀ topic ∈ topicsAt s i, s.topicHub.get? topic = some i

theorem Counted.initial : Counted (State.initial : State Topic Arg Msg) where
  hubs := fun _ _ at' => by simp [hubAt, State.initial] at at'
  running := fun _ _ running => by simp [State.initial] at running
  refs := fun _ => rfl
  assigned := fun _ _ found => by simp [State.initial] at found
  slots := fun _ _ member => by simp [topicsAt, State.initial] at member

/-- A step of one hub that keeps the topics of its calls. -/
theorem Counted.setHub {s : State Topic Arg Msg} (h : Counted s) {i : HubId}
    {hub hub' : StreamHub.State Topic Arg Msg} (found : hubAt s i = some hub)
    (run : Reachable StreamHub.system CancelledInTryStep hub') (keeps : KeepsTopics hub hub') :
    Counted (setHub s i hub') where
  hubs := fun j x at' => by
    rw [hubAt_setHub] at at'
    split at at'
    · rename_i same
      subst same
      rw [found] at at'
      cases at'
      exact run
    · exact h.hubs j x at'
  running := fun id consumer runs => by
    obtain ⟨assigned, x, call, at', calls, topic⟩ := h.running id consumer runs
    refine ⟨assigned, ?_⟩
    rw [hubAt_setHub]
    split
    · rename_i same
      subst same
      rw [found] at at'
      cases at'
      obtain ⟨call', moved, same⟩ := keeps id call calls
      exact ⟨hub', call', by simp [found], moved, same.trans topic⟩
    · exact ⟨x, call, at', calls, topic⟩
  refs := h.refs
  assigned := h.assigned
  slots := fun j topic member => h.slots j topic (by simpa using member)

theorem consumersOf_ne_zero {running : Dict CallId (Consumer Topic)} {id : CallId}
    {consumer : Consumer Topic} (runs : running.get? id = some consumer) :
    consumersOf running consumer.topic ≠ 0 := by
  refine (List.countP_pos_iff.mpr ⟨consumer, ?_, by simp⟩).ne'
  exact (running.mem_values_iff consumer).mpr ⟨id, runs⟩

theorem consumersOf_pop {running : Dict CallId (Consumer Topic)} {id : CallId}
    {consumer : Consumer Topic} (runs : running.get? id = some consumer) (topic : Topic) :
    consumersOf (running.pop id) topic + (if consumer.topic = topic then 1 else 0) =
      consumersOf running topic := by
  simpa [consumersOf] using running.countP_values_pop runs fun c => c.topic = topic

theorem consumersOf_pop_ne {running : Dict CallId (Consumer Topic)} {id : CallId}
    {consumer : Consumer Topic} (runs : running.get? id = some consumer) {topic : Topic}
    (differ : topic ≠ consumer.topic) :
    consumersOf (running.pop id) topic = consumersOf running topic := by
  simpa [Ne.symm differ] using consumersOf_pop runs topic

@[simp] theorem hubAt_releaseTopic (s : State Topic Arg Msg) (topic : Topic) (j : HubId) :
    hubAt (releaseTopic s topic) j = hubAt s j := by
  unfold releaseTopic
  dsimp only
  split
  · cases s.topicHub.get? topic with
    | none => rfl
    | some i => exact map_hub_modify s.hubs i j fun topics => topics.erase topic
  · rfl

/-- What is left once the last consumer of a topic has released it. -/
theorem releaseTopic_last {s : State Topic Arg Msg} {topic : Topic}
    (last : s.topicRefs.getD topic 1 - 1 ≤ 0) :
    (releaseTopic s topic).running = s.running ∧
      (releaseTopic s topic).topicRefs = s.topicRefs.pop topic ∧
      (releaseTopic s topic).topicHub = s.topicHub.pop topic ∧
      (releaseTopic s topic).topicArgs = s.topicArgs.pop topic ∧
      ∀ j, topicsAt (releaseTopic s topic) j =
        if s.topicHub.get? topic = some j then (topicsAt s j).erase topic else topicsAt s j := by
  unfold releaseTopic
  dsimp only
  rw [if_pos last]
  refine ⟨rfl, rfl, rfl, rfl, fun j => ?_⟩
  cases found : s.topicHub.get? topic with
  | none => rfl
  | some i =>
    simp only [topicsAt, Option.some.injEq]
    rw [map_topics_modify s.hubs i j fun topics => topics.erase topic]
    by_cases same : i = j <;> cases s.hubs[j]? <;> simp [same]

theorem releaseTopic_more {s : State Topic Arg Msg} {topic : Topic}
    (more : ¬ s.topicRefs.getD topic 1 - 1 ≤ 0) :
    releaseTopic s topic =
      { s with topicRefs := s.topicRefs.set topic (s.topicRefs.getD topic 1 - 1) } := by
  unfold releaseTopic
  exact if_neg more

section Release
variable {s : State Topic Arg Msg} {id : CallId} {consumer : Consumer Topic}

/-- The stored count includes the consumer that leaves. -/
theorem Counted.stored (h : Counted s) (runs : s.running.get? id = some consumer) :
    s.topicRefs.getD consumer.topic 1 =
      (consumersOf (s.running.pop id) consumer.topic : Int) + 1 := by
  have own := consumersOf_pop runs consumer.topic
  rw [if_pos rfl] at own
  simp only [Dict.getD, h.refs, consumersOf_ne_zero runs, if_false, Option.getD_some]
  omega

/-- The last consumer of a topic takes its entries along. -/
theorem Counted.releaseLast (h : Counted s) (runs : s.running.get? id = some consumer)
    (last : s.topicRefs.getD consumer.topic 1 - 1 ≤ 0) :
    Counted (releaseTopic { s with running := s.running.pop id } consumer.topic) := by
  obtain ⟨running, refs, topicHub, -, topics⟩ :=
    releaseTopic_last (s := { s with running := s.running.pop id }) last
  have none : consumersOf (s.running.pop id) consumer.topic = 0 := by
    have stored := h.stored runs
    omega
  refine ⟨fun i hub at' => ?_, fun id' c runs' => ?_, fun t => ?_, fun t i found => ?_,
    fun i t member => ?_⟩
  · rw [hubAt_releaseTopic] at at'
    exact h.hubs i hub at'
  · rw [running] at runs'
    have differ : c.topic ≠ consumer.topic := fun same =>
      consumersOf_ne_zero runs' (same ▸ none)
    obtain ⟨assigned, hub, call, at', rest⟩ := h.running id' c (Dict.get?_of_pop runs').2
    rw [topicHub, Dict.get?_pop_ne _ differ, hubAt_releaseTopic]
    exact ⟨assigned, hub, call, at', rest⟩
  · rw [running, refs, Dict.get?_pop]
    split
    · rename_i same
      rw [same, if_pos none]
    · rename_i differ
      rw [consumersOf_pop_ne runs differ]
      exact h.refs t
  · rw [topicHub] at found
    obtain ⟨differ, before⟩ := Dict.get?_of_pop found
    rw [running, consumersOf_pop_ne runs differ]
    exact h.assigned t i before
  · rw [topics] at member
    split at member
    · have both := Finset.mem_erase.mp member
      rw [topicHub, Dict.get?_pop_ne _ both.1]
      exact h.slots i t both.2
    · rename_i elsewhere
      have assigned := h.slots i t member
      have differ : t ≠ consumer.topic := fun same => elsewhere (same ▸ assigned)
      rw [topicHub, Dict.get?_pop_ne _ differ]
      exact assigned

/-- While other consumers stay, only the count goes down. -/
theorem Counted.releaseMore (h : Counted s) (runs : s.running.get? id = some consumer)
    (more : ¬ s.topicRefs.getD consumer.topic 1 - 1 ≤ 0) :
    Counted (releaseTopic { s with running := s.running.pop id } consumer.topic) := by
  rw [releaseTopic_more (s := { s with running := s.running.pop id }) more]
  have stored := h.stored runs
  have left : consumersOf (s.running.pop id) consumer.topic ≠ 0 := by omega
  refine ⟨h.hubs, fun id' c runs' => h.running id' c (Dict.get?_of_pop runs').2, fun t => ?_,
    fun t i found => ?_, h.slots⟩
  · rw [Dict.get?_set]
    split
    · rename_i same
      rw [same, if_neg left]
      refine congrArg some ?_
      change s.topicRefs.getD consumer.topic 1 - 1 =
        (consumersOf (s.running.pop id) consumer.topic : Int)
      omega
    · rename_i differ
      rw [consumersOf_pop_ne runs differ]
      exact h.refs t
  · by_cases same : t = consumer.topic
    · exact same ▸ left
    · change consumersOf (s.running.pop id) t ≠ 0
      rw [consumersOf_pop_ne runs same]
      exact h.assigned t i found

/-- A consumer that has left its hub releases its topic. -/
theorem Counted.release (h : Counted s) (runs : s.running.get? id = some consumer) :
    Counted (releaseTopic { s with running := s.running.pop id } consumer.topic) := by
  by_cases last : s.topicRefs.getD consumer.topic 1 - 1 ≤ 0
  · exact h.releaseLast runs last
  · exact h.releaseMore runs last

end Release

/-- What `_acquire_topic` changed. -/
structure Acquired (s s' : State Topic Arg Msg) (topic : Topic) (i : HubId) : Prop where
  running : s'.running = s.running
  topicHub : ∀ t, s'.topicHub.get? t = if t = topic then some i else s.topicHub.get? t
  unmoved : ∀ j, s.topicHub.get? topic = some j → j = i
  refs : s'.topicRefs = s.topicRefs.set topic (s.topicRefs.getD topic 0 + 1)
  hubs : ∀ j hub, hubAt s' j = some hub → hubAt s j = some hub ∨ hub = StreamHub.State.initial
  kept : ∀ j hub, hubAt s j = some hub → hubAt s' j = some hub
  topics : ∀ j, ∀ t ∈ topicsAt s' j, t ∈ topicsAt s j ∨ (t = topic ∧ j = i)

omit [DecidableEq Topic] in
/-- The slots that `_acquire_topic` chooses from: those that were there, and
perhaps an empty one. -/
theorem placeTopic_slot {s : State Topic Arg Msg} {hubs : List (Slot Topic Arg Msg)} {i j : HubId}
    (h : placeTopic s = some (hubs, i)) :
    hubs[j]? = s.hubs[j]? ∨
      (s.hubs[j]? = none ∧ hubs[j]? = some ⟨StreamHub.State.initial, ∅⟩) := by
  unfold placeTopic at h
  split at h
  · cases h
    exact Or.inl rfl
  · split at h
    · cases h
    · cases h
      rcases Nat.lt_trichotomy j s.hubs.length with inside | next | outside
      · exact Or.inl (List.getElem?_append_left inside)
      · subst next
        exact Or.inr (by simp)
      · refine Or.inl ?_
        rw [List.getElem?_eq_none (by simpa using Nat.succ_le_of_lt outside),
          List.getElem?_eq_none outside.le]

theorem acquireTopic_spec {s s' : State Topic Arg Msg} {topic : Topic} {arg : Arg} {i : HubId}
    (h : acquireTopic s topic arg = some (s', i)) : Acquired s s' topic i := by
  obtain ⟨⟨s₁, i₁⟩, assigned, same⟩ := Option.map_eq_some_iff.mp h
  cases same
  split at assigned
  · rename_i found
    cases assigned
    refine ⟨rfl, fun t => ?_, fun j known => ?_, rfl, fun _ _ at' => Or.inl at', fun _ _ at' => at',
      fun _ _ member => Or.inl member⟩
    · split
      · rename_i same
        exact same ▸ found
      · rfl
    · exact Option.some.inj (known.symm.trans found)
  · rename_i absent
    obtain ⟨⟨hubs, i₂⟩, placed, same⟩ := Option.map_eq_some_iff.mp assigned
    cases same
    refine ⟨rfl, fun t => Dict.get?_set _ _ _ _, fun j known => ?_, rfl, fun j hub at' => ?_,
      fun j hub at' => ?_, fun j t member => ?_⟩
    · rw [absent] at known
      cases known
    · have old : (hubs[j]?).map Slot.hub = some hub :=
        (map_hub_modify hubs i j fun topics => insert topic topics).symm.trans at'
      rcases placeTopic_slot placed with same | ⟨-, new⟩
      · exact Or.inl (by rwa [hubAt, ← same])
      · rw [new] at old
        exact Or.inr (Option.some.inj old).symm
    · refine (map_hub_modify hubs i j fun topics => insert topic topics).trans ?_
      rcases placeTopic_slot placed with same | ⟨missing, -⟩
      · rwa [same]
      · simp [hubAt, missing] at at'
    · simp only [topicsAt] at member ⊢
      rw [map_topics_modify hubs i j fun topics => insert topic topics] at member
      rcases placeTopic_slot placed with same | ⟨-, new⟩
      · rw [← same]
        cases slot : hubs[j]? with
        | none => simp [slot] at member
        | some slot' =>
          by_cases own : i = j
          · have either : t = topic ∨ t ∈ slot'.topics := by simpa [slot, own] using member
            exact either.symm.imp (fun old => by simpa using old) fun isTopic => ⟨isTopic, own.symm⟩
          · exact Or.inl (by simpa [slot, own] using member)
      · by_cases own : i = j
        · exact Or.inr ⟨by simpa [new, own] using member, own.symm⟩
        · simp [new, own] at member

theorem consumersOf_set_new {running : Dict CallId (Consumer Topic)} {id : CallId}
    (fresh : running.get? id = none) (consumer : Consumer Topic) (topic : Topic) :
    consumersOf (running.set id consumer) topic =
      consumersOf running topic + (if consumer.topic = topic then 1 else 0) := by
  rw [consumersOf, running.values_set_new fresh, List.countP_append]
  simp [consumersOf, List.countP_cons]

/-- A consumer that has acquired its topic registers its queue. -/
theorem Counted.register {s s₁ : State Topic Arg Msg} (h : Counted s) {id : CallId} {topic : Topic}
    {i : HubId} (got : Acquired s s₁ topic i) (fresh : s.running.get? id = none)
    {hub hub' : StreamHub.State Topic Arg Msg} (at' : hubAt s₁ i = some hub)
    (run : Reachable StreamHub.system CancelledInTryStep hub') (keeps : KeepsTopics hub hub')
    (called : ∃ call, hub'.calls.get? id = some call ∧ call.topic = topic) :
    Counted { Hyperliquid.setHub s₁ i hub' with running := s₁.running.set id ⟨i, topic⟩ } := by
  have count : ∀ t, consumersOf (s₁.running.set id ⟨i, topic⟩) t =
      consumersOf s.running t + (if topic = t then 1 else 0) := by
    intro t
    rw [got.running]
    exact consumersOf_set_new fresh ⟨i, topic⟩ t
  have newHub : hubAt (Hyperliquid.setHub s₁ i hub') i = some hub' := by
    simp [hubAt_setHub, at']
  refine ⟨fun j x found => ?_, fun id' consumer runs => ?_, fun t => ?_, fun t j found => ?_,
    fun j t member => ?_⟩
  · change hubAt (Hyperliquid.setHub s₁ i hub') j = some x at found
    by_cases same : i = j
    · subst same
      rw [newHub] at found
      exact Option.some.inj found ▸ run
    · rw [hubAt_setHub, if_neg same] at found
      rcases got.hubs j x found with old | rfl
      · exact h.hubs j x old
      · exact .init
  · change s₁.topicHub.get? consumer.topic = some consumer.hub ∧
      ∃ x call, hubAt (Hyperliquid.setHub s₁ i hub') consumer.hub = some x ∧ _
    rw [got.topicHub]
    rw [Dict.get?_set] at runs
    split at runs
    · rename_i same
      cases runs
      obtain ⟨call, running, own⟩ := called
      exact ⟨if_pos rfl, hub', call, newHub, same ▸ running, own⟩
    · rw [got.running] at runs
      obtain ⟨assigned, x, call, found, running, own⟩ := h.running id' consumer runs
      refine ⟨?_, ?_⟩
      · split
        · rename_i same
          rw [got.unmoved consumer.hub (same ▸ assigned)]
        · exact assigned
      · have before := got.kept _ x found
        by_cases same : i = consumer.hub
        · rw [← same] at before ⊢
          rw [at'] at before
          cases before
          obtain ⟨call', moved, kept⟩ := keeps id' call running
          exact ⟨hub', call', newHub, moved, kept.trans own⟩
        · rw [hubAt_setHub, if_neg same]
          exact ⟨x, call, before, running, own⟩
  · change s₁.topicRefs.get? t = if consumersOf (s₁.running.set id ⟨i, topic⟩) t = 0 then _ else _
    rw [count, got.refs, Dict.get?_set, Dict.getD, h.refs, h.refs]
    by_cases same : t = topic
    · subst same
      by_cases zero : consumersOf s.running t = 0 <;> simp [zero]
    · simp [same, Ne.symm same]
  · change s₁.topicHub.get? t = some j at found
    change consumersOf (s₁.running.set id ⟨i, topic⟩) t ≠ 0
    rw [count]
    rw [got.topicHub] at found
    split at found
    · rename_i same
      simp [same]
    · have before := h.assigned t j found
      omega
  · change s₁.topicHub.get? t = some j
    have member' : t ∈ topicsAt s₁ j := by
      rw [← topicsAt_setHub s₁ i j hub']
      exact member
    rw [got.topicHub]
    rcases got.topics j t member' with old | ⟨isTopic, isHub⟩
    · have assigned := h.slots j t old
      split
      · rename_i same
        rw [got.unmoved j (same ▸ assigned)]
      · exact assigned
    · rw [if_pos isTopic, isHub]

theorem Counted.start {s s' : State Topic Arg Msg} (h : Counted s) {id : CallId} {topic : Topic}
    {arg : Arg} (taken : start s id topic arg = some s') : Counted s' := by
  unfold Hyperliquid.start at taken
  split at taken
  · cases taken
  · rename_i fresh
    split at taken
    · cases taken
    · rename_i s₁ i acquired
      have got := acquireTopic_spec acquired
      split at taken
      · cases taken
      · rename_i slot at'
        obtain ⟨hub, subscribed, rfl⟩ := Option.map_eq_some_iff.mp taken
        have found : hubAt s₁ i = some slot.hub := by simp [hubAt, at']
        have before : Reachable StreamHub.system CancelledInTryStep slot.hub := by
          rcases got.hubs i slot.hub found with old | new
          · exact h.hubs i slot.hub old
          · exact new ▸ .init
        let cfg : Config Topic Arg Msg := hubConfig (fun _ => none) s
        have moved : StreamHub.step cfg slot.hub (.subscribe id topic) = some hub := subscribed
        exact h.register got fresh found
          (.next before ⟨rfl, rfl⟩ (a := (cfg, .subscribe id topic)) moved)
          (keepsTopics_step rfl (step_cases moved)) (subscribe_call subscribed)

/-- A consumer is cancelled while it reads only, and once. -/
def uninterrupted : Event Topic Arg Msg → Bool
  | .cancel _ => false
  | _ => true

def UninterruptedStep (_ : State Topic Arg Msg) (ev : Event Topic Arg Msg) : Prop :=
  uninterrupted ev = true

theorem Counted.settle {s : State Topic Arg Msg} {i : HubId} {id : CallId}
    {hub : StreamHub.State Topic Arg Msg} (h : Counted (Hyperliquid.setHub s i hub)) :
    Counted (settle s i id hub) := by
  unfold Hyperliquid.settle
  dsimp only
  split
  · rename_i runs _
    exact h.release runs
  · exact h

theorem Counted.finish {route : Msg → Option Topic} {s s' : State Topic Arg Msg} (h : Counted s)
    {id : CallId} {ok : Bool} (taken : finish route s id ok = some s') : Counted s' := by
  unfold Hyperliquid.finish at taken
  split at taken
  · cases taken
  · rename_i consumer runs
    split at taken
    · cases taken
    · rename_i slot at'
      split at taken
      · rename_i t q returned
        obtain ⟨hub, left, rfl⟩ := Option.map_eq_some_iff.mp taken
        obtain ⟨-, x, call, found, running, own⟩ := h.running id consumer runs
        have found' : hubAt s consumer.hub = some slot.hub := by simp [hubAt, at']
        rw [found'] at found
        cases found
        rw [returned] at running
        cases running
        have isTopic : t = consumer.topic := own
        subst isTopic
        let ev : StreamHub.Event Topic Msg := .unsubscribe id consumer.topic q ok
        have gives : ownQueue slot.hub ev = true := by simp [ev, ownQueue, returned]
        have moved : StreamHub.step (hubConfig route s) slot.hub ev = some hub := left
        have run := h.hubs _ _ found'
        exact (h.setHub found' (.next (a := (_, ev)) run ⟨gives, rfl⟩ moved)
          (keepsTopics_step gives (step_cases moved))).settle
      · cases taken

theorem Counted.hubStep {route : Msg → Option Topic} {s s' : State Topic Arg Msg} (h : Counted s)
    {i : HubId} {ev : StreamHub.Event Topic Msg} (taken : hubStep route s i ev = some s') :
    Counted s' := by
  unfold Hyperliquid.hubStep at taken
  split at taken
  · cases taken
  · rename_i slot at'
    split at taken
    · cases taken
    · rename_i foreign
      obtain ⟨hub, moved, rfl⟩ := Option.map_eq_some_iff.mp taken
      have found : hubAt s i = some slot.hub := by simp [hubAt, at']
      have gives : ownQueue slot.hub ev = true := by
        cases ev <;> first | rfl | exact absurd rfl foreign
      have inTry : cancelsInTry slot.hub ev = true := by
        cases ev <;> first | rfl | exact absurd rfl foreign
      have next := h.setHub found (.next (a := (_, ev)) (h.hubs i _ found) ⟨gives, inTry⟩ moved)
        (keepsTopics_step gives (step_cases moved))
      split
      · exact next.settle
      · exact next

theorem counted_reachable {route : Msg → Option Topic} {s : State Topic Arg Msg}
    (run : Reachable (system route) UninterruptedStep s) : Counted s := by
  refine run.invariant .initial fun s ev s' _ h permitted taken => ?_
  cases ev with
  | start id topic arg => exact h.start taken
  | finish id ok => exact h.finish taken
  | cancel id => cases permitted
  | hub i ev => exact h.hubStep taken

/-- A topic with no consumer has no reference and no place in a slot. -/
theorem Counted.freed {s : State Topic Arg Msg} (h : Counted s) {topic : Topic}
    (none : consumersOf s.running topic = 0) :
    s.topicRefs.get? topic = Option.none ∧ s.topicHub.get? topic = Option.none ∧
      ∀ slot ∈ s.hubs, topic ∉ slot.topics := by
  have unassigned : s.topicHub.get? topic = Option.none := by
    cases found : s.topicHub.get? topic with
    | none => rfl
    | some i => exact absurd none (h.assigned topic i found)
  refine ⟨by rw [h.refs, if_pos none], unassigned, fun slot member inside => ?_⟩
  obtain ⟨i, at'⟩ := List.getElem?_of_mem member
  have assigned := h.slots i topic (by simpa [topicsAt, at'] using inside)
  rw [unassigned] at assigned
  cases assigned

/-- A consumer that has ended left no queue in a hub, and on Hyperliquid the
references of a topic are its running consumers, if no consumer was cancelled
inside `hub.subscribe` or, on Hyperliquid, inside its `finally`. -/
theorem ended_consumer_leaves_nothing (route : Msg → Option Topic) :
    (∀ s : StreamHub.State Topic Arg Msg, Reachable StreamHub.system CancelledInTryStep s →
      ∀ id call, s.calls.get? id = some call → call.ended = true →
        ∀ topic, call.queue ∉ queuesOf s topic) ∧
    ∀ s : State Topic Arg Msg, Reachable (system route) UninterruptedStep s →
      (∀ slot ∈ s.hubs, ∀ id call, slot.hub.calls.get? id = some call → call.ended = true →
        ∀ topic, call.queue ∉ queuesOf slot.hub topic) ∧
      ∀ topic, s.topicRefs.getD topic 0 = consumersOf s.running topic ∧
        (consumersOf s.running topic = 0 → s.topicRefs.get? topic = none ∧
          s.topicHub.get? topic = none ∧ ∀ slot ∈ s.hubs, topic ∉ slot.topics) := by
  refine ⟨fun s run id call running ended => (owned_reachable run).ended_free running ended,
    fun s run => ⟨fun slot member id call running ended => ?_, fun topic => ⟨?_, ?_⟩⟩⟩
  · obtain ⟨i, at'⟩ := List.getElem?_of_mem member
    have hub := (counted_reachable run).hubs i slot.hub (by simp [hubAt, at'])
    exact (owned_reachable hub).ended_free running ended
  · rw [Dict.getD, (counted_reachable run).refs]
    by_cases none : consumersOf s.running topic = 0 <;> simp [none]
  · exact (counted_reachable run).freed

/-- A consumer starts, reads, is cancelled and unsubscribes. -/
def readAndLeave : List (Event Nat Nat Nat) :=
  [.start 0 7 42, .hub 0 (.connect true), .hub 0 (.resubscribed true), .hub 0 (.wake 0),
    .hub 0 (.resume 0 true), .finish 0 true, .hub 0 (.sent 0 true)]

theorem readAndLeave_ends : (system some).endsIn (fun _ => uninterrupted) readAndLeave
    (fun s => consumersOf s.running 7 = 0 && (s.hubs.map fun slot => slot.hub.wire) =
      [[(0, .subscribe 42), (0, .unsubscribe 42)]]) = true := by decide +kernel

theorem ended_consumer_leaves_nothing_read : ∃ s : State Nat Nat Nat,
    Reachable (system some) UninterruptedStep s ∧ s.hubs.length = 1 ∧
      s.topicRefs.get? 7 = none ∧ ∀ slot ∈ s.hubs, 7 ∉ slot.topics := by
  obtain ⟨s, run, ends⟩ := System.exists_reachable (fun _ _ _ ok => ok) readAndLeave_ends
  simp only [Bool.and_eq_true, decide_eq_true_eq] at ends
  obtain ⟨refs, -, slots⟩ := (((ended_consumer_leaves_nothing some).2 s run).2 7).2 ends.1
  exact ⟨s, run, by simpa using congrArg List.length ends.2, refs, slots⟩

/-- A consumer is cancelled while it waits for the first connection. -/
def cancelledWaiting : List (StreamHub.Label Nat Nat Nat) :=
  [.subscribe 0 7, .cancel 0].map (hubConfig some State.initial, ·)

theorem cancelledWaiting_ends :
    StreamHub.system.endsIn (fun s label => ownQueue s label.2) cancelledWaiting
      (fun s => s.calls.get? 0 = some (.cancelled 7 0) && queuesOf s 7 = [0]) = true := by
  decide +kernel

theorem cancelledAcquired_ends : (system some).endsIn (fun _ _ => true)
    [.start 0 7 42, .cancel 0] (fun s : State Nat Nat Nat =>
      s.topicRefs.getD 7 0 = 1 && consumersOf s.running 7 = 0) = true := by decide +kernel

/-- The queue stays registered, and the reference of the topic is never given
back. -/
theorem cancelled_in_subscribe_leaks :
    (∃ s : StreamHub.State Nat Nat Nat, Reachable StreamHub.system ConsumerStep s ∧
      ∃ call, s.calls.get? 0 = some call ∧ call.ended = true ∧ call.queue ∈ queuesOf s 7) ∧
    ∃ s : State Nat Nat Nat, Reachable (system some) anyStep s ∧
      s.topicRefs.getD 7 0 ≠ consumersOf s.running 7 := by
  constructor
  · obtain ⟨s, run, ends⟩ := System.exists_reachable (fun _ _ _ ok => ok) cancelledWaiting_ends
    simp only [Bool.and_eq_true, decide_eq_true_eq] at ends
    exact ⟨s, run, _, ends.1, rfl, by simp [ends.2, Call.queue]⟩
  · obtain ⟨s, run, ends⟩ := System.exists_reachable (fun _ _ _ _ => trivial) cancelledAcquired_ends
    simp only [Bool.and_eq_true, decide_eq_true_eq] at ends
    exact ⟨s, run, by simp [ends.1, ends.2]⟩

end ExchangeRouter.Hyperliquid
