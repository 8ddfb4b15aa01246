import ExchangeRouter.Hyperliquid.Refs
import ExchangeRouter.StreamHub.Frames

/-!
# Topic placement of the Hyperliquid adapter

`_hubs`, `_topic_hub`, `_topic_args`, `_topic_refs` and the queues of the hubs
agree in every state of every run in which no consumer is cancelled midway, and
a hub builds frames only for topics whose argument is known.
-/
namespace ExchangeRouter.Hyperliquid
open Lib StreamHub

variable {Topic Arg Msg : Type} [DecidableEq Topic]

/-- The text of the `UpstreamUnavailableError`. -/
def capacityReached : String := "Hyperliquid WS subscription capacity reached"

/-- `_acquire_topic` statement by statement, on the adapter's attributes. -/
def acquireTopicBody (topic : Topic) (arg : Arg) :
    EStateM String (State Topic Arg Msg) HubId := do
  let hub ←
    match (← get).topicHub.get? topic with
    | some hub => pure hub
    | none =>
      let slot ←
        match (← get).hubs.findIdx? fun slot => slot.topics.card < maxSubsPerHub with
        | some slot => pure slot
        | none =>
          if maxHubs ≤ (← get).hubs.length then throw capacityReached
          modify fun s => { s with hubs := s.hubs ++ [⟨StreamHub.State.initial, ∅⟩] }
          pure ((← get).hubs.length - 1)
      modify fun s => { s with
        hubs := s.hubs.modify slot fun slot => { slot with topics := insert topic slot.topics } }
      modify fun s => { s with topicHub := s.topicHub.set topic slot }
      pure slot
  modify fun s => { s with topicArgs := s.topicArgs.set topic arg }
  modify fun s => { s with topicRefs := s.topicRefs.set topic (s.topicRefs.getD topic 0 + 1) }
  return hub

theorem acquireTopicBody_run (s : State Topic Arg Msg) (topic : Topic) (arg : Arg) :
    (acquireTopicBody topic arg).run s =
      match acquireTopic s topic arg with
      | some (s', hub) => .ok hub s'
      | none => .error capacityReached s := by
  unfold acquireTopicBody acquireTopic placeTopic
  cases found : s.topicHub.get? topic with
  | some hub => simp [found, -bind_pure_comp]
  | none =>
    cases roomy : s.hubs.findIdx? fun slot => slot.topics.card < maxSubsPerHub with
    | some slot => simp [found, roomy, -bind_pure_comp]
    | none =>
      by_cases full : maxHubs ≤ s.hubs.length
      · simp [found, roomy, full, -bind_pure_comp]
      · simp [found, roomy, full, -bind_pure_comp]

/-- What `_acquire_topic` did to the slots and the arguments. -/
structure Seated (s s' : State Topic Arg Msg) (topic : Topic) (arg : Arg) (i : HubId) : Prop where
  args : s'.topicArgs = s.topicArgs.set topic arg
  topics : ∀ j, topicsAt s' j = topicsAt s j ∨
    topicsAt s' j = insert topic (topicsAt s j) ∧ (topicsAt s j).card < maxSubsPerHub
  own : s.topicHub.get? topic = none → topic ∈ topicsAt s' i
  slots : s.hubs.length ≤ maxHubs → s'.hubs.length ≤ maxHubs

omit [DecidableEq Topic] in
theorem placeTopic_topics {s : State Topic Arg Msg} {hubs : List (Slot Topic Arg Msg)} {i : HubId}
    (h : placeTopic s = some (hubs, i)) (j : HubId) :
    ((hubs[j]?).map Slot.topics).getD ∅ = topicsAt s j := by
  rcases placeTopic_slot h with same | ⟨missing, new⟩
  · rw [same]
    rfl
  · simp [topicsAt, missing, new]

omit [DecidableEq Topic] in
/-- The slot chosen has room, and there are not too many. -/
theorem placeTopic_room {s : State Topic Arg Msg} {hubs : List (Slot Topic Arg Msg)} {i : HubId}
    (h : placeTopic s = some (hubs, i)) :
    (∃ slot, hubs[i]? = some slot ∧ slot.topics.card < maxSubsPerHub) ∧
      (s.hubs.length ≤ maxHubs → hubs.length ≤ maxHubs) := by
  unfold placeTopic at h
  split at h
  · rename_i k found
    cases h
    obtain ⟨inside, room, -⟩ := List.findIdx?_eq_some_iff_getElem.mp found
    exact ⟨⟨_, List.getElem?_eq_getElem inside, of_decide_eq_true room⟩, fun bound => bound⟩
  · split at h
    · cases h
    · rename_i few
      cases h
      refine ⟨⟨⟨StreamHub.State.initial, ∅⟩, by simp, by simp [maxSubsPerHub]⟩, fun _ => ?_⟩
      rw [List.length_append, List.length_singleton]
      omega

theorem acquireTopic_seated {s s' : State Topic Arg Msg} {topic : Topic} {arg : Arg} {i : HubId}
    (h : acquireTopic s topic arg = some (s', i)) : Seated s s' topic arg i := by
  obtain ⟨⟨s₁, i₁⟩, assigned, same⟩ := Option.map_eq_some_iff.mp h
  cases same
  split at assigned
  · rename_i found
    cases assigned
    refine ⟨rfl, fun _ => Or.inl rfl, fun absent => ?_, fun bound => bound⟩
    rw [absent] at found
    cases found
  · obtain ⟨⟨hubs, i₂⟩, placed, same⟩ := Option.map_eq_some_iff.mp assigned
    cases same
    obtain ⟨⟨slot, chosen, room⟩, slots⟩ := placeTopic_room placed
    have own : topicsAt s i = slot.topics := by
      rw [← placeTopic_topics placed, chosen]
      rfl
    have moved (j : HubId) : topicsAt { s with
        hubs := hubs.modify i fun slot => { slot with topics := insert topic slot.topics }
        topicHub := s.topicHub.set topic i } j =
        if i = j then insert topic (topicsAt s j) else topicsAt s j := by
      rw [← placeTopic_topics placed]
      simp only [topicsAt]
      rw [map_topics_modify hubs i j fun topics => insert topic topics]
      by_cases same : i = j
      · subst same
        simp [chosen]
      · simp [same]
    refine ⟨rfl, fun j => ?_, fun _ => ?_, fun bound => ?_⟩
    · by_cases same : i = j
      · subst same
        exact Or.inr ⟨(moved i).trans (if_pos rfl), own ▸ room⟩
      · exact Or.inl ((moved j).trans (if_neg same))
    · exact (moved i).trans (if_pos rfl) ▸ Finset.mem_insert_self _ _
    · exact (List.length_modify ..).trans_le (slots bound)

/-- The assigned topics are in their slots and have arguments, and a call of a
hub that has not ended belongs to a running consumer. -/
structure Housed (s : State Topic Arg Msg) : Prop where
  placed : ∀ topic i, s.topicHub.get? topic = some i → topic ∈ topicsAt s i
  args : ∀ topic, (s.topicArgs.get? topic).isSome ↔ (s.topicHub.get? topic).isSome
  owned : ∀ i hub, hubAt s i = some hub → ∀ id call, hub.calls.get? id = some call →
    call.ended = false → s.running.get? id = some ⟨i, call.topic⟩
  room : ∀ i, (topicsAt s i).card ≤ maxSubsPerHub
  slots : s.hubs.length ≤ maxHubs

theorem Housed.initial : Housed (State.initial : State Topic Arg Msg) where
  placed := fun _ _ found => by simp [State.initial] at found
  args := fun _ => Iff.rfl
  owned := fun _ _ at' => by simp [hubAt, State.initial] at at'
  room := fun _ => by simp [topicsAt, State.initial]
  slots := Nat.zero_le _

omit [DecidableEq Topic] in
theorem length_setHub (s : State Topic Arg Msg) (i : HubId) (hub : StreamHub.State Topic Arg Msg) :
    (setHub s i hub).hubs.length = s.hubs.length :=
  List.length_modify ..

/-- The calls of a hub after a step that is no `subscribe`. -/
def KeepsUnended (hub hub' : StreamHub.State Topic Arg Msg) : Prop :=
  ∀ id call', hub'.calls.get? id = some call' → call'.ended = false →
    ∃ call, hub.calls.get? id = some call ∧ call.ended = false ∧ call.topic = call'.topic

theorem Housed.setHub {s : State Topic Arg Msg} (h : Housed s) {i : HubId}
    {hub hub' : StreamHub.State Topic Arg Msg} (found : hubAt s i = some hub)
    (keeps : KeepsUnended hub hub') : Housed (setHub s i hub') where
  placed := fun topic j assigned => by
    rw [topicsAt_setHub]
    exact h.placed topic j assigned
  args := h.args
  owned := fun j x at' id call' running unended => by
    rw [hubAt_setHub] at at'
    split at at'
    · rename_i same
      subst same
      rw [found] at at'
      cases at'
      obtain ⟨call, before, open', topic⟩ := keeps id call' running unended
      rw [← topic]
      exact h.owned i hub found id call before open'
    · exact h.owned j x at' id call' running unended
  room := fun j => by
    rw [topicsAt_setHub]
    exact h.room j
  slots := (length_setHub s i hub').trans_le h.slots

theorem length_releaseTopic (s : State Topic Arg Msg) (topic : Topic) :
    (releaseTopic s topic).hubs.length = s.hubs.length := by
  unfold releaseTopic
  dsimp only
  split
  · cases s.topicHub.get? topic with
    | none => rfl
    | some i => exact List.length_modify ..
  · rfl

/-- A consumer whose call in its hub has ended releases its topic. -/
theorem Housed.release {s : State Topic Arg Msg} (h : Housed s) {id : CallId}
    {consumer : Consumer Topic} (runs : s.running.get? id = some consumer)
    (ended : ∀ hub call, hubAt s consumer.hub = some hub → hub.calls.get? id = some call →
      call.ended = true) :
    Housed (releaseTopic { s with running := s.running.pop id } consumer.topic) := by
  have owned : ∀ j hub, hubAt s j = some hub → ∀ id' call, hub.calls.get? id' = some call →
      call.ended = false → (s.running.pop id).get? id' = some ⟨j, call.topic⟩ := by
    intro j hub at' id' call running unended
    have before := h.owned j hub at' id' call running unended
    by_cases same : id' = id
    · subst same
      rw [before] at runs
      cases runs
      rw [ended hub call at' running] at unended
      cases unended
    · rw [Dict.get?_pop_ne _ same]
      exact before
  by_cases last : s.topicRefs.getD consumer.topic 1 - 1 ≤ 0
  · obtain ⟨running, -, topicHub, topicArgs, topics⟩ :=
      releaseTopic_last (s := { s with running := s.running.pop id }) last
    refine ⟨fun t i assigned => ?_, fun t => ?_, fun j hub at' => ?_, fun j => ?_, ?_⟩
    · rw [topicHub] at assigned
      obtain ⟨differ, before⟩ := Dict.get?_of_pop assigned
      have inside := h.placed t i before
      rw [topics]
      split
      · exact Finset.mem_erase.mpr ⟨differ, inside⟩
      · exact inside
    · rw [topicArgs, topicHub, Dict.get?_pop, Dict.get?_pop]
      split
      · rfl
      · exact h.args t
    · rw [hubAt_releaseTopic] at at'
      rw [running]
      exact owned j hub at'
    · rw [topics]
      split
      · exact (Finset.card_le_card (Finset.erase_subset _ _)).trans (h.room j)
      · exact h.room j
    · rw [length_releaseTopic]
      exact h.slots
  · rw [releaseTopic_more (s := { s with running := s.running.pop id }) last]
    exact ⟨h.placed, h.args, owned, h.room, h.slots⟩

/-- A consumer that has acquired its topic subscribes to the hub. -/
theorem Housed.register {s s₁ : State Topic Arg Msg} (h : Housed s) {id : CallId} {topic : Topic}
    {arg : Arg} {i : HubId} (got : Acquired s s₁ topic i) (seated : Seated s s₁ topic arg i)
    (fresh : s.running.get? id = none) {hub hub' : StreamHub.State Topic Arg Msg}
    (at' : hubAt s₁ i = some hub) (subscribed : StreamHub.subscribe hub id topic = some hub') :
    Housed { Hyperliquid.setHub s₁ i hub' with running := s₁.running.set id ⟨i, topic⟩ } := by
  have stays : ∀ j, topicsAt s j ⊆ topicsAt s₁ j := fun j => by
    rcases seated.topics j with same | ⟨more, -⟩
    · rw [same]
    · rw [more]
      exact Finset.subset_insert _ _
  have kept : ∀ j x, hubAt s₁ j = some x → ∀ id' call, x.calls.get? id' = some call →
      call.ended = false → (s₁.running.set id ⟨i, topic⟩).get? id' = some ⟨j, call.topic⟩ := by
    intro j x found id' call running unended
    rcases got.hubs j x found with old | rfl
    · have before := h.owned j x old id' call running unended
      have differ : id' ≠ id := by
        rintro rfl
        rw [fresh] at before
        cases before
      rw [Dict.get?_set_ne _ _ differ, got.running]
      exact before
    · simp [StreamHub.State.initial] at running
  refine ⟨fun t j assigned => ?_, fun t => ?_, fun j x found id' call running unended => ?_,
    fun j => ?_, ?_⟩
  · change s₁.topicHub.get? t = some j at assigned
    change t ∈ topicsAt (Hyperliquid.setHub s₁ i hub') j
    rw [topicsAt_setHub]
    rw [got.topicHub] at assigned
    split at assigned
    · rename_i same
      cases assigned
      subst same
      cases known : s.topicHub.get? t with
      | none => exact seated.own known
      | some k =>
        rw [← got.unmoved k known]
        exact stays k (h.placed t k known)
    · exact stays j (h.placed t j assigned)
  · change (s₁.topicArgs.get? t).isSome ↔ (s₁.topicHub.get? t).isSome
    rw [seated.args, Dict.get?_set, got.topicHub]
    split
    · exact iff_of_true rfl rfl
    · exact h.args t
  · change hubAt (Hyperliquid.setHub s₁ i hub') j = some x at found
    rw [hubAt_setHub] at found
    split at found
    · rename_i same
      subst same
      rw [at'] at found
      cases found
      let cfg : Config Topic Arg Msg := hubConfig (fun _ => none) s
      have moved : StreamHub.Step cfg hub (.subscribe id topic) hub' := subscribe_step subscribed
      rcases unended_step moved running unended rfl with ⟨before, was, open', same⟩ | new
      · rw [← same]
        exact kept i hub at' id' before was open'
      · cases new
        exact Dict.get?_set_self _ _ _
    · exact kept j x found id' call running unended
  · change (topicsAt (Hyperliquid.setHub s₁ i hub') j).card ≤ maxSubsPerHub
    rw [topicsAt_setHub]
    rcases seated.topics j with same | ⟨more, room⟩
    · rw [same]
      exact h.room j
    · rw [more]
      exact (Finset.card_insert_le _ _).trans room
  · exact (length_setHub s₁ i hub').trans_le (seated.slots h.slots)

theorem Housed.start {s s' : State Topic Arg Msg} (h : Housed s) {id : CallId} {topic : Topic}
    {arg : Arg} (taken : start s id topic arg = some s') : Housed s' := by
  unfold Hyperliquid.start at taken
  split at taken
  · cases taken
  · rename_i fresh
    split at taken
    · cases taken
    · rename_i s₁ i acquired
      have got := acquireTopic_spec acquired
      have seated := acquireTopic_seated acquired
      split at taken
      · cases taken
      · rename_i slot at'
        obtain ⟨hub', subscribed, rfl⟩ := Option.map_eq_some_iff.mp taken
        exact h.register got seated fresh (by simp [hubAt, at']) subscribed

theorem keepsUnended_step {cfg : Config Topic Arg Msg} {hub hub' : StreamHub.State Topic Arg Msg}
    {ev : StreamHub.Event Topic Msg} (own : ownQueue hub ev = true)
    (silent : ∀ id topic, ev ≠ .subscribe id topic) (step : StreamHub.Step cfg hub ev hub') :
    KeepsUnended hub hub' := by
  intro id call' running unended
  rcases unended_step step running unended own with before | new
  · exact before
  · exact absurd new (silent id call'.topic)

theorem Housed.settle {s : State Topic Arg Msg} {i : HubId} {id : CallId}
    {hub : StreamHub.State Topic Arg Msg} (h : Housed (Hyperliquid.setHub s i hub))
    (found : hubAt (Hyperliquid.setHub s i hub) i = some hub)
    (own : ∀ consumer, s.running.get? id = some consumer → consumer.hub = i) :
    Housed (settle s i id hub) := by
  unfold Hyperliquid.settle
  dsimp only
  split
  · rename_i consumer t q runs finished
    refine h.release runs fun x call at' running => ?_
    rw [own consumer runs, found] at at'
    cases at'
    rw [finished] at running
    cases running
    rfl
  · exact h

omit [DecidableEq Topic] in
theorem hubAt_setHub_self {s : State Topic Arg Msg} {i : HubId}
    {hub : StreamHub.State Topic Arg Msg} (found : hubAt s i = some hub)
    (hub' : StreamHub.State Topic Arg Msg) : hubAt (setHub s i hub') i = some hub' := by
  rw [hubAt_setHub, if_pos rfl, found]
  rfl

theorem Housed.finish {route : Msg → Option Topic} {s s' : State Topic Arg Msg} (h : Housed s)
    (counted : Counted s) {id : CallId} {ok : Bool} (taken : finish route s id ok = some s') :
    Housed s' := by
  unfold Hyperliquid.finish at taken
  split at taken
  · cases taken
  · rename_i consumer runs
    split at taken
    · cases taken
    · rename_i slot at'
      split at taken
      · rename_i t q returned
        obtain ⟨hub, left, rfl⟩ := Option.map_eq_some_iff.mp taken
        have found : hubAt s consumer.hub = some slot.hub := by simp [hubAt, at']
        obtain ⟨-, x, call, at'', running, own⟩ := counted.running id consumer runs
        rw [found] at at''
        cases at''
        rw [returned] at running
        cases running
        have isTopic : t = consumer.topic := own
        subst isTopic
        let ev : StreamHub.Event Topic Msg := .unsubscribe id consumer.topic q ok
        have gives : ownQueue slot.hub ev = true := by simp [ev, ownQueue, returned]
        have moved : StreamHub.step (hubConfig route s) slot.hub ev = some hub := left
        have keeps := keepsUnended_step gives (fun _ _ same => by simp [ev] at same)
          (step_cases moved)
        refine (h.setHub found keeps).settle (hubAt_setHub_self found hub) fun c same => ?_
        rw [runs] at same
        exact (congrArg Consumer.hub (Option.some.inj same)).symm
      · cases taken

/-- The consumer whose send returns is running on that hub. -/
theorem Housed.sender {s : State Topic Arg Msg} (h : Housed s) {i : HubId}
    {hub hub' : StreamHub.State Topic Arg Msg} (found : hubAt s i = some hub)
    {cfg : Config Topic Arg Msg} {id : CallId} {ok : Bool}
    (step : StreamHub.Step cfg hub (.sent id ok) hub') {consumer : Consumer Topic}
    (runs : s.running.get? id = some consumer) : consumer.hub = i := by
  have sends : ∃ call, hub.calls.get? id = some call ∧ call.ended = false := by
    cases step with
    | sentSubscribe call send => exact ⟨_, call, rfl⟩
    | sentUnsubscribe call send => exact ⟨_, call, rfl⟩
  obtain ⟨call, running, unended⟩ := sends
  have before := h.owned i hub found id call running unended
  rw [runs] at before
  exact congrArg Consumer.hub (Option.some.inj before)

theorem Housed.hubStep {route : Msg → Option Topic} {s s' : State Topic Arg Msg} (h : Housed s)
    {i : HubId} {ev : StreamHub.Event Topic Msg} (taken : hubStep route s i ev = some s') :
    Housed s' := by
  unfold Hyperliquid.hubStep at taken
  split at taken
  · cases taken
  · rename_i slot at'
    split at taken
    · cases taken
    · rename_i foreign
      obtain ⟨hub, moved, rfl⟩ := Option.map_eq_some_iff.mp taken
      have found : hubAt s i = some slot.hub := by simp [hubAt, at']
      have gives : ownQueue slot.hub ev = true := by
        cases ev <;> first | rfl | exact absurd rfl foreign
      have silent : ∀ id topic, ev ≠ .subscribe id topic := by
        rintro id topic rfl
        exact foreign rfl
      have step := step_cases moved
      have next := h.setHub found (keepsUnended_step gives silent step)
      split
      · exact next.settle (hubAt_setHub_self found hub) fun _ runs => h.sender found step runs
      · exact next

theorem housed_reachable {route : Msg → Option Topic} {s : State Topic Arg Msg}
    (run : Reachable (system route) UninterruptedStep s) : Housed s := by
  refine run.invariant .initial fun s ev s' before h permitted taken => ?_
  cases ev with
  | start id topic arg => exact h.start taken
  | finish id ok => exact h.finish (counted_reachable before) taken
  | cancel id => cases permitted
  | hub i ev => exact h.hubStep taken

/-- The topics for which a step asks the payload builders for frames. -/
def builtTopics (s : State Topic Arg Msg) : Event Topic Arg Msg → List Topic
  | .finish id ok =>
    match s.running.get? id with
    | none => []
    | some consumer =>
      match s.hubs[consumer.hub]? with
      | none => []
      | some slot =>
        match slot.hub.calls.get? id with
        | some (.returned _ q) =>
          StreamHub.builtTopics slot.hub (.unsubscribe id consumer.topic q ok : StreamHub.Event _ Msg)
        | _ => []
  | .hub i ev =>
    match s.hubs[i]? with
    | none => []
    | some slot => if byConsumer ev then [] else StreamHub.builtTopics slot.hub ev
  | _ => []

/-- The slots, the dictionaries and the hubs agree. -/
structure TopicsPlaced (s : State Topic Arg Msg) : Prop where
  once : ∀ topic i j, topic ∈ topicsAt s i → topic ∈ topicsAt s j → i = j
  hub : ∀ topic i, topic ∈ topicsAt s i ↔ s.topicHub.get? topic = some i
  args : ∀ topic, (∃ i, topic ∈ topicsAt s i) ↔ (s.topicArgs.get? topic).isSome
  refs : ∀ topic, (∃ i, topic ∈ topicsAt s i) ↔ (s.topicRefs.get? topic).isSome
  counts : ∀ topic, s.topicRefs.getD topic 0 = consumersOf s.running topic
  queues : ∀ i hub, hubAt s i = some hub → ∀ topic ∈ hub.queues.keys, topic ∈ topicsAt s i
  room : ∀ i, (topicsAt s i).card ≤ maxSubsPerHub
  slots : s.hubs.length ≤ maxHubs
  frames : ∀ ev, ∀ topic ∈ builtTopics s ev, (s.topicArgs.get? topic).isSome

/-- A call of a hub that has not ended is for a topic placed on that hub. -/
theorem Housed.assigned {s : State Topic Arg Msg} (h : Housed s) (counted : Counted s) {i : HubId}
    {hub : StreamHub.State Topic Arg Msg} (found : hubAt s i = some hub) {id : CallId}
    {call : Call Topic Arg} (running : hub.calls.get? id = some call)
    (unended : call.ended = false) : s.topicHub.get? call.topic = some i :=
  (counted.running id _ (h.owned i hub found id call running unended)).1

theorem Housed.key_assigned {s : State Topic Arg Msg} (h : Housed s) (counted : Counted s)
    {i : HubId} {hub : StreamHub.State Topic Arg Msg} (found : hubAt s i = some hub) {topic : Topic}
    (key : topic ∈ hub.queues.keys) : s.topicHub.get? topic = some i := by
  have run := counted.hubs i hub found
  obtain ⟨id, call, running, unended, rfl⟩ :=
    (owned_reachable run).unended_of_key (populated_reachable run) key
  exact h.assigned counted found running unended

theorem Counted.assigned_of_consumer {s : State Topic Arg Msg} (counted : Counted s) {topic : Topic}
    (some' : consumersOf s.running topic ≠ 0) : (s.topicHub.get? topic).isSome := by
  obtain ⟨consumer, member, same⟩ := List.countP_pos_iff.mp (Nat.pos_of_ne_zero some')
  obtain ⟨id, runs⟩ := (s.running.mem_values_iff consumer).mp member
  obtain rfl : consumer.topic = topic := of_decide_eq_true same
  rw [(counted.running id consumer runs).1]
  rfl

/-- What a hub asks its builders for is placed on it. -/
theorem Housed.built_assigned {s : State Topic Arg Msg} (h : Housed s) (counted : Counted s)
    {i : HubId} {hub : StreamHub.State Topic Arg Msg} (found : hubAt s i = some hub)
    {ev : StreamHub.Event Topic Msg} (foreign : ¬ byConsumer ev = true) {topic : Topic}
    (built : topic ∈ StreamHub.builtTopics hub ev) : s.topicHub.get? topic = some i := by
  cases ev with
  | resume id ok =>
    simp only [StreamHub.builtTopics] at built
    split at built
    · rename_i t q woken
      split at built
      · cases built
      · rw [List.mem_singleton.mp built]
        exact h.assigned counted found woken rfl
    · cases built
  | connect ok => exact h.key_assigned counted found built
  | unsubscribe => exact absurd rfl foreign
  | _ => cases built

theorem Housed.frames {s : State Topic Arg Msg} (h : Housed s) (counted : Counted s)
    (ev : Event Topic Arg Msg) {topic : Topic} (built : topic ∈ builtTopics s ev) :
    (s.topicHub.get? topic).isSome := by
  cases ev with
  | start => cases built
  | cancel => cases built
  | finish id ok =>
    simp only [builtTopics] at built
    split at built
    · cases built
    · rename_i consumer runs
      split at built
      · cases built
      · split at built
        · simp only [StreamHub.builtTopics] at built
          split at built
          · rw [List.mem_singleton.mp built, (counted.running id consumer runs).1]
            rfl
          · cases built
        · cases built
  | hub i ev =>
    simp only [builtTopics] at built
    split at built
    · cases built
    · rename_i slot at'
      split at built
      · cases built
      · rename_i foreign
        have found : hubAt s i = some slot.hub := by simp [hubAt, at']
        rw [h.built_assigned counted found foreign built]
        rfl

theorem Housed.topicsPlaced {s : State Topic Arg Msg} (h : Housed s) (counted : Counted s) :
    TopicsPlaced s := by
  have hub : ∀ topic i, topic ∈ topicsAt s i ↔ s.topicHub.get? topic = some i :=
    fun topic i => ⟨counted.slots i topic, h.placed topic i⟩
  have somewhere : ∀ topic, (∃ i, topic ∈ topicsAt s i) ↔ (s.topicHub.get? topic).isSome := by
    intro topic
    rw [Option.isSome_iff_exists]
    exact exists_congr (hub topic)
  have referenced : ∀ topic, (s.topicHub.get? topic).isSome ↔ (s.topicRefs.get? topic).isSome := by
    intro topic
    rw [counted.refs]
    constructor
    · intro assigned
      obtain ⟨i, found⟩ := Option.isSome_iff_exists.mp assigned
      rw [if_neg (counted.assigned topic i found)]
      rfl
    · intro counts
      by_cases zero : consumersOf s.running topic = 0
      · rw [if_pos zero] at counts
        cases counts
      · exact counted.assigned_of_consumer zero
  refine ⟨fun topic i j here there => ?_, hub, fun topic => ?_, fun topic => ?_, fun topic => ?_,
    fun i x found topic key => ?_, h.room, h.slots, fun ev topic built => ?_⟩
  · rw [hub] at here there
    exact Option.some.inj (here.symm.trans there)
  · rw [somewhere, h.args]
  · rw [somewhere, referenced]
  · rw [Dict.getD, counted.refs]
    by_cases zero : consumersOf s.running topic = 0 <;> simp [zero]
  · exact (hub topic i).mpr (h.key_assigned counted found key)
  · exact (h.args topic).mpr (h.frames counted ev built)

/-- In every run without a consumer cancelled midway the topics are placed, and
in every state an `_acquire_topic` that raises changes nothing. -/
theorem topics_placed (route : Msg → Option Topic) {s : State Topic Arg Msg}
    (run : Reachable (system route) UninterruptedStep s) :
    TopicsPlaced s ∧ ∀ topic arg e s', (acquireTopicBody topic arg).run s = .error e s' → s' = s := by
  refine ⟨(housed_reachable run).topicsPlaced (counted_reachable run), fun topic arg e s' raised => ?_⟩
  rw [acquireTopicBody_run] at raised
  split at raised
  · cases raised
  · cases raised
    rfl

/-- A second consumer acquires the topic while the first awaits the send of its
unsubscription, and is about to subscribe again. -/
def reacquire : List (Event Nat Nat Nat) :=
  [.start 0 7 42, .hub 0 (.connect true), .hub 0 (.resubscribed true), .hub 0 (.wake 0),
    .hub 0 (.resume 0 true), .finish 0 true, .start 1 7 43, .hub 0 (.wake 1), .hub 0 (.sent 0 true)]

theorem reacquire_ends : (system some).endsIn (fun _ => uninterrupted) reacquire
    (fun s => builtTopics s (.hub 0 (.resume 1 true)) = [7] ∧ s.topicRefs.getD 7 0 = 1) = true := by
  decide +kernel

theorem topics_placed_reacquire : ∃ s : State Nat Nat Nat,
    Reachable (system some) UninterruptedStep s ∧ TopicsPlaced s ∧
      s.topicRefs.getD 7 0 = 1 ∧ (s.topicArgs.get? 7).isSome := by
  obtain ⟨s, run, ends⟩ := System.exists_reachable (fun _ _ _ ok => ok) reacquire_ends
  obtain ⟨built, refs⟩ := of_decide_eq_true ends
  obtain ⟨placed, -⟩ := topics_placed some run
  exact ⟨s, run, placed, refs, placed.frames (.hub 0 (.resume 1 true)) 7 (by simp [built])⟩

end ExchangeRouter.Hyperliquid
