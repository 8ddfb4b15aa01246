import ExchangeRouter.StreamHub.Steps

/-!
# The queues of a hub

What the fan-out loop does to the queue of one consumer.  A queue is handed
every message of its topic; when it is full its oldest message makes room.
-/
namespace ExchangeRouter.StreamHub
open Lib

variable {Topic Payload Msg : Type}

namespace Queue

/-- A queue with room takes the message. -/
theorem offer_room {maxsize : Nat} {q : Queue Msg} (room : q.full maxsize = false)
    (m : Arrival Msg) :
    q.offer maxsize m = ⟨q.items ++ [m], q.arrived ++ [m], q.taken⟩ := by
  have room' : full maxsize { q with arrived := q.arrived ++ [m] } = false := room
  simp [offer, putNowait, room']

/-- A full queue loses its oldest message, and takes the new one if that made
room. -/
theorem offer_full {maxsize : Nat} {q : Queue Msg} (noRoom : q.full maxsize = true)
    (m : Arrival Msg) :
    q.offer maxsize m = (({ q with items := q.items.tail, arrived := q.arrived ++ [m] } :
      Queue Msg).putNowait maxsize m).getD
        { q with items := q.items.tail, arrived := q.arrived ++ [m] } := by
  obtain ⟨items, arrived, taken⟩ := q
  cases items with
  | nil =>
    simp only [full, Bool.and_eq_true, decide_eq_true_eq, List.length_nil] at noRoom
    omega
  | cons oldest rest =>
    have noRoom' : full maxsize ⟨oldest :: rest, arrived ++ [m], taken⟩ = true := noRoom
    simp only [offer, putNowait, getNowait, noRoom', if_true, Option.getD_some]
    rfl

theorem putNowait_arrived {maxsize : Nat} {q q' : Queue Msg} {m : Arrival Msg}
    (h : q.putNowait maxsize m = some q') : q'.arrived = q.arrived ∧ q'.taken = q.taken := by
  unfold putNowait at h
  split at h
  · cases h
  · cases h
    exact ⟨rfl, rfl⟩

@[simp] theorem offer_arrived (maxsize : Nat) (q : Queue Msg) (m : Arrival Msg) :
    (q.offer maxsize m).arrived = q.arrived ++ [m] := by
  cases room : q.full maxsize with
  | false => rw [offer_room room]
  | true =>
    rw [offer_full room]
    cases put : putNowait maxsize { q with items := q.items.tail, arrived := q.arrived ++ [m] } m with
    | none => rfl
    | some q' => exact (putNowait_arrived put).1

@[simp] theorem offer_taken (maxsize : Nat) (q : Queue Msg) (m : Arrival Msg) :
    (q.offer maxsize m).taken = q.taken := by
  cases room : q.full maxsize with
  | false => rw [offer_room room]
  | true =>
    rw [offer_full room]
    cases put : putNowait maxsize { q with items := q.items.tail, arrived := q.arrived ++ [m] } m with
    | none => rfl
    | some q' => exact (putNowait_arrived put).2

end Queue

theorem fanOut_nil (maxsize : Nat) (m : Arrival Msg) (queue : QueueId → Queue Msg) :
    fanOut maxsize m queue [] = queue := rfl

theorem fanOut_cons (maxsize : Nat) (m : Arrival Msg) (queue : QueueId → Queue Msg) (q : QueueId)
    (rest : List QueueId) :
    fanOut maxsize m queue (q :: rest) =
      fanOut maxsize m (Function.update queue q ((queue q).offer maxsize m)) rest := rfl

/-- The fan-out hands the message to a queue once for each time it is listed. -/
theorem fanOut_arrived (maxsize : Nat) (m : Arrival Msg) (queue : QueueId → Queue Msg)
    (qs : List QueueId) (q : QueueId) :
    (fanOut maxsize m queue qs q).arrived = (queue q).arrived ++ List.replicate (qs.count q) m := by
  induction qs generalizing queue with
  | nil => simp [fanOut_nil]
  | cons x rest ih =>
    rw [fanOut_cons, ih]
    by_cases same : x = q
    · subst same
      simp [List.replicate_succ]
    · simp [Function.update_of_ne (Ne.symm same), List.count_cons_of_ne same]

variable [DecidableEq Topic]

/-- Only the receive loop hands messages to a queue. -/
theorem arrived_step {cfg : Config Topic Payload Msg} {s s' : State Topic Payload Msg}
    {ev : Event Topic Msg} (step : Step cfg s ev s') (other : ∀ m, ev ≠ .receive m) (q : QueueId) :
    (s'.queue q).arrived = (s.queue q).arrived := by
  cases step with
  | receive task => exact absurd rfl (other _)
  | @get x m rest items =>
    by_cases same : q = x
    · subst same
      simp
    · simp [Function.update_of_ne same]
  | resumeSend call new send => cases send <;> rfl
  | sentSubscribe call send => cases send <;> rfl
  | sentUnsubscribe call send => cases send <;> rfl
  | unsubscribeSend startable notHeld last connected send => cases send <;> rfl
  | connect task send => cases send <;> rfl
  | resubscribed task send => cases send <;> rfl
  | subscribeNew | subscribeJoin | wake | timeout | resumeKnown | unsubscribeKeep
  | unsubscribeQuiet | cancelSubscribe | cancelUnsubscribe | connectFailed | disconnect | closed
  | reconnect | die => rfl

/-- The receive loop hands a routed message to the queues of its topic. -/
theorem arrived_delivered {cfg : Config Topic Payload Msg} {m : Msg} {topic : Topic}
    (routed : cfg.route m = some topic) (s : State Topic Payload Msg) (c : Conn) (q : QueueId) :
    (delivered cfg s c m q).arrived = (s.queue q).arrived ++
      List.replicate ((queuesOf s topic).count q) ⟨s.received.length, c, m⟩ := by
  simp only [delivered, routed]
  exact fanOut_arrived _ _ _ _ _

end ExchangeRouter.StreamHub
