import ExchangeRouter.Client.Model

/-!
# What a refusal does to the SDK stream

A refusal after `accept` carries a fatal close code and ends the stream.  One
before `accept` reaches the client as a failed handshake without a code, and the
stream goes on connecting.
-/
namespace ExchangeRouter.Client
open Lib OrderBooks

def Phase.isRaised : Phase → Bool
  | .raised _ => true
  | _ => false

/-- The client has raised, or is about to: the answer on its way is the next
step, and makes it raise. -/
def Raises (call : Call) (s : State) : Prop :=
  s.phase.isRaised = true ∨
    (∃ s', step call s .arrive = some s') ∧
      ∀ event s', step call s event = some s' → s'.phase.isRaised = true

/-- A refused attempt is the last one, and the stream raises. -/
structure RefusalEnds (call : Call) (s : State) : Prop where
  last : ∀ attempt ∈ s.refusals, attempt = s.attempts
  raises : s.refusals ≠ [] → Raises call s

/-- The runs in which every router that an attempt reaches has one of the registries. -/
def meets (registries : Set Registry) (_ : State) : Event → Prop
  | .reach registry => registry ∈ registries
  | _ => True

theorem refuseSubscription_code {adapter : Adapter} {marketType : MarketType}
    {channel symbol : String} {code : ℕ}
    (refused : refuseSubscription adapter marketType channel symbol = .ok (some code)) :
    code = 1003 := by
  unfold refuseSubscription at refused
  split at refused
  · cases refused
    rfl
  · split at refused
    · cases refused
      rfl
    · simp only [bind, Except.bind] at refused
      repeat' split at refused
      all_goals cases refused
      all_goals rfl

/-- What holds while every router admits the call. -/
structure Admitted (s : State) : Prop where
  unrejected : s.phase ≠ .rejected
  fatal : ∀ code, s.phase = .closing code → code ∈ fatalCloseCodes
  refused : s.refusals ≠ [] → s.refusals = [s.attempts] ∧
    ((∃ code, s.phase = .closing code) ∨ ∃ error, s.phase = .raised error)

theorem Admitted.initial : Admitted State.initial where
  unrejected := fun rejected => by cases rejected
  fatal := fun _ closing => by cases closing
  refused := fun refused => absurd rfl refused

theorem except_refusals (call : Call) (s : State) (error : ClientError) :
    (s.except call error).refusals = s.refusals := by
  unfold State.except
  split <;> rfl

theorem except_attempts (call : Call) (s : State) (error : ClientError) :
    (s.except call error).attempts = s.attempts := by
  unfold State.except
  split <;> rfl

theorem except_phase (call : Call) (s : State) (error : ClientError) :
    (s.except call error).phase = .raised error ∨ (s.except call error).phase = .sleeping := by
  unfold State.except
  split
  · exact Or.inl rfl
  · exact Or.inr rfl

theorem isFatalClose_closed {code : ℕ} (fatal : code ∈ fatalCloseCodes) :
    isFatalClose (.connectionClosed (some code)) = true :=
  decide_eq_true fatal

theorem except_fatal (call : Call) (s : State) {code : ℕ} (fatal : code ∈ fatalCloseCodes) :
    (s.except call (.connectionClosed (some code))).phase = .raised (.connectionClosed (some code)) := by
  unfold State.except
  rw [isFatalClose_closed fatal, Bool.or_true, if_pos rfl]

section Steps
variable {call : Call} {s s' : State} {event : Event}

/-- After a refusal only the answer of the router arrives. -/
theorem Admitted.unrefused (inv : Admitted s) (taken : step call s event = some s')
    (other : event ≠ .arrive) : s.refusals = [] := by
  by_contra refused
  rcases (inv.refused refused).2 with ⟨code, closing⟩ | ⟨error, raised⟩
  · cases event with
    | arrive => exact other rfl
    | _ => simp [Client.step, closing] at taken
  · cases event with
    | arrive => exact other rfl
    | _ => simp [Client.step, raised] at taken

/-- A step of the client while nothing was refused. -/
theorem Admitted.quiet (none : s'.refusals = []) (unrejected : s'.phase ≠ .rejected)
    (running : ∀ code, s'.phase ≠ .closing code) : Admitted s' where
  unrejected := unrejected
  fatal := fun code closing => absurd closing (running code)
  refused := fun refused => absurd none refused

theorem Admitted.except (none : s.refusals = []) (error : ClientError) :
    Admitted (s.except call error) := by
  refine .quiet ((except_refusals call s error).trans none) ?_ fun code => ?_
  · rcases except_phase call s error with phase | phase <;> rw [phase] <;> intro same <;> cases same
  · rcases except_phase call s error with phase | phase <;> rw [phase] <;> intro same <;> cases same

/-- The endpoint refuses with a fatal code. -/
theorem Admitted.refuse (none : s.refusals = []) {code : ℕ} (fatal : code ∈ fatalCloseCodes) :
    Admitted (s.refuse (.closing code)) where
  unrejected := fun rejected => by cases rejected
  fatal := fun other closing => by
    cases closing
    exact fatal
  refused := fun _ => ⟨congrArg (s.attempts :: ·) none, Or.inl ⟨code, rfl⟩⟩

/-- The close frame arrives, and the stream raises. -/
theorem Admitted.arrive (inv : Admitted s) {code : ℕ} (closing : s.phase = .closing code) :
    Admitted (s.except call (.connectionClosed (some code))) := by
  have raised := except_fatal call s (inv.fatal code closing)
  refine ⟨fun rejected => ?_, fun other again => ?_, fun refused => ?_⟩
  · rw [raised] at rejected
    cases rejected
  · rw [raised] at again
    cases again
  · rw [except_refusals] at refused ⊢
    rw [except_attempts]
    exact ⟨(inv.refused refused).1, Or.inr ⟨_, raised⟩⟩

theorem Admitted.step (inv : Admitted s)
    (admits : ∀ registry, event = .reach registry →
      (admitted registry call.exchange call.marketType).isSome)
    (taken : step call s event = some s') : Admitted s' := by
  by_cases arrives : event = .arrive
  · subst arrives
    simp only [Client.step] at taken
    split at taken
    · rename_i rejected
      exact absurd rejected inv.unrejected
    · rename_i code closing
      cases taken
      exact inv.arrive closing
    · cases taken
  have none := inv.unrefused taken arrives
  cases event with
  | fail error =>
    simp only [Client.step] at taken
    split at taken
    · cases taken
      exact .except none error
    · cases taken
  | reach registry =>
    simp only [Client.step] at taken
    split at taken
    · split at taken
      · rename_i unknown
        have known := admits registry rfl
        rw [unknown] at known
        cases known
      · cases taken
        exact .quiet none (fun same => by cases same) fun _ same => by cases same
    · cases taken
  | receive =>
    simp only [Client.step] at taken
    split at taken
    · split at taken
      · cases taken
        exact .quiet none (fun same => by cases same) fun _ same => by cases same
      · rename_i code refused
        cases taken
        exact .refuse none (by rw [refuseSubscription_code refused]; decide)
      · cases taken
        exact .quiet none (fun same => by cases same) fun _ same => by cases same
    · cases taken
  | timeout =>
    simp only [Client.step] at taken
    split at taken
    · cases taken
      exact .refuse none (by decide)
    · cases taken
  | arrive => exact absurd rfl arrives
  | message decodes =>
    simp only [Client.step] at taken
    split at taken
    · rename_i subscribed
      split at taken
      · cases taken
        exact .quiet none (by simp [subscribed]) (by simp [subscribed])
      · cases taken
        exact .except none _
    · cases taken
  | drop error =>
    simp only [Client.step] at taken
    split at taken <;> cases taken <;> exact .except none error
  | wake =>
    simp only [Client.step] at taken
    split at taken
    · cases taken
      exact .quiet none (fun same => by cases same) fun _ same => by cases same
    · cases taken

theorem raises_of_closing {code : ℕ} (closing : s.phase = .closing code)
    (fatal : code ∈ fatalCloseCodes) : Raises call s := by
  have arrives : Client.step call s .arrive =
      some (s.except call (.connectionClosed (some code))) := by
    simp only [Client.step, closing]
  refine Or.inr ⟨⟨_, arrives⟩, fun event s' taken => ?_⟩
  cases event with
  | arrive =>
    obtain rfl := Option.some.inj (arrives.symm.trans taken)
    rw [except_fatal call s fatal]
    rfl
  | _ => simp [Client.step, closing] at taken

theorem Admitted.refusalEnds (inv : Admitted s) : RefusalEnds call s where
  last := fun attempt member => by
    have only := (inv.refused (List.ne_nil_of_mem member)).1
    rw [only] at member
    exact List.mem_singleton.mp member
  raises := fun refused => by
    rcases (inv.refused refused).2 with ⟨code, closing⟩ | ⟨error, raised⟩
    · exact raises_of_closing closing (inv.fatal code closing)
    · exact Or.inl (by rw [raised]; rfl)

/-- A refusal before `accept` does not make the stream raise. -/
theorem not_raises_of_rejected (reconnects : call.reconnect = true) (rejected : s.phase = .rejected) :
    ¬ Raises call s := by
  rintro (raised | ⟨-, every⟩)
  · rw [rejected] at raised
    cases raised
  · have taken : Client.step call s .arrive = some (s.except call (.invalidStatus 403)) := by
      simp only [Client.step, rejected]
    have raised := every .arrive _ taken
    simp [State.except, ClientError.caught, isFatalClose, ClientError.rcvd, ClientError.code,
      reconnects, Phase.isRaised] at raised

end Steps

/-- Every refusal ends the stream exactly when every router that an attempt can
reach knows the exchange and supports the market type. -/
theorem refusal_ends_stream_iff (call : Call) (reconnects : call.reconnect = true)
    (registries : Set Registry) :
    (∀ s, Reachable (system call) (meets registries) s → RefusalEnds call s) ↔
      ∀ registry ∈ registries, (admitted registry call.exchange call.marketType).isSome := by
  constructor
  · intro ends registry member
    by_contra unknown
    rw [Option.not_isSome_iff_eq_none] at unknown
    have taken : (system call).step State.initial (.reach registry) =
        some (State.initial.refuse .rejected) := by
      simp [system, step, State.initial, unknown]
    have run : Reachable (system call) (meets registries) (State.initial.refuse .rejected) :=
      .next (a := .reach registry) .init member taken
    exact not_raises_of_rejected reconnects rfl ((ends _ run).raises (by simp [State.refuse]))
  · intro admits s run
    have inv : Admitted s := run.invariant .initial fun s event s' _ inv permitted taken => by
      refine inv.step (fun registry reaches => ?_) taken
      subst reaches
      exact admits registry permitted
    exact inv.refusalEnds

/-- A router with one adapter, which has tickers of the spot market only. -/
def spotTickers : Registry :=
  Dict.empty.set "bybit" ⟨[.spot], .obj [("markets", .obj [("spot", .obj
    [("ticker", .obj [("ws", .bool true)]), ("mark_price", .obj [("ws", .bool false)])])])]⟩

/-- The first attempt fails on its way, and the second is refused: the channel
has no stream. -/
def refusedChannel : List Event :=
  [.fail .osError, .wake, .reach spotTickers, .receive, .arrive]

theorem refusedChannel_ends :
    (system ⟨"bybit", "spot", "mark_price", "BTCUSDT", true⟩).endsIn (fun _ _ => true)
      refusedChannel (fun s => s.refusals = [2] ∧ s.phase.isRaised = true) = true := by
  decide +kernel

theorem refusal_ends_stream_iff_channel : ∃ s,
    Reachable (system ⟨"bybit", "spot", "mark_price", "BTCUSDT", true⟩) (meets {spotTickers}) s ∧
      s.refusals = [2] ∧ RefusalEnds ⟨"bybit", "spot", "mark_price", "BTCUSDT", true⟩ s := by
  have sound : ∀ s : State, ∀ event ∈ refusedChannel, true = true → meets {spotTickers} s event := by
    simp [refusedChannel, meets]
  obtain ⟨s, run, ends⟩ := System.exists_reachable sound refusedChannel_ends
  refine ⟨s, run, (of_decide_eq_true ends).1, ?_⟩
  refine (refusal_ends_stream_iff _ rfl {spotTickers}).mpr (fun registry member => ?_) s run
  rw [Set.mem_singleton_iff.mp member]
  decide

theorem refusedExchange_ends :
    (system ⟨"binanse", "spot", "ticker", "BTCUSDT", true⟩).endsIn (fun _ _ => true)
      [.reach spotTickers, .arrive, .wake] (fun s => s.refusals = [1] ∧ s.attempts = 2) = true := by
  decide +kernel

/-- The exchange is unknown, and the client connects again. -/
theorem refusal_does_not_end_stream : ¬ ∀ call : Call, call.reconnect = true →
    ∀ s, Reachable (system call) anyStep s → RefusalEnds call s := by
  intro claimed
  obtain ⟨s, run, ends⟩ := System.exists_reachable (fun _ _ _ _ => trivial) refusedExchange_ends
  obtain ⟨refused, again⟩ := of_decide_eq_true ends
  have last := (claimed _ rfl s run).last 1 (by simp [refused])
  rw [again] at last
  cases last

end ExchangeRouter.Client
