import Mathlib.Algebra.Order.Group.Basic
import Mathlib.Tactic.Common
import ExchangeRouter.Lib.Dict
import ExchangeRouter.Lib.Run

/-!
# Read-through caches

Calls share one entry for each key.  A call may look at the entry before it queues
on the lock of the key; the holder of the lock looks again, and only then awaits a
request, whose value is stored with the time at which it arrives.  A call that is
answered adjusts the value it was given, in the cache as well.  A call may be
cancelled while it waits for the lock or for its request.

The log of a run, newest record first, says which entry each key has.
-/
namespace ExchangeRouter.Lib

universe u v w x y

structure ReadThrough (Time : Type u) (Value : Type v) (Arg : Type w) [Preorder Time] where
  looksFirst : Bool
  /-- The age of an entry: the reading of the clock first, then the entry's stamp. -/
  expired : Time → Time → Bool
  usable : Value → Bool
  adjust : Arg → Value → Value
  expired_mono : ∀ {now later stamp earlier : Time}, now ≤ later → earlier ≤ stamp →
    expired now stamp = true → expired later earlier = true
  adjust_usable : ∀ {arg : Arg} {value : Value}, usable value = true →
    usable (adjust arg value) = true

namespace ReadThrough

inductive Record (Key : Type y) (Time : Type u) (Value : Type v) (Arg : Type w) (Err : Type x)
  | started (id : ℕ) (key : Key) (now : Time)
  | served (id : ℕ) (key : Key) (now : Time) (value : Value)
  | failed (id : ℕ) (key : Key) (e : Err)
  | abandoned (id : ℕ) (key : Key)
  | answered (id : ℕ) (key : Key) (arg : Arg) (now stamp : Time) (value : Value)
  deriving DecidableEq

structure State (Key : Type y) (Time : Type u) (Value : Type v) (Arg : Type w) (Err : Type x) where
  entries : Dict Key (Time × Value)
  clock : Time
  waiting : Dict ℕ (Key × Arg)
  /-- The holders of the locks: each awaits a request. -/
  fetching : Dict Key (ℕ × Arg)
  log : List (Record Key Time Value Arg Err)

inductive Event (Key : Type y) (Time : Type u) (Value : Type v) (Arg : Type w) (Err : Type x)
  | call (id : ℕ) (key : Key) (arg : Arg) (now : Time)
  | acquire (id : ℕ) (now : Time)
  | reply (key : Key) (now : Time) (result : Except Err Value)
  /-- Cancellation of a waiting call, and of one that awaits its request. -/
  | leave (id : ℕ)
  | abort (key : Key)

variable {Key : Type y} {Time : Type u} {Value : Type v} {Arg : Type w} {Err : Type x}

def State.initial (start : Time) : State Key Time Value Arg Err :=
  ⟨.empty, start, .empty, .empty, []⟩

section Steps
variable [LinearOrder Time] [DecidableEq Key] (P : ReadThrough Time Value Arg)

def fresh (now : Time) (entry : Time × Value) : Bool :=
  P.usable entry.2 && !P.expired now entry.1

def look (s : State Key Time Value Arg Err) (key : Key) (now : Time) : Option (Time × Value) :=
  (s.entries.get? key).filter (P.fresh now)

/-- A call returns the value of an entry, adjusted. -/
def answer (s : State Key Time Value Arg Err) (id : ℕ) (key : Key) (arg : Arg) (now : Time)
    (entry : Time × Value) : State Key Time Value Arg Err :=
  { s with
    clock := now
    entries := s.entries.set key (entry.1, P.adjust arg entry.2)
    log := .answered id key arg now entry.1 (P.adjust arg entry.2) :: s.log }

def call (s : State Key Time Value Arg Err) (id : ℕ) (key : Key) (arg : Arg) (now : Time) :
    Option (State Key Time Value Arg Err) :=
  if s.clock ≤ now ∧ s.waiting.get? id = none then
    match if P.looksFirst then P.look s key now else none with
    | some entry => some (P.answer s id key arg now entry)
    | none => some { s with clock := now, waiting := s.waiting.set id (key, arg) }
  else none

def acquire (s : State Key Time Value Arg Err) (id : ℕ) (now : Time) :
    Option (State Key Time Value Arg Err) :=
  match s.waiting.get? id with
  | none => none
  | some (key, arg) =>
    if s.clock ≤ now ∧ s.fetching.get? key = none then
      let s := { s with waiting := s.waiting.pop id }
      match P.look s key now with
      | some entry => some (P.answer s id key arg now entry)
      | none => some { s with
          clock := now
          fetching := s.fetching.set key (id, arg)
          log := .started id key now :: s.log }
    else none

def reply (s : State Key Time Value Arg Err) (key : Key) (now : Time) (result : Except Err Value) :
    Option (State Key Time Value Arg Err) :=
  match s.fetching.get? key with
  | none => none
  | some (id, arg) =>
    if s.clock ≤ now then
      let s := { s with fetching := s.fetching.pop key }
      match result with
      | .error e => some { s with clock := now, log := .failed id key e :: s.log }
      | .ok value =>
        let s := { s with
          entries := s.entries.set key (now, value)
          log := .served id key now value :: s.log }
        some (P.answer s id key arg now (now, value))
    else none

def abort (s : State Key Time Value Arg Err) (key : Key) : Option (State Key Time Value Arg Err) :=
  match s.fetching.get? key with
  | none => none
  | some (id, _) => some { s with
      fetching := s.fetching.pop key
      log := .abandoned id key :: s.log }

def step (s : State Key Time Value Arg Err) :
    Event Key Time Value Arg Err → Option (State Key Time Value Arg Err)
  | .call id key arg now => P.call s id key arg now
  | .acquire id now => P.acquire s id now
  | .reply key now result => P.reply s key now result
  | .leave id => some { s with waiting := s.waiting.pop id }
  | .abort key => abort s key

def system (start : Time) : System (State Key Time Value Arg Err) (Event Key Time Value Arg Err) :=
  ⟨.initial start, P.step⟩

end Steps

section Log
variable [LinearOrder Time] [DecidableEq Key] (P : ReadThrough Time Value Arg) (key : Key)

/-- The call whose request for the key is running. -/
def inFlight : List (Record Key Time Value Arg Err) → Option ℕ
  | [] => none
  | .started id k _ :: rest => if k = key then some id else inFlight rest
  | .served _ k _ _ :: rest => if k = key then none else inFlight rest
  | .failed _ k _ :: rest => if k = key then none else inFlight rest
  | .abandoned _ k :: rest => if k = key then none else inFlight rest
  | .answered .. :: rest => inFlight rest

/-- The entry of the key: the value served last, as the calls have adjusted it. -/
def entryOf : List (Record Key Time Value Arg Err) → Option (Time × Value)
  | [] => none
  | .served _ k now value :: rest => if k = key then some (now, value) else entryOf rest
  | .answered _ k arg _ _ _ :: rest =>
    if k = key then (entryOf rest).map fun entry => (entry.1, P.adjust arg entry.2)
    else entryOf rest
  | .started .. :: rest | .failed .. :: rest | .abandoned .. :: rest => entryOf rest

def Record.time : Record Key Time Value Arg Err → Option Time
  | .started _ _ now | .served _ _ now _ | .answered _ _ _ now _ _ => some now
  | .failed .. | .abandoned .. => none

/-- No record of the log is later. -/
def Covers (now : Time) (log : List (Record Key Time Value Arg Err)) : Prop :=
  ∀ record ∈ log, ∀ time, record.time = some time → time ≤ now

/-- What a record may follow. -/
def Follows (log : List (Record Key Time Value Arg Err)) : Record Key Time Value Arg Err → Prop
  | .started _ key now => Covers now log ∧ inFlight key log = none ∧
      ∀ entry, P.entryOf key log = some entry → P.fresh now entry = false
  | .served id key now _ => Covers now log ∧ inFlight key log = some id
  | .failed id key _ | .abandoned id key => inFlight key log = some id
  | .answered id key arg now stamp value => Covers now log ∧
      ∃ given, P.entryOf key log = some (stamp, given) ∧ value = P.adjust arg given ∧
        (P.fresh now (stamp, given) = true ∨
          stamp = now ∧ log.head? = some (.served id key now given))

/-- Every record is there for a reason. -/
def Sound : List (Record Key Time Value Arg Err) → Prop
  | [] => True
  | record :: rest => P.Follows rest record ∧ Sound rest

/-- The arguments of the calls for the key that were answered, newest first. -/
def argsOf (log : List (Record Key Time Value Arg Err)) : List Arg :=
  log.filterMap fun record =>
    match record with
    | .answered _ k arg _ _ _ => if k = key then some arg else none
    | _ => none

def Record.serves (key : Key) : Record Key Time Value Arg Err → Bool
  | .served _ k _ _ => k = key
  | _ => false

variable {P} {key} {log later rest : List (Record Key Time Value Arg Err)}

theorem Sound.suffix (sound : P.Sound (later ++ rest)) : P.Sound rest := by
  induction later with
  | nil => exact sound
  | cons record later ih => exact ih sound.2

theorem Sound.follows {record : Record Key Time Value Arg Err}
    (sound : P.Sound (later ++ record :: rest)) : P.Follows rest record := sound.suffix.1

omit [DecidableEq Key] in
theorem Covers.mono {now then' : Time} (covers : Covers now log) (le : now ≤ then') :
    Covers then' log :=
  fun record member time stamped => (covers record member time stamped).trans le

omit [DecidableEq Key] in
theorem Covers.cons {now then' : Time} {record : Record Key Time Value Arg Err}
    (covers : Covers now log) (le : now ≤ then')
    (own : ∀ time, record.time = some time → time ≤ then') : Covers then' (record :: log) := by
  intro other member time stamped
  rcases List.mem_cons.mp member with rfl | old
  · exact own time stamped
  · exact covers.mono le other old time stamped

/-- The entry is the value served last, adjusted by every call answered since. -/
theorem entryOf_eq_some {stamp : Time} {value : Value}
    (found : P.entryOf key log = some (stamp, value)) :
    ∃ since id served before, log = since ++ .served id key stamp served :: before ∧
      (∀ record ∈ since, record.serves key = false) ∧
      value = (argsOf key since).foldr P.adjust served := by
  induction log generalizing value with
  | nil => cases found
  | cons record log ih =>
    -- A record that leaves the entry alone goes in front.
    have front {older : Value} (same : P.entryOf key log = some (stamp, older))
        (silent : record.serves key = false)
        (adjusted : value = (argsOf key [record]).foldr P.adjust older) :
        ∃ since id served before, record :: log = since ++ .served id key stamp served :: before ∧
          (∀ other ∈ since, other.serves key = false) ∧
          value = (argsOf key since).foldr P.adjust served := by
      obtain ⟨since, id, served, before, rfl, others, rfl⟩ := ih same
      refine ⟨record :: since, id, served, before, rfl, ?_, ?_⟩
      · intro other member
        rcases List.mem_cons.mp member with rfl | member
        · exact silent
        · exact others other member
      · rw [adjusted, ← List.foldr_append, argsOf, argsOf, argsOf, ← List.filterMap_append]
        rfl
    cases record with
    | started | failed | abandoned => exact front found rfl rfl
    | served id k now served =>
      simp only [entryOf] at found
      split at found
      · rename_i same
        subst same
        cases found
        exact ⟨[], id, _, log, rfl, nofun, rfl⟩
      · rename_i other
        exact front found (by simpa [Record.serves] using other) rfl
    | answered id k arg now stamp' value' =>
      simp only [entryOf] at found
      split at found
      · rename_i same
        obtain ⟨entry, older, shape⟩ := Option.map_eq_some_iff.mp found
        cases shape
        exact front older rfl (by simp [argsOf, same])
      · rename_i other
        exact front found rfl (by simp [argsOf, other])

/-- A usable value is the entry, with no request running, until it has expired. -/
theorem Sound.settled (sound : P.Sound log) {id : ℕ} {stamp : Time} {value : Value}
    (served : .served id key stamp value ∈ log) (usable : P.usable value = true) :
    (inFlight key log = none ∧
      ∃ adjusted, P.entryOf key log = some (stamp, adjusted) ∧ P.usable adjusted = true) ∨
    ∃ record ∈ log, ∃ time, record.time = some time ∧ P.expired time stamp = true := by
  induction log with
  | nil => cases served
  | cons record log ih =>
    obtain ⟨follows, before⟩ := sound
    have expired (old : ∃ record ∈ log, ∃ time, record.time = some time ∧
        P.expired time stamp = true) : ∃ other ∈ record :: log, ∃ time, other.time = some time ∧
        P.expired time stamp = true := by
      obtain ⟨other, member, passed⟩ := old
      exact ⟨other, List.mem_cons_of_mem _ member, passed⟩
    -- While a request runs, the values served before it have expired.
    have running {holder : ℕ} (busy : inFlight key log = some holder)
        (old : .served id key stamp value ∈ log) : ∃ other ∈ record :: log, ∃ time,
        other.time = some time ∧ P.expired time stamp = true := by
      rcases ih before old with ⟨idle, -⟩ | passed
      · rw [busy] at idle
        cases idle
      · exact expired passed
    cases record with
    | started other k now =>
      have old : .served id key stamp value ∈ log := by simpa using served
      obtain ⟨-, -, stale⟩ := follows
      rcases ih before old with ⟨idle, adjusted, entry, good⟩ | passed
      · by_cases same : k = key
        · subst same
          have stale := stale _ entry
          simp only [fresh, good, Bool.true_and, Bool.not_eq_false'] at stale
          exact .inr ⟨_, List.mem_cons_self, now, rfl, stale⟩
        · exact .inl ⟨by simp [inFlight, same, idle], adjusted, entry, good⟩
      · exact .inr (expired passed)
    | served other k now new =>
      by_cases same : k = key
      · subst same
        rcases List.mem_cons.mp served with own | old
        · cases own
          exact .inl ⟨by simp [inFlight], value, by simp [entryOf], usable⟩
        · exact .inr (running follows.2 old)
      · have old : .served id key stamp value ∈ log := by
          rcases List.mem_cons.mp served with own | old
          · cases own
            exact absurd rfl same
          · exact old
        refine (ih before old).imp ?_ expired
        intro held
        simpa [inFlight, entryOf, same] using held
    | failed other k e =>
      have old : .served id key stamp value ∈ log := by simpa using served
      by_cases same : k = key
      · subst same
        exact .inr (running follows old)
      · refine (ih before old).imp ?_ expired
        intro held
        simpa [inFlight, entryOf, same] using held
    | abandoned other k =>
      have old : .served id key stamp value ∈ log := by simpa using served
      by_cases same : k = key
      · subst same
        exact .inr (running follows old)
      · refine (ih before old).imp ?_ expired
        intro held
        simpa [inFlight, entryOf, same] using held
    | answered other k arg now stamp' value' =>
      have old : .served id key stamp value ∈ log := by simpa using served
      refine (ih before old).imp ?_ expired
      rintro ⟨idle, adjusted, entry, good⟩
      refine ⟨idle, ?_⟩
      by_cases same : k = key
      · exact ⟨P.adjust arg adjusted, by simp [entryOf, same, entry], P.adjust_usable good⟩
      · exact ⟨adjusted, by simp [entryOf, same, entry], good⟩

/-- A request starts only once every usable value served before has expired. -/
theorem Sound.spaced {id started : ℕ} {now stamp : Time} {value : Value}
    (sound : P.Sound (later ++ .started started key now :: rest))
    (served : .served id key stamp value ∈ rest) (usable : P.usable value = true) :
    P.expired now stamp = true := by
  have before : P.Sound (.started started key now :: rest) := sound.suffix
  obtain ⟨⟨covers, -, stale⟩, earlier⟩ := before
  rcases earlier.settled served usable with ⟨-, adjusted, entry, good⟩ |
    ⟨record, member, time, stamped, passed⟩
  · have stale := stale _ entry
    simpa [fresh, good] using stale
  · exact P.expired_mono (covers record member time stamped) le_rfl passed

/-- The record that ends a request. -/
def Ended (id : ℕ) (key : Key) (log : List (Record Key Time Value Arg Err)) : Prop :=
  (∃ stamp value, .served id key stamp value ∈ log) ∨ (∃ e, .failed id key e ∈ log) ∨
    .abandoned id key ∈ log

omit [LinearOrder Time] [DecidableEq Key] in
theorem Ended.cons {id : ℕ} (record : Record Key Time Value Arg Err) (ended : Ended id key log) :
    Ended id key (record :: log) := by
  rcases ended with ⟨stamp, value, member⟩ | ⟨e, member⟩ | member
  · exact .inl ⟨stamp, value, List.mem_cons_of_mem _ member⟩
  · exact .inr (.inl ⟨e, List.mem_cons_of_mem _ member⟩)
  · exact .inr (.inr (List.mem_cons_of_mem _ member))

/-- A request runs until a record of its own ends it. -/
theorem Sound.running_or_ended {id : ℕ} {at' : Time}
    {between : List (Record Key Time Value Arg Err)}
    (sound : P.Sound (between ++ .started id key at' :: rest)) :
    inFlight key (between ++ .started id key at' :: rest) = some id ∨ Ended id key between := by
  induction between with
  | nil => exact .inl (by simp [inFlight])
  | cons record between ih =>
    have follows : P.Follows (between ++ .started id key at' :: rest) record := sound.1
    rcases ih sound.2 with running | ended
    · cases record with
      | started other k now =>
        by_cases same : k = key
        · subst same
          rw [follows.2.1] at running
          cases running
        · exact .inl (by simpa [inFlight, same] using running)
      | served other k now value =>
        by_cases same : k = key
        · subst same
          obtain rfl : other = id := by simpa [running] using follows.2.symm
          exact .inr (.inl ⟨now, value, List.mem_cons_self⟩)
        · exact .inl (by simpa [inFlight, same] using running)
      | failed other k e =>
        by_cases same : k = key
        · subst same
          obtain rfl : other = id := by simpa [running, Follows] using follows.symm
          exact .inr (.inr (.inl ⟨e, List.mem_cons_self⟩))
        · exact .inl (by simpa [inFlight, same] using running)
      | abandoned other k =>
        by_cases same : k = key
        · subst same
          obtain rfl : other = id := by simpa [running, Follows] using follows.symm
          exact .inr (.inr (.inr List.mem_cons_self))
        · exact .inl (by simpa [inFlight, same] using running)
      | answered other k arg now stamp value => exact .inl running
    · exact .inr (ended.cons record)

/-- A request of a key is over before the next one starts. -/
theorem Sound.ended {id started : ℕ} {now at' : Time}
    {between : List (Record Key Time Value Arg Err)}
    (sound : P.Sound (later ++ .started started key now ::
      (between ++ .started id key at' :: rest))) : Ended id key between := by
  have before : P.Sound (.started started key now :: (between ++ .started id key at' :: rest)) :=
    sound.suffix
  rcases before.2.running_or_ended with running | ended
  · rw [before.1.2.1] at running
    cases running
  · exact ended

end Log

section Runs
variable [LinearOrder Time] [DecidableEq Key] {P : ReadThrough Time Value Arg}
  {s s' : State Key Time Value Arg Err}

/-- The state is what the log says. -/
structure Consistent (P : ReadThrough Time Value Arg) (s : State Key Time Value Arg Err) :
    Prop where
  sound : P.Sound s.log
  covers : Covers s.clock s.log
  entries : ∀ key, s.entries.get? key = P.entryOf key s.log
  holders : ∀ key, (s.fetching.get? key).map Prod.fst = inFlight key s.log

theorem Consistent.initial (start : Time) :
    Consistent P (State.initial start : State Key Time Value Arg Err) where
  sound := trivial
  covers := fun _ member => by cases member
  entries := fun _ => rfl
  holders := fun _ => rfl

theorem Consistent.congr {waiting : Dict ℕ (Key × Arg)} {now : Time} (inv : Consistent P s)
    (later : s.clock ≤ now) : Consistent P { s with waiting := waiting, clock := now } :=
  ⟨inv.sound, inv.covers.mono later, inv.entries, inv.holders⟩

theorem look_eq_some {key : Key} {now : Time} {entry : Time × Value}
    (found : P.look s key now = some entry) :
    s.entries.get? key = some entry ∧ P.fresh now entry = true :=
  Option.filter_eq_some_iff.mp found

theorem look_eq_none {key : Key} {now : Time} (missed : P.look s key now = none)
    (entry : Time × Value) (found : s.entries.get? key = some entry) :
    P.fresh now entry = false := by
  unfold look at missed
  rw [found, Option.filter_some] at missed
  simpa using missed

/-- An answer from an entry that the key has. -/
theorem Consistent.answer (inv : Consistent P s) {id : ℕ} {key : Key} {arg : Arg} {now : Time}
    {entry : Time × Value} (later : s.clock ≤ now) (found : s.entries.get? key = some entry)
    (allowed : P.fresh now entry = true ∨
      entry.1 = now ∧ s.log.head? = some (.served id key now entry.2)) :
    Consistent P (P.answer s id key arg now entry) where
  sound := ⟨⟨inv.covers.mono later, entry.2, by rw [← inv.entries, found], rfl, allowed⟩, inv.sound⟩
  covers := inv.covers.cons later fun _ stamped => (Option.some.inj stamped).symm.le
  entries := fun other => by
    simp only [ReadThrough.answer, entryOf, Dict.get?_set]
    by_cases same : other = key
    · subst same
      simp [← inv.entries, found]
    · rw [if_neg same, if_neg (Ne.symm same), inv.entries]
  holders := inv.holders

/-- The holder of a lock gives it back with a record that ends its request. -/
theorem Consistent.release (inv : Consistent P s) {key : Key} {now : Time}
    (record : Record Key Time Value Arg Err) (later : s.clock ≤ now)
    (follows : P.Follows s.log record) (stamped : ∀ time, record.time = some time → time ≤ now)
    {entries : Dict Key (Time × Value)}
    (stored : ∀ other, entries.get? other = P.entryOf other (record :: s.log))
    (ends : ∀ other, inFlight other (record :: s.log) =
      if key = other then none else inFlight other s.log) :
    Consistent P { s with clock := now, entries := entries, fetching := s.fetching.pop key,
                          log := record :: s.log } where
  sound := ⟨follows, inv.sound⟩
  covers := inv.covers.cons later stamped
  entries := stored
  holders := fun other => by
    rw [ends, ← inv.holders, Dict.get?_pop]
    by_cases same : other = key
    · simp [same]
    · rw [if_neg same, if_neg (Ne.symm same)]

theorem Consistent.inFlight_eq (inv : Consistent P s) {key : Key} {holder : ℕ × Arg}
    (holds : s.fetching.get? key = some holder) : inFlight key s.log = some holder.1 := by
  rw [← inv.holders, holds]
  rfl

theorem Consistent.call (inv : Consistent P s) {id : ℕ} {key : Key} {arg : Arg} {now : Time}
    (taken : P.call s id key arg now = some s') : Consistent P s' := by
  unfold ReadThrough.call at taken
  split at taken
  · rename_i guard
    split at taken
    · rename_i entry looked
      have found : P.look s key now = some entry := by
        split at looked
        · exact looked
        · cases looked
      obtain ⟨stored, recent⟩ := look_eq_some found
      cases taken
      exact inv.answer guard.1 stored (.inl recent)
    · cases taken
      exact inv.congr guard.1
  · cases taken

theorem Consistent.acquire (inv : Consistent P s) {id : ℕ} {now : Time}
    (taken : P.acquire s id now = some s') : Consistent P s' := by
  unfold ReadThrough.acquire at taken
  split at taken
  · cases taken
  · rename_i key arg waits
    split at taken
    · rename_i guard
      obtain ⟨later, free⟩ := guard
      have idle : inFlight key s.log = none := by rw [← inv.holders, free]; rfl
      dsimp only at taken
      split at taken
      · rename_i entry found
        obtain ⟨stored, recent⟩ := look_eq_some found
        cases taken
        have left : Consistent P { s with waiting := s.waiting.pop id } := inv.congr le_rfl
        exact left.answer later stored (.inl recent)
      · rename_i missed
        cases taken
        refine ⟨⟨⟨inv.covers.mono later, idle, fun entry found => ?_⟩, inv.sound⟩, ?_, ?_, ?_⟩
        · exact look_eq_none missed entry ((inv.entries key).trans found)
        · exact inv.covers.cons later fun _ stamped => (Option.some.inj stamped).symm.le
        · exact inv.entries
        · intro other
          simp only [inFlight, Dict.get?_set]
          by_cases same : other = key
          · simp [same]
          · rw [if_neg same, if_neg (Ne.symm same), inv.holders]
    · cases taken

theorem Consistent.reply (inv : Consistent P s) {key : Key} {now : Time} {result : Except Err Value}
    (taken : P.reply s key now result = some s') : Consistent P s' := by
  unfold ReadThrough.reply at taken
  split at taken
  · cases taken
  · rename_i id arg holds
    have running := inv.inFlight_eq holds
    split at taken
    · rename_i later
      cases result with
      | error e =>
        cases taken
        exact inv.release (.failed id key e) later running (fun _ stamped => by cases stamped)
          inv.entries fun other => rfl
      | ok value =>
        cases taken
        -- The value is stored before the call is answered from it.
        have stored : Consistent P { s with
            clock := now, entries := s.entries.set key (now, value),
            fetching := s.fetching.pop key, log := .served id key now value :: s.log } := by
          apply inv.release (.served id key now value) later
          · exact ⟨inv.covers.mono later, running⟩
          · exact fun _ stamped => (Option.some.inj stamped).symm.le
          · intro other
            simp only [entryOf, Dict.get?_set]
            by_cases same : other = key
            · simp [same]
            · rw [if_neg same, if_neg (Ne.symm same), inv.entries]
          · exact fun other => rfl
        exact stored.answer le_rfl (Dict.get?_set_self _ _ _) (.inr ⟨rfl, rfl⟩)
    · cases taken

theorem Consistent.step (inv : Consistent P s) {event : Event Key Time Value Arg Err}
    (taken : P.step s event = some s') : Consistent P s' := by
  cases event with
  | call id key arg now => exact inv.call taken
  | acquire id now => exact inv.acquire taken
  | reply key now result => exact inv.reply taken
  | leave id =>
    cases taken
    exact inv.congr le_rfl
  | abort key =>
    simp only [ReadThrough.step, ReadThrough.abort] at taken
    split at taken
    · cases taken
    · rename_i id arg holds
      cases taken
      exact inv.release (.abandoned id key) le_rfl (inv.inFlight_eq holds)
        (fun _ stamped => by cases stamped) inv.entries fun other => rfl

theorem consistent_reachable {start : Time}
    (run : Reachable (P.system start) anyStep s) : Consistent P s :=
  run.invariant (.initial start) fun _ _ _ _ before _ taken => before.step taken

omit [LinearOrder Time] in
/-- A request runs for the call that started it. -/
theorem exists_started {key : Key} {id : ℕ} {log : List (Record Key Time Value Arg Err)}
    (running : inFlight key log = some id) :
    ∃ between now rest, log = between ++ .started id key now :: rest := by
  induction log with
  | nil => cases running
  | cons record log ih =>
    have front (earlier : inFlight key log = some id) :
        ∃ between now rest, record :: log = between ++ .started id key now :: rest := by
      obtain ⟨between, now, rest, rfl⟩ := ih earlier
      exact ⟨record :: between, now, rest, rfl⟩
    cases record with
    | started other k now =>
      simp only [inFlight] at running
      split at running
      · rename_i same
        subst same
        cases running
        exact ⟨[], now, log, rfl⟩
      · exact front running
    | answered => exact front running
    | served | failed | abandoned =>
      simp only [inFlight] at running
      split at running
      · cases running
      · exact front running

theorem foldr_unadjusted (kept : ∀ arg value, P.adjust arg value = value) (args : List Arg)
    (value : Value) : args.foldr P.adjust value = value := by
  induction args with
  | nil => rfl
  | cons arg args ih => rw [List.foldr_cons, ih, kept]

/-- What the calls get from the cache, and when it issues requests. -/
structure Shared (P : ReadThrough Time Value Arg) (log : List (Record Key Time Value Arg Err)) :
    Prop where
  oneAtATime : ∀ later between rest started id key now at',
    log = later ++ .started started key now :: (between ++ .started id key at' :: rest) →
      Ended id key between
  apart : ∀ later rest started id key now stamp value,
    log = later ++ .started started key now :: rest → .served id key stamp value ∈ rest →
      P.usable value = true → P.expired now stamp = true
  given : ∀ later rest id key arg now stamp value,
    log = later ++ .answered id key arg now stamp value :: rest →
      (stamp = now ∨ P.expired now stamp = false) ∧ ∃ since other served before,
        rest = since ++ .served other key stamp served :: before ∧
        (∀ record ∈ since, record.serves key = false) ∧
        value = (arg :: argsOf key since).foldr P.adjust served
  told : ∀ later rest id key e, log = later ++ .failed id key e :: rest →
    ∃ between now before, rest = between ++ .started id key now :: before

theorem shared_reachable {start : Time} (run : Reachable (P.system start) anyStep s) :
    Shared P s.log := by
  have sound := (consistent_reachable run).sound
  refine ⟨?_, ?_, ?_, ?_⟩
  · intro later between rest started id key now at' split
    rw [split] at sound
    exact sound.ended
  · intro later rest started id key now stamp value split served usable
    rw [split] at sound
    exact sound.spaced served usable
  · intro later rest id key arg now stamp value split
    rw [split] at sound
    obtain ⟨-, given, entry, adjusted, recent⟩ := sound.follows
    obtain ⟨since, other, served, before, split, others, folded⟩ := entryOf_eq_some entry
    refine ⟨?_, since, other, served, before, split, others, ?_⟩
    · rcases recent with recent | ⟨same, -⟩
      · simp only [fresh, Bool.and_eq_true, Bool.not_eq_true'] at recent
        exact .inr recent.2
      · exact .inl same
    · rw [adjusted, folded, List.foldr_cons]
  · intro later rest id key e split
    rw [split] at sound
    exact exists_started sound.follows

end Runs

section Ttl
variable [AddCommGroup Time] [LinearOrder Time] [IsOrderedAddMonoid Time]

/-- Entries that are good for a fixed time. -/
def ofTtl (looksFirst : Bool) (ttl : Time) (adjust : Arg → Value → Value) :
    ReadThrough Time Value Arg where
  looksFirst := looksFirst
  expired := fun now stamp => ttl ≤ now - stamp
  usable := fun _ => true
  adjust := adjust
  expired_mono := fun later earlier passed =>
    decide_eq_true ((of_decide_eq_true passed).trans (sub_le_sub later earlier))
  adjust_usable := fun good => good

end Ttl
end ReadThrough
end ExchangeRouter.Lib
