import ExchangeRouter.Lib.Ladder
import ExchangeRouter.Lib.Stream
import Mathlib.Data.List.Induction

/-!
# Following a sequenced order book

The sender of a feed sends snapshots and deltas; each carries an id that
identifies the book after it, and a delta names the id it continues.  The
follower is delivered some of these messages.  It keeps the id of the last one
and gives up at a delta that continues another, so what it shows is the
sender's book at the message it has just processed, whatever was lost.
-/
namespace ExchangeRouter.Lib

universe u v w x

/-- How the messages of a feed are read. -/
structure Protocol (μ : Type u) (P : Type v) (Q : Type w) (Id : Type x) where
  snapshot : μ → Bool
  id : μ → Option Id
  /-- The id that a delta continues. -/
  previous : μ → Option Id
  bids : μ → List (P × Q)
  asks : μ → List (P × Q)
  parses : μ → Bool

@[ext] structure Book (P : Type v) (Q : Type w) where
  bids : P → Q
  asks : P → Q

/-- The book kept by a follower, and the id of the last message it processed. -/
structure Replica (P : Type v) (Q : Type w) (Id : Type x) where
  bids : Dict P Q
  asks : Dict P Q
  last : Option Id
  bootstrapped : Bool
  deriving DecidableEq

/-- The levels shown of a book. -/
structure Ladders (P : Type v) (Q : Type w) where
  bids : List (P × Q)
  asks : List (P × Q)
  deriving DecidableEq

variable {μ : Type u} {P : Type v} {Q : Type w} {Id : Type x}

def Book.empty [Zero Q] : Book P Q := ⟨fun _ => 0, fun _ => 0⟩

/-- The best levels of a book whose quantities are multiplied. -/
structure Top [LT P] [MulZeroClass Q] (factor : Q) (depth : Nat) (book : Book P Q)
    (shown : Ladders P Q) : Prop where
  bids : Best (· > ·) depth (fun p => book.bids p * factor) shown.bids
  asks : Best (· < ·) depth (fun p => book.asks p * factor) shown.asks

namespace Replica

def init : Replica P Q Id := ⟨.empty, .empty, none, false⟩

variable [DecidableEq P] [DecidableEq Q] [MulZeroClass Q]

def Represents (factor : Q) (s : Replica P Q Id) (book : Book P Q) : Prop :=
  s.bids.Represents factor book.bids ∧ s.asks.Represents factor book.asks

/-- A replica that represents a book shows its top. -/
theorem Represents.top [LinearOrder P] [NoZeroDivisors Q] {factor : Q} (nonzero : factor ≠ 0)
    {s : Replica P Q Id} {book : Book P Q} (h : s.Represents factor book) (depth : Nat) :
    Top factor depth book ⟨s.bids.best (· > ·) depth, s.asks.best (· < ·) depth⟩ :=
  ⟨h.1.best _ nonzero depth, h.2.best _ nonzero depth⟩

end Replica

namespace Protocol
variable (feed : Protocol μ P Q Id)

/-- A snapshot replaces the book, a delta changes it. -/
def apply [DecidableEq P] [Zero Q] (book : Book P Q) (m : μ) : Book P Q :=
  let book := if feed.snapshot m then .empty else book
  ⟨setLevels book.bids (feed.bids m), setLevels book.asks (feed.asks m)⟩

def bookAfter [DecidableEq P] [Zero Q] (messages : List μ) : Book P Q :=
  messages.foldl feed.apply .empty

theorem bookAfter_append [DecidableEq P] [Zero Q] (earlier later : List μ) :
    feed.bookAfter (earlier ++ later) = later.foldl feed.apply (feed.bookAfter earlier) := by
  rw [bookAfter, List.foldl_append, bookAfter]

/-- What came before a snapshot leaves no trace. -/
theorem bookAfter_snapshot [DecidableEq P] [Zero Q] {m : μ} (snapshot : feed.snapshot m = true)
    (earlier later : List μ) :
    feed.bookAfter (earlier ++ m :: later) = feed.bookAfter (m :: later) := by
  have reset : ∀ book, feed.apply book m = feed.apply .empty m := fun book => by
    simp [apply, snapshot]
  rw [bookAfter_append, List.foldl_cons, reset, ← List.foldl_cons, bookAfter]

/-- The ids of what the sender sends. -/
structure Sequenced [DecidableEq P] [Zero Q] (upstream : List μ) : Prop where
  present : ∀ m ∈ upstream, (feed.id m).isSome
  linked : ∀ earlier m m', earlier ++ [m, m'] <+: upstream → feed.snapshot m' = false →
    feed.previous m' = feed.id m
  identifies : ∀ earlier m earlier' m', earlier ++ [m] <+: upstream → earlier' ++ [m'] <+: upstream →
    feed.id m = feed.id m' → feed.bookAfter (earlier ++ [m]) = feed.bookAfter (earlier' ++ [m'])

/-- A sender that numbers its messages. -/
theorem sequenced_of_numbered [DecidableEq P] [Zero Q] {upstream : List μ} (number : Nat → Id)
    (distinct : Function.Injective number)
    (ids : ∀ i m, upstream[i]? = some m → feed.id m = some (number i))
    (links : ∀ i m, upstream[i + 1]? = some m → feed.snapshot m = false →
      feed.previous m = some (number i)) : feed.Sequenced upstream where
  present := fun m member => by
    obtain ⟨i, at'⟩ := List.mem_iff_getElem?.mp member
    rw [ids i m at']
    rfl
  linked := fun earlier m m' sent delta => by
    obtain ⟨rest, rfl⟩ := sent
    rw [ids earlier.length m (by simp), links earlier.length m' (by simp) delta]
  identifies := fun earlier m earlier' m' sent sent' same => by
    have place : upstream[earlier.length]? = some m := by
      obtain ⟨rest, rfl⟩ := sent
      simp
    have place' : upstream[earlier'.length]? = some m' := by
      obtain ⟨rest, rfl⟩ := sent'
      simp
    rw [ids _ m place, ids _ m' place', Option.some_inj] at same
    have equal : (earlier ++ [m]).length = (earlier' ++ [m']).length := by
      simp [distinct same]
    rw [(List.prefix_iff_eq_take.mp sent), (List.prefix_iff_eq_take.mp sent'), equal]

/-- The delta continues another message than the last one processed. -/
def gap [DecidableEq Id] (s : Replica P Q Id) (m : μ) : Bool :=
  match s.last, feed.previous m with
  | some last, some previous => !feed.snapshot m && last ≠ previous
  | _, _ => false

/-- The replica before the levels of a message are applied. -/
def receive (s : Replica P Q Id) (m : μ) : Replica P Q Id :=
  if feed.snapshot m then ⟨.empty, .empty, feed.id m, true⟩ else { s with last := feed.id m }

theorem receive_last (s : Replica P Q Id) (m : μ) : (feed.receive s m).last = feed.id m := by
  unfold receive
  split <;> rfl

theorem receive_bootstrapped (s : Replica P Q Id) (m : μ) :
    (feed.receive s m).bootstrapped = (s.bootstrapped || feed.snapshot m) := by
  unfold receive
  split <;> simp_all

variable [DecidableEq Q] [MulZeroClass Q]

def update [DecidableEq P] (factor : Q) (s : Replica P Q Id) (m : μ) : Replica P Q Id :=
  { feed.receive s m with
    bids := (feed.receive s m).bids.setLevels factor (feed.bids m)
    asks := (feed.receive s m).asks.setLevels factor (feed.asks m) }

variable [LinearOrder P] [DecidableEq Id]

def follow (factor : Q) (depth : Nat) (s : Replica P Q Id) (m : μ) :
    List (Ladders P Q) × Option (Replica P Q Id) :=
  if feed.gap s m then ([], none)
  else if (feed.receive s m).bootstrapped then
    if feed.parses m then
      let s := feed.update factor s m
      ([⟨s.bids.best (· > ·) depth, s.asks.best (· < ·) depth⟩], some s)
    else ([], none)
  else ([], some (feed.receive s m))

def follower (factor : Q) (depth : Nat) : Stream (Replica P Q Id) μ (Ladders P Q) :=
  ⟨.init, feed.follow factor depth⟩

variable {feed} {factor : Q} {depth : Nat} {s s' : Replica P Q Id} {m : μ}

/-- What is left after a message: the end of the stream, or a replica with its
id. -/
theorem follow_some (moved : (feed.follow factor depth s m).2 = some s') :
    feed.gap s m = false ∧
      ((s' = feed.receive s m ∧ s'.bootstrapped = false) ∨
        (s' = feed.update factor s m ∧ s'.bootstrapped = true ∧ feed.parses m = true)) := by
  unfold follow at moved
  split at moved
  · cases moved
  · rename_i continues
    refine ⟨by simpa using continues, ?_⟩
    split at moved
    · rename_i bootstrapped
      split at moved
      · cases moved
        exact Or.inr ⟨rfl, bootstrapped, ‹_›⟩
      · cases moved
    · rename_i waiting
      cases moved
      exact Or.inl ⟨rfl, by simpa using waiting⟩

theorem follow_isSome_iff : (feed.follow factor depth s m).2.isSome ↔
    feed.gap s m = false ∧ ((feed.receive s m).bootstrapped = true → feed.parses m = true) := by
  unfold follow
  split
  · simp_all
  · split
    · split <;> simp_all
    · simp_all

theorem length_follow_le : (feed.follow factor depth s m).1.length ≤ 1 := by
  unfold follow
  split
  · exact Nat.zero_le _
  · split
    · split
      · exact le_rfl
      · exact Nat.zero_le _
    · exact Nat.zero_le _

theorem mem_follow {shown : Ladders P Q} (output : shown ∈ (feed.follow factor depth s m).1) :
    (feed.follow factor depth s m).2 = some (feed.update factor s m) ∧
      (feed.receive s m).bootstrapped = true ∧
      shown = ⟨(feed.update factor s m).bids.best (· > ·) depth,
        (feed.update factor s m).asks.best (· < ·) depth⟩ := by
  unfold follow at output ⊢
  split at output
  · cases output
  · split at output
    · split at output
      · rename_i continues bootstrapped parses
        simp only [List.mem_singleton] at output
        simp [continues, bootstrapped, parses, output]
      · cases output
    · cases output

omit [DecidableEq Id] in
/-- A message keeps a replica of the book before it a replica of the book
after it; a snapshot needs none. -/
theorem update_represents {book : Book P Q} (h : feed.snapshot m = false → s.Represents factor book) :
    (feed.update factor s m).Represents factor (feed.apply book m) := by
  unfold update receive apply
  cases snapshot : feed.snapshot m with
  | true =>
    exact ⟨(Dict.represents_empty factor).setLevels _, (Dict.represents_empty factor).setLevels _⟩
  | false =>
    obtain ⟨bids, asks⟩ := h snapshot
    exact ⟨bids.setLevels _, asks.setLevels _⟩

/-- What a replica knows of the sender after the messages it has read. -/
structure Tracks (feed : Protocol μ P Q Id) (factor : Q) (upstream read : List μ)
    (s : Replica P Q Id) : Prop where
  last : s.last = read.getLast?.bind feed.id
  bootstrapped : s.bootstrapped = read.any feed.snapshot
  book : s.bootstrapped = true → ∀ earlier m, earlier ++ [m] <+: upstream →
    feed.id m = s.last → s.Represents factor (feed.bookAfter (earlier ++ [m]))

omit [DecidableEq Id] in
theorem Tracks.init (upstream : List μ) : Tracks feed factor upstream [] .init where
  last := rfl
  bootstrapped := rfl
  book := fun bootstrapped => by cases bootstrapped

section sequenced
variable {upstream read front : List μ}

/-- A delta passes if it continues the last message read. -/
theorem Tracks.gap_iff (tracks : Tracks feed factor upstream read s)
    (sequenced : feed.Sequenced upstream) (delivered : read.Sublist front)
    (sent : front ++ [m] <+: upstream) : feed.gap s m = false ↔
      feed.snapshot m = true ∨ ∀ m₀ ∈ read.getLast?, feed.previous m = feed.id m₀ := by
  unfold gap
  rw [tracks.last]
  cases lastRead : read.getLast? with
  | none => simp
  | some m₀ =>
    have member : m₀ ∈ upstream := by
      have inFront := delivered.subset (List.mem_of_getLast? lastRead)
      exact sent.subset (List.mem_append_left _ inFront)
    obtain ⟨i, known⟩ := Option.isSome_iff_exists.mp (sequenced.present m₀ member)
    cases snapshot : feed.snapshot m with
    | true => cases feed.previous m <;> simp [known]
    | false =>
      cases previous : feed.previous m with
      | none =>
        have nonempty : front ≠ [] := by
          rintro rfl
          rw [List.sublist_nil.mp delivered] at lastRead
          cases lastRead
        obtain ⟨earlier, m₁, rfl⟩ := List.eq_nil_or_concat' front |>.resolve_left nonempty
        have linked := sequenced.linked earlier m₁ m (by simpa using sent) snapshot
        have present := sequenced.present m₁ (sent.subset (by simp))
        rw [← linked, previous] at present
        cases present
      | some p =>
        have swap : i = p ↔ p = i := eq_comm
        simp [known, swap]

/-- The replica after a delivered message tracks the sender again. -/
theorem Tracks.step (tracks : Tracks feed factor upstream read s)
    (sequenced : feed.Sequenced upstream) (delivered : read.Sublist front)
    (sent : front ++ [m] <+: upstream)
    (moved : (feed.follow factor depth s m).2 = some s') :
    Tracks feed factor upstream (read ++ [m]) s' := by
  obtain ⟨continues, shape⟩ := follow_some moved
  have last : s'.last = feed.id m := by
    rcases shape with ⟨rfl, -⟩ | ⟨rfl, -⟩
    · exact feed.receive_last s m
    · exact feed.receive_last s m
  have bootstrapped : s'.bootstrapped = (s.bootstrapped || feed.snapshot m) := by
    rcases shape with ⟨rfl, -⟩ | ⟨rfl, -⟩
    · exact feed.receive_bootstrapped s m
    · exact feed.receive_bootstrapped s m
  refine ⟨by simp [last], by simp [bootstrapped, tracks.bootstrapped], ?_⟩
  intro ready earlier m' sent' same
  rcases shape with ⟨-, waiting⟩ | ⟨rfl, -, -⟩
  · rw [ready] at waiting
    cases waiting
  rw [sequenced.identifies earlier m' front m sent' sent (same.trans last), bookAfter,
    List.foldl_concat]
  refine update_represents fun delta => ?_
  -- a delta that passes continues the last message sent before it
  have begun : s.bootstrapped = true := by simpa [bootstrapped, delta] using ready
  have nonempty : read ≠ [] := by
    rintro rfl
    rw [tracks.bootstrapped] at begun
    cases begun
  obtain ⟨before, m₁, rfl⟩ := List.eq_nil_or_concat' front |>.resolve_left fun none =>
    nonempty (List.sublist_nil.mp (none ▸ delivered))
  have linked := sequenced.linked before m₁ m (by simpa using sent) delta
  obtain ⟨m₀, lastRead⟩ := Option.isSome_iff_exists.mp (List.getLast?_isSome.mpr nonempty)
  have continued := (tracks.gap_iff sequenced delivered sent).mp continues
  rw [delta] at continued
  have previous := (continued.resolve_left Bool.false_ne_true) m₀ lastRead
  have reached : before ++ [m₁] <+: upstream := by
    simpa using (List.prefix_append _ _).trans sent
  refine tracks.book begun before m₁ reached ?_
  rw [tracks.last, lastRead, Option.bind_some, ← previous, linked]

/-- A delivered message has a place in what was sent, and what was delivered
before it was sent before it. -/
theorem sent_of_delivered (delivered : (read ++ [m]).Sublist upstream) :
    ∃ front, front ++ [m] <+: upstream ∧ read.Sublist front := by
  obtain ⟨early, late, rfl, inEarly, inLate⟩ := List.append_sublist_iff.mp delivered
  obtain ⟨skipped, rest, rfl⟩ := List.append_of_mem (List.singleton_sublist.mp inLate)
  exact ⟨early ++ skipped, ⟨rest, by simp⟩, inEarly.trans (List.sublist_append_left _ _)⟩

theorem tracks_after (sequenced : feed.Sequenced upstream) (delivered : read.Sublist upstream)
    (reached : (feed.follower factor depth).after .init read = some s) :
    Tracks feed factor upstream read s := by
  induction read using List.reverseRecOn generalizing s with
  | nil =>
    cases reached
    exact .init upstream
  | append_singleton read m ih =>
    rw [Stream.after_concat] at reached
    obtain ⟨s₀, earlier, moved⟩ := Option.bind_eq_some_iff.mp reached
    obtain ⟨front, sent, inFront⟩ := sent_of_delivered delivered
    have tracks := ih ((List.sublist_append_left _ _).trans delivered) earlier
    exact tracks.step sequenced inFront sent moved

end sequenced

/-- What a generator shows of a sender's book when some messages are lost: only
the book at the message just processed, nothing before a snapshot, and its end
at the first delta that does not continue the message before. -/
structure NeverCorrupted {σ : Type*} {β : Type*} (feed : Protocol μ P Q Id) (factor : Q)
    (depth : Nat) (T : Stream σ μ β) (shown : β → Ladders P Q) (upstream delivered : List μ) :
    Prop where
  exact : ∀ m output, (m, output) ∈ T.yields T.init delivered →
    ∀ earlier m', earlier ++ [m'] <+: upstream → feed.id m' = feed.id m →
      Top factor depth (feed.bookAfter (earlier ++ [m'])) (shown output)
  silent : ∀ read, read <+: delivered → (∀ m ∈ read, feed.snapshot m = false) →
    T.yields T.init read = []
  ends : ∀ read m, read ++ [m] <+: delivered →
    ((T.after T.init (read ++ [m])).isSome ↔ (T.after T.init read).isSome ∧
      (feed.snapshot m = true ∨ ∀ m₀ ∈ read.getLast?, feed.previous m = feed.id m₀) ∧
      ((∃ x ∈ read ++ [m], feed.snapshot x = true) → feed.parses m = true))

omit [DecidableEq Q] [DecidableEq Id] in
theorem NeverCorrupted.render {σ β γ : Type*} {T : Stream σ μ β} {shown : β → Ladders P Q}
    {upstream delivered : List μ}
    (h : NeverCorrupted feed factor depth T shown upstream delivered) (f : μ → β → γ)
    {shown' : γ → Ladders P Q} (same : ∀ m b, shown' (f m b) = shown b) :
    NeverCorrupted feed factor depth (T.render f) shown' upstream delivered where
  exact := fun m output member earlier m' sent equal => by
    obtain ⟨b, own, rfl⟩ := T.mem_render_yields member
    rw [same]
    exact h.exact m b own earlier m' sent equal
  silent := fun read prefix' deltas => by
    refine List.eq_nil_iff_forall_not_mem.mpr fun ⟨m, output⟩ member => ?_
    obtain ⟨b, own, -⟩ := T.mem_render_yields member
    have nothing := h.silent read prefix' deltas
    rw [Stream.render_init, nothing] at own
    cases own
  ends := fun read m prefix' => by
    simpa only [Stream.render_after, Stream.render_init] using h.ends read m prefix'

theorem follower_neverCorrupted [NoZeroDivisors Q] {upstream delivered : List μ}
    (nonzero : factor ≠ 0) (sequenced : feed.Sequenced upstream)
    (received : delivered.Sublist upstream) :
    NeverCorrupted feed factor depth (feed.follower factor depth) (fun shown => shown) upstream
      delivered where
  exact := fun m shown output earlier m' sent' same => by
    obtain ⟨read, late, s, rfl, reached, output⟩ := (Stream.mem_yields _).mp output
    obtain ⟨moved, ready, rfl⟩ := mem_follow output
    have upto : (read ++ [m]).Sublist upstream := by
      refine List.Sublist.trans ?_ received
      exact (List.append_sublist_append_left _).mpr (List.singleton_sublist.mpr List.mem_cons_self)
    obtain ⟨front, sent, inFront⟩ := sent_of_delivered upto
    have tracks := tracks_after sequenced ((List.sublist_append_left _ _).trans upto) reached
    have next := tracks.step sequenced inFront sent moved
    have represents := next.book ready earlier m' sent' (same.trans (feed.receive_last s m).symm)
    exact represents.top nonzero depth
  silent := fun read prefix' deltas => by
    refine List.eq_nil_iff_forall_not_mem.mpr fun ⟨m, shown⟩ output => ?_
    obtain ⟨first, late, s, rfl, reached, output⟩ := (Stream.mem_yields _).mp output
    obtain ⟨-, ready, -⟩ := mem_follow output
    have tracks := tracks_after sequenced
      ((List.sublist_append_left _ _).trans (prefix'.sublist.trans received)) reached
    have quiet : first.any feed.snapshot = false := by
      rw [List.any_eq_false]
      exact fun x member => by simp [deltas x (List.mem_append_left _ member)]
    rw [receive_bootstrapped, tracks.bootstrapped, quiet, deltas m (by simp)] at ready
    cases ready
  ends := fun read m prefix' => by
    rw [Stream.after_concat]
    cases reached : (feed.follower factor depth).after (feed.follower factor depth).init read with
    | none => simp
    | some s =>
      have upto := prefix'.sublist.trans received
      obtain ⟨front, sent, inFront⟩ := sent_of_delivered upto
      have tracks := tracks_after sequenced ((List.sublist_append_left _ _).trans upto) reached
      have alive : ((feed.follower factor depth).step s m).2.isSome ↔ _ := follow_isSome_iff
      rw [Option.bind_some, alive, tracks.gap_iff sequenced inFront sent, receive_bootstrapped,
        tracks.bootstrapped]
      simp [or_and_right, exists_or]

end Protocol
end ExchangeRouter.Lib
