import ExchangeRouter.OrderBooks.Loss
import ExchangeRouter.Streams.Feeds

/-!
# Order books, from the exchange to the clients

The order book streams of Bybit and OKX behind the hubs and the stream manager.
Queues overflow, connections are replaced, clients are slow: each book that is
sent to a client is still the exchange's book at some message, and the messages
of successive books are in the exchange's order.
-/
namespace ExchangeRouter.Streams
open Lib StreamHub StreamManager OrderBooks

variable {Hub Topic Payload Msg Key Socket Item σ τ μ ν : Type}

/-- The key is opened on one topic, by a generator that reads the messages as frames, does with
them what `books` does, and yields the books in their wire form. -/
def ServesBooks (opens : Key → Hub → Topic → Stream σ Msg Item → Prop) (key : Key) (topic : Topic)
    (frame : Msg → μ) (wire : OrderBook → Item) (books : Stream τ μ OrderBook) : Prop :=
  ∀ i own generator, opens key i own generator → own = topic ∧
    ∀ messages, outputs generator messages = (outputs books (messages.map frame)).map wire

/-- The frames of a topic that the hubs routed are part of what the exchange sends. -/
def SentBy [DecidableEq Topic] (upstream : Hub → List μ) (topic : Topic) (frame : Msg → μ)
    (s : State Hub Topic Payload Msg Key Socket Item σ) : Prop :=
  ∀ i, ((messagesSince (s.hubs i).routed topic 0).map fun a => frame a.msg).Sublist (upstream i)

/-- Each book is the exchange's at a message, and the messages are in the exchange's order. -/
def BooksOf (feed : Protocol ν ℚ ℚ ℤ) (factor : ℚ) (depth : ℕ) (wire : OrderBook → Item)
    (upstream : List ν) (attempts : List (HandlerId × ℕ × Item)) : Prop :=
  ∃ processed : List ν, processed.Sublist upstream ∧ List.Forall₂ (fun m sent =>
    ∃ book : OrderBook, sent.2.2 = wire book ∧
      ∀ earlier m', earlier ++ [m'] <+: upstream → feed.id m' = feed.id m →
        Top factor depth (feed.bookAfter (earlier ++ [m'])) book.ladders) processed attempts

theorem booksOf_segment {feed : Protocol ν ℚ ℚ ℤ} {factor : ℚ} {depth : ℕ}
    {books : Stream τ ν OrderBook} {wire : OrderBook → Item} {upstream items : List ν}
    (received : items.Sublist upstream)
    (exact : feed.NeverCorrupted factor depth books OrderBook.ladders upstream items)
    (single : ∀ s m, (books.step s m).1.length ≤ 1) {h : HandlerId}
    {attempts : List (HandlerId × ℕ × Item)}
    (segment : attempts <:+: ((outputs books items).map wire).zipIdx.map
      fun e => (h, e.2, e.1)) : BooksOf feed factor depth wire upstream attempts := by
  rw [outputs, List.map_map, List.zipIdx_map, List.map_map] at segment
  obtain ⟨part, inside, rfl⟩ := List.infix_map_iff.mp segment
  have yielded : (part.map Prod.fst).Sublist (books.yields books.init items) := by
    have firsts := inside.map Prod.fst
    rw [List.zipIdx_map_fst] at firsts
    exact firsts.sublist
  refine ⟨(part.map Prod.fst).map Prod.fst, ?_, ?_⟩
  · exact ((yielded.map Prod.fst).trans (books.yields_sublist single _ _)).trans received
  · rw [List.map_map, List.forall₂_map_left_iff, List.forall₂_map_right_iff, List.forall₂_same]
    intro e member
    refine ⟨e.1.2, rfl, fun earlier m' sent same => ?_⟩
    have output : (e.1.1, e.1.2) ∈ books.yields books.init items :=
      yielded.subset (List.mem_map_of_mem member)
    exact exact.exact _ _ output earlier m' sent same

theorem bybit_single (ctx : Bybit.Context) (s : OrderBooks.Locals) (m : Bybit.Frame) :
    ((Bybit.streamOrderbook ctx).step s m).1.length ≤ 1 := by
  rw [Bybit.streamOrderbook_eq, Stream.render_step, List.length_map]
  exact Protocol.length_follow_le

theorem okx_single (ctx : Okx.Context) (qtyMult : ℚ) (s : OrderBooks.Locals)
    (item : Option String × Okx.Item) : ((Okx.loop ctx qtyMult).step s item).1.length ≤ 1 := by
  rw [Okx.loop_eq, Stream.render_step, List.length_map]
  exact Protocol.length_follow_le

theorem okx_outputs {ctx : Okx.Context} {books : Stream OrderBooks.Locals Okx.Frame OrderBook}
    (opened : Okx.streamOrderbook ctx = some books) :
    ∃ qtyMult, ctx.qtyMult = some qtyMult ∧ ∀ frames,
      outputs books frames = outputs (Okx.loop ctx qtyMult) (frames.flatMap Okx.Frame.items) := by
  obtain ⟨qtyMult, multiplier, rfl⟩ := Option.map_eq_some_iff.mp opened
  refine ⟨qtyMult, multiplier, fun frames => ?_⟩
  exact (Okx.loop ctx qtyMult).batch_yields Okx.Frame.items .init frames

variable [DecidableEq Hub] [DecidableEq Topic] [DecidableEq Key] {maxsize : Hub → ℕ}
  {opens : Key → Hub → Topic → Stream σ Msg Item → Prop}
  {s : State Hub Topic Payload Msg Key Socket Item σ}

/-- The sends to a client of a book stream are made of a part of what the exchange sends. -/
theorem books_fed (positive : ∀ i, 1 ≤ maxsize i)
    (run : Reachable system (Opened maxsize opens) s) {c : ClientId} {sub : Subscription Key Socket}
    (known : s.manager.subscriptions.get? c = some sub) {topic : Topic} {frame : Msg → μ}
    {wire : OrderBook → Item} {books : Stream τ μ OrderBook}
    (serves : ServesBooks opens sub.key topic frame wire books) {upstream : Hub → List μ}
    (sent : SentBy upstream topic frame s) :
    attemptsOn c s.manager.history = [] ∨ ∃ i delivered, delivered.Sublist (upstream i) ∧
      attemptsOn c s.manager.history <:+:
        ((outputs books delivered).map wire).zipIdx.map (fun e => (sub.handler, e.2, e.1)) := by
  rcases clients_fed positive run c with nothing |
    ⟨own, consumer, call, since, found, -, -, opened, -, segment, part, -⟩
  · exact .inl nothing
  · right
    cases known.symm.trans found
    obtain ⟨rfl, same⟩ := serves _ _ _ opened
    rw [same, messagesTaken, List.map_map] at segment
    refine ⟨consumer.hub, _, ?_, segment⟩
    refine ((part.trans ?_).map _).trans (sent consumer.hub)
    rw [messagesSince, messagesSince, List.drop_zero]
    exact ((List.drop_sublist since _).filter _).map Prod.snd

/-- Each book sent to a client of a Bybit or OKX book stream is the exchange's book at a message
of the exchange, and the books follow the order of the messages, whatever was lost in between. -/
theorem clients_see_books (positive : ∀ i, 1 ≤ maxsize i)
    (run : Reachable system (Opened maxsize opens) s) {c : ClientId} {sub : Subscription Key Socket}
    (known : s.manager.subscriptions.get? c = some sub) (topic : Topic) (wire : OrderBook → Item) :
    (∀ (ctx : Bybit.Context) (frame : Msg → Bybit.Frame) (upstream : Hub → List Bybit.Frame),
      ServesBooks opens sub.key topic frame wire (Bybit.streamOrderbook ctx) →
      SentBy upstream topic frame s → (∀ i, Bybit.protocol.Sequenced (upstream i)) →
      attemptsOn c s.manager.history = [] ∨ ∃ i, BooksOf Bybit.protocol 1 ctx.depth wire
        (upstream i) (attemptsOn c s.manager.history)) ∧
    ∀ (ctx : Okx.Context) (frame : Msg → Okx.Frame) (upstream : Hub → List Okx.Frame) (books),
      Okx.streamOrderbook ctx = some books → ctx.qtyMult ≠ some 0 →
      ServesBooks opens sub.key topic frame wire books → SentBy upstream topic frame s →
      (∀ i, (Okx.protocol ctx).Sequenced ((upstream i).flatMap Okx.Frame.items)) →
      attemptsOn c s.manager.history = [] ∨ ∃ i qtyMult, ctx.qtyMult = some qtyMult ∧
        BooksOf (Okx.protocol ctx) qtyMult ctx.depth wire
          ((upstream i).flatMap Okx.Frame.items) (attemptsOn c s.manager.history) := by
  constructor
  · intro ctx frame upstream serves sent sequenced
    rcases books_fed positive run known serves sent with nothing | ⟨i, delivered, received, segment⟩
    · exact .inl nothing
    · have exact := bybit_neverCorrupted ctx (sequenced i) received
      exact .inr ⟨i, booksOf_segment received exact (bybit_single ctx) segment⟩
  · intro ctx frame upstream books opened nonzero serves sent sequenced
    obtain ⟨qtyMult, multiplier, whole⟩ := okx_outputs opened
    rcases books_fed positive run known serves sent with nothing | ⟨i, delivered, received, segment⟩
    · exact .inl nothing
    · have apart : qtyMult ≠ 0 := fun zero => nonzero (zero ▸ multiplier)
      have items := received.flatMap Okx.Frame.items
      have exact := okx_neverCorrupted ctx apart (sequenced i) items
      rw [whole] at segment
      exact .inr ⟨i, qtyMult, multiplier,
        booksOf_segment items exact (okx_single ctx qtyMult) segment⟩

/-! ## A run -/

/-- Every frame is of the topic 5. -/
def oneTopic : Config ℕ (List ℕ) Bybit.Frame :=
  ⟨fun topics => [topics], fun topics => [topics], fun _ => some 5, 2⟩

def opensBybit (key : ℕ) (_ : Unit) (topic : ℕ)
    (generator : Stream OrderBooks.Locals Bybit.Frame OrderBook) : Prop :=
  topic = key ∧ generator = Bybit.streamOrderbook bybitContext

/-- The snapshot and the first delta of `bybitFeed` are sent to a client. -/
def twoBooks : List (Event Unit ℕ (List ℕ) Bybit.Frame ℕ ℕ OrderBook OrderBooks.Locals) :=
  [.manager (.subscribe 0 5 100), .manager (.begin 0 true),
    .subscribe 0 () oneTopic 5 (Bybit.streamOrderbook bybitContext),
    .hub () (oneTopic, .connect true), .hub () (oneTopic, .resubscribed true),
    .hub () (oneTopic, .wake 0), .hub () (oneTopic, .resume 0 true)] ++
  ((bybitFeed.take 2).flatMap fun frame =>
    [.hub () (oneTopic, .receive frame), .read 0 oneTopic, .yield 0, .manager (.attempt 0 0),
      .manager (.settle 0 0 true), .manager (.gathered 0)])

/-- The handler that opens a generator has the key 5. -/
def opensKeyFive (s : State Unit ℕ (List ℕ) Bybit.Frame ℕ ℕ OrderBook OrderBooks.Locals) :
    Event Unit ℕ (List ℕ) Bybit.Frame ℕ ℕ OrderBook OrderBooks.Locals → Bool
  | .subscribe h .. => (s.manager.handlers.get? h).all fun handler => handler.key = 5
  | _ => true

theorem twoBooks_opened
    (s : State Unit ℕ (List ℕ) Bybit.Frame ℕ ℕ OrderBook OrderBooks.Locals) (ev)
    (member : ev ∈ twoBooks) (five : opensKeyFive s ev = true) :
    Opened (fun _ => 2) opensBybit s ev := by
  simp only [twoBooks, bybitFeed, List.take_succ_cons, List.take_zero, List.flatMap_cons,
    List.flatMap_nil, List.append_nil, List.cons_append, List.nil_append, List.mem_cons,
    List.not_mem_nil, or_false] at member
  rcases member with rfl | rfl | rfl | rfl | rfl | rfl | rfl | rfl | rfl | rfl | rfl | rfl | rfl |
    rfl | rfl | rfl | rfl | rfl | rfl
  case inr.inr.inl =>
    refine ⟨rfl, fun handler found => ?_⟩
    simp only [opensKeyFive, found, Option.all_some, decide_eq_true_eq] at five
    exact ⟨five.symm, rfl⟩
  all_goals first | trivial | exact ⟨rfl, rfl⟩ | exact fun _ _ => rfl

theorem twoBooks_ends : system.endsIn opensKeyFive twoBooks (fun s =>
    (attemptsOn 0 s.manager.history).length = 2 &&
      (s.manager.subscriptions.get? 0).any (fun sub => sub.key = 5) &&
      (s.hubs ()).routed.map (fun e => (e.1, e.2.msg)) = (bybitFeed.take 2).map (5, ·)) = true := by
  decide +kernel

theorem clients_see_books_two :
    ∃ s : State Unit ℕ (List ℕ) Bybit.Frame ℕ ℕ OrderBook OrderBooks.Locals,
      Reachable system (Opened (fun _ => 2) opensBybit) s ∧
      (attemptsOn 0 s.manager.history).length = 2 ∧
      BooksOf Bybit.protocol 1 bybitContext.depth id bybitFeed (attemptsOn 0 s.manager.history) := by
  obtain ⟨s, run, ends⟩ := System.exists_reachable twoBooks_opened twoBooks_ends
  simp only [Bool.and_eq_true, decide_eq_true_eq] at ends
  obtain ⟨⟨two, subscribed⟩, routed⟩ := ends
  obtain ⟨sub, known, five⟩ := (Option.any_eq_true _ _).mp subscribed
  have serves : ServesBooks opensBybit sub.key 5 id id (Bybit.streamOrderbook bybitContext) := by
    intro i own generator opened
    obtain ⟨rfl, rfl⟩ := opened
    exact ⟨of_decide_eq_true five, by simp⟩
  have sent : SentBy (fun _ => bybitFeed) 5 id s := by
    intro i
    have all : (((s.hubs ()).routed.map fun e => (e.1, e.2.msg)).map Prod.snd).Sublist bybitFeed := by
      rw [routed, List.map_map]
      exact (List.map_id _).symm ▸ List.take_sublist 2 bybitFeed
    rw [messagesSince, List.drop_zero, List.map_map]
    rw [List.map_map] at all
    exact (List.filter_sublist.map _).trans all
  rcases (clients_see_books (fun _ => by decide) run known 5 id).1 bybitContext id
    (fun _ => bybitFeed) serves sent (fun _ => bybitFeed_sequenced) with nothing | ⟨i, books⟩
  · rw [nothing] at two
    cases two
  · exact ⟨s, run, two, books⟩

end ExchangeRouter.Streams
