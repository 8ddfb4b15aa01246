import ExchangeRouter.OrderBooks.Kraken
import ExchangeRouter.StreamHub.Builders
import ExchangeRouter.StreamHub.Overflow

/-!
# Kraken order books behind a bounded queue

The hub drops the oldest messages of a slow consumer without a trace, and the
Kraken streams apply the next delta to whatever they hold.  The books they yield
are the exchange's as long as no message since the latest snapshot was dropped.
-/
namespace ExchangeRouter.OrderBooks.Kraken
open Lib StreamHub

variable {Payload Msg : Type}

/-- Every book that the consumer of a registered queue yielded is the top of the
book that all the messages of its topic describe, from the latest snapshot up
to the one being processed. -/
def BooksExact (route : Msg → Option String) (feed : Protocol Msg ℚ ℚ ℤ) (cut : Nat → Msg → Msg)
    (depth : Nat) (T : Stream Locals Msg OrderBook) (s : StreamHub.State String Payload Msg) :
    Prop :=
  ∀ topic, ∀ q ∈ queuesOf s topic, ∀ before a, before ++ [a] <+: (s.queue q).taken →
    ∀ locals, T.after T.init (before.map Arrival.msg) = some locals →
      ∀ i output, (T.step locals a.msg).1[i]? = some output →
        Top 1 depth (feed.bookAfter
          ((earlier a.index (topicLog route topic s.received)).map Arrival.msg ++ [cut (i + 1) a.msg]))
          output.ladders

theorem booksExact_of_unbroken {route : Msg → Option String} {feed : Protocol Msg ℚ ℚ ℤ}
    {cut : Nat → Msg → Msg} {depth : Nat} {T : Stream Locals Msg OrderBook}
    (mirrors : Mirrors feed cut depth T) {s : StreamHub.State String Payload Msg}
    (run : Reachable StreamHub.system (UnbrokenStep route feed.snapshot) s) :
    BooksExact route feed cut depth T s := by
  intro topic q registered before a taken locals reached i output shown
  have holds : Holds route s := holds_reachable (fun _ _ ok => ok.1) run
  obtain ⟨started, represents⟩ := mirrors.after reached
  rw [feed.bookAfter_append]
  refine mirrors.shows locals a.msg _ i output (fun delta => ?_) shown
  have running : locals.bootstrapped = true := by
    by_contra waiting
    rw [mirrors.waits locals a.msg (by simpa using waiting) delta] at shown
    simp at shown
  refine ⟨running, ?_⟩
  have begun : (before ++ [a]).any (fun x => feed.snapshot x.msg) = true := by
    rw [running, List.any_map] at started
    rw [List.any_append, Bool.or_eq_true]
    exact Or.inl started.symm
  obtain ⟨older, skipped, since, first, rest, read, logged, shape, isSnapshot⟩ :=
    holds.caughtUp registered (unbroken_reachable run) taken begun
  -- the message taken is a delta, so the snapshot came before it
  have later : rest ≠ [] := by
    rintro rfl
    rw [shape] at read
    obtain ⟨-, same⟩ := List.append_inj' read rfl
    cases same
    rw [delta] at isSnapshot
    cases isSnapshot
  obtain ⟨middle, last, rfl⟩ := List.eq_nil_or_concat' rest |>.resolve_left later
  rw [shape, ← List.cons_append, ← List.append_assoc] at read logged
  obtain ⟨own, -⟩ := List.append_inj' read rfl
  obtain ⟨all, -⟩ := List.append_inj' logged rfl
  have held := represents running
  rw [own, List.map_append, List.map_cons, feed.bookAfter_snapshot isSnapshot] at held
  rw [all, List.map_append, List.map_cons, feed.bookAfter_snapshot isSnapshot]
  exact held

/-- Both Kraken streams show the exchange's book in every run in which no message
since the latest snapshot is dropped ahead of one that is taken. -/
theorem kraken_books_exact (ctx : Context) :
    (∀ s : StreamHub.State String Payload SpotFrame,
      Reachable StreamHub.system (UnbrokenStep spotRoute spotFeed.snapshot) s →
      BooksExact spotRoute spotFeed SpotFrame.cut ctx.depth (spotOrderbook ctx) s) ∧
    ∀ s : StreamHub.State String Payload FuturesFrame,
      Reachable StreamHub.system (UnbrokenStep futuresRoute futuresFeed.snapshot) s →
      BooksExact futuresRoute futuresFeed (fun _ data => data) ctx.depth (futuresOrderbook ctx) s :=
  ⟨fun _ => booksExact_of_unbroken (spotOrderbook_mirrors ctx),
    fun _ => booksExact_of_unbroken (futuresOrderbook_mirrors ctx)⟩

def spotContext : Context := ⟨"BTCUSD", .spot, "USD", 20⟩

/-- A snapshot, a bid at a new price and an ask at another one. -/
def spotSnapshot : SpotFrame :=
  ⟨some "book", some "snapshot", [⟨some "BTC/USD", [some (99, 1)], [some (101, 1)], some 0⟩]⟩

def newBid : SpotFrame :=
  ⟨some "book", some "update", [⟨some "BTC/USD", [some (100, 5)], [], some 1⟩]⟩

def newAsk : SpotFrame :=
  ⟨some "book", some "update", [⟨some "BTC/USD", [], [some (102, 2)], some 2⟩]⟩

def futuresSnapshot : FuturesFrame :=
  ⟨some "book_snapshot", some "PF_XBTUSD", [some (99, 1)], [some (101, 1)], none, none, none, some 0⟩

/-- A consumer has joined the hub of a topic and the receive loop runs. -/
def joined {Msg : Type} (route : Msg → Option String) (topic : String) :
    List (Label String (List String) Msg) :=
  [.subscribe 0 topic, .connect true, .resubscribed true, .wake 0, .resume 0 true].map
    (each route 1024, ·)

def promptRun : List (Label String (List String) SpotFrame) :=
  joined spotRoute "book:BTC/USD" ++
    [.receive spotSnapshot, .get 0, .receive newBid, .receive newAsk, .get 0, .get 0].map
      (each spotRoute 1024, ·)

def promptFuturesRun : List (Label String (List String) FuturesFrame) :=
  joined futuresRoute "book:PF_XBTUSD" ++
    [.receive futuresSnapshot, .get 0].map (each futuresRoute 1024, ·)

theorem each_fixedRoute {Msg : Type} {route : Msg → Option String} {topic : String}
    {label : Label String (List String) Msg} {events : List (Event String Msg)}
    (member : label ∈ joined route topic ++ events.map (each route 1024, ·)) :
    FixedRoute route label := by
  simp only [joined, List.mem_append, List.mem_map] at member
  rcases member with ⟨ev, -, rfl⟩ | ⟨ev, -, rfl⟩ <;> rfl

theorem promptRun_ends : system.endsIn
    (fun s label => decide (TakesUnbroken spotFeed.snapshot s label.2)) promptRun
    (fun s => (s.queue 0).taken.map Arrival.msg = [spotSnapshot, newBid, newAsk]) = true := by
  decide +kernel

theorem promptFuturesRun_ends : system.endsIn
    (fun s label => decide (TakesUnbroken futuresFeed.snapshot s label.2)) promptFuturesRun
    (fun s => (s.queue 0).taken.map Arrival.msg = [futuresSnapshot]) = true := by
  decide +kernel

theorem kraken_books_exact_prompt :
    (∃ s : StreamHub.State String (List String) SpotFrame,
      (s.queue 0).taken.map Arrival.msg = [spotSnapshot, newBid, newAsk] ∧
      BooksExact spotRoute spotFeed SpotFrame.cut spotContext.depth (spotOrderbook spotContext) s) ∧
    ∃ s : StreamHub.State String (List String) FuturesFrame,
      (s.queue 0).taken.map Arrival.msg = [futuresSnapshot] ∧
      BooksExact futuresRoute futuresFeed (fun _ data => data) spotContext.depth
        (futuresOrderbook spotContext) s := by
  obtain ⟨s, run, taken⟩ := System.exists_reachable
    (fun s label member permitted => And.intro (each_fixedRoute member) (of_decide_eq_true permitted))
    promptRun_ends
  obtain ⟨s', run', taken'⟩ := System.exists_reachable
    (fun s label member permitted => And.intro (each_fixedRoute member) (of_decide_eq_true permitted))
    promptFuturesRun_ends
  exact ⟨⟨s, of_decide_eq_true taken, (kraken_books_exact spotContext).1 s run⟩,
    s', of_decide_eq_true taken', (kraken_books_exact spotContext).2 s' run'⟩

/-- The consumer reads the snapshot and then nothing for a while. -/
def idleRun : List (Label String (List String) SpotFrame) :=
  joined spotRoute "book:BTC/USD" ++
    [.receive spotSnapshot, .get 0].map (each spotRoute 1024, ·)

theorem idleRun_ends : system.endsIn (fun _ _ => true) idleRun (fun s =>
    s.task = .receiving 0 true && queuesOf s "book:BTC/USD" = [0] &&
      s.received = [(0, spotSnapshot)] && (s.queue 0).items.isEmpty &&
      (s.queue 0).taken = [⟨0, 0, spotSnapshot⟩]) = true := by decide +kernel

/-- The messages that come while the consumer reads nothing. -/
def burst : List SpotFrame := newBid :: List.replicate 1024 newAsk

theorem burst_items : ((arrivals 1 0 burst).drop (burst.length - 1024)).head? =
    some ⟨2, 0, newAsk⟩ := by
  have surplus : burst.length - 1024 = 1 := by rw [burst, List.length_cons, List.length_replicate]
  have shape : burst = newBid :: newAsk :: List.replicate 1023 newAsk := by
    rw [burst, List.replicate_succ]
  rw [surplus, shape]
  rfl

theorem burst_routed : ∀ msg ∈ burst, spotRoute msg = some "book:BTC/USD" := by
  intro msg member
  rcases List.mem_cons.mp member with rfl | more
  · decide +kernel
  · rw [List.eq_of_mem_replicate more]
    decide +kernel

/-- What the hub received of the topic ahead of the first new ask. -/
theorem burst_log : earlier 2 (topicLog spotRoute "book:BTC/USD"
    ([(0, spotSnapshot)] ++ burst.map ((0 : Conn), ·))) =
      [⟨0, 0, spotSnapshot⟩, ⟨1, 0, newBid⟩] := by
  have shape : [(0, spotSnapshot)] ++ burst.map ((0 : Conn), ·) =
      [(0, spotSnapshot), (0, newBid)] ++ (List.replicate 1024 newAsk).map ((0 : Conn), ·) := rfl
  have early : 2 ≤ [((0 : Conn), spotSnapshot), (0, newBid)].length := le_refl _
  rw [shape, earlier_topicLog spotRoute _ early]
  decide +kernel

/-- The locals once the snapshot was processed. -/
def snapshotLocals : Locals :=
  ⟨Dict.empty.set 99 1, Dict.empty.set 101 1, none, true⟩

theorem spotOrderbook_snapshot : (spotOrderbook spotContext).after (spotOrderbook spotContext).init
    [spotSnapshot] = some snapshotLocals := by decide +kernel

/-- What is yielded for the new ask without the new bid. -/
def staleBook : OrderBook :=
  ⟨"BTCUSD", .spot, "USD", [(99, 1)], [(101, 1), (102, 2)], .base, 2⟩

theorem spotOrderbook_stale : ((spotOrderbook spotContext).step snapshotLocals newAsk).1[0]? =
    some staleBook := by decide +kernel

theorem not_top_staleBook : ¬ Top 1 spotContext.depth
    (spotFeed.bookAfter [spotSnapshot, newBid, newAsk.cut 1]) staleBook.ladders := by
  intro top
  have level : (spotFeed.bookAfter [spotSnapshot, newBid, newAsk.cut 1]).bids 100 * 1 ≠ 0 := by
    decide +kernel
  rcases top.bids.first 100 level with shown | ⟨full, -⟩
  · simp [staleBook, OrderBook.ladders] at shown
  · simp [staleBook, OrderBook.ladders, spotContext] at full

/-- The new bid comes first of the messages that the queue is too short for; the
book shown with the new ask lacks it. -/
theorem overflow_loses_bid : ∃ s : StreamHub.State String (List String) SpotFrame,
    Reachable StreamHub.system (fun _ => FixedRoute spotRoute) s ∧
      ¬ BooksExact spotRoute spotFeed SpotFrame.cut spotContext.depth (spotOrderbook spotContext)
        s := by
  obtain ⟨s, run, ends⟩ : ∃ s, Reachable StreamHub.system (fun _ => FixedRoute spotRoute) s ∧ _ :=
    System.exists_reachable (fun s label member _ => each_fixedRoute member) idleRun_ends
  simp only [Bool.and_eq_true, decide_eq_true_eq, List.isEmpty_iff] at ends
  obtain ⟨⟨⟨⟨task, listed⟩, received⟩, empty⟩, taken⟩ := ends
  obtain ⟨s', run', -, listed', received', taken', items⟩ :=
    receives_reachable (each spotRoute 1024) run ⟨true, task⟩ listed empty (by decide) burst
      burst_routed fun _ _ _ => rfl
  have size : (each spotRoute 1024 : Config String (List String) SpotFrame).queueSize = 1024 := rfl
  rw [received] at received'
  rw [received, List.length_singleton, size] at items
  have head : (s'.queue 0).items.head? = some ⟨2, 0, newAsk⟩ := by
    rw [items]
    exact burst_items
  obtain ⟨waiting, shape⟩ := List.head?_eq_some_iff.mp head
  have moved : step (each spotRoute 1024) s' (.get 0) = some { s' with
      queue := Function.update s'.queue 0
        { s'.queue 0 with items := waiting, taken := (s'.queue 0).taken ++ [⟨2, 0, newAsk⟩] } } := by
    simp only [step, StreamHub.get, shape]
  refine ⟨_, .next (a := (each spotRoute 1024, .get 0)) run' rfl moved, fun exact => ?_⟩
  refine not_top_staleBook ?_
  have registered : 0 ∈ queuesOf s' "book:BTC/USD" := by simp [listed']
  have shown := exact "book:BTC/USD" 0 (mem_queuesOf_congr rfl registered)
    [⟨0, 0, spotSnapshot⟩] ⟨2, 0, newAsk⟩ (by simp [taken', taken]) snapshotLocals
    spotOrderbook_snapshot 0 staleBook spotOrderbook_stale
  rw [received', burst_log] at shown
  exact shown

end ExchangeRouter.OrderBooks.Kraken
