import ExchangeRouter.Lib.Json
import ExchangeRouter.Lib.Scope
import ExchangeRouter.OrderBooks.Kraken

/-!
# Kraken's spot book under a depth-limited subscription

A subscription of depth `n` reports the first `n` levels of each side only, and
is silent about a level that better ones have pushed out.  The stream keeps such
a level; it is shown again when there is room for it, even if the exchange has
deleted it since.
-/
namespace ExchangeRouter.OrderBooks.Kraken
open Lib

/-- The depth that the spot stream subscribes at. -/
def reqDepth (depth : Nat) : Nat := if depth ≤ 10 then 10 else if depth ≤ 25 then 25 else 100

theorem le_reqDepth {depth : Nat} (offered : depth ≤ 100) : depth ≤ reqDepth depth := by
  unfold reqDepth
  split
  · assumption
  · split
    · assumption
    · exact offered

/-- The exchange's own book. -/
structure Exchange where
  bids : Side ((· > ·) : ℚ → ℚ → Prop) ℚ
  asks : Side ((· < ·) : ℚ → ℚ → Prop) ℚ

def Exchange.top (book : Exchange) (depth : Nat) : Ladders ℚ ℚ :=
  ⟨book.bids.top depth, book.asks.top depth⟩

/-- The exchange's book after a change, and the frame sent for the change. -/
structure Moment where
  book : Exchange
  frame : Option SpotFrame

def bookFrame (type symbol : String) (bids asks : List (ℚ × ℚ)) (timestamp : ℤ) : SpotFrame :=
  ⟨some "book", some type, [⟨some symbol, bids.map some, asks.map some, some timestamp⟩]⟩

/-- What a subscription of depth `n` sends: a snapshot, then the changes of the
scope.  A change outside the scope needs no frame. -/
inductive ScopedFeed (symbol : String) (n : Nat) : List Moment → Moment → Prop
  | snapshot {book : Exchange} {bids asks : List (ℚ × ℚ)} (timestamp : ℤ)
      (bidsReported : Reports n .empty book.bids bids)
      (asksReported : Reports n .empty book.asks asks) :
      ScopedFeed symbol n [] ⟨book, some (bookFrame "snapshot" symbol bids asks timestamp)⟩
  | change {earlier : List Moment} {last : Moment} {book : Exchange} {bids asks : List (ℚ × ℚ)}
      (timestamp : ℤ) (feed : ScopedFeed symbol n earlier last)
      (bidsReported : Reports n last.book.bids book.bids bids)
      (asksReported : Reports n last.book.asks book.asks asks) :
      ScopedFeed symbol n (earlier ++ [last])
        ⟨book, some (bookFrame "update" symbol bids asks timestamp)⟩
  | quiet {earlier : List Moment} {last : Moment} {book : Exchange}
      (feed : ScopedFeed symbol n earlier last) (bidsReported : Reports n last.book.bids book.bids [])
      (asksReported : Reports n last.book.asks book.asks []) :
      ScopedFeed symbol n (earlier ++ [last]) ⟨book, none⟩

theorem ScopedFeed.before {symbol : String} {n : Nat} {earlier : List Moment} {last : Moment}
    (feed : ScopedFeed symbol n earlier last) {seen : List Moment} {moment : Moment}
    (part : seen ++ [moment] <+: earlier ++ [last]) : ScopedFeed symbol n seen moment := by
  induction feed with
  | snapshot timestamp bids asks =>
    have whole := (List.prefix_concat_iff.mp part).resolve_right (by simp)
    obtain ⟨rfl, same⟩ := List.append_inj' whole rfl
    cases same
    exact .snapshot timestamp bids asks
  | change timestamp feed bids asks ih =>
    rcases List.prefix_concat_iff.mp part with whole | shorter
    · obtain ⟨rfl, same⟩ := List.append_inj' whole rfl
      cases same
      exact .change timestamp feed bids asks
    · exact ih shorter
  | quiet feed bids asks ih =>
    rcases List.prefix_concat_iff.mp part with whole | shorter
    · obtain ⟨rfl, same⟩ := List.append_inj' whole rfl
      cases same
      exact .quiet feed bids asks
    · exact ih shorter

/-- The stream, as it goes through the frames of each moment. -/
def watched (ctx : Context) : Stream Locals Moment OrderBook :=
  (spotOrderbook ctx).batch fun moment => moment.frame.toList

theorem process_parsed (depth : Nat) (book : Ladders ℚ ℚ → ℤ → OrderBook)
    (bids asks : List (ℚ × ℚ)) (timestamp : ℤ) {locals : Locals} (ready : locals.bootstrapped = true) :
    process (fun q => q) depth book (bids.map some) (asks.map some) (some timestamp) locals ≠
      ([], none) := by
  have parses : ∀ levels : List (ℚ × ℚ), parsed (levels.map some) = true := fun levels => by
    simp [parsed]
  unfold process
  rw [applyEntries_eq fun q => (mul_one q).symm, applyEntries_eq fun q => (mul_one q).symm]
  simp [ready, parses]

/-- A well-formed frame continues the stream and shows one book. -/
theorem spotStep_bookFrame (ctx : Context) (locals : Locals) (book : Book ℚ ℚ) {type : String}
    (known : type = "snapshot" ∨ type = "update") (symbol : String) (bids asks : List (ℚ × ℚ))
    (timestamp : ℤ)
    (h : type ≠ "snapshot" → locals.bootstrapped = true ∧ locals.Represents 1 book) :
    ∃ output locals', spotStep ctx locals (bookFrame type symbol bids asks timestamp) =
        ([output], some locals') ∧ locals'.bootstrapped = true ∧
      locals'.Represents 1 (spotFeed.apply book (bookFrame type symbol bids asks timestamp)) ∧
      Top 1 ctx.depth (spotFeed.apply book (bookFrame type symbol bids asks timestamp))
        output.ladders := by
  have own : (bookFrame type symbol bids asks timestamp).isBook = true := by
    simpa [SpotFrame.isBook, bookFrame] using known
  have delta : spotFeed.snapshot (bookFrame type symbol bids asks timestamp) = false →
      locals.bootstrapped = true ∧ locals.Represents 1 book := fun update =>
    h fun snapshot => by simp [spotFeed, bookFrame, snapshot] at update
  obtain ⟨ready, represents⟩ := spotStart_represents delta
  rw [spotStep_book ctx locals own, if_pos ready, spotFeed_apply book own]
  generalize spotStart locals _ = start at ready represents
  rcases spotItems_step ctx ready represents
    ⟨some symbol, bids.map some, asks.map some, some timestamp⟩ with
    ends | ⟨output, locals', step, ready', represents', top⟩
  · exact absurd ends (process_parsed _ _ _ _ _ ready)
  · exact ⟨output, locals', by simp [bookFrame, Stream.yields, step], ready', represents', top⟩

theorem apply_snapshotFrame (book : Book ℚ ℚ) (symbol : String) (bids asks : List (ℚ × ℚ))
    (timestamp : ℤ) : spotFeed.apply book (bookFrame "snapshot" symbol bids asks timestamp) =
      ⟨setLevels (fun _ => 0) bids, setLevels (fun _ => 0) asks⟩ := by
  rw [spotFeed_apply book rfl]
  simp [applyItems, bookFrame, spotFeed, reduceOption_map_some, Book.empty]

theorem apply_updateFrame (book : Book ℚ ℚ) (symbol : String) (bids asks : List (ℚ × ℚ))
    (timestamp : ℤ) : spotFeed.apply book (bookFrame "update" symbol bids asks timestamp) =
      ⟨setLevels book.bids bids, setLevels book.asks asks⟩ := by
  rw [spotFeed_apply book rfl]
  simp [applyItems, bookFrame, spotFeed, reduceOption_map_some]

theorem watched_frame {ctx : Context} {locals locals' : Locals} {frame : SpotFrame}
    {outputs : List OrderBook} (step : spotStep ctx locals frame = (outputs, some locals'))
    (book : Exchange) :
    (watched ctx).step locals ⟨book, some frame⟩ = (outputs, some locals') := by
  have read : (spotOrderbook ctx).step locals frame = (outputs, some locals') := step
  simp [watched, Stream.batch_step, Stream.yields, read]

theorem watched_quiet (ctx : Context) (locals : Locals) (book : Exchange) :
    (watched ctx).step locals ⟨book, none⟩ = ([], some locals) := rfl

/-- The levels held after a moment, next to the exchange's. -/
structure Watches (n : Nat) (earlier : List Moment) (last : Moment) (locals : Locals)
    (held : Book ℚ ℚ) : Prop where
  ready : locals.bootstrapped = true
  represents : locals.Represents 1 held
  bids : Follows n (earlier.map fun moment => moment.book.bids) last.book.bids held.bids
  asks : Follows n (earlier.map fun moment => moment.book.asks) last.book.asks held.asks

/-- What the stream does in the last moment of a feed. -/
structure Reads (ctx : Context) (n : Nat) (earlier : List Moment) (last : Moment)
    (before : Locals) (outputs : List OrderBook) (locals : Locals) (held : Book ℚ ℚ) : Prop where
  reached : (watched ctx).after (watched ctx).init earlier = some before
  step : (watched ctx).step before last = (outputs, some locals)
  watches : Watches n earlier last locals held
  shown : ∀ output ∈ outputs, Top 1 ctx.depth held output.ladders
  answers : last.frame.isSome → outputs ≠ []

theorem Reads.after {ctx : Context} {n : Nat} {earlier : List Moment} {last : Moment}
    {before : Locals} {outputs : List OrderBook} {locals : Locals} {held : Book ℚ ℚ}
    (h : Reads ctx n earlier last before outputs locals held) :
    (watched ctx).after (watched ctx).init (earlier ++ [last]) = some locals := by
  rw [Stream.after_concat, h.reached, Option.bind_some, h.step]

/-- The stream never ends on a scoped feed. -/
theorem ScopedFeed.reads (ctx : Context) {symbol : String} {n : Nat} {earlier : List Moment}
    {last : Moment} (feed : ScopedFeed symbol n earlier last) :
    ∃ before outputs locals held, Reads ctx n earlier last before outputs locals held := by
  induction feed with
  | @snapshot book bids asks timestamp bidsReported asksReported =>
    obtain ⟨output, locals, step, ready, represents, top⟩ :=
      spotStep_bookFrame ctx .init .empty (Or.inl rfl) symbol bids asks timestamp fun other =>
        absurd rfl other
    rw [apply_snapshotFrame] at represents top
    exact ⟨.init, [output], locals, _, rfl, watched_frame step book,
      ⟨ready, represents, .start bidsReported, .start asksReported⟩, by simpa using top, by simp⟩
  | @change earlier last book bids asks timestamp feed bidsReported asksReported ih =>
    obtain ⟨_, _, locals, held, read⟩ := ih
    obtain ⟨output, locals', step, ready, represents, top⟩ :=
      spotStep_bookFrame ctx locals held (Or.inr rfl) symbol bids asks timestamp fun _ =>
        ⟨read.watches.ready, read.watches.represents⟩
    rw [apply_updateFrame] at represents top
    refine ⟨locals, [output], locals', _, read.after, watched_frame step book,
      ⟨ready, represents, ?_, ?_⟩, by simpa using top, by simp⟩
    · rw [List.map_append]
      exact read.watches.bids.step bidsReported
    · rw [List.map_append]
      exact read.watches.asks.step asksReported
  | @quiet earlier last book feed bidsReported asksReported ih =>
    obtain ⟨_, _, locals, held, read⟩ := ih
    refine ⟨locals, [], locals, held, read.after, watched_quiet ctx locals book,
      ⟨read.watches.ready, read.watches.represents, ?_, ?_⟩, by simp, by simp⟩
    · rw [List.map_append]
      exact read.watches.bids.step bidsReported
    · rw [List.map_append]
      exact read.watches.asks.step asksReported

/-- No price that better levels pushed out of the first `n`, and that the
exchange has no level at any more, ranks among the first `depth`. -/
structure NoPhantom (n depth : Nat) (earlier : List Moment) (last : Moment) : Prop where
  bids : ∀ p, PushedOut n ((earlier.map fun moment => moment.book.bids) ++ [last.book.bids]) p →
    last.book.bids.quantity p = 0 → depth ≤ ahead (· > ·) last.book.bids.levels p
  asks : ∀ p, PushedOut n ((earlier.map fun moment => moment.book.asks) ++ [last.book.asks]) p →
    last.book.asks.quantity p = 0 → depth ≤ ahead (· < ·) last.book.asks.levels p

theorem Watches.shows_iff {n depth : Nat} {earlier : List Moment} {last : Moment} {locals : Locals}
    {held : Book ℚ ℚ} (h : Watches n earlier last locals held) (narrow : depth ≤ n)
    {shown : Ladders ℚ ℚ} (top : Top 1 depth held shown) :
    shown = last.book.top depth ↔ NoPhantom n depth earlier last := by
  have bids : Best (· > ·) depth held.bids shown.bids := by simpa using top.bids
  have asks : Best (· < ·) depth held.asks shown.asks := by simpa using top.asks
  constructor
  · rintro rfl
    exact ⟨(h.bids.shows_iff narrow bids).mp rfl, (h.asks.shows_iff narrow asks).mp rfl⟩
  · rintro ⟨noBid, noAsk⟩
    change (⟨shown.bids, shown.asks⟩ : Ladders ℚ ℚ) = _
    rw [Exchange.top, ← (h.bids.shows_iff narrow bids).mpr noBid,
      ← (h.asks.shows_iff narrow asks).mpr noAsk]

/-- Every book shown is the top of the exchange's book at that moment if and
only if no phantom ranks among the levels shown whenever a frame is sent. -/
theorem scoped_books_exact_iff (ctx : Context) {symbol : String} {n : Nat} (narrow : ctx.depth ≤ n)
    {earlier : List Moment} {last : Moment} (feed : ScopedFeed symbol n earlier last) :
    (∀ moment output,
      (moment, output) ∈ (watched ctx).yields (watched ctx).init (earlier ++ [last]) →
        output.ladders = moment.book.top ctx.depth) ↔
    ∀ seen moment, seen ++ [moment] <+: earlier ++ [last] → moment.frame.isSome →
      NoPhantom n ctx.depth seen moment := by
  constructor
  · intro exact seen moment part sent
    obtain ⟨before, outputs, locals, held, reads⟩ := (feed.before part).reads ctx
    obtain ⟨output, member⟩ := List.exists_mem_of_ne_nil _ (reads.answers sent)
    obtain ⟨rest, shape⟩ := part
    refine (reads.watches.shows_iff narrow (reads.shown output member)).mp ?_
    refine exact moment output
      ((watched ctx).mem_yields.mpr ⟨seen, rest, before, ?_, reads.reached, ?_⟩)
    · rw [← shape, List.append_assoc, List.singleton_append]
    · rw [reads.step]
      exact member
  · intro clear moment output yielded
    obtain ⟨seen, rest, before, shape, reached, member⟩ := (watched ctx).mem_yields.mp yielded
    have part : seen ++ [moment] <+: earlier ++ [last] := ⟨rest, by simp [shape]⟩
    obtain ⟨before', outputs, locals, held, reads⟩ := (feed.before part).reads ctx
    obtain rfl : before' = before := Option.some.inj (reads.reached.symm.trans reached)
    rw [reads.step] at member
    have sent : moment.frame.isSome := by
      cases frame : moment.frame with
      | some frame => rfl
      | none =>
        have quiet : moment = ⟨moment.book, none⟩ := by rw [← frame]
        have nothing := reads.step
        rw [quiet, watched_quiet] at nothing
        cases nothing
        cases member
    exact (reads.watches.shows_iff narrow (reads.shown output member)).mpr
      (clear seen moment part sent)

/-- A book with no more levels than the scope has no phantoms. -/
theorem noPhantom_of_short {n depth : Nat} {earlier : List Moment} {last : Moment}
    (short : ∀ moment ∈ earlier ++ [last],
      moment.book.bids.levels.length ≤ n ∧ moment.book.asks.levels.length ≤ n) :
    NoPhantom n depth earlier last where
  bids := fun p away _ => by
    refine absurd away (not_pushedOut_of_short fun side member => ?_)
    rw [← List.map_singleton (f := fun moment : Moment => moment.book.bids), ← List.map_append]
      at member
    obtain ⟨moment, inside, rfl⟩ := List.mem_map.mp member
    exact (short moment inside).1
  asks := fun p away _ => by
    refine absurd away (not_pushedOut_of_short fun side member => ?_)
    rw [← List.map_singleton (f := fun moment : Moment => moment.book.asks), ← List.map_append]
      at member
    obtain ⟨moment, inside, rfl⟩ := List.mem_map.mp member
    exact (short moment inside).2

def tenLevels : Context := ⟨"BTCUSD", .spot, "USD", 10⟩

/-- A bid of one at each price, and one ask. -/
def bidsAt (prices : List ℚ) (sorted : prices.Pairwise (· > ·)) : Exchange where
  bids := ⟨prices.map fun p => (p, 1), List.pairwise_map.mpr sorted, by simp⟩
  asks := ⟨[(20, 1)], List.pairwise_singleton _ _, by simp⟩

def firstBid : Moment :=
  ⟨bidsAt [1] (by decide), some (bookFrame "snapshot" "BTC/USD" [(1, 1)] [(20, 1)] 0)⟩

def secondBid : Moment :=
  ⟨bidsAt [2, 1] (by decide +kernel), some (bookFrame "update" "BTC/USD" [(2, 1)] [] 1)⟩

theorem secondBid_feed :
    ScopedFeed "BTC/USD" (reqDepth tenLevels.depth) ([] ++ [firstBid]) secondBid :=
  .change 1 (.snapshot 0 (by decide +kernel) (by decide +kernel)) (by decide +kernel)
    (by decide +kernel)

theorem scoped_books_exact_iff_short :
    ScopedFeed "BTC/USD" (reqDepth tenLevels.depth) [firstBid] secondBid ∧ ∀ moment output,
      (moment, output) ∈ (watched tenLevels).yields (watched tenLevels).init [firstBid, secondBid] →
        output.ladders = moment.book.top tenLevels.depth := by
  refine ⟨secondBid_feed, ?_⟩
  refine (scoped_books_exact_iff tenLevels (le_reqDepth (by decide)) secondBid_feed).mpr ?_
  intro seen moment part _
  refine noPhantom_of_short fun own member => ?_
  rcases List.mem_pair.mp (part.subset member) with rfl | rfl <;> decide

/-- Ten bids fill the scope; a better one pushes the last out, which is then
deleted, and so is the better one. -/
def phantomEarlier : List Moment :=
  [⟨bidsAt [10, 9, 8, 7, 6, 5, 4, 3, 2, 1] (by decide +kernel),
      some (bookFrame "snapshot" "BTC/USD" [(10, 1), (9, 1), (8, 1), (7, 1), (6, 1), (5, 1), (4, 1),
        (3, 1), (2, 1), (1, 1)] [(20, 1)] 0)⟩,
    ⟨bidsAt [11, 10, 9, 8, 7, 6, 5, 4, 3, 2, 1] (by decide +kernel),
      some (bookFrame "update" "BTC/USD" [(11, 1)] [] 1)⟩,
    ⟨bidsAt [11, 10, 9, 8, 7, 6, 5, 4, 3, 2] (by decide +kernel), none⟩]

def phantomLast : Moment :=
  ⟨bidsAt [10, 9, 8, 7, 6, 5, 4, 3, 2] (by decide +kernel),
    some (bookFrame "update" "BTC/USD" [(11, 0)] [] 3)⟩

theorem phantomFeed : ScopedFeed "BTC/USD" (reqDepth tenLevels.depth) phantomEarlier phantomLast :=
  .change 3
    (.quiet
      (.change 1 (.snapshot 0 (by decide +kernel) (by decide +kernel)) (by decide +kernel)
        (by decide +kernel))
      (by decide +kernel) (by decide +kernel))
    (by decide +kernel) (by decide +kernel)

theorem phantomFeed_ends :
    (((watched tenLevels).yields (watched tenLevels).init (phantomEarlier ++ [phantomLast])).map
      fun e => (e.2.bids.map Prod.fst, (e.1.book.bids.top 10).map Prod.fst))[2]? =
        some ([10, 9, 8, 7, 6, 5, 4, 3, 2, 1], [10, 9, 8, 7, 6, 5, 4, 3, 2]) := by decide +kernel

/-- The bid at one is shown again after the exchange has deleted it. -/
theorem phantom_bid_shown :
    ScopedFeed "BTC/USD" (reqDepth tenLevels.depth) phantomEarlier phantomLast ∧
      ∃ moment output, (moment, output) ∈
          (watched tenLevels).yields (watched tenLevels).init (phantomEarlier ++ [phantomLast]) ∧
        output.ladders ≠ moment.book.top tenLevels.depth := by
  have ends := phantomFeed_ends
  rw [List.getElem?_map] at ends
  obtain ⟨⟨moment, output⟩, yielded, differ⟩ := Option.map_eq_some_iff.mp ends
  refine ⟨phantomFeed, moment, output, List.mem_of_getElem? yielded, fun same => ?_⟩
  have bids : output.bids = moment.book.bids.top 10 := congrArg Ladders.bids same
  rw [bids] at differ
  have lengths := congrArg (fun e : List ℚ × List ℚ => (e.1.length, e.2.length)) differ
  simp at lengths
  omega

end ExchangeRouter.OrderBooks.Kraken
