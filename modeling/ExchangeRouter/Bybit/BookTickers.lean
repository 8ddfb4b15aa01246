import ExchangeRouter.OrderBooks.Loss
import ExchangeRouter.Records.Model

/-!
# Bybit `stream_book_ticker`

`src/exchanges/bybit/adapter.py`.  The stream keeps the book of the depth 1 topic
as `stream_orderbook` keeps its own, and tells the best level of each side; it
says nothing while a side is empty.
-/
namespace ExchangeRouter.Bybit.BookTickers
open Lib OrderBooks OrderBooks.Bybit Records

/-- What is fixed when the stream starts. -/
structure Context where
  apiSymbol : String
  /-- `get_model_symbol(·, market_type)`. -/
  modelSymbol : String → String
  marketType : MarketType
  quote : String
  contractSize : Option ℚ

def Context.unit (ctx : Context) : QtyUnit :=
  if ctx.marketType = .inverse then .contract else .base

def bookTicker (ctx : Context) (msg : Frame) (bid ask : ℚ × ℚ) : Except PyError BookTicker := do
  let bidQty ← buildQtyValue bid.2 ctx.unit ctx.contractSize bid.1
  let askQty ← buildQtyValue ask.2 ctx.unit ctx.contractSize ask.1
  match msg.ts with
  | none => .error (.valueError "Invalid Bybit timestamp")
  | some timestamp =>
    return {
      symbol := ctx.modelSymbol (msg.s.getD ctx.apiSymbol)
      marketType := ctx.marketType
      quote := ctx.quote
      bidPrice := bid.1
      bidQty := bidQty
      askPrice := ask.1
      askQty := askQty
      timestamp := timestamp }

/-- `max(bids)` and `min(asks)` with their quantities, when no side is empty. -/
def bestLevels (locals : Locals) : Option ((ℚ × ℚ) × (ℚ × ℚ)) := do
  let bidPrice ← locals.bids.keys.max?
  let askPrice ← locals.asks.keys.min?
  let bidQty ← locals.bids.get? bidPrice
  let askQty ← locals.asks.get? askPrice
  return ((bidPrice, bidQty), (askPrice, askQty))

/-- The end of the loop body, where an exception ends the stream. -/
def told (ctx : Context) (msg : Frame) (locals : Locals) : List BookTicker × Option Locals :=
  match bestLevels locals with
  | none => ([], some locals)
  | some (bid, ask) =>
    match bookTicker ctx msg bid ask with
    | .ok ticker => ([ticker], some locals)
    | .error _ => ([], none)

def step (ctx : Context) (locals : Locals) (msg : Frame) : List BookTicker × Option Locals :=
  match received locals msg with
  | none => ([], none)
  | some locals =>
    if !locals.bootstrapped then ([], some locals)
    else
      match applyEntries (fun q => q) locals.bids msg.b,
        applyEntries (fun q => q) locals.asks msg.a with
      | some bids, some asks => told ctx msg { locals with bids := bids, asks := asks }
      | _, _ => ([], none)

def streamBookTicker (ctx : Context) : Stream Locals Frame BookTicker := ⟨.init, step ctx⟩

/-- The protocol of the messages, of which only the levels have to parse. -/
def levels : Protocol Frame ℚ ℚ ℤ :=
  { protocol with parses := fun msg => parsed msg.b && parsed msg.a }

/-- What can be told of a message once both sides have levels. -/
structure Tellable (ctx : Context) (msg : Frame) : Prop where
  timestamp : msg.ts.isSome
  contractSize : ctx.marketType = .inverse → ctx.contractSize.isSome

def TwoSided (book : Book ℚ ℚ) : Prop := (∃ p, book.bids p ≠ 0) ∧ ∃ p, book.asks p ≠ 0

/-- A ticker tells the best level of each side. -/
structure BestOf (book : Book ℚ ℚ) (ticker : BookTicker) : Prop where
  bid : Leads (· > ·) book.bids (ticker.bidPrice, ticker.bidQty.native)
  ask : Leads (· < ·) book.asks (ticker.askPrice, ticker.askQty.native)

/-- A message seen before or now starts the book. -/
def Begun (read : List Frame) (msg : Frame) : Prop :=
  ∃ x ∈ read ++ [msg], x.type = some "snapshot"

/-- What the stream does with a message after which the exchange has a book: it ends at a delta
that does not continue the message before, at levels that do not parse and at a book that cannot
be told; a message that it survives is told when the book has begun and is two-sided. -/
structure Handles (ctx : Context) (locals : Locals) (read : List Frame) (msg : Frame)
    (book : Book ℚ ℚ) : Prop where
  survives : (step ctx locals msg).2.isSome ↔
    (msg.type = some "snapshot" ∨ ∀ m₀ ∈ read.getLast?, protocol.previous msg = m₀.u) ∧
      (Begun read msg → levels.parses msg = true ∧ (TwoSided book → Tellable ctx msg))
  tells : (step ctx locals msg).2.isSome →
    ((step ctx locals msg).1 ≠ [] ↔ Begun read msg ∧ TwoSided book)

variable {ctx : Context} {msg : Frame} {locals locals' : Locals} {book : Book ℚ ℚ}

/-! ## One message -/

theorem buildQtyValue_cases (native : ℚ) (qtyUnit : QtyUnit) (contractSize : Option ℚ) (price : ℚ) :
    (qtyUnit = .contract ∧ contractSize = none ∧
        ∃ text, buildQtyValue native qtyUnit contractSize price = .error (.valueError text)) ∨
      (qtyUnit = .contract → contractSize.isSome) ∧
        ∃ value, buildQtyValue native qtyUnit contractSize price = .ok value ∧
          value.native = native := by
  cases qtyUnit with
  | base => exact .inr ⟨fun never => QtyUnit.noConfusion never, _, rfl, rfl⟩
  | contract =>
    cases contractSize with
    | none => exact .inl ⟨rfl, rfl, _, rfl⟩
    | some size => exact .inr ⟨fun _ => rfl, _, rfl, rfl⟩

theorem unit_eq_contract : ctx.unit = .contract ↔ ctx.marketType = .inverse := by
  unfold Context.unit
  split <;> simp_all

/-- A ticker is built, and of the levels given, or the message cannot be told. -/
theorem bookTicker_cases (ctx : Context) (msg : Frame) (bid ask : ℚ × ℚ) :
    (¬ Tellable ctx msg ∧ ∃ e, bookTicker ctx msg bid ask = .error e) ∨
      Tellable ctx msg ∧ ∃ ticker, bookTicker ctx msg bid ask = .ok ticker ∧
        (ticker.bidPrice, ticker.bidQty.native) = bid ∧
        (ticker.askPrice, ticker.askQty.native) = ask := by
  rcases buildQtyValue_cases bid.2 ctx.unit ctx.contractSize bid.1 with
    ⟨unit, unsized, _, fails⟩ | ⟨sized, bidQty, bidBuilt, bidNative⟩
  · refine .inl ⟨fun tellable => ?_, _, by rw [bookTicker, fails]; rfl⟩
    have known := tellable.contractSize (unit_eq_contract.mp unit)
    rw [unsized] at known
    cases known
  · rcases buildQtyValue_cases ask.2 ctx.unit ctx.contractSize ask.1 with
      ⟨unit, unsized, -⟩ | ⟨-, askQty, askBuilt, askNative⟩
    · rw [unsized] at sized
      cases sized unit
    · cases timestamp : msg.ts with
      | none =>
        refine .inl ⟨fun tellable => ?_, _, by rw [bookTicker, bidBuilt, askBuilt, timestamp]; rfl⟩
        have known := tellable.timestamp
        rw [timestamp] at known
        cases known
      | some ms =>
        refine .inr ⟨⟨by rw [timestamp]; rfl, fun inverse => sized (unit_eq_contract.mpr inverse)⟩,
          _, by rw [bookTicker, bidBuilt, askBuilt, timestamp]; rfl, ?_, ?_⟩
        · rw [bidNative]
        · rw [askNative]

/-- The step of the stream, as a step of the follower whose book is told. -/
theorem step_eq : step ctx locals msg =
    if levels.gap locals msg then ([], none)
    else if (levels.receive locals msg).bootstrapped then
      if levels.parses msg then told ctx msg (levels.update 1 locals msg) else ([], none)
    else ([], some (levels.receive locals msg)) := by
  have same (q : ℚ) : q = q * 1 := (mul_one q).symm
  have gap : levels.gap locals msg = protocol.gap locals msg := rfl
  have receive : levels.receive locals msg = protocol.receive locals msg := rfl
  have parses : levels.parses msg = (parsed msg.b && parsed msg.a) := rfl
  have updated : levels.update 1 locals msg = { protocol.receive locals msg with
      bids := (protocol.receive locals msg).bids.setLevels 1 msg.b.reduceOption
      asks := (protocol.receive locals msg).asks.setLevels 1 msg.a.reduceOption } := rfl
  unfold step
  rw [received_eq, gap, receive]
  cases protocol.gap locals msg with
  | true => rfl
  | false =>
    cases ready : (protocol.receive locals msg).bootstrapped with
    | false => simp [ready]
    | true =>
      simp only [Bool.false_eq_true, if_false, ready, Bool.not_true, if_true, applyEntries_eq same]
      cases bids : parsed msg.b <;> cases asks : parsed msg.a <;>
        simp [parses, updated, ready, bids, asks]

/-- The best levels of a book are found when both of its sides have some. -/
theorem bestLevels_cases (represents : locals.Represents 1 book) :
    (¬ TwoSided book ∧ bestLevels locals = none) ∨ TwoSided book ∧ ∃ bid ask,
      bestLevels locals = some (bid, ask) ∧ Leads (· > ·) book.bids bid ∧
        Leads (· < ·) book.asks ask := by
  obtain ⟨bids, asks⟩ := represents
  cases top : locals.bids.keys.max? with
  | none =>
    refine .inl ⟨fun twoSided => ?_, by simp [bestLevels, top]⟩
    obtain ⟨p, present⟩ := twoSided.1
    have listed := (bids.mem_keys p).mpr present
    rw [List.max?_eq_none_iff.mp top] at listed
    cases listed
  | some bidPrice =>
    cases bottom : locals.asks.keys.min? with
    | none =>
      refine .inl ⟨fun twoSided => ?_, by simp [bestLevels, top, bottom]⟩
      obtain ⟨p, present⟩ := twoSided.2
      have listed := (asks.mem_keys p).mpr present
      rw [List.min?_eq_none_iff.mp bottom] at listed
      cases listed
    | some askPrice =>
      have bidListed := List.max?_mem top
      have askListed := List.min?_mem bottom
      obtain ⟨bidQty, bidFound⟩ := Option.isSome_iff_exists.mp
        ((locals.bids.get?_isSome_iff bidPrice).mpr bidListed)
      obtain ⟨askQty, askFound⟩ := Option.isSome_iff_exists.mp
        ((locals.asks.get?_isSome_iff askPrice).mpr askListed)
      have bid := bids.leads_max one_ne_zero top bidFound
      have ask := asks.leads_min one_ne_zero bottom askFound
      simp only [mul_one] at bid ask
      exact .inr ⟨⟨⟨bidPrice, (bids.mem_keys _).mp bidListed⟩,
        askPrice, (asks.mem_keys _).mp askListed⟩, _, _,
        by simp [bestLevels, top, bottom, bidFound, askFound], bid, ask⟩

/-- What is told of a book: nothing of one with an empty side, else its best levels. -/
theorem told_cases (ctx : Context) (msg : Frame) (represents : locals.Represents 1 book) :
    (¬ TwoSided book ∧ told ctx msg locals = ([], some locals)) ∨
    (TwoSided book ∧ ¬ Tellable ctx msg ∧ told ctx msg locals = ([], none)) ∨
    TwoSided book ∧ Tellable ctx msg ∧
      ∃ ticker, told ctx msg locals = ([ticker], some locals) ∧ BestOf book ticker := by
  rcases bestLevels_cases represents with ⟨oneSided, none⟩ | ⟨twoSided, bid, ask, best, leads⟩
  · exact .inl ⟨oneSided, by rw [told, none]⟩
  · right
    rcases bookTicker_cases ctx msg bid ask with ⟨untold, e, fails⟩ | ⟨tells, ticker, built, same⟩
    · exact .inl ⟨twoSided, untold, by simp only [told, best, fails]⟩
    · refine .inr ⟨twoSided, tells, ticker, by simp only [told, best, built], ?_, ?_⟩
      · rw [same.1]
        exact leads.1
      · rw [same.2]
        exact leads.2

/-! ## The stream -/

theorem told_state (reached : (told ctx msg locals).2 = some locals') : locals' = locals := by
  unfold told at reached
  split at reached
  · cases reached
    rfl
  · split at reached
    · cases reached
      rfl
    · cases reached

/-- As long as the stream goes on, it keeps the book of the follower. -/
theorem follow_of_step (moved : (step ctx locals msg).2 = some locals') (depth : ℕ) :
    (levels.follow 1 depth locals msg).2 = some locals' := by
  rw [step_eq] at moved
  unfold Protocol.follow
  split at moved
  · cases moved
  · rename_i continues
    rw [if_neg continues]
    split at moved
    · rename_i ready
      rw [if_pos ready]
      split at moved
      · rename_i parses
        rw [if_pos parses, told_state moved]
      · cases moved
    · rename_i waiting
      rw [if_neg waiting]
      exact moved

theorem follower_of_after {read : List Frame}
    (reached : (streamBookTicker ctx).after .init read = some locals) :
    (levels.follower 1 1).after .init read = some locals := by
  induction read using List.reverseRecOn generalizing locals with
  | nil => exact reached
  | append_singleton read msg ih =>
    rw [Stream.after_concat] at reached ⊢
    obtain ⟨before, earlier, moved⟩ := Option.bind_eq_some_iff.mp reached
    exact Option.bind_eq_some_iff.mpr ⟨before, ih earlier, follow_of_step moved 1⟩

variable {upstream delivered : List Frame}

theorem levels_sequenced (sequenced : protocol.Sequenced upstream) : levels.Sequenced upstream :=
  ⟨sequenced.present, sequenced.linked, sequenced.identifies⟩

/-- A message that the stream is still there to read: where it stands in what the exchange
sends, and, once it is accepted after a snapshot, that the book kept is the exchange's. -/
theorem tracks_message (sequenced : protocol.Sequenced upstream) {read : List Frame}
    (delivery : (read ++ [msg]).Sublist upstream)
    (reached : (streamBookTicker ctx).after .init read = some locals) :
    (levels.gap locals msg = false ↔ msg.type = some "snapshot" ∨
        ∀ m₀ ∈ read.getLast?, protocol.previous msg = m₀.u) ∧
      ((levels.receive locals msg).bootstrapped = true ↔ Begun read msg) ∧
      ((levels.receive locals msg).bootstrapped = true → levels.gap locals msg = false →
        levels.parses msg = true → ∀ earlier m', earlier ++ [m'] <+: upstream → m'.u = msg.u →
          (levels.update 1 locals msg).Represents 1 (protocol.bookAfter (earlier ++ [m']))) := by
  have linked := levels_sequenced sequenced
  obtain ⟨front, sent, inFront⟩ := Protocol.sent_of_delivered delivery
  have tracks := Protocol.tracks_after linked ((List.sublist_append_left _ _).trans delivery)
    (follower_of_after reached)
  refine ⟨?_, ?_, fun ready continues parses earlier m' sent' same => ?_⟩
  · rw [tracks.gap_iff linked inFront sent]
    simp [levels, protocol]
  · rw [Protocol.receive_bootstrapped, tracks.bootstrapped]
    simp [levels, protocol, Begun, or_and_right, exists_or]
  · have moved : (levels.follow 1 1 locals msg).2 = some (levels.update 1 locals msg) := by
      simp [Protocol.follow, continues, ready, parses]
    have next := tracks.step linked inFront sent moved
    exact next.book ready earlier m' sent' (same.trans (levels.receive_last locals msg).symm)

/-- Whatever messages are lost, a ticker tells the best levels of the exchange's book at the
message just processed, and what comes of a message depends on that book alone. -/
theorem bookTickers_exact (ctx : Context) (sequenced : protocol.Sequenced upstream)
    (received : delivered.Sublist upstream) :
    (∀ m ticker, (m, ticker) ∈ (streamBookTicker ctx).yields .init delivered →
      ∀ earlier m', earlier ++ [m'] <+: upstream → m'.u = m.u →
        BestOf (protocol.bookAfter (earlier ++ [m'])) ticker) ∧
    ∀ read m s, read ++ [m] <+: delivered → (streamBookTicker ctx).after .init read = some s →
      ∀ earlier m', earlier ++ [m'] <+: upstream → m'.u = m.u →
        Handles ctx s read m (protocol.bookAfter (earlier ++ [m'])) := by
  refine ⟨fun m ticker output earlier m' sent same => ?_,
    fun read m s portion reached earlier m' sent same => ?_⟩
  · obtain ⟨read, late, s, rfl, reached, output⟩ := (Stream.mem_yields _).mp output
    have upto : (read ++ [m]).Sublist upstream := by
      refine List.Sublist.trans ?_ received
      exact (List.append_sublist_append_left _).mpr (List.singleton_sublist.mpr List.mem_cons_self)
    obtain ⟨-, -, represents⟩ := tracks_message sequenced upto reached
    change ticker ∈ (step ctx s m).1 at output
    rw [step_eq] at output
    split_ifs at output with gap ready parses
    · cases output
    · have shown := represents ready (Bool.eq_false_iff.mpr gap) parses earlier m' sent same
      rcases told_cases ctx m shown with ⟨-, told⟩ | ⟨-, -, told⟩ | ⟨-, -, own, told, best⟩
      · rw [told] at output
        cases output
      · rw [told] at output
        cases output
      · rw [told, List.mem_singleton] at output
        exact output ▸ best
    · cases output
    · cases output
  · have upto := portion.sublist.trans received
    obtain ⟨continues, begun, represents⟩ := tracks_message sequenced upto reached
    have both : ((step ctx s m).2.isSome ↔ levels.gap s m = false ∧
          ((levels.receive s m).bootstrapped = true → levels.parses m = true ∧
            (TwoSided (protocol.bookAfter (earlier ++ [m'])) → Tellable ctx m))) ∧
        ((step ctx s m).2.isSome → ((step ctx s m).1 ≠ [] ↔
          (levels.receive s m).bootstrapped = true ∧
            TwoSided (protocol.bookAfter (earlier ++ [m'])))) := by
      rw [step_eq]
      cases gap : levels.gap s m with
      | true => simp
      | false =>
        by_cases ready : (levels.receive s m).bootstrapped = true
        · by_cases parses : levels.parses m = true
          · have shown := represents ready gap parses earlier m' sent same
            rcases told_cases ctx m shown with ⟨oneSided, told⟩ | ⟨twoSided, untold, told⟩ |
              ⟨twoSided, tells, own, told, -⟩
            · simp [ready, parses, told, oneSided]
            · simp [ready, parses, told, twoSided, untold]
            · simp [ready, parses, told, twoSided, tells]
          · simp [ready, parses]
        · simp [ready]
    rw [continues, begun] at both
    exact ⟨both.1, both.2⟩

def perpetual : Context := ⟨"BTCUSD", id, .inverse, "USD", some 1⟩

/-- The first delta is lost, and the second ends the stream. -/
theorem bookTickers_exact_perpetual :
    ((streamBookTicker perpetual).yields .init (bybitFeed.eraseIdx 1)).length = 1 ∧
    ∃ m ticker, (m, ticker) ∈ (streamBookTicker perpetual).yields .init (bybitFeed.eraseIdx 1) ∧
      ticker.bidPrice = 99 ∧ BestOf (protocol.bookAfter (bybitFeed.take 1)) ticker := by
  have tickers : ((streamBookTicker perpetual).yields .init (bybitFeed.eraseIdx 1)).any
      (fun told => told.1.u = some 7 && told.2.bidPrice = 99) = true := by decide +kernel
  obtain ⟨⟨m, ticker⟩, member, facts⟩ := List.any_eq_true.mp tickers
  simp only [Bool.and_eq_true, decide_eq_true_eq] at facts
  have sent : [] ++ [bybitFeed[0]] <+: bybitFeed := ⟨bybitFeed.drop 1, rfl⟩
  refine ⟨by decide +kernel, m, ticker, member, facts.2, ?_⟩
  exact (bookTickers_exact perpetual bybitFeed_sequenced (List.eraseIdx_sublist bybitFeed 1)).1 m
    ticker member [] bybitFeed[0] sent facts.1.symm

end ExchangeRouter.Bybit.BookTickers
