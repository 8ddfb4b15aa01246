import ExchangeRouter.OrderBooks.Model

/-!
# Kraken `stream_orderbook`

`src/exchanges/kraken/adapter.py`.  Both streams apply every message that they
are delivered to the levels they hold; no message carries a sequence id that
they check.
-/
namespace ExchangeRouter.OrderBooks.Kraken
open Lib

/-- What is fixed when the stream starts. -/
structure Context where
  modelSym : String
  marketType : MarketType
  quote : String
  depth : Nat

def orderBook (ctx : Context) (qtyUnit : QtyUnit) (shown : Ladders ℚ ℚ) (timestamp : ℤ) :
    OrderBook where
  symbol := ctx.modelSym
  marketType := ctx.marketType
  quote := ctx.quote
  bids := shown.bids
  asks := shown.asks
  qtyUnit := qtyUnit
  timestamp := timestamp

/-- An element of the `data` of a spot frame. -/
structure SpotItem where
  symbol : Option String
  bids : List Entry
  asks : List Entry
  timestamp : Option ℤ
  deriving DecidableEq

structure SpotFrame where
  channel : Option String
  type : Option String
  data : List SpotItem
  deriving DecidableEq

/-- `_route` of a spot hub. -/
def spotRoute (msg : SpotFrame) : Option String :=
  match msg.channel, msg.data with
  | some channel, item :: _ =>
    match item.symbol with
    | some symbol => if channel = "" ∨ symbol = "" then none else some (channel ++ ":" ++ symbol)
    | none => none
  | _, _ => none

/-- The loop over the items of a frame. -/
def spotItems (ctx : Context) : Stream Locals SpotItem OrderBook where
  init := .init
  step := fun locals item =>
    process (fun q => q) ctx.depth (orderBook ctx .base) item.bids item.asks item.timestamp locals

def spotStep (ctx : Context) (locals : Locals) (msg : SpotFrame) :
    List OrderBook × Option Locals :=
  if msg.channel ≠ some "book" ∨ (msg.type ≠ some "snapshot" ∧ msg.type ≠ some "update") then
    ([], some locals)
  else
    let locals :=
      if msg.type = some "snapshot" then ⟨.empty, .empty, locals.last, true⟩ else locals
    if !locals.bootstrapped then ([], some locals)
    else
      (((spotItems ctx).yields locals msg.data).map Prod.snd, (spotItems ctx).after locals msg.data)

def spotOrderbook (ctx : Context) : Stream Locals SpotFrame OrderBook := ⟨.init, spotStep ctx⟩

/-- The fields of a futures frame.  `price` and `qty` are `none` where the key
is absent and hold `none` where `float` raises. -/
structure FuturesFrame where
  feed : Option String
  productId : Option String
  bids : List Entry
  asks : List Entry
  side : Option String
  price : Option (Option ℚ)
  qty : Option (Option ℚ)
  timestamp : Option ℤ
  deriving DecidableEq

/-- `feed[: -len("_snapshot")]` if it ends so. -/
def stripSnapshot (feed : String) : String :=
  if "_snapshot".toList.isSuffixOf feed.toList then
    String.ofList (feed.toList.take (feed.length - 9))
  else feed

/-- `_route` of a futures hub. -/
def futuresRoute (msg : FuturesFrame) : Option String :=
  match msg.feed, msg.productId with
  | some feed, some productId =>
    if feed = "" ∨ productId = "" then none else some (stripSnapshot feed ++ ":" ++ productId)
  | _, _ => none

/-- The loop over the levels of a futures snapshot: `if q > 0: side[p] = q`. -/
def applyPositive : Dict ℚ ℚ → List Entry → Option (Dict ℚ ℚ)
  | side, [] => some side
  | _, none :: _ => none
  | side, some (p, q) :: rest => applyPositive (if 0 < q then side.set p q else side) rest

/-- `data.get("side", "").lower()`. -/
def lower (side : String) : List Char := side.toList.map Char.toLower

/-- The end of the loop body: skip a book with an empty side, else yield it. -/
def futuresShow (ctx : Context) (timestamp : Option ℤ) (locals : Locals) :
    List OrderBook × Option Locals :=
  if locals.bids.isEmpty || locals.asks.isEmpty then ([], some locals)
  else
    match timestamp with
    | some timestamp =>
      ([orderBook ctx (if ctx.marketType = .inverse then .contract else .base)
          ⟨locals.bids.best (· > ·) ctx.depth, locals.asks.best (· < ·) ctx.depth⟩ timestamp],
        some locals)
    | none => ([], none)

/-- `if q == 0: book.pop(p, None)`, else `book[p] = q`. -/
def storeLevel (side : Dict ℚ ℚ) (p q : ℚ) : Dict ℚ ℚ := if q = 0 then side.pop p else side.set p q

def futuresStep (ctx : Context) (locals : Locals) (data : FuturesFrame) :
    List OrderBook × Option Locals :=
  if data.feed = some "book_snapshot" then
    match applyPositive .empty data.bids, applyPositive .empty data.asks with
    | some bids, some asks => futuresShow ctx data.timestamp ⟨bids, asks, locals.last, true⟩
    | _, _ => ([], none)
  else if data.feed = some "book" then
    match data.side, data.price with
    | some side, some price =>
      if !locals.bootstrapped then ([], some locals)
      else
        match price, data.qty.getD (some 0) with
        | some p, some q =>
          if lower side = "buy".toList then
            futuresShow ctx data.timestamp { locals with bids := storeLevel locals.bids p q }
          else if lower side = "sell".toList then
            futuresShow ctx data.timestamp { locals with asks := storeLevel locals.asks p q }
          else ([], some locals)
        | _, _ => ([], none)
    | _, _ => ([], some locals)
  else ([], some locals)

def futuresOrderbook (ctx : Context) : Stream Locals FuturesFrame OrderBook :=
  ⟨.init, futuresStep ctx⟩

/-- How Kraken's spot frames are meant; they carry no sequence id. -/
def SpotFrame.isBook (msg : SpotFrame) : Bool :=
  msg.channel = some "book" && (msg.type = some "snapshot" || msg.type = some "update")

def spotFeed : Protocol SpotFrame ℚ ℚ ℤ where
  snapshot := fun msg => msg.channel = some "book" && msg.type = some "snapshot"
  id := fun _ => none
  previous := fun _ => none
  bids := fun msg => if msg.isBook then msg.data.flatMap fun item => item.bids.reduceOption else []
  asks := fun msg => if msg.isBook then msg.data.flatMap fun item => item.asks.reduceOption else []
  parses := fun _ => true

/-- The level of a futures delta, if it is one of the given side. -/
def FuturesFrame.level (msg : FuturesFrame) (side : String) : List (ℚ × ℚ) :=
  match msg.side, msg.price, msg.qty.getD (some 0) with
  | some own, some (some p), some q =>
    if msg.feed = some "book" ∧ lower own = side.toList then [(p, q)] else []
  | _, _, _ => []

/-- How Kraken's futures frames are meant; a snapshot lists levels of positive
quantity. -/
def futuresFeed : Protocol FuturesFrame ℚ ℚ ℤ where
  snapshot := fun msg => msg.feed = some "book_snapshot"
  id := fun _ => none
  previous := fun _ => none
  bids := fun msg =>
    if msg.feed = some "book_snapshot" then msg.bids.reduceOption.filter fun level => 0 < level.2
    else msg.level "buy"
  asks := fun msg =>
    if msg.feed = some "book_snapshot" then msg.asks.reduceOption.filter fun level => 0 < level.2
    else msg.level "sell"
  parses := fun _ => true

/-- A stream that applies what it is delivered from the first snapshot on.
`cut n` is a message up to the `n`th of its parts, after each of which the
stream may yield. -/
structure Mirrors {μ : Type} (feed : Protocol μ ℚ ℚ ℤ) (cut : Nat → μ → μ) (depth : Nat)
    (T : Stream Locals μ OrderBook) : Prop where
  init : T.init = .init
  waits : ∀ locals m, locals.bootstrapped = false → feed.snapshot m = false →
    T.step locals m = ([], some locals)
  follows : ∀ locals m locals' book, (feed.snapshot m = false →
    locals.bootstrapped = true ∧ locals.Represents 1 book) → (T.step locals m).2 = some locals' →
      locals'.bootstrapped = true ∧ locals'.Represents 1 (feed.apply book m)
  shows : ∀ locals m book i output, (feed.snapshot m = false →
    locals.bootstrapped = true ∧ locals.Represents 1 book) →
      (T.step locals m).1[i]? = some output →
        Top 1 depth (feed.apply book (cut (i + 1) m)) output.ladders

/-- After any messages the levels held are those of the book they describe. -/
theorem Mirrors.after {μ : Type} {feed : Protocol μ ℚ ℚ ℤ} {cut : Nat → μ → μ} {depth : Nat}
    {T : Stream Locals μ OrderBook} (h : Mirrors feed cut depth T) {messages : List μ}
    {locals : Locals} (reached : T.after T.init messages = some locals) :
    locals.bootstrapped = messages.any feed.snapshot ∧
      (locals.bootstrapped = true → locals.Represents 1 (feed.bookAfter messages)) := by
  induction messages using List.reverseRecOn generalizing locals with
  | nil =>
    cases reached
    rw [h.init]
    exact ⟨rfl, fun started => by cases started⟩
  | append_singleton messages m ih =>
    rw [Stream.after_concat] at reached
    obtain ⟨before, earlier, moved⟩ := Option.bind_eq_some_iff.mp reached
    obtain ⟨started, holds⟩ := ih earlier
    rw [List.any_append, feed.bookAfter_append]
    cases snapshot : feed.snapshot m with
    | true =>
      obtain ⟨ready, represents⟩ := h.follows before m locals (feed.bookAfter messages)
        (fun delta => by rw [snapshot] at delta; cases delta) moved
      exact ⟨by simp [ready, snapshot], fun _ => represents⟩
    | false =>
      cases running : before.bootstrapped with
      | true =>
        obtain ⟨ready, represents⟩ := h.follows before m locals (feed.bookAfter messages)
          (fun _ => ⟨running, holds running⟩) moved
        exact ⟨by simp [ready, ← started, running], fun _ => represents⟩
      | false =>
        rw [h.waits before m running snapshot] at moved
        cases moved
        refine ⟨by simp [← started, running, snapshot], fun ready => ?_⟩
        rw [running] at ready
        cases ready

/-- A book after the items of a spot frame. -/
def applyItems (book : Book ℚ ℚ) (items : List SpotItem) : Book ℚ ℚ :=
  ⟨setLevels book.bids (items.flatMap fun item => item.bids.reduceOption),
    setLevels book.asks (items.flatMap fun item => item.asks.reduceOption)⟩

theorem applyItems_cons (book : Book ℚ ℚ) (item : SpotItem) (rest : List SpotItem) :
    applyItems book (item :: rest) = applyItems (applyItems book [item]) rest := by
  simp [applyItems, setLevels_append]

/-- One item: the stream ends, or holds and yields the book after the item. -/
theorem spotItems_step (ctx : Context) {locals : Locals} {book : Book ℚ ℚ}
    (ready : locals.bootstrapped = true) (holds : locals.Represents 1 book) (item : SpotItem) :
    (spotItems ctx).step locals item = ([], none) ∨ ∃ output locals',
      (spotItems ctx).step locals item = ([output], some locals') ∧
        locals'.bootstrapped = true ∧ locals'.Represents 1 (applyItems book [item]) ∧
        Top 1 ctx.depth (applyItems book [item]) output.ladders := by
  rcases process_cases (fun q => (mul_one q).symm) ctx.depth (orderBook ctx .base) item.bids item.asks
    item.timestamp ready with ends | ⟨timestamp, continues⟩
  · exact Or.inl ends
  · have moved : Replica.Represents 1 { locals with
        bids := locals.bids.setLevels 1 item.bids.reduceOption
        asks := locals.asks.setLevels 1 item.asks.reduceOption } (applyItems book [item]) := by
      simp only [applyItems, List.flatMap_singleton]
      exact ⟨holds.1.setLevels _, holds.2.setLevels _⟩
    exact Or.inr ⟨_, _, continues, ready, moved, moved.top one_ne_zero ctx.depth⟩

theorem spotItems_after (ctx : Context) {items : List SpotItem} {locals locals' : Locals}
    {book : Book ℚ ℚ} (ready : locals.bootstrapped = true) (holds : locals.Represents 1 book)
    (reached : (spotItems ctx).after locals items = some locals') :
    locals'.bootstrapped = true ∧ locals'.Represents 1 (applyItems book items) := by
  induction items generalizing locals book with
  | nil =>
    cases reached
    exact ⟨ready, holds⟩
  | cons item rest ih =>
    rw [Stream.after_cons] at reached
    rcases spotItems_step ctx ready holds item with ends | ⟨output, next, step, ready', holds', -⟩
    · rw [ends] at reached
      cases reached
    · rw [step] at reached
      rw [applyItems_cons]
      exact ih ready' holds' reached

theorem spotItems_yields (ctx : Context) {items : List SpotItem} {locals : Locals}
    {book : Book ℚ ℚ} (ready : locals.bootstrapped = true) (holds : locals.Represents 1 book)
    {i : Nat} {output : OrderBook}
    (shown : (((spotItems ctx).yields locals items).map Prod.snd)[i]? = some output) :
    Top 1 ctx.depth (applyItems book (items.take (i + 1))) output.ladders := by
  induction items generalizing locals book i with
  | nil => simp at shown
  | cons item rest ih =>
    rw [Stream.yields] at shown
    rcases spotItems_step ctx ready holds item with ends | ⟨first, next, step, ready', holds', top⟩
    · simp [ends] at shown
    · rw [step] at shown
      cases i with
      | zero =>
        cases shown
        simpa using top
      | succ i =>
        rw [List.take_succ_cons, applyItems_cons]
        exact ih ready' holds' (by simpa using shown)

/-- The levels a spot frame of the book starts from. -/
def spotStart (locals : Locals) (msg : SpotFrame) : Locals :=
  if spotFeed.snapshot msg then ⟨.empty, .empty, locals.last, true⟩ else locals

theorem spotStep_ignored (ctx : Context) (locals : Locals) {msg : SpotFrame}
    (other : msg.isBook = false) : spotStep ctx locals msg = ([], some locals) := by
  unfold SpotFrame.isBook at other
  unfold spotStep
  by_cases channel : msg.channel = some "book"
  · have kind : msg.type ≠ some "snapshot" ∧ msg.type ≠ some "update" := by simpa [channel] using other
    simp [kind]
  · simp [channel]

theorem spotStep_book (ctx : Context) (locals : Locals) {msg : SpotFrame}
    (own : msg.isBook = true) : spotStep ctx locals msg =
      if (spotStart locals msg).bootstrapped then
        (((spotItems ctx).yields (spotStart locals msg) msg.data).map Prod.snd,
          (spotItems ctx).after (spotStart locals msg) msg.data)
      else ([], some (spotStart locals msg)) := by
  obtain ⟨channel, kind⟩ := Bool.and_eq_true_iff.mp own
  have isBook : msg.channel = some "book" := of_decide_eq_true channel
  have start : spotStart locals msg =
      if msg.type = some "snapshot" then ⟨.empty, .empty, locals.last, true⟩ else locals := by
    simp [spotStart, spotFeed, isBook]
  have known : ¬ (msg.channel ≠ some "book" ∨
      (msg.type ≠ some "snapshot" ∧ msg.type ≠ some "update")) := by
    simp only [Bool.or_eq_true, decide_eq_true_eq] at kind
    rw [not_or, not_not, not_and_or, not_not, not_not]
    exact ⟨isBook, kind⟩
  unfold spotStep
  rw [if_neg known, start]
  generalize (if msg.type = some "snapshot" then _ else locals : Locals) = begun
  cases ready : begun.bootstrapped <;> simp [ready]

theorem spotFeed_apply_ignored (book : Book ℚ ℚ) {msg : SpotFrame} (other : msg.isBook = false) :
    spotFeed.snapshot msg = false ∧ spotFeed.apply book msg = book := by
  have delta : spotFeed.snapshot msg = false := by
    by_contra isSnapshot
    simp only [spotFeed, Bool.not_eq_false, Bool.and_eq_true, decide_eq_true_eq] at isSnapshot
    simp [SpotFrame.isBook, isSnapshot] at other
  refine ⟨delta, ?_⟩
  unfold Protocol.apply
  rw [delta]
  simp [spotFeed, other, setLevels]

theorem spotFeed_apply (book : Book ℚ ℚ) {msg : SpotFrame} (own : msg.isBook = true) :
    spotFeed.apply book msg =
      applyItems (if spotFeed.snapshot msg then .empty else book) msg.data := by
  simp [Protocol.apply, applyItems, spotFeed, own]

theorem spotStart_represents {locals : Locals} {book : Book ℚ ℚ} {msg : SpotFrame}
    (h : spotFeed.snapshot msg = false → locals.bootstrapped = true ∧ locals.Represents 1 book) :
    (spotStart locals msg).bootstrapped = true ∧ (spotStart locals msg).Represents 1
      (if spotFeed.snapshot msg then .empty else book) := by
  unfold spotStart
  cases snapshot : spotFeed.snapshot msg with
  | true => exact ⟨rfl, Dict.represents_empty 1, Dict.represents_empty 1⟩
  | false => exact h snapshot

/-- A spot frame up to its `n`th item. -/
def SpotFrame.cut (n : Nat) (msg : SpotFrame) : SpotFrame := { msg with data := msg.data.take n }

/-- The spot stream holds the book that the frames it was delivered describe. -/
theorem spotOrderbook_mirrors (ctx : Context) :
    Mirrors spotFeed SpotFrame.cut ctx.depth (spotOrderbook ctx) where
  init := rfl
  waits := fun locals msg waiting delta => by
    change spotStep ctx locals msg = _
    have start : spotStart locals msg = locals := by simp [spotStart, delta]
    cases own : msg.isBook with
    | false => exact spotStep_ignored ctx locals own
    | true => simp [spotStep_book ctx locals own, start, waiting]
  follows := fun locals msg locals' book h moved => by
    change (spotStep ctx locals msg).2 = some locals' at moved
    cases own : msg.isBook with
    | false =>
      obtain ⟨delta, same⟩ := spotFeed_apply_ignored book own
      rw [spotStep_ignored ctx locals own] at moved
      cases moved
      rw [same]
      exact h delta
    | true =>
      obtain ⟨ready, represents⟩ := spotStart_represents h
      rw [spotStep_book ctx locals own, if_pos ready] at moved
      rw [spotFeed_apply book own]
      exact spotItems_after ctx ready represents moved
  shows := fun locals msg book i output h shown => by
    change (spotStep ctx locals msg).1[i]? = some output at shown
    cases own : msg.isBook with
    | false =>
      rw [spotStep_ignored ctx locals own] at shown
      simp at shown
    | true =>
      obtain ⟨ready, represents⟩ := spotStart_represents h
      have ownCut : (msg.cut (i + 1)).isBook = true := own
      rw [spotStep_book ctx locals own, if_pos ready] at shown
      rw [spotFeed_apply book ownCut]
      exact spotItems_yields ctx ready represents shown

theorem applyPositive_eq (side : Dict ℚ ℚ) (entries : List Entry) : applyPositive side entries =
    if parsed entries then
      some (side.setLevels 1 (entries.reduceOption.filter fun level => 0 < level.2))
    else none := by
  induction entries generalizing side with
  | nil => rfl
  | cons entry rest ih =>
    cases entry with
    | none => rfl
    | some level =>
      rw [applyPositive, ih, List.reduceOption_cons_of_some]
      by_cases positive : 0 < level.2
      · have nonzero : level.2 ≠ 0 := ne_of_gt positive
        simp [parsed, positive, Dict.setLevels, Dict.setLevel, nonzero]
      · simp [parsed, positive]

/-- A book that is held is shown, unless a side is empty. -/
theorem futuresShow_keeps (ctx : Context) (timestamp : Option ℤ) {locals : Locals}
    {book : Book ℚ ℚ} (ready : locals.bootstrapped = true) (holds : locals.Represents 1 book) :
    (∀ locals', (futuresShow ctx timestamp locals).2 = some locals' →
      locals'.bootstrapped = true ∧ locals'.Represents 1 book) ∧
    ∀ output ∈ (futuresShow ctx timestamp locals).1, Top 1 ctx.depth book output.ladders := by
  unfold futuresShow
  split
  · refine ⟨fun locals' moved => ?_, by simp⟩
    cases moved
    exact ⟨ready, holds⟩
  · split
    · refine ⟨fun locals' moved => ?_, fun output member => ?_⟩
      · cases moved
        exact ⟨ready, holds⟩
      · rw [List.mem_singleton.mp member]
        exact holds.top one_ne_zero ctx.depth
    · exact ⟨fun _ moved => (by cases moved), by simp⟩

theorem storeLevel_eq (side : Dict ℚ ℚ) (p q : ℚ) :
    storeLevel side p q = side.setLevels 1 [(p, q)] := by
  simp [storeLevel, Dict.setLevels, Dict.setLevel]

/-- A futures frame that names no level leaves the book. -/
theorem futuresFeed_apply_ignored (book : Book ℚ ℚ) {data : FuturesFrame}
    (delta : data.feed ≠ some "book_snapshot") (noBid : data.level "buy" = [])
    (noAsk : data.level "sell" = []) :
    futuresFeed.snapshot data = false ∧ futuresFeed.apply book data = book := by
  have notSnapshot : futuresFeed.snapshot data = false := by simp [futuresFeed, delta]
  refine ⟨notSnapshot, ?_⟩
  unfold Protocol.apply
  rw [notSnapshot]
  simp [futuresFeed, delta, noBid, noAsk, setLevels]

theorem futuresFeed_apply_delta (book : Book ℚ ℚ) {data : FuturesFrame}
    (delta : data.feed ≠ some "book_snapshot") : futuresFeed.apply book data =
      ⟨setLevels book.bids (data.level "buy"), setLevels book.asks (data.level "sell")⟩ := by
  simp [Protocol.apply, futuresFeed, delta]

theorem level_of_fields {data : FuturesFrame} {own side : String} {p q : ℚ}
    (feed : data.feed = some "book") (sideIs : data.side = some own)
    (priceIs : data.price = some (some p)) (qtyIs : data.qty.getD (some 0) = some q) :
    data.level side = if lower own = side.toList then [(p, q)] else [] := by
  simp [FuturesFrame.level, sideIs, priceIs, qtyIs, feed]

theorem futuresStep_snapshot (ctx : Context) (locals : Locals) (book : Book ℚ ℚ)
    {data : FuturesFrame} (snapshot : data.feed = some "book_snapshot") :
    futuresStep ctx locals data = ([], none) ∨
      ∃ next, futuresStep ctx locals data = futuresShow ctx data.timestamp next ∧
        next.bootstrapped = true ∧ next.Represents 1 (futuresFeed.apply book data) := by
  unfold futuresStep
  rw [if_pos snapshot, applyPositive_eq, applyPositive_eq]
  cases bids : parsed data.bids with
  | false => exact Or.inl rfl
  | true =>
    cases asks : parsed data.asks with
    | false => exact Or.inl rfl
    | true =>
      refine Or.inr ⟨_, rfl, rfl, ?_⟩
      simp only [Protocol.apply, futuresFeed, snapshot, decide_true, if_true]
      exact ⟨(Dict.represents_empty 1).setLevels _, (Dict.represents_empty 1).setLevels _⟩

/-- A level of a futures delta is stored on its side; a delta of no side is
skipped. -/
theorem futuresStep_level (ctx : Context) {locals : Locals} {book : Book ℚ ℚ} {data : FuturesFrame}
    (ready : locals.bootstrapped = true) (holds : locals.Represents 1 book) {own : String} {p q : ℚ}
    (delta : data.feed = some "book") (sideIs : data.side = some own)
    (priceIs : data.price = some (some p)) (qtyIs : data.qty.getD (some 0) = some q) :
    (futuresStep ctx locals data = ([], some locals) ∧ futuresFeed.apply book data = book) ∨
      ∃ next, futuresStep ctx locals data = futuresShow ctx data.timestamp next ∧
        next.bootstrapped = true ∧ next.Represents 1 (futuresFeed.apply book data) := by
  have notSnapshot : data.feed ≠ some "book_snapshot" := by simp [delta]
  have level : ∀ side : String, data.level side =
      if lower own = side.toList then [(p, q)] else [] :=
    fun side => level_of_fields delta sideIs priceIs qtyIs
  have step : futuresStep ctx locals data =
      if lower own = "buy".toList then
        futuresShow ctx data.timestamp { locals with bids := storeLevel locals.bids p q }
      else if lower own = "sell".toList then
        futuresShow ctx data.timestamp { locals with asks := storeLevel locals.asks p q }
      else ([], some locals) := by
    simp [futuresStep, delta, sideIs, priceIs, qtyIs, ready]
  rw [futuresFeed_apply_delta book notSnapshot, step, level, level]
  by_cases buys : lower own = "buy".toList
  · have notSell : lower own ≠ "sell".toList := by
      rw [buys]
      decide
    rw [if_pos buys, if_pos buys, if_neg notSell, storeLevel_eq]
    exact Or.inr ⟨_, rfl, ready, holds.1.setLevels _, holds.2⟩
  · rw [if_neg buys, if_neg buys]
    by_cases sells : lower own = "sell".toList
    · rw [if_pos sells, if_pos sells, storeLevel_eq]
      exact Or.inr ⟨_, rfl, ready, holds.1, holds.2.setLevels _⟩
    · rw [if_neg sells, if_neg sells]
      exact Or.inl ⟨rfl, rfl⟩

/-- What a futures frame does: nothing, or it ends the stream, or the levels it
leaves are shown. -/
theorem futuresStep_cases (ctx : Context) {locals : Locals} {book : Book ℚ ℚ} {data : FuturesFrame}
    (h : futuresFeed.snapshot data = false →
      locals.bootstrapped = true ∧ locals.Represents 1 book) :
    (futuresStep ctx locals data = ([], some locals) ∧ futuresFeed.snapshot data = false ∧
      futuresFeed.apply book data = book) ∨
    futuresStep ctx locals data = ([], none) ∨
    ∃ next, futuresStep ctx locals data = futuresShow ctx data.timestamp next ∧
      next.bootstrapped = true ∧ next.Represents 1 (futuresFeed.apply book data) := by
  by_cases snapshot : data.feed = some "book_snapshot"
  · exact Or.inr (futuresStep_snapshot ctx locals book snapshot)
  have notSnapshot : futuresFeed.snapshot data = false := by simp [futuresFeed, snapshot]
  obtain ⟨ready, holds⟩ := h notSnapshot
  have ignored : (∀ side, data.level side = []) → futuresStep ctx locals data = ([], some locals) →
      (futuresStep ctx locals data = ([], some locals) ∧ futuresFeed.snapshot data = false ∧
        futuresFeed.apply book data = book) := fun noLevel step =>
    ⟨step, futuresFeed_apply_ignored book snapshot (noLevel "buy") (noLevel "sell")⟩
  by_cases delta : data.feed = some "book"
  · cases sideIs : data.side with
    | none =>
      exact Or.inl (ignored (by simp [FuturesFrame.level, sideIs]) (by
        simp [futuresStep, delta, sideIs]))
    | some own =>
      cases priceIs : data.price with
      | none =>
        exact Or.inl (ignored (by simp [FuturesFrame.level, priceIs]) (by
          simp [futuresStep, delta, sideIs, priceIs]))
      | some price =>
        cases price with
        | none =>
          exact Or.inr (Or.inl (by simp [futuresStep, delta, sideIs, priceIs, ready]))
        | some p =>
          cases qtyIs : data.qty.getD (some 0) with
          | none =>
            exact Or.inr (Or.inl (by simp [futuresStep, delta, sideIs, priceIs, qtyIs, ready]))
          | some q =>
            rcases futuresStep_level ctx ready holds delta sideIs priceIs qtyIs with
              ⟨skipped, same⟩ | shows
            · exact Or.inl ⟨skipped, notSnapshot, same⟩
            · exact Or.inr (Or.inr shows)
  · have noLevel : ∀ side, data.level side = [] := fun side => by
      unfold FuturesFrame.level
      split
      · simp [delta]
      · rfl
    exact Or.inl (ignored noLevel (by simp [futuresStep, snapshot, delta]))

/-- The futures stream holds the book that the frames it was delivered
describe. -/
theorem futuresOrderbook_mirrors (ctx : Context) :
    Mirrors futuresFeed (fun _ msg => msg) ctx.depth (futuresOrderbook ctx) where
  init := rfl
  waits := fun locals data waiting delta => by
    have notSnapshot : data.feed ≠ some "book_snapshot" := of_decide_eq_false delta
    change futuresStep ctx locals data = _
    unfold futuresStep
    rw [if_neg notSnapshot]
    split
    · split <;> simp [waiting]
    · rfl
  follows := fun locals data locals' book h moved => by
    change (futuresStep ctx locals data).2 = some locals' at moved
    rcases futuresStep_cases ctx h with ⟨ignored, delta, same⟩ | ends | ⟨next, shows, ready, holds⟩
    · rw [ignored] at moved
      cases moved
      rw [same]
      exact h delta
    · rw [ends] at moved
      cases moved
    · rw [shows] at moved
      exact (futuresShow_keeps ctx data.timestamp ready holds).1 locals' moved
  shows := fun locals data book i output h shown => by
    change (futuresStep ctx locals data).1[i]? = some output at shown
    rcases futuresStep_cases ctx h with ⟨ignored, -, -⟩ | ends | ⟨next, shows, ready, holds⟩
    · simp [ignored] at shown
    · simp [ends] at shown
    · rw [shows] at shown
      exact (futuresShow_keeps ctx data.timestamp ready holds).2 output (List.mem_of_getElem? shown)

end ExchangeRouter.OrderBooks.Kraken
