import Mathlib.Data.List.DropRight
import Mathlib.Tactic.NormNum
import ExchangeRouter.Lib.Guarded
import ExchangeRouter.Lib.Dict
import ExchangeRouter.Records.Model

/-!
# Bybit `stream_ticker`

`src/exchanges/bybit/adapter.py`.  A snapshot replaces the merged state and a
delta updates it, before any field is read; the tickers are built from the
merged state.  Numbers are finite.
-/
namespace ExchangeRouter.Bybit.Tickers
open Lib OrderBooks Records

/-- What is fixed when the stream starts. -/
structure Context where
  text : TextNumbers
  apiSymbol : String
  marketType : MarketType
  quote : String
  contractSize : Option ℚ

/-- A message, and the clock when its ticker is built. -/
structure Frame where
  msg : Json
  now : ℚ

structure Locals where
  state : Dict String Json
  bootstrapped : Bool

def getModelSymbol (apiSymbol : String) : String :=
  let s := apiSymbol.toUpper
  if "_PERP".toList.isSuffixOf s.toList then String.ofList (s.toList.rdrop 5) else s

def normalizeTimestamp (text : TextNumbers) (ts : Json) : Except PyError ℤ :=
  match ts.float text with
  | .ok x =>
    let val := truncate x
    .ok (if val < 100000000000 then val * 1000 else val)
  | .error _ => .error (.valueError "Invalid Bybit timestamp")

section Update

def wrongLength : PyError :=
  .valueError "dictionary update sequence element has the wrong length; 2 is required"

/-- The key and the value that `dict` takes an element of a list for. -/
def pairOf : Json → Except PyError (Json × Json)
  | .arr [key, value] => .ok (key, value)
  | .arr _ => .error wrongLength
  | .obj [(key, _), (value, _)] => .ok (.str key, .str value)
  | .obj _ => .error wrongLength
  | .str s =>
    match s.toList with
    | [key, value] => .ok (.str key.toString, .str value.toString)
    | _ => .error wrongLength
  | _ => .error .typeError

/-- `state.update(items)`: what precedes a bad element is kept.  A key that is
not a text is never read. -/
def updatePairs : Dict String Json → List Json → Dict String Json × Except PyError Unit
  | state, [] => (state, .ok ())
  | state, item :: rest =>
    match pairOf item with
    | .error e => (state, .error e)
    | .ok (.str key, value) => updatePairs (state.set key value) rest
    | .ok (.arr _, _) | .ok (.obj _, _) => (state, .error .typeError)
    | .ok _ => updatePairs state rest

def updateFields : Dict String Json → List (String × Json) → Dict String Json
  | state, [] => state
  | state, (key, value) :: rest => updateFields (state.set key value) rest

/-- `state.update(d)`; `dict(d)` is the update of an empty dictionary. -/
def update (state : Dict String Json) (d : Json) : Dict String Json × Except PyError Unit :=
  match d with
  | .obj fields => (updateFields state fields, .ok ())
  | .arr items => updatePairs state items
  | .str s => (state, if s = "" then .ok () else .error wrongLength)
  | _ => (state, .error .typeError)

end Update

def tickerFields : List String :=
  ["symbol", "lastPrice", "prevPrice24h", "highPrice24h", "lowPrice24h", "volume24h",
    "price24hPcnt"]

/-- `float(state.get(key) or 0)`. -/
def number (ctx : Context) (state : Dict String Json) (key : String) : Except PyError ℚ :=
  ((state.getD key .null).or (.num 0)).float ctx.text

/-- `get_model_symbol` needs a text. -/
def symbol (ctx : Context) (state : Dict String Json) : Except PyError String :=
  match state.getD "symbol" (.str ctx.apiSymbol) with
  | .str s => .ok (getModelSymbol s)
  | _ => .error .attributeError

def ticker (ctx : Context) (state : Dict String Json) (frame : Frame) :
    Except PyError (Option Ticker) := do
  let closePrice ← number ctx state "lastPrice"
  return some {
    symbol := ← symbol ctx state
    marketType := ctx.marketType
    quote := ctx.quote
    price := closePrice
    open24h := ← number ctx state "prevPrice24h"
    high24h := ← number ctx state "highPrice24h"
    low24h := ← number ctx state "lowPrice24h"
    volume24h := ← buildVolumeValue (← number ctx state "volume24h")
      (if ctx.marketType = .inverse then .contract else .base) ctx.contractSize closePrice
    priceChangePercent := (← number ctx state "price24hPcnt") * 100
    timestamp := ← normalizeTimestamp ctx.text (← frame.msg.getD "ts" (.num frame.now)) }

/-- `msg.get("data") or {}`. -/
def dataOf (msg : Json) : Except PyError Json :=
  (msg.getD "data" .null).map fun d => d.or (.obj [])

def isSnapshot (msg : Json) : Bool :=
  match msg.getD "type" .null with
  | .ok type => type.isText "snapshot"
  | .error _ => false

/-- The body of the loop. -/
def body (ctx : Context) (locals : Locals) (frame : Frame) :
    Locals × Except PyError (Option Ticker) :=
  match dataOf frame.msg with
  | .error e => (locals, .error e)
  | .ok d =>
    if isSnapshot frame.msg then
      match update .empty d with
      | (_, .error e) => (locals, .error e)
      | (state, .ok _) => (⟨state, true⟩, ticker ctx state frame)
    else
      match update locals.state d with
      | (state, .error e) => (⟨state, locals.bootstrapped⟩, .error e)
      | (state, .ok _) =>
        (⟨state, locals.bootstrapped⟩,
          if locals.bootstrapped then ticker ctx state frame else .ok none)

def streamTicker (ctx : Context) : Guarded Locals Frame PyError Ticker where
  init := ⟨.empty, false⟩
  body := body ctx
  caught := skipsFrame

section Updated

theorem updateFields_get? (state : Dict String Json) (fields : List (String × Json))
    (key : String) : (updateFields state fields).get? key =
      ((updateFields .empty fields).get? key).or (state.get? key) := by
  induction fields generalizing state with
  | nil => simp [updateFields]
  | cons field rest ih =>
    obtain ⟨name, value⟩ := field
    rw [updateFields, updateFields, ih (state.set name value), ih (Dict.set .empty name value),
      Option.or_assoc]
    simp only [Dict.get?_set, Dict.get?_empty]
    split <;> simp

theorem updatePairs_spec (state : Dict String Json) (items : List Json) (key : String) :
    (updatePairs state items).1.get? key =
        ((updatePairs .empty items).1.get? key).or (state.get? key) ∧
      (updatePairs state items).2 = (updatePairs .empty items).2 := by
  induction items generalizing state with
  | nil => simp [updatePairs]
  | cons item rest ih =>
    unfold updatePairs
    split
    · simp
    · rename_i name value _
      rw [(ih (state.set name value)).1, (ih (state.set name value)).2,
        (ih (Dict.set .empty name value)).1, (ih (Dict.set .empty name value)).2, Option.or_assoc]
      simp only [Dict.get?_set, Dict.get?_empty]
      split <;> simp
    · simp
    · simp
    · exact ih state

/-- An update overlays what the data holds by itself, and fails by itself. -/
theorem update_spec (state : Dict String Json) (d : Json) (key : String) :
    (update state d).1.get? key = ((update .empty d).1.get? key).or (state.get? key) ∧
      (update state d).2 = (update .empty d).2 := by
  cases d with
  | obj fields => exact ⟨updateFields_get? state fields key, rfl⟩
  | arr items => exact updatePairs_spec state items key
  | null | bool _ | num _ | str _ => simp [update]

end Updated

/-- States from which every frame has the same ticker. -/
structure Agree (a b : Locals) : Prop where
  bootstrapped : a.bootstrapped = b.bootstrapped
  fields : ∀ key ∈ tickerFields, a.state.get? key = b.state.get? key

section Body
variable {ctx : Context} {a b locals : Locals} {frame : Frame}

theorem ticker_congr {state other : Dict String Json} (frame : Frame)
    (same : ∀ key ∈ tickerFields, state.get? key = other.get? key) :
    ticker ctx state frame = ticker ctx other frame := by
  have numbers : ∀ key ∈ tickerFields, number ctx state key = number ctx other key := by
    intro key member
    rw [number, number, Dict.getD, Dict.getD, same key member]
  have symbols : symbol ctx state = symbol ctx other := by
    rw [symbol, symbol, Dict.getD, Dict.getD, same "symbol" (by decide)]
  unfold ticker
  rw [symbols, numbers "lastPrice" (by decide), numbers "prevPrice24h" (by decide),
    numbers "highPrice24h" (by decide), numbers "lowPrice24h" (by decide),
    numbers "volume24h" (by decide), numbers "price24hPcnt" (by decide)]

theorem update_agree (d : Json) (same : ∀ key ∈ tickerFields, a.state.get? key = b.state.get? key) :
    ∀ key ∈ tickerFields, (update a.state d).1.get? key = (update b.state d).1.get? key := by
  intro key member
  rw [(update_spec a.state d key).1, (update_spec b.state d key).1, same key member]

theorem body_agree (agree : Agree a b) (frame : Frame) :
    (body ctx a frame).2 = (body ctx b frame).2 ∧
      Agree (body ctx a frame).1 (body ctx b frame).1 := by
  unfold body
  cases dataOf frame.msg with
  | error e => exact ⟨rfl, agree⟩
  | ok d =>
    by_cases snapshot : isSnapshot frame.msg = true
    · simp only [snapshot, if_true]
      cases update .empty d with
      | mk state outcome =>
        cases outcome with
        | error e => exact ⟨rfl, agree⟩
        | ok _ => exact ⟨rfl, rfl, fun _ _ => rfl⟩
    · simp only [snapshot, Bool.false_eq_true, if_false]
      have states := update_agree d agree.fields
      have outcomes : (update a.state d).2 = (update b.state d).2 :=
        (update_spec a.state d "").2.trans (update_spec b.state d "").2.symm
      cases left : update a.state d with
      | mk state outcome =>
        cases right : update b.state d with
        | mk state' outcome' =>
          rw [left, right] at states outcomes
          obtain rfl : outcome = outcome' := outcomes
          cases outcome with
          | error e => exact ⟨rfl, agree.bootstrapped, states⟩
          | ok _ =>
            refine ⟨?_, agree.bootstrapped, states⟩
            simp only [agree.bootstrapped, ticker_congr frame states]

theorem agree_congruence (ctx : Context) : (streamTicker ctx).Congruence Agree where
  trans := fun first second => ⟨first.bootstrapped.trans second.bootstrapped,
    fun key member => (first.fields key member).trans (second.fields key member)⟩
  result := fun frame agree => (body_agree agree frame).1
  state := fun frame agree => (body_agree agree frame).2

/-- The frame's data gives no ticker field a value other than the merged one, and
is not the first snapshot. -/
def AddsNothing (locals : Locals) (msg : Json) : Prop :=
  ∀ d, dataOf msg = .ok d →
    if isSnapshot msg then
      (update .empty d).2 = .ok () → locals.bootstrapped = true ∧
        ∀ key ∈ tickerFields, (update .empty d).1.get? key = locals.state.get? key
    else
      ∀ key ∈ tickerFields, ∀ value, (update .empty d).1.get? key = some value →
        locals.state.get? key = some value

theorem agree_of_addsNothing (adds : AddsNothing locals frame.msg) :
    Agree (body ctx locals frame).1 locals := by
  unfold body
  cases read : dataOf frame.msg with
  | error e => exact ⟨rfl, fun _ _ => rfl⟩
  | ok d =>
    have adds := adds d read
    by_cases snapshot : isSnapshot frame.msg = true
    · simp only [snapshot, if_true] at adds ⊢
      cases given : update .empty d with
      | mk state outcome =>
        cases outcome with
        | error e => exact ⟨rfl, fun _ _ => rfl⟩
        | ok _ =>
          rw [given] at adds
          obtain ⟨ready, same⟩ := adds rfl
          exact ⟨ready.symm, same⟩
    · simp only [snapshot, Bool.false_eq_true, if_false] at adds ⊢
      have kept : ∀ key ∈ tickerFields,
          (update locals.state d).1.get? key = locals.state.get? key := by
        intro key member
        rw [(update_spec locals.state d key).1]
        cases given : (update .empty d).1.get? key with
        | none => exact Option.none_or
        | some value => rw [adds key member value given, Option.some_or]
      cases updated : update locals.state d with
      | mk state outcome =>
        rw [updated] at kept
        cases outcome with
        | error e => exact ⟨rfl, kept⟩
        | ok _ => exact ⟨rfl, kept⟩

end Body

section Latest
variable {ctx : Context}

/-- What a frame's data holds; a malformed message has none. -/
def carried (frame : Frame) : Json :=
  match dataOf frame.msg with
  | .ok d => d
  | .error _ => .obj []

/-- A snapshot overlaid with the fields of deltas. -/
def overlaid (snapshot : Frame) (deltas : List Frame) : Dict String Json :=
  deltas.foldl (fun state delta => (update state (carried delta)).1)
    (update .empty (carried snapshot)).1

/-- What a frame that is not skipped does. -/
theorem body_ok {locals locals' : Locals} {frame : Frame} {out : Option Ticker}
    (ran : body ctx locals frame = (locals', .ok out)) :
    if isSnapshot frame.msg then
      locals' = ⟨overlaid frame [], true⟩ ∧ .ok out = ticker ctx (overlaid frame []) frame
    else
      locals' = ⟨(update locals.state (carried frame)).1, locals.bootstrapped⟩ ∧
        .ok out = if locals.bootstrapped then
          ticker ctx (update locals.state (carried frame)).1 frame else .ok none := by
  unfold body at ran
  unfold overlaid carried
  cases read : dataOf frame.msg with
  | error e => simp [read] at ran
  | ok d =>
    simp only [read] at ran
    by_cases snapshot : isSnapshot frame.msg = true
    · simp only [snapshot, if_true, List.foldl_nil] at ran ⊢
      cases given : update .empty d with
      | mk state outcome =>
        cases outcome with
        | error e => simp [given] at ran
        | ok _ =>
          simp only [given, Prod.mk.injEq] at ran
          exact ⟨ran.1.symm, ran.2.symm⟩
    · simp only [snapshot, Bool.false_eq_true, if_false] at ran ⊢
      cases updated : update locals.state d with
      | mk state outcome =>
        cases outcome with
        | error e => simp [updated] at ran
        | ok _ =>
          simp only [updated, Prod.mk.injEq] at ran
          exact ⟨ran.1.symm, ran.2.symm⟩

/-- The frames end with a snapshot and deltas. -/
structure Latest (frames : List Frame) (snapshot : Frame) (deltas : List Frame) : Prop where
  split : ∃ early, frames = early ++ snapshot :: deltas
  snapshot : isSnapshot snapshot.msg = true
  deltas : ∀ delta ∈ deltas, isSnapshot delta.msg = false

theorem Latest.self (frames : List Frame) {frame : Frame}
    (snapshot : isSnapshot frame.msg = true) : Latest (frames ++ [frame]) frame [] :=
  ⟨⟨frames, rfl⟩, snapshot, by simp⟩

theorem Latest.concat {frames deltas : List Frame} {snapshot frame : Frame}
    (latest : Latest frames snapshot deltas) (delta : isSnapshot frame.msg = false) :
    Latest (frames ++ [frame]) snapshot (deltas ++ [frame]) where
  split := by
    obtain ⟨early, rfl⟩ := latest.split
    exact ⟨early, by simp⟩
  snapshot := latest.snapshot
  deltas := by
    intro next member
    rcases List.mem_append.mp member with before | last
    · exact latest.deltas next before
    · rwa [List.mem_singleton.mp last]

theorem overlaid_concat (snapshot frame : Frame) (deltas : List Frame) :
    overlaid snapshot (deltas ++ [frame]) =
      (update (overlaid snapshot deltas) (carried frame)).1 := by
  simp [overlaid]

/-- A run that skips nothing has merged the latest snapshot and the deltas since. -/
theorem after_latest {frames : List Frame} {locals : Locals}
    (kept : ∀ first frame last locals, frames = first ++ frame :: last →
      (streamTicker ctx).stream.after (streamTicker ctx).init first = some locals →
      (streamTicker ctx).malformed locals frame = false)
    (reached : (streamTicker ctx).stream.after (streamTicker ctx).init frames = some locals) :
    locals.bootstrapped = false ∨ ∃ snapshot deltas, Latest frames snapshot deltas ∧
      locals = ⟨overlaid snapshot deltas, true⟩ := by
  induction frames using List.reverseRecOn generalizing locals with
  | nil =>
    cases reached
    exact .inl rfl
  | append_singleton frames frame ih =>
    rw [Stream.after_concat] at reached
    obtain ⟨before, reachedBefore, moved⟩ := Option.bind_eq_some_iff.mp reached
    have earlier := ih (fun first next last s split => kept first next (last ++ [frame]) s
      (by rw [split, List.append_assoc, List.cons_append])) reachedBefore
    obtain ⟨out, ran⟩ := Guarded.ok_of_wellFormed
      (kept frames frame [] before rfl reachedBefore) moved
    have effect := body_ok ran
    by_cases snapshot : isSnapshot frame.msg = true
    · rw [if_pos snapshot] at effect
      exact .inr ⟨frame, [], .self frames snapshot, effect.1⟩
    · rw [if_neg snapshot] at effect
      rcases earlier with none | ⟨latest, deltas, shape, rfl⟩
      · exact .inl (by rw [effect.1, none])
      · refine .inr ⟨latest, deltas ++ [frame], shape.concat (Bool.eq_false_iff.mpr snapshot), ?_⟩
        rw [effect.1, overlaid_concat]

/-- If no malformed frame adds anything to the merged state, the stream yields
what it would have yielded without them, and each ticker is that of the latest
snapshot overlaid with the well-formed deltas since. -/
theorem streamTicker_forgets (ctx : Context) (frames : List Frame)
    (harmless : ∀ first frame last locals, frames = first ++ frame :: last →
      (streamTicker ctx).stream.after (streamTicker ctx).init first = some locals →
      (streamTicker ctx).malformed locals frame = true → AddsNothing locals frame.msg) :
    (streamTicker ctx).stream.yields (streamTicker ctx).init frames =
      (streamTicker ctx).stream.yields (streamTicker ctx).init
        ((streamTicker ctx).accepted (streamTicker ctx).init frames) ∧
    ∀ frame shown, (frame, shown) ∈
        (streamTicker ctx).stream.yields (streamTicker ctx).init frames →
      ∃ first last snapshot deltas,
        (streamTicker ctx).accepted (streamTicker ctx).init frames = first ++ frame :: last ∧
        Latest (first ++ [frame]) snapshot deltas ∧
        ticker ctx (overlaid snapshot deltas) frame = .ok (some shown) := by
  have same := agree_congruence ctx
  have start : Agree (streamTicker ctx).init (streamTicker ctx).init := ⟨rfl, fun _ _ => rfl⟩
  have noEffect : (streamTicker ctx).Harmless Agree (streamTicker ctx).init frames :=
    fun first frame last locals split reached skipped =>
      agree_of_addsNothing (harmless first frame last locals split reached skipped)
  have forgets := Guarded.yields_accepted same start noEffect
  refine ⟨forgets, fun frame shown member => ?_⟩
  rw [forgets] at member
  obtain ⟨first, last, locals, split, reached, yielded⟩ := Guarded.mem_yields.mp member
  have kept : ∀ first' frame' last' locals', first = first' ++ frame' :: last' →
      (streamTicker ctx).stream.after (streamTicker ctx).init first' = some locals' →
      (streamTicker ctx).malformed locals' frame' = false := by
    intro first' frame' last' locals' part reached'
    have whole : (streamTicker ctx).accepted (streamTicker ctx).init frames =
        first' ++ frame' :: (last' ++ frame :: last) := by
      rw [split, part, List.append_assoc, List.cons_append]
    refine Guarded.accepted_wellFormed same start noEffect whole reached' ?_
    rw [part, Stream.after_append, reached', Option.bind_some, Stream.after_cons] at reached
    exact Option.isSome_of_eq_some (Option.bind_eq_some_iff.mp reached).choose_spec.1
  have effect := body_ok (Prod.ext rfl yielded :
    body ctx locals frame = ((body ctx locals frame).1, .ok (some shown)))
  by_cases snapshot : isSnapshot frame.msg = true
  · rw [if_pos snapshot] at effect
    exact ⟨first, last, frame, [], split, .self first snapshot, effect.2.symm⟩
  · rw [if_neg snapshot] at effect
    rcases after_latest kept reached with none | ⟨latest, deltas, shape, rfl⟩
    · simp [none] at effect
    · refine ⟨first, last, latest, deltas ++ [frame], split,
        shape.concat (Bool.eq_false_iff.mpr snapshot), ?_⟩
      rw [overlaid_concat]
      exact effect.2.symm

/-- Bitcoin, with figures sent as numbers. -/
def btc : Context := ⟨noTexts, "BTCUSDT", .linear, "USDT", none⟩

def frameOf (type : String) (data : List (String × Json)) (ts : Json) : Frame :=
  ⟨.obj [("type", .str type), ("data", .obj data), ("ts", ts)], 0⟩

def opening : Frame :=
  frameOf "snapshot" [("lastPrice", .num 100), ("volume24h", .num 5)] (.num 1700000000000)

/-- A delta that repeats the price, at an unreadable time. -/
def badTime : Frame := frameOf "delta" [("lastPrice", .num 100)] (.str "soon")

/-- A delta with an unreadable price and a new volume. -/
def badPrice : Frame :=
  frameOf "delta" [("lastPrice", .str "n/a"), ("volume24h", .num 7)] (.num 1700000001000)

def closing : Frame := frameOf "delta" [("lastPrice", .num 101)] (.num 1700000002000)

theorem streamTicker_forgets_badTime :
    (streamTicker btc).stream.yields (streamTicker btc).init [opening, badTime, closing] =
      (streamTicker btc).stream.yields (streamTicker btc).init [opening, closing] := by
  refine (streamTicker_forgets btc [opening, badTime, closing] ?_).1.trans (congrArg _ rfl)
  intro first frame last locals split reached skipped
  rcases first with _ | ⟨a, _ | ⟨b, _ | ⟨c, first⟩⟩⟩
  · cases split
    cases reached
    cases skipped
  · cases split
    cases reached
    intro d read
    cases read
    intro key member value given
    simp only [tickerFields, List.mem_cons, List.not_mem_nil, or_false] at member
    rcases member with rfl | rfl | rfl | rfl | rfl | rfl | rfl <;> cases given
    rfl
  · cases split
    cases reached
    cases skipped
  · simp at split

/-- The volume of a skipped frame shows in the next ticker. -/
theorem badPrice_lasts : ¬ ∀ (ctx : Context) (frames : List Frame),
    (streamTicker ctx).stream.yields (streamTicker ctx).init frames =
      (streamTicker ctx).stream.yields (streamTicker ctx).init
        ((streamTicker ctx).accepted (streamTicker ctx).init frames) := by
  intro claimed
  have volumes := congrArg (List.map fun output => output.2.volume24h.native)
    (claimed btc [opening, badPrice, closing])
  have actual : ((streamTicker btc).stream.yields (streamTicker btc).init
      [opening, badPrice, closing]).map (fun output => output.2.volume24h.native) = [5, 7] := rfl
  have without : ((streamTicker btc).stream.yields (streamTicker btc).init
      ((streamTicker btc).accepted (streamTicker btc).init [opening, badPrice, closing])).map
        (fun output => output.2.volume24h.native) = [5, 5] := rfl
  rw [actual, without] at volumes
  exact absurd volumes (by norm_num)

end Latest
end ExchangeRouter.Bybit.Tickers
