import ExchangeRouter.Lib.Json
import ExchangeRouter.Lib.Window

/-!
# Funding paid over a holding period

`client/exchange_router_client/funding.py`: `_rate_fields`, `_clean_frame_rows`,
`_normalized_rows` and `funding_paid`, in exact arithmetic.  A pandas row is an
object whose fields are its columns; an index is in nanoseconds.
-/
namespace ExchangeRouter.Client.FundingPaid
open Lib

structure RateFields where
  kind : Json
  perCycle : ℚ
  cycleMs : ℚ

/-- An element of `_normalized_rows`. -/
structure NormalRow where
  ts : ℤ
  kind : Json
  perCycle : ℚ
  cycleMs : ℚ

structure Frame where
  columns : List String
  rows : List (ℤ × Json)
  /-- `df.attrs`, as far as it is read. -/
  fundingKind : Option Json

/-- What `funding_paid` takes: a frame, or an iterable of rows. -/
inductive Rows
  | frame (frame : Frame)
  | wire (rows : List Json)

section Normalize
variable (text : TextNumbers)

def unrecognized : PyError :=
  .valueError ("Unrecognized funding row shape; expected a wire row, a flattened row, " ++
    "or a funding DataFrame row")

/-- `row[kind], float(row[per_cycle]), float(row[cycle_ms])`. -/
def fieldsNamed (row : Json) (kind perCycle cycleMs : String) : Except PyError RateFields := do
  let kind ← row.item kind
  let perCycle ← (← row.item perCycle).float text
  let cycleMs ← (← row.item cycleMs).float text
  return ⟨kind, perCycle, cycleMs⟩

/-- `row.get("rate") or row.get("funding")`. -/
def rateBlock (fields : List (String × Json)) : Json :=
  let rate := (fields.lookup "rate").getD .null
  if rate.truthy then rate else (fields.lookup "funding").getD .null

/-- `row.get(key) is not None`. -/
def given (fields : List (String × Json)) (key : String) : Bool :=
  match fields.lookup key with
  | none | some .null => false
  | some _ => true

/-- `_rate_fields` of a mapping; anything else is unrecognized. -/
def rateFields (row : Json) : Except PyError RateFields :=
  match row with
  | .obj fields =>
    match rateBlock fields with
    | .obj block => fieldsNamed text (.obj block) "kind" "per_cycle" "cycle_ms"
    | _ =>
      if (fields.lookup "rate_per_cycle").isSome then
        fieldsNamed text row "rate_kind" "rate_per_cycle" "rate_cycle_ms"
      else if given fields "funding_per_cycle" then
        fieldsNamed text row "funding_kind" "funding_per_cycle" "funding_cycle_ms"
      else .error unrecognized
  | _ => .error unrecognized

/-- `_rate_fields` of a pandas row. -/
def seriesFields (row : Json) : Except PyError RateFields :=
  match row with
  | .obj fields =>
    if (fields.lookup "rate_per_cycle").isSome then
      fieldsNamed text row "rate_kind" "rate_per_cycle" "rate_cycle_ms"
    else if (fields.lookup "funding_per_cycle").isSome then
      fieldsNamed text row "funding_kind" "funding_per_cycle" "funding_cycle_ms"
    else .error unrecognized
  | _ => .error unrecognized

/-- `int(pd.Timestamp(idx).value // 1_000_000)`. -/
def indexMs (ns : ℤ) : ℤ := ns / 1000000

def cleanFrameRow (kind : Json) (row : ℤ × Json) : Except PyError NormalRow := do
  let perCycle ← (← row.2.item "rate").float text
  let cycleMs ← (← row.2.item "cycle_ms").float text
  return ⟨indexMs row.1, kind, perCycle, cycleMs⟩

def cleanFrameRows (frame : Frame) : Except PyError (List NormalRow) :=
  frame.rows.mapM (cleanFrameRow text (frame.fundingKind.getD (.str "discrete")))

def frameRow (row : ℤ × Json) : Except PyError NormalRow := do
  let fields ← seriesFields text row.2
  return ⟨indexMs row.1, fields.kind, fields.perCycle, fields.cycleMs⟩

def wireRow (row : Json) : Except PyError NormalRow := do
  let fields ← rateFields text row
  let ts ← (← row.item "timestamp").int text
  return ⟨ts, fields.kind, fields.perCycle, fields.cycleMs⟩

def normalizedRows : Rows → Except PyError (List NormalRow)
  | .frame frame =>
    if "rate" ∈ frame.columns then cleanFrameRows text frame else frame.rows.mapM (frameRow text)
  | .wire rows => rows.mapM (wireRow text)

end Normalize

def NormalRow.discrete (row : NormalRow) : Bool := row.kind.isText "discrete"

/-- What one row adds to `paid`. -/
def NormalRow.charge (row : NormalRow) (tOpen tClose : ℤ) (notional : ℚ) : Except PyError ℚ :=
  if row.discrete then
    .ok (if tOpen ≤ row.ts ∧ row.ts ≤ tClose then notional * row.perCycle else 0)
  else if row.cycleMs = 0 then .error (.other "ZeroDivisionError")
  else
    .ok (notional * row.perCycle *
      (overlap (row.ts : ℚ) (row.ts + row.cycleMs) tOpen tClose / row.cycleMs))

def fundingPaid (text : TextNumbers) (rows : Rows) (tOpen tClose : ℤ) (notional : ℚ) :
    Except PyError ℚ := do
  (← normalizedRows text rows).foldlM
    (fun paid row => do return paid + (← row.charge tOpen tClose notional)) 0

/-- The rates of the discrete settlements at one time. -/
def settledAt (t : ℤ) (rows : List NormalRow) : ℚ :=
  ((rows.filter fun row => row.discrete ∧ row.ts = t).map NormalRow.perCycle).sum

/-- The amount of a row whose cycle is positive. -/
def NormalRow.amount (row : NormalRow) (tOpen tClose : ℤ) (notional : ℚ) : ℚ :=
  if row.discrete then if tOpen ≤ row.ts ∧ row.ts ≤ tClose then notional * row.perCycle else 0
  else notional * row.perCycle *
    (overlap (row.ts : ℚ) (row.ts + row.cycleMs) tOpen tClose / row.cycleMs)

theorem NormalRow.charge_eq {row : NormalRow} (positive : 0 < row.cycleMs) (tOpen tClose : ℤ)
    (notional : ℚ) : row.charge tOpen tClose notional = .ok (row.amount tOpen tClose notional) := by
  unfold NormalRow.charge NormalRow.amount
  cases row.discrete with
  | true => rfl
  | false => rw [if_neg Bool.false_ne_true, if_neg positive.ne', if_neg Bool.false_ne_true]

variable {text : TextNumbers} {rows : Rows} {norm : List NormalRow}

/-- The sum of the amounts. -/
theorem fundingPaid_eq (normal : normalizedRows text rows = .ok norm)
    (positive : ∀ row ∈ norm, 0 < row.cycleMs) (tOpen tClose : ℤ) (notional : ℚ) :
    fundingPaid text rows tOpen tClose notional =
      .ok (norm.map fun row => row.amount tOpen tClose notional).sum := by
  have summed (paid : ℚ) : norm.foldlM
      (fun paid row => do return paid + (← row.charge tOpen tClose notional)) paid =
        (.ok (paid + (norm.map fun row => row.amount tOpen tClose notional).sum) :
          Except PyError ℚ) := by
    clear normal
    induction norm generalizing paid with
    | nil => simp [pure, Except.pure]
    | cons row rest ih =>
      obtain ⟨first, later⟩ := List.forall_mem_cons.mp positive
      rw [List.foldlM_cons, row.charge_eq first]
      simp only [bind, Except.bind, pure, Except.pure] at ih ⊢
      rw [ih later, List.map_cons, List.sum_cons, add_assoc]
  rw [fundingPaid, normal]
  exact (summed 0).trans (by rw [zero_add])

section Split
variable {tOpen tMid tClose : ℤ}

/-- A row charges once more what it settles at the split. -/
theorem NormalRow.amount_split (row : NormalRow) (notional : ℚ) (before : tOpen ≤ tMid)
    (after : tMid ≤ tClose) :
    row.amount tOpen tMid notional + row.amount tMid tClose notional =
      row.amount tOpen tClose notional +
        if row.discrete ∧ row.ts = tMid then notional * row.perCycle else 0 := by
  cases discrete : row.discrete with
  | false =>
    have parts := overlap_split (row.ts : ℚ) (row.ts + row.cycleMs)
      (Int.cast_le.mpr before) (Int.cast_le.mpr after)
    simp only [NormalRow.amount, discrete, Bool.false_eq_true, if_false, false_and, add_zero]
    rw [parts, add_div, mul_add]
  | true =>
    simp only [NormalRow.amount, discrete, if_true, true_and]
    split_ifs <;> first | omega | simp

/-- Over a split, the settlements at the split are charged twice. -/
theorem amounts_split (norm : List NormalRow) (notional : ℚ) (before : tOpen ≤ tMid)
    (after : tMid ≤ tClose) :
    (norm.map fun row => row.amount tOpen tMid notional).sum +
        (norm.map fun row => row.amount tMid tClose notional).sum =
      (norm.map fun row => row.amount tOpen tClose notional).sum +
        notional * settledAt tMid norm := by
  induction norm with
  | nil => simp [settledAt]
  | cons row rest ih =>
    have own := row.amount_split notional before after
    have settled : notional * settledAt tMid (row :: rest) =
        (if row.discrete ∧ row.ts = tMid then notional * row.perCycle else 0) +
          notional * settledAt tMid rest := by
      by_cases atSplit : row.discrete ∧ row.ts = tMid
      · simp [settledAt, atSplit, mul_add]
      · simp [settledAt, atSplit]
    simp only [List.map_cons, List.sum_cons]
    rw [settled]
    linarith

end Split

/-- Funding paid adds up over a split of the period exactly when the settlements
at the split cancel out. -/
theorem fundingPaid_split_iff (normal : normalizedRows text rows = .ok norm)
    (positive : ∀ row ∈ norm, 0 < row.cycleMs) (notional : ℚ) {tOpen tMid tClose : ℤ}
    (before : tOpen ≤ tMid) (after : tMid ≤ tClose) :
    (∃ first second, fundingPaid text rows tOpen tMid notional = .ok first ∧
        fundingPaid text rows tMid tClose notional = .ok second ∧
        fundingPaid text rows tOpen tClose notional = .ok (first + second)) ↔
      notional * settledAt tMid norm = 0 := by
  have parts := amounts_split norm notional before after
  simp only [fundingPaid_eq normal positive, Except.ok.injEq]
  constructor
  · rintro ⟨first, second, rfl, rfl, same⟩
    linarith
  · intro cancels
    exact ⟨_, _, rfl, rfl, by linarith⟩

/-- A wire row of `get_funding_rate`. -/
def wireFunding (kind : String) (perCycle : ℚ) (timestamp : ℤ) : Json :=
  .obj [("rate", .obj [("kind", .str kind), ("per_cycle", .num perCycle),
    ("cycle_ms", .num 28800000)]), ("timestamp", .num timestamp)]

/-- A settlement at 28800000 and an accrual that begins there. -/
def twoKinds : List Json :=
  [wireFunding "discrete" (1 / 10000) 28800000, wireFunding "continuous" (1 / 5000) 28800000]

def twoKindsNorm : List NormalRow :=
  [⟨28800000, .str "discrete", 1 / 10000, 28800000⟩,
    ⟨28800000, .str "continuous", 1 / 5000, 28800000⟩]

theorem twoKinds_normal : normalizedRows noTexts (.wire twoKinds) = .ok twoKindsNorm := rfl

theorem twoKindsNorm_positive : ∀ row ∈ twoKindsNorm, 0 < row.cycleMs := by
  simp [twoKindsNorm]

/-- The split lies within the accrual. -/
theorem fundingPaid_split_iff_within : ∃ first second,
    fundingPaid noTexts (.wire twoKinds) 0 43200000 1000000 = .ok first ∧
      fundingPaid noTexts (.wire twoKinds) 43200000 86400000 1000000 = .ok second ∧
      fundingPaid noTexts (.wire twoKinds) 0 86400000 1000000 = .ok (first + second) :=
  (fundingPaid_split_iff twoKinds_normal twoKindsNorm_positive 1000000 (by decide)
    (by decide)).mpr (by simp [settledAt, twoKindsNorm, NormalRow.discrete, Json.isText])

/-- A split at the settlement charges it twice. -/
theorem settlement_charged_twice : ¬ ∀ (text : TextNumbers) (rows : Rows) (norm : List NormalRow)
    (notional : ℚ) (tOpen tMid tClose : ℤ), normalizedRows text rows = .ok norm →
    (∀ row ∈ norm, 0 < row.cycleMs) → tOpen ≤ tMid → tMid ≤ tClose →
    ∃ first second, fundingPaid text rows tOpen tMid notional = .ok first ∧
      fundingPaid text rows tMid tClose notional = .ok second ∧
      fundingPaid text rows tOpen tClose notional = .ok (first + second) := by
  intro claimed
  obtain ⟨first, second, one, two, whole⟩ := claimed noTexts (.wire twoKinds) twoKindsNorm 1000000
    0 28800000 86400000 twoKinds_normal twoKindsNorm_positive (by decide) (by decide)
  have parts := amounts_split twoKindsNorm 1000000 (by decide : (0 : ℤ) ≤ 28800000)
    (by decide : (28800000 : ℤ) ≤ 86400000)
  have again : settledAt 28800000 twoKindsNorm = 1 / 10000 := by
    simp [settledAt, twoKindsNorm, NormalRow.discrete, Json.isText]
  rw [fundingPaid_eq twoKinds_normal twoKindsNorm_positive, Except.ok.injEq] at one two whole
  rw [one, two, whole, again] at parts
  linarith

end ExchangeRouter.Client.FundingPaid
