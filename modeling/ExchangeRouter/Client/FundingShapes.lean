import ExchangeRouter.Client.Frames
import Mathlib.Algebra.BigOperators.Group.List.Basic

/-!
# The four shapes of a funding row

The same settlement as a wire row, flattened, as a row of the funding frame and
in a mark price: the helpers of `funding.py` read the same rate off each, and
charge the same for a list of rows as for the frame made of it.
-/
namespace ExchangeRouter.Client.Frames
open Lib FundingPaid Funding

/-! ## What is assumed of pandas -/

mutual

/-- The columns that `json_normalize` with `sep="_"` makes of a value under a name. -/
def flattenValue (name : String) : Json → List (String × Json)
  | .obj fields => flattenFields (name ++ "_") fields
  | .null => [(name, .null)]
  | .bool b => [(name, .bool b)]
  | .num q => [(name, .num q)]
  | .str s => [(name, .str s)]
  | .arr items => [(name, .arr items)]

def flattenFields (before : String) : List (String × Json) → List (String × Json)
  | [] => []
  | field :: rest => flattenField before field ++ flattenFields before rest

def flattenField (before : String) : String × Json → List (String × Json)
  | (key, value) => flattenValue (before ++ key) value

end

def flatten (record : List (String × Json)) : List (String × Json) := flattenFields "" record

def names (record : List (String × Json)) : List String := (flatten record).map Prod.fst

/-- A name after `rename`. -/
def newName (mapping : List (String × String)) (name : String) : String :=
  (mapping.lookup name).getD name

/-- What the builder relies on. -/
structure Documented (pandas : Pandas) : Prop where
  /-- A row for each record, nested keys joined with `_`. -/
  flattens : ∀ records : List (List (String × Json)), (∀ record ∈ records, (names record).Nodup) →
    List.Forall₂ (fun record row => ∀ field ∈ flatten record, row.cell field.1 = field.2)
      records (pandas.jsonNormalize (records.map .obj)).rows
  columns : ∀ (records : List (List (String × Json))) (name : String),
    name ∈ (pandas.jsonNormalize (records.map .obj)).columns ↔
      ∃ record ∈ records, name ∈ names record
  sorts : ∀ rows, (pandas.sortIndex rows).Perm rows
  /-- Where no two columns get one name, each keeps its cells. -/
  renames : ∀ mapping (table : Table),
    Set.InjOn (newName mapping) {name | name ∈ table.columns} →
      (pandas.rename mapping table).columns = table.columns.map (newName mapping) ∧
      List.Forall₂ (fun before after => after.index = before.index ∧
          ∀ name ∈ table.columns, after.cell (newName mapping name) = before.cell name)
        table.rows (pandas.rename mapping table).rows
  /-- The named columns are kept. -/
  reindexes : ∀ columns (table : Table), (pandas.reindex columns table).columns = columns ∧
    List.Forall₂ (fun before after => after.index = before.index ∧
        ∀ name ∈ columns, name ∈ table.columns → after.cell name = before.cell name)
      table.rows (pandas.reindex columns table).rows
  numbers : ∀ q, pandas.toNumeric (.num q) = .num q

/-- A time in milliseconds that the index gives back. -/
def Survives (pandas : Pandas) (ms : ℤ) : Prop :=
  ∃ ns, pandas.toDatetime (.num ms) = .ok ns ∧ indexMs ns = ms

/-! ## The frame of a list of wire rows -/

def flatFields (row : FundingRate) : List (String × Json) :=
  [("symbol", .str row.symbol), ("market_type", .str (value row.marketType)),
    ("quote", .str row.quote), ("rate_kind", .str (kindText row.rate.kind)),
    ("rate_per_cycle", .num row.rate.perCycle), ("rate_cycle_ms", .num row.rate.cycleMs),
    ("timestamp", .num row.timestamp)]

theorem flatten_wireFields (row : FundingRate) : flatten (wireFields row) = flatFields row := rfl

/-- The columns of the normalized table. -/
def flatNames : List String :=
  ["symbol", "market_type", "quote", "rate_kind", "rate_per_cycle", "rate_cycle_ms", "timestamp"]

theorem names_wireFields (row : FundingRate) : names (wireFields row) = flatNames := rfl

theorem names_nodup (row : FundingRate) : (names (wireFields row)).Nodup := by
  rw [names_wireFields]
  decide

theorem newName_injOn : ∀ a ∈ flatNames, ∀ b ∈ flatNames,
    newName renamed a = newName renamed b → a = b := by
  decide

/-- A row of the normalized table. -/
structure Flat (row : FundingRate) (cells : TableRow) : Prop where
  timestamp : cells.cell "timestamp" = .num row.timestamp
  kind : cells.cell "rate_kind" = .str (kindText row.rate.kind)
  perCycle : cells.cell "rate_per_cycle" = .num row.rate.perCycle
  cycleMs : cells.cell "rate_cycle_ms" = .num row.rate.cycleMs

/-- A row of the indexed table, before it is renamed. -/
structure Placed (row : FundingRate) (cells : TableRow) : Prop where
  index : indexMs cells.index = row.timestamp
  kind : cells.cell "rate_kind" = .str (kindText row.rate.kind)
  perCycle : cells.cell "rate_per_cycle" = .num row.rate.perCycle
  cycleMs : cells.cell "rate_cycle_ms" = .num row.rate.cycleMs

/-- A row under the names of the frame. -/
structure Framed (row : FundingRate) (cells : TableRow) : Prop where
  index : indexMs cells.index = row.timestamp
  kind : cells.cell "rate_kind" = .str (kindText row.rate.kind)
  rate : cells.cell "rate" = .num row.rate.perCycle
  cycleMs : cells.cell "cycle_ms" = .num row.rate.cycleMs

/-- The rate of one hour. -/
def hourly (row : FundingRate) : ℚ := row.rate.perCycle / (row.rate.cycleMs / 3600000)

/-- A row of the funding frame. -/
structure Built (row : FundingRate) (cells : TableRow) : Prop where
  index : indexMs cells.index = row.timestamp
  rate : cells.cell "rate" = .num row.rate.perCycle
  perHour : cells.cell "funding_per_hour" = .num (hourly row)
  cycleMs : cells.cell "cycle_ms" = .num row.rate.cycleMs

section Stages
variable {pandas : Pandas} {rows : List FundingRate}

theorem normalized_flat (documented : Documented pandas) (rows : List FundingRate) :
    List.Forall₂ Flat rows (pandas.jsonNormalize (rows.map wireOf)).rows := by
  have flattened := documented.flattens (rows.map wireFields) (by
    intro record member
    obtain ⟨row, -, rfl⟩ := List.mem_map.mp member
    exact names_nodup row)
  rw [List.map_map, List.forall₂_map_left_iff] at flattened
  refine flattened.imp fun row cells same => ?_
  rw [flatten_wireFields] at same
  refine ⟨?_, ?_, ?_, ?_⟩ <;> exact same (_, _) (by simp [flatFields])

theorem mem_columns (documented : Documented pandas) (nonempty : rows ≠ []) (name : String) :
    name ∈ (pandas.jsonNormalize (rows.map wireOf)).columns ↔
      name ∈ flatNames := by
  have same := documented.columns (rows.map wireFields) name
  rw [List.map_map] at same
  refine same.trans ⟨?_, fun member => ?_⟩
  · rintro ⟨record, member, named⟩
    obtain ⟨row, -, rfl⟩ := List.mem_map.mp member
    exact named
  · obtain ⟨row, present⟩ := List.exists_mem_of_ne_nil rows nonempty
    exact ⟨wireFields row, List.mem_map_of_mem present, member⟩

/-- What `_indexed` makes of the wire rows, in some order. -/
theorem indexed_placed (documented : Documented pandas) (nonempty : rows ≠ [])
    (survive : ∀ row ∈ rows, Survives pandas row.timestamp) :
    ∃ df paired, indexed pandas (rows.map wireOf) = .ok df ∧ paired.Perm rows ∧
      List.Forall₂ Placed paired df.rows ∧
      ∀ name, name ∈ df.columns ↔ name ∈ flatNames := by
  obtain ⟨out, made, related⟩ := forall₂_mapM (S := Placed) (f := placed pandas)
    (normalized_flat documented rows) (by
      intro row member cells flat
      obtain ⟨ns, dated, kept⟩ := survive row member
      refine ⟨⟨ns, cells.cell⟩, ?_, kept, flat.kind, flat.perCycle, flat.cycleMs⟩
      rw [placed, flat.timestamp, dated]
      rfl)
  obtain ⟨paired, sorted, order⟩ := List.perm_comp_forall₂ (documented.sorts out) related.flip
  have columns := mem_columns documented nonempty
  refine ⟨⟨(pandas.jsonNormalize (rows.map wireOf)).columns.filter fun name => name ≠ "datetime",
    pandas.sortIndex out⟩, paired, ?_, order, sorted.flip, ?_⟩
  · have dated : "timestamp" ∈ (pandas.jsonNormalize (rows.map wireOf)).columns :=
      (columns _).mpr (by decide)
    simp only [indexed, Table.column, if_pos dated, made]
    rfl
  · intro name
    simp only [List.mem_filter, columns, decide_eq_true_eq]
    refine ⟨fun both => both.1, fun member => ⟨member, ?_⟩⟩
    rintro rfl
    exact absurd member (by decide)

theorem renamed_framed (documented : Documented pandas) {df : Table} {paired : List FundingRate}
    (related : List.Forall₂ Placed paired df.rows)
    (columns : ∀ name, name ∈ df.columns ↔ name ∈ flatNames) :
    List.Forall₂ Framed paired (pandas.rename renamed df).rows ∧
      (pandas.rename renamed df).columns = df.columns.map (newName renamed) := by
  have distinct : Set.InjOn (newName renamed) {name | name ∈ df.columns} := by
    intro a inA b inB same
    exact newName_injOn a ((columns a).mp inA) b ((columns b).mp inB) same
  obtain ⟨labels, kept⟩ := documented.renames renamed df distinct
  refine ⟨forall₂_comp related kept ?_, labels⟩
  rintro row before after placed ⟨index, cells⟩
  have cell (name : String) (member : name ∈ flatNames) :=
    cells name ((columns name).mpr member)
  refine ⟨index ▸ placed.index, ?_, ?_, ?_⟩
  · exact (cell "rate_kind" (by decide)).trans placed.kind
  · exact (cell "rate_per_cycle" (by decide)).trans placed.perCycle
  · exact (cell "rate_cycle_ms" (by decide)).trans placed.cycleMs

theorem perHourCell_num (perCycle : ℚ) {cycleMs : ℚ} (positive : 0 < cycleMs) :
    perHourCell (.num perCycle) (.num cycleMs) = .ok (.num (perCycle / (cycleMs / 3600000))) := by
  have hours : cycleMs / 3600000 ≠ 0 := (div_pos positive (by norm_num)).ne'
  simp only [perHourCell, operand, bind, Except.bind, Option.map, if_neg hours]
  rfl

/-- What `_funding_rate` adds to the renamed table. -/
theorem withPerHour_framed {df : Table} {paired : List FundingRate}
    (related : List.Forall₂ Framed paired df.rows) (rate : "rate" ∈ df.columns)
    (cycleMs : "cycle_ms" ∈ df.columns) (positive : ∀ row ∈ paired, 0 < row.rate.cycleMs) :
    ∃ out, withPerHour df = .ok out ∧
      List.Forall₂ (fun row cells => Framed row cells ∧
        cells.cell "funding_per_hour" = .num (hourly row)) paired out.rows ∧
      ∀ name, name ∈ out.columns ↔ name ∈ df.columns ∨ name = "funding_per_hour" := by
  obtain ⟨out, made, built⟩ := forall₂_mapM
    (S := fun row cells => Framed row cells ∧ cells.cell "funding_per_hour" = .num (hourly row))
    (f := fun row : TableRow => do
      return row.assign "funding_per_hour" (← perHourCell (row.cell "rate") (row.cell "cycle_ms")))
    related (by
      intro row member cells framed
      refine ⟨cells.assign "funding_per_hour" (.num (hourly row)), ?_,
        ⟨framed.index, ?_, ?_, ?_⟩, ?_⟩
      · rw [framed.rate, framed.cycleMs,
          perHourCell_num _ (Int.cast_pos.mpr (positive row member))]
        rfl
      · exact framed.kind
      · exact framed.rate
      · exact framed.cycleMs
      · exact Function.update_self ("funding_per_hour" : String) _ cells.cell)
  refine ⟨⟨if "funding_per_hour" ∈ df.columns then df.columns
    else df.columns ++ ["funding_per_hour"], out⟩, ?_, built, ?_⟩
  · simp only [withPerHour, Table.column, if_pos rate, if_pos cycleMs, bind, Except.bind] at made ⊢
    rw [made]
    rfl
  · intro name
    by_cases present : "funding_per_hour" ∈ df.columns
    · simp only [if_pos present]
      refine ⟨Or.inl, fun either => either.elim id ?_⟩
      rintro rfl
      exact present
    · simp only [if_neg present, List.mem_append, List.mem_singleton]

theorem finalize_built (documented : Documented pandas) {df : Table} {paired : List FundingRate}
    (related : List.Forall₂ (fun row cells => Framed row cells ∧
      cells.cell "funding_per_hour" = .num (hourly row)) paired df.rows)
    (columns : ∀ name ∈ fundingColumns, name ∈ df.columns) (attrs : Dict String Json)
    (warnings : List String) :
    List.Forall₂ Built paired (finalize pandas df attrs fundingColumns warnings).table.rows ∧
      (finalize pandas df attrs fundingColumns warnings).table.columns = fundingColumns := by
  obtain ⟨labels, kept⟩ := documented.reindexes fundingColumns df
  refine ⟨?_, labels⟩
  simp only [finalize, coerce, labels]
  rw [List.forall₂_map_right_iff]
  refine forall₂_comp related kept ?_
  rintro row before after ⟨framed, perHour⟩ ⟨index, cells⟩
  have numeric (name : String) (q : ℚ) (member : name ∈ fundingColumns ∧ name ∉ textColumns)
      (cell : before.cell name = .num q) :
      (if name ∈ fundingColumns ∧ name ∉ textColumns then pandas.toNumeric (after.cell name)
        else after.cell name) = .num q := by
    rw [if_pos member, cells name member.1 (columns name member.1), cell, documented.numbers]
  refine ⟨index ▸ framed.index, ?_, ?_, ?_⟩
  · exact numeric "rate" _ (by decide) framed.rate
  · exact numeric "funding_per_hour" _ (by decide) perHour
  · exact numeric "cycle_ms" _ (by decide) framed.cycleMs

/-- The kind of the frame is that of its rows. -/
theorem const_kind {df : Table} {paired : List FundingRate} {kind : InfoCache.FundingKind}
    (related : List.Forall₂ (fun row cells => Framed row cells ∧
      cells.cell "funding_per_hour" = .num (hourly row)) paired df.rows)
    (nonempty : paired ≠ []) (oneKind : ∀ row ∈ paired, row.rate.kind = kind)
    (column : "rate_kind" ∈ df.columns) : const df "rate_kind" = .str (kindText kind) := by
  obtain ⟨columns, rows⟩ := df
  simp only at related column
  cases related with
  | nil => exact absurd rfl nonempty
  | @cons row cells _ _ first _ =>
    have kept : cells.cell "rate_kind" = .str (kindText kind) :=
      oneKind row List.mem_cons_self ▸ first.1.kind
    simp only [const, if_pos column, List.map_cons, kept]
    rw [List.filter_cons_of_pos rfl]
    rfl

/-- The funding frame has a row for each wire row, in some order. -/
theorem build_built (documented : Documented pandas) (ctx : Context) (nonempty : rows ≠ [])
    {kind : InfoCache.FundingKind} (oneKind : ∀ row ∈ rows, row.rate.kind = kind)
    (positive : ∀ row ∈ rows, 0 < row.rate.cycleMs)
    (survive : ∀ row ∈ rows, Survives pandas row.timestamp) :
    ∃ df paired, build pandas (rows.map wireOf) ctx = .ok df ∧ paired.Perm rows ∧
      List.Forall₂ Built paired df.table.rows ∧ df.table.columns = fundingColumns ∧
      df.attrs.get? "funding_kind" = some (.str (kindText kind)) := by
  obtain ⟨df, paired, indexed, order, placed, columns⟩ :=
    indexed_placed documented nonempty survive
  obtain ⟨framed, labels⟩ := renamed_framed documented placed columns
  have label (old new : String) (member : old ∈ flatNames) (same : newName renamed old = new) :
      new ∈ (pandas.rename renamed df).columns := by
    rw [labels, ← same]
    exact List.mem_map_of_mem ((columns old).mpr member)
  have rate := label "rate_per_cycle" "rate" (by decide) rfl
  have cycleMs := label "rate_cycle_ms" "cycle_ms" (by decide) rfl
  have kindLabel := label "rate_kind" "rate_kind" (by decide) rfl
  obtain ⟨out, hourly, built, grown⟩ := withPerHour_framed framed rate cycleMs fun row member =>
    positive row (order.mem_iff.mp member)
  have held : ∀ name ∈ fundingColumns, name ∈ out.columns := by
    simp only [fundingColumns, List.forall_mem_cons, List.not_mem_nil, false_imp_iff, implies_true,
      and_true]
    exact ⟨(grown _).mpr (.inl rate), (grown _).mpr (.inr rfl), (grown _).mpr (.inl cycleMs)⟩
  have attrs := const_kind built (by
      rintro rfl
      exact nonempty order.symm.eq_nil)
    (fun row member => oneKind row (order.mem_iff.mp member)) ((grown _).mpr (.inl kindLabel))
  obtain ⟨final, finalColumns⟩ := finalize_built documented built held
    (((baseAttrs ctx).set "quote" (const out "quote")).set "funding_kind" (const out "rate_kind"))
    ((cycleWarning pandas out ctx).toList ++ (shortResultWarning out ctx "funding_rate").toList)
  refine ⟨_, paired, ?_, order, final, finalColumns, ?_⟩
  · have some : (rows.map wireOf).isEmpty = false := by simpa using nonempty
    rw [build, some, if_neg Bool.false_ne_true, fundingFrame, indexed]
    simp only [bind, Except.bind, hourly]
    rfl
  · rw [← attrs]
    simp only [finalize]
    rw [Dict.get?_set_ne _ _ (by decide), Dict.get?_set_self]

end Stages

/-! ## The helpers on each shape -/

/-- What `_normalized_rows` makes of a row, whatever its shape. -/
def normal (row : FundingRate) : NormalRow :=
  ⟨row.timestamp, .str (kindText row.rate.kind), row.rate.perCycle, row.rate.cycleMs⟩

section Shapes
variable (text : TextNumbers)

theorem int_num (n : ℤ) : (Json.num (n : ℚ)).int text = .ok n := by
  simp [Json.int]

theorem rateFields_wireOf (row : FundingRate) : rateFields text (wireOf row) =
    .ok ⟨.str (kindText row.rate.kind), row.rate.perCycle, row.rate.cycleMs⟩ := rfl

theorem wireRow_normal (row : FundingRate) : wireRow text (wireOf row) = .ok (normal row) := by
  have timestamp : (wireOf row).item "timestamp" = .ok (.num row.timestamp) := rfl
  simp only [wireRow, rateFields_wireOf, timestamp, bind, Except.bind, int_num]
  rfl

/-- A flattened row. -/
def flatOf (row : FundingRate) : Json := .obj (flatten (wireFields row))

theorem rateFields_flatOf (row : FundingRate) : rateFields text (flatOf row) =
    .ok ⟨.str (kindText row.rate.kind), row.rate.perCycle, row.rate.cycleMs⟩ := rfl

theorem flatRow_normal (row : FundingRate) : wireRow text (flatOf row) = .ok (normal row) := by
  have timestamp : (flatOf row).item "timestamp" = .ok (.num row.timestamp) := rfl
  simp only [wireRow, rateFields_flatOf, timestamp, bind, Except.bind, int_num]
  rfl

/-- A row of the frame as pandas gives it. -/
def frameFields (cells : TableRow) : ℤ × Json :=
  (cells.index, .obj (fundingColumns.map fun name => (name, cells.cell name)))

theorem view_rows {df : DataFrame} (columns : df.table.columns = fundingColumns) :
    df.view.rows = df.table.rows.map frameFields := by
  simp only [DataFrame.view, columns]
  rfl

theorem frameRow_normal {row : FundingRate} {cells : TableRow} (built : Built row cells) :
    cleanFrameRow text (.str (kindText row.rate.kind)) (frameFields cells) = .ok (normal row) := by
  have rate : (frameFields cells).2.item "rate" = .ok (cells.cell "rate") := rfl
  have cycleMs : (frameFields cells).2.item "cycle_ms" = .ok (cells.cell "cycle_ms") := rfl
  simp only [cleanFrameRow, rate, cycleMs, built.rate, built.cycleMs, Json.float, bind, Except.bind]
  rw [show indexMs (frameFields cells).1 = row.timestamp from built.index]
  rfl

theorem perHour_eq {row : FundingRate} (positive : 0 < row.rate.cycleMs) :
    perHour row.rate.perCycle row.rate.cycleMs = .ok (hourly row) := by
  have hours : (row.rate.cycleMs : ℚ) / 3600000 ≠ 0 :=
    (div_pos (Int.cast_pos.mpr positive) (by norm_num)).ne'
  rw [perHour, if_neg hours, hourly]

/-- What `per_hour_view` gives for each shape of a row. -/
theorem perHourView_shapes {row : FundingRate} (positive : 0 < row.rate.cycleMs) :
    perHourView text (.mapping (wireOf row)) = .ok (hourly row) ∧
      perHourView text (.mapping (flatOf row)) = .ok (hourly row) ∧
      perHourView text (.series (flatOf row)) = .ok (hourly row) :=
  ⟨perHour_eq positive, perHour_eq positive, perHour_eq positive⟩

theorem perHourView_frame {row : FundingRate} {cells : TableRow} (built : Built row cells) :
    (frameFields cells).2.item "funding_per_hour" = .ok (.num (hourly row)) ∧
      perHourView text (.series (frameFields cells).2) = .ok (hourly row) := by
  have item : (frameFields cells).2.item "funding_per_hour" =
    .ok (cells.cell "funding_per_hour") := rfl
  have view : perHourView text (.series (frameFields cells).2) =
    (cells.cell "funding_per_hour").float text := rfl
  rw [item, view, built.perHour]
  exact ⟨rfl, rfl⟩

/-- A mark price whose funding block has the rate of a row. -/
def Quotes (raw : List (String × Json)) (row : FundingRate) : Prop :=
  ∃ funding, raw.lookup "funding" = some (.obj funding) ∧
    funding.lookup "per_cycle" = some (.num row.rate.perCycle) ∧
    funding.lookup "cycle_ms" = some (.num row.rate.cycleMs)

theorem markPriceRow_perHour {raw : List (String × Json)} {row : FundingRate}
    (positive : 0 < row.rate.cycleMs) (quotes : Quotes raw row) :
    ∃ mark, markPriceRow (.obj raw) = .ok mark ∧
      mark.item "funding_per_hour" = .ok (.num (hourly row)) ∧
      perHourView text (.mapping mark) = .ok (hourly row) := by
  obtain ⟨funding, block, perCycle, cycleMs⟩ := quotes
  have some : (Json.obj funding).truthy = true := by
    cases funding with
    | nil => cases perCycle
    | cons => rfl
  have cycle : (Json.num (row.rate.cycleMs : ℚ)).truthy = true := by
    simpa [Json.truthy] using positive.ne'
  simp only [markPriceRow, Json.get?, Json.getD, block, orEmpty, Option.getD_some, some, if_true,
    perCycle, cycleMs, Except.map, bind, Except.bind, isNull, Bool.not_false, cycle, and_self,
    perHourQuotient, factor, pure, Except.pure]
  exact ⟨_, rfl, rfl, rfl⟩

/-- What `funding_paid` gives once its rows are normalized to a list of positive cycles. -/
theorem fundingPaid_normal {rows : List FundingRate} {shape : Rows} {paired : List FundingRate}
    (order : paired.Perm rows) (positive : ∀ row ∈ rows, 0 < row.rate.cycleMs)
    (read : normalizedRows text shape = .ok (paired.map normal)) (tOpen tClose : ℤ) (notional : ℚ) :
    fundingPaid text shape tOpen tClose notional =
      .ok ((rows.map normal).map fun row => row.amount tOpen tClose notional).sum := by
  rw [fundingPaid_eq read]
  · exact congrArg Except.ok ((order.map normal).map _).sum_eq
  · intro norm member
    obtain ⟨row, present, rfl⟩ := List.mem_map.mp member
    exact Int.cast_pos.mpr (positive row (order.mem_iff.mp present))

theorem wire_normalized {shape : FundingRate → Json}
    (read : ∀ row, wireRow text (shape row) = .ok (normal row)) (rows : List FundingRate) :
    normalizedRows text (.wire (rows.map shape)) = .ok (rows.map normal) := by
  refine mapM_eq_ok ?_
  rw [List.forall₂_map_left_iff, List.forall₂_map_right_iff, List.forall₂_same]
  exact fun row _ => read row

theorem frame_normalized {df : DataFrame} {paired : List FundingRate}
    {kind : InfoCache.FundingKind} (built : List.Forall₂ Built paired df.table.rows)
    (columns : df.table.columns = fundingColumns)
    (attrs : df.attrs.get? "funding_kind" = some (.str (kindText kind)))
    (oneKind : ∀ row ∈ paired, row.rate.kind = kind) :
    normalizedRows text (.frame df.view) = .ok (paired.map normal) := by
  have rate : "rate" ∈ df.view.columns := by
    have labels : df.view.columns = fundingColumns := columns
    rw [labels]
    decide
  rw [normalizedRows, if_pos rate, cleanFrameRows, view_rows columns]
  have named : df.view.fundingKind = some (.str (kindText kind)) := attrs
  rw [named, Option.getD_some]
  refine mapM_eq_ok ?_
  rw [List.forall₂_map_left_iff, List.forall₂_map_right_iff]
  have both := (List.forall₂_and_left _ _).mpr ⟨oneKind, built⟩
  refine both.flip.imp ?_
  rintro cells row ⟨same, built⟩
  exact same ▸ frameRow_normal text built

end Shapes

/-- The helpers agree on every shape of the rows: paid on the wire rows, on the
flattened rows and on the frame made of them, and per hour on each row. -/
theorem fundingHelpers_agree (text : TextNumbers) {pandas : Pandas}
    (documented : Documented pandas) (ctx : Context) {rows : List FundingRate}
    (nonempty : rows ≠ []) {kind : InfoCache.FundingKind}
    (oneKind : ∀ row ∈ rows, row.rate.kind = kind) (positive : ∀ row ∈ rows, 0 < row.rate.cycleMs)
    (survive : ∀ row ∈ rows, Survives pandas row.timestamp) :
    ∃ df paired, build pandas (rows.map wireOf) ctx = .ok df ∧ paired.Perm rows ∧
      (∀ tOpen tClose notional, ∃ paid,
        fundingPaid text (.wire (rows.map wireOf)) tOpen tClose notional = .ok paid ∧
        fundingPaid text (.wire (rows.map flatOf)) tOpen tClose notional = .ok paid ∧
        fundingPaid text (.frame df.view) tOpen tClose notional = .ok paid) ∧
      List.Forall₂ (fun row frameRow => indexMs frameRow.1 = row.timestamp ∧
        ∃ rate, perHourView text (.mapping (wireOf row)) = .ok rate ∧
          perHourView text (.mapping (flatOf row)) = .ok rate ∧
          perHourView text (.series (flatOf row)) = .ok rate ∧
          frameRow.2.item "funding_per_hour" = .ok (.num rate) ∧
          perHourView text (.series frameRow.2) = .ok rate ∧
          ∀ raw, Quotes raw row → ∃ mark, markPriceRow (.obj raw) = .ok mark ∧
            mark.item "funding_per_hour" = .ok (.num rate) ∧
            perHourView text (.mapping mark) = .ok rate) paired df.view.rows := by
  obtain ⟨df, paired, made, order, built, columns, attrs⟩ :=
    build_built documented ctx nonempty oneKind positive survive
  refine ⟨df, paired, made, order, fun tOpen tClose notional => ?_, ?_⟩
  · have frame := frame_normalized text built columns attrs fun row member =>
      oneKind row (order.mem_iff.mp member)
    have same := List.Perm.refl rows
    exact ⟨_, fundingPaid_normal text same positive
        (wire_normalized text (wireRow_normal text) rows) tOpen tClose notional,
      fundingPaid_normal text same positive (wire_normalized text (flatRow_normal text) rows)
        tOpen tClose notional,
      fundingPaid_normal text order positive frame tOpen tClose notional⟩
  · rw [view_rows columns, List.forall₂_map_right_iff]
    have both := (List.forall₂_and_left _ _).mpr
      ⟨fun row member => positive row (order.mem_iff.mp member), built⟩
    refine both.imp ?_
    rintro row cells ⟨cycle, built⟩
    obtain ⟨wire, flat, series⟩ := perHourView_shapes text cycle
    obtain ⟨item, view⟩ := perHourView_frame text built
    exact ⟨built.index, hourly row, wire, flat, series, item, view,
      fun raw quotes => markPriceRow_perHour text cycle quotes⟩

/-! ## On a table of pandas' own making -/

section Plain

def flatRecord : Json → List (String × Json)
  | .obj record => flatten record
  | _ => []

def number : Json → Option ℚ
  | .num q => some q
  | _ => none

/-- One row per record, from the given number on. -/
def numbered (first : ℤ) : List Json → List TableRow
  | [] => []
  | record :: rest =>
    ⟨first, fun name => ((flatRecord record).lookup name).getD .null⟩ :: numbered (first + 1) rest

/-- A cell after `rename`. -/
def renamedCell (mapping : List (String × String)) (columns : List String) (row : TableRow)
    (name : String) : Json :=
  match columns.find? fun column => newName mapping column = name with
  | some column => row.cell column
  | none => .null

/-- pandas on cells that are numbers, texts or missing. -/
def plainPandas : Pandas where
  jsonNormalize records :=
    ⟨(records.flatMap fun record => (flatRecord record).map Prod.fst).dedup, numbered 0 records⟩
  toDatetime
    | .num q => .ok (q * 1000000).floor
    | _ => .error .typeError
  sortIndex rows := rows.mergeSort fun a b => a.index ≤ b.index
  rename mapping table :=
    ⟨table.columns.map (newName mapping), table.rows.map fun row =>
      { row with cell := renamedCell mapping table.columns row }⟩
  reindex columns table :=
    ⟨columns, table.rows.map fun row =>
      { row with cell := fun name => if name ∈ table.columns then row.cell name else .null }⟩
  toNumeric
    | .num q => .num q
    | _ => .null
  nunique cells := (cells.filterMap number).dedup.length

theorem lookup_of_mem {fields : List (String × Json)} (distinct : (fields.map Prod.fst).Nodup)
    {field : String × Json} (member : field ∈ fields) : fields.lookup field.1 = some field.2 := by
  induction fields with
  | nil => cases member
  | cons first rest ih =>
    obtain ⟨fresh, later⟩ := List.nodup_cons.mp distinct
    rw [List.lookup_cons]
    rcases List.mem_cons.mp member with rfl | inRest
    · simp
    · have other : field.1 ≠ first.1 := by
        rintro same
        exact fresh (same ▸ List.mem_map_of_mem inRest)
      rw [beq_false_of_ne other]
      exact ih later inRest

theorem numbered_flattens (records : List (List (String × Json)))
    (distinct : ∀ record ∈ records, (names record).Nodup) (first : ℤ) :
    List.Forall₂ (fun record row => ∀ field ∈ flatten record, row.cell field.1 = field.2) records
      (numbered first (records.map .obj)) := by
  induction records generalizing first with
  | nil => exact .nil
  | cons record rest ih =>
    obtain ⟨own, later⟩ := List.forall_mem_cons.mp distinct
    refine .cons (fun field member => ?_) (ih later (first + 1))
    simp only [flatRecord, lookup_of_mem own member, Option.getD_some]

theorem plainPandas_documented : Documented plainPandas where
  flattens records distinct := numbered_flattens records distinct 0
  columns records name := by
    simp only [plainPandas, List.mem_dedup, List.mem_flatMap, List.mem_map]
    constructor
    · rintro ⟨_, ⟨record, member, rfl⟩, field, named, rfl⟩
      exact ⟨record, member, List.mem_map_of_mem named⟩
    · rintro ⟨record, member, named⟩
      obtain ⟨field, inRecord, rfl⟩ := List.mem_map.mp named
      exact ⟨_, ⟨record, member, rfl⟩, field, inRecord, rfl⟩
  sorts rows := List.mergeSort_perm rows _
  renames mapping table distinct := by
    refine ⟨rfl, ?_⟩
    simp only [plainPandas]
    rw [List.forall₂_map_right_iff, List.forall₂_same]
    intro row _
    refine ⟨rfl, fun name member => ?_⟩
    obtain ⟨column, found⟩ : ∃ column, table.columns.find? (fun column =>
        newName mapping column = newName mapping name) = some column :=
      Option.isSome_iff_exists.mp (List.find?_isSome.mpr ⟨name, member, by simp⟩)
    have called := List.find?_some found
    simp only [decide_eq_true_eq] at called
    have same := distinct (List.mem_of_find?_eq_some found) member called
    simp only [renamedCell, found, same]
  reindexes columns table := by
    refine ⟨rfl, ?_⟩
    simp only [plainPandas]
    rw [List.forall₂_map_right_iff, List.forall₂_same]
    exact fun row _ => ⟨rfl, fun name _ present => if_pos present⟩
  numbers _ := rfl

theorem plainPandas_survives (ms : ℤ) : Survives plainPandas ms := by
  refine ⟨ms * 1000000, ?_, ?_⟩
  · have whole : (ms : ℚ) * 1000000 = ((ms * 1000000 : ℤ) : ℚ) := by push_cast; rfl
    simp only [plainPandas, whole, Rat.floor_intCast]
  · exact Int.mul_ediv_cancel ms (by decide)

/-- Two settlements, the later one first. -/
def twoSettlements : List FundingRate :=
  [⟨"BTCUSDT", .linear, "USDT", ⟨.discrete, 1 / 10000, 28800000⟩, 57600000⟩,
    ⟨"BTCUSDT", .linear, "USDT", ⟨.discrete, -1 / 5000, 14400000⟩, 43200000⟩]

def twoContext : Context := ⟨"binance", "linear", "BTCUSDT", none, true⟩

theorem twoSettlements_nonempty : twoSettlements ≠ [] := List.cons_ne_nil _ _

theorem twoSettlements_discrete : ∀ row ∈ twoSettlements, row.rate.kind = .discrete := by
  simp [twoSettlements]

theorem twoSettlements_positive : ∀ row ∈ twoSettlements, 0 < row.rate.cycleMs := by
  simp [twoSettlements]

theorem fundingHelpers_agree_two : ∃ df,
    build plainPandas (twoSettlements.map wireOf) twoContext = .ok df ∧ ∃ paid,
      fundingPaid noTexts (.wire (twoSettlements.map wireOf)) 43200000 57600000 1000 = .ok paid ∧
      fundingPaid noTexts (.frame df.view) 43200000 57600000 1000 = .ok paid := by
  obtain ⟨df, _, made, _, paid, _⟩ := fundingHelpers_agree noTexts plainPandas_documented twoContext
    twoSettlements_nonempty twoSettlements_discrete twoSettlements_positive fun row _ =>
      plainPandas_survives row.timestamp
  obtain ⟨amount, wire, -, frame⟩ := paid 43200000 57600000 1000
  exact ⟨df, made, amount, wire, frame⟩

end Plain

end ExchangeRouter.Client.Frames
