import ExchangeRouter.Lib.FirstOf
import ExchangeRouter.Symbols.RoundTrip

/-!
# The directory of Hyperliquid's contracts

`src/exchanges/hyperliquid/adapter.py`: the linear branch of `_fetch_exchange_info`
with `_fetch_builder_info` and `_linear_symbol_info`, and `_lookup` with the
functions that spell symbols.  The contracts of the exchange come first, then
those of each builder's exchange; one whose symbol is taken is skipped.
-/
namespace ExchangeRouter.Hyperliquid.Directory
open Lib OrderBooks InfoCache Symbols

/-! ## Symbols -/

def normalizeSymbol (symbol : String) : List Char :=
  (symbol.toList.filter fun c => c ∉ ['/', '-', ':']).map Char.toUpper

def getApiSymbol (symbol : String) (marketType : MarketType) : String :=
  let s := normalizeSymbol symbol
  if marketType = .linear ∧ endsWith "USDC" s then String.ofList (s.rdrop 4) else String.ofList s

def getModelSymbol (apiSymbol : String) (marketType : MarketType) : String :=
  let s := apiSymbol.toUpper
  if marketType = .linear ∧ ¬ endsWith "USDC" s.toList then s ++ "USDC" else s

/-! ## The listing -/

def fundingCycleMs : ℤ := 3600000

def minOrderValueUsd : ℚ := 10

/-- What varies in a `SymbolInfo` of the adapter. -/
structure Info where
  symbol : String
  nativeSymbol : String
  baseAsset : String
  quoteAsset : String
  pricePrecision : ℤ
  quantityPrecision : ℤ
  minNotional : ℚ
  funding : FundingKind
  deriving DecidableEq

def linearSymbolInfo (modelSym native base : String) (szDec : ℤ) : Info where
  symbol := modelSym
  nativeSymbol := native
  baseAsset := base
  quoteAsset := "USDC"
  pricePrecision := max (6 - szDec) 0
  quantityPrecision := szDec
  minNotional := minOrderValueUsd
  funding := .discrete

/-- What the loops read of a row of a universe, or how it raises. -/
inductive UniverseRow
  | delisted
  | contract (name : String) (szDecimals : ℤ)
  | broken (e : PyError)

def rowOf (text : TextNumbers) (u : Json) : UniverseRow :=
  let read : Except PyError (Option (Json × ℤ)) := do
    if (← u.get? "isDelisted").any Json.truthy then return none
    let name ← u.item "name"
    return some (name, ← (← u.item "szDecimals").int text)
  match read with
  | .error e => .broken e
  | .ok none => .delisted
  | .ok (some (.str name, szDecimals)) => .contract name szDecimals
  | .ok (some _) => .broken .attributeError

def primaryInfo (coin : String) (szDec : ℤ) : Info :=
  linearSymbolInfo (getModelSymbol coin .linear) coin coin szDec

/-- `native.split(":", 1)[1] if ":" in native else native`. -/
def baseOf (native : String) : String :=
  if ':' ∈ native.toList then String.ofList (native.toList.dropWhile (· ≠ ':')).tail else native

def builderInfo (dex native : String) (szDec : ℤ) : Info :=
  linearSymbolInfo (getModelSymbol (dex ++ baseOf native) .linear) native (baseOf native) szDec

/-- `results`, `seen` and the adapter's funding intervals of linear contracts. -/
structure Listing where
  results : List Info
  seen : List String
  intervals : Dict String ℤ

/-- The body of both loops, once the row is read. -/
def Listing.add (listing : Listing) (info : Info) : Listing :=
  if info.symbol ∈ listing.seen then listing
  else ⟨listing.results ++ [info], info.symbol :: listing.seen,
    listing.intervals.set info.symbol fundingCycleMs⟩

/-- A loop over a universe; a row that raises ends it. -/
def addRows (infoOf : String → ℤ → Info) :
    List UniverseRow → Listing → Listing × Except PyError Unit
  | [], listing => (listing, .ok ())
  | .delisted :: rest, listing => addRows infoOf rest listing
  | .broken e :: _, listing => (listing, .error e)
  | .contract name szDec :: rest, listing => addRows infoOf rest (listing.add (infoOf name szDec))

/-- The name of an entry of `perpDexs`, if it is not passed over. -/
def dexOfEntry (entry : Json) : Except PyError (Option String) := do
  if !entry.truthy then return none
  match ← entry.get? "name" with
  | some (.str dex) => return if dex = "" then none else some dex
  | _ => return none

/-- The requests of a fetch: `data[0]["universe"]` of the exchange and of each
builder's, and the answer to `perpDexs`. -/
structure Replies where
  primary : Except PyError (List UniverseRow)
  dexs : Except PyError Json
  dexUniverse : String → Except PyError (List UniverseRow)

/-- `data[0]["universe"]`, row by row. -/
def universeOf (text : TextNumbers) (data : Json) : Except PyError (List UniverseRow) := do
  return (← (← (← data.index 0).item "universe").elements).map (rowOf text)

def repliesOf (text : TextNumbers) (primary dexs : Except PyError Json)
    (dex : String → Except PyError Json) : Replies where
  primary := primary >>= universeOf text
  dexs := dexs
  dexUniverse name := dex name >>= universeOf text

/-- The loop of `_fetch_builder_info`; what a builder's exchange raises is logged. -/
def addDexs (dexUniverse : String → Except PyError (List UniverseRow)) :
    List Json → Listing → Listing × Except PyError Unit
  | [], listing => (listing, .ok ())
  | entry :: rest, listing =>
    match dexOfEntry entry with
    | .error e => (listing, .error e)
    | .ok none => addDexs dexUniverse rest listing
    | .ok (some dex) =>
      match dexUniverse dex with
      | .error _ => addDexs dexUniverse rest listing
      | .ok rows => addDexs dexUniverse rest (addRows (builderInfo dex) rows listing).1

def fetchBuilderInfo (replies : Replies) (listing : Listing) : Listing × Except PyError Unit :=
  match replies.dexs with
  | .error _ => (listing, .ok ())
  | .ok data =>
    match data.elements with
    | .error e => (listing, .error e)
    | .ok entries => addDexs replies.dexUniverse entries listing

/-- `_fetch_exchange_info` on linear markets: the records, and the funding
intervals that it leaves, also when it raises. -/
def fetchExchangeInfo (replies : Replies) (intervals : Dict String ℤ) :
    Except PyError (List Info) × Dict String ℤ :=
  match replies.primary with
  | .error e => (.error e, intervals)
  | .ok rows =>
    match addRows primaryInfo rows ⟨[], [], intervals⟩ with
    | (listing, .error e) => (.error e, listing.intervals)
    | (listing, .ok ()) =>
      let (listing, outcome) := fetchBuilderInfo replies listing
      (outcome.map fun _ => listing.results, listing.intervals)

/-- `_lookup`, in the dictionary that `_ensure_info_cache` makes of the records. -/
def lookup (infos : List Info) (symbol : String) : Except PyError (String × String × String) :=
  let modelSym := getModelSymbol (getApiSymbol symbol .linear) .linear
  match (Dict.collect Info.symbol id infos).get? modelSym with
  | none => .error (.valueError ("Symbol " ++ symbol ++ " not found on Hyperliquid linear"))
  | some info => .ok (modelSym, info.nativeSymbol, info.quoteAsset)

/-! ## What is listed -/

/-- The contracts of a universe up to a row that raises. -/
def offeredRows (infoOf : String → ℤ → Info) : List UniverseRow → List Info
  | [] => []
  | .delisted :: rest => offeredRows infoOf rest
  | .broken _ :: _ => []
  | .contract name szDec :: rest => infoOf name szDec :: offeredRows infoOf rest

/-- The contracts of a builder's exchange, as far as it answers. -/
def offeredBy (dexUniverse : String → Except PyError (List UniverseRow)) (entry : Json) :
    List Info :=
  match dexOfEntry entry with
  | .ok (some dex) => (dexUniverse dex).toOption.elim [] (offeredRows (builderInfo dex))
  | _ => []

def offeredByBuilders (replies : Replies) : List Info :=
  (replies.dexs.toOption.bind fun data => data.elements.toOption).elim []
    fun entries => entries.flatMap (offeredBy replies.dexUniverse)

/-- The contracts offered, the exchange's own first. -/
def offered (replies : Replies) : List Info :=
  replies.primary.toOption.elim [] (offeredRows primaryInfo) ++ offeredByBuilders replies

def UniverseRow.readable : UniverseRow → Prop
  | .broken _ => False
  | _ => True

/-- Nothing raises but, perhaps, the exchanges of builders. -/
structure Readable (replies : Replies) : Prop where
  primary : ∃ rows, replies.primary = .ok rows ∧ ∀ row ∈ rows, row.readable
  dexs : ∀ data, replies.dexs = .ok data → ∃ entries, data.elements = .ok entries ∧
    ∀ entry ∈ entries, ∃ dex, dexOfEntry entry = .ok dex

/-- The first of these contracts under each symbol, with their funding intervals. -/
structure Lists (contracts : List Info) (listing : Listing) : Prop where
  first : FirstOf Info.symbol contracts listing.results
  seen : ∀ symbol, symbol ∈ listing.seen ↔ symbol ∈ listing.results.map Info.symbol
  intervals : ∀ info ∈ listing.results,
    listing.intervals.get? info.symbol = some fundingCycleMs

theorem Lists.add {contracts : List Info} {listing : Listing} (lists : Lists contracts listing)
    (info : Info) : Lists (contracts ++ [info]) (listing.add info) := by
  unfold Listing.add
  by_cases taken : info.symbol ∈ listing.seen
  · rw [if_pos taken]
    exact ⟨lists.first.skip ((lists.seen _).mp taken), lists.seen, lists.intervals⟩
  · rw [if_neg taken]
    have new := fun known => taken ((lists.seen _).mpr known)
    refine ⟨lists.first.keep new, fun symbol => ?_, fun other member => ?_⟩
    · rw [List.mem_cons, lists.seen, List.map_append, List.mem_append, List.map_singleton,
        List.mem_singleton, or_comm]
    · rw [Dict.get?_set]
      split
      · rfl
      · next another =>
        rcases List.mem_append.mp member with early | last
        · exact lists.intervals other early
        · exact absurd (congrArg Info.symbol (List.mem_singleton.mp last)) another

theorem Lists.addRows (infoOf : String → ℤ → Info) (rows : List UniverseRow)
    {contracts : List Info} {listing : Listing} (lists : Lists contracts listing) :
    Lists (contracts ++ offeredRows infoOf rows) (addRows infoOf rows listing).1 := by
  induction rows generalizing contracts listing with
  | nil => simpa [offeredRows, Directory.addRows] using lists
  | cons row rest ih =>
    cases row with
    | delisted => exact ih lists
    | broken e => simpa [offeredRows, Directory.addRows] using lists
    | contract name szDec =>
      have later := ih (lists.add (infoOf name szDec))
      rwa [List.append_assoc] at later

theorem addRows_ok (infoOf : String → ℤ → Info) (rows : List UniverseRow) (listing : Listing) :
    (addRows infoOf rows listing).2 = .ok () ↔ ∀ row ∈ rows, row.readable := by
  induction rows generalizing listing with
  | nil => simp [addRows]
  | cons row rest ih =>
    rw [List.forall_mem_cons]
    cases row with
    | delisted => exact (ih listing).trans (iff_of_eq (true_and _)).symm
    | broken e => simp [addRows, UniverseRow.readable]
    | contract name szDec => exact (ih _).trans (iff_of_eq (true_and _)).symm

theorem Lists.addDexs (dexUniverse : String → Except PyError (List UniverseRow))
    (entries : List Json) {contracts : List Info} {listing : Listing}
    (lists : Lists contracts listing)
    (ended : (addDexs dexUniverse entries listing).2 = .ok ()) :
    Lists (contracts ++ entries.flatMap (offeredBy dexUniverse))
      (addDexs dexUniverse entries listing).1 := by
  induction entries generalizing contracts listing with
  | nil => simpa [Directory.addDexs] using lists
  | cons entry rest ih =>
    rw [Directory.addDexs] at ended ⊢
    rw [List.flatMap_cons, ← List.append_assoc, offeredBy]
    cases named : dexOfEntry entry with
    | error e =>
      rw [named] at ended
      cases ended
    | ok name =>
      cases name with
      | none =>
        rw [named] at ended
        rw [List.append_nil]
        exact ih lists ended
      | some dex =>
        rw [named] at ended
        simp only at ended ⊢
        cases answered : dexUniverse dex with
        | error e =>
          rw [answered] at ended
          simp only [Except.toOption, Option.elim_none, List.append_nil]
          exact ih lists ended
        | ok rows =>
          rw [answered] at ended
          exact ih (lists.addRows (builderInfo dex) rows) ended

theorem addDexs_ok (dexUniverse : String → Except PyError (List UniverseRow))
    (entries : List Json) (listing : Listing) :
    (addDexs dexUniverse entries listing).2 = .ok () ↔
      ∀ entry ∈ entries, ∃ dex, dexOfEntry entry = .ok dex := by
  induction entries generalizing listing with
  | nil => simp [addDexs]
  | cons entry rest ih =>
    rw [List.forall_mem_cons, addDexs]
    cases named : dexOfEntry entry with
    | error e => simp
    | ok name =>
      have readable : ∃ dex, (.ok name : Except PyError (Option String)) = .ok dex := ⟨name, rfl⟩
      rw [and_iff_right readable]
      cases name with
      | none => exact ih listing
      | some dex =>
        cases answered : dexUniverse dex with
        | error e => simpa [answered] using ih listing
        | ok rows => simpa [answered] using ih (addRows (builderInfo dex) rows listing).1

theorem fetchBuilderInfo_ok (replies : Replies) (listing : Listing) :
    (fetchBuilderInfo replies listing).2 = .ok () ↔
      ∀ data, replies.dexs = .ok data → ∃ entries, data.elements = .ok entries ∧
        ∀ entry ∈ entries, ∃ dex, dexOfEntry entry = .ok dex := by
  unfold fetchBuilderInfo
  cases answered : replies.dexs with
  | error e => simp
  | ok data =>
    cases listed : data.elements with
    | error e => simp [listed]
    | ok entries => simpa [listed] using addDexs_ok replies.dexUniverse entries listing

theorem Lists.fetchBuilderInfo {replies : Replies} {contracts : List Info} {listing : Listing}
    (lists : Lists contracts listing)
    (ended : (fetchBuilderInfo replies listing).2 = .ok ()) :
    Lists (contracts ++ offeredByBuilders replies) (fetchBuilderInfo replies listing).1 := by
  unfold Directory.fetchBuilderInfo offeredByBuilders at *
  cases answered : replies.dexs with
  | error e => simpa [Except.toOption] using lists
  | ok data =>
    cases listed : data.elements with
    | error e =>
      rw [answered] at ended
      simp [listed] at ended
    | ok entries =>
      rw [answered] at ended
      simp only [listed] at ended ⊢
      simpa [Except.toOption, listed] using lists.addDexs replies.dexUniverse entries ended

/-- A fetch succeeds exactly when nothing raises but the exchanges of builders. -/
theorem fetchExchangeInfo_ok (replies : Replies) (before : Dict String ℤ) :
    (∃ infos, (fetchExchangeInfo replies before).1 = .ok infos) ↔ Readable replies := by
  unfold fetchExchangeInfo
  cases answered : replies.primary with
  | error e =>
    constructor
    · rintro ⟨infos, failed⟩
      cases failed
    · intro readable
      obtain ⟨rows, primary, -⟩ := readable.primary
      cases answered.symm.trans primary
  | ok rows =>
    have read := addRows_ok primaryInfo rows ⟨[], [], before⟩
    have first : Readable replies → ∀ row ∈ rows, row.readable := by
      intro readable
      obtain ⟨own, primary, all⟩ := readable.primary
      obtain rfl := Except.ok.inj (answered.symm.trans primary)
      exact all
    simp only
    rcases added : addRows primaryInfo rows ⟨[], [], before⟩ with ⟨listing, e | ended⟩
    · rw [added] at read
      constructor
      · rintro ⟨infos, failed⟩
        cases failed
      · intro readable
        cases read.mpr (first readable)
    · rw [added] at read
      have builders := fetchBuilderInfo_ok replies listing
      simp only
      rcases built : fetchBuilderInfo replies listing with ⟨later, e | done⟩
      · rw [built] at builders
        constructor
        · rintro ⟨infos, failed⟩
          cases failed
        · intro readable
          cases builders.mpr readable.dexs
      · rw [built] at builders
        exact ⟨fun _ => ⟨⟨rows, answered, read.mp rfl⟩, builders.mp rfl⟩, fun _ => ⟨_, rfl⟩⟩

/-- A fetch lists the first contract offered under each symbol. -/
theorem fetchExchangeInfo_lists {replies : Replies} {before : Dict String ℤ} {infos : List Info}
    (fetched : (fetchExchangeInfo replies before).1 = .ok infos) :
    ∃ listing, Lists (offered replies) listing ∧ listing.results = infos ∧
      (fetchExchangeInfo replies before).2 = listing.intervals := by
  unfold fetchExchangeInfo at fetched ⊢
  cases answered : replies.primary with
  | error e =>
    rw [answered] at fetched
    cases fetched
  | ok rows =>
    rw [answered] at fetched
    simp only at fetched ⊢
    have start : Lists [] ⟨[], [], before⟩ := ⟨.nil _, fun _ => Iff.rfl, nofun⟩
    have own := start.addRows primaryInfo rows
    rcases added : addRows primaryInfo rows ⟨[], [], before⟩ with ⟨listing, e | ended⟩
    · rw [added] at fetched
      cases fetched
    · rw [added] at fetched own
      simp only at fetched ⊢
      have later : _ → Lists (_ ++ offeredByBuilders replies) _ := own.fetchBuilderInfo
      rcases built : fetchBuilderInfo replies listing with ⟨last, e | done⟩
      · rw [built] at fetched
        cases fetched
      · rw [built] at fetched later
        refine ⟨last, ?_, Except.ok.inj fetched, rfl⟩
        simpa [offered, answered, Except.toOption] using later rfl

/-! ## Lookups -/

/-- Any mix of cases, with `/`, `-` and `:` at any position, and with the quote or
without it. -/
def SpelledAs (symbol spelling : String) : Prop :=
  ∃ base, symbol = base ++ "USDC" ∧
    (Spells EitherCase ['/', '-', ':'] symbol.toList spelling.toList ∨
      Spells EitherCase ['/', '-', ':'] base.toList spelling.toList)

theorem alphanumeric_bare : ∀ c ∈ alphanumerics,
    c ∉ ['/', '-', ':'] ∧ c.toLower ∉ ['/', '-', ':'] := by
  decide

theorem normalizeSymbol_spelled {word : List Char} {spelling : String}
    (spelled : Spells EitherCase ['/', '-', ':'] word spelling.toList) :
    normalizeSymbol spelling = word := by
  have written := spelled.letters fun c d either => by
    obtain ⟨letter, rfl | rfl⟩ := either
    · exact (alphanumeric_bare _ letter).1
    · exact (alphanumeric_bare _ letter).2
  exact map_of_forms written fun c d either => either.upper

theorem endsWith_quote (base : List Char) : endsWith "USDC" (base ++ "USDC".toList) = true :=
  List.isSuffixOf_iff_suffix.mpr (List.suffix_append _ _)

theorem rdrop_quote (base : List Char) : (base ++ "USDC".toList).rdrop 4 = base :=
  List.rdrop_append_length

/-- The quote stands twice at the end exactly when it ends the base. -/
theorem endsWith_quotes (base : List Char) :
    endsWith "USDCUSDC" (base ++ "USDC".toList) = endsWith "USDC" base := by
  have twice : "USDCUSDC".toList = "USDC".toList ++ "USDC".toList := by decide
  rw [endsWith, endsWith, Bool.eq_iff_iff, List.isSuffixOf_iff_suffix, List.isSuffixOf_iff_suffix,
    twice]
  constructor
  · rintro ⟨lead, same⟩
    rw [← List.append_assoc] at same
    exact ⟨lead, List.append_cancel_right same⟩
  · rintro ⟨lead, rfl⟩
    exact ⟨lead, by rw [List.append_assoc]⟩

/-- What upper-case letters without the quote are looked up as. -/
theorem getModelSymbol_bare {base : String} (upper : base.toList.map Char.toUpper = base.toList) :
    getModelSymbol base .linear =
      if endsWith "USDC" base.toList then base else base ++ "USDC" := by
  have same : base.toUpper = base := by
    rw [← String.toList_inj, toUpper_toList, upper]
  unfold getModelSymbol
  rw [same]
  cases ends : endsWith "USDC" base.toList with
  | true => simp [ends]
  | false => simp [ends]

/-- A spelling is looked up as the symbol, unless the base ends with the quote. -/
theorem model_spelled {symbol spelling : String} (letters : ∀ c ∈ symbol.toList, c ∈ alphanumerics)
    (spelled : SpelledAs symbol spelling) :
    getModelSymbol (getApiSymbol spelling .linear) .linear = symbol ↔
      endsWith "USDCUSDC" symbol.toList = false := by
  obtain ⟨base, rfl, either⟩ := spelled
  have parts : (base ++ "USDC").toList = base.toList ++ "USDC".toList := String.toList_append
  rw [parts] at letters either ⊢
  have upper : base.toList.map Char.toUpper = base.toList := by
    rw [List.map_congr_left fun c member =>
      (alphanumeric_upper c (letters c (List.mem_append_left _ member))).1, List.map_id']
  rw [endsWith_quotes]
  -- the quote is taken off once
  have shorter : ∀ shown : String, shown.toList.length ≤ base.toList.length →
      shown ≠ base ++ "USDC" := by
    rintro shown fewer rfl
    rw [parts, List.length_append] at fewer
    have four : "USDC".toList.length = 4 := by decide
    omega
  rcases either with whole | bare
  · have api : getApiSymbol spelling .linear = base := by
      rw [getApiSymbol, normalizeSymbol_spelled whole, endsWith_quote, rdrop_quote]
      simp
    rw [api, getModelSymbol_bare upper]
    cases ends : endsWith "USDC" base.toList with
    | true => simpa using shorter base le_rfl
    | false => simp
  · have read := normalizeSymbol_spelled bare
    cases ends : endsWith "USDC" base.toList with
    | false =>
      have api : getApiSymbol spelling .linear = base := by simp [getApiSymbol, read, ends]
      rw [api, getModelSymbol_bare upper, ends]
      simp
    | true =>
      obtain ⟨lead, same⟩ := List.isSuffixOf_iff_suffix.mp ends
      have api : getApiSymbol spelling .linear = String.ofList lead := by
        rw [getApiSymbol, read, ends, ← same, rdrop_quote]
        simp
      have leadUpper : (String.ofList lead).toList.map Char.toUpper =
          (String.ofList lead).toList := by
        rw [String.toList_ofList]
        rw [← same, List.map_append] at upper
        exact (List.append_inj_left upper (List.length_map _))
      have fewer := congrArg List.length same
      rw [List.length_append] at fewer
      rw [api, getModelSymbol_bare leadUpper]
      simp only [Bool.true_eq_false, iff_false]
      split
      · exact shorter _ (by rw [String.toList_ofList]; omega)
      · refine shorter _ ?_
        rw [String.toList_append, String.toList_ofList, same]

theorem lookup_ok_iff {contracts infos : List Info} (first : FirstOf Info.symbol contracts infos)
    (text : String) (found : String × String × String) :
    lookup infos text = .ok found ↔
      found.1 = getModelSymbol (getApiSymbol text .linear) .linear ∧
        ∃ info, contracts.find? (fun contract => contract.symbol = found.1) = some info ∧
          found.2 = (info.nativeSymbol, info.quoteAsset) := by
  obtain ⟨modelSym, native, quote⟩ := found
  simp only [lookup, first.get?_collect]
  cases listed : contracts.find? fun contract =>
      contract.symbol = getModelSymbol (getApiSymbol text .linear) .linear with
  | none =>
    simp only [reduceCtorEq, false_iff]
    rintro ⟨rfl, info, found, -⟩
    rw [listed] at found
    cases found
  | some info =>
    simp only [Except.ok.injEq, Prod.mk.injEq]
    constructor
    · rintro ⟨rfl, rfl, rfl⟩
      exact ⟨rfl, info, listed, rfl, rfl⟩
    · rintro ⟨rfl, other, found, rfl, rfl⟩
      obtain rfl := Option.some.inj (listed.symm.trans found)
      exact ⟨rfl, rfl, rfl⟩

/-- Whatever the exchanges of builders answer, the contracts of a successful fetch are
the first ones offered under their symbols; a lookup answers with one of these only,
and any spelling of a symbol leads to its contract, unless the symbol ends with the
quote twice. -/
theorem directory_resolves (replies : Replies) (before : Dict String ℤ) :
    ((∃ infos, (fetchExchangeInfo replies before).1 = .ok infos) ↔ Readable replies) ∧
    ∀ infos, (fetchExchangeInfo replies before).1 = .ok infos →
      FirstOf Info.symbol (offered replies) infos ∧
      (∀ info ∈ infos,
        (fetchExchangeInfo replies before).2.get? info.symbol = some fundingCycleMs) ∧
      (∀ text found, lookup infos text = .ok found → ∃ info,
        (offered replies).find? (fun contract => contract.symbol = found.1) = some info ∧
          found.2 = (info.nativeSymbol, info.quoteAsset)) ∧
      ∀ info ∈ infos, (∀ c ∈ info.symbol.toList, c ∈ alphanumerics) →
        ∀ spelling, SpelledAs info.symbol spelling →
          (lookup infos spelling = .ok (info.symbol, info.nativeSymbol, info.quoteAsset) ↔
            endsWith "USDCUSDC" info.symbol.toList = false) := by
  refine ⟨fetchExchangeInfo_ok replies before, fun infos fetched => ?_⟩
  obtain ⟨listing, lists, rfl, left⟩ := fetchExchangeInfo_lists fetched
  refine ⟨lists.first, fun info member => ?_, fun text found answered => ?_, ?_⟩
  · rw [left]
    exact lists.intervals info member
  · exact ((lookup_ok_iff lists.first text found).mp answered).2
  · intro info member letters spelling spelled
    rw [← model_spelled letters spelled, lookup_ok_iff lists.first]
    constructor
    · rintro ⟨same, -⟩
      exact same.symm
    · intro same
      exact ⟨same.symm, info, lists.first.mem_iff.mp member, rfl⟩

/-- Two builders' exchanges, of which the first breaks off and the second fails. -/
def contractRow (name : String) (szDecimals : Json) : Json :=
  .obj [("name", .str name), ("szDecimals", szDecimals)]

/-- A delisted contract, a builder whose second row has no decimals, and one that
does not answer. -/
def threeReplies : Replies := repliesOf noTexts
  (.ok (.arr [.obj [("universe", .arr [contractRow "BTC" (.num 5),
    .obj [("name", .str "MATIC"), ("isDelisted", .bool true)], contractRow "kPEPE" (.num 0)])]]))
  (.ok (.arr [.null, .obj [("name", .str "xyz")], .obj [("name", .str "flx")]]))
  fun dex =>
    if dex = "xyz" then .ok (.arr [.obj [("universe", .arr [contractRow "xyz:TSLA" (.num 3),
      contractRow "xyz:AAPL" .null, contractRow "xyz:NVDA" (.num 3)])]])
    else .error (.other "UpstreamUnavailableError")

theorem spelledAs_tsla : SpelledAs "XYZTSLAUSDC" "xyz:tsla" := by
  have word : "XYZTSLA".toList = ['X', 'Y', 'Z', 'T', 'S', 'L', 'A'] := by decide
  have spelling : "xyz:tsla".toList = ['x', 'y', 'z', ':', 't', 's', 'l', 'a'] := by decide
  refine ⟨"XYZTSLA", by decide, .inr ?_⟩
  rw [word, spelling]
  have lower : ∀ c ∈ ['X', 'Y', 'Z', 'T', 'S', 'L', 'A'], EitherCase c c.toLower := by
    intro c member
    refine ⟨?_, .inr rfl⟩
    revert c
    decide
  simp only [List.forall_mem_cons] at lower
  obtain ⟨x, y, z, t, s, l, a, -⟩ := lower
  exact .letter x (.letter y (.letter z (.separator (by simp) (.letter t (.letter s (.letter l
    (.letter a .nil)))))))

theorem directory_resolves_three : ∃ infos,
    (fetchExchangeInfo threeReplies .empty).1 = .ok infos ∧
      infos.map Info.nativeSymbol = ["BTC", "kPEPE", "xyz:TSLA"] ∧
      lookup infos "xyz:tsla" = .ok ("XYZTSLAUSDC", "xyz:TSLA", "USDC") := by
  have fetched : (fetchExchangeInfo threeReplies .empty).1 =
      .ok [primaryInfo "BTC" 5, primaryInfo "kPEPE" 0, builderInfo "xyz" "xyz:TSLA" 3] := by
    decide +kernel
  obtain ⟨-, -, -, found⟩ := (directory_resolves threeReplies .empty).2 _ fetched
  have symbol : (builderInfo "xyz" "xyz:TSLA" 3).symbol = "XYZTSLAUSDC" := by decide +kernel
  have letters : ∀ c ∈ "XYZTSLAUSDC".toList, c ∈ alphanumerics := by decide
  refine ⟨_, fetched, rfl, ?_⟩
  have answered := (found (builderInfo "xyz" "xyz:TSLA" 3) (by simp) (symbol ▸ letters) "xyz:tsla"
    (symbol ▸ spelledAs_tsla)).mpr (by decide +kernel)
  rwa [symbol] at answered

end ExchangeRouter.Hyperliquid.Directory
