import Mathlib.Algebra.Order.Ring.Rat
import Mathlib.Data.List.Sort
import ExchangeRouter.Lib.ReadThrough
import ExchangeRouter.Symbols.RoundTrip

/-!
# Spot symbols of OKX and KuCoin

`_ensure_spot_symbol_map` and `_resolve_symbol` of `src/exchanges/okx/adapter.py`
and `kucoin/adapter.py`.  A listing is loaded once, unless it has no usable row;
what the adapters keep of it is `spotMap` and `learnedQuotes`.  The fields of a row are
texts, and a missing one is the empty text.
-/
namespace ExchangeRouter.Symbols
open Lib OrderBooks InfoCache

/-- `live` is `state == "live"` on OKX and `enableTrading` on KuCoin. -/
structure SpotRow where
  live : Bool
  native : String
  base : String
  quote : String
  deriving DecidableEq

namespace SpotRow

def kept (row : SpotRow) : Bool :=
  row.live && row.native ≠ "" && row.base ≠ "" && row.quote ≠ ""

/-- `f"{base}{quote}".upper()`. -/
def flat (row : SpotRow) : String := (row.base ++ row.quote).toUpper

end SpotRow

def keptRows (rows : List SpotRow) : List SpotRow := rows.filter SpotRow.kept

/-- `_spot_symbol_map`. -/
def spotMap (rows : List SpotRow) : Dict String String :=
  .collect SpotRow.flat SpotRow.native (keptRows rows)

/-- `len(a) >= len(b)`. -/
def Longer (a b : String) : Prop := b.toList.length ≤ a.toList.length

instance decidableLonger (a b : String) : Decidable (Longer a b) :=
  inferInstanceAs (Decidable (_ ≤ _))

/-- `_learned_quotes`; Python leaves the order among quotes of one length open. -/
def learnedQuotes (rows : List SpotRow) : List String :=
  ((keptRows rows).map fun row => row.quote.toUpper).dedup.insertionSort Longer

/-- `_ensure_spot_symbol_map`: `if self._spot_symbol_map` at both places. -/
def spotMapCache : ReadThrough ℚ (List SpotRow) Unit where
  looksFirst := true
  expired := fun _ _ => false
  usable := fun rows => !(spotMap rows).isEmpty
  adjust := fun _ rows => rows
  expired_mono := nofun
  adjust_usable := fun good => good

/-- `symbol.upper().replace("/", "").replace("-", "")`. -/
def flatOf (symbol : String) : String := String.ofList (bareSymbol symbol)

/-- `OkxAdapter._resolve_symbol` for spot; the listing is `none` when loading it raised,
and `learned` is what `_learned_quotes` is then. -/
def Okx.resolveSymbol (listing : Option (List SpotRow)) (learned : List String) (symbol : String) :
    String :=
  match listing with
  | none => Okx.getApiSymbol learned symbol .spot
  | some rows =>
    match (spotMap rows).get? (flatOf symbol) with
    | some native => if native ≠ "" then native else Okx.getApiSymbol learned symbol .spot
    | none => Okx.getApiSymbol learned symbol .spot

/-- `KucoinAdapter._resolve_symbol` for spot. -/
def Kucoin.resolveSymbol (listing : Option (List SpotRow)) (learned : List String)
    (symbol : String) : Except PyError String :=
  match listing with
  | none => .ok (Kucoin.getApiSymbol learned symbol .spot)
  | some rows =>
    let refused := .error (.valueError ("Symbol " ++ symbol ++ " not listed on KuCoin spot"))
    match (spotMap rows).get? (flatOf symbol) with
    | some native => if native ≠ "" then .ok native else refused
    | none => refused

/-! ## The listing -/

section Listing
variable {rows : List SpotRow} {row : SpotRow}

theorem mem_keptRows : row ∈ keptRows rows ↔ row ∈ rows ∧ row.kept = true := List.mem_filter

theorem kept_native (kept : row.kept = true) : row.native ≠ "" := by
  simp only [SpotRow.kept, Bool.and_eq_true, decide_eq_true_eq] at kept
  exact kept.1.1.2

/-- A pair that is found is a row's, and a later row of the same pair replaces it. -/
theorem spotMap_get? (rows : List SpotRow) (flat : String) :
    (spotMap rows).get? flat =
      ((keptRows rows).reverse.find? fun row => row.flat = flat).map SpotRow.native :=
  Dict.get?_collect _ _ _

theorem exists_of_spotMap {flat native : String} (found : (spotMap rows).get? flat = some native) :
    ∃ row ∈ rows, row.kept = true ∧ row.flat = flat ∧ row.native = native := by
  rw [spotMap_get?] at found
  obtain ⟨row, isRow, rfl⟩ := Option.map_eq_some_iff.mp found
  obtain ⟨member, kept⟩ := mem_keptRows.mp (List.mem_reverse.mp (List.mem_of_find?_eq_some isRow))
  exact ⟨row, member, kept, by simpa using List.find?_some isRow, rfl⟩

theorem spotMap_of_mem (member : row ∈ rows) (kept : row.kept = true) :
    ∃ native, (spotMap rows).get? row.flat = some native := by
  rw [spotMap_get?]
  cases found : (keptRows rows).reverse.find? fun other => other.flat = row.flat with
  | some other => exact ⟨other.native, rfl⟩
  | none =>
    have none := List.find?_eq_none.mp found row
      (List.mem_reverse.mpr (mem_keptRows.mpr ⟨member, kept⟩))
    simp at none

/-- A listing is loaded again exactly when no row of it is kept. -/
theorem usable_iff : spotMapCache.usable rows = true ↔ ∃ row ∈ rows, row.kept = true := by
  have isEmpty : (spotMap rows).isEmpty = true ↔ ∀ flat, (spotMap rows).get? flat = none :=
    Dict.isEmpty_iff _
  have flips : spotMapCache.usable rows = true ↔ ¬ (spotMap rows).isEmpty = true := by
    simp [spotMapCache]
  rw [flips, isEmpty]
  constructor
  · intro some'
    obtain ⟨flat, found⟩ := not_forall.mp some'
    obtain ⟨native, isNative⟩ := Option.ne_none_iff_exists'.mp found
    obtain ⟨row, member, kept, -⟩ := exists_of_spotMap isNative
    exact ⟨row, member, kept⟩
  · rintro ⟨row, member, kept⟩ none
    obtain ⟨native, found⟩ := spotMap_of_mem member kept
    rw [none] at found
    cases found

/-- Without a kept row there are no quotes either. -/
theorem learnedQuotes_eq_nil (unusable : spotMapCache.usable rows = false) :
    learnedQuotes rows = [] := by
  have empty : keptRows rows = [] := by
    refine List.filter_eq_nil_iff.mpr fun row member kept => ?_
    rw [usable_iff.mpr ⟨row, member, kept⟩] at unusable
    cases unusable
  simp [learnedQuotes, empty]

end Listing

/-! ## Resolution -/

section Resolution
variable {rows : List SpotRow} {row : SpotRow} {learned : List String} {symbol : String}

/-- Base and quote of upper-case letters and digits, joined by a dash. -/
structure Conventional (row : SpotRow) (base quote : Name) : Prop where
  base_eq : row.base = base.text
  quote_eq : row.quote = quote.text
  native_eq : row.native = base.text ++ "-" ++ quote.text

theorem Conventional.flat {base quote : Name} (conventional : Conventional row base quote) :
    row.flat = base.text ++ quote.text := by
  have letters : row.flat.toList = (base.text ++ quote.text).toList := by
    rw [SpotRow.flat, conventional.base_eq, conventional.quote_eq, toUpper_toList,
      String.toList_append, map_upper_plain (base.plain.append quote.plain)]
  exact String.toList_inj.mp letters

/-- Any spelling of a listed pair leads to the native symbol of a row of that pair. -/
theorem resolve_listed (member : row ∈ rows) (kept : row.kept = true)
    (spelled : flatOf symbol = row.flat) :
    ∃ found ∈ rows, found.kept = true ∧ found.flat = row.flat ∧
      Okx.resolveSymbol (some rows) learned symbol = found.native ∧
      Kucoin.resolveSymbol (some rows) learned symbol = .ok found.native := by
  obtain ⟨native, isNative⟩ := spotMap_of_mem member kept
  obtain ⟨found, inside, foundKept, same, rfl⟩ := exists_of_spotMap isNative
  have named := kept_native foundKept
  refine ⟨found, inside, foundKept, same, ?_, ?_⟩
  · simp [Okx.resolveSymbol, spelled, isNative, named]
  · simp [Kucoin.resolveSymbol, spelled, isNative, named]

/-- `get_model_symbol` leads back to the pair: a quote that begins like the end of a swap's
name would be cut on OKX, and a pair that ends like a contract's on KuCoin. -/
theorem model_conventional {base quote : Name} (conventional : Conventional row base quote) :
    (startsWith "SWAP" quote.text.toList = false → okxModelSymbol row.native = row.flat) ∧
      (endsWith "USDM" row.flat.toList = false → endsWith "USDTM" row.flat.toList = false →
        kucoinModelSymbol row.native = row.flat) := by
  have dashed : row.native.toList = base.text.toList ++ '-' :: quote.text.toList := by
    rw [conventional.native_eq]
    simp [String.toList_append]
  have upper : row.native.toList.map Char.toUpper =
      base.text.toList ++ '-' :: quote.text.toList := by
    rw [dashed, List.map_append, List.map_cons, map_upper_plain base.plain,
      map_upper_plain quote.plain]
    rfl
  have flat : row.flat.toList = base.text.toList ++ quote.text.toList := by
    rw [conventional.flat, String.toList_append]
  constructor
  · intro noSwap
    have undropped : dropSwap quote.text.toList = quote.text.toList := by
      have whole := dropSwap_append quote.no_dash []
      simpa [dropSwap] using whole
    have kept : dropSwap ('-' :: quote.text.toList) = '-' :: quote.text.toList := by
      rw [dropSwap, undropped]
      intro rest _ starts
      rw [starts] at noSwap
      simp [startsWith] at noSwap
    apply String.toList_inj.mp
    rw [okxModelSymbol, toUpper_toList, upper, dropSwap_append base.no_dash, kept, flat,
      String.toList_ofList, List.filter_append, base.filter_dash,
      List.filter_cons_of_neg (by decide), quote.filter_dash]
  · intro noUsdm noUsdtm
    have bare : bareSymbol row.native = row.flat.toList := by
      rw [bareSymbol_eq, upper, List.filter_append, List.filter_cons_of_neg (by decide), flat]
      have letters (name : Name) :
          (name.text.toList.filter fun c => c ∉ ['/', '-']) = name.text.toList :=
        List.filter_eq_self.mpr fun c member => decide_eq_true (name.plain c member).2
      rw [letters, letters]
    simp only [endsWith] at noUsdm noUsdtm
    rw [kucoinModelSymbol]
    simp only [bare, noUsdm, noUsdtm, Bool.or_self, Bool.false_eq_true, if_false,
      String.ofList_toList]

end Resolution

section Runs
variable {Err : Type} {start : ℚ} {s : ReadThrough.State Unit ℚ (List SpotRow) Unit Err}

/-- Concurrent `_resolve_symbol` calls for spot.  Once a listing with a usable row has come,
nothing is requested any more.  Each call has the listing served last, and with it every
spelling of a listed pair leads to a native symbol of that pair, and from there back to the
pair; a call that could not load one guesses from the built-in quotes. -/
theorem spotSymbols_resolve (run : Reachable (spotMapCache.system start) anyStep s) :
    (∀ later rest started id now stamp rows, s.log = later ++ .started started () now :: rest →
      .served id () stamp rows ∈ rest → ∀ row ∈ rows, row.kept = false) ∧
    (∀ later rest id now stamp rows, s.log = later ++ .answered id () () now stamp rows :: rest →
      (∃ since other before, rest = since ++ .served other () stamp rows :: before ∧
        ∀ record ∈ since, record.serves () = false) ∧
      ∀ row ∈ rows, row.kept = true → ∀ learned symbol, flatOf symbol = row.flat →
        ∃ found ∈ rows, found.flat = row.flat ∧
          Okx.resolveSymbol (some rows) learned symbol = found.native ∧
          Kucoin.resolveSymbol (some rows) learned symbol = .ok found.native ∧
          ∀ base quote, Conventional found base quote →
            (startsWith "SWAP" quote.text.toList = false → okxModelSymbol found.native = row.flat) ∧
            (endsWith "USDM" row.flat.toList = false → endsWith "USDTM" row.flat.toList = false →
              kucoinModelSymbol found.native = row.flat)) ∧
    ∀ later rest id e, s.log = later ++ .failed id () e :: rest →
      ∀ entry, spotMapCache.entryOf () rest = some entry → learnedQuotes entry.2 = [] := by
  have shared := ReadThrough.shared_reachable run
  have sound := (ReadThrough.consistent_reachable run).sound
  refine ⟨?_, ?_, ?_⟩
  · intro later rest started id now stamp rows split served row member
    cases kept : row.kept with
    | false => rfl
    | true =>
      have passed := shared.apart later rest started id () now stamp rows split served
        (usable_iff.mpr ⟨row, member, kept⟩)
      cases passed
  · intro later rest id now stamp rows split
    obtain ⟨-, since, other, served, before, shape, others, folded⟩ :=
      shared.given later rest id () () now stamp rows split
    rw [ReadThrough.foldr_unadjusted fun _ _ => rfl] at folded
    subst folded
    refine ⟨⟨since, other, before, shape, others⟩, ?_⟩
    intro row member kept learned symbol spelled
    obtain ⟨found, inside, -, same, okx, kucoin⟩ := resolve_listed member kept spelled
    refine ⟨found, inside, same, okx, kucoin, fun base quote conventional => ?_⟩
    rw [← same]
    exact model_conventional conventional
  · intro later rest id e split entry found
    rw [split] at sound
    have running : ReadThrough.inFlight () rest = some id := sound.follows
    have before : spotMapCache.Sound rest := sound.suffix.2
    obtain ⟨since, other, served, earlier, shape, -, folded⟩ := ReadThrough.entryOf_eq_some found
    rw [ReadThrough.foldr_unadjusted fun _ _ => rfl] at folded
    rw [folded]
    apply learnedQuotes_eq_nil
    rw [Bool.eq_false_iff]
    intro usable
    have member : .served other () entry.1 served ∈ rest := by simp [shape]
    rcases before.settled member usable with ⟨idle, -⟩ | ⟨record, inside, time, stamped, passed⟩
    · rw [running] at idle
      cases idle
    · cases passed

def shortRow : SpotRow := ⟨true, "A-U", "A", "U"⟩

/-- The first listing is empty, the second has a pair. -/
def twoListings : List (ReadThrough.Event Unit ℚ (List SpotRow) Unit Unit) :=
  [.call 0 () () 0, .call 1 () () 0, .acquire 0 0, .reply () 1 (.ok []), .acquire 1 1,
    .reply () 2 (.ok [shortRow]), .call 2 () () 3]

theorem twoListings_ends : (spotMapCache.system 0).endsIn (fun _ _ => true) twoListings (fun s =>
    s.log = [.answered 2 () () 3 2 [shortRow], .answered 1 () () 2 2 [shortRow],
      .served 1 () 2 [shortRow], .started 1 () 1, .answered 0 () () 1 1 [],
      .served 0 () 1 [], .started 0 () 0]) = true := by
  decide +kernel

theorem spotSymbols_resolve_twoListings :
    ∃ s : ReadThrough.State Unit ℚ (List SpotRow) Unit Unit,
      Reachable (spotMapCache.system 0) anyStep s ∧ ∃ rest, s.log = .answered 2 () () 3 2 [shortRow] :: rest ∧
        ∃ found ∈ [shortRow], Okx.resolveSymbol (some [shortRow]) [] "a/u" = found.native ∧
          Kucoin.resolveSymbol (some [shortRow]) [] "a/u" = .ok found.native := by
  obtain ⟨s, run, ends⟩ := System.exists_reachable (fun _ _ _ _ => trivial) twoListings_ends
  have shape := of_decide_eq_true ends
  obtain ⟨-, resolves⟩ := (spotSymbols_resolve run).2.1 [] _ 2 3 2 [shortRow] shape
  obtain ⟨found, member, -, okx, kucoin, -⟩ :=
    resolves shortRow List.mem_cons_self (by decide +kernel) [] "a/u" (by decide +kernel)
  exact ⟨s, run, _, shape, found, member, okx, kucoin⟩

end Runs

end ExchangeRouter.Symbols
