import ExchangeRouter.Lib.Spelling
import ExchangeRouter.Symbols.Model
import Mathlib.Data.List.Find

/-!
# Native symbols there and back

The native symbols of the perpetual contracts (and of Binance's spot market), the
model symbols made of them, and the way back, from any spelling.
-/
namespace ExchangeRouter.Symbols
open Lib OrderBooks InfoCache

def alphanumerics : List Char := "ABCDEFGHIJKLMNOPQRSTUVWXYZ0123456789".toList

/-- A non-empty upper-case alphanumeric text. -/
structure Name where
  text : String
  nonempty : text.toList ≠ []
  alphanumeric : ∀ c ∈ text.toList, c ∈ alphanumerics

/-- What a letter of a symbol may be written as. -/
def EitherCase (c d : Char) : Prop := c ∈ alphanumerics ∧ (d = c ∨ d = c.toLower)

/-- Any mix of cases, with `-` and `/` at any position. -/
def SpelledAnywhere (symbol spelling : String) : Prop :=
  Spells EitherCase ['/', '-'] symbol.toList spelling.toList

/-- Any mix of cases, with a `-` or `/`, or nothing, between base and quote. -/
def SpelledBetween (base quote spelling : String) : Prop :=
  ∃ b separator q, List.Forall₂ EitherCase base.toList b ∧ List.Forall₂ EitherCase quote.toList q ∧
    separator ∈ [[], ['-'], ['/']] ∧ spelling.toList = b ++ separator ++ q

/-! ## Letters -/

/-- A fact about the letters of a text is decided letter by letter. -/
instance decidableLetters {p : Char → Prop} [DecidablePred p] (s : List Char) :
    Decidable (∀ c ∈ s, p c) :=
  List.decidableBAll p s

theorem alphanumeric_upper : ∀ c ∈ alphanumerics, c.toUpper = c ∧ c.toLower.toUpper = c := by
  decide

theorem alphanumeric_apart : ∀ c ∈ alphanumerics,
    c ∉ ['/', '-'] ∧ c.toLower ∉ ['/', '-'] ∧ c ≠ '_' := by
  decide

theorem EitherCase.upper {c d : Char} (either : EitherCase c d) : d.toUpper = c := by
  obtain ⟨letter, rfl | rfl⟩ := either
  · exact (alphanumeric_upper _ letter).1
  · exact (alphanumeric_upper _ letter).2

theorem EitherCase.apart {c d : Char} (either : EitherCase c d) : d ∉ ['/', '-'] := by
  obtain ⟨letter, rfl | rfl⟩ := either
  · exact (alphanumeric_apart _ letter).1
  · exact (alphanumeric_apart _ letter).2.1

theorem toUpper_toList (s : String) : s.toUpper.toList = s.toList.map Char.toUpper := by
  simp [String.toUpper]

theorem bareSymbol_eq (s : String) :
    bareSymbol s = (s.toList.map Char.toUpper).filter fun c => c ∉ ['/', '-'] := by
  rw [bareSymbol, toUpper_toList]
  refine List.filter_congr fun c _ => ?_
  simp

theorem bareSymbol_spelled {symbol spelling : String} (spelled : SpelledAnywhere symbol spelling) :
    bareSymbol spelling = symbol.toList := by
  rw [bareSymbol_eq]
  exact spelled.read (fun c d either => ⟨either.upper, (alphanumeric_apart c either.1).1⟩)
    (by decide)

theorem SpelledAnywhere.refl {symbol : String} (letters : ∀ c ∈ symbol.toList, c ∈ alphanumerics) :
    SpelledAnywhere symbol symbol := by
  have own : ∀ s : List Char, (∀ c ∈ s, c ∈ alphanumerics) → Spells EitherCase ['/', '-'] s s := by
    intro s letters
    induction s with
    | nil => exact .nil
    | cons c s ih =>
      obtain ⟨first, rest⟩ := List.forall_mem_cons.mp letters
      exact .letter ⟨first, .inl rfl⟩ (ih rest)
  exact own _ letters

/-- Text that `upper` and the removal of separators leave as it is. -/
def Plain (s : List Char) : Prop := ∀ c ∈ s, c.toUpper = c ∧ c ∉ ['/', '-']

instance (s : List Char) : Decidable (Plain s) :=
  inferInstanceAs (Decidable (∀ c ∈ s, c.toUpper = c ∧ c ∉ ['/', '-']))

theorem Plain.append {s t : List Char} (first : Plain s) (second : Plain t) : Plain (s ++ t) :=
  List.forall_mem_append.mpr ⟨first, second⟩

theorem Name.plain (name : Name) : Plain name.text.toList := fun c member =>
  ⟨(alphanumeric_upper c (name.alphanumeric c member)).1,
    (alphanumeric_apart c (name.alphanumeric c member)).1⟩

theorem Name.no_underscore (name : Name) : '_' ∉ name.text.toList := fun member =>
  (alphanumeric_apart _ (name.alphanumeric _ member)).2.2 rfl

theorem map_upper_plain {s : List Char} (plain : Plain s) : s.map Char.toUpper = s := by
  rw [List.map_congr_left fun c member => (plain c member).1, List.map_id']

theorem bareSymbol_plain {s : String} (plain : Plain s.toList) : bareSymbol s = s.toList := by
  rw [bareSymbol_eq, map_upper_plain plain, List.filter_eq_self]
  exact fun c member => decide_eq_true (plain c member).2

/-! ## Prefixes and suffixes -/

theorem startsWith_eq_false {lead : String} {s : List Char} (c : Char) (inLead : c ∈ lead.toList)
    (notIn : c ∉ s) : startsWith lead s = false := by
  rw [startsWith, Bool.eq_false_iff]
  intro starts
  exact notIn ((List.isPrefixOf_iff_prefix.mp starts).subset inLead)

theorem endsWith_eq_false {tail : String} {s : List Char} (c : Char) (inTail : c ∈ tail.toList)
    (notIn : c ∉ s) : endsWith tail s = false := by
  rw [endsWith, Bool.eq_false_iff]
  intro ends
  exact notIn ((List.isSuffixOf_iff_suffix.mp ends).subset inTail)

/-- Whether a text ends with something no longer than its last part is decided there. -/
theorem endsWith_append {tail : String} {s t : List Char} (short : tail.toList.length ≤ t.length) :
    endsWith tail (s ++ t) = endsWith tail t := by
  rw [endsWith, endsWith, Bool.eq_iff_iff, List.isSuffixOf_iff_suffix, List.isSuffixOf_iff_suffix]
  refine ⟨fun ends => ?_, fun ends => ends.trans (List.suffix_append s t)⟩
  exact List.suffix_of_suffix_length_le ends (List.suffix_append s t) short

/-! ## Binance -/

def binanceNatives : MarketType → Set String
  | .spot | .linear => {native | ∃ name : Name, native = name.text}
  | .inverse => {native | ∃ name : Name, native = name.text ++ "_PERP"}

theorem isPerp_eq (s : String) : Funding.isPerp s = endsWith "_PERP" s.toList := rfl

theorem binance_model (name : Name) :
    Funding.getModelSymbol name.text = name.text ∧
      Funding.getModelSymbol (name.text ++ "_PERP") = name.text := by
  constructor
  · have upper : name.text.toUpper = name.text := by
      rw [← String.toList_inj, toUpper_toList, map_upper_plain name.plain]
    rw [Funding.getModelSymbol, upper, isPerp_eq,
      endsWith_eq_false '_' (by decide) name.no_underscore]
    rfl
  · have upper : (name.text ++ "_PERP").toUpper = name.text ++ "_PERP" := by
      rw [← String.toList_inj, toUpper_toList, String.toList_append,
        map_upper_plain (name.plain.append (by decide))]
    have perp : endsWith "_PERP" (name.text.toList ++ "_PERP".toList) = true :=
      (endsWith_append (by decide)).trans (by decide)
    rw [Funding.getModelSymbol, upper, isPerp_eq, String.toList_append, perp, if_pos rfl]
    exact (congrArg String.ofList List.rdrop_append_length).trans String.ofList_toList

theorem binance_normalize {name : Name} {spelling : String}
    (spelled : SpelledAnywhere name.text spelling) :
    Funding.normalizeSymbol spelling = name.text := by
  have letters := spelled.letters fun c d => EitherCase.apart
  have same : (spelling.toList.filter fun c => c ≠ '/' ∧ c ≠ '-') =
      spelling.toList.filter fun d => d ∉ ['/', '-'] := List.filter_congr fun c _ => by simp
  rw [Funding.normalizeSymbol, same, ← String.toList_inj, toUpper_toList, String.toList_ofList]
  exact map_of_forms letters fun c d => EitherCase.upper

theorem binance_api (marketType : MarketType) {name : Name} {spelling : String}
    (spelled : SpelledAnywhere name.text spelling) :
    Funding.getApiSymbol spelling marketType =
      if marketType = .inverse then name.text ++ "_PERP" else name.text := by
  rw [Funding.getApiSymbol, binance_normalize spelled, isPerp_eq,
    endsWith_eq_false '_' (by decide) name.no_underscore]
  simp

theorem binance_shortens {marketType : MarketType} {native : String}
    (isNative : native ∈ binanceNatives marketType) :
    ∃ name : Name, Funding.getModelSymbol native = name.text ∧
      native = if marketType = .inverse then name.text ++ "_PERP" else name.text := by
  cases marketType with
  | spot | linear =>
    obtain ⟨name, rfl⟩ := isNative
    exact ⟨name, (binance_model name).1, rfl⟩
  | inverse =>
    obtain ⟨name, rfl⟩ := isNative
    exact ⟨name, (binance_model name).2, rfl⟩

theorem binance_roundTrip : RoundTrip binanceNatives (fun _ native => Funding.getModelSymbol native)
    (fun marketType symbol => Funding.getApiSymbol symbol marketType)
    (fun _ => SpelledAnywhere) := by
  apply RoundTrip.ofSpelled
  · intro marketType native isNative
    obtain ⟨name, short, -⟩ := binance_shortens isNative
    rw [short]
    exact .refl name.alphanumeric
  · intro marketType native isNative spelling spelled
    obtain ⟨name, short, long⟩ := binance_shortens isNative
    rw [short] at spelled
    rw [binance_api marketType spelled, long]

/-! ## Kraken -/

def krakenNatives : MarketType → Set String
  | .spot => ∅
  | .linear => {native | ∃ name : Name, native = "PF_" ++ name.text}
  | .inverse => {native | ∃ name : Name, native = "PI_" ++ name.text}

theorem withoutPerp_name (name : Name) :
    Kraken.withoutPerp name.text.toList = name.text.toList := by
  rw [Kraken.withoutPerp, endsWith_eq_false '_' (by decide) name.no_underscore]
  rfl

theorem without_name (lead : String) (inLead : '_' ∈ lead.toList) (name : Name) :
    Kraken.without lead name.text.toList = name.text.toList := by
  rw [Kraken.without, startsWith_eq_false '_' inLead name.no_underscore]
  rfl

theorem kraken_model (name : Name) : Kraken.getModelSymbol ("PF_" ++ name.text) = name.text ∧
    Kraken.getModelSymbol ("PI_" ++ name.text) = name.text := by
  have bare (lead : String) (plain : Plain lead.toList) :
      bareSymbol (lead ++ name.text) = lead.toList ++ name.text.toList := by
    rw [bareSymbol_plain (by simpa using plain.append name.plain), String.toList_append]
  have kept : String.ofList (Kraken.withoutPerp name.text.toList) = name.text := by
    rw [withoutPerp_name, String.ofList_toList]
  constructor
  · rw [Kraken.getModelSymbol, bare "PF_" (by decide)]
    exact kept
  · rw [Kraken.getModelSymbol, bare "PI_" (by decide)]
    exact kept

theorem kraken_normalize {name : Name} {spelling : String}
    (spelled : SpelledAnywhere name.text spelling) :
    Kraken.normalizeSymbol spelling = name.text := by
  rw [Kraken.normalizeSymbol, bareSymbol_spelled spelled, without_name "PF_" (by decide),
    without_name "PI_" (by decide), without_name "FF_" (by decide), without_name "FI_" (by decide),
    withoutPerp_name, String.ofList_toList]

theorem kraken_shortens {marketType : MarketType} {native : String}
    (isNative : native ∈ krakenNatives marketType) :
    ∃ name : Name, Kraken.getModelSymbol native = name.text ∧
      ∀ spelling, SpelledAnywhere name.text spelling →
        Kraken.getApiSymbol spelling marketType = native := by
  cases marketType with
  | spot => cases isNative
  | linear =>
    obtain ⟨name, rfl⟩ := isNative
    refine ⟨name, (kraken_model name).1, fun spelling spelled => ?_⟩
    rw [Kraken.getApiSymbol, kraken_normalize spelled]
  | inverse =>
    obtain ⟨name, rfl⟩ := isNative
    refine ⟨name, (kraken_model name).2, fun spelling spelled => ?_⟩
    rw [Kraken.getApiSymbol, kraken_normalize spelled]

theorem kraken_roundTrip : RoundTrip krakenNatives (fun _ native => Kraken.getModelSymbol native)
    (fun marketType symbol => Kraken.getApiSymbol symbol marketType)
    (fun _ => SpelledAnywhere) := by
  apply RoundTrip.ofSpelled
  · intro marketType native isNative
    obtain ⟨name, short, -⟩ := kraken_shortens isNative
    rw [short]
    exact .refl name.alphanumeric
  · intro marketType native isNative spelling spelled
    obtain ⟨name, short, long⟩ := kraken_shortens isNative
    exact long spelling (short ▸ spelled)

/-! ## OKX -/

def okxQuotes : MarketType → List String
  | .spot => []
  | .linear => ["USDT", "USDC"]
  | .inverse => ["USD"]

def okxNatives (marketType : MarketType) : Set String :=
  {native | ∃ base : Name, ∃ quote ∈ okxQuotes marketType,
    native = base.text ++ "-" ++ quote ++ "-SWAP"}

def okxSpells (marketType : MarketType) (symbol spelling : String) : Prop :=
  ∃ base : Name, ∃ quote ∈ okxQuotes marketType, symbol = base.text ++ quote ∧
    SpelledBetween base.text quote spelling

theorem Name.no_dash (name : Name) : '-' ∉ name.text.toList := fun member =>
  absurd (name.plain _ member).2 (by decide)

/-- Nothing is dropped before the first dash. -/
theorem dropSwap_append {s : List Char} (noDash : '-' ∉ s) (t : List Char) :
    dropSwap (s ++ t) = s ++ dropSwap t := by
  induction s with
  | nil => rfl
  | cons c s ih =>
    obtain ⟨first, rest⟩ := not_or.mp (mt List.mem_cons.mpr noDash)
    rw [List.cons_append, dropSwap, ih rest]
    · rfl
    · rintro _ rfl
      exact absurd rfl first

def okxQuoteTexts : List String := ["USDT", "USDC", "USD"]

theorem swap_dropped : ∀ quote ∈ okxQuoteTexts,
    dropSwap (("-".toList ++ (quote.toList ++ "-SWAP".toList)).map Char.toUpper) =
      '-' :: quote.toList := by
  decide

/-- No quote begins like `SWAP`. -/
theorem separator_kept : ∀ quote ∈ okxQuoteTexts, ∀ separator ∈ [[], ['-'], ['/']],
    dropSwap (separator ++ quote.toList) = separator ++ quote.toList ∧
      ((separator ++ quote.toList).filter fun c => c ≠ '-').filter (fun c => c ≠ '/') =
        quote.toList := by
  decide

theorem quote_bare : ∀ quote ∈ okxQuoteTexts,
    (('-' :: quote.toList).filter fun c => c ≠ '-') = quote.toList := by
  decide

theorem Name.filter_dash (name : Name) :
    (name.text.toList.filter fun c => c ≠ '-') = name.text.toList := by
  rw [List.filter_eq_self]
  intro c member
  have apart := (name.plain c member).2
  simp at apart ⊢
  exact apart.2

theorem Name.filter_slash (name : Name) :
    (name.text.toList.filter fun c => c ≠ '/') = name.text.toList := by
  rw [List.filter_eq_self]
  intro c member
  have apart := (name.plain c member).2
  simp at apart ⊢
  exact apart.1

theorem okx_model (base : Name) {quote : String} (known : quote ∈ okxQuoteTexts) :
    okxModelSymbol (base.text ++ "-" ++ quote ++ "-SWAP") = base.text ++ quote := by
  have upper : (base.text ++ "-" ++ quote ++ "-SWAP").toUpper.toList =
      base.text.toList ++ ("-".toList ++ (quote.toList ++ "-SWAP".toList)).map Char.toUpper := by
    rw [toUpper_toList]
    simp only [String.toList_append, List.append_assoc, List.map_append, map_upper_plain base.plain]
  rw [okxModelSymbol, upper, dropSwap_append base.no_dash, swap_dropped quote known,
    List.filter_append, base.filter_dash, quote_bare quote known, ← String.toList_append,
    String.ofList_toList]

theorem okx_normalize (base : Name) {quote : String} (known : quote ∈ okxQuoteTexts)
    {spelling : String} (spelled : SpelledBetween base.text quote spelling) :
    Okx.normalizeSymbol spelling = base.text.toList ++ quote.toList := by
  obtain ⟨b, separator, q, isBase, isQuote, between, whole⟩ := spelled
  have fixed : ∀ separator ∈ [[], ['-'], ['/']], separator.map Char.toUpper = separator := by decide
  have upper : spelling.toUpper.toList = base.text.toList ++ (separator ++ quote.toList) := by
    rw [toUpper_toList, whole, List.map_append, List.map_append, fixed separator between,
      map_of_forms isBase fun c d => EitherCase.upper,
      map_of_forms isQuote fun c d => EitherCase.upper, List.append_assoc]
  obtain ⟨kept, bare⟩ := separator_kept quote known separator between
  rw [Okx.normalizeSymbol, upper, dropSwap_append base.no_dash, kept, List.filter_append,
    base.filter_dash, List.filter_append, base.filter_slash, bare]

/-- A quote counts where the base is not empty. -/
theorem quote_counts (base : Name) {q quote : String}
    (short : q.toList.length ≤ quote.toList.length) :
    (endsWith q (base.text.toList ++ quote.toList) &&
      q.toList.length < (base.text.toList ++ quote.toList).length) = endsWith q quote.toList := by
  have longer : q.toList.length < (base.text.toList ++ quote.toList).length := by
    have some := List.length_pos_iff.mpr base.nonempty
    rw [List.length_append]
    omega
  rw [endsWith_append short, decide_eq_true longer, Bool.and_true]

theorem quoted_eq {quotes : List String} (base : Name) {quote : String}
    (short : ∀ q ∈ quotes, q.toList.length ≤ quote.toList.length)
    (first : quotes.find? (fun q => endsWith q quote.toList) = some quote) :
    quoted quotes (base.text.toList ++ quote.toList) = some (base.text, quote) := by
  have same : quotes.find? (fun q => endsWith q (base.text.toList ++ quote.toList) &&
      q.toList.length < (base.text.toList ++ quote.toList).length) = some quote := by
    rw [← first]
    exact List.find?_congr fun q member => quote_counts base (short q member)
  rw [quoted, same, Option.map_some, List.rdrop_append_length, String.ofList_toList]

theorem okxQuotes_known (marketType : MarketType) : ∀ quote ∈ okxQuotes marketType,
    quote ∈ okxQuoteTexts ∧
      (∀ q ∈ okxQuotes marketType, q.toList.length ≤ quote.toList.length) ∧
      (okxQuotes marketType).find? (fun q => endsWith q quote.toList) = some quote := by
  cases marketType <;> decide

theorem okx_api (learnedQuotes : List String) {marketType : MarketType} (base : Name)
    {quote : String} (known : quote ∈ okxQuotes marketType) {spelling : String}
    (spelled : SpelledBetween base.text quote spelling) :
    Okx.getApiSymbol learnedQuotes spelling marketType =
      base.text ++ "-" ++ quote ++ "-SWAP" := by
  obtain ⟨text, short, first⟩ := okxQuotes_known marketType quote known
  have found := quoted_eq base short first
  have bare := okx_normalize base text spelled
  cases marketType with
  | spot => cases known
  | linear =>
    have swap : quoted ["USDT", "USDC"] _ = _ := found
    simp only [Okx.getApiSymbol, bare, Okx.swapSymbol, swap]
  | inverse =>
    have swap : quoted ["USD"] _ = _ := found
    simp only [Okx.getApiSymbol, bare, Okx.swapSymbol, swap]

theorem forms_refl {s : List Char} (letters : ∀ c ∈ s, c ∈ alphanumerics) :
    List.Forall₂ EitherCase s s :=
  List.forall₂_same.mpr fun c member => ⟨letters c member, .inl rfl⟩

theorem okx_own {marketType : MarketType} (base : Name) {quote : String}
    (known : quote ∈ okxQuotes marketType) :
    okxSpells marketType (base.text ++ quote) (base.text ++ quote) := by
  have letters : ∀ quote ∈ okxQuoteTexts, ∀ c ∈ quote.toList, c ∈ alphanumerics := by decide
  have text := (okxQuotes_known marketType quote known).1
  refine ⟨base, quote, known, rfl, base.text.toList, [], quote.toList,
    forms_refl base.alphanumeric, forms_refl (letters quote text), by decide, ?_⟩
  rw [List.append_nil, String.toList_append]

/-- The quotes of one market type are equally long, so the base is known. -/
theorem okx_parts {marketType : MarketType} {base other : Name} {quote otherQuote : String}
    (known : quote ∈ okxQuotes marketType) (otherKnown : otherQuote ∈ okxQuotes marketType)
    (same : base.text ++ quote = other.text ++ otherQuote) :
    base.text = other.text ∧ quote = otherQuote := by
  have long := (okxQuotes_known marketType quote known).2.1 otherQuote otherKnown
  have otherLong := (okxQuotes_known marketType otherQuote otherKnown).2.1 quote known
  rw [← String.toList_inj, String.toList_append, String.toList_append] at same
  obtain ⟨bases, quotes⟩ := List.append_inj' same (by omega)
  exact ⟨String.toList_inj.mp bases, String.toList_inj.mp quotes⟩

theorem okx_roundTrip (learnedQuotes : List String) :
    RoundTrip okxNatives (fun _ native => okxModelSymbol native)
      (fun marketType symbol => Okx.getApiSymbol learnedQuotes symbol marketType) okxSpells := by
  have short {marketType : MarketType} (base : Name) {quote : String}
      (known : quote ∈ okxQuotes marketType) :=
    okx_model base (okxQuotes_known marketType quote known).1
  apply RoundTrip.ofSpelled
  · rintro marketType _ ⟨base, quote, known, rfl⟩
    rw [short base known]
    exact okx_own base known
  · rintro marketType _ ⟨base, quote, known, rfl⟩ spelling spelled
    rw [short base known] at spelled
    obtain ⟨other, otherQuote, otherKnown, parts, between⟩ := spelled
    obtain ⟨bases, rfl⟩ := okx_parts known otherKnown parts
    rw [okx_api learnedQuotes other otherKnown between, bases]

/-! ## KuCoin -/

def kucoinContracts : List String := ["USDTM", "USDCM", "USDM"]

def kucoinNatives : MarketType → Set String
  | .spot => ∅
  | .linear | .inverse => {native | ∃ base : Name, ∃ contract ∈ kucoinContracts,
      native = base.text ++ contract}

/-- The end of the model symbol: only `USDCM` keeps its `M`. -/
def kucoinShort (contract : String) : String :=
  if contract = "USDCM" then contract else String.ofList contract.toList.dropLast

theorem kucoin_texts : ∀ contract ∈ kucoinContracts, Plain contract.toList ∧
    (∀ c ∈ (kucoinShort contract).toList, c ∈ alphanumerics) ∧
    "M".toList.length ≤ (kucoinShort contract).toList.length ∧
    (if endsWith "M" (kucoinShort contract).toList then kucoinShort contract
      else kucoinShort contract ++ "M") = contract := by
  decide

/-- Which of the two ends `normalize_symbol` looks for a contract has. -/
theorem kucoin_ends (base : Name) {contract : String} (known : contract ∈ kucoinContracts) :
    (endsWith "USDTM" (base.text.toList ++ contract.toList) ||
      endsWith "USDM" (base.text.toList ++ contract.toList)) = decide (contract ≠ "USDCM") := by
  have second : endsWith "USDM" (base.text.toList ++ contract.toList) =
      endsWith "USDM" contract.toList :=
    endsWith_append ((by decide : ∀ contract ∈ kucoinContracts,
      "USDM".toList.length ≤ contract.toList.length) contract known)
  rw [second]
  rcases List.mem_cons.mp known with rfl | later
  · rw [endsWith_append (by decide)]
    decide
  · rcases List.mem_cons.mp later with rfl | last
    · rw [endsWith_append (by decide)]
      decide
    · obtain rfl := List.mem_singleton.mp last
      have ends : endsWith "USDM" "USDM".toList = true := by decide
      rw [ends, Bool.or_true]
      decide

theorem kucoin_model (base : Name) {contract : String} (known : contract ∈ kucoinContracts) :
    kucoinModelSymbol (base.text ++ contract) = base.text ++ kucoinShort contract := by
  have plain : Plain (base.text ++ contract).toList := by
    rw [String.toList_append]
    exact base.plain.append (kucoin_texts contract known).1
  have ends := kucoin_ends base known
  simp only [endsWith] at ends
  simp only [kucoinModelSymbol, bareSymbol_plain plain, String.toList_append, ends]
  rw [kucoinShort]
  by_cases keeps : contract = "USDCM"
  · simp [keeps]
  · have some : contract.toList ≠ [] :=
      (by decide : ∀ contract ∈ kucoinContracts, contract.toList ≠ []) contract known
    simp [keeps, List.dropLast_append_of_ne_nil some]

theorem kucoin_api (learnedQuotes : List String) {marketType : MarketType}
    (futures : marketType ≠ .spot) (base : Name) {contract : String}
    (known : contract ∈ kucoinContracts) {spelling : String}
    (spelled : SpelledAnywhere (base.text ++ kucoinShort contract) spelling) :
    Kucoin.getApiSymbol learnedQuotes spelling marketType = base.text ++ contract := by
  obtain ⟨-, -, short, whole⟩ := kucoin_texts contract known
  have bare := bareSymbol_spelled spelled
  rw [String.toList_append] at bare
  have joined : String.ofList (base.text.toList ++ (kucoinShort contract).toList) =
      base.text ++ kucoinShort contract := by
    rw [← String.toList_append, String.ofList_toList]
  simp only [Kucoin.getApiSymbol, if_neg futures, bare, endsWith_append short, joined]
  by_cases ends : endsWith "M" (kucoinShort contract).toList = true
  · rw [if_pos ends] at whole ⊢
    rw [whole]
  · rw [if_neg ends] at whole ⊢
    rw [String.append_assoc, whole]

theorem kucoin_natives {marketType : MarketType} {native : String}
    (isNative : native ∈ kucoinNatives marketType) : marketType ≠ .spot ∧
      ∃ base : Name, ∃ contract ∈ kucoinContracts, native = base.text ++ contract := by
  cases marketType with
  | spot => cases isNative
  | linear | inverse => exact ⟨by decide, isNative⟩

theorem kucoin_roundTrip (learnedQuotes : List String) :
    RoundTrip kucoinNatives (fun _ native => kucoinModelSymbol native)
      (fun marketType symbol => Kucoin.getApiSymbol learnedQuotes symbol marketType)
      (fun _ => SpelledAnywhere) := by
  apply RoundTrip.ofSpelled
  · intro marketType native isNative
    obtain ⟨-, base, contract, known, rfl⟩ := kucoin_natives isNative
    rw [kucoin_model base known]
    apply SpelledAnywhere.refl
    rw [String.toList_append]
    exact List.forall_mem_append.mpr ⟨base.alphanumeric, (kucoin_texts contract known).2.1⟩
  · intro marketType native isNative spelling spelled
    obtain ⟨futures, base, contract, known, rfl⟩ := kucoin_natives isNative
    rw [kucoin_model base known] at spelled
    exact kucoin_api learnedQuotes futures base known spelled

/-- On all four exchanges the native symbols come back from their model symbols, which
are distinct within a market type, however these are spelled. -/
theorem symbols_roundTrip (okxLearned kucoinLearned : List String) :
    RoundTrip binanceNatives (fun _ native => Funding.getModelSymbol native)
        (fun marketType symbol => Funding.getApiSymbol symbol marketType)
        (fun _ => SpelledAnywhere) ∧
      RoundTrip krakenNatives (fun _ native => Kraken.getModelSymbol native)
        (fun marketType symbol => Kraken.getApiSymbol symbol marketType)
        (fun _ => SpelledAnywhere) ∧
      RoundTrip okxNatives (fun _ native => okxModelSymbol native)
        (fun marketType symbol => Okx.getApiSymbol okxLearned symbol marketType) okxSpells ∧
      RoundTrip kucoinNatives (fun _ native => kucoinModelSymbol native)
        (fun marketType symbol => Kucoin.getApiSymbol kucoinLearned symbol marketType)
        (fun _ => SpelledAnywhere) :=
  ⟨binance_roundTrip, kraken_roundTrip, okx_roundTrip okxLearned, kucoin_roundTrip kucoinLearned⟩

end ExchangeRouter.Symbols
