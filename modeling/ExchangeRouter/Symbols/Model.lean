import ExchangeRouter.Funding.Model

/-!
# Symbols of Kraken, OKX and KuCoin

`normalize_symbol`, `get_api_symbol` and `get_model_symbol` of
`src/exchanges/kraken/adapter.py`, `okx/adapter.py` and `kucoin/adapter.py`, as far
as they are not given elsewhere: `okxModelSymbol` and `kucoinModelSymbol` are
those of the instruments, and Binance's are those of its funding history.
-/
namespace ExchangeRouter.Symbols
open Lib OrderBooks InfoCache

def startsWith (lead : String) (s : List Char) : Bool := lead.toList.isPrefixOf s

def endsWith (tail : String) (s : List Char) : Bool := tail.toList.isSuffixOf s

/-- The first quote that `s` ends with and does not consist of:
`s[:-len(q)]` and `q`. -/
def quoted (quotes : List String) (s : List Char) : Option (String × String) :=
  (quotes.find? fun q => endsWith q s && q.toList.length < s.length).map fun q =>
    (String.ofList (s.rdrop q.toList.length), q)

namespace Kraken

/-- `if s.startswith(lead): s = s[3:]`. -/
def without (lead : String) (s : List Char) : List Char := if startsWith lead s then s.drop 3 else s

/-- `if s.endswith("_PERP"): s = s[:-5]`. -/
def withoutPerp (s : List Char) : List Char := if endsWith "_PERP" s then s.rdrop 5 else s

def normalizeSymbol (symbol : String) : String :=
  let s := without "PF_" (bareSymbol symbol)
  let s := without "PI_" s
  let s := without "FF_" s
  let s := without "FI_" s
  String.ofList (withoutPerp s)

def getApiSymbol (symbol : String) (marketType : MarketType) : String :=
  let s := normalizeSymbol symbol
  match marketType with
  | .inverse => "PI_" ++ s
  | .linear => "PF_" ++ s
  | .spot => s

def getModelSymbol (apiSymbol : String) : String :=
  let s := bareSymbol apiSymbol
  let s :=
    if startsWith "PF_" s then s.drop 3
    else if startsWith "PI_" s then s.drop 3
    else if startsWith "FF_" s then s.drop 3
    else if startsWith "FI_" s then s.drop 3
    else s
  String.ofList (withoutPerp s)

end Kraken

namespace Okx

def normalizeSymbol (symbol : String) : List Char :=
  ((dropSwap symbol.toUpper.toList).filter fun c => c ≠ '-').filter fun c => c ≠ '/'

def spotQuotes : List String := ["USDT", "USDC", "USD", "BTC", "ETH", "EUR", "GBP", "DAI"]

/-- `f"{s[:-len(q)]}-{q}-SWAP"`, where `s` ends with a quote. -/
def swapSymbol (quotes : List String) (fallback : String) (s : List Char) : String :=
  match quoted quotes s with
  | some (base, q) => base ++ "-" ++ q ++ "-SWAP"
  | none => String.ofList s ++ "-" ++ fallback ++ "-SWAP"

def getApiSymbol (learnedQuotes : List String) (symbol : String) (marketType : MarketType) :
    String :=
  let s := normalizeSymbol symbol
  match marketType with
  | .linear => swapSymbol ["USDT", "USDC"] "USDT" s
  | .inverse => swapSymbol ["USD"] "USD" s
  | .spot =>
    match quoted (if learnedQuotes.isEmpty then spotQuotes else learnedQuotes) s with
    | some (base, q) => base ++ "-" ++ q
    | none => String.ofList s

end Okx

namespace Kucoin

def spotQuotes : List String :=
  ["USDT", "USDC", "TUSD", "USD", "BTC", "ETH", "EUR", "GBP", "DAI", "KCS"]

def getApiSymbol (learnedQuotes : List String) (symbol : String) (marketType : MarketType) :
    String :=
  let s := bareSymbol symbol
  if marketType = .spot then
    match quoted (if learnedQuotes.isEmpty then spotQuotes else learnedQuotes) s with
    | some (base, q) => base ++ "-" ++ q
    | none => String.ofList s
  else if endsWith "M" s then String.ofList s
  else String.ofList s ++ "M"

end Kucoin

end ExchangeRouter.Symbols
