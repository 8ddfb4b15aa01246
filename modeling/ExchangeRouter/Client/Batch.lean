import ExchangeRouter.Lib.Dict
import ExchangeRouter.Lib.Gather

/-!
# `fetch_many`

`AsyncCore.fetch_many` of `client/exchange_router_client/_core.py` and `BatchResult`
of `batch.py`: one call for each symbol under a semaphore, and the sorting of the
outcomes into three dictionaries.  What a call comes to is left to the
environment; an exception that is not an `Exception` is left out.
-/
namespace ExchangeRouter.Client.Batch
open Lib

variable {Frame Err : Type}

/-- What `one` makes of a call: a frame with its `attrs["warnings"]`, or an error. -/
inductive Outcome (Frame Err : Type)
  | frame (df : Frame) (warnings : List String)
  | error (e : Err)
  deriving DecidableEq

structure BatchResult (Frame Err : Type) where
  ok : Dict String Frame
  degraded : Dict String (Frame × List String)
  failed : Dict String Err
  requested : ℕ

def BatchResult.empty (requested : ℕ) : BatchResult Frame Err := ⟨.empty, .empty, .empty, requested⟩

/-- The body of the loop over `gathered`. -/
def sortOutcome (result : BatchResult Frame Err) (entry : String × Outcome Frame Err) :
    BatchResult Frame Err :=
  match entry.2 with
  | .error e => { result with failed := result.failed.set entry.1 e }
  | .frame df [] => { result with ok := result.ok.set entry.1 df }
  | .frame df (first :: rest) =>
    { result with degraded := result.degraded.set entry.1 (df, first :: rest) }

/-- `fetch_many`, from `gathered` on. -/
def batchOf (symbols : List String) (outcomes : List (Outcome Frame Err)) : BatchResult Frame Err :=
  (symbols.zip outcomes).foldl sortOutcome (.empty symbols.length)

/-- `BatchResult.data`. -/
def BatchResult.data (result : BatchResult Frame Err) : Dict String Frame :=
  result.degraded.entries.foldl (fun merged entry => merged.set entry.1 entry.2.1) result.ok

/-! ## The calls -/

/-- `gather` over `one(s)` for the symbols, with the semaphore. -/
def calls (Frame Err : Type) (maxConcurrent : ℕ) (symbols : List String) :
    System (List (Gather.Status (Outcome Frame Err))) (Gather.Event (Outcome Frame Err)) :=
  Gather.system (Outcome Frame Err) maxConcurrent symbols.length

/-! ## The sorting -/

namespace Outcome

/-- The frame of an outcome without warnings. -/
def clean? : Outcome Frame Err → Option Frame
  | .frame df [] => some df
  | _ => none

def degraded? : Outcome Frame Err → Option (Frame × List String)
  | .frame df (first :: rest) => some (df, first :: rest)
  | _ => none

def failed? : Outcome Frame Err → Option Err
  | .error e => some e
  | _ => none

/-- The frame of an outcome, degraded or not. -/
def frame? : Outcome Frame Err → Option Frame
  | .frame df _ => some df
  | .error _ => none

end Outcome

inductive Kind
  | ok
  | degraded
  | failed
  deriving DecidableEq

def Outcome.kind : Outcome Frame Err → Kind
  | .error _ => .failed
  | .frame _ [] => .ok
  | .frame _ (_ :: _) => .degraded

/-- The symbols of one of the dictionaries, in its order. -/
def BatchResult.symbolsOf (result : BatchResult Frame Err) : Kind → List String
  | .ok => result.ok.keys
  | .degraded => result.degraded.keys
  | .failed => result.failed.keys

/-- Where the outcome of a symbol is found, and nowhere else. -/
def BatchResult.Holds (result : BatchResult Frame Err) (symbol : String)
    (outcome : Outcome Frame Err) : Prop :=
  result.ok.get? symbol = outcome.clean? ∧ result.degraded.get? symbol = outcome.degraded? ∧
    result.failed.get? symbol = outcome.failed?

section Entries
variable {V : Type} {result : BatchResult Frame Err} {symbol : String}
  {entry : String × Outcome Frame Err} {entries : List (String × Outcome Frame Err)}

/-- What the outcomes of a symbol give, in their order. -/
def given (pick : Outcome Frame Err → Option V) (symbol : String)
    (entries : List (String × Outcome Frame Err)) : List V :=
  (entries.filter fun entry => entry.1 = symbol).filterMap fun entry => pick entry.2

/-- One assignment to a dictionary, where the outcome is of its kind. -/
theorem sortOutcome_get? (result : BatchResult Frame Err) (symbol : String)
    (entry : String × Outcome Frame Err) : (sortOutcome result entry).ok.get? symbol =
      ((given Outcome.clean? symbol [entry]).getLast?).or (result.ok.get? symbol) ∧
    (sortOutcome result entry).degraded.get? symbol =
      ((given Outcome.degraded? symbol [entry]).getLast?).or (result.degraded.get? symbol) ∧
    (sortOutcome result entry).failed.get? symbol =
      ((given Outcome.failed? symbol [entry]).getLast?).or (result.failed.get? symbol) := by
  obtain ⟨asked, outcome⟩ := entry
  by_cases same : asked = symbol
  · subst same
    cases outcome with
    | error e => simp [sortOutcome, given, Outcome.clean?, Outcome.degraded?, Outcome.failed?]
    | frame df warnings =>
      cases warnings <;>
        simp [sortOutcome, given, Outcome.clean?, Outcome.degraded?, Outcome.failed?]
  · have other : symbol ≠ asked := fun back => same back.symm
    cases outcome with
    | error e => simp [sortOutcome, given, same, Dict.get?_set_ne _ _ other]
    | frame df warnings =>
      cases warnings <;> simp [sortOutcome, given, same, Dict.get?_set_ne _ _ other]

theorem given_concat (pick : Outcome Frame Err → Option V) :
    given pick symbol (entries ++ [entry]) =
      given pick symbol entries ++ given pick symbol [entry] := by
  rw [given, List.filter_append, List.filterMap_append]
  rfl

/-- Each dictionary has the last outcome of its kind. -/
theorem foldl_get? (requested : ℕ) (symbol : String)
    (entries : List (String × Outcome Frame Err)) :
    (entries.foldl sortOutcome (.empty requested)).ok.get? symbol =
        (given Outcome.clean? symbol entries).getLast? ∧
      (entries.foldl sortOutcome (.empty requested)).degraded.get? symbol =
        (given Outcome.degraded? symbol entries).getLast? ∧
      (entries.foldl sortOutcome (.empty requested)).failed.get? symbol =
        (given Outcome.failed? symbol entries).getLast? := by
  induction entries using List.reverseRecOn with
  | nil => exact ⟨rfl, rfl, rfl⟩
  | append_singleton entries entry ih =>
    obtain ⟨ok, degraded, failed⟩ := ih
    obtain ⟨ok', degraded', failed'⟩ :=
      sortOutcome_get? (entries.foldl sortOutcome (.empty requested)) symbol entry
    simp only [List.foldl_append, List.foldl_cons, List.foldl_nil]
    rw [ok', degraded', failed', ok, degraded, failed, given_concat, given_concat, given_concat,
      List.getLast?_append, List.getLast?_append, List.getLast?_append]
    exact ⟨rfl, rfl, rfl⟩

theorem sortOutcome_symbols {kind : Kind} {order : List String}
    (part : (result.symbolsOf kind).Sublist order) (entry : String × Outcome Frame Err) :
    ((sortOutcome result entry).symbolsOf kind).Sublist (order ++ [entry.1]) := by
  have stays : (result.symbolsOf kind).Sublist (order ++ [entry.1]) :=
    part.trans (List.sublist_append_left _ _)
  obtain ⟨asked, outcome⟩ := entry
  cases outcome with
  | error e =>
    cases kind with
    | failed => exact Dict.keys_set_sublist _ part asked e
    | ok | degraded => exact stays
  | frame df warnings =>
    cases warnings with
    | nil =>
      cases kind with
      | ok => exact Dict.keys_set_sublist _ part asked df
      | degraded | failed => exact stays
    | cons first rest =>
      cases kind with
      | degraded => exact Dict.keys_set_sublist _ part asked (df, first :: rest)
      | ok | failed => exact stays

/-- The dictionaries keep the order of the symbols. -/
theorem foldl_symbols (requested : ℕ) (kind : Kind)
    (entries : List (String × Outcome Frame Err)) :
    ((entries.foldl sortOutcome (.empty requested)).symbolsOf kind).Sublist
      (entries.map Prod.fst) := by
  induction entries using List.reverseRecOn with
  | nil => cases kind <;> exact List.Sublist.refl _
  | append_singleton entries entry ih =>
    rw [List.foldl_append, List.map_append]
    exact sortOutcome_symbols ih entry

end Entries

theorem data_get? (result : BatchResult Frame Err) (symbol : String) : result.data.get? symbol =
    ((result.degraded.get? symbol).map Prod.fst).or (result.ok.get? symbol) := by
  rw [BatchResult.data, Dict.get?_foldl_set Prod.fst _ result.degraded.nodupKeys]
  simp only [Dict.get?, Option.map_map]
  rfl

theorem BatchResult.Holds.data {result : BatchResult Frame Err} {symbol : String}
    {outcome : Outcome Frame Err} (holds : result.Holds symbol outcome) :
    result.data.get? symbol = outcome.frame? := by
  obtain ⟨ok, degraded, -⟩ := holds
  rw [data_get?, ok, degraded]
  cases outcome with
  | error e => rfl
  | frame df warnings => cases warnings <;> rfl

/-- What `fetch_many` returns for the outcomes of its calls. -/
structure Sorts (symbols : List String) (outcomes : List (Outcome Frame Err))
    (result : BatchResult Frame Err) : Prop where
  latest : ∀ symbol,
    result.ok.get? symbol = (given Outcome.clean? symbol (symbols.zip outcomes)).getLast? ∧
    result.degraded.get? symbol =
      (given Outcome.degraded? symbol (symbols.zip outcomes)).getLast? ∧
    result.failed.get? symbol = (given Outcome.failed? symbol (symbols.zip outcomes)).getLast?
  order : ∀ kind, (result.symbolsOf kind).Sublist symbols
  found : ∀ symbol ∈ symbols, ∃ kind, symbol ∈ result.symbolsOf kind
  once : ∀ (i : ℕ) symbol outcome, symbols[i]? = some symbol → outcomes[i]? = some outcome →
    symbols.count symbol = 1 →
      result.Holds symbol outcome ∧ result.data.get? symbol = outcome.frame?

section Batches
variable {symbols : List String} {outcomes : List (Outcome Frame Err)}

theorem map_fst_zip (same : outcomes.length = symbols.length) :
    (symbols.zip outcomes).map Prod.fst = symbols :=
  List.map_fst_zip (Nat.le_of_eq same.symm)

/-- A symbol that is asked for once has one entry. -/
theorem filter_once {symbol : String} {outcome : Outcome Frame Err}
    {entries : List (String × Outcome Frame Err)} (member : (symbol, outcome) ∈ entries)
    (once : (entries.map Prod.fst).count symbol = 1) :
    (entries.filter fun entry => entry.1 = symbol) = [(symbol, outcome)] := by
  have length : (entries.filter fun entry => entry.1 = symbol).length = 1 := by
    rw [← List.countP_eq_length_filter, ← once, List.count, List.countP_map]
    rfl
  obtain ⟨entry, only⟩ := List.length_eq_one_iff.mp length
  have inside : (symbol, outcome) ∈ entries.filter fun entry => entry.1 = symbol :=
    List.mem_filter.mpr ⟨member, by simp⟩
  rw [only, List.mem_singleton] at inside
  rw [only, inside]

theorem given_once {V : Type} (pick : Outcome Frame Err → Option V) {symbol : String}
    {outcome : Outcome Frame Err} {entries : List (String × Outcome Frame Err)}
    (member : (symbol, outcome) ∈ entries) (once : (entries.map Prod.fst).count symbol = 1) :
    (given pick symbol entries).getLast? = pick outcome := by
  rw [given, filter_once member once]
  cases found : pick outcome <;> simp [found]

theorem batchOf_found {symbol : String} {outcome : Outcome Frame Err}
    (member : (symbol, outcome) ∈ symbols.zip outcomes) :
    symbol ∈ (batchOf symbols outcomes).symbolsOf outcome.kind := by
  obtain ⟨ok, degraded, failed⟩ := foldl_get? symbols.length symbol (symbols.zip outcomes)
  have asked : (symbol, outcome) ∈ (symbols.zip outcomes).filter fun entry => entry.1 = symbol :=
    List.mem_filter.mpr ⟨member, by simp⟩
  cases outcome with
  | error e =>
    have given : e ∈ given Outcome.failed? symbol (symbols.zip outcomes) :=
      List.mem_filterMap.mpr ⟨_, asked, rfl⟩
    apply (Dict.get?_isSome_iff _ _).mp
    rw [batchOf, failed, List.getLast?_isSome]
    exact List.ne_nil_of_mem given
  | frame df warnings =>
    cases warnings with
    | nil =>
      have given : df ∈ given Outcome.clean? symbol (symbols.zip outcomes) :=
        List.mem_filterMap.mpr ⟨_, asked, rfl⟩
      apply (Dict.get?_isSome_iff _ _).mp
      rw [batchOf, ok, List.getLast?_isSome]
      exact List.ne_nil_of_mem given
    | cons first rest =>
      have given : (df, first :: rest) ∈ given Outcome.degraded? symbol (symbols.zip outcomes) :=
        List.mem_filterMap.mpr ⟨_, asked, rfl⟩
      apply (Dict.get?_isSome_iff _ _).mp
      rw [batchOf, degraded, List.getLast?_isSome]
      exact List.ne_nil_of_mem given

theorem batchOf_sorts (same : outcomes.length = symbols.length) :
    Sorts symbols outcomes (batchOf symbols outcomes) where
  latest := fun symbol => foldl_get? symbols.length symbol (symbols.zip outcomes)
  order := fun kind => by
    have part := foldl_symbols symbols.length kind (symbols.zip outcomes)
    rwa [map_fst_zip same] at part
  found := fun symbol asked => by
    rw [← map_fst_zip same] at asked
    obtain ⟨⟨_, outcome⟩, member, rfl⟩ := List.mem_map.mp asked
    exact ⟨outcome.kind, batchOf_found member⟩
  once := fun i symbol outcome asked came once => by
    have member : (symbol, outcome) ∈ symbols.zip outcomes :=
      List.mem_iff_getElem?.mpr ⟨i, by rw [List.getElem?_zip_eq_some]; exact ⟨asked, came⟩⟩
    rw [← map_fst_zip same] at once
    obtain ⟨ok, degraded, failed⟩ := foldl_get? symbols.length symbol (symbols.zip outcomes)
    rw [given_once _ member once] at ok degraded failed
    have holds : (batchOf symbols outcomes).Holds symbol outcome := ⟨ok, degraded, failed⟩
    exact ⟨holds, holds.data⟩

/-- In every interleaving of the calls, no more than `max_concurrent` run at once, the batch
never gets stuck, and once all calls have returned each dictionary has the last outcome of its
kind for each symbol, in the order of the symbols, so that no symbol is lost and one that is
asked for once is in the dictionary of its outcome alone. -/
theorem fetchMany_sorts [Inhabited (Outcome Frame Err)] {maxConcurrent : ℕ}
    {tasks : List (Gather.Status (Outcome Frame Err))}
    {labels : List (Gather.Event (Outcome Frame Err))}
    (run : Steps (calls Frame Err maxConcurrent symbols) anyStep
      (calls Frame Err maxConcurrent symbols).init labels tasks) :
    Gather.running tasks ≤ maxConcurrent ∧ labels.length ≤ 2 * symbols.length ∧
    (0 < maxConcurrent → Gather.results tasks = none →
      ∃ event, (Gather.step maxConcurrent tasks event).isSome) ∧
    ∀ outcomes, Gather.results tasks = some outcomes →
      Sorts symbols outcomes (batchOf symbols outcomes) := by
  have reached := run.reachable .init
  refine ⟨Gather.reachable_running_le reached, Gather.steps_length_le run,
    fun positive unfinished => Gather.exists_step positive unfinished, fun outcomes finished => ?_⟩
  have lengths := Gather.reachable_length reached
  rw [Gather.results_eq_some.mp finished, List.length_map] at lengths
  exact batchOf_sorts lengths

/-- Three calls of two symbols, one at a time, the second of which raises. -/
def threeCalls : List (Gather.Event (Outcome ℕ ℕ)) :=
  [.start 1, .finish 1 (.error 7), .start 0, .finish 0 (.frame 10 []), .start 2,
    .finish 2 (.frame 12 ["short"])]

theorem threeCalls_ends : (calls ℕ ℕ 1 ["A", "B", "A"]).exec (fun _ _ => true)
    (calls ℕ ℕ 1 ["A", "B", "A"]).init threeCalls =
      some [.finished (.frame 10 []), .finished (.error 7), .finished (.frame 12 ["short"])] := by
  decide

instance inhabitedOutcome : Inhabited (Outcome ℕ ℕ) := ⟨.error 0⟩

theorem fetchMany_sorts_threeCalls :
    (batchOf ["A", "B", "A"] [.frame 10 [], .error 7, .frame 12 ["short"]] :
      BatchResult ℕ ℕ).Holds "B" (.error 7) := by
  have run : Steps (calls ℕ ℕ 1 ["A", "B", "A"]) anyStep _ threeCalls _ :=
    System.steps_exec (fun _ _ _ _ => trivial) threeCalls_ends
  exact (((fetchMany_sorts run).2.2.2 _ rfl).once 1 "B" (.error 7) rfl rfl (by decide)).1

end Batches

end ExchangeRouter.Client.Batch
