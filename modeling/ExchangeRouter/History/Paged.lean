import ExchangeRouter.History.Pagination
import ExchangeRouter.Records.Model

/-!
# Pages up to an anchor

The statistics of perpetuals are asked for in pages that end at an anchor, the
start at first, and `_paginate_backwards` goes back from there.  The rows of a
page may come in any order.
-/
namespace ExchangeRouter.History
open Lib OrderBooks Records

/-- What tells one route from another.  `query` is what `_make_request` is given. -/
structure Paged (Q R : Type) where
  timestamp : R → ℤ
  perReq : ℕ
  /-- A single page is walked as well. -/
  always : Bool
  query : ℕ → Option ℤ → Q
  rows : Json → Except PyError (List Json)
  /-- The record of a row, if it has one. -/
  row : Json → Except PyError (Option R)
  /-- A page is sorted before it is handed over. -/
  sorts : Bool
  /-- A single page is cut to the limit. -/
  slices : Bool

section Paged
variable {Q R : Type} (route : Paged Q R) (makeRequest : Q → Except FetchError Json)

def Paged.read (data : Json) : Except PyError (List R) := do
  let records ← (← route.rows data).mapM route.row
  return if route.sorts then sortByTime route.timestamp records.reduceOption
    else records.reduceOption

/-- `fetch_backward`; an anchor of zero is no anchor. -/
def Paged.fetch (startTime endTs : Option ℤ) (l : ℕ) : Except FetchError (List R) :=
  makeRequest (route.query l ((endTs.or startTime).filter fun anchor => anchor ≠ 0)) >>=
    fun data => (route.read data).mapError FetchError.ofPy

def Paged.get [DecidableEq R] (startTime : Option ℤ) (limit : ℕ) : Except FetchError (List R) :=
  let fetch := route.fetch makeRequest startTime
  if route.always ∨ startTime ≠ none ∨ route.perReq < limit then
    -- the text of a record determines it, so records stand for their JSON
    paginateBackwards route.timestamp id (fun _ => fetch) route.perReq limit
  else (fetch none limit).map fun records =>
    if route.slices then lastSlice limit records else records

end Paged

/-- `raise NotImplementedError` for spot markets. -/
def perpetualOnly {R : Type} (marketType : MarketType) (call : Except FetchError (List R)) :
    Except FetchError (List R) :=
  if marketType = .spot then .error (.other "NotImplementedError") else call

section Disordered
variable {R K : Type} [DecidableEq K] (timestamp : R → ℤ) (json : R → K)
  (fetch : ℕ → Option ℤ → ℕ → Except FetchError (List R)) (limitPerReq : ℕ)

/-- A page is read in the order of its times. -/
theorem paginateTurn_sorted (walk : Walk R K) :
    paginateTurn timestamp json
      (fun i current n => (fetch i current n).map (sortByTime timestamp)) limitPerReq walk =
        paginateTurn timestamp json fetch limitPerReq walk := by
  unfold paginateTurn
  cases answered : fetch walk.reqCount walk.currentEnd limitPerReq with
  | error e => simp only [answered, Except.map]
  | ok batch =>
    simp only [answered, Except.map, (sortByTime_ascending timestamp batch).sortByTime_eq]

theorem paginateBackwards_sorted (totalLimit : ℕ) :
    paginateBackwards timestamp json
      (fun i current n => (fetch i current n).map (sortByTime timestamp)) limitPerReq totalLimit =
        paginateBackwards timestamp json fetch limitPerReq totalLimit := by
  have loops : ∀ left walk, paginateLoop timestamp json
      (fun i current n => (fetch i current n).map (sortByTime timestamp)) limitPerReq totalLimit
        left walk = paginateLoop timestamp json fetch limitPerReq totalLimit left walk := by
    intro left
    induction left with
    | zero => exact fun walk => rfl
    | succ left ih =>
      intro walk
      simp only [paginateLoop, paginateTurn_sorted, ih]
  rw [paginateBackwards, paginateBackwards, loops]

end Disordered

section Failing
variable {R : Type} (timestamp : R → ℤ) (H : List R)
  (fetch : Option ℤ → ℕ → Except FetchError (List R)) (n : ℕ)

open Classical in
/-- A request that pagination never makes is answered as well. -/
noncomputable def completed (current : Option ℤ) (m : ℕ) : Except FetchError (List R) :=
  if m = n ∧ ∀ t ∈ current, ∃ r ∈ H, timestamp r = t then fetch current m
  else .ok (page timestamp H current m)

variable {timestamp H fetch n} [DecidableEq R]

/-- Records of strictly ascending times, with requests that may fail. -/
theorem paginateBackwards_strict_suffix {total : ℕ}
    (strict : H.Pairwise fun a b => timestamp a < timestamp b) (positive : ∀ r ∈ H, 0 < timestamp r)
    (answers : ∀ current, (∀ t ∈ current, ∃ r ∈ H, timestamp r = t) →
      fetch current n = .ok (page timestamp H current n) ∨
        ∃ e, e.stopsPagination = true ∧ fetch current n = .error e) (wanted : 0 < total) :
    ∃ out, paginateBackwards timestamp id (fun _ => fetch) n total = .ok out ∧ out <:+ H ∧
      out.length ≤ total := by
  have distinct : (H.map timestamp).Nodup :=
    List.pairwise_map.mpr (strict.imp fun earlier => earlier.ne)
  have archive : Archive timestamp id H :=
    ⟨strict.imp fun earlier => earlier.le, positive, by simpa using List.Nodup.of_map _ distinct⟩
  have serves : Serves timestamp H fun _ => completed timestamp H fetch n := by
    intro i current m
    by_cases asked : m = n ∧ ∀ t ∈ current, ∃ r ∈ H, timestamp r = t
    · have same : completed timestamp H fetch n current m = fetch current m := if_pos asked
      obtain ⟨rfl, ends⟩ := asked
      rcases answers current ends with paged | ⟨e, caught, failed⟩
      · exact .inl (same.trans paged)
      · exact .inr ⟨e, caught, same.trans failed⟩
    · exact .inl (if_neg asked)
  have paged : ∀ current batch, completed timestamp H fetch n current n = .ok batch →
      ∀ r ∈ batch, r ∈ H := by
    intro current batch answered r member
    rcases serves 0 current n with page | ⟨e, -, failed⟩
    · have inside := (rtake_suffix _ _).mem (Except.ok.inj (answered.symm.trans page) ▸ member)
      cases current with
      | none => exact inside
      | some t => exact (List.mem_filter.mp inside).1
    · cases answered.symm.trans failed
  have asked : paginateBackwards timestamp id (fun _ => fetch) n total =
      paginateBackwards timestamp id (fun _ => completed timestamp H fetch n) n total :=
    paginateBackwards_congr (fun _ current ends => (if_pos ⟨rfl, ends⟩).symm)
      (fun _ current batch answered r member _ => ⟨r, paged current batch answered r member, rfl⟩)
      total
  obtain ⟨out, ran, -, suffix, short, -⟩ := paginateBackwards_suffix archive serves wanted
  exact ⟨out, asked.trans ran, suffix, short⟩

end Failing

section Exact
variable {Q R : Type} (route : Paged Q R) (makeRequest : Q → Except FetchError Json) (H : List R)

/-- The records up to the start; zero is no start. -/
def Paged.known (startTime : Option ℤ) : List R :=
  (startTime.filter fun start => start ≠ 0).elim H fun start => upTo route.timestamp start H

/-- An answer with a row for each record, in any order that the route puts right. -/
def Paged.Answered (data : Json) (records : List R) : Prop :=
  ∃ rows read, route.rows data = .ok rows ∧
    List.Forall₂ (fun row r => route.row row = .ok (some r)) rows read ∧ read.Perm records ∧
      (route.always = false → route.sorts = false → read = records)

def Paged.AnsweredAt (l : ℕ) (anchor : Option ℤ) : Prop :=
  ∃ data, makeRequest (route.query l anchor) = .ok data ∧
    route.Answered data (page route.timestamp H anchor l)

def Paged.Answers : Prop :=
  ∀ l ≤ route.perReq, ∀ anchor, (∀ t ∈ anchor, 0 < t) → route.AnsweredAt makeRequest H l anchor

/-- A request may fail in a way that pagination catches. -/
def Paged.MayFail : Prop :=
  ∀ l ≤ route.perReq, ∀ anchor, route.AnsweredAt makeRequest H l anchor ∨
    ∃ e, e.stopsPagination = true ∧
      makeRequest (route.query l anchor) = .error e

/-- The newest `limit` records up to the start, as far as a hundred pages bring
them; and if requests fail, a later part of those records, unless the one request
of a single page does. -/
structure Paged.Exact (get : Option ℤ → ℕ → Except FetchError (List R)) : Prop where
  newest : ∀ H, (H.Pairwise fun a b => route.timestamp a < route.timestamp b) →
    (∀ r ∈ H, 0 < route.timestamp r) → route.Answers makeRequest H →
    ∀ startTime limit, (∀ start ∈ startTime, 0 ≤ start) → 0 < limit →
      min limit (route.known H startTime).length ≤ route.perReq + 99 * (route.perReq - 1) →
      get startTime limit = .ok ((route.known H startTime).rtake limit)
  suffix : ∀ H, (H.Pairwise fun a b => route.timestamp a < route.timestamp b) →
    (∀ r ∈ H, 0 < route.timestamp r) → route.MayFail makeRequest H →
    ∀ startTime limit, 0 < limit →
      (∃ out, get startTime limit = .ok out ∧ out <:+ route.known H startTime ∧
        out.length ≤ limit) ∨
      (∃ e, get startTime limit = .error e ∧
        route.always = false ∧ startTime = none ∧ limit ≤ route.perReq)

variable {route makeRequest H} {startTime : Option ℤ}

theorem Paged.Answered.read {data : Json} {records : List R}
    (answered : route.Answered data records) :
    ∃ read, route.read data = .ok read ∧ read.Perm records ∧
      (route.always = false → route.sorts = false → read = records) := by
  obtain ⟨rows, read, listed, each, perm, same⟩ := answered
  have all := mapM_eq_ok_some each
  refine ⟨if route.sorts then sortByTime route.timestamp read else read, ?_, ?_, ?_⟩
  · simp only [Paged.read, listed, all, reduceOption_map_some, bind, Except.bind, pure,
      Except.pure]
  · split
    · exact (List.perm_insertionSort _ read).trans perm
    · exact perm
  · intro single unsorted
    rw [unsorted]
    exact same single unsorted

theorem page_strict (strict : H.Pairwise fun a b => route.timestamp a < route.timestamp b)
    (current : Option ℤ) (n : ℕ) :
    (page route.timestamp H current n).Pairwise
      fun a b => route.timestamp a < route.timestamp b := by
  refine List.Pairwise.sublist (rtake_suffix _ _).sublist ?_
  cases current with
  | none => exact strict
  | some t => exact strict.sublist (upTo_sublist _ _ _)

/-- A page of records of the times of others. -/
theorem page_map {S : Type} {f : S → R} {timestamp : R → ℤ} {time : S → ℤ}
    (same : ∀ s, timestamp (f s) = time s) (l : List S) (current : Option ℤ) (n : ℕ) :
    page timestamp (l.map f) current n = (page time l current n).map f := by
  cases current with
  | none => exact map_rtake f l n
  | some t =>
    simp only [page, upTo, Option.elim_some, List.filter_map, map_rtake]
    congr 2
    exact List.filter_congr fun s _ => by rw [Function.comp_apply, same]

/-- An end at a known record leaves what it leaves of all records. -/
theorem Paged.page_known {current : Option ℤ} (l : ℕ)
    (within : ∀ t ∈ current, t ≠ 0 ∧ ∀ start ∈ startTime, start ≠ 0 → t ≤ start) :
    page route.timestamp H ((current.or startTime).filter fun anchor => anchor ≠ 0) l =
      page route.timestamp (route.known H startTime) current l := by
  cases current with
  | none => rfl
  | some t =>
    obtain ⟨nonzero, early⟩ := within t rfl
    have own : (some t).filter (fun anchor => decide (anchor ≠ 0)) = some t := by
      simp [Option.filter, nonzero]
    rw [Option.some_or, own, page, page, Paged.known]
    cases shape : startTime.filter fun start => decide (start ≠ 0) with
    | none => rfl
    | some start =>
      obtain ⟨given, kept⟩ := Option.filter_eq_some_iff.mp shape
      rw [Option.elim_some, Option.elim_some, Option.elim_some,
        upTo_upTo (early start given (of_decide_eq_true kept))]

/-- A page in the order of its times. -/
def Paged.inOrder (route : Paged Q R) (makeRequest : Q → Except FetchError Json)
    (startTime current : Option ℤ) (l : ℕ) : Except FetchError (List R) :=
  (route.fetch makeRequest startTime current l).map (sortByTime route.timestamp)

/-- An answered request brings a page of the known records. -/
theorem Paged.AnsweredAt.fetch
    (strict : H.Pairwise fun a b => route.timestamp a < route.timestamp b) {l : ℕ}
    {current : Option ℤ}
    (within : ∀ t ∈ current, t ≠ 0 ∧ ∀ start ∈ startTime, start ≠ 0 → t ≤ start)
    (answered : route.AnsweredAt makeRequest H l
      ((current.or startTime).filter fun anchor => anchor ≠ 0)) :
    route.inOrder makeRequest startTime current l =
      .ok (page route.timestamp (route.known H startTime) current l) := by
  obtain ⟨data, replied, rows⟩ := answered
  obtain ⟨read, told, perm, -⟩ := rows.read
  have sorted := sortByTime_eq_of_perm perm (page_strict strict _ l)
  rw [Paged.inOrder, Paged.fetch, replied, ← Paged.page_known l within, ← sorted]
  simp only [bind, Except.bind, told, Except.mapError, Except.map]

theorem Paged.known_sublist (route : Paged Q R) (H : List R) (startTime : Option ℤ) :
    (route.known H startTime).Sublist H := by
  rw [Paged.known]
  cases startTime.filter fun start => decide (start ≠ 0) with
  | none => exact List.Sublist.refl _
  | some start => exact upTo_sublist _ _ _

theorem Paged.le_of_mem_known {r : R} (member : r ∈ route.known H startTime) :
    ∀ start ∈ startTime, start ≠ 0 → route.timestamp r ≤ start := by
  intro start given nonzero
  obtain rfl : startTime = some start := given
  have own : (some start).filter (fun start => decide (start ≠ 0)) = some start := by
    simp [Option.filter, nonzero]
  rw [Paged.known, own] at member
  exact le_of_mem_upTo member

/-- A request of the pagination brings a page of the known records or fails. -/
theorem Paged.MayFail.fetch
    (strict : H.Pairwise fun a b => route.timestamp a < route.timestamp b)
    (mayFail : route.MayFail makeRequest H) {current : Option ℤ}
    (within : ∀ t ∈ current, t ≠ 0 ∧ ∀ start ∈ startTime, start ≠ 0 → t ≤ start) {l : ℕ}
    (few : l ≤ route.perReq) :
    route.inOrder makeRequest startTime current l =
        .ok (page route.timestamp (route.known H startTime) current l) ∨
      ∃ e, e.stopsPagination = true ∧ route.fetch makeRequest startTime current l = .error e := by
  rcases mayFail l few ((current.or startTime).filter fun anchor => anchor ≠ 0) with
    answered | ⟨e, caught, failed⟩
  · exact .inl (answered.fetch strict within)
  · refine .inr ⟨e, caught, ?_⟩
    rw [Paged.fetch, failed]
    rfl

theorem Paged.sliced_page (route : Paged Q R) {n : ℕ} (wanted : 0 < n) :
    (if route.slices then lastSlice n (H.rtake n) else H.rtake n) = H.rtake n := by
  have short : (H.rtake n).length ≤ n := by
    rw [length_rtake]
    exact Nat.min_le_left _ _
  rw [lastSlice, if_neg wanted.ne', rtake_of_length_le short, ite_self]

theorem Paged.fetch_sorted (sorts : route.sorts = true) (current : Option ℤ) (l : ℕ) :
    route.inOrder makeRequest startTime current l =
      route.fetch makeRequest startTime current l := by
  rw [Paged.inOrder, Paged.fetch]
  cases makeRequest (route.query l ((current.or startTime).filter fun anchor => anchor ≠ 0)) with
  | error e => rfl
  | ok data =>
    simp only [bind, Except.bind, Paged.read, sorts, if_true]
    cases route.rows data with
    | error e => rfl
    | ok rows =>
      simp only
      cases rows.mapM route.row with
      | error e => rfl
      | ok records =>
        simp only [pure, Except.pure, Except.mapError, Except.map]
        rw [(sortByTime_ascending route.timestamp _).sortByTime_eq]

/-- A page asked for alone comes in its order. -/
theorem Paged.AnsweredAt.alone
    (strict : H.Pairwise fun a b => route.timestamp a < route.timestamp b)
    (single : route.always = false) {l : ℕ} (answered : route.AnsweredAt makeRequest H l none) :
    route.fetch makeRequest none none l = .ok (page route.timestamp H none l) := by
  cases sorted : route.sorts with
  | true =>
    rw [← Paged.fetch_sorted sorted]
    exact answered.fetch strict (by simp)
  | false =>
    obtain ⟨data, replied, rows⟩ := answered
    obtain ⟨read, told, -, same⟩ := rows.read
    obtain rfl := same single sorted
    have asked : makeRequest (route.query l
        (((none : Option ℤ).or none).filter fun anchor => anchor ≠ 0)) = .ok data := replied
    rw [Paged.fetch, asked]
    simp only [bind, Except.bind, told, Except.mapError]

theorem Paged.within_of_known (positive : ∀ r ∈ H, 0 < route.timestamp r) {current : Option ℤ}
    (ends : ∀ t ∈ current, ∃ r ∈ route.known H startTime, route.timestamp r = t) :
    ∀ t ∈ current, 0 < t ∧ ∀ start ∈ startTime, start ≠ 0 → t ≤ start := by
  intro t own
  obtain ⟨r, member, rfl⟩ := ends t own
  exact ⟨positive r ((Paged.known_sublist route H startTime).mem member),
    Paged.le_of_mem_known member⟩

variable [DecidableEq R]

theorem Paged.paginate_newest {limit : ℕ}
    (strict : H.Pairwise fun a b => route.timestamp a < route.timestamp b)
    (positive : ∀ r ∈ H, 0 < route.timestamp r) (answers : route.Answers makeRequest H)
    (roomy : 1 < route.perReq) (later : ∀ start ∈ startTime, 0 ≤ start) (wanted : 0 < limit)
    (reach : min limit (route.known H startTime).length ≤ route.perReq + 99 * (route.perReq - 1)) :
    paginateBackwards route.timestamp id (fun _ => route.fetch makeRequest startTime) route.perReq
      limit = .ok ((route.known H startTime).rtake limit) := by
  have part := Paged.known_sublist route H startTime
  have answered : ∀ current,
      (∀ t ∈ current, ∃ r ∈ route.known H startTime, route.timestamp r = t) →
      route.inOrder makeRequest startTime current route.perReq =
        .ok (page route.timestamp (route.known H startTime) current route.perReq) := by
    intro current ends
    have within := Paged.within_of_known positive ends
    refine Paged.AnsweredAt.fetch strict (fun t own => ?_) (answers _ le_rfl _ fun t kept => ?_)
    · exact ⟨(within t own).1.ne', (within t own).2⟩
    · obtain ⟨given, kept⟩ := Option.filter_eq_some_iff.mp kept
      have nonzero : t ≠ 0 := of_decide_eq_true kept
      cases current with
      | none => exact lt_of_le_of_ne (later t given) nonzero.symm
      | some s => exact (within t given).1
  obtain ⟨newer, -, -, paged, all⟩ := paginateBackwards_strict (strict.sublist part)
    (fun r member => positive r (part.mem member)) answered roomy wanted
  rw [← paginateBackwards_sorted]
  exact paged.trans (congrArg Except.ok (all reach))

theorem Paged.paginate_suffix {limit : ℕ}
    (strict : H.Pairwise fun a b => route.timestamp a < route.timestamp b)
    (positive : ∀ r ∈ H, 0 < route.timestamp r) (mayFail : route.MayFail makeRequest H)
    (wanted : 0 < limit) :
    ∃ out, paginateBackwards route.timestamp id (fun _ => route.fetch makeRequest startTime)
        route.perReq limit = .ok out ∧ out <:+ route.known H startTime ∧ out.length ≤ limit := by
  have part := Paged.known_sublist route H startTime
  rw [← paginateBackwards_sorted]
  refine paginateBackwards_strict_suffix (strict.sublist part)
    (fun r member => positive r (part.mem member)) (fun current ends => ?_) wanted
  have within := Paged.within_of_known positive ends
  rcases mayFail.fetch strict (fun t own => ⟨(within t own).1.ne', (within t own).2⟩)
    (le_refl route.perReq) with paged | ⟨e, caught, failed⟩
  · exact .inl paged
  · exact .inr ⟨e, caught, congrArg _ failed⟩

omit [DecidableEq R] in
theorem Paged.Exact.perpetual {marketType : MarketType}
    {get : Option ℤ → ℕ → Except FetchError (List R)} (perpetual : marketType ≠ .spot)
    (exact : route.Exact makeRequest get) :
    route.Exact makeRequest
      fun startTime limit => perpetualOnly marketType (get startTime limit) := by
  have same : (fun startTime limit => perpetualOnly marketType (get startTime limit)) = get := by
    funext startTime limit
    exact if_neg perpetual
  rw [same]
  exact exact

theorem Paged.get_exact (route : Paged Q R) (makeRequest : Q → Except FetchError Json)
    (roomy : 1 < route.perReq) : route.Exact makeRequest (route.get makeRequest) where
  newest := by
    intro H strict positive answers startTime limit later wanted reach
    rw [Paged.get]
    split
    · exact Paged.paginate_newest strict positive answers roomy later wanted reach
    · next alone =>
      simp only [not_or, not_not, not_lt, Bool.not_eq_true] at alone
      obtain ⟨single, rfl, few⟩ := alone
      have paged := (answers limit few none (by simp)).alone strict single
      exact (congrArg _ paged).trans (congrArg Except.ok (Paged.sliced_page route wanted))
  suffix := by
    intro H strict positive mayFail startTime limit wanted
    rw [Paged.get]
    split
    · exact .inl (Paged.paginate_suffix strict positive mayFail wanted)
    · next alone =>
      simp only [not_or, not_not, not_lt, Bool.not_eq_true] at alone
      obtain ⟨single, rfl, few⟩ := alone
      rcases mayFail limit few none with answered | ⟨e, -, failed⟩
      · have paged := answered.alone strict single
        refine .inl ⟨_, (congrArg _ paged).trans
          (congrArg Except.ok (Paged.sliced_page route wanted)), rtake_suffix _ _, ?_⟩
        rw [length_rtake]
        exact Nat.min_le_left _ _
      · have asked : route.fetch makeRequest none none limit = .error e := by
          have nothing : makeRequest (route.query limit
              (((none : Option ℤ).or none).filter fun anchor => anchor ≠ 0)) = .error e := failed
          rw [Paged.fetch, nothing]
          rfl
        exact .inr ⟨e, congrArg (Except.map _) asked, single, rfl, few⟩

end Exact

section Raising
variable {Q R : Type} (route : Paged Q R) (makeRequest : Q → Except FetchError Json) (H : List R)

/-- The records of a request, or what it or their reading raises. -/
def Paged.ask (query : Q) : Except FetchError (List R) :=
  makeRequest query >>= fun data => (route.read data).mapError FetchError.ofPy

/-- A request may fail in any way, or bring rows that cannot be read. -/
def Paged.MayRaise : Prop :=
  ∀ l ≤ route.perReq, ∀ anchor, route.AnsweredAt makeRequest H l anchor ∨
    ∃ e, route.ask makeRequest (route.query l anchor) = .error e

/-- The same requests, failing only in ways that pagination catches. -/
def Paged.caught (query : Q) : Except FetchError Json :=
  match route.ask makeRequest query with
  | .error e => .error (if e.stopsPagination then e else .valueError "")
  | .ok _ => makeRequest query

variable {route makeRequest H}

theorem Paged.MayRaise.mayFail (mayRaise : route.MayRaise makeRequest H) :
    route.MayFail (route.caught makeRequest) H := by
  intro l few anchor
  rcases mayRaise l few anchor with ⟨data, replied, answered⟩ | ⟨e, failed⟩
  · refine .inl ⟨data, ?_, answered⟩
    obtain ⟨read, told, -⟩ := answered.read
    have asked : route.ask makeRequest (route.query l anchor) = .ok read := by
      rw [Paged.ask, replied]
      exact congrArg (Except.mapError FetchError.ofPy) told
    rw [Paged.caught, asked]
    exact replied
  · refine .inr ⟨if e.stopsPagination then e else .valueError "", ?_, ?_⟩
    · split
      · assumption
      · rfl
    · rw [Paged.caught, failed]

/-- A request that does not raise is the one with its failure caught. -/
theorem Paged.ask_caught (route : Paged Q R) (makeRequest : Q → Except FetchError Json)
    (query : Q) : route.ask makeRequest query = route.ask (route.caught makeRequest) query ∨
      ∃ e, e.stopsPagination = false ∧ route.ask makeRequest query = .error e := by
  cases asked : route.ask makeRequest query with
  | ok records =>
    have same : route.caught makeRequest query = makeRequest query := by
      rw [Paged.caught, asked]
    refine .inl ?_
    rw [← asked, Paged.ask, Paged.ask, same]
  | error e =>
    cases stops : e.stopsPagination with
    | false => exact .inr ⟨e, stops, rfl⟩
    | true =>
      refine .inl ?_
      rw [Paged.ask, Paged.caught, asked]
      simp only [stops, if_true]
      rfl

variable [DecidableEq R]

/-- A route that raises nothing returns what it returns when failures are caught. -/
theorem Paged.get_or_raises (route : Paged Q R) (makeRequest : Q → Except FetchError Json)
    (startTime : Option ℤ) (limit : ℕ) :
    route.get makeRequest startTime limit =
        route.get (route.caught makeRequest) startTime limit ∨
      ∃ e, route.get makeRequest startTime limit = .error e := by
  rw [Paged.get, Paged.get]
  split
  · exact paginateBackwards_or_raises (fun _ _ => route.ask_caught makeRequest _) limit
  · rcases route.ask_caught makeRequest (route.query limit
      (((none : Option ℤ).or startTime).filter fun anchor => anchor ≠ 0)) with same | ⟨e, -, failed⟩
    · exact .inl (congrArg (Except.map _) same)
    · exact .inr ⟨e, congrArg (Except.map _) failed⟩

/-- Whatever requests fail: a part of the records up to the start that ends at
the newest, or an exception. -/
theorem Paged.MayRaise.get (mayRaise : route.MayRaise makeRequest H) (roomy : 1 < route.perReq)
    (strict : H.Pairwise fun a b => route.timestamp a < route.timestamp b)
    (positive : ∀ r ∈ H, 0 < route.timestamp r) (startTime : Option ℤ) {limit : ℕ}
    (wanted : 0 < limit) :
    (∃ out, route.get makeRequest startTime limit = .ok out ∧ out <:+ route.known H startTime) ∨
      ∃ e, route.get makeRequest startTime limit = .error e := by
  rcases route.get_or_raises makeRequest startTime limit with same | raised
  · rcases (Paged.get_exact route (route.caught makeRequest) roomy).suffix H strict positive
      mayRaise.mayFail startTime limit wanted with ⟨out, ran, suffix, -⟩ | ⟨e, failed, -⟩
    · exact .inl ⟨out, same.trans ran, suffix⟩
    · exact .inr ⟨e, same.trans failed⟩
  · exact .inr raised

end Raising

end ExchangeRouter.History
