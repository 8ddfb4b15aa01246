import Mathlib.Data.Finset.Lattice.Basic
import Mathlib.Data.Finset.Image
import ExchangeRouter.Lib.Json
import ExchangeRouter.Lib.Timeline

/-!
# Backward pagination

`src/exchanges/base.py`: `BaseExchange._paginate_backwards`.  The loop asks for
page after page, each ending at the oldest record so far, drops the records it
has already seen (by their JSON text) and stops at the first of six conditions.
The logging is left out.
-/
namespace ExchangeRouter.History
open Lib

/-- The records of `_paginate_backwards` are cut as `out[-total_limit:]`; in
Python a limit of zero cuts nothing. -/
def lastSlice {R : Type} (n : ℕ) (l : List R) : List R :=
  if n = 0 then l else l.rtake n

inductive FetchError
  | httpStatusError (status : ℕ)
  | valueError (message : String)
  | other (name : String)
  deriving DecidableEq, Repr

/-- The classes named in the `except` of the loop. -/
def FetchError.stopsPagination : FetchError → Bool
  | .httpStatusError _ => true
  | .valueError _ => true
  | .other _ => false

/-- An exception raised while an answer is read. -/
def FetchError.ofPy : PyError → FetchError
  | .valueError text => .valueError text
  | .keyError _ => .other "KeyError"
  | .typeError => .other "TypeError"
  | .attributeError => .other "AttributeError"
  | .other name => .other name

/-- The locals of `_paginate_backwards` at the head of its loop. -/
structure Walk (R K : Type) where
  chunks : List (List R)
  seen : Finset K
  collected : ℕ
  currentEnd : Option ℤ
  reqCount : ℕ

def Walk.initial {R K : Type} : Walk R K := ⟨[], ∅, 0, none, 0⟩

/-- One pass of the loop either leaves it or goes on. -/
inductive Turn (R K : Type)
  | stop (walk : Walk R K)
  | next (walk : Walk R K)

def maxRequests : ℕ := 100

section Loop
variable {R K : Type} [DecidableEq K] (timestamp : R → ℤ) (json : R → K)

/-- The inner loop: keep the records whose JSON text is new, and note it. -/
def takeUnseen : List R → Finset K → List R × Finset K
  | [], seen => ([], seen)
  | x :: rest, seen =>
    if json x ∈ seen then takeUnseen rest seen
    else
      let (newItems, seen) := takeUnseen rest (insert (json x) seen)
      (x :: newItems, seen)

variable (fetch : ℕ → Option ℤ → ℕ → Except FetchError (List R)) (limitPerReq : ℕ)

/-- The body of the loop.  The number of the request is passed to `fetch`, so
that one page may fail and the next succeed. -/
def paginateTurn (walk : Walk R K) : Except FetchError (Turn R K) :=
  match fetch walk.reqCount walk.currentEnd limitPerReq with
  | .error e => if e.stopsPagination then .ok (.stop walk) else .error e
  | .ok batch =>
    match sortByTime timestamp batch with
    | [] => .ok (.stop walk)
    | first :: rest =>
      let (newItems, seen) := takeUnseen json (first :: rest) walk.seen
      if newItems.isEmpty then .ok (.stop { walk with seen })
      else
        let nextEnd := timestamp first
        let walk : Walk R K :=
          { chunks := walk.chunks ++ [newItems]
            seen
            collected := walk.collected + newItems.length
            currentEnd := walk.currentEnd
            reqCount := walk.reqCount + 1 }
        if nextEnd ≤ 0 ∨ walk.currentEnd.any (fun currentEnd => currentEnd ≤ nextEnd) then
          .ok (.stop walk)
        else .ok (.next { walk with currentEnd := some nextEnd })

/-- The loop; its counter is `max_requests - req_count`. -/
def paginateLoop (totalLimit : ℕ) : ℕ → Walk R K → Except FetchError (Walk R K)
  | 0, walk => .ok walk
  | left + 1, walk =>
    if walk.collected < totalLimit then
      match paginateTurn timestamp json fetch limitPerReq walk with
      | .error e => .error e
      | .ok (.stop walk) => .ok walk
      | .ok (.next walk) => paginateLoop totalLimit left walk
    else .ok walk

def paginateBackwards (totalLimit : ℕ) : Except FetchError (List R) :=
  (paginateLoop timestamp json fetch limitPerReq totalLimit maxRequests .initial).map fun walk =>
    lastSlice totalLimit (sortByTime timestamp walk.chunks.reverse.flatten)

/-- A pass that goes on ends at a record of the page, after time zero. -/
theorem paginateTurn_next {walk walk' : Walk R K}
    (went : paginateTurn timestamp json fetch limitPerReq walk = .ok (.next walk')) :
    ∃ batch first, fetch walk.reqCount walk.currentEnd limitPerReq = .ok batch ∧ first ∈ batch ∧
      0 < timestamp first ∧ walk'.currentEnd = some (timestamp first) := by
  unfold paginateTurn at went
  cases answered : fetch walk.reqCount walk.currentEnd limitPerReq with
  | error e =>
    simp only [answered] at went
    split at went <;> cases went
  | ok batch =>
    cases sorted : sortByTime timestamp batch with
    | nil => simp [answered, sorted] at went
    | cons first rest =>
      have member : first ∈ batch :=
        (List.perm_insertionSort _ batch).mem_iff.mp (sorted ▸ List.mem_cons_self)
      simp only [answered, sorted] at went
      by_cases known : (takeUnseen json (first :: rest) walk.seen).1.isEmpty = true
      · simp [known] at went
      · rw [if_neg known] at went
        split at went
        · cases went
        · next goesOn =>
          cases went
          exact ⟨batch, first, rfl, member, by omega, rfl⟩

variable {timestamp json} {fetch : ℕ → Option ℤ → ℕ → Except FetchError (List R)} {limitPerReq : ℕ}
  {other : ℕ → Option ℤ → ℕ → Except FetchError (List R)} {P : ℤ → Prop}

theorem paginateTurn_ends
    (within : ∀ i current batch, other i current limitPerReq = .ok batch →
      ∀ r ∈ batch, 0 < timestamp r → P (timestamp r)) {walk walk' : Walk R K}
    (took : paginateTurn timestamp json other limitPerReq walk = .ok (.next walk')) :
    ∀ t ∈ walk'.currentEnd, P t := by
  obtain ⟨batch, first, answered, member, positive, ended⟩ :=
    paginateTurn_next timestamp json other limitPerReq took
  intro t own
  obtain rfl := Option.some.inj (ended.symm.trans own)
  exact within _ _ batch answered first member positive

theorem paginateLoop_congr
    (same : ∀ i current, (∀ t ∈ current, P t) →
      fetch i current limitPerReq = other i current limitPerReq)
    (within : ∀ i current batch, other i current limitPerReq = .ok batch →
      ∀ r ∈ batch, 0 < timestamp r → P (timestamp r)) (totalLimit left : ℕ)
    {walk : Walk R K} (ends : ∀ t ∈ walk.currentEnd, P t) :
    paginateLoop timestamp json fetch limitPerReq totalLimit left walk =
      paginateLoop timestamp json other limitPerReq totalLimit left walk := by
  induction left generalizing walk with
  | zero => rfl
  | succ left ih =>
    have turns : paginateTurn timestamp json fetch limitPerReq walk =
        paginateTurn timestamp json other limitPerReq walk := by
      rw [paginateTurn, paginateTurn, same walk.reqCount walk.currentEnd ends]
    rw [paginateLoop, paginateLoop, turns]
    cases took : paginateTurn timestamp json other limitPerReq walk with
    | error e => rfl
    | ok turn =>
      cases turn with
      | stop walk' => rfl
      | next walk' => simp only [ih (paginateTurn_ends within took)]

/-- A request that fails ends the loop early. -/
theorem paginateLoop_cut
    (answers : ∀ i current, (∀ t ∈ current, P t) →
      fetch i current limitPerReq = other i current limitPerReq ∨
        ∃ e, e.stopsPagination = true ∧ fetch i current limitPerReq = .error e)
    (within : ∀ i current batch, other i current limitPerReq = .ok batch →
      ∀ r ∈ batch, 0 < timestamp r → P (timestamp r)) (totalLimit left : ℕ)
    {walk : Walk R K} (ends : ∀ t ∈ walk.currentEnd, P t) :
    ∃ left' ≤ left, paginateLoop timestamp json fetch limitPerReq totalLimit left walk =
      paginateLoop timestamp json other limitPerReq totalLimit left' walk := by
  induction left generalizing walk with
  | zero => exact ⟨0, le_rfl, rfl⟩
  | succ left ih =>
    by_cases wanted : walk.collected < totalLimit
    · rcases answers walk.reqCount walk.currentEnd ends with same | ⟨e, caught, failed⟩
      · have turns : paginateTurn timestamp json fetch limitPerReq walk =
            paginateTurn timestamp json other limitPerReq walk := by
          rw [paginateTurn, paginateTurn, same]
        cases took : paginateTurn timestamp json other limitPerReq walk with
        | error e => exact ⟨left + 1, le_rfl, by rw [paginateLoop, paginateLoop, turns, took]⟩
        | ok turn =>
          cases turn with
          | stop walk' =>
            exact ⟨left + 1, le_rfl, by rw [paginateLoop, paginateLoop, turns, took]⟩
          | next walk' =>
            obtain ⟨left', few, cut⟩ := ih (paginateTurn_ends within took)
            refine ⟨left' + 1, Nat.succ_le_succ few, ?_⟩
            simp only [paginateLoop, turns, took, cut]
      · have stopped : paginateTurn timestamp json fetch limitPerReq walk = .ok (.stop walk) := by
          rw [paginateTurn, failed]
          exact if_pos caught
        have early : paginateLoop timestamp json fetch limitPerReq totalLimit (left + 1) walk =
            .ok walk := by
          rw [paginateLoop, if_pos wanted, stopped]
        exact ⟨0, Nat.zero_le _, early⟩
    · have enough : paginateLoop timestamp json fetch limitPerReq totalLimit (left + 1) walk =
          .ok walk := by
        rw [paginateLoop, if_neg wanted]
      exact ⟨0, Nat.zero_le _, enough⟩

/-- With requests that raise: the loop raises, or none was reached. -/
theorem paginateLoop_or_raises
    (alike : ∀ i current, fetch i current limitPerReq = other i current limitPerReq ∨
      ∃ e, e.stopsPagination = false ∧ fetch i current limitPerReq = .error e)
    (totalLimit left : ℕ) (walk : Walk R K) :
    paginateLoop timestamp json fetch limitPerReq totalLimit left walk =
        paginateLoop timestamp json other limitPerReq totalLimit left walk ∨
      ∃ e, paginateLoop timestamp json fetch limitPerReq totalLimit left walk = .error e := by
  induction left generalizing walk with
  | zero => exact .inl rfl
  | succ left ih =>
    by_cases wanted : walk.collected < totalLimit
    · rw [paginateLoop, paginateLoop, if_pos wanted, if_pos wanted]
      rcases alike walk.reqCount walk.currentEnd with same | ⟨e, raises, failed⟩
      · have turns : paginateTurn timestamp json fetch limitPerReq walk =
            paginateTurn timestamp json other limitPerReq walk := by
          rw [paginateTurn, paginateTurn, same]
        rw [turns]
        cases paginateTurn timestamp json other limitPerReq walk with
        | error e => exact .inl rfl
        | ok turn =>
          cases turn with
          | stop walk' => exact .inl rfl
          | next walk' => exact ih walk'
      · have raised : paginateTurn timestamp json fetch limitPerReq walk = .error e := by
          rw [paginateTurn, failed]
          exact if_neg (Bool.eq_false_iff.mp raises)
        rw [raised]
        exact .inr ⟨e, rfl⟩
    · rw [paginateLoop, paginateLoop, if_neg wanted, if_neg wanted]
      exact .inl rfl

theorem paginateBackwards_or_raises
    (alike : ∀ i current, fetch i current limitPerReq = other i current limitPerReq ∨
      ∃ e, e.stopsPagination = false ∧ fetch i current limitPerReq = .error e) (totalLimit : ℕ) :
    paginateBackwards timestamp json fetch limitPerReq totalLimit =
        paginateBackwards timestamp json other limitPerReq totalLimit ∨
      ∃ e, paginateBackwards timestamp json fetch limitPerReq totalLimit = .error e := by
  rw [paginateBackwards, paginateBackwards]
  rcases paginateLoop_or_raises alike totalLimit maxRequests (Walk.initial : Walk R K) with
    same | ⟨e, raised⟩
  · exact .inl (congrArg _ same)
  · exact .inr ⟨e, congrArg (Except.map _) raised⟩

/-- Only pages of one size are asked for, each ending at a record of another. -/
theorem paginateBackwards_congr
    (same : ∀ i current, (∀ t ∈ current, P t) →
      fetch i current limitPerReq = other i current limitPerReq)
    (within : ∀ i current batch, other i current limitPerReq = .ok batch →
      ∀ r ∈ batch, 0 < timestamp r → P (timestamp r)) (totalLimit : ℕ) :
    paginateBackwards timestamp json fetch limitPerReq totalLimit =
      paginateBackwards timestamp json other limitPerReq totalLimit := by
  rw [paginateBackwards, paginateBackwards,
    paginateLoop_congr same within totalLimit maxRequests (by simp [Walk.initial])]

end Loop

section Upstream
variable {R K : Type} [DecidableEq K]

/-- The page an upstream with the records `H` answers with. -/
def page (timestamp : R → ℤ) (H : List R) (current : Option ℤ) (n : ℕ) : List R :=
  (current.elim H fun t => upTo timestamp t H).rtake n

/-- The records of an upstream: ascending, of positive times, and told apart by
their JSON text. -/
structure Archive (timestamp : R → ℤ) (json : R → K) (H : List R) : Prop where
  ascending : Ascending timestamp H
  positive : ∀ r ∈ H, 0 < timestamp r
  distinct : (H.map json).Nodup

/-- Every request is answered with the page or fails in a way that the loop
catches. -/
def Serves (timestamp : R → ℤ) (H : List R)
    (fetch : ℕ → Option ℤ → ℕ → Except FetchError (List R)) : Prop :=
  ∀ i current n, fetch i current n = .ok (page timestamp H current n) ∨
    ∃ e, e.stopsPagination = true ∧ fetch i current n = .error e

/-- No request fails. -/
def ServesAll (timestamp : R → ℤ) (H : List R)
    (fetch : ℕ → Option ℤ → ℕ → Except FetchError (List R)) : Prop :=
  ∀ i current n, fetch i current n = .ok (page timestamp H current n)

variable {timestamp : R → ℤ} {json : R → K} {H older newer : List R}

theorem ServesAll.serves {fetch : ℕ → Option ℤ → ℕ → Except FetchError (List R)}
    (answers : ServesAll timestamp H fetch) : Serves timestamp H fetch :=
  fun i current n => .inl (answers i current n)

/-- Known records are dropped, and new ones are kept in their order. -/
theorem takeUnseen_append {fresh known : List R} {seen : Finset K}
    (distinct : (fresh.map json).Nodup) (new : ∀ r ∈ fresh, json r ∉ seen)
    (old : ∀ r ∈ known, json r ∈ seen) :
    takeUnseen json (fresh ++ known) seen = (fresh, seen ∪ (fresh.map json).toFinset) := by
  induction fresh generalizing seen with
  | nil =>
    induction known with
    | nil => simp [takeUnseen]
    | cons x rest ih =>
      have present : json x ∈ seen := old x List.mem_cons_self
      simpa [takeUnseen, present] using ih fun r member => old r (List.mem_cons_of_mem x member)
  | cons x rest ih =>
    have split := List.nodup_cons.mp distinct
    have absent : json x ∉ seen := new x List.mem_cons_self
    have stillNew : ∀ r ∈ rest, json r ∉ insert (json x) seen := by
      intro r member known
      rcases Finset.mem_insert.mp known with same | before
      · exact split.1 (same ▸ List.mem_map_of_mem member)
      · exact new r (List.mem_cons_of_mem x member) before
    have later := ih split.2 stillNew fun r member => Finset.mem_insert_of_mem (old r member)
    simp only [takeUnseen, List.cons_append, absent, if_false, later, List.map_cons,
      List.toFinset_cons, Finset.insert_union, Finset.union_insert]

/-- The known records that share the time of the oldest of them. -/
def tied (timestamp : R → ℤ) (newer : List R) : List R :=
  newer.head?.elim [] fun first => upTo timestamp (timestamp first) newer

theorem tied_sublist (timestamp : R → ℤ) (newer : List R) :
    (tied timestamp newer).Sublist newer := by
  cases newer with
  | nil => exact List.Sublist.refl _
  | cons first rest => exact upTo_sublist _ _ _

theorem time_of_mem_tied (ascending : Ascending timestamp newer) {first r : R}
    (head : newer.head? = some first) (member : r ∈ tied timestamp newer) :
    timestamp r = timestamp first := by
  rw [tied, head] at member
  exact ascending.time_of_mem_upTo head member

/-- The page that ends at the oldest known record: what is older, then the
records that share its time. -/
theorem page_joins (ascending : Ascending timestamp (older ++ newer)) (n : ℕ) :
    page timestamp (older ++ newer) (newer.head?.map timestamp) n =
      older.rtake (n - (tied timestamp newer).length) ++ (tied timestamp newer).rtake n := by
  cases newer with
  | nil => simp [page, tied]
  | cons first rest =>
    simp only [page, tied, List.head?_cons, Option.map_some, Option.elim_some]
    rw [ascending.upTo_head rfl, rtake_append]

/-- The records gathered so far, oldest first, are a suffix of the archive. -/
structure Gathered (json : R → K) (H : List R) (walk : Walk R K) (newer : List R) : Prop where
  part : newer <:+ H
  chunks : walk.chunks.reverse.flatten = newer
  seen : walk.seen = (newer.map json).toFinset
  collected : walk.collected = newer.length

/-- Of a page that joins the records gathered so far, only these are known. -/
theorem Gathered.unseen {fresh ties : List R} {walk : Walk R K}
    (archive : Archive timestamp json (older ++ newer))
    (gathered : Gathered json (older ++ newer) walk newer) (part : fresh <:+ older)
    (known : ties.Sublist newer) :
    takeUnseen json (fresh ++ ties) walk.seen =
      (fresh, walk.seen ∪ (fresh.map json).toFinset) := by
  have parts := List.nodup_append.mp (List.map_append ▸ archive.distinct)
  refine takeUnseen_append (parts.1.sublist (part.sublist.map json)) ?_ ?_
  · intro r member
    simp only [gathered.seen, List.mem_toFinset]
    intro again
    exact parts.2.2 _ (List.mem_map_of_mem (part.mem member)) _ again rfl
  · intro r member
    simp only [gathered.seen, List.mem_toFinset]
    exact List.mem_map_of_mem (known.mem member)

/-- New records join at the old end. -/
theorem Gathered.absorb {fresh : List R} {walk : Walk R K}
    (gathered : Gathered json (older ++ newer) walk newer) (part : fresh <:+ older)
    (currentEnd : Option ℤ) :
    Gathered json (older ++ newer)
      ⟨walk.chunks ++ [fresh], walk.seen ∪ (fresh.map json).toFinset,
        walk.collected + fresh.length, currentEnd, walk.reqCount + 1⟩ (fresh ++ newer) where
  part := by
    obtain ⟨skipped, joined⟩ := part
    exact ⟨skipped, by rw [← joined, List.append_assoc]⟩
  chunks := by simp [gathered.chunks]
  seen := by simp [gathered.seen, Finset.union_comm]
  collected := by simp [gathered.collected, Nat.add_comm]

/-- What one answered request does: `ties` are the known records on the page. -/
structure PageTaken (timestamp : R → ℤ) (json : R → K) (n : ℕ) (older newer ties : List R)
    (walk : Walk R K) (turn : Turn R K) : Prop where
  known : ties.Sublist newer
  sameTime : ∀ first r, newer.head? = some first → r ∈ ties → timestamp r = timestamp first
  outcome :
    (older.rtake (n - ties.length) = [] ∧ turn = .stop walk) ∨
    (turn = .stop walk ∧ ∃ fresh first, (older.rtake (n - ties.length)).head? = some fresh ∧
      newer.head? = some first ∧ timestamp first ≤ timestamp fresh) ∨
    (turn = .next walk ∧
      walk.currentEnd = (older.rtake (n - ties.length) ++ newer).head?.map timestamp)

/-- A page that joins the records gathered so far: `ties` are those of it that are
known. -/
theorem paginateTurn_joined {fetch : ℕ → Option ℤ → ℕ → Except FetchError (List R)} {n : ℕ}
    {walk : Walk R K} {fresh ties : List R} (archive : Archive timestamp json (older ++ newer))
    (gathered : Gathered json (older ++ newer) walk newer)
    (part : fresh <:+ older) (known : ties.Sublist newer)
    (answered : fetch walk.reqCount walk.currentEnd n = .ok (fresh ++ ties)) :
    ∃ walk' turn, paginateTurn timestamp json fetch n walk = .ok turn ∧
      Gathered json (older ++ newer) walk' (fresh ++ newer) ∧
      ((fresh = [] ∧ turn = .stop walk') ∨
        ∃ first, fresh.head? = some first ∧
          (((∃ t ∈ walk.currentEnd, t ≤ timestamp first) ∧ turn = .stop walk') ∨
            ((∀ t ∈ walk.currentEnd, timestamp first < t) ∧ turn = .next walk' ∧
              walk'.currentEnd = some (timestamp first)))) := by
  have sorted : Ascending timestamp (fresh ++ ties) :=
    List.Pairwise.sublist (part.sublist.append known) archive.ascending
  have filtered := gathered.unseen archive part known
  cases fresh with
  | nil =>
    have unchanged : Gathered json (older ++ newer) walk ([] ++ newer) := by simpa using gathered
    refine ⟨walk, .stop walk, ?_, unchanged, .inl ⟨rfl, rfl⟩⟩
    simp only [paginateTurn, answered, sorted.sortByTime_eq]
    cases ties with
    | nil => rfl
    | cons first rest =>
      simp only [List.map_nil, List.toFinset_nil, Finset.union_empty,
        List.nil_append] at filtered ⊢
      simp only [filtered, List.isEmpty_nil, if_true]
  | cons first rest =>
    have later : 0 < timestamp first :=
      archive.positive first (List.mem_append_left _ (part.mem List.mem_cons_self))
    simp only [List.cons_append] at sorted filtered answered
    by_cases closed : walk.currentEnd.any (fun currentEnd => currentEnd ≤ timestamp first) = true
    · refine ⟨_, .stop _, ?_, gathered.absorb part walk.currentEnd,
        .inr ⟨first, rfl, .inl ⟨?_, rfl⟩⟩⟩
      · simp only [paginateTurn, answered, sorted.sortByTime_eq, filtered, List.isEmpty_cons,
          closed, or_true, if_true]
        rfl
      · obtain ⟨t, own, early⟩ := (Option.any_eq_true _ _).mp closed
        exact ⟨t, own, of_decide_eq_true early⟩
    · refine ⟨_, .next _, ?_, gathered.absorb part (some (timestamp first)),
        .inr ⟨first, rfl, .inr ⟨?_, rfl, rfl⟩⟩⟩
      · simp only [paginateTurn, answered, sorted.sortByTime_eq, filtered, List.isEmpty_cons,
          closed, not_le.mpr later]
        rfl
      · intro t own
        rw [Option.mem_def.mp own] at closed
        simpa using closed

theorem paginateTurn_page {fetch : ℕ → Option ℤ → ℕ → Except FetchError (List R)} {n : ℕ}
    {walk : Walk R K} (archive : Archive timestamp json (older ++ newer))
    (gathered : Gathered json (older ++ newer) walk newer)
    (atOldest : walk.currentEnd = newer.head?.map timestamp)
    (answered : fetch walk.reqCount walk.currentEnd n =
      .ok (page timestamp (older ++ newer) walk.currentEnd n)) :
    ∃ ties walk' turn, paginateTurn timestamp json fetch n walk = .ok turn ∧
      Gathered json (older ++ newer) walk' (older.rtake (n - ties.length) ++ newer) ∧
      PageTaken timestamp json n older newer ties walk' turn := by
  have known := tied_sublist timestamp newer
  have sameTime := fun first r head member =>
    @time_of_mem_tied _ timestamp newer (archive.ascending.suffix (List.suffix_append _ _))
      first r head member
  rw [atOldest, page_joins archive.ascending, ← atOldest] at answered
  obtain ⟨walk', turn, took, grown, outcome⟩ := paginateTurn_joined archive gathered
    (rtake_suffix older (n - (tied timestamp newer).length))
    ((rtake_suffix _ n).sublist.trans known) answered
  refine ⟨tied timestamp newer, walk', turn, took, grown, known, sameTime, ?_⟩
  rcases outcome with ⟨nothing, stopped⟩ | ⟨first, head, outcome⟩
  · exact .inl ⟨nothing, stopped⟩
  · rcases outcome with ⟨⟨t, own, closed⟩, stopped⟩ | ⟨-, went, oldest⟩
    · rw [atOldest] at own
      obtain ⟨last, newest, rfl⟩ := Option.mem_map.mp own
      exact .inr (.inl ⟨stopped, first, last, head, newest, closed⟩)
    · refine .inr (.inr ⟨went, ?_⟩)
      rw [oldest, List.head?_append, head]
      rfl

/-- The loop, and what it gathers: records only ever join at the old end. -/
theorem paginateLoop_gathers {fetch : ℕ → Option ℤ → ℕ → Except FetchError (List R)} (n total : ℕ)
    (archive : Archive timestamp json H) (serves : Serves timestamp H fetch) (left : ℕ)
    {walk : Walk R K} (gathered : Gathered json H walk newer)
    (atOldest : walk.currentEnd = newer.head?.map timestamp) :
    ∃ walk' newer', paginateLoop timestamp json fetch n total left walk = .ok walk' ∧
      Gathered json H walk' newer' ∧ newer <:+ newer' := by
  induction left generalizing walk newer with
  | zero => exact ⟨walk, newer, rfl, gathered, List.suffix_refl _⟩
  | succ left ih =>
    by_cases wanted : walk.collected < total
    · rcases serves walk.reqCount walk.currentEnd n with answered | ⟨e, caught, failed⟩
      · obtain ⟨older, rfl⟩ := gathered.part
        obtain ⟨ties, walk', turn, took, grown, taken⟩ :=
          paginateTurn_page archive gathered atOldest answered
        rcases taken.outcome with ⟨_, rfl⟩ | ⟨rfl, _⟩ | ⟨rfl, oldest⟩
        · exact ⟨walk', _, by simp [paginateLoop, wanted, took], grown, List.suffix_append _ _⟩
        · exact ⟨walk', _, by simp [paginateLoop, wanted, took], grown, List.suffix_append _ _⟩
        · obtain ⟨last, newer', ran, kept, part⟩ := ih grown oldest
          exact ⟨last, newer', by simp [paginateLoop, wanted, took, ran], kept,
            (List.suffix_append _ _).trans part⟩
      · have stopped : paginateTurn timestamp json fetch n walk = .ok (.stop walk) := by
          simp [paginateTurn, failed, caught]
        exact ⟨walk, newer, by simp [paginateLoop, wanted, stopped], gathered, List.suffix_refl _⟩
    · exact ⟨walk, newer, by simp [paginateLoop, wanted], gathered, List.suffix_refl _⟩

omit [DecidableEq K] in
/-- At most `m` known records share the page's end. -/
theorem PageTaken.ties_le {n m : ℕ} {ties : List R} {walk : Walk R K} {turn : Turn R K}
    (taken : PageTaken timestamp json n older newer ties walk turn)
    (shared : ∀ t, (older ++ newer).countP (fun r => timestamp r = t) ≤ m) : ties.length ≤ m := by
  cases oldest : newer.head? with
  | none =>
    have none : newer = [] := List.head?_eq_none_iff.mp oldest
    have : ties = [] := List.sublist_nil.mp (none ▸ taken.known)
    simp [this]
  | some first =>
    have all : ties.countP (fun r => timestamp r = timestamp first) = ties.length :=
      List.countP_eq_length.mpr fun r member => by simpa using taken.sameTime first r oldest member
    rw [← all]
    exact (taken.known.trans (List.sublist_append_right _ _)).countP_le.trans (shared _)

/-- When fewer records share a time than fit on a page, a page that begins no
earlier than the oldest known record has all that is older. -/
theorem page_last {ties : List R} {n : ℕ} (ascending : Ascending timestamp (older ++ newer))
    (known : ties.Sublist newer)
    (sameTime : ∀ first r, newer.head? = some first → r ∈ ties → timestamp r = timestamp first)
    (few : ∀ t, (older ++ newer).countP (fun r => timestamp r = t) < n)
    (late : ∀ r ∈ older.rtake (n - ties.length), ∃ s ∈ newer, timestamp s ≤ timestamp r) :
    older.rtake (n - ties.length) = older := by
  refine rtake_of_length_le (Nat.le_of_not_lt fun more => ?_)
  have size := length_rtake older (n - ties.length)
  have part := (rtake_suffix older (n - ties.length)).sublist.append known
  cases oldest : newer.head? with
  | none =>
    obtain rfl := List.head?_eq_none_iff.mp oldest
    obtain rfl := List.sublist_nil.mp known
    have none : older.rtake (n - ([] : List R).length) = [] :=
      List.eq_nil_iff_forall_not_mem.mpr fun r member => by
        obtain ⟨s, own, -⟩ := late r member
        cases own
    have room := few 0
    rw [none] at size
    simp only [List.length_nil] at size more
    omega
  | some first =>
    -- the whole page carries the time of the oldest known record
    have onTime : ∀ r ∈ older.rtake (n - ties.length) ++ ties, timestamp r = timestamp first := by
      intro r member
      rcases List.mem_append.mp member with before | again
      · obtain ⟨s, own, after⟩ := late r before
        exact le_antisymm
          (ascending.le_of_append ((rtake_suffix _ _).mem before) (List.mem_of_mem_head? oldest))
          (((ascending.suffix (List.suffix_append _ _)).head_le oldest own).trans after)
      · exact sameTime first r oldest again
    have whole := List.countP_eq_length.mpr fun r member => decide_eq_true (onTime r member)
    have bound := part.countP_le.trans_lt (few (timestamp first))
    rw [whole, List.length_append] at bound
    omega

omit [DecidableEq K] in
/-- A loop that stops on an answered request has everything. -/
theorem PageTaken.all_of_stop {n m : ℕ} {ties : List R} {walk : Walk R K}
    (archive : Archive timestamp json (older ++ newer))
    (taken : PageTaken timestamp json n older newer ties walk (.stop walk)) (fits : m < n)
    (shared : ∀ t, (older ++ newer).countP (fun r => timestamp r = t) ≤ m) :
    older.rtake (n - ties.length) = older := by
  refine page_last archive.ascending taken.known taken.sameTime
    (fun t => (shared t).trans_lt fits) fun r member => ?_
  rcases taken.outcome with ⟨nothing, _⟩ | ⟨_, fresh, first, newest, oldest, closed⟩ | ⟨next, _⟩
  · rw [nothing] at member
    cases member
  · have sorted : Ascending timestamp (older.rtake (n - ties.length)) :=
      ((List.pairwise_append.mp archive.ascending).1).sublist (rtake_suffix older _).sublist
    exact ⟨first, List.mem_of_mem_head? oldest, closed.trans (sorted.head_le newest member)⟩
  · cases next

/-- Without a failed page, the loop ends with everything, with enough, or with
its cap of pages, each of which brought at least `n - m` records. -/
theorem paginateLoop_complete {fetch : ℕ → Option ℤ → ℕ → Except FetchError (List R)}
    {n m : ℕ} (total : ℕ) (archive : Archive timestamp json H)
    (answers : ServesAll timestamp H fetch) (fits : m < n)
    (shared : ∀ t, H.countP (fun r => timestamp r = t) ≤ m) (left : ℕ)
    {walk : Walk R K} (gathered : Gathered json H walk newer)
    (atOldest : walk.currentEnd = newer.head?.map timestamp) :
    ∃ walk' newer', paginateLoop timestamp json fetch n total left walk = .ok walk' ∧
      Gathered json H walk' newer' ∧
      (newer' = H ∨ total ≤ newer'.length ∨ newer.length + left * (n - m) ≤ newer'.length) := by
  induction left generalizing walk newer with
  | zero => exact ⟨walk, newer, rfl, gathered, .inr (.inr (by simp))⟩
  | succ left ih =>
    by_cases wanted : walk.collected < total
    · obtain ⟨older, rfl⟩ := gathered.part
      obtain ⟨ties, walk', turn, took, grown, taken⟩ :=
        paginateTurn_page archive gathered atOldest (answers _ _ n)
      have few := taken.ties_le shared
      cases turn with
      | stop walk'' =>
        obtain rfl : walk'' = walk' := by
          rcases taken.outcome with ⟨_, same⟩ | ⟨same, _⟩ | ⟨same, _⟩ <;> cases same
          · rfl
          · rfl
        have all := taken.all_of_stop archive fits shared
        exact ⟨walk'', _, by simp [paginateLoop, wanted, took], grown, .inl (by rw [all])⟩
      | next walk'' =>
        obtain ⟨rfl, oldest⟩ : walk'' = walk' ∧ walk'.currentEnd =
            (older.rtake (n - ties.length) ++ newer).head?.map timestamp := by
          rcases taken.outcome with ⟨_, same⟩ | ⟨same, _⟩ | ⟨same, oldest⟩ <;> cases same
          exact ⟨rfl, oldest⟩
        obtain ⟨last, newer', ran, kept, reached⟩ := ih grown oldest
        refine ⟨last, newer', by simp [paginateLoop, wanted, took, ran], kept, ?_⟩
        rcases reached with all | enough | pages
        · exact .inl all
        · exact .inr (.inl enough)
        · rw [List.length_append, length_rtake] at pages
          by_cases room : n - m ≤ older.length
          · rw [Nat.succ_mul]
            exact .inr (.inr (by omega))
          · have whole : newer'.length = (older ++ newer).length := by
              have upper := kept.part.length_le
              rw [List.length_append] at upper ⊢
              omega
            exact .inl (kept.part.eq_of_length whole)
    · exact ⟨walk, newer, by simp [paginateLoop, wanted], gathered,
        .inr (.inl (gathered.collected ▸ Nat.le_of_not_lt wanted))⟩

theorem Gathered.initial : Gathered json H .initial [] :=
  ⟨List.nil_suffix, rfl, rfl, rfl⟩

/-- From the start the first page is all new, so one page reaches `n` records
and each further one `n - m` more. -/
theorem paginateLoop_fromStart {fetch : ℕ → Option ℤ → ℕ → Except FetchError (List R)} {n m : ℕ}
    (total : ℕ) (archive : Archive timestamp json H) (answers : ServesAll timestamp H fetch)
    (fits : m < n) (shared : ∀ t, H.countP (fun r => timestamp r = t) ≤ m) (left : ℕ) :
    ∃ walk' newer', paginateLoop timestamp json fetch n total (left + 1) .initial = .ok walk' ∧
      Gathered json H walk' newer' ∧
      (newer' = H ∨ total ≤ newer'.length ∨ n + left * (n - m) ≤ newer'.length) := by
  by_cases wanted : 0 < total
  · have split : H = H ++ [] := (List.append_nil H).symm
    have nothing : Gathered json (H ++ []) .initial [] := split ▸ .initial
    obtain ⟨ties, walk', turn, took, grown, taken⟩ := paginateTurn_page (n := n) (split ▸ archive)
      nothing rfl (by rw [← split]; exact answers _ _ n)
    have noTies : ties = [] := List.sublist_nil.mp taken.known
    subst noTies
    rw [← split, List.append_nil, List.length_nil, Nat.sub_zero] at grown
    have whole := length_rtake H n
    cases turn with
    | stop walk'' =>
      obtain rfl : walk'' = walk' := by
        rcases taken.outcome with ⟨_, same⟩ | ⟨same, _⟩ | ⟨same, _⟩ <;> cases same
        · rfl
        · rfl
      have all := taken.all_of_stop (split ▸ archive) fits (split ▸ shared)
      rw [List.length_nil, Nat.sub_zero] at all
      exact ⟨walk'', _, by rw [paginateLoop, if_pos (by exact wanted), took], grown, .inl all⟩
    | next walk'' =>
      obtain ⟨rfl, oldest⟩ : walk'' = walk' ∧
          walk'.currentEnd = (H.rtake n).head?.map timestamp := by
        rcases taken.outcome with ⟨_, same⟩ | ⟨same, _⟩ | ⟨same, oldest⟩ <;> cases same
        exact ⟨rfl, by simpa using oldest⟩
      obtain ⟨last, newer', ran, kept, reached⟩ :=
        paginateLoop_complete total archive answers fits shared left grown oldest
      refine ⟨last, newer', ?_, kept, ?_⟩
      · rw [paginateLoop, if_pos (by exact wanted), took]
        exact ran
      · rcases reached with all | enough | pages
        · exact .inl all
        · exact .inr (.inl enough)
        · by_cases room : n ≤ H.length
          · exact .inr (.inr (by omega))
          · have upper := kept.part.length_le
            exact .inl (kept.part.eq_of_length (by omega))
  · refine ⟨.initial, [], ?_, .initial, .inr (.inl (by simpa using wanted))⟩
    rw [paginateLoop, if_neg (by exact wanted)]

/-- The records returned are the newest of those gathered. -/
theorem Gathered.returned {total : ℕ} {walk : Walk R K} (archive : Archive timestamp json H)
    (gathered : Gathered json H walk newer) (some : 0 < total) :
    lastSlice total (sortByTime timestamp walk.chunks.reverse.flatten) = newer.rtake total := by
  rw [gathered.chunks, (archive.ascending.suffix gathered.part).sortByTime_eq, lastSlice,
    if_neg (Nat.ne_of_gt some)]

/-- Whatever fails, the answer is a suffix of the records; and it is the newest
`total` of them when nothing fails and the pages reach far enough. -/
theorem paginateBackwards_suffix {fetch : ℕ → Option ℤ → ℕ → Except FetchError (List R)}
    {n total : ℕ} (archive : Archive timestamp json H) (serves : Serves timestamp H fetch)
    (some : 0 < total) :
    ∃ out, paginateBackwards timestamp json fetch n total = .ok out ∧
      Ascending timestamp out ∧ out <:+ H ∧ out.length ≤ total ∧ out.Nodup ∧
      (ServesAll timestamp H fetch → ∀ m < n,
        (∀ t, H.countP (fun r => timestamp r = t) ≤ m) → total ≤ maxRequests * (n - m) →
        out = H.rtake total ∧ out.length = min total H.length) := by
  obtain ⟨walk, newer, ran, gathered, _⟩ := paginateLoop_gathers n total archive serves
    maxRequests .initial rfl
  have part : newer.rtake total <:+ H := (rtake_suffix newer total).trans gathered.part
  refine ⟨newer.rtake total, ?_, archive.ascending.suffix part, part, ?_,
    (archive.distinct.of_map json).sublist part.sublist, ?_⟩
  · simp [paginateBackwards, ran, Except.map, gathered.returned archive some]
  · rw [length_rtake]
    exact Nat.min_le_left _ _
  · intro answers m fits shared reach
    obtain ⟨last, gotten, again, kept, reached⟩ := paginateLoop_complete total archive answers
      fits shared maxRequests .initial rfl
    obtain rfl : walk = last := by simpa [ran] using again
    obtain rfl : newer = gotten := gathered.chunks.symm.trans kept.chunks
    suffices newest : newer.rtake total = H.rtake total from
      ⟨newest, by rw [newest, length_rtake]⟩
    obtain ⟨older, rfl⟩ := gathered.part
    have enough : newer = older ++ newer ∨ total ≤ newer.length := by
      rcases reached with all | enough | pages
      · exact .inl all
      · exact .inr enough
      · exact .inr (reach.trans (by simpa using pages))
    rcases enough with all | enough
    · rw [← all]
    · rw [rtake_append_of_le enough]

/-- The newest `total` records, when the pages reach them or everything. -/
theorem paginateBackwards_newest {fetch : ℕ → Option ℤ → ℕ → Except FetchError (List R)}
    {n m total : ℕ} (archive : Archive timestamp json H) (answers : ServesAll timestamp H fetch)
    (fits : m < n) (shared : ∀ t, H.countP (fun r => timestamp r = t) ≤ m) (some : 0 < total) :
    ∃ newer, newer <:+ H ∧ (H ≠ [] → newer ≠ []) ∧
      paginateBackwards timestamp json fetch n total = .ok (newer.rtake total) ∧
      (min total H.length ≤ n + 99 * (n - m) → newer.rtake total = H.rtake total) := by
  obtain ⟨walk, newer, ran, gathered, reached⟩ :=
    paginateLoop_fromStart total archive answers fits shared 99
  refine ⟨newer, gathered.part, ?_, ?_, ?_⟩
  · rintro more rfl
    have size := List.length_pos_of_ne_nil more
    rcases reached with all | enough | pages
    · exact more all.symm
    · rw [List.length_nil] at enough
      omega
    · rw [List.length_nil] at pages
      omega
  · simp [paginateBackwards, maxRequests, ran, Except.map, gathered.returned archive some]
  · intro reach
    obtain ⟨older, rfl⟩ := gathered.part
    rw [List.length_append] at reach
    by_cases enough : total ≤ newer.length
    · rw [rtake_append_of_le enough]
    · have all : older = [] := List.length_eq_zero_iff.mp (by
        rcases reached with all | enough' | pages
        · have size := congrArg List.length all
          rw [List.length_append] at size
          omega
        · exact absurd enough' enough
        · omega)
      rw [all, List.nil_append]

/-- Records of strictly ascending times, served in pages that end at a record or
have no end. -/
theorem paginateBackwards_strict [DecidableEq R] {fetch : Option ℤ → ℕ → Except FetchError (List R)}
    {n total : ℕ} (strict : H.Pairwise fun a b => timestamp a < timestamp b)
    (positive : ∀ r ∈ H, 0 < timestamp r)
    (answers : ∀ current, (∀ t ∈ current, ∃ r ∈ H, timestamp r = t) →
      fetch current n = .ok (page timestamp H current n))
    (fits : 1 < n) (some : 0 < total) :
    ∃ newer, newer <:+ H ∧ (H ≠ [] → newer ≠ []) ∧
      paginateBackwards timestamp id (fun _ => fetch) n total = .ok (newer.rtake total) ∧
      (min total H.length ≤ n + 99 * (n - 1) → newer.rtake total = H.rtake total) := by
  have distinct : (H.map timestamp).Nodup :=
    List.pairwise_map.mpr (strict.imp fun earlier => earlier.ne)
  have archive : Archive timestamp id H :=
    ⟨strict.imp fun earlier => earlier.le, positive, by simpa using List.Nodup.of_map _ distinct⟩
  have served : paginateBackwards timestamp id (fun _ => fetch) n total =
      paginateBackwards timestamp id (fun _ current n => .ok (page timestamp H current n)) n total :=
    paginateBackwards_congr (fun _ current ends => answers current ends)
      (fun _ current batch answered r member _ => by
        cases answered
        refine ⟨r, ?_, rfl⟩
        have inside := (rtake_suffix _ _).mem member
        cases current with
        | none => exact inside
        | some t => exact (List.mem_filter.mp inside).1) total
  rw [served]
  exact paginateBackwards_newest archive (fun _ _ _ => rfl) fits (countP_time_le_one strict) some

/-- A rejected first page ends the pagination like an early stop. -/
theorem paginateBackwards_rejected {fetch : ℕ → Option ℤ → ℕ → Except FetchError (List R)}
    {n : ℕ} {e : FetchError} (rejected : fetch 0 none n = .error e)
    (caught : e.stopsPagination = true) (total : ℕ) :
    paginateBackwards timestamp json fetch n total = .ok [] := by
  have stopped : paginateTurn timestamp json fetch n .initial = .ok (.stop .initial) := by
    rw [paginateTurn]
    simp only [Walk.initial, rejected, caught, if_true]
  have ran : paginateLoop timestamp json fetch n total maxRequests .initial = .ok .initial := by
    rw [maxRequests, paginateLoop, stopped]
    split <;> rfl
  rw [paginateBackwards, ran, Except.map]
  simp [Walk.initial, sortByTime, lastSlice, List.rtake]

/-- Two records share the time at a page edge. -/
theorem paginateBackwards_suffix_atTie :
    ∃ out, paginateBackwards Prod.fst id
        (fun _ current n => .ok (page Prod.fst [(10, 0), (20, 1), (20, 2), (30, 3)] current n))
        3 3 = .ok out ∧ out = [((20 : ℤ), (1 : ℕ)), (20, 2), (30, 3)] := by
  have archive : Archive Prod.fst id [((10 : ℤ), (0 : ℕ)), (20, 1), (20, 2), (30, 3)] :=
    ⟨by decide, by decide, by decide⟩
  have shared : ∀ t : ℤ, [((10 : ℤ), (0 : ℕ)), (20, 1), (20, 2), (30, 3)].countP
      (fun r => r.1 = t) ≤ 2 := by
    intro t
    simp only [List.countP_cons, List.countP_nil, decide_eq_true_eq]
    split_ifs <;> omega
  obtain ⟨out, ran, _, _, _, _, complete⟩ := paginateBackwards_suffix (n := 3) archive
    (ServesAll.serves fun _ _ _ => rfl) (by decide : 0 < 3)
  exact ⟨out, ran, (complete (fun _ _ _ => rfl) 2 (by decide) shared (by decide)).1⟩

/-- The second page fails: what the first brought is returned. -/
example : paginateBackwards Prod.fst id
    (fun i current n => if i = 1 then .error (.httpStatusError 500)
      else .ok (page Prod.fst [((10 : ℤ), (0 : ℕ)), (20, 1), (30, 2)] current n)) 2 5 =
      .ok [(20, 1), (30, 2)] := by
  decide +kernel

end Upstream
end ExchangeRouter.History
