import ExchangeRouter.History.Pagination

/-!
# Pages that are windows of time

Backward pagination over an upstream that answers with everything in a window
before the page's end.  The pages follow the records as long as no two of them
lie further apart than a window.
-/
namespace ExchangeRouter.History
open Lib

section Windows
variable {R : Type} (timestamp : R → ℤ) (lo : Option ℤ → ℤ) (H : List R)

/-- The page of the window that begins at `lo`. -/
def windowPage (current : Option ℤ) : List R :=
  since timestamp (lo current) (current.elim H fun t => upTo timestamp t H)

/-- The records after a number of pages, each ending at the oldest one so far. -/
def reach : ℕ → List R
  | 0 => []
  | pages + 1 => since timestamp (lo ((reach pages).head?.map timestamp)) H

/-- A window that ends at a record has it. -/
def EndsIn : Prop := ∀ r ∈ H, lo (some (timestamp r)) ≤ timestamp r

variable {timestamp lo H}

theorem reach_suffix (lo : Option ℤ → ℤ) (ascending : Ascending timestamp H) (pages : ℕ) :
    reach timestamp lo H pages <:+ H := by
  cases pages with
  | zero => exact List.nil_suffix
  | succ pages => exact ascending.since_suffix _

/-- The next page only adds older records. -/
theorem reach_step (ascending : Ascending timestamp H) (endsIn : EndsIn timestamp lo H) {pages : ℕ}
    {older : List R} (split : H = older ++ reach timestamp lo H pages) :
    reach timestamp lo H (pages + 1) =
      since timestamp (lo ((reach timestamp lo H pages).head?.map timestamp)) older ++
        reach timestamp lo H pages := by
  have late : since timestamp (lo ((reach timestamp lo H pages).head?.map timestamp))
      (reach timestamp lo H pages) = reach timestamp lo H pages := by
    refine since_eq_self fun r member => ?_
    have part := reach_suffix lo ascending pages
    cases shape : reach timestamp lo H pages with
    | nil => rw [shape] at member; cases member
    | cons first rest =>
      rw [shape] at member part
      exact (endsIn first (part.mem List.mem_cons_self)).trans
        ((ascending.suffix part).head_le rfl member)
  have cut := congrArg
    (since timestamp (lo ((reach timestamp lo H pages).head?.map timestamp))) split
  exact cut.trans ((since_append _ _ _ _).trans (congrArg _ late))

theorem reach_mono (ascending : Ascending timestamp H) (endsIn : EndsIn timestamp lo H)
    (pages more : ℕ) :
    reach timestamp lo H pages <:+ reach timestamp lo H (pages + more) := by
  induction more with
  | zero => exact List.suffix_refl _
  | succ more ih =>
    obtain ⟨older, split⟩ := reach_suffix lo ascending (pages + more)
    refine ih.trans ⟨_, (reach_step ascending endsIn split.symm).symm⟩

/-- A page that adds nothing is the last. -/
theorem reach_stable {pages : ℕ}
    (same : reach timestamp lo H (pages + 1) = reach timestamp lo H pages) (more : ℕ) :
    reach timestamp lo H (pages + more) = reach timestamp lo H pages := by
  induction more with
  | zero => rfl
  | succ more ih => rw [← Nat.add_assoc, reach, ih, ← reach, same]

section Loop
variable [DecidableEq R] {fetch : Option ℤ → ℕ → Except FetchError (List R)} {n total : ℕ}
  {older newer : List R}

omit [DecidableEq R] in
/-- The window below the oldest known record. -/
theorem windowPage_joins (strict : (older ++ newer).Pairwise fun a b => timestamp a < timestamp b)
    (endsIn : EndsIn timestamp lo (older ++ newer)) :
    ∃ ties, ties.Sublist newer ∧
      windowPage timestamp lo (older ++ newer) (newer.head?.map timestamp) =
        since timestamp (lo (newer.head?.map timestamp)) older ++ ties := by
  cases newer with
  | nil => exact ⟨[], List.Sublist.refl _, by rw [List.append_nil, List.append_nil]; rfl⟩
  | cons first rest =>
    have ascending : Ascending timestamp (older ++ first :: rest) :=
      strict.imp fun earlier => earlier.le
    have known : upTo timestamp (timestamp first) (older ++ first :: rest) = older ++ [first] := by
      have later : upTo timestamp (timestamp first) rest = [] :=
        upTo_eq_nil (List.pairwise_cons.mp (List.pairwise_append.mp strict).2.1).1
      have own : upTo timestamp (timestamp first) (first :: rest) = [first] :=
        (List.filter_cons_of_pos (by simp)).trans (congrArg (first :: ·) later)
      rw [ascending.upTo_head rfl, own]
    have own : since timestamp (lo (some (timestamp first))) [first] = [first] :=
      List.filter_cons_of_pos (decide_eq_true (endsIn first (by simp)))
    refine ⟨[first], List.singleton_sublist.mpr List.mem_cons_self, ?_⟩
    rw [windowPage, List.head?_cons, Option.map_some, Option.elim_some, known]
    exact (since_append _ _ _ _).trans (congrArg _ own)

omit [DecidableEq R] in
theorem mem_of_mem_windowPage {current : Option ℤ} {r : R}
    (member : r ∈ windowPage timestamp lo H current) : r ∈ H := by
  have inside := (List.mem_filter.mp member).1
  cases current with
  | none => exact inside
  | some t => exact (List.mem_filter.mp inside).1

/-- The loop follows the windows until they bring enough or nothing. -/
theorem paginateLoop_windows (strict : H.Pairwise fun a b => timestamp a < timestamp b)
    (positive : ∀ r ∈ H, 0 < timestamp r) (endsIn : EndsIn timestamp lo H)
    (answers : ∀ current, fetch current n = .ok (windowPage timestamp lo H current)) (left : ℕ)
    {walk : Walk R R} {pages : ℕ} (gathered : Gathered id H walk newer)
    (atOldest : walk.currentEnd = newer.head?.map timestamp)
    (reached : reach timestamp lo H pages = newer) :
    ∃ walk' newer', paginateLoop timestamp id (fun _ => fetch) n total left walk = .ok walk' ∧
      Gathered id H walk' newer' ∧
      newer'.rtake total = (reach timestamp lo H (pages + left)).rtake total := by
  have ascending : Ascending timestamp H := strict.imp fun earlier => earlier.le
  induction left generalizing walk pages newer with
  | zero => exact ⟨walk, _, rfl, gathered, by rw [Nat.add_zero, reached]⟩
  | succ left ih =>
    by_cases wanted : walk.collected < total
    · obtain ⟨older, rfl⟩ := gathered.part
      have distinct : ((older ++ newer).map timestamp).Nodup :=
        List.pairwise_map.mpr (strict.imp fun earlier => earlier.ne)
      have archive : Archive timestamp id (older ++ newer) :=
        ⟨ascending, positive, by rw [List.map_id]; exact List.Nodup.of_map _ distinct⟩
      obtain ⟨ties, known, joined⟩ := windowPage_joins strict endsIn
      have grown := reach_step ascending endsIn (congrArg (older ++ ·) reached.symm)
      rw [reached] at grown
      have part : since timestamp (lo (newer.head?.map timestamp)) older <:+ older :=
        Ascending.since_suffix (List.pairwise_append.mp ascending).1 _
      have answered := answers walk.currentEnd
      nth_rewrite 2 [atOldest] at answered
      rw [joined] at answered
      obtain ⟨walk', turn, took, kept, outcome⟩ :=
        @paginateTurn_joined _ _ _ _ _ _ _ (fun _ => fetch) n _ _ _ archive gathered part known
          answered
      rw [← grown] at kept
      rcases outcome with ⟨nothing, rfl⟩ | ⟨first, head, outcome⟩
      · refine ⟨walk', _, by rw [paginateLoop, if_pos wanted, took], kept, ?_⟩
        rw [nothing, List.nil_append] at grown
        rw [grown, reach_stable (grown.trans reached.symm), reached]
      · have fresh : first ∈ older := part.mem (List.mem_of_mem_head? head)
        rcases outcome with ⟨⟨t, own, late⟩, -⟩ | ⟨-, rfl, oldest⟩
        · rw [atOldest] at own
          obtain ⟨last, newest, rfl⟩ := Option.mem_map.mp own
          have earlier := (List.pairwise_append.mp strict).2.2 first fresh last
            (List.mem_of_mem_head? newest)
          omega
        · have ends : walk'.currentEnd =
              (reach timestamp lo (older ++ newer) (pages + 1)).head?.map timestamp := by
            rw [oldest, grown, List.head?_append, head]
            rfl
          obtain ⟨last, newer', ran, more, same⟩ := ih kept ends rfl
          refine ⟨last, newer', by rw [paginateLoop, if_pos wanted, took]; exact ran, more, ?_⟩
          rw [same, Nat.add_assoc, Nat.add_comm 1 left]
    · refine ⟨walk, _, by rw [paginateLoop, if_neg wanted], gathered, ?_⟩
      obtain ⟨before, split⟩ := reach_mono ascending endsIn pages (left + 1)
      rw [reached] at split
      rw [← split, rtake_append_of_le (gathered.collected ▸ not_lt.mp wanted)]

/-- Pagination returns the newest records that a hundred windows reach. -/
theorem paginateBackwards_windows (strict : H.Pairwise fun a b => timestamp a < timestamp b)
    (positive : ∀ r ∈ H, 0 < timestamp r) (endsIn : EndsIn timestamp lo H)
    (answers : ∀ current, (∀ t ∈ current, ∃ r ∈ H, timestamp r = t) →
      fetch current n = .ok (windowPage timestamp lo H current)) (wanted : 0 < total) :
    paginateBackwards timestamp id (fun _ => fetch) n total =
      .ok ((reach timestamp lo H maxRequests).rtake total) := by
  have served : paginateBackwards timestamp id (fun _ => fetch) n total =
      paginateBackwards timestamp id
        (fun _ current _ => .ok (windowPage timestamp lo H current)) n total :=
    paginateBackwards_congr (fun _ current ends => answers current ends)
      (fun _ current batch answered r member _ => by
        cases answered
        exact ⟨r, mem_of_mem_windowPage member, rfl⟩) total
  obtain ⟨walk, newer, ran, gathered, same⟩ := @paginateLoop_windows _ _ _ _ _
    (fun current _ => .ok (windowPage timestamp lo H current)) n total _ strict positive endsIn
    (fun _ => rfl) maxRequests _ 0 .initial rfl rfl
  have ascending : Ascending timestamp newer :=
    (strict.imp fun earlier => earlier.le).sublist gathered.part.sublist
  rw [served, paginateBackwards, ran, Except.map, gathered.chunks, ascending.sortByTime_eq,
    lastSlice, if_neg wanted.ne', same, Nat.zero_add]

/-- Requests that fail only cost older records. -/
theorem paginateBackwards_windows_suffix
    (strict : H.Pairwise fun a b => timestamp a < timestamp b)
    (positive : ∀ r ∈ H, 0 < timestamp r) (endsIn : EndsIn timestamp lo H)
    (answers : ∀ current, (∀ t ∈ current, ∃ r ∈ H, timestamp r = t) →
      fetch current n = .ok (windowPage timestamp lo H current) ∨
        ∃ e, e.stopsPagination = true ∧ fetch current n = .error e) (wanted : 0 < total) :
    ∃ out, paginateBackwards timestamp id (fun _ => fetch) n total = .ok out ∧ out <:+ H ∧
      out.length ≤ total := by
  have served : ∃ left ≤ maxRequests,
      paginateLoop timestamp id (fun _ => fetch) n total maxRequests .initial =
        paginateLoop timestamp id
          (fun _ current _ => .ok (windowPage timestamp lo H current)) n total left .initial :=
    paginateLoop_cut (fun _ current ends => answers current ends)
      (fun _ current batch answered r member _ => by
        cases answered
        exact ⟨r, mem_of_mem_windowPage member, rfl⟩) total maxRequests
      (fun t own => absurd own (Option.not_mem_none t))
  obtain ⟨left, -, cut⟩ := served
  obtain ⟨walk, newer, ran, gathered, -⟩ := @paginateLoop_windows _ _ _ _ _
    (fun current _ => .ok (windowPage timestamp lo H current)) n total _ strict positive endsIn
    (fun _ => rfl) left _ 0 .initial rfl rfl
  have ascending : Ascending timestamp newer :=
    (strict.imp fun earlier => earlier.le).sublist gathered.part.sublist
  refine ⟨newer.rtake total, ?_, (rtake_suffix _ _).trans gathered.part, ?_⟩
  · rw [paginateBackwards, cut, ran, Except.map, gathered.chunks, ascending.sortByTime_eq,
      lastSlice, if_neg wanted.ne']
  · rw [length_rtake]
    exact Nat.min_le_left _ _

end Loop

section Gaps
variable {width : ℤ} {total : ℕ}

/-- No two records, one after the other, are as far apart as a window is wide. -/
def Connected (timestamp : R → ℤ) (width : ℤ) (l : List R) : Prop :=
  l.IsChain fun a b => timestamp b < timestamp a + width

instance (width : ℤ) (l : List R) : Decidable (Connected timestamp width l) :=
  inferInstanceAs (Decidable (l.IsChain _))

/-- Windows that are this wide: the first one and those that end at a record. -/
structure Wide (timestamp : R → ℤ) (lo : Option ℤ → ℤ) (width : ℤ) (H : List R) : Prop where
  first : ∀ a ∈ H, ∀ b ∈ H, lo none ≤ timestamp a → timestamp b < timestamp a + width
  next : ∀ a ∈ H, ∀ b ∈ H, lo (some (timestamp b)) ≤ timestamp a ↔
    timestamp b < timestamp a + width

/-- What the windows reach is connected. -/
theorem reach_connected (ascending : Ascending timestamp H) (wide : Wide timestamp lo width H)
    (endsIn : EndsIn timestamp lo H) (pages : ℕ) :
    Connected timestamp width (reach timestamp lo H pages) := by
  induction pages with
  | zero => exact List.isChain_nil
  | succ pages ih =>
    obtain ⟨older, split⟩ := reach_suffix lo ascending pages
    rw [reach_step ascending endsIn split.symm]
    have inside : ∀ a ∈ since timestamp (lo ((reach timestamp lo H pages).head?.map timestamp))
        older, a ∈ H := fun a member => split ▸ List.mem_append_left _ (List.mem_filter.mp member).1
    refine List.isChain_append.mpr ⟨List.Pairwise.isChain ?_, ih, ?_⟩
    · refine List.pairwise_of_forall_mem_list fun a fresh b later => ?_
      have early := le_of_mem_since fresh
      cases oldest : (reach timestamp lo H pages).head? with
      | none =>
        rw [oldest] at early
        exact wide.first a (inside a fresh) b (inside b later) early
      | some o =>
        rw [oldest, Option.map_some] at early
        have known := List.mem_of_mem_head? oldest
        have near := (wide.next a (inside a fresh) o (split ▸ List.mem_append_right _ known)).mp early
        have before := Ascending.le_of_append (split ▸ ascending) (List.mem_filter.mp later).1 known
        omega
    · intro a last o oldest
      have fresh := List.mem_of_getLast? last
      have early := le_of_mem_since fresh
      rw [Option.mem_def.mp oldest, Option.map_some] at early
      exact (wide.next a (inside a fresh) o
        (split ▸ List.mem_append_right _ (List.mem_of_mem_head? oldest))).mp early

/-- The newest records are reached when the first window has the newest one and
the others are connected to it, if the walk is not cut short. -/
theorem reach_newest_iff (ascending : Ascending timestamp H) (wide : Wide timestamp lo width H)
    (endsIn : EndsIn timestamp lo H) {pages : ℕ}
    (ended : total ≤ (reach timestamp lo H pages).length ∨
      reach timestamp lo H (pages + 1) = reach timestamp lo H pages) :
    (reach timestamp lo H pages).rtake total = H.rtake total ↔
      (∀ newest ∈ (H.rtake total).getLast?, lo none ≤ timestamp newest) ∧
        Connected timestamp width (H.rtake total) := by
  obtain ⟨older, split⟩ := reach_suffix lo ascending pages
  constructor
  · intro same
    constructor
    · intro newest ends
      by_contra late
      have some' : H.rtake total ≠ [] := List.ne_nil_of_mem (List.mem_of_getLast? ends)
      have last : H.getLast? = some newest := by
        obtain ⟨before, whole⟩ := rtake_suffix H total
        rw [← whole, List.getLast?_append_of_ne_nil _ some']
        exact ends
      have nothing : reach timestamp lo H 1 = [] := since_eq_nil fun r member =>
        (ascending.le_last member last).trans_lt (not_le.mp late)
      have never : reach timestamp lo H (0 + pages) = [] := reach_stable nothing pages
      rw [Nat.zero_add] at never
      rw [← same, never] at some'
      exact some' List.drop_nil
    · rw [← same]
      exact List.IsChain.suffix (reach_connected ascending wide endsIn pages) (rtake_suffix _ _)
  · rintro ⟨recent, connected⟩
    by_cases enough : total ≤ (reach timestamp lo H pages).length
    · nth_rewrite 2 [← split]
      rw [rtake_append_of_le enough]
    · have stable := (ended.resolve_left enough).symm.trans
        (reach_step ascending endsIn split.symm)
      have nothing : since timestamp
          (lo ((reach timestamp lo H pages).head?.map timestamp)) older = [] := by
        simpa using stable
      cases shape : older.getLast? with
      | none => rw [List.getLast?_eq_none_iff.mp shape, List.nil_append] at split; rw [split]
      | some previous =>
        obtain ⟨before, rfl⟩ := List.getLast?_eq_some_iff.mp shape
        rw [List.append_assoc, List.singleton_append] at split
        have late : lo ((reach timestamp lo H pages).head?.map timestamp) ≤ timestamp previous := by
          have newest : (H.rtake total) = before.rtake (total -
              (previous :: reach timestamp lo H pages).length) ++
                previous :: reach timestamp lo H pages := by
            nth_rewrite 1 [← split]
            rw [rtake_append, rtake_of_length_le (l := previous :: reach timestamp lo H pages)]
            rw [List.length_cons]
            omega
          rw [newest] at recent connected
          cases known : reach timestamp lo H pages with
          | nil =>
            rw [known] at recent
            exact recent previous (by simp)
          | cons oldest rest =>
            rw [known] at connected
            have near := (List.isChain_cons_cons.mp connected.right_of_append).1
            have member : oldest ∈ H := (reach_suffix lo ascending pages).mem (by simp [known])
            exact (wide.next previous (split ▸ by simp) oldest member).mpr near
        have kept : previous ∈ since timestamp
            (lo ((reach timestamp lo H pages).head?.map timestamp)) (before ++ [previous]) :=
          List.mem_filter.mpr ⟨by simp, decide_eq_true late⟩
        rw [nothing] at kept
        cases kept

end Gaps

end Windows
end ExchangeRouter.History
