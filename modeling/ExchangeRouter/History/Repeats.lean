import ExchangeRouter.History.Pagination
import ExchangeRouter.Lib.Newest

/-!
# Records that repeat

Backward pagination over records that may be equal.  The loop drops what it has
seen, so of equal records it keeps one.
-/
namespace ExchangeRouter.History
open Lib

section TakeUnseen
variable {R : Type} [DecidableEq R]

theorem takeUnseen_sublist (l : List R) (seen : Finset R) :
    (takeUnseen id l seen).1.Sublist l := by
  induction l generalizing seen with
  | nil => exact List.Sublist.refl _
  | cons x rest ih =>
    simp only [takeUnseen]
    split
    · exact (ih seen).cons x
    · exact (ih _).cons_cons x

theorem mem_takeUnseen (l : List R) (seen : Finset R) (r : R) :
    r ∈ (takeUnseen id l seen).1 ↔ r ∈ l ∧ r ∉ seen := by
  induction l generalizing seen with
  | nil => simp [takeUnseen]
  | cons x rest ih =>
    simp only [takeUnseen, id_eq]
    split
    · next known =>
      rw [ih, List.mem_cons]
      constructor
      · rintro ⟨member, new⟩
        exact ⟨.inr member, new⟩
      · rintro ⟨rfl | member, new⟩
        · exact absurd known new
        · exact ⟨member, new⟩
    · next absent =>
      simp only [List.mem_cons, ih, Finset.mem_insert, not_or]
      constructor
      · rintro (rfl | ⟨member, -, new⟩)
        · exact ⟨.inl rfl, absent⟩
        · exact ⟨.inr member, new⟩
      · rintro ⟨rfl | member, new⟩
        · exact .inl rfl
        · by_cases same : r = x
          · exact .inl same
          · exact .inr ⟨member, same, new⟩

theorem takeUnseen_nodup (l : List R) (seen : Finset R) : (takeUnseen id l seen).1.Nodup := by
  induction l generalizing seen with
  | nil => exact List.nodup_nil
  | cons x rest ih =>
    simp only [takeUnseen, id_eq]
    split
    · exact ih seen
    · refine List.nodup_cons.mpr ⟨fun member => ?_, ih _⟩
      exact ((mem_takeUnseen rest _ x).mp member).2 (Finset.mem_insert_self x seen)

theorem takeUnseen_seen (l : List R) (seen : Finset R) :
    (takeUnseen id l seen).2 = seen ∪ l.toFinset := by
  induction l generalizing seen with
  | nil => simp [takeUnseen]
  | cons x rest ih =>
    simp only [takeUnseen, id_eq]
    split
    · next known =>
      rw [ih, List.toFinset_cons, Finset.union_insert, Finset.insert_eq_of_mem]
      exact Finset.mem_union_left _ known
    · simp only [ih, List.toFinset_cons, Finset.insert_union, Finset.union_insert]

end TakeUnseen

section Repeats
variable {R : Type} (timestamp : R → ℤ) (n : ℕ) (H : List R)

/-- The records after a number of pages: a page has room for what is older than
the known records that share its end. -/
def reached : ℕ → List R
  | 0 => []
  | pages + 1 =>
    H.rtake ((reached pages).length + (n - (tied timestamp (reached pages)).length))

variable {timestamp n H} {older newer : List R}

theorem reached_suffix (timestamp : R → ℤ) (n : ℕ) (H : List R) (pages : ℕ) :
    reached timestamp n H pages <:+ H := by
  cases pages with
  | zero => exact List.nil_suffix
  | succ pages => exact rtake_suffix _ _

theorem reached_step {pages : ℕ} (known : reached timestamp n (older ++ newer) pages = newer) :
    reached timestamp n (older ++ newer) (pages + 1) =
      older.rtake (n - (tied timestamp newer).length) ++ newer := by
  rw [reached, known, rtake_append, Nat.add_sub_cancel_left,
    rtake_of_length_le (Nat.le_add_right newer.length _)]

theorem reached_mono (timestamp : R → ℤ) (n : ℕ) (H : List R) (pages more : ℕ) :
    reached timestamp n H pages <:+ reached timestamp n H (pages + more) := by
  induction more with
  | zero => exact List.suffix_refl _
  | succ more ih =>
    obtain ⟨older, split⟩ := reached_suffix timestamp n H (pages + more)
    have step := @reached_step _ timestamp n older (reached timestamp n H (pages + more))
      (pages + more) (by rw [split])
    rw [split] at step
    exact ih.trans ⟨_, step.symm⟩

section Loop
variable [DecidableEq R]

/-- The different records of those reached so far. -/
structure Collected (timestamp : R → ℤ) (H : List R) (walk : Walk R R) (newer : List R) : Prop where
  part : newer <:+ H
  distinct : DistinctOf timestamp newer walk.chunks.reverse.flatten
  seen : walk.seen = newer.toFinset
  collected : walk.collected = walk.chunks.reverse.flatten.length

theorem Collected.initial : Collected timestamp H .initial [] :=
  ⟨List.nil_suffix, ⟨List.Pairwise.nil, List.nodup_nil, fun _ => Iff.rfl⟩, rfl, rfl⟩

variable {fresh known batch : List R} {walk : Walk R R}
  {fetch : ℕ → Option ℤ → ℕ → Except FetchError (List R)}

/-- Of a page that joins the records reached so far, the unseen ones are older. -/
theorem Collected.joined (ascending : Ascending timestamp (older ++ newer))
    (collected : Collected timestamp (older ++ newer) walk newer) (part : fresh <:+ older)
    (tied : known.Sublist newer) (sorted : Ascending timestamp batch)
    (perm : batch.Perm (fresh ++ known)) :
    DistinctOf timestamp (fresh ++ newer)
      ((takeUnseen id batch walk.seen).1 ++ walk.chunks.reverse.flatten) := by
  have unseen : ∀ r, r ∈ (takeUnseen id batch walk.seen).1 ↔ r ∈ batch ∧ r ∉ newer := by
    intro r
    rw [mem_takeUnseen, collected.seen, List.mem_toFinset]
  have old : ∀ r ∈ batch, r ∉ newer → r ∈ fresh := by
    intro r member new
    rcases List.mem_append.mp (perm.mem_iff.mp member) with own | again
    · exact own
    · exact absurd (tied.mem again) new
  constructor
  · refine List.pairwise_append.mpr
      ⟨List.Pairwise.sublist (takeUnseen_sublist _ _) sorted, collected.distinct.ascending, ?_⟩
    intro a first b second
    obtain ⟨member, new⟩ := (unseen a).mp first
    exact ascending.le_of_append (part.mem (old a member new))
      ((collected.distinct.members b).mp second)
  · refine List.nodup_append.mpr ⟨takeUnseen_nodup _ _, collected.distinct.nodup, ?_⟩
    rintro a first b second rfl
    exact ((unseen a).mp first).2 ((collected.distinct.members a).mp second)
  · intro r
    rw [List.mem_append, List.mem_append, unseen, collected.distinct.members]
    constructor
    · rintro (⟨member, new⟩ | own)
      · exact .inl (old r member new)
      · exact .inr own
    · rintro (own | again)
      · by_cases seen : r ∈ newer
        · exact .inr seen
        · exact .inl ⟨perm.mem_iff.mpr (List.mem_append_left _ own), seen⟩
      · exact .inr again

theorem Collected.seen_joined (collected : Collected timestamp (older ++ newer) walk newer)
    (tied : known.Sublist newer) (perm : batch.Perm (fresh ++ known)) :
    (takeUnseen id batch walk.seen).2 = (fresh ++ newer).toFinset := by
  rw [takeUnseen_seen, collected.seen, List.toFinset_eq_of_perm _ _ perm]
  ext r
  simp only [Finset.mem_union, List.mem_toFinset, List.mem_append]
  constructor
  · rintro (own | own | again)
    · exact .inr own
    · exact .inl own
    · exact .inr (tied.mem again)
  · rintro (own | own)
    · exact .inr (.inl own)
    · exact .inl own

/-- The page is noted. -/
theorem Collected.absorb (ascending : Ascending timestamp (older ++ newer))
    (collected : Collected timestamp (older ++ newer) walk newer) (part : fresh <:+ older)
    (tied : known.Sublist newer) (sorted : Ascending timestamp batch)
    (perm : batch.Perm (fresh ++ known)) (currentEnd : Option ℤ) :
    Collected timestamp (older ++ newer)
      ⟨walk.chunks ++ [(takeUnseen id batch walk.seen).1], (takeUnseen id batch walk.seen).2,
        walk.collected + (takeUnseen id batch walk.seen).1.length, currentEnd, walk.reqCount + 1⟩
      (fresh ++ newer) where
  part := by
    obtain ⟨skipped, split⟩ := part
    exact ⟨skipped, by rw [← split, List.append_assoc]⟩
  distinct := by simpa using collected.joined ascending part tied sorted perm
  seen := collected.seen_joined tied perm
  collected := by simp [collected.collected, Nat.add_comm]

/-- A page without an unseen record has nothing but repeats. -/
theorem Collected.all_seen (collected : Collected timestamp H walk newer)
    (nothing : (takeUnseen id batch walk.seen).1 = []) {r : R} (member : r ∈ batch) :
    r ∈ newer := by
  by_contra new
  have unseen : r ∈ (takeUnseen id batch walk.seen).1 := by
    rw [mem_takeUnseen, collected.seen, List.mem_toFinset]
    exact ⟨member, new⟩
  rw [nothing] at unseen
  cases unseen

/-- A page with an unseen record begins at the time of the oldest one reached. -/
theorem Collected.begins (ascending : Ascending timestamp (older ++ newer))
    (collected : Collected timestamp (older ++ newer) walk newer) (part : fresh <:+ older)
    (tied : known.Sublist newer) (sorted : Ascending timestamp batch)
    (perm : batch.Perm (fresh ++ known)) (some' : (takeUnseen id batch walk.seen).1 ≠ []) :
    batch.head?.map timestamp = (fresh ++ newer).head?.map timestamp := by
  obtain ⟨new, member⟩ := List.exists_mem_of_ne_nil _ some'
  rw [mem_takeUnseen, collected.seen, List.mem_toFinset] at member
  cases fresh with
  | nil => exact absurd (tied.mem (perm.mem_iff.mp member.1)) member.2
  | cons oldest rest =>
    have page : Ascending timestamp (oldest :: rest ++ known) :=
      List.Pairwise.sublist (part.sublist.append tied) ascending
    rw [← List.head?_map, sorted.times_eq page perm]
    rfl

/-- One answered request. -/
theorem paginateTurn_repeats (ascending : Ascending timestamp (older ++ newer))
    (positive : ∀ r ∈ older ++ newer, 0 < timestamp r)
    (few : ∀ t, (older ++ newer).countP (fun r => timestamp r = t) < n)
    (collected : Collected timestamp (older ++ newer) walk newer)
    (atOldest : walk.currentEnd = newer.head?.map timestamp)
    (answered : fetch walk.reqCount walk.currentEnd n = .ok batch)
    (perm : batch.Perm (page timestamp (older ++ newer) walk.currentEnd n)) :
    ∃ walk' turn, paginateTurn timestamp id fetch n walk = .ok turn ∧
      Collected timestamp (older ++ newer) walk'
        (older.rtake (n - (tied timestamp newer).length) ++ newer) ∧
      ((turn = .stop walk' ∧ older.rtake (n - (tied timestamp newer).length) = older) ∨
        (turn = .next walk' ∧ walk'.currentEnd =
          (older.rtake (n - (tied timestamp newer).length) ++ newer).head?.map timestamp)) := by
  have part := rtake_suffix older (n - (tied timestamp newer).length)
  have known : ((tied timestamp newer).rtake n).Sublist newer :=
    (rtake_suffix _ n).sublist.trans (tied_sublist timestamp newer)
  have last := page_last ascending (tied_sublist timestamp newer)
    (fun first r head => time_of_mem_tied (ascending.suffix (List.suffix_append _ _)) head) few
  rw [atOldest, page_joins ascending] at perm
  generalize older.rtake (n - (tied timestamp newer).length) = fresh at part perm last ⊢
  have sorted := sortByTime_ascending timestamp batch
  replace perm : (sortByTime timestamp batch).Perm (fresh ++ (tied timestamp newer).rtake n) :=
    (List.perm_insertionSort _ batch).trans perm
  unfold paginateTurn
  simp only [answered]
  cases shape : sortByTime timestamp batch with
  | nil =>
    rw [shape] at perm
    obtain ⟨rfl, -⟩ := List.append_eq_nil_iff.mp perm.symm.eq_nil
    exact ⟨walk, _, rfl, collected, .inl ⟨rfl, last (fun r own => nomatch own)⟩⟩
  | cons first rest =>
    rw [shape] at sorted perm
    have inside : ∀ r ∈ fresh, r ∈ first :: rest :=
      fun r own => perm.mem_iff.mpr (List.mem_append_left _ own)
    have grown := collected.absorb ascending part known sorted perm
    by_cases nothing : (takeUnseen id (first :: rest) walk.seen).1 = []
    · have same : (walk.chunks ++ [[]]).reverse.flatten = walk.chunks.reverse.flatten := by simp
      obtain ⟨whole, distinct, seen, -⟩ := grown walk.currentEnd
      rw [nothing, same] at distinct
      simp only [nothing, List.isEmpty_nil, if_true]
      exact ⟨{ walk with seen := (takeUnseen id (first :: rest) walk.seen).2 }, _, rfl,
        ⟨whole, distinct, seen, collected.collected⟩, .inl ⟨rfl, last fun r own =>
          ⟨r, collected.all_seen nothing (inside r own), le_rfl⟩⟩⟩
    · have later : 0 < timestamp first := by
        refine positive first ((part.sublist.append (List.Sublist.refl newer)).mem ?_)
        rcases List.mem_append.mp (perm.mem_iff.mp List.mem_cons_self) with own | again
        · exact List.mem_append_left _ own
        · exact List.mem_append_right _ (known.mem again)
      simp only [List.isEmpty_iff, nothing, if_false]
      by_cases closed : walk.currentEnd.any (fun currentEnd => currentEnd ≤ timestamp first) = true
      · rw [if_pos (.inr closed)]
        refine ⟨_, _, rfl, grown _, .inl ⟨rfl, last fun r own => ?_⟩⟩
        obtain ⟨t, ends, early⟩ := (Option.any_eq_true _ _).mp closed
        rw [atOldest] at ends
        obtain ⟨oldest, head, rfl⟩ := Option.mem_map.mp ends
        exact ⟨oldest, List.mem_of_mem_head? head,
          (of_decide_eq_true early).trans (sorted.head_le rfl (inside r own))⟩
      · rw [if_neg (by simp [closed, later])]
        exact ⟨_, _, rfl, grown _, .inr ⟨rfl,
          collected.begins ascending part known sorted perm nothing⟩⟩

/-- Pages that end at a record, or have no end, are answered in some order. -/
def ServesSome (timestamp : R → ℤ) (n : ℕ) (H : List R)
    (fetch : ℕ → Option ℤ → ℕ → Except FetchError (List R)) : Prop :=
  ∀ i current, (∀ t ∈ current, ∃ r ∈ H, timestamp r = t) →
    ∃ batch, fetch i current n = .ok batch ∧ batch.Perm (page timestamp H current n)

/-- The loop ends with enough, or with all that its pages reach. -/
theorem paginateLoop_repeats (ascending : Ascending timestamp H)
    (positive : ∀ r ∈ H, 0 < timestamp r)
    (few : ∀ t, H.countP (fun r => timestamp r = t) < n) (answers : ServesSome timestamp n H fetch)
    (total left : ℕ) {walk : Walk R R} {pages : ℕ} (collected : Collected timestamp H walk newer)
    (atOldest : walk.currentEnd = newer.head?.map timestamp)
    (reaches : reached timestamp n H pages = newer) :
    ∃ walk' newer', paginateLoop timestamp id fetch n total left walk = .ok walk' ∧
      Collected timestamp H walk' newer' ∧ newer' <:+ reached timestamp n H (pages + left) ∧
      (total ≤ walk'.collected ∨ newer' = reached timestamp n H (pages + left)) := by
  induction left generalizing walk pages newer with
  | zero => exact ⟨walk, newer, rfl, collected, reaches ▸ List.suffix_refl _, .inr reaches.symm⟩
  | succ left ih =>
    by_cases wanted : walk.collected < total
    · obtain ⟨older, rfl⟩ := collected.part
      obtain ⟨batch, answered, perm⟩ := answers walk.reqCount walk.currentEnd (by
        intro t ends
        rw [atOldest] at ends
        obtain ⟨oldest, head, rfl⟩ := Option.mem_map.mp ends
        exact ⟨oldest, List.mem_append_right _ (List.mem_of_mem_head? head), rfl⟩)
      obtain ⟨walk', turn, took, grown, outcome⟩ :=
        paginateTurn_repeats ascending positive few collected atOldest answered perm
      have step := reached_step reaches
      rcases outcome with ⟨rfl, all⟩ | ⟨rfl, ends⟩
      · have more := reached_mono timestamp n (older ++ newer) (pages + 1) left
        rw [step, all, Nat.add_assoc, Nat.add_comm 1 left] at more
        have whole := (reached_suffix timestamp n _ _).eq_of_length_le more.length_le
        refine ⟨walk', _, by rw [paginateLoop, if_pos wanted, took], grown, ?_, .inr ?_⟩
        · rw [all]
          exact more
        · rw [all, whole]
      · obtain ⟨last, newer', ran, kept, outcome⟩ := ih grown ends step
        refine ⟨last, newer', by rw [paginateLoop, if_pos wanted, took]; exact ran, kept, ?_⟩
        rwa [Nat.add_assoc, Nat.add_comm 1 left] at outcome
    · exact ⟨walk, newer, by rw [paginateLoop, if_neg wanted], collected,
        reaches ▸ reached_mono timestamp n H pages (left + 1), .inl (not_lt.mp wanted)⟩

/-- Pagination returns the newest of the different records it comes to, which are
enough or all that a hundred pages reach. -/
theorem paginateBackwards_repeats {total : ℕ} (ascending : Ascending timestamp H)
    (positive : ∀ r ∈ H, 0 < timestamp r)
    (few : ∀ t, H.countP (fun r => timestamp r = t) < n) (answers : ServesSome timestamp n H fetch)
    (wanted : 0 < total) :
    ∃ newer distinct, newer <:+ reached timestamp n H maxRequests ∧
      DistinctOf timestamp newer distinct ∧
      paginateBackwards timestamp id fetch n total = .ok (distinct.rtake total) ∧
      (total ≤ distinct.length ∨ newer = reached timestamp n H maxRequests) := by
  obtain ⟨walk, newer, ran, collected, part, ended⟩ := @paginateLoop_repeats _ _ _ _ _ _ _ ascending
    positive few answers total maxRequests .initial 0 .initial rfl rfl
  rw [Nat.zero_add] at part ended
  refine ⟨newer, walk.chunks.reverse.flatten, part, collected.distinct, ?_, ?_⟩
  · rw [paginateBackwards, ran, Except.map, collected.distinct.ascending.sortByTime_eq, lastSlice,
      if_neg wanted.ne']
  · rwa [collected.collected] at ended

/-- Pagination returns the newest records exactly when these are told apart. -/
theorem paginateBackwards_newest_iff {total : ℕ} (ascending : Ascending timestamp H)
    (positive : ∀ r ∈ H, 0 < timestamp r)
    (few : ∀ t, H.countP (fun r => timestamp r = t) < n) (answers : ServesSome timestamp n H fetch)
    (wanted : 0 < total) :
    (∃ out, paginateBackwards timestamp id fetch n total = .ok out ∧
      NewestOf timestamp total H out) ↔
      ToldApart timestamp total H (reached timestamp n H maxRequests) := by
  obtain ⟨newer, distinct, part, differs, returned, ended⟩ :=
    paginateBackwards_repeats ascending positive few answers wanted
  constructor
  · rintro ⟨out, same, newest⟩
    cases returned.symm.trans same
    have taken := rtake_suffix distinct total
    exact newest.toldApart ascending (differs.nodup.sublist taken.sublist) fun s member =>
      part.mem ((differs.members s).mp (taken.mem member))
  · intro apart
    exact ⟨_, returned,
      differs.newestOf ascending (reached_suffix timestamp n H maxRequests) part ended apart⟩

end Loop
end Repeats
end ExchangeRouter.History
