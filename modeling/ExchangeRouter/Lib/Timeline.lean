import Mathlib.Data.List.DropRight
import Mathlib.Data.List.Nodup
import Mathlib.Data.List.Sort
import Mathlib.Data.List.Chain
import Mathlib.Order.Basic
import Mathlib.Tactic.Ring

/-!
# Ascending timelines

Records in the order of their times.  A query answers with the newest records of
a prefix of the timeline, or with the oldest records of a window; what is known
of a timeline is a suffix of it.
-/
namespace ExchangeRouter.Lib

universe u v

variable {R : Type u}

section Newest

theorem length_rtake (l : List R) (n : ℕ) : (l.rtake n).length = min n l.length := by
  simp only [List.rtake, List.length_drop]
  omega

theorem rtake_suffix (l : List R) (n : ℕ) : l.rtake n <:+ l :=
  List.drop_suffix _ l

theorem rtake_of_length_le {l : List R} {n : ℕ} (short : l.length ≤ n) : l.rtake n = l := by
  simp [List.rtake, Nat.sub_eq_zero_of_le short]

theorem rtake_append (older newer : List R) (n : ℕ) :
    (older ++ newer).rtake n = older.rtake (n - newer.length) ++ newer.rtake n := by
  simp only [List.rtake_eq_reverse_take_reverse, List.reverse_append, List.take_append,
    List.length_reverse]

theorem rtake_append_of_le {older newer : List R} {n : ℕ} (within : n ≤ newer.length) :
    (older ++ newer).rtake n = newer.rtake n := by
  rw [rtake_append, Nat.sub_eq_zero_of_le within, List.rtake_zero, List.nil_append]

/-- The newest records are found in a newer part that has as many. -/
theorem rtake_suffix_iff {l newer : List R} (part : newer <:+ l) (n : ℕ) :
    newer.rtake n = l.rtake n ↔ min n l.length ≤ newer.length := by
  obtain ⟨older, rfl⟩ := part
  constructor
  · intro same
    have size := congrArg List.length same
    rw [length_rtake, length_rtake] at size
    omega
  · intro enough
    rw [List.length_append] at enough
    by_cases all : n ≤ newer.length
    · rw [rtake_append_of_le all]
    · have none : older = [] := List.length_eq_zero_iff.mp (by omega)
      rw [none, List.nil_append]

theorem map_rtake {R' : Type v} (f : R → R') (l : List R) (n : ℕ) :
    (l.map f).rtake n = (l.rtake n).map f := by
  simp only [List.rtake, List.length_map, List.map_drop]

end Newest

section Ascending
variable {T : Type v} [LinearOrder T] (time : R → T)

/-- Records in ascending order of time. -/
def Ascending (l : List R) : Prop := l.Pairwise fun a b => time a ≤ time b

instance (l : List R) : Decidable (Ascending time l) := inferInstanceAs (Decidable (l.Pairwise _))

/-- The stable sort by time. -/
def sortByTime (l : List R) : List R := l.insertionSort fun a b => time a ≤ time b

/-- The records not later than a given time. -/
def upTo (t : T) (l : List R) : List R := l.filter fun r => time r ≤ t

/-- The records not earlier than a given time. -/
def since (t : T) (l : List R) : List R := l.filter fun r => t ≤ time r

theorem since_append (t : T) (l l' : List R) :
    since time t (l ++ l') = since time t l ++ since time t l' := List.filter_append ..

theorem upTo_append (t : T) (l l' : List R) :
    upTo time t (l ++ l') = upTo time t l ++ upTo time t l' := List.filter_append ..

variable {time} {l older newer : List R}

theorem upTo_eq_self {t : T} (early : ∀ r ∈ l, time r ≤ t) : upTo time t l = l :=
  List.filter_eq_self.mpr fun r member => decide_eq_true (early r member)

theorem upTo_eq_nil {t : T} (late : ∀ r ∈ l, t < time r) : upTo time t l = [] :=
  List.filter_eq_nil_iff.mpr fun r member kept =>
    not_le.mpr (late r member) (of_decide_eq_true kept)

theorem since_eq_self {t : T} (late : ∀ r ∈ l, t ≤ time r) : since time t l = l :=
  List.filter_eq_self.mpr fun r member => decide_eq_true (late r member)

theorem since_eq_nil {t : T} (early : ∀ r ∈ l, time r < t) : since time t l = [] :=
  List.filter_eq_nil_iff.mpr fun r member kept =>
    not_le.mpr (early r member) (of_decide_eq_true kept)

theorem Ascending.suffix (ascending : Ascending time l) (part : newer <:+ l) :
    Ascending time newer :=
  List.Pairwise.sublist part.sublist ascending

theorem Ascending.le_of_append (ascending : Ascending time (older ++ newer)) {a b : R}
    (early : a ∈ older) (late : b ∈ newer) : time a ≤ time b :=
  (List.pairwise_append.mp ascending).2.2 a early b late

theorem Ascending.head_le (ascending : Ascending time l) {first r : R}
    (head : l.head? = some first) (member : r ∈ l) : time first ≤ time r := by
  obtain ⟨rest, rfl⟩ := List.head?_eq_some_iff.mp head
  rcases List.mem_cons.mp member with rfl | behind
  · exact le_rfl
  · exact (List.pairwise_cons.mp ascending).1 r behind

theorem Ascending.le_last (ascending : Ascending time l) {r last : R} (member : r ∈ l)
    (ends : l.getLast? = some last) : time r ≤ time last := by
  obtain ⟨before, rfl⟩ := List.getLast?_eq_some_iff.mp ends
  rcases List.mem_append.mp member with early | own
  · exact ascending.le_of_append early (List.mem_singleton_self last)
  · exact (congrArg time (List.mem_singleton.mp own)).le

theorem sortByTime_ascending (time : R → T) (l : List R) : Ascending time (sortByTime time l) :=
  List.pairwise_insertionSort (fun a b => time a ≤ time b) l

theorem Ascending.sortByTime_eq (ascending : Ascending time l) : sortByTime time l = l :=
  List.Pairwise.insertionSort_eq ascending

/-- Records of strictly ascending times are sorted into their one order. -/
theorem sortByTime_eq_of_perm {disordered : List R} (perm : disordered.Perm l)
    (strict : l.Pairwise fun a b => time a < time b) : sortByTime time disordered = l := by
  have sorted : (sortByTime time disordered).Perm l := (List.perm_insertionSort _ _).trans perm
  have distinct : (l.map time).Nodup := List.pairwise_map.mpr (strict.imp fun earlier => earlier.ne)
  refine List.Perm.eq_of_pairwise (fun a b inSorted inStrict before after => ?_)
    (sortByTime_ascending time disordered)
    (strict.imp fun earlier => earlier.le) sorted
  exact List.inj_on_of_nodup_map distinct (sorted.mem_iff.mp inSorted) inStrict
    (le_antisymm before after)

/-- Ascending records are permuted only where they share a time. -/
theorem Ascending.times_eq {other : List R} (ascending : Ascending time l)
    (sorted : Ascending time other) (perm : l.Perm other) : l.map time = other.map time :=
  (perm.map time).eq_of_pairwise (fun _ _ _ _ => le_antisymm) (List.pairwise_map.mpr ascending)
    (List.pairwise_map.mpr sorted)

/-- Strictly ascending times are each that of one record. -/
theorem countP_time_le_one (strict : l.Pairwise fun a b => time a < time b) (t : T) :
    l.countP (fun r => time r = t) ≤ 1 := by
  have distinct : (l.map time).Nodup := List.pairwise_map.mpr (strict.imp fun earlier => earlier.ne)
  have count := List.nodup_iff_count_le_one.mp distinct t
  rwa [List.count, List.countP_map] at count

/-- Everything before the first record of a suffix is not later than it. -/
theorem Ascending.upTo_head (ascending : Ascending time (older ++ newer)) {first : R}
    (head : newer.head? = some first) :
    upTo time (time first) (older ++ newer) = older ++ upTo time (time first) newer := by
  have early : upTo time (time first) older = older := upTo_eq_self fun r member =>
    ascending.le_of_append member (List.mem_of_mem_head? head)
  rw [upTo_append, early]

/-- The records of an ascending list not later than its first share its time. -/
theorem Ascending.time_of_mem_upTo (ascending : Ascending time newer) {first r : R}
    (head : newer.head? = some first) (member : r ∈ upTo time (time first) newer) :
    time r = time first := by
  obtain ⟨inside, early⟩ := List.mem_filter.mp member
  exact le_antisymm (of_decide_eq_true early) (ascending.head_le head inside)

theorem le_of_mem_upTo {t : T} {r : R} (member : r ∈ upTo time t l) : time r ≤ t :=
  of_decide_eq_true (List.mem_filter.mp member).2

theorem upTo_sublist (time : R → T) (t : T) (l : List R) : (upTo time t l).Sublist l :=
  List.filter_sublist

theorem upTo_upTo {s t : T} (earlier : s ≤ t) (l : List R) :
    upTo time s (upTo time t l) = upTo time s l := by
  rw [upTo, upTo, List.filter_filter]
  refine List.filter_congr fun r _ => ?_
  simpa using fun early : time r ≤ s => early.trans earlier

theorem since_upTo (s t : T) (l : List R) :
    since time s (upTo time t l) = upTo time t (since time s l) := List.filter_comm ..

theorem since_comm (s t : T) (l : List R) :
    since time s (since time t l) = since time t (since time s l) := List.filter_comm ..

theorem le_of_mem_since {t : T} {r : R} (member : r ∈ since time t l) : t ≤ time r :=
  of_decide_eq_true (List.mem_filter.mp member).2

/-- The records of an ascending list not earlier than a time are its last ones. -/
theorem Ascending.split_since (ascending : Ascending time l) (t : T) :
    ∃ early, l = early ++ since time t l ∧ ∀ r ∈ early, time r < t := by
  induction l with
  | nil => exact ⟨[], rfl, by simp⟩
  | cons x rest ih =>
    obtain ⟨first, later⟩ := List.pairwise_cons.mp ascending
    by_cases inside : t ≤ time x
    · have all : since time t (x :: rest) = x :: rest :=
        since_eq_self fun r member => inside.trans (ascending.head_le rfl member)
      exact ⟨[], by rw [all, List.nil_append], by simp⟩
    · obtain ⟨early, split, before⟩ := ih later
      have skipped : since time t (x :: rest) = since time t rest := by simp [since, inside]
      refine ⟨x :: early, ?_, ?_⟩
      · rw [skipped, List.cons_append, ← split]
      · exact List.forall_mem_cons.mpr ⟨not_le.mp inside, before⟩

theorem Ascending.since_suffix (ascending : Ascending time l) (t : T) : since time t l <:+ l := by
  obtain ⟨early, split, -⟩ := ascending.split_since t
  exact ⟨early, split.symm⟩

/-- A cut at a time keeps the newest records when none of them is earlier. -/
theorem Ascending.since_rtake_iff (ascending : Ascending time l) (t : T) (n : ℕ) :
    (since time t l).rtake n = l.rtake n ↔ ∀ r ∈ l.rtake n, t ≤ time r := by
  constructor
  · intro same r member
    exact le_of_mem_since ((rtake_suffix _ _).mem (same ▸ member))
  · intro late
    apply (rtake_suffix_iff (ascending.since_suffix t) n).mpr
    have kept : since time t (l.rtake n) = l.rtake n := since_eq_self late
    have fewer := ((rtake_suffix l n).sublist.filter fun r => t ≤ time r).length_le
    rw [← length_rtake]
    exact (congrArg List.length kept).ge.trans fewer

/-- Dropping the early records of an ascending list leaves those not earlier. -/
theorem Ascending.dropWhile_eq (ascending : Ascending time l) (t : T) :
    l.dropWhile (fun r => time r < t) = since time t l := by
  obtain ⟨early, split, before⟩ := ascending.split_since t
  have skipped : early.dropWhile (fun r => time r < t) = [] :=
    List.dropWhile_eq_nil_iff.mpr fun r member => decide_eq_true (before r member)
  have kept : (since time t l).dropWhile (fun r => time r < t) = since time t l := by
    rw [List.dropWhile_eq_self_iff]
    intro some' early'
    exact absurd (of_decide_eq_true early')
      (not_lt.mpr (le_of_mem_since (List.getElem_mem some')))
  nth_rewrite 1 [split]
  rw [List.dropWhile_append, skipped, List.isEmpty_nil, if_pos rfl, kept]

/-- The records of an ascending list not later than a time are its first ones. -/
theorem Ascending.prefix_upTo (ascending : Ascending time l) (t : T) : upTo time t l <+: l := by
  induction l with
  | nil => exact List.prefix_refl _
  | cons x rest ih =>
    obtain ⟨first, later⟩ := List.pairwise_cons.mp ascending
    by_cases inside : time x ≤ t
    · have kept : upTo time t (x :: rest) = x :: upTo time t rest := by simp [upTo, inside]
      rw [kept]
      exact (List.prefix_cons_inj x).mpr (ih later)
    · have none : upTo time t (x :: rest) = [] :=
        upTo_eq_nil fun r member => (not_le.mp inside).trans_le (ascending.head_le rfl member)
      rw [none]
      exact List.nil_prefix

theorem Ascending.upTo_take (ascending : Ascending time l) (t : T) (n : ℕ) :
    upTo time t (l.take n) = (upTo time t l).take n := by
  obtain ⟨late, split⟩ := ascending.prefix_upTo t
  have after : upTo time t late = [] := by
    have whole : upTo time t (upTo time t l ++ late) = upTo time t l ++ upTo time t late := by
      rw [upTo_append, upTo_upTo le_rfl]
    rw [split] at whole
    simpa using whole.symm
  have short : upTo time t (late.take (n - (upTo time t l).length)) = [] :=
    List.sublist_nil.mp (after ▸ (List.take_sublist _ late).filter _)
  nth_rewrite 1 [← split]
  rw [List.take_append, upTo_append, short, List.append_nil]
  exact upTo_eq_self fun r member => le_of_mem_upTo (List.mem_of_mem_take member)

/-- A cut before the last record of strictly ascending times loses it. -/
theorem rtake_take_ne {n k : ℕ} (strict : l.Pairwise fun a b => time a < time b) (some : 0 < n)
    (short : k < l.length) : (l.take k).rtake n ≠ l.rtake n := by
  intro same
  obtain ⟨last, ends⟩ := Option.isSome_iff_exists.mp
    (List.getLast?_isSome.mpr (List.ne_nil_of_length_pos (Nat.zero_lt_of_lt short)))
  have kept : last ∈ l.rtake n := by
    refine List.mem_of_getLast? ?_
    rw [List.rtake, List.getLast?_drop, if_neg (by omega), ends]
  have early : last ∈ l.take k := (rtake_suffix _ _).mem (same ▸ kept)
  have late : last ∈ l.drop k := by
    refine List.mem_of_getLast? ?_
    rw [List.getLast?_drop, if_neg (by omega), ends]
  rw [← List.take_append_drop k l] at strict
  exact lt_irrefl _ ((List.pairwise_append.mp strict).2.2 last early last late)

end Ascending

/-- What lies before a record of strictly ascending times is what its time is not up to. -/
theorem upTo_before {time : R → ℤ} {older rest : List R} {first : R}
    (strict : (older ++ first :: rest).Pairwise fun a b => time a < time b) :
    upTo time (time first - 1) (older ++ first :: rest) = older := by
  obtain ⟨-, later, across⟩ := List.pairwise_append.mp strict
  have ascending : Ascending time (first :: rest) := later.imp fun earlier => earlier.le
  have early : upTo time (time first - 1) older = older := upTo_eq_self fun r member =>
    Int.le_sub_one_of_lt (across r member first List.mem_cons_self)
  have late : upTo time (time first - 1) (first :: rest) = [] := upTo_eq_nil fun r member =>
    Int.sub_one_lt_of_le (ascending.head_le rfl member)
  rw [upTo_append, early, late, List.append_nil]

/-- An ascending list is cut at a time. -/
theorem Ascending.cut {time : R → ℤ} {l : List R} (ascending : Ascending time l) (t : ℤ) :
    l = upTo time (t - 1) l ++ since time t l := by
  obtain ⟨early, split, before⟩ := ascending.split_since t
  have first : upTo time (t - 1) early = early := upTo_eq_self fun r member =>
    Int.le_sub_one_of_lt (before r member)
  have later : upTo time (t - 1) (since time t l) = [] := upTo_eq_nil fun r member =>
    Int.sub_one_lt_of_le (le_of_mem_since member)
  have whole : upTo time (t - 1) l = early := by
    rw [split, upTo_append, first, later, List.append_nil]
  rw [whole, ← split]

section Spaced
variable (time : R → ℤ)

/-- Each record lies one step after the one before it. -/
def Spaced (step : ℤ) (l : List R) : Prop := l.IsChain fun a b => time b = time a + step

instance (step : ℤ) (l : List R) : Decidable (Spaced time step l) :=
  inferInstanceAs (Decidable (l.IsChain _))

variable {time} {step : ℤ} {l : List R}

theorem Spaced.strict (spaced : Spaced time step l) (positive : 0 < step) :
    l.Pairwise fun a b => time a < time b := by
  have chain : (l.map time).IsChain (· < ·) :=
    List.isChain_map time |>.mpr (spaced.imp fun a b next => by omega)
  exact List.pairwise_map.mp chain.pairwise

/-- What is one step after a record, or later, is what follows it. -/
theorem Spaced.since_next (positive : 0 < step) {before after : List R} {x : R}
    (spaced : Spaced time step (before ++ x :: after)) :
    since time (time x + step) (before ++ x :: after) = after := by
  obtain ⟨-, -, across⟩ := List.pairwise_append.mp (spaced.strict positive)
  have early : since time (time x + step) before = [] := since_eq_nil fun r member => by
    have earlier := across r member x List.mem_cons_self
    omega
  have own : since time (time x + step) [x] = [] := since_eq_nil fun r member => by
    rw [List.mem_singleton.mp member]
    omega
  have late : since time (time x + step) after = after := by
    cases after with
    | nil => rfl
    | cons y rest =>
      have later : Spaced time step (x :: y :: rest) := spaced.right_of_append
      obtain ⟨next, tail⟩ := List.isChain_cons_cons.mp later
      have ascending : Ascending time (y :: rest) :=
        (Spaced.strict tail positive).imp fun earlier => earlier.le
      exact since_eq_self fun r member => next.ge.trans (ascending.head_le rfl member)
  rw [since_append, early, List.nil_append, ← List.singleton_append, since_append, own, late,
    List.nil_append]

theorem Spaced.time_last {first newest : R} {rest : List R}
    (spaced : Spaced time step (first :: rest)) (last : (first :: rest).getLast? = some newest) :
    time newest = time first + rest.length * step := by
  induction rest generalizing first with
  | nil =>
    obtain rfl : first = newest := by simpa using last
    simp
  | cons second rest ih =>
    obtain ⟨next, later⟩ := List.isChain_cons_cons.mp spaced
    rw [List.getLast?_cons_cons] at last
    rw [ih later last, next, List.length_cons]
    push_cast
    ring

/-- In a window of `n` steps there is room for `n` records that are a step apart. -/
theorem length_le_of_apart (apart : l.Pairwise fun a b => time a + step ≤ time b)
    (lo hi : ℤ) (n : ℕ) (inside : ∀ r ∈ l, lo ≤ time r ∧ time r < hi)
    (wide : hi ≤ lo + n * step) : l.length ≤ n := by
  induction l generalizing lo n with
  | nil => exact Nat.zero_le n
  | cons first rest ih =>
    obtain ⟨early, late⟩ := inside first List.mem_cons_self
    obtain ⟨after, later⟩ := List.pairwise_cons.mp apart
    cases n with
    | zero =>
      rw [Nat.cast_zero, zero_mul] at wide
      omega
    | succ n =>
      have room : hi ≤ lo + step + n * step := by
        rw [Nat.cast_succ, add_mul, one_mul] at wide
        omega
      refine Nat.succ_le_succ (ih later (lo + step) n (fun r member => ?_) room)
      have next := after r member
      exact ⟨by omega, (inside r (List.mem_cons_of_mem first member)).2⟩

/-- Different multiples of a step are a step apart. -/
theorem apart_of_multiples (strict : l.Pairwise fun a b => time a < time b) (positive : 0 < step)
    (multiples : ∀ r ∈ l, step ∣ time r) : l.Pairwise fun a b => time a + step ≤ time b := by
  refine strict.imp_of_mem fun {a b} first second before => ?_
  obtain ⟨m, timeA⟩ := multiples a first
  obtain ⟨n, timeB⟩ := multiples b second
  have less : m < n := Int.lt_of_mul_lt_mul_left (timeA ▸ timeB ▸ before) positive.le
  calc time a + step = step * (m + 1) := by rw [timeA, mul_add, mul_one]
    _ ≤ step * n := Int.mul_le_mul_of_nonneg_left less positive.le
    _ = time b := timeB.symm

theorem Spaced.apart (spaced : Spaced time step l) (positive : 0 < step) :
    l.Pairwise fun a b => time a + step ≤ time b := by
  induction l with
  | nil => exact List.Pairwise.nil
  | cons x rest ih =>
    have later := ih spaced.tail
    refine List.pairwise_cons.mpr ⟨fun r member => ?_, later⟩
    cases rest with
    | nil => cases member
    | cons y rest =>
      have next := (List.isChain_cons_cons.mp spaced).1
      rcases List.mem_cons.mp member with rfl | behind
      · exact next.ge
      · have after := (List.pairwise_cons.mp later).1 r behind
        omega

/-- A window of `n` steps has room for `n` records. -/
theorem Spaced.length_le (spaced : Spaced time step l) (positive : 0 < step) (lo hi : ℤ) (n : ℕ)
    (inside : ∀ r ∈ l, lo ≤ time r ∧ time r < hi) (wide : hi ≤ lo + n * step) : l.length ≤ n :=
  length_le_of_apart (spaced.apart positive) lo hi n inside wide

end Spaced
end ExchangeRouter.Lib
