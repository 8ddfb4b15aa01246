import Mathlib.Data.Finset.Card
import Mathlib.Data.List.Perm.Subperm
import ExchangeRouter.Lib.Timeline

/-!
# The newest records, with repeats

Records may be equal, and may share a time.  Which of those that share the time
of the cut are taken is left open; each record counts as often as it occurs.
-/
namespace ExchangeRouter.Lib

universe u

variable {R : Type u} {T : Type*} [LinearOrder T] {time : R → T} {n : ℕ} {l out newer : List R}

/-- In ascending order, as many of the records as wanted, and no other one later. -/
structure NewestOf (time : R → T) (n : ℕ) (l out : List R) : Prop where
  ascending : Ascending time out
  length : out.length = min n l.length
  others : ∃ rest, (out ++ rest).Perm l ∧ ∀ r ∈ rest, ∀ s ∈ out, time r ≤ time s

theorem NewestOf.of_perm (ascending : Ascending time l) (sorted : Ascending time out)
    (perm : out.Perm (l.rtake n)) : NewestOf time n l out where
  ascending := sorted
  length := by rw [perm.length_eq, length_rtake]
  others := by
    obtain ⟨older, split⟩ := rtake_suffix l n
    refine ⟨older, ?_, fun r early s late => ?_⟩
    · rw [← split]
      exact (List.perm_append_comm.trans (perm.append_left older)).trans (by rw [split])
    · exact Ascending.le_of_append (split.symm ▸ ascending) early (perm.mem_iff.mp late)

section Counting

/-- An ascending list with `n` records from a time on has these as its last ones. -/
theorem Ascending.le_of_mem_rtake (ascending : Ascending time l) {t : T}
    (enough : n ≤ (since time t l).length) {r : R} (member : r ∈ l.rtake n) : t ≤ time r := by
  obtain ⟨early, split⟩ := ascending.since_suffix t
  rw [← split, rtake_append_of_le enough] at member
  exact le_of_mem_since ((rtake_suffix _ _).mem member)

/-- At most `n` records from a time on are all among the last ones. -/
theorem Ascending.mem_rtake (ascending : Ascending time l) {t : T}
    (few : (since time t l).length ≤ n) {r : R} (member : r ∈ l) (late : t ≤ time r) :
    r ∈ l.rtake n := by
  obtain ⟨early, split⟩ := ascending.since_suffix t
  rw [← split, rtake_append, rtake_of_length_le few]
  exact List.mem_append_right _ (List.mem_filter.mpr ⟨member, decide_eq_true late⟩)

/-- Of the newest records of different times, one has fewer than `n` later ones. -/
theorem length_since_le_of_mem_rtake (strict : l.Pairwise fun a b => time a < time b) {r : R}
    (member : r ∈ l.rtake n) : (since time (time r) l).length ≤ n := by
  obtain ⟨older, split⟩ := rtake_suffix l n
  have none : since time (time r) older = [] := since_eq_nil fun x early =>
    (List.pairwise_append.mp (split.symm ▸ strict)).2.2 x early r member
  have fewer := List.length_filter_le (fun x => time r ≤ time x) (l.rtake n)
  have size := length_rtake l n
  rw [← split, since_append, none, List.nil_append, since]
  omega

theorem since_perm (time : R → T) (t : T) {other : List R} (perm : l.Perm other) :
    (since time t l).Perm (since time t other) := perm.filter _

end Counting

section Distinct
variable [DecidableEq R] {time : R → ℤ} {within distinct : List R} {oldest : R}

/-- Of the records later than the oldest one wanted none is a repeat, and with
those of its time there are enough different ones within reach. -/
def ToldApart (time : R → ℤ) (n : ℕ) (l within : List R) : Prop :=
  ∀ oldest ∈ (l.rtake n).head?, (since time (time oldest + 1) l).Nodup ∧
    min n l.length ≤ (since time (time oldest) within).toFinset.card

instance (n : ℕ) (l within : List R) : Decidable (ToldApart time n l within) :=
  inferInstanceAs (Decidable (∀ oldest ∈ (l.rtake n).head?, _ ∧ _))

omit [DecidableEq R] in
/-- Around the time of the oldest record wanted. -/
theorem Ascending.counts (ascending : Ascending time l) (head : (l.rtake n).head? = some oldest) :
    min n l.length ≤ (since time (time oldest) l).length ∧
      (since time (time oldest + 1) l).length < min n l.length := by
  obtain ⟨rest, shape⟩ := List.head?_eq_some_iff.mp head
  obtain ⟨older, split⟩ := rtake_suffix l n
  rw [shape] at split
  have size := length_rtake l n
  rw [shape, List.length_cons] at size
  have sorted : Ascending time (oldest :: rest) := ascending.suffix ⟨older, split⟩
  have all : since time (time oldest) (oldest :: rest) = oldest :: rest :=
    since_eq_self fun r member => sorted.head_le rfl member
  have early : since time (time oldest + 1) older = [] := since_eq_nil fun r member =>
    Int.lt_add_one_iff.mpr
      (Ascending.le_of_append (split.symm ▸ ascending) member List.mem_cons_self)
  constructor
  · have part : (since time (time oldest) (oldest :: rest)).Sublist (since time (time oldest) l) :=
      (split ▸ List.sublist_append_right older _ : (oldest :: rest).Sublist l).filter _
    rw [all] at part
    have upper := part.length_le
    rw [List.length_cons] at upper
    omega
  · have later : since time (time oldest + 1) l = since time (time oldest + 1) rest := by
      rw [← split, since_append, early, List.nil_append, since,
        List.filter_cons_of_neg (by simp), since]
    have fewer := List.length_filter_le (fun r => time oldest + 1 ≤ time r) rest
    rw [later, since]
    omega

/-- The newest records, if none of them is a repeat. -/
theorem NewestOf.toldApart (ascending : Ascending time l) (newest : NewestOf time n l out)
    (nodup : out.Nodup) (inside : ∀ s ∈ out, s ∈ within) : ToldApart time n l within := by
  intro oldest head
  obtain ⟨enough, few⟩ := ascending.counts head
  obtain ⟨rest, perm, later⟩ := newest.others
  have total : ∀ t, (since time t l).length =
      (since time t out).length + (since time t rest).length := by
    intro t
    rw [← (since_perm time t perm).length_eq, since_append, List.length_append]
  have size := newest.length
  have recent : ∀ s ∈ out, time oldest ≤ time s := by
    intro s member
    by_contra early
    have none : since time (time oldest) rest = [] := since_eq_nil fun r inRest =>
      (later r inRest s member).trans_lt (not_le.mp early)
    have fewer : (since time (time oldest) out).length < out.length :=
      List.length_filter_lt_length_iff_exists.mpr ⟨s, member, by simpa using early⟩
    have counted := total (time oldest)
    rw [none, List.length_nil] at counted
    omega
  have older : since time (time oldest + 1) rest = [] := by
    refine since_eq_nil fun r inRest => ?_
    by_contra late
    have all : since time (time oldest + 1) out = out := since_eq_self fun s member =>
      (not_lt.mp late).trans (later r inRest s member)
    have counted := total (time oldest + 1)
    rw [all] at counted
    omega
  have split := since_perm time (time oldest + 1) perm
  rw [since_append, older, List.append_nil] at split
  constructor
  · exact split.nodup_iff.mp (nodup.filter _)
  · rw [← size, ← List.toFinset_card_of_nodup nodup]
    refine Finset.card_le_card fun s member => ?_
    rw [List.mem_toFinset] at member ⊢
    exact List.mem_filter.mpr ⟨inside s member, decide_eq_true (recent s member)⟩

/-- The different records of a newest part, in ascending order. -/
structure DistinctOf (time : R → ℤ) (newer distinct : List R) : Prop where
  ascending : Ascending time distinct
  nodup : distinct.Nodup
  members : ∀ r, r ∈ distinct ↔ r ∈ newer

omit [DecidableEq R] in
theorem DistinctOf.length_le (differs : DistinctOf time newer distinct) (part : newer <:+ l) :
    distinct.length ≤ l.length :=
  (differs.nodup.subperm fun r member => part.mem ((differs.members r).mp member)).length_le

theorem DistinctOf.since_card (differs : DistinctOf time newer distinct) (t : ℤ) :
    (since time t distinct).length = (since time t newer).toFinset.card := by
  have single : (since time t distinct).Nodup := differs.nodup.filter _
  rw [← List.toFinset_card_of_nodup single]
  congr 1
  ext r
  simp only [since, List.mem_toFinset, List.mem_filter, differs.members r]

/-- The newest different records are late enough. -/
theorem DistinctOf.late (ascending : Ascending time l) (reach : within <:+ l)
    (part : newer <:+ within) (differs : DistinctOf time newer distinct)
    (several : min n l.length ≤ (since time (time oldest) within).toFinset.card) {r : R}
    (member : r ∈ distinct.rtake n) : time oldest ≤ time r := by
  by_cases enough : n ≤ (since time (time oldest) distinct).length
  · exact differs.ascending.le_of_mem_rtake enough member
  · by_contra early
    have own := (rtake_suffix _ _).mem member
    -- all that is left out is older than this record
    have same : since time (time oldest) newer = since time (time oldest) within := by
      have sorted := ascending.suffix reach
      obtain ⟨older, rfl⟩ := part
      have none : since time (time oldest) older = [] := since_eq_nil fun x inOlder =>
        (sorted.le_of_append inOlder ((differs.members r).mp own)).trans_lt (not_le.mp early)
      rw [since_append, none, List.nil_append]
    have counted := differs.since_card (time oldest)
    rw [same] at counted
    have fewer : (since time (time oldest) distinct).length < distinct.length :=
      List.length_filter_lt_length_iff_exists.mpr ⟨r, own, by simpa using early⟩
    have upper := differs.length_le (part.trans reach)
    omega

omit [DecidableEq R] in
theorem DistinctOf.subperm (differs : DistinctOf time newer distinct) (part : newer <:+ l) (t : ℤ) :
    (since time t distinct).Subperm (since time t l) :=
  (differs.nodup.filter _).subperm fun r member => by
    obtain ⟨own, after⟩ := List.mem_filter.mp member
    exact List.mem_filter.mpr ⟨part.mem ((differs.members r).mp own), after⟩

omit [DecidableEq R] in
/-- The wanted records later than the oldest of them are among the newest different ones. -/
theorem DistinctOf.found (ascending : Ascending time l) (part : newer <:+ l)
    (differs : DistinctOf time newer distinct) (few : (since time (time oldest + 1) l).length < n)
    (reaches : (since time (time oldest + 1) l).length ≤ newer.length) {r : R} (member : r ∈ l)
    (after : time oldest + 1 ≤ time r) : r ∈ distinct.rtake n := by
  have size := (differs.subperm part (time oldest + 1)).length_le
  have own : r ∈ newer := by
    obtain ⟨older, rfl⟩ := part
    have taken := ascending.mem_rtake reaches member after
    rwa [rtake_append_of_le le_rfl, rtake_of_length_le le_rfl] at taken
  exact differs.ascending.mem_rtake (by omega) ((differs.members r).mpr own) after

/-- Records told apart are found among the newest different ones. -/
theorem DistinctOf.newestOf (ascending : Ascending time l) (reach : within <:+ l)
    (part : newer <:+ within) (differs : DistinctOf time newer distinct)
    (ended : n ≤ distinct.length ∨ newer = within) (apart : ToldApart time n l within) :
    NewestOf time n l (distinct.rtake n) := by
  have inside := part.trans reach
  have sorted : Ascending time (distinct.rtake n) :=
    differs.ascending.suffix (rtake_suffix distinct n)
  have single : (distinct.rtake n).Nodup :=
    differs.nodup.sublist (rtake_suffix distinct n).sublist
  have subset : ∀ s ∈ distinct.rtake n, s ∈ l :=
    fun s member => inside.mem ((differs.members s).mp ((rtake_suffix _ _).mem member))
  obtain ⟨kept, order, sublist⟩ := single.subperm subset
  obtain ⟨rest, perm⟩ := sublist.exists_perm_append
  have joined : (distinct.rtake n ++ rest).Perm l := (order.symm.append_right rest).trans perm.symm
  cases head : (l.rtake n).head? with
  | none =>
    have size := length_rtake l n
    rw [List.head?_eq_none_iff.mp head, List.length_nil] at size
    have fewer := joined.length_eq
    rw [List.length_append, length_rtake] at fewer
    refine ⟨sorted, ?_, rest, joined, fun r _ s member => ?_⟩
    · rw [length_rtake]
      omega
    · have some := List.length_pos_of_mem member
      rw [length_rtake] at some
      omega
  | some oldest =>
    obtain ⟨later, several⟩ := apart oldest head
    obtain ⟨-, few⟩ := ascending.counts head
    have late : ∀ s ∈ distinct.rtake n, time oldest ≤ time s :=
      fun s member => differs.late ascending reach part several member
    have upper := differs.length_le inside
    have most : min n l.length ≤ distinct.length := by
      rcases ended with enough | rfl
      · omega
      · exact (differs.since_card (time oldest) ▸ several).trans (List.length_filter_le _ _)
    have own := differs.length_le (List.suffix_refl newer)
    refine ⟨sorted, ?_, rest, joined, fun r inRest s member => ?_⟩
    · rw [length_rtake]
      omega
    · by_contra before
      have after : time oldest + 1 ≤ time r := by
        have early := late s member
        omega
      have again := differs.found (n := n) ascending inside (by omega) (by omega)
        (joined.mem_iff.mp (List.mem_append_right _ inRest)) after
      have split := since_perm time (time oldest + 1) joined
      rw [since_append] at split
      exact (List.nodup_append.mp (split.nodup_iff.mpr later)).2.2 r
        (List.mem_filter.mpr ⟨again, decide_eq_true after⟩) r
        (List.mem_filter.mpr ⟨inRest, decide_eq_true after⟩) rfl

end Distinct
end ExchangeRouter.Lib
