import ExchangeRouter.Lib.Dict

/-!
# The first of each key

Items are offered one by one, and each is kept unless one of its key is kept
already.
-/
namespace ExchangeRouter.Lib

universe u v

variable {A : Type u} {K : Type v} [DecidableEq K] {key : A → K} {offered kept : List A} {a : A}

/-- The first item of each key, in the order of the offers. -/
structure FirstOf (key : A → K) (offered kept : List A) : Prop where
  nodup : (kept.map key).Nodup
  sublist : kept.Sublist offered
  find : ∀ k, kept.find? (fun a => key a = k) = offered.find? fun a => key a = k

theorem FirstOf.nil (key : A → K) : FirstOf key [] [] :=
  ⟨List.nodup_nil, List.Sublist.refl _, fun _ => rfl⟩

theorem find?_snoc (l : List A) (p : A → Bool) :
    (l ++ [a]).find? p = (l.find? p).or (if p a then some a else none) := by
  rw [List.find?_append, List.find?_singleton]

theorem FirstOf.keep (first : FirstOf key offered kept) (new : key a ∉ kept.map key) :
    FirstOf key (offered ++ [a]) (kept ++ [a]) where
  nodup := by
    rw [List.map_append, List.map_singleton]
    exact List.nodup_append.mpr ⟨first.nodup, List.nodup_singleton _, fun k old k' own =>
      fun same => new (List.mem_singleton.mp own ▸ same ▸ old)⟩
  sublist := first.sublist.append_right [a]
  find := fun k => by rw [find?_snoc, find?_snoc, first.find]

theorem FirstOf.skip (first : FirstOf key offered kept) (old : key a ∈ kept.map key) :
    FirstOf key (offered ++ [a]) kept where
  nodup := first.nodup
  sublist := first.sublist.trans (List.sublist_append_left _ _)
  find := by
    intro k
    rw [find?_snoc, first.find]
    by_cases own : key a = k
    · obtain ⟨b, member, same⟩ := List.mem_map.mp old
      have found : (kept.find? fun x => key x = k).isSome :=
        List.find?_isSome.mpr ⟨b, member, decide_eq_true (same.trans own)⟩
      rw [first.find] at found
      rw [Option.or_of_isSome found]
    · simp [own]

/-- Each offer of a key that is kept for the first time is kept. -/
theorem FirstOf.mem_iff (first : FirstOf key offered kept) :
    a ∈ kept ↔ offered.find? (fun b => key b = key a) = some a := by
  constructor
  · intro member
    rw [← first.find]
    cases found : kept.find? fun b => key b = key a with
    | none =>
      have absent := List.find?_eq_none.mp found a member
      simp at absent
    | some b =>
      have same : key b = key a := by simpa using List.find?_some found
      rw [List.inj_on_of_nodup_map first.nodup (List.mem_of_find?_eq_some found) member same]
  · intro found
    rw [← first.find] at found
    exact List.mem_of_find?_eq_some found

/-- A dictionary of what is kept has the first offer of each key. -/
theorem FirstOf.get?_collect (first : FirstOf key offered kept) (k : K) :
    (Dict.collect key id kept).get? k = offered.find? fun a => key a = k := by
  rw [← first.find]
  cases found : kept.find? fun a => key a = k with
  | none =>
    refine Dict.get?_collect_eq_none id fun a member => ?_
    simpa using List.find?_eq_none.mp found a member
  | some a =>
    have own : key a = k := by simpa using List.find?_some found
    subst own
    refine Dict.get?_collect_of_mem id (fun b inside c inside' same => ?_)
      (List.mem_of_find?_eq_some found)
    exact List.inj_on_of_nodup_map first.nodup inside inside' same

end ExchangeRouter.Lib
