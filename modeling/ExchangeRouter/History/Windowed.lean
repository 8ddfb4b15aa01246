import ExchangeRouter.History.Windows

/-!
# Routes that ask for windows of time

A request names the beginning and the end of a window: the end is an anchor or
now, and the beginning some time before it.  The newest records come back as long
as none is too far from the next.
-/
namespace ExchangeRouter.History
open Lib

/-- What tells one route from another.  `ends` is the last time of the window for an
anchor, `span` how far it reaches back for a number of records, and `query` what
`_make_request` is given for its first and last time. -/
structure Windowed (Q R : Type) where
  timestamp : R → ℤ
  perReq : ℕ
  /-- A single page is walked as well. -/
  always : Bool
  span : ℕ → ℤ
  /-- A window does not begin before time zero. -/
  floored : Bool
  ends : Option ℤ → ℤ
  query : ℤ → ℤ → Q
  rows : Json → Except PyError (List Json)
  /-- The record of a row, if it has one. -/
  row : Json → Except PyError (Option R)

section Windowed
variable {Q R : Type} (route : Windowed Q R) (makeRequest : Q → Except FetchError Json)

def Windowed.begins (l : ℕ) (last : ℤ) : ℤ :=
  let first := last - route.span l
  if route.floored then max first 0 else first

def Windowed.read (data : Json) : Except PyError (List R) := do
  let records ← (← route.rows data).mapM route.row
  return sortByTime route.timestamp records.reduceOption

def Windowed.fetch (startTime endTs : Option ℤ) (l : ℕ) : Except FetchError (List R) :=
  let last := route.ends (endTs.or startTime)
  makeRequest (route.query (route.begins l last) last) >>=
    fun data => (route.read data).mapError FetchError.ofPy

def Windowed.alone (startTime : Option ℤ) (limit : ℕ) : Prop :=
  route.always = false ∧ startTime = none ∧ limit ≤ route.perReq

instance alone_decidable (startTime : Option ℤ) (limit : ℕ) :
    Decidable (route.alone startTime limit) :=
  inferInstanceAs (Decidable (_ ∧ _))

def Windowed.get [DecidableEq R] (startTime : Option ℤ) (limit : ℕ) :
    Except FetchError (List R) :=
  if route.alone startTime limit then
    (route.fetch makeRequest none none limit).map (lastSlice limit)
  else
    -- the text of a record determines it, so records stand for their JSON
    paginateBackwards route.timestamp id (fun _ => route.fetch makeRequest startTime) route.perReq
      limit

variable (H : List R) (startTime : Option ℤ) (limit : ℕ)

/-- The records up to the end of the first window. -/
def Windowed.known : List R := upTo route.timestamp (route.ends startTime) H

/-- A window is answered with the records in it, in any order. -/
def Windowed.AnsweredAt (first last : ℤ) : Prop :=
  ∃ data rows records, makeRequest (route.query first last) = .ok data ∧
    route.rows data = .ok rows ∧
    List.Forall₂ (fun row r => route.row row = .ok (some r)) rows records ∧
      records.Perm (since route.timestamp first (upTo route.timestamp last H))

def Windowed.Answers : Prop := ∀ first last, route.AnsweredAt makeRequest H first last

/-- A request may fail in a way that pagination catches. -/
def Windowed.MayFail : Prop :=
  ∀ first last, route.AnsweredAt makeRequest H first last ∨
    ∃ e, e.stopsPagination = true ∧ makeRequest (route.query first last) = .error e

/-- What a request asks for. -/
def Windowed.window (endTs : Option ℤ) (l : ℕ) : List R :=
  let last := route.ends (endTs.or startTime)
  since route.timestamp (route.begins l last) (upTo route.timestamp last H)

/-- Where the windows of full pages begin. -/
def Windowed.pageStart (current : Option ℤ) : ℤ :=
  route.begins route.perReq (current.getD (route.ends startTime))

/-- One request is made, or the hundredth page has enough, or one more page
brings nothing. -/
def Windowed.WithinCap : Prop :=
  route.alone startTime limit ∨
    limit ≤ (reach route.timestamp (route.pageStart startTime) (route.known H startTime)
      maxRequests).length ∨
    reach route.timestamp (route.pageStart startTime) (route.known H startTime) (maxRequests + 1) =
      reach route.timestamp (route.pageStart startTime) (route.known H startTime) maxRequests

/-- When the newest records are within reach.  One request needs them all in its
window.  Several requests need the newest one in the first window, and every other
one no further from the next than a window. -/
def Windowed.Unbroken (newest : List R) : Prop :=
  if route.alone startTime limit then
    ∀ r ∈ newest, route.ends startTime ≤ route.timestamp r + route.span limit
  else
    (∀ r ∈ newest.getLast?,
      route.ends startTime ≤ route.timestamp r + route.span route.perReq) ∧
        Connected route.timestamp (route.span route.perReq + 1) newest

variable {route makeRequest H startTime limit}

/-- An anchor up to the end of the first window is kept. -/
def Windowed.KeepsAnchors (route : Windowed Q R) (startTime : Option ℤ) : Prop :=
  ∀ t, 0 < t → t ≤ route.ends startTime → route.ends (some t) = t

/-- A request brings the records of its window. -/
theorem Windowed.AnsweredAt.fetch {endTs : Option ℤ} {l : ℕ}
    (answered : route.AnsweredAt makeRequest H (route.begins l (route.ends (endTs.or startTime)))
      (route.ends (endTs.or startTime)))
    (strict : H.Pairwise fun a b => route.timestamp a < route.timestamp b) :
    route.fetch makeRequest startTime endTs l = .ok (route.window H startTime endTs l) := by
  obtain ⟨data, rows, records, replied, listed, each, perm⟩ := answered
  have inside : (route.window H startTime endTs l).Pairwise
      fun a b => route.timestamp a < route.timestamp b := (strict.filter _).filter _
  have all := mapM_eq_ok_some each
  rw [Windowed.fetch]
  simp only [replied, bind, Except.bind, Windowed.read, listed, all, reduceOption_map_some, pure,
    Except.pure, Except.mapError, sortByTime_eq_of_perm perm inside]
  rfl

theorem Windowed.MayFail.fetch (mayFail : route.MayFail makeRequest H)
    (strict : H.Pairwise fun a b => route.timestamp a < route.timestamp b) (endTs : Option ℤ)
    (l : ℕ) :
    route.fetch makeRequest startTime endTs l = .ok (route.window H startTime endTs l) ∨
      ∃ e, e.stopsPagination = true ∧ route.fetch makeRequest startTime endTs l = .error e := by
  rcases mayFail (route.begins l (route.ends (endTs.or startTime)))
    (route.ends (endTs.or startTime)) with answered | ⟨e, caught, failed⟩
  · exact .inl (answered.fetch strict)
  · refine .inr ⟨e, caught, ?_⟩
    simp only [Windowed.fetch, failed, bind, Except.bind]

/-- The window before a known record is a page of the known records. -/
theorem Windowed.window_page (positive : ∀ r ∈ H, 0 < route.timestamp r)
    (keeps : route.KeepsAnchors startTime) {current : Option ℤ}
    (ends : ∀ t ∈ current, ∃ r ∈ route.known H startTime, route.timestamp r = t) :
    route.window H startTime current route.perReq =
      windowPage route.timestamp (route.pageStart startTime) (route.known H startTime)
        current := by
  rw [Windowed.window]
  cases current with
  | none => rfl
  | some t =>
    obtain ⟨r, member, rfl⟩ := ends t rfl
    have early := le_of_mem_upTo member
    have later := positive r ((upTo_sublist _ _ _).mem member)
    rw [Option.some_or, keeps _ later early, windowPage, Option.elim_some, Windowed.known,
      upTo_upTo early]
    rfl

theorem Windowed.known_strict
    (strict : H.Pairwise fun a b => route.timestamp a < route.timestamp b) :
    (route.known H startTime).Pairwise fun a b => route.timestamp a < route.timestamp b :=
  strict.sublist (upTo_sublist _ _ _)

theorem Windowed.known_ascending
    (strict : H.Pairwise fun a b => route.timestamp a < route.timestamp b) :
    Ascending route.timestamp (route.known H startTime) :=
  (Windowed.known_strict strict).imp fun earlier => earlier.le

/-- When a record is in the window that ends at a given time. -/
theorem Windowed.begins_le_iff {l : ℕ} {last : ℤ} {r : R} (positive : 0 < route.timestamp r) :
    route.begins l last ≤ route.timestamp r ↔ last ≤ route.timestamp r + route.span l := by
  rw [Windowed.begins]
  split
  · omega
  · omega

/-- The windows of full pages are as wide as a page reaches. -/
theorem Windowed.wide (positive : ∀ r ∈ H, 0 < route.timestamp r) :
    Wide route.timestamp (route.pageStart startTime) (route.span route.perReq + 1)
      (route.known H startTime) where
  first a own b other begins := by
    have late := (Windowed.begins_le_iff
      (positive a ((upTo_sublist _ _ _).mem own))).mp begins
    have early := le_of_mem_upTo other
    rw [Option.getD_none] at late
    omega
  next a own b other := by
    have reaches := @Windowed.begins_le_iff _ _ route route.perReq (route.timestamp b) a
      (positive a ((upTo_sublist _ _ _).mem own))
    rw [Windowed.pageStart, Option.getD_some, reaches]
    omega

theorem Windowed.endsIn (positive : ∀ r ∈ H, 0 < route.timestamp r)
    (forward : 0 ≤ route.span route.perReq) :
    EndsIn route.timestamp (route.pageStart startTime) (route.known H startTime) := by
  intro r member
  refine (Windowed.begins_le_iff (positive r ((upTo_sublist _ _ _).mem member))).mpr ?_
  rw [Option.getD_some]
  omega

variable [DecidableEq R]

theorem Windowed.Answers.get_alone (answers : route.Answers makeRequest H)
    (strict : H.Pairwise fun a b => route.timestamp a < route.timestamp b)
    (alone : route.alone startTime limit) (wanted : 0 < limit) :
    route.get makeRequest startTime limit =
      .ok ((since route.timestamp (route.begins limit (route.ends startTime))
        (route.known H startTime)).rtake limit) := by
  obtain ⟨-, rfl, -⟩ := id alone
  rw [Windowed.get, if_pos alone, (answers _ _).fetch strict, Except.map, lastSlice,
    if_neg wanted.ne']
  rfl

theorem Windowed.Answers.get_paginated (answers : route.Answers makeRequest H)
    (strict : H.Pairwise fun a b => route.timestamp a < route.timestamp b)
    (positive : ∀ r ∈ H, 0 < route.timestamp r) (forward : 0 ≤ route.span route.perReq)
    (keeps : route.KeepsAnchors startTime) (several : ¬ route.alone startTime limit)
    (wanted : 0 < limit) :
    route.get makeRequest startTime limit =
      .ok ((reach route.timestamp (route.pageStart startTime) (route.known H startTime)
        maxRequests).rtake limit) := by
  rw [Windowed.get, if_neg several]
  exact paginateBackwards_windows (Windowed.known_strict strict)
    (fun r member => positive r ((upTo_sublist _ _ _).mem member))
    (Windowed.endsIn positive forward)
    (fun current ends => ((answers _ _).fetch strict).trans
      (congrArg Except.ok (Windowed.window_page positive keeps ends))) wanted

theorem Windowed.MayFail.get_paginated (mayFail : route.MayFail makeRequest H)
    (strict : H.Pairwise fun a b => route.timestamp a < route.timestamp b)
    (positive : ∀ r ∈ H, 0 < route.timestamp r) (forward : 0 ≤ route.span route.perReq)
    (keeps : route.KeepsAnchors startTime) (several : ¬ route.alone startTime limit)
    (wanted : 0 < limit) :
    ∃ out, route.get makeRequest startTime limit = .ok out ∧ out <:+ route.known H startTime ∧
      out.length ≤ limit := by
  rw [Windowed.get, if_neg several]
  refine paginateBackwards_windows_suffix (Windowed.known_strict strict)
    (fun r member => positive r ((upTo_sublist _ _ _).mem member))
    (Windowed.endsIn positive forward) (fun current ends => ?_) wanted
  rw [← Windowed.window_page positive keeps ends]
  exact mayFail.fetch strict current route.perReq

theorem Windowed.MayFail.get_alone (mayFail : route.MayFail makeRequest H)
    (strict : H.Pairwise fun a b => route.timestamp a < route.timestamp b)
    (alone : route.alone startTime limit) (wanted : 0 < limit) :
    (∃ out, route.get makeRequest startTime limit = .ok out ∧ out <:+ route.known H startTime ∧
      out.length ≤ limit) ∨ ∃ e, route.get makeRequest startTime limit = .error e := by
  obtain ⟨-, rfl, -⟩ := id alone
  rw [Windowed.get, if_pos alone]
  rcases mayFail.fetch strict none limit with brought | ⟨e, -, failed⟩
  · rw [brought, Except.map, lastSlice, if_neg wanted.ne']
    refine .inl ⟨_, rfl, (rtake_suffix _ _).trans
      ((Windowed.known_ascending strict).since_suffix _), ?_⟩
    rw [length_rtake]
    exact Nat.min_le_left _ _
  · exact .inr ⟨e, by rw [failed, Except.map]⟩

variable (route makeRequest) in
/-- A later part of the known records comes back whichever requests fail, unless it
is the only one; and if none does, the newest ones exactly when they are unbroken. -/
structure Windowed.Exact (get : Option ℤ → ℕ → Except FetchError (List R)) : Prop where
  suffix : ∀ H, (H.Pairwise fun a b => route.timestamp a < route.timestamp b) →
    (∀ r ∈ H, 0 < route.timestamp r) → route.MayFail makeRequest H →
    ∀ startTime limit, 0 < limit →
      (∃ out, get startTime limit = .ok out ∧ out <:+ route.known H startTime ∧
        out.length ≤ limit) ∨
      (∃ e, get startTime limit = .error e ∧ route.alone startTime limit)
  newest : ∀ H, (H.Pairwise fun a b => route.timestamp a < route.timestamp b) →
    (∀ r ∈ H, 0 < route.timestamp r) → route.Answers makeRequest H →
    ∀ startTime limit, 0 < limit → route.WithinCap H startTime limit →
      (get startTime limit = .ok ((route.known H startTime).rtake limit) ↔
        route.Unbroken startTime limit ((route.known H startTime).rtake limit))

theorem Windowed.get_exact (forward : 0 ≤ route.span route.perReq)
    (keeps : ∀ startTime, route.KeepsAnchors startTime) :
    route.Exact makeRequest (route.get makeRequest) where
  suffix := by
    intro H strict positive mayFail startTime limit wanted
    by_cases alone : route.alone startTime limit
    · rcases mayFail.get_alone strict alone wanted with brought | ⟨e, failed⟩
      · exact .inl brought
      · exact .inr ⟨e, failed, alone⟩
    · exact .inl
        (mayFail.get_paginated strict positive forward (keeps startTime) alone wanted)
  newest := by
    intro H strict positive answers startTime limit wanted within
    have ascending : Ascending route.timestamp (route.known H startTime) :=
      Windowed.known_ascending strict
    have later : ∀ r ∈ (route.known H startTime).rtake limit, 0 < route.timestamp r :=
      fun r member => positive r ((upTo_sublist _ _ _).mem ((rtake_suffix _ _).mem member))
    by_cases alone : route.alone startTime limit
    · rw [answers.get_alone strict alone wanted, Except.ok.injEq, ascending.since_rtake_iff,
        Windowed.Unbroken, if_pos alone]
      exact forall₂_congr fun r member => Windowed.begins_le_iff (later r member)
    · rw [answers.get_paginated strict positive forward (keeps startTime) alone wanted,
        Except.ok.injEq, reach_newest_iff ascending (Windowed.wide positive)
          (Windowed.endsIn positive forward) (within.resolve_left alone),
        Windowed.Unbroken, if_neg alone]
      refine and_congr_left fun _ => forall₂_congr fun r ends => ?_
      exact Windowed.begins_le_iff (later r (List.mem_of_getLast? ends))

end Windowed
end ExchangeRouter.History
