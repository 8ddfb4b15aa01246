import Mathlib.Data.List.Basic
import Mathlib.Tactic.Common
import ExchangeRouter.Lib.Run

/-!
# Tasks gathered under a semaphore

Each task waits for a permit, runs, and finishes with a result; at most `permits`
tasks run at the same time.  The order in which they are started and finish is
left to the environment, and the results come in the order of the tasks.
-/
namespace ExchangeRouter.Lib.Gather

universe u

inductive Status (R : Type u)
  | waiting
  | running
  | finished (result : R)
  deriving DecidableEq

variable {R : Type u}

namespace Status

def isRunning : Status R → Bool
  | running => true
  | _ => false

/-- The steps that a task has before it. -/
def stepsLeft : Status R → ℕ
  | waiting => 2
  | running => 1
  | finished _ => 0

end Status

inductive Event (R : Type u)
  | start (i : ℕ)
  | finish (i : ℕ) (result : R)

def running (tasks : List (Status R)) : ℕ := tasks.countP Status.isRunning

def step (permits : ℕ) (tasks : List (Status R)) : Event R → Option (List (Status R))
  | .start i =>
    match tasks[i]? with
    | some .waiting => if running tasks < permits then some (tasks.set i .running) else none
    | _ => none
  | .finish i result =>
    match tasks[i]? with
    | some .running => some (tasks.set i (.finished result))
    | _ => none

def system (R : Type u) (permits count : ℕ) : System (List (Status R)) (Event R) :=
  ⟨List.replicate count .waiting, step permits⟩

/-- The results, once every task has finished. -/
def results : List (Status R) → Option (List R)
  | [] => some []
  | .finished result :: rest => (results rest).map (result :: ·)
  | .waiting :: _ | .running :: _ => none

variable {permits count : ℕ} {tasks tasks' : List (Status R)} {event : Event R}

/-- One task changes its status. -/
inductive Moves (permits : ℕ) (tasks : List (Status R)) : List (Status R) → Prop
  | start {before after : List (Status R)} (split : tasks = before ++ .waiting :: after)
      (free : running tasks < permits) : Moves permits tasks (before ++ .running :: after)
  | finish {before after : List (Status R)} {result : R}
      (split : tasks = before ++ .running :: after) :
      Moves permits tasks (before ++ .finished result :: after)

theorem split_of_getElem? {i : ℕ} {status : Status R} (found : tasks[i]? = some status)
    (next : Status R) : tasks = tasks.take i ++ status :: tasks.drop (i + 1) ∧
      tasks.set i next = tasks.take i ++ next :: tasks.drop (i + 1) := by
  obtain ⟨inside, rfl⟩ := List.getElem?_eq_some_iff.mp found
  constructor
  · rw [← List.drop_eq_getElem_cons inside, List.take_append_drop]
  · rw [List.set_eq_take_append_cons_drop, if_pos inside]

theorem moves_of_step (taken : step permits tasks event = some tasks') :
    Moves permits tasks tasks' := by
  cases event with
  | start i =>
    simp only [step] at taken
    split at taken
    · rename_i found
      obtain ⟨split, next⟩ := split_of_getElem? found .running
      split at taken
      · rename_i free
        cases taken
        rw [next]
        exact .start split free
      · cases taken
    · cases taken
  | finish i result =>
    simp only [step] at taken
    split at taken
    · rename_i found
      obtain ⟨split, next⟩ := split_of_getElem? found (.finished result)
      cases taken
      rw [next]
      exact .finish split
    · cases taken

theorem Moves.length (moves : Moves permits tasks tasks') : tasks'.length = tasks.length := by
  cases moves with
  | start split _ => simp [split]
  | finish split => simp [split]

/-- No more tasks run than there are permits. -/
theorem Moves.running_le (moves : Moves permits tasks tasks') (within : running tasks ≤ permits) :
    running tasks' ≤ permits := by
  cases moves with
  | start split free =>
    subst split
    simp only [running, List.countP_append, List.countP_cons, Status.isRunning] at free ⊢
    simp only [Bool.false_eq_true, if_false, if_true] at free ⊢
    omega
  | finish split =>
    subst split
    simp only [running, List.countP_append, List.countP_cons, Status.isRunning] at within ⊢
    simp only [Bool.false_eq_true, if_false, if_true] at within ⊢
    omega

def stepsLeft : List (Status R) → ℕ
  | [] => 0
  | status :: rest => status.stepsLeft + stepsLeft rest

@[simp] theorem stepsLeft_append (before after : List (Status R)) :
    stepsLeft (before ++ after) = stepsLeft before + stepsLeft after := by
  induction before with
  | nil => simp [stepsLeft]
  | cons status before ih => simp [stepsLeft, ih, Nat.add_assoc]

theorem stepsLeft_replicate (count : ℕ) :
    stepsLeft (List.replicate count (Status.waiting : Status R)) = 2 * count := by
  induction count with
  | zero => rfl
  | succ count ih =>
    rw [List.replicate_succ, stepsLeft, ih, Status.stepsLeft]
    omega

theorem Moves.stepsLeft_lt (moves : Moves permits tasks tasks') :
    stepsLeft tasks' < stepsLeft tasks := by
  cases moves with
  | start split _ =>
    subst split
    simp [stepsLeft, Status.stepsLeft]
  | finish split =>
    subst split
    simp [stepsLeft, Status.stepsLeft]

theorem reachable_length (run : Reachable (system R permits count) anyStep tasks) :
    tasks.length = count := by
  induction run with
  | init => exact List.length_replicate
  | next _ _ taken ih => exact (moves_of_step taken).length.trans ih

theorem reachable_running_le (run : Reachable (system R permits count) anyStep tasks) :
    running tasks ≤ permits := by
  induction run with
  | init => simp [system, running, List.countP_replicate, Status.isRunning]
  | next _ _ taken ih => exact (moves_of_step taken).running_le ih

/-- A run has at most two steps for each task. -/
theorem steps_length_le {labels : List (Event R)}
    (run : Steps (system R permits count) anyStep (system R permits count).init labels tasks) :
    labels.length ≤ 2 * count := by
  have lower : ∀ t event u, True → anyStep t event →
      (system R permits count).step t event = some u → True ∧ stepsLeft u < stepsLeft t :=
    fun _ _ _ _ _ taken => ⟨trivial, (moves_of_step taken).stepsLeft_lt⟩
  obtain ⟨-, bound⟩ := run.length_le lower trivial
  have start : stepsLeft (system R permits count).init = 2 * count := stepsLeft_replicate count
  omega

theorem results_eq_some {out : List R} :
    results tasks = some out ↔ tasks = out.map Status.finished := by
  induction tasks generalizing out with
  | nil => cases out <;> simp [results]
  | cons status tasks ih =>
    cases status with
    | waiting | running => cases out <;> simp [results]
    | finished result =>
      rw [results, Option.map_eq_some_iff]
      cases out with
      | nil => simp
      | cons first out => simp [ih, and_comm]

theorem exists_unfinished (unfinished : results tasks = none) :
    ∃ status ∈ tasks, ∀ result, status ≠ .finished result := by
  by_contra finished
  push Not at finished
  have all : ∃ out : List R, tasks = out.map Status.finished := by
    clear unfinished
    induction tasks with
    | nil => exact ⟨[], rfl⟩
    | cons status tasks ih =>
      obtain ⟨result, rfl⟩ := finished status List.mem_cons_self
      obtain ⟨out, rfl⟩ := ih fun other member => finished other (List.mem_cons_of_mem _ member)
      exact ⟨result :: out, rfl⟩
  obtain ⟨out, shape⟩ := all
  rw [results_eq_some.mpr shape] at unfinished
  cases unfinished

/-- With a permit, some task can move until all have finished. -/
theorem exists_step [Inhabited R] (positive : 0 < permits) (unfinished : results tasks = none) :
    ∃ event, (step permits tasks event).isSome := by
  by_cases busy : Status.running ∈ tasks
  · obtain ⟨i, found⟩ := List.mem_iff_getElem?.mp busy
    exact ⟨.finish i default, by simp [step, found]⟩
  · have idle : running tasks = 0 := by
      rw [running, List.countP_eq_zero]
      intro status member
      cases status with
      | running => exact absurd member busy
      | waiting | finished _ => nofun
    obtain ⟨status, member, notFinished⟩ := exists_unfinished unfinished
    cases status with
    | waiting =>
      obtain ⟨i, found⟩ := List.mem_iff_getElem?.mp member
      exact ⟨.start i, by simp [step, found, idle, positive]⟩
    | running => exact absurd member busy
    | finished result => exact absurd rfl (notFinished result)

end ExchangeRouter.Lib.Gather
