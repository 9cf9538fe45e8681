import Ttac.Lib.Completion
import Ttac.Lib.Program

set_option autoImplicit false

/- What programs do in one given environment, recorded: a way to compute runs that follow the
rules this environment keeps to. -/
namespace Interaction

open Program (World)

variable {Op : Type} {Answer : Op → Type} {ε α σ Job : Type}

/-- The environment answers as the rules allow. -/
def Follows (world : World Op Answer ε σ) (rules : Rules Op Answer σ) : Prop :=
  ∀ op answer s t, world.answer op s = (.ok answer, t) → rules op answer s t

/-- The history, the result and the last state of a program that is left alone. -/
def record (world : World Op Answer ε σ) :
    Program Op Answer ε α → σ → Option (List (Exchange Op Answer) × α × σ)
  | .done value, s => some ([], value, s)
  | .fail _, _ => none
  | .call op next, s =>
    match world.answer op s with
    | (.ok answer, t) =>
      (record world (next answer) t).map fun later => (⟨op, answer⟩ :: later.1, later.2)
    | (.error _, _) => none

/-- The run and what is left of the threads when they make their calls in this order. -/
def schedule (world : World Op Answer ε σ) : List Nat → (Nat → Program Op Answer ε α) → σ →
    Option (Run Op Answer σ × (Nat → Program Op Answer ε α) × σ)
  | [], threads, s => some ([], threads, s)
  | thread :: order, threads, s =>
    match threads thread with
    | .call op next =>
      match world.answer op s with
      | (.ok answer, t) =>
        (schedule world order (Function.update threads thread (next answer)) t).map fun later =>
          (⟨thread, ⟨op, answer⟩, s, t⟩ :: later.1, later.2)
      | (.error _, _) => none
    | _ => none

section Follows

variable {world : World Op Answer ε σ} {rules : Rules Op Answer σ} {s t : σ}

theorem record_completes (follows : Follows world rules) {program : Program Op Answer ε α}
    {events : List (Exchange Op Answer)} {value : α}
    (recorded : record world program s = some (events, value, t)) :
    Completes rules program s events value t := by
  induction program generalizing s events with
  | done result =>
      cases recorded
      exact completes_done.mpr ⟨rfl, rfl, rfl⟩
  | fail reason => cases recorded
  | call op next ih =>
      rw [record] at recorded
      rcases answered : world.answer op s with ⟨reason | answer, middle⟩
      · rw [answered] at recorded
        cases recorded
      · rw [answered] at recorded
        obtain ⟨later, found, same⟩ := Option.map_eq_some_iff.mp recorded
        obtain ⟨events, value, t⟩ := later
        cases same
        exact completes_call.mpr
          ⟨answer, middle, events, rfl, follows _ _ _ _ answered, ih answer found⟩

theorem schedule_interleaved (follows : Follows world rules)
    {pool threads rest : Nat → Program Op Answer ε α} {start : σ} {order : List Nat}
    {run more : Run Op Answer σ} (earlier : Interleaved rules pool start run threads s)
    (scheduled : schedule world order threads s = some (more, rest, t)) :
    Interleaved rules pool start (run ++ more) rest t := by
  induction order generalizing run threads s more with
  | nil =>
      cases scheduled
      rw [List.append_nil]
      exact earlier
  | cons thread order ih =>
      rw [schedule] at scheduled
      rcases calls : threads thread with value | reason | ⟨op, next⟩
      · rw [calls] at scheduled
        cases scheduled
      · rw [calls] at scheduled
        cases scheduled
      · rw [calls] at scheduled
        dsimp only at scheduled
        rcases answered : world.answer op s with ⟨reason | answer, middle⟩
        · rw [answered] at scheduled
          cases scheduled
        · rw [answered] at scheduled
          obtain ⟨later, found, same⟩ := Option.map_eq_some_iff.mp scheduled
          obtain ⟨tail, rest', t'⟩ := later
          cases same
          have step := earlier.step calls (follows _ _ _ _ answered)
          have whole := ih step found
          rwa [List.append_assoc] at whole

end Follows

end Interaction
