import Ttac.Lib.Program

set_option autoImplicit false

/- Histories: the calls a program has made with the answers it got, and what it does
behind them. -/
namespace Interaction

structure Exchange (Op : Type) (Answer : Op → Type) where
  op : Op
  answer : Answer op

/-- What a program does next. -/
inductive Status (Op ε α : Type) where
  | calling (op : Op)
  | returned (value : α)
  | failed (reason : ε)

namespace Program

variable {Op : Type} {Answer : Op → Type} {ε α β : Type}

/-- `program.Runs events rest`: behind the calls and answers of `events`, `rest` is left. -/
inductive Runs :
    Program Op Answer ε α → List (Exchange Op Answer) → Program Op Answer ε α → Prop where
  | nil (program : Program Op Answer ε α) : Runs program [] program
  | cons {op : Op} {next : Answer op → Program Op Answer ε α} {answer : Answer op}
      {events : List (Exchange Op Answer)} {rest : Program Op Answer ε α}
      (later : Runs (next answer) events rest) : Runs (.call op next) (⟨op, answer⟩ :: events) rest

def status : Program Op Answer ε α → Status Op ε α
  | .done value => .returned value
  | .fail reason => .failed reason
  | .call op _ => .calling op

section Runs

theorem runs_nil_iff {program rest : Program Op Answer ε α} :
    program.Runs [] rest ↔ rest = program := by
  constructor
  · intro runs
    cases runs
    rfl
  · intro same
    subst same
    exact .nil _

theorem runs_cons_iff {program rest : Program Op Answer ε α} {event : Exchange Op Answer}
    {events : List (Exchange Op Answer)} :
    program.Runs (event :: events) rest ↔
      ∃ next, program = .call event.op next ∧ (next event.answer).Runs events rest := by
  constructor
  · intro runs
    cases runs with
    | cons later => exact ⟨_, rfl, later⟩
  · intro ⟨next, same, later⟩
    subst same
    exact .cons later

theorem Runs.append {first second rest : Program Op Answer ε α}
    {before after : List (Exchange Op Answer)} (runs : first.Runs before second)
    (later : second.Runs after rest) : first.Runs (before ++ after) rest := by
  induction runs with
  | nil => exact later
  | cons _ ih => exact .cons (ih later)

/-- The part of a history in front of a call. -/
theorem Runs.split {program rest : Program Op Answer ε α} {before after : List (Exchange Op Answer)}
    (runs : program.Runs (before ++ after) rest) :
    ∃ middle, program.Runs before middle ∧ middle.Runs after rest := by
  induction before generalizing program with
  | nil => exact ⟨program, .nil program, runs⟩
  | cons event before ih =>
      obtain ⟨next, same, later⟩ := runs_cons_iff.mp runs
      obtain ⟨middle, first, last⟩ := ih later
      exact ⟨middle, runs_cons_iff.mpr ⟨next, same, first⟩, last⟩

theorem Runs.calling {program rest : Program Op Answer ε α}
    {before after : List (Exchange Op Answer)} {event : Exchange Op Answer}
    (runs : program.Runs (before ++ event :: after) rest) :
    ∃ next, program.Runs before (.call event.op next) := by
  obtain ⟨middle, first, last⟩ := runs.split
  obtain ⟨next, same, -⟩ := runs_cons_iff.mp last
  exact ⟨next, same ▸ first⟩

end Runs

/-- Behind every history of the program, `Q` holds of the history and of what comes next. -/
def Meets (Q : List (Exchange Op Answer) → Status Op ε α → Prop) : Program Op Answer ε α → Prop
  | .done value => Q [] (.returned value)
  | .fail reason => Q [] (.failed reason)
  | .call op next => Q [] (.calling op) ∧
      ∀ answer, (next answer).Meets fun events => Q (⟨op, answer⟩ :: events)

section Meets

variable {Q R : List (Exchange Op Answer) → Status Op ε α → Prop}

theorem Meets.here {program : Program Op Answer ε α} (meets : program.Meets Q) :
    Q [] program.status := by
  cases program with
  | done value => exact meets
  | fail reason => exact meets
  | call op next => exact meets.1

theorem meets_iff (program : Program Op Answer ε α) :
    program.Meets Q ↔ ∀ events rest, program.Runs events rest → Q events rest.status := by
  constructor
  · intro meets events rest runs
    induction runs generalizing Q with
    | nil program => exact meets.here
    | cons later ih => exact ih (meets.2 _)
  · intro all
    induction program generalizing Q with
    | done value => exact all [] _ (.nil _)
    | fail reason => exact all [] _ (.nil _)
    | call op next ih =>
        refine ⟨all [] _ (.nil _), ?_⟩
        intro answer
        apply ih
        intro events rest runs
        exact all _ _ (.cons runs)

theorem Meets.mono {program : Program Op Answer ε α} (meets : program.Meets Q)
    (weaker : ∀ events status, Q events status → R events status) : program.Meets R := by
  rw [meets_iff] at meets ⊢
  intro events rest runs
  exact weaker events _ (meets events rest runs)

/-- What a part of a program has to meet for the whole to meet `Q`. -/
def Behind (Q : List (Exchange Op Answer) → Status Op ε β → Prop)
    (next : α → Program Op Answer ε β) (events : List (Exchange Op Answer)) :
    Status Op ε α → Prop
  | .calling op => Q events (.calling op)
  | .returned value => (next value).Meets fun later => Q (events ++ later)
  | .failed reason => Q events (.failed reason)

section Behind

variable {Q : List (Exchange Op Answer) → Status Op ε β → Prop} {next : α → Program Op Answer ε β}
  {events : List (Exchange Op Answer)}

theorem behind_calling (op : Op) : Behind Q next events (.calling op) ↔ Q events (.calling op) :=
  Iff.rfl

theorem behind_returned (value : α) : Behind Q next events (.returned value) ↔
    (next value).Meets fun later => Q (events ++ later) := Iff.rfl

theorem behind_failed (reason : ε) :
    Behind Q next events (.failed reason) ↔ Q events (.failed reason) := Iff.rfl

end Behind

theorem meets_bind_iff {Q : List (Exchange Op Answer) → Status Op ε β → Prop}
    (first : Program Op Answer ε α) (next : α → Program Op Answer ε β) :
    (first >>= next).Meets Q ↔ first.Meets (Behind Q next) := by
  induction first generalizing Q with
  | done value => rfl
  | fail reason => rfl
  | call op later ih =>
      apply and_congr_right
      intro _
      apply forall_congr'
      intro answer
      exact ih answer

@[simp] theorem meets_done (value : α) :
    (Program.done value : Program Op Answer ε α).Meets Q ↔ Q [] (.returned value) := Iff.rfl

@[simp] theorem meets_pure (value : α) :
    (pure value : Program Op Answer ε α).Meets Q ↔ Q [] (.returned value) := Iff.rfl

@[simp] theorem meets_fail (reason : ε) :
    (Program.fail reason : Program Op Answer ε α).Meets Q ↔ Q [] (.failed reason) := Iff.rfl

@[simp] theorem meets_call (op : Op) (next : Answer op → Program Op Answer ε α) :
    (Program.call op next).Meets Q ↔ Q [] (.calling op) ∧
      ∀ answer, (next answer).Meets fun events => Q (⟨op, answer⟩ :: events) := Iff.rfl

@[simp] theorem meets_ite {p : Prop} [Decidable p] {first second : Program Op Answer ε α} :
    (if p then first else second).Meets Q ↔ (p → first.Meets Q) ∧ (¬ p → second.Meets Q) := by
  by_cases holds : p <;> simp [holds]

theorem meets_lift_bind {result : Except ε β} {next : β → Program Op Answer ε α} :
    (lift result >>= next).Meets Q ↔
      (∀ value, result = .ok value → (next value).Meets Q) ∧
        ∀ reason, result = .error reason → Q [] (.failed reason) := by
  cases result with
  | ok value => simp only [lift_ok_bind, Except.ok.injEq, forall_eq', reduceCtorEq, false_implies,
      implies_true, and_true]
  | error reason => simp only [lift_error_bind, meets_fail, reduceCtorEq, false_implies,
      implies_true, Except.error.injEq, forall_eq', true_and]

theorem Always.meets {P : Op → Prop} {program : Program Op Answer ε α}
    (always : program.Always P) :
    program.Meets fun events _ => ∀ event ∈ events, P event.op := by
  rw [meets_iff]
  intro events rest runs
  induction runs with
  | nil => simp
  | cons later ih =>
      rw [List.forall_mem_cons]
      exact ⟨always.1, ih (always.2 _)⟩

end Meets

end Program

end Interaction
