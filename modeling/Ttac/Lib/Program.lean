set_option autoImplicit false

/- Programs that call an environment: what they may call, and what they do in a given
one. -/
namespace Interaction

/-- `Op` are the calls and `Answer op` what the environment may answer. -/
inductive Program (Op : Type) (Answer : Op → Type) (ε α : Type) where
  | done (value : α)
  | fail (reason : ε)
  | call (op : Op) (next : Answer op → Program Op Answer ε α)

namespace Program

variable {Op : Type} {Answer : Op → Type} {ε α β σ : Type}

def bind (first : Program Op Answer ε α) (next : α → Program Op Answer ε β) :
    Program Op Answer ε β :=
  match first with
  | .done value => next value
  | .fail reason => .fail reason
  | .call op later => .call op fun answer => (later answer).bind next

instance : Monad (Program Op Answer ε) where
  pure := .done
  bind := bind

/-- One call. -/
def perform (op : Op) : Program Op Answer ε (Answer op) := .call op .done

/-- A result that needs no call. -/
def lift : Except ε α → Program Op Answer ε α
  | .ok value => .done value
  | .error reason => .fail reason

@[simp] theorem pure_bind_eq (value : α) (next : α → Program Op Answer ε β) :
    (pure value >>= next : Program Op Answer ε β) = next value := rfl

@[simp] theorem lift_ok_bind (value : α) (next : α → Program Op Answer ε β) :
    (lift (.ok value) >>= next : Program Op Answer ε β) = next value := rfl

@[simp] theorem lift_error_bind (reason : ε) (next : α → Program Op Answer ε β) :
    (lift (.error reason) >>= next : Program Op Answer ε β) = .fail reason := rfl

@[simp] theorem call_bind (op : Op) (later : Answer op → Program Op Answer ε α)
    (next : α → Program Op Answer ε β) :
    (Program.call op later >>= next : Program Op Answer ε β) =
      .call op fun answer => later answer >>= next := rfl

theorem bind_bind {γ : Type} (first : Program Op Answer ε α) (next : α → Program Op Answer ε β)
    (last : β → Program Op Answer ε γ) :
    first >>= next >>= last = first >>= fun value => next value >>= last := by
  induction first with
  | done value => rfl
  | fail reason => rfl
  | call op later ih =>
      simp only [call_bind, ih]

/-- Whatever the environment answers, every call satisfies `P`. -/
def Always (P : Op → Prop) : Program Op Answer ε α → Prop
  | .done _ => True
  | .fail _ => True
  | .call op next => P op ∧ ∀ answer, (next answer).Always P

/-- Whatever the environment answers, every result satisfies `Q`. -/
def Returns (Q : α → Prop) : Program Op Answer ε α → Prop
  | .done value => Q value
  | .fail _ => True
  | .call _ next => ∀ answer, (next answer).Returns Q

@[simp] theorem always_fail (P : Op → Prop) (reason : ε) :
    (Program.fail reason : Program Op Answer ε α).Always P := trivial

/-- Behind a part that keeps to `P` and returns only what satisfies `Q`. -/
theorem Always.bind_returns {P : Op → Prop} {Q : α → Prop} {first : Program Op Answer ε α}
    {next : α → Program Op Answer ε β} (before : first.Always P) (returns : first.Returns Q)
    (after : ∀ value, Q value → (next value).Always P) : (first >>= next).Always P := by
  induction first with
  | done value => exact after value returns
  | fail reason => trivial
  | call op later ih => exact ⟨before.1, fun answer => ih answer (before.2 answer) (returns answer)⟩

theorem Returns.bind {Q : α → Prop} {R : β → Prop} {first : Program Op Answer ε α}
    {next : α → Program Op Answer ε β} (returns : first.Returns Q)
    (after : ∀ value, Q value → (next value).Returns R) : (first >>= next).Returns R := by
  induction first with
  | done value => exact after value returns
  | fail reason => trivial
  | call op later ih => exact fun answer => ih answer (returns answer)

theorem Always.bind {P : Op → Prop} {first : Program Op Answer ε α}
    {next : α → Program Op Answer ε β} (before : first.Always P)
    (after : ∀ value, (next value).Always P) : (first >>= next).Always P := by
  induction first with
  | done value => exact after value
  | fail reason => trivial
  | call op later ih => exact ⟨before.1, fun answer => ih answer (before.2 answer)⟩

@[simp] theorem always_lift_bind {P : Op → Prop} {result : Except ε α}
    {next : α → Program Op Answer ε β} :
    (lift result >>= next).Always P ↔ ∀ value, result = .ok value → (next value).Always P := by
  cases result with
  | ok value => simp only [lift_ok_bind, Except.ok.injEq, forall_eq']
  | error reason =>
      simp only [lift_error_bind, always_fail, reduceCtorEq, false_implies, implies_true]

@[simp] theorem always_ite {P : Op → Prop} {p : Prop} [Decidable p]
    {first second : Program Op Answer ε α} :
    (if p then first else second).Always P ↔ (p → first.Always P) ∧ (¬ p → second.Always P) := by
  by_cases holds : p <;> simp [holds]

/-- An environment: its state, and how it answers or breaks off a call. -/
structure World (Op : Type) (Answer : Op → Type) (ε σ : Type) where
  answer : (op : Op) → σ → Except ε (Answer op) × σ

/-- The program in an environment. -/
def run (world : World Op Answer ε σ) : Program Op Answer ε α → σ → Except ε α × σ
  | .done value, s => (.ok value, s)
  | .fail reason, s => (.error reason, s)
  | .call op next, s =>
    match world.answer op s with
    | (.ok answer, s) => (next answer).run world s
    | (.error reason, s) => (.error reason, s)

section Run

variable (world : World Op Answer ε σ)

@[simp] theorem run_lift (result : Except ε α) (s : σ) :
    (lift result : Program Op Answer ε α).run world s = (result, s) := by
  cases result <;> rfl

/-- A call that is answered. -/
theorem run_call_ok {op : Op} {next : Answer op → Program Op Answer ε α} {s t : σ}
    {answer : Answer op} (answered : world.answer op s = (.ok answer, t)) :
    (call op next).run world s = (next answer).run world t := by
  rw [run, answered]

theorem run_call_error {op : Op} {next : Answer op → Program Op Answer ε α} {s t : σ} {reason : ε}
    (broken : world.answer op s = (.error reason, t)) :
    (call op next).run world s = (.error reason, t) := by
  rw [run, broken]

theorem run_bind (first : Program Op Answer ε α) (next : α → Program Op Answer ε β) (s : σ) :
    (first >>= next).run world s =
      match first.run world s with
      | (.ok value, t) => (next value).run world t
      | (.error reason, t) => (.error reason, t) := by
  induction first generalizing s with
  | done value => rfl
  | fail reason => rfl
  | call op later ih =>
      rw [call_bind, run, run]
      cases world.answer op s with
      | mk result t =>
          cases result with
          | ok answer => exact ih answer t
          | error reason => rfl

/-- What ends a part ends the whole. -/
theorem run_bind_error {first : Program Op Answer ε α} (next : α → Program Op Answer ε β) {s t : σ}
    {reason : ε} (broken : first.run world s = (.error reason, t)) :
    (first >>= next).run world s = (.error reason, t) := by
  rw [run_bind, broken]

end Run

end Program

end Interaction
