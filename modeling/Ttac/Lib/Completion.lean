import Ttac.Lib.Threads

set_option autoImplicit false

/- Programs that come to their end alone, and what runs of them one behind the other keep. -/
namespace Interaction

variable {Op : Type} {Answer : Op → Type} {ε α β σ : Type}

/-- The program goes through the history to its end, with its calls answered by the rules. -/
def Completes (rules : Rules Op Answer σ) (program : Program Op Answer ε α) (s : σ)
    (events : List (Exchange Op Answer)) (value : α) (t : σ) : Prop :=
  program.Runs events (.done value) ∧ Path rules s events t

section Completes

variable {rules : Rules Op Answer σ} {s t : σ} {events : List (Exchange Op Answer)} {value : α}

theorem completes_done {result : α} :
    Completes rules (.done result : Program Op Answer ε α) s events value t ↔
      events = [] ∧ value = result ∧ t = s := by
  constructor
  · intro completes
    obtain ⟨runs, path⟩ := completes
    cases runs
    exact ⟨rfl, rfl, path_nil_iff.mp path⟩
  · intro parts
    obtain ⟨none, same, stays⟩ := parts
    subst none same stays
    exact ⟨.nil _, .nil _⟩

theorem completes_fail {reason : ε} :
    ¬ Completes rules (.fail reason : Program Op Answer ε α) s events value t := by
  intro completes
  cases completes.1

theorem completes_call {op : Op} {next : Answer op → Program Op Answer ε α} :
    Completes rules (.call op next) s events value t ↔
      ∃ answer middle later, events = ⟨op, answer⟩ :: later ∧ rules op answer s middle ∧
        Completes rules (next answer) middle later value t := by
  constructor
  · intro completes
    obtain ⟨runs, path⟩ := completes
    cases runs with
    | cons later =>
        obtain ⟨middle, answered, rest⟩ := path_cons_iff.mp path
        exact ⟨_, middle, _, rfl, answered, later, rest⟩
  · intro parts
    obtain ⟨answer, middle, later, whole, answered, runs, path⟩ := parts
    subst whole
    exact ⟨.cons runs, .cons answered path⟩

theorem completes_lift_bind {result : Except ε β} {next : β → Program Op Answer ε α} :
    Completes rules (Program.lift result >>= next) s events value t ↔
      ∃ found, result = .ok found ∧ Completes rules (next found) s events value t := by
  cases result with
  | ok found => simp only [Program.lift_ok_bind, Except.ok.injEq, exists_eq_left']
  | error reason =>
      simp only [Program.lift_error_bind, reduceCtorEq, false_and, exists_false, iff_false]
      exact completes_fail

theorem completes_ite {p : Prop} [Decidable p] {first second : Program Op Answer ε α} :
    Completes rules (if p then first else second) s events value t ↔
      (p ∧ Completes rules first s events value t) ∨
        (¬ p ∧ Completes rules second s events value t) := by
  by_cases holds : p <;> simp [holds]

/-- What the calls of a kind keep of the state. -/
theorem Completes.keeps {P : Op → Prop} {R : σ → σ → Prop} {program : Program Op Answer ε α}
    (completes : Completes rules program s events value t) (always : program.Always P)
    (refl : ∀ s, R s s) (trans : ∀ s t u, R s t → R t u → R s u)
    (step : ∀ op answer s t, P op → rules op answer s t → R s t) : R s t := by
  induction program generalizing s events with
  | done result =>
      obtain ⟨-, -, stays⟩ := completes_done.mp completes
      subst stays
      exact refl _
  | fail reason => exact absurd completes completes_fail
  | call op next ih =>
      obtain ⟨answer, middle, later, -, answered, rest⟩ := completes_call.mp completes
      exact trans _ _ _ (step _ _ _ _ always.1 answered) (ih answer rest (always.2 answer))

/-- Where each call of a kind can be answered alike from a related state, so can the program. -/
theorem Completes.simulates {P : Op → Prop} {R : σ → σ → Prop} {program : Program Op Answer ε α}
    {other : σ} (completes : Completes rules program s events value t) (always : program.Always P)
    (related : R s other)
    (step : ∀ op answer s t other, P op → rules op answer s t → R s other →
      ∃ u, rules op answer other u ∧ R t u) :
    ∃ u, Completes rules program other events value u ∧ R t u := by
  induction program generalizing s other events with
  | done result =>
      obtain ⟨none, same, stays⟩ := completes_done.mp completes
      subst stays
      exact ⟨other, completes_done.mpr ⟨none, same, rfl⟩, related⟩
  | fail reason => exact absurd completes completes_fail
  | call op next ih =>
      obtain ⟨answer, middle, later, whole, answered, rest⟩ := completes_call.mp completes
      obtain ⟨between, here, close⟩ := step op answer s middle other always.1 answered related
      obtain ⟨u, behind, ends⟩ := ih answer rest (always.2 answer) close
      exact ⟨u, completes_call.mpr ⟨answer, between, later, whole, here, behind⟩, ends⟩

end Completes

/-- However the rules answer it, the program is never without an answer, does not fail, and comes
to an end where `Q` holds. -/
def Ends (rules : Rules Op Answer σ) : Program Op Answer ε α → σ →
    (List (Exchange Op Answer) → α → σ → Prop) → Prop
  | .done value, s, Q => Q [] value s
  | .fail _, _, _ => False
  | .call op next, s, Q => (∃ answer t, rules op answer s t) ∧ ∀ answer t, rules op answer s t →
      Ends rules (next answer) t fun events value u => Q (⟨op, answer⟩ :: events) value u

end Interaction
