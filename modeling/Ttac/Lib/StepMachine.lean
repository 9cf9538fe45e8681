import Mathlib.Logic.Relation

set_option autoImplicit false

/- Deterministic machines given by one step function: bounded runs, the states a
run reaches, and rules for termination, divergence and invariants. -/
namespace StepMachine

variable {σ ρ : Type}

/-- What one step does: continue in a state or stop with a result. -/
inductive Step (σ ρ : Type) where
  | next (state : σ)
  | stop (result : ρ)

/-- The result of at most `fuel` steps, `none` while still running. -/
def run (step : σ → Step σ ρ) : Nat → σ → Option ρ
  | 0, _ => none
  | fuel + 1, s =>
    match step s with
    | .next t => run step fuel t
    | .stop r => some r

def Goes (step : σ → Step σ ρ) (s t : σ) : Prop := step s = .next t

def Reaches (step : σ → Step σ ρ) : σ → σ → Prop := Relation.ReflTransGen (Goes step)

/-- The machine started in `s` stops with the result `r`. -/
def Yields (step : σ → Step σ ρ) (s : σ) (r : ρ) : Prop := ∃ fuel, run step fuel s = some r

def Halts (step : σ → Step σ ρ) (s : σ) : Prop := ∃ r, Yields step s r

variable {step : σ → Step σ ρ}

theorem run_next {s t : σ} (goes : step s = .next t) (fuel : Nat) :
    run step (fuel + 1) s = run step fuel t := by
  simp only [run, goes]

theorem run_stop {s : σ} {r : ρ} (stops : step s = .stop r) (fuel : Nat) :
    run step (fuel + 1) s = some r := by
  simp only [run, stops]

theorem run_mono {fuel more : Nat} {s : σ} {r : ρ} (result : run step fuel s = some r)
    (le : fuel ≤ more) : run step more s = some r := by
  induction fuel generalizing more s with
  | zero => cases result
  | succ fuel ih =>
      obtain ⟨more, rfl⟩ : ∃ k, more = k + 1 := ⟨more - 1, by omega⟩
      cases outcome : step s with
      | next t =>
          rw [run_next outcome] at result ⊢
          exact ih result (by omega)
      | stop r' =>
          rw [run_stop outcome] at result ⊢
          exact result

theorem Yields.unique {s : σ} {r r' : ρ} (first : Yields step s r) (second : Yields step s r') :
    r = r' := by
  obtain ⟨n, first⟩ := first
  obtain ⟨m, second⟩ := second
  have left := run_mono first (Nat.le_max_left n m)
  have right := run_mono second (Nat.le_max_right n m)
  exact Option.some.inj (left.symm.trans right)

theorem Yields.of_stop {s : σ} {r : ρ} (stops : step s = .stop r) : Yields step s r :=
  ⟨1, run_stop stops 0⟩

theorem yields_iff_of_goes {s t : σ} (goes : step s = .next t) (r : ρ) :
    Yields step s r ↔ Yields step t r := by
  constructor
  · intro ⟨fuel, result⟩
    cases fuel with
    | zero => cases result
    | succ fuel => exact ⟨fuel, by rwa [run_next goes] at result⟩
  · intro ⟨fuel, result⟩
    exact ⟨fuel + 1, by rwa [run_next goes]⟩

theorem Reaches.of_goes {s t : σ} (goes : step s = .next t) : Reaches step s t :=
  Relation.ReflTransGen.single goes

theorem Reaches.yields_iff {s t : σ} (reaches : Reaches step s t) (r : ρ) :
    Yields step s r ↔ Yields step t r := by
  induction reaches with
  | refl => rfl
  | tail _ goes ih => exact ih.trans (yields_iff_of_goes goes r)

theorem Reaches.halts_iff {s t : σ} (reaches : Reaches step s t) :
    Halts step s ↔ Halts step t :=
  exists_congr fun r => reaches.yields_iff r

/-- A property of the first state that every step keeps holds of every state reached. -/
theorem Reaches.invariant {s t : σ} (Inv : σ → Prop) (start : Inv s)
    (keeps : ∀ a b, Inv a → step a = .next b → Inv b) (reaches : Reaches step s t) : Inv t := by
  induction reaches with
  | refl => exact start
  | tail _ goes ih => exact keeps _ _ ih goes

/-- Every state that the machine comes to, from `s` on, has the property. -/
def Always (step : σ → Step σ ρ) (P : σ → Prop) (s : σ) : Prop := ∀ t, Reaches step s t → P t

/-- The machine comes from `s` to `t`, and all states before `t` have the property. -/
def Along (step : σ → Step σ ρ) (P : σ → Prop) : σ → σ → Prop :=
  Relation.ReflTransGen fun s t => P s ∧ Goes step s t

section Always

variable {P : σ → Prop} {s t : σ}

theorem Along.of_goes (holds : P s) (goes : step s = .next t) : Along step P s t :=
  Relation.ReflTransGen.single ⟨holds, goes⟩

theorem Along.reaches (along : Along step P s t) : Reaches step s t :=
  along.lift id fun _ _ both => both.2

theorem reaches_of_goes {u : σ} (goes : step s = .next t) :
    Reaches step s u ↔ s = u ∨ Reaches step t u := by
  constructor
  · intro reaches
    rcases Relation.ReflTransGen.cases_head reaches with same | ⟨middle, first, later⟩
    · exact .inl same
    · have same : middle = t := by
        have both := first.symm.trans goes
        cases both
        rfl
      exact .inr (same ▸ later)
  · rintro (same | later)
    · exact same ▸ .refl
    · exact (Reaches.of_goes goes).trans later

theorem always_of_goes (goes : step s = .next t) :
    Always step P s ↔ P s ∧ Always step P t := by
  simp only [Always, reaches_of_goes goes, or_imp, forall_and, forall_eq']

theorem always_of_stop {r : ρ} (stops : step s = .stop r) : Always step P s ↔ P s := by
  constructor
  · intro always
    exact always s .refl
  · intro holds t reaches
    rcases Relation.ReflTransGen.cases_head reaches with same | ⟨middle, first, -⟩
    · exact same ▸ holds
    · exact absurd (first.symm.trans stops) (by simp)

/-- What holds on the way adds nothing to what holds from its end on. -/
theorem Along.always_iff (along : Along step P s t) : Always step P s ↔ Always step P t := by
  induction along with
  | refl => rfl
  | tail _ last ih => rw [ih, always_of_goes last.2, and_iff_right last.1]

/-- In a cycle of two steps the machine comes to these two states only. -/
theorem always_of_cycle (goes : step s = .next t) (holds : P s) (back : step t = .next s)
    (also : P t) : Always step P s := by
  intro u reaches
  have either : u = s ∨ u = t := by
    apply reaches.invariant (fun u => u = s ∨ u = t) (.inl rfl)
    rintro a b (rfl | rfl) later
    · exact .inr (Step.next.inj (later.symm.trans goes))
    · exact .inl (Step.next.inj (later.symm.trans back))
  rcases either with rfl | rfl
  · exact holds
  · exact also

end Always

/-- Steps use up fuel, so a state reached in at least one step has less of it left. -/
theorem run_of_transGen {s t : σ} {fuel : Nat} {r : ρ}
    (path : Relation.TransGen (Goes step) s t) (result : run step fuel s = some r) :
    ∃ less < fuel, run step less t = some r := by
  have one : ∀ {a b : σ} {n : Nat}, Goes step a b → run step n a = some r →
      ∃ less < n, run step less b = some r := by
    intro a b n goes done
    cases n with
    | zero => cases done
    | succ n => exact ⟨n, by omega, by rwa [run_next goes] at done⟩
  induction path with
  | single goes => exact one goes result
  | tail _ goes ih =>
      obtain ⟨middle, below, later⟩ := ih
      obtain ⟨less, lower, last⟩ := one goes later
      exact ⟨less, by omega, last⟩

/-- A state that comes back to itself never stops. -/
theorem not_halts_of_cycle {s : σ} (cycle : Relation.TransGen (Goes step) s s) :
    ¬ Halts step s := by
  intro ⟨r, fuel, result⟩
  induction fuel using Nat.strongRecOn with
  | ind fuel ih =>
      obtain ⟨less, below, again⟩ := run_of_transGen cycle result
      exact ih less below again

end StepMachine
