import Mathlib.Logic.Basic

set_option autoImplicit false

/- Programs that read their input one symbol at a time from a source they do not
control, and simulations between two such sources. -/
namespace Reading

/-- A source of symbols. Its end is reported in-band, by the symbol `eof`. `size`
bounds how many other symbols are still to come. -/
structure Reader (ε : Type) {α : Type} (eof : α) (σ : Type) where
  next : σ → Except ε α × σ
  size : σ → Nat
  size_le : ∀ s, size (next s).2 ≤ size s
  size_lt : ∀ s c, (next s).1 = .ok c → c ≠ eof → size (next s).2 < size s

/-- A program over a source: a result or a failure, and the source it leaves. -/
def Action (σ ε β : Type) : Type := σ → Except ε β × σ

namespace Action

variable {σ ε β γ : Type}

def pure (value : β) : Action σ ε β := fun s => (.ok value, s)

def lift (result : Except ε β) : Action σ ε β := fun s => (result, s)

def bind (first : Action σ ε β) (next : β → Action σ ε γ) : Action σ ε γ := fun s =>
  match first s with
  | (.ok value, s) => next value s
  | (.error reason, s) => (.error reason, s)

instance : Monad (Action σ ε) where
  pure := pure
  bind := bind

theorem bind_ok {first : Action σ ε β} {next : β → Action σ ε γ} {s t : σ} {value : β}
    (success : first s = (.ok value, t)) : (first >>= next) s = next value t := by
  change bind first next s = _
  simp only [bind, success]

theorem bind_error {first : Action σ ε β} {next : β → Action σ ε γ} {s t : σ} {reason : ε}
    (failed : first s = (.error reason, t)) : (first >>= next) s = (.error reason, t) := by
  change bind first next s = _
  simp only [bind, failed]

end Action

variable {ε α σ τ : Type} {eof : α}

/-- Reading one symbol, as a program. -/
def Reader.get (R : Reader ε eof σ) : Action σ ε α := R.next

/-- The states of two sources that give the same symbols, until the first source is in
a state that `ended` gives up on. -/
structure Simulation (R : Reader ε eof σ) (S : Reader ε eof τ) where
  rel : σ → τ → Prop
  ended : σ → Prop
  next : ∀ s t, rel s t →
    ended (R.next s).2 ∨ ((R.next s).1 = (S.next t).1 ∧ rel (R.next s).2 (S.next t).2)
  ended_next : ∀ s, ended s → ended (R.next s).2

namespace Simulation

variable {R : Reader ε eof σ} {S : Reader ε eof τ} {β γ : Type}

/-- Two outcomes with the same result in related states. -/
def Agree (sim : Simulation R S) (x : Except ε β × σ) (y : Except ε β × τ) : Prop :=
  sim.ended x.2 ∨ (x.1 = y.1 ∧ sim.rel x.2 y.2)

/-- A program that cannot tell the two sources apart. -/
structure Respects (sim : Simulation R S) (f : Action σ ε β) (g : Action τ ε β) : Prop where
  agree : ∀ s t, sim.rel s t → sim.Agree (f s) (g t)
  ended : ∀ s, sim.ended s → sim.ended (f s).2

variable (sim : Simulation R S)

theorem respects_get : sim.Respects R.get S.get := ⟨sim.next, sim.ended_next⟩

theorem respects_lift (result : Except ε β) :
    sim.Respects (Action.lift result) (Action.lift result) :=
  ⟨fun _ _ related => Or.inr ⟨rfl, related⟩, fun _ ended => ended⟩

theorem respects_pure (value : β) :
    sim.Respects (Pure.pure value : Action σ ε β) (Pure.pure value : Action τ ε β) :=
  sim.respects_lift (.ok value)

variable {sim}

theorem Respects.bind {f : Action σ ε β} {g : Action τ ε β} {h : β → Action σ ε γ}
    {k : β → Action τ ε γ} (first : sim.Respects f g)
    (later : ∀ value, sim.Respects (h value) (k value)) :
    sim.Respects (f >>= h) (g >>= k) := by
  constructor
  · intro s t related
    rcases left : f s with ⟨result, s'⟩
    rcases right : g t with ⟨result', t'⟩
    rcases first.agree s t related with ended | ⟨same, related'⟩
    · left
      rw [left] at ended
      cases result with
      | ok value =>
          rw [Action.bind_ok left]
          exact (later value).ended s' ended
      | error reason =>
          rw [Action.bind_error left]
          exact ended
    · rw [left, right] at same related'
      obtain rfl : result = result' := same
      cases result with
      | ok value =>
          rw [Action.bind_ok left, Action.bind_ok right]
          exact (later value).agree s' t' related'
      | error reason =>
          rw [Action.bind_error left, Action.bind_error right]
          exact Or.inr ⟨rfl, related'⟩
  · intro s ended
    have reached := first.ended s ended
    rcases left : f s with ⟨result, s'⟩
    rw [left] at reached
    cases result with
    | ok value =>
        rw [Action.bind_ok left]
        exact (later value).ended s' reached
    | error reason =>
        rw [Action.bind_error left]
        exact reached

end Simulation

/-- The source that holds its whole input; `ended` records that its end was reported. -/
structure Text (α : Type) where
  rest : List α
  ended : Bool

namespace Text

def next (eof : α) (t : Text α) : Except ε α × Text α :=
  match t.rest with
  | [] => (.ok eof, ⟨[], true⟩)
  | c :: rest => (.ok c, ⟨rest, t.ended⟩)

def reader (ε : Type) {α : Type} (eof : α) : Reader ε eof (Text α) where
  next := next eof
  size t := t.rest.length
  size_le t := by
    rcases t with ⟨_ | ⟨c, rest⟩, ended⟩
    · exact Nat.le_refl _
    · exact Nat.le_succ _
  size_lt t c given other := by
    rcases t with ⟨_ | ⟨d, rest⟩, ended⟩
    · exact absurd (Except.ok.inj given).symm other
    · exact Nat.lt_succ_self _

theorem next_cons (c : α) (rest : List α) (ended : Bool) :
    (reader ε eof).next ⟨c :: rest, ended⟩ = (.ok c, ⟨rest, ended⟩) := rfl

theorem get_cons (c : α) (rest : List α) (ended : Bool) :
    (reader ε eof).get ⟨c :: rest, ended⟩ = (.ok c, ⟨rest, ended⟩) := rfl

/-- More input behind the text does not matter before the end is reported. -/
def extension (ε : Type) (eof : α) (more : List α) :
    Simulation (reader ε eof) (reader ε eof) where
  rel t u := t.ended = false ∧ u = ⟨t.rest ++ more, false⟩
  ended t := t.ended = true
  next := by
    rintro ⟨rest, ended⟩ u ⟨live, rfl⟩
    cases rest with
    | nil => exact Or.inl rfl
    | cons c rest => exact Or.inr ⟨rfl, live, rfl⟩
  ended_next := by
    rintro ⟨_ | ⟨c, rest⟩, ended⟩ finished
    · rfl
    · exact finished

/-- What is left of a text is an end of it. -/
def suffix (ε : Type) (eof : α) (whole : List α) :
    Simulation (reader ε eof) (reader ε eof) where
  rel t u := t = u ∧ t.rest <:+ whole
  ended _ := False
  next := by
    rintro ⟨rest, ended⟩ u ⟨rfl, left⟩
    cases rest with
    | nil => exact Or.inr ⟨rfl, rfl, List.nil_suffix⟩
    | cons c rest => exact Or.inr ⟨rfl, rfl, (List.suffix_cons c rest).trans left⟩
  ended_next _ never := never

/-- The end of a text does not matter to a program that does not get there. -/
def replaced (ε : Type) (eof : α) (rest more : List α) :
    Simulation (reader ε eof) (reader ε eof) where
  rel t u := t.ended = false ∧ ∃ used, t.rest = used ++ rest ∧ u = ⟨used ++ more, false⟩
  ended t := t.ended = true ∨ t.rest.length < rest.length
  next := by
    rintro ⟨text, ended⟩ u ⟨live, used, same, rfl⟩
    cases used with
    | cons c used =>
        dsimp only at same
        subst same
        exact Or.inr ⟨rfl, live, used, rfl, rfl⟩
    | nil =>
        left
        cases rest with
        | nil =>
            dsimp only [List.nil_append] at same
            subst same
            exact Or.inl rfl
        | cons c rest =>
            dsimp only [List.nil_append] at same
            subst same
            exact Or.inr (Nat.lt_succ_self _)
  ended_next := by
    rintro ⟨_ | ⟨c, text⟩, ended⟩ finished
    · exact Or.inl rfl
    · rcases finished with reported | short
      · exact Or.inl reported
      · exact Or.inr (Nat.lt_of_succ_lt short)

end Text

end Reading
