import Mathlib.Data.List.Basic
import Mathlib.Logic.Function.Basic
import Ttac.Lib.StepMachine

set_option autoImplicit false

/- Calls that work on a shared state while they hold a lock. However the threads are scheduled, the
state is that of the calls made one behind the other, in the order in which they gave the lock
back. -/
namespace Critical

open StepMachine (Goes Halts Reaches Yields run)

variable {κ γ ρ ω σ : Type}

/-- What a call does while it holds the lock, a step at a time, and what it returns behind it. -/
structure Code (κ γ ρ ω σ : Type) where
  enter : κ → σ → γ
  step : κ → γ × σ → StepMachine.Step (γ × σ) (ρ × σ)
  returns : κ → ρ → σ → ω

/-- Where a thread is: in front of the lock of its next call, inside a call, or behind the lock
and in front of the return. -/
inductive Phase (κ γ ρ : Type) where
  | idle (calls : List κ)
  | inside (call : κ) (control : γ) (calls : List κ)
  | behind (call : κ) (result : ρ) (calls : List κ)
  deriving DecidableEq

/-- The lock with the thread that holds it, the threads, and what they share. -/
structure System (κ γ ρ σ : Type) where
  holder : Option Nat
  phase : Nat → Phase κ γ ρ
  state : σ

inductive Event (κ ρ ω : Type) where
  | lock (thread : Nat) (call : κ)
  | step (thread : Nat)
  | unlock (thread : Nat) (call : κ) (result : ρ)
  | back (thread : Nat) (call : κ) (value : ω)

/-- A call that has given the lock back. -/
structure Done (κ ρ : Type) where
  thread : Nat
  call : κ
  result : ρ

@[simp] def Event.done : Event κ ρ ω → Option (Done κ ρ)
  | .unlock thread call result => some ⟨thread, call, result⟩
  | _ => none

@[simp] def Phase.Inside : Phase κ γ ρ → Prop
  | .inside _ _ _ => True
  | _ => False

/-- The calls that have not given the lock back. -/
@[simp] def Phase.pending : Phase κ γ ρ → List κ
  | .idle calls => calls
  | .inside call _ calls => call :: calls
  | .behind _ _ calls => calls

namespace System

def start (calls : Nat → List κ) (first : σ) : System κ γ ρ σ :=
  ⟨none, fun thread => .idle (calls thread), first⟩

/-- A thread that goes on, with the lock and the state it leaves. -/
def move (s : System κ γ ρ σ) (thread : Nat) (phase : Phase κ γ ρ) (holder : Option Nat)
    (state : σ) : System κ γ ρ σ :=
  ⟨holder, Function.update s.phase thread phase, state⟩

@[simp] theorem move_self (s : System κ γ ρ σ) (thread : Nat) (phase : Phase κ γ ρ)
    (holder : Option Nat) (state : σ) : (s.move thread phase holder state).phase thread = phase :=
  Function.update_self ..

@[simp] theorem move_other (s : System κ γ ρ σ) {thread other : Nat} (phase : Phase κ γ ρ)
    (holder : Option Nat) (state : σ) (differs : other ≠ thread) :
    (s.move thread phase holder state).phase other = s.phase other :=
  Function.update_of_ne differs _ _

end System

/-- What a thread can do. A lock that is held is waited for. -/
inductive Moves (code : Code κ γ ρ ω σ) :
    System κ γ ρ σ → Event κ ρ ω → System κ γ ρ σ → Prop where
  | lock {s : System κ γ ρ σ} {thread : Nat} {call : κ} {calls : List κ}
      (idle : s.phase thread = .idle (call :: calls)) (free : s.holder = none) :
      Moves code s (.lock thread call)
        (s.move thread (.inside call (code.enter call s.state) calls) (some thread) s.state)
  | step {s : System κ γ ρ σ} {thread : Nat} {call : κ} {calls : List κ} {control next : γ}
      {state : σ} (inside : s.phase thread = .inside call control calls)
      (goes : code.step call (control, s.state) = .next (next, state)) :
      Moves code s (.step thread) (s.move thread (.inside call next calls) s.holder state)
  | unlock {s : System κ γ ρ σ} {thread : Nat} {call : κ} {calls : List κ} {control : γ}
      {result : ρ} {state : σ} (inside : s.phase thread = .inside call control calls)
      (stops : code.step call (control, s.state) = .stop (result, state)) :
      Moves code s (.unlock thread call result)
        (s.move thread (.behind call result calls) none state)
  | back {s : System κ γ ρ σ} {thread : Nat} {call : κ} {calls : List κ} {result : ρ}
      (behind : s.phase thread = .behind call result calls) :
      Moves code s (.back thread call (code.returns call result s.state))
        (s.move thread (.idle calls) s.holder s.state)

inductive Runs (code : Code κ γ ρ ω σ) (first : System κ γ ρ σ) :
    List (Event κ ρ ω) → System κ γ ρ σ → Prop where
  | nil : Runs code first [] first
  | snoc {events : List (Event κ ρ ω)} {event : Event κ ρ ω} {s t : System κ γ ρ σ}
      (runs : Runs code first events s) (moves : Moves code s event t) :
      Runs code first (events ++ [event]) t

/-- What a thread does when it is its turn. -/
def advance (code : Code κ γ ρ ω σ) (s : System κ γ ρ σ) (thread : Nat) :
    Option (Event κ ρ ω × System κ γ ρ σ) :=
  match s.phase thread with
  | .idle [] => none
  | .idle (call :: calls) =>
    match s.holder with
    | none => some (.lock thread call,
        s.move thread (.inside call (code.enter call s.state) calls) (some thread) s.state)
    | some _ => none
  | .inside call control calls =>
    match code.step call (control, s.state) with
    | .next (next, state) =>
      some (.step thread, s.move thread (.inside call next calls) s.holder state)
    | .stop (result, state) =>
      some (.unlock thread call result, s.move thread (.behind call result calls) none state)
  | .behind call result calls => some (.back thread call (code.returns call result s.state),
      s.move thread (.idle calls) s.holder s.state)

/-- The run in which the threads have their turns in this order. -/
def schedule (code : Code κ γ ρ ω σ) :
    List Nat → System κ γ ρ σ → Option (List (Event κ ρ ω) × System κ γ ρ σ)
  | [], s => some ([], s)
  | thread :: order, s => do
    let (event, t) ← advance code s thread
    let (events, last) ← schedule code order t
    some (event :: events, last)

/-- The call, made while nobody else does anything, gives the result and leaves the state. -/
def Alone (code : Code κ γ ρ ω σ) (call : κ) (s : σ) (result : ρ) (t : σ) : Prop :=
  Yields (code.step call) (code.enter call s, s) (result, t)

/-- The calls made one behind the other. -/
inductive Serial (code : Code κ γ ρ ω σ) (first : σ) : List (Done κ ρ) → σ → Prop where
  | nil : Serial code first [] first
  | snoc {finished : List (Done κ ρ)} {last : Done κ ρ} {s t : σ}
      (serial : Serial code first finished s) (alone : Alone code last.call s last.result t) :
      Serial code first (finished ++ [last]) t

/-- The finished calls have led to the state `middle`, at most one thread is inside, and it works
on what they left. -/
structure Exclusive (code : Code κ γ ρ ω σ) (first : σ) (finished : List (Done κ ρ)) (middle : σ)
    (s : System κ γ ρ σ) : Prop where
  serial : Serial code first finished middle
  inside_iff : ∀ thread, (s.phase thread).Inside ↔ s.holder = some thread
  free : s.holder = none → s.state = middle
  held : ∀ thread call control calls, s.phase thread = .inside call control calls →
    Reaches (code.step call) (code.enter call middle, middle) (control, s.state)

section Locks

variable {code : Code κ γ ρ ω σ} {first middle : σ} {finished : List (Done κ ρ)}
  {s t : System κ γ ρ σ} {event : Event κ ρ ω} {thread : Nat}

theorem Exclusive.holds (exclusive : Exclusive code first finished middle s) {call : κ}
    {control : γ} {calls : List κ} (inside : s.phase thread = .inside call control calls) :
    s.holder = some thread := by
  apply (exclusive.inside_iff thread).mp
  rw [inside]
  trivial

theorem Exclusive.start (calls : Nat → List κ) :
    Exclusive code first [] first (System.start calls first) where
  serial := .nil
  inside_iff := fun _ => ⟨False.elim, nofun⟩
  free := fun _ => rfl
  held := fun _ _ _ _ => nofun

/-- While a thread holds the lock no other one is inside. -/
theorem Exclusive.alone (exclusive : Exclusive code first finished middle s)
    (holds : s.holder = some thread) {other : Nat} (differs : other ≠ thread) :
    ¬ (s.phase other).Inside := by
  intro inside
  have same := (exclusive.inside_iff other).mp inside
  rw [holds, Option.some.injEq] at same
  exact differs same.symm

/-- A step of the thread that holds the lock is a step of its call. -/
theorem Exclusive.moves (exclusive : Exclusive code first finished middle s)
    (moves : Moves code s event t) :
    ∃ after, Exclusive code first (finished ++ event.done.toList) after t := by
  cases moves with
  | @lock thread call calls idle free =>
      have same := exclusive.free free
      refine ⟨middle, ?_, ?_, nofun, ?_⟩
      · simpa using exclusive.serial
      · intro other
        by_cases own : other = thread
        · subst own
          rw [System.move_self]
          exact iff_of_true trivial rfl
        · rw [System.move_other _ _ _ _ own]
          refine iff_of_false ?_ ?_
          · intro inside
            have holds := (exclusive.inside_iff other).mp inside
            rw [free] at holds
            cases holds
          · intro holds
            exact own (Option.some.inj holds).symm
      · intro other found control rest inside
        by_cases own : other = thread
        · subst own
          rw [System.move_self] at inside
          cases inside
          rw [same]
          exact .refl
        · rw [System.move_other _ _ _ _ own] at inside
          have holds := exclusive.holds inside
          rw [free] at holds
          cases holds
  | @step thread call calls control next state inside goes =>
      have holds := exclusive.holds inside
      refine ⟨middle, ?_, ?_, ?_, ?_⟩
      · simpa using exclusive.serial
      · intro other
        by_cases own : other = thread
        · subst own
          rw [System.move_self]
          exact iff_of_true trivial holds
        · rw [System.move_other _ _ _ _ own]
          exact exclusive.inside_iff other
      · intro free
        cases holds.symm.trans free
      · intro other found reached rest here
        by_cases own : other = thread
        · subst own
          rw [System.move_self] at here
          cases here
          exact (exclusive.held _ _ _ _ inside).tail goes
        · rw [System.move_other _ _ _ _ own] at here
          refine absurd ?_ (exclusive.alone holds own)
          rw [here]
          trivial
  | @unlock thread call calls control result state inside stops =>
      have holds := exclusive.holds inside
      have reached := exclusive.held _ _ _ _ inside
      refine ⟨state, ?_, ?_, fun _ => rfl, ?_⟩
      · exact .snoc exclusive.serial ((reached.yields_iff _).mpr (.of_stop stops))
      · intro other
        refine iff_of_false ?_ nofun
        by_cases own : other = thread
        · subst own
          rw [System.move_self]
          exact id
        · rw [System.move_other _ _ _ _ own]
          exact exclusive.alone holds own
      · intro other found reached rest here
        by_cases own : other = thread
        · subst own
          rw [System.move_self] at here
          cases here
        · rw [System.move_other _ _ _ _ own] at here
          refine absurd ?_ (exclusive.alone holds own)
          rw [here]
          trivial
  | @back thread call calls result behind =>
      have outside : s.holder ≠ some thread := by
        intro holds
        have inside := (exclusive.inside_iff thread).mpr holds
        rw [behind] at inside
        exact inside
      refine ⟨middle, ?_, ?_, exclusive.free, ?_⟩
      · simpa using exclusive.serial
      · intro other
        by_cases own : other = thread
        · subst own
          rw [System.move_self]
          exact iff_of_false id outside
        · rw [System.move_other _ _ _ _ own]
          exact exclusive.inside_iff other
      · intro other found reached rest here
        by_cases own : other = thread
        · subst own
          rw [System.move_self] at here
          cases here
        · rw [System.move_other _ _ _ _ own] at here
          exact exclusive.held _ _ _ _ here

variable {calls : Nat → List κ} {events : List (Event κ ρ ω)}

theorem done_concat (events : List (Event κ ρ ω)) (event : Event κ ρ ω) :
    (events ++ [event]).filterMap Event.done =
      events.filterMap Event.done ++ event.done.toList := by
  rw [List.filterMap_append]
  cases event <;> rfl

/-- In every run at most one thread is inside, and it works on what the finished calls have left,
one behind the other. -/
theorem Runs.exclusive (runs : Runs code (.start calls first) events s) :
    ∃ middle, Exclusive code first (events.filterMap Event.done) middle s := by
  induction runs with
  | nil => exact ⟨first, .start calls⟩
  | snoc _ moves ih =>
      obtain ⟨middle, exclusive⟩ := ih
      obtain ⟨after, later⟩ := exclusive.moves moves
      refine ⟨after, ?_⟩
      rw [done_concat]
      exact later

/-- What a thread has yet to do, in front of a move and behind it. -/
theorem Moves.pending (moves : Moves code s event t) (thread : Nat) :
    (s.phase thread).pending = (event.done.toList.filter fun done => done.thread = thread).map
      Done.call ++ (t.phase thread).pending := by
  cases moves with
  | @lock other _ _ idle _ =>
      by_cases own : thread = other
      · subst own
        simp [idle]
      · simp [own]
  | @step other _ _ _ _ _ inside _ =>
      by_cases own : thread = other
      · subst own
        simp [inside]
      · simp [own]
  | @unlock other _ _ _ _ _ inside _ =>
      by_cases own : thread = other
      · subst own
        simp [inside]
      · simp [own, Ne.symm own]
  | @back other _ _ _ behind =>
      by_cases own : thread = other
      · subst own
        simp [behind]
      · simp [own]

/-- A thread is behind the lock because it was, or because it has just given it back. -/
theorem Moves.behind (moves : Moves code s event t) {call : κ} {result : ρ} {rest : List κ}
    (behind : t.phase thread = .behind call result rest) :
    s.phase thread = .behind call result rest ∨ event.done = some ⟨thread, call, result⟩ := by
  cases moves with
  | @lock other _ _ _ _ =>
      by_cases own : thread = other
      · subst own
        simp at behind
      · exact .inl (by simpa [own] using behind)
  | @step other _ _ _ _ _ _ _ =>
      by_cases own : thread = other
      · subst own
        simp at behind
      · exact .inl (by simpa [own] using behind)
  | @unlock other _ _ _ _ _ _ _ =>
      by_cases own : thread = other
      · subst own
        rw [System.move_self] at behind
        cases behind
        exact .inr rfl
      · exact .inl (by simpa [own] using behind)
  | @back other _ _ _ _ =>
      by_cases own : thread = other
      · subst own
        simp at behind
      · exact .inl (by simpa [own] using behind)

/-- Every thread makes its calls in their order. -/
theorem Runs.program_order (runs : Runs code (.start calls first) events s) (thread : Nat) :
    calls thread = ((events.filterMap Event.done).filter fun done => done.thread = thread).map
      Done.call ++ (s.phase thread).pending := by
  induction runs with
  | nil => rfl
  | snoc _ moves ih =>
      rw [ih, done_concat, List.filter_append, List.map_append, List.append_assoc,
        moves.pending thread]

/-- A call that has not returned has given the lock back with its result. -/
theorem Runs.behind_done (runs : Runs code (.start calls first) events s) {call : κ} {result : ρ}
    {rest : List κ} (behind : s.phase thread = .behind call result rest) :
    (⟨thread, call, result⟩ : Done κ ρ) ∈ events.filterMap Event.done := by
  induction runs with
  | nil => cases behind
  | snoc _ moves ih =>
      rw [done_concat, List.mem_append]
      cases moves.behind behind with
      | inl before => exact .inl (ih before)
      | inr done =>
          rw [done]
          exact .inr (List.mem_singleton_self _)

/-- What is finished and what is pending was called for. -/
theorem Runs.called (runs : Runs code (.start calls first) events s) :
    (∀ done ∈ events.filterMap Event.done, done.call ∈ calls done.thread) ∧
      ∀ thread, ∀ call ∈ (s.phase thread).pending, call ∈ calls thread := by
  constructor
  · intro done member
    rw [runs.program_order done.thread]
    apply List.mem_append_left
    exact List.mem_map.mpr ⟨done, List.mem_filter.mpr ⟨member, decide_eq_true rfl⟩, rfl⟩
  · intro thread call member
    rw [runs.program_order thread]
    exact List.mem_append_right _ member

theorem Runs.append {more : List (Event κ ρ ω)} {start last : System κ γ ρ σ}
    (runs : Runs code start events s) (later : Runs code s more last) :
    Runs code start (events ++ more) last := by
  induction later with
  | nil => rwa [List.append_nil]
  | snoc _ moves ih =>
      rw [← List.append_assoc]
      exact .snoc ih moves

theorem advance_moves (advanced : advance code s thread = some (event, t)) :
    Moves code s event t := by
  rw [advance] at advanced
  split at advanced
  · cases advanced
  · rename_i call calls idle
    split at advanced
    · rename_i free
      cases advanced
      exact .lock idle free
    · cases advanced
  · rename_i call control calls inside
    split at advanced
    · rename_i goes
      cases advanced
      exact .step inside goes
    · rename_i stops
      cases advanced
      exact .unlock inside stops
  · rename_i call result calls behind
    cases advanced
    exact .back behind

theorem schedule_runs {order : List Nat} (scheduled : schedule code order s = some (events, t)) :
    Runs code s events t := by
  induction order generalizing s events with
  | nil =>
      cases scheduled
      exact .nil
  | cons thread order ih =>
      obtain ⟨⟨event, middle⟩, advanced, scheduled⟩ := Option.bind_eq_some_iff.mp scheduled
      obtain ⟨⟨more, last⟩, later, same⟩ := Option.bind_eq_some_iff.mp scheduled
      cases same
      exact Runs.append (.snoc .nil (advance_moves advanced)) (ih later)

variable (code) in
/-- A call that would end if it were alone ends: its thread gives the lock back. -/
theorem released {call : κ} {control : γ} {rest : List κ} {fuel : Nat}
    (inside : s.phase thread = .inside call control rest) {result : ρ} {after : σ}
    (ends : run (code.step call) fuel (control, s.state) = some (result, after)) :
    ∃ events last, events.length ≤ fuel ∧ Runs code s events last ∧ last.holder = none ∧
      last.state = after ∧ last.phase thread = .behind call result rest ∧
        ∀ other, other ≠ thread → last.phase other = s.phase other := by
  induction fuel generalizing s control with
  | zero => cases ends
  | succ fuel ih =>
      cases outcome : code.step call (control, s.state) with
      | stop found =>
          rw [StepMachine.run_stop outcome, Option.some.injEq] at ends
          rw [ends] at outcome
          refine ⟨[.unlock thread call result], _, Nat.succ_le_succ (Nat.zero_le _),
            .snoc .nil (.unlock inside outcome), rfl, rfl, System.move_self .., ?_⟩
          intro other differs
          exact System.move_other _ _ _ _ differs
      | next found =>
          rw [StepMachine.run_next outcome] at ends
          obtain ⟨next, state⟩ := found
          obtain ⟨events, last, length, runs, free, leaves, behind, others⟩ :=
            ih (s := s.move thread (.inside call next rest) s.holder state)
              (System.move_self ..) ends
          refine ⟨.step thread :: events, last, Nat.succ_le_succ length,
            Runs.append (.snoc .nil (.step inside outcome)) runs, free, leaves, behind, ?_⟩
          intro other differs
          rw [others other differs, System.move_other _ _ _ _ differs]

/-- No deadlock: while a thread has something to do, some thread can go on. -/
theorem Exclusive.goes_on (exclusive : Exclusive code first finished middle s)
    (waits : s.phase thread ≠ .idle []) : ∃ event t, Moves code s event t := by
  cases holds : s.holder with
  | some holder =>
      have inside := (exclusive.inside_iff holder).mpr holds
      cases phase : s.phase holder with
      | inside call control rest =>
          cases outcome : code.step call (control, s.state) with
          | next found => exact ⟨_, _, .step phase outcome⟩
          | stop found => exact ⟨_, _, .unlock phase outcome⟩
      | idle rest =>
          rw [phase] at inside
          cases inside
      | behind call result rest =>
          rw [phase] at inside
          cases inside
  | none =>
      cases phase : s.phase thread with
      | idle rest =>
          cases rest with
          | nil => exact absurd phase waits
          | cons call rest => exact ⟨_, _, .lock phase holds⟩
      | inside call control rest =>
          have taken := exclusive.holds phase
          rw [holds] at taken
          cases taken
      | behind call result rest => exact ⟨_, _, .back phase⟩

end Locks

end Critical
