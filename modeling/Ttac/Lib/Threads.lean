import Ttac.Lib.History
import Mathlib.Data.List.Induction
import Mathlib.Logic.Function.Basic

set_option autoImplicit false

/- Programs that run in one shared state, alone or with their calls interleaved. -/
namespace Interaction

variable {Op : Type} {Answer : Op → Type} {ε α σ : Type}

/-- Which answers a call may get, and what becomes of the shared state. -/
abbrev Rules (Op : Type) (Answer : Op → Type) (σ : Type) :=
  (op : Op) → Answer op → σ → σ → Prop

/-- Calls that the rules answer one behind the other. -/
inductive Path (rules : Rules Op Answer σ) : σ → List (Exchange Op Answer) → σ → Prop where
  | nil (s : σ) : Path rules s [] s
  | cons {event : Exchange Op Answer} {events : List (Exchange Op Answer)} {s t u : σ}
      (step : rules event.op event.answer s t) (later : Path rules t events u) :
      Path rules s (event :: events) u

section Path

variable {rules : Rules Op Answer σ} {s t u : σ} {event : Exchange Op Answer}
  {events before after : List (Exchange Op Answer)}

theorem path_nil_iff : Path rules s [] t ↔ t = s := by
  constructor
  · intro path
    cases path
    rfl
  · intro same
    subst same
    exact .nil _

theorem path_cons_iff : Path rules s (event :: events) u ↔
    ∃ t, rules event.op event.answer s t ∧ Path rules t events u := by
  constructor
  · intro path
    cases path with
    | cons step later => exact ⟨_, step, later⟩
  · intro ⟨t, step, later⟩
    exact .cons step later

theorem Path.append (first : Path rules s before t) (second : Path rules t after u) :
    Path rules s (before ++ after) u := by
  induction first with
  | nil => exact second
  | cons step _ ih => exact .cons step (ih second)

end Path

/-- One call of one thread, with the shared state in front of it and behind it. -/
structure Transition (Op : Type) (Answer : Op → Type) (σ : Type) where
  thread : Nat
  event : Exchange Op Answer
  before : σ
  after : σ

abbrev Run (Op : Type) (Answer : Op → Type) (σ : Type) := List (Transition Op Answer σ)

/-- The call with another view of the shared state. -/
def Transition.map {τ : Type} (f : σ → τ) (transition : Transition Op Answer σ) :
    Transition Op Answer τ :=
  ⟨transition.thread, transition.event, f transition.before, f transition.after⟩

/-- The calls of the run are answered one behind the other, in the states it names. -/
inductive Linked (rules : Rules Op Answer σ) : σ → Run Op Answer σ → σ → Prop where
  | nil (s : σ) : Linked rules s [] s
  | cons {transition : Transition Op Answer σ} {run : Run Op Answer σ} {u : σ}
      (step : rules transition.event.op transition.event.answer transition.before transition.after)
      (later : Linked rules transition.after run u) :
      Linked rules transition.before (transition :: run) u

section Linked

variable {rules : Rules Op Answer σ} {s t u : σ} {transition : Transition Op Answer σ}
  {run first second : Run Op Answer σ}

theorem linked_nil_iff : Linked rules s [] t ↔ t = s := by
  constructor
  · intro linked
    cases linked
    rfl
  · intro same
    subst same
    exact .nil _

theorem linked_cons_iff : Linked rules s (transition :: run) u ↔ s = transition.before ∧
    rules transition.event.op transition.event.answer transition.before transition.after ∧
      Linked rules transition.after run u := by
  constructor
  · intro linked
    cases linked with
    | cons step later => exact ⟨rfl, step, later⟩
  · intro parts
    obtain ⟨same, step, later⟩ := parts
    subst same
    exact .cons step later

theorem linked_append_iff : Linked rules s (first ++ second) u ↔
    ∃ t, Linked rules s first t ∧ Linked rules t second u := by
  induction first generalizing s with
  | nil => simp [linked_nil_iff]
  | cons transition first ih => simp only [List.cons_append, linked_cons_iff, ih, exists_and_left,
      and_assoc]

/-- A call in the middle of a run. -/
theorem linked_around_iff : Linked rules s (first ++ transition :: second) u ↔
    Linked rules s first transition.before ∧
      rules transition.event.op transition.event.answer transition.before transition.after ∧
        Linked rules transition.after second u := by
  rw [linked_append_iff]
  constructor
  · intro parts
    obtain ⟨t, before, rest⟩ := parts
    obtain ⟨same, step, after⟩ := linked_cons_iff.mp rest
    subst same
    exact ⟨before, step, after⟩
  · intro parts
    obtain ⟨before, step, after⟩ := parts
    exact ⟨transition.before, before, .cons step after⟩

/-- What each call of the run keeps. -/
theorem Linked.keeps {R : σ → σ → Prop} (refl : ∀ s, R s s)
    (trans : ∀ s t u, R s t → R t u → R s u) (linked : Linked rules s run t)
    (step : ∀ transition ∈ run,
      rules transition.event.op transition.event.answer transition.before transition.after →
        R transition.before transition.after) : R s t := by
  induction linked with
  | nil s => exact refl s
  | cons answered _ ih =>
      rw [List.forall_mem_cons] at step
      exact trans _ _ _ (step.1 answered) (ih step.2)

/-- What the calls of a kind add one to. -/
theorem Linked.counts (count : σ → Nat) (adds : Transition Op Answer σ → Bool)
    (linked : Linked rules s run t)
    (step : ∀ transition ∈ run,
      rules transition.event.op transition.event.answer transition.before transition.after →
        count transition.after = count transition.before + if adds transition then 1 else 0) :
    count t = count s + run.countP adds := by
  induction linked with
  | nil s => rfl
  | cons answered _ ih =>
      rw [List.forall_mem_cons] at step
      rw [ih step.2, step.1 answered, List.countP_cons]
      omega

/-- What the calls add to the end of a list. -/
theorem Linked.lists {β : Type} (list : σ → List β) (adds : Transition Op Answer σ → Option β)
    (linked : Linked rules s run t)
    (step : ∀ transition ∈ run,
      rules transition.event.op transition.event.answer transition.before transition.after →
        list transition.after = list transition.before ++ (adds transition).toList) :
    list t = list s ++ run.filterMap adds := by
  induction linked with
  | nil s => exact (List.append_nil _).symm
  | @cons transition run u answered _ ih =>
      rw [List.forall_mem_cons] at step
      have cons : (transition :: run).filterMap adds =
          (adds transition).toList ++ run.filterMap adds := by
        cases added : adds transition with
        | none => simp [added]
        | some b => simp [added]
      rw [ih step.2, step.1 answered, cons, List.append_assoc]

end Linked

/-- `Interleaved rules pool start run threads s`: the threads of the pool have made the calls
of the run in its order, what is left of them is `threads`, and the shared state is `s`. -/
inductive Interleaved (rules : Rules Op Answer σ) (pool : Nat → Program Op Answer ε α)
    (start : σ) : Run Op Answer σ → (Nat → Program Op Answer ε α) → σ → Prop where
  | nil : Interleaved rules pool start [] pool start
  | step {run : Run Op Answer σ} {threads : Nat → Program Op Answer ε α} {s t : σ} {thread : Nat}
      {op : Op} {next : Answer op → Program Op Answer ε α} {answer : Answer op}
      (earlier : Interleaved rules pool start run threads s)
      (calls : threads thread = .call op next) (answered : rules op answer s t) :
      Interleaved rules pool start (run ++ [⟨thread, ⟨op, answer⟩, s, t⟩])
        (Function.update threads thread (next answer)) t

/-- The calls of one thread. -/
def eventsOf (thread : Nat) (run : Run Op Answer σ) : List (Exchange Op Answer) :=
  (run.filter fun transition => transition.thread = thread).map Transition.event

section EventsOf

variable {thread : Nat} {transition : Transition Op Answer σ} {run : Run Op Answer σ}

theorem eventsOf_append (thread : Nat) (first second : Run Op Answer σ) :
    eventsOf thread (first ++ second) = eventsOf thread first ++ eventsOf thread second := by
  simp [eventsOf]

theorem eventsOf_cons_own (own : transition.thread = thread) :
    eventsOf thread (transition :: run) = transition.event :: eventsOf thread run := by
  simp [eventsOf, own]

theorem eventsOf_cons_other (other : transition.thread ≠ thread) :
    eventsOf thread (transition :: run) = eventsOf thread run := by
  simp [eventsOf, other]

theorem eventsOf_eq_nil_iff :
    eventsOf thread run = [] ↔ ∀ transition ∈ run, transition.thread ≠ thread := by
  simp [eventsOf, List.filter_eq_nil_iff]

theorem mem_eventsOf {event : Exchange Op Answer} :
    event ∈ eventsOf thread run ↔
      ∃ transition ∈ run, transition.thread = thread ∧ transition.event = event := by
  simp [eventsOf, and_assoc]

theorem eventsOf_map {τ : Type} (f : σ → τ) :
    eventsOf thread (run.map (Transition.map f)) = eventsOf thread run := by
  rw [eventsOf, List.filter_map, List.map_map]
  rfl

theorem eventsOf_of_own (own : ∀ transition ∈ run, transition.thread = thread) :
    eventsOf thread run = run.map Transition.event := by
  rw [eventsOf, List.filter_eq_self.mpr]
  intro transition member
  exact decide_eq_true (own transition member)

/-- Where a call of a thread stands in the run. -/
theorem eventsOf_split {event : Exchange Op Answer} {before after : List (Exchange Op Answer)}
    (same : eventsOf thread run = before ++ event :: after) :
    ∃ earlier transition later, run = earlier ++ transition :: later ∧
      transition.thread = thread ∧ transition.event = event ∧
        eventsOf thread earlier = before ∧ eventsOf thread later = after := by
  induction run generalizing before with
  | nil =>
      rw [eventsOf_eq_nil_iff.mpr (by simp)] at same
      simp at same
  | cons first run ih =>
      by_cases own : first.thread = thread
      · rw [eventsOf_cons_own own] at same
        cases before with
        | nil =>
            rw [List.nil_append, List.cons.injEq] at same
            exact ⟨[], first, run, rfl, own, same.1, rfl, same.2⟩
        | cons head before =>
            rw [List.cons_append, List.cons.injEq] at same
            obtain ⟨earlier, transition, later, whole, thread, event, front, back⟩ := ih same.2
            refine ⟨first :: earlier, transition, later, ?_, thread, event, ?_, back⟩
            · rw [whole, List.cons_append]
            · rw [eventsOf_cons_own own, front, same.1]
      · rw [eventsOf_cons_other own] at same
        obtain ⟨earlier, transition, later, whole, thread, event, front, back⟩ := ih same
        refine ⟨first :: earlier, transition, later, ?_, thread, event, ?_, back⟩
        · rw [whole, List.cons_append]
        · rw [eventsOf_cons_other own, front]

end EventsOf

namespace Interleaved

variable {rules : Rules Op Answer σ} {pool threads : Nat → Program Op Answer ε α} {start s : σ}
  {run earlier later : Run Op Answer σ}

/-- Each thread goes through a history of its own program. -/
theorem runs (interleaved : Interleaved rules pool start run threads s) (thread : Nat) :
    (pool thread).Runs (eventsOf thread run) (threads thread) := by
  induction interleaved with
  | nil => exact .nil _
  | @step run threads s t other op next answer _ calls _ ih =>
      rw [eventsOf_append]
      by_cases own : other = thread
      · subst own
        rw [calls] at ih
        have last : eventsOf other [⟨other, ⟨op, answer⟩, s, t⟩] =
            [(⟨op, answer⟩ : Exchange Op Answer)] := by
          simp [eventsOf]
        rw [last, Function.update_self]
        exact ih.append (.cons (.nil _))
      · have none : eventsOf thread [⟨other, ⟨op, answer⟩, s, t⟩] =
            ([] : List (Exchange Op Answer)) := by
          simp [eventsOf, own]
        rw [none, List.append_nil, Function.update_of_ne (Ne.symm own)]
        exact ih

/-- A run in another view of the shared state, by rules that allow as much there. -/
theorem map {τ : Type} {allowed : Rules Op Answer τ} (f : σ → τ)
    (weaker : ∀ op answer s t, rules op answer s t → allowed op answer (f s) (f t))
    (interleaved : Interleaved rules pool start run threads s) :
    Interleaved allowed pool (f start) (run.map (Transition.map f)) threads (f s) := by
  induction interleaved with
  | nil => exact .nil
  | step _ calls answered ih =>
      rw [List.map_append]
      exact ih.step calls (weaker _ _ _ _ answered)

theorem linked (interleaved : Interleaved rules pool start run threads s) :
    Linked rules start run s := by
  induction interleaved with
  | nil => exact .nil _
  | step _ _ answered ih =>
      exact linked_append_iff.mpr ⟨_, ih, linked_cons_iff.mpr ⟨rfl, answered, .nil _⟩⟩

/-- What a thread has done meets what its program meets. -/
theorem meets {Q : List (Exchange Op Answer) → Status Op ε α → Prop}
    (interleaved : Interleaved rules pool start run threads s) {thread : Nat}
    (meets : (pool thread).Meets Q) : Q (eventsOf thread run) (threads thread).status :=
  (Program.meets_iff _).mp meets _ _ (interleaved.runs thread)

/-- The run up to one of its calls, and the thread that makes it. -/
theorem calling {transition : Transition Op Answer σ}
    (interleaved : Interleaved rules pool start (earlier ++ transition :: later) threads s) :
    ∃ middle, Interleaved rules pool start earlier middle transition.before ∧
      (middle transition.thread).status = .calling transition.event.op := by
  generalize whole : earlier ++ transition :: later = run at interleaved
  induction interleaved generalizing later with
  | nil => simp at whole
  | @step run threads s t thread op next answer before calls answered ih =>
      rcases List.eq_nil_or_concat later with rfl | ⟨front, last, rfl⟩
      · obtain ⟨same, last⟩ := List.append_inj' whole rfl
        cases last
        subst same
        exact ⟨threads, before, by rw [calls]; rfl⟩
      · rw [List.concat_eq_append, ← List.cons_append, ← List.append_assoc] at whole
        exact ih (List.append_inj' whole rfl).1

/-- The run up to one of its calls, with the call. -/
theorem upTo {transition : Transition Op Answer σ}
    (interleaved : Interleaved rules pool start (earlier ++ transition :: later) threads s) :
    ∃ middle, Interleaved rules pool start (earlier ++ [transition]) middle transition.after := by
  obtain ⟨middle, before, calls⟩ := interleaved.calling
  obtain ⟨-, answered, -⟩ := linked_around_iff.mp interleaved.linked
  obtain ⟨thread, ⟨op, answer⟩, first, last⟩ := transition
  cases program : middle thread with
  | done value =>
      rw [program] at calls
      cases calls
  | fail reason =>
      rw [program] at calls
      cases calls
  | call other next =>
      rw [program] at calls
      cases calls
      exact ⟨_, before.step program answered⟩

/-- What a thread has done in front of one of its calls meets what its program meets. -/
theorem meets_calling {transition : Transition Op Answer σ}
    {Q : List (Exchange Op Answer) → Status Op ε α → Prop}
    (interleaved : Interleaved rules pool start (earlier ++ transition :: later) threads s)
    (meets : (pool transition.thread).Meets Q) :
    Q (eventsOf transition.thread earlier) (.calling transition.event.op) := by
  obtain ⟨middle, before, calls⟩ := interleaved.calling
  rw [← calls]
  exact before.meets meets

/-- A run up to any of its calls. -/
theorem front (interleaved : Interleaved rules pool start (earlier ++ later) threads s) :
    ∃ middle t, Interleaved rules pool start earlier middle t := by
  cases later with
  | nil =>
      rw [List.append_nil] at interleaved
      exact ⟨threads, s, interleaved⟩
  | cons transition later =>
      obtain ⟨middle, before, -⟩ := interleaved.calling
      exact ⟨middle, transition.before, before⟩

/-- A thread goes on alone. -/
theorem alone {events : List (Exchange Op Answer)} {t : σ} {rest : Program Op Answer ε α}
    {thread : Nat} (interleaved : Interleaved rules pool start run threads s)
    (runs : (threads thread).Runs events rest) (path : Path rules s events t) :
    ∃ more, Interleaved rules pool start (run ++ more) (Function.update threads thread rest) t ∧
      more.map Transition.event = events ∧ ∀ transition ∈ more, transition.thread = thread := by
  induction events generalizing run threads s with
  | nil =>
      have stays := Program.runs_nil_iff.mp runs
      have here := path_nil_iff.mp path
      refine ⟨[], ?_, rfl, by simp⟩
      rw [List.append_nil, stays, here, Function.update_eq_self]
      exact interleaved
  | cons event events ih =>
      obtain ⟨next, calls, later⟩ := Program.runs_cons_iff.mp runs
      obtain ⟨middle, answered, rest⟩ := path_cons_iff.mp path
      have step := interleaved.step calls answered
      obtain ⟨more, goes, same, own⟩ := ih step (by rw [Function.update_self]; exact later) rest
      rw [List.append_assoc, Function.update_idem] at goes
      refine ⟨_, goes, by rw [List.map_append, same]; rfl, ?_⟩
      intro transition member
      cases List.mem_append.mp member with
      | inl first =>
          rw [List.mem_singleton.mp first]
      | inr later => exact own transition later

/-- Threads that make the calls of others and more, which change nothing: the others make what is
kept of the run. -/
theorem project {δ β : Type} {others : Nat → Program Op Answer δ β} (kept : Nat → Op → Bool)
    (related : Nat → Program Op Answer ε α → Program Op Answer δ β → Prop)
    (starts : ∀ thread, related thread (pool thread) (others thread))
    (goes : ∀ thread op next other, related thread (.call op next) other →
      kept thread op = true → ∃ rest, other = .call op rest ∧
        ∀ answer, related thread (next answer) (rest answer))
    (stays : ∀ thread op next other, related thread (.call op next) other →
      kept thread op = false → (∀ answer, related thread (next answer) other) ∧
        ∀ answer s t, rules op answer s t → t = s)
    (interleaved : Interleaved rules pool start run threads s) :
    ∃ left, Interleaved rules others start (run.filter fun step => kept step.thread step.event.op)
        left s ∧ ∀ thread, related thread (threads thread) (left thread) := by
  induction interleaved with
  | nil => exact ⟨others, .nil, starts⟩
  | @step run threads s t thread op next answer _ calls answered ih =>
      obtain ⟨left, before, along⟩ := ih
      have here := along thread
      rw [calls] at here
      cases keeps : kept thread op with
      | true =>
          obtain ⟨rest, same, later⟩ := goes thread op next _ here keeps
          refine ⟨Function.update left thread (rest answer), ?_, ?_⟩
          · have last : ([⟨thread, ⟨op, answer⟩, s, t⟩] : Run Op Answer σ).filter
                (fun step => kept step.thread step.event.op) = [⟨thread, ⟨op, answer⟩, s, t⟩] := by
              simp [keeps]
            rw [List.filter_append, last]
            exact before.step same answered
          · intro i
            by_cases own : i = thread
            · subst own
              rw [Function.update_self, Function.update_self]
              exact later answer
            · rw [Function.update_of_ne own, Function.update_of_ne own]
              exact along i
      | false =>
          obtain ⟨later, still⟩ := stays thread op next _ here keeps
          have same := still answer s t answered
          subst same
          refine ⟨left, ?_, ?_⟩
          · have last : ([⟨thread, ⟨op, answer⟩, t, t⟩] : Run Op Answer σ).filter
                (fun step => kept step.thread step.event.op) = [] := by
              simp [keeps]
            rw [List.filter_append, last, List.append_nil]
            exact before
          · intro i
            by_cases own : i = thread
            · subst own
              rw [Function.update_self]
              exact later answer
            · rw [Function.update_of_ne own]
              exact along i

end Interleaved

end Interaction
