import Mathlib.Data.List.Basic

set_option autoImplicit false

/- The accept loop of `main` and the threads it creates, each of which is handed the
address of the loop's own variable `clnt_sock` and reads it when it first runs. -/
namespace Ttac

/-- A thread running `http_thread`. `accepted` and `created` record which descriptor
`accept` had returned for it, and after how many calls of `accept` it was created. -/
structure Thread where
  accepted : Int
  created : Nat
  socket : Option Int
  deriving DecidableEq, Repr

/-- Where `main` is: at `accept`, or behind the test for `-1`. -/
inductive MainAt where
  | accept
  | create
  deriving DecidableEq, Repr

/-- `accepts` counts the calls of `accept` that have returned and `descriptors` lists
what the successful ones returned. -/
structure Server where
  main : MainAt
  clntSock : Int
  threads : List Thread
  accepts : Nat
  descriptors : List Int
  deriving DecidableEq, Repr

inductive Event where
  | accepted (fd : Int)
  | refused
  | created
  | read (thread : Nat)
  deriving DecidableEq, Repr

/-- `clnt_sock` has no value before the first `accept`. -/
def Server.start (uninitialized : Int) : Server := ⟨.accept, uninitialized, [], 0, []⟩

/-- `int clnt_sock=*((int*)data)` in thread `i`. -/
def Server.readSocket (s : Server) (i : Nat) (thread : Thread) : Server :=
  { s with threads := s.threads.set i { thread with socket := some s.clntSock } }

inductive Server.Step : Server → Event → Server → Prop where
  | accepted {s : Server} {fd : Int} (at_accept : s.main = .accept) (open_ : 0 ≤ fd)
      (fresh : fd ∉ s.descriptors) :
      Step s (.accepted fd)
        { s with main := .create, clntSock := fd, accepts := s.accepts + 1
                 descriptors := fd :: s.descriptors }
  | refused {s : Server} (at_accept : s.main = .accept) :
      Step s .refused { s with clntSock := -1, accepts := s.accepts + 1 }
  | created {s : Server} (at_create : s.main = .create) :
      Step s .created
        { s with main := .accept, threads := s.threads ++ [⟨s.clntSock, s.accepts, none⟩] }
  | read {s : Server} {i : Nat} {thread : Thread} (runs : s.threads[i]? = some thread)
      (first : thread.socket = none) : Step s (.read i) (s.readSocket i thread)

/-- A run from the start, with every state it left and the event it left it by. -/
inductive Server.Run (uninitialized : Int) : List (Server × Event) → Server → Prop where
  | nil : Run uninitialized [] (.start uninitialized)
  | step {past : List (Server × Event)} {s t : Server} {event : Event}
      (run : Run uninitialized past s) (step : Step s event t) :
      Run uninitialized ((s, event) :: past) t

/-- Every connection is served by its own thread and by no other. -/
structure Server.Served (s : Server) : Prop where
  distinct : (s.threads.filterMap Thread.socket).Nodup
  valid : -1 ∉ s.threads.filterMap Thread.socket
  own : ∀ thread ∈ s.threads, ∀ fd, thread.socket = some fd → fd = thread.accepted

/-- A thread reads `clnt_sock` before another call of `accept` returns. -/
def Server.Prompt (s : Server) : Event → Prop
  | .read i => ∀ thread, s.threads[i]? = some thread → thread.created = s.accepts
  | _ => True

/-- What every interleaving keeps. -/
structure Server.Inv (s : Server) : Prop where
  nonneg : ∀ fd ∈ s.descriptors, 0 ≤ fd
  known : ∀ thread ∈ s.threads, thread.accepted ∈ s.descriptors
  distinct : (s.threads.map Thread.accepted).Nodup
  past : ∀ thread ∈ s.threads, thread.created ≤ s.accepts
  current : ∀ thread ∈ s.threads, thread.created = s.accepts ↔ thread.accepted = s.clntSock
  pending : s.main = .create → s.clntSock ∈ s.descriptors ∧
    ∀ thread ∈ s.threads, thread.created < s.accepts

namespace Server

theorem readSocket_mem {s : Server} {i : Nat} {thread other : Thread}
    (member : other ∈ (s.readSocket i thread).threads) :
    (other.socket = some s.clntSock ∧ other.accepted = thread.accepted ∧
        other.created = thread.created) ∨ other ∈ s.threads := by
  rcases List.mem_or_eq_of_mem_set member with old | rfl
  · exact Or.inr old
  · exact Or.inl ⟨rfl, rfl, rfl⟩

theorem readSocket_accepted {s : Server} {i : Nat} {thread : Thread}
    (runs : s.threads[i]? = some thread) :
    (s.readSocket i thread).threads.map Thread.accepted = s.threads.map Thread.accepted := by
  obtain ⟨inside, here⟩ := List.getElem?_eq_some_iff.mp runs
  have bound : i < (s.threads.map Thread.accepted).length := by rwa [List.length_map]
  have same : thread.accepted = (s.threads.map Thread.accepted)[i] := by
    rw [List.getElem_map, here]
  rw [readSocket, List.map_set]
  dsimp only
  rw [same, List.set_getElem_self]

theorem Inv.step {s t : Server} {event : Event} (inv : s.Inv) (step : Step s event t) : t.Inv := by
  cases step with
  | accepted at_accept open_ fresh =>
      rename_i fd
      refine ⟨?_, ?_, inv.distinct, ?_, ?_, ?_⟩
      · intro other member
        rcases List.mem_cons.mp member with rfl | old
        · exact open_
        · exact inv.nonneg other old
      · exact fun thread member => List.mem_cons_of_mem _ (inv.known thread member)
      · exact fun thread member => Nat.le_succ_of_le (inv.past thread member)
      · intro thread member
        have before := inv.past thread member
        have known := inv.known thread member
        constructor
        · intro now
          dsimp only at now
          omega
        · intro same
          dsimp only at same
          rw [same] at known
          exact absurd known fresh
      · intro _
        exact ⟨by simp, fun thread member => Nat.lt_succ_of_le (inv.past thread member)⟩
  | refused at_accept =>
      refine ⟨inv.nonneg, inv.known, inv.distinct, ?_, ?_, ?_⟩
      · exact fun thread member => Nat.le_succ_of_le (inv.past thread member)
      · intro thread member
        have before := inv.past thread member
        have positive := inv.nonneg _ (inv.known thread member)
        dsimp only
        omega
      · intro at_create
        rw [at_accept] at at_create
        cases at_create
  | created at_create =>
      obtain ⟨known, before⟩ := inv.pending at_create
      refine ⟨inv.nonneg, ?_, ?_, ?_, ?_, ?_⟩
      · intro thread member
        rcases List.mem_append.mp member with old | new
        · exact inv.known thread old
        · rwa [List.mem_singleton.mp new]
      · rw [List.map_append, List.nodup_append]
        refine ⟨inv.distinct, by simp, ?_⟩
        intro fd member other last
        obtain ⟨thread, inside, rfl⟩ := List.mem_map.mp member
        rw [List.map_singleton, List.mem_singleton] at last
        rintro rfl
        have earlier := before thread inside
        have now := (inv.current thread inside).mpr last
        omega
      · intro thread member
        rcases List.mem_append.mp member with old | new
        · exact inv.past thread old
        · obtain rfl := List.mem_singleton.mp new
          exact Nat.le_refl _
      · intro thread member
        rcases List.mem_append.mp member with old | new
        · exact inv.current thread old
        · rw [List.mem_singleton.mp new]
          simp
      · rintro ⟨⟩
  | read runs first =>
      rename_i i thread
      have present := List.mem_of_getElem? runs
      refine ⟨inv.nonneg, ?_, ?_, ?_, ?_, ?_⟩
      · intro other member
        rcases readSocket_mem member with ⟨-, accepted, -⟩ | old
        · rw [accepted]
          exact inv.known thread present
        · exact inv.known other old
      · rw [readSocket_accepted runs]
        exact inv.distinct
      · intro other member
        rcases readSocket_mem member with ⟨-, -, created⟩ | old
        · rw [created]
          exact inv.past thread present
        · exact inv.past other old
      · intro other member
        rcases readSocket_mem member with ⟨-, accepted, created⟩ | old
        · rw [accepted, created]
          exact inv.current thread present
        · exact inv.current other old
      · intro at_create
        obtain ⟨known, before⟩ := inv.pending at_create
        refine ⟨known, fun other member => ?_⟩
        rcases readSocket_mem member with ⟨-, -, created⟩ | old
        · rw [created]
          exact before thread present
        · exact before other old

theorem Run.inv {uninitialized : Int} {past : List (Server × Event)} {s : Server}
    (run : Run uninitialized past s) : s.Inv := by
  induction run with
  | nil =>
      refine ⟨by simp [start], by simp [start], by simp [start], by simp [start],
        by simp [start], ?_⟩
      rintro ⟨⟩
  | step _ step ih => exact ih.step step

/-- When every thread has its own descriptor, all sockets are in order. -/
theorem served_of_own {s : Server} (inv : s.Inv)
    (own : ∀ thread ∈ s.threads, ∀ fd, thread.socket = some fd → fd = thread.accepted) :
    s.Served := by
  have sub : ∀ threads : List Thread,
      (∀ thread ∈ threads, ∀ fd, thread.socket = some fd → fd = thread.accepted) →
      (threads.filterMap Thread.socket).Sublist (threads.map Thread.accepted) := by
    intro threads own
    induction threads with
    | nil => exact List.Sublist.refl _
    | cons thread threads ih =>
        have later := ih (fun other member => own other (by simp [member]))
        rw [List.map_cons, List.filterMap_cons]
        cases socket : thread.socket with
        | none => exact later.cons _
        | some fd =>
            rw [own thread (by simp) fd socket]
            exact later.cons_cons _
  have included := sub s.threads own
  refine ⟨inv.distinct.sublist included, fun member => ?_, own⟩
  obtain ⟨thread, inside, refused⟩ := List.mem_map.mp (included.subset member)
  have positive := inv.nonneg _ (inv.known thread inside)
  omega

/-- From a state in order, a step leads to one in order exactly when it is prompt. -/
theorem served_step {s t : Server} {event : Event} (inv : s.Inv) (served : s.Served)
    (step : Step s event t) : t.Served ↔ s.Prompt event := by
  have later := inv.step step
  cases step with
  | accepted _ _ _ => exact ⟨fun _ => trivial, fun _ => served_of_own later served.own⟩
  | refused _ => exact ⟨fun _ => trivial, fun _ => served_of_own later served.own⟩
  | created _ =>
      refine ⟨fun _ => trivial, fun _ => served_of_own later ?_⟩
      intro thread member fd socket
      rcases List.mem_append.mp member with old | new
      · exact served.own thread old fd socket
      · rw [List.mem_singleton.mp new] at socket
        cases socket
  | read runs first =>
      rename_i i thread
      have present := List.mem_of_getElem? runs
      constructor
      · intro servedLater other same
        obtain rfl : thread = other := Option.some.inj (runs.symm.trans same)
        obtain ⟨inside, -⟩ := List.getElem?_eq_some_iff.mp runs
        have reads : { thread with socket := some s.clntSock } ∈ (s.readSocket i thread).threads :=
          List.mem_set inside _
        exact (inv.current thread present).mpr (servedLater.own _ reads _ rfl).symm
      · intro prompt
        have current := (inv.current thread present).mp (prompt thread runs)
        apply served_of_own later
        intro other member fd socket
        rcases readSocket_mem member with ⟨read, accepted, -⟩ | old
        · rw [accepted, current]
          exact Option.some.inj (socket.symm.trans read)
        · exact served.own other old fd socket

/-- In a run every state is in order exactly when every thread reads `clnt_sock` before
the next `accept` returns. -/
theorem Run.served_iff {uninitialized : Int} {past : List (Server × Event)} {s : Server}
    (run : Run uninitialized past s) :
    (s.Served ∧ ∀ earlier ∈ past, earlier.1.Served) ↔
      ∀ earlier ∈ past, earlier.1.Prompt earlier.2 := by
  induction run with
  | nil =>
      refine ⟨by simp, fun _ => ⟨⟨by simp [start], by simp [start], by simp [start]⟩, by simp⟩⟩
  | step run step ih =>
      rw [List.forall_mem_cons, List.forall_mem_cons, ← ih]
      constructor
      · intro ⟨last, first, before⟩
        exact ⟨(served_step run.inv first step).mp last, first, before⟩
      · intro ⟨prompt, first, before⟩
        exact ⟨(served_step run.inv first step).mpr prompt, first, before⟩

/-- One connection, accepted, handed over and read. -/
theorem run_one : Run 0 [(⟨.accept, 5, [⟨5, 1, none⟩], 1, [5]⟩, .read 0),
    (⟨.create, 5, [], 1, [5]⟩, .created), (start 0, .accepted 5)]
    ⟨.accept, 5, [⟨5, 1, some 5⟩], 1, [5]⟩ := by
  refine .step (.step (.step .nil ?_) ?_) ?_
  · exact .accepted rfl (by decide) (by simp [start])
  · exact .created rfl
  · exact .read (s := ⟨.accept, 5, [⟨5, 1, none⟩], 1, [5]⟩) (i := 0) rfl rfl

theorem Run.served_iff_one :
    Served ⟨.accept, 5, [⟨5, 1, some 5⟩], 1, [5]⟩ :=
  (Run.served_iff run_one).mpr (by simp [Prompt]) |>.1

/-- A second connection accepted before the first thread runs: that thread serves it,
and the first connection is lost. -/
theorem run_overtaken : Run 0 [(⟨.create, 6, [⟨5, 1, none⟩], 2, [6, 5]⟩, .read 0),
    (⟨.accept, 5, [⟨5, 1, none⟩], 1, [5]⟩, .accepted 6),
    (⟨.create, 5, [], 1, [5]⟩, .created), (start 0, .accepted 5)]
    ⟨.create, 6, [⟨5, 1, some 6⟩], 2, [6, 5]⟩ := by
  refine .step (.step (.step (.step .nil ?_) ?_) ?_) ?_
  · exact .accepted rfl (by decide) (by simp [start])
  · exact .created rfl
  · exact .accepted rfl (by decide) (by simp)
  · exact .read (s := ⟨.create, 6, [⟨5, 1, none⟩], 2, [6, 5]⟩) (i := 0) rfl rfl

theorem run_not_served : ¬ ∀ uninitialized past s, Run uninitialized past s → s.Served := by
  intro served
  have last := served _ _ _ run_overtaken
  exact absurd (last.own ⟨5, 1, some 6⟩ (by simp) 6 rfl) (by decide)

end Server

end Ttac
