import Mathlib.Data.List.Pairwise
import Ttac.LocationSteps

set_option autoImplicit false

/- Any calls of `push_location` and `pop_location` at the same time: the mutex makes them the calls
that are made in one step elsewhere, but for the value that `pop_location` reads when it has given
the mutex back. -/
namespace Ttac

open Memory (Heap Segment)
open Critical (Alone Code Done Exclusive Phase Runs Serial System)

/-- A call that has given the mutex back. -/
abbrev LocationDone := Done LockedCall Found

def LockedCall.pushed : LockedCall → Option Push
  | .pushLocation push => some push
  | .popLocation _ => none

/-- The pushes among the finished calls. -/
def pushesOf (finished : List LocationDone) : List Push :=
  finished.filterMap fun done => done.call.pushed

/-- The result of the call is that of the one-step call on this list. -/
def Finds (list : LocationList) (done : LocationDone) : Prop :=
  match done.call with
  | .pushLocation _ => done.result = .ok none
  | .popLocation userId => ∃ found, list.search userId = some (.ok found) ∧
    done.result = .ok (found.map Prod.fst)

section Serial

variable {list before after : LocationList} {held : List Held} {memory : LocationMemory}
  {finished earlier later : List LocationDone} {done : LocationDone} {pushes : List Push}
  {push : Push}

theorem pushAll_concat (pushed : list.pushAll pushes = some (.ok before))
    (last : before.push push = some (.ok after)) :
    list.pushAll (pushes ++ [push]) = some (.ok after) := by
  induction pushes generalizing list with
  | nil =>
      cases pushed
      simp only [List.nil_append, LocationList.pushAll, last]
  | cons first pushes ih =>
      rw [LocationList.pushAll] at pushed
      rw [List.cons_append, LocationList.pushAll]
      cases outcome : list.push first with
      | none =>
          rw [outcome] at pushed
          cases pushed
      | some result =>
          rw [outcome] at pushed
          cases result with
          | error fault => cases pushed
          | ok next => exact ih pushed

/-- The list is what these pushes make of the empty one. -/
structure Pushed (pushes : List Push) (list : LocationList) (held : List Held) : Prop where
  pushed : LocationList.zero.pushAll pushes = some (.ok list)
  holds : list.Holds held
  entries : held.map Held.entry = LastWrite.puts (pushes.map Push.entry) []

/-- Behind one more call. -/
theorem Leaves.located {found : Option Nat} {call : LockedCall} (located : Pushed pushes list held)
    (leaves : Leaves list held found memory call) : ∃ after held', memory = after.written ∧
      Pushed (pushes ++ call.pushed.toList) after held' ∧
        held.map Held.node ⊆ held'.map Held.node := by
  cases call with
  | pushLocation push =>
      obtain ⟨-, after, held', last, holdsAfter, nodes, same, entries⟩ := leaves
      refine ⟨after, held', same, ⟨pushAll_concat located.pushed last, holdsAfter, ?_⟩, nodes⟩
      rw [entries, located.entries, LockedCall.pushed, Option.toList_some, List.map_append]
      exact (LastWrite.puts_concat push.entry (pushes.map Push.entry)).symm
  | popLocation userId =>
      refine ⟨list, held, leaves.1, ?_, fun _ member => member⟩
      rw [LockedCall.pushed, Option.toList_none, List.append_nil]
      exact located

theorem Leaves.finds {found : Option Nat} (holds : list.Holds held)
    (result : done.result = .ok found) (leaves : Leaves list held found memory done.call) :
    Finds list done := by
  rw [Finds]
  cases call : done.call with
  | pushLocation push =>
      rw [call] at leaves
      rw [result, leaves.1]
  | popLocation userId =>
      rw [call] at leaves
      refine ⟨_, LocationList.search_held holds, ?_⟩
      rw [result, leaves.2, Option.map_map]
      rfl

theorem pushesOf_concat (finished : List LocationDone) (done : LocationDone) :
    pushesOf (finished ++ [done]) = pushesOf finished ++ done.call.pushed.toList := by
  rw [pushesOf, List.filterMap_append, List.filterMap_cons]
  cases done.call <;> rfl

/-- The memory behind finished calls is that of their pushes in one step each. -/
theorem serial_located (serial : Serial locationCode .zero finished memory)
    (short : ∀ done ∈ finished, done.call.Short) : ∃ list held, memory = list.written ∧
      Pushed (pushesOf finished) list held ∧
        ∀ done ∈ finished, ∀ userId it, done.call = .popLocation userId →
          done.result = .ok (some it) → (it, userId) ∈ held.map Held.node := by
  induction serial with
  | nil => exact ⟨.zero, [], rfl, ⟨rfl, LocationList.holds_zero, rfl⟩, by simp⟩
  | @snoc finished last s t serial alone ih =>
      rw [List.forall_mem_append, List.forall_mem_singleton] at short
      obtain ⟨list, held, same, located, found⟩ := ih short.1
      subst same
      obtain ⟨address, result, leaves⟩ := alone_leaves located.holds short.2 alone
      obtain ⟨after, held', same, locatedAfter, nodes⟩ := leaves.located located
      rw [← pushesOf_concat] at locatedAfter
      refine ⟨after, held', same, locatedAfter, ?_⟩
      rw [List.forall_mem_append, List.forall_mem_singleton]
      constructor
      · intro done member userId it call given
        exact nodes (found done member userId it call given)
      · intro userId it call given
        rw [call] at leaves
        cases result.symm.trans given
        obtain ⟨h, search, here⟩ := Option.map_eq_some_iff.mp leaves.2.symm
        apply nodes
        refine List.mem_map.mpr ⟨h, List.mem_of_find?_eq_some search, ?_⟩
        have key := List.find?_some search
        exact Prod.ext here (of_decide_eq_true key)

/-- Each call has found what it finds when it is made in one step, behind the calls that gave the
mutex back before it. -/
theorem serial_finds (serial : Serial locationCode .zero finished memory)
    (short : ∀ done ∈ finished, done.call.Short)
    (whole : finished = earlier ++ done :: later) : ∃ before,
      LocationList.zero.pushAll (pushesOf earlier) = some (.ok before) ∧ Finds before done := by
  induction serial generalizing later with
  | nil => simp at whole
  | @snoc finished last s t serial alone ih =>
      rw [List.forall_mem_append, List.forall_mem_singleton] at short
      rcases List.eq_nil_or_concat later with rfl | ⟨front, end_, rfl⟩
      · obtain ⟨same, equal⟩ := List.append_inj' whole rfl
        cases equal
        subst same
        obtain ⟨list, held, rfl, located, -⟩ := serial_located serial short.1
        obtain ⟨address, result, leaves⟩ := alone_leaves located.holds short.2 alone
        exact ⟨list, located.pushed, leaves.finds located.holds result⟩
      · rw [List.concat_eq_append, ← List.cons_append, ← List.append_assoc] at whole
        exact ih short.1 (List.append_inj' whole rfl).1

end Serial

section Runs

variable {calls : Nat → List LockedCall} {events : List (Critical.Event LockedCall Found Found)}
  {s : System LockedCall Control Found LocationMemory}

/-- The list that the finished calls have left, and what the thread that is inside has made of
it. -/
theorem runs_located (runs : Runs locationCode (.start calls .zero) events s)
    (short : ∀ thread, ∀ call ∈ calls thread, call.Short) : ∃ list held,
      Exclusive locationCode .zero (events.filterMap Critical.Event.done) list.written s ∧
        Pushed (pushesOf (events.filterMap Critical.Event.done)) list held ∧
        (∀ done ∈ events.filterMap Critical.Event.done, ∀ userId it,
          done.call = .popLocation userId → done.result = .ok (some it) →
            (it, userId) ∈ held.map Held.node) ∧
        ∀ thread call control rest, s.phase thread = .inside call control rest →
          call.Short ∧ ∃ left, Works list held call left control s.state := by
  obtain ⟨middle, exclusive⟩ := runs.exclusive
  have called := runs.called
  obtain ⟨list, held, rfl, located, found⟩ := serial_located exclusive.serial
    fun done member => short _ _ (called.1 done member)
  refine ⟨list, held, exclusive, located, found, ?_⟩
  intro thread call control rest inside
  have calledFor : call ∈ calls thread := by
    apply called.2
    rw [inside]
    exact List.mem_cons_self ..
  exact ⟨short _ _ calledFor,
    Works.reached located.holds (short _ _ calledFor) (exclusive.held _ _ _ _ inside)⟩

/-- However the steps of the two functions are interleaved, the list is that of the calls made in
one step each, in the order in which they gave the mutex back, and so is what they have found. The
thread that is inside is the only one, touches nothing that is not there and comes to its end, and
some thread can go on while there is something to do. -/
theorem location_atomic (runs : Runs locationCode (.start calls .zero) events s)
    (short : ∀ thread, ∀ call ∈ calls thread, call.Short) : ∃ list held,
      LocationList.zero.pushAll (pushesOf (events.filterMap Critical.Event.done)) =
          some (.ok list) ∧
        list.Holds held ∧ (s.holder = none → s.state = list.written) ∧
      (∀ thread call control rest, s.phase thread = .inside call control rest →
        s.holder = some thread ∧
          (∀ fault after, call.step (control, s.state) ≠ .stop (.error fault, after)) ∧
            ∃ more last, more.length ≤ held.length + 9 ∧ Runs locationCode s more last ∧
              last.holder = none ∧ ∀ other, other ≠ thread → last.phase other = s.phase other) ∧
      (∀ earlier done later,
        events.filterMap Critical.Event.done = earlier ++ done :: later → ∃ before,
          LocationList.zero.pushAll (pushesOf earlier) = some (.ok before) ∧ Finds before done) ∧
      ∀ thread, calls thread =
        ((events.filterMap Critical.Event.done).filter
            fun done => done.thread = thread).map Done.call ++
          (s.phase thread).pending ∧
            (s.phase thread ≠ .idle [] → ∃ event t, Critical.Moves locationCode s event t) := by
  have called := runs.called
  obtain ⟨list, held, exclusive, located, -, works⟩ := runs_located runs short
  refine ⟨list, held, located.pushed, located.holds, exclusive.free, ?_, ?_,
    fun thread => ⟨runs.program_order thread, exclusive.goes_on⟩⟩
  · intro thread call control rest inside
    obtain ⟨shortCall, left, working⟩ := works _ _ _ _ inside
    refine ⟨exclusive.holds inside, ?_, ?_⟩
    · intro fault after stops
      rcases working.goes located.holds shortCall with
        ⟨next, after, less, step, -, -⟩ | ⟨found, after, step, -⟩
      · cases stops.symm.trans step
      · cases stops.symm.trans step
    · obtain ⟨found, after, ends, -⟩ := working.ends located.holds shortCall
      have bound := working.left_le
      obtain ⟨more, last, length, runs, free, -, -, others⟩ :=
        Critical.released locationCode inside ends
      exact ⟨more, last, by omega, runs, free, others⟩
  · intro earlier done later whole
    exact serial_finds exclusive.serial (fun done member => short _ _ (called.1 done member)) whole

end Runs

/-- Between the `free` of the value of this node and the end of the `sprintf` of its new one. -/
def Control.Replaces (it : Nat) : Control → Prop
  | .pushing _ (.allocating node) => node = it
  | .pushing _ (.formatting node) => node = it
  | _ => False

/-- The push whose thread is in front of its `pthread_mutex_unlock`. -/
def unlockingPush (s : System LockedCall Control Found LocationMemory) : List Push :=
  match s.holder with
  | none => []
  | some holder =>
    match s.phase holder with
    | .inside call (.unlocking _) _ => call.pushed.toList
    | _ => []

section Reads

variable {list : LocationList} {held : List Held} {call : LockedCall} {control : Control}
  {memory : LocationMemory} {pushes : List Push} {h other : Held} {a size left : Nat}
  {text : Bytes}

/-- Two nodes share no value. -/
theorem value_apart (holds : list.Holds held) (member : h ∈ held) (second : other ∈ held)
    (differs : h ≠ other) : h.cell.value ≠ other.cell.value := by
  have symmetric : Std.Symm (Function.onFun List.Disjoint Held.strings) :=
    ⟨fun _ _ disjoint a first second => disjoint second first⟩
  have apart := (List.nodup_flatMap.mp holds.owns.unshared).2.forall member second differs
  intro same
  apply apart (List.mem_cons_of_mem _ (List.mem_singleton_self _))
  rw [same]
  exact List.mem_cons_of_mem _ (List.mem_singleton_self _)

theorem address_apart (holds : list.Holds held) (member : h ∈ held) (second : other ∈ held)
    (differs : h ≠ other) : h.address ≠ other.address := by
  intro same
  have nodup := holds.chain.nodup
  rw [List.map_map] at nodup
  exact differs (List.inj_on_of_nodup_map nodup member second same)

theorem LocationMemory.text_malloc (found : memory.text a = .ok text) :
    (memory.malloc size).text a = .ok text := by
  rw [LocationMemory.text] at found ⊢
  cases live : memory.strings.block a with
  | none =>
      rw [live] at found
      cases found
  | some buffer =>
      have kept : (memory.malloc size).strings.block a = some buffer := Heap.alloc_live live
      rw [live] at found
      rw [kept]
      exact found

/-- The value of a node can be read, and is the text of the last push of its key. -/
theorem Pushed.value (located : Pushed pushes list held) (member : h ∈ held) :
    list.written.text h.cell.value = .ok h.value ∧
      LastWrite.get h.key (pushes.map Push.entry).reverse = some h.value := by
  refine ⟨written_text _ (located.holds.owns.value h member), ?_⟩
  rw [← (LocationList.entries_held located.entries).2]
  apply LastWrite.get_of_mem
  · rw [List.map_map]
    exact located.holds.keys
  · exact List.mem_map.mpr ⟨h, member, rfl⟩

/-- What stands at the value of a node while a call is inside. -/
def ReadsAs (memory : LocationMemory) (control : Control) (h : Held) : Prop :=
  ∃ node, memory.cells.block h.address = some node ∧
    ((control.Replaces h.address ∧ ∃ fault, memory.text node.value = .error fault) ∨
      (¬ control.Replaces h.address ∧ memory.text node.value = .ok h.value))

/-- While a node of the key of a push is given its new value, its value cannot be read; every other
value can be read as before. -/
theorem Works.reads (holds : list.Holds held) (works : Works list held call left control memory)
    (running : ∀ found, control ≠ .unlocking found) (member : h ∈ held) :
    ReadsAs memory control h := by
  have cell := cell_held holds member
  have stands := holds.owns.value h member
  have text := written_text _ stands
  cases works with
  | testing front rest whole passed segment => exact ⟨h.cell, cell, .inr ⟨id, text⟩⟩
  | freeing found => exact ⟨h.cell, cell, .inr ⟨id, text⟩⟩
  | @allocating push other strings found free =>
      have second := List.mem_of_find?_eq_some found
      refine ⟨h.cell, cell, ?_⟩
      by_cases same : h = other
      · subst same
        have gone : (strings.map StringBlock.buffer).block h.cell.value = none := by
          have freed := congrFun (Heap.free_some free).1 h.cell.value
          rw [Function.update_self] at freed
          exact congrArg (Option.map StringBlock.buffer) freed
        refine .inl ⟨rfl, .memory (.notLive h.cell.value), ?_⟩
        simp only [LocationMemory.text, gone]
      · refine .inr ⟨(address_apart holds member second same).symm, ?_⟩
        exact written_text { list with strings := strings }
          (stands_free free (value_apart holds member second same) stands)
  | @formatting push other strings cells found free store =>
      have second := List.mem_of_find?_eq_some found
      have next : strings.next = list.strings.next := (Heap.free_some free).2.1
      have cells := (Heap.store_some store).1
      by_cases same : h = other
      · subst same
        refine ⟨{ h.cell with value := list.strings.next }, ?_, ?_⟩
        · rw [cells]
          exact Function.update_self ..
        · have fresh : ((strings.map StringBlock.buffer).alloc ⟨push.block.size, none⟩).block
              list.strings.next = some ⟨push.block.size, none⟩ := by
            rw [← next]
            exact Heap.alloc_new
          refine .inl ⟨rfl, .unwritten list.strings.next, ?_⟩
          simp only [LocationMemory.text, fresh]
      · have apart := address_apart holds member second same
        refine ⟨h.cell, ?_, .inr ⟨apart.symm, ?_⟩⟩
        · rw [cells, Function.update_of_ne apart]
          exact cell
        · exact LocationMemory.text_malloc
            (written_text { list with strings := strings }
              (stands_free free (value_apart holds member second same) stands))
  | newKey absent => exact ⟨h.cell, cell, .inr ⟨id, text⟩⟩
  | copying absent => exact ⟨h.cell, cell, .inr ⟨id, LocationMemory.text_malloc text⟩⟩
  | newValue absent => exact ⟨h.cell, cell, .inr ⟨id, written_text _ (stands_alloc stands)⟩⟩
  | filling absent =>
      exact ⟨h.cell, cell, .inr ⟨id,
        LocationMemory.text_malloc (written_text _ (stands_alloc stands))⟩⟩
  | newNode absent =>
      exact ⟨h.cell, cell, .inr ⟨id, written_text _ (stands_alloc (stands_alloc stands))⟩⟩
  | linking absent =>
      exact ⟨h.cell, Heap.alloc_live cell, .inr ⟨id,
        written_text _ (stands_alloc (stands_alloc stands))⟩⟩
  | heading absent empty =>
      exact ⟨h.cell, Heap.alloc_live cell, .inr ⟨id,
        written_text _ (stands_alloc (stands_alloc stands))⟩⟩
  | @ending push tail last cells absent ends live store =>
      have stays := written_text (list.celled push) (stands_alloc (stands_alloc stands))
      have cells := (Heap.store_some store).1
      have here : (list.celled push).cells.block h.address = some h.cell := Heap.alloc_live cell
      by_cases same : h.address = tail
      · subst same
        cases live.symm.trans here
        refine ⟨{ h.cell with next := some list.cells.next }, ?_, .inr ⟨id, stays⟩⟩
        rw [cells]
        exact Function.update_self ..
      · refine ⟨h.cell, ?_, .inr ⟨id, stays⟩⟩
        rw [cells, Function.update_of_ne same]
        exact here
  | unlocking leaves => exact absurd rfl (running _)

end Reads

/-- A thread is between the `free` of the value of this node and the end of the `sprintf`. -/
def Replacing (s : System LockedCall Control Found LocationMemory) (it : Nat) : Prop :=
  ∃ thread call control rest, s.phase thread = .inside call control rest ∧ control.Replaces it

/-- What `pop_location` returns for this node: the address of a string that can be read if and only
if it is not being replaced, and is then what the last of the pushes of the user has written. -/
def ReturnsLast (pushes : List Push) (userId : Bytes) (it : Nat)
    (s : System LockedCall Control Found LocationMemory) : Prop :=
  ∃ value, locationCode.returns (.popLocation userId) (.ok (some it)) s.state = .ok (some value) ∧
    ((∃ text, s.state.text value = .ok text) ↔ ¬ Replacing s it) ∧
    ∀ text, s.state.text value = .ok text →
      LastWrite.get userId (pushes.map Push.entry).reverse = some text

section Returns

variable {list : LocationList} {held : List Held} {pushes : List Push} {it : Nat} {userId : Bytes}
  {s : System LockedCall Control Found LocationMemory}

theorem returns_value {memory : LocationMemory} {node : Cell}
    (live : memory.cells.block it = some node) (userId : Bytes) :
    locationCode.returns (.popLocation userId) (.ok (some it)) memory = .ok (some node.value) := by
  have cell := LocationMemory.cell_of_live live
  simp only [locationCode, LockedCall.returns, bind, Except.bind, cell]
  rfl

theorem held_of_node (node : (it, userId) ∈ held.map Held.node) :
    ∃ h ∈ held, h.address = it ∧ h.key = userId := by
  obtain ⟨h, member, same⟩ := List.mem_map.mp node
  exact ⟨h, member, Prod.ext_iff.mp same⟩

/-- Where the list is in order. -/
theorem Pushed.returns (located : Pushed pushes list held)
    (node : (it, userId) ∈ held.map Held.node) (state : s.state = list.written)
    (quiet : ¬ Replacing s it) : ReturnsLast pushes userId it s := by
  obtain ⟨h, member, rfl, rfl⟩ := held_of_node node
  obtain ⟨text, last⟩ := located.value member
  rw [ReturnsLast, state]
  refine ⟨h.cell.value, returns_value (cell_held located.holds member) _,
    iff_of_true ⟨h.value, text⟩ quiet, ?_⟩
  intro other read
  cases text.symm.trans read
  exact last

/-- Where a call is inside. -/
theorem Pushed.returns_inside {control : Control} (located : Pushed pushes list held)
    (node : (it, userId) ∈ held.map Held.node)
    (reads : ∀ h ∈ held, ReadsAs s.state control h)
    (replacing : Replacing s it ↔ control.Replaces it) : ReturnsLast pushes userId it s := by
  obtain ⟨h, member, rfl, rfl⟩ := held_of_node node
  obtain ⟨node, live, reads⟩ := reads h member
  refine ⟨node.value, returns_value live _, ?_, ?_⟩
  · rw [replacing]
    rcases reads with ⟨replaces, fault, fails⟩ | ⟨not, text⟩
    · refine iff_of_false ?_ (not_not_intro replaces)
      intro readable
      obtain ⟨text, readable⟩ := readable
      cases fails.symm.trans readable
    · exact iff_of_true ⟨h.value, text⟩ not
  · intro text readable
    rcases reads with ⟨-, fault, fails⟩ | ⟨-, found⟩
    · cases fails.symm.trans readable
    · cases found.symm.trans readable
      exact (located.value member).2

end Returns

section Runs

variable {calls : Nat → List LockedCall} {events : List (Critical.Event LockedCall Found Found)}
  {s : System LockedCall Control Found LocationMemory}

/-- `pop_location` reads the value that it returns when it has given the mutex back. The string
there can be read if and only if no `push_location` is between the `free` and the `sprintf` of the
same node, and is then what the last push of the user has written. -/
theorem popLocation_reads (runs : Runs locationCode (.start calls .zero) events s)
    (short : ∀ thread, ∀ call ∈ calls thread, call.Short) {thread it : Nat} {userId : Bytes}
    {rest : List LockedCall}
    (behind : s.phase thread = .behind (.popLocation userId) (.ok (some it)) rest) :
    ReturnsLast (pushesOf (events.filterMap Critical.Event.done) ++ unlockingPush s)
      userId it s := by
  obtain ⟨list, held, exclusive, located, found, works⟩ := runs_located runs short
  have node := found _ (runs.behind_done behind) userId it rfl rfl
  cases holds : s.holder with
  | none =>
      have nothing : unlockingPush s = [] := by rw [unlockingPush, holds]
      rw [nothing, List.append_nil]
      refine located.returns node (exclusive.free holds) ?_
      intro replacing
      obtain ⟨other, call, control, rest, inside, -⟩ := replacing
      cases holds.symm.trans (exclusive.holds inside)
  | some holder =>
      have inside := (exclusive.inside_iff holder).mpr holds
      cases phase : s.phase holder with
      | idle calls => simp [phase] at inside
      | behind call result calls => simp [phase] at inside
      | inside call control calls =>
          obtain ⟨-, left, working⟩ := works _ _ _ _ phase
          -- the thread that is inside is the only one
          have replacing : Replacing s it ↔ control.Replaces it := by
            constructor
            · intro replacing
              obtain ⟨other, otherCall, place, rest, here, replaces⟩ := replacing
              have same := exclusive.holds here
              rw [holds, Option.some.injEq] at same
              subst same
              cases phase.symm.trans here
              exact replaces
            · exact fun replaces => ⟨holder, call, control, calls, phase, replaces⟩
          by_cases unlocks : ∃ found, control = .unlocking found
          · obtain ⟨address, rfl⟩ := unlocks
            cases working with
            | unlocking leaves =>
                obtain ⟨after, held', state, locatedAfter, nodes⟩ := leaves.located located
                have last : unlockingPush s = call.pushed.toList := by
                  simp only [unlockingPush, holds, phase]
                rw [last]
                exact locatedAfter.returns (nodes node) state (mt replacing.mp id)
          · have running : ∀ found, control ≠ .unlocking found :=
              fun found same => unlocks ⟨found, same⟩
            have nothing : unlockingPush s = [] := by
              simp only [unlockingPush, holds, phase]
              cases control with
              | unlocking found => exact absurd rfl (running found)
              | _ => rfl
            rw [nothing, List.append_nil]
            exact located.returns_inside node
              (fun h member => working.reads located.holds running member) replacing

end Runs

section Samples

/-- One user is located twice while his location is asked for. -/
def lockedCalls : Nat → List LockedCall
  | 0 => [.pushLocation ⟨ascii "1", ascii "2", ascii "3"⟩,
      .pushLocation ⟨ascii "1", ascii "4", ascii "5"⟩]
  | 1 => [.popLocation (ascii "1")]
  | _ => []

theorem lockedCalls_short : ∀ thread, ∀ call ∈ lockedCalls thread, call.Short := by
  intro thread call member
  match thread with
  | 0 =>
      simp only [lockedCalls, List.mem_cons, List.not_mem_nil, or_false] at member
      rcases member with rfl | rfl <;> (unfold LockedCall.Short Push.Short; decide)
  | 1 =>
      simp only [lockedCalls, List.mem_singleton] at member
      subst member
      trivial
  | _ + 2 => cases member

/-- The first push, the question up to its return, and the second push up to its `malloc`. -/
def lockedOrder : List Nat := List.replicate 11 0 ++ List.replicate 3 1 ++ List.replicate 3 0

theorem lockedCalls_scheduled : ∃ events s,
    Runs locationCode (.start lockedCalls .zero) events s ∧
      s.phase 1 = .behind (.popLocation (ascii "1")) (.ok (some 0)) [] ∧ Replacing s 0 := by
  have scheduled : (Critical.schedule locationCode lockedOrder (.start lockedCalls .zero)).map
      (fun run => (run.2.phase 1, run.2.phase 0)) =
        some (.behind (.popLocation (ascii "1")) (.ok (some 0)) [],
          .inside (.pushLocation ⟨ascii "1", ascii "4", ascii "5"⟩)
            (.pushing ⟨ascii "1", ascii "4", ascii "5"⟩ (.allocating 0)) []) := by
    decide +kernel
  obtain ⟨⟨events, s⟩, found, same⟩ := Option.map_eq_some_iff.mp scheduled
  rw [Prod.mk.injEq] at same
  exact ⟨events, s, Critical.schedule_runs found, same.1, 0, _, _, _, same.2, rfl⟩

theorem location_atomic_sample : ∃ events s list held,
    Runs locationCode (.start lockedCalls .zero) events s ∧
      LocationList.zero.pushAll (pushesOf (events.filterMap Critical.Event.done)) =
          some (.ok list) ∧
        list.Holds held ∧ ∃ more last, more.length ≤ held.length + 9 ∧
          Runs locationCode s more last ∧ last.holder = none := by
  obtain ⟨events, s, runs, -, thread, call, control, rest, inside, -⟩ := lockedCalls_scheduled
  obtain ⟨list, held, pushed, holds, -, ends, -⟩ := location_atomic runs lockedCalls_short
  obtain ⟨-, -, more, last, length, goesOn, free, -⟩ := ends _ _ _ _ inside
  exact ⟨events, s, list, held, runs, pushed, holds, more, last, length, goesOn, free⟩

/-- The address that the question returns is that of the string that was freed. -/
theorem popLocation_reads_sample : ∃ events s value,
    Runs locationCode (.start lockedCalls .zero) events s ∧
      locationCode.returns (.popLocation (ascii "1")) (.ok (some 0)) s.state = .ok (some value) ∧
        ¬ ∃ text, s.state.text value = .ok text := by
  obtain ⟨events, s, runs, behind, replacing⟩ := lockedCalls_scheduled
  obtain ⟨value, returned, readable, -⟩ := popLocation_reads runs lockedCalls_short behind
  exact ⟨events, s, value, runs, returned, fun found => readable.mp found replacing⟩

end Samples

end Ttac
