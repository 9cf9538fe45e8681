import Ttac.Lib.Critical
import Ttac.LocationMap

set_option autoImplicit false

/- `push_location` and `pop_location` a step at a time, between `pthread_mutex_lock` and
`pthread_mutex_unlock`, and what each step has made of the list. -/
namespace Ttac

open Memory (Heap Segment)
open Critical (Alone Code)

/-- What `malloc` gave for a string, in which no text stands before it is written. -/
structure Buffer where
  size : Nat
  text : Option Bytes

/-- `location_list` with what is behind its pointers. -/
structure LocationMemory where
  strings : Heap Buffer
  cells : Heap Cell
  head : Option Nat
  tail : Option Nat

deriving instance DecidableEq for Push

inductive LockedCall where
  | pushLocation (push : Push)
  | popLocation (userId : Bytes)
  deriving DecidableEq

def LockedCall.userId : LockedCall → Bytes
  | .pushLocation push => push.userId
  | .popLocation userId => userId

/-- Where `push_location` is behind its loop, with its local variables: in front of the `free`,
the `malloc` and the `sprintf` of a node that is there, or of what makes up a new one. -/
inductive PushAt where
  | freeing (it : Nat)
  | allocating (it : Nat)
  | formatting (it : Nat)
  | newKey
  | copying (key : Nat)
  | newValue (key : Nat)
  | filling (key value : Nat)
  | newNode (key value : Nat)
  | linking (p : Nat)
  | heading (p : Nat)
  | ending (p : Nat)
  deriving DecidableEq

/-- In front of the test of the loop, behind it, or in front of the unlocking. -/
inductive Control where
  | testing (it : Option Nat)
  | pushing (push : Push) (place : PushAt)
  | unlocking (found : Option Nat)
  deriving DecidableEq

inductive LockFault where
  | memory (fault : MemoryFault)
  | unwritten (address : Nat)
  deriving DecidableEq

/-- The address that a call has found. -/
abbrev Found := Except LockFault (Option Nat)

namespace LocationMemory

/-- The list before `main`. -/
def zero : LocationMemory := ⟨.empty, .empty, none, none⟩

def cell (memory : LocationMemory) (it : Nat) : Except LockFault Cell :=
  match memory.cells.block it with
  | none => .error (.memory (.notLive it))
  | some node => .ok node

/-- The C string at an address. -/
def text (memory : LocationMemory) (a : Nat) : Except LockFault Bytes :=
  match memory.strings.block a with
  | none => .error (.memory (.notLive a))
  | some ⟨_, none⟩ => .error (.unwritten a)
  | some ⟨_, some text⟩ => .ok text

def setCell (memory : LocationMemory) (it : Nat) (node : Cell) : Except LockFault LocationMemory :=
  match memory.cells.store it node with
  | none => .error (.memory (.notLive it))
  | some cells => .ok { memory with cells := cells }

def free (memory : LocationMemory) (a : Nat) : Except LockFault LocationMemory :=
  match memory.strings.free a with
  | none => .error (.memory (.notLive a))
  | some strings => .ok { memory with strings := strings }

/-- The memory behind a `malloc`, which is given the address `memory.strings.next`. -/
def malloc (memory : LocationMemory) (size : Nat) : LocationMemory :=
  { memory with strings := memory.strings.alloc ⟨size, none⟩ }

def write (memory : LocationMemory) (a : Nat) (text : Bytes) : Except LockFault LocationMemory :=
  match memory.strings.block a with
  | none => .error (.memory (.notLive a))
  | some ⟨size, _⟩ =>
    if size ≤ text.length then .error (.memory (.bufferOverflow size))
    else
      match memory.strings.store a ⟨size, some text⟩ with
      | none => .error (.memory (.notLive a))
      | some strings => .ok { memory with strings := strings }

end LocationMemory

/-- The size of the `malloc` for a location, whose length is an `int`. -/
def Push.size (push : Push) : Except LockFault Nat :=
  let len : Int := push.latitude.length + push.longitude.length + 1
  if 2 ^ 31 ≤ len + 1 then .error (.memory (.intOverflow (len + 1))) else .ok (len + 1).toNat

def Push.text (push : Push) : Bytes := locationString push.latitude push.longitude

/-- What a step leads to. -/
abbrev Goes := Except LockFault (Control × LocationMemory)

/-- Behind a node of the loop whose key is that of the call. -/
def LockedCall.matched (it : Nat) : LockedCall → Control
  | .pushLocation push => .pushing push (.freeing it)
  | .popLocation _ => .unlocking (some it)

/-- Behind the loop. -/
def LockedCall.unmatched : LockedCall → Control
  | .pushLocation push => .pushing push .newKey
  | .popLocation _ => .unlocking none

/-- The loop of both functions. -/
def LockedCall.test (call : LockedCall) (memory : LocationMemory) : Option Nat → Goes
  | none => .ok (call.unmatched, memory)
  | some it => do
    let node ← memory.cell it
    let key ← memory.text node.key
    if call.userId = key then pure (call.matched it, memory)
    else pure (.testing node.next, memory)

def Push.goes (push : Push) (place : PushAt) (memory : LocationMemory) : Goes :=
  pure (.pushing push place, memory)

/-- What `push_location` does behind its loop; `add_data` starts at its new node. -/
def Push.act (push : Push) (memory : LocationMemory) : PushAt → Goes
  | .freeing it => do
    let node ← memory.cell it
    let memory ← memory.free node.value
    push.goes (.allocating it) memory
  | .allocating it => do
    let size ← push.size
    let node ← memory.cell it
    let memory ← (memory.malloc size).setCell it { node with value := memory.strings.next }
    push.goes (.formatting it) memory
  | .formatting it => do
    let node ← memory.cell it
    let memory ← memory.write node.value push.text
    pure (.unlocking none, memory)
  | .newKey => push.goes (.copying memory.strings.next) (memory.malloc (push.userId.length + 1))
  | .copying key => do
    let memory ← memory.write key push.userId
    push.goes (.newValue key) memory
  | .newValue key => do
    let size ← push.size
    push.goes (.filling key memory.strings.next) (memory.malloc size)
  | .filling key value => do
    let memory ← memory.write value push.text
    push.goes (.newNode key value) memory
  | .newNode key value => push.goes (.linking memory.cells.next)
      { memory with cells := memory.cells.alloc ⟨key, value, none⟩ }
  | .linking p =>
    if memory.head = none ∧ memory.tail = none then
      push.goes (.heading p) { memory with tail := some p }
    else
      match memory.tail with
      | none => .error (.memory .nullPointer)
      | some tail => do
        let last ← memory.cell tail
        let memory ← memory.setCell tail { last with next := some p }
        push.goes (.ending p) memory
  | .heading p => pure (.unlocking none, { memory with head := some p })
  | .ending p => pure (.unlocking none, { memory with tail := some p })

def LockedCall.step (call : LockedCall) :
    Control × LocationMemory → StepMachine.Step (Control × LocationMemory) (Found × LocationMemory)
  | (.testing it, memory) =>
    match call.test memory it with
    | .error fault => .stop (.error fault, memory)
    | .ok next => .next next
  | (.pushing push place, memory) =>
    match push.act memory place with
    | .error fault => .stop (.error fault, memory)
    | .ok next => .next next
  | (.unlocking found, memory) => .stop (.ok found, memory)

/-- `return it->value`, behind the `pthread_mutex_unlock` of `pop_location`. -/
def LockedCall.returns (found : Found) (memory : LocationMemory) : LockedCall → Found
  | .pushLocation _ => found
  | .popLocation _ => do
    match ← found with
    | none => pure none
    | some it => do
      let node ← memory.cell it
      pure (some node.value)

/-- Both functions between `pthread_mutex_lock` and `pthread_mutex_unlock`. -/
def locationCode : Code LockedCall Control Found Found LocationMemory where
  enter := fun _ memory => .testing memory.head
  step := LockedCall.step
  returns := fun call found memory => call.returns found memory

/-- The block as the steps see it once its string is written. -/
def StringBlock.buffer (block : StringBlock) : Buffer := ⟨block.size, some block.bytes⟩

/-- The list when no call is inside. -/
def LocationList.written (list : LocationList) : LocationMemory :=
  ⟨list.strings.map StringBlock.buffer, list.cells, list.head, list.tail⟩

section Steps

variable {call : LockedCall} {it : Option Nat} {next : Control} {memory after : LocationMemory}
  {push : Push} {place : PushAt}

theorem test_next (goes : call.test memory it = .ok (next, after)) :
    call.step (.testing it, memory) = .next (next, after) := by
  simp only [LockedCall.step, goes]

theorem act_next (goes : push.act memory place = .ok (next, after)) :
    call.step (.pushing push place, memory) = .next (next, after) := by
  simp only [LockedCall.step, goes]

end Steps

section Memories

variable {memory : LocationMemory} {a it size : Nat} {text : Bytes} {node : Cell}

theorem LocationMemory.cell_of_live (live : memory.cells.block it = some node) :
    memory.cell it = .ok node := by
  simp only [LocationMemory.cell, live]

theorem LocationMemory.setCell_of_store {cells : Heap Cell}
    (store : memory.cells.store it node = some cells) :
    memory.setCell it node = .ok { memory with cells := cells } := by
  simp only [LocationMemory.setCell, store]

theorem LocationMemory.free_of_free {strings : Heap Buffer}
    (free : memory.strings.free a = some strings) :
    memory.free a = .ok { memory with strings := strings } := by
  simp only [LocationMemory.free, free]

/-- A text that fits the newest allocation is written there. -/
theorem LocationMemory.write_new (strings : Heap Buffer) (room : text.length < size)
    (newest : memory.strings = strings.alloc ⟨size, none⟩) :
    memory.write strings.next text =
      .ok { memory with strings := strings.alloc ⟨size, some text⟩ } := by
  have here : (strings.alloc ⟨size, none⟩).block strings.next = some ⟨size, none⟩ :=
    Heap.alloc_new
  have fits : ¬ size ≤ text.length := by omega
  simp only [LocationMemory.write, newest, here, if_neg fits, Heap.alloc_store]

theorem written_text (list : LocationList) (stands : Stands list.strings a text) :
    list.written.text a = .ok text := by
  obtain ⟨block, live, same, -⟩ := stands
  have seen : list.written.strings.block a = some ⟨block.size, some text⟩ := by
    rw [← same]
    exact congrArg (Option.map StringBlock.buffer) live
  simp only [LocationMemory.text, seen]

theorem Push.size_short {push : Push} (short : push.Short) :
    push.size = .ok (push.latitude.length + push.longitude.length + 2) := by
  have bound : push.latitude.length + push.longitude.length + 2 < 2 ^ 31 := short
  have fits :
      ¬ (2 ^ 31 : Int) ≤ (push.latitude.length : Int) + push.longitude.length + 1 + 1 := by omega
  have size : ((push.latitude.length : Int) + push.longitude.length + 1 + 1).toNat =
      push.latitude.length + push.longitude.length + 2 := by omega
  simp only [Push.size, if_neg fits, size]

theorem Push.text_room (push : Push) :
    push.text.length < push.latitude.length + push.longitude.length + 2 := by
  have length := locationString_length push.latitude push.longitude
  rw [Push.text]
  omega

end Memories

/-- The block that a push allocates for its location. -/
def Push.block (push : Push) : StringBlock :=
  LocationList.locationBlock push.latitude push.longitude

/-- The list behind the two strings of a new node. -/
def LocationList.strung (list : LocationList) (push : Push) : LocationList :=
  list.withStrings push.userId push.latitude push.longitude

/-- The list behind the new node, which nothing leads to. -/
def LocationList.celled (list : LocationList) (push : Push) : LocationList :=
  { list.strung push with
    cells := list.cells.alloc ⟨list.strings.next, list.strings.next + 1, none⟩ }

/-- The list behind the key of a new node. -/
def LocationList.keyed (list : LocationList) (push : Push) : LocationList :=
  { list with strings := list.strings.alloc ⟨push.userId.length + 1, push.userId⟩ }

/-- Where the nodes stand and what their keys are. -/
def Held.node (h : Held) : Nat × Bytes := (h.address, h.key)

/-- What a call leaves of the list and what it has found. -/
def Leaves (list : LocationList) (held : List Held) (found : Option Nat) (memory : LocationMemory) :
    LockedCall → Prop
  | .pushLocation push => found = none ∧ ∃ after held', list.push push = some (.ok after) ∧
      after.Holds held' ∧ held.map Held.node ⊆ held'.map Held.node ∧ memory = after.written ∧
        held'.map Held.entry = LastWrite.put push.userId push.text (held.map Held.entry)
  | .popLocation userId => memory = list.written ∧
      found = (held.find? fun h => h.key = userId).map Held.address

/-- What a call that is inside has made of the list, for each place it can be at, and how many
steps it has left at the most. -/
inductive Works (list : LocationList) (held : List Held) :
    LockedCall → Nat → Control → LocationMemory → Prop where
  | testing {call : LockedCall} {it : Option Nat} (front rest : List Held)
      (whole : held = front ++ rest) (passed : ∀ h ∈ front, h.key ≠ call.userId)
      (segment : Segment Cell.next list.cells.block it (rest.map Held.place) none) :
      Works list held call (rest.length + 8) (.testing it) list.written
  | freeing {push : Push} {h : Held} (found : held.find? (fun h => h.key = push.userId) = some h) :
      Works list held (.pushLocation push) 3 (.pushing push (.freeing h.address)) list.written
  | allocating {push : Push} {h : Held} {strings : Heap StringBlock}
      (found : held.find? (fun h => h.key = push.userId) = some h)
      (free : list.strings.free h.cell.value = some strings) :
      Works list held (.pushLocation push) 2 (.pushing push (.allocating h.address))
        { list.written with strings := strings.map StringBlock.buffer }
  | formatting {push : Push} {h : Held} {strings : Heap StringBlock} {cells : Heap Cell}
      (found : held.find? (fun h => h.key = push.userId) = some h)
      (free : list.strings.free h.cell.value = some strings)
      (store : list.cells.store h.address { h.cell with value := list.strings.next } =
        some cells) :
      Works list held (.pushLocation push) 1 (.pushing push (.formatting h.address))
        { list.written with
          strings := (strings.map StringBlock.buffer).alloc ⟨push.block.size, none⟩
          cells := cells }
  | newKey {push : Push} (absent : held.find? (fun h => h.key = push.userId) = none) :
      Works list held (.pushLocation push) 7 (.pushing push .newKey) list.written
  | copying {push : Push} (absent : held.find? (fun h => h.key = push.userId) = none) :
      Works list held (.pushLocation push) 6 (.pushing push (.copying list.strings.next))
        (list.written.malloc (push.userId.length + 1))
  | newValue {push : Push} (absent : held.find? (fun h => h.key = push.userId) = none) :
      Works list held (.pushLocation push) 5 (.pushing push (.newValue list.strings.next))
        (list.keyed push).written
  | filling {push : Push} (absent : held.find? (fun h => h.key = push.userId) = none) :
      Works list held (.pushLocation push) 4
        (.pushing push (.filling list.strings.next (list.strings.next + 1)))
        ((list.keyed push).written.malloc push.block.size)
  | newNode {push : Push} (absent : held.find? (fun h => h.key = push.userId) = none) :
      Works list held (.pushLocation push) 3
        (.pushing push (.newNode list.strings.next (list.strings.next + 1)))
        (list.strung push).written
  | linking {push : Push} (absent : held.find? (fun h => h.key = push.userId) = none) :
      Works list held (.pushLocation push) 2 (.pushing push (.linking list.cells.next))
        (list.celled push).written
  | heading {push : Push} (absent : held.find? (fun h => h.key = push.userId) = none)
      (empty : list.head = none ∧ list.tail = none) :
      Works list held (.pushLocation push) 1 (.pushing push (.heading list.cells.next))
        { (list.celled push).written with tail := some list.cells.next }
  | ending {push : Push} {tail : Nat} {last : Cell} {cells : Heap Cell}
      (absent : held.find? (fun h => h.key = push.userId) = none)
      (ends : list.tail = some tail) (live : (list.celled push).cells.block tail = some last)
      (store : (list.celled push).cells.store tail { last with next := some list.cells.next } =
        some cells) :
      Works list held (.pushLocation push) 1 (.pushing push (.ending list.cells.next))
        { (list.celled push).written with cells := cells }
  | unlocking {call : LockedCall} {found : Option Nat} {memory : LocationMemory}
      (leaves : Leaves list held found memory call) :
      Works list held call 0 (.unlocking found) memory

section Works

variable {list after : LocationList} {held : List Held} {call : LockedCall} {control : Control}
  {memory : LocationMemory} {push : Push} {h : Held}

theorem cell_held (holds : list.Holds held) (member : h ∈ held) :
    list.cells.block h.address = some h.cell :=
  holds.chain.block_of_mem (List.mem_map.mpr ⟨h, member, rfl⟩)

theorem key_found (found : held.find? (fun h => h.key = push.userId) = some h) :
    h.key = push.userId := by
  have same := List.find?_some found
  simpa using same

theorem not_found (absent : held.find? (fun h => h.key = push.userId) = none) :
    push.userId ∉ held.map Held.key := by
  intro member
  obtain ⟨h, inside, same⟩ := List.mem_map.mp member
  exact List.find?_eq_none.mp absent h inside (decide_eq_true same)

/-- The nodes stay where they are when one of them is given another value. -/
theorem leaves_replace (holds : list.Holds held) (short : push.Short)
    (found : held.find? (fun h => h.key = push.userId) = some h)
    (replaced : list.replace h.address h.cell push.latitude push.longitude = .ok after) :
    Leaves list held none after.written (.pushLocation push) := by
  obtain ⟨-, front, back, whole, before⟩ := List.find?_eq_some_iff_append.mp found
  have same := key_found found
  have others : ∀ x ∈ front, h.key ≠ x.key := by
    intro x inFront equal
    have differs := before x inFront
    rw [decide_eq_true (equal.symm.trans same)] at differs
    cases differs
  have pushed : list.push push = some (.ok after) := by
    simp only [LocationList.push, LocationList.pushLocation, LocationList.search_held holds, found,
      Option.map_some]
    exact congrArg some replaced
  subst whole
  obtain ⟨other, replacedBy, holdsAfter, -⟩ := LocationList.replace_held holds short
  cases replaced.symm.trans replacedBy
  refine ⟨rfl, after, _, pushed, holdsAfter, ?_, rfl, ?_⟩
  · rw [List.map_append, List.map_append]
    exact fun _ member => member
  · rw [← same]
    exact LocationList.entries_replaced others

theorem leaves_append (holds : list.Holds held) (short : push.Short)
    (absent : held.find? (fun h => h.key = push.userId) = none)
    (appended : list.append push.userId push.latitude push.longitude = .ok after) :
    Leaves list held none after.written (.pushLocation push) := by
  have pushed : list.push push = some (.ok after) := by
    simp only [LocationList.push, LocationList.pushLocation, LocationList.search_held holds, absent,
      Option.map_none]
    exact congrArg some appended
  obtain ⟨other, same, holdsAfter, -⟩ :=
    LocationList.append_held holds (not_found absent) short
  cases appended.symm.trans same
  have keys : push.userId ∉ (held.map Held.entry).map Prod.fst := by
    rw [List.map_map]
    exact not_found absent
  refine ⟨rfl, after, _, pushed, holdsAfter, ?_, rfl, ?_⟩
  · rw [List.map_append, Held.map_linked fun _ => rfl]
    exact List.subset_append_left _ _
  · rw [List.map_append, Held.map_linked fun _ => rfl, LastWrite.put_of_not_mem keys]
    rfl

theorem test_held (holds : list.Holds held) (member : h ∈ held) :
    call.test list.written (some h.address) =
      if call.userId = h.key then .ok (call.matched h.address, list.written)
      else .ok (.testing h.cell.next, list.written) := by
  have cell : list.written.cell h.address = .ok h.cell :=
    LocationMemory.cell_of_live (cell_held holds member)
  have key := written_text list (holds.owns.key h member)
  simp only [LockedCall.test, cell, key, bind, Except.bind]
  split <;> rfl

/-- What the step of a call leads to: another place of the call, or its end. -/
def Works.Goes (list : LocationList) (held : List Held) (call : LockedCall) (left : Nat)
    (control : Control) (memory : LocationMemory) : Prop :=
  (∃ next after less, call.step (control, memory) = .next (next, after) ∧
    Works list held call less next after ∧ less < left) ∨
    ∃ found after, call.step (control, memory) = .stop (.ok found, after) ∧
      Leaves list held found after call

theorem testing_goes (holds : list.Holds held) {it : Option Nat} {front rest : List Held}
    (whole : held = front ++ rest) (passed : ∀ h ∈ front, h.key ≠ call.userId)
    (segment : Segment Cell.next list.cells.block it (rest.map Held.place) none) :
    Works.Goes list held call (rest.length + 8) (.testing it) list.written := by
  cases rest with
  | nil =>
      have ends : it = none := segment
      have absent : held.find? (fun h => h.key = call.userId) = none := by
        rw [whole, List.append_nil, List.find?_eq_none]
        intro h member
        rw [decide_eq_true_eq]
        exact passed h member
      subst ends
      cases call with
      | pushLocation push => exact .inl ⟨_, _, _, test_next rfl, .newKey absent, by simp⟩
      | popLocation userId =>
          refine .inl ⟨_, _, _, test_next rfl, .unlocking ⟨rfl, ?_⟩, by simp⟩
          rw [show held.find? (fun h => h.key = userId) = none from absent]
          rfl
  | cons h rest =>
      obtain ⟨here, -, later⟩ := segment
      have member : h ∈ held := by
        rw [whole]
        exact List.mem_append_right _ (List.mem_cons_self ..)
      have tested : call.test list.written (some h.address) = _ := test_held holds member
      have here : it = some h.address := here
      subst here
      by_cases same : call.userId = h.key
      · rw [if_pos same] at tested
        have found : held.find? (fun h => h.key = call.userId) = some h := by
          rw [List.find?_eq_some_iff_append]
          refine ⟨decide_eq_true same.symm, front, rest, whole, ?_⟩
          intro other member
          rw [decide_eq_false (passed other member)]
          rfl
        cases call with
        | pushLocation push => exact .inl ⟨_, _, _, test_next tested, .freeing found, by simp⟩
        | popLocation userId =>
            refine .inl ⟨_, _, _, test_next tested, .unlocking ⟨rfl, ?_⟩, by simp⟩
            rw [show held.find? (fun h => h.key = userId) = some h from found]
            rfl
      · rw [if_neg same] at tested
        refine .inl ⟨_, _, _, test_next tested, .testing (front ++ [h]) rest ?_ ?_ later, by simp⟩
        · rw [whole, List.append_assoc]
          rfl
        · rw [List.forall_mem_append, List.forall_mem_singleton]
          exact ⟨passed, fun equal => same equal.symm⟩

theorem freeing_goes (holds : list.Holds held)
    (found : held.find? (fun h => h.key = push.userId) = some h) :
    Works.Goes list held (.pushLocation push) 3 (.pushing push (.freeing h.address))
      list.written := by
  have member := List.mem_of_find?_eq_some found
  have cell : list.written.cell h.address = .ok h.cell :=
    LocationMemory.cell_of_live (cell_held holds member)
  obtain ⟨block, live, -, -⟩ := holds.owns.value h member
  obtain ⟨strings, free⟩ := Heap.free_of_live live
  have freed : list.written.free h.cell.value =
      .ok { list.written with strings := strings.map StringBlock.buffer } :=
    LocationMemory.free_of_free (Heap.map_free _ free)
  refine .inl ⟨_, _, _, act_next ?_, .allocating found free, by decide⟩
  simp only [Push.act, cell, freed, bind, Except.bind]
  rfl

theorem allocating_goes (holds : list.Holds held) (short : push.Short)
    (found : held.find? (fun h => h.key = push.userId) = some h) {strings : Heap StringBlock}
    (free : list.strings.free h.cell.value = some strings) :
    Works.Goes list held (.pushLocation push) 2 (.pushing push (.allocating h.address))
      { list.written with strings := strings.map StringBlock.buffer } := by
  have here := cell_held holds (List.mem_of_find?_eq_some found)
  obtain ⟨cells, store⟩ := Heap.store_of_live (b := { h.cell with value := list.strings.next }) here
  have next : strings.next = list.strings.next := (Heap.free_some free).2.1
  refine .inl ⟨_, _, _, act_next ?_, .formatting found free store, by decide⟩
  have cell : LocationMemory.cell { list.written with strings := strings.map StringBlock.buffer }
      h.address = .ok h.cell := LocationMemory.cell_of_live here
  have stored : (LocationMemory.malloc
      { list.written with strings := strings.map StringBlock.buffer } push.block.size).setCell
        h.address { h.cell with value := strings.next } = .ok { list.written with
          strings := (strings.map StringBlock.buffer).alloc ⟨push.block.size, none⟩
          cells := cells } := by
    rw [next]
    exact LocationMemory.setCell_of_store store
  have size : push.size = .ok push.block.size := Push.size_short short
  simp only [Push.act, size, cell, bind, Except.bind]
  rw [show (Heap.map StringBlock.buffer strings).next = strings.next from rfl, stored]
  rfl

theorem formatting_goes (holds : list.Holds held) (short : push.Short)
    (found : held.find? (fun h => h.key = push.userId) = some h) {strings : Heap StringBlock}
    {cells : Heap Cell} (free : list.strings.free h.cell.value = some strings)
    (store : list.cells.store h.address { h.cell with value := list.strings.next } = some cells) :
    Works.Goes list held (.pushLocation push) 1 (.pushing push (.formatting h.address))
      { list.written with
        strings := (strings.map StringBlock.buffer).alloc ⟨push.block.size, none⟩
        cells := cells } := by
  have next : strings.next = list.strings.next := (Heap.free_some free).2.1
  have here : cells.block h.address = some { h.cell with value := list.strings.next } := by
    rw [(Heap.store_some store).1]
    exact Function.update_self ..
  have cell : LocationMemory.cell { list.written with
      strings := (strings.map StringBlock.buffer).alloc ⟨push.block.size, none⟩
      cells := cells } h.address = .ok { h.cell with value := list.strings.next } :=
    LocationMemory.cell_of_live here
  have written : LocationMemory.write { list.written with
      strings := (strings.map StringBlock.buffer).alloc ⟨push.block.size, none⟩
      cells := cells } list.strings.next push.text =
      .ok { list with strings := strings.alloc push.block, cells := cells }.written := by
    rw [← next]
    refine (LocationMemory.write_new (strings.map StringBlock.buffer)
      push.text_room rfl).trans ?_
    have seen : (strings.alloc push.block).map StringBlock.buffer =
        (strings.map StringBlock.buffer).alloc push.block.buffer := Heap.map_alloc _
    simp only [LocationList.written, seen]
    rfl
  have replaced : list.replace h.address h.cell push.latitude push.longitude =
      .ok { list with strings := strings.alloc push.block, cells := cells } := by
    have located : ({ list with strings := strings } : LocationList).newLocation push.latitude
        push.longitude = .ok (strings.next, { list with strings := strings.alloc push.block }) :=
      LocationList.newLocation_short short
    rw [next] at located
    simp only [LocationList.replace, free, access, bind, Except.bind, located, store]
    rfl
  refine .inl ⟨_, _, _, act_next ?_, .unlocking (leaves_replace holds short found replaced),
    by decide⟩
  simp only [Push.act, cell, bind, Except.bind, written]
  rfl

theorem copying_goes (absent : held.find? (fun h => h.key = push.userId) = none) :
    Works.Goes list held (.pushLocation push) 6 (.pushing push (.copying list.strings.next))
      (list.written.malloc (push.userId.length + 1)) := by
  have seen : (list.keyed push).strings.map StringBlock.buffer =
      (list.strings.map StringBlock.buffer).alloc ⟨push.userId.length + 1, some push.userId⟩ :=
    Heap.map_alloc _
  have written : (list.written.malloc (push.userId.length + 1)).write list.strings.next
      push.userId = .ok (list.keyed push).written := by
    refine (LocationMemory.write_new (list.strings.map StringBlock.buffer)
      (Nat.lt_succ_self _) rfl).trans ?_
    simp only [LocationList.written, seen]
    rfl
  refine .inl ⟨_, _, _, act_next ?_, .newValue absent, by decide⟩
  simp only [Push.act, written, bind, Except.bind]
  rfl

theorem newValue_goes (short : push.Short)
    (absent : held.find? (fun h => h.key = push.userId) = none) :
    Works.Goes list held (.pushLocation push) 5 (.pushing push (.newValue list.strings.next))
      (list.keyed push).written := by
  have size : push.size = .ok push.block.size := Push.size_short short
  refine .inl ⟨_, _, _, act_next ?_, .filling absent, by decide⟩
  simp only [Push.act, size, bind, Except.bind]
  rfl

theorem filling_goes (absent : held.find? (fun h => h.key = push.userId) = none) :
    Works.Goes list held (.pushLocation push) 4
      (.pushing push (.filling list.strings.next (list.strings.next + 1)))
      ((list.keyed push).written.malloc push.block.size) := by
  have seen : (list.strung push).strings.map StringBlock.buffer =
      ((list.keyed push).strings.map StringBlock.buffer).alloc push.block.buffer :=
    Heap.map_alloc _
  have written : ((list.keyed push).written.malloc push.block.size).write (list.strings.next + 1)
      push.text = .ok (list.strung push).written := by
    refine (LocationMemory.write_new
      ((list.keyed push).strings.map StringBlock.buffer) push.text_room rfl).trans ?_
    simp only [LocationList.written, seen]
    rfl
  refine .inl ⟨_, _, _, act_next ?_, .newNode absent, by decide⟩
  simp only [Push.act, written, bind, Except.bind]
  rfl

theorem linking_goes (holds : list.Holds held)
    (absent : held.find? (fun h => h.key = push.userId) = none) :
    Works.Goes list held (.pushLocation push) 2 (.pushing push (.linking list.cells.next))
      (list.celled push).written := by
  by_cases empty : list.head = none ∧ list.tail = none
  · have seen : (list.celled push).written.head = none ∧
        (list.celled push).written.tail = none := empty
    refine .inl ⟨_, _, _, act_next ?_, .heading absent empty, by decide⟩
    simp only [Push.act, if_pos seen]
    rfl
  · have filled : list.tail ≠ none := by
      intro tail
      exact empty ⟨holds.head_iff.mpr tail, tail⟩
    obtain ⟨tail, ends⟩ := Option.ne_none_iff_exists'.mp filled
    have last := ends
    rw [holds.tail] at last
    obtain ⟨h, member, here⟩ := List.mem_map.mp (List.mem_of_getLast? last)
    have cell : list.cells.block tail = some h.cell := by
      rw [← here]
      exact cell_held holds member
    have live : (list.celled push).cells.block tail = some h.cell := Heap.alloc_live cell
    obtain ⟨cells, store⟩ :=
      Heap.store_of_live (b := { h.cell with next := some list.cells.next }) live
    refine .inl ⟨_, _, _, act_next ?_, .ending absent ends live store, by decide⟩
    have seen : ¬ ((list.celled push).written.head = none ∧ some tail = none) := by simp
    have reaches : (list.celled push).written.tail = some tail := ends
    have found : (list.celled push).written.cell tail = .ok h.cell :=
      LocationMemory.cell_of_live live
    have stored : (list.celled push).written.setCell tail
        { h.cell with next := some list.cells.next } =
          .ok { (list.celled push).written with cells := cells } :=
      LocationMemory.setCell_of_store store
    simp only [Push.act, reaches, if_neg seen, found, stored, bind, Except.bind]
    rfl

theorem heading_goes (holds : list.Holds held) (short : push.Short)
    (absent : held.find? (fun h => h.key = push.userId) = none)
    (empty : list.head = none ∧ list.tail = none) :
    Works.Goes list held (.pushLocation push) 1 (.pushing push (.heading list.cells.next))
      { (list.celled push).written with tail := some list.cells.next } := by
  have appended : list.append push.userId push.latitude push.longitude = .ok
      { list.celled push with head := some list.cells.next, tail := some list.cells.next } := by
    rw [LocationList.append_short short, LocationList.addData]
    exact if_pos empty
  exact .inl ⟨_, _, _, act_next rfl, .unlocking (leaves_append holds short absent appended),
    by decide⟩

theorem ending_goes (holds : list.Holds held) (short : push.Short) {tail : Nat} {last : Cell}
    {cells : Heap Cell} (absent : held.find? (fun h => h.key = push.userId) = none)
    (ends : list.tail = some tail) (live : (list.celled push).cells.block tail = some last)
    (store : (list.celled push).cells.store tail { last with next := some list.cells.next } =
      some cells) :
    Works.Goes list held (.pushLocation push) 1 (.pushing push (.ending list.cells.next))
      { (list.celled push).written with cells := cells } := by
  have appended : list.append push.userId push.latitude push.longitude = .ok
      { list.celled push with cells := cells, tail := some list.cells.next } := by
    have filled : ¬ ((list.strung push).head = none ∧ some tail = none) := by simp
    have reaches : (list.strung push).tail = some tail := ends
    have found : ((list.strung push).cells.alloc
        ⟨list.strings.next, list.strings.next + 1, none⟩).block tail = some last := live
    have stored : ((list.strung push).cells.alloc
        ⟨list.strings.next, list.strings.next + 1, none⟩).store tail
          { last with next := some (list.strung push).cells.next } = some cells := store
    rw [LocationList.append_short short]
    change (list.strung push).addData list.strings.next (list.strings.next + 1) = _
    simp only [LocationList.addData, reaches, if_neg filled, access, found, stored, bind,
      Except.bind]
    rfl
  exact .inl ⟨_, _, _, act_next rfl, .unlocking (leaves_append holds short absent appended),
    by decide⟩

/-- The texts of the call are short enough for an `int`. -/
def LockedCall.Short : LockedCall → Prop
  | .pushLocation push => push.Short
  | .popLocation _ => True

/-- No step of a call touches what is not there, and each leads to the next place or to the end
of the call. -/
theorem Works.goes (holds : list.Holds held) (short : call.Short)
    {left : Nat} (works : Works list held call left control memory) :
    Works.Goes list held call left control memory := by
  cases works with
  | testing front rest whole passed segment => exact testing_goes holds whole passed segment
  | freeing found => exact freeing_goes holds found
  | allocating found free => exact allocating_goes holds short found free
  | formatting found free store => exact formatting_goes holds short found free store
  | newKey absent => exact .inl ⟨_, _, _, act_next rfl, .copying absent, by decide⟩
  | copying absent => exact copying_goes absent
  | newValue absent => exact newValue_goes short absent
  | filling absent => exact filling_goes absent
  | newNode absent => exact .inl ⟨_, _, _, act_next rfl, .linking absent, by decide⟩
  | linking absent => exact linking_goes holds absent
  | heading absent empty => exact heading_goes holds short absent empty
  | ending absent ends live store => exact ending_goes holds short absent ends live store
  | unlocking leaves => exact .inr ⟨_, _, rfl, leaves⟩

theorem Works.start (holds : list.Holds held) (call : LockedCall) :
    Works list held call (held.length + 8) (.testing list.head) list.written :=
  .testing [] held rfl (by simp) holds.chain

theorem Works.reached (holds : list.Holds held) (short : call.Short)
    {s : Control × LocationMemory}
    (reaches : StepMachine.Reaches call.step (.testing list.head, list.written) s) :
    ∃ left, Works list held call left s.1 s.2 := by
  refine reaches.invariant (fun s => ∃ left, Works list held call left s.1 s.2)
    ⟨_, .start holds call⟩ ?_
  intro a b works goes
  obtain ⟨left, works⟩ := works
  rcases works.goes holds short with
    ⟨next, after, less, step, later, -⟩ | ⟨found, after, step, -⟩
  · cases goes.symm.trans step
    exact ⟨less, later⟩
  · cases goes.symm.trans step

/-- A call comes to its end, and what it leaves is what it leaves when it is made in one step. -/
theorem Works.ends (holds : list.Holds held) (short : call.Short) {left : Nat}
    (works : Works list held call left control memory) : ∃ found after,
      StepMachine.run call.step (left + 1) (control, memory) = some (.ok found, after) ∧
        Leaves list held found after call := by
  induction left using Nat.strongRecOn generalizing control memory with
  | ind left ih =>
      rcases works.goes holds short with
        ⟨next, after, less, step, later, fewer⟩ | ⟨found, after, step, leaves⟩
      · obtain ⟨found, last, ends, leaves⟩ := ih less fewer later
        refine ⟨found, last, ?_, leaves⟩
        rw [StepMachine.run_next step]
        exact StepMachine.run_mono ends fewer
      · exact ⟨found, after, StepMachine.run_stop step _, leaves⟩

theorem Works.left_le {left : Nat} (works : Works list held call left control memory) :
    left ≤ held.length + 8 := by
  cases works with
  | testing front rest whole passed segment =>
      rw [whole, List.length_append]
      omega
  | _ => omega

theorem alone_leaves (holds : list.Holds held) (short : call.Short) {found : Found}
    (alone : Alone locationCode call list.written found memory) :
    ∃ address, found = .ok address ∧ Leaves list held address memory call := by
  obtain ⟨address, after, ends, leaves⟩ := (Works.start holds call).ends holds short
  cases StepMachine.Yields.unique alone ⟨_, ends⟩
  exact ⟨address, rfl, leaves⟩

end Works

end Ttac
