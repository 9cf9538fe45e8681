import Ttac.DicList
import Ttac.LocationList

set_option autoImplicit false

/- `dic_list` with its nodes and strings on the heap: what `add_data` builds, `find_value` finds
in it and `clear_list` gives back. -/
namespace Ttac

open Memory (Heap Segment Reaches)

/-- A call of `add_data` with the addresses of a key and a value, and the strings that are on
the heap at that time. -/
structure AddCall where
  strings : Heap StringBlock
  key : Nat
  value : Nat
  keyText : Bytes
  text : Bytes

namespace AddCall

def addresses (call : AddCall) : List Nat := [call.key, call.value]

/-- The two pointers with the texts they stand for. -/
def given (call : AddCall) : (Nat × Bytes) × (Nat × Bytes) :=
  ((call.key, call.keyText), (call.value, call.text))

/-- Each call passes two live strings that no call has passed before. What else the callers
allocate and free in between leaves the strings alone that were passed, those in `passed`. -/
def Fresh : List Nat → Heap StringBlock → List AddCall → Prop
  | _, _, [] => True
  | passed, strings, call :: calls =>
    (∀ a ∈ passed, call.strings.block a = strings.block a) ∧
      Stands call.strings call.key call.keyText ∧ Stands call.strings call.value call.text ∧
        (passed ++ call.addresses).Nodup ∧ Fresh (passed ++ call.addresses) call.strings calls

end AddCall

def Held.given (h : Held) : (Nat × Bytes) × (Nat × Bytes) :=
  ((h.cell.key, h.key), (h.cell.value, h.value))

namespace LocationList

def addCall (list : LocationList) (call : AddCall) : Except MemoryFault LocationList :=
  { list with strings := call.strings }.addData call.key call.value

def addAll (list : LocationList) : List AddCall → Except MemoryFault LocationList
  | [] => .ok list
  | call :: calls => do
    let list ← list.addCall call
    list.addAll calls

/-- `find_value`: the address of the value, or `NULL`. -/
def findValue (list : LocationList) (key : Bytes) : Option (Except MemoryFault (Option Nat)) :=
  (list.search key).map (·.map (·.map fun entry => entry.2.value))

/-- One pass of the loop of `clear_list`: `tmp->next` is read before the three calls of `free`. -/
def freeNode (list : LocationList) (tmp : Nat) :
    Except MemoryFault (Option Nat × LocationList) := do
  let node ← access tmp (list.cells.block tmp)
  let strings ← access node.key (list.strings.free node.key)
  let strings ← access node.value (strings.free node.value)
  let cells ← access tmp (list.cells.free tmp)
  pure (node.next, { list with strings := strings, cells := cells })

/-- The loop from `it` on, with the nodes it visits. `none` when it has not ended after `fuel`
tests. -/
def clearFrom : Nat → LocationList → Option Nat →
    Option (Except MemoryFault (List Nat × LocationList))
  | 0, _, _ => none
  | _ + 1, list, none => some (.ok ([], list))
  | fuel + 1, list, some tmp =>
    match list.freeNode tmp with
    | .error fault => some (.error fault)
    | .ok (it, list) =>
      (clearFrom fuel list it).map (·.map fun (visited, list) => (tmp :: visited, list))

/-- `clear_list`. A loop that passes more nodes than there are has no end. -/
def clearList (list : LocationList) : Option (Except MemoryFault (List Nat × LocationList)) :=
  clearFrom (list.cells.next + 1) list list.head

/-- The nodes lead from `head` to `tail`, and each has two strings of its own. -/
structure Dictionary (list : LocationList) (held : List Held) : Prop where
  chained : list.Chained held
  stored : Stored list.strings held

section Add

variable {list : LocationList} {held : List Held} {call : AddCall} {calls : List AddCall}

/-- The strings of the nodes do not depend on anything else on the heap. -/
theorem stored_congr {strings changed : Heap StringBlock} (stored : Stored strings held)
    (same : ∀ a ∈ held.flatMap Held.strings, changed.block a = strings.block a) :
    Stored changed held := by
  have own (h : Held) (inside : h ∈ held) (a : Nat) (string : a ∈ h.strings) :
      changed.block a = strings.block a := same a (List.mem_flatMap.mpr ⟨h, inside, string⟩)
  refine ⟨?_, ?_, stored.unshared⟩
  · intro h inside
    obtain ⟨block, live, text⟩ := stored.key h inside
    exact ⟨block, (own h inside _ (by simp [Held.strings])).trans live, text⟩
  · intro h inside
    obtain ⟨block, live, text⟩ := stored.value h inside
    exact ⟨block, (own h inside _ (by simp [Held.strings])).trans live, text⟩

/-- One call puts its strings behind the others. -/
theorem addCall_dictionary (dictionary : list.Dictionary held)
    (same : ∀ a ∈ held.flatMap Held.strings, call.strings.block a = list.strings.block a)
    (key : Stands call.strings call.key call.keyText)
    (value : Stands call.strings call.value call.text)
    (unshared : (held.flatMap Held.strings ++ call.addresses).Nodup) :
    ∃ after held', list.addCall call = .ok after ∧ after.Dictionary held' ∧
      after.strings = call.strings ∧ held'.map Held.given = held.map Held.given ++ [call.given] ∧
        held'.flatMap Held.strings = held.flatMap Held.strings ++ call.addresses := by
  have start : ({ list with strings := call.strings } : LocationList).Chained held :=
    ⟨dictionary.chained.chain, dictionary.chained.tail⟩
  obtain ⟨after, added, chained, strings, -⟩ :=
    addData_chained start call.key call.value call.keyText call.text
  have kept := (stored_congr dictionary.stored same).linked list.cells.next
  let node : Held :=
    ⟨list.cells.next, ⟨call.key, call.value, none⟩, call.keyText, call.text⟩
  have whole : (Held.linked list.cells.next held ++ [node]).flatMap Held.strings =
      held.flatMap Held.strings ++ call.addresses := by
    rw [List.flatMap_append, Held.strings_linked, List.flatMap_singleton]
    rfl
  refine ⟨after, _, added, ⟨chained, ?_⟩, strings, ?_, whole⟩
  · rw [strings]
    refine ⟨?_, ?_, ?_⟩
    · rw [List.forall_mem_append, List.forall_mem_singleton]
      exact ⟨kept.key, key⟩
    · rw [List.forall_mem_append, List.forall_mem_singleton]
      exact ⟨kept.value, value⟩
    · rw [whole]
      exact unshared
  · rw [List.map_append, Held.map_linked fun _ => rfl]
    rfl

/-- A run of calls. -/
theorem addAll_given (dictionary : list.Dictionary held)
    (fresh : AddCall.Fresh (held.flatMap Held.strings) list.strings calls) :
    ∃ after held', list.addAll calls = .ok after ∧ after.Dictionary held' ∧
      held'.map Held.given = held.map Held.given ++ calls.map AddCall.given := by
  induction calls generalizing list held with
  | nil => exact ⟨list, held, rfl, dictionary, by simp⟩
  | cons call calls ih =>
      obtain ⟨same, key, value, unshared, later⟩ := fresh
      obtain ⟨middle, kept, added, order, strings, given, passed⟩ :=
        addCall_dictionary dictionary same key value unshared
      rw [← passed, ← strings] at later
      obtain ⟨after, held', run, orderAfter, whole⟩ := ih order later
      refine ⟨after, held', ?_, orderAfter, ?_⟩
      · rw [addAll, added]
        exact run
      · rw [whole, given, List.append_assoc]
        rfl

end Add

section Clear

variable {list : LocationList} {h : Held} {held : List Held} {first : Option Nat} {fuel : Nat}

/-- A node and its strings are given back; what other nodes hold stays. -/
theorem freeNode_stored (cell : list.cells.block h.address = some h.cell)
    (stored : Stored list.strings (h :: held)) :
    ∃ after, list.freeNode h.address = .ok (h.cell.next, after) ∧
      after.cells.block = Function.update list.cells.block h.address none ∧
        after.cells.freed = list.cells.freed ++ [h.address] ∧
        after.strings.freed = list.strings.freed ++ h.strings ∧ Stored after.strings held := by
  have unshared := stored.unshared
  rw [List.flatMap_cons, Held.strings, List.cons_append, List.cons_append, List.nil_append,
    List.nodup_cons, List.nodup_cons] at unshared
  obtain ⟨keyApart, valueApart, rest⟩ := unshared
  rw [List.mem_cons, not_or] at keyApart
  have key := stored.key h (List.mem_cons_self ..)
  have value := stored.value h (List.mem_cons_self ..)
  obtain ⟨keyBlock, keyLive, -⟩ := key
  obtain ⟨strings, keyFree⟩ := Heap.free_of_live keyLive
  obtain ⟨valueBlock, valueLive, -⟩ := stands_free keyFree (Ne.symm keyApart.1) value
  obtain ⟨strings', valueFree⟩ := Heap.free_of_live valueLive
  obtain ⟨cells, nodeFree⟩ := Heap.free_of_live cell
  obtain ⟨cellsBlock, -, cellsFreed⟩ := Heap.free_some nodeFree
  obtain ⟨-, -, keyFreed⟩ := Heap.free_some keyFree
  obtain ⟨-, -, valueFreed⟩ := Heap.free_some valueFree
  have kept (a : Nat) (member : a ∈ held.flatMap Held.strings) (text : Bytes)
      (stands : Stands list.strings a text) : Stands strings' a text := by
    have notKey : a ≠ h.cell.key := fun same => keyApart.2 (same ▸ member)
    have notValue : a ≠ h.cell.value := fun same => valueApart (same ▸ member)
    exact stands_free valueFree notValue (stands_free keyFree notKey stands)
  refine ⟨{ list with strings := strings', cells := cells }, ?_, cellsBlock, cellsFreed, ?_,
    ?_, ?_, rest⟩
  · simp only [freeNode, cell, access, bind, Except.bind, keyFree, valueFree, nodeFree]
    rfl
  · rw [valueFreed, keyFreed, List.append_assoc]
    rfl
  · intro x inside
    exact kept _ (List.mem_flatMap.mpr ⟨x, inside, by simp [Held.strings]⟩) _
      (stored.key x (List.mem_cons_of_mem _ inside))
  · intro x inside
    exact kept _ (List.mem_flatMap.mpr ⟨x, inside, by simp [Held.strings]⟩) _
      (stored.value x (List.mem_cons_of_mem _ inside))

/-- The loop visits the nodes in order, and gives each one back with its strings. -/
theorem clearFrom_stored
    (segment : Segment Cell.next list.cells.block first (held.map Held.place) none)
    (stored : Stored list.strings held) (enough : held.length < fuel) :
    ∃ after, clearFrom fuel list first = some (.ok (held.map Held.address, after)) ∧
      after.cells.freed = list.cells.freed ++ held.map Held.address ∧
        after.strings.freed = list.strings.freed ++ held.flatMap Held.strings := by
  induction held generalizing list first fuel with
  | nil =>
      cases fuel with
      | zero => cases enough
      | succ fuel =>
          have ends : first = none := segment
          rw [ends]
          exact ⟨list, rfl, (List.append_nil _).symm, (List.append_nil _).symm⟩
  | cons h held ih =>
      cases fuel with
      | zero => cases enough
      | succ fuel =>
          have addresses := segment.nodup
          obtain ⟨start, cell, later⟩ := segment
          obtain ⟨middle, freed, cells, cellsFreed, stringsFreed, rest⟩ :=
            freeNode_stored cell stored
          -- the nodes behind are at other addresses, so that they are still there
          have behind : Segment Cell.next middle.cells.block h.cell.next (held.map Held.place)
              none := by
            apply later.congr
            intro entry member
            rw [List.map_cons, List.map_cons, List.nodup_cons] at addresses
            have apart : entry.1 ≠ h.address := by
              intro same
              exact addresses.1 (List.mem_map.mpr ⟨entry, member, same⟩)
            rw [cells, Function.update_of_ne apart]
          have left : held.length < fuel := Nat.lt_of_succ_lt_succ enough
          obtain ⟨after, cleared, cellsAfter, stringsAfter⟩ := ih behind rest left
          refine ⟨after, ?_, ?_, ?_⟩
          · rw [start]
            simp only [clearFrom, freed, cleared]
            rfl
          · rw [cellsAfter, cellsFreed, List.append_assoc]
            rfl
          · rw [stringsAfter, stringsFreed, List.append_assoc, List.flatMap_cons]

end Clear

section Dictionary

variable {list : LocationList} {held : List Held}

/-- `NULL` has no nodes. -/
theorem dictionary_nil {strings : Heap StringBlock} {cells : Heap Cell} :
    Dictionary ⟨strings, cells, none, none⟩ [] where
  chained := ⟨rfl, rfl⟩
  stored := ⟨by simp, by simp, .nil⟩

theorem Chained.tail_iff (chained : list.Chained held) : list.tail = none ↔ list.head = none := by
  obtain ⟨chain, tail⟩ := chained
  rw [tail]
  cases held with
  | nil => exact iff_of_true rfl chain
  | cons h held =>
      rw [chain.1]
      simp

theorem Chained.addresses (chained : list.Chained held) :
    (held.map Held.address).Nodup ∧
      ∀ a, Reaches Cell.next list.cells.block list.head a ↔ a ∈ held.map Held.address := by
  have places : (held.map Held.place).map Prod.fst = held.map Held.address := by
    rw [List.map_map]
    rfl
  rw [← places]
  exact ⟨chained.chain.nodup, fun _ => chained.chain.reaches_iff⟩

/-- `find_value` ends, at the first node with the key. -/
theorem Dictionary.findValue (dictionary : list.Dictionary held) (key : Bytes) :
    list.findValue key =
      some (.ok ((held.find? fun h => h.key = key).map fun h => h.cell.value)) := by
  have bound := dictionary.chained.chain.length_le
  rw [List.length_map] at bound
  have found : list.find key (list.cells.next + 1) list.head = _ :=
    find_held dictionary.chained.chain dictionary.stored.key (Nat.lt_succ_of_le bound)
  rw [LocationList.findValue, search, found]
  cases held.find? fun h => h.key = key <;> rfl

/-- `clear_list` ends. -/
theorem Dictionary.clearList (dictionary : list.Dictionary held) :
    ∃ after, list.clearList = some (.ok (held.map Held.address, after)) ∧
      after.cells.freed = list.cells.freed ++ held.map Held.address ∧
        after.strings.freed = list.strings.freed ++ held.flatMap Held.strings := by
  have bound := dictionary.chained.chain.length_le
  rw [List.length_map] at bound
  exact clearFrom_stored dictionary.chained.chain dictionary.stored (Nat.lt_succ_of_le bound)

/-- The list of nodes without their addresses has the same value for each key. -/
theorem Dictionary.findNode (dictionary : list.Dictionary held) (key : Bytes) :
    ∃ found text, list.findValue key = some (.ok found) ∧
      Ttac.findValue ((held.map Held.entry).map Node.entry) key = .ok text ∧
        Option.Rel (Stands list.strings) found text := by
  refine ⟨_, (held.find? fun h => h.key = key).map Held.value, dictionary.findValue key, ?_, ?_⟩
  · rw [findValue_entries, List.find?_map, Option.map_map]
    rfl
  · cases search : held.find? fun h => h.key = key with
    | none => exact .none
    | some h => exact .some (dictionary.stored.value h (List.mem_of_find?_eq_some search))

end Dictionary

/-- After any calls of `add_data` on an empty list, the nodes that `head` leads to are a finite
chain without a repetition, they hold what the calls passed in their order, and `tail` is the
last of them; `find_value` gives the value of the first call with the key, and `clear_list`
visits each node once and frees it with its key and its value. -/
theorem addAll_dictionary {strings : Heap StringBlock} (cells : Heap Cell) {calls : List AddCall}
    (fresh : AddCall.Fresh [] strings calls) :
    ∃ list held, addAll ⟨strings, cells, none, none⟩ calls = .ok list ∧ list.Dictionary held ∧
      held.map Held.given = calls.map AddCall.given ∧ (held.map Held.address).Nodup ∧
      (∀ a, Reaches Cell.next list.cells.block list.head a ↔ a ∈ held.map Held.address) ∧
      (list.tail = none ↔ list.head = none) ∧
      (∀ key, list.findValue key =
        some (.ok ((calls.find? fun call => call.keyText = key).map AddCall.value))) ∧
      ∃ after, list.clearList = some (.ok (held.map Held.address, after)) ∧
        after.cells.freed = list.cells.freed ++ held.map Held.address ∧
        after.strings.freed = list.strings.freed ++ calls.flatMap AddCall.addresses := by
  obtain ⟨list, held, run, dictionary, given⟩ := addAll_given dictionary_nil fresh
  obtain ⟨once, reaches⟩ := dictionary.chained.addresses
  refine ⟨list, held, run, dictionary, given, once, reaches, dictionary.chained.tail_iff, ?_, ?_⟩
  · intro key
    have data : (held.find? fun h => h.key = key).map (fun h => h.cell.value) =
        ((held.map Held.given).find? fun pair => pair.1.2 = key).map fun pair => pair.2.1 := by
      rw [List.find?_map, Option.map_map]
      rfl
    rw [dictionary.findValue, data, given, List.map_nil, List.nil_append, List.find?_map,
      Option.map_map]
    rfl
  · obtain ⟨after, cleared, cellsFreed, stringsFreed⟩ := dictionary.clearList
    have passed : held.flatMap Held.strings = calls.flatMap AddCall.addresses := by
      have pointers := congrArg (List.flatMap fun pair => [pair.1.1, pair.2.1]) given
      rw [List.map_nil, List.nil_append, List.flatMap_map, List.flatMap_map] at pointers
      exact pointers
    exact ⟨after, cleared, cellsFreed, stringsFreed.trans (by rw [passed])⟩

section Nodes

/-- The same call on the list of nodes without their addresses. -/
def addNode (nodes : List Node) (call : AddCall) : List Node :=
  Ttac.addData nodes (some call.keyText) call.text

theorem foldl_addNode (nodes : List Node) (calls : List AddCall) :
    calls.foldl addNode nodes =
      nodes ++ calls.map fun call => Node.entry (call.keyText, call.text) := by
  induction calls generalizing nodes with
  | nil => simp
  | cons call calls ih =>
      rw [List.foldl_cons, ih, addNode, Ttac.addData, List.append_assoc]
      rfl

/-- The list on the heap refines the one without addresses. -/
theorem addAll_refines {strings : Heap StringBlock} {cells : Heap Cell} {calls : List AddCall}
    (fresh : AddCall.Fresh [] strings calls) (key : Bytes) :
    ∃ list found text, addAll ⟨strings, cells, none, none⟩ calls = .ok list ∧
      list.findValue key = some (.ok found) ∧
        Ttac.findValue (calls.foldl addNode []) key = .ok text ∧
          Option.Rel (Stands list.strings) found text := by
  obtain ⟨list, held, run, dictionary, given⟩ := addAll_given dictionary_nil fresh
  obtain ⟨found, text, search, value, stands⟩ := dictionary.findNode key
  have nodes : (held.map Held.entry).map Node.entry = calls.foldl addNode [] := by
    have entries := congrArg (List.map fun pair => Node.entry (pair.1.2, pair.2.2)) given
    rw [List.map_nil, List.nil_append, List.map_map, List.map_map] at entries
    rw [foldl_addNode, List.nil_append, List.map_map]
    exact entries
  rw [nodes] at value
  exact ⟨list, found, text, run, search, value, stands⟩

end Nodes

section Sample

/-- A string with room for its terminator. -/
def sampleBlock (text : String) : StringBlock := ⟨(ascii text).length + 1, ascii text⟩

def sampleFirst : Heap StringBlock := (Heap.empty.alloc (sampleBlock "k")).alloc (sampleBlock "1")

/-- The caller keeps another string between the two calls. -/
def sampleSecond : Heap StringBlock :=
  ((sampleFirst.alloc (sampleBlock "line")).alloc (sampleBlock "2")).alloc (sampleBlock "k")

/-- The same key twice. -/
def sampleCalls : List AddCall :=
  [⟨sampleFirst, 0, 1, ascii "k", ascii "1"⟩, ⟨sampleSecond, 4, 3, ascii "k", ascii "2"⟩]

theorem sampleCalls_fresh : AddCall.Fresh [] .empty sampleCalls := by
  refine ⟨by simp, ⟨_, rfl, rfl, by decide⟩, ⟨_, rfl, rfl, by decide⟩, by decide, ?_⟩
  refine ⟨?_, ⟨_, rfl, rfl, by decide⟩, ⟨_, rfl, rfl, by decide⟩, by decide, trivial⟩
  intro a passed
  simp only [AddCall.addresses, List.nil_append, List.mem_cons, List.not_mem_nil, or_false]
    at passed
  cases passed with
  | inl key => rw [key]; rfl
  | inr value => rw [value]; rfl

theorem addAll_dictionary_sample :
    ∃ list, addAll ⟨.empty, .empty, none, none⟩ sampleCalls = .ok list ∧
      list.findValue (ascii "k") = some (.ok (some 1)) ∧
        ∃ visited after, list.clearList = some (.ok (visited, after)) ∧ visited.Nodup ∧
          after.strings.freed = list.strings.freed ++ [0, 1, 4, 3] := by
  obtain ⟨list, held, run, -, -, once, -, -, found, after, cleared, -, freed⟩ :=
    addAll_dictionary .empty sampleCalls_fresh
  exact ⟨list, run, found (ascii "k"), _, after, cleared, once, freed⟩

end Sample

end LocationList

end Ttac
