import Ttac.LocationList

set_option autoImplicit false

/- The list of locations is a map in which the last write wins. -/
namespace Ttac

open LastWrite (put puts)

/-- The arguments of `push_location`. -/
structure Push where
  userId : Bytes
  latitude : Bytes
  longitude : Bytes

namespace Push

def entry (push : Push) : Bytes × Bytes :=
  (push.userId, locationString push.latitude push.longitude)

/-- The text with its terminator is no longer than an `int` can count. -/
def Short (push : Push) : Prop := push.latitude.length + push.longitude.length + 2 < 2 ^ 31

end Push

namespace LocationList

def push (list : LocationList) (push : Push) : Option (Except MemoryFault LocationList) :=
  list.pushLocation push.userId push.latitude push.longitude

def pushAll (list : LocationList) : List Push → Option (Except MemoryFault LocationList)
  | [] => some (.ok list)
  | first :: pushes =>
    match list.push first with
    | none => none
    | some (.error fault) => some (.error fault)
    | some (.ok list) => list.pushAll pushes

variable {list : LocationList} {held : List Held} {pushes : List Push}

/-- A run of `push_location` ends, with the list in order. -/
theorem pushAll_held (holds : list.Holds held) (short : ∀ push ∈ pushes, push.Short) :
    ∃ after held', list.pushAll pushes = some (.ok after) ∧ after.Holds held' ∧
      held'.map Held.entry = puts (pushes.map Push.entry) (held.map Held.entry) := by
  induction pushes generalizing list held with
  | nil => exact ⟨list, held, rfl, holds, rfl⟩
  | cons first pushes ih =>
      rw [List.forall_mem_cons] at short
      obtain ⟨middle, kept, pushed, holdsMiddle, entries, -⟩ := pushLocation_held holds short.1
      obtain ⟨after, held', done, holdsAfter, whole⟩ := ih holdsMiddle short.2
      refine ⟨after, held', ?_, holdsAfter, ?_⟩
      · rw [pushAll, push, pushed]
        exact done
      · rw [whole, entries]
        rfl

/-- `head` and `tail` are `NULL` together. -/
theorem Holds.head_iff (holds : list.Holds held) : list.head = none ↔ list.tail = none := by
  have chain := holds.chain
  have tail := holds.tail
  cases held with
  | nil =>
      have head : list.head = none := chain
      exact iff_of_true head tail
  | cons h held =>
      rw [chain.1, tail]
      simp

theorem Holds.live_iff (holds : list.Holds held) (a : Nat) :
    (list.strings.block a).isSome = true ↔ a ∈ held.flatMap Held.strings := by
  constructor
  · exact holds.owns.owned a
  · intro member
    obtain ⟨text, block, live, -⟩ := holds.owns.stands member
    rw [live]
    rfl

/-- `pop_location` gives the value of the key, or `NULL`. -/
theorem Holds.popLocation (holds : list.Holds held) (userId : Bytes) :
    ∃ found, list.popLocation userId = some (.ok found) ∧
      Option.Rel (Stands list.strings) found (LastWrite.get userId (held.map Held.entry)) := by
  have entry : LastWrite.get userId (held.map Held.entry) =
      (held.find? fun h => h.key = userId).map Held.value := by
    rw [LastWrite.get, List.find?_map, Option.map_map]
    rfl
  refine ⟨_, popLocation_held holds, ?_⟩
  rw [entry]
  cases search : held.find? fun h => h.key = userId with
  | none => exact .none
  | some h => exact .some (holds.owns.value h (List.mem_of_find?_eq_some search))

/-- The keys stand in the order of their first push, and each has the text of its last one. -/
theorem entries_held (entries : held.map Held.entry = puts (pushes.map Push.entry) []) :
    held.map Held.key = (pushes.map Push.userId).eraseDups ∧
      ∀ userId, LastWrite.get userId (held.map Held.entry) =
        LastWrite.get userId (pushes.map Push.entry).reverse := by
  constructor
  · have keys := LastWrite.keys_puts (pushes.map Push.entry)
    rw [← entries, List.map_map, List.map_map] at keys
    exact keys
  · intro userId
    rw [entries, LastWrite.get_puts]

/-- After any calls of `push_location`, the list is in order: its keys are distinct and stand
in the order of their first push, each value is the text of the last push of its key and lies
inside its allocation, and what a push replaced is freed once. -/
theorem pushAll_lastWrite (pushes : List Push) (short : ∀ push ∈ pushes, push.Short) :
    ∃ list held, zero.pushAll pushes = some (.ok list) ∧ list.Holds held ∧
      (list.head = none ↔ list.tail = none) ∧
      held.map Held.key = (pushes.map Push.userId).eraseDups ∧
      (∀ h ∈ held, LastWrite.get h.key (pushes.map Push.entry).reverse = some h.value) ∧
      (∀ a < list.strings.next,
        list.strings.freed.count a = if a ∈ held.flatMap Held.strings then 0 else 1) ∧
      (∀ earlier push later, pushes = earlier ++ push :: later → ∃ before after old,
        zero.pushAll earlier = some (.ok before) ∧ before.push push = some (.ok after) ∧
          before.popLocation push.userId = some (.ok old) ∧
            after.strings.freed = before.strings.freed ++ old.toList) ∧
      ∀ userId, ∃ found, list.popLocation userId = some (.ok found) ∧
        Option.Rel (Stands list.strings) found
          (LastWrite.get userId (pushes.map Push.entry).reverse) := by
  obtain ⟨list, held, done, holds, entries⟩ := pushAll_held holds_zero short
  obtain ⟨keys, values⟩ := entries_held entries
  refine ⟨list, held, done, holds, holds.head_iff, keys, ?_, ?_, ?_, ?_⟩
  · intro h member
    rw [← values]
    apply LastWrite.get_of_mem
    · rw [List.map_map]
      exact holds.keys
    · exact List.mem_map.mpr ⟨h, member, rfl⟩
  · intro a given
    rw [Memory.Heap.count_freed given]
    simp only [holds.live_iff]
  · intro earlier push later whole
    subst whole
    rw [List.forall_mem_append, List.forall_mem_cons] at short
    obtain ⟨before, heldBefore, first, holdsBefore, -⟩ := pushAll_held holds_zero short.1
    obtain ⟨after, -, pushed, -, -, freed, -⟩ := pushLocation_held holdsBefore short.2.1
    exact ⟨before, after, _, first, pushed, popLocation_held holdsBefore, freed⟩
  · intro userId
    rw [← values]
    exact holds.popLocation userId

def samplePushes : List Push :=
  [⟨ascii "1", ascii "37.5", ascii "127.0"⟩, ⟨ascii "2", [], ascii "|"⟩,
    ⟨ascii "1", ascii "-1", ascii "0"⟩]

theorem pushAll_lastWrite_sample :
    ∃ list held, zero.pushAll samplePushes = some (.ok list) ∧ list.Holds held ∧
      (list.head = none ↔ list.tail = none) ∧
      held.map Held.key = (samplePushes.map Push.userId).eraseDups ∧
      (∀ h ∈ held, LastWrite.get h.key (samplePushes.map Push.entry).reverse = some h.value) ∧
      (∀ a < list.strings.next,
        list.strings.freed.count a = if a ∈ held.flatMap Held.strings then 0 else 1) ∧
      (∀ earlier push later, samplePushes = earlier ++ push :: later → ∃ before after old,
        zero.pushAll earlier = some (.ok before) ∧ before.push push = some (.ok after) ∧
          before.popLocation push.userId = some (.ok old) ∧
            after.strings.freed = before.strings.freed ++ old.toList) ∧
      ∀ userId, ∃ found, list.popLocation userId = some (.ok found) ∧
        Option.Rel (Stands list.strings) found
          (LastWrite.get userId (samplePushes.map Push.entry).reverse) := by
  apply pushAll_lastWrite
  unfold Push.Short
  decide

end LocationList

section Nodes

variable {entries : List (Bytes × Bytes)} {userId latitude longitude : Bytes}

theorem locationText_short (short : latitude.length + longitude.length + 2 < 2 ^ 31) :
    locationText latitude longitude = .ok (locationString latitude longitude) := by
  have length := locationString_length latitude longitude
  apply if_neg
  rw [← locationString]
  omega

/-- The list of nodes of the handlers is this map. -/
theorem pushNode_entries (short : latitude.length + longitude.length + 2 < 2 ^ 31) :
    pushNode (entries.map Node.entry) userId latitude longitude =
      .ok ((put userId (locationString latitude longitude) entries).map Node.entry) := by
  have text := locationText_short short
  induction entries with
  | nil =>
      simp only [List.map_nil, pushNode, text, bind, Except.bind]
      rfl
  | cons entry entries ih =>
      rw [List.map_cons, pushNode, put]
      by_cases same : userId = entry.1
      · simp only [Node.entry, same, ↓reduceIte, text, bind, Except.bind]
        rfl
      · simp only [Node.entry, same, ↓reduceIte, bind, Except.bind]
        rw [ih]
        rfl

theorem popNode_entries :
    popNode (entries.map Node.entry) userId = .ok (LastWrite.get userId entries) :=
  findValue_entries entries userId

end Nodes

end Ttac
