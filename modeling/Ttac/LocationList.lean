import Mathlib.Data.List.ModifyLast
import Ttac.Environment
import Ttac.Lib.Heap
import Ttac.Lib.LastWrite

set_option autoImplicit false

/- `location_list` with its nodes and strings on the heap: `push_location`, `pop_location` and
the `add_data` behind them. -/
namespace Ttac

open Memory (Heap Segment)

/-- What `malloc` gave for a string: `size` bytes, which hold the C string `bytes`. -/
structure StringBlock where
  size : Nat
  bytes : Bytes

/-- A `node` of `list.h`, with the addresses of its strings. -/
structure Cell where
  key : Nat
  value : Nat
  next : Option Nat

inductive MemoryFault where
  | nullPointer
  | notLive (address : Nat)
  | intOverflow (value : Int)
  | bufferOverflow (size : Nat)
  deriving DecidableEq, Repr

structure LocationList where
  strings : Heap StringBlock
  cells : Heap Cell
  head : Option Nat
  tail : Option Nat

/-- What is found at an address, where anything is. -/
def access {α : Type} (address : Nat) (found : Option α) : Except MemoryFault α :=
  match found with
  | some value => .ok value
  | none => .error (.notLive address)

namespace LocationList

/-- The list before `main`. -/
def zero : LocationList := ⟨.empty, .empty, none, none⟩

/-- A string that is written into an allocation of its own. -/
def newString (list : LocationList) (size : Nat) (text : Bytes) :
    Except MemoryFault (Nat × LocationList) :=
  if size ≤ text.length then .error (.bufferOverflow size)
  else .ok (list.strings.next, { list with strings := list.strings.alloc ⟨size, text⟩ })

/-- The `malloc` and the `sprintf` of `push_location`, for a length that is an `int`. -/
def newLocation (list : LocationList) (latitude longitude : Bytes) :
    Except MemoryFault (Nat × LocationList) :=
  let len : Int := latitude.length + longitude.length + 1
  if 2 ^ 31 ≤ len + 1 then .error (.intOverflow (len + 1))
  else list.newString (len + 1).toNat (latitude ++ ascii "|" ++ longitude)

def addData (list : LocationList) (key value : Nat) : Except MemoryFault LocationList :=
  let p := list.cells.next
  let cells := list.cells.alloc ⟨key, value, none⟩
  if list.head = none ∧ list.tail = none then
    .ok { list with cells := cells, head := some p, tail := some p }
  else
    match list.tail with
    | none => .error .nullPointer
    | some tail => do
      let last ← access tail (cells.block tail)
      let cells ← access tail (cells.store tail { last with next := some p })
      pure { list with cells := cells, tail := some p }

/-- The loop of both functions from `it` on: the node whose key is `userId`. `none` when the
loop has not ended after `fuel` tests. -/
def find (list : LocationList) (userId : Bytes) :
    Nat → Option Nat → Option (Except MemoryFault (Option (Nat × Cell)))
  | 0, _ => none
  | _ + 1, none => some (.ok none)
  | fuel + 1, some it =>
    match list.cells.block it with
    | none => some (.error (.notLive it))
    | some node =>
      match list.strings.block node.key with
      | none => some (.error (.notLive node.key))
      | some key =>
        if userId = key.bytes then some (.ok (some (it, node))) else find list userId fuel node.next

/-- A loop over the list that passes more nodes than there are has no end. -/
def search (list : LocationList) (userId : Bytes) :
    Option (Except MemoryFault (Option (Nat × Cell))) :=
  list.find userId (list.cells.next + 1) list.head

/-- The old value is freed before the new one is allocated. -/
def replace (list : LocationList) (it : Nat) (node : Cell) (latitude longitude : Bytes) :
    Except MemoryFault LocationList := do
  let strings ← access node.value (list.strings.free node.value)
  let (value, list) ← { list with strings := strings }.newLocation latitude longitude
  let cells ← access it (list.cells.store it { node with value := value })
  pure { list with cells := cells }

def append (list : LocationList) (userId latitude longitude : Bytes) :
    Except MemoryFault LocationList := do
  let (key, list) ← list.newString (userId.length + 1) userId
  let (value, list) ← list.newLocation latitude longitude
  list.addData key value

/-- `push_location`. -/
def pushLocation (list : LocationList) (userId latitude longitude : Bytes) :
    Option (Except MemoryFault LocationList) :=
  match list.search userId with
  | none => none
  | some (.error fault) => some (.error fault)
  | some (.ok (some (it, node))) => some (list.replace it node latitude longitude)
  | some (.ok none) => some (list.append userId latitude longitude)

/-- `pop_location`: the address of the value, or `NULL`. -/
def popLocation (list : LocationList) (userId : Bytes) :
    Option (Except MemoryFault (Option Nat)) :=
  match list.search userId with
  | none => none
  | some (.error fault) => some (.error fault)
  | some (.ok found) => some (.ok (found.map fun entry => entry.2.value))

end LocationList

/-- A node of the list with its strings. -/
structure Held where
  address : Nat
  cell : Cell
  key : Bytes
  value : Bytes

namespace Held

def place (h : Held) : Nat × Cell := (h.address, h.cell)

def strings (h : Held) : List Nat := [h.cell.key, h.cell.value]

def entry (h : Held) : Bytes × Bytes := (h.key, h.value)

def withValue (h : Held) (address : Nat) (value : Bytes) : Held :=
  { h with cell := { h.cell with value := address }, value := value }

def withNext (h : Held) (p : Nat) : Held := { h with cell := { h.cell with next := some p } }

/-- The nodes once the last of them leads to `p`. -/
def linked (p : Nat) (held : List Held) : List Held := held.modifyLast (withNext · p)

@[simp] theorem linked_nil (p : Nat) : linked p [] = [] := rfl

@[simp] theorem linked_concat (p : Nat) (front : List Held) (h : Held) :
    linked p (front ++ [h]) = front ++ [h.withNext p] := List.modifyLast_concat ..

/-- What the nodes lead to is all that changes. -/
theorem map_linked {α : Type} {f : Held → α} {p : Nat} (same : ∀ h : Held, f (h.withNext p) = f h)
    (held : List Held) : (linked p held).map f = held.map f := by
  cases held.eq_nil_or_concat with
  | inl empty =>
      rw [empty]
      rfl
  | inr split =>
      obtain ⟨front, h, whole⟩ := split
      rw [whole, List.concat_eq_append, linked_concat, List.map_append, List.map_append,
        List.map_singleton, List.map_singleton, same]

theorem forall_linked {P : Held → Prop} {p : Nat} {held : List Held}
    (same : ∀ h : Held, P h → P (h.withNext p)) (all : ∀ h ∈ held, P h) :
    ∀ h ∈ linked p held, P h := by
  cases held.eq_nil_or_concat with
  | inl empty =>
      rw [empty]
      simp
  | inr split =>
      obtain ⟨front, h, whole⟩ := split
      rw [whole, List.concat_eq_append, List.forall_mem_append, List.forall_mem_singleton] at all
      rw [whole, List.concat_eq_append, linked_concat, List.forall_mem_append,
        List.forall_mem_singleton]
      exact ⟨all.1, same h all.2⟩

/-- A node at the end of the list, with strings allocated one after the other. -/
def last (address strings : Nat) (key value : Bytes) : Held :=
  ⟨address, ⟨strings, strings + 1, none⟩, key, value⟩

end Held

/-- A string stands at the address, with its terminator inside the allocation. -/
def Stands (strings : Heap StringBlock) (address : Nat) (text : Bytes) : Prop :=
  ∃ block, strings.block address = some block ∧ block.bytes = text ∧ text.length < block.size

/-- The keys and the values of the nodes stand on the heap, none of them shared. -/
structure Stored (strings : Heap StringBlock) (held : List Held) : Prop where
  key : ∀ h ∈ held, Stands strings h.cell.key h.key
  value : ∀ h ∈ held, Stands strings h.cell.value h.value
  unshared : (held.flatMap Held.strings).Nodup

/-- The nodes lead from `head` to `NULL`, and `tail` is the last of them. -/
structure LocationList.Chained (list : LocationList) (held : List Held) : Prop where
  chain : Segment Cell.next list.cells.block list.head (held.map Held.place) none
  tail : list.tail = (held.map Held.address).getLast?

/-- The live strings of the heap are the keys and the values of the nodes, none of them
shared. -/
structure Owns (strings : Heap StringBlock) (held : List Held) : Prop where
  key : ∀ h ∈ held, Stands strings h.cell.key h.key
  value : ∀ h ∈ held, Stands strings h.cell.value h.value
  unshared : (held.flatMap Held.strings).Nodup
  owned : ∀ a, (strings.block a).isSome = true → a ∈ held.flatMap Held.strings

/-- The list holds these nodes from `head` to `tail`, each with a key of its own. -/
structure LocationList.Holds (list : LocationList) (held : List Held) : Prop where
  chain : Segment Cell.next list.cells.block list.head (held.map Held.place) none
  tail : list.tail = (held.map Held.address).getLast?
  keys : (held.map Held.key).Nodup
  owns : Owns list.strings held

/-- The text that `push_location` stores. -/
def locationString (latitude longitude : Bytes) : Bytes := latitude ++ ascii "|" ++ longitude

theorem locationString_length (latitude longitude : Bytes) :
    (locationString latitude longitude).length = latitude.length + 1 + longitude.length := by
  rw [locationString, List.length_append, List.length_append]
  rfl

namespace LocationList

variable {list after : LocationList} {held front back : List Held}
  {userId latitude longitude : Bytes}

section Search

variable {first : Option Nat} {fuel : Nat}

theorem find_held (segment : Segment Cell.next list.cells.block first (held.map Held.place) none)
    (key : ∀ h ∈ held, Stands list.strings h.cell.key h.key) (enough : held.length < fuel) :
    list.find userId fuel first =
      some (.ok ((held.find? fun h => h.key = userId).map Held.place)) := by
  induction held generalizing first fuel with
  | nil =>
      cases fuel with
      | zero => cases enough
      | succ fuel =>
          have ends : first = none := segment
          rw [ends]
          rfl
  | cons h held ih =>
      cases fuel with
      | zero => cases enough
      | succ fuel =>
          obtain ⟨here, cell, later⟩ := segment
          rw [List.forall_mem_cons] at key
          obtain ⟨block, stands, text, -⟩ := key.1
          rw [here]
          simp only [find, cell, stands, text]
          by_cases same : h.key = userId
          · rw [if_pos same.symm, List.find?_cons_of_pos (by simpa using same)]
            rfl
          · rw [if_neg (Ne.symm same), List.find?_cons_of_neg (by simpa using same)]
            apply ih later key.2
            rw [List.length_cons] at enough
            omega

/-- The loops end, at the node of the key if there is one. -/
theorem search_held (holds : list.Holds held) :
    list.search userId = some (.ok ((held.find? fun h => h.key = userId).map Held.place)) := by
  apply find_held holds.chain holds.owns.key
  have bound := holds.chain.length_le
  rw [List.length_map] at bound
  omega

theorem popLocation_held (holds : list.Holds held) : list.popLocation userId =
    some (.ok ((held.find? fun h => h.key = userId).map fun h => h.cell.value)) := by
  rw [popLocation, search_held holds]
  cases held.find? fun h => h.key = userId <;> rfl

end Search

section Strings

/-- The allocation of a text. -/
def locationBlock (latitude longitude : Bytes) : StringBlock :=
  ⟨latitude.length + longitude.length + 2, locationString latitude longitude⟩

theorem locationBlock_room (latitude longitude : Bytes) :
    (locationBlock latitude longitude).bytes.length < (locationBlock latitude longitude).size := by
  have length := locationString_length latitude longitude
  simp only [locationBlock]
  omega

theorem newLocation_short (short : latitude.length + longitude.length + 2 < 2 ^ 31) :
    list.newLocation latitude longitude = .ok (list.strings.next, { list with
      strings := list.strings.alloc (locationBlock latitude longitude) }) := by
  have fits : ¬ (2 ^ 31 : Int) ≤ (latitude.length : Int) + longitude.length + 1 + 1 := by omega
  have size : ((latitude.length : Int) + longitude.length + 1 + 1).toNat =
      latitude.length + longitude.length + 2 := by omega
  have length := locationString_length latitude longitude
  have room : ¬ latitude.length + longitude.length + 2 ≤
      (locationString latitude longitude).length := by omega
  simp only [newLocation, if_neg fits, size]
  rw [newString, ← locationString, if_neg room, locationBlock]

end Strings

end LocationList

section Stands

variable {strings : Heap StringBlock} {a : Nat} {text : Bytes} {block : StringBlock}

theorem stands_alloc (stands : Stands strings a text) : Stands (strings.alloc block) a text := by
  obtain ⟨found, live, same, room⟩ := stands
  exact ⟨found, Heap.alloc_live live, same, room⟩

theorem stands_new (room : block.bytes.length < block.size) :
    Stands (strings.alloc block) strings.next block.bytes :=
  ⟨block, Heap.alloc_new, rfl, room⟩

theorem stands_free {v : Nat} {freed : Heap StringBlock} (free : strings.free v = some freed)
    (other : a ≠ v) (stands : Stands strings a text) : Stands freed a text := by
  obtain ⟨found, live, same, room⟩ := stands
  refine ⟨found, ?_, same, room⟩
  rw [(Heap.free_some free).1, Function.update_of_ne other, live]

theorem below_of_stands (stands : Stands strings a text) : a < strings.next := by
  obtain ⟨found, live, -, -⟩ := stands
  exact Heap.below_of_live live

end Stands

section Owns

variable {strings freed : Heap StringBlock} {held front back : List Held} {h : Held}

/-- Every string of the nodes is live. -/
theorem Stored.stands (stored : Stored strings held) {a : Nat}
    (member : a ∈ held.flatMap Held.strings) : ∃ text, Stands strings a text := by
  obtain ⟨h, inside, string⟩ := List.mem_flatMap.mp member
  simp only [Held.strings, List.mem_cons, List.not_mem_nil, or_false] at string
  cases string with
  | inl key => exact ⟨h.key, key ▸ stored.key h inside⟩
  | inr value => exact ⟨h.value, value ▸ stored.value h inside⟩

/-- A new key and a new value are added behind the others. -/
theorem Stored.append {key value : StringBlock} {p : Nat} (stored : Stored strings held)
    (keyRoom : key.bytes.length < key.size) (room : value.bytes.length < value.size) :
    Stored ((strings.alloc key).alloc value)
      (held ++ [.last p strings.next key.bytes value.bytes]) := by
  constructor
  · rw [List.forall_mem_append, List.forall_mem_singleton]
    refine ⟨?_, stands_alloc (stands_new keyRoom)⟩
    intro x old
    exact stands_alloc (stands_alloc (stored.key x old))
  · have stands : Stands ((strings.alloc key).alloc value) (strings.next + 1) value.bytes :=
      stands_new room
    rw [List.forall_mem_append, List.forall_mem_singleton]
    refine ⟨?_, stands⟩
    intro x old
    exact stands_alloc (stands_alloc (stored.value x old))
  · rw [List.flatMap_append, List.flatMap_singleton, List.nodup_append]
    refine ⟨stored.unshared, by simp [Held.strings, Held.last], ?_⟩
    intro a old b new same
    obtain ⟨text, stands⟩ := stored.stands old
    have bound := below_of_stands stands
    simp only [Held.strings, Held.last, List.mem_cons, List.not_mem_nil, or_false] at new
    omega

theorem Held.strings_linked (p : Nat) (held : List Held) :
    (linked p held).flatMap Held.strings = held.flatMap Held.strings := by
  rw [List.flatMap_def, List.flatMap_def, map_linked fun _ => rfl]

/-- What the nodes are linked to does not matter to their strings. -/
theorem Stored.linked (stored : Stored strings held) (p : Nat) :
    Stored strings (Held.linked p held) where
  key := Held.forall_linked (fun _ => id) stored.key
  value := Held.forall_linked (fun _ => id) stored.value
  unshared := by
    rw [Held.strings_linked]
    exact stored.unshared

theorem Owns.stored (owns : Owns strings held) : Stored strings held :=
  ⟨owns.key, owns.value, owns.unshared⟩

/-- Every string of the list is live. -/
theorem Owns.stands (owns : Owns strings held) {a : Nat} (member : a ∈ held.flatMap Held.strings) :
    ∃ text, Stands strings a text := owns.stored.stands member

/-- The strings of the list, with the value of one node in front. -/
theorem strings_perm (h : Held) : ((front ++ h :: back).flatMap Held.strings).Perm
    (h.cell.value :: (front.flatMap Held.strings ++ h.cell.key :: back.flatMap Held.strings)) := by
  simp only [List.flatMap_append, List.flatMap_cons, Held.strings, List.cons_append,
    List.nil_append]
  exact ((List.Perm.swap _ _ _).append_left _).trans List.perm_middle

/-- The value of a node is freed, and a new one takes its place. -/
theorem Owns.replace {block : StringBlock} (owns : Owns strings (front ++ h :: back))
    (free : strings.free h.cell.value = some freed) (room : block.bytes.length < block.size) :
    Owns (freed.alloc block) (front ++ h.withValue strings.next block.bytes :: back) := by
  -- the strings that stay
  let stay := front.flatMap Held.strings ++ h.cell.key :: back.flatMap Held.strings
  have unshared := (strings_perm h).nodup_iff.mp owns.unshared
  rw [List.nodup_cons] at unshared
  have staying : ∀ a ∈ stay, a ≠ h.cell.value ∧ a < strings.next := by
    intro a member
    refine ⟨fun same => unshared.1 (same ▸ member), ?_⟩
    obtain ⟨text, stands⟩ :=
      owns.stands ((strings_perm h).mem_iff.mpr (List.mem_cons_of_mem _ member))
    exact below_of_stands stands
  have kept : ∀ a ∈ stay, ∀ text, Stands strings a text → Stands (freed.alloc block) a text := by
    intro a member text stands
    exact stands_alloc (stands_free free (staying a member).1 stands)
  have others : ∀ x ∈ front ++ back, x.cell.key ∈ stay ∧ x.cell.value ∈ stay := by
    intro x member
    have own (a : Nat) (string : a ∈ x.strings) : a ∈ stay := by
      rw [List.mem_append, List.mem_cons]
      cases List.mem_append.mp member with
      | inl inFront => exact .inl (List.mem_flatMap.mpr ⟨x, inFront, string⟩)
      | inr inBack => exact .inr (.inr (List.mem_flatMap.mpr ⟨x, inBack, string⟩))
    exact ⟨own _ (List.mem_cons_self ..), own _ (List.mem_cons_of_mem _ (List.mem_cons_self ..))⟩
  have around (P : Held → Prop) (changed : P (h.withValue strings.next block.bytes))
      (same : ∀ x ∈ front ++ back, P x) :
      ∀ x ∈ front ++ h.withValue strings.next block.bytes :: back, P x := by
    intro x member
    rw [List.mem_append, List.mem_cons] at member
    rcases member with inFront | itself | inBack
    · exact same x (List.mem_append_left _ inFront)
    · exact itself ▸ changed
    · exact same x (List.mem_append_right _ inBack)
  have old (x : Held) (member : x ∈ front ++ back) : x ∈ front ++ h :: back := by
    rw [List.mem_append, List.mem_cons]
    cases List.mem_append.mp member with
    | inl inFront => exact .inl inFront
    | inr inBack => exact .inr (.inr inBack)
  obtain ⟨freedBlock, freedNext, -⟩ := Heap.free_some free
  constructor
  · apply around
    · exact kept _ (List.mem_append_right _ (List.mem_cons_self ..)) _
        (owns.key h (List.mem_append_right _ (List.mem_cons_self ..)))
    · intro x member
      exact kept _ (others x member).1 _ (owns.key x (old x member))
  · apply around
    · have stands : Stands (freed.alloc block) freed.next block.bytes := stands_new room
      rw [freedNext] at stands
      exact stands
    · intro x member
      exact kept _ (others x member).2 _ (owns.value x (old x member))
  · refine (strings_perm (h.withValue _ _)).nodup_iff.mpr (List.nodup_cons.mpr ⟨?_, unshared.2⟩)
    intro again
    exact Nat.lt_irrefl _ (staying _ again).2
  · intro a live
    apply (strings_perm (h.withValue _ _)).mem_iff.mpr
    by_cases added : a = strings.next
    · exact added ▸ List.mem_cons_self ..
    · rw [Heap.alloc_old (by rw [freedNext]; exact added), freedBlock] at live
      by_cases gone : a = h.cell.value
      · rw [gone, Function.update_self] at live
        cases live
      · rw [Function.update_of_ne gone] at live
        have member := (strings_perm h).mem_iff.mp (owns.owned a live)
        rw [List.mem_cons] at member
        exact List.mem_cons_of_mem _ (member.resolve_left gone)

theorem Owns.append {key value : StringBlock} {p : Nat} (owns : Owns strings held)
    (keyRoom : key.bytes.length < key.size) (room : value.bytes.length < value.size) :
    Owns ((strings.alloc key).alloc value)
      (held ++ [.last p strings.next key.bytes value.bytes]) := by
  obtain ⟨keys, values, unshared⟩ := owns.stored.append (p := p) keyRoom room
  refine ⟨keys, values, unshared, ?_⟩
  intro a live
  rw [List.flatMap_append, List.flatMap_singleton, List.mem_append]
  by_cases valueNew : a = strings.next + 1
  · exact .inr (valueNew ▸ List.mem_cons_of_mem _ (List.mem_cons_self ..))
  · rw [Heap.alloc_old valueNew] at live
    by_cases keyNew : a = strings.next
    · exact .inr (keyNew ▸ List.mem_cons_self ..)
    · rw [Heap.alloc_old keyNew] at live
      exact .inl (owns.owned a live)

theorem Owns.linked (owns : Owns strings held) (p : Nat) : Owns strings (Held.linked p held) := by
  obtain ⟨keys, values, unshared⟩ := owns.stored.linked p
  refine ⟨keys, values, unshared, ?_⟩
  rw [Held.strings_linked]
  exact owns.owned

end Owns

namespace LocationList

variable {list : LocationList} {held front back : List Held} {userId latitude longitude : Bytes}

theorem holds_zero : zero.Holds [] where
  chain := rfl
  tail := rfl
  keys := .nil
  owns := {
    key := by simp
    value := by simp
    unshared := .nil
    owned := by
      intro a live
      cases live }

/-- The old value of a node is freed, and the new one stands in its place. -/
theorem replace_held {h : Held} (holds : list.Holds (front ++ h :: back))
    (short : latitude.length + longitude.length + 2 < 2 ^ 31) :
    ∃ after, list.replace h.address h.cell latitude longitude = .ok after ∧
      after.Holds (front ++
        h.withValue list.strings.next (locationString latitude longitude) :: back) ∧
        after.strings.freed = list.strings.freed ++ [h.cell.value] := by
  have here : h ∈ front ++ h :: back := List.mem_append_right _ (List.mem_cons_self ..)
  obtain ⟨block, live, -, -⟩ := holds.owns.value h here
  obtain ⟨freed, free⟩ := Heap.free_of_live live
  have cell : list.cells.block h.address = some h.cell :=
    holds.chain.block_of_mem (List.mem_map.mpr ⟨h, here, rfl⟩)
  obtain ⟨cells, store⟩ := Heap.store_of_live (b := { h.cell with value := list.strings.next }) cell
  obtain ⟨-, freedNext, freedList⟩ := Heap.free_some free
  have cellsBlock := (Heap.store_some store).1
  have written : ({ list with strings := freed } : LocationList).newLocation latitude longitude =
      .ok (freed.next, { list with
        strings := freed.alloc (locationBlock latitude longitude) }) := newLocation_short short
  rw [freedNext] at written
  have chain := holds.chain
  rw [List.map_append, List.map_cons] at chain
  have apart : ∀ entry ∈ front.map Held.place ++ back.map Held.place, entry.1 ≠ h.address := by
    have addresses := (List.perm_middle.map Prod.fst).nodup_iff.mp chain.nodup
    rw [List.map_cons, List.nodup_cons] at addresses
    intro entry member same
    exact addresses.1 (List.mem_map.mpr ⟨entry, member, same⟩)
  refine ⟨{ list with
    strings := freed.alloc (locationBlock latitude longitude), cells := cells }, ?_, ?_, ?_⟩
  · simp only [replace, free, access, bind, Except.bind, written, store]
    rfl
  · constructor
    · rw [List.map_append, List.map_cons]
      refine Segment.replace chain rfl ?_ ?_ ?_
      · rw [cellsBlock]
        exact Function.update_self ..
      · intro entry inFront
        rw [cellsBlock]
        exact Function.update_of_ne (apart entry (List.mem_append_left _ inFront)) _ _
      · intro entry inBack
        rw [cellsBlock]
        exact Function.update_of_ne (apart entry (List.mem_append_right _ inBack)) _ _
    · rw [holds.tail]
      simp [Held.withValue]
    · have same := holds.keys
      simpa [Held.withValue] using same
    · exact holds.owns.replace free (locationBlock_room latitude longitude)
  · rw [Heap.alloc_freed, freedList]

/-- The list behind the two allocations of a new node. -/
def withStrings (list : LocationList) (userId latitude longitude : Bytes) : LocationList :=
  { list with
    strings := (list.strings.alloc ⟨userId.length + 1, userId⟩).alloc
      (locationBlock latitude longitude) }

theorem append_short (short : latitude.length + longitude.length + 2 < 2 ^ 31) :
    list.append userId latitude longitude = (list.withStrings userId latitude longitude).addData
      list.strings.next (list.strings.next + 1) := by
  have written : list.newString (userId.length + 1) userId = .ok (list.strings.next, { list with
      strings := list.strings.alloc ⟨userId.length + 1, userId⟩ }) :=
    if_neg (Nat.not_succ_le_self _)
  have again : ({ list with strings := list.strings.alloc ⟨userId.length + 1, userId⟩ } :
      LocationList).newLocation latitude longitude =
        .ok (list.strings.next + 1, list.withStrings userId latitude longitude) :=
    newLocation_short short
  simp only [append, written, bind, Except.bind, again]

theorem withStrings_owns (owns : Owns list.strings held) (p : Nat) :
    Owns (list.withStrings userId latitude longitude).strings
      (held ++ [.last p list.strings.next userId (locationString latitude longitude)]) :=
  owns.append (Nat.lt_succ_self _) (locationBlock_room latitude longitude)

/-- `add_data` puts its node behind the last one. -/
theorem addData_chained (chained : list.Chained held) (key value : Nat) (keyText text : Bytes) :
    ∃ after, list.addData key value = .ok after ∧
      after.Chained (Held.linked list.cells.next held ++
        [⟨list.cells.next, ⟨key, value, none⟩, keyText, text⟩]) ∧
        after.strings = list.strings ∧ after.cells.freed = list.cells.freed := by
  obtain ⟨chain, tail⟩ := chained
  rw [addData]
  cases held.eq_nil_or_concat with
  | inl empty =>
      subst empty
      have head : list.head = none := chain
      rw [if_pos ⟨head, tail⟩]
      exact ⟨_, rfl, ⟨⟨rfl, Heap.alloc_new, rfl⟩, rfl⟩, rfl, rfl⟩
  | inr split =>
      obtain ⟨front, h, whole⟩ := split
      rw [List.concat_eq_append] at whole
      subst whole
      have last : list.tail = some h.address := by
        rw [tail, List.map_append, List.map_singleton, List.getLast?_concat]
      rw [List.map_append, List.map_singleton] at chain
      have cell : list.cells.block h.address = some h.cell :=
        chain.block_of_mem (List.mem_append_right _ (List.mem_singleton_self _))
      have live := Heap.alloc_live (c := ⟨key, value, none⟩) cell
      obtain ⟨cells, store⟩ :=
        Heap.store_of_live (b := { h.cell with next := some list.cells.next }) live
      obtain ⟨cellsBlock, -, cellsFreed⟩ := Heap.store_some store
      have filled : ¬ (list.head = none ∧ some h.address = none) := by simp
      simp only [last, if_neg filled, access, live, bind, Except.bind, store]
      refine ⟨_, rfl, ⟨?_, ?_⟩, rfl, cellsFreed⟩
      · have addresses := chain.nodup
        rw [List.map_append, List.map_singleton, ← List.concat_eq_append, List.nodup_concat]
          at addresses
        rw [Held.linked_concat, List.map_append, List.map_append, List.map_singleton,
          List.map_singleton]
        refine chain.extend ?_ rfl ?_ rfl ?_
        · rw [cellsBlock]
          exact Function.update_self ..
        · rw [cellsBlock]
          have apart : list.cells.next ≠ h.address := Nat.ne_of_gt (Heap.below_of_live cell)
          exact (Function.update_of_ne apart _ _).trans Heap.alloc_new
        · intro entry member
          have apart : entry.1 ≠ h.address := by
            intro same
            exact addresses.1 (List.mem_map.mpr ⟨entry, member, same⟩)
          have below := Heap.below_of_live (chain.block_of_mem (List.mem_append_left _ member))
          rw [cellsBlock]
          exact (Function.update_of_ne apart _ _).trans (Heap.alloc_old (Nat.ne_of_lt below))
      · rw [List.map_append, List.map_singleton, List.getLast?_concat]

/-- A key that is not in the list gets a node behind the others. -/
theorem append_held (holds : list.Holds held) (other : userId ∉ held.map Held.key)
    (short : latitude.length + longitude.length + 2 < 2 ^ 31) :
    ∃ after, list.append userId latitude longitude = .ok after ∧
      after.Holds (Held.linked list.cells.next held ++
        [.last list.cells.next list.strings.next userId (locationString latitude longitude)]) ∧
        after.strings.freed = list.strings.freed := by
  let written := list.withStrings userId latitude longitude
  have start : written.Chained held := ⟨holds.chain, holds.tail⟩
  obtain ⟨after, added, chained, strings, -⟩ := addData_chained start list.strings.next
    (list.strings.next + 1) userId (locationString latitude longitude)
  have freed : after.strings.freed = list.strings.freed := by rw [strings]; rfl
  refine ⟨after, (append_short short).trans added, ?_, freed⟩
  refine ⟨chained.chain, chained.tail, ?_, ?_⟩
  · rw [List.map_append, Held.map_linked fun _ => rfl, List.map_singleton, ← List.concat_eq_append,
      List.nodup_concat]
    exact ⟨other, holds.keys⟩
  · rw [strings]
    exact withStrings_owns (holds.owns.linked _) _

/-- The value that is found for a key does not depend on the links. -/
theorem value_linked (p : Nat) (held : List Held) (userId : Bytes) :
    ((Held.linked p held).find? fun h => h.key = userId).map (fun h => h.cell.value) =
      (held.find? fun h => h.key = userId).map fun h => h.cell.value := by
  have data (held : List Held) : (held.find? fun h => h.key = userId).map (fun h => h.cell.value) =
      ((held.map fun h => (h.key, h.cell.value)).find? fun pair => pair.1 = userId).map
        Prod.snd := by
    rw [List.find?_map, Option.map_map]
    rfl
  rw [data, data, Held.map_linked fun _ => rfl]

section Replaced

variable {h : Held} {address : Nat} {value : Bytes}

/-- The node that is found has its new value, the others are as they were. -/
theorem entries_replaced (before : ∀ x ∈ front, h.key ≠ x.key) :
    (front ++ h.withValue address value :: back).map Held.entry =
      LastWrite.put h.key value ((front ++ h :: back).map Held.entry) := by
  have absent : h.key ∉ (front.map Held.entry).map Prod.fst := by
    intro member
    obtain ⟨entry, inside, key⟩ := List.mem_map.mp member
    obtain ⟨x, inFront, built⟩ := List.mem_map.mp inside
    subst built
    exact before x inFront key.symm
  rw [List.map_append, List.map_append, List.map_cons, List.map_cons]
  exact (LastWrite.put_append absent).symm

theorem value_replaced {other : Bytes} (differs : h.key ≠ other) :
    ((front ++ h.withValue address value :: back).find? fun x => x.key = other) =
      (front ++ h :: back).find? fun x => x.key = other := by
  have changed : (h.withValue address value).key ≠ other := differs
  rw [List.find?_append, List.find?_append, List.find?_cons_of_neg (by simpa using changed),
    List.find?_cons_of_neg (by simpa using differs)]

end Replaced

/-- One `push_location`: the last write wins, and what it replaces is freed. -/
theorem pushLocation_held (holds : list.Holds held)
    (short : latitude.length + longitude.length + 2 < 2 ^ 31) :
    ∃ after held', list.pushLocation userId latitude longitude = some (.ok after) ∧
      after.Holds held' ∧
        held'.map Held.entry =
          LastWrite.put userId (locationString latitude longitude) (held.map Held.entry) ∧
          after.strings.freed = list.strings.freed ++
            ((held.find? fun h => h.key = userId).map fun h => h.cell.value).toList ∧
          ∀ other, other ≠ userId →
            ((held'.find? fun h => h.key = other).map fun h => h.cell.value) =
              (held.find? fun h => h.key = other).map fun h => h.cell.value := by
  have keys : (held.map Held.entry).map Prod.fst = held.map Held.key := by
    rw [List.map_map]
    rfl
  rw [pushLocation, search_held holds]
  cases found : held.find? fun h => h.key = userId with
  | some h =>
      obtain ⟨same, front, back, whole, before⟩ := List.find?_eq_some_iff_append.mp found
      rw [decide_eq_true_eq] at same
      subst whole same
      have others : ∀ x ∈ front, h.key ≠ x.key := by
        intro x inFront equal
        have differs := before x inFront
        simp only [Bool.not_eq_true', decide_eq_false_iff_not] at differs
        exact differs equal.symm
      obtain ⟨after, replaced, holdsAfter, freed⟩ := replace_held holds short
      refine ⟨after, _, congrArg some replaced, holdsAfter, entries_replaced others, freed, ?_⟩
      intro other differs
      rw [value_replaced (Ne.symm differs)]
  | none =>
      have absent : userId ∉ held.map Held.key := by
        intro member
        obtain ⟨h, inside, same⟩ := List.mem_map.mp member
        have other := List.find?_eq_none.mp found h inside
        exact other (decide_eq_true same)
      obtain ⟨after, appended, holdsAfter, freed⟩ := append_held holds absent short
      rw [LastWrite.put_of_not_mem (keys ▸ absent)]
      refine ⟨after, _, congrArg some appended, holdsAfter, ?_, ?_, ?_⟩
      · rw [List.map_append, Held.map_linked fun _ => rfl]
        rfl
      · rw [freed]
        exact (List.append_nil _).symm
      · intro other differs
        have added : ([Held.last list.cells.next list.strings.next userId
            (locationString latitude longitude)].find? fun h => h.key = other) = none := by
          simpa [Held.last] using Ne.symm differs
        rw [List.find?_append, added, Option.or_none, value_linked]

/-- Only texts whose length is an `int` are stored. -/
theorem short_of_pushed {after : LocationList} (holds : list.Holds held)
    (pushed : list.pushLocation userId latitude longitude = some (.ok after)) :
    latitude.length + longitude.length + 2 < 2 ^ 31 := by
  by_cases short : latitude.length + longitude.length + 2 < 2 ^ 31
  · exact short
  · exfalso
    have long (list : LocationList) : ∃ fault,
        list.newLocation latitude longitude = .error fault := by
      have large : (2 ^ 31 : Int) ≤ (latitude.length : Int) + longitude.length + 1 + 1 := by omega
      exact ⟨_, if_pos large⟩
    rw [pushLocation, search_held holds] at pushed
    cases found : held.find? fun h => h.key = userId with
    | some h =>
        rw [found] at pushed
        have replaced : list.replace h.address h.cell latitude longitude = .ok after :=
          Option.some.inj pushed
        obtain ⟨block, live, -, -⟩ := holds.owns.value h (List.mem_of_find?_eq_some found)
        obtain ⟨freed, free⟩ := Heap.free_of_live live
        obtain ⟨fault, fails⟩ := long { list with strings := freed }
        simp only [replace, free, access, bind, Except.bind, fails] at replaced
        cases replaced
    | none =>
        rw [found] at pushed
        have appended : list.append userId latitude longitude = .ok after := Option.some.inj pushed
        have written : list.newString (userId.length + 1) userId =
          .ok (list.strings.next, { list with
            strings := list.strings.alloc ⟨userId.length + 1, userId⟩ }) :=
          if_neg (Nat.not_succ_le_self _)
        obtain ⟨fault, fails⟩ := long { list with
          strings := list.strings.alloc ⟨userId.length + 1, userId⟩ }
        simp only [append, written, bind, Except.bind, fails] at appended
        cases appended

end LocationList

end Ttac
