import Mathlib.Data.List.Nodup
import Mathlib.Logic.Function.Basic

set_option autoImplicit false

/- A heap that gives each address out once, and chains of cells on it. -/
namespace Memory

/-- `next` is the address of the coming allocation, and `freed` are the addresses that were
given back, in their order. -/
structure Heap (β : Type) where
  block : Nat → Option β
  next : Nat
  freed : List Nat
  live_iff : ∀ a, (block a).isSome = true ↔ a < next ∧ a ∉ freed
  freed_below : ∀ a ∈ freed, a < next
  freed_once : freed.Nodup

namespace Heap

variable {β : Type}

def empty : Heap β where
  block := fun _ => none
  next := 0
  freed := []
  live_iff := by simp
  freed_below := by simp
  freed_once := .nil

/-- The heap behind an allocation, which is given the address `heap.next`. -/
def alloc (heap : Heap β) (b : β) : Heap β where
  block := Function.update heap.block heap.next (some b)
  next := heap.next + 1
  freed := heap.freed
  live_iff := by
    intro a
    by_cases new : a = heap.next
    · subst new
      rw [Function.update_self]
      refine iff_of_true rfl ⟨Nat.lt_succ_self _, ?_⟩
      intro member
      exact Nat.lt_irrefl _ (heap.freed_below _ member)
    · rw [Function.update_of_ne new, heap.live_iff]
      apply and_congr_left
      intro _
      omega
  freed_below := by
    intro a member
    exact Nat.lt_succ_of_lt (heap.freed_below a member)
  freed_once := heap.freed_once

/-- A live block that is overwritten. -/
def store (heap : Heap β) (a : Nat) (b : β) : Option (Heap β) :=
  if live : (heap.block a).isSome = true then
    some { heap with
      block := Function.update heap.block a (some b)
      live_iff := by
        intro other
        by_cases same : other = a
        · subst same
          rw [Function.update_self]
          exact iff_of_true rfl ((heap.live_iff other).mp live)
        · rw [Function.update_of_ne same]
          exact heap.live_iff other }
  else none

/-- `free` of a live block; anything else is undefined. -/
def free (heap : Heap β) (a : Nat) : Option (Heap β) :=
  if live : (heap.block a).isSome = true then
    some {
      block := Function.update heap.block a none
      next := heap.next
      freed := heap.freed ++ [a]
      live_iff := by
        intro other
        by_cases same : other = a
        · subst same
          simp
        · rw [Function.update_of_ne same, heap.live_iff, List.mem_append, List.mem_singleton]
          simp [same]
      freed_below := by
        intro other member
        rw [List.mem_append, List.mem_singleton] at member
        cases member with
        | inl old => exact heap.freed_below other old
        | inr new =>
            subst new
            exact ((heap.live_iff other).mp live).1
      freed_once := by
        rw [← List.concat_eq_append, List.nodup_concat]
        exact ⟨((heap.live_iff a).mp live).2, heap.freed_once⟩ }
  else none

section Operations

variable {heap after : Heap β} {a other : Nat} {b : β}

@[simp] theorem alloc_new : (heap.alloc b).block heap.next = some b := Function.update_self ..

theorem alloc_old (different : a ≠ heap.next) : (heap.alloc b).block a = heap.block a :=
  Function.update_of_ne different _ _

@[simp] theorem alloc_next : (heap.alloc b).next = heap.next + 1 := rfl

@[simp] theorem alloc_freed : (heap.alloc b).freed = heap.freed := rfl

theorem below_of_live (live : heap.block a = some b) : a < heap.next := by
  apply ((heap.live_iff a).mp _).1
  rw [live]
  rfl

/-- A live block keeps its place when another one is allocated. -/
theorem alloc_live {c : β} (live : heap.block a = some b) : (heap.alloc c).block a = some b := by
  rw [alloc_old (Nat.ne_of_lt (below_of_live live)), live]

theorem store_some (stored : heap.store a b = some after) :
    after.block = Function.update heap.block a (some b) ∧ after.next = heap.next ∧
      after.freed = heap.freed := by
  unfold store at stored
  split at stored
  · cases stored
    exact ⟨rfl, rfl, rfl⟩
  · cases stored

theorem store_of_live {c : β} (live : heap.block a = some c) :
    ∃ after, heap.store a b = some after := by
  have known : (heap.block a).isSome = true := by
    rw [live]
    rfl
  rw [store, dif_pos known]
  exact ⟨_, rfl⟩

theorem free_some (freed : heap.free a = some after) :
    after.block = Function.update heap.block a none ∧ after.next = heap.next ∧
      after.freed = heap.freed ++ [a] := by
  unfold free at freed
  split at freed
  · cases freed
    exact ⟨rfl, rfl, rfl⟩
  · cases freed

theorem free_of_live (live : heap.block a = some b) : ∃ after, heap.free a = some after := by
  have known : (heap.block a).isSome = true := by
    rw [live]
    rfl
  rw [free, dif_pos known]
  exact ⟨_, rfl⟩

/-- What is not live is either not yet given out or was given back once. -/
theorem count_freed (given : a < heap.next) :
    heap.freed.count a = if (heap.block a).isSome = true then 0 else 1 := by
  by_cases back : a ∈ heap.freed
  · have dead : ¬ (heap.block a).isSome = true := by
      rw [heap.live_iff]
      exact fun live => live.2 back
    rw [if_neg dead, heap.freed_once.count, if_pos back]
  · rw [if_pos ((heap.live_iff a).mpr ⟨given, back⟩), List.count_eq_zero_of_not_mem back]

end Operations

section Map

variable {β δ : Type} {heap other after : Heap β} {a : Nat} {b c : β} (f : β → δ)

theorem same (block : heap.block = other.block) (next : heap.next = other.next)
    (freed : heap.freed = other.freed) : heap = other := by
  cases heap
  cases other
  cases block
  cases next
  cases freed
  rfl

/-- A heap with its blocks seen through a function. -/
def map (heap : Heap β) : Heap δ where
  block := fun a => (heap.block a).map f
  next := heap.next
  freed := heap.freed
  live_iff := by
    intro a
    rw [Option.isSome_map]
    exact heap.live_iff a
  freed_below := heap.freed_below
  freed_once := heap.freed_once

theorem map_alloc : (heap.alloc b).map f = (heap.map f).alloc (f b) := by
  refine same ?_ rfl rfl
  funext a
  by_cases new : a = heap.next
  · subst new
    have mapped : ((heap.map f).alloc (f b)).block (heap.map f).next = some (f b) := alloc_new
    exact (congrArg (Option.map f) alloc_new).trans mapped.symm
  · have mapped : ((heap.map f).alloc (f b)).block a = (heap.map f).block a := alloc_old new
    exact (congrArg (Option.map f) (alloc_old new)).trans mapped.symm

theorem map_update (block : Nat → Option β) (found : Option β) :
    (fun other => (Function.update block a found other).map f) =
      Function.update (fun other => (block other).map f) a (found.map f) := by
  funext other
  by_cases here : other = a
  · rw [here, Function.update_self, Function.update_self]
  · rw [Function.update_of_ne here, Function.update_of_ne here]

theorem map_free (free : heap.free a = some after) :
    (heap.map f).free a = some (after.map f) := by
  have live : (heap.block a).isSome = true := by
    by_contra dead
    rw [Heap.free, dif_neg dead] at free
    cases free
  obtain ⟨block, next, freed⟩ := free_some free
  have seen : ((heap.map f).block a).isSome = true := (Option.isSome_map ..).trans live
  rw [Heap.free, dif_pos seen, Option.some.injEq]
  refine same ?_ next.symm freed.symm
  exact (map_update f heap.block none).symm.trans
    (congrArg (fun block other => (block other).map f) block.symm)

/-- A block that is written over at once. -/
theorem alloc_store : (heap.alloc b).store heap.next c = some (heap.alloc c) := by
  have live : ((heap.alloc b).block heap.next).isSome = true := by
    rw [alloc_new]
    rfl
  rw [Heap.store, dif_pos live, Option.some.injEq]
  exact same (Function.update_idem ..) rfl rfl

end Map

end Heap

section Segments

variable {β : Type} {next : β → Option Nat} {block changed : Nat → Option β}
  {first last : Option Nat} {a p : Nat} {cell new : β} {cells front back : List (Nat × β)}

/-- The cells stand at their addresses and lead from `first` to `last`. -/
def Segment (next : β → Option Nat) (block : Nat → Option β) :
    Option Nat → List (Nat × β) → Option Nat → Prop
  | first, [], last => first = last
  | first, (a, cell) :: cells, last =>
    first = some a ∧ block a = some cell ∧ Segment next block (next cell) cells last

theorem segment_append_iff : Segment next block first (front ++ back) last ↔
    ∃ middle, Segment next block first front middle ∧ Segment next block middle back last := by
  induction front generalizing first with
  | nil => simp [Segment]
  | cons entry front ih => simp only [List.cons_append, Segment, ih, exists_and_left, and_assoc]

theorem Segment.block_of_mem (segment : Segment next block first cells last)
    (member : (a, cell) ∈ cells) : block a = some cell := by
  obtain ⟨front, back, whole⟩ := List.append_of_mem member
  subst whole
  obtain ⟨middle, -, later⟩ := segment_append_iff.mp segment
  exact later.2.1

/-- Nothing that happens at other addresses touches the cells. -/
theorem Segment.congr (segment : Segment next block first cells last)
    (same : ∀ entry ∈ cells, changed entry.1 = block entry.1) :
    Segment next changed first cells last := by
  induction cells generalizing first with
  | nil => exact segment
  | cons entry cells ih =>
      obtain ⟨a, cell⟩ := entry
      rw [List.forall_mem_cons] at same
      exact ⟨segment.1, same.1.trans segment.2.1, ih segment.2.2 same.2⟩

/-- From one address there is only one way to the end. -/
theorem Segment.unique {other : List (Nat × β)} (segment : Segment next block first cells none)
    (again : Segment next block first other none) : cells = other := by
  induction cells generalizing first other with
  | nil =>
      cases other with
      | nil => rfl
      | cons entry other =>
          cases segment
          cases again.1
  | cons entry cells ih =>
      obtain ⟨a, cell⟩ := entry
      cases other with
      | nil =>
          cases again
          cases segment.1
      | cons second other =>
          obtain ⟨b, found⟩ := second
          have address : a = b := Option.some.inj (segment.1.symm.trans again.1)
          subst address
          have same : cell = found := Option.some.inj (segment.2.1.symm.trans again.2.1)
          subst same
          rw [ih segment.2.2 again.2.2]

/-- A segment that ends passes no address twice. -/
theorem Segment.nodup (segment : Segment next block first cells none) :
    (cells.map Prod.fst).Nodup := by
  induction cells generalizing first with
  | nil => exact .nil
  | cons entry cells ih =>
      obtain ⟨a, cell⟩ := entry
      rw [List.map_cons, List.nodup_cons]
      refine ⟨?_, ih segment.2.2⟩
      -- a second visit would lead to the end by a shorter way
      intro again
      obtain ⟨visit, member, same⟩ := List.mem_map.mp again
      obtain ⟨front, back, whole⟩ := List.append_of_mem member
      have later := segment.2.2
      rw [whole] at later
      obtain ⟨middle, -, rest⟩ := segment_append_iff.mp later
      have shorter : Segment next block first (visit :: back) none :=
        ⟨segment.1.trans (congrArg some same.symm), rest.2⟩
      have lengths := congrArg List.length (segment.unique shorter)
      rw [whole] at lengths
      simp only [List.length_cons, List.length_append] at lengths
      omega

/-- The links lead from `first` to a cell at `a`. -/
inductive Reaches (next : β → Option Nat) (block : Nat → Option β) : Option Nat → Nat → Prop where
  | here {a : Nat} {cell : β} (live : block a = some cell) : Reaches next block (some a) a
  | step {a b : Nat} {cell : β} (live : block a = some cell)
      (rest : Reaches next block (next cell) b) : Reaches next block (some a) b

/-- From the start of a segment that ends, its cells are reached and no others. -/
theorem Segment.reaches_iff (segment : Segment next block first cells none) :
    Reaches next block first a ↔ a ∈ cells.map Prod.fst := by
  induction cells generalizing first with
  | nil =>
      cases segment
      refine iff_of_false ?_ List.not_mem_nil
      intro reaches
      cases reaches
  | cons entry cells ih =>
      obtain ⟨b, cell⟩ := entry
      obtain ⟨start, live, later⟩ := segment
      subst start
      rw [List.map_cons, List.mem_cons, ← ih later]
      constructor
      · intro reaches
        cases reaches with
        | here _ => exact .inl rfl
        | step found rest =>
            rw [live] at found
            cases found
            exact .inr rest
      · intro member
        cases member with
        | inl same =>
            subst same
            exact .here live
        | inr behind => exact .step live behind

/-- A segment is no longer than the heap. -/
theorem Segment.length_le {heap : Heap β} (segment : Segment next heap.block first cells none) :
    cells.length ≤ heap.next := by
  have below : cells.map Prod.fst ⊆ List.range heap.next := by
    intro a member
    obtain ⟨entry, inside, same⟩ := List.mem_map.mp member
    subst same
    exact List.mem_range.mpr (Heap.below_of_live (segment.block_of_mem inside))
  have bound := List.Nodup.length_le_of_subset segment.nodup below
  rwa [List.length_map, List.length_range] at bound

/-- A cell is replaced by one with the same successor. -/
theorem Segment.replace
    (segment : Segment next block first (front ++ (a, cell) :: back) last)
    (successor : next new = next cell) (here : changed a = some new)
    (before : ∀ entry ∈ front, changed entry.1 = block entry.1)
    (behind : ∀ entry ∈ back, changed entry.1 = block entry.1) :
    Segment next changed first (front ++ (a, new) :: back) last := by
  obtain ⟨middle, leads, later⟩ := segment_append_iff.mp segment
  refine segment_append_iff.mpr ⟨middle, leads.congr before, later.1, here, ?_⟩
  rw [successor]
  exact later.2.2.congr behind

/-- One more cell behind the last one. -/
theorem Segment.extend {added : β}
    (segment : Segment next block first (front ++ [(a, cell)]) last)
    (here : changed a = some new) (leads : next new = some p) (there : changed p = some added)
    (ends : next added = last) (before : ∀ entry ∈ front, changed entry.1 = block entry.1) :
    Segment next changed first (front ++ [(a, new)] ++ [(p, added)]) last := by
  obtain ⟨middle, reaches, later⟩ := segment_append_iff.mp segment
  rw [List.append_assoc]
  exact segment_append_iff.mpr
    ⟨middle, reaches.congr before, later.1, here, leads, there, ends⟩

end Segments

end Memory
