import Mathlib.Data.List.Basic
import Mathlib.Data.List.Induction
import Mathlib.Data.List.Nodup

set_option autoImplicit false

/- Maps that are kept as a list of entries, in the order in which their keys were first
written. -/
namespace LastWrite

variable {α β : Type} [DecidableEq α] {key other : α} {value : β} {entries : List (α × β)}

/-- The entry of the key is replaced; without one it is added behind the others. -/
def put (key : α) (value : β) : List (α × β) → List (α × β)
  | [] => [(key, value)]
  | entry :: entries =>
    if key = entry.1 then (entry.1, value) :: entries else entry :: put key value entries

def get (key : α) (entries : List (α × β)) : Option β :=
  (entries.find? fun entry => entry.1 = key).map Prod.snd

theorem get_cons (entry : α × β) : get key (entry :: entries) =
    if entry.1 = key then some entry.2 else get key entries := by
  by_cases same : entry.1 = key <;> simp [get, same]

theorem mem_of_get (found : get key entries = some value) : (key, value) ∈ entries := by
  induction entries with
  | nil => cases found
  | cons entry entries ih =>
      rw [get_cons] at found
      split at found
      · rename_i same
        cases found
        rw [← same]
        exact List.mem_cons_self ..
      · exact List.mem_cons_of_mem _ (ih found)

/-- Where no key comes twice, each entry is found. -/
theorem get_of_mem (keys : (entries.map Prod.fst).Nodup) (member : (key, value) ∈ entries) :
    get key entries = some value := by
  induction entries with
  | nil => cases member
  | cons entry entries ih =>
      rw [List.map_cons, List.nodup_cons] at keys
      rw [get_cons]
      cases List.mem_cons.mp member with
      | inl same =>
          rw [← same]
          exact if_pos rfl
      | inr later =>
          have differs : entry.1 ≠ key := by
            intro same
            exact keys.1 (List.mem_map.mpr ⟨_, later, same.symm⟩)
          rw [if_neg differs, ih keys.2 later]

theorem get_put_self : get key (put key value entries) = some value := by
  induction entries with
  | nil => simp [put, get]
  | cons entry entries ih =>
      rw [put]
      split
      · rename_i same
        rw [get_cons, if_pos same.symm]
      · rename_i differs
        rw [get_cons, if_neg (Ne.symm differs), ih]

theorem get_put_of_ne (differs : other ≠ key) :
    get other (put key value entries) = get other entries := by
  induction entries with
  | nil => simp [put, get, Ne.symm differs]
  | cons entry entries ih =>
      rw [put]
      split
      · rename_i same
        have changed : entry.1 ≠ other := same ▸ Ne.symm differs
        rw [get_cons, get_cons, if_neg changed, if_neg changed]
      · rw [get_cons, get_cons, ih]

theorem keys_put : (put key value entries).map Prod.fst =
    if key ∈ entries.map Prod.fst then entries.map Prod.fst else entries.map Prod.fst ++ [key] := by
  induction entries with
  | nil => simp [put]
  | cons entry entries ih =>
      rw [put]
      by_cases same : key = entry.1
      · simp [same]
      · rw [if_neg same, List.map_cons, ih]
        by_cases known : key ∈ entries.map Prod.fst
        · rw [if_pos known, List.map_cons, if_pos (List.mem_cons_of_mem _ known)]
        · have absent : key ∉ (entry :: entries).map Prod.fst := by
            rw [List.map_cons, List.mem_cons, not_or]
            exact ⟨same, known⟩
          rw [if_neg known, if_neg absent, List.map_cons, List.cons_append]

theorem put_of_not_mem (absent : key ∉ entries.map Prod.fst) :
    put key value entries = entries ++ [(key, value)] := by
  induction entries with
  | nil => rfl
  | cons entry entries ih =>
      rw [List.map_cons, List.mem_cons, not_or] at absent
      rw [put, if_neg absent.1, ih absent.2, List.cons_append]

theorem put_append {old : β} {front back : List (α × β)} (absent : key ∉ front.map Prod.fst) :
    put key value (front ++ (key, old) :: back) = front ++ (key, value) :: back := by
  induction front with
  | nil => exact if_pos rfl
  | cons entry front ih =>
      rw [List.map_cons, List.mem_cons, not_or] at absent
      rw [List.cons_append, put, if_neg absent.1, ih absent.2, List.cons_append]

/-- The map behind some writes. -/
def puts (writes : List (α × β)) (entries : List (α × β)) : List (α × β) :=
  writes.foldl (fun entries write => put write.1 write.2 entries) entries

@[simp] theorem puts_nil : puts [] entries = entries := rfl

@[simp] theorem puts_cons (write : α × β) (writes : List (α × β)) :
    puts (write :: writes) entries = puts writes (put write.1 write.2 entries) := rfl

theorem puts_append (earlier later : List (α × β)) :
    puts (earlier ++ later) entries = puts later (puts earlier entries) := List.foldl_append

theorem puts_concat (write : α × β) (writes : List (α × β)) :
    puts (writes ++ [write]) entries = put write.1 write.2 (puts writes entries) := by
  simp [puts]

/-- A key has the value that was written last. -/
theorem get_puts (writes : List (α × β)) : get key (puts writes []) = get key writes.reverse := by
  induction writes using List.reverseRecOn with
  | nil => rfl
  | append_singleton writes write ih =>
      rw [puts_concat, List.reverse_append, List.reverse_singleton, List.singleton_append, get_cons]
      split
      · rename_i same
        rw [← same, get_put_self]
      · rename_i differs
        rw [get_put_of_ne (Ne.symm differs), ih]

/-- The keys stand in the order in which they were first written. -/
theorem keys_puts [BEq α] [LawfulBEq α] (writes : List (α × β)) :
    (puts writes []).map Prod.fst = (writes.map Prod.fst).eraseDups := by
  induction writes using List.reverseRecOn with
  | nil => rfl
  | append_singleton writes write ih =>
      rw [puts_concat, keys_put, ih, List.map_append, List.map_singleton, List.eraseDups_append]
      by_cases known : write.1 ∈ writes.map Prod.fst
      · have gone : [write.1].removeAll (writes.map Prod.fst) = [] := by
          simpa [List.removeAll] using known
        rw [if_pos (List.mem_eraseDups.mpr known), gone]
        simp
      · have stays : [write.1].removeAll (writes.map Prod.fst) = [write.1] := by
          simpa [List.removeAll] using known
        rw [if_neg (fun member => known (List.mem_eraseDups.mp member)), stays]
        simp [List.eraseDups_cons]

end LastWrite
