import Ttac.Lib.LastWrite

set_option autoImplicit false

/- Maps that are kept as a list of entries, in which the first write of a key stays. -/
namespace FirstWrite

open LastWrite (get_cons)

variable {α β : Type} [DecidableEq α] {key other : α} {value : β} {entries : List (α × β)}

/-- The entry is added behind the others, unless its key is there. -/
def keep (key : α) (value : β) (entries : List (α × β)) : List (α × β) :=
  if key ∈ entries.map Prod.fst then entries else entries ++ [(key, value)]

/-- The map behind some writes. -/
def keeps (writes : List (α × β)) (entries : List (α × β)) : List (α × β) :=
  writes.foldl (fun entries write => keep write.1 write.2 entries) entries

theorem keeps_concat (write : α × β) (writes : List (α × β)) :
    keeps (writes ++ [write]) entries = keep write.1 write.2 (keeps writes entries) := by
  simp [keeps]

theorem get_append (front back : List (α × β)) :
    LastWrite.get key (front ++ back) = (LastWrite.get key front).or (LastWrite.get key back) := by
  induction front with
  | nil => rfl
  | cons entry front ih =>
      rw [List.cons_append, get_cons, get_cons, ih]
      split <;> rfl

theorem get_isSome_iff :
    (LastWrite.get key entries).isSome = true ↔ key ∈ entries.map Prod.fst := by
  induction entries with
  | nil => simp [LastWrite.get]
  | cons entry entries ih =>
      rw [get_cons, List.map_cons, List.mem_cons, ← ih]
      by_cases same : entry.1 = key
      · simp [same]
      · simp [same, Ne.symm same]

theorem get_keep :
    LastWrite.get key (keep other value entries) =
      LastWrite.get key (entries ++ [(other, value)]) := by
  rw [keep]
  split
  · rename_i there
    rw [get_append]
    by_cases same : other = key
    · subst same
      obtain ⟨old, found⟩ := Option.isSome_iff_exists.mp (get_isSome_iff.mpr there)
      rw [found, Option.some_or]
    · rw [get_cons, if_neg same]
      exact Option.or_none.symm
  · rfl

/-- A key has the value that was written first. -/
theorem get_keeps (writes : List (α × β)) :
    LastWrite.get key (keeps writes []) = LastWrite.get key writes := by
  induction writes using List.reverseRecOn with
  | nil => rfl
  | append_singleton writes write ih =>
      rw [keeps_concat, get_keep, get_append, ih, ← get_append]

theorem keys_keeps (writes : List (α × β)) : ((keeps writes []).map Prod.fst).Nodup := by
  induction writes using List.reverseRecOn with
  | nil => exact List.nodup_nil
  | append_singleton writes write ih =>
      rw [keeps_concat, keep]
      split
      · exact ih
      · rename_i absent
        rw [List.map_append, List.map_singleton, ← List.concat_eq_append, List.nodup_concat]
        exact ⟨absent, ih⟩

end FirstWrite
