import Mathlib.Data.List.Basic
import Mathlib.Data.List.Nodup
import Mathlib.Data.List.Pairwise

set_option autoImplicit false

/- Tables whose rows are numbered as they are inserted, and columns that refer to them. -/
namespace Relational

/-- A list without repetition that has one element only. -/
theorem eq_singleton {α : Type} {l : List α} {a : α} (nodup : l.Nodup) (member : a ∈ l)
    (only : ∀ b ∈ l, b = a) : l = [a] := by
  have repeated := List.eq_replicate_of_mem only
  have once : l.length ≤ 1 := by
    rw [repeated] at nodup
    exact List.nodup_replicate.mp nodup
  have some := List.length_pos_of_mem member
  rw [repeated, show l.length = 1 by omega]
  rfl

/-- The rows have increasing numbers below `limit`. `next` is above every number given so
far, so that a number is never given twice. -/
structure Numbered {α : Type} (number : α → Int) (limit : Int) where
  rows : List α
  next : Int
  positive : 0 < next
  bounded : next ≤ limit
  within : ∀ row ∈ rows, 0 < number row ∧ number row < next
  increasing : rows.Pairwise fun a b => number a < number b

namespace Numbered

variable {α : Type} {number : α → Int} {limit : Int}

/-- A table without rows. -/
def empty (enough : 1 ≤ limit) : Numbered number limit :=
  ⟨[], 1, by decide, enough, by simp, .nil⟩

def Has (table : Numbered number limit) (n : Int) : Prop := ∃ row ∈ table.rows, number row = n

instance (table : Numbered number limit) (n : Int) : Decidable (table.Has n) :=
  inferInstanceAs (Decidable (∃ row ∈ table.rows, number row = n))

/-- The number of an inserted row may leave some numbers out. -/
def insert (table : Numbered number limit) (gap : Nat) (make : Int → α)
    (numbered : ∀ n, number (make n) = n) : Option (Numbered number limit) :=
  if fits : table.next + gap < limit then
    some {
      rows := table.rows ++ [make (table.next + gap)]
      next := table.next + gap + 1
      positive := by have := table.positive; omega
      bounded := by omega
      within := by
        intro row member
        rw [List.mem_append, List.mem_singleton] at member
        cases member with
        | inl old =>
            have := table.within row old
            omega
        | inr new =>
            have := table.positive
            rw [new, numbered]
            omega
      increasing := by
        rw [List.pairwise_append]
        refine ⟨table.increasing, List.pairwise_singleton _ _, ?_⟩
        intro row old new member
        have := table.within row old
        rw [List.mem_singleton.mp member, numbered]
        omega }
  else none

/-- A change of the rows that keeps their numbers. -/
def update (table : Numbered number limit) (change : α → α)
    (keeps : ∀ row, number (change row) = number row) : Numbered number limit where
  rows := table.rows.map change
  next := table.next
  positive := table.positive
  bounded := table.bounded
  within := by
    intro row member
    obtain ⟨old, oldMember, same⟩ := List.mem_map.mp member
    rw [← same, keeps]
    exact table.within old oldMember
  increasing := by
    rw [List.pairwise_map]
    apply table.increasing.imp
    intro a b less
    rw [keeps, keeps]
    exact less

section Insert

variable {table after : Numbered number limit} {gap : Nat} {make : Int → α}
  {numbered : ∀ n, number (make n) = n}

theorem insert_some (inserted : table.insert gap make numbered = some after) :
    table.next + gap < limit ∧ after.rows = table.rows ++ [make (table.next + gap)] ∧
      after.next = table.next + gap + 1 := by
  unfold insert at inserted
  split at inserted
  · rename_i fits
    cases inserted
    exact ⟨fits, rfl, rfl⟩
  · cases inserted

theorem Has.insert {n : Int} (has : table.Has n)
    (inserted : table.insert gap make numbered = some after) : after.Has n := by
  obtain ⟨row, member, same⟩ := has
  refine ⟨row, ?_, same⟩
  rw [(insert_some inserted).2.1]
  exact List.mem_append_left _ member

end Insert

theorem numbers_nodup (table : Numbered number limit) : (table.rows.map number).Nodup := by
  rw [List.Nodup, List.pairwise_map]
  apply table.increasing.imp
  intro a b less
  omega

/-- No two rows have the same number. -/
theorem eq_of_number_eq (table : Numbered number limit) {a b : α} (left : a ∈ table.rows)
    (right : b ∈ table.rows) (same : number a = number b) : a = b :=
  List.inj_on_of_nodup_map table.numbers_nodup left right same

/-- The rows with the number of a row are that row. -/
theorem filter_number (table : Numbered number limit) {row : α} (member : row ∈ table.rows) :
    table.rows.filter (fun other => number other = number row) = [row] := by
  have nodup := (table.numbers_nodup.of_map number).filter
    fun other => decide (number other = number row)
  have only : ∀ other ∈ table.rows.filter (fun other => number other = number row),
      other = row := by
    intro other selected
    rw [List.mem_filter, decide_eq_true_eq] at selected
    exact table.eq_of_number_eq selected.1 member selected.2
  have found : row ∈ table.rows.filter (fun other => number other = number row) := by
    rw [List.mem_filter, decide_eq_true_eq]
    exact ⟨member, rfl⟩
  exact eq_singleton nodup found only

end Numbered

/-- Every row refers to a row of the table. -/
def References {α β : Type} {number : β → Int} {limit : Int} (rows : List α) (column : α → Int)
    (table : Numbered number limit) : Prop := ∀ row ∈ rows, table.Has (column row)

namespace References

variable {α β : Type} {number : β → Int} {limit : Int} {rows : List α} {column : α → Int}
  {table after : Numbered number limit}

theorem nil : References [] column table := by
  intro row member
  cases member

/-- One more row that refers to the table. -/
theorem append (refers : References rows column table) {row : α} (has : table.Has (column row)) :
    References (rows ++ [row]) column table := by
  intro other member
  rw [List.mem_append, List.mem_singleton] at member
  cases member with
  | inl old => exact refers other old
  | inr new => exact new ▸ has

/-- One more row to refer to. -/
theorem insert {gap : Nat} {make : Int → β} {numbered : ∀ n, number (make n) = n}
    (refers : References rows column table)
    (inserted : table.insert gap make numbered = some after) : References rows column after := by
  intro row member
  exact (refers row member).insert inserted

/-- A change of the rows that keeps what they refer to. -/
theorem map {change : α → α} (refers : References rows column table)
    (keeps : ∀ row, column (change row) = column row) :
    References (rows.map change) column table := by
  intro row member
  obtain ⟨old, oldMember, same⟩ := List.mem_map.mp member
  rw [← same, keeps]
  exact refers old oldMember

end References

end Relational
