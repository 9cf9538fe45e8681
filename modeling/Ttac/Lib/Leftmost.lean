import Mathlib.Data.List.Basic
import Mathlib.Data.List.Infix
import Mathlib.Data.Nat.Find

set_option autoImplicit false

/- The leftmost place where one list occurs inside another. -/
namespace Leftmost

variable {α : Type}

/-- `p` starts at position `i` of `s` and at no earlier position. -/
def At (p s : List α) (i : Nat) : Prop :=
  p <+: s.drop i ∧ ∀ j < i, ¬ p <+: s.drop j

theorem At.unique {p s : List α} {i j : Nat} (first : At p s i) (second : At p s j) : i = j := by
  rcases Nat.lt_trichotomy i j with below | same | above
  · exact absurd first.1 (second.2 i below)
  · exact same
  · exact absurd second.1 (first.2 j above)

theorem At.infix {p s : List α} {i : Nat} (found : At p s i) : p <:+: s :=
  found.1.isInfix.trans (List.drop_suffix i s).isInfix

theorem At.length_le {p s : List α} {i : Nat} (found : At p s i) (nonempty : p ≠ []) :
    i + p.length ≤ s.length := by
  have fits := found.1.length_le
  have positive := List.length_pos_of_ne_nil nonempty
  rw [List.length_drop] at fits
  omega

theorem infix_iff_prefix_drop (p s : List α) : p <:+: s ↔ ∃ i, p <+: s.drop i := by
  constructor
  · rintro ⟨before, after, rfl⟩
    refine ⟨before.length, after, ?_⟩
    rw [List.append_assoc, List.drop_left]
  · intro ⟨i, found⟩
    exact found.isInfix.trans (List.drop_suffix i s).isInfix

theorem exists_at {p s : List α} (occurs : p <:+: s) : ∃ i, At p s i := by
  classical
  have somewhere := (infix_iff_prefix_drop p s).mp occurs
  exact ⟨Nat.find somewhere, Nat.find_spec somewhere, fun j before => Nat.find_min somewhere before⟩

/-- `p` ends with position `e` of `s`. -/
def Ends (p s : List α) (e : Nat) : Prop := e < s.length ∧ p <:+ s.take (e + 1)

theorem ends_iff {p s : List α} {e : Nat} (inside : e < s.length) :
    Ends p s e ↔ p.length ≤ e + 1 ∧ p <+: s.drop (e + 1 - p.length) := by
  have length : (s.take (e + 1)).length = e + 1 := by
    rw [List.length_take]
    omega
  constructor
  · intro ⟨_, ends⟩
    have fits := ends.length_le
    rw [length] at fits
    have starts : (s.drop (e + 1 - p.length)).take (e + 1 - (e + 1 - p.length)) <+:
        s.drop (e + 1 - p.length) := List.take_prefix _ _
    have whole : p = (s.take (e + 1)).drop (e + 1 - p.length) := by
      have tail := List.suffix_iff_eq_drop.mp ends
      rwa [length] at tail
    rw [← List.drop_take, ← whole] at starts
    exact ⟨fits, starts⟩
  · intro ⟨fits, starts⟩
    refine ⟨inside, ?_⟩
    have back : e + 1 - (e + 1 - p.length) = p.length := by omega
    rw [List.suffix_iff_eq_drop, length, List.drop_take, back]
    exact List.prefix_iff_eq_take.mp starts

/-- The leftmost occurrence is the one that ends first. -/
theorem At.ends {p s : List α} {i : Nat} (found : At p s i) (nonempty : p ≠ []) :
    Ends p s (i + p.length - 1) ∧ ∀ j < i + p.length - 1, ¬ Ends p s j := by
  have positive := List.length_pos_of_ne_nil nonempty
  have fits := found.length_le nonempty
  constructor
  · rw [ends_iff (by omega), show i + p.length - 1 + 1 - p.length = i by omega]
    exact ⟨by omega, found.1⟩
  · intro j before ends
    obtain ⟨enough, starts⟩ := (ends_iff ends.1).mp ends
    exact found.2 _ (by omega) starts

/-- Text up to the first occurrence of `p` does not end with `p` any earlier. -/
theorem At.not_suffix {p u line rest : List α} (found : At p (u ++ p) u.length)
    (split : line ++ rest = u ++ p) (more : rest ≠ []) : ¬ p <:+ line := by
  rintro ⟨front, rfl⟩
  have lengths := congrArg List.length split
  simp only [List.length_append] at lengths
  have positive := List.length_pos_of_ne_nil more
  apply found.2 front.length (by omega)
  rw [← split, List.append_assoc, List.drop_left]
  exact List.prefix_append _ _

/-- Where a text first occurs does not depend on what stands behind the occurrence. -/
theorem At.append {p s : List α} {i : Nat} (found : At p s i) (nonempty : p ≠ []) (more : List α) :
    At p (s ++ more) i := by
  have fits := found.length_le nonempty
  constructor
  · rw [List.drop_append_of_le_length (by omega)]
    exact found.1.trans (List.prefix_append _ _)
  · intro j before starts
    rw [List.drop_append_of_le_length (by omega)] at starts
    have room : p.length ≤ (s.drop j).length := by
      rw [List.length_drop]
      omega
    exact found.2 j before
      (List.prefix_of_prefix_length_le starts (List.prefix_append _ _) room)

theorem At.whole {p u : List α} (found : At p (u ++ p) u.length) (nonempty : p ≠ [])
    (rest : List α) : At p (u ++ (p ++ rest)) u.length := by
  rw [← List.append_assoc]
  exact found.append nonempty rest

theorem at_front (p : List α) : At p ([] ++ p) ([] : List α).length :=
  ⟨List.prefix_refl _, fun j before => absurd before (Nat.not_lt_zero j)⟩

/-- Text up to the first occurrence of `p` does not contain it. -/
theorem At.not_infix {p u : List α} (found : At p (u ++ p) u.length) (nonempty : p ≠ []) :
    ¬ p <:+: u := by
  intro occurs
  have positive := List.length_pos_of_ne_nil nonempty
  obtain ⟨j, starts⟩ := (infix_iff_prefix_drop p u).mp occurs
  have fits := starts.length_le
  rw [List.length_drop] at fits
  apply found.2 j (by omega)
  rw [List.drop_append_of_le_length (by omega)]
  exact starts.trans (List.prefix_append _ _)

/-- A text in which `p` occurs is split at its first occurrence. -/
theorem exists_split {p s : List α} (occurs : p <:+: s) :
    ∃ u rest, s = u ++ (p ++ rest) ∧ At p (u ++ p) u.length := by
  obtain ⟨i, found⟩ := exists_at occurs
  obtain ⟨rest, behind⟩ := found.1
  have short : i ≤ s.length := by
    by_contra long
    rw [List.drop_eq_nil_of_le (by omega), List.append_eq_nil_iff] at behind
    apply found.2 0 (by omega)
    rw [behind.1]
    exact List.nil_prefix
  have split : s = s.take i ++ (p ++ rest) := by
    rw [behind, List.take_append_drop]
  have inside : (s.take i).length = i := by
    rw [List.length_take, Nat.min_eq_left short]
  refine ⟨s.take i, rest, split, ?_⟩
  rw [inside]
  constructor
  · rw [List.drop_left' inside]
  · intro j before starts
    apply found.2 j before
    have part : s.take i ++ p <+: s := ⟨rest, by rw [List.append_assoc, ← split]⟩
    exact starts.trans (part.drop j)

/-- There is only one way to split a text at its first occurrence of `p`. -/
theorem At.split_unique {p u v r q : List α} (nonempty : p ≠ []) (first : At p (u ++ p) u.length)
    (second : At p (v ++ p) v.length) (same : u ++ (p ++ r) = v ++ (p ++ q)) : u = v ∧ r = q := by
  have length := (same ▸ first.whole nonempty r).unique (second.whole nonempty q)
  obtain ⟨front, back⟩ := List.append_inj same length
  exact ⟨front, List.append_cancel_left back⟩

/-- Two different symbols first occur together behind a text that does not contain them so. -/
theorem at_pair {a b : α} {u : List α} (differ : a ≠ b) (absent : ¬ [a, b] <:+: u) :
    At [a, b] (u ++ [a, b]) u.length := by
  constructor
  · rw [List.drop_left]
  · intro j before starts
    rw [List.drop_append_of_le_length before.le] at starts
    cases shape : u.drop j with
    | nil =>
        have := congrArg List.length shape
        rw [List.length_drop, List.length_nil] at this
        omega
    | cons c rest =>
        rw [shape] at starts
        cases rest with
        | nil =>
            obtain ⟨-, second⟩ := List.cons_prefix_cons.mp starts
            exact differ (List.cons_prefix_cons.mp second).1.symm
        | cons d rest =>
            obtain ⟨rfl, second⟩ := List.cons_prefix_cons.mp starts
            obtain ⟨rfl, -⟩ := List.cons_prefix_cons.mp second
            have here : [a, b] <+: u.drop j := shape ▸ List.prefix_append [a, b] rest
            exact absent (here.isInfix.trans (List.drop_suffix j u).isInfix)

/-- A pattern that avoids `sep` does not start inside a text it does not occur in
and run over the `sep` that follows. -/
theorem not_prefix_over {p v r : List α} {sep : α} {j : Nat}
    (avoids : sep ∉ p) (absent : ¬ p <:+: v) (inside : j ≤ v.length) :
    ¬ p <+: (v ++ sep :: r).drop j := by
  intro found
  rw [List.drop_append_of_le_length inside] at found
  rcases List.prefix_or_prefix_of_prefix found (List.prefix_append _ _) with short | long
  · exact absent (short.isInfix.trans (List.drop_suffix j v).isInfix)
  · obtain ⟨tail, split⟩ := long
    cases tail with
    | nil =>
        rw [List.append_nil] at split
        exact absent (split ▸ (List.drop_suffix j v).isInfix)
    | cons c tail =>
        obtain ⟨rest, whole⟩ := found
        rw [← split, List.append_assoc] at whole
        have heads := List.append_cancel_left whole
        rw [List.cons_append] at heads
        obtain ⟨rfl, -⟩ := List.cons.inj heads
        exact avoids (by simp [← split])

theorem not_infix_snoc {p v : List α} {sep : α} (nonempty : p ≠ []) (avoids : sep ∉ p)
    (absent : ¬ p <:+: v) : ¬ p <:+: v ++ [sep] := by
  intro occurs
  obtain ⟨j, found⟩ := (infix_iff_prefix_drop p _).mp occurs
  by_cases inside : j ≤ v.length
  · exact not_prefix_over avoids absent inside found
  · have none : (v ++ [sep]).drop j = [] := by
      apply List.drop_eq_nil_of_le
      simp only [List.length_append, List.length_singleton]
      omega
    rw [none, List.prefix_nil] at found
    exact nonempty found

theorem not_infix_over {p v w : List α} {sep : α} (avoids : sep ∉ p) (absent : ¬ p <:+: v)
    (absent' : ¬ p <:+: w) : ¬ p <:+: v ++ sep :: w := by
  intro occurs
  obtain ⟨j, found⟩ := (infix_iff_prefix_drop p _).mp occurs
  by_cases inside : j ≤ v.length
  · exact not_prefix_over avoids absent inside found
  · obtain ⟨k, rfl⟩ : ∃ k, j = v.length + (k + 1) := ⟨j - v.length - 1, by omega⟩
    rw [List.drop_length_add_append, List.drop_succ_cons] at found
    exact absent' (found.isInfix.trans (List.drop_suffix k w).isInfix)

/-- A text free of the pattern, closed by two bytes foreign to the pattern, puts
the pattern's first occurrence right behind them. -/
theorem at_after_two {p v : List α} {a b : α} (r : List α) (nonempty : p ≠ [])
    (avoidsA : a ∉ p) (avoidsB : b ∉ p) (absent : ¬ p <:+: v) :
    At p (v ++ [a, b] ++ p ++ r) (v.length + 2) := by
  constructor
  · have length : v.length + 2 = (v ++ [a, b]).length := by simp
    rw [List.append_assoc, length, List.drop_left]
    exact List.prefix_append _ _
  · intro j before found
    by_cases inside : j ≤ v.length
    · have shape : v ++ [a, b] ++ p ++ r = v ++ a :: ([b] ++ p ++ r) := by simp
      rw [shape] at found
      exact not_prefix_over avoidsA absent inside found
    · have shape : v ++ [a, b] ++ p ++ r = (v ++ [a]) ++ b :: (p ++ r) := by simp
      rw [shape] at found
      refine not_prefix_over avoidsB (not_infix_snoc nonempty avoidsA absent) ?_ found
      simp only [List.length_append, List.length_singleton]
      omega

end Leftmost
