import Ttac.UrlDecode

set_option autoImplicit false

/- The loops of `find_str` and of the `strncmp` it calls, with every position they compare. -/
namespace Ttac

/-- `s[i]`, for an index that may be negative. -/
def byteAt (s : Bytes) (i : Int) : Except Fault UInt8 :=
  if i < 0 then .error (.outOfBounds i) else charAt s i.toNat

/-- `strncmp(s+i,p,n)==0`, byte by byte, with the positions of `s` it looks at. -/
def strncmpAt (s : Bytes) : Int → Bytes → Nat → Except Fault (Bool × List Int)
  | _, _, 0 => .ok (true, [])
  | i, p, n + 1 => do
    let c ← byteAt s i
    let d ← charAt p 0
    if c ≠ d then .ok (false, [i])
    else if c = 0 then .ok (true, [i])
    else
      let (equal, compared) ← strncmpAt s (i + 1) p.tail n
      .ok (equal, i :: compared)

/-- An `int` that holds every value. -/
def unbounded (v : Int) : Except Fault Int := .ok v

/-- An `int` of 32 bits. -/
def int32 (v : Int) : Except Fault Int :=
  if -(2 ^ 31) ≤ v ∧ v < 2 ^ 31 then .ok v else .error (.intOverflow v)

section Loop

variable (int : Int → Except Fault Int)

/-- `i>=len-1 && strncmp(s+(i-len+1),p,len)==0`. -/
def lookBack (s p : Bytes) (len : Int) (i : Nat) : Except Fault (Bool × List Int) := do
  if (← int (len - 1)) ≤ i then
    let start ← int ((← int (i - len)) + 1)
    strncmpAt s start p len.toNat
  else .ok (false, [])

theorem charAt_inside_of_ok {s : Bytes} {i : Nat} {c : UInt8} (read : charAt s i = .ok c) :
    i ≤ s.length := by
  rw [charAt] at read
  split at read
  · omega
  · split at read
    · omega
    · cases read

/-- The loop from `i` on. -/
def findStrLoop (s p : Bytes) (len : Int) (i : Nat) : Except Fault (Int × List Int) :=
  match _ : charAt s i with
  | .error fault => .error fault
  | .ok c =>
    if c = 0 then .ok (-1, [])
    else do
      let (equal, compared) ← lookBack int s p len i
      if equal then .ok (i, compared)
      else
        let _ ← int (i + 1)
        let (e, later) ← findStrLoop s p len (i + 1)
        .ok (e, compared ++ later)
termination_by s.length + 1 - i
decreasing_by
  have inside : i ≤ s.length := charAt_inside_of_ok (by assumption)
  omega

/-- `find_str`, with the positions of `s` that were compared. -/
def findStrRun (s p : Bytes) : Except Fault (Int × List Int) := do
  let len ← int p.length
  findStrLoop int s p len 0

end Loop

section Comparison

variable {s p : Bytes} {i : Nat}

theorem byteAt_inside (inside : i < s.length) : byteAt s i = .ok s[i] := by
  rw [byteAt, if_neg (by omega), Int.toNat_natCast, charAt_inside s i inside]

/-- A comparison that fits into the text tells whether the pattern stands there. -/
theorem strncmpAt_fits (terminated : 0 ∉ s) (fits : i + p.length ≤ s.length) :
    ∃ compared, strncmpAt s i p p.length = .ok (decide (p <+: s.drop i), compared) ∧
      ∀ j ∈ compared, 0 ≤ j ∧ j < s.length := by
  induction p generalizing i with
  | nil => exact ⟨[], rfl, by simp⟩
  | cons d p ih =>
      rw [List.length_cons] at fits
      have inside : i < s.length := by omega
      have first : charAt (d :: p) 0 = .ok d := rfl
      have shape : s.drop i = s[i] :: s.drop (i + 1) := List.drop_eq_getElem_cons inside
      rw [List.length_cons, strncmpAt, byteAt_inside inside, first, shape]
      by_cases same : s[i] = d
      · subst same
        have other : s[i] ≠ 0 := fun zero => terminated (zero ▸ List.getElem_mem inside)
        obtain ⟨compared, run, bound⟩ := ih (i := i + 1) (by omega)
        rw [Nat.cast_add, Nat.cast_one] at run
        have goesOn : (s[i] :: p <+: s[i] :: s.drop (i + 1)) ↔ p <+: s.drop (i + 1) := by
          rw [List.cons_prefix_cons]
          exact and_iff_right rfl
        refine ⟨(i : Int) :: compared, ?_, ?_⟩
        · simp only [bind, Except.bind, ne_eq, not_true_eq_false, ↓reduceIte, List.tail_cons, run,
            goesOn, other]
        · rw [List.forall_mem_cons]
          exact ⟨by omega, bound⟩
      · refine ⟨[(i : Int)], ?_, ?_⟩
        · have differs : ¬ d :: p <+: s[i] :: s.drop (i + 1) := by
            rw [List.cons_prefix_cons]
            exact fun both => same both.1.symm
          simp only [bind, Except.bind, ne_eq, same, not_false_eq_true, ↓reduceIte, differs,
            decide_false]
        · rw [List.forall_mem_singleton]
          omega

end Comparison

section Scan

variable {int : Int → Except Fault Int} {s p : Bytes}

/-- The test of the loop at `i`: the pattern ends there. -/
def endsHere (s p : Bytes) (i : Nat) : Bool :=
  decide (p.length ≤ i + 1) && strncmpEq (s.drop (i + 1 - p.length)) p p.length

/-- The first of these positions at which the pattern ends, or `-1`. -/
def firstEnd (s p : Bytes) (ends : List Nat) : Int :=
  ((ends.find? (endsHere s p)).map Nat.cast).getD (-1)

theorem findStr_firstEnd : findStr s p = firstEnd s p (List.range s.length) := by
  have same : (List.range s.length).find? (fun i => decide (p.length ≤ i + 1) &&
      strncmpEq (s.drop (i + 1 - p.length)) p p.length) =
        (List.range s.length).find? (endsHere s p) := rfl
  dsimp only [findStr]
  rw [same, firstEnd]
  cases (List.range s.length).find? (endsHere s p) <;> rfl

/-- The values the loops compute lie between `-1` and the longer of the two lengths. -/
def Keeps (int : Int → Except Fault Int) (s p : Bytes) : Prop :=
  ∀ v : Int, -1 ≤ v → v ≤ max s.length p.length → int v = .ok v

theorem lookBack_inside {i : Nat} (keeps : Keeps int s p) (terminated : 0 ∉ s)
    (inside : i < s.length) :
    ∃ compared, lookBack int s p p.length i = .ok (endsHere s p i, compared) ∧
      ∀ j ∈ compared, 0 ≤ j ∧ j < s.length := by
  have last : int ((p.length : Int) - 1) = .ok ((p.length : Int) - 1) :=
    keeps _ (by omega) (by omega)
  rw [lookBack, last]
  by_cases enough : p.length ≤ i + 1
  · have back : int ((i : Int) - p.length) = .ok ((i : Int) - p.length) :=
      keeps _ (by omega) (by omega)
    have start : int ((i : Int) - p.length + 1) = .ok ((i + 1 - p.length : Nat) : Int) := by
      rw [keeps _ (by omega) (by omega)]
      congr 1
      omega
    obtain ⟨compared, run, bound⟩ :=
      strncmpAt_fits (i := i + 1 - p.length) (p := p) terminated (by omega)
    refine ⟨compared, ?_, bound⟩
    have test : endsHere s p i = decide (p <+: s.drop (i + 1 - p.length)) := by
      rw [endsHere, decide_eq_true enough, Bool.true_and, Bool.eq_iff_iff, strncmpEq_length,
        decide_eq_true_eq]
    have reached : (p.length : Int) - 1 ≤ i := by omega
    simp only [bind, Except.bind, reached, ↓reduceIte, back, start, Int.toNat_natCast, run, test]
  · have early : ¬ (p.length : Int) - 1 ≤ i := by omega
    refine ⟨[], ?_, by simp⟩
    simp only [bind, Except.bind, early, ↓reduceIte, endsHere, decide_eq_false enough,
      Bool.false_and]

/-- From `i` on the loop finds the first end of the pattern that is left. -/
theorem findStrLoop_eq (keeps : Keeps int s p) (terminated : 0 ∉ s) {i : Nat}
    (inside : i ≤ s.length) :
    ∃ compared, findStrLoop int s p p.length i =
      .ok (firstEnd s p (List.range' i (s.length - i)), compared) ∧
        ∀ j ∈ compared, 0 ≤ j ∧ j < s.length := by
  induction left : s.length - i generalizing i with
  | zero =>
      have read := charAt_terminator s i (by omega)
      refine ⟨[], ?_, by simp⟩
      rw [findStrLoop]
      split
      · rename_i failed
        rw [read] at failed
        cases failed
      · rename_i c given
        rw [read] at given
        cases given
        rfl
  | succ n ih =>
      have more : i < s.length := by omega
      have read := charAt_inside s i more
      have other : s[i] ≠ 0 := fun zero => terminated (zero ▸ List.getElem_mem more)
      obtain ⟨compared, test, bound⟩ := lookBack_inside keeps terminated more
      have next : int ((i : Int) + 1) = .ok ((i : Int) + 1) := keeps _ (by omega) (by omega)
      obtain ⟨later, rest, laterBound⟩ := ih (i := i + 1) (by omega) (by omega)
      rw [findStrLoop]
      split
      · rename_i failed
        rw [read] at failed
        cases failed
      · rename_i c given
        rw [read] at given
        cases given
        rw [if_neg other, List.range'_succ, firstEnd, List.find?_cons]
        simp only [bind, Except.bind, test]
        cases found : endsHere s p i with
        | true => exact ⟨compared, rfl, bound⟩
        | false =>
            refine ⟨compared ++ later, ?_, ?_⟩
            · simp only [Bool.false_eq_true, ↓reduceIte, next, rest]
              rfl
            · intro j member
              cases List.mem_append.mp member with
              | inl here => exact bound j here
              | inr behind => exact laterBound j behind

/-- `find_str` returns `e`, and every position of `s` that it compares lies inside `s`. -/
def Scans (int : Int → Except Fault Int) (s p : Bytes) (e : Int) : Prop :=
  ∃ compared, findStrRun int s p = .ok (e, compared) ∧ ∀ j ∈ compared, 0 ≤ j ∧ j < s.length

theorem scans_of_keeps (keeps : Keeps int s p) (terminated : 0 ∉ s) :
    Scans int s p (findStr s p) := by
  obtain ⟨compared, run, bound⟩ := findStrLoop_eq keeps terminated (Nat.zero_le s.length)
  have len : int p.length = .ok (p.length : Int) := keeps _ (by omega) (by omega)
  refine ⟨compared, ?_, bound⟩
  rw [Nat.sub_zero, ← List.range_eq_range', ← findStr_firstEnd] at run
  rw [findStrRun, len]
  exact run

theorem keeps_unbounded : Keeps unbounded s p := fun _ _ _ => rfl

theorem keeps_int32 (short : s.length < 2 ^ 31) (shortPattern : p.length < 2 ^ 31) :
    Keeps int32 s p := by
  intro v low high
  exact if_pos (by omega)

/-- `find_str` returns the end of the leftmost occurrence, or `-1` where there is none, and
compares nothing outside of `s`; where the lengths are values of an `int` of 32 bits, no other
value it computes overflows one. -/
theorem findStr_leftmost (terminated : 0 ∉ s) (nonempty : p ≠ []) :
    Scans unbounded s p (findStr s p) ∧
      (s.length < 2 ^ 31 → p.length < 2 ^ 31 → Scans int32 s p (findStr s p)) ∧
      (0 ≤ findStr s p ↔ p <:+: s) ∧ (¬ p <:+: s → findStr s p = -1) ∧
        ∀ e : Nat, findStr s p = e → Leftmost.Ends p s e ∧ ∀ j < e, ¬ Leftmost.Ends p s j := by
  refine ⟨scans_of_keeps keeps_unbounded terminated, ?_, ?_⟩
  · intro short shortPattern
    exact scans_of_keeps (keeps_int32 short shortPattern) terminated
  cases findStr_cases s p nonempty with
  | inl absent =>
      obtain ⟨none, result⟩ := absent
      refine ⟨iff_of_false (by omega) none, fun _ => result, ?_⟩
      intro e found
      omega
  | inr occurs =>
      obtain ⟨i, found, fits, result⟩ := occurs
      have positive := List.length_pos_of_ne_nil nonempty
      refine ⟨iff_of_true (by omega) found.infix, fun none => absurd found.infix none, ?_⟩
      intro e same
      have ends : e = i + p.length - 1 := by omega
      rw [ends]
      exact found.ends nonempty

end Scan

/-- A pattern that overlaps itself, in a text that starts with a part of it. -/
theorem findStr_leftmost_sample :
    Scans int32 (ascii "-----ab") (ascii "--a") 5 ∧
      Leftmost.Ends (ascii "--a") (ascii "-----ab") 5 := by
  have text : (0 : UInt8) ∉ ascii "-----ab" := by decide
  have pattern : ascii "--a" ≠ [] := by decide
  have result : findStr (ascii "-----ab") (ascii "--a") = 5 := by decide
  obtain ⟨-, machine, -, -, ends⟩ := findStr_leftmost text pattern
  rw [result] at machine
  exact ⟨machine (by decide) (by decide), (ends 5 result).1⟩

end Ttac
