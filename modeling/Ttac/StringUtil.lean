import Ttac.CString
import Ttac.Lib.Leftmost

set_option autoImplicit false

/- `string_util.c`. -/
namespace Ttac

/-- The index of the first `ch` in `s`, or `-1`. -/
def findIdx (s : Bytes) (ch : UInt8) : Int :=
  match s.idxOf? ch with
  | some i => i
  | none => -1

/-- The index of the last byte of the first match of `p` in `s`, or `-1`: the scan
is over the end position `i`, with a look-back of `len-1`. -/
def findStr (s p : Bytes) : Int :=
  let len := p.length
  match (List.range s.length).find? fun i =>
      decide (len ≤ i + 1) && strncmpEq (s.drop (i + 1 - len)) p len with
  | some i => i
  | none => -1

/-- `prefixcmp(a,b)==0`: only the shorter of the two lengths is compared. -/
def prefixcmpEq (a b : Bytes) : Bool := strncmpEq a b (min a.length b.length)

def isHex (ch : UInt8) : Bool :=
  (chr '0' ≤ ch && ch ≤ chr '9') || (chr 'a' ≤ ch && ch ≤ chr 'f') ||
    (chr 'A' ≤ ch && ch ≤ chr 'F')

def toHex (ch : UInt8) : Int :=
  if chr '0' ≤ ch ∧ ch ≤ chr '9' then (ch.toNat : Int) - (chr '0').toNat
  else if chr 'a' ≤ ch ∧ ch ≤ chr 'f' then (ch.toNat : Int) - (chr 'a').toNat + 10
  else if chr 'A' ≤ ch ∧ ch ≤ chr 'F' then (ch.toNat : Int) - (chr 'A').toNat + 10
  else -1

def toLower (str : Bytes) : Bytes :=
  str.map fun c => if chr 'A' ≤ c ∧ c ≤ chr 'Z' then c + (chr 'a' - chr 'A') else c

theorem findIdx_of_not_mem (s : Bytes) (ch : UInt8) (absent : ch ∉ s) : findIdx s ch = -1 := by
  simp only [findIdx, List.idxOf?_eq_none_iff.mpr absent]

theorem findIdx_append (v r : Bytes) (ch : UInt8) (absent : ch ∉ v) :
    findIdx (v ++ ch :: r) ch = v.length := by
  have found : (v ++ ch :: r).idxOf? ch = some v.length := by
    rw [List.idxOf?_eq_some_iff]
    refine ⟨by simp, by simp, ?_⟩
    intro j before
    rw [List.getElem_append_left before]
    intro equal
    exact absent (equal ▸ List.getElem_mem before)
  simp only [findIdx, found]

/-- A byte that occurs splits the text at its first place. -/
theorem findIdx_split (s : Bytes) (ch : UInt8) (present : ch ∈ s) :
    ∃ v r, s = v ++ ch :: r ∧ ch ∉ v ∧ findIdx s ch = v.length := by
  obtain ⟨v, r, rfl, absent⟩ := List.eq_append_cons_of_mem present
  exact ⟨v, r, rfl, absent, findIdx_append v r ch absent⟩

theorem findIdx_range (s : Bytes) (ch : UInt8) :
    -1 ≤ findIdx s ch ∧ findIdx s ch < s.length := by
  by_cases present : ch ∈ s
  · obtain ⟨v, r, rfl, -, found⟩ := findIdx_split s ch present
    rw [found]
    simp only [List.length_append, List.length_cons]
    omega
  · rw [findIdx_of_not_mem s ch present]
    omega

/-- The look-back test at end position `i` is a match that starts at `i + 1 - len`. -/
theorem findStr_test (s p : Bytes) (i : Nat) :
    (decide (p.length ≤ i + 1) && strncmpEq (s.drop (i + 1 - p.length)) p p.length) = true ↔
      p.length ≤ i + 1 ∧ p <+: s.drop (i + 1 - p.length) := by
  rw [Bool.and_eq_true, decide_eq_true_eq, strncmpEq_length]

theorem findStr_of_at (s p : Bytes) (i : Nat) (nonempty : p ≠ []) (found : Leftmost.At p s i) :
    findStr s p = i + p.length - 1 := by
  have positive := List.length_pos_of_ne_nil nonempty
  have fits := found.length_le nonempty
  have search : (List.range s.length).find? (fun j =>
      decide (p.length ≤ j + 1) && strncmpEq (s.drop (j + 1 - p.length)) p p.length) =
        some (i + p.length - 1) := by
    rw [List.find?_range_eq_some]
    refine ⟨?_, ?_, ?_⟩
    · rw [findStr_test]
      refine ⟨by omega, ?_⟩
      rw [show i + p.length - 1 + 1 - p.length = i by omega]
      exact found.1
    · rw [List.mem_range]
      omega
    · intro j before
      rw [Bool.not_eq_true', ← Bool.not_eq_true, findStr_test]
      intro ⟨enough, earlier⟩
      exact found.2 _ (by omega) earlier
  simp only [findStr, search]
  omega

theorem findStr_of_absent (s p : Bytes) (absent : ¬ p <:+: s) : findStr s p = -1 := by
  have search : (List.range s.length).find? (fun j =>
      decide (p.length ≤ j + 1) && strncmpEq (s.drop (j + 1 - p.length)) p p.length) = none := by
    rw [List.find?_eq_none]
    intro j _
    rw [findStr_test]
    intro ⟨_, somewhere⟩
    exact absent ((Leftmost.infix_iff_prefix_drop p s).mpr ⟨_, somewhere⟩)
  simp only [findStr, search]

/-- Either the pattern does not occur, or the result is the end of its leftmost match. -/
theorem findStr_cases (s p : Bytes) (nonempty : p ≠ []) :
    (¬ p <:+: s ∧ findStr s p = -1) ∨
      ∃ i, Leftmost.At p s i ∧ i + p.length ≤ s.length ∧ findStr s p = i + p.length - 1 := by
  by_cases occurs : p <:+: s
  · obtain ⟨i, found⟩ := Leftmost.exists_at occurs
    exact Or.inr ⟨i, found, found.length_le nonempty, findStr_of_at s p i nonempty found⟩
  · exact Or.inl ⟨occurs, findStr_of_absent s p occurs⟩

end Ttac
