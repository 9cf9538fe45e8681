import Mathlib.Algebra.Group.Int.Defs
import Mathlib.Algebra.Group.Nat.Defs
import Mathlib.Data.List.Basic

set_option autoImplicit false

/- Bytes, the characters they stand for and the decimal text of numbers. -/
namespace Ascii

def chr (c : Char) : UInt8 := UInt8.ofNat c.toNat

/-- The bytes of a string constant. -/
def ascii (s : String) : List UInt8 := s.toList.map chr

/-- A constant is its characters, which is quicker to see than to compute. -/
theorem ascii_ofList (l : List Char) : ascii (String.ofList l) = l.map chr := by
  rw [ascii, String.toList_ofList]

def isDigit (c : UInt8) : Bool := chr '0' ≤ c && c ≤ chr '9'

def isLetter (c : UInt8) : Bool := (chr 'a' ≤ c && c ≤ chr 'z') || (chr 'A' ≤ c && c ≤ chr 'Z')

/-- Blanks and the control characters from tab to carriage return. -/
def isSpace (c : UInt8) : Bool := c == chr ' ' || (9 ≤ c && c ≤ 13)

/-- The digits `%lu` prints. -/
def decimal (n : Nat) : List UInt8 := (Nat.toDigits 10 n).map chr

/-- The text `%d` prints. -/
def decimalInt (n : Int) : List UInt8 :=
  if n < 0 then chr '-' :: decimal n.natAbs else decimal n.natAbs

theorem isDigit_iff (c : UInt8) : isDigit c = true ↔ 48 ≤ c.toNat ∧ c.toNat ≤ 57 := by
  have zero : (chr '0').toNat = 48 := rfl
  have nine : (chr '9').toNat = 57 := rfl
  simp only [isDigit, Bool.and_eq_true, decide_eq_true_eq, UInt8.le_iff_toNat_le, zero, nine]

theorem isDigit_chr (c : Char) (digit : c.isDigit = true) : isDigit (chr c) = true := by
  simp only [Char.isDigit, ge_iff_le, Bool.and_eq_true, decide_eq_true_eq] at digit
  have lower : 48 ≤ c.toNat := digit.1
  have upper : c.toNat ≤ 57 := digit.2
  rw [isDigit_iff, chr, UInt8.toNat_ofNat']
  omega

theorem isDigit_not_space (c : UInt8) (digit : isDigit c = true) : isSpace c = false := by
  rw [isDigit_iff] at digit
  have blank : c ≠ chr ' ' := by
    rintro rfl
    revert digit
    decide
  have above : ¬ c ≤ 13 := by
    rw [UInt8.le_iff_toNat_le]
    have : (13 : UInt8).toNat = 13 := rfl
    omega
  simp only [isSpace, beq_eq_false_iff_ne.mpr blank, above, decide_false, Bool.and_false,
    Bool.or_false]

theorem mem_decimal (n : Nat) (c : UInt8) (member : c ∈ decimal n) : isDigit c = true := by
  obtain ⟨d, inside, rfl⟩ := List.mem_map.mp member
  exact isDigit_chr d (Nat.isDigit_of_mem_toDigits (by decide) (by decide) inside)

theorem decimal_ne_nil (n : Nat) : decimal n ≠ [] := by
  simp only [decimal, ne_eq, List.map_eq_nil_iff, Nat.toDigits_ne_nil, not_false_eq_true]

theorem decimal_not_mem (n : Nat) {c : UInt8} (other : isDigit c = false) : c ∉ decimal n := by
  intro member
  rw [mem_decimal n c member] at other
  cases other

theorem decimalInt_not_mem (n : Int) {c : UInt8} (other : isDigit c = false)
    (notMinus : c ≠ chr '-') : c ∉ decimalInt n := by
  rw [decimalInt]
  split
  · rw [List.mem_cons, not_or]
    exact ⟨notMinus, decimal_not_mem _ other⟩
  · exact decimal_not_mem _ other

theorem decimal_eq_if (n : Nat) : decimal n =
    if n < 10 then [chr n.digitChar] else decimal (n / 10) ++ [chr (n % 10).digitChar] := by
  rw [decimal, Nat.toDigits_eq_if (by decide)]
  split
  · rfl
  · rw [List.map_append]
    rfl

/-- No zero stands in front. -/
theorem decimal_head {n : Nat} (positive : 0 < n) :
    ∃ c rest, decimal n = c :: rest ∧ c ≠ chr '0' := by
  induction n using Nat.strongRecOn with
  | ind n ih =>
      rw [decimal_eq_if]
      split
      · rename_i small
        have digits : ∀ k < 10, 0 < k → chr k.digitChar ≠ chr '0' := by decide
        exact ⟨_, [], rfl, digits n small positive⟩
      · obtain ⟨c, rest, same, first⟩ := ih (n / 10) (by omega) (by omega)
        exact ⟨c, rest ++ [chr (n % 10).digitChar], by rw [same, List.cons_append], first⟩

theorem decimal_length_le {n k : Nat} (some : 0 < k) (small : n < 10 ^ k) :
    (decimal n).length ≤ k := by
  rw [decimal, List.length_map]
  exact (Nat.length_toDigits_le_iff (by decide) some).mpr small

theorem decimalInt_length_of_nonneg {n : Int} {k : Nat} (nonneg : 0 ≤ n) (some : 0 < k)
    (small : n.natAbs < 10 ^ k) : (decimalInt n).length ≤ k := by
  rw [decimalInt, if_neg (by omega)]
  exact decimal_length_le some small

/-- An `int` has at most ten digits and a minus. -/
theorem decimalInt_length_le {n : Int} (lower : -(2 ^ 31) ≤ n) (upper : n < 2 ^ 31) :
    (decimalInt n).length ≤ 11 := by
  have digits : (decimal n.natAbs).length ≤ 10 := decimal_length_le (by decide) (by omega)
  rw [decimalInt]
  split
  · rw [List.length_cons]
    omega
  · omega

end Ascii
