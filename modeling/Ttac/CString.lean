import Ttac.Lib.Ascii
import Mathlib.Data.List.Basic
import Mathlib.Data.List.Infix
import Mathlib.Data.List.TakeWhile
import Mathlib.Tactic.Ring

set_option autoImplicit false

/- C strings and the library functions that every module of the server calls.
A `char*` is the list of the bytes before its terminator; a buffer that may hold
a NUL earlier becomes a C string through `cstr`. -/
namespace Ttac

export Ascii (chr ascii isDigit isSpace decimal decimalInt isDigit_iff isDigit_not_space mem_decimal
  decimal_not_mem decimalInt_not_mem decimal_ne_nil)

abbrev Bytes := List UInt8

/-- Undefined behaviour a run can meet. The run stops there. -/
inductive Fault where
  | nullPointer
  | outOfBounds (index : Int)
  | uninitialized (index : Int)
  | negativeCount (count : Int)
  | intOverflow (value : Int)
  | bufferOverflow (capacity : Nat)
  deriving DecidableEq, Repr

/-- What `strlen`, `strcmp` and `%s` see of a buffer: the bytes up to its first NUL. -/
def cstr (buffer : Bytes) : Bytes := buffer.takeWhile (· ≠ 0)

theorem cstr_of_not_mem (s : Bytes) (clean : (0 : UInt8) ∉ s) : cstr s = s := by
  apply List.takeWhile_eq_self_iff.mpr
  intro c member
  simp only [ne_eq, decide_eq_true_eq]
  rintro rfl
  exact clean member

theorem not_mem_cstr (buffer : Bytes) : (0 : UInt8) ∉ cstr buffer := by
  intro member
  have kept := List.mem_takeWhile_imp (p := fun c : UInt8 => decide (c ≠ 0)) member
  exact of_decide_eq_true kept rfl

/-- The pointer `s + i`; it may point at the terminator but not past it. -/
def offset (s : Bytes) (i : Int) : Except Fault Bytes :=
  if 0 ≤ i ∧ i ≤ s.length then .ok (s.drop i.toNat) else .error (.outOfBounds i)

theorem offset_ok (s : Bytes) (i : Nat) (inside : i ≤ s.length) :
    offset s i = .ok (s.drop i) := by
  have bound : (0 : Int) ≤ i ∧ (i : Int) ≤ s.length := by omega
  simp only [offset, bound, and_self, ↓reduceIte, Int.toNat_natCast]

/-- `strncmp(a,b,n)==0`. -/
def strncmpEq (a b : Bytes) (n : Nat) : Bool := a.take n == b.take n

theorem strncmpEq_iff (a b : Bytes) (n : Nat) :
    strncmpEq a b n = true ↔ a.take n = b.take n := by
  simp only [strncmpEq, beq_iff_eq]

/-- Comparing with all of `b` asks whether `b` is a prefix. -/
theorem strncmpEq_length (a b : Bytes) : strncmpEq a b b.length = true ↔ b <+: a := by
  rw [strncmpEq_iff, List.take_length, List.prefix_iff_eq_take]
  exact eq_comm

/-- The idiom `d=malloc(n+1); strncpy(d,s+i,n); d[n]=0;` as the C string `d`.
`strncpy` takes its count as a `size_t`, so that a negative count writes far past
the allocation; it reads nothing when the count is zero. -/
def strncpy (s : Bytes) (i n : Int) : Except Fault Bytes :=
  if n < 0 then .error (.negativeCount n)
  else if n = 0 then .ok []
  else if 0 ≤ i ∧ i ≤ s.length then .ok ((s.drop i.toNat).take n.toNat)
  else .error (.outOfBounds i)

theorem strncpy_ok (s : Bytes) (i n : Nat) (inside : i ≤ s.length) :
    strncpy s i n = .ok ((s.drop i).take n) := by
  have bound : (0 : Int) ≤ i ∧ (i : Int) ≤ s.length := by omega
  have positive : ¬ (n : Int) < 0 := by omega
  by_cases zero : (n : Int) = 0
  · obtain rfl : n = 0 := by omega
    rfl
  · simp only [strncpy, positive, zero, bound, and_self, ↓reduceIte, Int.toNat_natCast]

theorem strncpy_negative (s : Bytes) (i n : Int) (negative : n < 0) :
    strncpy s i n = .error (.negativeCount n) := by
  simp only [strncpy, negative, ↓reduceIte]

/-- The value of a run of digits. -/
def digitsValue (digits : Bytes) : Nat :=
  digits.foldl (fun value c => 10 * value + (c.toNat - (chr '0').toNat)) 0

/-- `strtol(s,NULL,10)`: white space, a sign, digits; out of range it saturates. -/
def strtol (s : Bytes) : Int :=
  match s.dropWhile isSpace with
  | [] => 0
  | c :: rest =>
    if c = chr '-' then max (-(digitsValue (rest.takeWhile isDigit) : Int)) (-(2 ^ 63))
    else if c = chr '+' then min (digitsValue (rest.takeWhile isDigit) : Int) (2 ^ 63 - 1)
    else min (digitsValue ((c :: rest).takeWhile isDigit) : Int) (2 ^ 63 - 1)

/-- `atoi` is `strtol` cut to an `int`. -/
def atoi (s : Bytes) : Int := (strtol s).bmod (2 ^ 32)

theorem atoi_range (s : Bytes) : -(2 ^ 31) ≤ atoi s ∧ atoi s < 2 ^ 31 := by
  have lower := @Int.le_bmod (strtol s) (2 ^ 32) (by decide)
  have upper := @Int.bmod_lt (strtol s) (2 ^ 32) (by decide)
  unfold atoi
  omega

/-- A digit list read back as a number. -/
theorem digitsValue_decimal (n : Nat) : digitsValue (decimal n) = n := by
  have general : ∀ (ds : List Char) (start : Nat), (∀ c ∈ ds, c.isDigit = true) →
      (ds.map chr).foldl (fun value c => 10 * value + (c.toNat - (chr '0').toNat)) start =
        Nat.ofDigitChars 10 ds start := by
    intro ds
    induction ds with
    | nil => intro start _; rfl
    | cons c rest ih =>
        intro start digits
        have digit := digits c (by simp)
        simp only [Char.isDigit, ge_iff_le, Bool.and_eq_true, decide_eq_true_eq] at digit
        have upper : c.toNat ≤ 57 := digit.2
        have value : (chr c).toNat = c.toNat := by
          simp only [chr, UInt8.toNat_ofNat']
          omega
        rw [List.map_cons, List.foldl_cons, value,
          ih _ (fun d inside => digits d (List.mem_cons_of_mem _ inside)),
          Nat.ofDigitChars_cons]
        rfl
  have read := general (Nat.toDigits 10 n) 0
    (fun c inside => Nat.isDigit_of_mem_toDigits (by decide) (by decide) inside)
  rw [Nat.ofDigitChars_ten_toDigits] at read
  exact read

/-- `atoi` inverts `%lu` as long as the number is an `int`. -/
theorem atoi_decimal (n : Nat) (small : n < 2 ^ 31) : atoi (decimal n) = n := by
  have digits : (decimal n).takeWhile isDigit = decimal n :=
    List.takeWhile_eq_self_iff.mpr (mem_decimal n)
  obtain ⟨c, rest, split⟩ := List.exists_cons_of_ne_nil (decimal_ne_nil n)
  have first : isDigit c = true := mem_decimal n c (by simp [split])
  have notSpace := isDigit_not_space c first
  have notMinus : c ≠ chr '-' := by rintro rfl; revert first; decide
  have notPlus : c ≠ chr '+' := by rintro rfl; revert first; decide
  have value := digitsValue_decimal n
  have long : strtol (decimal n) = n := by
    rw [split] at digits value ⊢
    simp only [strtol, List.dropWhile_cons, notSpace, Bool.false_eq_true, ↓reduceIte, notMinus,
      notPlus, digits, value]
    omega
  rw [atoi, long]
  exact Int.bmod_eq_of_le (by omega) (by omega)

theorem decimalInt_injective : Function.Injective decimalInt := by
  have natural {a b : Nat} (same : decimal a = decimal b) : a = b := by
    rw [← digitsValue_decimal a, same, digitsValue_decimal]
  have signed (a b : Nat) : decimal a ≠ chr '-' :: decimal b := by
    intro same
    have minus : chr '-' ∈ decimal a := by
      rw [same]
      exact List.mem_cons_self ..
    exact decimal_not_mem a (by decide) minus
  intro first second same
  rw [decimalInt, decimalInt] at same
  split at same <;> split at same
  · have digits := natural (List.cons.inj same).2
    omega
  · exact absurd same.symm (signed _ _)
  · exact absurd same (signed _ _)
  · have digits := natural same
    omega

/-- `atoi` inverts `%d`. -/
theorem atoi_decimalInt {n : Int} (lower : -(2 ^ 31) ≤ n) (upper : n < 2 ^ 31) :
    atoi (decimalInt n) = n := by
  rw [decimalInt]
  split
  · rename_i negative
    have digits : (decimal n.natAbs).takeWhile isDigit = decimal n.natAbs :=
      List.takeWhile_eq_self_iff.mpr (mem_decimal _)
    have notSpace : isSpace (chr '-') = false := by decide
    have long : strtol (chr '-' :: decimal n.natAbs) = n := by
      simp only [strtol, List.dropWhile_cons, notSpace, Bool.false_eq_true, ↓reduceIte, digits,
        digitsValue_decimal]
      omega
    rw [atoi, long]
    exact Int.bmod_eq_of_le (by omega) (by omega)
  · rw [atoi_decimal _ (by omega)]
    omega

end Ttac
