import Ttac.StringUtil

set_option autoImplicit false

/- `url_decode` of `http.c`, the percent-decoding grammar it follows, and the
texts a percent-encoder may write. -/
namespace Ttac

/-- `s[i]`, where the terminator may be read but nothing behind it. -/
def charAt (s : Bytes) (i : Nat) : Except Fault UInt8 :=
  if inside : i < s.length then .ok s[i]
  else if i = s.length then .ok 0
  else .error (.outOfBounds i)

/-- `old[i]=='%' && isHex(old[i+1]) && isHex(old[i+2])`, from left to right. -/
def isEscape (old : Bytes) (i : Nat) : Except Fault Bool := do
  if (← charAt old i) = chr '%' then
    if isHex (← charAt old (i + 1)) then
      return isHex (← charAt old (i + 2))
    else return false
  else return false

/-- The byte `toHex(h)*16+toHex(l)` stored in a `char`. -/
def hexByte (h l : UInt8) : UInt8 := UInt8.ofInt (toHex h * 16 + toHex l)

/-- The buffer `new` has `strlen(old)+1` bytes; `new` lists the `j` bytes stored so
far, and each pass also writes the terminator at `j+1`. -/
def urlDecodeLoop (old : Bytes) (i : Nat) (new : Bytes) : Except Fault Bytes :=
  if i < old.length then do
    if old.length < new.length + 1 then .error (.outOfBounds (new.length + 1))
    else if ← isEscape old i then
      let byte := hexByte (← charAt old (i + 1)) (← charAt old (i + 2))
      urlDecodeLoop old (i + 2 + 1) (new ++ [byte])
    else
      let byte ← charAt old i
      urlDecodeLoop old (i + 1) (new ++ [byte])
  else .ok new
termination_by old.length - i

/-- `len`, `i` and `j` are `int`s in the source, which hold those of a text below `2^31 - 1`
bytes. -/
def urlDecode (old : Bytes) : Except Fault Bytes := urlDecodeLoop old 0 []

/-- Left to right, `%` and two hex digits are one byte and every other byte is itself. -/
def percentDecode : Bytes → Bytes
  | [] => []
  | [c] => [c]
  | [c, d] => [c, d]
  | c :: h :: l :: rest =>
    if c = chr '%' ∧ isHex h = true ∧ isHex l = true then hexByte h l :: percentDecode rest
    else c :: percentDecode (h :: l :: rest)

/-- The texts that spell `t` when bytes in `keep` may stand for themselves and any
byte may be written `%XX`, with digits of either case. -/
inductive Spells (keep : UInt8 → Bool) : Bytes → Bytes → Prop where
  | nil : Spells keep [] []
  | literal {c : UInt8} {t s : Bytes} (kept : keep c = true) (rest : Spells keep t s) :
      Spells keep (c :: t) (c :: s)
  | escape {c h l : UInt8} {t s : Bytes} (high : isHex h = true) (low : isHex l = true)
      (value : hexByte h l = c) (rest : Spells keep t s) :
      Spells keep (c :: t) (chr '%' :: h :: l :: s)

@[simp] theorem percentDecode_nil : percentDecode [] = [] := rfl

theorem percentDecode_literal (c : UInt8) (rest : Bytes) (plain : c ≠ chr '%') :
    percentDecode (c :: rest) = c :: percentDecode rest := by
  match rest with
  | [] => rfl
  | [_] => rfl
  | h :: l :: rest => simp only [percentDecode, plain, false_and, ↓reduceIte]

theorem percentDecode_escape (h l : UInt8) (rest : Bytes) (high : isHex h = true)
    (low : isHex l = true) :
    percentDecode (chr '%' :: h :: l :: rest) = hexByte h l :: percentDecode rest := by
  simp only [percentDecode, high, low, and_self, ↓reduceIte]

theorem percentDecode_of_spells {keep : UInt8 → Bool} {t s : Bytes}
    (plain : ∀ c, keep c = true → c ≠ chr '%') (spelled : Spells keep t s) :
    percentDecode s = t := by
  induction spelled with
  | nil => rfl
  | literal kept _ ih => rw [percentDecode_literal _ _ (plain _ kept), ih]
  | escape high low value _ ih => rw [percentDecode_escape _ _ _ high low, ih, value]

theorem charAt_inside (s : Bytes) (i : Nat) (inside : i < s.length) :
    charAt s i = .ok s[i] := by
  simp only [charAt, inside, ↓reduceDIte]

theorem charAt_terminator (s : Bytes) (i : Nat) (last : i = s.length) :
    charAt s i = .ok 0 := by
  subst last
  simp only [charAt, Nat.lt_irrefl, ↓reduceDIte, ↓reduceIte]

/-- Whether position `i` starts an escape depends only on the bytes from `i` on, and
deciding it never reads past the terminator. -/
theorem isEscape_drop (old : Bytes) (i : Nat) (inside : i < old.length) :
    isEscape old i = .ok (match old.drop i with
      | c :: h :: l :: _ => decide (c = chr '%' ∧ isHex h = true ∧ isHex l = true)
      | _ => false) := by
  have atFirst : charAt old i = .ok old[i] := charAt_inside old i inside
  rw [List.drop_eq_getElem_cons inside]
  unfold isEscape
  rw [atFirst]
  by_cases percent : old[i] = chr '%'
  · by_cases second : i + 1 < old.length
    · rw [List.drop_eq_getElem_cons second, charAt_inside old (i + 1) second]
      by_cases high : isHex old[i + 1] = true
      · by_cases third : i + 2 < old.length
        · rw [List.drop_eq_getElem_cons third, charAt_inside old (i + 2) third]
          cases low : isHex old[i + 2] <;>
            simp [percent, high, low, bind, Except.bind, pure, Except.pure]
        · have terminator := charAt_terminator old (i + 2) (by omega)
          have zero : isHex 0 = false := by decide
          have none : old.drop (i + 1 + 1) = [] := List.drop_eq_nil_of_le (by omega)
          simp [percent, high, terminator, none, zero, bind, Except.bind, pure, Except.pure]
      · have wrong : isHex old[i + 1] = false := by simpa using high
        cases old.drop (i + 1 + 1) <;>
          simp [percent, wrong, bind, Except.bind, pure, Except.pure]
    · have terminator := charAt_terminator old (i + 1) (by omega)
      have zero : isHex 0 = false := by decide
      have none : old.drop (i + 1) = [] := List.drop_eq_nil_of_le (by omega)
      simp [percent, terminator, none, zero, bind, Except.bind, pure, Except.pure]
  · rcases old.drop (i + 1) with _ | ⟨h, _ | ⟨l, rest⟩⟩ <;>
      simp [percent, bind, Except.bind, pure, Except.pure]

/-- The loop at `i` appends the decoding of what is left. -/
theorem urlDecodeLoop_eq (old : Bytes) (i : Nat) (new : Bytes) (inside : i ≤ old.length)
    (behind : new.length ≤ i) :
    urlDecodeLoop old i new = .ok (new ++ percentDecode (old.drop i)) := by
  induction remaining : old.length - i using Nat.strongRecOn generalizing i new with
  | ind left ih =>
      rw [urlDecodeLoop]
      by_cases more : i < old.length
      · have room : ¬ old.length < new.length + 1 := by omega
        rw [if_pos more, if_neg room, isEscape_drop old i more]
        have first : old.drop i = old[i] :: old.drop (i + 1) := List.drop_eq_getElem_cons more
        by_cases escape : ∃ h l rest, old.drop i = chr '%' :: h :: l :: rest ∧
            isHex h = true ∧ isHex l = true
        · obtain ⟨h, l, rest, shape, high, low⟩ := escape
          have length := congrArg List.length shape
          simp only [List.length_drop, List.length_cons] at length
          have second : charAt old (i + 1) = .ok h := by
            rw [charAt_inside old (i + 1) (by omega), ← List.getElem_drop (i := i) (j := 1)
              (h := by rw [List.length_drop]; omega)]
            simp [shape]
          have third : charAt old (i + 2) = .ok l := by
            rw [charAt_inside old (i + 2) (by omega), ← List.getElem_drop (i := i) (j := 2)
              (h := by rw [List.length_drop]; omega)]
            simp [shape]
          have later : old.drop (i + 2 + 1) = rest := by
            rw [show i + 2 + 1 = i + 3 by omega, ← List.drop_drop, shape]
            rfl
          simp only [shape, high, low, and_self, decide_true, second, third, bind, Except.bind,
            ↓reduceIte]
          rw [ih (old.length - (i + 2 + 1)) (by omega) (i + 2 + 1) _ (by omega)
            (by simp only [List.length_append, List.length_singleton]; omega) rfl, later,
            percentDecode_escape h l rest high low, List.append_assoc, List.singleton_append]
        · have plain : (match old.drop i with
              | c :: h :: l :: _ => decide (c = chr '%' ∧ isHex h = true ∧ isHex l = true)
              | _ => false) = false := by
            split
            · rename_i c h l rest shape
              rw [decide_eq_false_iff_not]
              rintro ⟨rfl, high, low⟩
              exact escape ⟨h, l, rest, shape, high, low⟩
            · rfl
          have decoded :
              percentDecode (old.drop i) = old[i] :: percentDecode (old.drop (i + 1)) := by
            rw [first]
            rcases tail : old.drop (i + 1) with _ | ⟨h, _ | ⟨l, rest⟩⟩
            · rfl
            · rfl
            · rw [percentDecode, if_neg]
              intro ⟨percent, high, low⟩
              exact escape ⟨h, l, rest, by rw [first, tail, percent], high, low⟩
          simp only [plain, charAt_inside old i more, bind, Except.bind, Bool.false_eq_true,
            ↓reduceIte]
          rw [ih (old.length - (i + 1)) (by omega) (i + 1) _ (by omega)
            (by simp only [List.length_append, List.length_singleton]; omega) rfl, decoded,
            List.append_assoc, List.singleton_append]
      · have done : old.drop i = [] := List.drop_eq_nil_of_le (by omega)
        rw [if_neg more, done, percentDecode_nil, List.append_nil]

/-- `url_decode` is the percent-decoding of its argument and never faults. -/
theorem urlDecode_eq (old : Bytes) : urlDecode old = .ok (percentDecode old) := by
  rw [urlDecode, urlDecodeLoop_eq old 0 [] (Nat.zero_le _) (Nat.le_refl _), List.nil_append,
    List.drop_zero]

/-- The value of a hex digit of either case. -/
def hexValue (c : UInt8) : Option Nat :=
  if c ∈ ascii "ABCDEF" then (ascii "ABCDEF").idxOf? c |>.map (10 + ·)
  else (ascii "0123456789abcdef").idxOf? c

/-- `text` decodes to `bytes`: from left to right, `%` with two hex digits is their byte, and
a byte that begins no such escape is itself. -/
inductive Decodes : Bytes → Bytes → Prop where
  | nil : Decodes [] []
  | escape {h l : UInt8} {a b : Nat} {text bytes : Bytes} (high : hexValue h = some a)
      (low : hexValue l = some b) (rest : Decodes text bytes) :
      Decodes (chr '%' :: h :: l :: text) (UInt8.ofNat (16 * a + b) :: bytes)
  | copy {c : UInt8} {text bytes : Bytes}
      (plain : ¬ ∃ h l rest a b, c :: text = chr '%' :: h :: l :: rest ∧
        hexValue h = some a ∧ hexValue l = some b)
      (rest : Decodes text bytes) : Decodes (c :: text) (c :: bytes)

/-- `text` writes each byte either as itself, unless it is `%`, or as `%XX`. -/
inductive Writes : Bytes → Bytes → Prop where
  | nil : Writes [] []
  | literal {c : UInt8} {bytes text : Bytes} (notPercent : c ≠ chr '%')
      (rest : Writes bytes text) : Writes (c :: bytes) (c :: text)
  | escape {c h l : UInt8} {a b : Nat} {bytes text : Bytes} (high : hexValue h = some a)
      (low : hexValue l = some b) (value : c.toNat = 16 * a + b) (rest : Writes bytes text) :
      Writes (c :: bytes) (chr '%' :: h :: l :: text)

section Grammar

variable {text bytes : Bytes}

/-- The digits of the grammar are those of `isHex`, with the values of `toHex`. -/
theorem hexValue_digits : ∀ n < 256, isHex (UInt8.ofNat n) = (hexValue (UInt8.ofNat n)).isSome ∧
    ∀ a ∈ hexValue (UInt8.ofNat n), toHex (UInt8.ofNat n) = a := by decide +kernel

theorem isHex_hexValue (c : UInt8) : isHex c = (hexValue c).isSome := by
  have digit := (hexValue_digits c.toNat c.toNat_lt).1
  rwa [UInt8.ofNat_toNat] at digit

theorem hexByte_value {h l : UInt8} {a b : Nat} (high : hexValue h = some a)
    (low : hexValue l = some b) : hexByte h l = UInt8.ofNat (16 * a + b) := by
  have first := (hexValue_digits h.toNat h.toNat_lt).2 a (by rw [UInt8.ofNat_toNat]; exact high)
  have second := (hexValue_digits l.toNat l.toNat_lt).2 b (by rw [UInt8.ofNat_toNat]; exact low)
  rw [UInt8.ofNat_toNat] at first second
  have value : ((16 * a + b : Nat) : Int) = (a : Int) * 16 + b := by omega
  have small : (((16 * a + b : Nat) : Int) % 2 ^ 8).toNat = (16 * a + b) % 256 := by omega
  rw [hexByte, first, second, ← value, UInt8.ofInt, small]
  apply UInt8.toNat_inj.mp
  simp only [UInt8.toNat_ofNat', Nat.mod_mod]

/-- A byte that begins no escape is copied. -/
theorem percentDecode_copy {c : UInt8}
    (plain : ¬ ∃ h l rest a b, c :: text = chr '%' :: h :: l :: rest ∧
      hexValue h = some a ∧ hexValue l = some b) :
    percentDecode (c :: text) = c :: percentDecode text := by
  match text with
  | [] => rfl
  | [_] => rfl
  | h :: l :: rest =>
      rw [percentDecode, if_neg]
      intro ⟨percent, high, low⟩
      rw [isHex_hexValue, Option.isSome_iff_exists] at high low
      obtain ⟨a, high⟩ := high
      obtain ⟨b, low⟩ := low
      exact plain ⟨h, l, rest, a, b, by rw [percent], high, low⟩

theorem Decodes.percentDecode_eq (decodes : Decodes text bytes) : percentDecode text = bytes := by
  induction decodes with
  | nil => rfl
  | escape high low _ ih =>
      rw [percentDecode_escape, ih, hexByte_value high low]
      · rw [isHex_hexValue, high]
        rfl
      · rw [isHex_hexValue, low]
        rfl
  | copy plain _ ih => rw [percentDecode_copy plain, ih]

theorem decodes_percentDecode (text : Bytes) : Decodes text (percentDecode text) := by
  induction length : text.length using Nat.strongRecOn generalizing text with
  | ind n ih =>
      cases text with
      | nil => exact .nil
      | cons c text =>
          rw [List.length_cons] at length
          by_cases escape : ∃ h l rest a b, c :: text = chr '%' :: h :: l :: rest ∧
              hexValue h = some a ∧ hexValue l = some b
          · obtain ⟨h, l, rest, a, b, shape, high, low⟩ := escape
            obtain ⟨percent, behind⟩ := List.cons.inj shape
            subst percent behind
            rw [percentDecode_escape, hexByte_value high low]
            · rw [List.length_cons, List.length_cons] at length
              exact .escape high low (ih _ (by omega) _ rfl)
            · rw [isHex_hexValue, high]
              rfl
            · rw [isHex_hexValue, low]
              rfl
          · rw [percentDecode_copy escape]
            exact .copy escape (ih _ (by omega) _ rfl)

theorem Writes.decodes (writes : Writes bytes text) : Decodes text bytes := by
  induction writes with
  | nil => exact .nil
  | literal notPercent _ ih =>
      apply Decodes.copy _ ih
      intro escape
      obtain ⟨h, l, rest, a, b, shape, -⟩ := escape
      exact notPercent (List.cons.inj shape).1
  | escape high low value _ ih =>
      have byte := Decodes.escape high low ih
      rwa [← value, UInt8.ofNat_toNat] at byte

end Grammar

/-- `url_decode` stays within its two strings, and decodes by the grammar, in which every text
has one decoding; so it reads back whatever way the bytes are written. -/
theorem urlDecode_decodes :
    (∀ old, ∃ new, urlDecode old = .ok new ∧ ∀ bytes, Decodes old bytes ↔ bytes = new) ∧
      ∀ bytes text, Writes bytes text → urlDecode text = .ok bytes := by
  constructor
  · intro old
    refine ⟨percentDecode old, urlDecode_eq old, ?_⟩
    intro bytes
    constructor
    · intro decodes
      exact decodes.percentDecode_eq.symm
    · intro same
      rw [same]
      exact decodes_percentDecode old
  · intro bytes text writes
    rw [urlDecode_eq, writes.decodes.percentDecode_eq]

/-- The byte `%`, written as an escape with a digit of each case. -/
theorem urlDecode_decodes_sample :
    urlDecode (ascii "%2a%2Ax") = .ok (ascii "**x") := by
  have digits : hexValue (chr '2') = some 2 ∧ hexValue (chr 'a') = some 10 ∧
      hexValue (chr 'A') = some 10 := by decide
  have writes : Writes (ascii "**x") (ascii "%2a%2Ax") :=
    .escape digits.1 digits.2.1 rfl (.escape digits.1 digits.2.2 rfl
      (.literal (by decide) .nil))
  exact urlDecode_decodes.2 _ _ writes

end Ttac
