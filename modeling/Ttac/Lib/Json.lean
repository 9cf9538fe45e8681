import Ttac.Lib.Ascii

set_option autoImplicit false

/- JSON texts as bytes. What is not ASCII stands for itself. -/
namespace Json

open Ascii (chr ascii isDigit)

/-- A number is its text. -/
inductive Value where
  | null
  | bool (value : Bool)
  | number (text : List UInt8)
  | string (text : List UInt8)
  | array (values : List Value)
  | object (members : List (List UInt8 × Value))

section Reader

def isBlank (c : UInt8) : Bool := c = chr ' ' || c = 9 || c = 10 || c = 13

def skip (text : List UInt8) : List UInt8 := text.dropWhile isBlank

def escapes : List (UInt8 × UInt8) :=
  [(chr '"', chr '"'), (chr '\\', chr '\\'), (chr '/', chr '/'), (chr 'b', 8), (chr 'f', 12),
    (chr 'n', 10), (chr 'r', 13), (chr 't', 9)]

def hexDigit (c : UInt8) : Option Nat :=
  if isDigit c then some (c.toNat - 48)
  else if chr 'a' ≤ c && c ≤ chr 'f' then some (c.toNat - 87)
  else if chr 'A' ≤ c && c ≤ chr 'F' then some (c.toNat - 55)
  else none

/-- Four hexadecimal digits. -/
def codeUnit (a b c d : UInt8) : Option Nat := do
  let a ← hexDigit a
  let b ← hexDigit b
  let c ← hexDigit c
  let d ← hexDigit d
  some (a * 4096 + b * 256 + c * 16 + d)

def utf8 (n : Nat) : List UInt8 :=
  if n < 0x80 then [UInt8.ofNat n]
  else if n < 0x800 then [UInt8.ofNat (0xC0 + n / 64), UInt8.ofNat (0x80 + n % 64)]
  else if n < 0x10000 then
    [UInt8.ofNat (0xE0 + n / 4096), UInt8.ofNat (0x80 + n / 64 % 64), UInt8.ofNat (0x80 + n % 64)]
  else
    [UInt8.ofNat (0xF0 + n / 262144), UInt8.ofNat (0x80 + n / 4096 % 64),
      UInt8.ofNat (0x80 + n / 64 % 64), UInt8.ofNat (0x80 + n % 64)]

/-- The bytes of an escape behind its backslash, and what is left. Half of a surrogate pair
is no character. -/
def escape (text : List UInt8) : Option (List UInt8 × List UInt8) :=
  match text with
  | [] => none
  | c :: rest =>
    if c = chr 'u' then
      match rest with
      | a :: b :: c :: d :: rest => do
        let high ← codeUnit a b c d
        if high < 0xD800 ∨ 0xDFFF < high then some (utf8 high, rest)
        else
          match rest with
          | x :: y :: a :: b :: c :: d :: rest => do
            let low ← codeUnit a b c d
            if x = chr '\\' ∧ y = chr 'u' ∧ high < 0xDC00 ∧ 0xDC00 ≤ low ∧ low ≤ 0xDFFF then
              some (utf8 (0x10000 + (high - 0xD800) * 1024 + (low - 0xDC00)), rest)
            else none
          | _ => none
      | _ => none
    else (escapes.find? fun entry => entry.1 = c).map fun entry => ([entry.2], rest)

/-- What stands in a string only behind a backslash. -/
def isSpecial (c : UInt8) : Bool := c = chr '"' || c = chr '\\' || c < 32

/-- A string behind its first quote. -/
def string : Nat → List UInt8 → Option (List UInt8 × List UInt8)
  | 0, _ => none
  | fuel + 1, text =>
    match text with
    | [] => none
    | c :: rest =>
      if c = chr '"' then some ([], rest)
      else if c = chr '\\' then do
        let (first, rest) ← escape rest
        let (later, rest) ← string fuel rest
        some (first ++ later, rest)
      else if isSpecial c then none
      else do
        let (later, rest) ← string fuel rest
        some (c :: later, rest)

def digits (text : List UInt8) : List UInt8 × List UInt8 :=
  (text.takeWhile isDigit, text.dropWhile isDigit)

def sign (text : List UInt8) : List UInt8 × List UInt8 :=
  match text with
  | [] => ([], [])
  | c :: rest => if c = chr '-' then ([c], rest) else ([], c :: rest)

/-- No zero stands in front of other digits. -/
def whole (text : List UInt8) : Option (List UInt8 × List UInt8) :=
  match text with
  | [] => none
  | c :: rest =>
    if c = chr '0' then some ([c], rest)
    else if isDigit c then some (digits (c :: rest)) else none

def fraction (text : List UInt8) : Option (List UInt8 × List UInt8) :=
  match text with
  | [] => some ([], [])
  | c :: rest =>
    if c = chr '.' then
      if (digits rest).1 = [] then none else some (c :: (digits rest).1, (digits rest).2)
    else some ([], c :: rest)

def exponent (text : List UInt8) : Option (List UInt8 × List UInt8) :=
  match text with
  | [] => some ([], [])
  | c :: rest =>
    if c = chr 'e' ∨ c = chr 'E' then
      match rest with
      | [] => none
      | d :: later =>
        if d = chr '+' ∨ d = chr '-' then
          if (digits later).1 = [] then none
          else some (c :: d :: (digits later).1, (digits later).2)
        else if (digits rest).1 = [] then none
        else some (c :: (digits rest).1, (digits rest).2)
    else some ([], c :: rest)

def number (text : List UInt8) : Option (List UInt8 × List UInt8) := do
  let (integer, rest) ← whole (sign text).2
  let (fraction, rest) ← fraction rest
  let (exponent, rest) ← exponent rest
  some ((sign text).1 ++ integer ++ fraction ++ exponent, rest)

def literals : List (List UInt8 × Value) :=
  [(ascii "null", .null), (ascii "true", .bool true), (ascii "false", .bool false)]

def literal (text : List UInt8) : Option (Value × List UInt8) :=
  (literals.find? fun entry => entry.1.isPrefixOf text).map fun entry =>
    (entry.2, text.drop entry.1.length)

mutual

/-- A value, and what is left behind it. -/
def value : Nat → List UInt8 → Option (Value × List UInt8)
  | 0, _ => none
  | fuel + 1, text =>
    match skip text with
    | [] => none
    | c :: rest =>
      if c = chr '"' then do
        let (text, rest) ← string (rest.length + 1) rest
        some (.string text, rest)
      else if c = chr '[' then
        if (skip rest).head? = some (chr ']') then some (.array [], (skip rest).tail)
        else do
          let (values, rest) ← elements fuel rest
          some (.array values, rest)
      else if c = chr '\x7b' then
        if (skip rest).head? = some (chr '\x7d') then some (.object [], (skip rest).tail)
        else do
          let (members, rest) ← members fuel rest
          some (.object members, rest)
      else if isDigit c || c = chr '-' then do
        let (text, rest) ← number (c :: rest)
        some (.number text, rest)
      else literal (c :: rest)

/-- The values of an array, up to its end. -/
def elements : Nat → List UInt8 → Option (List Value × List UInt8)
  | 0, _ => none
  | fuel + 1, text => do
    let (first, rest) ← value fuel text
    match skip rest with
    | [] => none
    | c :: rest =>
      if c = chr ']' then some ([first], rest)
      else if c = chr ',' then do
        let (later, rest) ← elements fuel rest
        some (first :: later, rest)
      else none

def members : Nat → List UInt8 → Option (List (List UInt8 × Value) × List UInt8)
  | 0, _ => none
  | fuel + 1, text =>
    match skip text with
    | [] => none
    | c :: rest =>
      if c = chr '"' then do
        let (key, rest) ← string (rest.length + 1) rest
        match skip rest with
        | [] => none
        | c :: rest =>
          if c = chr ':' then do
            let (first, rest) ← value fuel rest
            match skip rest with
            | [] => none
            | c :: rest =>
              if c = chr '\x7d' then some ([(key, first)], rest)
              else if c = chr ',' then do
                let (later, rest) ← members fuel rest
                some ((key, first) :: later, rest)
              else none
          else none
      else none

end

/-- A JSON text is one value. Every second step takes a byte off the text. -/
def parse (text : List UInt8) : Option Value :=
  match value (2 * text.length + 2) text with
  | none => none
  | some (result, rest) => if skip rest = [] then some result else none

end Reader

section Room

/-- The bytes a string takes up at least: two for each that needs a backslash. -/
def stringRoom (text : List UInt8) : Nat := text.length + text.countP isSpecial

mutual

/-- The bytes a value takes up at least. -/
def room : Value → Nat
  | .null => 0
  | .bool _ => 0
  | .number text => text.length
  | .string text => stringRoom text + 2
  | .array values => elementsRoom values + 1
  | .object members => membersRoom members + 1

def elementsRoom : List Value → Nat
  | [] => 0
  | first :: later => room first + 1 + elementsRoom later

def membersRoom : List (List UInt8 × Value) → Nat
  | [] => 0
  | (key, first) :: later => stringRoom key + 3 + room first + 1 + membersRoom later

end

theorem skip_length (text : List UInt8) : (skip text).length ≤ text.length :=
  (List.dropWhile_sublist _).length_le

theorem skip_cons {text rest : List UInt8} {c : UInt8} (same : skip text = c :: rest) :
    rest.length + 1 ≤ text.length := by
  have length := skip_length text
  rw [same, List.length_cons] at length
  exact length

theorem hexDigit_lt {c : UInt8} {n : Nat} (digit : hexDigit c = some n) : n < 16 := by
  unfold hexDigit at digit
  split at digit
  · rename_i decimal
    rw [Ascii.isDigit_iff] at decimal
    cases digit
    omega
  · split at digit
    · rename_i lower
      rw [Bool.and_eq_true, decide_eq_true_eq, decide_eq_true_eq] at lower
      have bound : c.toNat ≤ 102 := lower.2
      cases digit
      omega
    · split at digit
      · rename_i upper
        rw [Bool.and_eq_true, decide_eq_true_eq, decide_eq_true_eq] at upper
        have bound : c.toNat ≤ 70 := upper.2
        cases digit
        omega
      · cases digit

theorem codeUnit_lt {a b c d : UInt8} {n : Nat} (unit : codeUnit a b c d = some n) :
    n < 0x10000 := by
  simp only [codeUnit, Option.bind_eq_bind, Option.bind_eq_some_iff, Option.some.injEq] at unit
  obtain ⟨p, pDigit, q, qDigit, r, rDigit, t, tDigit, same⟩ := unit
  have := hexDigit_lt pDigit
  have := hexDigit_lt qDigit
  have := hexDigit_lt rDigit
  have := hexDigit_lt tDigit
  omega

theorem utf8_length (n : Nat) : (utf8 n).length ≤ 4 ∧ (n < 0x10000 → (utf8 n).length ≤ 3) := by
  unfold utf8
  split <;> [skip; split <;> [skip; split]] <;> simp_all

/-- An escape takes up twice what it stands for. -/
theorem escape_room {text bytes rest : List UInt8} (read : escape text = some (bytes, rest)) :
    2 * bytes.length + rest.length ≤ text.length + 1 := by
  unfold escape at read
  split at read
  · cases read
  · split at read
    · split at read
      · obtain ⟨high, unit, read⟩ := Option.bind_eq_some_iff.mp read
        split at read
        · cases read
          have := (utf8_length high).2 (codeUnit_lt unit)
          simp only [List.length_cons]
          omega
        · split at read
          · obtain ⟨low, _, read⟩ := Option.bind_eq_some_iff.mp read
            split at read
            · rw [Option.some.injEq, Prod.mk.injEq] at read
              have := (utf8_length (0x10000 + (high - 0xD800) * 1024 + (low - 0xDC00))).1
              rw [read.1] at this
              rw [← read.2]
              simp only [List.length_cons]
              omega
            · cases read
          · cases read
      · cases read
    · obtain ⟨entry, _, same⟩ := Option.map_eq_some_iff.mp read
      cases same
      simp only [List.length_cons, List.length_nil]
      omega

theorem string_room {fuel : Nat} {text bytes rest : List UInt8}
    (read : string fuel text = some (bytes, rest)) :
    stringRoom bytes + 1 + rest.length ≤ text.length := by
  induction fuel generalizing text bytes rest with
  | zero => cases read
  | succ fuel ih =>
      unfold string at read
      split at read
      · cases read
      · rename_i c later
        split at read
        · cases read
          simp only [stringRoom, List.length_nil, List.countP_nil, List.length_cons]
          omega
        · split at read
          · obtain ⟨⟨first, middle⟩, escaped, read⟩ := Option.bind_eq_some_iff.mp read
            obtain ⟨⟨second, last⟩, followed, read⟩ := Option.bind_eq_some_iff.mp read
            cases read
            have taken := escape_room escaped
            have specials := List.countP_le_length (p := isSpecial) (l := first)
            have := ih followed
            simp only [stringRoom, List.length_append, List.countP_append,
              List.length_cons] at this ⊢
            omega
          · split at read
            · cases read
            · rename_i ordinary
              obtain ⟨⟨second, last⟩, followed, read⟩ := Option.bind_eq_some_iff.mp read
              cases read
              have := ih followed
              simp only [stringRoom, List.length_cons, List.countP_cons, ordinary] at this ⊢
              simp
              omega

theorem digits_append (text : List UInt8) : (digits text).1 ++ (digits text).2 = text :=
  List.takeWhile_append_dropWhile

theorem sign_append (text : List UInt8) : (sign text).1 ++ (sign text).2 = text := by
  unfold sign
  split
  · rfl
  · split <;> rfl

theorem whole_append {text first rest : List UInt8} (read : whole text = some (first, rest)) :
    first ++ rest = text := by
  unfold whole at read
  split at read
  · cases read
  · split at read
    · cases read
      rfl
    · split at read
      · cases read
        exact List.takeWhile_append_dropWhile
      · cases read

theorem fraction_append {text first rest : List UInt8}
    (read : fraction text = some (first, rest)) : first ++ rest = text := by
  unfold fraction at read
  split at read
  · cases read
    rfl
  · split at read
    · split at read
      · cases read
      · cases read
        rw [List.cons_append, digits_append]
    · cases read
      rfl

theorem exponent_append {text first rest : List UInt8}
    (read : exponent text = some (first, rest)) : first ++ rest = text := by
  unfold exponent at read
  split at read
  · cases read
    rfl
  · split at read
    · split at read
      · cases read
      · split at read
        · split at read
          · cases read
          · cases read
            rw [List.cons_append, List.cons_append, digits_append]
        · split at read
          · cases read
          · cases read
            rw [List.cons_append, digits_append]
    · cases read
      rfl

/-- A number is the text that is read. -/
theorem number_append {text first rest : List UInt8} (read : number text = some (first, rest)) :
    first ++ rest = text := by
  obtain ⟨⟨integer, afterInteger⟩, integerRead, read⟩ := Option.bind_eq_some_iff.mp read
  obtain ⟨⟨decimals, afterDecimals⟩, decimalsRead, read⟩ := Option.bind_eq_some_iff.mp read
  obtain ⟨⟨power, afterPower⟩, powerRead, read⟩ := Option.bind_eq_some_iff.mp read
  cases read
  calc (sign text).1 ++ integer ++ decimals ++ power ++ rest
      = (sign text).1 ++ (integer ++ (decimals ++ (power ++ rest))) := by
        simp only [List.append_assoc]
    _ = text := by
        rw [exponent_append powerRead, fraction_append decimalsRead, whole_append integerRead,
          sign_append]

theorem literal_room {text rest : List UInt8} {read : Value}
    (same : literal text = some (read, rest)) : room read + rest.length ≤ text.length := by
  obtain ⟨entry, found, same⟩ := Option.map_eq_some_iff.mp same
  have empty : ∀ entry ∈ literals, room entry.2 = 0 := by
    simp [literals, room]
  have none := empty entry (List.mem_of_find?_eq_some found)
  cases same
  rw [none, List.length_drop]
  omega

/-- A text is at least as long as what is read from it. -/
theorem reads_room (fuel : Nat) :
    (∀ text read rest, value fuel text = some (read, rest) →
        room read + rest.length ≤ text.length) ∧
      (∀ text read rest, elements fuel text = some (read, rest) →
        elementsRoom read + rest.length ≤ text.length) ∧
      ∀ text read rest, members fuel text = some (read, rest) →
        membersRoom read + rest.length ≤ text.length := by
  induction fuel with
  | zero =>
      refine ⟨?_, ?_, ?_⟩ <;> intro text read rest none <;> cases none
  | succ fuel ih =>
      obtain ⟨values, lists, objects⟩ := ih
      refine ⟨?_, ?_, ?_⟩
      · intro text read rest same
        unfold value at same
        split at same
        · cases same
        · rename_i c later start
          have taken := skip_cons start
          split at same
          · obtain ⟨⟨bytes, last⟩, stringRead, same⟩ := Option.bind_eq_some_iff.mp same
            cases same
            have := string_room stringRead
            simp only [room]
            omega
          · split at same
            · split at same
              · cases same
                have := skip_length later
                simp only [room, elementsRoom, List.length_tail]
                omega
              · obtain ⟨⟨elements, last⟩, elementsRead, same⟩ := Option.bind_eq_some_iff.mp same
                cases same
                have := lists _ _ _ elementsRead
                simp only [room]
                omega
            · split at same
              · split at same
                · cases same
                  have := skip_length later
                  simp only [room, membersRoom, List.length_tail]
                  omega
                · obtain ⟨⟨members, last⟩, membersRead, same⟩ := Option.bind_eq_some_iff.mp same
                  cases same
                  have := objects _ _ _ membersRead
                  simp only [room]
                  omega
              · split at same
                · obtain ⟨⟨number, last⟩, numberRead, same⟩ := Option.bind_eq_some_iff.mp same
                  cases same
                  have split := congrArg List.length (number_append numberRead)
                  rw [List.length_append, List.length_cons] at split
                  simp only [room]
                  omega
                · have := literal_room same
                  rw [List.length_cons] at this
                  omega
      · intro text read rest same
        unfold elements at same
        obtain ⟨⟨first, middle⟩, firstRead, same⟩ := Option.bind_eq_some_iff.mp same
        have firstRoom := values _ _ _ firstRead
        dsimp only at same
        split at same
        · cases same
        · rename_i c later start
          have taken := skip_cons start
          split at same
          · cases same
            simp only [elementsRoom]
            omega
          · split at same
            · obtain ⟨⟨others, last⟩, othersRead, same⟩ := Option.bind_eq_some_iff.mp same
              cases same
              have := lists _ _ _ othersRead
              simp only [elementsRoom]
              omega
            · cases same
      · intro text read rest same
        unfold members at same
        split at same
        · cases same
        · rename_i c later start
          have taken := skip_cons start
          split at same
          · obtain ⟨⟨key, afterKey⟩, keyRead, same⟩ := Option.bind_eq_some_iff.mp same
            have keyRoom := string_room keyRead
            dsimp only at same
            split at same
            · cases same
            · rename_i colon afterColon colonStart
              have colonTaken := skip_cons colonStart
              split at same
              · obtain ⟨⟨first, middle⟩, firstRead, same⟩ := Option.bind_eq_some_iff.mp same
                have firstRoom := values _ _ _ firstRead
                dsimp only at same
                split at same
                · cases same
                · rename_i d behind behindStart
                  have behindTaken := skip_cons behindStart
                  split at same
                  · cases same
                    simp only [membersRoom]
                    omega
                  · split at same
                    · obtain ⟨⟨others, last⟩, othersRead, same⟩ := Option.bind_eq_some_iff.mp same
                      cases same
                      have := objects _ _ _ othersRead
                      simp only [membersRoom]
                      omega
                    · cases same
              · cases same
          · cases same

theorem parse_room {text : List UInt8} {read : Value} (parsed : parse text = some read) :
    room read ≤ text.length := by
  unfold parse at parsed
  split at parsed
  · cases parsed
  · rename_i result rest same
    split at parsed
    · cases parsed
      have := (reads_room _).1 _ _ _ same
      omega
    · cases parsed

end Room

section Texts

/-- What stands for itself in a string. -/
def Plain (text : List UInt8) : Prop := ∀ c ∈ text, isSpecial c = false

instance (text : List UInt8) : Decidable (Plain text) :=
  List.decidableBAll (fun c => isSpecial c = false) text

theorem plain_iff (text : List UInt8) : Plain text ↔ stringRoom text = text.length := by
  simp [Plain, stringRoom, List.countP_eq_zero]

theorem string_plain {text rest : List UInt8} (plain : Plain text) {fuel : Nat}
    (enough : text.length < fuel) : string fuel (text ++ chr '"' :: rest) = some (text, rest) := by
  induction text generalizing fuel with
  | nil =>
      cases fuel with
      | zero => cases enough
      | succ fuel => rw [List.nil_append, string, if_pos rfl]
  | cons c text ih =>
      cases fuel with
      | zero => cases enough
      | succ fuel =>
          have ordinary := plain c (List.mem_cons_self ..)
          have notQuote : c ≠ chr '"' := by
            intro same
            rw [same] at ordinary
            revert ordinary
            decide
          have notEscape : c ≠ chr '\\' := by
            intro same
            rw [same] at ordinary
            revert ordinary
            decide
          have later := ih (fun d member => plain d (List.mem_cons_of_mem _ member))
            (Nat.lt_of_succ_lt_succ enough)
          rw [List.cons_append, string, if_neg notQuote, if_neg notEscape, ordinary, later]
          rfl

theorem skip_cons_of_not_blank {c : UInt8} (ink : isBlank c = false) (rest : List UInt8) :
    skip (c :: rest) = c :: rest := by
  rw [skip, List.dropWhile_cons, ink]
  rfl

/-- What may stand behind a value. -/
def isClosing (c : UInt8) : Bool := c = chr ',' || c = chr ']' || c = chr '\x7d'

theorem digits_closing {text : List UInt8} (rest : List UInt8) {c : UInt8}
    (all : ∀ d ∈ text, isDigit d = true)
    (other : isDigit c = false) : digits (text ++ c :: rest) = (text, c :: rest) := by
  rw [digits, List.takeWhile_append_of_pos all, List.dropWhile_append_of_pos all,
    List.takeWhile_cons_of_neg (by simp [other]), List.dropWhile_cons_of_neg (by simp [other]),
    List.append_nil]

theorem whole_decimal {rest : List UInt8} {c : UInt8} (n : Nat) (other : isDigit c = false) :
    whole (Ascii.decimal n ++ c :: rest) = some (Ascii.decimal n, c :: rest) := by
  by_cases zero : n = 0
  · subst zero
    rfl
  · obtain ⟨d, later, same, first⟩ := Ascii.decimal_head (Nat.pos_of_ne_zero zero)
    have all := Ascii.mem_decimal n
    have digit := all d (by rw [same]; exact List.mem_cons_self ..)
    have read := digits_closing rest all other
    rw [same, List.cons_append] at read ⊢
    rw [whole, if_neg first, if_pos digit, read]

theorem number_decimalInt (n : Int) (rest : List UInt8) {c : UInt8} (closing : isClosing c = true) :
    number (Ascii.decimalInt n ++ c :: rest) = some (Ascii.decimalInt n, c :: rest) := by
  have behind : isDigit c = false ∧ c ≠ chr '.' ∧ ¬ (c = chr 'e' ∨ c = chr 'E') := by
    simp only [isClosing, Bool.or_eq_true, decide_eq_true_eq] at closing
    rcases closing with (rfl | rfl) | rfl <;> decide
  have signed : sign (Ascii.decimalInt n ++ c :: rest) =
      (if n < 0 then [chr '-'] else [], Ascii.decimal n.natAbs ++ c :: rest) := by
    rw [Ascii.decimalInt]
    split
    · rfl
    · obtain ⟨d, later, same⟩ := List.exists_cons_of_ne_nil (Ascii.decimal_ne_nil n.natAbs)
      have digit := Ascii.mem_decimal n.natAbs d (by rw [same]; exact List.mem_cons_self ..)
      have notMinus : d ≠ chr '-' := by
        intro minus
        rw [minus] at digit
        revert digit
        decide
      rw [same, List.cons_append, sign, if_neg notMinus]
  have none : fraction (c :: rest) = some ([], c :: rest) := if_neg behind.2.1
  have small : exponent (c :: rest) = some ([], c :: rest) := if_neg behind.2.2
  rw [number, signed, whole_decimal _ behind.1]
  simp only [Option.bind_eq_bind, Option.bind_some, none, small, List.append_nil]
  rw [Ascii.decimalInt]
  split <;> rfl

section Values

variable {fuel : Nat} {text rest last key : List UInt8}

theorem value_string (plain : Plain text) :
    value (fuel + 1) (chr '"' :: (text ++ chr '"' :: rest)) = some (.string text, rest) := by
  have enough : text.length < (text ++ chr '"' :: rest).length + 1 := by
    rw [List.length_append]
    omega
  rw [value, skip_cons_of_not_blank (by decide)]
  simp only [↓reduceIte, string_plain plain enough]
  rfl

theorem number_start {d : UInt8} (first : (isDigit d || d = chr '-') = true) :
    isBlank d = false ∧ d ≠ chr '"' ∧ d ≠ chr '[' ∧ d ≠ chr '\x7b' := by
  have other {c : UInt8} (stops : (isDigit c || c = chr '-') = false) : d ≠ c := by
    intro same
    rw [same, stops] at first
    cases first
  refine ⟨?_, other (by decide), other (by decide), other (by decide)⟩
  have space : d ≠ chr ' ' := other (by decide)
  have tab : d ≠ 9 := other (by decide)
  have newLine : d ≠ 10 := other (by decide)
  have carriage : d ≠ 13 := other (by decide)
  simp only [isBlank, space, tab, newLine, carriage, decide_false, Bool.or_self]

theorem value_number {c : UInt8} (n : Int) (closing : isClosing c = true) :
    value (fuel + 1) (Ascii.decimalInt n ++ c :: rest) =
      some (.number (Ascii.decimalInt n), c :: rest) := by
  obtain ⟨d, later, same, first⟩ : ∃ d later, Ascii.decimalInt n = d :: later ∧
      (isDigit d || d = chr '-') = true := by
    rw [Ascii.decimalInt]
    split
    · exact ⟨_, _, rfl, by decide⟩
    · obtain ⟨d, later, same⟩ := List.exists_cons_of_ne_nil (Ascii.decimal_ne_nil n.natAbs)
      have digit := Ascii.mem_decimal n.natAbs d (by rw [same]; exact List.mem_cons_self ..)
      exact ⟨d, later, same, by rw [digit]; rfl⟩
  have ink := number_start first
  have read := number_decimalInt n rest closing
  rw [same, List.cons_append] at read ⊢
  rw [value, skip_cons_of_not_blank ink.1]
  simp only [ink.2.1, ink.2.2.1, ink.2.2.2, first, ↓reduceIte, read]
  rfl

theorem elements_last {first : Value}
    (read : value fuel text = some (first, chr ']' :: rest)) :
    elements (fuel + 1) text = some ([first], rest) := by
  rw [elements, read]
  simp only [Option.bind_eq_bind, Option.bind_some]
  rw [skip_cons_of_not_blank (by decide)]
  simp only [↓reduceIte]

theorem elements_cons {first : Value} {later : List Value}
    (read : value fuel text = some (first, chr ',' :: rest))
    (others : elements fuel rest = some (later, last)) :
    elements (fuel + 1) text = some (first :: later, last) := by
  rw [elements, read]
  simp only [Option.bind_eq_bind, Option.bind_some]
  rw [skip_cons_of_not_blank (by decide)]
  simp only [others]
  rfl

theorem members_last {first : Value} (plain : Plain key)
    (read : value fuel text = some (first, chr '\x7d' :: rest)) :
    members (fuel + 1) (chr '"' :: (key ++ chr '"' :: chr ':' :: text)) =
      some ([(key, first)], rest) := by
  have enough : key.length < (key ++ chr '"' :: chr ':' :: text).length + 1 := by
    rw [List.length_append]
    omega
  rw [members, skip_cons_of_not_blank (by decide)]
  simp only [↓reduceIte, string_plain plain enough, Option.bind_eq_bind, Option.bind_some]
  rw [skip_cons_of_not_blank (by decide)]
  simp only [↓reduceIte, read, Option.bind_some]
  rw [skip_cons_of_not_blank (by decide)]
  simp only [↓reduceIte]

theorem members_cons {first : Value} {later : List (List UInt8 × Value)} (plain : Plain key)
    (read : value fuel text = some (first, chr ',' :: rest))
    (others : members fuel rest = some (later, last)) :
    members (fuel + 1) (chr '"' :: (key ++ chr '"' :: chr ':' :: text)) =
      some ((key, first) :: later, last) := by
  have enough : key.length < (key ++ chr '"' :: chr ':' :: text).length + 1 := by
    rw [List.length_append]
    omega
  rw [members, skip_cons_of_not_blank (by decide)]
  simp only [↓reduceIte, string_plain plain enough, Option.bind_eq_bind, Option.bind_some]
  rw [skip_cons_of_not_blank (by decide)]
  simp only [↓reduceIte, read, Option.bind_some]
  rw [skip_cons_of_not_blank (by decide)]
  simp only [others]
  rfl

theorem value_object {later : List (List UInt8 × Value)}
    (read : members fuel (chr '"' :: text) = some (later, rest)) :
    value (fuel + 1) (chr '\x7b' :: chr '"' :: text) = some (.object later, rest) := by
  rw [value, skip_cons_of_not_blank (by decide)]
  simp only [skip_cons_of_not_blank (show isBlank (chr '"') = false by decide), read]
  rfl

theorem value_array {later : List Value}
    (read : elements fuel (chr '\x7b' :: text) = some (later, rest)) :
    value (fuel + 1) (chr '[' :: chr '\x7b' :: text) = some (.array later, rest) := by
  rw [value, skip_cons_of_not_blank (by decide)]
  simp only [skip_cons_of_not_blank (show isBlank (chr '\x7b') = false by decide), read]
  rfl

end Values

end Texts

end Json
