import Ttac.Lib.SqlLexer

set_option autoImplicit false

/- Statements put together from fixed text and inserted values: when every value is
read as the one literal it is meant to be. -/
namespace Sql

open Ascii (chr ascii isDigit decimal decimalInt)

/-- A piece of a statement. A `quoted` value stands between two quotes of the
statement, a `bare` one does not. -/
inductive Piece where
  | text (fixed : List UInt8)
  | quoted (quote : UInt8) (value : List UInt8)
  | bare (value : List UInt8)
  | number (value : Int)
  deriving DecidableEq, Repr

def Piece.render : Piece → List UInt8
  | .text fixed => fixed
  | .quoted quote value => quote :: (value ++ [quote])
  | .bare value => value
  | .number value => decimalInt value

/-- The tokens the piece is meant to be read as. -/
def Piece.tokens : Piece → List Token
  | .text fixed => (Sql.tokens fixed).getD []
  | .quoted _ value => [.string value]
  | .bare value => [.int value]
  | .number value =>
    if value < 0 then [.op (ascii "-"), .int (decimal value.natAbs)]
    else [.int (decimal value.natAbs)]

def render (pieces : List Piece) : List UInt8 := pieces.flatMap Piece.render

def expected (pieces : List Piece) : List Token := pieces.flatMap Piece.tokens

/-- The statement is read as its fixed tokens and one literal for each value. -/
def Intact (pieces : List Piece) : Prop := Sql.tokens (render pieces) = some (expected pieces)

/-- Between quotes the value stands for itself: the quote does not occur in it, and a
backslash only in front of `%` or `_`. -/
def isPlain (quote : UInt8) : List UInt8 → Bool
  | [] => true
  | c :: rest =>
    if c = quote then false
    else if c = chr '\\' then
      match rest with
      | [] => false
      | d :: rest => isWildcard d && isPlain quote rest
    else isPlain quote rest

theorem isPlain_quote (quote : UInt8) (rest : List UInt8) :
    isPlain quote (quote :: rest) = false := by
  rw [isPlain.eq_def]
  simp

theorem isPlain_last {quote : UInt8} (different : ¬ chr '\\' = quote) :
    isPlain quote [chr '\\'] = false := by
  rw [isPlain.eq_def]
  simp [different]

theorem isPlain_escape {quote : UInt8} (different : ¬ chr '\\' = quote) (d : UInt8)
    (rest : List UInt8) :
    isPlain quote (chr '\\' :: d :: rest) = (isWildcard d && isPlain quote rest) := by
  rw [isPlain.eq_def]
  simp [different]

theorem isPlain_cons {quote c : UInt8} (different : ¬ c = quote) (ordinary : ¬ c = chr '\\')
    (rest : List UInt8) : isPlain quote (c :: rest) = isPlain quote rest := by
  rw [isPlain.eq_def]
  simp [different, ordinary]

theorem isPlain_of_not_mem {quote : UInt8} {value : List UInt8} (noQuote : quote ∉ value)
    (noEscape : chr '\\' ∉ value) : isPlain quote value = true := by
  induction value with
  | nil => rfl
  | cons c rest ih =>
      rw [List.mem_cons, not_or] at noQuote noEscape
      rw [isPlain_cons (Ne.symm noQuote.1) (Ne.symm noEscape.1)]
      exact ih noQuote.2 noEscape.2

/-- The value of the piece can be written the way the piece writes it. -/
def Piece.Literal : Piece → Prop
  | .text _ | .number _ => True
  | .quoted quote value => isPlain quote value = true
  | .bare value => isInteger value = true

/-- A piece without its value. -/
inductive Slot where
  | text (fixed : List UInt8)
  | quoted (quote : UInt8)
  | bare
  | number
  deriving DecidableEq, Repr

def Piece.slot : Piece → Slot
  | .text fixed => .text fixed
  | .quoted quote _ => .quoted quote
  | .bare _ => .bare
  | .number _ => .number

/-- What the lexer may be at the end of when the next piece begins. -/
inductive Before where
  | start
  | string
  | int
  | op (text : List UInt8)
  deriving DecidableEq, Repr

/-- Bytes that end a string and a number, and belong to neither. -/
def isSeparator (c : UInt8) : Bool := (ascii " ,)").contains c

/-- No byte of the fixed text lies outside a token. -/
def Slot.isTight : Slot → Bool
  | .text fixed => decide (fixed.length ≤ sizes ((Sql.tokens fixed).getD []))
  | _ => true

/-- The end of a fixed text that is read from the start of a token. -/
def textEnd (fixed : List UInt8) : Option Before :=
  match (run initial fixed).1 with
  | ⟨.start, false⟩ => some .start
  | ⟨.op text, false⟩ => some (.op text)
  | _ => none

def beginsText (before : Before) (fixed : List UInt8) : Bool :=
  match before with
  | .start => true
  | .string | .int => fixed.head?.any isSeparator
  | .op _ => false

/-- A value may begin at the start of a token or behind an operator. -/
def Before.opensValue : Before → Bool
  | .start | .op _ => true
  | .string | .int => false

/-- The pieces meet at the ends of tokens, and behind a quoted value there is nothing
but tokens. -/
def isTemplate : Before → List Slot → Bool
  | _, [] => true
  | before, .text fixed :: rest =>
    beginsText before fixed &&
      match textEnd fixed with
      | none => false
      | some before => isTemplate before rest
  | before, .quoted quote :: rest =>
    before.opensValue && isQuote quote && rest.all Slot.isTight && isTemplate .string rest
  | before, .bare :: rest => before.opensValue && isTemplate .int rest
  | before, .number :: rest => before = .start && isTemplate .int rest

theorem map_append_eq_some {tokens : Option (List Token)} {first second : List Token} :
    tokens.map (first ++ ·) = some (first ++ second) ↔ tokens = some second := by
  rw [Option.map_eq_some_iff]
  constructor
  · rintro ⟨later, rfl, same⟩
    rw [List.append_cancel_left same]
  · rintro rfl
    exact ⟨second, rfl, rfl⟩

section Steps

variable {s t : State} {c : UInt8} {rest : List UInt8}

theorem read_stay (step : feed s c = (t, [])) : read s (c :: rest) = read t rest := by
  rw [read, step]
  cases read t rest <;> rfl

theorem read_leave {tokens : List Token} {versioned : Bool}
    (step : feed s c = leave tokens versioned c) :
    read s (c :: rest) = (read ⟨.start, versioned⟩ (c :: rest)).map (tokens ++ ·) := by
  rw [read, read, step, Option.map_map]
  congr 1
  funext later
  simp [leave, feed]

end Steps

section Strings

variable {quote : UInt8} {versioned : Bool}

theorem feed_escape (different : ¬ chr '\\' = quote) (v : List UInt8) :
    feed ⟨.string quote v, versioned⟩ (chr '\\') = (⟨.escape quote v, versioned⟩, []) := by
  simp [feed, different]

theorem feed_wildcard {d : UInt8} (wild : isWildcard d = true) (v : List UInt8) :
    feed ⟨.escape quote v, versioned⟩ d =
      (⟨.string quote (v ++ [chr '\\', d]), versioned⟩, []) := by
  simp [feed, wild]

theorem feed_escaped {d : UInt8} (other : isWildcard d = false) (v : List UInt8) :
    feed ⟨.escape quote v, versioned⟩ d = (⟨.string quote (v ++ [escaped d]), versioned⟩, []) := by
  simp [feed, other]

theorem feed_ordinary {c : UInt8} (different : ¬ c = quote) (ordinary : ¬ c = chr '\\')
    (v : List UInt8) :
    feed ⟨.string quote v, versioned⟩ c = (⟨.string quote (v ++ [c]), versioned⟩, []) := by
  simp [feed, different, ordinary]

theorem feed_quote (v : List UInt8) :
    feed ⟨.string quote v, versioned⟩ quote = (⟨.closing quote v, versioned⟩, []) := by
  simp [feed]

theorem feed_doubled (v : List UInt8) :
    feed ⟨.closing quote v, versioned⟩ quote = (⟨.string quote (v ++ [quote]), versioned⟩, []) := by
  simp [feed]

theorem feed_closed {c : UInt8} (different : ¬ c = quote) (v : List UInt8) :
    feed ⟨.closing quote v, versioned⟩ c = leave [.string v] versioned c := by
  simp [feed, different]

/-- A plain value is read as it is. -/
theorem read_string {u tail : List UInt8} (plain : isPlain quote u = true) (v : List UInt8) :
    read ⟨.string quote v, versioned⟩ (u ++ quote :: tail) =
      read ⟨.closing quote (v ++ u), versioned⟩ tail := by
  induction u using isPlain.induct quote generalizing v with
  | case1 =>
      rw [List.append_nil]
      exact read_stay (feed_quote v)
  | case2 rest =>
      rw [isPlain_quote] at plain
      cases plain
  | case3 different =>
      rw [isPlain_last different] at plain
      cases plain
  | case4 d rest different ih =>
      rw [isPlain_escape different, Bool.and_eq_true] at plain
      rw [List.cons_append, read_stay (feed_escape different v), List.cons_append,
        read_stay (feed_wildcard plain.1 v), ih plain.2]
      simp
  | case5 c rest different ordinary ih =>
      rw [isPlain_cons different ordinary] at plain
      rw [List.cons_append, read_stay (feed_ordinary different ordinary v), ih plain]
      simp

/-- A value that is read as it is, with enough tokens behind it to fill the rest, is plain:
every doubled quote and every other escape would leave a byte too few. -/
theorem plain_of_read {u tail v : List UInt8} {later : List Token} (quoted : isQuote quote = true)
    (enough : tail.length ≤ sizes later)
    (result : read ⟨.string quote v, versioned⟩ (u ++ quote :: tail) =
      some (.string (v ++ u) :: later)) : isPlain quote u = true := by
  induction u using isPlain.induct quote generalizing v with
  | case1 => rw [isPlain]
  | case2 rest =>
      exfalso
      rw [List.cons_append, read_stay (feed_quote v)] at result
      obtain ⟨d, more, split⟩ : ∃ d more, rest ++ quote :: tail = d :: more :=
        List.exists_cons_of_ne_nil (by simp)
      have lengths := congrArg List.length split
      simp only [List.length_append, List.length_cons] at lengths
      rw [split] at result
      by_cases doubled : d = quote
      · rw [doubled, read_stay (feed_doubled v)] at result
        have size := read_size result
        simp only [sizes_cons, Token.size, Mode.size, List.length_append, List.length_cons,
          List.length_nil] at size
        omega
      · rw [read_leave (feed_closed doubled v), Option.map_eq_some_iff] at result
        obtain ⟨tokens, -, same⟩ := result
        have value := congrArg List.length (Token.string.inj (List.cons.inj same).1)
        simp only [List.length_append, List.length_cons] at value
        omega
  | case3 different =>
      exfalso
      rw [List.cons_append, List.nil_append, read_stay (feed_escape different v)] at result
      have other : isWildcard quote = false := by
        simp only [isQuote, Bool.or_eq_true, beq_iff_eq] at quoted
        rcases quoted with rfl | rfl <;> rfl
      rw [read_stay (feed_escaped other v)] at result
      have size := read_size result
      simp only [sizes_cons, Token.size, Mode.size, List.length_append, List.length_cons,
        List.length_nil] at size
      omega
  | case4 d rest different ih =>
      rw [List.cons_append, read_stay (feed_escape different v), List.cons_append] at result
      cases wild : isWildcard d with
      | true =>
          rw [read_stay (feed_wildcard wild v)] at result
          rw [isPlain_escape different, wild, Bool.true_and]
          exact ih (v := v ++ [chr '\\', d]) (by simpa using result)
      | false =>
          exfalso
          rw [read_stay (feed_escaped wild v)] at result
          have size := read_size result
          simp only [sizes_cons, Token.size, Mode.size, List.length_append, List.length_cons,
            List.length_nil] at size
          omega
  | case5 c rest different ordinary ih =>
      rw [List.cons_append, read_stay (feed_ordinary different ordinary v)] at result
      rw [isPlain_cons different ordinary]
      exact ih (v := v ++ [c]) (by simpa using result)

end Strings

section Integers

theorem isInteger_cons {c : UInt8} {rest : List UInt8} (integer : isInteger (c :: rest) = true) :
    isDigit c = true ∧ ∀ d ∈ rest, isDigit d = true := by
  simpa [isInteger] using integer

theorem isInteger_decimal (n : Nat) : isInteger (decimal n) = true := by
  simp only [isInteger, Bool.and_eq_true, Bool.not_eq_true', List.isEmpty_eq_false_iff,
    List.all_eq_true]
  exact ⟨Ascii.decimal_ne_nil n, Ascii.mem_decimal n⟩

theorem enter_digit {c : UInt8} (digit : isDigit c = true) (versioned : Bool) :
    enter versioned c = (⟨.int [c], versioned⟩, []) := by
  have notSpace := Ascii.isDigit_not_space c digit
  have notQuote : isQuote c = false := by
    rw [isQuote, Bool.or_eq_false_iff, beq_eq_false_iff_ne, beq_eq_false_iff_ne]
    constructor <;> rintro rfl <;> exact absurd digit (by decide)
  have notTick : c ≠ chr '`' := by
    rintro rfl
    exact absurd digit (by decide)
  simp [enter, notSpace, notQuote, notTick, digit]

theorem read_digits {digits rest : List UInt8} (all : ∀ c ∈ digits, isDigit c = true)
    (first : List UInt8) (versioned : Bool) :
    read ⟨.int first, versioned⟩ (digits ++ rest) =
      read ⟨.int (first ++ digits), versioned⟩ rest := by
  induction digits generalizing first with
  | nil => simp
  | cons c digits ih =>
      have step : feed ⟨.int first, versioned⟩ c = (⟨.int (first ++ [c]), versioned⟩, []) := by
        simp [feed, all c (by simp)]
      rw [List.cons_append, read_stay step, ih (fun d member => all d (by simp [member]))]
      simp

/-- A run of digits is one integer. -/
theorem read_integer {value rest : List UInt8} (integer : isInteger value = true)
    (versioned : Bool) :
    read ⟨.start, versioned⟩ (value ++ rest) = read ⟨.int value, versioned⟩ rest := by
  cases value with
  | nil => cases integer
  | cons c digits =>
      obtain ⟨digit, all⟩ := isInteger_cons integer
      have step : feed ⟨.start, versioned⟩ c = (⟨.int [c], versioned⟩, []) :=
        enter_digit digit versioned
      rw [List.cons_append, read_stay step, read_digits all]
      rfl

/-- No operator goes on with a digit. -/
theorem read_op_integer {text value rest : List UInt8} (integer : isInteger value = true)
    (versioned : Bool) :
    read ⟨.op text, versioned⟩ (value ++ rest) =
      (read ⟨.int value, versioned⟩ rest).map ([.op text] ++ ·) := by
  have noDigit : ∀ op ∈ operators, ∀ c ∈ op, isDigit c = false := by decide +kernel
  rw [← read_integer integer versioned]
  cases value with
  | nil => cases integer
  | cons c digits =>
      obtain ⟨digit, -⟩ := isInteger_cons integer
      have ends : text ++ [c] ∉ operators := by
        intro longer
        rw [noDigit _ longer c (by simp)] at digit
        cases digit
      exact read_leave (by simp [feed, ends])

theorem read_number (n : Int) (rest : List UInt8) (versioned : Bool) :
    read ⟨.start, versioned⟩ (decimalInt n ++ rest) =
      (read ⟨.int (decimal n.natAbs), versioned⟩ rest).map
        ((if n < 0 then [.op (ascii "-")] else []) ++ ·) := by
  have integer := isInteger_decimal n.natAbs
  unfold decimalInt
  split
  · rw [List.cons_append]
    have minus : feed ⟨.start, versioned⟩ (chr '-') = (⟨.dash, versioned⟩, []) := rfl
    rw [read_stay minus, ← read_integer integer versioned]
    cases digits : decimal n.natAbs with
    | nil =>
        rw [digits] at integer
        cases integer
    | cons c more =>
        rw [digits] at integer
        obtain ⟨digit, -⟩ := isInteger_cons integer
        have notMinus : c ≠ chr '-' := by
          rintro rfl
          exact absurd digit (by decide)
        have notArrow : c ≠ chr '>' := by
          rintro rfl
          exact absurd digit (by decide)
        exact read_leave (by simp [feed, afterDash, notMinus, notArrow])
  · rw [read_integer integer versioned]
    cases read ⟨.int (decimal n.natAbs), versioned⟩ rest <;> rfl

end Integers

/-- The lexer's state at the end of a piece, and the tokens that state still holds. -/
inductive Before.Holds : Before → State → List Token → Prop where
  | start : Holds .start initial []
  | string {quote : UInt8} (quoted : isQuote quote = true) (value : List UInt8) :
      Holds .string ⟨.closing quote value, false⟩ [.string value]
  | int (digits : List UInt8) : Holds .int ⟨.int digits, false⟩ [.int digits]
  | op (text : List UInt8) : Holds (.op text) ⟨.op text, false⟩ [.op text]

theorem beginsText_cons {fixed : List UInt8} (begins : fixed.head?.any isSeparator = true) :
    ∃ c rest, fixed = c :: rest ∧ isSeparator c = true := by
  cases fixed with
  | nil => cases begins
  | cons c rest => exact ⟨c, rest, rfl, begins⟩

theorem separator_facts {c : UInt8} (separator : isSeparator c = true) :
    isQuote c = false ∧ isDigit c = false ∧ isIdentifier c = false ∧ c ≠ chr '.' ∧ c ≠ chr 'e' ∧
      c ≠ chr 'E' ∧ c ≠ chr 'x' ∧ c ≠ chr 'b' := by
  have cases : c = chr ' ' ∨ c = chr ',' ∨ c = chr ')' := by
    simpa [isSeparator, ascii] using separator
  rcases cases with rfl | rfl | rfl <;> decide

namespace Before.Holds

variable {before : Before} {s : State} {pending : List Token}

theorem finish (holds : Before.Holds before s pending) : Sql.finish s = some pending := by
  cases holds <;> rfl

/-- A fixed text ends what stands before it. -/
theorem text (holds : Before.Holds before s pending) {fixed : List UInt8}
    (begins : beginsText before fixed = true) (rest : List UInt8) :
    read s (fixed ++ rest) = (read initial (fixed ++ rest)).map (pending ++ ·) := by
  cases holds with
  | start => cases read initial (fixed ++ rest) <;> rfl
  | string quoted value =>
      obtain ⟨c, fixed, rfl, separator⟩ := beginsText_cons begins
      obtain ⟨notQuote, -⟩ := separator_facts separator
      rename_i quote
      have different : ¬ c = quote := by
        rintro rfl
        rw [quoted] at notQuote
        cases notQuote
      exact read_leave (feed_closed different value)
  | int digits =>
      obtain ⟨c, fixed, rfl, separator⟩ := beginsText_cons begins
      obtain ⟨-, digit, identifier, point, lower, upper, hex, bin⟩ := separator_facts separator
      exact read_leave (by simp [feed, digit, identifier, point, lower, upper, hex, bin])
  | op text => cases begins

/-- A quote ends what stands before it and begins a string. -/
theorem quote (holds : Before.Holds before s pending) (starts : before.opensValue = true)
    {quote : UInt8} (quoted : isQuote quote = true) (rest : List UInt8) :
    read s (quote :: rest) = (read ⟨.string quote [], false⟩ rest).map (pending ++ ·) := by
  have opens : enter false quote = (⟨.string quote [], false⟩, []) := by
    simp only [isQuote, Bool.or_eq_true, beq_iff_eq] at quoted
    rcases quoted with rfl | rfl <;> rfl
  cases holds with
  | start =>
      have step : feed initial quote = (⟨.string quote [], false⟩, []) := opens
      rw [read_stay step]
      cases read ⟨.string quote [], false⟩ rest <;> rfl
  | op text =>
      have noQuote : ∀ op ∈ operators, ∀ c ∈ op, isQuote c = false := by decide +kernel
      have ends : text ++ [quote] ∉ operators := by
        intro longer
        rw [noQuote _ longer quote (by simp)] at quoted
        cases quoted
      have step : feed ⟨.op text, false⟩ quote = (⟨.string quote [], false⟩, [.op text]) := by
        simp only [feed, ends, ↓reduceIte, leave, opens, List.append_nil]
      rw [read, step]
  | string _ _ => cases starts
  | int _ => cases starts

end Before.Holds

theorem textEnd_holds {fixed : List UInt8} {before : Before} (ends : textEnd fixed = some before) :
    ∃ pending, Before.Holds before (run initial fixed).1 pending ∧
      Sql.tokens fixed = some ((run initial fixed).2 ++ pending) := by
  have holds : ∃ pending, Before.Holds before (run initial fixed).1 pending := by
    unfold textEnd at ends
    split at ends
    · rename_i state
      cases ends
      exact ⟨[], state ▸ .start⟩
    · rename_i text state
      cases ends
      exact ⟨[.op text], state ▸ .op text⟩
    · cases ends
  obtain ⟨pending, holds⟩ := holds
  refine ⟨pending, holds, ?_⟩
  rw [Sql.tokens, read_eq_run, holds.finish]
  rfl

theorem tight_size {pieces : List Piece} (tight : (pieces.map Piece.slot).all Slot.isTight = true) :
    (render pieces).length ≤ sizes (expected pieces) := by
  induction pieces with
  | nil => exact Nat.le_refl _
  | cons piece pieces ih =>
      rw [List.map_cons, List.all_cons, Bool.and_eq_true] at tight
      have later := ih tight.2
      have here : piece.render.length ≤ sizes piece.tokens := by
        cases piece with
        | text fixed => exact of_decide_eq_true tight.1
        | quoted quote value => simp [Piece.render, Piece.tokens, Token.size]
        | bare value => simp [Piece.render, Piece.tokens, Token.size]
        | number value =>
            simp only [Piece.render, Piece.tokens, decimalInt]
            split <;> simp [Token.size, ascii, Nat.add_comm]
      simp only [render, expected, List.flatMap_cons, List.length_append, sizes_append] at later ⊢
      omega

theorem expected_cons (piece : Piece) (pieces : List Piece) :
    expected (piece :: pieces) = piece.tokens ++ expected pieces := List.flatMap_cons

theorem render_cons (piece : Piece) (pieces : List Piece) :
    render (piece :: pieces) = piece.render ++ render pieces := List.flatMap_cons

/-- Read from a piece on, a statement has the tokens it is meant to have exactly when
every value left is a literal. -/
theorem read_iff (pieces : List Piece) {before : Before} {s : State} {pending : List Token}
    (holds : Before.Holds before s pending)
    (template : isTemplate before (pieces.map Piece.slot) = true) :
    read s (render pieces) = some (pending ++ expected pieces) ↔
      ∀ piece ∈ pieces, piece.Literal := by
  induction pieces generalizing before s pending with
  | nil => simp [render, expected, read, holds.finish]
  | cons piece pieces ih =>
      rw [render_cons, expected_cons, List.forall_mem_cons]
      rw [List.map_cons] at template
      cases piece with
      | text fixed =>
          simp only [Piece.slot, isTemplate, Bool.and_eq_true] at template
          obtain ⟨begins, template⟩ := template
          cases ends : textEnd fixed with
          | none =>
              rw [ends] at template
              cases template
          | some next =>
              rw [ends] at template
              obtain ⟨later, holdsNext, tokens⟩ := textEnd_holds ends
              simp only [Piece.render, Piece.tokens, tokens, Option.getD_some, Piece.Literal,
                true_and]
              rw [holds.text begins, map_append_eq_some, read_append, List.append_assoc,
                map_append_eq_some]
              exact ih holdsNext template
      | quoted quote value =>
          simp only [Piece.slot, isTemplate, Bool.and_eq_true] at template
          obtain ⟨⟨⟨starts, quoted⟩, tight⟩, template⟩ := template
          have enough := tight_size tight
          rw [← ih (.string quoted value) template]
          simp only [Piece.render, Piece.tokens, Piece.Literal, List.nil_append, List.cons_append,
            List.append_assoc]
          rw [holds.quote starts quoted, map_append_eq_some]
          constructor
          · intro result
            have plain := plain_of_read quoted enough result
            refine ⟨plain, ?_⟩
            rwa [read_string plain] at result
          · intro both
            obtain ⟨plain, result⟩ := both
            rwa [read_string plain]
      | bare value =>
          simp only [Piece.slot, isTemplate, Bool.and_eq_true] at template
          obtain ⟨starts, template⟩ := template
          have valid : s.mode.Valid := by
            cases holds with
            | int digits => cases starts
            | _ => trivial
          have reads : isInteger value = true → read s (value ++ render pieces) =
              (read ⟨.int value, false⟩ (render pieces)).map (pending ++ ·) := by
            intro integer
            cases holds with
            | start =>
                rw [initial, read_integer integer]
                cases read ⟨.int value, false⟩ (render pieces) <;> rfl
            | op text => exact read_op_integer integer false
            | string _ _ => cases starts
            | int _ => cases starts
          rw [← ih (.int value) template]
          simp only [Piece.render, Piece.tokens, Piece.Literal]
          constructor
          · intro result
            have integer : isInteger value = true :=
              read_valid valid result (.int value) (by simp)
            refine ⟨integer, ?_⟩
            rwa [reads integer, map_append_eq_some] at result
          · intro both
            obtain ⟨integer, result⟩ := both
            rw [reads integer, map_append_eq_some]
            exact result
      | number value =>
          simp only [Piece.slot, isTemplate, Bool.and_eq_true, decide_eq_true_eq] at template
          obtain ⟨rfl, template⟩ := template
          cases holds
          rw [← ih (.int (decimal value.natAbs)) template]
          simp only [Piece.render, Piece.tokens, Piece.Literal, true_and, List.nil_append]
          rw [initial, read_number]
          split <;> exact map_append_eq_some

/-- Every value is read as the one literal it is meant to be, and nothing else is read,
exactly when every value is such a literal. -/
theorem intact_iff (pieces : List Piece)
    (template : isTemplate .start (pieces.map Piece.slot) = true) :
    Intact pieces ↔ ∀ piece ∈ pieces, piece.Literal :=
  read_iff pieces .start template

end Sql
