import Ttac.Lib.Ascii
import Mathlib.Data.List.Basic

set_option autoImplicit false

/- The tokens MySQL reads in a statement, in its default `sql_mode` and with a
single-byte or UTF-8 connection. -/
namespace Sql

open Ascii (chr ascii isDigit isLetter isSpace)

/-- `word` is a keyword or a plain identifier, `name` an identifier in backquotes and
`numeral` every number that is not a run of digits. -/
inductive Token where
  | word (text : List UInt8)
  | name (text : List UInt8)
  | string (value : List UInt8)
  | int (digits : List UInt8)
  | numeral (text : List UInt8)
  | op (text : List UInt8)
  deriving DecidableEq, Repr

/-- What the lexer is inside of, with the text or the value it has so far. -/
inductive Mode where
  | start
  | word (text : List UInt8)
  | dotted
  | point
  | int (digits : List UInt8)
  | real (text : List UInt8)
  | exponent (text : List UInt8)
  | signed (text : List UInt8) (sign : UInt8)
  | realExponent (text : List UInt8)
  | float (text : List UInt8)
  | radix (base : UInt8) (text : List UInt8)
  | bits (text : List UInt8)
  | string (quote : UInt8) (value : List UInt8)
  | escape (quote : UInt8) (value : List UInt8)
  | closing (quote : UInt8) (value : List UInt8)
  | name (text : List UInt8)
  | nameClosing (text : List UInt8)
  | op (text : List UInt8)
  | dash
  | dashes
  | slash
  | star
  | comment
  | commentStart
  | commentStar
  | version
  | line
  deriving DecidableEq, Repr

/-- `versioned` holds inside a `/*!` comment, whose text is read as part of the
statement. -/
structure State where
  mode : Mode
  versioned : Bool
  deriving DecidableEq, Repr

def isQuote (c : UInt8) : Bool := c == chr '\'' || c == chr '"'

def isIdentifier (c : UInt8) : Bool :=
  isDigit c || isLetter c || c == chr '_' || c == chr '$' || 0x80 ≤ c

/-- Operators of more than one byte, and those that begin one. -/
def operators : List (List UInt8) :=
  [ascii "<=", ascii ">=", ascii "<>", ascii "!=", ascii "<<", ascii ">>", ascii "&&", ascii "||",
    ascii ":=", ascii "<=>", ascii "->>"]

def beginsOperator (c : UInt8) : Bool := (ascii "<>=!&|:").contains c

/-- The byte a backslash and `c` stand for. -/
def escaped (c : UInt8) : UInt8 :=
  if c = chr '0' then 0
  else if c = chr 'b' then 8
  else if c = chr 't' then 9
  else if c = chr 'n' then 10
  else if c = chr 'r' then 13
  else if c = chr 'Z' then 26
  else c

/-- `\%` and `\_` keep their backslash. -/
def isWildcard (c : UInt8) : Bool := c == chr '%' || c == chr '_'

def radixDigit (base c : UInt8) : Bool :=
  if base = chr 'x' then
    isDigit c || (chr 'a' ≤ c && c ≤ chr 'f') || (chr 'A' ≤ c && c ≤ chr 'F')
  else c == chr '0' || c == chr '1'

/-- `0x` and `0b` with no digits behind them are identifiers. -/
def radixToken (text : List UInt8) : Token :=
  if text.length ≤ 2 then .word text else .numeral text

/-- The first byte of a token, or a byte between tokens. -/
def enter (versioned : Bool) (c : UInt8) : State × List Token :=
  if isSpace c then (⟨.start, versioned⟩, [])
  else if isQuote c then (⟨.string c [], versioned⟩, [])
  else if c = chr '`' then (⟨.name [], versioned⟩, [])
  else if isDigit c then (⟨.int [c], versioned⟩, [])
  else if isIdentifier c then (⟨.word [c], versioned⟩, [])
  else if c = chr '.' then (⟨.point, versioned⟩, [])
  else if c = chr '#' then (⟨.line, versioned⟩, [])
  else if c = chr '-' then (⟨.dash, versioned⟩, [])
  else if c = chr '/' then (⟨.slash, versioned⟩, [])
  else if c = chr '*' ∧ versioned = true then (⟨.star, versioned⟩, [])
  else if beginsOperator c then (⟨.op [c], versioned⟩, [])
  else (⟨.start, versioned⟩, [.op [c]])

/-- The tokens that `c` ends, and then `c` itself. -/
def leave (tokens : List Token) (versioned : Bool) (c : UInt8) : State × List Token :=
  ((enter versioned c).1, tokens ++ (enter versioned c).2)

/-- The byte behind a `-`. -/
def afterDash (tokens : List Token) (versioned : Bool) (c : UInt8) : State × List Token :=
  if c = chr '-' then (⟨.dashes, versioned⟩, tokens)
  else if c = chr '>' then (⟨.op (ascii "->"), versioned⟩, tokens)
  else leave (tokens ++ [.op (ascii "-")]) versioned c

/-- One byte of the statement. -/
def feed (s : State) (c : UInt8) : State × List Token :=
  let versioned := s.versioned
  let stay (mode : Mode) : State × List Token := (⟨mode, versioned⟩, [])
  match s.mode with
  | .start => enter versioned c
  | .word text =>
    if isIdentifier c then stay (.word (text ++ [c]))
    else if c = chr '.' then (⟨.dotted, versioned⟩, [.word text, .op (ascii ".")])
    else if c = chr '\'' ∧ (text = ascii "n" ∨ text = ascii "N") then stay (.string c [])
    else if c = chr '\'' ∧ text ∈ [ascii "x", ascii "X", ascii "b", ascii "B"] then
      stay (.bits (text ++ [c]))
    else leave [.word text] versioned c
  | .dotted => if isIdentifier c then stay (.word [c]) else enter versioned c
  | .point => if isDigit c then stay (.real [chr '.', c]) else leave [.op (ascii ".")] versioned c
  | .int digits =>
    if isDigit c then stay (.int (digits ++ [c]))
    else if c = chr '.' then stay (.real (digits ++ [c]))
    else if c = chr 'e' ∨ c = chr 'E' then stay (.exponent (digits ++ [c]))
    else if digits = ascii "0" ∧ (c = chr 'x' ∨ c = chr 'b') then stay (.radix c (digits ++ [c]))
    else if isIdentifier c then stay (.word (digits ++ [c]))
    else leave [.int digits] versioned c
  | .real text =>
    if isDigit c then stay (.real (text ++ [c]))
    else if c = chr 'e' ∨ c = chr 'E' then stay (.realExponent (text ++ [c]))
    else leave [.numeral text] versioned c
  | .exponent text =>
    if isDigit c then stay (.float (text ++ [c]))
    else if c = chr '+' ∨ c = chr '-' then stay (.signed text c)
    else if isIdentifier c then stay (.word (text ++ [c]))
    else leave [.word text] versioned c
  | .signed text sign =>
    if isDigit c then stay (.float (text ++ [sign, c]))
    else if sign = chr '-' then afterDash [.word text] versioned c
    else leave [.word text, .op [sign]] versioned c
  | .realExponent text =>
    if isDigit c ∨ c = chr '+' ∨ c = chr '-' then stay (.float (text ++ [c]))
    else leave [.numeral text] versioned c
  | .float text =>
    if isDigit c then stay (.float (text ++ [c])) else leave [.numeral text] versioned c
  | .radix base text =>
    if radixDigit base c then stay (.radix base (text ++ [c]))
    else if isIdentifier c then stay (.word (text ++ [c]))
    else leave [radixToken text] versioned c
  | .bits text =>
    if c = chr '\'' then (⟨.start, versioned⟩, [.numeral (text ++ [c])])
    else stay (.bits (text ++ [c]))
  | .string quote value =>
    if c = quote then stay (.closing quote value)
    else if c = chr '\\' then stay (.escape quote value)
    else stay (.string quote (value ++ [c]))
  | .escape quote value =>
    if isWildcard c then stay (.string quote (value ++ [chr '\\', c]))
    else stay (.string quote (value ++ [escaped c]))
  | .closing quote value =>
    if c = quote then stay (.string quote (value ++ [c])) else leave [.string value] versioned c
  | .name text =>
    if c = chr '`' then stay (.nameClosing text) else stay (.name (text ++ [c]))
  | .nameClosing text =>
    if c = chr '`' then stay (.name (text ++ [c])) else leave [.name text] versioned c
  | .op text =>
    if text ++ [c] ∈ operators then stay (.op (text ++ [c])) else leave [.op text] versioned c
  | .dash => afterDash [] versioned c
  | .dashes =>
    if c = chr '\n' then stay .start
    else if isSpace c ∨ c < 0x20 ∨ c = 0x7F then stay .line
    else afterDash [.op (ascii "-")] versioned c
  | .slash => if c = chr '*' then stay .commentStart else leave [.op (ascii "/")] versioned c
  | .star =>
    if c = chr '/' then (⟨.start, false⟩, []) else leave [.op (ascii "*")] versioned c
  | .comment => if c = chr '*' then stay .commentStar else stay .comment
  | .commentStart =>
    if c = chr '!' then stay .version
    else if c = chr '*' then stay .commentStar
    else stay .comment
  | .commentStar =>
    if c = chr '/' then stay .start
    else if c = chr '*' then stay .commentStar
    else stay .comment
  | .version => if isDigit c then stay .version else enter true c
  | .line => if c = chr '\n' then stay .start else stay .line

/-- The tokens the end of the statement ends; `none` inside a string or a comment. -/
def finish (s : State) : Option (List Token) :=
  if s.versioned then none
  else
    match s.mode with
    | .start | .dotted | .line | .dashes => some []
    | .word text | .exponent text => some [.word text]
    | .signed text sign => some [.word text, .op [sign]]
    | .int digits => some [.int digits]
    | .real text | .realExponent text | .float text => some [.numeral text]
    | .radix _ text => some [radixToken text]
    | .closing _ value => some [.string value]
    | .nameClosing text => some [.name text]
    | .op text => some [.op text]
    | .point => some [.op (ascii ".")]
    | .dash => some [.op (ascii "-")]
    | .slash => some [.op (ascii "/")]
    | .bits _ | .string _ _ | .escape _ _ | .name _ | .star | .comment | .commentStart
    | .commentStar | .version => none

/-- The tokens of the rest of a statement. -/
def read (s : State) : List UInt8 → Option (List Token)
  | [] => finish s
  | c :: rest => (read (feed s c).1 rest).map ((feed s c).2 ++ ·)

def initial : State := ⟨.start, false⟩

/-- The tokens of a statement, `none` when a string or a comment is left open. -/
def tokens (text : List UInt8) : Option (List Token) := read initial text

/-- The state behind a piece of a statement, and the tokens it completes. -/
def run (s : State) : List UInt8 → State × List Token
  | [] => (s, [])
  | c :: rest => ((run (feed s c).1 rest).1, (feed s c).2 ++ (run (feed s c).1 rest).2)

theorem read_append (s : State) (text rest : List UInt8) :
    read s (text ++ rest) = (read (run s text).1 rest).map ((run s text).2 ++ ·) := by
  induction text generalizing s with
  | nil => cases result : read s rest <;> simp [run, result]
  | cons c text ih =>
      rw [List.cons_append, read, ih, run, Option.map_map]
      congr 1
      funext later
      simp

theorem read_eq_run (s : State) (text : List UInt8) :
    read s text = (finish (run s text).1).map ((run s text).2 ++ ·) := by
  have whole := read_append s text []
  rwa [List.append_nil] at whole

section Size

/-- The least number of bytes a token is written in. -/
def Token.size : Token → Nat
  | .word text | .int text | .numeral text | .op text => text.length
  | .name value | .string value => value.length + 2

def sizes : List Token → Nat
  | [] => 0
  | token :: tokens => token.size + sizes tokens

@[simp] theorem sizes_nil : sizes [] = 0 := rfl

@[simp] theorem sizes_cons (token : Token) (tokens : List Token) :
    sizes (token :: tokens) = token.size + sizes tokens := rfl

@[simp] theorem sizes_append (first second : List Token) :
    sizes (first ++ second) = sizes first + sizes second := by
  induction first with
  | nil => simp only [List.nil_append, sizes_nil, Nat.zero_add]
  | cons token first ih => simp only [List.cons_append, sizes_cons, ih, Nat.add_assoc]

/-- The bytes that the token being read has at least taken so far. -/
def Mode.size : Mode → Nat
  | .word text | .int text | .real text | .exponent text | .realExponent text | .float text
  | .radix _ text | .bits text | .op text => text.length
  | .signed text _ => text.length + 1
  | .string _ value | .name value => value.length + 1
  | .escape _ value | .closing _ value | .nameClosing value => value.length + 2
  | .dash | .slash | .star | .point => 1
  | .dashes => 2
  | .start | .dotted | .comment | .commentStart | .commentStar | .version | .line => 0

/-- The token being read and the completed ones are written in at most `n` bytes. -/
def Fits (n : Nat) (step : State × List Token) : Prop := step.1.mode.size + sizes step.2 ≤ n

theorem Fits.ite {n : Nat} {p : Prop} [Decidable p] {first second : State × List Token}
    (yes : Fits n first) (no : Fits n second) : Fits n (if p then first else second) := by
  split
  · exact yes
  · exact no

theorem enter_fits {n : Nat} (versioned : Bool) (c : UInt8) (room : 1 ≤ n) :
    Fits n (enter versioned c) := by
  unfold enter
  repeat' with_reducible apply Fits.ite
  all_goals simp [Fits, Mode.size, Token.size, room]

theorem leave_fits {tokens : List Token} {n : Nat} (versioned : Bool) (c : UInt8)
    (fits : sizes tokens + 1 ≤ n) : Fits n (leave tokens versioned c) := by
  have entered := enter_fits versioned c (Nat.le_refl 1)
  simp only [Fits, leave, sizes_append] at entered ⊢
  omega

theorem afterDash_fits {tokens : List Token} {n : Nat} (versioned : Bool) (c : UInt8)
    (fits : sizes tokens + 2 ≤ n) : Fits n (afterDash tokens versioned c) := by
  unfold afterDash
  refine .ite ?_ (.ite ?_ (leave_fits versioned c ?_))
  · simp only [Fits, Mode.size]
    omega
  · simp only [Fits, Mode.size, show (ascii "->").length = 2 from rfl]
    omega
  · have one : (ascii "-").length = 1 := rfl
    simp only [sizes_append, sizes_cons, sizes_nil, Token.size, one]
    omega

theorem radixToken_size (text : List UInt8) : (radixToken text).size = text.length := by
  unfold radixToken
  split <;> rfl

/-- A byte adds at most one to what the tokens are written in. -/
theorem feed_fits (s : State) (c : UInt8) : Fits (s.mode.size + 1) (feed s c) := by
  obtain ⟨mode, versioned⟩ := s
  have point : (ascii ".").length = 1 := rfl
  have slash : (ascii "/").length = 1 := rfl
  have star : (ascii "*").length = 1 := rfl
  have minus : (ascii "-").length = 1 := rfl
  cases mode with
  | radix base text =>
      have token := radixToken_size text
      refine .ite ?_ (.ite ?_ (leave_fits _ c ?_))
      · simp [Fits, Mode.size]
      · simp [Fits, Mode.size]
      · simp [token, Mode.size]
  | _ =>
      simp only [feed]
      repeat' with_reducible apply Fits.ite
      all_goals first
        | with_reducible apply enter_fits
        | with_reducible apply leave_fits
        | with_reducible apply afterDash_fits
        | skip
      all_goals simp [Fits, Mode.size, Token.size, point, slash, star, minus]

theorem finish_size {s : State} {tokens : List Token} (finished : finish s = some tokens) :
    sizes tokens ≤ s.mode.size := by
  obtain ⟨mode, versioned⟩ := s
  cases versioned with
  | true => cases finished
  | false =>
      cases mode with
      | radix base text =>
          cases finished
          simp [radixToken_size, Mode.size]
      | _ => cases finished <;> simp [Token.size, Mode.size, ascii]

/-- The tokens read are written in the bytes there are. -/
theorem read_size {s : State} {text : List UInt8} {tokens : List Token}
    (result : read s text = some tokens) : sizes tokens ≤ s.mode.size + text.length := by
  induction text generalizing s tokens with
  | nil => exact finish_size result
  | cons c rest ih =>
      rw [read, Option.map_eq_some_iff] at result
      obtain ⟨later, result, rfl⟩ := result
      have fits := feed_fits s c
      have remaining := ih result
      simp only [Fits] at fits
      rw [sizes_append, List.length_cons]
      omega

end Size

section Integers

/-- A run of digits, at least one. -/
def isInteger (text : List UInt8) : Bool := !text.isEmpty && text.all isDigit

def Token.Valid : Token → Prop
  | .int digits => isInteger digits = true
  | _ => True

def Mode.Valid : Mode → Prop
  | .int digits => isInteger digits = true
  | _ => True

def Sound (step : State × List Token) : Prop :=
  step.1.mode.Valid ∧ ∀ token ∈ step.2, token.Valid

theorem Sound.ite {p : Prop} [Decidable p] {first second : State × List Token}
    (yes : p → Sound first) (no : ¬ p → Sound second) : Sound (if p then first else second) := by
  split
  · exact yes ‹p›
  · exact no ‹¬p›

theorem enter_sound (versioned : Bool) (c : UInt8) : Sound (enter versioned c) := by
  unfold enter
  repeat' with_reducible refine Sound.ite (fun _ => ?_) (fun _ => ?_)
  all_goals simp_all [Sound, Mode.Valid, Token.Valid, isInteger]

theorem leave_sound {tokens : List Token} (versioned : Bool) (c : UInt8)
    (valid : ∀ token ∈ tokens, token.Valid) : Sound (leave tokens versioned c) := by
  have entered := enter_sound versioned c
  refine ⟨entered.1, fun token member => ?_⟩
  rcases List.mem_append.mp member with old | new
  · exact valid token old
  · exact entered.2 token new

theorem afterDash_sound {tokens : List Token} (versioned : Bool) (c : UInt8)
    (valid : ∀ token ∈ tokens, token.Valid) : Sound (afterDash tokens versioned c) := by
  refine .ite (fun _ => ⟨trivial, valid⟩) fun _ =>
    .ite (fun _ => ⟨trivial, valid⟩) fun _ => leave_sound versioned c ?_
  intro token member
  rcases List.mem_append.mp member with old | new
  · exact valid token old
  · rw [List.mem_singleton.mp new]
    trivial

/-- Integer tokens are runs of digits. -/
theorem feed_sound (s : State) (c : UInt8) (valid : s.mode.Valid) : Sound (feed s c) := by
  obtain ⟨mode, versioned⟩ := s
  cases mode with
  | radix base text =>
      refine .ite (fun _ => ?_) fun _ => .ite (fun _ => ?_) fun _ => leave_sound _ c ?_
      · simp [Sound, Mode.Valid]
      · simp [Sound, Mode.Valid]
      · intro token member
        rw [List.mem_singleton.mp member, radixToken]
        split <;> trivial
  | _ =>
      simp only [feed]
      repeat' with_reducible refine Sound.ite (fun _ => ?_) (fun _ => ?_)
      all_goals first
        | with_reducible apply enter_sound
        | with_reducible apply leave_sound
        | with_reducible apply afterDash_sound
        | skip
      all_goals simp_all [Sound, Mode.Valid, Token.Valid, isInteger]

theorem read_valid {s : State} {text : List UInt8} {tokens : List Token} (valid : s.mode.Valid)
    (result : read s text = some tokens) : ∀ token ∈ tokens, token.Valid := by
  induction text generalizing s tokens with
  | nil =>
      obtain ⟨mode, versioned⟩ := s
      cases versioned with
      | true => cases result
      | false =>
          cases mode with
          | radix base text =>
              cases result
              intro token member
              rw [List.mem_singleton.mp member, radixToken]
              split <;> trivial
          | _ => cases result <;> simp_all [Token.Valid, Mode.Valid]
  | cons c rest ih =>
      rw [read, Option.map_eq_some_iff] at result
      obtain ⟨later, result, rfl⟩ := result
      have sound := feed_sound s c valid
      intro token member
      rcases List.mem_append.mp member with now | after
      · exact sound.2 token now
      · exact ih sound.1 result token after

end Integers

end Sql
