import Ttac.RequestChunking
import Ttac.RequestText

set_option autoImplicit false

/- The body of a request against the length it declares: `read_sz` takes an `int` for it and
does not look for the end of the input. -/
namespace Ttac

open Reading (Action Text)

/-- The number a text declares, without any limit; 0 where it starts with none. -/
def declaredLength (text : Bytes) : Int :=
  match text.dropWhile isSpace with
  | [] => 0
  | c :: rest =>
    if c = chr '-' then -(digitsValue (rest.takeWhile isDigit) : Int)
    else if c = chr '+' then digitsValue (rest.takeWhile isDigit)
    else digitsValue ((c :: rest).takeWhile isDigit)

/-- `strtol` saturates it. -/
theorem strtol_declared (text : Bytes) :
    strtol text = max (min (declaredLength text) (2 ^ 63 - 1)) (-(2 ^ 63)) := by
  rw [strtol, declaredLength]
  cases text.dropWhile isSpace with
  | nil => rfl
  | cons c rest =>
      dsimp only
      split
      · omega
      · split <;> omega

/-- What `atoi` makes of a declared length that is no less than zero. -/
theorem atoi_declared_iff {text : Bytes} (positive : 0 ≤ declaredLength text) {n : Int}
    (low : 0 ≤ n) (high : n + 1 < 2 ^ 31) :
    atoi text = n ↔ declaredLength text < 2 ^ 63 ∧ declaredLength text % 2 ^ 32 = n := by
  rw [atoi, strtol_declared, Int.bmod_def]
  split <;> omega

/-- Behind the end of the text `read_sz` goes on storing what `get_char` reports there. -/
theorem readChars_any (n : Nat) (text : Bytes) (ended : Bool) :
    ∃ t, readChars textReader n ⟨text, ended⟩ =
      (.ok (text.take n ++ List.replicate (n - text.length) endChar), t) := by
  induction n generalizing text ended with
  | zero => exact ⟨⟨text, ended⟩, by rw [Nat.zero_sub]; rfl⟩
  | succ n ih =>
      cases text with
      | nil =>
          have first : textReader.get ⟨[], ended⟩ = (.ok endChar, ⟨[], true⟩) := rfl
          obtain ⟨t, rest⟩ := ih [] true
          refine ⟨t, ?_⟩
          rw [readChars, Action.bind_ok first, Action.bind_ok rest]
          simp only [List.take_nil, List.nil_append, List.length_nil, Nat.sub_zero,
            List.replicate_succ]
          rfl
      | cons c text =>
          obtain ⟨t, rest⟩ := ih text ended
          refine ⟨t, ?_⟩
          rw [readChars, Action.bind_ok (Text.get_cons c text ended), Action.bind_ok rest]
          rw [List.take_succ_cons, List.length_cons, Nat.add_sub_add_right, List.cons_append]
          rfl

/-- The bytes stored are those of the declared length only if that many were there. -/
theorem stored_eq_iff (n : Nat) (text : Bytes) (declared : Int) (positive : 0 ≤ declared) :
    text.take n ++ List.replicate (n - text.length) endChar = text.take declared.toNat ↔
      (n : Int) = min declared text.length := by
  constructor
  · intro same
    have lengths := congrArg List.length same
    simp only [List.length_append, List.length_take, List.length_replicate] at lengths
    omega
  · intro same
    rw [show n - text.length = 0 by omega, List.replicate_zero, List.append_nil]
    rcases Int.le_total declared text.length with inside | beyond
    · rw [show declared.toNat = n by omega]
    · rw [List.take_of_length_le (by omega), List.take_of_length_le (by omega)]

/-- `parse_request` refuses the body, or stores exactly what came of the declared length. -/
def BodySent (header : List Node) (declared : Int) (sent : Bytes) (s : Stream) : Prop :=
  ∃ body t, readBody Stream.reader header s = (.ok body, t) ∧
    ∀ bytes, body = some bytes → 0 ≤ declared ∧ bytes = sent.take declared.toNat

section Body

variable {header : List Node} {text : Bytes}
  (given : findValue header (ascii "content-length") = .ok (some text))

include given

/-- The body is what `read_sz` stores. -/
theorem readBody_readSz (t : Text UInt8) :
    (readBody textReader header t).1 = (readSz textReader (atoi text) t).1.map some := by
  have looked : (Action.lift (findValue header (ascii "content-length")) :
      Action (Text UInt8) Fault (Option Bytes)) t = (.ok (some text), t) := by
    rw [given]
    rfl
  rw [readBody, Action.bind_ok looked]
  dsimp only
  rcases read : readSz textReader (atoi text) t with ⟨_ | body, t'⟩
  · rw [Action.bind_error read]
    rfl
  · rw [Action.bind_ok read]
    rfl

theorem bodySent_iff_stored {sent : Bytes} {s : Stream} {ended : Bool} (declared : Int)
    (delivers : Delivers s ⟨sent, ended⟩) :
    BodySent header declared sent s ↔ 0 ≤ atoi text ∧ atoi text + 1 < 2 ^ 31 ∧
      0 ≤ declared ∧ atoi text = min declared sent.length := by
  have same := (delivers.run (readBody_respects deliverySimulation header)).1
  rw [readBody_readSz given] at same
  have sentIff : BodySent header declared sent s ↔
      ∃ body, (readSz textReader (atoi text) ⟨sent, ended⟩).1 = .ok body ∧
        0 ≤ declared ∧ body = sent.take declared.toNat := by
    constructor
    · rintro ⟨body, t, read, exactly⟩
      rw [read] at same
      cases stored : (readSz textReader (atoi text) ⟨sent, ended⟩).1 with
      | error fault =>
          rw [stored] at same
          cases same
      | ok bytes =>
          rw [stored] at same
          exact ⟨bytes, rfl, exactly bytes (Except.ok.inj same)⟩
    · rintro ⟨body, read, exactly⟩
      rw [read] at same
      refine ⟨some body, _, Prod.ext same rfl, fun bytes stored => ?_⟩
      rwa [← Option.some.inj stored]
  rw [sentIff, readSz]
  by_cases large : 2 ^ 31 ≤ atoi text + 1
  · rw [if_pos large]
    constructor
    · rintro ⟨body, read, _⟩
      cases read
    · intro fine
      omega
  rw [if_neg large]
  by_cases negative : atoi text < 0
  · rw [if_pos negative]
    constructor
    · rintro ⟨body, read, _⟩
      cases read
    · intro fine
      omega
  rw [if_neg negative]
  obtain ⟨t, read⟩ := readChars_any (atoi text).toNat sent ended
  rw [read]
  have length : ((atoi text).toNat : Int) = atoi text := by omega
  constructor
  · rintro ⟨body, stored, positive, exactly⟩
    obtain rfl := Except.ok.inj stored
    rw [stored_eq_iff _ _ _ positive, length] at exactly
    exact ⟨by omega, by omega, positive, exactly⟩
  · rintro ⟨_, _, positive, exactly⟩
    refine ⟨_, rfl, positive, ?_⟩
    rw [stored_eq_iff _ _ _ positive, length]
    exact exactly

/-- The body is what was sent exactly if an `int` has room for the declared length and the
terminator and that many bytes came; where fewer came, the conversion to `int` would have to cut
the declared length down to just their number. -/
theorem readBody_sent_iff {sent : Bytes} {s : Stream} {ended : Bool}
    (delivers : Delivers s ⟨sent, ended⟩) :
    BodySent header (declaredLength text) sent s ↔
      0 ≤ declaredLength text ∧ declaredLength text < 2 ^ 63 ∧
        declaredLength text % 2 ^ 32 = min (declaredLength text) sent.length ∧
          min (declaredLength text) sent.length + 1 < 2 ^ 31 := by
  rw [bodySent_iff_stored given _ delivers]
  constructor
  · intro ⟨low, high, positive, same⟩
    obtain ⟨short, modulo⟩ := (atoi_declared_iff positive low high).mp rfl
    exact ⟨positive, short, modulo.trans same, by omega⟩
  · intro ⟨positive, short, modulo, room⟩
    have least : 0 ≤ min (declaredLength text) sent.length := by omega
    have same := (atoi_declared_iff positive least room).mpr ⟨short, modulo⟩
    exact ⟨by omega, by omega, positive, same⟩

end Body

/-- A header with this content length. -/
def lengthHeader (text : Bytes) : List Node := [Node.entry (ascii "content-length", text)]

def bodyChunk : Delivery (ascii "ab") := .single _ (by decide) (by decide)

theorem readBody_sent_iff_sample :
    BodySent (lengthHeader (ascii "2")) (declaredLength (ascii "2")) (ascii "ab")
        bodyChunk.stream ↔
      0 ≤ declaredLength (ascii "2") ∧ declaredLength (ascii "2") < 2 ^ 63 ∧
        declaredLength (ascii "2") % 2 ^ 32 =
            min (declaredLength (ascii "2")) (ascii "ab").length ∧
          min (declaredLength (ascii "2")) (ascii "ab").length + 1 < 2 ^ 31 :=
  readBody_sent_iff (rfl : findValue (lengthHeader (ascii "2")) _ = _) bodyChunk.delivers

/-- A body of two bytes that is announced with three is stored with a byte 0xFF behind it. -/
theorem readBody_sent_short :
    findValue (lengthHeader (ascii "3")) (ascii "content-length") = .ok (some (ascii "3")) ∧
      Delivers bodyChunk.stream ⟨ascii "ab", false⟩ ∧
        (readBody Stream.reader (lengthHeader (ascii "3")) bodyChunk.stream).1 =
            .ok (some (ascii "ab" ++ [endChar])) ∧
          ¬ BodySent (lengthHeader (ascii "3")) (declaredLength (ascii "3")) (ascii "ab")
            bodyChunk.stream := by
  have given : findValue (lengthHeader (ascii "3")) (ascii "content-length") =
      .ok (some (ascii "3")) := rfl
  refine ⟨given, bodyChunk.delivers, ?_, ?_⟩
  · have same := (bodyChunk.delivers.run (readBody_respects deliverySimulation
      (lengthHeader (ascii "3")))).1
    rw [same, readBody_readSz given]
    rfl
  · rw [bodySent_iff_stored given _ bodyChunk.delivers]
    decide

end Ttac
