import Ttac.CString
import Ttac.Lib.Reader

set_option autoImplicit false

/- The reading half of `stream.c`. `get_line` and `read_sz` use the stream through
`get_char` only, so they are stated over any source of characters. -/
namespace Ttac

open Reading (Reader Action)

def bufSize : Nat := 1024

/-- The bytes one successful `read` stores. -/
structure Chunk where
  bytes : Bytes
  fits : bytes.length ≤ bufSize

/-- What a `read` call returns: some bytes (none of them at the end of input), or `-1`. -/
inductive ReadResult where
  | bytes (chunk : Chunk)
  | error

/-- `buf` lists the bytes of the buffer that were ever stored. `fds` holds what the
coming `read` calls return, and afterwards they return 0; `ended` remembers whether
some call returned 0 or `-1`. -/
structure Stream where
  fds : List ReadResult
  buf : Bytes
  cnt : Int
  len : Int
  ended : Bool

def streamReadInit (fds : List ReadResult) : Stream := ⟨fds, [], 0, 0, false⟩

/-- `read_fds(s)!=0`, and the stream it leaves. -/
def readFds (s : Stream) : Bool × Stream :=
  match s.fds with
  | [] => (true, { s with cnt := 0, len := 0, ended := true })
  | .error :: fds => (true, { s with fds := fds, cnt := 0, len := -1, ended := true })
  | .bytes chunk :: fds =>
    if chunk.bytes.length = 0 then
      (true, { s with fds := fds, cnt := 0, len := 0, ended := true })
    else
      (false, { s with
        fds := fds, buf := chunk.bytes ++ s.buf.drop chunk.bytes.length, cnt := 0,
        len := chunk.bytes.length })

/-- `s->buf[s->cnt++]`. -/
def fetch (s : Stream) : Except Fault UInt8 × Stream :=
  if 0 ≤ s.cnt ∧ s.cnt < bufSize then
    match s.buf[s.cnt.toNat]? with
    | some c => (.ok c, { s with cnt := s.cnt + 1 })
    | none => (.error (.uninitialized s.cnt), s)
  else (.error (.outOfBounds s.cnt), s)

/-- The `char` value `-1`, which reports the end of input. -/
abbrev endChar : UInt8 := 0xFF

def getChar (s : Stream) : Except Fault UInt8 × Stream :=
  if s.cnt = s.len then
    match readFds s with
    | (true, s) => (.ok endChar, s)
    | (false, s) => fetch s
  else fetch s

/-- Every `read` still to come counts for a whole buffer. -/
def Stream.size (s : Stream) : Nat :=
  (bufSize + 1) * s.fds.length + if s.cnt = s.len then 0 else (bufSize - s.cnt).toNat

theorem fetch_size (s : Stream) :
    (fetch s).2.size ≤ (bufSize + 1) * s.fds.length + (bufSize - s.cnt).toNat ∧
      ∀ c, (fetch s).1 = .ok c →
        (fetch s).2.size < (bufSize + 1) * s.fds.length + (bufSize - s.cnt).toNat := by
  unfold fetch
  split
  · split
    · refine ⟨?_, fun c _ => ?_⟩ <;> dsimp only [Stream.size] <;> split <;> omega
    · refine ⟨?_, fun c given => by cases given⟩
      dsimp only [Stream.size]
      split <;> omega
  · refine ⟨?_, fun c given => by cases given⟩
    dsimp only [Stream.size]
    split <;> omega

theorem getChar_size (s : Stream) :
    (getChar s).2.size ≤ s.size ∧
      ∀ c, (getChar s).1 = .ok c → c ≠ endChar → (getChar s).2.size < s.size := by
  by_cases drained : s.cnt = s.len
  · have before : s.size = (bufSize + 1) * s.fds.length := by
      simp only [Stream.size, drained, ↓reduceIte, Nat.add_zero]
    rw [getChar, if_pos drained]
    rcases fds : s.fds with _ | ⟨result, fds'⟩
    · simp only [readFds, fds]
      refine ⟨?_, fun c given other => absurd (Except.ok.inj given).symm other⟩
      dsimp only [Stream.size]
      simp
    · have room : (bufSize + 1) * s.fds.length = (bufSize + 1) * fds'.length + (bufSize + 1) := by
        rw [fds, List.length_cons, Nat.mul_add, Nat.mul_one]
      cases result with
      | error =>
          simp only [readFds, fds]
          refine ⟨?_, fun c given other => absurd (Except.ok.inj given).symm other⟩
          rw [before, room]
          simp [Stream.size]
      | bytes chunk =>
          by_cases empty : chunk.bytes.length = 0
          · simp only [readFds, fds, empty, ↓reduceIte]
            refine ⟨?_, fun c given other => absurd (Except.ok.inj given).symm other⟩
            rw [before, room]
            simp [Stream.size]
          · simp only [readFds, fds, empty, ↓reduceIte]
            have fetched := fetch_size { s with
              fds := fds', buf := chunk.bytes ++ s.buf.drop chunk.bytes.length, cnt := 0,
              len := chunk.bytes.length }
            dsimp only at fetched
            rw [before, room]
            exact ⟨by omega, fun c given _ => by have := fetched.2 c given; omega⟩
  · have before : s.size = (bufSize + 1) * s.fds.length + (bufSize - s.cnt).toNat := by
      simp only [Stream.size, drained, ↓reduceIte]
    rw [getChar, if_neg drained, before]
    exact ⟨(fetch_size s).1, fun c given _ => (fetch_size s).2 c given⟩

/-- The stream as a source of characters. -/
def Stream.reader : Reader Fault endChar Stream where
  next := getChar
  size := Stream.size
  size_le s := (getChar_size s).1
  size_lt s := (getChar_size s).2

/-- What reading a byte that nobody stored gives: a byte, or a fault. The C standard
allows anything, so results are stated for any choice. -/
abbrev Junk := Option UInt8

/-- `line[i]` for the reads of `get_line`, which may look at the two bytes before its
buffer; `sz` bytes are allocated. -/
def lineAt (junk : Junk) (line : Bytes) (sz i : Int) : Except Fault UInt8 :=
  if inside : 0 ≤ i ∧ i < line.length then .ok (line.get ⟨i.toNat, by omega⟩)
  else if -2 ≤ i ∧ i < sz then
    match junk with
    | some byte => .ok byte
    | none => .error (.uninitialized i)
  else .error (.outOfBounds i)

/-- `strncmp(line+i,delimiter,del_len)==0`, byte by byte up to the first difference. -/
def lineMatches (junk : Junk) (line : Bytes) (sz : Int) : Int → Bytes → Except Fault Bool
  | _, [] => .ok true
  | i, d :: delimiter =>
    match lineAt junk line sz i with
    | .error f => .error f
    | .ok c => if c = d then lineMatches junk line sz (i + 1) delimiter else .ok false

/-- The negated loop condition: the look-back is by 2, whatever the delimiter. -/
def lineEnds (junk : Junk) (line : Bytes) (sz : Int) (delimiter : Bytes) : Except Fault Bool :=
  if line.length < delimiter.length then .ok false
  else lineMatches junk line sz (line.length - 2) delimiter

/-- The allocation before `line[len]` is stored. -/
def growLine (len : Nat) (sz : Int) : Except Fault Int :=
  if len + 1 = sz then
    if 2 ^ 31 ≤ sz * 3 then .error (.intOverflow (sz * 3)) else .ok (sz * 3 / 2)
  else .ok sz

/-- The state in which the loop of `get_line` is left: `len`, and the bytes stored,
which after a `break` include the end report at `line[len]`. -/
structure FilledLine where
  len : Nat
  line : Bytes
  sz : Int

section Source

variable {σ : Type} (R : Reader Fault endChar σ)

def getLineLoop (junk : Junk) (delimiter line : Bytes) (sz : Int) (s : σ) :
    Except Fault FilledLine × σ :=
  match lineEnds junk line sz delimiter with
  | .error f => (.error f, s)
  | .ok true => (.ok ⟨line.length, line, sz⟩, s)
  | .ok false =>
    match growLine line.length sz with
    | .error f => (.error f, s)
    | .ok sz =>
      if sz ≤ line.length then (.error (.outOfBounds line.length), s)
      else
        match _ : R.next s with
        | (.error f, s) => (.error f, s)
        | (.ok c, s) =>
          if c = endChar then (.ok ⟨line.length, line ++ [c], sz⟩, s)
          else getLineLoop junk delimiter (line ++ [c]) sz s
termination_by R.size s
decreasing_by
  rename_i given other
  have smaller := R.size_lt _ c (congrArg Prod.fst given) other
  rwa [given] at smaller

/-- `get_line` behind its loop: the trim, the terminator and the test for an empty line.
The returned bytes are those before the terminator it stores. -/
def finishLine (junk : Junk) (delimiter : Bytes) (filled : FilledLine) :
    Except Fault (Option Bytes) :=
  match lineMatches junk filled.line filled.sz (filled.len - 2) delimiter with
  | .error f => .error f
  | .ok hit =>
    let len : Int := if hit then filled.len - delimiter.length else filled.len
    if len < 0 ∨ filled.sz ≤ len then .error (.outOfBounds len)
    else
      let line := filled.line.take len.toNat
      if len = 0 ∨ cstr line = delimiter then .ok none else .ok (some line)

theorem finishLine_some (junk : Junk) (delimiter line : Bytes) (filled : FilledLine)
    (finished : finishLine junk delimiter filled = .ok (some line)) : 0 < filled.len := by
  rcases Nat.eq_zero_or_pos filled.len with empty | positive
  · unfold finishLine at finished
    split at finished
    · cases finished
    · rename_i hit _
      cases hit <;> simp only [empty, ↓reduceIte, Bool.false_eq_true] at finished <;>
        split at finished
      · cases finished
      · rw [if_pos (Or.inl (by omega))] at finished
        cases finished
      · cases finished
      · rw [if_pos (Or.inl (by omega))] at finished
        cases finished
  · exact positive

def getLine (junk : Junk) (delimiter : Bytes) : Action σ Fault (Option Bytes) := do
  let filled ← getLineLoop R junk delimiter [] 10
  Action.lift (finishLine junk delimiter filled)

theorem getLineLoop_size (junk : Junk) (delimiter line : Bytes) (sz : Int) (s t : σ)
    (filled : FilledLine) (done : getLineLoop R junk delimiter line sz s = (.ok filled, t)) :
    R.size t ≤ R.size s ∧ (line.length < filled.len → R.size t < R.size s) := by
  induction size : R.size s using Nat.strongRecOn generalizing line sz s with
  | ind n ih =>
      rw [getLineLoop] at done
      split at done
      · cases done
      · cases done
        exact ⟨by omega, fun more => absurd more (Nat.lt_irrefl _)⟩
      · split at done
        · cases done
        · split at done
          · cases done
          · split at done
            · cases done
            · rename_i c s' given
              split at done
              · cases done
                have kept := R.size_le s
                rw [given] at kept
                dsimp only at kept
                exact ⟨by omega, fun more => absurd more (Nat.lt_irrefl _)⟩
              · rename_i other
                have smaller := R.size_lt s c (congrArg Prod.fst given) other
                rw [given] at smaller
                have later := (ih _ (size ▸ smaller) _ _ s' done rfl).1
                dsimp only at smaller
                exact ⟨by omega, fun _ => by omega⟩

/-- A line that is returned has used up input. -/
theorem getLine_size (junk : Junk) (delimiter line : Bytes) (s t : σ)
    (given : getLine R junk delimiter s = (.ok (some line), t)) : R.size t < R.size s := by
  rcases looped : getLineLoop R junk delimiter [] 10 s with ⟨_ | filled, s'⟩
  · rw [getLine, Action.bind_error looped] at given
    cases given
  · rw [getLine, Action.bind_ok looped] at given
    obtain ⟨finished, rfl⟩ := Prod.mk.inj given
    have filledUp := finishLine_some junk delimiter line filled finished
    exact (getLineLoop_size R junk delimiter [] 10 s s' filled looped).2 filledUp

def readChars : Nat → Action σ Fault Bytes
  | 0 => pure []
  | sz + 1 => do
    let c ← R.get
    let rest ← readChars sz
    pure (c :: rest)

/-- `read_sz`: a negative size leaves only the store at `buf[sz]`. -/
def readSz (sz : Int) : Action σ Fault Bytes :=
  if 2 ^ 31 ≤ sz + 1 then Action.lift (.error (.intOverflow (sz + 1)))
  else if sz < 0 then Action.lift (.error (.outOfBounds sz))
  else readChars R sz.toNat

end Source

end Ttac
