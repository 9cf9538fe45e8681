import Ttac.LineLoop

set_option autoImplicit false

/- Every position of its buffer that `get_line` touches, beside the size allocated then. -/
namespace Ttac

open Reading (Action Reader Text)

/-- `line[i]` is read or written while `sz` bytes are allocated, or `sz` grows to `(sz*3)/2`. -/
inductive LineEvent where
  | index (sz i : Int)
  | grow (sz : Int)

/-- The position lies in the allocation; the growth does not overflow, and is one. -/
def LineEvent.Sound : LineEvent → Prop
  | index sz i => 0 ≤ i ∧ i < sz
  | grow sz => sz * 3 < 2 ^ 31 ∧ sz < sz * 3 / 2

/-- Where `strncmp(line+i,delimiter,del_len)` looks. -/
def compareEvents (junk : Junk) (line : Bytes) (sz : Int) : Int → Bytes → List LineEvent
  | _, [] => []
  | i, d :: delimiter =>
    .index sz i ::
      match lineAt junk line sz i with
      | .error _ => []
      | .ok c => if c = d then compareEvents junk line sz (i + 1) delimiter else []

/-- The loop test. -/
def testEvents (junk : Junk) (line : Bytes) (sz : Int) (delimiter : Bytes) : List LineEvent :=
  if line.length < delimiter.length then []
  else compareEvents junk line sz (line.length - 2) delimiter

def growEvents (len : Nat) (sz : Int) : List LineEvent :=
  if len + 1 = sz then [.grow sz] else []

section Source

variable {σ : Type} (R : Reader Fault endChar σ)

/-- The loop of `get_line`, as `getLineLoop` runs it. -/
def lineLoopEvents (junk : Junk) (delimiter line : Bytes) (sz : Int) (s : σ) : List LineEvent :=
  testEvents junk line sz delimiter ++
    match lineEnds junk line sz delimiter with
    | .error _ => []
    | .ok true => []
    | .ok false =>
      growEvents line.length sz ++
        match growLine line.length sz with
        | .error _ => []
        | .ok sz =>
          if sz ≤ line.length then [.index sz line.length]
          else
            match _ : R.next s with
            | (.error _, _) => []
            | (.ok c, s) =>
              -- the store, and the test for the end report behind it
              .index sz line.length ::
                if c = endChar then [] else lineLoopEvents junk delimiter (line ++ [c]) sz s
termination_by R.size s
decreasing_by
  rename_i given other
  have smaller := R.size_lt _ c (congrArg Prod.fst given) other
  rwa [given] at smaller

/-- Behind the loop: the final trim and the terminator. -/
def finishEvents (junk : Junk) (delimiter : Bytes) (filled : FilledLine) : List LineEvent :=
  compareEvents junk filled.line filled.sz (filled.len - 2) delimiter ++
    match lineMatches junk filled.line filled.sz (filled.len - 2) delimiter with
    | .error _ => []
    | .ok hit =>
      [.index filled.sz (if hit then filled.len - delimiter.length else filled.len)]

def getLineEvents (junk : Junk) (delimiter : Bytes) (s : σ) : List LineEvent :=
  lineLoopEvents R junk delimiter [] 10 s ++
    match (getLineLoop R junk delimiter [] 10 s).1 with
    | .error _ => []
    | .ok filled => finishEvents junk delimiter filled

end Source

/-- All positions and growths are sound. -/
def AllSound (events : List LineEvent) : Prop := ∀ event ∈ events, event.Sound

theorem allSound_append {first second : List LineEvent} :
    AllSound (first ++ second) ↔ AllSound first ∧ AllSound second := by
  simp only [AllSound, List.mem_append, or_imp, forall_and]

theorem allSound_cons {event : LineEvent} {events : List LineEvent} :
    AllSound (event :: events) ↔ event.Sound ∧ AllSound events := by
  simp only [AllSound, List.forall_mem_cons]

theorem allSound_nil : AllSound [] := fun _ member => absurd member List.not_mem_nil

/-- The comparison looks at no more positions than the delimiter has bytes. -/
theorem compareEvents_range {junk : Junk} {line delimiter : Bytes} {sz i : Int}
    (low : 0 ≤ i) (high : i + delimiter.length ≤ sz) :
    AllSound (compareEvents junk line sz i delimiter) := by
  induction delimiter generalizing i with
  | nil => exact allSound_nil
  | cons d delimiter ih =>
      rw [List.length_cons] at high
      have later := ih (i := i + 1) (by omega) (by omega)
      rw [compareEvents, allSound_cons]
      refine ⟨⟨low, by omega⟩, ?_⟩
      split
      · exact allSound_nil
      · split
        · exact later
        · exact allSound_nil

theorem testEvents_sound (junk : Junk) {line : Bytes} {sz : Int} (allocated : Allocated line sz) :
    AllSound (testEvents junk line sz crlf) := by
  have fits := allocated.size
  have two : crlf.length = 2 := rfl
  rw [testEvents]
  split
  · exact allSound_nil
  · exact compareEvents_range (by omega) (by omega)

theorem growEvents_sound {line : Bytes} {sz : Int} (allocated : Allocated line sz)
    (short : line.length + 1 < lineLimit) : AllSound (growEvents line.length sz) := by
  obtain ⟨sz', grown, larger⟩ := allocated.grow short 0
  have fits := larger.size
  rw [List.length_append, List.length_singleton] at fits
  rw [growLine] at grown
  rw [growEvents]
  split
  · rename_i full
    rw [if_pos full] at grown
    by_cases overflow : 2 ^ 31 ≤ sz * 3
    · rw [if_pos overflow] at grown
      cases grown
    · rw [if_neg overflow] at grown
      have same := Except.ok.inj grown
      rw [allSound_cons]
      exact ⟨⟨by omega, by omega⟩, allSound_nil⟩
  · exact allSound_nil

section Text

variable (junk : Junk) (ended : Bool)

/-- One more byte, where the loop goes on and the size allows it. -/
theorem lineLoopEvents_step {line : Bytes} {sz : Int} (goesOn : GoesOn junk crlf line)
    (allocated : Allocated line sz) (short : line.length + 1 < lineLimit) (c : UInt8) :
    ∃ sz', Allocated (line ++ [c]) sz' ∧ ∀ s t, textReader.next s = (.ok c, t) →
      (c ≠ endChar → AllSound (lineLoopEvents textReader junk crlf (line ++ [c]) sz' t)) →
        AllSound (lineLoopEvents textReader junk crlf line sz s) := by
  obtain ⟨sz', grown, allocated'⟩ := allocated.grow short c
  have larger := allocated'.size
  rw [List.length_append, List.length_singleton] at larger
  refine ⟨sz', allocated', fun s t read later => ?_⟩
  rw [lineLoopEvents, goesOn sz, allSound_append]
  refine ⟨testEvents_sound junk allocated, ?_⟩
  simp only [grown, show ¬ sz' ≤ (line.length : Int) by omega, ↓reduceIte]
  rw [allSound_append]
  refine ⟨growEvents_sound allocated short, ?_⟩
  split <;> rename_i given <;> rw [read] at given <;> cases given
  rw [allSound_cons]
  refine ⟨⟨by omega, by omega⟩, ?_⟩
  split
  · exact allSound_nil
  · rename_i other
    exact later other

theorem lineLoopEvents_run (w : Bytes) {line rest : Bytes} {sz : Int}
    (allocated : Allocated line sz) (clean : endChar ∉ rest)
    (goesOn : ∀ p, p <+: line ++ rest → p ≠ line ++ rest → GoesOn junk crlf p)
    (short : (line ++ rest).length < lineLimit) :
    ∃ sz', Allocated (line ++ rest) sz' ∧
      (AllSound (lineLoopEvents textReader junk crlf (line ++ rest) sz' ⟨w, ended⟩) →
        AllSound (lineLoopEvents textReader junk crlf line sz ⟨rest ++ w, ended⟩)) := by
  obtain ⟨sz', fits, reached⟩ := loop_run ended
    (P := fun _ line sz s => AllSound (lineLoopEvents textReader junk crlf line sz s))
    (fun line sz c here allocated room => by
      obtain ⟨sz', larger, step⟩ := lineLoopEvents_step junk here allocated room c
      exact ⟨sz', larger, fun _ s t read _ later => step s t read fun _ => later⟩)
    w allocated clean goesOn short
  exact ⟨sz', fits, reached ()⟩

/-- The loop itself touches nothing outside its buffer. -/
theorem lineLoopEvents_sound (data : Bytes)
    (short : (firstLine data ++ lineEnding data).length < lineLimit) :
    AllSound (lineLoopEvents textReader junk crlf [] 10 ⟨data, ended⟩) := by
  have noCrlf := firstLine_noCrlf data
  have clean := firstLine_noEnd data
  rcases firstLine_cases data with ⟨w, whole, stored⟩ | ⟨tail, whole, ends, stored⟩
  · rw [stored] at short
    obtain ⟨sz, allocated, run⟩ := lineLoopEvents_run junk ended w allocated_nil
      (clean_crlf clean) (fun p => goesOn_before junk (at_crlf noCrlf)) short
    rw [List.nil_append] at allocated run
    rw [whole]
    apply run
    have finished : crlf <:+ firstLine data ++ crlf := List.suffix_append _ _
    rw [lineLoopEvents, show lineEnds junk (firstLine data ++ crlf) sz crlf = .ok true from
      (lineEnds_pair ..).trans (congrArg _ (decide_eq_true finished)), List.append_nil]
    exact testEvents_sound junk allocated
  · rw [stored, List.length_append, List.length_singleton] at short
    obtain ⟨sz, allocated, run⟩ := lineLoopEvents_run junk ended tail allocated_nil clean
      (fun p before _ => goesOn_crlf junk noCrlf before)
      (show ([] ++ firstLine data).length < lineLimit by rw [List.nil_append]; omega)
    rw [List.nil_append] at allocated run
    rw [whole]
    apply run
    obtain ⟨sz', -, step⟩ := lineLoopEvents_step junk
      (goesOn_crlf junk noCrlf List.prefix_rfl) allocated short endChar
    have reported : textReader.next ⟨tail, ended⟩ =
        (.ok endChar, (textReader.next ⟨tail, ended⟩).2) := by
      rcases ends with rfl | ⟨w, rfl⟩ <;> rfl
    exact step _ _ reported (fun other => absurd rfl other)

end Text

/-- Trim and terminator stay in the buffer behind two bytes or more. -/
theorem finishEvents_sound (junk : Junk) {line : Bytes} {len : Nat} {sz : Int} (two : 2 ≤ len)
    (fits : (len : Int) < sz) : AllSound (finishEvents junk crlf ⟨len, line, sz⟩) := by
  have length : crlf.length = 2 := rfl
  rw [finishEvents, allSound_append]
  dsimp only
  refine ⟨compareEvents_range (by omega) (by omega), ?_⟩
  split
  · exact allSound_nil
  · rw [allSound_cons]
    refine ⟨?_, allSound_nil⟩
    split
    · exact ⟨by omega, by omega⟩
    · exact ⟨by omega, by omega⟩

/-- With less than two bytes the trim looks before the buffer. -/
theorem finishEvents_unsound (junk : Junk) {line : Bytes} {len : Nat} {sz : Int} (small : len < 2) :
    ¬ AllSound (finishEvents junk crlf ⟨len, line, sz⟩) := by
  intro sound
  rw [finishEvents, allSound_append, show crlf = [chr '\r', chr '\n'] from rfl, compareEvents,
    allSound_cons] at sound
  have low : (0 : Int) ≤ len - 2 := sound.1.1.1
  omega

/-- On a text `get_line` stays in its buffer exactly if its loop stores two bytes or more. -/
theorem getLineEvents_text (junk : Junk) (data : Bytes) (ended : Bool)
    (short : (firstLine data ++ lineEnding data).length < lineLimit) :
    AllSound (getLineEvents textReader junk crlf ⟨data, ended⟩) ↔
      lineEnding data = crlf ∨ 2 ≤ (firstLine data).length := by
  have noCrlf := firstLine_noCrlf data
  have clean := firstLine_noEnd data
  have loop := lineLoopEvents_sound junk ended data short
  rw [getLineEvents, allSound_append, and_iff_right loop]
  rcases firstLine_cases data with ⟨w, whole, stored⟩ | ⟨tail, whole, ends, stored⟩
  · rw [stored] at short
    obtain ⟨sz, fits, looped⟩ := getLineLoop_crlf junk w ended noCrlf clean short
    rw [← whole] at looped
    rw [looped]
    have two : 2 ≤ (firstLine data ++ crlf).length := by
      rw [List.length_append]
      exact Nat.le_add_left ..
    exact iff_of_true (finishEvents_sound junk two fits) (Or.inl stored)
  · have differs : lineEnding data ≠ crlf := by
      rw [stored]
      decide
    rw [stored] at short
    obtain ⟨sz, fits, looped⟩ :=
      getLineLoop_cut ended (fun p => goesOn_crlf junk noCrlf) clean short ends
    rw [← whole] at looped
    rw [looped]
    constructor
    · intro sound
      right
      apply Nat.le_of_not_lt
      exact fun small => finishEvents_unsound junk small sound
    · rintro (same | two)
      · exact absurd same differs
      · exact finishEvents_sound junk two fits

/-- Behind a stream and its text the loop does the same. -/
theorem lineLoopEvents_delivers (junk : Junk) (delimiter line : Bytes) (sz : Int) {s : Stream}
    {t : Text UInt8} (delivers : Delivers s t) :
    lineLoopEvents Stream.reader junk delimiter line sz s =
      lineLoopEvents textReader junk delimiter line sz t := by
  induction size : s.size using Nat.strongRecOn generalizing line sz s t with
  | ind n ih =>
      rw [lineLoopEvents, lineLoopEvents]
      congr 1
      cases lineEnds junk line sz delimiter with
      | error fault => rfl
      | ok done =>
          cases done with
          | true => rfl
          | false =>
              dsimp only
              congr 1
              cases growLine line.length sz with
              | error fault => rfl
              | ok sz' =>
                  dsimp only
                  split
                  · rfl
                  · obtain ⟨same, delivers'⟩ := getChar_delivers delivers
                    rcases left : Stream.reader.next s with ⟨result, s'⟩
                    rcases right : textReader.next t with ⟨result', t'⟩
                    rw [show getChar s = (result, s') from left, right] at same delivers'
                    obtain rfl : result = result' := same
                    cases result with
                    | error fault => rfl
                    | ok c =>
                        dsimp only
                        congr 1
                        split
                        · rfl
                        · rename_i other
                          have smaller :=
                            Stream.reader.size_lt s c (congrArg Prod.fst left) other
                          rw [left] at smaller
                          exact ih _ (size ▸ smaller) _ _ delivers' rfl

theorem getLineEvents_delivers (junk : Junk) (delimiter : Bytes) {s : Stream} {t : Text UInt8}
    (delivers : Delivers s t) :
    getLineEvents Stream.reader junk delimiter s = getLineEvents textReader junk delimiter t := by
  have looped := (delivers.run (f := getLineLoop Stream.reader junk delimiter [] 10)
    (g := getLineLoop textReader junk delimiter [] 10)
    ⟨fun s t => getLineLoop_agree deliverySimulation junk delimiter [] 10 s t,
      fun s => getLineLoop_ended deliverySimulation junk delimiter [] 10 s⟩).1
  rw [getLineEvents, getLineEvents, lineLoopEvents_delivers junk delimiter [] 10 delivers, looped]

/-- Whatever the stream delivers, `get_line` stays in its buffer exactly if the first line has
two bytes or more, or its CRLF came. -/
theorem getLine_indices_iff (junk : Junk) {s : Stream} {data : Bytes} {ended : Bool}
    (delivers : Delivers s ⟨data, ended⟩) (short : (firstLine data).length < 715827882) :
    AllSound (getLineEvents Stream.reader junk crlf s) ↔
      lineEnding data = crlf ∨ 2 ≤ (firstLine data).length := by
  rw [getLineEvents_delivers junk crlf delivers]
  apply getLineEvents_text
  have limit : 715827882 + 2 < lineLimit := by decide
  rw [List.length_append]
  rcases firstLine_cases data with ⟨w, -, stored⟩ | ⟨tail, -, -, stored⟩
  · rw [stored, show crlf.length = 2 from rfl]
    omega
  · rw [stored, List.length_singleton]
    omega

/-- The request line as it comes in one chunk. -/
def lineChunk : Delivery (ascii "GET /" ++ crlf) := .single _ (by decide) (by decide)

theorem getLine_indices_iff_sample :
    AllSound (getLineEvents Stream.reader (some 0) crlf lineChunk.stream) ↔
      lineEnding (ascii "GET /" ++ crlf) = crlf ∨ 2 ≤ (firstLine (ascii "GET /" ++ crlf)).length :=
  getLine_indices_iff (some 0) lineChunk.delivers (by decide)

/-- A connection that is closed at once. -/
def closedAtOnce : Delivery [] := ⟨[], by simp, rfl⟩

/-- The trim of its empty line looks before the buffer. -/
theorem getLine_indices_closed : firstLine [] = [] ∧
    ∀ junk, ¬ AllSound (getLineEvents Stream.reader junk crlf closedAtOnce.stream) := by
  refine ⟨rfl, fun junk sound => ?_⟩
  rw [getLineEvents_delivers junk crlf closedAtOnce.delivers] at sound
  rcases (getLineEvents_text junk [] false (by decide)).mp sound with same | two
  · revert same
    decide
  · revert two
    decide

end Ttac
