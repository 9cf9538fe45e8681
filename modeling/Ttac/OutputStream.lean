import Ttac.CString
import Ttac.Lib.StepMachine

set_option autoImplicit false

/- The writing half of `stream.c`: a buffer that grows by half its size, in an `int`, until the
text to append fits. -/
namespace Ttac

open StepMachine (Step Yields)

/-- `buf` has a cell for every byte allocated, unset until something is stored there. -/
structure OutStream where
  buf : List (Option UInt8)
  cnt : Int
  len : Int

def streamWriteInit : OutStream := ⟨List.replicate 10 none, 0, 10⟩

/-- An `int`, or a sum, as a `size_t`. -/
def sizeT (n : Int) : Int := n % 2 ^ 64

def realloc (buf : List (Option UInt8)) (size : Int) : List (Option UInt8) :=
  buf.take size.toNat ++ List.replicate (size.toNat - buf.length) none

/-- One round of the `while` loop; `s->cnt+len+1` is computed and compared as a `size_t`. -/
def growStep (len : Nat) (s : OutStream) : Step OutStream (Except Fault OutStream) :=
  if sizeT s.len < sizeT (sizeT s.cnt + len + 1) then
    if s.len * 3 < -(2 ^ 31) ∨ 2 ^ 31 ≤ s.len * 3 then .stop (.error (.intOverflow (s.len * 3)))
    else .next { s with len := s.len * 3 / 2, buf := realloc s.buf (s.len * 3 / 2) }
  else .stop (.ok s)

def storeByte (buf : List (Option UInt8)) (i : Int) (c : UInt8) :
    Except Fault (List (Option UInt8)) :=
  if 0 ≤ i ∧ i < buf.length then .ok (buf.set i.toNat (some c)) else .error (.outOfBounds i)

/-- `strncpy(buf+i,str,strlen(str))`, which stores no terminator. -/
def storeBytes (buf : List (Option UInt8)) (i : Int) : Bytes → Except Fault (List (Option UInt8))
  | [] => .ok buf
  | c :: str => do
    let buf ← storeByte buf i c
    storeBytes buf (i + 1) str

/-- What `write_stream` does behind its loop. -/
def storeText (s : OutStream) (str : Bytes) : Except Fault OutStream := do
  let buf ← storeBytes s.buf s.cnt str
  let cnt := (sizeT s.cnt + str.length).bmod (2 ^ 32)
  let buf ← storeByte buf cnt 0
  pure { s with buf := buf, cnt := cnt }

/-- `write_stream`, `none` while its loop has not ended after `fuel` rounds. -/
def writeStream (fuel : Nat) (s : OutStream) (str : Bytes) : Option (Except Fault OutStream) :=
  match StepMachine.run (growStep (cstr str).length) fuel s with
  | none => none
  | some (.error f) => some (.error f)
  | some (.ok s) => some (storeText s (cstr str))

/-- One call after the other. -/
def writeStreams (fuel : Nat) : OutStream → List Bytes → Option (Except Fault OutStream)
  | s, [] => some (.ok s)
  | s, str :: rest =>
    match writeStream fuel s str with
    | none => none
    | some (.error f) => some (.error f)
    | some (.ok s) => writeStreams fuel s rest

/-- The buffer starts with the text, and has room for a terminator. -/
structure Contents (s : OutStream) (text : Bytes) : Prop where
  cnt : s.cnt = text.length
  allocated : s.len = s.buf.length
  room : s.cnt + 1 ≤ s.len
  large : 10 ≤ s.len
  small : s.len < 2 ^ 31
  stored : s.buf.take text.length = text.map some

theorem contents_init : Contents streamWriteInit [] :=
  ⟨rfl, rfl, by decide, by decide, by decide, rfl⟩

theorem realloc_length (buf : List (Option UInt8)) {size : Nat} (grows : buf.length ≤ size) :
    (realloc buf size).length = size := by
  rw [realloc, List.length_append, List.length_take, List.length_replicate]
  omega

theorem realloc_take (buf : List (Option UInt8)) {size n : Nat} (grows : buf.length ≤ size)
    (inside : n ≤ buf.length) : (realloc buf size).take n = buf.take n := by
  rw [realloc, Int.toNat_natCast, List.take_of_length_le grows,
    List.take_append_of_le_length inside]

/-- One round keeps the text and makes the buffer larger. -/
theorem Contents.grow {s : OutStream} {text : Bytes} (contents : Contents s text)
    (short : s.len ≤ 715827882) :
    Contents { s with len := s.len * 3 / 2, buf := realloc s.buf (s.len * 3 / 2) } text := by
  obtain ⟨cnt, allocated, room, large, small, stored⟩ := contents
  have size : s.len * 3 / 2 = ((s.buf.length * 3 / 2 : Nat) : Int) := by omega
  have grows : s.buf.length ≤ s.buf.length * 3 / 2 := by omega
  have length := realloc_length s.buf grows
  refine ⟨cnt, ?_, ?_, ?_, ?_, ?_⟩
  · dsimp only
    rw [size, length]
  · dsimp only
    omega
  · dsimp only
    omega
  · dsimp only
    omega
  · dsimp only
    rw [size, realloc_take s.buf grows (by omega), stored]

/-- The loop ends, with room for the text to come and its terminator. -/
theorem Contents.grown {s : OutStream} {text : Bytes} (contents : Contents s text) (n : Nat)
    (most : text.length + n ≤ 715827882) :
    ∃ t, Yields (growStep n) s (.ok t) ∧ Contents t text ∧ t.cnt + n + 1 ≤ t.len := by
  induction gap : (s.cnt + n + 1 - s.len).toNat using Nat.strongRecOn generalizing s with
  | ind k ih =>
      have ⟨cnt, allocated, room, large, small, stored⟩ := contents
      have used : sizeT s.cnt = s.cnt := by
        rw [sizeT]
        omega
      have needed : sizeT (sizeT s.cnt + n + 1) = s.cnt + n + 1 := by
        rw [used, sizeT]
        omega
      have present : sizeT s.len = s.len := by
        rw [sizeT]
        omega
      by_cases enough : s.cnt + n + 1 ≤ s.len
      · refine ⟨s, Yields.of_stop ?_, contents, enough⟩
        rw [growStep, needed, present, if_neg (by omega)]
      · have goes : growStep n s =
            .next { s with len := s.len * 3 / 2, buf := realloc s.buf (s.len * 3 / 2) } := by
          rw [growStep, needed, present, if_pos (by omega), if_neg (by omega)]
        have closer : (s.cnt + n + 1 - s.len * 3 / 2).toNat < k := by omega
        obtain ⟨t, yields, reached⟩ := ih _ closer (contents.grow (by omega)) rfl
        exact ⟨t, (StepMachine.yields_iff_of_goes goes _).mpr yields, reached⟩

theorem storeByte_inside (front back : List (Option UInt8)) (cell : Option UInt8) (c : UInt8) :
    storeByte (front ++ cell :: back) front.length c = .ok (front ++ some c :: back) := by
  rw [storeByte, if_pos, Int.toNat_natCast, List.set_append_right _ _ (Nat.le_refl _),
    Nat.sub_self, List.set_cons_zero]
  rw [List.length_append, List.length_cons]
  omega

/-- The text goes into the cells behind `front`. -/
theorem storeBytes_inside (front cells back : List (Option UInt8)) (str : Bytes)
    (fits : cells.length = str.length) :
    storeBytes (front ++ cells ++ back) front.length str =
      .ok (front ++ str.map some ++ back) := by
  induction str generalizing front cells with
  | nil =>
      obtain rfl := List.eq_nil_of_length_eq_zero fits
      rfl
  | cons c str ih =>
      cases cells with
      | nil => cases fits
      | cons cell cells =>
          have first := storeByte_inside front (cells ++ back) cell c
          have rest := ih (front ++ [some c]) cells (Nat.succ.inj fits)
          have shape : front ++ cell :: cells ++ back = front ++ cell :: (cells ++ back) := by simp
          have shape' :
              front ++ some c :: (cells ++ back) = front ++ [some c] ++ cells ++ back := by
            simp
          rw [List.length_append, List.length_singleton] at rest
          rw [shape, storeBytes, first, shape']
          simp only [bind, Except.bind]
          rw [show ((front.length : Int) + 1) = ((front.length + 1 : Nat) : Int) by omega, rest]
          simp

/-- The buffer holds exactly the text and a terminator. -/
structure Holds (s : OutStream) (text : Bytes) : Prop where
  cnt : s.cnt = text.length
  allocated : s.len = s.buf.length
  room : s.cnt + 1 ≤ s.len
  stored : s.buf.take (text.length + 1) = (text ++ [0]).map some

/-- `s->cnt+len+1` is no larger than a `size_t`, and `s->cnt+len` is an `int`. -/
def NoWrap (s : OutStream) (len : Nat) : Prop :=
  0 ≤ s.cnt ∧ s.cnt + len + 1 < 2 ^ 64 ∧ s.cnt + len < 2 ^ 31

/-- The buffer in three parts: the text, the cells for more of it, and what is left. -/
theorem Contents.split {s : OutStream} {text : Bytes} (contents : Contents s text) {n : Nat}
    (room : s.cnt + n + 1 ≤ s.len) :
    ∃ cells cell back, s.buf = text.map some ++ cells ++ cell :: back ∧ cells.length = n := by
  obtain ⟨cnt, allocated, -, -, -, stored⟩ := contents
  have behind : n < (s.buf.drop text.length).length := by
    rw [List.length_drop]
    omega
  have cells : ((s.buf.drop text.length).take n).length = n := by
    rw [List.length_take]
    omega
  refine ⟨(s.buf.drop text.length).take n, (s.buf.drop text.length)[n],
    (s.buf.drop text.length).drop (n + 1), ?_, cells⟩
  rw [← List.drop_eq_getElem_cons behind, ← stored, List.append_assoc, List.take_append_drop,
    List.take_append_drop]

/-- Where there is room, the text is appended. -/
theorem storeText_appends {s : OutStream} {text str : Bytes} (contents : Contents s text)
    (room : s.cnt + str.length + 1 ≤ s.len) :
    ∃ t, storeText s str = .ok t ∧ Contents t (text ++ str) ∧ Holds t (text ++ str) := by
  obtain ⟨cells, cell, back, shape, fits⟩ := contents.split room
  obtain ⟨cnt, allocated, -, large, small, -⟩ := contents
  have stored := storeBytes_inside (text.map some) cells (cell :: back) str fits
  rw [List.length_map, ← shape, ← cnt] at stored
  have terminated := storeByte_inside (text.map some ++ str.map some) back cell 0
  have place : (((text.map some ++ str.map some : List (Option UInt8)).length : Nat) : Int) =
      s.cnt + str.length := by
    rw [List.length_append, List.length_map, List.length_map, cnt]
    omega
  rw [place] at terminated
  have moved : (sizeT s.cnt + str.length).bmod (2 ^ 32) = s.cnt + str.length := by
    have used : sizeT s.cnt = s.cnt := by
      rw [sizeT]
      omega
    rw [used]
    exact Int.bmod_eq_of_le (by omega) (by omega)
  have lengths := congrArg List.length shape
  simp only [List.length_append, List.length_cons, List.length_map] at lengths
  have total : (text ++ str).length = text.length + str.length := List.length_append
  refine ⟨⟨text.map some ++ str.map some ++ some 0 :: back, s.cnt + str.length, s.len⟩,
    ?_, ?_, ?_⟩
  · rw [storeText, stored]
    simp only [bind, Except.bind, moved, terminated]
    rfl
  · refine ⟨?_, ?_, ?_, large, small, ?_⟩
    · dsimp only
      omega
    · simp only [List.length_append, List.length_cons, List.length_map]
      omega
    · dsimp only
      omega
    · dsimp only
      rw [← List.map_append]
      exact List.take_left' (List.length_map ..)
  · refine ⟨?_, ?_, ?_, ?_⟩
    · dsimp only
      omega
    · simp only [List.length_append, List.length_cons, List.length_map]
      omega
    · dsimp only
      omega
    · have cells : text.map some ++ str.map some ++ some 0 :: back =
          (text ++ str ++ [0]).map some ++ back := by simp
      dsimp only
      rw [cells]
      apply List.take_left'
      simp only [List.length_map, List.length_append, List.length_singleton]

/-- One call: the loop ends, nothing overflows, and the text is appended. -/
theorem Contents.write {s : OutStream} {text : Bytes} (contents : Contents s text) (str : Bytes)
    (most : (text ++ cstr str).length ≤ 715827882) :
    NoWrap s (cstr str).length ∧ ∃ fuel t, writeStream fuel s str = some (.ok t) ∧
      Contents t (text ++ cstr str) ∧ Holds t (text ++ cstr str) := by
  rw [List.length_append] at most
  have cnt := contents.cnt
  constructor
  · rw [NoWrap]
    omega
  · obtain ⟨grown, ⟨fuel, looped⟩, contents', room⟩ := contents.grown (cstr str).length most
    obtain ⟨t, stored, held⟩ := storeText_appends contents' room
    refine ⟨fuel, t, ?_, held⟩
    rw [writeStream, looped]
    exact congrArg some stored

theorem writeStream_mono {fuel more : Nat} {s : OutStream} {str : Bytes}
    {result : Except Fault OutStream} (given : writeStream fuel s str = some result)
    (le : fuel ≤ more) : writeStream more s str = some result := by
  rw [writeStream] at given ⊢
  cases looped : StepMachine.run (growStep (cstr str).length) fuel s with
  | none =>
      rw [looped] at given
      cases given
  | some grown =>
      rw [StepMachine.run_mono looped le]
      rwa [looped] at given

theorem writeStreams_mono {fuel more : Nat} {s : OutStream} {texts : List Bytes}
    {result : Except Fault OutStream} (given : writeStreams fuel s texts = some result)
    (le : fuel ≤ more) : writeStreams more s texts = some result := by
  induction texts generalizing s with
  | nil => exact given
  | cons str texts ih =>
      rw [writeStreams] at given ⊢
      cases first : writeStream fuel s str with
      | none =>
          rw [first] at given
          cases given
      | some outcome =>
          rw [writeStream_mono first le]
          rw [first] at given
          cases outcome with
          | error f => exact given
          | ok t => exact ih given

/-- A run of calls keeps the buffer's contents. -/
theorem Contents.writes {s : OutStream} {text : Bytes} (contents : Contents s text)
    (texts : List Bytes) (most : (text ++ (texts.map cstr).flatten).length ≤ 715827882) :
    ∃ fuel t, writeStreams fuel s texts = some (.ok t) ∧
      Contents t (text ++ (texts.map cstr).flatten) := by
  induction texts generalizing s text with
  | nil => exact ⟨0, s, rfl, by rwa [List.map_nil, List.flatten_nil, List.append_nil]⟩
  | cons str texts ih =>
      rw [List.map_cons, List.flatten_cons, ← List.append_assoc] at most ⊢
      have shorter : (text ++ cstr str).length ≤ 715827882 := by
        rw [List.length_append] at most
        omega
      obtain ⟨-, fuel, s', first, contents', -⟩ := contents.write str shorter
      obtain ⟨more, t, later, reached⟩ := ih contents' most
      refine ⟨max fuel more, t, ?_, reached⟩
      rw [writeStreams, writeStream_mono first (Nat.le_max_left ..)]
      exact writeStreams_mono later (Nat.le_max_right ..)

/-- Whatever is written behind `stream_write_init`, up to the limit: every call ends, computes
without overflow, stores inside its allocation and leaves exactly what was written so far. -/
theorem writeStream_appends (texts : List Bytes) (str : Bytes)
    (most : (((texts ++ [str]).map cstr).flatten).length ≤ 715827882) :
    ∃ fuel s t, writeStreams fuel streamWriteInit texts = some (.ok s) ∧
      NoWrap s (cstr str).length ∧ writeStream fuel s str = some (.ok t) ∧
        Holds t ((texts ++ [str]).map cstr).flatten := by
  have shape : ((texts ++ [str]).map cstr).flatten = (texts.map cstr).flatten ++ cstr str := by
    simp
  rw [shape] at most ⊢
  have before : ([] ++ (texts.map cstr).flatten).length ≤ 715827882 := by
    rw [List.length_append] at most
    rw [List.nil_append]
    omega
  obtain ⟨fuel, s, written, contents⟩ := contents_init.writes texts before
  rw [List.nil_append] at contents
  obtain ⟨noWrap, more, t, last, -, holds⟩ := contents.write str most
  exact ⟨max fuel more, s, t, writeStreams_mono written (Nat.le_max_left ..), noWrap,
    writeStream_mono last (Nat.le_max_right ..), holds⟩

theorem writeStream_appends_sample :
    ∃ fuel s t, writeStreams fuel streamWriteInit [ascii "[", ascii "\x7b\"id\":1\x7d"] =
        some (.ok s) ∧
      NoWrap s (cstr (ascii "]")).length ∧ writeStream fuel s (ascii "]") = some (.ok t) ∧
        Holds t (([ascii "[", ascii "\x7b\"id\":1\x7d"] ++ [ascii "]"]).map cstr).flatten :=
  writeStream_appends [ascii "[", ascii "\x7b\"id\":1\x7d"] (ascii "]") (by decide)

end Ttac
