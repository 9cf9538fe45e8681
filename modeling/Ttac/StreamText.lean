import Ttac.Stream

set_option autoImplicit false

/- The stream over delivered chunks reads as the delivered text does, and what
`get_line` and `read_sz` do on a text. -/
namespace Ttac

open Reading (Reader Action Simulation Text)

/-- A way in which successive `read` calls may deliver `data`. -/
structure Delivery (data : Bytes) where
  chunks : List Chunk
  nonempty : ∀ chunk ∈ chunks, chunk.bytes ≠ []
  whole : (chunks.map Chunk.bytes).flatten = data

def Delivery.stream {data : Bytes} (d : Delivery data) : Stream :=
  streamReadInit (d.chunks.map ReadResult.bytes)

/-- Everything in one `read`. -/
def Delivery.single (data : Bytes) (filled : data ≠ []) (fits : data.length ≤ bufSize) :
    Delivery data where
  chunks := [⟨data, fits⟩]
  nonempty := by simpa using filled
  whole := List.append_nil data

abbrev textReader : Reader Fault endChar (Text UInt8) := Text.reader Fault endChar

/-- The stream still delivers exactly `t`: the rest of its buffer and the chunks behind. -/
structure Delivers (s : Stream) (t : Text UInt8) : Prop where
  ended : t.ended = s.ended
  cursor : 0 ≤ s.cnt ∧ s.cnt ≤ s.len
  stored : s.len ≤ s.buf.length
  small : s.len ≤ bufSize
  pending : ∃ chunks : List Chunk, s.fds = chunks.map ReadResult.bytes ∧
    (∀ chunk ∈ chunks, chunk.bytes ≠ []) ∧
    t.rest = (s.buf.take s.len.toNat).drop s.cnt.toNat ++ (chunks.map Chunk.bytes).flatten

theorem Delivery.delivers {data : Bytes} (d : Delivery data) :
    Delivers d.stream ⟨data, false⟩ := by
  refine ⟨rfl, by simp [stream, streamReadInit], by simp [stream, streamReadInit],
    by simp [stream, streamReadInit], d.chunks, rfl, d.nonempty, ?_⟩
  simp [stream, streamReadInit, d.whole]

/-- Reading from the buffer gives the first byte of what is delivered. -/
theorem fetch_delivers {s : Stream} {t : Text UInt8} (delivers : Delivers s t)
    (more : s.cnt < s.len) :
    ∃ c rest, t.rest = c :: rest ∧ (fetch s).1 = .ok c ∧
      Delivers (fetch s).2 ⟨rest, t.ended⟩ := by
  obtain ⟨ended, cursor, stored, small, chunks, fds, nonempty, pending⟩ := delivers
  have place : s.cnt.toNat < s.buf.length := by omega
  have taken : s.cnt.toNat < (s.buf.take s.len.toNat).length := by
    rw [List.length_take]
    omega
  have bounds : 0 ≤ s.cnt ∧ s.cnt < bufSize := by omega
  refine ⟨s.buf[s.cnt.toNat], (s.buf.take s.len.toNat).drop (s.cnt.toNat + 1) ++
    (chunks.map Chunk.bytes).flatten, ?_, ?_, ?_⟩
  · rw [pending, List.drop_eq_getElem_cons taken, List.getElem_take, List.cons_append]
  · simp only [fetch, bounds, and_self, ↓reduceIte, List.getElem?_eq_getElem place]
  · simp only [fetch, bounds, and_self, ↓reduceIte, List.getElem?_eq_getElem place]
    refine ⟨ended, ?_, stored, small, chunks, fds, nonempty, ?_⟩
    · dsimp only
      omega
    · rw [show (s.cnt + 1).toNat = s.cnt.toNat + 1 by omega]

/-- `get_char` on delivered chunks is the next character of the text. -/
theorem getChar_delivers {s : Stream} {t : Text UInt8} (delivers : Delivers s t) :
    (getChar s).1 = (textReader.next t).1 ∧ Delivers (getChar s).2 (textReader.next t).2 := by
  by_cases drained : s.cnt = s.len
  · obtain ⟨ended, cursor, stored, small, chunks, fds, nonempty, pending⟩ := delivers
    have empty : (s.buf.take s.len.toNat).drop s.cnt.toNat = [] := by
      rw [drained]
      apply List.drop_eq_nil_of_le
      rw [List.length_take]
      omega
    rw [empty, List.nil_append] at pending
    obtain ⟨rest, finished⟩ := t
    cases chunks with
    | nil =>
        obtain rfl : rest = [] := pending
        rw [getChar, if_pos drained]
        simp only [readFds, fds, List.map_nil]
        refine ⟨rfl, rfl, ?_, ?_, ?_, [], rfl, nonempty, ?_⟩ <;> simp [Text.next, Text.reader]
    | cons chunk chunks =>
        have filled : chunk.bytes ≠ [] := nonempty chunk (by simp)
        have positive := List.length_pos_of_ne_nil filled
        have fits := chunk.fits
        have later : Delivers { s with
            fds := chunks.map ReadResult.bytes
            buf := chunk.bytes ++ s.buf.drop chunk.bytes.length
            cnt := 0, len := chunk.bytes.length } ⟨rest, finished⟩ := by
          refine ⟨ended, ?_, ?_, ?_, chunks, rfl,
            fun c member => nonempty c (List.mem_cons_of_mem _ member), ?_⟩
          · dsimp only
            omega
          · simp
          · dsimp only
            omega
          · rw [pending]
            simp
        obtain ⟨c, rest', shape, given, reached⟩ :=
          fetch_delivers later (by dsimp only; omega)
        dsimp only at shape
        subst shape
        rw [getChar, if_pos drained]
        simp only [readFds, fds, List.map_cons, show ¬ chunk.bytes.length = 0 by omega,
          ↓reduceIte]
        exact ⟨given, reached⟩
  · have cursor := delivers.cursor
    obtain ⟨c, rest', shape, given, reached⟩ := fetch_delivers delivers (by omega)
    obtain ⟨rest, finished⟩ := t
    dsimp only at shape
    subst shape
    rw [getChar, if_neg drained]
    exact ⟨given, reached⟩

/-- Streams over delivered chunks are the text they deliver. -/
def deliverySimulation : Simulation Stream.reader textReader where
  rel := Delivers
  ended _ := False
  next _ _ delivers := Or.inr (getChar_delivers delivers)
  ended_next _ never := never

/-- What a stream still delivers is determined. -/
theorem Delivers.unique {s : Stream} {t t' : Text UInt8} (first : Delivers s t)
    (second : Delivers s t') : t = t' := by
  obtain ⟨chunks, fds, -, pending⟩ := first.pending
  obtain ⟨chunks', fds', -, pending'⟩ := second.pending
  have injective : Function.Injective ReadResult.bytes := fun _ _ same => ReadResult.bytes.inj same
  obtain rfl : chunks = chunks' := List.map_injective_iff.mpr injective (fds.symm.trans fds')
  obtain ⟨rest, ended⟩ := t
  obtain ⟨rest', ended'⟩ := t'
  obtain rfl : rest = rest' := pending.trans pending'.symm
  obtain rfl : ended = ended' := first.ended.trans second.ended.symm
  rfl

section Respects

variable {σ τ : Type} {R : Reader Fault endChar σ} {S : Reader Fault endChar τ}
  (sim : Simulation R S) (junk : Junk) (delimiter : Bytes)

theorem getLineLoop_ended (line : Bytes) (sz : Int) (s : σ) (ended : sim.ended s) :
    sim.ended (getLineLoop R junk delimiter line sz s).2 := by
  induction size : R.size s using Nat.strongRecOn generalizing line sz s with
  | ind n ih =>
      rw [getLineLoop]
      split
      · exact ended
      · exact ended
      · split
        · exact ended
        · split
          · exact ended
          · have reached := sim.ended_next s ended
            split
            · rename_i given
              rwa [given] at reached
            · rename_i c s' given
              rw [given] at reached
              split
              · exact reached
              · rename_i other
                have smaller := R.size_lt s c (congrArg Prod.fst given) other
                rw [given] at smaller
                exact ih _ (size ▸ smaller) _ _ s' reached rfl

theorem getLineLoop_agree (line : Bytes) (sz : Int) (s : σ) (t : τ) (related : sim.rel s t) :
    sim.Agree (getLineLoop R junk delimiter line sz s)
      (getLineLoop S junk delimiter line sz t) := by
  induction size : R.size s using Nat.strongRecOn generalizing line sz s t with
  | ind n ih =>
      rw [getLineLoop, getLineLoop]
      cases ends : lineEnds junk line sz delimiter with
      | error f => exact Or.inr ⟨rfl, related⟩
      | ok done =>
          cases done with
          | true => exact Or.inr ⟨rfl, related⟩
          | false =>
              dsimp only
              cases grown : growLine line.length sz with
              | error f => exact Or.inr ⟨rfl, related⟩
              | ok sz' =>
                  dsimp only
                  split
                  · exact Or.inr ⟨rfl, related⟩
                  · rcases left : R.next s with ⟨result, s'⟩
                    rcases right : S.next t with ⟨result', t'⟩
                    have step := sim.next s t related
                    rw [left, right] at step
                    rcases step with finished | ⟨same, related'⟩
                    · left
                      cases result with
                      | error f => exact finished
                      | ok c =>
                          dsimp only
                          split
                          · exact finished
                          · exact getLineLoop_ended sim junk delimiter _ _ s' finished
                    · obtain rfl : result = result' := same
                      cases result with
                      | error f => exact Or.inr ⟨rfl, related'⟩
                      | ok c =>
                          dsimp only
                          split
                          · exact Or.inr ⟨rfl, related'⟩
                          · rename_i other
                            have smaller := R.size_lt s c (congrArg Prod.fst left) other
                            rw [left] at smaller
                            exact ih _ (size ▸ smaller) _ _ s' t' related' rfl

theorem getLine_respects : sim.Respects (getLine R junk delimiter) (getLine S junk delimiter) :=
  Simulation.Respects.bind
    ⟨fun s t => getLineLoop_agree sim junk delimiter [] 10 s t,
      fun s => getLineLoop_ended sim junk delimiter [] 10 s⟩
    (fun _ => sim.respects_lift _)

theorem readChars_respects (sz : Nat) : sim.Respects (readChars R sz) (readChars S sz) := by
  induction sz with
  | zero => exact sim.respects_pure []
  | succ sz ih => exact sim.respects_get.bind (fun c => ih.bind (fun rest => sim.respects_pure _))

theorem readSz_respects (sz : Int) : sim.Respects (readSz R sz) (readSz S sz) := by
  unfold readSz
  split
  · exact sim.respects_lift _
  · split
    · exact sim.respects_lift _
    · exact readChars_respects sim _

end Respects

/-- A program that cannot tell the sources apart does on a stream what it does on its text. -/
theorem Delivers.run {β : Type} {f : Reading.Action Stream Fault β}
    {g : Reading.Action (Text UInt8) Fault β} {s : Stream} {t : Text UInt8}
    (delivers : Delivers s t) (respects : deliverySimulation.Respects f g) :
    (f s).1 = (g t).1 ∧ Delivers (f s).2 (g t).2 := by
  rcases respects.agree s t delivers with never | agree
  · exact never.elim
  · exact agree

/-- So it is enough to see what it does on the text. -/
theorem Delivers.run_iff {β : Type} {f : Reading.Action Stream Fault β}
    {g : Reading.Action (Text UInt8) Fault β} {s : Stream} {t : Text UInt8}
    (delivers : Delivers s t) (respects : deliverySimulation.Respects f g)
    (result : Except Fault β) (w : Bytes) :
    (∃ s' ended, f s = (result, s') ∧ Delivers s' ⟨w, ended⟩) ↔
      ∃ ended, g t = (result, ⟨w, ended⟩) := by
  obtain ⟨same, left⟩ := delivers.run respects
  constructor
  · intro ⟨s', ended, given, leaves⟩
    rw [given] at same left
    exact ⟨ended, Prod.ext same.symm (left.unique leaves)⟩
  · intro ⟨ended, given⟩
    rw [given] at same left
    exact ⟨_, ended, Prod.ext same rfl, left⟩

/-- The delimiter of every `get_line` call of the server. -/
abbrev crlf : Bytes := ascii "\r\n"

theorem lineAt_inside (junk : Junk) (line : Bytes) (sz : Int) (i : Nat) (inside : i < line.length) :
    lineAt junk line sz i = .ok (line.get ⟨i, inside⟩) := by
  have bounds : (0 : Int) ≤ i ∧ (i : Int) < line.length := by omega
  simp only [lineAt, bounds, and_self, ↓reduceDIte, Int.toNat_natCast]

/-- The comparison looks at the last two bytes of the line, then at what is stored behind. -/
theorem lineMatches_two (junk : Junk) (front tail : Bytes) (a b x y : UInt8) (rest : Bytes)
    (sz : Int) :
    lineMatches junk (front ++ [a, b] ++ tail) sz ((front ++ [a, b]).length - 2) (x :: y :: rest) =
      if a = x ∧ b = y then
        lineMatches junk (front ++ [a, b] ++ tail) sz (front ++ [a, b]).length rest
      else .ok false := by
  have length : (front ++ [a, b]).length = front.length + 2 := List.length_append
  have place : ((front ++ [a, b]).length : Int) - 2 = (front.length : Nat) := by omega
  have next : ((front.length : Nat) : Int) + 1 = ((front.length + 1 : Nat) : Int) := by omega
  have behind : ((front.length : Nat) : Int) + 1 + 1 = ((front ++ [a, b]).length : Nat) := by omega
  have atFirst : lineAt junk (front ++ [a, b] ++ tail) sz (front.length : Nat) = .ok a := by
    rw [lineAt_inside _ _ _ _ (by simp only [List.length_append, List.length_cons]; omega)]
    simp
  have atSecond :
      lineAt junk (front ++ [a, b] ++ tail) sz (((front.length : Nat) : Int) + 1) = .ok b := by
    rw [next, lineAt_inside _ _ _ _ (by simp only [List.length_append, List.length_cons]; omega)]
    simp
  rw [place]
  simp only [lineMatches, atFirst, atSecond, behind]
  by_cases first : a = x <;> by_cases second : b = y <;> simp [first, second]

/-- A line of two bytes or more, by its last two. -/
theorem exists_lastTwo {line : Bytes} (two : 2 ≤ line.length) :
    ∃ front a b, line = front ++ [a, b] := by
  refine ⟨line.take (line.length - 2), (line)[line.length - 2], (line)[line.length - 1], ?_⟩
  conv_lhs => rw [← List.take_append_drop (line.length - 2) line]
  rw [List.drop_eq_getElem_cons (by omega), List.drop_eq_getElem_cons (by omega),
    List.drop_eq_nil_of_le (by omega)]
  simp only [show line.length - 2 + 1 = line.length - 1 by omega]

theorem suffix_pair_iff (front : Bytes) (a b x y : UInt8) :
    [x, y] <:+ front ++ [a, b] ↔ a = x ∧ b = y := by
  constructor
  · intro ⟨rest, whole⟩
    have same := List.append_inj_right' whole (by rfl)
    simp only [List.cons.injEq, and_true] at same
    exact ⟨same.1.symm, same.2.symm⟩
  · rintro ⟨rfl, rfl⟩
    exact List.suffix_append _ _

/-- With a delimiter of two bytes the loop stops exactly behind it. -/
theorem lineEnds_pair (junk : Junk) (line : Bytes) (sz : Int) (x y : UInt8) :
    lineEnds junk line sz [x, y] = .ok (decide ([x, y] <:+ line)) := by
  by_cases short : line.length < 2
  · have no : ¬ [x, y] <:+ line := by
      intro ends
      have := ends.length_le
      rw [List.length_cons, List.length_singleton] at this
      omega
    simp only [lineEnds, List.length_cons, List.length_nil, short, ↓reduceIte, no, decide_false]
  · obtain ⟨front, a, b, rfl⟩ := exists_lastTwo (show 2 ≤ line.length by omega)
    have seen := lineMatches_two junk front [] a b x y [] sz
    rw [List.append_nil] at seen
    simp only [lineEnds, List.length_cons, List.length_nil, short, ↓reduceIte, seen,
      suffix_pair_iff]
    by_cases same : a = x ∧ b = y
    · rw [if_pos same, decide_eq_true same]
      rfl
    · rw [if_neg same, decide_eq_false same]

theorem readChars_text (a w : Bytes) (ended : Bool) :
    readChars textReader a.length ⟨a ++ w, ended⟩ = (.ok a, ⟨w, ended⟩) := by
  induction a with
  | nil => rfl
  | cons c a ih =>
      rw [List.length_cons, List.cons_append, readChars,
        Reading.Action.bind_ok (Text.get_cons c (a ++ w) ended), Reading.Action.bind_ok ih]
      rfl

/-- `read_sz` on a text that is long enough. -/
theorem readSz_text (a w : Bytes) (ended : Bool) (short : a.length < 2 ^ 29) :
    readSz textReader a.length ⟨a ++ w, ended⟩ = (.ok a, ⟨w, ended⟩) := by
  rw [readSz, if_neg (by omega), if_neg (by omega), Int.toNat_natCast]
  exact readChars_text a w ended

end Ttac
