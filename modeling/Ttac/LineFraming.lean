import Ttac.LineLoop

set_option autoImplicit false

/- Which lines `get_line` frames: all of them with CRLF unless they contain the byte that
reports the end, but hardly any with a delimiter of another length. -/
namespace Ttac

open Reading (Action Text)

/-- `get_line` returns `u`, or `NULL` for the empty line, and leaves the stream at `w`. -/
def ReadsLine (junk : Junk) (delimiter u w : Bytes) (s : Stream) : Prop :=
  ∃ t ended, getLine Stream.reader junk delimiter s =
    (.ok (if u = [] then none else some u), t) ∧ Delivers t ⟨w, ended⟩

theorem readsLine_iff {junk : Junk} {delimiter u w : Bytes} {s : Stream} {t : Text UInt8}
    (delivers : Delivers s t) :
    ReadsLine junk delimiter u w s ↔ ∃ ended, getLine textReader junk delimiter t =
      (.ok (if u = [] then none else some u), ⟨w, ended⟩) :=
  delivers.run_iff (getLine_respects deliverySimulation junk delimiter) _ w

section Framing

variable (junk : Junk) {s : Stream} {u w : Bytes} {ended : Bool}

theorem readsLine_of_clean (delivers : Delivers s ⟨u ++ crlf ++ w, ended⟩)
    (noCrlf : ¬ crlf <:+: u) (clean : endChar ∉ u) (short : (u ++ crlf).length < lineLimit) :
    ReadsLine junk crlf u w s :=
  (readsLine_iff delivers).mpr ⟨ended, getLine_crlf junk w ended noCrlf clean short⟩

/-- At a byte 0xFF the loop breaks off, as at the end of the input. -/
theorem not_readsLine_of_end (delivers : Delivers s ⟨u ++ crlf ++ w, ended⟩)
    (noCrlf : ¬ crlf <:+: u) (short : (u ++ crlf).length < lineLimit) (dirty : endChar ∈ u) :
    ¬ ReadsLine junk crlf u w s := by
  intro reads
  obtain ⟨ended', given⟩ := (readsLine_iff delivers).mp reads
  obtain ⟨before, rest, rfl, clean⟩ := List.eq_append_cons_of_mem dirty
  have shorter : before <+: before ++ endChar :: rest := List.prefix_append _ _
  have lengths : (before ++ endChar :: rest).length = before.length + (rest.length + 1) :=
    List.length_append
  have room : (before ++ [endChar]).length < lineLimit := by
    rw [List.length_append, List.length_singleton]
    rw [List.length_append, lengths] at short
    omega
  obtain ⟨sz, -, looped⟩ := getLineLoop_cut ended
    (fun p inside => goesOn_crlf junk noCrlf (inside.trans shorter)) clean room
    (Or.inr ⟨rest ++ crlf ++ w, rfl⟩)
  have shape : before ++ endChar :: (rest ++ crlf ++ w) =
      before ++ endChar :: rest ++ crlf ++ w := by simp
  rw [shape] at looped
  rw [getLine, Action.bind_ok looped, if_neg (by simp)] at given
  have most := finishLine_length (Prod.mk.inj given).1
  dsimp only at most
  omega

/-- A line that has no CRLF in it is framed exactly if it has no byte 0xFF either. -/
theorem getLine_framing_iff (delivers : Delivers s ⟨u ++ crlf ++ w, ended⟩)
    (noCrlf : ¬ crlf <:+: u) (short : u.length < 2 ^ 29) :
    ReadsLine junk crlf u w s ↔ endChar ∉ u := by
  have fits : (u ++ crlf).length < lineLimit := by
    have room : 2 ^ 29 + 2 < lineLimit := by decide
    rw [List.length_append, show crlf.length = 2 from rfl]
    omega
  constructor
  · intro reads dirty
    exact not_readsLine_of_end junk delivers noCrlf fits dirty reads
  · intro clean
    exact readsLine_of_clean junk delivers noCrlf clean fits

end Framing

/-- A request line, delivered in one chunk with what follows it. -/
def requestChunk : Delivery (ascii "GET /" ++ crlf ++ ascii "host") :=
  .single _ (by decide) (by decide)

theorem getLine_framing_iff_sample :
    ReadsLine none crlf (ascii "GET /") (ascii "host") requestChunk.stream ↔
      endChar ∉ ascii "GET /" :=
  getLine_framing_iff none requestChunk.delivers (by decide) (by decide)

/-- A line with the byte 0xFF in it. -/
def ffLine : Bytes := [chr 'a', endChar, chr 'b']

def ffChunk : Delivery (ffLine ++ crlf ++ ascii "host") := .single _ (by decide) (by decide)

theorem getLine_framing_ff : ¬ crlf <:+: ffLine ∧ ffLine.length < 2 ^ 29 ∧
    Delivers ffChunk.stream ⟨ffLine ++ crlf ++ ascii "host", false⟩ ∧
      ∀ junk, ¬ ReadsLine junk crlf ffLine (ascii "host") ffChunk.stream :=
  ⟨by decide, by decide, ffChunk.delivers, fun junk =>
    not_readsLine_of_end junk ffChunk.delivers (by decide) (by decide) (by decide)⟩

section Delimiter

variable {s : Stream} {delimiter u w : Bytes} {ended : Bool}

theorem readsLine_of_two (two : delimiter.length = 2) (noEnd : endChar ∉ delimiter)
    (clean : endChar ∉ u) (first : Leftmost.At delimiter (u ++ delimiter) u.length)
    (delivers : Delivers s ⟨u ++ delimiter ++ w, ended⟩) :
    ReadsLine none delimiter u w s ↔ (u ++ delimiter).length < lineLimit := by
  obtain ⟨x, y, rfl⟩ := List.length_eq_two.mp two
  have clean' : endChar ∉ u ++ [x, y] := by
    rw [List.mem_append, not_or]
    exact ⟨clean, noEnd⟩
  rw [readsLine_iff delivers]
  constructor
  · intro ⟨ended', given⟩
    apply Nat.lt_of_not_le
    intro long
    obtain ⟨fault, t, failed⟩ := getLine_tooLong none ended w first clean' long
    rw [failed] at given
    cases given
  · intro short
    exact ⟨ended, getLine_closed none ended w first clean' short⟩

theorem lineEnds_one (x c : UInt8) (sz : Int) :
    ∃ fault, lineEnds none [c] sz [x] = .error fault := by
  by_cases inside : (-1 : Int) < sz
  · exact ⟨.uninitialized (-1), by simp [lineEnds, lineMatches, lineAt, inside]⟩
  · exact ⟨.outOfBounds (-1), by simp [lineEnds, lineMatches, lineAt, inside]⟩

/-- With a delimiter of one byte the first comparison looks before the line. -/
theorem getLine_one (x c : UInt8) (rest : Bytes) (other : c ≠ endChar) :
    ∃ fault t, getLine textReader none [x] ⟨c :: rest, ended⟩ = (.error fault, t) := by
  have start : GoesOn none [x] [] := goesOn_short none (Nat.zero_lt_succ _)
  obtain ⟨sz, -, step⟩ := getLineLoop_step (start 10) allocated_nil (by decide) c
  obtain ⟨fault, before⟩ := lineEnds_one x c sz
  have looped := step _ _ (Text.next_cons c rest ended)
  rw [if_neg other, List.nil_append, getLineLoop_error before] at looped
  exact ⟨fault, _, by rw [getLine, Action.bind_error looped]⟩

theorem not_readsLine_of_one (one : delimiter.length = 1) (noEnd : endChar ∉ delimiter)
    (clean : endChar ∉ u) (delivers : Delivers s ⟨u ++ delimiter ++ w, ended⟩) :
    ¬ ReadsLine none delimiter u w s := by
  obtain ⟨x, rfl⟩ := List.length_eq_one_iff.mp one
  intro reads
  obtain ⟨ended', given⟩ := (readsLine_iff delivers).mp reads
  have clean' : endChar ∉ u ++ [x] := by
    rw [List.mem_append, not_or]
    exact ⟨clean, noEnd⟩
  cases shape : u ++ [x] with
  | nil => simp at shape
  | cons c rest =>
      rw [shape] at clean' given
      have other : c ≠ endChar := fun same => clean' (same ▸ List.mem_cons_self ..)
      have fails : ∃ fault t, getLine textReader none [x] ⟨c :: (rest ++ w), ended⟩ =
          (.error fault, t) := getLine_one x c (rest ++ w) other
      obtain ⟨fault, t, failed⟩ := fails
      rw [List.cons_append, failed] at given
      cases given

/-- Behind the line there is nothing to compare. -/
theorem lineMatches_behind (line rest : Bytes) (z : UInt8) (sz : Int) :
    ∃ fault, lineMatches none line sz line.length (z :: rest) = .error fault := by
  have outside : ¬ (0 ≤ (line.length : Int) ∧ (line.length : Int) < line.length) := by omega
  rw [lineMatches, lineAt, dif_neg outside]
  by_cases inside : -2 ≤ (line.length : Int) ∧ (line.length : Int) < sz
  · rw [if_pos inside]
    exact ⟨_, rfl⟩
  · rw [if_neg inside]
    exact ⟨_, rfl⟩

section Long

variable {x y z : UInt8} {rest : Bytes}

/-- With a longer delimiter the loop goes on, until two bytes match and it looks at a third. -/
theorem lineEnds_long (line : Bytes) (sz : Int) :
    lineEnds none line sz (x :: y :: z :: rest) = .ok false ∨
      ∃ fault, lineEnds none line sz (x :: y :: z :: rest) = .error fault := by
  by_cases short : line.length < (x :: y :: z :: rest).length
  · exact Or.inl (goesOn_short none short sz)
  · rw [lineEnds, if_neg short]
    simp only [List.length_cons] at short
    obtain ⟨front, a, b, rfl⟩ := exists_lastTwo (show 2 ≤ line.length by omega)
    have seen := lineMatches_two none front [] a b x y (z :: rest) sz
    rw [List.append_nil] at seen
    rw [seen]
    by_cases same : a = x ∧ b = y
    · rw [if_pos same]
      exact Or.inr (lineMatches_behind _ rest z sz)
    · rw [if_neg same]
      exact Or.inl rfl

theorem goesOn_long {line : Bytes} (differ : ¬ [x, y] <:+ line) :
    GoesOn none (x :: y :: z :: rest) line := by
  intro sz
  by_cases short : line.length < (x :: y :: z :: rest).length
  · exact goesOn_short none short sz
  · rw [lineEnds, if_neg short]
    simp only [List.length_cons] at short
    obtain ⟨front, a, b, rfl⟩ := exists_lastTwo (show 2 ≤ line.length by omega)
    have seen := lineMatches_two none front [] a b x y (z :: rest) sz
    rw [List.append_nil, if_neg (fun same => differ ((suffix_pair_iff ..).mpr same))] at seen
    exact seen

/-- So it cannot go on where the first two bytes of the delimiter end the line. -/
theorem not_suffix_of_lineEnds {line : Bytes} {sz : Int}
    (full : ¬ line.length < (x :: y :: z :: rest).length)
    (goesOn : lineEnds none line sz (x :: y :: z :: rest) = .ok false) : ¬ [x, y] <:+ line := by
  intro ends
  rw [lineEnds, if_neg full] at goesOn
  simp only [List.length_cons] at full
  obtain ⟨front, a, b, rfl⟩ := exists_lastTwo (show 2 ≤ line.length by omega)
  have seen := lineMatches_two none front [] a b x y (z :: rest) sz
  rw [List.append_nil, if_pos ((suffix_pair_iff ..).mp ends)] at seen
  obtain ⟨fault, behind⟩ := lineMatches_behind (front ++ [a, b]) rest z sz
  rw [seen, behind] at goesOn
  cases goesOn

/-- One more byte of a loop that ends. -/
theorem getLineLoop_next {line : Bytes} {sz : Int} {filled : FilledLine} {s s' t : Text UInt8}
    {c : UInt8} (allocated : Allocated line sz) (read : textReader.next s = (.ok c, s'))
    (done : getLineLoop textReader none (x :: y :: z :: rest) line sz s = (.ok filled, t)) :
    lineEnds none line sz (x :: y :: z :: rest) = .ok false ∧
      ∃ sz', Allocated (line ++ [c]) sz' ∧
        (if c = endChar then (.ok ⟨line.length, line ++ [c], sz'⟩, s')
          else getLineLoop textReader none (x :: y :: z :: rest) (line ++ [c]) sz' s') =
            (.ok filled, t) := by
  have either : lineEnds none line sz (x :: y :: z :: rest) = .ok false ∨
      ∃ fault, lineEnds none line sz (x :: y :: z :: rest) = .error fault := lineEnds_long line sz
  rcases either with goesOn | ⟨fault, failed⟩
  · refine ⟨goesOn, ?_⟩
    rcases Nat.lt_or_ge (line.length + 1) lineLimit with short | full
    · obtain ⟨sz', allocated', step⟩ := getLineLoop_step goesOn allocated short c
      exact ⟨sz', allocated', (step s s' read).symm.trans done⟩
    · have most := allocated.lt_limit
      obtain ⟨fault, overflow⟩ := allocated.overflow (by omega)
      rw [getLineLoop, goesOn] at done
      simp only [overflow] at done
      cases done
  · rw [getLineLoop_error failed] at done
    cases done

/-- A loop that ends has read up to the end of the input, or to a byte 0xFF. -/
theorem getLineLoop_endless {line text : Bytes} {sz : Int} {filled : FilledLine} {t : Text UInt8}
    (allocated : Allocated line sz)
    (done : getLineLoop textReader none (x :: y :: z :: rest) line sz ⟨text, ended⟩ =
      (.ok filled, t)) :
    ∃ front tail sz', text = front ++ tail ∧ (tail = [] ∨ ∃ w, tail = endChar :: w) ∧
      t = (textReader.next ⟨tail, ended⟩).2 ∧
        filled = ⟨(line ++ front).length, line ++ front ++ [endChar], sz'⟩ ∧
          Allocated filled.line sz' ∧
            ∃ sz, lineEnds none (line ++ front) sz (x :: y :: z :: rest) = .ok false := by
  induction text generalizing line sz with
  | nil =>
      obtain ⟨goesOn, sz', allocated', stopped⟩ := getLineLoop_next allocated rfl done
      rw [if_pos rfl] at stopped
      obtain ⟨stored, left⟩ := Prod.mk.inj stopped
      obtain rfl := Except.ok.inj stored
      refine ⟨[], [], sz', rfl, Or.inl rfl, left.symm, ?_, allocated', sz, ?_⟩
      · rw [List.append_nil]
      · rw [List.append_nil]
        exact goesOn
  | cons c text ih =>
      obtain ⟨goesOn, sz', allocated', later⟩ :=
        getLineLoop_next allocated (Text.next_cons c text ended) done
      by_cases ends : c = endChar
      · subst ends
        rw [if_pos rfl] at later
        obtain ⟨stored, left⟩ := Prod.mk.inj later
        obtain rfl := Except.ok.inj stored
        refine ⟨[], endChar :: text, sz', rfl, Or.inr ⟨text, rfl⟩, left.symm, ?_, allocated', sz,
          ?_⟩
        · rw [List.append_nil]
        · rw [List.append_nil]
          exact goesOn
      · rw [if_neg ends] at later
        obtain ⟨front, tail, final, split, cut, left, stored, fits, last⟩ := ih allocated' later
        have shape : line ++ c :: front = line ++ [c] ++ front := by simp
        refine ⟨c :: front, tail, final, congrArg (c :: ·) split, cut, left, ?_, fits, ?_⟩
        · rw [shape]
          exact stored
        · rw [shape]
          exact last

/-- At the end the comparison looks at the end report, so nothing is trimmed. -/
theorem finishLine_long {line : Bytes} {sz : Int} (noEnd : endChar ∉ x :: y :: z :: rest)
    (noNul : (0 : UInt8) ∉ line) (two : 2 ≤ line.length) (fits : (line.length : Int) < sz) :
    finishLine none (x :: y :: z :: rest) ⟨line.length, line ++ [endChar], sz⟩ =
      .ok (if line = x :: y :: z :: rest then none else some line) := by
  have differs : endChar ≠ z := by
    rintro rfl
    exact noEnd (by simp)
  have inside : (line.length : Int) = ((line.length : Nat) : Int) := rfl
  have atEnd : lineAt none (line ++ [endChar]) sz (line.length : Int) = .ok endChar := by
    rw [lineAt_inside _ _ _ _ (by simp)]
    simp
  have miss : lineMatches none (line ++ [endChar]) sz (line.length - 2) (x :: y :: z :: rest) =
      .ok false := by
    obtain ⟨front, a, b, rfl⟩ := exists_lastTwo two
    rw [lineMatches_two, lineMatches, atEnd]
    simp only [differs, ↓reduceIte, ite_self]
  have bounds : ¬ ((line.length : Int) < 0 ∨ sz ≤ (line.length : Int)) := by omega
  have positive : ¬ (line.length : Int) = 0 := by omega
  simp only [finishLine, miss, Bool.false_eq_true, ↓reduceIte, bounds, Int.toNat_natCast,
    List.take_left, positive, false_or, cstr_of_not_mem line noNul]
  split <;> rfl

end Long

/-- A longer delimiter is found in one case only: it makes up all of the input, and its first
two bytes do not end it. -/
theorem readsLine_of_long (long : 3 ≤ delimiter.length) (noNul : (0 : UInt8) ∉ delimiter)
    (noEnd : endChar ∉ delimiter) (textNoNul : (0 : UInt8) ∉ u) (clean : endChar ∉ u)
    (delivers : Delivers s ⟨u ++ delimiter ++ w, ended⟩) :
    ReadsLine none delimiter u w s ↔
      u = [] ∧ w = [] ∧ delimiter.length + 1 < lineLimit ∧ ¬ delimiter.take 2 <:+ delimiter := by
  obtain ⟨x, y, z, rest, rfl⟩ : ∃ x y z rest, delimiter = x :: y :: z :: rest := by
    rcases delimiter with _ | ⟨x, _ | ⟨y, _ | ⟨z, rest⟩⟩⟩
    · cases long
    · simp at long
    · simp at long
    · exact ⟨x, y, z, rest, rfl⟩
  rw [readsLine_iff delivers]
  have textClean : endChar ∉ u ++ x :: y :: z :: rest := by
    rw [List.mem_append, not_or]
    exact ⟨clean, noEnd⟩
  have noNul' : (0 : UInt8) ∉ u ++ x :: y :: z :: rest := by
    rw [List.mem_append, not_or]
    exact ⟨textNoNul, noNul⟩
  have two : 2 ≤ (u ++ x :: y :: z :: rest).length := by
    simp only [List.length_append, List.length_cons]
    omega
  constructor
  · intro ⟨ended', given⟩
    rcases looped : getLineLoop textReader none (x :: y :: z :: rest) [] 10
      ⟨u ++ x :: y :: z :: rest ++ w, ended⟩ with ⟨_ | filled, t⟩
    · rw [getLine, Action.bind_error looped] at given
      cases given
    rw [getLine, Action.bind_ok looped] at given
    obtain ⟨finished, rfl⟩ := Prod.mk.inj given
    obtain ⟨front, tail, sz, split, cut, left, rfl, allocated, sz', goesOn⟩ :=
      getLineLoop_endless allocated_nil looped
    rcases cut with rfl | ⟨w', rfl⟩
    · obtain rfl : w = [] := congrArg Text.rest left
      rw [List.append_nil, List.append_nil] at split
      subst split
      rw [List.nil_append] at finished goesOn allocated
      have larger := allocated.size
      rw [List.length_append, List.length_singleton] at larger
      rw [finishLine_long noEnd noNul' two (by omega)] at finished
      have empty : u = [] := by
        by_cases whole : u ++ x :: y :: z :: rest = x :: y :: z :: rest
        · exact List.append_left_eq_self.mp whole
        · rw [if_neg whole] at finished
          by_cases empty : u = []
          · exact empty
          · rw [if_neg empty] at finished
            have same := Option.some.inj (Except.ok.inj finished)
            rw [List.append_right_eq_self] at same
            cases same
      subst empty
      refine ⟨rfl, rfl, ?_, not_suffix_of_lineEnds (Nat.lt_irrefl _) goesOn⟩
      have short := allocated.lt_limit
      rwa [List.length_append, List.length_singleton] at short
    · obtain rfl : w = w' := congrArg Text.rest left
      have shape : front ++ endChar :: w = front ++ [endChar] ++ w := by simp
      rw [shape] at split
      have whole := List.append_cancel_right split
      exact absurd (by rw [whole]; simp) textClean
  · rintro ⟨rfl, rfl, short, differ⟩
    have goesOn : ∀ p, p <+: x :: y :: z :: rest → GoesOn none (x :: y :: z :: rest) p := by
      intro p before
      by_cases whole : p = x :: y :: z :: rest
      · rw [whole]
        exact goesOn_long differ
      · apply goesOn_short none
        apply Nat.lt_of_le_of_ne before.length_le
        exact fun same => whole (before.eq_of_length same)
    obtain ⟨sz, fits, looped⟩ := getLineLoop_cut ended goesOn noEnd
      (by rwa [List.length_append, List.length_singleton]) (Or.inl rfl)
    refine ⟨true, ?_⟩
    rw [List.append_nil] at looped ⊢
    rw [List.nil_append] at noNul' two ⊢
    rw [getLine, Action.bind_ok looped, finishLine_long noEnd noNul' two fits, if_pos rfl,
      if_pos rfl]
    rfl

/-- What `get_line` makes of a delimiter, whatever its length: it is honoured if it has two bytes
and the line with it fits the largest buffer, and hardly ever otherwise. -/
theorem getLine_delimiter_iff (filled : delimiter ≠ []) (noNul : (0 : UInt8) ∉ delimiter)
    (noEnd : endChar ∉ delimiter) (textNoNul : (0 : UInt8) ∉ u) (clean : endChar ∉ u)
    (first : Leftmost.At delimiter (u ++ delimiter) u.length)
    (delivers : Delivers s ⟨u ++ delimiter ++ w, ended⟩) :
    ReadsLine none delimiter u w s ↔
      (delimiter.length = 2 ∧ (u ++ delimiter).length < lineLimit) ∨
        (3 ≤ delimiter.length ∧ u = [] ∧ w = [] ∧ delimiter.length + 1 < lineLimit ∧
          ¬ delimiter.take 2 <:+ delimiter) := by
  have positive := List.length_pos_of_ne_nil filled
  by_cases two : delimiter.length = 2
  · rw [readsLine_of_two two noEnd clean first delivers]
    simp [two]
  by_cases long : 3 ≤ delimiter.length
  · rw [readsLine_of_long long noNul noEnd textNoNul clean delivers]
    simp [two, long]
  · have one : delimiter.length = 1 := by omega
    have never := not_readsLine_of_one one noEnd clean delivers
    simp [two, long, never]

end Delimiter

theorem getLine_delimiter_iff_sample :
    ReadsLine none crlf (ascii "GET /") (ascii "host") requestChunk.stream ↔
      (crlf.length = 2 ∧ (ascii "GET /" ++ crlf).length < lineLimit) ∨
        (3 ≤ crlf.length ∧ ascii "GET /" = [] ∧ ascii "host" = [] ∧ crlf.length + 1 < lineLimit ∧
          ¬ crlf.take 2 <:+ crlf) :=
  getLine_delimiter_iff (by decide) (by decide) (by decide) (by decide) (by decide)
    (at_crlf (by decide)) requestChunk.delivers

/-- A key and a value with the colon between them. -/
def colonChunk : Delivery (ascii "key" ++ ascii ":" ++ ascii "value") :=
  .single _ (by decide) (by decide)

/-- The colon is not found: the first comparison looks at a byte before the line. -/
theorem getLine_delimiter_colon :
    Leftmost.At (ascii ":") (ascii "key" ++ ascii ":") (ascii "key").length ∧
      Delivers colonChunk.stream ⟨ascii "key" ++ ascii ":" ++ ascii "value", false⟩ ∧
        ¬ ReadsLine none (ascii ":") (ascii "key") (ascii "value") colonChunk.stream :=
  ⟨⟨by decide, by decide⟩, colonChunk.delivers,
    not_readsLine_of_one (by decide) (by decide) (by decide) colonChunk.delivers⟩

end Ttac
