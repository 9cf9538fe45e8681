import Ttac.StreamText
import Ttac.Lib.Leftmost

set_option autoImplicit false

/- The lines of a text, and how the loop of `get_line` reads one into its growing buffer. -/
namespace Ttac

open Reading (Action Reader Text)

/-- What comes before the first CRLF, the first byte 0xFF or the end. -/
def firstLine : Bytes → Bytes
  | [] => []
  | c :: rest => if c = endChar ∨ crlf <+: c :: rest then [] else c :: firstLine rest

/-- What `get_line` stores behind that line: its CRLF, or the report of the end. -/
def lineEnding : Bytes → Bytes
  | [] => [endChar]
  | c :: rest =>
    if c = endChar then [endChar] else if crlf <+: c :: rest then crlf else lineEnding rest

theorem firstLine_prefix (data : Bytes) : firstLine data <+: data := by
  induction data with
  | nil => exact List.prefix_rfl
  | cons c rest ih =>
      rw [firstLine]
      split
      · exact List.nil_prefix
      · exact List.cons_prefix_cons.mpr ⟨rfl, ih⟩

theorem firstLine_noEnd (data : Bytes) : endChar ∉ firstLine data := by
  induction data with
  | nil => exact List.not_mem_nil
  | cons c rest ih =>
      rw [firstLine]
      split
      · exact List.not_mem_nil
      · rename_i goesOn
        rw [List.mem_cons]
        rintro (equal | later)
        · exact goesOn (Or.inl equal.symm)
        · exact ih later

theorem firstLine_noCrlf (data : Bytes) : ¬ crlf <:+: firstLine data := by
  induction data with
  | nil => decide
  | cons c rest ih =>
      rw [firstLine]
      split
      · decide
      · rename_i goesOn
        intro occurs
        rcases List.infix_cons_iff.mp occurs with first | later
        · have longer : c :: firstLine rest <+: c :: rest :=
            List.cons_prefix_cons.mpr ⟨rfl, firstLine_prefix rest⟩
          exact goesOn (Or.inr (first.trans longer))
        · exact ih later

/-- The line ends with its CRLF, before a byte 0xFF, or with the data. -/
theorem firstLine_cases (data : Bytes) :
    (∃ w, data = firstLine data ++ crlf ++ w ∧ lineEnding data = crlf) ∨
      ∃ tail, data = firstLine data ++ tail ∧ (tail = [] ∨ ∃ w, tail = endChar :: w) ∧
        lineEnding data = [endChar] := by
  induction data with
  | nil => exact Or.inr ⟨[], rfl, Or.inl rfl, rfl⟩
  | cons c rest ih =>
      by_cases ends : c = endChar
      · subst ends
        have line : firstLine (endChar :: rest) = [] := if_pos (Or.inl rfl)
        have ending : lineEnding (endChar :: rest) = [endChar] := if_pos rfl
        rw [line, ending]
        exact Or.inr ⟨endChar :: rest, rfl, Or.inr ⟨rest, rfl⟩, rfl⟩
      · by_cases here : crlf <+: c :: rest
        · have line : firstLine (c :: rest) = [] := if_pos (Or.inr here)
          have ending : lineEnding (c :: rest) = crlf := by
            rw [lineEnding, if_neg ends, if_pos here]
          obtain ⟨w, whole⟩ := here
          rw [line, ending]
          exact Or.inl ⟨w, whole.symm, rfl⟩
        · have line : firstLine (c :: rest) = c :: firstLine rest := by
            rw [firstLine, if_neg (not_or.mpr ⟨ends, here⟩)]
          have ending : lineEnding (c :: rest) = lineEnding rest := by
            rw [lineEnding, if_neg ends, if_neg here]
          rw [line, ending]
          rcases ih with ⟨w, whole, stored⟩ | ⟨tail, whole, cut, stored⟩
          · exact Or.inl ⟨w, congrArg (c :: ·) whole, stored⟩
          · exact Or.inr ⟨tail, congrArg (c :: ·) whole, cut, stored⟩

/-- The sizes `get_line` allocates, one after the other. -/
def lineSize : Nat → Nat
  | 0 => 10
  | k + 1 => lineSize k * 3 / 2

/-- The first of them whose triple is no `int`. -/
def lineLimit : Nat := lineSize 45

theorem lineSize_grows (k : Nat) : 10 ≤ lineSize k ∧ lineSize k < lineSize (k + 1) := by
  induction k with
  | zero => decide
  | succ k ih =>
      have next : lineSize (k + 1 + 1) = lineSize (k + 1) * 3 / 2 := rfl
      omega

theorem lineSize_triple (k : Nat) (early : k < 45) : lineSize k * 3 < 2 ^ 31 := by
  revert k
  decide

theorem lineLimit_triple : 2 ^ 31 ≤ lineLimit * 3 := by decide

/-- The allocation holds a byte more than the line, and is one of the sizes. -/
def Allocated (line : Bytes) (sz : Int) : Prop :=
  ∃ k, k ≤ 45 ∧ sz = lineSize k ∧ line.length < lineSize k

/-- Short of the limit there is room for one byte more. -/
theorem Allocated.grow {line : Bytes} {sz : Int} (allocated : Allocated line sz)
    (short : line.length + 1 < lineLimit) (c : UInt8) :
    ∃ sz', growLine line.length sz = .ok sz' ∧ Allocated (line ++ [c]) sz' := by
  obtain ⟨k, most, rfl, room⟩ := allocated
  rw [growLine]
  by_cases full : line.length + 1 = lineSize k
  · have early : k < 45 := by
      rcases Nat.lt_or_ge k 45 with early | late
      · exact early
      · obtain rfl : k = 45 := by omega
        rw [full] at short
        exact absurd short (Nat.lt_irrefl _)
    have triple := lineSize_triple k early
    have grows := (lineSize_grows k).2
    rw [if_pos (by omega), if_neg (by omega)]
    refine ⟨_, rfl, k + 1, early, ?_, ?_⟩
    · rw [lineSize]
      omega
    · rw [List.length_append, List.length_singleton]
      omega
  · rw [if_neg (by omega)]
    refine ⟨_, rfl, k, most, rfl, ?_⟩
    rw [List.length_append, List.length_singleton]
    omega

theorem lineSize_le {j k : Nat} (order : j ≤ k) : lineSize j ≤ lineSize k := by
  induction order with
  | refl => exact Nat.le_refl _
  | step _ ih => exact ih.trans (lineSize_grows _).2.le

/-- At the limit the size overflows. -/
theorem Allocated.overflow {line : Bytes} {sz : Int} (allocated : Allocated line sz)
    (atLimit : line.length + 1 = lineLimit) : ∃ fault, growLine line.length sz = .error fault := by
  obtain ⟨k, most, rfl, room⟩ := allocated
  have least : lineSize k ≤ lineLimit := lineSize_le most
  have triple := lineLimit_triple
  rw [growLine, if_pos (by omega), if_pos (by omega)]
  exact ⟨_, rfl⟩

theorem Allocated.lt_limit {line : Bytes} {sz : Int} (allocated : Allocated line sz) :
    line.length < lineLimit := by
  obtain ⟨k, most, -, room⟩ := allocated
  exact room.trans_le (lineSize_le most)

theorem Allocated.size {line : Bytes} {sz : Int} (allocated : Allocated line sz) :
    (line.length : Int) < sz := by
  obtain ⟨k, -, rfl, room⟩ := allocated
  omega

/-- The loop goes on at this line, however much is allocated for it. -/
def GoesOn (junk : Junk) (delimiter line : Bytes) : Prop :=
  ∀ sz, lineEnds junk line sz delimiter = .ok false

theorem goesOn_pair (junk : Junk) {line : Bytes} {x y : UInt8} (open_ : ¬ [x, y] <:+ line) :
    GoesOn junk [x, y] line := by
  intro sz
  rw [lineEnds_pair, decide_eq_false open_]

/-- A line shorter than the delimiter is not compared. -/
theorem goesOn_short (junk : Junk) {delimiter line : Bytes}
    (shorter : line.length < delimiter.length) : GoesOn junk delimiter line := by
  intro sz
  rw [lineEnds, if_pos shorter]

section Loop

variable {junk : Junk} {delimiter : Bytes} (ended : Bool)

theorem getLineLoop_error {σ : Type} {R : Reader Fault endChar σ} {line : Bytes} {sz : Int}
    {fault : Fault} (failed : lineEnds junk line sz delimiter = .error fault) (s : σ) :
    getLineLoop R junk delimiter line sz s = (.error fault, s) := by
  rw [getLineLoop, failed]

/-- One more byte, where the loop goes on and the size allows it. -/
theorem getLineLoop_step {line : Bytes} {sz : Int}
    (goesOn : lineEnds junk line sz delimiter = .ok false) (allocated : Allocated line sz)
    (short : line.length + 1 < lineLimit) (c : UInt8) :
    ∃ sz', Allocated (line ++ [c]) sz' ∧ ∀ s t,
      textReader.next s = (.ok c, t) →
        getLineLoop textReader junk delimiter line sz s =
          if c = endChar then (.ok ⟨line.length, line ++ [c], sz'⟩, t)
          else getLineLoop textReader junk delimiter (line ++ [c]) sz' t := by
  obtain ⟨sz', grown, allocated'⟩ := allocated.grow short c
  have larger := allocated'.size
  rw [List.length_append, List.length_singleton] at larger
  refine ⟨sz', allocated', fun s t read => ?_⟩
  rw [getLineLoop, goesOn]
  simp only [grown, show ¬ sz' ≤ (line.length : Int) by omega, ↓reduceIte]
  split <;> rename_i given <;> rw [read] at given <;> cases given
  rfl

/-- What holds of a pass of the loop if it holds of the next one, holds of the passes over text
at which the loop goes on and which does not fill the buffer. -/
theorem loop_run {ι : Type} {P : ι → Bytes → Int → Text UInt8 → Prop}
    (pass : ∀ (line : Bytes) (sz : Int) (c : UInt8), GoesOn junk delimiter line →
      Allocated line sz → line.length + 1 < lineLimit → ∃ sz', Allocated (line ++ [c]) sz' ∧
        ∀ i s t, textReader.next s = (.ok c, t) → c ≠ endChar →
          P i (line ++ [c]) sz' t → P i line sz s)
    (w : Bytes) {line rest : Bytes} {sz : Int} (allocated : Allocated line sz)
    (clean : endChar ∉ rest)
    (goesOn : ∀ p, p <+: line ++ rest → p ≠ line ++ rest → GoesOn junk delimiter p)
    (short : (line ++ rest).length < lineLimit) :
    ∃ sz', Allocated (line ++ rest) sz' ∧
      ∀ i, P i (line ++ rest) sz' ⟨w, ended⟩ → P i line sz ⟨rest ++ w, ended⟩ := by
  induction rest generalizing line sz with
  | nil =>
      rw [List.append_nil, List.nil_append]
      exact ⟨sz, allocated, fun _ => id⟩
  | cons c rest ih =>
      have here : GoesOn junk delimiter line := by
        apply goesOn line (List.prefix_append _ _)
        intro same
        have lengths := congrArg List.length same
        simp only [List.length_append, List.length_cons] at lengths
        omega
      have room : line.length + 1 < lineLimit := by
        simp only [List.length_append, List.length_cons] at short
        omega
      obtain ⟨sz', allocated', step⟩ := pass line sz c here allocated room
      have shape : line ++ c :: rest = (line ++ [c]) ++ rest := by simp
      rw [shape] at goesOn short ⊢
      obtain ⟨final, fits, reached⟩ :=
        ih allocated' (fun member => clean (List.mem_cons_of_mem _ member)) goesOn short
      have other : c ≠ endChar := fun same => clean (same ▸ List.mem_cons_self ..)
      refine ⟨final, fits, ?_⟩
      intro i last
      exact step i _ _ (Text.next_cons ..) other (reached i last)

/-- The loop reads on through such text. -/
theorem getLineLoop_run (w : Bytes) {line rest : Bytes} {sz : Int}
    (allocated : Allocated line sz) (clean : endChar ∉ rest)
    (goesOn : ∀ p, p <+: line ++ rest → p ≠ line ++ rest → GoesOn junk delimiter p)
    (short : (line ++ rest).length < lineLimit) :
    ∃ sz', Allocated (line ++ rest) sz' ∧
      getLineLoop textReader junk delimiter line sz ⟨rest ++ w, ended⟩ =
        getLineLoop textReader junk delimiter (line ++ rest) sz' ⟨w, ended⟩ := by
  obtain ⟨sz', fits, reached⟩ := loop_run ended
    (P := fun result line sz s => getLineLoop textReader junk delimiter line sz s = result)
    (fun line sz c here allocated room => by
      obtain ⟨sz', larger, step⟩ := getLineLoop_step (here sz) allocated room c
      refine ⟨sz', larger, ?_⟩
      intro result s t read other next
      rw [step s t read, if_neg other, next])
    w allocated clean goesOn short
  exact ⟨sz', fits, reached _ rfl⟩

theorem allocated_nil : Allocated [] 10 := ⟨0, Nat.zero_le _, rfl, by decide⟩

/-- Text that fills the largest buffer while the loop goes on. -/
theorem getLineLoop_overflow (w : Bytes) {text : Bytes} (clean : endChar ∉ text)
    (goesOn : ∀ p, p <+: text → GoesOn junk delimiter p) (long : lineLimit ≤ text.length + 1) :
    ∃ fault s, getLineLoop textReader junk delimiter [] 10 ⟨text ++ w, ended⟩ =
      (.error fault, s) := by
  obtain ⟨room, limit⟩ : ∃ room, lineLimit = room + 1 := ⟨lineLimit - 1, by decide⟩
  have cut : (text.take room).length = room := by
    rw [List.length_take]
    omega
  have start : text.take room <+: text := List.take_prefix _ _
  obtain ⟨sz, allocated, run⟩ := getLineLoop_run ended (text.drop room ++ w) allocated_nil
    (fun member => clean (List.mem_of_mem_take member))
    (fun p before _ => goesOn p (before.trans start))
    (show ([] ++ text.take room).length < lineLimit by rw [List.nil_append]; omega)
  rw [List.nil_append] at allocated run
  obtain ⟨fault, overflow⟩ := allocated.overflow (by omega)
  refine ⟨fault, ⟨text.drop room ++ w, ended⟩, ?_⟩
  rw [← List.append_assoc, List.take_append_drop] at run
  rw [run, getLineLoop, goesOn _ start sz]
  simp only [overflow]

/-- A line that the end cuts is read with the report of the end. -/
theorem getLineLoop_cut {u tail : Bytes} (goesOn : ∀ p, p <+: u → GoesOn junk delimiter p)
    (clean : endChar ∉ u) (short : (u ++ [endChar]).length < lineLimit)
    (ends : tail = [] ∨ ∃ w, tail = endChar :: w) :
    ∃ sz, (u.length : Int) < sz ∧
      getLineLoop textReader junk delimiter [] 10 ⟨u ++ tail, ended⟩ =
        (.ok ⟨u.length, u ++ [endChar], sz⟩, (textReader.next ⟨tail, ended⟩).2) := by
  have room : u.length + 1 < lineLimit := by
    rwa [List.length_append, List.length_singleton] at short
  obtain ⟨sz, allocated, run⟩ := getLineLoop_run ended tail allocated_nil clean
    (fun p before _ => goesOn p before)
    (show ([] ++ u).length < lineLimit by rw [List.nil_append]; omega)
  rw [List.nil_append] at allocated run
  obtain ⟨sz', allocated', step⟩ :=
    getLineLoop_step (goesOn u List.prefix_rfl sz) allocated room endChar
  have larger := allocated'.size
  rw [List.length_append, List.length_singleton] at larger
  have reported : textReader.next ⟨tail, ended⟩ =
      (.ok endChar, (textReader.next ⟨tail, ended⟩).2) := by
    rcases ends with rfl | ⟨w, rfl⟩ <;> rfl
  refine ⟨sz', by omega, ?_⟩
  rw [run, step _ _ reported, if_pos rfl]

end Loop

section Pair

variable (junk : Junk) (ended : Bool) (w : Bytes) {x y : UInt8} {u : Bytes}

/-- Before its delimiter is complete, a line goes on. -/
theorem goesOn_before (first : Leftmost.At [x, y] (u ++ [x, y]) u.length) {p : Bytes}
    (before : p <+: u ++ [x, y]) (proper : p ≠ u ++ [x, y]) : GoesOn junk [x, y] p := by
  obtain ⟨rest, split⟩ := before
  apply goesOn_pair junk
  apply first.not_suffix split
  rintro rfl
  exact proper (by rw [← split, List.append_nil])

/-- A line whose delimiter still fits is read with it. -/
theorem getLineLoop_closed (first : Leftmost.At [x, y] (u ++ [x, y]) u.length)
    (clean : endChar ∉ u ++ [x, y]) (short : (u ++ [x, y]).length < lineLimit) :
    ∃ sz, ((u ++ [x, y]).length : Int) < sz ∧
      getLineLoop textReader junk [x, y] [] 10 ⟨u ++ [x, y] ++ w, ended⟩ =
        (.ok ⟨(u ++ [x, y]).length, u ++ [x, y], sz⟩, ⟨w, ended⟩) := by
  obtain ⟨sz, allocated, run⟩ := getLineLoop_run ended w allocated_nil clean
    (fun p => goesOn_before junk first) short
  refine ⟨sz, allocated.size, ?_⟩
  have ends : [x, y] <:+ u ++ [x, y] := List.suffix_append _ _
  rw [run, List.nil_append, getLineLoop, lineEnds_pair, decide_eq_true ends]

/-- The line without its delimiter is what `get_line` returns, unless it is empty. -/
theorem finishLine_closed {sz : Int} (first : Leftmost.At [x, y] (u ++ [x, y]) u.length)
    (fits : ((u ++ [x, y]).length : Int) < sz) :
    finishLine junk [x, y] ⟨(u ++ [x, y]).length, u ++ [x, y], sz⟩ =
      .ok (if u = [] then none else some u) := by
  have length : (u ++ [x, y]).length = u.length + 2 := List.length_append
  have hit := lineMatches_two junk u [] x y x y [] sz
  rw [List.append_nil, if_pos ⟨rfl, rfl⟩, lineMatches] at hit
  have trimmed : ((u ++ [x, y]).length : Int) - ([x, y].length : Nat) = (u.length : Nat) := by
    rw [length, List.length_cons, List.length_singleton]
    omega
  have bounds : ¬ ((u.length : Int) < 0 ∨ sz ≤ (u.length : Int)) := by omega
  simp only [finishLine, hit, ↓reduceIte, trimmed, bounds, Int.toNat_natCast, List.take_left]
  by_cases empty : u = []
  · simp [empty]
  · have filled := List.length_pos_of_ne_nil empty
    have positive : ¬ (u.length : Int) = 0 := by omega
    have differs : cstr u ≠ [x, y] := by
      intro same
      apply first.2 0 filled
      have start : [x, y] <+: u := same ▸ List.takeWhile_prefix _
      exact start.trans (List.prefix_append _ _)
    simp only [positive, differs, empty, or_self, ↓reduceIte]

/-- `get_line` on a text that starts with a line and its delimiter of two bytes. -/
theorem getLine_closed (first : Leftmost.At [x, y] (u ++ [x, y]) u.length)
    (clean : endChar ∉ u ++ [x, y]) (short : (u ++ [x, y]).length < lineLimit) :
    getLine textReader junk [x, y] ⟨u ++ [x, y] ++ w, ended⟩ =
      (.ok (if u = [] then none else some u), ⟨w, ended⟩) := by
  obtain ⟨sz, fits, looped⟩ := getLineLoop_closed junk ended w first clean short
  rw [getLine, Action.bind_ok looped, finishLine_closed junk first fits]
  rfl

/-- A line that does not fit the largest buffer is undefined behaviour. -/
theorem getLine_tooLong (first : Leftmost.At [x, y] (u ++ [x, y]) u.length)
    (clean : endChar ∉ u ++ [x, y]) (long : lineLimit ≤ (u ++ [x, y]).length) :
    ∃ fault t, getLine textReader junk [x, y] ⟨u ++ [x, y] ++ w, ended⟩ = (.error fault, t) := by
  have length : (u ++ [x, y]).length = (u ++ [x]).length + 1 := by simp
  have shape : u ++ [x, y] = (u ++ [x]) ++ [y] := by simp
  have goesOn : ∀ p, p <+: u ++ [x] → GoesOn junk [x, y] p := by
    intro p before
    apply goesOn_before junk first
    · rw [shape]
      exact before.trans (List.prefix_append _ _)
    · rintro rfl
      have := before.length_le
      omega
  have clean' : endChar ∉ u ++ [x] := by
    intro member
    apply clean
    rw [shape]
    exact List.mem_append_left _ member
  obtain ⟨fault, t, looped⟩ := getLineLoop_overflow ended ([y] ++ w) clean' goesOn (by omega)
  rw [← List.append_assoc, ← shape] at looped
  exact ⟨fault, t, by rw [getLine, Action.bind_error looped]⟩

end Pair

theorem at_crlf {u : Bytes} (noCrlf : ¬ crlf <:+: u) : Leftmost.At crlf (u ++ crlf) u.length :=
  Leftmost.at_pair (by decide) noCrlf

theorem clean_crlf {u : Bytes} (clean : endChar ∉ u) : endChar ∉ u ++ crlf := by
  rw [List.mem_append, not_or]
  exact ⟨clean, by decide⟩

theorem goesOn_crlf (junk : Junk) {u p : Bytes} (noCrlf : ¬ crlf <:+: u) (before : p <+: u) :
    GoesOn junk crlf p :=
  goesOn_pair junk fun ends => noCrlf (ends.isInfix.trans before.isInfix)

theorem getLineLoop_crlf (junk : Junk) {u : Bytes} (w : Bytes) (ended : Bool)
    (noCrlf : ¬ crlf <:+: u) (clean : endChar ∉ u) (short : (u ++ crlf).length < lineLimit) :
    ∃ sz, ((u ++ crlf).length : Int) < sz ∧
      getLineLoop textReader junk crlf [] 10 ⟨u ++ crlf ++ w, ended⟩ =
        (.ok ⟨(u ++ crlf).length, u ++ crlf, sz⟩, ⟨w, ended⟩) :=
  getLineLoop_closed junk ended w (at_crlf noCrlf) (clean_crlf clean) short

theorem getLine_crlf (junk : Junk) {u : Bytes} (w : Bytes) (ended : Bool)
    (noCrlf : ¬ crlf <:+: u) (clean : endChar ∉ u) (short : (u ++ crlf).length < lineLimit) :
    getLine textReader junk crlf ⟨u ++ crlf ++ w, ended⟩ =
      (.ok (if u = [] then none else some u), ⟨w, ended⟩) :=
  getLine_closed junk ended w (at_crlf noCrlf) (clean_crlf clean) short

theorem getLine_crlf_tooLong (junk : Junk) {u : Bytes} (w : Bytes) (ended : Bool)
    (noCrlf : ¬ crlf <:+: u) (clean : endChar ∉ u) (long : lineLimit ≤ (u ++ crlf).length) :
    ∃ fault t, getLine textReader junk crlf ⟨u ++ crlf ++ w, ended⟩ = (.error fault, t) :=
  getLine_tooLong junk ended w (at_crlf noCrlf) (clean_crlf clean) long

/-- `get_line` on a text that starts with a line. -/
theorem getLine_text (junk : Junk) (u w : Bytes) (ended : Bool)
    (noCrlf : ¬ crlf <:+: u) (clean : endChar ∉ u) (short : u.length + 2 < 2 ^ 29) :
    getLine textReader junk crlf ⟨u ++ crlf ++ w, ended⟩ =
      (.ok (if u = [] then none else some u), ⟨w, ended⟩) := by
  apply getLine_crlf junk w ended noCrlf clean
  rw [List.length_append]
  exact short.trans (by decide)

/-- What `get_line` returns is no longer than what its loop stored. -/
theorem finishLine_length {junk : Junk} {delimiter : Bytes} {filled : FilledLine} {line : Bytes}
    (finished : finishLine junk delimiter filled = .ok (some line)) :
    line.length ≤ filled.len := by
  unfold finishLine at finished
  split at finished
  · cases finished
  · rename_i hit _
    have trimmed :
        (if hit then (filled.len : Int) - delimiter.length else filled.len) ≤ filled.len := by
      split <;> omega
    dsimp only at finished
    generalize (if hit then (filled.len : Int) - delimiter.length else filled.len) = len at *
    by_cases outside : len < 0 ∨ filled.sz ≤ len
    · rw [if_pos outside] at finished
      cases finished
    · rw [if_neg outside] at finished
      by_cases empty : len = 0 ∨ cstr (filled.line.take len.toNat) = delimiter
      · rw [if_pos empty] at finished
        cases finished
      · rw [if_neg empty] at finished
        obtain rfl := Option.some.inj (Except.ok.inj finished)
        rw [List.length_take]
        omega

theorem finishLine_cut (junk : Junk) {u : Bytes} {sz : Int} (noCrlf : ¬ crlf <:+: u)
    (two : 2 ≤ u.length) (fits : (u.length : Int) < sz) :
    finishLine junk crlf ⟨u.length, u ++ [endChar], sz⟩ = .ok (some u) := by
  have miss : lineMatches junk (u ++ [endChar]) sz (u.length - 2) crlf = .ok false := by
    obtain ⟨front, a, b, rfl⟩ := exists_lastTwo two
    rw [show crlf = [chr '\r', chr '\n'] from rfl, lineMatches_two, if_neg]
    rintro ⟨rfl, rfl⟩
    exact noCrlf (List.suffix_append front crlf).isInfix
  have differs : cstr u ≠ crlf := by
    intro same
    exact noCrlf (same ▸ (List.takeWhile_prefix _).isInfix)
  have bounds : ¬ ((u.length : Int) < 0 ∨ sz ≤ (u.length : Int)) := by omega
  have positive : ¬ (u.length : Int) = 0 := by omega
  simp only [finishLine, miss, Bool.false_eq_true, ↓reduceIte, bounds, Int.toNat_natCast,
    List.take_left, positive, differs, or_false]

section First

variable (junk : Junk) (data : Bytes)

/-- A first line of two bytes or more that is short enough is what `get_line` returns. -/
theorem getLine_first (short : (firstLine data ++ lineEnding data).length < lineLimit)
    (two : 2 ≤ (firstLine data).length) :
    ∃ t, getLine textReader junk crlf ⟨data, false⟩ = (.ok (some (firstLine data)), t) := by
  have noCrlf := firstLine_noCrlf data
  have clean := firstLine_noEnd data
  have filled : firstLine data ≠ [] := by
    intro none
    rw [none] at two
    cases two
  rcases firstLine_cases data with ⟨w, whole, stored⟩ | ⟨tail, whole, ends, stored⟩
  · rw [stored] at short
    have read := getLine_crlf junk w false noCrlf clean short
    rw [← whole, if_neg filled] at read
    exact ⟨⟨w, false⟩, read⟩
  · rw [stored] at short
    obtain ⟨sz, fits, looped⟩ :=
      getLineLoop_cut false (fun p => goesOn_crlf junk noCrlf) clean short ends
    rw [← whole] at looped
    refine ⟨(textReader.next ⟨tail, false⟩).2, ?_⟩
    rw [getLine, Action.bind_ok looped, finishLine_cut junk noCrlf two fits]
    rfl

/-- From a first line of less than two bytes `get_line` returns nothing longer. -/
theorem getLine_small (short : (firstLine data ++ lineEnding data).length < lineLimit)
    (small : (firstLine data).length < 2) {line : Bytes} {t : Text UInt8}
    (given : getLine textReader junk crlf ⟨data, false⟩ = (.ok (some line), t)) :
    line.length < 2 := by
  have noCrlf := firstLine_noCrlf data
  have clean := firstLine_noEnd data
  rcases firstLine_cases data with ⟨w, whole, stored⟩ | ⟨tail, whole, ends, stored⟩
  · rw [stored] at short
    have read := getLine_crlf junk w false noCrlf clean short
    rw [← whole, given] at read
    have result := Except.ok.inj (Prod.mk.inj read).1
    by_cases empty : firstLine data = []
    · rw [if_pos empty] at result
      cases result
    · rw [if_neg empty] at result
      obtain rfl := Option.some.inj result
      exact small
  · rw [stored] at short
    obtain ⟨sz, fits, looped⟩ :=
      getLineLoop_cut false (fun p => goesOn_crlf junk noCrlf) clean short ends
    rw [← whole] at looped
    rw [getLine, Action.bind_ok looped] at given
    exact (finishLine_length (Prod.mk.inj given).1).trans_lt small

/-- A first line that is too long is undefined behaviour. -/
theorem getLine_long (long : lineLimit ≤ (firstLine data ++ lineEnding data).length) :
    ∃ fault t, getLine textReader junk crlf ⟨data, false⟩ = (.error fault, t) := by
  have noCrlf := firstLine_noCrlf data
  have clean := firstLine_noEnd data
  rcases firstLine_cases data with ⟨w, whole, stored⟩ | ⟨tail, whole, -, stored⟩
  · rw [stored] at long
    rw [whole]
    exact getLine_crlf_tooLong junk w false noCrlf clean long
  · rw [stored, List.length_append, List.length_singleton] at long
    obtain ⟨fault, t, looped⟩ :=
      getLineLoop_overflow false tail clean (fun p => goesOn_crlf junk noCrlf) long
    rw [← whole] at looped
    exact ⟨fault, t, by rw [getLine, Action.bind_error looped]⟩

end First

end Ttac
