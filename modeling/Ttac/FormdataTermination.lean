import Ttac.FormdataSteps

set_option autoImplicit false

/- When the three loops of `parse_formdata` end. -/
namespace Ttac

open StepMachine (Step Goes Reaches Halts Yields Along)

/-- A text behind a delimiter and its two bytes that ends inside a header line: of this part, or
of a later one, behind header lines and values that are read. -/
inductive BreaksOff (boundary : Bytes) : Bytes → Prop where
  | cut {rest : Bytes} (filled : rest ≠ []) (noCrlf : ¬ crlf <:+: rest) : BreaksOff boundary rest
  | line {line rest : Bytes} (complete : PartHeader line) (later : BreaksOff boundary rest) :
      BreaksOff boundary (line ++ (crlf ++ rest))
  | part {value two rest : Bytes}
      (delimited : Leftmost.At boundary (value ++ boundary) value.length)
      (long : 3 ≤ value.length) (pair : two.length = 2) (goesOn : two ≠ ascii "--")
      (later : BreaksOff boundary rest) :
      BreaksOff boundary (crlf ++ (value ++ (boundary ++ (two ++ rest))))

/-- What stands behind the first delimiter; without one it is the whole body. -/
def Opening (boundary body behind : Bytes) : Prop :=
  (∃ front, body = front ++ (boundary ++ behind) ∧
    Leftmost.At boundary (front ++ boundary) front.length) ∨
  (¬ boundary <:+: body ∧ behind = body)

/-- The body is cut off inside a header line. -/
def CutOff (boundary body : Bytes) : Prop :=
  ∃ two rest, Opening boundary body (two ++ rest) ∧ two.length = 2 ∧ two ≠ ascii "--" ∧
    BreaksOff boundary rest

section Texts

variable {boundary line rest value text : Bytes}

theorem not_breaksOff_nil : ¬ BreaksOff boundary [] := by
  intro breaks
  generalize empty : ([] : Bytes) = text at breaks
  cases breaks with
  | cut filled => exact filled empty.symm
  | line complete => exact complete.filled (List.append_eq_nil_iff.mp empty.symm).1
  | part => exact absurd (List.append_eq_nil_iff.mp empty.symm).1 (by decide)

theorem breaksOff_line_iff (filled : line ≠ []) (noCrlf : ¬ crlf <:+: line) :
    BreaksOff boundary (line ++ (crlf ++ rest)) ↔
      (∀ word ∈ attributes line, Whole word) ∧ BreaksOff boundary rest := by
  constructor
  · intro breaks
    generalize same : line ++ (crlf ++ rest) = text at breaks
    cases breaks with
    | cut _ absent => exact absurd (same ▸ crlf_infix line rest) absent
    | line complete later =>
        obtain ⟨rfl, rfl⟩ := (crlf_first noCrlf).split_unique (by decide)
          (crlf_first complete.noCrlf) same
        exact ⟨complete.whole, later⟩
    | part => exact (line_ne_blank filled noCrlf same.symm).elim
  · intro ⟨whole, later⟩
    exact .line ⟨filled, noCrlf, whole⟩ later

theorem breaksOff_value_iff (nonempty : boundary ≠ [])
    (delimited : Leftmost.At boundary (value ++ boundary) value.length) :
    BreaksOff boundary (crlf ++ (value ++ (boundary ++ rest))) ↔
      3 ≤ value.length ∧ ∃ two more, rest = two ++ more ∧ two.length = 2 ∧ two ≠ ascii "--" ∧
        BreaksOff boundary more := by
  constructor
  · intro breaks
    generalize same : crlf ++ (value ++ (boundary ++ rest)) = text at breaks
    cases breaks with
    | cut _ absent => exact absurd (same ▸ crlf_infix [] _) absent
    | line complete => exact (line_ne_blank complete.filled complete.noCrlf same).elim
    | @part _ two more other long pair goesOn later =>
        obtain ⟨rfl, rfl⟩ :=
          delimited.split_unique nonempty other (List.append_cancel_left same)
        exact ⟨long, two, more, rfl, pair, goesOn, later⟩
  · rintro ⟨long, two, more, rfl, pair, goesOn, later⟩
    exact .part delimited long pair goesOn later

theorem not_breaksOff_undelimited (absent : ¬ boundary <:+: text) :
    ¬ BreaksOff boundary (crlf ++ text) := by
  intro breaks
  generalize same : crlf ++ text = whole at breaks
  cases breaks with
  | cut _ noCrlf => exact noCrlf (same ▸ crlf_infix [] _)
  | line complete => exact line_ne_blank complete.filled complete.noCrlf same
  | @part value two rest =>
      apply absent
      rw [List.append_cancel_left same]
      exact ⟨value, two ++ rest, List.append_assoc ..⟩

end Texts

section Runs

variable {body boundary : Bytes} {s t : FormState}

theorem halts_of_stop {result : Except Fault (List Node)}
    (reaches : Reaches (formStep body boundary) s t)
    (stops : formStep body boundary t = .stop result) : Halts (formStep body boundary) s :=
  reaches.halts_iff.mpr ⟨result, Yields.of_stop stops⟩

/-- Two bytes that do not close the body lead on to header lines. -/
theorem goesOn_halts_iff {rest : Bytes} (idx : Nat) (length : body.length = idx + rest.length)
    (reads : formStep body boundary s =
      if ascii "--" <+: rest then .stop (.ok s.list) else .next t)
    (place : t.place = .header (idx + 2 : Nat)) :
    Halts (formStep body boundary) s ↔
      ∀ two more, rest = two ++ more → two.length = 2 → two ≠ ascii "--" →
        Halts (formStep body boundary) t := by
  by_cases closing : ascii "--" <+: rest
  · rw [if_pos closing] at reads
    refine iff_of_true (halts_of_stop .refl reads) ?_
    rintro two more rfl pair goesOn
    exact absurd (prefix_of_two closing pair) goesOn
  · rw [if_neg closing] at reads
    rw [(Reaches.of_goes reads).halts_iff]
    by_cases room : 2 ≤ rest.length
    · constructor
      · intro halts _ _ _ _ _
        exact halts
      · intro halts
        apply halts (rest.take 2) (rest.drop 2) (List.take_append_drop 2 rest).symm
        · rw [List.length_take, Nat.min_eq_left room]
        · intro same
          exact closing (same ▸ List.take_prefix 2 rest)
    · refine iff_of_true (halts_of_stop .refl (header_beyond place (by omega))) ?_
      rintro two more rfl pair
      rw [List.length_append] at room
      omega

/-- A delimiter: the body is closed or ends there, or header lines follow. -/
theorem part_halts_iff {front rest : Bytes} {idx : Nat} (nonempty : boundary ≠ [])
    (found : Leftmost.At boundary (front ++ boundary) front.length)
    (tail : body.drop idx = front ++ (boundary ++ rest)) (place : s.place = .part idx) :
    Halts (formStep body boundary) s ↔
      ∀ two more, rest = two ++ more → two.length = 2 → two ≠ ascii "--" →
        Halts (formStep body boundary) { s with
          key := none, filename := none
          place := .header (idx + front.length + boundary.length + 2 : Nat) } := by
  have length := length_of_tail tail (by simp [nonempty])
  rw [List.length_append, List.length_append] at length
  exact goesOn_halts_iff (idx + front.length + boundary.length) (by omega)
    (part_reads nonempty place found tail) rfl

theorem value_halts_iff {value rest : Bytes} {idx : Nat} (nonempty : boundary ≠ [])
    (found : Leftmost.At boundary (value ++ boundary) value.length)
    (tail : body.drop idx = value ++ (boundary ++ rest)) (place : s.place = .value idx) :
    Halts (formStep body boundary) s ↔ (3 ≤ value.length →
      ∀ two more, rest = two ++ more → two.length = 2 → two ≠ ascii "--" →
        Halts (formStep body boundary)
          ⟨addData s.list s.key (storedValue s.filename (value.take (value.length - 3))),
            none, none, .header (idx + value.length + boundary.length + 2 : Nat)⟩) := by
  by_cases long : 3 ≤ value.length
  · have later : body.drop (idx + value.length) = [] ++ (boundary ++ rest) := tail_drop tail
    rw [(Reaches.of_goes (value_goes nonempty found tail long place)).halts_iff,
      part_halts_iff nonempty (Leftmost.at_front boundary) later rfl]
    simp only [long, true_implies]
    rfl
  · refine iff_of_true (halts_of_stop .refl (value_short nonempty found tail (by omega) place)) ?_
    intro enough
    exact absurd enough long

/-- A value at the end of the body has no delimiter, and ends the run. -/
theorem halts_at_end {idx : Nat} (nonempty : boundary ≠ []) (inside : idx ≤ body.length)
    (last : body.drop idx = []) (place : s.place = .value idx) :
    Halts (formStep body boundary) s := by
  have absent : ¬ boundary <:+: body.drop idx := by
    rw [last, List.infix_nil]
    exact nonempty
  obtain ⟨-, fault, stops⟩ := value_absent boundary inside absent place
  exact halts_of_stop .refl stops

/-- Where no CRLF comes any more the loop stays at its line, unless the body ends there. -/
theorem cut_halts_iff {idx : Nat} (nonempty : boundary ≠ []) (place : s.place = .header idx)
    (inside : idx ≤ body.length) (absent : ¬ crlf <:+: body.drop idx) :
    Halts (formStep body boundary) s ↔ ¬ BreaksOff boundary (body.drop idx) := by
  have across := cut_goes boundary place inside absent
  have back := cut_back body boundary
    (s := { s with place := .attributes idx ((idx : Int) - 2) }) rfl
  by_cases before : idx < body.length
  · rw [if_pos before] at back
    have cycle : Goes (formStep body boundary)
        { s with place := .attributes idx ((idx : Int) - 2) } s := by
      rw [← place] at back
      exact back
    refine iff_of_false ?_ (not_not_intro (.cut ?_ absent))
    · exact StepMachine.not_halts_of_cycle ((Relation.TransGen.single across).tail cycle)
    · rw [ne_eq, List.drop_eq_nil_iff]
      omega
  · rw [if_neg before] at back
    have last : body.drop idx = [] := List.drop_eq_nil_of_le (by omega)
    rw [(Reaches.of_goes across).halts_iff, (Reaches.of_goes back).halts_iff, last]
    exact iff_of_true (halts_at_end nonempty inside last rfl) not_breaksOff_nil

section Later

variable {rest : Bytes} {idx : Nat} (nonempty : boundary ≠ []) (place : s.place = .header idx)
  (later : ∀ (next : Nat) (t : FormState), t.place = .header next → idx < next →
    next ≤ body.length →
      (Halts (formStep body boundary) t ↔ ¬ BreaksOff boundary (body.drop next)))
include nonempty place later

/-- The blank line, and the value behind it. -/
theorem blank_halts_iff (tail : body.drop idx = crlf ++ rest) :
    Halts (formStep body boundary) s ↔ ¬ BreaksOff boundary (crlf ++ rest) := by
  have two : crlf.length = 2 := rfl
  have length := length_of_tail tail (List.append_ne_nil_of_left_ne_nil (by decide) _)
  rw [List.length_append, two] at length
  have valueTail : body.drop (idx + 2) = rest := tail_drop tail
  rw [(Reaches.of_goes (blank_goes place tail)).halts_iff]
  by_cases delimited : boundary <:+: rest
  · obtain ⟨value, behind, rfl, found⟩ := Leftmost.exists_split delimited
    rw [breaksOff_value_iff nonempty found, value_halts_iff nonempty found valueTail rfl]
    simp only [not_and, not_exists]
    refine imp_congr_right fun long => forall₂_congr fun two more => ?_
    refine imp_congr_ctx Iff.rfl fun split => forall₂_congr fun pair goesOn => ?_
    subst split
    have moreTail := tail_drop (tail_drop (tail_drop valueTail))
    rw [pair] at moreTail
    simp only [List.length_append] at length
    rw [later _ _ rfl (by omega) (by omega), moreTail]
  · obtain ⟨-, fault, stops⟩ := value_absent boundary
      (s := { s with place := .value (idx + 2 : Nat) }) (by omega) (valueTail ▸ delimited) rfl
    exact iff_of_true (halts_of_stop .refl stops) (not_breaksOff_undelimited delimited)

theorem line_halts_iff {line : Bytes} (filled : line ≠ []) (noCrlf : ¬ crlf <:+: line)
    (tail : body.drop idx = line ++ (crlf ++ rest)) :
    Halts (formStep body boundary) s ↔ ¬ BreaksOff boundary (line ++ (crlf ++ rest)) := by
  have two : crlf.length = 2 := rfl
  have length := length_of_tail tail (by simp [filled])
  rw [List.length_append, List.length_append, two] at length
  have restTail : body.drop (idx + line.length + 2) = rest := tail_drop (tail_drop tail)
  rw [breaksOff_line_iff filled noCrlf]
  rcases line_walk boundary place tail noCrlf filled with
    ⟨whole, along⟩ | ⟨⟨word, member, bare⟩, t, fault, along, stops, -⟩
  · rw [along.reaches.halts_iff, and_iff_right whole]
    by_cases last : rest = []
    · rw [if_pos last, last]
      rw [last] at restTail
      exact iff_of_true (halts_at_end nonempty (by omega) restTail rfl) not_breaksOff_nil
    · rw [if_neg last, later _ _ rfl (by omega) (by omega), restTail]
  · refine iff_of_true (halts_of_stop along.reaches stops) ?_
    intro breaks
    exact bare (breaks.1 word member)

end Later

/-- From a header line on the loops end exactly if the text there does not break off. -/
theorem header_halts_iff (nonempty : boundary ≠ []) (idx : Nat) (s : FormState)
    (place : s.place = .header idx) (inside : idx ≤ body.length) :
    Halts (formStep body boundary) s ↔ ¬ BreaksOff boundary (body.drop idx) := by
  induction left : body.length - idx using Nat.strongRecOn generalizing idx s with
  | ind left ih =>
      have later (next : Nat) (t : FormState) (placed : t.place = .header next)
          (behind : idx < next) (within : next ≤ body.length) :
          Halts (formStep body boundary) t ↔ ¬ BreaksOff boundary (body.drop next) :=
        ih (body.length - next) (by omega) next t placed within rfl
      by_cases present : crlf <:+: body.drop idx
      · obtain ⟨line, rest, tail, first⟩ := Leftmost.exists_split present
        by_cases blank : line = []
        · subst blank
          rw [tail]
          exact blank_halts_iff nonempty place later tail
        · rw [tail]
          exact line_halts_iff nonempty place later blank (first.not_infix (by decide)) tail
      · exact cut_halts_iff nonempty place inside present

end Runs

section Bodies

variable {body boundary front rest behind : Bytes}

theorem opening_iff (nonempty : boundary ≠ [])
    (found : Leftmost.At boundary (front ++ boundary) front.length) :
    Opening boundary (front ++ (boundary ++ rest)) behind ↔ behind = rest := by
  constructor
  · rintro (⟨other, same, also⟩ | ⟨absent, -⟩)
    · exact (found.split_unique nonempty also same).2.symm
    · exact absurd ⟨front, rest, List.append_assoc ..⟩ absent
  · rintro rfl
    exact .inl ⟨front, rfl, found⟩

theorem opening_absent_iff (absent : ¬ boundary <:+: body) :
    Opening boundary body behind ↔ behind = body := by
  constructor
  · rintro (⟨front, rfl, -⟩ | ⟨-, same⟩)
    · exact absurd ⟨front, behind, List.append_assoc ..⟩ absent
    · exact same
  · intro same
    exact .inr ⟨absent, same⟩

/-- The first delimiter, and the header lines behind it. -/
theorem cutOff_iff_of_opening (idx : Nat) {t : FormState} (nonempty : boundary ≠ [])
    (opens : ∀ behind, Opening boundary body behind ↔ behind = rest)
    (tail : body.drop idx = rest) (inside : idx ≤ body.length)
    (place : t.place = .header (idx + 2 : Nat)) :
    (∀ two more, rest = two ++ more → two.length = 2 → two ≠ ascii "--" →
      Halts (formStep body boundary) t) ↔ ¬ CutOff boundary body := by
  simp only [CutOff, not_exists, not_and, opens]
  refine forall₂_congr fun two more => ?_
  rw [eq_comm]
  refine imp_congr_ctx Iff.rfl fun split => forall₂_congr fun pair goesOn => ?_
  subst split
  have moreTail := tail_drop tail
  rw [pair] at moreTail
  have room : idx + 2 ≤ body.length := by
    have length := congrArg List.length tail
    rw [List.length_drop, List.length_append, pair] at length
    omega
  rw [header_halts_iff nonempty _ _ place room, moreTail]

end Bodies

/-- The three loops end exactly if the body is not cut off inside a header line. -/
theorem formResult_exists_iff (list : List Node) (body boundary : Bytes)
    (nonempty : boundary ≠ []) :
    (∃ result, FormResult list body boundary result) ↔ ¬ CutOff boundary body := by
  by_cases empty : body = []
  · subst empty
    refine iff_of_true ⟨.ok list, 0, rfl⟩ ?_
    rintro ⟨two, more, ⟨front, same, -⟩ | ⟨-, same⟩, pair, -⟩
    · have none := (List.append_eq_nil_iff.mp (List.append_eq_nil_iff.mp same.symm).2).1
      exact nonempty none
    · rw [(List.append_eq_nil_iff.mp same).1] at pair
      cases pair
  · simp only [formResult_iff list body boundary empty]
    change Halts (formStep body boundary) (formStart list) ↔ _
    by_cases present : boundary <:+: body
    · obtain ⟨front, rest, tail, found⟩ := Leftmost.exists_split present
      have start : body.drop 0 = front ++ (boundary ++ rest) := tail
      have behind := tail_drop (tail_drop start)
      have length := length_of_tail start (by simp [nonempty])
      rw [List.length_append, List.length_append] at length
      rw [part_halts_iff nonempty found start rfl]
      refine cutOff_iff_of_opening _ nonempty (fun other => ?_) behind (by omega) rfl
      rw [tail]
      exact opening_iff nonempty found
    · rw [goesOn_halts_iff 0 (Nat.zero_add _).symm
        (part_absent present (s := formStart list) rfl) rfl]
      exact cutOff_iff_of_opening 0 nonempty (fun other => opening_absent_iff present) rfl
        (Nat.zero_le _) rfl

section Samples

/-- A body cut inside its first header line: the header-line loop never moves. -/
theorem formResult_truncated :
    ¬ ∀ list body boundary, boundary ≠ [] → ∃ result, FormResult list body boundary result := by
  intro terminates
  have halts := terminates [] (ascii "--B\r\nA") (ascii "--B") (by decide)
  simp only [formResult_iff [] (ascii "--B\r\nA") (ascii "--B") (by decide)] at halts
  have first : Goes (formStep (ascii "--B\r\nA") (ascii "--B")) (formStart [])
      ⟨[], none, none, .header (5 : Nat)⟩ := rfl
  have later := (Reaches.of_goes first).halts_iff.mp halts
  have cut : BreaksOff (ascii "--B") ((ascii "--B\r\nA").drop 5) := .cut (by decide) (by decide)
  exact (header_halts_iff (by decide) 5 _ rfl (by decide)).mp later cut

/-- The header line of a field `a`. -/
def fieldLine : Bytes := ascii "Content-Disposition: form-data; name=\"a\""

theorem attributes_fieldLine : attributes fieldLine =
    [ascii "Content-Disposition: form-data", ascii "name=\"a\""] := by
  have split : fieldLine = ascii "Content-Disposition: form-data" ++
      chr ';' :: chr ' ' :: ascii "name=\"a\"" := rfl
  rw [split, attributes_cons (by decide), attributes_last (by decide) (by decide)]

theorem fieldLine_complete : PartHeader fieldLine := by
  refine ⟨by decide, by decide, ?_⟩
  rw [attributes_fieldLine]
  decide

/-- A field, and a second part that is cut inside its header line. -/
def cutBody : Bytes := ascii "x--B\r\n" ++ fieldLine ++ ascii "\r\n\r\n1\r\n--B\r\nA"

theorem formResult_exists_iff_sample :
    ¬ ∃ result, FormResult [] cutBody (ascii "--B") result := by
  rw [formResult_exists_iff [] cutBody (ascii "--B") (by decide), not_not]
  have second : BreaksOff (ascii "--B") (ascii "A") := .cut (by decide) (by decide)
  have value : BreaksOff (ascii "--B") (crlf ++ (ascii "1\r\n" ++ (ascii "--B" ++ (crlf ++
      ascii "A")))) :=
    .part ⟨by decide, by decide⟩ (by decide) rfl (by decide) second
  refine ⟨crlf, _, .inl ⟨ascii "x", ?_, by decide, by decide⟩, rfl, by decide,
    .line fieldLine_complete value⟩
  rfl

end Samples

end Ttac
