import Ttac.FormdataTermination

set_option autoImplicit false

/- The bodies on which the offsets, counts and sizes `parse_formdata` computes are all inside the
body. -/
namespace Ttac

open StepMachine (Step Goes Reaches Always Along)

/-- An attribute of the line is a name. -/
def names (line : Bytes) : Bool := (attributes line).any fun word => ascii "name" <+: word

/-- An attribute of the line is a file name. -/
def files (line : Bytes) : Bool :=
  (attributes line).any fun word => ascii "filename" <+: behindName word

/-- A text behind a delimiter and its two bytes, for a part that has a name or a file name
already: its header lines are complete, or the last of them is cut off; each part has a name and
no file name, and at least three bytes between its blank line and the next delimiter; and behind
each delimiter comes `--`, or two more bytes and a part. -/
inductive SafeText (boundary : Bytes) : Bool → Bool → Bytes → Prop where
  | cut {named filed : Bool} {rest : Bytes} (filled : rest ≠ []) (noCrlf : ¬ crlf <:+: rest) :
      SafeText boundary named filed rest
  | line {named filed : Bool} {line rest : Bytes} (complete : PartHeader line)
      (later : SafeText boundary (named || names line) (filed || files line) rest) :
      SafeText boundary named filed (line ++ (crlf ++ rest))
  | last {value rest : Bytes} (delimited : Leftmost.At boundary (value ++ boundary) value.length)
      (long : 3 ≤ value.length) :
      SafeText boundary true false (crlf ++ (value ++ (boundary ++ (ascii "--" ++ rest))))
  | part {value two rest : Bytes}
      (delimited : Leftmost.At boundary (value ++ boundary) value.length)
      (long : 3 ≤ value.length) (pair : two.length = 2)
      (later : SafeText boundary false false rest) :
      SafeText boundary true false (crlf ++ (value ++ (boundary ++ (two ++ rest))))

/-- What may stand behind a delimiter. -/
def SafeBehind (boundary rest : Bytes) : Prop :=
  ascii "--" <+: rest ∨ ∃ two more, rest = two ++ more ∧ two.length = 2 ∧
    SafeText boundary false false more

/-- The body is empty, or has a delimiter and goes on safely behind the first one. -/
def SafeBody (boundary body : Bytes) : Prop :=
  body = [] ∨ ∃ front rest, body = front ++ (boundary ++ rest) ∧
    Leftmost.At boundary (front ++ boundary) front.length ∧ SafeBehind boundary rest

section Texts

variable {boundary line rest value text : Bytes} {named filed : Bool}

theorem foldl_nextKey (words : List Bytes) (key : Option Bytes) :
    (words.foldl nextKey key).isSome =
      (key.isSome || words.any fun word => ascii "name" <+: word) := by
  induction words generalizing key with
  | nil => simp
  | cons word words ih =>
      rw [List.foldl_cons, ih, List.any_cons, ← Bool.or_assoc]
      congr 1
      rw [nextKey]
      split <;> simp_all

theorem foldl_nextFilename (words : List Bytes) (filename : Option Bytes) :
    (words.foldl nextFilename filename).isSome =
      (filename.isSome || words.any fun word => ascii "filename" <+: behindName word) := by
  induction words generalizing filename with
  | nil => simp
  | cons word words ih =>
      rw [List.foldl_cons, ih, List.any_cons, ← Bool.or_assoc]
      congr 1
      rw [nextFilename]
      split <;> simp_all

theorem not_safeText_nil : ¬ SafeText boundary named filed [] := by
  intro safe
  generalize empty : ([] : Bytes) = text at safe
  cases safe with
  | cut filled => exact filled empty.symm
  | line complete => exact complete.filled (List.append_eq_nil_iff.mp empty.symm).1
  | last => exact absurd (List.append_eq_nil_iff.mp empty.symm).1 (by decide)
  | part => exact absurd (List.append_eq_nil_iff.mp empty.symm).1 (by decide)

theorem safeText_line_iff (filled : line ≠ []) (noCrlf : ¬ crlf <:+: line) :
    SafeText boundary named filed (line ++ (crlf ++ rest)) ↔
      (∀ word ∈ attributes line, Whole word) ∧
        SafeText boundary (named || names line) (filed || files line) rest := by
  constructor
  · intro safe
    generalize same : line ++ (crlf ++ rest) = text at safe
    cases safe with
    | cut _ absent => exact absurd (same ▸ crlf_infix line rest) absent
    | line complete later =>
        obtain ⟨rfl, rfl⟩ := (crlf_first noCrlf).split_unique (by decide)
          (crlf_first complete.noCrlf) same
        exact ⟨complete.whole, later⟩
    | last => exact (line_ne_blank filled noCrlf same.symm).elim
    | part => exact (line_ne_blank filled noCrlf same.symm).elim
  · intro ⟨whole, later⟩
    exact .line ⟨filled, noCrlf, whole⟩ later

theorem safeText_value_iff (nonempty : boundary ≠ [])
    (delimited : Leftmost.At boundary (value ++ boundary) value.length) :
    SafeText boundary named filed (crlf ++ (value ++ (boundary ++ rest))) ↔
      3 ≤ value.length ∧ named = true ∧ filed = false ∧ SafeBehind boundary rest := by
  constructor
  · intro safe
    generalize same : crlf ++ (value ++ (boundary ++ rest)) = text at safe
    cases safe with
    | cut _ absent => exact absurd (same ▸ crlf_infix [] _) absent
    | line complete => exact (line_ne_blank complete.filled complete.noCrlf same).elim
    | @last _ more other long =>
        obtain ⟨rfl, rfl⟩ := delimited.split_unique nonempty other (List.append_cancel_left same)
        exact ⟨long, rfl, rfl, .inl (List.prefix_append _ _)⟩
    | @part _ two more other long pair later =>
        obtain ⟨rfl, rfl⟩ := delimited.split_unique nonempty other (List.append_cancel_left same)
        exact ⟨long, rfl, rfl, .inr ⟨two, more, rfl, pair, later⟩⟩
  · rintro ⟨long, rfl, rfl, ⟨more, rfl⟩ | ⟨two, more, rfl, pair, later⟩⟩
    · exact .last delimited long
    · exact .part delimited long pair later

theorem not_safeText_undelimited (absent : ¬ boundary <:+: text) :
    ¬ SafeText boundary named filed (crlf ++ text) := by
  intro safe
  generalize same : crlf ++ text = whole at safe
  cases safe with
  | cut _ noCrlf => exact noCrlf (same ▸ crlf_infix [] _)
  | line complete => exact line_ne_blank complete.filled complete.noCrlf same
  | @last value rest =>
      apply absent
      rw [List.append_cancel_left same]
      exact ⟨value, ascii "--" ++ rest, List.append_assoc ..⟩
  | @part value two rest =>
      apply absent
      rw [List.append_cancel_left same]
      exact ⟨value, two ++ rest, List.append_assoc ..⟩

end Texts

section Runs

variable {body boundary : Bytes} {s t : FormState}

abbrev AlwaysSafe (body boundary : Bytes) (s : FormState) : Prop :=
  Always (formStep body boundary) (SafeAt body boundary) s

theorem AlwaysSafe.here (always : AlwaysSafe body boundary s) : SafeAt body boundary s :=
  always s .refl

theorem part_always_iff {front rest : Bytes} {idx : Nat} (nonempty : boundary ≠ [])
    (found : Leftmost.At boundary (front ++ boundary) front.length)
    (tail : body.drop idx = front ++ (boundary ++ rest)) (place : s.place = .part idx) :
    AlwaysSafe body boundary s ↔ ascii "--" <+: rest ∨
      ∃ two more, rest = two ++ more ∧ two.length = 2 ∧ AlwaysSafe body boundary { s with
        key := none, filename := none
        place := .header (idx + front.length + boundary.length + 2 : Nat) } := by
  have reads := part_reads nonempty place found tail
  have safe := part_safe_iff nonempty place found tail
  by_cases closing : ascii "--" <+: rest
  · rw [if_pos closing] at reads
    rw [AlwaysSafe, StepMachine.always_of_stop reads, safe]
    exact iff_of_true (.inl closing) (.inl closing)
  · rw [if_neg closing] at reads
    rw [AlwaysSafe, StepMachine.always_of_goes reads, safe]
    simp only [closing, false_or]
    constructor
    · intro ⟨room, later⟩
      refine ⟨rest.take 2, rest.drop 2, (List.take_append_drop 2 rest).symm, ?_, later⟩
      rw [List.length_take, Nat.min_eq_left room]
    · rintro ⟨two, more, rfl, pair, later⟩
      rw [List.length_append]
      exact ⟨by omega, later⟩

theorem value_always_iff {value rest : Bytes} {idx : Nat} (nonempty : boundary ≠ [])
    (found : Leftmost.At boundary (value ++ boundary) value.length)
    (tail : body.drop idx = value ++ (boundary ++ rest)) (place : s.place = .value idx) :
    AlwaysSafe body boundary s ↔ 3 ≤ value.length ∧ s.key ≠ none ∧ s.filename = none ∧
      (ascii "--" <+: rest ∨ ∃ two more, rest = two ++ more ∧ two.length = 2 ∧
        AlwaysSafe body boundary
          ⟨addData s.list s.key (storedValue s.filename (value.take (value.length - 3))),
            none, none, .header (idx + value.length + boundary.length + 2 : Nat)⟩) := by
  have safe := value_safe_iff nonempty found tail place
  by_cases long : 3 ≤ value.length
  · have later : body.drop (idx + value.length) = [] ++ (boundary ++ rest) := tail_drop tail
    rw [AlwaysSafe, StepMachine.always_of_goes (value_goes nonempty found tail long place), safe,
      ← AlwaysSafe, part_always_iff nonempty (Leftmost.at_front boundary) later rfl, and_assoc,
      and_assoc]
    rfl
  · refine iff_of_false ?_ fun both => long both.1
    intro always
    exact long (safe.mp always.here).1

/-- A value at the end of the body has no delimiter. -/
theorem unsafe_at_end {idx : Nat} (nonempty : boundary ≠ []) (inside : idx ≤ body.length)
    (last : body.drop idx = []) (place : s.place = .value idx) :
    ¬ AlwaysSafe body boundary s := by
  have absent : ¬ boundary <:+: body.drop idx := by
    rw [last, List.infix_nil]
    exact nonempty
  intro always
  exact (value_absent boundary inside absent place).1 always.here

theorem cut_always_iff {idx : Nat} (nonempty : boundary ≠ []) (place : s.place = .header idx)
    (second : 2 ≤ idx) (inside : idx ≤ body.length) (absent : ¬ crlf <:+: body.drop idx)
    (named filed : Bool) :
    AlwaysSafe body boundary s ↔ SafeText boundary named filed (body.drop idx) := by
  have across := cut_goes boundary place inside absent
  have back := cut_back body boundary
    (s := { s with place := .attributes idx ((idx : Int) - 2) }) rfl
  have here : SafeAt body boundary s := cut_safe second inside absent (.inl place)
  have there : SafeAt body boundary { s with place := .attributes idx ((idx : Int) - 2) } :=
    cut_safe second inside absent (.inr rfl)
  by_cases before : idx < body.length
  · rw [if_pos before] at back
    have cycle : Goes (formStep body boundary)
        { s with place := .attributes idx ((idx : Int) - 2) } s := by
      rw [← place] at back
      exact back
    refine iff_of_true (StepMachine.always_of_cycle across here cycle there) (.cut ?_ absent)
    rw [ne_eq, List.drop_eq_nil_iff]
    omega
  · rw [if_neg before] at back
    have last : body.drop idx = [] := List.drop_eq_nil_of_le (by omega)
    rw [AlwaysSafe, StepMachine.always_of_goes across, StepMachine.always_of_goes back, last]
    refine iff_of_false ?_ not_safeText_nil
    rintro ⟨-, -, always⟩
    exact unsafe_at_end nonempty inside last rfl always

section Later

variable {rest : Bytes} {idx : Nat} (nonempty : boundary ≠ []) (place : s.place = .header idx)
  (later : ∀ (next : Nat) (t : FormState), t.place = .header next → idx < next →
    next ≤ body.length → (AlwaysSafe body boundary t ↔
      SafeText boundary t.key.isSome t.filename.isSome (body.drop next)))
include nonempty place later

theorem blank_always_iff (tail : body.drop idx = crlf ++ rest) :
    AlwaysSafe body boundary s ↔
      SafeText boundary s.key.isSome s.filename.isSome (crlf ++ rest) := by
  have two : crlf.length = 2 := rfl
  have length := length_of_tail tail (List.append_ne_nil_of_left_ne_nil (by decide) _)
  rw [List.length_append, two] at length
  have valueTail : body.drop (idx + 2) = rest := tail_drop tail
  have blank : ¬ crlf <:+: ([] : Bytes) := by decide
  have here : SafeAt body boundary s := header_safe place tail blank
  rw [AlwaysSafe, StepMachine.always_of_goes (blank_goes place tail), and_iff_right here]
  by_cases delimited : boundary <:+: rest
  · obtain ⟨value, behind, rfl, found⟩ := Leftmost.exists_split delimited
    rw [← AlwaysSafe, safeText_value_iff nonempty found,
      value_always_iff nonempty found valueTail rfl, SafeBehind, Option.isSome_iff_ne_none,
      Option.isSome_eq_false_iff, Option.isNone_iff_eq_none]
    refine and_congr_right fun long => and_congr_right fun _ => and_congr_right fun _ => ?_
    refine or_congr_right (exists_congr fun two => exists_congr fun more => ?_)
    refine and_congr_right fun split => and_congr_right fun pair => ?_
    subst split
    have moreTail := tail_drop (tail_drop (tail_drop valueTail))
    rw [pair] at moreTail
    simp only [List.length_append] at length
    rw [later _ _ rfl (by omega) (by omega), moreTail]
    rfl
  · refine iff_of_false ?_ (not_safeText_undelimited delimited)
    intro always
    exact (value_absent boundary (by omega) (valueTail ▸ delimited) rfl).1 (AlwaysSafe.here always)

theorem line_always_iff {line : Bytes} (filled : line ≠ []) (noCrlf : ¬ crlf <:+: line)
    (tail : body.drop idx = line ++ (crlf ++ rest)) :
    AlwaysSafe body boundary s ↔
      SafeText boundary s.key.isSome s.filename.isSome (line ++ (crlf ++ rest)) := by
  have two : crlf.length = 2 := rfl
  have length := length_of_tail tail (by simp [filled])
  rw [List.length_append, List.length_append, two] at length
  have restTail : body.drop (idx + line.length + 2) = rest := tail_drop (tail_drop tail)
  rw [safeText_line_iff filled noCrlf]
  rcases line_walk boundary place tail noCrlf filled with
    ⟨whole, along⟩ | ⟨⟨word, member, bare⟩, t, fault, along, -, broken⟩
  · rw [AlwaysSafe, along.always_iff, and_iff_right whole]
    by_cases last : rest = []
    · rw [if_pos last, last]
      rw [last] at restTail
      exact iff_of_false (unsafe_at_end nonempty (by omega) restTail rfl) not_safeText_nil
    · rw [if_neg last, ← AlwaysSafe, later _ _ rfl (by omega) (by omega), restTail]
      simp only [FormState.afterLine, foldl_nextKey, foldl_nextFilename, names, files]
  · refine iff_of_false ?_ fun both => bare (both.1 word member)
    intro always
    exact broken (always t along.reaches)

end Later

/-- From a header line on all is in range exactly if the text there is safe for a part with this
key and this file name. -/
theorem header_always_iff (nonempty : boundary ≠ []) (idx : Nat) (s : FormState)
    (place : s.place = .header idx) (second : 2 ≤ idx) (inside : idx ≤ body.length) :
    AlwaysSafe body boundary s ↔
      SafeText boundary s.key.isSome s.filename.isSome (body.drop idx) := by
  induction left : body.length - idx using Nat.strongRecOn generalizing idx s with
  | ind left ih =>
      have later (next : Nat) (t : FormState) (placed : t.place = .header next)
          (behind : idx < next) (within : next ≤ body.length) : AlwaysSafe body boundary t ↔
            SafeText boundary t.key.isSome t.filename.isSome (body.drop next) :=
        ih (body.length - next) (by omega) next t placed (by omega) within rfl
      by_cases present : crlf <:+: body.drop idx
      · obtain ⟨line, rest, tail, first⟩ := Leftmost.exists_split present
        by_cases blank : line = []
        · subst blank
          rw [tail]
          exact blank_always_iff nonempty place later tail
        · rw [tail]
          exact line_always_iff nonempty place later blank (first.not_infix (by decide)) tail
      · exact cut_always_iff nonempty place second inside present _ _

end Runs

/-- Every offset, count and size of a run is in range and every entry has a key exactly
when the body is safe. -/
theorem formdata_safe_iff (list : List Node) (body boundary : Bytes) (nonempty : boundary ≠ []) :
    (∀ s, FormReaches list body boundary s → SafeAt body boundary s) ↔
      SafeBody boundary body := by
  by_cases empty : body = []
  · exact iff_of_true (fun s reaches => absurd empty reaches.1) (.inl empty)
  · have always : (∀ s, FormReaches list body boundary s → SafeAt body boundary s) ↔
        AlwaysSafe body boundary (formStart list) :=
      forall_congr' fun s => imp_congr_left (and_iff_right empty)
    rw [always, SafeBody, or_iff_right empty]
    by_cases present : boundary <:+: body
    · obtain ⟨front, rest, tail, found⟩ := Leftmost.exists_split present
      have start : body.drop 0 = front ++ (boundary ++ rest) := tail
      have behind := tail_drop (tail_drop start)
      have length := length_of_tail start (by simp [nonempty])
      rw [List.length_append, List.length_append] at length
      have only : (∃ front rest, body = front ++ (boundary ++ rest) ∧
          Leftmost.At boundary (front ++ boundary) front.length ∧ SafeBehind boundary rest) ↔
            SafeBehind boundary rest := by
        constructor
        · rintro ⟨other, more, same, also, safe⟩
          obtain ⟨-, rfl⟩ := found.split_unique nonempty also (tail.symm.trans same)
          exact safe
        · intro safe
          exact ⟨front, rest, tail, found, safe⟩
      rw [only, part_always_iff nonempty found start rfl, SafeBehind]
      refine or_congr_right (exists_congr fun two => exists_congr fun more => ?_)
      refine and_congr_right fun split => and_congr_right fun pair => ?_
      subst split
      have moreTail := tail_drop behind
      rw [pair] at moreTail
      rw [List.length_append] at length
      rw [header_always_iff nonempty _ _ rfl (by omega) (by omega), moreTail]
      rfl
    · refine iff_of_false ?_ ?_
      · intro always
        exact part_absent_unsafe present rfl always.here
      · rintro ⟨front, rest, rfl, -⟩
        exact present ⟨front, rest, List.append_assoc ..⟩

section Samples

theorem fieldLine_names : names fieldLine = true ∧ files fieldLine = false := by
  rw [names, files, attributes_fieldLine]
  decide

/-- Two fields. -/
def fieldsBody : Bytes := ascii "--B" ++ (crlf ++ (fieldLine ++ (crlf ++ (crlf ++
  (ascii "1\r\n" ++ (ascii "--B" ++ (crlf ++ (fieldLine ++ (crlf ++ (crlf ++
    (ascii "23\r\n" ++ (ascii "--B" ++ (ascii "--" ++ crlf)))))))))))))

theorem fieldsBody_safe : SafeBody (ascii "--B") fieldsBody := by
  obtain ⟨named, field⟩ := fieldLine_names
  have last : SafeText (ascii "--B") true false (crlf ++ (ascii "23\r\n" ++ (ascii "--B" ++
      (ascii "--" ++ crlf)))) :=
    .last ⟨by decide, by decide⟩ (by decide)
  have second : SafeText (ascii "--B") false false (fieldLine ++ (crlf ++ (crlf ++
      (ascii "23\r\n" ++ (ascii "--B" ++ (ascii "--" ++ crlf)))))) := by
    apply SafeText.line fieldLine_complete
    rw [named, field]
    exact last
  have first : SafeText (ascii "--B") true false (crlf ++ (ascii "1\r\n" ++ (ascii "--B" ++
      (crlf ++ (fieldLine ++ (crlf ++ (crlf ++ (ascii "23\r\n" ++ (ascii "--B" ++
        (ascii "--" ++ crlf)))))))))) :=
    .part ⟨by decide, by decide⟩ (by decide) rfl second
  have opened : SafeText (ascii "--B") false false (fieldLine ++ (crlf ++ (crlf ++
      (ascii "1\r\n" ++ (ascii "--B" ++ (crlf ++ (fieldLine ++ (crlf ++ (crlf ++
        (ascii "23\r\n" ++ (ascii "--B" ++ (ascii "--" ++ crlf)))))))))))) := by
    apply SafeText.line fieldLine_complete
    rw [named, field]
    exact first
  refine .inr ⟨[], _, (List.nil_append _).symm, Leftmost.at_front _, .inr ⟨crlf, _, ?_, ?_, opened⟩⟩
  · exact rfl
  · exact rfl

theorem formdata_safe_iff_fields : SafeBody (ascii "--B") fieldsBody ∧
    ∀ s, FormReaches [] fieldsBody (ascii "--B") s → SafeAt fieldsBody (ascii "--B") s :=
  ⟨fieldsBody_safe, (formdata_safe_iff [] fieldsBody (ascii "--B") (by decide)).mpr fieldsBody_safe⟩

/-- A body without a delimiter: `next` is `-1`. -/
theorem formdata_undelimited :
    ¬ ∀ list body boundary, boundary ≠ [] →
      ∀ s, FormReaches list body boundary s → SafeAt body boundary s := by
  intro safe
  have start := safe [] (ascii "x") (ascii "--B") (by decide) (formStart []) ⟨by decide, .refl⟩
  have next : (0 : Int) ≤ -1 := start.2.1.1
  omega

end Samples

end Ttac
