import Ttac.FormdataSteps

set_option autoImplicit false

/- `parse_formdata` on a body that follows the multipart format. -/
namespace Ttac

open StepMachine (Step Goes Reaches Yields)

structure FormPart where
  name : Bytes
  value : Bytes
  deriving DecidableEq, Repr

def disposition (name : Bytes) : Bytes :=
  ascii "Content-Disposition: form-data; name=\"" ++ name ++ ascii "\""

def partText (delimiter : Bytes) (part : FormPart) : Bytes :=
  delimiter ++ crlf ++ disposition part.name ++ crlf ++ crlf ++ part.value ++ crlf

def formText (delimiter : Bytes) (parts : List FormPart) : Bytes :=
  parts.flatMap (partText delimiter) ++ delimiter ++ ascii "--" ++ crlf

/-- Header lines, each with its line end. -/
def partHeaders (lines : List Bytes) : Bytes := lines.flatMap (· ++ crlf)

/-- What a part of the format may hold, for the delimiter of its body. -/
structure FormPart.WellFormed (delimiter : Bytes) (part : FormPart) : Prop where
  noQuote : chr '"' ∉ part.name
  noSemicolon : chr ';' ∉ part.name
  noCr : chr '\r' ∉ part.name
  noLf : chr '\n' ∉ part.name
  nameNoNul : (0 : UInt8) ∉ part.name
  nameNoDelimiter : ¬ delimiter <:+: part.name
  noDelimiter : ¬ delimiter <:+: part.value
  valueNoNul : (0 : UInt8) ∉ part.value

/-- The entry the format means. -/
def FormPart.node (part : FormPart) : Node := ⟨some part.name, part.value⟩

/-- The key as `parse_formdata` stores it. -/
def FormPart.quotedName (part : FormPart) : Bytes := ascii "\"" ++ part.name ++ ascii "\""

/-- What `parse_formdata` does with the parts: it leaves the quotes on the key, stops
one byte short of the end of the value and decodes the rest of it. An empty value
makes the count `-1`. -/
def storedParts (list : List Node) : List FormPart → Except Fault (List Node)
  | [] => .ok list
  | part :: parts =>
    if part.value = [] then .error (.negativeCount (-1))
    else
      let value := cstr (percentDecode part.value.dropLast)
      storedParts (addData list (some part.quotedName) value) parts

section Tail

variable {body boundary : Bytes} {idx : Nat} {s : FormState}

/-- A delimiter line: on to the first header line. -/
theorem part_goes {rest : Bytes} (nonempty : boundary ≠ []) (place : s.place = .part idx)
    (tail : body.drop idx = boundary ++ (crlf ++ rest)) :
    Goes (formStep body boundary) s
      { s with key := none, filename := none
               place := .header (idx + boundary.length + 2 : Nat) } := by
  have open_ : ¬ ascii "--" <+: crlf ++ rest := by
    intro starts
    have dash : chr '-' = chr '\r' := (List.cons_prefix_cons.mp starts).1
    exact absurd dash (by decide)
  rw [Goes, part_reads nonempty place (Leftmost.at_front boundary) tail, if_neg open_]
  rfl

/-- The closing delimiter ends the run. -/
theorem part_stops {rest : Bytes} (nonempty : boundary ≠ []) (place : s.place = .part idx)
    (tail : body.drop idx = boundary ++ (ascii "--" ++ rest)) :
    formStep body boundary s = .stop (.ok s.list) := by
  rw [part_reads nonempty place (Leftmost.at_front boundary) tail, if_pos (List.prefix_append _ _)]

/-- The delimiter behind a value and its line end is the first one. -/
theorem delimited_first {value : Bytes} (nonempty : boundary ≠ [])
    (noCr : chr '\r' ∉ boundary) (noLf : chr '\n' ∉ boundary) (absent : ¬ boundary <:+: value) :
    Leftmost.At boundary ((value ++ crlf) ++ boundary) (value ++ crlf).length := by
  have found := Leftmost.at_after_two [] nonempty noCr noLf absent
  rw [List.append_nil] at found
  rw [List.length_append]
  exact found

/-- A value that is not empty is stored without its last byte, decoded. -/
theorem field_goes {value rest : Bytes} (nonempty : boundary ≠ [])
    (noCr : chr '\r' ∉ boundary) (noLf : chr '\n' ∉ boundary)
    (absent : ¬ boundary <:+: value) (filled : value ≠ [])
    (place : s.place = .value idx)
    (tail : body.drop idx = value ++ (crlf ++ (boundary ++ rest))) :
    Goes (formStep body boundary) s
      { s with
        list := addData s.list s.key (storedValue s.filename value.dropLast)
        place := .part (idx + value.length + 2 : Nat) } := by
  have positive := List.length_pos_of_ne_nil filled
  have two : crlf.length = 2 := rfl
  have length : (value ++ crlf).length = value.length + 2 := List.length_append ..
  rw [← List.append_assoc] at tail
  have goes := value_goes nonempty (delimited_first nonempty noCr noLf absent) tail
    (by omega) place
  have content : (value ++ crlf).take ((value ++ crlf).length - 3) = value.dropLast := by
    rw [length, List.take_append_of_le_length (by omega), List.dropLast_eq_take]
    rfl
  rw [content, length] at goes
  exact goes

/-- For an empty value the count handed to `malloc` and `strncpy` is `-1`. -/
theorem field_faults {rest : Bytes} (nonempty : boundary ≠ [])
    (noCr : chr '\r' ∉ boundary) (noLf : chr '\n' ∉ boundary)
    (place : s.place = .value idx) (tail : body.drop idx = crlf ++ (boundary ++ rest)) :
    formStep body boundary s = .stop (.error (.negativeCount (-1))) := by
  have absent : ¬ boundary <:+: [] := by simpa using nonempty
  exact value_short nonempty (delimited_first nonempty noCr noLf absent) tail (by decide) place

/-- Header lines and the blank line behind them: on to the value. -/
theorem headers_reach (boundary : Bytes) {rest : Bytes} (lines : List Bytes)
    (complete : ∀ line ∈ lines, PartHeader line) (idx : Nat) (s : FormState)
    (place : s.place = .header idx) (tail : body.drop idx = partHeaders lines ++ (crlf ++ rest)) :
    ∃ later : Nat, body.drop later = rest ∧ Reaches (formStep body boundary) s
      ⟨s.list, (lines.flatMap attributes).foldl nextKey s.key,
        (lines.flatMap attributes).foldl nextFilename s.filename, .value later⟩ := by
  induction lines generalizing idx s with
  | nil =>
      have blank : body.drop idx = crlf ++ rest := tail
      exact ⟨idx + 2, tail_drop blank, Reaches.of_goes (blank_goes place blank)⟩
  | cons line lines ih =>
      rw [List.forall_mem_cons] at complete
      obtain ⟨whole, others⟩ := complete
      have here : body.drop idx = line ++ (crlf ++ (partHeaders lines ++ (crlf ++ rest))) := by
        rw [tail, partHeaders, List.flatMap_cons]
        simp only [List.append_assoc, partHeaders]
      have more : partHeaders lines ++ (crlf ++ rest) ≠ [] :=
        List.append_ne_nil_of_right_ne_nil _ (List.append_ne_nil_of_left_ne_nil (by decide) _)
      rcases line_walk boundary place here whole.noCrlf whole.filled with
        ⟨-, along⟩ | ⟨⟨word, member, bare⟩, -⟩
      · rw [if_neg more] at along
        obtain ⟨later, behind, reaches⟩ := ih others (idx + line.length + 2)
          (s.afterLine line (.header (idx + line.length + 2 : Nat))) rfl
          (tail_drop (tail_drop here))
        refine ⟨later, behind, along.reaches.trans ?_⟩
        rw [List.flatMap_cons, List.foldl_append, List.foldl_append]
        exact reaches
      · exact absurd (whole.whole word member) bare

/-- A part from its delimiter to its value. -/
theorem part_reaches {rest : Bytes} (nonempty : boundary ≠ []) (lines : List Bytes)
    (complete : ∀ line ∈ lines, PartHeader line) (place : s.place = .part idx)
    (tail : body.drop idx = boundary ++ (crlf ++ (partHeaders lines ++ (crlf ++ rest)))) :
    ∃ later : Nat, body.drop later = rest ∧ Reaches (formStep body boundary) s
      ⟨s.list, (lines.flatMap attributes).foldl nextKey none,
        (lines.flatMap attributes).foldl nextFilename none, .value later⟩ := by
  obtain ⟨later, behind, reaches⟩ := headers_reach boundary lines complete
    (idx + boundary.length + 2)
    { s with key := none, filename := none
             place := .header (idx + boundary.length + 2 : Nat) } rfl (tail_drop (tail_drop tail))
  exact ⟨later, behind, (Reaches.of_goes (part_goes nonempty place tail)).trans reaches⟩

end Tail

section Disposition

variable {part : FormPart} {delimiter : Bytes}

theorem attributes_disposition (fine : part.WellFormed delimiter) :
    attributes (disposition part.name) =
      [ascii "Content-Disposition: form-data", ascii "name=" ++ part.quotedName] := by
  have split : disposition part.name = ascii "Content-Disposition: form-data" ++
      chr ';' :: chr ' ' :: (ascii "name=" ++ part.quotedName) := by
    simp [disposition, FormPart.quotedName, ascii]
  have noSemicolon : chr ';' ∉ ascii "name=" ++ part.quotedName := by
    simp only [FormPart.quotedName, List.mem_append, not_or]
    exact ⟨by decide, ⟨by decide, fine.noSemicolon⟩, by decide⟩
  rw [split, attributes_cons (by decide), attributes_last (by simp [ascii]) noSemicolon]

/-- A name in quotes is neither empty nor a file name. -/
theorem whole_quoted (name : Bytes) : Whole (ascii "name=" ++ (ascii "\"" ++ name)) := by
  have named : ascii "name" <+: ascii "name=" ++ (ascii "\"" ++ name) :=
    ⟨ascii "=" ++ (ascii "\"" ++ name), rfl⟩
  constructor
  · intro same
    have lengths := congrArg List.length same
    simp [ascii] at lengths
  · rw [behindName, if_pos named]
    intro same
    exact absurd (List.cons.inj same).1 (by decide)

theorem disposition_complete (fine : part.WellFormed delimiter) :
    PartHeader (disposition part.name) := by
  refine ⟨by simp [disposition, ascii], ?_, ?_⟩
  · intro occurs
    have noCr : chr '\r' ∉ disposition part.name := by
      simp only [disposition, List.mem_append, not_or]
      exact ⟨⟨by decide, fine.noCr⟩, by decide⟩
    exact noCr (occurs.subset (List.mem_cons_self ..))
  · rw [attributes_disposition fine, List.forall_mem_cons, List.forall_mem_singleton,
      FormPart.quotedName, List.append_assoc]
    exact ⟨by decide, whole_quoted _⟩

theorem nextKey_name (key : Option Bytes) (value : Bytes) :
    nextKey key (ascii "name=" ++ value) = some value :=
  if_pos ⟨ascii "=" ++ value, rfl⟩

/-- What follows `name=` is looked at for a file name, and a quote is none. -/
theorem nextFilename_name (filename : Option Bytes) (value : Bytes) :
    nextFilename filename (ascii "name=" ++ (ascii "\"" ++ value)) = filename := by
  have named : ascii "name" <+: ascii "name=" ++ (ascii "\"" ++ value) :=
    ⟨ascii "=" ++ (ascii "\"" ++ value), rfl⟩
  have behind : behindName (ascii "name=" ++ (ascii "\"" ++ value)) = ascii "\"" ++ value :=
    if_pos named
  rw [nextFilename, behind]
  apply if_neg
  intro starts
  exact absurd (List.cons_prefix_cons.mp starts).1 (by decide)

/-- The key of a part is the name between its quotes, the quotes included. -/
theorem disposition_reads (fine : part.WellFormed delimiter) :
    (attributes (disposition part.name)).foldl nextKey none = some part.quotedName ∧
      (attributes (disposition part.name)).foldl nextFilename none = none := by
  have passed : nextFilename none (ascii "Content-Disposition: form-data") = none := by decide
  rw [attributes_disposition fine, List.foldl_cons, List.foldl_cons, List.foldl_cons,
    List.foldl_cons, passed, nextKey_name, FormPart.quotedName, List.append_assoc,
    nextFilename_name]
  exact ⟨rfl, rfl⟩

end Disposition

theorem formText_cons (delimiter : Bytes) (part : FormPart) (parts : List FormPart) :
    formText delimiter (part :: parts) = partText delimiter part ++ formText delimiter parts := by
  simp only [formText, List.flatMap_cons, List.append_assoc]

theorem formText_starts (delimiter : Bytes) (parts : List FormPart) :
    ∃ rest, formText delimiter parts = delimiter ++ rest := by
  cases parts with
  | nil => exact ⟨ascii "--" ++ crlf, by simp [formText]⟩
  | cons part parts => exact ⟨_, by simp only [formText_cons, partText, List.append_assoc]; rfl⟩

/-- The run over the parts that are left, from a delimiter on. -/
theorem formText_yields {boundary : Bytes} (nonempty : boundary ≠ [])
    (noCr : chr '\r' ∉ boundary) (noLf : chr '\n' ∉ boundary) (parts : List FormPart)
    (fine : ∀ part ∈ parts, part.WellFormed boundary) (body : Bytes) (idx : Nat) (s : FormState)
    (place : s.place = .part idx) (tail : body.drop idx = formText boundary parts) :
    Yields (formStep body boundary) s (storedParts s.list parts) := by
  induction parts generalizing idx s with
  | nil =>
      rw [formText, List.flatMap_nil, List.nil_append, List.append_assoc] at tail
      exact Yields.of_stop (part_stops nonempty place tail)
  | cons part parts ih =>
      obtain ⟨rest, starts⟩ := formText_starts boundary parts
      have wellFormed := fine part (by simp)
      rw [formText_cons, partText, starts] at tail
      simp only [List.append_assoc] at tail
      have header : crlf ++ (disposition part.name ++ (crlf ++ (crlf ++ (part.value ++
          (crlf ++ (boundary ++ rest)))))) = crlf ++ (partHeaders [disposition part.name] ++
            (crlf ++ (part.value ++ (crlf ++ (boundary ++ rest))))) := by
        simp only [partHeaders, List.flatMap_cons, List.flatMap_nil, List.append_nil,
          List.append_assoc]
      rw [header] at tail
      obtain ⟨later, valueTail, reached⟩ := part_reaches nonempty [disposition part.name]
        (List.forall_mem_singleton.mpr (disposition_complete wellFormed)) place tail
      rw [List.flatMap_singleton, (disposition_reads wellFormed).1,
        (disposition_reads wellFormed).2] at reached
      rw [storedParts, reached.yields_iff]
      by_cases empty : part.value = []
      · rw [if_pos empty]
        rw [empty, List.nil_append] at valueTail
        exact Yields.of_stop (field_faults nonempty noCr noLf rfl valueTail)
      · rw [if_neg empty]
        have stored : Goes (formStep body boundary)
            ⟨s.list, some part.quotedName, none, .value later⟩
            ⟨addData s.list (some part.quotedName) (cstr (percentDecode part.value.dropLast)),
              some part.quotedName, none, .part (later + part.value.length + 2 : Nat)⟩ :=
          field_goes nonempty noCr noLf wellFormed.noDelimiter empty rfl valueTail
        rw [StepMachine.yields_iff_of_goes stored]
        refine ih (fun part member => fine part (by simp [member])) (later + part.value.length + 2)
          _ rfl ?_
        rw [starts]
        exact tail_drop (tail_drop valueTail)

/-- Whatever is stored, it is not what the format means: the keys are longer. -/
theorem storedParts_ne (parts : List FormPart) (nonempty : parts ≠ []) (list : List Node) :
    storedParts list parts ≠ .ok (list ++ parts.map FormPart.node) := by
  have general : ∀ (parts : List FormPart) (list stored : List Node),
      storedParts list parts = .ok stored →
        ∃ values : List Bytes, values.length = parts.length ∧
          stored = list ++ List.zipWith (fun part value => Node.entry (part.quotedName, value))
            parts values := by
    intro parts
    induction parts with
    | nil =>
        intro list stored same
        cases same
        exact ⟨[], rfl, by simp⟩
    | cons part parts ih =>
        intro list stored same
        rw [storedParts] at same
        split at same
        · cases same
        · obtain ⟨values, count, rfl⟩ := ih _ _ same
          refine ⟨cstr (percentDecode part.value.dropLast) :: values, by simp [count], ?_⟩
          simp [addData, Node.entry]
  intro same
  obtain ⟨values, count, stored⟩ := general parts list _ same
  have tails := List.append_cancel_left stored
  cases parts with
  | nil => exact nonempty rfl
  | cons part parts =>
      cases values with
      | nil => cases count
      | cons value values =>
          simp only [List.map_cons, List.zipWith_cons_cons, List.cons.injEq, FormPart.node,
            Node.entry, Node.mk.injEq, Option.some.injEq] at tails
          have lengths := congrArg List.length tails.1.1
          simp only [FormPart.quotedName, List.length_append] at lengths
          have quote : (ascii "\"").length = 1 := rfl
          omega

/-- A boundary text and the parts of a standard body for it. -/
structure MultipartInput (boundary : Bytes) (parts : List FormPart) : Prop where
  nonempty : boundary ≠ []
  noCr : chr '\r' ∉ boundary
  noLf : chr '\n' ∉ boundary
  noNul : (0 : UInt8) ∉ boundary
  someParts : parts ≠ []
  fine : ∀ part ∈ parts, part.WellFormed (ascii "--" ++ boundary)

/-- The parts of a standard body are never what is read back from it. -/
theorem formText_never_roundTrips {boundary : Bytes} {parts : List FormPart}
    (input : MultipartInput boundary parts) (list : List Node) :
    let delimiter := ascii "--" ++ boundary
    FormResult list (formText delimiter parts) delimiter (storedParts list parts) ∧
      ¬ FormResult list (formText delimiter parts) delimiter
        (.ok (list ++ parts.map FormPart.node)) := by
  intro delimiter
  have nonempty : delimiter ≠ [] := List.append_ne_nil_of_left_ne_nil (by decide) _
  have noCr : chr '\r' ∉ delimiter := by
    simp only [delimiter, List.mem_append, not_or]
    exact ⟨by decide, input.noCr⟩
  have noLf : chr '\n' ∉ delimiter := by
    simp only [delimiter, List.mem_append, not_or]
    exact ⟨by decide, input.noLf⟩
  obtain ⟨rest, starts⟩ := formText_starts delimiter parts
  have filled : formText delimiter parts ≠ [] := by
    rw [starts]
    exact List.append_ne_nil_of_left_ne_nil nonempty _
  have yields := formText_yields nonempty noCr noLf parts input.fine
    (formText delimiter parts) 0 (formStart list) rfl rfl
  simp only [formResult_iff list _ delimiter filled]
  refine ⟨yields, fun same => ?_⟩
  exact storedParts_ne parts input.someParts list (yields.unique same)

def fieldPart : FormPart := ⟨ascii "a", ascii "12"⟩

theorem fieldPart_input : MultipartInput (ascii "B") [fieldPart] := by
  refine ⟨by decide, by decide, by decide, by decide, by decide, ?_⟩
  intro part member
  rw [List.mem_singleton.mp member]
  exact ⟨by decide, by decide, by decide, by decide, by decide, by decide, by decide, by decide⟩

theorem formText_never_roundTrips_field :
    ¬ FormResult [] (formText (ascii "--B") [fieldPart]) (ascii "--B")
      (.ok [⟨some (ascii "a"), ascii "12"⟩]) :=
  (formText_never_roundTrips fieldPart_input []).2

/-- The part `a` with the value `12` comes back as `"a"` with the value `1`. -/
theorem formText_field_broken :
    ¬ ∀ (boundary : Bytes) (parts : List FormPart), MultipartInput boundary parts →
      ∀ list, FormResult list (formText (ascii "--" ++ boundary) parts) (ascii "--" ++ boundary)
        (.ok (list ++ parts.map FormPart.node)) := by
  intro roundTrips
  have claimed := roundTrips (ascii "B") [fieldPart] fieldPart_input []
  rw [formResult_iff _ _ _ (by decide)] at claimed
  have yields : Yields (formStep (formText (ascii "--B") [fieldPart]) (ascii "--B"))
      (formStart []) (storedParts (formStart []).list [fieldPart]) :=
    formText_yields (by decide) (by decide) (by decide) [fieldPart] fieldPart_input.fine _ 0 _ rfl
      rfl
  have stored : storedParts [] [fieldPart] = .ok [⟨some (ascii "\"a\""), ascii "1"⟩] := by decide
  rw [formStart, stored] at yields
  exact absurd (claimed.unique yields) (by decide)

end Ttac
