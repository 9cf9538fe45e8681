import Ttac.RequestChunking
import Ttac.RequestText

set_option autoImplicit false

/- The optional white space of a header value: `parse_request` skips one byte behind the colon,
so that it reads a block of lines as they are meant only where each line has one there. -/
namespace Ttac

open Reading (Action Text)

/-- A header line, with any white space before its value. -/
structure FieldLine where
  name : Bytes
  ows : Bytes
  value : Bytes

namespace FieldLine

def field (line : FieldLine) : Bytes × Bytes := (line.name, line.ows ++ line.value)

/-- `name ':' ows value`, on one line of the stream. -/
structure WellFormed (line : FieldLine) : Prop where
  noColon : chr ':' ∉ line.name
  blank : ∀ c ∈ line.ows, c = chr ' ' ∨ c = chr '\t'
  trimmed : (∀ c ∈ line.value.head?, isSpace c = false) ∧
    ∀ c ∈ line.value.getLast?, isSpace c = false
  text : LineText (fieldText line.field)

/-- The entry that was sent. -/
def node (line : FieldLine) : Node := Node.entry (toLower line.name, line.value)

/-- The white space is one byte, or there is neither white space nor a value. -/
def OneByte (line : FieldLine) : Prop :=
  line.ows.length = 1 ∨ (line.ows = [] ∧ line.value = [])

theorem fieldNode_eq_iff (line : FieldLine) : fieldNode line.field = line.node ↔ line.OneByte := by
  have values :
      fieldNode line.field = line.node ↔ (line.ows ++ line.value).drop 1 = line.value := by
    simp [fieldNode, node, field, Node.entry]
  rw [values, OneByte]
  constructor
  · intro same
    have lengths := congrArg List.length same
    rw [List.length_drop, List.length_append] at lengths
    by_cases one : line.ows.length = 1
    · exact Or.inl one
    · right
      have empty : line.ows.length = 0 ∧ line.value.length = 0 := by omega
      exact ⟨List.eq_nil_of_length_eq_zero empty.1, List.eq_nil_of_length_eq_zero empty.2⟩
  · rintro (one | ⟨noOws, noValue⟩)
    · rw [← one, List.drop_left]
    · rw [noOws, noValue]
      rfl

end FieldLine

/-- The header list is exactly what was sent, and the stream is left behind the blank line. -/
def HeaderSent (junk : Junk) (lines : List FieldLine) (w : Bytes) (s : Stream) : Prop :=
  ∃ t ended, readHeader Stream.reader junk s = (.ok (lines.map FieldLine.node), t) ∧
    Delivers t ⟨w, ended⟩

/-- One line that is too long makes the whole block undefined behaviour. -/
theorem headerLoop_overflow (junk : Junk) (fields : List (Bytes × Bytes)) (header : List Node)
    (w : Bytes) (ended : Bool) (noColon : ∀ field ∈ fields, chr ':' ∉ field.1)
    (text : ∀ field ∈ fields, LineText (fieldText field))
    (long : ¬ ∀ field ∈ fields, (fieldText field ++ crlf).length < lineLimit) :
    ∃ fault t, headerLoop textReader junk header ⟨blockText fields ++ crlf ++ w, ended⟩ =
      (.error fault, t) := by
  induction fields generalizing header with
  | nil => exact absurd (List.forall_mem_nil _) long
  | cons field fields ih =>
      rw [List.forall_mem_cons] at noColon text long
      have shape : blockText (field :: fields) ++ crlf ++ w =
          fieldText field ++ crlf ++ (blockText fields ++ crlf ++ w) := by
        rw [blockText_cons]
        simp only [List.append_assoc]
      rw [shape]
      by_cases short : (fieldText field ++ crlf).length < lineLimit
      · rw [headerLoop_field junk header text.1 _ ended noColon.1 short]
        exact ih _ noColon.2 text.2 (fun later => long ⟨short, later⟩)
      · exact headerLoop_tooLong junk header text.1 _ ended (Nat.le_of_not_lt short)

/-- A block of well-formed lines is read as it was sent exactly if each line has one byte of
white space, or neither white space nor a value, and fits the largest buffer. -/
theorem readHeader_whitespace_iff (junk : Junk) {lines : List FieldLine} {w : Bytes} {s : Stream}
    {ended : Bool} (wellFormed : ∀ line ∈ lines, line.WellFormed)
    (delivers : Delivers s
      ⟨blockText (lines.map FieldLine.field) ++ crlf ++ w, ended⟩) :
    HeaderSent junk lines w s ↔ ∀ line ∈ lines, line.OneByte ∧
      (fieldText line.field ++ crlf).length < lineLimit := by
  have noColon : ∀ field ∈ lines.map FieldLine.field, chr ':' ∉ field.1 := by
    rw [List.forall_mem_map]
    exact fun line member => (wellFormed line member).noColon
  have text : ∀ field ∈ lines.map FieldLine.field, LineText (fieldText field) := by
    rw [List.forall_mem_map]
    exact fun line member => (wellFormed line member).text
  rw [HeaderSent, delivers.run_iff (readHeader_respects deliverySimulation junk), forall₂_and]
  by_cases short : ∀ line ∈ lines, (fieldText line.field ++ crlf).length < lineLimit
  · have read := headerLoop_fields junk (lines.map FieldLine.field) [] w ended noColon text
      (by rwa [List.forall_mem_map])
    rw [List.nil_append, List.map_map] at read
    rw [readHeader, read, and_iff_left short]
    constructor
    · intro ⟨ended', given⟩
      have same := Except.ok.inj (Prod.mk.inj given).1
      rw [List.map_inj_left] at same
      exact fun line member => line.fieldNode_eq_iff.mp (same line member)
    · intro one
      refine ⟨ended, ?_⟩
      rw [List.map_congr_left (fun line member => line.fieldNode_eq_iff.mpr (one line member))]
  · obtain ⟨fault, t, failed⟩ := headerLoop_overflow junk (lines.map FieldLine.field) [] w ended
      noColon text (by rwa [List.forall_mem_map])
    rw [readHeader, failed]
    constructor
    · intro ⟨ended', given⟩
      cases given
    · intro fine
      exact absurd fine.2 short

/-- `Host: x` as browsers send it. -/
def hostLine : FieldLine := ⟨ascii "Host", ascii " ", ascii "x"⟩

theorem hostLine_wellFormed : hostLine.WellFormed := by
  refine ⟨by decide, ?_, ⟨?_, ?_⟩, by decide, by decide, by decide⟩
  · intro c member
    exact Or.inl (List.mem_singleton.mp member)
  · intro c member
    cases member
    rfl
  · intro c member
    cases member
    rfl

def hostBlock : Delivery (blockText [hostLine.field] ++ crlf ++ []) :=
  .single _ (by decide) (by decide)

theorem readHeader_whitespace_iff_sample :
    HeaderSent none [hostLine] [] hostBlock.stream ↔ ∀ line ∈ [hostLine], line.OneByte ∧
      (fieldText line.field ++ crlf).length < lineLimit :=
  readHeader_whitespace_iff none (List.forall_mem_singleton.mpr hostLine_wellFormed)
    hostBlock.delivers

/-- `Content-Length:12`, without white space. -/
def tightLine : FieldLine := ⟨ascii "Content-Length", [], ascii "12"⟩

theorem tightLine_wellFormed : tightLine.WellFormed := by
  refine ⟨by decide, ?_, ⟨?_, ?_⟩, by decide, by decide, by decide⟩
  · exact List.forall_mem_nil _
  · intro c member
    cases member
    rfl
  · intro c member
    cases member
    rfl

def tightBlock : Delivery (blockText [tightLine.field] ++ crlf ++ []) :=
  .single _ (by decide) (by decide)

/-- The content length is read as 2. -/
theorem readHeader_whitespace_tight : tightLine.WellFormed ∧
    Delivers tightBlock.stream ⟨blockText [tightLine.field] ++ crlf ++ [], false⟩ ∧
      ∀ junk, (readHeader Stream.reader junk tightBlock.stream).1 =
          .ok [Node.entry (ascii "content-length", ascii "2")] ∧
        ¬ HeaderSent junk [tightLine] [] tightBlock.stream := by
  refine ⟨tightLine_wellFormed, tightBlock.delivers, fun junk => ?_⟩
  have respects := readHeader_respects deliverySimulation junk
  have read := headerLoop_fields junk [tightLine.field] [] [] false (by decide)
    (List.forall_mem_singleton.mpr tightLine_wellFormed.text) (by decide)
  have given : (readHeader Stream.reader junk tightBlock.stream).1 =
      .ok [Node.entry (ascii "content-length", ascii "2")] := by
    rw [(tightBlock.delivers.run respects).1, readHeader, read]
    rfl
  refine ⟨given, ?_⟩
  rintro ⟨t, ended, sent, -⟩
  rw [sent] at given
  have same := Except.ok.inj given
  revert same
  decide

end Ttac
