import Ttac.FormdataRun
import Ttac.FormdataSafety

set_option autoImplicit false

/- What `parse_formdata` stores for an uploaded file, and what can be told from it. -/
namespace Ttac

open StepMachine (Step Goes Reaches Yields)

def quoted (text : Bytes) : Bytes := ascii "\"" ++ text ++ ascii "\""

/-- A file in a form, with the header lines that follow its first one. -/
structure Upload where
  name : Bytes
  filename : Bytes
  lines : List Bytes
  content : Bytes
  deriving DecidableEq, Repr

namespace Upload

def disposition (upload : Upload) : Bytes :=
  ascii "Content-Disposition: form-data; name=" ++ quoted upload.name ++
    ascii "; filename=" ++ quoted upload.filename

/-- The body of a form with this file alone. -/
def text (delimiter : Bytes) (upload : Upload) : Bytes :=
  delimiter ++ (crlf ++ (partHeaders (upload.disposition :: upload.lines) ++ (crlf ++
    (upload.content ++ (crlf ++ (delimiter ++ (ascii "--" ++ crlf)))))))

/-- What the format allows as a delimiter and in the texts of an upload. -/
structure WellFormed (delimiter : Bytes) (upload : Upload) : Prop where
  nonempty : delimiter ≠ []
  noCr : chr '\r' ∉ delimiter
  noLf : chr '\n' ∉ delimiter
  nameNoSemicolon : chr ';' ∉ upload.name
  nameNoCr : chr '\r' ∉ upload.name
  filenameNoSemicolon : chr ';' ∉ upload.filename
  filenameNoCr : chr '\r' ∉ upload.filename
  complete : ∀ line ∈ upload.lines, PartHeader line
  unnamed : ∀ line ∈ upload.lines, names line = false ∧ files line = false
  noDelimiter : ¬ delimiter <:+: upload.content
  noNul : (0 : UInt8) ∉ upload.filename ∧ (0 : UInt8) ∉ upload.content

/-- `parse_formdata` makes this value of the file. -/
def Builds (delimiter : Bytes) (upload : Upload) (value : Bytes) : Prop :=
  ∃ key, FormResult [] (upload.text delimiter) delimiter (.ok [⟨key, value⟩])

/-- One file name, and contents that differ in their last byte only. -/
def LastByteOnly (first second : Upload) : Prop :=
  first.filename = second.filename ∧ ∃ front a b, a ≠ b ∧
    first.content = front ++ [a] ∧ second.content = front ++ [b]

end Upload

section Uploads

variable {delimiter : Bytes} {upload first second : Upload}

theorem attributes_upload (fine : upload.WellFormed delimiter) :
    attributes upload.disposition = [ascii "Content-Disposition: form-data",
      ascii "name=" ++ quoted upload.name, ascii "filename=" ++ quoted upload.filename] := by
  have split : upload.disposition = ascii "Content-Disposition: form-data" ++
      chr ';' :: chr ' ' :: ((ascii "name=" ++ quoted upload.name) ++
        chr ';' :: chr ' ' :: (ascii "filename=" ++ quoted upload.filename)) := by
    simp [Upload.disposition, ascii]
  have nameFree : chr ';' ∉ ascii "name=" ++ quoted upload.name := by
    simp only [quoted, List.mem_append, not_or]
    exact ⟨by decide, ⟨by decide, fine.nameNoSemicolon⟩, by decide⟩
  have filenameFree : chr ';' ∉ ascii "filename=" ++ quoted upload.filename := by
    simp only [quoted, List.mem_append, not_or]
    exact ⟨by decide, ⟨by decide, fine.filenameNoSemicolon⟩, by decide⟩
  rw [split, attributes_cons (by decide), attributes_cons nameFree,
    attributes_last (by simp [ascii]) filenameFree]

theorem behindName_filename (value : Bytes) :
    behindName (ascii "filename=" ++ value) = ascii "filename=" ++ value := by
  apply if_neg
  intro starts
  exact absurd (List.cons_prefix_cons.mp starts).1 (by decide)

theorem nextKey_filename (key : Option Bytes) (value : Bytes) :
    nextKey key (ascii "filename=" ++ value) = key := by
  apply if_neg
  intro starts
  exact absurd (List.cons_prefix_cons.mp starts).1 (by decide)

theorem nextFilename_filename (filename : Option Bytes) (value : Bytes) :
    nextFilename filename (ascii "filename=" ++ value) = some value := by
  rw [nextFilename, behindName_filename]
  exact if_pos ⟨ascii "=" ++ value, rfl⟩

theorem disposition_upload (fine : upload.WellFormed delimiter) :
    PartHeader upload.disposition := by
  refine ⟨by simp [Upload.disposition, ascii], ?_, ?_⟩
  · intro occurs
    have noCr : chr '\r' ∉ upload.disposition := by
      simp only [Upload.disposition, quoted, List.mem_append, not_or]
      exact ⟨⟨⟨by decide, ⟨by decide, fine.nameNoCr⟩, by decide⟩, by decide⟩,
        ⟨by decide, fine.filenameNoCr⟩, by decide⟩
    exact noCr (occurs.subset (List.mem_cons_self ..))
  · rw [attributes_upload fine, List.forall_mem_cons, List.forall_mem_cons,
      List.forall_mem_singleton, quoted, quoted, List.append_assoc]
    refine ⟨by decide, whole_quoted _, ?_, ?_⟩
    · intro same
      exact absurd (List.cons.inj same).1 (by decide)
    · rw [behindName_filename]
      intro same
      have lengths := congrArg List.length same
      simp [ascii] at lengths

/-- Lines without a name or a file name leave both as they are. -/
theorem foldl_unnamed (lines : List Bytes)
    (unnamed : ∀ line ∈ lines, names line = false ∧ files line = false)
    (key filename : Option Bytes) :
    (lines.flatMap attributes).foldl nextKey key = key ∧
      (lines.flatMap attributes).foldl nextFilename filename = filename := by
  have quiet : ∀ word ∈ lines.flatMap attributes,
      ¬ ascii "name" <+: word ∧ ¬ ascii "filename" <+: behindName word := by
    intro word member
    obtain ⟨line, inside, own⟩ := List.mem_flatMap.mp member
    obtain ⟨noName, noFile⟩ := unnamed line inside
    rw [names, List.any_eq_false] at noName
    rw [files, List.any_eq_false] at noFile
    exact ⟨by simpa using noName word own, by simpa using noFile word own⟩
  generalize lines.flatMap attributes = words at quiet
  induction words with
  | nil => exact ⟨rfl, rfl⟩
  | cons word words ih =>
      rw [List.forall_mem_cons] at quiet
      rw [List.foldl_cons, List.foldl_cons, nextKey, if_neg quiet.1.1, nextFilename,
        if_neg quiet.1.2]
      exact ih quiet.2

/-- What is read of the header lines of an upload. -/
theorem upload_reads (fine : upload.WellFormed delimiter) :
    ((upload.disposition :: upload.lines).flatMap attributes).foldl nextKey none =
        some (quoted upload.name) ∧
      ((upload.disposition :: upload.lines).flatMap attributes).foldl nextFilename none =
        some (quoted upload.filename) := by
  have passed : nextFilename none (ascii "Content-Disposition: form-data") = none := by decide
  have named : nextFilename none (ascii "name=" ++ quoted upload.name) = none := by
    rw [quoted, List.append_assoc]
    exact nextFilename_name none _
  rw [List.flatMap_cons, attributes_upload fine, List.foldl_append, List.foldl_append]
  simp only [List.foldl_cons, List.foldl_nil, nextKey_name, nextKey_filename, passed, named,
    nextFilename_filename]
  exact foldl_unnamed upload.lines fine.unnamed _ _

/-- A file is stored under its name in quotes without the last byte of its content, and an empty
one makes the count `-1`. -/
theorem upload_stored (fine : upload.WellFormed delimiter) (result : Except Fault (List Node)) :
    FormResult [] (upload.text delimiter) delimiter result ↔
      result = if upload.content = [] then .error (.negativeCount (-1)) else
        .ok [⟨some (quoted upload.name),
          fileText (quoted upload.filename) upload.content.dropLast⟩] := by
  have filled : upload.text delimiter ≠ [] := List.append_ne_nil_of_left_ne_nil fine.nonempty _
  obtain ⟨later, tail, reaches⟩ := part_reaches fine.nonempty (upload.disposition :: upload.lines)
    (List.forall_mem_cons.mpr ⟨disposition_upload fine, fine.complete⟩)
    (rfl : (formStart []).place = .part (0 : Nat))
    (List.drop_zero : (upload.text delimiter).drop 0 = upload.text delimiter)
  rw [(upload_reads fine).1, (upload_reads fine).2] at reaches
  rw [formResult_iff _ _ _ filled, reaches.yields_iff]
  have same {outcome : Except Fault (List Node)}
      (yields : Yields (formStep (upload.text delimiter) delimiter)
        ⟨[], some (quoted upload.name), some (quoted upload.filename), .value later⟩ outcome) :
      Yields (formStep (upload.text delimiter) delimiter)
        ⟨[], some (quoted upload.name), some (quoted upload.filename), .value later⟩ result ↔
          result = outcome :=
    ⟨fun also => also.unique yields, fun same => same ▸ yields⟩
  by_cases empty : upload.content = []
  · rw [if_pos empty]
    rw [empty, List.nil_append] at tail
    exact same (Yields.of_stop (field_faults fine.nonempty fine.noCr fine.noLf rfl tail))
  · rw [if_neg empty]
    have stored := field_goes (s := ⟨[], some (quoted upload.name),
      some (quoted upload.filename), .value later⟩) fine.nonempty fine.noCr fine.noLf
      fine.noDelimiter empty rfl tail
    have closed : (upload.text delimiter).drop (later + upload.content.length + 2) =
        delimiter ++ (ascii "--" ++ crlf) := tail_drop (tail_drop tail)
    apply same
    rw [StepMachine.yields_iff_of_goes stored]
    exact Yields.of_stop (part_stops fine.nonempty rfl closed)

theorem builds_iff (fine : upload.WellFormed delimiter) (value : Bytes) :
    upload.Builds delimiter value ↔ upload.content ≠ [] ∧
      value = fileText (quoted upload.filename) upload.content.dropLast := by
  simp only [Upload.Builds, upload_stored fine]
  by_cases empty : upload.content = []
  · simp [empty]
  · simp only [empty, ↓reduceIte, Except.ok.injEq, List.cons.injEq, Node.mk.injEq, and_true,
      ne_eq, not_false_eq_true, true_and]
    exact ⟨fun ⟨_, _, same⟩ => same, fun same => ⟨_, rfl, same⟩⟩

theorem fileText_injective {filename content otherName otherContent : Bytes}
    (same : fileText filename content = fileText otherName otherContent) :
    filename = otherName ∧ content = otherContent := by
  have splits := splitFile_fileText filename content
  rw [same, splitFile_fileText, Prod.mk.injEq] at splits
  exact ⟨splits.1.symm, splits.2.symm⟩

theorem quoted_injective : Function.Injective quoted := by
  intro first second same
  exact List.append_cancel_left (List.append_cancel_right same)

theorem lastByteOnly_iff : first.LastByteOnly second ↔
    first.filename = second.filename ∧ first.content ≠ [] ∧ second.content ≠ [] ∧
      first.content.dropLast = second.content.dropLast ∧ first.content ≠ second.content := by
  constructor
  · rintro ⟨name, front, a, b, differ, one, two⟩
    rw [one, two]
    refine ⟨name, by simp, by simp, by simp, ?_⟩
    intro same
    exact differ (List.cons.inj (List.append_cancel_left same)).1
  · rintro ⟨name, one, two, front, differ⟩
    refine ⟨name, first.content.dropLast, first.content.getLast one, second.content.getLast two,
      ?_, (List.dropLast_append_getLast one).symm, ?_⟩
    · intro same
      apply differ
      rw [← List.dropLast_append_getLast one, same, front, List.dropLast_append_getLast two]
    · rw [front]
      exact (List.dropLast_append_getLast two).symm

/-- What two files have in common if one value is made of both. -/
theorem uploads_same_iff {otherDelimiter : Bytes} (fine : first.WellFormed delimiter)
    (other : second.WellFormed otherDelimiter) :
    (∃ value, first.Builds delimiter value ∧ second.Builds otherDelimiter value) ↔
      first.filename = second.filename ∧ first.content ≠ [] ∧ second.content ≠ [] ∧
        first.content.dropLast = second.content.dropLast := by
  constructor
  · rintro ⟨value, built, builtToo⟩
    obtain ⟨one, same⟩ := (builds_iff fine value).mp built
    obtain ⟨two, sameToo⟩ := (builds_iff other value).mp builtToo
    obtain ⟨name, front⟩ := fileText_injective (same.symm.trans sameToo)
    exact ⟨quoted_injective name, one, two, front⟩
  · rintro ⟨name, one, two, front⟩
    refine ⟨_, (builds_iff fine _).mpr ⟨one, rfl⟩, (builds_iff other _).mpr ⟨two, ?_⟩⟩
    rw [name, front]

/-- What a value gives back is never what was uploaded. -/
theorem upload_unrecovered (fine : upload.WellFormed delimiter) {value : Bytes}
    (built : upload.Builds delimiter value) :
    splitFile value = (quoted upload.filename, upload.content.dropLast) ∧
      (splitFile value).1 ≠ upload.filename ∧ (splitFile value).2 ≠ upload.content := by
  obtain ⟨filled, rfl⟩ := (builds_iff fine value).mp built
  rw [splitFile_fileText]
  refine ⟨rfl, ?_, ?_⟩
  · intro same
    have lengths := congrArg List.length same
    have quote : (ascii "\"").length = 1 := rfl
    simp only [quoted, List.length_append] at lengths
    omega
  · intro same
    have lengths := congrArg List.length same
    have positive := List.length_pos_of_ne_nil filled
    simp only [List.length_dropLast] at lengths
    omega

end Uploads

section Samples

/-- The file `f` of the field `a`. -/
def fileUpload (content : Bytes) : Upload :=
  ⟨ascii "a", ascii "f", [ascii "Content-Type: text/plain"], content⟩

theorem fileUpload_wellFormed {content : Bytes} (noDelimiter : ¬ ascii "--B" <:+: content)
    (noNul : (0 : UInt8) ∉ content) : (fileUpload content).WellFormed (ascii "--B") := by
  have typeLine : attributes (ascii "Content-Type: text/plain") =
      [ascii "Content-Type: text/plain"] := attributes_last (by decide) (by decide)
  have nameFree : chr ';' ∉ ascii "a" ∧ chr '\r' ∉ ascii "a" := by decide
  have filenameFree : chr ';' ∉ ascii "f" ∧ chr '\r' ∉ ascii "f" ∧ (0 : UInt8) ∉ ascii "f" := by
    decide
  refine ⟨by decide, by decide, by decide, nameFree.1, nameFree.2, filenameFree.1,
    filenameFree.2.1, ?_, ?_, noDelimiter, filenameFree.2.2, noNul⟩
  · intro line member
    rw [List.mem_singleton.mp member]
    refine ⟨by decide, by decide, ?_⟩
    rw [typeLine]
    decide
  · intro line member
    rw [List.mem_singleton.mp member, names, files, typeLine]
    decide

end Samples

end Ttac
