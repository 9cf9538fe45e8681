import Ttac.Request

set_option autoImplicit false

/- `parse_request` on a text with a request line, header lines, a blank line and a
body. -/
namespace Ttac

open Reading (Action Text)

def headerText (lines : List (Bytes × Bytes)) : Bytes :=
  lines.flatMap fun line => line.1 ++ ascii ": " ++ line.2 ++ crlf

/-- A message as it is sent. -/
def messageText (method target version : Bytes) (lines : List (Bytes × Bytes)) (body : Bytes) :
    Bytes :=
  method ++ ascii " " ++ target ++ ascii " " ++ version ++ crlf ++ headerText lines ++ crlf ++ body

/-- The node `parse_request` makes of a header line. -/
def lineNode (line : Bytes × Bytes) : Node := Node.entry (toLower line.1, line.2)

/-- Text that stays within one line of the stream. -/
structure LineText (text : Bytes) : Prop where
  noCrlf : ¬ crlf <:+: text
  noNul : (0 : UInt8) ∉ text
  noEnd : endChar ∉ text

theorem LineText.join {v w : Bytes} {sep : UInt8} (left : LineText v) (right : LineText w)
    (notCr : sep ≠ chr '\r') (notLf : sep ≠ chr '\n') (notNul : sep ≠ 0) (notEnd : sep ≠ endChar) :
    LineText (v ++ sep :: w) := by
  have avoids : sep ∉ crlf := by
    simp only [show crlf = [chr '\r', chr '\n'] from rfl, List.mem_cons, List.not_mem_nil, or_false,
      not_or]
    exact ⟨notCr, notLf⟩
  refine ⟨Leftmost.not_infix_over avoids left.noCrlf right.noCrlf, ?_, ?_⟩
  · simp only [List.mem_append, List.mem_cons, not_or]
    exact ⟨left.noNul, notNul.symm, right.noNul⟩
  · simp only [List.mem_append, List.mem_cons, not_or]
    exact ⟨left.noEnd, notEnd.symm, right.noEnd⟩

theorem LineText.of_noCr {text : Bytes} (noCr : chr '\r' ∉ text) (noNul : (0 : UInt8) ∉ text)
    (noEnd : endChar ∉ text) : LineText text := by
  refine ⟨fun occurs => noCr ?_, noNul, noEnd⟩
  exact occurs.subset (by decide)

theorem requestLine_text (method target version : Bytes) (methodNoSpace : chr ' ' ∉ method)
    (targetNoSpace : chr ' ' ∉ target)
    (noNul : (0 : UInt8) ∉ method ++ chr ' ' :: (target ++ chr ' ' :: version)) :
    requestLine (some (method ++ chr ' ' :: (target ++ chr ' ' :: version))) =
      .ok (method, target, version) := by
  let line := method ++ chr ' ' :: (target ++ chr ' ' :: version)
  have behindFirst : line.drop (method.length + 1) = target ++ chr ' ' :: version := by
    rw [← List.drop_drop, List.drop_left]
    rfl
  have behindSecond : line.drop (method.length + 1 + (target.length + 1)) = version := by
    rw [← List.drop_drop, behindFirst, ← List.drop_drop, List.drop_left]
    rfl
  have length : line.length = method.length + 1 + (target.length + 1) + version.length := by
    simp only [line, List.length_append, List.length_cons]
    omega
  have first := findIdx_append method (target ++ chr ' ' :: version) (chr ' ') methodNoSpace
  have second := findIdx_append target version (chr ' ') targetNoSpace
  have methodCopy : strncpy line 0 method.length = .ok method := by
    have copied := strncpy_ok line 0 method.length (Nat.zero_le _)
    rwa [List.drop_zero, List.take_left] at copied
  have targetCopy : strncpy line (method.length + 1) target.length = .ok target := by
    have copied := strncpy_ok line (method.length + 1) target.length (by omega)
    rwa [behindFirst, List.take_left, Int.natCast_add, Int.natCast_one] at copied
  have versionCopy : strncpy line (method.length + 1 + (target.length + 1)) version.length =
      .ok version := by
    have copied := strncpy_ok line (method.length + 1 + (target.length + 1)) version.length
      (by omega)
    rwa [behindSecond, List.take_length, Int.natCast_add, Int.natCast_add, Int.natCast_add,
      Int.natCast_one] at copied
  have clean : cstr line = line := cstr_of_not_mem line noNul
  have position : ((method.length : Int) + 1).toNat = method.length + 1 := by omega
  have pathCount :
      (target.length : Int) + method.length + 1 - method.length - 1 = target.length := by
    omega
  have versionStart : (target.length : Int) + method.length + 1 + 1 =
      method.length + 1 + (target.length + 1) := by omega
  have versionCount : (line.length : Int) - (target.length + method.length + 1) - 1 =
      version.length := by omega
  change requestLine (some line) = _
  simp only [requestLine, clean]
  rw [show findIdx line (chr ' ') = method.length from first, position, behindFirst, second,
    methodCopy, pathCount, targetCopy, versionStart, versionCount, versionCopy]
  rfl

/-- A header line: a name, and what stands behind its colon. -/
def fieldText (field : Bytes × Bytes) : Bytes := field.1 ++ chr ':' :: field.2

/-- What `parse_request` makes of it: the byte behind the colon is skipped, whatever it is. -/
def fieldNode (field : Bytes × Bytes) : Node := Node.entry (toLower field.1, field.2.drop 1)

theorem headerLine_field (header : List Node) (field : Bytes × Bytes)
    (noColon : chr ':' ∉ field.1) (noNul : (0 : UInt8) ∉ fieldText field) :
    headerLine header (fieldText field) = .ok (header ++ [fieldNode field]) := by
  obtain ⟨key, rest⟩ := field
  have length : (fieldText (key, rest)).length = key.length + 1 + rest.length := by
    simp only [fieldText, List.length_append, List.length_cons]
    omega
  have idx : findIdx (fieldText (key, rest)) (chr ':') = key.length :=
    findIdx_append key rest (chr ':') noColon
  have keyCopy : strncpy (fieldText (key, rest)) 0 key.length = .ok key := by
    have copied := strncpy_ok (fieldText (key, rest)) 0 key.length (Nat.zero_le _)
    rwa [List.drop_zero, fieldText, List.take_left] at copied
  have count : ((fieldText (key, rest)).length : Int) - key.length - 1 = (rest.length : Nat) := by
    omega
  have valueCopy : strncpy (fieldText (key, rest)) (key.length + 2)
      ((fieldText (key, rest)).length - key.length - 1) = .ok (rest.drop 1) := by
    rw [count]
    cases rest with
    | nil => rfl
    | cons c rest =>
        have behind : (fieldText (key, c :: rest)).drop (key.length + 2) = rest := by
          rw [fieldText, ← List.drop_drop, List.drop_left]
          rfl
        -- one byte more than the value is asked for: the copy stops at the terminator
        have copied := strncpy_ok (fieldText (key, c :: rest)) (key.length + 2) (rest.length + 1)
          (by rw [length, List.length_cons]; omega)
        rw [behind, List.take_of_length_le (Nat.le_succ _)] at copied
        exact copied
  rw [headerLine, cstr_of_not_mem _ noNul, idx, if_pos (by omega), keyCopy, valueCopy]
  rfl

/-- A header line the reader takes as it is meant. -/
structure HeaderLine (line : Bytes × Bytes) : Prop where
  noColon : chr ':' ∉ line.1
  key : LineText line.1
  value : LineText line.2

/-- The lines of a header block, each with its CRLF. -/
def blockText (fields : List (Bytes × Bytes)) : Bytes :=
  fields.flatMap fun field => fieldText field ++ crlf

theorem blockText_cons (field : Bytes × Bytes) (fields : List (Bytes × Bytes)) :
    blockText (field :: fields) = fieldText field ++ crlf ++ blockText fields :=
  List.flatMap_cons ..

theorem fieldText_length_le {fields : List (Bytes × Bytes)} {field : Bytes × Bytes}
    (member : field ∈ fields) :
    (fieldText field ++ crlf).length ≤ (blockText fields).length := by
  obtain ⟨before, after, rfl⟩ := List.append_of_mem member
  rw [blockText, List.flatMap_append, List.flatMap_cons]
  simp only [List.length_append]
  omega

theorem headerLoop_blank (junk : Junk) (header : List Node) (w : Bytes) (ended : Bool) :
    headerLoop textReader junk header ⟨crlf ++ w, ended⟩ = (.ok header, ⟨w, ended⟩) :=
  headerLoop_none (getLine_text junk [] w ended (by decide) (by decide) (by decide))

section Fields

variable (junk : Junk) (header : List Node) {field : Bytes × Bytes}
  (text : LineText (fieldText field))
  (w : Bytes) (ended : Bool)

include text

/-- A line that fits the largest buffer gives its node. -/
theorem headerLoop_field (noColon : chr ':' ∉ field.1)
    (short : (fieldText field ++ crlf).length < lineLimit) :
    headerLoop textReader junk header ⟨fieldText field ++ crlf ++ w, ended⟩ =
      headerLoop textReader junk (header ++ [fieldNode field]) ⟨w, ended⟩ := by
  have read := getLine_crlf junk w ended text.noCrlf text.noEnd short
  rw [if_neg (by simp [fieldText])] at read
  rw [headerLoop_some read, headerLine_field header field noColon text.noNul]

theorem headerLoop_tooLong (long : lineLimit ≤ (fieldText field ++ crlf).length) :
    ∃ fault t, headerLoop textReader junk header ⟨fieldText field ++ crlf ++ w, ended⟩ =
      (.error fault, t) := by
  obtain ⟨fault, t, failed⟩ := getLine_crlf_tooLong junk w ended text.noCrlf text.noEnd long
  exact ⟨fault, t, headerLoop_error failed⟩

end Fields

theorem headerLoop_fields (junk : Junk) (fields : List (Bytes × Bytes)) (header : List Node)
    (w : Bytes) (ended : Bool) (noColon : ∀ field ∈ fields, chr ':' ∉ field.1)
    (text : ∀ field ∈ fields, LineText (fieldText field))
    (short : ∀ field ∈ fields, (fieldText field ++ crlf).length < lineLimit) :
    headerLoop textReader junk header ⟨blockText fields ++ crlf ++ w, ended⟩ =
      (.ok (header ++ fields.map fieldNode), ⟨w, ended⟩) := by
  induction fields generalizing header with
  | nil =>
      rw [List.map_nil, List.append_nil]
      exact headerLoop_blank junk header w ended
  | cons field fields ih =>
      rw [List.forall_mem_cons] at noColon text short
      have first := headerLoop_field junk header text.1 (blockText fields ++ crlf ++ w) ended
        noColon.1 short.1
      rw [← List.append_assoc, ← List.append_assoc] at first
      rw [blockText_cons, first, ih _ noColon.2 text.2 short.2, List.append_assoc]
      rfl

theorem headerLoop_text (junk : Junk) (lines : List (Bytes × Bytes)) (header : List Node)
    (w : Bytes) (ended : Bool) (fine : ∀ line ∈ lines, HeaderLine line)
    (short : (headerText lines).length < 2 ^ 29) :
    headerLoop textReader junk header ⟨headerText lines ++ crlf ++ w, ended⟩ =
      (.ok (header ++ lines.map lineNode), ⟨w, ended⟩) := by
  -- each line is a field with one space behind the colon
  let spaced : Bytes × Bytes → Bytes × Bytes := fun line => (line.1, chr ' ' :: line.2)
  have shape : headerText lines = blockText (lines.map spaced) := by
    simp [headerText, blockText, fieldText, spaced, List.flatMap_map, ascii]
  have nodes : (lines.map spaced).map fieldNode = lines.map lineNode := by
    rw [List.map_map]
    rfl
  have limit : 2 ^ 29 < lineLimit := by decide
  rw [shape] at short ⊢
  rw [← nodes]
  apply headerLoop_fields
  · intro field member
    obtain ⟨line, inside, rfl⟩ := List.mem_map.mp member
    exact (fine line inside).noColon
  · intro field member
    obtain ⟨line, inside, rfl⟩ := List.mem_map.mp member
    have space : LineText ([] ++ chr ' ' :: line.2) :=
      LineText.join ⟨by decide, by decide, by decide⟩ (fine line inside).value (by decide)
        (by decide) (by decide) (by decide)
    exact (fine line inside).key.join space (by decide) (by decide) (by decide) (by decide)
  · intro field member
    have part := fieldText_length_le member
    omega

theorem findValue_lines_absent (lines : List (Bytes × Bytes)) (key : Bytes)
    (absent : ∀ line ∈ lines, toLower line.1 ≠ key) :
    findValue (lines.map lineNode) key = .ok none := by
  have entries : lines.map lineNode =
      (lines.map fun line => (toLower line.1, line.2)).map Node.entry := by
    rw [List.map_map]
    rfl
  rw [entries, findValue_entries, List.find?_eq_none.mpr]
  · rfl
  · intro pair member
    obtain ⟨line, inside, rfl⟩ := List.mem_map.mp member
    simpa using absent line inside

/-- A header line whose key no other line has is the one that is found. -/
theorem findValue_lines_only (lines : List (Bytes × Bytes)) (line : Bytes × Bytes)
    (present : line ∈ lines)
    (only : ∀ other ∈ lines, toLower other.1 = toLower line.1 → other = line) :
    findValue (lines.map lineNode) (toLower line.1) = .ok (some line.2) := by
  induction lines with
  | nil => cases present
  | cons first lines ih =>
      rw [List.map_cons, findValue]
      dsimp only [lineNode, Node.entry]
      by_cases same : toLower first.1 = toLower line.1
      · rw [if_pos same, only first (by simp) same]
      · rw [if_neg same]
        have later : line ∈ lines := by
          rcases List.mem_cons.mp present with rfl | inside
          · exact absurd rfl same
          · exact inside
        exact ih later (fun other member => only other (by simp [member]))

theorem readBody_absent (header : List Node) (w : Bytes) (ended : Bool)
    (absent : findValue header (ascii "content-length") = .ok none) :
    readBody textReader header ⟨w, ended⟩ = (.ok none, ⟨w, ended⟩) := by
  have looked : (Action.lift (findValue header (ascii "content-length")) :
      Action (Text UInt8) Fault (Option Bytes)) ⟨w, ended⟩ = (.ok none, ⟨w, ended⟩) := by
    rw [absent]
    rfl
  rw [readBody, Action.bind_ok looked]
  rfl

theorem readBody_announced (header : List Node) (body w : Bytes) (ended : Bool)
    (announced : findValue header (ascii "content-length") = .ok (some (decimal body.length)))
    (short : body.length < 2 ^ 29) :
    readBody textReader header ⟨body ++ w, ended⟩ = (.ok (some body), ⟨w, ended⟩) := by
  have looked : (Action.lift (findValue header (ascii "content-length")) :
      Action (Text UInt8) Fault (Option Bytes)) ⟨body ++ w, ended⟩ =
        (.ok (some (decimal body.length)), ⟨body ++ w, ended⟩) := by
    rw [announced]
    rfl
  have read := readSz_text body w ended short
  rw [readBody, Action.bind_ok looked]
  dsimp only
  rw [atoi_decimal _ (by omega), Action.bind_ok read]
  rfl

/-- A message within the limits of the reader. -/
structure Message (method target version : Bytes) (lines : List (Bytes × Bytes)) (body : Bytes) :
    Prop where
  methodText : LineText method
  methodNoSpace : chr ' ' ∉ method
  targetText : LineText target
  targetNoSpace : chr ' ' ∉ target
  versionText : LineText version
  headerLines : ∀ line ∈ lines, HeaderLine line
  short : (messageText method target version lines body).length < 2 ^ 29

/-- A message is read up to its end: what is left is to find its parameters. -/
theorem parseRequest_text {method target version body : Bytes} {lines : List (Bytes × Bytes)}
    (message : Message method target version lines body) (junk : Junk) (fuel : Nat) (w : Bytes)
    (ended : Bool) (stored : Option Bytes)
    (read : readBody textReader (lines.map lineNode) ⟨body ++ w, ended⟩ =
      (.ok stored, ⟨w, ended⟩)) :
    parseRequest textReader junk fuel ⟨messageText method target version lines body ++ w, ended⟩ =
      (finishRequest junk fuel method target version (lines.map lineNode) stored, ⟨w, ended⟩) := by
  let first := method ++ chr ' ' :: (target ++ chr ' ' :: version)
  have shape : messageText method target version lines body ++ w =
      first ++ crlf ++ (headerText lines ++ crlf ++ (body ++ w)) := by
    simp [messageText, first, ascii]
  have short := message.short
  have length : (messageText method target version lines body).length =
      first.length + 2 + (headerText lines).length + 2 + body.length := by
    simp only [messageText, first, List.length_append, List.length_cons,
      show crlf.length = 2 from rfl, show (ascii " ").length = 1 from rfl]
    omega
  have text : LineText first :=
    message.methodText.join
      (message.targetText.join message.versionText (by decide) (by decide) (by decide) (by decide))
      (by decide) (by decide) (by decide) (by decide)
  have line := getLine_text junk first (headerText lines ++ crlf ++ (body ++ w)) ended text.noCrlf
    text.noEnd (by omega)
  rw [if_neg (by simp [first])] at line
  have split : (Action.lift (requestLine (some first)) :
      Action (Text UInt8) Fault (Bytes × Bytes × Bytes))
        ⟨headerText lines ++ crlf ++ (body ++ w), ended⟩ =
          (.ok (method, target, version), ⟨headerText lines ++ crlf ++ (body ++ w), ended⟩) := by
    rw [requestLine_text method target version message.methodNoSpace message.targetNoSpace
      text.noNul]
    rfl
  have header : readHeader textReader junk ⟨headerText lines ++ crlf ++ (body ++ w), ended⟩ =
      (.ok (lines.map lineNode), ⟨body ++ w, ended⟩) :=
    headerLoop_text junk lines [] (body ++ w) ended message.headerLines
      (by omega)
  rw [shape, parseRequest, Action.bind_ok line, Action.bind_ok split]
  dsimp only
  rw [Action.bind_ok header, Action.bind_ok read]
  rfl

end Ttac
