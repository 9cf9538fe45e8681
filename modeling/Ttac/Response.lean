import Ttac.RequestChunking
import Ttac.RequestText

set_option autoImplicit false

/- `response` of `http.c`, and `parse_request` reading what it wrote. -/
namespace Ttac

/-- The header lines, `dprintf(sock,"%s: %s\r\n",it->key,it->value)`. -/
def responseLines : List Node → Except Fault Bytes
  | [] => .ok []
  | it :: next =>
    match it.key with
    | none => .error .nullPointer
    | some key => do
      let lines ← responseLines next
      pure (key ++ ascii ": " ++ it.value ++ crlf ++ lines)

/-- `if(header!=NULL)`. -/
def responseHeader (header : Option (List Node)) : Except Fault Bytes :=
  match header with
  | none => .ok []
  | some header => responseLines header

/-- The bytes `response` writes. The body is measured before it is tested for `NULL`. -/
def response (statusCode : Int) (statusMsg httpVersion : Bytes) (header : Option (List Node))
    (body : Option Bytes) : Except Fault Bytes := do
  let status := httpVersion ++ ascii " " ++ decimalInt statusCode ++ ascii " " ++ statusMsg ++ crlf
  let lines ← responseHeader header
  match body with
  | none => .error .nullPointer
  | some body =>
    pure (status ++ lines ++ ascii "content-length: " ++ decimal body.length ++ crlf ++ crlf ++
      body)

/-- The line `response` adds to the header. -/
def contentLength (body : Bytes) : Bytes × Bytes := (ascii "content-length", decimal body.length)

theorem responseLines_entries (entries : List (Bytes × Bytes)) :
    responseLines (entries.map Node.entry) = .ok (headerText entries) := by
  induction entries with
  | nil => rfl
  | cons pair rest ih =>
      simp only [List.map_cons, responseLines, Node.entry, ih, bind, Except.bind, pure, Except.pure]
      rfl

theorem headerText_append (first second : List (Bytes × Bytes)) :
    headerText (first ++ second) = headerText first ++ headerText second := List.flatMap_append

/-- What `response` writes is a message with one more header line. -/
theorem response_eq (statusCode : Int) (statusMsg httpVersion body : Bytes)
    (header : Option (List Node)) (entries : List (Bytes × Bytes))
    (holds : header.getD [] = entries.map Node.entry) :
    response statusCode statusMsg httpVersion header (some body) =
      .ok (messageText httpVersion (decimalInt statusCode) statusMsg
        (entries ++ [contentLength body]) body) := by
  have lines : responseHeader header = .ok (headerText entries) := by
    cases header with
    | none =>
        obtain rfl : entries = [] := List.map_eq_nil_iff.mp holds.symm
        rfl
    | some header =>
        obtain rfl : header = entries.map Node.entry := holds
        exact responseLines_entries entries
  have last : headerText [contentLength body] =
      ascii "content-length: " ++ decimal body.length ++ crlf := by
    simp [headerText, contentLength, ascii]
  simp only [response, lines, bind, Except.bind, pure, Except.pure, messageText, headerText_append,
    last, List.append_assoc]

/-- What the reader needs of the arguments of `response`. -/
structure ResponseInput (statusMsg httpVersion : Bytes) (entries : List (Bytes × Bytes)) :
    Prop where
  versionText : LineText httpVersion
  versionNoSpace : chr ' ' ∉ httpVersion
  notGet : isGet httpVersion = false
  notPost : isPost httpVersion = false
  msgText : LineText statusMsg
  lines : ∀ line ∈ entries, HeaderLine line
  notLength : ∀ line ∈ entries, toLower line.1 ≠ ascii "content-length"

/-- The reader gives back what the writer was given, the keys in lower case and the
length of the body added. -/
theorem parseRequest_response {statusMsg httpVersion : Bytes} {entries : List (Bytes × Bytes)}
    (input : ResponseInput statusMsg httpVersion entries) (statusCode : Int) (body : Bytes)
    (header : Option (List Node)) (holds : header.getD [] = entries.map Node.entry)
    (junk : Junk) (fuel : Nat) :
    ∃ data, response statusCode statusMsg httpVersion header (some body) = .ok data ∧
      (data.length < 2 ^ 29 → ∀ d : Delivery data,
        (parseRequest Stream.reader junk fuel d.stream).1 =
          .ok (some ⟨httpVersion, decimalInt statusCode, statusMsg,
            entries.map lineNode ++ [⟨some (ascii "content-length"), decimal body.length⟩],
            some body, []⟩)) := by
  refine ⟨_, response_eq statusCode statusMsg httpVersion body header entries holds, ?_⟩
  intro short d
  have lengthLine : HeaderLine (contentLength body) := by
    refine ⟨?_, ?_, ?_⟩
    · change chr ':' ∉ ascii "content-length"
      decide
    · change LineText (ascii "content-length")
      exact .of_noCr (by decide) (by decide) (by decide)
    · exact .of_noCr (decimal_not_mem _ (by decide)) (decimal_not_mem _ (by decide))
        (decimal_not_mem _ (by decide))
  have message : Message httpVersion (decimalInt statusCode) statusMsg
      (entries ++ [contentLength body]) body := by
    refine ⟨input.versionText, input.versionNoSpace, ?_, ?_, input.msgText, ?_, short⟩
    · exact .of_noCr (decimalInt_not_mem _ (by decide) (by decide))
        (decimalInt_not_mem _ (by decide) (by decide))
        (decimalInt_not_mem _ (by decide) (by decide))
    · exact decimalInt_not_mem _ (by decide) (by decide)
    · intro line member
      rcases List.mem_append.mp member with inside | last
      · exact input.lines line inside
      · rwa [List.mem_singleton.mp last]
  have found : findValue ((entries ++ [contentLength body]).map lineNode) (ascii "content-length") =
      .ok (some (decimal body.length)) := by
    rw [List.map_append, findValue_append _ _ _ (findValue_lines_absent _ _ input.notLength)]
    rfl
  have bodyShort : body.length < 2 ^ 29 := by
    simp only [messageText, List.length_append] at short
    omega
  have read := parseRequest_text message junk fuel [] false _
    (readBody_announced _ body [] false found bodyShort)
  rw [List.append_nil] at read
  have query : queryParameter httpVersion (decimalInt statusCode) [] = .ok [] := by
    rw [queryParameter, input.notGet, if_neg Bool.false_ne_true]
  rw [(parseRequest_delivers d junk fuel).1, read,
    finishRequest_ok query (bodyParameter_other input.notPost junk fuel _ _ _), Option.map_some,
    List.map_append]
  rfl

def sampleHeader : List (Bytes × Bytes) := [(ascii "Content-Type", ascii "a: b")]

theorem sampleHeader_input : ResponseInput (ascii "Not Found") (ascii "HTTP/1.1") sampleHeader := by
  have line : HeaderLine (ascii "Content-Type", ascii "a: b") :=
    ⟨by decide, .of_noCr (by decide) (by decide) (by decide),
      .of_noCr (by decide) (by decide) (by decide)⟩
  refine ⟨.of_noCr (by decide) (by decide) (by decide), by decide, by decide, by decide,
    .of_noCr (by decide) (by decide) (by decide), ?_, by decide⟩
  intro other member
  rwa [List.mem_singleton.mp member]

theorem parseRequest_response_sample :
    ∃ data, response 404 (ascii "Not Found") (ascii "HTTP/1.1")
        (some (sampleHeader.map Node.entry)) (some (ascii "gone")) = .ok data ∧
      (data.length < 2 ^ 29 → ∀ d : Delivery data,
        (parseRequest Stream.reader none 0 d.stream).1 =
          .ok (some ⟨ascii "HTTP/1.1", ascii "404", ascii "Not Found",
            [⟨some (ascii "content-type"), ascii "a: b"⟩,
              ⟨some (ascii "content-length"), ascii "4"⟩],
            some (ascii "gone"), []⟩)) :=
  parseRequest_response sampleHeader_input 404 (ascii "gone") _ rfl none 0

end Ttac
