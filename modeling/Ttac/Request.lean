import Ttac.Formdata

set_option autoImplicit false

/- `parse_request` of `http.c`, over any source of characters. -/
namespace Ttac

open Reading (Reader Action)

structure Request where
  method : Bytes
  path : Bytes
  version : Bytes
  header : List Node
  body : Option Bytes
  parameter : List Node
  deriving DecidableEq, Repr

/-- The first line, split at its first two spaces. -/
def requestLine (line : Option Bytes) : Except Fault (Bytes × Bytes × Bytes) :=
  match line with
  | none => .error .nullPointer
  | some buffer => do
    let line := cstr buffer
    let first := findIdx line (chr ' ')
    let second := findIdx (line.drop (first + 1).toNat) (chr ' ') + first + 1
    let len := line.length
    let method ← strncpy line 0 first
    let path ← strncpy line (first + 1) (second - first - 1)
    let version ← strncpy line (second + 1) (len - second - 1)
    pure (method, path, version)

/-- One header line; a line without `:` is dropped. -/
def headerLine (header : List Node) (buffer : Bytes) : Except Fault (List Node) :=
  let line := cstr buffer
  let idx := findIdx line (chr ':')
  if idx ≠ -1 then do
    let key ← strncpy line 0 idx
    let value ← strncpy line (idx + 2) (line.length - idx - 1)
    pure (addData header (some (toLower key)) value)
  else pure header

section Source

variable {σ : Type} (R : Reader Fault endChar σ)

/-- The header loop, up to the line that `get_line` reports as `NULL`. -/
def headerLoop (junk : Junk) (header : List Node) (s : σ) : Except Fault (List Node) × σ :=
  match _ : getLine R junk crlf s with
  | (.error f, s) => (.error f, s)
  | (.ok none, s) => (.ok header, s)
  | (.ok (some line), s) =>
    match headerLine header line with
    | .error f => (.error f, s)
    | .ok header => headerLoop junk header s
termination_by R.size s
decreasing_by exact getLine_size R junk crlf line _ _ (by assumption)

variable {R} in
theorem headerLoop_error {junk : Junk} {header : List Node} {s t : σ} {f : Fault}
    (given : getLine R junk crlf s = (.error f, t)) :
    headerLoop R junk header s = (.error f, t) := by
  rw [headerLoop]
  split <;> rename_i other <;> rw [given] at other <;> cases other
  rfl

variable {R} in
theorem headerLoop_none {junk : Junk} {header : List Node} {s t : σ}
    (given : getLine R junk crlf s = (.ok none, t)) :
    headerLoop R junk header s = (.ok header, t) := by
  rw [headerLoop]
  split <;> rename_i other <;> rw [given] at other <;> cases other
  rfl

variable {R} in
theorem headerLoop_some {junk : Junk} {header : List Node} {s t : σ} {line : Bytes}
    (given : getLine R junk crlf s = (.ok (some line), t)) :
    headerLoop R junk header s =
      match headerLine header line with
      | .error f => (.error f, t)
      | .ok header => headerLoop R junk header t := by
  rw [headerLoop]
  split <;> rename_i other <;> rw [given] at other <;> cases other
  rfl

def readHeader (junk : Junk) : Action σ Fault (List Node) := headerLoop R junk []

/-- The body, when there is a content length. -/
def readBody (header : List Node) : Action σ Fault (Option Bytes) := do
  match ← Action.lift (findValue header (ascii "content-length")) with
  | none => pure none
  | some length => do
    let body ← readSz R (atoi length)
    pure (some body)

end Source

def isGet (method : Bytes) : Bool := method = ascii "get" || method = ascii "GET"

def isPost (method : Bytes) : Bool := method = ascii "post" || method = ascii "POST"

/-- The parameters of a `GET`: what follows the first `?` of the target. -/
def queryParameter (method path : Bytes) (parameter : List Node) : Except Fault (List Node) :=
  if isGet method then
    let idx := findIdx path (chr '?')
    if 0 ≤ idx then parseParameter parameter (some (path.drop (idx + 1).toNat))
    else .ok parameter
  else .ok parameter

/-- `boundary` for a content type, as the C string in a buffer of one byte more whose
last byte nobody stores. -/
def boundaryText (junk : Junk) (contentType : Bytes) : Except Fault Bytes :=
  let equalIdx := findIdx contentType (chr '=')
  let boundary := ascii "--" ++ contentType.drop (equalIdx + 1).toNat
  match junk with
  | none => .error (.uninitialized boundary.length)
  | some 0 => .ok boundary
  | some _ => .error (.outOfBounds (boundary.length + 1))

/-- The parameters of a `POST`, `none` while the loops of `parse_formdata` go on. -/
def bodyParameter (junk : Junk) (fuel : Nat) (method : Bytes) (header : List Node)
    (body : Option Bytes) (parameter : List Node) : Except Fault (Option (List Node)) :=
  if isPost method then do
    match ← findValue header (ascii "content-type") with
    | none => .error .nullPointer
    | some contentType =>
      if prefixcmpEq contentType (ascii "application/x-www-form-urlencoded") then
        some <$> parseParameter parameter (body.map cstr)
      else if prefixcmpEq contentType (ascii "multipart/form-data") then
        match parseFormdata fuel parameter (body.map cstr) (boundaryText junk contentType) with
        | none => .ok none
        | some result => some <$> result
      else .ok (some parameter)
  else .ok (some parameter)

/-- `parse_request` behind its last read. -/
def finishRequest (junk : Junk) (fuel : Nat) (method path version : Bytes) (header : List Node)
    (body : Option Bytes) : Except Fault (Option Request) := do
  let parameter ← queryParameter method path []
  let parameter ← bodyParameter junk fuel method header body parameter
  pure (parameter.map fun parameter => ⟨method, path, version, header, body, parameter⟩)

theorem bodyParameter_other {method : Bytes} (other : isPost method = false) (junk : Junk)
    (fuel : Nat) (header : List Node) (body : Option Bytes) (parameter : List Node) :
    bodyParameter junk fuel method header body parameter = .ok (some parameter) := by
  rw [bodyParameter, other, if_neg Bool.false_ne_true]

theorem bodyParameter_urlencoded {method contentType : Bytes} {header : List Node}
    (post : isPost method = true)
    (given : findValue header (ascii "content-type") = .ok (some contentType))
    (type : prefixcmpEq contentType (ascii "application/x-www-form-urlencoded") = true)
    (junk : Junk) (fuel : Nat) (body : Option Bytes) (parameter : List Node) :
    bodyParameter junk fuel method header body parameter =
      some <$> parseParameter parameter (body.map cstr) := by
  simp only [bodyParameter, post, given, bind, Except.bind, type, ↓reduceIte]

theorem finishRequest_ok {junk : Junk} {fuel : Nat} {method path version : Bytes}
    {header first : List Node} {body : Option Bytes} {parameter : Option (List Node)}
    (query : queryParameter method path [] = .ok first)
    (form : bodyParameter junk fuel method header body first = .ok parameter) :
    finishRequest junk fuel method path version header body =
      .ok (parameter.map fun parameter => ⟨method, path, version, header, body, parameter⟩) := by
  simp only [finishRequest, query, form, bind, Except.bind, pure, Except.pure]

/-- `parse_request`. The result is `none` when the loops of `parse_formdata` have not
ended after `fuel` steps. -/
def parseRequest {σ : Type} (R : Reader Fault endChar σ) (junk : Junk) (fuel : Nat) :
    Action σ Fault (Option Request) := do
  let line ← getLine R junk crlf
  let (method, path, version) ← Action.lift (requestLine line)
  let header ← readHeader R junk
  let body ← readBody R header
  Action.lift (finishRequest junk fuel method path version header body)

end Ttac
