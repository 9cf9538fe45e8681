import Ttac.DicList
import Ttac.Parameter
import Ttac.LineLoop
import Ttac.Lib.StepMachine

set_option autoImplicit false

/- `parse_formdata` of `http.c`: three nested loops over one body. The loops are a
machine with one place for each loop head, and its step is the code from one head to
the next. A part with a file name is stored although `sprintf` writes one byte past
the buffer sized for it; every other fault ends the run. -/
namespace Ttac

open StepMachine (Step)

/-- The head of the part loop, of the header-line loop and of the `;` loop, and the code
behind the header-line loop. -/
inductive Place where
  | part (idx : Int)
  | header (idx : Int)
  | attributes (idx next : Int)
  | value (idx : Int)
  deriving DecidableEq, Repr

structure FormState where
  list : List Node
  key : Option Bytes
  filename : Option Bytes
  place : Place
  deriving DecidableEq, Repr

/-- The text `sprintf(tmp,"%d|%s|%s",len,filename,value)` prints. `len` is an `int`, which holds
the length of a name below `2^31` bytes. -/
def fileText (filename value : Bytes) : Bytes :=
  decimal filename.length ++ ascii "|" ++ filename ++ ascii "|" ++ value

/-- The size given to `realloc` for that text. -/
def fileCapacity (filename value : Bytes) : Nat :=
  filename.length + (decimal filename.length).length + 2 + value.length

section Loops

variable (body boundary : Bytes)

/-- `find_str(body+idx,boundary)+idx`. -/
def partNext (idx : Int) : Int := findStr (body.drop idx.toNat) boundary + idx

/-- `strncmp(body+next+1,"--",2)==0`. -/
def isClosing (next : Int) : Bool := strncmpEq (body.drop (next + 1).toNat) (ascii "--") 2

/-- `find_str(body+idx,"\r\n")+idx-1`. -/
def headerNext (idx : Int) : Int := findStr (body.drop idx.toNat) crlf + idx - 1

/-- `p` in the `;` loop. -/
def attributeEnd (idx next : Int) : Int :=
  let p := findIdx (body.drop idx.toNat) (chr ';') + idx
  if p - idx = -1 ∨ next < p then next else p

/-- `strncmp(body+idx,"name",4)==0`. -/
def isName (idx : Int) : Bool := strncmpEq (body.drop idx.toNat) (ascii "name") 4

/-- `idx` behind the first `if` of the `;` loop. -/
def afterName (idx : Int) : Int := if isName body idx then idx + 5 else idx

/-- `strncmp(body+idx,"filename",8)==0`. -/
def isFilename (idx : Int) : Bool := strncmpEq (body.drop idx.toNat) (ascii "filename") 8

/-- The two `if`s of the `;` loop. -/
def readAttribute (key filename : Option Bytes) (idx next : Int) :
    Except Fault (Option Bytes × Option Bytes) := do
  let p := attributeEnd body idx next
  let _ ← offset body idx
  let key ←
    if isName body idx then some <$> strncpy body (idx + 5) (p - (idx + 5)) else pure key
  let idx := afterName body idx
  let _ ← offset body idx
  let filename ←
    if isFilename body idx then some <$> strncpy body (idx + 9) (p - (idx + 9)) else pure filename
  pure (key, filename)

/-- `find_str(body+idx,boundary)+idx-bound_len`. -/
def valueNext (idx : Int) : Int :=
  findStr (body.drop idx.toNat) boundary + idx - boundary.length

/-- The value that is stored: a file's text, or the decoded field. -/
def readValue (filename : Option Bytes) (idx : Int) : Except Fault Bytes := do
  let _ ← offset body idx
  let value ← strncpy body idx (valueNext body boundary idx - idx - 2)
  match filename with
  | some filename => pure (fileText filename value)
  | none => do
    let buffer ← urlDecode value
    pure (cstr buffer)

def partStep (s : FormState) (idx : Int) : Step FormState (Except Fault (List Node)) :=
  let next := partNext body boundary idx
  match offset body idx, offset body (next + 1) with
  | .error f, _ => .stop (.error f)
  | _, .error f => .stop (.error f)
  | .ok _, .ok _ =>
    if isClosing body next then .stop (.ok s.list)
    else .next { s with key := none, filename := none, place := .header (next + 2 + 1) }

def headerStep (s : FormState) (idx : Int) : Step FormState (Except Fault (List Node)) :=
  match offset body idx with
  | .error f => .stop (.error f)
  | .ok _ =>
    let next := headerNext body idx
    if next = idx then .next { s with place := .value (next + 2) }
    else .next { s with place := .attributes idx next }

def attributeStep (s : FormState) (idx next : Int) :
    Step FormState (Except Fault (List Node)) :=
  if idx < next then
    match readAttribute body s.key s.filename idx next with
    | .error f => .stop (.error f)
    | .ok (key, filename) =>
      .next { s with
        key := key, filename := filename,
        place := .attributes (attributeEnd body idx next + 2) next }
  else if next + 2 < body.length then .next { s with place := .header (next + 2) }
  else .next { s with place := .value (next + 2) }

def valueStep (s : FormState) (idx : Int) : Step FormState (Except Fault (List Node)) :=
  match readValue body boundary s.filename idx with
  | .error f => .stop (.error f)
  | .ok value =>
    let list := addData s.list s.key value
    let idx := valueNext body boundary idx + 1
    if idx ≤ body.length then .next { s with list := list, place := .part idx }
    else .stop (.ok list)

def formStep (s : FormState) : Step FormState (Except Fault (List Node)) :=
  match s.place with
  | .part idx => partStep body boundary s idx
  | .header idx => headerStep body s idx
  | .attributes idx next => attributeStep body s idx next
  | .value idx => valueStep body boundary s idx

end Loops

def formStart (list : List Node) : FormState := ⟨list, none, none, .part 0⟩

/-- `none` while the loops have not ended after `fuel` steps. The boundary is looked at
only when there is a body, so it may be a buffer without terminator otherwise. -/
def parseFormdata (fuel : Nat) (list : List Node) (body : Option Bytes)
    (boundary : Except Fault Bytes) : Option (Except Fault (List Node)) :=
  match body with
  | none => some (.ok list)
  | some body =>
    if body.length = 0 then some (.ok list)
    else
      match boundary with
      | .error f => some (.error f)
      | .ok boundary => StepMachine.run (formStep body boundary) fuel (formStart list)

/-- What `parse_formdata` returns, or stops with, on a non-NULL body. -/
def FormResult (list : List Node) (body boundary : Bytes) (result : Except Fault (List Node)) :
    Prop :=
  ∃ fuel, parseFormdata fuel list (some body) (.ok boundary) = some result

/-- The loop heads `parse_formdata` comes to; an empty body is left before the loops. -/
def FormReaches (list : List Node) (body boundary : Bytes) (s : FormState) : Prop :=
  body ≠ [] ∧ StepMachine.Reaches (formStep body boundary) (formStart list) s

theorem formResult_iff (list : List Node) (body boundary : Bytes) (nonempty : body ≠ [])
    (result : Except Fault (List Node)) :
    FormResult list body boundary result ↔
      StepMachine.Yields (formStep body boundary) (formStart list) result := by
  have length : ¬ body.length = 0 := by
    have := List.length_pos_of_ne_nil nonempty
    omega
  simp only [FormResult, parseFormdata, length, ↓reduceIte, StepMachine.Yields]

/-- The file name and the content in the text of a file: the number in front of the first `|`
says how many bytes behind it are the name. -/
def splitFile (text : Bytes) : Bytes × Bytes :=
  let digits := text.takeWhile (· ≠ chr '|')
  let rest := text.drop (digits.length + 1)
  (rest.take (digitsValue digits), rest.drop (digitsValue digits + 1))

/-- The text of a file gives its name and its content back, whatever bytes they hold. -/
theorem splitFile_fileText (filename content : Bytes) :
    splitFile (fileText filename content) = (filename, content) := by
  have shape : fileText filename content =
      decimal filename.length ++ chr '|' :: (filename ++ chr '|' :: content) := by
    simp only [fileText, show ascii "|" = [chr '|'] from rfl, List.append_assoc,
      List.cons_append, List.nil_append]
  have digits : (fileText filename content).takeWhile (· ≠ chr '|') = decimal filename.length := by
    rw [shape, List.takeWhile_append_of_pos, List.takeWhile_cons_of_neg (by simp), List.append_nil]
    intro c member
    rw [decide_eq_true_eq]
    intro same
    exact decimal_not_mem filename.length (by decide) (same ▸ member)
  have rest : (fileText filename content).drop ((decimal filename.length).length + 1) =
      filename ++ chr '|' :: content := by
    rw [shape, ← List.drop_drop, List.drop_left, List.drop_one, List.tail_cons]
  simp only [splitFile, digits, rest, digitsValue_decimal, List.take_left]
  rw [← List.drop_drop, List.drop_left, List.drop_one, List.tail_cons]

end Ttac
