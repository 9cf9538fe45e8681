import Ttac.HandlerHistory
import Ttac.ListRows
import Ttac.QueryLengths
import Ttac.Statement

set_option autoImplicit false

/- What the handlers print into arrays of a fixed size. -/
namespace Ttac

open Interaction (Program Exchange Status)
open Interaction.Program (Meets)
open Sql (Piece)

/-- The character set of the database: the number of characters of a text, `none` for bytes
that are no text, and the bytes of its longest character. -/
structure Charset where
  characters : Bytes → Option Nat
  width : Nat
  positive : 0 < width
  narrow : width ≤ 4
  short : ∀ text n, characters text = some n → text.length ≤ width * n
  long : ∀ n, ∃ text, characters text = some n ∧ text.length = width * n

/-- The types of the columns in `SQL/*.sql`; the numbers and the times are `NOT NULL`, and a
`MAX` may be `NULL`. -/
inductive Column where
  | int
  | maximum
  | text (limit : Nat)
  | longtext
  | date
  | datetime

def IsInt (n : Int) : Prop := -(2 ^ 31) ≤ n ∧ n < 2 ^ 31

/-- What `mysql_fetch_row` has for a column. -/
def Column.Admits (charset : Charset) : Column → Option Bytes → Prop
  | .int, value => ∃ n, IsInt n ∧ value = some (decimalInt n)
  | .maximum, none => True
  | .maximum, some value => ∃ n, IsInt n ∧ value = decimalInt n
  | .text _, none => True
  | .text limit, some value => ∃ n ≤ limit, charset.characters value = some n
  | .longtext, none => True
  | .longtext, some value => value.length < 2 ^ 32 ∧ ∃ n, charset.characters value = some n
  | .date, value => ∃ text, value = some text ∧ text.length = 10
  | .datetime, value => ∃ text, value = some text ∧ text.length = 19

def messageColumns : List Column := [.int, .text 4, .longtext, .datetime, .text 20]

/-- The columns of the results, in the order of `queries`. -/
def resultColumns : List (List Piece × List Column) :=
  [(userQuery [], [.int]), (userByIDQuery [], [.int]), (attendanceQuery 0 0, []),
    (signupQuery [] [] [], []), (loginQuery [], [.text 20, .text 25, .int]), (tokenQuery [] 0, []),
    (createGroupQuery [] 0, []), (lastInsertQuery, [.int]), (ownJoinQuery 0 0, []),
    (groupListQuery 0, [.int, .text 25, .text 25]), (ownerQuery 0 [], [.int]),
    (joinGroupQuery 0 [], []), (todolistQuery 0, [.date, .text 256]), (todoQuery 0 [] [], []),
    (progressQuery 0, [.int]), (updateProgressQuery [] 0, []), (insertProgressQuery 0 [], []),
    (latestChatQuery [], [.maximum]), (chatQuery 0 [] [] [], []),
    (chatlistQuery [], messageColumns),
    (chatlistSinceQuery [] [], messageColumns)]

def columnsOf (pieces : List Piece) : List Column :=
  match resultColumns.find? fun result => result.1.map Piece.slot = pieces.map Piece.slot with
  | none => []
  | some result => result.2

theorem columnsOf_mem {template pieces : List Piece} {columns : List Column}
    (member : (template, columns) ∈ resultColumns)
    (same : template.map Piece.slot = pieces.map Piece.slot) : columnsOf pieces = columns := by
  have texts : resultColumns.map (fun result => result.1.map Piece.slot) =
      queries.map fun pieces => pieces.map Piece.slot := rfl
  have different : (resultColumns.map fun result => result.1.map Piece.slot).Nodup := by
    rw [texts]
    exact queries_texts.2
  have found := find?_of_nodup member different
  rw [columnsOf, ← same]
  simp only [found]

/-- A time of the calendar, with a year of four digits. -/
structure Tm.IsTime (tm : Tm) : Prop where
  year : 1000 ≤ tm.year + 1900 ∧ tm.year + 1900 < 10000
  mon : 0 ≤ tm.mon ∧ tm.mon < 12
  mday : 1 ≤ tm.mday ∧ tm.mday ≤ 31
  hour : 0 ≤ tm.hour ∧ tm.hour < 24
  min : 0 ≤ tm.min ∧ tm.min < 60
  sec : 0 ≤ tm.sec ∧ tm.sec ≤ 60

/-- The rows of a query are rows of its tables, and a time is one of the calendar. -/
def Charset.Admits (charset : Charset) : Exchange Call Answer → Prop
  | ⟨.mysqlQuery _ _ pieces, outcome⟩ => ∀ rows, outcome = some rows → ∀ row ∈ rows,
      List.Forall₂ (Column.Admits charset) (columnsOf pieces) row
  | ⟨.localtime, tm⟩ => Tm.IsTime tm
  | _ => True

/-- Nothing is printed past the end of an array. -/
def Fits {α : Type} : Status Call Fault α → Prop
  | .calling (.mysqlQuery _ capacity pieces) => (Sql.render pieces).length < capacity
  | .failed (.bufferOverflow _) => False
  | _ => True

/-- What is printed behind admitted answers fits. -/
def Fitting {α : Type} (charset : Charset) : HistorySpec α := fun events status =>
  (∀ event ∈ events, charset.Admits event) → Fits status

section Rules

variable {α : Type} {charset : Charset}

theorem fitting_call {op : Call} {next : Answer op → Prog α} :
    (Program.call op next).Meets (Fitting charset) ↔
      Fits (.calling op : Status Call Fault α) ∧ ∀ answer, charset.Admits ⟨op, answer⟩ →
        (next answer).Meets (Fitting charset) := by
  have none : Fitting charset [] (.calling op : Status Call Fault α) ↔
      Fits (.calling op : Status Call Fault α) := by
    simp [Fitting]
  rw [Program.meets_call, none]
  apply and_congr_right
  intro _
  simp only [Program.meets_iff, Fitting, List.forall_mem_cons, and_imp]
  exact ⟨fun meets answer admitted events rest runs => meets answer events rest runs admitted,
    fun meets answer events rest runs admitted => meets answer admitted events rest runs⟩

theorem fitting_failed {fault : Fault} :
    (Program.fail fault : Prog α).Meets (Fitting charset) ↔
      Fits (.failed fault : Status Call Fault α) := by
  simp [Fitting]

theorem fitting_returned {value : α} : (Program.done value : Prog α).Meets (Fitting charset) := by
  simp [Fitting, Fits]

theorem fitting_query {connection capacity : Nat} {pieces : List Piece}
    {next : Option (List Row) → Prog α} :
    (mysqlQuery connection capacity pieces >>= next).Meets (Fitting charset) ↔
      (Sql.render pieces).length < capacity ∧ (next none).Meets (Fitting charset) ∧
        ∀ rows : List Row,
          (∀ row ∈ rows, List.Forall₂ (Column.Admits charset) (columnsOf pieces) row) →
          (next (some rows)).Meets (Fitting charset) := by
  apply fitting_call.trans
  apply and_congr_right
  intro _
  constructor
  · intro meets
    refine ⟨meets none ?_, ?_⟩
    · intro rows some
      cases some
    · intro rows admitted
      apply meets (some rows)
      intro other same
      cases same
      exact admitted
  · intro ⟨failed, selected⟩ outcome admitted
    cases outcome with
    | none => exact failed
    | some rows => exact selected rows (admitted rows rfl)

/-- A call whose answer is nothing. -/
theorem fitting_quiet (op : Call) {next : Answer op → Prog α} (answer : Answer op)
    (only : ∀ other : Answer op, other = answer)
    (fits : Fits (.calling op : Status Call Fault α)) (admitted : charset.Admits ⟨op, answer⟩) :
    (Program.call op next).Meets (Fitting charset) ↔ (next answer).Meets (Fitting charset) := by
  rw [fitting_call, and_iff_right fits]
  constructor
  · intro meets
    exact meets answer admitted
  · intro meets other _
    rw [only other]
    exact meets

theorem fitting_pop {next : Nat → Prog α} :
    (connectionPop >>= next).Meets (Fitting charset) ↔
      ∀ connection, (next connection).Meets (Fitting charset) := by
  apply fitting_call.trans
  exact ⟨fun meets connection => meets.2 connection trivial,
    fun meets => ⟨trivial, fun connection _ => meets connection⟩⟩

section Quiet

variable {connection : Nat} {next : Unit → Prog α}

theorem fitting_push : (connectionPush connection >>= next).Meets (Fitting charset) ↔
    (next ()).Meets (Fitting charset) :=
  fitting_quiet (.connectionPush connection) () (fun _ => rfl) trivial trivial

theorem fitting_commit : (mysqlCommit connection >>= next).Meets (Fitting charset) ↔
    (next ()).Meets (Fitting charset) :=
  fitting_quiet (.mysqlCommit connection) () (fun _ => rfl) trivial trivial

theorem fitting_error : (mysqlError connection >>= next).Meets (Fitting charset) ↔
    (next ()).Meets (Fitting charset) :=
  fitting_quiet (.mysqlError connection) () (fun _ => rfl) trivial trivial

theorem fitting_pushLocation {userId latitude longitude : Bytes} :
    (pushLocation userId latitude longitude >>= next).Meets (Fitting charset) ↔
      (next ()).Meets (Fitting charset) :=
  fitting_quiet (.pushLocation userId latitude longitude) () (fun _ => rfl) trivial trivial

theorem fitting_respond {req : Request} {statusCode : Int} {statusMsg : String}
    {body : Bytes} : (respond req statusCode statusMsg body).Meets (Fitting charset) :=
  (fitting_quiet (.response _) () (fun _ => rfl) trivial trivial).mpr fitting_returned

theorem fitting_serverErrer {req : Request} :
    (serverErrer req connection).Meets (Fitting charset) := fitting_error.mpr fitting_respond

end Quiet

theorem fitting_sprintf {capacity : Nat} {text : Bytes} {next : Bytes → Prog α} :
    (Program.lift (sprintf capacity text) >>= next).Meets (Fitting charset) ↔
      text.length < capacity ∧ (next text).Meets (Fitting charset) := by
  unfold sprintf
  split
  · rw [Program.lift_error_bind, fitting_failed]
    constructor
    · intro fits
      cases fits
    · intro fits
      omega
  · rw [Program.lift_ok_bind, and_iff_right (by omega)]

theorem fitting_popLocation {userId : Bytes} {next : Option Bytes → Prog α} :
    (popLocation userId >>= next).Meets (Fitting charset) ↔
      ∀ location, (next location).Meets (Fitting charset) := by
  apply fitting_call.trans
  exact ⟨fun meets location => meets.2 location trivial,
    fun meets => ⟨trivial, fun location _ => meets location⟩⟩

theorem fitting_localtime {next : Tm → Prog α} :
    (localtime >>= next).Meets (Fitting charset) ↔
      ∀ tm, Tm.IsTime tm → (next tm).Meets (Fitting charset) := by
  apply fitting_call.trans
  exact ⟨fun meets tm time => meets.2 tm time, fun meets => ⟨trivial, meets⟩⟩

/-- What does not depend on the rows. -/
theorem forall_admitted {columns : List Column} {p : Prop} :
    (∀ rows : List Row, (∀ row ∈ rows, List.Forall₂ (Column.Admits charset) columns row) → p) ↔
      p := by
  constructor
  · intro all
    exact all [] (by simp)
  · intro holds _ _
    exact holds

theorem fitting_known {req : Request} {connection : Nat} {idx : Int} {next : Prog Unit} :
    (if idx = -1 then serverErrer req connection else next).Meets (Fitting charset) ↔
      (idx ≠ -1 → next.Meets (Fitting charset)) := by
  rw [Program.meets_ite]
  exact and_iff_right fun _ => fitting_error.mpr fitting_respond

section Times

theorem nowText_length {tm : Tm} (time : tm.IsTime) : (nowText tm).length ≤ 19 := by
  have year : (decimalInt (tm.year + 1900)).length ≤ 4 := by
    have := time.year
    exact Ascii.decimalInt_length_of_nonneg (by omega) (by decide) (by omega)
  have two {n : Int} (lower : 0 ≤ n) (upper : n < 100) : (decimalInt n).length ≤ 2 :=
    Ascii.decimalInt_length_of_nonneg lower (by decide) (by omega)
  have mon := two (n := tm.mon + 1) (by have := time.mon; omega) (by have := time.mon; omega)
  have mday := two (n := tm.mday) (by have := time.mday; omega) (by have := time.mday; omega)
  have hour := two (n := tm.hour) (by have := time.hour; omega) (by have := time.hour; omega)
  have min := two (n := tm.min) (by have := time.min; omega) (by have := time.min; omega)
  have sec := two (n := tm.sec) (by have := time.sec; omega) (by have := time.sec; omega)
  have dash : (ascii "-").length = 1 := rfl
  have space : (ascii " ").length = 1 := rfl
  have colon : (ascii ":").length = 1 := rfl
  simp only [nowText, List.length_append, dash, space, colon]
  omega

/-- A time that takes up all the room a time may. -/
def longTime : Tm := ⟨100, 10, 10, 10, 10, 10⟩

theorem longTime_isTime : longTime.IsTime := by
  constructor <;> decide

theorem longTime_length : (nowText longTime).length = 19 := by decide

/-- A time fits the array of `get_now`. -/
theorem fitting_getNow {next : Bytes → Prog α} :
    (getNow >>= next).Meets (Fitting charset) ↔
      ∀ tm, Tm.IsTime tm → (next (nowText tm)).Meets (Fitting charset) := by
  rw [getNow, Program.bind_bind, fitting_localtime]
  apply forall_congr'
  intro tm
  apply forall_congr'
  intro time
  have length := nowText_length time
  generalize nowText tm = now at length ⊢
  exact fitting_sprintf.trans (and_iff_right (by omega))

end Times

theorem cell_no_overflow {row : Option Row} {i array : Nat} :
    cell row i ≠ .error (.bufferOverflow array) := by
  cases row with
  | none => simp [cell]
  | some row =>
      simp only [cell]
      split <;> simp

theorem fitting_attendanceCheck {conn : Nat} {userIdx groupIdx : Int} {next : Unit → Prog α} :
    (attendanceCheck conn userIdx groupIdx >>= next).Meets (Fitting charset) ↔
      76 + (decimalInt userIdx).length + (decimalInt groupIdx).length < 256 ∧
        (next ()).Meets (Fitting charset) := by
  have unfolded : attendanceCheck conn userIdx groupIdx >>= next =
      mysqlQuery conn 256 (attendanceQuery userIdx groupIdx) >>= fun _ => next () := rfl
  rw [unfolded, fitting_query, forall_admitted, and_self, attendanceQuery_length]

section Lookups

variable {conn : Nat} {next : Int → Prog α}

/-- The number in the first column of a row. -/
theorem fitting_number {row : Row} {columns : List Column} {rest : Bytes → Prog α}
    (admitted : List.Forall₂ (Column.Admits charset) (.int :: columns) row)
    (fits : ∀ n, IsInt n → (rest (decimalInt n)).Meets (Fitting charset)) :
    (Program.lift (column (some row) 0) >>= rest).Meets (Fitting charset) := by
  cases admitted with
  | cons first _ =>
      obtain ⟨n, int, same⟩ := first
      subst same
      exact fits n int

theorem number_admitted {idx : Int} (int : IsInt idx) :
    List.Forall₂ (Column.Admits charset) [.int] [some (decimalInt idx)] :=
  .cons ⟨idx, int, rfl⟩ .nil

theorem minusOne_isInt : IsInt (-1) := by
  constructor <;> decide

theorem userQuery_columns (token : Bytes) : columnsOf (userQuery token) = [.int] :=
  columnsOf_mem (show (userQuery [], [.int]) ∈ resultColumns by simp [resultColumns]) rfl

theorem userByIDQuery_columns (ID : Bytes) : columnsOf (userByIDQuery ID) = [.int] :=
  columnsOf_mem (show (userByIDQuery [], [.int]) ∈ resultColumns by simp [resultColumns]) rfl

theorem fitting_getUserIdx {token : Bytes} :
    (getUserIdx conn token >>= next).Meets (Fitting charset) ↔
      token.length ≤ 172 ∧ ∀ idx, IsInt idx → (next idx).Meets (Fitting charset) := by
  rw [getUserIdx_bind, fitting_query, userQuery_length, userQuery_columns]
  constructor
  · intro ⟨fits, _, found⟩
    refine ⟨by omega, ?_⟩
    intro idx int
    have first := found [[some (decimalInt idx)]] (by simp [number_admitted int])
    rw [← atoi_decimalInt int.1 int.2]
    exact first
  · intro ⟨fits, found⟩
    refine ⟨by omega, found (-1) minusOne_isInt, ?_⟩
    intro rows admitted
    cases rows with
    | nil => exact fitting_failed.mpr trivial
    | cons row rows =>
        apply fitting_number (admitted row (List.mem_cons_self ..))
        intro idx int
        rw [atoi_decimalInt int.1 int.2]
        exact found idx int

theorem fitting_getUserIdxByID {ID : Bytes} :
    (getUserIdxByID conn ID >>= next).Meets (Fitting charset) ↔
      ID.length ≤ 221 ∧ ∀ idx, IsInt idx → (next idx).Meets (Fitting charset) := by
  rw [getUserIdxByID_bind, fitting_query, userByIDQuery_length, userByIDQuery_columns]
  constructor
  · intro ⟨fits, _, found⟩
    refine ⟨by omega, ?_⟩
    intro idx int
    have first := found [[some (decimalInt idx)]] (by simp [number_admitted int])
    rw [← atoi_decimalInt int.1 int.2]
    exact first
  · intro ⟨fits, found⟩
    refine ⟨by omega, found (-1) minusOne_isInt, ?_⟩
    intro rows admitted
    cases rows with
    | nil => exact found (-1) minusOne_isInt
    | cons row rows =>
        apply fitting_number (admitted row (List.mem_cons_self ..))
        intro idx int
        rw [atoi_decimalInt int.1 int.2]
        exact found idx int

end Lookups

end Rules

section Bodies

theorem statusBody_length (status : String) :
    (statusBody status).length = 13 + (ascii status).length := by
  have first : (ascii "\x7b\"status\":\"").length = 11 := rfl
  have last : (ascii "\"\x7d").length = 2 := rfl
  simp only [statusBody, List.length_append, first, last]
  omega

theorem OK_length : (ascii "OK").length = 2 := rfl

theorem ERROR_length : (ascii "ERROR").length = 5 := rfl

theorem NONE_length : (ascii "NONE").length = 4 := rfl

end Bodies

section Handlers

variable {charset : Charset} {req : Request}

theorem IsInt.length_le {idx : Int} (int : IsInt idx) : (decimalInt idx).length ≤ 11 :=
  Ascii.decimalInt_length_le int.1 int.2

/-- The number with the longest text. -/
def longInt : Int := -(2 ^ 31)

theorem longInt_isInt : IsInt longInt := by
  constructor <;> decide

theorem longInt_length : (decimalInt longInt).length = 11 := by decide

/-- A handler that looks its token up first. -/
theorem fitting_start {token : Bytes} {next : Nat → Int → Prog Unit} {p : Prop}
    (fits : p → ∀ connection idx, IsInt idx → (next connection idx).Meets (Fitting charset))
    (tight : (next 0 longInt).Meets (Fitting charset) → p) :
    (connectionPop >>= fun connection => getUserIdx connection token >>= fun idx =>
        if idx = -1 then serverErrer req connection else next connection idx).Meets
      (Fitting charset) ↔ token.length ≤ 172 ∧ p := by
  simp only [fitting_pop, fitting_getUserIdx, fitting_known]
  constructor
  · intro meets
    exact ⟨(meets 0).1, tight ((meets 0).2 longInt longInt_isInt (by decide))⟩
  · intro ⟨short, holds⟩ connection
    exact ⟨short, fun idx int _ => fits holds connection idx int⟩

theorem signup_fitting {ID password name : Bytes}
    (IDFound : findValue req.parameter (ascii "ID") = .ok (some ID))
    (passwordFound : findValue req.parameter (ascii "password") = .ok (some password))
    (nameFound : findValue req.parameter (ascii "name") = .ok (some name)) :
    (signup req).Meets (Fitting charset) ↔ name.length + ID.length + password.length ≤ 202 := by
  simp only [signup, findParameter, IDFound, passwordFound, nameFound, Program.lift_ok_bind,
    fitting_pop, fitting_query, fitting_sprintf, fitting_respond, fitting_commit, fitting_push,
    forall_admitted, signupQuery_length, statusBody_length, OK_length, ERROR_length, and_true,
    forall_const]
  omega

theorem createGroup_fitting {name token : Bytes}
    (nameFound : findValue req.parameter (ascii "name") = .ok (some name))
    (tokenFound : findValue req.parameter (ascii "token") = .ok (some token)) :
    (createGroup req).Meets (Fitting charset) ↔ token.length ≤ 172 ∧ name.length ≤ 193 := by
  have columns : columnsOf lastInsertQuery = [.int] :=
    columnsOf_mem (show (lastInsertQuery, [.int]) ∈ resultColumns by simp [resultColumns]) rfl
  simp only [createGroup, findParameter, nameFound, tokenFound, Program.lift_ok_bind]
  apply fitting_start
  · intro short connection idx int
    have digits := int.length_le
    simp only [fitting_query, forall_admitted, fitting_serverErrer, createGroupQuery_length,
      lastInsertQuery_length, columns, true_and]
    refine ⟨by omega, by decide, ?_⟩
    intro rows admitted
    cases rows with
    | nil => exact fitting_failed.mpr trivial
    | cons row rows =>
        apply fitting_number (admitted row (List.mem_cons_self ..))
        intro groupIdx groupInt
        have groupDigits := groupInt.length_le
        simp only [atoi_decimalInt groupInt.1 groupInt.2, fitting_query, forall_admitted,
          fitting_serverErrer, ownJoinQuery_length, fitting_commit, fitting_push, fitting_sprintf,
          fitting_respond, statusBody_length, OK_length, and_true, true_and]
        omega
  · intro meets
    have first := (fitting_query.mp meets).1
    rw [createGroupQuery_length, longInt_length] at first
    omega

theorem postTodolist_fitting {token deadline detail : Bytes}
    (tokenFound : findValue req.parameter (ascii "token") = .ok (some token))
    (deadlineFound : findValue req.parameter (ascii "deadline") = .ok (some deadline))
    (detailFound : findValue req.parameter (ascii "detail") = .ok (some detail)) :
    (postTodolist req).Meets (Fitting charset) ↔
      token.length ≤ 172 ∧ deadline.length + detail.length ≤ 185 := by
  simp only [postTodolist, findParameter, tokenFound, deadlineFound, detailFound,
    Program.lift_ok_bind]
  apply fitting_start
  · intro short connection idx int
    have digits := int.length_le
    simp only [fitting_query, forall_admitted, fitting_error, fitting_sprintf, fitting_push,
      fitting_respond, todoQuery_length, statusBody_length, OK_length, ERROR_length, and_true]
    omega
  · intro meets
    have first := (fitting_query.mp meets).1
    rw [todoQuery_length, longInt_length] at first
    omega

theorem getProgress_fitting {token : Bytes}
    (tokenFound : findValue req.parameter (ascii "token") = .ok (some token)) :
    (getProgress req).Meets (Fitting charset) ↔ token.length ≤ 172 := by
  have columns (idx : Int) : columnsOf (progressQuery idx) = [.int] :=
    columnsOf_mem (show (progressQuery 0, [.int]) ∈ resultColumns by simp [resultColumns]) rfl
  simp only [getProgress, findParameter, tokenFound, Program.lift_ok_bind]
  rw [← and_true (token.length ≤ 172)]
  apply fitting_start
  · intro _ connection idx int
    have digits := int.length_le
    simp only [fitting_query, fitting_serverErrer, progressQuery_length, columns, true_and]
    refine ⟨by omega, ?_⟩
    intro rows admitted
    cases rows with
    | nil =>
        have zero : (ascii "0").length = 1 := rfl
        simp only [Program.pure_bind_eq, fitting_sprintf, fitting_push, fitting_respond,
          numberBody_length, zero, and_true]
        omega
    | cons row rows =>
        apply fitting_number (admitted row (List.mem_cons_self ..))
        intro number numberInt
        have numberDigits := numberInt.length_le
        simp only [fitting_sprintf, fitting_push, fitting_respond, numberBody_length, and_true]
        omega
  · intro _
    trivial

theorem postProgress_fitting {token number : Bytes}
    (tokenFound : findValue req.parameter (ascii "token") = .ok (some token))
    (numberFound : findValue req.parameter (ascii "number") = .ok (some number)) :
    (postProgress req).Meets (Fitting charset) ↔ token.length ≤ 172 ∧ number.length ≤ 196 := by
  have columns (idx : Int) : columnsOf (progressQuery idx) = [.int] :=
    columnsOf_mem (show (progressQuery 0, [.int]) ∈ resultColumns by simp [resultColumns]) rfl
  simp only [postProgress, findParameter, tokenFound, numberFound, Program.lift_ok_bind]
  apply fitting_start
  · intro short connection idx int
    have digits := int.length_le
    simp only [fitting_query, fitting_serverErrer, progressQuery_length, true_and]
    refine ⟨by omega, ?_⟩
    intro rows _
    cases rows with
    | nil =>
        simp only [forall_admitted, fitting_sprintf, fitting_push, fitting_respond,
          insertProgressQuery_length, statusBody_length, OK_length, ERROR_length, and_true]
        omega
    | cons row rows =>
        simp only [forall_admitted, fitting_sprintf, fitting_push, fitting_respond,
          updateProgressQuery_length, statusBody_length, OK_length, ERROR_length, and_true]
        omega
  · intro meets
    have inserts := (fitting_query.mp meets).2.2 [] (by simp)
    have first := (fitting_query.mp inserts).1
    rw [insertProgressQuery_length, longInt_length] at first
    omega

section Rows

theorem one_isInt : IsInt 1 := by
  constructor <;> decide

/-- A text of so many characters. -/
theorem Charset.text_length (charset : Charset) {limit : Nat} {text : Bytes}
    (admitted : Column.Admits charset (.text limit) (some text)) :
    text.length ≤ charset.width * limit := by
  obtain ⟨n, bound, characters⟩ := admitted
  have length := charset.short text n characters
  have wider := Nat.mul_le_mul_left charset.width bound
  omega

theorem group_columns {row : Row}
    (admitted : List.Forall₂ (Column.Admits charset) [.int, .text 25, .text 25] row) :
    ∃ id name owner, row = [some (decimalInt id), name, owner] ∧ IsInt id ∧
      Column.Admits charset (.text 25) name ∧ Column.Admits charset (.text 25) owner := by
  cases admitted with
  | cons number admitted =>
      obtain ⟨id, int, same⟩ := number
      cases admitted with
      | @cons _ name _ _ nameText admitted =>
          cases admitted with
          | @cons _ owner _ _ ownerText admitted =>
              cases admitted
              subst same
              exact ⟨id, name, owner, rfl, int, nameText, ownerText⟩

/-- A list is printed within its arrays exactly when each of its rows is. -/
theorem fitting_rows {connection capacity : Nat} {query : List Piece}
    {tmp : Row → Except Fault Bytes} :
    (respondRows req connection capacity query tmp).Meets (Fitting charset) ↔
      (Sql.render query).length < capacity ∧
        ∀ row, List.Forall₂ (Column.Admits charset) (columnsOf query) row →
          ∀ array, tmp row ≠ .error (.bufferOverflow array) := by
  simp only [respondRows, fitting_query, fitting_serverErrer, true_and]
  apply and_congr_right
  intro _
  constructor
  · intro meets row admitted array overflow
    have alone := meets [row] (by simpa using admitted)
    have failed : writeList tmp [row] = .error (.bufferOverflow array) := by
      rw [writeList, writeRows, overflow]
      rfl
    rw [failed, Program.lift_error_bind, fitting_failed] at alone
    exact alone
  · intro fits rows admitted
    cases written : writeList tmp rows with
    | ok body =>
        rw [Program.lift_ok_bind]
        exact fitting_push.mpr fitting_respond
    | error fault =>
        rw [Program.lift_error_bind, fitting_failed]
        obtain ⟨row, member, same⟩ := writeList_error written
        cases fault with
        | bufferOverflow array => exact fits row (admitted row member) array same
        | _ => trivial

/-- A name may take up the room of another name only if a character is one byte. -/
theorem groupRow_fits :
    (∀ row, List.Forall₂ (Column.Admits charset) [.int, .text 25, .text 25] row →
      ∀ array, groupRow row ≠ .error (.bufferOverflow array)) ↔ charset.width = 1 := by
  constructor
  · intro fits
    obtain ⟨name, characters, length⟩ := charset.long 25
    have printed := fits [some (decimalInt 1), some name, some name]
      (.cons ⟨1, one_isInt, rfl⟩ (.cons ⟨25, le_rfl, characters⟩
        (.cons ⟨25, le_rfl, characters⟩ .nil))) 100
    by_contra wide
    have positive := charset.positive
    apply printed
    apply if_pos
    change 100 ≤ (groupText _ _ _).length
    rw [groupText_length, length]
    omega
  · intro narrow row admitted array overflow
    obtain ⟨id, name, owner, same, int, nameText, ownerText⟩ := group_columns admitted
    subst same
    cases name with
    | none => cases overflow
    | some name =>
        cases owner with
        | none => cases overflow
        | some owner =>
            have idLength := int.length_le
            have nameLength := charset.text_length nameText
            have ownerLength := charset.text_length ownerText
            have fits : (groupText (decimalInt id) name owner).length < 100 := by
              rw [groupText_length]
              rw [narrow] at nameLength ownerLength
              omega
            rw [groupRow_some, sprintf, if_neg (by omega)] at overflow
            cases overflow

/-- The detail of a todo may be longer than the array of a row. -/
theorem todoRow_overflow : ∃ row, List.Forall₂ (Column.Admits charset) [.date, .text 256] row ∧
    todoRow row = .error (.bufferOverflow 100) := by
  obtain ⟨detail, characters, length⟩ := charset.long 256
  have positive := charset.positive
  refine ⟨[some (List.replicate 10 (chr '0')), some detail],
    .cons ⟨_, rfl, List.length_replicate⟩ (.cons ⟨256, le_rfl, characters⟩ .nil), ?_⟩
  rw [todoRow_some, sprintf, if_pos]
  rw [todoText_length, length]
  omega

theorem chatRow_overflow : ∃ row, List.Forall₂ (Column.Admits charset) messageColumns row ∧
    chatRow row = .error (.bufferOverflow 100) := by
  obtain ⟨content, characters, length⟩ := charset.long 256
  obtain ⟨empty, none, _⟩ := charset.long 0
  have positive := charset.positive
  have narrow := charset.narrow
  have text : Column.Admits charset (.text 4) (some empty) := ⟨0, by decide, none⟩
  have userID : Column.Admits charset (.text 20) (some empty) := ⟨0, by decide, none⟩
  have long : Column.Admits charset .longtext (some content) := ⟨by omega, 256, characters⟩
  have time : Column.Admits charset .datetime (some (List.replicate 19 (chr '0'))) :=
    ⟨_, rfl, List.length_replicate⟩
  refine ⟨[some (decimalInt 1), some empty, some content, some (List.replicate 19 (chr '0')),
    some empty], .cons ⟨1, one_isInt, rfl⟩ (.cons text (.cons long (.cons time
      (.cons userID .nil)))), ?_⟩
  rw [chatRow_some, sprintf, if_pos]
  rw [chatText_length, length]
  omega

end Rows

section Token

variable {token : Bytes}

theorem groupList_fitting
    (tokenFound : findValue req.parameter (ascii "token") = .ok (some token)) :
    (groupList req).Meets (Fitting charset) ↔ token.length ≤ 172 ∧ charset.width = 1 := by
  have columns (idx : Int) : columnsOf (groupListQuery idx) = [.int, .text 25, .text 25] :=
    columnsOf_mem (show (groupListQuery 0, [.int, .text 25, .text 25]) ∈ resultColumns by
      simp [resultColumns]) rfl
  simp only [groupList, findParameter, tokenFound, Program.lift_ok_bind]
  apply fitting_start
  · intro narrow connection idx int
    have digits := int.length_le
    rw [fitting_rows, groupListQuery_length, columns]
    exact ⟨by omega, groupRow_fits.mpr narrow⟩
  · intro meets
    rw [fitting_rows, columns] at meets
    exact groupRow_fits.mp meets.2

theorem getTodolist_fitting
    (tokenFound : findValue req.parameter (ascii "token") = .ok (some token)) :
    ¬ (getTodolist req).Meets (Fitting charset) := by
  have columns (idx : Int) : columnsOf (todolistQuery idx) = [.date, .text 256] :=
    columnsOf_mem (show (todolistQuery 0, [.date, .text 256]) ∈ resultColumns by
      simp [resultColumns]) rfl
  simp only [getTodolist, findParameter, tokenFound, Program.lift_ok_bind]
  intro meets
  refine ((fitting_start (p := False) (fun never => never.elim) ?_).mp meets).2
  intro meets
  rw [fitting_rows, columns] at meets
  obtain ⟨row, admitted, overflow⟩ := todoRow_overflow
  exact meets.2 row admitted 100 overflow

theorem chatRows_overflow {connection capacity : Nat} {query : List Piece}
    (columns : columnsOf query = messageColumns) :
    ¬ (respondRows req connection capacity query chatRow).Meets (Fitting charset) := by
  rw [fitting_rows, columns]
  intro ⟨_, fits⟩
  obtain ⟨row, admitted, overflow⟩ := chatRow_overflow
  exact fits row admitted 100 overflow

theorem getChatlist_fitting {groupId : Bytes} {latest : Option Bytes}
    (tokenFound : findValue req.parameter (ascii "token") = .ok (some token))
    (groupFound : findValue req.parameter (ascii "group_id") = .ok (some groupId))
    (latestFound : findValue req.parameter (ascii "latest") = .ok latest) :
    ¬ (getChatlist req).Meets (Fitting charset) := by
  simp only [getChatlist, findParameter, tokenFound, groupFound, latestFound, Program.lift_ok_bind]
  intro meets
  refine ((fitting_start (p := False) (fun never => never.elim) ?_).mp meets).2
  simp only [fitting_attendanceCheck]
  intro fitting
  obtain ⟨_, listed⟩ := fitting
  cases latest with
  | none =>
      have columns : columnsOf (chatlistQuery groupId) = messageColumns :=
        columnsOf_mem (show (chatlistQuery [], messageColumns) ∈ resultColumns by
          simp [resultColumns]) rfl
      exact chatRows_overflow columns listed
  | some latest =>
      have columns : columnsOf (chatlistSinceQuery groupId latest) = messageColumns :=
        columnsOf_mem (show (chatlistSinceQuery [] [], messageColumns) ∈ resultColumns by
          simp [resultColumns]) rfl
      exact chatRows_overflow columns listed

theorem postLocation_fitting {latitude longitude : Bytes}
    (tokenFound : findValue req.parameter (ascii "token") = .ok (some token))
    (latitudeFound : findValue req.parameter (ascii "latitude") = .ok (some latitude))
    (longitudeFound : findValue req.parameter (ascii "longitude") = .ok (some longitude)) :
    (postLocation req).Meets (Fitting charset) ↔ token.length ≤ 172 := by
  simp only [postLocation, findParameter, tokenFound, latitudeFound, longitudeFound,
    Program.lift_ok_bind, fitting_pop, fitting_getUserIdx, fitting_sprintf, fitting_pushLocation,
    fitting_push, fitting_respond, statusBody_length, OK_length, and_true]
  constructor
  · intro meets
    exact (meets 0).1
  · intro short connection
    refine ⟨short, ?_⟩
    intro idx int
    have digits := int.length_le
    omega

theorem joinGroup_fitting {groupId ID : Bytes}
    (tokenFound : findValue req.parameter (ascii "token") = .ok (some token))
    (groupFound : findValue req.parameter (ascii "group_id") = .ok (some groupId))
    (IDFound : findValue req.parameter (ascii "ID") = .ok (some ID)) :
    (joinGroup req).Meets (Fitting charset) ↔
      token.length ≤ 172 ∧ ID.length ≤ 221 ∧ groupId.length ≤ 189 := by
  simp only [joinGroup, findParameter, tokenFound, groupFound, IDFound, Program.lift_ok_bind,
    fitting_pop, fitting_getUserIdx, fitting_getUserIdxByID, fitting_known]
  constructor
  · intro meets
    obtain ⟨tokenShort, lookups⟩ := meets 0
    obtain ⟨IDShort, checks⟩ := lookups longInt longInt_isInt
    have owns := (Program.meets_ite.mp (checks longInt longInt_isInt (by decide))).2 (by decide)
    have first := (fitting_query.mp owns).1
    rw [ownerQuery_length, longInt_length] at first
    exact ⟨tokenShort, IDShort, by omega⟩
  · intro short connection
    obtain ⟨tokenShort, IDShort, groupShort⟩ := short
    refine ⟨tokenShort, ?_⟩
    intro idx int
    refine ⟨IDShort, ?_⟩
    intro useridx userInt known
    have digits := int.length_le
    have userDigits := userInt.length_le
    apply Program.meets_ite.mpr
    simp only [fitting_query, fitting_sprintf, fitting_respond, fitting_serverErrer,
      ownerQuery_length, statusBody_length, NONE_length, true_and, and_true]
    refine ⟨fun _ => by decide, fun found => ⟨by omega, ?_⟩⟩
    intro rows _
    cases rows with
    | nil =>
        simp only [fitting_sprintf, fitting_respond, statusBody_length, ERROR_length, and_true]
        decide
    | cons row rows =>
        simp only [fitting_query, fitting_sprintf, fitting_respond, fitting_serverErrer,
          forall_admitted, joinGroupQuery_length, statusBody_length, OK_length, true_and, and_true]
        omega

theorem chatRest_fitting {connection : Nat} {idx latest : Int} {groupId content : Bytes}
    (int : IsInt latest) :
    (chatRest req connection idx groupId content latest).Meets (Fitting charset) ↔
      (decimalInt idx).length + groupId.length + content.length ≤ 1891 := by
  have first : (ascii "\x7b\"status\":\"OK\",\"latest\":").length = 24 := rfl
  have last : (ascii "\x7d").length = 1 := rfl
  have digits := int.length_le
  simp only [chatRest, fitting_getNow, fitting_query, fitting_serverErrer, forall_admitted,
    fitting_sprintf, fitting_push, fitting_respond, chatQuery_length, chatBody, List.length_append,
    first, last, and_true, true_and]
  constructor
  · intro meets
    have long := (meets longTime longTime_isTime).1
    rw [longTime_length] at long
    omega
  · intro short tm time
    have now := nowText_length time
    omega

theorem createChat_fitting {groupId content : Bytes}
    (tokenFound : findValue req.parameter (ascii "token") = .ok (some token))
    (groupFound : findValue req.parameter (ascii "group_id") = .ok (some groupId))
    (contentFound : findValue req.parameter (ascii "content") = .ok (some content)) :
    (createChat req).Meets (Fitting charset) ↔
      token.length ≤ 172 ∧ groupId.length + content.length ≤ 1880 := by
  have columns : columnsOf (latestChatQuery groupId) = [.maximum] :=
    columnsOf_mem
      (show (latestChatQuery [], [.maximum]) ∈ resultColumns by simp [resultColumns]) rfl
  have latestInt (latest : Option Bytes) : IsInt (latestValue latest) := by
    cases latest with
    | none => exact minusOne_isInt
    | some text => exact atoi_range text
  rw [createChat_given tokenFound groupFound contentFound]
  apply fitting_start
  · intro short connection idx int
    have digits := int.length_le
    have groupDigits := IsInt.length_le (atoi_range groupId)
    simp only [fitting_attendanceCheck, fitting_query, latestChatQuery_length, fitting_serverErrer,
      true_and]
    refine ⟨by omega, by omega, ?_⟩
    intro rows admitted
    apply Program.meets_lift_bind.mpr
    constructor
    · intro latest _
      exact (chatRest_fitting (latestInt latest)).mpr (by omega)
    · intro fault failed
      cases fault with
      | bufferOverflow array => exact absurd failed cell_no_overflow
      | _ => intro _; trivial
  · intro meets
    have latest := (fitting_query.mp (fitting_attendanceCheck.mp meets).2).2.2 [[none]]
    rw [columns] at latest
    have rest := latest (by simp [Column.Admits])
    have long := (chatRest_fitting minusOne_isInt).mp rest
    rw [longInt_length] at long
    omega

end Token

section Login

variable {ID password : Bytes}

theorem fitting_rand {α : Type} (r : Nat) :
    (fun events => Fitting charset (⟨.rand, r⟩ :: events)) = (Fitting charset : HistorySpec α) := by
  funext events status
  have quiet : charset.Admits ⟨.rand, r⟩ := trivial
  simp [Fitting, quiet]

theorem loginBody_length (status : String) (token name : Bytes) :
    (loginBody status token name).length =
      34 + (ascii status).length + token.length + name.length := by
  have first : (ascii "\x7b\"status\":\"").length = 11 := rfl
  have second : (ascii "\",\"token\":\"").length = 11 := rfl
  have third : (ascii "\",\"name\":\"").length = 10 := rfl
  have last : (ascii "\"\x7d").length = 2 := rfl
  simp only [loginBody, List.length_append, first, second, third, last]
  omega

theorem login_columns {row : Row}
    (admitted : List.Forall₂ (Column.Admits charset) [.text 20, .text 25, .int] row) :
    ∃ stored name idx, row = [stored, name, some (decimalInt idx)] ∧ IsInt idx ∧
      Column.Admits charset (.text 20) stored ∧ Column.Admits charset (.text 25) name := by
  cases admitted with
  | @cons _ stored _ _ storedText admitted =>
      cases admitted with
      | @cons _ name _ _ nameText admitted =>
          cases admitted with
          | cons number admitted =>
              obtain ⟨idx, int, same⟩ := number
              cases admitted
              subst same
              exact ⟨stored, name, idx, rfl, int, storedText, nameText⟩

/-- The name of a user fits its array only if a character is one byte; it is copied for a
password that may be in the table. -/
theorem login_fitting
    (IDFound : findValue req.parameter (ascii "ID") = .ok (some ID))
    (passwordFound : findValue req.parameter (ascii "password") = .ok (some password)) :
    (login req).Meets (Fitting charset) ↔ ID.length ≤ 209 ∧
      (Column.Admits charset (.text 20) (some password) → charset.width = 1) := by
  have columns : columnsOf (loginQuery ID) = [.text 20, .text 25, .int] :=
    columnsOf_mem (show (loginQuery [], [.text 20, .text 25, .int]) ∈ resultColumns by
      simp [resultColumns]) rfl
  rw [login_given IDFound passwordFound]
  simp only [fitting_pop, fitting_query, fitting_serverErrer, loginQuery_length, columns, true_and]
  constructor
  · intro meets
    obtain ⟨fits, rows⟩ := meets 0
    refine ⟨by omega, ?_⟩
    intro stored
    obtain ⟨name, characters, length⟩ := charset.long 25
    have found := rows [[some password, some name, some (decimalInt 1)]] (by
      intro row member
      rw [List.mem_singleton.mp member]
      exact .cons stored (.cons ⟨25, le_rfl, characters⟩ (.cons ⟨1, one_isInt, rfl⟩ .nil)))
    rw [loginRest_cons, if_pos rfl,
      meets_createToken_iff fitting_rand (fun _ => trivial)] at found
    have copied := (fitting_query.mp (found _ (drawn_replicate 50))).2.2 [] (by simp)
    have short := (fitting_sprintf.mp copied).1
    have positive := charset.positive
    omega
  · intro ⟨short, narrow⟩ connection
    refine ⟨by omega, ?_⟩
    intro rows admitted
    cases rows with
    | nil => exact fitting_failed.mpr trivial
    | cons row rows =>
        obtain ⟨stored, name, idx, same, int, storedText, nameText⟩ :=
          login_columns (admitted row (List.mem_cons_self ..))
        subst same
        cases stored with
        | none =>
            apply fitting_failed.mpr
            exact trivial
        | some stored =>
            simp only [loginRest_cons, atoi_decimalInt int.1 int.2]
            apply Program.meets_ite.mpr
            constructor
            · intro equal
              apply (meets_createToken_iff fitting_rand (fun _ => trivial)).mpr
              intro token drawn
              have digits := int.length_le
              have tokenLength := drawn.1
              rw [fitting_query, tokenQuery_length]
              refine ⟨by omega, fitting_serverErrer, ?_⟩
              intro inserted _
              cases name with
              | none =>
                  apply fitting_failed.mpr
                  exact trivial
              | some name =>
                  have length := charset.text_length nameText
                  rw [narrow (equal ▸ storedText)] at length
                  have copied : (Program.lift (sprintf 26 name) >>= fun name =>
                      connectionPush connection >>= fun _ =>
                        Program.lift (sprintf 256 (loginBody "OK" token name)) >>= fun body =>
                          respond req 200 "OK" body).Meets (Fitting charset) := by
                    simp only [fitting_sprintf, fitting_push, fitting_respond, loginBody_length,
                      OK_length, and_true]
                    omega
                  exact copied
            · intro other
              simp only [loginRefused, fitting_push, fitting_sprintf, fitting_respond,
                loginBody_length, ERROR_length, List.length_nil, and_true]
              decide

end Login

theorem locationReply_overflow {latitude : Bytes} (separate : chr '|' ∉ latitude)
    (long : 256 ≤ latitude.length) :
    locationReply (some (latitude ++ [chr '|'])) = .error (.bufferOverflow 256) := by
  have place := findIdx_append latitude [] (chr '|') separate
  have length : (latitude ++ [chr '|']).length = latitude.length + 1 := by
    rw [List.length_append, List.length_singleton]
  have first : strncpy (latitude ++ [chr '|']) 0 latitude.length = .ok latitude := by
    have copied := strncpy_ok (latitude ++ [chr '|']) 0 latitude.length (Nat.zero_le _)
    rw [List.drop_zero, List.take_left] at copied
    exact copied
  have second : strncpy (latitude ++ [chr '|']) (latitude.length + 1)
      ((latitude ++ [chr '|']).length - (latitude.length + 1)) = .ok [] := by
    have none : ((latitude ++ [chr '|']).length : Int) - (latitude.length + 1) = 0 := by
      rw [length]
      omega
    rw [none]
    rfl
  have body : ¬ (locationBody latitude []).length < 256 := by
    simp only [locationBody, List.length_append]
    omega
  simp only [locationReply, place, first, second]
  exact if_pos (by omega)

/-- Any location may have been stored. -/
theorem getLocation_fitting {token userID : Bytes}
    (tokenFound : findValue req.parameter (ascii "token") = .ok (some token))
    (userFound : findValue req.parameter (ascii "user_ID") = .ok (some userID)) :
    ¬ (getLocation req).Meets (Fitting charset) := by
  simp only [getLocation, findParameter, tokenFound, userFound, Program.lift_ok_bind,
    fitting_popLocation]
  intro meets
  obtain ⟨latitude, same⟩ : ∃ latitude, latitude = List.replicate 256 (chr '1') := ⟨_, rfl⟩
  have separate : chr '|' ∉ latitude := by
    intro member
    rw [same] at member
    cases List.eq_of_mem_replicate member
  have long : 256 ≤ latitude.length := by
    rw [same, List.length_replicate]
  have reply := meets (some (latitude ++ [chr '|']))
  rw [locationReply_overflow separate long, Program.lift_error_bind, fitting_failed] at reply
  exact reply

/-- The values of a request are short enough for the arrays of its handler. -/
def Short (charset : Charset) (req : Request) : Handler → Prop
  | .signup => ∀ name, findValue req.parameter (ascii "name") = .ok (some name) →
      ∀ ID, findValue req.parameter (ascii "ID") = .ok (some ID) →
        ∀ password, findValue req.parameter (ascii "password") = .ok (some password) →
          name.length + ID.length + password.length ≤ 202
  | .login => ∀ ID, findValue req.parameter (ascii "ID") = .ok (some ID) →
      ∀ password, findValue req.parameter (ascii "password") = .ok (some password) →
        ID.length ≤ 209 ∧
          (Column.Admits charset (.text 20) (some password) → charset.width = 1)
  | .createGroup => ∀ token, findValue req.parameter (ascii "token") = .ok (some token) →
      ∀ name, findValue req.parameter (ascii "name") = .ok (some name) →
        token.length ≤ 172 ∧ name.length ≤ 193
  | .groupList => ∀ token, findValue req.parameter (ascii "token") = .ok (some token) →
      token.length ≤ 172 ∧ charset.width = 1
  | .joinGroup => ∀ token, findValue req.parameter (ascii "token") = .ok (some token) →
      ∀ ID, findValue req.parameter (ascii "ID") = .ok (some ID) →
        ∀ groupId, findValue req.parameter (ascii "group_id") = .ok (some groupId) →
          token.length ≤ 172 ∧ ID.length ≤ 221 ∧ groupId.length ≤ 189
  | .postTodolist => ∀ token, findValue req.parameter (ascii "token") = .ok (some token) →
      ∀ deadline, findValue req.parameter (ascii "deadline") = .ok (some deadline) →
        ∀ detail, findValue req.parameter (ascii "detail") = .ok (some detail) →
          token.length ≤ 172 ∧ deadline.length + detail.length ≤ 185
  | .getProgress | .postLocation =>
      ∀ token, findValue req.parameter (ascii "token") = .ok (some token) → token.length ≤ 172
  | .postProgress => ∀ token, findValue req.parameter (ascii "token") = .ok (some token) →
      ∀ number, findValue req.parameter (ascii "number") = .ok (some number) →
        token.length ≤ 172 ∧ number.length ≤ 196
  | .createChat => ∀ token, findValue req.parameter (ascii "token") = .ok (some token) →
      ∀ groupId, findValue req.parameter (ascii "group_id") = .ok (some groupId) →
        ∀ content, findValue req.parameter (ascii "content") = .ok (some content) →
          token.length ≤ 172 ∧ groupId.length + content.length ≤ 1880
  | .getTodolist | .getChatlist | .getLocation => False

theorem handler_fitting (handler : Handler) (accepts : handler.Accepts req) :
    (handler.program req).Meets (Fitting charset) ↔ Short charset req handler := by
  cases accepts.given with
  | signup IDFound passwordFound nameFound =>
      rw [Short, forall_found nameFound, forall_found IDFound, forall_found passwordFound]
      exact signup_fitting IDFound passwordFound nameFound
  | login IDFound passwordFound =>
      rw [Short, forall_found IDFound, forall_found passwordFound]
      exact login_fitting IDFound passwordFound
  | createGroup nameFound tokenFound =>
      rw [Short, forall_found tokenFound, forall_found nameFound]
      exact createGroup_fitting nameFound tokenFound
  | groupList tokenFound =>
      rw [Short, forall_found tokenFound]
      exact groupList_fitting tokenFound
  | joinGroup tokenFound groupFound IDFound =>
      rw [Short, forall_found tokenFound, forall_found IDFound, forall_found groupFound]
      exact joinGroup_fitting tokenFound groupFound IDFound
  | getTodolist tokenFound => exact iff_of_false (getTodolist_fitting tokenFound) id
  | postTodolist tokenFound deadlineFound detailFound =>
      rw [Short, forall_found tokenFound, forall_found deadlineFound, forall_found detailFound]
      exact postTodolist_fitting tokenFound deadlineFound detailFound
  | getProgress tokenFound =>
      rw [Short, forall_found tokenFound]
      exact getProgress_fitting tokenFound
  | postProgress tokenFound numberFound =>
      rw [Short, forall_found tokenFound, forall_found numberFound]
      exact postProgress_fitting tokenFound numberFound
  | createChat tokenFound groupFound contentFound =>
      rw [Short, forall_found tokenFound, forall_found groupFound, forall_found contentFound]
      exact createChat_fitting tokenFound groupFound contentFound
  | getChatlist tokenFound groupFound latestFound =>
      exact iff_of_false (getChatlist_fitting tokenFound groupFound latestFound) id
  | getLocation tokenFound userFound =>
      exact iff_of_false (getLocation_fitting tokenFound userFound) id
  | postLocation tokenFound latitudeFound longitudeFound =>
      rw [Short, forall_found tokenFound]
      exact postLocation_fitting tokenFound latitudeFound longitudeFound

/-- What a handler prints fits its arrays, whatever rows the tables have, exactly when the
values of the request are short. -/
theorem fits_iff (charset : Charset) (handler : Handler) (req : Request) :
    (∀ events rest, (handler.program req).Runs events rest →
        (∀ event ∈ events, charset.Admits event) → Fits rest.status) ↔
      (handler.Accepts req → Short charset req handler) := by
  have meets : (∀ events rest, (handler.program req).Runs events rest →
      (∀ event ∈ events, charset.Admits event) → Fits rest.status) ↔
        (handler.program req).Meets (Fitting charset) := by
    rw [Program.meets_iff]
    rfl
  rw [meets]
  constructor
  · intro fits accepts
    exact (handler_fitting handler accepts).mp fits
  · intro short
    apply Handler.meets handler fitting_respond
    · intro _
      trivial
    · intro accepts
      exact (handler_fitting handler accepts).mpr (short accepts)

section Samples

/-- One byte for each character. -/
def latin : Charset where
  characters := fun text => some text.length
  width := 1
  positive := by decide
  narrow := by decide
  short := by simp
  long := fun n => ⟨List.replicate n (chr 'x'), by simp⟩

def todolistRequest : Request :=
  ⟨ascii "GET", ascii "/todolist", ascii "HTTP/1.1", [], none, [⟨some (ascii "token"), ascii "x"⟩]⟩

/-- A todo with a long detail. -/
theorem getTodolist_overflows : ¬ ∀ (charset : Charset) (handler : Handler) (req : Request)
    (events : History) (rest : Prog Unit), (handler.program req).Runs events rest →
      (∀ event ∈ events, charset.Admits event) → Fits rest.status := by
  intro fits
  have meets : (getTodolist todolistRequest).Meets (Fitting latin) := by
    rw [Program.meets_iff]
    exact fits latin .getTodolist todolistRequest
  have tokenFound : findValue todolistRequest.parameter (ascii "token") =
      .ok (some (ascii "x")) := rfl
  exact getTodolist_fitting tokenFound meets

end Samples

end Handlers

end Ttac
