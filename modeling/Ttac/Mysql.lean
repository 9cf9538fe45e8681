import Ttac.Tables
import Ttac.Environment
import Ttac.HandlerHistory
import Ttac.QueryLengths

set_option autoImplicit false

/- How the database, the list of locations and the system answer the calls of the handlers.
Each query is one step, which may also fail without an effect. -/
namespace Ttac

open Interaction (Exchange)
open Sql (Piece)

/-- What is left open of the database: which texts it takes for equal, what a column of so
many characters makes of a text, how it reads a date and a time, and what it does with a
query that is none of the server's own. A text that fits is stored as it is; one that does
not may be refused or cut. -/
structure Mysql where
  same : Bytes → Bytes → Bool
  store : Nat → Bytes → Option Bytes
  date : Bytes → Option Bytes
  datetime : Bytes → Option Bytes
  other : Bytes → Tables → Option (List Row) → Tables → Prop
  same_refl : ∀ text, same text text = true
  store_fits : ∀ width text, text.length ≤ width → store width text = some text

/-- A database that compares bytes, cuts nothing and refuses every other query. -/
def Mysql.strict : Mysql where
  same := fun a b => a = b
  store := fun width text => if text.length ≤ width then some text else none
  date := some
  datetime := some
  other := fun _ _ _ _ => False
  same_refl := by simp
  store_fits := fun _ _ fits => if_pos fits

/-- What a statement leaves behind: its rows, the tables, and `LAST_INSERT_ID()`. -/
structure Executed where
  rows : List Row
  tables : Tables
  lastId : Int

def numberText (n : Int) : Option Bytes := some (decimalInt n)

/-- The largest number of a message, or `NULL`. -/
def maxText (chats : List Chat) : Option Bytes := (chats.map Chat.idx).max?.map decimalInt

def userRow (user : User) : Row := [numberText user.idx]

def loginRow (user : User) : Row := [user.password, user.name, numberText user.idx]

def groupListRow (entry : ProjectGroup × User) : Row :=
  [numberText entry.1.idx, entry.1.name, entry.2.name]

def todolistRow (todo : Todo) : Row := [some todo.deadline, some todo.detail]

def chatlistRow (entry : Chat × User) : Row :=
  [numberText entry.1.idx, entry.1.chatType, entry.1.content, some entry.1.chatTime, entry.2.ID]

/-- A statement on the tables. `none` where a constraint refuses it. `gap` numbers are left
out, and `today` is the date. -/
def exec (mysql : Mysql) (gap : Nat) (today : Bytes) (tables : Tables) (lastId : Int) :
    Statement → Option Executed
  | .userByToken token =>
    some ⟨(tables.usersByToken mysql.same token).map userRow, tables, lastId⟩
  | .userByID ID => some ⟨(tables.usersByID mysql.same ID).map userRow, tables, lastId⟩
  | .userByLogin ID => some ⟨(tables.usersByID mysql.same ID).map loginRow, tables, lastId⟩
  | .lastInsertId => some ⟨[[numberText lastId]], tables, lastId⟩
  | .groupsOf userIdx => some ⟨(tables.groupsOf userIdx).map groupListRow, tables, lastId⟩
  | .ownedGroup owner groupIdx =>
    some ⟨(tables.ownedGroup owner groupIdx).map fun group => [numberText group.idx],
      tables, lastId⟩
  | .todosOf userIdx => some ⟨(tables.todosOf userIdx).map todolistRow, tables, lastId⟩
  | .progressOf userIdx =>
    some ⟨(tables.progressOf userIdx).map fun row => [numberText row.number], tables, lastId⟩
  | .latestChat groupIdx => some ⟨[[maxText (tables.chatsOf groupIdx)]], tables, lastId⟩
  | .chats groupIdx =>
    some ⟨(tables.chatsWithUsers (tables.chatsOf groupIdx)).map chatlistRow, tables, lastId⟩
  | .chatsSince groupIdx latest =>
    some ⟨(tables.chatsWithUsers ((tables.chatsOf groupIdx).filter (latest < ·.idx))).map
      chatlistRow, tables, lastId⟩
  | .insertAttendance userIdx groupIdx => do
    let after ← tables.insertAttendance userIdx groupIdx today
    some ⟨[], after, lastId⟩
  | .insertUser name ID password => do
    let name ← mysql.store 25 name
    let ID ← mysql.store 20 ID
    let password ← mysql.store 20 password
    let after ← tables.insertUser gap (some name) (some ID) (some password)
    some ⟨[], after, tables.user.next + gap⟩
  | .insertToken token userIdx => do
    let token ← mysql.store 50 token
    let after ← tables.insertToken token userIdx
    some ⟨[], after, lastId⟩
  | .insertGroup name owner => do
    let name ← mysql.store 25 name
    let after ← tables.insertGroup gap (some name) owner
    some ⟨[], after, tables.projectGroup.next + gap⟩
  | .insertMember userIdx groupIdx => do
    let after ← tables.insertMember userIdx groupIdx
    some ⟨[], after, lastId⟩
  | .insertTodo userIdx deadline detail => do
    let deadline ← mysql.date deadline
    let detail ← mysql.store 256 detail
    let after ← tables.insertTodo userIdx deadline detail
    some ⟨[], after, lastId⟩
  | .insertProgress userIdx number => do
    let after ← tables.insertProgress gap userIdx number
    some ⟨[], after, tables.progress.next + gap⟩
  | .updateProgress number userIdx => do
    let after ← tables.updateProgress number userIdx
    some ⟨[], after, lastId⟩
  | .insertChat userIdx groupIdx chatType content chatTime => do
    let chatType ← mysql.store 4 chatType
    let content ← mysql.store (2 ^ 32 - 1) content
    let chatTime ← mysql.datetime chatTime
    let after ← tables.insertChat gap userIdx groupIdx (some chatType) (some content) chatTime
    some ⟨[], after, tables.chat.next + gap⟩

/-- What the requests share. A connection is a session of the database, numbered as it is
opened, and `lastId` is the `LAST_INSERT_ID()` of each. -/
structure Shared where
  tables : Tables
  lastId : Nat → Int
  connections : Nat
  locationList : List Node

/-- Nothing has happened yet. -/
def Shared.start : Shared := ⟨.empty, fun _ => 0, 0, []⟩

namespace Mysql

variable (mysql : Mysql)

/-- The answers to a query, whose rows come in any order. -/
def Replies (connection : Nat) (pieces : List Piece) (outcome : Option (List Row))
    (before after : Shared) : Prop :=
  match statementOf pieces with
  | some statement =>
    (outcome = none ∧ after = before) ∨
      ∃ gap today executed rows,
        exec mysql gap today before.tables (before.lastId connection) statement = some executed ∧
          outcome = some rows ∧ rows.Perm executed.rows ∧
            after = { before with
              tables := executed.tables
              lastId := Function.update before.lastId connection executed.lastId }
  | none =>
    ∃ tables lastId, mysql.other (Sql.render pieces) before.tables outcome tables ∧
      after = { before with
        tables := tables
        lastId := Function.update before.lastId connection lastId }

/-- The rules of the environment. A query whose text does not fit its array is not answered. -/
def Answers : (call : Call) → Answer call → Shared → Shared → Prop
  | .connectionPop, connection, before, after =>
    connection = before.connections ∧
      after = { before with
        connections := before.connections + 1
        lastId := Function.update before.lastId before.connections 0 }
  | .mysqlQuery connection capacity pieces, outcome, before, after =>
    (Sql.render pieces).length < capacity ∧ mysql.Replies connection pieces outcome before after
  | .pushLocation userId latitude longitude, _, before, after =>
    ∃ list, pushNode before.locationList userId latitude longitude = .ok list ∧
      after = { before with locationList := list }
  | .popLocation userId, location, before, after =>
    popNode before.locationList userId = .ok location ∧ after = before
  | .connectionPush _, _, before, after => after = before
  | .mysqlCommit _, _, before, after => after = before
  | .mysqlError _, _, before, after => after = before
  | .response _, _, before, after => after = before
  | .rand, _, before, after => after = before
  | .localtime, _, before, after => after = before
  | .close, _, before, after => after = before

section Queries

variable {mysql : Mysql} {connection capacity : Nat} {pieces : List Piece}
  {outcome : Option (List Row)} {s t : Shared}

/-- A query the database understands. -/
theorem answers_statement {statement : Statement}
    (understood : statementOf pieces = some statement) :
    mysql.Answers (.mysqlQuery connection capacity pieces) outcome s t ↔
      (Sql.render pieces).length < capacity ∧
        ((outcome = none ∧ t = s) ∨
          ∃ gap today executed rows,
            exec mysql gap today s.tables (s.lastId connection) statement = some executed ∧
              outcome = some rows ∧ rows.Perm executed.rows ∧
                t = { s with
                  tables := executed.tables
                  lastId := Function.update s.lastId connection executed.lastId }) := by
  simp only [Answers, Replies, understood]

/-- A query the database does not understand as one of the server's own. -/
theorem answers_other (unread : statementOf pieces = none) :
    mysql.Answers (.mysqlQuery connection capacity pieces) outcome s t ↔
      (Sql.render pieces).length < capacity ∧ ∃ tables lastId,
        mysql.other (Sql.render pieces) s.tables outcome tables ∧
          t = { s with
            tables := tables
            lastId := Function.update s.lastId connection lastId } := by
  simp only [Answers, Replies, unread]

/-- The text fits its array, the query fails or has the rows in some order, and nothing is
changed. -/
structure Selected (capacity : Nat) (pieces : List Piece) (rows : List Row)
    (outcome : Option (List Row)) (before after : Shared) : Prop where
  fits : (Sql.render pieces).length < capacity
  state : after = before
  answer : outcome = none ∨ ∃ answer, outcome = some answer ∧ answer.Perm rows

theorem answers_select {statement : Statement} (rows : List Row)
    (understood : statementOf pieces = some statement)
    (selects : ∀ gap today, exec mysql gap today s.tables (s.lastId connection) statement =
      some ⟨rows, s.tables, s.lastId connection⟩) :
    mysql.Answers (.mysqlQuery connection capacity pieces) outcome s t ↔
      Selected capacity pieces rows outcome s t := by
  rw [answers_statement understood]
  constructor
  · intro ⟨fits, answered⟩
    cases answered with
    | inl failed => exact ⟨fits, failed.2, .inl failed.1⟩
    | inr answered =>
        obtain ⟨gap, today, executed, answer, run, some, order, state⟩ := answered
        rw [selects, Option.some.injEq] at run
        subst run
        refine ⟨fits, ?_, .inr ⟨answer, some, order⟩⟩
        rw [state, Function.update_eq_self]
  · intro ⟨fits, same, answered⟩
    refine ⟨fits, ?_⟩
    cases answered with
    | inl failed => exact .inl ⟨failed, same⟩
    | inr answered =>
        obtain ⟨answer, some, order⟩ := answered
        refine .inr ⟨0, [], _, answer, selects 0 [], some, order, ?_⟩
        rw [same, Function.update_eq_self]

section Selects

variable {token ID : Bytes}

theorem answers_userQuery (plain : sqlString (chr '\'') token = some token) :
    mysql.Answers (.mysqlQuery connection capacity (userQuery token)) outcome s t ↔
      Selected capacity (userQuery token) ((s.tables.usersByToken mysql.same token).map userRow)
        outcome s t :=
  answers_select _ (by rw [userQuery_statement, plain]; rfl) fun _ _ => rfl

theorem answers_userByIDQuery (plain : sqlString (chr '\'') ID = some ID) :
    mysql.Answers (.mysqlQuery connection capacity (userByIDQuery ID)) outcome s t ↔
      Selected capacity (userByIDQuery ID) ((s.tables.usersByID mysql.same ID).map userRow)
        outcome s t :=
  answers_select _ (by rw [userByIDQuery_statement, plain]; rfl) fun _ _ => rfl

theorem answers_loginQuery (plain : sqlString (chr '\'') ID = some ID) :
    mysql.Answers (.mysqlQuery connection capacity (loginQuery ID)) outcome s t ↔
      Selected capacity (loginQuery ID) ((s.tables.usersByID mysql.same ID).map loginRow)
        outcome s t :=
  answers_select _ (by rw [loginQuery_statement, plain]; rfl) fun _ _ => rfl

theorem answers_lastInsertQuery :
    mysql.Answers (.mysqlQuery connection capacity lastInsertQuery) outcome s t ↔
      Selected capacity lastInsertQuery [[numberText (s.lastId connection)]] outcome s t :=
  answers_select _ lastInsertQuery_statement fun _ _ => rfl

theorem answers_progressQuery {idx : Int} :
    mysql.Answers (.mysqlQuery connection capacity (progressQuery idx)) outcome s t ↔
      Selected capacity (progressQuery idx)
        ((s.tables.progressOf idx).map fun row => [numberText row.number]) outcome s t :=
  answers_select _ (progressQuery_statement idx) fun _ _ => rfl

theorem answers_latestChatQuery {groupId : Bytes} {group : Int}
    (number : sqlInteger groupId = some group) :
    mysql.Answers (.mysqlQuery connection capacity (latestChatQuery groupId)) outcome s t ↔
      Selected capacity (latestChatQuery groupId) [[maxText (s.tables.chatsOf group)]]
        outcome s t :=
  answers_select _ (by rw [latestChatQuery_statement, number]; rfl) fun _ _ => rfl

end Selects

section Inserts

/-- What a row of the attendance may have made of the tables. -/
def Checked (tables : Tables) (userIdx groupIdx : Int) (checked : Tables) : Prop :=
  checked = tables ∨ ∃ today, tables.insertAttendance userIdx groupIdx today = some checked

theorem answers_attendanceQuery {userIdx groupIdx : Int}
    (answered : mysql.Answers (.mysqlQuery connection capacity (attendanceQuery userIdx groupIdx))
      outcome s t) : Checked s.tables userIdx groupIdx t.tables := by
  obtain ⟨-, answered⟩ :=
    (answers_statement (attendanceQuery_statement userIdx groupIdx)).mp answered
  cases answered with
  | inl failed => exact .inl (congrArg Shared.tables failed.2)
  | inr answered =>
      obtain ⟨gap, today, executed, rows, run, -, -, state⟩ := answered
      obtain ⟨after, inserted, same⟩ := Option.bind_eq_some_iff.mp run
      cases same
      exact .inr ⟨today, by rw [state, inserted]⟩

theorem answers_of_checked {userIdx groupIdx : Int} {checked : Tables}
    (fits : (Sql.render (attendanceQuery userIdx groupIdx)).length < capacity)
    (check : Checked s.tables userIdx groupIdx checked) :
    ∃ outcome t, mysql.Answers (.mysqlQuery connection capacity (attendanceQuery userIdx groupIdx))
      outcome s t ∧ t.tables = checked := by
  cases check with
  | inl same =>
      refine ⟨none, s, ?_, same.symm⟩
      exact (answers_statement (attendanceQuery_statement userIdx groupIdx)).mpr
        ⟨fits, .inl ⟨rfl, rfl⟩⟩
  | inr inserted =>
      obtain ⟨today, inserted⟩ := inserted
      refine ⟨some [], _, (answers_statement (attendanceQuery_statement userIdx groupIdx)).mpr
        ⟨fits, .inr ⟨0, today, ⟨[], checked, s.lastId connection⟩, [], ?_, rfl, .refl _, rfl⟩⟩, rfl⟩
      exact Option.bind_eq_some_iff.mpr ⟨checked, inserted, rfl⟩

/-- The token of a user who is there can be inserted. -/
theorem answers_tokenQuery {token : Bytes} {user : User} (clean : Clean token)
    (short : token.length ≤ 50) (member : user ∈ s.tables.user.rows) :
    ∃ t, mysql.Answers (.mysqlQuery connection 256 (tokenQuery token user.idx)) (some []) s t := by
  have within := s.tables.user.within user member
  have bounded := s.tables.user.bounded
  have digits := Ascii.decimalInt_length_le (show -(2 ^ 31) ≤ user.idx by omega) (by omega)
  have known : s.tables.user.Has user.idx := ⟨user, member, rfl⟩
  have understood :
      statementOf (tokenQuery token user.idx) = some (.insertToken token user.idx) := by
    rw [tokenQuery_statement, clean.single]
    rfl
  have run : ∃ tables, exec mysql 0 [] s.tables (s.lastId connection)
      (.insertToken token user.idx) = some ⟨[], tables, s.lastId connection⟩ := by
    simp only [exec, mysql.store_fits 50 token short, Tables.insertToken, dif_pos known]
    exact ⟨_, rfl⟩
  obtain ⟨tables, run⟩ := run
  have fits : (Sql.render (tokenQuery token user.idx)).length < 256 := by
    rw [tokenQuery_length]
    omega
  exact ⟨_, (answers_statement understood).mpr
    ⟨fits, .inr ⟨0, [], _, [], run, rfl, .refl [], rfl⟩⟩⟩

end Inserts

end Queries

end Mysql

/-- The values of the request are free of quotes and backslashes. -/
def Request.Clean (req : Request) : Prop := ∀ node ∈ req.parameter, Ttac.Clean node.value

section Values

theorem findValue_mem {list : List Node} {key value : Bytes}
    (found : findValue list key = .ok (some value)) : ∃ node ∈ list, node.value = value := by
  induction list with
  | nil => cases found
  | cons it next ih =>
      rw [findValue] at found
      cases named : it.key with
      | none => simp [named] at found
      | some k =>
          simp only [named] at found
          split at found
          · cases found
            exact ⟨it, List.mem_cons_self .., rfl⟩
          · obtain ⟨node, member, same⟩ := ih found
            exact ⟨node, List.mem_cons_of_mem _ member, same⟩

theorem Request.Clean.value {req : Request} (clean : req.Clean) {key : String} {value : Bytes}
    (found : findValue req.parameter (ascii key) = .ok (some value)) : Ttac.Clean value := by
  obtain ⟨node, member, same⟩ := findValue_mem found
  exact same ▸ clean node member

theorem Drawn.clean {left : Nat} {token : Bytes} (drawn : Drawn left token) : Clean token := by
  have ordinary : ∀ p < 62, tokenChar p ≠ chr '\'' ∧ tokenChar p ≠ chr '"' ∧
      tokenChar p ≠ chr '\\' := by decide
  intro c member
  obtain ⟨p, small, same⟩ := drawn.2 c member
  exact same ▸ ordinary p small

end Values

end Ttac
