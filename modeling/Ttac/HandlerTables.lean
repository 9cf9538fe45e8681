import Ttac.TableChanges
import Ttac.Injection

set_option autoImplicit false

/- Which tables the handlers write to, when the database can read what they send. -/
namespace Ttac

open Interaction (Program)
open Interaction.Program (Always)
open Sql (Piece)

namespace Handler

/-- The tables a handler writes to. -/
def targets : Handler → List TableName
  | .login => [.token]
  | .signup => [.user]
  | .createGroup => [.projectGroup, .joinGroup]
  | .joinGroup => [.joinGroup]
  | .postTodolist => [.todo]
  | .postProgress => [.progress]
  | .createChat => [.attendance, .chat]
  | .getChatlist => [.attendance]
  | .groupList | .getTodolist | .getProgress | .getLocation | .postLocation => []

/-- The database can read every value that the handler writes into a query text. -/
def Readable (handler : Handler) (req : Request) : Prop :=
  ∀ insertion ∈ handler.insertions, ∀ value,
    findValue req.parameter (ascii insertion.key) = .ok (some value) →
      values [insertion.piece value] ≠ none

instance (handler : Handler) (req : Request) : Decidable (handler.Readable req) :=
  decidable_of_iff (∀ insertion ∈ handler.insertions,
    (match findValue req.parameter (ascii insertion.key) with
      | .ok (some value) => (values [insertion.piece value]).isSome
      | _ => true) = true) <| by
    unfold Readable
    apply forall₂_congr
    intro insertion _
    split
    · rename_i value found
      simp [found, Option.isSome_iff_ne_none]
    · rename_i none
      simp only [true_iff]
      intro value found
      exact absurd found (none value)

section Readable

variable {handler : Handler} {req : Request} {key : String} {value : Bytes}

theorem Readable.single (readable : handler.Readable req)
    (member : singleQuoted key ∈ handler.insertions)
    (found : findValue req.parameter (ascii key) = .ok (some value)) :
    sqlString (chr '\'') value = some value := by
  have read := readable _ member value found
  by_cases plain : Sql.isPlain (chr '\'') value = true
  · exact if_pos plain
  · simp [singleQuoted, values, sqlString, plain] at read

theorem Readable.double (readable : handler.Readable req)
    (member : doubleQuoted key ∈ handler.insertions)
    (found : findValue req.parameter (ascii key) = .ok (some value)) :
    sqlString (chr '"') value = some value := by
  have read := readable _ member value found
  by_cases plain : Sql.isPlain (chr '"') value = true
  · exact if_pos plain
  · simp [doubleQuoted, values, sqlString, plain] at read

theorem Readable.number (readable : handler.Readable req)
    (member : unquoted key ∈ handler.insertions)
    (found : findValue req.parameter (ascii key) = .ok (some value)) :
    ∃ n, sqlInteger value = some n := by
  have read := readable _ member value found
  apply Option.ne_none_iff_exists'.mp
  intro none
  simp [unquoted, values, none] at read

end Readable

end Handler

/-- The database understands the query, which writes to one of the tables if at all. -/
@[simp] def Call.Within (targets : List TableName) : Call → Prop
  | .mysqlQuery _ _ pieces => ∃ statement, statementOf pieces = some statement ∧
      ∀ name, statement.target = some name → name ∈ targets
  | _ => True

section Within

variable {α : Type} {targets : List TableName} {req : Request} {connection capacity : Nat}
  {pieces : List Piece}

theorem within_query {next : Option (List Row) → Prog α} (statement : Statement)
    (understood : statementOf pieces = some statement)
    (within : ∀ name, statement.target = some name → name ∈ targets)
    (later : ∀ outcome, (next outcome).Always (Call.Within targets)) :
    (mysqlQuery connection capacity pieces >>= next).Always (Call.Within targets) :=
  always_mysqlQuery.mpr ⟨⟨statement, understood, within⟩, later⟩

theorem within_respond {statusCode : Int} {statusMsg : String} {body : Bytes} :
    (respond req statusCode statusMsg body).Always (Call.Within targets) :=
  ⟨trivial, fun _ => trivial⟩

theorem within_serverErrer : (serverErrer req connection).Always (Call.Within targets) :=
  ⟨trivial, fun _ => within_respond⟩

theorem within_body {capacity : Nat} {text : Bytes} {statusCode : Int} {statusMsg : String} :
    (Program.lift (sprintf capacity text) >>= fun body =>
      respond req statusCode statusMsg body).Always (Call.Within targets) :=
  Program.always_lift_bind.mpr fun _ _ => within_respond

theorem within_bodyPush {capacity : Nat} {text : Bytes} {statusCode : Int} {statusMsg : String} :
    (Program.lift (sprintf capacity text) >>= fun body => connectionPush connection >>= fun _ =>
      respond req statusCode statusMsg body).Always (Call.Within targets) :=
  Program.always_lift_bind.mpr fun _ _ => always_connectionPush.mpr ⟨trivial, within_respond⟩

theorem within_known {idx : Int} {next : Prog Unit} (later : next.Always (Call.Within targets)) :
    (if idx = -1 then serverErrer req connection else next).Always (Call.Within targets) :=
  Program.always_ite.mpr ⟨fun _ => within_serverErrer, fun _ => later⟩

theorem within_rows {tmp : Row → Except Fault Bytes} (statement : Statement)
    (understood : statementOf pieces = some statement) (selects : statement.target = none) :
    (respondRows req connection capacity pieces tmp).Always (Call.Within targets) := by
  apply within_query statement understood (by simp [selects])
  intro outcome
  cases outcome with
  | none => exact within_serverErrer
  | some rows =>
      exact Program.always_lift_bind.mpr fun _ _ =>
        always_connectionPush.mpr ⟨trivial, within_respond⟩

theorem within_lift (result : Except Fault Bytes) (next : Bytes → Prog α)
    (later : ∀ value, (next value).Always (Call.Within targets)) :
    (Program.lift result >>= next).Always (Call.Within targets) :=
  Program.always_lift_bind.mpr fun value _ => later value

theorem within_getUserIdx {token : Bytes} (read : sqlString (chr '\'') token = some token)
    {next : Int → Prog α} (later : ∀ idx, (next idx).Always (Call.Within targets)) :
    (getUserIdx connection token >>= next).Always (Call.Within targets) := by
  rw [getUserIdx_bind]
  apply within_query (.userByToken token) (by rw [userQuery_statement, read]; rfl)
    (by simp [Statement.target])
  exact lookupRest_of within_lift later

theorem within_getUserIdxByID {ID : Bytes} (read : sqlString (chr '\'') ID = some ID)
    {next : Int → Prog α} (later : ∀ idx, (next idx).Always (Call.Within targets)) :
    (getUserIdxByID connection ID >>= next).Always (Call.Within targets) := by
  rw [getUserIdxByID_bind]
  apply within_query (.userByID ID) (by rw [userByIDQuery_statement, read]; rfl)
    (by simp [Statement.target])
  exact lookupIDRest_of within_lift later

/-- A handler that looks its token up first. -/
theorem within_start {token : Bytes} (read : sqlString (chr '\'') token = some token)
    {next : Nat → Int → Prog α}
    (later : ∀ connection idx, (next connection idx).Always (Call.Within targets)) :
    (connectionPop >>= fun connection => getUserIdx connection token >>= next connection).Always
      (Call.Within targets) :=
  always_connectionPop.mpr ⟨trivial, fun connection => within_getUserIdx read (later connection)⟩

theorem within_createToken {left : Nat} {next : Bytes → Prog α}
    (later : ∀ token, Drawn left token → (next token).Always (Call.Within targets)) :
    (createToken left >>= next).Always (Call.Within targets) := by
  apply (createToken_iff (F := fun program => program.Always (Call.Within targets)) _).mpr later
  intro next
  rw [always_rand]
  exact and_iff_right trivial

end Within

section Handlers

variable {req : Request}

theorem signup_within (readable : Handler.signup.Readable req) {ID password name : Bytes}
    (IDFound : findValue req.parameter (ascii "ID") = .ok (some ID))
    (passwordFound : findValue req.parameter (ascii "password") = .ok (some password))
    (nameFound : findValue req.parameter (ascii "name") = .ok (some name)) :
    (signup req).Always (Call.Within [.user]) := by
  have IDRead := readable.single (by simp [Handler.insertions]) IDFound
  have passwordRead := readable.single (by simp [Handler.insertions]) passwordFound
  have nameRead := readable.single (by simp [Handler.insertions]) nameFound
  simp only [signup, findParameter, IDFound, passwordFound, nameFound, Program.lift_ok_bind]
  apply always_connectionPop.mpr
  refine ⟨trivial, ?_⟩
  intro connection
  apply within_query (.insertUser name ID password)
    (by rw [signupQuery_statement, nameRead, IDRead, passwordRead]; rfl)
    (by simp [Statement.target])
  intro outcome
  cases outcome with
  | none => exact within_body
  | some rows =>
      apply always_mysqlCommit.mpr
      refine ⟨trivial, always_connectionPush.mpr ⟨trivial, within_body⟩⟩

theorem login_within (readable : Handler.login.Readable req) {ID password : Bytes}
    (IDFound : findValue req.parameter (ascii "ID") = .ok (some ID))
    (passwordFound : findValue req.parameter (ascii "password") = .ok (some password)) :
    (login req).Always (Call.Within [.token]) := by
  have IDRead := readable.single (by simp [Handler.insertions]) IDFound
  rw [login_given IDFound passwordFound]
  apply always_connectionPop.mpr
  refine ⟨trivial, ?_⟩
  intro connection
  apply within_query (.userByLogin ID) (by rw [loginQuery_statement, IDRead]; rfl)
    (by simp [Statement.target])
  intro outcome
  cases outcome with
  | none => exact within_serverErrer
  | some rows =>
      apply Program.always_lift_bind.mpr
      intro stored _
      apply Program.always_ite.mpr
      constructor
      · intro _
        apply within_createToken
        intro token drawn
        apply Program.always_lift_bind.mpr
        intro idx _
        apply within_query (.insertToken token (atoi idx))
          (by rw [tokenQuery_statement, drawn.clean.single]; rfl) (by simp [Statement.target])
        intro outcome
        cases outcome with
        | none => exact within_serverErrer
        | some inserted =>
            apply Program.always_lift_bind.mpr
            intro name _
            generalize sprintf 26 name = copied
            apply Program.always_lift_bind.mpr
            intro name _
            exact always_connectionPush.mpr ⟨trivial, within_body⟩
      · intro _
        exact always_connectionPush.mpr ⟨trivial, within_body⟩

theorem createGroup_within (readable : Handler.createGroup.Readable req) {name token : Bytes}
    (nameFound : findValue req.parameter (ascii "name") = .ok (some name))
    (tokenFound : findValue req.parameter (ascii "token") = .ok (some token)) :
    (createGroup req).Always (Call.Within [.projectGroup, .joinGroup]) := by
  have nameRead := readable.single (by simp [Handler.insertions]) nameFound
  simp only [createGroup, findParameter, nameFound, tokenFound, Program.lift_ok_bind]
  apply within_start (readable.single (by simp [Handler.insertions]) tokenFound)
  intro connection idx
  apply within_known
  apply within_query (.insertGroup name idx) (by rw [createGroupQuery_statement, nameRead]; rfl)
    (by simp [Statement.target])
  intro outcome
  cases outcome with
  | none => exact within_serverErrer
  | some created =>
      apply within_query .lastInsertId lastInsertQuery_statement (by simp [Statement.target])
      intro outcome
      cases outcome with
      | none => exact within_serverErrer
      | some rows =>
          apply Program.always_lift_bind.mpr
          intro groupIdx _
          apply within_query _ (ownJoinQuery_statement _ _) (by simp [Statement.target])
          intro outcome
          cases outcome with
          | none => exact within_serverErrer
          | some joined =>
              apply always_mysqlCommit.mpr
              exact ⟨trivial, always_connectionPush.mpr ⟨trivial, within_body⟩⟩

theorem joinGroup_within (readable : Handler.joinGroup.Readable req) {token groupId ID : Bytes}
    (tokenFound : findValue req.parameter (ascii "token") = .ok (some token))
    (groupFound : findValue req.parameter (ascii "group_id") = .ok (some groupId))
    (IDFound : findValue req.parameter (ascii "ID") = .ok (some ID)) :
    (joinGroup req).Always (Call.Within [.joinGroup]) := by
  have IDRead := readable.single (by simp [Handler.insertions]) IDFound
  obtain ⟨group, groupRead⟩ := readable.number (by simp [Handler.insertions]) groupFound
  simp only [joinGroup, findParameter, tokenFound, groupFound, IDFound, Program.lift_ok_bind]
  apply within_start (readable.single (by simp [Handler.insertions]) tokenFound)
  intro connection idx
  apply within_getUserIdxByID IDRead
  intro useridx
  apply within_known
  apply Program.always_ite.mpr
  refine ⟨fun _ => within_body, ?_⟩
  intro _
  apply within_query (.ownedGroup idx group) (by rw [ownerQuery_statement, groupRead]; rfl)
    (by simp [Statement.target])
  intro outcome
  cases outcome with
  | none => exact within_serverErrer
  | some rows =>
      cases rows with
      | nil => exact within_body
      | cons row rows =>
          apply within_query (.insertMember useridx group)
            (by rw [joinGroupQuery_statement, groupRead]; rfl) (by simp [Statement.target])
          intro outcome
          cases outcome with
          | none => exact within_serverErrer
          | some joined => exact within_body

theorem postTodolist_within (readable : Handler.postTodolist.Readable req)
    {token deadline detail : Bytes}
    (tokenFound : findValue req.parameter (ascii "token") = .ok (some token))
    (deadlineFound : findValue req.parameter (ascii "deadline") = .ok (some deadline))
    (detailFound : findValue req.parameter (ascii "detail") = .ok (some detail)) :
    (postTodolist req).Always (Call.Within [.todo]) := by
  have deadlineRead := readable.single (by simp [Handler.insertions]) deadlineFound
  have detailRead := readable.single (by simp [Handler.insertions]) detailFound
  simp only [postTodolist, findParameter, tokenFound, deadlineFound, detailFound,
    Program.lift_ok_bind]
  apply within_start (readable.single (by simp [Handler.insertions]) tokenFound)
  intro connection idx
  apply within_known
  apply within_query (.insertTodo idx deadline detail)
    (by rw [todoQuery_statement, deadlineRead, detailRead]; rfl) (by simp [Statement.target])
  intro outcome
  cases outcome with
  | none => exact always_mysqlError.mpr ⟨trivial, within_bodyPush⟩
  | some posted => exact within_bodyPush

theorem getProgress_within (readable : Handler.getProgress.Readable req) {token : Bytes}
    (tokenFound : findValue req.parameter (ascii "token") = .ok (some token)) :
    (getProgress req).Always (Call.Within []) := by
  simp only [getProgress, findParameter, tokenFound, Program.lift_ok_bind]
  apply within_start (readable.single (by simp [Handler.insertions]) tokenFound)
  intro connection idx
  apply within_known
  apply within_query _ (progressQuery_statement idx) (by simp [Statement.target])
  intro outcome
  cases outcome with
  | none => exact within_serverErrer
  | some rows =>
      cases rows with
      | nil => exact within_bodyPush
      | cons row rows => exact Program.always_lift_bind.mpr fun _ _ => within_bodyPush

theorem postProgress_within (readable : Handler.postProgress.Readable req) {token number : Bytes}
    (tokenFound : findValue req.parameter (ascii "token") = .ok (some token))
    (numberFound : findValue req.parameter (ascii "number") = .ok (some number)) :
    (postProgress req).Always (Call.Within [.progress]) := by
  obtain ⟨n, numberRead⟩ := readable.number (by simp [Handler.insertions]) numberFound
  simp only [postProgress, findParameter, tokenFound, numberFound, Program.lift_ok_bind]
  apply within_start (readable.single (by simp [Handler.insertions]) tokenFound)
  intro connection idx
  apply within_known
  apply within_query _ (progressQuery_statement idx) (by simp [Statement.target])
  intro outcome
  cases outcome with
  | none => exact within_serverErrer
  | some rows =>
      cases rows with
      | nil =>
          apply within_query (.insertProgress idx n)
            (by rw [insertProgressQuery_statement, numberRead]; rfl) (by simp [Statement.target])
          intro outcome
          exact within_bodyPush
      | cons row rows =>
          apply within_query (.updateProgress n idx)
            (by rw [updateProgressQuery_statement, numberRead]; rfl) (by simp [Statement.target])
          intro outcome
          exact within_bodyPush

theorem createChat_within (readable : Handler.createChat.Readable req)
    {token groupId content : Bytes}
    (tokenFound : findValue req.parameter (ascii "token") = .ok (some token))
    (groupFound : findValue req.parameter (ascii "group_id") = .ok (some groupId))
    (contentFound : findValue req.parameter (ascii "content") = .ok (some content)) :
    (createChat req).Always (Call.Within [.attendance, .chat]) := by
  obtain ⟨group, groupRead⟩ := readable.number (by simp [Handler.insertions]) groupFound
  have contentRead := readable.double (by simp [Handler.insertions]) contentFound
  rw [createChat_given tokenFound groupFound contentFound]
  apply within_start (readable.single (by simp [Handler.insertions]) tokenFound)
  intro connection idx
  apply within_known
  apply within_query _ (attendanceQuery_statement _ _) (by simp [Statement.target])
  intro outcome
  apply within_query (.latestChat group) (by rw [latestChatQuery_statement, groupRead]; rfl)
    (by simp [Statement.target])
  intro outcome
  cases outcome with
  | none => exact within_serverErrer
  | some rows =>
      apply Program.always_lift_bind.mpr
      intro latest _
      apply always_getNow.mpr
      refine ⟨trivial, ?_⟩
      intro tm now written
      have same := (sprintf_ok written).2
      subst same
      have nowRead : sqlString (chr '"') (nowText tm) = some (nowText tm) :=
        if_pos (nowText_plain tm)
      generalize nowText tm = text at nowRead
      apply within_query (.insertChat idx group (ascii "TEXT") content text)
        (by rw [chatQuery_statement, groupRead, contentRead, nowRead]; rfl)
        (by simp [Statement.target])
      intro outcome
      cases outcome with
      | none => exact within_serverErrer
      | some inserted => exact within_bodyPush

theorem getChatlist_within (readable : Handler.getChatlist.Readable req) {token groupId : Bytes}
    {latest : Option Bytes}
    (tokenFound : findValue req.parameter (ascii "token") = .ok (some token))
    (groupFound : findValue req.parameter (ascii "group_id") = .ok (some groupId))
    (latestFound : findValue req.parameter (ascii "latest") = .ok latest) :
    (getChatlist req).Always (Call.Within [.attendance]) := by
  obtain ⟨group, groupRead⟩ := readable.number (by simp [Handler.insertions]) groupFound
  rw [getChatlist_given tokenFound groupFound latestFound]
  apply within_start (readable.single (by simp [Handler.insertions]) tokenFound)
  intro connection idx
  apply within_known
  apply within_query _ (attendanceQuery_statement _ _) (by simp [Statement.target])
  intro outcome
  cases latest with
  | none =>
      exact within_rows (.chats group)
        (by rw [chatsQuery, chatlistQuery_statement, groupRead]; rfl) rfl
  | some latest =>
      obtain ⟨since, latestRead⟩ := readable.number (by simp [Handler.insertions]) latestFound
      exact within_rows (.chatsSince group since)
        (by rw [chatsQuery, chatlistSinceQuery_statement, groupRead, latestRead]; rfl) rfl

/-- A handler of readable values sends queries the database understands, and writes to its
own tables only. -/
theorem handler_within {handler : Handler} (readable : handler.Readable req) :
    (handler.program req).Always (Call.Within handler.targets) := by
  by_cases accepts : handler.Accepts req
  · cases accepts.given with
    | login IDFound passwordFound => exact login_within readable IDFound passwordFound
    | signup IDFound passwordFound nameFound =>
        exact signup_within readable IDFound passwordFound nameFound
    | createGroup nameFound tokenFound => exact createGroup_within readable nameFound tokenFound
    | groupList tokenFound =>
        simp only [Handler.program, groupList, findParameter, tokenFound, Program.lift_ok_bind]
        apply within_start (readable.single (by simp [Handler.insertions]) tokenFound)
        intro connection idx
        exact within_known (within_rows _ (groupListQuery_statement idx) rfl)
    | joinGroup tokenFound groupFound IDFound =>
        exact joinGroup_within readable tokenFound groupFound IDFound
    | getTodolist tokenFound =>
        simp only [Handler.program, getTodolist, findParameter, tokenFound, Program.lift_ok_bind]
        apply within_start (readable.single (by simp [Handler.insertions]) tokenFound)
        intro connection idx
        exact within_known (within_rows _ (todolistQuery_statement idx) rfl)
    | postTodolist tokenFound deadlineFound detailFound =>
        exact postTodolist_within readable tokenFound deadlineFound detailFound
    | getProgress tokenFound => exact getProgress_within readable tokenFound
    | postProgress tokenFound numberFound =>
        exact postProgress_within readable tokenFound numberFound
    | createChat tokenFound groupFound contentFound =>
        exact createChat_within readable tokenFound groupFound contentFound
    | getChatlist tokenFound groupFound latestFound =>
        exact getChatlist_within readable tokenFound groupFound latestFound
    | getLocation tokenFound userFound =>
        simp only [Handler.program, getLocation, findParameter, tokenFound, userFound,
          Program.lift_ok_bind]
        apply always_popLocation.mpr
        exact ⟨trivial, fun location => Program.always_lift_bind.mpr fun _ _ => within_respond⟩
    | postLocation tokenFound latitudeFound longitudeFound =>
        simp only [Handler.program, postLocation, findParameter, tokenFound, latitudeFound,
          longitudeFound, Program.lift_ok_bind]
        apply within_start (readable.single (by simp [Handler.insertions]) tokenFound)
        intro connection idx
        apply Program.always_lift_bind.mpr
        intro num _
        exact always_pushLocation.mpr ⟨trivial, within_bodyPush⟩
  · cases handler.rejects req accepts with
    | inl missing =>
        rw [missing.1]
        exact within_respond
    | inr stopped =>
        obtain ⟨fault, program⟩ := stopped.1
        rw [program]
        trivial

end Handlers

namespace Mysql

variable {mysql : Mysql} {op : Call} {answer : Answer op} {s t : Shared}
  {targets : List TableName}

/-- A call changes the tables by a statement if at all. -/
theorem answers_tables (within : op.Within targets) (answered : mysql.Answers op answer s t) :
    t.tables = s.tables ∨ ∃ connection capacity pieces statement gap today executed,
      op = .mysqlQuery connection capacity pieces ∧ statementOf pieces = some statement ∧
        (∀ name, statement.target = some name → name ∈ targets) ∧
          exec mysql gap today s.tables (s.lastId connection) statement = some executed ∧
            t.tables = executed.tables := by
  cases op with
  | mysqlQuery connection capacity pieces =>
      obtain ⟨statement, understood, target⟩ := within
      obtain ⟨-, answered⟩ := (answers_statement understood).mp answered
      cases answered with
      | inl failed => exact .inl (congrArg Shared.tables failed.2)
      | inr answered =>
          obtain ⟨gap, today, executed, rows, run, -, -, state⟩ := answered
          exact .inr ⟨connection, capacity, pieces, statement, gap, today, executed, rfl,
            understood,
            target, run, congrArg Shared.tables state⟩
  | connectionPop => exact .inl (by rw [answered.2])
  | pushLocation =>
      obtain ⟨list, -, state⟩ := answered
      exact .inl (by rw [state])
  | popLocation => exact .inl (congrArg Shared.tables answered.2)
  | _ => exact .inl (congrArg Shared.tables answered)

theorem answers_extends (within : op.Within targets) (answered : mysql.Answers op answer s t) :
    s.tables.Extends t.tables := by
  cases answers_tables within answered with
  | inl same =>
      rw [same]
      exact .refl _
  | inr changed =>
      obtain ⟨_, _, _, _, _, _, executed, -, -, -, run, same⟩ := changed
      rw [same]
      exact exec_extends run

theorem answers_same {name : TableName} (within : op.Within targets) (other : name ∉ targets)
    (answered : mysql.Answers op answer s t) : Tables.Same s.tables t.tables name := by
  cases answers_tables within answered with
  | inl same =>
      rw [same]
      exact Tables.Same.refl _ name
  | inr changed =>
      obtain ⟨_, _, _, statement, _, _, executed, -, -, target, run, same⟩ := changed
      rw [same]
      exact exec_same (fun own => other (target name own)) run

end Mysql

end Ttac
