import Ttac.ChatMembers

set_option autoImplicit false

/- In whose name the statements read and write: the tokens that `login` hands out, and what is
asked for with them. -/
namespace Ttac

open Interaction (Program Exchange Interleaved Linked Transition eventsOf)
open Interaction.Program (Meets Always)
open Sql (Piece)

namespace Statement

/-- The statements that need no token. -/
def isOpen : Statement → Bool
  | .userByToken _ | .userByID _ | .userByLogin _ | .insertUser _ _ _ | .insertToken _ _ => true
  | _ => false

/-- The user in whose name a statement reads or writes. -/
def actor : Statement → Option Int
  | .insertAttendance userIdx _ => some userIdx
  | .insertGroup _ owner => some owner
  | .groupsOf userIdx => some userIdx
  | .ownedGroup owner _ => some owner
  | .todosOf userIdx => some userIdx
  | .insertTodo userIdx _ _ => some userIdx
  | .progressOf userIdx => some userIdx
  | .updateProgress _ userIdx => some userIdx
  | .insertProgress userIdx _ => some userIdx
  | .insertChat userIdx _ _ _ _ => some userIdx
  | _ => none

/-- In the name of the user, or of nobody. -/
def byUser (userIdx : Int) (statement : Statement) : Bool :=
  statement.actor.all fun actor => actor = userIdx

end Statement

/-- A query of this kind, if the database understands it. -/
@[simp] def Call.Only (kind : Statement → Bool) : Call → Prop
  | .mysqlQuery _ _ pieces => (statementOf pieces).all kind = true
  | _ => True

/-- What needs a token is asked for behind the lookup of the token, in the name of the user who was
found. -/
def InSession (req : Request) (events : History) (op : Call) : Prop :=
  ∀ statement, op.Sends statement → statement.isOpen = false →
    ∃ connection token users userIdx,
      findValue req.parameter (ascii "token") = .ok (some token) ∧
        ⟨.mysqlQuery connection 256 (userQuery token), some users⟩ ∈ events ∧
          Reads users userIdx ∧ statement.byUser userIdx = true

section Shapes

variable {α : Type} {req : Request} {connection capacity : Nat} {pieces : List Piece}
  {token ID : Bytes} {idx : Int} {kind : Statement → Bool}

theorem Call.Only.sends {op : Call} {statement : Statement} (only : op.Only kind)
    (sends : op.Sends statement) : kind statement = true := by
  cases op with
  | mysqlQuery connection capacity pieces =>
      have understood : statementOf pieces = some statement := sends
      rw [Only, understood] at only
      exact only
  | _ => exact sends.elim

theorem inSession_of_open {op : Call} {events : History} (only : op.Only Statement.isOpen) :
    InSession req events op := by
  intro statement sends needs
  rw [only.sends sends] at needs
  cases needs

theorem userQuery_open :
    (Call.mysqlQuery connection capacity (userQuery token)).Only Statement.isOpen := by
  simp [Option.all_map, Statement.isOpen, Option.all_true]

@[simp] theorem respond_only {statusCode : Int} {statusMsg : String} {body : Bytes} :
    (respond req statusCode statusMsg body).Always (Call.Only kind) := ⟨trivial, fun _ => trivial⟩

@[simp] theorem serverErrer_only : (serverErrer req connection).Always (Call.Only kind) :=
  ⟨trivial, fun _ => respond_only⟩

@[simp] theorem respondRows_only {query : List Piece} {tmp : Row → Except Fault Bytes} :
    (respondRows req connection capacity query tmp).Always (Call.Only kind) ↔
      (statementOf query).all kind = true := by
  simp [respondRows, Option.forall]

theorem lift_only {β : Type} (result : Except Fault β) (next : β → Prog α)
    (later : ∀ value, (next value).Always (Call.Only kind)) :
    (Program.lift result >>= next).Always (Call.Only kind) :=
  Program.always_lift_bind.mpr fun value _ => later value

theorem createToken_only {left : Nat} {next : Bytes → Prog α} :
    (createToken left >>= next).Always (Call.Only kind) ↔
      ∀ token, Drawn left token → (next token).Always (Call.Only kind) := by
  apply createToken_iff (F := fun program => program.Always (Call.Only kind))
  intro next
  rw [always_rand]
  exact and_iff_right trivial

/-- The lookup of an ID. -/
theorem getUserIdxByID_only {next : Int → Prog α}
    (here : (statementOf (userByIDQuery ID)).all kind = true)
    (later : ∀ idx, (next idx).Always (Call.Only kind)) :
    (getUserIdxByID connection ID >>= next).Always (Call.Only kind) := by
  rw [getUserIdxByID_bind]
  exact always_mysqlQuery.mpr ⟨here, lookupIDRest_of lift_only later⟩

/-- A program that sends only queries for which no token is needed. -/
theorem inSession_of_always {program : Prog Unit}
    (always : program.Always (Call.Only Statement.isOpen)) :
    program.Meets (Asks (InSession req)) :=
  Asks.of_always always id fun _ _ only => inSession_of_open only

/-- A request that looks its token up and goes on only if there is a user. -/
theorem session_start {next : Nat → Int → Prog Unit}
    (tokenFound : findValue req.parameter (ascii "token") = .ok (some token))
    (failed : ∀ connection, (next connection (-1)).Always (Call.Only Statement.isOpen))
    (found : ∀ connection idx, (next connection idx).Always (Call.Only (Statement.byUser idx))) :
    (connectionPop >>= fun connection => getUserIdx connection token >>= next connection).Meets
      (Asks (InSession req)) := by
  apply Asks.pop (f := id) (inSession_of_open trivial)
  intro connection
  apply Asks.getUserIdx (inSession_of_open userQuery_open)
  · apply Asks.of_always (failed connection)
    intro op events only
    exact inSession_of_open only
  · intro users idx reads
    apply Asks.of_always (found connection idx)
    intro op events only statement sends _
    exact ⟨connection, token, users, idx, tokenFound, by simp, reads, only.sends sends⟩

/-- What needs a token is asked for behind the lookup of the token. -/
theorem handler_inSession (handler : Handler) (req : Request) :
    (handler.program req).Meets (Asks (InSession req)) := by
  apply Handler.meets handler
  · exact meets_respond.mpr ⟨(asks_calling _).mpr (inSession_of_open trivial), asks_returned ()⟩
  · exact asks_failed _
  intro accepts
  cases accepts.given with
  | login IDFound passwordFound =>
      rw [Handler.program, login_given IDFound passwordFound]
      apply inSession_of_always
      simp [Option.forall, Option.all_map, Option.all_true, Statement.isOpen, loginRest,
        createToken_only]
  | signup IDFound passwordFound nameFound =>
      simp only [Handler.program, signup, findParameter, IDFound, passwordFound, nameFound,
        Program.lift_ok_bind]
      apply inSession_of_always
      simp [Option.forall, Option.all_bind, Option.all_map, Function.comp_def, Option.all_true,
        Statement.isOpen]
  | createGroup nameFound tokenFound =>
      simp only [Handler.program, createGroup, findParameter, nameFound, tokenFound,
        Program.lift_ok_bind]
      apply session_start tokenFound
      · simp
      · simp [Option.forall, Option.all_map, Option.all_true, Statement.byUser,
          Statement.actor]
  | groupList tokenFound =>
      simp only [Handler.program, groupList, findParameter, tokenFound, Program.lift_ok_bind]
      apply session_start tokenFound
      · simp
      · simp [Statement.byUser, Statement.actor]
  | joinGroup tokenFound groupFound IDFound =>
      simp only [Handler.program, joinGroup, findParameter, tokenFound, groupFound, IDFound,
        Program.lift_ok_bind]
      apply session_start tokenFound
      · intro connection
        apply getUserIdxByID_only
        · simp [Option.all_map, Statement.isOpen, Option.all_true]
        · simp
      · intro connection idx
        apply getUserIdxByID_only
        · simp [Option.all_map, Statement.byUser, Statement.actor, Option.all_true]
        intro useridx
        simp only [Program.always_ite, serverErrer_only, implies_true, true_and]
        intro valid
        refine ⟨fun _ => by simp, ?_⟩
        intro known
        apply always_mysqlQuery.mpr
        refine ⟨by simp [Option.all_map, Statement.byUser, Statement.actor, Option.all_true], ?_⟩
        intro outcome
        cases outcome with
        | none => exact serverErrer_only
        | some rows => cases rows <;> simp [Option.forall, Option.all_map, Option.all_true,
          Statement.byUser, Statement.actor]
  | getTodolist tokenFound =>
      simp only [Handler.program, getTodolist, findParameter, tokenFound, Program.lift_ok_bind]
      apply session_start tokenFound
      · simp
      · simp [Statement.byUser, Statement.actor]
  | postTodolist tokenFound deadlineFound detailFound =>
      simp only [Handler.program, postTodolist, findParameter, tokenFound, deadlineFound,
        detailFound, Program.lift_ok_bind]
      apply session_start tokenFound
      · simp
      · simp [Option.forall, Option.all_bind, Option.all_map, Function.comp_def, Option.all_true,
          Statement.byUser, Statement.actor]
  | getProgress tokenFound =>
      simp only [Handler.program, getProgress, findParameter, tokenFound, Program.lift_ok_bind]
      apply session_start tokenFound
      · simp
      · intro connection idx
        simp only [Program.always_ite, serverErrer_only, implies_true, true_and]
        intro valid
        apply always_mysqlQuery.mpr
        refine ⟨by simp [Statement.byUser, Statement.actor], ?_⟩
        intro outcome
        cases outcome with
        | none => exact serverErrer_only
        | some rows => cases rows <;> simp
  | postProgress tokenFound numberFound =>
      simp only [Handler.program, postProgress, findParameter, tokenFound, numberFound,
        Program.lift_ok_bind]
      apply session_start tokenFound
      · simp
      · intro connection idx
        simp only [Program.always_ite, serverErrer_only, implies_true, true_and]
        intro valid
        apply always_mysqlQuery.mpr
        refine ⟨by simp [Statement.byUser, Statement.actor], ?_⟩
        intro outcome
        cases outcome with
        | none => exact serverErrer_only
        | some rows => cases rows <;> simp [Option.all_map, Option.all_true,
          Statement.byUser, Statement.actor]
  | createChat tokenFound groupFound contentFound =>
      rw [Handler.program, createChat_given tokenFound groupFound contentFound]
      apply session_start tokenFound
      · simp
      · simp [attendanceCheck, chatRest, Program.bind_bind, Option.forall, Option.all_bind,
          Option.all_map, Function.comp_def, Option.all_true, Statement.byUser, Statement.actor]
  | @getChatlist token groupId latest tokenFound groupFound latestFound =>
      rw [Handler.program, getChatlist_given tokenFound groupFound latestFound]
      apply session_start tokenFound
      · simp
      · cases latest <;> simp [attendanceCheck, Program.bind_bind, chatsQuery, Option.all_bind,
          Option.all_map, Function.comp_def, Option.all_true, Statement.byUser, Statement.actor]
  | getLocation tokenFound userFound =>
      simp only [Handler.program, getLocation, findParameter, tokenFound, userFound,
        Program.lift_ok_bind]
      apply inSession_of_always
      simp
  | postLocation tokenFound latitudeFound longitudeFound =>
      simp only [Handler.program, postLocation, findParameter, tokenFound, latitudeFound,
        longitudeFound, Program.lift_ok_bind]
      apply session_start tokenFound <;> simp

/-- Where `login` stores a token it has drawn it, and has read the password of its request in the
row of the user. -/
def IssuesToken (req : Request) (events : History) (op : Call) : Prop :=
  ∀ token userIdx, op.Sends (.insertToken token userIdx) →
    ∃ connection ID password row rows idx,
      findValue req.parameter (ascii "ID") = .ok (some ID) ∧
        findValue req.parameter (ascii "password") = .ok (some password) ∧
          ⟨.mysqlQuery connection 256 (loginQuery ID), some (row :: rows)⟩ ∈ events ∧
            column (some row) 0 = .ok password ∧ column (some row) 2 = .ok idx ∧
              atoi idx = userIdx ∧ Drawn 50 token

/-- A token that is stored was drawn, for the user of the row with the password. -/
@[simp] def Call.Issues (row : Option Row) (password : Bytes) : Call → Prop
  | .mysqlQuery _ _ pieces => ∀ token userIdx,
    statementOf pieces = some (.insertToken token userIdx) →
      column row 0 = .ok password ∧ Drawn 50 token ∧
        ∃ idx, column row 2 = .ok idx ∧ atoi idx = userIdx
  | _ => True

@[simp] theorem respond_issues {row : Option Row} {password : Bytes} {statusCode : Int}
    {statusMsg : String} {body : Bytes} :
    (respond req statusCode statusMsg body).Always (Call.Issues row password) :=
  ⟨trivial, fun _ => trivial⟩

theorem serverErrer_issues {row : Option Row} {password : Bytes} :
    (serverErrer req connection).Always (Call.Issues row password) :=
  ⟨trivial, fun _ => respond_issues⟩

theorem loginRest_issues {password : Bytes} {rows : List Row} :
    (loginRest req password connection rows).Always (Call.Issues rows.head? password) := by
  apply Program.always_lift_bind.mpr
  intro stored read
  apply Program.always_ite.mpr
  constructor
  · intro same
    apply (createToken_iff (F := fun program => program.Always (Call.Issues rows.head? password))
      (by simp)).mpr
    intro token drawn
    apply Program.always_lift_bind.mpr
    intro idx number
    apply always_mysqlQuery.mpr
    refine ⟨?_, ?_⟩
    · intro other userIdx understood
      rw [tokenQuery_statement, drawn.clean.single] at understood
      cases understood
      exact ⟨same ▸ read, drawn, idx, number, rfl⟩
    · intro outcome
      cases outcome with
      | none => exact serverErrer_issues
      | some inserted => simp
  · intro _
    simp

theorem login_issues (req : Request) : (login req).Meets (Asks (IssuesToken req)) := by
  have silent {events : History} {op : Call} (quiet : ∀ statement, ¬ op.Sends statement) :
      IssuesToken req events op := fun _ _ sends => absurd sends (quiet _)
  apply Handler.meets .login
  · exact meets_respond.mpr ⟨(asks_calling _).mpr (silent (by simp)), asks_returned ()⟩
  · exact asks_failed _
  intro accepts
  cases accepts.given with
  | @login ID password IDFound passwordFound =>
      rw [Handler.program, login_given IDFound passwordFound]
      apply Asks.pop (f := id) (silent (by simp))
      intro connection
      apply Asks.query
      · intro token userIdx sends
        rw [Call.Sends, loginQuery_statement, Option.map_eq_some_iff] at sends
        obtain ⟨_, -, other⟩ := sends
        cases other
      intro outcome
      cases outcome with
      | none => exact Asks.serverErrer (silent (by simp)) (silent (by simp))
      | some rows =>
          apply Asks.of_always loginRest_issues
          intro op events issues token userIdx sends
          cases op with
          | mysqlQuery c capacity pieces =>
              obtain ⟨stored, drawn, idx, number, same⟩ := issues token userIdx sends
              cases rows with
              | nil => cases stored
              | cons row rows =>
                  exact ⟨connection, ID, password, row, rows, idx, IDFound, passwordFound,
                    by simp, stored, number, same, drawn⟩
          | _ => exact sends.elim

end Shapes

/-- The row a statement adds to `token`. -/
def Statement.token : Statement → Option Token
  | .insertToken token userIdx => some ⟨token, userIdx⟩
  | _ => none

/-- The row a call adds to `token`. -/
def CallStep.issued (step : CallStep) : Option Token :=
  (carriedOut step.event).bind Statement.token

/-- The call is one of a `login` that names the ID of the user and his password, and the token was
drawn. -/
def LogsIn (mysql : Mysql) (jobs : Nat → Job) (step : CallStep) (row : Token) : Prop :=
  (jobs step.thread).handler = .login ∧ Drawn 50 row.token ∧
    ∃ ID password user,
      findValue (jobs step.thread).req.parameter (ascii "ID") = .ok (some ID) ∧
        findValue (jobs step.thread).req.parameter (ascii "password") = .ok (some password) ∧
          user ∈ step.before.tables.usersByID mysql.same ID ∧ user.idx = row.userIdx ∧
            user.password = some password

section Steps

variable {mysql : Mysql} {gap : Nat} {today : Bytes} {tables : Tables} {lastId : Int}
  {executed : Executed} {targets : List TableName} {s t : Shared}

theorem Statement.token_some {statement : Statement} {row : Token}
    (adds : statement.token = some row) :
    statement = .insertToken row.token row.userIdx := by
  cases statement with
  | insertToken token userIdx =>
      cases adds
      rfl
  | _ => cases adds

theorem exec_token {statement : Statement}
    (run : exec mysql gap today tables lastId statement = some executed)
    (short : ∀ row, statement.token = some row → row.token.length ≤ 50) :
    executed.tables.token = tables.token ++ statement.token.toList := by
  cases statement with
  | insertToken token userIdx =>
      obtain ⟨stored, fits, inserted⟩ := exec_insertToken run
      rw [mysql.store_fits 50 token (short _ rfl)] at fits
      cases fits
      exact (Tables.insertToken_some inserted).2.1
  | _ =>
      have same : Tables.Same tables executed.tables .token :=
        exec_same (by simp [Statement.target]) run
      rw [← show tables.token = _ from same]
      exact (List.append_nil _).symm

/-- A call adds the token it issues, if the token fits. -/
theorem answers_token {event : Exchange Call Answer} (within : event.op.Within targets)
    (answered : mysql.Answers event.op event.answer s t)
    (short : ∀ row, (carriedOut event).bind Statement.token = some row → row.token.length ≤ 50) :
    t.tables.token = s.tables.token ++ ((carriedOut event).bind Statement.token).toList := by
  rcases answers_carriedOut within answered with ⟨nothing, same⟩ | done
  · rw [show carriedOut event = none from nothing, same]
    exact (List.append_nil _).symm
  · obtain ⟨statement, gap, today, lastId, executed, carried, run, same⟩ := done
    have here : carriedOut event = some statement := carried
    rw [here] at short
    rw [here, same]
    exact exec_token run short

end Steps

section Runs

variable {mysql : Mysql} {jobs : Nat → Job} {start s : Shared} {run earlier later : List CallStep}
  {threads : Nat → Prog Unit} {step : CallStep}

/-- Whoever is issued a token has named the password of the user. -/
theorem issued_logsIn (served : Served mysql jobs start run threads s)
    (readable : ∀ thread, (jobs thread).Readable) (member : step ∈ run) {row : Token}
    (issued : step.issued = some row) : LogsIn mysql jobs step row := by
  have within := served.within readable step member
  obtain ⟨statement, carried, adds⟩ := Option.bind_eq_some_iff.mp issued
  obtain rfl := Statement.token_some adds
  have sends := carriedOut_sends carried
  have target : TableName.token ∈ (jobs step.thread).handler.targets := sends.target within rfl
  have logsIn : (jobs step.thread).handler = .login := by
    cases shape : (jobs step.thread).handler <;> simp_all [Handler.targets]
  have own := readable step.thread
  rw [Job.Readable, logsIn] at own
  have asks : (jobs step.thread).program.Meets (Asks (IssuesToken (jobs step.thread).req)) := by
    rw [Job.program, logsIn]
    exact login_issues _
  obtain ⟨earlier, later, whole⟩ := List.append_of_mem member
  rw [whole] at served
  obtain ⟨middle, before, -⟩ := served.calling
  have issues := (asks_calling _).mp (served.meets_calling asks)
  obtain ⟨connection, ID, password, row, rows, idx, IDFound, passwordFound, lookup, stored,
    number, same, drawn⟩ := issues _ _ sends
  have IDRead := own.single (by simp [Handler.insertions]) IDFound
  obtain ⟨select, inFront, -, event⟩ := Interaction.mem_eventsOf.mp lookup
  have answered := Served.answers before inFront
  rw [event] at answered
  have selected := (Mysql.answers_loginQuery IDRead).mp answered
  refine ⟨logsIn, drawn, ID, password, ?_⟩
  cases selected.answer with
  | inl failed => cases failed
  | inr found =>
      obtain ⟨answer, given, order⟩ := found
      cases given
      obtain ⟨user, among, shown⟩ := List.mem_map.mp (order.mem_iff.mp (List.mem_cons_self ..))
      subst shown
      obtain ⟨here, named⟩ := List.mem_filter.mp among
      have stands := (Served.extends readable before inFront).user.subset here
      refine ⟨user, IDFound, passwordFound, List.mem_filter.mpr ⟨stands, named⟩, ?_, ?_⟩
      · have read := Tables.atoi_number select.before.tables.user here
        cases number
        exact read.symm.trans same
      · have read : column (some (loginRow user)) 0 = .ok password := stored
        cases kept : user.password with
        | none => simp [column, cell, loginRow, kept, bind, Except.bind] at read
        | some other =>
            simp [column, cell, loginRow, kept, bind, Except.bind] at read
            rw [read]

/-- The tokens are those that were issued, behind those of the start. -/
theorem token_rows (served : Served mysql jobs start run threads s)
    (readable : ∀ thread, (jobs thread).Readable) :
    s.tables.token = start.tables.token ++ run.filterMap CallStep.issued := by
  apply served.linked.lists (fun s => s.tables.token)
  intro step member answered
  apply answers_token (served.within readable step member) answered
  intro row issued
  exact Nat.le_of_eq (issued_logsIn served readable member issued).2.1.1

/-- Each token was issued to somebody who named the ID and the password of its user, and nobody has
changed or removed it. -/
theorem token_issued (served : Served mysql jobs .start run threads s)
    (readable : ∀ thread, (jobs thread).Readable) :
    s.tables.token = run.filterMap CallStep.issued ∧
      ∀ step ∈ run, ∀ row, step.issued = some row →
        LogsIn mysql jobs step row ∧ row ∈ s.tables.token := by
  have rows := token_rows served readable
  refine ⟨rows, ?_⟩
  intro step member row issued
  refine ⟨issued_logsIn served readable member issued, ?_⟩
  rw [rows]
  exact List.mem_append_right _ (List.mem_filterMap.mpr ⟨step, member, issued⟩)

theorem sqlString_some {quote : UInt8} {text read : Bytes}
    (found : sqlString quote text = some read) : read = text := by
  rw [sqlString] at found
  split at found
  · exact (Option.some.inj found).symm
  · cases found

/-- A token that was looked up is one that the database can read. -/
theorem lookup_read (served : Served mysql jobs start run threads s)
    (readable : ∀ thread, (jobs thread).Readable) {thread connection capacity : Nat}
    {token : Bytes} {outcome : Option (List Row)}
    (lookup : ⟨.mysqlQuery connection capacity (userQuery token), outcome⟩ ∈ eventsOf thread run) :
    sqlString (chr '\'') token = some token := by
  obtain ⟨step, member, -, event⟩ := Interaction.mem_eventsOf.mp lookup
  have within := served.within readable step member
  rw [event] at within
  obtain ⟨statement, understood, -⟩ := within
  rw [userQuery_statement, Option.map_eq_some_iff] at understood
  obtain ⟨read, found, -⟩ := understood
  rw [found, sqlString_some found]

/-- Behind a lookup that found the user, there is the login that issued the token. -/
theorem authenticated_issued (served : Served mysql jobs .start run threads s)
    (readable : ∀ thread, (jobs thread).Readable) {thread : Nat} {idx : Int}
    (authenticated : Authenticated mysql jobs run thread idx) :
    ∃ token row, findValue (jobs thread).req.parameter (ascii "token") = .ok (some token) ∧
      mysql.same row.token token = true ∧ row.userIdx = idx ∧
        ∃ login ∈ run, login.issued = some row ∧ LogsIn mysql jobs login row := by
  obtain ⟨token, found, select, member, -, -, user, known, number⟩ := authenticated
  obtain ⟨-, row, stored, same, owner⟩ := Tables.mem_usersByToken.mp known
  obtain ⟨front, back, whole⟩ := List.append_of_mem member
  rw [whole] at served
  obtain ⟨middle, before, -⟩ := served.calling
  have rows : select.before.tables.token = front.filterMap CallStep.issued :=
    token_rows before readable
  rw [rows] at stored
  obtain ⟨login, inFront, issued⟩ := List.mem_filterMap.mp stored
  refine ⟨token, row, found, same, owner.trans number, login, ?_, issued,
    issued_logsIn before readable inFront issued⟩
  rw [whole]
  exact List.mem_append_left _ inFront

/-- Whatever needs a token is done with one that an earlier login has issued, for the ID and the
password of the user in whose name it is done. -/
theorem sends_in_session (served : Served mysql jobs .start run threads s)
    (readable : ∀ thread, (jobs thread).Readable) (whole : run = earlier ++ step :: later)
    {statement : Statement} (sends : step.event.op.Sends statement)
    (needs : statement.isOpen = false) :
    ∃ token row,
      findValue (jobs step.thread).req.parameter (ascii "token") = .ok (some token) ∧
        mysql.same row.token token = true ∧
          (∀ actor, statement.actor = some actor → actor = row.userIdx) ∧
            ∃ login ∈ earlier, login.issued = some row ∧ LogsIn mysql jobs login row := by
  rw [whole] at served
  obtain ⟨middle, before, -⟩ := served.calling
  have inSession := (asks_calling _).mp (served.meets_calling (handler_inSession _ _))
  obtain ⟨connection, token, users, idx, found, lookup, reads, acts⟩ :=
    inSession statement sends needs
  have read := lookup_read before readable lookup
  obtain ⟨token, row, named, same, owner, issued⟩ := authenticated_issued before readable
    (Served.authenticated before found read lookup reads)
  refine ⟨token, row, named, same, ?_, issued⟩
  intro actor acting
  rw [Statement.byUser, acting] at acts
  rw [owner]
  exact of_decide_eq_true acts

end Runs

section Samples

theorem token_issued_sample : ∃ run threads s,
    Served .strict strangerJobs .start run threads s ∧ StrangerServed "a" run s ∧
      s.tables.token = run.filterMap CallStep.issued ∧
        ∀ step ∈ run, ∀ row, step.issued = some row → LogsIn .strict strangerJobs step row := by
  obtain ⟨⟨run, threads, s, served, stranger⟩, -⟩ := strangerJobs_served
  obtain ⟨rows, issued⟩ := token_issued served (getD_readable strangerJobList_readable)
  exact ⟨run, threads, s, served, stranger, rows,
    fun step member row here => (issued step member row here).1⟩

/-- The stranger who sends a message has logged in before. -/
theorem sends_in_session_sample : ∃ run threads s,
    Served .strict strangerJobs .start run threads s ∧ ∃ step ∈ run,
      (∃ groupIdx, step.event.op.Posts 2 groupIdx) ∧ ∃ login ∈ run, ∃ row,
        login.issued = some row ∧ row.userIdx = 2 ∧ LogsIn .strict strangerJobs login row := by
  obtain ⟨⟨run, threads, s, served, stranger⟩, -⟩ := strangerJobs_served
  have readable : ∀ thread, (strangerJobs thread).Readable :=
    getD_readable strangerJobList_readable
  have among : ((⟨2, 1⟩ : Member), ([⟨1, 1⟩] : List Member)) ∈ run.filterMap fun step =>
      step.posted.map fun chat =>
        ((⟨chat.userIdx, chat.groupIdx⟩ : Member), step.before.tables.joinGroup) := by
    rw [stranger.posted]
    exact List.mem_singleton_self _
  obtain ⟨step, member, sent⟩ := List.mem_filterMap.mp among
  obtain ⟨chat, posted, shown⟩ := Option.map_eq_some_iff.mp sent
  have author : chat.userIdx = 2 := congrArg (fun entry => entry.1.userIdx) shown
  obtain ⟨posts, -, -⟩ := posted_some (served.within readable step member) (served.answers member)
    posted
  rw [author] at posts
  obtain ⟨chatType, content, chatTime, sends⟩ := posts
  obtain ⟨earlier, later, whole⟩ := List.append_of_mem member
  obtain ⟨token, row, -, -, acts, login, inFront, issued, logsIn⟩ :=
    sends_in_session served readable whole sends rfl
  refine ⟨run, threads, s, served, step, member, ⟨_, _, _, _, sends⟩, login, ?_, row, issued,
    (acts 2 rfl).symm, logsIn⟩
  rw [whole]
  exact List.mem_append_left _ inFront

end Samples

end Ttac
