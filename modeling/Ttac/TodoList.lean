import Ttac.MemberGrants
import Ttac.Snapshots

set_option autoImplicit false

/- The todo lists of the users: what `post_todolist` enters and `get_todolist` shows while requests
are served at the same time. -/
namespace Ttac

open Interaction (Program Exchange Interleaved Linked Transition eventsOf)
open Interaction.Program (Meets)
open Sql (Piece)

/-- The row that a statement adds to `todo`, as far as its columns take the texts. -/
def Statement.todo (mysql : Mysql) : Statement → Option Todo
  | .insertTodo userIdx deadline detail => do
    let deadline ← mysql.date deadline
    let detail ← mysql.store 256 detail
    some ⟨userIdx, deadline, detail⟩
  | _ => none

/-- The row that a call adds to `todo`. -/
def CallStep.entered (mysql : Mysql) (step : CallStep) : Option Todo :=
  (carriedOut step.event).bind (Statement.todo mysql)

/-- The replies of `post_todolist` behind which nothing was entered. -/
def unentered (req : Request) : List Reply :=
  [statusReply req "ERROR", serverError req, missingReply req]

/-- Where `post_todolist` enters anything, it is what the request has, for the user of its token,
and where it replies the reply says whether it was entered. -/
structure EntersOwn (req : Request) (events : History) (op : Call) : Prop where
  silent : replies events = []
  enters : ∀ userIdx deadline detail, op.Sends (.insertTodo userIdx deadline detail) →
    findValue req.parameter (ascii "deadline") = .ok (some deadline) ∧
      findValue req.parameter (ascii "detail") = .ok (some detail) ∧
        ∃ connection token users,
          findValue req.parameter (ascii "token") = .ok (some token) ∧
            ⟨.mysqlQuery connection 256 (userQuery token), some users⟩ ∈ events ∧
              Reads users userIdx
  responds : ∀ reply, op = .response reply →
    (reply = statusReply req "OK" ∧
      ∃ userIdx deadline detail, written events = [.insertTodo userIdx deadline detail]) ∨
        (reply ∈ unentered req ∧ written events = [])

section Shapes

variable {req : Request} {events : History} {op : Call}

theorem EntersOwn.of_quiet (silent : replies events = [])
    (quiet : ∀ userIdx deadline detail, ¬ op.Sends (.insertTodo userIdx deadline detail))
    (noReply : ¬ op.IsReply) : EntersOwn req events op := by
  refine ⟨silent, ?_, ?_⟩
  · intro userIdx deadline detail sends
    exact absurd sends (quiet _ _ _)
  · intro reply same
    subst same
    exact absurd trivial noReply

theorem EntersOwn.refuses {reply : Reply} (silent : replies events = [])
    (refused : reply ∈ unentered req) (nothing : written events = []) :
    EntersOwn req events (.response reply) := by
  refine ⟨silent, fun _ _ _ sends => sends.elim, ?_⟩
  intro other same
  cases same
  exact .inr ⟨refused, nothing⟩

/-- The end of `post_todolist`. -/
theorem status_enters {f : History → History} {connection : Nat} {status : String}
    (silent : ∀ after, replies (f after) = replies after)
    (told : (statusReply req status = statusReply req "OK" ∧ ∃ userIdx deadline detail,
      written (f [⟨.connectionPush connection, ()⟩]) = [.insertTodo userIdx deadline detail]) ∨
        (statusReply req status ∈ unentered req ∧
          written (f [⟨.connectionPush connection, ()⟩]) = [])) :
    (Program.lift (sprintf 256 (statusBody status)) >>= fun body =>
      connectionPush connection >>= fun _ => respond req 200 "OK" body).Meets fun events =>
        Asks (EntersOwn req) (f events) := by
  apply Asks.lift
  intro body sent
  rw [(sprintf_ok sent).2]
  apply Asks.push (.of_quiet (silent []) (by simp) id)
  apply Asks.respond
  refine ⟨silent _, fun _ _ _ sends => sends.elim, ?_⟩
  intro reply same
  cases same
  exact told

theorem postTodolist_enters (readable : Handler.postTodolist.Readable req) :
    (postTodolist req).Meets (Asks (EntersOwn req)) := by
  apply Handler.meets .postTodolist
  · exact Asks.respond (f := id) (.refuses rfl (by simp [unentered, missingReply]) rfl)
  · exact asks_failed _
  intro accepts
  cases accepts.given with
  | @postTodolist token deadline detail tokenFound deadlineFound detailFound =>
      have tokenRead := readable.single (by simp [Handler.insertions]) tokenFound
      have deadlineRead := readable.single (by simp [Handler.insertions]) deadlineFound
      have detailRead := readable.single (by simp [Handler.insertions]) detailFound
      have userRead : statementOf (userQuery token) = some (.userByToken token) := by
        rw [userQuery_statement, tokenRead]
        rfl
      simp only [Handler.program, postTodolist, findParameter, tokenFound, deadlineFound,
        detailFound, Program.lift_ok_bind]
      apply Asks.pop (f := id) (.of_quiet rfl (by simp) id)
      intro connection
      have lookedUp (outcome : Option (List Row)) (after : History) :
          written (⟨.connectionPop, connection⟩ ::
            ⟨.mysqlQuery connection 256 (userQuery token), outcome⟩ :: after) = written after := by
        rw [written_quiet rfl, written_select userRead rfl]
      have refuses {f : History → History} (silent : ∀ after, replies (f after) = replies after)
          (nothing : ∀ after, written (f after) = written after) :
          (serverErrer req connection).Meets fun events => Asks (EntersOwn req) (f events) := by
        apply Asks.serverErrer
        · exact .of_quiet (silent []) (by simp) id
        · apply EntersOwn.refuses
          · exact silent _
          · simp [unentered, serverError]
          · exact nothing _
      apply Asks.getUserIdx (.of_quiet rfl (by simp [userRead]) id)
      · rw [if_pos rfl]
        exact refuses (fun _ => rfl) (lookedUp none)
      intro users idx reads
      apply Program.meets_ite.mpr
      refine ⟨fun _ => refuses (fun _ => rfl) (lookedUp _), ?_⟩
      intro known
      have inserts : statementOf (todoQuery idx deadline detail) =
          some (.insertTodo idx deadline detail) := by
        rw [todoQuery_statement, deadlineRead, detailRead]
        rfl
      apply Asks.query
      · refine ⟨rfl, ?_, fun reply same => by cases same⟩
        intro userIdx otherDeadline otherDetail sends
        rw [Call.Sends, inserts] at sends
        cases sends
        exact ⟨deadlineFound, detailFound, connection, token, users, tokenFound, by simp, reads⟩
      intro outcome
      cases outcome with
      | none =>
          apply meets_mysqlError.mpr
          refine ⟨(asks_calling _).mpr (.of_quiet rfl (by simp) id), ?_⟩
          apply status_enters
          · exact fun _ => rfl
          · refine .inr ⟨by simp [unentered], ?_⟩
            exact (lookedUp _ _).trans ((written_quiet rfl).trans (written_quiet rfl))
      | some stored =>
          have carried : carriedOut ⟨.mysqlQuery connection 256 (todoQuery idx deadline detail),
              some stored⟩ = some (.insertTodo idx deadline detail) := inserts
          apply status_enters
          · exact fun _ => rfl
          · refine .inl ⟨rfl, idx, deadline, detail, ?_⟩
            refine (lookedUp _ _).trans ?_
            rw [written_cons, carried]
            rfl

/-- Behind its reply `post_todolist` makes no more calls. -/
theorem postTodolist_replied {rest : Prog Unit} {reply : Reply}
    (readable : Handler.postTodolist.Readable req) (runs : (postTodolist req).Runs events rest)
    (replied : reply ∈ replies events) :
    (reply = statusReply req "OK" ∧
      ∃ userIdx deadline detail, written events = [.insertTodo userIdx deadline detail]) ∨
        (reply ∈ unentered req ∧ written events = []) := by
  obtain ⟨before, rfl, asked⟩ :=
    Asks.replied (postTodolist_enters readable) (fun _ _ enters => enters.silent) runs replied
  rw [written_replied]
  exact asked.responds reply rfl

end Shapes

section Steps

variable {mysql : Mysql} {gap : Nat} {today : Bytes} {tables after : Tables} {lastId : Int}
  {executed : Executed} {targets : List TableName} {s t : Shared} {statement : Statement}

theorem insertTodo_rows {userIdx : Int} {deadline detail : Bytes}
    (inserted : tables.insertTodo userIdx deadline detail = some after) :
    after.todo = tables.todo ++ [⟨userIdx, deadline, detail⟩] := by
  unfold Tables.insertTodo at inserted
  split at inserted
  · cases inserted
    rfl
  · cases inserted

theorem exec_todo (run : exec mysql gap today tables lastId statement = some executed) :
    executed.tables.todo = tables.todo ++ (statement.todo mysql).toList := by
  cases statement with
  | insertTodo userIdx deadline detail =>
      obtain ⟨date, dated, run⟩ := Option.bind_eq_some_iff.mp run
      obtain ⟨stored, fits, run⟩ := Option.bind_eq_some_iff.mp run
      obtain ⟨after, inserted, same⟩ := Option.bind_eq_some_iff.mp run
      cases same
      simp only [Statement.todo, dated, fits, Option.bind_eq_bind, Option.bind_some]
      exact insertTodo_rows inserted
  | _ =>
      have same : Tables.Same tables executed.tables .todo :=
        exec_same (by simp [Statement.target]) run
      rw [← show tables.todo = _ from same]
      exact (List.append_nil _).symm

theorem answers_todo {event : Exchange Call Answer} (within : event.op.Within targets)
    (answered : mysql.Answers event.op event.answer s t) :
    t.tables.todo =
      s.tables.todo ++ ((carriedOut event).bind (Statement.todo mysql)).toList := by
  rcases answers_carriedOut within answered with ⟨nothing, same⟩ | done
  · rw [show carriedOut event = none from nothing, same]
    exact (List.append_nil _).symm
  · obtain ⟨statement, gap, today, lastId, executed, carried, run, same⟩ := done
    rw [show carriedOut event = some statement from carried, same]
    exact exec_todo run

/-- An insert that is carried out enters a row. -/
theorem answers_entered {event : Exchange Call Answer} {userIdx : Int} {deadline detail : Bytes}
    (within : event.op.Within targets) (answered : mysql.Answers event.op event.answer s t)
    (carried : carriedOut event = some (.insertTodo userIdx deadline detail)) :
    ∃ row, Statement.todo mysql (.insertTodo userIdx deadline detail) = some row := by
  rcases answers_carriedOut within answered with ⟨nothing, -⟩ | done
  · rw [show carriedOut event = none from nothing] at carried
    cases carried
  · obtain ⟨other, gap, today, lastId, executed, also, run, -⟩ := done
    rw [show carriedOut event = some other from also] at carried
    cases carried
    obtain ⟨date, dated, run⟩ := Option.bind_eq_some_iff.mp run
    obtain ⟨stored, fits, -⟩ := Option.bind_eq_some_iff.mp run
    simp only [Statement.todo, dated, fits, Option.bind_eq_bind, Option.bind_some]
    exact ⟨_, rfl⟩

theorem Statement.todo_some {row : Todo} (adds : statement.todo mysql = some row) :
    ∃ deadline detail, statement = .insertTodo row.userIdx deadline detail ∧
      mysql.date deadline = some row.deadline ∧ mysql.store 256 detail = some row.detail := by
  cases statement with
  | insertTodo userIdx deadline detail =>
      obtain ⟨date, dated, adds⟩ := Option.bind_eq_some_iff.mp adds
      obtain ⟨stored, fits, same⟩ := Option.bind_eq_some_iff.mp adds
      cases same
      exact ⟨deadline, detail, rfl, dated, fits⟩
  | _ => cases adds

end Steps

/-- The row has the deadline and the detail of the request, for the user of its token. -/
def Enters (mysql : Mysql) (jobs : Nat → Job) (run : List CallStep) (thread : Nat) (row : Todo) :
    Prop :=
  (jobs thread).handler = .postTodolist ∧ Authenticated mysql jobs run thread row.userIdx ∧
    ∃ deadline detail,
      findValue (jobs thread).req.parameter (ascii "deadline") = .ok (some deadline) ∧
        findValue (jobs thread).req.parameter (ascii "detail") = .ok (some detail) ∧
          mysql.date deadline = some row.deadline ∧ mysql.store 256 detail = some row.detail

section Runs

variable {mysql : Mysql} {jobs : Nat → Job} {start s : Shared} {run : List CallStep}
  {threads : Nat → Prog Unit} {thread : Nat}

/-- The rows are those that were entered, in their order. -/
theorem todo_rows (served : Served mysql jobs start run threads s)
    (readable : ∀ thread, (jobs thread).Readable) :
    s.tables.todo = start.tables.todo ++ run.filterMap (CallStep.entered mysql) := by
  apply served.linked.lists (fun s => s.tables.todo)
  intro step member answered
  exact answers_todo (served.within readable step member) answered

theorem entered_own (served : Served mysql jobs start run threads s)
    (readable : ∀ thread, (jobs thread).Readable) {step : CallStep} (member : step ∈ run)
    {row : Todo} (entered : step.entered mysql = some row) :
    Enters mysql jobs run step.thread row := by
  have within := served.within readable step member
  obtain ⟨statement, carried, adds⟩ := Option.bind_eq_some_iff.mp entered
  obtain ⟨deadline, detail, rfl, dated, stored⟩ := Statement.todo_some adds
  have sends := carriedOut_sends carried
  have target : TableName.todo ∈ (jobs step.thread).handler.targets := sends.target within rfl
  have posts : (jobs step.thread).handler = .postTodolist := by
    cases shape : (jobs step.thread).handler <;> simp_all [Handler.targets]
  have own := readable step.thread
  rw [Job.Readable, posts] at own
  have asks : (jobs step.thread).program.Meets (Asks (EntersOwn (jobs step.thread).req)) := by
    rw [Job.program, posts]
    exact postTodolist_enters own
  obtain ⟨earlier, later, whole⟩ := List.append_of_mem member
  rw [whole] at served
  obtain ⟨middle, before, -⟩ := served.calling
  obtain ⟨deadlineFound, detailFound, connection, token, users, tokenFound, lookup, reads⟩ :=
    ((asks_calling _).mp (served.meets_calling asks)).enters _ _ _ sends
  have tokenRead := own.single (by simp [Handler.insertions]) tokenFound
  refine ⟨posts, ?_, deadline, detail, deadlineFound, detailFound, dated, stored⟩
  rw [whole]
  exact (Served.authenticated before tokenFound tokenRead lookup reads).append _

/-- What the calls of a thread have entered is what its statements write. -/
theorem entered_of_written : (run.filter fun step => step.thread = thread).filterMap
    (CallStep.entered mysql) =
      (written (eventsOf thread run)).filterMap (Statement.todo mysql) := by
  have only : ∀ statements : List Statement,
      (statements.filter fun statement => statement.target.isSome).filterMap
        (Statement.todo mysql) = statements.filterMap (Statement.todo mysql) := by
    intro statements
    induction statements with
    | nil => rfl
    | cons statement statements ih =>
        cases statement with
        | insertTodo userIdx deadline detail =>
            rw [List.filter_cons_of_pos rfl, List.filterMap_cons, List.filterMap_cons, ih]
        | _ => exact ih
  rw [written, only, eventsOf, List.filterMap_map, List.filterMap_filterMap]
  rfl

/-- `post_todolist` replies `OK` if and only if it has entered a row. -/
theorem posted_entered (served : Served mysql jobs start run threads s)
    (readable : ∀ thread, (jobs thread).Readable)
    (posts : (jobs thread).handler = .postTodolist) {reply : Reply}
    (replied : reply ∈ replies (eventsOf thread run)) :
    (reply = statusReply (jobs thread).req "OK" ∧
      ∃ row, (run.filter fun step => step.thread = thread).filterMap (CallStep.entered mysql) =
        [row]) ∨
      (reply ∈ unentered (jobs thread).req ∧
        (run.filter fun step => step.thread = thread).filterMap (CallStep.entered mysql) = []) := by
  have own := readable thread
  have runs := served.runs thread
  rw [Job.Readable, posts] at own
  rw [Job.program, posts] at runs
  rw [entered_of_written]
  rcases postTodolist_replied own runs replied with
    ⟨same, userIdx, deadline, detail, insert⟩ | ⟨refused, nothing⟩
  · have among : Statement.insertTodo userIdx deadline detail ∈ written (eventsOf thread run) := by
      rw [insert]
      exact List.mem_singleton_self _
    obtain ⟨event, made, carried⟩ := List.mem_filterMap.mp (List.mem_filter.mp among).1
    obtain ⟨step, member, -, rfl⟩ := Interaction.mem_eventsOf.mp made
    obtain ⟨row, adds⟩ := answers_entered (served.within readable step member)
      (served.answers member) carried
    refine .inl ⟨same, row, ?_⟩
    rw [insert, List.filterMap_cons_some adds]
    rfl
  · rw [nothing]
    exact .inr ⟨refused, rfl⟩

/-- `get_todolist` shows the rows of its user that were entered before it asked. -/
theorem todolist_shows (served : Served mysql jobs .start run threads s)
    (readable : ∀ thread, (jobs thread).Readable)
    (gets : (jobs thread).handler = .getTodolist) {reply : Reply}
    (replied : reply ∈ replies (eventsOf thread run)) (ok : reply.statusCode = 200) :
    ∃ userIdx front select later rows, Authenticated mysql jobs run thread userIdx ∧
      run = front ++ select :: later ∧ select.thread = thread ∧
        select.event.op.Sends (.todosOf userIdx) ∧
          rows.Perm (((front.filterMap (CallStep.entered mysql)).filter fun row =>
            row.userIdx = userIdx).map todolistRow) ∧ writeList todoRow rows = .ok reply.body := by
  have reader : (jobs thread).handler ∈ readers := by
    rw [gets]
    decide
  obtain ⟨userIdx, statement, front, select, later, rows, authenticated, asks, split, own, sends, -,
    order, shown⟩ := shown_at served (readable thread) reader replied ok
  rw [gets] at asks shown
  cases asks
  subst split
  obtain ⟨middle, before, -⟩ := served.calling
  have entered := todo_rows before readable
  rw [show Shared.start.tables.todo = [] from rfl, List.nil_append] at entered
  refine ⟨userIdx, front, select, later, rows, authenticated, rfl, own, sends, ?_, shown⟩
  rw [← entered]
  exact order

/-- The todo lists are those that were entered: each row by a request of its user that has its
deadline and its detail. `post_todolist` replies `OK` if and only if it has entered one row, and
`get_todolist` shows the rows of its user that were entered before it asked. -/
theorem todolist_log (served : Served mysql jobs .start run threads s)
    (readable : ∀ thread, (jobs thread).Readable) :
    s.tables.todo = run.filterMap (CallStep.entered mysql) ∧
      (∀ step ∈ run, ∀ row, step.entered mysql = some row →
        Enters mysql jobs run step.thread row) ∧
      (∀ thread, (jobs thread).handler = .postTodolist → ∀ reply ∈ replies (eventsOf thread run),
        (reply = statusReply (jobs thread).req "OK" ∧ ∃ row,
          (run.filter fun step => step.thread = thread).filterMap (CallStep.entered mysql) =
            [row]) ∨
        (reply ∈ unentered (jobs thread).req ∧
          (run.filter fun step => step.thread = thread).filterMap (CallStep.entered mysql) =
            [])) ∧
      ∀ thread, (jobs thread).handler = .getTodolist → ∀ reply ∈ replies (eventsOf thread run),
        reply.statusCode = 200 →
        ∃ userIdx front select later rows, Authenticated mysql jobs run thread userIdx ∧
          run = front ++ select :: later ∧ select.thread = thread ∧
            select.event.op.Sends (.todosOf userIdx) ∧
              rows.Perm (((front.filterMap (CallStep.entered mysql)).filter fun row =>
                row.userIdx = userIdx).map todolistRow) ∧
                writeList todoRow rows = .ok reply.body := by
  refine ⟨todo_rows served readable, ?_, ?_, ?_⟩
  · intro step member row entered
    exact entered_own served readable member entered
  · intro thread posts reply replied
    exact posted_entered served readable posts replied
  · intro thread gets reply replied ok
    exact todolist_shows served readable gets replied ok

end Runs

section Samples

/-- A user signs up, logs in, enters a row and asks for the list before and after it is there. -/
def todoJobList : List Job :=
  arrival (ascii "i") ++ [⟨.postTodolist, requestOf
    [("token", tokenOn 1), ("deadline", ascii "2018-06-12"), ("detail", ascii "d")]⟩,
    ⟨.getTodolist, requestOf [("token", tokenOn 1)]⟩,
    ⟨.getTodolist, requestOf [("token", tokenOn 1)]⟩]

theorem todoJobList_readable : ∀ job ∈ todoJobList, job.Readable := by
  unfold Job.Readable
  decide +kernel

def todoJobs : Nat → Job := fun thread => todoJobList.getD thread ⟨.joinGroup, requestOf []⟩

/-- The first of the two lists is asked for before the row is entered, and sent after it. -/
def todoOrder : List Nat :=
  List.replicate 5 0 ++ List.replicate 55 1 ++ List.replicate 3 3 ++ List.replicate 5 2 ++
    List.replicate 2 3 ++ List.replicate 5 4

def todoReply (body : String) : Reply := ⟨200, ascii "OK", (todoJobs 2).req.version, ascii body⟩

theorem todolist_log_sample : ∃ run threads s, Served .strict todoJobs .start run threads s ∧
    replies (eventsOf 3 run) = [todoReply "[]"] ∧
      replies (eventsOf 4 run) =
        [todoReply "[\x7b\"deadline\":2018-06-12,\"detail\":\"d\"\x7d]"] ∧
        (∃ row, (run.filter fun step => step.thread = 2).filterMap (CallStep.entered .strict) =
          [row]) ∧
          ∃ userIdx front select later rows, run = front ++ select :: later ∧
            rows.Perm (((front.filterMap (CallStep.entered .strict)).filter fun row =>
              row.userIdx = userIdx).map todolistRow) ∧
              writeList todoRow rows = .ok (ascii "[]") := by
  have scheduled : (Interaction.schedule (Mysql.strict.world []) todoOrder
      (fun thread => (todoJobs thread).program) .start).map (fun served =>
        (replies (eventsOf 2 served.1), replies (eventsOf 3 served.1),
          replies (eventsOf 4 served.1))) =
      some ([statusReply (todoJobs 2).req "OK"], [todoReply "[]"],
        [todoReply "[\x7b\"deadline\":2018-06-12,\"detail\":\"d\"\x7d]"]) := by
    decide +kernel
  obtain ⟨⟨run, threads, s⟩, found, same⟩ := Option.map_eq_some_iff.mp scheduled
  simp only [Prod.mk.injEq] at same
  obtain ⟨posted, empty, listed⟩ := same
  have starts : Served .strict todoJobs .start [] (fun thread => (todoJobs thread).program)
      .start := .nil
  have served := Interaction.schedule_interleaved (Mysql.strict.world_follows []) starts found
  obtain ⟨-, -, posts, gets⟩ := todolist_log served (getD_readable todoJobList_readable)
  refine ⟨run, threads, s, served, empty, listed, ?_, ?_⟩
  · have sent : statusReply (todoJobs 2).req "OK" ∈ replies (eventsOf 2 run) := by
      rw [posted]
      exact List.mem_singleton_self _
    rcases posts 2 rfl _ sent with ⟨-, entered⟩ | ⟨refused, -⟩
    · exact entered
    · exact absurd refused (by decide)
  · have sent : todoReply "[]" ∈ replies (eventsOf 3 run) := by
      rw [empty]
      exact List.mem_singleton_self _
    obtain ⟨userIdx, front, select, later, rows, -, split, -, -, order, shown⟩ :=
      gets 3 rfl _ sent rfl
    exact ⟨userIdx, front, select, later, rows, split, order, shown⟩

end Samples

end Ttac
