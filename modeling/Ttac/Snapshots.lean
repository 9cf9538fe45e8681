import Ttac.ChatMembers
import Ttac.ProgressTable

set_option autoImplicit false

/- The replies that show rows of the tables: each is made of the answer to one query, and shows the
tables as they were at that query. -/
namespace Ttac

open Interaction (Program Exchange Interleaved Linked Transition eventsOf)
open Interaction.Program (Meets Always)
open Sql (Piece)

/-- The handlers that answer with rows. -/
def readers : List Handler := [.groupList, .getTodolist, .getProgress, .getChatlist]

/-- The body of `get_progress`. -/
def progressText (rows : List Row) : Except Fault Bytes := do
  let number ← firstNumber rows
  sprintf 256 (numberBody number)

/-- What a handler makes of the rows that it answers with. -/
def Handler.shows : Handler → List Row → Except Fault Bytes
  | .groupList => writeList groupRow
  | .getTodolist => writeList todoRow
  | .getChatlist => writeList chatRow
  | .getProgress => progressText
  | _ => fun _ => .error .nullPointer

/-- The query whose rows a handler answers with, for the user of its token. -/
inductive Handler.Queries (req : Request) (userIdx : Int) : Handler → List Piece → Prop where
  | groupList : Queries req userIdx .groupList (groupListQuery userIdx)
  | getTodolist : Queries req userIdx .getTodolist (todolistQuery userIdx)
  | getProgress : Queries req userIdx .getProgress (progressQuery userIdx)
  | getChatlist {groupId : Bytes} {latest : Option Bytes}
      (groupFound : findValue req.parameter (ascii "group_id") = .ok (some groupId))
      (latestFound : findValue req.parameter (ascii "latest") = .ok latest) :
      Queries req userIdx .getChatlist (chatsQuery groupId latest)

/-- A reply with the status 200 is made of the answer to the query of the handler, which was asked
for the user of the token. -/
def ShowsRows (handler : Handler) (req : Request) (events : History) (op : Call) : Prop :=
  ∀ reply, op = .response reply → reply.statusCode = 200 →
    ∃ token connection users userIdx capacity pieces rows,
      findValue req.parameter (ascii "token") = .ok (some token) ∧
        ⟨.mysqlQuery connection 256 (userQuery token), some users⟩ ∈ events ∧
          Reads users userIdx ∧ handler.Queries req userIdx pieces ∧
            ⟨.mysqlQuery connection capacity pieces, some rows⟩ ∈ events ∧
              handler.shows rows = .ok reply.body

/-- The lookup of the token of a user, in front of more calls. -/
def looked (connection : Nat) (token : Bytes) (users : List Row) (events : History) : History :=
  ⟨.connectionPop, connection⟩ ::
    ⟨.mysqlQuery connection 256 (userQuery token), some users⟩ :: events

/-- A query, and what is made of its rows. -/
def respondShown (req : Request) (connection capacity : Nat) (query : List Piece)
    (show_ : List Row → Except Fault Bytes) : Prog Unit := do
  match ← mysqlQuery connection capacity query with
  | none => serverErrer req connection
  | some rows => do
    let body ← Program.lift (show_ rows)
    connectionPush connection
    respond req 200 "OK" body

section Shapes

variable {handler : Handler} {req : Request} {events : History} {op : Call}
  {connection capacity : Nat} {token : Bytes}

theorem ShowsRows.silent (silent : ∀ reply, op = .response reply → reply.statusCode ≠ 200) :
    ShowsRows handler req events op := by
  intro reply same ok
  exact absurd ok (silent reply same)

theorem ShowsRows.query {pieces : List Piece} :
    ShowsRows handler req events (.mysqlQuery connection capacity pieces) :=
  .silent nofun

theorem ShowsRows.failed {reply : Reply} (failed : reply.statusCode ≠ 200) :
    ShowsRows handler req events (.response reply) := by
  apply ShowsRows.silent
  intro other same
  cases same
  exact failed

theorem serverErrer_shows {f : History → History} :
    (serverErrer req connection).Meets fun events => Asks (ShowsRows handler req) (f events) := by
  apply Asks.serverErrer
  · exact .silent nofun
  · exact .failed nofun

theorem mem_looked {users : List Row} (events : History) :
    ⟨.mysqlQuery connection 256 (userQuery token), some users⟩ ∈
      looked connection token users events :=
  List.mem_cons_of_mem _ (List.mem_cons_self ..)

theorem subset_looked {users : List Row} (events : History) :
    events ⊆ looked connection token users events := by
  intro event member
  exact List.mem_cons_of_mem _ (List.mem_cons_of_mem _ member)

/-- The end of a handler that answers with rows, behind the lookup of its token. -/
theorem respondShown_shows {f : History → History} {userIdx : Int} {query : List Piece}
    {users : List Row}
    (tokenFound : findValue req.parameter (ascii "token") = .ok (some token))
    (reads : Reads users userIdx) (queries : handler.Queries req userIdx query)
    (lookup : ∀ events, ⟨.mysqlQuery connection 256 (userQuery token), some users⟩ ∈ f events)
    (grows : ∀ events, events ⊆ f events) :
    (respondShown req connection capacity query handler.shows).Meets fun events =>
      Asks (ShowsRows handler req) (f events) := by
  apply Asks.query .query
  intro outcome
  cases outcome with
  | none => exact serverErrer_shows
  | some rows =>
      apply Asks.lift
      intro body shown
      apply Asks.push (.silent nofun)
      apply Asks.respond
      intro reply same _
      cases same
      exact ⟨token, connection, users, userIdx, capacity, query, rows, tokenFound, lookup _, reads,
        queries, grows _ (List.mem_cons_self ..), shown⟩

/-- A handler that looks its token up and goes on only if there is a user. -/
theorem shows_start {next : Nat → Int → Prog Unit}
    (later : ∀ connection users idx, Reads users idx → (next connection idx).Meets fun events =>
      Asks (ShowsRows handler req) (looked connection token users events)) :
    (connectionPop >>= fun connection => getUserIdx connection token >>= fun idx =>
      if idx = -1 then serverErrer req connection else next connection idx).Meets
        (Asks (ShowsRows handler req)) := by
  apply Asks.pop (f := id) (.silent nofun)
  intro connection
  apply Asks.getUserIdx (.silent nofun)
  · rw [if_pos rfl]
    exact serverErrer_shows
  · intro users idx reads
    apply Program.meets_ite.mpr
    exact ⟨fun _ => serverErrer_shows, fun _ => later connection users idx reads⟩

theorem getProgress_given
    (tokenFound : findValue req.parameter (ascii "token") = .ok (some token)) :
    getProgress req = connectionPop >>= fun connection => getUserIdx connection token >>= fun idx =>
      if idx = -1 then serverErrer req connection
      else respondShown req connection 256 (progressQuery idx) Handler.getProgress.shows := by
  simp only [getProgress, findParameter, tokenFound, Program.lift_ok_bind]
  congr 1
  funext connection
  congr 1
  funext idx
  congr 1
  rw [respondShown]
  congr 1
  funext outcome
  cases outcome with
  | none => rfl
  | some rows =>
      cases rows with
      | nil => rfl
      | cons row rows =>
          simp only [Handler.shows, progressText, firstNumber]
          cases column (some row) 0 <;> rfl

theorem reader_shows (reader : handler ∈ readers) (req : Request) :
    (handler.program req).Meets (Asks (ShowsRows handler req)) := by
  apply Handler.meets handler
  · apply Asks.respond (f := id)
    exact .failed nofun
  · exact asks_failed _
  intro accepts
  cases accepts.given with
  | groupList tokenFound =>
      simp only [Handler.program, groupList, findParameter, tokenFound, Program.lift_ok_bind]
      apply shows_start
      intro connection users idx reads
      exact respondShown_shows tokenFound reads .groupList mem_looked subset_looked
  | getTodolist tokenFound =>
      simp only [Handler.program, getTodolist, findParameter, tokenFound, Program.lift_ok_bind]
      apply shows_start
      intro connection users idx reads
      exact respondShown_shows tokenFound reads .getTodolist mem_looked subset_looked
  | getProgress tokenFound =>
      rw [Handler.program, getProgress_given tokenFound]
      apply shows_start
      intro connection users idx reads
      exact respondShown_shows tokenFound reads .getProgress mem_looked subset_looked
  | getChatlist tokenFound groupFound latestFound =>
      rw [Handler.program, getChatlist_given tokenFound groupFound latestFound]
      apply shows_start
      intro connection users idx reads
      rw [attendanceCheck, Program.bind_bind]
      apply Asks.query .query
      intro checked
      apply respondShown_shows tokenFound reads (.getChatlist groupFound latestFound)
      · intro events
        exact mem_looked _
      · intro events event member
        exact subset_looked _ (List.mem_cons_of_mem _ member)
  | _ => simp [readers] at reader

end Shapes

/-- What the tables hold for a statement whose rows are shown. -/
def Tables.shown (tables : Tables) : Statement → List Row
  | .groupsOf userIdx => (tables.groupsOf userIdx).map groupListRow
  | .todosOf userIdx => (tables.todosOf userIdx).map todolistRow
  | .progressOf userIdx => (tables.progressOf userIdx).map fun row => [numberText row.number]
  | .chats groupIdx =>
    (tables.chatsWithUsers (tables.chatsAbove groupIdx none)).map chatlistRow
  | .chatsSince groupIdx latest =>
    (tables.chatsWithUsers (tables.chatsAbove groupIdx (some latest))).map chatlistRow
  | _ => []

/-- The statement of the query of a handler, for the user of its token. -/
inductive Handler.AsksFor (req : Request) (userIdx : Int) : Handler → Statement → Prop where
  | groupList : AsksFor req userIdx .groupList (.groupsOf userIdx)
  | getTodolist : AsksFor req userIdx .getTodolist (.todosOf userIdx)
  | getProgress : AsksFor req userIdx .getProgress (.progressOf userIdx)
  | chats {groupId : Bytes} {groupIdx : Int}
      (groupFound : findValue req.parameter (ascii "group_id") = .ok (some groupId))
      (groupRead : sqlInteger groupId = some groupIdx)
      (latestFound : findValue req.parameter (ascii "latest") = .ok none) :
      AsksFor req userIdx .getChatlist (.chats groupIdx)
  | chatsSince {groupId latest : Bytes} {groupIdx since : Int}
      (groupFound : findValue req.parameter (ascii "group_id") = .ok (some groupId))
      (groupRead : sqlInteger groupId = some groupIdx)
      (latestFound : findValue req.parameter (ascii "latest") = .ok (some latest))
      (latestRead : sqlInteger latest = some since) :
      AsksFor req userIdx .getChatlist (.chatsSince groupIdx since)

section Queries

variable {handler : Handler} {req : Request} {userIdx : Int} {pieces : List Piece}
  {statement : Statement}

/-- The database understands the query of a request that it can read. -/
theorem Handler.Queries.understood (queries : handler.Queries req userIdx pieces)
    (readable : handler.Readable req) :
    ∃ statement, statementOf pieces = some statement ∧ handler.AsksFor req userIdx statement := by
  cases queries with
  | groupList => exact ⟨_, groupListQuery_statement _, .groupList⟩
  | getTodolist => exact ⟨_, todolistQuery_statement _, .getTodolist⟩
  | getProgress => exact ⟨_, progressQuery_statement _, .getProgress⟩
  | @getChatlist groupId latest groupFound latestFound =>
      obtain ⟨groupIdx, groupRead⟩ := readable.number (by simp [Handler.insertions]) groupFound
      cases latest with
      | none =>
          refine ⟨.chats groupIdx, ?_, .chats groupFound groupRead latestFound⟩
          rw [chatsQuery, chatlistQuery_statement, groupRead]
          rfl
      | some latest =>
          obtain ⟨since, latestRead⟩ := readable.number (by simp [Handler.insertions]) latestFound
          refine ⟨.chatsSince groupIdx since, ?_,
            .chatsSince groupFound groupRead latestFound latestRead⟩
          rw [chatsQuery, chatlistSinceQuery_statement, groupRead, latestRead]
          rfl

/-- Its rows are those the tables hold. -/
theorem Handler.AsksFor.selects (asks : handler.AsksFor req userIdx statement) (mysql : Mysql)
    (gap : Nat) (today : Bytes) (tables : Tables) (lastId : Int) :
    exec mysql gap today tables lastId statement =
      some ⟨tables.shown statement, tables, lastId⟩ := by
  cases asks <;> rfl

end Queries

section Runs

variable {mysql : Mysql} {jobs : Nat → Job} {start s : Shared} {run : List CallStep}
  {threads : Nat → Prog Unit} {thread : Nat} {reply : Reply}

theorem reader_token (readable : (jobs thread).Readable)
    (reader : (jobs thread).handler ∈ readers) {token : Bytes}
    (found : findValue (jobs thread).req.parameter (ascii "token") = .ok (some token)) :
    sqlString (chr '\'') token = some token := by
  cases shape : (jobs thread).handler <;> rw [Job.Readable, shape] at readable <;>
    rw [shape] at reader <;> try simp [readers] at reader
  all_goals exact readable.single (by simp [Handler.insertions]) found

/-- The calls in front of the query that a reply shows, the query and its rows. -/
theorem shown_at (served : Served mysql jobs start run threads s)
    (readable : (jobs thread).Readable) (reader : (jobs thread).handler ∈ readers)
    (replied : reply ∈ replies (eventsOf thread run)) (ok : reply.statusCode = 200) :
    ∃ userIdx statement front select later rows, Authenticated mysql jobs run thread userIdx ∧
      (jobs thread).handler.AsksFor (jobs thread).req userIdx statement ∧
        run = front ++ select :: later ∧ select.thread = thread ∧
          select.event.op.Sends statement ∧ select.after = select.before ∧
            rows.Perm (select.before.tables.shown statement) ∧
              (jobs thread).handler.shows rows = .ok reply.body := by
  have runs := served.runs thread
  obtain ⟨before, after, whole⟩ := List.append_of_mem (mem_replies.mp replied)
  rw [whole] at runs
  obtain ⟨token, connection, users, userIdx, capacity, pieces, rows, found, lookup, reads, queries,
    asked, shown⟩ := Asks.made (reader_shows reader (jobs thread).req) runs reply rfl ok
  have earlier {event : Exchange Call Answer} (member : event ∈ before) :
      event ∈ eventsOf thread run := by
    rw [whole]
    exact List.mem_append_left _ member
  have tokenRead := reader_token readable reader found
  obtain ⟨statement, understood, asks⟩ := queries.understood readable
  obtain ⟨select, member, own, event⟩ := Interaction.mem_eventsOf.mp (earlier asked)
  have answered := served.answers member
  rw [event] at answered
  have selected := (Mysql.answers_select _ understood (fun gap today =>
    asks.selects mysql gap today _ _)).mp answered
  have authenticated := served.authenticated found tokenRead (earlier lookup) reads
  have sends : select.event.op.Sends statement := by
    rw [event]
    exact understood
  obtain ⟨front, later, split⟩ := List.append_of_mem member
  refine ⟨userIdx, statement, front, select, later, rows, authenticated, asks, split, own, sends,
    selected.state, ?_, shown⟩
  cases selected.answer with
  | inl failed => cases failed
  | inr given =>
      obtain ⟨answer, same, order⟩ := given
      cases same
      exact order

/-- A reply with rows shows the tables at one moment of its request: those its query found, which
was asked for the user of its token. -/
theorem reply_snapshot (served : Served mysql jobs start run threads s)
    (readable : (jobs thread).Readable) (reader : (jobs thread).handler ∈ readers)
    (replied : reply ∈ replies (eventsOf thread run)) (ok : reply.statusCode = 200) :
    ∃ userIdx statement, Authenticated mysql jobs run thread userIdx ∧
      (jobs thread).handler.AsksFor (jobs thread).req userIdx statement ∧
        ∃ select ∈ run, select.thread = thread ∧ select.event.op.Sends statement ∧
          select.after = select.before ∧
            ∃ rows, rows.Perm (select.before.tables.shown statement) ∧
              (jobs thread).handler.shows rows = .ok reply.body := by
  obtain ⟨userIdx, statement, front, select, later, rows, authenticated, asks, rfl, own, sends,
    same, order, shown⟩ := shown_at served readable reader replied ok
  exact ⟨userIdx, statement, authenticated, asks, select, by simp, own, sends, same, rows, order,
    shown⟩

end Runs

section Samples

/-- The stranger is shown the message that was there when he asked. -/
theorem reply_snapshot_sample : ∃ run threads s,
    Served .strict strangerJobs .start run threads s ∧
      ∃ select ∈ run, select.thread = 7 ∧ ∃ rows statement,
        rows.Perm (select.before.tables.shown statement) ∧
          writeList chatRow rows = .ok (strangerReply "a").body := by
  obtain ⟨⟨run, threads, s, served, stranger⟩, -⟩ := strangerJobs_served
  have replied : strangerReply "a" ∈ replies (eventsOf 7 run) := by
    rw [stranger.replied]
    exact List.mem_singleton_self _
  obtain ⟨userIdx, statement, -, -, select, member, own, -, -, rows, order, shown⟩ :=
    reply_snapshot served (getD_readable strangerJobList_readable 7) (by decide) replied rfl
  exact ⟨run, threads, s, served, select, member, own, rows, statement, order, shown⟩

end Samples

end Ttac
