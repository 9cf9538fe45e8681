import Ttac.Memberships

set_option autoImplicit false

/- The messages that `create_chat` inserts while requests are served at the same time. -/
namespace Ttac

open Interaction (Program Exchange Interleaved Linked Transition eventsOf)
open Interaction.Program (Meets)
open Sql (Piece)

/-- The query inserts a message. -/
def Call.Posts (userIdx groupIdx : Int) (op : Call) : Prop :=
  ∃ chatType content chatTime, op.Sends (.insertChat userIdx groupIdx chatType content chatTime)

/-- The row of `chat` that a call inserted. -/
def CallStep.posted (step : CallStep) : Option Chat :=
  step.after.tables.chat.rows[step.before.tables.chat.rows.length]?

/-- The messages inserted into a group, in their order. -/
def postedTo (group : Int) (run : List CallStep) : List Chat :=
  (run.filterMap CallStep.posted).filter fun chat => chat.groupIdx = group

theorem postedTo_append (group : Int) (first second : List CallStep) :
    postedTo group (first ++ second) = postedTo group first ++ postedTo group second := by
  rw [postedTo, List.filterMap_append, List.filter_append]
  rfl

theorem postedTo_cons (group : Int) (step : CallStep) (run : List CallStep) :
    postedTo group (step :: run) = postedTo group [step] ++ postedTo group run :=
  postedTo_append group [step] run

/-- The calls of `create_chat` up to the one that asks for the largest number of the group. -/
def asking (connection : Nat) (token groupId : Bytes) (users found : List Row)
    (checked : Option (List Row)) (idx : Int) : History :=
  [⟨.connectionPop, connection⟩, ⟨.mysqlQuery connection 256 (userQuery token), some users⟩,
    ⟨.mysqlQuery connection 256 (attendanceQuery idx (atoi groupId)), checked⟩,
    ⟨.mysqlQuery connection 2000 (latestChatQuery groupId), some found⟩]

/-- The reply of `create_chat`. -/
def latestReply (req : Request) (latest : Int) : Reply :=
  ⟨200, ascii "OK", req.version, chatBody latest⟩

/-- Where `create_chat` inserts a message it has looked the user of its token up and asked for
the largest number in the group, which its reply gives back. -/
structure PostsOwn (req : Request) (events : History) (op : Call) : Prop where
  posts : ∀ userIdx groupIdx, op.Posts userIdx groupIdx →
    ∃ connection token groupId users found checked tm,
      findValue req.parameter (ascii "token") = .ok (some token) ∧
        findValue req.parameter (ascii "group_id") = .ok (some groupId) ∧
          sqlInteger groupId = some groupIdx ∧ Reads users userIdx ∧
            events = asking connection token groupId users found checked userIdx ++
              [⟨.localtime, tm⟩]
  responds : ∀ reply, op = .response reply → reply.statusCode = 200 →
    ∃ connection token groupId users found checked tm idx number pieces stored group,
      findValue req.parameter (ascii "group_id") = .ok (some groupId) ∧
        sqlInteger groupId = some group ∧
          cell found.head? 0 = .ok number ∧ reply = latestReply req (latestValue number) ∧
            (Call.mysqlQuery connection 2000 pieces).Posts idx group ∧
              events = asking connection token groupId users found checked idx ++
                [⟨.localtime, tm⟩, ⟨.mysqlQuery connection 2000 pieces, some stored⟩,
                  ⟨.connectionPush connection, ()⟩]

section Shapes

variable {req : Request} {events : History} {op : Call}

theorem PostsOwn.of_quiet (quiet : ∀ userIdx groupIdx, ¬ op.Posts userIdx groupIdx)
    (silent : ∀ reply, op = .response reply → reply.statusCode ≠ 200) :
    PostsOwn req events op := by
  constructor
  · intro userIdx groupIdx posts
    exact absurd posts (quiet userIdx groupIdx)
  · intro reply same ok
    exact absurd ok (silent reply same)

/-- A query of another kind inserts no message. -/
theorem posts_query {connection capacity : Nat} {pieces : List Piece} {statement : Statement}
    (understood : statementOf pieces = some statement) {userIdx groupIdx : Int}
    (posts : (Call.mysqlQuery connection capacity pieces).Posts userIdx groupIdx) :
    ∃ chatType content chatTime,
      statement = .insertChat userIdx groupIdx chatType content chatTime := by
  obtain ⟨chatType, content, chatTime, sends⟩ := posts
  rw [Call.Sends, understood] at sends
  cases sends
  exact ⟨chatType, content, chatTime, rfl⟩

theorem PostsOwn.select {connection capacity : Nat} {pieces : List Piece} {statement : Statement}
    (understood : statementOf pieces = some statement) (reads : statement.target ≠ some .chat) :
    PostsOwn req events (.mysqlQuery connection capacity pieces) := by
  apply PostsOwn.of_quiet
  · intro userIdx groupIdx posts
    obtain ⟨chatType, content, chatTime, same⟩ := posts_query understood posts
    subst same
    exact reads rfl
  · intro reply same
    cases same

theorem PostsOwn.silent (quiet : ∀ statement, ¬ op.Sends statement)
    (noReply : ¬ op.IsReply) : PostsOwn req events op := by
  apply PostsOwn.of_quiet
  · intro userIdx groupIdx posts
    obtain ⟨chatType, content, chatTime, sends⟩ := posts
    exact quiet _ sends
  · intro reply same
    subst same
    exact absurd trivial noReply

theorem PostsOwn.refuses {statusMsg body : Bytes} :
    PostsOwn req events (.response ⟨500, statusMsg, req.version, body⟩) := by
  apply PostsOwn.of_quiet
  · intro userIdx groupIdx posts
    obtain ⟨chatType, content, chatTime, sends⟩ := posts
    exact sends
  · intro reply same
    cases same
    exact fun ok => by cases ok

theorem serverErrer_posts {f : History → History} {connection : Nat} :
    (serverErrer req connection).Meets fun events => Asks (PostsOwn req) (f events) :=
  Asks.serverErrer (.silent (by simp) id) .refuses

/-- What `create_chat` does behind `MAX(idx)`. -/
theorem chatRest_posts {connection : Nat} {token groupId content : Bytes}
    {users found : List Row} {checked : Option (List Row)} {idx group : Int}
    {number : Option Bytes}
    (tokenFound : findValue req.parameter (ascii "token") = .ok (some token))
    (groupFound : findValue req.parameter (ascii "group_id") = .ok (some groupId))
    (groupRead : sqlInteger groupId = some group)
    (contentRead : sqlString (chr '"') content = some content) (user : Reads users idx)
    (asked : cell found.head? 0 = .ok number) :
    (chatRest req connection idx groupId content (latestValue number)).Meets fun events =>
      Asks (PostsOwn req) (asking connection token groupId users found checked idx ++ events) := by
  rw [chatRest, getNow, Program.bind_bind]
  apply meets_localtime.mpr
  refine ⟨(asks_calling _).mpr (.silent (by simp) id), ?_⟩
  intro tm
  apply Asks.lift (f := fun events =>
    asking connection token groupId users found checked idx ++ ⟨.localtime, tm⟩ :: events)
  intro now written
  obtain ⟨-, rfl⟩ := sprintf_ok written
  have nowRead : sqlString (chr '"') (nowText tm) = some (nowText tm) := if_pos (nowText_plain tm)
  have inserts : statementOf (chatQuery idx groupId content (nowText tm)) =
      some (.insertChat idx group (ascii "TEXT") content (nowText tm)) := by
    rw [chatQuery_statement, groupRead, contentRead, nowRead]
    rfl
  generalize chatQuery idx groupId content (nowText tm) = pieces at inserts
  apply Asks.query
  · constructor
    · intro userIdx groupIdx posts
      obtain ⟨chatType, content, chatTime, same⟩ := posts_query inserts posts
      cases same
      exact ⟨connection, token, groupId, users, found, checked, tm, tokenFound, groupFound,
        groupRead, user, rfl⟩
    · intro reply same
      cases same
  intro outcome
  cases outcome with
  | none => exact serverErrer_posts
  | some stored =>
      apply Asks.lift
      intro body sent
      obtain ⟨-, rfl⟩ := sprintf_ok sent
      apply Asks.push (.silent (by simp) id)
      apply Asks.respond
      constructor
      · intro userIdx groupIdx posts
        obtain ⟨chatType, content, chatTime, sends⟩ := posts
        exact sends.elim
      · intro reply same _
        cases same
        exact ⟨connection, token, groupId, users, found, checked, tm, idx, number, pieces, stored,
          group, groupFound, groupRead, asked, rfl, ⟨_, _, _, inserts⟩, rfl⟩

theorem createChat_posts (readable : Handler.createChat.Readable req) :
    (createChat req).Meets (Asks (PostsOwn req)) := by
  apply Handler.meets .createChat
  · exact Asks.respond (f := id) .refuses
  · exact asks_failed _
  intro accepts
  cases accepts.given with
  | @createChat token groupId content tokenFound groupFound contentFound =>
      have tokenRead := readable.single (by simp [Handler.insertions]) tokenFound
      have contentRead := readable.double (by simp [Handler.insertions]) contentFound
      obtain ⟨group, groupRead⟩ := readable.number (by simp [Handler.insertions]) groupFound
      have userRead : statementOf (userQuery token) = some (.userByToken token) := by
        rw [userQuery_statement, tokenRead]
        rfl
      have latestRead : statementOf (latestChatQuery groupId) = some (.latestChat group) := by
        rw [latestChatQuery_statement, groupRead]
        rfl
      rw [Handler.program, createChat_given tokenFound groupFound contentFound]
      apply Asks.pop (f := id) (.silent (by simp) id)
      intro connection
      apply Asks.getUserIdx (.select userRead (by simp [Statement.target]))
      · rw [if_pos rfl]
        exact serverErrer_posts
      intro users idx user
      apply Program.meets_ite.mpr
      refine ⟨fun _ => serverErrer_posts, ?_⟩
      intro known
      rw [attendanceCheck, Program.bind_bind]
      apply Asks.query (.select (attendanceQuery_statement _ _) (by simp [Statement.target]))
      intro checked
      apply Asks.query (.select latestRead (by simp [Statement.target]))
      intro outcome
      cases outcome with
      | none => exact serverErrer_posts
      | some found =>
          apply Asks.lift
          intro number asked
          exact chatRest_posts tokenFound groupFound groupRead contentRead user asked

end Shapes

section Steps

variable {mysql : Mysql} {targets : List TableName} {op : Call} {answer : Answer op}
  {s t : Shared}

/-- A call leaves the messages as they are or adds the one of its statement. -/
theorem answers_chat (within : op.Within targets) (answered : mysql.Answers op answer s t) :
    ((∀ userIdx groupIdx chatType content chatTime, carriedOut ⟨op, answer⟩ ≠
        some (.insertChat userIdx groupIdx chatType content chatTime)) ∧
      t.tables.chat.rows = s.tables.chat.rows) ∨
    ∃ chat, op.Posts chat.userIdx chat.groupIdx ∧ s.tables.user.Has chat.userIdx ∧
      s.tables.projectGroup.Has chat.groupIdx ∧
        t.tables.chat.rows = s.tables.chat.rows ++ [chat] := by
  rcases answers_carriedOut within answered with ⟨nothing, same⟩ | done
  · refine .inl ⟨?_, by rw [same]⟩
    intro userIdx groupIdx chatType content chatTime inserts
    rw [nothing] at inserts
    cases inserts
  · obtain ⟨statement, gap, today, lastId, executed, carried, run, same⟩ := done
    have sends := carriedOut_sends carried
    cases statement with
    | insertChat userIdx groupIdx chatType content chatTime =>
        obtain ⟨storedType, storedContent, storedTime, inserted⟩ := exec_insertChat run
        obtain ⟨known, rows, -⟩ := Tables.insertChat_some inserted
        rw [← same] at rows
        exact .inr ⟨_, ⟨chatType, content, chatTime, sends⟩, known.1, known.2, rows⟩
    | _ =>
        have kept : Tables.Same s.tables executed.tables .chat :=
          exec_same (by simp [Statement.target]) run
        refine .inl ⟨?_, ?_⟩
        · intro userIdx groupIdx chatType content chatTime inserts
          rw [carried] at inserts
          cases inserts
        · rw [same]
          exact congrArg Relational.Numbered.rows kept.symm

end Steps

section Runs

variable {mysql : Mysql} {jobs : Nat → Job} {start s : Shared} {run : List CallStep}
  {threads : Nat → Prog Unit}

/-- What a call inserted is the message of its statement. -/
theorem posted_some {step : CallStep} {targets : List TableName} {chat : Chat}
    (within : step.event.op.Within targets)
    (answered : mysql.Answers step.event.op step.event.answer step.before step.after)
    (posted : step.posted = some chat) :
    step.event.op.Posts chat.userIdx chat.groupIdx ∧
      step.before.tables.user.Has chat.userIdx ∧
        step.before.tables.projectGroup.Has chat.groupIdx := by
  rw [CallStep.posted] at posted
  rcases answers_chat within answered with ⟨-, same⟩ | ⟨other, posts, user, group, rows⟩
  · rw [same, List.getElem?_eq_none (Nat.le_refl _)] at posted
    cases posted
  · rw [rows, List.getElem?_concat_length] at posted
    cases posted
    exact ⟨posts, user, group⟩

/-- A call adds what it posted to the messages. -/
theorem chat_step {step : CallStep} {targets : List TableName}
    (within : step.event.op.Within targets)
    (answered : mysql.Answers step.event.op step.event.answer step.before step.after) :
    step.after.tables.chat.rows = step.before.tables.chat.rows ++ step.posted.toList := by
  rw [CallStep.posted]
  rcases answers_chat within answered with ⟨-, same⟩ | ⟨chat, -, -, -, rows⟩
  · rw [same, List.getElem?_eq_none (Nat.le_refl _)]
    exact (List.append_nil _).symm
  · rw [rows, List.getElem?_concat_length]
    rfl

/-- An insert that is carried out has posted its message. -/
theorem posted_of_stored {step : CallStep} {targets : List TableName} {userIdx groupIdx : Int}
    {connection capacity : Nat} {pieces : List Piece} {stored : List Row}
    (within : step.event.op.Within targets)
    (answered : mysql.Answers step.event.op step.event.answer step.before step.after)
    (posts : (Call.mysqlQuery connection capacity pieces).Posts userIdx groupIdx)
    (event : step.event = ⟨.mysqlQuery connection capacity pieces, some stored⟩) :
    ∃ chat, step.posted = some chat ∧ chat.groupIdx = groupIdx := by
  obtain ⟨chatType, content, chatTime, sends⟩ := posts
  have carried : carriedOut step.event =
      some (.insertChat userIdx groupIdx chatType content chatTime) := by
    rw [event]
    exact sends
  rcases answers_chat within answered with ⟨nothing, -⟩ | ⟨chat, posts, -, -, rows⟩
  · exact absurd carried (nothing _ _ _ _ _)
  · refine ⟨chat, ?_, ?_⟩
    · rw [CallStep.posted, rows, List.getElem?_concat_length]
    · obtain ⟨otherType, otherContent, otherTime, other⟩ := posts
      rw [event, Call.Sends, sends] at other
      cases other
      rfl

/-- The messages are those that were posted, behind those of the start. -/
theorem chat_rows (linked : Linked mysql.Answers start run s)
    (within : ∀ step ∈ run, step.event.op.Within (jobs step.thread).handler.targets) :
    s.tables.chat.rows = start.tables.chat.rows ++ run.filterMap CallStep.posted := by
  apply linked.lists (fun s => s.tables.chat.rows)
  intro step member answered
  exact chat_step (within step member) answered

/-- A step that posts is one of a `create_chat`. -/
theorem posts_creates (readable : ∀ thread, (jobs thread).Readable)
    (served : Served mysql jobs start run threads s) {step : CallStep} (member : step ∈ run)
    {userIdx groupIdx : Int} (posts : step.event.op.Posts userIdx groupIdx) :
    (jobs step.thread).handler = .createChat := by
  have within := served.within readable step member
  obtain ⟨chatType, content, chatTime, sends⟩ := posts
  have target : TableName.chat ∈ (jobs step.thread).handler.targets :=
    Call.Sends.target sends within rfl
  cases shape : (jobs step.thread).handler <;> simp_all [Handler.targets]

end Runs

end Ttac
