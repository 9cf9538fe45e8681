import Ttac.LatestChat

set_option autoImplicit false

/- Who writes and reads the messages of a group: every user with a token, a member or not. -/
namespace Ttac

open Interaction (Program Exchange Completes Linked eventsOf)
open Sql (Piece)

/-- Two states that differ in the members of the groups, if at all. -/
structure Shared.Alike (s t : Shared) : Prop where
  tables : Tables.Elsewhere .joinGroup s.tables t.tables
  lastId : t.lastId = s.lastId
  connections : t.connections = s.connections
  locationList : t.locationList = s.locationList

namespace Tables

variable {tables other after : Tables} {members : List Member}

/-- The tables with other members of the groups. -/
def withMembers (tables : Tables) (members : List Member)
    (users : Relational.References members Member.userIdx tables.user)
    (groups : Relational.References members Member.groupIdx tables.projectGroup) : Tables :=
  { tables with
    joinGroup := members
    memberUser := users
    memberGroup := groups }

theorem Elsewhere.withMembers (elsewhere : Elsewhere .joinGroup tables other) :
    ∃ users groups, other = tables.withMembers other.joinGroup users groups := by
  obtain ⟨user, token, projectGroup, joinGroup, todo, progress, chat, attendance⟩ := tables
  obtain ⟨user', token', projectGroup', joinGroup', todo', progress', chat', attendance',
    tokenUser, groupOwner, memberUser, memberGroup⟩ := other
  obtain rfl : user = user' := elsewhere .user nofun
  obtain rfl : token = token' := elsewhere .token nofun
  obtain rfl : projectGroup = projectGroup' := elsewhere .projectGroup nofun
  obtain rfl : todo = todo' := elsewhere .todo nofun
  obtain rfl : progress = progress' := elsewhere .progress nofun
  obtain rfl : chat = chat' := elsewhere .chat nofun
  obtain rfl : attendance = attendance' := elsewhere .attendance nofun
  exact ⟨memberUser, memberGroup, rfl⟩

theorem elsewhere_withMembers {users : Relational.References members Member.userIdx tables.user}
    {groups : Relational.References members Member.groupIdx tables.projectGroup} :
    Elsewhere .joinGroup tables (tables.withMembers members users groups) := by
  intro name different
  cases name <;> first | rfl | exact absurd rfl different

theorem insertChat_members {gap : Nat} {userIdx groupIdx : Int}
    {chatType content : Option Bytes} {chatTime : Bytes}
    (users : Relational.References members Member.userIdx tables.user)
    (groups : Relational.References members Member.groupIdx tables.projectGroup)
    (inserted : tables.insertChat gap userIdx groupIdx chatType content chatTime = some after) :
    ∃ stored, (tables.withMembers members users groups).insertChat gap userIdx groupIdx chatType
      content chatTime = some stored ∧ Elsewhere .joinGroup after stored := by
  unfold insertChat at inserted ⊢
  split at inserted
  · rename_i known
    have same : (tables.withMembers members users groups).user.Has userIdx ∧
        (tables.withMembers members users groups).projectGroup.Has groupIdx := known
    rw [dif_pos same]
    split at inserted
    · cases inserted
    · rename_i numbered
      cases inserted
      split
      · rename_i none
        cases none.symm.trans numbered
      · rename_i again
        cases again.symm.trans numbered
        refine ⟨_, rfl, ?_⟩
        intro name different
        cases name <;> first | rfl | exact absurd rfl different
  · cases inserted

theorem insertAttendance_members {userIdx groupIdx : Int} {date : Bytes}
    (users : Relational.References members Member.userIdx tables.user)
    (groups : Relational.References members Member.groupIdx tables.projectGroup)
    (inserted : tables.insertAttendance userIdx groupIdx date = some after) :
    ∃ stored, (tables.withMembers members users groups).insertAttendance userIdx groupIdx date =
      some stored ∧ Elsewhere .joinGroup after stored := by
  unfold insertAttendance at inserted ⊢
  split at inserted
  · rename_i known
    cases inserted
    refine ⟨_, dif_pos known, ?_⟩
    intro name different
    cases name <;> first | rfl | exact absurd rfl different
  · cases inserted

end Tables

/-- The statements of the chat, which neither read nor write the members of the groups. -/
def Statement.OfChat : Statement → Prop
  | .userByToken _ | .insertAttendance _ _ | .latestChat _ | .chats _ | .chatsSince _ _
  | .insertChat _ _ _ _ _ => True
  | _ => False

/-- The call is a statement of the chat, or none at all. -/
@[simp] def Call.OfChat : Call → Prop
  | .mysqlQuery _ _ pieces => ∃ statement, statementOf pieces = some statement ∧ statement.OfChat
  | _ => True

section Alike

variable {mysql : Mysql} {s t other : Shared}

theorem exec_members {gap : Nat} {today : Bytes} {lastId : Int} {statement : Statement}
    {tables other : Tables} {executed : Executed} (chat : statement.OfChat)
    (elsewhere : Tables.Elsewhere .joinGroup tables other)
    (run : exec mysql gap today tables lastId statement = some executed) :
    ∃ stored, exec mysql gap today other lastId statement =
      some ⟨executed.rows, stored, executed.lastId⟩ ∧
        Tables.Elsewhere .joinGroup executed.tables stored := by
  obtain ⟨users, groups, whole⟩ := elsewhere.withMembers
  rw [whole]
  cases statement with
  | insertAttendance userIdx groupIdx =>
      obtain ⟨after, inserted, same⟩ := Option.bind_eq_some_iff.mp run
      cases same
      obtain ⟨stored, again, alike⟩ := Tables.insertAttendance_members users groups inserted
      exact ⟨stored, Option.bind_eq_some_iff.mpr ⟨stored, again, rfl⟩, alike⟩
  | insertChat userIdx groupIdx chatType content chatTime =>
      obtain ⟨storedType, typeFits, run⟩ := Option.bind_eq_some_iff.mp run
      obtain ⟨storedContent, contentFits, run⟩ := Option.bind_eq_some_iff.mp run
      obtain ⟨storedTime, timeFits, run⟩ := Option.bind_eq_some_iff.mp run
      obtain ⟨after, inserted, same⟩ := Option.bind_eq_some_iff.mp run
      cases same
      obtain ⟨stored, again, alike⟩ := Tables.insertChat_members users groups inserted
      refine ⟨stored, Option.bind_eq_some_iff.mpr ⟨storedType, typeFits, ?_⟩, alike⟩
      refine Option.bind_eq_some_iff.mpr ⟨storedContent, contentFits, ?_⟩
      refine Option.bind_eq_some_iff.mpr ⟨storedTime, timeFits, ?_⟩
      exact Option.bind_eq_some_iff.mpr ⟨stored, again, rfl⟩
  | userByToken | latestChat | chats | chatsSince =>
      cases run
      exact ⟨_, rfl, Tables.elsewhere_withMembers⟩
  | _ => exact chat.elim

/-- A call of the chat is answered alike whoever the members are. -/
theorem answers_alike {op : Call} {answer : Answer op} (chat : op.OfChat)
    (answered : mysql.Answers op answer s t) (alike : s.Alike other) :
    ∃ u, mysql.Answers op answer other u ∧ t.Alike u := by
  cases op with
  | mysqlQuery connection capacity pieces =>
      obtain ⟨statement, understood, among⟩ := chat
      obtain ⟨fits, failed | done⟩ := (Mysql.answers_statement understood).mp answered
      · obtain ⟨none, same⟩ := failed
        subst none same
        exact ⟨other, (Mysql.answers_statement understood).mpr ⟨fits, .inl ⟨rfl, rfl⟩⟩, alike⟩
      · obtain ⟨gap, today, executed, rows, run, given, order, state⟩ := done
        obtain ⟨stored, again, tables⟩ := exec_members among alike.tables run
        rw [← alike.lastId] at again
        refine ⟨_, (Mysql.answers_statement understood).mpr ⟨fits, .inr ⟨gap, today, _, rows, again,
          given, order, rfl⟩⟩, ?_⟩
        subst state
        refine ⟨tables, ?_, alike.connections, alike.locationList⟩
        rw [alike.lastId]
  | connectionPop =>
      obtain ⟨first, state⟩ := answered
      subst first state
      refine ⟨_, ⟨alike.connections.symm, rfl⟩, alike.tables, ?_, ?_, alike.locationList⟩
      · rw [alike.lastId, alike.connections]
      · rw [alike.connections]
  | pushLocation userId latitude longitude =>
      obtain ⟨list, pushed, state⟩ := answered
      subst state
      rw [← alike.locationList] at pushed
      exact ⟨_, ⟨list, pushed, rfl⟩, alike.tables, alike.lastId, alike.connections, rfl⟩
  | popLocation userId =>
      obtain ⟨popped, state⟩ := answered
      subst state
      rw [← alike.locationList] at popped
      exact ⟨other, ⟨popped, rfl⟩, alike⟩
  | _ =>
      obtain rfl : t = s := answered
      exact ⟨other, rfl, alike⟩

end Alike

section Programs

variable {req : Request} {connection capacity : Nat} {pieces : List Piece} {token groupId : Bytes}

theorem query_ofChat {next : Option (List Row) → Prog Unit} (statement : Statement)
    (understood : statementOf pieces = some statement) (among : statement.OfChat)
    (later : ∀ outcome, (next outcome).Always Call.OfChat) :
    (mysqlQuery connection capacity pieces >>= next).Always Call.OfChat :=
  always_mysqlQuery.mpr ⟨⟨statement, understood, among⟩, later⟩

theorem respond_ofChat {statusCode : Int} {statusMsg : String} {body : Bytes} :
    (respond req statusCode statusMsg body).Always Call.OfChat := ⟨trivial, fun _ => trivial⟩

theorem serverErrer_ofChat : (serverErrer req connection).Always Call.OfChat :=
  ⟨trivial, fun _ => respond_ofChat⟩

/-- What both handlers do up to the check of the attendance. -/
theorem start_ofChat {next : Nat → Int → Prog Unit}
    (tokenRead : sqlString (chr '\'') token = some token)
    (later : ∀ connection idx, (next connection idx).Always Call.OfChat) :
    (connectionPop >>= fun connection => getUserIdx connection token >>= fun idx =>
      if idx = -1 then serverErrer req connection
      else attendanceCheck connection idx (atoi groupId) >>= fun _ =>
        next connection idx).Always Call.OfChat := by
  apply always_connectionPop.mpr
  refine ⟨trivial, ?_⟩
  intro connection
  have goes (idx : Int) : (if idx = -1 then serverErrer req connection
      else attendanceCheck connection idx (atoi groupId) >>= fun _ =>
        next connection idx).Always Call.OfChat := by
    apply Program.always_ite.mpr
    refine ⟨fun _ => serverErrer_ofChat, ?_⟩
    intro known
    rw [attendanceCheck, Program.bind_bind]
    exact query_ofChat _ (attendanceQuery_statement _ _) trivial fun _ => later connection idx
  rw [getUserIdx_bind]
  apply query_ofChat (.userByToken token) (by rw [userQuery_statement, tokenRead]; rfl) trivial
  intro outcome
  cases outcome with
  | none => exact goes (-1)
  | some rows => exact Program.always_lift_bind.mpr fun idx _ => goes (atoi idx)

theorem createChat_ofChat (readable : Handler.createChat.Readable req) {content : Bytes}
    (tokenFound : findValue req.parameter (ascii "token") = .ok (some token))
    (groupFound : findValue req.parameter (ascii "group_id") = .ok (some groupId))
    (contentFound : findValue req.parameter (ascii "content") = .ok (some content)) :
    (createChat req).Always Call.OfChat := by
  obtain ⟨group, groupRead⟩ := readable.number (by simp [Handler.insertions]) groupFound
  have contentRead := readable.double (by simp [Handler.insertions]) contentFound
  rw [createChat_given tokenFound groupFound contentFound]
  apply start_ofChat (readable.single (by simp [Handler.insertions]) tokenFound)
  intro connection idx
  apply query_ofChat (.latestChat group) (by rw [latestChatQuery_statement, groupRead]; rfl) trivial
  intro outcome
  cases outcome with
  | none => exact serverErrer_ofChat
  | some rows =>
      apply Program.always_lift_bind.mpr
      intro latest _
      apply always_getNow.mpr
      refine ⟨trivial, ?_⟩
      intro tm now written
      obtain ⟨-, rfl⟩ := sprintf_ok written
      have nowRead : sqlString (chr '"') (nowText tm) = some (nowText tm) :=
        if_pos (nowText_plain tm)
      generalize nowText tm = text at nowRead
      apply query_ofChat (.insertChat idx group (ascii "TEXT") content text)
        (by rw [chatQuery_statement, groupRead, contentRead, nowRead]; rfl) trivial
      intro outcome
      cases outcome with
      | none => exact serverErrer_ofChat
      | some inserted =>
          exact Program.always_lift_bind.mpr fun _ _ =>
            always_connectionPush.mpr ⟨trivial, respond_ofChat⟩

theorem getChatlist_ofChat (readable : Handler.getChatlist.Readable req) {latest : Option Bytes}
    (tokenFound : findValue req.parameter (ascii "token") = .ok (some token))
    (groupFound : findValue req.parameter (ascii "group_id") = .ok (some groupId))
    (latestFound : findValue req.parameter (ascii "latest") = .ok latest) :
    (getChatlist req).Always Call.OfChat := by
  obtain ⟨group, groupRead⟩ := readable.number (by simp [Handler.insertions]) groupFound
  rw [getChatlist_given tokenFound groupFound latestFound]
  apply start_ofChat (readable.single (by simp [Handler.insertions]) tokenFound)
  intro connection idx
  have understood : ∃ statement, statementOf (chatsQuery groupId latest) = some statement ∧
      statement.OfChat := by
    cases latest with
    | none =>
        refine ⟨.chats group, ?_, trivial⟩
        rw [chatsQuery, chatlistQuery_statement, groupRead]
        rfl
    | some latest =>
        obtain ⟨since, latestRead⟩ := readable.number (by simp [Handler.insertions]) latestFound
        refine ⟨.chatsSince group since, ?_, trivial⟩
        rw [chatsQuery, chatlistSinceQuery_statement, groupRead, latestRead]
        rfl
  obtain ⟨statement, understood, among⟩ := understood
  apply query_ofChat statement understood among
  intro outcome
  cases outcome with
  | none => exact serverErrer_ofChat
  | some rows =>
      exact Program.always_lift_bind.mpr fun _ _ =>
        always_connectionPush.mpr ⟨trivial, respond_ofChat⟩

/-- A request of the chat makes calls of the chat. -/
theorem chat_ofChat {job : Job} (readable : job.Readable)
    (chats : job.handler = .createChat ∨ job.handler = .getChatlist) :
    job.program.Always Call.OfChat := by
  obtain ⟨handler, req⟩ := job
  by_cases accepts : handler.Accepts req
  · cases accepts.given with
    | createChat tokenFound groupFound contentFound =>
        exact createChat_ofChat readable tokenFound groupFound contentFound
    | getChatlist tokenFound groupFound latestFound =>
        exact getChatlist_ofChat readable tokenFound groupFound latestFound
    | _ => rcases chats with other | other <;> cases other
  · cases handler.rejects req accepts with
    | inl missing =>
        rw [Job.program, missing.1]
        exact respond_ofChat
    | inr stopped =>
        obtain ⟨fault, program⟩ := stopped.1
        rw [Job.program, program]
        trivial

end Programs

section Runs

variable {mysql : Mysql} {jobs : Nat → Job} {start s t : Shared} {run : List CallStep}
  {threads : Nat → Prog Unit}

/-- A request of the chat is served alike whoever the members are. -/
theorem chat_alike {job : Job} {events : History} {other : Shared} (readable : job.Readable)
    (chats : job.handler = .createChat ∨ job.handler = .getChatlist)
    (served : mysql.Serves job events s t) (alike : s.Alike other) :
    ∃ u, mysql.Serves job events other u ∧ t.Alike u :=
  Interaction.Completes.simulates served (chat_ofChat readable chats) alike
    fun _ _ _ _ _ chat answered alike => answers_alike chat answered alike

/-- The request has looked its token up, has been given the writer of the message, and names
the group; both are in the tables. -/
def Authors (mysql : Mysql) (jobs : Nat → Job) (run : List CallStep) (step : CallStep)
    (chat : Chat) : Prop :=
  (jobs step.thread).handler = .createChat ∧
    Authenticated mysql jobs run step.thread chat.userIdx ∧
      (∃ groupId, findValue (jobs step.thread).req.parameter (ascii "group_id") =
        .ok (some groupId) ∧ sqlInteger groupId = some chat.groupIdx) ∧
        step.before.tables.user.Has chat.userIdx ∧
          step.before.tables.projectGroup.Has chat.groupIdx

theorem posted_authors (served : Served mysql jobs start run threads s)
    (readable : ∀ thread, (jobs thread).Readable) {step : CallStep} (member : step ∈ run)
    {chat : Chat} (posted : step.posted = some chat) : Authors mysql jobs run step chat := by
  obtain ⟨posts, user, group⟩ := posted_some (served.within readable step member)
    (served.answers member) posted
  have creates := posts_creates readable served member posts
  have own := readable step.thread
  rw [Job.Readable, creates] at own
  have meets : (jobs step.thread).program.Meets (Asks (PostsOwn (jobs step.thread).req)) := by
    rw [Job.program, creates]
    exact createChat_posts own
  obtain ⟨earlier, later, whole⟩ := List.append_of_mem member
  rw [whole] at served
  obtain ⟨middle, before, calls⟩ := served.calling
  have shape := before.meets meets
  rw [calls] at shape
  obtain ⟨connection, token, groupId, users, found, checked, tm, tokenFound, groupFound, groupRead,
    reads, events⟩ := ((asks_calling _).mp shape).posts _ _ posts
  have lookup : (⟨.mysqlQuery connection 256 (userQuery token), some users⟩ :
      Exchange Call Answer) ∈ eventsOf step.thread earlier := by simp [events, asking]
  have authenticated := Served.authenticated before tokenFound
    (own.single (by simp [Handler.insertions]) tokenFound) lookup reads
  refine ⟨creates, ?_, ⟨groupId, groupFound, groupRead⟩, user, group⟩
  rw [whole]
  exact authenticated.append _

/-- The messages are those that users with a token have sent to groups that are there, and
`get_chatlist` selects those of its group. Both are served alike whoever the members are. -/
theorem chat_open (readable : ∀ thread, (jobs thread).Readable)
    (served : Served mysql jobs .start run threads s) :
    s.tables.chat.rows = run.filterMap CallStep.posted ∧
      (∀ step ∈ run, ∀ chat, step.posted = some chat → Authors mysql jobs run step chat) ∧
        (∀ step ∈ run, ∀ group since rows, step.Lists jobs group since rows →
          Shows rows (step.before.tables.chatsAbove group since)) ∧
          ∀ thread, (jobs thread).handler = .createChat ∨ (jobs thread).handler = .getChatlist →
            ∀ before after other events, mysql.Serves (jobs thread) events before after →
              before.Alike other →
                ∃ last, mysql.Serves (jobs thread) events other last ∧ after.Alike last := by
  refine ⟨chat_rows served.linked (served.within readable), ?_, ?_, ?_⟩
  · intro step member chat posted
    exact posted_authors served readable member posted
  · intro step member group since rows lists
    obtain ⟨-, order⟩ := lists.answered (served.answers member)
    refine (shows_chats ?_ order).1
    intro chat among
    cases since with
    | none => exact (List.mem_filter.mp among).1
    | some latest => exact (List.mem_filter.mp (List.mem_filter.mp among).1).1
  · intro thread chats before after other events serves alike
    exact chat_alike (readable thread) chats serves alike

end Runs

section Samples

/-- A user creates a group, and another one, who is no member, sends one of two messages to it and
reads the messages of the group. -/
def strangerJobList : List Job :=
  let message (content : String) : Job := ⟨.createChat,
    requestOf [("token", tokenOn 4), ("group_id", ascii "1"), ("content", ascii content)]⟩
  arrival (ascii "i") ++ [⟨.createGroup, requestOf [("name", ascii "g"), ("token", tokenOn 1)]⟩] ++
    arrival (ascii "j") ++ [message "a", message "b",
      ⟨.getChatlist, requestOf [("token", tokenOn 4), ("group_id", ascii "1")]⟩]

theorem strangerJobList_readable : ∀ job ∈ strangerJobList, job.Readable := by
  unfold Job.Readable
  decide

def strangerJobs : Nat → Job := fun thread =>
  strangerJobList.getD thread ⟨.joinGroup, requestOf []⟩

def strangerReply (content : String) : Reply :=
  ⟨200, ascii "OK", (strangerJobs 7).req.version,
    ascii "[\x7b\"id\":1,\"user_ID\":\"j\",\"chat_type\":\"TEXT\",\"content\":\"" ++
      ascii content ++ ascii "\",\"chat_time\":\"2018-6-12 0:0:0\"\x7d]"⟩

abbrev Recorded := List CallStep × (Nat → Prog Unit) × Shared

/-- The requests up to the messages, one behind the other. -/
def strangerArrivals : Option Recorded :=
  Interaction.schedule (Mysql.strict.world (ascii "1"))
    (List.replicate 5 0 ++ List.replicate 55 1 ++ List.replicate 8 2 ++ List.replicate 5 3 ++
      List.replicate 55 4) (fun thread => (strangerJobs thread).program) .start

/-- One of the messages is sent, and the messages are read on the day after it. -/
def strangerReads (writer : Nat) (first : Recorded) : Option Recorded :=
  (Interaction.schedule (Mysql.strict.world (ascii "1")) (List.replicate 8 writer) first.2.1
    first.2.2).bind fun second =>
  (Interaction.schedule (Mysql.strict.world (ascii "2")) (List.replicate 6 7) second.2.1
    second.2.2).map fun third => (first.1 ++ second.1 ++ third.1, third.2)

theorem strangerReads_served {writer : Nat} {first last : Recorded}
    (arrived : strangerArrivals = some first) (found : strangerReads writer first = some last) :
    Served .strict strangerJobs .start last.1 last.2.1 last.2.2 := by
  rw [strangerReads, Option.bind_eq_some_iff] at found
  obtain ⟨second, sent, found⟩ := found
  rw [Option.map_eq_some_iff] at found
  obtain ⟨third, read, same⟩ := found
  rw [← same]
  have starts : Served .strict strangerJobs .start []
      (fun thread => (strangerJobs thread).program) .start := .nil
  have arrives := Interaction.schedule_interleaved (Mysql.strict.world_follows (ascii "1")) starts
    arrived
  have sends := Interaction.schedule_interleaved (Mysql.strict.world_follows (ascii "1")) arrives
    sent
  exact Interaction.schedule_interleaved (Mysql.strict.world_follows (ascii "2")) sends read

/-- What the stranger has done: his message was inserted while only the owner was a member, no
query failed, and the reply has his message. -/
structure StrangerServed (content : String) (run : List CallStep) (s : Shared) : Prop where
  succeeded : none ∉ outcomes (run.map Interaction.Transition.event)
  posted : (run.filterMap fun step => step.posted.map fun chat =>
    ((⟨chat.userIdx, chat.groupIdx⟩ : Member), step.before.tables.joinGroup)) =
      [(⟨2, 1⟩, [⟨1, 1⟩])]
  members : s.tables.joinGroup = [⟨1, 1⟩]
  replied : replies (eventsOf 7 run) = [strangerReply content]

instance (content : String) (run : List CallStep) (s : Shared) :
    Decidable (StrangerServed content run s) :=
  decidable_of_iff ((none ∉ outcomes (run.map Interaction.Transition.event) ∧
    (run.filterMap fun step => step.posted.map fun chat =>
      ((⟨chat.userIdx, chat.groupIdx⟩ : Member), step.before.tables.joinGroup)) =
        [(⟨2, 1⟩, [⟨1, 1⟩])]) ∧ s.tables.joinGroup = [⟨1, 1⟩] ∧
          replies (eventsOf 7 run) = [strangerReply content])
    ⟨fun parts => ⟨parts.1.1, parts.1.2, parts.2.1, parts.2.2⟩,
      fun stranger => ⟨⟨stranger.succeeded, stranger.posted⟩, stranger.members, stranger.replied⟩⟩

theorem strangerJobs_served :
    (∃ run threads s, Served .strict strangerJobs .start run threads s ∧
      StrangerServed "a" run s) ∧
    ∃ run threads s, Served .strict strangerJobs .start run threads s ∧
      StrangerServed "b" run s := by
  have scheduled : (strangerArrivals.any fun first =>
      ((strangerReads 5 first).any fun last => decide (StrangerServed "a" last.1 last.2.2)) &&
        (strangerReads 6 first).any fun last => decide (StrangerServed "b" last.1 last.2.2)) =
          true := by
    decide +kernel
  rw [Option.any_eq_true] at scheduled
  obtain ⟨first, arrived, both⟩ := scheduled
  rw [Bool.and_eq_true, Option.any_eq_true, Option.any_eq_true] at both
  obtain ⟨⟨last, found, stranger⟩, other, foundOther, strangerOther⟩ := both
  exact ⟨⟨_, _, _, strangerReads_served arrived found, of_decide_eq_true stranger⟩,
    _, _, _, strangerReads_served arrived foundOther, of_decide_eq_true strangerOther⟩

/-- A user who is no member sends a message to a group and reads it, and what he reads depends on
the message. -/
theorem chat_stranger : (∃ run threads s, Served .strict strangerJobs .start run threads s ∧
      (∀ thread, (strangerJobs thread).Readable) ∧ StrangerServed "a" run s) ∧
    (∃ run threads s, Served .strict strangerJobs .start run threads s ∧
      StrangerServed "b" run s) ∧ strangerReply "a" ≠ strangerReply "b" := by
  obtain ⟨⟨run, threads, s, served, stranger⟩, other⟩ := strangerJobs_served
  exact ⟨⟨run, threads, s, served, getD_readable strangerJobList_readable, stranger⟩, other,
    by decide⟩

theorem chat_open_sample : ∃ run threads s, Served .strict strangerJobs .start run threads s ∧
    StrangerServed "a" run s ∧ s.tables.chat.rows = run.filterMap CallStep.posted ∧
      ∀ step ∈ run, ∀ chat, step.posted = some chat →
        Authors .strict strangerJobs run step chat := by
  obtain ⟨⟨run, threads, s, served, stranger⟩, -⟩ := strangerJobs_served
  obtain ⟨rows, authors, -⟩ := chat_open (getD_readable strangerJobList_readable) served
  exact ⟨run, threads, s, served, stranger, rows, authors⟩

end Samples

end Ttac
