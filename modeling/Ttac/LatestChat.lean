import Ttac.ChatPosts

set_option autoImplicit false

/- The number that `create_chat` replies, and the messages that `get_chatlist` selects with it
while other requests insert theirs. -/
namespace Ttac

open Interaction (Program Exchange Interleaved Linked Transition eventsOf linked_around_iff)
open Sql (Piece)

/-- No message of the group has a larger number, and it is the number of a message, or -1. -/
structure Tables.IsLatest (tables : Tables) (group latest : Int) : Prop where
  above : ∀ chat ∈ tables.chatsOf group, chat.idx ≤ latest
  taken : latest = -1 ∨ ∃ chat ∈ tables.chat.rows, chat.idx = latest

section Numbers

variable {tables before : Tables} {group latest : Int} {more : List Chat}

/-- Messages that are inserted later have larger numbers. -/
theorem Tables.IsLatest.below (is : before.IsLatest group latest)
    (rows : tables.chat.rows = before.chat.rows ++ more) {chat : Chat} (member : chat ∈ more) :
    latest < chat.idx := by
  have stored : chat ∈ tables.chat.rows := by
    rw [rows]
    exact List.mem_append_right _ member
  cases is.taken with
  | inl none =>
      have positive := (tables.chat.within chat stored).1
      omega
  | inr taken =>
      obtain ⟨old, there, same⟩ := taken
      have increasing := tables.chat.increasing
      rw [rows, List.pairwise_append] at increasing
      have less := increasing.2.2 old there chat member
      omega

/-- The messages of the group above the latest are those that were inserted since. -/
theorem Tables.IsLatest.since (is : before.IsLatest group latest)
    (rows : tables.chat.rows = before.chat.rows ++ more) :
    (tables.chatsOf group).filter (fun chat => latest < chat.idx) =
      more.filter fun chat => chat.groupIdx = group := by
  have old : (before.chatsOf group).filter (fun chat => latest < chat.idx) = [] := by
    apply List.filter_eq_nil_iff.mpr
    intro chat member larger
    have small := is.above chat member
    have large := of_decide_eq_true larger
    omega
  have new : (more.filter fun chat => chat.groupIdx = group).filter
      (fun chat => latest < chat.idx) = more.filter fun chat => chat.groupIdx = group := by
    apply List.filter_eq_self.mpr
    intro chat member
    exact decide_eq_true (is.below rows (List.mem_filter.mp member).1)
  rw [Tables.chatsOf, rows, List.filter_append, List.filter_append, new]
  exact congrArg (· ++ _) old

/-- What `create_chat` makes of `MAX(idx)`. -/
theorem latestValue_latest (tables : Tables) (group : Int) :
    tables.IsLatest group (latestValue (maxText (tables.chatsOf group))) := by
  cases largest : ((tables.chatsOf group).map Chat.idx).max? with
  | none =>
      rw [maxText, largest]
      refine ⟨?_, .inl rfl⟩
      intro chat member
      rw [List.max?_eq_none_iff, List.map_eq_nil_iff] at largest
      rw [largest] at member
      cases member
  | some n =>
      obtain ⟨taken, above⟩ := List.max?_eq_some_iff.mp largest
      obtain ⟨chat, member, same⟩ := List.mem_map.mp taken
      have stored := (List.mem_filter.mp member).1
      have value : latestValue (maxText (tables.chatsOf group)) = n := by
        rw [maxText, largest, ← same]
        exact Tables.atoi_number tables.chat stored
      rw [value]
      refine ⟨?_, .inr ⟨chat, stored, same⟩⟩
      intro other among
      exact above other.idx (List.mem_map_of_mem among)

/-- Each message has its writer. -/
theorem chatsWithUsers_fst (tables : Tables) {chats : List Chat}
    (stored : ∀ chat ∈ chats, chat ∈ tables.chat.rows) :
    (tables.chatsWithUsers chats).map Prod.fst = chats := by
  induction chats with
  | nil => rfl
  | cons chat chats ih =>
      rw [List.forall_mem_cons] at stored
      obtain ⟨user, member, number⟩ := tables.chatUser chat stored.1
      have writer := tables.user.filter_number member
      rw [number] at writer
      have first : tables.chatsWithUsers (chat :: chats) =
          (chat, user) :: tables.chatsWithUsers chats := by
        rw [Tables.chatsWithUsers, List.flatMap_cons, writer]
        rfl
      rw [first, List.map_cons, ih stored.2]

end Numbers

/-- The rows are those of the messages with their writers, each once and in any order. -/
def Shows (rows : List Row) (chats : List Chat) : Prop :=
  ∃ entries : List (Chat × User), entries.map Prod.fst = chats ∧
    (∀ entry ∈ entries, entry.2.idx = entry.1.userIdx) ∧ rows.Perm (entries.map chatlistRow)

/-- The `id` that a client reads in a row. -/
def rowNumber (row : Row) : Int :=
  match column (some row) 0 with
  | .ok text => atoi text
  | .error _ => -1

/-- The largest number a client knows behind an answer. -/
def newest (latest : Int) : List Row → Int
  | [] => latest
  | row :: rows => newest (max latest (rowNumber row)) rows

section Clients

variable {latest : Int} {rows more : List Row} {chats others : List Chat}

theorem Shows.append (first : Shows rows chats) (second : Shows more others) :
    Shows (rows ++ more) (chats ++ others) := by
  obtain ⟨entries, shown, writers, order⟩ := first
  obtain ⟨entries', shown', writers', order'⟩ := second
  refine ⟨entries ++ entries', ?_, ?_, ?_⟩
  · rw [List.map_append, shown, shown']
  · exact List.forall_mem_append.mpr ⟨writers, writers'⟩
  · rw [List.map_append]
    exact order.append order'

theorem le_newest (latest : Int) (rows : List Row) : latest ≤ newest latest rows := by
  induction rows generalizing latest with
  | nil => exact Int.le_refl _
  | cons row rows ih => exact (Int.le_max_left _ _).trans (ih _)

theorem rowNumber_le_newest {row : Row} (member : row ∈ rows) :
    rowNumber row ≤ newest latest rows := by
  induction rows generalizing latest with
  | nil => cases member
  | cons first rows ih =>
      cases member with
      | head => exact (Int.le_max_right _ _).trans (le_newest _ _)
      | tail _ member => exact ih member

theorem newest_taken (latest : Int) (rows : List Row) :
    newest latest rows = latest ∨ ∃ row ∈ rows, rowNumber row = newest latest rows := by
  induction rows generalizing latest with
  | nil => exact .inl rfl
  | cons row rows ih =>
      rw [newest]
      rcases ih (max latest (rowNumber row)) with same | ⟨other, member, number⟩
      · rw [same]
        rcases Int.le_total latest (rowNumber row) with up | down
        · exact .inr ⟨row, List.mem_cons_self .., (Int.max_eq_right up).symm⟩
        · exact .inl (Int.max_eq_left down)
      · exact .inr ⟨other, List.mem_cons_of_mem _ member, number⟩

end Clients

/-- The call is the query of a `get_chatlist` for the messages of the group, or for those above a
number, and its answer has these rows. -/
def CallStep.Lists (jobs : Nat → Job) (step : CallStep) (group : Int) (since : Option Int)
    (rows : List Row) : Prop :=
  (jobs step.thread).handler = .getChatlist ∧
    ∃ connection groupId latest,
      findValue (jobs step.thread).req.parameter (ascii "group_id") = .ok (some groupId) ∧
        sqlInteger groupId = some group ∧
          findValue (jobs step.thread).req.parameter (ascii "latest") = .ok latest ∧
            latest.map sqlInteger = since.map some ∧
              step.event = ⟨.mysqlQuery connection 2000 (chatsQuery groupId latest), some rows⟩

/-- In the run, up to its last call, a client has asked again and again for the messages above
the largest number it knew, and has received these rows. -/
inductive Polls (jobs : Nat → Job) (group : Int) : Int → List CallStep → List Row → Prop where
  | once {latest : Int} {front : List CallStep} {select : CallStep} {rows : List Row}
      (lists : select.Lists jobs group (some latest) rows) :
      Polls jobs group latest (front ++ [select]) rows
  | again {latest : Int} {front run : List CallStep} {select : CallStep} {rows received : List Row}
      (lists : select.Lists jobs group (some latest) rows)
      (later : Polls jobs group (newest latest rows) run received) :
      Polls jobs group latest (front ++ select :: run) (rows ++ received)

section Answers

variable {tables : Tables} {chats : List Chat} {rows : List Row} {group latest : Int}

/-- What the rows of the query show, and the numbers in them. -/
theorem shows_chats (stored : ∀ chat ∈ chats, chat ∈ tables.chat.rows)
    (order : rows.Perm ((tables.chatsWithUsers chats).map chatlistRow)) :
    Shows rows chats ∧ (∀ chat ∈ chats, ∃ row ∈ rows, rowNumber row = chat.idx) ∧
      ∀ row ∈ rows, ∃ chat ∈ tables.chat.rows, chat.idx = rowNumber row := by
  have shown := chatsWithUsers_fst tables stored
  have number : ∀ entry ∈ tables.chatsWithUsers chats,
      entry.1 ∈ chats ∧ rowNumber (chatlistRow entry) = entry.1.idx := by
    intro entry among
    have member : entry.1 ∈ chats := by
      rw [← shown]
      exact List.mem_map_of_mem among
    exact ⟨member, Tables.atoi_number tables.chat (stored _ member)⟩
  refine ⟨⟨_, shown, ?_, order⟩, ?_, ?_⟩
  · intro entry member
    obtain ⟨chat, -, written⟩ := List.mem_flatMap.mp member
    obtain ⟨user, writer, display⟩ := List.mem_map.mp written
    rw [← display]
    exact of_decide_eq_true (List.mem_filter.mp writer).2
  · intro chat member
    rw [← shown] at member
    obtain ⟨entry, among, first⟩ := List.mem_map.mp member
    refine ⟨chatlistRow entry, order.mem_iff.mpr (List.mem_map_of_mem among), ?_⟩
    rw [(number entry among).2, first]
  · intro row member
    obtain ⟨entry, among, display⟩ := List.mem_map.mp (order.mem_iff.mp member)
    obtain ⟨chosen, same⟩ := number entry among
    refine ⟨entry.1, stored _ chosen, ?_⟩
    rw [← display, same]

/-- A client that has received the messages it did not know knows the latest. -/
theorem newest_latest (taken : latest = -1 ∨ ∃ chat ∈ tables.chat.rows, chat.idx = latest)
    (known : ∀ chat ∈ tables.chatsOf group,
      chat.idx ≤ latest ∨ ∃ row ∈ rows, rowNumber row = chat.idx)
    (shown : ∀ row ∈ rows, ∃ chat ∈ tables.chat.rows, chat.idx = rowNumber row) :
    tables.IsLatest group (newest latest rows) := by
  constructor
  · intro chat member
    rcases known chat member with old | ⟨row, received, same⟩
    · exact old.trans (le_newest _ _)
    · rw [← same]
      exact rowNumber_le_newest received
  · rcases newest_taken latest rows with same | ⟨row, member, same⟩
    · rw [same]
      exact taken
    · rw [← same]
      exact .inr (shown row member)

end Answers

section Runs

variable {mysql : Mysql} {jobs : Nat → Job} {start s t : Shared} {run front rest : List CallStep}
  {threads : Nat → Prog Unit} {select : CallStep} {group latest : Int} {since : Option Int}
  {rows received : List Row}

/-- The messages that `get_chatlist` asks for. -/
def Tables.chatsAbove (tables : Tables) (group : Int) : Option Int → List Chat
  | none => tables.chatsOf group
  | some latest => (tables.chatsOf group).filter (latest < ·.idx)

theorem CallStep.Lists.answered (lists : select.Lists jobs group since rows)
    (answered : mysql.Answers select.event.op select.event.answer select.before select.after) :
    select.after = select.before ∧ rows.Perm ((select.before.tables.chatsWithUsers
      (select.before.tables.chatsAbove group since)).map chatlistRow) := by
  obtain ⟨-, connection, groupId, latest, -, groupRead, -, latestRead, event⟩ := lists
  rw [event] at answered
  have understood : ∃ statement, statementOf (chatsQuery groupId latest) = some statement ∧
      ∀ gap today, exec mysql gap today select.before.tables (select.before.lastId connection)
        statement = some ⟨(select.before.tables.chatsWithUsers
          (select.before.tables.chatsAbove group since)).map chatlistRow, select.before.tables,
            select.before.lastId connection⟩ := by
    cases latest with
    | none =>
        cases since with
        | none =>
            refine ⟨.chats group, ?_, fun _ _ => rfl⟩
            rw [chatsQuery, chatlistQuery_statement, groupRead]
            rfl
        | some since => cases latestRead
    | some latest =>
        cases since with
        | none => cases latestRead
        | some since =>
            refine ⟨.chatsSince group since, ?_, fun _ _ => rfl⟩
            rw [chatsQuery, chatlistSinceQuery_statement, groupRead, Option.some.inj latestRead]
            rfl
  obtain ⟨statement, understood, selects⟩ := understood
  have selected := (Mysql.answers_select _ understood selects).mp answered
  refine ⟨selected.state, ?_⟩
  cases selected.answer with
  | inl failed => cases failed
  | inr found =>
      obtain ⟨answer, same, order⟩ := found
      cases same
      exact order

theorem CallStep.Lists.posted (lists : select.Lists jobs group since rows)
    (answered : mysql.Answers select.event.op select.event.answer select.before select.after) :
    postedTo group [select] = [] := by
  have nothing : select.posted = none := by
    rw [CallStep.posted, (lists.answered answered).1]
    exact List.getElem?_eq_none (Nat.le_refl _)
  rw [postedTo, List.filterMap_cons_none nothing]
  rfl

/-- A client that knows the latest message selects what has been inserted since, and then knows
the latest again. -/
theorem CallStep.Lists.shows (lists : select.Lists jobs group (some latest) rows)
    (linked : Linked mysql.Answers s (front ++ select :: rest) t)
    (within : ∀ step ∈ front ++ select :: rest,
      step.event.op.Within (jobs step.thread).handler.targets)
    (is : s.tables.IsLatest group latest) :
    Shows rows (postedTo group front) ∧
      select.after.tables.IsLatest group (newest latest rows) := by
  obtain ⟨earlier, answered, -⟩ := linked_around_iff.mp linked
  obtain ⟨same, order⟩ := lists.answered answered
  have grown := chat_rows earlier fun step member => within step (List.mem_append_left _ member)
  have found : select.before.tables.chatsAbove group (some latest) = postedTo group front :=
    is.since grown
  have stored : ∀ chat ∈ select.before.tables.chatsAbove group (some latest),
      chat ∈ select.before.tables.chat.rows := by
    intro chat member
    exact (List.mem_filter.mp (List.mem_filter.mp member).1).1
  obtain ⟨shown, numbers, taken⟩ := shows_chats stored order
  rw [same, ← found]
  refine ⟨shown, newest_latest ?_ ?_ taken⟩
  · rcases is.taken with none | ⟨chat, there, taken⟩
    · exact .inl none
    · refine .inr ⟨chat, ?_, taken⟩
      rw [grown]
      exact List.mem_append_left _ there
  · intro chat member
    by_cases old : chat.idx ≤ latest
    · exact .inl old
    · exact .inr (numbers chat (List.mem_filter.mpr ⟨member, decide_eq_true (by omega)⟩))

/-- A client that has received all messages of the group knows the latest. -/
theorem CallStep.Lists.whole (lists : select.Lists jobs group none rows)
    (answered : mysql.Answers select.event.op select.event.answer select.before select.after) :
    Shows rows (select.before.tables.chatsOf group) ∧
      select.after.tables.IsLatest group (newest (-1) rows) := by
  obtain ⟨same, order⟩ := lists.answered answered
  have stored : ∀ chat ∈ select.before.tables.chatsAbove group none,
      chat ∈ select.before.tables.chat.rows := by
    intro chat member
    exact (List.mem_filter.mp member).1
  obtain ⟨shown, numbers, taken⟩ := shows_chats stored order
  rw [same]
  exact ⟨shown, newest_latest (.inl rfl) (fun chat member => .inr (numbers chat member)) taken⟩

/-- A client that starts with the latest message receives every later one exactly once. -/
theorem Polls.shows (polls : Polls jobs group latest run received)
    (linked : Linked mysql.Answers s (run ++ rest) t)
    (within : ∀ step ∈ run ++ rest, step.event.op.Within (jobs step.thread).handler.targets)
    (is : s.tables.IsLatest group latest) : Shows received (postedTo group run) := by
  induction polls generalizing s with
  | @once latest front select rows lists =>
      rw [List.append_assoc, List.singleton_append] at linked within
      obtain ⟨-, answered, -⟩ := linked_around_iff.mp linked
      obtain ⟨shown, -⟩ := lists.shows linked within is
      rw [postedTo_append, lists.posted answered, List.append_nil]
      exact shown
  | @again latest front run select rows received lists later ih =>
      rw [List.append_assoc, List.cons_append] at linked within
      obtain ⟨-, answered, behind⟩ := linked_around_iff.mp linked
      obtain ⟨shown, again⟩ := lists.shows linked within is
      rw [postedTo_append, postedTo_cons, lists.posted answered]
      apply shown.append
      apply ih behind _ again
      intro step member
      exact within step (List.mem_append_right _ (List.mem_cons_of_mem _ member))

theorem Polls.behind (polls : Polls jobs group latest run received) (front : List CallStep) :
    Polls jobs group latest (front ++ run) received := by
  cases polls with
  | once lists =>
      rw [← List.append_assoc]
      exact .once lists
  | again lists later =>
      rw [← List.append_assoc]
      exact .again lists later

/-- No number is given to two messages. -/
theorem postedTo_nodup (linked : Linked mysql.Answers s run t)
    (within : ∀ step ∈ run, step.event.op.Within (jobs step.thread).handler.targets)
    (group : Int) : ((postedTo group run).map Chat.idx).Nodup := by
  have nodup := t.tables.chat.numbers_nodup
  rw [chat_rows linked within, List.map_append] at nodup
  exact (List.filter_sublist.map Chat.idx).nodup (List.nodup_append.mp nodup).2.1

end Runs

/-- A `create_chat` has asked for the largest number of its group in front of `between`, and has
inserted its message behind it. -/
structure Posting (jobs : Nat → Job) (thread : Nat) (run earlier between later : List CallStep)
    (asks posts : CallStep) (group : Int) (own : Chat) : Prop where
  order : run = earlier ++ asks :: (between ++ posts :: later)
  asker : asks.thread = thread
  poster : posts.thread = thread
  named : ∃ groupId, findValue (jobs thread).req.parameter (ascii "group_id") =
    .ok (some groupId) ∧ sqlInteger groupId = some group
  largest : asks.event.op.Sends (.latestChat group)
  inserted : posts.posted = some own
  among : own.groupIdx = group

section Posting

variable {mysql : Mysql} {jobs : Nat → Job} {start s : Shared} {run : List CallStep}
  {threads : Nat → Prog Unit} {thread : Nat} {group latest : Int}

theorem latestReply_injective {req : Request} {first second : Int}
    (same : latestReply req first = latestReply req second) : first = second := by
  have bodies : chatBody first = chatBody second := congrArg Reply.body same
  rw [chatBody, chatBody, List.append_left_inj, List.append_right_inj] at bodies
  exact decimalInt_injective bodies

/-- The number is the largest of the group where `create_chat` asks for it. -/
theorem asks_latest {step : CallStep} {connection : Nat} {groupId : Bytes} {found : List Row}
    {number : Option Bytes} (groupRead : sqlInteger groupId = some group)
    (answered : mysql.Answers step.event.op step.event.answer step.before step.after)
    (event : step.event = ⟨.mysqlQuery connection 2000 (latestChatQuery groupId), some found⟩)
    (asked : cell found.head? 0 = .ok number) :
    step.after = step.before ∧ step.before.tables.IsLatest group (latestValue number) := by
  rw [event] at answered
  have selected := (Mysql.answers_latestChatQuery groupRead).mp answered
  refine ⟨selected.state, ?_⟩
  cases selected.answer with
  | inl failed => cases failed
  | inr given =>
      obtain ⟨answer, same, order⟩ := given
      cases same
      rw [List.perm_singleton.mp order] at asked
      cases asked
      exact latestValue_latest step.before.tables group

/-- Where `create_chat` replies it has asked for the largest number and inserted its message. -/
theorem createChat_posting (served : Served mysql jobs start run threads s)
    (readable : ∀ thread, (jobs thread).Readable) (creates : (jobs thread).handler = .createChat)
    (replied : latestReply (jobs thread).req latest ∈ replies (eventsOf thread run)) :
    ∃ group earlier asks between posts later own,
      Posting jobs thread run earlier between later asks posts group own ∧
        asks.after = asks.before ∧ asks.before.tables.IsLatest group latest := by
  obtain ⟨responds, member, rfl, response⟩ := Interaction.mem_eventsOf.mp (mem_replies.mp replied)
  obtain ⟨front, back, whole⟩ := List.append_of_mem member
  have own := readable responds.thread
  rw [Job.Readable, creates] at own
  have meets :
      (jobs responds.thread).program.Meets (Asks (PostsOwn (jobs responds.thread).req)) := by
    rw [Job.program, creates]
    exact createChat_posts own
  have shape : PostsOwn (jobs responds.thread).req (eventsOf responds.thread front)
      responds.event.op := by
    rw [whole] at served
    exact (asks_calling _).mp (served.meets_calling meets)
  obtain ⟨connection, token, groupId, users, found, checked, tm, idx, number, pieces, stored, group,
    groupFound, groupRead, asked, same, posts, events⟩ :=
      shape.responds _ (by rw [response]) rfl
  obtain rfl := latestReply_injective same
  have first : eventsOf responds.thread front =
      [⟨.connectionPop, connection⟩, ⟨.mysqlQuery connection 256 (userQuery token), some users⟩,
        ⟨.mysqlQuery connection 256 (attendanceQuery idx (atoi groupId)), checked⟩] ++
      ⟨.mysqlQuery connection 2000 (latestChatQuery groupId), some found⟩ ::
        ([⟨.localtime, tm⟩] ++ ⟨.mysqlQuery connection 2000 pieces, some stored⟩ ::
          [⟨.connectionPush connection, ()⟩]) := events
  obtain ⟨earlier, asks, later, split, asker, asksEvent, -, behind⟩ :=
    Interaction.eventsOf_split first
  obtain ⟨between, post, rest, splitLater, poster, postEvent, -, -⟩ :=
    Interaction.eventsOf_split behind
  have order : run = earlier ++ asks :: (between ++ post :: (rest ++ responds :: back)) := by
    rw [whole, split, splitLater]
    simp only [List.append_assoc, List.cons_append]
  have asksMember : asks ∈ run := by simp [order]
  have postMember : post ∈ run := by simp [order]
  obtain ⟨unchanged, largest⟩ := asks_latest groupRead (served.answers asksMember) asksEvent asked
  obtain ⟨message, inserted, rfl⟩ := posted_of_stored (served.within readable post postMember)
    (served.answers postMember) posts postEvent
  refine ⟨message.groupIdx, earlier, asks, between, post, rest ++ responds :: back, message, ?_,
    unchanged, largest⟩
  refine ⟨order, asker, poster, ⟨groupId, groupFound, groupRead⟩, ?_, inserted, rfl⟩
  rw [asksEvent, Call.Sends, latestChatQuery_statement, groupRead]
  rfl

/-- Behind the number that `create_chat` replies lie the messages inserted since, with its own. -/
theorem Posting.selects {earlier between later : List CallStep} {asks posts : CallStep} {own : Chat}
    (posting : Posting jobs thread run earlier between later asks posts group own)
    (served : Served mysql jobs start run threads s) (readable : ∀ thread, (jobs thread).Readable)
    (unchanged : asks.after = asks.before) (is : asks.before.tables.IsLatest group latest) :
    latest < own.idx ∧
      (∀ front select rest rows, later = front ++ select :: rest →
        select.Lists jobs group (some latest) rows →
          Shows rows (postedTo group (between ++ posts :: front))) ∧
        ∀ polled rest received, later = polled ++ rest → Polls jobs group latest polled received →
          Shows received (postedTo group (between ++ posts :: polled)) := by
  have within := served.within readable
  have linked := served.linked
  rw [posting.order] at linked within
  obtain ⟨-, -, behind⟩ := linked_around_iff.mp linked
  rw [List.forall_mem_append, List.forall_mem_cons] at within
  rw [unchanged] at behind
  refine ⟨?_, ?_, ?_⟩
  · obtain ⟨-, -, rest⟩ := linked_around_iff.mp behind
    have rows := chat_rows behind within.2.2
    apply is.below rows
    apply List.mem_filterMap.mpr
    exact ⟨posts, List.mem_append_right _ (List.mem_cons_self ..), posting.inserted⟩
  · intro front select rest rows whole lists
    rw [whole, ← List.cons_append, ← List.append_assoc] at behind within
    exact (lists.shows behind within.2.2 is).1
  · intro polled rest received whole polls
    rw [whole, ← List.cons_append, ← List.append_assoc] at behind within
    have asked : Polls jobs group latest ((between ++ [posts]) ++ polled) received :=
      polls.behind _
    rw [List.append_assoc, List.singleton_append] at asked
    exact asked.shows behind within.2.2 is

/-- No message is lost or given twice. What `create_chat` replies is in front of its own message
and behind those that were there when it asked for the largest number. A client that asks for the
messages behind it selects those inserted since, and one that goes on asking with the largest
number it has received selects each later message once. -/
theorem createChat_latest (served : Served mysql jobs start run threads s)
    (readable : ∀ thread, (jobs thread).Readable) :
    (∀ thread latest, (jobs thread).handler = .createChat →
      latestReply (jobs thread).req latest ∈ replies (eventsOf thread run) →
        ∃ group earlier asks between posts later own,
          Posting jobs thread run earlier between later asks posts group own ∧
            latest < own.idx ∧ (∀ chat ∈ asks.before.tables.chatsOf group, chat.idx ≤ latest) ∧
              (∀ front, own ∈ postedTo group (between ++ posts :: front)) ∧
                (∀ front select rest rows, later = front ++ select :: rest →
                  select.Lists jobs group (some latest) rows →
                    Shows rows (postedTo group (between ++ posts :: front))) ∧
                  ∀ polled rest received, later = polled ++ rest →
                    Polls jobs group latest polled received →
                      Shows received (postedTo group (between ++ posts :: polled))) ∧
      (∀ group front select rest rows, run = front ++ select :: rest →
        select.Lists jobs group none rows →
          Shows rows (select.before.tables.chatsOf group) ∧
            ∀ polled more received, rest = polled ++ more →
              Polls jobs group (newest (-1) rows) polled received →
                Shows received (postedTo group polled)) ∧
        ∀ group, ((postedTo group run).map Chat.idx).Nodup := by
  have within := served.within readable
  refine ⟨?_, ?_, postedTo_nodup served.linked within⟩
  · intro thread latest creates replied
    obtain ⟨group, earlier, asks, between, posts, later, own, posting, unchanged, is⟩ :=
      createChat_posting served readable creates replied
    obtain ⟨less, selects, polls⟩ := posting.selects served readable unchanged is
    refine ⟨group, earlier, asks, between, posts, later, own, posting, less, is.above, ?_, selects,
      polls⟩
    intro front
    apply List.mem_filter.mpr
    refine ⟨List.mem_filterMap.mpr ⟨posts, ?_, posting.inserted⟩, decide_eq_true posting.among⟩
    exact List.mem_append_right _ (List.mem_cons_self ..)
  · intro group front select rest rows whole lists
    have linked := served.linked
    rw [whole] at linked within
    obtain ⟨-, answered, behind⟩ := linked_around_iff.mp linked
    obtain ⟨shown, is⟩ := lists.whole answered
    refine ⟨shown, ?_⟩
    intro polled more received split polls
    rw [List.forall_mem_append, List.forall_mem_cons, split] at within
    rw [split] at behind
    exact polls.shows behind within.2.2 is

end Posting

section Samples

/-- A user creates a group and sends two messages to it, which are read later. -/
def chatJobList : List Job :=
  let message (content : String) : Job := ⟨.createChat,
    requestOf [("token", tokenOn 1), ("group_id", ascii "1"), ("content", ascii content)]⟩
  arrival (ascii "i") ++
    [⟨.createGroup, requestOf [("name", ascii "g"), ("token", tokenOn 1)]⟩, message "a",
      message "b", ⟨.getChatlist, requestOf
        [("token", tokenOn 1), ("group_id", ascii "1"), ("latest", ascii "-1")]⟩]

theorem chatJobList_readable : ∀ job ∈ chatJobList, job.Readable := by
  unfold Job.Readable
  decide

def chatJobs : Nat → Job := fun thread => chatJobList.getD thread ⟨.joinGroup, requestOf []⟩

/-- The second message is inserted between the two steps of the first. -/
def chatOrder : List Nat :=
  List.replicate 5 0 ++ List.replicate 55 1 ++ List.replicate 8 2 ++ List.replicate 4 3 ++
    List.replicate 8 4 ++ List.replicate 4 3 ++ List.replicate 6 5

def chatItem (id content : String) : Bytes :=
  ascii "\x7b\"id\":" ++ ascii id ++ ascii ",\"user_ID\":\"i\",\"chat_type\":\"TEXT\"," ++
    ascii "\"content\":\"" ++ ascii content ++ ascii "\",\"chat_time\":\"2018-6-12 0:0:0\"\x7d"

theorem createChat_latest_sample : ∃ run threads s,
    Served .strict chatJobs .start run threads s ∧
      latestReply (chatJobs 3).req (-1) ∈ replies (eventsOf 3 run) ∧
        replies (eventsOf 5 run) = [⟨200, ascii "OK", (chatJobs 5).req.version,
          ascii "[" ++ chatItem "1" "b" ++ ascii "," ++ chatItem "2" "a" ++ ascii "]"⟩] ∧
          ∃ group earlier asks between posts later own,
            Posting chatJobs 3 run earlier between later asks posts group own ∧ -1 < own.idx ∧
              ∀ front select rest rows, later = front ++ select :: rest →
                select.Lists chatJobs group (some (-1)) rows →
                  Shows rows (postedTo group (between ++ posts :: front)) := by
  have scheduled : (Interaction.schedule (Mysql.strict.world []) chatOrder
      (fun thread => (chatJobs thread).program) .start).map (fun served =>
        (replies (eventsOf 3 served.1), replies (eventsOf 5 served.1))) =
          some ([latestReply (chatJobs 3).req (-1)], [⟨200, ascii "OK", (chatJobs 5).req.version,
            ascii "[" ++ chatItem "1" "b" ++ ascii "," ++ chatItem "2" "a" ++ ascii "]"⟩]) := by
    decide +kernel
  obtain ⟨⟨run, threads, s⟩, found, same⟩ := Option.map_eq_some_iff.mp scheduled
  rw [Prod.mk.injEq] at same
  have starts :
      Served .strict chatJobs .start [] (fun thread => (chatJobs thread).program) .start :=
    .nil
  have served := Interaction.schedule_interleaved (Mysql.strict.world_follows []) starts found
  have replied : latestReply (chatJobs 3).req (-1) ∈ replies (eventsOf 3 run) := by
    rw [same.1]
    exact List.mem_singleton_self _
  obtain ⟨group, earlier, asks, between, posts, later, own, posting, less, -, -, selects, -⟩ :=
    (createChat_latest served (getD_readable chatJobList_readable)).1 3 (-1) rfl replied
  exact ⟨run, threads, s, served, replied, same.2, group, earlier, asks, between, posts, later, own,
    posting, less, selects⟩

end Samples

end Ttac
