import Ttac.ListRows
import Ttac.Response
import Ttac.Sockets
import Ttac.TodoList

set_option autoImplicit false

/- The way of an entry of a todo list through the server, from the bytes in which one client posts
it to the bytes in which another is sent the list. -/
namespace Ttac

open Interaction (Program Exchange Interleaved Linked Transition eventsOf)

/-- The bytes of a `GET` that asks a path, with pairs in its target. -/
inductive Gets (path : Bytes) (pairs : List (Bytes × Bytes)) : Bytes → Prop where
  | intro {method version : Bytes} {extra texts : List (Bytes × Bytes)} (get : isGet method = true)
      (input : RequestInput path version extra) (spelled : Spelled pairs texts)
      (short : (messageText method (path ++ chr '?' :: queryText texts) version extra []).length <
        2 ^ 29) :
      Gets path pairs (messageText method (path ++ chr '?' :: queryText texts) version extra [])

/-- The bytes of a `POST` to a path, with pairs in its body. -/
inductive Posts (path : Bytes) (pairs : List (Bytes × Bytes)) : Bytes → Prop where
  | intro {method version : Bytes} {extra lines texts : List (Bytes × Bytes)}
      (post : isPost method = true) (input : RequestInput path version extra)
      (spelled : Spelled pairs texts)
      (order : lines.Perm (formType :: lengthLine (queryText texts) :: extra))
      (short : (messageText method path version lines (queryText texts)).length < 2 ^ 29) :
      Posts path pairs (messageText method path version lines (queryText texts))

/-- The bytes of a reply. -/
def Reply.text (reply : Reply) : Except Fault Bytes :=
  response reply.statusCode reply.statusMsg reply.httpVersion none (some reply.body)

section Requests

variable {pairs : List (Bytes × Bytes)} {data : Bytes}

theorem route_todolist (method rest : Bytes) : route method (ascii "/todolist" ++ rest) =
    byMethod method .getTodolist .postTodolist := rfl

/-- Such a request is routed to the handler of its method, with the pairs as its parameters. -/
theorem Gets.job (gets : Gets (ascii "/todolist") pairs data)
    (noNul : ∀ pair ∈ pairs, (0 : UInt8) ∉ pair.1 ∧ (0 : UInt8) ∉ pair.2) (junk : Junk) (fuel : Nat)
    (d : Delivery data) : ∃ req, socketJob junk fuel d.stream = some ⟨.getTodolist, req⟩ ∧
      req.parameter = pairs.map Node.entry := by
  cases gets with
  | intro get input spelled short =>
      have parsed := (parseRequest_delivers d junk fuel).1
      rw [parseRequest_get spelled noNul input junk fuel get short false] at parsed
      refine ⟨_, socketJob_routed parsed ?_, rfl⟩
      dsimp only
      rw [route_todolist, byMethod, if_pos get]

theorem Posts.job (posts : Posts (ascii "/todolist") pairs data)
    (noNul : ∀ pair ∈ pairs, (0 : UInt8) ∉ pair.1 ∧ (0 : UInt8) ∉ pair.2) (junk : Junk) (fuel : Nat)
    (d : Delivery data) : ∃ req, socketJob junk fuel d.stream = some ⟨.postTodolist, req⟩ ∧
      req.parameter = pairs.map Node.entry := by
  cases posts with
  | @intro method _ _ _ _ post input spelled order short =>
      have parsed := (parseRequest_delivers d junk fuel).1
      rw [parseRequest_post spelled noNul input junk fuel post order short false] at parsed
      have notGet : isGet method = false := by
        rcases isPost_cases post with rfl | rfl <;> rfl
      have routed := route_todolist method []
      rw [List.append_nil, byMethod, notGet, if_neg Bool.false_ne_true, if_pos post] at routed
      exact ⟨_, socketJob_routed parsed routed, rfl⟩

theorem text_ok (reply : Reply) : reply.text = .ok (messageText reply.httpVersion
    (decimalInt reply.statusCode) reply.statusMsg [contentLength reply.body] reply.body) :=
  response_eq reply.statusCode reply.statusMsg reply.httpVersion reply.body none [] rfl

end Requests

section Users

variable {mysql : Mysql} {jobs : Nat → Job} {start s t : Shared} {run more : List CallStep}
  {threads others : Nat → Prog Unit} {thread : Nat} {idx : Int}

theorem usersByToken_extends {first second : Tables} {same : Bytes → Bytes → Bool} {token : Bytes}
    {user : User} (extends_ : first.Extends second) (found : user ∈ first.usersByToken same token) :
    user ∈ second.usersByToken same token := by
  obtain ⟨member, row, stored, equal, refers⟩ := Tables.mem_usersByToken.mp found
  exact Tables.mem_usersByToken.mpr
    ⟨extends_.user.subset member, row, extends_.token.subset stored, equal, refers⟩

/-- A user who was found by a token is still found by it. -/
theorem Authenticated.known (authenticated : Authenticated mysql jobs run thread idx)
    (served : Served mysql jobs start run threads s) (readable : ∀ thread, (jobs thread).Readable)
    {token : Bytes}
    (found : findValue (jobs thread).req.parameter (ascii "token") = .ok (some token)) :
    ∃ user ∈ s.tables.usersByToken mysql.same token, user.idx = idx := by
  obtain ⟨other, also, step, member, -, -, user, belongs, same⟩ := authenticated
  cases found.symm.trans also
  exact ⟨user, usersByToken_extends (served.extends readable member) belongs, same⟩

end Users

/-- A call that is behind a part of a run in which its thread makes none has the part in front of
it. -/
theorem prefix_of_absent {before after front later : List CallStep} {step : CallStep} {thread : Nat}
    (same : before ++ after = front ++ step :: later) (own : step.thread = thread)
    (absent : eventsOf thread before = []) : before <+: front := by
  rcases List.append_eq_append_iff.mp same with ⟨more, whole, -⟩ | ⟨more, whole, rest⟩
  · exact ⟨more, whole.symm⟩
  · cases more with
    | nil => exact ⟨[], by rw [whole, List.append_nil, List.append_nil]⟩
    | cons first more =>
        rw [List.cons_append, List.cons.injEq] at rest
        have member : step ∈ before := by
          rw [whole, rest.1]
          simp
        exact absurd own (Interaction.eventsOf_eq_nil_iff.mp absent step member)

section Runs

variable {mysql : Mysql} {junk : Junk} {fuel : Nat} {sockets : Nat → Stream} {s : Shared}
  {before after : List CallStep} {threads : Nat → Prog Unit} {poster reader : Nat}

/-- A row that a request entered in time is in the list that another is shown. -/
theorem row_shown {jobs : Nat → Job} (served : Served mysql jobs .start (before ++ after) threads s)
    (readable : ∀ thread, (jobs thread).Readable)
    (posts : (jobs poster).handler = .postTodolist) (gets : (jobs reader).handler = .getTodolist)
    {token : Bytes}
    (posterToken : findValue (jobs poster).req.parameter (ascii "token") = .ok (some token))
    (readerToken : findValue (jobs reader).req.parameter (ascii "token") = .ok (some token))
    (one : ∀ first ∈ s.tables.usersByToken mysql.same token,
      ∀ second ∈ s.tables.usersByToken mysql.same token, first = second)
    {accepted reply : Reply} (entered : accepted ∈ replies (eventsOf poster before))
    (told : accepted.body = statusBody "OK") (absent : eventsOf reader before = [])
    (replied : reply ∈ replies (eventsOf reader (before ++ after))) (ok : reply.statusCode = 200) :
    ∃ row rows, Enters mysql jobs before poster row ∧ todolistRow row ∈ rows ∧
      writeList todoRow rows = .ok reply.body := by
  obtain ⟨middle, t, earlier⟩ := served.front
  rcases posted_entered earlier readable posts entered with ⟨-, row, rows⟩ | ⟨refused, -⟩
  · have among : row ∈ (before.filter fun step => step.thread = poster).filterMap
        (CallStep.entered mysql) := by
      rw [rows]
      exact List.mem_singleton_self _
    obtain ⟨step, here, entered⟩ := List.mem_filterMap.mp among
    obtain ⟨member, own⟩ := List.mem_filter.mp here
    have enters := entered_own earlier readable member entered
    rw [of_decide_eq_true own] at enters
    obtain ⟨userIdx, front, select, later, shown, authenticated, split, reads, -, order, written⟩ :=
      todolist_shows served readable gets replied ok
    -- the one user of the token posted the row and asks for the list
    have same : row.userIdx = userIdx := by
      obtain ⟨first, firstKnown, firstIdx⟩ :=
        (enters.2.1.append after).known served readable posterToken
      obtain ⟨second, secondKnown, secondIdx⟩ := authenticated.known served readable readerToken
      rw [← firstIdx, ← secondIdx, one first firstKnown second secondKnown]
    have inFront : before <+: front := prefix_of_absent split reads absent
    refine ⟨row, shown, enters, order.mem_iff.mpr ?_, written⟩
    apply List.mem_map_of_mem
    apply List.mem_filter.mpr
    refine ⟨?_, decide_eq_true same⟩
    exact List.mem_filterMap.mpr ⟨step, inFront.subset member, entered⟩
  · have differ : ∀ body ∈ [statusBody "ERROR", ascii "server error", ascii "missing parameters"],
        body ≠ statusBody "OK" := by decide
    simp only [unentered, List.mem_cons, List.not_mem_nil, or_false] at refused
    rcases refused with rfl | rfl | rfl <;> exact absurd told (differ _ (by simp [statusReply,
      serverError, missingReply]))

/-- What is behind a list of texts that a row is among. -/
theorem text_listed {rows : List Row} {row : Todo} {body : Bytes} (listed : todolistRow row ∈ rows)
    (written : writeList todoRow rows = .ok body) : ∃ texts,
      body = ascii "[" ++ separated false texts ++ ascii "]" ∧
        todoText row.deadline row.detail ∈ texts := by
  obtain ⟨texts, each, same⟩ := writeList_ok written
  refine ⟨texts, same, ?_⟩
  clear same written
  induction each with
  | nil => cases listed
  | @cons first text _ _ printed _ ih =>
      rcases List.mem_cons.mp listed with rfl | later
      · rw [todolistRow, todoRow_some] at printed
        rw [← (sprintf_ok printed).2]
        exact List.mem_cons_self ..
      · exact List.mem_cons_of_mem _ (ih later)

/-- What one client posts to its todo list, and is told is entered, is in the list of any client who
later asks with the same token, whatever else the server is sent in the meantime: as the database
stores the posted deadline and detail, they are printed into the body of the response. -/
theorem todo_delivered {pairs asking : List (Bytes × Bytes)} {posted asked : Bytes}
    (served : SocketsServed junk fuel mysql sockets .start (before ++ after) threads s)
    (readable : ∀ thread, (socketJobs junk fuel sockets thread).Readable)
    (post : Posts (ascii "/todolist") pairs posted) (get : Gets (ascii "/todolist") asking asked)
    (noNul : ∀ pair ∈ pairs ++ asking, (0 : UInt8) ∉ pair.1 ∧ (0 : UInt8) ∉ pair.2)
    (d : Delivery posted) (e : Delivery asked) (posterSocket : sockets poster = d.stream)
    (readerSocket : sockets reader = e.stream) {token deadline detail : Bytes}
    (sent : ∀ entry ∈ [(ascii "token", token), (ascii "deadline", deadline),
      (ascii "detail", detail)], pairs.find? (fun pair => pair.1 = entry.1) = some entry)
    (asks : asking.find? (fun pair => pair.1 = ascii "token") = some (ascii "token", token))
    (one : ∀ first ∈ s.tables.usersByToken mysql.same token,
      ∀ second ∈ s.tables.usersByToken mysql.same token, first = second)
    {accepted reply : Reply} (entered : accepted ∈ replies (eventsOf poster before))
    (told : accepted.body = statusBody "OK") (absent : eventsOf reader before = [])
    (replied : reply ∈ replies (eventsOf reader (before ++ after))) (ok : reply.statusCode = 200) :
    ∃ storedDeadline storedDetail texts, mysql.date deadline = some storedDeadline ∧
      mysql.store 256 detail = some storedDetail ∧ todoText storedDeadline storedDetail ∈ texts ∧
        reply.text = .ok (messageText reply.httpVersion (ascii "200") reply.statusMsg
          [contentLength reply.body] (ascii "[" ++ separated false texts ++ ascii "]")) := by
  rw [List.forall_mem_append] at noNul
  obtain ⟨postReq, posterJob, posterPairs⟩ := post.job noNul.1 junk fuel d
  obtain ⟨getReq, readerJob, readerPairs⟩ := get.job noNul.2 junk fuel e
  rw [← posterSocket] at posterJob
  rw [← readerSocket] at readerJob
  have postJob : socketJobs junk fuel sockets poster = ⟨.postTodolist, postReq⟩ := by
    rw [socketJobs, posterJob]
    rfl
  have getJob : socketJobs junk fuel sockets reader = ⟨.getTodolist, getReq⟩ := by
    rw [socketJobs, readerJob]
    rfl
  have found : ∀ entry ∈ [(ascii "token", token), (ascii "deadline", deadline),
      (ascii "detail", detail)], findValue postReq.parameter entry.1 = .ok (some entry.2) := by
    intro entry member
    rw [posterPairs, findValue_entries, sent entry member]
    rfl
  have asked : findValue getReq.parameter (ascii "token") = .ok (some token) := by
    rw [readerPairs, findValue_entries, asks]
    rfl
  obtain ⟨left, handlers, -⟩ := served.handlers
  rw [List.filter_append] at handlers
  have posterServed : socketJob junk fuel (sockets poster) ≠ none := by simp [posterJob]
  have readerServed : socketJob junk fuel (sockets reader) ≠ none := by simp [readerJob]
  obtain ⟨row, rows, enters, listed, written⟩ := row_shown handlers readable
    (by rw [postJob]) (by rw [getJob])
    (by rw [postJob]; exact found (ascii "token", token) (by simp))
    (by rw [getJob]; exact asked) one
    (by rw [replies_handled posterServed]; exact entered) told
    (by rw [eventsOf_handled readerServed, absent, List.filter_nil])
    (by rw [← List.filter_append, replies_handled readerServed]; exact replied) ok
  obtain ⟨-, -, otherDeadline, otherDetail, deadlineFound, detailFound, dated, stored⟩ := enters
  rw [postJob] at deadlineFound detailFound
  cases (found (ascii "deadline", deadline) (by simp)).symm.trans deadlineFound
  cases (found (ascii "detail", detail) (by simp)).symm.trans detailFound
  obtain ⟨texts, shape, member⟩ := text_listed listed written
  refine ⟨row.deadline, row.detail, texts, dated, stored, member, ?_⟩
  rw [text_ok, ok, ← shape]
  rfl

end Runs

section Samples

def encoded (pairs : List (Bytes × Bytes)) : List (Bytes × Bytes) :=
  pairs.map fun pair => (percentEncode pair.1, percentEncode pair.2)

theorem encoded_spelled (pairs : List (Bytes × Bytes)) : Spelled pairs (encoded pairs) := by
  unfold Spelled encoded
  rw [List.forall₂_map_right_iff]
  exact List.forall₂_same.mpr fun pair _ =>
    ⟨spells_percentEncode pair.1, spells_percentEncode pair.2⟩

/-- A `GET` of a path, with pairs in its target. -/
def getMessage (path : String) (pairs : List (Bytes × Bytes)) : Bytes :=
  messageText (ascii "GET") (ascii path ++ chr '?' :: queryText (encoded pairs)) (ascii "HTTP/1.1")
    [] []

/-- A `POST` to a path, with pairs in its body. -/
def postMessage (path : String) (pairs : List (Bytes × Bytes)) : Bytes :=
  messageText (ascii "POST") (ascii path) (ascii "HTTP/1.1")
    [formType, lengthLine (queryText (encoded pairs))] (queryText (encoded pairs))

def signupPairs : List (Bytes × Bytes) :=
  [(ascii "ID", ascii "i"), (ascii "password", ascii "p"), (ascii "name", ascii "n")]

def loginPairs : List (Bytes × Bytes) := [(ascii "ID", ascii "i"), (ascii "password", ascii "p")]

def entryPairs : List (Bytes × Bytes) :=
  [(ascii "token", tokenOn 1), (ascii "deadline", ascii "2018-06-12"), (ascii "detail", ascii "d")]

def listPairs : List (Bytes × Bytes) := [(ascii "token", tokenOn 1)]

theorem getMessage_gets {path : String} {pairs : List (Bytes × Bytes)}
    (input : RequestInput (ascii path) (ascii "HTTP/1.1") [])
    (short : (getMessage path pairs).length < 2 ^ 29) :
    Gets (ascii path) pairs (getMessage path pairs) :=
  .intro rfl input (encoded_spelled pairs) short

theorem postMessage_posts {path : String} {pairs : List (Bytes × Bytes)}
    (input : RequestInput (ascii path) (ascii "HTTP/1.1") [])
    (short : (postMessage path pairs).length < 2 ^ 29) :
    Posts (ascii path) pairs (postMessage path pairs) :=
  .intro rfl input (encoded_spelled pairs) (.refl _) short

theorem plain_input {path : Bytes} (noCr : chr '\r' ∉ path) (noNul : (0 : UInt8) ∉ path)
    (noEnd : endChar ∉ path) (noSpace : chr ' ' ∉ path) (noMark : chr '?' ∉ path) :
    RequestInput path (ascii "HTTP/1.1") [] :=
  ⟨.of_noCr noCr noNul noEnd, noSpace, noMark, .of_noCr (by decide) (by decide) (by decide),
    by simp, by simp, by simp⟩

theorem todolist_input : RequestInput (ascii "/todolist") (ascii "HTTP/1.1") [] :=
  plain_input (by decide) (by decide) (by decide) (by decide) (by decide)

/-- A user signs up, logs in, posts an entry and asks for the list. -/
def todoMessages : Nat → Bytes
  | 0 => getMessage "/signup" signupPairs
  | 1 => getMessage "/login" loginPairs
  | 2 => postMessage "/todolist" entryPairs
  | _ => getMessage "/todolist" listPairs

theorem todoMessages_fit (thread : Nat) :
    todoMessages thread ≠ [] ∧ (todoMessages thread).length ≤ bufSize := by
  match thread with
  | 0 => decide +kernel
  | 1 => decide +kernel
  | 2 => decide +kernel
  | _ + 3 => exact show getMessage "/todolist" listPairs ≠ [] ∧
      (getMessage "/todolist" listPairs).length ≤ bufSize by decide +kernel

def todoDelivery (thread : Nat) : Delivery (todoMessages thread) :=
  .single (todoMessages thread) (todoMessages_fit thread).1 (todoMessages_fit thread).2

def todoSockets (thread : Nat) : Stream := (todoDelivery thread).stream

def getRequest (path : String) (pairs : List (Bytes × Bytes)) : Request :=
  ⟨ascii "GET", ascii path ++ chr '?' :: queryText (encoded pairs), ascii "HTTP/1.1", [], none,
    pairs.map Node.entry⟩

def todoRequests : Nat → Request
  | 0 => getRequest "/signup" signupPairs
  | 1 => getRequest "/login" loginPairs
  | 2 => ⟨ascii "POST", ascii "/todolist", ascii "HTTP/1.1",
      [formType, lengthLine (queryText (encoded entryPairs))].map lineNode,
      some (queryText (encoded entryPairs)), entryPairs.map Node.entry⟩
  | _ => getRequest "/todolist" listPairs

theorem getMessage_parsed {path : String} {pairs : List (Bytes × Bytes)}
    (input : RequestInput (ascii path) (ascii "HTTP/1.1") [])
    (noNul : ∀ pair ∈ pairs, (0 : UInt8) ∉ pair.1 ∧ (0 : UInt8) ∉ pair.2)
    (short : (getMessage path pairs).length < 2 ^ 29) :
    (parseRequest textReader none 0 ⟨getMessage path pairs, false⟩).1 =
      .ok (some (getRequest path pairs)) := by
  have read := parseRequest_get (encoded_spelled pairs) noNul input none 0
    (show isGet (ascii "GET") = true from rfl) short false
  rw [getMessage, read]
  rfl

theorem todoSockets_parsed (thread : Nat) :
    (parseRequest Stream.reader none 0 (todoSockets thread)).1 =
      .ok (some (todoRequests thread)) := by
  rw [todoSockets, (parseRequest_delivers (todoDelivery thread) none 0).1]
  have small : (todoMessages thread).length < 2 ^ 29 :=
    Nat.lt_of_le_of_lt (todoMessages_fit thread).2 (by decide)
  match thread with
  | 0 => exact getMessage_parsed (plain_input (by decide) (by decide) (by decide) (by decide)
      (by decide)) (by decide) small
  | 1 => exact getMessage_parsed (plain_input (by decide) (by decide) (by decide) (by decide)
      (by decide)) (by decide) small
  | 2 =>
      have read := parseRequest_post (encoded_spelled entryPairs) (by decide +kernel)
        todolist_input none 0 (show isPost (ascii "POST") = true from rfl) (.refl _) small false
      exact congrArg Prod.fst read
  | _ + 3 => exact getMessage_parsed todolist_input (by decide +kernel) small

def todoThreads (thread : Nat) : Prog Unit := httpThread (todoRequests thread)

theorem todoThreads_eq : (fun thread => serveSocket none 0 (todoSockets thread)) = todoThreads := by
  funext thread
  rw [serveSocket, todoSockets_parsed thread]
  rfl

/-- The requests up to the entry, and the one that asks for it. -/
def entryOrder : List Nat := List.replicate 6 0 ++ List.replicate 56 1 ++ List.replicate 6 2

def listOrder : List Nat := List.replicate 6 3

def entryReply : Reply := statusReply (todoRequests 2) "OK"

def listReply : Reply :=
  ⟨200, ascii "OK", ascii "HTTP/1.1", ascii "[\x7b\"deadline\":2018-06-12,\"detail\":\"d\"\x7d]"⟩

theorem todo_scheduled :
    ((Interaction.schedule (Mysql.strict.world []) entryOrder todoThreads .start).bind fun first =>
      (Interaction.schedule (Mysql.strict.world []) listOrder first.2.1 first.2.2).map fun second =>
        (replies (eventsOf 2 first.1), (eventsOf 3 first.1).length, replies (eventsOf 3 second.1),
          (second.2.2.tables.usersByToken Mysql.strict.same (tokenOn 1)).length)) =
      some ([entryReply], 0, [listReply], 1) := by
  decide +kernel

theorem job_of_routed {socket : Stream} {req : Request} {handler : Handler}
    (parsed : (parseRequest Stream.reader none 0 socket).1 = .ok (some req))
    (routed : route req.method req.path = .handler handler) :
    (socketJob none 0 socket).getD idleJob = ⟨handler, req⟩ := by
  rw [socketJob_routed parsed routed]
  rfl

theorem todoSockets_readable (thread : Nat) :
    (socketJobs none 0 todoSockets thread).Readable := by
  have parsed := todoSockets_parsed thread
  rw [socketJobs]
  match thread with
  | 0 =>
      rw [job_of_routed parsed (show _ = Route.handler .signup from rfl)]
      exact show Handler.signup.Readable (todoRequests 0) by decide +kernel
  | 1 =>
      rw [job_of_routed parsed (show _ = Route.handler .login from rfl)]
      exact show Handler.login.Readable (todoRequests 1) by decide +kernel
  | 2 =>
      rw [job_of_routed parsed (show _ = Route.handler .postTodolist from rfl)]
      exact show Handler.postTodolist.Readable (todoRequests 2) by decide +kernel
  | _ + 3 =>
      rw [job_of_routed parsed (show _ = Route.handler .getTodolist from rfl)]
      exact show Handler.getTodolist.Readable (getRequest "/todolist" listPairs) by decide +kernel

/-- The entry is in the list that is sent. -/
theorem todo_delivered_sample : ∃ before after threads s,
    SocketsServed none 0 .strict todoSockets .start (before ++ after) threads s ∧
      listReply ∈ replies (eventsOf 3 (before ++ after)) ∧
        ∃ storedDeadline storedDetail texts,
          Mysql.strict.date (ascii "2018-06-12") = some storedDeadline ∧
            Mysql.strict.store 256 (ascii "d") = some storedDetail ∧
              todoText storedDeadline storedDetail ∈ texts ∧
                listReply.text = .ok (messageText (ascii "HTTP/1.1") (ascii "200") (ascii "OK")
                  [contentLength listReply.body]
                  (ascii "[" ++ separated false texts ++ ascii "]")) := by
  obtain ⟨⟨before, middle, t⟩, first, rest⟩ := Option.bind_eq_some_iff.mp todo_scheduled
  obtain ⟨⟨after, threads, s⟩, second, same⟩ := Option.map_eq_some_iff.mp rest
  simp only [Prod.mk.injEq] at same
  obtain ⟨entered, absent, listed, one⟩ := same
  have starts : Interleaved Mysql.strict.Answers todoThreads .start [] todoThreads .start := .nil
  have earlier := Interaction.schedule_interleaved (Mysql.strict.world_follows []) starts first
  have whole := Interaction.schedule_interleaved (Mysql.strict.world_follows []) earlier second
  rw [List.nil_append, ← todoThreads_eq] at whole
  have absent := List.length_eq_zero_iff.mp absent
  have replied : listReply ∈ replies (eventsOf 3 (before ++ after)) := by
    rw [Interaction.eventsOf_append, absent, List.nil_append, listed]
    exact List.mem_singleton_self _
  have entry : entryReply ∈ replies (eventsOf 2 before) := by
    rw [entered]
    exact List.mem_singleton_self _
  obtain ⟨user, only⟩ := List.length_eq_one_iff.mp one
  have unique : ∀ first ∈ s.tables.usersByToken Mysql.strict.same (tokenOn 1),
      ∀ second ∈ s.tables.usersByToken Mysql.strict.same (tokenOn 1), first = second := by
    rw [only]
    simp
  exact ⟨before, after, threads, s, whole, replied, todo_delivered whole todoSockets_readable
    (postMessage_posts todolist_input (by decide +kernel))
    (getMessage_gets todolist_input (by decide +kernel)) (by decide +kernel) (todoDelivery 2)
    (todoDelivery 3) rfl rfl
    (show ∀ entry ∈ [(ascii "token", tokenOn 1), (ascii "deadline", ascii "2018-06-12"),
      (ascii "detail", ascii "d")], entryPairs.find? (fun pair => pair.1 = entry.1) = some entry by
      decide +kernel)
    (by decide +kernel) unique entry rfl absent replied rfl⟩

end Samples

end Ttac
