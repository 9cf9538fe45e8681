import Ttac.Request
import Ttac.Queries
import Ttac.Lib.Program

set_option autoImplicit false

/- The request handlers of `ttac.c`, as programs that call the database, the list of
locations, the clock and the random numbers, and send replies. What is printed to the
log and the release of memory are left out. -/
namespace Ttac

open Interaction (Program)
open Sql (Piece)

/-- A row of a result; a column may be `NULL`. -/
abbrev Row := List (Option Bytes)

/-- The arguments of `response`, whose header list is always `NULL` here. -/
structure Reply where
  statusCode : Int
  statusMsg : Bytes
  httpVersion : Bytes
  body : Bytes
  deriving DecidableEq, Repr

structure Tm where
  year : Int
  mon : Int
  mday : Int
  hour : Int
  min : Int
  sec : Int

/-- `mysqlQuery` is `sprintf` into a `char query[capacity]` with `mysql_query` and
`mysql_store_result` behind it. `pushLocation` and `popLocation` are the two functions
that hold `list_mutex`. -/
inductive Call where
  | connectionPop
  | connectionPush (connection : Nat)
  | mysqlQuery (connection capacity : Nat) (pieces : List Piece)
  | mysqlCommit (connection : Nat)
  | mysqlError (connection : Nat)
  | response (reply : Reply)
  | pushLocation (userId latitude longitude : Bytes)
  | popLocation (userId : Bytes)
  | rand
  | localtime
  | close

/-- The answer to a query is `none` when `query_stat!=0`. -/
def Answer : Call → Type
  | .connectionPop => Nat
  | .mysqlQuery _ _ _ => Option (List Row)
  | .popLocation _ => Option Bytes
  | .rand => Nat
  | .localtime => Tm
  | _ => Unit

abbrev Prog (α : Type) : Type := Program Call Answer Fault α

def invoke (call : Call) : Prog (Answer call) := Program.perform call

def connectionPop : Prog Nat := invoke .connectionPop

def connectionPush (connection : Nat) : Prog Unit := invoke (.connectionPush connection)

def mysqlQuery (connection capacity : Nat) (pieces : List Piece) : Prog (Option (List Row)) :=
  invoke (.mysqlQuery connection capacity pieces)

def mysqlCommit (connection : Nat) : Prog Unit := invoke (.mysqlCommit connection)

def mysqlError (connection : Nat) : Prog Unit := invoke (.mysqlError connection)

def pushLocation (userId latitude longitude : Bytes) : Prog Unit :=
  invoke (.pushLocation userId latitude longitude)

def popLocation (userId : Bytes) : Prog (Option Bytes) := invoke (.popLocation userId)

def rand : Prog Nat := invoke .rand

def localtime : Prog Tm := invoke .localtime

def close : Prog Unit := invoke .close

section Calls

variable {α : Type} {P : Call → Prop} {next : Unit → Prog α}

@[simp] theorem always_connectionPop {next : Nat → Prog α} :
    (connectionPop >>= next).Always P ↔ P .connectionPop ∧ ∀ c, (next c).Always P := Iff.rfl

@[simp] theorem always_mysqlQuery {connection capacity : Nat} {pieces : List Piece}
    {next : Option (List Row) → Prog α} :
    (mysqlQuery connection capacity pieces >>= next).Always P ↔
      P (.mysqlQuery connection capacity pieces) ∧ ∀ rows, (next rows).Always P := Iff.rfl

@[simp] theorem always_connectionPush {connection : Nat} :
    (connectionPush connection >>= next).Always P ↔
      P (.connectionPush connection) ∧ (next ()).Always P :=
  and_congr_right fun _ => ⟨fun always => always (), fun always _ => always⟩

@[simp] theorem always_mysqlCommit {connection : Nat} :
    (mysqlCommit connection >>= next).Always P ↔
      P (.mysqlCommit connection) ∧ (next ()).Always P :=
  and_congr_right fun _ => ⟨fun always => always (), fun always _ => always⟩

@[simp] theorem always_mysqlError {connection : Nat} :
    (mysqlError connection >>= next).Always P ↔
      P (.mysqlError connection) ∧ (next ()).Always P :=
  and_congr_right fun _ => ⟨fun always => always (), fun always _ => always⟩

@[simp] theorem always_pushLocation {userId latitude longitude : Bytes} :
    (pushLocation userId latitude longitude >>= next).Always P ↔
      P (.pushLocation userId latitude longitude) ∧ (next ()).Always P :=
  and_congr_right fun _ => ⟨fun always => always (), fun always _ => always⟩

@[simp] theorem always_rand {next : Nat → Prog α} :
    (rand >>= next).Always P ↔ P .rand ∧ ∀ r, (next r).Always P := Iff.rfl

@[simp] theorem always_localtime {next : Tm → Prog α} :
    (localtime >>= next).Always P ↔ P .localtime ∧ ∀ tm, (next tm).Always P := Iff.rfl

@[simp] theorem always_popLocation {userId : Bytes} {next : Option Bytes → Prog α} :
    (popLocation userId >>= next).Always P ↔
      P (.popLocation userId) ∧ ∀ location, (next location).Always P := Iff.rfl

end Calls

/-- `sprintf` into an array. -/
def sprintf (capacity : Nat) (text : Bytes) : Except Fault Bytes :=
  if capacity ≤ text.length then .error (.bufferOverflow capacity) else .ok text

theorem sprintf_ok {capacity : Nat} {text written : Bytes}
    (ok : sprintf capacity text = .ok written) : text.length < capacity ∧ written = text := by
  unfold sprintf at ok
  split at ok
  · cases ok
  · cases ok
    exact ⟨by omega, rfl⟩

/-- `sql_row[i]`, which may be `NULL`. -/
def cell (row : Option Row) (i : Nat) : Except Fault (Option Bytes) :=
  match row with
  | none => .error .nullPointer
  | some row =>
    match row[i]? with
    | none => .error (.outOfBounds i)
    | some value => .ok value

/-- `sql_row[i]` where it is read as a string. -/
def column (row : Option Row) (i : Nat) : Except Fault Bytes := do
  match ← cell row i with
  | none => .error .nullPointer
  | some value => .ok value

def findParameter (req : Request) (key : String) : Prog (Option Bytes) :=
  Program.lift (findValue req.parameter (ascii key))

def respond (req : Request) (statusCode : Int) (statusMsg : String) (body : Bytes) : Prog Unit :=
  invoke (.response ⟨statusCode, ascii statusMsg, req.version, body⟩)

def missingParameters (req : Request) : Prog Unit :=
  respond req 500 "Internal Server Error" (ascii "missing parameters")

def serverErrer (req : Request) (connection : Nat) : Prog Unit := do
  mysqlError connection
  respond req 500 "Internal Server Error" (ascii "server error")

def statusBody (status : String) : Bytes :=
  ascii "\x7b\"status\":\"" ++ ascii status ++ ascii "\"\x7d"

/-- `getUserIdx`: the first row is used without a test whether there is one. -/
def getUserIdx (conn : Nat) (token : Bytes) : Prog Int := do
  match ← mysqlQuery conn 256 (userQuery token) with
  | none => pure (-1)
  | some rows => do
    let idx ← Program.lift (column rows.head? 0)
    pure (atoi idx)

def getUserIdxByID (conn : Nat) (ID : Bytes) : Prog Int := do
  match ← mysqlQuery conn 256 (userByIDQuery ID) with
  | none => pure (-1)
  | some [] => pure (-1)
  | some (row :: _) => do
    let idx ← Program.lift (column (some row) 0)
    pure (atoi idx)

def attendanceCheck (conn : Nat) (userIdx groupIdx : Int) : Prog Unit := do
  let _ ← mysqlQuery conn 256 (attendanceQuery userIdx groupIdx)
  pure ()

/-- `idx`: a letter or a digit for a number below 62. -/
def tokenChar (p : Nat) : UInt8 :=
  if p < 26 then UInt8.ofNat ((chr 'a').toNat + p)
  else if p < 52 then UInt8.ofNat ((chr 'A').toNat + p - 26)
  else UInt8.ofNat ((chr '0').toNat + p - 52)

/-- `create_token`, for the bytes that are left. -/
def createToken : Nat → Prog Bytes
  | 0 => pure []
  | left + 1 => do
    let r ← rand
    let rest ← createToken left
    pure (tokenChar (r % 62) :: rest)

theorem createToken_always {P : Call → Prop} (drawing : P .rand) (left : Nat) :
    (createToken left).Always P := by
  induction left with
  | zero => trivial
  | succ left ih =>
      rw [createToken, always_rand]
      exact ⟨drawing, fun r => Program.Always.bind ih fun token => trivial⟩

def nowText (tm : Tm) : Bytes :=
  decimalInt (tm.year + 1900) ++ ascii "-" ++ decimalInt (tm.mon + 1) ++ ascii "-" ++
    decimalInt tm.mday ++ ascii " " ++ decimalInt tm.hour ++ ascii ":" ++ decimalInt tm.min ++
    ascii ":" ++ decimalInt tm.sec

def getNow : Prog Bytes := do
  let tm ← localtime
  Program.lift (sprintf 200 (nowText tm))

@[simp] theorem always_getNow {α : Type} {P : Call → Prop} {next : Bytes → Prog α} :
    (getNow >>= next).Always P ↔ P .localtime ∧
      ∀ tm now, sprintf 200 (nowText tm) = .ok now → (next now).Always P := by
  rw [getNow, Program.bind_bind]
  simp only [always_localtime, Program.always_lift_bind]

def signup (req : Request) : Prog Unit := do
  let some ID ← findParameter req "ID" | missingParameters req
  let some password ← findParameter req "password" | missingParameters req
  let some name ← findParameter req "name" | missingParameters req
  let connection ← connectionPop
  match ← mysqlQuery connection 256 (signupQuery name ID password) with
  | none => do
    let body ← Program.lift (sprintf 256 (statusBody "ERROR"))
    respond req 200 "OK" body
  | some _ => do
    mysqlCommit connection
    connectionPush connection
    let body ← Program.lift (sprintf 256 (statusBody "OK"))
    respond req 200 "OK" body

def loginBody (status : String) (token name : Bytes) : Bytes :=
  ascii "\x7b\"status\":\"" ++ ascii status ++ ascii "\",\"token\":\"" ++ token ++
    ascii "\",\"name\":\"" ++ name ++ ascii "\"\x7d"

def login (req : Request) : Prog Unit := do
  let some ID ← findParameter req "ID" | missingParameters req
  let some password ← findParameter req "password" | missingParameters req
  let connection ← connectionPop
  match ← mysqlQuery connection 256 (loginQuery ID) with
  | none => serverErrer req connection
  | some rows => do
    let stored ← Program.lift (column rows.head? 0)
    if stored = password then do
      let token ← createToken 50
      let idx ← Program.lift (column rows.head? 2)
      match ← mysqlQuery connection 256 (tokenQuery token (atoi idx)) with
      | none => serverErrer req connection
      | some _ => do
        let name ← Program.lift (column rows.head? 1)
        let name ← Program.lift (sprintf 26 name)
        connectionPush connection
        let body ← Program.lift (sprintf 256 (loginBody "OK" token name))
        respond req 200 "OK" body
    else do
      connectionPush connection
      let body ← Program.lift (sprintf 256 (loginBody "ERROR" [] []))
      respond req 200 "OK" body

def createGroup (req : Request) : Prog Unit := do
  let some name ← findParameter req "name" | missingParameters req
  let some token ← findParameter req "token" | missingParameters req
  let connection ← connectionPop
  let idx ← getUserIdx connection token
  if idx = -1 then serverErrer req connection
  else do
    match ← mysqlQuery connection 256 (createGroupQuery name idx) with
    | none => serverErrer req connection
    | some _ => do
      match ← mysqlQuery connection 256 lastInsertQuery with
      | none => serverErrer req connection
      | some rows => do
        let groupIdx ← Program.lift (column rows.head? 0)
        match ← mysqlQuery connection 256 (ownJoinQuery idx (atoi groupIdx)) with
        | none => serverErrer req connection
        | some _ => do
          mysqlCommit connection
          connectionPush connection
          let body ← Program.lift (sprintf 256 (statusBody "OK"))
          respond req 200 "OK" body

/-- The loop over the rows of a result: `tmp` for each, with a comma in front of all but
the first. -/
def writeRows (tmp : Row → Except Fault Bytes) (flag : Bool) (s : Bytes) :
    List Row → Except Fault Bytes
  | [] => .ok s
  | sqlRow :: rest => do
    let s := if flag then s ++ ascii "," else s
    let text ← tmp sqlRow
    writeRows tmp true (s ++ text) rest

def writeList (tmp : Row → Except Fault Bytes) (rows : List Row) : Except Fault Bytes := do
  let s ← writeRows tmp false (ascii "[") rows
  pure (s ++ ascii "]")

/-- The part the three handlers that answer with a list share. -/
def respondRows (req : Request) (connection capacity : Nat) (query : List Piece)
    (tmp : Row → Except Fault Bytes) : Prog Unit := do
  match ← mysqlQuery connection capacity query with
  | none => serverErrer req connection
  | some rows => do
    let body ← Program.lift (writeList tmp rows)
    connectionPush connection
    respond req 200 "OK" body

def groupRow (sqlRow : Row) : Except Fault Bytes := do
  let id ← column (some sqlRow) 0
  let name ← column (some sqlRow) 1
  let owner ← column (some sqlRow) 2
  sprintf 100 (ascii "\x7b\"id\":" ++ id ++ ascii ",\"name\":\"" ++ name ++
    ascii "\",\"owner\":\"" ++ owner ++ ascii "\"\x7d")

def groupList (req : Request) : Prog Unit := do
  let some token ← findParameter req "token" | missingParameters req
  let connection ← connectionPop
  let idx ← getUserIdx connection token
  if idx = -1 then serverErrer req connection
  else respondRows req connection 256 (groupListQuery idx) groupRow

/-- `join_group`, whose connection is never pushed back. -/
def joinGroup (req : Request) : Prog Unit := do
  let token ← findParameter req "token"
  let groupId ← findParameter req "group_id"
  let ID ← findParameter req "ID"
  match token, groupId, ID with
  | some token, some groupId, some ID => do
    let connection ← connectionPop
    let idx ← getUserIdx connection token
    let useridx ← getUserIdxByID connection ID
    if idx = -1 then serverErrer req connection
    else if useridx = -1 then do
      let body ← Program.lift (sprintf 50 (statusBody "NONE"))
      respond req 200 "OK" body
    else do
      match ← mysqlQuery connection 256 (ownerQuery idx groupId) with
      | none => serverErrer req connection
      | some [] => do
        let body ← Program.lift (sprintf 50 (statusBody "ERROR"))
        respond req 200 "OK" body
      | some (_ :: _) => do
        match ← mysqlQuery connection 256 (joinGroupQuery useridx groupId) with
        | none => serverErrer req connection
        | some _ => do
          let body ← Program.lift (sprintf 50 (statusBody "OK"))
          respond req 200 "OK" body
  | _, _, _ => missingParameters req

def todoRow (sqlRow : Row) : Except Fault Bytes := do
  let deadline ← column (some sqlRow) 0
  let detail ← column (some sqlRow) 1
  sprintf 100 (ascii "\x7b\"deadline\":" ++ deadline ++ ascii ",\"detail\":\"" ++ detail ++
    ascii "\"\x7d")

def getTodolist (req : Request) : Prog Unit := do
  let some token ← findParameter req "token" | missingParameters req
  let connection ← connectionPop
  let idx ← getUserIdx connection token
  if idx = -1 then serverErrer req connection
  else respondRows req connection 256 (todolistQuery idx) todoRow

def postTodolist (req : Request) : Prog Unit := do
  let token ← findParameter req "token"
  let deadline ← findParameter req "deadline"
  let detail ← findParameter req "detail"
  match token, deadline, detail with
  | some token, some deadline, some detail => do
    let connection ← connectionPop
    let idx ← getUserIdx connection token
    if idx = -1 then serverErrer req connection
    else do
      match ← mysqlQuery connection 256 (todoQuery idx deadline detail) with
      | none => do
        mysqlError connection
        let body ← Program.lift (sprintf 256 (statusBody "ERROR"))
        connectionPush connection
        respond req 200 "OK" body
      | some _ => do
        let body ← Program.lift (sprintf 256 (statusBody "OK"))
        connectionPush connection
        respond req 200 "OK" body
  | _, _, _ => missingParameters req

def numberBody (number : Bytes) : Bytes :=
  ascii "\x7b\"number\":" ++ number ++ ascii "\x7d"

theorem numberBody_length (number : Bytes) : (numberBody number).length = 11 + number.length := by
  have first : (ascii "\x7b\"number\":").length = 10 := rfl
  have last : (ascii "\x7d").length = 1 := rfl
  simp only [numberBody, List.length_append, first, last]
  omega

def getProgress (req : Request) : Prog Unit := do
  let some token ← findParameter req "token" | missingParameters req
  let connection ← connectionPop
  let idx ← getUserIdx connection token
  if idx = -1 then serverErrer req connection
  else do
    match ← mysqlQuery connection 256 (progressQuery idx) with
    | none => serverErrer req connection
    | some rows => do
      let number ← match rows with
        | [] => pure (ascii "0")
        | sqlRow :: _ => Program.lift (column (some sqlRow) 0)
      let body ← Program.lift (sprintf 256 (numberBody number))
      connectionPush connection
      respond req 200 "OK" body

def postProgress (req : Request) : Prog Unit := do
  let token ← findParameter req "token"
  let number ← findParameter req "number"
  match token, number with
  | some token, some number => do
    let connection ← connectionPop
    let idx ← getUserIdx connection token
    if idx = -1 then serverErrer req connection
    else do
      match ← mysqlQuery connection 256 (progressQuery idx) with
      | none => serverErrer req connection
      | some rows => do
        let query := match rows with
          | _ :: _ => updateProgressQuery number idx
          | [] => insertProgressQuery idx number
        let status := match ← mysqlQuery connection 256 query with
          | none => "ERROR"
          | some _ => "OK"
        let body ← Program.lift (sprintf 256 (statusBody status))
        connectionPush connection
        respond req 200 "OK" body
  | _, _ => missingParameters req

def chatBody (latest : Int) : Bytes :=
  ascii "\x7b\"status\":\"OK\",\"latest\":" ++ decimalInt latest ++ ascii "\x7d"

def createChat (req : Request) : Prog Unit := do
  let token ← findParameter req "token"
  let groupId ← findParameter req "group_id"
  let content ← findParameter req "content"
  match token, groupId, content with
  | some token, some groupId, some content => do
    let connection ← connectionPop
    let idx ← getUserIdx connection token
    if idx = -1 then serverErrer req connection
    else do
      attendanceCheck connection idx (atoi groupId)
      match ← mysqlQuery connection 2000 (latestChatQuery groupId) with
      | none => serverErrer req connection
      | some rows => do
        -- `MAX` over no rows is one row with `NULL`
        let latest := match ← Program.lift (cell rows.head? 0) with
          | none => -1
          | some latest => atoi latest
        let now ← getNow
        match ← mysqlQuery connection 2000 (chatQuery idx groupId content now) with
        | none => serverErrer req connection
        | some _ => do
          let body ← Program.lift (sprintf 256 (chatBody latest))
          connectionPush connection
          respond req 200 "OK" body
  | _, _, _ => missingParameters req

def chatRow (sqlRow : Row) : Except Fault Bytes := do
  let id ← column (some sqlRow) 0
  let userID ← column (some sqlRow) 4
  let chatType ← column (some sqlRow) 1
  let content ← column (some sqlRow) 2
  let chatTime ← column (some sqlRow) 3
  sprintf 100 (ascii "\x7b\"id\":" ++ id ++ ascii ",\"user_ID\":\"" ++ userID ++
    ascii "\",\"chat_type\":\"" ++ chatType ++ ascii "\",\"content\":\"" ++ content ++
    ascii "\",\"chat_time\":\"" ++ chatTime ++ ascii "\"\x7d")

def getChatlist (req : Request) : Prog Unit := do
  let token ← findParameter req "token"
  let groupId ← findParameter req "group_id"
  let latest ← findParameter req "latest"
  match token, groupId with
  | some token, some groupId => do
    let connection ← connectionPop
    let idx ← getUserIdx connection token
    if idx = -1 then serverErrer req connection
    else do
      attendanceCheck connection idx (atoi groupId)
      let query := match latest with
        | none => chatlistQuery groupId
        | some latest => chatlistSinceQuery groupId latest
      respondRows req connection 2000 query chatRow
  | _, _ => missingParameters req

def postLocation (req : Request) : Prog Unit := do
  let token ← findParameter req "token"
  let latitude ← findParameter req "latitude"
  let longitude ← findParameter req "longitude"
  match token, latitude, longitude with
  | some token, some latitude, some longitude => do
    let connection ← connectionPop
    let idx ← getUserIdx connection token
    let num ← Program.lift (sprintf 30 (decimalInt idx))
    pushLocation num latitude longitude
    let body ← Program.lift (sprintf 50 (statusBody "OK"))
    connectionPush connection
    respond req 200 "OK" body
  | _, _, _ => missingParameters req

def locationBody (latitude longitude : Bytes) : Bytes :=
  ascii "\x7b\"latitude\":" ++ latitude ++ ascii ",\"longitude\":" ++ longitude ++ ascii "\x7d"

/-- The body of `get_location` for what `pop_location` gave. -/
def locationReply (location : Option Bytes) : Except Fault Bytes :=
  match location with
  | none => sprintf 256 (locationBody (ascii "0.0") (ascii "0.0"))
  | some location => do
    let p := findIdx location (chr '|')
    let latitude ← strncpy location 0 p
    let longitude ← strncpy location (p + 1) (location.length - (p + 1))
    sprintf 256 (locationBody latitude longitude)

/-- `get_location`, which never looks the token up. -/
def getLocation (req : Request) : Prog Unit := do
  let token ← findParameter req "token"
  let userId ← findParameter req "user_ID"
  match token, userId with
  | some _, some userId => do
    let location ← popLocation userId
    let body ← Program.lift (locationReply location)
    respond req 200 "OK" body
  | _, _ => missingParameters req

inductive Handler where
  | login
  | signup
  | createGroup
  | groupList
  | joinGroup
  | getTodolist
  | postTodolist
  | getProgress
  | postProgress
  | createChat
  | getChatlist
  | getLocation
  | postLocation
  deriving DecidableEq, Repr

def Handler.program : Handler → Request → Prog Unit
  | .login => Ttac.login
  | .signup => Ttac.signup
  | .createGroup => Ttac.createGroup
  | .groupList => Ttac.groupList
  | .joinGroup => Ttac.joinGroup
  | .getTodolist => Ttac.getTodolist
  | .postTodolist => Ttac.postTodolist
  | .getProgress => Ttac.getProgress
  | .postProgress => Ttac.postProgress
  | .createChat => Ttac.createChat
  | .getChatlist => Ttac.getChatlist
  | .getLocation => Ttac.getLocation
  | .postLocation => Ttac.postLocation

/-- `regexec` of a pattern `^` with plain text behind it. -/
def startsWith (path : Bytes) (text : String) : Bool := (ascii text).isPrefixOf path

/-- Where a resource has one handler for each method, any other method gets `nothing`. -/
inductive Route where
  | handler (handler : Handler)
  | nothing
  | notFound
  deriving DecidableEq, Repr

def byMethod (method : Bytes) (get post : Handler) : Route :=
  if isGet method then .handler get else if isPost method then .handler post else .nothing

/-- The tests of `http_thread`, in their order. -/
def route (method path : Bytes) : Route :=
  if startsWith path "/login" then .handler .login
  else if startsWith path "/signup" then .handler .signup
  else if startsWith path "/create_group" then .handler .createGroup
  else if startsWith path "/group_list" then .handler .groupList
  else if startsWith path "/join_group" then .handler .joinGroup
  else if startsWith path "/todolist" then byMethod method .getTodolist .postTodolist
  else if startsWith path "/progress" then byMethod method .getProgress .postProgress
  else if path = ascii "/chat" then .handler .createChat
  else if startsWith path "/chatlist" then .handler .getChatlist
  else if startsWith path "/location" then byMethod method .getLocation .postLocation
  else .notFound

/-- `http_thread` behind `parse_request`. -/
def httpThread (req : Request) : Prog Unit := do
  match route req.method req.path with
  | .handler handler => handler.program req
  | .nothing => pure ()
  | .notFound => respond req 404 "Not Found" (ascii "404 Not Found")
  close

end Ttac
