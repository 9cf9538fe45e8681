import Ttac.HandlerParameters
import Ttac.Lib.History

set_option autoImplicit false

/- The histories of the handlers: the calls of a request with their answers. -/
namespace Ttac

open Interaction (Program Exchange Status)
open Interaction.Program (Meets)
open Sql (Piece)

abbrev History := List (Exchange Call Answer)

/-- A property of what a program has done and of what it does next. -/
abbrev HistorySpec (α : Type) := History → Status Call Fault α → Prop

/-- A property of the histories behind which a program returns. -/
def Returning {α : Type} (P : History → Prop) : HistorySpec α := fun events status =>
  ∀ value, status = .returned value → P events

section Returning

variable {α : Type} {P : History → Prop} {events : History}

@[simp] theorem returning_returned (value : α) :
    Returning P events (.returned value : Status Call Fault α) ↔ P events :=
  ⟨fun all => all value rfl, fun holds _ _ => holds⟩

@[simp] theorem returning_calling (op : Call) :
    Returning P events (.calling op : Status Call Fault α) := by
  intro value same
  cases same

@[simp] theorem returning_failed (fault : Fault) :
    Returning P events (.failed fault : Status Call Fault α) := by
  intro value same
  cases same

end Returning

/-- A property of each call of a program, with the history in front of it. -/
def Asks {α : Type} (P : History → Call → Prop) : HistorySpec α := fun events status =>
  ∀ op, status = .calling op → P events op

section Asks

variable {α : Type} {P : History → Call → Prop} {events : History}

@[simp] theorem asks_calling (op : Call) :
    Asks P events (.calling op : Status Call Fault α) ↔ P events op := by
  constructor
  · intro asks
    exact asks op rfl
  · intro holds other same
    cases same
    exact holds

@[simp] theorem asks_returned (value : α) :
    Asks P events (.returned value : Status Call Fault α) := by
  intro op same
  cases same

@[simp] theorem asks_failed (fault : Fault) :
    Asks P events (.failed fault : Status Call Fault α) := by
  intro op same
  cases same

/-- Calls that may be made behind any history of a kind. -/
theorem Asks.of_always {R : Call → Prop} {program : Prog α} (always : program.Always R)
    (f : History → History) (allowed : ∀ op events, R op → P (f events) op) :
    program.Meets fun events => Asks P (f events) := by
  induction program generalizing f with
  | done value => exact asks_returned value
  | fail reason => exact asks_failed reason
  | call op next ih =>
      refine ⟨(asks_calling op).mpr (allowed op [] always.1), ?_⟩
      intro answer
      apply ih answer (always.2 answer) fun events => f (⟨op, answer⟩ :: events)
      intro other events holds
      exact allowed other _ holds

/-- What a program asks for, seen behind the call. -/
theorem Asks.made {program rest : Prog α} {before after : History} {event : Exchange Call Answer}
    (meets : program.Meets (Asks P)) (runs : program.Runs (before ++ event :: after) rest) :
    P before event.op := by
  obtain ⟨next, front⟩ := runs.calling
  exact (asks_calling _).mp ((Program.meets_iff _).mp meets before _ front)

end Asks

/-- The answers to the queries, in order. -/
def outcomes : History → List (Option (List Row))
  | [] => []
  | ⟨.mysqlQuery _ _ _, outcome⟩ :: events => outcome :: outcomes events
  | _ :: events => outcomes events

section Calls

variable {α : Type} {Q : HistorySpec α} {next : Unit → Prog α}

@[simp] theorem meets_connectionPop {next : Nat → Prog α} :
    (connectionPop >>= next).Meets Q ↔ Q [] (.calling .connectionPop) ∧
      ∀ c : Nat, (next c).Meets fun events => Q (⟨.connectionPop, c⟩ :: events) := Iff.rfl

@[simp] theorem meets_mysqlQuery {connection capacity : Nat} {pieces : List Piece}
    {next : Option (List Row) → Prog α} :
    (mysqlQuery connection capacity pieces >>= next).Meets Q ↔
      Q [] (.calling (.mysqlQuery connection capacity pieces)) ∧
        ∀ outcome : Option (List Row), (next outcome).Meets fun events =>
          Q (⟨.mysqlQuery connection capacity pieces, outcome⟩ :: events) := Iff.rfl

@[simp] theorem meets_connectionPush {connection : Nat} :
    (connectionPush connection >>= next).Meets Q ↔
      Q [] (.calling (.connectionPush connection)) ∧
        (next ()).Meets fun events => Q (⟨.connectionPush connection, ()⟩ :: events) :=
  and_congr_right fun _ => ⟨fun meets => meets (), fun meets _ => meets⟩

@[simp] theorem meets_mysqlCommit {connection : Nat} :
    (mysqlCommit connection >>= next).Meets Q ↔
      Q [] (.calling (.mysqlCommit connection)) ∧
        (next ()).Meets fun events => Q (⟨.mysqlCommit connection, ()⟩ :: events) :=
  and_congr_right fun _ => ⟨fun meets => meets (), fun meets _ => meets⟩

@[simp] theorem meets_mysqlError {connection : Nat} :
    (mysqlError connection >>= next).Meets Q ↔
      Q [] (.calling (.mysqlError connection)) ∧
        (next ()).Meets fun events => Q (⟨.mysqlError connection, ()⟩ :: events) :=
  and_congr_right fun _ => ⟨fun meets => meets (), fun meets _ => meets⟩

@[simp] theorem meets_pushLocation {userId latitude longitude : Bytes} :
    (pushLocation userId latitude longitude >>= next).Meets Q ↔
      Q [] (.calling (.pushLocation userId latitude longitude)) ∧
        (next ()).Meets fun events => Q (⟨.pushLocation userId latitude longitude, ()⟩ :: events) :=
  and_congr_right fun _ => ⟨fun meets => meets (), fun meets _ => meets⟩

@[simp] theorem meets_popLocation {userId : Bytes} {next : Option Bytes → Prog α} :
    (popLocation userId >>= next).Meets Q ↔ Q [] (.calling (.popLocation userId)) ∧
      ∀ location : Option Bytes, (next location).Meets fun events =>
        Q (⟨.popLocation userId, location⟩ :: events) := Iff.rfl

@[simp] theorem meets_rand {next : Nat → Prog α} :
    (rand >>= next).Meets Q ↔ Q [] (.calling .rand) ∧
      ∀ r : Nat, (next r).Meets fun events => Q (⟨.rand, r⟩ :: events) := Iff.rfl

@[simp] theorem meets_localtime {next : Tm → Prog α} :
    (localtime >>= next).Meets Q ↔ Q [] (.calling .localtime) ∧
      ∀ tm : Tm, (next tm).Meets fun events => Q (⟨.localtime, tm⟩ :: events) := Iff.rfl

@[simp] theorem meets_respond {Q : HistorySpec Unit} {req : Request} {statusCode : Int}
    {statusMsg : String} {body : Bytes} :
    (respond req statusCode statusMsg body).Meets Q ↔
      Q [] (.calling (.response ⟨statusCode, ascii statusMsg, req.version, body⟩)) ∧
        Q [⟨.response ⟨statusCode, ascii statusMsg, req.version, body⟩, ()⟩] (.returned ()) :=
  and_congr_right fun _ => ⟨fun meets => meets (), fun meets _ => meets⟩

/-- What `atoi` reads in the first column of the first row. -/
def Reads (rows : List Row) (n : Int) : Prop :=
  ∃ text, column rows.head? 0 = .ok text ∧ atoi text = n

/-- What is left behind the query of `getUserIdx`. -/
def lookupRest (next : Int → Prog α) : Option (List Row) → Prog α
  | none => next (-1)
  | some rows => Program.lift (column rows.head? 0) >>= fun idx => next (atoi idx)

theorem getUserIdx_bind (conn : Nat) (token : Bytes) (next : Int → Prog α) :
    getUserIdx conn token >>= next = mysqlQuery conn 256 (userQuery token) >>= lookupRest next := by
  rw [getUserIdx, Program.bind_bind]
  congr 1
  funext outcome
  cases outcome with
  | none => rfl
  | some rows => exact Program.bind_bind _ _ _

/-- What is left behind the query of `getUserIdxByID`, which sees when there is no row. -/
def lookupIDRest (next : Int → Prog α) : Option (List Row) → Prog α
  | none => next (-1)
  | some [] => next (-1)
  | some (row :: _) => Program.lift (column (some row) 0) >>= fun idx => next (atoi idx)

theorem getUserIdxByID_bind (conn : Nat) (ID : Bytes) (next : Int → Prog α) :
    getUserIdxByID conn ID >>= next =
      mysqlQuery conn 256 (userByIDQuery ID) >>= lookupIDRest next := by
  rw [getUserIdxByID, Program.bind_bind]
  congr 1
  funext outcome
  cases outcome with
  | none => rfl
  | some rows =>
      cases rows with
      | nil => rfl
      | cons row rows => exact Program.bind_bind _ _ _

section Lookup

variable {F : Prog α → Prop} {next : Int → Prog α}
  (lift : ∀ (result : Except Fault Bytes) (next : Bytes → Prog α), (∀ value, F (next value)) →
    F (Program.lift result >>= next))

include lift

/-- What holds behind every number holds behind a lookup. -/
theorem lookupRest_of (later : ∀ idx, F (next idx)) (outcome : Option (List Row)) :
    F (lookupRest next outcome) := by
  cases outcome with
  | none => exact later (-1)
  | some rows => exact lift _ _ fun idx => later (atoi idx)

theorem lookupIDRest_of (later : ∀ idx, F (next idx)) (outcome : Option (List Row)) :
    F (lookupIDRest next outcome) := by
  cases outcome with
  | none => exact later (-1)
  | some rows =>
      cases rows with
      | nil => exact later (-1)
      | cons row rows => exact lift _ _ fun idx => later (atoi idx)

end Lookup

/-- What is left of `login` behind its query. -/
def loginRest (req : Request) (password : Bytes) (connection : Nat) (rows : List Row) :
    Prog Unit := do
  let stored ← Program.lift (column rows.head? 0)
  if stored = password then do
    let token ← createToken 50
    let idx ← Program.lift (column rows.head? 2)
    match ← mysqlQuery connection 256 (tokenQuery token (atoi idx)) with
    | none => serverErrer req connection
    | some _ => do
      let name ← Program.lift (column rows.head? 1)
      let name ← Program.lift (sprintf 26 name)
      connectionPush connection
      let body ← Program.lift (sprintf 256 (loginBody "OK" token name))
      respond req 200 "OK" body
  else do
    connectionPush connection
    let body ← Program.lift (sprintf 256 (loginBody "ERROR" [] []))
    respond req 200 "OK" body

theorem login_given {req : Request} {ID password : Bytes}
    (IDFound : findValue req.parameter (ascii "ID") = .ok (some ID))
    (passwordFound : findValue req.parameter (ascii "password") = .ok (some password)) :
    login req = connectionPop >>= fun connection =>
      mysqlQuery connection 256 (loginQuery ID) >>= fun outcome =>
        match outcome with
        | none => serverErrer req connection
        | some rows => loginRest req password connection rows := by
  simp only [login, findParameter, IDFound, passwordFound, Program.lift_ok_bind]
  rfl

/-- What is left of `login` behind the query that stores the token. -/
def loginStored (req : Request) (connection : Nat) (token : Bytes) (name : Option Bytes) :
    Option (List Row) → Prog Unit
  | none => serverErrer req connection
  | some _ => do
    let name ← Program.lift (column (some [name]) 0)
    let name ← Program.lift (sprintf 26 name)
    connectionPush connection
    let body ← Program.lift (sprintf 256 (loginBody "OK" token name))
    respond req 200 "OK" body

def loginRefused (req : Request) (connection : Nat) : Prog Unit := do
  connectionPush connection
  let body ← Program.lift (sprintf 256 (loginBody "ERROR" [] []))
  respond req 200 "OK" body

/-- `login` with the row of a user who has a password. -/
theorem loginRest_cons {req : Request} {password stored idx : Bytes} {name : Option Bytes}
    {connection : Nat} {rows : List Row} :
    loginRest req password connection ([some stored, name, some idx] :: rows) =
      if stored = password then
        createToken 50 >>= fun token =>
          mysqlQuery connection 256 (tokenQuery token (atoi idx)) >>=
            loginStored req connection token name
      else loginRefused req connection := by
  have stop : ∀ token, (fun outcome : Option (List Row) =>
      match outcome with
      | none => serverErrer req connection
      | some _ => do
        let name ← Program.lift (column (some [some stored, name, some idx]) 1)
        let name ← Program.lift (sprintf 26 name)
        connectionPush connection
        let body ← Program.lift (sprintf 256 (loginBody "OK" token name))
        respond req 200 "OK" body) = loginStored req connection token name := by
    intro token
    funext outcome
    cases outcome <;> rfl
  simp only [← stop]
  rfl

/-- What `create_chat` makes of the `MAX(idx)`. -/
def latestValue : Option Bytes → Int
  | none => -1
  | some latest => atoi latest

/-- What is left of `create_chat` behind `MAX(idx)`. -/
def chatRest (req : Request) (connection : Nat) (idx : Int) (groupId content : Bytes)
    (latest : Int) : Prog Unit := do
  let now ← getNow
  match ← mysqlQuery connection 2000 (chatQuery idx groupId content now) with
  | none => serverErrer req connection
  | some _ => do
    let body ← Program.lift (sprintf 256 (chatBody latest))
    connectionPush connection
    respond req 200 "OK" body

theorem createChat_given {req : Request} {token groupId content : Bytes}
    (tokenFound : findValue req.parameter (ascii "token") = .ok (some token))
    (groupFound : findValue req.parameter (ascii "group_id") = .ok (some groupId))
    (contentFound : findValue req.parameter (ascii "content") = .ok (some content)) :
    createChat req = connectionPop >>= fun connection =>
      getUserIdx connection token >>= fun idx =>
        if idx = -1 then serverErrer req connection
        else attendanceCheck connection idx (atoi groupId) >>= fun _ =>
          mysqlQuery connection 2000 (latestChatQuery groupId) >>= fun outcome =>
            match outcome with
            | none => serverErrer req connection
            | some rows => Program.lift (cell rows.head? 0) >>= fun latest =>
                chatRest req connection idx groupId content (latestValue latest) := by
  simp only [createChat, findParameter, tokenFound, groupFound, contentFound, Program.lift_ok_bind]
  rfl

/-- The query of `get_chatlist`. -/
def chatsQuery (groupId : Bytes) : Option Bytes → List Piece
  | none => chatlistQuery groupId
  | some latest => chatlistSinceQuery groupId latest

theorem getChatlist_given {req : Request} {token groupId : Bytes} {latest : Option Bytes}
    (tokenFound : findValue req.parameter (ascii "token") = .ok (some token))
    (groupFound : findValue req.parameter (ascii "group_id") = .ok (some groupId))
    (latestFound : findValue req.parameter (ascii "latest") = .ok latest) :
    getChatlist req = connectionPop >>= fun connection =>
      getUserIdx connection token >>= fun idx =>
        if idx = -1 then serverErrer req connection
        else attendanceCheck connection idx (atoi groupId) >>= fun _ =>
          respondRows req connection 2000 (chatsQuery groupId latest) chatRow := by
  simp only [getChatlist, findParameter, tokenFound, groupFound, latestFound, Program.lift_ok_bind]
  cases latest <;> rfl

/-- What `createToken` may draw. -/
def Drawn (left : Nat) (token : Bytes) : Prop :=
  token.length = left ∧ ∀ c ∈ token, ∃ p < 62, c = tokenChar p

theorem drawn_cons {left p : Nat} {token : Bytes} :
    Drawn (left + 1) (tokenChar (p % 62) :: token) ↔ Drawn left token := by
  simp only [Drawn, List.length_cons, Nat.add_right_cancel_iff, List.forall_mem_cons]
  apply and_congr_right
  intro _
  exact and_iff_right ⟨p % 62, Nat.mod_lt p (by decide), rfl⟩

theorem drawn_replicate (left : Nat) : Drawn left (List.replicate left (tokenChar 0)) := by
  refine ⟨List.length_replicate, ?_⟩
  intro c member
  exact ⟨0, by decide, List.eq_of_mem_replicate member⟩

/-- A property of programs that holds in front of `rand` if it holds behind every number holds in
front of `create_token` if it holds behind every token. -/
theorem createToken_iff {F : Prog α → Prop} {left : Nat} {next : Bytes → Prog α}
    (random : ∀ next : Nat → Prog α, F (rand >>= next) ↔ ∀ r : Nat, F (next r)) :
    F (createToken left >>= next) ↔ ∀ token, Drawn left token → F (next token) := by
  induction left generalizing next with
  | zero =>
      constructor
      · intro holds token drawn
        rw [List.eq_nil_of_length_eq_zero drawn.1]
        exact holds
      · intro later
        exact later [] ⟨rfl, by simp⟩
  | succ left ih =>
      rw [createToken, Program.bind_bind, random]
      simp only [Program.bind_bind, ih, Program.pure_bind_eq]
      constructor
      · intro later token drawn
        cases token with
        | nil => cases drawn.1
        | cons c token =>
            obtain ⟨p, small, same⟩ := drawn.2 c (List.mem_cons_self ..)
            subst same
            have remainder : p % 62 = p := Nat.mod_eq_of_lt small
            rw [← remainder] at drawn ⊢
            exact later p token (drawn_cons.mp drawn)
      · intro later r token drawn
        exact later _ (drawn_cons.mpr drawn)

/-- A token is drawn with 50 calls of `rand`. A specification that does not see these has
to be met behind every token. -/
theorem meets_createToken_iff {left : Nat} {next : Bytes → Prog α}
    (quiet : ∀ r : Nat, (fun events => Q (⟨.rand, r⟩ :: events)) = Q)
    (drawing : Q [] (.calling .rand)) :
    (createToken left >>= next).Meets Q ↔ ∀ token, Drawn left token → (next token).Meets Q := by
  apply createToken_iff (F := fun program => program.Meets Q)
  intro next
  rw [meets_rand, and_iff_right drawing]
  simp only [quiet]

theorem meets_createToken {left : Nat} {next : Bytes → Prog α}
    (quiet : ∀ r : Nat, (fun events => Q (⟨.rand, r⟩ :: events)) = Q)
    (drawing : Q [] (.calling .rand)) (later : ∀ token, (next token).Meets Q) :
    (createToken left >>= next).Meets Q :=
  (meets_createToken_iff quiet drawing).mpr fun token _ => later token

end Calls

/-- A reply, and nothing else, is left to be done. -/
def Call.IsReply : Call → Prop
  | .response _ => True
  | _ => False

theorem respond_replies {req : Request} {statusCode : Int} {statusMsg : String} {body : Bytes} :
    (respond req statusCode statusMsg body).Always Call.IsReply := ⟨trivial, fun _ => trivial⟩

section Requests

variable {Q : HistorySpec Unit} {req : Request}

theorem meets_serverErrer {connection : Nat} :
    (serverErrer req connection).Meets Q ↔ Q [] (.calling (.mysqlError connection)) ∧
      (respond req 500 "Internal Server Error" (ascii "server error")).Meets fun events =>
        Q (⟨.mysqlError connection, ()⟩ :: events) := meets_mysqlError

/-- A handler either accepts the parameters of a request, or answers that some are missing,
or runs into a node without a key. -/
theorem Handler.meets (handler : Handler) (missing : (missingParameters req).Meets Q)
    (failed : Q [] (.failed .nullPointer))
    (accepted : handler.Accepts req → (handler.program req).Meets Q) :
    (handler.program req).Meets Q := by
  by_cases accepts : handler.Accepts req
  · exact accepted accepts
  · cases handler.rejects req accepts with
    | inl rejected =>
        rw [rejected.1]
        exact missing
    | inr rejected =>
        obtain ⟨fault, program⟩ := rejected.1
        rw [program, handler.failsNull req fault program]
        exact failed

end Requests

namespace Asks

variable {α : Type} {P : History → Call → Prop} {f : History → History} {req : Request}
  {connection capacity : Nat} {pieces : List Piece}

theorem pop {next : Nat → Prog α} (here : P (f []) .connectionPop)
    (later : ∀ c : Nat, (next c).Meets fun events => Asks P (f (⟨.connectionPop, c⟩ :: events))) :
    (connectionPop >>= next).Meets fun events => Asks P (f events) :=
  meets_connectionPop.mpr ⟨(asks_calling _).mpr here, later⟩

theorem query {next : Option (List Row) → Prog α}
    (here : P (f []) (.mysqlQuery connection capacity pieces))
    (later : ∀ outcome : Option (List Row), (next outcome).Meets fun events =>
      Asks P (f (⟨.mysqlQuery connection capacity pieces, outcome⟩ :: events))) :
    (mysqlQuery connection capacity pieces >>= next).Meets fun events => Asks P (f events) :=
  meets_mysqlQuery.mpr ⟨(asks_calling _).mpr here, later⟩

theorem push {next : Unit → Prog α} (here : P (f []) (.connectionPush connection))
    (later : (next ()).Meets fun events =>
      Asks P (f (⟨.connectionPush connection, ()⟩ :: events))) :
    (connectionPush connection >>= next).Meets fun events => Asks P (f events) :=
  meets_connectionPush.mpr ⟨(asks_calling _).mpr here, later⟩

theorem commit {next : Unit → Prog α} (here : P (f []) (.mysqlCommit connection))
    (later : (next ()).Meets fun events =>
      Asks P (f (⟨.mysqlCommit connection, ()⟩ :: events))) :
    (mysqlCommit connection >>= next).Meets fun events => Asks P (f events) :=
  meets_mysqlCommit.mpr ⟨(asks_calling _).mpr here, later⟩

theorem respond {statusCode : Int} {statusMsg : String} {body : Bytes}
    (here : P (f []) (.response ⟨statusCode, ascii statusMsg, req.version, body⟩)) :
    (Ttac.respond req statusCode statusMsg body).Meets fun events => Asks P (f events) :=
  meets_respond.mpr ⟨(asks_calling _).mpr here, asks_returned _⟩

theorem serverErrer (here : P (f []) (.mysqlError connection))
    (reply : P (f [⟨.mysqlError connection, ()⟩])
      (.response ⟨500, ascii "Internal Server Error", req.version, ascii "server error"⟩)) :
    (Ttac.serverErrer req connection).Meets fun events => Asks P (f events) := by
  apply meets_serverErrer.mpr
  refine ⟨(asks_calling _).mpr here, ?_⟩
  exact Asks.respond (f := fun events => f (⟨.mysqlError connection, ()⟩ :: events)) reply

/-- A part that needs no call. -/
theorem lift {β : Type} {result : Except Fault β} {next : β → Prog α}
    (later : ∀ value, result = .ok value →
      (next value).Meets fun events => Asks P (f events)) :
    (Program.lift result >>= next).Meets fun events => Asks P (f events) :=
  Program.meets_lift_bind.mpr ⟨later, fun _ _ => asks_failed _⟩

theorem getUserIdx {token : Bytes} {next : Int → Prog α}
    (here : P (f []) (.mysqlQuery connection 256 (userQuery token)))
    (failed : (next (-1)).Meets fun events =>
      Asks P (f (⟨.mysqlQuery connection 256 (userQuery token), none⟩ :: events)))
    (found : ∀ users idx, Reads users idx → (next idx).Meets fun events =>
      Asks P (f (⟨.mysqlQuery connection 256 (userQuery token), some users⟩ :: events))) :
    (Ttac.getUserIdx connection token >>= next).Meets fun events => Asks P (f events) := by
  rw [getUserIdx_bind]
  apply Asks.query here
  intro outcome
  cases outcome with
  | none => exact failed
  | some users =>
      apply Asks.lift (f := fun events =>
        f (⟨.mysqlQuery connection 256 (userQuery token), some users⟩ :: events))
      intro text read
      exact found users (atoi text) ⟨text, read, rfl⟩

/-- `getUserIdxByID` also comes back with -1 where there is no row. -/
theorem getUserIdxByID {ID : Bytes} {next : Int → Prog α}
    (here : P (f []) (.mysqlQuery connection 256 (userByIDQuery ID)))
    (failed : ∀ outcome : Option (List Row), outcome = none ∨ outcome = some [] →
      (next (-1)).Meets fun events =>
        Asks P (f (⟨.mysqlQuery connection 256 (userByIDQuery ID), outcome⟩ :: events)))
    (found : ∀ users idx, Reads users idx → (next idx).Meets fun events =>
      Asks P (f (⟨.mysqlQuery connection 256 (userByIDQuery ID), some users⟩ :: events))) :
    (Ttac.getUserIdxByID connection ID >>= next).Meets fun events => Asks P (f events) := by
  rw [getUserIdxByID_bind]
  apply Asks.query here
  intro outcome
  cases outcome with
  | none => exact failed none (.inl rfl)
  | some users =>
      cases users with
      | nil => exact failed (some []) (.inr rfl)
      | cons row rows =>
          apply Asks.lift (f := fun events =>
            f (⟨.mysqlQuery connection 256 (userByIDQuery ID), some (row :: rows)⟩ :: events))
          intro text read
          exact found (row :: rows) (atoi text) ⟨text, read, rfl⟩

end Asks

end Ttac
