import Ttac.HandlerHistory

set_option autoImplicit false

/- What becomes of the database connections a handler pops. -/
namespace Ttac

open Interaction (Program Exchange Status)
open Interaction.Program (Meets)
open Sql (Piece)

/-- The call is made on the connection. -/
def Call.Uses (connection : Nat) : Call → Prop
  | .connectionPush c | .mysqlQuery c _ _ | .mysqlCommit c | .mysqlError c => c = connection
  | _ => False

/-- The connection is pushed, and is not used behind that. -/
def PushedOnce (connection : Nat) : History → Prop
  | [] => False
  | ⟨.connectionPush c, _⟩ :: events =>
    if c = connection then ∀ later ∈ events, ¬ later.op.Uses connection
    else PushedOnce connection events
  | _ :: events => PushedOnce connection events

/-- Every connection that is popped is pushed once and not used behind that. -/
def Balanced : History → Prop
  | [] => True
  | ⟨.connectionPop, connection⟩ :: events => PushedOnce connection events ∧ Balanced events
  | _ :: events => Balanced events

/-- The outcomes of a query behind which a handler still gets to its `connection_push`. -/
inductive Check where
  | any
  | answered
  | identified
  | never

def Check.Passed : Check → Option (List Row) → Prop
  | .any, _ => True
  | .answered, outcome => outcome ≠ none
  | .identified, outcome =>
    ∃ rows idx, outcome = some rows ∧ column rows.head? 0 = .ok idx ∧ atoi idx ≠ -1
  | .never, _ => False

def Passes (checks : List Check) (outcomes : List (Option (List Row))) : Prop :=
  ∀ pair ∈ checks.zip outcomes, pair.1.Passed pair.2

theorem passes_nil_left (outcomes : List (Option (List Row))) : Passes [] outcomes := by
  intro pair member
  cases member

theorem passes_nil_right (checks : List Check) : Passes checks [] := by
  intro pair member
  rw [List.zip_nil_right] at member
  cases member

theorem passes_cons {check : Check} {checks : List Check} {outcome : Option (List Row)}
    {outcomes : List (Option (List Row))} :
    Passes (check :: checks) (outcome :: outcomes) ↔
      check.Passed outcome ∧ Passes checks outcomes := by
  rw [Passes, List.zip_cons_cons, List.forall_mem_cons]
  rfl

namespace Handler

/-- What each handler asks of the outcomes of its queries before it pushes its connection.
`attendance_check`, the `insert` of `post_todolist` and the last query of `post_progress`
may fail, and so may the lookup of `post_location`; `join_group` has no `connection_push`. -/
def checks : Handler → List Check
  | .login => [.answered, .answered]
  | .signup => [.answered]
  | .createGroup => [.identified, .answered, .answered, .answered]
  | .groupList | .getTodolist | .getProgress => [.identified, .answered]
  | .joinGroup => [.never]
  | .postTodolist => [.identified, .any]
  | .postProgress => [.identified, .answered, .any]
  | .createChat => [.identified, .any, .answered, .answered]
  | .getChatlist => [.identified, .any, .answered]
  | .getLocation => []
  | .postLocation => [.any]

end Handler

/-- Once the connection is popped, it is pushed exactly when the outcomes pass the checks. -/
def Frees (connection : Nat) (checks : List Check) : HistorySpec Unit :=
  Returning fun events =>
    Balanced (⟨.connectionPop, connection⟩ :: events) ↔ Passes checks (outcomes events)

def Leaks (connection : Nat) : HistorySpec Unit :=
  Returning fun events => ¬ PushedOnce connection events

/-- Replies neither use a connection nor ask the database. -/
theorem replies_quiet {events : History} (replies : ∀ event ∈ events, event.op.IsReply)
    (connection : Nat) :
    (∀ event ∈ events, ¬ event.op.Uses connection) ∧ Balanced events ∧ outcomes events = [] := by
  induction events with
  | nil => simp [Balanced, outcomes]
  | cons event events ih =>
      rw [List.forall_mem_cons] at replies
      obtain ⟨unused, balanced, noQuery⟩ := ih replies.2
      rw [List.forall_mem_cons]
      obtain ⟨op, answer⟩ := event
      cases op with
      | response reply => exact ⟨⟨id, unused⟩, balanced, noQuery⟩
      | _ => cases replies.1

section Rules

variable {c : Nat} {checks : List Check} {req : Request}

theorem Leaks.query {capacity : Nat} {pieces : List Piece} {next : Option (List Row) → Prog Unit}
    (leaks : ∀ outcome, (next outcome).Meets (Leaks c)) :
    (mysqlQuery c capacity pieces >>= next).Meets (Leaks c) :=
  meets_mysqlQuery.mpr ⟨returning_calling _, leaks⟩

theorem Leaks.lift {β : Type} {result : Except Fault β} {next : β → Prog Unit}
    (leaks : ∀ value, (next value).Meets (Leaks c)) :
    (Program.lift result >>= next).Meets (Leaks c) :=
  Program.meets_lift_bind.mpr ⟨fun value _ => leaks value, fun _ _ => returning_failed _⟩

theorem Leaks.respond {statusCode : Int} {statusMsg : String} {body : Bytes} :
    (respond req statusCode statusMsg body).Meets (Leaks c) :=
  meets_respond.mpr ⟨returning_calling _, (returning_returned ()).mpr id⟩

theorem Leaks.serverErrer : (serverErrer req c).Meets (Leaks c) :=
  meets_serverErrer.mpr ⟨returning_calling _, Leaks.respond⟩

/-- One more query, whose outcome is checked first. -/
theorem Frees.query {check : Check} {capacity : Nat} {pieces : List Piece}
    {next : Option (List Row) → Prog Unit}
    (stops : ∀ outcome, ¬ check.Passed outcome → (next outcome).Meets (Leaks c))
    (goes : ∀ outcome, check.Passed outcome → (next outcome).Meets (Frees c checks)) :
    (mysqlQuery c capacity pieces >>= next).Meets (Frees c (check :: checks)) := by
  apply meets_mysqlQuery.mpr
  refine ⟨returning_calling _, ?_⟩
  intro outcome
  by_cases passed : check.Passed outcome
  · apply (goes outcome passed).mono
    intro events status frees value returned
    exact (frees value returned).trans (passes_cons.trans (and_iff_right passed)).symm
  · apply (stops outcome passed).mono
    intro events status leaks value returned
    have refused : ¬ Passes (check :: checks) (outcome :: outcomes events) := by
      intro passes
      exact passed (passes_cons.mp passes).1
    exact iff_of_false (fun balanced => leaks value returned balanced.1) refused

/-- A query that has to succeed. -/
theorem Frees.answered {capacity : Nat} {pieces : List Piece} {next : Option (List Row) → Prog Unit}
    (stops : (next none).Meets (Leaks c))
    (goes : ∀ rows, (next (some rows)).Meets (Frees c checks)) :
    (mysqlQuery c capacity pieces >>= next).Meets (Frees c (.answered :: checks)) := by
  apply Frees.query
  · intro outcome failed
    rw [Check.Passed, not_not] at failed
    rw [failed]
    exact stops
  · intro outcome succeeded
    cases outcome with
    | none => exact absurd rfl succeeded
    | some rows => exact goes rows

/-- A query whose failure the handler does not see. -/
theorem Frees.any {capacity : Nat} {pieces : List Piece} {next : Option (List Row) → Prog Unit}
    (goes : ∀ outcome, (next outcome).Meets (Frees c checks)) :
    (mysqlQuery c capacity pieces >>= next).Meets (Frees c (.any :: checks)) :=
  Frees.query (fun _ failed => absurd trivial failed) fun outcome _ => goes outcome

theorem Frees.lift {β : Type} {result : Except Fault β} {next : β → Prog Unit}
    (frees : ∀ value, (next value).Meets (Frees c checks)) :
    (Program.lift result >>= next).Meets (Frees c checks) :=
  Program.meets_lift_bind.mpr ⟨fun value _ => frees value, fun _ _ => returning_failed _⟩

/-- The lookup of the user, behind which -1 is refused. -/
theorem Frees.getUserIdx {token : Bytes} {next : Int → Prog Unit}
    (goes : ∀ idx ≠ -1, (next idx).Meets (Frees c checks)) :
    (getUserIdx c token >>= fun idx =>
      if idx = -1 then serverErrer req c else next idx).Meets
        (Frees c (.identified :: checks)) := by
  rw [getUserIdx_bind]
  apply Frees.query
  · intro outcome failed
    cases outcome with
    | none => exact Leaks.serverErrer
    | some rows =>
        apply Program.meets_lift_bind.mpr
        refine ⟨?_, fun _ _ => returning_failed _⟩
        intro idx read
        apply Program.meets_ite.mpr
        constructor
        · intro refused
          exact Leaks.serverErrer
        · intro known
          exact absurd ⟨rows, idx, rfl, read, known⟩ failed
  · intro outcome ⟨rows, idx, answered, read, known⟩
    subst answered
    rw [lookupRest, read, Program.lift_ok_bind]
    apply Program.meets_ite.mpr
    exact ⟨fun refused => absurd refused known, fun _ => goes (atoi idx) known⟩

/-- A lookup of the user whose failure the handler does not see. -/
theorem Frees.anyUserIdx {token : Bytes} {next : Int → Prog Unit}
    (goes : ∀ idx, (next idx).Meets (Frees c checks)) :
    (Ttac.getUserIdx c token >>= next).Meets (Frees c (.any :: checks)) := by
  rw [getUserIdx_bind]
  exact Frees.any (lookupRest_of (F := fun program => program.Meets (Frees c checks))
    (fun _ _ => Frees.lift) goes)

/-- Behind this lookup the connection is lost. -/
theorem Frees.neverUserIdx {token : Bytes} {next : Int → Prog Unit}
    (leaks : ∀ idx, (next idx).Meets (Leaks c)) :
    (Ttac.getUserIdx c token >>= next).Meets (Frees c (.never :: checks)) := by
  rw [getUserIdx_bind]
  apply Frees.query
  · intro outcome _
    exact lookupRest_of (F := fun program => program.Meets (Leaks c)) (fun _ _ => Leaks.lift)
      leaks outcome
  · intro outcome passed
    cases passed

theorem Leaks.getUserIdxByID {ID : Bytes} {next : Int → Prog Unit}
    (leaks : ∀ idx, (next idx).Meets (Leaks c)) :
    (getUserIdxByID c ID >>= next).Meets (Leaks c) := by
  rw [getUserIdxByID_bind]
  exact Leaks.query (lookupIDRest_of (F := fun program => program.Meets (Leaks c))
    (fun _ _ => Leaks.lift) leaks)

/-- Behind `connection_push` a handler only replies. -/
theorem Frees.push {tail : Prog Unit} (replies : tail.Always Call.IsReply) :
    (connectionPush c >>= fun _ => tail).Meets (Frees c checks) := by
  apply meets_connectionPush.mpr
  refine ⟨returning_calling _, ?_⟩
  apply replies.meets.mono
  intro events status reply value _
  obtain ⟨unused, noPop, noQuery⟩ := replies_quiet reply c
  have pushed : PushedOnce c (⟨.connectionPush c, ()⟩ :: events) := by
    simpa only [PushedOnce, ↓reduceIte] using unused
  have passes : Passes checks (outcomes events) := noQuery ▸ passes_nil_right checks
  exact iff_of_true ⟨pushed, noPop⟩ passes

theorem Frees.commit {next : Unit → Prog Unit} (frees : (next ()).Meets (Frees c checks)) :
    (mysqlCommit c >>= next).Meets (Frees c checks) :=
  meets_mysqlCommit.mpr ⟨returning_calling _, frees⟩

theorem Frees.pushLocation {userId latitude longitude : Bytes} {next : Unit → Prog Unit}
    (frees : (next ()).Meets (Frees c checks)) :
    (Ttac.pushLocation userId latitude longitude >>= next).Meets (Frees c checks) :=
  meets_pushLocation.mpr ⟨returning_calling _, frees⟩

theorem Frees.error {next : Unit → Prog Unit} (frees : (next ()).Meets (Frees c checks)) :
    (mysqlError c >>= next).Meets (Frees c checks) :=
  meets_mysqlError.mpr ⟨returning_calling _, frees⟩

end Rules

section Handlers

variable {c : Nat} {req : Request}

/-- The property of a handler's history that the connection decides. -/
def Releases (handler : Handler) : HistorySpec Unit :=
  Returning fun events => Balanced events ↔ Passes handler.checks (outcomes events)

theorem Releases.pop {handler : Handler} {next : Nat → Prog Unit}
    (frees : ∀ c, (next c).Meets (Frees c handler.checks)) :
    (connectionPop >>= next).Meets (Releases handler) :=
  meets_connectionPop.mpr ⟨returning_calling _, frees⟩

theorem respondRows_frees {capacity : Nat} {query : List Piece} {tmp : Row → Except Fault Bytes} :
    (respondRows req c capacity query tmp).Meets (Frees c [.answered]) := by
  apply Frees.answered
  · exact Leaks.serverErrer
  · intro rows
    apply Frees.lift
    intro body
    exact Frees.push respond_replies

theorem statusBody_replies {capacity : Nat} {status : String} {statusCode : Int}
    {statusMsg : String} :
    (Program.lift (sprintf capacity (statusBody status)) >>= fun body =>
      respond req statusCode statusMsg body).Always Call.IsReply :=
  Program.always_lift_bind.mpr fun _ _ => respond_replies

theorem signup_releases {ID password name : Bytes}
    (IDFound : findValue req.parameter (ascii "ID") = .ok (some ID))
    (passwordFound : findValue req.parameter (ascii "password") = .ok (some password))
    (nameFound : findValue req.parameter (ascii "name") = .ok (some name)) :
    (signup req).Meets (Releases .signup) := by
  simp only [signup, findParameter, IDFound, passwordFound, nameFound, Program.lift_ok_bind]
  apply Releases.pop
  intro connection
  apply Frees.answered
  · apply Leaks.lift
    intro body
    exact Leaks.respond
  · intro rows
    apply Frees.commit
    exact Frees.push statusBody_replies

theorem login_releases {ID password : Bytes}
    (IDFound : findValue req.parameter (ascii "ID") = .ok (some ID))
    (passwordFound : findValue req.parameter (ascii "password") = .ok (some password)) :
    (login req).Meets (Releases .login) := by
  simp only [login, findParameter, IDFound, passwordFound, Program.lift_ok_bind]
  apply Releases.pop
  intro connection
  apply Frees.answered
  · exact Leaks.serverErrer
  · intro rows
    apply Frees.lift
    intro stored
    apply Program.meets_ite.mpr
    constructor
    · intro same
      apply meets_createToken (fun _ => rfl) (returning_calling _)
      intro token
      apply Frees.lift
      intro idx
      apply Frees.answered
      · exact Leaks.serverErrer
      · intro rows
        apply Frees.lift
        intro stored
        apply Frees.lift
        intro name
        apply Frees.push
        apply Program.always_lift_bind.mpr
        intro body written
        exact respond_replies
    · intro other
      apply Frees.push
      apply Program.always_lift_bind.mpr
      intro body written
      exact respond_replies

theorem createGroup_releases {name token : Bytes}
    (nameFound : findValue req.parameter (ascii "name") = .ok (some name))
    (tokenFound : findValue req.parameter (ascii "token") = .ok (some token)) :
    (createGroup req).Meets (Releases .createGroup) := by
  simp only [createGroup, findParameter, nameFound, tokenFound, Program.lift_ok_bind]
  apply Releases.pop
  intro connection
  apply Frees.getUserIdx
  intro idx known
  apply Frees.answered
  · exact Leaks.serverErrer
  · intro created
    apply Frees.answered
    · exact Leaks.serverErrer
    · intro rows
      apply Frees.lift
      intro groupIdx
      apply Frees.answered
      · exact Leaks.serverErrer
      · intro joined
        apply Frees.commit
        exact Frees.push statusBody_replies

theorem groupList_releases {token : Bytes}
    (tokenFound : findValue req.parameter (ascii "token") = .ok (some token)) :
    (groupList req).Meets (Releases .groupList) := by
  simp only [groupList, findParameter, tokenFound, Program.lift_ok_bind]
  apply Releases.pop
  intro connection
  apply Frees.getUserIdx
  intro idx known
  exact respondRows_frees

/-- `join_group` has no `connection_push`. -/
theorem joinGroup_releases {token groupId ID : Bytes}
    (tokenFound : findValue req.parameter (ascii "token") = .ok (some token))
    (groupFound : findValue req.parameter (ascii "group_id") = .ok (some groupId))
    (IDFound : findValue req.parameter (ascii "ID") = .ok (some ID)) :
    (joinGroup req).Meets (Releases .joinGroup) := by
  simp only [joinGroup, findParameter, tokenFound, groupFound, IDFound, Program.lift_ok_bind]
  apply Releases.pop
  intro connection
  apply Frees.neverUserIdx
  intro idx
  apply Leaks.getUserIdxByID
  intro useridx
  have replies (status : String) : (Program.lift (sprintf 50 (statusBody status)) >>= fun body =>
      respond req 200 "OK" body).Meets (Leaks connection) := Leaks.lift fun _ => Leaks.respond
  apply Program.meets_ite.mpr
  refine ⟨fun _ => Leaks.serverErrer, fun _ => ?_⟩
  apply Program.meets_ite.mpr
  refine ⟨fun _ => replies "NONE", fun _ => ?_⟩
  apply Leaks.query
  intro owned
  cases owned with
  | none => exact Leaks.serverErrer
  | some rows =>
      cases rows with
      | nil => exact replies "ERROR"
      | cons row rows =>
          apply Leaks.query
          intro joined
          cases joined with
          | none => exact Leaks.serverErrer
          | some rows => exact replies "OK"

theorem getTodolist_releases {token : Bytes}
    (tokenFound : findValue req.parameter (ascii "token") = .ok (some token)) :
    (getTodolist req).Meets (Releases .getTodolist) := by
  simp only [getTodolist, findParameter, tokenFound, Program.lift_ok_bind]
  apply Releases.pop
  intro connection
  apply Frees.getUserIdx
  intro idx known
  exact respondRows_frees

theorem postTodolist_releases {token deadline detail : Bytes}
    (tokenFound : findValue req.parameter (ascii "token") = .ok (some token))
    (deadlineFound : findValue req.parameter (ascii "deadline") = .ok (some deadline))
    (detailFound : findValue req.parameter (ascii "detail") = .ok (some detail)) :
    (postTodolist req).Meets (Releases .postTodolist) := by
  simp only [postTodolist, findParameter, tokenFound, deadlineFound, detailFound,
    Program.lift_ok_bind]
  apply Releases.pop
  intro connection
  apply Frees.getUserIdx
  intro idx known
  apply Frees.any
  intro outcome
  cases outcome with
  | none =>
      apply Frees.error
      apply Frees.lift
      intro body
      exact Frees.push respond_replies
  | some rows =>
      apply Frees.lift
      intro body
      exact Frees.push respond_replies

theorem getProgress_releases {token : Bytes}
    (tokenFound : findValue req.parameter (ascii "token") = .ok (some token)) :
    (getProgress req).Meets (Releases .getProgress) := by
  simp only [getProgress, findParameter, tokenFound, Program.lift_ok_bind]
  apply Releases.pop
  intro connection
  apply Frees.getUserIdx
  intro idx known
  apply Frees.answered
  · exact Leaks.serverErrer
  · intro rows
    cases rows with
    | nil =>
        apply Frees.lift
        intro body
        exact Frees.push respond_replies
    | cons sqlRow rows =>
        apply Frees.lift
        intro number
        apply Frees.lift
        intro body
        exact Frees.push respond_replies

theorem postProgress_releases {token number : Bytes}
    (tokenFound : findValue req.parameter (ascii "token") = .ok (some token))
    (numberFound : findValue req.parameter (ascii "number") = .ok (some number)) :
    (postProgress req).Meets (Releases .postProgress) := by
  simp only [postProgress, findParameter, tokenFound, numberFound, Program.lift_ok_bind]
  apply Releases.pop
  intro connection
  apply Frees.getUserIdx
  intro idx known
  apply Frees.answered
  · exact Leaks.serverErrer
  · intro rows
    apply Frees.any
    intro outcome
    apply Frees.lift
    intro body
    exact Frees.push respond_replies

theorem attendanceCheck_frees {checks : List Check} {userIdx groupIdx : Int}
    {next : Unit → Prog Unit} (goes : (next ()).Meets (Frees c checks)) :
    (attendanceCheck c userIdx groupIdx >>= next).Meets (Frees c (.any :: checks)) :=
  Frees.any fun _ => goes

theorem createChat_releases {token groupId content : Bytes}
    (tokenFound : findValue req.parameter (ascii "token") = .ok (some token))
    (groupFound : findValue req.parameter (ascii "group_id") = .ok (some groupId))
    (contentFound : findValue req.parameter (ascii "content") = .ok (some content)) :
    (createChat req).Meets (Releases .createChat) := by
  simp only [createChat, findParameter, tokenFound, groupFound, contentFound, Program.lift_ok_bind]
  apply Releases.pop
  intro connection
  apply Frees.getUserIdx
  intro idx known
  apply attendanceCheck_frees
  apply Frees.answered
  · exact Leaks.serverErrer
  · intro rows
    apply Frees.lift
    intro latest
    rw [getNow, Program.bind_bind]
    apply meets_localtime.mpr
    refine ⟨returning_calling _, ?_⟩
    intro tm
    apply Frees.lift
    intro now
    apply Frees.answered
    · exact Leaks.serverErrer
    · intro created
      apply Frees.lift
      intro body
      exact Frees.push respond_replies

theorem getChatlist_releases {token groupId : Bytes} {latest : Option Bytes}
    (tokenFound : findValue req.parameter (ascii "token") = .ok (some token))
    (groupFound : findValue req.parameter (ascii "group_id") = .ok (some groupId))
    (latestFound : findValue req.parameter (ascii "latest") = .ok latest) :
    (getChatlist req).Meets (Releases .getChatlist) := by
  simp only [getChatlist, findParameter, tokenFound, groupFound, latestFound, Program.lift_ok_bind]
  apply Releases.pop
  intro connection
  apply Frees.getUserIdx
  intro idx known
  apply attendanceCheck_frees
  exact respondRows_frees

theorem postLocation_releases {token latitude longitude : Bytes}
    (tokenFound : findValue req.parameter (ascii "token") = .ok (some token))
    (latitudeFound : findValue req.parameter (ascii "latitude") = .ok (some latitude))
    (longitudeFound : findValue req.parameter (ascii "longitude") = .ok (some longitude)) :
    (postLocation req).Meets (Releases .postLocation) := by
  simp only [postLocation, findParameter, tokenFound, latitudeFound, longitudeFound,
    Program.lift_ok_bind]
  apply Releases.pop
  intro connection
  apply Frees.anyUserIdx
  intro idx
  apply Frees.lift
  intro num
  apply Frees.pushLocation
  apply Frees.lift
  intro body
  exact Frees.push respond_replies

/-- `get_location` pops no connection. -/
theorem getLocation_releases {token user : Bytes}
    (tokenFound : findValue req.parameter (ascii "token") = .ok (some token))
    (userFound : findValue req.parameter (ascii "user_ID") = .ok (some user)) :
    (getLocation req).Meets (Releases .getLocation) := by
  simp only [getLocation, findParameter, tokenFound, userFound, Program.lift_ok_bind]
  apply meets_popLocation.mpr
  refine ⟨returning_calling _, ?_⟩
  intro location
  apply Program.meets_lift_bind.mpr
  refine ⟨?_, fun _ _ => returning_failed _⟩
  intro body written
  apply meets_respond.mpr
  exact ⟨returning_calling _, (returning_returned ()).mpr (iff_of_true trivial (passes_nil_left _))⟩

/-- The parameters of a request are not the cause of a leak. -/
theorem handler_releases (handler : Handler) : (handler.program req).Meets (Releases handler) := by
  apply handler.meets
  · apply meets_respond.mpr
    refine ⟨returning_calling _, (returning_returned ()).mpr ?_⟩
    exact iff_of_true trivial (passes_nil_right _)
  · exact returning_failed _
  · intro accepts
    cases accepts.given with
    | login IDFound passwordFound => exact login_releases IDFound passwordFound
    | signup IDFound passwordFound nameFound =>
        exact signup_releases IDFound passwordFound nameFound
    | createGroup nameFound tokenFound => exact createGroup_releases nameFound tokenFound
    | groupList tokenFound => exact groupList_releases tokenFound
    | joinGroup tokenFound groupFound IDFound =>
        exact joinGroup_releases tokenFound groupFound IDFound
    | getTodolist tokenFound => exact getTodolist_releases tokenFound
    | postTodolist tokenFound deadlineFound detailFound =>
        exact postTodolist_releases tokenFound deadlineFound detailFound
    | getProgress tokenFound => exact getProgress_releases tokenFound
    | postProgress tokenFound numberFound => exact postProgress_releases tokenFound numberFound
    | createChat tokenFound groupFound contentFound =>
        exact createChat_releases tokenFound groupFound contentFound
    | getChatlist tokenFound groupFound latestFound =>
        exact getChatlist_releases tokenFound groupFound latestFound
    | getLocation tokenFound userFound => exact getLocation_releases tokenFound userFound
    | postLocation tokenFound latitudeFound longitudeFound =>
        exact postLocation_releases tokenFound latitudeFound longitudeFound

end Handlers

/-- A handler that returns has pushed its connection exactly when every query it makes had an
outcome it gets past. -/
theorem balanced_iff (handler : Handler) (req : Request) {events : History}
    (returned : (handler.program req).Runs events (.done ())) :
    Balanced events ↔ Passes handler.checks (outcomes events) :=
  (Program.meets_iff _).mp (handler_releases handler) events _ returned () rfl

section Samples

def signupRequest : Request :=
  ⟨ascii "POST", ascii "/signup", ascii "HTTP/1.1", [], none,
    [⟨some (ascii "ID"), ascii "a"⟩, ⟨some (ascii "password"), ascii "b"⟩,
      ⟨some (ascii "name"), ascii "c"⟩]⟩

/-- `signup` with an `insert` that fails. -/
def signupFailed : History :=
  [⟨.connectionPop, (0 : Nat)⟩,
    ⟨.mysqlQuery 0 256 (signupQuery (ascii "c") (ascii "a") (ascii "b")),
      (none : Option (List Row))⟩,
    ⟨.response ⟨200, ascii "OK", ascii "HTTP/1.1", statusBody "ERROR"⟩, ()⟩]

theorem signupFailed_runs : (signup signupRequest).Runs signupFailed (.done ()) :=
  .cons (.cons (.cons (.nil _)))

theorem balanced_iff_signup : (Handler.signup.program signupRequest).Runs signupFailed (.done ()) ∧
    (Balanced signupFailed ↔ Passes Handler.signup.checks (outcomes signupFailed)) :=
  ⟨signupFailed_runs, balanced_iff .signup signupRequest signupFailed_runs⟩

theorem signup_leaks : ¬ ∀ (handler : Handler) (req : Request) (events : History),
    (handler.program req).Runs events (.done ()) → Balanced events := by
  intro balanced
  exact (balanced .signup signupRequest signupFailed signupFailed_runs).1

end Samples

end Ttac
