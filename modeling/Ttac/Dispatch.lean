import Ttac.HandlerHistory

set_option autoImplicit false

/- How many responses a request gets before its socket is closed. -/
namespace Ttac

open Interaction (Program Exchange Status)
open Interaction.Program (Meets)
open Sql (Piece)

/-- The history has so many responses and leaves the socket open. -/
def Replies : History → Nat → Prop
  | [], n => n = 0
  | ⟨.response _, _⟩ :: events, n => ∃ m, n = m + 1 ∧ Replies events m
  | ⟨.close, _⟩ :: _, _ => False
  | _ :: events, n => Replies events n

/-- One response, and then the socket is closed. -/
def AnsweredOnce (events : History) : Prop :=
  ∃ before, events = before ++ [⟨.close, ()⟩] ∧ Replies before 1

/-- What a handler does in any case. -/
def RepliesOnce : HistorySpec Unit := Returning fun events => Replies events 1

section Rules

variable {req : Request} {connection : Nat}

theorem RepliesOnce.respond {statusCode : Int} {statusMsg : String} {body : Bytes} :
    (respond req statusCode statusMsg body).Meets RepliesOnce :=
  meets_respond.mpr ⟨returning_calling _, (returning_returned ()).mpr ⟨0, rfl, rfl⟩⟩

theorem RepliesOnce.serverErrer : (serverErrer req connection).Meets RepliesOnce :=
  meets_serverErrer.mpr ⟨returning_calling _, RepliesOnce.respond⟩

theorem RepliesOnce.lift {β : Type} {result : Except Fault β} {next : β → Prog Unit}
    (once : ∀ value, (next value).Meets RepliesOnce) :
    (Program.lift result >>= next).Meets RepliesOnce :=
  Program.meets_lift_bind.mpr ⟨fun value _ => once value, fun _ _ => returning_failed _⟩

theorem RepliesOnce.query {capacity : Nat} {pieces : List Piece}
    {next : Option (List Row) → Prog Unit} (failed : (next none).Meets RepliesOnce)
    (once : ∀ rows, (next (some rows)).Meets RepliesOnce) :
    (mysqlQuery connection capacity pieces >>= next).Meets RepliesOnce := by
  apply meets_mysqlQuery.mpr
  refine ⟨returning_calling _, ?_⟩
  intro outcome
  cases outcome with
  | none => exact failed
  | some rows => exact once rows

theorem RepliesOnce.pop {next : Nat → Prog Unit}
    (once : ∀ connection, (next connection).Meets RepliesOnce) :
    (connectionPop >>= next).Meets RepliesOnce :=
  meets_connectionPop.mpr ⟨returning_calling _, once⟩

theorem RepliesOnce.push {next : Unit → Prog Unit} (once : (next ()).Meets RepliesOnce) :
    (connectionPush connection >>= next).Meets RepliesOnce :=
  meets_connectionPush.mpr ⟨returning_calling _, once⟩

theorem RepliesOnce.commit {next : Unit → Prog Unit} (once : (next ()).Meets RepliesOnce) :
    (mysqlCommit connection >>= next).Meets RepliesOnce :=
  meets_mysqlCommit.mpr ⟨returning_calling _, once⟩

theorem RepliesOnce.error {next : Unit → Prog Unit} (once : (next ()).Meets RepliesOnce) :
    (mysqlError connection >>= next).Meets RepliesOnce :=
  meets_mysqlError.mpr ⟨returning_calling _, once⟩

theorem RepliesOnce.getUserIdx {token : Bytes} {next : Int → Prog Unit}
    (once : ∀ idx, (next idx).Meets RepliesOnce) :
    (getUserIdx connection token >>= next).Meets RepliesOnce := by
  have rest := lookupRest_of (F := fun program => program.Meets RepliesOnce)
    (fun _ _ => RepliesOnce.lift) once
  rw [getUserIdx_bind]
  exact RepliesOnce.query (rest none) fun rows => rest (some rows)

theorem RepliesOnce.getUserIdxByID {ID : Bytes} {next : Int → Prog Unit}
    (once : ∀ idx, (next idx).Meets RepliesOnce) :
    (getUserIdxByID connection ID >>= next).Meets RepliesOnce := by
  have rest := lookupIDRest_of (F := fun program => program.Meets RepliesOnce)
    (fun _ _ => RepliesOnce.lift) once
  rw [getUserIdxByID_bind]
  exact RepliesOnce.query (rest none) fun rows => rest (some rows)

theorem RepliesOnce.attendanceCheck {userIdx groupIdx : Int} {next : Unit → Prog Unit}
    (once : (next ()).Meets RepliesOnce) :
    (attendanceCheck connection userIdx groupIdx >>= next).Meets RepliesOnce :=
  RepliesOnce.query once fun _ => once

/-- A test of the user's number. -/
theorem RepliesOnce.known {idx : Int} {next : Prog Unit} (once : next.Meets RepliesOnce) :
    (if idx = -1 then Ttac.serverErrer req connection else next).Meets RepliesOnce :=
  Program.meets_ite.mpr ⟨fun _ => RepliesOnce.serverErrer, fun _ => once⟩

/-- The body of a reply is formatted, the connection pushed and the reply sent. -/
theorem RepliesOnce.body {result : Except Fault Bytes} {statusCode : Int} {statusMsg : String} :
    (Program.lift result >>= fun body =>
      Ttac.respond req statusCode statusMsg body).Meets RepliesOnce :=
  RepliesOnce.lift fun _ => RepliesOnce.respond

theorem RepliesOnce.bodyPush {result : Except Fault Bytes} {statusCode : Int}
    {statusMsg : String} :
    (Program.lift result >>= fun body => connectionPush connection >>= fun _ =>
      Ttac.respond req statusCode statusMsg body).Meets RepliesOnce :=
  RepliesOnce.lift fun _ => RepliesOnce.push RepliesOnce.respond

theorem RepliesOnce.rows {capacity : Nat} {query : List Piece} {tmp : Row → Except Fault Bytes} :
    (respondRows req connection capacity query tmp).Meets RepliesOnce := by
  apply RepliesOnce.query
  · exact RepliesOnce.serverErrer
  · intro rows
    exact RepliesOnce.bodyPush

end Rules

/-- Every way through a handler ends with its one response. -/
theorem handler_repliesOnce (handler : Handler) (req : Request) :
    (handler.program req).Meets RepliesOnce := by
  apply handler.meets
  · exact RepliesOnce.respond
  · exact returning_failed _
  intro accepts
  cases accepts.given with
  | login IDFound passwordFound =>
      simp only [Handler.program, login, findParameter, IDFound, passwordFound,
        Program.lift_ok_bind]
      apply RepliesOnce.pop
      intro connection
      apply RepliesOnce.query RepliesOnce.serverErrer
      intro rows
      apply RepliesOnce.lift
      intro stored
      apply Program.meets_ite.mpr
      refine ⟨fun _ => ?_, fun _ => RepliesOnce.push RepliesOnce.body⟩
      apply meets_createToken (fun _ => rfl) (returning_calling _)
      intro token
      apply RepliesOnce.lift
      intro idx
      apply RepliesOnce.query RepliesOnce.serverErrer
      intro inserted
      apply RepliesOnce.lift
      intro name
      apply RepliesOnce.lift
      intro name
      exact RepliesOnce.push RepliesOnce.body
  | signup IDFound passwordFound nameFound =>
      simp only [Handler.program, signup, findParameter, IDFound, passwordFound, nameFound,
        Program.lift_ok_bind]
      apply RepliesOnce.pop
      intro connection
      apply RepliesOnce.query RepliesOnce.body
      intro rows
      exact RepliesOnce.commit (RepliesOnce.push RepliesOnce.body)
  | createGroup nameFound tokenFound =>
      simp only [Handler.program, createGroup, findParameter, nameFound, tokenFound,
        Program.lift_ok_bind]
      apply RepliesOnce.pop
      intro connection
      apply RepliesOnce.getUserIdx
      intro idx
      apply RepliesOnce.known
      apply RepliesOnce.query RepliesOnce.serverErrer
      intro created
      apply RepliesOnce.query RepliesOnce.serverErrer
      intro rows
      apply RepliesOnce.lift
      intro groupIdx
      apply RepliesOnce.query RepliesOnce.serverErrer
      intro joined
      exact RepliesOnce.commit (RepliesOnce.push RepliesOnce.body)
  | groupList tokenFound =>
      simp only [Handler.program, groupList, findParameter, tokenFound, Program.lift_ok_bind]
      apply RepliesOnce.pop
      intro connection
      apply RepliesOnce.getUserIdx
      intro idx
      exact RepliesOnce.known RepliesOnce.rows
  | joinGroup tokenFound groupFound IDFound =>
      simp only [Handler.program, joinGroup, findParameter, tokenFound, groupFound, IDFound,
        Program.lift_ok_bind]
      apply RepliesOnce.pop
      intro connection
      apply RepliesOnce.getUserIdx
      intro idx
      apply RepliesOnce.getUserIdxByID
      intro useridx
      apply RepliesOnce.known
      apply Program.meets_ite.mpr
      refine ⟨fun _ => RepliesOnce.body, fun _ => ?_⟩
      apply RepliesOnce.query RepliesOnce.serverErrer
      intro rows
      cases rows with
      | nil => exact RepliesOnce.body
      | cons row rows =>
          apply RepliesOnce.query RepliesOnce.serverErrer
          intro joined
          exact RepliesOnce.body
  | getTodolist tokenFound =>
      simp only [Handler.program, getTodolist, findParameter, tokenFound, Program.lift_ok_bind]
      apply RepliesOnce.pop
      intro connection
      apply RepliesOnce.getUserIdx
      intro idx
      exact RepliesOnce.known RepliesOnce.rows
  | postTodolist tokenFound deadlineFound detailFound =>
      simp only [Handler.program, postTodolist, findParameter, tokenFound, deadlineFound,
        detailFound, Program.lift_ok_bind]
      apply RepliesOnce.pop
      intro connection
      apply RepliesOnce.getUserIdx
      intro idx
      apply RepliesOnce.known
      apply RepliesOnce.query
      · exact RepliesOnce.error RepliesOnce.bodyPush
      · intro rows
        exact RepliesOnce.bodyPush
  | getProgress tokenFound =>
      simp only [Handler.program, getProgress, findParameter, tokenFound, Program.lift_ok_bind]
      apply RepliesOnce.pop
      intro connection
      apply RepliesOnce.getUserIdx
      intro idx
      apply RepliesOnce.known
      apply RepliesOnce.query RepliesOnce.serverErrer
      intro rows
      cases rows with
      | nil => exact RepliesOnce.bodyPush
      | cons sqlRow rows => exact RepliesOnce.lift fun number => RepliesOnce.bodyPush
  | postProgress tokenFound numberFound =>
      simp only [Handler.program, postProgress, findParameter, tokenFound, numberFound,
        Program.lift_ok_bind]
      apply RepliesOnce.pop
      intro connection
      apply RepliesOnce.getUserIdx
      intro idx
      apply RepliesOnce.known
      apply RepliesOnce.query RepliesOnce.serverErrer
      intro rows
      apply RepliesOnce.query
      · exact RepliesOnce.bodyPush
      · intro written
        exact RepliesOnce.bodyPush
  | createChat tokenFound groupFound contentFound =>
      simp only [Handler.program, createChat, findParameter, tokenFound, groupFound, contentFound,
        Program.lift_ok_bind]
      apply RepliesOnce.pop
      intro connection
      apply RepliesOnce.getUserIdx
      intro idx
      apply RepliesOnce.known
      apply RepliesOnce.attendanceCheck
      apply RepliesOnce.query RepliesOnce.serverErrer
      intro rows
      apply RepliesOnce.lift
      intro latest
      rw [getNow, Program.bind_bind]
      apply meets_localtime.mpr
      refine ⟨returning_calling _, ?_⟩
      intro tm
      apply RepliesOnce.lift
      intro now
      apply RepliesOnce.query RepliesOnce.serverErrer
      intro written
      exact RepliesOnce.bodyPush
  | getChatlist tokenFound groupFound latestFound =>
      simp only [Handler.program, getChatlist, findParameter, tokenFound, groupFound, latestFound,
        Program.lift_ok_bind]
      apply RepliesOnce.pop
      intro connection
      apply RepliesOnce.getUserIdx
      intro idx
      apply RepliesOnce.known
      apply RepliesOnce.attendanceCheck
      exact RepliesOnce.rows
  | getLocation tokenFound userFound =>
      simp only [Handler.program, getLocation, findParameter, tokenFound, userFound,
        Program.lift_ok_bind]
      apply meets_popLocation.mpr
      refine ⟨returning_calling _, ?_⟩
      intro location
      exact RepliesOnce.body
  | postLocation tokenFound latitudeFound longitudeFound =>
      simp only [Handler.program, postLocation, findParameter, tokenFound, latitudeFound,
        longitudeFound, Program.lift_ok_bind]
      apply RepliesOnce.pop
      intro connection
      apply RepliesOnce.getUserIdx
      intro idx
      apply RepliesOnce.lift
      intro num
      apply meets_pushLocation.mpr
      exact ⟨returning_calling _, RepliesOnce.bodyPush⟩

/-- The resources that have one handler for each method. -/
def SplitByMethod (path : Bytes) : Prop :=
  startsWith path "/todolist" = true ∨ startsWith path "/progress" = true ∨
    startsWith path "/location" = true

theorem startsWith_append {path : Bytes} {text : String} (starts : startsWith path text = true) :
    ∃ rest, path = ascii text ++ rest := by
  obtain ⟨rest, same⟩ := List.isPrefixOf_iff_prefix.mp starts
  exact ⟨rest, same.symm⟩

theorem byMethod_nothing_iff (method : Bytes) (get post : Handler) :
    byMethod method get post = .nothing ↔ isGet method = false ∧ isPost method = false := by
  unfold byMethod
  cases isGet method with
  | true => simp
  | false => cases isPost method <;> simp

/-- The last of the three tests of a method has no `else`. -/
theorem route_nothing_iff (method path : Bytes) :
    route method path = .nothing ↔
      SplitByMethod path ∧ isGet method = false ∧ isPost method = false := by
  constructor
  · intro nothing
    unfold route at nothing
    unfold SplitByMethod
    split_ifs at nothing with _ _ _ _ _ todolist progress _ _ location
    · exact ⟨.inl todolist, (byMethod_nothing_iff _ _ _).mp nothing⟩
    · exact ⟨.inr (.inl progress), (byMethod_nothing_iff _ _ _).mp nothing⟩
    · exact ⟨.inr (.inr location), (byMethod_nothing_iff _ _ _).mp nothing⟩
  · intro ⟨splits, neither⟩
    cases splits with
    | inl todolist =>
        obtain ⟨rest, same⟩ := startsWith_append todolist
        subst same
        exact (byMethod_nothing_iff _ .getTodolist .postTodolist).mpr neither
    | inr splits =>
        cases splits with
        | inl progress =>
            obtain ⟨rest, same⟩ := startsWith_append progress
            subst same
            exact (byMethod_nothing_iff _ .getProgress .postProgress).mpr neither
        | inr location =>
            obtain ⟨rest, same⟩ := startsWith_append location
            subst same
            exact (byMethod_nothing_iff _ .getLocation .postLocation).mpr neither

theorem answeredOnce_close {events : History} :
    AnsweredOnce (events ++ [⟨.close, ()⟩]) ↔ Replies events 1 := by
  constructor
  · intro ⟨before, same, replies⟩
    have equal : events = before := List.append_cancel_right same
    rw [equal]
    exact replies
  · intro replies
    exact ⟨events, rfl, replies⟩

/-- Closing the socket behind a program that has so many responses. -/
theorem meets_closed {first : Prog Unit} {p : Prop}
    (replies : first.Meets (Returning fun events => Replies events 1 ↔ p)) :
    (first >>= fun _ => close).Meets (Returning fun events => AnsweredOnce events ↔ p) := by
  apply (Program.meets_bind_iff first _).mpr
  apply replies.mono
  intro events status holds
  cases status with
  | calling op =>
      rw [Program.behind_calling]
      exact returning_calling op
  | failed fault =>
      rw [Program.behind_failed]
      exact returning_failed fault
  | returned value =>
      have once := (returning_returned value).mp holds
      rw [Program.behind_returned]
      exact ⟨returning_calling _, fun _ _ _ => answeredOnce_close.trans once⟩

/-- A request gets its one response unless its resource has no handler for its method. -/
theorem answeredOnce_iff (req : Request) {events : History}
    (returned : (httpThread req).Runs events (.done ())) :
    AnsweredOnce events ↔
      (SplitByMethod req.path → isGet req.method = true ∨ isPost req.method = true) := by
  have condition : (SplitByMethod req.path → isGet req.method = true ∨ isPost req.method = true) ↔
      route req.method req.path ≠ .nothing := by
    rw [Ne, route_nothing_iff, not_and, not_and_or, Bool.not_eq_false, Bool.not_eq_false]
  rw [condition]
  have meets : (httpThread req).Meets
      (Returning fun events => AnsweredOnce events ↔ route req.method req.path ≠ .nothing) := by
    unfold httpThread
    cases routed : route req.method req.path with
    | handler handler =>
        apply meets_closed
        apply (handler_repliesOnce handler req).mono
        intro events status once value same
        exact iff_of_true (once value same) (by simp)
    | nothing =>
        change ((pure () : Prog Unit) >>= fun _ => close).Meets _
        apply meets_closed
        exact (returning_returned ()).mpr (iff_of_false (by simp [Replies]) (by simp))
    | notFound =>
        apply meets_closed
        exact meets_respond.mpr ⟨returning_calling _,
          (returning_returned ()).mpr (iff_of_true ⟨0, rfl, rfl⟩ (by simp))⟩
  exact (Program.meets_iff _).mp meets events _ returned () rfl

section Samples

def deleteTodolist : Request :=
  ⟨ascii "DELETE", ascii "/todolist", ascii "HTTP/1.1", [], none, []⟩

theorem deleteTodolist_runs : (httpThread deleteTodolist).Runs [⟨.close, ()⟩] (.done ()) :=
  .cons (.nil _)

theorem answeredOnce_iff_deleteTodolist : AnsweredOnce [⟨.close, ()⟩] ↔
    (SplitByMethod deleteTodolist.path →
      isGet deleteTodolist.method = true ∨ isPost deleteTodolist.method = true) :=
  answeredOnce_iff deleteTodolist deleteTodolist_runs

theorem deleteTodolist_unanswered : ¬ ∀ (req : Request) (events : History),
    (httpThread req).Runs events (.done ()) → AnsweredOnce events := by
  intro answered
  have once := answered deleteTodolist [⟨.close, ()⟩] deleteTodolist_runs
  have none : Replies [] 1 := answeredOnce_close.mp once
  cases none

end Samples

end Ttac
