import Ttac.SerialRequests
import Ttac.OwnConnection

set_option autoImplicit false

/- The handlers served alone, from their first call to their reply. -/
namespace Ttac

open Interaction (Program Exchange Completes completes_call completes_done completes_fail
  completes_lift_bind completes_ite)
open Sql (Piece)

/-- The reply where a query failed. -/
def serverError (req : Request) : Reply :=
  ⟨500, ascii "Internal Server Error", req.version, ascii "server error"⟩

/-- The reply of a handler that gives a status. -/
def statusReply (req : Request) (status : String) : Reply :=
  ⟨200, ascii "OK", req.version, statusBody status⟩

/-- The replies sent in a history. -/
def replies : History → List Reply
  | [] => []
  | ⟨.response reply, _⟩ :: events => reply :: replies events
  | _ :: events => replies events

theorem mem_replies {events : History} {reply : Reply} :
    reply ∈ replies events ↔ ⟨.response reply, ()⟩ ∈ events := by
  induction events with
  | nil => simp [replies]
  | cons event events ih =>
      obtain ⟨op, answer⟩ := event
      rw [List.mem_cons]
      cases op with
      | response sent =>
          have same : (⟨.response reply, ()⟩ : Exchange Call Answer) = ⟨.response sent, answer⟩ ↔
              reply = sent := by
            constructor
            · intro same
              cases same
              rfl
            · intro same
              subst same
              rfl
          rw [replies, List.mem_cons, ih, same]
      | _ => exact ih.trans ⟨.inr, fun either => either.resolve_left nofun⟩

theorem replies_append (before after : History) :
    replies (before ++ after) = replies before ++ replies after := by
  induction before with
  | nil => rfl
  | cons event before ih =>
      obtain ⟨op, answer⟩ := event
      cases op <;> simp [replies, ih]

/-- A program that calls on only where it has not replied ends with its reply. -/
theorem Asks.replied {P : History → Call → Prop} {α : Type} {program rest : Prog α}
    {events : History} {reply : Reply} (asks : program.Meets (Asks P))
    (silent : ∀ events op, P events op → replies events = [])
    (runs : program.Runs events rest) (replied : reply ∈ replies events) :
    ∃ before, events = before ++ [⟨.response reply, ()⟩] ∧ P before (.response reply) := by
  obtain ⟨before, after, whole⟩ := List.append_of_mem (mem_replies.mp replied)
  subst whole
  cases after with
  | nil => exact ⟨before, rfl, Asks.made asks runs⟩
  | cons event after =>
      rw [List.append_cons] at runs
      have none := silent _ _ (Asks.made asks runs)
      rw [replies_append, List.append_eq_nil_iff] at none
      cases none.2

section Completions

variable {mysql : Mysql} {α : Type} {s t : Shared} {events : History} {value : α} {req : Request}
  {connection capacity : Nat} {pieces : List Piece}

theorem completes_pop {next : Nat → Prog α} :
    Completes mysql.Answers (connectionPop >>= next) s events value t ↔
      ∃ later, events = ⟨.connectionPop, s.connections⟩ :: later ∧
        Completes mysql.Answers (next s.connections) s.open later value t := by
  refine completes_call.trans ?_
  constructor
  · intro parts
    obtain ⟨answer, middle, later, whole, popped, completes⟩ := parts
    obtain ⟨first, state⟩ := popped
    subst first state
    exact ⟨later, whole, completes⟩
  · intro parts
    obtain ⟨later, whole, completes⟩ := parts
    exact ⟨s.connections, s.open, later, whole, ⟨rfl, rfl⟩, completes⟩

theorem completes_query {next : Option (List Row) → Prog α} :
    Completes mysql.Answers (mysqlQuery connection capacity pieces >>= next) s events value t ↔
      ∃ outcome middle later, events = ⟨.mysqlQuery connection capacity pieces, outcome⟩ :: later ∧
        mysql.Answers (.mysqlQuery connection capacity pieces) outcome s middle ∧
          Completes mysql.Answers (next outcome) middle later value t := completes_call

/-- A query that fails changes nothing. -/
theorem answers_none {statement : Statement} (understood : statementOf pieces = some statement)
    (answered : mysql.Answers (.mysqlQuery connection capacity pieces) none s t) : t = s := by
  obtain ⟨-, failed | done⟩ := (Mysql.answers_statement understood).mp answered
  · exact failed.2
  · obtain ⟨gap, today, executed, rows, run, given, order, state⟩ := done
    cases given

/-- A member who is inserted. -/
theorem answers_insertMember {userIdx groupIdx : Int} {rows : List Row}
    (understood : statementOf pieces = some (.insertMember userIdx groupIdx))
    (answered : mysql.Answers (.mysqlQuery connection capacity pieces) (some rows) s t) :
    t.tables.joinGroup = s.tables.joinGroup ++ [⟨userIdx, groupIdx⟩] ∧
      Tables.Elsewhere .joinGroup s.tables t.tables := by
  obtain ⟨-, failed | done⟩ := (Mysql.answers_statement understood).mp answered
  · cases failed.1
  · obtain ⟨gap, today, executed, rows, run, -, -, state⟩ := done
    obtain ⟨-, inserted, elsewhere⟩ := Tables.insertMember_some (exec_insertMember run)
    rw [state]
    exact ⟨inserted, elsewhere⟩

/-- A call that changes nothing and returns nothing. -/
theorem completes_quiet (op : Call) {next : Answer op → Prog α} {unit : Answer op}
    (only : ∀ answer, answer = unit)
    (quiet : ∀ s t, mysql.Answers op unit s t ↔ t = s) :
    Completes mysql.Answers (invoke op >>= next) s events value t ↔
      ∃ later, events = ⟨op, unit⟩ :: later ∧
        Completes mysql.Answers (next unit) s later value t := by
  refine completes_call.trans ?_
  constructor
  · intro parts
    obtain ⟨answer, middle, later, whole, answered, completes⟩ := parts
    obtain rfl := only answer
    obtain rfl := (quiet _ _).mp answered
    exact ⟨later, whole, completes⟩
  · intro parts
    obtain ⟨later, whole, completes⟩ := parts
    exact ⟨unit, s, later, whole, (quiet _ _).mpr rfl, completes⟩

theorem completes_push {next : Unit → Prog α} :
    Completes mysql.Answers (connectionPush connection >>= next) s events value t ↔
      ∃ later, events = ⟨.connectionPush connection, ()⟩ :: later ∧
        Completes mysql.Answers (next ()) s later value t :=
  completes_quiet (.connectionPush connection) (fun _ => rfl) fun _ _ => Iff.rfl

theorem completes_commit {next : Unit → Prog α} :
    Completes mysql.Answers (mysqlCommit connection >>= next) s events value t ↔
      ∃ later, events = ⟨.mysqlCommit connection, ()⟩ :: later ∧
        Completes mysql.Answers (next ()) s later value t :=
  completes_quiet (.mysqlCommit connection) (fun _ => rfl) fun _ _ => Iff.rfl

theorem completes_respond {statusCode : Int} {statusMsg : String} {body : Bytes} {value : Unit} :
    Completes mysql.Answers (respond req statusCode statusMsg body) s events value t ↔
      events = [⟨.response ⟨statusCode, ascii statusMsg, req.version, body⟩, ()⟩] ∧ t = s := by
  refine completes_call.trans ?_
  constructor
  · intro parts
    obtain ⟨answer, middle, later, whole, answered, completes⟩ := parts
    obtain ⟨none, -, stays⟩ := completes_done.mp completes
    obtain rfl : middle = s := answered
    rw [whole, none]
    exact ⟨rfl, stays⟩
  · intro parts
    obtain ⟨whole, stays⟩ := parts
    exact ⟨(), s, [], whole, rfl, completes_done.mpr ⟨rfl, rfl, stays⟩⟩

theorem completes_serverErrer {value : Unit} :
    Completes mysql.Answers (serverErrer req connection) s events value t ↔
      events = [⟨.mysqlError connection, ()⟩, ⟨.response (serverError req), ()⟩] ∧ t = s := by
  have first : Completes mysql.Answers (serverErrer req connection) s events value t ↔
      ∃ later, events = ⟨.mysqlError connection, ()⟩ :: later ∧ Completes mysql.Answers
        (respond req 500 "Internal Server Error" (ascii "server error")) s later value t :=
    completes_quiet (.mysqlError connection) (fun _ => rfl) fun _ _ => Iff.rfl
  rw [first]
  constructor
  · intro parts
    obtain ⟨later, whole, completes⟩ := parts
    obtain ⟨last, stays⟩ := completes_respond.mp completes
    rw [whole, last]
    exact ⟨rfl, stays⟩
  · intro parts
    exact ⟨_, parts.1, completes_respond.mpr ⟨rfl, parts.2⟩⟩

theorem completes_body {text : Bytes} {value : Unit} :
    Completes mysql.Answers (Program.lift (sprintf capacity text) >>= fun body =>
      respond req 200 "OK" body) s events value t ↔
        text.length < capacity ∧ events = [⟨.response ⟨200, ascii "OK", req.version, text⟩, ()⟩] ∧
          t = s := by
  rw [completes_lift_bind]
  constructor
  · intro parts
    obtain ⟨body, written, completes⟩ := parts
    obtain ⟨fits, same⟩ := sprintf_ok written
    subst same
    exact ⟨fits, completes_respond.mp completes⟩
  · intro parts
    obtain ⟨fits, sent⟩ := parts
    exact ⟨text, if_neg (by omega), completes_respond.mpr sent⟩

/-- Behind the lookup of a token the user is known, unless the query failed. -/
theorem completes_getUserIdx {token : Bytes} (read : sqlString (chr '\'') token = some token)
    {next : Int → Prog α}
    (completes : Completes mysql.Answers (getUserIdx connection token >>= next) s events value t) :
    ∃ outcome later, events = ⟨.mysqlQuery connection 256 (userQuery token), outcome⟩ :: later ∧
      ((outcome = none ∧ Completes mysql.Answers (next (-1)) s later value t) ∨
        ∃ users, ∃ user ∈ s.tables.usersByToken mysql.same token, outcome = some users ∧
          Reads users user.idx ∧ Completes mysql.Answers (next user.idx) s later value t) := by
  rw [getUserIdx_bind] at completes
  obtain ⟨outcome, middle, later, whole, answered, rest⟩ := completes_query.mp completes
  have same : middle = s := ((Mysql.answers_userQuery read).mp answered).state
  subst same
  refine ⟨outcome, later, whole, ?_⟩
  cases outcome with
  | none => exact .inl ⟨rfl, rest⟩
  | some users =>
      obtain ⟨text, found, rest⟩ := completes_lift_bind.mp rest
      obtain ⟨user, member, idx⟩ := userQuery_reads read answered ⟨text, found, rfl⟩
      rw [← idx] at rest
      exact .inr ⟨users, user, member, rfl, ⟨text, found, idx.symm⟩, rest⟩

/-- Behind the lookup of an ID as well, where the user may also not be there. -/
theorem completes_getUserIdxByID {ID : Bytes} (read : sqlString (chr '\'') ID = some ID)
    {next : Int → Prog α}
    (completes : Completes mysql.Answers (getUserIdxByID connection ID >>= next) s events value t) :
    ∃ outcome later, events = ⟨.mysqlQuery connection 256 (userByIDQuery ID), outcome⟩ :: later ∧
      (Completes mysql.Answers (next (-1)) s later value t ∨
        ∃ users, ∃ user ∈ s.tables.usersByID mysql.same ID, outcome = some users ∧
          Completes mysql.Answers (next user.idx) s later value t) := by
  rw [getUserIdxByID_bind] at completes
  obtain ⟨outcome, middle, later, whole, answered, rest⟩ := completes_query.mp completes
  have same : middle = s := ((Mysql.answers_userByIDQuery read).mp answered).state
  subst same
  refine ⟨outcome, later, whole, ?_⟩
  cases outcome with
  | none => exact .inl rest
  | some users =>
      cases users with
      | nil => exact .inl rest
      | cons row users =>
          obtain ⟨text, found, rest⟩ := completes_lift_bind.mp rest
          obtain ⟨user, member, idx⟩ := userByIDQuery_reads read answered ⟨text, found, rfl⟩
          rw [← idx] at rest
          exact .inr ⟨row :: users, user, member, rfl, rest⟩

end Completions

/-- The reply where a parameter is missing. -/
def missingReply (req : Request) : Reply :=
  ⟨500, ascii "Internal Server Error", req.version, ascii "missing parameters"⟩

section Serves

variable {mysql : Mysql} {job : Job} {events : History} {s t : Shared}

/-- A request that is served has its parameters, unless it is told that some are missing. -/
theorem Mysql.Serves.accepts (served : mysql.Serves job events s t) :
    (events = [⟨.response (missingReply job.req), ()⟩] ∧ t = s) ∨
      job.handler.Accepts job.req := by
  by_cases accepts : job.handler.Accepts job.req
  · exact .inr accepts
  · rw [Mysql.Serves, Job.program] at served
    cases job.handler.rejects job.req accepts with
    | inl missing =>
        rw [missing.1] at served
        exact .inl (completes_respond.mp served)
    | inr stopped =>
        obtain ⟨fault, program⟩ := stopped.1
        rw [program] at served
        exact absurd served completes_fail

theorem Mysql.Serves.same (served : mysql.Serves job events s t) (readable : job.Readable)
    {name : TableName} (other : name ∉ job.handler.targets) : s.tables.Same t.tables name :=
  Completes.keeps (R := fun s t => s.tables.Same t.tables name) served (handler_within readable)
    (fun _ => .refl _ name) (fun _ _ _ => .trans)
    fun _ _ _ _ within answered => Mysql.answers_same within other answered

theorem Mysql.Serves.extends (served : mysql.Serves job events s t) (readable : job.Readable) :
    s.tables.Extends t.tables :=
  Completes.keeps (R := fun s t => s.tables.Extends t.tables) served (handler_within readable)
    (fun _ => .refl _) (fun _ _ _ => .trans)
    fun _ _ _ _ within answered => Mysql.answers_extends within answered

theorem Mysql.Serial.extends {run : List RequestStep} (serial : mysql.Serial s run t)
    (readable : ∀ step ∈ run, step.event.op.Readable) : s.tables.Extends t.tables :=
  Interaction.Linked.keeps (R := fun s t => s.tables.Extends t.tables) (fun _ => .refl _)
    (fun _ _ _ => .trans) serial fun step member served => served.extends (readable step member)

end Serves

end Ttac
