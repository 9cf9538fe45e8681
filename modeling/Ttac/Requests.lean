import Ttac.HandlerTables
import Ttac.Lib.Threads

set_option autoImplicit false

/- Requests that are served at the same time, each by a thread of its own. -/
namespace Ttac

open Interaction (Program Exchange Status Interleaved Linked Transition eventsOf)
open Interaction.Program (Meets)
open Sql (Piece)

/-- A request with the handler that serves it. -/
structure Job where
  handler : Handler
  req : Request

def Job.program (job : Job) : Prog Unit := job.handler.program job.req

def Job.Readable (job : Job) : Prop := job.handler.Readable job.req

/-- A call of a thread on what the requests share. -/
abbrev CallStep := Transition Call Answer Shared

/-- The requests have made the calls of the run, in its order. -/
abbrev Served (mysql : Mysql) (jobs : Nat → Job) (start : Shared) (run : List CallStep)
    (threads : Nat → Prog Unit) (s : Shared) : Prop :=
  Interleaved mysql.Answers (fun thread => (jobs thread).program) start run threads s

/-- The statement that a query carried out. -/
def carriedOut : Exchange Call Answer → Option Statement
  | ⟨.mysqlQuery _ _ pieces, some _⟩ => statementOf pieces
  | _ => none

/-- The call is a query that the database understands as the statement. -/
@[simp] def Call.Sends (statement : Statement) : Call → Prop
  | .mysqlQuery _ _ pieces => statementOf pieces = some statement
  | _ => False

theorem carriedOut_sends {op : Call} {answer : Answer op} {statement : Statement}
    (carried : carriedOut ⟨op, answer⟩ = some statement) : op.Sends statement := by
  cases op with
  | mysqlQuery connection capacity pieces =>
      cases answer with
      | none => cases carried
      | some rows => exact carried
  | _ => cases carried

/-- What a call writes to is among the tables it keeps to. -/
theorem Call.Sends.target {op : Call} {statement : Statement} {targets : List TableName}
    {name : TableName} (sends : op.Sends statement) (within : op.Within targets)
    (aims : statement.target = some name) : name ∈ targets := by
  cases op with
  | mysqlQuery connection capacity pieces =>
      obtain ⟨other, understood, target⟩ := within
      cases understood.symm.trans sends
      exact target name aims
  | _ => exact sends.elim

/-- A call changes the tables by the statement it carries out, if at all. -/
theorem answers_carriedOut {mysql : Mysql} {targets : List TableName} {op : Call}
    {answer : Answer op} {s t : Shared} (within : op.Within targets)
    (answered : mysql.Answers op answer s t) :
    (carriedOut ⟨op, answer⟩ = none ∧ t.tables = s.tables) ∨
      ∃ statement gap today lastId executed, carriedOut ⟨op, answer⟩ = some statement ∧
        exec mysql gap today s.tables lastId statement = some executed ∧
          t.tables = executed.tables := by
  cases op with
  | mysqlQuery connection capacity pieces =>
      obtain ⟨statement, understood, -⟩ := within
      obtain ⟨-, failed | done⟩ := (Mysql.answers_statement understood).mp answered
      · obtain ⟨none, same⟩ := failed
        subst none same
        exact .inl ⟨rfl, rfl⟩
      · obtain ⟨gap, today, executed, rows, run, given, -, state⟩ := done
        subst given
        exact .inr ⟨statement, gap, today, _, executed, understood, run,
          congrArg Shared.tables state⟩
  | connectionPop => exact .inl ⟨rfl, by rw [answered.2]⟩
  | pushLocation =>
      obtain ⟨list, -, state⟩ := answered
      exact .inl ⟨rfl, by rw [state]⟩
  | popLocation => exact .inl ⟨rfl, congrArg Shared.tables answered.2⟩
  | _ => exact .inl ⟨rfl, congrArg Shared.tables answered⟩

section Rows

variable {β : Type} {list : List β} {f : β → Row} {capacity : Nat} {pieces : List Piece}
  {rows : List Row} {before after : Shared}

/-- The first row of an answer is the row of one of the selected. -/
theorem Mysql.Selected.head {i : Nat} {text : Bytes}
    (selected : Selected capacity pieces (list.map f) (some rows) before after)
    (read : column rows.head? i = .ok text) : ∃ b ∈ list, column (some (f b)) i = .ok text := by
  cases selected.answer with
  | inl failed => cases failed
  | inr answered =>
      obtain ⟨answer, same, order⟩ := answered
      cases same
      cases rows with
      | nil => cases read
      | cons row rows =>
          obtain ⟨b, member, same⟩ := List.mem_map.mp (order.mem_iff.mp (List.mem_cons_self ..))
          subst same
          exact ⟨b, member, read⟩

/-- The first number of an answer is the number of one of the selected. -/
theorem Mysql.Selected.reads {number : β → Int} {n : Int}
    (selected : Selected capacity pieces (list.map f) (some rows) before after)
    (first : ∀ b, column (some (f b)) 0 = .ok (decimalInt (number b)))
    (small : ∀ b ∈ list, atoi (decimalInt (number b)) = number b) (reads : Reads rows n) :
    ∃ b ∈ list, number b = n := by
  obtain ⟨text, read, value⟩ := reads
  obtain ⟨b, member, same⟩ := selected.head read
  rw [first] at same
  cases same
  rw [small b member] at value
  exact ⟨b, member, value⟩

end Rows

section Lookups

variable {mysql : Mysql} {connection capacity : Nat} {before after : Shared}

/-- The index that `getUserIdx` reads is that of a user of the token. -/
theorem userQuery_reads {token : Bytes} {users : List Row} {idx : Int}
    (read : sqlString (chr '\'') token = some token)
    (answered : mysql.Answers (.mysqlQuery connection capacity (userQuery token)) (some users)
      before after) (reads : Reads users idx) :
    ∃ user ∈ before.tables.usersByToken mysql.same token, user.idx = idx := by
  apply ((Mysql.answers_userQuery read).mp answered).reads (fun _ => rfl) ?_ reads
  intro user member
  exact Tables.atoi_number before.tables.user (Tables.mem_usersByToken.mp member).1

theorem userByIDQuery_reads {ID : Bytes} {users : List Row} {idx : Int}
    (read : sqlString (chr '\'') ID = some ID)
    (answered : mysql.Answers (.mysqlQuery connection capacity (userByIDQuery ID)) (some users)
      before after) (reads : Reads users idx) :
    ∃ user ∈ before.tables.usersByID mysql.same ID, user.idx = idx := by
  apply ((Mysql.answers_userByIDQuery read).mp answered).reads (fun _ => rfl) ?_ reads
  intro user member
  exact Tables.atoi_number before.tables.user (List.mem_filter.mp member).1

/-- In one of its calls, the thread looked the token of its request up and found the user. -/
def Authenticated (mysql : Mysql) (jobs : Nat → Job) (run : List CallStep) (thread : Nat)
    (idx : Int) :
    Prop :=
  ∃ token, findValue (jobs thread).req.parameter (ascii "token") = .ok (some token) ∧
    ∃ step ∈ run, step.thread = thread ∧
      (∃ connection capacity, step.event.op = .mysqlQuery connection capacity (userQuery token)) ∧
        ∃ user ∈ step.before.tables.usersByToken mysql.same token, user.idx = idx

theorem Authenticated.append {jobs : Nat → Job} {run : List CallStep} {thread : Nat} {idx : Int}
    (authenticated : Authenticated mysql jobs run thread idx) (more : List CallStep) :
    Authenticated mysql jobs (run ++ more) thread idx := by
  obtain ⟨token, found, step, member, rest⟩ := authenticated
  exact ⟨token, found, step, List.mem_append_left more member, rest⟩

end Lookups

section Runs

variable {mysql : Mysql} {jobs : Nat → Job} {start s : Shared} {run earlier later : List CallStep}
  {threads : Nat → Prog Unit}

/-- A step of a run follows the rules. -/
theorem Served.answers (served : Served mysql jobs start run threads s) {step : CallStep}
    (member : step ∈ run) :
    mysql.Answers step.event.op step.event.answer step.before step.after := by
  obtain ⟨earlier, later, whole⟩ := List.append_of_mem member
  subst whole
  exact (Interaction.linked_around_iff.mp served.linked).2.1

/-- What a thread has found out about its token. -/
theorem Served.authenticated (served : Served mysql jobs start run threads s) {thread : Nat}
    {token : Bytes} {connection capacity : Nat} {users : List Row} {idx : Int}
    (found : findValue (jobs thread).req.parameter (ascii "token") = .ok (some token))
    (read : sqlString (chr '\'') token = some token)
    (lookup : ⟨.mysqlQuery connection capacity (userQuery token), some users⟩ ∈ eventsOf thread run)
    (reads : Reads users idx) : Authenticated mysql jobs run thread idx := by
  obtain ⟨step, member, own, event⟩ := Interaction.mem_eventsOf.mp lookup
  have answered := served.answers member
  rw [event] at answered
  exact ⟨token, found, step, member, own, ⟨connection, capacity, by rw [event]⟩,
    userQuery_reads read answered reads⟩

theorem Served.within (readable : ∀ thread, (jobs thread).Readable)
    (served : Served mysql jobs start run threads s) :
    ∀ step ∈ run, step.event.op.Within (jobs step.thread).handler.targets := by
  intro step member
  have own := served.meets (handler_within (readable step.thread)).meets
  exact own step.event (Interaction.mem_eventsOf.mpr ⟨step, member, rfl, rfl⟩)

/-- What was there in front of a step is still there. -/
theorem Served.extends (readable : ∀ thread, (jobs thread).Readable)
    (served : Served mysql jobs start run threads s) {step : CallStep} (member : step ∈ run) :
    step.before.tables.Extends s.tables := by
  have within := served.within readable
  obtain ⟨earlier, later, whole⟩ := List.append_of_mem member
  subst whole
  obtain ⟨-, answered, rest⟩ := Interaction.linked_around_iff.mp served.linked
  have behind : Linked mysql.Answers step.before (step :: later) s := .cons answered rest
  apply behind.keeps (R := fun s t => s.tables.Extends t.tables)
  · exact fun _ => .refl _
  · exact fun _ _ _ => .trans
  · intro other member answered
    exact Mysql.answers_extends (within other (List.mem_append_right _ member)) answered

theorem Served.extends_start (readable : ∀ thread, (jobs thread).Readable)
    (served : Served mysql jobs start run threads s) : start.tables.Extends s.tables := by
  apply served.linked.keeps (R := fun s t => s.tables.Extends t.tables)
  · exact fun _ => .refl _
  · exact fun _ _ _ => .trans
  · intro other member answered
    exact Mysql.answers_extends (served.within readable other member) answered

end Runs

end Ttac
