import Ttac.Requests
import Ttac.Lib.Recording

set_option autoImplicit false

/- Requests that are served one behind the other, and queries that are carried out. -/
namespace Ttac

open Interaction (Program Exchange Status Rules Path Completes Transition Linked Follows record)
open Interaction.Program (World)
open Sql (Piece)

/-- The request is served to its end, with nothing else in between. -/
def Mysql.Serves (mysql : Mysql) : Rules Job (fun _ => History) Shared := fun job events s t =>
  Completes mysql.Answers job.program s events () t

/-- A request that is served, with its calls and the states around it. -/
abbrev RequestStep := Transition Job (fun _ => History) Shared

/-- Requests served one behind the other. -/
abbrev Mysql.Serial (mysql : Mysql) (s : Shared) (run : List RequestStep) (t : Shared) : Prop :=
  Linked mysql.Serves s run t

/-- The rows and the state behind a statement that is carried out. -/
def Shared.execute (mysql : Mysql) (gap : Nat) (today : Bytes) (connection : Nat)
    (statement : Statement) (s : Shared) : Option (List Row × Shared) :=
  (exec mysql gap today s.tables (s.lastId connection) statement).map fun executed =>
    (executed.rows, { s with
      tables := executed.tables
      lastId := Function.update s.lastId connection executed.lastId })

/-- The state behind a connection that is opened. -/
def Shared.open (s : Shared) : Shared := { s with
  connections := s.connections + 1
  lastId := Function.update s.lastId s.connections 0 }

section Answers

variable {mysql : Mysql} {connection capacity gap : Nat} {today : Bytes} {pieces : List Piece}
  {rows : List Row} {s t : Shared}

theorem answers_execute {statement : Statement} (understood : statementOf pieces = some statement)
    (fits : (Sql.render pieces).length < capacity)
    (executed : s.execute mysql gap today connection statement = some (rows, t)) :
    mysql.Answers (.mysqlQuery connection capacity pieces) (some rows) s t := by
  obtain ⟨found, run, same⟩ := Option.map_eq_some_iff.mp executed
  rw [Prod.mk.injEq] at same
  refine (Mysql.answers_statement understood).mpr
    ⟨fits, .inr ⟨gap, today, found, rows, run, rfl, ?_, ?_⟩⟩
  · rw [same.1]
  · exact same.2.symm

/-- A statement without rows that is carried out. -/
theorem answers_changes {statement : Statement} (understood : statementOf pieces = some statement)
    (fits : (Sql.render pieces).length < capacity)
    (done : (s.execute mysql gap today connection statement).isSome)
    (silent : ((s.execute mysql gap today connection statement).get done).1 = []) :
    mysql.Answers (.mysqlQuery connection capacity pieces) (some []) s
      ((s.execute mysql gap today connection statement).get done).2 := by
  apply answers_execute understood fits
  rw [← silent]
  exact (Option.some_get done).symm

theorem answers_fails {statement : Statement} (understood : statementOf pieces = some statement)
    (fits : (Sql.render pieces).length < capacity) :
    mysql.Answers (.mysqlQuery connection capacity pieces) none s s :=
  (Mysql.answers_statement understood).mpr ⟨fits, .inl ⟨rfl, rfl⟩⟩

theorem answers_pop : mysql.Answers .connectionPop s.connections s s.open := ⟨rfl, rfl⟩

end Answers

section World

variable (mysql : Mysql) (today : Bytes)

/-- A system on one day, whose database carries out every query of the server that no
constraint refuses. -/
def Mysql.world : World Call Answer Fault Shared where
  answer
    | .connectionPop, s => (.ok s.connections, s.open)
    | .mysqlQuery connection capacity pieces, s =>
      match sprintf capacity (Sql.render pieces), statementOf pieces with
      | .ok _, some statement =>
        match s.execute mysql 0 today connection statement with
        | some (rows, t) => (.ok (some rows), t)
        | none => (.ok none, s)
      | .ok _, none => (.error .nullPointer, s)
      | .error fault, _ => (.error fault, s)
    | .pushLocation userId latitude longitude, s =>
      match pushNode s.locationList userId latitude longitude with
      | .ok list => (.ok (), { s with locationList := list })
      | .error fault => (.error fault, s)
    | .popLocation userId, s => (popNode s.locationList userId, s)
    | .rand, s => (.ok s.connections, s)
    | .localtime, s => (.ok ⟨118, 5, 12, 0, 0, 0⟩, s)
    | .connectionPush _, s | .mysqlCommit _, s | .mysqlError _, s | .response _, s | .close, s =>
      (.ok (), s)

theorem Mysql.world_follows : Follows (mysql.world today) mysql.Answers := by
  intro op answer s t answered
  cases op with
  | connectionPop =>
      cases answered
      exact answers_pop
  | mysqlQuery connection capacity pieces =>
      simp only [Mysql.world] at answered
      rcases written : sprintf capacity (Sql.render pieces) with fault | text
      · rw [written] at answered
        cases answered
      · rw [written] at answered
        rcases understood : statementOf pieces with _ | statement
        · rw [understood] at answered
          cases answered
        · rw [understood] at answered
          dsimp only at answered
          have fits := (sprintf_ok written).1
          rcases executed : s.execute mysql 0 today connection statement with _ | ⟨rows, after⟩
          · rw [executed] at answered
            cases answered
            exact answers_fails understood fits
          · rw [executed] at answered
            cases answered
            exact answers_execute understood fits executed
  | pushLocation userId latitude longitude =>
      simp only [Mysql.world] at answered
      rcases pushed : pushNode s.locationList userId latitude longitude with fault | list
      · rw [pushed] at answered
        cases answered
      · rw [pushed] at answered
        cases answered
        exact ⟨list, pushed, rfl⟩
  | popLocation userId =>
      obtain ⟨found, same⟩ := Prod.mk.inj answered
      exact ⟨found, same.symm⟩
  | _ =>
      cases answered
      rfl

/-- The requests served one behind the other, and the state behind them. -/
def Mysql.serveAll : List Job → Shared → Option (List RequestStep × Shared)
  | [], s => some ([], s)
  | job :: jobs, s =>
    match record (mysql.world today) job.program s with
    | some (events, _, t) =>
      (serveAll jobs t).map fun later => (⟨0, ⟨job, events⟩, s, t⟩ :: later.1, later.2)
    | none => none

theorem Mysql.serveAll_cons {job : Job} {jobs : List Job} {s t : Shared} {run : List RequestStep}
    (served : mysql.serveAll today (job :: jobs) s = some (run, t)) :
    ∃ events value middle tail, record (mysql.world today) job.program s =
        some (events, value, middle) ∧
      mysql.serveAll today jobs middle = some (tail, t) ∧
        run = ⟨0, ⟨job, events⟩, s, middle⟩ :: tail := by
  rw [Mysql.serveAll] at served
  rcases recorded : record (mysql.world today) job.program s with _ | ⟨events, value, middle⟩
  · rw [recorded] at served
    cases served
  · rw [recorded] at served
    obtain ⟨later, found, same⟩ := Option.map_eq_some_iff.mp served
    cases same
    exact ⟨events, value, middle, later.1, rfl, found, rfl⟩

theorem Mysql.serveAll_serial {jobs : List Job} {s t : Shared} {run : List RequestStep}
    (served : mysql.serveAll today jobs s = some (run, t)) : mysql.Serial s run t := by
  induction jobs generalizing s run with
  | nil =>
      cases served
      exact .nil _
  | cons job jobs ih =>
      obtain ⟨events, value, middle, tail, recorded, found, whole⟩ :=
        mysql.serveAll_cons today served
      have first : mysql.Serves job events s middle :=
        Interaction.record_completes (mysql.world_follows today) recorded
      rw [whole]
      exact Interaction.linked_cons_iff.mpr ⟨rfl, first, ih found⟩

theorem Mysql.serveAll_jobs {jobs : List Job} {s t : Shared} {run : List RequestStep}
    (served : mysql.serveAll today jobs s = some (run, t)) :
    run.map (fun step => step.event.op) = jobs := by
  induction jobs generalizing s run with
  | nil =>
      cases served
      rfl
  | cons job jobs ih =>
      obtain ⟨events, value, middle, tail, -, found, whole⟩ :=
        mysql.serveAll_cons today served
      rw [whole, List.map_cons, ih found]

theorem readable_of_jobs {run : List RequestStep} {jobs : List Job}
    (same : run.map (fun step => step.event.op) = jobs) (readable : ∀ job ∈ jobs, job.Readable) :
    ∀ step ∈ run, step.event.op.Readable := by
  intro step member
  apply readable
  rw [← same]
  exact List.mem_map_of_mem member

/-- A request with these parameters. -/
def requestOf (parameters : List (String × Bytes)) : Request :=
  ⟨ascii "POST", ascii "/", ascii "HTTP/1.1", [], none,
    parameters.map fun entry => ⟨some (ascii entry.1), entry.2⟩⟩

/-- The requests of a list, and none with values behind them. -/
theorem getD_readable {jobs : List Job} (readable : ∀ job ∈ jobs, job.Readable) (thread : Nat) :
    (jobs.getD thread ⟨.joinGroup, requestOf []⟩).Readable := by
  have outside : Handler.joinGroup.Readable (requestOf []) := by decide
  rw [List.getD_eq_getElem?_getD]
  cases found : jobs[thread]? with
  | none => exact outside
  | some job => exact readable job (List.mem_of_getElem? found)

/-- The token drawn by the login on a connection. -/
def tokenOn (connection : Nat) : Bytes := List.replicate 50 (tokenChar ((connection + 1) % 62))

/-- The requests by which a user signs up and logs in. -/
def arrival (ID : Bytes) : List Job :=
  [⟨.signup, requestOf [("ID", ID), ("password", ascii "p"), ("name", ascii "n")]⟩,
    ⟨.login, requestOf [("ID", ID), ("password", ascii "p")]⟩]

end World

end Ttac
