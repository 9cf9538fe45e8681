import Ttac.HandlerRuns
import Ttac.Lib.LastWrite

set_option autoImplicit false

/- The numbers of the users in `progress`, and what `post_progress` does to them. -/
namespace Ttac

open Interaction (Program Exchange Status Linked eventsOf)
open Interaction.Program (Meets)
open Sql (Piece)

namespace Statement

/-- The user and the number that a statement writes into `progress`. -/
def progressWrite : Statement → Option (Int × Int)
  | .insertProgress userIdx number => some (userIdx, number)
  | .updateProgress number userIdx => some (userIdx, number)
  | _ => none

/-- What a statement makes of the numbers of a user. -/
def renumber (userIdx : Int) (numbers : List Int) : Statement → List Int
  | .insertProgress idx number => if idx = userIdx then numbers ++ [number] else numbers
  | .updateProgress number idx => if idx = userIdx then numbers.map fun _ => number else numbers
  | _ => numbers

def insertsProgress (userIdx : Int) : Statement → Bool
  | .insertProgress idx _ => idx = userIdx
  | _ => false

theorem renumber_length (userIdx : Int) (numbers : List Int) (statement : Statement) :
    (statement.renumber userIdx numbers).length =
      numbers.length + if statement.insertsProgress userIdx then 1 else 0 := by
  cases statement with
  | insertProgress idx number =>
      by_cases own : idx = userIdx <;> simp [renumber, insertsProgress, own]
  | updateProgress number idx =>
      by_cases own : idx = userIdx <;> simp [renumber, insertsProgress, own]
  | _ => rfl

end Statement

def Tables.numbersOf (tables : Tables) (userIdx : Int) : List Int :=
  (tables.progressOf userIdx).map Progress.number

section Exec

variable {mysql : Mysql} {gap : Nat} {today : Bytes} {tables : Tables} {lastId : Int}
  {executed : Executed} {statement : Statement}

theorem exec_progressWrite {userIdx number : Int}
    (run : exec mysql gap today tables lastId statement = some executed)
    (writes : statement.progressWrite = some (userIdx, number)) :
    -(2 ^ 31) ≤ number ∧ number < 2 ^ 31 := by
  cases statement with
  | insertProgress =>
      cases writes
      obtain ⟨after, inserted, -⟩ := Option.bind_eq_some_iff.mp run
      exact (Tables.insertProgress_some inserted).1
  | updateProgress =>
      cases writes
      obtain ⟨after, updated, -⟩ := Option.bind_eq_some_iff.mp run
      exact (Tables.updateProgress_some updated).1
  | _ => cases writes

/-- A statement changes the numbers of each user as `renumber` says. -/
theorem exec_numbersOf (run : exec mysql gap today tables lastId statement = some executed)
    (userIdx : Int) :
    executed.tables.numbersOf userIdx = statement.renumber userIdx (tables.numbersOf userIdx) := by
  cases statement with
  | insertProgress idx number =>
      obtain ⟨after, inserted, same⟩ := Option.bind_eq_some_iff.mp run
      cases same
      obtain ⟨-, rows, -⟩ := Tables.insertProgress_some inserted
      rw [Tables.numbersOf, Tables.progressOf, rows, List.filter_append, List.map_append]
      by_cases own : idx = userIdx
      · simp [Statement.renumber, Tables.numbersOf, Tables.progressOf, own]
      · simp [Statement.renumber, Tables.numbersOf, Tables.progressOf, own]
  | updateProgress number idx =>
      obtain ⟨after, updated, same⟩ := Option.bind_eq_some_iff.mp run
      cases same
      obtain ⟨-, rows, -⟩ := Tables.updateProgress_some updated
      have owner (row : Progress) :
          (if row.userIdx = idx then { row with number := number } else row).userIdx =
            row.userIdx := by
        split <;> rfl
      have kept : ((fun row : Progress => decide (row.userIdx = userIdx)) ∘ fun row =>
          if row.userIdx = idx then { row with number := number } else row) =
            fun row => decide (row.userIdx = userIdx) := by
        funext row
        simp only [Function.comp_apply, owner]
      rw [Tables.numbersOf, Tables.progressOf, rows, List.filter_map, kept, List.map_map,
        Statement.renumber, Tables.numbersOf, Tables.progressOf]
      split
      · rename_i own
        rw [List.map_map]
        apply List.map_congr_left
        intro row member
        have belongs : row.userIdx = idx := by
          rw [own]
          exact of_decide_eq_true (List.mem_filter.mp member).2
        simp only [Function.comp_apply, if_pos belongs]
      · rename_i other
        apply List.map_congr_left
        intro row member
        have differs : row.userIdx ≠ idx := by
          rw [of_decide_eq_true (List.mem_filter.mp member).2]
          exact Ne.symm other
        simp only [Function.comp_apply, if_neg differs]
  | _ =>
      have same : Tables.Same tables executed.tables .progress :=
        exec_same (by simp [Statement.target]) run
      rw [Tables.numbersOf, Tables.progressOf, ← show tables.progress = _ from same]
      rfl

end Exec

/-- The calls of `post_progress` in front of its second query. -/
def picking (connection : Nat) (token : Bytes) (users rows : List Row) (idx : Int) : History :=
  [⟨.connectionPop, connection⟩, ⟨.mysqlQuery connection 256 (userQuery token), some users⟩,
    ⟨.mysqlQuery connection 256 (progressQuery idx), some rows⟩]

/-- The number is that of the request, and the user was found by its token. -/
structure OwnNumber (req : Request) (token : Bytes) (users : List Row) (userIdx number : Int) :
    Prop where
  tokenFound : findValue req.parameter (ascii "token") = .ok (some token)
  reads : Reads users userIdx
  numberFound : ∃ text, findValue req.parameter (ascii "number") = .ok (some text) ∧
    sqlInteger text = some number

/-- What is written into `progress` is the number of the request for the user of its token. It is
inserted where the select found no row of the user, and changed where it found one. -/
def PicksWrite (req : Request) (events : History) (op : Call) : Prop :=
  (∀ userIdx number, op.Sends (.insertProgress userIdx number) →
    ∃ connection token users, OwnNumber req token users userIdx number ∧
      events = picking connection token users [] userIdx) ∧
  ∀ number userIdx, op.Sends (.updateProgress number userIdx) →
    ∃ connection token users row rows, OwnNumber req token users userIdx number ∧
      events = picking connection token users (row :: rows) userIdx

theorem PicksWrite.of_quiet {req : Request} {events : History} {op : Call}
    (quiet : ∀ statement : Statement, statement.progressWrite.isSome → ¬ op.Sends statement) :
    PicksWrite req events op := by
  constructor
  · intro userIdx number sends
    exact absurd sends (quiet _ rfl)
  · intro number userIdx sends
    exact absurd sends (quiet _ rfl)

theorem PicksWrite.of_query {req : Request} {events : History} {connection capacity : Nat}
    {pieces : List Piece}
    (reads : ∀ statement, statementOf pieces = some statement → statement.progressWrite = none) :
    PicksWrite req events (.mysqlQuery connection capacity pieces) := by
  apply PicksWrite.of_quiet
  intro statement writes sends
  rw [reads statement sends] at writes
  cases writes

/-- What `get_progress` prints of the rows of its select. -/
def firstNumber : List Row → Except Fault Bytes
  | [] => .ok (ascii "0")
  | row :: _ => column (some row) 0

section Shapes

variable {req : Request}

theorem userQuery_picks {events : History} {connection : Nat} {token : Bytes} :
    PicksWrite req events (.mysqlQuery connection 256 (userQuery token)) := by
  apply PicksWrite.of_query
  intro statement sends
  rw [userQuery_statement, Option.map_eq_some_iff] at sends
  obtain ⟨text, -, same⟩ := sends
  rw [← same]
  rfl

theorem progressQuery_picks {events : History} {connection : Nat} {idx : Int} :
    PicksWrite req events (.mysqlQuery connection 256 (progressQuery idx)) := by
  apply PicksWrite.of_query
  intro statement sends
  rw [progressQuery_statement, Option.some.injEq] at sends
  rw [← sends]
  rfl

theorem respond_picks {f : History → History} {statusCode : Int} {statusMsg : String}
    {body : Bytes} :
    (respond req statusCode statusMsg body).Meets fun events => Asks (PicksWrite req) (f events) :=
  Asks.respond (.of_quiet (by simp))

theorem serverErrer_picks {f : History → History} {connection : Nat} :
    (serverErrer req connection).Meets fun events => Asks (PicksWrite req) (f events) :=
  Asks.serverErrer (.of_quiet (by simp)) (.of_quiet (by simp))

theorem postProgress_picks : (postProgress req).Meets (Asks (PicksWrite req)) := by
  apply Handler.meets .postProgress (respond_picks (f := id)) (asks_failed _)
  intro accepts
  cases accepts.given with
  | @postProgress token number tokenFound numberFound =>
      simp only [Handler.program, postProgress, findParameter, tokenFound, numberFound,
        Program.lift_ok_bind]
      apply Asks.pop (f := id) (.of_quiet (by simp))
      intro connection
      apply Asks.getUserIdx userQuery_picks
      · rw [if_pos rfl]
        exact serverErrer_picks
      intro users idx found
      apply Program.meets_ite.mpr
      refine ⟨fun _ => serverErrer_picks, ?_⟩
      intro known
      apply Asks.query progressQuery_picks
      intro outcome
      cases outcome with
      | none => exact serverErrer_picks
      | some rows =>
          cases rows with
          | nil =>
              apply Asks.query
              · constructor
                · intro userIdx value sends
                  rw [Call.Sends, insertProgressQuery_statement, Option.map_eq_some_iff] at sends
                  obtain ⟨read, numberRead, same⟩ := sends
                  cases same
                  exact ⟨connection, token, users,
                    ⟨tokenFound, found, number, numberFound, numberRead⟩, rfl⟩
                · intro value userIdx sends
                  rw [Call.Sends, insertProgressQuery_statement, Option.map_eq_some_iff] at sends
                  obtain ⟨read, -, same⟩ := sends
                  cases same
              · intro outcome
                apply Asks.lift
                intro body _
                exact Asks.push (.of_quiet (by simp)) respond_picks
          | cons row rows =>
              apply Asks.query
              · constructor
                · intro userIdx value sends
                  rw [Call.Sends, updateProgressQuery_statement, Option.map_eq_some_iff] at sends
                  obtain ⟨read, -, same⟩ := sends
                  cases same
                · intro value userIdx sends
                  rw [Call.Sends, updateProgressQuery_statement, Option.map_eq_some_iff] at sends
                  obtain ⟨read, numberRead, same⟩ := sends
                  cases same
                  exact ⟨connection, token, users, row, rows,
                    ⟨tokenFound, found, number, numberFound, numberRead⟩, rfl⟩
              · intro outcome
                apply Asks.lift
                intro body _
                exact Asks.push (.of_quiet (by simp)) respond_picks

end Shapes

/-- The reply of `get_progress` with a number. -/
def numberReply (req : Request) (number : Bytes) : Reply :=
  ⟨200, ascii "OK", req.version, numberBody number⟩

/-- The reply is sent behind the push of the connection, is sent next, or has been sent. -/
def Sending (reply : Reply) : HistorySpec Unit := fun events status =>
  (replies events = [] ∧ ((∃ connection, status = .calling (.connectionPush connection)) ∨
    status = .calling (.response reply))) ∨ (replies events = [reply] ∧ status = .returned ())

/-- A select of the number of a user has had these rows. -/
def Selects (events : History) (rows : List Row) : Prop :=
  ∃ connection capacity pieces idx, ⟨.mysqlQuery connection capacity pieces, some rows⟩ ∈ events ∧
    statementOf pieces = some (.progressOf idx)

/-- Behind its select `get_progress` goes on to send the number it found. -/
def AnswersNumber (req : Request) : HistorySpec Unit := fun events status =>
  ∀ rows number, Selects events rows → firstNumber rows = .ok number →
    number.length + 11 < 256 → Sending (numberReply req number) events status

section Selects

variable {before after : History} {rows others : List Row} {connection capacity : Nat}
  {pieces : List Piece}

theorem selects_append :
    Selects (before ++ after) rows ↔ Selects before rows ∨ Selects after rows := by
  simp only [Selects, List.mem_append, or_and_right, exists_or]

theorem not_selects_of_quiet (quiet : ∀ event ∈ before, event.op.NotQuery) :
    ¬ Selects before rows := by
  intro selects
  obtain ⟨connection, capacity, pieces, idx, member, -⟩ := selects
  exact quiet _ member

theorem selects_query
    (selects : Selects [⟨.mysqlQuery connection capacity pieces, some others⟩] rows) :
    rows = others ∧ ∃ idx, statementOf pieces = some (.progressOf idx) := by
  obtain ⟨c, size, text, idx, member, understood⟩ := selects
  cases List.mem_singleton.mp member
  exact ⟨rfl, idx, understood⟩

theorem not_selects_failed : ¬ Selects [⟨.mysqlQuery connection capacity pieces, none⟩] rows := by
  intro selects
  obtain ⟨c, size, text, idx, member, understood⟩ := selects
  cases List.mem_singleton.mp member

theorem not_selects_userQuery {token : Bytes} :
    ¬ Selects [⟨.mysqlQuery connection capacity (userQuery token), some others⟩] rows := by
  intro selects
  obtain ⟨-, idx, understood⟩ := selects_query selects
  rw [userQuery_statement, Option.map_eq_some_iff] at understood
  obtain ⟨text, -, differs⟩ := understood
  cases differs

end Selects

section Answering

variable {req : Request} {events : History} {status : Status Call Fault Unit}

theorem AnswersNumber.of_unselected (unselected : ∀ rows, ¬ Selects events rows) :
    AnswersNumber req events status := by
  intro rows number selects
  exact absurd selects (unselected rows)

/-- A part without queries, behind a history without a select. -/
theorem quiet_answers (front : History) {program : Prog Unit}
    (unselected : ∀ rows, ¬ Selects front rows) (quiet : program.Always Call.NotQuery) :
    program.Meets fun events => AnswersNumber req (front ++ events) := by
  apply quiet.meets.mono
  intro events status never
  apply AnswersNumber.of_unselected
  intro rows selects
  cases selects_append.mp selects with
  | inl before => exact unselected rows before
  | inr after => exact not_selects_of_quiet never after

theorem serverErrer_notQuery {connection : Nat} :
    (serverErrer req connection).Always Call.NotQuery :=
  ⟨trivial, fun _ => ⟨trivial, fun _ => trivial⟩⟩

/-- The end of `get_progress`, behind a history whose selects give the number. -/
theorem number_answers (front : History) {connection : Nat} {number : Bytes}
    (found : ∀ rows, Selects front rows → firstNumber rows = .ok number)
    (silent : replies front = []) :
    (Program.lift (sprintf 256 (numberBody number)) >>= fun body =>
      connectionPush connection >>= fun _ => respond req 200 "OK" body).Meets
        fun events => AnswersNumber req (front ++ events) := by
  have only {rows : List Row} {other : Bytes} {more : History}
      (quiet : ∀ event ∈ more, event.op.NotQuery) (selects : Selects (front ++ more) rows)
      (read : firstNumber rows = .ok other) : other = number := by
    cases selects_append.mp selects with
    | inl before => exact Except.ok.inj (read.symm.trans (found rows before))
    | inr after => exact absurd after (not_selects_of_quiet quiet)
  have replied (more : History) : replies (front ++ more) = replies more := by
    rw [replies_append, silent, List.nil_append]
  apply Program.meets_lift_bind.mpr
  constructor
  · intro body written
    obtain ⟨-, same⟩ := sprintf_ok written
    subst same
    apply meets_connectionPush.mpr
    constructor
    · intro rows other selects read _
      exact .inl ⟨replied [], .inl ⟨connection, rfl⟩⟩
    · apply meets_respond.mpr
      constructor
      · intro rows other selects read _
        have same := only (by simp [Call.NotQuery]) selects read
        subst same
        exact .inl ⟨replied _, .inr rfl⟩
      · intro rows other selects read _
        have same := only (by simp [Call.NotQuery]) selects read
        subst same
        exact .inr ⟨replied _, rfl⟩
  · intro fault failed rows other selects read fits
    have same := only (by simp) selects read
    subst same
    have length := numberBody_length other
    have written : sprintf 256 (numberBody other) = .ok (numberBody other) := if_neg (by omega)
    rw [written] at failed
    cases failed

theorem getProgress_answers : (getProgress req).Meets (AnswersNumber req) := by
  have silent : ∀ rows, ¬ Selects [] rows := fun rows => not_selects_of_quiet (by simp)
  apply Handler.meets .getProgress
  · exact quiet_answers [] silent ⟨trivial, fun _ => trivial⟩
  · exact .of_unselected silent
  intro accepts
  cases accepts.given with
  | @getProgress token tokenFound =>
      simp only [Handler.program, getProgress, findParameter, tokenFound, Program.lift_ok_bind]
      apply meets_connectionPop.mpr
      refine ⟨.of_unselected silent, ?_⟩
      intro connection
      have popped : ∀ rows, ¬ Selects [⟨.connectionPop, connection⟩] rows :=
        fun rows => not_selects_of_quiet (by simp [Call.NotQuery])
      have refuses (front : History) (unselected : ∀ rows, ¬ Selects front rows) :
          (serverErrer req connection).Meets fun events => AnswersNumber req (front ++ events) :=
        quiet_answers front unselected serverErrer_notQuery
      rw [getUserIdx_bind]
      apply meets_mysqlQuery.mpr
      refine ⟨.of_unselected popped, ?_⟩
      intro outcome
      cases outcome with
      | none =>
          rw [lookupRest, if_pos rfl]
          refine refuses ([⟨.connectionPop, connection⟩] ++ [_]) ?_
          intro rows selects
          exact (selects_append.mp selects).elim (popped rows) not_selects_failed
      | some users =>
          let looked : History := [⟨.connectionPop, connection⟩] ++
            [⟨.mysqlQuery connection 256 (userQuery token), some users⟩]
          have unselected : ∀ rows, ¬ Selects looked rows := by
            intro rows selects
            exact (selects_append.mp selects).elim (popped rows) not_selects_userQuery
          apply Program.meets_lift_bind.mpr
          refine ⟨?_, fun fault _ => .of_unselected unselected⟩
          intro text read
          apply Program.meets_ite.mpr
          refine ⟨fun _ => refuses looked unselected, ?_⟩
          intro known
          apply meets_mysqlQuery.mpr
          refine ⟨.of_unselected unselected, ?_⟩
          intro outcome
          cases outcome with
          | none =>
              refine refuses (looked ++ [_]) ?_
              intro rows selects
              exact (selects_append.mp selects).elim (unselected rows) not_selects_failed
          | some rows =>
              have only (others : List Row) (selects : Selects (looked ++
                  [⟨.mysqlQuery connection 256 (progressQuery (atoi text)), some rows⟩]) others) :
                  others = rows := by
                cases selects_append.mp selects with
                | inl before => exact absurd before (unselected others)
                | inr after => exact (selects_query after).1
              cases rows with
              | nil =>
                  refine number_answers (looked ++ [_]) ?_ ?_
                  · intro others selects
                    rw [only others selects]
                    rfl
                  · rfl
              | cons row rows =>
                  apply Program.meets_lift_bind.mpr
                  constructor
                  · intro number first
                    refine number_answers (looked ++ [_]) ?_ ?_
                    · intro others selects
                      rw [only others selects]
                      exact first
                    · rfl
                  · intro fault failed others other selects read _
                    rw [only others selects, firstNumber, failed] at read
                    cases read

end Answering

end Ttac
