import Ttac.GroupCreation
import Ttac.HandlerRuns
import Ttac.Lib.FirstWrite
import Mathlib.Data.List.Count

set_option autoImplicit false

/- The attendance that `create_chat` and `get_chatlist` record, on the day of each request. -/
namespace Ttac

open Interaction (Program Exchange Status Interleaved Linked Rules Transition eventsOf)
open Interaction.Program (Meets Always World)
open Sql (Piece)

/-- A whole number that is an `int` is the same for the database and for `atoi`. -/
theorem atoi_sqlInteger {text : Bytes} {n : Int} (read : sqlInteger text = some n)
    (lower : -(2 ^ 31) ≤ n) (upper : n < 2 ^ 31) : atoi text = n := by
  have digits {digits : Bytes} (whole : Sql.isInteger digits = true) :
      digits.takeWhile isDigit = digits := by
    simp only [Sql.isInteger, Bool.and_eq_true] at whole
    apply List.takeWhile_eq_self_iff.mpr
    intro c member
    exact List.all_eq_true.mp whole.2 c member
  have long : strtol text = n := by
    cases text with
    | nil => cases read
    | cons c rest =>
        rw [sqlInteger] at read
        by_cases minus : c = chr '-'
        · subst minus
          rw [if_pos rfl] at read
          split at read
          · rename_i whole
            cases read
            have notSpace : isSpace (chr '-') = false := by decide
            simp only [strtol, List.dropWhile_cons, notSpace, Bool.false_eq_true, ↓reduceIte,
              digits whole]
            omega
          · cases read
        · rw [if_neg minus] at read
          split at read
          · rename_i whole
            cases read
            have digit : isDigit c = true := by
              simp only [Sql.isInteger, Bool.and_eq_true] at whole
              exact List.all_eq_true.mp whole.2 c (List.mem_cons_self ..)
            have notSpace := isDigit_not_space c digit
            have notPlus : c ≠ chr '+' := by
              intro plus
              subst plus
              revert digit
              decide
            simp only [strtol, List.dropWhile_cons, notSpace, Bool.false_eq_true, ↓reduceIte, minus,
              notPlus, digits whole]
            omega
          · cases read
  rw [atoi, long]
  exact Int.bmod_eq_of_le (by omega) (by omega)

/-- What the requests share, on a day. -/
structure Dated where
  shared : Shared
  today : Bytes

/-- The rules with `NOW()`: an attendance is inserted with the day, unless a constraint refuses
it. Between two calls the day may pass. -/
def Mysql.Daily (mysql : Mysql) : Rules Call Answer Dated := fun op answer s t =>
  mysql.Answers op answer s.shared t.shared ∧
    ∀ userIdx groupIdx, op.Sends (.insertAttendance userIdx groupIdx) →
      t.shared.tables.attendance =
        ((s.shared.tables.insertAttendance userIdx groupIdx s.today).getD
          s.shared.tables).attendance

abbrev DatedStep := Transition Call Answer Dated

/-- The requests have made the calls of the run, in its order. -/
abbrev ServedDaily (mysql : Mysql) (jobs : Nat → Job) (start : Dated) (run : List DatedStep)
    (threads : Nat → Prog Unit) (s : Dated) : Prop :=
  Interleaved mysql.Daily (fun thread => (jobs thread).program) start run threads s

/-- The day on which a step checks the attendance, with the user and the group. -/
def DatedStep.checks (step : DatedStep) : Option (Bytes × (Int × Int)) :=
  match step.event.op with
  | .mysqlQuery _ _ pieces =>
    match statementOf pieces with
    | some (.insertAttendance userIdx groupIdx) => some (step.before.today, (userIdx, groupIdx))
    | _ => none
  | _ => none

/-- The user and the group of the first check of a day. -/
def firstCheck (run : List DatedStep) (day : Bytes) : Option (Int × Int) :=
  LastWrite.get day (run.filterMap DatedStep.checks)

/-- The handlers that check the attendance. -/
def chatHandlers : List Handler := [.createChat, .getChatlist]

/-- The attendance is checked behind the lookup of the token, for the user it gave and the group
of the request, and in front of every reply 200. -/
def ChecksAttendance (req : Request) (events : History) (op : Call) : Prop :=
  (∀ userIdx groupIdx, op.Sends (.insertAttendance userIdx groupIdx) →
    ∃ connection token users groupId,
      findValue req.parameter (ascii "token") = .ok (some token) ∧
        findValue req.parameter (ascii "group_id") = .ok (some groupId) ∧
          groupIdx = atoi groupId ∧ Reads users userIdx ∧
            events = [⟨.connectionPop, connection⟩,
              ⟨.mysqlQuery connection 256 (userQuery token), some users⟩]) ∧
  ∀ reply, op = .response reply → reply.statusCode = 200 →
    ∃ connection userIdx groupIdx outcome,
      ⟨.mysqlQuery connection 256 (attendanceQuery userIdx groupIdx), outcome⟩ ∈ events

section Shapes

variable {req : Request}

/-- A call that neither checks the attendance nor replies. -/
theorem ChecksAttendance.of_quiet {events : History} {op : Call}
    (quiet : ∀ userIdx groupIdx, ¬ op.Sends (.insertAttendance userIdx groupIdx))
    (silent : ∀ reply, op = .response reply → reply.statusCode ≠ 200) :
    ChecksAttendance req events op := by
  constructor
  · intro userIdx groupIdx sends
    exact absurd sends (quiet userIdx groupIdx)
  · intro reply same ok
    exact absurd ok (silent reply same)

/-- A call behind the check. -/
@[simp] def Call.NoCheck (op : Call) : Prop :=
  ∀ userIdx groupIdx, ¬ op.Sends (.insertAttendance userIdx groupIdx)

@[simp] theorem respond_noCheck {statusCode : Int} {statusMsg : String} {body : Bytes} :
    (respond req statusCode statusMsg body).Always Call.NoCheck :=
  ⟨by simp, fun _ => trivial⟩

@[simp] theorem serverErrer_noCheck {connection : Nat} :
    (serverErrer req connection).Always Call.NoCheck := ⟨by simp, fun _ => respond_noCheck⟩

theorem chatRest_noCheck {connection : Nat} {idx latest : Int} {groupId content : Bytes} :
    (chatRest req connection idx groupId content latest).Always Call.NoCheck := by
  rw [chatRest]
  apply always_getNow.mpr
  refine ⟨by simp, ?_⟩
  intro tm now _
  apply always_mysqlQuery.mpr
  constructor
  · intro userIdx groupIdx sends
    simp [Option.bind_eq_some_iff] at sends
  · intro outcome
    cases outcome <;> simp

theorem chatlist_noCheck {connection : Nat} {groupId : Bytes} {latest : Option Bytes} :
    (respondRows req connection 2000 (chatsQuery groupId latest) chatRow).Always Call.NoCheck := by
  apply always_mysqlQuery.mpr
  constructor
  · intro userIdx groupIdx sends
    cases latest <;> simp [chatsQuery, Option.bind_eq_some_iff] at sends
  · intro outcome
    cases outcome <;> simp

/-- What both handlers do up to the check. -/
theorem checks_start {token groupId : Bytes} {next : Nat → Int → Prog Unit}
    (tokenFound : findValue req.parameter (ascii "token") = .ok (some token))
    (groupFound : findValue req.parameter (ascii "group_id") = .ok (some groupId))
    (later : ∀ connection idx, (next connection idx).Always Call.NoCheck) :
    (connectionPop >>= fun connection => getUserIdx connection token >>= fun idx =>
      if idx = -1 then serverErrer req connection
      else attendanceCheck connection idx (atoi groupId) >>= fun _ =>
        next connection idx).Meets (Asks (ChecksAttendance req)) := by
  have refuses {f : History → History} {connection : Nat} :
      (serverErrer req connection).Meets fun events => Asks (ChecksAttendance req) (f events) :=
    Asks.serverErrer (.of_quiet (by simp) (by simp)) (.of_quiet (by simp) (by simp))
  apply Asks.pop (f := id) (.of_quiet (by simp) (by simp))
  intro connection
  apply Asks.getUserIdx (.of_quiet (by simp) (by simp))
  · rw [if_pos rfl]
    exact refuses
  intro users idx found
  apply Program.meets_ite.mpr
  refine ⟨fun _ => refuses, ?_⟩
  intro known
  rw [attendanceCheck, Program.bind_bind]
  apply Asks.query
  · constructor
    · intro userIdx groupIdx sends
      rw [Call.Sends, attendanceQuery_statement] at sends
      cases sends
      exact ⟨connection, token, users, groupId, tokenFound, groupFound, rfl, found, rfl⟩
    · simp
  · intro outcome
    apply Asks.of_always (later connection idx) fun events => ⟨.connectionPop, connection⟩ ::
      ⟨.mysqlQuery connection 256 (userQuery token), some users⟩ ::
        ⟨.mysqlQuery connection 256 (attendanceQuery idx (atoi groupId)), outcome⟩ :: events
    intro op events noCheck
    constructor
    · intro userIdx groupIdx sends
      exact absurd sends (noCheck userIdx groupIdx)
    · intro reply _ _
      exact ⟨connection, idx, atoi groupId, outcome, by simp⟩

theorem chat_insertions {handler : Handler} (among : handler ∈ chatHandlers) :
    singleQuoted "token" ∈ handler.insertions ∧ unquoted "group_id" ∈ handler.insertions := by
  cases handler with
  | createChat | getChatlist => simp [Handler.insertions]
  | _ =>
      simp only [chatHandlers] at among
      exact absurd among (by decide)

theorem chat_checks {handler : Handler} (among : handler ∈ chatHandlers) :
    (handler.program req).Meets (Asks (ChecksAttendance req)) := by
  apply Handler.meets handler
  · exact Asks.respond (f := id) (.of_quiet (by simp) (by simp))
  · exact asks_failed _
  intro accepts
  cases accepts.given with
  | createChat tokenFound groupFound contentFound =>
      rw [Handler.program, createChat_given tokenFound groupFound contentFound]
      apply checks_start tokenFound groupFound
      intro connection idx
      apply always_mysqlQuery.mpr
      constructor
      · intro userIdx groupIdx sends
        simp at sends
      · intro outcome
        cases outcome with
        | none => exact serverErrer_noCheck
        | some rows => exact Program.always_lift_bind.mpr fun _ _ => chatRest_noCheck
  | getChatlist tokenFound groupFound latestFound =>
      rw [Handler.program, getChatlist_given tokenFound groupFound latestFound]
      exact checks_start tokenFound groupFound fun _ _ => chatlist_noCheck
  | _ =>
      simp only [chatHandlers] at among
      exact absurd among (by decide)

end Shapes

section Checks

variable {step : DatedStep} {day : Bytes} {userIdx groupIdx : Int}

theorem checks_iff : DatedStep.checks step = some (day, (userIdx, groupIdx)) ↔
    day = step.before.today ∧ step.event.op.Sends (.insertAttendance userIdx groupIdx) := by
  obtain ⟨thread, ⟨op, answer⟩, s, t⟩ := step
  cases op with
  | mysqlQuery connection capacity pieces =>
      simp only [DatedStep.checks, Call.Sends]
      cases understood : statementOf pieces with
      | none => simp
      | some statement =>
          cases statement with
          | insertAttendance =>
              simp only [Option.some.injEq, Prod.mk.injEq, Statement.insertAttendance.injEq]
              exact and_congr_left fun _ => eq_comm
          | _ => simp
  | _ => simp [DatedStep.checks]

theorem noCheck_of_none (none : DatedStep.checks step = none) : step.event.op.NoCheck := by
  intro userIdx groupIdx sends
  have checks : DatedStep.checks step = some (step.before.today, (userIdx, groupIdx)) :=
    checks_iff.mpr ⟨rfl, sends⟩
  rw [none] at checks
  cases checks

end Checks

section Answers

variable {mysql : Mysql} {op : Call} {answer : Answer op} {s t : Shared}
  {targets : List TableName}

/-- A call that checks no attendance leaves the table as it is. -/
theorem answers_attendance (within : op.Within targets) (noCheck : op.NoCheck)
    (answered : mysql.Answers op answer s t) : t.tables.attendance = s.tables.attendance := by
  rcases Mysql.answers_tables within answered with same | changed
  · rw [same]
  · obtain ⟨connection, capacity, pieces, statement, gap, today, executed, sent, understood, -, run,
      same⟩ := changed
    have other : statement.target ≠ some .attendance := by
      intro target
      cases statement with
      | insertAttendance userIdx groupIdx =>
          subst sent
          exact noCheck userIdx groupIdx understood
      | _ => cases target
    have kept : Tables.Same s.tables executed.tables .attendance := exec_same other run
    rw [same]
    exact kept.symm

/-- A row of the attendance. -/
def attendanceRow (entry : Bytes × (Int × Int)) : Attendance := ⟨entry.2.1, entry.2.2, entry.1⟩

/-- An attendance is kept with its day, if it is the first of the day. -/
theorem insertAttendance_keep {tables : Tables} {userIdx groupIdx : Int} {day : Bytes}
    {entries : List (Bytes × (Int × Int))} (userKnown : tables.user.Has userIdx)
    (groupKnown : tables.projectGroup.Has groupIdx)
    (rows : tables.attendance = entries.map attendanceRow) :
    ((tables.insertAttendance userIdx groupIdx day).getD tables).attendance =
      (FirstWrite.keep day (userIdx, groupIdx) entries).map attendanceRow := by
  have fresh : (∀ row ∈ tables.attendance, row.attendanceDate ≠ day) ↔
      day ∉ entries.map Prod.fst := by
    have dates : tables.attendance.map Attendance.attendanceDate = entries.map Prod.fst := by
      rw [rows, List.map_map]
      rfl
    rw [← dates, List.mem_map]
    simp only [not_exists, not_and, ne_eq]
  rw [FirstWrite.keep]
  by_cases there : day ∈ entries.map Prod.fst
  · rw [if_pos there, Tables.insertAttendance, dif_neg]
    · exact rows
    · intro known
      exact fresh.mp known.2 there
  · rw [if_neg there, Tables.insertAttendance, dif_pos ⟨⟨userKnown, groupKnown⟩, fresh.mpr there⟩,
      List.map_append, ← rows]
    rfl

/-- The row of a day is there if the entry of the day is this one. -/
theorem attendance_count {entries : List (Bytes × (Int × Int))} {userIdx groupIdx : Int}
    {day : Bytes} (keys : (entries.map Prod.fst).Nodup) :
    (entries.map attendanceRow).count ⟨userIdx, groupIdx, day⟩ = 1 ↔
      LastWrite.get day entries = some (userIdx, groupIdx) := by
  have injective : Function.Injective attendanceRow := by
    intro first second same
    obtain ⟨day, user, group⟩ := first
    obtain ⟨day', user', group'⟩ := second
    simp only [attendanceRow, Attendance.mk.injEq] at same
    simp [same]
  have counted : (entries.map attendanceRow).count (attendanceRow (day, (userIdx, groupIdx))) =
      entries.count (day, (userIdx, groupIdx)) :=
    List.count_map_of_injective entries attendanceRow injective _
  have distinct : entries.Nodup := keys.of_map
  have row : (⟨userIdx, groupIdx, day⟩ : Attendance) = attendanceRow (day, (userIdx, groupIdx)) :=
    rfl
  rw [row, counted]
  constructor
  · intro once
    apply LastWrite.get_of_mem keys
    apply List.count_pos_iff.mp
    omega
  · intro found
    exact List.count_eq_one_of_mem distinct (LastWrite.mem_of_get found)

end Answers

/-- The groups that the requests name are there. -/
def GroupsThere (jobs : Nat → Job) (tables : Tables) : Prop :=
  ∀ thread groupId groupIdx,
    findValue (jobs thread).req.parameter (ascii "group_id") = .ok (some groupId) →
      sqlInteger groupId = some groupIdx → tables.projectGroup.Has groupIdx

section Runs

variable {mysql : Mysql} {jobs : Nat → Job} {start s : Dated} {run : List DatedStep}
  {threads : Nat → Prog Unit} {thread : Nat}

/-- The same run without the days. -/
theorem ServedDaily.served (served : ServedDaily mysql jobs start run threads s) :
    Served mysql jobs start.shared (run.map (Transition.map Dated.shared)) threads s.shared :=
  Interleaved.map Dated.shared (fun _ _ _ _ answered => answered.1) served

/-- A check is about a user whom the token of the request gave and the group that the request
names, and both are there. -/
theorem check_known (served : ServedDaily mysql jobs start run threads s)
    (readable : ∀ thread, (jobs thread).Readable)
    (chats : ∀ thread, (jobs thread).handler ∈ chatHandlers)
    (groups : GroupsThere jobs start.shared.tables) {op : Call}
    (reaches : (threads thread).status = .calling op) {userIdx groupIdx : Int}
    (sends : op.Sends (.insertAttendance userIdx groupIdx)) :
    Authenticated mysql jobs (run.map (Transition.map Dated.shared)) thread userIdx ∧
      (∃ groupId, findValue (jobs thread).req.parameter (ascii "group_id") = .ok (some groupId) ∧
        sqlInteger groupId = some groupIdx) ∧
      s.shared.tables.user.Has userIdx ∧ s.shared.tables.projectGroup.Has groupIdx := by
  have met : Asks (ChecksAttendance (jobs thread).req) (eventsOf thread run)
      (threads thread).status := served.meets (chat_checks (chats thread))
  rw [reaches] at met
  obtain ⟨connection, token, users, groupId, tokenFound, groupFound, number, reads, events⟩ :=
    ((asks_calling op).mp met).1 userIdx groupIdx sends
  obtain ⟨quoted, unquoted⟩ := chat_insertions (chats thread)
  have tokenRead := (readable thread).single quoted tokenFound
  obtain ⟨group, groupRead⟩ := (readable thread).number unquoted groupFound
  have plain := served.served
  have lookup : (⟨.mysqlQuery connection 256 (userQuery token), some users⟩ :
      Exchange Call Answer) ∈ eventsOf thread (run.map (Transition.map Dated.shared)) := by
    rw [Interaction.eventsOf_map, events]
    exact List.mem_cons_of_mem _ (List.mem_cons_self ..)
  have authenticated := plain.authenticated tokenFound tokenRead lookup reads
  -- a group that is there has a number that `atoi` reads as the database does
  have there := groups thread groupId group groupFound groupRead
  have same : groupIdx = group := by
    obtain ⟨row, member, named⟩ := there
    have within := start.shared.tables.projectGroup.within row member
    have bounded := start.shared.tables.projectGroup.bounded
    rw [number]
    exact atoi_sqlInteger groupRead (by omega) (by omega)
  subst same
  refine ⟨authenticated, ⟨groupId, groupFound, groupRead⟩, ?_, ?_⟩
  · obtain ⟨given, -, step, member, -, -, user, found, named⟩ := authenticated
    have stored := (Tables.mem_usersByToken.mp found).1
    exact ⟨user, (plain.extends readable member).user.subset stored, named⟩
  · obtain ⟨row, member, named⟩ := there
    exact ⟨row, (plain.extends_start readable).projectGroup.subset member, named⟩

/-- The attendance has the first check of each day. -/
theorem attendance_rows (served : ServedDaily mysql jobs start run threads s)
    (readable : ∀ thread, (jobs thread).Readable)
    (chats : ∀ thread, (jobs thread).handler ∈ chatHandlers)
    (groups : GroupsThere jobs start.shared.tables)
    (empty : start.shared.tables.attendance = []) :
    s.shared.tables.attendance =
      (FirstWrite.keeps (run.filterMap DatedStep.checks) []).map attendanceRow := by
  induction served with
  | nil => exact empty
  | @step run threads s t thread op next answer earlier calls answered ih =>
      have reaches : (threads thread).status = .calling op := by
        rw [calls]
        rfl
      have last : ServedDaily mysql jobs start _ _ t := earlier.step calls answered
      have whole := ServedDaily.served last
      have within := Served.within readable whole ⟨thread, ⟨op, answer⟩, s.shared, t.shared⟩
        (by simp [Transition.map])
      rw [List.filterMap_append]
      cases checked : DatedStep.checks ⟨thread, ⟨op, answer⟩, s, t⟩ with
      | none =>
          rw [answers_attendance within (noCheck_of_none checked) answered.1, ih]
          simp [checked]
      | some check =>
          obtain ⟨day, userIdx, groupIdx⟩ := check
          obtain ⟨same, sends⟩ := checks_iff.mp checked
          obtain ⟨-, -, userKnown, groupKnown⟩ :=
            check_known earlier readable chats groups reaches sends
          rw [answered.2 userIdx groupIdx sends, insertAttendance_keep userKnown groupKnown ih]
          simp [checked, FirstWrite.keeps_concat, same]

/-- A request that is answered 200 has checked the attendance of a user whom its token gave, in
the group that it names, and the row of this day is there exactly if this was the user and the
group of the first check of the day. -/
theorem attendance_iff (served : ServedDaily mysql jobs start run threads s)
    (readable : ∀ thread, (jobs thread).Readable)
    (chats : ∀ thread, (jobs thread).handler ∈ chatHandlers)
    (groups : GroupsThere jobs start.shared.tables)
    (empty : start.shared.tables.attendance = []) {reply : Reply}
    (answered : reply ∈ replies (eventsOf thread run)) (ok : reply.statusCode = 200) :
    ∃ check ∈ run, check.thread = thread ∧ ∃ day userIdx groupIdx,
      DatedStep.checks check = some (day, (userIdx, groupIdx)) ∧
        Authenticated mysql jobs (run.map (Transition.map Dated.shared)) thread userIdx ∧
          (∃ groupId,
            findValue (jobs thread).req.parameter (ascii "group_id") = .ok (some groupId) ∧
              sqlInteger groupId = some groupIdx) ∧
          (s.shared.tables.attendance.count ⟨userIdx, groupIdx, day⟩ = 1 ↔
            firstCheck run day = some (userIdx, groupIdx)) := by
  -- the step of the reply, and the check in front of it
  obtain ⟨step, member, own, event⟩ := Interaction.mem_eventsOf.mp (mem_replies.mp answered)
  obtain ⟨earlier, later, whole⟩ := List.append_of_mem member
  subst own whole
  have met := served.meets_calling (chat_checks (chats step.thread))
  rw [event] at met
  obtain ⟨connection, userIdx, groupIdx, outcome, sent⟩ := ((asks_calling _).mp met).2 reply rfl ok
  obtain ⟨check, among, same, query⟩ := Interaction.mem_eventsOf.mp sent
  obtain ⟨before, after, split⟩ := List.append_of_mem among
  subst split
  have sends : check.event.op.Sends (.insertAttendance userIdx groupIdx) := by
    rw [query]
    exact attendanceQuery_statement userIdx groupIdx
  rw [List.append_assoc, List.cons_append] at served
  obtain ⟨middle, upTo, reaches⟩ := served.calling
  obtain ⟨authenticated, named, -, -⟩ := check_known upTo readable chats groups reaches sends
  refine ⟨check, by simp, same, check.before.today, userIdx, groupIdx,
    checks_iff.mpr ⟨rfl, sends⟩, ?_, ?_, ?_⟩
  · rw [same] at authenticated
    rw [List.append_assoc, List.cons_append, List.map_append]
    exact authenticated.append _
  · rw [← same]
    exact named
  · rw [attendance_rows served readable chats groups empty,
      attendance_count (FirstWrite.keys_keeps _), FirstWrite.get_keeps, firstCheck]
    simp

end Runs

section Samples

/-- The environment that answers on its day. -/
def Mysql.dailyWorld (mysql : Mysql) : World Call Answer Fault Dated where
  answer := fun op s =>
    let answered := (mysql.world s.today).answer op s.shared
    (answered.1, ⟨answered.2, s.today⟩)

theorem Mysql.world_attends {mysql : Mysql} {today : Bytes} {op : Call} {answer : Answer op}
    {s t : Shared} (answered : (mysql.world today).answer op s = (.ok answer, t))
    {userIdx groupIdx : Int} (sends : op.Sends (.insertAttendance userIdx groupIdx)) :
    t.tables.attendance =
      ((s.tables.insertAttendance userIdx groupIdx today).getD s.tables).attendance := by
  cases op with
  | mysqlQuery connection capacity pieces =>
      have understood : statementOf pieces = some (.insertAttendance userIdx groupIdx) := sends
      simp only [Mysql.world, understood] at answered
      cases written : sprintf capacity (Sql.render pieces) with
      | error fault =>
          rw [written] at answered
          cases answered
      | ok text =>
          rw [written] at answered
          simp only [Shared.execute, exec] at answered
          cases inserted : s.tables.insertAttendance userIdx groupIdx today with
          | none =>
              rw [inserted] at answered
              cases answered
              rfl
          | some after =>
              rw [inserted] at answered
              cases answered
              rfl
  | _ => exact sends.elim

theorem Mysql.dailyWorld_follows (mysql : Mysql) :
    Interaction.Follows mysql.dailyWorld mysql.Daily := by
  intro op answer s t answered
  obtain ⟨first, second⟩ := Prod.mk.inj answered
  have plain : (mysql.world s.today).answer op s.shared = (.ok answer, t.shared) := by
    rw [← second]
    exact Prod.ext first rfl
  exact ⟨mysql.world_follows s.today op answer s.shared t.shared plain,
    fun userIdx groupIdx sends => Mysql.world_attends plain sends⟩

/-- Two users who have logged in, and a group. -/
def twoUsers : Tables :=
  ((Tables.empty.insertUser 0 (some (ascii "n")) (some (ascii "i")) (some (ascii "p"))).bind
    fun tables =>
      (tables.insertUser 0 (some (ascii "m")) (some (ascii "j")) (some (ascii "q"))).bind
      fun tables => (tables.insertToken (ascii "t") 1).bind
        fun tables => (tables.insertToken (ascii "u") 2).bind
          fun tables => tables.insertGroup 0 (some (ascii "g")) 1).get (by decide)

def twoUsersShared : Shared := ⟨twoUsers, fun _ => 0, 0, []⟩

/-- Both users ask for the messages of the group. -/
def attendanceJobs : Nat → Job := fun thread =>
  ⟨.getChatlist, requestOf [("token", if thread = 0 then ascii "t" else ascii "u"),
    ("group_id", ascii "1")]⟩

theorem attendanceJobs_readable (thread : Nat) : (attendanceJobs thread).Readable := by
  have first : Handler.getChatlist.Readable
      (requestOf [("token", ascii "t"), ("group_id", ascii "1")]) := by decide
  have other : Handler.getChatlist.Readable
      (requestOf [("token", ascii "u"), ("group_id", ascii "1")]) := by decide
  rw [attendanceJobs, Job.Readable]
  by_cases zero : thread = 0
  · rw [if_pos zero]
    exact first
  · rw [if_neg zero]
    exact other

theorem attendanceJobs_groups : GroupsThere attendanceJobs twoUsers := by
  intro thread groupId groupIdx found read
  have named : findValue (attendanceJobs thread).req.parameter (ascii "group_id") =
      .ok (some (ascii "1")) := by
    by_cases zero : thread = 0
    · rw [attendanceJobs, if_pos zero]
      decide
    · rw [attendanceJobs, if_neg zero]
      decide
  rw [named] at found
  cases found
  have one : sqlInteger (ascii "1") = some 1 := by decide
  rw [one] at read
  cases read
  decide

theorem attendanceJobs_chats (thread : Nat) : (attendanceJobs thread).handler ∈ chatHandlers := by
  simp [attendanceJobs, chatHandlers]

theorem attendanceJobs_served : ∃ run threads s,
    ServedDaily .strict attendanceJobs ⟨twoUsersShared, ascii "2018-06-12"⟩ run threads s ∧
      replies (eventsOf 1 run) = [⟨200, ascii "OK", ascii "HTTP/1.1", ascii "[]"⟩] ∧
        s.shared.tables.attendance = [⟨1, 1, ascii "2018-06-12"⟩] := by
  have scheduled : (Interaction.schedule Mysql.strict.dailyWorld
      (List.replicate 6 0 ++ List.replicate 6 1) (fun thread => (attendanceJobs thread).program)
      ⟨twoUsersShared, ascii "2018-06-12"⟩).map (fun served =>
        (replies (eventsOf 1 served.1), served.2.2.shared.tables.attendance)) =
          some ([⟨200, ascii "OK", ascii "HTTP/1.1", ascii "[]"⟩],
            [⟨1, 1, ascii "2018-06-12"⟩]) := by
    decide +kernel
  obtain ⟨⟨run, threads, s⟩, found, same⟩ := Option.map_eq_some_iff.mp scheduled
  rw [Prod.mk.injEq] at same
  have starts : ServedDaily .strict attendanceJobs ⟨twoUsersShared, ascii "2018-06-12"⟩ []
      (fun thread => (attendanceJobs thread).program) ⟨twoUsersShared, ascii "2018-06-12"⟩ := .nil
  have served := Interaction.schedule_interleaved Mysql.strict.dailyWorld_follows starts found
  exact ⟨run, threads, s, served, same⟩

/-- The second user of the day is answered 200 and is not recorded. -/
theorem getChatlist_unrecorded : ∃ run threads s,
    ServedDaily .strict attendanceJobs ⟨twoUsersShared, ascii "2018-06-12"⟩ run threads s ∧
      (∀ thread, (attendanceJobs thread).Readable ∧
        (attendanceJobs thread).handler ∈ chatHandlers) ∧
      GroupsThere attendanceJobs twoUsers ∧ twoUsers.attendance = [] ∧
      findValue (attendanceJobs 1).req.parameter (ascii "token") = .ok (some (ascii "u")) ∧
      twoUsers.usersByToken Mysql.strict.same (ascii "u") =
        [⟨2, some (ascii "m"), some (ascii "j"), some (ascii "q")⟩] ∧
      replies (eventsOf 1 run) = [⟨200, ascii "OK", ascii "HTTP/1.1", ascii "[]"⟩] ∧
      s.shared.tables.attendance.count ⟨2, 1, ascii "2018-06-12"⟩ = 0 := by
  obtain ⟨run, threads, s, served, replied, rows⟩ := attendanceJobs_served
  refine ⟨run, threads, s, served, fun thread => ⟨attendanceJobs_readable thread,
    attendanceJobs_chats thread⟩, attendanceJobs_groups, by decide, by decide,
    by decide, replied, ?_⟩
  rw [rows]
  decide

theorem attendance_iff_sample : ∃ run threads s,
    ServedDaily .strict attendanceJobs ⟨twoUsersShared, ascii "2018-06-12"⟩ run threads s ∧
      ∃ check ∈ run, check.thread = 1 ∧ ∃ day userIdx groupIdx,
        DatedStep.checks check = some (day, (userIdx, groupIdx)) ∧
          Authenticated .strict attendanceJobs (run.map (Transition.map Dated.shared)) 1 userIdx ∧
            (∃ groupId,
              findValue (attendanceJobs 1).req.parameter (ascii "group_id") = .ok (some groupId) ∧
                sqlInteger groupId = some groupIdx) ∧
            (s.shared.tables.attendance.count ⟨userIdx, groupIdx, day⟩ = 1 ↔
              firstCheck run day = some (userIdx, groupIdx)) := by
  obtain ⟨run, threads, s, served, replied, -⟩ := attendanceJobs_served
  have answered : (⟨200, ascii "OK", ascii "HTTP/1.1", ascii "[]"⟩ : Reply) ∈
      replies (eventsOf 1 run) := by
    rw [replied]
    exact List.mem_singleton_self _
  have empty : twoUsers.attendance = [] := by decide
  exact ⟨run, threads, s, served, attendance_iff served attendanceJobs_readable
    attendanceJobs_chats attendanceJobs_groups empty answered rfl⟩

end Samples

end Ttac
