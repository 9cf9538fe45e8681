import Ttac.ProgressTable
import Ttac.GroupCreation
import Ttac.TodoList

set_option autoImplicit false

/- `post_progress` and `get_progress` served at the same time: the numbers in `progress`. -/
namespace Ttac

open Interaction (Program Exchange Status Interleaved Linked eventsOf)
open Interaction.Program (Meets)
open Sql (Piece)

namespace CallStep

/-- The user and the number that a step writes into `progress`. -/
def writesProgress (step : CallStep) : Option (Int × Int) :=
  (carriedOut step.event).bind Statement.progressWrite

def insertsProgress (userIdx : Int) (step : CallStep) : Bool :=
  (carriedOut step.event).any (Statement.insertsProgress userIdx)

def selectsProgress (userIdx : Int) (step : CallStep) : Prop :=
  carriedOut step.event = some (.progressOf userIdx)

end CallStep

/-- The number that the run wrote last for a user. -/
def lastWritten (run : List CallStep) (userIdx : Int) : Option Int :=
  LastWrite.get userIdx (run.filterMap CallStep.writesProgress).reverse

/-- No request inserts a number for a user for whom a number was inserted since its select. -/
def Uncrossed (run : List CallStep) : Prop :=
  ∀ front select back insert later userIdx, run = front ++ select :: (back ++ insert :: later) →
    select.thread = insert.thread → select.selectsProgress userIdx →
      insert.insertsProgress userIdx = true →
        ∀ other ∈ back, other.insertsProgress userIdx = false

theorem Uncrossed.earlier {run more : List CallStep} (uncrossed : Uncrossed (run ++ more)) :
    Uncrossed run := by
  intro front select back insert later userIdx whole
  apply uncrossed front select back insert (later ++ more) userIdx
  simp [whole]

section Steps

variable {mysql : Mysql} {op : Call} {answer : Answer op} {s t : Shared}
  {targets : List TableName}

/-- A call changes the numbers of a user as the statement does that it carries out. -/
theorem answers_numbersOf (within : op.Within targets) (answered : mysql.Answers op answer s t)
    (userIdx : Int) :
    t.tables.numbersOf userIdx = (carriedOut ⟨op, answer⟩).elim (s.tables.numbersOf userIdx)
      (Statement.renumber userIdx (s.tables.numbersOf userIdx)) := by
  rcases answers_carriedOut within answered with ⟨none, same⟩ | done
  · rw [none, same]
    rfl
  · obtain ⟨statement, gap, today, lastId, executed, carried, run, same⟩ := done
    rw [carried, same]
    exact exec_numbersOf run userIdx

theorem answers_writesProgress {event : Exchange Call Answer} {statement : Statement}
    {userIdx number : Int} (answered : mysql.Answers event.op event.answer s t)
    (carried : carriedOut event = some statement)
    (writes : statement.progressWrite = some (userIdx, number)) :
    -(2 ^ 31) ≤ number ∧ number < 2 ^ 31 := by
  obtain ⟨op, answer⟩ := event
  cases op with
  | mysqlQuery connection capacity pieces =>
      cases answer with
      | none => cases carried
      | some rows =>
          obtain ⟨-, failed | done⟩ := (Mysql.answers_statement carried).mp answered
          · cases failed.1
          · obtain ⟨gap, today, executed, rows, run, -⟩ := done
            exact exec_progressWrite run writes
  | _ => cases carried

end Steps

/-- Every handler picks what it writes into `progress` as `post_progress` does. -/
theorem handler_picks {handler : Handler} {req : Request} (readable : handler.Readable req) :
    (handler.program req).Meets (Asks (PicksWrite req)) := by
  by_cases posts : handler = .postProgress
  · subst posts
    exact postProgress_picks
  · apply Asks.of_always (handler_within readable) fun events => events
    intro op events within
    apply PicksWrite.of_quiet
    intro statement writes sends
    cases op with
    | mysqlQuery connection capacity pieces =>
        obtain ⟨other, understood, target⟩ := within
        have same : other = statement := Option.some.inj (understood.symm.trans sends)
        subst same
        have own : other.target = some .progress := by
          cases other with
          | insertProgress | updateProgress => rfl
          | _ => cases writes
        have among := target _ own
        cases handler <;> simp_all [Handler.targets]
    | _ => exact sends

/-- What the statements of a history write into `progress`. -/
def numbersWritten (events : History) : List (Int × Int) :=
  events.filterMap fun event => (carriedOut event).bind Statement.progressWrite

/-- The reply of `post_progress` says whether the number was written. -/
structure ReportsWrite (req : Request) (events : History) (op : Call) : Prop where
  silent : replies events = []
  responds : ∀ reply, op = .response reply →
    (reply = statusReply req "OK" ∧ ∃ write, numbersWritten events = [write]) ∨
      (reply ∈ unentered req ∧ numbersWritten events = [])

/-- `get_progress` selects the number of the user that was found by its token. -/
def SelectsOwn (req : Request) (events : History) (op : Call) : Prop :=
  ∀ userIdx, op.Sends (.progressOf userIdx) → ∃ connection token users,
    findValue req.parameter (ascii "token") = .ok (some token) ∧
      ⟨.mysqlQuery connection 256 (userQuery token), some users⟩ ∈ events ∧ Reads users userIdx

section Shapes

variable {req : Request} {events : History} {op : Call} {connection capacity : Nat}

theorem numbersWritten_quiet {event : Exchange Call Answer}
    (quiet : (carriedOut event).bind Statement.progressWrite = none) :
    numbersWritten (event :: events) = numbersWritten events :=
  List.filterMap_cons_none quiet

theorem numbersWritten_query {pieces : List Piece} {outcome : Option (List Row)}
    (reads : ∀ statement, statementOf pieces = some statement → statement.progressWrite = none) :
    numbersWritten (⟨.mysqlQuery connection capacity pieces, outcome⟩ :: events) =
      numbersWritten events := by
  apply numbersWritten_quiet
  cases outcome with
  | none => rfl
  | some rows =>
      rw [Option.bind_eq_none_iff]
      exact reads

theorem userQuery_unwritten {token : Bytes} :
    ∀ statement, statementOf (userQuery token) = some statement →
      statement.progressWrite = none := by
  intro statement understood
  rw [userQuery_statement, Option.map_eq_some_iff] at understood
  obtain ⟨text, -, rfl⟩ := understood
  rfl

theorem progressQuery_unwritten {idx : Int} :
    ∀ statement, statementOf (progressQuery idx) = some statement →
      statement.progressWrite = none := by
  intro statement understood
  rw [progressQuery_statement, Option.some.injEq] at understood
  rw [← understood]
  rfl

theorem ReportsWrite.of_quiet (silent : replies events = []) (noReply : ¬ op.IsReply) :
    ReportsWrite req events op := by
  refine ⟨silent, ?_⟩
  rintro reply rfl
  exact absurd trivial noReply

theorem ReportsWrite.refuses {reply : Reply} (silent : replies events = [])
    (refused : reply ∈ unentered req) (nothing : numbersWritten events = []) :
    ReportsWrite req events (.response reply) := by
  refine ⟨silent, ?_⟩
  intro other same
  cases same
  exact .inr ⟨refused, nothing⟩

/-- The last query of `post_progress`, behind which it says whether it was carried out. -/
theorem write_reports {f : History → History} {pieces : List Piece} {write : Int × Int}
    {statement : Statement} (understood : statementOf pieces = some statement)
    (writes : statement.progressWrite = some write)
    (silent : ∀ after, replies (f after) = replies after)
    (before : ∀ after, numbersWritten (f after) = numbersWritten after) :
    (mysqlQuery connection capacity pieces >>= fun outcome =>
      Program.lift (sprintf 256 (statusBody (match outcome with
        | none => "ERROR"
        | some _ => "OK"))) >>= fun body =>
        connectionPush connection >>= fun _ => respond req 200 "OK" body).Meets fun events =>
          Asks (ReportsWrite req) (f events) := by
  apply Asks.query (.of_quiet (silent []) id)
  intro outcome
  apply Asks.lift
  intro body sent
  rw [(sprintf_ok sent).2]
  apply Asks.push (.of_quiet (silent _) id)
  apply Asks.respond
  cases outcome with
  | none => exact .refuses (silent _) (by simp [unentered, statusReply]) (before _)
  | some rows =>
      refine ⟨silent _, ?_⟩
      intro reply same
      cases same
      refine .inl ⟨rfl, write, ?_⟩
      have carried : carriedOut ⟨.mysqlQuery connection capacity pieces, some rows⟩ =
          some statement := understood
      rw [before, numbersWritten, List.filterMap_cons, carried, Option.bind_some, writes]
      rfl

theorem postProgress_reports (readable : Handler.postProgress.Readable req) :
    (postProgress req).Meets (Asks (ReportsWrite req)) := by
  apply Handler.meets .postProgress
  · exact Asks.respond (f := id) (.refuses rfl (by simp [unentered, missingReply]) rfl)
  · exact asks_failed _
  intro accepts
  cases accepts.given with
  | @postProgress token number tokenFound numberFound =>
      obtain ⟨read, numberRead⟩ := readable.number (by simp [Handler.insertions]) numberFound
      simp only [Handler.program, postProgress, findParameter, tokenFound, numberFound,
        Program.lift_ok_bind]
      apply Asks.pop (f := id) (.of_quiet rfl id)
      intro connection
      have refuses {f : History → History} (silent : ∀ after, replies (f after) = replies after)
          (nothing : ∀ after, numbersWritten (f after) = numbersWritten after) :
          (serverErrer req connection).Meets fun events =>
            Asks (ReportsWrite req) (f events) := by
        apply Asks.serverErrer
        · exact .of_quiet (silent []) id
        · exact .refuses (silent _) (by simp [unentered, serverError]) (nothing _)
      have looked (outcome : Option (List Row)) (after : History) :
          numbersWritten (⟨.connectionPop, connection⟩ ::
            ⟨.mysqlQuery connection 256 (userQuery token), outcome⟩ :: after) =
              numbersWritten after :=
        (numbersWritten_quiet rfl).trans (numbersWritten_query userQuery_unwritten)
      apply Asks.getUserIdx (.of_quiet rfl id)
      · rw [if_pos rfl]
        exact refuses (fun _ => rfl) (looked none)
      intro users idx found
      apply Program.meets_ite.mpr
      refine ⟨fun _ => refuses (fun _ => rfl) (looked _), ?_⟩
      intro known
      have selected (outcome : Option (List Row)) (after : History) :
          numbersWritten (⟨.connectionPop, connection⟩ ::
            ⟨.mysqlQuery connection 256 (userQuery token), some users⟩ ::
              ⟨.mysqlQuery connection 256 (progressQuery idx), outcome⟩ :: after) =
                numbersWritten after :=
        (looked _ _).trans (numbersWritten_query progressQuery_unwritten)
      apply Asks.query (.of_quiet rfl id)
      intro outcome
      cases outcome with
      | none => exact refuses (fun _ => rfl) (selected none)
      | some rows =>
          cases rows with
          | nil =>
              have inserts : statementOf (insertProgressQuery idx number) =
                  some (.insertProgress idx read) := by
                rw [insertProgressQuery_statement, numberRead]
                rfl
              exact write_reports inserts rfl (fun _ => rfl) (selected _)
          | cons row rows =>
              have updates : statementOf (updateProgressQuery number idx) =
                  some (.updateProgress read idx) := by
                rw [updateProgressQuery_statement, numberRead]
                rfl
              exact write_reports updates rfl (fun _ => rfl) (selected _)

theorem SelectsOwn.of_quiet (quiet : ∀ userIdx, ¬ op.Sends (.progressOf userIdx)) :
    SelectsOwn req events op := by
  intro userIdx sends
  exact absurd sends (quiet userIdx)

theorem getProgress_selects : (getProgress req).Meets (Asks (SelectsOwn req)) := by
  apply Handler.meets .getProgress
  · exact Asks.respond (f := id) (.of_quiet (by simp))
  · exact asks_failed _
  intro accepts
  cases accepts.given with
  | @getProgress token tokenFound =>
      rw [Handler.program, getProgress_given tokenFound]
      apply Asks.pop (f := id) (.of_quiet (by simp))
      intro connection
      have refuses {f : History → History} : (serverErrer req connection).Meets fun events =>
          Asks (SelectsOwn req) (f events) :=
        Asks.serverErrer (.of_quiet (by simp)) (.of_quiet (by simp))
      apply Asks.getUserIdx
      · apply SelectsOwn.of_quiet
        intro userIdx sends
        rw [Call.Sends, userQuery_statement, Option.map_eq_some_iff] at sends
        obtain ⟨text, -, same⟩ := sends
        cases same
      · rw [if_pos rfl]
        exact refuses
      intro users idx reads
      apply Program.meets_ite.mpr
      refine ⟨fun _ => refuses, ?_⟩
      intro known
      apply Asks.query
      · intro userIdx sends
        rw [Call.Sends, progressQuery_statement, Option.some.injEq] at sends
        cases sends
        exact ⟨connection, token, users, tokenFound, by simp, reads⟩
      intro outcome
      cases outcome with
      | none => exact refuses
      | some rows =>
          apply Asks.lift
          intro body shown
          exact Asks.push (.of_quiet (by simp)) (Asks.respond (.of_quiet (by simp)))

end Shapes

section Runs

variable {mysql : Mysql} {jobs : Nat → Job} {start s t : Shared} {run : List CallStep}
  {threads : Nat → Prog Unit} {thread connection : Nat} {token : Bytes} {users rows : List Row}
  {userIdx : Int}

theorem Served.picks (served : Served mysql jobs start run threads s)
    (readable : ∀ thread, (jobs thread).Readable) {op : Call}
    (reaches : (threads thread).status = .calling op) :
    PicksWrite (jobs thread).req (eventsOf thread run) op := by
  have met : Asks (PicksWrite (jobs thread).req) (eventsOf thread run) (threads thread).status :=
    served.meets (handler_picks (readable thread))
  rw [reaches] at met
  exact (asks_calling op).mp met

/-- A user has one more number for each one inserted. -/
theorem numbersOf_counts (linked : Linked mysql.Answers s run t)
    (within : ∀ step ∈ run, ∃ targets, step.event.op.Within targets) :
    (t.tables.numbersOf userIdx).length =
      (s.tables.numbersOf userIdx).length + run.countP (CallStep.insertsProgress userIdx) := by
  apply linked.counts (fun s => (s.tables.numbersOf userIdx).length)
  intro step member answered
  obtain ⟨targets, within⟩ := within step member
  rw [answers_numbersOf within answered, CallStep.insertsProgress]
  cases carried : carriedOut step.event with
  | none => rfl
  | some statement => exact Statement.renumber_length _ _ _

/-- Behind a select, a user has the numbers it found and those inserted since. -/
theorem picking_counts (served : Served mysql jobs start run threads s)
    (readable : ∀ thread, (jobs thread).Readable)
    (events : eventsOf thread run = picking connection token users rows userIdx) :
    ∃ (front : List CallStep) (select : CallStep) (back : List CallStep),
      run = front ++ select :: back ∧ select.thread = thread ∧ select.selectsProgress userIdx ∧
        (s.tables.numbersOf userIdx).length =
          rows.length + back.countP (CallStep.insertsProgress userIdx) := by
  have parts : eventsOf thread run = ([⟨.connectionPop, connection⟩,
      ⟨.mysqlQuery connection 256 (userQuery token), some users⟩] : History) ++
        ⟨.mysqlQuery connection 256 (progressQuery userIdx), some rows⟩ :: [] := events
  obtain ⟨front, select, back, whole, own, event, -, -⟩ := Interaction.eventsOf_split parts
  have within := served.within readable
  subst whole
  obtain ⟨-, answered, rest⟩ := Interaction.linked_around_iff.mp served.linked
  rw [event] at answered
  have selected := Mysql.answers_progressQuery.mp answered
  have found : rows.length = (select.before.tables.numbersOf userIdx).length := by
    cases selected.answer with
    | inl failed => cases failed
    | inr answered =>
        obtain ⟨answer, same, order⟩ := answered
        cases same
        rw [order.length_eq, List.length_map, Tables.numbersOf, List.length_map]
  have selects : CallStep.selectsProgress userIdx select := by
    rw [CallStep.selectsProgress, event]
    exact progressQuery_statement userIdx
  refine ⟨front, select, back, rfl, own, selects, ?_⟩
  rw [found, ← selected.state]
  apply numbersOf_counts rest
  intro step member
  exact ⟨_, within step (List.mem_append_right _ (List.mem_cons_of_mem _ member))⟩

theorem lastWritten_quiet {step : CallStep} (quiet : step.writesProgress = none) :
    lastWritten (run ++ [step]) userIdx = lastWritten run userIdx := by
  rw [lastWritten, List.filterMap_append]
  simp [quiet, lastWritten]

theorem lastWritten_writes {step : CallStep} {idx number : Int}
    (writes : step.writesProgress = some (idx, number)) :
    lastWritten (run ++ [step]) userIdx =
      if idx = userIdx then some number else lastWritten run userIdx := by
  rw [lastWritten, List.filterMap_append, List.filterMap_cons, writes, List.filterMap_nil,
    List.reverse_append, List.reverse_singleton, List.singleton_append, LastWrite.get_cons]
  rfl

/-- Where a number is inserted without a race, its user has none. -/
theorem insert_unseen (served : Served mysql jobs start run threads s)
    (readable : ∀ thread, (jobs thread).Readable) {step : CallStep}
    (reaches : (threads step.thread).status = .calling step.event.op)
    (uncrossed : Uncrossed (run ++ [step])) {number : Int}
    (inserts : step.insertsProgress userIdx = true)
    (sends : step.event.op.Sends (.insertProgress userIdx number)) :
    s.tables.numbersOf userIdx = [] := by
  obtain ⟨connection, token, users, -, events⟩ := (served.picks readable reaches).1 _ _ sends
  obtain ⟨front, select, back, whole, own, selects, counted⟩ :=
    picking_counts served readable events
  have none : back.countP (CallStep.insertsProgress userIdx) = 0 := by
    have whole : run ++ [step] = front ++ select :: (back ++ step :: []) := by simp [whole]
    have others := uncrossed front select back step [] userIdx whole own selects inserts
    apply List.countP_eq_zero.mpr
    intro other member adds
    rw [others other member] at adds
    cases adds
  rw [none] at counted
  exact List.eq_nil_of_length_eq_zero counted

/-- Where a number is changed, its user has one. -/
theorem update_seen (served : Served mysql jobs start run threads s)
    (readable : ∀ thread, (jobs thread).Readable) {op : Call}
    (reaches : (threads thread).status = .calling op) {number : Int}
    (sends : op.Sends (.updateProgress number userIdx)) : s.tables.numbersOf userIdx ≠ [] := by
  obtain ⟨connection, token, users, row, rows, -, events⟩ :=
    (served.picks readable reaches).2 _ _ sends
  obtain ⟨front, select, back, -, -, -, counted⟩ := picking_counts served readable events
  intro none
  rw [none, List.length_nil, List.length_cons] at counted
  omega

/-- Without a race, the numbers of a user are the one that was written last, if any. -/
theorem numbersOf_written (served : Served mysql jobs start run threads s)
    (readable : ∀ thread, (jobs thread).Readable) (empty : start.tables.progress.rows = [])
    (uncrossed : Uncrossed run) (userIdx : Int) :
    s.tables.numbersOf userIdx = (lastWritten run userIdx).toList := by
  induction served generalizing userIdx with
  | nil =>
      rw [Tables.numbersOf, Tables.progressOf, empty]
      rfl
  | @step run threads s t thread op next answer earlier calls answered ih =>
      have before := ih uncrossed.earlier
      have reaches : (threads thread).status = .calling op := by
        rw [calls]
        rfl
      have served := earlier.step calls answered
      have within := Served.within readable served ⟨thread, ⟨op, answer⟩, s, t⟩
        (List.mem_append_right _ (List.mem_singleton_self _))
      rw [answers_numbersOf within answered]
      cases carried : carriedOut ⟨op, answer⟩ with
      | none =>
          rw [lastWritten_quiet (by simp [CallStep.writesProgress, carried])]
          exact before userIdx
      | some statement =>
          have sends := carriedOut_sends carried
          cases statement with
          | insertProgress idx number =>
              have writes : CallStep.writesProgress ⟨thread, ⟨op, answer⟩, s, t⟩ =
                  some (idx, number) := by
                rw [CallStep.writesProgress, carried]
                rfl
              rw [lastWritten_writes writes, Option.elim_some, Statement.renumber]
              split
              · rename_i own
                subst own
                have inserts :
                    CallStep.insertsProgress idx ⟨thread, ⟨op, answer⟩, s, t⟩ = true := by
                  simp [CallStep.insertsProgress, carried, Statement.insertsProgress]
                rw [insert_unseen earlier readable reaches uncrossed inserts sends]
                rfl
              · exact before userIdx
          | updateProgress number idx =>
              have writes : CallStep.writesProgress ⟨thread, ⟨op, answer⟩, s, t⟩ =
                  some (idx, number) := by
                rw [CallStep.writesProgress, carried]
                rfl
              rw [lastWritten_writes writes, Option.elim_some, Statement.renumber]
              split
              · rename_i own
                subst own
                have seen := update_seen earlier readable reaches sends
                rw [before idx] at seen ⊢
                cases last : lastWritten run idx with
                | none =>
                    rw [last] at seen
                    exact absurd rfl seen
                | some old => rfl
              · exact before userIdx
          | _ =>
              rw [lastWritten_quiet (by simp [CallStep.writesProgress, carried,
                Statement.progressWrite])]
              exact before userIdx

/-- What is written into `progress` is an `int`. -/
theorem lastWritten_range (served : Served mysql jobs start run threads s) {number : Int}
    (last : lastWritten run userIdx = some number) : -(2 ^ 31) ≤ number ∧ number < 2 ^ 31 := by
  have written := LastWrite.mem_of_get last
  rw [List.mem_reverse, List.mem_filterMap] at written
  obtain ⟨step, member, writes⟩ := written
  obtain ⟨statement, carried, writes⟩ := Option.bind_eq_some_iff.mp writes
  exact answers_writesProgress (served.answers member) carried writes

end Runs

/-- The number is that of a `post_progress`, for the user of its token. -/
def PostsNumber (mysql : Mysql) (jobs : Nat → Job) (run : List CallStep) (thread : Nat)
    (userIdx number : Int) : Prop :=
  (jobs thread).handler = .postProgress ∧ Authenticated mysql jobs run thread userIdx ∧
    ∃ text, findValue (jobs thread).req.parameter (ascii "number") = .ok (some text) ∧
      sqlInteger text = some number

/-- What a thread has written into `progress`. -/
def writtenBy (thread : Nat) (run : List CallStep) : List (Int × Int) :=
  (run.filter fun step => step.thread = thread).filterMap CallStep.writesProgress

/-- The reply of a `get_progress` that makes its select behind `front`. -/
def lastNumberReply (jobs : Nat → Job) (thread : Nat) (front : List CallStep) (userIdx : Int) :
    Reply :=
  numberReply (jobs thread).req (decimalInt ((lastWritten front userIdx).getD 0))

/-- Where the requests of a run leave `progress`, and what they answer. No user ever has two
numbers. A number is written only by a `post_progress` that has it, for the user of its token, and
the reply says whether it was written. A `get_progress` selects for the user of its token, goes on
to send the number that was written last for the user in front of the select, and has no other
reply with the status 200. -/
structure KeepsProgress (mysql : Mysql) (jobs : Nat → Job) (run : List CallStep)
    (threads : Nat → Prog Unit) : Prop where
  single : ∀ step ∈ run, ∀ userIdx, (step.after.tables.progressOf userIdx).length ≤ 1
  written : ∀ step ∈ run, ∀ userIdx number, step.writesProgress = some (userIdx, number) →
    PostsNumber mysql jobs run step.thread userIdx number
  posted : ∀ thread, (jobs thread).handler = .postProgress →
    ∀ reply ∈ replies (eventsOf thread run),
      (reply = statusReply (jobs thread).req "OK" ∧ ∃ write, writtenBy thread run = [write]) ∨
        (reply ∈ unentered (jobs thread).req ∧ writtenBy thread run = [])
  latest : ∀ front select back userIdx, run = front ++ select :: back →
    (jobs select.thread).handler = .getProgress → CallStep.selectsProgress userIdx select →
      Authenticated mysql jobs run select.thread userIdx ∧
        Sending (lastNumberReply jobs select.thread front userIdx) (eventsOf select.thread run)
          (threads select.thread).status
  answered : ∀ thread, (jobs thread).handler = .getProgress →
    ∀ reply ∈ replies (eventsOf thread run), reply.statusCode = 200 →
      ∃ userIdx front select back, run = front ++ select :: back ∧ select.thread = thread ∧
        CallStep.selectsProgress userIdx select ∧ reply = lastNumberReply jobs thread front userIdx

section Races

variable {mysql : Mysql} {jobs : Nat → Job} {start s : Shared} {run : List CallStep}
  {threads : Nat → Prog Unit}

/-- The select of the number of a user has the numbers of the user as its rows. -/
theorem selectsProgress_answered {step : CallStep} {userIdx : Int}
    (selects : step.selectsProgress userIdx)
    (answered : mysql.Answers step.event.op step.event.answer step.before step.after) :
    ∃ rows, Selects [step.event] rows ∧
      rows.Perm ((step.before.tables.numbersOf userIdx).map fun number =>
        [numberText number]) := by
  obtain ⟨thread, ⟨op, answer⟩, s, t⟩ := step
  cases op with
  | mysqlQuery connection capacity pieces =>
      cases answer with
      | none => cases selects
      | some rows =>
          refine ⟨rows, ⟨connection, capacity, pieces, userIdx, List.mem_singleton_self _, selects⟩,
            ?_⟩
          have selected : Mysql.Selected capacity pieces
              ((s.tables.progressOf userIdx).map fun row => [numberText row.number]) (some rows)
                s t := (Mysql.answers_select _ selects fun _ _ => rfl).mp answered
          cases selected.answer with
          | inl failed => cases failed
          | inr answered =>
              obtain ⟨answer, same, order⟩ := answered
              cases same
              rw [Tables.numbersOf, List.map_map]
              exact order
  | _ => cases selects

theorem single_of_uncrossed (served : Served mysql jobs start run threads s)
    (readable : ∀ thread, (jobs thread).Readable) (empty : start.tables.progress.rows = [])
    (uncrossed : Uncrossed run) :
    ∀ step ∈ run, ∀ userIdx, (step.after.tables.progressOf userIdx).length ≤ 1 := by
  intro step member userIdx
  obtain ⟨earlier, later, whole⟩ := List.append_of_mem member
  subst whole
  obtain ⟨middle, upTo⟩ := served.upTo
  have split : earlier ++ step :: later = (earlier ++ [step]) ++ later := by simp
  rw [split] at uncrossed
  have numbers := numbersOf_written upTo readable empty uncrossed.earlier userIdx
  have length := congrArg List.length numbers
  rw [Tables.numbersOf, List.length_map] at length
  rw [length]
  exact Option.length_toList_le

theorem uncrossed_of_single (served : Served mysql jobs start run threads s)
    (readable : ∀ thread, (jobs thread).Readable)
    (single : ∀ step ∈ run, ∀ userIdx, (step.after.tables.progressOf userIdx).length ≤ 1) :
    Uncrossed run := by
  intro front select back insert later userIdx whole own selects inserts other member
  apply Bool.eq_false_iff.mpr
  intro adds
  have within := served.within readable
  have split : run = (front ++ select :: back) ++ insert :: later := by simp [whole]
  subst split
  obtain ⟨before, answered, -⟩ := Interaction.linked_around_iff.mp served.linked
  have upTo : Linked mysql.Answers start ((front ++ select :: back) ++ [insert]) insert.after :=
    Interaction.linked_around_iff.mpr ⟨before, answered, .nil _⟩
  have part : ∀ step ∈ (front ++ select :: back) ++ [insert],
      step ∈ (front ++ select :: back) ++ insert :: later := by
    intro step member
    rw [List.append_cons (front ++ select :: back) insert later]
    exact List.mem_append_left later member
  have counted : (insert.after.tables.numbersOf userIdx).length = _ :=
    numbersOf_counts upTo fun step member => ⟨_, within step (part step member)⟩
  have others : 0 < back.countP (CallStep.insertsProgress userIdx) :=
    List.countP_pos_iff.mpr ⟨other, member, adds⟩
  have last : [insert].countP (CallStep.insertsProgress userIdx) = 1 := by
    simp [inserts]
  have only := single insert (by simp) userIdx
  rw [List.countP_append, List.countP_append, List.countP_cons, last] at counted
  rw [Tables.numbersOf, List.length_map] at counted
  omega

theorem latest_of_uncrossed (served : Served mysql jobs start run threads s)
    (readable : ∀ thread, (jobs thread).Readable) (empty : start.tables.progress.rows = [])
    (uncrossed : Uncrossed run) {front back : List CallStep} {select : CallStep} {userIdx : Int}
    (whole : run = front ++ select :: back) (gets : (jobs select.thread).handler = .getProgress)
    (selects : select.selectsProgress userIdx) :
    Sending (lastNumberReply jobs select.thread front userIdx) (eventsOf select.thread run)
      (threads select.thread).status := by
  subst whole
  obtain ⟨middle, before, -⟩ := served.calling
  have numbers := numbersOf_written before readable empty uncrossed.earlier userIdx
  obtain ⟨-, answered, -⟩ := Interaction.linked_around_iff.mp served.linked
  obtain ⟨rows, asked, order⟩ := selectsProgress_answered selects answered
  have met : AnswersNumber (jobs select.thread).req
      (eventsOf select.thread (front ++ select :: back)) (threads select.thread).status := by
    apply served.meets
    rw [Job.program, gets]
    exact getProgress_answers
  rw [numbers] at order
  have selected : Selects (eventsOf select.thread (front ++ select :: back)) rows := by
    rw [Interaction.eventsOf_append, Interaction.eventsOf_cons_own rfl, ← List.singleton_append]
    exact selects_append.mpr (.inr (selects_append.mpr (.inl asked)))
  rw [lastNumberReply]
  cases last : lastWritten front userIdx with
  | none =>
      rw [last] at order
      obtain rfl := List.perm_nil.mp order
      exact met [] (ascii "0") selected rfl (by decide)
  | some number =>
      rw [last] at order
      obtain rfl := List.perm_singleton.mp order
      have range := lastWritten_range before last
      have digits := Ascii.decimalInt_length_le range.1 range.2
      exact met _ (decimalInt number) selected rfl (by omega)

/-- What is written into `progress` is the number of the request, for the user of its token. -/
theorem written_own (served : Served mysql jobs start run threads s)
    (readable : ∀ thread, (jobs thread).Readable) {step : CallStep} (member : step ∈ run)
    {userIdx number : Int} (writes : step.writesProgress = some (userIdx, number)) :
    PostsNumber mysql jobs run step.thread userIdx number := by
  obtain ⟨statement, carried, writes⟩ := Option.bind_eq_some_iff.mp writes
  have sends := carriedOut_sends carried
  have target : TableName.progress ∈ (jobs step.thread).handler.targets := by
    apply sends.target (served.within readable step member)
    cases statement with
    | insertProgress | updateProgress => rfl
    | _ => cases writes
  have posts : (jobs step.thread).handler = .postProgress := by
    cases shape : (jobs step.thread).handler <;> simp_all [Handler.targets]
  have own := readable step.thread
  rw [Job.Readable, posts] at own
  obtain ⟨earlier, later, whole⟩ := List.append_of_mem member
  rw [whole] at served ⊢
  obtain ⟨middle, before, reaches⟩ := served.calling
  have picks := Served.picks before readable reaches
  have found : ∃ connection token users rows,
      OwnNumber (jobs step.thread).req token users userIdx number ∧
        eventsOf step.thread earlier = picking connection token users rows userIdx := by
    cases statement with
    | insertProgress =>
        cases writes
        obtain ⟨connection, token, users, own, events⟩ := picks.1 _ _ sends
        exact ⟨connection, token, users, [], own, events⟩
    | updateProgress =>
        cases writes
        obtain ⟨connection, token, users, row, rows, own, events⟩ := picks.2 _ _ sends
        exact ⟨connection, token, users, row :: rows, own, events⟩
    | _ => cases writes
  obtain ⟨connection, token, users, rows, number, events⟩ := found
  have tokenRead := own.single (by simp [Handler.insertions]) number.tokenFound
  have lookup : ⟨.mysqlQuery connection 256 (userQuery token), some users⟩ ∈
      eventsOf step.thread earlier := by
    rw [events]
    exact List.mem_cons_of_mem _ (List.mem_cons_self ..)
  have authenticated :=
    Served.authenticated before number.tokenFound tokenRead lookup number.reads
  exact ⟨posts, authenticated.append _, number.numberFound⟩

theorem writtenBy_eq (thread : Nat) (run : List CallStep) :
    writtenBy thread run = numbersWritten (eventsOf thread run) := by
  rw [writtenBy, numbersWritten, eventsOf, List.filterMap_map]
  rfl

/-- `post_progress` replies `OK` if and only if it has written a number. -/
theorem posted_written (served : Served mysql jobs start run threads s)
    (readable : ∀ thread, (jobs thread).Readable) {thread : Nat}
    (posts : (jobs thread).handler = .postProgress) {reply : Reply}
    (replied : reply ∈ replies (eventsOf thread run)) :
    (reply = statusReply (jobs thread).req "OK" ∧ ∃ write, writtenBy thread run = [write]) ∨
      (reply ∈ unentered (jobs thread).req ∧ writtenBy thread run = []) := by
  have own := readable thread
  have runs := served.runs thread
  rw [Job.Readable, posts] at own
  rw [Job.program, posts] at runs
  obtain ⟨before, whole, reports⟩ :=
    Asks.replied (postProgress_reports own) (fun _ _ reports => reports.silent) runs replied
  have quiet : numbersWritten (before ++ [⟨.response reply, ()⟩]) = numbersWritten before := by
    simp [numbersWritten, carriedOut]
  rw [writtenBy_eq, whole, quiet]
  exact reports.responds reply rfl

/-- The select of `get_progress` is for the user of its token. -/
theorem selects_own (served : Served mysql jobs start run threads s)
    (readable : ∀ thread, (jobs thread).Readable) {front back : List CallStep} {select : CallStep}
    {userIdx : Int} (whole : run = front ++ select :: back)
    (gets : (jobs select.thread).handler = .getProgress)
    (selects : select.selectsProgress userIdx) :
    Authenticated mysql jobs run select.thread userIdx := by
  subst whole
  have asks : (jobs select.thread).program.Meets (Asks (SelectsOwn (jobs select.thread).req)) := by
    rw [Job.program, gets]
    exact getProgress_selects
  obtain ⟨connection, token, users, tokenFound, lookup, reads⟩ :=
    (asks_calling _).mp (served.meets_calling asks) userIdx (carriedOut_sends selects)
  have reader : (jobs select.thread).handler ∈ readers := by
    rw [gets]
    decide
  have tokenRead := reader_token (readable select.thread) reader tokenFound
  obtain ⟨middle, before, -⟩ := served.calling
  exact (Served.authenticated before tokenFound tokenRead lookup reads).append _

/-- Behind a reply of `get_progress` with the status 200 stands its select. -/
theorem answered_selects (served : Served mysql jobs start run threads s) {thread : Nat}
    (gets : (jobs thread).handler = .getProgress) {reply : Reply}
    (replied : reply ∈ replies (eventsOf thread run)) (ok : reply.statusCode = 200) :
    ∃ userIdx front select back, run = front ++ select :: back ∧ select.thread = thread ∧
      CallStep.selectsProgress userIdx select := by
  have runs := served.runs thread
  rw [Job.program, gets] at runs
  obtain ⟨before, after, whole⟩ := List.append_of_mem (mem_replies.mp replied)
  rw [whole] at runs
  obtain ⟨-, connection, -, userIdx, capacity, pieces, rows, -, -, -, queries, asked, -⟩ :=
    Asks.made (reader_shows (by decide) (jobs thread).req) runs reply rfl ok
  cases queries
  have made : ⟨.mysqlQuery connection capacity (progressQuery userIdx), some rows⟩ ∈
      eventsOf thread run := by
    rw [whole]
    exact List.mem_append_left _ asked
  obtain ⟨select, member, own, event⟩ := Interaction.mem_eventsOf.mp made
  obtain ⟨front, back, split⟩ := List.append_of_mem member
  refine ⟨userIdx, front, select, back, split, own, ?_⟩
  rw [CallStep.selectsProgress, event]
  exact progressQuery_statement userIdx

/-- `post_progress` and `get_progress` keep one number for each user, and answer with the last,
exactly if no request inserts a number for a user for whom one was inserted since its select. -/
theorem keepsProgress_iff (served : Served mysql jobs start run threads s)
    (readable : ∀ thread, (jobs thread).Readable) (empty : start.tables.progress.rows = []) :
    KeepsProgress mysql jobs run threads ↔ Uncrossed run := by
  constructor
  · intro keeps
    exact uncrossed_of_single served readable keeps.single
  · intro uncrossed
    have latest {front back : List CallStep} {select : CallStep} {userIdx : Int}
        (whole : run = front ++ select :: back)
        (gets : (jobs select.thread).handler = .getProgress)
        (selects : select.selectsProgress userIdx) :=
      latest_of_uncrossed served readable empty uncrossed whole gets selects
    constructor
    · exact single_of_uncrossed served readable empty uncrossed
    · intro step member userIdx number writes
      exact written_own served readable member writes
    · intro thread posts reply replied
      exact posted_written served readable posts replied
    · intro front select back userIdx whole gets selects
      exact ⟨selects_own served readable whole gets selects, latest whole gets selects⟩
    · intro thread gets reply replied ok
      obtain ⟨userIdx, front, select, back, whole, rfl, selects⟩ :=
        answered_selects served gets replied ok
      refine ⟨userIdx, front, select, back, whole, rfl, selects, ?_⟩
      rcases latest whole gets selects with ⟨silent, -⟩ | ⟨sent, -⟩
      · rw [silent] at replied
        cases replied
      · rw [sent] at replied
        exact List.mem_singleton.mp replied

end Races

section Samples

/-- One user posts two numbers at the same time. -/
def progressJobs : Nat → Job := fun thread =>
  ⟨.postProgress, requestOf [("token", ascii "t"),
    ("number", if thread = 0 then ascii "5" else ascii "7")]⟩

/-- Both requests make their select before one of them inserts. -/
def progressOrder : List Nat := [0, 0, 0, 1, 1, 1, 0, 1]

theorem progressJobs_readable (thread : Nat) : (progressJobs thread).Readable := by
  have first : Handler.postProgress.Readable
      (requestOf [("token", ascii "t"), ("number", ascii "5")]) := by decide
  have other : Handler.postProgress.Readable
      (requestOf [("token", ascii "t"), ("number", ascii "7")]) := by decide
  rw [progressJobs, Job.Readable]
  by_cases zero : thread = 0
  · rw [if_pos zero]
    exact first
  · rw [if_neg zero]
    exact other

theorem progressJobs_served : ∃ run threads t,
    Served .strict progressJobs oneUserShared run threads t ∧
      (∀ step ∈ run, none ∉ outcomes [step.event]) ∧
        ∃ step ∈ run, step.after.tables.numbersOf 1 = [5, 7] := by
  have scheduled : (Interaction.schedule (Mysql.strict.world []) progressOrder
      (fun thread => (progressJobs thread).program) oneUserShared).map (fun served =>
        (decide (∀ step ∈ served.1, none ∉ outcomes [step.event]),
          served.1.any fun step => step.after.tables.numbersOf 1 = [5, 7])) =
            some (true, true) := by
    decide +kernel
  obtain ⟨⟨run, threads, t⟩, found, same⟩ := Option.map_eq_some_iff.mp scheduled
  simp only [Prod.mk.injEq, decide_eq_true_eq, List.any_eq_true] at same
  have starts : Served .strict progressJobs oneUserShared []
      (fun thread => (progressJobs thread).program) oneUserShared := .nil
  have served := Interaction.schedule_interleaved (Mysql.strict.world_follows []) starts found
  exact ⟨run, threads, t, served, same⟩

/-- The user has two numbers. -/
theorem postProgress_races : ∃ run threads t,
    Served .strict progressJobs oneUserShared run threads t ∧
      (∀ thread, (progressJobs thread).Readable) ∧
        (∀ step ∈ run, none ∉ outcomes [step.event]) ∧
          oneUserShared.tables.progress.rows = [] ∧
            ¬ KeepsProgress .strict progressJobs run threads := by
  obtain ⟨run, threads, t, served, answered, step, member, numbers⟩ := progressJobs_served
  refine ⟨run, threads, t, served, progressJobs_readable, answered, by decide, ?_⟩
  intro keeps
  have single := keeps.single step member 1
  have two := congrArg List.length numbers
  rw [Tables.numbersOf, List.length_map] at two
  rw [two] at single
  exact absurd single (by decide)

theorem keepsProgress_iff_sample : ∃ run threads t,
    Served .strict progressJobs oneUserShared run threads t ∧
      ¬ Uncrossed run := by
  obtain ⟨run, threads, t, served, -, step, member, numbers⟩ := progressJobs_served
  refine ⟨run, threads, t, served, ?_⟩
  intro uncrossed
  have keeps := (keepsProgress_iff served progressJobs_readable (by decide)).mpr uncrossed
  have two := congrArg List.length numbers
  rw [Tables.numbersOf, List.length_map] at two
  exact absurd (two ▸ keeps.single step member 1) (by decide)

end Samples

end Ttac
