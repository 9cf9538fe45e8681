import Ttac.OwnConnection
import Ttac.SerialRequests

set_option autoImplicit false

/- `create_group` while other requests insert rows: the group it joins its user to. -/
namespace Ttac

open Interaction (Program Exchange Status Interleaved Linked Path eventsOf)
open Interaction.Program (Meets Always)
open Sql (Piece)

/-- The query adds a user to a group. -/
@[simp] def Call.Joins (userIdx groupIdx : Int) : Call → Prop
  | .mysqlQuery _ _ pieces => statementOf pieces = some (.insertMember userIdx groupIdx)
  | _ => False

/-- The calls of `create_group` in front of its join. -/
def creating (connection : Nat) (token name : Bytes) (users created ids : List Row) (idx : Int) :
    History :=
  [⟨.connectionPop, connection⟩, ⟨.mysqlQuery connection 256 (userQuery token), some users⟩,
    ⟨.mysqlQuery connection 256 (createGroupQuery name idx), some created⟩,
    ⟨.mysqlQuery connection 256 lastInsertQuery, some ids⟩]

/-- Where `create_group` joins a user to a group, it has inserted a group of the user, and
then asked for its number. -/
def JoinsCreated (req : Request) (events : History) (op : Call) : Prop :=
  ∀ userIdx groupIdx, op.Joins userIdx groupIdx → ∃ connection token name users created ids,
    findValue req.parameter (ascii "token") = .ok (some token) ∧
      findValue req.parameter (ascii "name") = .ok (some name) ∧
        events = creating connection token name users created ids userIdx ∧
          Reads users userIdx ∧ Reads ids groupIdx

theorem JoinsCreated.of_quiet {req : Request} {events : History} {op : Call}
    (quiet : ∀ userIdx groupIdx, ¬ op.Joins userIdx groupIdx) : JoinsCreated req events op := by
  intro userIdx groupIdx joins
  exact absurd joins (quiet userIdx groupIdx)

theorem createGroup_joins (req : Request) : (createGroup req).Meets (Asks (JoinsCreated req)) := by
  have replies {f : History → History} {statusCode : Int} {statusMsg : String} {body : Bytes} :
      (respond req statusCode statusMsg body).Meets fun events =>
        Asks (JoinsCreated req) (f events) := Asks.respond (.of_quiet (by simp))
  have refuses {f : History → History} {connection : Nat} :
      (serverErrer req connection).Meets fun events => Asks (JoinsCreated req) (f events) :=
    Asks.serverErrer (.of_quiet (by simp)) (.of_quiet (by simp))
  apply Handler.meets .createGroup (replies (f := id)) (asks_failed _)
  intro accepts
  cases accepts.given with
  | @createGroup name token nameFound tokenFound =>
      simp only [Handler.program, createGroup, findParameter, nameFound, tokenFound,
        Program.lift_ok_bind]
      apply Asks.pop (f := id) (.of_quiet (by simp))
      intro connection
      apply Asks.getUserIdx (.of_quiet (by simp))
      · rw [if_pos rfl]
        exact refuses
      intro users idx found
      apply Program.meets_ite.mpr
      refine ⟨fun _ => refuses, ?_⟩
      intro known
      apply Asks.query (.of_quiet (by simp))
      intro outcome
      cases outcome with
      | none => exact refuses
      | some created =>
          apply Asks.query (.of_quiet (by simp))
          intro outcome
          cases outcome with
          | none => exact refuses
          | some ids =>
              apply Asks.lift
              intro text read
              apply Asks.query
              · intro userIdx groupIdx joins
                rw [Call.Joins, ownJoinQuery_statement] at joins
                cases joins
                exact ⟨connection, token, name, users, created, ids, tokenFound, nameFound, rfl,
                  found, text, read, rfl⟩
              · intro outcome
                cases outcome with
                | none => exact refuses
                | some joined =>
                    apply Asks.commit (.of_quiet (by simp))
                    apply Asks.push (.of_quiet (by simp))
                    apply Asks.lift
                    intro body _
                    exact replies

/-- The step adds the group to the table, with the user as its owner. -/
def CallStep.Creates (step : CallStep) (groupIdx owner : Int) : Prop :=
  ∃ name, step.after.tables.projectGroup.rows =
    step.before.tables.projectGroup.rows ++ [⟨groupIdx, name, owner⟩]

/-- A query that is none of the server's own takes no group away. -/
def Mysql.KeepsGroups (mysql : Mysql) : Prop :=
  ∀ text before outcome after, mysql.other text before outcome after →
    before.projectGroup.rows <+: after.projectGroup.rows

section Steps

variable {mysql : Mysql} {connection capacity : Nat} {before after : Shared}

theorem createGroupQuery_answered {name : Bytes} {owner : Int} {created : List Row}
    (read : sqlString (chr '\'') name = some name)
    (answered : mysql.Answers (.mysqlQuery connection capacity (createGroupQuery name owner))
      (some created) before after) :
    ∃ stored, mysql.store 25 name = some stored ∧ after.tables.projectGroup.rows =
      before.tables.projectGroup.rows ++ [⟨after.lastId connection, some stored, owner⟩] ∧
        Tables.Elsewhere .projectGroup before.tables after.tables := by
  have understood : statementOf (createGroupQuery name owner) = some (.insertGroup name owner) := by
    rw [createGroupQuery_statement, read]
    rfl
  obtain ⟨-, answered⟩ := (Mysql.answers_statement understood).mp answered
  cases answered with
  | inl failed => cases failed.1
  | inr answered =>
      obtain ⟨gap, today, executed, rows, run, -, -, state⟩ := answered
      obtain ⟨stored, fits, inserted, lastId⟩ := exec_insertGroup run
      obtain ⟨-, rows, elsewhere⟩ := Tables.insertGroup_some inserted
      refine ⟨stored, fits, ?_, ?_⟩
      · rw [state]
        simp only [Function.update_self, lastId]
        exact rows
      · rw [state]
        exact elsewhere

/-- `LAST_INSERT_ID()` is read as the number of a group, if it is one. -/
theorem lastInsertQuery_reads {ids : List Row} {idx groupIdx : Int}
    (answered : mysql.Answers (.mysqlQuery connection capacity lastInsertQuery) (some ids)
      before after)
    (lastId : before.lastId connection = idx) (small : atoi (decimalInt idx) = idx)
    (reads : Reads ids groupIdx) : groupIdx = idx := by
  obtain ⟨text, read, value⟩ := reads
  have selected := Mysql.answers_lastInsertQuery.mp answered
  rw [lastId] at selected
  cases selected.answer with
  | inl failed => cases failed
  | inr answered =>
      obtain ⟨answer, same, order⟩ := answered
      cases same
      rw [List.perm_singleton.mp order] at read
      cases read
      rw [← value, small]

theorem groups_prefix (keeps : mysql.KeepsGroups) {op : Call} {answer : Answer op}
    (answered : mysql.Answers op answer before after) :
    before.tables.projectGroup.rows <+: after.tables.projectGroup.rows := by
  by_cases within : op.Within [.user, .token, .projectGroup, .joinGroup, .todo, .progress, .chat,
      .attendance]
  · exact (Mysql.answers_extends within answered).projectGroup
  · cases op with
    | mysqlQuery connection capacity pieces =>
        cases understood : statementOf pieces with
        | some statement =>
            apply absurd _ within
            refine ⟨statement, understood, ?_⟩
            intro name _
            cases name <;> simp
        | none =>
            obtain ⟨-, tables, lastId, other, state⟩ := (Mysql.answers_other understood).mp answered
            rw [state]
            exact keeps _ _ _ _ other
    | _ => exact absurd trivial within

/-- A number is given to a group once. -/
theorem creates_once {first second : CallStep} {groupIdx owner other : Int}
    (creates : first.Creates groupIdx owner) (again : second.Creates groupIdx other)
    (between : first.after.tables.projectGroup.rows <+: second.before.tables.projectGroup.rows) :
    False := by
  obtain ⟨name, inserted⟩ := creates
  obtain ⟨otherName, repeated⟩ := again
  have numbers := second.after.tables.projectGroup.numbers_nodup
  rw [repeated, List.map_append, List.map_singleton, ← List.concat_eq_append,
    List.nodup_concat] at numbers
  apply numbers.1
  have member : (⟨groupIdx, name, owner⟩ : ProjectGroup) ∈
      second.before.tables.projectGroup.rows := by
    apply between.subset
    rw [inserted]
    exact List.mem_append_right _ (List.mem_singleton_self _)
  exact List.mem_map.mpr ⟨_, member, rfl⟩

end Steps

section Runs

variable {mysql : Mysql} {jobs : Nat → Job} {start s : Shared} {run : List CallStep}
  {threads : Nat → Prog Unit}

theorem creates_unique (keeps : mysql.KeepsGroups) (served : Served mysql jobs start run threads s)
    {created other : CallStep} (member : created ∈ run) (otherMember : other ∈ run)
    {groupIdx owner otherOwner : Int} (creates : created.Creates groupIdx owner)
    (again : other.Creates groupIdx otherOwner) : other = created := by
  -- the groups of a state are still there in every later one
  have grows {first last : Shared} {steps : List CallStep}
      (linked : Linked mysql.Answers first steps last) :
      first.tables.projectGroup.rows <+: last.tables.projectGroup.rows := by
    apply linked.keeps (R := fun a b => a.tables.projectGroup.rows <+: b.tables.projectGroup.rows)
    · exact fun _ => List.prefix_rfl
    · exact fun _ _ _ => List.IsPrefix.trans
    · exact fun _ _ answered => groups_prefix keeps answered
  obtain ⟨earlier, later, whole⟩ := List.append_of_mem member
  subst whole
  obtain ⟨before, answered, after⟩ := Interaction.linked_around_iff.mp served.linked
  cases List.mem_append.mp otherMember with
  | inl inFront =>
      obtain ⟨front, back, split⟩ := List.append_of_mem inFront
      subst split
      obtain ⟨-, -, between⟩ := Interaction.linked_around_iff.mp before
      exact (creates_once again creates (grows between)).elim
  | inr behind =>
      cases List.mem_cons.mp behind with
      | inl same => exact same
      | inr inBack =>
          obtain ⟨front, back, split⟩ := List.append_of_mem inBack
          subst split
          obtain ⟨between, -, -⟩ := Interaction.linked_around_iff.mp after
          exact (creates_once creates again (grows between)).elim

/-- Where `create_group` joins a user to a group, its own request has inserted this group for
this user, on a connection that no other request has. -/
theorem served_creates (served : Served mysql jobs start run threads s) {thread : Nat}
    (creates : (jobs thread).handler = .createGroup) (readable : (jobs thread).Readable) {op : Call}
    (reaches : (threads thread).status = .calling op) {userIdx groupIdx : Int}
    (joins : op.Joins userIdx groupIdx) :
    Authenticated mysql jobs run thread userIdx ∧
      ∃ created ∈ run, created.thread = thread ∧ created.Creates groupIdx userIdx := by
  have asks : (jobs thread).program.Meets (Asks (JoinsCreated (jobs thread).req)) := by
    rw [Job.program, creates]
    exact createGroup_joins _
  have met := served.meets asks
  rw [reaches] at met
  obtain ⟨connection, token, name, users, created, ids, tokenFound, nameFound, events, found,
    read⟩ :=
    (asks_calling op).mp met userIdx groupIdx joins
  rw [Job.Readable, creates] at readable
  have tokenRead := readable.single (by simp [Handler.insertions]) tokenFound
  have nameRead := readable.single (by simp [Handler.insertions]) nameFound
  have popped : ⟨.connectionPop, connection⟩ ∈ eventsOf thread run := by
    rw [events]
    exact List.mem_cons_self ..
  have lookup : (⟨.mysqlQuery connection 256 (userQuery token), some users⟩ :
      Exchange Call Answer) ∈ eventsOf thread run := by
    rw [events]
    exact List.mem_cons_of_mem _ (List.mem_cons_self ..)
  refine ⟨served.authenticated tokenFound tokenRead lookup found, ?_⟩
  -- the steps of the two queries, with nothing of the same thread in between
  have parts : eventsOf thread run = ([⟨.connectionPop, connection⟩,
      ⟨.mysqlQuery connection 256 (userQuery token), some users⟩] : History) ++
        ⟨.mysqlQuery connection 256 (createGroupQuery name userIdx), some created⟩ ::
          [⟨.mysqlQuery connection 256 lastInsertQuery, some ids⟩] := events
  obtain ⟨earlier, insert, rest, whole, own, inserts, -, after⟩ :=
    Interaction.eventsOf_split parts
  have rests : eventsOf thread rest =
      ([] : History) ++ ⟨.mysqlQuery connection 256 lastInsertQuery, some ids⟩ :: [] := after
  obtain ⟨between, select, later, split, ownSelect, selects, foreign, -⟩ :=
    Interaction.eventsOf_split rests
  subst split whole
  obtain ⟨-, answered, linked⟩ := Interaction.linked_around_iff.mp served.linked
  obtain ⟨linked, selected, -⟩ := Interaction.linked_around_iff.mp linked
  rw [inserts] at answered
  rw [selects] at selected
  obtain ⟨stored, -, inserted, -⟩ := createGroupQuery_answered nameRead answered
  have kept : select.before.lastId connection = insert.after.lastId connection := by
    apply linked.keeps (R := fun a b => b.lastId connection = a.lastId connection)
    · exact fun _ => rfl
    · exact fun _ _ _ first second => second.trans first
    · intro step member _
      apply lastId_kept served popped step _
        (Interaction.eventsOf_eq_nil_iff.mp foreign step member)
      exact List.mem_append_right _
        (List.mem_cons_of_mem _ (List.mem_append_left _ member))
  have number : groupIdx = insert.after.lastId connection := by
    apply lastInsertQuery_reads selected kept _ read
    have stands : (⟨insert.after.lastId connection, some stored, userIdx⟩ : ProjectGroup) ∈
        insert.after.tables.projectGroup.rows := by
      rw [inserted]
      exact List.mem_append_right _ (List.mem_singleton_self _)
    have small := Tables.atoi_number insert.after.tables.projectGroup stands
    exact small
  refine ⟨insert, List.mem_append_right _ (List.mem_cons_self ..), own, some stored, ?_⟩
  rw [inserted, number]

/-- The group that `create_group` joins its user to is the one that its own request has
inserted, for the user of its token, and the number of no other request's group. -/
theorem createGroup_joins_own (served : Served mysql jobs start run threads s) (thread : Nat)
    (creates : (jobs thread).handler = .createGroup) (readable : (jobs thread).Readable) (op : Call)
    (reaches : (threads thread).status = .calling op) (userIdx groupIdx : Int)
    (joins : op.Joins userIdx groupIdx) :
    Authenticated mysql jobs run thread userIdx ∧
      ∃ created ∈ run, created.thread = thread ∧ created.Creates groupIdx userIdx ∧
        (mysql.KeepsGroups →
          ∀ other ∈ run, ∀ owner, other.Creates groupIdx owner → other = created) := by
  obtain ⟨authenticated, created, member, own, inserted⟩ :=
    served_creates served creates readable reaches joins
  refine ⟨authenticated, created, member, own, inserted, ?_⟩
  intro keeps other otherMember owner again
  exact creates_unique keeps served member otherMember inserted again

end Runs

section Samples

/-- One user, who has logged in. -/
def oneUser : Tables :=
  ((Tables.empty.insertUser 0 (some (ascii "n")) (some (ascii "i")) (some (ascii "p"))).bind
    fun tables => tables.insertToken (ascii "t") 1).get (by decide)

def oneUserShared : Shared := ⟨oneUser, fun _ => 0, 0, []⟩

def groupRequest : Request :=
  ⟨ascii "POST", ascii "/create_group", ascii "HTTP/1.1", [], none,
    [⟨some (ascii "name"), ascii "g"⟩, ⟨some (ascii "token"), ascii "t"⟩]⟩

theorem groupInserted_done : (oneUserShared.open.execute .strict 0 [] 0
    (.insertGroup (ascii "g") 1)).isSome = true := by
  decide

/-- The state behind the group that is inserted. -/
def groupInserted : Shared :=
  ((oneUserShared.open.execute .strict 0 [] 0 (.insertGroup (ascii "g") 1)).get
    groupInserted_done).2

def groupEvents : History :=
  creating 0 (ascii "t") (ascii "g") [[some (ascii "1")]] [] [[some (ascii "1")]] 1

theorem groupEvents_path : Path Mysql.strict.Answers oneUserShared groupEvents groupInserted := by
  have tokenRead : sqlString (chr '\'') (ascii "t") = some (ascii "t") := by decide
  have nameRead : sqlString (chr '\'') (ascii "g") = some (ascii "g") := by decide
  refine .cons (t := oneUserShared.open) (answers_pop (s := oneUserShared)) ?_
  refine .cons (t := oneUserShared.open) ?_ ?_
  · apply (Mysql.answers_userQuery tokenRead).mpr
    refine ⟨?_, rfl, .inr ⟨_, rfl, .of_eq (by decide)⟩⟩
    rw [userQuery_length]
    decide
  refine .cons (t := groupInserted) ?_ ?_
  · apply answers_changes
    · rw [createGroupQuery_statement, nameRead]
      rfl
    · rw [createGroupQuery_length]
      decide
    · decide
  refine .cons (t := groupInserted) ?_ (.nil _)
  apply Mysql.answers_lastInsertQuery.mpr
  refine ⟨?_, rfl, .inr ⟨_, rfl, .of_eq (by decide)⟩⟩
  rw [lastInsertQuery_length]
  decide

theorem groupRequest_readable : Handler.createGroup.Readable groupRequest := by decide

/-- Each thread serves the sample request. -/
def groupJobs : Nat → Job := fun _ => ⟨.createGroup, groupRequest⟩

/-- The second request inserts its group between the insert of the first one and its
`LAST_INSERT_ID()`. -/
def groupOrder : List Nat := [0, 0, 0, 1, 1, 1, 0]

def asksQuery : Status Call Fault Unit → Option (Nat × Nat × List Piece)
  | .calling (.mysqlQuery connection capacity pieces) => some (connection, capacity, pieces)
  | _ => none

theorem asksQuery_some {status : Status Call Fault Unit} {connection capacity : Nat}
    {pieces : List Piece} (asks : asksQuery status = some (connection, capacity, pieces)) :
    status = .calling (.mysqlQuery connection capacity pieces) := by
  unfold asksQuery at asks
  split at asks
  · cases asks
    rfl
  · cases asks

theorem createGroup_joins_own_sample : ∃ run threads s,
    Served .strict groupJobs oneUserShared run threads s ∧
      (run.map fun step => step.thread) = groupOrder ∧ s.tables.projectGroup.rows.length = 2 ∧
        (threads 0).status = .calling (.mysqlQuery 0 256 (ownJoinQuery 1 1)) ∧
          Authenticated .strict groupJobs run 0 1 ∧
            ∃ created ∈ run, created.thread = 0 ∧ created.Creates 1 1 ∧
              (Mysql.strict.KeepsGroups →
                ∀ other ∈ run, ∀ owner, other.Creates 1 owner → other = created) := by
  have scheduled : (Interaction.schedule (Mysql.strict.world []) groupOrder
      (fun thread => (groupJobs thread).program) oneUserShared).map (fun served =>
        (served.1.map fun step => step.thread, served.2.2.tables.projectGroup.rows.length,
          decide (asksQuery (served.2.1 0).status = some (0, 256, ownJoinQuery 1 1)))) =
            some (groupOrder, 2, true) := by
    decide +kernel
  obtain ⟨⟨run, threads, s⟩, found, same⟩ := Option.map_eq_some_iff.mp scheduled
  simp only [Prod.mk.injEq, decide_eq_true_eq] at same
  obtain ⟨order, rows, asks⟩ := same
  have starts : Served .strict groupJobs oneUserShared [] (fun thread => (groupJobs thread).program)
      oneUserShared := .nil
  have served : Served .strict groupJobs oneUserShared run threads s :=
    Interaction.schedule_interleaved (Mysql.strict.world_follows []) starts found
  have reaches := asksQuery_some asks
  refine ⟨run, threads, s, served, order, rows, reaches, ?_⟩
  exact createGroup_joins_own served 0 rfl groupRequest_readable _ reaches 1 1
    (ownJoinQuery_statement 1 1)

end Samples

end Ttac
