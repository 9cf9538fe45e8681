import Ttac.Memberships

set_option autoImplicit false

/- The rows of `join_group` while requests are served at the same time: who may add one, and
what `join_group` replies. -/
namespace Ttac

open Interaction (Program Exchange Status Interleaved Linked Transition eventsOf)
open Interaction.Program (Meets)
open Sql (Piece)

/-- The row a statement adds to `join_group`. -/
def Statement.member : Statement → Option Member
  | .insertMember userIdx groupIdx => some ⟨userIdx, groupIdx⟩
  | _ => none

/-- The row a call adds to `join_group`. -/
def CallStep.joined (step : CallStep) : Option Member :=
  (carriedOut step.event).bind Statement.member

/-- The statements of a history that were carried out and may have changed a table. -/
def written (events : History) : List Statement :=
  (events.filterMap carriedOut).filter fun statement => statement.target.isSome

section Written

variable {event : Exchange Call Answer} {events : History} {connection capacity : Nat}
  {pieces : List Piece} {outcome : Option (List Row)} {statement : Statement}

theorem written_cons (event : Exchange Call Answer) (events : History) :
    written (event :: events) =
      ((carriedOut event).toList.filter fun statement => statement.target.isSome) ++
        written events := by
  cases carried : carriedOut event with
  | none => simp [written, carried]
  | some statement =>
      by_cases writes : statement.target.isSome = true <;> simp [written, carried, writes]

theorem written_quiet (quiet : carriedOut event = none) :
    written (event :: events) = written events := by
  rw [written_cons, quiet]
  rfl

theorem written_replied {reply : Reply} :
    written (events ++ [⟨.response reply, ()⟩]) = written events := by
  simp [written, carriedOut]

theorem written_select (understood : statementOf pieces = some statement)
    (reads : statement.target = none) :
    written (⟨.mysqlQuery connection capacity pieces, outcome⟩ :: events) = written events := by
  cases outcome with
  | none => exact written_quiet rfl
  | some rows =>
      have carried : carriedOut ⟨.mysqlQuery connection capacity pieces, some rows⟩ =
          some statement := understood
      rw [written_cons, carried, Option.toList_some, List.filter_cons_of_neg (by simp [reads])]
      rfl

end Written

/-- The lookups of `join_group`, with their outcomes. -/
def lookups (connection : Nat) (token ID : Bytes) (users named : Option (List Row)) : History :=
  [⟨.connectionPop, connection⟩, ⟨.mysqlQuery connection 256 (userQuery token), users⟩,
    ⟨.mysqlQuery connection 256 (userByIDQuery ID), named⟩]

/-- The calls of `join_group` in front of its insert. -/
def joining (connection : Nat) (token ID groupId : Bytes) (users named owned : List Row)
    (owner : Int) : History :=
  lookups connection token ID (some users) (some named) ++
    [⟨.mysqlQuery connection 256 (ownerQuery owner groupId), some owned⟩]

/-- The replies of `join_group` behind which nothing has changed. -/
def refusals (req : Request) : List Reply :=
  [statusReply req "NONE", statusReply req "ERROR", serverError req, missingReply req]

/-- Where `join_group` adds a member it has found a group of the caller, and where it replies
the reply says whether the member was added. -/
structure JoinsOwned (req : Request) (events : History) (op : Call) : Prop where
  silent : replies events = []
  joins : ∀ userIdx groupIdx, op.Joins userIdx groupIdx →
    ∃ connection token ID groupId users named row rows owner,
      findValue req.parameter (ascii "token") = .ok (some token) ∧
        findValue req.parameter (ascii "ID") = .ok (some ID) ∧
          findValue req.parameter (ascii "group_id") = .ok (some groupId) ∧
            sqlInteger groupId = some groupIdx ∧
              events = joining connection token ID groupId users named (row :: rows) owner ∧
                Reads users owner ∧ Reads named userIdx
  responds : ∀ reply, op = .response reply →
    (reply = statusReply req "OK" ∧
      ∃ userIdx groupIdx, written events = [.insertMember userIdx groupIdx]) ∨
        (reply ∈ refusals req ∧ written events = [])

section Shapes

variable {req : Request} {events : History} {op : Call}

theorem JoinsOwned.of_quiet (silent : replies events = [])
    (quiet : ∀ userIdx groupIdx, ¬ op.Joins userIdx groupIdx) (noReply : ¬ op.IsReply) :
    JoinsOwned req events op := by
  refine ⟨silent, ?_, ?_⟩
  · intro userIdx groupIdx joins
    exact absurd joins (quiet userIdx groupIdx)
  · intro reply same
    subst same
    exact absurd trivial noReply

theorem JoinsOwned.refuses {reply : Reply} (silent : replies events = [])
    (refused : reply ∈ refusals req) (nothing : written events = []) :
    JoinsOwned req events (.response reply) := by
  refine ⟨silent, fun _ _ joins => joins.elim, ?_⟩
  intro other same
  cases same
  exact .inr ⟨refused, nothing⟩

/-- A part that sends one of the refusals, behind calls that changed nothing. -/
theorem refuses_joins {f : History → History} {connection : Nat}
    (silent : ∀ after, replies (f after) = replies after)
    (nothing : ∀ after, written (f after) = written after) :
    (serverErrer req connection).Meets fun events => Asks (JoinsOwned req) (f events) := by
  apply Asks.serverErrer
  · exact .of_quiet (silent []) (fun _ _ => id) id
  · apply JoinsOwned.refuses
    · exact silent _
    · simp [refusals, serverError]
    · exact nothing _

theorem status_joins {f : History → History} {status : String}
    (silent : replies (f []) = []) (nothing : written (f []) = [])
    (refused : statusReply req status ∈ refusals req) :
    (Program.lift (sprintf 50 (statusBody status)) >>= fun body =>
      respond req 200 "OK" body).Meets fun events => Asks (JoinsOwned req) (f events) := by
  apply Asks.lift
  intro body sent
  rw [(sprintf_ok sent).2]
  exact Asks.respond (.refuses silent refused nothing)

theorem written_lookups {connection : Nat} {token ID : Bytes} {users named : Option (List Row)}
    (tokenRead : sqlString (chr '\'') token = some token)
    (IDRead : sqlString (chr '\'') ID = some ID) (after : History) :
    written (lookups connection token ID users named ++ after) = written after := by
  have userRead : statementOf (userQuery token) = some (.userByToken token) := by
    rw [userQuery_statement, tokenRead]
    rfl
  have namedRead : statementOf (userByIDQuery ID) = some (.userByID ID) := by
    rw [userByIDQuery_statement, IDRead]
    rfl
  rw [lookups, List.cons_append, List.cons_append, List.cons_append, List.nil_append,
    written_quiet rfl, written_select userRead rfl, written_select namedRead rfl]

/-- What `join_group` does behind its lookups. -/
theorem joinRest_asks {connection : Nat} {token ID groupId : Bytes} {idx useridx group : Int}
    {outcome named : Option (List Row)}
    (tokenFound : findValue req.parameter (ascii "token") = .ok (some token))
    (groupFound : findValue req.parameter (ascii "group_id") = .ok (some groupId))
    (IDFound : findValue req.parameter (ascii "ID") = .ok (some ID))
    (tokenRead : sqlString (chr '\'') token = some token)
    (IDRead : sqlString (chr '\'') ID = some ID) (groupRead : sqlInteger groupId = some group)
    (found : idx ≠ -1 → ∃ users, outcome = some users ∧ Reads users idx)
    (known : useridx ≠ -1 → ∃ users, named = some users ∧ Reads users useridx) :
    (joinRest req connection groupId idx useridx).Meets fun events =>
      Asks (JoinsOwned req) (lookups connection token ID outcome named ++ events) := by
  have looked (after : History) :
      written (lookups connection token ID outcome named ++ after) = written after :=
    written_lookups tokenRead IDRead after
  apply Program.meets_ite.mpr
  refine ⟨fun _ => refuses_joins (fun _ => rfl) looked, ?_⟩
  intro caller
  apply Program.meets_ite.mpr
  refine ⟨fun _ => status_joins rfl (looked []) (by simp [refusals]), ?_⟩
  intro user
  obtain ⟨users, rfl, owner⟩ := found caller
  obtain ⟨others, rfl, member⟩ := known user
  have owned : statementOf (ownerQuery idx groupId) = some (.ownedGroup idx group) := by
    rw [ownerQuery_statement, groupRead]
    rfl
  have inserts : statementOf (joinGroupQuery useridx groupId) =
      some (.insertMember useridx group) := by
    rw [joinGroupQuery_statement, groupRead]
    rfl
  have asked (outcome : Option (List Row)) (after : History) :
      written (lookups connection token ID (some users) (some others) ++
        ⟨.mysqlQuery connection 256 (ownerQuery idx groupId), outcome⟩ :: after) =
          written after := by
    rw [looked, written_select owned rfl]
  apply Asks.query
  · exact .of_quiet rfl (by simp [owned]) id
  intro outcome
  cases outcome with
  | none => exact refuses_joins (fun _ => rfl) (asked none)
  | some rows =>
      cases rows with
      | nil => exact status_joins rfl (asked _ []) (by simp [refusals])
      | cons row rows =>
          apply Asks.query
          · refine ⟨rfl, ?_, fun reply same => by cases same⟩
            intro userIdx groupIdx joins
            rw [Call.Joins, inserts] at joins
            cases joins
            exact ⟨connection, token, ID, groupId, users, others, row, rows, idx, tokenFound,
              IDFound, groupFound, groupRead, rfl, owner, member⟩
          intro outcome
          cases outcome with
          | none =>
              exact refuses_joins (fun _ => rfl) fun after =>
                (asked _ _).trans (written_quiet rfl)
          | some joined =>
              apply Asks.lift
              intro body sent
              rw [(sprintf_ok sent).2]
              apply Asks.respond
              refine ⟨rfl, fun _ _ joins => joins.elim, ?_⟩
              intro reply same
              cases same
              refine .inl ⟨rfl, useridx, group, ?_⟩
              have carried : carriedOut ⟨.mysqlQuery connection 256
                  (joinGroupQuery useridx groupId), some joined⟩ =
                    some (.insertMember useridx group) := inserts
              refine (asked _ _).trans ?_
              rw [written_cons, carried]
              rfl

theorem joinGroup_asks (readable : Handler.joinGroup.Readable req) :
    (joinGroup req).Meets (Asks (JoinsOwned req)) := by
  apply Handler.meets .joinGroup
  · exact Asks.respond (f := id) (.refuses rfl (by simp [refusals, missingReply]) rfl)
  · exact asks_failed _
  intro accepts
  cases accepts.given with
  | @joinGroup token groupId ID tokenFound groupFound IDFound =>
      have tokenRead := readable.single (by simp [Handler.insertions]) tokenFound
      have IDRead := readable.single (by simp [Handler.insertions]) IDFound
      obtain ⟨group, groupRead⟩ := readable.number (by simp [Handler.insertions]) groupFound
      rw [Handler.program, joinGroup_given tokenFound groupFound IDFound]
      apply Asks.pop (f := id) (.of_quiet rfl (by simp) id)
      intro connection
      -- the lookup of the ID, which is made even if that of the token has failed
      have looks {outcome : Option (List Row)} {idx : Int}
          (found : idx ≠ -1 → ∃ users, outcome = some users ∧ Reads users idx) :
          (getUserIdxByID connection ID >>= joinRest req connection groupId idx).Meets fun events =>
            Asks (JoinsOwned req) (⟨.connectionPop, connection⟩ ::
              ⟨.mysqlQuery connection 256 (userQuery token), outcome⟩ :: events) := by
        have rest {named : Option (List Row)} {useridx : Int}
            (known : useridx ≠ -1 → ∃ users, named = some users ∧ Reads users useridx) :
            (joinRest req connection groupId idx useridx).Meets fun events => Asks (JoinsOwned req)
              (lookups connection token ID outcome named ++ events) :=
          joinRest_asks tokenFound groupFound IDFound tokenRead IDRead groupRead found known
        apply Asks.getUserIdxByID
        · exact .of_quiet rfl (by simp) id
        · intro named _
          exact rest (by simp)
        · intro users useridx known
          exact rest fun _ => ⟨users, rfl, known⟩
      apply Asks.getUserIdx
      · exact .of_quiet rfl (by simp) id
      · exact looks (by simp)
      · intro users idx found
        exact looks fun _ => ⟨users, rfl, found⟩

/-- Behind its reply `join_group` makes no more calls. -/
theorem joinGroup_replied {rest : Prog Unit} {reply : Reply}
    (readable : Handler.joinGroup.Readable req) (runs : (joinGroup req).Runs events rest)
    (replied : reply ∈ replies events) :
    (reply = statusReply req "OK" ∧
      ∃ userIdx groupIdx, written events = [.insertMember userIdx groupIdx]) ∨
        (reply ∈ refusals req ∧ written events = []) := by
  obtain ⟨before, rfl, asked⟩ :=
    Asks.replied (joinGroup_asks readable) (fun _ _ asks => asks.silent) runs replied
  rw [written_replied]
  exact asked.responds reply rfl

end Shapes

section Steps

variable {mysql : Mysql} {gap : Nat} {today : Bytes} {tables : Tables} {lastId : Int}
  {executed : Executed} {targets : List TableName} {s t : Shared}

theorem exec_joinGroup {statement : Statement}
    (run : exec mysql gap today tables lastId statement = some executed) :
    executed.tables.joinGroup = tables.joinGroup ++ statement.member.toList := by
  cases statement with
  | insertMember userIdx groupIdx => exact (Tables.insertMember_some (exec_insertMember run)).2.1
  | _ =>
      have same : Tables.Same tables executed.tables .joinGroup :=
        exec_same (by simp [Statement.target]) run
      rw [← show tables.joinGroup = _ from same]
      exact (List.append_nil _).symm

theorem answers_joinGroup {event : Exchange Call Answer} (within : event.op.Within targets)
    (answered : mysql.Answers event.op event.answer s t) :
    t.tables.joinGroup =
      s.tables.joinGroup ++ ((carriedOut event).bind Statement.member).toList := by
  rcases answers_carriedOut within answered with ⟨nothing, same⟩ | done
  · rw [show carriedOut event = none from nothing, same]
    exact (List.append_nil _).symm
  · obtain ⟨statement, gap, today, lastId, executed, carried, run, same⟩ := done
    rw [show carriedOut event = some statement from carried, same]
    exact exec_joinGroup run

/-- A call that writes nothing leaves the tables as they are. -/
theorem answers_unwritten {event : Exchange Call Answer} (within : event.op.Within targets)
    (answered : mysql.Answers event.op event.answer s t) (nothing : written [event] = []) :
    t.tables = s.tables := by
  rcases answers_carriedOut within answered with ⟨none, same⟩ | done
  · exact same
  · obtain ⟨statement, gap, today, lastId, executed, carried, run, same⟩ := done
    rw [written_cons, show carriedOut event = some statement from carried,
      List.append_eq_nil_iff, Option.toList_some, List.filter_eq_nil_iff] at nothing
    have reads := nothing.1 statement (List.mem_singleton_self _)
    rw [same]
    exact exec_reads (Option.not_isSome_iff_eq_none.mp reads) run

end Steps

/-- The request is authenticated as the user and has created the group. -/
def Founds (mysql : Mysql) (jobs : Nat → Job) (run : List CallStep) (thread : Nat)
    (row : Member) : Prop :=
  (jobs thread).handler = .createGroup ∧ Authenticated mysql jobs run thread row.userIdx ∧
    ∃ created ∈ run, created.thread = thread ∧ created.Creates row.groupIdx row.userIdx

/-- The request is authenticated as the owner of the group, which it names, and names the ID of
the user. -/
def Invites (mysql : Mysql) (jobs : Nat → Job) (run : List CallStep) (thread : Nat)
    (tables : Tables) (row : Member) : Prop :=
  (jobs thread).handler = .joinGroup ∧
    (∃ group ∈ tables.projectGroup.rows, group.idx = row.groupIdx ∧
      Authenticated mysql jobs run thread group.owner) ∧
    (∃ groupId, findValue (jobs thread).req.parameter (ascii "group_id") = .ok (some groupId) ∧
      sqlInteger groupId = some row.groupIdx) ∧
    ∃ ID, findValue (jobs thread).req.parameter (ascii "ID") = .ok (some ID) ∧
      ∃ user ∈ tables.usersByID mysql.same ID, user.idx = row.userIdx

section Runs

variable {mysql : Mysql} {jobs : Nat → Job} {start s : Shared} {run : List CallStep}
  {threads : Nat → Prog Unit}

/-- The memberships are those of the calls, in their order. -/
theorem joinGroup_rows (served : Served mysql jobs start run threads s)
    (readable : ∀ thread, (jobs thread).Readable) :
    s.tables.joinGroup = start.tables.joinGroup ++ run.filterMap CallStep.joined := by
  apply served.linked.lists (fun s => s.tables.joinGroup)
  intro step member answered
  exact answers_joinGroup (served.within readable step member) answered

/-- Where `join_group` adds a member, its request is that of the owner. -/
theorem joining_invites (served : Served mysql jobs start run threads s) {thread : Nat}
    (joins : (jobs thread).handler = .joinGroup) (readable : ∀ thread, (jobs thread).Readable)
    {op : Call} (reaches : (threads thread).status = .calling op) {userIdx groupIdx : Int}
    (adds : op.Joins userIdx groupIdx) :
    Invites mysql jobs run thread s.tables ⟨userIdx, groupIdx⟩ := by
  have own := readable thread
  rw [Job.Readable, joins] at own
  have asks : (jobs thread).program.Meets (Asks (JoinsOwned (jobs thread).req)) := by
    rw [Job.program, joins]
    exact joinGroup_asks own
  have met := served.meets asks
  rw [reaches] at met
  obtain ⟨connection, token, ID, groupId, users, named, row, rows, owner, tokenFound, IDFound,
    groupFound, groupRead, events, caller, user⟩ := ((asks_calling op).mp met).joins _ _ adds
  have tokenRead := own.single (by simp [Handler.insertions]) tokenFound
  have IDRead := own.single (by simp [Handler.insertions]) IDFound
  have lookup : (⟨.mysqlQuery connection 256 (userQuery token), some users⟩ :
      Exchange Call Answer) ∈ eventsOf thread run := by simp [events, joining, lookups]
  have namedLookup : (⟨.mysqlQuery connection 256 (userByIDQuery ID), some named⟩ :
      Exchange Call Answer) ∈ eventsOf thread run := by simp [events, joining, lookups]
  have ownerLookup : (⟨.mysqlQuery connection 256 (ownerQuery owner groupId), some (row :: rows)⟩ :
      Exchange Call Answer) ∈ eventsOf thread run := by simp [events, joining, lookups]
  refine ⟨joins, ?_, ⟨groupId, groupFound, groupRead⟩, ID, IDFound, ?_⟩
  · obtain ⟨select, member, -, event⟩ := Interaction.mem_eventsOf.mp ownerLookup
    have answered := served.answers member
    rw [event] at answered
    have understood : statementOf (ownerQuery owner groupId) =
        some (.ownedGroup owner groupIdx) := by
      rw [ownerQuery_statement, groupRead]
      rfl
    have selected := (Mysql.answers_select _ understood fun _ _ => rfl).mp answered
    cases selected.answer with
    | inl failed => cases failed
    | inr answered =>
        obtain ⟨answer, same, order⟩ := answered
        cases same
        obtain ⟨group, owned, -⟩ :=
          List.mem_map.mp (order.mem_iff.mp (List.mem_cons_self ..))
        obtain ⟨stored, chosen⟩ := List.mem_filter.mp owned
        obtain ⟨owns, number⟩ := of_decide_eq_true chosen
        have stands := (served.extends readable member).projectGroup.subset stored
        refine ⟨group, stands, number, ?_⟩
        rw [owns]
        exact served.authenticated tokenFound tokenRead lookup caller
  · obtain ⟨select, member, -, event⟩ := Interaction.mem_eventsOf.mp namedLookup
    have answered := served.answers member
    rw [event] at answered
    obtain ⟨found, chosen, number⟩ := userByIDQuery_reads IDRead answered user
    obtain ⟨stored, same⟩ := List.mem_filter.mp chosen
    have stands := (served.extends readable member).user.subset stored
    exact ⟨found, List.mem_filter.mpr ⟨stands, same⟩, number⟩

theorem Statement.member_some {statement : Statement} {row : Member}
    (adds : statement.member = some row) :
    statement = .insertMember row.userIdx row.groupIdx := by
  cases statement with
  | insertMember userIdx groupIdx =>
      cases adds
      rfl
  | _ => cases adds

/-- Each member who is added is the founder of the group or invited by the owner. -/
theorem joined_granted (served : Served mysql jobs start run threads s)
    (readable : ∀ thread, (jobs thread).Readable) {step : CallStep} (member : step ∈ run)
    {row : Member} (joined : step.joined = some row) :
    Founds mysql jobs run step.thread row ∨
      Invites mysql jobs run step.thread step.before.tables row := by
  have within := served.within readable step member
  obtain ⟨statement, carried, adds⟩ := Option.bind_eq_some_iff.mp joined
  obtain rfl := Statement.member_some adds
  have sends := carriedOut_sends carried
  have joins : step.event.op.Joins row.userIdx row.groupIdx := by
    cases shape : step.event.op <;> rw [shape] at sends <;> exact sends
  have target : TableName.joinGroup ∈ (jobs step.thread).handler.targets :=
    Call.Sends.target sends within rfl
  obtain ⟨earlier, later, whole⟩ := List.append_of_mem member
  rw [whole] at served
  obtain ⟨middle, before, reaches⟩ := served.calling
  have front : ∀ {step : CallStep}, step ∈ earlier → step ∈ run := by
    intro step inFront
    rw [whole]
    exact List.mem_append_left _ inFront
  have authentic {idx : Int} (authenticated : Authenticated mysql jobs earlier step.thread idx) :
      Authenticated mysql jobs run step.thread idx := by
    rw [whole]
    exact authenticated.append _
  by_cases creates : (jobs step.thread).handler = .createGroup
  · obtain ⟨authenticated, created, inFront, own, founded⟩ :=
      served_creates before creates (readable _) reaches joins
    exact .inl ⟨creates, authentic authenticated, created, front inFront, own, founded⟩
  · have invites : (jobs step.thread).handler = .joinGroup := by
      cases shape : (jobs step.thread).handler <;> simp_all [Handler.targets]
    obtain ⟨-, owned, named⟩ := joining_invites before invites readable reaches joins
    obtain ⟨group, stored, number, authenticated⟩ := owned
    exact .inr ⟨invites, ⟨group, stored, number, authentic authenticated⟩, named⟩

theorem joined_of_written {run : List CallStep} {thread : Nat} :
    (run.filter fun step => step.thread = thread).filterMap CallStep.joined =
      (written (eventsOf thread run)).filterMap Statement.member := by
  have only : ∀ statements : List Statement,
      (statements.filter fun statement => statement.target.isSome).filterMap Statement.member =
        statements.filterMap Statement.member := by
    intro statements
    induction statements with
    | nil => rfl
    | cons statement statements ih =>
        cases statement with
        | insertMember userIdx groupIdx => exact congrArg (List.cons _) ih
        | _ => exact ih
  rw [written, only, eventsOf, List.filterMap_map, List.filterMap_filterMap]
  rfl

/-- The members of the groups have been added by the requests of the owners, and `join_group`
replies `OK` if it has added one, and has otherwise changed nothing. -/
theorem joinGroup_granted_by_owner (served : Served mysql jobs .start run threads s)
    (readable : ∀ thread, (jobs thread).Readable) :
    s.tables.joinGroup = run.filterMap CallStep.joined ∧
      (∀ step ∈ run, ∀ row, step.joined = some row →
        Founds mysql jobs run step.thread row ∨
          Invites mysql jobs run step.thread step.before.tables row) ∧
        ∀ thread, (jobs thread).handler = .joinGroup → ∀ reply ∈ replies (eventsOf thread run),
          (reply = statusReply (jobs thread).req "OK" ∧
            ∃ row, (run.filter fun step => step.thread = thread).filterMap CallStep.joined =
              [row]) ∨
          (reply ∈ refusals (jobs thread).req ∧ ∀ step ∈ run, step.thread = thread →
            step.after.tables = step.before.tables) := by
  refine ⟨joinGroup_rows served readable, fun step member row joined =>
    joined_granted served readable member joined, ?_⟩
  intro thread joins reply replied
  have own := readable thread
  have runs := served.runs thread
  rw [Job.Readable, joins] at own
  rw [Job.program, joins] at runs
  rcases joinGroup_replied own runs replied with ⟨same, userIdx, groupIdx, insert⟩ | refused
  · refine .inl ⟨same, ⟨userIdx, groupIdx⟩, ?_⟩
    rw [joined_of_written, insert]
    rfl
  · obtain ⟨refused, nothing⟩ := refused
    refine .inr ⟨refused, ?_⟩
    intro step member mine
    apply answers_unwritten (served.within readable step member) (served.answers member)
    have among : step.event ∈ eventsOf thread run :=
      Interaction.mem_eventsOf.mpr ⟨step, member, mine, rfl⟩
    obtain ⟨before, after, whole⟩ := List.append_of_mem among
    rw [whole, written, List.filterMap_append, List.filter_append,
      List.append_eq_nil_iff] at nothing
    have behind : written (step.event :: after) = [] := nothing.2
    rw [written_cons, List.append_eq_nil_iff] at behind
    rw [written_cons, behind.1]
    rfl

end Runs

section Samples

/-- A user signs up, logs in, creates a group and invites himself into it. -/
def invitingJobs : Nat → Job := fun thread => twiceJobs.getD thread ⟨.joinGroup, requestOf []⟩

theorem invitingJobs_readable (thread : Nat) : (invitingJobs thread).Readable :=
  getD_readable twiceJobs_readable thread

/-- The calls of the requests, one request behind the other. -/
def invitingOrder : List Nat :=
  List.replicate 5 0 ++ List.replicate 55 1 ++ List.replicate 8 2 ++ List.replicate 6 3

theorem joinGroup_granted_by_owner_sample : ∃ run threads s,
    Served .strict invitingJobs .start run threads s ∧
      replies (eventsOf 3 run) = [statusReply (invitingJobs 3).req "OK"] ∧
        s.tables.joinGroup = run.filterMap CallStep.joined ∧
          ∃ row, (run.filter fun step => step.thread = 3).filterMap CallStep.joined = [row] := by
  have scheduled : (Interaction.schedule (Mysql.strict.world []) invitingOrder
      (fun thread => (invitingJobs thread).program) .start).map (fun served =>
        replies (eventsOf 3 served.1)) = some [statusReply (invitingJobs 3).req "OK"] := by
    decide +kernel
  obtain ⟨⟨run, threads, s⟩, found, replied⟩ := Option.map_eq_some_iff.mp scheduled
  have starts : Served .strict invitingJobs .start []
      (fun thread => (invitingJobs thread).program) .start := .nil
  have served := Interaction.schedule_interleaved (Mysql.strict.world_follows []) starts found
  obtain ⟨rows, -, ends⟩ := joinGroup_granted_by_owner served invitingJobs_readable
  refine ⟨run, threads, s, served, replied, rows, ?_⟩
  have sent : statusReply (invitingJobs 3).req "OK" ∈ replies (eventsOf 3 run) := by
    rw [replied]
    exact List.mem_singleton_self _
  rcases ends 3 rfl _ sent with ⟨-, granted⟩ | ⟨refused, -⟩
  · exact granted
  · exact absurd refused (by decide)

end Samples

end Ttac
