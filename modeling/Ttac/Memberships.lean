import Ttac.GroupAtomicity

set_option autoImplicit false

/- The memberships that requests served one behind the other grant, and the rows of
`join_group` they leave. -/
namespace Ttac

open Interaction (Program Completes completes_lift_bind completes_ite)
open Sql (Piece)

/-- What is left of `join_group` behind its two lookups. -/
def joinRest (req : Request) (connection : Nat) (groupId : Bytes) (idx useridx : Int) :
    Prog Unit :=
  if idx = -1 then serverErrer req connection
  else if useridx = -1 then do
    let body ← Program.lift (sprintf 50 (statusBody "NONE"))
    respond req 200 "OK" body
  else do
    match ← mysqlQuery connection 256 (ownerQuery idx groupId) with
    | none => serverErrer req connection
    | some [] => do
      let body ← Program.lift (sprintf 50 (statusBody "ERROR"))
      respond req 200 "OK" body
    | some (_ :: _) => do
      match ← mysqlQuery connection 256 (joinGroupQuery useridx groupId) with
      | none => serverErrer req connection
      | some _ => do
        let body ← Program.lift (sprintf 50 (statusBody "OK"))
        respond req 200 "OK" body

theorem none_not_ok : statusBody "NONE" ≠ statusBody "OK" := by decide

theorem missing_not_ok : ascii "missing parameters" ≠ statusBody "OK" := by decide

theorem error_not_ok : statusBody "ERROR" ≠ statusBody "OK" := by decide

section Request

variable {mysql : Mysql} {req : Request} {token groupId ID : Bytes} {events : History}
  {s t : Shared}
  {connection : Nat} {owner : Int}

theorem joinGroup_given (tokenFound : findValue req.parameter (ascii "token") = .ok (some token))
    (groupFound : findValue req.parameter (ascii "group_id") = .ok (some groupId))
    (IDFound : findValue req.parameter (ascii "ID") = .ok (some ID)) :
    joinGroup req = connectionPop >>= fun connection => getUserIdx connection token >>= fun idx =>
      getUserIdxByID connection ID >>= joinRest req connection groupId idx := by
  simp only [joinGroup, findParameter, tokenFound, groupFound, IDFound, Program.lift_ok_bind]
  rfl

/-- Behind its lookups `join_group` either inserts a member into a group of the owner and
replies `OK`, or changes nothing and replies something else. -/
theorem joinRest_completes {useridx group : Int} (groupRead : sqlInteger groupId = some group)
    (completes : Completes mysql.Answers (joinRest req connection groupId owner useridx) s events
      () t) :
    (t.tables = s.tables ∧ ∃ reply, replies events = [reply] ∧ reply.body ≠ statusBody "OK") ∨
      ((∃ owned, owned ∈ s.tables.ownedGroup owner group) ∧
        replies events = [statusReply req "OK"] ∧
          t.tables.joinGroup = s.tables.joinGroup ++ [⟨useridx, group⟩]) := by
  have refused (refuses : Completes mysql.Answers (serverErrer req connection) s events () t) :
      t.tables = s.tables ∧ ∃ reply, replies events = [reply] ∧ reply.body ≠ statusBody "OK" := by
    obtain ⟨rfl, rfl⟩ := completes_serverErrer.mp refuses
    exact ⟨rfl, _, rfl, serverError_not_ok⟩
  rcases completes_ite.mp completes with ⟨-, refuses⟩ | ⟨-, goes⟩
  · exact .inl (refused refuses)
  rcases completes_ite.mp goes with ⟨-, unknown⟩ | ⟨-, goes⟩
  · obtain ⟨-, rfl, rfl⟩ := completes_body.mp unknown
    exact .inl ⟨rfl, _, rfl, none_not_ok⟩
  obtain ⟨outcome, selected, later, rfl, answered, rest⟩ := completes_query.mp goes
  have understood : statementOf (ownerQuery owner groupId) = some (.ownedGroup owner group) := by
    rw [ownerQuery_statement, groupRead]
    rfl
  have selects : Mysql.Selected 256 (ownerQuery owner groupId)
      ((s.tables.ownedGroup owner group).map fun group => [numberText group.idx]) outcome s
        selected := (Mysql.answers_select _ understood fun _ _ => rfl).mp answered
  have same := selects.state
  subst same
  cases outcome with
  | none =>
      obtain ⟨rfl, rfl⟩ := completes_serverErrer.mp rest
      exact .inl ⟨rfl, _, rfl, serverError_not_ok⟩
  | some rows =>
      cases rows with
      | nil =>
          obtain ⟨-, rfl, rfl⟩ := completes_body.mp rest
          exact .inl ⟨rfl, _, rfl, error_not_ok⟩
      | cons row rows =>
          obtain ⟨outcome, joined, later, rfl, inserted, ends⟩ := completes_query.mp rest
          have joins : statementOf (joinGroupQuery useridx groupId) =
              some (.insertMember useridx group) := by
            rw [joinGroupQuery_statement, groupRead]
            rfl
          cases outcome with
          | none =>
              obtain rfl := answers_none joins inserted
              obtain ⟨rfl, rfl⟩ := completes_serverErrer.mp ends
              exact .inl ⟨rfl, _, rfl, serverError_not_ok⟩
          | some members =>
              obtain ⟨-, rfl, rfl⟩ := completes_body.mp ends
              refine .inr ⟨?_, rfl, (answers_insertMember joins inserted).1⟩
              rcases selects.answer with failed | ⟨answer, found, order⟩
              · cases failed
              · cases found
                obtain ⟨owned, member, -⟩ :=
                  List.mem_map.mp (order.mem_iff.mp (List.mem_cons_self ..))
                exact ⟨owned, member⟩

/-- Without both users `join_group` changes nothing. -/
theorem joinRest_unknown {idx useridx : Int} (unknown : idx = -1 ∨ useridx = -1)
    (completes : Completes mysql.Answers (joinRest req connection groupId idx useridx) s events
      () t) :
    t.tables = s.tables ∧ ∃ reply, replies events = [reply] ∧ reply.body ≠ statusBody "OK" := by
  rcases completes_ite.mp completes with ⟨-, refuses⟩ | ⟨known, goes⟩
  · obtain ⟨rfl, rfl⟩ := completes_serverErrer.mp refuses
    exact ⟨rfl, _, rfl, serverError_not_ok⟩
  · rw [if_pos (unknown.resolve_left known)] at goes
    obtain ⟨-, rfl, rfl⟩ := completes_body.mp goes
    exact ⟨rfl, _, rfl, none_not_ok⟩

/-- How `join_group` ends. -/
theorem joinGroup_serves (readable : Handler.joinGroup.Readable req)
    (tokenFound : findValue req.parameter (ascii "token") = .ok (some token))
    (groupFound : findValue req.parameter (ascii "group_id") = .ok (some groupId))
    (IDFound : findValue req.parameter (ascii "ID") = .ok (some ID))
    (served : mysql.Serves ⟨.joinGroup, req⟩ events s t) :
    (t.tables = s.tables ∧ ∃ reply, replies events = [reply] ∧ reply.body ≠ statusBody "OK") ∨
      ∃ group, sqlInteger groupId = some group ∧
        ∃ caller ∈ s.tables.usersByToken mysql.same token,
          ∃ named ∈ s.tables.usersByID mysql.same ID,
            (∃ owned, owned ∈ s.tables.ownedGroup caller.idx group) ∧
              replies events = [statusReply req "OK"] ∧
                t.tables.joinGroup = s.tables.joinGroup ++ [⟨named.idx, group⟩] := by
  have tokenRead := readable.single (by simp [Handler.insertions]) tokenFound
  have IDRead := readable.single (by simp [Handler.insertions]) IDFound
  obtain ⟨group, groupRead⟩ := readable.number (by simp [Handler.insertions]) groupFound
  have program : (⟨.joinGroup, req⟩ : Job).program = joinGroup req := rfl
  rw [Mysql.Serves, program, joinGroup_given tokenFound groupFound IDFound] at served
  obtain ⟨later, whole, looks⟩ := completes_pop.mp served
  obtain ⟨outcome, behind, split, known⟩ := completes_getUserIdx tokenRead looks
  -- the lookups send no reply
  have quiet {named : Option (List Row)} {rest : History}
      (shape : behind = ⟨.mysqlQuery s.connections 256 (userByIDQuery ID), named⟩ :: rest) :
      replies events = replies rest := by
    rw [whole, split, shape]
    rfl
  rcases known with ⟨-, fails⟩ | ⟨users, caller, callerFound, -, -, goes⟩
  · obtain ⟨outcome, rest, shape, named⟩ := completes_getUserIdxByID IDRead fails
    rw [quiet shape]
    rcases named with fails | ⟨users, named, -, -, fails⟩
    · have unchanged := joinRest_unknown (.inl rfl) fails
      exact .inl unchanged
    · have unchanged := joinRest_unknown (.inl rfl) fails
      exact .inl unchanged
  · obtain ⟨outcome, rest, shape, named⟩ := completes_getUserIdxByID IDRead goes
    rw [quiet shape]
    rcases named with fails | ⟨users, named, namedFound, -, goes⟩
    · have unchanged := joinRest_unknown (.inr rfl) fails
      exact .inl unchanged
    · rcases joinRest_completes groupRead goes with unchanged | ⟨owned, replied, joined⟩
      · exact .inl unchanged
      · exact .inr ⟨group, groupRead, caller, callerFound, named, namedFound, owned, replied,
        joined⟩

end Request

/-- The memberships a request grants: for a reply `OK`, of the owner in the group that
`create_group` added, and of the user whose ID `join_group` names in the group it names. -/
def RequestStep.granted (mysql : Mysql) (step : RequestStep) : List Member :=
  let req := step.event.op.req
  if replies step.event.answer ≠ [statusReply req "OK"] then []
  else
    match step.event.op.handler with
    | .createGroup =>
      let before := step.before.tables.projectGroup.rows
      (step.after.tables.projectGroup.rows.drop before.length).map fun group =>
        ⟨group.owner, group.idx⟩
    | .joinGroup =>
      match findValue req.parameter (ascii "group_id"), findValue req.parameter (ascii "ID") with
      | .ok (some groupId), .ok (some ID) =>
        (sqlInteger groupId).toList.flatMap fun group =>
          (step.before.tables.usersByID mysql.same ID).map fun user => ⟨user.idx, group⟩
      | _, _ => []
    | _ => []

/-- No two users have an ID that the database takes for the same. -/
def Tables.DistinctIDs (same : Bytes → Bytes → Bool) (tables : Tables) : Prop :=
  ∀ ID, (tables.usersByID same ID).length ≤ 1

theorem distinctIDs_one {tables : Tables} {user : User} (users : tables.user.rows = [user])
    (same : Bytes → Bytes → Bool) : tables.DistinctIDs same := by
  intro ID
  rw [Tables.usersByID, users]
  exact List.length_filter_le _ _

section Granted

variable {mysql : Mysql} {step : RequestStep}

theorem granted_of_refused {reply : Reply} (replied : replies step.event.answer = [reply])
    (refused : reply.body ≠ statusBody "OK") : step.granted mysql = [] := by
  rw [RequestStep.granted]
  dsimp only
  rw [if_pos]
  intro ok
  rw [replied, List.singleton_inj] at ok
  exact refused (congrArg Reply.body ok)

theorem granted_of_other (notCreate : step.event.op.handler ≠ .createGroup)
    (notJoin : step.event.op.handler ≠ .joinGroup) : step.granted mysql = [] := by
  rw [RequestStep.granted]
  dsimp only
  split
  · rfl
  · split
    · rename_i creates
      exact absurd creates notCreate
    · rename_i joins
      exact absurd joins notJoin
    · rfl

theorem createGroup_granted {req : Request} {events : History} {s t : Shared} {client : Nat}
    {user : User} {name : Bytes} (replied : replies events = [statusReply req "OK"])
    (added : GroupAdded mysql name user.idx s.tables t.tables) :
    t.tables.joinGroup =
      s.tables.joinGroup ++
        RequestStep.granted mysql ⟨client, ⟨⟨.createGroup, req⟩, events⟩, s, t⟩ := by
  obtain ⟨idx, stored, -, groups, members, -⟩ := added
  rw [RequestStep.granted]
  dsimp only
  rw [if_neg (not_not_intro replied), groups, List.drop_left, members]
  rfl

theorem joinGroup_named {req : Request} {events : History} {s t : Shared} {client : Nat}
    {groupId ID : Bytes} {group : Int} {user : User}
    (replied : replies events = [statusReply req "OK"])
    (groupFound : findValue req.parameter (ascii "group_id") = .ok (some groupId))
    (IDFound : findValue req.parameter (ascii "ID") = .ok (some ID))
    (groupRead : sqlInteger groupId = some group)
    (named : s.tables.usersByID mysql.same ID = [user]) :
    RequestStep.granted mysql ⟨client, ⟨⟨.joinGroup, req⟩, events⟩, s, t⟩ =
      [⟨user.idx, group⟩] := by
  rw [RequestStep.granted]
  dsimp only
  rw [if_neg (not_not_intro replied), groupFound, IDFound]
  dsimp only
  rw [groupRead, named]
  rfl

/-- A request adds the memberships it grants to `join_group`, and no others. -/
theorem joinGroup_granted
    (served : mysql.Serves step.event.op step.event.answer step.before step.after)
    (readable : step.event.op.Readable)
    (distinct : step.before.tables.DistinctIDs mysql.same) :
    step.after.tables.joinGroup = step.before.tables.joinGroup ++ step.granted mysql := by
  rcases served.accepts with ⟨sent, same⟩ | accepts
  · have replied : replies step.event.answer = [missingReply step.event.op.req] := by
      rw [sent]
      rfl
    rw [granted_of_refused replied missing_not_ok, same, List.append_nil]
  obtain ⟨client, ⟨⟨handler, req⟩, events⟩, s, t⟩ := step
  by_cases creates : handler = .createGroup
  · subst creates
    cases accepts.given with
    | createGroup nameFound tokenFound =>
        rcases createGroup_serves readable nameFound tokenFound served with
          ⟨replied, kept, -⟩ | ⟨user, -, ⟨replied, -, -, kept⟩ | ⟨replied, -, added⟩⟩
        · rw [granted_of_refused replied serverError_not_ok, kept, List.append_nil]
        · rw [granted_of_refused replied serverError_not_ok, kept, List.append_nil]
        · exact createGroup_granted replied added
  by_cases joins : handler = .joinGroup
  · subst joins
    cases accepts.given with
    | joinGroup tokenFound groupFound IDFound =>
        rcases joinGroup_serves readable tokenFound groupFound IDFound served with
          ⟨kept, reply, replied, other⟩ |
          ⟨group, groupRead, caller, -, named, member, -, replied, joined⟩
        · rw [granted_of_refused replied other, kept, List.append_nil]
        · have only := List.length_eq_one_iff.mp
            (Nat.le_antisymm (distinct _) (List.length_pos_of_mem member))
          obtain ⟨user, users⟩ := only
          obtain rfl : named = user := by
            rw [users] at member
            exact List.mem_singleton.mp member
          rw [joinGroup_named replied groupFound IDFound groupRead users]
          exact joined
  rw [granted_of_other creates joins, List.append_nil]
  have elsewhere : TableName.joinGroup ∉ handler.targets := by
    cases handler <;> simp_all [Handler.targets]
  exact (served.same readable elsewhere).symm

end Granted

section Lists

variable {α β γ : Type}

/-- What a filter on the origin leaves of the parts put together. -/
theorem filter_flatMap_origin {f : α → List β} {origin : β → α}
    (from_ : ∀ a, ∀ b ∈ f a, origin b = a) (q : α → Bool) (list : List α) :
    (list.flatMap f).filter (fun b => q (origin b)) = (list.filter q).flatMap f := by
  induction list with
  | nil => rfl
  | cons a list ih =>
      rw [List.flatMap_cons, List.filter_append, ih]
      by_cases chosen : q a = true
      · rw [List.filter_cons_of_pos chosen, List.flatMap_cons]
        congr 1
        apply List.filter_eq_self.mpr
        intro b member
        rw [from_ a b member]
        exact chosen
      · rw [List.filter_cons_of_neg chosen]
        have none : (f a).filter (fun b => q (origin b)) = [] := by
          apply List.filter_eq_nil_iff.mpr
          intro b member
          rw [from_ a b member]
          exact chosen
        rw [none, List.nil_append]

end Lists

/-- A group is listed once for each row of the membership. -/
theorem groupsOf_count (tables : Tables) (userIdx groupIdx : Int) :
    ((tables.groupsOf userIdx).filter fun entry => entry.1.idx = groupIdx).length =
      tables.joinGroup.count ⟨userIdx, groupIdx⟩ := by
  have origin : ∀ group : ProjectGroup, ∀ entry ∈ (tables.joinGroup.filter fun row =>
      row.groupIdx = group.idx ∧ row.userIdx = userIdx).flatMap fun _ =>
        (tables.user.rows.filter fun user => user.idx = group.owner).map fun user => (group, user),
      entry.1 = group := by
    intro group entry member
    obtain ⟨row, -, member⟩ := List.mem_flatMap.mp member
    obtain ⟨user, -, same⟩ := List.mem_map.mp member
    rw [← same]
  have parts := filter_flatMap_origin origin (fun group => decide (group.idx = groupIdx))
    tables.projectGroup.rows
  rw [Tables.groupsOf, parts]
  by_cases known : tables.projectGroup.Has groupIdx
  · obtain ⟨group, member, number⟩ := known
    obtain ⟨owner, stored, refers⟩ := tables.groupOwner group member
    have only := tables.projectGroup.filter_number member
    have single := tables.user.filter_number stored
    rw [number] at only
    rw [refers] at single
    have rows : tables.joinGroup.filter (fun row =>
        row.groupIdx = group.idx ∧ row.userIdx = userIdx) =
          tables.joinGroup.filter (· == ⟨userIdx, groupIdx⟩) := by
      apply List.filter_congr
      intro row _
      rw [number]
      cases row
      simp only [beq_eq_decide, Member.mk.injEq, and_comm]
    rw [only, List.flatMap_singleton, single, rows, List.length_flatMap,
      List.count_eq_length_filter]
    simp
  · have none : tables.projectGroup.rows.filter (fun group => group.idx = groupIdx) = [] := by
      apply List.filter_eq_nil_iff.mpr
      intro group member number
      exact known ⟨group, member, of_decide_eq_true number⟩
    rw [none, List.flatMap_nil, List.length_nil, eq_comm, List.count_eq_zero]
    intro member
    exact known (tables.memberGroup _ member)

theorem Tables.DistinctIDs.earlier {same : Bytes → Bytes → Bool} {before after : Tables}
    (distinct : after.DistinctIDs same) (grown : before.user.rows <+: after.user.rows) :
    before.DistinctIDs same := by
  intro ID
  exact (grown.sublist.filter _).length_le.trans (distinct ID)

section Run

variable {mysql : Mysql} {s t : Shared} {run : List RequestStep}

theorem joinGroup_serial (serial : mysql.Serial s run t)
    (readable : ∀ step ∈ run, step.event.op.Readable) (distinct : t.tables.DistinctIDs mysql.same) :
    t.tables.joinGroup = s.tables.joinGroup ++ run.flatMap (RequestStep.granted mysql) := by
  induction serial with
  | nil s => exact (List.append_nil _).symm
  | @cons step run u served later ih =>
      rw [List.forall_mem_cons] at readable
      have users : step.before.tables.user.rows <+: u.tables.user.rows :=
        (served.extends readable.1).user.trans (Mysql.Serial.extends later readable.2).user
      rw [ih readable.2 distinct, joinGroup_granted served readable.1 (distinct.earlier users),
        List.flatMap_cons, List.append_assoc]

end Run

section Samples

/-- A user invites himself into the group he has created. -/
def twiceJobs : List Job := arrival (ascii "i") ++
  [⟨.createGroup, requestOf [("name", ascii "g"), ("token", tokenOn 1)]⟩,
    ⟨.joinGroup, requestOf [("token", tokenOn 1), ("group_id", ascii "1"), ("ID", ascii "i")]⟩]

theorem twiceJobs_readable : ∀ job ∈ twiceJobs, job.handler.Readable job.req := by decide

theorem twiceJobs_served : ∃ run t, Mysql.strict.Serial .start run t ∧
    run.map (fun step => step.event.op) = twiceJobs ∧
      (∀ step ∈ run, none ∉ outcomes step.event.answer) ∧
        t.tables.user.rows = [⟨1, some (ascii "n"), some (ascii "i"), some (ascii "p")⟩] ∧
          t.tables.joinGroup = [⟨1, 1⟩, ⟨1, 1⟩] := by
  have served : (Mysql.strict.serveAll [] twiceJobs .start).map (fun served =>
      (decide (∀ step ∈ served.1, none ∉ outcomes step.event.answer), served.2.tables.user.rows,
        served.2.tables.joinGroup)) =
          some (true, [⟨1, some (ascii "n"), some (ascii "i"), some (ascii "p")⟩],
            [⟨1, 1⟩, ⟨1, 1⟩]) := by
    decide +kernel
  obtain ⟨⟨run, t⟩, found, same⟩ := Option.map_eq_some_iff.mp served
  simp only [Prod.mk.injEq, decide_eq_true_eq] at same
  exact ⟨run, t, Mysql.serveAll_serial _ _ found, Mysql.serveAll_jobs _ _ found, same⟩

end Samples

end Ttac
