import Ttac.GroupCreation
import Ttac.HandlerRuns

set_option autoImplicit false

/- `create_group` where queries fail: what it leaves in the tables. -/
namespace Ttac

open Interaction (Program Exchange Completes completes_lift_bind completes_ite)
open Sql (Piece)

/-- One group of the caller is added, and the caller as its member, and nothing else. -/
def GroupAdded (mysql : Mysql) (name : Bytes) (caller : Int) (before after : Tables) : Prop :=
  ∃ idx stored, mysql.store 25 name = some stored ∧
    after.projectGroup.rows = before.projectGroup.rows ++ [⟨idx, some stored, caller⟩] ∧
      after.joinGroup = before.joinGroup ++ [⟨caller, idx⟩] ∧
        ∀ other, other ≠ .projectGroup → other ≠ .joinGroup → before.Same after other

/-- The group is inserted, and a query behind it fails. -/
def Stranded (events : History) : Prop :=
  ∃ users created later, outcomes events = users :: some created :: later ∧ none ∈ later

/-- The request gets one reply: with the status `OK` its group is there with its member, and
with any other reply the tables are as before. -/
def AllOrNothing (mysql : Mysql) (name token : Bytes) (events : History) (before after : Tables) :
    Prop :=
  ∃ reply, replies events = [reply] ∧
    (reply.body = statusBody "OK" →
      ∃ user ∈ before.usersByToken mysql.same token, GroupAdded mysql name user.idx before after) ∧
    (reply.body ≠ statusBody "OK" → after = before)

/-- What is left of `create_group` behind the insertion of the group. -/
def groupRest (req : Request) (connection : Nat) (idx : Int) : Prog Unit := do
  match ← mysqlQuery connection 256 lastInsertQuery with
  | none => serverErrer req connection
  | some rows => do
    let groupIdx ← Program.lift (column rows.head? 0)
    match ← mysqlQuery connection 256 (ownJoinQuery idx (atoi groupIdx)) with
    | none => serverErrer req connection
    | some _ => do
      mysqlCommit connection
      connectionPush connection
      let body ← Program.lift (sprintf 256 (statusBody "OK"))
      respond req 200 "OK" body

/-- `create_group` from the lookup of its token on. -/
def groupStart (req : Request) (connection : Nat) (name : Bytes) (idx : Int) : Prog Unit :=
  if idx = -1 then serverErrer req connection
  else do
    match ← mysqlQuery connection 256 (createGroupQuery name idx) with
    | none => serverErrer req connection
    | some _ => groupRest req connection idx

section Request

variable {mysql : Mysql} {req : Request} {name token : Bytes} {events : History} {s t : Shared}
  {connection : Nat} {owner : Int}

theorem createGroup_given (nameFound : findValue req.parameter (ascii "name") = .ok (some name))
    (tokenFound : findValue req.parameter (ascii "token") = .ok (some token)) :
    createGroup req = connectionPop >>= fun connection =>
      getUserIdx connection token >>= groupStart req connection name := by
  simp only [createGroup, findParameter, nameFound, tokenFound, Program.lift_ok_bind]
  rfl

/-- Behind the insertion, the member is inserted and the reply `OK`, or a query fails. -/
theorem groupRest_completes {stored : Option Bytes}
    (stands : (⟨s.lastId connection, stored, owner⟩ : ProjectGroup) ∈ s.tables.projectGroup.rows)
    (completes : Completes mysql.Answers (groupRest req connection owner) s events () t) :
    (replies events = [serverError req] ∧ none ∈ outcomes events ∧ t.tables = s.tables) ∨
      (replies events = [statusReply req "OK"] ∧ none ∉ outcomes events ∧
        t.tables.joinGroup = s.tables.joinGroup ++ [⟨owner, s.lastId connection⟩] ∧
          Tables.Elsewhere .joinGroup s.tables t.tables) := by
  obtain ⟨outcome, asked, later, rfl, selected, joins⟩ := completes_query.mp completes
  have same : asked = s := (Mysql.answers_lastInsertQuery.mp selected).state
  subst same
  cases outcome with
  | none =>
      obtain ⟨rfl, rfl⟩ := completes_serverErrer.mp joins
      exact .inl ⟨rfl, List.mem_cons_self .., rfl⟩
  | some ids =>
      obtain ⟨text, read, joins⟩ := completes_lift_bind.mp joins
      have small := Tables.atoi_number asked.tables.projectGroup stands
      have number : atoi text = asked.lastId connection :=
        lastInsertQuery_reads selected rfl small ⟨text, read, rfl⟩
      rw [number] at joins
      obtain ⟨outcome, joined, later, rfl, answered, ends⟩ := completes_query.mp joins
      cases outcome with
      | none =>
          obtain rfl := answers_none (ownJoinQuery_statement _ _) answered
          obtain ⟨rfl, rfl⟩ := completes_serverErrer.mp ends
          exact .inl ⟨rfl, List.mem_cons_of_mem _ (List.mem_cons_self ..), rfl⟩
      | some members =>
          obtain ⟨later, rfl, pushes⟩ := completes_commit.mp ends
          obtain ⟨later, rfl, sends⟩ := completes_push.mp pushes
          obtain ⟨-, rfl, rfl⟩ := completes_body.mp sends
          exact .inr ⟨rfl, by simp [outcomes],
            answers_insertMember (ownJoinQuery_statement _ _) answered⟩

theorem groupStart_completes (nameRead : sqlString (chr '\'') name = some name)
    (completes : Completes mysql.Answers (groupStart req connection name owner) s events () t) :
    (replies events = [serverError req] ∧ t.tables = s.tables ∧
      ∀ created later, outcomes events ≠ some created :: later) ∨
      ∃ created later, outcomes events = some created :: later ∧
        ((replies events = [serverError req] ∧ none ∈ later ∧
          s.tables.projectGroup.rows.length < t.tables.projectGroup.rows.length ∧
            t.tables.joinGroup = s.tables.joinGroup) ∨
        (replies events = [statusReply req "OK"] ∧ none ∉ later ∧
          GroupAdded mysql name owner s.tables t.tables)) := by
  rcases completes_ite.mp completes with ⟨-, fails⟩ | ⟨-, creates⟩
  · obtain ⟨rfl, rfl⟩ := completes_serverErrer.mp fails
    exact .inl ⟨rfl, rfl, by simp [outcomes]⟩
  obtain ⟨outcome, inserted, later, rfl, answered, rest⟩ := completes_query.mp creates
  have understood : statementOf (createGroupQuery name owner) = some (.insertGroup name owner) := by
    rw [createGroupQuery_statement, nameRead]
    rfl
  cases outcome with
  | none =>
      obtain rfl := answers_none understood answered
      obtain ⟨rfl, rfl⟩ := completes_serverErrer.mp rest
      exact .inl ⟨rfl, rfl, by simp [outcomes]⟩
  | some created =>
      obtain ⟨stored, fits, rows, elsewhere⟩ := createGroupQuery_answered nameRead answered
      have stands : (⟨inserted.lastId connection, some stored, owner⟩ : ProjectGroup) ∈
          inserted.tables.projectGroup.rows := by
        rw [rows]
        exact List.mem_append_right _ (List.mem_singleton_self _)
      refine .inr ⟨created, outcomes later, rfl, ?_⟩
      rcases groupRest_completes stands rest with
        ⟨replied, failed, kept⟩ | ⟨replied, done, members, others⟩
      · refine .inl ⟨replied, failed, ?_, ?_⟩
        · rw [kept, rows, List.length_append, List.length_singleton]
          exact Nat.lt_succ_self _
        · rw [kept]
          exact (elsewhere .joinGroup (by simp)).symm
      · refine .inr ⟨replied, done, inserted.lastId connection, stored, fits, ?_, ?_, ?_⟩
        · rw [← rows]
          exact congrArg Relational.Numbered.rows (others .projectGroup (by simp)).symm
        · rw [members]
          congr 1
          exact (elsewhere .joinGroup (by simp)).symm
        · intro other notGroup notMember
          exact (elsewhere other notGroup).trans (others other notMember)

/-- How `create_group` ends: before its group is inserted, behind it, or with its member. -/
theorem createGroup_serves (readable : Handler.createGroup.Readable req)
    (nameFound : findValue req.parameter (ascii "name") = .ok (some name))
    (tokenFound : findValue req.parameter (ascii "token") = .ok (some token))
    (served : mysql.Serves ⟨.createGroup, req⟩ events s t) :
    (replies events = [serverError req] ∧ t.tables = s.tables ∧ ¬ Stranded events) ∨
      ∃ user ∈ s.tables.usersByToken mysql.same token,
        (replies events = [serverError req] ∧ Stranded events ∧
          s.tables.projectGroup.rows.length < t.tables.projectGroup.rows.length ∧
            t.tables.joinGroup = s.tables.joinGroup) ∨
        (replies events = [statusReply req "OK"] ∧ ¬ Stranded events ∧
          GroupAdded mysql name user.idx s.tables t.tables) := by
  have tokenRead := readable.single (by simp [Handler.insertions]) tokenFound
  have nameRead := readable.single (by simp [Handler.insertions]) nameFound
  have program : (⟨.createGroup, req⟩ : Job).program = createGroup req := rfl
  rw [Mysql.Serves, program, createGroup_given nameFound tokenFound] at served
  obtain ⟨later, rfl, looks⟩ := completes_pop.mp served
  obtain ⟨outcome, later, rfl, ends⟩ := completes_getUserIdx tokenRead looks
  have stranded : Stranded (⟨.connectionPop, s.connections⟩ ::
      ⟨.mysqlQuery s.connections 256 (userQuery token), outcome⟩ :: later) ↔
        ∃ created rest, outcomes later = some created :: rest ∧ none ∈ rest := by
    constructor
    · rintro ⟨users, created, rest, queries, failed⟩
      exact ⟨created, rest, (List.cons.inj queries).2, failed⟩
    · rintro ⟨created, rest, queries, failed⟩
      exact ⟨outcome, created, rest, congrArg (outcome :: ·) queries, failed⟩
  rcases ends with ⟨rfl, fails⟩ | ⟨users, user, member, rfl, -, goes⟩
  · rw [groupStart, if_pos rfl] at fails
    obtain ⟨rfl, rfl⟩ := completes_serverErrer.mp fails
    exact .inl ⟨rfl, rfl, by simp [Stranded, outcomes]⟩
  · rcases groupStart_completes nameRead goes with
      ⟨replied, kept, none⟩ | ⟨created, rest, queries, ends⟩
    · refine .inl ⟨replied, kept, ?_⟩
      rw [stranded]
      rintro ⟨created, rest, queries, -⟩
      exact none created rest queries
    · refine .inr ⟨user, member, ?_⟩
      rcases ends with ⟨replied, failed, grown⟩ | ⟨replied, done, added⟩
      · exact .inl ⟨replied, stranded.mpr ⟨created, rest, queries, failed⟩, grown⟩
      · refine .inr ⟨replied, ?_, added⟩
        rw [stranded]
        rintro ⟨created', rest', again, failed⟩
        rw [queries] at again
        cases again
        exact done failed

theorem serverError_not_ok : ascii "server error" ≠ statusBody "OK" := by decide

end Request

section Samples

/-- The group of the sample request is inserted, and its member is not. -/
def strandedEvents : History :=
  groupEvents ++ [⟨.mysqlQuery 0 256 (ownJoinQuery 1 1), none⟩, ⟨.mysqlError 0, ()⟩,
    ⟨.response (serverError groupRequest), ()⟩]

theorem strandedEvents_served :
    Mysql.strict.Serves ⟨.createGroup, groupRequest⟩ strandedEvents oneUserShared
      groupInserted := by
  constructor
  · have nameFound : findValue groupRequest.parameter (ascii "name") = .ok (some (ascii "g")) := rfl
    have tokenFound : findValue groupRequest.parameter (ascii "token") = .ok (some (ascii "t")) :=
      rfl
    have program : (⟨.createGroup, groupRequest⟩ : Job).program = createGroup groupRequest := rfl
    rw [program]
    simp only [createGroup, findParameter, nameFound, tokenFound, Program.lift_ok_bind,
      getUserIdx_bind]
    exact .cons (.cons (.cons (.cons (.cons (.cons (.cons (.nil _)))))))
  · apply groupEvents_path.append
    refine .cons (t := groupInserted) ?_ (.cons (t := groupInserted) rfl
      (.cons (t := groupInserted) rfl (.nil _)))
    apply answers_fails (ownJoinQuery_statement 1 1)
    rw [ownJoinQuery_length]
    decide

end Samples

end Ttac
