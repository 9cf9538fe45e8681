import Ttac.Mysql

set_option autoImplicit false

/- What the statements change: each one table at most, to which it adds rows behind the
others, or in which it changes numbers. -/
namespace Ttac

inductive TableName where
  | user
  | token
  | projectGroup
  | joinGroup
  | todo
  | progress
  | chat
  | attendance
  deriving DecidableEq, Repr

namespace Tables

variable {tables after : Tables} {gap : Nat}

/-- The table is the same in both. -/
def Same (first second : Tables) : TableName → Prop
  | .user => first.user = second.user
  | .token => first.token = second.token
  | .projectGroup => first.projectGroup = second.projectGroup
  | .joinGroup => first.joinGroup = second.joinGroup
  | .todo => first.todo = second.todo
  | .progress => first.progress = second.progress
  | .chat => first.chat = second.chat
  | .attendance => first.attendance = second.attendance

theorem Same.refl (tables : Tables) (name : TableName) : Same tables tables name := by
  cases name <;> rfl

theorem Same.trans {first second third : Tables} {name : TableName}
    (left : Same first second name) (right : Same second third name) : Same first third name := by
  cases name <;> exact Eq.trans left right

/-- All tables but one are the same. -/
def Elsewhere (changed : TableName) (first second : Tables) : Prop :=
  ∀ name, name ≠ changed → Same first second name

/-- The rows that other tables refer to, and those that answer for what was done, stay where
they are. -/
structure Extends (first second : Tables) : Prop where
  user : first.user.rows <+: second.user.rows
  token : first.token <+: second.token
  projectGroup : first.projectGroup.rows <+: second.projectGroup.rows
  joinGroup : first.joinGroup <+: second.joinGroup
  chat : first.chat.rows <+: second.chat.rows

theorem Extends.refl (tables : Tables) : Extends tables tables :=
  ⟨List.prefix_rfl, List.prefix_rfl, List.prefix_rfl, List.prefix_rfl, List.prefix_rfl⟩

theorem Extends.trans {first second third : Tables} (left : Extends first second)
    (right : Extends second third) : Extends first third :=
  ⟨left.user.trans right.user, left.token.trans right.token,
    left.projectGroup.trans right.projectGroup, left.joinGroup.trans right.joinGroup,
    left.chat.trans right.chat⟩

section Inserts

theorem insertUser_some {name ID password : Option Bytes}
    (inserted : tables.insertUser gap name ID password = some after) :
    after.user.rows = tables.user.rows ++ [⟨tables.user.next + gap, name, ID, password⟩] ∧
      Elsewhere .user tables after := by
  unfold insertUser at inserted
  split at inserted
  · cases inserted
  · rename_i numbered
    cases inserted
    refine ⟨(Relational.Numbered.insert_some numbered).2.1, ?_⟩
    intro other different
    cases other <;> first | rfl | exact absurd rfl different

theorem insertToken_some {token : Bytes} {userIdx : Int}
    (inserted : tables.insertToken token userIdx = some after) :
    tables.user.Has userIdx ∧ after.token = tables.token ++ [⟨token, userIdx⟩] ∧
      Elsewhere .token tables after := by
  unfold insertToken at inserted
  split at inserted
  · rename_i known
    cases inserted
    refine ⟨known, rfl, ?_⟩
    intro other different
    cases other <;> first | rfl | exact absurd rfl different
  · cases inserted

theorem insertGroup_some {name : Option Bytes} {owner : Int}
    (inserted : tables.insertGroup gap name owner = some after) :
    tables.user.Has owner ∧
      after.projectGroup.rows =
        tables.projectGroup.rows ++ [⟨tables.projectGroup.next + gap, name, owner⟩] ∧
      Elsewhere .projectGroup tables after := by
  unfold insertGroup at inserted
  split at inserted
  · rename_i known
    split at inserted
    · cases inserted
    · rename_i numbered
      cases inserted
      refine ⟨known, (Relational.Numbered.insert_some numbered).2.1, ?_⟩
      intro other different
      cases other <;> first | rfl | exact absurd rfl different
  · cases inserted

theorem insertMember_some {userIdx groupIdx : Int}
    (inserted : tables.insertMember userIdx groupIdx = some after) :
    (tables.user.Has userIdx ∧ tables.projectGroup.Has groupIdx) ∧
      after.joinGroup = tables.joinGroup ++ [⟨userIdx, groupIdx⟩] ∧
      Elsewhere .joinGroup tables after := by
  unfold insertMember at inserted
  split at inserted
  · rename_i known
    cases inserted
    refine ⟨known, rfl, ?_⟩
    intro other different
    cases other <;> first | rfl | exact absurd rfl different
  · cases inserted

theorem insertTodo_some {userIdx : Int} {deadline detail : Bytes}
    (inserted : tables.insertTodo userIdx deadline detail = some after) :
    Elsewhere .todo tables after := by
  unfold insertTodo at inserted
  split at inserted
  · cases inserted
    intro other different
    cases other <;> first | rfl | exact absurd rfl different
  · cases inserted

theorem insertProgress_some {userIdx number : Int}
    (inserted : tables.insertProgress gap userIdx number = some after) :
    (-(2 ^ 31) ≤ number ∧ number < 2 ^ 31) ∧
      after.progress.rows =
        tables.progress.rows ++ [⟨tables.progress.next + gap, userIdx, number⟩] ∧
      Elsewhere .progress tables after := by
  unfold insertProgress at inserted
  split at inserted
  · rename_i known
    split at inserted
    · cases inserted
    · rename_i numbered
      cases inserted
      refine ⟨known.2, (Relational.Numbered.insert_some numbered).2.1, ?_⟩
      intro other different
      cases other <;> first | rfl | exact absurd rfl different
  · cases inserted

theorem updateProgress_some {number userIdx : Int}
    (updated : tables.updateProgress number userIdx = some after) :
    (-(2 ^ 31) ≤ number ∧ number < 2 ^ 31) ∧
      after.progress.rows = (tables.progress.rows.map fun row =>
        if row.userIdx = userIdx then { row with number := number } else row) ∧
      Elsewhere .progress tables after := by
  unfold updateProgress at updated
  split at updated
  · rename_i range
    cases updated
    refine ⟨range, rfl, ?_⟩
    intro other different
    cases other <;> first | rfl | exact absurd rfl different
  · cases updated

theorem insertChat_some {userIdx groupIdx : Int} {chatType content : Option Bytes}
    {chatTime : Bytes}
    (inserted : tables.insertChat gap userIdx groupIdx chatType content chatTime = some after) :
    (tables.user.Has userIdx ∧ tables.projectGroup.Has groupIdx) ∧
      after.chat.rows = tables.chat.rows ++
        [⟨tables.chat.next + gap, userIdx, groupIdx, chatType, content, chatTime⟩] ∧
      Elsewhere .chat tables after := by
  unfold insertChat at inserted
  split at inserted
  · rename_i known
    split at inserted
    · cases inserted
    · rename_i numbered
      cases inserted
      refine ⟨known, (Relational.Numbered.insert_some numbered).2.1, ?_⟩
      intro other different
      cases other <;> first | rfl | exact absurd rfl different
  · cases inserted

theorem insertAttendance_some {userIdx groupIdx : Int} {date : Bytes}
    (inserted : tables.insertAttendance userIdx groupIdx date = some after) :
    (tables.user.Has userIdx ∧ tables.projectGroup.Has groupIdx) ∧
      (∀ row ∈ tables.attendance, row.attendanceDate ≠ date) ∧
        after.attendance = tables.attendance ++ [⟨userIdx, groupIdx, date⟩] ∧
          Elsewhere .attendance tables after := by
  unfold insertAttendance at inserted
  split at inserted
  · rename_i known
    cases inserted
    refine ⟨known.1, known.2, rfl, ?_⟩
    intro other different
    cases other <;> first | rfl | exact absurd rfl different
  · cases inserted

end Inserts

end Tables

/-- The table a statement adds a row to, or changes rows of. -/
def Statement.target : Statement → Option TableName
  | .insertUser _ _ _ => some .user
  | .insertToken _ _ => some .token
  | .insertGroup _ _ => some .projectGroup
  | .insertMember _ _ => some .joinGroup
  | .insertTodo _ _ _ => some .todo
  | .insertProgress _ _ | .updateProgress _ _ => some .progress
  | .insertChat _ _ _ _ _ => some .chat
  | .insertAttendance _ _ => some .attendance
  | _ => none

section Exec

variable {mysql : Mysql} {gap : Nat} {today : Bytes} {tables : Tables} {lastId : Int}
  {executed : Executed}

/-- A row that is inserted into `user`, as far as the columns take its texts. -/
theorem exec_insertUser {name ID password : Bytes}
    (run : exec mysql gap today tables lastId (.insertUser name ID password) = some executed) :
    ∃ storedName storedID storedPassword, mysql.store 25 name = some storedName ∧
      mysql.store 20 ID = some storedID ∧ mysql.store 20 password = some storedPassword ∧
        tables.insertUser gap (some storedName) (some storedID) (some storedPassword) =
          some executed.tables := by
  obtain ⟨storedName, nameFits, run⟩ := Option.bind_eq_some_iff.mp run
  obtain ⟨storedID, IDFits, run⟩ := Option.bind_eq_some_iff.mp run
  obtain ⟨storedPassword, passwordFits, run⟩ := Option.bind_eq_some_iff.mp run
  obtain ⟨after, inserted, same⟩ := Option.bind_eq_some_iff.mp run
  cases same
  exact ⟨_, _, _, nameFits, IDFits, passwordFits, inserted⟩

theorem exec_insertToken {token : Bytes} {userIdx : Int}
    (run : exec mysql gap today tables lastId (.insertToken token userIdx) = some executed) :
    ∃ stored, mysql.store 50 token = some stored ∧
      tables.insertToken stored userIdx = some executed.tables := by
  obtain ⟨stored, fits, run⟩ := Option.bind_eq_some_iff.mp run
  obtain ⟨after, inserted, same⟩ := Option.bind_eq_some_iff.mp run
  cases same
  exact ⟨stored, fits, inserted⟩

theorem exec_insertGroup {name : Bytes} {owner : Int}
    (run : exec mysql gap today tables lastId (.insertGroup name owner) = some executed) :
    ∃ stored, mysql.store 25 name = some stored ∧
      tables.insertGroup gap (some stored) owner = some executed.tables ∧
        executed.lastId = tables.projectGroup.next + gap := by
  obtain ⟨stored, fits, run⟩ := Option.bind_eq_some_iff.mp run
  obtain ⟨after, inserted, same⟩ := Option.bind_eq_some_iff.mp run
  cases same
  exact ⟨stored, fits, inserted, rfl⟩

theorem exec_insertMember {userIdx groupIdx : Int}
    (run : exec mysql gap today tables lastId (.insertMember userIdx groupIdx) = some executed) :
    tables.insertMember userIdx groupIdx = some executed.tables := by
  obtain ⟨after, inserted, same⟩ := Option.bind_eq_some_iff.mp run
  cases same
  exact inserted

theorem exec_insertChat {userIdx groupIdx : Int} {chatType content chatTime : Bytes}
    (run : exec mysql gap today tables lastId
      (.insertChat userIdx groupIdx chatType content chatTime) = some executed) :
    ∃ storedType storedContent storedTime, tables.insertChat gap userIdx groupIdx
      (some storedType) (some storedContent) storedTime = some executed.tables := by
  obtain ⟨storedType, -, run⟩ := Option.bind_eq_some_iff.mp run
  obtain ⟨storedContent, -, run⟩ := Option.bind_eq_some_iff.mp run
  obtain ⟨storedTime, -, run⟩ := Option.bind_eq_some_iff.mp run
  obtain ⟨after, inserted, same⟩ := Option.bind_eq_some_iff.mp run
  cases same
  exact ⟨_, _, _, inserted⟩

/-- A statement changes no table but its own. -/
theorem exec_same {statement : Statement} {name : TableName} (other : statement.target ≠ some name)
    (run : exec mysql gap today tables lastId statement = some executed) :
    Tables.Same tables executed.tables name := by
  have different {changed : TableName} (target : statement.target = some changed) :
      name ≠ changed := by
    intro same
    subst same
    exact other target
  cases statement with
  | insertUser =>
      obtain ⟨_, _, _, _, _, _, inserted⟩ := exec_insertUser run
      exact (Tables.insertUser_some inserted).2 name (different rfl)
  | insertToken =>
      obtain ⟨_, _, inserted⟩ := exec_insertToken run
      exact (Tables.insertToken_some inserted).2.2 name (different rfl)
  | insertGroup =>
      obtain ⟨_, _, inserted, _⟩ := exec_insertGroup run
      exact (Tables.insertGroup_some inserted).2.2 name (different rfl)
  | insertMember =>
      exact (Tables.insertMember_some (exec_insertMember run)).2.2 name (different rfl)
  | insertChat =>
      obtain ⟨_, _, _, inserted⟩ := exec_insertChat run
      exact (Tables.insertChat_some inserted).2.2 name (different rfl)
  | insertTodo =>
      obtain ⟨_, -, run⟩ := Option.bind_eq_some_iff.mp run
      obtain ⟨_, -, run⟩ := Option.bind_eq_some_iff.mp run
      obtain ⟨after, inserted, same⟩ := Option.bind_eq_some_iff.mp run
      cases same
      exact Tables.insertTodo_some inserted name (different rfl)
  | insertProgress =>
      obtain ⟨after, inserted, same⟩ := Option.bind_eq_some_iff.mp run
      cases same
      exact (Tables.insertProgress_some inserted).2.2 name (different rfl)
  | updateProgress =>
      obtain ⟨after, updated, same⟩ := Option.bind_eq_some_iff.mp run
      cases same
      exact (Tables.updateProgress_some updated).2.2 name (different rfl)
  | insertAttendance =>
      obtain ⟨after, inserted, same⟩ := Option.bind_eq_some_iff.mp run
      cases same
      exact (Tables.insertAttendance_some inserted).2.2.2 name (different rfl)
  | _ =>
      cases run
      exact Tables.Same.refl tables name

/-- A statement without a table of its own changes nothing. -/
theorem exec_reads {statement : Statement} (reads : statement.target = none)
    (run : exec mysql gap today tables lastId statement = some executed) :
    executed.tables = tables := by
  cases statement with
  | insertUser | insertToken | insertGroup | insertMember | insertTodo | insertProgress
  | updateProgress | insertChat | insertAttendance => cases reads
  | _ =>
      cases run
      rfl

theorem exec_extends {statement : Statement}
    (run : exec mysql gap today tables lastId statement = some executed) :
    Tables.Extends tables executed.tables := by
  -- a table that is not the target is the same, and one that is has its rows in front
  have user (other : statement.target ≠ some .user) : tables.user = executed.tables.user :=
    exec_same other run
  have token (other : statement.target ≠ some .token) : tables.token = executed.tables.token :=
    exec_same other run
  have projectGroup (other : statement.target ≠ some .projectGroup) :
      tables.projectGroup = executed.tables.projectGroup := exec_same other run
  have joinGroup (other : statement.target ≠ some .joinGroup) :
      tables.joinGroup = executed.tables.joinGroup := exec_same other run
  have chat (other : statement.target ≠ some .chat) : tables.chat = executed.tables.chat :=
    exec_same other run
  constructor
  · by_cases target : statement.target = some .user
    · cases statement <;> cases target
      obtain ⟨_, _, _, _, _, _, inserted⟩ := exec_insertUser run
      rw [(Tables.insertUser_some inserted).1]
      exact List.prefix_append _ _
    · rw [user target]
  · by_cases target : statement.target = some .token
    · cases statement <;> cases target
      obtain ⟨_, _, inserted⟩ := exec_insertToken run
      rw [(Tables.insertToken_some inserted).2.1]
      exact List.prefix_append _ _
    · rw [token target]
  · by_cases target : statement.target = some .projectGroup
    · cases statement <;> cases target
      obtain ⟨_, _, inserted, _⟩ := exec_insertGroup run
      rw [(Tables.insertGroup_some inserted).2.1]
      exact List.prefix_append _ _
    · rw [projectGroup target]
  · by_cases target : statement.target = some .joinGroup
    · cases statement <;> cases target
      rw [(Tables.insertMember_some (exec_insertMember run)).2.1]
      exact List.prefix_append _ _
    · rw [joinGroup target]
  · by_cases target : statement.target = some .chat
    · cases statement <;> cases target
      obtain ⟨_, _, _, inserted⟩ := exec_insertChat run
      rw [(Tables.insertChat_some inserted).2.1]
      exact List.prefix_append _ _
    · rw [chat target]

end Exec

end Ttac
