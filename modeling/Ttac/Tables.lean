import Ttac.Statement
import Ttac.Handlers
import Ttac.Lib.Table

set_option autoImplicit false

/- The tables of `SQL/*.sql`, and what a statement makes of them. -/
namespace Ttac

open Relational (Numbered References)

structure User where
  idx : Int
  name : Option Bytes
  ID : Option Bytes
  password : Option Bytes
  deriving DecidableEq, Repr

structure Token where
  token : Bytes
  userIdx : Int
  deriving DecidableEq, Repr

structure ProjectGroup where
  idx : Int
  name : Option Bytes
  owner : Int
  deriving DecidableEq, Repr

/-- A row of `join_group`. -/
structure Member where
  userIdx : Int
  groupIdx : Int
  deriving DecidableEq, Repr

/-- A row of `todo`, whose `achieve` no query names. -/
structure Todo where
  userIdx : Int
  deadline : Bytes
  detail : Bytes
  deriving DecidableEq, Repr

structure Progress where
  idx : Int
  userIdx : Int
  number : Int
  deriving DecidableEq, Repr

structure Chat where
  idx : Int
  userIdx : Int
  groupIdx : Int
  chatType : Option Bytes
  content : Option Bytes
  chatTime : Bytes
  deriving DecidableEq, Repr

structure Attendance where
  userIdx : Int
  groupIdx : Int
  attendanceDate : Bytes
  deriving DecidableEq, Repr

/-- Numbers of rows are an `int`. -/
abbrev IntTable {α : Type} (number : α → Int) := Numbered number (2 ^ 31)

/-- The tables with their foreign keys. -/
structure Tables where
  user : IntTable User.idx
  token : List Token
  projectGroup : IntTable ProjectGroup.idx
  joinGroup : List Member
  todo : List Todo
  progress : IntTable Progress.idx
  chat : IntTable Chat.idx
  attendance : List Attendance
  tokenUser : References token Token.userIdx user
  groupOwner : References projectGroup.rows ProjectGroup.owner user
  memberUser : References joinGroup Member.userIdx user
  memberGroup : References joinGroup Member.groupIdx projectGroup
  todoUser : References todo Todo.userIdx user
  progressUser : References progress.rows Progress.userIdx user
  chatUser : References chat.rows Chat.userIdx user
  chatGroup : References chat.rows Chat.groupIdx projectGroup
  attendanceUser : References attendance Attendance.userIdx user
  attendanceGroup : References attendance Attendance.groupIdx projectGroup
  attendanceDate : (attendance.map Attendance.attendanceDate).Nodup

namespace Tables

def empty : Tables where
  user := .empty (by decide)
  token := []
  projectGroup := .empty (by decide)
  joinGroup := []
  todo := []
  progress := .empty (by decide)
  chat := .empty (by decide)
  attendance := []
  tokenUser := .nil
  groupOwner := .nil
  memberUser := .nil
  memberGroup := .nil
  todoUser := .nil
  progressUser := .nil
  chatUser := .nil
  chatGroup := .nil
  attendanceUser := .nil
  attendanceGroup := .nil
  attendanceDate := .nil

variable (tables : Tables)

section Inserts

def insertUser (gap : Nat) (name ID password : Option Bytes) : Option Tables :=
  match inserted : tables.user.insert gap (⟨·, name, ID, password⟩) fun _ => rfl with
  | none => none
  | some user => some { tables with
      user := user
      tokenUser := tables.tokenUser.insert inserted
      groupOwner := tables.groupOwner.insert inserted
      memberUser := tables.memberUser.insert inserted
      todoUser := tables.todoUser.insert inserted
      progressUser := tables.progressUser.insert inserted
      chatUser := tables.chatUser.insert inserted
      attendanceUser := tables.attendanceUser.insert inserted }

def insertToken (token : Bytes) (userIdx : Int) : Option Tables :=
  if known : tables.user.Has userIdx then
    some { tables with
      token := tables.token ++ [⟨token, userIdx⟩]
      tokenUser := tables.tokenUser.append known }
  else none

def insertGroup (gap : Nat) (name : Option Bytes) (owner : Int) : Option Tables :=
  if known : tables.user.Has owner then
    match inserted : tables.projectGroup.insert gap (⟨·, name, owner⟩) fun _ => rfl with
    | none => none
    | some projectGroup => some { tables with
        projectGroup := projectGroup
        groupOwner := (Relational.Numbered.insert_some inserted).2.1 ▸
          tables.groupOwner.append known
        memberGroup := tables.memberGroup.insert inserted
        chatGroup := tables.chatGroup.insert inserted
        attendanceGroup := tables.attendanceGroup.insert inserted }
  else none

def insertMember (userIdx groupIdx : Int) : Option Tables :=
  if known : tables.user.Has userIdx ∧ tables.projectGroup.Has groupIdx then
    some { tables with
      joinGroup := tables.joinGroup ++ [⟨userIdx, groupIdx⟩]
      memberUser := tables.memberUser.append known.1
      memberGroup := tables.memberGroup.append known.2 }
  else none

def insertTodo (userIdx : Int) (deadline detail : Bytes) : Option Tables :=
  if known : tables.user.Has userIdx then
    some { tables with
      todo := tables.todo ++ [⟨userIdx, deadline, detail⟩]
      todoUser := tables.todoUser.append known }
  else none

/-- The number has to be an `int`. -/
def insertProgress (gap : Nat) (userIdx number : Int) : Option Tables :=
  if known : tables.user.Has userIdx ∧ -(2 ^ 31) ≤ number ∧ number < 2 ^ 31 then
    match inserted : tables.progress.insert gap (⟨·, userIdx, number⟩) fun _ => rfl with
    | none => none
    | some progress => some { tables with
        progress := progress
        progressUser := (Relational.Numbered.insert_some inserted).2.1 ▸
          tables.progressUser.append known.1 }
  else none

def insertChat (gap : Nat) (userIdx groupIdx : Int) (chatType content : Option Bytes)
    (chatTime : Bytes) : Option Tables :=
  if known : tables.user.Has userIdx ∧ tables.projectGroup.Has groupIdx then
    match inserted : tables.chat.insert gap (⟨·, userIdx, groupIdx, chatType, content, chatTime⟩)
        fun _ => rfl with
    | none => none
    | some chat => some { tables with
        chat := chat
        chatUser := (Relational.Numbered.insert_some inserted).2.1 ▸
          tables.chatUser.append known.1
        chatGroup := (Relational.Numbered.insert_some inserted).2.1 ▸
          tables.chatGroup.append known.2 }
  else none

/-- The date of an attendance is unique in the whole table. -/
def insertAttendance (userIdx groupIdx : Int) (date : Bytes) : Option Tables :=
  if known : (tables.user.Has userIdx ∧ tables.projectGroup.Has groupIdx) ∧
      ∀ row ∈ tables.attendance, row.attendanceDate ≠ date then
    some { tables with
      attendance := tables.attendance ++ [⟨userIdx, groupIdx, date⟩]
      attendanceUser := tables.attendanceUser.append known.1.1
      attendanceGroup := tables.attendanceGroup.append known.1.2
      attendanceDate := by
        rw [List.map_append, List.map_singleton, ← List.concat_eq_append, List.nodup_concat]
        refine ⟨?_, tables.attendanceDate⟩
        intro member
        obtain ⟨row, stored, same⟩ := List.mem_map.mp member
        exact known.2 row stored same }
  else none

end Inserts

def updateProgress (number userIdx : Int) : Option Tables :=
  if -(2 ^ 31) ≤ number ∧ number < 2 ^ 31 then
    some { tables with
      progress := tables.progress.update
        (fun row => if row.userIdx = userIdx then { row with number := number } else row)
        (by intro row; split <;> rfl)
      progressUser := tables.progressUser.map (by intro row; split <;> rfl) }
  else none

section Selects

/-- The users a token belongs to, for each row of the token. -/
def usersByToken (same : Bytes → Bytes → Bool) (token : Bytes) : List User :=
  (tables.token.filter fun row => same row.token token).flatMap fun row =>
    tables.user.rows.filter fun user => user.idx = row.userIdx

/-- No `NULL` is equal to a text. -/
def usersByID (same : Bytes → Bytes → Bool) (ID : Bytes) : List User :=
  tables.user.rows.filter fun user => user.ID.any fun stored => same stored ID

def groupsOf (userIdx : Int) : List (ProjectGroup × User) :=
  tables.projectGroup.rows.flatMap fun group =>
    (tables.joinGroup.filter fun row =>
      row.groupIdx = group.idx ∧ row.userIdx = userIdx).flatMap fun _ =>
        (tables.user.rows.filter fun user => user.idx = group.owner).map fun user => (group, user)

def ownedGroup (owner groupIdx : Int) : List ProjectGroup :=
  tables.projectGroup.rows.filter fun group => group.owner = owner ∧ group.idx = groupIdx

def todosOf (userIdx : Int) : List Todo := tables.todo.filter fun row => row.userIdx = userIdx

def progressOf (userIdx : Int) : List Progress :=
  tables.progress.rows.filter fun row => row.userIdx = userIdx

def chatsOf (groupIdx : Int) : List Chat :=
  tables.chat.rows.filter fun row => row.groupIdx = groupIdx

/-- The messages of a group with their writers. -/
def chatsWithUsers (chats : List Chat) : List (Chat × User) :=
  chats.flatMap fun chat =>
    (tables.user.rows.filter fun user => user.idx = chat.userIdx).map fun user => (chat, user)

end Selects

def KnowsToken (same : Bytes → Bytes → Bool) (token : Bytes) : Prop :=
  ∃ row ∈ tables.token, same row.token token = true

section Lookups

variable {tables} {same : Bytes → Bytes → Bool}

/-- A user who is found by a token is in the table, with a row of the token. -/
theorem mem_usersByToken {token : Bytes} {user : User} :
    user ∈ tables.usersByToken same token ↔
      user ∈ tables.user.rows ∧
        ∃ row ∈ tables.token, same row.token token = true ∧ row.userIdx = user.idx := by
  simp only [usersByToken, List.mem_flatMap, List.mem_filter, decide_eq_true_eq]
  constructor
  · intro ⟨row, ⟨stored, equal⟩, member, refers⟩
    exact ⟨member, row, stored, equal, refers.symm⟩
  · intro ⟨member, row, stored, equal, refers⟩
    exact ⟨row, ⟨stored, equal⟩, member, refers.symm⟩

/-- Every row of a token has its user. -/
theorem usersByToken_eq_nil_iff {token : Bytes} :
    tables.usersByToken same token = [] ↔ ¬ tables.KnowsToken same token := by
  constructor
  · intro none ⟨row, stored, equal⟩
    obtain ⟨user, member, refers⟩ := tables.tokenUser row stored
    have found : user ∈ tables.usersByToken same token :=
      mem_usersByToken.mpr ⟨member, row, stored, equal, refers.symm⟩
    rw [none] at found
    cases found
  · intro unknown
    apply List.eq_nil_iff_forall_not_mem.mpr
    intro user found
    obtain ⟨_, row, stored, equal, _⟩ := mem_usersByToken.mp found
    exact unknown ⟨row, stored, equal⟩

end Lookups

/-- The numbers of a table are read back by `atoi`. -/
theorem atoi_number {α : Type} {number : α → Int} (table : IntTable number) {row : α}
    (member : row ∈ table.rows) : atoi (decimalInt (number row)) = number row := by
  have range := table.within row member
  have bounded := table.bounded
  have text : decimalInt (number row) = decimal (number row).toNat := by
    have positive : ¬ number row < 0 := by omega
    have same : (number row).natAbs = (number row).toNat := by omega
    rw [decimalInt, if_neg positive, same]
  rw [text, atoi_decimal _ (by omega)]
  omega

end Tables

end Ttac
