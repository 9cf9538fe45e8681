import Ttac.CString
import Ttac.Lib.SqlTemplate
import Mathlib.Data.List.Nodup

set_option autoImplicit false

/- The query texts of `ttac.c`, and what makes every value in them one literal. -/
namespace Ttac

open Sql (Piece Intact isTemplate isPlain isInteger)

def sql (fixed : String) : Piece := .text (ascii fixed)

def userQuery (token : Bytes) : List Piece :=
  [sql "select idx from user join token on user.idx = token.user_idx where token.token = ",
    .quoted (chr '\'') token]

def userByIDQuery (ID : Bytes) : List Piece :=
  [sql "select idx from user where ID = ", .quoted (chr '\'') ID]

def attendanceQuery (userIdx groupIdx : Int) : List Piece :=
  [sql "insert into attendance (user_idx,group_idx,attendance_date) values (", .number userIdx,
    sql ",", .number groupIdx, sql ",NOW())"]

def signupQuery (name ID password : Bytes) : List Piece :=
  [sql "insert into user (name,ID,password) values (", .quoted (chr '\'') name, sql ",",
    .quoted (chr '\'') ID, sql ",", .quoted (chr '\'') password, sql ")"]

def loginQuery (ID : Bytes) : List Piece :=
  [sql "select password,name,idx from user where ID=", .quoted (chr '\'') ID]

def tokenQuery (token : Bytes) (idx : Int) : List Piece :=
  [sql "insert into token (token,user_idx) values(", .quoted (chr '\'') token, sql ",",
    .number idx, sql ")"]

def createGroupQuery (name : Bytes) (idx : Int) : List Piece :=
  [sql "insert into project_group (name,owner) values (", .quoted (chr '\'') name, sql ",",
    .number idx, sql ")"]

def lastInsertQuery : List Piece := [sql "select LAST_INSERT_ID()"]

def ownJoinQuery (idx groupIdx : Int) : List Piece :=
  [sql "insert into join_group (user_idx,group_idx) values (", .number idx, sql ",",
    .number groupIdx, sql ")"]

def groupListQuery (idx : Int) : List Piece :=
  [sql "select project_group.idx,project_group.name,user.name from project_group join join_group on project_group.idx = join_group.group_idx join user on owner = user.idx where user_idx = ",
    .number idx]

def ownerQuery (idx : Int) (groupId : Bytes) : List Piece :=
  [sql "select idx from project_group where owner = ", .number idx, sql " and idx = ",
    .bare groupId]

def joinGroupQuery (useridx : Int) (groupId : Bytes) : List Piece :=
  [sql "insert into join_group (user_idx,group_idx) values (", .number useridx, sql ",",
    .bare groupId, sql ")"]

def todolistQuery (idx : Int) : List Piece :=
  [sql "select deadline,detail from todo where user_idx = ", .number idx]

def todoQuery (idx : Int) (deadline detail : Bytes) : List Piece :=
  [sql "insert into todo (user_idx,deadline,detail) values (", .number idx, sql ",",
    .quoted (chr '\'') deadline, sql ",", .quoted (chr '\'') detail, sql ")"]

def progressQuery (idx : Int) : List Piece :=
  [sql "select number from progress where user_idx = ", .number idx]

def updateProgressQuery (number : Bytes) (idx : Int) : List Piece :=
  [sql "update progress set number = ", .bare number, sql " where user_idx = ", .number idx]

def insertProgressQuery (idx : Int) (number : Bytes) : List Piece :=
  [sql "insert into progress (user_idx,number) values(", .number idx, sql ",", .bare number,
    sql ")"]

def latestChatQuery (groupId : Bytes) : List Piece :=
  [sql "select MAX(idx) from chat where group_idx = ", .bare groupId]

def chatQuery (idx : Int) (groupId content now : Bytes) : List Piece :=
  [sql "insert into chat (user_idx,group_idx,chat_type,content,chat_time) values (", .number idx,
    sql ",", .bare groupId, sql ",", .quoted (chr '"') (ascii "TEXT"), sql ",",
    .quoted (chr '"') content, sql ",", .quoted (chr '"') now, sql ")"]

def chatlistQuery (groupId : Bytes) : List Piece :=
  [sql "select chat.idx,chat_type,content,chat_time,user.ID from chat join user on chat.user_idx = user.idx where group_idx = ",
    .bare groupId]

def chatlistSinceQuery (groupId latest : Bytes) : List Piece :=
  [sql "select chat.idx,chat_type,content,chat_time,user.ID from chat join user on chat.user_idx = user.idx where group_idx = ",
    .bare groupId, sql " and chat.idx>", .bare latest]

/-- Every query text, with nothing inserted. -/
def queries : List (List Piece) :=
  [userQuery [], userByIDQuery [], attendanceQuery 0 0, signupQuery [] [] [], loginQuery [],
    tokenQuery [] 0, createGroupQuery [] 0, lastInsertQuery, ownJoinQuery 0 0, groupListQuery 0,
    ownerQuery 0 [], joinGroupQuery 0 [], todolistQuery 0, todoQuery 0 [] [], progressQuery 0,
    updateProgressQuery [] 0, insertProgressQuery 0 [], latestChatQuery [], chatQuery 0 [] [] [],
    chatlistQuery [], chatlistSinceQuery [] []]

/-- What has to be seen of the texts themselves. -/
theorem queries_texts :
    (queries.map fun pieces => pieces.map Piece.slot).all (isTemplate .start) = true ∧
      (queries.map fun pieces => pieces.map Piece.slot).Nodup := by
  simp only [queries, userQuery, userByIDQuery, attendanceQuery, signupQuery, loginQuery,
    tokenQuery, createGroupQuery, lastInsertQuery, ownJoinQuery, groupListQuery, ownerQuery,
    joinGroupQuery, todolistQuery, todoQuery, progressQuery, updateProgressQuery,
    insertProgressQuery, latestChatQuery, chatQuery, chatlistQuery, chatlistSinceQuery, sql]
  repeat rw [Ascii.ascii_ofList]
  decide +kernel

theorem queries_templates :
    queries.all (fun pieces => isTemplate .start (pieces.map Piece.slot)) = true := by
  have templates := queries_texts.1
  rw [List.all_map] at templates
  exact templates

theorem isTemplate_query {pieces : List Piece} (member : pieces ∈ queries) :
    isTemplate .start (pieces.map Piece.slot) = true :=
  List.all_eq_true.mp queries_templates pieces member

section Intact

@[simp] theorem userQuery_intact (token : Bytes) :
    Intact (userQuery token) ↔ isPlain (chr '\'') token = true := by
  have template := isTemplate_query (show userQuery [] ∈ queries by simp [queries])
  simpa [userQuery, sql, Piece.Literal] using Sql.intact_iff (userQuery token) template

@[simp] theorem userByIDQuery_intact (ID : Bytes) :
    Intact (userByIDQuery ID) ↔ isPlain (chr '\'') ID = true := by
  have template := isTemplate_query (show userByIDQuery [] ∈ queries by simp [queries])
  simpa [userByIDQuery, sql, Piece.Literal] using Sql.intact_iff (userByIDQuery ID) template

@[simp] theorem attendanceQuery_intact (userIdx groupIdx : Int) :
    Intact (attendanceQuery userIdx groupIdx) := by
  have template := isTemplate_query (show attendanceQuery 0 0 ∈ queries by simp [queries])
  simpa [attendanceQuery, sql, Piece.Literal] using
    Sql.intact_iff (attendanceQuery userIdx groupIdx) template

@[simp] theorem signupQuery_intact (name ID password : Bytes) :
    Intact (signupQuery name ID password) ↔
      isPlain (chr '\'') name = true ∧
        isPlain (chr '\'') ID = true ∧
        isPlain (chr '\'') password = true := by
  have template := isTemplate_query (show signupQuery [] [] [] ∈ queries by simp [queries])
  simpa [signupQuery, sql, Piece.Literal] using
    Sql.intact_iff (signupQuery name ID password) template

@[simp] theorem loginQuery_intact (ID : Bytes) :
    Intact (loginQuery ID) ↔ isPlain (chr '\'') ID = true := by
  have template := isTemplate_query (show loginQuery [] ∈ queries by simp [queries])
  simpa [loginQuery, sql, Piece.Literal] using Sql.intact_iff (loginQuery ID) template

@[simp] theorem tokenQuery_intact (token : Bytes) (idx : Int) :
    Intact (tokenQuery token idx) ↔ isPlain (chr '\'') token = true := by
  have template := isTemplate_query (show tokenQuery [] 0 ∈ queries by simp [queries])
  simpa [tokenQuery, sql, Piece.Literal] using Sql.intact_iff (tokenQuery token idx) template

@[simp] theorem createGroupQuery_intact (name : Bytes) (idx : Int) :
    Intact (createGroupQuery name idx) ↔ isPlain (chr '\'') name = true := by
  have template := isTemplate_query (show createGroupQuery [] 0 ∈ queries by simp [queries])
  simpa [createGroupQuery, sql, Piece.Literal] using
    Sql.intact_iff (createGroupQuery name idx) template

@[simp] theorem lastInsertQuery_intact : Intact lastInsertQuery := by
  have template := isTemplate_query (show lastInsertQuery ∈ queries by simp [queries])
  simpa [lastInsertQuery, sql, Piece.Literal] using Sql.intact_iff lastInsertQuery template

@[simp] theorem ownJoinQuery_intact (idx groupIdx : Int) : Intact (ownJoinQuery idx groupIdx) := by
  have template := isTemplate_query (show ownJoinQuery 0 0 ∈ queries by simp [queries])
  simpa [ownJoinQuery, sql, Piece.Literal] using Sql.intact_iff (ownJoinQuery idx groupIdx) template

@[simp] theorem groupListQuery_intact (idx : Int) : Intact (groupListQuery idx) := by
  have template := isTemplate_query (show groupListQuery 0 ∈ queries by simp [queries])
  simpa [groupListQuery, sql, Piece.Literal] using Sql.intact_iff (groupListQuery idx) template

@[simp] theorem ownerQuery_intact (idx : Int) (groupId : Bytes) :
    Intact (ownerQuery idx groupId) ↔ isInteger groupId = true := by
  have template := isTemplate_query (show ownerQuery 0 [] ∈ queries by simp [queries])
  simpa [ownerQuery, sql, Piece.Literal] using Sql.intact_iff (ownerQuery idx groupId) template

@[simp] theorem joinGroupQuery_intact (useridx : Int) (groupId : Bytes) :
    Intact (joinGroupQuery useridx groupId) ↔ isInteger groupId = true := by
  have template := isTemplate_query (show joinGroupQuery 0 [] ∈ queries by simp [queries])
  simpa [joinGroupQuery, sql, Piece.Literal] using
    Sql.intact_iff (joinGroupQuery useridx groupId) template

@[simp] theorem todolistQuery_intact (idx : Int) : Intact (todolistQuery idx) := by
  have template := isTemplate_query (show todolistQuery 0 ∈ queries by simp [queries])
  simpa [todolistQuery, sql, Piece.Literal] using Sql.intact_iff (todolistQuery idx) template

@[simp] theorem todoQuery_intact (idx : Int) (deadline detail : Bytes) :
    Intact (todoQuery idx deadline detail) ↔
      isPlain (chr '\'') deadline = true ∧
        isPlain (chr '\'') detail = true := by
  have template := isTemplate_query (show todoQuery 0 [] [] ∈ queries by simp [queries])
  simpa [todoQuery, sql, Piece.Literal] using
    Sql.intact_iff (todoQuery idx deadline detail) template

@[simp] theorem progressQuery_intact (idx : Int) : Intact (progressQuery idx) := by
  have template := isTemplate_query (show progressQuery 0 ∈ queries by simp [queries])
  simpa [progressQuery, sql, Piece.Literal] using Sql.intact_iff (progressQuery idx) template

@[simp] theorem updateProgressQuery_intact (number : Bytes) (idx : Int) :
    Intact (updateProgressQuery number idx) ↔ isInteger number = true := by
  have template := isTemplate_query (show updateProgressQuery [] 0 ∈ queries by simp [queries])
  simpa [updateProgressQuery, sql, Piece.Literal] using
    Sql.intact_iff (updateProgressQuery number idx) template

@[simp] theorem insertProgressQuery_intact (idx : Int) (number : Bytes) :
    Intact (insertProgressQuery idx number) ↔ isInteger number = true := by
  have template := isTemplate_query (show insertProgressQuery 0 [] ∈ queries by simp [queries])
  simpa [insertProgressQuery, sql, Piece.Literal] using
    Sql.intact_iff (insertProgressQuery idx number) template

@[simp] theorem latestChatQuery_intact (groupId : Bytes) :
    Intact (latestChatQuery groupId) ↔ isInteger groupId = true := by
  have template := isTemplate_query (show latestChatQuery [] ∈ queries by simp [queries])
  simpa [latestChatQuery, sql, Piece.Literal] using
    Sql.intact_iff (latestChatQuery groupId) template

@[simp] theorem chatQuery_intact (idx : Int) (groupId content now : Bytes) :
    Intact (chatQuery idx groupId content now) ↔
      isInteger groupId = true ∧
        isPlain (chr '"') content = true ∧
        isPlain (chr '"') now = true := by
  have template := isTemplate_query (show chatQuery 0 [] [] [] ∈ queries by simp [queries])
  have type : isPlain (chr '"') (ascii "TEXT") = true := by decide
  simpa [chatQuery, sql, Piece.Literal, type] using
    Sql.intact_iff (chatQuery idx groupId content now) template

@[simp] theorem chatlistQuery_intact (groupId : Bytes) :
    Intact (chatlistQuery groupId) ↔ isInteger groupId = true := by
  have template := isTemplate_query (show chatlistQuery [] ∈ queries by simp [queries])
  simpa [chatlistQuery, sql, Piece.Literal] using Sql.intact_iff (chatlistQuery groupId) template

@[simp] theorem chatlistSinceQuery_intact (groupId latest : Bytes) :
    Intact (chatlistSinceQuery groupId latest) ↔
      isInteger groupId = true ∧
        isInteger latest = true := by
  have template := isTemplate_query (show chatlistSinceQuery [] [] ∈ queries by simp [queries])
  simpa [chatlistSinceQuery, sql, Piece.Literal] using
    Sql.intact_iff (chatlistSinceQuery groupId latest) template

end Intact

end Ttac
