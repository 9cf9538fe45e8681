import Ttac.CString
import Ttac.Queries

set_option autoImplicit false

/- What the database understands of the query texts. -/
namespace Ttac

open Sql (Piece isPlain isInteger)

inductive Statement where
  | userByToken (token : Bytes)
  | userByID (ID : Bytes)
  | insertAttendance (userIdx groupIdx : Int)
  | insertUser (name ID password : Bytes)
  | userByLogin (ID : Bytes)
  | insertToken (token : Bytes) (userIdx : Int)
  | insertGroup (name : Bytes) (owner : Int)
  | lastInsertId
  | insertMember (userIdx groupIdx : Int)
  | groupsOf (userIdx : Int)
  | ownedGroup (owner groupIdx : Int)
  | todosOf (userIdx : Int)
  | insertTodo (userIdx : Int) (deadline detail : Bytes)
  | progressOf (userIdx : Int)
  | updateProgress (number userIdx : Int)
  | insertProgress (userIdx number : Int)
  | latestChat (groupIdx : Int)
  | insertChat (userIdx groupIdx : Int) (chatType content chatTime : Bytes)
  | chats (groupIdx : Int)
  | chatsSince (groupIdx latest : Int)
  deriving DecidableEq, Repr

/-- A value as the database reads it. -/
inductive Value where
  | string (text : Bytes)
  | integer (value : Int)
  deriving DecidableEq, Repr

/-- A whole number with or without a minus. -/
def sqlInteger (text : Bytes) : Option Int :=
  match text with
  | [] => none
  | c :: rest =>
    if c = chr '-' then if isInteger rest then some (-(digitsValue rest : Int)) else none
    else if isInteger (c :: rest) then some (digitsValue (c :: rest)) else none

/-- Between quotes a plain value stands for itself. -/
def sqlString (quote : UInt8) (text : Bytes) : Option Bytes :=
  if isPlain quote text then some text else none

/-- A value without quotes and backslashes. -/
def Clean (text : Bytes) : Prop := ∀ c ∈ text, c ≠ chr '\'' ∧ c ≠ chr '"' ∧ c ≠ chr '\\'

theorem Clean.sqlString {text : Bytes} (clean : Clean text) {quote : UInt8}
    (either : quote = chr '\'' ∨ quote = chr '"') : sqlString quote text = some text := by
  have noEscape : chr '\\' ∉ text := fun member => (clean _ member).2.2 rfl
  have noQuote : quote ∉ text := by
    intro member
    cases either with
    | inl single => exact (clean _ member).1 single
    | inr double => exact (clean _ member).2.1 double
  rw [Ttac.sqlString, if_pos (Sql.isPlain_of_not_mem noQuote noEscape)]

theorem Clean.single {text : Bytes} (clean : Clean text) :
    Ttac.sqlString (chr '\'') text = some text := clean.sqlString (.inl rfl)

def values : List Piece → Option (List Value)
  | [] => some []
  | .text _ :: pieces => values pieces
  | .quoted quote text :: pieces =>
    (sqlString quote text).bind fun text => (values pieces).map (.string text :: ·)
  | .bare text :: pieces =>
    (sqlInteger text).bind fun value => (values pieces).map (.integer value :: ·)
  | .number value :: pieces => (values pieces).map (.integer value :: ·)

section Shapes

def noValue (statement : Statement) : List Value → Option Statement
  | [] => some statement
  | _ => none

def oneString (statement : Bytes → Statement) : List Value → Option Statement
  | [.string a] => some (statement a)
  | _ => none

def oneInteger (statement : Int → Statement) : List Value → Option Statement
  | [.integer n] => some (statement n)
  | _ => none

def twoIntegers (statement : Int → Int → Statement) : List Value → Option Statement
  | [.integer n, .integer m] => some (statement n m)
  | _ => none

def stringInteger (statement : Bytes → Int → Statement) : List Value → Option Statement
  | [.string a, .integer n] => some (statement a n)
  | _ => none

def integerStrings (statement : Int → Bytes → Bytes → Statement) : List Value → Option Statement
  | [.integer n, .string a, .string b] => some (statement n a b)
  | _ => none

def threeStrings (statement : Bytes → Bytes → Bytes → Statement) : List Value → Option Statement
  | [.string a, .string b, .string c] => some (statement a b c)
  | _ => none

def integersStrings (statement : Int → Int → Bytes → Bytes → Bytes → Statement) :
    List Value → Option Statement
  | [.integer n, .integer m, .string a, .string b, .string c] => some (statement n m a b c)
  | _ => none

end Shapes

/-- The texts of `ttac.c`, each with the statement its values make. -/
def grammar : List (List Piece × (List Value → Option Statement)) :=
  [(userQuery [], oneString .userByToken), (userByIDQuery [], oneString .userByID),
    (attendanceQuery 0 0, twoIntegers .insertAttendance),
    (signupQuery [] [] [], threeStrings .insertUser), (loginQuery [], oneString .userByLogin),
    (tokenQuery [] 0, stringInteger .insertToken),
    (createGroupQuery [] 0, stringInteger .insertGroup), (lastInsertQuery, noValue .lastInsertId),
    (ownJoinQuery 0 0, twoIntegers .insertMember), (groupListQuery 0, oneInteger .groupsOf),
    (ownerQuery 0 [], twoIntegers .ownedGroup), (joinGroupQuery 0 [], twoIntegers .insertMember),
    (todolistQuery 0, oneInteger .todosOf), (todoQuery 0 [] [], integerStrings .insertTodo),
    (progressQuery 0, oneInteger .progressOf),
    (updateProgressQuery [] 0, twoIntegers .updateProgress),
    (insertProgressQuery 0 [], twoIntegers .insertProgress),
    (latestChatQuery [], oneInteger .latestChat),
    (chatQuery 0 [] [] [], integersStrings .insertChat), (chatlistQuery [], oneInteger .chats),
    (chatlistSinceQuery [] [], twoIntegers .chatsSince)]

theorem grammar_templates : (grammar.map fun rule => rule.1.map Piece.slot).Nodup := by
  have texts : grammar.map (fun rule => rule.1.map Piece.slot) =
      queries.map fun pieces => pieces.map Piece.slot := rfl
  rw [texts]
  exact queries_texts.2

/-- The statement that a text with these values is. -/
def statementOf (pieces : List Piece) : Option Statement := do
  let rule ← grammar.find? fun rule => rule.1.map Piece.slot = pieces.map Piece.slot
  let values ← values pieces
  rule.2 values

theorem find?_of_nodup {α β : Type} [DecidableEq β] {f : α → β} {l : List α} {a : α}
    (member : a ∈ l) (different : (l.map f).Nodup) : l.find? (fun b => f b = f a) = some a := by
  induction l with
  | nil => cases member
  | cons b l ih =>
      rw [List.map_cons, List.nodup_cons] at different
      rw [List.find?_cons]
      by_cases same : f b = f a
      · rw [decide_eq_true same]
        cases member with
        | head => rfl
        | tail _ member => exact absurd (List.mem_map.mpr ⟨a, member, same.symm⟩) different.1
      · rw [decide_eq_false same]
        cases member with
        | head => exact absurd rfl same
        | tail _ member => exact ih member different.2

theorem statementOf_mem (template pieces : List Piece) (rule : List Value → Option Statement)
    (member : (template, rule) ∈ grammar)
    (same : template.map Piece.slot = pieces.map Piece.slot) :
    statementOf pieces = (values pieces).bind rule := by
  have found := find?_of_nodup member grammar_templates
  rw [statementOf, ← same]
  simp only [found]
  rfl

section Queries

variable (token ID name password deadline detail content now groupId latest number : Bytes)
  (idx groupIdx : Int)

@[simp] theorem userQuery_statement : statementOf (userQuery token) =
    (sqlString (chr '\'') token).map .userByToken := by
  rw [statementOf_mem (userQuery []) (userQuery token) (oneString .userByToken)
    (by simp [grammar]) rfl]
  cases tokenValue : sqlString (chr '\'') token <;>
    simp [userQuery, sql, values, oneString, tokenValue]

@[simp] theorem userByIDQuery_statement : statementOf (userByIDQuery ID) =
    (sqlString (chr '\'') ID).map .userByID := by
  rw [statementOf_mem (userByIDQuery []) (userByIDQuery ID) (oneString .userByID)
    (by simp [grammar]) rfl]
  cases IDValue : sqlString (chr '\'') ID <;>
    simp [userByIDQuery, sql, values, oneString, IDValue]

@[simp] theorem attendanceQuery_statement : statementOf (attendanceQuery idx groupIdx) =
    some (.insertAttendance idx groupIdx) := by
  rw [statementOf_mem (attendanceQuery 0 0) (attendanceQuery idx groupIdx)
    (twoIntegers .insertAttendance) (by simp [grammar]) rfl]
  simp [attendanceQuery, sql, values, twoIntegers]

@[simp] theorem signupQuery_statement : statementOf (signupQuery name ID password) =
    (sqlString (chr '\'') name).bind fun name => (sqlString (chr '\'') ID).bind fun ID =>
      (sqlString (chr '\'') password).map fun password => .insertUser name ID password := by
  rw [statementOf_mem (signupQuery [] [] []) (signupQuery name ID password)
    (threeStrings .insertUser) (by simp [grammar]) rfl]
  cases nameValue : sqlString (chr '\'') name <;>
  cases IDValue : sqlString (chr '\'') ID <;>
  cases passwordValue : sqlString (chr '\'') password <;>
    simp [signupQuery, sql, values, threeStrings, nameValue, IDValue, passwordValue]

@[simp] theorem loginQuery_statement : statementOf (loginQuery ID) =
    (sqlString (chr '\'') ID).map .userByLogin := by
  rw [statementOf_mem (loginQuery []) (loginQuery ID) (oneString .userByLogin)
    (by simp [grammar]) rfl]
  cases IDValue : sqlString (chr '\'') ID <;>
    simp [loginQuery, sql, values, oneString, IDValue]

@[simp] theorem tokenQuery_statement : statementOf (tokenQuery token idx) =
    (sqlString (chr '\'') token).map fun token => .insertToken token idx := by
  rw [statementOf_mem (tokenQuery [] 0) (tokenQuery token idx) (stringInteger .insertToken)
    (by simp [grammar]) rfl]
  cases tokenValue : sqlString (chr '\'') token <;>
    simp [tokenQuery, sql, values, stringInteger, tokenValue]

@[simp] theorem createGroupQuery_statement : statementOf (createGroupQuery name idx) =
    (sqlString (chr '\'') name).map fun name => .insertGroup name idx := by
  rw [statementOf_mem (createGroupQuery [] 0) (createGroupQuery name idx)
    (stringInteger .insertGroup) (by simp [grammar]) rfl]
  cases nameValue : sqlString (chr '\'') name <;>
    simp [createGroupQuery, sql, values, stringInteger, nameValue]

@[simp] theorem lastInsertQuery_statement : statementOf lastInsertQuery =
    some .lastInsertId := by
  rw [statementOf_mem lastInsertQuery lastInsertQuery (noValue .lastInsertId)
    (by simp [grammar]) rfl]
  simp [lastInsertQuery, sql, values, noValue]

@[simp] theorem ownJoinQuery_statement : statementOf (ownJoinQuery idx groupIdx) =
    some (.insertMember idx groupIdx) := by
  rw [statementOf_mem (ownJoinQuery 0 0) (ownJoinQuery idx groupIdx) (twoIntegers .insertMember)
    (by simp [grammar]) rfl]
  simp [ownJoinQuery, sql, values, twoIntegers]

@[simp] theorem groupListQuery_statement : statementOf (groupListQuery idx) =
    some (.groupsOf idx) := by
  rw [statementOf_mem (groupListQuery 0) (groupListQuery idx) (oneInteger .groupsOf)
    (by simp [grammar]) rfl]
  simp [groupListQuery, sql, values, oneInteger]

@[simp] theorem ownerQuery_statement : statementOf (ownerQuery idx groupId) =
    (sqlInteger groupId).map fun groupId => .ownedGroup idx groupId := by
  rw [statementOf_mem (ownerQuery 0 []) (ownerQuery idx groupId) (twoIntegers .ownedGroup)
    (by simp [grammar]) rfl]
  cases groupIdValue : sqlInteger groupId <;>
    simp [ownerQuery, sql, values, twoIntegers, groupIdValue]

@[simp] theorem joinGroupQuery_statement : statementOf (joinGroupQuery idx groupId) =
    (sqlInteger groupId).map fun groupId => .insertMember idx groupId := by
  rw [statementOf_mem (joinGroupQuery 0 []) (joinGroupQuery idx groupId) (twoIntegers .insertMember)
    (by simp [grammar]) rfl]
  cases groupIdValue : sqlInteger groupId <;>
    simp [joinGroupQuery, sql, values, twoIntegers, groupIdValue]

@[simp] theorem todolistQuery_statement : statementOf (todolistQuery idx) =
    some (.todosOf idx) := by
  rw [statementOf_mem (todolistQuery 0) (todolistQuery idx) (oneInteger .todosOf)
    (by simp [grammar]) rfl]
  simp [todolistQuery, sql, values, oneInteger]

@[simp] theorem todoQuery_statement : statementOf (todoQuery idx deadline detail) =
    (sqlString (chr '\'') deadline).bind fun deadline =>
      (sqlString (chr '\'') detail).map fun detail => .insertTodo idx deadline detail := by
  rw [statementOf_mem (todoQuery 0 [] []) (todoQuery idx deadline detail)
    (integerStrings .insertTodo) (by simp [grammar]) rfl]
  cases deadlineValue : sqlString (chr '\'') deadline <;>
  cases detailValue : sqlString (chr '\'') detail <;>
    simp [todoQuery, sql, values, integerStrings, deadlineValue, detailValue]

@[simp] theorem progressQuery_statement : statementOf (progressQuery idx) =
    some (.progressOf idx) := by
  rw [statementOf_mem (progressQuery 0) (progressQuery idx) (oneInteger .progressOf)
    (by simp [grammar]) rfl]
  simp [progressQuery, sql, values, oneInteger]

@[simp] theorem updateProgressQuery_statement : statementOf (updateProgressQuery number idx) =
    (sqlInteger number).map fun number => .updateProgress number idx := by
  rw [statementOf_mem (updateProgressQuery [] 0) (updateProgressQuery number idx)
    (twoIntegers .updateProgress) (by simp [grammar]) rfl]
  cases numberValue : sqlInteger number <;>
    simp [updateProgressQuery, sql, values, twoIntegers, numberValue]

@[simp] theorem insertProgressQuery_statement : statementOf (insertProgressQuery idx number) =
    (sqlInteger number).map fun number => .insertProgress idx number := by
  rw [statementOf_mem (insertProgressQuery 0 []) (insertProgressQuery idx number)
    (twoIntegers .insertProgress) (by simp [grammar]) rfl]
  cases numberValue : sqlInteger number <;>
    simp [insertProgressQuery, sql, values, twoIntegers, numberValue]

@[simp] theorem latestChatQuery_statement : statementOf (latestChatQuery groupId) =
    (sqlInteger groupId).map .latestChat := by
  rw [statementOf_mem (latestChatQuery []) (latestChatQuery groupId) (oneInteger .latestChat)
    (by simp [grammar]) rfl]
  cases groupIdValue : sqlInteger groupId <;>
    simp [latestChatQuery, sql, values, oneInteger, groupIdValue]

@[simp] theorem chatQuery_statement : statementOf (chatQuery idx groupId content now) =
    (sqlInteger groupId).bind fun groupId => (sqlString (chr '"') content).bind fun content =>
      (sqlString (chr '"') now).map fun now =>
        .insertChat idx groupId (ascii "TEXT") content now := by
  rw [statementOf_mem (chatQuery 0 [] [] []) (chatQuery idx groupId content now)
    (integersStrings .insertChat) (by simp [grammar]) rfl]
  have text : sqlString (chr '"') (ascii "TEXT") = some (ascii "TEXT") := by decide
  cases groupIdValue : sqlInteger groupId <;>
  cases contentValue : sqlString (chr '"') content <;>
  cases nowValue : sqlString (chr '"') now <;>
    simp [chatQuery, sql, values, integersStrings, groupIdValue, contentValue, nowValue, text]

@[simp] theorem chatlistQuery_statement : statementOf (chatlistQuery groupId) =
    (sqlInteger groupId).map .chats := by
  rw [statementOf_mem (chatlistQuery []) (chatlistQuery groupId) (oneInteger .chats)
    (by simp [grammar]) rfl]
  cases groupIdValue : sqlInteger groupId <;>
    simp [chatlistQuery, sql, values, oneInteger, groupIdValue]

@[simp] theorem chatlistSinceQuery_statement : statementOf (chatlistSinceQuery groupId latest) =
    (sqlInteger groupId).bind fun groupId =>
      (sqlInteger latest).map fun latest => .chatsSince groupId latest := by
  rw [statementOf_mem (chatlistSinceQuery [] []) (chatlistSinceQuery groupId latest)
    (twoIntegers .chatsSince) (by simp [grammar]) rfl]
  cases groupIdValue : sqlInteger groupId <;>
  cases latestValue : sqlInteger latest <;>
    simp [chatlistSinceQuery, sql, values, twoIntegers, groupIdValue, latestValue]

end Queries

end Ttac
