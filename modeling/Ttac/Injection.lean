import Ttac.HandlerParameters

set_option autoImplicit false

/- What the parameters of a request do to the query texts. -/
namespace Ttac

open Interaction (Program)
open Interaction.Program (Always Returns)
open Sql (Piece isPlain isInteger)

/-- The text of a query is read as its own tokens and one literal for each value. -/
@[simp] def Call.Intact : Call → Prop
  | .mysqlQuery _ _ pieces => Sql.Intact pieces
  | _ => True

def Call.NotQuery : Call → Prop
  | .mysqlQuery _ _ _ => False
  | _ => True

/-- A parameter, and how it is written into the query texts of a handler. -/
structure Insertion where
  key : String
  piece : Bytes → Piece

def singleQuoted (key : String) : Insertion := ⟨key, .quoted (chr '\'')⟩

def doubleQuoted (key : String) : Insertion := ⟨key, .quoted (chr '"')⟩

def unquoted (key : String) : Insertion := ⟨key, .bare⟩

namespace Handler

def insertions : Handler → List Insertion
  | .login => [singleQuoted "ID"]
  | .signup => [singleQuoted "ID", singleQuoted "password", singleQuoted "name"]
  | .createGroup => [singleQuoted "name", singleQuoted "token"]
  | .groupList | .getTodolist | .getProgress | .postLocation => [singleQuoted "token"]
  | .joinGroup => [singleQuoted "token", unquoted "group_id", singleQuoted "ID"]
  | .postTodolist => [singleQuoted "token", singleQuoted "deadline", singleQuoted "detail"]
  | .postProgress => [singleQuoted "token", unquoted "number"]
  | .createChat => [singleQuoted "token", unquoted "group_id", doubleQuoted "content"]
  | .getChatlist => [singleQuoted "token", unquoted "group_id", unquoted "latest"]
  | .getLocation => []

/-- Every value that the handler writes into a query text can be the literal the text
makes of it. -/
def Literals (handler : Handler) (req : Request) : Prop :=
  ∀ insertion ∈ handler.insertions, ∀ value,
    findValue req.parameter (ascii insertion.key) = .ok (some value) →
      (insertion.piece value).Literal

end Handler

@[simp] theorem respond_intact (req : Request) (statusCode : Int) (statusMsg : String)
    (body : Bytes) : (respond req statusCode statusMsg body).Always Call.Intact :=
  ⟨trivial, fun _ => trivial⟩

@[simp] theorem missingParameters_intact (req : Request) :
    (missingParameters req).Always Call.Intact := respond_intact _ _ _ _

@[simp] theorem serverErrer_intact (req : Request) (connection : Nat) :
    (serverErrer req connection).Always Call.Intact := ⟨trivial, fun _ => respond_intact _ _ _ _⟩

@[simp] theorem attendanceCheck_intact {α : Type} (conn : Nat) (userIdx groupIdx : Int)
    (next : Unit → Prog α) :
    (attendanceCheck conn userIdx groupIdx >>= next).Always Call.Intact ↔
      (next ()).Always Call.Intact :=
  ⟨fun intact => intact.2 none, fun intact => ⟨attendanceQuery_intact _ _, fun _ => intact⟩⟩

@[simp] theorem respondRows_intact (req : Request) (connection capacity : Nat)
    (query : List Piece) (tmp : Row → Except Fault Bytes) :
    (respondRows req connection capacity query tmp).Always Call.Intact ↔ Sql.Intact query := by
  simp [respondRows, Option.forall]

section Users

variable {α : Type} {conn : Nat} {next : Int → Prog α}

theorem getUserIdx_intact {token : Bytes} (plain : isPlain (chr '\'') token = true) :
    (getUserIdx conn token).Always Call.Intact := by
  refine ⟨(userQuery_intact token).mpr plain, ?_⟩
  rintro (_ | rows)
  · trivial
  · exact Program.always_lift_bind.mpr fun _ _ => trivial

theorem getUserIdxByID_intact {ID : Bytes} (plain : isPlain (chr '\'') ID = true) :
    (getUserIdxByID conn ID).Always Call.Intact := by
  refine ⟨(userByIDQuery_intact ID).mpr plain, ?_⟩
  rintro (_ | _ | _)
  · trivial
  · trivial
  · exact Program.always_lift_bind.mpr fun _ _ => trivial

theorem atoi_one : atoi (ascii "1") = 1 := by decide

/-- The query for a token is sent, and it may find a user. -/
theorem getUserIdx_one {token : Bytes}
    (intact : (getUserIdx conn token >>= next).Always Call.Intact) :
    isPlain (chr '\'') token = true ∧ (next 1).Always Call.Intact := by
  obtain ⟨query, later⟩ := intact
  have found : (next (atoi (ascii "1"))).Always Call.Intact := later (some [[some (ascii "1")]])
  rw [atoi_one] at found
  exact ⟨(userQuery_intact token).mp query, found⟩

theorem getUserIdxByID_one {ID : Bytes}
    (intact : (getUserIdxByID conn ID >>= next).Always Call.Intact) :
    isPlain (chr '\'') ID = true ∧ (next 1).Always Call.Intact := by
  obtain ⟨query, later⟩ := intact
  have found : (next (atoi (ascii "1"))).Always Call.Intact := later (some [[some (ascii "1")]])
  rw [atoi_one] at found
  exact ⟨(userByIDQuery_intact ID).mp query, found⟩

/-- A handler that asks for the user first and is intact from there on. -/
theorem getUserIdx_rest {token : Bytes} {next : Nat → Int → Prog α}
    (plain : isPlain (chr '\'') token = true)
    (later : ∀ connection idx, (next connection idx).Always Call.Intact) :
    (connectionPop >>= fun connection =>
      getUserIdx connection token >>= next connection).Always Call.Intact :=
  always_connectionPop.mpr
    ⟨trivial, fun connection => Always.bind (getUserIdx_intact plain) (later connection)⟩

/-- A handler that writes nothing but the token into a query text. -/
theorem getUserIdx_only {token : Bytes} {next : Nat → Int → Prog α}
    (later : ∀ connection idx, (next connection idx).Always Call.Intact) :
    (connectionPop >>= fun connection =>
        getUserIdx connection token >>= next connection).Always Call.Intact ↔
      isPlain (chr '\'') token = true := by
  constructor
  · intro intact
    exact (getUserIdx_one ((always_connectionPop.mp intact).2 0)).1
  · intro plain
    exact getUserIdx_rest plain later

end Users

theorem tokenChar_ordinary :
    ∀ p < 62, chr '\'' ≠ tokenChar p ∧ chr '\\' ≠ tokenChar p := by decide

theorem createToken_returns (left : Nat) :
    (createToken left).Returns fun token => chr '\'' ∉ token ∧ chr '\\' ∉ token := by
  induction left with
  | zero => exact ⟨List.not_mem_nil, List.not_mem_nil⟩
  | succ left ih =>
      intro (r : Nat)
      have ordinary := tokenChar_ordinary (r % 62) (Nat.mod_lt r (by decide))
      have rest : Returns (fun token => chr '\'' ∉ token ∧ chr '\\' ∉ token)
          (createToken left >>= fun rest => (pure (tokenChar (r % 62) :: rest) : Prog Bytes)) := by
        apply Returns.bind ih
        intro token clean
        constructor
        · exact List.not_mem_cons_of_ne_of_not_mem ordinary.1 clean.1
        · exact List.not_mem_cons_of_ne_of_not_mem ordinary.2 clean.2
      exact rest

/-- What follows a token needs to hold for tokens without quotes and backslashes only. -/
theorem createToken_bind {α : Type} (left : Nat) {next : Bytes → Prog α}
    (later : ∀ token, chr '\'' ∉ token ∧ chr '\\' ∉ token → (next token).Always Call.Intact) :
    (createToken left >>= next).Always Call.Intact :=
  Always.bind_returns (createToken_always trivial left) (createToken_returns left) later

theorem nowText_not_mem (tm : Tm) {c : UInt8} (other : isDigit c = false)
    (separator : c ∉ ascii "- :") : c ∉ nowText tm := by
  have dash : c ≠ chr '-' := by
    rintro rfl
    exact separator (by decide)
  have text (n : Int) : c ∉ decimalInt n := decimalInt_not_mem n other dash
  have separators : ascii "- :" = ascii "-" ++ ascii " " ++ ascii ":" := rfl
  simp only [separators, List.mem_append, not_or] at separator
  simp only [nowText, List.mem_append, text, separator, or_self, not_false_eq_true]

theorem nowText_plain (tm : Tm) : isPlain (chr '"') (nowText tm) = true :=
  Sql.isPlain_of_not_mem (nowText_not_mem tm (by decide) (by decide))
    (nowText_not_mem tm (by decide) (by decide))

section Handlers

variable {req : Request}

theorem signup_intact {ID password name : Bytes}
    (IDFound : findValue req.parameter (ascii "ID") = .ok (some ID))
    (passwordFound : findValue req.parameter (ascii "password") = .ok (some password))
    (nameFound : findValue req.parameter (ascii "name") = .ok (some name)) :
    (signup req).Always Call.Intact ↔
      isPlain (chr '\'') ID = true ∧ isPlain (chr '\'') password = true ∧
        isPlain (chr '\'') name = true := by
  simp only [signup, findParameter, IDFound, passwordFound, nameFound, Program.lift_ok_bind]
  constructor
  · intro intact
    obtain ⟨query, -⟩ := (always_connectionPop.mp intact).2 0
    obtain ⟨namePlain, IDPlain, passwordPlain⟩ := (signupQuery_intact name ID password).mp query
    exact ⟨IDPlain, passwordPlain, namePlain⟩
  · intro plain
    simp [Option.forall, plain]

theorem login_intact {ID password : Bytes}
    (IDFound : findValue req.parameter (ascii "ID") = .ok (some ID))
    (passwordFound : findValue req.parameter (ascii "password") = .ok (some password)) :
    (login req).Always Call.Intact ↔ isPlain (chr '\'') ID = true := by
  simp only [login, findParameter, IDFound, passwordFound, Program.lift_ok_bind]
  constructor
  · intro intact
    exact (loginQuery_intact ID).mp ((always_connectionPop.mp intact).2 0).1
  · intro plain
    simp only [always_connectionPop, always_mysqlQuery, Option.forall, Call.Intact,
      loginQuery_intact, plain, serverErrer_intact, true_and]
    intro connection rows
    apply Program.always_lift_bind.mpr
    intro stored read
    apply Program.always_ite.mpr
    constructor
    · intro same
      apply createToken_bind
      intro token clean
      simp [Option.forall, Sql.isPlain_of_not_mem clean.1 clean.2]
    · intro other
      simp

theorem createGroup_intact {name token : Bytes}
    (nameFound : findValue req.parameter (ascii "name") = .ok (some name))
    (tokenFound : findValue req.parameter (ascii "token") = .ok (some token)) :
    (createGroup req).Always Call.Intact ↔
      isPlain (chr '\'') name = true ∧ isPlain (chr '\'') token = true := by
  simp only [createGroup, findParameter, nameFound, tokenFound, Program.lift_ok_bind]
  constructor
  · intro intact
    obtain ⟨tokenPlain, intact⟩ := getUserIdx_one ((always_connectionPop.mp intact).2 0)
    rw [if_neg (by decide)] at intact
    exact ⟨(createGroupQuery_intact name 1).mp intact.1, tokenPlain⟩
  · intro ⟨namePlain, tokenPlain⟩
    apply getUserIdx_rest tokenPlain
    intro connection idx
    simp [Option.forall, namePlain]

theorem joinGroup_intact {token groupId ID : Bytes}
    (tokenFound : findValue req.parameter (ascii "token") = .ok (some token))
    (groupFound : findValue req.parameter (ascii "group_id") = .ok (some groupId))
    (IDFound : findValue req.parameter (ascii "ID") = .ok (some ID)) :
    (joinGroup req).Always Call.Intact ↔
      isPlain (chr '\'') token = true ∧ isInteger groupId = true ∧
        isPlain (chr '\'') ID = true := by
  simp only [joinGroup, findParameter, tokenFound, groupFound, IDFound, Program.lift_ok_bind]
  constructor
  · intro intact
    obtain ⟨tokenPlain, intact⟩ := getUserIdx_one ((always_connectionPop.mp intact).2 0)
    obtain ⟨IDPlain, intact⟩ := getUserIdxByID_one intact
    rw [if_neg (by decide), if_neg (by decide)] at intact
    exact ⟨tokenPlain, (ownerQuery_intact 1 groupId).mp intact.1, IDPlain⟩
  · intro ⟨tokenPlain, groupInteger, IDPlain⟩
    apply getUserIdx_rest tokenPlain
    intro connection idx
    apply Always.bind (getUserIdxByID_intact IDPlain)
    intro useridx
    simp only [Program.always_ite, serverErrer_intact, implies_true, true_and]
    intro valid
    constructor
    · simp
    · intro useridxValid
      refine always_mysqlQuery.mpr ⟨(ownerQuery_intact idx groupId).mpr groupInteger, ?_⟩
      rintro (_ | _ | _)
      · simp
      · simp
      · simp [Option.forall, groupInteger]

theorem postTodolist_intact {token deadline detail : Bytes}
    (tokenFound : findValue req.parameter (ascii "token") = .ok (some token))
    (deadlineFound : findValue req.parameter (ascii "deadline") = .ok (some deadline))
    (detailFound : findValue req.parameter (ascii "detail") = .ok (some detail)) :
    (postTodolist req).Always Call.Intact ↔
      isPlain (chr '\'') token = true ∧ isPlain (chr '\'') deadline = true ∧
        isPlain (chr '\'') detail = true := by
  simp only [postTodolist, findParameter, tokenFound, deadlineFound, detailFound,
    Program.lift_ok_bind]
  constructor
  · intro intact
    obtain ⟨tokenPlain, intact⟩ := getUserIdx_one ((always_connectionPop.mp intact).2 0)
    rw [if_neg (by decide)] at intact
    exact ⟨tokenPlain, (todoQuery_intact 1 deadline detail).mp intact.1⟩
  · intro ⟨tokenPlain, deadlinePlain, detailPlain⟩
    apply getUserIdx_rest tokenPlain
    intro connection idx
    simp [Option.forall, deadlinePlain, detailPlain]

theorem postProgress_intact {token number : Bytes}
    (tokenFound : findValue req.parameter (ascii "token") = .ok (some token))
    (numberFound : findValue req.parameter (ascii "number") = .ok (some number)) :
    (postProgress req).Always Call.Intact ↔
      isPlain (chr '\'') token = true ∧ isInteger number = true := by
  simp only [postProgress, findParameter, tokenFound, numberFound, Program.lift_ok_bind]
  constructor
  · intro intact
    obtain ⟨tokenPlain, intact⟩ := getUserIdx_one ((always_connectionPop.mp intact).2 0)
    rw [if_neg (by decide)] at intact
    -- without a row for the user the number is inserted
    have inserts := intact.2 (some [])
    exact ⟨tokenPlain, (insertProgressQuery_intact 1 number).mp inserts.1⟩
  · intro ⟨tokenPlain, numberInteger⟩
    apply getUserIdx_rest tokenPlain
    intro connection idx
    simp only [Program.always_ite, serverErrer_intact, implies_true, true_and]
    intro valid
    refine always_mysqlQuery.mpr ⟨progressQuery_intact idx, ?_⟩
    rintro (_ | _ | _)
    · simp
    · simp [numberInteger]
    · simp [numberInteger]

theorem createChat_intact {token groupId content : Bytes}
    (tokenFound : findValue req.parameter (ascii "token") = .ok (some token))
    (groupFound : findValue req.parameter (ascii "group_id") = .ok (some groupId))
    (contentFound : findValue req.parameter (ascii "content") = .ok (some content)) :
    (createChat req).Always Call.Intact ↔
      isPlain (chr '\'') token = true ∧ isInteger groupId = true ∧
        isPlain (chr '"') content = true := by
  simp only [createChat, findParameter, tokenFound, groupFound, contentFound, Program.lift_ok_bind]
  constructor
  · intro intact
    obtain ⟨tokenPlain, intact⟩ := getUserIdx_one ((always_connectionPop.mp intact).2 0)
    rw [if_neg (by decide), attendanceCheck_intact] at intact
    -- the first message of a group
    have first := intact.2 (some [[none]])
    have inserts := (always_getNow.mp first).2 ⟨0, 0, 0, 0, 0, 0⟩ _ rfl
    obtain ⟨groupInteger, contentPlain, -⟩ := (chatQuery_intact _ _ _ _).mp inserts.1
    exact ⟨tokenPlain, groupInteger, contentPlain⟩
  · intro ⟨tokenPlain, groupInteger, contentPlain⟩
    apply getUserIdx_rest tokenPlain
    intro connection idx
    simp only [Program.always_ite, serverErrer_intact, implies_true, true_and,
      attendanceCheck_intact]
    intro valid
    refine always_mysqlQuery.mpr ⟨(latestChatQuery_intact groupId).mpr groupInteger, ?_⟩
    rintro (_ | rows)
    · simp
    apply Program.always_lift_bind.mpr
    intro latest read
    apply always_getNow.mpr
    refine ⟨trivial, ?_⟩
    intro tm now written
    obtain ⟨-, rfl⟩ := sprintf_ok written
    simp [Option.forall, groupInteger, contentPlain, nowText_plain]

theorem getChatlist_intact {token groupId : Bytes} {latest : Option Bytes}
    (tokenFound : findValue req.parameter (ascii "token") = .ok (some token))
    (groupFound : findValue req.parameter (ascii "group_id") = .ok (some groupId))
    (latestFound : findValue req.parameter (ascii "latest") = .ok latest) :
    (getChatlist req).Always Call.Intact ↔
      isPlain (chr '\'') token = true ∧ isInteger groupId = true ∧
        ∀ value, latest = some value → isInteger value = true := by
  simp only [getChatlist, findParameter, tokenFound, groupFound, latestFound, Program.lift_ok_bind]
  constructor
  · intro intact
    obtain ⟨tokenPlain, intact⟩ := getUserIdx_one ((always_connectionPop.mp intact).2 0)
    rw [if_neg (by decide), attendanceCheck_intact, respondRows_intact] at intact
    cases latest with
    | none => simpa [tokenPlain] using intact
    | some latest => simpa [tokenPlain] using intact
  · intro ⟨tokenPlain, groupInteger, latestInteger⟩
    apply getUserIdx_rest tokenPlain
    intro connection idx
    simp only [Program.always_ite, serverErrer_intact, implies_true, true_and,
      attendanceCheck_intact, respondRows_intact]
    intro valid
    cases latest with
    | none => exact (chatlistQuery_intact groupId).mpr groupInteger
    | some latest =>
        exact (chatlistSinceQuery_intact groupId latest).mpr
          ⟨groupInteger, latestInteger latest rfl⟩

theorem groupList_intact {token : Bytes}
    (tokenFound : findValue req.parameter (ascii "token") = .ok (some token)) :
    (groupList req).Always Call.Intact ↔ isPlain (chr '\'') token = true := by
  simp only [groupList, findParameter, tokenFound, Program.lift_ok_bind]
  apply getUserIdx_only
  intro connection idx
  simp

theorem getTodolist_intact {token : Bytes}
    (tokenFound : findValue req.parameter (ascii "token") = .ok (some token)) :
    (getTodolist req).Always Call.Intact ↔ isPlain (chr '\'') token = true := by
  simp only [getTodolist, findParameter, tokenFound, Program.lift_ok_bind]
  apply getUserIdx_only
  intro connection idx
  simp

theorem getProgress_intact {token : Bytes}
    (tokenFound : findValue req.parameter (ascii "token") = .ok (some token)) :
    (getProgress req).Always Call.Intact ↔ isPlain (chr '\'') token = true := by
  simp only [getProgress, findParameter, tokenFound, Program.lift_ok_bind]
  apply getUserIdx_only
  intro connection idx
  simp only [Program.always_ite, serverErrer_intact, implies_true, true_and]
  intro valid
  refine always_mysqlQuery.mpr ⟨progressQuery_intact idx, ?_⟩
  rintro (_ | _ | _) <;> simp

theorem postLocation_intact {token latitude longitude : Bytes}
    (tokenFound : findValue req.parameter (ascii "token") = .ok (some token))
    (latitudeFound : findValue req.parameter (ascii "latitude") = .ok (some latitude))
    (longitudeFound : findValue req.parameter (ascii "longitude") = .ok (some longitude)) :
    (postLocation req).Always Call.Intact ↔ isPlain (chr '\'') token = true := by
  simp only [postLocation, findParameter, tokenFound, latitudeFound, longitudeFound,
    Program.lift_ok_bind]
  apply getUserIdx_only
  intro connection idx
  simp

theorem getLocation_intact {token user : Bytes}
    (tokenFound : findValue req.parameter (ascii "token") = .ok (some token))
    (userFound : findValue req.parameter (ascii "user_ID") = .ok (some user)) :
    (getLocation req).Always Call.Intact := by
  simp [getLocation, findParameter, tokenFound, userFound]

/-- The query texts of a handler are intact exactly when what it writes into them can be
literals. -/
theorem handler_intact (handler : Handler) (req : Request) :
    (handler.program req).Always Call.Intact ↔ (handler.Accepts req → handler.Literals req) := by
  by_cases accepts : handler.Accepts req
  · rw [forall_prop_of_true accepts]
    obtain ⟨values, optional⟩ := accepts
    cases handler with
    | login =>
        obtain ⟨ID, IDFound⟩ := values "ID" (by simp [Handler.required])
        obtain ⟨password, passwordFound⟩ := values "password" (by simp [Handler.required])
        apply (login_intact IDFound passwordFound).trans
        simp [Handler.Literals, Handler.insertions, singleQuoted, Piece.Literal, IDFound]
    | signup =>
        obtain ⟨ID, IDFound⟩ := values "ID" (by simp [Handler.required])
        obtain ⟨password, passwordFound⟩ := values "password" (by simp [Handler.required])
        obtain ⟨name, nameFound⟩ := values "name" (by simp [Handler.required])
        apply (signup_intact IDFound passwordFound nameFound).trans
        simp [Handler.Literals, Handler.insertions, singleQuoted, Piece.Literal,
          IDFound, passwordFound, nameFound]
    | createGroup =>
        obtain ⟨name, nameFound⟩ := values "name" (by simp [Handler.required])
        obtain ⟨token, tokenFound⟩ := values "token" (by simp [Handler.required])
        apply (createGroup_intact nameFound tokenFound).trans
        simp [Handler.Literals, Handler.insertions, singleQuoted, Piece.Literal,
          nameFound, tokenFound]
    | groupList =>
        obtain ⟨token, tokenFound⟩ := values "token" (by simp [Handler.required])
        apply (groupList_intact tokenFound).trans
        simp [Handler.Literals, Handler.insertions, singleQuoted, Piece.Literal, tokenFound]
    | joinGroup =>
        obtain ⟨token, tokenFound⟩ := values "token" (by simp [Handler.required])
        obtain ⟨group, groupFound⟩ := values "group_id" (by simp [Handler.required])
        obtain ⟨ID, IDFound⟩ := values "ID" (by simp [Handler.required])
        apply (joinGroup_intact tokenFound groupFound IDFound).trans
        simp [Handler.Literals, Handler.insertions, singleQuoted, unquoted, Piece.Literal,
          tokenFound, groupFound, IDFound]
    | getTodolist =>
        obtain ⟨token, tokenFound⟩ := values "token" (by simp [Handler.required])
        apply (getTodolist_intact tokenFound).trans
        simp [Handler.Literals, Handler.insertions, singleQuoted, Piece.Literal, tokenFound]
    | postTodolist =>
        obtain ⟨token, tokenFound⟩ := values "token" (by simp [Handler.required])
        obtain ⟨deadline, deadlineFound⟩ := values "deadline" (by simp [Handler.required])
        obtain ⟨detail, detailFound⟩ := values "detail" (by simp [Handler.required])
        apply (postTodolist_intact tokenFound deadlineFound detailFound).trans
        simp [Handler.Literals, Handler.insertions, singleQuoted, Piece.Literal,
          tokenFound, deadlineFound, detailFound]
    | getProgress =>
        obtain ⟨token, tokenFound⟩ := values "token" (by simp [Handler.required])
        apply (getProgress_intact tokenFound).trans
        simp [Handler.Literals, Handler.insertions, singleQuoted, Piece.Literal, tokenFound]
    | postProgress =>
        obtain ⟨token, tokenFound⟩ := values "token" (by simp [Handler.required])
        obtain ⟨number, numberFound⟩ := values "number" (by simp [Handler.required])
        apply (postProgress_intact tokenFound numberFound).trans
        simp [Handler.Literals, Handler.insertions, singleQuoted, unquoted, Piece.Literal,
          tokenFound, numberFound]
    | createChat =>
        obtain ⟨token, tokenFound⟩ := values "token" (by simp [Handler.required])
        obtain ⟨group, groupFound⟩ := values "group_id" (by simp [Handler.required])
        obtain ⟨content, contentFound⟩ := values "content" (by simp [Handler.required])
        apply (createChat_intact tokenFound groupFound contentFound).trans
        simp [Handler.Literals, Handler.insertions, singleQuoted, doubleQuoted, unquoted,
          Piece.Literal, tokenFound, groupFound, contentFound]
    | getChatlist =>
        obtain ⟨token, tokenFound⟩ := values "token" (by simp [Handler.required])
        obtain ⟨group, groupFound⟩ := values "group_id" (by simp [Handler.required])
        obtain ⟨latest, latestFound⟩ := optional "latest" (by simp [Handler.optionals])
        apply (getChatlist_intact tokenFound groupFound latestFound).trans
        simp [Handler.Literals, Handler.insertions, singleQuoted, unquoted, Piece.Literal,
          tokenFound, groupFound, latestFound]
    | getLocation =>
        obtain ⟨token, tokenFound⟩ := values "token" (by simp [Handler.required])
        obtain ⟨user, userFound⟩ := values "user_ID" (by simp [Handler.required])
        refine iff_of_true (getLocation_intact tokenFound userFound) ?_
        intro insertion member
        cases member
    | postLocation =>
        obtain ⟨token, tokenFound⟩ := values "token" (by simp [Handler.required])
        obtain ⟨latitude, latitudeFound⟩ := values "latitude" (by simp [Handler.required])
        obtain ⟨longitude, longitudeFound⟩ := values "longitude" (by simp [Handler.required])
        apply (postLocation_intact tokenFound latitudeFound longitudeFound).trans
        simp [Handler.Literals, Handler.insertions, singleQuoted, Piece.Literal, tokenFound]
  · rw [forall_prop_of_false accepts]
    refine iff_of_true ?_ trivial
    rcases handler.rejects req accepts with ⟨missing, -⟩ | ⟨⟨fault, failed⟩, -⟩
    · rw [missing]
      exact missingParameters_intact req
    · rw [failed]
      trivial

end Handlers

/-- What builds query texts from values a client sends. -/
inductive Routine where
  | getUserIdx (conn : Nat) (token : Bytes)
  | getUserIdxByID (conn : Nat) (ID : Bytes)
  | answer (handler : Handler) (req : Request)

namespace Routine

/-- Whatever the database answers, every call of the routine satisfies `P`. -/
def Calls (P : Call → Prop) : Routine → Prop
  | .getUserIdx conn token => (Ttac.getUserIdx conn token).Always P
  | .getUserIdxByID conn ID => (Ttac.getUserIdxByID conn ID).Always P
  | .answer handler req => (handler.program req).Always P

/-- Every value that goes into a query text can be the literal the text makes of it. -/
def Literals : Routine → Prop
  | .getUserIdx _ token => isPlain (chr '\'') token = true
  | .getUserIdxByID _ ID => isPlain (chr '\'') ID = true
  | .answer handler req => handler.Accepts req → handler.Literals req

/-- Every query text is read as it is meant to be, and a value that cannot be a literal
keeps any query from being sent. -/
def NoInjection (routine : Routine) : Prop :=
  routine.Calls Call.Intact ∧ (¬ routine.Literals → routine.Calls Call.NotQuery)

theorem calls_intact (routine : Routine) : routine.Calls Call.Intact ↔ routine.Literals := by
  cases routine with
  | getUserIdx conn token =>
      exact ⟨fun intact => (userQuery_intact token).mp intact.1, getUserIdx_intact⟩
  | getUserIdxByID conn ID =>
      exact ⟨fun intact => (userByIDQuery_intact ID).mp intact.1, getUserIdxByID_intact⟩
  | answer handler req => exact handler_intact handler req

/-- Nothing is escaped and nothing is rejected: only values that are literals as they
are come through as literals. -/
theorem noInjection_iff (routine : Routine) : routine.NoInjection ↔ routine.Literals := by
  constructor
  · intro ⟨intact, _⟩
    exact (calls_intact routine).mp intact
  · intro literals
    exact ⟨(calls_intact routine).mpr literals, fun other => absurd literals other⟩

/-- A token that matches every row. -/
theorem injection_getUserIdx : ¬ (Routine.getUserIdx 0 (ascii "' or '1'='1")).NoInjection := by
  intro ⟨intact, _⟩
  have plain : isPlain (chr '\'') (ascii "' or '1'='1") = true := (calls_intact _).mp intact
  have quoted : ascii "' or '1'='1" = chr '\'' :: ascii " or '1'='1" := rfl
  rw [quoted, Sql.isPlain_quote] at plain
  cases plain

end Routine

end Ttac
