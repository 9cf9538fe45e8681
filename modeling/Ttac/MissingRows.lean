import Ttac.ListRows
import Ttac.Mysql
import Ttac.Lib.Threads

set_option autoImplicit false

/- Which rows the handlers read without knowing that they are there. -/
namespace Ttac

open Interaction (Program Exchange Status Path)
open Interaction.Program (Meets)
open Sql (Piece isPlain)

/-- The last query behind `last`. -/
def lastQuery (last : Option (List Piece)) : History → Option (List Piece)
  | [] => last
  | ⟨.mysqlQuery _ _ pieces, _⟩ :: events => lastQuery (some pieces) events
  | _ :: events => lastQuery last events

/-- A program stops at a null pointer behind a query: it has read a column of a row that is
not there, or the column is `NULL` and not only printed. -/
def ReadsAmiss {α : Type} (last : Option (List Piece)) (events : History)
    (status : Status Call Fault α) : Prop :=
  status = .failed .nullPointer ∧
    ∃ pieces, lastQuery last events = some pieces ∧ ¬ PrintsRows pieces

/-- Nothing is read amiss in any run from the state. -/
def ReadsWell {α : Type} (mysql : Mysql) (s : Shared) (last : Option (List Piece)) :
    HistorySpec α := fun events status =>
  ∀ t, Path mysql.Answers s events t → ¬ ReadsAmiss last events status

section Rules

variable {α : Type} {mysql : Mysql} {s : Shared} {last : Option (List Piece)}

theorem readsWell_calling (op : Call) :
    ReadsWell mysql s last [] (.calling op : Status Call Fault α) := by
  intro t path amiss
  cases amiss.1

theorem readsWell_returned (value : α) :
    ReadsWell mysql s last [] (.returned value : Status Call Fault α) := by
  intro t path amiss
  cases amiss.1

/-- Only a null pointer counts, and only behind a query. -/
theorem readsWell_failed {fault : Fault}
    (other : ∀ pieces, last = some pieces → fault = .nullPointer → PrintsRows pieces) :
    ReadsWell mysql s last [] (.failed fault : Status Call Fault α) := by
  intro t path ⟨null, pieces, query, notPrinted⟩
  cases null
  exact notPrinted (other pieces query rfl)

/-- A call in front of what is left. -/
theorem readsWell_call {op : Call} {next : Answer op → Prog α} {now : Option (List Piece)}
    (query : ∀ answer events, lastQuery last (⟨op, answer⟩ :: events) = lastQuery now events) :
    (Program.call op next).Meets (ReadsWell mysql s last) ↔
      ∀ answer t, mysql.Answers op answer s t → (next answer).Meets (ReadsWell mysql t now) := by
  rw [Program.meets_call, and_iff_right (readsWell_calling op)]
  simp only [Program.meets_iff]
  constructor
  · intro well answer t answered events rest runs u path amiss
    apply well answer events rest runs u (.cons answered path)
    rw [ReadsAmiss, query]
    exact amiss
  · intro well answer events rest runs u path amiss
    obtain ⟨t, answered, later⟩ := Interaction.path_cons_iff.mp path
    rw [ReadsAmiss, query] at amiss
    exact well answer t answered events rest runs u later amiss

theorem readsWell_query {connection capacity : Nat} {pieces : List Piece}
    {next : Option (List Row) → Prog α} :
    (mysqlQuery connection capacity pieces >>= next).Meets (ReadsWell mysql s last) ↔
      ∀ outcome t, mysql.Answers (.mysqlQuery connection capacity pieces) outcome s t →
        (next outcome).Meets (ReadsWell mysql t (some pieces)) :=
  readsWell_call fun _ _ => rfl

theorem readsWell_pop {next : Nat → Prog α} :
    (connectionPop >>= next).Meets (ReadsWell mysql s last) ↔
      ∀ connection t, mysql.Answers .connectionPop connection s t →
        (next connection).Meets (ReadsWell mysql t last) :=
  readsWell_call fun _ _ => rfl

theorem readsWell_localtime {next : Tm → Prog α} :
    (localtime >>= next).Meets (ReadsWell mysql s last) ↔
      ∀ tm t, mysql.Answers .localtime tm s t → (next tm).Meets (ReadsWell mysql t last) :=
  readsWell_call fun _ _ => rfl

/-- A connection is popped without a change of the tables. -/
theorem readsWell_pop_iff {next : Nat → Prog α} {P : Tables → Prop}
    (rest : ∀ connection t, (next connection).Meets (ReadsWell mysql t last) ↔ P t.tables) :
    (connectionPop >>= next).Meets (ReadsWell mysql s last) ↔ P s.tables := by
  rw [readsWell_pop]
  constructor
  · intro all
    have popped := (rest _ _).mp (all s.connections _ ⟨rfl, rfl⟩)
    exact popped
  · intro holds connection t answered
    have state := answered.2
    subst state
    exact (rest _ _).mpr holds

section Tails

variable {req : Request} {connection : Nat}

theorem ReadsWell.push {next : Unit → Prog α}
    (well : ∀ t, (next ()).Meets (ReadsWell mysql t last)) :
    (connectionPush connection >>= next).Meets (ReadsWell mysql s last) :=
  (readsWell_call fun _ _ => rfl).mpr fun _ t _ => well t

theorem ReadsWell.commit {next : Unit → Prog α}
    (well : ∀ t, (next ()).Meets (ReadsWell mysql t last)) :
    (mysqlCommit connection >>= next).Meets (ReadsWell mysql s last) :=
  (readsWell_call fun _ _ => rfl).mpr fun _ t _ => well t

theorem ReadsWell.error {next : Unit → Prog α}
    (well : ∀ t, (next ()).Meets (ReadsWell mysql t last)) :
    (mysqlError connection >>= next).Meets (ReadsWell mysql s last) :=
  (readsWell_call fun _ _ => rfl).mpr fun _ t _ => well t

theorem ReadsWell.respond {statusCode : Int} {statusMsg : String} {body : Bytes} :
    (respond req statusCode statusMsg body).Meets (ReadsWell mysql s last) :=
  (readsWell_call fun _ _ => rfl).mpr fun _ _ _ => readsWell_returned ()

theorem ReadsWell.serverErrer : (serverErrer req connection).Meets (ReadsWell mysql s last) :=
  ReadsWell.error fun _ => ReadsWell.respond

theorem ReadsWell.known {idx : Int} {next : Prog Unit}
    (well : idx ≠ -1 → next.Meets (ReadsWell mysql s last)) :
    (if idx = -1 then Ttac.serverErrer req connection else next).Meets (ReadsWell mysql s last) :=
  Program.meets_ite.mpr ⟨fun _ => ReadsWell.serverErrer, well⟩

theorem sprintf_null {capacity : Nat} {text : Bytes} :
    sprintf capacity text ≠ .error .nullPointer := by
  unfold sprintf
  split <;> simp

theorem ReadsWell.sprintf {capacity : Nat} {text : Bytes} {next : Bytes → Prog α}
    (well : ∀ written, (next written).Meets (ReadsWell mysql s last)) :
    (Program.lift (sprintf capacity text) >>= next).Meets (ReadsWell mysql s last) := by
  apply Program.meets_lift_bind.mpr
  refine ⟨fun written _ => well written, ?_⟩
  intro fault failed
  apply readsWell_failed
  intro pieces query null
  exact absurd (null ▸ failed) sprintf_null

theorem ReadsWell.getNow {next : Bytes → Prog α}
    (well : ∀ now, (next now).Meets (ReadsWell mysql s last)) :
    (Ttac.getNow >>= next).Meets (ReadsWell mysql s last) := by
  rw [Ttac.getNow, Program.bind_bind]
  apply readsWell_localtime.mpr
  intro tm t answered
  cases answered
  generalize nowText tm = text
  exact ReadsWell.sprintf well

theorem ReadsWell.body {capacity : Nat} {text : Bytes} {statusCode : Int} {statusMsg : String} :
    (Program.lift (Ttac.sprintf capacity text) >>= fun body =>
      Ttac.respond req statusCode statusMsg body).Meets (ReadsWell mysql s last) :=
  ReadsWell.sprintf fun _ => ReadsWell.respond

theorem ReadsWell.bodyPush {capacity : Nat} {text : Bytes} {statusCode : Int}
    {statusMsg : String} :
    (Program.lift (Ttac.sprintf capacity text) >>= fun body =>
      connectionPush connection >>= fun _ =>
      Ttac.respond req statusCode statusMsg body).Meets (ReadsWell mysql s last) :=
  ReadsWell.sprintf fun _ => ReadsWell.push fun _ => ReadsWell.respond

/-- The columns of a list are only printed. -/
theorem ReadsWell.rows {capacity : Nat} {query : List Piece} {tmp : Row → Except Fault Bytes}
    (prints : PrintsRows query) :
    (respondRows req connection capacity query tmp).Meets (ReadsWell mysql s last) := by
  apply readsWell_query.mpr
  intro outcome t answered
  cases outcome with
  | none => exact ReadsWell.serverErrer
  | some rows =>
      apply Program.meets_lift_bind.mpr
      refine ⟨fun body _ => ReadsWell.push fun _ => ReadsWell.respond, ?_⟩
      intro fault failed
      apply readsWell_failed
      intro pieces query null
      cases query
      exact prints

end Tails

/-- A column that is not there, of a query whose columns are worked with. -/
theorem readsAmiss_null {pieces : List Piece} (worked : ¬ PrintsRows pieces) :
    ¬ ReadsWell mysql s (some pieces) [] (.failed .nullPointer : Status Call Fault α) := by
  intro well
  exact well s (.nil s) ⟨rfl, pieces, rfl, worked⟩

/-- `getUserIdx` reads well exactly when the token has a row. -/
theorem readsWell_getUserIdx {conn : Nat} {token : Bytes}
    (plain : sqlString (chr '\'') token = some token) {next : Int → Prog α} :
    (getUserIdx conn token >>= next).Meets (ReadsWell mysql s last) ↔
      ((Sql.render (userQuery token)).length < 256 →
        s.tables.KnowsToken mysql.same token ∧
          (next (-1)).Meets (ReadsWell mysql s (some (userQuery token))) ∧
            ∀ user ∈ s.tables.usersByToken mysql.same token,
              (next user.idx).Meets (ReadsWell mysql s (some (userQuery token)))) := by
  have works : ¬ PrintsRows (userQuery token) :=
    not_printsRows (show userQuery [] ∈ unprinted by simp [unprinted]) rfl
  have idx {user : User} (member : user ∈ s.tables.usersByToken mysql.same token) :
      atoi (decimalInt user.idx) = user.idx :=
    Tables.atoi_number s.tables.user (Tables.mem_usersByToken.mp member).1
  rw [getUserIdx_bind, readsWell_query]
  constructor
  · intro well fits
    have answered (outcome : Option (List Row)) (answer : outcome = none ∨ ∃ answer,
        outcome = some answer ∧
          answer.Perm ((s.tables.usersByToken mysql.same token).map userRow)) :
        (lookupRest next outcome).Meets (ReadsWell mysql s (some (userQuery token))) :=
      well outcome s ((Mysql.answers_userQuery plain).mpr ⟨fits, rfl, answer⟩)
    refine ⟨?_, answered none (.inl rfl), ?_⟩
    · by_contra unknown
      have none := Tables.usersByToken_eq_nil_iff.mpr unknown
      have empty := answered (some []) (.inr ⟨[], rfl, by rw [none]; exact .refl []⟩)
      exact readsAmiss_null works empty
    · intro user member
      have first :=
        answered _ (.inr ⟨_, rfl, (List.perm_cons_erase (List.mem_map_of_mem member)).symm⟩)
      rw [← idx member]
      exact first
  · intro holds outcome t answered
    obtain ⟨fits, same, answer⟩ := (Mysql.answers_userQuery plain).mp answered
    subst same
    obtain ⟨known, failed, found⟩ := holds fits
    cases answer with
    | inl none =>
        subst none
        exact failed
    | inr answer =>
        obtain ⟨rows, some, order⟩ := answer
        subst some
        cases rows with
        | nil =>
            have none := List.map_eq_nil_iff.mp order.symm.eq_nil
            exact absurd known (Tables.usersByToken_eq_nil_iff.mp none)
        | cons row rows =>
            obtain ⟨user, member, same⟩ :=
              List.mem_map.mp (order.mem_iff.mp (List.mem_cons_self ..))
            subst same
            have next := found user member
            rw [← idx member] at next
            exact next

/-- What needs the token only to have a row. -/
theorem ReadsWell.getUserIdx {conn : Nat} {token : Bytes}
    (plain : sqlString (chr '\'') token = some token) {next : Int → Prog α}
    (well : ∀ idx, (next idx).Meets (ReadsWell mysql s (some (userQuery token)))) :
    (Ttac.getUserIdx conn token >>= next).Meets (ReadsWell mysql s last) ↔
      ((Sql.render (userQuery token)).length < 256 →
        s.tables.KnowsToken mysql.same token) := by
  rw [readsWell_getUserIdx plain]
  apply forall_congr'
  intro fits
  exact and_iff_left ⟨well _, fun user _ => well user.idx⟩

/-- `getUserIdxByID` tests whether there is a row. -/
theorem ReadsWell.getUserIdxByID {conn : Nat} {ID : Bytes}
    (plain : sqlString (chr '\'') ID = some ID) {next : Int → Prog α}
    (well : ∀ idx t, (next idx).Meets (ReadsWell mysql t (some (userByIDQuery ID)))) :
    (getUserIdxByID conn ID >>= next).Meets (ReadsWell mysql s last) := by
  rw [getUserIdxByID_bind, readsWell_query]
  intro outcome t answered
  obtain ⟨fits, same, answer⟩ := (Mysql.answers_userByIDQuery plain).mp answered
  cases answer with
  | inl none =>
      subst none
      exact well (-1) t
  | inr answer =>
      obtain ⟨rows, some, order⟩ := answer
      subst some
      cases rows with
      | nil => exact well (-1) t
      | cons row rows =>
          obtain ⟨user, member, same⟩ :=
            List.mem_map.mp (order.mem_iff.mp (List.mem_cons_self ..))
          subst same
          exact well (atoi (decimalInt user.idx)) t

end Rules

section Handlers

variable {mysql : Mysql} {s : Shared} {req : Request}

/-- The token has a row, or its query does not fit the array. -/
def TokenThere (mysql : Mysql) (tables : Tables) (token : Bytes) : Prop :=
  (Sql.render (userQuery token)).length < 256 → tables.KnowsToken mysql.same token

/-- A handler that reads nothing but the row of its token. -/
theorem readsWell_start {token : Bytes} (clean : Clean token) {next : Nat → Int → Prog Unit}
    (well : ∀ connection idx t,
      (next connection idx).Meets (ReadsWell mysql t (some (userQuery token)))) :
    (connectionPop >>= fun connection =>
      getUserIdx connection token >>= next connection).Meets (ReadsWell mysql s none) ↔
        TokenThere mysql s.tables token := by
  apply readsWell_pop_iff (P := (TokenThere mysql · token))
  intro connection t
  exact ReadsWell.getUserIdx clean.single fun idx => well connection idx t

section Token

variable {token : Bytes}

theorem groupList_readsWell (clean : Clean token)
    (tokenFound : findValue req.parameter (ascii "token") = .ok (some token)) :
    (groupList req).Meets (ReadsWell mysql s none) ↔ TokenThere mysql s.tables token := by
  simp only [groupList, findParameter, tokenFound, Program.lift_ok_bind]
  apply readsWell_start clean
  intro connection idx t
  apply ReadsWell.known
  intro known
  exact ReadsWell.rows (printsRows_of_mem (show groupListQuery 0 ∈ printed by simp [printed]) rfl)

theorem getTodolist_readsWell (clean : Clean token)
    (tokenFound : findValue req.parameter (ascii "token") = .ok (some token)) :
    (getTodolist req).Meets (ReadsWell mysql s none) ↔ TokenThere mysql s.tables token := by
  simp only [getTodolist, findParameter, tokenFound, Program.lift_ok_bind]
  apply readsWell_start clean
  intro connection idx t
  apply ReadsWell.known
  intro known
  exact ReadsWell.rows (printsRows_of_mem (show todolistQuery 0 ∈ printed by simp [printed]) rfl)

/-- Behind `LAST_INSERT_ID()` there is always a row. -/
theorem createGroup_readsWell {name : Bytes} (clean : Clean token)
    (nameFound : findValue req.parameter (ascii "name") = .ok (some name))
    (tokenFound : findValue req.parameter (ascii "token") = .ok (some token)) :
    (createGroup req).Meets (ReadsWell mysql s none) ↔ TokenThere mysql s.tables token := by
  simp only [createGroup, findParameter, nameFound, tokenFound, Program.lift_ok_bind]
  apply readsWell_start clean
  intro connection idx t
  apply ReadsWell.known
  intro known
  apply readsWell_query.mpr
  intro outcome u _
  cases outcome with
  | none => exact ReadsWell.serverErrer
  | some created =>
      apply readsWell_query.mpr
      intro outcome v answered
      cases (Mysql.answers_lastInsertQuery.mp answered).answer with
      | inl none =>
          subst none
          exact ReadsWell.serverErrer
      | inr answer =>
          obtain ⟨rows, some, order⟩ := answer
          have only := List.perm_singleton.mp order
          subst some only
          apply readsWell_query.mpr
          intro outcome w _
          cases outcome with
          | none => exact ReadsWell.serverErrer
          | some joined => exact ReadsWell.commit fun _ => ReadsWell.push fun _ => ReadsWell.body

theorem joinGroup_readsWell {groupId ID : Bytes} (clean : Clean token) (IDClean : Clean ID)
    (tokenFound : findValue req.parameter (ascii "token") = .ok (some token))
    (groupFound : findValue req.parameter (ascii "group_id") = .ok (some groupId))
    (IDFound : findValue req.parameter (ascii "ID") = .ok (some ID)) :
    (joinGroup req).Meets (ReadsWell mysql s none) ↔ TokenThere mysql s.tables token := by
  simp only [joinGroup, findParameter, tokenFound, groupFound, IDFound, Program.lift_ok_bind]
  apply readsWell_start clean
  intro connection idx t
  apply ReadsWell.getUserIdxByID IDClean.single
  intro useridx u
  apply ReadsWell.known
  intro known
  apply Program.meets_ite.mpr
  refine ⟨fun _ => ReadsWell.body, ?_⟩
  intro exists_
  apply readsWell_query.mpr
  intro outcome v _
  cases outcome with
  | none => exact ReadsWell.serverErrer
  | some rows =>
      cases rows with
      | nil => exact ReadsWell.body
      | cons row rows =>
          apply readsWell_query.mpr
          intro outcome w _
          cases outcome with
          | none => exact ReadsWell.serverErrer
          | some joined => exact ReadsWell.body

theorem postTodolist_readsWell {deadline detail : Bytes} (clean : Clean token)
    (tokenFound : findValue req.parameter (ascii "token") = .ok (some token))
    (deadlineFound : findValue req.parameter (ascii "deadline") = .ok (some deadline))
    (detailFound : findValue req.parameter (ascii "detail") = .ok (some detail)) :
    (postTodolist req).Meets (ReadsWell mysql s none) ↔ TokenThere mysql s.tables token := by
  simp only [postTodolist, findParameter, tokenFound, deadlineFound, detailFound,
    Program.lift_ok_bind]
  apply readsWell_start clean
  intro connection idx t
  apply ReadsWell.known
  intro known
  apply readsWell_query.mpr
  intro outcome u _
  cases outcome with
  | none => exact ReadsWell.error fun _ => ReadsWell.bodyPush
  | some rows => exact ReadsWell.bodyPush

/-- Without a row the number is `0`, and a row has a number. -/
theorem getProgress_readsWell (clean : Clean token)
    (tokenFound : findValue req.parameter (ascii "token") = .ok (some token)) :
    (getProgress req).Meets (ReadsWell mysql s none) ↔ TokenThere mysql s.tables token := by
  simp only [getProgress, findParameter, tokenFound, Program.lift_ok_bind]
  apply readsWell_start clean
  intro connection idx t
  apply ReadsWell.known
  intro known
  apply readsWell_query.mpr
  intro outcome u answered
  cases (Mysql.answers_progressQuery.mp answered).answer with
  | inl none =>
      subst none
      exact ReadsWell.serverErrer
  | inr answer =>
      obtain ⟨rows, some, order⟩ := answer
      subst some
      cases rows with
      | nil => exact ReadsWell.bodyPush
      | cons row rows =>
          obtain ⟨stored, member, same⟩ :=
            List.mem_map.mp (order.mem_iff.mp (List.mem_cons_self ..))
          subst same
          exact ReadsWell.bodyPush

theorem postProgress_readsWell {number : Bytes} (clean : Clean token)
    (tokenFound : findValue req.parameter (ascii "token") = .ok (some token))
    (numberFound : findValue req.parameter (ascii "number") = .ok (some number)) :
    (postProgress req).Meets (ReadsWell mysql s none) ↔ TokenThere mysql s.tables token := by
  simp only [postProgress, findParameter, tokenFound, numberFound, Program.lift_ok_bind]
  apply readsWell_start clean
  intro connection idx t
  apply ReadsWell.known
  intro known
  apply readsWell_query.mpr
  intro outcome u _
  cases outcome with
  | none => exact ReadsWell.serverErrer
  | some rows =>
      apply readsWell_query.mpr
      intro outcome v _
      exact ReadsWell.bodyPush

theorem getChatlist_readsWell {groupId : Bytes} {latest : Option Bytes} (clean : Clean token)
    (tokenFound : findValue req.parameter (ascii "token") = .ok (some token))
    (groupFound : findValue req.parameter (ascii "group_id") = .ok (some groupId))
    (latestFound : findValue req.parameter (ascii "latest") = .ok latest) :
    (getChatlist req).Meets (ReadsWell mysql s none) ↔ TokenThere mysql s.tables token := by
  simp only [getChatlist, findParameter, tokenFound, groupFound, latestFound, Program.lift_ok_bind]
  apply readsWell_start clean
  intro connection idx t
  apply ReadsWell.known
  intro known
  apply readsWell_query.mpr
  intro outcome u _
  apply ReadsWell.rows
  cases latest with
  | none =>
      exact printsRows_of_mem (show chatlistQuery [] ∈ printed by simp [printed]) rfl
  | some latest =>
      exact printsRows_of_mem (show chatlistSinceQuery [] [] ∈ printed by simp [printed]) rfl

theorem postLocation_readsWell {latitude longitude : Bytes} (clean : Clean token)
    (tokenFound : findValue req.parameter (ascii "token") = .ok (some token))
    (latitudeFound : findValue req.parameter (ascii "latitude") = .ok (some latitude))
    (longitudeFound : findValue req.parameter (ascii "longitude") = .ok (some longitude)) :
    (postLocation req).Meets (ReadsWell mysql s none) ↔ TokenThere mysql s.tables token := by
  simp only [postLocation, findParameter, tokenFound, latitudeFound, longitudeFound,
    Program.lift_ok_bind]
  apply readsWell_start clean
  intro connection idx t
  apply ReadsWell.sprintf
  intro num
  apply (readsWell_call fun _ _ => rfl).mpr
  intro _ u _
  exact ReadsWell.bodyPush

end Token

theorem signup_readsWell {ID password name : Bytes}
    (IDFound : findValue req.parameter (ascii "ID") = .ok (some ID))
    (passwordFound : findValue req.parameter (ascii "password") = .ok (some password))
    (nameFound : findValue req.parameter (ascii "name") = .ok (some name)) :
    (signup req).Meets (ReadsWell mysql s none) := by
  simp only [signup, findParameter, IDFound, passwordFound, nameFound, Program.lift_ok_bind]
  apply readsWell_pop.mpr
  intro connection t _
  apply readsWell_query.mpr
  intro outcome u _
  cases outcome with
  | none => exact ReadsWell.body
  | some rows => exact ReadsWell.commit fun _ => ReadsWell.push fun _ => ReadsWell.body

theorem getLocation_readsWell {token userID : Bytes}
    (tokenFound : findValue req.parameter (ascii "token") = .ok (some token))
    (userFound : findValue req.parameter (ascii "user_ID") = .ok (some userID)) :
    (getLocation req).Meets (ReadsWell mysql s none) := by
  simp only [getLocation, findParameter, tokenFound, userFound, Program.lift_ok_bind]
  apply (readsWell_call fun _ _ => rfl).mpr
  intro location t _
  apply Program.meets_lift_bind.mpr
  refine ⟨fun body _ => ReadsWell.respond, ?_⟩
  intro fault failed
  apply readsWell_failed
  intro pieces query
  cases query

section Login

variable {ID password : Bytes}

/-- Every user with the ID has a password, and a name where the password is the one given. -/
def LoginThere (mysql : Mysql) (tables : Tables) (ID password : Bytes) : Prop :=
  (Sql.render (loginQuery ID)).length < 256 →
    tables.usersByID mysql.same ID ≠ [] ∧ ∀ user ∈ tables.usersByID mysql.same ID,
      ∃ stored, user.password = some stored ∧ (stored = password → user.name ≠ none)

theorem readsWell_rand {α : Type} {last : Option (List Piece)} (r : Nat) :
    (fun events => ReadsWell mysql s last (⟨.rand, r⟩ :: events)) =
      (ReadsWell mysql s last : HistorySpec α) := by
  funext events status
  apply propext
  constructor
  · intro well t path amiss
    exact well t (.cons rfl path) amiss
  · intro well t path amiss
    obtain ⟨u, same, later⟩ := Interaction.path_cons_iff.mp path
    cases same
    exact well t later amiss

/-- The part of `login` that works with the row of a user. -/
theorem readsWell_loginRest {connection : Nat} {user : User} {rows : List Row}
    {last : List Piece} (member : user ∈ s.tables.user.rows) (works : ¬ PrintsRows last) :
    (loginRest req password connection (loginRow user :: rows)).Meets
        (ReadsWell mysql s (some last)) ↔
      ∃ stored, user.password = some stored ∧ (stored = password → user.name ≠ none) := by
  have idx := Tables.atoi_number s.tables.user member
  cases read : user.password with
  | none =>
      have fails : loginRest req password connection (loginRow user :: rows) =
          .fail .nullPointer := by
        simp only [loginRest, loginRow, read]
        rfl
      rw [fails]
      constructor
      · intro well
        exact absurd well (readsAmiss_null works)
      · intro there
        obtain ⟨stored, absent, _⟩ := there
        cases absent
  | some stored =>
      have passes : loginRest req password connection (loginRow user :: rows) =
          if stored = password then
            createToken 50 >>= fun token =>
              mysqlQuery connection 256 (tokenQuery token user.idx) >>=
                loginStored req connection token user.name
          else loginRefused req connection := by
        rw [← idx, loginRow, read]
        exact loginRest_cons
      rw [passes, Program.meets_ite, meets_createToken_iff readsWell_rand (readsWell_calling _)]
      constructor
      · intro well
        obtain ⟨accepted, _⟩ := well
        refine ⟨stored, rfl, ?_⟩
        intro same unnamed
        -- a token that is stored, behind which the name is copied
        have drawn := drawn_replicate 50
        obtain ⟨t, inserted⟩ := Mysql.answers_tokenQuery drawn.clean drawn.1.le member
        have copies := readsWell_query.mp (accepted same _ drawn) (some []) t inserted
        rw [unnamed] at copies
        have works : ¬ PrintsRows (tokenQuery (List.replicate 50 (tokenChar 0)) user.idx) :=
          not_printsRows (show tokenQuery [] 0 ∈ unprinted by simp [unprinted]) rfl
        exact readsAmiss_null works copies
      · intro there
        obtain ⟨_, found, named⟩ := there
        cases found
        constructor
        · intro same token _
          apply readsWell_query.mpr
          intro outcome t _
          cases outcome with
          | none => exact ReadsWell.serverErrer
          | some inserted =>
              obtain ⟨name, named⟩ := Option.ne_none_iff_exists'.mp (named same)
              rw [named]
              exact ReadsWell.sprintf fun _ => ReadsWell.push fun _ => ReadsWell.body
        · intro _
          exact ReadsWell.push fun _ => ReadsWell.body

theorem login_readsWell (clean : Clean ID)
    (IDFound : findValue req.parameter (ascii "ID") = .ok (some ID))
    (passwordFound : findValue req.parameter (ascii "password") = .ok (some password)) :
    (login req).Meets (ReadsWell mysql s none) ↔ LoginThere mysql s.tables ID password := by
  have works : ¬ PrintsRows (loginQuery ID) :=
    not_printsRows (show loginQuery [] ∈ unprinted by simp [unprinted]) rfl
  rw [login_given IDFound passwordFound]
  apply readsWell_pop_iff (P := (LoginThere mysql · ID password))
  intro connection t
  have stored {user : User} (member : user ∈ t.tables.usersByID mysql.same ID) :
      user ∈ t.tables.user.rows := (List.mem_filter.mp member).1
  rw [readsWell_query]
  constructor
  · intro all fits
    have answered (rows : List Row)
        (order : rows.Perm ((t.tables.usersByID mysql.same ID).map loginRow)) :=
      all (some rows) t
        ((Mysql.answers_loginQuery clean.single).mpr ⟨fits, rfl, .inr ⟨rows, rfl, order⟩⟩)
    constructor
    · intro absent
      have empty := answered [] (by rw [absent]; exact .refl [])
      exact readsAmiss_null works empty
    · intro user member
      have first := answered _ (List.perm_cons_erase (List.mem_map_of_mem member)).symm
      exact (readsWell_loginRest (stored member) works).mp first
  · intro there outcome u answered
    obtain ⟨fits, same, answer⟩ := (Mysql.answers_loginQuery clean.single).mp answered
    subst same
    cases answer with
    | inl none =>
        subst none
        exact ReadsWell.serverErrer
    | inr answer =>
        obtain ⟨rows, some, order⟩ := answer
        subst some
        obtain ⟨found, users⟩ := there fits
        cases rows with
        | nil => exact absurd (List.map_eq_nil_iff.mp order.symm.eq_nil) found
        | cons row rows =>
            obtain ⟨user, member, same⟩ :=
              List.mem_map.mp (order.mem_iff.mp (List.mem_cons_self ..))
            subst same
            exact (readsWell_loginRest (stored member) works).mpr (users user member)

end Login

section Chat

variable {token groupId : Bytes}

/-- Where the group is not a number, what the database makes of it has a row. -/
def LatestThere (mysql : Mysql) (tables : Tables) (token groupId : Bytes) : Prop :=
  sqlInteger groupId = none → (Sql.render (userQuery token)).length < 256 →
    (Sql.render (latestChatQuery groupId)).length < 2000 →
      ∀ user ∈ tables.usersByToken mysql.same token, ∀ checked,
        Mysql.Checked tables user.idx (atoi groupId) checked → ∀ after,
          ¬ mysql.other (Sql.render (latestChatQuery groupId)) checked (some []) after

theorem cell_some_null {row : Row} {i : Nat} : cell (some row) i ≠ .error .nullPointer := by
  simp only [cell]
  split <;> simp

theorem ReadsWell.chatRest {connection : Nat} {last : Option (List Piece)} {idx latest : Int}
    {content : Bytes} :
    (Ttac.chatRest req connection idx groupId content latest).Meets (ReadsWell mysql s last) := by
  apply ReadsWell.getNow
  intro now
  apply readsWell_query.mpr
  intro outcome t _
  cases outcome with
  | none => exact ReadsWell.serverErrer
  | some rows => exact ReadsWell.bodyPush

/-- The part of `create_chat` that reads the latest message. -/
theorem readsWell_latest {connection : Nat} {last : Option (List Piece)}
    {next : Option Bytes → Prog Unit}
    (well : ∀ latest t, (next latest).Meets (ReadsWell mysql t (some (latestChatQuery groupId)))) :
    (mysqlQuery connection 2000 (latestChatQuery groupId) >>= fun outcome =>
      match outcome with
      | none => serverErrer req connection
      | some rows => Program.lift (cell rows.head? 0) >>= next).Meets (ReadsWell mysql s last) ↔
        (sqlInteger groupId = none → (Sql.render (latestChatQuery groupId)).length < 2000 →
          ∀ after,
            ¬ mysql.other (Sql.render (latestChatQuery groupId)) s.tables (some []) after) := by
  have works : ¬ PrintsRows (latestChatQuery groupId) :=
    not_printsRows (show latestChatQuery [] ∈ unprinted by simp [unprinted]) rfl
  have unread (notNumber : sqlInteger groupId = none) :
      statementOf (latestChatQuery groupId) = none := by
    rw [latestChatQuery_statement, notNumber]
    rfl
  rw [readsWell_query]
  constructor
  · intro all notNumber fits after empty
    have answered := all (some []) _
      ((Mysql.answers_other (unread notNumber)).mpr ⟨fits, after, 0, empty, rfl⟩)
    exact readsAmiss_null works answered
  · intro rowThere outcome t answered
    cases outcome with
    | none => exact ReadsWell.serverErrer
    | some rows =>
        cases rows with
        | nil =>
            cases number : sqlInteger groupId with
            | none =>
                obtain ⟨fits, after, _, empty, _⟩ :=
                  (Mysql.answers_other (unread number)).mp answered
                exact absurd empty (rowThere number fits after)
            | some group =>
                have answer := ((Mysql.answers_latestChatQuery number).mp answered).answer
                simp at answer
        | cons row rows =>
            apply Program.meets_lift_bind.mpr
            refine ⟨fun latest _ => well latest t, ?_⟩
            intro fault failed
            apply readsWell_failed
            intro pieces _ null
            exact absurd (null ▸ failed) cell_some_null

theorem readsWell_attendance {connection : Nat} {userIdx groupIdx : Int}
    {last : Option (List Piece)} {next : Unit → Prog Unit} :
    (attendanceCheck connection userIdx groupIdx >>= next).Meets (ReadsWell mysql s last) ↔
      ∀ outcome t,
        mysql.Answers (.mysqlQuery connection 256 (attendanceQuery userIdx groupIdx)) outcome s t →
          (next ()).Meets (ReadsWell mysql t (some (attendanceQuery userIdx groupIdx))) :=
  readsWell_query

theorem attendanceQuery_fits {user : User} (member : user ∈ s.tables.user.rows) (text : Bytes) :
    (Sql.render (attendanceQuery user.idx (atoi text))).length < 256 := by
  have within := s.tables.user.within user member
  have bounded := s.tables.user.bounded
  have range := atoi_range text
  have userDigits := Ascii.decimalInt_length_le (show -(2 ^ 31) ≤ user.idx by omega) (by omega)
  have groupDigits := Ascii.decimalInt_length_le range.1 range.2
  rw [attendanceQuery_length]
  omega

theorem createChat_readsWell {content : Bytes} (clean : Clean token)
    (tokenFound : findValue req.parameter (ascii "token") = .ok (some token))
    (groupFound : findValue req.parameter (ascii "group_id") = .ok (some groupId))
    (contentFound : findValue req.parameter (ascii "content") = .ok (some content)) :
    (createChat req).Meets (ReadsWell mysql s none) ↔
      TokenThere mysql s.tables token ∧ LatestThere mysql s.tables token groupId := by
  rw [createChat_given tokenFound groupFound contentFound]
  apply readsWell_pop_iff
    (P := fun tables => TokenThere mysql tables token ∧ LatestThere mysql tables token groupId)
  intro connection t
  have positive {user : User} (member : user ∈ t.tables.usersByToken mysql.same token) :
      user.idx ≠ -1 := by
    have within := t.tables.user.within user (Tables.mem_usersByToken.mp member).1
    omega
  rw [readsWell_getUserIdx clean.single]
  constructor
  · intro all
    refine ⟨fun fits => (all fits).1, ?_⟩
    intro notNumber fits latestFits user member checked check after
    have attended := (all fits).2.2 user member
    rw [if_neg (positive member), readsWell_attendance] at attended
    obtain ⟨outcome, u, answered, same⟩ := Mysql.answers_of_checked
      (attendanceQuery_fits (Tables.mem_usersByToken.mp member).1 groupId) check
    have latest := (readsWell_latest fun _ _ => ReadsWell.chatRest).mp (attended outcome u answered)
    rw [← same]
    exact latest notNumber latestFits after
  · intro ⟨known, latestThere⟩ fits
    refine ⟨known fits, ReadsWell.known (absurd rfl), ?_⟩
    intro user member
    rw [if_neg (positive member), readsWell_attendance]
    intro outcome u answered
    apply (readsWell_latest fun _ _ => ReadsWell.chatRest).mpr
    intro notNumber latestFits after
    exact latestThere notNumber fits latestFits user member u.tables
      (Mysql.answers_attendanceQuery answered) after

end Chat

/-- The rows a handler reads are there. -/
def RowsThere (mysql : Mysql) (tables : Tables) (req : Request) : Handler → Prop
  | .signup | .getLocation => True
  | .login => ∀ ID, findValue req.parameter (ascii "ID") = .ok (some ID) →
      ∀ password, findValue req.parameter (ascii "password") = .ok (some password) →
        LoginThere mysql tables ID password
  | .createChat => ∀ token, findValue req.parameter (ascii "token") = .ok (some token) →
      ∀ groupId, findValue req.parameter (ascii "group_id") = .ok (some groupId) →
        TokenThere mysql tables token ∧ LatestThere mysql tables token groupId
  | _ => ∀ token, findValue req.parameter (ascii "token") = .ok (some token) →
      TokenThere mysql tables token

theorem handler_readsWell (handler : Handler) (clean : req.Clean) (accepts : handler.Accepts req) :
    (handler.program req).Meets (ReadsWell mysql s none) ↔
      RowsThere mysql s.tables req handler := by
  cases accepts.given with
  | signup IDFound passwordFound nameFound =>
      exact iff_of_true (signup_readsWell IDFound passwordFound nameFound) trivial
  | getLocation tokenFound userFound =>
      exact iff_of_true (getLocation_readsWell tokenFound userFound) trivial
  | login IDFound passwordFound =>
      rw [RowsThere, forall_found IDFound, forall_found passwordFound]
      exact login_readsWell (clean.value IDFound) IDFound passwordFound
  | createChat tokenFound groupFound contentFound =>
      rw [RowsThere, forall_found tokenFound, forall_found groupFound]
      exact createChat_readsWell (clean.value tokenFound) tokenFound groupFound contentFound
  | createGroup nameFound tokenFound =>
      exact (createGroup_readsWell (clean.value tokenFound) nameFound tokenFound).trans
        (forall_found tokenFound).symm
  | groupList tokenFound =>
      exact (groupList_readsWell (clean.value tokenFound) tokenFound).trans
        (forall_found tokenFound).symm
  | joinGroup tokenFound groupFound IDFound =>
      exact (joinGroup_readsWell (clean.value tokenFound) (clean.value IDFound) tokenFound
        groupFound IDFound).trans
        (forall_found tokenFound).symm
  | getTodolist tokenFound =>
      exact (getTodolist_readsWell (clean.value tokenFound) tokenFound).trans
        (forall_found tokenFound).symm
  | postTodolist tokenFound deadlineFound detailFound =>
      exact (postTodolist_readsWell (clean.value tokenFound) tokenFound deadlineFound
        detailFound).trans
        (forall_found tokenFound).symm
  | getProgress tokenFound =>
      exact (getProgress_readsWell (clean.value tokenFound) tokenFound).trans
        (forall_found tokenFound).symm
  | postProgress tokenFound numberFound =>
      exact (postProgress_readsWell (clean.value tokenFound) tokenFound numberFound).trans
        (forall_found tokenFound).symm
  | getChatlist tokenFound groupFound latestFound =>
      exact (getChatlist_readsWell (clean.value tokenFound) tokenFound groupFound latestFound).trans
        (forall_found tokenFound).symm
  | postLocation tokenFound latitudeFound longitudeFound =>
      exact (postLocation_readsWell (clean.value tokenFound) tokenFound latitudeFound
        longitudeFound).trans
        (forall_found tokenFound).symm

/-- A handler reads nothing amiss, whatever the database answers, exactly when the rows it
reads without a test are there. -/
theorem readsAmiss_never_iff (mysql : Mysql) (s : Shared) (handler : Handler) (req : Request)
    (clean : req.Clean) :
    (∀ events rest t, (handler.program req).Runs events rest → Path mysql.Answers s events t →
        ¬ ReadsAmiss none events rest.status) ↔
      (handler.Accepts req → RowsThere mysql s.tables req handler) := by
  have meets : (∀ events rest t, (handler.program req).Runs events rest →
      Path mysql.Answers s events t → ¬ ReadsAmiss none events rest.status) ↔
        (handler.program req).Meets (ReadsWell mysql s none) := by
    rw [Program.meets_iff]
    exact ⟨fun never events rest runs t => never events rest t runs,
      fun well events rest t runs => well events rest runs t⟩
  rw [meets]
  constructor
  · intro well accepts
    exact (handler_readsWell handler clean accepts).mp well
  · intro there
    apply Handler.meets handler ReadsWell.respond
    · apply readsWell_failed
      intro pieces query
      cases query
    · intro accepts
      exact (handler_readsWell handler clean accepts).mpr (there accepts)

section Samples

def strangerRequest : Request :=
  ⟨ascii "GET", ascii "/group_list", ascii "HTTP/1.1", [], none,
    [⟨some (ascii "token"), ascii "x"⟩]⟩

theorem strangerRequest_clean : strangerRequest.Clean := by
  intro node member
  cases List.mem_singleton.mp member
  intro c member
  cases List.mem_singleton.mp member
  decide

theorem readsAmiss_never_iff_stranger :
    (∀ events rest t, (groupList strangerRequest).Runs events rest →
        Path Mysql.strict.Answers .start events t → ¬ ReadsAmiss none events rest.status) ↔
      (Handler.groupList.Accepts strangerRequest →
        RowsThere .strict .empty strangerRequest .groupList) :=
  readsAmiss_never_iff .strict .start .groupList strangerRequest strangerRequest_clean

/-- A token that no table holds. -/
theorem groupList_readsAmiss : ¬ ∀ (handler : Handler) (req : Request), req.Clean →
    ∀ (mysql : Mysql) (s : Shared) events rest t, (handler.program req).Runs events rest →
      Path mysql.Answers s events t → ¬ ReadsAmiss none events rest.status := by
  intro never
  have well : (groupList strangerRequest).Meets (ReadsWell .strict .start none) := by
    rw [Program.meets_iff]
    intro events rest runs t
    exact never .groupList strangerRequest strangerRequest_clean .strict .start events rest t runs
  have tokenFound : findValue strangerRequest.parameter (ascii "token") =
      .ok (some (ascii "x")) := rfl
  have clean := strangerRequest_clean.value tokenFound
  have fits : (Sql.render (userQuery (ascii "x"))).length < 256 := by
    rw [userQuery_length]
    decide
  obtain ⟨row, member, _⟩ := (groupList_readsWell clean tokenFound).mp well fits
  cases member

end Samples

end Handlers

end Ttac
