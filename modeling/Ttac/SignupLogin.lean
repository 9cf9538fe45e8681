import Ttac.HandlerRuns
import Ttac.Buffers

set_option autoImplicit false

/- What `login` replies behind the requests of `signup`, when no query fails. -/
namespace Ttac

open Interaction (Program Exchange Completes Ends Rules)
open Sql (Piece)

/-- The rules of an environment in which no query fails. -/
def Mysql.Succeeding (mysql : Mysql) : Rules Call Answer Shared := fun op answer s t =>
  mysql.Answers op answer s t ∧ none ∉ outcomes [⟨op, answer⟩]

/-- Where no query fails the program comes to its end, and its replies and the state are as
they should be. -/
def Mysql.Gives (mysql : Mysql) (program : Prog Unit) (s : Shared)
    (P : List Reply → Shared → Prop) : Prop :=
  Ends mysql.Succeeding program s fun events _ t => P (replies events) t

section Calls

variable {mysql : Mysql} {s : Shared} {P : List Reply → Shared → Prop} {req : Request}
  {connection capacity : Nat} {pieces : List Piece}

/-- A call with one answer that changes the state in one way. -/
theorem gives_call {op : Call} {next : Answer op → Prog Unit} {unit : Answer op} {t : Shared}
    (only : ∀ answer u, mysql.Succeeding op answer s u ↔ answer = unit ∧ u = t)
    (silent : ∀ answer events, replies (⟨op, answer⟩ :: events) = replies events) :
    mysql.Gives (invoke op >>= next) s P ↔ mysql.Gives (next unit) t P := by
  constructor
  · intro ends
    have rest := ends.2 unit t ((only _ _).mpr ⟨rfl, rfl⟩)
    simp only [silent] at rest
    exact rest
  · intro ends
    refine ⟨⟨unit, t, (only _ _).mpr ⟨rfl, rfl⟩⟩, ?_⟩
    intro answer u answered
    obtain ⟨rfl, rfl⟩ := (only _ _).mp answered
    simp only [silent]
    exact ends

theorem gives_pop {next : Nat → Prog Unit} :
    mysql.Gives (connectionPop >>= next) s P ↔ mysql.Gives (next s.connections) s.open P := by
  apply gives_call
  · intro answer u
    simp only [Mysql.Succeeding, Mysql.Answers, outcomes, List.not_mem_nil, not_false_eq_true,
      and_true]
    rfl
  · intro answer events
    rfl

theorem gives_push {next : Unit → Prog Unit} :
    mysql.Gives (connectionPush connection >>= next) s P ↔ mysql.Gives (next ()) s P := by
  apply gives_call
  · intro answer u
    simp only [Mysql.Succeeding, Mysql.Answers, outcomes, List.not_mem_nil, not_false_eq_true,
      and_true]
    exact (and_iff_right rfl).symm
  · intro answer events
    rfl

theorem gives_respond {statusCode : Int} {statusMsg : String} {body : Bytes} :
    mysql.Gives (respond req statusCode statusMsg body) s P ↔
      P [⟨statusCode, ascii statusMsg, req.version, body⟩] s := by
  have quiet (answer : Unit) (u : Shared) : mysql.Succeeding
      (.response ⟨statusCode, ascii statusMsg, req.version, body⟩) answer s u ↔ u = s := by
    simp only [Mysql.Succeeding, Mysql.Answers, outcomes, List.not_mem_nil, not_false_eq_true,
      and_true]
  constructor
  · intro ends
    exact ends.2 () s ((quiet () s).mpr rfl)
  · intro holds
    refine ⟨⟨(), s, (quiet () s).mpr rfl⟩, ?_⟩
    intro answer u answered
    obtain rfl := (quiet answer u).mp answered
    exact holds

theorem gives_query {next : Option (List Row) → Prog Unit} :
    mysql.Gives (mysqlQuery connection capacity pieces >>= next) s P ↔
      (∃ rows t, mysql.Answers (.mysqlQuery connection capacity pieces) (some rows) s t) ∧
        ∀ rows t, mysql.Answers (.mysqlQuery connection capacity pieces) (some rows) s t →
          mysql.Gives (next (some rows)) t P := by
  have succeeds (rows : List Row) (t : Shared) :
      mysql.Succeeding (.mysqlQuery connection capacity pieces) (some rows) s t ↔
        mysql.Answers (.mysqlQuery connection capacity pieces) (some rows) s t := by
    refine and_iff_left ?_
    simp [outcomes]
  constructor
  · intro ends
    obtain ⟨⟨outcome, t, answered, done⟩, later⟩ := ends
    constructor
    · cases outcome with
      | none => exact absurd (List.mem_singleton_self _) done
      | some rows => exact ⟨rows, t, answered⟩
    · intro rows t answered
      exact later (some rows) t ((succeeds rows t).mpr answered)
  · intro parts
    obtain ⟨⟨rows, t, answered⟩, later⟩ := parts
    refine ⟨⟨some rows, t, (succeeds rows t).mpr answered⟩, ?_⟩
    intro outcome t answered
    cases outcome with
    | none => exact absurd (List.mem_singleton_self _) answered.2
    | some rows => exact later rows t answered.1

/-- A query that only reads. -/
theorem gives_select {next : Option (List Row) → Prog Unit} {statement : Statement}
    (rows : List Row) (understood : statementOf pieces = some statement)
    (fits : (Sql.render pieces).length < capacity)
    (selects : ∀ gap today, exec mysql gap today s.tables (s.lastId connection) statement =
      some ⟨rows, s.tables, s.lastId connection⟩) :
    mysql.Gives (mysqlQuery connection capacity pieces >>= next) s P ↔
      ∀ answer : List Row, answer.Perm rows → mysql.Gives (next (some answer)) s P := by
  rw [gives_query]
  constructor
  · intro parts answer order
    apply parts.2 answer s
    exact (Mysql.answers_select rows understood selects).mpr ⟨fits, rfl, .inr ⟨answer, rfl, order⟩⟩
  · intro all
    refine ⟨⟨rows, s, ?_⟩, ?_⟩
    · exact (Mysql.answers_select rows understood selects).mpr
        ⟨fits, rfl, .inr ⟨rows, rfl, .refl _⟩⟩
    · intro answer t answered
      have selected := (Mysql.answers_select rows understood selects).mp answered
      obtain rfl := selected.state
      cases selected.answer with
      | inl failed => cases failed
      | inr found =>
          obtain ⟨given, same, order⟩ := found
          cases same
          exact all answer order

/-- The token of a user who is there is stored. -/
theorem gives_token {next : Option (List Row) → Prog Unit} {token : Bytes} {user : User}
    (drawn : Drawn 50 token) (member : user ∈ s.tables.user.rows) :
    mysql.Gives (mysqlQuery connection 256 (tokenQuery token user.idx) >>= next) s P ↔
      ∀ after, s.tables.insertToken token user.idx = some after →
        mysql.Gives (next (some [])) { s with tables := after } P := by
  have understood :
      statementOf (tokenQuery token user.idx) = some (.insertToken token user.idx) := by
    rw [tokenQuery_statement, drawn.clean.single]
    rfl
  have stored : mysql.store 50 token = some token :=
    mysql.store_fits 50 token (Nat.le_of_eq drawn.1)
  have within := s.tables.user.within user member
  have bounded := s.tables.user.bounded
  have digits := Ascii.decimalInt_length_le (show -(2 ^ 31) ≤ user.idx by omega) (by omega)
  have fits : (Sql.render (tokenQuery token user.idx)).length < 256 := by
    rw [tokenQuery_length, drawn.1]
    omega
  have answers (rows : List Row) (t : Shared) :
      mysql.Answers (.mysqlQuery connection 256 (tokenQuery token user.idx)) (some rows) s t ↔
        rows = [] ∧ ∃ after, s.tables.insertToken token user.idx = some after ∧
          t = { s with tables := after } := by
    rw [Mysql.answers_statement understood]
    constructor
    · intro answered
      obtain ⟨-, failed | done⟩ := answered
      · cases failed.1
      · obtain ⟨gap, today, executed, answer, run, given, order, state⟩ := done
        obtain ⟨text, same, run⟩ := Option.bind_eq_some_iff.mp run
        cases stored.symm.trans same
        obtain ⟨after, inserted, whole⟩ := Option.bind_eq_some_iff.mp run
        cases given
        cases whole
        rw [Function.update_eq_self] at state
        exact ⟨List.perm_nil.mp order, after, inserted, state⟩
    · intro parts
      obtain ⟨rfl, after, inserted, state⟩ := parts
      refine ⟨fits, .inr ⟨0, [], ⟨[], after, s.lastId connection⟩, [], ?_, rfl, .refl _, ?_⟩⟩
      · exact Option.bind_eq_some_iff.mpr
          ⟨token, stored, Option.bind_eq_some_iff.mpr ⟨after, inserted, rfl⟩⟩
      · rw [Function.update_eq_self]
        exact state
  have known : ∃ after, s.tables.insertToken token user.idx = some after :=
    ⟨_, dif_pos ⟨user, member, rfl⟩⟩
  rw [gives_query]
  simp only [answers]
  constructor
  · intro parts after inserted
    exact parts.2 [] _ ⟨rfl, after, inserted, rfl⟩
  · intro all
    obtain ⟨after, inserted⟩ := known
    refine ⟨⟨[], _, rfl, after, inserted, rfl⟩, ?_⟩
    intro rows t parts
    obtain ⟨rfl, after, inserted, rfl⟩ := parts
    exact all after inserted

/-- Every token may be drawn. -/
theorem gives_createToken {left : Nat} {next : Bytes → Prog Unit} :
    mysql.Gives (createToken left >>= next) s P ↔
      ∀ token, Drawn left token → mysql.Gives (next token) s P := by
  apply createToken_iff (F := fun program => mysql.Gives program s P)
  intro next
  constructor
  · intro gives r
    have here := gives.2 r s ⟨rfl, by simp [outcomes]⟩
    exact here
  · intro all
    refine ⟨⟨(0 : Nat), s, rfl, by simp [outcomes]⟩, ?_⟩
    intro r t answered
    obtain rfl : t = s := answered.1
    exact all r

theorem gives_body {next : Bytes → Prog Unit} {text : Bytes} (fits : text.length < capacity) :
    mysql.Gives (Program.lift (sprintf capacity text) >>= next) s P ↔
      mysql.Gives (next text) s P := by
  rw [show sprintf capacity text = .ok text from if_neg (by omega), Program.lift_ok_bind]

end Calls

/-- The row of a user who has signed up. -/
structure User.Filled (user : User) (ID password name : Bytes) : Prop where
  IDStored : user.ID = some ID
  passwordStored : user.password = some password
  nameStored : user.name = some name
  short : name.length ≤ 25

/-- The reply of `login`. -/
def loginReply (req : Request) (status : String) (token name : Bytes) : Reply :=
  ⟨200, ascii "OK", req.version, loginBody status token name⟩

/-- `getUserIdx` comes to its end with this number and changes nothing. -/
def Mysql.MapsTo (mysql : Mysql) (s : Shared) (token : Bytes) (idx : Int) : Prop :=
  ∀ connection, Ends mysql.Succeeding (getUserIdx connection token) s fun _ found t =>
    found = idx ∧ t = s

/-- What `login` comes to: the row of one of the users with the ID is read, and one has to be
there. -/
def LoginOutcome (mysql : Mysql) (s : Shared) (req : Request) (ID password : Bytes)
    (P : List Reply → Shared → Prop) : Prop :=
  s.tables.usersByID mysql.same ID ≠ [] ∧
    ∀ user ∈ s.tables.usersByID mysql.same ID, ∀ known stored name,
      user.Filled known stored name →
        if stored = password then
          ∀ token after, Drawn 50 token → s.tables.insertToken token user.idx = some after →
            P [loginReply req "OK" token name] { s.open with tables := after }
        else P [loginReply req "ERROR" [] []] s.open

section Login

variable {mysql : Mysql} {s : Shared} {P : List Reply → Shared → Prop} {req : Request}
  {ID password : Bytes}

/-- What `login` does with the row of a user. -/
theorem loginRest_gives {connection : Nat} {user : User} {rows : List Row} {stored name : Bytes}
    {known : Bytes} (filled : user.Filled known stored name)
    (member : user ∈ s.tables.user.rows) :
    mysql.Gives (loginRest req password connection (loginRow user :: rows)) s P ↔
      if stored = password then
        ∀ token after, Drawn 50 token → s.tables.insertToken token user.idx = some after →
          P [loginReply req "OK" token name] { s with tables := after }
      else P [loginReply req "ERROR" [] []] s := by
  have row : loginRow user = [some stored, some name, some (decimalInt user.idx)] := by
    rw [loginRow, filled.passwordStored, filled.nameStored]
    rfl
  rw [row, loginRest_cons, Tables.atoi_number s.tables.user member]
  by_cases same : stored = password
  · rw [if_pos same, if_pos same, gives_createToken]
    have accepted (token : Bytes) (drawn : Drawn 50 token) (t : Shared) :
        mysql.Gives (loginStored req connection token (some name) (some [])) t P ↔
          P [loginReply req "OK" token name] t := by
      have copied : column (some [some name]) 0 = .ok name := rfl
      have short := filled.short
      have body : (loginBody "OK" token name).length < 256 := by
        rw [loginBody_length, OK_length, drawn.1]
        omega
      rw [loginStored, copied, Program.lift_ok_bind, gives_body (by omega), gives_push,
        gives_body body, gives_respond]
      rfl
    constructor
    · intro all token after drawn inserted
      have stored := (gives_token drawn member).mp (all token drawn) after inserted
      exact (accepted token drawn _).mp stored
    · intro all token drawn
      apply (gives_token drawn member).mpr
      intro after inserted
      exact (accepted token drawn _).mpr (all token after drawn inserted)
  · have body : (loginBody "ERROR" [] []).length < 256 := by
      rw [loginBody_length, ERROR_length]
      decide
    rw [if_neg same, if_neg same, loginRefused, gives_push, gives_body body, gives_respond]
    rfl

/-- `login` reads the first row with the ID, whichever that is, and needs one. -/
theorem login_gives (IDFound : findValue req.parameter (ascii "ID") = .ok (some ID))
    (passwordFound : findValue req.parameter (ascii "password") = .ok (some password))
    (read : sqlString (chr '\'') ID = some ID) (short : ID.length ≤ 20)
    (filled : ∀ user ∈ s.tables.user.rows, ∃ ID password name, user.Filled ID password name) :
    mysql.Gives (login req) s P ↔ LoginOutcome mysql s req ID password P := by
  have understood : statementOf (loginQuery ID) = some (.userByLogin ID) := by
    rw [loginQuery_statement, read]
    rfl
  have fits : (Sql.render (loginQuery ID)).length < 256 := by
    rw [loginQuery_length]
    omega
  have users : ∀ user ∈ s.tables.usersByID mysql.same ID, user ∈ s.open.tables.user.rows := by
    intro user member
    exact (List.mem_filter.mp member).1
  rw [login_given IDFound passwordFound, gives_pop,
    gives_select (s := s.open) ((s.tables.usersByID mysql.same ID).map loginRow) understood fits
      fun _ _ => rfl]
  constructor
  · intro all
    constructor
    · intro none
      have here := all [] (by rw [none]; exact .refl _)
      exact here.elim
    · intro user member known stored name has
      obtain ⟨front, back, whole⟩ := List.append_of_mem member
      have order : (loginRow user :: (front ++ back).map loginRow).Perm
          ((s.tables.usersByID mysql.same ID).map loginRow) := by
        rw [whole, ← List.map_cons]
        exact (List.perm_middle.symm).map loginRow
      exact (loginRest_gives has (users user member)).mp (all _ order)
  · intro parts answer order
    obtain ⟨some, each⟩ := parts
    cases answer with
    | nil => exact absurd (List.map_eq_nil_iff.mp (List.nil_perm.mp order)) some
    | cons row rows =>
        obtain ⟨user, member, same⟩ := List.mem_map.mp (order.mem_iff.mp (List.mem_cons_self ..))
        obtain ⟨known, stored, name, has⟩ := filled user (users user member)
        rw [← same]
        exact (loginRest_gives has (users user member)).mpr (each user member known stored name has)

end Login

/-- A request of `signup` or `login` whose values the database can read and whose columns hold
them. -/
structure Job.Enrols (job : Job) : Prop where
  handler : job.handler = .signup ∨ job.handler = .login
  readable : job.Readable
  fits : ∀ column ∈ [("ID", 20), ("password", 20), ("name", 25)], ∀ value,
    findValue job.req.parameter (ascii column.1) = .ok (some value) → value.length ≤ column.2

instance (job : Job) (column : String × Nat) : Decidable (∀ value : Bytes,
    findValue job.req.parameter (ascii column.1) = .ok (some value) → value.length ≤ column.2) :=
  match found : findValue job.req.parameter (ascii column.1) with
  | .ok (some value) => decidable_of_iff (value.length ≤ column.2)
      ⟨fun fits other same => by cases same; exact fits, fun all => all value rfl⟩
  | .ok none => isTrue nofun
  | .error _ => isTrue nofun

instance (job : Job) : Decidable job.Enrols :=
  decidable_of_iff ((job.handler = .signup ∨ job.handler = .login) ∧
    job.handler.Readable job.req ∧ ∀ column ∈ [("ID", 20), ("password", 20), ("name", 25)],
      ∀ value : Bytes, findValue job.req.parameter (ascii column.1) = .ok (some value) →
        value.length ≤ column.2)
    ⟨fun parts => ⟨parts.1, parts.2.1, parts.2.2⟩,
      fun enrols => ⟨enrols.handler, enrols.readable, enrols.fits⟩⟩

/-- The step is a `signup` that was answered `OK` and created the user. -/
structure RequestStep.SignsUp (step : RequestStep) (ID password name : Bytes) (user : User) :
    Prop where
  handler : step.event.op.handler = .signup
  IDFound : findValue step.event.op.req.parameter (ascii "ID") = .ok (some ID)
  passwordFound : findValue step.event.op.req.parameter (ascii "password") = .ok (some password)
  nameFound : findValue step.event.op.req.parameter (ascii "name") = .ok (some name)
  replied : replies step.event.answer = [statusReply step.event.op.req "OK"]
  created : step.after.tables.user.rows = step.before.tables.user.rows ++ [user]

section Signup

variable {mysql : Mysql} {s t : Shared} {req : Request} {events : History}
  {ID password name : Bytes}

/-- A signup without failure is answered `OK` and creates its user. -/
theorem signup_serves (enrols : Job.Enrols ⟨.signup, req⟩)
    (IDFound : findValue req.parameter (ascii "ID") = .ok (some ID))
    (passwordFound : findValue req.parameter (ascii "password") = .ok (some password))
    (nameFound : findValue req.parameter (ascii "name") = .ok (some name))
    (served : mysql.Serves ⟨.signup, req⟩ events s t) (done : none ∉ outcomes events) :
    replies events = [statusReply req "OK"] ∧ ∃ user, user.Filled ID password name ∧
      t.tables.user.rows = s.tables.user.rows ++ [user] := by
  have readable : Handler.signup.Readable req := enrols.readable
  have IDRead := readable.single (by simp [Handler.insertions]) IDFound
  have passwordRead := readable.single (by simp [Handler.insertions]) passwordFound
  have nameRead := readable.single (by simp [Handler.insertions]) nameFound
  have IDFits : ID.length ≤ 20 := enrols.fits ("ID", 20) (by simp) ID IDFound
  have passwordFits : password.length ≤ 20 :=
    enrols.fits ("password", 20) (by simp) password passwordFound
  have nameFits : name.length ≤ 25 := enrols.fits ("name", 25) (by simp) name nameFound
  have understood : statementOf (signupQuery name ID password) =
      some (.insertUser name ID password) := by
    rw [signupQuery_statement, nameRead, IDRead, passwordRead]
    rfl
  simp only [Mysql.Serves, Job.program, Handler.program, signup, findParameter, IDFound,
    passwordFound, nameFound, Program.lift_ok_bind] at served
  obtain ⟨later, rfl, inserts⟩ := completes_pop.mp served
  obtain ⟨outcome, middle, rest, rfl, answered, ends⟩ := completes_query.mp inserts
  cases outcome with
  | none => exact absurd (List.mem_cons_self ..) done
  | some rows =>
      obtain ⟨tail, rfl, pushes⟩ := completes_commit.mp ends
      obtain ⟨last, rfl, responds⟩ := completes_push.mp pushes
      obtain ⟨-, rfl, rfl⟩ := completes_body.mp responds
      refine ⟨rfl, ?_⟩
      obtain ⟨-, failed | found⟩ := (Mysql.answers_statement understood).mp answered
      · cases failed.1
      · obtain ⟨gap, today, executed, answer, run, -, -, state⟩ := found
        obtain ⟨storedName, storedID, storedPassword, nameStored, IDStored, passwordStored,
          inserted⟩ := exec_insertUser run
        cases (mysql.store_fits 25 name nameFits).symm.trans nameStored
        cases (mysql.store_fits 20 ID IDFits).symm.trans IDStored
        cases (mysql.store_fits 20 password passwordFits).symm.trans passwordStored
        have created := (Tables.insertUser_some inserted).1
        rw [show executed.tables = t.tables by rw [state]] at created
        exact ⟨_, ⟨rfl, rfl, rfl, nameFits⟩, created⟩

/-- A request of `signup` or `login` adds a user or leaves the users as they are. -/
theorem enrols_users {step : RequestStep} (enrols : step.event.op.Enrols)
    (served : mysql.Serves step.event.op step.event.answer step.before step.after)
    (done : none ∉ outcomes step.event.answer) :
    step.after.tables.user = step.before.tables.user ∨
      ∃ ID password name user, step.SignsUp ID password name user ∧
        user.Filled ID password name := by
  obtain ⟨thread, ⟨⟨handler, req⟩, events⟩, s, t⟩ := step
  rcases served.accepts with ⟨-, same⟩ | accepts
  · have state : t = s := same
    rw [state]
    exact .inl rfl
  · rcases enrols.handler with rfl | rfl
    · cases accepts.given with
      | @signup ID password name IDFound passwordFound nameFound =>
          obtain ⟨replied, user, filled, created⟩ :=
            signup_serves enrols IDFound passwordFound nameFound served done
          exact .inr ⟨ID, password, name, user,
            ⟨rfl, IDFound, passwordFound, nameFound, replied, created⟩, filled⟩
    · have same : Tables.Same s.tables t.tables .user :=
        served.same enrols.readable (by simp [Handler.targets])
      exact .inl (Eq.symm same)

/-- The users are those who have signed up. -/
theorem users_signedUp {run : List RequestStep} (serial : mysql.Serial s run t)
    (enrols : ∀ step ∈ run, step.event.op.Enrols ∧ none ∉ outcomes step.event.answer)
    (user : User) :
    user ∈ t.tables.user.rows ↔ user ∈ s.tables.user.rows ∨
      ∃ step ∈ run, ∃ ID password name, step.SignsUp ID password name user := by
  induction serial with
  | nil s => simp
  | @cons step run t served later ih =>
      rw [List.forall_mem_cons] at enrols
      rw [ih enrols.2]
      have first : user ∈ step.after.tables.user.rows ↔ user ∈ step.before.tables.user.rows ∨
          ∃ ID password name, RequestStep.SignsUp step ID password name user := by
        rcases enrols_users enrols.1.1 served enrols.1.2 with same | signed
        · rw [same]
          refine ⟨.inl, ?_⟩
          intro either
          rcases either with old | ⟨ID, password, name, signs⟩
          · exact old
          · have created := signs.created
            rw [same] at created
            simp at created
        · obtain ⟨ID, password, name, other, signs, -⟩ := signed
          rw [signs.created, List.mem_append, List.mem_singleton]
          apply or_congr_right
          constructor
          · intro same
            subst same
            exact ⟨ID, password, name, signs⟩
          · intro also
            obtain ⟨_, _, _, also⟩ := also
            have both := signs.created.symm.trans also.created
            simpa using (List.append_cancel_left both).symm
      rw [first, or_assoc]
      simp only [List.mem_cons, exists_eq_or_imp]

/-- The user whom a signup has created has its values. -/
theorem signsUp_filled {step : RequestStep} (enrols : step.event.op.Enrols)
    (served : mysql.Serves step.event.op step.event.answer step.before step.after)
    (done : none ∉ outcomes step.event.answer) {user : User}
    (signs : step.SignsUp ID password name user) : user.Filled ID password name := by
  rcases enrols_users enrols served done with same | signed
  · have created := signs.created
    rw [same] at created
    simp at created
  · obtain ⟨ID', password', name', other, also, filled⟩ := signed
    have both := signs.created.symm.trans also.created
    obtain rfl : user = other := by simpa using List.append_cancel_left both
    cases signs.IDFound.symm.trans also.IDFound
    cases signs.passwordFound.symm.trans also.passwordFound
    cases signs.nameFound.symm.trans also.nameFound
    exact filled

end Signup

/-- The login agrees with the signups of the run. A signup with the ID and the password is
answered with its name and with a token that leads, if it has not been given before, to its user.
Without such a signup the login is refused, and no token is stored. -/
structure LoginAgrees (mysql : Mysql) (run : List RequestStep) (s : Shared) (req : Request)
    (ID password : Bytes) : Prop where
  accepts : ∀ step ∈ run, ∀ name user, RequestStep.SignsUp step ID password name user →
    mysql.Gives (login req) s fun sent t => ∃ token, Drawn 50 token ∧
      sent = [loginReply req "OK" token name] ∧
        (¬ s.tables.KnowsToken mysql.same token → mysql.MapsTo t token user.idx)
  refuses : (∀ step ∈ run, ∀ name user, ¬ RequestStep.SignsUp step ID password name user) →
    mysql.Gives (login req) s fun sent t =>
      sent = [loginReply req "ERROR" [] []] ∧ t.tables.token = s.tables.token

/-- Some user has the ID, and one with the password is the only one with the ID, spelled so. -/
def Tables.Sole (tables : Tables) (same : Bytes → Bytes → Bool) (ID password : Bytes) : Prop :=
  tables.usersByID same ID ≠ [] ∧ ∀ user ∈ tables.usersByID same ID,
    user.password = some password → tables.usersByID same ID = [user] ∧ user.ID = some ID

section Tokens

variable {mysql : Mysql} {s t : Shared} {token : Bytes} {user : User} {tables after : Tables}

/-- A token that was not given before belongs to the user it is stored for. -/
theorem usersByToken_inserted (unknown : ¬ tables.KnowsToken mysql.same token)
    (inserted : tables.insertToken token user.idx = some after)
    (member : user ∈ tables.user.rows) : after.usersByToken mysql.same token = [user] := by
  obtain ⟨-, rows, elsewhere⟩ := Tables.insertToken_some inserted
  have users : tables.user = after.user := elsewhere .user nofun
  have old : tables.token.filter (fun row => mysql.same row.token token) = [] := by
    apply List.filter_eq_nil_iff.mpr
    intro row stored equal
    exact unknown ⟨row, stored, equal⟩
  have new : [(⟨token, user.idx⟩ : Token)].filter (fun row => mysql.same row.token token) =
      [⟨token, user.idx⟩] := by
    exact List.filter_cons_of_pos (mysql.same_refl token)
  rw [Tables.usersByToken, rows, List.filter_append, old, new, List.nil_append,
    List.flatMap_singleton, ← users]
  exact tables.user.filter_number member

/-- `getUserIdx` finds the user of a token that has only one. -/
theorem mapsTo_iff {idx : Int} (drawn : Drawn 50 token)
    (only : t.tables.usersByToken mysql.same token = [user]) :
    mysql.MapsTo t token idx ↔ user.idx = idx := by
  have member : user ∈ t.tables.user.rows := by
    have found : user ∈ t.tables.usersByToken mysql.same token := by
      rw [only]
      exact List.mem_singleton_self _
    exact (Tables.mem_usersByToken.mp found).1
  have number := Tables.atoi_number t.tables.user member
  have fits : (Sql.render (userQuery token)).length < 256 := by
    rw [userQuery_length, drawn.1]
    decide
  have answers (connection : Nat) (outcome : Option (List Row)) (u : Shared) :
      mysql.Succeeding (.mysqlQuery connection 256 (userQuery token)) outcome t u ↔
        outcome = some [userRow user] ∧ u = t := by
    unfold Mysql.Succeeding
    rw [Mysql.answers_userQuery drawn.clean.single, only]
    constructor
    · intro answered
      obtain ⟨selected, done⟩ := answered
      refine ⟨?_, selected.state⟩
      rcases selected.answer with rfl | ⟨rows, rfl, order⟩
      · exact absurd (List.mem_singleton_self _) done
      · exact congrArg some (List.perm_singleton.mp order)
    · intro parts
      obtain ⟨rfl, rfl⟩ := parts
      exact ⟨⟨fits, rfl, .inr ⟨_, rfl, .refl _⟩⟩, by simp [outcomes]⟩
  constructor
  · intro maps
    have found := (maps 0).2 (some [userRow user]) t ((answers 0 _ _).mpr ⟨rfl, rfl⟩)
    exact number.symm.trans found.1
  · intro same connection
    refine ⟨⟨some [userRow user], t, (answers connection _ _).mpr ⟨rfl, rfl⟩⟩, ?_⟩
    intro outcome u answered
    obtain ⟨rfl, rfl⟩ := (answers connection _ _).mp answered
    exact ⟨number.trans same, rfl⟩

theorem loginReply_injective {req : Request} {first second name name' : Bytes}
    (drawn : Drawn 50 first) (also : Drawn 50 second)
    (same : loginReply req "OK" first name = loginReply req "OK" second name') :
    first = second := by
  have bodies : loginBody "OK" first name = loginBody "OK" second name' := congrArg Reply.body same
  simp only [loginBody, List.append_assoc, List.append_right_inj] at bodies
  exact (List.append_inj bodies (drawn.1.trans also.1.symm)).1

theorem loginReply_ne {req : Request} {token name : Bytes} :
    loginReply req "ERROR" [] [] ≠ loginReply req "OK" token name := by
  intro same
  have bodies : loginBody "ERROR" [] [] = loginBody "OK" token name := congrArg Reply.body same
  simp only [loginBody, List.append_assoc, List.append_right_inj] at bodies
  cases bodies

end Tokens

section Agreement

variable {mysql : Mysql} {run : List RequestStep} {s : Shared} {req : Request}
  {ID password : Bytes}

theorem usersByID_of_signsUp (serial : mysql.Serial .start run s)
    (enrols : ∀ step ∈ run, step.event.op.Enrols ∧ none ∉ outcomes step.event.answer)
    {step : RequestStep} (member : step ∈ run) {name : Bytes} {user : User}
    (signs : step.SignsUp ID password name user) :
    user ∈ s.tables.usersByID mysql.same ID ∧ user.Filled ID password name := by
  have served : mysql.Serves step.event.op step.event.answer step.before step.after := by
    obtain ⟨earlier, later, whole⟩ := List.append_of_mem member
    rw [whole] at serial
    exact (Interaction.linked_around_iff.mp serial).2.1
  have filled := signsUp_filled (enrols step member).1 served (enrols step member).2 signs
  have stored := (users_signedUp serial enrols user).mpr
    (.inr ⟨step, member, ID, password, name, signs⟩)
  refine ⟨List.mem_filter.mpr ⟨stored, ?_⟩, filled⟩
  rw [filled.IDStored]
  exact mysql.same_refl ID

/-- Every user has signed up. -/
theorem signsUp_of_stored (serial : mysql.Serial .start run s)
    (enrols : ∀ step ∈ run, step.event.op.Enrols ∧ none ∉ outcomes step.event.answer) {user : User}
    (stored : user ∈ s.tables.user.rows) :
    ∃ step ∈ run, ∃ ID password name, RequestStep.SignsUp step ID password name user ∧
      user.Filled ID password name := by
  rcases (users_signedUp serial enrols user).mp stored with none | signed
  · cases none
  · obtain ⟨step, member, ID, password, name, signs⟩ := signed
    exact ⟨step, member, ID, password, name, signs,
      (usersByID_of_signsUp serial enrols member signs).2⟩

/-- What `login` comes to behind signups and logins. -/
theorem login_outcome (serial : mysql.Serial .start run s)
    (enrols : ∀ step ∈ run, step.event.op.Enrols ∧ none ∉ outcomes step.event.answer)
    (asks : Job.Enrols ⟨.login, req⟩)
    (IDFound : findValue req.parameter (ascii "ID") = .ok (some ID))
    (passwordFound : findValue req.parameter (ascii "password") = .ok (some password))
    (P : List Reply → Shared → Prop) :
    mysql.Gives (login req) s P ↔ LoginOutcome mysql s req ID password P := by
  have readable : Handler.login.Readable req := asks.readable
  apply login_gives IDFound passwordFound (readable.single (by simp [Handler.insertions]) IDFound)
    (asks.fits ("ID", 20) (by simp) ID IDFound)
  intro user stored
  obtain ⟨-, -, ID, password, name, -, filled⟩ := signsUp_of_stored serial enrols stored
  exact ⟨ID, password, name, filled⟩

/-- A sole user with the password is logged in, and nobody else is. -/
theorem agrees_of_sole (serial : mysql.Serial .start run s)
    (enrols : ∀ step ∈ run, step.event.op.Enrols ∧ none ∉ outcomes step.event.answer)
    (gives : ∀ P, mysql.Gives (login req) s P ↔ LoginOutcome mysql s req ID password P)
    (sole : s.tables.Sole mysql.same ID password) : LoginAgrees mysql run s req ID password := by
  obtain ⟨known, sole⟩ := sole
  constructor
  · intro step member name user signs
    obtain ⟨among, filled⟩ := usersByID_of_signsUp serial enrols member signs
    obtain ⟨only, -⟩ := sole user among filled.passwordStored
    apply (gives _).mpr
    refine ⟨known, ?_⟩
    intro other found ID' stored name' has
    rw [only, List.mem_singleton] at found
    subst found
    cases filled.passwordStored.symm.trans has.passwordStored
    cases filled.nameStored.symm.trans has.nameStored
    rw [if_pos rfl]
    intro token after drawn inserted
    refine ⟨token, drawn, rfl, ?_⟩
    intro unknown
    have stored := (List.mem_filter.mp among).1
    exact (mapsTo_iff drawn (usersByToken_inserted unknown inserted stored)).mpr rfl
  · intro nobody
    apply (gives _).mpr
    refine ⟨known, ?_⟩
    intro user among ID' stored name has
    by_cases same : stored = password
    · subst same
      obtain ⟨-, spelled⟩ := sole user among has.passwordStored
      obtain ⟨step, member, ID'', password, name', signs, filled⟩ :=
        signsUp_of_stored serial enrols (List.mem_filter.mp among).1
      cases filled.IDStored.symm.trans spelled
      cases filled.passwordStored.symm.trans has.passwordStored
      exact absurd signs (nobody step member name' user)
    · rw [if_neg same]
      exact ⟨rfl, rfl⟩

/-- A login that agrees has one user to find. -/
theorem sole_of_agrees (serial : mysql.Serial .start run s)
    (enrols : ∀ step ∈ run, step.event.op.Enrols ∧ none ∉ outcomes step.event.answer)
    (gives : ∀ P, mysql.Gives (login req) s P ↔ LoginOutcome mysql s req ID password P)
    {token : Bytes} (drawn : Drawn 50 token) (unknown : ¬ s.tables.KnowsToken mysql.same token)
    (agrees : LoginAgrees mysql run s req ID password) :
    s.tables.Sole mysql.same ID password := by
  have inserted (user : User) (stored : user ∈ s.tables.user.rows) :
      ∃ after, s.tables.insertToken token user.idx = some after := ⟨_, dif_pos ⟨user, stored, rfl⟩⟩
  by_cases signed : ∃ step ∈ run, ∃ name user, RequestStep.SignsUp step ID password name user
  · obtain ⟨step, member, name, user, signs⟩ := signed
    obtain ⟨among, filled⟩ := usersByID_of_signsUp serial enrols member signs
    obtain ⟨known, each⟩ := (gives _).mp (agrees.accepts step member name user signs)
    have stored := (List.mem_filter.mp among).1
    -- whoever is found first is logged in, and the token leads to the user of the signup
    have one : ∀ other ∈ s.tables.usersByID mysql.same ID, other = user := by
      intro other found
      have there := (List.mem_filter.mp found).1
      obtain ⟨-, -, ID', password', name', -, has⟩ := signsUp_of_stored serial enrols there
      have outcome := each other found ID' password' name' has
      by_cases same : password' = password
      · rw [if_pos same] at outcome
        obtain ⟨after, kept⟩ := inserted other there
        obtain ⟨given, also, sent, maps⟩ := outcome token after drawn kept
        obtain rfl := loginReply_injective drawn also (List.singleton_inj.mp sent)
        have leads :=
          (mapsTo_iff drawn (usersByToken_inserted unknown kept there)).mp (maps unknown)
        exact s.tables.user.eq_of_number_eq there stored leads
      · rw [if_neg same] at outcome
        obtain ⟨given, -, sent, -⟩ := outcome
        exact absurd (List.singleton_inj.mp sent) loginReply_ne
    refine ⟨known, ?_⟩
    intro other found _
    obtain rfl := one other found
    refine ⟨?_, filled.IDStored⟩
    have nodup : (s.tables.usersByID mysql.same ID).Nodup :=
      (s.tables.user.numbers_nodup.of_map _).filter _
    exact Relational.eq_singleton nodup found one
  · have nobody : ∀ step ∈ run, ∀ name user, ¬ RequestStep.SignsUp step ID password name user := by
      intro step member name user signs
      exact signed ⟨step, member, name, user, signs⟩
    obtain ⟨known, each⟩ := (gives _).mp (agrees.refuses nobody)
    refine ⟨known, ?_⟩
    intro user found has
    have there := (List.mem_filter.mp found).1
    obtain ⟨-, -, ID', password', name', -, filled⟩ := signsUp_of_stored serial enrols there
    cases filled.passwordStored.symm.trans has
    have outcome := each user found ID' password name' filled
    rw [if_pos rfl] at outcome
    obtain ⟨after, kept⟩ := inserted user there
    obtain ⟨sent, -⟩ := outcome token after drawn kept
    exact absurd (List.singleton_inj.mp sent).symm loginReply_ne

/-- Signup and login agree on an ID and a password if and only if a user has the ID, and one with
the password is the only one who has it. -/
theorem signup_login_iff (serial : mysql.Serial .start run s)
    (enrols : ∀ step ∈ run, step.event.op.Enrols ∧ none ∉ outcomes step.event.answer)
    (asks : Job.Enrols ⟨.login, req⟩)
    (IDFound : findValue req.parameter (ascii "ID") = .ok (some ID))
    (passwordFound : findValue req.parameter (ascii "password") = .ok (some password))
    (fresh : ∃ token, Drawn 50 token ∧ ¬ s.tables.KnowsToken mysql.same token) :
    LoginAgrees mysql run s req ID password ↔ s.tables.Sole mysql.same ID password := by
  have gives := login_outcome serial enrols asks IDFound passwordFound
  constructor
  · intro agrees
    obtain ⟨token, drawn, unknown⟩ := fresh
    exact sole_of_agrees serial enrols gives drawn unknown agrees
  · intro sole
    exact agrees_of_sole serial enrols gives sole

end Agreement

section Samples

def enrolment (password : String) : Job := ⟨.signup, requestOf
  [("ID", ascii "i"), ("password", ascii password), ("name", ascii "n")]⟩

def enteringRequest (password : String) : Request :=
  requestOf [("ID", ascii "i"), ("password", ascii password)]

theorem enteringRequest_enrols :
    Job.Enrols ⟨.login, enteringRequest "p"⟩ ∧ Job.Enrols ⟨.login, enteringRequest "q"⟩ := by
  decide

/-- The users behind signups with the same ID and these passwords. -/
def enrolledUsers (passwords : List String) : List User :=
  passwords.zipIdx.map fun entry =>
    ⟨entry.2 + 1, some (ascii "n"), some (ascii "i"), some (ascii entry.1)⟩

theorem enrolments_served {passwords : List String}
    (among : passwords = ["p"] ∨ passwords = ["p", "q"]) :
    ∃ run t, Mysql.strict.Serial .start run t ∧
      (∀ step ∈ run, step.event.op.Enrols ∧ none ∉ outcomes step.event.answer) ∧
        t.tables.user.rows = enrolledUsers passwords ∧ t.tables.token = [] := by
  have served : ((Mysql.strict.serveAll [] (passwords.map enrolment) .start).any fun served =>
      decide ((∀ step ∈ served.1, step.event.op.Enrols ∧ none ∉ outcomes step.event.answer) ∧
        served.2.tables.user.rows = enrolledUsers passwords ∧ served.2.tables.token = [])) =
          true := by
    rcases among with rfl | rfl <;> decide +kernel
  rw [Option.any_eq_true] at served
  obtain ⟨⟨run, t⟩, found, same⟩ := served
  exact ⟨run, t, Mysql.serveAll_serial _ _ found, of_decide_eq_true same⟩

theorem fresh_of_none {tables : Tables} (none : tables.token = []) :
    ∃ token, Drawn 50 token ∧ ¬ tables.KnowsToken Mysql.strict.same token := by
  refine ⟨_, drawn_replicate 50, ?_⟩
  intro known
  obtain ⟨row, stored, -⟩ := known
  rw [none] at stored
  cases stored

/-- Neither one who has not signed up nor one whose ID was taken before is answered as he should
be. -/
theorem login_disagrees :
    (Mysql.strict.Serial .start [] .start ∧
      ¬ LoginAgrees .strict [] .start (enteringRequest "p") (ascii "i") (ascii "p")) ∧
    ∃ run t, Mysql.strict.Serial .start run t ∧
      (∀ step ∈ run, step.event.op.Enrols ∧ none ∉ outcomes step.event.answer) ∧
        t.tables.user.rows = enrolledUsers ["p", "q"] ∧
          ¬ LoginAgrees .strict run t (enteringRequest "q") (ascii "i") (ascii "q") := by
  have found : findValue (enteringRequest "p").parameter (ascii "ID") = .ok (some (ascii "i")) ∧
      findValue (enteringRequest "p").parameter (ascii "password") = .ok (some (ascii "p")) ∧
        findValue (enteringRequest "q").parameter (ascii "ID") = .ok (some (ascii "i")) ∧
          findValue (enteringRequest "q").parameter (ascii "password") =
            .ok (some (ascii "q")) := by
    decide
  obtain ⟨IDFound, passwordFound, IDFound', passwordFound'⟩ := found
  constructor
  · have starts : Mysql.strict.Serial .start [] .start := .nil _
    refine ⟨starts, ?_⟩
    intro agrees
    obtain ⟨token, drawn, unknown⟩ := fresh_of_none (show Shared.start.tables.token = [] from rfl)
    have gives := login_outcome starts (by simp) enteringRequest_enrols.1 IDFound passwordFound
    exact (sole_of_agrees starts (by simp) gives drawn unknown agrees).1 rfl
  · obtain ⟨run, t, serial, enrols, users, tokens⟩ := enrolments_served (.inr rfl)
    refine ⟨run, t, serial, enrols, users, ?_⟩
    intro agrees
    obtain ⟨token, drawn, unknown⟩ := fresh_of_none tokens
    have gives := login_outcome serial enrols enteringRequest_enrols.2 IDFound' passwordFound'
    obtain ⟨-, sole⟩ := sole_of_agrees serial enrols gives drawn unknown agrees
    have both : t.tables.usersByID Mysql.strict.same (ascii "i") = enrolledUsers ["p", "q"] := by
      rw [Tables.usersByID, users]
      decide
    rw [both] at sole
    exact absurd sole (by decide)

theorem signup_login_iff_sample : ∃ run t, Mysql.strict.Serial .start run t ∧
    t.tables.user.rows = enrolledUsers ["p"] ∧
      LoginAgrees .strict run t (enteringRequest "p") (ascii "i") (ascii "p") := by
  obtain ⟨run, t, serial, enrols, users, tokens⟩ := enrolments_served (.inl rfl)
  refine ⟨run, t, serial, users, ?_⟩
  apply (signup_login_iff serial enrols enteringRequest_enrols.1 (by decide) (by decide)
    (fresh_of_none tokens)).mpr
  rw [Tables.Sole, Tables.usersByID, users]
  decide

end Samples

end Ttac
