import Ttac.HandlerParameters
import Ttac.Environment

set_option autoImplicit false

/- What a request gets to see and to change whose token is in no row of the token table. -/
namespace Ttac

open Interaction (Program)

variable {σ : Type}

/-- The client gets an error, and the tables and the locations are what they were. -/
structure Refused (before after : Env σ) (reply : Reply) : Prop where
  error : 400 ≤ reply.statusCode
  sent : after.sent = before.sent ++ [reply]
  db : after.db = before.db
  locationList : after.locationList = before.locationList

/-- A `select` for a token without a row succeeds with no rows. -/
def Host.FindsTokens (host : Host σ) (hasToken : σ → Bytes → Prop) : Prop :=
  ∀ connection token db, chr '\'' ∉ token → chr '\\' ∉ token → ¬ hasToken db token →
    host.query connection (Sql.render (userQuery token)) db = (some [], db)

section Runs

variable (host : Host σ) {req : Request}

theorem Refused.sent_ne {before after : Env σ} {reply : Reply}
    (refused : Refused before after reply) : after.sent ≠ before.sent := by
  intro same
  have lengths := congrArg List.length (refused.sent.symm.trans same)
  simp only [List.length_append, List.length_singleton] at lengths
  omega

theorem httpThread_handler {handler : Handler}
    (routed : route req.method req.path = .handler handler) :
    httpThread req = handler.program req >>= fun _ => close := by
  simp only [httpThread, routed]

/-- An unknown token makes `getUserIdx` read a row that is not there. -/
theorem getUserIdx_unknown {hasToken : σ → Bytes → Prop} (finds : host.FindsTokens hasToken)
    {token : Bytes} (noQuote : chr '\'' ∉ token) (noEscape : chr '\\' ∉ token) (env : Env σ)
    (unknown : ¬ hasToken env.db token) (conn : Nat) :
    ∃ fault, (getUserIdx conn token).run host.world env = (.error fault, env) := by
  have rows := finds conn token env.db noQuote noEscape unknown
  cases text : sprintf 256 (Sql.render (userQuery token)) with
  | error fault =>
      have broken : host.world.answer (.mysqlQuery conn 256 (userQuery token)) env =
          (.error fault, env) := by
        simp only [Host.world, Host.answer, text]
      exact ⟨fault, Program.run_call_error host.world broken⟩
  | ok query =>
      obtain ⟨-, rfl⟩ := sprintf_ok text
      have answered : host.world.answer (.mysqlQuery conn 256 (userQuery token)) env =
          (.ok (some []), env) := by
        simp only [Host.world, Host.answer, text, rows]
      exact ⟨.nullPointer, Program.run_call_ok host.world answered⟩

end Runs

/-- Every handler but these three looks the token up before it does anything else. -/
theorem handler_asks {handler : Handler} {req : Request} {token : Bytes}
    (notLogin : handler ≠ .login) (notSignup : handler ≠ .signup)
    (notGetLocation : handler ≠ .getLocation) (accepts : handler.Accepts req)
    (given : findValue req.parameter (ascii "token") = .ok (some token)) :
    ∃ next : Nat → Int → Prog Unit, handler.program req =
      connectionPop >>= fun connection => getUserIdx connection token >>= next connection := by
  obtain ⟨values, optional⟩ := accepts
  cases handler with
  | login => exact absurd rfl notLogin
  | signup => exact absurd rfl notSignup
  | getLocation => exact absurd rfl notGetLocation
  | createGroup =>
      obtain ⟨name, nameFound⟩ := values "name" (by simp [Handler.required])
      simp only [Handler.program, createGroup, findParameter, given, nameFound,
        Program.lift_ok_bind]
      exact ⟨_, rfl⟩
  | groupList =>
      simp only [Handler.program, groupList, findParameter, given, Program.lift_ok_bind]
      exact ⟨_, rfl⟩
  | joinGroup =>
      obtain ⟨group, groupFound⟩ := values "group_id" (by simp [Handler.required])
      obtain ⟨ID, IDFound⟩ := values "ID" (by simp [Handler.required])
      simp only [Handler.program, joinGroup, findParameter, given, groupFound, IDFound,
        Program.lift_ok_bind]
      exact ⟨_, rfl⟩
  | getTodolist =>
      simp only [Handler.program, getTodolist, findParameter, given, Program.lift_ok_bind]
      exact ⟨_, rfl⟩
  | postTodolist =>
      obtain ⟨deadline, deadlineFound⟩ := values "deadline" (by simp [Handler.required])
      obtain ⟨detail, detailFound⟩ := values "detail" (by simp [Handler.required])
      simp only [Handler.program, postTodolist, findParameter, given, deadlineFound, detailFound,
        Program.lift_ok_bind]
      exact ⟨_, rfl⟩
  | getProgress =>
      simp only [Handler.program, getProgress, findParameter, given, Program.lift_ok_bind]
      exact ⟨_, rfl⟩
  | postProgress =>
      obtain ⟨number, numberFound⟩ := values "number" (by simp [Handler.required])
      simp only [Handler.program, postProgress, findParameter, given, numberFound,
        Program.lift_ok_bind]
      exact ⟨_, rfl⟩
  | createChat =>
      obtain ⟨group, groupFound⟩ := values "group_id" (by simp [Handler.required])
      obtain ⟨content, contentFound⟩ := values "content" (by simp [Handler.required])
      simp only [Handler.program, createChat, findParameter, given, groupFound, contentFound,
        Program.lift_ok_bind]
      exact ⟨_, rfl⟩
  | getChatlist =>
      obtain ⟨group, groupFound⟩ := values "group_id" (by simp [Handler.required])
      obtain ⟨latest, latestFound⟩ := optional "latest" (by simp [Handler.optionals])
      simp only [Handler.program, getChatlist, findParameter, given, groupFound, latestFound,
        Program.lift_ok_bind]
      exact ⟨_, rfl⟩
  | postLocation =>
      obtain ⟨latitude, latitudeFound⟩ := values "latitude" (by simp [Handler.required])
      obtain ⟨longitude, longitudeFound⟩ := values "longitude" (by simp [Handler.required])
      simp only [Handler.program, postLocation, findParameter, given, latitudeFound, longitudeFound,
        Program.lift_ok_bind]
      exact ⟨_, rfl⟩

section Runs

variable (host : Host σ) {req : Request} {token : Bytes}

/-- Closing the socket changes nothing. -/
theorem after_httpThread {handler : Handler} (routed : route req.method req.path = .handler handler)
    (env : Env σ) :
    host.after (httpThread req) env = host.after (handler.program req) env := by
  rw [Host.after, httpThread_handler routed, Program.run_bind, Host.after]
  rcases (handler.program req).run host.world env with ⟨fault | value, t⟩ <;> rfl

/-- With an unknown token a handler that asks for it sends nothing. -/
theorem asks_sent {hasToken : σ → Bytes → Prop} (finds : host.FindsTokens hasToken)
    (noQuote : chr '\'' ∉ token) (noEscape : chr '\\' ∉ token) (env : Env σ)
    (unknown : ¬ hasToken env.db token) (next : Nat → Int → Prog Unit) :
    (host.after (connectionPop >>= fun connection =>
      getUserIdx connection token >>= next connection) env).sent = env.sent := by
  obtain ⟨fault, failed⟩ := getUserIdx_unknown host finds noQuote noEscape
    { env with connections := env.connections + 1 } unknown env.connections
  have stopped := Program.run_bind_error host.world (next env.connections) failed
  have popped : host.world.answer .connectionPop env =
      (.ok env.connections, { env with connections := env.connections + 1 }) := rfl
  have run : (connectionPop >>= fun connection =>
      getUserIdx connection token >>= next connection).run host.world env =
        (.error fault, { env with connections := env.connections + 1 }) :=
    (Program.run_call_ok host.world popped).trans stopped
  rw [Host.after, run]

theorem popLocation_run (userId : Bytes) (env : Env σ) :
    (popLocation userId).run host.world env = (popNode env.locationList userId, env) := by
  have answered : host.world.answer (.popLocation userId) env =
      (popNode env.locationList userId, env) := rfl
  cases popped : popNode env.locationList userId with
  | error fault => exact Program.run_call_error host.world (popped ▸ answered)
  | ok location => exact Program.run_call_ok host.world (popped ▸ answered)

/-- `get_location` answers an unknown token like any other. -/
theorem getLocation_sent (accepts : Handler.getLocation.Accepts req) (env : Env σ) :
    (host.after (getLocation req) env).sent = env.sent ∨
      ∃ body, (host.after (getLocation req) env).sent =
        env.sent ++ [⟨200, ascii "OK", req.version, body⟩] := by
  obtain ⟨token, tokenFound⟩ := accepts.1 "token" (by simp [Handler.required])
  obtain ⟨user, userFound⟩ := accepts.1 "user_ID" (by simp [Handler.required])
  simp only [getLocation, findParameter, tokenFound, userFound, Program.lift_ok_bind]
  rw [Host.after, Program.run_bind, popLocation_run]
  cases popNode env.locationList user with
  | error fault => exact .inl rfl
  | ok location =>
      simp only [Program.run_bind, Program.run_lift]
      cases locationReply location with
      | error fault => exact .inl rfl
      | ok body => exact .inr ⟨body, rfl⟩

/-- What the handlers do about an unknown token: only a request that misses another
parameter is refused, and then in every state alike. -/
theorem refused_iff {hasToken : σ → Bytes → Prop} (finds : host.FindsTokens hasToken)
    {handler : Handler} (notLogin : handler ≠ .login) (notSignup : handler ≠ .signup)
    (routed : route req.method req.path = .handler handler)
    (given : findValue req.parameter (ascii "token") = .ok (some token))
    (noQuote : chr '\'' ∉ token) (noEscape : chr '\\' ∉ token) (first second : Env σ)
    (unknown : ¬ hasToken first.db token) :
    (∃ reply, Refused first (host.after (httpThread req) first) reply ∧
        Refused second (host.after (httpThread req) second) reply) ↔
      ∃ key ∈ handler.required, findValue req.parameter (ascii key) = .ok none := by
  rw [after_httpThread host routed, after_httpThread host routed]
  by_cases accepts : handler.Accepts req
  · have present : ¬ ∃ key ∈ handler.required, findValue req.parameter (ascii key) = .ok none := by
      intro ⟨key, member, absent⟩
      obtain ⟨value, found⟩ := accepts.1 key member
      rw [found] at absent
      cases absent
    refine iff_of_false ?_ present
    intro ⟨reply, refused, _⟩
    by_cases location : handler = .getLocation
    · obtain rfl := location
      rcases getLocation_sent host accepts first with silent | ⟨body, sent⟩
      · exact refused.sent_ne silent
      · have same := List.append_cancel_left (refused.sent.symm.trans sent)
        have success : reply.statusCode = 200 := by rw [List.singleton_inj.mp same]
        have error := refused.error
        omega
    · obtain ⟨next, asks⟩ := handler_asks notLogin notSignup location accepts given
      rw [asks] at refused
      exact refused.sent_ne (asks_sent host finds noQuote noEscape first unknown next)
  · rcases handler.rejects req accepts with ⟨missing, absent⟩ | ⟨⟨fault, failed⟩, key, error, read⟩
    · refine iff_of_true ?_ absent
      have error : 400 ≤ (500 : Int) := by decide
      rw [missing]
      exact ⟨_, ⟨error, rfl, rfl, rfl⟩, error, rfl, rfl, rfl⟩
    · refine iff_of_false ?_ ?_
      · intro ⟨reply, refused, _⟩
        rw [failed] at refused
        exact refused.sent_ne rfl
      · intro ⟨other, _, absent⟩
        obtain ⟨value, found⟩ := findValue_keys absent (ascii key)
        rw [found] at read
        cases read

end Runs

section Samples

/-- A database that is a table of tokens, each with the number of its user. -/
def tokenHost : Host (List (Bytes × Bytes)) where
  query _ text db :=
    (some ((db.filter fun row => text = Sql.render (userQuery row.1)).map fun row =>
      [some row.2]), db)
  commit _ db := db
  random _ := 0
  clock _ := ⟨0, 0, 0, 0, 0, 0⟩

theorem userQuery_injective {first second : Bytes}
    (same : Sql.render (userQuery first) = Sql.render (userQuery second)) : first = second := by
  simp only [Sql.render, userQuery, sql, List.flatMap_cons, List.flatMap_nil, Sql.Piece.render,
    List.append_nil] at same
  have quoted := List.append_cancel_left same
  exact List.append_cancel_right (List.cons.inj quoted).2

theorem tokenHost_finds : tokenHost.FindsTokens fun db token => ∃ row ∈ db, row.1 = token := by
  intro connection token db noQuote noEscape unknown
  have none : db.filter (fun row => Sql.render (userQuery token) = Sql.render (userQuery row.1)) =
      [] := by
    rw [List.filter_eq_nil_iff]
    intro row member same
    exact unknown ⟨row, member, (userQuery_injective (of_decide_eq_true same)).symm⟩
  simp only [tokenHost, none, List.map_nil]

def sampleEnv : Env (List (Bytes × Bytes)) :=
  ⟨[(ascii "abc", ascii "7")], [⟨some (ascii "7"), ascii "1.5|2.5"⟩], 0, 0, []⟩

def sampleRequest (target : String) (parameter : List Node) : Request :=
  ⟨ascii "GET", ascii target, ascii "HTTP/1.1", [], none, parameter⟩

theorem sampleEnv_unknown : ¬ ∃ row ∈ sampleEnv.db, row.1 = ascii "x" := by decide

def joinRequest : Request := sampleRequest "/join_group?token=x" [⟨some (ascii "token"), ascii "x"⟩]

theorem refused_iff_joinGroup :
    (∃ reply, Refused sampleEnv (tokenHost.after (httpThread joinRequest) sampleEnv) reply ∧
        Refused sampleEnv (tokenHost.after (httpThread joinRequest) sampleEnv) reply) ↔
      ∃ key ∈ Handler.joinGroup.required,
        findValue joinRequest.parameter (ascii key) = .ok none :=
  refused_iff tokenHost tokenHost_finds (by decide) (by decide) (by decide) rfl (by decide)
    (by decide) sampleEnv sampleEnv sampleEnv_unknown

def locationRequest : Request :=
  sampleRequest "/location?token=x&user_ID=7"
    [⟨some (ascii "token"), ascii "x"⟩, ⟨some (ascii "user_ID"), ascii "7"⟩]

/-- An unknown token is told where user 7 is. -/
theorem location_revealed :
    ¬ ∃ reply, Refused sampleEnv (tokenHost.after (httpThread locationRequest) sampleEnv) reply ∧
      Refused { sampleEnv with locationList := [] }
        (tokenHost.after (httpThread locationRequest) { sampleEnv with locationList := [] })
        reply := by
  intro ⟨reply, refused, _⟩
  have sent : (tokenHost.after (httpThread locationRequest) sampleEnv).sent =
      [⟨200, ascii "OK", ascii "HTTP/1.1", locationBody (ascii "1.5") (ascii "2.5")⟩] := by
    decide
  have success : reply = ⟨200, ascii "OK", ascii "HTTP/1.1",
      locationBody (ascii "1.5") (ascii "2.5")⟩ :=
    List.singleton_inj.mp (refused.sent.symm.trans sent)
  have error := refused.error
  rw [success] at error
  exact absurd error (by decide)

end Samples

end Ttac
