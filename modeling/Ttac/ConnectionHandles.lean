import Ttac.Connections
import Ttac.OwnConnection
import Ttac.SerialRequests

set_option autoImplicit false

/- The connections as addresses: `connection_pop` allocates a `MYSQL` and opens a session on it,
`connection_push` closes the session and frees the `MYSQL`, and the address may be given out again.
Each request works on an address of its own, and for all that is answered and stored the addresses
are as good as numbers that are never given out again. -/
namespace Ttac

open Interaction (Program Exchange Status Interleaved Linked Transition eventsOf)
open Sql (Piece)

/-- What the requests share, with the session that is open on each allocated `MYSQL`. -/
structure Handles where
  shared : Shared
  session : Nat → Option Nat

/-- Nothing is allocated. -/
def Handles.start (shared : Shared) : Handles := ⟨shared, fun _ => none⟩

/-- The rules of the environment with addresses: `malloc` gives one that is not in use, and a call
on an address that is not in use is not answered. -/
def Mysql.HandleAnswers (mysql : Mysql) : (call : Call) → Answer call → Handles → Handles → Prop
  | .connectionPop, address, s, t => s.session address = none ∧
      ∃ number shared, mysql.Answers .connectionPop number s.shared shared ∧
        t = ⟨shared, Function.update s.session address (some number)⟩
  | .mysqlQuery address capacity pieces, outcome, s, t => ∃ number shared,
      s.session address = some number ∧
        mysql.Answers (.mysqlQuery number capacity pieces) outcome s.shared shared ∧
          t = ⟨shared, s.session⟩
  | .connectionPush address, _, s, t => ∃ number, s.session address = some number ∧
      t = ⟨s.shared, Function.update s.session address none⟩
  | .mysqlCommit address, _, s, t => ∃ number, s.session address = some number ∧ t = s
  | .mysqlError address, _, s, t => ∃ number, s.session address = some number ∧ t = s
  | call, answer, s, t => ∃ shared, mysql.Answers call answer s.shared shared ∧
      t = ⟨shared, s.session⟩

/-- The call neither opens a connection nor is made on one, nor does it close the socket. -/
def Call.Free : Call → Prop
  | .connectionPop | .connectionPush _ | .mysqlQuery _ _ _ | .mysqlCommit _ | .mysqlError _
  | .close => False
  | _ => True

/-- Two programs that do the same on two connections, which each of them pushes once at the most and
does not use behind that. -/
inductive Alike {α : Type} (first second : Nat) : Bool → Prog α → Prog α → Prop where
  | done {pushed : Bool} (value : α) : Alike first second pushed (.done value) (.done value)
  | fail {pushed : Bool} (fault : Fault) : Alike first second pushed (.fail fault) (.fail fault)
  | query {capacity : Nat} {pieces : List Piece} {next other : Option (List Row) → Prog α}
      (later : ∀ outcome, Alike first second false (next outcome) (other outcome)) :
      Alike first second false (.call (.mysqlQuery first capacity pieces) next)
        (.call (.mysqlQuery second capacity pieces) other)
  | commit {next other : Unit → Prog α}
      (later : Alike first second false (next ()) (other ())) :
      Alike first second false (.call (.mysqlCommit first) next) (.call (.mysqlCommit second) other)
  | error {next other : Unit → Prog α}
      (later : Alike first second false (next ()) (other ())) :
      Alike first second false (.call (.mysqlError first) next) (.call (.mysqlError second) other)
  | push {next other : Unit → Prog α}
      (later : Alike first second true (next ()) (other ())) :
      Alike first second false (.call (.connectionPush first) next)
        (.call (.connectionPush second) other)
  | free {pushed : Bool} {op : Call} {next other : Answer op → Prog α} (free : op.Free)
      (later : ∀ answer, Alike first second pushed (next answer) (other answer)) :
      Alike first second pushed (.call op next) (.call op other)

/-- A program that opens one connection at the most, and does the same on every connection. -/
inductive Pooled {α : Type} : Prog α → Prop where
  | done (value : α) : Pooled (.done value)
  | fail (fault : Fault) : Pooled (.fail fault)
  | pop {next : Nat → Prog α} (later : ∀ first second,
      Alike first second false (next first) (next second)) : Pooled (.call .connectionPop next)
  | free {op : Call} {next : Answer op → Prog α} (free : op.Free)
      (later : ∀ answer, Pooled (next answer)) : Pooled (.call op next)

section Programs

variable {α : Type} {first second : Nat} {pushed : Bool} {req : Request}

theorem Alike.lift {β : Type} {result : Except Fault β} {next other : β → Prog α}
    (later : ∀ value, result = .ok value →
      Alike first second pushed (next value) (other value)) :
    Alike first second pushed (Program.lift result >>= next) (Program.lift result >>= other) := by
  cases result with
  | ok value => exact later value rfl
  | error fault => exact .fail fault

theorem Alike.ite {p : Prop} [Decidable p] {one two one' two' : Prog α}
    (yes : p → Alike first second pushed one one')
    (no : ¬ p → Alike first second pushed two two') :
    Alike first second pushed (if p then one else two) (if p then one' else two') := by
  by_cases holds : p
  · rw [if_pos holds, if_pos holds]
    exact yes holds
  · rw [if_neg holds, if_neg holds]
    exact no holds

theorem Alike.respond {statusCode : Int} {statusMsg : String} {body : Bytes} :
    Alike first second pushed (respond req statusCode statusMsg body)
      (respond req statusCode statusMsg body) := .free trivial fun _ => .done ()

theorem Alike.serverErrer :
    Alike first second false (serverErrer req first) (serverErrer req second) :=
  .error .respond

theorem createToken_succ_bind (left : Nat) (next : Bytes → Prog α) :
    createToken (left + 1) >>= next = rand >>= fun r => createToken left >>= fun rest =>
      next (tokenChar (r % 62) :: rest) := by
  rw [Ttac.createToken, Program.bind_bind]
  congr 1
  funext r
  rw [Program.bind_bind]
  rfl

theorem Alike.createToken {next other : Bytes → Prog α} (left : Nat)
    (later : ∀ token, Alike first second pushed (next token) (other token)) :
    Alike first second pushed (createToken left >>= next) (createToken left >>= other) := by
  induction left generalizing next other with
  | zero => exact later []
  | succ left ih =>
      rw [createToken_succ_bind, createToken_succ_bind]
      exact .free (show Call.Free .rand from trivial) fun r => ih fun rest => later _

theorem Alike.localtime {next other : Tm → Prog α}
    (later : ∀ tm, Alike first second pushed (next tm) (other tm)) :
    Alike first second pushed (Ttac.localtime >>= next) (Ttac.localtime >>= other) :=
  .free (show Call.Free .localtime from trivial) later

theorem Alike.getNow {next other : Bytes → Prog α}
    (later : ∀ now, Alike first second pushed (next now) (other now)) :
    Alike first second pushed (Ttac.getNow >>= next) (Ttac.getNow >>= other) := by
  rw [Ttac.getNow, Program.bind_bind, Program.bind_bind]
  apply Alike.localtime
  intro tm
  exact .lift fun now _ => later now

theorem Alike.getUserIdx {token : Bytes} {next other : Int → Prog α}
    (later : ∀ idx, Alike first second false (next idx) (other idx)) :
    Alike first second false (getUserIdx first token >>= next)
      (getUserIdx second token >>= other) := by
  rw [getUserIdx_bind, getUserIdx_bind]
  refine .query fun outcome => ?_
  cases outcome with
  | none => exact later (-1)
  | some rows => exact .lift fun idx _ => later (atoi idx)

theorem Alike.getUserIdxByID {ID : Bytes} {next other : Int → Prog α}
    (later : ∀ idx, Alike first second false (next idx) (other idx)) :
    Alike first second false (getUserIdxByID first ID >>= next)
      (getUserIdxByID second ID >>= other) := by
  rw [getUserIdxByID_bind, getUserIdxByID_bind]
  refine .query fun outcome => ?_
  match outcome with
  | none => exact later (-1)
  | some [] => exact later (-1)
  | some (row :: _) => exact .lift fun idx _ => later (atoi idx)

/-- The body is written, the connection pushed, and the reply sent. -/
theorem Alike.pushRespond {text : Except Fault Bytes} :
    Alike first second false
      (Program.lift text >>= fun body => connectionPush first >>= fun _ =>
        Ttac.respond req 200 "OK" body)
      (Program.lift text >>= fun body => connectionPush second >>= fun _ =>
        Ttac.respond req 200 "OK" body) := by
  apply Alike.lift
  intro body _
  exact .push .respond

theorem Alike.respondRows {capacity : Nat} {query : List Piece} {tmp : Row → Except Fault Bytes} :
    Alike first second false (respondRows req first capacity query tmp)
      (respondRows req second capacity query tmp) := by
  refine .query fun outcome => ?_
  cases outcome with
  | none => exact .serverErrer
  | some rows => exact .pushRespond

/-- A handler that looks its token up and goes on only if there is a user. -/
theorem Alike.start {token : Bytes} {next other : Int → Prog Unit}
    (later : ∀ idx, Alike first second false (next idx) (other idx)) :
    Alike first second false
      (Ttac.getUserIdx first token >>= fun idx =>
        if idx = -1 then Ttac.serverErrer req first else next idx)
      (Ttac.getUserIdx second token >>= fun idx =>
        if idx = -1 then Ttac.serverErrer req second else other idx) :=
  .getUserIdx fun idx => .ite (fun _ => .serverErrer) fun _ => later idx

/-- Every handler opens one connection at the most, which no call but its own depends on. -/
theorem handler_pooled (handler : Handler) (req : Request) : Pooled (handler.program req) := by
  by_cases accepts : handler.Accepts req
  · cases accepts.given with
    | signup IDFound passwordFound nameFound =>
        simp only [Handler.program, signup, findParameter, IDFound, passwordFound, nameFound,
          Program.lift_ok_bind]
        refine .pop fun first second => .query fun outcome => ?_
        cases outcome with
        | none => exact .lift fun body _ => .respond
        | some rows => exact .commit (.push (.lift fun body _ => .respond))
    | login IDFound passwordFound =>
        simp only [Handler.program, login, findParameter, IDFound, passwordFound,
          Program.lift_ok_bind]
        refine .pop fun first second => .query fun outcome => ?_
        cases outcome with
        | none => exact .serverErrer
        | some rows =>
            refine .lift fun stored _ => .ite (fun _ => ?_) fun _ => ?_
            · apply Alike.createToken
              intro token
              refine .lift fun idx _ => .query fun inserted => ?_
              cases inserted with
              | none => exact .serverErrer
              | some _ =>
                  exact .lift fun name _ => .lift fun name _ => .push (.lift fun body _ => .respond)
            · exact .push (.lift fun body _ => .respond)
    | createGroup nameFound tokenFound =>
        simp only [Handler.program, createGroup, findParameter, nameFound, tokenFound,
          Program.lift_ok_bind]
        refine .pop fun first second => .start fun idx => .query fun outcome => ?_
        cases outcome with
        | none => exact .serverErrer
        | some _ =>
            refine .query fun outcome => ?_
            cases outcome with
            | none => exact .serverErrer
            | some rows =>
                refine .lift fun groupIdx _ => .query fun outcome => ?_
                cases outcome with
                | none => exact .serverErrer
                | some _ => exact .commit (.push (.lift fun body _ => .respond))
    | groupList tokenFound =>
        simp only [Handler.program, groupList, findParameter, tokenFound, Program.lift_ok_bind]
        exact .pop fun first second => .start fun idx => .respondRows
    | joinGroup tokenFound groupFound IDFound =>
        simp only [Handler.program, joinGroup, findParameter, tokenFound, groupFound, IDFound,
          Program.lift_ok_bind]
        refine .pop fun first second => .getUserIdx fun idx => .getUserIdxByID fun useridx => ?_
        refine .ite (fun _ => .serverErrer) fun _ => .ite (fun _ => .lift fun body _ => .respond) ?_
        refine fun _ => .query fun outcome => ?_
        cases outcome with
        | none => exact .serverErrer
        | some rows =>
            cases rows with
            | nil => exact .lift fun body _ => .respond
            | cons _ _ =>
                refine .query fun outcome => ?_
                cases outcome with
                | none => exact .serverErrer
                | some _ => exact .lift fun body _ => .respond
    | getTodolist tokenFound =>
        simp only [Handler.program, getTodolist, findParameter, tokenFound, Program.lift_ok_bind]
        exact .pop fun first second => .start fun idx => .respondRows
    | postTodolist tokenFound deadlineFound detailFound =>
        simp only [Handler.program, postTodolist, findParameter, tokenFound, deadlineFound,
          detailFound, Program.lift_ok_bind]
        refine .pop fun first second => .start fun idx => .query fun outcome => ?_
        cases outcome with
        | none => exact .error .pushRespond
        | some _ => exact .pushRespond
    | getProgress tokenFound =>
        simp only [Handler.program, getProgress, findParameter, tokenFound, Program.lift_ok_bind]
        refine .pop fun first second => .start fun idx => .query fun outcome => ?_
        cases outcome with
        | none => exact .serverErrer
        | some rows =>
            cases rows with
            | nil => exact .pushRespond
            | cons row _ => exact .lift fun number _ => .pushRespond
    | postProgress tokenFound numberFound =>
        simp only [Handler.program, postProgress, findParameter, tokenFound, numberFound,
          Program.lift_ok_bind]
        refine .pop fun first second => .start fun idx => .query fun outcome => ?_
        cases outcome with
        | none => exact .serverErrer
        | some rows => exact .query fun outcome => .pushRespond
    | createChat tokenFound groupFound contentFound =>
        simp only [Handler.program, createChat, findParameter, tokenFound, groupFound,
          contentFound, Program.lift_ok_bind]
        refine .pop fun first second => .start fun idx => .query fun _ => .query fun outcome => ?_
        cases outcome with
        | none => exact .serverErrer
        | some rows =>
            refine .lift fun found _ => .getNow fun now => .query fun outcome => ?_
            cases outcome with
            | none => exact .serverErrer
            | some _ => exact .pushRespond
    | getChatlist tokenFound groupFound latestFound =>
        simp only [Handler.program, getChatlist, findParameter, tokenFound, groupFound,
          latestFound, Program.lift_ok_bind]
        exact .pop fun first second => .start fun idx => .query fun _ => .respondRows
    | getLocation tokenFound userFound =>
        simp only [Handler.program, getLocation, findParameter, tokenFound, userFound,
          Program.lift_ok_bind]
        refine .free (show Call.Free (.popLocation _) from trivial) fun location => ?_
        change Pooled (Program.lift (locationReply location) >>= fun body =>
          respond req 200 "OK" body)
        cases locationReply location with
        | ok body => exact .free trivial fun _ => .done ()
        | error fault => exact .fail fault
    | postLocation tokenFound latitudeFound longitudeFound =>
        simp only [Handler.program, postLocation, findParameter, tokenFound, latitudeFound,
          longitudeFound, Program.lift_ok_bind]
        refine .pop fun first second => .getUserIdx fun idx => .lift fun num _ => ?_
        exact .free (show Call.Free (.pushLocation _ _ _) from trivial) fun _ => .pushRespond
  · cases handler.rejects req accepts with
    | inl rejected =>
        rw [rejected.1]
        exact .free trivial fun _ => .done ()
    | inr rejected =>
        obtain ⟨fault, program⟩ := rejected.1
        rw [program]
        exact .fail fault

theorem Call.Free.staysOpen {op : Call} (free : op.Free) : op ≠ .close := by
  intro same
  subst same
  exact free

theorem Alike.leavesOpen {program other : Prog α}
    (alike : Alike first second pushed program other) :
    program.Always (· ≠ .close) := by
  induction alike with
  | done => exact trivial
  | fail => exact trivial
  | query _ ih => exact ⟨nofun, ih⟩
  | commit _ ih => exact ⟨nofun, fun _ => ih⟩
  | error _ ih => exact ⟨nofun, fun _ => ih⟩
  | push _ ih => exact ⟨nofun, fun _ => ih⟩
  | free free _ ih => exact ⟨free.staysOpen, ih⟩

theorem Pooled.leavesOpen {program : Prog α} (pooled : Pooled program) :
    program.Always (· ≠ .close) := by
  induction pooled with
  | done => exact trivial
  | fail => exact trivial
  | pop later => exact ⟨nofun, fun connection => (later connection connection).leavesOpen⟩
  | free free _ ih => exact ⟨free.staysOpen, ih⟩

end Programs

/-- The requests have made the calls of the run, on connections that are addresses. -/
abbrev HandleServed (mysql : Mysql) (jobs : Nat → Job) (start : Shared)
    (run : Interaction.Run Call Answer Handles) (threads : Nat → Prog Unit) (s : Handles) : Prop :=
  Interleaved mysql.HandleAnswers (fun thread => (jobs thread).program) (.start start) run threads s

/-- The connection that is held behind one more call. -/
def heldBehind (held : Option Nat) : Exchange Call Answer → Option Nat
  | ⟨.connectionPop, connection⟩ => some connection
  | ⟨.connectionPush _, _⟩ => none
  | _ => held

/-- The connection that was popped and has not been pushed. -/
def heldConnection (events : History) : Option Nat := events.foldl heldBehind none

/-- A call with its connections made alike. -/
def unnumbered : Exchange Call Answer → Exchange Call Answer
  | ⟨.connectionPop, _⟩ => ⟨.connectionPop, (0 : Nat)⟩
  | ⟨.connectionPush _, answer⟩ => ⟨.connectionPush 0, answer⟩
  | ⟨.mysqlQuery _ capacity pieces, outcome⟩ => ⟨.mysqlQuery 0 capacity pieces, outcome⟩
  | ⟨.mysqlCommit _, answer⟩ => ⟨.mysqlCommit 0, answer⟩
  | ⟨.mysqlError _, answer⟩ => ⟨.mysqlError 0, answer⟩
  | event => event

/-- How a thread has ended, if it has. -/
def ended : Status Call Fault Unit → Option (Except Fault Unit)
  | .calling _ => none
  | .returned value => some (.ok value)
  | .failed fault => some (.error fault)

/-- Who has made which call, and what it was answered. -/
def observed {σ : Type} (run : Interaction.Run Call Answer σ) : List (Nat × Exchange Call Answer) :=
  run.map fun step => (step.thread, unnumbered step.event)

section Calls

variable {mysql : Mysql} {op : Call} {answer : Answer op} {s t : Handles}

theorem heldBehind_free (free : op.Free) (held : Option Nat) :
    heldBehind held ⟨op, answer⟩ = held := by
  cases op <;> first | rfl | exact free.elim

theorem handleAnswers_free (free : op.Free) : mysql.HandleAnswers op answer s t ↔
    ∃ shared, mysql.Answers op answer s.shared shared ∧ t = ⟨shared, s.session⟩ := by
  cases op <;> first | exact Iff.rfl | exact free.elim

end Calls

/-- What a thread with an address and a thread with a number have before them. -/
inductive Matches (s : Handles) : Option Nat → Prog Unit → Prog Unit → Prop where
  | unopened {program : Prog Unit} (pooled : Pooled program) : Matches s none program program
  | opened {address number : Nat} {program other : Prog Unit}
      (session : s.session address = some number)
      (alike : Alike address number false program other) :
      Matches s (some address) program other
  | pushed {address number : Nat} {program other : Prog Unit}
      (alike : Alike address number true program other) : Matches s none program other

/-- The requests with addresses and those with numbers go along with each other, and each address
in use is held by one thread. -/
structure Along (s : Handles) (held : Nat → Option Nat) (threads others : Nat → Prog Unit) :
    Prop where
  along : ∀ thread, Matches s (held thread) (threads thread) (others thread)
  own : ∀ first second address, held first = some address → held second = some address →
    first = second
  holder : ∀ address number, s.session address = some number → ∃ thread, held thread = some address

section Steps

variable {mysql : Mysql} {s t : Handles} {held : Nat → Option Nat}
  {threads others : Nat → Prog Unit} {thread : Nat} {x : Option Nat} {program other : Prog Unit}
  {op : Call} {answer : Answer op}

theorem Matches.moved (before : Matches s x program other)
    (session : ∀ address, x = some address → t.session address = s.session address) :
    Matches t x program other := by
  cases before with
  | unopened pooled => exact .unopened pooled
  | opened found alike => exact .opened ((session _ rfl).trans found) alike
  | pushed alike => exact .pushed alike

theorem Matches.ended (here : Matches s x program other) :
    ended other.status = Ttac.ended program.status := by
  cases here with
  | unopened => rfl
  | opened _ alike => cases alike <;> rfl
  | pushed alike => cases alike <;> rfl

theorem Call.Free.unused {address : Nat} (free : op.Free) : ¬ op.Uses address := by
  intro uses
  cases op <;> first | exact uses | exact free

/-- The next call is on the connection that is held. -/
theorem Matches.uses {address : Nat} (here : Matches s x program other)
    (calling : program.status = .calling op) (uses : op.Uses address) : x = some address := by
  cases here with
  | unopened pooled =>
      cases pooled with
      | done => cases calling
      | fail => cases calling
      | pop => cases calling; exact uses.elim
      | free free => cases calling; exact absurd uses free.unused
  | opened _ alike =>
      cases alike with
      | done => cases calling
      | fail => cases calling
      | free free => cases calling; exact absurd uses free.unused
      | _ => cases calling; exact congrArg some uses
  | pushed alike =>
      cases alike with
      | done => cases calling
      | fail => cases calling
      | free free => cases calling; exact absurd uses free.unused

/-- One thread goes on; the addresses of the others stay in use. -/
theorem Along.moved (along : Along s held threads others) (here : Matches t x program other)
    (elsewhere : ∀ i, i ≠ thread → ∀ address, held i = some address →
      t.session address = s.session address ∧ x ≠ some address)
    (holder : ∀ address number, t.session address = some number →
      x = some address ∨ ∃ i, i ≠ thread ∧ held i = some address) :
    Along t (Function.update held thread x) (Function.update threads thread program)
      (Function.update others thread other) where
  along := by
    intro i
    by_cases own : i = thread
    · subst own
      simp only [Function.update_self]
      exact here
    · simp only [Function.update_of_ne own]
      exact (along.along i).moved fun address holds => (elsewhere i own address holds).1
  own := by
    intro i j address left right
    by_cases first : i = thread
    · subst first
      rw [Function.update_self] at left
      by_cases second : j = i
      · exact second.symm
      · rw [Function.update_of_ne second] at right
        exact absurd left (elsewhere j second address right).2
    · rw [Function.update_of_ne first] at left
      by_cases second : j = thread
      · subst second
        rw [Function.update_self] at right
        exact absurd right (elsewhere i first address left).2
      · rw [Function.update_of_ne second] at right
        exact along.own i j address left right
  holder := by
    intro address number found
    rcases holder address number found with same | ⟨i, own, holds⟩
    · exact ⟨thread, by rw [Function.update_self, same]⟩
    · exact ⟨i, by rw [Function.update_of_ne own, holds]⟩

/-- A call that changes nothing about the addresses. -/
theorem Along.kept (along : Along s held threads others) (session : t.session = s.session)
    (here : Matches t (held thread) program other) :
    Along t (Function.update held thread (held thread)) (Function.update threads thread program)
      (Function.update others thread other) := by
  apply along.moved here
  · intro i own address holds
    refine ⟨by rw [session], ?_⟩
    intro same
    exact own (along.own i thread address holds same)
  · intro address number found
    rw [session] at found
    obtain ⟨i, holds⟩ := along.holder address number found
    by_cases own : i = thread
    · subst own
      exact .inl holds
    · exact .inr ⟨i, own, holds⟩

/-- The thread with a number makes the call of the thread with an address, and is answered
alike. -/
def Along.Follows (mysql : Mysql) (s t : Handles) (held : Nat → Option Nat)
    (threads others : Nat → Prog Unit) (thread : Nat) (event : Exchange Call Answer)
    (program : Prog Unit) : Prop :=
  ∃ numbered given rest, others thread = .call numbered rest ∧
    mysql.Answers numbered given s.shared t.shared ∧
      unnumbered ⟨numbered, given⟩ = unnumbered event ∧
      Along t (Function.update held thread (heldBehind (held thread) event))
        (Function.update threads thread program) (Function.update others thread (rest given))

theorem Along.follows_free (along : Along s held threads others) (free : op.Free)
    (answered : mysql.HandleAnswers op answer s t) {rest : Answer op → Prog Unit}
    (same : others thread = .call op rest) (later : Matches s (held thread) program (rest answer)) :
    Along.Follows mysql s t held threads others thread ⟨op, answer⟩ program := by
  obtain ⟨shared, answers, state⟩ := (handleAnswers_free free).mp answered
  subst state
  refine ⟨op, answer, rest, same, answers, rfl, ?_⟩
  rw [heldBehind_free free]
  exact along.kept rfl (later.moved fun _ _ => rfl)

theorem Along.in_use (along : Along s held threads others) {address : Nat}
    (holds : held thread = some address) : ∃ number, s.session address = some number := by
  have here := along.along thread
  rw [holds] at here
  cases here with
  | opened session alike => exact ⟨_, session⟩

/-- A new address is nobody else's. -/
theorem Along.popped (along : Along s held threads others) {address number : Nat} {shared : Shared}
    (fresh : s.session address = none) (empty : held thread = none)
    (here : Matches ⟨shared, Function.update s.session address (some number)⟩ (some address)
      program other) :
    Along ⟨shared, Function.update s.session address (some number)⟩
      (Function.update held thread (some address)) (Function.update threads thread program)
      (Function.update others thread other) := by
  apply along.moved here
  · intro i _ place holds
    obtain ⟨given, session⟩ := along.in_use holds
    have differs : place ≠ address := by
      intro equal
      rw [equal, fresh] at session
      cases session
    exact ⟨Function.update_of_ne differs _ _, fun equal => differs (Option.some.inj equal).symm⟩
  · intro place given session
    dsimp only at session
    by_cases equal : place = address
    · exact .inl (congrArg some equal.symm)
    · rw [Function.update_of_ne equal] at session
      obtain ⟨i, holds⟩ := along.holder place given session
      refine .inr ⟨i, ?_, holds⟩
      intro own
      rw [own, empty] at holds
      cases holds

/-- An address that is freed was nobody else's. -/
theorem Along.freed (along : Along s held threads others) {address : Nat}
    (mine : held thread = some address)
    (here : Matches ⟨s.shared, Function.update s.session address none⟩ none program other) :
    Along ⟨s.shared, Function.update s.session address none⟩ (Function.update held thread none)
      (Function.update threads thread program) (Function.update others thread other) := by
  apply along.moved here
  · intro i foreign place holds
    have differs : place ≠ address := by
      intro equal
      rw [equal] at holds
      exact foreign (along.own i thread address holds mine)
    exact ⟨Function.update_of_ne differs _ _, nofun⟩
  · intro place given session
    dsimp only at session
    by_cases equal : place = address
    · rw [equal, Function.update_self] at session
      cases session
    · rw [Function.update_of_ne equal] at session
      obtain ⟨i, holds⟩ := along.holder place given session
      refine .inr ⟨i, ?_, holds⟩
      intro own
      rw [own, mine] at holds
      exact equal (Option.some.inj holds).symm

/-- Each call on addresses is a call on numbers with the same answer. -/
theorem Along.step (along : Along s held threads others) {next : Answer op → Prog Unit}
    (calls : threads thread = .call op next) (answered : mysql.HandleAnswers op answer s t) :
    Along.Follows mysql s t held threads others thread ⟨op, answer⟩ (next answer) := by
  have here := along.along thread
  rw [calls] at here
  generalize holds : held thread = place at here
  generalize same : others thread = other at here
  cases here with
  | unopened pooled =>
      cases pooled with
      | @pop next later =>
          obtain ⟨fresh, number, shared, answers, state⟩ := answered
          subst state
          exact ⟨.connectionPop, number, next, same, answers, rfl, along.popped fresh holds
            (.opened (Function.update_self ..) (later answer number))⟩
      | free free later =>
          refine along.follows_free free answered same ?_
          rw [holds]
          exact .unopened (later answer)
  | @opened address number _ _ session alike =>
      cases alike with
      | @query capacity pieces _ rest later =>
          obtain ⟨given, shared, found, answers, state⟩ := answered
          subst state
          cases session.symm.trans found
          refine ⟨.mysqlQuery number capacity pieces, answer, rest, same, answers, rfl, ?_⟩
          refine along.kept (t := ⟨shared, s.session⟩) rfl ?_
          rw [holds]
          exact .opened session (later answer)
      | @commit _ rest later =>
          obtain ⟨given, found, state⟩ := answered
          subst state
          refine ⟨.mysqlCommit number, (), rest, same, rfl, rfl, ?_⟩
          apply along.kept rfl
          rw [holds]
          exact .opened session later
      | @error _ rest later =>
          obtain ⟨given, found, state⟩ := answered
          subst state
          refine ⟨.mysqlError number, (), rest, same, rfl, rfl, ?_⟩
          apply along.kept rfl
          rw [holds]
          exact .opened session later
      | @push _ rest later =>
          obtain ⟨given, found, state⟩ := answered
          subst state
          exact ⟨.connectionPush number, (), rest, same, rfl, rfl,
            along.freed holds (.pushed later)⟩
      | free free later =>
          refine along.follows_free free answered same ?_
          rw [holds]
          exact .opened session (later answer)
  | pushed alike =>
      cases alike with
      | free free later =>
          refine along.follows_free free answered same ?_
          rw [holds]
          exact .pushed (later answer)

end Steps

section Runs

variable {mysql : Mysql} {jobs : Nat → Job} {start : Shared}
  {run : Interaction.Run Call Answer Handles} {threads : Nat → Prog Unit} {s t : Handles}

theorem heldConnection_append (thread i : Nat) (event : Exchange Call Answer) :
    heldConnection (eventsOf i (run ++ [⟨thread, event, s, t⟩])) =
      Function.update (fun j => heldConnection (eventsOf j run)) thread
        (heldBehind (heldConnection (eventsOf thread run)) event) i := by
  rw [Interaction.eventsOf_append]
  by_cases own : i = thread
  · subst own
    have last : eventsOf i [⟨i, event, s, t⟩] = [event] := by simp [eventsOf]
    rw [last, Function.update_self, heldConnection, List.foldl_append]
    rfl
  · have none : eventsOf i [⟨thread, event, s, t⟩] = ([] : History) := by
      simp [eventsOf, Ne.symm own]
    rw [none, List.append_nil, Function.update_of_ne own]

theorem along_start (jobs : Nat → Job) (start : Shared) :
    Along (.start start) (fun _ => none) (fun thread => (jobs thread).program)
      fun thread => (jobs thread).program where
  along _ := .unopened (handler_pooled _ _)
  own := nofun
  holder := nofun

/-- A run on addresses goes along with one on numbers. -/
theorem HandleServed.along (served : HandleServed mysql jobs start run threads s) :
    ∃ numbered others, Served mysql jobs start numbered others s.shared ∧
      observed numbered = observed run ∧
        Along s (fun thread => heldConnection (eventsOf thread run)) threads others := by
  induction served with
  | nil => exact ⟨[], _, .nil, rfl, along_start jobs start⟩
  | @step run threads s t thread op next answer _ calls answered ih =>
      obtain ⟨numbered, others, before, same, along⟩ := ih
      obtain ⟨call, given, rest, calling, answers, alike, after⟩ := along.step calls answered
      refine ⟨_, _, before.step calling answers, ?_, ?_⟩
      · rw [observed, List.map_append, ← observed, same, observed, observed, List.map_append]
        simp only [List.map_cons, List.map_nil, alike]
      · rw [funext fun i => heldConnection_append thread i ⟨op, answer⟩]
        exact after

/-- Whatever addresses are given out again, an open connection is held by one thread, which has
popped it and not pushed it, and a thread goes on with the connection it holds: none is used behind
its push, pushed twice or used by another thread. -/
theorem connection_owned (served : HandleServed mysql jobs start run threads s) :
    (∀ address, (∃ number, s.session address = some number) ↔
      ∃! thread, heldConnection (eventsOf thread run) = some address) ∧
    ∀ thread op address, (threads thread).status = .calling op → op.Uses address →
      heldConnection (eventsOf thread run) = some address := by
  obtain ⟨numbered, others, -, -, along⟩ := served.along
  constructor
  · intro address
    constructor
    · intro used
      obtain ⟨number, session⟩ := used
      obtain ⟨thread, holds⟩ := along.holder address number session
      exact ⟨thread, holds, fun other also => along.own other thread address also holds⟩
    · intro held
      obtain ⟨thread, holds, -⟩ := held
      exact along.in_use holds
  · intro thread op address calling uses
    exact (along.along thread).uses calling uses

/-- For all that is called, answered and stored, connections are as good as numbers that are never
given out again. -/
theorem connections_numbered (served : HandleServed mysql jobs start run threads s) :
    ∃ numbered others, Served mysql jobs start numbered others s.shared ∧
      observed numbered = observed run ∧
        ∀ thread, ended (others thread).status = ended (threads thread).status := by
  obtain ⟨numbered, others, before, same, along⟩ := served.along
  exact ⟨numbered, others, before, same, fun thread => (along.along thread).ended⟩

end Runs

section Samples

def postingRequest : Request :=
  requestOf [("token", ascii "t"), ("latitude", ascii "1"), ("longitude", ascii "2")]

/-- A location is posted on the connection at the address; the lookup of the user fails. -/
def posting (address : Nat) : History :=
  [⟨.connectionPop, address⟩, ⟨.mysqlQuery address 256 (userQuery (ascii "t")),
    (none : Option (List Row))⟩, ⟨.pushLocation (ascii "-1") (ascii "1") (ascii "2"), ()⟩,
    ⟨.connectionPush address, ()⟩]

theorem posting_runs (address : Nat) : ∃ rest,
    (postLocation postingRequest).Runs (posting address) rest :=
  ⟨_, .cons (.cons (.cons (.cons (.nil _))))⟩

def postingJobs : Nat → Job := fun _ => ⟨.postLocation, postingRequest⟩

/-- A location is posted, and this many sessions have been opened. -/
def posted (connections : Nat) : Shared :=
  ⟨.empty, fun _ => 0, connections, [⟨some (ascii "-1"), ascii "1" ++ ascii "|" ++ ascii "2"⟩]⟩

theorem posting_path : Interaction.Path Mysql.strict.HandleAnswers (.start .start) (posting 7)
    (.start (posted 1)) := by
  have opened : Function.update (fun _ => (none : Option Nat)) 7 (some 0) 7 = some 0 :=
    Function.update_self ..
  have fresh : Function.update (fun _ => (0 : Int)) 0 0 = fun _ => 0 :=
    Function.update_eq_self 0 fun _ => (0 : Int)
  have freed : Function.update (Function.update (fun _ => (none : Option Nat)) 7 (some 0)) 7 none =
      fun _ => none := by
    rw [Function.update_idem]
    exact Function.update_eq_self 7 fun _ => (none : Option Nat)
  refine .cons ⟨rfl, (0 : Nat), _, ⟨rfl, rfl⟩, rfl⟩ ?_
  have understood : statementOf (userQuery (ascii "t")) = some (.userByToken (ascii "t")) := by
    rw [userQuery_statement]
    decide
  refine .cons ⟨0, _, opened, (Mysql.answers_statement understood).mpr
    ⟨by decide, .inl ⟨rfl, rfl⟩⟩, rfl⟩ ?_
  refine .cons ⟨_, ⟨_, rfl, rfl⟩, rfl⟩ ?_
  refine .cons ⟨0, opened, rfl⟩ ?_
  apply Interaction.path_nil_iff.mpr
  simp only [Handles.start, Shared.start, posted, fresh, freed, Nat.zero_add]

/-- The session that was opened last is on the address that was freed. -/
def reopened : Handles := ⟨posted 2, Function.update (fun _ => none) 7 (some 1)⟩

/-- One request is through with the address before another gets it. -/
theorem reopened_served : ∃ run threads,
    HandleServed .strict postingJobs .start run threads reopened ∧
      eventsOf 0 run = posting 7 ∧ eventsOf 1 run = [⟨.connectionPop, (7 : Nat)⟩] := by
  generalize start : (fun thread => (postingJobs thread).program) = pool
  have starts : Interleaved Mysql.strict.HandleAnswers pool (.start .start) [] pool
    (.start .start) := .nil
  obtain ⟨rest, runs⟩ : ∃ rest, (pool 0).Runs (posting 7) rest := start ▸ posting_runs 7
  obtain ⟨first, served, calls, own⟩ := starts.alone runs posting_path
  obtain ⟨left, pops⟩ : ∃ left, (Function.update pool 0 rest 1).Runs
      [⟨.connectionPop, (7 : Nat)⟩] left := by
    rw [Function.update_of_ne Nat.one_ne_zero, ← start]
    exact ⟨_, .cons (.nil _)⟩
  have fresh : Function.update (fun _ => (0 : Int)) 1 0 = fun _ => 0 :=
    Function.update_eq_self 1 fun _ => (0 : Int)
  have again : Interaction.Path Mysql.strict.HandleAnswers (.start (posted 1))
      [⟨.connectionPop, (7 : Nat)⟩] reopened := by
    refine .cons ⟨rfl, (1 : Nat), posted 2, ⟨rfl, ?_⟩, rfl⟩ (.nil _)
    simp only [Handles.start, posted, fresh]
  obtain ⟨second, served, more, others⟩ := served.alone pops again
  rw [List.nil_append] at served
  have before : eventsOf 0 first = posting 7 ∧ eventsOf 1 first = [] := by
    rw [← calls]
    refine ⟨Interaction.eventsOf_of_own own, Interaction.eventsOf_eq_nil_iff.mpr ?_⟩
    intro transition member
    rw [own transition member]
    exact Nat.zero_ne_one
  have behind : eventsOf 1 second = [⟨.connectionPop, (7 : Nat)⟩] ∧ eventsOf 0 second = [] := by
    rw [← more]
    refine ⟨Interaction.eventsOf_of_own others, Interaction.eventsOf_eq_nil_iff.mpr ?_⟩
    intro transition member
    rw [others transition member]
    exact Nat.one_ne_zero
  refine ⟨first ++ second, _, start ▸ served, ?_, ?_⟩
  · rw [Interaction.eventsOf_append, before.1, behind.2, List.append_nil]
  · rw [Interaction.eventsOf_append, before.2, behind.1, List.nil_append]

theorem connection_owned_sample : ∃ run threads,
    HandleServed .strict postingJobs .start run threads reopened ∧
      eventsOf 0 run = posting 7 ∧ eventsOf 1 run = [⟨.connectionPop, (7 : Nat)⟩] ∧
        ∃! thread, heldConnection (eventsOf thread run) = some 7 := by
  obtain ⟨run, threads, served, first, second⟩ := reopened_served
  refine ⟨run, threads, served, first, second, ?_⟩
  exact ((connection_owned served).1 7).mp ⟨1, rfl⟩

theorem connections_numbered_sample : ∃ run threads,
    HandleServed .strict postingJobs .start run threads reopened ∧
      ∃ numbered others, Served .strict postingJobs .start numbered others reopened.shared ∧
        observed numbered = observed run := by
  obtain ⟨run, threads, served, -, -⟩ := reopened_served
  obtain ⟨numbered, others, before, same, -⟩ := connections_numbered served
  exact ⟨run, threads, served, numbered, others, before, same⟩

end Samples

end Ttac
