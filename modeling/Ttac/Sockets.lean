import Ttac.ConnectionHandles
import Ttac.HandlerRuns
import Ttac.RequestFraming

set_option autoImplicit false

/- The whole server: what arrives on a socket is parsed, routed to a handler and answered, and the
socket is closed. -/
namespace Ttac

open Interaction (Program Exchange Status Interleaved Linked Transition eventsOf)

section Threads

variable (junk : Junk) (fuel : Nat)

/-- `http_thread` on what its socket delivers. As long as the loops of `parse_formdata` go on, it
makes no call. -/
def serveSocket (socket : Stream) : Prog Unit :=
  match (parseRequest Stream.reader junk fuel socket).1 with
  | .error fault => .fail fault
  | .ok none => .done ()
  | .ok (some req) => httpThread req

/-- The request of a socket with the handler it is routed to. -/
def socketJob (socket : Stream) : Option Job :=
  match (parseRequest Stream.reader junk fuel socket).1 with
  | .ok (some req) =>
    match route req.method req.path with
    | .handler handler => some ⟨handler, req⟩
    | _ => none
  | _ => none

/-- What stands for a socket that no handler serves. -/
def idleJob : Job := ⟨.joinGroup, requestOf []⟩

def socketJobs (sockets : Nat → Stream) (thread : Nat) : Job :=
  (socketJob junk fuel (sockets thread)).getD idleJob

/-- The call is not the one behind the handler. -/
def Call.leavesOpen : Call → Bool
  | .close => false
  | _ => true

/-- The call is one of a handler. -/
def handled (sockets : Nat → Stream) (thread : Nat) (op : Call) : Bool :=
  op.leavesOpen && (socketJob junk fuel (sockets thread)).isSome

/-- The server has made the calls of the run for what arrived on its sockets. -/
abbrev SocketsServed (mysql : Mysql) (sockets : Nat → Stream) (start : Shared)
    (run : List CallStep) (threads : Nat → Prog Unit) (s : Shared) : Prop :=
  Interleaved mysql.Answers (fun thread => serveSocket junk fuel (sockets thread)) start run threads
    s

/-- A call that changes nothing. -/
def Call.Quiet : Call → Prop
  | .response _ | .close => True
  | _ => False

/-- What a thread has before it, and what is left of its handler. -/
inductive Serving (job : Option Job) : Prog Unit → Prog Unit → Prop where
  | handler {program : Prog Unit} (served : job ≠ none) (leavesOpen : program.Always (· ≠ .close)) :
      Serving job (program >>= fun _ => close) program
  | closed : Serving job (.done ()) (.done ())
  | alone {program other : Prog Unit} (unserved : job = none) (quiet : program.Always Call.Quiet) :
      Serving job program other

end Threads

section Threads

variable {junk : Junk} {fuel : Nat} {sockets : Nat → Stream} {job : Option Job}
  {program other : Prog Unit} {op : Call} {next : Answer op → Prog Unit}

theorem socketJob_routed {socket : Stream} {req : Request} {handler : Handler}
    (parsed : (parseRequest Stream.reader junk fuel socket).1 = .ok (some req))
    (routed : route req.method req.path = .handler handler) :
    socketJob junk fuel socket = some ⟨handler, req⟩ := by
  rw [socketJob, parsed]
  dsimp only
  rw [routed]

theorem serveSocket_serving (junk : Junk) (fuel : Nat) (socket : Stream) :
    Serving (socketJob junk fuel socket) (serveSocket junk fuel socket)
      ((socketJob junk fuel socket).getD idleJob).program := by
  rw [serveSocket, socketJob]
  generalize (parseRequest Stream.reader junk fuel socket).1 = parsed
  match parsed with
  | .error fault => exact .alone rfl trivial
  | .ok none => exact .alone rfl trivial
  | .ok (some req) =>
      dsimp only
      rw [httpThread]
      cases route req.method req.path with
      | handler handler => exact .handler nofun (handler_pooled _ _).leavesOpen
      | nothing => exact .alone rfl ⟨trivial, fun _ => trivial⟩
      | notFound => exact .alone rfl ⟨trivial, fun _ => ⟨trivial, fun _ => trivial⟩⟩

theorem Serving.goes (serving : Serving job (.call op next) other)
    (served : job ≠ none) (stays : op ≠ .close) :
    ∃ rest, other = .call op rest ∧ ∀ answer, Serving job (next answer) (rest answer) := by
  generalize same : Program.call op next = program at serving
  cases serving with
  | handler _ leavesOpen =>
      cases other with
      | done value =>
          cases same
          exact absurd rfl stays
      | fail fault => cases same
      | call first rest =>
          cases same
          exact ⟨rest, rfl, fun answer => .handler served (leavesOpen.2 answer)⟩
  | closed => cases same
  | alone unserved => exact absurd unserved served

theorem Serving.stays (serving : Serving job (.call op next) other)
    (left : job = none ∨ op = .close) :
    (∀ answer, Serving job (next answer) other) ∧ op.Quiet := by
  generalize same : Program.call op next = program at serving
  cases serving with
  | handler served leavesOpen =>
      have closes : op = .close := left.resolve_left served
      cases other with
      | done value =>
          cases same
          exact ⟨fun _ => .closed, trivial⟩
      | fail fault => cases same
      | call first rest =>
          cases same
          exact absurd closes leavesOpen.1
  | closed => cases same
  | alone unserved quiet =>
      cases same
      exact ⟨fun answer => .alone unserved (quiet.2 answer), quiet.1⟩

theorem quiet_same {mysql : Mysql} {answer : Answer op} {s t : Shared} (quiet : op.Quiet)
    (answered : mysql.Answers op answer s t) : t = s := by
  cases op <;> first | exact answered | exact quiet.elim

theorem Call.leavesOpen_iff : op.leavesOpen = true ↔ op ≠ .close := by
  cases op <;> simp [Call.leavesOpen]

theorem handled_iff {thread : Nat} : handled junk fuel sockets thread op = true ↔
    socketJob junk fuel (sockets thread) ≠ none ∧ op ≠ .close := by
  rw [handled, Bool.and_eq_true, Call.leavesOpen_iff, Option.isSome_iff_ne_none, and_comm]

theorem not_handled {thread : Nat} (dropped : handled junk fuel sockets thread op = false) :
    socketJob junk fuel (sockets thread) = none ∨ op = .close := by
  by_contra kept
  rw [not_or] at kept
  rw [handled_iff.mpr kept] at dropped
  cases dropped

/-- Without the calls that close a socket or refuse a path, a run of the server is one of the
handlers that the requests are routed to. -/
theorem SocketsServed.handlers {mysql : Mysql} {start s : Shared} {run : List CallStep}
    {threads : Nat → Prog Unit}
    (served : SocketsServed junk fuel mysql sockets start run threads s) :
    ∃ left, Served mysql (socketJobs junk fuel sockets) start
        (run.filter fun step => handled junk fuel sockets step.thread step.event.op) left s ∧
      ∀ thread, Serving (socketJob junk fuel (sockets thread)) (threads thread) (left thread) :=
  served.project (handled junk fuel sockets)
    (fun thread => Serving (socketJob junk fuel (sockets thread)))
    (fun thread => serveSocket_serving junk fuel (sockets thread))
    (fun _ _ _ _ serving kept => serving.goes (handled_iff.mp kept).1 (handled_iff.mp kept).2)
    (fun _ _ _ _ serving dropped =>
      have stays := serving.stays (not_handled dropped)
      ⟨stays.1, fun _ _ _ answered => quiet_same stays.2 answered⟩)

/-- The calls of a handler are those of its thread, without the last. -/
theorem eventsOf_handled {thread : Nat} (served : socketJob junk fuel (sockets thread) ≠ none)
    (run : List CallStep) :
    eventsOf thread (run.filter fun step => handled junk fuel sockets step.thread step.event.op) =
      (eventsOf thread run).filter fun event => event.op.leavesOpen := by
  rw [eventsOf, eventsOf, List.filter_map, List.filter_filter, List.filter_filter]
  congr 1
  apply List.filter_congr
  intro step _
  by_cases own : step.thread = thread
  · simp [handled, own, Option.isSome_iff_ne_none.mpr served]
  · simp [own]

/-- The replies of a handler are those on its socket. -/
theorem replies_handled {thread : Nat} (served : socketJob junk fuel (sockets thread) ≠ none)
    (run : List CallStep) : replies (eventsOf thread
      (run.filter fun step => handled junk fuel sockets step.thread step.event.op)) =
        replies (eventsOf thread run) := by
  rw [eventsOf_handled served]
  induction eventsOf thread run with
  | nil => rfl
  | cons event events ih =>
      obtain ⟨op, answer⟩ := event
      cases op with
      | response reply => exact congrArg (reply :: ·) ih
      | _ => exact ih

theorem serveSocket_quiet {thread : Nat} (unserved : socketJob junk fuel (sockets thread) = none) :
    (serveSocket junk fuel (sockets thread)).Always Call.Quiet := by
  have serving := serveSocket_serving junk fuel (sockets thread)
  generalize serveSocket junk fuel (sockets thread) = program at serving
  generalize ((socketJob junk fuel (sockets thread)).getD idleJob).program = other at serving
  cases serving with
  | handler served => exact absurd unserved served
  | closed => exact trivial
  | alone _ quiet => exact quiet

/-- The server over its sockets is the handlers it calls: without the calls that close a socket or
refuse a path each of its runs is a run of the requests that arrived, by the handlers they are
routed to, in the same states. A thread is as far as its handler, whose calls it makes, and one that
no handler serves makes no call that reads or changes anything. -/
theorem server_handlers {mysql : Mysql} {start s : Shared} {run : List CallStep}
    {threads : Nat → Prog Unit}
    (served : SocketsServed junk fuel mysql sockets start run threads s) :
    let kept := run.filter fun step => handled junk fuel sockets step.thread step.event.op
    ∃ left, Served mysql (socketJobs junk fuel sockets) start kept left s ∧
      ∀ thread, Serving (socketJob junk fuel (sockets thread)) (threads thread) (left thread) ∧
        (socketJob junk fuel (sockets thread) ≠ none →
          eventsOf thread kept = (eventsOf thread run).filter fun event => event.op.leavesOpen) ∧
        (socketJob junk fuel (sockets thread) = none →
          ∀ event ∈ eventsOf thread run, event.op.Quiet) := by
  obtain ⟨left, handlers, serving⟩ := served.handlers
  refine ⟨left, handlers, fun thread => ⟨serving thread, ?_, ?_⟩⟩
  · intro routed
    exact eventsOf_handled routed run
  · intro unserved
    exact served.meets (serveSocket_quiet unserved).meets

end Threads

section Samples

def signupText : Bytes :=
  ascii "GET /signup?ID=i&password=p&name=n HTTP/1.1\r\nHost: x\r\n\r\n"

def refusedText : Bytes := ascii "GET /a HTTP/1.1\r\n\r\n"

/-- A user signs up on one socket, and on the others a path is asked for that there is not. -/
def mixedSockets : Nat → Stream
  | 0 => (Delivery.single signupText (by decide) (by decide)).stream
  | _ => (Delivery.single refusedText (by decide) (by decide)).stream

def mixedRequests : Nat → Request
  | 0 => ⟨ascii "GET", ascii "/signup?ID=i&password=p&name=n", ascii "HTTP/1.1",
      [⟨some (ascii "host"), ascii "x"⟩], none, [⟨some (ascii "ID"), ascii "i"⟩,
        ⟨some (ascii "password"), ascii "p"⟩, ⟨some (ascii "name"), ascii "n"⟩]⟩
  | _ => ⟨ascii "GET", ascii "/a", ascii "HTTP/1.1", [], none, []⟩

def mixedThreads (thread : Nat) : Prog Unit := httpThread (mixedRequests thread)

theorem mixedSockets_parsed (thread : Nat) :
    (parseRequest Stream.reader none 0 (mixedSockets thread)).1 =
      .ok (some (mixedRequests thread)) := by
  cases thread with
  | zero =>
      have read : (parseRequest textReader none 0 ⟨signupText, false⟩).1 =
          .ok (some (mixedRequests 0)) := by decide +kernel
      exact (parseRequest_delivers _ none 0).1.trans read
  | succ thread =>
      have read : (parseRequest textReader none 0 ⟨refusedText, false⟩).1 =
          .ok (some (mixedRequests 1)) := by decide +kernel
      exact (parseRequest_delivers _ none 0).1.trans read

theorem mixedThreads_eq :
    (fun thread => serveSocket none 0 (mixedSockets thread)) = mixedThreads := by
  funext thread
  rw [serveSocket, mixedSockets_parsed thread]
  rfl

theorem mixedSockets_served : ∃ run threads s,
    SocketsServed none 0 .strict mixedSockets .start run threads s ∧
      (run.map fun step => step.thread) = [0, 0, 1, 0, 0, 1, 0, 0] ∧
        replies (eventsOf 0 run) = [statusReply (mixedRequests 0) "OK"] ∧
          (eventsOf 1 run).length = 2 ∧ s.tables.user.rows.length = 1 := by
  have scheduled : (Interaction.schedule (Mysql.strict.world []) [0, 0, 1, 0, 0, 1, 0, 0]
      mixedThreads .start).map (fun served => (served.1.map fun step => step.thread,
        replies (eventsOf 0 served.1), (eventsOf 1 served.1).length,
          served.2.2.tables.user.rows.length)) =
      some ([0, 0, 1, 0, 0, 1, 0, 0], [statusReply (mixedRequests 0) "OK"], 2, 1) := by
    decide +kernel
  obtain ⟨⟨run, threads, s⟩, found, same⟩ := Option.map_eq_some_iff.mp scheduled
  simp only [Prod.mk.injEq] at same
  have starts : Interleaved Mysql.strict.Answers mixedThreads .start [] mixedThreads .start := .nil
  have served := Interaction.schedule_interleaved (Mysql.strict.world_follows []) starts found
  rw [List.nil_append, ← mixedThreads_eq] at served
  exact ⟨run, threads, s, served, same⟩

/-- The user is signed up by a run of the handler, and the other thread changes nothing. -/
theorem server_handlers_sample : ∃ run threads s,
    SocketsServed none 0 .strict mixedSockets .start run threads s ∧
      (run.map fun step => step.thread) = [0, 0, 1, 0, 0, 1, 0, 0] ∧
        s.tables.user.rows.length = 1 ∧
          let kept := run.filter fun step => handled none 0 mixedSockets step.thread step.event.op
          (∃ left, Served .strict (socketJobs none 0 mixedSockets) .start kept left s) ∧
            replies (eventsOf 0 kept) = [statusReply (mixedRequests 0) "OK"] ∧
              (eventsOf 1 run).length = 2 ∧ ∀ event ∈ eventsOf 1 run, event.op.Quiet := by
  obtain ⟨run, threads, s, served, order, replied, refused, users⟩ := mixedSockets_served
  have routed : socketJob none 0 (mixedSockets 0) ≠ none := by
    rw [socketJob_routed (mixedSockets_parsed 0) (show _ = Route.handler .signup from rfl)]
    exact Option.some_ne_none _
  have unserved : socketJob none 0 (mixedSockets 1) = none := by
    rw [socketJob, mixedSockets_parsed 1]
    rfl
  obtain ⟨left, handlers, serving⟩ := server_handlers served
  exact ⟨run, threads, s, served, order, users, ⟨left, handlers⟩,
    (replies_handled routed run).trans replied, refused, (serving 1).2.2 unserved⟩

end Samples

end Ttac
