import Ttac.Requests

set_option autoImplicit false

/- Each request sends its queries on the connection it has popped, which no other request
has. -/
namespace Ttac

open Interaction (Program Exchange Status Interleaved Linked eventsOf)
open Interaction.Program (Meets Always)
open Sql (Piece)

@[simp] def Call.On (connection : Nat) : Call → Prop
  | .mysqlQuery c _ _ => c = connection
  | _ => True

/-- A query is sent on a connection that was popped before. -/
def PoppedBefore (events : History) (op : Call) : Prop :=
  ∀ connection capacity pieces, op = .mysqlQuery connection capacity pieces →
    ⟨.connectionPop, connection⟩ ∈ events

section On

variable {α : Type} {req : Request} {connection : Nat}

@[simp] theorem respond_on {statusCode : Int} {statusMsg : String} {body : Bytes} :
    (respond req statusCode statusMsg body).Always (Call.On connection) :=
  ⟨trivial, fun _ => trivial⟩

@[simp] theorem serverErrer_on {c : Nat} : (serverErrer req c).Always (Call.On connection) :=
  ⟨trivial, fun _ => respond_on⟩

@[simp] theorem respondRows_on {capacity : Nat} {query : List Piece}
    {tmp : Row → Except Fault Bytes} :
    (respondRows req connection capacity query tmp).Always (Call.On connection) := by
  simp [respondRows, Option.forall]

theorem lift_on (result : Except Fault Bytes) (next : Bytes → Prog α)
    (later : ∀ value, (next value).Always (Call.On connection)) :
    (Program.lift result >>= next).Always (Call.On connection) :=
  Program.always_lift_bind.mpr fun value _ => later value

theorem getUserIdx_on {token : Bytes} {next : Int → Prog α}
    (later : ∀ idx, (next idx).Always (Call.On connection)) :
    (getUserIdx connection token >>= next).Always (Call.On connection) := by
  rw [getUserIdx_bind]
  exact always_mysqlQuery.mpr ⟨rfl, lookupRest_of lift_on later⟩

theorem getUserIdxByID_on {ID : Bytes} {next : Int → Prog α}
    (later : ∀ idx, (next idx).Always (Call.On connection)) :
    (getUserIdxByID connection ID >>= next).Always (Call.On connection) := by
  rw [getUserIdxByID_bind]
  exact always_mysqlQuery.mpr ⟨rfl, lookupIDRest_of lift_on later⟩

theorem createToken_on {left : Nat} {next : Bytes → Prog α}
    (later : ∀ token, (next token).Always (Call.On connection)) :
    (createToken left >>= next).Always (Call.On connection) :=
  Always.bind (createToken_always trivial left) later

/-- A program that pops its connection first. -/
theorem poppedBefore_of_on {next : Nat → Prog α}
    (on : ∀ connection, (next connection).Always (Call.On connection)) :
    (connectionPop >>= next).Meets (Asks PoppedBefore) := by
  apply meets_connectionPop.mpr
  constructor
  · simp [PoppedBefore]
  · intro connection
    apply Asks.of_always (on connection) fun events => ⟨.connectionPop, connection⟩ :: events
    intro op events own c capacity pieces same
    subst same
    have here : c = connection := own
    rw [here]
    exact List.mem_cons_self ..

end On

theorem login_poppedBefore {req : Request} {ID password : Bytes}
    (IDFound : findValue req.parameter (ascii "ID") = .ok (some ID))
    (passwordFound : findValue req.parameter (ascii "password") = .ok (some password)) :
    (login req).Meets (Asks PoppedBefore) := by
  rw [login_given IDFound passwordFound]
  apply poppedBefore_of_on
  intro connection
  apply always_mysqlQuery.mpr
  refine ⟨rfl, ?_⟩
  intro outcome
  cases outcome with
  | none => exact serverErrer_on
  | some rows =>
      apply Program.always_lift_bind.mpr
      intro stored _
      apply Program.always_ite.mpr
      constructor
      · intro _
        apply createToken_on
        intro token
        simp [Option.forall]
      · intro _
        simp

/-- Every handler pops its connection before it sends a query. -/
theorem handler_poppedBefore (handler : Handler) (req : Request) :
    (handler.program req).Meets (Asks PoppedBefore) := by
  apply Handler.meets handler
  · exact meets_respond.mpr ⟨by simp [PoppedBefore], asks_returned ()⟩
  · exact asks_failed _
  intro accepts
  cases accepts.given with
  | login IDFound passwordFound => exact login_poppedBefore IDFound passwordFound
  | signup IDFound passwordFound nameFound =>
      simp only [Handler.program, signup, findParameter, IDFound, passwordFound, nameFound,
        Program.lift_ok_bind]
      apply poppedBefore_of_on
      intro connection
      simp [Option.forall]
  | createGroup nameFound tokenFound =>
      simp only [Handler.program, createGroup, findParameter, nameFound, tokenFound,
        Program.lift_ok_bind]
      apply poppedBefore_of_on
      intro connection
      apply getUserIdx_on
      intro idx
      simp [Option.forall]
  | groupList tokenFound =>
      simp only [Handler.program, groupList, findParameter, tokenFound, Program.lift_ok_bind]
      apply poppedBefore_of_on
      intro connection
      apply getUserIdx_on
      intro idx
      simp
  | joinGroup tokenFound groupFound IDFound =>
      simp only [Handler.program, joinGroup, findParameter, tokenFound, groupFound, IDFound,
        Program.lift_ok_bind]
      apply poppedBefore_of_on
      intro connection
      apply getUserIdx_on
      intro idx
      apply getUserIdxByID_on
      intro useridx
      simp only [Program.always_ite, serverErrer_on, implies_true, true_and]
      intro valid
      refine ⟨fun _ => by simp, ?_⟩
      intro known
      apply always_mysqlQuery.mpr
      refine ⟨rfl, ?_⟩
      intro outcome
      cases outcome with
      | none => exact serverErrer_on
      | some rows => cases rows <;> simp [Option.forall]
  | getTodolist tokenFound =>
      simp only [Handler.program, getTodolist, findParameter, tokenFound, Program.lift_ok_bind]
      apply poppedBefore_of_on
      intro connection
      apply getUserIdx_on
      intro idx
      simp
  | postTodolist tokenFound deadlineFound detailFound =>
      simp only [Handler.program, postTodolist, findParameter, tokenFound, deadlineFound,
        detailFound, Program.lift_ok_bind]
      apply poppedBefore_of_on
      intro connection
      apply getUserIdx_on
      intro idx
      simp [Option.forall]
  | getProgress tokenFound =>
      simp only [Handler.program, getProgress, findParameter, tokenFound, Program.lift_ok_bind]
      apply poppedBefore_of_on
      intro connection
      apply getUserIdx_on
      intro idx
      simp only [Program.always_ite, serverErrer_on, implies_true, true_and]
      intro valid
      apply always_mysqlQuery.mpr
      refine ⟨rfl, ?_⟩
      intro outcome
      cases outcome with
      | none => exact serverErrer_on
      | some rows => cases rows <;> simp
  | postProgress tokenFound numberFound =>
      simp only [Handler.program, postProgress, findParameter, tokenFound, numberFound,
        Program.lift_ok_bind]
      apply poppedBefore_of_on
      intro connection
      apply getUserIdx_on
      intro idx
      simp [Option.forall]
  | createChat tokenFound groupFound contentFound =>
      rw [Handler.program, createChat_given tokenFound groupFound contentFound]
      apply poppedBefore_of_on
      intro connection
      apply getUserIdx_on
      intro idx
      simp [attendanceCheck, chatRest, Program.bind_bind, Option.forall]
  | getChatlist tokenFound groupFound latestFound =>
      rw [Handler.program, getChatlist_given tokenFound groupFound latestFound]
      apply poppedBefore_of_on
      intro connection
      apply getUserIdx_on
      intro idx
      simp [attendanceCheck, Program.bind_bind]
  | getLocation tokenFound userFound =>
      have quiet : (getLocation req).Always Call.NotQuery := by
        simp only [getLocation, findParameter, tokenFound, userFound, Program.lift_ok_bind]
        apply always_popLocation.mpr
        refine ⟨trivial, ?_⟩
        intro location
        exact Program.always_lift_bind.mpr fun _ _ => ⟨trivial, fun _ => trivial⟩
      apply Asks.of_always quiet fun events => events
      intro op events notQuery connection capacity pieces same
      subst same
      exact notQuery.elim
  | postLocation tokenFound latitudeFound longitudeFound =>
      simp only [Handler.program, postLocation, findParameter, tokenFound, latitudeFound,
        longitudeFound, Program.lift_ok_bind]
      apply poppedBefore_of_on
      intro connection
      apply getUserIdx_on
      intro idx
      simp

section Answers

variable {mysql : Mysql} {op : Call} {answer : Answer op} {s t : Shared}

/-- A query opens no connection, and leaves the others alone. -/
theorem query_keeps {connection capacity : Nat} {pieces : List Piece}
    {outcome : Option (List Row)}
    (answered : mysql.Answers (.mysqlQuery connection capacity pieces) outcome s t) :
    t.connections = s.connections ∧
      ∀ {other : Nat}, other ≠ connection → t.lastId other = s.lastId other := by
  cases understood : statementOf pieces with
  | none =>
      obtain ⟨-, _, _, -, state⟩ := (Mysql.answers_other understood).mp answered
      rw [state]
      exact ⟨rfl, fun differs => Function.update_of_ne differs _ _⟩
  | some statement =>
      obtain ⟨-, answered⟩ := (Mysql.answers_statement understood).mp answered
      cases answered with
      | inl failed =>
          rw [failed.2]
          exact ⟨rfl, fun _ => rfl⟩
      | inr answered =>
          obtain ⟨_, _, _, _, -, -, -, state⟩ := answered
          rw [state]
          exact ⟨rfl, fun differs => Function.update_of_ne differs _ _⟩

theorem connections_mono (answered : mysql.Answers op answer s t) :
    s.connections ≤ t.connections := by
  cases op with
  | connectionPop =>
      rw [answered.2]
      exact Nat.le_succ _
  | mysqlQuery connection capacity pieces => exact Nat.le_of_eq (query_keeps answered).1.symm
  | pushLocation =>
      obtain ⟨_, -, state⟩ := answered
      rw [state]
  | popLocation => rw [answered.2]
  | _ => exact Nat.le_of_eq (by rw [show t = s from answered])

/-- A call that neither uses a connection nor opens it. -/
theorem lastId_of_other {connection : Nat} (answered : mysql.Answers op answer s t)
    (unused : ∀ capacity pieces, op ≠ .mysqlQuery connection capacity pieces)
    (unopened : (⟨op, answer⟩ : Exchange Call Answer) ≠ ⟨.connectionPop, connection⟩) :
    t.lastId connection = s.lastId connection := by
  cases op with
  | connectionPop =>
      have other : connection ≠ s.connections := by
        intro same
        apply unopened
        rw [same, ← answered.1]
      rw [answered.2]
      exact Function.update_of_ne other _ _
  | mysqlQuery c capacity pieces =>
      have other : connection ≠ c := by
        intro same
        subst same
        exact unused capacity pieces rfl
      exact (query_keeps answered).2 other
  | pushLocation =>
      obtain ⟨_, -, state⟩ := answered
      rw [state]
  | popLocation => rw [answered.2]
  | _ => rw [show t = s from answered]

end Answers

section Runs

variable {mysql : Mysql} {jobs : Nat → Job} {start s : Shared} {run : List CallStep}
  {threads : Nat → Prog Unit} {connection thread : Nat}

/-- A connection that is popped has a number that was not given out before. -/
theorem popped_unique (served : Served mysql jobs start run threads s) :
    (∀ connection thread, ⟨.connectionPop, connection⟩ ∈ eventsOf thread run →
      connection < s.connections) ∧
    ∀ connection first second, ⟨.connectionPop, connection⟩ ∈ eventsOf first run →
      ⟨.connectionPop, connection⟩ ∈ eventsOf second run → first = second := by
  induction served with
  | nil => simp [eventsOf]
  | @step run threads s t thread op next answer earlier calls answered ih =>
      obtain ⟨below, unique⟩ := ih
      have grows : s.connections ≤ t.connections := connections_mono answered
      -- the last step either pops the next number or is no pop at all
      have split {c other : Nat}
          (popped : ⟨.connectionPop, c⟩ ∈ eventsOf other (run ++ [⟨thread, ⟨op, answer⟩, s, t⟩])) :
          ⟨.connectionPop, c⟩ ∈ eventsOf other run ∨
            (other = thread ∧ c = s.connections ∧ t.connections = s.connections + 1) := by
        rw [Interaction.eventsOf_append, List.mem_append] at popped
        cases popped with
        | inl before => exact .inl before
        | inr last =>
            obtain ⟨step, member, own, event⟩ := Interaction.mem_eventsOf.mp last
            rw [List.mem_singleton.mp member] at own event
            cases event
            exact .inr ⟨own.symm, answered.1, by rw [answered.2]⟩
      constructor
      · intro c other popped
        cases split popped with
        | inl before => exact Nat.lt_of_lt_of_le (below c other before) grows
        | inr last => omega
      · intro c first second left right
        cases split left with
        | inl leftBefore =>
            cases split right with
            | inl rightBefore => exact unique c first second leftBefore rightBefore
            | inr rightLast =>
                have used := below c first leftBefore
                omega
        | inr leftLast =>
            cases split right with
            | inl rightBefore =>
                have used := below c second rightBefore
                omega
            | inr rightLast => rw [leftLast.1, rightLast.1]

/-- What other requests do leaves the `LAST_INSERT_ID()` of a connection alone. -/
theorem lastId_kept (served : Served mysql jobs start run threads s)
    (popped : ⟨.connectionPop, connection⟩ ∈ eventsOf thread run) :
    ∀ step ∈ run, step.thread ≠ thread →
      step.after.lastId connection = step.before.lastId connection := by
  intro step member other
  have foreign : ⟨.connectionPop, connection⟩ ∉ eventsOf step.thread run := by
    intro own
    exact other ((popped_unique served).2 connection step.thread thread own popped)
  obtain ⟨earlier, later, whole⟩ := List.append_of_mem member
  subst whole
  have answered := served.answers member
  have before := served.meets_calling (handler_poppedBefore _ _)
  rw [Interaction.eventsOf_append, Interaction.eventsOf_cons_own rfl] at foreign
  apply lastId_of_other answered
  · intro capacity pieces same
    apply foreign
    exact List.mem_append_left _ ((asks_calling _).mp before connection capacity pieces same)
  · intro same
    apply foreign
    rw [← same]
    exact List.mem_append_right _ (List.mem_cons_self ..)

end Runs

end Ttac
