import Ttac.LocationText
import Ttac.Lib.Threads

set_option autoImplicit false

/- `get_location` reads the string of `pop_location` after it has given the lock back, while
other requests push locations. -/
namespace Ttac

open Interaction (Program Exchange Status Rules Interleaved Linked Transition eventsOf)

/-- The two functions that hold `list_mutex`, each a step of its own, and the reads of
`get_location`. `strncpy` stands for a copy with the `malloc` in front of it. -/
inductive LocationCall where
  | pushLocation (push : Push)
  | popLocation (userId : Bytes)
  | strlen (location : Nat)
  | findIdx (location : Nat)
  | strncpy (location : Nat) (i n : Int)
  | respond (body : Bytes)

def LocationAnswer : LocationCall → Type
  | .popLocation _ => Option Nat
  | .strlen _ => Int
  | .findIdx _ => Int
  | .strncpy _ _ _ => Bytes
  | .pushLocation _ => Unit
  | .respond _ => Unit

/-- The call reads the string at the address. -/
def LocationCall.Reads (location : Nat) : LocationCall → Prop
  | .strlen address => address = location
  | .findIdx address => address = location
  | .strncpy address _ _ => address = location
  | _ => False

/-- What a call does. A string that was freed may read as anything. -/
def locationRules : Rules LocationCall LocationAnswer LocationList
  | .pushLocation push, _, before, after => before.push push = some (.ok after)
  | .popLocation userId, found, before, after =>
    before.popLocation userId = some (.ok found) ∧ after = before
  | .strlen location, len, before, after =>
    (∀ block, before.strings.block location = some block → len = (block.bytes.length : Int)) ∧
      after = before
  | .findIdx location, p, before, after =>
    (∀ block, before.strings.block location = some block → p = findIdx block.bytes (chr '|')) ∧
      after = before
  | .strncpy location i n, copy, before, after =>
    (∀ block, before.strings.block location = some block →
      strncpy block.bytes i n = .ok copy) ∧ after = before
  | .respond _, _, before, after => after = before

abbrev LocationProg := Program LocationCall LocationAnswer Fault Unit

def locate (call : LocationCall) :
    Program LocationCall LocationAnswer Fault (LocationAnswer call) :=
  .perform call

/-- The end of `post_location`. -/
def postLocationEnd (push : Push) : LocationProg := locate (.pushLocation push)

/-- The end of `get_location`. -/
def getLocationEnd (userId : Bytes) : LocationProg := do
  let location : Option Nat ← locate (.popLocation userId)
  match location with
  | none => do
    let body ← Program.lift (sprintf 256 (locationBody (ascii "0.0") (ascii "0.0")))
    locate (.respond body)
  | some location => do
    let len : Int ← locate (.strlen location)
    let p : Int ← locate (.findIdx location)
    let latitude : Bytes ← locate (.strncpy location 0 p)
    let longitude : Bytes ← locate (.strncpy location (p + 1) (len - (p + 1)))
    let body ← Program.lift (sprintf 256 (locationBody latitude longitude))
    locate (.respond body)

inductive LocationJob where
  | post (push : Push)
  | get (userId : Bytes)

def LocationJob.program : LocationJob → LocationProg
  | .post push => postLocationEnd push
  | .get userId => getLocationEnd userId

abbrev LocationHistory := List (Exchange LocationCall LocationAnswer)

abbrev LocationStep := Transition LocationCall LocationAnswer LocationList

/-- The requests have made the calls of the run, in its order. -/
abbrev Located (jobs : Nat → LocationJob) (run : List LocationStep)
    (threads : Nat → LocationProg) (list : LocationList) : Prop :=
  Interleaved locationRules (fun thread => (jobs thread).program) .zero run threads list

/-- The calls of `get_location` behind `pop_location`. -/
def readEvents (location : Nat) (len p : Int) (latitude longitude : Bytes) : LocationHistory :=
  [⟨.strlen location, len⟩, ⟨.findIdx location, p⟩, ⟨.strncpy location 0 p, latitude⟩,
    ⟨.strncpy location (p + 1) (len - (p + 1)), longitude⟩]

/-- What `get_location` has done in front of its reply, and the body of the reply. -/
inductive LocationReplies (userId : Bytes) : LocationHistory → Bytes → Prop where
  | absent : LocationReplies userId [⟨.popLocation userId, none⟩]
      (locationBody (ascii "0.0") (ascii "0.0"))
  | pair (location : Nat) (len p : Int) (latitude longitude : Bytes) :
      LocationReplies userId
        (⟨.popLocation userId, some location⟩ :: readEvents location len p latitude longitude)
        (locationBody latitude longitude)

/-- What `get_location` has done in front of a read, and in front of its reply. -/
def GetHistory (userId : Bytes) (events : LocationHistory) (op : LocationCall) : Prop :=
  (∀ location, op.Reads location → ∃ reads,
    events = ⟨.popLocation userId, some location⟩ :: reads ∧
      ∀ event ∈ reads, event.op.Reads location) ∧
  ∀ body, op = .respond body → LocationReplies userId events body

theorem getLocationEnd_history (userId : Bytes) : (getLocationEnd userId).Meets fun events status =>
    ∀ op, status = .calling op → GetHistory userId events op := by
  have calling {events : LocationHistory} {op : LocationCall} (holds : GetHistory userId events op)
      (other : LocationCall)
      (same : (.calling op : Status LocationCall Fault Unit) = .calling other) :
      GetHistory userId events other := by
    cases same
    exact holds
  -- the body, if it fits its array, and the reply
  have responds {events : LocationHistory} {text : Bytes}
      (replies : LocationReplies userId events text) :
      (Program.lift (sprintf 256 text) >>= fun body => locate (.respond body) :
        LocationProg).Meets fun later status =>
          ∀ op, status = .calling op → GetHistory userId (events ++ later) op := by
    refine Program.meets_lift_bind.mpr ⟨?_, ?_⟩
    · intro body printed
      rw [(sprintf_ok printed).2]
      refine ⟨calling ⟨by simp [LocationCall.Reads], ?_⟩, fun _ op same => by cases same⟩
      intro other same
      cases same
      rw [List.append_nil]
      exact replies
    · intro reason failed op same
      cases same
  refine ⟨calling (by simp [GetHistory, LocationCall.Reads]), ?_⟩
  intro (location : Option Nat)
  cases location with
  | none => exact responds .absent
  | some location =>
      refine ⟨calling (by simp [GetHistory, LocationCall.Reads]), ?_⟩
      intro (len : Int)
      refine ⟨calling (by simp [GetHistory, LocationCall.Reads]), ?_⟩
      intro (p : Int)
      refine ⟨calling (by simp [GetHistory, LocationCall.Reads]), ?_⟩
      intro (latitude : Bytes)
      refine ⟨calling (by simp [GetHistory, LocationCall.Reads]), ?_⟩
      intro (longitude : Bytes)
      exact responds (.pair location len p latitude longitude)

def LocationCall.Pushes (userId : Bytes) (op : LocationCall) : Prop :=
  ∃ push, op = .pushLocation push ∧ push.userId = userId

/-- What a call writes into the list. -/
def LocationCall.writes : LocationCall → List (Bytes × Bytes)
  | .pushLocation push => [push.entry]
  | _ => []

/-- `pop_location` would give this string, with this text in it. -/
def LocationList.Offers (list : LocationList) (userId : Bytes) (location : Nat) (text : Bytes) :
    Prop :=
  list.popLocation userId = some (.ok (some location)) ∧ Stands list.strings location text

section Steps

variable {op : LocationCall} {answer : LocationAnswer op} {s t : LocationList} {held : List Held}
  {userId text : Bytes} {location : Nat}

/-- A call that does not push leaves the list as it is. -/
theorem locationRules_same (other : ∀ push, op ≠ .pushLocation push)
    (answered : locationRules op answer s t) : t = s := by
  cases op with
  | pushLocation push => exact absurd rfl (other push)
  | popLocation => exact answered.2
  | strlen => exact answered.2
  | findIdx => exact answered.2
  | strncpy => exact answered.2
  | respond => exact answered

theorem locationRules_holds (holds : s.Holds held) (answered : locationRules op answer s t) :
    ∃ held', t.Holds held' ∧
      held'.map Held.entry = LastWrite.puts op.writes (held.map Held.entry) := by
  by_cases pushes : ∃ push, op = .pushLocation push
  · obtain ⟨push, same⟩ := pushes
    subst same
    have pushed : s.pushLocation push.userId push.latitude push.longitude = some (.ok t) := answered
    obtain ⟨after, held', done, holdsAfter, entries, -⟩ :=
      LocationList.pushLocation_held holds (LocationList.short_of_pushed holds pushed)
    rw [pushed] at done
    cases done
    exact ⟨held', holdsAfter, entries⟩
  · have same : t = s := locationRules_same (fun push same => pushes ⟨push, same⟩) answered
    refine ⟨held, same ▸ holds, ?_⟩
    cases op with
    | pushLocation push => exact absurd ⟨push, rfl⟩ pushes
    | _ => rfl

/-- What is offered is the text that was written last. -/
theorem get_of_offers (holds : s.Holds held) (offers : s.Offers userId location text) :
    LastWrite.get userId (held.map Held.entry) = some text := by
  obtain ⟨found, popped, related⟩ := holds.popLocation userId
  rw [offers.1] at popped
  cases popped
  cases entry : LastWrite.get userId (held.map Held.entry) with
  | none =>
      rw [entry] at related
      cases related
  | some stored =>
      rw [entry] at related
      cases related with
      | some stands =>
          obtain ⟨block, live, same, -⟩ := stands
          obtain ⟨other, alsoLive, alsoSame, -⟩ := offers.2
          cases live.symm.trans alsoLive
          rw [← same, ← alsoSame]

theorem offers_of_get (holds : s.Holds held)
    (popped : s.popLocation userId = some (.ok (some location)))
    (entry : LastWrite.get userId (held.map Held.entry) = some text) :
    s.Offers userId location text := by
  obtain ⟨found, again, related⟩ := holds.popLocation userId
  rw [popped] at again
  cases again
  rw [entry] at related
  cases related with
  | some stands => exact ⟨popped, stands⟩

/-- Behind a push, what was offered to its user is freed. -/
theorem freed_of_pushes (holds : s.Holds held) (answered : locationRules op answer s t)
    (offers : s.Offers userId location text) (pushes : op.Pushes userId) :
    location ∈ t.strings.freed := by
  obtain ⟨push, same, user⟩ := pushes
  subst same
  have pushed : s.pushLocation push.userId push.latitude push.longitude = some (.ok t) := answered
  obtain ⟨after, held', done, -, -, freed, -⟩ :=
    LocationList.pushLocation_held holds (LocationList.short_of_pushed holds pushed)
  rw [pushed] at done
  cases done
  have found := offers.1
  rw [LocationList.popLocation_held holds, ← user] at found
  rw [freed, Except.ok.inj (Option.some.inj found)]
  exact List.mem_append_right _ (List.mem_singleton_self _)

theorem freed_kept (holds : s.Holds held) (answered : locationRules op answer s t)
    (freed : location ∈ s.strings.freed) : location ∈ t.strings.freed := by
  by_cases pushes : ∃ push, op = .pushLocation push
  · obtain ⟨push, same⟩ := pushes
    subst same
    have pushed : s.pushLocation push.userId push.latitude push.longitude = some (.ok t) := answered
    obtain ⟨after, held', done, -, -, grows, -⟩ :=
      LocationList.pushLocation_held holds (LocationList.short_of_pushed holds pushed)
    rw [pushed] at done
    cases done
    rw [grows]
    exact List.mem_append_left _ freed
  · rw [locationRules_same (fun push same => pushes ⟨push, same⟩) answered]
    exact freed

/-- A push of another user leaves an offer as it is. -/
theorem offers_kept (holds : s.Holds held) (answered : locationRules op answer s t)
    (offers : s.Offers userId location text) (quiet : ¬ op.Pushes userId) :
    t.Offers userId location text := by
  by_cases pushes : ∃ push, op = .pushLocation push
  · obtain ⟨push, same⟩ := pushes
    subst same
    have other : userId ≠ push.userId := fun same => quiet ⟨push, rfl, same.symm⟩
    have pushed : s.pushLocation push.userId push.latitude push.longitude = some (.ok t) := answered
    obtain ⟨after, held', done, holdsAfter, entries, -, values⟩ :=
      LocationList.pushLocation_held holds (LocationList.short_of_pushed holds pushed)
    rw [pushed] at done
    cases done
    apply offers_of_get holdsAfter
    · rw [LocationList.popLocation_held holdsAfter, values userId other,
        ← LocationList.popLocation_held holds]
      exact offers.1
    · rw [entries, LastWrite.get_put_of_ne other]
      exact get_of_offers holds offers
  · rw [locationRules_same (fun push same => pushes ⟨push, same⟩) answered]
    exact offers

end Steps

section Runs

variable {s t : LocationList} {held : List Held} {run : List LocationStep} {userId text : Bytes}
  {location : Nat}

theorem linked_holds (linked : Linked locationRules s run t) (holds : s.Holds held) :
    ∃ held', t.Holds held' ∧ held'.map Held.entry =
      LastWrite.puts (run.flatMap fun step => step.event.op.writes) (held.map Held.entry) := by
  induction linked generalizing held with
  | nil => exact ⟨held, holds, rfl⟩
  | cons answered _ ih =>
      obtain ⟨middle, holdsMiddle, first⟩ := locationRules_holds holds answered
      obtain ⟨held', holdsAfter, later⟩ := ih holdsMiddle
      refine ⟨held', holdsAfter, ?_⟩
      rw [later, first, List.flatMap_cons, LastWrite.puts, LastWrite.puts, LastWrite.puts,
        List.foldl_append]

/-- A string that was offered stays live as long as nobody pushes for its user. -/
theorem linked_offers (linked : Linked locationRules s run t) (holds : s.Holds held)
    (offers : s.Offers userId location text)
    (quiet : ∀ step ∈ run, ¬ step.event.op.Pushes userId) : t.Offers userId location text := by
  induction linked generalizing held with
  | nil => exact offers
  | cons answered _ ih =>
      rw [List.forall_mem_cons] at quiet
      obtain ⟨middle, holdsMiddle, -⟩ := locationRules_holds holds answered
      exact ih holdsMiddle (offers_kept holds answered offers quiet.1) quiet.2

theorem linked_freed (linked : Linked locationRules s run t) (holds : s.Holds held)
    (freed : location ∈ s.strings.freed) : location ∈ t.strings.freed := by
  induction linked generalizing held with
  | nil => exact freed
  | cons answered _ ih =>
      obtain ⟨middle, holdsMiddle, -⟩ := locationRules_holds holds answered
      exact ih holdsMiddle (freed_kept holds answered freed)

theorem linked_dead (linked : Linked locationRules s run t) (holds : s.Holds held)
    (offers : s.Offers userId location text)
    (pushed : ∃ step ∈ run, step.event.op.Pushes userId) : location ∈ t.strings.freed := by
  obtain ⟨step, member, pushes⟩ := pushed
  induction linked generalizing held with
  | nil => cases member
  | @cons first run u answered later ih =>
      obtain ⟨middle, holdsMiddle, -⟩ := locationRules_holds holds answered
      by_cases here : first.event.op.Pushes userId
      · exact linked_freed later holdsMiddle (freed_of_pushes holds answered offers here)
      · have behind : step ∈ run := by
          cases List.mem_cons.mp member with
          | inl same => exact absurd (same ▸ pushes) here
          | inr behind => exact behind
        exact ih holdsMiddle (offers_kept holds answered offers here) behind

/-- The string is live until a push for its user. -/
theorem live_iff_quiet (linked : Linked locationRules s run t) (holds : s.Holds held)
    (offers : s.Offers userId location text) :
    (t.strings.block location).isSome = true ↔
      ∀ step ∈ run, ¬ step.event.op.Pushes userId := by
  constructor
  · intro live step member pushes
    have dead := linked_dead linked holds offers ⟨step, member, pushes⟩
    exact ((t.strings.live_iff location).mp live).2 dead
  · intro quiet
    obtain ⟨block, live, -⟩ := (linked_offers linked holds offers quiet).2
    rw [live]
    rfl

end Runs

/-- The steps of the run in front of the first one of the thread. -/
def beforeFirst (thread : Nat) (run : List LocationStep) : List LocationStep :=
  run.takeWhile fun step => step.thread ≠ thread

/-- The steps of the run behind the first one of the thread. -/
def behindFirst (thread : Nat) (run : List LocationStep) : List LocationStep :=
  (run.dropWhile fun step => step.thread ≠ thread).tail

/-- No request has pushed for the user since the thread has popped. -/
def Undisturbed (run : List LocationStep) (thread : Nat) (userId : Bytes) : Prop :=
  ∀ step ∈ behindFirst thread run, ¬ step.event.op.Pushes userId

/-- Whenever the thread has read a string, none had pushed for the user since it popped. -/
def Unraced (run : List LocationStep) (thread : Nat) (userId : Bytes) : Prop :=
  ∀ earlier step later, run = earlier ++ step :: later → step.thread = thread →
    (∃ location, step.event.op.Reads location) → Undisturbed earlier thread userId

/-- A run in which nobody pushes for the user behind the pop has no race. -/
theorem Undisturbed.unraced {run : List LocationStep} {thread : Nat} {userId : Bytes}
    (quiet : Undisturbed run thread userId) : Unraced run thread userId := by
  intro earlier step later whole _ _ other member
  apply quiet other
  rw [behindFirst] at member ⊢
  rw [whole, List.dropWhile_append]
  split
  · rename_i none
    rw [List.isEmpty_iff.mp none] at member
    cases member
  · rename_i some
    rw [List.tail_append_of_ne_nil (by simpa using some)]
    exact List.mem_append_left _ member

/-- The text that was pushed last for the user. -/
def lastPushed (run : List LocationStep) (userId : Bytes) : Option Bytes :=
  LastWrite.get userId (run.flatMap fun step => step.event.op.writes).reverse

/-- The text that the thread pops falls at its first `|` into a pair that was pushed. -/
def SplitsPushed (run : List LocationStep) (thread : Nat) (userId : Bytes) : Prop :=
  ∀ front back, lastPushed (beforeFirst thread run) userId = some (front ++ chr '|' :: back) →
    chr '|' ∉ front → ∃ step ∈ run, step.event.op = .pushLocation ⟨userId, front, back⟩

/-- The thread is about to send the pair that it has copied. -/
def SendsPair (run : List LocationStep) (threads : Nat → LocationProg) (thread : Nat)
    (userId latitude longitude : Bytes) : Prop :=
  (threads thread).status = .calling (.respond (locationBody latitude longitude)) ∧
    ∃ location len p, eventsOf thread run =
      ⟨.popLocation userId, some location⟩ :: readEvents location len p latitude longitude

theorem lastPushed_mem {run : List LocationStep} {userId text : Bytes}
    (last : lastPushed run userId = some text) :
    ∃ step ∈ run, ∃ push, step.event.op = .pushLocation push ∧ push.userId = userId ∧
      text = locationString push.latitude push.longitude := by
  obtain ⟨step, member, wrote⟩ :=
    List.mem_flatMap.mp (List.mem_reverse.mp (LastWrite.mem_of_get last))
  refine ⟨step, member, ?_⟩
  cases op : step.event.op with
  | pushLocation push =>
      rw [op] at wrote
      have same := List.mem_singleton.mp wrote
      exact ⟨push, rfl, (congrArg Prod.fst same).symm, congrArg Prod.snd same⟩
  | _ =>
      rw [op] at wrote
      cases wrote

/-- A text that was pushed has a first `|`. -/
theorem lastPushed_split {run : List LocationStep} {userId text : Bytes}
    (last : lastPushed run userId = some text) :
    ∃ front back, text = front ++ chr '|' :: back ∧ chr '|' ∉ front := by
  obtain ⟨step, -, push, -, -, written⟩ := lastPushed_mem last
  apply List.eq_append_cons_of_mem
  rw [written, locationString]
  exact List.mem_append_left _ (List.mem_append_right _ (List.mem_singleton_self _))

/-- The pair that was posted comes back if its latitude has no `|` of its own. -/
theorem splitsPushed_of_plain {run : List LocationStep} {thread : Nat} {userId : Bytes}
    (plain : ∀ step ∈ run, ∀ push, step.event.op = .pushLocation push → push.userId = userId →
      chr '|' ∉ push.latitude) : SplitsPushed run thread userId := by
  intro front back last absent
  obtain ⟨step, member, push, op, user, written⟩ := lastPushed_mem last
  have inside : step ∈ run := (List.takeWhile_prefix _).subset member
  have splits : Splits (front ++ chr '|' :: back) front back := splits_append absent
  rw [written] at splits
  obtain ⟨first, second⟩ := splits.unique
    (splits_locationString_iff.mpr (plain step inside push op user))
  refine ⟨step, inside, ?_⟩
  rw [op, ← user, first, second]

section Requests

variable {jobs : Nat → LocationJob} {run : List LocationStep} {threads : Nat → LocationProg}
  {list : LocationList} {thread location : Nat} {userId : Bytes}

theorem behindFirst_append {earlier later : List LocationStep} {step : LocationStep}
    (own : step.thread = thread) (foreign : eventsOf thread earlier = []) :
    behindFirst thread (earlier ++ step :: later) = later := by
  have others : ∀ other ∈ earlier, decide (other.thread ≠ thread) = true := by
    intro other member
    exact decide_eq_true (Interaction.eventsOf_eq_nil_iff.mp foreign other member)
  rw [behindFirst, List.dropWhile_append_of_pos others,
    List.dropWhile_cons_of_neg (by simpa using own),
    List.tail_cons]

theorem beforeFirst_append {earlier later : List LocationStep} {step : LocationStep}
    (own : step.thread = thread) (foreign : eventsOf thread earlier = []) :
    beforeFirst thread (earlier ++ step :: later) = earlier := by
  have others : ∀ other ∈ earlier, decide (other.thread ≠ thread) = true := by
    intro other member
    exact decide_eq_true (Interaction.eventsOf_eq_nil_iff.mp foreign other member)
  rw [beforeFirst, List.takeWhile_append_of_pos others,
    List.takeWhile_cons_of_neg (by simpa using own), List.append_nil]

/-- The run around the `pop_location` of a thread: the list has the text that was pushed last. -/
theorem popped_split {found : Option Nat} {rest : LocationHistory}
    (located : Located jobs run threads list)
    (events : eventsOf thread run = ⟨.popLocation userId, found⟩ :: rest) :
    ∃ earlier pop later held, run = earlier ++ pop :: later ∧ pop.thread = thread ∧
      eventsOf thread earlier = [] ∧ eventsOf thread later = rest ∧
        Linked locationRules pop.after later list ∧ pop.after.Holds held ∧
          pop.after.popLocation userId = some (.ok found) ∧
            LastWrite.get userId (held.map Held.entry) =
              lastPushed (beforeFirst thread run) userId := by
  have parts : eventsOf thread run =
      ([] : LocationHistory) ++ ⟨.popLocation userId, found⟩ :: rest := events
  obtain ⟨earlier, pop, later, whole, own, event, foreign, behind⟩ :=
    Interaction.eventsOf_split parts
  subst whole
  obtain ⟨before, answered, after⟩ := Interaction.linked_around_iff.mp located.linked
  rw [event] at answered
  obtain ⟨popped, same⟩ := answered
  obtain ⟨held, holds, entries⟩ := linked_holds before LocationList.holds_zero
  rw [← same] at popped holds
  refine ⟨earlier, pop, later, held, rfl, own, foreign, behind, after, holds, popped, ?_⟩
  rw [entries, List.map_nil, LastWrite.get_puts, beforeFirst_append own foreign]
  rfl

/-- What was popped is the text that was pushed last. -/
theorem lastPushed_popped {found : Option Nat} {rest : LocationHistory}
    (located : Located jobs run threads list)
    (events : eventsOf thread run = ⟨.popLocation userId, found⟩ :: rest) :
    found.isSome = (lastPushed (beforeFirst thread run) userId).isSome := by
  obtain ⟨-, pop, -, held, -, -, -, -, -, holds, popped, entry⟩ := popped_split located events
  obtain ⟨other, again, related⟩ := holds.popLocation userId
  rw [popped] at again
  cases again
  rw [← entry]
  generalize LastWrite.get userId (held.map Held.entry) = stored at related
  cases related with
  | some => rfl
  | none => rfl

/-- What a request of `get_location` has done. -/
theorem get_history (located : Located jobs run threads list)
    (gets : jobs thread = .get userId) {op : LocationCall}
    (calls : (threads thread).status = .calling op) :
    GetHistory userId (eventsOf thread run) op := by
  have history : ((jobs thread).program).Meets fun events status =>
      ∀ op, status = .calling op → GetHistory userId events op := by
    rw [gets]
    exact getLocationEnd_history userId
  exact located.meets history op calls

/-- The string that `get_location` is about to read is live as long as no request has pushed
for its user since it popped. -/
theorem reads_live_iff (located : Located jobs run threads list) (gets : jobs thread = .get userId)
    {op : LocationCall} (calls : (threads thread).status = .calling op)
    (reads : op.Reads location) :
    (list.strings.block location).isSome = true ↔ Undisturbed run thread userId := by
  obtain ⟨rest, events, -⟩ := (get_history located gets calls).1 location reads
  obtain ⟨earlier, pop, later, held, whole, own, foreign, -, after, holds, popped, entry⟩ :=
    popped_split located events
  obtain ⟨text, last⟩ := Option.isSome_iff_exists.mp (lastPushed_popped located events).symm
  rw [Undisturbed, whole, behindFirst_append own foreign]
  exact live_iff_quiet after holds (offers_of_get holds popped (entry.trans last))

/-- Without a race, each read of a thread finds the text that it popped, which was pushed last. -/
theorem reads_lastPushed {rest : LocationHistory} {event : Exchange LocationCall LocationAnswer}
    (located : Located jobs run threads list) (unraced : Unraced run thread userId)
    (events : eventsOf thread run = ⟨.popLocation userId, some location⟩ :: rest) {text : Bytes}
    (last : lastPushed (beforeFirst thread run) userId = some text) (member : event ∈ rest)
    (reads : event.op.Reads location) : ∃ s t block, s.strings.block location = some block ∧
      block.bytes = text ∧ locationRules event.op event.answer s t := by
  obtain ⟨earlier, pop, later, held, whole, own, foreign, behind, after, holds, popped, entry⟩ :=
    popped_split located events
  have offers := offers_of_get holds popped (entry.trans last)
  rw [← behind] at member
  obtain ⟨step, inside, same, here⟩ := Interaction.mem_eventsOf.mp member
  obtain ⟨front, back, split⟩ := List.append_of_mem inside
  rw [split] at after
  obtain ⟨before, answered, -⟩ := Interaction.linked_around_iff.mp after
  have quiet : Undisturbed (earlier ++ pop :: front) thread userId := by
    apply unraced (earlier ++ pop :: front) step back
    · rw [whole, split, List.append_assoc, List.cons_append]
    · exact same
    · exact ⟨location, here ▸ reads⟩
  rw [Undisturbed, behindFirst_append own foreign] at quiet
  obtain ⟨block, live, stored, -⟩ := (linked_offers before holds offers quiet).2
  rw [here] at answered
  exact ⟨_, _, block, live, stored, answered⟩

/-- Undisturbed reads are all of the text that was popped, and take the pair in front of its first
`|` and behind it. -/
theorem sendsPair_lastPushed (located : Located jobs run threads list) {latitude longitude : Bytes}
    (sends : SendsPair run threads thread userId latitude longitude)
    (unraced : Unraced run thread userId) :
    lastPushed (beforeFirst thread run) userId = some (latitude ++ chr '|' :: longitude) ∧
      chr '|' ∉ latitude := by
  obtain ⟨-, location, len, p, events⟩ := sends
  obtain ⟨text, last⟩ := Option.isSome_iff_exists.mp (lastPushed_popped located events).symm
  have read (event : Exchange LocationCall LocationAnswer)
      (member : event ∈ readEvents location len p latitude longitude)
      (reads : event.op.Reads location) :=
    reads_lastPushed located unraced events last member reads
  obtain ⟨front, back, written, absent⟩ := lastPushed_split last
  have splits : Splits text front back := written ▸ splits_append absent
  obtain ⟨_, _, _, live, stored, length, -⟩ :=
    read ⟨.strlen location, len⟩ (by simp [readEvents]) rfl
  have lenText := length _ live
  rw [stored] at lenText
  obtain ⟨_, _, _, live, stored, place, -⟩ := read ⟨.findIdx location, p⟩ (by simp [readEvents]) rfl
  have pText : p = alen text := by
    rw [alen, ← stored]
    exact place _ live
  obtain ⟨_, _, _, live, stored, copied, -⟩ :=
    read ⟨.strncpy location 0 p, latitude⟩ (by simp [readEvents]) rfl
  have first : strncpy _ 0 p = .ok latitude := copied _ live
  obtain ⟨_, _, _, live, storedToo, copied, -⟩ :=
    read ⟨.strncpy location (p + 1) (len - (p + 1)), longitude⟩ (by simp [readEvents]) rfl
  have second : strncpy _ (p + 1) (len - (p + 1)) = .ok longitude := copied _ live
  have rest : len - (p + 1) = blen text := by
    rw [blen, pText]
    exact congrArg (· - (alen text + 1)) lenText
  rw [stored, pText, splits.latitude] at first
  rw [storedToo, rest, pText, splits.longitude] at second
  rw [last, written, Except.ok.inj first, Except.ok.inj second]
  exact ⟨rfl, Except.ok.inj first ▸ absent⟩

/-- The reads of `get_location` are all of a live string, and what it sends is a pair that was
pushed for its user, exactly if nobody pushes for the user between its `pop_location` and its
reads and, once it replies, the text it has popped falls into a pair that was pushed. -/
theorem getLocation_reads_iff (located : Located jobs run threads list) (thread : Nat)
    (userId : Bytes) (gets : jobs thread = .get userId) :
    ((∀ earlier step later location, run = earlier ++ step :: later → step.thread = thread →
      step.event.op.Reads location → (step.before.strings.block location).isSome = true) ∧
    ∀ latitude longitude, SendsPair run threads thread userId latitude longitude →
      ∃ step ∈ run, step.event.op = .pushLocation ⟨userId, latitude, longitude⟩) ↔
    Unraced run thread userId ∧
      ((∃ body, (threads thread).status = .calling (.respond body)) →
        SplitsPushed run thread userId) := by
  constructor
  · rintro ⟨live, pairs⟩
    have unraced : Unraced run thread userId := by
      rintro earlier step later whole own ⟨location, reads⟩
      have here := live earlier step later location whole own reads
      subst whole own
      obtain ⟨middle, before, calls⟩ := located.calling
      exact (reads_live_iff before gets calls reads).mp here
    refine ⟨unraced, ?_⟩
    rintro ⟨body, calls⟩ front back last absent
    have history := (get_history located gets calls).2 body rfl
    generalize whole : eventsOf thread run = events at history
    cases history with
    | absent =>
        have found := lastPushed_popped located whole
        rw [last] at found
        cases found
    | pair location len p latitude longitude =>
        have sends : SendsPair run threads thread userId latitude longitude :=
          ⟨calls, location, len, p, whole⟩
        obtain ⟨same, free⟩ := sendsPair_lastPushed located sends unraced
        have splits : Splits (front ++ chr '|' :: back) latitude longitude := by
          rw [← Option.some.inj (same.symm.trans last)]
          exact splits_append free
        obtain ⟨first, second⟩ := (splits_append absent).unique splits
        rw [first, second]
        exact pairs latitude longitude sends
  · rintro ⟨unraced, splits⟩
    constructor
    · intro earlier step later location whole own reads
      have quiet := unraced earlier step later whole own ⟨location, reads⟩
      subst whole own
      obtain ⟨middle, before, calls⟩ := located.calling
      exact (reads_live_iff before gets calls reads).mpr quiet
    · intro latitude longitude sends
      obtain ⟨last, absent⟩ := sendsPair_lastPushed located sends unraced
      exact splits ⟨_, sends.1⟩ latitude longitude last absent

end Requests

section Samples

/-- The first user posts twice, and someone else asks for the location. -/
def raceJobs : Nat → LocationJob
  | 0 => .post ⟨ascii "1", ascii "37.5", ascii "127.0"⟩
  | 1 => .get (ascii "1")
  | _ => .post ⟨ascii "1", ascii "37.6", ascii "127.1"⟩

/-- The list behind the first post. -/
theorem first_posted : ∃ first held location, first.Holds held ∧
    locationRules (.pushLocation ⟨ascii "1", ascii "37.5", ascii "127.0"⟩) () .zero first ∧
      first.Offers (ascii "1") location (ascii "37.5|127.0") := by
  obtain ⟨first, held, pushed, holds, entries, -⟩ :=
    LocationList.pushLocation_held LocationList.holds_zero
      (show (ascii "37.5").length + (ascii "127.0").length + 2 < 2 ^ 31 by decide)
  have stored : LastWrite.get (ascii "1") (held.map Held.entry) = some (ascii "37.5|127.0") := by
    rw [entries, LastWrite.get_put_self]
    rfl
  obtain ⟨found, popped, related⟩ := holds.popLocation (ascii "1")
  rw [stored] at related
  cases related with
  | some => exact ⟨first, held, _, holds, pushed, offers_of_get holds popped stored⟩

theorem raceJobs_update {threads : Nat → LocationProg} {thread other : Nat}
    {rest program : LocationProg} (differs : other ≠ thread) (waits : threads other = program) :
    Function.update threads thread rest other = program :=
  (Function.update_of_ne differs _ _).trans waits

theorem raceJobs_start : Located raceJobs [] (fun thread => (raceJobs thread).program) .zero := .nil

/-- The second location is pushed behind `pop_location`, and `strlen` reads what was popped. -/
theorem raceJobs_located : ∃ earlier step threads list location,
    Located raceJobs (earlier ++ [step]) threads list ∧ step.thread = 1 ∧
      step.event.op.Reads location ∧ ¬ (step.before.strings.block location).isSome = true := by
  obtain ⟨first, held, location, holds, posted, offers⟩ := first_posted
  have asked : locationRules (.popLocation (ascii "1")) (some location) first first :=
    ⟨offers.1, rfl⟩
  obtain ⟨second, -, again, -⟩ := LocationList.pushLocation_held holds
    (show (ascii "37.6").length + (ascii "127.1").length + 2 < 2 ^ 31 by decide)
  have replaced : locationRules (.pushLocation ⟨ascii "1", ascii "37.6", ascii "127.1"⟩) ()
      first second := again
  have freed := freed_of_pushes holds replaced offers ⟨_, rfl, rfl⟩
  have dead : ¬ (second.strings.block location).isSome = true := by
    intro live
    exact ((second.strings.live_iff location).mp live).2 freed
  have measured : locationRules (.strlen location) (0 : Int) second second := by
    refine ⟨?_, rfl⟩
    intro block live
    rw [live] at dead
    exact absurd rfl dead
  have posts : (raceJobs 0).program = .call (.pushLocation _) .done := rfl
  have asks : (raceJobs 1).program = .call (.popLocation (ascii "1")) _ := rfl
  have postsAgain : (raceJobs 2).program = .call (.pushLocation _) .done := rfl
  have one := raceJobs_start.step posts posted
  have two := one.step (raceJobs_update (show 1 ≠ 0 by decide) asks) asked
  have three := two.step (raceJobs_update (show 2 ≠ 1 by decide)
    (raceJobs_update (show 2 ≠ 0 by decide) postsAgain)) replaced
  have four := three.step (raceJobs_update (show 1 ≠ 2 by decide) (Function.update_self ..))
    measured
  exact ⟨_, _, _, second, location, four, rfl, rfl, dead⟩

def quietEvents (location : Nat) : LocationHistory :=
  ⟨.popLocation (ascii "1"), some location⟩ ::
    readEvents location 10 4 (ascii "37.5") (ascii "127.0")

theorem quietEvents_path {list : LocationList} {location : Nat}
    (offers : list.Offers (ascii "1") location (ascii "37.5|127.0")) :
    Interaction.Path locationRules list (quietEvents location) list := by
  obtain ⟨block, live, text, -⟩ := offers.2
  have stored {other : StringBlock} (found : list.strings.block location = some other) :
      other.bytes = ascii "37.5|127.0" := by
    cases live.symm.trans found
    exact text
  refine .cons ⟨offers.1, rfl⟩ (.cons ⟨?_, rfl⟩ (.cons ⟨?_, rfl⟩ (.cons ⟨?_, rfl⟩
    (.cons ⟨?_, rfl⟩ (.nil list)))))
  · intro other found
    rw [stored found]
    exact (by decide : (10 : Int) = (ascii "37.5|127.0").length)
  · intro other found
    rw [stored found]
    exact (by decide : (4 : Int) = findIdx (ascii "37.5|127.0") (chr '|'))
  · intro other found
    rw [stored found]
    exact (by decide : strncpy (ascii "37.5|127.0") 0 4 = .ok (ascii "37.5"))
  · intro other found
    rw [stored found]
    exact (by decide : strncpy (ascii "37.5|127.0") (4 + 1) (10 - (4 + 1)) = .ok (ascii "127.0"))

/-- The location is asked for behind the first post, and nobody posts again. -/
theorem quietJobs_located : ∃ run threads list,
    Located raceJobs run threads list ∧
      SendsPair run threads 1 (ascii "1") (ascii "37.5") (ascii "127.0") ∧
        Unraced run 1 (ascii "1") ∧ SplitsPushed run 1 (ascii "1") := by
  obtain ⟨first, held, location, holds, posted, offers⟩ := first_posted
  have runs : (raceJobs 1).program.Runs (quietEvents location)
      (.call (.respond (locationBody (ascii "37.5") (ascii "127.0"))) .done) :=
    .cons (.cons (.cons (.cons (.cons (.nil _)))))
  have posts : (raceJobs 0).program = .call (.pushLocation _) .done := rfl
  have one := raceJobs_start.step posts posted
  have waits : Function.update (fun thread => (raceJobs thread).program) 0 (.done ()) 1 =
      (raceJobs 1).program := raceJobs_update (by decide) rfl
  obtain ⟨more, located, same, own⟩ := one.alone (waits.symm ▸ runs)
    (quietEvents_path offers)
  have quiet : ∀ step ∈ more, ∀ push, step.event.op ≠ .pushLocation push := by
    intro step member push op
    have made := List.mem_map_of_mem (f := Interaction.Transition.event) member
    rw [same] at made
    simp only [quietEvents, readEvents, List.mem_cons, List.not_mem_nil, or_false] at made
    rcases made with made | made | made | made | made <;> rw [made] at op <;> cases op
  refine ⟨_, _, first, located, ⟨?_, location, 10, 4, ?_⟩, ?_, ?_⟩
  · rw [Function.update_self]
    rfl
  · rw [List.nil_append, Interaction.eventsOf_append, Interaction.eventsOf_of_own own, same]
    rfl
  · apply Undisturbed.unraced
    rintro step member ⟨push, op, -⟩
    have later := List.mem_of_mem_tail member
    rw [List.nil_append, List.singleton_append, List.dropWhile_cons_of_pos (by rfl)] at later
    exact quiet step ((List.dropWhile_suffix _).subset later) push op
  · apply splitsPushed_of_plain
    intro step member push op _
    rcases List.mem_append.mp member with here | later
    · rw [List.mem_singleton.mp here] at op
      cases op
      decide
    · exact absurd op (quiet step later push)

/-- The reads of `get_location` may find their string freed. -/
theorem getLocation_dangling : ¬ ∀ (jobs : Nat → LocationJob) (run : List LocationStep)
    (threads : Nat → LocationProg) (list : LocationList), Located jobs run threads list →
      ∀ earlier step later location userId, run = earlier ++ step :: later →
        jobs step.thread = .get userId → step.event.op.Reads location →
          (step.before.strings.block location).isSome = true := by
  intro live
  obtain ⟨earlier, step, threads, list, location, located, own, reads, dead⟩ := raceJobs_located
  exact dead (live raceJobs _ threads list located earlier step [] location (ascii "1") rfl
    (by rw [own]; rfl) reads)

/-- The reads are not live in the one run, and live in the other, where the pair is sent. -/
theorem getLocation_reads_iff_race :
    (∃ run threads list, Located raceJobs run threads list ∧
      ¬ (Unraced run 1 (ascii "1") ∧
        ((∃ body, (threads 1).status = .calling (.respond body)) →
          SplitsPushed run 1 (ascii "1")))) ∧
    ∃ run threads list, Located raceJobs run threads list ∧
      SendsPair run threads 1 (ascii "1") (ascii "37.5") (ascii "127.0") ∧
        ∀ earlier step later location, run = earlier ++ step :: later → step.thread = 1 →
          step.event.op.Reads location → (step.before.strings.block location).isSome = true := by
  constructor
  · obtain ⟨earlier, step, threads, list, location, located, own, reads, dead⟩ := raceJobs_located
    refine ⟨_, threads, list, located, ?_⟩
    intro holds
    have live := ((getLocation_reads_iff located 1 (ascii "1") rfl).mpr holds).1
    exact dead (live earlier step [] location rfl own reads)
  · obtain ⟨run, threads, list, located, sends, unraced, splits⟩ := quietJobs_located
    have holds := (getLocation_reads_iff located 1 (ascii "1") rfl).mpr
      ⟨unraced, fun _ => splits⟩
    exact ⟨run, threads, list, located, sends, holds.1⟩

end Samples

end Ttac
