import Ttac.Memberships
import Ttac.LocationText
import Mathlib.Data.List.Find

set_option autoImplicit false

/- `post_location` stores under the number of a user, and `get_location` looks up what its
request names. -/
namespace Ttac

open Interaction (Program Exchange Completes completes_call completes_done completes_lift_bind)
open LastWrite (put puts)
open Sql (Piece)

/-- The user whose number the lookup of the token gave, with the pair posted. -/
structure Post where
  userIdx : Int
  latitude : Bytes
  longitude : Bytes
  deriving DecidableEq, Repr

namespace Post

def pair (post : Post) : Bytes × Bytes := (post.latitude, post.longitude)

/-- What is stored of it, under its key. -/
def entry (post : Post) : Bytes × Bytes :=
  (decimalInt post.userIdx, locationString post.latitude post.longitude)

end Post

/-- The post of a request that was served with this history, if it is one of `post_location`
and found its user. -/
def Job.posts (job : Job) (events : History) : List Post :=
  match job.handler, outcomes events with
  | .postLocation, [some users] =>
    match column users.head? 0, findValue job.req.parameter (ascii "latitude"),
        findValue job.req.parameter (ascii "longitude") with
    | .ok idx, .ok (some latitude), .ok (some longitude) => [⟨atoi idx, latitude, longitude⟩]
    | _, _, _ => []
  | _, _ => []

def RequestStep.posts (step : RequestStep) : List Post := step.event.op.posts step.event.answer

/-- The last pair among the posts of a kind, or the one that stands for none. -/
def lastPair (posts : List Post) (kind : Post → Bool) : Bytes × Bytes :=
  ((posts.reverse.find? kind).map Post.pair).getD (ascii "0.0", ascii "0.0")

/-- The last pair that a user posted. -/
def lastOf (posts : List Post) (userIdx : Int) : Bytes × Bytes :=
  lastPair posts fun post => post.userIdx = userIdx

/-- The last pair of the user whose number a text spells. -/
def lastSpelled (posts : List Post) (text : Bytes) : Bytes × Bytes :=
  lastPair posts fun post => decimalInt post.userIdx = text

/-- A text such as numbers are written with. -/
def Numeric (text : Bytes) : Prop :=
  ∀ c ∈ text, isDigit c = true ∨ c ∈ ascii "+-.eE"

instance (text : Bytes) : Decidable (Numeric text) := List.decidableBAll _ _

theorem Numeric.not_mem {text : Bytes} {c : UInt8} (numeric : Numeric text)
    (other : ¬ (isDigit c = true ∨ c ∈ ascii "+-.eE")) : c ∉ text :=
  fun member => other (numeric c member)

section Body

variable {latitude longitude latitude' longitude' : Bytes}

/-- The body shows the pair, as long as the latitudes have no comma. -/
theorem locationBody_inj (plain : chr ',' ∉ latitude) (plain' : chr ',' ∉ latitude')
    (same : locationBody latitude longitude = locationBody latitude' longitude') :
    latitude = latitude' ∧ longitude = longitude' := by
  have comma : ascii ",\"longitude\":" = chr ',' :: ascii "\"longitude\":" := by decide
  simp only [locationBody, comma, List.append_assoc, List.cons_append] at same
  have rest := List.append_cancel_left same
  have places := congrArg (findIdx · (chr ',')) rest
  rw [findIdx_append _ _ _ plain, findIdx_append _ _ _ plain'] at places
  have lengths : latitude.length = latitude'.length := by omega
  obtain ⟨first, behind⟩ := List.append_inj rest lengths
  have tails := List.append_cancel_left (List.cons.inj behind).2
  exact ⟨first, List.append_inj_left' tails rfl⟩

end Body

section Last

variable {posts : List Post} {text latitude longitude : Bytes}

theorem lastPair_plain (numeric : ∀ post ∈ posts, Numeric post.latitude) (kind : Post → Bool) :
    Numeric (lastPair posts kind).1 := by
  rw [lastPair]
  cases found : posts.reverse.find? kind with
  | none => exact show Numeric (ascii "0.0") by decide
  | some post => exact numeric post (List.mem_reverse.mp (List.mem_of_find?_eq_some found))

/-- `get_location` makes its body of the last pair that is stored under the text. -/
theorem locationReply_lastSpelled (numeric : ∀ post ∈ posts, Numeric post.latitude) :
    locationReply (LastWrite.get text (puts (posts.map Post.entry) [])) =
      sprintf 256 (locationBody (lastSpelled posts text).1 (lastSpelled posts text).2) := by
  have stored : LastWrite.get text (puts (posts.map Post.entry) []) =
      (posts.reverse.find? fun post => decimalInt post.userIdx = text).map fun post =>
        locationString post.latitude post.longitude := by
    rw [LastWrite.get_puts, LastWrite.get, ← List.map_reverse, List.find?_map, Option.map_map]
    rfl
  rw [stored, lastSpelled, lastPair]
  cases found : posts.reverse.find? fun post => decimalInt post.userIdx = text with
  | none => rfl
  | some post =>
      have plain := numeric post (List.mem_reverse.mp (List.mem_of_find?_eq_some found))
      exact (splits_locationString_iff.mpr (plain.not_mem (by decide))).reply

theorem locationReply_iff (numeric : ∀ post ∈ posts, Numeric post.latitude)
    (plain : Numeric latitude) :
    locationReply (LastWrite.get text (puts (posts.map Post.entry) [])) =
        .ok (locationBody latitude longitude) ↔
      lastSpelled posts text = (latitude, longitude) ∧
        latitude.length + longitude.length + 26 < 256 := by
  have length := locationBody_length latitude longitude
  rw [locationReply_lastSpelled numeric]
  constructor
  · intro written
    obtain ⟨fits, same⟩ := sprintf_ok written
    obtain ⟨first, second⟩ := locationBody_inj (plain.not_mem (by decide))
      ((lastPair_plain numeric _).not_mem (by decide)) same
    rw [← same] at fits
    exact ⟨Prod.ext first.symm second.symm, by omega⟩
  · intro parts
    obtain ⟨same, fits⟩ := parts
    rw [same]
    dsimp only
    exact if_neg (by omega)

end Last

/-- A call that leaves the list of locations as it is. -/
@[simp] def Call.KeepsLocations : Call → Prop
  | .pushLocation _ _ _ => False
  | _ => True

section Requests

variable {mysql : Mysql} {req : Request} {events : History} {s t : Shared}

theorem answers_locations {op : Call} {answer : Answer op} (keeps : op.KeepsLocations)
    (answered : mysql.Answers op answer s t) : t.locationList = s.locationList := by
  cases op with
  | connectionPop => rw [answered.2]
  | mysqlQuery connection capacity pieces =>
      cases understood : statementOf pieces with
      | none =>
          obtain ⟨-, tables, lastId, -, state⟩ := (Mysql.answers_other understood).mp answered
          rw [state]
      | some statement =>
          obtain ⟨-, failed | done⟩ := (Mysql.answers_statement understood).mp answered
          · rw [failed.2]
          · obtain ⟨gap, today, executed, rows, run, given, order, state⟩ := done
            rw [state]
  | pushLocation => exact keeps.elim
  | popLocation => exact congrArg Shared.locationList answered.2
  | _ => exact congrArg Shared.locationList answered

@[simp] theorem respond_keepsLocations {statusCode : Int} {statusMsg : String} {body : Bytes} :
    (respond req statusCode statusMsg body).Always Call.KeepsLocations :=
  ⟨trivial, fun _ => trivial⟩

@[simp] theorem serverErrer_keepsLocations {connection : Nat} :
    (serverErrer req connection).Always Call.KeepsLocations :=
  ⟨trivial, fun _ => respond_keepsLocations⟩

theorem signup_keepsLocations {ID password name : Bytes}
    (IDFound : findValue req.parameter (ascii "ID") = .ok (some ID))
    (passwordFound : findValue req.parameter (ascii "password") = .ok (some password))
    (nameFound : findValue req.parameter (ascii "name") = .ok (some name)) :
    (signup req).Always Call.KeepsLocations := by
  simp [signup, findParameter, IDFound, passwordFound, nameFound, Option.forall]

theorem login_keepsLocations {ID password : Bytes}
    (IDFound : findValue req.parameter (ascii "ID") = .ok (some ID))
    (passwordFound : findValue req.parameter (ascii "password") = .ok (some password)) :
    (login req).Always Call.KeepsLocations := by
  rw [login_given IDFound passwordFound]
  apply always_connectionPop.mpr
  refine ⟨trivial, fun connection => ?_⟩
  apply always_mysqlQuery.mpr
  refine ⟨trivial, fun outcome => ?_⟩
  cases outcome with
  | none => exact serverErrer_keepsLocations
  | some rows =>
      apply Program.always_lift_bind.mpr
      intro stored _
      apply Program.always_ite.mpr
      constructor
      · intro _
        apply Program.Always.bind (createToken_always trivial 50)
        intro token
        simp [Option.forall]
      · intro _
        simp

theorem keepsLocations_same {program : Prog Unit} (keeps : program.Always Call.KeepsLocations)
    (completes : Completes mysql.Answers program s events () t) :
    t.locationList = s.locationList := by
  have same : s.locationList = t.locationList := by
    apply Completes.keeps (R := fun s t => s.locationList = t.locationList) completes keeps
    · exact fun _ => rfl
    · exact fun _ _ _ => Eq.trans
    · intro op answer s t kept answered
      exact (answers_locations kept answered).symm
  exact same.symm

/-- `get_location` sends what it makes of the text that is stored under the ID. -/
theorem getLocation_serves {token userID : Bytes} {found : Option Bytes}
    (tokenFound : findValue req.parameter (ascii "token") = .ok (some token))
    (userFound : findValue req.parameter (ascii "user_ID") = .ok (some userID))
    (stored : popNode s.locationList userID = .ok found) :
    mysql.Serves ⟨.getLocation, req⟩ events s t ↔
      ∃ body, locationReply found = .ok body ∧ t = s ∧
        events = [⟨.popLocation userID, found⟩,
          ⟨.response ⟨200, ascii "OK", req.version, body⟩, ()⟩] := by
  have program : (⟨.getLocation, req⟩ : Job).program = popLocation userID >>= fun location =>
      Program.lift (locationReply location) >>= fun body => respond req 200 "OK" body := by
    have whole : (⟨.getLocation, req⟩ : Job).program = getLocation req := rfl
    rw [whole]
    simp only [getLocation, findParameter, tokenFound, userFound, Program.lift_ok_bind]
  rw [Mysql.Serves, program]
  refine completes_call.trans ?_
  constructor
  · intro parts
    obtain ⟨location, middle, later, whole, popped, rest⟩ := parts
    obtain ⟨given, same⟩ := popped
    subst same
    rw [stored] at given
    cases given
    obtain ⟨body, written, sends⟩ := completes_lift_bind.mp rest
    obtain ⟨last, stays⟩ := completes_respond.mp sends
    exact ⟨body, written, stays, by rw [whole, last]⟩
  · intro parts
    obtain ⟨body, written, stays, whole⟩ := parts
    refine ⟨found, s, _, whole, ⟨stored, rfl⟩, ?_⟩
    exact completes_lift_bind.mpr ⟨body, written, completes_respond.mpr ⟨rfl, stays⟩⟩

/-- A pair whose length is no `int` is not pushed. -/
theorem pushNode_long {entries : List (Bytes × Bytes)} {userId latitude longitude : Bytes}
    (long : ¬ latitude.length + longitude.length + 2 < 2 ^ 31) :
    ∃ fault, pushNode (entries.map Node.entry) userId latitude longitude = .error fault := by
  have text : ∃ fault, locationText latitude longitude = .error fault := by
    have length := locationString_length latitude longitude
    refine ⟨_, if_pos ?_⟩
    rw [← locationString]
    omega
  obtain ⟨fault, failed⟩ := text
  refine ⟨fault, ?_⟩
  induction entries with
  | nil => simp only [List.map_nil, pushNode, failed, bind, Except.bind]
  | cons entry entries ih =>
      rw [List.map_cons, pushNode]
      by_cases same : userId = entry.1
      · simp only [Node.entry, same, ↓reduceIte, failed, bind, Except.bind]
      · simp only [Node.entry, same, ↓reduceIte, bind, Except.bind]
        rw [ih]

theorem pushNode_ok {entries : List (Bytes × Bytes)} {userId latitude longitude : Bytes}
    {list : List Node}
    (pushed : pushNode (entries.map Node.entry) userId latitude longitude = .ok list) :
    list = (put userId (locationString latitude longitude) entries).map Node.entry := by
  by_cases short : latitude.length + longitude.length + 2 < 2 ^ 31
  · rw [pushNode_entries short] at pushed
    exact (Except.ok.inj pushed).symm
  · have stops : ∃ fault, pushNode (entries.map Node.entry) userId latitude longitude =
        .error fault := pushNode_long short
    obtain ⟨fault, failed⟩ := stops
    rw [failed] at pushed
    cases pushed

theorem getLocation_keepsLocations {token userID : Bytes}
    (tokenFound : findValue req.parameter (ascii "token") = .ok (some token))
    (userFound : findValue req.parameter (ascii "user_ID") = .ok (some userID)) :
    (getLocation req).Always Call.KeepsLocations := by
  simp [getLocation, findParameter, tokenFound, userFound]

/-- `post_location` stores the pair under the number of a user whom the token gave. -/
theorem postLocation_serves {token latitude longitude : Bytes}
    (read : sqlString (chr '\'') token = some token)
    (tokenFound : findValue req.parameter (ascii "token") = .ok (some token))
    (latitudeFound : findValue req.parameter (ascii "latitude") = .ok (some latitude))
    (longitudeFound : findValue req.parameter (ascii "longitude") = .ok (some longitude))
    (served : mysql.Serves ⟨.postLocation, req⟩ events s t) (answered : none ∉ outcomes events) :
    ∃ users, ∃ user ∈ s.tables.usersByToken mysql.same token, outcomes events = [some users] ∧
      Reads users user.idx ∧
        pushNode s.locationList (decimalInt user.idx) latitude longitude = .ok t.locationList := by
  have program : (⟨.postLocation, req⟩ : Job).program = connectionPop >>= fun connection =>
      getUserIdx connection token >>= fun idx =>
        Program.lift (sprintf 30 (decimalInt idx)) >>= fun num =>
          pushLocation num latitude longitude >>= fun _ =>
            Program.lift (sprintf 50 (statusBody "OK")) >>= fun body =>
              connectionPush connection >>= fun _ => respond req 200 "OK" body := by
    have whole : (⟨.postLocation, req⟩ : Job).program = postLocation req := rfl
    rw [whole]
    simp only [postLocation, findParameter, tokenFound, latitudeFound, longitudeFound,
      Program.lift_ok_bind]
  rw [Mysql.Serves, program] at served
  obtain ⟨looked, whole, looks⟩ := completes_pop.mp served
  obtain ⟨outcome, later, split, known⟩ := completes_getUserIdx read looks
  subst whole split
  rcases known with ⟨failed, -⟩ | ⟨users, user, member, given, reads, rest⟩
  · subst failed
    exact absurd (List.mem_cons_self ..) answered
  · subst given
    obtain ⟨num, written, pushes⟩ := completes_lift_bind.mp rest
    obtain ⟨-, same⟩ := sprintf_ok written
    subst same
    obtain ⟨done, middle, behind, whole, pushed, ends⟩ := completes_call.mp pushes
    obtain ⟨list, stored, state⟩ := pushed
    obtain ⟨body, -, releases⟩ := completes_lift_bind.mp ends
    obtain ⟨last, split, replies⟩ := completes_push.mp releases
    obtain ⟨reply, stays⟩ := completes_respond.mp replies
    refine ⟨users, user, member, ?_, reads, ?_⟩
    · rw [whole, split, reply]
      rfl
    · rw [stays, state]
      exact stored

end Requests

/-- The requests that the locations are about. -/
def locationHandlers : List Handler := [.signup, .login, .postLocation, .getLocation]

section Steps

variable {mysql : Mysql} {job : Job} {events : History} {s t : Shared}
  {entries : List (Bytes × Bytes)}

theorem posts_of_other (other : job.handler ≠ .postLocation) : job.posts events = [] := by
  rw [Job.posts]
  split
  · rename_i posts _
    exact absurd posts other
  · rfl

theorem posts_of_quiet (quiet : outcomes events = []) : job.posts events = [] := by
  rw [Job.posts, quiet]
  split
  · rename_i queries
    cases queries
  · rfl

theorem posts_range {post : Post} (member : post ∈ job.posts events) :
    -(2 ^ 31) ≤ post.userIdx ∧ post.userIdx < 2 ^ 31 := by
  rw [Job.posts] at member
  split at member
  · split at member
    · rw [List.mem_singleton] at member
      rw [member]
      exact atoi_range _
    · cases member
  · cases member

theorem keepsLocations_of_other (among : job.handler ∈ locationHandlers)
    (other : job.handler ≠ .postLocation) (accepts : job.handler.Accepts job.req) :
    job.program.Always Call.KeepsLocations := by
  obtain ⟨handler, req⟩ := job
  cases accepts.given with
  | signup IDFound passwordFound nameFound =>
      exact signup_keepsLocations IDFound passwordFound nameFound
  | login IDFound passwordFound => exact login_keepsLocations IDFound passwordFound
  | getLocation tokenFound userFound => exact getLocation_keepsLocations tokenFound userFound
  | postLocation => exact absurd rfl other
  | _ =>
      simp only [locationHandlers] at among
      exact absurd among (by decide)

/-- The list is written to by what is posted, and by nothing else. -/
theorem locationList_posts (served : mysql.Serves job events s t) (readable : job.Readable)
    (among : job.handler ∈ locationHandlers) (answered : none ∉ outcomes events)
    (list : s.locationList = entries.map Node.entry) :
    t.locationList = (puts ((job.posts events).map Post.entry) entries).map Node.entry := by
  rcases served.accepts with ⟨sent, same⟩ | accepts
  · have quiet : outcomes events = [] := by
      rw [sent]
      rfl
    rw [posts_of_quiet quiet, same]
    exact list
  by_cases posts : job.handler = .postLocation
  · obtain ⟨handler, req⟩ := job
    obtain rfl : handler = .postLocation := posts
    cases accepts.given with
    | @postLocation token latitude longitude tokenFound latitudeFound longitudeFound =>
        have tokenRead := readable.single (by simp [Handler.insertions]) tokenFound
        obtain ⟨users, user, member, queries, reads, pushed⟩ :=
          postLocation_serves tokenRead tokenFound latitudeFound longitudeFound served answered
        obtain ⟨text, first, number⟩ := reads
        have posted :
            Job.posts ⟨.postLocation, req⟩ events = [⟨user.idx, latitude, longitude⟩] := by
          simp only [Job.posts, queries, first, latitudeFound, longitudeFound, number]
        rw [list] at pushed
        rw [posted]
        exact pushNode_ok pushed
  · rw [posts_of_other posts,
      keepsLocations_same (keepsLocations_of_other among posts accepts) served]
    exact list

theorem locationList_run {run : List RequestStep} (serial : mysql.Serial s run t)
    (readable : ∀ step ∈ run, step.event.op.Readable)
    (among : ∀ step ∈ run, step.event.op.handler ∈ locationHandlers)
    (answered : ∀ step ∈ run, none ∉ outcomes step.event.answer)
    (list : s.locationList = entries.map Node.entry) :
    t.locationList =
      (puts ((run.flatMap RequestStep.posts).map Post.entry) entries).map Node.entry := by
  induction serial generalizing entries with
  | nil s => exact list
  | @cons step run u served later ih =>
      rw [List.forall_mem_cons] at readable among answered
      have first := locationList_posts served readable.1 among.1 answered.1 list
      rw [ih readable.2 among.2 answered.2 first, List.flatMap_cons, List.map_append,
        LastWrite.puts_append, RequestStep.posts]

end Steps

/-- The request is served, and always with this one reply. -/
def AnswersWith (mysql : Mysql) (job : Job) (s : Shared) (reply : Reply) : Prop :=
  (∃ events t, mysql.Serves job events s t) ∧
    ∀ events t, mysql.Serves job events s t → replies events = [reply]

/-- `get_location` answers this pair. -/
def AnswersLocation (mysql : Mysql) (req : Request) (s : Shared) (pair : Bytes × Bytes) : Prop :=
  AnswersWith mysql ⟨.getLocation, req⟩ s
    ⟨200, ascii "OK", req.version, locationBody pair.1 pair.2⟩

section Lookup

variable {mysql : Mysql} {req : Request} {s t : Shared} {run : List RequestStep} {posts : List Post}
  {pair : Bytes × Bytes}

theorem answersLocation_iff {token userID : Bytes} {found : Option Bytes}
    (tokenFound : findValue req.parameter (ascii "token") = .ok (some token))
    (userFound : findValue req.parameter (ascii "user_ID") = .ok (some userID))
    (stored : popNode s.locationList userID = .ok found) :
    AnswersLocation mysql req s pair ↔ locationReply found = .ok (locationBody pair.1 pair.2) := by
  have serves (events : History) (t : Shared) : mysql.Serves ⟨.getLocation, req⟩ events s t ↔ _ :=
    getLocation_serves tokenFound userFound stored
  constructor
  · intro answers
    obtain ⟨⟨events, t, served⟩, always⟩ := answers
    have replied := always events t served
    obtain ⟨body, written, -, whole⟩ := (serves events t).mp served
    rw [whole] at replied
    cases replied
    exact written
  · intro written
    refine ⟨⟨_, s, (serves _ s).mpr ⟨_, written, rfl, rfl⟩⟩, ?_⟩
    intro events t served
    obtain ⟨body, again, -, whole⟩ := (serves events t).mp served
    rw [written] at again
    cases again
    rw [whole]
    rfl

/-- The number of a user spells the user. -/
theorem lastSpelled_decimalInt {userIdx : Int}
    (range : ∀ post ∈ posts, -(2 ^ 31) ≤ post.userIdx ∧ post.userIdx < 2 ^ 31)
    (lower : -(2 ^ 31) ≤ userIdx) (upper : userIdx < 2 ^ 31) :
    lastSpelled posts (decimalInt userIdx) = lastOf posts userIdx := by
  rw [lastSpelled, lastOf, lastPair, lastPair]
  congr 2
  apply List.find?_congr
  intro post member
  have within := range post (List.mem_reverse.mp member)
  have number := atoi_decimalInt within.1 within.2
  apply decide_eq_decide.mpr
  constructor
  · intro same
    rw [← number, same, atoi_decimalInt lower upper]
  · intro same
    rw [same]

end Lookup

section Samples

/-- A user signs up, logs in and posts a location. -/
def postJobs : List Job := arrival (ascii "i") ++
  [⟨.postLocation, requestOf [("token", tokenOn 1), ("latitude", ascii "37.5"),
    ("longitude", ascii "127.0")]⟩]

/-- Someone asks where the user is. -/
def lookupRequest : Request := requestOf [("token", tokenOn 1), ("user_ID", ascii "i")]

theorem postJobs_served : ∃ run t, Mysql.strict.Serial .start run t ∧
    (∀ step ∈ run, step.event.op.Readable) ∧
      (∀ step ∈ run, step.event.op.handler ∈ locationHandlers) ∧
        (∀ step ∈ run, none ∉ outcomes step.event.answer) ∧
          t.tables.user.rows = [⟨1, some (ascii "n"), some (ascii "i"), some (ascii "p")⟩] ∧
            run.flatMap RequestStep.posts = [⟨1, ascii "37.5", ascii "127.0"⟩] := by
  have served : (Mysql.strict.serveAll [] postJobs .start).map (fun served =>
      (decide (∀ step ∈ served.1, step.event.op.handler ∈ locationHandlers),
        decide (∀ step ∈ served.1, none ∉ outcomes step.event.answer), served.2.tables.user.rows,
          served.1.flatMap RequestStep.posts)) =
      some (true, true, [⟨1, some (ascii "n"), some (ascii "i"), some (ascii "p")⟩],
        [⟨1, ascii "37.5", ascii "127.0"⟩]) := by
    decide +kernel
  obtain ⟨⟨run, t⟩, found, same⟩ := Option.map_eq_some_iff.mp served
  simp only [Prod.mk.injEq, decide_eq_true_eq] at same
  have readable : ∀ job ∈ postJobs, job.handler.Readable job.req := by decide
  exact ⟨run, t, Mysql.serveAll_serial _ _ found,
    readable_of_jobs (Mysql.serveAll_jobs _ _ found) readable, same⟩

theorem postJobs_numeric : ∀ post ∈ [(⟨1, ascii "37.5", ascii "127.0"⟩ : Post)],
    Numeric post.latitude := by decide

end Samples

end Ttac
