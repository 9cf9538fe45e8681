import Ttac.HandlerHistory
import Ttac.ListRows
import Ttac.Lib.Json

set_option autoImplicit false

/- What a JSON reader makes of the lists in the responses. -/
namespace Ttac

open Interaction (Program Exchange Status)
open Interaction.Program (Meets)
open Json (Plain room elementsRoom)
open Sql (Piece)

/-- What a list is made of: the row of an entry, the text that is printed for it, and the value
it should be read as. `Clean` entries are read as that value, and no other entry has the
room for it. -/
structure Listing (Entry : Type) where
  row : Entry → Row
  tmp : Row → Except Fault Bytes
  text : Entry → Bytes
  json : Entry → Json.Value
  Clean : Entry → Prop
  prints : ∀ entry, tmp (row entry) = sprintf 100 (text entry)
  opens : ∀ entry, ∃ later, text entry = chr '\x7b' :: later
  long : ∀ entry, 3 ≤ (text entry).length
  reads : ∀ entry, Clean entry → ∀ fuel rest,
    Json.value (fuel + 7) (text entry ++ rest) = some (json entry, rest)
  room_le : ∀ entry, (text entry).length ≤ room (json entry)
  room_eq : ∀ entry, room (json entry) = (text entry).length → Clean entry

namespace Listing

variable {Entry : Type} (listing : Listing Entry)

def body (entries : List Entry) : Bytes :=
  ascii "[" ++ separated false (entries.map listing.text) ++ ascii "]"

def value (entries : List Entry) : Json.Value := .array (entries.map listing.json)

/-- What is sent for the rows of the entries is their body. -/
theorem body_of_written {entries : List Entry} {sent : Bytes}
    (written : writeList listing.tmp (entries.map listing.row) = .ok sent) :
    sent = listing.body entries := by
  obtain ⟨texts, each, same⟩ := writeList_ok written
  have all : texts = entries.map listing.text := by
    clear same written
    induction entries generalizing texts with
    | nil =>
        cases each
        rfl
    | cons entry entries ih =>
        cases each with
        | @cons _ text _ texts printed each =>
            rw [listing.prints] at printed
            rw [List.map_cons, ih texts each, (sprintf_ok printed).2]
  rw [same, all, body]

section Reading

theorem elements_of_clean (fuel : Nat) (rest : Bytes) {entry : Entry} {entries : List Entry}
    (clean : ∀ e ∈ entry :: entries, listing.Clean e) :
    Json.elements (fuel + entries.length + 8)
        (separated false ((entry :: entries).map listing.text) ++ chr ']' :: rest) =
      some ((entry :: entries).map listing.json, rest) := by
  induction entries generalizing entry with
  | nil =>
      have read := listing.reads entry (clean entry (List.mem_cons_self ..)) fuel (chr ']' :: rest)
      have whole : separated false [listing.text entry] = listing.text entry := by
        simp [separated]
      rw [List.map_cons, List.map_nil, whole]
      exact Json.elements_last read
  | cons next entries ih =>
      have later := ih (fun e member => clean e (List.mem_cons_of_mem _ member))
      have read := listing.reads entry (clean entry (List.mem_cons_self ..))
        (fuel + entries.length + 1)
        (chr ',' :: (separated false ((next :: entries).map listing.text) ++ chr ']' :: rest))
      have whole : separated false ((entry :: next :: entries).map listing.text) ++
        chr ']' :: rest =
          listing.text entry ++ chr ',' ::
            (separated false ((next :: entries).map listing.text) ++ chr ']' :: rest) := by
        have comma : ascii "," = [chr ','] := rfl
        simp [separated, comma]
      rw [whole]
      exact Json.elements_cons read later

theorem separated_length (entries : List Entry) (flag : Bool) :
    3 * entries.length ≤ (separated flag (entries.map listing.text)).length := by
  induction entries generalizing flag with
  | nil => exact Nat.zero_le _
  | cons entry entries ih =>
      have long := listing.long entry
      have later := ih true
      simp only [List.map_cons, separated, List.length_append, List.length_cons]
      omega

theorem parse_of_clean {entries : List Entry} (clean : ∀ e ∈ entries, listing.Clean e) :
    Json.parse (listing.body entries) = some (listing.value entries) := by
  cases entries with
  | nil => rfl
  | cons entry entries =>
      obtain ⟨later, opens⟩ := listing.opens entry
      have whole : listing.body (entry :: entries) = chr '[' ::
          (separated false ((entry :: entries).map listing.text) ++ chr ']' :: []) := by
        have first : ascii "[" = [chr '['] := rfl
        have last : ascii "]" = [chr ']'] := rfl
        simp [body, first, last]
      have enough : entries.length + 8 ≤ 2 * (listing.body (entry :: entries)).length + 1 := by
        have length := listing.separated_length (entry :: entries) false
        rw [whole]
        simp only [List.length_cons, List.length_append, List.length_nil] at length ⊢
        omega
      obtain ⟨fuel, split⟩ := Nat.exists_eq_add_of_le' enough
      have read := listing.elements_of_clean fuel [] clean
      have start : separated false ((entry :: entries).map listing.text) =
          chr '\x7b' :: (later ++ separated true (entries.map listing.text)) := by
        simp [separated, opens]
      rw [start, List.cons_append] at read whole
      have parsed := Json.value_array read
      have steps : 2 * (listing.body (entry :: entries)).length + 2 =
          fuel + entries.length + 8 + 1 := by omega
      rw [Json.parse, steps, whole, parsed]
      rfl

theorem separated_le_room (entries : List Entry) :
    (separated true (entries.map listing.text)).length ≤
      elementsRoom (entries.map listing.json) := by
  have comma : (ascii ",").length = 1 := rfl
  induction entries with
  | nil => exact Nat.zero_le _
  | cons entry entries ih =>
      have one := listing.room_le entry
      simp only [List.map_cons, separated, ↓reduceIte, List.length_append, comma, elementsRoom]
      omega

/-- There is no room for an escape. -/
theorem clean_of_room {entries : List Entry} (fits : elementsRoom (entries.map listing.json) ≤
    (separated true (entries.map listing.text)).length) : ∀ e ∈ entries, listing.Clean e := by
  have comma : (ascii ",").length = 1 := rfl
  induction entries with
  | nil =>
      intro e member
      cases member
  | cons entry entries ih =>
      have one := listing.room_le entry
      have others := listing.separated_le_room entries
      simp only [List.map_cons, separated, ↓reduceIte, List.length_append, comma,
        elementsRoom] at fits
      have clean := listing.room_eq entry (by omega)
      have rest := ih (by omega)
      exact List.forall_mem_cons.mpr ⟨clean, rest⟩

/-- The body of a list is read as its entries exactly when each of them is clean. -/
theorem parse_iff (entries : List Entry) :
    Json.parse (listing.body entries) = some (listing.value entries) ↔
      ∀ e ∈ entries, listing.Clean e := by
  constructor
  · intro parsed
    cases entries with
    | nil =>
        intro e member
        cases member
    | cons entry entries =>
        have enough := Json.parse_room parsed
        apply listing.clean_of_room
        have first : (ascii "[").length = 1 := rfl
        have last : (ascii "]").length = 1 := rfl
        have comma : (ascii ",").length = 1 := rfl
        simp only [body, value, room, List.map_cons, separated, Bool.false_eq_true, ↓reduceIte,
          List.nil_append, List.length_append, first, last, comma, elementsRoom] at enough ⊢
        omega
  · exact listing.parse_of_clean

end Reading

end Listing

section Entries

structure GroupEntry where
  id : Int
  name : Bytes
  owner : Bytes

structure TodoEntry where
  deadline : Bytes
  detail : Bytes

structure ChatEntry where
  id : Int
  userID : Bytes
  chatType : Bytes
  content : Bytes
  chatTime : Bytes

def groupJson (entry : GroupEntry) : Json.Value :=
  .object [(ascii "id", .number (decimalInt entry.id)), (ascii "name", .string entry.name),
    (ascii "owner", .string entry.owner)]

def todoJson (entry : TodoEntry) : Json.Value :=
  .object [(ascii "deadline", .string entry.deadline), (ascii "detail", .string entry.detail)]

def chatJson (entry : ChatEntry) : Json.Value :=
  .object [(ascii "id", .number (decimalInt entry.id)), (ascii "user_ID", .string entry.userID),
    (ascii "chat_type", .string entry.chatType), (ascii "content", .string entry.content),
    (ascii "chat_time", .string entry.chatTime)]

theorem stringRoom_le (text : Bytes) : text.length ≤ Json.stringRoom text :=
  Nat.le_add_right _ _

theorem groupJson_room (entry : GroupEntry) : room (groupJson entry) =
    28 + (decimalInt entry.id).length + Json.stringRoom entry.name +
      Json.stringRoom entry.owner := by
  have id : Json.stringRoom (ascii "id") = 2 := by decide
  have name : Json.stringRoom (ascii "name") = 4 := by decide
  have owner : Json.stringRoom (ascii "owner") = 5 := by decide
  simp only [groupJson, room, Json.membersRoom, id, name, owner]
  omega

theorem todoJson_room (entry : TodoEntry) : room (todoJson entry) =
    27 + Json.stringRoom entry.deadline + Json.stringRoom entry.detail := by
  have deadline : Json.stringRoom (ascii "deadline") = 8 := by decide
  have detail : Json.stringRoom (ascii "detail") = 6 := by decide
  simp only [todoJson, room, Json.membersRoom, deadline, detail]
  omega

theorem chatJson_room (entry : ChatEntry) : room (chatJson entry) =
    63 + (decimalInt entry.id).length + Json.stringRoom entry.userID +
      Json.stringRoom entry.chatType + Json.stringRoom entry.content +
        Json.stringRoom entry.chatTime := by
  have id : Json.stringRoom (ascii "id") = 2 := by decide
  have userID : Json.stringRoom (ascii "user_ID") = 7 := by decide
  have chatType : Json.stringRoom (ascii "chat_type") = 9 := by decide
  have content : Json.stringRoom (ascii "content") = 7 := by decide
  have chatTime : Json.stringRoom (ascii "chat_time") = 9 := by decide
  simp only [chatJson, room, Json.membersRoom, id, userID, chatType, content, chatTime]
  omega

/-- The members of an object, each in front of the rest of the text. -/
def memberText (key : Bytes) (rest : Bytes) : Bytes :=
  chr '"' :: (key ++ chr '"' :: chr ':' :: rest)

def quotedText (text : Bytes) (rest : Bytes) : Bytes := chr '"' :: (text ++ chr '"' :: rest)

theorem groupText_append (id name owner rest : Bytes) : groupText id name owner ++ rest =
    chr '\x7b' :: memberText (ascii "id") (id ++ chr ',' ::
      memberText (ascii "name") (quotedText name (chr ',' ::
        memberText (ascii "owner") (quotedText owner (chr '\x7d' :: rest))))) := by
  have first : ascii "\x7b\"id\":" = chr '\x7b' :: chr '"' :: (ascii "id" ++ [chr '"', chr ':']) :=
    rfl
  have second : ascii ",\"name\":\"" =
      chr ',' :: chr '"' :: (ascii "name" ++ [chr '"', chr ':', chr '"']) := rfl
  have third : ascii "\",\"owner\":\"" =
      chr '"' :: chr ',' :: chr '"' :: (ascii "owner" ++ [chr '"', chr ':', chr '"']) := rfl
  have last : ascii "\"\x7d" = [chr '"', chr '\x7d'] := rfl
  simp only [groupText, memberText, quotedText, first, second, third, last, List.append_assoc,
    List.cons_append, List.nil_append]

theorem group_reads (entry : GroupEntry) (clean : Plain entry.name ∧ Plain entry.owner) (fuel : Nat)
    (rest : Bytes) : Json.value (fuel + 7)
      (groupText (decimalInt entry.id) entry.name entry.owner ++ rest) =
        some (groupJson entry, rest) := by
  rw [groupText_append]
  apply Json.value_object
  apply Json.members_cons (by decide) (Json.value_number entry.id (by decide))
  apply Json.members_cons (by decide) (Json.value_string clean.1)
  exact Json.members_last (by decide) (Json.value_string clean.2)

theorem chatText_append (id userID chatType content chatTime rest : Bytes) :
    chatText id userID chatType content chatTime ++ rest =
      chr '\x7b' :: memberText (ascii "id") (id ++ chr ',' ::
        memberText (ascii "user_ID") (quotedText userID (chr ',' ::
          memberText (ascii "chat_type") (quotedText chatType (chr ',' ::
            memberText (ascii "content") (quotedText content (chr ',' ::
              memberText (ascii "chat_time") (quotedText chatTime (chr '\x7d' :: rest))))))))) := by
  have first : ascii "\x7b\"id\":" = chr '\x7b' :: chr '"' :: (ascii "id" ++ [chr '"', chr ':']) :=
    rfl
  have second : ascii ",\"user_ID\":\"" =
      chr ',' :: chr '"' :: (ascii "user_ID" ++ [chr '"', chr ':', chr '"']) := rfl
  have third : ascii "\",\"chat_type\":\"" =
      chr '"' :: chr ',' :: chr '"' :: (ascii "chat_type" ++ [chr '"', chr ':', chr '"']) := rfl
  have fourth : ascii "\",\"content\":\"" =
      chr '"' :: chr ',' :: chr '"' :: (ascii "content" ++ [chr '"', chr ':', chr '"']) := rfl
  have fifth : ascii "\",\"chat_time\":\"" =
      chr '"' :: chr ',' :: chr '"' :: (ascii "chat_time" ++ [chr '"', chr ':', chr '"']) := rfl
  have last : ascii "\"\x7d" = [chr '"', chr '\x7d'] := rfl
  simp only [chatText, memberText, quotedText, first, second, third, fourth, fifth, last,
    List.append_assoc, List.cons_append, List.nil_append]

theorem chat_reads (entry : ChatEntry)
    (clean : Plain entry.userID ∧ Plain entry.chatType ∧ Plain entry.content ∧ Plain entry.chatTime)
    (fuel : Nat) (rest : Bytes) : Json.value (fuel + 7)
      (chatText (decimalInt entry.id) entry.userID entry.chatType entry.content entry.chatTime ++
        rest) = some (chatJson entry, rest) := by
  obtain ⟨userID, chatType, content, chatTime⟩ := clean
  rw [chatText_append]
  apply Json.value_object
  apply Json.members_cons (by decide) (Json.value_number entry.id (by decide))
  apply Json.members_cons (by decide) (Json.value_string userID)
  apply Json.members_cons (by decide) (Json.value_string chatType)
  apply Json.members_cons (by decide) (Json.value_string content)
  exact Json.members_last (by decide) (Json.value_string chatTime)

theorem plain_of_room {text : Bytes} (room : Json.stringRoom text ≤ text.length) : Plain text :=
  (Json.plain_iff text).mpr (Nat.le_antisymm room (stringRoom_le text))

def groups : Listing GroupEntry where
  row := fun entry => [some (decimalInt entry.id), some entry.name, some entry.owner]
  tmp := groupRow
  text := fun entry => groupText (decimalInt entry.id) entry.name entry.owner
  json := groupJson
  Clean := fun entry => Plain entry.name ∧ Plain entry.owner
  prints := fun _ => groupRow_some _ _ _
  opens := fun entry =>
    ⟨_, by rw [← List.append_nil (groupText _ _ _)]; exact groupText_append _ _ _ _⟩
  long := by
    intro entry
    rw [groupText_length]
    omega
  reads := group_reads
  room_le := by
    intro entry
    have name := stringRoom_le entry.name
    have owner := stringRoom_le entry.owner
    rw [groupText_length, groupJson_room]
    omega
  room_eq := by
    intro entry same
    have name := stringRoom_le entry.name
    have owner := stringRoom_le entry.owner
    rw [groupText_length, groupJson_room] at same
    exact ⟨plain_of_room (by omega), plain_of_room (by omega)⟩

/-- The date stands without quotes, so that its text is never long enough for a string. -/
def todos : Listing TodoEntry where
  row := fun entry => [some entry.deadline, some entry.detail]
  tmp := todoRow
  text := fun entry => todoText entry.deadline entry.detail
  json := todoJson
  Clean := fun _ => False
  prints := fun _ => todoRow_some _ _
  opens := fun _ => ⟨_, rfl⟩
  long := by
    intro entry
    rw [todoText_length]
    omega
  reads := fun _ clean => clean.elim
  room_le := by
    intro entry
    have deadline := stringRoom_le entry.deadline
    have detail := stringRoom_le entry.detail
    rw [todoText_length, todoJson_room]
    omega
  room_eq := by
    intro entry same
    have deadline := stringRoom_le entry.deadline
    have detail := stringRoom_le entry.detail
    rw [todoText_length, todoJson_room] at same
    omega

def chats : Listing ChatEntry where
  row := fun entry => [some (decimalInt entry.id), some entry.chatType, some entry.content,
    some entry.chatTime, some entry.userID]
  tmp := chatRow
  text := fun entry =>
    chatText (decimalInt entry.id) entry.userID entry.chatType entry.content entry.chatTime
  json := chatJson
  Clean := fun entry =>
    Plain entry.userID ∧ Plain entry.chatType ∧ Plain entry.content ∧ Plain entry.chatTime
  prints := fun _ => chatRow_some _ _ _ _ _
  opens := fun entry =>
    ⟨_, by rw [← List.append_nil (chatText _ _ _ _ _)]; exact chatText_append _ _ _ _ _ _⟩
  long := by
    intro entry
    rw [chatText_length]
    omega
  reads := chat_reads
  room_le := by
    intro entry
    have userID := stringRoom_le entry.userID
    have chatType := stringRoom_le entry.chatType
    have content := stringRoom_le entry.content
    have chatTime := stringRoom_le entry.chatTime
    rw [chatText_length, chatJson_room]
    omega
  room_eq := by
    intro entry same
    have userID := stringRoom_le entry.userID
    have chatType := stringRoom_le entry.chatType
    have content := stringRoom_le entry.content
    have chatTime := stringRoom_le entry.chatTime
    rw [chatText_length, chatJson_room] at same
    exact ⟨plain_of_room (by omega), plain_of_room (by omega), plain_of_room (by omega),
      plain_of_room (by omega)⟩

end Entries

/-- The rows of the last query whose columns are printed. -/
def listed (last : Option (List Row)) : History → Option (List Row)
  | [] => last
  | ⟨.mysqlQuery _ _ pieces, outcome⟩ :: events =>
    listed (if PrintsRows pieces then outcome else last) events
  | _ :: events => listed last events

theorem listed_query (last : Option (List Row)) (connection capacity : Nat) (pieces : List Piece)
    (outcome : Option (List Row)) (events : History) :
    listed last (⟨.mysqlQuery connection capacity pieces, outcome⟩ :: events) =
      listed (if PrintsRows pieces then outcome else last) events := rfl

theorem listed_append (last : Option (List Row)) (first second : History) :
    listed last (first ++ second) = listed (listed last first) second := by
  induction first generalizing last with
  | nil => rfl
  | cons event first ih =>
      obtain ⟨op, outcome⟩ := event
      cases op <;> exact ih _

/-- The program sends the body behind a query that had these rows. -/
def Sends (program : Prog Unit) (rows : List Row) (body : Bytes) : Prop :=
  ∃ events reply rest, program.Runs (events ++ [⟨.response reply, ()⟩]) rest ∧
    listed none events = some rows ∧ reply.body = body

/-- A reply behind rows is the list of them. -/
def Wrote (tmp : Row → Except Fault Bytes) (last : Option (List Row)) : HistorySpec Unit :=
  fun events status => ∀ reply, status = .calling (.response reply) →
    ∀ rows, listed last events = some rows → writeList tmp rows = .ok reply.body

section Sending

variable {tmp : Row → Except Fault Bytes} {last : Option (List Row)} {req : Request}
  {connection capacity : Nat} {pieces : List Piece} {rows : List Row} {body : Bytes}

theorem Sends.written {program : Prog Unit} (meets : program.Meets (Wrote tmp none))
    (sends : Sends program rows body) : writeList tmp rows = .ok body := by
  obtain ⟨events, reply, rest, runs, seen, same⟩ := sends
  obtain ⟨next, before⟩ := runs.calling
  have wrote := (Program.meets_iff _).mp meets events _ before reply rfl rows seen
  rw [← same]
  exact wrote

theorem wrote_failed (fault : Fault) : Wrote tmp last [] (.failed fault) := by
  intro reply same
  cases same

theorem wrote_call {op : Call} (other : ∀ reply, op ≠ .response reply) :
    Wrote tmp last [] (.calling op) := by
  intro reply same
  cases same
  exact absurd rfl (other reply)

theorem Wrote.pop {next : Nat → Prog Unit}
    (later : ∀ connection, (next connection).Meets (Wrote tmp last)) :
    (connectionPop >>= next).Meets (Wrote tmp last) :=
  meets_connectionPop.mpr ⟨wrote_call (by simp), later⟩

/-- The columns of the query are worked with. -/
theorem Wrote.query {next : Option (List Row) → Prog Unit} (worked : ¬ PrintsRows pieces)
    (later : ∀ outcome, (next outcome).Meets (Wrote tmp last)) :
    (mysqlQuery connection capacity pieces >>= next).Meets (Wrote tmp last) := by
  apply meets_mysqlQuery.mpr
  refine ⟨wrote_call (by simp), ?_⟩
  intro outcome
  have seen : (fun events => Wrote tmp last
      (⟨.mysqlQuery connection capacity pieces, outcome⟩ :: events)) = Wrote tmp last := by
    funext events status
    rw [Wrote, listed_query, if_neg worked]
    rfl
  rw [seen]
  exact later outcome

theorem Wrote.respond {statusCode : Int} {statusMsg : String}
    (written : ∀ rows, last = some rows → writeList tmp rows = .ok body) :
    (respond req statusCode statusMsg body).Meets (Wrote tmp last) := by
  apply meets_respond.mpr
  constructor
  · intro reply same
    cases same
    exact written
  · intro reply same
    cases same

theorem Wrote.serverErrer : (serverErrer req connection).Meets (Wrote tmp none) := by
  apply meets_serverErrer.mpr
  refine ⟨wrote_call (by simp), ?_⟩
  have replies : (Ttac.respond req 500 "Internal Server Error" (ascii "server error")).Meets
      (Wrote tmp none) := Wrote.respond (by simp)
  exact replies

theorem Wrote.known {idx : Int} {next : Prog Unit} (later : next.Meets (Wrote tmp none)) :
    (if idx = -1 then Ttac.serverErrer req connection else next).Meets (Wrote tmp none) :=
  Program.meets_ite.mpr ⟨fun _ => Wrote.serverErrer, fun _ => later⟩

theorem Wrote.getUserIdx {token : Bytes} {next : Int → Prog Unit}
    (later : ∀ idx, (next idx).Meets (Wrote tmp last)) :
    (Ttac.getUserIdx connection token >>= next).Meets (Wrote tmp last) := by
  rw [getUserIdx_bind]
  have worked : ¬ PrintsRows (userQuery token) :=
    not_printsRows (show userQuery [] ∈ unprinted by simp [unprinted]) rfl
  apply Wrote.query worked
  intro outcome
  cases outcome with
  | none => exact later (-1)
  | some rows =>
      exact Program.meets_lift_bind.mpr
        ⟨fun idx _ => later (atoi idx), fun fault _ => wrote_failed fault⟩

theorem Wrote.list (prints : PrintsRows pieces) :
    (respondRows req connection capacity pieces tmp).Meets (Wrote tmp none) := by
  apply meets_mysqlQuery.mpr
  refine ⟨wrote_call (by simp), ?_⟩
  intro outcome
  have seen : (fun events => Wrote tmp none
      (⟨.mysqlQuery connection capacity pieces, outcome⟩ :: events)) = Wrote tmp outcome := by
    funext events status
    rw [Wrote, listed_query, if_pos prints]
    rfl
  rw [seen]
  cases outcome with
  | none => exact Wrote.serverErrer
  | some rows =>
      apply Program.meets_lift_bind.mpr
      refine ⟨?_, fun fault _ => wrote_failed fault⟩
      intro body written
      have replies : (Ttac.respond req 200 "OK" body).Meets (Wrote tmp (some rows)) := by
        apply Wrote.respond
        intro rows same
        cases same
        exact written
      exact meets_connectionPush.mpr ⟨wrote_call (by simp), replies⟩

/-- The last calls of a list that is sent. -/
def answered (req : Request) (rows : List Row) (body : Bytes) (connection capacity : Nat)
    (pieces : List Piece) : History :=
  [⟨.mysqlQuery connection capacity pieces, some rows⟩, ⟨.connectionPush connection, ()⟩,
    ⟨.response ⟨200, ascii "OK", req.version, body⟩, ()⟩]

/-- What `respondRows` does where the rows fit `tmp`. -/
theorem respondRows_runs (written : writeList tmp rows = .ok body) :
    (respondRows req connection capacity pieces tmp).Runs
      (answered req rows body connection capacity pieces) (.done ()) := by
  have tail : (Program.lift (writeList tmp rows) >>= fun body =>
      connectionPush connection >>= fun _ =>
      respond req 200 "OK" body).Runs [⟨.connectionPush connection, ()⟩,
        ⟨.response ⟨200, ascii "OK", req.version, body⟩, ()⟩] (.done ()) := by
    rw [written]
    exact .cons (.cons (.nil _))
  exact .cons tail

theorem sends_of_runs {program : Prog Unit} (before : History) (prints : PrintsRows pieces)
    (runs : program.Runs (before ++ answered req rows body connection capacity pieces) (.done ())) :
    Sends program rows body := by
  refine ⟨before ++ [⟨.mysqlQuery connection capacity pieces, some rows⟩,
    ⟨.connectionPush connection, ()⟩], ⟨200, ascii "OK", req.version, body⟩, .done (), ?_, ?_, rfl⟩
  · rw [List.append_assoc]
    exact runs
  · rw [listed_append, listed_query, if_pos prints]
    rfl

/-- A lookup that finds the first user. -/
def lookup (token : Bytes) : History :=
  [⟨.connectionPop, (0 : Nat)⟩, ⟨.mysqlQuery 0 256 (userQuery token), some [[some (ascii "1")]]⟩]

theorem lookup_runs {token : Bytes} {next : Nat → Int → Prog Unit} {events : History}
    {rest : Prog Unit} (later : (next 0 1).Runs events rest) :
    (connectionPop >>= fun connection => getUserIdx connection token >>= next connection).Runs
      (lookup token ++ events) rest := by
  have found : (getUserIdx 0 token >>= next 0).Runs
      (⟨.mysqlQuery 0 256 (userQuery token), some [[some (ascii "1")]]⟩ :: events) rest := by
    rw [getUserIdx_bind]
    exact .cons later
  exact .cons found

end Sending

namespace Listing

variable {Entry : Type} (listing : Listing Entry)

/-- The program sends a body for the rows of the entries, and each body it sends for them is
read as the entries. -/
def Reads (program : Prog Unit) (entries : List Entry) : Prop :=
  (∃ body, Sends program (entries.map listing.row) body) ∧
    ∀ body, Sends program (entries.map listing.row) body →
      Json.parse body = some (listing.value entries)

theorem written_of_fits {entries : List Entry}
    (fits : ∀ e ∈ entries, (listing.text e).length < 100) :
    ∃ body, writeList listing.tmp (entries.map listing.row) = .ok body := by
  cases written : writeList listing.tmp (entries.map listing.row) with
  | ok body => exact ⟨body, rfl⟩
  | error fault =>
      obtain ⟨row, member, failed⟩ := writeList_error written
      obtain ⟨entry, known, same⟩ := List.mem_map.mp member
      have short := fits entry known
      rw [← same, listing.prints, sprintf, if_neg (by omega)] at failed
      cases failed

theorem reads_iff {program : Prog Unit} {entries : List Entry}
    (fits : ∀ e ∈ entries, (listing.text e).length < 100)
    (meets : program.Meets (Wrote listing.tmp none))
    (sends : ∀ body, writeList listing.tmp (entries.map listing.row) = .ok body →
      Sends program (entries.map listing.row) body) :
    listing.Reads program entries ↔ ∀ e ∈ entries, listing.Clean e := by
  rw [← listing.parse_iff]
  obtain ⟨body, written⟩ := listing.written_of_fits fits
  constructor
  · intro reads
    rw [← listing.body_of_written written]
    exact reads.2 body (sends body written)
  · intro parsed
    refine ⟨⟨body, sends body written⟩, ?_⟩
    intro other sent
    rw [listing.body_of_written (sent.written meets)]
    exact parsed

end Listing

section Handlers

variable {req : Request} {token : Bytes} {rows : List Row} {body : Bytes}

theorem groupList_wrote (tokenFound : findValue req.parameter (ascii "token") = .ok (some token)) :
    (groupList req).Meets (Wrote groupRow none) := by
  simp only [groupList, findParameter, tokenFound, Program.lift_ok_bind]
  apply Wrote.pop
  intro connection
  apply Wrote.getUserIdx
  intro idx
  apply Wrote.known
  exact Wrote.list (printsRows_of_mem (show groupListQuery 0 ∈ printed by simp [printed]) rfl)

theorem groupList_sends (tokenFound : findValue req.parameter (ascii "token") = .ok (some token))
    (written : writeList groupRow rows = .ok body) : Sends (groupList req) rows body := by
  have prints : PrintsRows (groupListQuery 1) :=
    printsRows_of_mem (show groupListQuery 0 ∈ printed by simp [printed]) rfl
  apply sends_of_runs (lookup token) prints
  simp only [groupList, findParameter, tokenFound, Program.lift_ok_bind]
  exact lookup_runs (respondRows_runs written)

theorem getTodolist_wrote
    (tokenFound : findValue req.parameter (ascii "token") = .ok (some token)) :
    (getTodolist req).Meets (Wrote todoRow none) := by
  simp only [getTodolist, findParameter, tokenFound, Program.lift_ok_bind]
  apply Wrote.pop
  intro connection
  apply Wrote.getUserIdx
  intro idx
  apply Wrote.known
  exact Wrote.list (printsRows_of_mem (show todolistQuery 0 ∈ printed by simp [printed]) rfl)

theorem getTodolist_sends
    (tokenFound : findValue req.parameter (ascii "token") = .ok (some token))
    (written : writeList todoRow rows = .ok body) : Sends (getTodolist req) rows body := by
  have prints : PrintsRows (todolistQuery 1) :=
    printsRows_of_mem (show todolistQuery 0 ∈ printed by simp [printed]) rfl
  apply sends_of_runs (lookup token) prints
  simp only [getTodolist, findParameter, tokenFound, Program.lift_ok_bind]
  exact lookup_runs (respondRows_runs written)

section Chat

variable (groupId : Bytes) (latest : Option Bytes)

theorem chatsQuery_prints : PrintsRows (chatsQuery groupId latest) := by
  cases latest with
  | none => exact printsRows_of_mem (show chatlistQuery [] ∈ printed by simp [printed]) rfl
  | some latest =>
      exact printsRows_of_mem (show chatlistSinceQuery [] [] ∈ printed by simp [printed]) rfl

variable {groupId latest}

theorem getChatlist_wrote
    (tokenFound : findValue req.parameter (ascii "token") = .ok (some token))
    (groupFound : findValue req.parameter (ascii "group_id") = .ok (some groupId))
    (latestFound : findValue req.parameter (ascii "latest") = .ok latest) :
    (getChatlist req).Meets (Wrote chatRow none) := by
  rw [getChatlist_given tokenFound groupFound latestFound]
  apply Wrote.pop
  intro connection
  apply Wrote.getUserIdx
  intro idx
  apply Wrote.known
  have worked : ¬ PrintsRows (attendanceQuery idx (atoi groupId)) :=
    not_printsRows (show attendanceQuery 0 0 ∈ unprinted by simp [unprinted]) rfl
  apply Wrote.query worked
  intro outcome
  exact Wrote.list (chatsQuery_prints groupId latest)

theorem getChatlist_sends
    (tokenFound : findValue req.parameter (ascii "token") = .ok (some token))
    (groupFound : findValue req.parameter (ascii "group_id") = .ok (some groupId))
    (latestFound : findValue req.parameter (ascii "latest") = .ok latest)
    (written : writeList chatRow rows = .ok body) : Sends (getChatlist req) rows body := by
  have attended : (attendanceCheck 0 1 (atoi groupId) >>= fun _ =>
      respondRows req 0 2000 (chatsQuery groupId latest) chatRow).Runs
        (⟨.mysqlQuery 0 256 (attendanceQuery 1 (atoi groupId)), none⟩ ::
          answered req rows body 0 2000 (chatsQuery groupId latest)) (.done ()) :=
    .cons (respondRows_runs written)
  apply sends_of_runs
    (lookup token ++ [⟨.mysqlQuery 0 256 (attendanceQuery 1 (atoi groupId)), none⟩])
    (chatsQuery_prints groupId latest)
  rw [getChatlist_given tokenFound groupFound latestFound, List.append_assoc]
  exact lookup_runs attended

end Chat

/-- What a list answers with is read as its rows exactly when no text in it has a quote, a
backslash or a control character, and a list of dates only when it is empty. -/
theorem lists_read_iff (req : Request) :
    (Handler.groupList.Accepts req → ∀ entries : List GroupEntry,
      (∀ e ∈ entries, (groups.text e).length < 100) →
        (groups.Reads (groupList req) entries ↔ ∀ e ∈ entries, Plain e.name ∧ Plain e.owner)) ∧
    (Handler.getTodolist.Accepts req → ∀ entries : List TodoEntry,
      (∀ e ∈ entries, (todos.text e).length < 100) →
        (todos.Reads (getTodolist req) entries ↔ entries = [])) ∧
    (Handler.getChatlist.Accepts req → ∀ entries : List ChatEntry,
      (∀ e ∈ entries, (chats.text e).length < 100) →
        (chats.Reads (getChatlist req) entries ↔ ∀ e ∈ entries,
          Plain e.userID ∧ Plain e.chatType ∧ Plain e.content ∧ Plain e.chatTime)) := by
  refine ⟨?_, ?_, ?_⟩
  · intro accepts entries fits
    cases accepts.given with
    | groupList tokenFound =>
        exact groups.reads_iff fits (groupList_wrote tokenFound) fun _ => groupList_sends tokenFound
  · intro accepts entries fits
    cases accepts.given with
    | getTodolist tokenFound =>
        rw [todos.reads_iff fits (getTodolist_wrote tokenFound)
          fun _ => getTodolist_sends tokenFound]
        exact List.eq_nil_iff_forall_not_mem.symm
  · intro accepts entries fits
    cases accepts.given with
    | getChatlist tokenFound groupFound latestFound =>
        exact chats.reads_iff fits (getChatlist_wrote tokenFound groupFound latestFound)
          fun _ => getChatlist_sends tokenFound groupFound latestFound

section Samples

def listRequest : Request :=
  ⟨ascii "GET", ascii "/chatlist", ascii "HTTP/1.1", [], none,
    [⟨some (ascii "token"), ascii "t"⟩, ⟨some (ascii "group_id"), ascii "1"⟩]⟩

theorem listRequest_accepted : Handler.groupList.Accepts listRequest ∧
    Handler.getTodolist.Accepts listRequest ∧ Handler.getChatlist.Accepts listRequest := by
  have group : ascii "token" ≠ ascii "group_id" := by decide
  have latest : ascii "token" ≠ ascii "latest" ∧ ascii "group_id" ≠ ascii "latest" := by decide
  refine ⟨⟨?_, ?_⟩, ⟨?_, ?_⟩, ⟨?_, ?_⟩⟩
  all_goals simp [Handler.required, Handler.optionals, listRequest, findValue, group, latest]

def groupRows : List GroupEntry :=
  [⟨1, ascii "team", ascii "kim"⟩, ⟨2, ascii "a, b", ascii "lee"⟩, ⟨13, [], ascii "kim"⟩]

def chatRows (last : Bytes) : List ChatEntry :=
  [⟨4, ascii "kim", ascii "text", ascii "hi", ascii "2018-06-12 10:00:00"⟩,
    ⟨5, ascii "lee", ascii "text", last, ascii "2018-06-12 10:00:01"⟩]

/-- Lists of several rows, and a chat in which a quote was written. -/
theorem lists_read_iff_rows :
    groups.Reads (groupList listRequest) groupRows ∧
      ¬ todos.Reads (getTodolist listRequest)
        [⟨ascii "2017-06-01", ascii "x"⟩, ⟨ascii "2017-06-02", ascii "y"⟩] ∧
      chats.Reads (getChatlist listRequest) (chatRows (ascii "[bye]")) ∧
        ¬ chats.Reads (getChatlist listRequest) (chatRows (ascii "\"bye\"")) := by
  obtain ⟨onGroups, onTodos, onChats⟩ := lists_read_iff listRequest
  refine ⟨(onGroups listRequest_accepted.1 _ (by decide)).mpr (by decide), ?_,
    (onChats listRequest_accepted.2.2 _ (by decide)).mpr (by decide), ?_⟩
  · rw [onTodos listRequest_accepted.2.1 _ (by decide)]
    exact List.cons_ne_nil _ _
  · rw [onChats listRequest_accepted.2.2 _ (by decide)]
    decide

/-- A date without quotes is no JSON value. -/
theorem getTodolist_unreadable :
    Sends (getTodolist listRequest) [[some (ascii "2017-06-01"), some (ascii "x")]]
      (ascii "[\x7b\"deadline\":2017-06-01,\"detail\":\"x\"\x7d]") ∧
      Json.parse (ascii "[\x7b\"deadline\":2017-06-01,\"detail\":\"x\"\x7d]") = none ∧
        ¬ todos.Reads (getTodolist listRequest) [⟨ascii "2017-06-01", ascii "x"⟩] := by
  have tokenFound : findValue listRequest.parameter (ascii "token") = .ok (some (ascii "t")) := rfl
  have written : writeList todoRow [[some (ascii "2017-06-01"), some (ascii "x")]] =
      .ok (ascii "[\x7b\"deadline\":2017-06-01,\"detail\":\"x\"\x7d]") := by
    repeat rw [Ascii.ascii_ofList]
    rfl
  have sends := getTodolist_sends tokenFound written
  have unread : Json.parse (ascii "[\x7b\"deadline\":2017-06-01,\"detail\":\"x\"\x7d]") = none := by
    rw [Ascii.ascii_ofList]
    decide +kernel
  refine ⟨sends, unread, ?_⟩
  intro reads
  have parsed := reads.2 _ sends
  rw [unread] at parsed
  cases parsed

end Samples

end Handlers

end Ttac
