import Ttac.Handlers
import Ttac.OutputStream

set_option autoImplicit false

/- The texts of the three handlers that answer with a list. -/
namespace Ttac

open Sql (Piece)

section Queries

/-- The queries whose columns are only printed. -/
def printed : List (List Piece) :=
  [groupListQuery 0, todolistQuery 0, chatlistQuery [], chatlistSinceQuery [] []]

def PrintsRows (pieces : List Piece) : Prop :=
  pieces.map Piece.slot ∈ printed.map fun query => query.map Piece.slot

instance (pieces : List Piece) : Decidable (PrintsRows pieces) :=
  inferInstanceAs
    (Decidable (pieces.map Piece.slot ∈ printed.map fun query => query.map Piece.slot))

theorem printsRows_of_mem {pieces query : List Piece} (member : query ∈ printed)
    (same : query.map Piece.slot = pieces.map Piece.slot) : PrintsRows pieces :=
  List.mem_map.mpr ⟨query, member, same⟩

/-- The other queries. -/
def unprinted : List (List Piece) :=
  [userQuery [], userByIDQuery [], attendanceQuery 0 0, signupQuery [] [] [], loginQuery [],
    tokenQuery [] 0, createGroupQuery [] 0, lastInsertQuery, ownJoinQuery 0 0, ownerQuery 0 [],
    joinGroupQuery 0 [], todoQuery 0 [] [], progressQuery 0, updateProgressQuery [] 0,
    insertProgressQuery 0 [], latestChatQuery [], chatQuery 0 [] [] []]

theorem unprinted_not_printed : ∀ query ∈ unprinted.map fun query => query.map Piece.slot,
    query ∉ printed.map fun query => query.map Piece.slot := by
  simp only [unprinted, printed, userQuery, userByIDQuery, attendanceQuery, signupQuery, loginQuery,
    tokenQuery, createGroupQuery, lastInsertQuery, ownJoinQuery, groupListQuery, ownerQuery,
    joinGroupQuery, todolistQuery, todoQuery, progressQuery, updateProgressQuery,
    insertProgressQuery, latestChatQuery, chatQuery, chatlistQuery, chatlistSinceQuery, sql]
  repeat rw [Ascii.ascii_ofList]
  decide

theorem not_printsRows {pieces query : List Piece} (member : query ∈ unprinted)
    (same : query.map Piece.slot = pieces.map Piece.slot) : ¬ PrintsRows pieces := by
  have apart := unprinted_not_printed _ (List.mem_map_of_mem member)
  rw [same] at apart
  exact apart

end Queries

section Texts

def groupText (id name owner : Bytes) : Bytes :=
  ascii "\x7b\"id\":" ++ id ++ ascii ",\"name\":\"" ++ name ++ ascii "\",\"owner\":\"" ++ owner ++
    ascii "\"\x7d"

def todoText (deadline detail : Bytes) : Bytes :=
  ascii "\x7b\"deadline\":" ++ deadline ++ ascii ",\"detail\":\"" ++ detail ++ ascii "\"\x7d"

def chatText (id userID chatType content chatTime : Bytes) : Bytes :=
  ascii "\x7b\"id\":" ++ id ++ ascii ",\"user_ID\":\"" ++ userID ++ ascii "\",\"chat_type\":\"" ++
    chatType ++ ascii "\",\"content\":\"" ++ content ++ ascii "\",\"chat_time\":\"" ++ chatTime ++
    ascii "\"\x7d"

variable (id name owner deadline detail userID chatType content chatTime : Bytes)

/-- A column that is there, in front of the rest of a row's text. -/
theorem column_bind {row : Row} {i : Nat} {value : Bytes} (there : row[i]? = some (some value))
    {β : Type} (next : Bytes → Except Fault β) : (column (some row) i >>= next) = next value := by
  have read : column (some row) i = .ok value := by
    simp only [column, cell, there]
    rfl
  rw [read]
  rfl

theorem groupRow_some : groupRow [some id, some name, some owner] =
    sprintf 100 (groupText id name owner) := by
  rw [groupRow, column_bind rfl, column_bind rfl, column_bind rfl, groupText]

theorem todoRow_some : todoRow [some deadline, some detail] =
    sprintf 100 (todoText deadline detail) := by
  rw [todoRow, column_bind rfl, column_bind rfl, todoText]

theorem chatRow_some :
    chatRow [some id, some chatType, some content, some chatTime, some userID] =
      sprintf 100 (chatText id userID chatType content chatTime) := by
  rw [chatRow, column_bind rfl, column_bind rfl, column_bind rfl, column_bind rfl, column_bind rfl,
    chatText]

theorem groupText_length : (groupText id name owner).length =
    28 + id.length + name.length + owner.length := by
  have first : (ascii "\x7b\"id\":").length = 6 := rfl
  have second : (ascii ",\"name\":\"").length = 9 := rfl
  have third : (ascii "\",\"owner\":\"").length = 11 := rfl
  have last : (ascii "\"\x7d").length = 2 := rfl
  simp only [groupText, List.length_append, first, second, third, last]
  omega

theorem todoText_length : (todoText deadline detail).length =
    25 + deadline.length + detail.length := by
  have first : (ascii "\x7b\"deadline\":").length = 12 := rfl
  have second : (ascii ",\"detail\":\"").length = 11 := rfl
  have last : (ascii "\"\x7d").length = 2 := rfl
  simp only [todoText, List.length_append, first, second, last]
  omega

theorem chatText_length : (chatText id userID chatType content chatTime).length =
    63 + id.length + userID.length + chatType.length + content.length + chatTime.length := by
  have first : (ascii "\x7b\"id\":").length = 6 := rfl
  have second : (ascii ",\"user_ID\":\"").length = 12 := rfl
  have third : (ascii "\",\"chat_type\":\"").length = 15 := rfl
  have fourth : (ascii "\",\"content\":\"").length = 13 := rfl
  have fifth : (ascii "\",\"chat_time\":\"").length = 15 := rfl
  have last : (ascii "\"\x7d").length = 2 := rfl
  simp only [chatText, List.length_append, first, second, third, fourth, fifth, last]
  omega

end Texts

section Lists

variable {tmp : Row → Except Fault Bytes} {rows : List Row} {fault : Fault}

theorem writeRows_error {flag : Bool} {text : Bytes}
    (failed : writeRows tmp flag text rows = .error fault) :
    ∃ row ∈ rows, tmp row = .error fault := by
  induction rows generalizing flag text with
  | nil => cases failed
  | cons row rows ih =>
      rw [writeRows] at failed
      cases printed : tmp row with
      | error reason =>
          rw [printed] at failed
          cases failed
          exact ⟨row, List.mem_cons_self .., printed⟩
      | ok written =>
          rw [printed] at failed
          obtain ⟨other, member, same⟩ := ih failed
          exact ⟨other, List.mem_cons_of_mem _ member, same⟩

/-- A list ends with the fault of one of its rows. -/
theorem writeList_error (failed : writeList tmp rows = .error fault) :
    ∃ row ∈ rows, tmp row = .error fault := by
  rw [writeList] at failed
  cases written : writeRows tmp false (ascii "[") rows with
  | error reason =>
      rw [written] at failed
      cases failed
      exact writeRows_error written
  | ok text =>
      rw [written] at failed
      cases failed

/-- The texts of the rows, with a comma in front of all but the first. -/
def separated : Bool → List Bytes → Bytes
  | _, [] => []
  | flag, text :: texts => (if flag then ascii "," else []) ++ (text ++ separated true texts)

theorem writeRows_ok {flag : Bool} {s body : Bytes}
    (written : writeRows tmp flag s rows = .ok body) :
    ∃ texts, List.Forall₂ (fun row text => tmp row = .ok text) rows texts ∧
      body = s ++ separated flag texts := by
  induction rows generalizing flag s with
  | nil =>
      cases written
      exact ⟨[], .nil, (List.append_nil _).symm⟩
  | cons row rows ih =>
      rw [writeRows] at written
      cases printed : tmp row with
      | error reason =>
          rw [printed] at written
          cases written
      | ok text =>
          rw [printed] at written
          obtain ⟨texts, each, same⟩ := ih written
          refine ⟨text :: texts, .cons printed each, ?_⟩
          rw [same, separated]
          cases flag with
          | false => simp
          | true => simp

theorem writeList_ok {body : Bytes} (written : writeList tmp rows = .ok body) :
    ∃ texts, List.Forall₂ (fun row text => tmp row = .ok text) rows texts ∧
      body = ascii "[" ++ separated false texts ++ ascii "]" := by
  rw [writeList] at written
  cases rowsWritten : writeRows tmp false (ascii "[") rows with
  | error reason =>
      rw [rowsWritten] at written
      cases written
  | ok text =>
      rw [rowsWritten] at written
      obtain ⟨texts, each, same⟩ := writeRows_ok rowsWritten
      cases written
      exact ⟨texts, each, by rw [same]⟩

/-- The `write_stream` calls for the rows of a list, in order. -/
def rowWrites : Bool → List Bytes → List Bytes
  | _, [] => []
  | flag, text :: texts => (if flag then [ascii ","] else []) ++ text :: rowWrites true texts

theorem rowWrites_flatten (flag : Bool) (texts : List Bytes) :
    (rowWrites flag texts).flatten = separated flag texts := by
  induction texts generalizing flag with
  | nil => rfl
  | cons text texts ih =>
      rw [rowWrites, separated, List.flatten_append, List.flatten_cons, ih]
      cases flag with
      | false => rfl
      | true => simp

theorem rowWrites_noNul {texts : List Bytes} (clean : ∀ text ∈ texts, (0 : UInt8) ∉ text)
    (flag : Bool) : ∀ text ∈ rowWrites flag texts, (0 : UInt8) ∉ text := by
  induction texts generalizing flag with
  | nil => exact fun text member => absurd member List.not_mem_nil
  | cons first texts ih =>
      rw [List.forall_mem_cons] at clean
      rw [rowWrites, List.forall_mem_append, List.forall_mem_cons]
      refine ⟨?_, clean.1, ih clean.2 true⟩
      cases flag with
      | false => exact fun text member => absurd member List.not_mem_nil
      | true => exact List.forall_mem_singleton.mpr (by decide)

theorem texts_noNul {texts : List Bytes}
    (each : List.Forall₂ (fun row text => tmp row = .ok text) rows texts)
    (noNul : ∀ row ∈ rows, ∀ text, tmp row = .ok text → (0 : UInt8) ∉ text) :
    ∀ text ∈ texts, (0 : UInt8) ∉ text := by
  induction each with
  | nil => exact fun text member => absurd member List.not_mem_nil
  | cons printed rest ih =>
      rw [List.forall_mem_cons] at noNul ⊢
      exact ⟨noNul.1 _ printed, ih noNul.2⟩

theorem map_cstr_of_noNul {texts : List Bytes} (clean : ∀ text ∈ texts, (0 : UInt8) ∉ text) :
    texts.map cstr = texts :=
  (List.map_congr_left fun text member => cstr_of_not_mem text (clean text member)).trans
    (List.map_id texts)

/-- The body of a list response is what its `write_stream` calls leave in the buffer. -/
theorem writeList_streamed {body : Bytes} (written : writeList tmp rows = .ok body)
    (noNul : ∀ row ∈ rows, ∀ text, tmp row = .ok text → (0 : UInt8) ∉ text)
    (short : body.length ≤ 715827882) :
    ∃ texts, List.Forall₂ (fun row text => tmp row = .ok text) rows texts ∧
      ∃ fuel s t, writeStreams fuel streamWriteInit (ascii "[" :: rowWrites false texts) =
          some (.ok s) ∧ writeStream fuel s (ascii "]") = some (.ok t) ∧ Holds t body := by
  obtain ⟨texts, each, rfl⟩ := writeList_ok written
  have plain : ((ascii "[" :: rowWrites false texts).map cstr).flatten =
      ascii "[" ++ separated false texts := by
    rw [map_cstr_of_noNul, List.flatten_cons, rowWrites_flatten]
    rw [List.forall_mem_cons]
    exact ⟨by decide, rowWrites_noNul (texts_noNul each noNul) false⟩
  have closing : cstr (ascii "]") = ascii "]" := cstr_of_not_mem _ (by decide)
  have before : ([] ++ ((ascii "[" :: rowWrites false texts).map cstr).flatten).length ≤
      715827882 := by
    rw [List.length_append] at short
    rw [plain, List.nil_append]
    omega
  obtain ⟨fuel, s, first, contents⟩ := contents_init.writes _ before
  rw [plain, List.nil_append] at contents
  obtain ⟨-, more, t, last, -, holds⟩ := contents.write (ascii "]") (by rwa [closing])
  rw [closing] at holds
  exact ⟨texts, each, max fuel more, s, t, writeStreams_mono first (Nat.le_max_left ..),
    writeStream_mono last (Nat.le_max_right ..), holds⟩

end Lists

end Ttac
