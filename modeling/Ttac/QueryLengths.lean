import Ttac.Queries

set_option autoImplicit false

/- How long the query texts are, which are printed into arrays of a fixed size. -/
namespace Ttac

open Sql (Piece)

/-- What a query text takes up with nothing inserted. -/
def fixedLength : List Piece → Nat
  | [] => 0
  | .text fixed :: pieces => fixed.length + fixedLength pieces
  | .quoted _ _ :: pieces => 2 + fixedLength pieces
  | .bare _ :: pieces => fixedLength pieces
  | .number _ :: pieces => fixedLength pieces

def valueLength : List Piece → Nat
  | [] => 0
  | .text _ :: pieces => valueLength pieces
  | .quoted _ value :: pieces => value.length + valueLength pieces
  | .bare value :: pieces => value.length + valueLength pieces
  | .number value :: pieces => (decimalInt value).length + valueLength pieces

theorem render_length (pieces : List Piece) :
    (Sql.render pieces).length = fixedLength pieces + valueLength pieces := by
  induction pieces with
  | nil => rfl
  | cons piece pieces ih =>
      have split : Sql.render (piece :: pieces) = piece.render ++ Sql.render pieces := rfl
      rw [split, List.length_append, ih]
      cases piece with
      | text fixed => simp only [Piece.render, fixedLength, valueLength]; omega
      | quoted quote value =>
          simp only [Piece.render, fixedLength, valueLength, List.length_cons, List.length_append,
            List.length_nil]
          omega
      | bare value => simp only [Piece.render, fixedLength, valueLength]; omega
      | number value => simp only [Piece.render, fixedLength, valueLength]; omega

/-- The room of each of the texts, in the order of `queries`. -/
def rooms : List Nat :=
  [83, 34, 76, 53, 46, 46, 51, 23, 54, 180, 55, 54, 50, 59, 45, 47, 48, 44, 85, 118, 132]

theorem queries_fixedLength : queries.map fixedLength = rooms := by
  simp only [queries, userQuery, userByIDQuery, attendanceQuery, signupQuery, loginQuery,
    tokenQuery, createGroupQuery, lastInsertQuery, ownJoinQuery, groupListQuery, ownerQuery,
    joinGroupQuery, todolistQuery, todoQuery, progressQuery, updateProgressQuery,
    insertProgressQuery, latestChatQuery, chatQuery, chatlistQuery, chatlistSinceQuery, sql]
  repeat rw [Ascii.ascii_ofList]
  decide +kernel

theorem fixedLength_slots (pieces other : List Piece)
    (same : pieces.map Piece.slot = other.map Piece.slot) :
    fixedLength pieces = fixedLength other := by
  induction pieces generalizing other with
  | nil =>
      cases other with
      | nil => rfl
      | cons piece other => cases same
  | cons piece pieces ih =>
      cases other with
      | nil => cases same
      | cons piece' other =>
          rw [List.map_cons, List.map_cons, List.cons.injEq] at same
          have rest := ih other same.2
          cases piece <;> cases piece' <;> simp_all [Piece.slot, fixedLength]

/-- A query text is as long as its room and its values. -/
theorem query_length (pieces : List Piece) {template : List Piece} {room : Nat}
    (member : (template, room) ∈ queries.zip rooms)
    (same : pieces.map Piece.slot = template.map Piece.slot) :
    (Sql.render pieces).length = room + valueLength pieces := by
  have pairs : queries.zip rooms = queries.map fun query => (query, fixedLength query) := by
    have zipped := List.zip_map' (l := queries) (f := id) (g := fixedLength)
    rw [List.map_id, queries_fixedLength] at zipped
    exact zipped
  rw [pairs, List.mem_map] at member
  obtain ⟨query, _, equal⟩ := member
  cases equal
  rw [render_length, fixedLength_slots pieces template same]

section Queries

variable (token ID name password deadline detail content now groupId latest number : Bytes)
  (idx groupIdx : Int)

@[simp] theorem userQuery_length : (Sql.render (userQuery token)).length =
    83 + token.length := by
  have member : (userQuery [], 83) ∈ queries.zip rooms := by simp [queries, rooms]
  rw [query_length (userQuery token) member rfl]
  simp only [userQuery, sql, valueLength]
  omega

@[simp] theorem userByIDQuery_length : (Sql.render (userByIDQuery ID)).length =
    34 + ID.length := by
  have member : (userByIDQuery [], 34) ∈ queries.zip rooms := by simp [queries, rooms]
  rw [query_length (userByIDQuery ID) member rfl]
  simp only [userByIDQuery, sql, valueLength]
  omega

@[simp] theorem attendanceQuery_length : (Sql.render (attendanceQuery idx groupIdx)).length =
    76 + (decimalInt idx).length + (decimalInt groupIdx).length := by
  have member : (attendanceQuery 0 0, 76) ∈ queries.zip rooms := by simp [queries, rooms]
  rw [query_length (attendanceQuery idx groupIdx) member rfl]
  simp only [attendanceQuery, sql, valueLength]
  omega

@[simp] theorem signupQuery_length : (Sql.render (signupQuery name ID password)).length =
    53 + name.length + ID.length + password.length := by
  have member : (signupQuery [] [] [], 53) ∈ queries.zip rooms := by simp [queries, rooms]
  rw [query_length (signupQuery name ID password) member rfl]
  simp only [signupQuery, sql, valueLength]
  omega

@[simp] theorem loginQuery_length : (Sql.render (loginQuery ID)).length =
    46 + ID.length := by
  have member : (loginQuery [], 46) ∈ queries.zip rooms := by simp [queries, rooms]
  rw [query_length (loginQuery ID) member rfl]
  simp only [loginQuery, sql, valueLength]
  omega

@[simp] theorem tokenQuery_length : (Sql.render (tokenQuery token idx)).length =
    46 + token.length + (decimalInt idx).length := by
  have member : (tokenQuery [] 0, 46) ∈ queries.zip rooms := by simp [queries, rooms]
  rw [query_length (tokenQuery token idx) member rfl]
  simp only [tokenQuery, sql, valueLength]
  omega

@[simp] theorem createGroupQuery_length : (Sql.render (createGroupQuery name idx)).length =
    51 + name.length + (decimalInt idx).length := by
  have member : (createGroupQuery [] 0, 51) ∈ queries.zip rooms := by simp [queries, rooms]
  rw [query_length (createGroupQuery name idx) member rfl]
  simp only [createGroupQuery, sql, valueLength]
  omega

@[simp] theorem lastInsertQuery_length : (Sql.render lastInsertQuery).length = 23 := by
  have member : (lastInsertQuery, 23) ∈ queries.zip rooms := by simp [queries, rooms]
  rw [query_length lastInsertQuery member rfl]
  rfl

@[simp] theorem ownJoinQuery_length : (Sql.render (ownJoinQuery idx groupIdx)).length =
    54 + (decimalInt idx).length + (decimalInt groupIdx).length := by
  have member : (ownJoinQuery 0 0, 54) ∈ queries.zip rooms := by simp [queries, rooms]
  rw [query_length (ownJoinQuery idx groupIdx) member rfl]
  simp only [ownJoinQuery, sql, valueLength]
  omega

@[simp] theorem groupListQuery_length : (Sql.render (groupListQuery idx)).length =
    180 + (decimalInt idx).length := by
  have member : (groupListQuery 0, 180) ∈ queries.zip rooms := by simp [queries, rooms]
  rw [query_length (groupListQuery idx) member rfl]
  simp only [groupListQuery, sql, valueLength]
  omega

@[simp] theorem ownerQuery_length : (Sql.render (ownerQuery idx groupId)).length =
    55 + (decimalInt idx).length + groupId.length := by
  have member : (ownerQuery 0 [], 55) ∈ queries.zip rooms := by simp [queries, rooms]
  rw [query_length (ownerQuery idx groupId) member rfl]
  simp only [ownerQuery, sql, valueLength]
  omega

@[simp] theorem joinGroupQuery_length : (Sql.render (joinGroupQuery idx groupId)).length =
    54 + (decimalInt idx).length + groupId.length := by
  have member : (joinGroupQuery 0 [], 54) ∈ queries.zip rooms := by simp [queries, rooms]
  rw [query_length (joinGroupQuery idx groupId) member rfl]
  simp only [joinGroupQuery, sql, valueLength]
  omega

@[simp] theorem todolistQuery_length : (Sql.render (todolistQuery idx)).length =
    50 + (decimalInt idx).length := by
  have member : (todolistQuery 0, 50) ∈ queries.zip rooms := by simp [queries, rooms]
  rw [query_length (todolistQuery idx) member rfl]
  simp only [todolistQuery, sql, valueLength]
  omega

@[simp] theorem todoQuery_length : (Sql.render (todoQuery idx deadline detail)).length =
    59 + (decimalInt idx).length + deadline.length + detail.length := by
  have member : (todoQuery 0 [] [], 59) ∈ queries.zip rooms := by simp [queries, rooms]
  rw [query_length (todoQuery idx deadline detail) member rfl]
  simp only [todoQuery, sql, valueLength]
  omega

@[simp] theorem progressQuery_length : (Sql.render (progressQuery idx)).length =
    45 + (decimalInt idx).length := by
  have member : (progressQuery 0, 45) ∈ queries.zip rooms := by simp [queries, rooms]
  rw [query_length (progressQuery idx) member rfl]
  simp only [progressQuery, sql, valueLength]
  omega

@[simp] theorem updateProgressQuery_length : (Sql.render (updateProgressQuery number idx)).length =
    47 + number.length + (decimalInt idx).length := by
  have member : (updateProgressQuery [] 0, 47) ∈ queries.zip rooms := by simp [queries, rooms]
  rw [query_length (updateProgressQuery number idx) member rfl]
  simp only [updateProgressQuery, sql, valueLength]
  omega

@[simp] theorem insertProgressQuery_length : (Sql.render (insertProgressQuery idx number)).length =
    48 + (decimalInt idx).length + number.length := by
  have member : (insertProgressQuery 0 [], 48) ∈ queries.zip rooms := by simp [queries, rooms]
  rw [query_length (insertProgressQuery idx number) member rfl]
  simp only [insertProgressQuery, sql, valueLength]
  omega

@[simp] theorem latestChatQuery_length : (Sql.render (latestChatQuery groupId)).length =
    44 + groupId.length := by
  have member : (latestChatQuery [], 44) ∈ queries.zip rooms := by simp [queries, rooms]
  rw [query_length (latestChatQuery groupId) member rfl]
  simp only [latestChatQuery, sql, valueLength]
  omega

@[simp] theorem chatQuery_length : (Sql.render (chatQuery idx groupId content now)).length =
    89 + (decimalInt idx).length + groupId.length + content.length + now.length := by
  have text : (ascii "TEXT").length = 4 := rfl
  have member : (chatQuery 0 [] [] [], 85) ∈ queries.zip rooms := by simp [queries, rooms]
  rw [query_length (chatQuery idx groupId content now) member rfl]
  simp only [chatQuery, sql, valueLength, text]
  omega

@[simp] theorem chatlistQuery_length : (Sql.render (chatlistQuery groupId)).length =
    118 + groupId.length := by
  have member : (chatlistQuery [], 118) ∈ queries.zip rooms := by simp [queries, rooms]
  rw [query_length (chatlistQuery groupId) member rfl]
  simp only [chatlistQuery, sql, valueLength]
  omega

@[simp] theorem chatlistSinceQuery_length :
    (Sql.render (chatlistSinceQuery groupId latest)).length =
      132 + groupId.length + latest.length := by
  have member : (chatlistSinceQuery [] [], 132) ∈ queries.zip rooms := by simp [queries, rooms]
  rw [query_length (chatlistSinceQuery groupId latest) member rfl]
  simp only [chatlistSinceQuery, sql, valueLength]
  omega

end Queries

end Ttac
