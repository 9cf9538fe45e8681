import Ttac.LineLoop
import Ttac.RequestChunking
import Ttac.RequestText

set_option autoImplicit false

/- The first line of a request: where `get_line` ends it, and when `parse_request` can split
it into method, path and version. -/
namespace Ttac

open Reading (Action Text)

/-- The lengths `parse_request` computes from a line are no less than zero, and the ranges it
copies lie in the line. -/
def LineSplits (line : Bytes) : Prop :=
  let first := findIdx line (chr ' ')
  let second := findIdx (line.drop (first + 1).toNat) (chr ' ') + first + 1
  let len : Int := line.length
  let methodLen := first
  let pathLen := second - first - 1
  let versionLen := len - second - 1
  (0 ≤ methodLen ∧ 0 ≤ pathLen ∧ 0 ≤ versionLen) ∧
    methodLen ≤ len ∧ (0 ≤ first + 1 ∧ first + 1 + pathLen ≤ len) ∧
      (0 ≤ second + 1 ∧ second + 1 + versionLen ≤ len)

/-- Two spaces are what it takes to split a line. -/
theorem splits_iff (line : Bytes) : LineSplits line ↔ 2 ≤ line.count (chr ' ') := by
  by_cases one : chr ' ' ∈ line
  · obtain ⟨a, rest, rfl, absent⟩ := List.eq_append_cons_of_mem one
    have first := findIdx_append a rest (chr ' ') absent
    have behind : (a ++ chr ' ' :: rest).drop ((a.length : Int) + 1).toNat = rest := by
      rw [show ((a.length : Int) + 1).toNat = a.length + 1 by omega, ← List.drop_drop,
        List.drop_left]
      rfl
    have length : (a ++ chr ' ' :: rest).length = a.length + (rest.length + 1) := by
      rw [List.length_append, List.length_cons]
    have count : (a ++ chr ' ' :: rest).count (chr ' ') = rest.count (chr ' ') + 1 := by
      rw [List.count_append, List.count_eq_zero_of_not_mem absent, List.count_cons_self]
      omega
    have range := findIdx_range rest (chr ' ')
    rw [LineSplits, first, behind, length, count]
    by_cases two : chr ' ' ∈ rest
    · have positive := List.count_pos_iff.mpr two
      obtain ⟨b, c, -, -, second⟩ := findIdx_split rest (chr ' ') two
      omega
    · have none := List.count_eq_zero_of_not_mem two
      have second := findIdx_of_not_mem rest (chr ' ') two
      omega
  · have none := List.count_eq_zero_of_not_mem one
    have first := findIdx_of_not_mem line (chr ' ') one
    rw [LineSplits, first]
    omega

theorem requestLine_splits {line : Bytes} (splits : LineSplits (cstr line)) :
    ∃ parts, requestLine (some line) = .ok parts := by
  have two := (splits_iff _).mp splits
  obtain ⟨method, rest, split, methodNoSpace⟩ :=
    List.eq_append_cons_of_mem
      (List.count_pos_iff.mp (show 0 < (cstr line).count (chr ' ') by omega))
  have count : (cstr line).count (chr ' ') = rest.count (chr ' ') + 1 := by
    rw [split, List.count_append, List.count_eq_zero_of_not_mem methodNoSpace,
      List.count_cons_self]
    omega
  obtain ⟨target, version, rfl, targetNoSpace⟩ :=
    List.eq_append_cons_of_mem (List.count_pos_iff.mp (show 0 < rest.count (chr ' ') by omega))
  have noNul : (0 : UInt8) ∉ cstr line := not_mem_cstr line
  have text := requestLine_text method target version methodNoSpace targetNoSpace
    (split ▸ noNul)
  rw [← split] at text
  refine ⟨_, Eq.trans ?_ text⟩
  rw [requestLine, requestLine, cstr_of_not_mem _ noNul]

theorem requestLine_fails {line : Bytes} (fails : ¬ LineSplits (cstr line)) :
    ∃ fault, requestLine (some line) = .error fault := by
  rw [splits_iff] at fails
  rw [requestLine]
  by_cases one : chr ' ' ∈ cstr line
  · obtain ⟨a, rest, split, absent⟩ := List.eq_append_cons_of_mem one
    have count : (cstr line).count (chr ' ') = rest.count (chr ' ') + 1 := by
      rw [split, List.count_append, List.count_eq_zero_of_not_mem absent, List.count_cons_self]
      omega
    have none : chr ' ' ∉ rest := by
      rw [← List.count_eq_zero]
      omega
    have first : findIdx (cstr line) (chr ' ') = a.length := by
      rw [split]
      exact findIdx_append a rest (chr ' ') absent
    have behind : (cstr line).drop ((a.length : Int) + 1).toNat = rest := by
      rw [split, show ((a.length : Int) + 1).toNat = a.length + 1 by omega, ← List.drop_drop,
        List.drop_left]
      rfl
    have second := findIdx_of_not_mem rest (chr ' ') none
    have method := strncpy_ok (cstr line) 0 a.length (Nat.zero_le _)
    have path := strncpy_negative (cstr line) (a.length + 1) (-1) (by omega)
    rw [first, behind, second, show (-1 + (a.length : Int) + 1 - a.length - 1) = -1 by omega,
      path]
    rw [Nat.cast_zero] at method
    rw [method]
    exact ⟨_, rfl⟩
  · have first := findIdx_of_not_mem (cstr line) (chr ' ') one
    rw [first, strncpy_negative (cstr line) 0 (-1) (by omega)]
    exact ⟨_, rfl⟩

/-- `get_line` returns a line, and it is split in range. -/
def Handled (junk : Junk) (s : Stream) : Prop :=
  ∃ line t, getLine Stream.reader junk crlf s = (.ok (some line), t) ∧ LineSplits (cstr line) ∧
    ∃ parts, requestLine (some line) = .ok parts

section Delivered

variable {data : Bytes} (d : Delivery data) (junk : Junk)

theorem getLine_delivers : (getLine Stream.reader junk crlf d.stream).1 =
    (getLine textReader junk crlf ⟨data, false⟩).1 := by
  rcases (getLine_respects deliverySimulation junk crlf).agree _ _ d.delivers with
    never | ⟨same, -⟩
  · exact never.elim
  · exact same

/-- `parse_request` splits its first line in range exactly if that line has two spaces and fits
the largest buffer of `get_line`; otherwise it runs into undefined behaviour, with no error
reported. -/
theorem requestLine_handled_iff :
    (Handled junk d.stream ↔ 2 ≤ (cstr (firstLine data)).count (chr ' ') ∧
      (firstLine data ++ lineEnding data).length < lineLimit) ∧
    (Handled junk d.stream ∨ ∀ fuel, ∃ fault s,
      parseRequest Stream.reader junk fuel d.stream = (.error fault, s)) := by
  have same := getLine_delivers d junk
  constructor
  · constructor
    · rintro ⟨line, t, given, splits, -⟩
      rw [given] at same
      have two := (splits_iff _).mp splits
      have lengths : (cstr line).count (chr ' ') ≤ line.length :=
        List.count_le_length.trans (List.takeWhile_prefix _).length_le
      have short : (firstLine data ++ lineEnding data).length < lineLimit := by
        apply Nat.lt_of_not_le
        intro long
        obtain ⟨fault, t, failed⟩ := getLine_long junk data long
        rw [failed] at same
        cases same
      rcases Nat.lt_or_ge (firstLine data).length 2 with small | large
      · have := getLine_small junk data short small (Prod.ext same.symm rfl)
        omega
      · obtain ⟨t, first⟩ := getLine_first junk data short large
        rw [first] at same
        obtain rfl := Option.some.inj (Except.ok.inj same)
        exact ⟨two, short⟩
    · intro ⟨two, short⟩
      have lengths : (cstr (firstLine data)).count (chr ' ') ≤ (firstLine data).length :=
        List.count_le_length.trans (List.takeWhile_prefix _).length_le
      obtain ⟨t, first⟩ := getLine_first junk data short (by omega)
      rw [first] at same
      have splits := (splits_iff (cstr (firstLine data))).mpr two
      exact ⟨_, _, Prod.ext same rfl, splits, requestLine_splits splits⟩
  · by_cases handled : Handled junk d.stream
    · exact Or.inl handled
    refine Or.inr fun fuel => ?_
    rcases given : getLine Stream.reader junk crlf d.stream with ⟨_ | _ | line, t⟩
    · rw [parseRequest, Action.bind_error given]
      exact ⟨_, _, rfl⟩
    · rw [parseRequest, Action.bind_ok given]
      exact ⟨.nullPointer, t, rfl⟩
    · rw [parseRequest, Action.bind_ok given]
      by_cases splits : LineSplits (cstr line)
      · exact absurd ⟨line, t, given, splits, requestLine_splits splits⟩ handled
      · obtain ⟨fault, failed⟩ := requestLine_fails splits
        refine ⟨fault, t, ?_⟩
        rw [failed]
        rfl

/-- An empty stream gives no line to split, and a line with one space no length for its path. -/
theorem requestLine_unhandled :
    (∃ d : Delivery [], (parseRequest Stream.reader (some 0) 0 d.stream).1 = .error .nullPointer ∧
      ¬ Handled (some 0) d.stream) ∧
    ∃ d : Delivery (ascii "GET /" ++ crlf),
      (parseRequest Stream.reader (some 0) 0 d.stream).1 = .error (.negativeCount (-1)) ∧
        ¬ Handled (some 0) d.stream := by
  constructor
  · have looped : getLineLoop textReader (some 0) crlf [] 10 ⟨[], false⟩ =
        (.ok ⟨0, [endChar], 10⟩, ⟨[], true⟩) := by
      rw [getLineLoop]
      rfl
    have given : getLine textReader (some 0) crlf ⟨[], false⟩ = (.ok none, ⟨[], true⟩) := by
      rw [getLine, Action.bind_ok looped]
      rfl
    have none : Delivery [] := ⟨[], by simp, rfl⟩
    refine ⟨none, ?_, ?_⟩
    · rw [(parseRequest_delivers none (some 0) 0).1, parseRequest, Action.bind_ok given]
      rfl
    · rintro ⟨line, t, read, -, -⟩
      have same := getLine_delivers none (some 0)
      rw [read, given] at same
      cases same
  · have given : getLine textReader (some 0) crlf ⟨ascii "GET /" ++ crlf, false⟩ =
        (.ok (some (ascii "GET /")), ⟨[], false⟩) :=
      getLine_text (some 0) (ascii "GET /") [] false (by decide) (by decide) (by decide)
    have oneSpace : Delivery (ascii "GET /" ++ crlf) :=
      .single _ (by decide) (by decide)
    refine ⟨oneSpace, ?_, ?_⟩
    · rw [(parseRequest_delivers oneSpace (some 0) 0).1, parseRequest, Action.bind_ok given]
      rfl
    · rintro ⟨line, t, read, splits, -⟩
      have same := getLine_delivers oneSpace (some 0)
      rw [read, given] at same
      obtain rfl := Option.some.inj (Except.ok.inj same)
      have two := (splits_iff _).mp splits
      revert two
      decide

end Delivered

end Ttac
