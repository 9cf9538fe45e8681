import Ttac.DicList
import Ttac.UrlDecode
import Mathlib.Data.List.DropRight

set_option autoImplicit false

/- `parse_parameter` of `http.c`. -/
namespace Ttac

/-- `next` in the loop at `idx`: the `&` that ends the segment, or the end. -/
def segmentNext (params : Bytes) (idx : Int) : Int :=
  let next := findIdx (params.drop idx.toNat) (chr '&') + idx
  if next - idx = -1 then params.length else next

/-- `equal` in the loop at `idx`. When there is no `=`, this is `idx - 1`. -/
def segmentEqual (params : Bytes) (idx : Int) : Int :=
  findIdx (params.drop idx.toNat) (chr '=') + idx

/-- The test that guards the copies. -/
def hasPair (params : Bytes) (idx : Int) : Bool :=
  decide (segmentEqual params idx < segmentNext params idx) && segmentEqual params idx != -1

def keyLen (params : Bytes) (idx : Int) : Int := segmentEqual params idx - idx

def valueLen (params : Bytes) (idx : Int) : Int :=
  segmentNext params idx - segmentEqual params idx - 1

/-- The body of the loop up to `add_data`: the pair it is called with, if it is. -/
def parameterPair (params : Bytes) (idx : Int) : Except Fault (Option (Bytes × Bytes)) :=
  if hasPair params idx then do
    let key ← strncpy params idx (keyLen params idx)
    let value ← strncpy params (segmentEqual params idx + 1) (valueLen params idx)
    let key ← urlDecode key
    let value ← urlDecode value
    .ok (some (cstr key, cstr value))
  else .ok none

def addPair (list : List Node) : Option (Bytes × Bytes) → List Node
  | none => list
  | some (key, value) => addData list (some key) value

theorem segmentNext_range (params : Bytes) (idx : Int) (inside : 0 ≤ idx ∧ idx ≤ params.length) :
    idx ≤ segmentNext params idx ∧ segmentNext params idx ≤ params.length := by
  have range := findIdx_range (params.drop idx.toNat) (chr '&')
  rw [List.length_drop] at range
  dsimp only [segmentNext]
  split <;> omega

/-- The `do … while(idx<=len)` loop. -/
def parseParameterLoop (params : Bytes) (list : List Node) (idx : Int) :
    Except Fault (List Node) :=
  if _ : 0 ≤ idx ∧ idx ≤ params.length then
    match parameterPair params idx with
    | .error f => .error f
    | .ok pair =>
      if segmentNext params idx + 1 ≤ params.length then
        parseParameterLoop params (addPair list pair) (segmentNext params idx + 1)
      else .ok (addPair list pair)
  else .error (.outOfBounds idx)
termination_by (params.length + 1 - idx).toNat
decreasing_by
  have forward := segmentNext_range params idx (by assumption)
  omega

/-- The `int`s of the source hold the indices of a text below `2^31 - 1` bytes. -/
def parseParameter (list : List Node) (params : Option Bytes) : Except Fault (List Node) :=
  match params with
  | none => .ok list
  | some params => if params.length = 0 then .ok list else parseParameterLoop params list 0

/-- The values of `idx` at which the loop body starts. -/
inductive Visits (params : Bytes) : Int → Prop where
  | start (nonempty : params.length ≠ 0) : Visits params 0
  | again {idx : Int} {pair : Option (Bytes × Bytes)} (before : Visits params idx)
      (passed : parameterPair params idx = .ok pair)
      (more : segmentNext params idx + 1 ≤ params.length) :
      Visits params (segmentNext params idx + 1)

/-- The C string `url_decode` returns. -/
def urlDecoded (old : Bytes) : Bytes :=
  match urlDecode old with
  | .ok buffer => cstr buffer
  | .error _ => []

@[simp] theorem urlDecoded_eq (old : Bytes) : urlDecoded old = cstr (percentDecode old) := by
  simp only [urlDecoded, urlDecode_eq]

/-- What a segment of the text stands for: nothing without a `=`, and otherwise the
decoded bytes before and after its first `=`. -/
def segmentPair (segment : Bytes) : Option (Bytes × Bytes) :=
  if chr '=' ∈ segment then
    some (urlDecoded (segment.takeWhile (· ≠ chr '=')),
      urlDecoded ((segment.dropWhile (· ≠ chr '=')).drop 1))
  else none

def segmentPairs (text : Bytes) : List (Bytes × Bytes) :=
  (text.splitOn (chr '&')).filterMap segmentPair

/-- The bytes behind the last `&`. -/
def lastSegment (text : Bytes) : Bytes := text.rtakeWhile (· ≠ chr '&')

theorem segmentPair_split (key value : Bytes) (absent : chr '=' ∉ key) :
    segmentPair (key ++ chr '=' :: value) = some (urlDecoded key, urlDecoded value) := by
  have plain : ∀ c ∈ key, decide (c ≠ chr '=') = true := by
    intro c member
    rw [decide_eq_true_eq]
    rintro rfl
    exact absent member
  have present : chr '=' ∈ key ++ chr '=' :: value := by simp
  have before : (key ++ chr '=' :: value).takeWhile (· ≠ chr '=') = key := by
    rw [List.takeWhile_append_of_pos plain, List.takeWhile_cons_of_neg (by simp),
      List.append_nil]
  have after : (key ++ chr '=' :: value).dropWhile (· ≠ chr '=') = chr '=' :: value := by
    rw [List.dropWhile_append_of_pos plain, List.dropWhile_cons_of_neg (by simp)]
  rw [segmentPair, if_pos present, before, after, List.drop_one, List.tail_cons]

theorem splitOn_of_not_mem (text : Bytes) (absent : chr '&' ∉ text) :
    text.splitOn (chr '&') = [text] := by
  apply List.splitOnP_eq_singleton
  intro c member
  rw [beq_eq_false_iff_ne]
  rintro rfl
  exact absent member

theorem splitOn_append (segment rest : Bytes) (absent : chr '&' ∉ segment) :
    (segment ++ chr '&' :: rest).splitOn (chr '&') = segment :: rest.splitOn (chr '&') := by
  have first := splitOn_of_not_mem segment absent
  rw [List.splitOn] at first ⊢
  rw [List.splitOnP_append_cons _ _ (by simp), first]
  rfl

theorem lastSegment_of_not_mem (text : Bytes) (absent : chr '&' ∉ text) :
    lastSegment text = text := by
  rw [lastSegment, List.rtakeWhile_eq_self_iff]
  intro c member
  rw [decide_eq_true_eq]
  rintro rfl
  exact absent member

theorem lastSegment_append (segment rest : Bytes) :
    lastSegment (segment ++ chr '&' :: rest) = lastSegment rest := by
  rw [lastSegment, lastSegment, List.rtakeWhile, List.rtakeWhile, List.reverse_append,
    List.reverse_cons, List.append_assoc, List.singleton_append]
  congr 1
  rw [List.takeWhile_append]
  split
  · rw [List.takeWhile_cons_of_neg (by simp), List.append_nil]
    rename_i whole
    have prefixed := List.takeWhile_prefix (l := rest.reverse) (· ≠ chr '&')
    exact (prefixed.eq_of_length whole).symm
  · rfl

theorem lastSegment_subset (text : Bytes) (c : UInt8) (member : c ∈ lastSegment text) :
    c ∈ text :=
  List.rtakeWhile_suffix _ _ |>.subset member

section Offsets

variable (front rest : Bytes)

theorem drop_front : (front ++ rest).drop (front.length : Int).toNat = rest := by
  rw [Int.toNat_natCast, List.drop_left]

theorem segmentNext_last (absent : chr '&' ∉ rest) :
    segmentNext (front ++ rest) front.length = (front ++ rest).length := by
  have missing := findIdx_of_not_mem rest (chr '&') absent
  simp only [segmentNext, drop_front, missing]
  rw [if_pos (by omega)]

theorem segmentNext_amp (segment : Bytes) (absent : chr '&' ∉ segment) :
    segmentNext (front ++ (segment ++ chr '&' :: rest)) front.length =
      front.length + segment.length := by
  have found := findIdx_append segment rest (chr '&') absent
  simp only [segmentNext, drop_front, found]
  rw [if_neg (by omega)]
  omega

theorem segmentEqual_absent (absent : chr '=' ∉ rest) :
    segmentEqual (front ++ rest) front.length = front.length - 1 := by
  simp only [segmentEqual, drop_front, findIdx_of_not_mem rest (chr '=') absent]
  omega

theorem segmentEqual_present (key : Bytes) (absent : chr '=' ∉ key) :
    segmentEqual (front ++ (key ++ chr '=' :: rest)) front.length =
      front.length + key.length := by
  simp only [segmentEqual, drop_front, findIdx_append key rest (chr '=') absent]
  omega

/-- A segment with a `=` is copied exactly and decoded. -/
theorem parameterPair_copy (key value tail : Bytes) (absent : chr '=' ∉ key)
    (next : segmentNext (front ++ (key ++ chr '=' :: (value ++ tail))) front.length =
      front.length + key.length + 1 + value.length) :
    parameterPair (front ++ (key ++ chr '=' :: (value ++ tail))) front.length =
      .ok (some (urlDecoded key, urlDecoded value)) := by
  have equal := segmentEqual_present front (value ++ tail) key absent
  have guarded : hasPair (front ++ (key ++ chr '=' :: (value ++ tail))) front.length = true := by
    simp only [hasPair, Bool.and_eq_true, decide_eq_true_eq, bne_iff_ne, ne_eq, next, equal]
    omega
  have keyCount : keyLen (front ++ (key ++ chr '=' :: (value ++ tail))) front.length =
      key.length := by
    simp only [keyLen, equal]
    omega
  have valueCount : valueLen (front ++ (key ++ chr '=' :: (value ++ tail))) front.length =
      value.length := by
    simp only [valueLen, equal, next]
    omega
  have keyCopy : strncpy (front ++ (key ++ chr '=' :: (value ++ tail))) front.length key.length =
      .ok key := by
    rw [strncpy_ok _ _ _ (by simp), List.drop_left, List.take_left]
  have valueCopy : strncpy (front ++ (key ++ chr '=' :: (value ++ tail)))
      ((front.length + key.length : Int) + 1) value.length = .ok value := by
    have shape : front ++ (key ++ chr '=' :: (value ++ tail)) =
        (front ++ key ++ [chr '=']) ++ (value ++ tail) := by simp
    have place : ((front.length + key.length : Int) + 1) =
        ((front ++ key ++ [chr '=']).length : Nat) := by
      simp only [List.length_append, List.length_singleton]
      omega
    rw [shape, place, strncpy_ok _ _ _ (by simp), List.drop_left, List.take_left]
  rw [parameterPair, if_pos guarded, keyCount, valueCount, equal, keyCopy]
  simp only [bind, Except.bind, valueCopy, urlDecode_eq, urlDecoded_eq]

/-- A `=` that only occurs behind the segment does not count. -/
theorem parameterPair_skip (segment : Bytes) (noAmp : chr '&' ∉ segment)
    (noEqual : chr '=' ∉ segment) (later : chr '=' ∈ rest) :
    parameterPair (front ++ (segment ++ chr '&' :: rest)) front.length = .ok none := by
  obtain ⟨key, tail, rfl, absent, -⟩ := findIdx_split rest (chr '=') later
  have next := segmentNext_amp front (key ++ chr '=' :: tail) segment noAmp
  have shape : segment ++ chr '&' :: (key ++ chr '=' :: tail) =
      (segment ++ chr '&' :: key) ++ chr '=' :: tail := by simp
  have plain : chr '=' ∉ segment ++ chr '&' :: key := by
    simp only [List.mem_append, List.mem_cons, not_or]
    exact ⟨noEqual, by decide, absent⟩
  have equal := segmentEqual_present front tail (segment ++ chr '&' :: key) plain
  rw [← shape] at equal
  simp only [List.length_append, List.length_cons] at equal
  have closed : hasPair (front ++ (segment ++ chr '&' :: (key ++ chr '=' :: tail)))
      front.length = false := by
    simp only [hasPair, next, equal, Bool.and_eq_false_iff, decide_eq_false_iff_not]
    left
    omega
  simp only [parameterPair, closed, Bool.false_eq_true, ↓reduceIte]

/-- At `idx` 0 a missing `=` is `-1`, which the guard sees. -/
theorem parameterPair_start (text : Bytes) (absent : chr '=' ∉ text) :
    parameterPair text 0 = .ok none := by
  have equal := segmentEqual_absent [] text absent
  simp only [List.nil_append, List.length_nil, Nat.cast_zero, zero_sub] at equal
  have closed : hasPair text 0 = false := by
    simp only [hasPair, equal, bne_self_eq_false, Bool.and_false]
  simp only [parameterPair, closed, Bool.false_eq_true, ↓reduceIte]

/-- At a later `idx` a missing `=` is `idx - 1`, which passes the guard and makes the
key length `-1`. -/
theorem parameterPair_fault (nonempty : front ≠ []) (absent : chr '=' ∉ rest) :
    parameterPair (front ++ rest) front.length = .error (.negativeCount (-1)) := by
  have positive := List.length_pos_of_ne_nil nonempty
  have equal := segmentEqual_absent front rest absent
  have forward := segmentNext_range (front ++ rest) front.length
    (by simp only [List.length_append]; omega)
  have guarded : hasPair (front ++ rest) front.length = true := by
    simp only [hasPair, Bool.and_eq_true, decide_eq_true_eq, bne_iff_ne, ne_eq, equal]
    omega
  have count : keyLen (front ++ rest) front.length = -1 := by
    simp only [keyLen, equal]
    omega
  rw [parameterPair, if_pos guarded, count, strncpy_negative _ _ _ (by omega)]
  rfl

end Offsets

theorem addPair_eq (list : List Node) (pair : Option (Bytes × Bytes)) :
    addPair list pair = list ++ pair.toList.map Node.entry := by
  cases pair <;> simp [addPair, addData, Node.entry]

theorem segmentPairs_last (text : Bytes) (absent : chr '&' ∉ text) :
    segmentPairs text = (segmentPair text).toList := by
  rw [segmentPairs, splitOn_of_not_mem text absent, List.filterMap_cons]
  cases segmentPair text <;> rfl

theorem segmentPairs_append (segment rest : Bytes) (absent : chr '&' ∉ segment) :
    segmentPairs (segment ++ chr '&' :: rest) =
      (segmentPair segment).toList ++ segmentPairs rest := by
  rw [segmentPairs, splitOn_append segment rest absent, List.filterMap_cons]
  cases segmentPair segment <;> rfl

section Passes

variable (front : Bytes) (list : List Node)

/-- A pass over a segment that an `&` ends goes on behind that `&`. -/
theorem parseParameterLoop_next (segment rest : Bytes) (absent : chr '&' ∉ segment)
    (pair : Option (Bytes × Bytes))
    (passed : parameterPair (front ++ (segment ++ chr '&' :: rest)) front.length = .ok pair) :
    parseParameterLoop (front ++ (segment ++ chr '&' :: rest)) list front.length =
      parseParameterLoop ((front ++ segment ++ [chr '&']) ++ rest) (addPair list pair)
        ((front ++ segment ++ [chr '&']).length : Nat) := by
  have inside : (0 : Int) ≤ front.length ∧
      (front.length : Int) ≤ (front ++ (segment ++ chr '&' :: rest)).length := by
    simp only [List.length_append]
    omega
  have more : (front.length : Int) + segment.length + 1 ≤
      (front ++ (segment ++ chr '&' :: rest)).length := by
    simp only [List.length_append, List.length_cons]
    omega
  have place : (front.length : Int) + segment.length + 1 =
      ((front ++ segment ++ [chr '&']).length : Nat) := by
    simp only [List.length_append, List.length_singleton]
    omega
  rw [parseParameterLoop, dif_pos inside]
  simp only [passed, segmentNext_amp front rest segment absent, more, ↓reduceIte]
  rw [place]
  simp

/-- The pass over the last segment ends the loop. -/
theorem parseParameterLoop_last (rest : Bytes) (absent : chr '&' ∉ rest) :
    parseParameterLoop (front ++ rest) list front.length =
      match parameterPair (front ++ rest) front.length with
      | .error f => .error f
      | .ok pair => .ok (addPair list pair) := by
  have inside : (0 : Int) ≤ front.length ∧ (front.length : Int) ≤ (front ++ rest).length := by
    simp only [List.length_append]
    omega
  have last : ¬ ((front ++ rest).length : Int) + 1 ≤ (front ++ rest).length := by omega
  rw [parseParameterLoop, dif_pos inside, segmentNext_last front rest absent]
  simp only [last, ↓reduceIte]

theorem parseParameterLoop_fault (rest : Bytes) (nonempty : front ≠ [])
    (absent : chr '=' ∉ rest) :
    parseParameterLoop (front ++ rest) list front.length = .error (.negativeCount (-1)) := by
  have inside : (0 : Int) ≤ front.length ∧ (front.length : Int) ≤ (front ++ rest).length := by
    simp only [List.length_append]
    omega
  rw [parseParameterLoop, dif_pos inside]
  simp only [parameterPair_fault front rest nonempty absent]

end Passes

/-- Every pass over a segment either contributes what the segment stands for, or is a
later pass with no `=` in front of it. -/
theorem parameterPair_cases (front segment rest : Bytes) (absent : chr '&' ∉ segment) :
    parameterPair (front ++ (segment ++ chr '&' :: rest)) front.length =
        .ok (segmentPair segment) ∨
      (front ≠ [] ∧ chr '=' ∉ segment ++ chr '&' :: rest) := by
  by_cases present : chr '=' ∈ segment
  · obtain ⟨key, value, rfl, plain, -⟩ := findIdx_split segment (chr '=') present
    have split : key ++ chr '=' :: value ++ chr '&' :: rest =
        key ++ chr '=' :: (value ++ chr '&' :: rest) := by simp
    left
    rw [segmentPair_split key value plain, split]
    apply parameterPair_copy front key value (chr '&' :: rest) plain
    rw [← split, segmentNext_amp front rest _ absent]
    simp only [List.length_append, List.length_cons]
    omega
  · have none : segmentPair segment = none := by rw [segmentPair, if_neg present]
    by_cases later : chr '=' ∈ rest
    · exact Or.inl (none ▸ parameterPair_skip front rest segment absent present later)
    · have nowhere : chr '=' ∉ segment ++ chr '&' :: rest := by
        simp only [List.mem_append, List.mem_cons, not_or]
        exact ⟨present, by decide, later⟩
      cases front with
      | nil => exact Or.inl (none ▸ parameterPair_start _ nowhere)
      | cons c front => exact Or.inr ⟨by simp, nowhere⟩

/-- The loop from `idx` on: it appends what the remaining segments stand for, unless the
text behind the last `&` has no `=`; then some pass copies with a negative count. Only
the first pass of a text that is one segment escapes that. -/
theorem parseParameterLoop_eq (front rest : Bytes) (list : List Node) :
    parseParameterLoop (front ++ rest) list front.length =
      if chr '=' ∈ lastSegment rest ∨ (front = [] ∧ chr '&' ∉ rest) then
        .ok (list ++ (segmentPairs rest).map Node.entry)
      else .error (.negativeCount (-1)) := by
  induction size : rest.length using Nat.strongRecOn generalizing front rest list with
  | ind n ih =>
      by_cases amp : chr '&' ∈ rest
      · obtain ⟨segment, tail, rfl, absent, -⟩ := findIdx_split rest (chr '&') amp
        simp only [lastSegment_append, amp, not_true_eq_false, and_false, or_false]
        rcases parameterPair_cases front segment tail absent with passed | ⟨nonempty, nowhere⟩
        · have shorter : tail.length < n := by
            rw [← size]
            simp only [List.length_append, List.length_cons]
            omega
          rw [parseParameterLoop_next front list segment tail absent _ passed,
            ih tail.length shorter _ _ _ rfl, addPair_eq, segmentPairs_append segment tail absent]
          simp
        · have missing : chr '=' ∉ lastSegment tail :=
            fun member => nowhere (by simp [lastSegment_subset tail _ member])
          rw [parseParameterLoop_fault front list _ nonempty nowhere, if_neg missing]
      · rw [parseParameterLoop_last front list rest amp, lastSegment_of_not_mem rest amp,
          segmentPairs_last rest amp]
        by_cases present : chr '=' ∈ rest
        · obtain ⟨key, value, rfl, plain, -⟩ := findIdx_split rest (chr '=') present
          have copied := parameterPair_copy front key value [] plain (by
            rw [List.append_nil, segmentNext_last front _ amp]
            simp only [List.length_append, List.length_cons]
            omega)
          rw [List.append_nil] at copied
          simp only [copied, addPair_eq, segmentPair_split key value plain, present, true_or,
            ↓reduceIte]
        · have none : segmentPair rest = none := by rw [segmentPair, if_neg present]
          cases front with
          | nil =>
              have skipped := parameterPair_start rest present
              simp [skipped, addPair, none, amp]
          | cons c front =>
              rw [parameterPair_fault (c :: front) rest (by simp) present]
              simp [present]

/-- `parse_parameter` on any text. -/
theorem parseParameter_eq (list : List Node) (params : Bytes) :
    parseParameter list (some params) =
      if chr '&' ∉ params ∨ chr '=' ∈ lastSegment params then
        .ok (list ++ (segmentPairs params).map Node.entry)
      else .error (.negativeCount (-1)) := by
  by_cases empty : params.length = 0
  · obtain rfl := List.eq_nil_of_length_eq_zero empty
    have pairs : segmentPairs [] = [] := by decide
    simp [parseParameter, pairs]
  · have loop := parseParameterLoop_eq [] params list
    simp only [List.nil_append, List.length_nil, Nat.cast_zero, true_and] at loop
    rw [parseParameter, if_neg empty, loop]
    simp only [or_comm]

theorem Visits.inside {params : Bytes} {idx : Int} (visited : Visits params idx) :
    0 ≤ idx ∧ idx ≤ params.length := by
  induction visited with
  | start nonempty => omega
  | again before _ more ih =>
      have forward := segmentNext_range params _ ih
      omega

/-- A run that ends well is, at every pass, the rest of a run that ends well. -/
theorem Visits.resumes {params : Bytes} {idx : Int} {list result : List Node}
    (visited : Visits params idx) (returned : parseParameter list (some params) = .ok result) :
    ∃ before, parseParameterLoop params before idx = .ok result := by
  induction visited with
  | start nonempty =>
      rw [parseParameter, if_neg nonempty] at returned
      exact ⟨list, returned⟩
  | @again idx pair before passed more ih =>
      obtain ⟨earlier, resumed⟩ := ih
      rw [parseParameterLoop, dif_pos before.inside] at resumed
      simp only [passed, more, ↓reduceIte] at resumed
      exact ⟨_, resumed⟩

theorem Visits.passed {params : Bytes} {idx : Int} {list result : List Node}
    (visited : Visits params idx) (returned : parseParameter list (some params) = .ok result) :
    ∃ pair, parameterPair params idx = .ok pair := by
  obtain ⟨before, resumed⟩ := visited.resumes returned
  rw [parseParameterLoop, dif_pos visited.inside] at resumed
  cases outcome : parameterPair params idx with
  | ok pair => exact ⟨pair, rfl⟩
  | error f => simp [outcome] at resumed

theorem keyLen_nonneg {params : Bytes} {idx : Int} {pair : Option (Bytes × Bytes)}
    (passed : parameterPair params idx = .ok pair) (guarded : hasPair params idx = true) :
    0 ≤ keyLen params idx := by
  by_contra negative
  rw [parameterPair, if_pos guarded, strncpy_negative _ _ _ (by omega)] at passed
  cases passed

/-- What a caller of `parse_parameter` may expect: one entry for each segment with a
`=`, and every count, range and `int` of every pass in bounds. -/
structure ParameterContract (list : List Node) (params : Bytes) : Prop where
  appends : parseParameter list (some params) =
    .ok (list ++ (segmentPairs params).map Node.entry)
  counts : ∀ idx, Visits params idx → hasPair params idx = true →
    0 ≤ keyLen params idx ∧ 0 ≤ valueLen params idx
  ranges : ∀ idx, Visits params idx → hasPair params idx = true →
    0 ≤ idx ∧ idx + keyLen params idx ≤ params.length ∧ 0 ≤ segmentEqual params idx + 1 ∧
      segmentEqual params idx + 1 + valueLen params idx ≤ params.length
  ints : ∀ idx, Visits params idx → -1 ≤ segmentEqual params idx ∧
    segmentEqual params idx < 2 ^ 31 ∧ 0 ≤ segmentNext params idx ∧
      segmentNext params idx + 1 < 2 ^ 31

/-- The contract holds exactly of the texts that are one segment or whose last segment
has a `=`. -/
theorem parameterContract_iff (list : List Node) (params : Bytes)
    (short : params.length < 2 ^ 31 - 1) :
    ParameterContract list params ↔ chr '&' ∉ params ∨ chr '=' ∈ lastSegment params := by
  constructor
  · intro contract
    have appends := contract.appends
    rw [parseParameter_eq] at appends
    by_contra broken
    rw [if_neg broken] at appends
    cases appends
  · intro condition
    have returned := parseParameter_eq list params
    rw [if_pos condition] at returned
    have bounds : ∀ idx, Visits params idx → hasPair params idx = true →
        0 ≤ keyLen params idx ∧ segmentEqual params idx < segmentNext params idx := by
      intro idx visited guarded
      obtain ⟨pair, passed⟩ := visited.passed returned
      refine ⟨keyLen_nonneg passed guarded, ?_⟩
      simp only [hasPair, Bool.and_eq_true, decide_eq_true_eq] at guarded
      exact guarded.1
    refine ⟨returned, ?_, ?_, ?_⟩
    · intro idx visited guarded
      obtain ⟨key, order⟩ := bounds idx visited guarded
      refine ⟨key, ?_⟩
      dsimp only [valueLen]
      omega
    · intro idx visited guarded
      obtain ⟨key, order⟩ := bounds idx visited guarded
      have inside := visited.inside
      have forward := segmentNext_range params idx inside
      dsimp only [keyLen, valueLen] at key ⊢
      omega
    · intro idx visited
      have inside := visited.inside
      have forward := segmentNext_range params idx inside
      have range := findIdx_range (params.drop idx.toNat) (chr '=')
      rw [List.length_drop] at range
      dsimp only [segmentEqual]
      omega

theorem parameterContract_iff_pair :
    (ascii "a=1&b=2").length < 2 ^ 31 - 1 ∧
      (ParameterContract [] (ascii "a=1&b=2") ↔
        chr '&' ∉ ascii "a=1&b=2" ∨ chr '=' ∈ lastSegment (ascii "a=1&b=2")) :=
  ⟨by decide, parameterContract_iff [] (ascii "a=1&b=2") (by decide)⟩

/-- The second segment has no `=`: its key is copied with the count `-1`. -/
theorem parameterContract_broken : ¬ ParameterContract [] (ascii "a=1&b") := by
  intro contract
  have appends := contract.appends
  rw [parseParameter_eq, if_neg (by decide)] at appends
  cases appends

end Ttac
