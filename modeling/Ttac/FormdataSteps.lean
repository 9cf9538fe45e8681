import Ttac.Formdata

set_option autoImplicit false

/- The steps of `parse_formdata`, by the text behind the cursor: where each goes on, whether its
offsets and counts are in range, and what a whole header line does. -/
namespace Ttac

open StepMachine (Step Goes Reaches Along)

def Inside (body : Bytes) (i : Int) : Prop := 0 ≤ i ∧ i ≤ body.length

section Safety

variable (body boundary : Bytes)

/-- Every offset, count and size formed from one loop head to the next is in range, and
an entry has a key. -/
def SafeAt (s : FormState) : Prop :=
  match s.place with
  | .part idx =>
    let next := partNext body boundary idx
    Inside body idx ∧ Inside body next ∧ Inside body (next + 1) ∧
      (isClosing body next = false → Inside body (next + 2) ∧ Inside body (next + 2 + 1))
  | .header idx =>
    let next := headerNext body idx
    Inside body idx ∧ Inside body next ∧ (next = idx → Inside body (next + 2))
  | .attributes idx next =>
    if idx < next then
      let p := attributeEnd body idx next
      Inside body idx ∧ Inside body p ∧ Inside body (p + 2) ∧
        (isName body idx = true → Inside body (idx + 5) ∧ 0 ≤ p - (idx + 5)) ∧
        (isFilename body (afterName body idx) = true →
          Inside body (afterName body idx + 9) ∧ 0 ≤ p - (afterName body idx + 9))
    else Inside body (next + 2)
  | .value idx =>
    let next := valueNext body boundary idx
    Inside body idx ∧ Inside body next ∧ Inside body (next + 1) ∧ 0 ≤ next - idx - 2 ∧
      s.key ≠ none ∧
      ∀ filename value, s.filename = some filename →
        strncpy body idx (next - idx - 2) = .ok value →
          (fileText filename value).length + 1 ≤ fileCapacity filename value

end Safety

/-- What stands in front of the first `;`. -/
def firstAttribute (line : Bytes) : Bytes := line.takeWhile (· ≠ chr ';')

/-- The attributes of a header line. Behind each `;` one byte is passed over, whatever it is. -/
def attributes (line : Bytes) : List Bytes :=
  if line = [] then []
  else firstAttribute line :: attributes (line.drop ((firstAttribute line).length + 2))
termination_by line.length
decreasing_by
  rename_i filled
  have positive := List.length_pos_of_ne_nil filled
  rw [List.length_drop]
  omega

/-- An attribute without its `name=`. -/
def behindName (word : Bytes) : Bytes :=
  if ascii "name" <+: word then word.drop 5 else word

def nextKey (key : Option Bytes) (word : Bytes) : Option Bytes :=
  if ascii "name" <+: word then some (word.drop 5) else key

def nextFilename (filename : Option Bytes) (word : Bytes) : Option Bytes :=
  if ascii "filename" <+: behindName word then some ((behindName word).drop 9)
  else filename

/-- Neither `name` nor `filename` stands there without a value. -/
def Whole (word : Bytes) : Prop :=
  word ≠ ascii "name" ∧ behindName word ≠ ascii "filename"

instance (word : Bytes) : Decidable (Whole word) := inferInstanceAs (Decidable (_ ∧ _))

/-- A header line that is not blank, with nothing but whole attributes. -/
structure PartHeader (line : Bytes) : Prop where
  filled : line ≠ []
  noCrlf : ¬ crlf <:+: line
  whole : ∀ word ∈ attributes line, Whole word

section Attributes

variable {line word : Bytes}

theorem firstAttribute_append (noSemicolon : chr ';' ∉ word) (more : Bytes) :
    firstAttribute (word ++ more) = word ++ firstAttribute more := by
  apply List.takeWhile_append_of_pos
  intro c member
  rw [decide_eq_true_eq]
  rintro rfl
  exact noSemicolon member

theorem firstAttribute_semicolon (rest : Bytes) : firstAttribute (chr ';' :: rest) = [] :=
  List.takeWhile_cons_of_neg (by simp)

theorem firstAttribute_self (noSemicolon : chr ';' ∉ word) : firstAttribute word = word := by
  have whole := firstAttribute_append noSemicolon []
  rwa [List.append_nil, show firstAttribute [] = [] from rfl, List.append_nil] at whole

theorem not_mem_firstAttribute (line : Bytes) : chr ';' ∉ firstAttribute line := by
  intro member
  have kept := List.mem_takeWhile_imp (p := fun c => decide (c ≠ chr ';')) member
  exact of_decide_eq_true kept rfl

theorem firstAttribute_length_le (line : Bytes) : (firstAttribute line).length ≤ line.length :=
  (List.takeWhile_prefix _).length_le

theorem firstAttribute_drop {k : Nat} (inside : k ≤ (firstAttribute line).length) :
    firstAttribute (line.drop k) = (firstAttribute line).drop k := by
  obtain ⟨more, split⟩ : firstAttribute line <+: line := List.takeWhile_prefix _
  have none : firstAttribute more = [] := by
    have whole := firstAttribute_append (not_mem_firstAttribute line) more
    rw [split] at whole
    exact List.append_right_eq_self.mp whole.symm
  conv_lhs => rw [← split]
  rw [List.drop_append_of_le_length inside, firstAttribute_append, none, List.append_nil]
  exact fun member => not_mem_firstAttribute line (List.mem_of_mem_drop member)

theorem attributes_nil : attributes [] = [] := by
  rw [attributes, if_pos rfl]

theorem attributes_filled (filled : line ≠ []) : attributes line =
    firstAttribute line :: attributes (line.drop ((firstAttribute line).length + 2)) := by
  rw [attributes, if_neg filled]

theorem attributes_last (filled : line ≠ []) (noSemicolon : chr ';' ∉ line) :
    attributes line = [line] := by
  rw [attributes_filled filled, firstAttribute_self noSemicolon,
    List.drop_eq_nil_of_le (by omega), attributes_nil]

theorem attributes_cons (noSemicolon : chr ';' ∉ word) (c : UInt8) (rest : Bytes) :
    attributes (word ++ chr ';' :: c :: rest) = word :: attributes rest := by
  rw [attributes_filled (by simp), firstAttribute_append noSemicolon, firstAttribute_semicolon,
    List.append_nil, ← List.drop_drop, List.drop_left]
  rfl

end Attributes

section Tail

variable {body boundary : Bytes} {idx : Nat} {s : FormState}

theorem length_of_tail {text : Bytes} (tail : body.drop idx = text) (nonempty : text ≠ []) :
    body.length = idx + text.length := by
  have positive := List.length_pos_of_ne_nil nonempty
  rw [← tail, List.length_drop] at positive ⊢
  omega

theorem tail_drop {text rest : Bytes} (tail : body.drop idx = text ++ rest) :
    body.drop (idx + text.length) = rest := by
  rw [← List.drop_drop, tail, List.drop_left]

end Tail

section Splits

variable {line text : Bytes}

theorem crlf_first (noCrlf : ¬ crlf <:+: line) : Leftmost.At crlf (line ++ crlf) line.length :=
  Leftmost.at_pair (by decide) noCrlf

theorem crlf_infix (line rest : Bytes) : crlf <:+: line ++ (crlf ++ rest) :=
  ⟨line, rest, List.append_assoc ..⟩

/-- A line and a text that starts with a CRLF are split in different places. -/
theorem line_ne_blank {other : Bytes} (filled : line ≠ []) (noCrlf : ¬ crlf <:+: line)
    (same : crlf ++ text = line ++ (crlf ++ other)) : False := by
  have blank : Leftmost.At crlf ([] ++ crlf) ([] : Bytes).length := crlf_first (by decide)
  exact filled (blank.split_unique (by decide) (crlf_first noCrlf) same).1.symm

theorem prefix_of_two {two more : Bytes} (closing : ascii "--" <+: two ++ more)
    (pair : two.length = 2) : two = ascii "--" := by
  obtain ⟨others, split⟩ := closing
  exact (List.append_inj split pair.symm).1.symm

end Splits

section Parts

variable {body boundary front rest : Bytes} {idx : Nat} {s : FormState}

theorem partNext_tail (nonempty : boundary ≠ [])
    (found : Leftmost.At boundary (front ++ boundary) front.length)
    (tail : body.drop idx = front ++ (boundary ++ rest)) :
    partNext body boundary idx = (idx + front.length + boundary.length : Nat) - 1 := by
  simp only [partNext, Int.toNat_natCast, tail,
    findStr_of_at _ _ _ nonempty (found.whole nonempty rest)]
  omega

theorem isClosing_tail (nonempty : boundary ≠ [])
    (found : Leftmost.At boundary (front ++ boundary) front.length)
    (tail : body.drop idx = front ++ (boundary ++ rest)) :
    isClosing body (partNext body boundary idx) = true ↔ ascii "--" <+: rest := by
  have behind : partNext body boundary idx + 1 = (idx + front.length + boundary.length : Nat) := by
    rw [partNext_tail nonempty found tail]
    omega
  rw [isClosing, behind, Int.toNat_natCast, tail_drop (tail_drop tail)]
  exact strncmpEq_length rest (ascii "--")

/-- At a delimiter the next two bytes decide. -/
theorem part_reads (nonempty : boundary ≠ []) (place : s.place = .part idx)
    (found : Leftmost.At boundary (front ++ boundary) front.length)
    (tail : body.drop idx = front ++ (boundary ++ rest)) :
    formStep body boundary s =
      if ascii "--" <+: rest then .stop (.ok s.list)
      else .next { s with
        key := none, filename := none
        place := .header (idx + front.length + boundary.length + 2 : Nat) } := by
  have positive := List.length_pos_of_ne_nil nonempty
  have length := length_of_tail tail (by simp [nonempty])
  rw [List.length_append, List.length_append] at length
  have next := partNext_tail nonempty found tail
  have behind : partNext body boundary idx + 1 = (idx + front.length + boundary.length : Nat) := by
    omega
  have target : partNext body boundary idx + 2 + 1 =
      (idx + front.length + boundary.length + 2 : Nat) := by
    omega
  have here := offset_ok body idx (by omega)
  have there := offset_ok body (idx + front.length + boundary.length) (by omega)
  simp only [formStep, place, partStep, here, behind, there, isClosing_tail nonempty found tail,
    target]

theorem part_safe_iff (nonempty : boundary ≠ []) (place : s.place = .part idx)
    (found : Leftmost.At boundary (front ++ boundary) front.length)
    (tail : body.drop idx = front ++ (boundary ++ rest)) :
    SafeAt body boundary s ↔ ascii "--" <+: rest ∨ 2 ≤ rest.length := by
  have positive := List.length_pos_of_ne_nil nonempty
  have length := length_of_tail tail (by simp [nonempty])
  rw [List.length_append, List.length_append] at length
  have next := partNext_tail nonempty found tail
  simp only [SafeAt, place, next, Inside]
  rw [← isClosing_tail nonempty found tail, ← next]
  by_cases closed : isClosing body (partNext body boundary idx) = true
  · simp only [closed, true_or, iff_true, Bool.true_eq_false, false_implies, and_true]
    omega
  · simp only [closed, forall_const, false_or, Bool.false_eq_true]
    omega

/-- A body without a delimiter is read as if one stood in front of it. -/
theorem part_absent (absent : ¬ boundary <:+: body) (place : s.place = .part 0) :
    formStep body boundary s =
      if ascii "--" <+: body then .stop (.ok s.list)
      else .next { s with key := none, filename := none, place := .header (2 : Nat) } := by
  have next : partNext body boundary 0 = -1 := by
    simp only [partNext, Int.toNat_zero, List.drop_zero, findStr_of_absent _ _ absent]
    omega
  have here := offset_ok body 0 (Nat.zero_le _)
  rw [List.drop_zero, Int.natCast_zero] at here
  have closing : isClosing body (-1) = true ↔ ascii "--" <+: body :=
    strncmpEq_length body (ascii "--")
  simp only [formStep, place, partStep, next, here, closing, Int.reduceNeg, Int.reduceAdd]
  rfl

theorem part_absent_unsafe (absent : ¬ boundary <:+: body) (place : s.place = .part 0) :
    ¬ SafeAt body boundary s := by
  have next : partNext body boundary 0 = -1 := by
    simp only [partNext, Int.toNat_zero, List.drop_zero, findStr_of_absent _ _ absent]
    omega
  simp only [SafeAt, place, next, Inside]
  omega

end Parts

section Lines

variable {body boundary line rest : Bytes} {idx : Nat} {s : FormState}

/-- A word starts the text at the cursor exactly when it starts the attribute there. -/
theorem starts_iff (word line rest : Bytes) (noCr : chr '\r' ∉ word)
    (noSemicolon : chr ';' ∉ word) :
    strncmpEq (line ++ (crlf ++ rest)) word word.length = true ↔ word <+: firstAttribute line := by
  rw [strncmpEq_length]
  constructor
  · intro starts
    have inside : word <+: line := by
      rcases List.prefix_or_prefix_of_prefix starts (List.prefix_append _ _) with inside | longer
      · exact inside
      · obtain ⟨more, rfl⟩ := longer
        obtain ⟨tail, whole⟩ := starts
        rw [List.append_assoc] at whole
        have behind := List.append_cancel_left whole
        cases more with
        | nil => rw [List.append_nil]
        | cons c more =>
            have head : c = chr '\r' := (List.cons.inj behind).1
            exact absurd (List.mem_append_right line (List.mem_cons_self ..)) (head ▸ noCr)
    obtain ⟨more, rfl⟩ := inside
    rw [firstAttribute_append noSemicolon]
    exact List.prefix_append _ _
  · intro starts
    exact (starts.trans (List.takeWhile_prefix _)).trans (List.prefix_append _ _)

theorem attributeEnd_tail (tail : body.drop idx = line ++ rest) (filled : line ≠ []) :
    attributeEnd body idx (idx + line.length : Nat) =
      (idx + (firstAttribute line).length : Nat) := by
  have positive := List.length_pos_of_ne_nil filled
  have short := firstAttribute_length_le line
  by_cases present : chr ';' ∈ line
  · obtain ⟨v, r, rfl, absent, -⟩ := findIdx_split line (chr ';') present
    have first : firstAttribute (v ++ chr ';' :: r) = v := by
      rw [firstAttribute_append absent, firstAttribute_semicolon, List.append_nil]
    have found : findIdx (body.drop idx) (chr ';') = v.length := by
      rw [tail, List.append_assoc, List.cons_append]
      exact findIdx_append v _ (chr ';') absent
    simp only [attributeEnd, Int.toNat_natCast, found, first, List.length_append]
    rw [if_neg (by omega)]
    omega
  · have first := firstAttribute_self present
    simp only [attributeEnd, Int.toNat_natCast, tail, first]
    by_cases later : chr ';' ∈ rest
    · obtain ⟨v, r, rfl, absent, -⟩ := findIdx_split rest (chr ';') later
      have found := findIdx_append (line ++ v) r (chr ';') (by simp [present, absent])
      rw [List.append_assoc, List.length_append] at found
      rw [found]
      split <;> omega
    · rw [findIdx_of_not_mem _ _ (by simp [present, later]), if_pos (by omega)]

theorem isName_tail (tail : body.drop idx = line ++ (crlf ++ rest)) :
    isName body idx = true ↔ ascii "name" <+: firstAttribute line := by
  rw [isName, Int.toNat_natCast, tail]
  exact starts_iff (ascii "name") line rest (by decide) (by decide)

theorem isFilename_tail (tail : body.drop idx = line ++ (crlf ++ rest)) {k : Nat}
    (inside : k ≤ (firstAttribute line).length) :
    isFilename body (idx + k : Nat) = true ↔
      ascii "filename" <+: (firstAttribute line).drop k := by
  have short := firstAttribute_length_le line
  have later : body.drop (idx + k) = line.drop k ++ (crlf ++ rest) := by
    rw [← List.drop_drop, tail, List.drop_append_of_le_length (by omega)]
  rw [isFilename, Int.toNat_natCast, later, ← firstAttribute_drop inside]
  exact starts_iff (ascii "filename") (line.drop k) rest (by decide) (by decide)

/-- A word that starts an attribute, and is not the whole of it. -/
theorem longer_of_ne {word whole : Bytes} (starts : word <+: whole) (differs : whole ≠ word) :
    word.length + 1 ≤ whole.length := by
  by_contra short
  exact differs (starts.eq_of_length_le (by omega)).symm

/-- The second comparison is made behind `name=`, if that is there. -/
theorem afterName_tail (tail : body.drop idx = line ++ (crlf ++ rest))
    (notBare : firstAttribute line ≠ ascii "name") :
    ∃ k : Nat, k ≤ (firstAttribute line).length ∧ afterName body idx = (idx + k : Nat) ∧
      behindName (firstAttribute line) = (firstAttribute line).drop k := by
  by_cases named : ascii "name" <+: firstAttribute line
  · refine ⟨5, longer_of_ne named notBare, ?_, if_pos named⟩
    rw [afterName, if_pos ((isName_tail tail).mpr named)]
    rfl
  · refine ⟨0, Nat.zero_le _, ?_, if_neg named⟩
    rw [afterName, if_neg fun found => named ((isName_tail tail).mp found)]
    rfl

/-- What is copied from a place of the attribute up to its end. -/
theorem copy_tail (tail : body.drop idx = line ++ (crlf ++ rest)) {k : Nat}
    (inside : k ≤ (firstAttribute line).length) :
    strncpy body (idx + k : Nat) ((idx + (firstAttribute line).length : Nat) - (idx + k : Nat)) =
      .ok ((firstAttribute line).drop k) := by
  have short := firstAttribute_length_le line
  have length := length_of_tail tail (by simp [crlf, ascii])
  rw [List.length_append] at length
  have first : firstAttribute line = line.take (firstAttribute line).length :=
    List.prefix_iff_eq_take.mp (List.takeWhile_prefix _)
  have later : body.drop (idx + k) = line.drop k ++ (crlf ++ rest) := by
    rw [← List.drop_drop, tail, List.drop_append_of_le_length (by omega)]
  have count : ((idx + (firstAttribute line).length : Nat) : Int) - (idx + k : Nat) =
      ((firstAttribute line).length - k : Nat) := by
    omega
  rw [count, strncpy_ok _ _ _ (by omega), later, List.take_append_of_le_length, ← List.drop_take,
    ← first]
  rw [List.length_drop]
  omega

section Attribute

variable (body) (idx : Int) (p : Int)

/-- The key behind the first comparison of the `;` loop. -/
def readKey (key : Option Bytes) : Except Fault (Option Bytes) :=
  if isName body idx then some <$> strncpy body (idx + 5) (p - (idx + 5)) else pure key

/-- The file name behind the second comparison. -/
def readFilename (filename : Option Bytes) : Except Fault (Option Bytes) :=
  if isFilename body idx then some <$> strncpy body (idx + 9) (p - (idx + 9)) else pure filename

theorem readAttribute_eq (key filename : Option Bytes) (next : Int) :
    readAttribute body key filename idx next = (offset body idx).bind fun _ =>
      (readKey body idx (attributeEnd body idx next) key).bind fun key =>
        (offset body (afterName body idx)).bind fun _ =>
          (readFilename body (afterName body idx) (attributeEnd body idx next) filename).map
            fun filename => (key, filename) := by
  simp only [readAttribute, readKey, readFilename]
  cases offset body idx with
  | error fault => rfl
  | ok here =>
      cases isName body idx <;> cases isFilename body (afterName body idx) <;> rfl

end Attribute

theorem readKey_tail (tail : body.drop idx = line ++ (crlf ++ rest))
    (notBare : firstAttribute line ≠ ascii "name") (key : Option Bytes) :
    readKey body idx (idx + (firstAttribute line).length : Nat) key =
      .ok (nextKey key (firstAttribute line)) := by
  have five : (idx : Int) + 5 = (idx + 5 : Nat) := by omega
  by_cases named : ascii "name" <+: firstAttribute line
  · have long : 5 ≤ (firstAttribute line).length := longer_of_ne named notBare
    rw [readKey, if_pos ((isName_tail tail).mpr named), five, copy_tail tail long, nextKey,
      if_pos named]
    rfl
  · rw [readKey, if_neg fun found => named ((isName_tail tail).mp found), nextKey, if_neg named]
    rfl

theorem readFilename_tail (tail : body.drop idx = line ++ (crlf ++ rest)) {k : Nat}
    (inside : k ≤ (firstAttribute line).length)
    (behind : behindName (firstAttribute line) = (firstAttribute line).drop k)
    (notBare : behindName (firstAttribute line) ≠ ascii "filename") (filename : Option Bytes) :
    readFilename body (idx + k : Nat) (idx + (firstAttribute line).length : Nat) filename =
      .ok (nextFilename filename (firstAttribute line)) := by
  have nine : ((idx + k : Nat) : Int) + 9 = (idx + (k + 9) : Nat) := by omega
  rw [behind] at notBare
  by_cases filed : ascii "filename" <+: (firstAttribute line).drop k
  · have long : 9 ≤ ((firstAttribute line).drop k).length := longer_of_ne filed notBare
    rw [List.length_drop] at long
    rw [readFilename, if_pos ((isFilename_tail tail inside).mpr filed), nine,
      copy_tail tail (by omega), nextFilename, behind, if_pos filed, List.drop_drop]
    rfl
  · rw [readFilename, if_neg fun found => filed ((isFilename_tail tail inside).mp found),
      nextFilename, behind, if_neg filed]
    rfl

/-- Whole attributes are read. -/
theorem readAttribute_whole (tail : body.drop idx = line ++ (crlf ++ rest)) (filled : line ≠ [])
    (whole : Whole (firstAttribute line)) (key filename : Option Bytes) :
    readAttribute body key filename idx (idx + line.length : Nat) =
      .ok (nextKey key (firstAttribute line), nextFilename filename (firstAttribute line)) := by
  have short := firstAttribute_length_le line
  have length := length_of_tail tail (by simp [filled])
  rw [List.length_append] at length
  obtain ⟨k, inside, after, behind⟩ := afterName_tail tail whole.1
  rw [readAttribute_eq, attributeEnd_tail tail filled, offset_ok body idx (by omega), after,
    offset_ok body (idx + k) (by omega)]
  simp only [Except.bind, readKey_tail tail whole.1, readFilename_tail tail inside behind whole.2]
  rfl

/-- Behind a bare word the count for the copy is `-1`. -/
theorem readAttribute_bare (tail : body.drop idx = line ++ (crlf ++ rest)) (filled : line ≠ [])
    (bare : ¬ Whole (firstAttribute line)) (key filename : Option Bytes) : ∃ fault,
      readAttribute body key filename idx (idx + line.length : Nat) = .error fault := by
  have short := firstAttribute_length_le line
  have length := length_of_tail tail (by simp [filled])
  rw [List.length_append] at length
  rw [readAttribute_eq, attributeEnd_tail tail filled, offset_ok body idx (by omega)]
  simp only [Except.bind]
  by_cases bareName : firstAttribute line = ascii "name"
  · have four : (firstAttribute line).length = 4 := congrArg List.length bareName
    have named : isName body idx = true := (isName_tail tail).mpr (by rw [bareName])
    rw [readKey, if_pos named, strncpy_negative body _ _ (by omega)]
    exact ⟨_, rfl⟩
  · have bareFile : behindName (firstAttribute line) = ascii "filename" :=
      Decidable.not_not.mp fun differs => bare ⟨bareName, differs⟩
    obtain ⟨k, inside, after, behind⟩ := afterName_tail tail bareName
    rw [behind] at bareFile
    have eight : ((firstAttribute line).drop k).length = 8 := congrArg List.length bareFile
    rw [List.length_drop] at eight
    have filed : isFilename body (idx + k : Nat) = true :=
      (isFilename_tail tail inside).mpr (by rw [bareFile])
    rw [readKey_tail tail bareName, after, offset_ok body (idx + k) (by omega), readFilename,
      if_pos filed, strncpy_negative body _ _ (by omega)]
    exact ⟨_, rfl⟩

theorem attribute_safe_iff (tail : body.drop idx = line ++ (crlf ++ rest)) (filled : line ≠ [])
    (place : s.place = .attributes idx (idx + line.length : Nat)) :
    SafeAt body boundary s ↔ Whole (firstAttribute line) := by
  have positive := List.length_pos_of_ne_nil filled
  have short := firstAttribute_length_le line
  have length := length_of_tail tail (by simp [filled])
  have two : crlf.length = 2 := rfl
  rw [List.length_append, List.length_append, two] at length
  have before : (idx : Int) < (idx + line.length : Nat) := by omega
  simp only [SafeAt, place, if_pos before, attributeEnd_tail tail filled, Inside, Whole]
  constructor
  · rintro ⟨-, -, -, name, filename⟩
    have notBare : firstAttribute line ≠ ascii "name" := by
      intro bare
      have four : (firstAttribute line).length = 4 := congrArg List.length bare
      have count := (name ((isName_tail tail).mpr (by rw [bare]))).2
      omega
    refine ⟨notBare, fun bare => ?_⟩
    obtain ⟨k, inside, after, behind⟩ := afterName_tail tail notBare
    rw [behind] at bare
    have eight : ((firstAttribute line).drop k).length = 8 := congrArg List.length bare
    rw [List.length_drop] at eight
    rw [after] at filename
    have count := (filename ((isFilename_tail tail inside).mpr (by rw [bare]))).2
    omega
  · rintro ⟨notBare, notFile⟩
    obtain ⟨k, inside, after, behind⟩ := afterName_tail tail notBare
    refine ⟨by omega, by omega, by omega, ?_, ?_⟩
    · intro named
      have long : 5 ≤ (firstAttribute line).length :=
        longer_of_ne ((isName_tail tail).mp named) notBare
      omega
    · rw [after]
      intro filed
      rw [behind] at notFile
      have long : 9 ≤ ((firstAttribute line).drop k).length :=
        longer_of_ne ((isFilename_tail tail inside).mp filed) notFile
      rw [List.length_drop] at long
      omega

theorem attribute_goes (boundary : Bytes) (tail : body.drop idx = line ++ (crlf ++ rest))
    (filled : line ≠ []) (whole : Whole (firstAttribute line))
    (place : s.place = .attributes idx (idx + line.length : Nat)) :
    Goes (formStep body boundary) s { s with
      key := nextKey s.key (firstAttribute line)
      filename := nextFilename s.filename (firstAttribute line)
      place := .attributes (idx + (firstAttribute line).length + 2 : Nat)
        (idx + line.length : Nat) } := by
  have positive := List.length_pos_of_ne_nil filled
  have before : (idx : Int) < (idx + line.length : Nat) := by omega
  rw [Goes, formStep, place]
  simp only [attributeStep, if_pos before, attributeEnd_tail tail filled,
    readAttribute_whole tail filled whole]
  rfl

theorem attribute_stops (boundary : Bytes) (tail : body.drop idx = line ++ (crlf ++ rest))
    (filled : line ≠ []) (bare : ¬ Whole (firstAttribute line))
    (place : s.place = .attributes idx (idx + line.length : Nat)) :
    ∃ fault, formStep body boundary s = .stop (.error fault) := by
  have positive := List.length_pos_of_ne_nil filled
  have before : (idx : Int) < (idx + line.length : Nat) := by omega
  obtain ⟨fault, read⟩ := readAttribute_bare tail filled bare s.key s.filename
  refine ⟨fault, ?_⟩
  rw [formStep, place]
  simp only [attributeStep, if_pos before, read]

/-- What a header line makes of the key and of the file name. -/
def FormState.afterLine (s : FormState) (line : Bytes) (place : Place) : FormState :=
  { s with
    key := (attributes line).foldl nextKey s.key
    filename := (attributes line).foldl nextFilename s.filename
    place := place }

/-- The `;` loop takes the attributes one behind the other, up to the first that is not whole. -/
theorem attributes_walk (boundary : Bytes) {next : Nat} (line : Bytes) (idx : Nat) (s : FormState)
    (place : s.place = .attributes idx next)
    (ahead : line ≠ [] → next = idx + line.length ∧ body.drop idx = line ++ (crlf ++ rest))
    (passed : line = [] → next ≤ idx) :
    ((∀ word ∈ attributes line, Whole word) ∧ ∃ later : Nat, next ≤ later ∧
      Along (formStep body boundary) (SafeAt body boundary) s
        (s.afterLine line (.attributes later next))) ∨
    ((∃ word ∈ attributes line, ¬ Whole word) ∧ ∃ t fault,
      Along (formStep body boundary) (SafeAt body boundary) s t ∧
        formStep body boundary t = .stop (.error fault) ∧ ¬ SafeAt body boundary t) := by
  induction line using attributes.induct generalizing idx s with
  | case1 =>
      refine .inl ⟨by simp [attributes_nil], idx, passed rfl, ?_⟩
      rw [FormState.afterLine, attributes_nil, List.foldl_nil, List.foldl_nil, ← place]
      exact .refl
  | case2 line filled ih =>
      obtain ⟨stop, tail⟩ := ahead filled
      subst stop
      rw [attributes_filled filled]
      by_cases whole : Whole (firstAttribute line)
      · have safe : SafeAt body boundary s := (attribute_safe_iff tail filled place).mpr whole
        have goes := attribute_goes boundary tail filled whole place
        have later := ih (idx + (firstAttribute line).length + 2)
          ⟨s.list, nextKey s.key (firstAttribute line),
            nextFilename s.filename (firstAttribute line), _⟩ rfl ?_ ?_
        · rcases later with
            ⟨all, later, behind, along⟩ | ⟨⟨word, member, bare⟩, t, fault, along, ends⟩
          · refine .inl ⟨?_, later, behind, (Along.of_goes safe goes).trans ?_⟩
            · rw [List.forall_mem_cons]
              exact ⟨whole, all⟩
            · rw [FormState.afterLine, attributes_filled filled]
              exact along
          · exact .inr ⟨⟨word, List.mem_cons_of_mem _ member, bare⟩, t, fault,
              (Along.of_goes safe goes).trans along, ends⟩
        · intro more
          have positive := List.length_pos_of_ne_nil more
          rw [List.length_drop] at positive ⊢
          refine ⟨by omega, ?_⟩
          rw [Nat.add_assoc, ← List.drop_drop, tail, List.drop_append_of_le_length (by omega)]
        · intro none
          have short := congrArg List.length none
          rw [List.length_drop, List.length_nil] at short
          omega
      · obtain ⟨fault, stops⟩ := attribute_stops boundary tail filled whole place
        exact .inr ⟨⟨_, List.mem_cons_self .., whole⟩, s, fault, .refl, stops,
          fun safe => whole ((attribute_safe_iff tail filled place).mp safe)⟩

theorem headerNext_tail (tail : body.drop idx = line ++ (crlf ++ rest))
    (noCrlf : ¬ crlf <:+: line) : headerNext body idx = (idx + line.length : Nat) := by
  have found : Leftmost.At crlf (line ++ crlf) line.length :=
    Leftmost.at_pair (by decide) noCrlf
  have two : crlf.length = 2 := rfl
  simp only [headerNext, Int.toNat_natCast, tail,
    findStr_of_at _ _ _ (by decide) (found.whole (by decide) rest), two]
  omega

/-- A header line: on to its attributes. -/
theorem header_goes (place : s.place = .header idx)
    (tail : body.drop idx = line ++ (crlf ++ rest)) (noCrlf : ¬ crlf <:+: line)
    (filled : line ≠ []) :
    Goes (formStep body boundary) s
      { s with place := .attributes idx (idx + line.length : Nat) } := by
  have positive := List.length_pos_of_ne_nil filled
  have length := length_of_tail tail (by simp [filled])
  rw [List.length_append] at length
  have here := offset_ok body idx (by omega)
  have filledLine : ¬ ((idx + line.length : Nat) : Int) = idx := by omega
  simp only [Goes, formStep, place, headerStep, here, headerNext_tail tail noCrlf, filledLine,
    ↓reduceIte]

/-- The blank line: on to the value. -/
theorem blank_goes (place : s.place = .header idx) (tail : body.drop idx = crlf ++ rest) :
    Goes (formStep body boundary) s { s with place := .value (idx + 2 : Nat) } := by
  have length := length_of_tail tail (List.append_ne_nil_of_left_ne_nil (by decide) _)
  rw [List.length_append] at length
  have here := offset_ok body idx (by omega)
  have blank : ¬ crlf <:+: ([] : Bytes) := by decide
  have next : headerNext body idx = (idx : Int) := headerNext_tail tail blank
  simp only [Goes, formStep, place, headerStep, here, next, ↓reduceIte]
  rfl

theorem header_safe (place : s.place = .header idx)
    (tail : body.drop idx = line ++ (crlf ++ rest)) (noCrlf : ¬ crlf <:+: line) :
    SafeAt body boundary s := by
  have two : crlf.length = 2 := rfl
  have length := length_of_tail tail (by simp [crlf, ascii])
  rw [List.length_append, List.length_append, two] at length
  simp only [SafeAt, place, headerNext_tail tail noCrlf, Inside]
  omega

/-- Behind the attributes of a line: on to the next line, or to the value at the end of the
body. -/
theorem attributes_end (body boundary : Bytes) {later next : Nat}
    (place : s.place = .attributes later next) (passed : next ≤ later) (inside : next + 2 ≤ body.length) :
    SafeAt body boundary s ∧ Goes (formStep body boundary) s { s with
      place := if next + 2 < body.length then .header (next + 2 : Nat)
        else .value (next + 2 : Nat) } := by
  have behind : ¬ (later : Int) < next := by omega
  constructor
  · simp only [SafeAt, place, behind, ↓reduceIte, Inside]
    omega
  · rw [Goes, formStep, place]
    simp only [attributeStep, behind, ↓reduceIte]
    by_cases room : next + 2 < body.length
    · rw [if_pos (by omega), if_pos room]
      rfl
    · rw [if_neg (by omega), if_neg room]
      rfl

/-- One header line, from its start to what stands behind it. -/
theorem line_walk (boundary : Bytes) (place : s.place = .header idx)
    (tail : body.drop idx = line ++ (crlf ++ rest)) (noCrlf : ¬ crlf <:+: line) (filled : line ≠ []) :
    ((∀ word ∈ attributes line, Whole word) ∧
      Along (formStep body boundary) (SafeAt body boundary) s (s.afterLine line
        (if rest = [] then .value (idx + line.length + 2 : Nat)
          else .header (idx + line.length + 2 : Nat)))) ∨
    ((∃ word ∈ attributes line, ¬ Whole word) ∧ ∃ t fault,
      Along (formStep body boundary) (SafeAt body boundary) s t ∧
        formStep body boundary t = .stop (.error fault) ∧ ¬ SafeAt body boundary t) := by
  have two : crlf.length = 2 := rfl
  have length := length_of_tail tail (by simp [filled])
  rw [List.length_append, List.length_append, two] at length
  have first : Along (formStep body boundary) (SafeAt body boundary) s
      { s with place := .attributes idx (idx + line.length : Nat) } :=
    .of_goes (header_safe place tail noCrlf) (header_goes place tail noCrlf filled)
  rcases attributes_walk boundary line idx
      { s with place := .attributes idx (idx + line.length : Nat) } rfl
      (fun _ => ⟨rfl, tail⟩) (fun none => absurd none filled) with
    ⟨whole, later, passed, along⟩ | ⟨bare, t, fault, along, ends⟩
  · refine .inl ⟨whole, (first.trans along).trans ?_⟩
    obtain ⟨safe, goes⟩ := attributes_end body boundary
      (s := s.afterLine line (.attributes later (idx + line.length : Nat))) rfl passed (by omega)
    have room : idx + line.length + 2 < body.length ↔ ¬ rest = [] := by
      rw [← List.length_eq_zero_iff]
      omega
    have target : (if idx + line.length + 2 < body.length then
        Place.header (idx + line.length + 2 : Nat) else .value (idx + line.length + 2 : Nat)) =
          if rest = [] then .value (idx + line.length + 2 : Nat)
            else .header (idx + line.length + 2 : Nat) := by
      simp only [room, ite_not]
    rw [target] at goes
    exact Along.of_goes safe goes
  · exact .inr ⟨bare, t, fault, first.trans along, ends⟩

end Lines

section Cut

variable {body boundary : Bytes} {idx : Nat} {s : FormState}

theorem headerNext_cut (absent : ¬ crlf <:+: body.drop idx) :
    headerNext body idx = (idx : Int) - 2 := by
  rw [headerNext, Int.toNat_natCast, findStr_of_absent _ _ absent]
  omega

theorem cut_goes (boundary : Bytes) (place : s.place = .header idx) (inside : idx ≤ body.length)
    (absent : ¬ crlf <:+: body.drop idx) :
    Goes (formStep body boundary) s { s with place := .attributes idx ((idx : Int) - 2) } := by
  have here := offset_ok body idx inside
  have differs : ¬ (idx : Int) - 2 = idx := by omega
  simp only [Goes, formStep, place, headerStep, here, headerNext_cut absent, differs, ↓reduceIte]

/-- From a header line without its CRLF the loop comes back to the start of the line, or to the
value if the body ends there. -/
theorem cut_back (body boundary : Bytes) (place : s.place = .attributes idx ((idx : Int) - 2)) :
    Goes (formStep body boundary) s
      { s with place := if idx < body.length then .header idx else .value idx } := by
  have behind : ¬ (idx : Int) < (idx : Int) - 2 := by omega
  rw [Goes, formStep, place]
  simp only [attributeStep, behind, ↓reduceIte, Int.sub_add_cancel, Int.ofNat_lt]
  split <;> rfl

theorem cut_safe (second : 2 ≤ idx) (inside : idx ≤ body.length)
    (absent : ¬ crlf <:+: body.drop idx)
    (place : s.place = .header idx ∨ s.place = .attributes idx ((idx : Int) - 2)) :
    SafeAt body boundary s := by
  rcases place with place | place
  · simp only [SafeAt, place, headerNext_cut absent, Inside]
    omega
  · have behind : ¬ (idx : Int) < (idx : Int) - 2 := by omega
    simp only [SafeAt, place, behind, ↓reduceIte, Inside]
    omega

/-- Behind the body the cursor is out of bounds. -/
theorem header_beyond (place : s.place = .header idx) (beyond : body.length < idx) :
    formStep body boundary s = .stop (.error (.outOfBounds idx)) := by
  have out : offset body idx = .error (.outOfBounds idx) := if_neg (by omega)
  simp only [formStep, place, headerStep, out]

end Cut

section Values

variable {body boundary value rest : Bytes} {idx : Nat} {s : FormState}

/-- What is stored for a part with these bytes. -/
def storedValue (filename : Option Bytes) (content : Bytes) : Bytes :=
  match filename with
  | some filename => fileText filename content
  | none => cstr (percentDecode content)

theorem valueNext_tail (nonempty : boundary ≠ [])
    (found : Leftmost.At boundary (value ++ boundary) value.length)
    (tail : body.drop idx = value ++ (boundary ++ rest)) :
    valueNext body boundary idx = (idx + value.length : Nat) - 1 := by
  have positive := List.length_pos_of_ne_nil nonempty
  simp only [valueNext, Int.toNat_natCast, tail,
    findStr_of_at _ _ _ nonempty (found.whole nonempty rest)]
  omega

/-- A value is stored without the last three bytes in front of the delimiter. -/
theorem value_goes (nonempty : boundary ≠ [])
    (found : Leftmost.At boundary (value ++ boundary) value.length)
    (tail : body.drop idx = value ++ (boundary ++ rest)) (long : 3 ≤ value.length)
    (place : s.place = .value idx) :
    Goes (formStep body boundary) s { s with
      list := addData s.list s.key (storedValue s.filename (value.take (value.length - 3)))
      place := .part (idx + value.length : Nat) } := by
  have length := length_of_tail tail (by simp [nonempty])
  rw [List.length_append] at length
  have next := valueNext_tail nonempty found tail
  have count : valueNext body boundary idx - idx - 2 = (value.length - 3 : Nat) := by omega
  have copied : strncpy body idx (value.length - 3 : Nat) =
      .ok (value.take (value.length - 3)) := by
    rw [strncpy_ok _ _ _ (by omega), tail, List.take_append_of_le_length (by omega)]
  have read : readValue body boundary s.filename idx =
      .ok (storedValue s.filename (value.take (value.length - 3))) := by
    simp only [readValue, offset_ok body idx (by omega), count, copied]
    cases s.filename with
    | some filename => rfl
    | none =>
        simp only [storedValue, urlDecode_eq]
        rfl
  have target : valueNext body boundary idx + 1 = (idx + value.length : Nat) := by omega
  simp only [Goes, formStep, place, valueStep, read, target,
    show ((idx + value.length : Nat) : Int) ≤ body.length by omega, ↓reduceIte]

theorem value_safe_iff (nonempty : boundary ≠ [])
    (found : Leftmost.At boundary (value ++ boundary) value.length)
    (tail : body.drop idx = value ++ (boundary ++ rest)) (place : s.place = .value idx) :
    SafeAt body boundary s ↔ 3 ≤ value.length ∧ s.key ≠ none ∧ s.filename = none := by
  have positive := List.length_pos_of_ne_nil nonempty
  have length := length_of_tail tail (by simp [nonempty])
  rw [List.length_append, List.length_append] at length
  have next := valueNext_tail nonempty found tail
  simp only [SafeAt, place, Inside, next]
  constructor
  · rintro ⟨-, -, -, count, key, fits⟩
    refine ⟨by omega, key, ?_⟩
    cases named : s.filename with
    | none => rfl
    | some filename =>
        -- the terminator of the text has no room, whatever the value is
        obtain ⟨n, length⟩ := Int.eq_ofNat_of_zero_le count
        rw [length] at fits
        have room := fits filename _ named (strncpy_ok body idx n (by omega))
        have bar : (ascii "|").length = 1 := rfl
        simp only [fileText, fileCapacity, List.length_append, bar] at room
        omega
  · rintro ⟨long, key, field⟩
    refine ⟨by omega, by omega, by omega, by omega, key, ?_⟩
    intro filename _ named
    rw [field] at named
    cases named

theorem value_faults {fault : Fault}
    (read : readValue body boundary s.filename idx = .error fault) (place : s.place = .value idx) :
    formStep body boundary s = .stop (.error fault) := by
  simp only [formStep, place, valueStep, read]

/-- Where the delimiter comes too early, the count handed to `malloc` and `strncpy` is negative. -/
theorem value_short (nonempty : boundary ≠ [])
    (found : Leftmost.At boundary (value ++ boundary) value.length)
    (tail : body.drop idx = value ++ (boundary ++ rest)) (short : value.length < 3)
    (place : s.place = .value idx) :
    formStep body boundary s = .stop (.error (.negativeCount ((value.length : Int) - 3))) := by
  have length := length_of_tail tail (by simp [nonempty])
  rw [List.length_append] at length
  have next := valueNext_tail nonempty found tail
  have count : valueNext body boundary idx - idx - 2 = (value.length : Int) - 3 := by omega
  apply value_faults _ place
  simp only [readValue, offset_ok body idx (by omega), count,
    strncpy_negative body idx ((value.length : Int) - 3) (by omega)]
  rfl

/-- And where none comes. -/
theorem value_absent (boundary : Bytes) (inside : idx ≤ body.length)
    (absent : ¬ boundary <:+: body.drop idx) (place : s.place = .value idx) :
    ¬ SafeAt body boundary s ∧ ∃ fault, formStep body boundary s = .stop (.error fault) := by
  have next : valueNext body boundary idx = (idx : Int) - 1 - boundary.length := by
    rw [valueNext, Int.toNat_natCast, findStr_of_absent _ _ absent]
    omega
  constructor
  · simp only [SafeAt, place, next, Inside]
    omega
  · refine ⟨.negativeCount (valueNext body boundary idx - idx - 2), value_faults ?_ place⟩
    simp only [readValue, offset_ok body idx inside,
      strncpy_negative body idx (valueNext body boundary idx - idx - 2) (by omega)]
    rfl

end Values

end Ttac
