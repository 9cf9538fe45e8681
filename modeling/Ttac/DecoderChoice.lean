import Ttac.Request

set_option autoImplicit false

/- Which decoder `parse_request` applies to the body of a `POST`, against what the content type
asks for. -/
namespace Ttac

abbrev urlencodedType : Bytes := ascii "application/x-www-form-urlencoded"

abbrev multipartType : Bytes := ascii "multipart/form-data"

/-- What is applied to the body; `boundary` is the argument as `parse_formdata` reads it. -/
inductive Decoder where
  | parameter
  | formdata (boundary : Except Fault Bytes)
  | neither

def Decoder.apply (fuel : Nat) (body : Option Bytes) (list : List Node) :
    Decoder → Except Fault (Option (List Node))
  | parameter => some <$> parseParameter list (body.map cstr)
  | formdata boundary =>
    match parseFormdata fuel list (body.map cstr) boundary with
    | none => .ok none
    | some result => some <$> result
  | neither => .ok (some list)

/-- The two `prefixcmp` calls on the content type. -/
def chosenDecoder (junk : Junk) (header : List Node) : Except Fault Decoder := do
  match ← findValue header (ascii "content-type") with
  | none => .error .nullPointer
  | some contentType =>
    if prefixcmpEq contentType urlencodedType then .ok .parameter
    else if prefixcmpEq contentType multipartType then
      .ok (.formdata (boundaryText junk contentType))
    else .ok .neither

/-- The parameters of a `POST` are what the chosen decoder makes of the body. -/
theorem bodyParameter_chosen {method : Bytes} (post : isPost method = true) (junk : Junk)
    (fuel : Nat) (header : List Node) (body : Option Bytes) (list : List Node) :
    bodyParameter junk fuel method header body list =
      (chosenDecoder junk header).bind (Decoder.apply fuel body list) := by
  rw [bodyParameter, if_pos post, chosenDecoder]
  cases findValue header (ascii "content-type") with
  | error fault => rfl
  | ok found =>
      cases found with
      | none => rfl
      | some contentType =>
          simp only [bind, Except.bind]
          split
          · rfl
          · split
            · rfl
            · rfl

/-- `v` is the value of the `boundary` attribute, behind some `;`. -/
def BoundaryAttribute (contentType v : Bytes) : Prop :=
  ∃ front blanks name rest,
    contentType = front ++ chr ';' :: (blanks ++ (name ++ chr '=' :: (v ++ rest))) ∧
      (∀ c ∈ blanks, isSpace c = true) ∧ toLower name = ascii "boundary" ∧ chr ';' ∉ v ∧
        (rest = [] ∨ ∃ more, rest = chr ';' :: more)

/-- The content type starts with `type`. -/
def StartsWith (contentType : Option Bytes) (type : Bytes) : Prop :=
  ∃ text, contentType = some text ∧ type <+: text

/-- The decoder is the one for the content type, and its boundary is a C string: `--` and the
value of the boundary attribute. -/
structure DecoderFits (contentType : Option Bytes) (decoder : Decoder) : Prop where
  parameter : decoder = .parameter ↔ StartsWith contentType urlencodedType
  formdata : (∃ boundary, decoder = .formdata boundary) ↔ StartsWith contentType multipartType
  boundary : ∀ boundary, decoder = .formdata boundary → ∃ string, boundary = .ok string ∧
    ∀ text, contentType = some text → ∀ v, BoundaryAttribute text v → string = ascii "--" ++ v

/-- `prefixcmp` is symmetric: each of its arguments may be the prefix. -/
theorem prefixcmpEq_iff (a b : Bytes) : prefixcmpEq a b = true ↔ b <+: a ∨ a <+: b := by
  rw [prefixcmpEq, strncmpEq_iff]
  constructor
  · intro same
    rcases Nat.le_total a.length b.length with short | long
    · right
      rw [Nat.min_eq_left short, List.take_length] at same
      exact same ▸ List.take_prefix _ _
    · left
      rw [Nat.min_eq_right long, List.take_length] at same
      exact same ▸ List.take_prefix _ _
  · rintro (shorter | longer)
    · rw [Nat.min_eq_right shorter.length_le, List.take_length]
      exact (List.prefix_iff_eq_take.mp shorter).symm
    · rw [Nat.min_eq_left longer.length_le, List.take_length]
      exact List.prefix_iff_eq_take.mp longer

/-- No text starts with both types. -/
theorem types_differ {text : Bytes} (urlencoded : urlencodedType <+: text) :
    ¬ multipartType <+: text := by
  intro multipart
  have order := List.prefix_of_prefix_length_le multipart urlencoded (by decide)
  revert order
  decide

/-- The boundary ends in a terminator only where the buffer happened to hold one. -/
theorem boundaryText_ok_iff (junk : Junk) (contentType string : Bytes) :
    boundaryText junk contentType = .ok string ↔ junk = some 0 ∧
      string = ascii "--" ++ contentType.drop (findIdx contentType (chr '=') + 1).toNat := by
  unfold boundaryText
  dsimp only
  split
  · simp
  · simp [eq_comm]
  · rename_i byte other
    have differs : byte ≠ 0 := fun same => other same
    simp [differs]

/-- `v` is all that stands behind the first `=`. -/
def BehindEqual (contentType v : Bytes) : Prop :=
  ∃ front, chr '=' ∉ front ∧ contentType = front ++ chr '=' :: v

theorem behindEqual_iff {contentType : Bytes} (present : chr '=' ∈ contentType) (v : Bytes) :
    contentType.drop (findIdx contentType (chr '=') + 1).toNat = v ↔ BehindEqual contentType v := by
  have split {front rest : Bytes} (absent : chr '=' ∉ front) :
      (front ++ chr '=' :: rest).drop
        (findIdx (front ++ chr '=' :: rest) (chr '=') + 1).toNat = rest := by
    rw [findIdx_append front rest (chr '=') absent,
      show ((front.length : Int) + 1).toNat = front.length + 1 by omega, ← List.drop_drop,
      List.drop_left]
    rfl
  constructor
  · intro same
    obtain ⟨front, rest, shape, absent⟩ := List.eq_append_cons_of_mem present
    rw [shape, split absent] at same
    exact ⟨front, absent, same ▸ shape⟩
  · rintro ⟨front, absent, rfl⟩
    exact split absent

theorem BoundaryAttribute.equal_mem {contentType v : Bytes}
    (given : BoundaryAttribute contentType v) : chr '=' ∈ contentType := by
  obtain ⟨front, blanks, name, rest, rfl, -⟩ := given
  simp

/-- The content type for which the right decoder is chosen. -/
def ChoiceFits (junk : Junk) (contentType : Bytes) : Prop :=
  urlencodedType <+: contentType ∨
    (¬ contentType <+: urlencodedType ∧
      (contentType <+: multipartType → contentType = multipartType) ∧
        (multipartType <+: contentType → junk = some 0 ∧
          ∀ v, BoundaryAttribute contentType v → BehindEqual contentType v))

section Choice

variable {junk : Junk} {contentType : Bytes}

theorem startsWith_some (type : Bytes) :
    StartsWith (some contentType) type ↔ type <+: contentType := by
  simp [StartsWith]

theorem decoderFits_parameter :
    DecoderFits (some contentType) .parameter ↔ urlencodedType <+: contentType := by
  constructor
  · intro fits
    exact (startsWith_some _).mp (fits.parameter.mp rfl)
  · intro start
    constructor
    · exact iff_of_true rfl ((startsWith_some _).mpr start)
    · rw [startsWith_some]
      apply iff_of_false
      · rintro ⟨boundary, same⟩
        cases same
      · exact types_differ start
    · intro boundary same
      cases same

theorem decoderFits_neither : DecoderFits (some contentType) .neither ↔
    ¬ urlencodedType <+: contentType ∧ ¬ multipartType <+: contentType := by
  constructor
  · intro fits
    constructor
    · intro start
      cases fits.parameter.mpr ((startsWith_some _).mpr start)
    · intro start
      obtain ⟨boundary, same⟩ := fits.formdata.mpr ((startsWith_some _).mpr start)
      cases same
  · intro ⟨noForm, noParts⟩
    constructor
    · rw [startsWith_some]
      exact iff_of_false (fun same => by cases same) noForm
    · rw [startsWith_some]
      apply iff_of_false
      · rintro ⟨boundary, same⟩
        cases same
      · exact noParts
    · intro boundary same
      cases same

theorem decoderFits_formdata :
    DecoderFits (some contentType) (.formdata (boundaryText junk contentType)) ↔
      multipartType <+: contentType ∧ junk = some 0 ∧
        ∀ v, BoundaryAttribute contentType v → BehindEqual contentType v := by
  constructor
  · intro fits
    obtain ⟨string, given, exactly⟩ := fits.boundary _ rfl
    obtain ⟨zero, rfl⟩ := (boundaryText_ok_iff ..).mp given
    refine ⟨(startsWith_some _).mp (fits.formdata.mp ⟨_, rfl⟩), zero, fun v named => ?_⟩
    have same := exactly _ rfl v named
    exact (behindEqual_iff named.equal_mem v).mp (List.append_cancel_left same)
  · intro ⟨start, zero, exactly⟩
    constructor
    · rw [startsWith_some]
      exact iff_of_false (fun same => by cases same) fun form => types_differ form start
    · exact iff_of_true ⟨_, rfl⟩ ((startsWith_some _).mpr start)
    · intro boundary same
      obtain rfl := Decoder.formdata.inj same
      refine ⟨_, (boundaryText_ok_iff ..).mpr ⟨zero, rfl⟩, ?_⟩
      intro text type v named
      obtain rfl := Option.some.inj type
      rw [(behindEqual_iff named.equal_mem v).mpr (exactly v named)]

/-- Where there is a content type, the three cases of the code against what the type asks for. -/
theorem chosenDecoder_some {header : List Node}
    (given : findValue header (ascii "content-type") = .ok (some contentType)) :
    (∃ decoder, chosenDecoder junk header = .ok decoder ∧
      DecoderFits (some contentType) decoder) ↔ ChoiceFits junk contentType := by
  have chosen : chosenDecoder junk header =
      if prefixcmpEq contentType urlencodedType then .ok .parameter
      else if prefixcmpEq contentType multipartType then
        .ok (.formdata (boundaryText junk contentType))
      else .ok .neither := by
    rw [chosenDecoder, given]
    rfl
  have only {decoder : Decoder} (result : chosenDecoder junk header = .ok decoder) :
      (∃ decoder, chosenDecoder junk header = .ok decoder ∧
        DecoderFits (some contentType) decoder) ↔ DecoderFits (some contentType) decoder := by
    rw [result]
    simp
  rw [ChoiceFits]
  by_cases form : prefixcmpEq contentType urlencodedType = true
  · rw [if_pos form] at chosen
    rw [only chosen, decoderFits_parameter]
    constructor
    · exact Or.inl
    · rintro (start | ⟨other, -, -⟩)
      · exact start
      · exact ((prefixcmpEq_iff ..).mp form).resolve_right other
  rw [if_neg form] at chosen
  rw [prefixcmpEq_iff, not_or] at form
  by_cases parts : prefixcmpEq contentType multipartType = true
  · rw [if_pos parts] at chosen
    rw [only chosen, decoderFits_formdata]
    constructor
    · intro ⟨start, zero, exactly⟩
      exact Or.inr ⟨form.2, fun shorter => shorter.eq_of_length_le start.length_le,
        fun _ => ⟨zero, exactly⟩⟩
    · rintro (urlencoded | ⟨-, whole, fits⟩)
      · exact absurd urlencoded form.1
      · have start : multipartType <+: contentType := by
          rcases (prefixcmpEq_iff ..).mp parts with start | shorter
          · exact start
          · rw [whole shorter]
        exact ⟨start, fits start⟩
  · rw [if_neg parts] at chosen
    rw [only chosen, decoderFits_neither]
    rw [prefixcmpEq_iff, not_or] at parts
    exact iff_of_true ⟨form.1, parts.1⟩ (Or.inr ⟨form.2, fun shorter => absurd shorter parts.2,
      fun start => absurd start parts.1⟩)

end Choice

/-- A header with this content type. -/
def typeHeader (text : Bytes) : List Node := [Node.entry (ascii "content-type", text)]

end Ttac
