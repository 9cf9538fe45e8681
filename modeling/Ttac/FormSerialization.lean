import Ttac.RequestDelivery

set_option autoImplicit false

/- `application/x-www-form-urlencoded` as clients write it, and what `parse_parameter` reads in
it. -/
namespace Ttac

/-- The bytes that are kept. -/
def isKept (c : UInt8) : Bool := isDigit c || Ascii.isLetter c || (ascii "*-._").contains c

def formByte (c : UInt8) : Bytes :=
  if isKept c then [c]
  else if c = chr ' ' then [chr '+']
  else [chr '%', hexDigit (c.toNat / 16), hexDigit (c.toNat % 16)]

def formEncode (text : Bytes) : Bytes := text.flatMap formByte

/-- The pairs of a form as they are sent. -/
def formSerialize (pairs : List (Bytes × Bytes)) : Bytes :=
  queryText (pairs.map fun pair => (formEncode pair.1, formEncode pair.2))

/-- What `url_decode` makes of a byte of a form: a space has become a `+`, and stays one. -/
def unspaced (c : UInt8) : UInt8 := if c = chr ' ' then chr '+' else c

section Bytes

theorem isKept_hexDigit : ∀ n < 16, isKept (hexDigit n) = true := by decide

theorem formByte_mem {c d : UInt8} (member : d ∈ formByte c) :
    d = chr '%' ∨ d = chr '+' ∨ isKept d = true := by
  rw [formByte] at member
  by_cases kept : isKept c = true
  · rw [if_pos kept, List.mem_singleton] at member
    exact .inr (.inr (member ▸ kept))
  · rw [if_neg kept] at member
    by_cases space : c = chr ' '
    · rw [if_pos space, List.mem_singleton] at member
      exact .inr (.inl member)
    · rw [if_neg space, List.mem_cons, List.mem_cons, List.mem_singleton] at member
      have size := c.toNat_lt
      rcases member with percent | high | low
      · exact .inl percent
      · exact .inr (.inr (high ▸ isKept_hexDigit _ (by omega)))
      · exact .inr (.inr (low ▸ isKept_hexDigit _ (by omega)))

/-- Nothing that separates the pairs is left in a key or a value. -/
theorem not_mem_formEncode {text : Bytes} {c : UInt8} (other : isKept c = false)
    (notPercent : c ≠ chr '%') (notPlus : c ≠ chr '+') : c ∉ formEncode text := by
  intro member
  obtain ⟨d, -, inside⟩ := List.mem_flatMap.mp member
  rcases formByte_mem inside with percent | plus | kept
  · exact notPercent percent
  · exact notPlus plus
  · rw [other] at kept
    cases kept

theorem percentDecode_formByte (c : UInt8) (rest : Bytes) :
    percentDecode (formByte c ++ rest) = unspaced c :: percentDecode rest := by
  rw [formByte, unspaced]
  by_cases kept : isKept c = true
  · have notSpace : c ≠ chr ' ' := by
      intro same
      subst same
      revert kept
      decide
    have notPercent : c ≠ chr '%' := by
      intro same
      subst same
      revert kept
      decide
    rw [if_pos kept, if_neg notSpace]
    exact percentDecode_literal c rest notPercent
  · rw [if_neg kept]
    by_cases space : c = chr ' '
    · rw [if_pos space, if_pos space]
      exact percentDecode_literal (chr '+') rest (by decide)
    · have size := c.toNat_lt
      have byte := hexByte_hexDigit (c.toNat / 16) (by omega) (c.toNat % 16) (by omega)
      rw [Nat.div_add_mod', UInt8.ofNat_toNat] at byte
      rw [if_neg space, if_neg space, List.cons_append, List.cons_append, List.cons_append,
        List.nil_append, percentDecode_escape _ _ _ (isHex_hexDigit _ (by omega))
          (isHex_hexDigit _ (by omega)), byte]

theorem percentDecode_formEncode (text : Bytes) :
    percentDecode (formEncode text) = text.map unspaced := by
  induction text with
  | nil => rfl
  | cons c text ih =>
      rw [formEncode, List.flatMap_cons, percentDecode_formByte, ← formEncode, ih, List.map_cons]

theorem map_unspaced_iff (text : Bytes) : text.map unspaced = text ↔ chr ' ' ∉ text := by
  induction text with
  | nil => simp
  | cons c text ih =>
      have first : unspaced c = c ↔ chr ' ' ≠ c := by
        rw [unspaced]
        by_cases space : c = chr ' '
        · rw [if_pos space, space]
          decide
        · rw [if_neg space]
          exact iff_of_true rfl (Ne.symm space)
      rw [List.map_cons, List.cons.injEq, ih, first, List.mem_cons, not_or]

theorem urlDecoded_formEncode {text : Bytes} (noNul : (0 : UInt8) ∉ text) :
    urlDecoded (formEncode text) = text.map unspaced := by
  rw [urlDecoded_eq, percentDecode_formEncode]
  apply cstr_of_not_mem
  intro member
  obtain ⟨c, inside, zero⟩ := List.mem_map.mp member
  rw [unspaced] at zero
  by_cases space : c = chr ' '
  · rw [if_pos space] at zero
    cases zero
  · rw [if_neg space] at zero
    exact noNul (zero ▸ inside)

end Bytes

/-- A form comes back as its pairs exactly if it has no space. -/
theorem parseParameter_formSerialize_iff (list : List Node) {pairs : List (Bytes × Bytes)}
    (noNul : ∀ pair ∈ pairs, (0 : UInt8) ∉ pair.1 ∧ (0 : UInt8) ∉ pair.2) :
    parseParameter list (some (formSerialize pairs)) = .ok (list ++ pairs.map Node.entry) ↔
      ∀ pair ∈ pairs, chr ' ' ∉ pair.1 ∧ chr ' ' ∉ pair.2 := by
  have separate : ∀ text ∈ pairs.map fun pair => (formEncode pair.1, formEncode pair.2),
      chr '=' ∉ text.1 ∧ chr '&' ∉ text.1 ++ chr '=' :: text.2 := by
    intro text member
    obtain ⟨pair, -, same⟩ := List.mem_map.mp member
    subst same
    have noAmp {bytes : Bytes} : chr '&' ∉ formEncode bytes :=
      not_mem_formEncode (by decide) (by decide) (by decide)
    refine ⟨not_mem_formEncode (by decide) (by decide) (by decide), ?_⟩
    simp only [List.mem_append, List.mem_cons, not_or]
    exact ⟨noAmp, by decide, noAmp⟩
  have decoded : (pairs.map fun pair => (formEncode pair.1, formEncode pair.2)).map
      (fun text => Node.entry (urlDecoded text.1, urlDecoded text.2)) =
        pairs.map fun pair => Node.entry (pair.1.map unspaced, pair.2.map unspaced) := by
    rw [List.map_map]
    apply List.map_congr_left
    intro pair member
    obtain ⟨key, value⟩ := noNul pair member
    simp only [Function.comp_apply, urlDecoded_formEncode key, urlDecoded_formEncode value]
  rw [formSerialize, parseParameter_texts list separate, decoded, Except.ok.injEq,
    List.append_cancel_left_eq, List.map_inj_left]
  constructor
  · intro same pair member
    have entry := same pair member
    rw [Node.entry, Node.entry, Node.mk.injEq, Option.some.injEq] at entry
    exact ⟨(map_unspaced_iff _).mp entry.1, (map_unspaced_iff _).mp entry.2⟩
  · intro noSpace pair member
    obtain ⟨key, value⟩ := noSpace pair member
    rw [(map_unspaced_iff _).mpr key, (map_unspaced_iff _).mpr value]

/-- The space of `a b` arrives as a `+`. -/
theorem parseParameter_formSerialize_space :
    formSerialize [(ascii "k", ascii "a b")] = ascii "k=a+b" ∧
      parseParameter [] (some (formSerialize [(ascii "k", ascii "a b")])) ≠
        .ok [Node.entry (ascii "k", ascii "a b")] := by
  refine ⟨by decide, ?_⟩
  rw [formSerialize, parseParameter_texts [] (by decide)]
  simp only [urlDecoded_eq]
  decide

theorem parseParameter_formSerialize_iff_sample :
    parseParameter [] (some (formSerialize [(ascii "k", ascii "a+b")])) =
      .ok [Node.entry (ascii "k", ascii "a+b")] :=
  (parseParameter_formSerialize_iff [] (by decide)).mpr (by decide)

end Ttac
