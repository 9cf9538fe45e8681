import Ttac.RequestChunking
import Ttac.RequestText
import Mathlib.Data.List.Forall2

set_option autoImplicit false

/- Parameters on their way from a client's pairs to `req.parameter`, in the target of
a `GET` and in the body of a `POST`. -/
namespace Ttac

/-- The bytes a client leaves as they are. -/
def isUnreserved (c : UInt8) : Bool :=
  isDigit c || (chr 'a' ≤ c && c ≤ chr 'z') || (chr 'A' ≤ c && c ≤ chr 'Z') ||
    (ascii "-._~").contains c

/-- `texts` holds the keys and values of `pairs` as a client writes them. -/
def Spelled (pairs texts : List (Bytes × Bytes)) : Prop :=
  List.Forall₂ (fun pair text =>
    Spells isUnreserved pair.1 text.1 ∧ Spells isUnreserved pair.2 text.2) pairs texts

/-- `k1=v1&k2=v2...`. -/
def queryText : List (Bytes × Bytes) → Bytes
  | [] => []
  | [text] => text.1 ++ chr '=' :: text.2
  | text :: texts => (text.1 ++ chr '=' :: text.2) ++ chr '&' :: queryText texts

theorem isHex_isUnreserved (c : UInt8) (hex : isHex c = true) : isUnreserved c = true := by
  have nine : (chr '9').toNat = 57 := rfl
  simp only [isHex, isUnreserved, isDigit, Bool.or_eq_true, Bool.and_eq_true, decide_eq_true_eq,
    UInt8.le_iff_toNat_le] at hex ⊢
  have zs : (chr 'a').toNat = 97 ∧ (chr 'f').toNat = 102 ∧ (chr 'z').toNat = 122 ∧
      (chr 'A').toNat = 65 ∧ (chr 'F').toNat = 70 ∧ (chr 'Z').toNat = 90 :=
    ⟨rfl, rfl, rfl, rfl, rfl, rfl⟩
  omega

theorem Spells.not_mem {t s : Bytes} {c : UInt8} (spelled : Spells isUnreserved t s)
    (reserved : isUnreserved c = false) (notPercent : c ≠ chr '%') : c ∉ s := by
  have other : ∀ d, isUnreserved d = true → c ≠ d := by
    rintro d kept rfl
    rw [reserved] at kept
    cases kept
  induction spelled with
  | nil => exact List.not_mem_nil
  | literal kept _ ih =>
      rw [List.mem_cons, not_or]
      exact ⟨other _ kept, ih⟩
  | escape high low _ _ ih =>
      simp only [List.mem_cons, not_or]
      exact ⟨notPercent, other _ (isHex_isUnreserved _ high), other _ (isHex_isUnreserved _ low),
        ih⟩

theorem percentDecode_spelled {t s : Bytes} (spelled : Spells isUnreserved t s) :
    percentDecode s = t := by
  refine percentDecode_of_spells ?_ spelled
  rintro c kept rfl
  revert kept
  decide

/-- The upper-case hex digit of a number below 16. -/
def hexDigit (n : Nat) : UInt8 := if n < 10 then UInt8.ofNat (48 + n) else UInt8.ofNat (55 + n)

/-- The spelling most clients choose: upper-case digits, and only where they must. -/
def percentEncode (t : Bytes) : Bytes :=
  t.flatMap fun c =>
    if isUnreserved c then [c] else [chr '%', hexDigit (c.toNat / 16), hexDigit (c.toNat % 16)]

theorem isHex_hexDigit : ∀ n < 16, isHex (hexDigit n) = true := by decide

theorem hexByte_hexDigit : ∀ high < 16, ∀ low < 16,
    hexByte (hexDigit high) (hexDigit low) = UInt8.ofNat (high * 16 + low) := by decide

theorem spells_percentEncode (t : Bytes) : Spells isUnreserved t (percentEncode t) := by
  induction t with
  | nil => exact .nil
  | cons c t ih =>
      have size := c.toNat_lt
      rw [percentEncode, List.flatMap_cons]
      split
      · rename_i kept
        exact .literal kept ih
      · refine .escape (isHex_hexDigit _ (by omega)) (isHex_hexDigit _ (by omega)) ?_ ih
        rw [hexByte_hexDigit _ (by omega) _ (by omega), Nat.div_add_mod', UInt8.ofNat_toNat]

section Pair

variable {pair text : Bytes × Bytes} (spelled : Spells isUnreserved pair.1 text.1 ∧
  Spells isUnreserved pair.2 text.2)
include spelled

theorem segment_not_mem {c : UInt8} (reserved : isUnreserved c = false) (notPercent : c ≠ chr '%')
    (notEqual : c ≠ chr '=') : c ∉ text.1 ++ chr '=' :: text.2 := by
  simp only [List.mem_append, List.mem_cons, not_or]
  exact ⟨spelled.1.not_mem reserved notPercent, notEqual, spelled.2.not_mem reserved notPercent⟩

end Pair

theorem queryText_not_mem {pairs texts : List (Bytes × Bytes)} (spelled : Spelled pairs texts)
    {c : UInt8} (reserved : isUnreserved c = false) (notPercent : c ≠ chr '%')
    (notEqual : c ≠ chr '=') (notAmp : c ≠ chr '&') : c ∉ queryText texts := by
  induction spelled with
  | nil => exact List.not_mem_nil
  | @cons pair text pairs texts both rest ih =>
      have segment := segment_not_mem both reserved notPercent notEqual
      cases rest with
      | nil => exact segment
      | cons _ _ =>
          rw [queryText, List.mem_append, List.mem_cons, not_or, not_or]
          · exact ⟨segment, notAmp, ih⟩
          · simp

/-- The pairs of a query are decoded one by one. -/
theorem parseParameter_texts (list : List Node) {texts : List (Bytes × Bytes)}
    (separate : ∀ text ∈ texts, chr '=' ∉ text.1 ∧ chr '&' ∉ text.1 ++ chr '=' :: text.2) :
    parseParameter list (some (queryText texts)) =
      .ok (list ++ texts.map fun text => Node.entry (urlDecoded text.1, urlDecoded text.2)) := by
  have split : segmentPairs (queryText texts) =
      texts.map (fun text => (urlDecoded text.1, urlDecoded text.2)) ∧
        (chr '&' ∉ queryText texts ∨ chr '=' ∈ lastSegment (queryText texts)) := by
    induction texts with
    | nil => exact ⟨rfl, Or.inl List.not_mem_nil⟩
    | cons text texts ih =>
        rw [List.forall_mem_cons] at separate
        obtain ⟨⟨noEqual, noAmp⟩, rest⟩ := separate
        have here := segmentPair_split text.1 text.2 noEqual
        obtain ⟨pairs, ends⟩ := ih rest
        cases texts with
        | nil =>
            refine ⟨?_, Or.inl noAmp⟩
            rw [queryText, segmentPairs_last _ noAmp, here]
            rfl
        | cons next texts =>
            rw [queryText]
            · constructor
              · rw [segmentPairs_append _ _ noAmp, here, pairs]
                rfl
              · right
                rw [lastSegment_append]
                rcases ends with single | found
                · rw [lastSegment_of_not_mem _ single]
                  cases texts <;> simp [queryText]
                · exact found
            · simp
  rw [parseParameter_eq, if_pos split.2, split.1, List.map_map]
  rfl

/-- The text of a query is read back as its pairs. -/
theorem parseParameter_queryText {pairs texts : List (Bytes × Bytes)}
    (spelled : Spelled pairs texts)
    (noNul : ∀ pair ∈ pairs, (0 : UInt8) ∉ pair.1 ∧ (0 : UInt8) ∉ pair.2) :
    parseParameter [] (some (queryText texts)) = .ok (pairs.map Node.entry) := by
  have both : (∀ text ∈ texts, chr '=' ∉ text.1 ∧ chr '&' ∉ text.1 ++ chr '=' :: text.2) ∧
      (texts.map fun text => Node.entry (urlDecoded text.1, urlDecoded text.2)) =
        pairs.map Node.entry := by
    induction spelled with
    | nil => exact ⟨by simp, rfl⟩
    | @cons pair text pairs texts both _ ih =>
        rw [List.forall_mem_cons] at noNul
        obtain ⟨separate, decoded⟩ := ih noNul.2
        constructor
        · rw [List.forall_mem_cons]
          exact ⟨⟨both.1.not_mem (by decide) (by decide),
            segment_not_mem both (by decide) (by decide) (by decide)⟩, separate⟩
        · rw [List.map_cons, List.map_cons, decoded, urlDecoded_eq, urlDecoded_eq,
            percentDecode_spelled both.1, percentDecode_spelled both.2,
            cstr_of_not_mem _ noNul.1.1, cstr_of_not_mem _ noNul.1.2]
  rw [parseParameter_texts [] both.1, both.2, List.nil_append]

def formType : Bytes × Bytes := (ascii "Content-Type", ascii "application/x-www-form-urlencoded")

def lengthLine (body : Bytes) : Bytes × Bytes := (ascii "Content-Length", decimal body.length)

/-- The parts of a request that the client chooses besides the pairs. -/
structure RequestInput (path version : Bytes) (extra : List (Bytes × Bytes)) : Prop where
  pathText : LineText path
  pathNoSpace : chr ' ' ∉ path
  pathNoMark : chr '?' ∉ path
  versionText : LineText version
  lines : ∀ line ∈ extra, HeaderLine line
  notLength : ∀ line ∈ extra, toLower line.1 ≠ ascii "content-length"
  notType : ∀ line ∈ extra, toLower line.1 ≠ ascii "content-type"

theorem isGet_cases {method : Bytes} (get : isGet method = true) :
    method = ascii "get" ∨ method = ascii "GET" := by
  simpa [isGet] using get

theorem isPost_cases {method : Bytes} (post : isPost method = true) :
    method = ascii "post" ∨ method = ascii "POST" := by
  simpa [isPost] using post

theorem formType_line : HeaderLine formType :=
  ⟨by decide, .of_noCr (by decide) (by decide) (by decide),
    .of_noCr (by decide) (by decide) (by decide)⟩

theorem lengthLine_line (body : Bytes) : HeaderLine (lengthLine body) := by
  refine ⟨?_, ?_, ?_⟩
  · change chr ':' ∉ ascii "Content-Length"
    decide
  · change LineText (ascii "Content-Length")
    exact .of_noCr (by decide) (by decide) (by decide)
  · exact .of_noCr (decimal_not_mem _ (by decide)) (decimal_not_mem _ (by decide))
      (decimal_not_mem _ (by decide))

theorem queryText_line {pairs texts : List (Bytes × Bytes)} (spelled : Spelled pairs texts) :
    LineText (queryText texts) :=
  .of_noCr (queryText_not_mem spelled (by decide) (by decide) (by decide) (by decide))
    (queryText_not_mem spelled (by decide) (by decide) (by decide) (by decide))
    (queryText_not_mem spelled (by decide) (by decide) (by decide) (by decide))

section Delivery

variable {pairs texts extra : List (Bytes × Bytes)} {path version method : Bytes}
  (spelled : Spelled pairs texts)
  (noNul : ∀ pair ∈ pairs, (0 : UInt8) ∉ pair.1 ∧ (0 : UInt8) ∉ pair.2)
  (input : RequestInput path version extra) (junk : Junk) (fuel : Nat)
include spelled noNul input

theorem parseRequest_get (get : isGet method = true)
    (short : (messageText method (path ++ chr '?' :: queryText texts) version extra []).length <
      2 ^ 29) (ended : Bool) :
    parseRequest textReader junk fuel
        ⟨messageText method (path ++ chr '?' :: queryText texts) version extra [], ended⟩ =
      (.ok (some ⟨method, path ++ chr '?' :: queryText texts, version, extra.map lineNode, none,
        pairs.map Node.entry⟩), ⟨[], ended⟩) := by
  have message : Message method (path ++ chr '?' :: queryText texts) version extra [] := by
    refine ⟨?_, ?_, ?_, ?_, input.versionText, input.lines, short⟩
    · rcases isGet_cases get with rfl | rfl <;>
        exact .of_noCr (by decide) (by decide) (by decide)
    · rcases isGet_cases get with rfl | rfl <;> decide
    · exact input.pathText.join (queryText_line spelled) (by decide) (by decide) (by decide)
        (by decide)
    · simp only [List.mem_append, List.mem_cons, not_or]
      exact ⟨input.pathNoSpace, by decide,
        queryText_not_mem spelled (by decide) (by decide) (by decide) (by decide)⟩
  have noLength := findValue_lines_absent extra (ascii "content-length") input.notLength
  have read := parseRequest_text message junk fuel [] ended none
    (readBody_absent _ [] ended noLength)
  rw [List.append_nil] at read
  have mark := findIdx_append path (queryText texts) (chr '?') input.pathNoMark
  have behind : (path ++ chr '?' :: queryText texts).drop ((path.length : Int) + 1).toNat =
      queryText texts := by
    rw [show ((path.length : Int) + 1).toNat = path.length + 1 by omega, ← List.drop_drop,
      List.drop_left]
    rfl
  have query : queryParameter method (path ++ chr '?' :: queryText texts) [] =
      .ok (pairs.map Node.entry) := by
    simp only [queryParameter, get, ↓reduceIte, mark, behind,
      parseParameter_queryText spelled noNul, show (0 : Int) ≤ path.length by omega]
  have notPost : isPost method = false := by
    rcases isGet_cases get with rfl | rfl <;> rfl
  rw [read, finishRequest_ok query (bodyParameter_other notPost junk fuel _ _ _), Option.map_some]

theorem parseRequest_post (post : isPost method = true) {lines : List (Bytes × Bytes)}
    (order : lines.Perm (formType :: lengthLine (queryText texts) :: extra))
    (short : (messageText method path version lines (queryText texts)).length < 2 ^ 29)
    (ended : Bool) :
    parseRequest textReader junk fuel
        ⟨messageText method path version lines (queryText texts), ended⟩ =
      (.ok (some ⟨method, path, version, lines.map lineNode, some (queryText texts),
        pairs.map Node.entry⟩), ⟨[], ended⟩) := by
  have cases : ∀ line ∈ lines,
      line = formType ∨ line = lengthLine (queryText texts) ∨ line ∈ extra := by
    intro line member
    have inside := order.mem_iff.mp member
    simpa only [List.mem_cons] using inside
  have message : Message method path version lines (queryText texts) := by
    refine ⟨?_, ?_, input.pathText, input.pathNoSpace, input.versionText, ?_, short⟩
    · rcases isPost_cases post with rfl | rfl <;>
        exact .of_noCr (by decide) (by decide) (by decide)
    · rcases isPost_cases post with rfl | rfl <;> decide
    · intro line member
      rcases cases line member with rfl | rfl | inside
      · exact formType_line
      · exact lengthLine_line _
      · exact input.lines line inside
  have different : toLower formType.1 ≠ ascii "content-length" := by decide
  have length : findValue (lines.map lineNode) (ascii "content-length") =
      .ok (some (decimal (queryText texts).length)) := by
    refine findValue_lines_only lines (lengthLine (queryText texts))
      (order.mem_iff.mpr (by simp)) ?_
    intro other member same
    rcases cases other member with rfl | rfl | inside
    · exact absurd same different
    · rfl
    · exact absurd same (input.notLength other inside)
  have type : findValue (lines.map lineNode) (ascii "content-type") =
      .ok (some (ascii "application/x-www-form-urlencoded")) := by
    refine findValue_lines_only lines formType (order.mem_iff.mpr (by simp)) ?_
    intro other member same
    rcases cases other member with rfl | rfl | inside
    · rfl
    · exact absurd same.symm different
    · exact absurd same (input.notType other inside)
  have bodyShort : (queryText texts).length < 2 ^ 29 := by
    simp only [messageText, List.length_append] at short
    omega
  have announced := readBody_announced (lines.map lineNode) (queryText texts) [] ended length
    bodyShort
  have read := parseRequest_text message junk fuel [] ended _ announced
  rw [List.append_nil] at read
  have clean := cstr_of_not_mem (queryText texts) (queryText_line spelled).noNul
  have notGet : isGet method = false := by
    rcases isPost_cases post with rfl | rfl <;> rfl
  have query : queryParameter method path [] = .ok [] := by
    rw [queryParameter, notGet, if_neg Bool.false_ne_true]
  have form : bodyParameter junk fuel method (lines.map lineNode) (some (queryText texts)) [] =
      .ok (some (pairs.map Node.entry)) := by
    have urlencoded : prefixcmpEq (ascii "application/x-www-form-urlencoded")
        (ascii "application/x-www-form-urlencoded") = true := by decide
    rw [bodyParameter_urlencoded post type urlencoded, Option.map_some, clean,
      parseParameter_queryText spelled noNul]
    rfl
  rw [read, finishRequest_ok query form, Option.map_some]

/-- Sent in the target of a `GET` or in the body of a `POST`, in any chunks, the pairs
arrive in `req.parameter` in order, and the first value of each key is found there. -/
theorem parseRequest_parameters :
    (∀ method, isGet method = true →
      let target := path ++ chr '?' :: queryText texts
      let data := messageText method target version extra []
      data.length < 2 ^ 29 → ∀ d : Delivery data,
        (parseRequest Stream.reader junk fuel d.stream).1 =
          .ok (some ⟨method, target, version, extra.map lineNode, none, pairs.map Node.entry⟩)) ∧
      (∀ method, isPost method = true →
        ∀ lines : List (Bytes × Bytes),
          lines.Perm (formType :: lengthLine (queryText texts) :: extra) →
        let data := messageText method path version lines (queryText texts)
        data.length < 2 ^ 29 → ∀ d : Delivery data,
          (parseRequest Stream.reader junk fuel d.stream).1 =
            .ok (some ⟨method, path, version, lines.map lineNode, some (queryText texts),
              pairs.map Node.entry⟩)) ∧
      ∀ key, findValue (pairs.map Node.entry) key =
        .ok ((pairs.find? fun pair => pair.1 = key).map Prod.snd) := by
  refine ⟨fun method get => ?_, fun method post lines order => ?_, findValue_entries pairs⟩
  · intro target data short d
    rw [(parseRequest_delivers d junk fuel).1,
      parseRequest_get spelled noNul input junk fuel get short false]
  · intro data short d
    rw [(parseRequest_delivers d junk fuel).1,
      parseRequest_post spelled noNul input junk fuel post order short false]

end Delivery

def samplePairs : List (Bytes × Bytes) := [(ascii "name", ascii "a b"), (ascii "name", [])]

def sampleTexts : List (Bytes × Bytes) :=
  samplePairs.map fun pair => (percentEncode pair.1, percentEncode pair.2)

def sampleLines : List (Bytes × Bytes) := [(ascii "Host", ascii "x:80")]

theorem sampleTexts_spelled : Spelled samplePairs sampleTexts := by
  unfold Spelled sampleTexts
  rw [List.forall₂_map_right_iff]
  exact List.forall₂_same.mpr fun pair _ =>
    ⟨spells_percentEncode pair.1, spells_percentEncode pair.2⟩

theorem sampleLines_input : RequestInput (ascii "/a") (ascii "HTTP/1.1") sampleLines := by
  have host : HeaderLine (ascii "Host", ascii "x:80") :=
    ⟨by decide, .of_noCr (by decide) (by decide) (by decide),
      .of_noCr (by decide) (by decide) (by decide)⟩
  refine ⟨.of_noCr (by decide) (by decide) (by decide), by decide, by decide,
    .of_noCr (by decide) (by decide) (by decide), ?_, by decide, by decide⟩
  intro line member
  rwa [List.mem_singleton.mp member]

theorem parseRequest_parameters_sample :
    (parseRequest Stream.reader none 0 (Delivery.single
        (messageText (ascii "GET") (ascii "/a" ++ chr '?' :: queryText sampleTexts)
          (ascii "HTTP/1.1") sampleLines []) (by decide) (by decide)).stream).1 =
        .ok (some ⟨ascii "GET", ascii "/a?name=a%20b&name=", ascii "HTTP/1.1",
          [⟨some (ascii "host"), ascii "x:80"⟩], none,
          [⟨some (ascii "name"), ascii "a b"⟩, ⟨some (ascii "name"), []⟩]⟩) ∧
      (parseRequest Stream.reader none 0 (Delivery.single
        (messageText (ascii "post") (ascii "/a") (ascii "HTTP/1.1")
          (lengthLine (queryText sampleTexts) :: formType :: sampleLines)
          (queryText sampleTexts)) (by decide) (by decide)).stream).1 =
        .ok (some ⟨ascii "post", ascii "/a", ascii "HTTP/1.1",
          [⟨some (ascii "content-length"), ascii "16"⟩,
            ⟨some (ascii "content-type"), ascii "application/x-www-form-urlencoded"⟩,
            ⟨some (ascii "host"), ascii "x:80"⟩],
          some (ascii "name=a%20b&name="),
          [⟨some (ascii "name"), ascii "a b"⟩, ⟨some (ascii "name"), []⟩]⟩) := by
  have delivered := parseRequest_parameters sampleTexts_spelled (by decide) sampleLines_input none 0
  exact ⟨delivered.1 (ascii "GET") rfl (by decide) _,
    delivered.2.1 (ascii "post") rfl _ (List.Perm.swap _ _ _) (by decide) _⟩

end Ttac
