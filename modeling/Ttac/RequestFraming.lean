import Ttac.RequestDelivery

set_option autoImplicit false

/- Where a request ends is read off the request itself: `parse_request` uses a beginning of what it
is sent, and it does the same on every input with this beginning. -/
namespace Ttac

open Reading (Reader Action Simulation Text)

variable {junk : Junk} {fuel : Nat} {data used rest more : Bytes}

/-- `parse_request` uses the whole input, and does not ask for more. -/
def Complete (junk : Junk) (fuel : Nat) (data : Bytes) : Prop :=
  (parseRequest textReader junk fuel ⟨data, false⟩).2 = ⟨[], false⟩

theorem parseRequest_suffix (left : (parseRequest textReader junk fuel ⟨data, false⟩).2 =
    ⟨rest, false⟩) : rest <:+ data := by
  have agree := (parseRequest_respects (Text.suffix Fault endChar data) junk fuel).agree
    ⟨data, false⟩ ⟨data, false⟩ ⟨rfl, List.suffix_refl data⟩
  rcases agree with never | ⟨-, -, suffix⟩
  · exact never.elim
  · rwa [left] at suffix

/-- On an input with the same beginning `parse_request` has the same result, and leaves what is
behind the beginning there. -/
theorem parseRequest_beginning
    (left : (parseRequest textReader junk fuel ⟨used ++ rest, false⟩).2 = ⟨rest, false⟩)
    (more : Bytes) : parseRequest textReader junk fuel ⟨used ++ more, false⟩ =
      ((parseRequest textReader junk fuel ⟨used ++ rest, false⟩).1, ⟨more, false⟩) := by
  have agree := (parseRequest_respects (Text.replaced Fault endChar rest more) junk fuel).agree
    ⟨used ++ rest, false⟩ ⟨used ++ more, false⟩ ⟨rfl, used, rfl, rfl⟩
  rcases agree with (reported | short) | ⟨same, -, front, shape, reached⟩
  · rw [left] at reported
    cases reported
  · rw [left] at short
    exact absurd short (Nat.lt_irrefl _)
  · rw [left] at shape
    have none : front = [] := List.append_left_eq_self.mp shape.symm
    rw [none, List.nil_append] at reached
    exact Prod.ext same.symm reached

theorem Complete.whole (complete : Complete junk fuel used) (more : Bytes) :
    parseRequest textReader junk fuel ⟨used ++ more, false⟩ =
      ((parseRequest textReader junk fuel ⟨used, false⟩).1, ⟨more, false⟩) := by
  have left : (parseRequest textReader junk fuel ⟨used ++ [], false⟩).2 = ⟨[], false⟩ := by
    rw [List.append_nil]
    exact complete
  rw [parseRequest_beginning left more, List.append_nil]

/-- Requests are framed by themselves: an input that is not used up starts with a complete request,
on which alone the result depends, and it starts with no other. -/
theorem requests_selfDelimiting :
    (∀ (d : Delivery data) (s : Stream) (result : Except Fault (Option Request)),
      parseRequest Stream.reader junk fuel d.stream = (result, s) →
        Delivers s ⟨rest, false⟩ → ∃ used, data = used ++ rest ∧ Complete junk fuel used ∧
          ∀ (more : Bytes) (e : Delivery (used ++ more)), ∃ t,
            parseRequest Stream.reader junk fuel e.stream = (result, t) ∧
              Delivers t ⟨more, false⟩) ∧
    ∀ first second, Complete junk fuel first → Complete junk fuel second →
      ∀ x y, first ++ x = second ++ y → first = second ∧ x = y := by
  constructor
  · intro d s result given leaves
    obtain ⟨same, delivers⟩ := parseRequest_delivers d junk fuel
    rw [given] at same delivers
    have left : (parseRequest textReader junk fuel ⟨data, false⟩).2 = ⟨rest, false⟩ :=
      delivers.unique leaves
    obtain ⟨used, shape⟩ := parseRequest_suffix left
    subst shape
    refine ⟨used, rfl, ?_, ?_⟩
    · have alone := parseRequest_beginning left []
      rw [List.append_nil] at alone
      rw [Complete, alone]
    · intro more e
      obtain ⟨again, others⟩ := parseRequest_delivers e junk fuel
      rw [parseRequest_beginning left more] at again others
      exact ⟨(parseRequest Stream.reader junk fuel e.stream).2,
        Prod.ext (again.trans same.symm) rfl, others⟩
  · intro first second one two x y same
    have left := one.whole x
    have right := two.whole y
    rw [same, right] at left
    have behind : y = x := congrArg (fun outcome => outcome.2.rest) left
    subst behind
    exact ⟨List.append_cancel_right same, rfl⟩

/-- A request with parameters in its target. -/
def getText : Bytes :=
  messageText (ascii "GET") (ascii "/a" ++ chr '?' :: queryText sampleTexts) (ascii "HTTP/1.1")
    sampleLines []

theorem getText_complete : Complete none 0 getText := by
  have read := parseRequest_get sampleTexts_spelled (by decide) sampleLines_input none 0
    (show isGet (ascii "GET") = true from rfl) (by decide) false
  rw [Complete, getText, read]

theorem requests_selfDelimiting_sample : ∃ result s,
    parseRequest Stream.reader none 0 (Delivery.single (getText ++ ascii "GET") (by decide)
      (by decide)).stream = (result, s) ∧ Delivers s ⟨ascii "GET", false⟩ ∧
      ∃ used, getText ++ ascii "GET" = used ++ ascii "GET" ∧ Complete none 0 used := by
  have single := parseRequest_delivers (Delivery.single (getText ++ ascii "GET") (by decide)
    (by decide)) none 0
  rw [getText_complete.whole] at single
  obtain ⟨used, shape, complete, -⟩ :=
    requests_selfDelimiting.1 _ _ _ (Prod.ext rfl rfl) single.2
  exact ⟨_, _, rfl, single.2, used, shape, complete⟩

end Ttac
