import Ttac.Request

set_option autoImplicit false

/- `parse_request` sees its input only through `get_char`: how the input is cut into
`read` calls does not matter, nor does what follows an input it never ran out of. -/
namespace Ttac

open Reading (Reader Action Simulation Text)

section Respects

variable {σ τ : Type} {R : Reader Fault endChar σ} {S : Reader Fault endChar τ}
  (sim : Simulation R S) (junk : Junk)

theorem headerLoop_ended (header : List Node) (s : σ) (ended : sim.ended s) :
    sim.ended (headerLoop R junk header s).2 := by
  induction size : R.size s using Nat.strongRecOn generalizing header s with
  | ind n ih =>
      have reached := (getLine_respects sim junk crlf).ended s ended
      rcases given : getLine R junk crlf s with ⟨_ | _ | line, s'⟩
      · rw [given] at reached
        rwa [headerLoop_error given]
      · rw [given] at reached
        rwa [headerLoop_none given]
      · rw [given] at reached
        rw [headerLoop_some given]
        cases headerLine header line with
        | error f => exact reached
        | ok header =>
            have smaller := getLine_size R junk crlf line s s' given
            exact ih _ (size ▸ smaller) _ s' reached rfl

theorem headerLoop_agree (header : List Node) (s : σ) (t : τ) (related : sim.rel s t) :
    sim.Agree (headerLoop R junk header s) (headerLoop S junk header t) := by
  induction size : R.size s using Nat.strongRecOn generalizing header s t with
  | ind n ih =>
      have step := (getLine_respects sim junk crlf).agree s t related
      rcases left : getLine R junk crlf s with ⟨result, s'⟩
      rcases right : getLine S junk crlf t with ⟨result', t'⟩
      rw [left, right] at step
      rcases step with finished | ⟨same, related'⟩
      · left
        rcases result with _ | _ | line
        · rwa [headerLoop_error left]
        · rwa [headerLoop_none left]
        · rw [headerLoop_some left]
          cases headerLine header line with
          | error f => exact finished
          | ok header => exact headerLoop_ended sim junk header s' finished
      · obtain rfl : result = result' := same
        rcases result with f | _ | line
        · rw [headerLoop_error left, headerLoop_error right]
          exact Or.inr ⟨rfl, related'⟩
        · rw [headerLoop_none left, headerLoop_none right]
          exact Or.inr ⟨rfl, related'⟩
        · rw [headerLoop_some left, headerLoop_some right]
          cases headerLine header line with
          | error f => exact Or.inr ⟨rfl, related'⟩
          | ok header =>
              have smaller := getLine_size R junk crlf line s s' left
              exact ih _ (size ▸ smaller) _ s' t' related' rfl

theorem readHeader_respects : sim.Respects (readHeader R junk) (readHeader S junk) :=
  ⟨headerLoop_agree sim junk [], headerLoop_ended sim junk []⟩

theorem readBody_respects (header : List Node) :
    sim.Respects (readBody R header) (readBody S header) := by
  refine Simulation.Respects.bind (sim.respects_lift _) (fun length => ?_)
  cases length with
  | none => exact sim.respects_pure none
  | some length => exact (readSz_respects sim _).bind (fun body => sim.respects_pure _)

theorem parseRequest_respects (fuel : Nat) :
    sim.Respects (parseRequest R junk fuel) (parseRequest S junk fuel) := by
  refine (getLine_respects sim junk crlf).bind (fun line => ?_)
  refine Simulation.Respects.bind (sim.respects_lift _) (fun ⟨method, path, version⟩ => ?_)
  refine (readHeader_respects sim junk).bind (fun header => ?_)
  exact (readBody_respects sim header).bind (fun body => sim.respects_lift _)

end Respects

/-- On delivered chunks `parse_request` does what it does on the text. -/
theorem parseRequest_delivers {data : Bytes} (d : Delivery data) (junk : Junk) (fuel : Nat) :
    (parseRequest Stream.reader junk fuel d.stream).1 =
        (parseRequest textReader junk fuel ⟨data, false⟩).1 ∧
      Delivers (parseRequest Stream.reader junk fuel d.stream).2
        (parseRequest textReader junk fuel ⟨data, false⟩).2 :=
  ((parseRequest_respects deliverySimulation junk fuel).agree _ _ d.delivers).resolve_left id

/-- The outcome depends on the bytes delivered only, and as long as no `read` reported
the end, not on the bytes behind them. -/
theorem parseRequest_chunking (junk : Junk) (fuel : Nat) {data : Bytes} (d : Delivery data) :
    (∀ e : Delivery data, (parseRequest Stream.reader junk fuel e.stream).1 =
        (parseRequest Stream.reader junk fuel d.stream).1) ∧
      ((parseRequest Stream.reader junk fuel d.stream).2.ended = false →
        ∀ (more : Bytes) (e : Delivery (data ++ more)),
          (parseRequest Stream.reader junk fuel e.stream).1 =
            (parseRequest Stream.reader junk fuel d.stream).1) := by
  obtain ⟨result, left⟩ := parseRequest_delivers d junk fuel
  constructor
  · intro e
    rw [result, (parseRequest_delivers e junk fuel).1]
  · intro live more e
    have extended := (parseRequest_respects (Text.extension Fault endChar more) junk fuel).agree
      ⟨data, false⟩ ⟨data ++ more, false⟩ ⟨rfl, rfl⟩
    rcases extended with finished | ⟨same, -⟩
    · have ended : (parseRequest textReader junk fuel ⟨data, false⟩).2.ended = true := finished
      rw [left.ended, live] at ended
      cases ended
    · rw [result, (parseRequest_delivers e junk fuel).1]
      exact same.symm

section Samples

/-- A form with one pair. -/
def chunkedText : Bytes := ascii "POST /a HTTP/1.1\r\nContent-Length: 3\r\n" ++
  ascii "Content-Type: application/x-www-form-urlencoded\r\n\r\na=b"

def chunkedRequest : Request :=
  ⟨ascii "POST", ascii "/a", ascii "HTTP/1.1",
    [⟨some (ascii "content-length"), ascii "3"⟩,
      ⟨some (ascii "content-type"), ascii "application/x-www-form-urlencoded"⟩],
    some (ascii "a=b"), [⟨some (ascii "a"), ascii "b"⟩]⟩

def wholeDelivery : Delivery chunkedText := .single chunkedText (by decide) (by decide)

/-- Cut between a CR and its LF, in a header line and in the body. -/
def cutDelivery : Delivery chunkedText where
  chunks := [⟨ascii "POST /a HTTP/1.1\r", by decide⟩, ⟨ascii "\nContent-Le", by decide⟩,
    ⟨ascii "ngth: 3\r\nContent-Type: application/x-www-form-urlencoded\r\n\r\na", by decide⟩,
    ⟨ascii "=b", by decide⟩]
  nonempty := by simp [ascii]
  whole := rfl

def followedDelivery : Delivery (chunkedText ++ ascii "GET /b") := .single _ (by decide) (by decide)

theorem chunkedText_parsed :
    (parseRequest textReader none 0 ⟨chunkedText, false⟩).1 = .ok (some chunkedRequest) ∧
      (parseRequest textReader none 0 ⟨chunkedText, false⟩).2.ended = false := by
  constructor <;> decide +kernel

theorem parseRequest_chunking_form :
    (parseRequest Stream.reader none 0 cutDelivery.stream).1 = .ok (some chunkedRequest) ∧
      (parseRequest Stream.reader none 0 followedDelivery.stream).1 =
        .ok (some chunkedRequest) := by
  obtain ⟨result, left⟩ := parseRequest_delivers wholeDelivery none 0
  have live : (parseRequest Stream.reader none 0 wholeDelivery.stream).2.ended = false :=
    left.ended.symm.trans chunkedText_parsed.2
  have whole := result.trans chunkedText_parsed.1
  have chunking := parseRequest_chunking none 0 wholeDelivery
  exact ⟨(chunking.1 cutDelivery).trans whole,
    (chunking.2 live (ascii "GET /b") followedDelivery).trans whole⟩

end Samples

end Ttac
