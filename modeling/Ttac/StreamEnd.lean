import Ttac.StreamText

set_option autoImplicit false

/- `get_char` at the end of the input: what its callers see when they go on calling it. -/
namespace Ttac

open Reading (Text)

/-- A call of `get_char`. -/
structure CharCall where
  before : Stream
  result : Except Fault UInt8
  after : Stream

/-- `n` calls of `get_char`, one behind the other. -/
def charCalls : Nat → Stream → List CharCall
  | 0, _ => []
  | n + 1, s => ⟨s, (getChar s).1, (getChar s).2⟩ :: charCalls n (getChar s).2

theorem charCalls_length (n : Nat) (s : Stream) : (charCalls n s).length = n := by
  induction n generalizing s with
  | zero => rfl
  | succ n ih => rw [charCalls, List.length_cons, ih]

namespace CharCall

/-- The call finds its buffer used up, and `read_fds` fails: it touches no byte. -/
def Ends (call : CharCall) : Prop :=
  call.before.cnt = call.before.len ∧ (readFds call.before).1 = true

/-- The call returns the value that stands for the end of the input. -/
def Reports (call : CharCall) : Prop := call.result = .ok endChar

def CursorValid (call : CharCall) : Prop :=
  0 ≤ call.after.cnt ∧ call.after.cnt ≤ call.after.len ∧ call.after.len ≤ bufSize

end CharCall

/-- Where `ends` tells which calls report the end of the input: the cursor is valid behind
all the others, these return the data in order, and once the end is reported each call
reports it again and touches no byte. -/
def Sticky (ends : CharCall → Prop) (data : Bytes) (calls : List CharCall) : Prop :=
  (∀ call ∈ calls, call.CursorValid ∨ ends call) ∧
    ∃ given ended, calls = given ++ ended ∧ (∀ call ∈ given, ¬ ends call) ∧
      given.map CharCall.result = (data.take given.length).map Except.ok ∧
        (ended ≠ [] → given.length = data.length) ∧ ∀ call ∈ ended, ends call ∧ call.Ends

/-- What `read` returns from the end of the input on: 0 or -1. -/
inductive EndRead where
  | zero
  | error
deriving DecidableEq

def EndRead.result : EndRead → ReadResult
  | zero => .bytes ⟨[], Nat.zero_le _⟩
  | error => .error

/-- The stream with more results of `read` behind those it has. -/
def Stream.more (s : Stream) (ending : List ReadResult) : Stream :=
  { s with fds := s.fds ++ ending }

section Data

variable {s : Stream} (ending : List ReadResult)

theorem fetch_more : fetch (s.more ending) = ((fetch s).1, (fetch s).2.more ending) := by
  by_cases inside : 0 ≤ s.cnt ∧ s.cnt < bufSize
  · have here : 0 ≤ (s.more ending).cnt ∧ (s.more ending).cnt < bufSize := inside
    rw [fetch, fetch, if_pos inside, if_pos here]
    have same : (s.more ending).buf[(s.more ending).cnt.toNat]? = s.buf[s.cnt.toNat]? := rfl
    rw [same]
    cases s.buf[s.cnt.toNat]? <;> rfl
  · have here : ¬ (0 ≤ (s.more ending).cnt ∧ (s.more ending).cnt < bufSize) := inside
    rw [fetch, fetch, if_neg inside, if_neg here]
    rfl

/-- What comes later does not matter as long as there is something to read. -/
theorem getChar_more (waiting : s.cnt = s.len → s.fds ≠ []) :
    getChar (s.more ending) = ((getChar s).1, (getChar s).2.more ending) := by
  by_cases drained : s.cnt = s.len
  · rw [getChar, getChar, if_pos drained, if_pos (show (s.more ending).cnt = (s.more ending).len
      from drained)]
    cases shape : s.fds with
    | nil => exact absurd shape (waiting drained)
    | cons result fds =>
        cases result with
        | error => simp [readFds, Stream.more, shape]
        | bytes chunk =>
            by_cases empty : chunk.bytes.length = 0
            · simp [readFds, Stream.more, shape, empty]
            · simp only [readFds, Stream.more, shape, List.cons_append, if_neg empty]
              exact fetch_more ending (s := { s with
                fds := fds, buf := chunk.bytes ++ s.buf.drop chunk.bytes.length, cnt := 0,
                len := chunk.bytes.length })
  · rw [getChar, getChar, if_neg drained, if_neg (show ¬ (s.more ending).cnt = (s.more ending).len
      from drained)]
    exact fetch_more ending

/-- A call that reads a byte of the data. -/
def CharCall.Reads (c : UInt8) (call : CharCall) : Prop :=
  call.result = .ok c ∧ call.CursorValid ∧ ¬ call.Ends

/-- A drained stream that still delivers something has a chunk to read. -/
theorem Delivers.refills {c : UInt8} {rest : Bytes} (delivers : Delivers s ⟨c :: rest, false⟩)
    (drained : s.cnt = s.len) :
    ∃ chunk fds, s.fds = .bytes chunk :: fds ∧ chunk.bytes ≠ [] := by
  obtain ⟨chunks, fds, nonempty, pending⟩ := delivers.pending
  have used : (s.buf.take s.len.toNat).drop s.cnt.toNat = [] := by
    rw [drained]
    apply List.drop_eq_nil_of_le
    rw [List.length_take]
    omega
  rw [used, List.nil_append] at pending
  cases chunks with
  | nil => cases pending
  | cons chunk chunks => exact ⟨chunk, _, fds, nonempty chunk (List.mem_cons_self ..)⟩

/-- A stream that delivers nothing more is drained, and has no chunk left. -/
theorem Delivers.drained (delivers : Delivers s ⟨[], false⟩) : s.cnt = s.len ∧ s.fds = [] := by
  obtain ⟨chunks, fds, nonempty, pending⟩ := delivers.pending
  have cursor := delivers.cursor
  have stored := delivers.stored
  obtain ⟨used, none⟩ := List.append_eq_nil_iff.mp pending.symm
  have short := congrArg List.length used
  rw [List.length_drop, List.length_take, List.length_nil] at short
  refine ⟨by omega, ?_⟩
  cases chunks with
  | nil => exact fds
  | cons chunk chunks =>
      rw [List.map_cons, List.flatten_cons] at none
      exact absurd (List.append_eq_nil_iff.mp none).1 (nonempty chunk (List.mem_cons_self ..))

theorem getChar_reads {c : UInt8} {rest : Bytes} (delivers : Delivers s ⟨c :: rest, false⟩) :
    (⟨s.more ending, (getChar (s.more ending)).1, (getChar (s.more ending)).2⟩ : CharCall).Reads c ∧
      ∃ t, (getChar (s.more ending)).2 = t.more ending ∧ Delivers t ⟨rest, false⟩ := by
  obtain ⟨result, later⟩ := getChar_delivers delivers
  have waiting : s.cnt = s.len → s.fds ≠ [] := by
    intro drained none
    obtain ⟨chunk, fds, shape, -⟩ := delivers.refills drained
    rw [none] at shape
    cases shape
  rw [getChar_more ending waiting]
  refine ⟨⟨result, ⟨later.cursor.1, later.cursor.2, later.small⟩, ?_⟩, _, rfl, later⟩
  intro ⟨drained, failed⟩
  obtain ⟨chunk, fds, shape, filled⟩ := delivers.refills drained
  have positive := List.length_pos_of_ne_nil filled
  have served : (readFds (s.more ending)).1 = false := by
    simp only [readFds, Stream.more, shape, List.cons_append,
      if_neg (show ¬ chunk.bytes.length = 0 by omega)]
  rw [served] at failed
  cases failed

/-- The calls that read the data, and what they leave to the calls behind. -/
theorem charCalls_reads {a b : Bytes} (delivers : Delivers s ⟨a ++ b, false⟩) (n : Nat) :
    ∃ given t, charCalls (a.length + n) (s.more ending) = given ++ charCalls n (t.more ending) ∧
      List.Forall₂ CharCall.Reads a given ∧ Delivers t ⟨b, false⟩ := by
  induction a generalizing s with
  | nil =>
      rw [List.length_nil, Nat.zero_add]
      exact ⟨[], s, rfl, .nil, delivers⟩
  | cons c a ih =>
      obtain ⟨reads, t, left, later⟩ := getChar_reads ending delivers
      obtain ⟨given, final, calls, all, done⟩ := ih later
      refine ⟨_ :: given, final, ?_, .cons reads all, done⟩
      rw [List.length_cons, Nat.add_right_comm, charCalls, left, calls, List.cons_append]

end Data

section End

variable {s : Stream} {ending : List EndRead}

/-- No call comes behind the one whose `read` returns -1. -/
def StopsAtError (ending : List EndRead) (n : Nat) : Prop :=
  ∀ k : Nat, ending[k]? = some .error → n ≤ k + 1

/-- A `read` that returns 0 leaves the cursor where the next call reads again. -/
theorem getChar_zero {fds : List ReadResult} (drained : s.cnt = s.len)
    (next : s.fds = [] ∧ fds = [] ∨ s.fds = EndRead.zero.result :: fds) :
    getChar s = (.ok endChar, { s with fds := fds, cnt := 0, len := 0, ended := true }) := by
  rw [getChar, if_pos drained]
  rcases next with ⟨none, rfl⟩ | shape
  · simp only [readFds, none]
  · simp only [readFds, shape, EndRead.result, List.length_nil, ↓reduceIte]

/-- A `read` that returns -1 leaves `cnt` and `len` apart. -/
theorem getChar_error {fds : List ReadResult} (drained : s.cnt = s.len)
    (next : s.fds = EndRead.error.result :: fds) :
    getChar s = (.ok endChar, { s with fds := fds, cnt := 0, len := -1, ended := true }) := by
  rw [getChar, if_pos drained]
  simp only [readFds, next, EndRead.result]

theorem readFds_end (fds : s.fds = ending.map EndRead.result) : (readFds s).1 = true := by
  cases ending with
  | nil => simp only [readFds, fds, List.map_nil]
  | cons read ending =>
      cases read <;> simp only [readFds, fds, List.map_cons, EndRead.result, List.length_nil,
        ↓reduceIte]

/-- The call behind the one whose `read` returned -1 goes to the buffer. -/
theorem charCalls_error {n : Nat} {fds : List ReadResult} (drained : s.cnt = s.len)
    (next : s.fds = EndRead.error.result :: fds) (ends : ∀ call ∈ charCalls n s, call.Ends) :
    n ≤ 1 := by
  rcases n with _ | _ | n
  · omega
  · omega
  · have second : (⟨(getChar s).2, (getChar (getChar s).2).1, (getChar (getChar s).2).2⟩ :
        CharCall) ∈ charCalls (n + 2) s :=
      List.mem_cons_of_mem _ (List.mem_cons_self ..)
    have apart := (ends _ second).1
    rw [getChar_error drained next] at apart
    cases apart

theorem charCalls_end (n : Nat) (drained : s.cnt = s.len) (fds : s.fds = ending.map EndRead.result)
    (stops : StopsAtError ending n) : ∀ call ∈ charCalls n s, call.Ends ∧ call.Reports := by
  induction n generalizing s ending with
  | zero =>
      intro call member
      cases member
  | succ n ih =>
      intro call member
      have ends := readFds_end fds
      cases ending with
      | nil =>
          have read := getChar_zero drained (Or.inl ⟨fds, rfl⟩)
          rw [charCalls, read] at member
          rcases List.mem_cons.mp member with rfl | later
          · exact ⟨⟨drained, ends⟩, rfl⟩
          · have none : StopsAtError [] n := by
              intro k error
              cases error
            exact ih rfl rfl none call later
      | cons first ending =>
          cases first with
          | zero =>
              have read := getChar_zero drained (Or.inr fds)
              rw [charCalls, read] at member
              rcases List.mem_cons.mp member with rfl | later
              · exact ⟨⟨drained, ends⟩, rfl⟩
              · have rest : StopsAtError ending n := by
                  intro k error
                  have := stops (k + 1) error
                  omega
                exact ih rfl rfl rest call later
          | error =>
              obtain rfl : n = 0 := by
                have := stops 0 rfl
                omega
              rw [charCalls, getChar_error drained fds] at member
              obtain rfl := List.mem_singleton.mp member
              exact ⟨⟨drained, ends⟩, rfl⟩

theorem stopsAtError_of_ends (n : Nat) (drained : s.cnt = s.len)
    (fds : s.fds = ending.map EndRead.result) (ends : ∀ call ∈ charCalls n s, call.Ends) :
    StopsAtError ending n := by
  induction ending generalizing n s with
  | nil =>
      intro k error
      cases error
  | cons first ending ih =>
      intro k error
      cases first with
      | error =>
          have := charCalls_error drained fds ends
          omega
      | zero =>
          cases k with
          | zero => cases error
          | succ k =>
              cases n with
              | zero => omega
              | succ n =>
                  have read := getChar_zero drained (Or.inr fds)
                  have later : ∀ call ∈ charCalls n (getChar s).2, call.Ends :=
                    fun call member => ends call (List.mem_cons_of_mem _ member)
                  rw [read] at later
                  have := ih n rfl rfl later k error
                  omega

end End

section Calls

variable {data : Bytes} (d : Delivery data) (ending : List EndRead) (n : Nat)

/-- The calls on the stream over the chunks of `data` and the results behind them. -/
def endingCalls : List CharCall :=
  charCalls n (streamReadInit (d.chunks.map ReadResult.bytes ++ ending.map EndRead.result))

theorem CharCall.Reads.not_ends {c : UInt8} {call : CharCall} (reads : call.Reads c) :
    ¬ call.Ends := reads.2.2

theorem reads_results {bytes : Bytes} {given : List CharCall}
    (reads : List.Forall₂ CharCall.Reads bytes given) :
    given.map CharCall.result = bytes.map Except.ok := by
  induction reads with
  | nil => rfl
  | cons first _ ih => rw [List.map_cons, List.map_cons, first.1, ih]

theorem reads_all {bytes : Bytes} {given : List CharCall}
    (reads : List.Forall₂ CharCall.Reads bytes given) :
    ∀ call ∈ given, ∃ c ∈ bytes, call.Reads c := by
  induction reads with
  | nil =>
      intro call member
      cases member
  | cons first _ ih =>
      intro call member
      rcases List.mem_cons.mp member with rfl | later
      · exact ⟨_, List.mem_cons_self .., first⟩
      · obtain ⟨c, inside, read⟩ := ih call later
        exact ⟨c, List.mem_cons_of_mem _ inside, read⟩

/-- The calls first read the data; those behind find the results from the end on. -/
theorem endingCalls_split : ∃ given t, List.Forall₂ CharCall.Reads (data.take n) given ∧
    t.cnt = t.len ∧ t.fds = ending.map EndRead.result ∧
      endingCalls d ending n = given ++ charCalls (n - data.length) t := by
  have start : streamReadInit (d.chunks.map ReadResult.bytes ++ ending.map EndRead.result) =
      d.stream.more (ending.map EndRead.result) := rfl
  rw [endingCalls, start]
  rcases Nat.le_total n data.length with few | many
  · have parts : Delivers d.stream ⟨data.take n ++ data.drop n, false⟩ := by
      rw [List.take_append_drop]
      exact d.delivers
    obtain ⟨given, t, calls, reads, -⟩ :=
      charCalls_reads (ending.map EndRead.result) parts 0
    rw [List.length_take, Nat.min_eq_left few] at calls
    refine ⟨given, ⟨ending.map EndRead.result, [], 0, 0, false⟩, reads, rfl, rfl, ?_⟩
    rw [show n - data.length = 0 by omega]
    exact calls
  · have whole : Delivers d.stream ⟨data ++ [], false⟩ := by
      rw [List.append_nil]
      exact d.delivers
    obtain ⟨given, t, calls, reads, done⟩ :=
      charCalls_reads (ending.map EndRead.result) whole (n - data.length)
    obtain ⟨drained, none⟩ := done.drained
    rw [Nat.add_sub_cancel' many] at calls
    refine ⟨given, t.more (ending.map EndRead.result), ?_, drained, ?_, calls⟩
    · rw [List.take_of_length_le many]
      exact reads
    · simp only [Stream.more, none, List.nil_append]

/-- Whatever tells the end: at most the data comes before it, so that the calls behind the
data have to find it. -/
theorem Sticky.stops {ends : CharCall → Prop} (sticky : Sticky ends data (endingCalls d ending n)) :
    StopsAtError ending (n - data.length) := by
  obtain ⟨-, given, ended, calls, -, results, -, final⟩ := sticky
  obtain ⟨read, t, reads, drained, fds, split⟩ := endingCalls_split d ending n
  rw [split] at calls
  have counts := congrArg List.length results
  have readCount := congrArg List.length (reads_results reads)
  rw [List.length_map, List.length_map, List.length_take] at counts readCount
  apply stopsAtError_of_ends _ drained fds
  intro call member
  rcases Nat.lt_or_ge n data.length with few | many
  · rw [show n - data.length = 0 by omega] at member
    cases member
  · have behind : ended = read.drop given.length ++ charCalls (n - data.length) t := by
      have dropped := congrArg (List.drop given.length) calls
      rw [List.drop_left, List.drop_append_of_le_length (by omega)] at dropped
      exact dropped.symm
    exact (final call (behind ▸ List.mem_append_right _ member)).2

/-- The data read and the end found behind it are what a sticky end asks for. -/
theorem sticky_of_split {ends : CharCall → Prop} {given ended : List CharCall}
    (calls : endingCalls d ending n = given ++ ended)
    (reads : List.Forall₂ CharCall.Reads (data.take n) given) (silent : ∀ call ∈ given, ¬ ends call)
    (many : ended ≠ [] → data.length ≤ n) (final : ∀ call ∈ ended, ends call ∧ call.Ends) :
    Sticky ends data (endingCalls d ending n) := by
  have results := reads_results reads
  have counts := congrArg List.length results
  rw [List.length_map, List.length_map, List.length_take] at counts
  refine ⟨?_, given, ended, calls, silent, ?_, ?_, final⟩
  · intro call member
    rw [calls] at member
    rcases List.mem_append.mp member with inside | behind
    · obtain ⟨c, -, read⟩ := reads_all reads call inside
      exact Or.inl read.2.1
    · exact Or.inr (final call behind).1
  · rw [results, counts]
    congr 1
    rw [List.take_eq_take_iff]
    omega
  · intro some
    have := many some
    omega

/-- With the value -1 for the end, no data byte is that value. -/
theorem Sticky.clean (sticky : Sticky CharCall.Reports data (endingCalls d ending n)) :
    endChar ∉ data.take n := by
  obtain ⟨-, given, ended, calls, silent, results, whole, -⟩ := sticky
  intro reported
  have early : endChar ∈ data.take given.length := by
    by_cases none : ended = []
    · have count := congrArg List.length calls
      rw [none, List.append_nil, endingCalls, charCalls_length] at count
      rwa [← count]
    · rw [whole none, List.take_length]
      exact List.mem_of_mem_take reported
  have result : Except.ok endChar ∈ given.map CharCall.result := by
    rw [results]
    exact List.mem_map_of_mem early
  obtain ⟨call, member, reports⟩ := List.mem_map.mp result
  exact silent call member reports

/-- `get_char` keeps to the end of its input exactly if no call follows one whose `read`
returned -1; where its value -1 is all a caller sees of the end, exactly if moreover the data
read has no byte of that value. -/
theorem getChar_sticky_iff {data : Bytes} (d : Delivery data) (ending : List EndRead) (n : Nat) :
    (Sticky CharCall.Ends data (endingCalls d ending n) ↔
      StopsAtError ending (n - data.length)) ∧
    (Sticky CharCall.Reports data (endingCalls d ending n) ↔
      StopsAtError ending (n - data.length) ∧ endChar ∉ data.take n) := by
  obtain ⟨given, t, reads, drained, fds, split⟩ := endingCalls_split d ending n
  have many : charCalls (n - data.length) t ≠ [] → data.length ≤ n := by
    intro some
    rcases Nat.lt_or_ge n data.length with few | enough
    · rw [show n - data.length = 0 by omega] at some
      exact absurd rfl some
    · exact enough
  constructor
  · constructor
    · intro sticky
      exact sticky.stops
    · intro stops
      apply sticky_of_split d ending n split reads ?_ many
      · intro call member
        have ends := charCalls_end _ drained fds stops call member
        exact ⟨ends.1, ends.1⟩
      · intro call member
        obtain ⟨c, -, read⟩ := reads_all reads call member
        exact read.not_ends
  · constructor
    · intro sticky
      exact ⟨sticky.stops, sticky.clean⟩
    · intro ⟨stops, clean⟩
      apply sticky_of_split d ending n split reads ?_ many
      · intro call member
        have ends := charCalls_end _ drained fds stops call member
        exact ⟨ends.2, ends.1⟩
      · intro call member reports
        obtain ⟨c, inside, read⟩ := reads_all reads call member
        obtain rfl : c = endChar := Except.ok.inj (read.1.symm.trans reports)
        exact clean inside

/-- One byte, then a `read` that returns -1: the third call returns the byte once more. -/
theorem getChar_rereads :
    ∃ d : Delivery (ascii "a"),
      ((endingCalls d [.error] 3).map CharCall.result = [.ok 97, .ok endChar, .ok 97]) ∧
      ¬ Sticky CharCall.Ends (ascii "a") (endingCalls d [.error] 3) ∧
        ¬ Sticky CharCall.Reports (ascii "a") (endingCalls d [.error] 3) := by
  refine ⟨.single (ascii "a") (by decide) (by decide), rfl, ?_, ?_⟩
  · intro sticky
    have := sticky.stops _ [.error] 3 0 rfl
    revert this
    decide
  · intro sticky
    have := sticky.stops _ [.error] 3 0 rfl
    revert this
    decide

end Calls

end Ttac
