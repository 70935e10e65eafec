import Egrpc.CallStateHeads

/-!
# The memory a response can take

A call buffers response bytes in its scanner and keeps the first message.  The
server decides what arrives, so both must be bounded whatever it sends.  An
announced length is checked before its payload is buffered, which bounds the
bytes that are not consumed yet, and `Next` clears or compacts the buffer, which
bounds the consumed ones.

The bounds hold between two events, and with the size of one chunk added at
every moment inside `OnData`.  Sizes are those of a 64-bit `size_t`.
-/

namespace Egrpc

/-! ## Accepted bytes -/

theorem incompleteFrame_length_le {maxMessageSize : Nat} {bytes : Bytes}
    (clean : firstBadPrefix maxMessageSize bytes = none) :
    (incompleteFrame bytes).length ≤ maxMessageSize + 4 := by
  have stuck : Frame.read (incompleteFrame bytes) = none :=
    frameReader.read_unread bytes
  cases prefixEq : FramePrefix.read (incompleteFrame bytes) with
  | none =>
      have := FramePrefix.read_eq_none.mp prefixEq
      omega
  | some pre =>
      have acceptable := List.find?_eq_none.mp clean pre
        (List.mem_append_right _ (by simp [prefixEq]))
      have fits : pre.length ≤ maxMessageSize := by
        rw [decide_eq_true_eq, FramePrefix.Bad, not_or, not_lt] at acceptable
        exact acceptable.2
      have short : (incompleteFrame bytes).length < 5 + pre.length := by
        by_contra enough
        simp [Frame.read, prefixEq, enough] at stuck
      omega

theorem payload_length_le {maxMessageSize : Nat} {bytes : Bytes}
    (clean : firstBadPrefix maxMessageSize bytes = none) {frame : Frame}
    (member : frame ∈ parseFrames bytes) :
    frame.payload.length ≤ maxMessageSize := by
  have acceptable := good_of_firstBadPrefix_eq_none clean frame member
  simp only [FramePrefix.Bad, not_or, not_lt] at acceptable
  exact acceptable.2

/-! ## The scanner's buffer -/

namespace GrpcMessageScanner

/-- What the buffer of a healthy scanner can hold between two chunks. -/
def bufferBound (maxMessageSize : Nat) : Nat :=
  maxMessageSize + 4 + max 65535 (maxMessageSize + 2)

/-- The consumed part of the buffer is small, or smaller than the rest. -/
def Settled (scanner : GrpcMessageScanner) : Prop :=
  scanner.pos ≤ 65535 ∨ scanner.pos + 2 ≤ scanner.buf.length - scanner.pos

/-- No complete message is buffered, and the consumed part is bounded. -/
structure Drained (scanner : GrpcMessageScanner) : Prop where
  unconsumed_le : scanner.buf.length - scanner.pos ≤ scanner.maxMessageSize + 4
  pos_le_max : scanner.pos ≤ max 65535 (scanner.maxMessageSize + 2)

theorem Drained.buf_le {scanner : GrpcMessageScanner} (drained : scanner.Drained) :
    scanner.buf.length ≤ bufferBound scanner.maxMessageSize := by
  have := drained.unconsumed_le
  have := drained.pos_le_max
  unfold bufferBound
  omega

theorem Settled.drained {scanner : GrpcMessageScanner} (settled : scanner.Settled)
    (unconsumed_le :
      scanner.buf.length - scanner.pos ≤ scanner.maxMessageSize + 4) :
    scanner.Drained where
  unconsumed_le := unconsumed_le
  pos_le_max := by
    rcases settled with small | smaller
    · exact le_max_of_le_left small
    · exact le_max_of_le_right (by omega)

theorem advance_settled (scanner : GrpcMessageScanner) (msgLen : Nat)
    (within : scanner.pos + (5 + msgLen) ≤ scanner.buf.length) :
    (scanner.advance msgLen within).Settled ∧
      (scanner.advance msgLen within).buf.length ≤ scanner.buf.length := by
  unfold advance Settled
  simp only
  split_ifs with atEnd compact
  · simp
  · simp
  · -- Not compacted: the position is below 65536 or below half of the buffer.
    simp only [not_and_or, not_le] at compact
    refine ⟨?_, le_rfl⟩
    simp only
    omega

theorem next_settled {scanner rest : GrpcMessageScanner} {message : Bytes}
    (taken : scanner.next = some (message, rest)) :
    rest.Settled ∧ rest.buf.length ≤ scanner.buf.length := by
  unfold next at taken
  simp only at taken
  split_ifs at taken
  cases taken
  exact scanner.advance_settled _ _

/-- Taking messages never grows the buffer, and settles it unless there was no
message to take. -/
theorem takeUpTo_settled (rounds : Nat) (scanner : GrpcMessageScanner) :
    ((takeUpTo rounds scanner).2 = scanner ∨
        (takeUpTo rounds scanner).2.Settled) ∧
      (takeUpTo rounds scanner).2.buf.length ≤ scanner.buf.length := by
  induction rounds generalizing scanner with
  | zero => exact ⟨.inl rfl, le_rfl⟩
  | succ rounds ih =>
      unfold takeUpTo
      cases taken : scanner.next with
      | none => exact ⟨.inl rfl, le_rfl⟩
      | some pair =>
          obtain ⟨message, rest⟩ := pair
          obtain ⟨settled, shrunk⟩ := next_settled taken
          obtain ⟨later, shrunkAgain⟩ := ih rest
          refine ⟨.inr ?_, shrunkAgain.trans shrunk⟩
          rcases later with same | settledAgain
          · simpa only [same] using settled
          · exact settledAgain

theorem mem_takeUpTo {rounds : Nat} {scanner : GrpcMessageScanner}
    (healthy : scanner.failed = false) {message : Bytes}
    (member : message ∈ (takeUpTo rounds scanner).1) :
    ∃ frame ∈ parseFrames scanner.unconsumed, frame.payload = message := by
  induction rounds generalizing scanner with
  | zero => cases member
  | succ rounds ih =>
      unfold takeUpTo at member
      rcases next_cases healthy with
        ⟨nothing, _⟩ | ⟨frame, rest, taken, readEq, restHealthy, _⟩
      · simp only [nothing] at member
        cases member
      · rw [parseFrames_of_read readEq]
        simp only [taken, List.mem_cons] at member
        rcases member with rfl | later
        · exact ⟨frame, List.mem_cons_self, rfl⟩
        · obtain ⟨other, otherMember, payloadEq⟩ := ih restHealthy later
          exact ⟨other, List.mem_cons_of_mem _ otherMember, payloadEq⟩

theorem feed_buf {scanner : GrpcMessageScanner}
    (healthy : scanner.failed = false) (data : Bytes) :
    (scanner.feed data).2.buf = scanner.buf ++ data ∧
      (scanner.feed data).2.pos = scanner.pos := by
  unfold feed
  simp only [healthy, Bool.false_eq_true, if_false]
  split <;> exact ⟨rfl, rfl⟩

/-- Feeding a chunk and taking every complete message leaves the scanner
drained. -/
theorem Drained.feed_takeAll {scanner : GrpcMessageScanner}
    (drained : scanner.Drained) (healthy : scanner.failed = false)
    {data : Bytes} (accepted : (scanner.feed data).1 = true) :
    (scanner.feed data).2.takeAll.2.Drained := by
  rcases feed_cases healthy data with
    ⟨clean, _, stillHealthy, unconsumedEq, sizeEq⟩ | ⟨_, _, refused, _⟩
  · obtain ⟨_, leftEq, _, drainedSize⟩ := takeAll_spec stillHealthy
    have short := incompleteFrame_length_le clean
    rw [← unconsumedEq, ← leftEq, unconsumed_length, ← sizeEq,
      ← drainedSize] at short
    rcases (takeUpTo_settled _ (scanner.feed data).2).1 with same | settled
    · -- Nothing was taken, so the position is the one before the chunk.
      refine ⟨short, ?_⟩
      have posEq : (scanner.feed data).2.takeAll.2.pos = scanner.pos :=
        (congrArg pos same).trans (feed_buf healthy data).2
      rw [posEq, drainedSize, sizeEq]
      exact drained.pos_le_max
    · exact Settled.drained settled short
  · rw [refused] at accepted
    cases accepted

end GrpcMessageScanner

/-! ## The moments of a call -/

namespace CallState

open GrpcMessageScanner (bufferBound)

/-- The call after some rounds of the loop in `OnData` that takes messages. -/
def takeRounds (call : CallState) (rounds : Nat) : CallState :=
  (call.scanner.takeUpTo rounds).1.foldl takeMessage
    { call with scanner := (call.scanner.takeUpTo rounds).2 }

/-- The states a call passes through in `OnData`: on entry, with the chunk
appended, with the prefixes validated, and after each round of the loop. -/
def onDataMoments (call : CallState) (data : Bytes) : List CallState :=
  if call.state = .closed ∨ call.scanner.failed = true then [call]
  else
    let fed := call.scanner.feed data
    let validated := { call with scanner := fed.2 }
    [call, { call with scanner := call.scanner.append data }, validated] ++
      if fed.1 = false then []
      else (List.range (fed.2.buf.length + 1)).map validated.takeRounds

/-- The states a call passes through while it handles an event. -/
def handleMoments (call : CallState) : CallEvent → List CallState
  | .stream (.data bytes) => call.onDataMoments bytes
  | event => [call, call.handle event]

/-- The states a call passes through while it handles events in order. -/
def handleAllMoments (call : CallState) : List CallEvent → List CallState
  | [] => [call]
  | event :: events =>
      call.handleMoments event ++ (call.handle event).handleAllMoments events

theorem handleMoments_of_not_data {event : CallEvent} (call : CallState)
    (noData : ∀ bytes, event ≠ .stream (.data bytes)) :
    call.handleMoments event = [call, call.handle event] := by
  unfold handleMoments
  split
  · exact (noData _ rfl).elim
  · rfl

theorem getLast?_onDataMoments (call : CallState) (data : Bytes) :
    (call.onDataMoments data).getLast? = some (call.onData data) := by
  unfold onDataMoments onData
  simp only
  split_ifs with ignored refused
  · rfl
  · rfl
  · rw [List.range_succ, List.map_append, ← List.append_assoc, List.map_singleton,
      List.getLast?_concat]
    rfl

theorem onData_mem_moments (call : CallState) (data : Bytes) :
    call.onData data ∈ call.onDataMoments data :=
  List.mem_of_getLast? (call.getLast?_onDataMoments data)

/-- A chunk is ignored, or fails the scanner, or is accepted, and then every
complete message is taken. -/
theorem onData_cases (call : CallState) (data : Bytes) :
    call.onData data = call ∨
    (call.onData data).scanner.maxMessageSize = call.scanner.maxMessageSize ∧
      ((call.onData data).scanner.failed = true ∨
        call.scanner.failed = false ∧ (call.scanner.feed data).1 = true ∧
          (call.onData data).scanner = (call.scanner.feed data).2.takeAll.2) := by
  unfold onData
  split_ifs with ignored
  · exact .inl rfl
  · right
    have healthy : call.scanner.failed = false := by
      simpa using (not_or.mp ignored).2
    rcases GrpcMessageScanner.feed_cases healthy data with
      ⟨_, accepted, stillHealthy, _, sizeEq⟩ | ⟨_, _, refused, failed, _, _, sizeEq⟩
    · simp only [accepted, Bool.true_eq_false, if_false, foldl_takeMessage]
      obtain ⟨_, _, _, takenSize⟩ := GrpcMessageScanner.takeAll_spec stillHealthy
      exact ⟨takenSize.trans sizeEq, .inr ⟨healthy, trivial, trivial⟩⟩
    · simp only [refused, if_true]
      exact ⟨sizeEq, .inl failed⟩

/-! ## Events without DATA -/

/-- The scanner is untouched, and the kept message is too or is handed over. -/
def KeepsMessages (call after : CallState) : Prop :=
  after.scanner = call.scanner ∧
    (after.firstResponse = call.firstResponse ∨ after.firstResponse = [])

theorem setStatus_keepsMessages (call : CallState) (code : StatusCode)
    (message : Bytes) : call.KeepsMessages (call.setStatus code message) :=
  ⟨rfl, .inl rfl⟩

theorem finalizeOk_keepsMessages (call : CallState) :
    call.KeepsMessages call.finalizeOk := by
  unfold finalizeOk
  split_ifs
  · exact call.setStatus_keepsMessages _ _
  · exact call.setStatus_keepsMessages _ _
  · exact call.setStatus_keepsMessages _ _
  · exact ⟨rfl, .inr rfl⟩

theorem finalizeLocked_keepsMessages (call : CallState) (http2ErrorCode : Nat) :
    call.KeepsMessages (call.finalizeLocked http2ErrorCode) := by
  unfold finalizeLocked
  split
  · exact call.setStatus_keepsMessages _ _
  · split
    · unfold finalizeGrpcStatus
      split
      · exact call.setStatus_keepsMessages _ _
      · simp only
        split_ifs
        · exact call.setStatus_keepsMessages _ _
        · exact (call.setStatus _ _).finalizeOk_keepsMessages
    · unfold finalizeWithoutStatus
      split_ifs <;> exact call.setStatus_keepsMessages _ _

/-- Only DATA fills the scanner or brings a message. -/
theorem handle_keepsMessages (call : CallState) {event : CallEvent}
    (noData : ∀ bytes, event ≠ .stream (.data bytes)) :
    call.KeepsMessages (call.handle event) := by
  have same : call.KeepsMessages call := ⟨rfl, .inl rfl⟩
  cases event with
  | stream event =>
      have isOther : event.isData = false := by
        cases event with
        | data bytes => exact (noData bytes rfl).elim
        | submitted | responseHeaders | trailers => rfl
      have kept := call.receive_sameBody isOther
      exact ⟨kept.scanner, .inl kept.firstResponse⟩
  | close http2ErrorCode =>
      unfold handle onClose
      simp only
      split_ifs
      · exact same
      · exact call.finalizeLocked_keepsMessages http2ErrorCode
  | failLocal code message =>
      unfold handle failLocal
      simp only
      split_ifs
      · exact same
      · exact ⟨rfl, .inl rfl⟩

/-! ## The bounds -/

/-- What a call holds at any moment, when no chunk is longer than
`chunkSize`. -/
structure HoldsAtMost (maxReceiveMessageSize chunkSize : Nat) (call : CallState) :
    Prop where
  firstResponse_le : call.firstResponse.length ≤ maxReceiveMessageSize
  buf_le :
    call.scanner.buf.length ≤ bufferBound maxReceiveMessageSize + chunkSize

/-- What it holds between two events. -/
structure AtRest (maxReceiveMessageSize chunkSize : Nat) (call : CallState) :
    Prop extends HoldsAtMost maxReceiveMessageSize chunkSize call where
  size : call.scanner.maxMessageSize = maxReceiveMessageSize
  drained : call.scanner.failed = false → call.scanner.Drained

variable {maxReceiveMessageSize chunkSize : Nat} {call : CallState}

theorem atRest_new (maxReceiveMessageSize chunkSize : Nat) :
    AtRest maxReceiveMessageSize chunkSize (new maxReceiveMessageSize) where
  firstResponse_le := Nat.zero_le _
  buf_le := Nat.zero_le _
  size := rfl
  drained := fun _ => ⟨Nat.zero_le _, Nat.zero_le _⟩

namespace AtRest

theorem keepsMessages (rest : AtRest maxReceiveMessageSize chunkSize call)
    {after : CallState} (kept : call.KeepsMessages after) :
    AtRest maxReceiveMessageSize chunkSize after where
  firstResponse_le := by
    rcases kept.2 with same | handedOver
    · rw [same]
      exact rest.firstResponse_le
    · rw [handedOver]
      exact Nat.zero_le _
  buf_le := by
    rw [kept.1]
    exact rest.buf_le
  size := by
    rw [kept.1]
    exact rest.size
  drained := by
    rw [kept.1]
    exact rest.drained

/-- A healthy scanner at rest has room for a chunk. -/
theorem append_le (rest : AtRest maxReceiveMessageSize chunkSize call)
    (healthy : call.scanner.failed = false) {data : Bytes}
    (small : data.length ≤ chunkSize) :
    (call.scanner.buf ++ data).length ≤
      bufferBound maxReceiveMessageSize + chunkSize := by
  have held := (rest.drained healthy).buf_le
  rw [rest.size] at held
  rw [List.length_append]
  omega

/-- After each round of the loop the call holds no more than after `Feed`, and
its first message is one that `Feed` accepted. -/
theorem takeRounds (rest : AtRest maxReceiveMessageSize chunkSize call)
    (healthy : call.scanner.failed = false) {data : Bytes}
    (small : data.length ≤ chunkSize)
    (accepted : (call.scanner.feed data).1 = true) (rounds : Nat) :
    HoldsAtMost maxReceiveMessageSize chunkSize
      ({ call with scanner := (call.scanner.feed data).2 }.takeRounds rounds) := by
  rcases GrpcMessageScanner.feed_cases healthy data with
    ⟨clean, _, stillHealthy, unconsumedEq, _⟩ | ⟨_, _, refused, _⟩
  · have fits : ∀ message ∈ (call.scanner.feed data).2.takeUpTo rounds |>.1,
        message.length ≤ maxReceiveMessageSize := by
      intro message member
      obtain ⟨frame, frameMember, rfl⟩ :=
        GrpcMessageScanner.mem_takeUpTo stillHealthy member
      rw [unconsumedEq] at frameMember
      rw [← rest.size]
      exact payload_length_le clean frameMember
    have shrunk :=
      (GrpcMessageScanner.takeUpTo_settled rounds (call.scanner.feed data).2).2
    rw [(GrpcMessageScanner.feed_buf healthy data).1] at shrunk
    unfold CallState.takeRounds
    rw [foldl_takeMessage]
    refine ⟨?_, shrunk.trans (rest.append_le healthy small)⟩
    simp only
    split_ifs
    · cases headEq : ((call.scanner.feed data).2.takeUpTo rounds).1.head? with
      | none => exact rest.firstResponse_le
      | some message => exact fits message (List.mem_of_head? headEq)
    · exact rest.firstResponse_le
  · rw [refused] at accepted
    cases accepted

theorem onDataMoments (rest : AtRest maxReceiveMessageSize chunkSize call)
    {data : Bytes} (small : data.length ≤ chunkSize) :
    ∀ moment ∈ call.onDataMoments data,
      HoldsAtMost maxReceiveMessageSize chunkSize moment := by
  unfold CallState.onDataMoments
  split_ifs with ignored
  · rintro moment member
    rw [List.mem_singleton.mp member]
    exact rest.toHoldsAtMost
  · have healthy : call.scanner.failed = false := by
      simpa using (not_or.mp ignored).2
    have room := rest.append_le healthy small
    have validatedRoom : (call.scanner.feed data).2.buf.length ≤
        bufferBound maxReceiveMessageSize + chunkSize := by
      rw [(GrpcMessageScanner.feed_buf healthy data).1]
      exact room
    intro moment member
    rcases List.mem_append.mp member with early | looping
    · simp only [List.mem_cons, List.not_mem_nil, or_false] at early
      rcases early with rfl | rfl | rfl
      · exact rest.toHoldsAtMost
      · exact ⟨rest.firstResponse_le, room⟩
      · exact ⟨rest.firstResponse_le, validatedRoom⟩
    · split_ifs at looping with refused
      · cases looping
      · obtain ⟨rounds, _, rfl⟩ := List.mem_map.mp looping
        exact rest.takeRounds healthy small (by simpa using refused) rounds

theorem onData (rest : AtRest maxReceiveMessageSize chunkSize call)
    {data : Bytes} (small : data.length ≤ chunkSize) :
    AtRest maxReceiveMessageSize chunkSize (call.onData data) := by
  rcases call.onData_cases data with same | ⟨sizeEq, scanner⟩
  · rw [same]
    exact rest
  · have held := rest.onDataMoments small _ (call.onData_mem_moments data)
    refine { held with size := sizeEq.trans rest.size, drained := ?_ }
    intro stillHealthy
    rcases scanner with failed | ⟨healthy, accepted, scannerEq⟩
    · rw [failed] at stillHealthy
      cases stillHealthy
    · rw [scannerEq]
      exact (rest.drained healthy).feed_takeAll healthy accepted

/-- Whatever a call at rest handles, it stays within the bounds and comes to
rest. -/
theorem handle (rest : AtRest maxReceiveMessageSize chunkSize call)
    (event : CallEvent)
    (small : ∀ bytes, event = .stream (.data bytes) → bytes.length ≤ chunkSize) :
    AtRest maxReceiveMessageSize chunkSize (call.handle event) ∧
      ∀ moment ∈ call.handleMoments event,
        HoldsAtMost maxReceiveMessageSize chunkSize moment := by
  by_cases isData : ∃ bytes, event = .stream (.data bytes)
  · obtain ⟨bytes, rfl⟩ := isData
    exact ⟨rest.onData (small bytes rfl), rest.onDataMoments (small bytes rfl)⟩
  · have noData := not_exists.mp isData
    have after := rest.keepsMessages (call.handle_keepsMessages noData)
    refine ⟨after, ?_⟩
    rw [call.handleMoments_of_not_data noData]
    intro moment member
    rcases List.mem_pair.mp member with rfl | rfl
    · exact rest.toHoldsAtMost
    · exact after.toHoldsAtMost

theorem handleAll (rest : AtRest maxReceiveMessageSize chunkSize call)
    {events : List CallEvent}
    (small : ∀ bytes, .stream (.data bytes) ∈ events → bytes.length ≤ chunkSize) :
    AtRest maxReceiveMessageSize chunkSize (call.handleAll events) ∧
      ∀ moment ∈ call.handleAllMoments events,
        HoldsAtMost maxReceiveMessageSize chunkSize moment := by
  induction events generalizing call with
  | nil =>
      refine ⟨rest, ?_⟩
      intro moment member
      rw [List.mem_singleton.mp member]
      exact rest.toHoldsAtMost
  | cons event events ih =>
      obtain ⟨next, during⟩ := rest.handle event fun bytes same =>
        small bytes (same ▸ List.mem_cons_self)
      obtain ⟨last, later⟩ := ih next fun bytes member =>
        small bytes (List.mem_cons_of_mem _ member)
      refine ⟨last, ?_⟩
      intro moment member
      rcases List.mem_append.mp member with now | afterwards
      · exact during moment now
      · exact later moment afterwards

end AtRest

/-! ## After a failure -/

theorem handleMoments_of_failed (failed : call.scanner.failed = true)
    (event : CallEvent) :
    (call.handle event).scanner = call.scanner ∧
      ∀ moment ∈ call.handleMoments event, moment.scanner = call.scanner := by
  by_cases isData : ∃ bytes, event = .stream (.data bytes)
  · obtain ⟨bytes, rfl⟩ := isData
    simp [handle, receive, onData, handleMoments, onDataMoments, failed]
  · have noData := not_exists.mp isData
    obtain ⟨same, _⟩ := call.handle_keepsMessages noData
    rw [call.handleMoments_of_not_data noData]
    simp [same]

/-- A failed scanner is never touched again. -/
theorem handleAllMoments_of_failed (failed : call.scanner.failed = true)
    (events : List CallEvent) :
    ∀ moment ∈ call.handleAllMoments events, moment.scanner = call.scanner := by
  induction events generalizing call with
  | nil =>
      intro moment member
      rw [List.mem_singleton.mp member]
  | cons event events ih =>
      obtain ⟨same, during⟩ := handleMoments_of_failed failed event
      intro moment member
      rcases List.mem_append.mp member with now | afterwards
      · exact during moment now
      · rw [← same] at failed ⊢
        exact ih failed moment afterwards

end CallState

/-- For every message limit and every sequence of events on a fresh call with chunks of
at most `chunkSize` bytes: the message kept never exceeds the limit; between two events a
healthy scanner holds at most one incomplete frame and a bounded consumed part; at every
moment, also inside `Feed` and after a failure, the buffer exceeds that bound by at most
one chunk; and once the scanner has failed, the buffer does not change, however long the
chunks are that still arrive. -/
theorem receive_memory_bounded (maxReceiveMessageSize chunkSize : Nat)
    (events : List CallEvent)
    (small : ∀ bytes, .stream (.data bytes) ∈ events → bytes.length ≤ chunkSize) :
    let call := (CallState.new maxReceiveMessageSize).handleAll events
    let moments := (CallState.new maxReceiveMessageSize).handleAllMoments events
    let bound := maxReceiveMessageSize + 4 + max 65535 (maxReceiveMessageSize + 2)
    call.firstResponse.length ≤ maxReceiveMessageSize ∧
    (call.scanner.failed = false →
      call.scanner.buf.length - call.scanner.pos ≤ maxReceiveMessageSize + 4 ∧
      call.scanner.pos ≤ max 65535 (maxReceiveMessageSize + 2) ∧
      call.scanner.buf.length ≤ bound) ∧
    (∀ moment ∈ moments,
      moment.firstResponse.length ≤ maxReceiveMessageSize ∧
      moment.scanner.buf.length ≤ bound + chunkSize) ∧
    (call.scanner.failed = true → ∀ later,
      ∀ moment ∈ call.handleAllMoments later,
        moment.scanner.buf = call.scanner.buf) := by
  intro call moments bound
  obtain ⟨rest, during⟩ :=
    (CallState.atRest_new maxReceiveMessageSize chunkSize).handleAll small
  refine ⟨rest.firstResponse_le, ?_, ?_, ?_⟩
  · intro healthy
    have drained := rest.drained healthy
    have sizeEq : call.scanner.maxMessageSize = maxReceiveMessageSize := rest.size
    rw [← sizeEq]
    refine ⟨drained.unconsumed_le, drained.pos_le_max, ?_⟩
    have held := drained.buf_le
    rwa [rest.size] at held
  · intro moment member
    exact ⟨(during moment member).firstResponse_le, (during moment member).buf_le⟩
  · intro failed later moment member
    rw [CallState.handleAllMoments_of_failed failed later moment member]

/-- A message of one byte, then a prefix that announces two: with a limit of one
byte the call keeps the message and fails on the prefix. -/
theorem receive_memory_of_oversize_message :
    let events : List CallEvent := [.stream (.submitted 1),
      .stream (.data [0, 0, 0, 0, 1, 7]), .stream (.data [0, 0, 0, 0, 2])]
    let call := (CallState.new 1).handleAll events
    call.firstResponse = [7] ∧ call.scanner.failed = true ∧
      call.scanner.buf.length = 5 ∧
      ∀ moment ∈ (CallState.new 1).handleAllMoments events,
        moment.scanner.buf.length ≤ 65540 + 6 := by
  intro events call
  have bounded := receive_memory_bounded 1 6 events (by
    intro bytes member
    simp only [events, List.mem_cons, CallEvent.stream.injEq, StreamEvent.data.injEq,
      reduceCtorEq, List.not_mem_nil, or_false, false_or] at member
    rcases member with rfl | rfl <;> decide)
  exact ⟨rfl, rfl, rfl, fun moment member => (bounded.2.2.1 moment member).2⟩

end Egrpc
