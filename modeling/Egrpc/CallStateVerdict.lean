import Egrpc.CallStateLifecycle
import Egrpc.MessageScannerParse

/-!
# The verdict of a unary call

A unary call ends with OK only when the DATA bytes are exactly one intact
message and the last `grpc-status` denotes zero.  The verdict is read off state
accumulated over arbitrarily many events; `Received` says what that state is in
terms of the events alone, so it does not depend on how the DATA was cut.
-/

namespace Egrpc

/-! ## What the events amount to -/

def dataBytes (events : List StreamEvent) : Bytes :=
  events.flatMap fun event =>
    match event with
    | .data bytes => bytes
    | _ => []

def statusValues (headers : HeaderList) : List Bytes :=
  (headers.filter fun header =>
    decide (header.1 = Bytes.ofString "grpc-status")).map Prod.snd

/-- The `grpc-status` values an event is searched for: those of trailers, and
those of response headers that end the stream. -/
def capturedStatuses : StreamEvent → List Bytes
  | .trailers headers => statusValues headers
  | .responseHeaders headers true => statusValues headers
  | _ => []

/-- The last `grpc-status` value captured. -/
def lastStatus (events : List StreamEvent) : Option Bytes :=
  (events.flatMap capturedStatuses).getLast?

/-- The bytes are exactly one acceptable message. -/
def IntactMessage (maxMessageSize : Nat) (bytes payload : Bytes) : Prop :=
  bytes = Frame.encode payload ∧ payload.length < 2 ^ 32 ∧
    payload.length ≤ maxMessageSize

/-- The value is one to ten decimal digits denoting zero. -/
def DenotesOk (status : Bytes) : Prop :=
  1 ≤ status.length ∧ status.length ≤ 10 ∧ status.all Bytes.isDigit ∧
    Bytes.digitsValue status = 0

theorem dataBytes_concat (events : List StreamEvent) (event : StreamEvent) :
    dataBytes (events ++ [event]) = dataBytes events ++ dataBytes [event] := by
  simp [dataBytes]

theorem lastStatus_concat (events : List StreamEvent) (event : StreamEvent) :
    lastStatus (events ++ [event]) =
      (capturedStatuses event).getLast?.or (lastStatus events) := by
  simp [lastStatus, List.getLast?_append]

/-! ## One message, exactly -/

theorem Frame.read_encode {payload : Bytes} (bounded : payload.length < 2 ^ 32) :
    Frame.read (Frame.encode payload) = some (⟨0, payload⟩, []) := by
  have length : (Frame.encode payload).length = 5 + payload.length := by
    simp [Frame.encode]
    omega
  refine Frame.read_eq_some.mpr ⟨?_, Nat.le_of_eq length.symm, ?_, ?_⟩
  · simp only [Frame.encode, Bytes.bigEndian32, List.cons_append,
      List.nil_append, FramePrefix.read, Frame.framePrefix,
      Bytes.bigEndian32_digits bounded]
  · simp [Frame.encode, Bytes.bigEndian32]
  · exact (List.drop_of_length_le (Nat.le_of_eq length)).symm

/-- A byte string that is one frame with flag zero is that frame's encoding. -/
theorem Frame.encode_of_read {bytes payload : Bytes}
    (complete : Frame.read bytes = some (⟨0, payload⟩, [])) :
    bytes = Frame.encode payload ∧ payload.length < 2 ^ 32 := by
  obtain ⟨prefixEq, enough, payloadEq, restEq⟩ := Frame.read_eq_some.mp complete
  have bounded := FramePrefix.length_lt prefixEq
  refine ⟨?_, bounded⟩
  unfold FramePrefix.read at prefixEq
  split at prefixEq
  · rename_i flag first second third fourth rest
    simp only [Option.some.injEq, Frame.framePrefix, FramePrefix.mk.injEq]
      at prefixEq
    obtain ⟨rfl, lengthEq⟩ := prefixEq
    have restLength : rest.length ≤ payload.length := by
      have := congrArg List.length restEq
      simp at this
      omega
    have payloadIsRest : payload = rest := by
      simpa [List.take_of_length_le restLength] using payloadEq
    rw [Frame.encode, ← lengthEq, Bytes.bigEndian32_of_digits, payloadIsRest]
    rfl
  · cases prefixEq

/-- The reference parse of an intact message, and conversely. -/
theorem exists_intactMessage_iff {maxMessageSize : Nat} {bytes : Bytes} :
    (∃ payload, IntactMessage maxMessageSize bytes payload) ↔
      firstBadPrefix maxMessageSize bytes = none ∧
        (parseFrames bytes).length = 1 ∧ incompleteFrame bytes = [] := by
  constructor
  · rintro ⟨payload, rfl, bounded, fits⟩
    have readEq := Frame.read_encode bounded
    refine ⟨?_, ?_, ?_⟩
    · rw [firstBadPrefix, completePrefixes_of_read readEq]
      simp [completePrefixes, FramePrefix.read, Frame.framePrefix,
        FramePrefix.Bad, fits]
    · simp [parseFrames_of_read readEq]
    · simp [incompleteFrame_of_read readEq]
  · rintro ⟨clean, single, complete⟩
    cases readEq : Frame.read bytes with
    | none => simp [parseFrames_of_incomplete readEq] at single
    | some pair =>
        obtain ⟨frame, rest⟩ := pair
        rw [parseFrames_of_read readEq, List.length_cons] at single
        rw [incompleteFrame_of_read readEq] at complete
        have restNil : rest = [] := by
          cases restEq : Frame.read rest with
          | none => rwa [incompleteFrame_of_incomplete restEq] at complete
          | some pair => simp [parseFrames_of_read restEq] at single
        have acceptable := good_of_firstBadPrefix_eq_none clean frame
          (by simp [parseFrames_of_read readEq])
        simp only [FramePrefix.Bad, Frame.framePrefix, ne_eq, not_or,
          Decidable.not_not, not_lt] at acceptable
        obtain ⟨flagEq, fits⟩ := acceptable
        subst restNil
        obtain ⟨flag, payload⟩ := frame
        simp only at flagEq fits
        subst flagEq
        obtain ⟨bytesEq, bounded⟩ := Frame.encode_of_read readEq
        exact ⟨payload, bytesEq, bounded, fits⟩

theorem IntactMessage.parseFrames_eq {maxMessageSize : Nat}
    {bytes payload : Bytes}
    (intact : IntactMessage maxMessageSize bytes payload) :
    parseFrames bytes = [⟨0, payload⟩] := by
  obtain ⟨rfl, bounded, -⟩ := intact
  simp [parseFrames_of_read (Frame.read_encode bounded)]

namespace CallState

/-! ## What each loop does -/

theorem foldl_takeMessage (messages : List Bytes) (call : CallState) :
    messages.foldl takeMessage call =
      { call with
        responseCount := call.responseCount + messages.length
        firstResponse :=
          if call.responseCount = 0 then messages.head?.getD call.firstResponse
          else call.firstResponse } := by
  induction messages generalizing call with
  | nil => simp
  | cons message messages ih =>
      rw [List.foldl_cons, ih]
      by_cases none_before : call.responseCount = 0
      · simp [takeMessage, none_before, Nat.add_comm]
      · simp [takeMessage, none_before]
        omega

/-- What the verdict reads, apart from the status value. -/
structure SameBody (call other : CallState) : Prop where
  scanner : call.scanner = other.scanner
  firstResponse : call.firstResponse = other.firstResponse
  responseCount : call.responseCount = other.responseCount
  response : call.result.response = other.result.response

theorem SameBody.rfl {call : CallState} : SameBody call call := by
  constructor <;> trivial

theorem SameBody.trans {first second third : CallState}
    (one : SameBody first second) (two : SameBody second third) :
    SameBody first third where
  scanner := one.scanner.trans two.scanner
  firstResponse := one.firstResponse.trans two.firstResponse
  responseCount := one.responseCount.trans two.responseCount
  response := one.response.trans two.response

theorem statusValues_cons (header : Header) (headers : HeaderList) :
    (statusValues (header :: headers)).getLast? =
      (statusValues headers).getLast?.or
        (if header.1 = Bytes.ofString "grpc-status" then some header.2
          else none) := by
  by_cases isStatus : header.1 = Bytes.ofString "grpc-status"
  · simp only [statusValues, isStatus, decide_true, List.filter_cons_of_pos,
      List.map_cons, List.getLast?_cons, if_true]
    cases (List.map Prod.snd (headers.filter fun header =>
      decide (header.1 = Bytes.ofString "grpc-status"))).getLast? <;> rfl
  · simp [statusValues, isStatus]

/-- A header block captures its last status value, and leaves the message side
alone, when each header does so by itself. -/
theorem foldl_header {body : CallState → Header → CallState}
    (captures : ∀ call header, SameBody (body call header) call ∧
      (body call header).grpcStatusRaw =
        if header.1 = Bytes.ofString "grpc-status" then some header.2
        else call.grpcStatusRaw)
    (headers : HeaderList) (call : CallState) :
    SameBody (headers.foldl body call) call ∧
      (headers.foldl body call).grpcStatusRaw =
        (statusValues headers).getLast?.or call.grpcStatusRaw := by
  induction headers generalizing call with
  | nil => exact ⟨SameBody.rfl, Eq.refl _⟩
  | cons header headers ih =>
      obtain ⟨sameStep, statusStep⟩ := captures call header
      obtain ⟨sameRest, statusRest⟩ := ih (body call header)
      refine ⟨sameRest.trans sameStep, ?_⟩
      rw [List.foldl_cons, statusRest, statusStep, statusValues_cons]
      by_cases isStatus : header.1 = Bytes.ofString "grpc-status"
      · simp [isStatus]
      · simp [isStatus]

theorem onTrailer_captures (call : CallState) (header : Header) :
    SameBody (onTrailer call header) call ∧
      (onTrailer call header).grpcStatusRaw =
        if header.1 = Bytes.ofString "grpc-status" then some header.2
        else call.grpcStatusRaw := by
  unfold onTrailer
  by_cases isStatus : header.1 = Bytes.ofString "grpc-status"
  · have regular : ¬ header.1.head? = some ':'.toUInt8 := by
      rw [isStatus]
      decide
    rw [if_neg regular, if_pos isStatus, if_pos isStatus]
    exact ⟨⟨rfl, rfl, rfl, rfl⟩, rfl⟩
  · rw [if_neg isStatus, if_neg isStatus]
    unfold addMetadata
    split_ifs <;> exact ⟨⟨rfl, rfl, rfl, rfl⟩, rfl⟩

/-- With END_STREAM the response headers capture statuses as trailers do;
without it they capture none. -/
theorem onResponseHeader_captures (call : CallState) (header : Header) :
    SameBody (onResponseHeader true call header) call ∧
      (onResponseHeader true call header).grpcStatusRaw =
        if header.1 = Bytes.ofString "grpc-status" then some header.2
        else call.grpcStatusRaw := by
  unfold onResponseHeader
  by_cases isStatus : header.1 = Bytes.ofString "grpc-status"
  · have regular : ¬ header.1.head? = some ':'.toUInt8 := by
      rw [isStatus]
      decide
    have notContentType : ¬ header.1 = Bytes.ofString "content-type" := by
      rw [isStatus]
      decide
    rw [if_neg regular, if_neg notContentType, if_pos ⟨rfl, isStatus⟩,
      if_pos isStatus]
    exact ⟨⟨rfl, rfl, rfl, rfl⟩, rfl⟩
  · rw [if_neg isStatus]
    unfold addMetadata
    split_ifs <;> first
      | exact ⟨⟨rfl, rfl, rfl, rfl⟩, rfl⟩
      | (rename_i captured; exact (isStatus captured.2).elim)

theorem onResponseHeader_ignores (call : CallState) (header : Header) :
    SameBody (onResponseHeader false call header) call ∧
      (onResponseHeader false call header).grpcStatusRaw =
        call.grpcStatusRaw := by
  unfold onResponseHeader addMetadata
  split_ifs <;> first
    | exact ⟨⟨rfl, rfl, rfl, rfl⟩, rfl⟩
    | (rename_i captured; exact captured.1.elim)

theorem foldl_onResponseHeader_ignores (headers : HeaderList) (call : CallState) :
    SameBody (headers.foldl (onResponseHeader false) call) call ∧
      (headers.foldl (onResponseHeader false) call).grpcStatusRaw =
        call.grpcStatusRaw := by
  induction headers generalizing call with
  | nil => exact ⟨SameBody.rfl, Eq.refl _⟩
  | cons header headers ih =>
      obtain ⟨sameStep, statusStep⟩ := onResponseHeader_ignores call header
      obtain ⟨sameRest, statusRest⟩ := ih (onResponseHeader false call header)
      exact ⟨sameRest.trans sameStep, statusRest.trans statusStep⟩

theorem foldl_onResponseHeader_sameBody (endStream : Bool) (headers : HeaderList)
    (call : CallState) :
    SameBody (headers.foldl (onResponseHeader endStream) call) call := by
  cases endStream with
  | true => exact (foldl_header onResponseHeader_captures headers call).1
  | false => exact (foldl_onResponseHeader_ignores headers call).1

end CallState

/-! ## The accumulated state -/

/-- What a call that is still open has accumulated from the events so far. -/
structure Received (maxReceiveMessageSize : Nat) (events : List StreamEvent)
    (call : CallState) : Prop where
  notClosed : call.state ≠ .closed
  scanned : ∃ delivered, Scanned maxReceiveMessageSize (dataBytes events)
    delivered call.scanner
  drained : call.scanner.failed = false →
    call.responseCount = (parseFrames (dataBytes events)).length ∧
      call.firstResponse =
        ((parseFrames (dataBytes events)).map Frame.payload).head?.getD [] ∧
      call.scanner.unconsumed = incompleteFrame (dataBytes events)
  status : call.grpcStatusRaw = lastStatus events
  response : call.result.response = []

namespace Received

variable {maxReceiveMessageSize : Nat} {events : List StreamEvent}
  {call : CallState}

theorem new (maxReceiveMessageSize : Nat) :
    Received maxReceiveMessageSize [] (CallState.new maxReceiveMessageSize) where
  notClosed := by simp [CallState.new]
  scanned := ⟨[], Scanned.new maxReceiveMessageSize⟩
  drained := by
    intro _
    exact ⟨rfl, rfl, rfl⟩
  status := rfl
  response := rfl

/-- An event without DATA bytes that leaves the message side alone. -/
theorem of_sameBody (received : Received maxReceiveMessageSize events call)
    {event : StreamEvent} {after : CallState}
    (noData : dataBytes [event] = [])
    (notClosed : after.state ≠ .closed)
    (same : CallState.SameBody after call)
    (status : after.grpcStatusRaw =
      (capturedStatuses event).getLast?.or call.grpcStatusRaw) :
    Received maxReceiveMessageSize (events ++ [event]) after where
  notClosed := notClosed
  scanned := by
    rw [dataBytes_concat, noData, List.append_nil, same.scanner]
    exact received.scanned
  drained := by
    rw [dataBytes_concat, noData, List.append_nil, same.scanner,
      same.responseCount, same.firstResponse]
    exact received.drained
  status := by rw [status, lastStatus_concat, received.status]
  response := same.response.trans received.response

theorem submitted (received : Received maxReceiveMessageSize events call)
    (streamId : Int) :
    Received maxReceiveMessageSize (events ++ [.submitted streamId])
      (call.onSubmitted streamId) := by
  unfold CallState.onSubmitted
  split_ifs with started
  · exact received.of_sameBody rfl received.notClosed CallState.SameBody.rfl rfl
  · exact received.of_sameBody rfl (by simp) ⟨rfl, rfl, rfl, rfl⟩ rfl

theorem responseHeaders (received : Received maxReceiveMessageSize events call)
    (headers : HeaderList) (endStream : Bool) :
    Received maxReceiveMessageSize
      (events ++ [.responseHeaders headers endStream])
      (call.onResponseHeaders headers endStream) := by
  rw [CallState.onResponseHeaders, if_neg received.notClosed]
  have opened : CallState.SameBody
      { call with state := .open, sawInitialHeaders := true } call :=
    ⟨rfl, rfl, rfl, rfl⟩
  have phase := (CallState.foldl_phase
    (CallState.onResponseHeader_phase endStream) headers
    { call with state := .open, sawInitialHeaders := true }).1
  cases endStream with
  | true =>
      obtain ⟨same, status⟩ := CallState.foldl_header
        CallState.onResponseHeader_captures headers
        { call with state := .open, sawInitialHeaders := true }
      exact received.of_sameBody rfl (by simp [phase]) (same.trans opened) status
  | false =>
      obtain ⟨same, status⟩ := CallState.foldl_onResponseHeader_ignores headers
        { call with state := .open, sawInitialHeaders := true }
      exact received.of_sameBody rfl (by simp [phase]) (same.trans opened) status

theorem trailers (received : Received maxReceiveMessageSize events call)
    (headers : HeaderList) :
    Received maxReceiveMessageSize (events ++ [.trailers headers])
      (call.onTrailers headers) := by
  rw [CallState.onTrailers, if_neg received.notClosed]
  obtain ⟨same, status⟩ :=
    CallState.foldl_header CallState.onTrailer_captures headers call
  have phase := (CallState.foldl_phase CallState.onTrailer_phase headers call).1
  exact received.of_sameBody rfl (by rw [phase]; exact received.notClosed)
    same status

theorem data (received : Received maxReceiveMessageSize events call)
    (bytes : Bytes) :
    Received maxReceiveMessageSize (events ++ [.data bytes])
      (call.onData bytes) := by
  have bytesEq : dataBytes (events ++ [.data bytes]) =
      dataBytes events ++ bytes := by
    simp [dataBytes]
  have statusEq : lastStatus (events ++ [.data bytes]) = lastStatus events := by
    rw [lastStatus_concat]
    rfl
  obtain ⟨delivered, scanned⟩ := received.scanned
  have fed := scanned.feed bytes
  rw [← bytesEq] at fed
  cases status : call.scanner.failed with
  | true =>
      rw [CallState.onData, if_pos (Or.inr status)]
      rw [GrpcMessageScanner.feed_of_failed status] at fed
      refine ⟨received.notClosed, ⟨delivered, fed⟩, ?_, ?_, received.response⟩
      · intro healthy
        rw [status] at healthy
        cases healthy
      · rw [statusEq, received.status]
  | false =>
      have guard : ¬ (call.state = .closed ∨ call.scanner.failed = true) := by
        simp [received.notClosed, status]
      rw [CallState.onData, if_neg guard]
      rcases GrpcMessageScanner.feed_cases status bytes with
        ⟨-, accepted, healthy, unconsumedEq, -⟩ | ⟨pre, -, refused, failed, -⟩
      · -- The loop takes every frame that is complete now; those taken before
        -- and those taken here are together the frames of all the DATA.
        obtain ⟨countEq, firstEq, restEq⟩ := received.drained status
        have drained := fed.takeAll healthy
        obtain ⟨messagesEq, leftEq, -, -⟩ :=
          GrpcMessageScanner.takeAll_spec healthy
        rw [unconsumedEq, restEq] at messagesEq leftEq
        have framesEq : parseFrames (dataBytes (events ++ [.data bytes])) =
            parseFrames (dataBytes events) ++
              parseFrames (incompleteFrame (dataBytes events) ++ bytes) := by
          rw [bytesEq, parseFrames_append]
        simp only [accepted, Bool.true_eq_false, if_false,
          CallState.foldl_takeMessage]
        refine ⟨received.notClosed, ⟨_, drained⟩, ?_, ?_, received.response⟩
        · intro _
          refine ⟨?_, ?_, ?_⟩
          · simp only [messagesEq, countEq, framesEq, List.length_map,
              List.length_append]
          · simp only [messagesEq, countEq, firstEq, framesEq]
            cases parseFrames (dataBytes events) <;> simp
          · simp only [leftEq, bytesEq, ← incompleteFrame_append]
        · simp only [statusEq, received.status]
      · simp only [refused, if_true]
        refine ⟨received.notClosed, ⟨delivered, fed⟩, ?_, ?_, received.response⟩
        · intro healthy
          simp only [failed] at healthy
          cases healthy
        · simp only [statusEq, received.status]

theorem receive (received : Received maxReceiveMessageSize events call)
    (event : StreamEvent) :
    Received maxReceiveMessageSize (events ++ [event]) (call.receive event) := by
  cases event with
  | submitted streamId => exact received.submitted streamId
  | responseHeaders headers endStream =>
      exact received.responseHeaders headers endStream
  | data bytes => exact received.data bytes
  | trailers headers => exact received.trailers headers

theorem receiveAll (received : Received maxReceiveMessageSize events call)
    (later : List StreamEvent) :
    Received maxReceiveMessageSize (events ++ later)
      (call.receiveAll later) := by
  induction later generalizing events call with
  | nil => simpa [CallState.receiveAll] using received
  | cons event later ih =>
      simpa [CallState.receiveAll] using ih (received.receive event)

end Received

/-! ## The verdict -/

namespace CallState

theorem finalizeWithoutStatus_ne_ok (call : CallState) (http2ErrorCode : Nat) :
    (call.finalizeWithoutStatus http2ErrorCode).result.code ≠ .ok ∧
      (call.finalizeWithoutStatus http2ErrorCode).result.response =
        call.result.response := by
  unfold finalizeWithoutStatus setStatus
  split_ifs
  · exact ⟨httpStatusToGrpcCode_ne_ok call.httpStatus, rfl⟩
  all_goals exact ⟨by simp, rfl⟩

theorem finalizeOk_ok (call : CallState) (isOk : call.result.code = .ok) :
    (call.finalizeOk.result.code = .ok ↔
      call.scanner.hasPartialMessage = false ∧ call.responseCount = 1) ∧
    (call.finalizeOk.result.code = .ok →
      call.finalizeOk.result.response = call.firstResponse) ∧
    (call.finalizeOk.result.code ≠ .ok →
      call.finalizeOk.result.response = call.result.response) := by
  unfold finalizeOk setStatus
  split_ifs with truncated missing several
  · simp [truncated]
  · simp [missing]
  · simp only [reduceCtorEq, false_iff, not_and, false_implies, ne_eq,
      not_false_eq_true, implies_true, and_true]
    omega
  · simp only [isOk, true_iff, true_implies, ne_eq, not_true_eq_false,
      false_implies, and_true]
    exact ⟨by simpa using truncated, by omega⟩

theorem finalizeGrpcStatus_ok (call : CallState) (raw : Bytes) :
    ((call.finalizeGrpcStatus raw).result.code = .ok ↔
      DenotesOk raw ∧ call.scanner.hasPartialMessage = false ∧
        call.responseCount = 1) ∧
    ((call.finalizeGrpcStatus raw).result.code = .ok →
      (call.finalizeGrpcStatus raw).result.response = call.firstResponse) ∧
    ((call.finalizeGrpcStatus raw).result.code ≠ .ok →
      (call.finalizeGrpcStatus raw).result.response =
        call.result.response) := by
  have okIff : parseGrpcStatus raw = some .ok ↔ DenotesOk raw :=
    parseGrpcStatus_eq_ok
  unfold finalizeGrpcStatus
  cases parsed : parseGrpcStatus raw with
  | none =>
      rw [parsed] at okIff
      simp [setStatus, ← okIff]
  | some code =>
      rw [parsed, Option.some.injEq] at okIff
      by_cases isOk : code = .ok
      · simp only [isOk, ne_eq, not_true_eq_false, if_false, ← okIff, true_and]
        exact finalizeOk_ok (call.setStatus .ok _) rfl
      · simp [isOk, setStatus, ← okIff]

theorem finalizeLocked_ok {call : CallState}
    (healthy : call.scanner.failed = false) (http2ErrorCode : Nat) :
    ((call.finalizeLocked http2ErrorCode).result.code = .ok ↔
      (∃ status, call.grpcStatusRaw = some status ∧ DenotesOk status) ∧
        call.scanner.hasPartialMessage = false ∧ call.responseCount = 1) ∧
    ((call.finalizeLocked http2ErrorCode).result.code = .ok →
      (call.finalizeLocked http2ErrorCode).result.response =
        call.firstResponse) ∧
    ((call.finalizeLocked http2ErrorCode).result.code ≠ .ok →
      (call.finalizeLocked http2ErrorCode).result.response =
        call.result.response) := by
  simp only [finalizeLocked, healthy, Bool.false_eq_true, if_false]
  cases call.grpcStatusRaw with
  | none =>
      obtain ⟨notOk, responseEq⟩ :=
        finalizeWithoutStatus_ne_ok call http2ErrorCode
      simp [notOk, responseEq]
  | some raw => simpa using finalizeGrpcStatus_ok call raw

theorem onClose_result {call : CallState} (notClosed : call.state ≠ .closed)
    (http2ErrorCode : Nat) :
    (call.onClose http2ErrorCode).result =
      (call.finalizeLocked http2ErrorCode).result := by
  simp [onClose, notClosed, closeLocked]

end CallState

/-- For every sequence of stream events on a fresh call and every close code:
the call ends with OK exactly when the DATA bytes are one intact message and
the last `grpc-status` captured denotes zero; the response is then that
message's payload, and it is empty in every other case; and a refused message
prefix decides the code whatever else arrived. -/
theorem ok_iff_one_intact_message (maxReceiveMessageSize : Nat)
    (events : List StreamEvent) (http2ErrorCode : Nat) :
    let result := (((CallState.new maxReceiveMessageSize).receiveAll
      events).onClose http2ErrorCode).result
    let bytes := dataBytes events
    (result.code = .ok ↔
      (∃ payload, IntactMessage maxReceiveMessageSize bytes payload) ∧
        ∃ status, lastStatus events = some status ∧ DenotesOk status) ∧
      (∀ payload, result.code = .ok →
        IntactMessage maxReceiveMessageSize bytes payload →
          result.response = payload) ∧
      (result.code ≠ .ok → result.response = []) ∧
      (∀ pre, firstBadPrefix maxReceiveMessageSize bytes = some pre →
        result.code = pre.code) := by
  intro result bytes
  have received := (Received.new maxReceiveMessageSize).receiveAll events
  rw [List.nil_append] at received
  set call := (CallState.new maxReceiveMessageSize).receiveAll events
  have resultEq : result = (call.finalizeLocked http2ErrorCode).result :=
    CallState.onClose_result received.notClosed http2ErrorCode
  obtain ⟨delivered, scanned⟩ := received.scanned
  rw [exists_intactMessage_iff]
  cases status : call.scanner.failed with
  | true =>
      obtain ⟨pre, found, codeEq, -⟩ := scanned.poisoned status
      have poisonedEq : result.code = pre.code ∧ result.response = [] := by
        rw [resultEq]
        simp [CallState.finalizeLocked, status, CallState.setStatus, codeEq,
          received.response]
      obtain ⟨codeIs, responseEq⟩ := poisonedEq
      rw [codeIs, found]
      refine ⟨by simp [pre.code_ne_ok], ?_, fun _ => responseEq, ?_⟩
      · intro payload isOk
        exact (pre.code_ne_ok isOk).elim
      · intro other otherFound
        rw [Option.some.injEq] at otherFound
        rw [otherFound]
  | false =>
      obtain ⟨clean, -, -⟩ := scanned.healthy status
      obtain ⟨countEq, firstEq, restEq⟩ := received.drained status
      have partialIff : call.scanner.hasPartialMessage = false ↔
          incompleteFrame bytes = [] := by
        rw [← Bool.not_eq_true, GrpcMessageScanner.hasPartialMessage_iff,
          restEq, not_not]
      obtain ⟨okIff, okResponse, otherResponse⟩ :=
        CallState.finalizeLocked_ok status http2ErrorCode
      rw [← resultEq, received.status, partialIff, countEq] at okIff
      rw [← resultEq] at okResponse otherResponse
      refine ⟨?_, ?_, ?_, ?_⟩
      · rw [okIff]
        constructor
        · rintro ⟨statusOk, complete, single⟩
          exact ⟨⟨clean, single, complete⟩, statusOk⟩
        · rintro ⟨⟨-, single, complete⟩, statusOk⟩
          exact ⟨statusOk, complete, single⟩
      · intro payload isOk intact
        rw [okResponse isOk, firstEq, intact.parseFrames_eq]
        rfl
      · intro notOk
        rw [otherResponse notOk, received.response]
      · intro pre found
        rw [clean] at found
        cases found

end Egrpc
