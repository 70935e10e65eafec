import Egrpc.CallStateVerdict

/-!
# What the header blocks of a call amount to

Header blocks reach a call through two hooks, which sort their entries
differently.  `Heads` is what the entries received so far amount to; it is
computed from the events block by block, where the code goes header by header.
The message side of a call does not depend on its header blocks at all.
-/

namespace Egrpc

def headerValues (name : Bytes) (headers : HeaderList) : List Bytes :=
  (headers.filter fun header => decide (header.1 = name)).map Prod.snd

def isPseudo (header : Header) : Bool :=
  header.1.head? == some ':'.toUInt8

/-- The metadata of response headers that do not end the stream. -/
def initialMetadataOf (headers : HeaderList) : HeaderList :=
  headers.filter fun header =>
    !isPseudo header && header.1 != Bytes.ofString "content-type"

def trailingMetadataOf (headers : HeaderList) : HeaderList :=
  headers.filter fun header =>
    !isPseudo header && header.1 != Bytes.ofString "grpc-status" &&
      header.1 != Bytes.ofString "grpc-message"

/-- The entries of a block other than its content type. -/
def withoutContentType (headers : HeaderList) : HeaderList :=
  headers.filter fun header => header.1 != Bytes.ofString "content-type"

/-- What header blocks amount to. -/
structure Heads where
  sawInitialHeaders : Bool := false
  httpStatus : Int := 0
  contentType : Bytes := []
  grpcStatusRaw : Option Bytes := none
  grpcMessageRaw : Bytes := []
  initialMetadata : HeaderList := []
  trailingMetadata : HeaderList := []

namespace Heads

def addTrailers (heads : Heads) (headers : HeaderList) : Heads :=
  { heads with
    grpcStatusRaw := (headerValues (Bytes.ofString "grpc-status") headers).getLast?.or
      heads.grpcStatusRaw
    grpcMessageRaw :=
      (headerValues (Bytes.ofString "grpc-message") headers).getLast?.getD
        heads.grpcMessageRaw
    trailingMetadata := heads.trailingMetadata ++ trailingMetadataOf headers }

/-- Note the HTTP status and the content type of response headers. -/
def addStatusLine (heads : Heads) (headers : HeaderList) : Heads :=
  { heads with
    httpStatus := ((headerValues (Bytes.ofString ":status") headers).getLast?.map
      Bytes.atoi).getD heads.httpStatus
    contentType :=
      (headerValues (Bytes.ofString "content-type") headers).getLast?.getD
        heads.contentType }

/-- Add a block of response headers.  Those that end the stream are trailers
too, apart from their content type. -/
def addResponseHeaders (heads : Heads) (headers : HeaderList) (endStream : Bool) :
    Heads :=
  let noted := { heads with sawInitialHeaders := true }.addStatusLine headers
  if endStream then noted.addTrailers (withoutContentType headers)
  else
    { noted with
      initialMetadata := noted.initialMetadata ++ initialMetadataOf headers }

def add (heads : Heads) : StreamEvent → Heads
  | .submitted _ | .data _ => heads
  | .responseHeaders headers endStream => heads.addResponseHeaders headers endStream
  | .trailers headers => heads.addTrailers headers

end Heads

def CallState.heads (call : CallState) : Heads where
  sawInitialHeaders := call.sawInitialHeaders
  httpStatus := call.httpStatus
  contentType := call.contentType
  grpcStatusRaw := call.grpcStatusRaw
  grpcMessageRaw := call.grpcMessageRaw
  initialMetadata := call.result.initialMetadata
  trailingMetadata := call.result.trailingMetadata

def StreamEvent.isData : StreamEvent → Bool
  | .data _ => true
  | .submitted _ | .responseHeaders _ _ | .trailers _ => false

/-! ## Header by header -/

theorem headerValues_append (name : Bytes) (first second : HeaderList) :
    headerValues name (first ++ second) =
      headerValues name first ++ headerValues name second := by
  simp [headerValues]

namespace Heads

theorem addTrailers_append (heads : Heads) (first second : HeaderList) :
    heads.addTrailers (first ++ second) =
      (heads.addTrailers first).addTrailers second := by
  simp only [addTrailers, headerValues_append, List.getLast?_append, Option.or_assoc,
    Option.getD_or, trailingMetadataOf, List.filter_append, List.append_assoc]

theorem addStatusLine_append (heads : Heads) (first second : HeaderList) :
    heads.addStatusLine (first ++ second) =
      (heads.addStatusLine first).addStatusLine second := by
  simp only [addStatusLine, headerValues_append, List.getLast?_append, Option.map_or,
    Option.getD_or]

theorem addResponseHeaders_append (heads : Heads) (first second : HeaderList)
    (endStream : Bool) :
    heads.addResponseHeaders (first ++ second) endStream =
      (heads.addResponseHeaders first endStream).addResponseHeaders second
        endStream := by
  cases endStream with
  | false =>
      simp only [addResponseHeaders, addStatusLine_append, initialMetadataOf,
        List.filter_append]
      simp [addStatusLine]
  | true =>
      simp only [addResponseHeaders, addStatusLine_append, withoutContentType,
        List.filter_append, addTrailers_append, if_true]
      rfl

end Heads

theorem hookNames_apart :
    Bytes.ofString "grpc-status" ≠ Bytes.ofString "grpc-message" ∧
      Bytes.ofString "content-type" ≠ Bytes.ofString "grpc-status" ∧
      Bytes.ofString "content-type" ≠ Bytes.ofString "grpc-message" ∧
      Bytes.ofString ":status" ≠ Bytes.ofString "content-type" ∧
      Bytes.ofString ":status" ≠ Bytes.ofString "grpc-status" ∧
      Bytes.ofString ":status" ≠ Bytes.ofString "grpc-message" := by
  decide

/-- Only `:status` is a pseudo-header among them. -/
theorem hookNames_regular :
    (Bytes.ofString "grpc-status").head? ≠ some ':'.toUInt8 ∧
      (Bytes.ofString "grpc-message").head? ≠ some ':'.toUInt8 ∧
      (Bytes.ofString "content-type").head? ≠ some ':'.toUInt8 ∧
      (Bytes.ofString ":status").head? = some ':'.toUInt8 := by
  decide

/-- A pseudo-header has none of the other names. -/
theorem ne_of_pseudo {name : Bytes} (pseudo : name.head? = some ':'.toUInt8) :
    name ≠ Bytes.ofString "grpc-status" ∧ name ≠ Bytes.ofString "grpc-message" ∧
      name ≠ Bytes.ofString "content-type" := by
  obtain ⟨status, message, contentType, -⟩ := hookNames_regular
  refine ⟨?_, ?_, ?_⟩
  · exact fun named => status (named ▸ pseudo)
  · exact fun named => message (named ▸ pseudo)
  · exact fun named => contentType (named ▸ pseudo)

namespace CallState

/-- One trailer does to the header side what the block of it alone does. -/
theorem heads_onTrailer (call : CallState) (header : Header) :
    (onTrailer call header).heads = call.heads.addTrailers [header] := by
  unfold onTrailer
  split_ifs with pseudo status message
  · simp [heads, Heads.addTrailers, headerValues, trailingMetadataOf, isPseudo, pseudo,
      ne_of_pseudo pseudo]
  · simp [heads, Heads.addTrailers, headerValues, trailingMetadataOf, status,
      hookNames_apart]
  · simp [heads, Heads.addTrailers, headerValues, trailingMetadataOf, message,
      hookNames_apart.1.symm]
  · simp [heads, Heads.addTrailers, headerValues, trailingMetadataOf, isPseudo, pseudo,
      status, message, addMetadata]

theorem heads_onResponseHeader (endStream : Bool) (call : CallState) (header : Header)
    (saw : call.sawInitialHeaders = true) :
    (onResponseHeader endStream call header).heads =
      call.heads.addResponseHeaders [header] endStream := by
  have notPseudo := @ne_of_pseudo header.1
  have notStatus : header.1.head? ≠ some ':'.toUInt8 →
      header.1 ≠ Bytes.ofString ":status" :=
    fun regular named => regular (named ▸ hookNames_regular.2.2.2)
  unfold onResponseHeader
  split_ifs with pseudo status contentType grpcStatus grpcMessage <;>
    cases endStream <;>
    simp_all [heads, Heads.addResponseHeaders, Heads.addStatusLine, Heads.addTrailers,
      headerValues, withoutContentType, initialMetadataOf, trailingMetadataOf, isPseudo,
      addMetadata, hookNames_apart, hookNames_regular, Ne.symm]

theorem heads_foldl_onTrailer (headers : HeaderList) (call : CallState) :
    (headers.foldl onTrailer call).heads = call.heads.addTrailers headers := by
  induction headers generalizing call with
  | nil => simp [Heads.addTrailers, headerValues, trailingMetadataOf]
  | cons header headers ih =>
      rw [List.foldl_cons, ih, heads_onTrailer, ← Heads.addTrailers_append,
        List.singleton_append]

theorem heads_foldl_onResponseHeader (endStream : Bool) (headers : HeaderList)
    (call : CallState) (saw : call.sawInitialHeaders = true) :
    (headers.foldl (onResponseHeader endStream) call).heads =
      call.heads.addResponseHeaders headers endStream := by
  induction headers generalizing call with
  | nil =>
      cases endStream <;>
        simp [heads, saw, Heads.addResponseHeaders, Heads.addStatusLine, Heads.addTrailers,
          headerValues, withoutContentType, initialMetadataOf, trailingMetadataOf]
  | cons header headers ih =>
      have stillSaw : (onResponseHeader endStream call header).sawInitialHeaders = true := by
        have headsEq := heads_onResponseHeader endStream call header saw
        have sawEq := congrArg Heads.sawInitialHeaders headsEq
        refine sawEq.trans ?_
        cases endStream <;> rfl
      rw [List.foldl_cons, ih _ stillSaw, heads_onResponseHeader endStream call header saw,
        ← Heads.addResponseHeaders_append, List.singleton_append]

/-! ## Event by event -/

theorem heads_onData (call : CallState) (bytes : Bytes) :
    (call.onData bytes).heads = call.heads := by
  simp only [onData, foldl_takeMessage]
  split_ifs <;> rfl

theorem heads_receive {call : CallState} (notClosed : call.state ≠ .closed)
    (event : StreamEvent) :
    (call.receive event).heads = call.heads.add event := by
  cases event with
  | submitted streamId =>
      simp only [receive, onSubmitted]
      split_ifs <;> rfl
  | responseHeaders headers endStream =>
      simp only [receive, onResponseHeaders, if_neg notClosed]
      exact heads_foldl_onResponseHeader endStream headers _ rfl
  | data bytes => exact call.heads_onData bytes
  | trailers headers =>
      simp only [receive, onTrailers, if_neg notClosed]
      exact heads_foldl_onTrailer headers call

theorem heads_receiveAll {call : CallState} (notClosed : call.state ≠ .closed)
    (events : List StreamEvent) :
    (call.receiveAll events).heads = events.foldl Heads.add call.heads := by
  induction events generalizing call with
  | nil => rfl
  | cons event events ih =>
      have stillOpen := (not_congr (call.receive_phase event).2.2).mpr notClosed
      rw [List.foldl_cons, ← heads_receive notClosed event]
      exact ih stillOpen

/-- The verdict leaves the metadata as it was gathered. -/
theorem finalizeLocked_metadata (call : CallState) (http2ErrorCode : Nat) :
    (call.finalizeLocked http2ErrorCode).result.initialMetadata =
        call.heads.initialMetadata ∧
      (call.finalizeLocked http2ErrorCode).result.trailingMetadata =
        call.heads.trailingMetadata := by
  have withStatus : ∀ raw,
      (call.finalizeGrpcStatus raw).result.initialMetadata = call.heads.initialMetadata ∧
        (call.finalizeGrpcStatus raw).result.trailingMetadata =
          call.heads.trailingMetadata := by
    intro raw
    unfold finalizeGrpcStatus finalizeOk setStatus
    cases parseGrpcStatus raw with
    | none => exact ⟨rfl, rfl⟩
    | some code =>
        simp only
        split_ifs <;> exact ⟨rfl, rfl⟩
  have withoutStatus :
      (call.finalizeWithoutStatus http2ErrorCode).result.initialMetadata =
          call.heads.initialMetadata ∧
        (call.finalizeWithoutStatus http2ErrorCode).result.trailingMetadata =
          call.heads.trailingMetadata := by
    unfold finalizeWithoutStatus setStatus
    split_ifs <;> exact ⟨rfl, rfl⟩
  unfold finalizeLocked
  split_ifs
  · exact ⟨rfl, rfl⟩
  · cases call.grpcStatusRaw with
    | some raw => exact withStatus raw
    | none => exact withoutStatus

/-! ## The message side -/

theorem SameBody.symm {call other : CallState} (same : SameBody call other) :
    SameBody other call :=
  ⟨same.scanner.symm, same.firstResponse.symm, same.responseCount.symm,
    same.response.symm⟩

theorem receive_sameBody (call : CallState) {event : StreamEvent}
    (noData : event.isData = false) : SameBody (call.receive event) call := by
  cases event with
  | submitted streamId =>
      simp only [receive, onSubmitted]
      split_ifs <;> exact ⟨rfl, rfl, rfl, rfl⟩
  | responseHeaders headers endStream =>
      simp only [receive, onResponseHeaders]
      split_ifs
      · exact SameBody.rfl
      · exact (foldl_onResponseHeader_sameBody endStream headers _).trans
          ⟨rfl, rfl, rfl, rfl⟩
  | data bytes => cases noData
  | trailers headers =>
      simp only [receive, onTrailers]
      split_ifs
      · exact SameBody.rfl
      · exact (foldl_header onTrailer_captures headers call).1

theorem SameBody.onData {call other : CallState} (same : SameBody call other)
    (callOpen : call.state ≠ .closed) (otherOpen : other.state ≠ .closed)
    (bytes : Bytes) : SameBody (call.onData bytes) (other.onData bytes) := by
  simp only [CallState.onData, callOpen, otherOpen, false_or, foldl_takeMessage,
    same.scanner, same.responseCount, same.firstResponse]
  split
  · exact same
  · split <;> exact ⟨Eq.refl _, Eq.refl _, Eq.refl _, same.response⟩

/-- The message side of a call depends on its DATA alone. -/
theorem receiveAll_sameBody {call other : CallState} (same : SameBody call other)
    (callOpen : call.state ≠ .closed) (otherOpen : other.state ≠ .closed)
    (events : List StreamEvent) :
    SameBody (call.receiveAll events)
      (other.receiveAll (events.filter StreamEvent.isData)) := by
  induction events generalizing call other with
  | nil => exact same
  | cons event events ih =>
      have stillOpen := (not_congr (call.receive_phase event).2.2).mpr callOpen
      cases isData : event.isData with
      | false =>
          rw [List.filter_cons_of_neg (by simp [isData])]
          exact ih ((receive_sameBody call isData).trans same) stillOpen otherOpen
      | true =>
          rw [List.filter_cons_of_pos isData]
          cases event with
          | data bytes =>
              exact ih (same.onData callOpen otherOpen bytes) stillOpen
                ((not_congr (other.receive_phase (.data bytes)).2.2).mpr otherOpen)
          | submitted | responseHeaders | trailers => cases isData

end CallState

end Egrpc
