import Egrpc.CallStateHeads
import Egrpc.ChannelImpl

/-!
# Informational responses

A server may send header blocks with a 1xx status before the response proper.
nghttp2 classifies the first header block of a stream as the response and every
later one as plain headers, and the session takes every block of the second kind
for trailers.  This file compares a response with the same response behind
interim blocks, from the callbacks of nghttp2 to the result of the call.
-/

namespace Egrpc

/-! ## Responses -/

def httpStatusOf (headers : HeaderList) : Int :=
  ((headerValues (Bytes.ofString ":status") headers).getLast?.map Bytes.atoi).getD 0

def Informational (headers : HeaderList) : Prop :=
  100 ≤ httpStatusOf headers ∧ httpStatusOf headers ≤ 199

instance (headers : HeaderList) : Decidable (Informational headers) :=
  inferInstanceAs (Decidable (_ ∧ _))

/-- An interim header block; it does not end the stream. -/
structure InterimBlock where
  headers : HeaderList
  informational : Informational headers

/-- A response: the final HEADERS, DATA chunks, and trailers if there are any. -/
structure Response where
  headers : HeaderList
  endStream : Bool
  data : List Bytes
  trailers : Option HeaderList
  final : ¬ Informational headers

def headerBlock (streamId : Int) (response endStream : Bool) (headers : HeaderList) :
    List NgCallback :=
  headers.map (fun header => .onHeader true streamId header.1 header.2) ++
    [.onFrameRecv (.headers streamId response endStream)]

/-- The callbacks for the header blocks up to the DATA: the first is the response
to nghttp2, whatever its status. -/
def leadingBlocks (streamId : Int) : List (HeaderList × Bool) → List NgCallback
  | [] => []
  | first :: later =>
      headerBlock streamId true first.2 first.1 ++
        later.flatMap fun block => headerBlock streamId false block.2 block.1

/-- Interim blocks, none of which ends the stream. -/
def interimBlocks (interims : List InterimBlock) : List (HeaderList × Bool) :=
  interims.map fun block => (block.headers, false)

/-- The header blocks up to the DATA. -/
def Response.blocks (interims : List InterimBlock) (response : Response) :
    List (HeaderList × Bool) :=
  interimBlocks interims ++ [(response.headers, response.endStream)]

/-- The callbacks for the DATA and the trailers. -/
def Response.bodyCallbacks (streamId : Int) (response : Response) : List NgCallback :=
  response.data.map (.onDataChunkRecv streamId) ++
    response.trailers.toList.flatMap (headerBlock streamId false true)

/-- The callbacks for a response behind interim blocks, up to the close of the
stream. -/
def responseCallbacks (streamId : Int) (interims : List InterimBlock)
    (response : Response) (errorCode : Nat) : List NgCallback :=
  leadingBlocks streamId (response.blocks interims) ++
    response.bodyCallbacks streamId ++ [.onStreamClose streamId errorCode]

/-! ## The call -/

/-- The stream of a call is registered and no header block is in progress. -/
def Awaits (session : Http2Session Nat) (streamId : Int) (call : Nat) : Prop :=
  ∃ stream, session.streams.lookup streamId = some stream ∧
    stream.hooks = World.makeStreamHooks call ∧ stream.pendingHeaders = []

/-- A call that was submitted and has received nothing. -/
structure SubmittedCall where
  session : Http2Session Nat
  table : CallTable
  streamId : Int
  call : Nat
  maxReceiveMessageSize : Nat
  awaits : Awaits session streamId call
  submitted : table.calls call =
    (CallState.new maxReceiveMessageSize).onSubmitted streamId

namespace SubmittedCall

def resultAfter (submitted : SubmittedCall) (callbacks : List NgCallback) :
    CallState.Result :=
  ((submitted.table.hooks (submitted.session.runCallbacks callbacks).2).calls
    submitted.call).result

/-- The result of a response behind interim blocks. -/
def result (submitted : SubmittedCall) (interims : List InterimBlock)
    (response : Response) (errorCode : Nat) : CallState.Result :=
  submitted.resultAfter
    (responseCallbacks submitted.streamId interims response errorCode)

/-- The result so far after the interim blocks: its metadata is what they
carry. -/
def carried (submitted : SubmittedCall) (interims : List InterimBlock) :
    CallState.Result :=
  submitted.resultAfter (leadingBlocks submitted.streamId (interimBlocks interims))

end SubmittedCall

/-- Two results are the same apart from metadata in front that is carried in the
first. -/
structure CallState.Result.SameApartFrom (carried result plain : CallState.Result) :
    Prop where
  code : result.code = plain.code
  message : result.message = plain.message
  response : result.response = plain.response
  initialMetadata :
    result.initialMetadata = carried.initialMetadata ++ plain.initialMetadata
  trailingMetadata :
    result.trailingMetadata = carried.trailingMetadata ++ plain.trailingMetadata

/-! ## From callbacks to events -/

theorem Http2Session.runCallbacks_append {Hook : Type} (session : Http2Session Hook)
    (first second : List NgCallback) :
    session.runCallbacks (first ++ second) =
      (((session.runCallbacks first).1.runCallbacks second).1,
        (session.runCallbacks first).2 ++
          ((session.runCallbacks first).1.runCallbacks second).2) := by
  induction first generalizing session with
  | nil => rfl
  | cons event first ih =>
      simp only [List.cons_append, Http2Session.runCallbacks, ih, List.append_assoc]

/-- From a session that awaits the call, the callbacks deliver the events to the
call, and the session awaits it still. -/
def Delivers (streamId : Int) (call : Nat) (callbacks : List NgCallback)
    (events : List StreamEvent) : Prop :=
  ∀ (session : Http2Session Nat) (table : CallTable), Awaits session streamId call →
    (table.hooks (session.runCallbacks callbacks).2).calls call =
        (table.calls call).receiveAll events ∧
      Awaits (session.runCallbacks callbacks).1 streamId call

namespace Delivers

variable {streamId : Int} {call : Nat}

theorem nil : Delivers streamId call [] [] :=
  fun _ _ awaits => ⟨rfl, awaits⟩

theorem append {first second : List NgCallback} {events later : List StreamEvent}
    (delivers : Delivers streamId call first events)
    (next : Delivers streamId call second later) :
    Delivers streamId call (first ++ second) (events ++ later) := by
  intro session table awaits
  obtain ⟨callEq, between⟩ := delivers session table awaits
  obtain ⟨laterEq, after⟩ := next (session.runCallbacks first).1
    (table.hooks (session.runCallbacks first).2) between
  rw [session.runCallbacks_append]
  refine ⟨?_, after⟩
  rw [CallTable.hooks, List.foldl_append]
  rw [callEq] at laterEq
  exact laterEq.trans List.foldl_append.symm

theorem flatMap {Item : Type} {callbacks : Item → List NgCallback}
    {event : Item → StreamEvent}
    (delivers : ∀ item, Delivers streamId call (callbacks item) [event item])
    (items : List Item) :
    Delivers streamId call (items.flatMap callbacks) (items.map event) := by
  induction items with
  | nil => exact nil
  | cons item items ih => exact (delivers item).append ih

theorem gather (session : Http2Session Nat) (headers : HeaderList)
    (stream : Http2Session.Stream Nat)
    (registered : session.streams.lookup streamId = some stream) :
    let ran := session.runCallbacks
      (headers.map fun header => .onHeader true streamId header.1 header.2)
    ran.2 = [] ∧ ran.1.streams.lookup streamId =
      some { stream with pendingHeaders := stream.pendingHeaders ++ headers } := by
  induction headers generalizing session stream with
  | nil => simpa [Http2Session.runCallbacks] using registered
  | cons header headers ih =>
      obtain ⟨quiet, lookupEq⟩ := ih (session.onHeader true streamId header.1 header.2)
        { stream with pendingHeaders := stream.pendingHeaders ++ [header] }
        (by simp [Http2Session.onHeader, registered])
      refine ⟨by simpa [Http2Session.runCallbacks, Http2Session.callback] using quiet, ?_⟩
      simpa [Http2Session.runCallbacks, Http2Session.callback] using lookupEq

/-- A block arrives at the hook that its classification selects. -/
theorem headerBlock (response endStream : Bool) (headers : HeaderList) :
    Delivers streamId call (Egrpc.headerBlock streamId response endStream headers)
      [if response then .responseHeaders headers endStream else .trailers headers] := by
  rintro session table ⟨stream, registered, hooksEq, noHeaders⟩
  obtain ⟨quiet, lookupEq⟩ := gather session headers stream registered
  rw [noHeaders, List.nil_append] at lookupEq
  rw [Egrpc.headerBlock, session.runCallbacks_append, quiet, List.nil_append]
  simp only [Http2Session.runCallbacks, Http2Session.callback, Http2Session.onFrameRecv,
    Http2Session.onHeadersFrame, lookupEq, List.append_nil]
  refine ⟨?_, _, AList.lookup_insert _, hooksEq, rfl⟩
  cases response <;>
    simp [hooksEq, World.makeStreamHooks, CallTable.hooks, CallTable.hook,
      CallTable.deliver, CallState.handle, CallState.receiveAll]

theorem data (bytes : Bytes) :
    Delivers streamId call [.onDataChunkRecv streamId bytes] [.data bytes] := by
  rintro session table ⟨stream, registered, hooksEq, noHeaders⟩
  refine ⟨?_, stream, registered, hooksEq, noHeaders⟩
  simp [Http2Session.runCallbacks, Http2Session.callback, Http2Session.onDataChunkRecv,
    registered, hooksEq, World.makeStreamHooks, CallTable.hooks, CallTable.hook,
    CallTable.deliver, CallState.handle, CallState.receiveAll]

end Delivers

/-- What the header blocks up to the DATA are to the call. -/
def leadingEvents : List (HeaderList × Bool) → List StreamEvent
  | [] => []
  | first :: later =>
      .responseHeaders first.1 first.2 :: later.map fun block => .trailers block.1

def Response.bodyEvents (response : Response) : List StreamEvent :=
  response.data.map .data ++ response.trailers.toList.map .trailers

theorem Delivers.leadingBlocks (streamId : Int) (call : Nat)
    (blocks : List (HeaderList × Bool)) :
    Delivers streamId call (leadingBlocks streamId blocks) (leadingEvents blocks) := by
  cases blocks with
  | nil => exact Delivers.nil
  | cons first later =>
      exact (Delivers.headerBlock true first.2 first.1).append
        (Delivers.flatMap (fun block => Delivers.headerBlock false block.2 block.1) later)

theorem Delivers.body (streamId : Int) (call : Nat) (response : Response) :
    Delivers streamId call (response.bodyCallbacks streamId) response.bodyEvents := by
  rw [Response.bodyCallbacks, List.map_eq_flatMap]
  exact (Delivers.flatMap Delivers.data response.data).append
    (Delivers.flatMap (Delivers.headerBlock false true) response.trailers.toList)

/-- What a response behind interim blocks is to the call. -/
def responseEvents (interims : List InterimBlock) (response : Response) :
    List StreamEvent :=
  leadingEvents (response.blocks interims) ++ response.bodyEvents

namespace SubmittedCall

variable (submitted : SubmittedCall)

def start : CallState :=
  (CallState.new submitted.maxReceiveMessageSize).onSubmitted submitted.streamId

/-- The session and its hooks deliver a response to the call event by event. -/
theorem result_eq (interims : List InterimBlock) (response : Response)
    (errorCode : Nat) :
    submitted.result interims response errorCode =
      ((submitted.start.receiveAll (responseEvents interims response)).onClose
        errorCode).result := by
  have delivers :=
    (Delivers.leadingBlocks submitted.streamId submitted.call
      (response.blocks interims)).append
        (Delivers.body submitted.streamId submitted.call response)
  obtain ⟨callEq, stream, registered, hooksEq, -⟩ :=
    delivers submitted.session submitted.table submitted.awaits
  rw [submitted.submitted] at callEq
  rw [result, resultAfter, responseCallbacks, Http2Session.runCallbacks_append,
    CallTable.hooks, List.foldl_append]
  simp only [Http2Session.runCallbacks, Http2Session.callback, Http2Session.onStreamClose,
    registered, hooksEq]
  simp only [World.makeStreamHooks, Option.map_some, Option.toList_some, List.append_nil,
    List.foldl_cons, List.foldl_nil, CallTable.hook, CallTable.deliver,
    Function.update_self]
  exact congrArg (fun call : CallState => (call.onClose errorCode).result) callEq

theorem carried_eq (interims : List InterimBlock) :
    submitted.carried interims =
      (submitted.start.receiveAll (leadingEvents (interimBlocks interims))).result := by
  obtain ⟨callEq, -⟩ := Delivers.leadingBlocks submitted.streamId submitted.call
    (interimBlocks interims) submitted.session submitted.table submitted.awaits
  rw [carried, resultAfter, callEq, submitted.submitted]
  rfl

end SubmittedCall

/-! ## What the hooks make of the header blocks -/

theorem Heads.foldl_data (heads : Heads) (chunks : List Bytes) :
    (chunks.map StreamEvent.data).foldl Heads.add heads = heads := by
  induction chunks with
  | nil => rfl
  | cons chunk chunks ih => exact ih

theorem Heads.foldl_trailers (heads : Heads) (blocks : List HeaderList) :
    (blocks.map StreamEvent.trailers).foldl Heads.add heads =
      heads.addTrailers blocks.flatten := by
  induction blocks generalizing heads with
  | nil => simp [Heads.addTrailers, headerValues, trailingMetadataOf]
  | cons block blocks ih =>
      rw [List.map_cons, List.foldl_cons, ih, List.flatten_cons,
        Heads.addTrailers_append]
      rfl

def Response.trailerBlock (response : Response) : HeaderList :=
  response.trailers.toList.flatten

theorem Response.foldl_bodyEvents (response : Response) (heads : Heads) :
    response.bodyEvents.foldl Heads.add heads =
      heads.addTrailers response.trailerBlock := by
  rw [Response.bodyEvents, List.foldl_append, Heads.foldl_data, Heads.foldl_trailers,
    Response.trailerBlock]

/-- What interim blocks amount to: the first is taken for the response and the
others for trailers. -/
def interimHeads (first : InterimBlock) (later : List InterimBlock) : Heads :=
  (({} : Heads).addResponseHeaders first.headers false).addTrailers
    (later.map InterimBlock.headers).flatten

namespace SubmittedCall

variable (submitted : SubmittedCall)

theorem start_notClosed : submitted.start.state ≠ .closed := by
  simp [start, CallState.onSubmitted, CallState.new]

theorem heads_start : submitted.start.heads = {} := rfl

theorem heads_plain (response : Response) :
    (submitted.start.receiveAll (responseEvents [] response)).heads =
      (({} : Heads).addResponseHeaders response.headers response.endStream).addTrailers
        response.trailerBlock := by
  rw [CallState.heads_receiveAll submitted.start_notClosed, heads_start, responseEvents,
    List.foldl_append, response.foldl_bodyEvents]
  rfl

theorem heads_carried (first : InterimBlock) (later : List InterimBlock) :
    (submitted.start.receiveAll (leadingEvents (interimBlocks (first :: later)))).heads =
      interimHeads first later := by
  rw [CallState.heads_receiveAll submitted.start_notClosed, heads_start, interimHeads,
    ← Heads.foldl_trailers]
  simp only [interimBlocks, leadingEvents, List.map_cons, List.foldl_cons, List.map_map]
  rfl

/-- Behind interim blocks the final HEADERS are taken for trailers. -/
theorem heads_interim (first : InterimBlock) (later : List InterimBlock)
    (response : Response) :
    (submitted.start.receiveAll (responseEvents (first :: later) response)).heads =
      ((interimHeads first later).addTrailers response.headers).addTrailers
        response.trailerBlock := by
  have leading : leadingEvents (response.blocks (first :: later)) =
      leadingEvents (interimBlocks (first :: later)) ++ [.trailers response.headers] := by
    simp [Response.blocks, interimBlocks, leadingEvents]
  rw [← submitted.heads_carried first later,
    CallState.heads_receiveAll submitted.start_notClosed,
    CallState.heads_receiveAll submitted.start_notClosed, responseEvents,
    List.foldl_append, response.foldl_bodyEvents, leading, List.foldl_append]
  rfl

end SubmittedCall

/-! ## When interim blocks go unnoticed -/

/-- The values of a name where the code reads trailers: in the trailers, and in
HEADERS that end the stream. -/
def Response.trailerValues (name : Bytes) (response : Response) : List Bytes :=
  (if response.endStream then headerValues name response.headers else []) ++
    headerValues name response.trailerBlock

/-- The values of a name in the interim blocks after the first. -/
def lateValues (name : Bytes) (interims : List InterimBlock) : List Bytes :=
  headerValues name (interims.tail.map InterimBlock.headers).flatten

/-- The final HEADERS have nothing that the two hooks sort differently. -/
def Response.Bare (response : Response) : Prop :=
  if response.endStream then
    ∀ header ∈ response.headers, header.1 ≠ Bytes.ofString "content-type"
  else ∀ header ∈ response.headers, isPseudo header = true

/-- What is reported for a response with neither a `grpc-status` nor a content
type. -/
def missingStatus (httpStatus : Int) : StatusCode × Bytes :=
  if httpStatus ≠ 200 then
    (httpStatusToGrpcCode httpStatus,
      Bytes.ofString "unexpected HTTP status " ++ Bytes.decimalInt httpStatus)
  else (.internal, Bytes.ofString "unexpected content-type \"\"")

/-- The outcome does not depend on the interim blocks after the first. -/
def VerdictKept (maxReceiveMessageSize : Nat) (interims : List InterimBlock)
    (response : Response) : Prop :=
  (∃ pre ∈ completePrefixes response.data.flatten, pre.Bad maxReceiveMessageSize) ∨
    match (response.trailerValues (Bytes.ofString "grpc-status")).getLast? with
    | some raw =>
        response.trailerValues (Bytes.ofString "grpc-message") ≠ [] ∨
          (lateValues (Bytes.ofString "grpc-message") interims).getLast?.getD [] = [] ∨
          parseGrpcStatus raw = none ∨
          parseGrpcStatus raw = some .ok ∧
            ¬ ∃ payload, IntactMessage maxReceiveMessageSize response.data.flatten payload
    | none =>
        ∃ raw code,
          (lateValues (Bytes.ofString "grpc-status") interims).getLast? = some raw ∧
          parseGrpcStatus raw = some code ∧
          (code, percentDecode ((lateValues (Bytes.ofString "grpc-message") interims ++
            response.trailerValues (Bytes.ofString "grpc-message")).getLast?.getD [])) =
              missingStatus (httpStatusOf response.headers)

/-- Interim blocks change nothing: there are none, or the final HEADERS are bare
and the outcome is decided without them. -/
def Unnoticed (maxReceiveMessageSize : Nat) (interims : List InterimBlock)
    (response : Response) : Prop :=
  interims = [] ∨ response.Bare ∧ VerdictKept maxReceiveMessageSize interims response

/-! ### Metadata -/

theorem initialMetadataOf_eq_nil {headers : HeaderList} :
    initialMetadataOf headers = [] ↔ ∀ header ∈ headers,
      isPseudo header = true ∨ header.1 = Bytes.ofString "content-type" := by
  simp only [initialMetadataOf, List.filter_eq_nil_iff, Bool.and_eq_true,
    Bool.not_eq_true', bne_iff_ne, not_and, Decidable.not_not]
  refine forall₂_congr fun header _ => ?_
  cases isPseudo header <;> simp

theorem trailingMetadataOf_eq_nil {headers : HeaderList} :
    trailingMetadataOf headers = [] ↔ ∀ header ∈ headers,
      isPseudo header = true ∨ header.1 = Bytes.ofString "grpc-status" ∨
        header.1 = Bytes.ofString "grpc-message" := by
  simp only [trailingMetadataOf, List.filter_eq_nil_iff, Bool.and_eq_true,
    Bool.not_eq_true', bne_iff_ne, not_and, Decidable.not_not]
  refine forall₂_congr fun header _ => ?_
  cases isPseudo header <;> simp [Classical.or_iff_not_imp_left]

theorem contentType_regular {header : Header}
    (named : header.1 = Bytes.ofString "content-type") : isPseudo header = false := by
  rw [isPseudo, named]
  rfl

/-- The trailers that HEADERS ending the stream amount to have all the metadata
of the block exactly when it has no content type. -/
theorem trailingMetadataOf_withoutContentType {headers : HeaderList} :
    trailingMetadataOf (withoutContentType headers) = trailingMetadataOf headers ↔
      ∀ header ∈ headers, header.1 ≠ Bytes.ofString "content-type" := by
  have commute : trailingMetadataOf (withoutContentType headers) =
      (trailingMetadataOf headers).filter
        fun header => header.1 != Bytes.ofString "content-type" := by
    simp only [trailingMetadataOf, withoutContentType, List.filter_filter, Bool.and_comm]
  rw [commute, List.filter_eq_self]
  constructor
  · intro others header member named
    have regular : header ∈ trailingMetadataOf headers := by
      simp [trailingMetadataOf, member, contentType_regular named, named,
        hookNames_apart]
    exact (bne_iff_ne.mp (others header regular)) named
  · intro others header member
    exact bne_iff_ne.mpr (others header (List.mem_of_mem_filter member))

/-- The metadata lists agree exactly when the final HEADERS are bare. -/
theorem Response.bare_iff (response : Response) :
    response.Bare ↔
      (({} : Heads).addResponseHeaders response.headers
        response.endStream).initialMetadata = [] ∧
      (({} : Heads).addResponseHeaders response.headers
        response.endStream).trailingMetadata = trailingMetadataOf response.headers := by
  unfold Response.Bare
  cases response.endStream with
  | true =>
      rw [if_pos rfl, ← trailingMetadataOf_withoutContentType]
      exact (and_iff_right rfl).symm
  | false =>
      change (∀ header ∈ response.headers, isPseudo header = true) ↔
        initialMetadataOf response.headers = [] ∧ [] = trailingMetadataOf response.headers
      rw [eq_comm (a := []), initialMetadataOf_eq_nil, trailingMetadataOf_eq_nil]
      constructor
      · intro pseudo
        exact ⟨fun header member => .inl (pseudo header member),
          fun header member => .inl (pseudo header member)⟩
      · rintro ⟨initial, trailing⟩ header member
        rcases initial header member with pseudo | contentType
        · exact pseudo
        · rcases trailing header member with pseudo | status | message
          · exact pseudo
          · exact absurd (contentType.symm.trans status) hookNames_apart.2.1
          · exact absurd (contentType.symm.trans message) hookNames_apart.2.2.1

/-- In bare HEADERS, a name other than the content type has values only where
they are read as trailers. -/
theorem Response.Bare.trailerValues {response : Response} (bare : response.Bare)
    {name : Bytes} (regular : name.head? ≠ some ':'.toUInt8) :
    response.trailerValues name =
      headerValues name response.headers ++ headerValues name response.trailerBlock := by
  unfold Response.Bare at bare
  unfold Response.trailerValues
  split_ifs at bare ⊢ with ends
  · rfl
  · have none : headerValues name response.headers = [] := by
      rw [headerValues, List.map_eq_nil_iff, List.filter_eq_nil_iff]
      intro header member named
      have pseudo := bare header member
      rw [isPseudo, of_decide_eq_true named] at pseudo
      exact regular (by simpa using pseudo)
    rw [none]

theorem Response.Bare.contentType {response : Response} (bare : response.Bare) :
    headerValues (Bytes.ofString "content-type") response.headers = [] := by
  rw [headerValues, List.map_eq_nil_iff, List.filter_eq_nil_iff]
  intro header member named
  have contentType := of_decide_eq_true named
  unfold Response.Bare at bare
  split_ifs at bare
  · exact bare header member contentType
  · have pseudo := bare header member
    rw [contentType_regular contentType] at pseudo
    cases pseudo

/-! ### What the verdict reads -/

/-- What the verdict on a response with bare HEADERS reads. -/
structure BareHeads (response : Response) (late : Bytes → List Bytes) (httpStatus : Int)
    (heads : Heads) : Prop where
  sawInitialHeaders : heads.sawInitialHeaders = true
  httpStatus : heads.httpStatus = httpStatus
  grpcStatusRaw : heads.grpcStatusRaw = (late (Bytes.ofString "grpc-status") ++
    response.trailerValues (Bytes.ofString "grpc-status")).getLast?
  grpcMessageRaw : heads.grpcMessageRaw = ((late (Bytes.ofString "grpc-message") ++
    response.trailerValues (Bytes.ofString "grpc-message")).getLast?).getD []

theorem Response.Bare.heads_plain {response : Response} (bare : response.Bare) :
    BareHeads response (fun _ => []) (httpStatusOf response.headers)
        ((({} : Heads).addResponseHeaders response.headers
          response.endStream).addTrailers response.trailerBlock) ∧
      ((({} : Heads).addResponseHeaders response.headers
        response.endStream).addTrailers response.trailerBlock).contentType = [] := by
  have contentType := bare.contentType
  cases ends : response.endStream with
  | true =>
      have same : withoutContentType response.headers = response.headers := by
        rw [Response.Bare, if_pos ends] at bare
        rw [withoutContentType, List.filter_eq_self]
        exact fun header member => bne_iff_ne.mpr (bare header member)
      refine ⟨⟨rfl, rfl, ?_, ?_⟩, ?_⟩
      · simp [Heads.addTrailers, Heads.addResponseHeaders, Heads.addStatusLine, same,
          Response.trailerValues, ends, List.getLast?_append]
      · simp [Heads.addTrailers, Heads.addResponseHeaders, Heads.addStatusLine, same,
          Response.trailerValues, ends, List.getLast?_append]
      · simp [Heads.addTrailers, Heads.addResponseHeaders, Heads.addStatusLine,
          contentType]
  | false =>
      refine ⟨⟨rfl, rfl, ?_, ?_⟩, ?_⟩
      · simp [Heads.addTrailers, Heads.addResponseHeaders, Heads.addStatusLine,
          Response.trailerValues, ends]
      · simp [Heads.addTrailers, Heads.addResponseHeaders, Heads.addStatusLine,
          Response.trailerValues, ends]
      · simp [Heads.addTrailers, Heads.addResponseHeaders, Heads.addStatusLine,
          contentType]

theorem Response.Bare.heads_interim {response : Response} (bare : response.Bare)
    (first : InterimBlock) (later : List InterimBlock) :
    BareHeads response (fun name => lateValues name (first :: later))
      (httpStatusOf first.headers)
      (((interimHeads first later).addTrailers response.headers).addTrailers
        response.trailerBlock) := by
  refine ⟨rfl, rfl, ?_, ?_⟩
  · rw [bare.trailerValues hookNames_regular.1]
    simp [Heads.addTrailers, interimHeads, Heads.addResponseHeaders, Heads.addStatusLine,
      lateValues, List.getLast?_append, Option.or_assoc]
  · rw [bare.trailerValues hookNames_regular.2.1]
    simp [Heads.addTrailers, interimHeads, Heads.addResponseHeaders, Heads.addStatusLine,
      lateValues, List.getLast?_append]

/-! ### Verdicts -/

theorem missingStatus_ne_ok (httpStatus : Int) : (missingStatus httpStatus).1 ≠ .ok := by
  unfold missingStatus
  split_ifs
  · exact httpStatusToGrpcCode_ne_ok httpStatus
  · simp

theorem missingStatus_text (httpStatus : Int) :
    ∃ rest, (missingStatus httpStatus).2 = Bytes.ofString "unexpected " ++ rest := by
  unfold missingStatus
  split_ifs
  · have front : Bytes.ofString "unexpected HTTP status " =
        Bytes.ofString "unexpected " ++ Bytes.ofString "HTTP status " := by decide
    exact ⟨Bytes.ofString "HTTP status " ++ Bytes.decimalInt httpStatus, by
      rw [front, List.append_assoc]⟩
  · exact ⟨Bytes.ofString "content-type \"\"", by decide⟩

theorem missingStatus_ne {interim final : Int}
    (informational : 100 ≤ interim ∧ interim ≤ 199)
    (other : ¬ (100 ≤ final ∧ final ≤ 199)) :
    missingStatus interim ≠ missingStatus final := by
  intro same
  have texts := congrArg Prod.snd same
  rw [missingStatus, if_pos (by omega)] at texts
  by_cases ok : final = 200
  · rw [missingStatus, if_neg (fun wrong => wrong ok)] at texts
    have differ := Bytes.append_ne_append (Bytes.ofString "unexpected HTTP status ")
      (Bytes.ofString "unexpected content-type \"\"") 12 (by decide) (by decide)
      (by decide) (Bytes.decimalInt interim) []
    rw [List.append_nil] at differ
    exact differ texts
  · rw [missingStatus, if_pos ok] at texts
    have equal := Bytes.decimalInt_injective (List.append_cancel_left texts)
    omega

namespace CallState

def Result.verdict (result : Result) : StatusCode × Bytes × Bytes :=
  (result.code, result.message, result.response)

/-- The verdict without a `grpc-status` depends on the HTTP status alone, when
there is no content type or the HTTP status is wrong. -/
theorem finalizeWithoutStatus_verdict {call : CallState}
    (saw : call.sawInitialHeaders = true)
    (decided : call.httpStatus ≠ 200 ∨ call.contentType = []) (errorCode : Nat) :
    (call.finalizeWithoutStatus errorCode).result.verdict =
      ((missingStatus call.httpStatus).1, (missingStatus call.httpStatus).2,
        call.result.response) := by
  by_cases ok : call.httpStatus = 200
  · have contentType := decided.resolve_left (fun wrong => wrong ok)
    have notGrpc : isGrpcContentType call.contentType = false := by
      rw [contentType]
      rfl
    rw [finalizeWithoutStatus, if_neg (fun wrong => wrong.2 ok), if_pos ⟨saw, notGrpc⟩,
      missingStatus, if_neg (fun wrong => wrong ok), contentType]
    rfl
  · simp [finalizeWithoutStatus, saw, ok, missingStatus, setStatus, Result.verdict]

/-- Two calls with the same message side and the same status value differ in
their verdicts by the status message only, where it is reported. -/
theorem finalizeGrpcStatus_verdict_eq_iff {call other : CallState}
    (same : SameBody call other) (raw : Bytes) :
    (call.finalizeGrpcStatus raw).result.verdict =
        (other.finalizeGrpcStatus raw).result.verdict ↔
      percentDecode call.grpcMessageRaw = percentDecode other.grpcMessageRaw ∨
        parseGrpcStatus raw = none ∨
        parseGrpcStatus raw = some .ok ∧
          ¬ (other.scanner.hasPartialMessage = false ∧ other.responseCount = 1) := by
  unfold finalizeGrpcStatus
  cases parsed : parseGrpcStatus raw with
  | none => simp [setStatus, Result.verdict, same.response]
  | some code =>
      by_cases isOk : code = .ok
      · simp only [isOk, ne_eq, not_true_eq_false, if_false, finalizeOk, setStatus,
          same.scanner, same.responseCount, same.firstResponse]
        split_ifs with truncated missing several
        · simp [Result.verdict, same.response, truncated]
        · simp [Result.verdict, same.response, missing]
        · have count : other.responseCount ≠ 1 := by omega
          simp [Result.verdict, same.response, count]
        · have count : other.responseCount = 1 := by omega
          simp [Result.verdict, truncated, count]
      · simp [isOk, setStatus, Result.verdict, same.response]

/-- A status value is reported as a missing one would be only by saying so. -/
theorem finalizeGrpcStatus_verdict_eq_missing (call : CallState) (raw : Bytes)
    (httpStatus : Int) :
    (call.finalizeGrpcStatus raw).result.verdict =
        ((missingStatus httpStatus).1, (missingStatus httpStatus).2,
          call.result.response) ↔
      ∃ code, parseGrpcStatus raw = some code ∧
        (code, percentDecode call.grpcMessageRaw) = missingStatus httpStatus := by
  obtain ⟨rest, text⟩ := missingStatus_text httpStatus
  have notOk := missingStatus_ne_ok httpStatus
  -- No other text of the verdict begins as the texts for a missing status do.
  have apart : ∀ (start : Bytes), 4 ≤ start.length →
      start.take 4 ≠ (Bytes.ofString "unexpected ").take 4 → ∀ tail,
        start ++ tail ≠ (missingStatus httpStatus).2 := by
    intro start long differ tail
    rw [text]
    exact Bytes.append_ne_append start _ 4 long (by decide) differ tail rest
  unfold finalizeGrpcStatus
  cases parsed : parseGrpcStatus raw with
  | none =>
      have differ := apart (Bytes.ofString "malformed grpc-status trailer: \"")
        (by decide) (by decide) (raw ++ Bytes.ofString "\"")
      simp [setStatus, Result.verdict, differ]
  | some code =>
      by_cases isOk : code = .ok
      · have never : ¬ ∃ code', some code = some code' ∧
            (code', percentDecode call.grpcMessageRaw) = missingStatus httpStatus := by
          rintro ⟨code', same, missing⟩
          cases same
          exact notOk (by rw [← missing, isOk])
        refine iff_of_false ?_ never
        simp only [isOk, ne_eq, not_true_eq_false, if_false, finalizeOk, setStatus]
        split_ifs <;> simp only [Result.verdict, Prod.mk.injEq] <;> rintro ⟨codeEq, textEq, -⟩
        · refine apart _ ?_ ?_ [] ((List.append_nil _).trans textEq) <;> decide
        · refine apart _ ?_ ?_ [] ((List.append_nil _).trans textEq) <;> decide
        · refine apart _ ?_ ?_ [] ((List.append_nil _).trans textEq) <;> decide
        · exact notOk codeEq.symm
      · simp [isOk, setStatus, Result.verdict, Prod.ext_iff]

end CallState

namespace SubmittedCall

variable (submitted : SubmittedCall)

theorem filter_isData_responseEvents (interims : List InterimBlock) (response : Response) :
    (responseEvents interims response).filter StreamEvent.isData =
      response.data.map .data := by
  have leading : ∀ blocks, (leadingEvents blocks).filter StreamEvent.isData = [] := by
    intro blocks
    cases blocks with
    | nil => rfl
    | cons first later => simp [leadingEvents, StreamEvent.isData]
  simp [responseEvents, leading, Response.bodyEvents, List.filter_map, Function.comp_def,
    StreamEvent.isData]

theorem sameBody_interim (interims : List InterimBlock) (response : Response) :
    CallState.SameBody (submitted.start.receiveAll (responseEvents interims response))
      (submitted.start.receiveAll (responseEvents [] response)) := by
  have toData : ∀ blocks, CallState.SameBody
      (submitted.start.receiveAll (responseEvents blocks response))
      (submitted.start.receiveAll (response.data.map .data)) := by
    intro blocks
    rw [← filter_isData_responseEvents blocks response]
    exact CallState.receiveAll_sameBody CallState.SameBody.rfl submitted.start_notClosed
      submitted.start_notClosed (responseEvents blocks response)
  exact (toData interims).trans (toData []).symm

/-- The DATA decides whether the scanner fails, and whether there is exactly one
message. -/
theorem scanned_plain (response : Response) :
    let plain := submitted.start.receiveAll (responseEvents [] response)
    plain.state ≠ .closed ∧
    (plain.scanner.failed = true ↔ ∃ pre ∈ completePrefixes response.data.flatten,
      pre.Bad submitted.maxReceiveMessageSize) ∧
    (plain.scanner.failed = false →
      (plain.scanner.hasPartialMessage = false ∧ plain.responseCount = 1 ↔
        ∃ payload, IntactMessage submitted.maxReceiveMessageSize response.data.flatten
          payload)) := by
  intro plain
  have received : Received submitted.maxReceiveMessageSize _ plain :=
    ((Received.new submitted.maxReceiveMessageSize).submitted
      submitted.streamId).receiveAll (responseEvents [] response)
  have bytesEq : dataBytes ([] ++ [.submitted submitted.streamId] ++
      responseEvents [] response) = response.data.flatten := by
    simp [dataBytes, responseEvents, Response.blocks, interimBlocks, leadingEvents,
      Response.bodyEvents, List.flatMap_map, ← List.flatMap_id]
  obtain ⟨delivered, scanned⟩ := received.scanned
  rw [bytesEq] at scanned
  refine ⟨received.notClosed, scanned.failed_iff, ?_⟩
  intro healthy
  obtain ⟨countEq, -, restEq⟩ := received.drained healthy
  rw [bytesEq] at countEq restEq
  rw [exists_intactMessage_iff, ← Bool.not_eq_true,
    GrpcMessageScanner.hasPartialMessage_iff, restEq, not_not, countEq,
    and_iff_right (scanned.healthy healthy).1, and_comm]

end SubmittedCall

/-- The status message is read as it would be without the late values, unless they
supply the only one. -/
theorem percentDecode_late_eq_iff (late own : List Bytes) :
    percentDecode ((late ++ own).getLast?.getD []) =
        percentDecode (own.getLast?.getD []) ↔
      own ≠ [] ∨ late.getLast?.getD [] = [] := by
  cases own using List.reverseRecOn with
  | nil =>
      rw [List.append_nil, List.getLast?_nil, Option.getD_none]
      exact percentDecode_eq_nil.trans (by simp)
  | append_singleton front last =>
      rw [← List.append_assoc, List.getLast?_concat, List.getLast?_concat]
      simp

namespace SubmittedCall

variable (submitted : SubmittedCall)

/-- Behind interim blocks, a response with bare HEADERS keeps its verdict exactly
when it was decided without them. -/
theorem verdict_eq_iff (first : InterimBlock) (later : List InterimBlock)
    (response : Response) (bare : response.Bare) (errorCode : Nat) :
    ((submitted.start.receiveAll (responseEvents (first :: later) response)).finalizeLocked
        errorCode).result.verdict =
      ((submitted.start.receiveAll (responseEvents [] response)).finalizeLocked
        errorCode).result.verdict ↔
      VerdictKept submitted.maxReceiveMessageSize (first :: later) response := by
  have same := submitted.sameBody_interim (first :: later) response
  obtain ⟨-, failedIff, intactIff⟩ := submitted.scanned_plain response
  have interimHeads := bare.heads_interim first later
  rw [← submitted.heads_interim first later response] at interimHeads
  obtain ⟨plainHeads, contentType⟩ := bare.heads_plain
  rw [← submitted.heads_plain response] at plainHeads contentType
  generalize submitted.start.receiveAll (responseEvents (first :: later) response) =
    call at *
  generalize submitted.start.receiveAll (responseEvents [] response) = plain at *
  have callStatus : call.grpcStatusRaw = _ := interimHeads.grpcStatusRaw
  have plainStatus : plain.grpcStatusRaw = _ := plainHeads.grpcStatusRaw
  have callMessage : call.grpcMessageRaw = _ := interimHeads.grpcMessageRaw
  have plainMessage : plain.grpcMessageRaw = _ := plainHeads.grpcMessageRaw
  rw [List.nil_append] at plainStatus plainMessage
  rw [List.getLast?_append] at callStatus
  rw [VerdictKept, ← failedIff]
  cases failed : plain.scanner.failed with
  | true =>
      simp [CallState.finalizeLocked, same.scanner, failed, CallState.setStatus,
        CallState.Result.verdict, same.response]
  | false =>
      rw [or_iff_right Bool.false_ne_true]
      simp only [CallState.finalizeLocked, same.scanner, failed, Bool.false_eq_true,
        if_false]
      cases own : (response.trailerValues (Bytes.ofString "grpc-status")).getLast? with
      | some raw =>
          rw [own] at callStatus plainStatus
          simp only [callStatus, plainStatus, Option.some_or]
          rw [CallState.finalizeGrpcStatus_verdict_eq_iff same, callMessage, plainMessage,
            percentDecode_late_eq_iff, intactIff failed, or_assoc]
      | none =>
          rw [own] at callStatus plainStatus
          rw [Option.none_or] at callStatus
          simp only [plainStatus]
          rw [CallState.finalizeWithoutStatus_verdict plainHeads.sawInitialHeaders
            (.inr contentType), show plain.httpStatus = _ from plainHeads.httpStatus,
            ← same.response]
          cases late : (lateValues (Bytes.ofString "grpc-status")
              (first :: later)).getLast? with
          | some raw =>
              simp only [callStatus, late]
              rw [CallState.finalizeGrpcStatus_verdict_eq_missing, callMessage]
              simp
          | none =>
              have interimStatus : call.httpStatus = _ := interimHeads.httpStatus
              have wrong : call.httpStatus ≠ 200 := by
                have informational := first.informational
                rw [Informational] at informational
                omega
              simp only [callStatus, late]
              rw [CallState.finalizeWithoutStatus_verdict interimHeads.sawInitialHeaders
                (.inl wrong), interimStatus]
              simp only [Prod.mk.injEq, and_true, ← Prod.ext_iff, reduceCtorEq, false_and,
                exists_false, iff_false]
              exact missingStatus_ne first.informational response.final

theorem result_eq_finalizeLocked (interims : List InterimBlock) (response : Response)
    (errorCode : Nat) :
    submitted.result interims response errorCode =
      ((submitted.start.receiveAll (responseEvents interims response)).finalizeLocked
        errorCode).result := by
  have received : Received submitted.maxReceiveMessageSize _
      (submitted.start.receiveAll (responseEvents interims response)) :=
    ((Received.new submitted.maxReceiveMessageSize).submitted
      submitted.streamId).receiveAll (responseEvents interims response)
  rw [submitted.result_eq, CallState.onClose_result received.notClosed]

/-- The metadata of a response behind interim blocks is theirs and then the
response's own, exactly when the final HEADERS are bare. -/
theorem metadata_eq_iff (first : InterimBlock) (later : List InterimBlock)
    (response : Response) (errorCode : Nat) :
    ((submitted.result (first :: later) response errorCode).initialMetadata =
        (submitted.carried (first :: later)).initialMetadata ++
          (submitted.result [] response errorCode).initialMetadata ∧
      (submitted.result (first :: later) response errorCode).trailingMetadata =
        (submitted.carried (first :: later)).trailingMetadata ++
          (submitted.result [] response errorCode).trailingMetadata) ↔
      response.Bare := by
  have carriedHeads := submitted.heads_carried first later
  have carriedInitial := congrArg Heads.initialMetadata carriedHeads
  have carriedTrailing := congrArg Heads.trailingMetadata carriedHeads
  simp only [CallState.heads] at carriedInitial carriedTrailing
  rw [submitted.carried_eq, carriedInitial, carriedTrailing,
    submitted.result_eq_finalizeLocked, submitted.result_eq_finalizeLocked,
    (CallState.finalizeLocked_metadata _ errorCode).1,
    (CallState.finalizeLocked_metadata _ errorCode).1,
    (CallState.finalizeLocked_metadata _ errorCode).2,
    (CallState.finalizeLocked_metadata _ errorCode).2, submitted.heads_interim,
    submitted.heads_plain, response.bare_iff]
  refine and_congr ?_ ?_
  · exact List.self_eq_append_right
  · rw [eq_comm]
    simp only [Heads.addTrailers]
    rw [List.append_assoc, List.append_cancel_left_eq, List.append_cancel_right_eq]

/-- For every submitted call, interim blocks, response and close code: the result
behind the interim blocks is the result without them, apart from their own
metadata, exactly when they go unnoticed. -/
theorem interim_blocks_unnoticed_iff (interims : List InterimBlock)
    (response : Response) (errorCode : Nat) :
    (submitted.carried interims).SameApartFrom
        (submitted.result interims response errorCode)
        (submitted.result [] response errorCode) ↔
      Unnoticed submitted.maxReceiveMessageSize interims response := by
  cases interims with
  | nil =>
      refine iff_of_true ⟨rfl, rfl, rfl, ?_, ?_⟩ (.inl rfl)
      · rw [submitted.carried_eq]
        rfl
      · rw [submitted.carried_eq]
        rfl
  | cons first later =>
      rw [Unnoticed, or_iff_right (List.cons_ne_nil first later)]
      constructor
      · rintro ⟨code, message, responseEq, initial, trailing⟩
        have bare := (submitted.metadata_eq_iff first later response errorCode).mp
          ⟨initial, trailing⟩
        refine ⟨bare, (submitted.verdict_eq_iff first later response bare errorCode).mp ?_⟩
        rw [← submitted.result_eq_finalizeLocked, ← submitted.result_eq_finalizeLocked]
        exact Prod.ext code (Prod.ext message responseEq)
      · rintro ⟨bare, kept⟩
        have verdicts := (submitted.verdict_eq_iff first later response bare errorCode).mpr
          kept
        rw [← submitted.result_eq_finalizeLocked, ← submitted.result_eq_finalizeLocked]
          at verdicts
        obtain ⟨initial, trailing⟩ :=
          (submitted.metadata_eq_iff first later response errorCode).mpr bare
        exact ⟨congrArg Prod.fst verdicts, congrArg (·.2.1) verdicts,
          congrArg (·.2.2) verdicts, initial, trailing⟩

def sample : SubmittedCall where
  session :=
    { options := {}
      hooks := {}
      session := true
      lastRead := 0
      activeStreams := 1
      streams := AList.insert 1 { hooks := World.makeStreamHooks 0, body := [] } ∅ }
  table := { calls := fun _ => (CallState.new 100).onSubmitted 1, activeCalls := [0] }
  streamId := 1
  call := 0
  maxReceiveMessageSize := 100
  awaits := ⟨_, AList.lookup_insert _, rfl, rfl⟩
  submitted := rfl

def sampleInterim : InterimBlock where
  headers := [(Bytes.ofString ":status", Bytes.ofString "103")]
  informational := by decide

def sampleResponse : Response where
  headers :=
    [(Bytes.ofString ":status", Bytes.ofString "200"),
      (Bytes.ofString "content-type", Bytes.ofString "application/grpc"),
      (Bytes.ofString "trace", Bytes.ofString "1")]
  endStream := false
  data := [[0, 0, 0, 0, 1, 7]]
  trailers := some [(Bytes.ofString "grpc-status", Bytes.ofString "0")]
  final := by decide

/-- Behind an interim block the initial metadata of a successful response arrives
as trailing metadata, along with its content type. -/
theorem interim_block_moves_metadata :
    (sample.result [] sampleResponse 0).code = .ok ∧
      (sample.result [] sampleResponse 0).initialMetadata =
        [(Bytes.ofString "trace", Bytes.ofString "1")] ∧
      (sample.result [sampleInterim] sampleResponse 0).initialMetadata = [] ∧
      ¬ (sample.carried [sampleInterim]).SameApartFrom
        (sample.result [sampleInterim] sampleResponse 0)
        (sample.result [] sampleResponse 0) := by
  have initial : (sample.result [] sampleResponse 0).initialMetadata =
      [(Bytes.ofString "trace", Bytes.ofString "1")] := by decide
  have moved : (sample.result [sampleInterim] sampleResponse 0).initialMetadata = [] := by
    decide
  refine ⟨by decide, initial, moved, ?_⟩
  intro same
  have lists := same.initialMetadata
  rw [initial, moved] at lists
  exact List.cons_ne_nil _ _ (List.append_eq_nil_iff.mp lists.symm).2

end SubmittedCall

end Egrpc
