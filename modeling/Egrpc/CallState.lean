import Egrpc.MessageScanner
import Egrpc.RequestHeaders

/-!
# The per-call state machine

A `CallState` accumulates what arrives on one HTTP/2 stream and computes the
call's final status when the stream closes:

  created → headers sent → open → closed.

The event thread performs every transition; a caller thread only waits for the
result.  Once closed, a call ignores every further event.
-/

namespace Egrpc

inductive CallState.State
  | created
  | headersSent
  | open
  | closed
  deriving DecidableEq, Repr

/-- The rank of a phase in the order of the state machine. -/
def CallState.State.rank : CallState.State → Nat
  | .created => 0
  | .headersSent => 1
  | .open => 2
  | .closed => 3

structure CallState.Result where
  code : StatusCode := .unknown
  message : Bytes := []
  response : Bytes := []
  initialMetadata : HeaderList := []
  trailingMetadata : HeaderList := []
  deriving DecidableEq

structure CallState where
  done : Bool := false
  state : CallState.State := .created
  streamId : Int := -1
  scanner : GrpcMessageScanner
  firstResponse : Bytes := []
  responseCount : Nat := 0
  sawInitialHeaders : Bool := false
  httpStatus : Int := 0
  contentType : Bytes := []
  grpcStatusRaw : Option Bytes := none
  grpcMessageRaw : Bytes := []
  result : CallState.Result := {}

/-- The value begins with `application/grpc`. -/
def isGrpcContentType (value : Bytes) : Bool :=
  value.take 16 == Bytes.ofString "application/grpc"

/-- HTTP/2 error codes of the status mapping. -/
def kHttp2RefusedStream : Nat := 0x7

@[inherit_doc kHttp2RefusedStream]
def kHttp2Cancel : Nat := 0x8

namespace CallState

def new (maxReceiveMessageSize : Nat) : CallState where
  scanner := GrpcMessageScanner.new maxReceiveMessageSize

/-- The request was handed to the session under a stream id. -/
def onSubmitted (call : CallState) (streamId : Int) : CallState :=
  if call.state ≠ .created then call
  else { call with streamId := streamId, state := .headersSent }

/-- A metadata entry goes to the trailing list of a Trailers-Only response and
to the initial list otherwise. -/
def addMetadata (endStream : Bool) (call : CallState) (header : Header) :
    CallState :=
  if endStream then
    { call with result.trailingMetadata :=
        call.result.trailingMetadata ++ [header] }
  else
    { call with result.initialMetadata :=
        call.result.initialMetadata ++ [header] }

def onResponseHeader (endStream : Bool) (call : CallState) (header : Header) :
    CallState :=
  if header.1.head? = some ':'.toUInt8 then
    if header.1 = Bytes.ofString ":status" then
      { call with httpStatus := Bytes.atoi header.2 }
    else call
  else if header.1 = Bytes.ofString "content-type" then
    { call with contentType := header.2 }
  else if endStream = true ∧ header.1 = Bytes.ofString "grpc-status" then
    { call with grpcStatusRaw := some header.2 }
  else if endStream = true ∧ header.1 = Bytes.ofString "grpc-message" then
    { call with grpcMessageRaw := header.2 }
  else call.addMetadata endStream header

/-- The initial response HEADERS; with END_STREAM they are also the
trailers. -/
def onResponseHeaders (call : CallState) (headers : HeaderList)
    (endStream : Bool) : CallState :=
  if call.state = .closed then call
  else
    headers.foldl (onResponseHeader endStream)
      { call with state := .open, sawInitialHeaders := true }

/-- Count a response message and keep the first. -/
def takeMessage (call : CallState) (message : Bytes) : CallState :=
  let responseCount := call.responseCount + 1
  if responseCount = 1 then
    { call with responseCount := responseCount, firstResponse := message }
  else { call with responseCount := responseCount }

/-- One DATA chunk.  A framing error is kept in the scanner until the stream
closes. -/
def onData (call : CallState) (data : Bytes) : CallState :=
  if call.state = .closed ∨ call.scanner.failed = true then call
  else
    let fed := call.scanner.feed data
    if fed.1 = false then { call with scanner := fed.2 }
    else
      fed.2.takeAll.1.foldl takeMessage { call with scanner := fed.2.takeAll.2 }

def onTrailer (call : CallState) (header : Header) : CallState :=
  if header.1.head? = some ':'.toUInt8 then call
  else if header.1 = Bytes.ofString "grpc-status" then
    { call with grpcStatusRaw := some header.2 }
  else if header.1 = Bytes.ofString "grpc-message" then
    { call with grpcMessageRaw := header.2 }
  else call.addMetadata true header

def onTrailers (call : CallState) (trailers : HeaderList) : CallState :=
  if call.state = .closed then call else trailers.foldl onTrailer call

def setStatus (call : CallState) (code : StatusCode) (message : Bytes) :
    CallState :=
  { call with result.code := code, result.message := message }

/-- The verdict on an OK status: exactly one complete message. -/
def finalizeOk (call : CallState) : CallState :=
  if call.scanner.hasPartialMessage then
    call.setStatus .internal
      (Bytes.ofString "stream ended mid-message (truncated gRPC frame)")
  else if call.responseCount = 0 then
    call.setStatus .internal
      (Bytes.ofString "unary call completed with OK status but no response message")
  else if 1 < call.responseCount then
    call.setStatus .internal
      (Bytes.ofString "unary call received more than one response message")
  else { call with result.response := call.firstResponse, firstResponse := [] }

/-- The verdict on a `grpc-status` value. -/
def finalizeGrpcStatus (call : CallState) (raw : Bytes) : CallState :=
  match parseGrpcStatus raw with
  | none =>
      call.setStatus .internal (Bytes.ofString "malformed grpc-status trailer: \"" ++
        raw ++ Bytes.ofString "\"")
  | some code =>
      let call := call.setStatus code (percentDecode call.grpcMessageRaw)
      if code ≠ .ok then call else call.finalizeOk

/-- The verdict when no `grpc-status` arrived: the HTTP status, the content
type, then the stream's error code. -/
def finalizeWithoutStatus (call : CallState) (http2ErrorCode : Nat) :
    CallState :=
  if call.sawInitialHeaders = true ∧ call.httpStatus ≠ 200 then
    call.setStatus (httpStatusToGrpcCode call.httpStatus)
      (Bytes.ofString "unexpected HTTP status " ++ Bytes.decimalInt call.httpStatus)
  else if call.sawInitialHeaders = true ∧
      isGrpcContentType call.contentType = false then
    call.setStatus .internal (Bytes.ofString "unexpected content-type \"" ++
      call.contentType ++ Bytes.ofString "\"")
  else if http2ErrorCode = 0 then
    call.setStatus .internal
      (Bytes.ofString "server closed stream without grpc-status")
  else if http2ErrorCode = kHttp2RefusedStream then
    call.setStatus .unavailable
      (Bytes.ofString "stream refused by server (REFUSED_STREAM)")
  else if http2ErrorCode = kHttp2Cancel then
    call.setStatus .cancelled
      (Bytes.ofString "stream cancelled by server (RST_STREAM CANCEL)")
  else
    call.setStatus .internal (Bytes.ofString "stream reset, HTTP/2 error code " ++
      Bytes.decimal http2ErrorCode)

/-- The final status: a framing error, then `grpc-status`, then the
fallbacks. -/
def finalizeLocked (call : CallState) (http2ErrorCode : Nat) : CallState :=
  if call.scanner.failed then
    call.setStatus call.scanner.errorCode call.scanner.error
  else
    match call.grpcStatusRaw with
    | some raw => call.finalizeGrpcStatus raw
    | none => call.finalizeWithoutStatus http2ErrorCode

/-- Enter the closed state and wake the waiter. -/
def closeLocked (call : CallState) : CallState :=
  { call with state := .closed, done := true }

def onClose (call : CallState) (http2ErrorCode : Nat) : CallState :=
  if call.state = .closed then call
  else (call.finalizeLocked http2ErrorCode).closeLocked

/-- A local or transport failure closes the call unless it is closed. -/
def failLocal (call : CallState) (code : StatusCode) (message : Bytes) :
    CallState :=
  if call.state = .closed then call
  else (call.setStatus code message).closeLocked

/-- What `Wait` returns; a call that is not done keeps its caller blocked. -/
def wait (call : CallState) : Option Result :=
  if call.done then some call.result else none

end CallState

/-! ## Events -/

/-- What can arrive for a call while its stream is open. -/
inductive StreamEvent
  | submitted (streamId : Int)
  | responseHeaders (headers : HeaderList) (endStream : Bool)
  | data (bytes : Bytes)
  | trailers (headers : HeaderList)
  deriving DecidableEq

/-- Everything that can happen to a call. -/
inductive CallEvent
  | stream (event : StreamEvent)
  | close (http2ErrorCode : Nat)
  | failLocal (code : StatusCode) (message : Bytes)
  deriving DecidableEq

def CallEvent.Closing : CallEvent → Prop
  | .stream _ => False
  | .close _ => True
  | .failLocal _ _ => True

instance : (event : CallEvent) → Decidable event.Closing
  | .stream _ => isFalse id
  | .close _ => isTrue trivial
  | .failLocal _ _ => isTrue trivial

namespace CallState

def receive (call : CallState) : StreamEvent → CallState
  | .submitted streamId => call.onSubmitted streamId
  | .responseHeaders headers endStream => call.onResponseHeaders headers endStream
  | .data bytes => call.onData bytes
  | .trailers headers => call.onTrailers headers

def handle (call : CallState) : CallEvent → CallState
  | .stream event => call.receive event
  | .close http2ErrorCode => call.onClose http2ErrorCode
  | .failLocal code message => call.failLocal code message

def receiveAll (call : CallState) (events : List StreamEvent) : CallState :=
  events.foldl receive call

def handleAll (call : CallState) (events : List CallEvent) : CallState :=
  events.foldl handle call

end CallState

end Egrpc
