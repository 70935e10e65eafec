import Egrpc.RequestHeaders
import Egrpc.TlsSocket

/-!
# The HTTP/2 session

`Http2Session` is a thin layer over nghttp2: it registers streams, turns
nghttp2's callbacks into calls of the streams' hooks, buffers output, and runs
the keepalive clock.  nghttp2 itself is outside the program: `NgEnv` holds the
answers of its functions, each with the callbacks that nghttp2 makes before it
answers.

Hooks are closures in the source.  Here a hook is a label of an arbitrary type,
and an operation returns the hook calls it makes, in order.  No hook calls back
into the session, so its owner may perform them when the operation returns.
-/

namespace Egrpc

def milliseconds (count : Int) : Int :=
  count * 1000000

/-! ## nghttp2 -/

/-- A received frame, as far as `OnFrameRecv` looks at it. -/
inductive NgFrame
  /-- `response` says that this is the stream's first HEADERS block. -/
  | headers (streamId : Int) (response endStream : Bool)
  | settings (ack : Bool)
  | ping (ack : Bool)
  | goaway (errorCode : Nat) (lastStreamId : Int) (opaqueData : Option Bytes)
  | other
  deriving DecidableEq

/-- The calls nghttp2 makes into the session. -/
inductive NgCallback
  | onFrameRecv (frame : NgFrame)
  /-- `headersFrame` says that the header belongs to a HEADERS frame. -/
  | onHeader (headersFrame : Bool) (streamId : Int) (name value : Bytes)
  | onDataChunkRecv (streamId : Int) (data : Bytes)
  | onStreamClose (streamId : Int) (errorCode : Nat)
  | dataSourceRead (streamId : Int) (length : Nat)
  deriving DecidableEq

/-- One answer of `nghttp2_session_mem_send`: a chunk, empty when there is
nothing to send, or an error code. -/
structure MemSend where
  callbacks : List NgCallback := []
  chunk : Except Int Bytes := .ok []

/-- One answer of `nghttp2_session_mem_recv`. -/
structure MemRecv where
  callbacks : List NgCallback := []
  rc : Int := 0

/-- What the session hands to nghttp2.  The body of a request is what the data
source of its stream holds; a PING is noted with nghttp2's answer. -/
inductive NgCall
  | submitSettings (entries : List (Nat × Nat))
  | setLocalWindowSize (streamId : Int) (window : Nat)
  | submitRequest (headers : HeaderList) (body : Bytes)
  | submitPing (opaqueData : Bytes) (rc : Int)
  | memRecv (data : Bytes)
  | terminateSession
  deriving DecidableEq

def NGHTTP2_ERR_STREAM_ID_NOT_AVAILABLE : Int := -509

/-- The answers of nghttp2.  It never returns the same stream id twice:
`issued` holds the ids returned so far. -/
structure NgEnv where
  /-- Return codes of the calls that set a session up. -/
  setups : List Int := []
  /-- Return values of `nghttp2_submit_request`: a stream id or an error. -/
  submitRequests : List Int := []
  memSends : List MemSend := []
  memRecvs : List MemRecv := []
  submitPings : List Int := []
  wantWrites : List Bool := []
  issued : List Int := []
  calls : List NgCall := []
  fresh : (issued ++ submitRequests.filter (0 ≤ ·)).Nodup := by decide

def NgEnv.log (env : NgEnv) (call : NgCall) : NgEnv :=
  { env with calls := env.calls ++ [call] }

/-- The return code of a set-up call. -/
def NgEnv.setupReturn (env : NgEnv) : Int × NgEnv :=
  let answer := takeAnswer 0 env.setups
  (answer.1, { env with setups := answer.2 })

/-- The answer of `nghttp2_submit_request`; a stream id counts as issued from
then on. -/
def NgEnv.submitRequest (env : NgEnv) (headers : HeaderList) (body : Bytes) :
    Int × NgEnv :=
  let env := env.log (.submitRequest headers body)
  match requests : env.submitRequests with
  | [] => (NGHTTP2_ERR_STREAM_ID_NOT_AVAILABLE, env)
  | answer :: rest =>
      (answer,
        { env with
          submitRequests := rest
          issued := env.issued ++ [answer].filter (0 ≤ ·)
          fresh := by
            have nodup := env.fresh
            rw [requests, ← List.singleton_append, List.filter_append,
              ← List.append_assoc] at nodup
            exact nodup })

def NgEnv.submitPing (env : NgEnv) (opaqueData : Bytes) : Int × NgEnv :=
  let answer := takeAnswer 0 env.submitPings
  (answer.1,
    { env.log (.submitPing opaqueData answer.1) with submitPings := answer.2 })

/-! ## Streams and hooks -/

/-- The owner's hooks for one stream; an absent hook is not called. -/
structure StreamHooks (Hook : Type) where
  onResponseHeaders : Option Hook := none
  onTrailers : Option Hook := none
  onData : Option Hook := none
  onClose : Option Hook := none
  deriving DecidableEq

/-- Which of the session-wide hooks are set. -/
structure Http2Session.Hooks where
  onRemoteSettings : Bool := false
  onSettingsAck : Bool := false
  onPingAck : Bool := false
  onGoaway : Bool := false
  deriving DecidableEq

inductive HookCall (Hook : Type)
  | responseHeaders (hook : Hook) (headers : HeaderList) (endStream : Bool)
  | trailers (hook : Hook) (headers : HeaderList)
  | data (hook : Hook) (bytes : Bytes)
  | close (hook : Hook) (errorCode : Nat)
  | remoteSettings
  | settingsAck
  | pingAck
  | goaway (errorCode : Nat) (lastStreamId : Int) (tooManyPings : Bool)
  deriving DecidableEq

structure Http2Session.Stream (Hook : Type) where
  hooks : StreamHooks Hook
  body : Bytes
  bodyOffset : Nat := 0
  pendingHeaders : HeaderList := []

/-- `DataSourceRead`: the next bytes of the body, and whether they are the
last. -/
def Http2Session.Stream.dataSourceRead {Hook : Type}
    (stream : Http2Session.Stream Hook) (length : Nat) :
    Bytes × Bool × Http2Session.Stream Hook :=
  let remaining := stream.body.length - stream.bodyOffset
  let count := min length remaining
  let bodyOffset := stream.bodyOffset + count
  ((stream.body.drop stream.bodyOffset).take count,
    decide (bodyOffset = stream.body.length),
    { stream with bodyOffset := bodyOffset })

/-! ## The session -/

/-- Session options; durations are in milliseconds. -/
structure Http2SessionOptions where
  maxConcurrentStreams : Nat := 8
  initialWindowSize : Nat := 4 * 1024 * 1024
  keepaliveTime : Int := 60000
  keepaliveTimeout : Int := 20000
  keepalivePermitWithoutCalls : Bool := true
  deriving DecidableEq

/-- What the owner does after a keepalive check. -/
inductive Http2Session.KeepaliveAction
  | none
  | pingSent
  | dead
  deriving DecidableEq, Repr

/-- The session's fields; `session` says that there is an nghttp2 session. -/
structure Http2Session (Hook : Type) where
  options : Http2SessionOptions
  hooks : Http2Session.Hooks
  session : Bool := false
  error : Bytes := []
  out : Bytes := []
  outConsumed : Nat := 0
  lastRead : Int
  pingSent : Int := 0
  pingOutstanding : Bool := false
  pingCounter : Nat := 0
  pingsAcked : Nat := 0
  activeStreams : Int := 0
  streams : AList (fun _ : Int => Http2Session.Stream Hook) := ∅
  draining : Bool := false
  tooManyPings : Bool := false

def NGHTTP2_ENHANCE_YOUR_CALM : Nat := 0xb

namespace Http2Session

variable {Hook : Type}

/-! ### Callbacks -/

/-- The end of a HEADERS frame delivers the headers gathered for it. -/
def onHeadersFrame (session : Http2Session Hook) (streamId : Int)
    (response endStream : Bool) : Http2Session Hook × List (HookCall Hook) :=
  match session.streams.lookup streamId with
  | .none => (session, [])
  | .some stream =>
      let headers := stream.pendingHeaders
      ({ session with
          streams := session.streams.insert streamId
            { stream with pendingHeaders := [] } },
        if response then
          (stream.hooks.onResponseHeaders.map
            (.responseHeaders · headers endStream)).toList
        else (stream.hooks.onTrailers.map (.trailers · headers)).toList)

/-- A GOAWAY is the one that complains about keepalive pings. -/
def isTooManyPings (errorCode : Nat) (opaqueData : Option Bytes) : Bool :=
  decide (errorCode = NGHTTP2_ENHANCE_YOUR_CALM) &&
    opaqueData == some (Bytes.ofString "too_many_pings")

def onFrameRecv (session : Http2Session Hook) :
    NgFrame → Http2Session Hook × List (HookCall Hook)
  | .headers streamId response endStream =>
      session.onHeadersFrame streamId response endStream
  | .settings true =>
      (session, if session.hooks.onSettingsAck then [.settingsAck] else [])
  | .settings false =>
      (session, if session.hooks.onRemoteSettings then [.remoteSettings] else [])
  | .ping true =>
      ({ session with
          pingOutstanding := false
          pingsAcked := session.pingsAcked + 1 },
        if session.hooks.onPingAck then [.pingAck] else [])
  | .ping false => (session, [])
  | .goaway errorCode lastStreamId opaqueData =>
      let tooManyPings := isTooManyPings errorCode opaqueData
      ({ session with draining := true, tooManyPings := tooManyPings },
        if session.hooks.onGoaway then
          [.goaway errorCode lastStreamId tooManyPings]
        else [])
  | .other => (session, [])

def onHeader (session : Http2Session Hook) (headersFrame : Bool)
    (streamId : Int) (name value : Bytes) : Http2Session Hook :=
  if headersFrame = false then session
  else
    match session.streams.lookup streamId with
    | .none => session
    | .some stream =>
        { session with
          streams := session.streams.insert streamId
            { stream with
              pendingHeaders := stream.pendingHeaders ++ [(name, value)] } }

def onDataChunkRecv (session : Http2Session Hook) (streamId : Int)
    (data : Bytes) : List (HookCall Hook) :=
  match session.streams.lookup streamId with
  | .none => []
  | .some stream => (stream.hooks.onData.map (.data · data)).toList

/-- A stream closed; it is unregistered before its hook is called. -/
def onStreamClose (session : Http2Session Hook) (streamId : Int)
    (errorCode : Nat) : Http2Session Hook × List (HookCall Hook) :=
  match session.streams.lookup streamId with
  | .none => (session, [])
  | .some stream =>
      ({ session with
          streams := session.streams.erase streamId
          activeStreams := session.activeStreams - 1 },
        (stream.hooks.onClose.map (.close · errorCode)).toList)

/-- nghttp2 asks for body bytes. -/
def onDataSourceRead (session : Http2Session Hook) (streamId : Int)
    (length : Nat) : Http2Session Hook :=
  match session.streams.lookup streamId with
  | .none => session
  | .some stream =>
      { session with
        streams := session.streams.insert streamId
          (stream.dataSourceRead length).2.2 }

def callback (session : Http2Session Hook) :
    NgCallback → Http2Session Hook × List (HookCall Hook)
  | .onFrameRecv frame => session.onFrameRecv frame
  | .onHeader headersFrame streamId name value =>
      (session.onHeader headersFrame streamId name value, [])
  | .onDataChunkRecv streamId data =>
      (session, session.onDataChunkRecv streamId data)
  | .onStreamClose streamId errorCode =>
      session.onStreamClose streamId errorCode
  | .dataSourceRead streamId length =>
      (session.onDataSourceRead streamId length, [])

def runCallbacks (session : Http2Session Hook) :
    List NgCallback → Http2Session Hook × List (HookCall Hook)
  | [] => (session, [])
  | event :: events =>
      let first := session.callback event
      let rest := first.1.runCallbacks events
      (rest.1, first.2 ++ rest.2)

/-! ### Keepalive -/

/-- When the keepalive timer should fire next. -/
def nextKeepaliveDeadline (session : Http2Session Hook) : Option Int :=
  if session.session = false then .none
  else if session.options.keepalivePermitWithoutCalls = false ∧
      session.activeStreams = 0 then .none
  else if session.pingOutstanding then
    .some (session.pingSent + milliseconds session.options.keepaliveTimeout)
  else .some (session.lastRead + milliseconds session.options.keepaliveTime)

/-- The opaque data of a PING: the counter as eight big-endian bytes. -/
def pingOpaque (counter : Nat) : Bytes :=
  (List.range 8).map fun i => (counter >>> (56 - 8 * i)).toUInt8

/-- Register a stream; `emplace` leaves an entry that exists. -/
def register (session : Http2Session Hook) (streamId : Int)
    (stream : Stream Hook) : Http2Session Hook :=
  { session with
    streams := if streamId ∈ session.streams then session.streams
      else session.streams.insert streamId stream
    activeStreams := session.activeStreams + 1 }

/-- Received bytes count as a sign of life. -/
def noteRead (session : Http2Session Hook) (now : Int) (data : Bytes) :
    Http2Session Hook :=
  if data ≠ [] then { session with lastRead := now } else session

def clearOutput (session : Http2Session Hook) : Http2Session Hook :=
  { session with out := [], outConsumed := 0 }

/-- Bytes produced by nghttp2 and not yet written. -/
def unsent (session : Http2Session Hook) : Bytes :=
  session.out.drop session.outConsumed

/-- Mark the first bytes of the pending output as written. -/
def consumeOutput (session : Http2Session Hook) (count : Nat) :
    Http2Session Hook :=
  { session with
    outConsumed := min (session.outConsumed + count) session.out.length }

end Http2Session

/-! ## Operations that ask nghttp2 -/

/-- A session together with the nghttp2 it talks to. -/
structure SessionIo (Hook : Type) where
  session : Http2Session Hook
  env : NgEnv

namespace SessionIo

variable {Hook : Type}

/-- Set the session's error text to a label and nghttp2's words for a code. -/
def setError (platform : Platform) (io : SessionIo Hook) (label : Bytes)
    (code : Int) : SessionIo Hook :=
  { io with session.error := label ++ platform.nghttp2Strerror code }

def new (platform : Platform) (options : Http2SessionOptions)
    (hooks : Http2Session.Hooks) (now : Int) (env : NgEnv) : SessionIo Hook :=
  let session : Http2Session Hook :=
    { options := options, hooks := hooks, lastRead := now }
  let callbacks := env.setupReturn
  if callbacks.1 ≠ 0 then
    { session := { session with
        error := Bytes.ofString "nghttp2_session_callbacks_new failed" }
      env := callbacks.2 }
  else
    let created := callbacks.2.setupReturn
    if created.1 ≠ 0 then
      setError platform ⟨session, created.2⟩
        (Bytes.ofString "nghttp2_session_client_new failed: ") created.1
    else
      -- Maximum concurrent streams, initial window size, push disabled.
      let entries := [(3, options.maxConcurrentStreams),
        (4, options.initialWindowSize), (2, 0)]
      let settings := (created.2.log (.submitSettings entries)).setupReturn
      if settings.1 ≠ 0 then
        setError platform ⟨session, settings.2⟩
          (Bytes.ofString "nghttp2_submit_settings failed: ") settings.1
      else
        let window := (settings.2.log (.setLocalWindowSize 0
          (min options.initialWindowSize 2147483647))).setupReturn
        if window.1 ≠ 0 then
          setError platform ⟨session, window.2⟩
            (Bytes.ofString "nghttp2_session_set_local_window_size failed: ")
            window.1
        else ⟨{ session with session := true }, window.2⟩

/-- Feed received bytes.  False on a fatal session error. -/
def receiveBytes (platform : Platform) (now : Int) (data : Bytes)
    (io : SessionIo Hook) : Bool × List (HookCall Hook) × SessionIo Hook :=
  if io.session.session = false then (false, [], io)
  else
    let answer := takeAnswer {} io.env.memRecvs
    let env := { io.env.log (.memRecv data) with memRecvs := answer.2 }
    let ran := (io.session.noteRead now data).runCallbacks answer.1.callbacks
    if answer.1.rc < 0 then
      (false, ran.2, setError platform ⟨ran.1, env⟩
        (Bytes.ofString "nghttp2 receive error: ") answer.1.rc)
    else (true, ran.2, ⟨ran.1, env⟩)

/-- Submit a unary request: the stream id, or -1. -/
def submitUnaryRequest (platform : Platform) (headers : HeaderList)
    (body : Bytes) (hooks : StreamHooks Hook) (io : SessionIo Hook) :
    Int × SessionIo Hook :=
  if io.session.session = false then
    (-1, { io with session.error := Bytes.ofString "session not initialized" })
  else if io.session.draining then
    (-1, { io with
      session.error :=
        Bytes.ofString "session is draining (GOAWAY received); no new streams" })
  else
    let answer := io.env.submitRequest headers body
    if answer.1 < 0 then
      (-1, setError platform ⟨io.session, answer.2⟩
        (Bytes.ofString "nghttp2_submit_request failed: ") answer.1)
    else
      (answer.1,
        ⟨io.session.register answer.1 { hooks := hooks, body := body }, answer.2⟩)

/-- The loop that refills the output buffer, over the answers nghttp2 will
give.  False on a send error. -/
def refill (platform : Platform) :
    List MemSend → Http2Session Hook →
      Bool × List (HookCall Hook) × Http2Session Hook × List MemSend
  | [], session => (true, [], session, [])
  | answer :: answers, session =>
      let ran := session.runCallbacks answer.callbacks
      match answer.chunk with
      | .error code =>
          (false, ran.2,
            { ran.1 with error := Bytes.ofString "nghttp2 send error: " ++
                platform.nghttp2Strerror code },
            answers)
      | .ok [] => (true, ran.2, ran.1, answers)
      | .ok chunk =>
          let rest := refill platform answers
            { ran.1 with out := ran.1.out ++ chunk }
          (rest.1, ran.2 ++ rest.2.1, rest.2.2)

/-- Refill the output buffer from the start. -/
def refillOutput (platform : Platform) (io : SessionIo Hook) :
    Bool × List (HookCall Hook) × SessionIo Hook :=
  let filled := refill platform io.env.memSends io.session.clearOutput
  (filled.1, filled.2.1, ⟨filled.2.2.1, { io.env with memSends := filled.2.2.2 }⟩)

/-- The bytes to write next, none for a null view.  The buffer is refilled only
once it has been written out. -/
def pendingOutput (platform : Platform) (io : SessionIo Hook) :
    Option Bytes × List (HookCall Hook) × SessionIo Hook :=
  if io.session.session = false then (none, [], io)
  else if io.session.out.length ≤ io.session.outConsumed then
    let filled := io.refillOutput platform
    let io := filled.2.2
    if filled.1 = false ∨ io.session.out.length ≤ io.session.outConsumed then
      (none, filled.2.1, io)
    else (some io.session.unsent, filled.2.1, io)
  else (some io.session.unsent, [], io)

/-- The session has output, or nghttp2 may produce some. -/
def wantWrite (io : SessionIo Hook) : Bool × SessionIo Hook :=
  if io.session.outConsumed < io.session.out.length then (true, io)
  else if io.session.session = false then (false, io)
  else
    let answer := takeAnswer false io.env.wantWrites
    (answer.1, { io with env.wantWrites := answer.2 })

def submitPing (platform : Platform) (now : Int) (io : SessionIo Hook) :
    Http2Session.KeepaliveAction × SessionIo Hook :=
  let counter := (io.session.pingCounter + 1) % 2 ^ 64
  let answer := io.env.submitPing (Http2Session.pingOpaque counter)
  let io : SessionIo Hook :=
    { session := { io.session with pingCounter := counter }, env := answer.2 }
  if answer.1 ≠ 0 then
    (.none, setError platform io
      (Bytes.ofString "nghttp2_submit_ping failed: ") answer.1)
  else
    (.pingSent,
      { io with session.pingSent := now, session.pingOutstanding := true })

def checkKeepalive (platform : Platform) (now : Int) (io : SessionIo Hook) :
    Http2Session.KeepaliveAction × SessionIo Hook :=
  if io.session.session = false then (.none, io)
  else
    let io : SessionIo Hook :=
      if io.session.pingOutstanding = true ∧
          io.session.pingSent ≤ io.session.lastRead then
        { io with session.pingOutstanding := false }
      else io
    if io.session.pingOutstanding then
      if milliseconds io.session.options.keepaliveTimeout ≤
          now - io.session.pingSent then (.dead, io)
      else (.none, io)
    else if io.session.options.keepalivePermitWithoutCalls = false ∧
        io.session.activeStreams = 0 then (.none, io)
    else if milliseconds io.session.options.keepaliveTime ≤
        now - io.session.lastRead then submitPing platform now io
    else (.none, io)

def terminate (io : SessionIo Hook) : SessionIo Hook :=
  if io.session.session = false then io
  else
    { session := { io.session with draining := true }
      env := io.env.log .terminateSession }

end SessionIo

end Egrpc
