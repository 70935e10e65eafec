import Egrpc.CallState
import Egrpc.Http2Session
import Egrpc.Support.BoundedLoop
import Egrpc.Support.Runs

/-!
# The channel

`ChannelImpl` owns one connection and the calls on it.  It connects on the
first call, queues calls while connecting, submits them to the session once the
connection is up, and fails every call when the transport fails or the channel
shuts down.

Everything here runs on the channel's event thread.  A `World` is the channel,
what it has registered with the event thread, the calls, and the answers of
everything outside the program.  Each event-thread callback is a function from
a world to the world it leaves behind.
-/

namespace Egrpc

/-! ## Data -/

/-- Channel options; the connect timeout is in milliseconds. -/
structure ChannelOptions where
  http2 : Http2SessionOptions := {}
  maxReceiveMessageSize : Nat := 4 * 1024 * 1024
  maxSendMessageSize : Nat := 2 ^ 64 - 1
  connectTimeout : Int := 20000
  userAgentPrefix : Bytes := []

/-- The constant members of a channel. -/
structure ChannelConfig where
  host : Bytes
  port : Nat
  tls : TlsConfig := {}
  options : ChannelOptions := {}

/-- The `:authority` of the channel; IPv6 literals are bracketed again. -/
def ChannelConfig.authority (config : ChannelConfig) : Bytes :=
  (if ':'.toUInt8 ∈ config.host then
    Bytes.ofString "[" ++ config.host ++ Bytes.ofString "]" else config.host) ++
  Bytes.ofString ":" ++ Bytes.decimal config.port

inductive ChannelImpl.State
  | idle
  | connecting
  | ready
  | failed
  | shutdown
  deriving DecidableEq, Repr

/-- The position of a state in the order in which a channel passes through
them. -/
def ChannelImpl.State.rank : ChannelImpl.State → Nat
  | .idle => 0
  | .connecting => 1
  | .ready => 2
  | .failed => 3
  | .shutdown => 4

/-- A call on its way to the session.  Calls are named by numbers, as the
source names them by the addresses of their `CallState`s. -/
structure PendingCall where
  call : Nat
  methodPath : Bytes := []
  framedBody : Bytes := []
  metadata : HeaderList := []
  timeout : Option Int := none

/-- The members of a channel that its event thread owns. -/
structure ChannelImpl where
  state : ChannelImpl.State := .idle
  sock : TlsSocket := {}
  h2 : Option (Http2Session Nat) := none
  connectTimer : Nat := 0
  keepaliveTimer : Nat := 0
  pendingCalls : List PendingCall := []
  /-- The keys of the map of active calls. -/
  activeCalls : List Nat := []
  failureDetail : Bytes := []

/-- All calls, and those the channel holds as active: what the hooks of the
streams act on. -/
structure CallTable where
  calls : Nat → CallState
  activeCalls : List Nat

namespace CallTable

def deliver (table : CallTable) (call : Nat) (event : CallEvent) : CallTable :=
  { table with
    calls := Function.update table.calls call ((table.calls call).handle event) }

/-- The hooks of a call's stream; closing also drops the channel's reference to
the call.  The session-wide hooks do nothing. -/
def hook (table : CallTable) : HookCall Nat → CallTable
  | .responseHeaders call headers endStream =>
      table.deliver call (.stream (.responseHeaders headers endStream))
  | .trailers call headers => table.deliver call (.stream (.trailers headers))
  | .data call bytes => table.deliver call (.stream (.data bytes))
  | .close call errorCode =>
      { table.deliver call (.close errorCode) with
        activeCalls := table.activeCalls.filter (· ≠ call) }
  | .remoteSettings | .settingsAck | .pingAck | .goaway _ _ _ => table

/-- Hold a call as active; `emplace` leaves an entry that exists. -/
def activate (table : CallTable) (call : Nat) : CallTable :=
  { table with
    activeCalls := if call ∈ table.activeCalls then table.activeCalls
      else table.activeCalls ++ [call] }

def hooks (table : CallTable) (hookCalls : List (HookCall Nat)) : CallTable :=
  hookCalls.foldl hook table

end CallTable

/-- The timer callbacks a channel registers. -/
inductive TimerCallback
  | connectTimeout
  | keepalive
  deriving DecidableEq, Repr

/-- The pairs of poll-mask and readiness callbacks a channel registers. -/
inductive Watch
  | connectProgress
  | socketReady
  deriving DecidableEq, Repr

/-- What the string reference given to `TearDown` refers to. -/
inductive Detail
  /-- The error text inside the session. -/
  | session
  /-- The error text inside the socket. -/
  | socket
  /-- A string that outlives the call. -/
  | temporary (text : Bytes)
  deriving DecidableEq

/-- Undefined behaviour of the source. -/
inductive Fault
  /-- The session pointer was null when it was followed. -/
  | nullSession
  /-- The detail was read after the object holding it was destroyed. -/
  | danglingDetail
  deriving DecidableEq, Repr

/-- A record of one `TearDown` that took effect: its argument, the text the
argument referred to, and the calls the channel held. -/
structure TearDownCall where
  detail : Detail
  text : Option Bytes
  active : List Nat
  pending : List Nat
  deriving DecidableEq

/-- The calls that a `TearDown` found. -/
def TearDownCall.found (record : TearDownCall) : List Nat :=
  record.active ++ record.pending

/-- A channel with its surroundings. -/
structure World extends ChannelImpl where
  /-- The event thread's timers and its watched descriptor. -/
  timers : TimerHeap TimerCallback := {}
  watchedFd : Int := -1
  watch : Option Watch := none
  calls : Nat → CallState
  /-- The outside: the network and OpenSSL, nghttp2, the monotonic clock with
  how far it moves between two readings, and what freed memory holds. -/
  tls : TlsEnv := {}
  ng : NgEnv := {}
  now : Int := 0
  ticks : List Nat := []
  freed : List Bytes := []
  /-- History: the calls whose operation has run, the teardowns, and the
  faults. -/
  handled : List Nat := []
  tearDowns : List TearDownCall := []
  faults : List Fault := []

namespace World

/-! ## Primitives -/

def readClock (w : World) : Int × World :=
  let tick := takeAnswer 0 w.ticks
  (w.now + tick.1, { w with now := w.now + tick.1, ticks := tick.2 })

def fault (w : World) (kind : Fault) : World :=
  { w with faults := w.faults ++ [kind] }

def table (w : World) : CallTable where
  calls := w.calls
  activeCalls := w.activeCalls

def withTable (w : World) (table : CallTable) : World :=
  { w with calls := table.calls, activeCalls := table.activeCalls }

def withSession (w : World) (io : SessionIo Nat) : World :=
  { w with h2 := some io.session, ng := io.env }

def deliver (w : World) (call : Nat) (event : CallEvent) : World :=
  w.withTable (w.table.deliver call event)

/-- The event thread schedules a callback. -/
def addTimer (platform : Platform) (delay : Int) (callback : TimerCallback)
    (w : World) : Nat × World :=
  let clock := w.readClock
  let added := clock.2.timers.add platform.timerAlgorithms (clock.1 + delay) callback
  (added.1, { clock.2 with timers := added.2 })

def watchFd (fd : Int) (watch : Watch) (w : World) : World :=
  { w with watchedFd := fd, watch := some watch }

def unwatchFd (w : World) : World :=
  { w with watchedFd := -1, watch := none }

def onSocket {Answer : Type} (operation : TlsIo → Answer × TlsIo) (w : World) :
    Answer × World :=
  let done := operation ⟨w.sock, w.tls⟩
  (done.1, { w with sock := done.2.sock, tls := done.2.env })

def closeSocket (w : World) : World :=
  (w.onSocket fun io => ((), io.close)).2

/-- `MakeStreamHooks`, with the channel's wrapper around the closing hook. -/
def makeStreamHooks (call : Nat) : StreamHooks Nat where
  onResponseHeaders := some call
  onTrailers := some call
  onData := some call
  onClose := some call

/-- Follow the session pointer, operate on the session, and perform the hook
calls that the operation makes. -/
def onSession {Answer : Type} (missing : Answer)
    (operation : SessionIo Nat → Answer × List (HookCall Nat) × SessionIo Nat)
    (w : World) : Answer × World :=
  match w.h2 with
  | none => (missing, w.fault .nullSession)
  | some session =>
      let done := operation ⟨session, w.ng⟩
      (done.1, (w.withSession done.2.2).withTable (w.table.hooks done.2.1))

/-- `onSession` for an operation that calls no hook. -/
def onSessionQuietly {Answer : Type} (missing : Answer)
    (operation : SessionIo Nat → Answer × SessionIo Nat) (w : World) :
    Answer × World :=
  w.onSession missing fun io => ((operation io).1, [], (operation io).2)

def peek {Answer : Type} (missing : Answer) (query : Http2Session Nat → Answer)
    (w : World) : Answer × World :=
  w.onSessionQuietly missing fun io => (query io.session, io)

/-- What a detail refers to, if the object holding it still exists. -/
def resolve (w : World) : Detail → Option Bytes
  | .session => w.h2.map Http2Session.error
  | .socket => some w.sock.error
  | .temporary text => some text

/-- Read a detail.  Reading freed memory yields any bytes. -/
def readDetail (detail : Detail) (w : World) : Bytes × World :=
  match w.resolve detail with
  | some text => (text, w)
  | none =>
      let garbage := takeAnswer [] w.freed
      (garbage.1, { w with freed := garbage.2 }.fault .danglingDetail)

/-! ## Ending -/

def failCall (message : Bytes) (w : World) (call : Nat) : World :=
  w.deliver call (.failLocal .unavailable message)

def failCallWith (detail : Detail) (w : World) (call : Nat) : World :=
  let text := w.readDetail detail
  text.2.failCall text.1 call

/-- Empty both collections and fail every call in them. -/
def failAllCalls (fail : World → Nat → World) (w : World) : World :=
  let active := w.activeCalls
  let w := active.foldl fail { w with activeCalls := [] }
  let pending := w.pendingCalls.map PendingCall.call
  pending.foldl fail { w with pendingCalls := [] }

def cancelConnectTimer (w : World) : World :=
  { w with timers := w.timers.cancelNamed w.connectTimer, connectTimer := 0 }

def cancelKeepaliveTimer (w : World) : World :=
  { w with timers := w.timers.cancelNamed w.keepaliveTimer, keepaliveTimer := 0 }

def cancelTimersAndUnwatch (w : World) : World :=
  w.cancelConnectTimer.cancelKeepaliveTimer.unwatchFd

def resetSession (w : World) : World :=
  { w with h2 := none }

def tearDownCall (w : World) (detail : Detail) : TearDownCall where
  detail := detail
  text := w.resolve detail
  active := w.activeCalls
  pending := w.pendingCalls.map PendingCall.call

/-- Enter the failed state and keep the detail for later calls. -/
def recordFailure (detail : Detail) (w : World) : World :=
  let text := readDetail detail
    { w with
      state := .failed
      tearDowns := w.tearDowns ++ [w.tearDownCall detail] }
  { text.2 with failureDetail := text.1 }

/-- Terminal transport failure. -/
def tearDown (detail : Detail) (w : World) : World :=
  if w.state = .failed ∨ w.state = .shutdown then w
  else
    let w := w.recordFailure detail
    let w := w.cancelTimersAndUnwatch.closeSocket.resetSession
    w.failAllCalls (failCallWith detail)

/-! ## Moving bytes -/

def pendingOutput (platform : Platform) (w : World) : Option Bytes × World :=
  w.onSession none (SessionIo.pendingOutput platform)

def consumeOutput (count : Nat) (w : World) : World :=
  (w.onSessionQuietly () fun io =>
    ((), { io with session := io.session.consumeOutput count })).2

def receiveBytes (platform : Platform) (data : Bytes) (w : World) : Bool × World :=
  let clock := w.readClock
  clock.2.onSession false (SessionIo.receiveBytes platform clock.1 data)

/-- There is no more output; an error text means that the session failed. -/
def outputDrained (w : World) : World :=
  let error := w.peek [] Http2Session.error
  if error.1 ≠ [] then error.2.tearDown .session else error.2

def afterWrite (wrote : (IoStatus × Nat) × World) : BoundedLoop.Round World :=
  match wrote.1.1 with
  | .ok => .again (wrote.2.consumeOutput wrote.1.2)
  | .wantWrite | .wantRead => .leave wrote.2
  | .eof | .error => .leave (wrote.2.tearDown .socket)

def flushRound (platform : Platform) (w : World) : BoundedLoop.Round World :=
  if w.state ≠ .ready then .leave w
  else
    let output := w.pendingOutput platform
    match output.1 with
    | none | some [] => .leave output.2.outputDrained
    | some data => afterWrite (output.2.onSocket (TlsIo.write platform data))

def drainRound (platform : Platform) (w : World) : BoundedLoop.Round World :=
  if w.state ≠ .ready then .leave w
  else
    let got := w.onSocket (TlsIo.read platform 16384)
    match got.1.1 with
    | .ok =>
        let received := got.2.receiveBytes platform got.1.2
        if received.1 then .again received.2
        else .leave (received.2.tearDown .session)
    | .wantRead | .wantWrite => .leave got.2
    | .eof =>
        .leave (got.2.tearDown
          (.temporary (Bytes.ofString "connection closed by server")))
    | .error => .leave (got.2.tearDown .socket)

/-- One round of the flush in `DoShutdown`. -/
def farewellRound (platform : Platform) (w : World) : BoundedLoop.Round World :=
  let output := w.pendingOutput platform
  match output.1 with
  | none | some [] => .leave output.2
  | some data =>
      let wrote := output.2.onSocket (TlsIo.write platform data)
      if wrote.1.1 ≠ .ok then .leave wrote.2
      else .again (wrote.2.consumeOutput wrote.1.2)

/-! ### The loops end

Each further round has used up an answer of the socket. -/

theorem onSession_tls {Answer : Type} (missing : Answer)
    (operation : SessionIo Nat → Answer × List (HookCall Nat) × SessionIo Nat)
    (w : World) : (w.onSession missing operation).2.tls = w.tls := by
  unfold onSession
  split <;> rfl

@[simp]
theorem pendingOutput_tls (platform : Platform) (w : World) :
    (w.pendingOutput platform).2.tls = w.tls :=
  onSession_tls _ _ _

@[simp]
theorem consumeOutput_tls (count : Nat) (w : World) :
    (w.consumeOutput count).tls = w.tls :=
  onSession_tls _ _ _

@[simp]
theorem receiveBytes_tls (platform : Platform) (data : Bytes) (w : World) :
    (w.receiveBytes platform data).2.tls = w.tls :=
  onSession_tls _ _ _

theorem flushRound_shrinks (platform : Platform) (w w' : World)
    (again : flushRound platform w = .again w') :
    w'.tls.writes.length < w.tls.writes.length := by
  unfold flushRound afterWrite at again
  split_ifs at again
  simp only at again
  split at again
  · cases again
  · cases again
  · split at again
    · rename_i wrote
      cases again
      rw [consumeOutput_tls, ← pendingOutput_tls platform w]
      exact (TlsIo.write_frame platform _ _).2.2 wrote
    all_goals cases again

theorem drainRound_shrinks (platform : Platform) (w w' : World)
    (again : drainRound platform w = .again w') :
    w'.tls.reads.length < w.tls.reads.length := by
  unfold drainRound at again
  split_ifs at again
  simp only at again
  split at again
  · rename_i got
    split_ifs at again
    cases again
    rw [receiveBytes_tls]
    exact (TlsIo.read_frame platform 16384 _).2.2 got
  all_goals cases again

theorem farewellRound_shrinks (platform : Platform) (w w' : World)
    (again : farewellRound platform w = .again w') :
    w'.tls.writes.length < w.tls.writes.length := by
  unfold farewellRound at again
  simp only at again
  split at again
  · cases again
  · cases again
  · split_ifs at again with wrote
    cases again
    rw [consumeOutput_tls, ← pendingOutput_tls platform w]
    exact (TlsIo.write_frame platform _ _).2.2 (not_not.mp wrote)

/-- `FlushOutput`. -/
def flushLoop (platform : Platform) : BoundedLoop World where
  body := flushRound platform
  left w := w.tls.writes.length
  shrinks := flushRound_shrinks platform

@[inherit_doc flushLoop]
def flushOutput (platform : Platform) (w : World) : World :=
  (flushLoop platform).run w

/-- `DrainSocket`. -/
def drainLoop (platform : Platform) : BoundedLoop World where
  body := drainRound platform
  left w := w.tls.reads.length
  shrinks := drainRound_shrinks platform

@[inherit_doc drainLoop]
def drainSocket (platform : Platform) (w : World) : World :=
  (drainLoop platform).run w

/-- The flush in `DoShutdown`. -/
def farewellLoop (platform : Platform) : BoundedLoop World where
  body := farewellRound platform
  left w := w.tls.writes.length
  shrinks := farewellRound_shrinks platform

@[inherit_doc farewellLoop]
def farewell (platform : Platform) (w : World) : World :=
  (farewellLoop platform).run w

/-- Do something if the channel is still ready. -/
def whenReady (action : World → World) (w : World) : World :=
  if w.state = .ready then action w else w

/-! ## Keepalive -/

/-- Replace the keepalive timer by one for the current deadline. -/
def rearmKeepalive (platform : Platform) (w : World) : World :=
  if w.state ≠ .ready ∨ w.h2.isNone then w
  else
    let clock := w.cancelKeepaliveTimer.readClock
    let deadline := clock.2.peek none Http2Session.nextKeepaliveDeadline
    match deadline.1 with
    | none => deadline.2
    | some due =>
        let clock := deadline.2.readClock
        let added := clock.2.addTimer platform (due - clock.1) .keepalive
        { added.2 with keepaliveTimer := added.1 }

def checkKeepalive (platform : Platform) (w : World) :
    Http2Session.KeepaliveAction × World :=
  let clock := w.readClock
  clock.2.onSessionQuietly .none (SessionIo.checkKeepalive platform clock.1)

def onKeepaliveTimer (platform : Platform) (w : World) : World :=
  let w := { w with keepaliveTimer := 0 }
  if w.state ≠ .ready ∨ w.h2.isNone then w
  else
    let checked := w.checkKeepalive platform
    match checked.1 with
    | .dead =>
        checked.2.tearDown (.temporary (Bytes.ofString
          "keepalive timeout: no reads from server within keepalive_timeout"))
    | .pingSent | .none => (checked.2.flushOutput platform).rearmKeepalive platform

def onConnectTimeout (w : World) : World :=
  { w with connectTimer := 0 }.tearDown
    (.temporary (Bytes.ofString "connect timeout"))

/-! ## Calls -/

def submitRequest (platform : Platform) (config : ChannelConfig)
    (pc : PendingCall) (io : SessionIo Nat) : Int × SessionIo Nat :=
  let headers := buildRequestHeaders config.authority pc.methodPath pc.timeout
    pc.metadata config.options.userAgentPrefix
  io.submitUnaryRequest platform headers pc.framedBody (makeStreamHooks pc.call)

def submitCall (platform : Platform) (config : ChannelConfig) (w : World)
    (pc : PendingCall) : World :=
  if w.state ≠ .ready ∨ w.h2.isNone then
    w.failCall (if w.state = .failed then w.failureDetail
      else Bytes.ofString "channel is not ready") pc.call
  else
    let submitted := w.onSessionQuietly (-1) (submitRequest platform config pc)
    if submitted.1 < 0 then
      let error := submitted.2.peek [] Http2Session.error
      error.2.failCall error.1 pc.call
    else
      let w := submitted.2.deliver pc.call (.stream (.submitted submitted.1))
      w.withTable (w.table.activate pc.call)

/-- One queued call at session start. -/
def submitQueued (platform : Platform) (config : ChannelConfig) (w : World)
    (pc : PendingCall) : World :=
  if w.state ≠ .ready then w.failCall w.failureDetail pc.call
  else w.submitCall platform config pc

/-! ## Connecting -/

/-- Enter the connecting state and start the connect timer. -/
def armConnectTimer (platform : Platform) (config : ChannelConfig) (w : World) :
    World :=
  let added := { w with state := .connecting }.addTimer platform
    (milliseconds config.options.connectTimeout) .connectTimeout
  { added.2 with connectTimer := added.1 }

def startConnecting (platform : Platform) (config : ChannelConfig) (w : World) :
    World :=
  let started := (w.armConnectTimer platform config).onSocket
    (TlsIo.startConnect platform config.host config.port config.tls)
  if started.1 = false then started.2.tearDown .socket
  else started.2.watchFd started.2.sock.fd .connectProgress

def createSession (platform : Platform) (config : ChannelConfig) (w : World) :
    World :=
  let clock := w.readClock
  let io := SessionIo.new platform config.options.http2 { onGoaway := true }
    clock.1 clock.2.ng
  clock.2.withSession io

/-- Enter the ready state and send the connection preface. -/
def enterReady (platform : Platform) (w : World) : World :=
  let w := w.watchFd w.sock.fd .socketReady
  ({ w with state := .ready }.flushOutput platform).rearmKeepalive platform

def submitPending (platform : Platform) (config : ChannelConfig) (w : World) :
    World :=
  let pending := w.pendingCalls
  let w := pending.foldl (submitQueued platform config) { w with pendingCalls := [] }
  w.whenReady (flushOutput platform)

def startSession (platform : Platform) (config : ChannelConfig) (w : World) :
    World :=
  let w := w.createSession platform config
  let ok := w.peek false Http2Session.session
  if ok.1 = false then ok.2.tearDown .session
  else (ok.2.enterReady platform).submitPending platform config

def onConnectProgress (platform : Platform) (config : ChannelConfig)
    (w : World) : World :=
  let progress := w.onSocket (TlsIo.continueConnect platform)
  match progress.1 with
  | .wantRead | .wantWrite => progress.2
  | .ok => progress.2.cancelConnectTimer.startSession platform config
  | .eof | .error => progress.2.cancelConnectTimer.tearDown .socket

def drainReadable (platform : Platform) (revents : Nat) (w : World) : World :=
  if revents &&& (POLLIN ||| POLLERR ||| POLLHUP) ≠ 0 then w.drainSocket platform
  else w

def onSocketReady (platform : Platform) (revents : Nat) (w : World) : World :=
  ((w.drainReadable platform revents).whenReady (flushOutput platform)).whenReady
    (rearmKeepalive platform)

/-- Remember that a call's operation has run. -/
def recordHandled (call : Nat) (w : World) : World :=
  { w with handled := w.handled ++ [call] }

def enqueue (pc : PendingCall) (w : World) : World :=
  { w with pendingCalls := w.pendingCalls ++ [pc] }

def handleNewCall (platform : Platform) (config : ChannelConfig)
    (pc : PendingCall) (w : World) : World :=
  let w := w.recordHandled pc.call
  match w.state with
  | .shutdown => w.failCall (Bytes.ofString "channel is shut down") pc.call
  | .failed => w.failCall w.failureDetail pc.call
  | .idle => (w.enqueue pc).startConnecting platform config
  | .connecting => w.enqueue pc
  | .ready => (w.submitCall platform config pc).flushOutput platform

/-- The first half of `DoShutdown`: unblock every waiter and stop the event
thread's callbacks. -/
def beginShutdown (w : World) : World :=
  let w := { w with state := .shutdown }.failAllCalls
    (failCall (Bytes.ofString "channel is shut down"))
  w.cancelTimersAndUnwatch

def terminate (w : World) : World :=
  (w.onSessionQuietly () fun io => ((), io.terminate)).2

/-- The graceful close in `DoShutdown`: a GOAWAY and one flush. -/
def closeGracefully (platform : Platform) (w : World) : World :=
  w.terminate.farewell platform

def doShutdown (platform : Platform) (w : World) : World :=
  if w.state = .shutdown then w
  else
    let wasReady := w.state = .ready ∧ w.h2.isSome
    let w := w.beginShutdown
    let w := if wasReady then w.closeGracefully platform else w
    w.closeSocket.resetSession

/-! ## The event thread's view -/

/-- The mask the event thread polls the watched descriptor for. -/
def pollEvents (w : World) : Nat × World :=
  if w.watchedFd < 0 then (0, w)
  else
    match w.watch with
    | none => (0, w)
    | some .connectProgress => (w.sock.desiredEvents, w)
    | some .socketReady =>
        let want := w.onSessionQuietly false SessionIo.wantWrite
        (POLLIN ||| (if want.1 then POLLOUT else 0), want.2)

def onReady (platform : Platform) (config : ChannelConfig) (revents : Nat)
    (w : World) : World :=
  match w.watch with
  | none => w
  | some .connectProgress => w.onConnectProgress platform config
  | some .socketReady => w.onSocketReady platform revents

/-- One round of `RunDue`. -/
def runDue (platform : Platform) (now : Int) (w : World) : World :=
  let due := w.timers.takeDue platform.timerAlgorithms now
  let w := { w with timers := due.2 }
  match due.1 with
  | none => w
  | some (_, .connectTimeout) => w.onConnectTimeout
  | some (_, .keepalive) => w.onKeepaliveTimer platform

end World

/-- The event thread's callbacks. -/
inductive ChannelEvent
  | newCall (pc : PendingCall)
  | runDue (now : Int)
  | pollEvents
  | ready (revents : Nat)
  | shutdown

namespace World

def step (platform : Platform) (config : ChannelConfig) (w : World) :
    ChannelEvent → World
  | .newCall pc => w.handleNewCall platform config pc
  | .runDue now => w.runDue platform now
  | .pollEvents => w.pollEvents.2
  | .ready revents => w.onReady platform config revents
  | .shutdown => w.doShutdown platform

/-- A call's operation is posted once, for a call of its own; nothing else is
asked of an event. -/
def Admits (w : World) : ChannelEvent → Prop
  | .newCall pc => pc.call ∉ w.handled
  | .runDue _ | .pollEvents | .ready _ | .shutdown => True

/-- A channel as its constructor leaves it, with no call handled yet; the
outside is arbitrary.  A channel whose event thread did not start is failed
from the beginning. -/
structure Fresh (config : ChannelConfig) (w : World) : Prop where
  channel : w.toChannelImpl = {} ∨ w.toChannelImpl =
    { state := .failed
      failureDetail := Bytes.ofString "failed to start channel event thread" }
  timers : w.timers = {}
  watchedFd : w.watchedFd = -1
  watch : w.watch = none
  calls : ∀ call, w.calls call = CallState.new config.options.maxReceiveMessageSize
  issued : w.ng.issued = []
  handled : w.handled = []
  tearDowns : w.tearDowns = []
  faults : w.faults = []

/-- The worlds that a run of event-thread callbacks reaches. -/
abbrev Reachable (platform : Platform) (config : ChannelConfig) : World → Prop :=
  Runs.Reach (step platform config) Admits (Fresh config)

end World

end Egrpc
