import Egrpc.EventThread
import Egrpc.ChannelImpl

/-!
# A channel and the threads around it

Caller threads run `UnaryCall`, other threads run `Shutdown`, and the event
thread runs the loop that owns the channel.  A process is the state they share
together with where each of them stands.  One action lets one thread take its
next step; a thread that has to wait for a mutex, a promise, a result or the
loop's exit stays where it is.
-/

namespace Egrpc

/-! ## The event thread's part -/

inductive ChannelOp
  | handleNewCall (pc : PendingCall)
  /-- `DoShutdown`, and then the promise of that `Shutdown` is set. -/
  | doShutdown (shutdown : Nat)

/-- What the event thread owns: the channel, and the promises that it has
set. -/
structure ChannelOwned where
  world : World
  finished : List Nat := []

namespace ChannelOwned

def runOp (platform : Platform) (config : ChannelConfig) (op : ChannelOp)
    (owned : ChannelOwned) : ChannelOwned :=
  match op with
  | .handleNewCall pc =>
      { owned with world := owned.world.step platform config (.newCall pc) }
  | .doShutdown shutdown =>
      { world := owned.world.step platform config .shutdown
        finished := owned.finished ++ [shutdown] }

/-- The mask and the timeout for `poll`. -/
def preparePoll (platform : Platform) (owned : ChannelOwned) :
    (Option Nat × Int) × ChannelOwned :=
  let events := owned.world.pollEvents
  let clock := events.2.readClock
  let timeout := clock.2.timers.pollTimeoutMs platform.timerAlgorithms clock.1
  ((if owned.world.watchedFd < 0 then none else some events.1, timeout.1),
    { owned with world := { clock.2 with timers := timeout.2 } })

def callbacks (platform : Platform) (config : ChannelConfig) :
    EventThread.Callbacks ChannelOp ChannelOwned where
  runOp := runOp platform config
  readClock owned :=
    (owned.world.readClock.1, { owned with world := owned.world.readClock.2 })
  runDueRound now owned :=
    ((owned.world.timers.takeDue platform.timerAlgorithms now).1.isSome,
      { owned with world := owned.world.step platform config (.runDue now) })
  preparePoll := preparePoll platform
  onReady revents owned :=
    { owned with world := owned.world.step platform config (.ready revents) }

end ChannelOwned

/-! ## Caller threads -/

structure UnaryCallArguments where
  methodPath : Bytes := []
  request : Bytes := []
  metadata : HeaderList := []
  timeout : Option Int := none

/-- Where a thread stands in `UnaryCall`. -/
inductive UnaryCall
  | called (arguments : UnaryCallArguments)
  /-- The request was too large. -/
  | rejected (result : CallState.Result)
  /-- Before the critical section of `Post`. -/
  | post (pc : PendingCall)
  | notify
  /-- The operation was refused. -/
  | failLocal
  | wait
  | returned (result : CallState.Result)

/-- The call is past its `Post`. -/
def UnaryCall.PassedPost : UnaryCall → Prop
  | .notify | .failLocal | .wait | .returned _ => True
  | .called _ | .rejected _ | .post _ => False

/-- The size check of `UnaryCall`. -/
def UnaryCallArguments.check (config : ChannelConfig) (call : Nat)
    (arguments : UnaryCallArguments) : UnaryCall :=
  let size := arguments.request.length
  let limit := config.options.maxSendMessageSize
  if size > limit then
    .rejected
      { code := .resourceExhausted
        message := Bytes.ofString "Sent message larger than max (" ++
          Bytes.decimal size ++ Bytes.ofString " vs. " ++ Bytes.decimal limit ++
          Bytes.ofString ")" }
  else
    .post
      { call := call
        methodPath := arguments.methodPath
        framedBody := appendGrpcFramePrefix size [] ++ arguments.request
        metadata := arguments.metadata
        timeout := arguments.timeout }

/-- The size check refuses a request above the limit, and posts any other as its
arguments describe it. -/
theorem UnaryCallArguments.check_spec (config : ChannelConfig) (call : Nat)
    (arguments : UnaryCallArguments) :
    (config.options.maxSendMessageSize < arguments.request.length ∧
      ∃ result, arguments.check config call = .rejected result ∧
        result.code = .resourceExhausted ∧ result.response = []) ∨
    (arguments.request.length ≤ config.options.maxSendMessageSize ∧
      arguments.check config call = .post
        { call := call
          methodPath := arguments.methodPath
          framedBody :=
            appendGrpcFramePrefix arguments.request.length [] ++ arguments.request
          metadata := arguments.metadata
          timeout := arguments.timeout }) := by
  unfold UnaryCallArguments.check
  simp only
  split_ifs with above
  · exact .inl ⟨above, _, rfl, rfl, rfl⟩
  · exact .inr ⟨not_lt.mp above, rfl⟩

theorem UnaryCallArguments.above_of_check {config : ChannelConfig} {call : Nat}
    {arguments : UnaryCallArguments} {result : CallState.Result}
    (rejected : arguments.check config call = .rejected result) :
    config.options.maxSendMessageSize < arguments.request.length ∧
      result.code = .resourceExhausted ∧ result.response = [] := by
  rcases arguments.check_spec config call with ⟨above, _, check, refused⟩ | ⟨-, posts⟩
  · cases rejected.symm.trans check
    exact ⟨above, refused⟩
  · cases rejected.symm.trans posts

theorem UnaryCallArguments.eq_of_check {config : ChannelConfig} {call : Nat}
    {arguments : UnaryCallArguments} {pc : PendingCall}
    (posted : arguments.check config call = .post pc) :
    pc =
      { call := call
        methodPath := arguments.methodPath
        framedBody := appendGrpcFramePrefix arguments.request.length [] ++ arguments.request
        metadata := arguments.metadata
        timeout := arguments.timeout } := by
  rcases arguments.check_spec config call with ⟨-, _, rejected, -⟩ | ⟨-, posts⟩
  · cases posted.symm.trans rejected
  · exact UnaryCall.post.inj (posted.symm.trans posts)

/-- Where a thread stands in `Shutdown`. -/
inductive Shutdown
  | called
  /-- It holds the shutdown mutex. -/
  | locked
  | post
  | notify
  | wait
  /-- Before the critical section of `Stop`. -/
  | stop
  | stopNotify (mustJoin : Bool)
  | join
  | returned

/-- The thread is at `Stop`. -/
def Shutdown.Stopping : Shutdown → Prop
  | .stop | .stopNotify _ | .join => True
  | .called | .locked | .post | .notify | .wait | .returned => False

/-! ## The process -/

/-- A channel with its threads.  The thread of a call and the call have the same
number. -/
structure ChannelProcess where
  thread : EventThread ChannelOp ChannelOwned
  loopOk : Bool
  shutdownMu : Option Nat := none
  shutdownDone : Bool := false
  unaryCalls : Nat → UnaryCall
  shutdowns : Nat → Shutdown := fun _ => .called

inductive ProcessAction
  | unaryCall (call : Nat)
  | shutdown (shutdown : Nat)
  | loop (answer : PollAnswer)

namespace ChannelProcess

def world (p : ChannelProcess) : World :=
  p.thread.owned.world

def setUnaryCall (call : Nat) (unaryCall : UnaryCall) (p : ChannelProcess) :
    ChannelProcess :=
  { p with unaryCalls := Function.update p.unaryCalls call unaryCall }

def setShutdown (shutdown : Nat) (at' : Shutdown) (p : ChannelProcess) :
    ChannelProcess :=
  { p with shutdowns := Function.update p.shutdowns shutdown at' }

/-- A thread leaves `Shutdown` and releases the mutex. -/
def leaveShutdown (shutdown : Nat) (p : ChannelProcess) : ChannelProcess :=
  { p with shutdownMu := none }.setShutdown shutdown .returned

/-- A thread whose operation was refused fails its call itself.  The call is
dealt with: no operation for it will run. -/
def failLocal (call : Nat) (p : ChannelProcess) : ChannelProcess :=
  let message := if p.loopOk then Bytes.ofString "channel is shut down"
    else p.world.failureDetail
  let world := (p.world.recordHandled call).failCall message call
  { p with thread := { p.thread with owned := { p.thread.owned with world := world } } }

def stepUnaryCall (config : ChannelConfig) (call : Nat) (p : ChannelProcess) :
    ChannelProcess :=
  match p.unaryCalls call with
  | .called arguments => p.setUnaryCall call (arguments.check config call)
  | .post pc =>
      let posted := p.thread.post (.handleNewCall pc)
      if p.loopOk = false then p.setUnaryCall call .failLocal
      else if posted.1 = false then p.setUnaryCall call .failLocal
      else { p with thread := posted.2 }.setUnaryCall call .notify
  | .notify => { p with thread := p.thread.notify }.setUnaryCall call .wait
  | .failLocal => (p.failLocal call).setUnaryCall call .wait
  | .wait =>
      match (p.world.calls call).wait with
      | none => p
      | some result => p.setUnaryCall call (.returned result)
  | .rejected _ | .returned _ => p

def stepShutdown (shutdown : Nat) (p : ChannelProcess) : ChannelProcess :=
  match p.shutdowns shutdown with
  | .called =>
      match p.shutdownMu with
      | none => { p with shutdownMu := some shutdown }.setShutdown shutdown .locked
      | some _ => p
  | .locked =>
      if p.shutdownDone then p.leaveShutdown shutdown
      else if p.loopOk = false then
        { p with shutdownDone := true }.leaveShutdown shutdown
      else { p with shutdownDone := true }.setShutdown shutdown .post
  | .post =>
      let posted := p.thread.post (.doShutdown shutdown)
      if posted.1 = false then p.setShutdown shutdown .stop
      else { p with thread := posted.2 }.setShutdown shutdown .notify
  | .notify => { p with thread := p.thread.notify }.setShutdown shutdown .wait
  | .wait =>
      if shutdown ∈ p.thread.owned.finished then p.setShutdown shutdown .stop
      else p
  | .stop =>
      let stopped := p.thread.requestStop
      { p with thread := stopped.2 }.setShutdown shutdown (.stopNotify stopped.1)
  | .stopNotify mustJoin =>
      let p := { p with thread := p.thread.notify }
      if mustJoin then p.setShutdown shutdown .join else p.leaveShutdown shutdown
  | .join =>
      match p.thread.loop with
      | .exited => p.leaveShutdown shutdown
      | _ => p
  | .returned => p

def step (platform : Platform) (config : ChannelConfig) (p : ChannelProcess) :
    ProcessAction → ChannelProcess
  | .unaryCall call => p.stepUnaryCall config call
  | .shutdown shutdown => p.stepShutdown shutdown
  | .loop answer =>
      { p with
        thread := p.thread.step (ChannelOwned.callbacks platform config) answer }

/-- `poll` fails with `EINTR` only. -/
def Admits (_ : ChannelProcess) (action : ProcessAction) : Prop :=
  action ≠ .loop .failed

/-- A channel whose event thread has just started; no thread has done anything
yet. -/
structure Started (config : ChannelConfig) (p : ChannelProcess) : Prop where
  loopOk : p.loopOk = true
  started : p.thread.started = true
  world : p.world.Fresh config
  ops : p.thread.ops = []
  stopRequested : p.thread.stopRequested = false
  joined : p.thread.joined = false
  loop : p.thread.loop = .runPendingOps
  finished : p.thread.owned.finished = []
  shutdownMu : p.shutdownMu = none
  shutdownDone : p.shutdownDone = false
  unaryCalls : ∀ call, ∃ arguments, p.unaryCalls call = .called arguments
  shutdowns : ∀ shutdown, p.shutdowns shutdown = .called

theorem started_of_fresh {config : ChannelConfig} {world : World}
    {unaryCalls : Nat → UnaryCall} (fresh : world.Fresh config)
    (called : ∀ call, ∃ arguments, unaryCalls call = .called arguments) :
    Started config
      { thread := { started := true, owned := { world := world } }
        loopOk := true
        unaryCalls := unaryCalls } where
  loopOk := rfl
  started := rfl
  world := fresh
  ops := rfl
  stopRequested := rfl
  joined := rfl
  loop := rfl
  finished := rfl
  shutdownMu := rfl
  shutdownDone := rfl
  unaryCalls := called
  shutdowns _ := rfl

/-- The processes that some interleaving of the threads reaches. -/
abbrev Reachable (platform : Platform) (config : ChannelConfig) :
    ChannelProcess → Prop :=
  Runs.Reach (step platform config) Admits (Started config)

abbrev Later (platform : Platform) (config : ChannelConfig)
    (p : ChannelProcess) : ChannelProcess → Prop :=
  Runs.Reach (step platform config) Admits (· = p)

end ChannelProcess

end Egrpc
