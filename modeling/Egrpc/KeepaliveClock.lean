import Egrpc.Http2Session

/-!
# The keepalive clock

Keepalive reads three fields of a session: when bytes last arrived, when the last
PING was queued, and whether that PING is outstanding.  Acknowledgements clear the
last of them at once, other reads only at the next check.  This file is the clock
by itself and what the operations of a session do to it.  Which PINGs were queued is
told by nghttp2: they are the calls for a PING that it answered with zero.
-/

namespace Egrpc

/-- What keepalive depends on, apart from the gate on active streams. -/
structure KeepaliveClock where
  live : Bool
  time : Int
  timeout : Int
  lastRead : Int
  pingSent : Int
  pingOutstanding : Bool
  deriving DecidableEq

namespace KeepaliveClock

def read (clock : KeepaliveClock) (now : Int) : KeepaliveClock :=
  { clock with lastRead := now }

/-- A PING was acknowledged, or a later read makes up for it. -/
def acked (clock : KeepaliveClock) : KeepaliveClock :=
  { clock with pingOutstanding := false }

def pinged (clock : KeepaliveClock) (now : Int) : KeepaliveClock :=
  { clock with pingSent := now, pingOutstanding := true }

/-- A read since the outstanding PING was queued satisfies it. -/
def settle (clock : KeepaliveClock) : KeepaliveClock :=
  if clock.pingOutstanding = true ∧ clock.pingSent ≤ clock.lastRead then clock.acked
  else clock

/-- A PING is outstanding and nothing was read since. -/
def Unanswered (clock : KeepaliveClock) : Prop :=
  clock.pingOutstanding = true ∧ clock.lastRead < clock.pingSent

/-- The next time to check, while the gate is open. -/
def deadline (clock : KeepaliveClock) : Int :=
  if clock.pingOutstanding then clock.pingSent + clock.timeout
  else clock.lastRead + clock.time

variable (clock : KeepaliveClock)

theorem settle_cases : clock.settle = clock ∨ clock.settle = clock.acked := by
  unfold settle
  split_ifs
  · exact .inr rfl
  · exact .inl rfl

theorem settle_pingOutstanding : clock.settle.pingOutstanding = true ↔ clock.Unanswered := by
  unfold settle Unanswered
  split_ifs with satisfied
  · simp only [acked, Bool.false_eq_true, false_iff, not_and, not_lt]
    exact fun _ => satisfied.2
  · constructor
    · intro outstanding
      exact ⟨outstanding, not_le.mp fun read => satisfied ⟨outstanding, read⟩⟩
    · exact fun unanswered => unanswered.1

theorem settle_of_unanswered {clock : KeepaliveClock} (unanswered : clock.Unanswered) :
    clock.settle = clock :=
  if_neg fun satisfied => absurd satisfied.2 (not_le.mpr unanswered.2)

theorem settle_pinged (now : Int) : clock.settle.pinged now = clock.pinged now := by
  rcases clock.settle_cases with same | acked
  · rw [same]
  · rw [acked]
    rfl

theorem settle_timing : clock.settle.time = clock.time ∧
    clock.settle.timeout = clock.timeout ∧ clock.settle.lastRead = clock.lastRead ∧
    clock.settle.pingSent = clock.pingSent := by
  rcases clock.settle_cases with same | acked
  · rw [same]
    exact ⟨rfl, rfl, rfl, rfl⟩
  · rw [acked]
    exact ⟨rfl, rfl, rfl, rfl⟩

end KeepaliveClock

instance (clock : KeepaliveClock) : Decidable clock.Unanswered :=
  inferInstanceAs (Decidable (_ ∧ _))

def Http2Session.keepaliveClock {Hook : Type} (session : Http2Session Hook) :
    KeepaliveClock where
  live := session.session
  time := milliseconds session.options.keepaliveTime
  timeout := milliseconds session.options.keepaliveTimeout
  lastRead := session.lastRead
  pingSent := session.pingSent
  pingOutstanding := session.pingOutstanding

def NgCallback.isPingAck : NgCallback → Bool
  | .onFrameRecv (.ping true) => true
  | _ => false

/-- nghttp2 was asked for a PING and took it. -/
def NgCall.isQueuedPing : NgCall → Bool
  | .submitPing _ rc => rc == 0
  | .submitSettings _ | .setLocalWindowSize _ _ | .submitRequest _ _ | .memRecv _
  | .terminateSession => false

/-- How many PINGs nghttp2 took. -/
def NgEnv.queuedPings (env : NgEnv) : Nat :=
  env.calls.countP NgCall.isQueuedPing

theorem NgEnv.queuedPings_submitPing (env : NgEnv) (opaqueData : Bytes) :
    (env.submitPing opaqueData).2.queuedPings =
      env.queuedPings + if (takeAnswer 0 env.submitPings).1 = 0 then 1 else 0 := by
  simp [NgEnv.submitPing, NgEnv.queuedPings, NgEnv.log, NgCall.isQueuedPing,
    List.countP_append, List.countP_cons]

namespace Http2Session

variable {Hook : Type} (session : Http2Session Hook)

/-- Keepalive is not gated off. -/
def KeepaliveEnabled : Prop :=
  session.session = true ∧
    ¬ (session.options.keepalivePermitWithoutCalls = false ∧ session.activeStreams = 0)

theorem nextKeepaliveDeadline_eq_some {deadline : Int} :
    session.nextKeepaliveDeadline = some deadline ↔
      session.KeepaliveEnabled ∧ session.keepaliveClock.deadline = deadline := by
  unfold nextKeepaliveDeadline KeepaliveEnabled KeepaliveClock.deadline keepaliveClock
  cases session.session <;> simp
  split_ifs <;> simp_all

/-! ## Callbacks -/

theorem callback_keepaliveClock (event : NgCallback) :
    (session.callback event).1.keepaliveClock =
      if event.isPingAck then session.keepaliveClock.acked
      else session.keepaliveClock := by
  cases event with
  | onFrameRecv frame =>
      cases frame with
      | headers streamId response endStream =>
          simp only [callback, onFrameRecv, onHeadersFrame, NgCallback.isPingAck]
          split <;> rfl
      | settings ack => cases ack <;> rfl
      | ping ack => cases ack <;> rfl
      | goaway | other => rfl
  | onHeader headersFrame streamId name value =>
      simp only [callback, onHeader, NgCallback.isPingAck, Bool.false_eq_true, if_false]
      split_ifs
      · rfl
      · split <;> rfl
  | onDataChunkRecv => rfl
  | onStreamClose streamId errorCode =>
      simp only [callback, onStreamClose, NgCallback.isPingAck]
      split <;> rfl
  | dataSourceRead streamId length =>
      simp only [callback, onDataSourceRead, NgCallback.isPingAck]
      split <;> rfl

theorem runCallbacks_keepaliveClock (events : List NgCallback) :
    (session.runCallbacks events).1.keepaliveClock =
      if events.any NgCallback.isPingAck then session.keepaliveClock.acked
      else session.keepaliveClock := by
  induction events generalizing session with
  | nil => rfl
  | cons event events ih =>
      simp only [runCallbacks, ih, callback_keepaliveClock, List.any_cons]
      by_cases ack : event.isPingAck = true
      · simp only [ack, if_true, Bool.true_or]
        split_ifs <;> rfl
      · simp only [ack, Bool.false_eq_true, if_false, Bool.false_or]

end Http2Session

/-! ## Operations -/

namespace SessionIo

variable {Hook : Type} (platform : Platform) (io : SessionIo Hook)

theorem receiveBytes_keepaliveClock (now : Int) (data : Bytes)
    (live : io.session.session = true) :
    (io.receiveBytes platform now data).2.2.session.keepaliveClock =
      let arrived := if data ≠ [] then io.session.keepaliveClock.read now
        else io.session.keepaliveClock
      if (takeAnswer {} io.env.memRecvs).1.callbacks.any NgCallback.isPingAck then
        arrived.acked
      else arrived := by
  have noted : (io.session.noteRead now data).keepaliveClock =
      if data ≠ [] then io.session.keepaliveClock.read now
      else io.session.keepaliveClock := by
    unfold Http2Session.noteRead
    split_ifs <;> rfl
  have ran := (io.session.noteRead now data).runCallbacks_keepaliveClock
    (takeAnswer {} io.env.memRecvs).1.callbacks
  rw [noted] at ran
  refine Eq.trans ?_ ran
  simp only [receiveBytes, live, Bool.true_eq_false, if_false]
  split_ifs <;> rfl

theorem submitUnaryRequest_keepaliveClock (headers : HeaderList) (body : Bytes)
    (hooks : StreamHooks Hook) :
    (io.submitUnaryRequest platform headers body hooks).2.session.keepaliveClock =
      io.session.keepaliveClock := by
  unfold submitUnaryRequest
  simp only
  split_ifs <;> rfl

/-- The first step of a check: a read since the PING satisfies it. -/
def settle : SessionIo Hook :=
  if io.session.pingOutstanding = true ∧ io.session.pingSent ≤ io.session.lastRead then
    { io with session.pingOutstanding := false }
  else io

def checkSettled (now : Int) : Http2Session.KeepaliveAction × SessionIo Hook :=
  if io.session.pingOutstanding then
    if milliseconds io.session.options.keepaliveTimeout ≤ now - io.session.pingSent then
      (.dead, io)
    else (.none, io)
  else if io.session.options.keepalivePermitWithoutCalls = false ∧
      io.session.activeStreams = 0 then (.none, io)
  else if milliseconds io.session.options.keepaliveTime ≤ now - io.session.lastRead then
    submitPing platform now io
  else (.none, io)

theorem checkKeepalive_eq (now : Int) (live : io.session.session = true) :
    io.checkKeepalive platform now = io.settle.checkSettled platform now := by
  rw [checkKeepalive, if_neg (by simp [live])]
  rfl

theorem settle_spec :
    io.settle.session.keepaliveClock = io.session.keepaliveClock.settle ∧
      io.settle.env = io.env ∧
      (io.settle.session.KeepaliveEnabled ↔ io.session.KeepaliveEnabled) := by
  unfold settle
  by_cases satisfied : io.session.pingOutstanding = true ∧
      io.session.pingSent ≤ io.session.lastRead
  · rw [if_pos satisfied]
    exact ⟨(if_pos satisfied).symm, rfl, Iff.rfl⟩
  · rw [if_neg satisfied]
    exact ⟨(if_neg satisfied).symm, rfl, Iff.rfl⟩

/-- The clock takes the PING as sent exactly when nghttp2 takes it. -/
theorem submitPing_spec (now : Int) :
    let submitted := io.submitPing platform now
    ((takeAnswer 0 io.env.submitPings).1 = 0 → submitted.1 = .pingSent ∧
      submitted.2.session.keepaliveClock = io.session.keepaliveClock.pinged now ∧
      submitted.2.env.queuedPings = io.env.queuedPings + 1) ∧
    ((takeAnswer 0 io.env.submitPings).1 ≠ 0 → submitted.1 = .none ∧
      submitted.2.session.keepaliveClock = io.session.keepaliveClock ∧
      submitted.2.env.queuedPings = io.env.queuedPings) := by
  intro submitted
  have queued := io.env.queuedPings_submitPing
    (Http2Session.pingOpaque ((io.session.pingCounter + 1) % 2 ^ 64))
  constructor
  · intro accepted
    rw [if_pos accepted] at queued
    have answer : (io.env.submitPing (Http2Session.pingOpaque
        ((io.session.pingCounter + 1) % 2 ^ 64))).1 = 0 := accepted
    simp only [submitted, submitPing, answer, ne_eq, not_true_eq_false, if_false]
    exact ⟨trivial, rfl, queued⟩
  · intro refused
    rw [if_neg refused] at queued
    have answer : (io.env.submitPing (Http2Session.pingOpaque
        ((io.session.pingCounter + 1) % 2 ^ 64))).1 ≠ 0 := refused
    simp only [submitted, submitPing, answer, ne_eq, not_false_eq_true, if_true]
    exact ⟨trivial, rfl, queued⟩

/-- What a check does to the clock, what it answers and whether a PING is queued. -/
theorem checkKeepalive_cases (now : Int) (live : io.session.session = true) :
    let clock := io.session.keepaliveClock
    let checked := io.checkKeepalive platform now
    let queued := checked.2.env.queuedPings
    (checked.1 = .dead ∧ checked.2.session.keepaliveClock = clock ∧
      queued = io.env.queuedPings ∧ clock.Unanswered ∧
      clock.timeout ≤ now - clock.pingSent) ∨
    (checked.1 = .pingSent ∧ checked.2.session.keepaliveClock = clock.pinged now ∧
      queued = io.env.queuedPings + 1 ∧ ¬ clock.Unanswered ∧
      clock.time ≤ now - clock.lastRead) ∨
    (checked.1 = .none ∧ checked.2.session.keepaliveClock = clock.settle ∧
      queued = io.env.queuedPings ∧
      (clock.Unanswered → now - clock.pingSent < clock.timeout) ∧
      (¬ clock.Unanswered → io.session.KeepaliveEnabled →
        (takeAnswer 0 io.env.submitPings).1 = 0 → now - clock.lastRead < clock.time)) := by
  intro clock checked queued
  obtain ⟨clockEq, envEq, gateIff⟩ := io.settle_spec
  obtain ⟨timeEq, timeoutEq, readEq, sentEq⟩ := clock.settle_timing
  have checkedEq : checked = io.settle.checkSettled platform now :=
    io.checkKeepalive_eq platform now live
  obtain ⟨accepted, refused⟩ := io.settle.submitPing_spec platform now
  rw [envEq] at accepted refused
  have outstandingIff : io.settle.session.pingOutstanding = true ↔ clock.Unanswered := by
    rw [← clock.settle_pingOutstanding, ← clockEq]
    rfl
  rw [← clockEq] at timeEq timeoutEq readEq sentEq
  change milliseconds io.settle.session.options.keepaliveTime = _ at timeEq
  change milliseconds io.settle.session.options.keepaliveTimeout = _ at timeoutEq
  change io.settle.session.lastRead = _ at readEq
  change io.settle.session.pingSent = _ at sentEq
  have unqueued : io.settle.env.queuedPings = io.env.queuedPings := congrArg _ envEq
  simp only [queued]
  rw [checkedEq, ← gateIff]
  unfold checkSettled
  simp only [outstandingIff, sentEq, timeoutEq, readEq, timeEq]
  split_ifs with unanswered overdue gated idle
  · exact .inl ⟨rfl, clockEq.trans (KeepaliveClock.settle_of_unanswered unanswered),
      unqueued, unanswered, overdue⟩
  · exact .inr (.inr ⟨rfl, clockEq, unqueued, fun _ => by omega,
      fun other => absurd unanswered other⟩)
  · exact .inr (.inr ⟨rfl, clockEq, unqueued, fun held => absurd held unanswered,
      fun _ enabled => absurd gated enabled.2⟩)
  · by_cases taken : (takeAnswer 0 io.env.submitPings).1 = 0
    · obtain ⟨answer, after, more⟩ := accepted taken
      rw [clockEq, clock.settle_pinged] at after
      exact .inr (.inl ⟨answer, after, more, unanswered, idle⟩)
    · obtain ⟨answer, after, same⟩ := refused taken
      exact .inr (.inr ⟨answer, after.trans clockEq, same,
        fun held => absurd held unanswered, fun _ _ succeeds => absurd succeeds taken⟩)
  · exact .inr (.inr ⟨rfl, clockEq, unqueued, fun held => absurd held unanswered,
      fun _ _ _ => by omega⟩)

end SessionIo

end Egrpc
