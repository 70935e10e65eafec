import Egrpc.ShutdownMutex

/-!
# What the threads of a channel wait for

Callers wait for their results, a thread in `Shutdown` waits for its promise and
then for the loop's exit, and the loop waits in `poll`.  The loop does not sleep
while there is something in its queue, and a thread that waits has something in
that queue, or in the channel, that will let it go on.
-/

namespace Egrpc

/-- The thread is about to notify the loop. -/
def Shutdown.Notifies : Shutdown → Prop
  | .notify | .stopNotify _ => True
  | .called | .locked | .post | .wait | .stop | .join | .returned => False

/-- What a thread in `Shutdown` waits for is done or on its way: its
`DoShutdown` is in the queue, or the stop is requested. -/
def Shutdown.Backed (thread : EventThread ChannelOp ChannelOwned) (shutdown : Nat) :
    Shutdown → Prop
  | .notify | .wait =>
      shutdown ∈ thread.owned.finished ∨ .doShutdown shutdown ∈ thread.waiting
  | .stopNotify _ | .join => thread.stopRequested = true
  | .called | .locked | .post | .stop | .returned => True

theorem Shutdown.Backed.mono {thread thread' : EventThread ChannelOp ChannelOwned}
    {shutdown : Nat} {at' : Shutdown} (backed : at'.Backed thread shutdown)
    (waits : shutdown ∈ thread.owned.finished ∨ .doShutdown shutdown ∈ thread.waiting →
      shutdown ∈ thread'.owned.finished ∨ .doShutdown shutdown ∈ thread'.waiting)
    (stop : thread.stopRequested = true → thread'.stopRequested = true) :
    at'.Backed thread' shutdown := by
  cases at' with
  | notify | wait => exact waits backed
  | stopNotify | join => exact stop backed
  | called | locked | post | stop | returned => trivial

namespace ChannelProcess

variable {platform : Platform} {config : ChannelConfig} {p : ChannelProcess}

/-! ## The queue -/

/-- The eventfd is ready, or a thread is about to make it so. -/
def Announced (p : ChannelProcess) : Prop :=
  0 < p.thread.wakeup.count ∨ (∃ call, p.unaryCalls call = .notify) ∨
    ∃ shutdown, (p.shutdowns shutdown).Notifies

/-- The loop does not sleep on its queue, and what threads in `Shutdown` wait for
is on its way. -/
structure Awake (p : ChannelProcess) : Prop where
  announced : p.thread.loop.Swept →
    p.thread.ops ≠ [] ∨ p.thread.stopRequested = true → p.Announced
  backed : ∀ shutdown, (p.shutdowns shutdown).Backed p.thread shutdown

theorem Started.awake (start : p.Started config) : p.Awake where
  announced := by
    rw [start.loop]
    exact False.elim
  backed := by
    intro shutdown
    rw [start.shutdowns shutdown]
    trivial

/-- A caller that is not about to notify moves. -/
theorem Awake.callerMoves (awake : p.Awake) {call : Nat}
    (silent : p.unaryCalls call ≠ .notify) (unaryCall : UnaryCall) :
    (p.setUnaryCall call unaryCall).Awake where
  announced swept work := by
    rcases awake.announced swept work with counted | ⟨other, notifies⟩ | shutdowns
    · exact .inl counted
    · refine .inr (.inl ⟨other, (Function.update_of_ne ?_ _ _).trans notifies⟩)
      rintro rfl
      exact silent notifies
    · exact .inr (.inr shutdowns)
  backed := awake.backed

theorem Awake.post (awake : p.Awake) (op : ChannelOp) (shutdown : Nat) :
    (p.shutdowns shutdown).Backed { p.thread with ops := p.thread.ops ++ [op] }
      shutdown := by
  refine (awake.backed shutdown).mono (fun waits => waits.imp_right fun here => ?_) id
  rw [EventThread.waiting, ← List.append_assoc]
  exact List.mem_append_left _ here

theorem Awake.stepUnaryCall (awake : p.Awake) (loopOk : p.loopOk = true) (call : Nat) :
    (p.stepUnaryCall config call).Awake := by
  have moves {unaryCall : UnaryCall} (here : p.unaryCalls call = unaryCall)
      (silent : unaryCall ≠ .notify) (unaryCall' : UnaryCall) :
      (p.setUnaryCall call unaryCall').Awake :=
    awake.callerMoves (here ▸ silent) unaryCall'
  unfold ChannelProcess.stepUnaryCall
  cases here : p.unaryCalls call with
  | called arguments => exact moves here (by simp) _
  | post pc =>
      simp only
      rw [if_neg (by simp [loopOk])]
      cases stop : p.thread.stopRequested with
      | true =>
          rw [EventThread.post_of_stopped stop]
          exact moves here (by simp) .failLocal
      | false =>
          rw [EventThread.post_of_running stop]
          exact
            { announced := fun _ _ => .inr (.inl ⟨call, Function.update_self ..⟩)
              backed := awake.post (.handleNewCall pc) }
  | notify => exact { awake with announced := fun _ _ => .inl (Wakeup.notify_pos _) }
  | failLocal => exact { moves here (by simp) .wait with }
  | wait =>
      simp only
      split
      · exact awake
      · exact moves here (by simp) _
  | rejected | returned => exact awake

/-- One thread in `Shutdown` moves, and with it what it does to the event
thread. -/
theorem Awake.shutdownMoves (awake : p.Awake) {shutdown : Nat} {at' : Shutdown}
    {shutdownMu : Option Nat} {shutdownDone : Bool}
    {thread : EventThread ChannelOp ChannelOwned}
    (announced : 0 < thread.wakeup.count ∨ at'.Notifies ∨
      ¬ (p.shutdowns shutdown).Notifies ∧ thread = p.thread)
    (backed : at'.Backed thread shutdown)
    (others : ∀ other, (p.shutdowns other).Backed thread other) :
    (({ p with
        thread := thread
        shutdownMu := shutdownMu
        shutdownDone := shutdownDone } : ChannelProcess).setShutdown shutdown
      at').Awake where
  announced swept work := by
    rcases announced with counted | notifies | ⟨silent, rfl⟩
    · exact .inl counted
    · refine .inr (.inr ⟨shutdown, ?_⟩)
      rw [setShutdown_self]
      exact notifies
    · rcases awake.announced swept work with counted | callers | ⟨other, notifies⟩
      · exact .inl counted
      · exact .inr (.inl callers)
      · refine .inr (.inr ⟨other, ?_⟩)
        rw [setShutdown_of_ne]
        · exact notifies
        · rintro rfl
          exact silent notifies
  backed :=
    (Function.forall_update_iff p.shutdowns fun other at' =>
      at'.Backed thread other).mpr ⟨backed, fun other _ => others other⟩

theorem Awake.stepShutdown (awake : p.Awake) (shutdown : Nat) :
    (p.stepShutdown shutdown).Awake := by
  have quietly {at' : Shutdown} (here : p.shutdowns shutdown = at')
      (silent : ¬ at'.Notifies) :
      ¬ (p.shutdowns shutdown).Notifies ∧ p.thread = p.thread :=
    ⟨here ▸ silent, rfl⟩
  have backed := awake.backed shutdown
  unfold ChannelProcess.stepShutdown
  cases here : p.shutdowns shutdown with
  | called =>
      simp only
      split
      · exact awake.shutdownMoves (.inr (.inr (quietly here id))) trivial awake.backed
      · exact awake
  | locked =>
      simp only
      split_ifs <;>
        exact awake.shutdownMoves (.inr (.inr (quietly here id))) trivial awake.backed
  | post =>
      simp only
      cases stop : p.thread.stopRequested with
      | true =>
          rw [EventThread.post_of_stopped stop]
          exact awake.shutdownMoves (.inr (.inr (quietly here id))) trivial awake.backed
      | false =>
          rw [EventThread.post_of_running stop]
          refine awake.shutdownMoves (.inr (.inl trivial)) (.inr ?_)
            (awake.post (.doShutdown shutdown))
          simp [EventThread.waiting]
  | notify =>
      rw [here] at backed
      exact awake.shutdownMoves (.inl (Wakeup.notify_pos _)) backed awake.backed
  | wait =>
      simp only
      split_ifs
      · exact awake.shutdownMoves (.inr (.inr (quietly here id))) trivial awake.backed
      · exact awake
  | stop =>
      obtain ⟨joined, requested⟩ := p.thread.requestStop_eq
      simp only
      rw [requested]
      exact awake.shutdownMoves (.inr (.inl trivial)) rfl fun other =>
        (awake.backed other).mono id fun _ => rfl
  | stopNotify mustJoin =>
      rw [here] at backed
      simp only
      split_ifs
      · exact awake.shutdownMoves (.inl (Wakeup.notify_pos _)) backed awake.backed
      · exact awake.shutdownMoves (.inl (Wakeup.notify_pos _)) trivial awake.backed
  | join =>
      simp only
      split
      · exact awake.shutdownMoves (.inr (.inr (quietly here id))) trivial awake.backed
      · exact awake
  | returned => exact awake

theorem stepLoop_finished (answer : PollAnswer) {shutdown : Nat}
    (finished : shutdown ∈ p.thread.owned.finished) :
    shutdown ∈ (p.step platform config (.loop answer)).thread.owned.finished := by
  simp only [ChannelProcess.step, EventThread.step]
  cases p.thread.loop with
  | running ops stopping =>
      cases ops with
      | cons op ops =>
          cases op with
          | handleNewCall pc => exact finished
          | doShutdown other => exact List.mem_append_left _ finished
      | nil => cases stopping <;> exact finished
  | poll => cases answer <;> exact finished
  | dispatch =>
      simp only
      split_ifs <;> exact finished
  | runPendingOps | runDue | preparePoll | drain | exited => exact finished

theorem Awake.stepLoop (awake : p.Awake) (answer : PollAnswer) :
    (p.step platform config (.loop answer)).Awake where
  announced swept work := by
    obtain ⟨-, -, stop⟩ :=
      p.thread.step_flags (ChannelOwned.callbacks platform config) answer
    have moved := p.thread.queueStep (ChannelOwned.callbacks platform config) answer
    rcases moved.swept swept with ⟨empty, going⟩ | ⟨before, ops, wakeup⟩
    · rcases work with queued | stopped
      · exact absurd empty queued
      · cases (stop.symm.trans stopped).symm.trans going
    · have announced := awake.announced before
        (work.imp (fun queued => ops ▸ queued) fun stopped => stop ▸ stopped)
      unfold Announced at announced ⊢
      simp only [ChannelProcess.step, wakeup]
      exact announced
  backed := by
    intro shutdown
    obtain ⟨-, -, stop⟩ :=
      p.thread.step_flags (ChannelOwned.callbacks platform config) answer
    refine (awake.backed shutdown).mono ?_ fun stopped => stop.trans stopped
    rintro (finished | waits)
    · exact .inl (stepLoop_finished answer finished)
    · have moved := p.thread.queueStep (ChannelOwned.callbacks platform config) answer
      rcases moved.waits waits with stays | ran
      · exact .inr stays
      · refine .inl ?_
        simp only [ChannelProcess.step, ran]
        exact List.mem_append_right _ List.mem_cons_self

theorem Reachable.awake (reachable : Reachable platform config p) : p.Awake := by
  have both := reachable.invariant (fun p => p.Guarded ∧ p.Awake)
    (fun _ start => ⟨start.guarded, start.awake⟩) ?_
  · exact both.2
  · rintro p action ⟨guarded, awake⟩ -
    refine ⟨guarded.step action, ?_⟩
    cases action with
    | unaryCall call => exact awake.stepUnaryCall guarded.loopOk call
    | shutdown shutdown => exact awake.stepShutdown shutdown
    | loop answer => exact awake.stepLoop answer

/-! ## No thread waits in vain -/

end ChannelProcess

namespace World

variable {config : ChannelConfig} {w : World} {call : Nat}

/-- The call is queued until the connection is up, the connect timer runs, and the loop
watches a descriptor for progress.  After a fallback this need not be the descriptor of
the socket; then the timer is what ends the wait. -/
def AwaitsConnection (call : Nat) (w : World) : Prop :=
  w.state = .connecting ∧ call ∈ w.pendingCalls.map PendingCall.call ∧
    w.connectTimer ≠ 0 ∧ w.timers.Only w.connectTimer .connectTimeout ∧
    0 ≤ w.watchedFd ∧ w.watch = some .connectProgress

/-- The call has a stream, and the loop watches the socket of the connection. -/
def AwaitsStream (call : Nat) (w : World) : Prop :=
  w.state = .ready ∧
    (∃ session streamId, w.h2 = some session ∧
      session.hooksAt streamId = some (makeStreamHooks call)) ∧
    0 ≤ w.watchedFd ∧ w.watchedFd = w.sock.fd ∧ w.watch = some .socketReady

/-- A call that is handled and not done is kept where its result will come
from. -/
theorem Between.keeps (between : w.Between config) (handled : call ∈ w.handled)
    (isOpen : (w.calls call).done = false) :
    w.AwaitsConnection call ∨ w.AwaitsStream call := by
  have notDone : ¬ (w.calls call).done = true := by simp [isOpen]
  rcases between with idle | connecting | live | down
  · exact absurd (idle.ledger.settled call handled List.not_mem_nil) notDone
  · refine .inl ⟨connecting.state, ?_, connecting.connectTimer, connecting.timers,
      connecting.watchedFd, connecting.watch⟩
    by_contra missing
    exact notDone (connecting.ledger.settled call handled missing)
  · obtain ⟨session, present, serving⟩ := live.session
    have active : call ∈ w.table.activeCalls := by
      by_contra missing
      exact notDone (serving.ledger.settled call handled missing)
    obtain ⟨streamId, hooks⟩ := serving.served call active
    exact .inr ⟨live.state, ⟨session, streamId, present, hooks⟩,
      live.watchedFd ▸ live.fd, live.watchedFd, live.watch⟩
  · exact absurd (down.ledger.settled call handled List.not_mem_nil) notDone

end World

namespace ChannelProcess

variable {platform : Platform} {config : ChannelConfig} {p : ChannelProcess}

/-- In every interleaving: the loop does not sleep in `poll` while an operation waits or
the stop is requested, unless a thread is about to wake it; a call without a result is
in the queue, or pending while the channel connects under a running timer, or has a
stream of a connection whose socket is watched; a `Shutdown` that waits for its promise
has its operation in the queue; and one that joins the loop has told it to stop. -/
theorem no_thread_waits_in_vain (reachable : Reachable platform config p) :
    (∀ events timeoutMs, p.thread.loop = .poll events timeoutMs →
      p.thread.waiting ≠ [] ∨ p.thread.stopRequested = true → p.Announced) ∧
    (∀ call, p.unaryCalls call = .wait → (p.world.calls call).done = false →
      (∃ pc : PendingCall, pc.call = call ∧ .handleNewCall pc ∈ p.thread.waiting) ∨
        p.world.AwaitsConnection call ∨ p.world.AwaitsStream call) ∧
    (∀ shutdown, p.shutdowns shutdown = .wait →
      shutdown ∈ p.thread.owned.finished ∨ .doShutdown shutdown ∈ p.thread.waiting) ∧
    ∀ shutdown, p.shutdowns shutdown = .join → p.thread.stopRequested = true := by
  have awake := reachable.awake
  have sound := reachable.sound
  refine ⟨fun events timeoutMs polling work => ?_, fun call waits isOpen => ?_,
    fun shutdown waits => ?_, fun shutdown joins => ?_⟩
  · refine awake.announced (by rw [polling]; trivial) (work.imp_left fun waiting => ?_)
    rw [EventThread.waiting, polling] at waiting
    exact waiting
  · have tracked : call ∈ p.tracked := (sound.entered call).mpr (by rw [waits]; trivial)
    rcases List.mem_append.mp tracked with handled | queued
    · exact .inr (sound.between.keeps handled isOpen)
    · obtain ⟨op, member, isIt⟩ := List.mem_flatMap.mp queued
      cases op with
      | handleNewCall pc =>
          exact .inl ⟨pc, (List.mem_singleton.mp isIt).symm, member⟩
      | doShutdown => exact absurd isIt List.not_mem_nil
  · have backed := awake.backed shutdown
    rw [waits] at backed
    exact backed
  · have backed := awake.backed shutdown
    rw [joins] at backed
    exact backed

/-- The loop sleeps, then a call and a `DoShutdown` are posted and their threads
wait. -/
def sampleWaiting : ChannelProcess :=
  List.foldl (step World.silentPlatform World.sampleConfig) sampleProcess
    [.loop .interrupted, .loop .interrupted, .loop .interrupted, .loop .interrupted,
      .unaryCall 0, .unaryCall 0, .unaryCall 0, .shutdown 0, .shutdown 0, .shutdown 0,
      .shutdown 0]

theorem sampleWaiting_announced :
    (∃ events timeoutMs, sampleWaiting.thread.loop = .poll events timeoutMs) ∧
      sampleWaiting.unaryCalls 0 = .wait ∧ sampleWaiting.shutdowns 0 = .wait ∧
      sampleWaiting.Announced ∧
      (0 ∈ sampleWaiting.thread.owned.finished ∨
        .doShutdown 0 ∈ sampleWaiting.thread.waiting) := by
  have reachable : Reachable World.silentPlatform World.sampleConfig sampleWaiting :=
    sampleProcess_reachable (by simp)
  obtain ⟨announced, -, posted, -⟩ := no_thread_waits_in_vain reachable
  exact ⟨⟨_, _, rfl⟩, rfl, rfl, announced _ _ rfl (.inl (List.cons_ne_nil _ _)),
    posted 0 rfl⟩

end ChannelProcess

end Egrpc
