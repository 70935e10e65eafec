import Egrpc.ChannelProcess
import Egrpc.ChannelHistory
import Egrpc.ChannelSafety

/-!
# Shutdown and its races

`Shutdown` posts `DoShutdown`, waits for it, and only then sets the stop flag.
So when an operation is refused or the loop sees the flag, the channel is shut
down already.  The invariant below says that, and where each call is: a call
that got past its `Post` is in the queue, in the batch that the loop is running,
or dealt with.  When the loop has exited, the queue and the batch are empty.
-/

namespace Egrpc

namespace World

variable {platform : Platform} {config : ChannelConfig} {w w' : World}

/-! ## What the loop does besides the callbacks -/

theorem Advances.shutdown (advances : w.Advances config w')
    (down : w.state = .shutdown) : w'.state = .shutdown := by
  have rank := advances.2
  rw [down] at rank
  cases state : w'.state with
  | shutdown => rfl
  | idle | connecting | ready | failed =>
      rw [state] at rank
      exact absurd rank (by decide)

theorem Between.readClock (between : w.Between config) :
    w.Advances config w.readClock.2 := by
  refine ⟨?_, le_refl _⟩
  rcases between with idle | connecting | live | down
  · exact .inl { idle with }
  · exact .inr (.inl { connecting with })
  · exact .inr (.inr (.inl { live with }))
  · exact .inr (.inr (.inr { down with
      report := report_of_same down.report rfl rfl rfl rfl }))

/-- Timers that differ in cancelled entries only are as good. -/
theorem Between.pruned {timers : TimerHeap TimerCallback}
    (between : w.Between config) (same : timers.callbacks = w.timers.callbacks) :
    w.Advances config { w with timers := timers } := by
  refine ⟨?_, le_refl _⟩
  rcases between with idle | connecting | live | down
  · exact .inl { idle with timers := by rw [same]; exact idle.timers }
  · exact .inr (.inl { connecting with
      timers := fun id => by rw [same]; exact connecting.timers id })
  · exact .inr (.inr (.inl { live with
      timers := fun id => by rw [same]; exact live.timers id }))
  · exact .inr (.inr (.inr { down with
      timers := by rw [same]; exact down.timers
      report := report_of_same down.report rfl rfl rfl rfl }))

/-- After shutdown nothing changes but that new calls are refused. -/
def Refusal (w w' : World) : Prop :=
  w'.state = w.state ∧
    (w'.calls = w.calls ∧ w'.handled = w.handled ∨
      ∃ call message, call ∉ w.handled ∧ w'.handled = w.handled ++ [call] ∧
        w'.calls = Function.update w.calls call
          ((w.calls call).handle (.failLocal .unavailable message)))

theorem refusal_rfl (w : World) : w.Refusal w :=
  ⟨rfl, .inl ⟨rfl, rfl⟩⟩

theorem Down.step_refusal (down : w.Down config []) (shut : w.state = .shutdown)
    {event : ChannelEvent} (admits : w.Admits event) :
    w.Refusal (w.step platform config event) := by
  cases event with
  | newCall pc =>
      have state : (w.recordHandled pc.call).state = .shutdown := shut
      simp only [World.step, World.handleNewCall, state]
      exact ⟨rfl, .inr ⟨pc.call, _, admits, rfl, rfl⟩⟩
  | runDue now =>
      obtain ⟨timers, same, _⟩ := runDue_of_none platform down.timers now
      rw [World.step, same]
      exact ⟨rfl, .inl ⟨rfl, rfl⟩⟩
  | pollEvents =>
      rw [World.step, World.pollEvents, if_pos (by rw [down.watchedFd]; decide)]
      exact refusal_rfl w
  | ready revents =>
      simp only [World.step, World.onReady, down.watch]
      exact refusal_rfl w
  | shutdown =>
      rw [World.step, World.doShutdown, if_pos shut]
      exact refusal_rfl w

/-- The calls handled since then have failed as unavailable. -/
def RefusedAfter (earlier : List Nat) (w : World) : Prop :=
  ∀ call ∈ w.handled, call ∉ earlier → FailedAs (w.calls call) none

theorem RefusedAfter.refusal {earlier : List Nat} (refused : w.RefusedAfter earlier)
    (ledger : Ledger config.life [] w.calls w.handled) (refusal : w.Refusal w') :
    w'.RefusedAfter earlier := by
  rcases refusal.2 with ⟨calls, handled⟩ | ⟨call, message, isNew, handled, calls⟩
  · rw [RefusedAfter, calls, handled]
    exact refused
  · rw [RefusedAfter, calls, handled]
    intro other member isLate
    by_cases same : other = call
    · subst same
      have fresh : w.calls other = config.life.initial := ledger.untouched other isNew
      rw [Function.update_self]
      refine failedAs_failLocal ?_ message nofun
      rw [fresh]
      exact nofun
    · have old : other ∈ w.handled := by simpa [same] using member
      rw [Function.update_of_ne same]
      exact refused other old isLate

theorem Advances.trans {w'' : World} (first : w.Advances config w')
    (second : w'.Advances config w'') : w.Advances config w'' :=
  ⟨second.1, first.2.trans second.2⟩

end World

namespace ChannelOwned

variable {platform : Platform} {config : ChannelConfig} {owned : ChannelOwned}

theorem preparePoll_advances (between : owned.world.Between config) :
    owned.world.Advances config (owned.preparePoll platform).2.world := by
  have events : owned.world.Advances config owned.world.pollEvents.2 :=
    between.pollEvents
  have clock := events.trans events.1.readClock
  exact clock.trans (clock.1.pruned (TimerHeap.pollTimeoutMs_callbacks _ _ _))

theorem preparePoll_handled :
    (owned.preparePoll platform).2.world.handled = owned.world.handled :=
  World.pollEvents_handled owned.world

end ChannelOwned

/-! ## Where the calls are -/

/-- The call that an operation is for. -/
def ChannelOp.calls : ChannelOp → List Nat
  | .handleNewCall pc => [pc.call]
  | .doShutdown _ => []

/-- The call was posted, or is dealt with. -/
def UnaryCall.Entered : UnaryCall → Prop
  | .notify | .wait | .returned _ => True
  | .called _ | .rejected _ | .post _ | .failLocal => False

namespace ChannelProcess

variable {platform : Platform} {config : ChannelConfig} {p : ChannelProcess}

/-- The calls that are dealt with, in the batch, or in the queue. -/
def tracked (p : ChannelProcess) : List Nat :=
  p.world.handled ++ p.thread.waiting.flatMap ChannelOp.calls

structure Sound (config : ChannelConfig) (p : ChannelProcess) : Prop where
  loopOk : p.loopOk = true
  between : p.world.Between config
  nodup : p.tracked.Nodup
  entered : ∀ call, call ∈ p.tracked ↔ (p.unaryCalls call).Entered
  named : ∀ call pc, p.unaryCalls call = .post pc → pc.call = call
  refused : ∀ call, p.unaryCalls call = .failLocal → p.world.state = .shutdown
  finished : p.thread.owned.finished ≠ [] → p.world.state = .shutdown
  stopping : ∀ shutdown, (p.shutdowns shutdown).Stopping →
    p.world.state = .shutdown
  stopRequested : p.thread.stopRequested = true → p.world.state = .shutdown
  last : p.thread.loop.Last → p.thread.stopRequested = true ∧ p.thread.ops = []

theorem Started.sound (start : p.Started config) : p.Sound config where
  loopOk := start.loopOk
  between := start.world.between
  nodup := by
    simp [tracked, start.world.handled, EventThread.waiting, start.loop, start.ops,
      Loop.remaining]
  entered := by
    intro call
    obtain ⟨arguments, isCalled⟩ := start.unaryCalls call
    simp [tracked, start.world.handled, EventThread.waiting, start.loop, start.ops,
      Loop.remaining, isCalled, UnaryCall.Entered]
  named := by
    intro call pc isPost
    obtain ⟨arguments, isCalled⟩ := start.unaryCalls call
    cases isPost.symm.trans isCalled
  refused := by
    intro call isRefused
    obtain ⟨arguments, isCalled⟩ := start.unaryCalls call
    cases isRefused.symm.trans isCalled
  finished := fun some => absurd start.finished some
  stopping := by
    intro shutdown stopping
    rw [start.shutdowns shutdown] at stopping
    exact stopping.elim
  stopRequested := by simp [start.stopRequested]
  last := by simp [start.loop, Loop.Last]

/-! ## The loop -/

/-- The loop goes on while every call stays where it is, except that a call may
pass from the batch to those dealt with. -/
theorem Sound.goesOn (sound : p.Sound config)
    {thread : EventThread ChannelOp ChannelOwned}
    (advances : p.world.Advances config thread.owned.world)
    (tracked : ({ p with thread := thread } : ChannelProcess).tracked = p.tracked)
    (finished : thread.owned.finished ≠ [] →
      p.thread.owned.finished ≠ [] ∨ thread.owned.world.state = .shutdown)
    (stopRequested : thread.stopRequested = p.thread.stopRequested)
    (last : thread.loop.Last → thread.stopRequested = true ∧ thread.ops = []) :
    ({ p with thread := thread } : ChannelProcess).Sound config where
  loopOk := sound.loopOk
  between := advances.1
  nodup := tracked ▸ sound.nodup
  entered := tracked ▸ sound.entered
  named := sound.named
  refused := fun call isRefused => advances.shutdown (sound.refused call isRefused)
  finished := fun some => (finished some).elim
    (fun before => advances.shutdown (sound.finished before)) id
  stopping := fun shutdown stopping =>
    advances.shutdown (sound.stopping shutdown stopping)
  stopRequested := fun stop =>
    advances.shutdown (sound.stopRequested (stopRequested ▸ stop))
  last := last

/-- The loop goes on without taking or running an operation. -/
theorem Sound.idles (sound : p.Sound config) {loop : Loop ChannelOp}
    {wakeup : Wakeup} {world : World}
    (advances : p.world.Advances config world)
    (handled : world.handled = p.world.handled)
    (none : p.thread.loop.remaining = [])
    (none' : loop.remaining = []) (notLast : ¬ loop.Last) :
    ({ p with thread := { p.thread with
        loop := loop
        wakeup := wakeup
        owned := { p.thread.owned with world := world } } } :
      ChannelProcess).Sound config := by
  refine sound.goesOn advances ?_ .inl rfl fun isLast => absurd isLast notLast
  simp only [ChannelProcess.tracked, ChannelProcess.world, EventThread.waiting, none, none']
  rw [handled]
  rfl

theorem Sound.isNew (sound : p.Sound config) {pc : PendingCall}
    {ops : List ChannelOp} {stopping : Bool}
    (running : p.thread.loop = .running (.handleNewCall pc :: ops) stopping) :
    pc.call ∉ p.world.handled := by
  have nodup := sound.nodup
  rw [tracked, EventThread.waiting, running] at nodup
  exact fun member => (List.nodup_append.mp nodup).2.2 _ member _
    (by simp [Loop.remaining, ChannelOp.calls]) rfl

theorem Sound.runOp (sound : p.Sound config) {op : ChannelOp}
    {ops : List ChannelOp} {stopping : Bool}
    (running : p.thread.loop = .running (op :: ops) stopping) :
    ({ p with thread := { p.thread with
        loop := .running ops stopping
        owned := p.thread.owned.runOp platform config op } } :
      ChannelProcess).Sound config := by
  have last : (Loop.running ops stopping).Last →
      p.thread.stopRequested = true ∧ p.thread.ops = [] := fun isLast =>
    sound.last (by rw [running]; exact isLast)
  cases op with
  | handleNewCall pc =>
      have placed : p.tracked = p.world.handled ++
          pc.call :: (ops ++ p.thread.ops).flatMap ChannelOp.calls := by
        rw [tracked, EventThread.waiting, running]
        rfl
      have isNew := sound.isNew running
      have advances : p.world.Advances config
          (p.world.step platform config (.newCall pc)) := sound.between.step isNew
      refine sound.goesOn advances ?_ .inl rfl last
      have handled : (p.world.step platform config (.newCall pc)).handled =
          p.world.handled ++ [pc.call] := World.step_handled _ _
      rw [placed, List.append_cons, ← handled]
      rfl
  | doShutdown shutdown =>
      have advances : p.world.Advances config
          (p.world.step platform config .shutdown) := sound.between.step trivial
      have shut : (p.world.step platform config .shutdown).state = .shutdown :=
        sound.between.doShutdown.1
      refine sound.goesOn advances ?_ (fun _ => .inr shut) rfl last
      have handled : (p.world.step platform config .shutdown).handled =
          p.world.handled := World.doShutdown_handled _
      have placed : p.tracked = p.world.handled ++
          (ops ++ p.thread.ops).flatMap ChannelOp.calls := by
        rw [tracked, EventThread.waiting, running]
        rfl
      rw [placed, ← handled]
      rfl

theorem Sound.stepLoop (sound : p.Sound config) {answer : PollAnswer}
    (sane : answer ≠ .failed) :
    (p.step platform config (.loop answer)).Sound config := by
  have stays : p.world.Advances config p.world := ⟨sound.between, le_refl _⟩
  simp only [ChannelProcess.step, EventThread.step]
  cases loop : p.thread.loop with
  | runPendingOps =>
      refine sound.goesOn stays ?_ .inl rfl fun stop => ⟨stop, rfl⟩
      simp [tracked, EventThread.waiting, loop, EventThread.swapOps, Loop.remaining,
        ChannelProcess.world]
  | running ops stopping =>
      cases ops with
      | cons op ops => exact sound.runOp loop
      | nil =>
          cases stopping with
          | true =>
              refine sound.goesOn stays ?_ .inl rfl fun _ =>
                sound.last (by rw [loop]; rfl)
              simp [tracked, EventThread.waiting, loop, Loop.remaining, ChannelProcess.world]
          | false =>
              exact sound.idles sound.between.readClock rfl (by rw [loop]; rfl) rfl id
  | runDue now =>
      have none : p.thread.loop.remaining = [] := by rw [loop]; rfl
      have advances : p.world.Advances config
          (p.world.step platform config (.runDue now)) := sound.between.step trivial
      have handled : (p.world.step platform config (.runDue now)).handled =
          p.world.handled := World.runDue_handled _ _
      refine sound.idles advances handled none ?_ ?_
      · split_ifs <;> rfl
      · split_ifs <;> exact id
  | preparePoll =>
      exact sound.idles (ChannelOwned.preparePoll_advances sound.between)
        ChannelOwned.preparePoll_handled (by rw [loop]; rfl) rfl id
  | poll events timeoutMs =>
      have none : p.thread.loop.remaining = [] := by rw [loop]; rfl
      cases answer with
      | interrupted => exact sound.idles stays rfl none rfl id
      | failed => exact absurd rfl sane
      | returned wakeup socket => exact sound.idles stays rfl none rfl id
  | drain watching wakeup socket =>
      exact sound.idles stays rfl (by rw [loop]; rfl) rfl id
  | dispatch watching socket =>
      have none : p.thread.loop.remaining = [] := by rw [loop]; rfl
      have advances : p.world.Advances config
          (p.world.step platform config (.ready socket)) := sound.between.step trivial
      simp only
      split_ifs
      · exact sound.idles advances (World.onReady_handled _ _) none rfl id
      · exact sound.idles stays rfl none rfl id
  | exited => exact sound

/-! ## The other threads -/

/-- One caller moves, on its own or with what it does to the event thread. -/
theorem Sound.callerMoves (sound : p.Sound config) {call : Nat}
    {unaryCall : UnaryCall} {thread : EventThread ChannelOp ChannelOwned}
    (between : thread.owned.world.Between config)
    (state : thread.owned.world.state = p.world.state)
    (finished : thread.owned.finished = p.thread.owned.finished)
    (stopRequested : thread.stopRequested = p.thread.stopRequested)
    (last : thread.loop.Last → thread.stopRequested = true ∧ thread.ops = [])
    (nodup : ({ p with thread := thread } : ChannelProcess).tracked.Nodup)
    (entered : call ∈ ({ p with thread := thread } : ChannelProcess).tracked ↔
      unaryCall.Entered)
    (others : ∀ other, other ≠ call →
      (other ∈ ({ p with thread := thread } : ChannelProcess).tracked ↔
        other ∈ p.tracked))
    (named : ∀ pc, unaryCall = .post pc → pc.call = call)
    (refused : unaryCall = .failLocal → p.world.state = .shutdown) :
    (({ p with thread := thread } : ChannelProcess).setUnaryCall call
      unaryCall).Sound config where
  loopOk := sound.loopOk
  between := between
  nodup := nodup
  entered :=
    (Function.forall_update_iff p.unaryCalls fun other unaryCall =>
      other ∈ ({ p with thread := thread } : ChannelProcess).tracked ↔
        unaryCall.Entered).mpr
    ⟨entered, fun other apart => (others other apart).trans (sound.entered other)⟩
  named :=
    (Function.forall_update_iff p.unaryCalls fun other unaryCall =>
      ∀ pc, unaryCall = .post pc → pc.call = other).mpr
    ⟨named, fun other _ => sound.named other⟩
  refused :=
    (Function.forall_update_iff p.unaryCalls fun _ unaryCall =>
      unaryCall = .failLocal → thread.owned.world.state = .shutdown).mpr
    ⟨fun isRefused => state.trans (refused isRefused),
      fun other _ isRefused => state.trans (sound.refused other isRefused)⟩
  finished := fun some => state.trans (sound.finished (finished ▸ some))
  stopping := fun shutdown stopping => state.trans (sound.stopping shutdown stopping)
  stopRequested := fun stop => state.trans (sound.stopRequested (stopRequested ▸ stop))
  last := last

theorem Sound.setUnaryCall (sound : p.Sound config) {call : Nat}
    {unaryCall : UnaryCall} {wakeup : Wakeup}
    (entered : (p.unaryCalls call).Entered ↔ unaryCall.Entered)
    (named : ∀ pc, unaryCall = .post pc → pc.call = call)
    (refused : unaryCall = .failLocal → p.world.state = .shutdown) :
    (({ p with thread := { p.thread with wakeup := wakeup } } :
      ChannelProcess).setUnaryCall call unaryCall).Sound config :=
  sound.callerMoves sound.between rfl rfl rfl sound.last sound.nodup
    ((sound.entered call).trans entered) (fun _ _ => Iff.rfl) named refused

theorem Sound.enters (sound : p.Sound config) {call : Nat} {unaryCall : UnaryCall}
    {thread : EventThread ChannelOp ChannelOwned}
    (outside : ¬ (p.unaryCalls call).Entered)
    (between : thread.owned.world.Between config)
    (state : thread.owned.world.state = p.world.state)
    (finished : thread.owned.finished = p.thread.owned.finished)
    (stopRequested : thread.stopRequested = p.thread.stopRequested)
    (last : thread.loop.Last → thread.stopRequested = true ∧ thread.ops = [])
    (tracked : ({ p with thread := thread } : ChannelProcess).tracked.Perm
      (call :: p.tracked))
    (inside : unaryCall = .notify ∨ unaryCall = .wait) :
    (({ p with thread := thread } : ChannelProcess).setUnaryCall call
      unaryCall).Sound config := by
  have isNew : call ∉ p.tracked := fun member => outside ((sound.entered call).mp member)
  refine sound.callerMoves between state finished stopRequested last
    (tracked.nodup_iff.mpr (List.nodup_cons.mpr ⟨isNew, sound.nodup⟩)) ?_ ?_ ?_ ?_
  · rw [tracked.mem_iff]
    rcases inside with rfl | rfl <;> simp [UnaryCall.Entered]
  · intro other apart
    rw [tracked.mem_iff, List.mem_cons, or_iff_right apart]
  · rintro pc rfl
    simp at inside
  · rintro rfl
    simp at inside

theorem Sound.stepUnaryCall (sound : p.Sound config) (call : Nat) :
    (p.stepUnaryCall config call).Sound config := by
  unfold ChannelProcess.stepUnaryCall
  cases here : p.unaryCalls call with
  | called arguments =>
      simp only
      rcases arguments.check_spec config call with ⟨-, result, rejected, -⟩ | ⟨-, posts⟩
      · rw [rejected]
        exact sound.setUnaryCall (by rw [here]; rfl) (by simp) (by simp)
      · rw [posts]
        refine sound.setUnaryCall (by rw [here]; rfl) ?_ (by simp)
        rintro _ ⟨⟩
        rfl
  | post pc =>
      have outside : ¬ (p.unaryCalls call).Entered := by rw [here]; exact id
      obtain rfl := sound.named call pc here
      have refused (stop : p.thread.stopRequested = true) :
          (p.setUnaryCall pc.call .failLocal).Sound config :=
        sound.setUnaryCall (by rw [here]; rfl) (by simp) fun _ => sound.stopRequested stop
      simp only
      rw [if_neg (by simp [sound.loopOk])]
      cases stop : p.thread.stopRequested with
      | true =>
          rw [EventThread.post_of_stopped stop]
          exact refused stop
      | false =>
          rw [EventThread.post_of_running stop]
          refine sound.enters outside sound.between rfl rfl rfl ?_ ?_ (.inl rfl)
          · intro isLast
            cases stop.symm.trans (sound.last isLast).1
          · have placed : ({ p with thread := { p.thread with
                ops := p.thread.ops ++ [.handleNewCall pc] } } :
                ChannelProcess).tracked = p.tracked ++ [pc.call] := by
              simp [tracked, EventThread.waiting, ChannelOp.calls, ChannelProcess.world]
            exact placed ▸ List.perm_append_singleton pc.call p.tracked
  | notify => exact sound.setUnaryCall (by rw [here]; rfl) (by simp) (by simp)
  | failLocal =>
      have outside : ¬ (p.unaryCalls call).Entered := by rw [here]; exact id
      have isNew : call ∉ p.world.handled := fun member =>
        outside ((sound.entered call).mp (List.mem_append_left _ member))
      have down := sound.between.down (.inr (sound.refused call here))
      refine sound.enters outside
        (.inr (.inr (.inr ((down.enroll isNew).failCall _)))) rfl rfl rfl sound.last ?_
        (.inr rfl)
      change (p.world.handled ++ [call] ++ _).Perm _
      rw [List.append_assoc]
      exact List.perm_middle
  | wait =>
      simp only
      split
      · exact sound
      · exact sound.setUnaryCall (by rw [here]; rfl) (by simp) (by simp)
  | rejected result => exact sound
  | returned result => exact sound

/-- One thread moves in `Shutdown`; the mutex and the flag under it matter only
to such threads. -/
theorem Sound.setShutdown (sound : p.Sound config) {shutdown : Nat}
    {at' : Shutdown} {shutdownMu : Option Nat} {shutdownDone : Bool}
    (stopping : at'.Stopping → p.world.state = .shutdown) :
    (({ p with shutdownMu := shutdownMu, shutdownDone := shutdownDone } :
      ChannelProcess).setShutdown shutdown at').Sound config :=
  { sound with
    stopping :=
      (Function.forall_update_iff p.shutdowns fun _ at' =>
        at'.Stopping → p.world.state = .shutdown).mpr
      ⟨stopping, fun other _ => sound.stopping other⟩ }

theorem Sound.notify (sound : p.Sound config) :
    ({ p with thread := p.thread.notify } : ChannelProcess).Sound config :=
  { sound with }

theorem Sound.stepShutdown (sound : p.Sound config) (shutdown : Nat) :
    (p.stepShutdown shutdown).Sound config := by
  unfold ChannelProcess.stepShutdown
  cases here : p.shutdowns shutdown with
  | called =>
      simp only
      split
      · exact sound.setShutdown False.elim
      · exact sound
  | locked =>
      simp only
      split_ifs
      · exact sound.setShutdown False.elim
      · exact sound.setShutdown False.elim
      · exact sound.setShutdown False.elim
  | post =>
      simp only
      cases stop : p.thread.stopRequested with
      | true =>
          rw [EventThread.post_of_stopped stop]
          exact sound.setShutdown fun _ => sound.stopRequested stop
      | false =>
          rw [EventThread.post_of_running stop]
          have posted : ({ p with thread := { p.thread with
              ops := p.thread.ops ++ [.doShutdown shutdown] } } :
              ChannelProcess).Sound config := by
            refine sound.goesOn ⟨sound.between, le_refl _⟩ ?_ .inl rfl ?_
            · simp [tracked, EventThread.waiting, ChannelOp.calls, ChannelProcess.world]
            · intro isLast
              cases stop.symm.trans (sound.last isLast).1
          exact posted.setShutdown False.elim
  | notify => exact sound.notify.setShutdown False.elim
  | wait =>
      simp only
      split_ifs with done
      · refine sound.setShutdown fun _ => sound.finished ?_
        exact List.ne_nil_of_mem done
      · exact sound
  | stop =>
      have down := sound.stopping shutdown (by rw [here]; trivial)
      obtain ⟨joined, requested⟩ := p.thread.requestStop_eq
      have stopped : ({ p with thread := { p.thread with
          stopRequested := true
          joined := joined } } : ChannelProcess).Sound config :=
        { sound with
          stopRequested := fun _ => down
          last := fun isLast => ⟨rfl, (sound.last isLast).2⟩ }
      simp only
      rw [requested]
      exact stopped.setShutdown fun _ => down
  | stopNotify mustJoin =>
      simp only
      split_ifs
      · exact sound.notify.setShutdown fun _ =>
          sound.stopping shutdown (by rw [here]; trivial)
      · exact sound.notify.setShutdown False.elim
  | join =>
      simp only
      split
      · exact sound.setShutdown False.elim
      · exact sound
  | returned => exact sound

theorem Sound.step (sound : p.Sound config) {action : ProcessAction}
    (admits : p.Admits action) : (p.step platform config action).Sound config := by
  cases action with
  | unaryCall call => exact sound.stepUnaryCall call
  | shutdown shutdown => exact sound.stepShutdown shutdown
  | loop answer => exact sound.stepLoop fun failed => admits (by rw [failed])

theorem Reachable.sound (reachable : Reachable platform config p) :
    p.Sound config :=
  reachable.invariant (Sound config) (fun _ start => start.sound)
    fun _ _ sound admits => sound.step admits

/-! ## No waiter is left -/

theorem Sound.exited (sound : p.Sound config) (exited : p.thread.loop = .exited) :
    p.thread.ops = [] ∧ p.tracked = p.world.handled ∧ p.world.state = .shutdown := by
  obtain ⟨stop, empty⟩ := sound.last (by rw [exited]; trivial)
  refine ⟨empty, ?_, sound.stopRequested stop⟩
  simp [tracked, EventThread.waiting, exited, empty, Loop.remaining]

theorem post_world (op : ChannelOp) : (p.thread.post op).2.owned.world = p.world := by
  rw [EventThread.post_owned]
  rfl

/-- A caller of `UnaryCall` touches the world only to fail its call. -/
theorem stepUnaryCall_world {call : Nat} (notFailing : p.unaryCalls call ≠ .failLocal) :
    (p.stepUnaryCall config call).world = p.world := by
  unfold ChannelProcess.stepUnaryCall
  cases here : p.unaryCalls call with
  | failLocal => exact absurd here notFailing
  | post pc =>
      simp only
      split_ifs
      · rfl
      · rfl
      · exact post_world _
  | wait =>
      simp only
      split <;> rfl
  | called | notify | rejected | returned => rfl

theorem stepShutdown_world (shutdown : Nat) :
    (p.stepShutdown shutdown).world = p.world := by
  unfold ChannelProcess.stepShutdown
  cases p.shutdowns shutdown with
  | called | join =>
      simp only
      split <;> rfl
  | locked | wait | stopNotify =>
      simp only
      split_ifs <;> rfl
  | post =>
      simp only
      split_ifs
      · rfl
      · exact post_world _
  | stop =>
      obtain ⟨joined, requested⟩ := p.thread.requestStop_eq
      simp only
      rw [requested]
      rfl
  | notify | returned => rfl

theorem Sound.stepLoop_refusal (sound : p.Sound config)
    (shut : p.world.state = .shutdown) (answer : PollAnswer) :
    p.world.Refusal (p.step platform config (.loop answer)).world := by
  have down := sound.between.down (.inr shut)
  have same := World.refusal_rfl p.world
  have callback (event : ChannelEvent) (admits : p.world.Admits event) :
      p.world.Refusal (p.world.step platform config event) :=
    down.step_refusal shut admits
  simp only [ChannelProcess.step, EventThread.step]
  cases loop : p.thread.loop with
  | runPendingOps | drain | exited => exact same
  | running ops stopping =>
      cases ops with
      | cons op ops =>
          cases op with
          | handleNewCall pc => exact callback (.newCall pc) (sound.isNew loop)
          | doShutdown => exact callback .shutdown trivial
      | nil =>
          cases stopping with
          | true => exact same
          | false => exact ⟨rfl, .inl ⟨rfl, rfl⟩⟩
  | runDue now => exact callback (.runDue now) trivial
  | preparePoll => exact callback .pollEvents trivial
  | poll events timeoutMs =>
      cases answer <;> exact same
  | dispatch watching socket =>
      simp only
      split_ifs
      · exact callback (.ready socket) trivial
      · exact same

theorem Sound.step_refusal (sound : p.Sound config)
    (shut : p.world.state = .shutdown) (action : ProcessAction) :
    p.world.Refusal (p.step platform config action).world := by
  have same := World.refusal_rfl p.world
  cases action with
  | unaryCall call =>
      by_cases here : p.unaryCalls call = .failLocal
      · simp only [ChannelProcess.step, ChannelProcess.stepUnaryCall, here]
        refine ⟨rfl, .inr ⟨call, _, fun member => ?_, rfl, rfl⟩⟩
        have entered := (sound.entered call).mp (List.mem_append_left _ member)
        rw [here] at entered
        exact entered
      · rw [ChannelProcess.step, stepUnaryCall_world here]
        exact same
  | shutdown shutdown =>
      rw [ChannelProcess.step, stepShutdown_world]
      exact same
  | loop answer => exact sound.stepLoop_refusal shut answer

/-- Whatever happens after shutdown, the calls handled since have failed as
unavailable. -/
theorem Sound.refusedAfter {p' : ChannelProcess} (sound : p.Sound config)
    (shut : p.world.state = .shutdown) (later : Later platform config p p') :
    p'.world.RefusedAfter p.world.handled := by
  have kept := later.invariant
    (fun p' => p'.Sound config ∧ p'.world.state = .shutdown ∧
      p'.world.RefusedAfter p.world.handled) ?_ ?_
  · exact kept.2.2
  · rintro _ rfl
    exact ⟨sound, shut, fun call member isLate => absurd member isLate⟩
  · rintro before action ⟨soundHere, shutHere, refused⟩ admits
    have refusal : before.world.Refusal (before.step platform config action).world :=
      soundHere.step_refusal shutHere action
    exact ⟨soundHere.step admits, refusal.1.trans shutHere,
      refused.refusal (soundHere.between.down (.inr shutHere)).ledger refusal⟩

/-- Shutdown leaves no waiter: when the loop has exited, no operation is in the
queue, and every call that is past its `Post` is done or about to be failed by
its own thread; and calls handled after `DoShutdown` end as unavailable. -/
theorem shutdown_leaves_no_waiter (reachable : Reachable platform config p) :
    (p.thread.loop = .exited →
      p.thread.ops = [] ∧
        ∀ call, (p.unaryCalls call).PassedPost →
          (p.world.calls call).done = true ∨ p.unaryCalls call = .failLocal) ∧
    (p.world.state = .shutdown → ∀ p', Later platform config p p' →
      ∀ call ∈ p'.world.handled, call ∉ p.world.handled →
        (p'.world.calls call).done = true ∧
          (p'.world.calls call).result.code = .unavailable) := by
  have sound := reachable.sound
  refine ⟨fun exited => ?_, fun shut p' later call member isLate => ?_⟩
  · obtain ⟨empty, tracked, shut⟩ := sound.exited exited
    refine ⟨empty, fun call passed => ?_⟩
    by_cases refused : p.unaryCalls call = .failLocal
    · exact .inr refused
    · have entered : (p.unaryCalls call).Entered := by
        cases here : p.unaryCalls call <;> rw [here] at passed refused
        all_goals first | exact passed | exact trivial | exact absurd rfl refused
      have handled : call ∈ p.world.handled := tracked ▸ (sound.entered call).mpr entered
      exact .inl ((sound.between.down (.inr shut)).ledger.settled call handled
        List.not_mem_nil)
  · have failed := sound.refusedAfter shut later call member isLate
    exact ⟨failed.done, failed.code⟩

/-- A channel that three threads are about to call. -/
def sampleProcess : ChannelProcess where
  thread := { started := true, owned := { world := World.sampleStart } }
  loopOk := true
  unaryCalls _ := .called {}

theorem sampleProcess_reachable {actions : List ProcessAction}
    (sane : ∀ action ∈ actions, action ≠ .loop .failed) :
    Reachable World.silentPlatform World.sampleConfig
      (actions.foldl (step World.silentPlatform World.sampleConfig) sampleProcess) := by
  refine Runs.Reach.foldl (fun action member _ => sane action member) (.start ?_)
  exact started_of_fresh (World.sampleStart_fresh World.sampleConfig rfl _ rfl _)
    fun _ => ⟨_, rfl⟩

/-- Call 0 is posted before `DoShutdown`, call 1 between `DoShutdown` and
`Stop`, and call 2 after `Stop`; then the loop exits. -/
def sampleRace : List ProcessAction :=
  [.unaryCall 0, .unaryCall 0, .shutdown 0, .shutdown 0, .shutdown 0, .shutdown 0,
    .loop .interrupted, .loop .interrupted, .loop .interrupted, .unaryCall 1,
    .unaryCall 1, .shutdown 0, .shutdown 0, .unaryCall 2, .unaryCall 2,
    .loop .interrupted, .loop .interrupted, .loop .interrupted, .loop .interrupted,
    .loop .interrupted, .loop .interrupted, .loop .interrupted]

theorem raced_calls_are_settled :
    let p := sampleRace.foldl (step World.silentPlatform World.sampleConfig)
      sampleProcess
    ((p.world.calls 0).done = true ∨ p.unaryCalls 0 = .failLocal) ∧
      ((p.world.calls 1).done = true ∨ p.unaryCalls 1 = .failLocal) ∧
      ((p.world.calls 2).done = true ∨ p.unaryCalls 2 = .failLocal) := by
  intro p
  have reachable : Reachable World.silentPlatform World.sampleConfig p :=
    sampleProcess_reachable (by simp [sampleRace])
  have settled := ((shutdown_leaves_no_waiter reachable).1 rfl).2
  exact ⟨settled 0 trivial, settled 1 trivial, settled 2 trivial⟩

end ChannelProcess

end Egrpc
