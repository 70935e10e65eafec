import Egrpc.ChannelShutdown

/-!
# The shutdown mutex

Any number of threads may call `Shutdown`, and the destructor is one of them.
Seen from the mutex, a channel is open until one `Shutdown` has taken the flag;
then that one is closing it while every other thread stays outside; and then it
is closed and the loop has exited.  So when a `Shutdown` returns, whichever it
is, no other thread is left that uses what the event thread owned.
-/

namespace Egrpc

/-- The thread has taken the flag and not returned: it posts `DoShutdown`, stops
the loop and joins it. -/
def Shutdown.Closing : Shutdown → Prop
  | .post | .notify | .wait | .stop | .stopNotify _ | .join => True
  | .called | .locked | .returned => False

/-- How far a thread that closes the channel is: it was told to join when the
loop was marked as joined. -/
def Shutdown.ClosingWith (joined : Bool) : Shutdown → Prop
  | .post | .notify | .wait | .stop => joined = false
  | .stopNotify mustJoin => mustJoin = true ∧ joined = true
  | .join => joined = true
  | .called | .locked | .returned => False

namespace EventThread

variable {Op State : Type} {thread : EventThread Op State}

theorem post_eq (op : Op) :
    ∃ ops, (thread.post op).2 = { thread with ops := ops } := by
  unfold post
  split
  · exact ⟨thread.ops, rfl⟩
  · exact ⟨_, rfl⟩

theorem step_exited (callbacks : Callbacks Op State) (answer : PollAnswer)
    (exited : thread.loop = .exited) : thread.step callbacks answer = thread := by
  simp only [step, exited]

end EventThread

/-- What a caller's thread says when it finds the queue closed. -/
def shutDownMessage : Bytes :=
  Bytes.ofString "channel is shut down"

namespace World

/-- A channel after some callers have failed their calls themselves. -/
def refuse (refused : List Nat) (w : World) : World :=
  { w with
    handled := w.handled ++ refused
    calls := fun call =>
      if call ∈ refused then (w.calls call).failLocal .unavailable shutDownMessage
      else w.calls call }

theorem refuse_nil (w : World) : w.refuse [] = w := by
  simp [refuse]

theorem refuse_concat {w : World} {refused : List Nat} {call : Nat}
    (isNew : call ∉ refused) :
    ((w.refuse refused).recordHandled call).failCall shutDownMessage call =
      w.refuse (refused ++ [call]) := by
  have calls : Function.update (w.refuse refused).calls call
      (((w.refuse refused).calls call).failLocal .unavailable shutDownMessage) =
        (w.refuse (refused ++ [call])).calls := by
    funext other
    by_cases same : other = call
    · subst same
      simp [refuse, isNew]
    · simp [refuse, same]
  have handled : (w.refuse refused).handled ++ [call] =
      (w.refuse (refused ++ [call])).handled := List.append_assoc ..
  calc ((w.refuse refused).recordHandled call).failCall shutDownMessage call
      = { w with
          handled := (w.refuse refused).handled ++ [call]
          calls := Function.update (w.refuse refused).calls call
            (((w.refuse refused).calls call).failLocal .unavailable shutDownMessage) } := rfl
    _ = w.refuse (refused ++ [call]) := by rw [calls, handled]; rfl

end World

namespace ChannelProcess

variable {platform : Platform} {config : ChannelConfig} {p : ChannelProcess}

/-! ## The shutdown mutex -/

/-- Every thread in `Shutdown` holds the mutex and is about to look at the flag,
or is outside at one of the given places. -/
def AtMutex (outside : Shutdown → Prop) (p : ChannelProcess) : Prop :=
  ∀ shutdown,
    p.shutdownMu = some shutdown ∧ p.shutdowns shutdown = .locked ∨
      p.shutdownMu ≠ some shutdown ∧ outside (p.shutdowns shutdown)

/-- No thread has taken the flag yet. -/
structure Open (p : ChannelProcess) : Prop where
  shutdownDone : p.shutdownDone = false
  joined : p.thread.joined = false
  threads : p.AtMutex (· = .called)

/-- One thread closes the channel; the others are outside. -/
structure ClosedBy (shutdown : Nat) (p : ChannelProcess) : Prop where
  shutdownDone : p.shutdownDone = true
  shutdownMu : p.shutdownMu = some shutdown
  closing : (p.shutdowns shutdown).ClosingWith p.thread.joined
  others : ∀ other, other ≠ shutdown → p.shutdowns other = .called

/-- The thread that closed the channel is through. -/
structure Closed (p : ChannelProcess) : Prop where
  shutdownDone : p.shutdownDone = true
  joined : p.thread.joined = true
  exited : p.thread.loop = .exited
  threads : p.AtMutex fun at' => at' = .called ∨ at' = .returned

/-- The phases of a channel as its shutdown mutex sees them. -/
def Phase (p : ChannelProcess) : Prop :=
  p.Open ∨ (∃ shutdown, p.ClosedBy shutdown) ∨ p.Closed

/-- The invariant of the shutdown mutex. -/
structure Guarded (p : ChannelProcess) : Prop where
  loopOk : p.loopOk = true
  started : p.thread.started = true
  phase : p.Phase

theorem Started.guarded (start : p.Started config) : p.Guarded where
  loopOk := start.loopOk
  started := start.started
  phase := by
    refine .inl ⟨start.shutdownDone, start.joined, fun shutdown => .inr ⟨?_, ?_⟩⟩
    · simp [start.shutdownMu]
    · exact start.shutdowns shutdown

/-- Something happened that the threads in `Shutdown` do not see. -/
structure Aside (p p' : ChannelProcess) : Prop where
  loopOk : p'.loopOk = p.loopOk
  shutdownMu : p'.shutdownMu = p.shutdownMu
  shutdownDone : p'.shutdownDone = p.shutdownDone
  shutdowns : p'.shutdowns = p.shutdowns
  started : p'.thread.started = p.thread.started
  joined : p'.thread.joined = p.thread.joined
  exited : p.thread.loop = .exited → p'.thread.loop = .exited

theorem stepUnaryCall_aside (call : Nat) : p.Aside (p.stepUnaryCall config call) := by
  unfold ChannelProcess.stepUnaryCall
  cases p.unaryCalls call with
  | post pc =>
      obtain ⟨ops, posted⟩ := p.thread.post_eq (.handleNewCall pc)
      simp only
      rw [posted]
      split_ifs <;> exact ⟨rfl, rfl, rfl, rfl, rfl, rfl, id⟩
  | wait =>
      simp only
      split <;> exact ⟨rfl, rfl, rfl, rfl, rfl, rfl, id⟩
  | called | notify | failLocal | rejected | returned =>
      exact ⟨rfl, rfl, rfl, rfl, rfl, rfl, id⟩

theorem stepLoop_aside (answer : PollAnswer) :
    p.Aside (p.step platform config (.loop answer)) := by
  obtain ⟨started, joined, -⟩ :=
    p.thread.step_flags (ChannelOwned.callbacks platform config) answer
  refine ⟨rfl, rfl, rfl, rfl, started, joined, fun exited => ?_⟩
  simp only [ChannelProcess.step, EventThread.step_exited _ _ exited]
  exact exited

theorem Closed.aside {p' : ChannelProcess} (closed : p.Closed) (aside : p.Aside p') :
    p'.Closed where
  shutdownDone := aside.shutdownDone.trans closed.shutdownDone
  joined := aside.joined.trans closed.joined
  exited := aside.exited closed.exited
  threads := by
    rw [AtMutex, aside.shutdownMu, aside.shutdowns]
    exact closed.threads

theorem Guarded.aside {p' : ChannelProcess} (guarded : p.Guarded)
    (aside : p.Aside p') : p'.Guarded where
  loopOk := aside.loopOk.trans guarded.loopOk
  started := aside.started.trans guarded.started
  phase := by
    rcases guarded.phase with isOpen | ⟨shutdown, closedBy⟩ | closed
    · refine .inl ⟨aside.shutdownDone.trans isOpen.shutdownDone,
        aside.joined.trans isOpen.joined, ?_⟩
      rw [AtMutex, aside.shutdownMu, aside.shutdowns]
      exact isOpen.threads
    · refine .inr (.inl ⟨shutdown, aside.shutdownDone.trans closedBy.shutdownDone,
        aside.shutdownMu.trans closedBy.shutdownMu, ?_, ?_⟩)
      · rw [aside.shutdowns, aside.joined]
        exact closedBy.closing
      · rw [aside.shutdowns]
        exact closedBy.others
    · exact .inr (.inr (closed.aside aside))

theorem setShutdown_self (shutdown : Nat) (at' : Shutdown) :
    (p.setShutdown shutdown at').shutdowns shutdown = at' :=
  Function.update_self ..

theorem setShutdown_of_ne {shutdown other : Nat} (apart : other ≠ shutdown)
    (at' : Shutdown) :
    (p.setShutdown shutdown at').shutdowns other = p.shutdowns other :=
  Function.update_of_ne apart ..

theorem AtMutex.enter {outside : Shutdown → Prop} (threads : p.AtMutex outside)
    (free : p.shutdownMu = none) (shutdown : Nat) :
    ({ p with shutdownMu := some shutdown }.setShutdown shutdown .locked).AtMutex
      outside := by
  intro other
  by_cases same : other = shutdown
  · subst same
    exact .inl ⟨rfl, setShutdown_self ..⟩
  · rcases threads other with ⟨held, -⟩ | ⟨-, here⟩
    · rw [free] at held
      cases held
    · refine .inr ⟨fun held => same (Option.some.inj held).symm, ?_⟩
      rw [setShutdown_of_ne same]
      exact here

theorem AtMutex.leave {outside : Shutdown → Prop} (threads : p.AtMutex outside)
    {shutdown : Nat} (held : p.shutdownMu = some shutdown)
    (returned : outside .returned) : (p.leaveShutdown shutdown).AtMutex outside := by
  intro other
  refine .inr ⟨by simp [leaveShutdown, setShutdown], ?_⟩
  unfold leaveShutdown
  by_cases same : other = shutdown
  · subst same
    rw [setShutdown_self]
    exact returned
  · rcases threads other with ⟨heldHere, -⟩ | ⟨-, here⟩
    · exact absurd (Option.some.inj (heldHere.symm.trans held)) same
    · rw [setShutdown_of_ne same]
      exact here

theorem ClosedBy.moves {shutdown : Nat} (closedBy : p.ClosedBy shutdown)
    {at' : Shutdown} {thread : EventThread ChannelOp ChannelOwned}
    (closing : at'.ClosingWith thread.joined) :
    (({ p with thread := thread } : ChannelProcess).setShutdown shutdown
      at').ClosedBy shutdown where
  shutdownDone := closedBy.shutdownDone
  shutdownMu := closedBy.shutdownMu
  closing := by
    rw [setShutdown_self]
    exact closing
  others := by
    intro other apart
    rw [setShutdown_of_ne apart]
    exact closedBy.others other apart

/-- While no thread has the flag, the first to take it closes the channel. -/
theorem Open.stepShutdown (isOpen : p.Open) (loopOk : p.loopOk = true)
    (shutdown : Nat) : (p.stepShutdown shutdown).Phase := by
  unfold ChannelProcess.stepShutdown
  rcases isOpen.threads shutdown with ⟨held, here⟩ | ⟨-, here⟩
  · rw [here]
    simp only
    rw [if_neg (by simp [isOpen.shutdownDone]), if_neg (by simp [loopOk])]
    refine .inr (.inl ⟨shutdown, rfl, held, ?_, fun other apart => ?_⟩)
    · rw [setShutdown_self]
      exact isOpen.joined
    · rw [setShutdown_of_ne apart]
      rcases isOpen.threads other with ⟨heldHere, -⟩ | ⟨-, outside⟩
      · exact absurd (Option.some.inj (heldHere.symm.trans held)) apart
      · exact outside
  · rw [here]
    cases free : p.shutdownMu with
    | none => exact .inl { isOpen with threads := isOpen.threads.enter free shutdown }
    | some holder => exact .inl isOpen

theorem ClosedBy.stepSelf {shutdown : Nat} (closedBy : p.ClosedBy shutdown)
    (started : p.thread.started = true) : (p.stepShutdown shutdown).Phase := by
  have closing := closedBy.closing
  unfold ChannelProcess.stepShutdown
  cases here : p.shutdowns shutdown with
  | called | locked | returned =>
      rw [here] at closing
      exact closing.elim
  | post =>
      rw [here] at closing
      obtain ⟨ops, posted⟩ := p.thread.post_eq (.doShutdown shutdown)
      simp only
      rw [posted]
      split_ifs
      · exact .inr (.inl ⟨shutdown, closedBy.moves closing⟩)
      · exact .inr (.inl ⟨shutdown, closedBy.moves closing⟩)
  | notify =>
      rw [here] at closing
      exact .inr (.inl ⟨shutdown, closedBy.moves closing⟩)
  | wait =>
      simp only
      split_ifs
      · rw [here] at closing
        exact .inr (.inl ⟨shutdown, closedBy.moves closing⟩)
      · exact .inr (.inl ⟨shutdown, closedBy⟩)
  | stop =>
      -- Nobody has joined the loop yet, so this thread is told to.
      rw [here] at closing
      have unjoined : p.thread.joined = false := closing
      have told : p.thread.requestStop =
          (true, { p.thread with stopRequested := true, joined := true }) := by
        simp [EventThread.requestStop, started, unjoined]
      simp only
      rw [told]
      exact .inr (.inl ⟨shutdown, closedBy.moves ⟨rfl, rfl⟩⟩)
  | stopNotify mustJoin =>
      rw [here] at closing
      obtain ⟨rfl, joined⟩ := closing
      exact .inr (.inl ⟨shutdown, closedBy.moves joined⟩)
  | join =>
      simp only
      split
      · rename_i exited
        rw [here] at closing
        refine .inr (.inr ⟨closedBy.shutdownDone, closing, exited, fun other => .inr ?_⟩)
        refine ⟨by simp [leaveShutdown, setShutdown], ?_⟩
        by_cases same : other = shutdown
        · subst same
          exact .inr (setShutdown_self ..)
        · exact .inl ((setShutdown_of_ne same _).trans (closedBy.others other same))
      · exact .inr (.inl ⟨shutdown, closedBy⟩)

/-- While one thread closes the channel, the others wait for the mutex. -/
theorem ClosedBy.stepShutdown {holder : Nat} (closedBy : p.ClosedBy holder)
    (started : p.thread.started = true) (shutdown : Nat) :
    (p.stepShutdown shutdown).Phase := by
  by_cases same : shutdown = holder
  · subst same
    exact closedBy.stepSelf started
  · unfold ChannelProcess.stepShutdown
    rw [closedBy.others shutdown same]
    simp only [closedBy.shutdownMu]
    exact .inr (.inl ⟨holder, closedBy⟩)

/-- Once the channel is closed, threads only pass through the mutex. -/
theorem Closed.stepShutdown (closed : p.Closed) (shutdown : Nat) :
    (p.stepShutdown shutdown).Closed := by
  unfold ChannelProcess.stepShutdown
  rcases closed.threads shutdown with ⟨held, here⟩ | ⟨-, here | here⟩
  · rw [here]
    simp only [closed.shutdownDone]
    exact { closed with threads := closed.threads.leave held (.inr rfl) }
  · rw [here]
    cases free : p.shutdownMu with
    | none => exact { closed with threads := closed.threads.enter free shutdown }
    | some holder => exact closed
  · rw [here]
    exact closed

theorem stepShutdown_fixed (shutdown : Nat) :
    (p.stepShutdown shutdown).loopOk = p.loopOk ∧
      (p.stepShutdown shutdown).thread.started = p.thread.started ∧
      (p.stepShutdown shutdown).thread.loop = p.thread.loop := by
  obtain ⟨ops, posted⟩ := p.thread.post_eq (.doShutdown shutdown)
  obtain ⟨joined, requested⟩ := p.thread.requestStop_eq
  unfold ChannelProcess.stepShutdown
  cases p.shutdowns shutdown with
  | called | join =>
      simp only
      split <;> exact ⟨rfl, rfl, rfl⟩
  | locked | wait | stopNotify =>
      simp only
      split_ifs <;> exact ⟨rfl, rfl, rfl⟩
  | post =>
      simp only
      rw [posted]
      split_ifs <;> exact ⟨rfl, rfl, rfl⟩
  | stop =>
      simp only
      rw [requested]
      exact ⟨rfl, rfl, rfl⟩
  | notify | returned => exact ⟨rfl, rfl, rfl⟩

theorem stepShutdown_unaryCalls (shutdown : Nat) :
    (p.stepShutdown shutdown).unaryCalls = p.unaryCalls := by
  unfold ChannelProcess.stepShutdown
  cases p.shutdowns shutdown with
  | called | join =>
      simp only
      split <;> rfl
  | locked | post | wait | stopNotify =>
      simp only
      split_ifs <;> rfl
  | notify | stop | returned => rfl

theorem Guarded.stepShutdown (guarded : p.Guarded) (shutdown : Nat) :
    (p.stepShutdown shutdown).Guarded := by
  obtain ⟨loopOk, started, -⟩ := p.stepShutdown_fixed shutdown
  refine ⟨loopOk.trans guarded.loopOk, started.trans guarded.started, ?_⟩
  rcases guarded.phase with isOpen | ⟨holder, closedBy⟩ | closed
  · exact isOpen.stepShutdown guarded.loopOk shutdown
  · exact closedBy.stepShutdown guarded.started shutdown
  · exact .inr (.inr (closed.stepShutdown shutdown))

theorem Guarded.step (guarded : p.Guarded) (action : ProcessAction) :
    (p.step platform config action).Guarded := by
  cases action with
  | unaryCall call => exact guarded.aside (stepUnaryCall_aside call)
  | shutdown shutdown => exact guarded.stepShutdown shutdown
  | loop answer => exact guarded.aside (stepLoop_aside answer)

theorem Reachable.guarded (reachable : Reachable platform config p) : p.Guarded :=
  reachable.invariant Guarded (fun _ start => start.guarded)
    fun _ action guarded _ => guarded.step action

/-! ## After the loop -/

theorem Guarded.closed (guarded : p.Guarded) {shutdown : Nat}
    (returned : p.shutdowns shutdown = .returned) : p.Closed := by
  rcases guarded.phase with isOpen | ⟨holder, closedBy⟩ | closed
  · rcases isOpen.threads shutdown with ⟨-, here⟩ | ⟨-, here⟩ <;>
      cases returned.symm.trans here
  · by_cases same : shutdown = holder
    · have closing := closedBy.closing
      rw [← same, returned] at closing
      exact closing.elim
    · cases returned.symm.trans (closedBy.others shutdown same)
  · exact closed

theorem Open.not_closing (isOpen : p.Open) (shutdown : Nat) :
    ¬ (p.shutdowns shutdown).Closing := by
  rcases isOpen.threads shutdown with ⟨-, here⟩ | ⟨-, here⟩ <;> exact here ▸ id

theorem Closed.not_closing (closed : p.Closed) (shutdown : Nat) :
    ¬ (p.shutdowns shutdown).Closing := by
  rcases closed.threads shutdown with ⟨-, here⟩ | ⟨-, here | here⟩ <;>
    exact here ▸ id

theorem Closed.step (closed : p.Closed) (action : ProcessAction) :
    (p.step platform config action).Closed := by
  cases action with
  | unaryCall call => exact closed.aside (stepUnaryCall_aside call)
  | shutdown shutdown => exact closed.stepShutdown shutdown
  | loop answer => exact closed.aside (stepLoop_aside answer)

/-- Without the loop, only a caller whose operation was refused touches the channel, and
it fails its own call. -/
theorem Closed.step_world (closed : p.Closed) (loopOk : p.loopOk = true)
    (action : ProcessAction) :
    (p.step platform config action).world = p.world ∨
      ∃ call, p.unaryCalls call = .failLocal ∧
        (p.step platform config action).world =
          (p.world.recordHandled call).failCall shutDownMessage call := by
  cases action with
  | unaryCall call =>
      by_cases failing : p.unaryCalls call = .failLocal
      · refine .inr ⟨call, failing, ?_⟩
        simp only [ChannelProcess.step, stepUnaryCall, failing, failLocal, loopOk]
        rfl
      · exact .inl (stepUnaryCall_world failing)
  | shutdown shutdown => exact .inl (stepShutdown_world shutdown)
  | loop answer =>
      left
      simp only [ChannelProcess.step, EventThread.step_exited _ _ closed.exited]

theorem Closed.later (closed : p.Closed) (sound : p.Sound config) {p' : ChannelProcess}
    (later : Later platform config p p') :
    p'.Closed ∧ p'.Sound config ∧ ∃ refused, p'.world = p.world.refuse refused := by
  refine later.invariant (fun p' => p'.Closed ∧ p'.Sound config ∧
    ∃ refused, p'.world = p.world.refuse refused) ?_ ?_
  · rintro _ rfl
    exact ⟨closed, sound, [], (World.refuse_nil _).symm⟩
  · rintro before action ⟨closedHere, soundHere, refused, since⟩ admits
    refine ⟨closedHere.step action, soundHere.step admits, ?_⟩
    rcases closedHere.step_world soundHere.loopOk action with same | ⟨call, failing, fails⟩
    · exact ⟨refused, same.trans since⟩
    · -- The thread of a call that was dealt with is not about to fail it.
      have isNew : call ∉ refused := by
        intro member
        have handled : call ∈ before.world.handled := by
          rw [since]
          exact List.mem_append_right _ member
        have entered := (soundHere.entered call).mp (List.mem_append_left _ handled)
        rw [failing] at entered
        exact entered
      refine ⟨refused ++ [call], ?_⟩
      rw [fails, since, World.refuse_concat isNew]

/-- When the loop has exited, the calls dealt with are those whose threads have posted
them or failed them. -/
theorem Sound.mem_handled (sound : p.Sound config) (exited : p.thread.loop = .exited)
    (call : Nat) : call ∈ p.world.handled ↔ (p.unaryCalls call).Entered := by
  rw [← sound.entered call, (sound.exited exited).2.1]

/-- The calls that were refused are those whose threads have failed them since. -/
theorem Sound.mem_refused {p' : ChannelProcess} (sound : p.Sound config)
    (sound' : p'.Sound config) (exited : p.thread.loop = .exited)
    (exited' : p'.thread.loop = .exited) {refused : List Nat}
    (since : p'.world = p.world.refuse refused) (call : Nat) :
    call ∈ refused ↔ (p'.unaryCalls call).Entered ∧ ¬ (p.unaryCalls call).Entered := by
  have handled : p'.world.handled = p.world.handled ++ refused := by rw [since]; rfl
  have nodup := sound'.nodup
  rw [(sound'.exited exited').2.1, handled] at nodup
  rw [← sound.mem_handled exited, ← sound'.mem_handled exited', handled, List.mem_append]
  constructor
  · intro member
    exact ⟨.inr member, fun before => (List.nodup_append.mp nodup).2.2 _ before _ member rfl⟩
  · rintro ⟨before | member, isNew⟩
    · exact absurd before isNew
    · exact member

/-- In every interleaving on a channel whose event thread was started, at most one thread
closes the channel and joins the loop.  Once any `Shutdown` has returned, the loop has
exited and the channel is shut down; from then on no thread closes it again, another
`Stop` does not join again, and nothing of the channel changes but the calls whose own
threads have found the queue closed since: these have failed as unavailable. -/
theorem shutdown_returns_after_the_loop (reachable : Reachable platform config p) :
    p.loopOk = true ∧ p.thread.started = true ∧
    (∀ one other, (p.shutdowns one).Closing → (p.shutdowns other).Closing →
      one = other) ∧
    ∀ shutdown, p.shutdowns shutdown = .returned →
      p.thread.loop = .exited ∧ p.world.state = .shutdown ∧
      ∀ p', Later platform config p p' →
        p'.thread.loop = .exited ∧ (∀ other, ¬ (p'.shutdowns other).Closing) ∧
        p'.thread.requestStop.1 = false ∧
        ∃ refused, p'.world = p.world.refuse refused ∧
          ∀ call, call ∈ refused ↔
            (p'.unaryCalls call).Entered ∧ ¬ (p.unaryCalls call).Entered := by
  have guarded := reachable.guarded
  have sound := reachable.sound
  refine ⟨guarded.loopOk, guarded.started, fun one other closingOne closingOther => ?_,
    fun shutdown returned => ?_⟩
  · rcases guarded.phase with isOpen | ⟨holder, closedBy⟩ | closed
    · exact absurd closingOne (isOpen.not_closing one)
    · have isHolder : ∀ shutdown, (p.shutdowns shutdown).Closing → shutdown = holder := by
        intro shutdown closing
        by_contra apart
        rw [closedBy.others shutdown apart] at closing
        exact closing
      exact (isHolder one closingOne).trans (isHolder other closingOther).symm
    · exact absurd closingOne (closed.not_closing one)
  · have closed := guarded.closed returned
    refine ⟨closed.exited, (sound.exited closed.exited).2.2, ?_⟩
    intro p' later
    obtain ⟨closedLater, soundLater, refused, since⟩ := closed.later sound later
    refine ⟨closedLater.exited, closedLater.not_closing, ?_, refused, since, ?_⟩
    · simp [EventThread.requestStop, closedLater.joined]
    · exact sound.mem_refused soundLater closed.exited closedLater.exited since

/-- One thread has closed the channel while a second one waited for the mutex. -/
def sampleClosed : ChannelProcess :=
  List.foldl (step World.silentPlatform World.sampleConfig) sampleProcess
    (sampleRace ++ [.shutdown 1, .shutdown 0, .shutdown 0])

/-- A caller comes after that and is refused. -/
def sampleRefused : ChannelProcess :=
  List.foldl (step World.silentPlatform World.sampleConfig) sampleClosed
    [.unaryCall 3, .unaryCall 3, .unaryCall 3]

theorem sampleClosed_exited :
    sampleClosed.shutdowns 0 = .returned ∧ sampleClosed.shutdowns 1 = .called ∧
      sampleClosed.thread.loop = .exited ∧ sampleClosed.world.state = .shutdown ∧
      ∃ refused, 3 ∈ refused ∧ sampleRefused.world = sampleClosed.world.refuse refused := by
  have reachable : Reachable World.silentPlatform World.sampleConfig sampleClosed :=
    sampleProcess_reachable (by simp [sampleRace])
  have later : Later World.silentPlatform World.sampleConfig sampleClosed sampleRefused :=
    Runs.Reach.foldl (by simp [Admits]) (.start rfl)
  have returned : sampleClosed.shutdowns 0 = .returned := rfl
  obtain ⟨-, -, -, closed⟩ := shutdown_returns_after_the_loop reachable
  obtain ⟨exited, shut, after⟩ := closed 0 returned
  obtain ⟨-, -, -, refused, since, isRefused⟩ := after sampleRefused later
  exact ⟨returned, rfl, exited, shut, refused, (isRefused 3).mpr ⟨trivial, id⟩, since⟩

end ChannelProcess

end Egrpc
