import Egrpc.ShutdownMutex

/-!
# Constructing a channel

The constructor starts the event thread.  If that succeeds, the channel is one
of those whose runs the other files are about.  If it does not, there is no loop
that could run an operation: the channel is born failed, callers fail their own
calls, and a `Shutdown` has nothing to stop.  A call then takes four steps of
its own thread, whatever the other threads do in between.
-/

namespace Egrpc

deriving instance DecidableEq for ProcessAction

/-- Start the loop.  `wakeupFd` is the descriptor of the eventfd and `rc` what
`pthread_create` would return. -/
def EventThread.start {Op State : Type} (wakeupFd rc : Int)
    (thread : EventThread Op State) : Bool × EventThread Op State :=
  if thread.started || thread.stopRequested then (false, thread)
  else if wakeupFd < 0 then (false, thread)
  else if rc ≠ 0 then (false, thread)
  else (true, { thread with started := true })

namespace ChannelProcess

/-- What the channel says when its event thread did not start. -/
def startFailure : Bytes :=
  Bytes.ofString "failed to start channel event thread"

/-- The constructor of a channel.  The world gives what is outside the
channel. -/
def new (wakeupFd rc : Int) (world : World) (unaryCalls : Nat → UnaryCall) :
    ChannelProcess :=
  let world := { world with toChannelImpl := {} }
  let thread : EventThread ChannelOp ChannelOwned := { owned := { world := world } }
  let started := thread.start wakeupFd rc
  if started.1 then
    { thread := started.2, loopOk := true, unaryCalls := unaryCalls }
  else
    { thread :=
        { started.2 with owned :=
          { world :=
            { world with state := .failed, failureDetail := startFailure } } }
      loopOk := false
      unaryCalls := unaryCalls }

/-- A step of a caller's thread or of one in `Shutdown`. -/
def Threadless (_ : ChannelProcess) (action : ProcessAction) : Prop :=
  ∀ answer, action ≠ .loop answer

end ChannelProcess

/-- How many steps a call still takes when there is no loop. -/
def UnaryCall.stepsLeft : UnaryCall → Nat
  | .called _ => 4
  | .post _ => 3
  | .failLocal => 2
  | .wait => 1
  | .rejected _ | .returned _ | .notify => 0

/-- Where a call can stand when there is no loop, and what state it is in. -/
def UnaryCall.Unserved (config : ChannelConfig) (call : Nat)
    (arguments : UnaryCallArguments) (state : CallState) : UnaryCall → Prop
  | .called here =>
      here = arguments ∧ state = CallState.new config.options.maxReceiveMessageSize
  | .rejected result => arguments.check config call = .rejected result
  | .post pc =>
      arguments.check config call = .post pc ∧
        state = CallState.new config.options.maxReceiveMessageSize
  | .failLocal => state = CallState.new config.options.maxReceiveMessageSize
  | .wait =>
      state.done = true ∧ state.result.code = .unavailable ∧
        state.result.message = ChannelProcess.startFailure
  | .returned result =>
      result.code = .unavailable ∧ result.message = ChannelProcess.startFailure
  | .notify => False

namespace ChannelProcess

variable {platform : Platform} {config : ChannelConfig} {p p₀ : ChannelProcess}

structure Deserted (config : ChannelConfig) (p₀ p : ChannelProcess) : Prop where
  loopOk : p.loopOk = false
  thread : p.thread = { owned := p.thread.owned }
  failureDetail : p.world.failureDetail = startFailure
  unaryCalls : ∀ call, ∃ arguments, p₀.unaryCalls call = .called arguments ∧
    (p.unaryCalls call).Unserved config call arguments (p.world.calls call)
  shutdowns : ∀ shutdown, ¬ (p.shutdowns shutdown).Closing

theorem setUnaryCall_self (call : Nat) (unaryCall : UnaryCall) :
    (p.setUnaryCall call unaryCall).unaryCalls call = unaryCall :=
  Function.update_self ..

theorem setUnaryCall_of_ne {call other : Nat} (apart : other ≠ call)
    (unaryCall : UnaryCall) :
    (p.setUnaryCall call unaryCall).unaryCalls other = p.unaryCalls other :=
  Function.update_of_ne apart ..

theorem Deserted.callerMoves (deserted : Deserted config p₀ p) {call : Nat}
    {unaryCall : UnaryCall} {world : World}
    (failureDetail : world.failureDetail = p.world.failureDetail)
    (others : ∀ other, other ≠ call → world.calls other = p.world.calls other)
    (here : ∀ arguments, (p.unaryCalls call).Unserved config call arguments
      (p.world.calls call) →
        unaryCall.Unserved config call arguments (world.calls call)) :
    Deserted config p₀
      (({ p with thread := { p.thread with owned :=
          { p.thread.owned with world := world } } } : ChannelProcess).setUnaryCall call
        unaryCall) where
  loopOk := deserted.loopOk
  thread := by
    simp only [setUnaryCall]
    rw [deserted.thread]
  failureDetail := failureDetail.trans deserted.failureDetail
  unaryCalls := by
    intro other
    obtain ⟨arguments, start, unserved⟩ := deserted.unaryCalls other
    refine ⟨arguments, start, ?_⟩
    by_cases same : other = call
    · subst same
      rw [setUnaryCall_self]
      exact here arguments unserved
    · rw [setUnaryCall_of_ne same]
      exact (others other same).symm ▸ unserved
  shutdowns := deserted.shutdowns

/-- A step of a caller brings its call one step nearer to its end. -/
theorem Deserted.stepUnaryCall (deserted : Deserted config p₀ p) (call : Nat) :
    Deserted config p₀ (p.stepUnaryCall config call) ∧
      ((p.stepUnaryCall config call).unaryCalls call).stepsLeft ≤
        (p.unaryCalls call).stepsLeft - 1 := by
  obtain ⟨arguments, start, unserved⟩ := deserted.unaryCalls call
  have moves {unaryCall : UnaryCall}
      (here : ∀ arguments, (p.unaryCalls call).Unserved config call arguments
        (p.world.calls call) →
          unaryCall.Unserved config call arguments (p.world.calls call)) :
      Deserted config p₀ (p.setUnaryCall call unaryCall) :=
    deserted.callerMoves rfl (fun _ _ => rfl) here
  unfold ChannelProcess.stepUnaryCall
  cases here : p.unaryCalls call with
  | called given =>
      simp only
      rw [setUnaryCall_self]
      refine ⟨moves fun arguments unserved => ?_, ?_⟩
      · rw [here] at unserved
        obtain ⟨rfl, fresh⟩ := unserved
        rcases given.check_spec config call with ⟨-, result, rejected, -⟩ | ⟨-, posts⟩
        · rw [rejected]
          exact rejected
        · rw [posts]
          exact ⟨posts, fresh⟩
      · rcases given.check_spec config call with ⟨-, result, rejected, -⟩ | ⟨-, posts⟩
        · rw [rejected]
          exact Nat.zero_le _
        · rw [posts]
          exact le_refl 3
  | post pc =>
      simp only
      rw [if_pos deserted.loopOk, setUnaryCall_self]
      refine ⟨moves fun arguments unserved => ?_, le_refl 2⟩
      rw [here] at unserved
      exact unserved.2
  | failLocal =>
      simp only
      rw [setUnaryCall_self]
      refine ⟨?_, le_refl 1⟩
      refine deserted.callerMoves rfl (fun other apart => ?_) fun arguments unserved => ?_
      · exact Function.update_of_ne apart ..
      · rw [here] at unserved
        have failed : (p.failLocal call).world.calls call =
            (p.world.calls call).failLocal .unavailable startFailure := by
          rw [failLocal, deserted.loopOk, deserted.failureDetail]
          exact Function.update_self ..
        change UnaryCall.Unserved config call arguments
          ((p.failLocal call).world.calls call) .wait
        rw [failed, unserved]
        exact ⟨rfl, rfl, rfl⟩
  | wait =>
      rw [here] at unserved
      have answered : (p.world.calls call).wait = some (p.world.calls call).result :=
        if_pos unserved.1
      simp only [answered]
      rw [setUnaryCall_self]
      refine ⟨moves fun arguments unserved => ?_, le_refl 0⟩
      rw [here] at unserved
      exact unserved.2
  | notify =>
      rw [here] at unserved
      exact unserved.elim
  | rejected | returned =>
      simp only [here]
      exact ⟨deserted, Nat.zero_le _⟩

theorem Deserted.shutdownMoves (deserted : Deserted config p₀ p) {shutdown : Nat}
    {at' : Shutdown} {shutdownMu : Option Nat} {shutdownDone : Bool}
    (outside : ¬ at'.Closing) :
    Deserted config p₀
      (({ p with shutdownMu := shutdownMu, shutdownDone := shutdownDone } :
        ChannelProcess).setShutdown shutdown at') :=
  { deserted with
    shutdowns :=
      (Function.forall_update_iff p.shutdowns fun _ at' => ¬ at'.Closing).mpr
      ⟨outside, fun other _ => deserted.shutdowns other⟩ }

theorem Deserted.stepShutdown (deserted : Deserted config p₀ p) (shutdown : Nat) :
    Deserted config p₀ (p.stepShutdown shutdown) := by
  have outside := deserted.shutdowns shutdown
  unfold ChannelProcess.stepShutdown
  cases here : p.shutdowns shutdown with
  | called =>
      simp only
      split
      · exact deserted.shutdownMoves id
      · exact deserted
  | locked =>
      simp only
      rw [if_pos deserted.loopOk]
      split_ifs <;> exact deserted.shutdownMoves id
  | returned => exact deserted
  | post | notify | wait | stop | stopNotify | join =>
      rw [here] at outside
      exact absurd trivial outside

theorem stepUnaryCall_of_ne {call other : Nat} (apart : other ≠ call) :
    (p.stepUnaryCall config call).unaryCalls other = p.unaryCalls other := by
  unfold ChannelProcess.stepUnaryCall
  cases p.unaryCalls call with
  | post pc =>
      simp only
      split_ifs <;> exact setUnaryCall_of_ne apart _
  | wait =>
      simp only
      split
      · rfl
      · exact setUnaryCall_of_ne apart _
  | called | notify | failLocal => exact setUnaryCall_of_ne apart _
  | rejected | returned => rfl

/-- Every call is as near to its end as its own steps have brought it. -/
theorem Deserted.run (deserted : Deserted config p₀ p₀) {actions : List ProcessAction}
    (admitted : Runs.Admitted (step platform config) Threadless p₀ actions) :
    let p := actions.foldl (step platform config) p₀
    Deserted config p₀ p ∧
      ∀ call, (p.unaryCalls call).stepsLeft ≤ 4 - actions.count (.unaryCall call) := by
  refine admitted.invariant (fun past p => Deserted config p₀ p ∧ ∀ call,
    (p.unaryCalls call).stepsLeft ≤ 4 - past.count (.unaryCall call)) ?_ ?_
  · refine ⟨deserted, fun call => ?_⟩
    obtain ⟨arguments, start, -⟩ := deserted.unaryCalls call
    rw [start]
    exact le_refl 4
  · rintro past p action ⟨desertedHere, bounds⟩ threadless
    cases action with
    | unaryCall mover =>
        obtain ⟨moved, nearer⟩ := desertedHere.stepUnaryCall mover
        refine ⟨moved, fun call => ?_⟩
        have bound := bounds call
        by_cases same : call = mover
        · subst same
          rw [List.count_append, List.count_singleton_self]
          exact nearer.trans (by omega)
        · rw [ChannelProcess.step, stepUnaryCall_of_ne same, List.count_append,
            List.count_singleton, if_neg (by simpa using fun h => same h.symm)]
          exact bound
    | shutdown shutdown =>
        refine ⟨desertedHere.stepShutdown shutdown, fun call => ?_⟩
        rw [ChannelProcess.step, stepShutdown_unaryCalls, List.count_append,
          List.count_singleton, if_neg (by simp)]
        exact bounds call
    | loop answer => exact absurd rfl (threadless answer)

/-! ## The two outcomes -/

section Outcomes

variable {wakeupFd rc : Int} {world : World} {unaryCalls : Nat → UnaryCall}

theorem new_unaryCalls : (new wakeupFd rc world unaryCalls).unaryCalls = unaryCalls := by
  simp only [new]
  split_ifs <;> rfl

theorem new_started (isOpen : 0 ≤ wakeupFd) (created : rc = 0)
    (fresh : world.Fresh config)
    (called : ∀ call, ∃ arguments, unaryCalls call = .called arguments) :
    (new wakeupFd rc world unaryCalls).Started config := by
  have started : new wakeupFd rc world unaryCalls =
      { thread := { started := true, owned := { world :=
          { world with toChannelImpl := {} } } }
        loopOk := true
        unaryCalls := unaryCalls } := by
    simp [new, EventThread.start, created, Int.not_lt.mpr isOpen]
  rw [started]
  exact started_of_fresh { fresh with channel := .inl rfl } called

theorem new_deserted (failed : wakeupFd < 0 ∨ rc ≠ 0) (fresh : world.Fresh config)
    (called : ∀ call, ∃ arguments, unaryCalls call = .called arguments) :
    Deserted config (new wakeupFd rc world unaryCalls)
      (new wakeupFd rc world unaryCalls) := by
  have deserted : new wakeupFd rc world unaryCalls =
      { thread := { owned := { world :=
          { world with toChannelImpl :=
            { state := .failed, failureDetail := startFailure } } } }
        loopOk := false
        unaryCalls := unaryCalls } := by
    rcases failed with noWakeup | notCreated
    · simp [new, EventThread.start, noWakeup]
    · simp [new, EventThread.start, notCreated]
  rw [deserted]
  refine ⟨rfl, rfl, rfl, fun call => ?_, fun _ => id⟩
  obtain ⟨arguments, isCalled⟩ := called call
  refine ⟨arguments, isCalled, ?_⟩
  simp only [isCalled]
  exact ⟨rfl, fresh.calls call⟩

/-- If the eventfd could be opened and the thread created, the channel starts as the
results about its runs ask for.  Otherwise, in every interleaving of its callers and
of threads in `Shutdown`, nothing is posted and no `Shutdown` waits for or joins a
loop; a call has ended after four steps of its own thread; it was rejected only if its
request is above the limit; and otherwise it is unavailable, with the reason. -/
theorem constructed_channel_runs_or_fails (fresh : world.Fresh config)
    (called : ∀ call, ∃ arguments, unaryCalls call = .called arguments) :
    0 ≤ wakeupFd ∧ rc = 0 ∧ (new wakeupFd rc world unaryCalls).Started config ∨
    (wakeupFd < 0 ∨ rc ≠ 0) ∧
      ∀ actions, Runs.Admitted (step platform config) Threadless
          (new wakeupFd rc world unaryCalls) actions →
        let p := actions.foldl (step platform config) (new wakeupFd rc world unaryCalls)
        p.thread.ops = [] ∧ (∀ shutdown, ¬ (p.shutdowns shutdown).Closing) ∧
        (∀ call, 4 ≤ actions.count (.unaryCall call) →
          (∃ result, p.unaryCalls call = .rejected result) ∨
            ∃ result, p.unaryCalls call = .returned result) ∧
        (∀ call result, p.unaryCalls call = .rejected result →
          result.code = .resourceExhausted ∧
            ∃ arguments, unaryCalls call = .called arguments ∧
              config.options.maxSendMessageSize < arguments.request.length) ∧
        ∀ call result, p.unaryCalls call = .returned result →
          result.code = .unavailable ∧ result.message = startFailure := by
  by_cases starts : 0 ≤ wakeupFd ∧ rc = 0
  · exact .inl ⟨starts.1, starts.2, new_started starts.1 starts.2 fresh called⟩
  · have failed : wakeupFd < 0 ∨ rc ≠ 0 := by omega
    refine .inr ⟨failed, fun actions admitted => ?_⟩
    obtain ⟨deserted, bounds⟩ := (new_deserted failed fresh called).run admitted
    refine ⟨by rw [deserted.thread], deserted.shutdowns, fun call enough => ?_,
      fun call result rejected => ?_, fun call result returned => ?_⟩
    · have bound := bounds call
      obtain ⟨arguments, -, unserved⟩ := deserted.unaryCalls call
      rw [Nat.sub_eq_zero_of_le enough] at bound
      cases here : (actions.foldl (step platform config)
          (new wakeupFd rc world unaryCalls)).unaryCalls call with
      | rejected result => exact .inl ⟨result, rfl⟩
      | returned result => exact .inr ⟨result, rfl⟩
      | notify =>
          rw [here] at unserved
          exact unserved.elim
      | called | post | failLocal | wait =>
          rw [here] at bound
          exact absurd bound (Nat.not_succ_le_zero _)
    · obtain ⟨arguments, start, unserved⟩ := deserted.unaryCalls call
      rw [rejected] at unserved
      rw [new_unaryCalls] at start
      obtain ⟨above, code, -⟩ := UnaryCallArguments.above_of_check unserved
      exact ⟨code, arguments, start, above⟩
    · obtain ⟨arguments, -, unserved⟩ := deserted.unaryCalls call
      rw [returned] at unserved
      exact unserved

/-- `pthread_create` fails with `EAGAIN`; call 0 ends while a `Shutdown` and call
1 come in between. -/
theorem unstarted_call_ends :
    let actions := [.unaryCall 0, .unaryCall 1, .unaryCall 0, .shutdown 0, .unaryCall 0,
      .shutdown 0, .unaryCall 0]
    let p := actions.foldl (step World.silentPlatform World.sampleConfig)
      (new 3 11 World.sampleStart fun _ => .called {})
    ∃ result, p.unaryCalls 0 = .returned result ∧ result.code = .unavailable ∧
      result.message = startFailure := by
  intro actions p
  have outcome := @constructed_channel_runs_or_fails World.silentPlatform
    World.sampleConfig 3 11 World.sampleStart (fun _ => .called {})
    (World.sampleStart_fresh World.sampleConfig rfl _ rfl _) fun _ => ⟨_, rfl⟩
  rcases outcome with ⟨-, created, -⟩ | ⟨-, fails⟩
  · exact absurd created (by decide)
  · obtain ⟨-, -, -, -, told⟩ := fails actions (by simp [actions, Runs.Admitted, Threadless])
    exact ⟨_, rfl, told 0 _ rfl⟩

end Outcomes

end ChannelProcess

end Egrpc
