import Egrpc.PollTimeout
import Egrpc.ShutdownMutex

/-!
# How long a connect attempt lasts

`StartConnecting` adds one timer, and as long as the attempt lasts that timer stays the
only one.  Its deadline is fixed when the attempt begins.  The loop asks for due timers
in each of its rounds and sleeps in `poll` no longer than until the next one, so an
attempt that is not over by the deadline is given up in the first round after it, and
every call that waited for it is told.
-/

namespace Egrpc

namespace TimerHeap.Refines

variable {Callback : Type} {algorithms : Algorithms} {timers : TimerHeap Callback}
  {table : TimerTable Callback} {id : Nat} {callback : Callback} {deadline : Int}

/-- If one timer is pending, its deadline is the only one. -/
theorem due_unique (refines : Refines algorithms timers table)
    (only : timers.Only id callback) (due : table.Due id deadline) {other : Nat}
    {later : Int} (dueOther : table.Due other later) : later = deadline := by
  obtain ⟨here, isHere⟩ := due
  obtain ⟨there, isThere⟩ := dueOther
  have pending := ((refines.entries other later there).mp isThere).1
  rw [only other] at pending
  split_ifs at pending with same
  rw [same.1, isHere] at isThere
  exact (Prod.ext_iff.mp (Option.some.inj isThere)).1.symm

theorem earliest_of_only (refines : Refines algorithms timers table)
    (only : timers.Only id callback) (due : table.Due id deadline) :
    table.Earliest deadline := by
  refine ⟨⟨id, due⟩, ?_⟩
  rintro later ⟨other, dueOther⟩
  exact (refines.due_unique only due dueOther).ge

/-- A round of `RunDue` fires a timer that is alone exactly if it is due. -/
theorem takeDue_of_only (refines : Refines algorithms timers table)
    (only : timers.Only id callback) (due : table.Due id deadline) (now : Int) :
    (timers.takeDue algorithms now).1 =
      if deadline ≤ now then some (id, callback) else none := by
  rcases refines.takeDue now with
    ⟨fired, firedCallback, fires, ⟨firedDeadline, found, isDue, _⟩, _⟩ | ⟨nothing, ahead, _⟩
  · have same := refines.due_unique only due ⟨firedCallback, found⟩
    rw [if_pos (same ▸ isDue), fires]
    rcases only.takeDue algorithms now with ⟨nothing, _⟩ | ⟨fired', _⟩
    · cases fires.symm.trans nothing
    · exact fires.symm.trans fired'
  · rw [if_neg (not_le.mpr (ahead 0 id deadline due)), nothing]

end TimerHeap.Refines

namespace World

variable {platform : Platform} {config : ChannelConfig} {w : World} {deadline : Int}

/-! ## The deadline of an attempt -/

/-- The connect timer is pending with this deadline. -/
def GivesUpAt (platform : Platform) (deadline : Int) (w : World) : Prop :=
  ∃ table, TimerHeap.Refines platform.timerAlgorithms w.timers table ∧
    table.Due w.connectTimer deadline

/-- What the timers of a channel hold before its connection is up. -/
structure OnTime (platform : Platform) (config : ChannelConfig) (deadline : Int)
    (w : World) : Prop where
  idle : w.state = .idle →
    ∃ table, TimerHeap.Refines platform.timerAlgorithms w.timers table
  connecting : w.state = .connecting → w.GivesUpAt platform deadline ∧
    deadline ≤ w.now + milliseconds config.options.connectTimeout

/-- Only the state, the timers and the clock matter, and the clock may go on. -/
theorem OnTime.of_same (onTime : w.OnTime platform config deadline) {w' : World}
    (state : w'.state = w.state) (connectTimer : w'.connectTimer = w.connectTimer)
    (timers : ∀ table, TimerHeap.Refines platform.timerAlgorithms w.timers table →
      TimerHeap.Refines platform.timerAlgorithms w'.timers table)
    (now : w.now ≤ w'.now) : w'.OnTime platform config deadline where
  idle isIdle := by
    obtain ⟨table, refines⟩ := onTime.idle (state ▸ isIdle)
    exact ⟨table, timers table refines⟩
  connecting isConnecting := by
    obtain ⟨⟨table, refines, due⟩, bound⟩ := onTime.connecting (state ▸ isConnecting)
    exact ⟨⟨table, timers table refines, connectTimer ▸ due⟩, by omega⟩

theorem onTime_of_later (late : 2 ≤ w.state.rank) : w.OnTime platform config deadline where
  idle isIdle := by
    rw [isIdle] at late
    exact absurd late (by decide)
  connecting isConnecting := by
    rw [isConnecting] at late
    exact absurd late (by decide)

theorem OnTime.readClock (onTime : w.OnTime platform config deadline) :
    w.readClock.2.OnTime platform config deadline := by
  refine onTime.of_same rfl rfl (fun _ => id) ?_
  simp only [World.readClock]
  omega

theorem OnTime.pollTimeoutMs (onTime : w.OnTime platform config deadline) (now : Int) :
    ({ w with timers := (w.timers.pollTimeoutMs platform.timerAlgorithms now).2 } :
      World).OnTime platform config deadline := by
  refine onTime.of_same rfl rfl (fun table refines => ?_) le_rfl
  have next := refines.nextDeadline.2
  unfold TimerHeap.pollTimeoutMs
  simp only
  split
  · exact next
  · split_ifs <;> exact next

/-! ## What the callbacks do to it -/

theorem OnTime.pruned (onTime : w.OnTime platform config deadline) {now : Int}
    (nothing : (w.timers.takeDue platform.timerAlgorithms now).1 = none) :
    ({ w with timers := (w.timers.takeDue platform.timerAlgorithms now).2 } :
      World).OnTime platform config deadline := by
  refine onTime.of_same rfl rfl (fun table refines => ?_) le_rfl
  rcases refines.takeDue now with ⟨id, callback, fires, _⟩ | ⟨_, _, pruned⟩
  · cases fires.symm.trans nothing
  · exact pruned

/-- The attempt begins: its deadline is the time it is allowed, from now. -/
theorem armConnectTimer_onTime
    (refines : ∃ table, TimerHeap.Refines platform.timerAlgorithms w.timers table) :
    (w.armConnectTimer platform config).OnTime platform config
      (w.readClock.1 + milliseconds config.options.connectTimeout) where
  idle isIdle := nomatch isIdle
  connecting _ := by
    obtain ⟨table, refines⟩ := refines
    refine ⟨⟨_, (refines.add _ .connectTimeout).2, .connectTimeout, ?_⟩, le_rfl⟩
    exact Finmap.lookup_insert table.pending

theorem startConnecting_onTime (refines : ∃ table, TimerHeap.Refines platform.timerAlgorithms
      w.timers table) (armed : (w.armConnectTimer platform config).Armed config) :
    (w.startConnecting platform config).OnTime platform config
      (w.readClock.1 + milliseconds config.options.connectTimeout) := by
  have started := armed.onSocket
    (TlsIo.startConnect platform config.host config.port config.tls)
  have onTime : (w.armConnectTimer platform config).OnTime platform config _ :=
    armConnectTimer_onTime refines
  unfold World.startConnecting
  simp only
  split_ifs
  · refine onTime_of_later ?_
    rw [(started.ongoing.tearDown rfl).1]
    decide
  · exact onTime.of_same rfl rfl (fun _ => id) le_rfl

theorem Between.early (between : w.Between config) (early : ¬ 2 ≤ w.state.rank) :
    w.Idle config ∨ w.Connecting config := by
  rcases between with idle | connecting | live | down
  · exact .inl idle
  · exact .inr connecting
  · rw [live.state] at early
    exact absurd (by decide) early
  · rcases down.state with state | state <;> rw [state] at early <;>
      exact absurd (by decide) early

theorem OnTime.runDue (onTime : w.OnTime platform config deadline)
    (here : w.Idle config ∨ w.Connecting config) (now : Int) :
    (w.runDue platform now).OnTime platform config deadline := by
  -- A timer that fires ends the attempt; otherwise only cancelled entries go.
  have quiet (nothing : (w.timers.takeDue platform.timerAlgorithms now).1 = none) :
      (w.runDue platform now).OnTime platform config deadline := by
    simp only [World.runDue, nothing]
    exact onTime.pruned nothing
  rcases here with idle | connecting
  · rcases (TimerHeap.only_zero idle.timers TimerCallback.keepalive).takeDue
        platform.timerAlgorithms now with ⟨nothing, _⟩ | ⟨_, nonzero, _⟩
    · exact quiet nothing
    · exact absurd rfl nonzero
  · rcases connecting.runDue_cases now with ⟨failed, _⟩ | ⟨_, _, _, nothing⟩
    · exact onTime_of_later (by rw [failed]; decide)
    · exact quiet nothing

theorem pollEvents_of_early (here : w.Idle config ∨ w.Connecting config) :
    w.pollEvents.2 = w := by
  unfold World.pollEvents
  rcases here with idle | connecting
  · rw [idle.watchedFd]
    rfl
  · rw [connecting.watch]
    split_ifs <;> rfl

theorem OnTime.onReady (onTime : w.OnTime platform config deadline)
    (here : w.Idle config ∨ w.Connecting config) (revents : Nat) :
    (w.onReady platform config revents).OnTime platform config deadline := by
  unfold World.onReady
  rcases here with idle | connecting
  · rw [idle.watch]
    exact onTime
  · rw [connecting.watch]
    simp only
    rcases connecting.onConnectProgress_cases platform with
      ⟨failed, _⟩ | ⟨connected, starts⟩ | ⟨waits, _⟩
    · exact onTime_of_later (by rw [failed]; decide)
    · rw [starts]
      refine onTime_of_later ?_
      rcases connected.startSession with live | ⟨failed, _⟩
      · rw [live.state]
        decide
      · rw [failed]
        decide
    · rw [waits]
      exact onTime.of_same rfl rfl (fun _ => id) le_rfl

/-- An attempt that has begun stays the same one. -/
def SameAttempt (deadline deadline' : Int) (w w' : World) : Prop :=
  w.state ≠ .idle → w'.state ≠ .idle ∧ deadline' = deadline

theorem Advances.sameAttempt {w' : World} (advances : w.Advances config w') (deadline : Int) :
    SameAttempt deadline deadline w w' := by
  intro notIdle
  refine ⟨?_, rfl⟩
  intro isIdle
  have rank := advances.2
  rw [isIdle] at rank
  cases state : w.state with
  | idle => exact notIdle state
  | connecting | ready | failed | shutdown =>
      rw [state] at rank
      exact absurd rank (by decide)

/-- No callback moves the deadline of an attempt that has begun. -/
theorem OnTime.step (onTime : w.OnTime platform config deadline) (between : w.Between config)
    (event : ChannelEvent) (admits : w.Admits event) :
    ∃ deadline', (w.step platform config event).OnTime platform config deadline' ∧
      SameAttempt deadline deadline' w (w.step platform config event) := by
  have advances : w.Advances config (w.step platform config event) := between.step admits
  have stays (next : (w.step platform config event).OnTime platform config deadline) :
      ∃ deadline', (w.step platform config event).OnTime platform config deadline' ∧
        SameAttempt deadline deadline' w (w.step platform config event) :=
    ⟨deadline, next, advances.sameAttempt deadline⟩
  by_cases late : 2 ≤ w.state.rank
  · exact stays (onTime_of_later (late.trans advances.2))
  have here := between.early late
  cases event with
  | newCall pc =>
      rcases here with idle | connecting
      · -- The attempt begins here.
        have state : (w.recordHandled pc.call).state = .idle := idle.state
        simp only [World.step, World.handleNewCall, state]
        exact ⟨_, startConnecting_onTime (onTime.idle idle.state)
          (idle.armConnectTimer admits), fun notIdle => absurd idle.state notIdle⟩
      · have state : (w.recordHandled pc.call).state = .connecting := connecting.state
        refine stays ?_
        simp only [World.step, World.handleNewCall, state]
        exact onTime.of_same rfl rfl (fun _ => id) le_rfl
  | runDue now => exact stays (onTime.runDue here now)
  | pollEvents =>
      refine stays ?_
      rw [World.step, pollEvents_of_early here]
      exact onTime
  | ready revents => exact stays (onTime.onReady here revents)
  | shutdown =>
      refine stays (onTime_of_later ?_)
      rw [World.step, between.doShutdown.1]
      decide

/-! ## The deadline passes -/

/-- A round of `RunDue` before the deadline leaves the channel as it is; one at the
deadline or later gives the attempt up and tells every call that waits. -/
def TimesOutAt (platform : Platform) (deadline : Int) (w : World) : Prop :=
  ∀ now,
    if now < deadline then ∃ timers, w.runDue platform now = { w with timers := timers }
    else
      let w' := w.runDue platform now
      let text := Bytes.ofString "connect timeout"
      w'.state = .failed ∧ w'.failureDetail = text ∧
        ∀ pc ∈ w.pendingCalls, ∃ result, (w'.calls pc.call).wait = some result ∧
          result.code = .unavailable ∧ result.message = text

theorem Connecting.onConnectTimeout (connecting : w.Connecting config)
    (timers : TimerHeap TimerCallback) :
    let w' := ({ w with timers := timers } : World).onConnectTimeout
    let text := Bytes.ofString "connect timeout"
    w'.state = .failed ∧ w'.failureDetail = text ∧
      ∀ pc ∈ w.pendingCalls, FailedAs (w'.calls pc.call) (some text) := by
  intro w' text
  have torn : TornDown _ text { w with timers := timers, connectTimer := 0 } w' :=
    tearDown_spec connecting.ongoing.ongoing rfl
  have found : (w.tearDownCall (.temporary text)).found =
      w.pendingCalls.map PendingCall.call := by
    simp [World.tearDownCall, TearDownCall.found, connecting.activeCalls]
  refine ⟨torn.state, torn.failureDetail, ?_⟩
  intro pc member
  refine torn.ended ?_ ?_ pc.call ?_
  · exact found ▸ connecting.ledger.nodup
  · intro call inQueue closed
    exact connecting.ledger.waiting call (found ▸ inQueue)
      ((connecting.ledger.valid call).mpr closed)
  · exact found ▸ List.mem_map_of_mem member

theorem Connecting.timesOutAt (connecting : w.Connecting config)
    (gives : w.GivesUpAt platform deadline) : w.TimesOutAt platform deadline := by
  intro now
  obtain ⟨table, refines, due⟩ := gives
  have fires := refines.takeDue_of_only connecting.timers due now
  split_ifs with early
  · rw [if_neg (not_le.mpr early)] at fires
    simp only [World.runDue, fires]
    exact ⟨_, rfl⟩
  · rw [if_pos (not_lt.mp early)] at fires
    simp only [World.runDue, fires]
    obtain ⟨failed, detail, told⟩ := connecting.onConnectTimeout
      (w.timers.takeDue platform.timerAlgorithms now).2
    refine ⟨failed, detail, ?_⟩
    intro pc member
    have failedAs := told pc member
    exact ⟨_, if_pos failedAs.done, failedAs.code, failedAs.message _ rfl⟩

end World

/-! ## The loop -/

/-- `poll` ends at the deadline: at once if it has passed. -/
def PollsUntil (now deadline timeoutMs : Int) : Prop :=
  deadline ≤ now ∧ timeoutMs = 0 ∨
    now < deadline ∧ 1 ≤ timeoutMs ∧ SuitsDeadline now deadline timeoutMs

theorem World.Connecting.pollsUntil {platform : Platform} {config : ChannelConfig}
    {w : World} {deadline : Int} (connecting : w.Connecting config)
    (gives : w.GivesUpAt platform deadline) (now : Int) :
    PollsUntil now deadline (w.timers.pollTimeoutMs platform.timerAlgorithms now).1 := by
  obtain ⟨table, refines, due⟩ := gives
  have earliest := refines.earliest_of_only connecting.timers due
  rcases refines.pollTimeoutMs_cases now with ⟨_, empty⟩ | ⟨other, isEarliest, answer⟩
  · exact absurd empty earliest.pending_ne_empty
  · rw [earliest.unique isEarliest]
    exact answer

namespace ChannelProcess

variable {platform : Platform} {config : ChannelConfig} {p : ChannelProcess}
  {deadline : Int}

/-- Where the loop stands, seen from the deadline. -/
def LoopOnTime (deadline now : Int) : Loop ChannelOp → Prop
  | .runDue now' => now' = now
  | .preparePoll => now < deadline
  | .poll _ timeoutMs => PollsUntil now deadline timeoutMs
  | .runPendingOps | .running _ _ | .drain _ _ _ | .dispatch _ _ | .exited => True

/-- The timers and the loop of a process whose channel is not yet connected. -/
structure OnTime (platform : Platform) (config : ChannelConfig) (deadline : Int)
    (p : ChannelProcess) : Prop where
  world : p.world.OnTime platform config deadline
  loop : p.world.state = .connecting → LoopOnTime deadline p.world.now p.thread.loop

/-- A round of `RunDue` that leaves the channel connecting found the timer not due. -/
theorem OnTime.runDue_loop (onTime : p.OnTime platform config deadline)
    (sound : p.Sound config) {now : Int}
    (loop : p.thread.loop = .runDue now)
    (still : (p.world.runDue platform now).state = .connecting) :
    p.world.state ≠ .idle ∧
      LoopOnTime deadline (p.world.runDue platform now).now
        (if (p.world.timers.takeDue platform.timerAlgorithms now).1.isSome then .runDue now
          else .preparePoll) := by
  have early : ¬ 2 ≤ p.world.state.rank := by
    have advances : p.world.Advances config (p.world.runDue platform now) :=
      sound.between.runDue now
    have rank := advances.2
    rw [still] at rank
    exact not_le.mpr (Nat.lt_succ_of_le rank)
  rcases sound.between.early early with idle | connecting
  · obtain ⟨timers, same, _⟩ := World.runDue_of_none platform idle.timers now
    rw [same, idle.state] at still
    cases still
  · obtain ⟨⟨table, refines, due⟩, _⟩ := onTime.world.connecting connecting.state
    have clock : now = p.world.now := by
      have here := onTime.loop connecting.state
      rw [loop] at here
      exact here
    have fires := refines.takeDue_of_only connecting.timers due now
    rcases @World.Connecting.runDue_cases platform config p.world connecting now with
      ⟨failed, _⟩ | ⟨timers, same, _, nothing⟩
    · rw [failed] at still
      cases still
    · rw [nothing] at fires
      split_ifs at fires with passed
      rw [nothing, same]
      exact ⟨by simp [connecting.state], clock ▸ not_le.mp passed⟩

theorem OnTime.preparePoll (onTime : p.OnTime platform config deadline)
    (sound : p.Sound config) :
    let prepared := p.thread.owned.preparePoll platform
    prepared.2.world.OnTime platform config deadline ∧
      (prepared.2.world.state = .connecting →
        PollsUntil prepared.2.world.now deadline prepared.1.2) := by
  intro prepared
  by_cases late : 2 ≤ p.world.state.rank
  · have advances : p.world.Advances config prepared.2.world :=
      ChannelOwned.preparePoll_advances sound.between
    have after : 2 ≤ prepared.2.world.state.rank := late.trans advances.2
    refine ⟨World.onTime_of_later after, ?_⟩
    intro connecting
    rw [connecting] at after
    exact absurd after (by decide)
  · have here := sound.between.early late
    have same : p.thread.owned.world.pollEvents.2 = p.world := World.pollEvents_of_early here
    simp only [prepared, ChannelOwned.preparePoll, same]
    refine ⟨onTime.world.readClock.pollTimeoutMs _, ?_⟩
    intro isConnecting
    rcases here with idle | connecting
    · cases idle.state.symm.trans isConnecting
    · exact connecting.pollsUntil (onTime.world.connecting isConnecting).1 _

theorem OnTime.stepLoop (onTime : p.OnTime platform config deadline)
    (sound : p.Sound config) (answer : PollAnswer) :
    let p' := p.step platform config (.loop answer)
    ∃ deadline', p'.OnTime platform config deadline' ∧
      World.SameAttempt deadline deadline' p.world p'.world := by
  have alike : World.SameAttempt deadline deadline p.world p.world := fun isIdle =>
    ⟨isIdle, rfl⟩
  simp only [ChannelProcess.step, EventThread.step]
  cases loop : p.thread.loop with
  | runPendingOps => exact ⟨deadline, ⟨onTime.world, fun _ => trivial⟩, alike⟩
  | running ops stopping =>
      cases ops with
      | cons op ops =>
          cases op with
          | handleNewCall pc =>
              obtain ⟨deadline', next, same⟩ := onTime.world.step sound.between (.newCall pc)
                (sound.isNew loop)
              exact ⟨deadline', ⟨next, fun _ => trivial⟩, same⟩
          | doShutdown shutdown =>
              obtain ⟨deadline', next, same⟩ := onTime.world.step sound.between .shutdown trivial
              exact ⟨deadline', ⟨next, fun _ => trivial⟩, same⟩
      | nil =>
          cases stopping with
          | true => exact ⟨deadline, ⟨onTime.world, fun _ => trivial⟩, alike⟩
          | false => exact ⟨deadline, ⟨onTime.world.readClock, fun _ => rfl⟩, alike⟩
  | runDue now =>
      obtain ⟨deadline', next, same⟩ := onTime.world.step sound.between (.runDue now) trivial
      refine ⟨deadline', ⟨next, ?_⟩, same⟩
      intro still
      obtain ⟨notIdle, next⟩ := onTime.runDue_loop sound loop still
      rw [(same notIdle).2]
      exact next
  | preparePoll =>
      obtain ⟨next, polls⟩ := onTime.preparePoll sound
      have advances : p.world.Advances config (p.thread.owned.preparePoll platform).2.world :=
        ChannelOwned.preparePoll_advances sound.between
      exact ⟨deadline, ⟨next, polls⟩, advances.sameAttempt deadline⟩
  | poll events timeoutMs =>
      cases answer with
      | interrupted | failed | returned =>
          exact ⟨deadline, ⟨onTime.world, fun _ => trivial⟩, alike⟩
  | drain watching wakeup socket =>
      exact ⟨deadline, ⟨onTime.world, fun _ => trivial⟩, alike⟩
  | dispatch watching socket =>
      obtain ⟨deadline', next, same⟩ := onTime.world.step sound.between (.ready socket) trivial
      simp only
      split_ifs
      · exact ⟨deadline', ⟨next, fun _ => trivial⟩, same⟩
      · exact ⟨deadline, ⟨onTime.world, fun _ => trivial⟩, alike⟩
  | exited => exact ⟨deadline, onTime, alike⟩

/-! ## The other threads -/

theorem stepUnaryCall_loop (call : Nat) :
    (p.stepUnaryCall config call).thread.loop = p.thread.loop := by
  unfold ChannelProcess.stepUnaryCall
  cases p.unaryCalls call with
  | post pc =>
      obtain ⟨ops, posted⟩ := p.thread.post_eq (.handleNewCall pc)
      simp only
      rw [posted]
      split_ifs <;> rfl
  | wait =>
      simp only
      split <;> rfl
  | called | failLocal | notify | rejected | returned => rfl

theorem OnTime.stepUnaryCall (onTime : p.OnTime platform config deadline)
    (sound : p.Sound config) (call : Nat) :
    (p.stepUnaryCall config call).OnTime platform config deadline ∧
      World.SameAttempt deadline deadline p.world (p.stepUnaryCall config call).world := by
  by_cases failing : p.unaryCalls call = .failLocal
  · -- Only a channel that was shut down refuses an operation.
    have shut : (p.stepUnaryCall config call).world.state = .shutdown := by
      rw [ChannelProcess.stepUnaryCall, failing]
      exact sound.refused call failing
    refine ⟨⟨World.onTime_of_later (by rw [shut]; decide), ?_⟩, ?_⟩
    · intro connecting
      cases shut.symm.trans connecting
    · intro _
      exact ⟨by simp [shut], rfl⟩
  · rw [stepUnaryCall_world failing]
    refine ⟨⟨?_, ?_⟩, fun notIdle => ⟨notIdle, rfl⟩⟩
    · rw [stepUnaryCall_world failing]
      exact onTime.world
    · rw [stepUnaryCall_world failing, stepUnaryCall_loop]
      exact onTime.loop

theorem OnTime.step (onTime : p.OnTime platform config deadline) (sound : p.Sound config)
    (action : ProcessAction) :
    let p' := p.step platform config action
    ∃ deadline', p'.OnTime platform config deadline' ∧
      World.SameAttempt deadline deadline' p.world p'.world := by
  cases action with
  | unaryCall call => exact ⟨deadline, onTime.stepUnaryCall sound call⟩
  | shutdown shutdown =>
      simp only [ChannelProcess.step]
      rw [stepShutdown_world]
      refine ⟨deadline, ⟨?_, ?_⟩, fun notIdle => ⟨notIdle, rfl⟩⟩
      · rw [stepShutdown_world]
        exact onTime.world
      · rw [stepShutdown_world, (stepShutdown_fixed shutdown).2.2]
        exact onTime.loop
  | loop answer => exact onTime.stepLoop sound answer

theorem Started.onTime (start : p.Started config) (deadline : Int) :
    p.OnTime platform config deadline where
  world :=
    { idle := fun _ => by
        rw [start.world.timers]
        exact ⟨{}, TimerHeap.refines_empty _⟩
      connecting := fun connecting => by
        rcases start.world.channel with channel | channel <;>
          cases (congrArg ChannelImpl.state channel).symm.trans connecting }
  loop _ := by
    rw [start.loop]
    trivial

theorem Reachable.onTime (reachable : Reachable platform config p) :
    p.Sound config ∧ ∃ deadline, p.OnTime platform config deadline := by
  refine Runs.Reach.invariant
    (fun p => p.Sound config ∧ ∃ deadline, p.OnTime platform config deadline) ?_ ?_ reachable
  · intro p start
    exact ⟨start.sound, 0, start.onTime 0⟩
  · rintro p action ⟨sound, deadline, onTime⟩ admits
    obtain ⟨deadline', next, _⟩ := onTime.step sound action
    exact ⟨sound.step admits, deadline', next⟩

/-- While a channel is connecting there is one deadline, no later than the time the
attempt is allowed from now, and it stays the same for as long as the attempt lasts,
whatever the threads do. A round of `RunDue` before the deadline changes nothing; one at
the deadline or later gives the attempt up and returns every waiting call as unavailable.
No round of the loop gets past `RunDue` later than that with the attempt still going on,
and `poll` never sleeps past the deadline by more than a millisecond. -/
theorem connect_attempt_ends (reachable : Reachable platform config p)
    (connecting : p.world.state = .connecting) :
    ∃ deadline ≤ p.world.now + milliseconds config.options.connectTimeout,
      ∀ p', Later platform config p p' → p'.world.state = .connecting →
        p'.world.TimesOutAt platform deadline ∧
        (p'.thread.loop = .preparePoll → p'.world.now < deadline) ∧
        ∀ events timeoutMs, p'.thread.loop = .poll events timeoutMs →
          PollsUntil p'.world.now deadline timeoutMs := by
  obtain ⟨sound, deadline, onTime⟩ := reachable.onTime
  refine ⟨deadline, (onTime.world.connecting connecting).2, ?_⟩
  intro p' later still
  have here : p'.Sound config ∧ p'.world.state ≠ .idle ∧
      p'.OnTime platform config deadline := by
    refine Runs.Reach.invariant (fun p' => p'.Sound config ∧ p'.world.state ≠ .idle ∧
      p'.OnTime platform config deadline) ?_ ?_ later
    · rintro _ rfl
      exact ⟨sound, by simp [connecting], onTime⟩
    · rintro p' action ⟨sound, notIdle, onTime⟩ admits
      obtain ⟨deadline', next, same⟩ := onTime.step sound action
      obtain ⟨notIdle', rfl⟩ := same notIdle
      exact ⟨sound.step admits, notIdle', next⟩
  obtain ⟨sound', _, onTime'⟩ := here
  have early : ¬ 2 ≤ p'.world.state.rank := by
    rw [still]
    decide
  have loop := onTime'.loop still
  refine ⟨?_, fun ran => ?_, fun events timeoutMs polls => ?_⟩
  · rcases sound'.between.early early with idle | attempt
    · cases idle.state.symm.trans still
    · exact attempt.timesOutAt (onTime'.world.connecting still).1
  · rw [ran] at loop
    exact loop
  · rw [polls] at loop
    exact loop

def sampleAttempt : ChannelProcess :=
  [.unaryCall 0, .unaryCall 0, .loop .interrupted, .loop .interrupted].foldl
    (step World.silentPlatform World.sampleConfig) sampleProcess

theorem sampleAttempt_ends :
    sampleAttempt.world.state = .connecting ∧
      ∃ deadline ≤ sampleAttempt.world.now +
          milliseconds World.sampleConfig.options.connectTimeout,
        ∀ p', Later World.silentPlatform World.sampleConfig sampleAttempt p' →
          p'.world.state = .connecting →
            p'.world.TimesOutAt World.silentPlatform deadline ∧
            (p'.thread.loop = .preparePoll → p'.world.now < deadline) ∧
            ∀ events timeoutMs, p'.thread.loop = .poll events timeoutMs →
              PollsUntil p'.world.now deadline timeoutMs := by
  have reachable : Reachable World.silentPlatform World.sampleConfig sampleAttempt :=
    sampleProcess_reachable (by simp)
  exact ⟨by decide, connect_attempt_ends reachable (by decide)⟩

end ChannelProcess

end Egrpc
