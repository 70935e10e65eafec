import Egrpc.ChannelSafety

/-!
# The keepalive timer

The session says when keepalive should run next, if at all: without permission
to ping an idle connection it does not run while there is no stream.  The
channel asks the session when it has moved bytes or the timer has fired, but
not after it has submitted a call.  So a call submitted on an idle connection
is not guarded, unless pings are permitted without calls.
-/

namespace Egrpc

/-- nghttp2 will answer the next requests with errors. -/
def NgEnv.Refuses (env : NgEnv) (count : Nat) : Prop :=
  ∀ answer ∈ env.submitRequests.take count, answer < 0

instance (env : NgEnv) (count : Nat) : Decidable (env.Refuses count) :=
  inferInstanceAs (Decidable (∀ _ ∈ _, _))

theorem NgEnv.Refuses.submitRequest {env : NgEnv} {count : Nat}
    (refuses : env.Refuses (count + 1)) (headers : HeaderList) (body : Bytes) :
    (env.submitRequest headers body).1 < 0 ∧
      (env.submitRequest headers body).2.Refuses count := by
  unfold NgEnv.submitRequest
  simp only
  split
  · rename_i none
    have empty : env.submitRequests = [] := none
    have negative : NGHTTP2_ERR_STREAM_ID_NOT_AVAILABLE < 0 := by decide
    exact ⟨negative, by simp [NgEnv.Refuses, NgEnv.log, empty]⟩
  · rename_i answer rest some
    have queue : env.submitRequests = answer :: rest := some
    rw [NgEnv.Refuses, queue, List.take_succ_cons] at refuses
    exact ⟨refuses answer (by simp), fun other member =>
      refuses other (List.mem_cons_of_mem _ member)⟩

theorem SessionIo.submitUnaryRequest_of_refuses {Hook : Type}
    (platform : Platform) (headers : HeaderList) (body : Bytes)
    (hooks : StreamHooks Hook) (io : SessionIo Hook) {count : Nat}
    (refuses : io.env.Refuses (count + 1)) :
    (io.submitUnaryRequest platform headers body hooks).1 < 0 ∧
      (io.submitUnaryRequest platform headers body hooks).2.env.Refuses count := by
  have fewer : io.env.Refuses count := fun answer member =>
    refuses answer (List.take_subset_take_left _ (Nat.le_succ count) member)
  obtain ⟨negative, rest⟩ := refuses.submitRequest headers body
  have minusOne : (-1 : Int) < 0 := by decide
  unfold SessionIo.submitUnaryRequest SessionIo.setError
  simp only
  split_ifs
  · exact ⟨minusOne, fewer⟩
  · exact ⟨minusOne, fewer⟩
  · exact ⟨minusOne, rest⟩

theorem SessionIo.submitUnaryRequest_of_draining {Hook : Type}
    (platform : Platform) (headers : HeaderList) (body : Bytes)
    (hooks : StreamHooks Hook) (io : SessionIo Hook)
    (draining : io.session.draining = true) :
    (io.submitUnaryRequest platform headers body hooks).1 < 0 := by
  have minusOne : (-1 : Int) < 0 := by decide
  unfold SessionIo.submitUnaryRequest
  simp only [draining, if_true]
  split_ifs <;> exact minusOne

namespace World

variable {platform : Platform} {config : ChannelConfig} {held : List Nat}
  {queue : List PendingCall} {w start : World} {refusing : Prop}

/-! ## What keeps keepalive off -/

/-- The session has the channel's options. -/
def Configured (config : ChannelConfig) (session : Http2Session Nat)
    (_ : CallTable) : Prop :=
  session.options = config.options.http2

/-- The session has the channel's options and, where calls that nothing guards are
refused and there is no keepalive timer, nothing to guard. -/
structure Resting (config : ChannelConfig) (refusing : Prop) (timer : Nat)
    (session : Http2Session Nat) (table : CallTable) : Prop where
  configured : Configured config session table
  unguarded : refusing → timer = 0 →
    config.options.http2.keepalivePermitWithoutCalls = false ∧
      session.activeStreams = 0 ∧ ∀ streamId, session.hooksAt streamId = none

theorem Configured.sessionInvariant (config : ChannelConfig) :
    SessionInvariant CallTable.hook (Configured config) where
  same _ _ _ same holds := same.options.trans holds
  event _ _ _ _ _ _ _ holds := holds
  shared _ _ _ _ holds := holds
  close _ _ _ _ _ _ _ gone holds := gone.options.trans holds

theorem Resting.of_same {timer : Nat} {session session' : Http2Session Nat}
    {table : CallTable} (resting : Resting config refusing timer session table)
    (same : Http2Session.SameStreams session session') :
    Resting config refusing timer session' table where
  configured := same.options.trans resting.configured
  unguarded refuses off := by
    obtain ⟨notPermitted, count, none⟩ := resting.unguarded refuses off
    exact ⟨notPermitted, same.activeStreams.trans count,
      fun streamId => (same.hooksAt streamId).trans (none streamId)⟩

theorem Resting.sessionInvariant (config : ChannelConfig) (refusing : Prop) (timer : Nat) :
    SessionInvariant CallTable.hook (Resting config refusing timer) where
  same _ _ _ same resting := resting.of_same same
  event _ _ _ _ _ _ _ resting := ⟨resting.configured, resting.unguarded⟩
  shared _ _ _ _ resting := ⟨resting.configured, resting.unguarded⟩
  close session session' table streamId hooks _ found gone resting := by
    refine ⟨gone.options.trans resting.configured, fun refuses off => ?_⟩
    -- There is no stream that could close.
    cases found.symm.trans ((resting.unguarded refuses off).2.2 streamId)

/-- A session with nothing to guard asks for no keepalive. -/
theorem Resting.deadline {session : Http2Session Nat} {table : CallTable}
    {timer : Nat} (resting : Resting config refusing timer session table)
    (refuses : refusing) (due : session.nextKeepaliveDeadline.isSome = true) :
    timer ≠ 0 := by
  intro off
  obtain ⟨notPermitted, count, _⟩ := resting.unguarded refuses off
  unfold Http2Session.nextKeepaliveDeadline at due
  rw [resting.configured] at due
  simp [notPermitted, count] at due

/-- A live session that asks for no keepalive has nothing to guard. -/
theorem resting_of_deadline {handled : List Nat} {issued : List Int}
    {session : Http2Session Nat} {table : CallTable} {timer : Nat}
    (serving : Serving config held handled issued session table)
    (configured : Configured config session table)
    (armed : session.nextKeepaliveDeadline.isSome = true → timer ≠ 0) :
    Resting config refusing timer session table where
  configured := configured
  unguarded _ off := by
    have undue : ¬ session.nextKeepaliveDeadline.isSome = true :=
      fun due => armed due off
    have idle : session.options.keepalivePermitWithoutCalls = false ∧
        session.activeStreams = 0 := by
      by_contra busy
      apply undue
      unfold Http2Session.nextKeepaliveDeadline
      rw [if_neg (by simp [serving.live]), if_neg busy]
      split_ifs <;> rfl
    refine ⟨configured ▸ idle.1, idle.2, fun streamId => ?_⟩
    have noKeys : session.streams.keys = [] := by
      have count := serving.counted
      rw [idle.2] at count
      exact List.eq_nil_of_length_eq_zero (by omega)
    rw [← Option.not_isSome_iff_eq_none, session.hooksAt_isSome, AList.mem_keys,
      noKeys]
    exact List.not_mem_nil

/-- A channel that is ready has a session with its options and, where calls that nothing
guards are refused, a keepalive timer or nothing to guard. -/
def Supervised (config : ChannelConfig) (refusing : Prop) (w : World) : Prop :=
  w.state = .ready → Holding (Resting config refusing w.keepaliveTimer) w w

theorem supervised_of_not_ready (notReady : w.state ≠ .ready) :
    w.Supervised config refusing :=
  fun ready => absurd ready notReady

theorem HoldingOrFailed.supervised
    (here : HoldingOrFailed (Resting config refusing start.keepaliveTimer) start w) :
    w.Supervised config refusing := by
  intro ready
  have holding := here.holding ready
  exact ⟨ready, rfl, rfl, holding.keepaliveTimer ▸ holding.session⟩

theorem LiveOrFailed.rearmKeepalive_supervised
    (here : w.LiveOrFailed config held queue)
    (configured : HoldingOrFailed (Configured config) start w) :
    (w.rearmKeepalive platform).Supervised config refusing := by
  rcases here with live | ⟨_, down⟩
  · obtain ⟨session, present, hasOptions⟩ := (configured.holding live.state).session
    obtain ⟨rearmed, same, _, armed⟩ := live.rearmKeepalive platform present
    obtain ⟨session', present', serving⟩ := rearmed.session
    obtain rfl : session = session' := Option.some.inj (same.symm.trans present')
    exact fun ready => ⟨ready, rfl, rfl, session, same,
      resting_of_deadline serving hasOptions armed.mpr⟩
  · unfold World.rearmKeepalive
    rw [if_pos (.inl down.not_ready)]
    exact supervised_of_not_ready down.not_ready

/-! ## Submitting calls -/

/-- Submitting a call keeps a channel supervised if there is a timer or nghttp2
refuses the call. -/
theorem Supervised.submitCall (supervised : w.Supervised config refusing)
    (ready : w.state = .ready) {session : Http2Session Nat}
    (present : w.h2 = some session) {pc : PendingCall}
    (refused : refusing → w.keepaliveTimer = 0 →
      (submitRequest platform config pc ⟨session, w.ng⟩).1 < 0) :
    (w.submitCall platform config pc).Supervised config refusing := by
  obtain ⟨session', present', resting⟩ := (supervised ready).session
  obtain rfl : session = session' := Option.some.inj (present.symm.trans present')
  obtain ⟨h2, _, state, keepaliveTimer, _⟩ :=
    submitCall_frame platform config pc ready present
  have frame := SessionIo.submitUnaryRequest_frame platform (buildRequestHeaders
    config.authority pc.methodPath pc.timeout pc.metadata
    config.options.userAgentPrefix) pc.framedBody (makeStreamHooks pc.call)
    ⟨session, w.ng⟩
  refine fun _ => ⟨state, rfl, rfl, _, h2, ?_⟩
  rw [keepaliveTimer]
  refine ⟨frame.1.trans resting.configured, fun refuses off => ?_⟩
  have same := (SessionIo.submitUnaryRequest_refused (refused refuses off)).2
  exact (resting.of_same same).unguarded refuses off

theorem Supervised.submitQueued (pending : List PendingCall)
    (supervised : w.Supervised config refusing) (ready : w.state = .ready)
    (refuses : refusing → w.keepaliveTimer = 0 → w.ng.Refuses pending.length) :
    (pending.foldl (World.submitQueued platform config) w).Supervised config refusing := by
  induction pending generalizing w with
  | nil => exact supervised
  | cons pc pending ih =>
      obtain ⟨session, present, _⟩ := (supervised ready).session
      obtain ⟨_, ng, state, keepaliveTimer, _⟩ :=
        submitCall_frame platform config pc ready present
      have refused : refusing → w.keepaliveTimer = 0 →
          (submitRequest platform config pc ⟨session, w.ng⟩).1 < 0 ∧
            (submitRequest platform config pc ⟨session, w.ng⟩).2.env.Refuses
              pending.length := fun isRefusing off =>
        SessionIo.submitUnaryRequest_of_refuses platform _ _ _ ⟨session, w.ng⟩
          (refuses isRefusing off)
      rw [List.foldl_cons, World.submitQueued, if_neg (not_not.mpr ready)]
      refine ih (supervised.submitCall ready present fun isRefusing off =>
        (refused isRefusing off).1) state fun isRefusing off => ?_
      rw [ng]
      exact (refused isRefusing (keepaliveTimer ▸ off)).2

theorem Supervised.flushOutput (supervised : w.Supervised config refusing) :
    (w.flushOutput platform).Supervised config refusing := by
  by_cases ready : w.state = .ready
  · have flushed : HoldingOrFailed (Resting config refusing w.keepaliveTimer) w
        (w.flushOutput platform) :=
      (Holding.transfer (Resting.sessionInvariant config _ _)).flushOutput
        (supervised ready)
    exact flushed.supervised
  · rw [flushOutput_of_not_ready ready]
    exact supervised

theorem Supervised.submitPending (supervised : w.Supervised config refusing)
    (ready : w.state = .ready)
    (refuses : refusing → w.keepaliveTimer = 0 → w.ng.Refuses w.pendingCalls.length) :
    (w.submitPending platform config).Supervised config refusing := by
  have waiting : ({ w with pendingCalls := [] } : World).Supervised config refusing :=
    fun _ => { supervised ready with }
  have submitted : (w.pendingCalls.foldl (World.submitQueued platform config)
      { w with pendingCalls := [] }).Supervised config refusing :=
    waiting.submitQueued w.pendingCalls ready refuses
  unfold World.submitPending
  simp only [World.whenReady]
  split_ifs
  · exact submitted.flushOutput
  · exact submitted

/-! ## The callbacks -/

theorem Holding.flush_configured (holding : Holding (Configured config) start w) :
    HoldingOrFailed (Configured config) start (w.flushOutput platform) :=
  (Holding.transfer (Configured.sessionInvariant config)).flushOutput holding

theorem Supervised.configured (supervised : w.Supervised config refusing)
    (ready : w.state = .ready) : Holding (Configured config) w w := by
  obtain ⟨session, present, resting⟩ := (supervised ready).session
  exact ⟨ready, rfl, rfl, session, present, resting.configured⟩

/-- Entering the ready state leaves the queued calls and nghttp2's answers to
them alone. -/
theorem Live.enterReady_frame (platform : Platform)
    (live : w.Live config held queue)
    (configured : Holding (Configured config) start w) :
    let entered := (w.flushOutput platform).rearmKeepalive platform
    entered.state = .ready → entered.pendingCalls = queue ∧
      entered.ng.submitRequests = start.ng.submitRequests := by
  intro entered ready
  have flushed : (w.flushOutput platform).LiveOrFailed config held queue :=
    live.flushOutput
  have kept : HoldingOrFailed (Configured config) start (w.flushOutput platform) :=
    configured.flush_configured
  rcases flushed with stillLive | ⟨_, down⟩
  · obtain ⟨session, present, _⟩ := stillLive.session
    obtain ⟨rearmed, _, ng, _⟩ := stillLive.rearmKeepalive platform present
    exact ⟨rearmed.pendingCalls,
      ng ▸ (kept.holding stillLive.state).submitRequests⟩
  · have same : entered = w.flushOutput platform := by
      simp only [entered, World.rearmKeepalive]
      rw [if_pos (.inl down.not_ready)]
    exact absurd (same ▸ ready) down.not_ready

theorem sessionReady_configured (platform : Platform) (config : ChannelConfig)
    (w : World) : Holding (Configured config) w (w.sessionReady platform config) := by
  have fresh := new_streams platform config.options.http2 { onGoaway := true }
    w.readClock.1 w.readClock.2.ng
  exact ⟨rfl, rfl, fresh.2.2.2, _, rfl, fresh.2.2.1⟩

/-- `StartSession` leaves a channel supervised if pings are permitted without
calls or nghttp2 refuses the queued calls. -/
theorem Connected.startSession_supervised (connected : w.Connected config)
    (guarded : refusing → config.options.http2.keepalivePermitWithoutCalls = true ∨
      w.ng.Refuses w.pendingCalls.length) :
    (w.startSession platform config).Supervised config refusing := by
  have configured := sessionReady_configured platform config w
  rcases connected.startSession_cases platform with ⟨failed, _⟩ | ⟨live, goesOn⟩
  · exact supervised_of_not_ready (by simp [failed])
  · have entered : (((w.sessionReady platform config).flushOutput
        platform).rearmKeepalive platform).Supervised config refusing :=
      live.flushOutput.rearmKeepalive_supervised configured.flush_configured
    have frame := live.enterReady_frame platform configured
    rw [goesOn]
    rcases live.flushOutput.rearmKeepalive with stillLive | ⟨_, down⟩
    · obtain ⟨pendingCalls, requests⟩ := frame stillLive.state
      refine entered.submitPending stillLive.state fun isRefusing off => ?_
      rcases guarded isRefusing with permitted | refuses
      · obtain ⟨session, _, resting⟩ := (entered stillLive.state).session
        cases (resting.unguarded isRefusing off).1.symm.trans permitted
      · unfold NgEnv.Refuses
        rw [requests, pendingCalls]
        exact refuses
    · rw [down.submitPending]
      exact supervised_of_not_ready down.not_ready

theorem Live.onSocketReady_supervised (live : w.Live config [] [])
    (supervised : w.Supervised config refusing) (revents : Nat) :
    (w.onSocketReady platform revents).Supervised config refusing := by
  have drained : (w.drainReadable platform revents).LiveOrFailed config [] [] :=
    Live.transfer.drainReadable live revents
  have configured : HoldingOrFailed (Configured config) w
      (w.drainReadable platform revents) :=
    (Holding.transfer (Configured.sessionInvariant config)).drainReadable
      (supervised.configured live.state) revents
  unfold World.onSocketReady
  rw [World.whenReady]
  split_ifs with ready
  · exact (drained.whenReady Live.flushOutput).rearmKeepalive_supervised
      (configured.whenReady Holding.flush_configured)
  · exact supervised_of_not_ready ready

theorem Live.onKeepaliveTimer_supervised
    (live : ({ w with keepaliveTimer := 0 } : World).Live config [] [])
    (configured : Holding (Configured config) start { w with keepaliveTimer := 0 }) :
    (w.onKeepaliveTimer platform).Supervised config refusing := by
  have checked : (({ w with keepaliveTimer := 0 } : World).checkKeepalive
      platform).2.Live config [] [] := Live.transfer.checkKeepalive live
  have stillConfigured : Holding (Configured config) start
      (({ w with keepaliveTimer := 0 } : World).checkKeepalive platform).2 :=
    (Holding.transfer (Configured.sessionInvariant config)).checkKeepalive configured
  obtain ⟨session, present, _⟩ := live.session
  rw [onKeepaliveTimer_of_some (w := w) live.state present]
  split_ifs
  · refine supervised_of_not_ready ?_
    rw [(checked.ongoing.tearDown rfl).1]
    decide
  · exact checked.flushOutput.rearmKeepalive_supervised
      stillConfigured.flush_configured

/-! ## Every run -/

/-- The session has received a GOAWAY. -/
def Draining (w : World) : Prop :=
  ∃ session ∈ w.h2, session.draining = true

/-- What an event asks of the session where pings are not permitted without
calls: a call that comes while there is no keepalive timer is refused, and so are the
queued calls when the session is started for them. -/
def RefusesUnguarded (platform : Platform) (config : ChannelConfig) (w : World) :
    ChannelEvent → Prop
  | .newCall _ => config.options.http2.keepalivePermitWithoutCalls = true ∨
      (w.state = .ready → w.keepaliveTimer = 0 → w.Draining ∨ w.ng.Refuses 1)
  | .ready revents => config.options.http2.keepalivePermitWithoutCalls = true ∨
      (w.state = .connecting →
        (w.step platform config (.ready revents)).state = .ready →
        w.ng.Refuses w.pendingCalls.length)
  | .runDue _ | .pollEvents | .shutdown => True

theorem Idle.step_not_ready (idle : w.Idle config) {event : ChannelEvent}
    (admits : w.Admits event) : (w.step platform config event).state ≠ .ready := by
  cases event with
  | newCall pc =>
      have state : (w.recordHandled pc.call).state = .idle := idle.state
      simp only [World.step, World.handleNewCall, state]
      exact (startConnecting_phase (idle.armConnectTimer admits)).not_ready
  | runDue now =>
      obtain ⟨timers, same, _⟩ := runDue_of_none platform idle.timers now
      simp [World.step, same, idle.state]
  | pollEvents => simp [World.step, World.pollEvents, idle.watchedFd, idle.state]
  | ready revents => simp [World.step, World.onReady, idle.watch, idle.state]
  | shutdown => simp [World.step, (Between.doShutdown (.inl idle)).1]

/-- A connecting channel becomes ready only by starting its session. -/
theorem Connecting.step_cases (platform : Platform) (connecting : w.Connecting config)
    (event : ChannelEvent) :
    let connected := (w.onSocket (TlsIo.continueConnect platform)).2.cancelConnectTimer
    (w.step platform config event).state ≠ .ready ∨
      (∃ revents, event = .ready revents) ∧ connected.Connected config ∧
        w.step platform config event = connected.startSession platform config := by
  have notReady : w.state ≠ .ready := by simp [connecting.state]
  cases event with
  | newCall pc =>
      have state : (w.recordHandled pc.call).state = .connecting := connecting.state
      simp only [World.step, World.handleNewCall, state]
      exact .inl notReady
  | runDue now =>
      left
      rcases connecting.runDue_cases now with ⟨failed, _⟩ | ⟨timers, same, _⟩
      · rw [World.step, failed]
        decide
      · rw [World.step, same]
        exact notReady
  | pollEvents =>
      left
      rw [World.step, World.pollEvents, connecting.watch]
      split_ifs <;> exact notReady
  | ready revents =>
      rw [World.step, World.onReady, connecting.watch]
      rcases connecting.onConnectProgress_cases platform with
        ⟨failed, _⟩ | started | ⟨waits, _⟩
      · exact .inl (by simp [failed])
      · exact .inr ⟨⟨revents, rfl⟩, started⟩
      · exact .inl (by rw [waits]; exact notReady)
  | shutdown =>
      left
      simp [World.step, (Between.doShutdown (.inr (.inl connecting))).1]

theorem Connecting.step_supervised (connecting : w.Connecting config)
    {event : ChannelEvent}
    (refuses : refusing → w.RefusesUnguarded platform config event) :
    (w.step platform config event).Supervised config refusing := by
  intro ready
  rcases connecting.step_cases platform event with
    notReady | ⟨⟨revents, rfl⟩, connected, starts⟩
  · exact absurd ready notReady
  · have supervised : (w.step platform config (.ready revents)).Supervised config
        refusing := by
      rw [starts]
      exact connected.startSession_supervised fun isRefusing =>
        (refuses isRefusing).imp_right fun queued => queued connecting.state ready
    exact supervised ready

theorem Live.step_supervised (live : w.Live config [] [])
    (supervised : w.Supervised config refusing) {event : ChannelEvent}
    (refuses : refusing → w.RefusesUnguarded platform config event) :
    (w.step platform config event).Supervised config refusing := by
  cases event with
  | newCall pc =>
      obtain ⟨session, present, resting⟩ := (supervised live.state).session
      have admitted : (w.recordHandled pc.call).Supervised config refusing :=
        fun _ => { supervised live.state with }
      have refused : refusing → w.keepaliveTimer = 0 →
          (submitRequest platform config pc ⟨session, w.ng⟩).1 < 0 := by
        intro isRefusing off
        rcases refuses isRefusing with permitted | refuses
        · cases (resting.unguarded isRefusing off).1.symm.trans permitted
        · rcases refuses live.state off with ⟨session', present', draining⟩ | refuses
          · obtain rfl : session = session' :=
              Option.some.inj (present.symm.trans present')
            exact SessionIo.submitUnaryRequest_of_draining platform _ _ _
              ⟨session, w.ng⟩ draining
          · exact (SessionIo.submitUnaryRequest_of_refuses platform _ _ _
              ⟨session, w.ng⟩ refuses).1
      rw [World.step, handleNewCall_of_ready live.state]
      exact (admitted.submitCall live.state present refused).flushOutput
  | runDue now =>
      rw [World.step, World.runDue]
      rcases live.timers.takeDue platform.timerAlgorithms now with
        ⟨nothing, _⟩ | ⟨fired, _, none⟩
      · simp only [nothing]
        exact fun _ => { supervised live.state with }
      · simp only [fired]
        exact Live.onKeepaliveTimer_supervised
          { live with timers := TimerHeap.only_zero none _ }
          ⟨live.state, rfl, rfl, (supervised.configured live.state).session⟩
  | pollEvents =>
      have polled : Holding (Resting config refusing w.keepaliveTimer) w
          (w.onSessionQuietly false SessionIo.wantWrite).2 :=
        (Holding.transfer (Resting.sessionInvariant config _ _)).onSession
          (supervised live.state) (preserving_quiet SessionIo.wantWrite_same)
      rw [World.step, World.pollEvents, live.watch]
      split_ifs
      · exact supervised
      · exact HoldingOrFailed.supervised (.inl polled)
  | ready revents =>
      rw [World.step, World.onReady, live.watch]
      exact live.onSocketReady_supervised supervised revents
  | shutdown =>
      refine supervised_of_not_ready ?_
      simp [World.step, (Between.doShutdown (.inr (.inr (.inl live)))).1]

theorem Down.step_not_ready (down : w.Down config []) {event : ChannelEvent}
    (admits : w.Admits event) : (w.step platform config event).state ≠ .ready := by
  have forward : w.state.rank ≤ (w.step platform config event).state.rank :=
    (Between.step (.inr (.inr (.inr down))) admits).2
  intro ready
  rw [ready] at forward
  rcases down.state with state | state <;> rw [state] at forward <;>
    exact absurd forward (by decide)

theorem Supervised.step (supervised : w.Supervised config refusing)
    (between : w.Between config) {event : ChannelEvent} (admits : w.Admits event)
    (refuses : refusing → w.RefusesUnguarded platform config event) :
    (w.step platform config event).Supervised config refusing := by
  rcases between with idle | connecting | live | down
  · exact supervised_of_not_ready (idle.step_not_ready admits)
  · exact connecting.step_supervised refuses
  · exact live.step_supervised supervised refuses
  · exact supervised_of_not_ready (down.step_not_ready admits)

theorem Fresh.supervised (fresh : w.Fresh config) : w.Supervised config refusing := by
  refine supervised_of_not_ready ?_
  rcases fresh.channel with channel | channel <;> simp [channel]

/-- In every run the session of a ready channel has the channel's options. -/
theorem Reachable.configured (reachable : Reachable platform config w)
    (ready : w.state = .ready) : Holding (Configured config) w w := by
  have both : w.Between config ∧ w.Supervised config False :=
    reachable.invariant (fun w => w.Between config ∧ w.Supervised config False)
      (fun _ fresh => ⟨fresh.between, fresh.supervised⟩)
      fun _ _ here admits => ⟨(here.1.step admits).1, here.2.step here.1 admits False.elim⟩
  exact both.2.configured ready

/-- Whenever keepalive is due to run, its timer is armed. -/
def KeepaliveArmed (w : World) : Prop :=
  w.state = .ready → ∀ session ∈ w.h2,
    session.nextKeepaliveDeadline.isSome = true →
    w.keepaliveTimer ≠ 0 ∧ w.timers.Pending w.keepaliveTimer

instance (w : World) : Decidable w.KeepaliveArmed :=
  inferInstanceAs (Decidable (_ → ∀ _ ∈ _, _))

/-- In every run in which pings are permitted without calls, or nghttp2 refuses
the calls that come while there is no keepalive timer and those for which the session is
started, the timer is armed whenever keepalive is due to run. -/
theorem keepalive_armed_of_refused_calls
    (reached : Runs.Reach (World.step platform config)
      (fun w event => w.Admits event ∧ w.RefusesUnguarded platform config event)
      (Fresh config) w) :
    w.KeepaliveArmed := by
  have both : w.Between config ∧ w.Supervised config True := by
    refine reached.invariant (fun w => w.Between config ∧ w.Supervised config True)
      (fun _ fresh => ⟨fresh.between, fresh.supervised⟩) ?_
    rintro before event ⟨between, supervised⟩ ⟨admits, refuses⟩
    exact ⟨(between.step admits).1, supervised.step between admits fun _ => refuses⟩
  obtain ⟨between, supervised⟩ := both
  intro ready session present due
  obtain ⟨session', present', resting⟩ := (supervised ready).session
  obtain rfl : session = session' := Option.some.inj (present.symm.trans present')
  have armed := resting.deadline trivial due
  exact ⟨armed, ((between.live ready).timers.mem_iff _).mpr ⟨rfl, armed⟩⟩

/-- The sample channel, with or without permission to ping without calls. -/
def pingConfig (permit : Bool) : ChannelConfig :=
  { sampleConfig with options.http2.keepalivePermitWithoutCalls := permit }

def pingReady (permit : Bool) : World :=
  (sampleStart.step silentPlatform (pingConfig permit) (.newCall { call := 0 })).step
    silentPlatform (pingConfig permit) (.ready POLLOUT)

theorem pingStart_fresh (permit : Bool) : sampleStart.Fresh (pingConfig permit) :=
  sampleStart_fresh (pingConfig permit) rfl _ rfl _

theorem permitted_keepalive_armed :
    (pingReady true).activeCalls = [0] ∧ (pingReady true).KeepaliveArmed := by
  have reached : Runs.Reach (World.step silentPlatform (pingConfig true))
      (fun w event => w.Admits event ∧
        w.RefusesUnguarded silentPlatform (pingConfig true) event)
      (Fresh (pingConfig true)) (pingReady true) :=
    .next (.next (.start (pingStart_fresh true)) ⟨List.not_mem_nil, .inl rfl⟩)
      ⟨trivial, .inl rfl⟩
  exact ⟨by decide, keepalive_armed_of_refused_calls reached⟩

/-- Without permission it is not: its stream is active, so keepalive is due to
run, but there is no timer. -/
theorem unpermitted_keepalive_unarmed :
    Reachable silentPlatform (pingConfig false) (pingReady false) ∧
      (pingReady false).activeCalls = [0] ∧ (pingReady false).keepaliveTimer = 0 ∧
      ¬ (pingReady false).KeepaliveArmed :=
  ⟨.next (.next (.start (pingStart_fresh false)) List.not_mem_nil) trivial,
    by decide, by decide, by decide⟩

end World

end Egrpc
