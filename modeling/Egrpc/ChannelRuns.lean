import Egrpc.ChannelPhases

/-!
# Runs of a channel

Every event-thread callback leads from a phase to a phase, and the channel's
state only moves upward.  By induction every reachable channel is in a phase
between two callbacks, which says where each call is and which resources the
channel holds.
-/

namespace Egrpc

theorem ChannelImpl.State.rank_le_shutdown (state : ChannelImpl.State) :
    state.rank ≤ ChannelImpl.State.shutdown.rank := by
  cases state <;> decide

namespace World

variable {platform : Platform} {config : ChannelConfig} {held : List Nat}
  {queue : List PendingCall} {w : World} {pc : PendingCall}

/-- A channel between two callbacks. -/
def Between (config : ChannelConfig) (w : World) : Prop :=
  w.Idle config ∨ w.Connecting config ∨ w.Live config [] [] ∨ w.Down config []

/-- The channel is between two callbacks, and has not moved back. -/
def Advances (config : ChannelConfig) (w w' : World) : Prop :=
  w'.Between config ∧ w.state.rank ≤ w'.state.rank

theorem LiveOrFailed.advances {w' : World}
    (here : w'.LiveOrFailed config [] []) (early : w.state.rank ≤ 2) :
    w.Advances config w' := by
  rcases here with live | ⟨failed, down⟩
  · exact ⟨.inr (.inr (.inl live)), by rw [live.state]; exact early⟩
  · exact ⟨.inr (.inr (.inr down)), by
      rw [failed]
      exact early.trans (by decide)⟩

/-! ## New calls -/

theorem Down.enroll {call : Nat} (down : w.Down config held)
    (isNew : call ∉ w.handled) :
    (w.recordHandled call).Down config (call :: held) :=
  { down with
    ledger := down.ledger.enroll isNew
    report := report_of_same down.report rfl rfl rfl rfl }

theorem Live.enroll {call : Nat} (live : w.Live config held queue)
    (isNew : call ∉ w.handled) :
    (w.recordHandled call).Live config (call :: held) queue := by
  obtain ⟨session, present, serving⟩ := live.session
  exact { live with
    session := ⟨session, present,
      { serving with ledger := serving.ledger.enroll isNew }⟩ }

theorem Armed.onSocket (armed : w.Armed config) {Answer : Type}
    (operation : TlsIo → Answer × TlsIo) :
    (w.onSocket operation).2.Armed config :=
  { armed with }

theorem Idle.armConnectTimer (idle : w.Idle config) (isNew : pc.call ∉ w.handled) :
    (((w.recordHandled pc.call).enqueue pc).armConnectTimer platform config).Armed
      config where
  state := rfl
  ledger := by
    have queued : (w.pendingCalls ++ [pc]).map PendingCall.call = [pc.call] := by
      simp [idle.pendingCalls]
    exact queued ▸ idle.ledger.enroll isNew
  h2 := idle.h2
  connectTimer := Nat.pos_iff_ne_zero.mp w.timers.nextId_pos
  keepaliveTimer := idle.keepaliveTimer
  timers := TimerHeap.only_add platform.timerAlgorithms idle.timers _ _
  activeCalls := idle.activeCalls
  tearDowns := idle.tearDowns
  faults := idle.faults

/-- Connecting or, if that went wrong at once, failed. -/
def ConnectingOrFailed (config : ChannelConfig) (w : World) : Prop :=
  w.Connecting config ∨ w.state = .failed ∧ w.Down config []

theorem startConnecting_phase
    (armed : (w.armConnectTimer platform config).Armed config) :
    (w.startConnecting platform config).ConnectingOrFailed config := by
  have started := armed.onSocket
    (TlsIo.startConnect platform config.host config.port config.tls)
  unfold World.startConnecting
  simp only
  split_ifs with failed
  · exact .inr (started.ongoing.tearDown rfl)
  · have connecting := TlsIo.startConnect_connecting platform config.host config.port
      config.tls _ (Bool.eq_true_of_not_eq_false failed)
    exact .inl
      { started with
        watchedFd := connecting.2
        watch := rfl
        sock := connecting }

theorem ConnectingOrFailed.not_ready (here : w.ConnectingOrFailed config) :
    w.state ≠ .ready := by
  rcases here with connecting | ⟨failed, _⟩
  · simp [connecting.state]
  · simp [failed]

theorem ConnectingOrFailed.advances {w' : World}
    (here : w'.ConnectingOrFailed config) (early : w.state.rank ≤ 1) :
    w.Advances config w' := by
  rcases here with connecting | ⟨failed, down⟩
  · exact ⟨.inr (.inl connecting), by rw [connecting.state]; exact early⟩
  · exact ⟨.inr (.inr (.inr down)), by
      rw [failed]
      exact early.trans (by decide)⟩

theorem Connecting.enroll (connecting : w.Connecting config)
    (isNew : pc.call ∉ w.handled) :
    ((w.recordHandled pc.call).enqueue pc).Connecting config :=
  { connecting with
    ledger := by
      have order : (pc.call :: w.pendingCalls.map PendingCall.call).Perm
          ((w.pendingCalls ++ [pc]).map PendingCall.call) := by
        rw [List.map_append]
        exact (List.perm_append_singleton _ _).symm
      exact (connecting.ledger.enroll isNew).perm order }

theorem Between.handleNewCall (between : w.Between config)
    (isNew : pc.call ∉ w.handled) :
    w.Advances config (w.handleNewCall platform config pc) := by
  rcases between with idle | connecting | live | down
  · have state : (w.recordHandled pc.call).state = .idle := idle.state
    simp only [World.handleNewCall, state]
    exact (startConnecting_phase (idle.armConnectTimer isNew)).advances
      (by rw [idle.state]; decide)
  · have state : (w.recordHandled pc.call).state = .connecting := connecting.state
    simp only [World.handleNewCall, state]
    exact ConnectingOrFailed.advances (.inl (connecting.enroll isNew))
      (by rw [connecting.state]; decide)
  · rw [handleNewCall_of_ready live.state]
    exact (live.enroll isNew).submitCall.flushOutput.advances
      (by rw [live.state]; decide)
  · have admitted := down.enroll isNew
    rcases down.state with ended | ended
    · have state : (w.recordHandled pc.call).state = .failed := ended
      simp only [World.handleNewCall, state]
      exact ⟨.inr (.inr (.inr (admitted.failCall _))), le_refl _⟩
    · have state : (w.recordHandled pc.call).state = .shutdown := ended
      simp only [World.handleNewCall, state]
      exact ⟨.inr (.inr (.inr (admitted.failCall _))), le_refl _⟩

/-! ## Readiness, timers, poll masks -/

theorem Connecting.connected (connecting : w.Connecting config)
    (ok : (w.onSocket (TlsIo.continueConnect platform)).1 = .ok) :
    (w.onSocket (TlsIo.continueConnect platform)).2.cancelConnectTimer.Connected
      config := by
  have armed := connecting.toArmed.onSocket (TlsIo.continueConnect platform)
  have round := TlsIo.continueConnect_round platform ⟨w.sock, w.tls⟩ connecting.sock
  exact { armed with
    connectTimer := rfl
    timers := armed.timers.cancelNamed
    sock := (round.done ok).1
    fd := (round.done ok).2 }

/-- What becomes of a connecting channel whose socket is ready: it has failed,
it starts its session, or `ContinueConnect` has to wait. -/
theorem Connecting.onConnectProgress_cases (platform : Platform)
    (connecting : w.Connecting config) :
    let progress := w.onSocket (TlsIo.continueConnect platform)
    let connected := progress.2.cancelConnectTimer
    let w' := w.onConnectProgress platform config
    (w'.state = .failed ∧ w'.Down config []) ∨
    (connected.Connected config ∧ w' = connected.startSession platform config) ∨
    (w' = progress.2 ∧ (progress.1 = .wantRead ∨ progress.1 = .wantWrite)) := by
  intro progress connected w'
  have armed : progress.2.Armed config :=
    connecting.toArmed.onSocket (TlsIo.continueConnect platform)
  have failed : (connected.tearDown .socket).state = .failed ∧
      (connected.tearDown .socket).Down config [] := armed.cancelled.tearDown rfl
  simp only [w', World.onConnectProgress]
  split
  · rename_i want
    exact .inr (.inr ⟨rfl, .inl want⟩)
  · rename_i want
    exact .inr (.inr ⟨rfl, .inr want⟩)
  · rename_i ok
    exact .inr (.inl ⟨connecting.connected ok, rfl⟩)
  · exact .inl failed
  · exact .inl failed

theorem Connecting.onConnectProgress (connecting : w.Connecting config) :
    w.Advances config (w.onConnectProgress platform config) := by
  have early : w.state.rank ≤ 1 := by rw [connecting.state]; decide
  have round := TlsIo.continueConnect_round platform ⟨w.sock, w.tls⟩ connecting.sock
  have armed := connecting.toArmed.onSocket (TlsIo.continueConnect platform)
  rcases connecting.onConnectProgress_cases platform with
    failed | ⟨connected, starts⟩ | ⟨waits, want⟩
  · exact ConnectingOrFailed.advances (.inr failed) early
  · rw [starts]
    exact connected.startSession.advances (early.trans (by decide))
  · rw [waits]
    exact ConnectingOrFailed.advances
      (.inl { armed with
        watchedFd := connecting.watchedFd
        watch := connecting.watch
        sock := (round.waiting want).1 }) early

theorem Live.onSocketReady (live : w.Live config [] []) (revents : Nat) :
    w.Advances config (w.onSocketReady platform revents) := by
  have drained : (w.drainReadable platform revents).LiveOrFailed config [] [] :=
    Live.transfer.drainReadable live revents
  refine LiveOrFailed.advances ?_ (by rw [live.state]; decide)
  exact (drained.whenReady Live.flushOutput).whenReady fun ready =>
    LiveOrFailed.rearmKeepalive (.inl ready)

theorem Between.onReady (between : w.Between config) (revents : Nat) :
    w.Advances config (w.onReady platform config revents) := by
  unfold World.onReady
  rcases between with idle | connecting | live | down
  · rw [idle.watch]
    exact ⟨.inl idle, le_refl _⟩
  · rw [connecting.watch]
    exact connecting.onConnectProgress
  · rw [live.watch]
    exact live.onSocketReady revents
  · rw [down.watch]
    exact ⟨.inr (.inr (.inr down)), le_refl _⟩

theorem runDue_of_none (platform : Platform)
    (none : ∀ id, id ∉ w.timers.callbacks) (now : Int) :
    ∃ timers, w.runDue platform now = { w with timers := timers } ∧
      ∀ id, id ∉ timers.callbacks := by
  rcases (TimerHeap.only_zero none TimerCallback.keepalive).takeDue
      platform.timerAlgorithms now with ⟨nothing, only⟩ | ⟨_, nonzero, _⟩
  · refine ⟨(w.timers.takeDue platform.timerAlgorithms now).2, ?_, ?_⟩
    · simp only [World.runDue, nothing]
    · intro id member
      exact ((only.mem_iff id).mp member).2 rfl
  · exact absurd rfl nonzero

/-- The connect timer fires, or nothing does. -/
theorem Connecting.runDue_cases (connecting : w.Connecting config) (now : Int) :
    ((w.runDue platform now).state = .failed ∧
      (w.runDue platform now).Down config []) ∨
    ∃ timers, w.runDue platform now = { w with timers := timers } ∧
      timers.Only w.connectTimer .connectTimeout ∧
      (w.timers.takeDue platform.timerAlgorithms now).1 = none := by
  unfold World.runDue
  simp only
  rcases connecting.timers.takeDue platform.timerAlgorithms now with
    ⟨nothing, only⟩ | ⟨fired, _, none⟩
  · rw [nothing]
    exact .inr ⟨_, rfl, only, rfl⟩
  · rw [fired]
    have expired : ({ w with
        timers := (w.timers.takeDue platform.timerAlgorithms now).2
        connectTimer := 0 } : World).Ongoing config [] :=
      { connecting.ongoing with named := fun id member => absurd member (none id) }
    exact .inl (expired.tearDown rfl)

theorem Between.runDue (between : w.Between config) (now : Int) :
    w.Advances config (w.runDue platform now) := by
  rcases between with idle | connecting | live | down
  · obtain ⟨timers, same, none⟩ := runDue_of_none platform idle.timers now
    rw [same]
    exact ⟨.inl { idle with timers := none }, le_refl _⟩
  · have early : w.state.rank ≤ 1 := by rw [connecting.state]; decide
    rcases connecting.runDue_cases now with failed | ⟨timers, same, only, _⟩
    · exact ConnectingOrFailed.advances (.inr failed) early
    · rw [same]
      exact ConnectingOrFailed.advances
        (.inl { connecting with timers := only }) early
  · have early : w.state.rank ≤ 2 := by rw [live.state]; decide
    unfold World.runDue
    simp only
    rcases live.timers.takeDue platform.timerAlgorithms now with
      ⟨nothing, only⟩ | ⟨fired, _, none⟩
    · rw [nothing]
      exact LiveOrFailed.advances (.inl { live with timers := only }) early
    · rw [fired]
      refine LiveOrFailed.advances (Live.onKeepaliveTimer ?_) early
      exact { live with timers := TimerHeap.only_zero none _ }
  · obtain ⟨timers, same, none⟩ := runDue_of_none platform down.timers now
    rw [same]
    exact ⟨.inr (.inr (.inr { down with
      timers := none
      report := report_of_same down.report rfl rfl rfl rfl })), le_refl _⟩

theorem Between.pollEvents (between : w.Between config) :
    w.Advances config w.pollEvents.2 := by
  unfold World.pollEvents
  rcases between with idle | connecting | live | down
  · rw [if_pos (by rw [idle.watchedFd]; decide)]
    exact ⟨.inl idle, le_refl _⟩
  · rw [connecting.watch]
    split_ifs <;> exact ⟨.inr (.inl connecting), le_refl _⟩
  · rw [live.watch]
    have early : w.state.rank ≤ 2 := by rw [live.state]; decide
    split_ifs
    · exact LiveOrFailed.advances (.inl live) early
    · exact LiveOrFailed.advances
        (.inl (live.onSession (preserving_quiet SessionIo.wantWrite_same))) early
  · rw [if_pos (by rw [down.watchedFd]; decide)]
    exact ⟨.inr (.inr (.inr down)), le_refl _⟩

/-! ## Shutdown -/

/-- A session whose streams all belong to finished calls: its hooks change
nothing. -/
structure Retired (table : CallTable) (session : Http2Session Nat)
    (current : CallTable) : Prop where
  same : current = table
  activeCalls : table.activeCalls = []
  finished : ∀ streamId hooks, session.hooksAt streamId = some hooks →
    ∃ call, hooks = makeStreamHooks call ∧ (table.calls call).state = .closed

theorem deliver_of_closed {table : CallTable} {call : Nat}
    (closed : (table.calls call).state = .closed) (event : CallEvent) :
    table.deliver call event = table := by
  rw [CallTable.deliver, CallState.handle_of_closed closed,
    Function.update_eq_self]

theorem Retired.sessionInvariant (table : CallTable) :
    SessionInvariant CallTable.hook (Retired table) where
  same := fun session session' current same retired =>
    { retired with
      finished := fun streamId hooks found =>
        retired.finished streamId hooks (same.hooksAt streamId ▸ found) }
  event := by
    rintro session current streamId hooks hookCall found event
      ⟨rfl, activeCalls, finished⟩
    obtain ⟨call, rfl, closed⟩ := finished streamId hooks found
    refine ⟨?_, activeCalls, finished⟩
    cases event with
    | responseHeaders headers endStream isHook =>
        cases isHook
        exact deliver_of_closed closed _
    | trailers headers isHook =>
        cases isHook
        exact deliver_of_closed closed _
    | data bytes isHook =>
        cases isHook
        exact deliver_of_closed closed _
  shared := by
    intro session current hookCall shared retired
    cases hookCall with
    | remoteSettings | settingsAck | pingAck | goaway => exact retired
    | responseHeaders | trailers | data | close => exact shared.elim
  close := by
    rintro session session' current streamId hooks errorCode found gone
      ⟨rfl, activeCalls, finished⟩
    obtain ⟨call, rfl, closed⟩ := finished streamId hooks found
    refine ⟨?_, activeCalls, ?_⟩
    · change { current.deliver call (.close errorCode) with
        activeCalls := current.activeCalls.filter (· ≠ call) } = current
      rw [deliver_of_closed closed, activeCalls, List.filter_nil, ← activeCalls]
    · intro other hooks foundOther
      rw [gone.hooksAt] at foundOther
      split_ifs at foundOther
      exact finished other hooks foundOther

/-- A channel that is shutting down: the calls and the event thread are done
with it, the session is not. -/
structure Leaving (config : ChannelConfig) (w : World) : Prop where
  state : w.state = .shutdown
  ledger : Ledger config.life [] w.calls w.handled
  connectTimer : w.connectTimer = 0
  keepaliveTimer : w.keepaliveTimer = 0
  timers : ∀ id, id ∉ w.timers.callbacks
  watchedFd : w.watchedFd = -1
  watch : w.watch = none
  pendingCalls : w.pendingCalls = []
  activeCalls : w.activeCalls = []
  report : w.tearDowns = [] ∧ w.faults = [] ∨
    ∃ record, w.tearDowns = [record] ∧ record.Reported w

/-- A channel that is shutting down and still has its session. -/
structure Parting (config : ChannelConfig) (w : World) : Prop
    extends Leaving config w where
  tearDowns : w.tearDowns = []
  faults : w.faults = []
  session : ∃ session, w.h2 = some session ∧ Retired w.table session w.table

theorem Parting.onSession (parting : w.Parting config) {Answer : Type}
    {missing : Answer}
    {operation : SessionIo Nat → Answer × List (HookCall Nat) × SessionIo Nat}
    (keeps : ∀ table, SessionInvariant.Keeps CallTable.hook (Retired table)
      operation) :
    (w.onSession missing operation).2.Parting config := by
  obtain ⟨session, present, retired⟩ := parting.session
  have kept := (keeps w.table ⟨session, w.ng⟩ w.table retired).1
  rw [onSession_of_some present,
    show w.table.hooks (operation ⟨session, w.ng⟩).2.1 = w.table from kept.same]
  exact { parting with
    report := .inl ⟨parting.tearDowns, parting.faults⟩
    session := ⟨_, rfl, retired.same, retired.activeCalls, kept.finished⟩ }

theorem Parting.farewellRound (parting : w.Parting config) :
    (farewellRound platform w).Meets (Parting config) (Parting config) := by
  have output : (w.pendingOutput platform).2.Parting config :=
    parting.onSession fun table =>
      (Retired.sessionInvariant table).pendingOutput platform
  have wrote : ∀ data, ((w.pendingOutput platform).2.onSocket
      (TlsIo.write platform data)).2.Parting config := fun data =>
    { output with report := .inl ⟨output.tearDowns, output.faults⟩ }
  unfold World.farewellRound
  simp only
  split
  · exact output
  · exact output
  · split_ifs
    · exact wrote _
    · exact (wrote _).onSession fun table =>
        (Retired.sessionInvariant table).quiet fun _ =>
          ⟨⟨fun _ => rfl, rfl, rfl, rfl, rfl⟩, ⟨rfl, rfl⟩⟩

theorem Parting.closeGracefully (parting : w.Parting config) :
    (w.closeGracefully platform).Leaving config := by
  have terminated : w.terminate.Parting config := parting.onSession fun table =>
    (Retired.sessionInvariant table).quiet SessionIo.terminate_same
  have parted : (w.closeGracefully platform).Parting config :=
    (farewellLoop platform).run_invariant (fun _ => Parting.farewellRound) terminated
  exact parted.toLeaving

theorem Leaving.down (leaving : w.Leaving config) :
    w.closeSocket.resetSession.Down config [] :=
  { leaving with
    state := .inr leaving.state
    h2 := rfl
    report := report_of_same leaving.report rfl rfl rfl rfl }

/-- Unblocking every waiter of a channel that has not ended. -/
theorem Ongoing.beginShutdown (ongoing : w.Ongoing config []) :
    w.beginShutdown.Leaving config ∧ w.beginShutdown.tearDowns = [] ∧
      w.beginShutdown.faults = [] ∧ w.beginShutdown.h2 = w.h2 ∧
      ∀ call ∈ w.activeCalls, (w.beginShutdown.calls call).state = .closed := by
  obtain ⟨calls, freed, failed, others, ended⟩ := failAllCalls_eq
    (.temporary (Bytes.ofString "channel is shut down"))
    { w with state := .shutdown }
  have begun : w.beginShutdown = ({ w with
      state := .shutdown
      activeCalls := []
      pendingCalls := []
      calls := calls
      freed := freed
      faults := w.faults ++ [] } : World).cancelTimersAndUnwatch :=
    congrArg cancelTimersAndUnwatch failed
  have order : ([] ++ w.pendingCalls.map PendingCall.call ++ w.activeCalls).Perm
      ((w.activeCalls ++ w.pendingCalls.map PendingCall.call) ++ []) := by
    rw [List.nil_append, List.append_nil]
    exact List.perm_append_comm
  have ledger := ongoing.ledger.perm order
  have nodup := (List.nodup_append.mp ledger.nodup).1
  have closed := ended nodup fun call member => fun closed =>
    ledger.waiting call (List.mem_append_left _ member) ((ledger.valid call).mpr closed)
  have faults : w.faults ++ [] = [] := by rw [ongoing.faults, List.append_nil]
  rw [begun]
  refine ⟨?_, ongoing.tearDowns, faults, rfl, fun call member =>
    (closed call (List.mem_append_left _ member)).closed⟩
  exact
    { state := rfl
      ledger := ledger.settle (fun call member => (closed call member).settled) others
      connectTimer := rfl
      keepaliveTimer := rfl
      timers := TimersNamed.cancelled (w := { w with
        state := .shutdown
        activeCalls := []
        pendingCalls := []
        calls := calls
        freed := freed
        faults := w.faults ++ [] }) ongoing.named
      watchedFd := rfl
      watch := rfl
      pendingCalls := rfl
      activeCalls := rfl
      report := .inl ⟨ongoing.tearDowns, faults⟩ }

theorem Ongoing.doShutdown (ongoing : w.Ongoing config [])
    (serving : w.state = .ready → ∃ session, w.h2 = some session ∧
      ∀ streamId hooks, session.hooksAt streamId = some hooks →
        ∃ call ∈ w.activeCalls, hooks = makeStreamHooks call) :
    (w.doShutdown platform).state = .shutdown ∧ (w.doShutdown platform).Down config [] := by
  obtain ⟨leaving, tearDowns, faults, h2, closed⟩ := ongoing.beginShutdown
  have left : (if w.state = .ready ∧ w.h2.isSome then
      w.beginShutdown.closeGracefully platform else w.beginShutdown).Leaving
      config := by
    split_ifs with wasReady
    · obtain ⟨session, present, owned⟩ := serving wasReady.1
      refine Parting.closeGracefully { leaving with
        tearDowns := tearDowns
        faults := faults
        session := ⟨session, h2.trans present, rfl, leaving.activeCalls, ?_⟩ }
      intro streamId hooks found
      obtain ⟨call, member, isHooks⟩ := owned streamId hooks found
      exact ⟨call, isHooks, closed call member⟩
    · exact leaving
  unfold World.doShutdown
  rw [if_neg (fun shutdown => ongoing.ongoing (.inr shutdown))]
  exact ⟨left.state, left.down⟩

/-- There is nobody left to unblock on a channel that is down. -/
theorem Down.beginShutdown (down : w.Down config []) :
    w.beginShutdown.Leaving config := by
  have failed : ({ w with state := .shutdown } : World).failAllCalls
      (World.failCall (Bytes.ofString "channel is shut down")) =
        { w with state := .shutdown, activeCalls := [], pendingCalls := [] } := by
    simp only [failAllCalls, down.activeCalls, down.pendingCalls, List.foldl_nil,
      List.map_nil]
  unfold World.beginShutdown
  rw [failed]
  refine { down with
    state := rfl
    connectTimer := rfl
    keepaliveTimer := rfl
    timers := ?_
    watchedFd := rfl
    watch := rfl
    pendingCalls := rfl
    activeCalls := rfl
    report := report_of_same down.report rfl rfl rfl rfl }
  exact TimersNamed.cancelled (w := { w with
    state := .shutdown
    activeCalls := []
    pendingCalls := [] }) fun id member => absurd member (down.timers id)

theorem Down.doShutdown (down : w.Down config []) :
    (w.doShutdown platform).state = .shutdown ∧
      (w.doShutdown platform).Down config [] := by
  unfold World.doShutdown
  split_ifs with already
  · exact ⟨already, down⟩
  · have leaving := down.beginShutdown
    simp only
    rw [if_neg fun ready => down.not_ready ready.1]
    exact ⟨leaving.state, leaving.down⟩

theorem Idle.ongoing (idle : w.Idle config) : w.Ongoing config [] where
  ongoing := by simp [idle.state]
  ledger := by
    simp only [idle.activeCalls, idle.pendingCalls, List.map_nil, List.append_nil]
    exact idle.ledger
  named := fun id member => absurd member (idle.timers id)
  tearDowns := idle.tearDowns
  faults := idle.faults

theorem Between.doShutdown (between : w.Between config) :
    (w.doShutdown platform).state = .shutdown ∧
      (w.doShutdown platform).Down config [] := by
  rcases between with idle | connecting | live | down
  · exact idle.ongoing.doShutdown (by simp [idle.state])
  · exact connecting.ongoing.doShutdown (by simp [connecting.state])
  · obtain ⟨session, present, serving⟩ := live.session
    exact live.ongoing.doShutdown fun _ => ⟨session, present, serving.owned⟩
  · exact down.doShutdown

/-! ## Every run -/

/-- Every callback leads from a phase to a phase, and not back. -/
theorem Between.step (between : w.Between config) {event : ChannelEvent}
    (admits : w.Admits event) : w.Advances config (w.step platform config event) := by
  cases event with
  | newCall pc => exact between.handleNewCall admits
  | runDue now => exact between.runDue now
  | pollEvents => exact between.pollEvents
  | ready revents => exact between.onReady revents
  | shutdown =>
      have ended : (w.doShutdown platform).state = .shutdown ∧
        (w.doShutdown platform).Down config [] := between.doShutdown
      exact ⟨.inr (.inr (.inr ended.2)), ended.1 ▸ w.state.rank_le_shutdown⟩

theorem Fresh.between (fresh : w.Fresh config) : w.Between config := by
  have ledger : Ledger config.life [] w.calls w.handled := by
    rw [fresh.handled]
    exact Ledger.nil fresh.calls
  have timers : ∀ id, id ∉ w.timers.callbacks := by
    intro id
    rw [fresh.timers]
    exact AList.notMem_empty id
  rcases fresh.channel with idle | failed
  · exact .inl
      { state := congrArg ChannelImpl.state idle
        ledger := ledger
        h2 := congrArg ChannelImpl.h2 idle
        connectTimer := congrArg ChannelImpl.connectTimer idle
        keepaliveTimer := congrArg ChannelImpl.keepaliveTimer idle
        timers := timers
        watchedFd := fresh.watchedFd
        watch := fresh.watch
        pendingCalls := congrArg ChannelImpl.pendingCalls idle
        activeCalls := congrArg ChannelImpl.activeCalls idle
        tearDowns := fresh.tearDowns
        faults := fresh.faults }
  · exact .inr (.inr (.inr
      { state := .inl (congrArg ChannelImpl.state failed)
        ledger := ledger
        h2 := congrArg ChannelImpl.h2 failed
        connectTimer := congrArg ChannelImpl.connectTimer failed
        keepaliveTimer := congrArg ChannelImpl.keepaliveTimer failed
        timers := timers
        watchedFd := fresh.watchedFd
        watch := fresh.watch
        pendingCalls := congrArg ChannelImpl.pendingCalls failed
        activeCalls := congrArg ChannelImpl.activeCalls failed
        report := .inl ⟨fresh.tearDowns, fresh.faults⟩ }))

theorem Reachable.between (reachable : Reachable platform config w) :
    w.Between config :=
  reachable.invariant (Between config) (fun _ fresh => fresh.between)
    fun _ _ between admits => (between.step admits).1

end World

end Egrpc
