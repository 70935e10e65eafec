import Egrpc.ChannelFlush
import Egrpc.TlsSocketConnect

/-!
# The phases of a channel

Between two callbacks a channel is idle, connecting, live, or down, and each
phase fixes which timers are pending, what is watched, whether there is a
session, and where the open calls are.  This file proves that each function of
the channel leads from a phase into a phase.  A teardown can happen inside any
of them; it needs little of its surroundings, and the functions that go on
after it find a channel that is down.
-/

namespace Egrpc

/-- A `TearDown` has told every call it found why: the calls failed as
unavailable, with its text unless the text was gone, and the text is kept for
later calls.  Reading the detail once for each call was a fault exactly when
the detail was inside the session. -/
structure TearDownCall.Reported (record : TearDownCall) (w : World) : Prop where
  told : ∃ text, record.text = some text ∧ w.failureDetail = text ∧
    ∀ call ∈ record.found, World.FailedAs (w.calls call)
      (if record.detail = .session then none else some text)
  faults : w.faults =
    if record.detail = .session then
      List.replicate record.found.length .danglingDetail
    else []

namespace World

/-- A channel that has not ended.  The open calls are in its two collections
and in `held`. -/
structure Ongoing (config : ChannelConfig) (held : List Nat) (w : World) :
    Prop where
  ongoing : ¬ (w.state = .failed ∨ w.state = .shutdown)
  ledger : Ledger config.life
    (held ++ w.pendingCalls.map PendingCall.call ++ w.activeCalls) w.calls w.handled
  named : w.TimersNamed
  tearDowns : w.tearDowns = []
  faults : w.faults = []

/-- A channel that no call has reached. -/
structure Idle (config : ChannelConfig) (w : World) : Prop where
  state : w.state = .idle
  ledger : Ledger config.life [] w.calls w.handled
  h2 : w.h2 = none
  connectTimer : w.connectTimer = 0
  keepaliveTimer : w.keepaliveTimer = 0
  timers : ∀ id, id ∉ w.timers.callbacks
  watchedFd : w.watchedFd = -1
  watch : w.watch = none
  pendingCalls : w.pendingCalls = []
  activeCalls : w.activeCalls = []
  tearDowns : w.tearDowns = []
  faults : w.faults = []

/-- A channel whose connect timer runs. -/
structure Armed (config : ChannelConfig) (w : World) : Prop where
  state : w.state = .connecting
  ledger : Ledger config.life (w.pendingCalls.map PendingCall.call) w.calls w.handled
  h2 : w.h2 = none
  connectTimer : w.connectTimer ≠ 0
  keepaliveTimer : w.keepaliveTimer = 0
  timers : w.timers.Only w.connectTimer .connectTimeout
  activeCalls : w.activeCalls = []
  tearDowns : w.tearDowns = []
  faults : w.faults = []

structure Connecting (config : ChannelConfig) (w : World) : Prop
    extends Armed config w where
  watchedFd : 0 ≤ w.watchedFd
  watch : w.watch = some .connectProgress
  sock : w.sock.Connecting

/-- A channel with a session.  `queue` is what is still waiting to be
submitted; `held` are calls that a handler is about to submit. -/
structure Live (config : ChannelConfig) (held : List Nat)
    (queue : List PendingCall) (w : World) : Prop where
  state : w.state = .ready
  session : ∃ session, w.h2 = some session ∧
    Serving config (held ++ queue.map PendingCall.call) w.handled w.ng.issued
      session w.table
  pendingCalls : w.pendingCalls = queue
  connectTimer : w.connectTimer = 0
  timers : w.timers.Only w.keepaliveTimer .keepalive
  watchedFd : w.watchedFd = w.sock.fd
  watch : w.watch = some .socketReady
  sock : w.sock.state = .connected
  fd : 0 ≤ w.sock.fd
  tearDowns : w.tearDowns = []
  faults : w.faults = []

/-- A channel that has failed or was shut down. -/
structure Down (config : ChannelConfig) (held : List Nat) (w : World) : Prop where
  state : w.state = .failed ∨ w.state = .shutdown
  ledger : Ledger config.life held w.calls w.handled
  h2 : w.h2 = none
  connectTimer : w.connectTimer = 0
  keepaliveTimer : w.keepaliveTimer = 0
  timers : ∀ id, id ∉ w.timers.callbacks
  watchedFd : w.watchedFd = -1
  watch : w.watch = none
  pendingCalls : w.pendingCalls = []
  activeCalls : w.activeCalls = []
  report : w.tearDowns = [] ∧ w.faults = [] ∨
    ∃ record, w.tearDowns = [record] ∧ record.Reported w

/-- Live or, if something went wrong, failed. -/
def LiveOrFailed (config : ChannelConfig) (held : List Nat)
    (queue : List PendingCall) (w : World) : Prop :=
  w.Live config held queue ∨ w.state = .failed ∧ w.Down config held

variable {platform : Platform} {config : ChannelConfig} {held : List Nat}
  {queue : List PendingCall} {w : World}

/-- The report of a teardown depends on the calls and on what is kept of the
failure. -/
theorem report_of_same {w' : World}
    (report : w.tearDowns = [] ∧ w.faults = [] ∨
      ∃ record, w.tearDowns = [record] ∧ record.Reported w)
    (failureDetail : w'.failureDetail = w.failureDetail)
    (calls : w'.calls = w.calls) (tearDowns : w'.tearDowns = w.tearDowns)
    (faults : w'.faults = w.faults) :
    w'.tearDowns = [] ∧ w'.faults = [] ∨
      ∃ record, w'.tearDowns = [record] ∧ record.Reported w' := by
  rw [tearDowns, faults]
  rcases report with nothing | ⟨record, recorded, told, faulty⟩
  · exact .inl nothing
  · refine .inr ⟨record, recorded, ⟨?_, faults.trans faulty⟩⟩
    rw [failureDetail, calls]
    exact told

theorem Down.not_ready (down : w.Down config held) : w.state ≠ .ready := by
  rcases down.state with state | state <;> simp [state]

theorem Live.ongoing (live : w.Live config held queue) :
    w.Ongoing config held where
  ongoing := by simp [live.state]
  ledger := by
    obtain ⟨session, _, serving⟩ := live.session
    rw [live.pendingCalls]
    exact serving.ledger
  named := by
    intro id member
    obtain ⟨same, nonzero⟩ := (live.timers.mem_iff id).mp member
    exact ⟨same ▸ nonzero, .inr same⟩
  tearDowns := live.tearDowns
  faults := live.faults

theorem Armed.ongoing (armed : w.Armed config) : w.Ongoing config [] where
  ongoing := by simp [armed.state]
  ledger := by
    rw [armed.activeCalls, List.append_nil, List.nil_append]
    exact armed.ledger
  named := by
    intro id member
    obtain ⟨same, nonzero⟩ := (armed.timers.mem_iff id).mp member
    exact ⟨same ▸ nonzero, .inl same⟩
  tearDowns := armed.tearDowns
  faults := armed.faults

theorem Armed.cancelled (armed : w.Armed config) :
    w.cancelConnectTimer.Ongoing config [] :=
  { armed.ongoing with
    named := fun id member => absurd member (armed.timers.cancelNamed id) }

/-! ## Teardown -/

theorem Ongoing.tearDown (ongoing : w.Ongoing config held) {detail : Detail}
    {text : Bytes} (resolved : w.resolve detail = some text) :
    (w.tearDown detail).state = .failed ∧ (w.tearDown detail).Down config held := by
  have torn := tearDown_spec ongoing.ongoing resolved
  have order : (held ++ w.pendingCalls.map PendingCall.call ++ w.activeCalls).Perm
      ((w.tearDownCall detail).found ++ held) := by
    have swap : (w.pendingCalls.map PendingCall.call ++ w.activeCalls).Perm
        (w.tearDownCall detail).found := List.perm_append_comm
    rw [List.append_assoc]
    exact (swap.append_left held).trans List.perm_append_comm
  have ledger := ongoing.ledger.perm order
  have ended := torn.ended (List.nodup_append.mp ledger.nodup).1 fun call member =>
    fun closed => ledger.waiting call (List.mem_append_left _ member)
      ((ledger.valid call).mpr closed)
  refine ⟨torn.state,
    { state := .inl torn.state
      ledger := ?_
      h2 := torn.h2
      connectTimer := torn.connectTimer
      keepaliveTimer := torn.keepaliveTimer
      timers := torn.timers ongoing.named
      watchedFd := torn.watchedFd
      watch := torn.watch
      pendingCalls := torn.pendingCalls
      activeCalls := torn.activeCalls
      report := .inr ⟨w.tearDownCall detail, ?_, ?_⟩ }⟩
  · rw [torn.handled]
    exact ledger.settle (fun call member => (ended call member).settled) torn.others
  · rw [torn.tearDowns, ongoing.tearDowns, List.nil_append]
  · refine ⟨⟨text, resolved, torn.failureDetail, ended⟩, ?_⟩
    rw [torn.faults, ongoing.faults, List.nil_append]
    rfl

theorem Down.failCall {call : Nat} (down : w.Down config (call :: held))
    (message : Bytes) : (w.failCall message call).Down config held where
  state := down.state
  ledger := ledger_finish down.ledger trivial
  h2 := down.h2
  connectTimer := down.connectTimer
  keepaliveTimer := down.keepaliveTimer
  timers := down.timers
  watchedFd := down.watchedFd
  watch := down.watch
  pendingCalls := down.pendingCalls
  activeCalls := down.activeCalls
  report := by
    rcases down.report with nothing | ⟨record, recorded, reported⟩
    · exact .inl nothing
    · obtain ⟨text, isText, detail, told⟩ := reported.told
      refine .inr ⟨record, recorded, ⟨text, isText, detail, ?_⟩, reported.faults⟩
      intro other member
      -- A call that was told is done, so it is not the held one.
      have apart : other ≠ call := by
        rintro rfl
        exact down.ledger.waiting other (by simp) (told other member).done
      change FailedAs (Function.update w.calls call _ other) _
      rw [Function.update_of_ne apart]
      exact told other member

/-! ## Operations inside a live channel -/

theorem Live.onSession (live : w.Live config held queue) {Answer : Type}
    {missing : Answer}
    {operation : SessionIo Nat → Answer × List (HookCall Nat) × SessionIo Nat}
    (preserving : Preserving operation) :
    (w.onSession missing operation).2.Live config held queue := by
  obtain ⟨session, present, serving⟩ := live.session
  obtain ⟨kept, requests⟩ := preserving _ (Serving.sessionInvariant config _ _ _)
    ⟨session, w.ng⟩ w.table serving
  rw [onSession_of_some present]
  exact
    { state := live.state
      session := ⟨_, rfl, requests.issued.symm ▸ kept⟩
      pendingCalls := live.pendingCalls
      connectTimer := live.connectTimer
      timers := live.timers
      watchedFd := live.watchedFd
      watch := live.watch
      sock := live.sock
      fd := live.fd
      tearDowns := live.tearDowns
      faults := live.faults }

theorem Live.readClock (live : w.Live config held queue) :
    w.readClock.2.Live config held queue :=
  { live with }

/-- Moving bytes keeps a channel live, unless it is torn down. -/
theorem Live.transfer : TransferInvariant (Live config held queue)
    (LiveOrFailed config held queue) where
  ready := Live.state
  session := by
    intro w live
    obtain ⟨session, present, _⟩ := live.session
    exact ⟨session, present⟩
  onSession := fun live preserving => live.onSession preserving
  onSocket := by
    intro w Answer operation live state fd
    exact { live with
      watchedFd := live.watchedFd.trans (fd ⟨w.sock, w.tls⟩).symm
      sock := (state ⟨w.sock, w.tls⟩).trans live.sock
      fd := (fd ⟨w.sock, w.tls⟩).symm ▸ live.fd }
  readClock := Live.readClock
  tearDown := fun live resolved => .inr (live.ongoing.tearDown resolved)
  leave := .inl

theorem Live.flushOutput (live : w.Live config held queue) :
    (w.flushOutput platform).LiveOrFailed config held queue :=
  Live.transfer.flushOutput live

/-! ## Keepalive -/

/-- `RearmKeepalive` leaves the session and nghttp2 alone, and arms a timer
exactly when keepalive is due to run. -/
theorem Live.rearmKeepalive (platform : Platform) (live : w.Live config held queue)
    {session : Http2Session Nat} (present : w.h2 = some session) :
    (w.rearmKeepalive platform).Live config held queue ∧
      (w.rearmKeepalive platform).h2 = some session ∧
      (w.rearmKeepalive platform).ng = w.ng ∧
      ((w.rearmKeepalive platform).keepaliveTimer ≠ 0 ↔
        session.nextKeepaliveDeadline.isSome = true) := by
  have cancelled : w.cancelKeepaliveTimer.readClock.2.Live config held queue :=
    { live with timers := TimerHeap.only_zero live.timers.cancelNamed .keepalive }
  have here : w.cancelKeepaliveTimer.readClock.2.h2 = some session := present
  unfold World.rearmKeepalive
  rw [if_neg (by simp [live.state, present])]
  simp only
  rw [peek_of_some here]
  cases session.nextKeepaliveDeadline with
  | none =>
      exact ⟨cancelled, here, rfl, by simp [cancelKeepaliveTimer, World.readClock]⟩
  | some due =>
      refine ⟨{ cancelled with timers := ?_ }, here, rfl, ?_⟩
      · exact TimerHeap.only_add platform.timerAlgorithms live.timers.cancelNamed _ _
      · simp only [Option.isSome_some, iff_true]
        exact Nat.pos_iff_ne_zero.mp
          (w.timers.cancelNamed w.keepaliveTimer).nextId_pos

theorem LiveOrFailed.rearmKeepalive (here : w.LiveOrFailed config held queue) :
    (w.rearmKeepalive platform).LiveOrFailed config held queue := by
  rcases here with live | ⟨failed, down⟩
  · obtain ⟨session, present, _⟩ := live.session
    exact .inl (live.rearmKeepalive platform present).1
  · unfold World.rearmKeepalive
    rw [if_pos (.inl down.not_ready)]
    exact .inr ⟨failed, down⟩

/-- The keepalive callback of a ready channel checks, and then gives the peer up or
flushes and rearms. -/
theorem onKeepaliveTimer_of_some {session : Http2Session Nat} (ready : w.state = .ready)
    (present : w.h2 = some session) :
    let checked := ({ w with keepaliveTimer := 0 } : World).checkKeepalive platform
    w.onKeepaliveTimer platform =
      if checked.1 = .dead then
        checked.2.tearDown (.temporary (Bytes.ofString
          "keepalive timeout: no reads from server within keepalive_timeout"))
      else (checked.2.flushOutput platform).rearmKeepalive platform := by
  intro checked
  unfold World.onKeepaliveTimer
  simp only
  rw [if_neg (by simp [ready, present])]
  cases checked.1 <;> simp [checked]

/-- The keepalive callback, after its timer has been taken off the heap. -/
theorem Live.onKeepaliveTimer
    (live : ({ w with keepaliveTimer := 0 } : World).Live config held queue) :
    (w.onKeepaliveTimer platform).LiveOrFailed config held queue := by
  obtain ⟨session, present, _⟩ := live.session
  have checked : (({ w with keepaliveTimer := 0 } : World).checkKeepalive
      platform).2.Live config held queue := Live.transfer.checkKeepalive live
  rw [onKeepaliveTimer_of_some (w := w) live.state present]
  split_ifs
  · exact Live.transfer.tearDown checked rfl
  · exact checked.flushOutput.rearmKeepalive

/-! ## Submitting calls -/

theorem Live.failCall {call : Nat} (live : w.Live config (call :: held) queue)
    (message : Bytes) : (w.failCall message call).Live config held queue := by
  obtain ⟨session, present, serving⟩ := live.session
  exact { live with
    session := ⟨session, present,
      { serving with ledger := ledger_finish serving.ledger trivial }⟩ }

theorem submitCall_refused {pc : PendingCall} {session : Http2Session Nat}
    (ready : w.state = .ready) (present : w.h2 = some session)
    (refused : (submitRequest platform config pc ⟨session, w.ng⟩).1 < 0) :
    w.submitCall platform config pc =
      (w.withSession (submitRequest platform config pc ⟨session, w.ng⟩).2).failCall
        (submitRequest platform config pc ⟨session, w.ng⟩).2.session.error
        pc.call := by
  unfold submitCall
  rw [if_neg (by simp [ready, present]), onSessionQuietly_of_some present]
  simp only
  rw [if_pos refused, peek_of_some rfl]

theorem submitCall_accepted {pc : PendingCall} {session : Http2Session Nat}
    (ready : w.state = .ready) (present : w.h2 = some session)
    (isNew : pc.call ∉ w.activeCalls)
    (accepted : 0 ≤ (submitRequest platform config pc ⟨session, w.ng⟩).1) :
    w.submitCall platform config pc =
      (w.withSession (submitRequest platform config pc ⟨session, w.ng⟩).2).withTable
        { w.table.deliver pc.call (.stream (.submitted
            (submitRequest platform config pc ⟨session, w.ng⟩).1)) with
          activeCalls := w.activeCalls ++ [pc.call] } := by
  have activated : ∀ table : CallTable, table.activeCalls = w.activeCalls →
      table.activate pc.call =
        { table with activeCalls := w.activeCalls ++ [pc.call] } := by
    intro table same
    rw [CallTable.activate, same, if_neg isNew]
  unfold submitCall
  rw [if_neg (by simp [ready, present]), onSessionQuietly_of_some present]
  simp only
  rw [if_neg (Int.not_lt.mpr accepted), activated _ rfl]
  rfl

/-- What a submission does to a ready channel apart from the calls. -/
theorem submitCall_frame (platform : Platform) (config : ChannelConfig)
    (pc : PendingCall) {session : Http2Session Nat} (ready : w.state = .ready)
    (present : w.h2 = some session) :
    let submitted := submitRequest platform config pc ⟨session, w.ng⟩
    let w' := w.submitCall platform config pc
    w'.h2 = some submitted.2.session ∧ w'.ng = submitted.2.env ∧
      w'.state = .ready ∧ w'.keepaliveTimer = w.keepaliveTimer ∧ w'.tls = w.tls ∧
      w'.sock = w.sock := by
  unfold submitCall
  rw [if_neg (by simp [ready, present]), onSessionQuietly_of_some present]
  simp only
  split_ifs
  · rw [peek_of_some rfl]
    exact ⟨rfl, rfl, ready, rfl, rfl, rfl⟩
  · exact ⟨rfl, rfl, ready, rfl, rfl, rfl⟩

theorem Live.submitCall {pc : PendingCall}
    (live : w.Live config (pc.call :: held) queue) :
    (w.submitCall platform config pc).Live config held queue := by
  obtain ⟨session, present, serving⟩ := live.session
  rcases SessionIo.submitUnaryRequest_cases platform _ pc.framedBody
      (makeStreamHooks pc.call) ⟨session, w.ng⟩ serving.issued with
    ⟨refused, _, issued, same⟩ | ⟨accepted, isNew, issued, registered⟩
  · have negative : (submitRequest platform config pc ⟨session, w.ng⟩).1 < 0 := by
      rw [submitRequest, refused]
      decide
    rw [submitCall_refused live.state present negative]
    refine Live.failCall ?_ _
    exact { live with
      session := ⟨_, rfl, issued.symm ▸ serving.of_same same⟩ }
  · have apart : pc.call ∉ w.activeCalls := by
      intro member
      exact (List.nodup_append.mp serving.ledger.nodup).2.2 pc.call (by simp)
        pc.call member rfl
    rw [submitCall_accepted live.state present apart accepted]
    exact { live with
      session := ⟨_, rfl, issued.symm ▸ serving.submit registered isNew⟩ }

theorem handleNewCall_of_ready {pc : PendingCall} (ready : w.state = .ready) :
    w.handleNewCall platform config pc =
      ((w.recordHandled pc.call).submitCall platform config pc).flushOutput
        platform := by
  have stillReady : (w.recordHandled pc.call).state = .ready := ready
  simp only [World.handleNewCall, stillReady]

theorem Live.submitQueued (pending : List PendingCall)
    (live : w.Live config (pending.map PendingCall.call ++ held) queue) :
    (pending.foldl (World.submitQueued platform config) w).Live config held
      queue := by
  induction pending generalizing w with
  | nil => exact live
  | cons pc pending ih =>
      rw [List.foldl_cons, World.submitQueued, if_neg (not_not.mpr live.state)]
      exact ih live.submitCall

theorem LiveOrFailed.whenReady (here : w.LiveOrFailed config held queue)
    {action : World → World}
    (acts : w.Live config held queue → (action w).LiveOrFailed config held queue) :
    (w.whenReady action).LiveOrFailed config held queue := by
  unfold World.whenReady
  rcases here with live | ⟨failed, down⟩
  · rw [if_pos live.state]
    exact acts live
  · rw [if_neg down.not_ready]
    exact .inr ⟨failed, down⟩

theorem Down.submitPending (down : w.Down config held) :
    w.submitPending platform config = w := by
  have empty : ({ w with pendingCalls := [] } : World) = w := by
    rw [← down.pendingCalls]
  simp only [World.submitPending, empty, down.pendingCalls, List.foldl_nil,
    World.whenReady, if_neg down.not_ready]

theorem Live.dequeue (live : w.Live config [] queue) :
    ({ w with pendingCalls := [] } : World).Live config
      (queue.map PendingCall.call) [] := by
  obtain ⟨session, present, serving⟩ := live.session
  have moved : queue.map PendingCall.call ++
      ([] : List PendingCall).map PendingCall.call =
      [] ++ queue.map PendingCall.call := by simp
  refine { live with session := ⟨session, present, ?_⟩, pendingCalls := rfl }
  rw [moved]
  exact serving

theorem LiveOrFailed.submitPending (here : w.LiveOrFailed config [] queue) :
    (w.submitPending platform config).LiveOrFailed config [] [] := by
  rcases here with live | ⟨failed, down⟩
  · refine LiveOrFailed.whenReady (.inl (Live.submitQueued _ ?_)) Live.flushOutput
    rw [live.pendingCalls, List.append_nil]
    exact live.dequeue
  · rw [down.submitPending]
    exact .inr ⟨failed, down⟩

/-! ## Starting the session -/

/-- A channel whose socket has just finished connecting. -/
structure Connected (config : ChannelConfig) (w : World) : Prop where
  state : w.state = .connecting
  ledger : Ledger config.life (w.pendingCalls.map PendingCall.call) w.calls w.handled
  connectTimer : w.connectTimer = 0
  keepaliveTimer : w.keepaliveTimer = 0
  timers : ∀ id, id ∉ w.timers.callbacks
  sock : w.sock.state = .connected
  fd : 0 ≤ w.sock.fd
  activeCalls : w.activeCalls = []
  tearDowns : w.tearDowns = []
  faults : w.faults = []

theorem Connected.ongoing (connected : w.Connected config) :
    w.Ongoing config [] where
  ongoing := by simp [connected.state]
  ledger := by
    rw [connected.activeCalls, List.append_nil, List.nil_append]
    exact connected.ledger
  named := fun id member => absurd member (connected.timers id)
  tearDowns := connected.tearDowns
  faults := connected.faults

theorem new_streams (platform : Platform) (options : Http2SessionOptions)
    (hooks : Http2Session.Hooks) (now : Int) (env : NgEnv) :
    let io : SessionIo Nat := SessionIo.new platform options hooks now env
    io.session.streams = ∅ ∧ io.session.activeStreams = 0 ∧
      io.session.options = options ∧
      io.env.submitRequests = env.submitRequests := by
  unfold SessionIo.new SessionIo.setError
  simp only
  split_ifs <;> exact ⟨rfl, rfl, rfl, rfl⟩

/-- The channel is live as soon as it calls itself ready: its new session
serves nobody. -/
theorem Connected.live (connected : w.Connected config)
    {session : Http2Session Nat} (present : w.h2 = some session)
    (streams : session.streams = ∅) (count : session.activeStreams = 0)
    (ok : session.session = true) :
    ({ w.watchFd w.sock.fd .socketReady with state := .ready } : World).Live
      config [] w.pendingCalls := by
  have nothing : ∀ streamId, session.hooksAt streamId = none := by
    intro streamId
    rw [Http2Session.hooksAt, streams]
    rfl
  have only : w.timers.Only w.keepaliveTimer .keepalive := by
    rw [connected.keepaliveTimer]
    exact TimerHeap.only_zero connected.timers _
  exact
    { state := rfl
      session := ⟨session, present,
        { ledger := connected.ongoing.ledger
          owned := by simp [nothing]
          served := by
            intro call member
            have isActive : call ∈ w.activeCalls := member
            rw [connected.activeCalls] at isActive
            cases isActive
          distinct := by simp [nothing]
          counted := by rw [count, streams]; rfl
          issued := by rw [streams]; simp
          live := ok }⟩
      pendingCalls := rfl
      connectTimer := connected.connectTimer
      timers := only
      watchedFd := rfl
      watch := rfl
      sock := connected.sock
      fd := connected.fd
      tearDowns := connected.tearDowns
      faults := connected.faults }

/-- The channel in the moment in which it calls itself ready. -/
def sessionReady (platform : Platform) (config : ChannelConfig) (w : World) : World :=
  let created := w.createSession platform config
  { created.watchFd created.sock.fd .socketReady with state := .ready }

/-- `StartSession` fails, or goes on from a live channel. -/
theorem Connected.startSession_cases (platform : Platform)
    (connected : w.Connected config) :
    let started := w.startSession platform config
    let ready := w.sessionReady platform config
    (started.state = .failed ∧ started.Down config []) ∨
    ready.Live config [] w.pendingCalls ∧
      started = ((ready.flushOutput platform).rearmKeepalive platform).submitPending
        platform config := by
  intro started ready
  have created : (w.createSession platform config).Connected config :=
    { connected with }
  have fresh := new_streams platform config.options.http2 { onGoaway := true }
    w.readClock.1 w.readClock.2.ng
  simp only [started, World.startSession]
  rw [peek_of_some (w := w.createSession platform config) rfl]
  simp only
  split_ifs with ok
  · exact .inl (created.ongoing.tearDown rfl)
  · exact .inr ⟨created.live rfl fresh.1 fresh.2.1 (Bool.eq_true_of_not_eq_false ok), rfl⟩

theorem Connected.startSession (connected : w.Connected config) :
    (w.startSession platform config).LiveOrFailed config [] [] := by
  rcases connected.startSession_cases platform with failed | ⟨live, goesOn⟩
  · exact .inr failed
  · rw [goesOn]
    exact live.flushOutput.rearmKeepalive.submitPending

end World

end Egrpc
