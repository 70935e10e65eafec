import Egrpc.ChannelRuns
import Mathlib.Data.Set.Function

/-!
# What every reachable channel satisfies

The phases of a channel are an invariant of its runs.  From them follow the
three things a user of the channel relies on: no call is lost or tracked twice,
the channel's resources match its state, and a transport failure reaches every
call the channel holds.  The last one holds only as long as the failure's text
is not read out of the session that the teardown destroys.
-/

namespace Egrpc

/-- The call that a registered stream serves. -/
def Http2Session.owner (session : Http2Session Nat) (streamId : Int) : Nat :=
  ((session.hooksAt streamId).bind StreamHooks.onClose).getD 0

theorem Http2Session.owner_of_hooks {session : Http2Session Nat} {streamId : Int}
    {call : Nat}
    (found : session.hooksAt streamId = some (World.makeStreamHooks call)) :
    session.owner streamId = call := by
  rw [owner, found]
  rfl

/-- Registered streams and active calls correspond one to one. -/
theorem Serving.bijOn_owner {config : ChannelConfig} {held handled : List Nat}
    {issued : List Int} {session : Http2Session Nat} {table : CallTable}
    (serving : Serving config held handled issued session table) :
    Set.BijOn session.owner {streamId | streamId ∈ session.streams}
      {call | call ∈ table.activeCalls} := by
  have hooks : ∀ streamId ∈ session.streams, ∃ call ∈ table.activeCalls,
      session.hooksAt streamId = some (World.makeStreamHooks call) := by
    intro streamId registered
    obtain ⟨hooks, found⟩ :=
      Option.isSome_iff_exists.mp ((session.hooksAt_isSome streamId).mpr registered)
    obtain ⟨call, member, rfl⟩ := serving.owned streamId hooks found
    exact ⟨call, member, found⟩
  refine ⟨?_, ?_, ?_⟩
  · intro streamId registered
    obtain ⟨call, member, found⟩ := hooks streamId registered
    rw [Http2Session.owner_of_hooks found]
    exact member
  · intro streamId registered streamId' registered' same
    obtain ⟨call, _, found⟩ := hooks streamId registered
    obtain ⟨call', _, found'⟩ := hooks streamId' registered'
    rw [Http2Session.owner_of_hooks found, Http2Session.owner_of_hooks found'] at same
    exact serving.distinct streamId streamId' _ found (same ▸ found')
  · intro call member
    obtain ⟨streamId, found⟩ := serving.served call member
    refine ⟨streamId, (session.hooksAt_isSome streamId).mp ?_,
      Http2Session.owner_of_hooks found⟩
    rw [found]
    rfl

namespace World

variable {platform : Platform} {config : ChannelConfig} {w : World}

/-! ## A sample channel

The platform's texts are empty, the host resolves to one address, the handshake
succeeds and nghttp2 accepts one request. -/

def silentPlatform : Platform where
  timerAlgorithms := TimerHeap.sortedAlgorithms
  strerror _ := []
  gaiStrerror _ := []
  nghttp2Strerror _ := []
  x509VerifyCertErrorString _ := []
  isIpLiteral _ := false

/-- A channel with default options. -/
def sampleConfig : ChannelConfig where
  host := Bytes.ofString "host"
  port := 443

/-- Surroundings in which the first call gets through. -/
def sampleStart : World where
  calls _ := CallState.new sampleConfig.options.maxReceiveMessageSize
  tls := { handshakes := [.done (Bytes.ofString "h2")] }
  ng := { submitRequests := [1] }

theorem sampleStart_fresh (config : ChannelConfig)
    (limit : config.options.maxReceiveMessageSize =
      sampleConfig.options.maxReceiveMessageSize)
    (tls : TlsEnv) {ng : NgEnv} (unissued : ng.issued = []) (ticks : List Nat) :
    ({ sampleStart with tls := tls, ng := ng, ticks := ticks } : World).Fresh config where
  channel := .inl rfl
  timers := rfl
  watchedFd := rfl
  watch := rfl
  calls := by
    intro call
    rw [limit]
    rfl
  issued := unissued
  handled := rfl
  tearDowns := rfl
  faults := rfl

def sampleReady : World :=
  (sampleStart.step silentPlatform sampleConfig (.newCall { call := 0 })).step
    silentPlatform sampleConfig (.ready POLLOUT)

theorem sampleReady_reachable :
    Reachable silentPlatform sampleConfig sampleReady := by
  have fresh : sampleStart.Fresh sampleConfig := sampleStart_fresh sampleConfig rfl _ rfl _
  exact .next (.next (.start fresh) List.not_mem_nil) trivial

/-! ## Every call is tracked -/

/-- Between two callbacks the two collections hold exactly the open calls. -/
theorem Between.ledger (between : w.Between config) :
    Ledger config.life (w.pendingCalls.map PendingCall.call ++ w.activeCalls)
      w.calls w.handled := by
  rcases between with idle | connecting | live | down
  · simpa only [idle.pendingCalls, idle.activeCalls, List.map_nil,
      List.append_nil] using idle.ledger
  · simpa only [connecting.activeCalls, List.append_nil] using connecting.ledger
  · exact live.ongoing.ledger
  · simpa only [down.pendingCalls, down.activeCalls, List.map_nil,
      List.append_nil] using down.ledger

theorem Between.pendingCalls (between : w.Between config)
    (waiting : w.pendingCalls ≠ []) : w.state = .connecting := by
  rcases between with idle | connecting | live | down
  · exact absurd idle.pendingCalls waiting
  · exact connecting.state
  · exact absurd live.pendingCalls waiting
  · exact absurd down.pendingCalls waiting

theorem Between.activeCalls (between : w.Between config)
    (served : w.activeCalls ≠ []) : w.state = .ready := by
  rcases between with idle | connecting | live | down
  · exact absurd idle.activeCalls served
  · exact absurd connecting.activeCalls served
  · exact live.state
  · exact absurd down.activeCalls served

theorem Between.live (between : w.Between config) (ready : w.state = .ready) :
    w.Live config [] [] := by
  rcases between with idle | connecting | live | down
  · cases idle.state.symm.trans ready
  · cases connecting.state.symm.trans ready
  · exact live
  · exact absurd ready down.not_ready

theorem Between.connecting (between : w.Between config)
    (connecting : w.state = .connecting) : w.Connecting config := by
  rcases between with idle | here | live | down
  · cases idle.state.symm.trans connecting
  · exact here
  · cases live.state.symm.trans connecting
  · rcases down.state with failed | shutdown
    · cases failed.symm.trans connecting
    · cases shutdown.symm.trans connecting

theorem Between.down (between : w.Between config)
    (ended : w.state = .failed ∨ w.state = .shutdown) : w.Down config [] := by
  rcases between with idle | connecting | live | down
  · simp [idle.state] at ended
  · simp [connecting.state] at ended
  · simp [live.state] at ended
  · exact down

/-- No call is stranded and none is tracked twice: a call whose operation has
run has its result or is in exactly one place of one of the two collections,
and the collections are as the state says. -/
theorem no_call_stranded_or_tracked_twice
    (reachable : Reachable platform config w) :
    (∀ call ∈ w.handled, (w.calls call).done = true ∨
      Xor (call ∈ w.pendingCalls.map PendingCall.call) (call ∈ w.activeCalls)) ∧
    (w.pendingCalls.map PendingCall.call).Nodup ∧ w.activeCalls.Nodup ∧
    (w.pendingCalls ≠ [] → w.state = .connecting) ∧
    (w.activeCalls ≠ [] → w.state = .ready) ∧
    (w.state = .ready →
      (∀ call ∈ w.activeCalls, (w.calls call).done = false) ∧
      ∃ session, w.h2 = some session ∧
        Set.BijOn session.owner {streamId | streamId ∈ session.streams}
          {call | call ∈ w.activeCalls}) ∧
    (w.state = .failed ∨ w.state = .shutdown →
      w.pendingCalls = [] ∧ w.activeCalls = []) := by
  have between := reachable.between
  have ledger := between.ledger
  obtain ⟨pendingNodup, activeNodup, apart⟩ := List.nodup_append.mp ledger.nodup
  refine ⟨?_, pendingNodup, activeNodup, between.pendingCalls, between.activeCalls,
    ?_, ?_⟩
  · intro call handled
    by_cases tracked :
      call ∈ w.pendingCalls.map PendingCall.call ++ w.activeCalls
    · right
      rcases List.mem_append.mp tracked with pending | active
      · exact .inl ⟨pending, fun active => apart call pending call active rfl⟩
      · exact .inr ⟨active, fun pending => apart call pending call active rfl⟩
    · exact .inl (ledger.settled call handled tracked)
  · intro ready
    obtain ⟨session, present, serving⟩ := (between.live ready).session
    refine ⟨fun call member => ?_, session, present, serving.bijOn_owner⟩
    exact Bool.eq_false_of_not_eq_true
      (ledger.waiting call (List.mem_append_right _ member))
  · intro ended
    have down := between.down ended
    exact ⟨down.pendingCalls, down.activeCalls⟩

/-- In the sample run the first call is active and served by the one stream. -/
theorem sampleReady_tracks_its_call :
    sampleReady.activeCalls = [0] ∧
      ∃ session, sampleReady.h2 = some session ∧
        Set.BijOn session.owner {streamId | streamId ∈ session.streams}
          {call | call ∈ sampleReady.activeCalls} :=
  ⟨by decide, ((no_call_stranded_or_tracked_twice
    sampleReady_reachable).2.2.2.2.2.1 (by decide)).2⟩

/-! ## Resources match the state -/

theorem Down.nullSession {held : List Nat} (down : w.Down config held) :
    Fault.nullSession ∉ w.faults := by
  rcases down.report with ⟨_, faults⟩ | ⟨record, _, reported⟩
  · rw [faults]
    exact List.not_mem_nil
  · rw [reported.faults]
    split_ifs
    · exact fun member => nomatch List.eq_of_mem_replicate member
    · exact List.not_mem_nil

theorem Between.nullSession (between : w.Between config) :
    Fault.nullSession ∉ w.faults := by
  rcases between with idle | connecting | live | down
  · simp [idle.faults]
  · simp [connecting.faults]
  · simp [live.faults]
  · exact down.nullSession

theorem Between.h2_isSome (between : w.Between config) :
    w.h2.isSome = true ↔ w.state = .ready := by
  rcases between with idle | connecting | live | down
  · simp [idle.h2, idle.state]
  · simp [connecting.h2, connecting.state]
  · obtain ⟨session, present, _⟩ := live.session
    simp [present, live.state]
  · simp [down.h2, down.not_ready]

/-- The timers that are pending are those the channel's two fields name, each
with its own callback. -/
theorem Between.timers (between : w.Between config) (id : Nat) :
    w.timers.callbacks.lookup id =
      if id = 0 then none
      else if id = w.connectTimer then some .connectTimeout
      else if id = w.keepaliveTimer then some .keepalive
      else none := by
  rcases between with idle | connecting | live | down
  · rw [AList.lookup_eq_none.mpr (idle.timers id), idle.connectTimer,
      idle.keepaliveTimer]
    split_ifs <;> rfl
  · rw [connecting.timers id, connecting.keepaliveTimer]
    split_ifs <;> grind [connecting.connectTimer]
  · rw [live.timers id, live.connectTimer]
    split_ifs <;> grind
  · rw [AList.lookup_eq_none.mpr (down.timers id), down.connectTimer,
      down.keepaliveTimer]
    split_ifs <;> rfl

theorem Between.connectTimer (between : w.Between config) :
    w.connectTimer ≠ 0 ↔ w.state = .connecting := by
  rcases between with idle | connecting | live | down
  · simp [idle.connectTimer, idle.state]
  · simp [connecting.connectTimer, connecting.state]
  · simp [live.connectTimer, live.state]
  · rcases down.state with state | state <;> simp [down.connectTimer, state]

theorem Between.keepaliveTimer (between : w.Between config)
    (armed : w.keepaliveTimer ≠ 0) : w.state = .ready := by
  rcases between with idle | connecting | live | down
  · exact absurd idle.keepaliveTimer armed
  · exact absurd connecting.keepaliveTimer armed
  · exact live.state
  · exact absurd down.keepaliveTimer armed

theorem Between.watched (between : w.Between config) :
    0 ≤ w.watchedFd ↔ w.state = .connecting ∨ w.state = .ready := by
  rcases between with idle | connecting | live | down
  · simp [idle.watchedFd, idle.state]
  · simp [connecting.watchedFd, connecting.state]
  · simp [live.watchedFd, live.fd, live.state]
  · rcases down.state with state | state <;> simp [down.watchedFd, state]

/-- The channel's resources match its state, the state only moves upward, no
null session pointer is followed, and nothing fires once the channel has
ended. -/
theorem resources_match_state (reachable : Reachable platform config w) :
    (∀ event, w.Admits event →
      w.state.rank ≤ (w.step platform config event).state.rank) ∧
    (w.h2.isSome = true ↔ w.state = .ready) ∧
    (w.connectTimer ≠ 0 ↔ w.state = .connecting) ∧
    (w.keepaliveTimer ≠ 0 → w.state = .ready) ∧
    (∀ id, w.timers.callbacks.lookup id =
      if id = 0 then none
      else if id = w.connectTimer then some .connectTimeout
      else if id = w.keepaliveTimer then some .keepalive
      else none) ∧
    (0 ≤ w.watchedFd ↔ w.state = .connecting ∨ w.state = .ready) ∧
    Fault.nullSession ∉ w.faults ∧
    (w.state = .failed ∨ w.state = .shutdown →
      (∀ now, (w.timers.takeDue platform.timerAlgorithms now).1 = none) ∧
      w.watch = none) := by
  have between := reachable.between
  refine ⟨fun event admits => (between.step admits).2, between.h2_isSome,
    between.connectTimer, between.keepaliveTimer, between.timers, between.watched,
    between.nullSession, ?_⟩
  intro ended
  have down := between.down ended
  refine ⟨fun now => ?_, down.watch⟩
  rcases (TimerHeap.only_zero down.timers TimerCallback.keepalive).takeDue
      platform.timerAlgorithms now with ⟨nothing, _⟩ | ⟨_, nonzero, _⟩
  · exact nothing
  · exact absurd rfl nonzero

theorem sampleReady_keepalive_pending :
    sampleReady.keepaliveTimer = 2 ∧
      sampleReady.timers.callbacks.lookup 2 = some .keepalive :=
  ⟨by decide, (resources_match_state sampleReady_reachable).2.2.2.2.1 2⟩

/-! ## A transport failure reaches every call -/

/-- The calls are told why: every read of the text found it, every call that
was held is closed as unavailable with the text the detail had when the
teardown began, and later calls are given the same text. -/
def TellsWhy (w : World) (record : TearDownCall) : Prop :=
  Fault.danglingDetail ∉ w.faults ∧
    ∃ text, record.text = some text ∧ w.failureDetail = text ∧
      ∀ call ∈ record.found, (w.calls call).state = .closed ∧
        (w.calls call).result.code = .unavailable ∧
        (w.calls call).result.message = text

theorem Between.reported (between : w.Between config) {record : TearDownCall}
    (recorded : record ∈ w.tearDowns) : record.Reported w := by
  rcases between with idle | connecting | live | down
  · simp [idle.tearDowns] at recorded
  · simp [connecting.tearDowns] at recorded
  · simp [live.tearDowns] at recorded
  · rcases down.report with ⟨nothing, _⟩ | ⟨only, isOnly, reported⟩
    · simp [nothing] at recorded
    · rw [isOnly, List.mem_singleton] at recorded
      exact recorded ▸ reported

/-- A teardown tells every call why exactly when its text is not inside the
session, which it destroys before it tells the calls, or there is no call to
tell. -/
theorem tells_why_iff (reachable : Reachable platform config w)
    {record : TearDownCall} (recorded : record ∈ w.tearDowns) :
    w.TellsWhy record ↔ record.detail ≠ .session ∨ record.found = [] := by
  have reported := reachable.between.reported recorded
  obtain ⟨text, isText, failureDetail, told⟩ := reported.told
  constructor
  · rintro ⟨noFault, _⟩
    rw [or_iff_not_imp_left, not_not]
    intro inSession
    rw [reported.faults, if_pos inSession] at noFault
    by_contra someone
    exact noFault (List.mem_replicate.mpr ⟨by simpa using someone, rfl⟩)
  · intro harmless
    refine ⟨?_, text, isText, failureDetail, ?_⟩
    · rw [reported.faults]
      rcases harmless with outside | nobody
      · simp [outside]
      · simp [nobody]
    · intro call member
      rcases harmless with outside | nobody
      · have failed := told call member
        rw [if_neg outside] at failed
        exact ⟨failed.closed, failed.code, failed.message text rfl⟩
      · simp [nobody] at member

/-- The sample channel after one more read, on which nghttp2 returns `rc`. -/
def sampleAfterRead (read : Except SslFailure Bytes) (rc : Int) : World :=
  ((({ sampleStart with
      tls := { handshakes := [.done (Bytes.ofString "h2")], reads := [read] }
      ng := { submitRequests := [1], memRecvs := [{ rc := rc }] } } : World).step
    silentPlatform sampleConfig (.newCall { call := 0 })).step
    silentPlatform sampleConfig (.ready POLLOUT)).step
    silentPlatform sampleConfig (.ready POLLIN)

theorem sampleAfterRead_reachable (read : Except SslFailure Bytes) (rc : Int) :
    Reachable silentPlatform sampleConfig (sampleAfterRead read rc) :=
  .next (.next (.next (.start (sampleStart_fresh sampleConfig rfl _ rfl _))
    List.not_mem_nil) trivial) trivial

/-- A call whose server closes the connection is told so. -/
theorem connection_close_is_told :
    (sampleAfterRead (.error .zeroReturn) 0).TellsWhy
      { detail := .temporary (Bytes.ofString "connection closed by server")
        text := some (Bytes.ofString "connection closed by server")
        active := [0]
        pending := [] } :=
  (tells_why_iff (sampleAfterRead_reachable _ _) (by decide)).mpr (by decide)

/-- A call whose server sends malformed bytes is told something else than the
text, which was destroyed with the session before the call was told. -/
theorem receive_error_is_not_told :
    let w := sampleAfterRead (.ok [0]) (-1)
    let record : TearDownCall :=
      { detail := .session
        text := some (Bytes.ofString "nghttp2 receive error: ")
        active := [0]
        pending := [] }
    Reachable silentPlatform sampleConfig w ∧ record ∈ w.tearDowns ∧
      (w.calls 0).result.message = [] ∧ ¬ w.TellsWhy record := by
  refine ⟨sampleAfterRead_reachable _ _, by decide, by decide, ?_⟩
  exact fun tells => tells.1 (by decide)

end World

end Egrpc
