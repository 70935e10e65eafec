import Egrpc.ChannelSafety

/-!
# The descriptor the event thread polls

A channel registers its socket's descriptor with the event thread when it
starts to connect, and again when the connection is up.  In between the socket
may fall back to another address, closing its descriptor and opening a new one
of which the event thread is not told.  The event thread polls the channel's
socket as long as every such fallback after which the channel goes on connecting
happens to get the old number back.
-/

namespace Egrpc

namespace World

variable {platform : Platform} {config : ChannelConfig} {w : World}

/-- The event thread polls the descriptor of the channel's socket. -/
def Watches (w : World) : Prop :=
  w.state = .connecting ∨ w.state = .ready → w.watchedFd = w.sock.fd

instance (w : World) : Decidable w.Watches :=
  inferInstanceAs (Decidable (_ → _))

/-- What an event asks of the operating system: if it makes the socket of a channel
fall back to another address and the channel goes on connecting, `socket` returns the
number that was just closed. -/
def ReusesDescriptor (platform : Platform) (config : ChannelConfig) (w : World) :
    ChannelEvent → Prop
  | .ready revents => w.state = .connecting →
      (w.step platform config (.ready revents)).state = .connecting →
      TlsIo.FailedLate ⟨w.sock, w.tls⟩ →
      ∀ fd : Nat, TlsIo.fallback ⟨w.sock, w.tls⟩ = some fd → w.sock.fd = fd
  | .newCall _ | .runDue _ | .pollEvents | .shutdown => True

theorem watches_of_ended (ended : w.state = .failed ∨ w.state = .shutdown) :
    w.Watches := by
  intro here
  rcases ended with state | state <;> simp [state] at here

theorem LiveOrFailed.watches (here : w.LiveOrFailed config [] []) : w.Watches := by
  rcases here with live | ⟨failed, _⟩
  · exact fun _ => live.watchedFd
  · exact watches_of_ended (.inl failed)

theorem startConnecting_watches
    (armed : (w.armConnectTimer platform config).Armed config) :
    (w.startConnecting platform config).Watches := by
  have started := armed.onSocket
    (TlsIo.startConnect platform config.host config.port config.tls)
  unfold World.startConnecting
  simp only
  split_ifs
  · exact watches_of_ended (.inl (started.ongoing.tearDown rfl).1)
  · exact fun _ => rfl

/-- Only a fallback changes the descriptor behind the event thread's back. -/
theorem Connecting.onConnectProgress_watches (connecting : w.Connecting config)
    (watches : w.Watches)
    (reuses : (w.onConnectProgress platform config).state = .connecting →
      TlsIo.FailedLate ⟨w.sock, w.tls⟩ →
      ∀ fd : Nat, TlsIo.fallback ⟨w.sock, w.tls⟩ = some fd → w.sock.fd = fd) :
    (w.onConnectProgress platform config).Watches := by
  rcases connecting.onConnectProgress_cases platform with
    ⟨failed, _⟩ | ⟨connected, starts⟩ | ⟨waits, want⟩
  · exact watches_of_ended (.inl failed)
  · rw [starts]
    exact connected.startSession.watches
  · have round := TlsIo.continueConnect_round platform ⟨w.sock, w.tls⟩
      connecting.sock
    have before : w.watchedFd = w.sock.fd := watches (.inl connecting.state)
    rw [waits] at reuses ⊢
    intro _
    rcases (round.waiting want).2 with same | ⟨late, fd, found, moved⟩
    · exact before.trans same.symm
    · have reused := reuses connecting.state late fd found
      exact (before.trans reused).trans moved.symm

theorem Idle.step_watches (idle : w.Idle config) (watches : w.Watches)
    {event : ChannelEvent} (admits : w.Admits event) :
    (w.step platform config event).Watches := by
  cases event with
  | newCall pc =>
      have state : (w.recordHandled pc.call).state = .idle := idle.state
      simp only [World.step, World.handleNewCall, state]
      exact startConnecting_watches (idle.armConnectTimer admits)
  | runDue now =>
      obtain ⟨timers, same, _⟩ := runDue_of_none platform idle.timers now
      rw [World.step, same]
      exact watches
  | pollEvents =>
      rw [World.step, World.pollEvents, if_pos (by rw [idle.watchedFd]; decide)]
      exact watches
  | ready revents =>
      rw [World.step, World.onReady, idle.watch]
      exact watches
  | shutdown => exact watches_of_ended (.inr (Between.doShutdown (.inl idle)).1)

theorem Connecting.step_watches (connecting : w.Connecting config)
    (watches : w.Watches) {event : ChannelEvent}
    (reuses : w.ReusesDescriptor platform config event) :
    (w.step platform config event).Watches := by
  cases event with
  | newCall pc =>
      have state : (w.recordHandled pc.call).state = .connecting := connecting.state
      simp only [World.step, World.handleNewCall, state]
      exact fun _ => watches (.inl connecting.state)
  | runDue now =>
      rcases connecting.runDue_cases now with ⟨failed, _⟩ | ⟨timers, same, _⟩
      · exact watches_of_ended (.inl failed)
      · rw [World.step, same]
        exact watches
  | pollEvents =>
      rw [World.step, World.pollEvents, connecting.watch]
      split_ifs <;> exact watches
  | ready revents =>
      have progress : w.step platform config (.ready revents) =
          w.onConnectProgress platform config := by
        rw [World.step, World.onReady, connecting.watch]
      have reused := reuses connecting.state
      rw [progress] at reused ⊢
      exact connecting.onConnectProgress_watches watches reused
  | shutdown =>
      exact watches_of_ended (.inr (Between.doShutdown (.inr (.inl connecting))).1)

/-- From the ready state on the event thread polls the right descriptor. -/
theorem Between.watches_of_late (between : w.Between config)
    (late : 2 ≤ w.state.rank) : w.Watches := by
  rcases between with idle | connecting | live | down
  · exact absurd late (by rw [idle.state]; decide)
  · exact absurd late (by rw [connecting.state]; decide)
  · exact fun _ => live.watchedFd
  · exact watches_of_ended down.state

theorem Watches.step (watches : w.Watches) (between : w.Between config)
    {event : ChannelEvent} (admits : w.Admits event)
    (reuses : w.ReusesDescriptor platform config event) :
    (w.step platform config event).Watches := by
  have advanced : w.Advances config (w.step platform config event) :=
    between.step admits
  have later : 2 ≤ w.state.rank → (w.step platform config event).Watches :=
    fun late => advanced.1.watches_of_late (late.trans advanced.2)
  rcases between with idle | connecting | live | down
  · exact idle.step_watches watches admits
  · exact connecting.step_watches watches reuses
  · exact later (by rw [live.state]; decide)
  · exact later (by rcases down.state with state | state <;> rw [state] <;> decide)

theorem Fresh.watches (fresh : w.Fresh config) : w.Watches := by
  intro here
  rcases fresh.channel with channel | channel <;> simp [channel] at here

/-- In every run in which each fallback after which the channel goes on connecting gets
the number back that the socket has just closed, the event thread always polls the
channel's socket. -/
theorem watches_of_reused_descriptors
    (reached : Runs.Reach (World.step platform config)
      (fun w event => w.Admits event ∧ w.ReusesDescriptor platform config event)
      (Fresh config) w) :
    w.Watches := by
  refine (reached.invariant (fun w => w.Between config ∧ w.Watches)
    (fun _ fresh => ⟨fresh.between, fresh.watches⟩) ?_).2
  rintro before event ⟨between, watches⟩ ⟨admits, reuses⟩
  exact ⟨(between.step admits).1, watches.step between admits reuses⟩

/-- The sample channel on a host with two addresses. -/
def sampleTwoAddresses (fd : Nat) : World :=
  { sampleStart with
    tls :=
      { resolutions := [.ok [⟨2, [1], 16⟩, ⟨2, [2], 16⟩]]
        sockets := [.ok 3, .ok fd]
        soErrors := [111] } }

/-- Its first call is waiting for the first address, on descriptor 3. -/
def sampleConnecting (fd : Nat) : World :=
  (sampleTwoAddresses fd).step silentPlatform sampleConfig (.newCall { call := 0 })

/-- The first address has failed late, and the second one got the descriptor
`fd`. -/
def sampleFallback (fd : Nat) : World :=
  (sampleConnecting fd).step silentPlatform sampleConfig (.ready POLLOUT)

theorem sampleTwoAddresses_fresh (fd : Nat) :
    (sampleTwoAddresses fd).Fresh sampleConfig :=
  sampleStart_fresh sampleConfig rfl _ rfl _

/-- A fallback that reuses the number goes unnoticed. -/
theorem reused_descriptor_is_watched :
    (sampleFallback 3).state = .connecting ∧ (sampleFallback 3).Watches := by
  have reuses : (sampleConnecting 3).ReusesDescriptor silentPlatform sampleConfig
      (.ready POLLOUT) := by
    intro _ _ _ fd found
    have three : TlsIo.fallback ⟨(sampleConnecting 3).sock,
        (sampleConnecting 3).tls⟩ = some 3 := by decide
    rw [← Option.some.inj (three.symm.trans found)]
    decide
  have reached : Runs.Reach (World.step silentPlatform sampleConfig)
      (fun w event => w.Admits event ∧ w.ReusesDescriptor silentPlatform sampleConfig event)
      (Fresh sampleConfig) (sampleFallback 3) :=
    .next (.next (.start (sampleTwoAddresses_fresh 3))
      ⟨List.not_mem_nil, trivial⟩) ⟨trivial, reuses⟩
  exact ⟨by decide, watches_of_reused_descriptors reached⟩

/-- After a fallback to another number the event thread polls a descriptor that
the channel has closed. -/
theorem closed_descriptor_is_watched :
    Reachable silentPlatform sampleConfig (sampleFallback 5) ∧
      (sampleFallback 5).state = .connecting ∧
      (sampleFallback 5).watchedFd = 3 ∧ (sampleFallback 5).sock.fd = 5 ∧
      ¬ (sampleFallback 5).Watches :=
  ⟨.next (.next (.start (sampleTwoAddresses_fresh 5)) List.not_mem_nil) trivial,
    by decide, by decide, by decide, by decide⟩

end World

end Egrpc
