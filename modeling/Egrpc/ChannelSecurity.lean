import Egrpc.ChannelTraffic

/-!
# A channel speaks to its verified peer only

The socket below a channel is connected once, to the channel's host and with the
channel's TLS settings.  So the journal of the socket tells, for every run of a
channel, that no application byte moves before a handshake that negotiated `h2`
on an `SSL` object set up to check that host; that nghttp2 hears nothing before;
and that no descriptor outlives the channel.
-/

namespace Egrpc

/-- An `SSL_connect` that negotiated `h2` and checked the channel's host. -/
def TlsCall.IsHandshake (platform : Platform) (config : ChannelConfig) (call : TlsCall) :
    Prop :=
  ∃ ssl : SslConnection, call = .sslConnect ssl (.done (Bytes.ofString "h2")) ∧
    ssl.ChecksPeer platform (some (config.host, config.tls))

/-- Every call that moves application bytes comes after such a handshake. -/
def TlsEnv.BytesAfterHandshake (platform : Platform) (config : ChannelConfig)
    (env : TlsEnv) : Prop :=
  ∀ before call after, env.calls = before ++ call :: after →
    call.isApplication = true → ∃ handshake ∈ before, handshake.IsHandshake platform config

namespace TlsEnv

variable {platform : Platform} {config : ChannelConfig} {env env' : TlsEnv}

theorem BytesAfterHandshake.others (ordered : env.BytesAfterHandshake platform config)
    {others : List TlsCall} (calls : env'.calls = env.calls ++ others)
    (none : ∀ call ∈ others, call.isApplication = false) :
    env'.BytesAfterHandshake platform config := by
  intro before call after split application
  rw [calls, List.append_eq_append_iff] at split
  rcases split with ⟨rest, isBefore, isOthers⟩ | ⟨rest, isCalls, isRest⟩
  · -- The call is one of the others.
    have member : call ∈ others := isOthers ▸ List.mem_append_right rest List.mem_cons_self
    rw [none call member] at application
    cases application
  · cases rest with
    | nil =>
        have member : call ∈ others :=
          (List.nil_append others ▸ isRest) ▸ List.mem_cons_self
        rw [none call member] at application
        cases application
    | cons head rest =>
        obtain ⟨rfl, _⟩ := List.cons.inj isRest
        exact ordered before call rest isCalls application

theorem BytesAfterHandshake.call (ordered : env.BytesAfterHandshake platform config)
    {handshake : TlsCall} (member : handshake ∈ env.calls)
    (isHandshake : handshake.IsHandshake platform config) {next : TlsCall}
    (calls : env'.calls = env.calls ++ [next]) :
    env'.BytesAfterHandshake platform config := by
  intro before call after split application
  rw [calls, List.append_eq_append_iff] at split
  rcases split with ⟨rest, isBefore, _⟩ | ⟨rest, isCalls, isRest⟩
  · exact ⟨handshake, isBefore ▸ List.mem_append_left rest member, isHandshake⟩
  · cases rest with
    | nil =>
        rw [List.append_nil] at isCalls
        exact ⟨handshake, isCalls ▸ member, isHandshake⟩
    | cons head rest =>
        obtain ⟨rfl, _⟩ := List.cons.inj isRest
        exact ordered before call rest isCalls application

end TlsEnv

namespace Transport

variable {platform : Platform} {config : ChannelConfig} {tls : TlsEnv} {ng : NgEnv}
  {t t' : Transport}

/-- The socket is safe, for the channel's target if it has one; bytes, nghttp2 and
requests wait for the handshake; and a transport that is over holds no descriptor. -/
structure Secured (platform : Platform) (config : ChannelConfig) (tls : TlsEnv)
    (ng : NgEnv) (t : Transport) : Prop where
  safe : ∃ target sent, TlsIo.Safe platform target tls.resolved sent ⟨t.sock, t.tls⟩ ∧
    (target = none ∨ target = some (config.host, config.tls))
  ordered : t.tls.BytesAfterHandshake platform config
  spoken : t.ng.calls = ng.calls ∧ t.submitted = [] ∨
    ∃ handshake ∈ t.tls.calls, handshake.IsHandshake platform config
  finished : t.phase = .finished → t.sock.fd < 0

theorem Secured.connected (secured : t.Secured platform config tls ng)
    (connected : t.sock.state = .connected) :
    ∃ ssl, t.sock.ssl = some ssl ∧ ssl.boundFd = t.sock.fd ∧
      .sslConnect ssl (.done (Bytes.ofString "h2")) ∈ t.tls.calls ∧
      ssl.ChecksPeer platform (some (config.host, config.tls)) := by
  obtain ⟨target, sent, safe, isTarget⟩ := secured.safe
  have phase := safe.phase
  rw [TlsIo.Phase, connected] at phase
  obtain ⟨_, ssl, bound, done⟩ := phase
  refine ⟨ssl, bound.current, bound.boundFd, done, ?_⟩
  obtain ⟨host, settings, isSome, checks⟩ := bound.checksPeer
  rcases isTarget with rfl | rfl
  · cases isSome
  · exact ⟨host, settings, isSome, checks⟩

theorem Secured.handshake (secured : t.Secured platform config tls ng)
    (connected : t.sock.state = .connected) :
    ∃ handshake ∈ t.tls.calls, handshake.IsHandshake platform config := by
  obtain ⟨ssl, _, _, member, checks⟩ := secured.connected connected
  exact ⟨_, member, ssl, rfl, checks⟩

theorem Secured.noBytes (secured : t.Secured platform config tls ng)
    (safe : ∃ target sent, TlsIo.Safe platform target tls.resolved sent ⟨t'.sock, t'.tls⟩ ∧
      (target = none ∨ target = some (config.host, config.tls)))
    (noBytes : TlsIo.NoBytes ⟨t.sock, t.tls⟩ ⟨t'.sock, t'.tls⟩)
    (same : t'.ng = t.ng) (submitted : t'.submitted = t.submitted)
    (finished : t'.phase = .finished → t'.sock.fd < 0) :
    t'.Secured platform config tls ng := by
  obtain ⟨others, calls, none⟩ := noBytes.calls
  refine ⟨safe, secured.ordered.others calls none, ?_, finished⟩
  rw [same, submitted]
  rcases secured.spoken with nothing | ⟨handshake, member, isHandshake⟩
  · exact .inl nothing
  · refine .inr ⟨handshake, ?_, isHandshake⟩
    have here : handshake ∈ t.tls.calls ++ others := List.mem_append_left others member
    exact calls ▸ here

theorem Secured.bytes (secured : t.Secured platform config tls ng)
    (connected : t.sock.state = .connected)
    (safe : ∀ target sent, TlsIo.Safe platform target tls.resolved sent ⟨t.sock, t.tls⟩ →
      ∃ sent', TlsIo.Safe platform target tls.resolved sent' ⟨t'.sock, t'.tls⟩)
    {call : TlsCall} (calls : t'.tls.calls = t.tls.calls ++ [call])
    (phase : t'.phase ≠ .finished) : t'.Secured platform config tls ng := by
  obtain ⟨target, sent, here, isTarget⟩ := secured.safe
  obtain ⟨sent', next⟩ := safe target sent here
  obtain ⟨handshake, member, isHandshake⟩ := secured.handshake connected
  refine ⟨⟨target, sent', next, isTarget⟩, secured.ordered.call member isHandshake calls,
    .inr ⟨handshake, ?_, isHandshake⟩, fun finished => absurd finished phase⟩
  rw [calls]
  exact List.mem_append_left _ member

/-- What is done with the session leaves the socket alone. -/
theorem Secured.session (secured : t.Secured platform config tls ng)
    (connected : t.sock.state = .connected) (sock : t'.sock = t.sock)
    (sameTls : t'.tls = t.tls) (phase : t'.phase ≠ .finished) :
    t'.Secured platform config tls ng where
  safe := by
    rw [sock, sameTls]
    exact secured.safe
  ordered := sameTls ▸ secured.ordered
  spoken := .inr (sameTls ▸ secured.handshake connected)
  finished := fun finished => absurd finished phase

theorem onSession_socket (operation : SessionIo Nat → SessionIo Nat) (t : Transport) :
    (t.onSession operation).sock = t.sock ∧ (t.onSession operation).tls = t.tls := by
  unfold Transport.onSession
  split <;> exact ⟨rfl, rfl⟩

theorem submit_socket (pc : PendingCall) (t : Transport) :
    (t.submit platform config pc).sock = t.sock ∧
      (t.submit platform config pc).tls = t.tls := by
  unfold Transport.submit
  split
  · exact ⟨rfl, rfl⟩
  · simp only
    split_ifs <;> exact ⟨rfl, rfl⟩

theorem Secured.serve (secured : t.Secured platform config tls ng) (linked : t.Linked)
    (serving : t.phase = .serving) (operation : SessionIo Nat → SessionIo Nat) :
    (t.onSession operation).Secured platform config tls ng := by
  refine secured.session (linked.connected (.inl serving)) (onSession_socket operation t).1
    (onSession_socket operation t).2 ?_
  rw [(onSession_frame operation t).1, serving]
  decide

theorem Secured.send (secured : t.Secured platform config tls ng) (linked : t.Linked)
    (here : t.phase = .serving ∨ t.phase = .parting) :
    (t.send platform).Secured platform config tls ng := by
  have connected := linked.connected here
  have notFinished : t.phase ≠ .finished := by
    rcases here with phase | phase <;> rw [phase] <;> decide
  cases present : t.h2 with
  | none =>
      have same : t.send platform = t := by simp only [Transport.send, present]
      rw [same]
      exact secured
  | some session =>
      have safe (data : Bytes) (target : Option (Bytes × TlsConfig)) (sent : List TlsCall)
          (safe : TlsIo.Safe platform target tls.resolved sent ⟨t.sock, t.tls⟩) :
          ∃ sent', TlsIo.Safe platform target tls.resolved sent'
            (TlsIo.write platform data ⟨t.sock, t.tls⟩).2 := by
        obtain ⟨sent', next, _⟩ := safe.write data
        exact ⟨sent', next⟩
      have calls (data : Bytes) :=
        (TlsIo.write_used platform data ⟨t.sock, t.tls⟩ connected).1
      rcases send_cases platform present with nothing | ⟨data, _, ⟨-, blocked⟩ | written⟩
      · rw [nothing]
        exact secured.session connected rfl rfl notFinished
      · rw [blocked]
        exact secured.bytes connected (safe data) (calls data) notFinished
      · rw [written]
        exact secured.bytes connected (safe data) (calls data) notFinished

theorem Secured.receive (secured : t.Secured platform config tls ng) (linked : t.Linked)
    (serving : t.phase = .serving) (now : Int) :
    (t.receive platform now).Secured platform config tls ng := by
  have connected := linked.connected (.inl serving)
  have notFinished : t.phase ≠ .finished := by
    rw [serving]
    decide
  have read : Secured platform config tls ng { t with
      sock := (TlsIo.read platform 16384 ⟨t.sock, t.tls⟩).2.sock
      tls := (TlsIo.read platform 16384 ⟨t.sock, t.tls⟩).2.env } := by
    refine secured.bytes connected ?_
      (TlsIo.read_used platform 16384 ⟨t.sock, t.tls⟩ connected).1 notFinished
    intro target sent safe
    obtain ⟨sent', next, _⟩ := safe.read 16384
    exact ⟨sent', next⟩
  have still := (TlsIo.read_frame platform 16384 ⟨t.sock, t.tls⟩).1.trans connected
  obtain ⟨session, present, _⟩ := linked.live serving
  rcases receive_cases platform now present with ⟨_, fed⟩ | ⟨_, nothing⟩
  · rw [fed]
    exact read.session still rfl rfl notFinished
  · rw [nothing]
    exact read

theorem Secured.close (secured : t.Secured platform config tls ng) :
    (t.move platform config .close).Secured platform config tls ng := by
  obtain ⟨target, sent, safe, isTarget⟩ := secured.safe
  exact secured.noBytes ⟨target, sent, safe.close, isTarget⟩ (TlsIo.close_noBytes _) rfl rfl
    fun _ => TlsIo.close_fd _

theorem Secured.step (secured : t.Secured platform config tls ng) (linked : t.Linked)
    {action : Transport.Move} (admits : t.Admits action) :
    (t.move platform config action).Secured platform config tls ng := by
  cases action with
  | startConnect =>
      obtain ⟨target, sent, safe, isTarget⟩ := secured.safe
      have idle : t.sock.state = .idle := by
        rw [linked.unused admits]
      exact secured.noBytes
        ⟨_, sent, safe.startConnect idle config.host config.port config.tls, .inr rfl⟩
        (TlsIo.startConnect_noBytes ..) rfl rfl (by simp [Transport.move])
  | continueConnect =>
      obtain ⟨target, sent, safe, isTarget⟩ := secured.safe
      have phase : t.phase = .connecting := admits
      exact secured.noBytes ⟨target, sent, safe.continueConnect, isTarget⟩
        (TlsIo.continueConnect_noBytes ..) rfl rfl
        (by simp [Transport.move, onSocket, phase])
  | openSession now =>
      refine secured.session admits.2 rfl rfl ?_
      simp only [Transport.move]
      split_ifs <;> decide
  | submit pc =>
      refine secured.session (linked.connected (.inl admits.1)) (submit_socket pc t).1
        (submit_socket pc t).2 ?_
      have phase := (submit_frame platform config pc t).1.trans admits.1
      intro finished
      cases phase.symm.trans finished
  | checkKeepalive now =>
      exact secured.serve linked admits fun io => (io.checkKeepalive platform now).2
  | wantWrite => exact secured.serve linked admits fun io => io.wantWrite.2
  | send => exact secured.send linked admits
  | receive now => exact secured.receive linked admits now
  | terminate =>
      have served := secured.serve linked admits SessionIo.terminate
      exact ⟨served.safe, served.ordered, served.spoken, by simp [Transport.move]⟩
  | close => exact secured.close
  | failCall message call =>
      exact ⟨secured.safe, secured.ordered, secured.spoken, secured.finished⟩
  | release => exact ⟨secured.safe, secured.ordered, secured.spoken, secured.finished⟩

theorem Fresh.secured (fresh : t.Fresh config tls ng) (quiet : tls.calls = []) :
    t.Secured platform config tls ng := by
  have sock := fresh.sock
  have env := fresh.tls
  refine ⟨⟨none, [], ?_, .inl rfl⟩, ?_,
    .inl ⟨congrArg NgEnv.calls fresh.ng, congrArg Record.submitted fresh.record⟩, ?_⟩
  · rw [sock, env]
    refine ⟨⟨?_, ?_, ?_, List.nil_sublist _, ?_⟩, rfl, rfl, rfl⟩
    · simp [TlsEnv.openDescriptors, quiet]
    · simp [quiet]
    · simp [TlsEnv.attempts, quiet]
    · simp [TlsEnv.applicationCalls, quiet]
  · intro before call after split
    rw [env, quiet] at split
    simp at split
  · intro _
    rw [sock]
    decide

theorem Reachable.secured (reachable : Reachable platform config tls ng t)
    (quiet : tls.calls = []) : t.Linked ∧ t.Secured platform config tls ng := by
  refine Runs.Reach.invariant
    (fun t => t.Linked ∧ t.Secured platform config tls ng) ?_ ?_ reachable
  · exact fun t fresh => ⟨fresh.linked, fresh.secured quiet⟩
  · rintro t action ⟨linked, secured⟩ admits
    exact ⟨linked.step admits, secured.step linked admits⟩

end Transport

namespace World

variable {platform : Platform} {config : ChannelConfig} {w : World}
  {events : List ChannelEvent}

/-- In every run of a channel each read and write of application bytes comes after a
handshake that negotiated `h2` on an `SSL` object set up to check the channel's host as
its TLS settings ask; so does every call of nghttp2; a ready channel's socket is bound to
such an `SSL` object; and at most one descriptor is open, none once the channel has
failed or was shut down. -/
theorem nothing_before_verified_handshake (fresh : w.Fresh config)
    (quiet : w.tls.calls = []) (silent : w.ng.calls = [])
    (admitted : Runs.Admitted (World.step platform config) Admits w events) :
    let w' := events.foldl (World.step platform config) w
    w'.tls.BytesAfterHandshake platform config ∧
    (w'.ng.calls ≠ [] →
      ∃ handshake ∈ w'.tls.calls, handshake.IsHandshake platform config) ∧
    (w'.state = .ready → ∃ ssl, w'.sock.ssl = some ssl ∧ ssl.boundFd = w'.sock.fd ∧
      (TlsCall.sslConnect ssl (.done (Bytes.ofString "h2"))).IsHandshake platform config ∧
      .sslConnect ssl (.done (Bytes.ofString "h2")) ∈ w'.tls.calls) ∧
    w'.tls.openDescriptors = (if 0 ≤ w'.sock.fd then [w'.sock.fd] else []) ∧
    (w'.state = .failed ∨ w'.state = .shutdown → w'.tls.openDescriptors = []) := by
  intro w'
  obtain ⟨record, reached, _⟩ := fresh.reachable_transport admitted
  obtain ⟨linked, secured⟩ := reached.secured quiet
  obtain ⟨target, _, safe, _⟩ := secured.safe
  have descriptors : w'.tls.openDescriptors =
      (if 0 ≤ w'.sock.fd then [w'.sock.fd] else []) := safe.kept.descriptors
  refine ⟨secured.ordered, ?_, ?_, descriptors, ?_⟩
  · intro spoke
    rcases secured.spoken with nothing | handshake
    · exact absurd (nothing.1.trans silent) spoke
    · exact handshake
  · intro ready
    have phase : w'.state.phase = .serving := congrArg ChannelImpl.State.phase ready
    obtain ⟨ssl, current, bound, member, checks⟩ :=
      secured.connected (linked.connected (.inl phase))
    exact ⟨ssl, current, bound, ⟨ssl, rfl, checks⟩, member⟩
  · intro ended
    have closed : w'.sock.fd < 0 := secured.finished (phase_of_ended ended)
    rw [descriptors, if_neg (not_le.mpr closed)]

theorem sampleServed_secure :
    sampleServed.tls.applicationCalls.length = 6 ∧
    sampleServed.tls.BytesAfterHandshake silentPlatform sampleConfig ∧
    (sampleServed.ng.calls ≠ [] → ∃ handshake ∈ sampleServed.tls.calls,
      handshake.IsHandshake silentPlatform sampleConfig) ∧
    (sampleServed.state = .ready → ∃ ssl, sampleServed.sock.ssl = some ssl ∧
      ssl.boundFd = sampleServed.sock.fd ∧
      (TlsCall.sslConnect ssl (.done (Bytes.ofString "h2"))).IsHandshake silentPlatform
        sampleConfig ∧
      .sslConnect ssl (.done (Bytes.ofString "h2")) ∈ sampleServed.tls.calls) ∧
    sampleServed.tls.openDescriptors =
      (if 0 ≤ sampleServed.sock.fd then [sampleServed.sock.fd] else []) ∧
    (sampleServed.state = .failed ∨ sampleServed.state = .shutdown →
      sampleServed.tls.openDescriptors = []) :=
  ⟨by decide, nothing_before_verified_handshake sampleTraffic_fresh rfl rfl
    sampleEvents_admitted⟩

end World

end Egrpc
