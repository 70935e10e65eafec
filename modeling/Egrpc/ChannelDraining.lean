import Egrpc.ChannelKeepalive
import Egrpc.ChannelResults

/-!
# Nothing new after a GOAWAY

A GOAWAY of the peer, or the channel's own goodbye, marks the session as draining,
for good.  No request is handed to nghttp2 from then on, whatever calls are posted and
whatever else happens, and a call that is posted since can only fail as unavailable.
-/

namespace Egrpc

/-! ## Draining is for good -/

namespace Http2Session

variable {Hook : Type}

theorem callback_draining {session : Http2Session Hook} (draining : session.draining = true)
    (event : NgCallback) : (session.callback event).1.draining = true := by
  cases event with
  | onFrameRecv frame =>
      cases frame with
      | headers streamId response endStream =>
          simp only [callback, onFrameRecv, onHeadersFrame]
          split <;> exact draining
      | settings ack => cases ack <;> exact draining
      | ping ack => cases ack <;> exact draining
      | goaway => rfl
      | other => exact draining
  | onHeader headersFrame streamId name value =>
      simp only [callback, onHeader]
      split_ifs
      · exact draining
      · split <;> exact draining
  | onDataChunkRecv => exact draining
  | onStreamClose streamId errorCode =>
      simp only [callback, onStreamClose]
      split <;> exact draining
  | dataSourceRead streamId length =>
      simp only [callback, onDataSourceRead]
      split <;> exact draining

theorem runCallbacks_draining (events : List NgCallback) {session : Http2Session Hook}
    (draining : session.draining = true) :
    (session.runCallbacks events).1.draining = true := by
  induction events generalizing session with
  | nil => exact draining
  | cons event events ih => exact ih (callback_draining draining event)

end Http2Session

namespace SessionIo

variable {Hook : Type} {io : SessionIo Hook}

theorem refill_draining (platform : Platform) (answers : List MemSend)
    {session : Http2Session Hook} (draining : session.draining = true) :
    (refill platform answers session).2.2.1.draining = true := by
  induction answers generalizing session with
  | nil => exact draining
  | cons answer answers ih =>
      have ran := Http2Session.runCallbacks_draining answer.callbacks draining
      unfold refill
      simp only
      split
      · exact ran
      · exact ran
      · exact ih ran

theorem pendingOutput_draining (platform : Platform)
    (draining : io.session.draining = true) :
    (io.pendingOutput platform).2.2.session.draining = true := by
  have refilled : (io.refillOutput platform).2.2.session.draining = true :=
    refill_draining platform io.env.memSends draining
  unfold pendingOutput
  simp only
  split_ifs
  · exact draining
  · exact refilled
  · exact refilled
  · exact draining

theorem receiveBytes_draining (platform : Platform) (now : Int) (data : Bytes)
    (draining : io.session.draining = true) :
    (io.receiveBytes platform now data).2.2.session.draining = true ∧
      (io.receiveBytes platform now data).2.2.env.calls.filterMap NgCall.request? =
        io.env.calls.filterMap NgCall.request? := by
  have read : (io.session.noteRead now data).draining = true := by
    unfold Http2Session.noteRead
    split_ifs <;> exact draining
  have ran := Http2Session.runCallbacks_draining
    (takeAnswer {} io.env.memRecvs).1.callbacks read
  have requests : (io.env.calls ++ [NgCall.memRecv data]).filterMap NgCall.request? =
      io.env.calls.filterMap NgCall.request? := by
    rw [List.filterMap_append]
    exact List.append_nil _
  unfold receiveBytes
  simp only
  split_ifs
  · exact ⟨draining, rfl⟩
  · exact ⟨ran, requests⟩
  · exact ⟨ran, requests⟩

theorem checkKeepalive_draining (platform : Platform) (now : Int)
    (draining : io.session.draining = true) :
    (io.checkKeepalive platform now).2.session.draining = true := by
  unfold checkKeepalive submitPing setError
  simp only
  split_ifs <;> exact draining

theorem wantWrite_draining (draining : io.session.draining = true) :
    io.wantWrite.2.session.draining = true := by
  unfold wantWrite
  split_ifs <;> exact draining

theorem terminate_draining (draining : io.session.draining = true) :
    io.terminate.session.draining = true ∧
      io.terminate.env.calls.filterMap NgCall.request? =
        io.env.calls.filterMap NgCall.request? := by
  unfold terminate
  split_ifs
  · exact ⟨draining, rfl⟩
  · refine ⟨rfl, ?_⟩
    rw [NgEnv.log, List.filterMap_append]
    exact List.append_nil _

/-- A draining session refuses a request before nghttp2 hears of it. -/
theorem submitUnaryRequest_draining (platform : Platform) (headers : HeaderList)
    (body : Bytes) (hooks : StreamHooks Hook) (draining : io.session.draining = true) :
    (io.submitUnaryRequest platform headers body hooks).2.session.draining = true ∧
      (io.submitUnaryRequest platform headers body hooks).2.env = io.env := by
  unfold submitUnaryRequest
  rw [if_pos draining]
  split_ifs <;> exact ⟨draining, rfl⟩

end SessionIo

/-! ## The transport -/

namespace Transport

variable {platform : Platform} {config : ChannelConfig} {t t₀ : Transport}

/-- Since `t₀` the session, if there is one, drains: the same requests were made, and
no call got a stream. -/
structure Draining (t₀ t : Transport) : Prop where
  late : ¬ (t.phase = .unused ∨ t.phase = .connecting)
  draining : ∀ session, t.h2 = some session → session.draining = true
  requests : t.ng.calls.filterMap NgCall.request? =
    t₀.ng.calls.filterMap NgCall.request?
  unanswered : ∀ call, t₀.replies call = none → t.replies call = none

theorem Draining.onSession (here : Draining t₀ t)
    {operation : SessionIo Nat → SessionIo Nat}
    (drains : ∀ io, io.session.draining = true →
      (operation io).session.draining = true ∧
        (operation io).env.calls.filterMap NgCall.request? =
          io.env.calls.filterMap NgCall.request?) :
    Draining t₀ (t.onSession operation) := by
  cases present : t.h2 with
  | none =>
      have same : t.onSession operation = t := by simp only [Transport.onSession, present]
      rw [same]
      exact here
  | some session =>
      obtain ⟨draining, requests⟩ := drains ⟨session, t.ng⟩ (here.draining session present)
      rw [onSession_of_some present]
      refine ⟨here.late, ?_, requests.trans here.requests, here.unanswered⟩
      intro session' present'
      cases present'
      exact draining

theorem Draining.listen (here : Draining t₀ t) {before : SessionIo Nat}
    {done : List (HookCall Nat) × SessionIo Nat}
    (draining : done.2.session.draining = true)
    (requests : done.2.env.calls.filterMap NgCall.request? =
      t.ng.calls.filterMap NgCall.request?) : Draining t₀ (t.listen before done) := by
  refine ⟨here.late, ?_, requests.trans here.requests, ?_⟩
  · intro session present
    cases present
    exact draining
  · intro call unanswered
    change (t.replies call).map _ = none
    rw [here.unanswered call unanswered]
    rfl

theorem Draining.send (here : Draining t₀ t) : Draining t₀ (t.send platform) := by
  cases present : t.h2 with
  | none =>
      have same : t.send platform = t := by simp only [Transport.send, present]
      rw [same]
      exact here
  | some session =>
      have draining := here.draining session present
      have pending : (SessionIo.pendingOutput platform
          ⟨session, t.ng⟩).2.2.session.draining = true :=
        SessionIo.pendingOutput_draining platform draining
      have listened := @Draining.listen t t₀ here ⟨session, t.ng⟩ _ pending
        (congrArg _ (SessionIo.pendingOutput_frame platform ⟨session, t.ng⟩).1)
      rcases send_cases platform present with nothing | ⟨data, _, ⟨-, blocked⟩ | written⟩
      · rw [nothing]
        exact listened
      · rw [blocked]
        exact ⟨listened.late, listened.draining, listened.requests, listened.unanswered⟩
      · rw [written]
        refine ⟨listened.late, ?_, listened.requests, listened.unanswered⟩
        intro session' present'
        cases present'
        exact pending

theorem Draining.receive (here : Draining t₀ t) (now : Int) :
    Draining t₀ (t.receive platform now) := by
  cases present : t.h2 with
  | none =>
      simp only [Transport.receive, Transport.feed, present, ite_self]
      refine ⟨here.late, ?_, here.requests, here.unanswered⟩
      intro session impossible
      cases impossible
  | some session =>
      rcases receive_cases platform now present with ⟨_, fed⟩ | ⟨_, nothing⟩
      · obtain ⟨draining, requests⟩ := @SessionIo.receiveBytes_draining Nat ⟨session, t.ng⟩
          platform now (TlsIo.read platform 16384 ⟨t.sock, t.tls⟩).1.2
          (here.draining session present)
        have listened := @Draining.listen t t₀ here ⟨session, t.ng⟩ _ draining requests
        rw [fed]
        exact ⟨listened.late, listened.draining, listened.requests, listened.unanswered⟩
      · rw [nothing]
        exact ⟨here.late, here.draining, here.requests, here.unanswered⟩

theorem Draining.submit (here : Draining t₀ t) (pc : PendingCall) :
    Draining t₀ (t.submit platform config pc) := by
  cases present : t.h2 with
  | none =>
      have same : t.submit platform config pc = t := by simp only [Transport.submit, present]
      rw [same]
      exact here
  | some session =>
      have draining := here.draining session present
      have refused : (World.submitRequest platform config pc ⟨session, t.ng⟩).1 < 0 :=
        SessionIo.submitUnaryRequest_of_draining platform _ _ _ ⟨session, t.ng⟩ draining
      obtain ⟨still, sameEnv⟩ := @SessionIo.submitUnaryRequest_draining Nat ⟨session, t.ng⟩
        platform (pc.requestHeaders config) pc.framedBody (World.makeStreamHooks pc.call)
        draining
      rw [submit_refused present refused]
      refine ⟨here.late, ?_, ?_, here.unanswered⟩
      · intro session' present'
        cases present'
        exact still
      · have sameCalls : (World.submitRequest platform config pc
            ⟨session, t.ng⟩).2.env.calls = t.ng.calls := congrArg NgEnv.calls sameEnv
        simp only
        rw [sameCalls]
        exact here.requests

theorem Draining.step (here : Draining t₀ t) {action : Transport.Move}
    (admits : t.Admits action) : Draining t₀ (t.move platform config action) := by
  cases action with
  | startConnect => exact absurd (.inl admits) here.late
  | continueConnect => exact absurd (.inr admits) here.late
  | openSession now => exact absurd (.inr admits.1) here.late
  | submit pc => exact here.submit pc
  | checkKeepalive now =>
      refine here.onSession fun io draining =>
        ⟨SessionIo.checkKeepalive_draining platform now draining, ?_⟩
      rcases SessionIo.checkKeepalive_calls platform now io with same | ⟨opaqueData, rc, more⟩
      · rw [same]
      · rw [more, List.filterMap_append]
        exact List.append_nil _
  | wantWrite =>
      exact here.onSession fun io draining =>
        ⟨SessionIo.wantWrite_draining draining,
          congrArg _ (SessionIo.wantWrite_calls io)⟩
  | send => exact here.send
  | receive now => exact here.receive now
  | terminate =>
      have done := here.onSession fun io draining => io.terminate_draining draining
      refine ⟨?_, done.draining, done.requests, done.unanswered⟩
      rintro (impossible | impossible) <;> cases impossible
  | close =>
      refine ⟨?_, ?_, here.requests, here.unanswered⟩
      · rintro (impossible | impossible) <;> cases impossible
      · intro session impossible
        cases impossible
  | failCall message call =>
      exact ⟨here.late, here.draining, here.requests, here.unanswered⟩
  | release => exact ⟨here.late, here.draining, here.requests, here.unanswered⟩

theorem ReachedFrom.draining (reached : ReachedFrom platform config (· = t₀) t)
    (start : Draining t₀ t₀) : Draining t₀ t := by
  refine Runs.Reach.invariant (Draining t₀) ?_ (fun _ _ here => here.step) reached.1
  rintro _ rfl
  exact start

end Transport

/-! ## Every run of a channel -/

namespace World

variable {platform : Platform} {config : ChannelConfig} {w : World}
  {events later : List ChannelEvent}

theorem handled_nodup (nodup : w.handled.Nodup)
    (admitted : Runs.Admitted (World.step platform config) Admits w events) :
    (events.foldl (World.step platform config) w).handled.Nodup := by
  refine admitted.invariant (fun _ w' => w'.handled.Nodup) nodup ?_
  intro _ w' event nodup admits
  rw [step_handled]
  cases event with
  | newCall pc => exact List.nodup_append.mpr ⟨nodup, List.nodup_singleton _, by
      intro call member call' member' same
      rw [List.mem_singleton.mp member'] at same
      exact admits (same ▸ member)⟩
  | runDue | pollEvents | ready | shutdown =>
      rw [ChannelEvent.handles, List.append_nil]
      exact nodup

/-- The channel takes no more calls: its session drains, or it has failed or was shut
down and has no session any more. -/
def Ending (w : World) : Prop :=
  (∃ session, w.h2 = some session ∧ session.draining = true) ∨
    w.state = .failed ∨ w.state = .shutdown

theorem Ending.draining {record : Transport.Record}
    (hasSession : (w.transport w.state.phase record).HasSession) (ending : w.Ending) :
    Transport.Draining (w.transport w.state.phase record)
      (w.transport w.state.phase record) := by
  rcases ending with ⟨session, present, draining⟩ | ended
  · refine ⟨Transport.not_early (hasSession.mp ?_), ?_, rfl, fun _ none => none⟩
    · exact Option.isSome_iff_exists.mpr ⟨session, present⟩
    · intro session' present'
      cases present.symm.trans present'
      exact draining
  · have finished := phase_of_ended ended
    refine ⟨?_, ?_, rfl, fun _ none => none⟩
    · rintro (early | early) <;> cases finished.symm.trans early
    · intro session present
      have inUse := hasSession.mp (Option.isSome_iff_exists.mpr ⟨session, present⟩)
      rcases inUse with phase | phase <;> cases finished.symm.trans phase

/-- Once the session of a channel drains, or the channel has failed or was shut down,
further callbacks of any kind hand no request to nghttp2, a session drains as long as
it is there, and every call posted since that returns has failed as unavailable
without a response. -/
theorem no_request_after_goaway (fresh : w.Fresh config)
    (admitted : Runs.Admitted (World.step platform config) Admits w events)
    (ending : (events.foldl (World.step platform config) w).Ending)
    (goesOn : Runs.Admitted (World.step platform config) Admits
      (events.foldl (World.step platform config) w) later) :
    let w₁ := events.foldl (World.step platform config) w
    let w₂ := later.foldl (World.step platform config) w₁
    w₂.ng.calls.filterMap NgCall.request? = w₁.ng.calls.filterMap NgCall.request? ∧
      (∀ session, w₂.h2 = some session → session.draining = true) ∧
      ∀ pc ∈ ChannelEvent.allPosts later, ∀ result,
        (w₂.calls pc.call).wait = some result →
          result.code = .unavailable ∧ result.response = [] := by
  intro w₁ w₂
  obtain ⟨between, tracked, handled⟩ := fresh.tracked_run admitted
  obtain ⟨record, reached, first, _, here⟩ := tracked.fromHere
  obtain ⟨_, later', handled'⟩ := here.run between handled goesOn
  obtain ⟨record', reached', _⟩ := later'.transport
  have drained := reached'.draining (ending.draining reached.2)
  refine ⟨drained.requests, drained.draining, ?_⟩
  intro pc member result waited
  -- The call is none of those that were submitted before.
  have isNew : pc.call ∉ (ChannelEvent.allPosts events).map PendingCall.call := by
    have nodup : (later.foldl (World.step platform config) w₁).handled.Nodup := by
      refine handled_nodup (handled_nodup ?_ admitted) goesOn
      rw [fresh.handled]
      exact List.nodup_nil
    rw [handled', List.map_append] at nodup
    intro old
    exact (List.nodup_append.mp nodup).2.2 _ old _ (List.mem_map_of_mem member) rfl
  have before : Transport.Reachable platform config w.tls w.ng
      (w₁.transport w₁.state.phase record) := reached.1
  have unanswered : record.replies pc.call = none :=
    before.replied.unanswered fun submitted => isNew ((first.map _).subset submitted)
  have after : Transport.Reachable platform config w.tls w.ng
      (w₂.transport w₂.state.phase record') := before.trans reached'.1
  rcases (after.replied.told pc.call).verdict waited with
    unavailable | ⟨reply, isReply, _⟩
  · exact unavailable
  · cases (drained.unanswered pc.call unanswered).symm.trans isReply

/-- The sample surroundings with a peer that answers with a GOAWAY. -/
def sampleDrained : World :=
  { sampleTraffic with
    ng :=
      { sampleTraffic.ng with
        memRecvs := [{ callbacks := [.onFrameRecv (.goaway 0 0 none)] }] } }

theorem sampleDrained_fresh : sampleDrained.Fresh sampleConfig :=
  sampleStart_fresh sampleConfig rfl _ rfl _

/-- The second call is posted after the GOAWAY, or after a shutdown, and fails at
once. -/
theorem sampleDrained_refuses :
    let w₁ := sampleEvents.foldl (World.step silentPlatform sampleConfig) sampleDrained
    let w₂ := [ChannelEvent.newCall { call := 1 }].foldl
      (World.step silentPlatform sampleConfig) w₁
    let w₃ := (sampleEvents ++ [ChannelEvent.shutdown]).foldl
      (World.step silentPlatform sampleConfig) sampleDrained
    let w₄ := [ChannelEvent.newCall { call := 1 }].foldl
      (World.step silentPlatform sampleConfig) w₃
    w₄.ng.calls.filterMap NgCall.request? = w₃.ng.calls.filterMap NgCall.request? ∧
      (w₂.calls 1).wait.isSome = true ∧
      w₂.ng.calls.filterMap NgCall.request? = w₁.ng.calls.filterMap NgCall.request? ∧
      (∀ session, w₂.h2 = some session → session.draining = true) ∧
      ∀ pc ∈ ChannelEvent.allPosts [.newCall { call := 1 }], ∀ result,
        (w₂.calls pc.call).wait = some result →
          result.code = .unavailable ∧ result.response = [] := by
  have isNew : 1 ∉ [0] := by decide
  have shutDown := @no_request_after_goaway silentPlatform sampleConfig sampleDrained
    (sampleEvents ++ [ChannelEvent.shutdown]) [.newCall { call := 1 }] sampleDrained_fresh
    ⟨List.not_mem_nil, trivial, trivial, trivial, trivial⟩ (.inr (.inr rfl)) ⟨isNew, trivial⟩
  exact ⟨shutDown.1, by decide, no_request_after_goaway sampleDrained_fresh
    ⟨List.not_mem_nil, trivial, trivial, trivial⟩ (.inl ⟨_, rfl, rfl⟩) ⟨isNew, trivial⟩⟩

end World

end Egrpc
