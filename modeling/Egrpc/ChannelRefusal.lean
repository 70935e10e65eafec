import Egrpc.ChannelSafety
import Egrpc.Http2SessionOutput

/-!
# Refused submissions

A call whose request the session refuses fails with the session's error text.
The text stays in the session, and `FlushOutput` takes it for the sign of a dead
transport once there is no more output.  So the flush that follows a refusal
tears the channel down, with every call on it, unless the socket stops taking
bytes before the output has run dry.  This file computes when that is the case
and derives which refusals are harmless.
-/

namespace Egrpc

/-! ## When a flush stalls -/

/-- The socket took some bytes or asked to wait; it did not fail. -/
def Unbroken : Except SslFailure Nat → Prop
  | .ok _ | .error .wantRead | .error .wantWrite => True
  | .error .zeroReturn | .error (.syscall _) | .error .ssl => False

instance : DecidablePred Unbroken
  | .ok _ | .error .wantRead | .error .wantWrite => .isTrue trivial
  | .error .zeroReturn | .error (.syscall _) | .error .ssl => .isFalse id

/-- If the socket's answers stop a flush before the output has run dry, the
answers of nghttp2 that the flush has used by then.  `pending` bytes are there
at the start. -/
def stalledSends :
    List (Except SslFailure Nat) → Nat → List MemSend → Option (List MemSend)
  | [], pending, sends =>
      if MemSend.available pending sends = 0 then none
      else some (MemSend.nextBatch pending sends).1
  | .error _ :: _, pending, sends =>
      if MemSend.available pending sends = 0 then none
      else some (MemSend.nextBatch pending sends).1
  | .ok written :: writes, pending, sends =>
      if MemSend.available pending sends = 0 then none
      else
        (stalledSends writes (MemSend.available pending sends - written)
          (MemSend.nextBatch pending sends).2).map
            ((MemSend.nextBatch pending sends).1 ++ ·)

theorem TlsIo.write_blocked (platform : Platform) (data : Bytes) (io : TlsIo)
    (connected : io.sock.state = .connected)
    (unbroken : ∀ answer ∈ io.env.writes, Unbroken answer)
    (blocked : ∀ written rest, io.env.writes ≠ .ok written :: rest) :
    (io.write platform data).1.1 = .wantRead ∨
      (io.write platform data).1.1 = .wantWrite := by
  unfold TlsIo.write
  rw [if_neg (not_not.mpr connected)]
  cases writes : io.env.writes with
  | nil => exact .inr rfl
  | cons answer rest =>
      have sound := unbroken answer (by simp [writes])
      cases answer with
      | ok written => exact absurd writes (blocked written rest)
      | error failure =>
          cases failure with
          | wantRead => exact .inl rfl
          | wantWrite => exact .inr rfl
          | zeroReturn | syscall | ssl => exact sound.elim

theorem TlsIo.write_accepted (platform : Platform) (data : Bytes) (io : TlsIo)
    (connected : io.sock.state = .connected) {written : Nat}
    {rest : List (Except SslFailure Nat)} (writes : io.env.writes = .ok written :: rest) :
    (io.write platform data).1 = (.ok, min written data.length) ∧
      (io.write platform data).2.env.writes = rest := by
  unfold TlsIo.write
  rw [if_neg (not_not.mpr connected), writes]
  exact ⟨rfl, rfl⟩

namespace World

variable {platform : Platform} {config : ChannelConfig} {held : List Nat}
  {w : World} {session : Http2Session Nat}

/-- Neither a socket error nor a send error lies ahead. -/
structure Clean (w : World) : Prop where
  writes : ∀ answer ∈ w.tls.writes, Unbroken answer
  memSends : ∀ send ∈ w.ng.memSends, send.Clean

/-- A ready channel whose session carries an error text. -/
structure Outgoing (session : Http2Session Nat) (w : World) : Prop where
  state : w.state = .ready
  h2 : w.h2 = some session
  live : session.session = true
  error : session.error ≠ []
  sock : w.sock.state = .connected
  clean : w.Clean

/-- Asking for output leaves the channel as it was, with the next output in the
buffer. -/
theorem Outgoing.pendingOutput (platform : Platform) (outgoing : Outgoing session w) :
    ∃ session', Outgoing session' (w.pendingOutput platform).2 ∧
      (w.pendingOutput platform).1 =
        (if MemSend.available session.unsent.length w.ng.memSends = 0 then none
          else some session'.unsent) ∧
      session'.unsent.length =
        MemSend.available session.unsent.length w.ng.memSends ∧
      (w.pendingOutput platform).2.ng.memSends =
        (MemSend.nextBatch session.unsent.length w.ng.memSends).2 ∧
      ∀ streamId, session'.hooksAt streamId =
        bif closedBy (MemSend.nextBatch session.unsent.length w.ng.memSends).1 streamId
        then none else session.hooksAt streamId := by
  have produced := SessionIo.pendingOutput_spec platform ⟨session, w.ng⟩ outgoing.live
    outgoing.clean.memSends
  unfold World.pendingOutput
  rw [onSession_of_some outgoing.h2]
  exact ⟨_,
    { state := outgoing.state
      h2 := rfl
      live := produced.live.trans outgoing.live
      error := by rw [produced.error]; exact outgoing.error
      sock := outgoing.sock
      clean :=
        { writes := outgoing.clean.writes
          memSends := by
            intro send member
            have left : send ∈ (MemSend.nextBatch session.unsent.length
              w.ng.memSends).2 := produced.memSends ▸ member
            exact outgoing.clean.memSends send (MemSend.mem_of_mem_nextBatch left) } },
    produced.bytes, produced.length, produced.memSends, produced.hooksAt⟩

/-- Without output left, the error text tears the channel down. -/
theorem Outgoing.outputDrained (outgoing : Outgoing session w) :
    w.outputDrained.state = .failed := by
  have resolved : w.resolve .session = some session.error := by
    simp [resolve, outgoing.h2]
  unfold World.outputDrained
  rw [peek_of_some outgoing.h2]
  simp only
  rw [if_pos outgoing.error]
  exact (tearDown_spec (by simp [outgoing.state]) resolved).state

theorem flushRound_of_output {data : Bytes} (ready : w.state = .ready)
    (output : (w.pendingOutput platform).1 = some data) (nonempty : data ≠ []) :
    flushRound platform w =
      afterWrite ((w.pendingOutput platform).2.onSocket
        (TlsIo.write platform data)) := by
  obtain ⟨byte, bytes, rfl⟩ := List.exists_cons_of_ne_nil nonempty
  unfold flushRound
  rw [if_neg (not_not.mpr ready)]
  simp only [output]

/-- A flush has stalled: the channel is still ready, and the streams left are
those that nghttp2 has not closed. -/
def Stalled (session : Http2Session Nat) (used : List MemSend) (w : World) : Prop :=
  w.state = .ready ∧ ∃ session', w.h2 = some session' ∧
    ∀ streamId, session'.hooksAt streamId =
      bif closedBy used streamId then none else session.hooksAt streamId

theorem Outgoing.round_drained (platform : Platform) (outgoing : Outgoing session w)
    (dry : MemSend.available session.unsent.length w.ng.memSends = 0) :
    ∃ w', flushRound platform w = .leave w' ∧ w'.state = .failed := by
  obtain ⟨session', output, bytes, _⟩ := outgoing.pendingOutput platform
  rw [if_pos dry] at bytes
  refine ⟨_, ?_, output.outputDrained⟩
  unfold flushRound
  rw [if_neg (not_not.mpr outgoing.state)]
  simp only [bytes]

theorem Outgoing.round_blocked (platform : Platform) (outgoing : Outgoing session w)
    (wet : MemSend.available session.unsent.length w.ng.memSends ≠ 0)
    (blocked : ∀ written rest, w.tls.writes ≠ .ok written :: rest) :
    ∃ w', flushRound platform w = .leave w' ∧ w'.Stalled session
      (MemSend.nextBatch session.unsent.length w.ng.memSends).1 := by
  obtain ⟨session', output, bytes, length, _, hooks⟩ :=
    outgoing.pendingOutput platform
  rw [if_neg wet] at bytes
  have nonempty : session'.unsent ≠ [] := by
    rw [← List.length_pos_iff]
    omega
  have status := TlsIo.write_blocked platform session'.unsent
    ⟨(w.pendingOutput platform).2.sock, (w.pendingOutput platform).2.tls⟩
    output.sock output.clean.writes (by rw [pendingOutput_tls]; exact blocked)
  refine ⟨((w.pendingOutput platform).2.onSocket
    (TlsIo.write platform session'.unsent)).2, ?_,
    output.state, session', output.h2, hooks⟩
  rw [flushRound_of_output outgoing.state bytes nonempty]
  rcases status with status | status <;> simp only [afterWrite, onSocket, status]

/-- A write that the socket accepts, and the note of how much it took. -/
theorem Outgoing.write_accepted (platform : Platform) (outgoing : Outgoing session w)
    {written : Nat} {rest : List (Except SslFailure Nat)}
    (writes : w.tls.writes = .ok written :: rest) :
    let wrote := w.onSocket (TlsIo.write platform session.unsent)
    let count := min written session.unsent.length
    wrote.1 = (.ok, count) ∧
      Outgoing (session.consumeOutput count) (wrote.2.consumeOutput count) ∧
      (wrote.2.consumeOutput count).tls.writes = rest ∧
      (wrote.2.consumeOutput count).ng.memSends = w.ng.memSends := by
  intro wrote count
  obtain ⟨accepted, left⟩ := TlsIo.write_accepted platform session.unsent
    ⟨w.sock, w.tls⟩ outgoing.sock writes
  have h2 : wrote.2.h2 = some session := outgoing.h2
  have consumed : wrote.2.consumeOutput count =
      wrote.2.withSession ⟨session.consumeOutput count, wrote.2.ng⟩ := by
    rw [World.consumeOutput, onSessionQuietly_of_some h2]
  refine ⟨accepted, ?_, ?_, ?_⟩
  · rw [consumed]
    exact
      { state := outgoing.state
        h2 := rfl
        live := outgoing.live
        error := outgoing.error
        sock := (TlsIo.write_frame platform session.unsent ⟨w.sock, w.tls⟩).1.trans
          outgoing.sock
        clean :=
          { writes := by
              intro answer member
              have inRest : answer ∈ rest := left ▸ member
              exact outgoing.clean.writes answer (by simp [writes, inRest])
            memSends := outgoing.clean.memSends } }
  · rw [consumed]
    exact left
  · rw [consumed]
    rfl

theorem Outgoing.round_accepted (platform : Platform) (outgoing : Outgoing session w)
    (wet : MemSend.available session.unsent.length w.ng.memSends ≠ 0)
    {written : Nat} {rest : List (Except SslFailure Nat)}
    (writes : w.tls.writes = .ok written :: rest) :
    ∃ session' w', flushRound platform w = .again w' ∧ Outgoing session' w' ∧
      w'.tls.writes = rest ∧
      session'.unsent.length =
        MemSend.available session.unsent.length w.ng.memSends - written ∧
      w'.ng.memSends = (MemSend.nextBatch session.unsent.length w.ng.memSends).2 ∧
      ∀ streamId, session'.hooksAt streamId =
        bif closedBy (MemSend.nextBatch session.unsent.length w.ng.memSends).1 streamId
        then none else session.hooksAt streamId := by
  obtain ⟨session', output, bytes, length, memSends, hooks⟩ :=
    outgoing.pendingOutput platform
  rw [if_neg wet] at bytes
  have nonempty : session'.unsent ≠ [] := by
    rw [← List.length_pos_iff]
    omega
  obtain ⟨accepted, consumed, left, sends⟩ :=
    output.write_accepted platform (by rw [pendingOutput_tls]; exact writes)
  refine ⟨_, _, ?_, consumed, left, ?_, sends.trans memSends, hooks⟩
  · rw [flushRound_of_output outgoing.state bytes nonempty]
    simp only [afterWrite, accepted]
  · rw [← length]
    simp only [Http2Session.consumeOutput, Http2Session.unsent, List.length_drop]
    omega

theorem Outgoing.flush_drained (platform : Platform) (outgoing : Outgoing session w)
    (dry : MemSend.available session.unsent.length w.ng.memSends = 0) :
    (w.flushOutput platform).state = .failed := by
  obtain ⟨w', round, failed⟩ := outgoing.round_drained platform dry
  rw [World.flushOutput, (flushLoop platform).run_of_leave round]
  exact failed

theorem Outgoing.flush_blocked (platform : Platform) (outgoing : Outgoing session w)
    (wet : MemSend.available session.unsent.length w.ng.memSends ≠ 0)
    (blocked : ∀ written rest, w.tls.writes ≠ .ok written :: rest) :
    (w.flushOutput platform).Stalled session
      (MemSend.nextBatch session.unsent.length w.ng.memSends).1 := by
  obtain ⟨w', round, stalled⟩ := outgoing.round_blocked platform wet blocked
  rw [World.flushOutput, (flushLoop platform).run_of_leave round]
  exact stalled

theorem Outgoing.flushOutput (platform : Platform)
    (writes : List (Except SslFailure Nat)) (outgoing : Outgoing session w)
    (answers : w.tls.writes = writes) :
    match stalledSends writes session.unsent.length w.ng.memSends with
    | none => (w.flushOutput platform).state = .failed
    | some used => (w.flushOutput platform).Stalled session used := by
  induction writes generalizing w session with
  | nil =>
      unfold stalledSends
      split_ifs with dry
      · exact outgoing.flush_drained platform dry
      · exact outgoing.flush_blocked platform dry (by simp [answers])
  | cons answer writes ih =>
      cases answer with
      | error failure =>
          unfold stalledSends
          split_ifs with dry
          · exact outgoing.flush_drained platform dry
          · exact outgoing.flush_blocked platform dry (by simp [answers])
      | ok written =>
          unfold stalledSends
          split_ifs with dry
          · exact outgoing.flush_drained platform dry
          · obtain ⟨session', w', round, outgoing', answers', length, memSends, hooks⟩ :=
              outgoing.round_accepted platform dry answers
            have rest := ih outgoing' answers'
            rw [length, memSends] at rest
            rw [World.flushOutput, (flushLoop platform).run_of_again round]
            cases left : stalledSends writes (MemSend.available session.unsent.length
                w.ng.memSends - written) (MemSend.nextBatch session.unsent.length
                w.ng.memSends).2 with
            | none =>
                rw [left] at rest
                exact rest
            | some used =>
                rw [left] at rest
                obtain ⟨state, final, h2, finalHooks⟩ := rest
                refine ⟨state, final, h2, fun streamId => ?_⟩
                rw [finalHooks, hooks, none_unless_or, closedBy_append]

/-! ## Calls that are closed -/

theorem deliver_calls_of_closed {table : CallTable} {call other : Nat}
    (closed : (table.calls call).state = .closed) (event : CallEvent) :
    (table.deliver other event).calls call = table.calls call := by
  by_cases same : other = call
  · rw [deliver_of_closed (same ▸ closed)]
  · exact Function.update_of_ne (Ne.symm same) _ _

theorem hook_calls_of_closed {table : CallTable} {call : Nat}
    (closed : (table.calls call).state = .closed) (hookCall : HookCall Nat) :
    (table.hook hookCall).calls call = table.calls call := by
  cases hookCall with
  | responseHeaders | trailers | data | close =>
      exact deliver_calls_of_closed closed _
  | remoteSettings | settingsAck | pingAck | goaway => rfl

/-- The result of a closed call is kept by every hook. -/
theorem closed_sessionInvariant {call : Nat} {result : CallState}
    (closed : result.state = .closed) :
    SessionInvariant CallTable.hook
      (fun _ table => table.calls call = result) where
  same _ _ _ _ holds := holds
  event _ table _ _ hookCall _ _ holds :=
    (hook_calls_of_closed (holds ▸ closed) hookCall).trans holds
  shared _ table hookCall _ holds :=
    (hook_calls_of_closed (holds ▸ closed) hookCall).trans holds
  close _ _ table _ hooks errorCode _ _ holds := by
    cases hooks.onClose with
    | none => exact holds
    | some other =>
        exact (hook_calls_of_closed (holds ▸ closed) (.close other errorCode)).trans
          holds

theorem flushOutput_calls_of_closed {call : Nat} (outgoing : Outgoing session w)
    (closed : (w.calls call).state = .closed)
    (ready : (w.flushOutput platform).state = .ready) :
    (w.flushOutput platform).calls call = w.calls call := by
  have holding : Holding (fun _ table => table.calls call = w.calls call) w w :=
    ⟨outgoing.state, rfl, rfl, session, outgoing.h2, rfl⟩
  have flushed : HoldingOrFailed (fun _ table => table.calls call = w.calls call) w
      (w.flushOutput platform) :=
    (Holding.transfer (closed_sessionInvariant closed)).flushOutput holding
  obtain ⟨_, _, same⟩ := (flushed.holding ready).session
  exact same

theorem submitCall_calls_of_closed {call : Nat} (pc : PendingCall)
    (ready : w.state = .ready) (present : w.h2 = some session)
    (closed : (w.calls call).state = .closed) :
    (w.submitCall platform config pc).calls call = w.calls call := by
  unfold World.submitCall
  rw [if_neg (by simp [ready, present]), onSessionQuietly_of_some present]
  simp only
  split_ifs
  · rw [peek_of_some rfl]
    exact deliver_calls_of_closed closed _
  · exact deliver_calls_of_closed closed _

/-! ## After a refusal -/

/-- Since `turn` the session has refused `call`, and nothing has happened but
submissions. -/
structure RefusedSince (call : Nat) (turn w : World) : Prop where
  state : w.state = .ready
  session : ∃ session session', turn.h2 = some session ∧ w.h2 = some session' ∧
    session'.error ≠ [] ∧ session'.unsent = session.unsent ∧
    ∀ streamId ∈ session.streams,
      session'.hooksAt streamId = session.hooksAt streamId
  memSends : w.ng.memSends = turn.ng.memSends
  tls : w.tls = turn.tls
  closed : (w.calls call).state = .closed
  code : (w.calls call).result.code = .unavailable

theorem submitRequest_unsent (platform : Platform) (config : ChannelConfig)
    (pc : PendingCall) (io : SessionIo Nat) :
    (submitRequest platform config pc io).2.session.unsent = io.session.unsent ∧
      (submitRequest platform config pc io).2.env.memSends = io.env.memSends := by
  obtain ⟨_, _, out, outConsumed, memSends⟩ := SessionIo.submitUnaryRequest_frame
    platform (buildRequestHeaders config.authority pc.methodPath pc.timeout
      pc.metadata config.options.userAgentPrefix) pc.framedBody
    (makeStreamHooks pc.call) io
  refine ⟨?_, memSends⟩
  rw [Http2Session.unsent, Http2Session.unsent]
  exact congrArg₂ List.drop outConsumed out

theorem Live.refusedSince {pc : PendingCall} {queue : List PendingCall}
    (live : w.Live config (pc.call :: held) queue) (present : w.h2 = some session)
    (refused : (submitRequest platform config pc ⟨session, w.ng⟩).1 < 0) :
    RefusedSince pc.call w (w.submitCall platform config pc) := by
  obtain ⟨session', present', serving⟩ := live.session
  obtain rfl : session = session' := Option.some.inj (present.symm.trans present')
  obtain ⟨h2, ng, state, _, tls, _⟩ :=
    submitCall_frame platform config pc live.state present
  obtain ⟨unsent, memSends⟩ :=
    submitRequest_unsent platform config pc ⟨session, w.ng⟩
  obtain ⟨error, same⟩ := SessionIo.submitUnaryRequest_refused refused
  have waiting : (w.calls pc.call).state ≠ .closed := fun closed =>
    serving.ledger.waiting pc.call (by simp) ((serving.ledger.valid _).mpr closed)
  have failed : FailedAs ((w.submitCall platform config pc).calls pc.call) none := by
    rw [submitCall_refused live.state present refused]
    change FailedAs (Function.update w.calls pc.call _ pc.call) none
    rw [Function.update_self]
    exact failedAs_failLocal waiting _ nofun
  exact
    { state := state
      session := ⟨session, _, present, h2, error, unsent,
        fun streamId _ => same.hooksAt streamId⟩
      memSends := by rw [ng]; exact memSends
      tls := tls
      closed := failed.closed
      code := failed.code }

theorem RefusedSince.submitCall {call : Nat} {turn : World} {pc : PendingCall}
    {queue : List PendingCall} (since : RefusedSince call turn w)
    (live : w.Live config (pc.call :: held) queue) :
    RefusedSince call turn (w.submitCall platform config pc) := by
  obtain ⟨start, session, atTurn, present, error, unsent, hooks⟩ := since.session
  obtain ⟨session', present', serving⟩ := live.session
  obtain rfl : session = session' := Option.some.inj (present.symm.trans present')
  obtain ⟨h2, ng, state, _, tls, _⟩ :=
    submitCall_frame platform config pc live.state present
  obtain ⟨unsent', memSends⟩ :=
    submitRequest_unsent platform config pc ⟨session, w.ng⟩
  have calls : (w.submitCall platform config pc).calls call = w.calls call :=
    submitCall_calls_of_closed pc live.state present since.closed
  have submitted : (submitRequest platform config pc ⟨session, w.ng⟩).2.session.error
        ≠ [] ∧ ∀ streamId ∈ start.streams,
      (submitRequest platform config pc ⟨session, w.ng⟩).2.session.hooksAt streamId =
        start.hooksAt streamId := by
    rcases SessionIo.submitUnaryRequest_cases platform _ pc.framedBody
        (makeStreamHooks pc.call) ⟨session, w.ng⟩ serving.issued with
      ⟨_, refusal, _, same⟩ | ⟨accepted, isNew, _, registered⟩
    · exact ⟨refusal, fun streamId member =>
        (same.hooksAt streamId).trans (hooks streamId member)⟩
    · refine ⟨?_, fun streamId member => ?_⟩
      · rw [submitRequest, SessionIo.submitUnaryRequest_accepted accepted]
        exact error
      · have known : streamId ∈ session.streams := by
          rw [← session.hooksAt_isSome, hooks streamId member, start.hooksAt_isSome]
          exact member
        have apart : streamId ≠ (submitRequest platform config pc
            ⟨session, w.ng⟩).1 := fun same =>
          isNew (same ▸ serving.issued streamId known)
        exact ((registered.hooksAt streamId).trans (if_neg apart)).trans
          (hooks streamId member)
  exact
    { state := state
      session := ⟨start, _, atTurn, h2, submitted.1, unsent'.trans unsent,
        submitted.2⟩
      memSends := by rw [ng]; exact memSends.trans since.memSends
      tls := tls.trans since.tls
      closed := by rw [calls]; exact since.closed
      code := by rw [calls]; exact since.code }

theorem RefusedSince.submitQueued {call : Nat} {turn : World}
    (later : List PendingCall) (since : RefusedSince call turn w)
    (live : w.Live config (later.map PendingCall.call) []) :
    RefusedSince call turn (later.foldl (World.submitQueued platform config) w) ∧
      (later.foldl (World.submitQueued platform config) w).Live config [] [] := by
  induction later generalizing w with
  | nil => exact ⟨since, live⟩
  | cons pc later ih =>
      rw [List.foldl_cons, World.submitQueued, if_neg (not_not.mpr live.state)]
      exact ih (since.submitCall live) live.submitCall

/-! ## Harm -/

/-- The call has failed as unavailable, the channel is ready, and every call
that was active is still active and not done, and its stream registered. -/
def Unharmed (before after : World) (call : Nat) : Prop :=
  (after.calls call).state = .closed ∧
    (after.calls call).result.code = .unavailable ∧ after.state = .ready ∧
    ∀ other ∈ before.activeCalls,
      other ∈ after.activeCalls ∧ (after.calls other).done = false ∧
      ∃ session ∈ before.h2, ∃ session' ∈ after.h2, ∃ streamId,
        session.hooksAt streamId = some (makeStreamHooks other) ∧
        session'.hooksAt streamId = some (makeStreamHooks other)

/-- A flush from here stalls before the output has run dry, and until then
nghttp2 closes none of the streams. -/
def StallsHarmlessly (w : World) : Prop :=
  ∃ session ∈ w.h2,
    ∃ used ∈ stalledSends w.tls.writes session.unsent.length w.ng.memSends,
      ∀ streamId ∈ session.streams.keys, closedBy used streamId = false

instance (w : World) : Decidable w.StallsHarmlessly :=
  inferInstanceAs (Decidable (∃ _ ∈ _, ∃ _ ∈ _, ∀ _ ∈ _, _))

/-- The flush after a refusal fails the channel or stalls; then the refused call
keeps its result, and of the streams there were those are left which nghttp2 has not
closed. -/
theorem RefusedSince.flush_cases (platform : Platform) {call : Nat} {turn : World}
    (since : RefusedSince call turn w) (live : w.Live config [] []) (clean : turn.Clean)
    (atTurn : turn.h2 = some session) :
    let flushed := w.flushOutput platform
    let sends := stalledSends turn.tls.writes session.unsent.length turn.ng.memSends
    (sends = none ∧ flushed.state = .failed) ∨
    ∃ used final, sends = some used ∧ flushed.Live config [] [] ∧
      flushed.h2 = some final ∧ flushed.calls call = w.calls call ∧
      ∀ streamId ∈ session.streams, final.hooksAt streamId =
        bif closedBy used streamId then none else session.hooksAt streamId := by
  intro flushed sends
  obtain ⟨start, current, atTurn', present, error, unsent, hooks⟩ := since.session
  obtain rfl : session = start := Option.some.inj (atTurn.symm.trans atTurn')
  obtain ⟨current', present', serving⟩ := live.session
  obtain rfl : current = current' := Option.some.inj (present.symm.trans present')
  have outgoing : Outgoing current w :=
    { state := since.state
      h2 := present
      live := serving.live
      error := error
      sock := live.sock
      clean :=
        { writes := by rw [since.tls]; exact clean.writes
          memSends := by rw [since.memSends]; exact clean.memSends } }
  have ended := outgoing.flushOutput platform turn.tls.writes
    (congrArg TlsEnv.writes since.tls)
  rw [unsent, since.memSends] at ended
  cases stalls : sends with
  | none =>
      rw [show stalledSends _ _ _ = _ from stalls] at ended
      exact .inl ⟨rfl, ended⟩
  | some used =>
      rw [show stalledSends _ _ _ = _ from stalls] at ended
      obtain ⟨ready, final, atEnd, left⟩ := ended
      have stillLive : flushed.Live config [] [] := by
        rcases live.flushOutput with stillLive | ⟨failed, _⟩
        · exact stillLive
        · cases ready.symm.trans failed
      refine .inr ⟨used, final, rfl, stillLive, atEnd,
        flushOutput_calls_of_closed outgoing since.closed ready, fun streamId registered => ?_⟩
      rw [left streamId, hooks streamId registered]

/-- The flush after a refusal harms nobody exactly when it stalls
harmlessly. -/
theorem RefusedSince.unharmed_iff {call : Nat} {turn : World}
    (since : RefusedSince call turn w) (turnLive : turn.Live config held [])
    (live : w.Live config [] []) (clean : turn.Clean) :
    Unharmed turn (w.flushOutput platform) call ↔ turn.StallsHarmlessly := by
  obtain ⟨start, atTurn, turnServing⟩ := turnLive.session
  constructor
  · rintro ⟨_, _, ready, kept⟩
    rcases since.flush_cases platform live clean atTurn with
      ⟨_, failed⟩ | ⟨used, final, stalls, _, atEnd, _, left⟩
    · cases ready.symm.trans failed
    · refine ⟨start, atTurn, used, stalls, fun streamId member => ?_⟩
      have registered : streamId ∈ start.streams := AList.mem_keys.mpr member
      obtain ⟨streamHooks, found⟩ :=
        Option.isSome_iff_exists.mp ((start.hooksAt_isSome streamId).mpr registered)
      obtain ⟨other, active, rfl⟩ := turnServing.owned streamId streamHooks found
      obtain ⟨_, _, first, isFirst, last, isLast, otherId, before, after⟩ :=
        kept other active
      obtain rfl : start = first := Option.some.inj (atTurn.symm.trans isFirst)
      obtain rfl : final = last := Option.some.inj (atEnd.symm.trans isLast)
      obtain rfl : otherId = streamId :=
        turnServing.distinct otherId streamId _ before found
      -- A closed stream would have no hooks left.
      by_contra closed
      rw [left otherId registered, Bool.eq_true_of_not_eq_false closed] at after
      cases after
  · rintro ⟨start', isStart, used, stalls, unclosed⟩
    obtain rfl : start = start' := Option.some.inj (atTurn.symm.trans isStart)
    rcases since.flush_cases platform live clean atTurn with
      ⟨dry, _⟩ | ⟨used', final, stalls', stillLive, atEnd, calls, left⟩
    · cases dry.symm.trans stalls
    · obtain rfl : used = used' := Option.some.inj (stalls.symm.trans stalls')
      obtain ⟨final', atEnd', finalServing⟩ := stillLive.session
      obtain rfl : final = final' := Option.some.inj (atEnd.symm.trans atEnd')
      refine ⟨by rw [calls]; exact since.closed, by rw [calls]; exact since.code,
        stillLive.state, fun other active => ?_⟩
      obtain ⟨streamId, found⟩ := turnServing.served other active
      have registered : streamId ∈ start.streams := by
        rw [← start.hooksAt_isSome, found]
        rfl
      have kept : final.hooksAt streamId = some (makeStreamHooks other) := by
        rw [left streamId registered, unclosed streamId (AList.mem_keys.mp registered),
          cond_false, found]
      obtain ⟨owner, stillActive, isOwner⟩ := finalServing.owned streamId _ kept
      obtain rfl := Serving.makeStreamHooks_injective isOwner
      refine ⟨stillActive, ?_, start, atTurn, final, atEnd, streamId, found, kept⟩
      exact Bool.eq_false_of_not_eq_true
        (finalServing.ledger.waiting other (List.mem_append_right _ stillActive))

/-! ## The two handlers -/

/-- The channel as `StartSession` has it when it turns to the queued calls,
unless `onConnectProgress` does not get that far. -/
def sessionStarted (platform : Platform) (config : ChannelConfig) (w : World) :
    Option World :=
  let progress := w.onSocket (TlsIo.continueConnect platform)
  let created := progress.2.cancelConnectTimer.createSession platform config
  if progress.1 = .ok ∧ (created.peek false Http2Session.session).1 = true then
    some (created.enterReady platform)
  else none

theorem Connecting.sessionStarted {mid : World} (connecting : w.Connecting config)
    (started : w.sessionStarted platform config = some mid)
    (ready : mid.state = .ready) :
    w.onConnectProgress platform config = mid.submitPending platform config ∧
      mid.Live config [] w.pendingCalls := by
  unfold World.sessionStarted at started
  simp only at started
  split_ifs at started with progressed
  obtain ⟨ok, isSession⟩ := progressed
  cases started
  have connected := connecting.connected ok
  generalize arrived :
    (w.onSocket (TlsIo.continueConnect platform)).2.cancelConnectTimer = w₁ at *
  have created : (w₁.createSession platform config).Connected config :=
    { connected with }
  have fresh := new_streams platform config.options.http2 { onGoaway := true }
    w₁.readClock.1 w₁.readClock.2.ng
  rw [peek_of_some (w := w₁.createSession platform config) rfl] at isSession
  constructor
  · simp only [World.onConnectProgress, ok, arrived, World.startSession]
    rw [peek_of_some (w := w₁.createSession platform config) rfl]
    exact if_neg (Bool.not_eq_false _ ▸ isSession)
  · have live := created.live rfl fresh.1 fresh.2.1 isSession
    have pending : w₁.pendingCalls = w.pendingCalls := by
      rw [← arrived]
      rfl
    have here : (World.enterReady platform (w₁.createSession platform
        config)).LiveOrFailed config [] w₁.pendingCalls :=
      live.flushOutput.rearmKeepalive
    rcases here with live | ⟨failed, _⟩
    · rw [← pending]
      exact live
    · cases failed.symm.trans ready

/-- The session refuses a call. -/
def RefusesCall (platform : Platform) (config : ChannelConfig) (pc : PendingCall)
    (w : World) : Prop :=
  ∃ session ∈ w.h2, (submitRequest platform config pc ⟨session, w.ng⟩).1 = -1

instance (platform : Platform) (config : ChannelConfig) (pc : PendingCall)
    (w : World) : Decidable (w.RefusesCall platform config pc) :=
  inferInstanceAs (Decidable (∃ _ ∈ _, _))

/-- A refused call harms nobody exactly when the flush that follows stalls
harmlessly: after `HandleNewCall` on a ready channel, and after `StartSession`
for a queued call that is refused in its turn. -/
theorem refused_call_unharmed_iff (platform : Platform) (config : ChannelConfig) :
    (∀ w pc, Reachable platform config w → w.state = .ready →
      w.Admits (.newCall pc) → w.RefusesCall platform config pc → w.Clean →
      (Unharmed w (w.step platform config (.newCall pc)) pc.call ↔
        w.StallsHarmlessly)) ∧
    (∀ w mid earlier pc later revents, Reachable platform config w →
      w.state = .connecting → w.sessionStarted platform config = some mid →
      mid.state = .ready → w.pendingCalls = earlier ++ pc :: later →
      let turn := earlier.foldl (submitQueued platform config)
        { mid with pendingCalls := [] }
      turn.RefusesCall platform config pc → turn.Clean →
      (Unharmed turn (w.step platform config (.ready revents)) pc.call ↔
        turn.StallsHarmlessly)) := by
  constructor
  · rintro w pc reachable ready isNew ⟨session, present, refused⟩ clean
    have live := (reachable.between.live ready).enroll isNew
    have since := live.refusedSince present
      (by rw [show (w.recordHandled pc.call).ng = w.ng from rfl, refused]; decide)
    simp only [World.step, handleNewCall_of_ready ready]
    exact since.unharmed_iff live live.submitCall { clean with }
  · rintro w mid earlier pc later revents reachable isConnecting started ready
      pending turn ⟨session, present, refused⟩ clean
    have connecting := reachable.between.connecting isConnecting
    obtain ⟨progress, live⟩ := connecting.sessionStarted started ready
    have turnLive : turn.Live config ((pc :: later).map PendingCall.call) [] := by
      refine Live.submitQueued earlier ?_
      rw [← List.map_append, ← pending]
      exact live.dequeue
    have since := turnLive.refusedSince present (by rw [refused]; decide)
    obtain ⟨sinceAll, liveAll⟩ := since.submitQueued later turnLive.submitCall
    have handler : w.step platform config (.ready revents) =
        (later.foldl (submitQueued platform config)
          (turn.submitCall platform config pc)).flushOutput platform := by
      have queued : turn.submitQueued platform config pc =
          turn.submitCall platform config pc :=
        if_neg (not_not.mpr turnLive.state)
      simp only [World.step, World.onReady, connecting.watch, progress,
        World.submitPending, live.pendingCalls, pending, List.foldl_append,
        List.foldl_cons]
      rw [queued]
      exact if_pos liveAll.state
    rw [handler]
    exact sinceAll.unharmed_iff turnLive liveAll clean

/-- A call is active and the server has sent GOAWAY; `sends` is what nghttp2
hands out. -/
def sampleGoaway (sends : List MemSend) : World :=
  ((({ sampleStart with
      tls := { sampleStart.tls with reads := [.ok [1]] }
      ng :=
        { sampleStart.ng with
          memSends := sends
          memRecvs := [{ callbacks := [.onFrameRecv (.goaway 0 1 none)] }] } } :
      World).step silentPlatform sampleConfig (.newCall { call := 0 })).step
    silentPlatform sampleConfig (.ready POLLOUT)).step
    silentPlatform sampleConfig (.ready POLLIN)

theorem sampleGoaway_reachable (sends : List MemSend) :
    Reachable silentPlatform sampleConfig (sampleGoaway sends) :=
  .next (.next (.next (.start (sampleStart_fresh sampleConfig rfl _ rfl _))
    List.not_mem_nil) trivial) trivial

/-- With output that the socket does not take, a second call is refused and the
first one goes on. -/
theorem stalled_refusal_is_harmless :
    Unharmed (sampleGoaway [{ chunk := .ok [1] }])
      ((sampleGoaway [{ chunk := .ok [1] }]).step silentPlatform sampleConfig
        (.newCall { call := 1 })) 1 :=
  ((refused_call_unharmed_iff silentPlatform sampleConfig).1
    (sampleGoaway [{ chunk := .ok [1] }]) { call := 1 } (sampleGoaway_reachable _)
    (by decide) (by unfold Admits; decide) (by decide) ⟨by decide, by decide⟩).mpr
    (by decide)

/-- With no output left, the call that is refused after GOAWAY takes the channel
and the active call with it. -/
theorem refusal_after_goaway_fails_the_channel :
    let w := sampleGoaway []
    let after := w.step silentPlatform sampleConfig (.newCall { call := 1 })
    Reachable silentPlatform sampleConfig w ∧ w.state = .ready ∧
      w.activeCalls = [0] ∧ w.Admits (.newCall { call := 1 }) ∧
      w.RefusesCall silentPlatform sampleConfig { call := 1 } ∧ w.Clean ∧
      after.state = .failed ∧ after.activeCalls = [] ∧
      (after.calls 0).done = true ∧ ¬ Unharmed w after 1 := by
  refine ⟨sampleGoaway_reachable _, by decide, by decide, by unfold Admits; decide,
    by decide, ⟨by decide, by decide⟩, by decide, by decide, by decide, ?_⟩
  exact fun unharmed => absurd unharmed.2.2.1 (by decide)

end World

end Egrpc
