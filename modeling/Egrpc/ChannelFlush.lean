import Egrpc.ChannelTearDown

/-!
# Flushing and draining

`FlushOutput` and `DrainSocket` touch a channel only through its socket and its
session, or by tearing it down.  So a property of ready channels that survives
reading, writing and the session's own operations survives both loops.  This
file states that rule once; the channel's phases and the finer facts about its
session are instances of it.
-/

namespace Egrpc

namespace World

variable {platform : Platform} {w : World}

/-! ## Following the session pointer -/

theorem onSession_of_some {Answer : Type} {missing : Answer}
    {operation : SessionIo Nat → Answer × List (HookCall Nat) × SessionIo Nat}
    {session : Http2Session Nat} (present : w.h2 = some session) :
    w.onSession missing operation =
      ((operation ⟨session, w.ng⟩).1,
        (w.withSession (operation ⟨session, w.ng⟩).2.2).withTable
          (w.table.hooks (operation ⟨session, w.ng⟩).2.1)) := by
  simp only [onSession, present]

theorem onSessionQuietly_of_some {Answer : Type} {missing : Answer}
    {operation : SessionIo Nat → Answer × SessionIo Nat}
    {session : Http2Session Nat} (present : w.h2 = some session) :
    w.onSessionQuietly missing operation =
      ((operation ⟨session, w.ng⟩).1,
        w.withSession (operation ⟨session, w.ng⟩).2) := by
  rw [onSessionQuietly, onSession_of_some present]
  rfl

theorem peek_of_some {Answer : Type} {missing : Answer}
    {query : Http2Session Nat → Answer} {session : Http2Session Nat}
    (present : w.h2 = some session) : w.peek missing query = (query session, w) := by
  have same : ({ w with h2 := some session } : World) = w := by rw [← present]
  rw [peek, onSessionQuietly, onSession_of_some present]
  exact Prod.ext rfl same

/-- An operation on the session that keeps every relation between the session
and the calls which the session's callbacks keep. -/
def Preserving {Answer : Type}
    (operation : SessionIo Nat → Answer × List (HookCall Nat) × SessionIo Nat) :
    Prop :=
  ∀ good, SessionInvariant CallTable.hook good →
    SessionInvariant.Keeps CallTable.hook good operation

theorem preserving_quiet {Answer : Type}
    {operation : SessionIo Nat → Answer × SessionIo Nat}
    (same : ∀ io, Http2Session.SameStreams io.session (operation io).2.session ∧
      NgEnv.SameRequests io.env (operation io).2.env) :
    Preserving fun io => ((operation io).1, [], (operation io).2) :=
  fun _ kept => kept.quiet same

theorem flushOutput_of_not_ready (notReady : w.state ≠ .ready) :
    w.flushOutput platform = w := by
  have round : flushRound platform w = .leave w := by
    rw [World.flushRound, if_pos notReady]
  exact (flushLoop platform).run_of_leave round

/-! ## The rules -/

/-- A property that the rounds of `FlushOutput` keep, and what it becomes when
the loop leaves. -/
structure FlushInvariant (platform : Platform) (good after : World → Prop) : Prop where
  pendingOutput : ∀ {w : World}, good w → good (w.pendingOutput platform).2
  write : ∀ {w : World} (data : Bytes),
    good w → good (w.onSocket (TlsIo.write platform data)).2
  consumeOutput : ∀ {w : World} (count : Nat), good w → good (w.consumeOutput count)
  outputDrained : ∀ {w : World}, good w → after w.outputDrained
  tearDown : ∀ {w : World}, good w → after (w.tearDown .socket)
  leave : ∀ {w : World}, good w → after w

namespace FlushInvariant

variable {good after : World → Prop}

theorem flushRound (flush : FlushInvariant platform good after) (holds : good w) :
    (flushRound platform w).Meets good after := by
  have output : good (w.pendingOutput platform).2 := flush.pendingOutput holds
  unfold World.flushRound afterWrite
  split_ifs
  · exact flush.leave holds
  · simp only
    split
    · exact flush.outputDrained output
    · exact flush.outputDrained output
    · rename_i data _ _
      have wrote : good ((w.pendingOutput platform).2.onSocket
          (TlsIo.write platform data)).2 := flush.write data output
      split
      · exact flush.consumeOutput _ wrote
      · exact flush.leave wrote
      · exact flush.leave wrote
      · exact flush.tearDown wrote
      · exact flush.tearDown wrote

theorem flushOutput (flush : FlushInvariant platform good after) (holds : good w) :
    after (w.flushOutput platform) :=
  (flushLoop platform).run_invariant (fun _ => flush.flushRound) holds

end FlushInvariant

/-- A property of ready channels that moving bytes keeps, and what becomes of
it when the channel is torn down in between. -/
structure TransferInvariant (good after : World → Prop) : Prop where
  ready : ∀ {w : World}, good w → w.state = .ready
  session : ∀ {w : World}, good w → ∃ session, w.h2 = some session
  onSession : ∀ {w : World} {Answer : Type} {missing : Answer}
    {operation : SessionIo Nat → Answer × List (HookCall Nat) × SessionIo Nat},
    good w → Preserving operation → good (w.onSession missing operation).2
  onSocket : ∀ {w : World} {Answer : Type} {operation : TlsIo → Answer × TlsIo},
    good w → (∀ io, (operation io).2.sock.state = io.sock.state) →
    (∀ io, (operation io).2.sock.fd = io.sock.fd) → good (w.onSocket operation).2
  readClock : ∀ {w : World}, good w → good w.readClock.2
  tearDown : ∀ {w : World} {detail : Detail} {text : Bytes},
    good w → w.resolve detail = some text → after (w.tearDown detail)
  leave : ∀ {w : World}, good w → after w

namespace TransferInvariant

variable {good after : World → Prop} (transfer : TransferInvariant good after)

include transfer

theorem tearDown_session (holds : good w) : after (w.tearDown .session) := by
  obtain ⟨session, present⟩ := transfer.session holds
  have resolved : w.resolve .session = some session.error := by
    simp [resolve, present]
  exact transfer.tearDown holds resolved

theorem outputDrained (holds : good w) : after w.outputDrained := by
  obtain ⟨session, present⟩ := transfer.session holds
  unfold World.outputDrained
  rw [peek_of_some present]
  simp only
  split_ifs
  · exact transfer.tearDown_session holds
  · exact transfer.leave holds

theorem write (holds : good w) (data : Bytes) :
    good (w.onSocket (TlsIo.write platform data)).2 :=
  transfer.onSocket holds (fun io => (TlsIo.write_frame platform data io).1)
    fun io => (TlsIo.write_frame platform data io).2.1

theorem read (holds : good w) (len : Nat) :
    good (w.onSocket (TlsIo.read platform len)).2 :=
  transfer.onSocket holds (fun io => (TlsIo.read_frame platform len io).1)
    fun io => (TlsIo.read_frame platform len io).2.1

theorem receiveBytes (holds : good w) (data : Bytes) :
    good (w.receiveBytes platform data).2 :=
  transfer.onSession (transfer.readClock holds) fun _ kept =>
    kept.receiveBytes platform w.readClock.1 data

theorem checkKeepalive (holds : good w) : good (w.checkKeepalive platform).2 :=
  transfer.onSession (transfer.readClock holds)
    (preserving_quiet (SessionIo.checkKeepalive_same platform w.readClock.1))

theorem flushInvariant : FlushInvariant platform good after where
  pendingOutput := fun holds =>
    transfer.onSession holds fun _ kept => kept.pendingOutput platform
  write := fun data holds => transfer.write holds data
  consumeOutput := fun _ holds => transfer.onSession holds (preserving_quiet fun _ =>
    ⟨⟨fun _ => rfl, rfl, rfl, rfl, rfl⟩, ⟨rfl, rfl⟩⟩)
  outputDrained := transfer.outputDrained
  tearDown := fun holds => transfer.tearDown holds rfl
  leave := transfer.leave

theorem flushOutput (holds : good w) : after (w.flushOutput platform) :=
  transfer.flushInvariant.flushOutput holds

theorem drainRound (holds : good w) :
    (drainRound platform w).Meets good after := by
  have got : good (w.onSocket (TlsIo.read platform 16384)).2 :=
    transfer.read holds 16384
  unfold World.drainRound
  rw [if_neg (not_not.mpr (transfer.ready holds))]
  simp only
  split
  · split_ifs
    · exact transfer.receiveBytes got _
    · exact transfer.tearDown_session (transfer.receiveBytes got _)
  · exact transfer.leave got
  · exact transfer.leave got
  · exact transfer.tearDown got rfl
  · exact transfer.tearDown got rfl

theorem drainSocket (holds : good w) : after (w.drainSocket platform) :=
  (drainLoop platform).run_invariant (fun _ => transfer.drainRound) holds

theorem drainReadable (holds : good w) (revents : Nat) :
    after (w.drainReadable platform revents) := by
  unfold World.drainReadable
  split_ifs
  · exact transfer.drainSocket holds
  · exact transfer.leave holds

end TransferInvariant

/-! ## Relations between the session and the calls -/

/-- A ready channel whose session is in a given relation to the calls, and
which has neither touched its keepalive timer nor submitted a request since it
was `start`. -/
structure Holding (good : Http2Session Nat → CallTable → Prop) (start w : World) :
    Prop where
  state : w.state = .ready
  keepaliveTimer : w.keepaliveTimer = start.keepaliveTimer
  submitRequests : w.ng.submitRequests = start.ng.submitRequests
  session : ∃ session, w.h2 = some session ∧ good session w.table

/-- Still so or, if something went wrong, failed. -/
def HoldingOrFailed (good : Http2Session Nat → CallTable → Prop)
    (start w : World) : Prop :=
  Holding good start w ∨ w.state = .failed

variable {start : World} {good : Http2Session Nat → CallTable → Prop}

theorem HoldingOrFailed.holding (here : HoldingOrFailed good start w)
    (ready : w.state = .ready) : Holding good start w := by
  rcases here with holding | failed
  · exact holding
  · cases ready.symm.trans failed

theorem HoldingOrFailed.whenReady (here : HoldingOrFailed good start w)
    {action : World → World}
    (acts : Holding good start w → HoldingOrFailed good start (action w)) :
    HoldingOrFailed good start (w.whenReady action) := by
  unfold World.whenReady
  split_ifs with ready
  · exact acts (here.holding ready)
  · exact here

/-- What the session's callbacks keep is kept while bytes move. -/
theorem Holding.transfer (kept : SessionInvariant CallTable.hook good) :
    TransferInvariant (Holding good start) (HoldingOrFailed good start) where
  ready := Holding.state
  session := by
    intro w holding
    obtain ⟨session, present, _⟩ := holding.session
    exact ⟨session, present⟩
  onSession := by
    intro w Answer missing operation holding preserving
    obtain ⟨session, present, holds⟩ := holding.session
    obtain ⟨after, requests⟩ := preserving good kept ⟨session, w.ng⟩ w.table holds
    rw [onSession_of_some present]
    exact ⟨holding.state, holding.keepaliveTimer,
      requests.submitRequests.trans holding.submitRequests, ⟨_, rfl, after⟩⟩
  onSocket := fun holding _ _ => { holding with }
  readClock := fun holding => { holding with }
  tearDown := fun holding resolved =>
    .inr (tearDown_spec (by simp [holding.state]) resolved).state
  leave := .inl

end World

end Egrpc
