import Egrpc.CallStateLifecycle
import Egrpc.ChannelImpl
import Egrpc.Http2SessionInvariant
import Egrpc.Support.Ledger

/-!
# A session and the calls it serves

The active calls of a channel are those whose stream is registered with the
session.  Every hook call a session can make keeps it that way, and so does the
submission of a call that was held elsewhere.  A ledger over all calls says
that whoever is not held anywhere any more has its result.
-/

namespace Egrpc

/-- The life of a call. -/
def callLifecycle (maxReceiveMessageSize : Nat) : Lifecycle CallState where
  valid call := call.done = true ↔ call.state = .closed
  done call := call.done = true
  initial := CallState.new maxReceiveMessageSize
  initial_valid := by simp [CallState.new]
  initial_not_done := by simp [CallState.new]

/-- The life of a call on a channel. -/
abbrev ChannelConfig.life (config : ChannelConfig) : Lifecycle CallState :=
  callLifecycle config.options.maxReceiveMessageSize

section

variable {maxReceiveMessageSize : Nat} {items rest handled : List Nat}
  {calls : Nat → CallState} {call : Nat}

theorem ledger_receive
    (ledger : Ledger (callLifecycle maxReceiveMessageSize) items calls handled)
    (member : call ∈ items) (event : StreamEvent) :
    Ledger (callLifecycle maxReceiveMessageSize) items
      (Function.update calls call ((calls call).handle (.stream event)))
      handled := by
  refine ledger.update member (CallState.handle_consistent (ledger.valid call) _) ?_
  have same := (CallState.receive_phase (calls call) event).1
  exact fun done => ledger.waiting call member (same.symm.trans done)

theorem ledger_finish
    (ledger : Ledger (callLifecycle maxReceiveMessageSize) (call :: rest) calls
      handled)
    {event : CallEvent} (closing : event.Closing) :
    Ledger (callLifecycle maxReceiveMessageSize) rest
      (Function.update calls call ((calls call).handle event)) handled :=
  ledger.settle_update (CallState.handle_consistent (ledger.valid call) _)
    (CallState.handle_closing closing (ledger.valid call)).2

end

/-- Taking one entry out of a list without repetitions. -/
theorem perm_cons_filter {active : List Nat} (nodup : active.Nodup) {call : Nat}
    (member : call ∈ active) :
    active.Perm (call :: active.filter (· ≠ call)) := by
  have erased : active.erase call = active.filter (· ≠ call) := by
    rw [nodup.erase_eq_filter]
    apply List.filter_congr
    intro other _
    simp [bne, BEq.beq]
  rw [← erased]
  exact List.perm_cons_erase member

/-- The session serves the active calls: each has one registered stream, with
the hooks made for it, and there are no other streams.  The calls in `held` and
the active ones are the open ones. -/
structure Serving (config : ChannelConfig) (held handled : List Nat)
    (issued : List Int) (session : Http2Session Nat) (table : CallTable) :
    Prop where
  ledger : Ledger config.life (held ++ table.activeCalls) table.calls handled
  owned : ∀ streamId hooks, session.hooksAt streamId = some hooks →
    ∃ call ∈ table.activeCalls, hooks = World.makeStreamHooks call
  served : ∀ call ∈ table.activeCalls, ∃ streamId,
    session.hooksAt streamId = some (World.makeStreamHooks call)
  distinct : ∀ streamId streamId' hooks, session.hooksAt streamId = some hooks →
    session.hooksAt streamId' = some hooks → streamId = streamId'
  counted : session.activeStreams = session.streams.keys.length
  issued : ∀ streamId ∈ session.streams, streamId ∈ issued
  live : session.session = true

namespace Serving

variable {config : ChannelConfig} {held handled : List Nat} {issued : List Int}
  {session session' : Http2Session Nat} {table : CallTable} {call : Nat}

theorem makeStreamHooks_injective {call call' : Nat}
    (same : World.makeStreamHooks call = World.makeStreamHooks call') :
    call = call' := by
  simpa [World.makeStreamHooks] using same

theorem activeCalls_nodup
    (serving : Serving config held handled issued session table) :
    table.activeCalls.Nodup :=
  (List.nodup_append.mp serving.ledger.nodup).2.1

theorem of_same (serving : Serving config held handled issued session table)
    (same : Http2Session.SameStreams session session') :
    Serving config held handled issued session' table where
  ledger := serving.ledger
  owned := fun streamId hooks found =>
    serving.owned streamId hooks (same.hooksAt streamId ▸ found)
  served := by
    intro call member
    obtain ⟨streamId, found⟩ := serving.served call member
    exact ⟨streamId, (same.hooksAt streamId).trans found⟩
  distinct := fun streamId streamId' hooks first second =>
    serving.distinct streamId streamId' hooks (same.hooksAt streamId ▸ first)
      (same.hooksAt streamId' ▸ second)
  counted := by rw [same.activeStreams, same.count, serving.counted]
  issued := by
    intro streamId member
    rw [← Http2Session.hooksAt_isSome, same.hooksAt,
      Http2Session.hooksAt_isSome] at member
    exact serving.issued streamId member
  live := same.live.trans serving.live

theorem deliver (serving : Serving config held handled issued session table)
    (member : call ∈ table.activeCalls) (event : StreamEvent) :
    Serving config held handled issued session
      (table.deliver call (.stream event)) where
  ledger := ledger_receive serving.ledger (List.mem_append_right _ member) event
  owned := serving.owned
  served := serving.served
  distinct := serving.distinct
  counted := serving.counted
  issued := serving.issued
  live := serving.live

/-- A stream closes: its call gets its result and is active no more. -/
theorem close (serving : Serving config held handled issued session table)
    {streamId : Int} {errorCode : Nat} (member : call ∈ table.activeCalls)
    (found : session.hooksAt streamId = some (World.makeStreamHooks call))
    (closed : Http2Session.Unregistered session streamId session') :
    Serving config held handled issued session'
      (table.hook (.close call errorCode)) where
  ledger := by
    have active := perm_cons_filter serving.activeCalls_nodup member
    have order : (held ++ table.activeCalls).Perm
        (call :: (held ++ table.activeCalls.filter (· ≠ call))) :=
      (active.append_left held).trans List.perm_middle
    exact ledger_finish (serving.ledger.perm order) trivial
  owned := by
    intro other hooks foundOther
    rw [closed.hooksAt] at foundOther
    split_ifs at foundOther with same
    obtain ⟨owner, isActive, hooksEq⟩ := serving.owned other hooks foundOther
    refine ⟨owner, List.mem_filter.mpr ⟨isActive, ?_⟩, hooksEq⟩
    have apart : owner ≠ call := by
      intro isCall
      apply same
      rw [hooksEq, isCall] at foundOther
      exact serving.distinct other streamId _ foundOther found
    simpa using apart
  served := by
    intro other member'
    obtain ⟨isActive, apart⟩ := List.mem_filter.mp member'
    obtain ⟨otherId, foundOther⟩ := serving.served other isActive
    refine ⟨otherId, ?_⟩
    rw [closed.hooksAt, if_neg, foundOther]
    intro same
    rw [same, found, Option.some.injEq] at foundOther
    exact of_decide_eq_true apart (makeStreamHooks_injective foundOther).symm
  distinct := by
    intro first second hooks foundFirst foundSecond
    rw [closed.hooksAt] at foundFirst foundSecond
    split_ifs at foundFirst foundSecond
    exact serving.distinct first second hooks foundFirst foundSecond
  counted := by
    have count := closed.count
    rw [closed.activeStreams, serving.counted]
    omega
  issued := by
    intro other member'
    rw [← Http2Session.hooksAt_isSome, closed.hooksAt] at member'
    split_ifs at member' with same
    · cases member'
    · exact serving.issued other ((session.hooksAt_isSome other).mp member')
  live := closed.live.trans serving.live

/-- The relation survives every operation other than a submission. -/
theorem sessionInvariant (config : ChannelConfig) (held handled : List Nat)
    (issued : List Int) :
    SessionInvariant CallTable.hook (Serving config held handled issued) where
  same := fun _ _ _ same serving => serving.of_same same
  event := by
    intro session table streamId hooks hookCall found event serving
    obtain ⟨call, member, rfl⟩ := serving.owned streamId hooks found
    cases event with
    | responseHeaders headers endStream isHook =>
        cases isHook
        exact serving.deliver member (.responseHeaders headers endStream)
    | trailers headers isHook =>
        cases isHook
        exact serving.deliver member (.trailers headers)
    | data bytes isHook =>
        cases isHook
        exact serving.deliver member (.data bytes)
  shared := by
    intro session table hookCall shared serving
    cases hookCall with
    | remoteSettings | settingsAck | pingAck | goaway => exact serving
    | responseHeaders | trailers | data | close => exact shared.elim
  close := by
    intro session session' table streamId hooks errorCode found closed serving
    obtain ⟨call, member, rfl⟩ := serving.owned streamId hooks found
    exact serving.close member found closed

/-- A call that is held has no stream yet. -/
theorem hooksAt_ne_of_held (serving : Serving config held handled issued session table)
    (isHeld : call ∈ held) (streamId : Int) :
    session.hooksAt streamId ≠ some (World.makeStreamHooks call) := by
  intro found
  obtain ⟨owner, isActive, hooksEq⟩ := serving.owned streamId _ found
  have isOwner := makeStreamHooks_injective hooksEq
  have apart := (List.nodup_append.mp serving.ledger.nodup).2.2
  exact apart call isHeld owner isActive isOwner

theorem submit (serving : Serving config (call :: held) handled issued session table)
    {streamId : Int}
    (registered : Http2Session.Registered session streamId
      (World.makeStreamHooks call) session')
    (isNew : streamId ∉ issued) :
    Serving config held handled (issued ++ [streamId]) session'
      { table.deliver call (.stream (.submitted streamId)) with
        activeCalls := table.activeCalls ++ [call] } where
  ledger := by
    have order : (call :: held ++ table.activeCalls).Perm
        (held ++ (table.activeCalls ++ [call])) := by
      rw [← List.append_assoc, List.cons_append]
      exact (List.perm_append_singleton _ _).symm
    exact ledger_receive (serving.ledger.perm order) (by simp)
      (.submitted streamId)
  owned := by
    intro other hooks found
    rw [registered.hooksAt] at found
    split_ifs at found with same
    · cases found
      exact ⟨call, by simp, rfl⟩
    · obtain ⟨owner, isActive, hooksEq⟩ := serving.owned other hooks found
      exact ⟨owner, List.mem_append_left _ isActive, hooksEq⟩
  served := by
    intro other member
    rcases List.mem_append.mp member with isActive | isCall
    · obtain ⟨otherId, found⟩ := serving.served other isActive
      refine ⟨otherId, ?_⟩
      rw [registered.hooksAt, if_neg, found]
      intro same
      apply isNew
      apply serving.issued
      rw [← Http2Session.hooksAt_isSome, ← same, found]
      rfl
    · rw [List.mem_singleton.mp isCall]
      exact ⟨streamId, by rw [registered.hooksAt, if_pos rfl]⟩
  distinct := by
    intro first second hooks foundFirst foundSecond
    -- The new stream is the only one with the hooks of its call.
    have alone := serving.hooksAt_ne_of_held List.mem_cons_self
    rw [registered.hooksAt] at foundFirst foundSecond
    split_ifs at foundFirst foundSecond with firstNew secondNew secondNew
    · rw [firstNew, secondNew]
    · cases foundFirst
      exact absurd foundSecond (alone second)
    · cases foundSecond
      exact absurd foundFirst (alone first)
    · exact serving.distinct first second hooks foundFirst foundSecond
  counted := by
    rw [registered.activeStreams, registered.count, serving.counted]
    simp
  issued := by
    intro other member
    rw [← Http2Session.hooksAt_isSome, registered.hooksAt] at member
    split_ifs at member with same
    · simp [same]
    · exact List.mem_append_left _
        (serving.issued other ((session.hooksAt_isSome other).mp member))
  live := registered.live.trans serving.live

end Serving

end Egrpc
