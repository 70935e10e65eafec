import Egrpc.ChannelHistory
import Egrpc.ChannelSafety
import Egrpc.Http2Streams

/-!
# The transport below a channel

A channel touches its socket and its session from many handlers.  Seen from
below, all of them do one of twelve things, in an order that a channel never
leaves: it connects, opens one session, moves bytes and requests, says goodbye
at most once, and closes.  A `Transport` is that view.  It has no timers, no
queue and no watched descriptor; it remembers the bytes that `SSL_write` took,
the requests that were submitted, and what nghttp2 told about the stream of each
call.

Every event-thread callback of a channel is a sequence of moves of the transport
below it.  What holds of every run of the transport therefore holds of every run
of the channel.
-/

namespace Egrpc

/-- The calls that a callback hands to the channel. -/
def ChannelEvent.posts : ChannelEvent → List PendingCall
  | .newCall pc => [pc]
  | .runDue _ | .pollEvents | .ready _ | .shutdown => []

/-- The calls that a run of callbacks hands to the channel. -/
def ChannelEvent.allPosts (events : List ChannelEvent) : List PendingCall :=
  events.flatMap ChannelEvent.posts

/-! ## The abstract transport -/

/-- What nghttp2 told about the stream of a call since its request. -/
structure Reply where
  streamId : Int
  body : Bytes
  callbacks : List NgCallback := []

/-- Callbacks with the stream's id belong to the reply. -/
def Reply.hear (callbacks : List NgCallback) (reply : Reply) : Reply :=
  { reply with
    callbacks := reply.callbacks ++
      callbacks.filter (·.streamId? = some reply.streamId) }

/-- The callbacks that nghttp2 made during an operation: those of the answers that
were used up. -/
def SessionIo.heard {Hook : Type} (before after : SessionIo Hook) : List NgCallback :=
  (before.env.memSends.take (before.env.memSends.length -
      after.env.memSends.length)).flatMap MemSend.callbacks ++
    (before.env.memRecvs.take (before.env.memRecvs.length -
      after.env.memRecvs.length)).flatMap MemRecv.callbacks

inductive Transport.Phase
  | unused
  | connecting
  | serving
  /-- A GOAWAY was queued, or the session could not be set up. -/
  | parting
  | finished
  deriving DecidableEq, Repr

/-- What a transport remembers: the submitted requests and the replies to them. -/
structure Transport.Record where
  submitted : List PendingCall := []
  replies : Nat → Option Reply := fun _ => none

/-- A socket and a session with their surroundings, and the calls that the
session's hooks act on. -/
structure Transport extends Transport.Record where
  phase : Transport.Phase
  sock : TlsSocket
  tls : TlsEnv
  h2 : Option (Http2Session Nat)
  ng : NgEnv
  table : CallTable

inductive Transport.Move
  | startConnect
  | continueConnect
  | openSession (now : Int)
  | submit (pc : PendingCall)
  | checkKeepalive (now : Int)
  | wantWrite
  /-- `PendingOutput`, a write of what it returned, and `ConsumeOutput`. -/
  | send
  /-- A read, and `ReceiveBytes` if it returned something. -/
  | receive (now : Int)
  | terminate
  | close
  /-- `FailLocal` on a call. -/
  | failCall (message : Bytes) (call : Nat)
  /-- The references to the active calls are dropped. -/
  | release

namespace Transport

def onSocket (operation : TlsIo → TlsIo) (t : Transport) : Transport :=
  let io := operation ⟨t.sock, t.tls⟩
  { t with sock := io.sock, tls := io.env }

/-- Operate on the session, if there is one, with something that calls no hook. -/
def onSession (operation : SessionIo Nat → SessionIo Nat) (t : Transport) :
    Transport :=
  match t.h2 with
  | none => t
  | some session =>
      let io := operation ⟨session, t.ng⟩
      { t with h2 := some io.session, ng := io.env }

/-- After an operation on the session: the hooks that it calls act on the calls. -/
def listen (before : SessionIo Nat) (done : List (HookCall Nat) × SessionIo Nat)
    (t : Transport) : Transport :=
  { t with
    h2 := some done.2.session
    ng := done.2.env
    table := t.table.hooks done.1
    replies := fun call => (t.replies call).map (Reply.hear (before.heard done.2)) }

/-- Submit a request; a call whose request is refused fails. -/
def submit (platform : Platform) (config : ChannelConfig) (pc : PendingCall)
    (t : Transport) : Transport :=
  match t.h2 with
  | none => t
  | some session =>
      let done := World.submitRequest platform config pc ⟨session, t.ng⟩
      let t := { t with
        h2 := some done.2.session
        ng := done.2.env
        submitted := t.submitted ++ [pc] }
      if done.1 < 0 then
        { t with
          table := t.table.deliver pc.call (.failLocal .unavailable done.2.session.error) }
      else
        { t with
          table := (t.table.deliver pc.call (.stream (.submitted done.1))).activate pc.call
          replies := Function.update t.replies pc.call
            (some { streamId := done.1, body := pc.framedBody }) }

/-- Offer the session's output to the socket once. -/
def send (platform : Platform) (t : Transport) : Transport :=
  match t.h2 with
  | none => t
  | some session =>
      let before : SessionIo Nat := ⟨session, t.ng⟩
      let output := before.pendingOutput platform
      let t := t.listen before output.2
      match output.1 with
      | none | some [] => t
      | some data =>
          let wrote := TlsIo.write platform data ⟨t.sock, t.tls⟩
          let t := { t with sock := wrote.2.sock, tls := wrote.2.env }
          if wrote.1.1 = .ok then
            { t with h2 := some (output.2.2.session.consumeOutput wrote.1.2) }
          else t

/-- Feed bytes to the session, if there is one. -/
def feed (platform : Platform) (now : Int) (data : Bytes) (t : Transport) : Transport :=
  match t.h2 with
  | none => t
  | some session =>
      let before : SessionIo Nat := ⟨session, t.ng⟩
      t.listen before (before.receiveBytes platform now data).2

def receive (platform : Platform) (now : Int) (t : Transport) : Transport :=
  let got := TlsIo.read platform 16384 ⟨t.sock, t.tls⟩
  let t := { t with sock := got.2.sock, tls := got.2.env }
  if got.1.1 = .ok then t.feed platform now got.1.2 else t

def move (platform : Platform) (config : ChannelConfig) (t : Transport) :
    Transport.Move → Transport
  | .startConnect =>
      { t.onSocket fun io =>
          (TlsIo.startConnect platform config.host config.port config.tls io).2 with
        phase := .connecting }
  | .continueConnect => t.onSocket fun io => (io.continueConnect platform).2
  | .openSession now =>
      let io := SessionIo.new platform config.options.http2 { onGoaway := true } now t.ng
      { t with
        phase := if io.session.session then .serving else .parting
        h2 := some io.session
        ng := io.env }
  | .submit pc => t.submit platform config pc
  | .checkKeepalive now => t.onSession fun io => (io.checkKeepalive platform now).2
  | .wantWrite => t.onSession fun io => io.wantWrite.2
  | .send => t.send platform
  | .receive now => t.receive platform now
  | .terminate => { t.onSession SessionIo.terminate with phase := .parting }
  | .close => { t.onSocket TlsIo.close with phase := .finished, h2 := none }
  | .failCall message call =>
      { t with table := t.table.deliver call (.failLocal .unavailable message) }
  | .release => { t with table.activeCalls := [] }

/-- The order of the moves. -/
def Admits (t : Transport) : Transport.Move → Prop
  | .startConnect => t.phase = .unused
  | .continueConnect => t.phase = .connecting
  | .openSession _ => t.phase = .connecting ∧ t.sock.state = .connected
  | .submit pc => t.phase = .serving ∧ pc.call ∉ t.submitted.map PendingCall.call
  | .checkKeepalive _ | .wantWrite | .receive _ | .terminate => t.phase = .serving
  | .send => t.phase = .serving ∨ t.phase = .parting
  | .close | .failCall _ _ | .release => True

/-- A transport that has not been used, or never will be. -/
structure Fresh (config : ChannelConfig) (tls : TlsEnv) (ng : NgEnv) (t : Transport) :
    Prop where
  phase : t.phase = .unused ∨ t.phase = .finished
  sock : t.sock = {}
  tls : t.tls = tls
  h2 : t.h2 = none
  ng : t.ng = ng
  calls : ∀ call, t.table.calls call = CallState.new config.options.maxReceiveMessageSize
  record : t.toRecord = {}

/-- The transports that some sequence of moves reaches. -/
abbrev Reachable (platform : Platform) (config : ChannelConfig) (tls : TlsEnv)
    (ng : NgEnv) : Transport → Prop :=
  Runs.Reach (move platform config) Admits (Fresh config tls ng)

variable {platform : Platform} {config : ChannelConfig} {tls : TlsEnv} {ng : NgEnv}
  {t : Transport}

theorem onSession_of_some {operation : SessionIo Nat → SessionIo Nat}
    {session : Http2Session Nat} (present : t.h2 = some session) :
    t.onSession operation =
      { t with
        h2 := some (operation ⟨session, t.ng⟩).session
        ng := (operation ⟨session, t.ng⟩).env } := by
  simp only [onSession, present]

theorem submit_refused {pc : PendingCall} {session : Http2Session Nat}
    (present : t.h2 = some session)
    (refused : (World.submitRequest platform config pc ⟨session, t.ng⟩).1 < 0) :
    t.submit platform config pc =
      let done := World.submitRequest platform config pc ⟨session, t.ng⟩
      { t with
        h2 := some done.2.session
        ng := done.2.env
        table := t.table.deliver pc.call (.failLocal .unavailable done.2.session.error)
        submitted := t.submitted ++ [pc] } := by
  simp only [submit, present, if_pos refused]

theorem submit_accepted {pc : PendingCall} {session : Http2Session Nat}
    (present : t.h2 = some session)
    (accepted : ¬ (World.submitRequest platform config pc ⟨session, t.ng⟩).1 < 0) :
    t.submit platform config pc =
      let done := World.submitRequest platform config pc ⟨session, t.ng⟩
      { t with
        h2 := some done.2.session
        ng := done.2.env
        table := (t.table.deliver pc.call (.stream (.submitted done.1))).activate pc.call
        submitted := t.submitted ++ [pc]
        replies := Function.update t.replies pc.call
          (some { streamId := done.1, body := pc.framedBody }) } := by
  simp only [submit, present, if_neg accepted]

section

variable {session : Http2Session Nat} {data : Bytes}

theorem send_nothing (present : t.h2 = some session)
    (nothing : (SessionIo.pendingOutput platform ⟨session, t.ng⟩).1 = none ∨
      (SessionIo.pendingOutput platform ⟨session, t.ng⟩).1 = some []) :
    t.send platform =
      t.listen ⟨session, t.ng⟩ (SessionIo.pendingOutput platform ⟨session, t.ng⟩).2 := by
  rcases nothing with none | empty
  · simp only [send, present, none]
  · simp only [send, present, empty]

theorem send_written (present : t.h2 = some session)
    (offered : (SessionIo.pendingOutput platform ⟨session, t.ng⟩).1 = some data)
    (nonempty : data ≠ [])
    (written : (TlsIo.write platform data ⟨t.sock, t.tls⟩).1.1 = .ok) :
    t.send platform =
      let output := (SessionIo.pendingOutput platform ⟨session, t.ng⟩).2
      let wrote := TlsIo.write platform data ⟨t.sock, t.tls⟩
      { t.listen ⟨session, t.ng⟩ output with
        sock := wrote.2.sock
        tls := wrote.2.env
        h2 := some (output.2.session.consumeOutput wrote.1.2) } := by
  cases data with
  | nil => exact absurd rfl nonempty
  | cons byte data =>
      simp only [send, present, offered]
      exact if_pos written

theorem send_blocked (present : t.h2 = some session)
    (offered : (SessionIo.pendingOutput platform ⟨session, t.ng⟩).1 = some data)
    (nonempty : data ≠ [])
    (blocked : (TlsIo.write platform data ⟨t.sock, t.tls⟩).1.1 ≠ .ok) :
    t.send platform =
      let wrote := TlsIo.write platform data ⟨t.sock, t.tls⟩
      { t.listen ⟨session, t.ng⟩
          (SessionIo.pendingOutput platform ⟨session, t.ng⟩).2 with
        sock := wrote.2.sock
        tls := wrote.2.env } := by
  cases data with
  | nil => exact absurd rfl nonempty
  | cons byte data =>
      simp only [send, present, offered]
      exact if_neg blocked

theorem send_cases (platform : Platform) (present : t.h2 = some session) :
    t.send platform = t.listen ⟨session, t.ng⟩
        (SessionIo.pendingOutput platform ⟨session, t.ng⟩).2 ∨
      ∃ data, (SessionIo.pendingOutput platform ⟨session, t.ng⟩).1 = some data ∧
        let output := (SessionIo.pendingOutput platform ⟨session, t.ng⟩).2
        let wrote := TlsIo.write platform data ⟨t.sock, t.tls⟩
        (wrote.1.1 ≠ .ok ∧ t.send platform =
            { t.listen ⟨session, t.ng⟩ output with
              sock := wrote.2.sock
              tls := wrote.2.env }) ∨
          t.send platform =
            { t.listen ⟨session, t.ng⟩ output with
              sock := wrote.2.sock
              tls := wrote.2.env
              h2 := some (output.2.session.consumeOutput wrote.1.2) } := by
  cases offered : (SessionIo.pendingOutput platform ⟨session, t.ng⟩).1 with
  | none => exact .inl (send_nothing present (.inl offered))
  | some data =>
      by_cases empty : data = []
      · exact .inl (send_nothing present (.inr (empty ▸ offered)))
      · right
        refine ⟨data, rfl, ?_⟩
        by_cases written : (TlsIo.write platform data ⟨t.sock, t.tls⟩).1.1 = .ok
        · exact .inr (send_written present offered empty written)
        · exact .inl ⟨written, send_blocked present offered empty written⟩

theorem receive_cases (platform : Platform) (now : Int) (present : t.h2 = some session) :
    let got := TlsIo.read platform 16384 ⟨t.sock, t.tls⟩
    (got.1.1 = .ok ∧ t.receive platform now =
      { t.listen ⟨session, t.ng⟩
          (SessionIo.receiveBytes platform now got.1.2 ⟨session, t.ng⟩).2 with
        sock := got.2.sock
        tls := got.2.env }) ∨
    (got.1.1 ≠ .ok ∧ t.receive platform now =
      { t with sock := got.2.sock, tls := got.2.env }) := by
  intro got
  by_cases ok : got.1.1 = .ok
  · left
    refine ⟨ok, ?_⟩
    simp only [receive, feed, present]
    exact if_pos ok
  · exact .inr ⟨ok, if_neg ok⟩

end

theorem onSession_frame (operation : SessionIo Nat → SessionIo Nat) (t : Transport) :
    (t.onSession operation).phase = t.phase ∧
      (t.onSession operation).h2.isSome = t.h2.isSome := by
  unfold onSession
  split
  · exact ⟨rfl, rfl⟩
  · rename_i session present
    rw [present]
    exact ⟨rfl, rfl⟩

theorem submit_frame (platform : Platform) (config : ChannelConfig) (pc : PendingCall)
    (t : Transport) :
    (t.submit platform config pc).phase = t.phase ∧
      (t.submit platform config pc).h2.isSome = t.h2.isSome := by
  unfold submit
  split
  · exact ⟨rfl, rfl⟩
  · rename_i session present
    rw [present]
    simp only
    split_ifs <;> exact ⟨rfl, rfl⟩

theorem send_frame (platform : Platform) (t : Transport) :
    (t.send platform).phase = t.phase ∧ (t.send platform).h2.isSome = t.h2.isSome := by
  cases present : t.h2 with
  | none =>
      have same : t.send platform = t := by simp only [send, present]
      rw [same, present]
      exact ⟨rfl, rfl⟩
  | some session =>
      rcases send_cases platform present with
        nothing | ⟨data, _, ⟨-, blocked⟩ | written⟩
      · rw [nothing]
        exact ⟨rfl, rfl⟩
      · rw [blocked]
        exact ⟨rfl, rfl⟩
      · rw [written]
        exact ⟨rfl, rfl⟩

theorem feed_frame (platform : Platform) (now : Int) (data : Bytes) (t : Transport) :
    (t.feed platform now data).phase = t.phase ∧
      (t.feed platform now data).h2.isSome = t.h2.isSome := by
  unfold feed
  split
  · exact ⟨rfl, rfl⟩
  · rename_i session present
    rw [present]
    exact ⟨rfl, rfl⟩

theorem receive_frame (platform : Platform) (now : Int) (t : Transport) :
    (t.receive platform now).phase = t.phase ∧
      (t.receive platform now).h2.isSome = t.h2.isSome := by
  unfold receive
  simp only
  split_ifs
  · exact feed_frame _ _ _ _
  · exact ⟨rfl, rfl⟩

/-- There is a session exactly while the transport serves or parts. -/
def HasSession (t : Transport) : Prop :=
  t.h2.isSome = true ↔ t.phase = .serving ∨ t.phase = .parting

theorem HasSession.of_frame (holds : t.HasSession) {t' : Transport}
    (frame : t'.phase = t.phase ∧ t'.h2.isSome = t.h2.isSome) : t'.HasSession := by
  rw [HasSession, frame.1, frame.2]
  exact holds

theorem HasSession.step (holds : t.HasSession) {action : Transport.Move}
    (admits : t.Admits action) : (t.move platform config action).HasSession := by
  cases action with
  | startConnect =>
      have unused : t.phase = .unused := admits
      have none : t.h2.isSome = false := by simpa [HasSession, unused] using holds
      simp [HasSession, Transport.move, onSocket, none]
  | continueConnect => exact holds
  | openSession now =>
      simp only [HasSession, Transport.move, Option.isSome_some, true_iff]
      split_ifs
      · exact .inl rfl
      · exact .inr rfl
  | submit pc => exact holds.of_frame (submit_frame platform config pc t)
  | checkKeepalive now => exact holds.of_frame (onSession_frame _ t)
  | wantWrite => exact holds.of_frame (onSession_frame _ t)
  | send => exact holds.of_frame (send_frame platform t)
  | receive now => exact holds.of_frame (receive_frame platform now t)
  | terminate =>
      have serving : t.phase = .serving := admits
      have present : t.h2.isSome = true := holds.mpr (.inl serving)
      have same := (onSession_frame SessionIo.terminate t).2
      simp [HasSession, Transport.move, same, present]
  | close => simp [HasSession, Transport.move]
  | failCall message call => exact holds
  | release => exact holds

theorem Fresh.hasSession (fresh : t.Fresh config tls ng) : t.HasSession := by
  rcases fresh.phase with phase | phase <;> simp [HasSession, fresh.h2, phase]

/-- The transports that moves reach from `start`. -/
def ReachedFrom (platform : Platform) (config : ChannelConfig) (start : Transport → Prop)
    (t : Transport) : Prop :=
  Runs.Reach (move platform config) Admits start t ∧ t.HasSession

variable {start : Transport → Prop}

theorem ReachedFrom.move (reached : ReachedFrom platform config start t)
    (action : Transport.Move) (admits : t.Admits action) :
    ReachedFrom platform config start (t.move platform config action) :=
  ⟨.next reached.1 admits, reached.2.step admits⟩

theorem ReachedFrom.session (reached : ReachedFrom platform config start t)
    (phase : t.phase = .serving ∨ t.phase = .parting) : ∃ session, t.h2 = some session :=
  Option.isSome_iff_exists.mp (reached.2.mpr phase)

end Transport

/-! ## The transport of a world -/

/-- The stage of the transport below a channel between two callbacks. -/
def ChannelImpl.State.phase : ChannelImpl.State → Transport.Phase
  | .idle => .unused
  | .connecting => .connecting
  | .ready => .serving
  | .failed | .shutdown => .finished

namespace World

/-- The transport below a world, with what a world does not remember. -/
def transport (w : World) (phase : Transport.Phase) (record : Transport.Record) :
    Transport :=
  { record with
    phase := phase
    sock := w.sock
    tls := w.tls
    h2 := w.h2
    ng := w.ng
    table := w.table }

/-- Of the calls posted so far, all of them different, all but `rest` were
submitted, in their order. -/
structure Accounted (posted rest : List PendingCall) (record : Transport.Record) :
    Prop where
  all : record.submitted ++ rest = posted
  distinct : (posted.map PendingCall.call).Nodup

/-- The transport below a world is reachable, and the posted calls are accounted
for. -/
def Moved (platform : Platform) (config : ChannelConfig) (start : Transport → Prop)
    (posted rest : List PendingCall) (phase : Transport.Phase) (w : World) : Prop :=
  ∃ record,
    Transport.ReachedFrom platform config start (w.transport phase record) ∧
      Accounted posted rest record

/-- The transport is closed; the calls that were submitted were posted first. -/
def Gone (platform : Platform) (config : ChannelConfig) (start : Transport → Prop)
    (posted : List PendingCall) (w : World) : Prop :=
  ∃ record,
    Transport.ReachedFrom platform config start (w.transport .finished record) ∧
      record.submitted <+: posted

/-- A ready channel over a serving transport. -/
structure OnServing (platform : Platform) (config : ChannelConfig) (start : Transport → Prop)
    (posted rest : List PendingCall) (w : World) : Prop where
  ready : w.state = .ready
  moved : w.Moved platform config start posted rest .serving

/-- Still so or, if something went wrong, failed and over a closed transport. -/
def ServingOrGone (platform : Platform) (config : ChannelConfig) (start : Transport → Prop)
    (posted rest : List PendingCall) (w : World) : Prop :=
  w.OnServing platform config start posted rest ∨
    w.state = .failed ∧ w.Gone platform config start posted

/-- What a channel between two callbacks is to its transport. -/
def Tracked (platform : Platform) (config : ChannelConfig) (start : Transport → Prop)
    (posted : List PendingCall) (w : World) : Prop :=
  (w.state ≠ .failed ∧ w.state ≠ .shutdown) ∧
      w.Moved platform config start posted w.pendingCalls w.state.phase ∨
    (w.state = .failed ∨ w.state = .shutdown) ∧ w.Gone platform config start posted

variable {platform : Platform} {config : ChannelConfig} {start : Transport → Prop}
  {w w' : World} {posted rest : List PendingCall} {phase : Transport.Phase}
  {pc : PendingCall}

theorem Moved.same (moved : w.Moved platform config start posted rest phase)
    (same : ∀ phase record, w'.transport phase record = w.transport phase record) :
    w'.Moved platform config start posted rest phase := by
  obtain ⟨record, reached, accounted⟩ := moved
  exact ⟨record, (same phase record).symm ▸ reached, accounted⟩

theorem Gone.same (gone : w.Gone platform config start posted)
    (same : ∀ phase record, w'.transport phase record = w.transport phase record) :
    w'.Gone platform config start posted := by
  obtain ⟨record, reached, accounted⟩ := gone
  exact ⟨record, (same _ record).symm ▸ reached, accounted⟩

/-- A call that comes too late is not submitted. -/
theorem Gone.post (gone : w.Gone platform config start posted)
    (late : List PendingCall) : w.Gone platform config start (posted ++ late) := by
  obtain ⟨record, reached, accounted⟩ := gone
  exact ⟨record, reached, accounted.trans (List.prefix_append posted late)⟩

theorem Moved.close (moved : w.Moved platform config start posted rest phase) :
    w.closeSocket.resetSession.Gone platform config start posted := by
  obtain ⟨record, reached, accounted⟩ := moved
  exact ⟨record, reached.move .close trivial,
    accounted.all ▸ List.prefix_append record.submitted rest⟩

theorem Gone.close (gone : w.Gone platform config start posted) :
    w.closeSocket.resetSession.Gone platform config start posted := by
  obtain ⟨record, reached, accounted⟩ := gone
  exact ⟨record, reached.move .close trivial, accounted⟩

theorem Moved.session (moved : w.Moved platform config start posted rest phase)
    (here : phase = .serving ∨ phase = .parting) : ∃ session, w.h2 = some session := by
  obtain ⟨record, reached, _⟩ := moved
  exact reached.session here

/-! ## Failing calls -/

theorem Moved.failCall (moved : w.Moved platform config start posted rest phase)
    (message : Bytes) (call : Nat) :
    (w.failCall message call).Moved platform config start posted rest phase := by
  obtain ⟨record, reached, accounted⟩ := moved
  exact ⟨record, reached.move (.failCall message call) trivial, accounted⟩

theorem Gone.failCall (gone : w.Gone platform config start posted)
    (message : Bytes) (call : Nat) :
    (w.failCall message call).Gone platform config start posted := by
  obtain ⟨record, reached, accounted⟩ := gone
  exact ⟨record, reached.move (.failCall message call) trivial, accounted⟩

/-- What no failing call disturbs is not disturbed when all of them fail. -/
theorem failAllCalls_keeps {good : World → Prop} {fail : World → Nat → World}
    (fails : ∀ w call, good w → good (fail w call))
    (released : ∀ w : World, good w → good { w with activeCalls := [] })
    (emptied : ∀ w : World, good w → good { w with pendingCalls := [] }) (here : good w) :
    good (w.failAllCalls fail) := by
  have all (calls : List Nat) (w : World) (here : good w) : good (calls.foldl fail w) := by
    induction calls generalizing w with
    | nil => exact here
    | cons call calls ih => exact ih _ (fails w call here)
  unfold failAllCalls
  exact all _ _ (emptied _ (all _ _ (released w here)))

theorem readDetail_transport (detail : Detail) (w : World) (phase : Transport.Phase)
    (record : Transport.Record) :
    (w.readDetail detail).2.transport phase record = w.transport phase record := by
  unfold readDetail
  split <;> rfl

theorem Gone.failAllCalls (gone : w.Gone platform config start posted)
    (detail : Detail) :
    (w.failAllCalls (failCallWith detail)).Gone platform config start posted := by
  refine failAllCalls_keeps ?_ ?_ ?_ gone
  · intro w call gone
    have read : (w.readDetail detail).2.Gone platform config start posted :=
      gone.same (readDetail_transport detail w)
    exact read.failCall _ call
  · rintro w ⟨record, reached, accounted⟩
    exact ⟨record, reached.move .release trivial, accounted⟩
  · exact fun w gone => gone.same fun _ _ => rfl

theorem Moved.tearDown (moved : w.Moved platform config start posted rest phase)
    (ongoing : ¬ (w.state = .failed ∨ w.state = .shutdown)) (detail : Detail) :
    (w.tearDown detail).state = .failed ∧
      (w.tearDown detail).Gone platform config start posted := by
  have recorded : (w.recordFailure detail).state = .failed := by
    unfold recordFailure readDetail
    simp only
    split <;> rfl
  have closed : (w.recordFailure detail).cancelTimersAndUnwatch.Moved platform config
      start posted rest phase :=
    moved.same fun phase record => readDetail_transport detail _ phase record
  obtain ⟨calls, freed, failed, _⟩ := failAllCalls_eq detail
    (w.recordFailure detail).cancelTimersAndUnwatch.closeSocket.resetSession
  rw [World.tearDown, if_neg ongoing]
  refine ⟨?_, closed.close.failAllCalls detail⟩
  simp only
  rw [failed]
  exact recorded

theorem OnServing.tearDown (here : w.OnServing platform config start posted rest)
    (detail : Detail) :
    (w.tearDown detail).ServingOrGone platform config start posted rest :=
  .inr (here.moved.tearDown (by simp [here.ready]) detail)

/-! ## Moving bytes -/

theorem onSession_state {Answer : Type} (missing : Answer)
    (operation : SessionIo Nat → Answer × List (HookCall Nat) × SessionIo Nat)
    (w : World) : (w.onSession missing operation).2.state = w.state := by
  unfold World.onSession
  split <;> rfl

/-- A quiet operation on the session that is one move. -/
theorem OnServing.onSessionQuietly (here : w.OnServing platform config start posted rest)
    {Answer : Type} {missing : Answer} {operation : SessionIo Nat → Answer × SessionIo Nat}
    (action : Transport.Move)
    (isMove : ∀ t : Transport, t.move platform config action =
      t.onSession fun io => (operation io).2)
    (admits : ∀ t : Transport, t.phase = .serving → t.Admits action) :
    (w.onSessionQuietly missing operation).2.OnServing platform config start posted
      rest := by
  obtain ⟨session, present⟩ := here.moved.session (.inl rfl)
  obtain ⟨record, reached, accounted⟩ := here.moved
  have next := reached.move action (admits _ rfl)
  rw [isMove, Transport.onSession_of_some (t := w.transport .serving record) present] at next
  refine ⟨(onSession_state _ _ _).trans here.ready, ?_⟩
  rw [World.onSessionQuietly_of_some present]
  exact ⟨record, next, accounted⟩

/-- Output that is offered to the socket is one move, whether or not it is
accepted. -/
theorem Moved.send (moved : w.Moved platform config start posted rest phase)
    (here : phase = .serving ∨ phase = .parting) {data : Bytes}
    (offered : (w.pendingOutput platform).1 = some data) (nonempty : data ≠ [])
    {wrote : (IoStatus × Nat) × World}
    (written : (w.pendingOutput platform).2.onSocket (TlsIo.write platform data) = wrote) :
    (wrote.1.1 = .ok → (wrote.2.consumeOutput wrote.1.2).Moved platform config start
      posted rest phase) ∧
    (wrote.1.1 ≠ .ok → wrote.2.Moved platform config start posted rest phase) := by
  obtain ⟨session, present⟩ := moved.session here
  obtain ⟨record, reached, accounted⟩ := moved
  have next := reached.move .send here
  have output : w.pendingOutput platform = _ := World.onSession_of_some present
  rw [output] at offered written
  subst written
  constructor
  · intro ok
    simp only [Transport.move] at next
    rw [Transport.send_written (t := w.transport phase record) present offered nonempty ok]
      at next
    exact ⟨_, next, accounted.all, accounted.distinct⟩
  · intro failed
    simp only [Transport.move] at next
    rw [Transport.send_blocked (t := w.transport phase record) present offered nonempty
      failed] at next
    exact ⟨_, next, accounted.all, accounted.distinct⟩

/-- Asking for output that is not there is a move as well. -/
theorem Moved.send_nothing (moved : w.Moved platform config start posted rest phase)
    (here : phase = .serving ∨ phase = .parting)
    (nothing : (w.pendingOutput platform).1 = none ∨
      (w.pendingOutput platform).1 = some []) :
    (w.pendingOutput platform).2.Moved platform config start posted rest phase := by
  obtain ⟨session, present⟩ := moved.session here
  obtain ⟨record, reached, accounted⟩ := moved
  have next := reached.move .send here
  have output : w.pendingOutput platform = _ := World.onSession_of_some present
  rw [output] at nothing ⊢
  simp only [Transport.move] at next
  rw [Transport.send_nothing (t := w.transport phase record) present nothing] at next
  exact ⟨_, next, accounted.all, accounted.distinct⟩

theorem OnServing.outputDrained (here : w.OnServing platform config start posted rest) :
    w.outputDrained.ServingOrGone platform config start posted rest := by
  obtain ⟨session, present⟩ := here.moved.session (.inl rfl)
  unfold World.outputDrained
  rw [peek_of_some present]
  simp only
  split_ifs
  · exact here.tearDown .session
  · exact .inl here

theorem OnServing.flushRound (here : w.OnServing platform config start posted rest) :
    (flushRound platform w).Meets (OnServing platform config start posted rest)
      (ServingOrGone platform config start posted rest) := by
  have stillReady : (w.pendingOutput platform).2.state = .ready :=
    (onSession_state _ _ _).trans here.ready
  unfold World.flushRound
  rw [if_neg (not_not.mpr here.ready)]
  simp only
  split
  · rename_i none
    exact OnServing.outputDrained
      ⟨stillReady, here.moved.send_nothing (.inl rfl) (.inl none)⟩
  · rename_i empty
    exact OnServing.outputDrained
      ⟨stillReady, here.moved.send_nothing (.inl rfl) (.inr empty)⟩
  · rename_i data nonempty offered
    obtain ⟨accepted, refused⟩ := here.moved.send (.inl rfl) offered nonempty rfl
    have refusedHere (notOk : ((w.pendingOutput platform).2.onSocket
        (TlsIo.write platform data)).1.1 ≠ .ok) :
        ((w.pendingOutput platform).2.onSocket (TlsIo.write platform data)).2.OnServing
          platform config start posted rest := ⟨stillReady, refused notOk⟩
    unfold afterWrite
    split
    · rename_i ok
      exact ⟨(onSession_state _ _ _).trans stillReady, accepted ok⟩
    · rename_i wants
      exact .inl (refusedHere (by simp [wants]))
    · rename_i wants
      exact .inl (refusedHere (by simp [wants]))
    · rename_i ended
      exact (refusedHere (by simp [ended])).tearDown .socket
    · rename_i failed
      exact (refusedHere (by simp [failed])).tearDown .socket

theorem OnServing.flushOutput (here : w.OnServing platform config start posted rest) :
    (w.flushOutput platform).ServingOrGone platform config start posted rest :=
  (flushLoop platform).run_invariant (fun _ => OnServing.flushRound) here

/-- A read that returns bytes is one move with the bytes it feeds to the session. -/
theorem OnServing.receive (here : w.OnServing platform config start posted rest)
    {got : (IoStatus × Bytes) × World}
    (read : w.onSocket (TlsIo.read platform 16384) = got) :
    (got.1.1 = .ok → (got.2.receiveBytes platform got.1.2).2.OnServing platform config
      start posted rest) ∧
    (got.1.1 ≠ .ok → got.2.OnServing platform config start posted rest) := by
  obtain ⟨session, present⟩ := here.moved.session (.inl rfl)
  obtain ⟨record, reached, accounted⟩ := here.moved
  have next := reached.move (.receive got.2.readClock.1) rfl
  simp only [Transport.move, Transport.receive, Transport.feed, transport, present] at next
  subst read
  constructor
  · intro ok
    simp only [onSocket] at ok
    rw [if_pos ok] at next
    have later : (w.onSocket (TlsIo.read platform 16384)).2.readClock.2.h2 =
      some session := present
    refine ⟨(onSession_state _ _ _).trans here.ready, ?_⟩
    rw [World.receiveBytes, World.onSession_of_some later]
    exact ⟨_, next, accounted.all, accounted.distinct⟩
  · intro failed
    simp only [onSocket] at failed
    rw [if_neg failed, ← present] at next
    exact ⟨here.ready, record, next, accounted⟩

theorem OnServing.drainRound (here : w.OnServing platform config start posted rest) :
    (drainRound platform w).Meets (OnServing platform config start posted rest)
      (ServingOrGone platform config start posted rest) := by
  obtain ⟨received, nothing⟩ := here.receive rfl
  unfold World.drainRound
  rw [if_neg (not_not.mpr here.ready)]
  simp only
  split
  · rename_i ok
    split_ifs
    · exact received ok
    · exact (received ok).tearDown .session
  · rename_i wants
    exact .inl (nothing (by simp [wants]))
  · rename_i wants
    exact .inl (nothing (by simp [wants]))
  · rename_i ended
    exact (nothing (by simp [ended])).tearDown _
  · rename_i failed
    exact (nothing (by simp [failed])).tearDown .socket

theorem OnServing.drainReadable (here : w.OnServing platform config start posted rest)
    (revents : Nat) :
    (w.drainReadable platform revents).ServingOrGone platform config start posted
      rest := by
  unfold World.drainReadable
  split_ifs
  · exact (drainLoop platform).run_invariant (fun _ => OnServing.drainRound) here
  · exact .inl here

theorem ServingOrGone.whenReady (here : w.ServingOrGone platform config start posted rest)
    {action : World → World}
    (acts : w.OnServing platform config start posted rest →
      (action w).ServingOrGone platform config start posted rest) :
    (w.whenReady action).ServingOrGone platform config start posted rest := by
  unfold World.whenReady
  rcases here with serving | ⟨failed, gone⟩
  · rw [if_pos serving.ready]
    exact acts serving
  · rw [if_neg (by simp [failed])]
    exact .inr ⟨failed, gone⟩

/-! ## Keepalive -/

/-- A channel in its ready state has no queue. -/
theorem ServingOrGone.tracked (here : w.ServingOrGone platform config start posted [])
    (live : w.LiveOrFailed config [] []) :
    w.Tracked platform config start posted := by
  rcases here with serving | ⟨failed, gone⟩
  · rcases live with live | ⟨failed, _⟩
    · left
      rw [serving.ready, live.pendingCalls]
      exact ⟨by decide, serving.moved⟩
    · cases failed.symm.trans serving.ready
  · exact .inr ⟨.inl failed, gone⟩

theorem ServingOrGone.rearmKeepalive
    (here : w.ServingOrGone platform config start posted rest) :
    (w.rearmKeepalive platform).ServingOrGone platform config start posted rest := by
  unfold World.rearmKeepalive
  rcases here with serving | ⟨failed, gone⟩
  · obtain ⟨session, present⟩ := serving.moved.session (.inl rfl)
    have later : w.cancelKeepaliveTimer.readClock.2.h2 = some session := present
    rw [if_neg (by simp [serving.ready, present])]
    simp only
    rw [peek_of_some later]
    left
    cases session.nextKeepaliveDeadline with
    | none => exact ⟨serving.ready, serving.moved.same fun _ _ => rfl⟩
    | some due => exact ⟨serving.ready, serving.moved.same fun _ _ => rfl⟩
  · rw [if_pos (.inl (by simp [failed]))]
    exact .inr ⟨failed, gone⟩

theorem OnServing.onKeepaliveTimer
    (here : w.OnServing platform config start posted rest) :
    (w.onKeepaliveTimer platform).ServingOrGone platform config start posted rest := by
  obtain ⟨session, present⟩ := here.moved.session (.inl rfl)
  have disarmed : ({ w with keepaliveTimer := 0 } : World).readClock.2.OnServing platform
      config start posted rest := ⟨here.ready, here.moved.same fun _ _ => rfl⟩
  have checked : (({ w with keepaliveTimer := 0 } : World).checkKeepalive
      platform).2.OnServing platform config start posted rest :=
    disarmed.onSessionQuietly (.checkKeepalive w.readClock.1) (fun _ => rfl)
      fun _ serving => serving
  rw [onKeepaliveTimer_of_some here.ready present]
  split_ifs
  · exact checked.tearDown _
  · exact checked.flushOutput.rearmKeepalive

/-! ## Submitting calls -/

/-- A submission is a move, whether or not the request is accepted. -/
theorem OnServing.submitCall
    (here : w.OnServing platform config start posted (pc :: rest)) :
    (w.submitCall platform config pc).OnServing platform config start posted rest := by
  obtain ⟨session, present⟩ := here.moved.session (.inl rfl)
  have state := (submitCall_frame platform config pc here.ready present).2.2.1
  obtain ⟨record, reached, accounted⟩ := here.moved
  have isNew : pc.call ∉ record.submitted.map PendingCall.call := by
    have distinct := accounted.distinct
    rw [← accounted.all, List.map_append, List.map_cons] at distinct
    intro member
    exact (List.nodup_append.mp distinct).2.2 _ member _ List.mem_cons_self rfl
  have all : (record.submitted ++ [pc]) ++ rest = posted := by
    rw [List.append_assoc]
    exact accounted.all
  have next := reached.move (.submit pc) ⟨rfl, isNew⟩
  simp only [Transport.move] at next
  refine ⟨state, ?_⟩
  unfold World.submitCall
  rw [if_neg (by simp [here.ready, present]), onSessionQuietly_of_some present]
  simp only
  split_ifs with refused
  · rw [peek_of_some rfl]
    rw [Transport.submit_refused (t := w.transport .serving record) present refused] at next
    exact ⟨_, next, all, accounted.distinct⟩
  · rw [Transport.submit_accepted (t := w.transport .serving record) present refused] at next
    exact ⟨_, next, all, accounted.distinct⟩

theorem OnServing.submitQueued (pending : List PendingCall)
    (here : w.OnServing platform config start posted (pending ++ rest)) :
    (pending.foldl (World.submitQueued platform config) w).OnServing platform config start
      posted rest := by
  induction pending generalizing w with
  | nil => exact here
  | cons pc pending ih =>
      rw [List.foldl_cons, World.submitQueued, if_neg (not_not.mpr here.ready)]
      exact ih here.submitCall

theorem OnServing.submitPending
    (here : w.OnServing platform config start posted w.pendingCalls) :
    (w.submitPending platform config).ServingOrGone platform config start posted [] := by
  have queued : ({ w with pendingCalls := [] } : World).OnServing platform config start
      posted (w.pendingCalls ++ []) := by
    rw [List.append_nil]
    exact ⟨here.ready, here.moved.same fun _ _ => rfl⟩
  exact ServingOrGone.whenReady (.inl (OnServing.submitQueued _ queued))
    OnServing.flushOutput

/-! ## Connecting -/

theorem Moved.startConnecting (moved : w.Moved platform config start posted rest .unused) :
    let w' := w.startConnecting platform config
    w'.state = .connecting ∧ w'.pendingCalls = w.pendingCalls ∧
        w'.Moved platform config start posted rest .connecting ∨
      w'.state = .failed ∧ w'.Gone platform config start posted := by
  intro w'
  obtain ⟨record, reached, accounted⟩ := moved
  have next := reached.move .startConnect rfl
  have started : ((w.armConnectTimer platform config).onSocket (TlsIo.startConnect platform
      config.host config.port config.tls)).2.Moved platform config start posted rest
      .connecting := ⟨record, next, accounted⟩
  simp only [w', World.startConnecting]
  split_ifs
  · exact .inr (started.tearDown nofun .socket)
  · exact .inl ⟨rfl, rfl, started.same fun _ _ => rfl⟩

/-- What is left of the queue when the channel is ready is submitted. -/
theorem ServingOrGone.submitPending {queue : List PendingCall}
    (here : w.ServingOrGone platform config start posted queue)
    (live : w.LiveOrFailed config [] queue) :
    (w.submitPending platform config).ServingOrGone platform config start posted [] := by
  rcases here with serving | ⟨failed, gone⟩
  · rcases live with live | ⟨failed, _⟩
    · exact OnServing.submitPending (live.pendingCalls.symm ▸ serving)
    · cases failed.symm.trans serving.ready
  · rcases live with live | ⟨_, down⟩
    · cases live.state.symm.trans failed
    · rw [down.submitPending]
      exact .inr ⟨failed, gone⟩

/-- The session is opened and the queue submitted, unless something goes wrong. -/
theorem Connected.startSession_transport (connected : w.Connected config)
    (moved : w.Moved platform config start posted w.pendingCalls .connecting) :
    (w.startSession platform config).ServingOrGone platform config start posted [] := by
  obtain ⟨record, reached, accounted⟩ := moved
  have next : Transport.ReachedFrom platform config start
      ((w.createSession platform config).transport
        (if (SessionIo.new platform config.options.http2 { onGoaway := true }
          w.readClock.1 w.readClock.2.ng : SessionIo Nat).session.session then .serving
          else .parting) record) :=
    reached.move (.openSession w.readClock.1) ⟨rfl, connected.sock⟩
  have stillConnected : (w.createSession platform config).Connected config :=
    { connected with }
  have fresh := new_streams platform config.options.http2 { onGoaway := true }
    w.readClock.1 w.readClock.2.ng
  simp only [World.startSession]
  rw [peek_of_some (w := w.createSession platform config) rfl]
  simp only
  split_ifs with dead
  · rw [if_neg (by rw [dead]; decide)] at next
    have created : (w.createSession platform config).Moved platform config start posted
        w.pendingCalls .parting := ⟨record, next, accounted⟩
    exact .inr (created.tearDown stillConnected.ongoing.ongoing .session)
  · have ok := Bool.eq_true_of_not_eq_false dead
    rw [if_pos ok] at next
    have ready : (w.sessionReady platform config).OnServing platform config start posted
        w.pendingCalls := ⟨rfl, record, next, accounted⟩
    have live : (w.sessionReady platform config).Live config [] w.pendingCalls :=
      stillConnected.live rfl fresh.1 fresh.2.1 ok
    exact ready.flushOutput.rearmKeepalive.submitPending live.flushOutput.rearmKeepalive

theorem Connecting.onConnectProgress_transport (connecting : w.Connecting config)
    (moved : w.Moved platform config start posted w.pendingCalls .connecting) :
    (w.onConnectProgress platform config).Tracked platform config start posted := by
  obtain ⟨record, reached, accounted⟩ := moved
  have next := reached.move .continueConnect rfl
  have progress : (w.onSocket (TlsIo.continueConnect platform)).2.Moved platform config
      start posted w.pendingCalls .connecting := ⟨record, next, accounted⟩
  have armed := connecting.toArmed.onSocket (TlsIo.continueConnect platform)
  have waiting : (w.onSocket (TlsIo.continueConnect platform)).2.Tracked platform config
      start posted := by
    left
    rw [armed.state]
    exact ⟨by decide, progress⟩
  have cancelled : (w.onSocket (TlsIo.continueConnect
      platform)).2.cancelConnectTimer.Moved platform config start posted w.pendingCalls
      .connecting := progress.same fun _ _ => rfl
  have failed := cancelled.tearDown armed.cancelled.ongoing .socket
  unfold World.onConnectProgress
  simp only
  split
  · exact waiting
  · exact waiting
  · rename_i ok
    have connected := connecting.connected ok
    exact (connected.startSession_transport cancelled).tracked connected.startSession
  · exact .inr ⟨.inl failed.1, failed.2⟩
  · exact .inr ⟨.inl failed.1, failed.2⟩

/-! ## Shutdown -/

theorem Moved.farewellRound (moved : w.Moved platform config start posted rest .parting) :
    (farewellRound platform w).Meets (Moved platform config start posted rest .parting)
      (Moved platform config start posted rest .parting) := by
  unfold World.farewellRound
  simp only
  split
  · rename_i none
    exact moved.send_nothing (.inr rfl) (.inl none)
  · rename_i empty
    exact moved.send_nothing (.inr rfl) (.inr empty)
  · rename_i data nonempty offered
    obtain ⟨accepted, refused⟩ := moved.send (.inr rfl) offered nonempty rfl
    split_ifs with failed
    · exact refused failed
    · exact accepted (not_not.mp failed)

/-- The graceful close queues a GOAWAY and then only sends. -/
theorem Moved.closeGracefully
    (moved : w.Moved platform config start posted rest .serving) :
    (w.closeGracefully platform).Moved platform config start posted rest .parting := by
  obtain ⟨session, present⟩ := moved.session (.inl rfl)
  obtain ⟨record, reached, accounted⟩ := moved
  have next := reached.move .terminate rfl
  simp only [Transport.move] at next
  rw [Transport.onSession_of_some (t := w.transport .serving record) present] at next
  have terminated : w.terminate.Moved platform config start posted rest .parting := by
    rw [World.terminate, onSessionQuietly_of_some present]
    exact ⟨record, next, accounted⟩
  exact (farewellLoop platform).run_invariant (fun _ => Moved.farewellRound) terminated

theorem Moved.beginShutdown (moved : w.Moved platform config start posted rest phase) :
    w.beginShutdown.Moved platform config start posted rest phase := by
  have begun : ({ w with state := .shutdown } : World).Moved platform config start posted
      rest phase := moved.same fun _ _ => rfl
  unfold World.beginShutdown
  refine Moved.same (failAllCalls_keeps ?_ ?_ ?_ begun) fun _ _ => rfl
  · exact fun w call moved => moved.failCall _ call
  · rintro w ⟨record, reached, accounted⟩
    exact ⟨record, reached.move .release trivial, accounted⟩
  · exact fun w moved => moved.same fun _ _ => rfl

theorem Gone.beginShutdown (gone : w.Gone platform config start posted) :
    w.beginShutdown.Gone platform config start posted := by
  have begun : ({ w with state := .shutdown } : World).Gone platform config start
      posted := gone.same fun _ _ => rfl
  unfold World.beginShutdown
  refine Gone.same (failAllCalls_keeps ?_ ?_ ?_ begun) fun _ _ => rfl
  · exact fun w call gone => gone.failCall _ call
  · rintro w ⟨record, reached, accounted⟩
    exact ⟨record, reached.move .release trivial, accounted⟩
  · exact fun w gone => gone.same fun _ _ => rfl

theorem Tracked.doShutdown (tracked : w.Tracked platform config start posted)
    (between : w.Between config) :
    (w.doShutdown platform).Tracked platform config start posted := by
  have ended : (w.doShutdown platform).state = .shutdown := between.doShutdown.1
  refine .inr ⟨.inr ended, ?_⟩
  rcases tracked with ⟨ongoing, moved⟩ | ⟨_, gone⟩
  · have begun : w.beginShutdown.Moved platform config start posted w.pendingCalls
        w.state.phase := moved.beginShutdown
    unfold World.doShutdown
    rw [if_neg ongoing.2]
    simp only
    split_ifs with wasReady
    · rw [wasReady.1] at begun
      exact begun.closeGracefully.close
    · exact begun.close
  · have begun : w.beginShutdown.Gone platform config start posted :=
      gone.beginShutdown
    unfold World.doShutdown
    split_ifs with already
    · exact gone
    · have notReady : ¬ (w.state = .ready ∧ w.h2.isSome) := by
        rintro ⟨ready, _⟩
        rcases ‹w.state = .failed ∨ w.state = .shutdown› with state | state
        · cases state.symm.trans ready
        · cases state.symm.trans ready
      simp only
      rw [if_neg notReady]
      exact begun.close

/-! ## Every run -/

/-- Between two callbacks a tracked channel is as its phase says. -/
theorem Tracked.moved (tracked : w.Tracked platform config start posted)
    (ongoing : ¬ (w.state = .failed ∨ w.state = .shutdown)) :
    w.Moved platform config start posted w.pendingCalls w.state.phase := by
  rcases tracked with ⟨_, moved⟩ | ⟨ended, _⟩
  · exact moved
  · exact absurd ended ongoing

theorem Tracked.onServing (tracked : w.Tracked platform config start posted)
    (live : w.Live config [] []) : w.OnServing platform config start posted [] := by
  have moved := tracked.moved live.ongoing.ongoing
  rw [live.state, live.pendingCalls] at moved
  exact ⟨live.state, moved⟩

theorem phase_of_ended (ended : w.state = .failed ∨ w.state = .shutdown) :
    w.state.phase = .finished := by
  rcases ended with state | state
  · exact congrArg ChannelImpl.State.phase state
  · exact congrArg ChannelImpl.State.phase state

theorem Tracked.transport (tracked : w.Tracked platform config start posted) :
    ∃ record,
      Transport.ReachedFrom platform config start (w.transport w.state.phase record) ∧
      record.submitted <+: posted ∧
      (¬ (w.state = .failed ∨ w.state = .shutdown) →
        record.submitted ++ w.pendingCalls = posted) := by
  rcases tracked with ⟨_, record, reached, accounted⟩ | ⟨ended, record, reached, some⟩
  · exact ⟨record, reached, accounted.all ▸ List.prefix_append _ _, fun _ => accounted.all⟩
  · have finished := phase_of_ended ended
    exact ⟨record, finished ▸ reached, some, fun ongoing => absurd ended ongoing⟩

/-- A tracked channel is tracked from where it is. -/
theorem Tracked.fromHere (tracked : w.Tracked platform config start posted) :
    ∃ record,
      Transport.ReachedFrom platform config start (w.transport w.state.phase record) ∧
      record.submitted <+: posted ∧
      (¬ (w.state = .failed ∨ w.state = .shutdown) →
        record.submitted ++ w.pendingCalls = posted) ∧
      w.Tracked platform config (· = w.transport w.state.phase record) posted := by
  obtain ⟨record, reached, some, all⟩ := tracked.transport
  refine ⟨record, reached, some, all, ?_⟩
  rcases tracked with ⟨ongoing, _, _, accounted⟩ | ⟨ended, _⟩
  · have here := all (not_or.mpr ongoing)
    exact .inl ⟨ongoing, record, ⟨.start rfl, reached.2⟩, here, accounted.distinct⟩
  · have finished := phase_of_ended ended
    rw [finished] at reached ⊢
    exact .inr ⟨ended, record, ⟨.start rfl, reached.2⟩, some⟩

theorem Tracked.same (tracked : w.Tracked platform config start posted)
    (state : w'.state = w.state) (pendingCalls : w'.pendingCalls = w.pendingCalls)
    (same : ∀ phase record, w'.transport phase record = w.transport phase record) :
    w'.Tracked platform config start posted := by
  unfold Tracked
  rw [state, pendingCalls]
  rcases tracked with ⟨ongoing, moved⟩ | ⟨ended, gone⟩
  · exact .inl ⟨ongoing, moved.same same⟩
  · exact .inr ⟨ended, gone.same same⟩

theorem Accounted.post {record : Transport.Record} (accounted : Accounted posted rest record)
    (isNew : pc.call ∉ posted.map PendingCall.call) :
    Accounted (posted ++ [pc]) (rest ++ [pc]) record where
  all := by rw [← accounted.all, List.append_assoc]
  distinct := by
    rw [List.map_append]
    exact List.nodup_append.mpr ⟨accounted.distinct, List.nodup_singleton _, by
      intro call member call' member'
      rw [List.mem_singleton.mp member']
      exact fun same => isNew (same ▸ member)⟩

theorem Tracked.handleNewCall (tracked : w.Tracked platform config start posted)
    (between : w.Between config)
    (handled : ∀ call ∈ posted.map PendingCall.call, call ∈ w.handled)
    (isNew : pc.call ∉ w.handled) :
    (w.handleNewCall platform config pc).Tracked platform config start
      (posted ++ [pc]) := by
  have isNewPost : pc.call ∉ posted.map PendingCall.call := fun member =>
    isNew (handled _ member)
  rcases between with idle | connecting | live | down
  · obtain ⟨record, reached, accounted⟩ := tracked.moved idle.ongoing.ongoing
    have queued : ((w.recordHandled pc.call).enqueue pc).Moved platform config start
        (posted ++ [pc]) (w.pendingCalls ++ [pc]) .unused := by
      rw [idle.state] at reached
      exact ⟨record, reached, accounted.post isNewPost⟩
    have state : (w.recordHandled pc.call).state = .idle := idle.state
    simp only [World.handleNewCall, state]
    rcases queued.startConnecting with ⟨started, pending, moved⟩ | ⟨failed, gone⟩
    · left
      rw [started, pending]
      exact ⟨by decide, moved⟩
    · exact .inr ⟨.inl failed, gone⟩
  · obtain ⟨record, reached, accounted⟩ :=
      tracked.moved connecting.ongoing.ongoing
    have state : (w.recordHandled pc.call).state = .connecting := connecting.state
    simp only [World.handleNewCall, state]
    exact .inl ⟨by simp [enqueue, state], record, reached, accounted.post isNewPost⟩
  · obtain ⟨record, reached, accounted⟩ := (tracked.onServing live).moved
    have enrolled := live.enroll isNew
    have here : (w.recordHandled pc.call).OnServing platform config start
        (posted ++ [pc]) [pc] := ⟨live.state, record, reached, accounted.post isNewPost⟩
    rw [handleNewCall_of_ready live.state]
    exact here.submitCall.flushOutput.tracked enrolled.submitCall.flushOutput
  · rcases tracked with ⟨ongoing, _⟩ | ⟨ended, gone⟩
    · rcases down.state with state | state
      · exact absurd state ongoing.1
      · exact absurd state ongoing.2
    · have late : (w.recordHandled pc.call).Gone platform config start (posted ++ [pc]) :=
        (gone.post [pc]).same fun _ _ => rfl
      rcases ended with state | state
      · have here : (w.recordHandled pc.call).state = .failed := state
        simp only [World.handleNewCall, here]
        exact .inr ⟨.inl here, late.failCall _ _⟩
      · have here : (w.recordHandled pc.call).state = .shutdown := state
        simp only [World.handleNewCall, here]
        exact .inr ⟨.inr here, late.failCall _ _⟩

theorem Tracked.runDue (tracked : w.Tracked platform config start posted)
    (between : w.Between config) (now : Int) :
    (w.runDue platform now).Tracked platform config start posted := by
  rcases between with idle | connecting | live | down
  · obtain ⟨timers, same, _⟩ := runDue_of_none platform idle.timers now
    rw [same]
    exact tracked.same rfl rfl fun _ _ => rfl
  · have moved := tracked.moved connecting.ongoing.ongoing
    unfold World.runDue
    simp only
    rcases connecting.timers.takeDue platform.timerAlgorithms now with
      ⟨nothing, _⟩ | ⟨fired, _, _⟩
    · rw [nothing]
      exact tracked.same rfl rfl fun _ _ => rfl
    · rw [fired]
      have expired : ({ w with
          timers := (w.timers.takeDue platform.timerAlgorithms now).2
          connectTimer := 0 } : World).Moved platform config start posted w.pendingCalls
          w.state.phase := moved.same fun _ _ => rfl
      obtain ⟨failed, gone⟩ := expired.tearDown connecting.ongoing.ongoing
        (.temporary (Bytes.ofString "connect timeout"))
      exact .inr ⟨.inl failed, gone⟩
  · have serving := tracked.onServing live
    unfold World.runDue
    simp only
    rcases live.timers.takeDue platform.timerAlgorithms now with
      ⟨nothing, _⟩ | ⟨fired, _, none⟩
    · rw [nothing]
      exact tracked.same rfl rfl fun _ _ => rfl
    · rw [fired]
      have taken : ({ w with timers := (w.timers.takeDue platform.timerAlgorithms now).2 } :
          World).OnServing platform config start posted [] :=
        ⟨serving.ready, serving.moved.same fun _ _ => rfl⟩
      refine taken.onKeepaliveTimer.tracked (Live.onKeepaliveTimer ?_)
      exact { live with timers := TimerHeap.only_zero none _ }
  · obtain ⟨timers, same, _⟩ := runDue_of_none platform down.timers now
    rw [same]
    exact tracked.same rfl rfl fun _ _ => rfl

theorem Tracked.pollEvents (tracked : w.Tracked platform config start posted)
    (between : w.Between config) :
    w.pollEvents.2.Tracked platform config start posted := by
  unfold World.pollEvents
  rcases between with idle | connecting | live | down
  · rw [if_pos (by rw [idle.watchedFd]; decide)]
    exact tracked
  · rw [connecting.watch]
    split_ifs <;> exact tracked
  · rw [live.watch]
    split_ifs
    · exact tracked
    · have asked : (w.onSessionQuietly false SessionIo.wantWrite).2.OnServing platform config
          start posted [] :=
        (tracked.onServing live).onSessionQuietly .wantWrite (fun _ => rfl)
          fun _ serving => serving
      exact ServingOrGone.tracked (.inl asked)
        (.inl (live.onSession (preserving_quiet SessionIo.wantWrite_same)))
  · rw [if_pos (by rw [down.watchedFd]; decide)]
    exact tracked

theorem Tracked.onReady (tracked : w.Tracked platform config start posted)
    (between : w.Between config) (revents : Nat) :
    (w.onReady platform config revents).Tracked platform config start posted := by
  unfold World.onReady
  rcases between with idle | connecting | live | down
  · rw [idle.watch]
    exact tracked
  · have moved := tracked.moved connecting.ongoing.ongoing
    rw [connecting.state] at moved
    rw [connecting.watch]
    exact connecting.onConnectProgress_transport moved
  · have drained := (tracked.onServing live).drainReadable revents
    have liveDrained : (w.drainReadable platform revents).LiveOrFailed config [] [] :=
      Live.transfer.drainReadable live revents
    rw [live.watch]
    refine ServingOrGone.tracked
      ((drained.whenReady OnServing.flushOutput).whenReady fun serving =>
        ServingOrGone.rearmKeepalive (.inl serving)) ?_
    exact (liveDrained.whenReady Live.flushOutput).whenReady fun ready =>
      LiveOrFailed.rearmKeepalive (.inl ready)
  · rw [down.watch]
    exact tracked

/-- Every callback is a sequence of moves. -/
theorem Tracked.step (tracked : w.Tracked platform config start posted)
    (between : w.Between config)
    (handled : ∀ call ∈ posted.map PendingCall.call, call ∈ w.handled)
    {event : ChannelEvent} (admits : w.Admits event) :
    (w.step platform config event).Tracked platform config start
      (posted ++ event.posts) := by
  cases event with
  | newCall pc => exact tracked.handleNewCall between handled admits
  | runDue now => exact (List.append_nil posted).symm ▸ tracked.runDue between now
  | pollEvents => exact (List.append_nil posted).symm ▸ tracked.pollEvents between
  | ready revents => exact (List.append_nil posted).symm ▸ tracked.onReady between revents
  | shutdown => exact (List.append_nil posted).symm ▸ tracked.doShutdown between

theorem Fresh.tracked (fresh : w.Fresh config) :
    w.Tracked platform config (Transport.Fresh config w.tls w.ng) [] := by
  rcases fresh.channel with idle | failed
  · have state : w.state = .idle := congrArg ChannelImpl.state idle
    have queue : w.pendingCalls = [] := congrArg ChannelImpl.pendingCalls idle
    left
    rw [state, queue]
    have unused : (w.transport .unused {}).Fresh config w.tls w.ng :=
      ⟨.inl rfl, congrArg ChannelImpl.sock idle, rfl, congrArg ChannelImpl.h2 idle, rfl,
        fresh.calls, rfl⟩
    exact ⟨by decide, {}, ⟨.start unused, unused.hasSession⟩, rfl, List.nodup_nil⟩
  · have finished : (w.transport .finished {}).Fresh config w.tls w.ng :=
      ⟨.inr rfl, congrArg ChannelImpl.sock failed, rfl, congrArg ChannelImpl.h2 failed, rfl,
        fresh.calls, rfl⟩
    exact .inr ⟨.inl (congrArg ChannelImpl.state failed), {},
      ⟨.start finished, finished.hasSession⟩, List.prefix_rfl⟩

theorem posts_handles (event : ChannelEvent) :
    event.posts.map PendingCall.call = event.handles := by
  cases event <;> rfl

theorem Tracked.run (tracked : w.Tracked platform config start posted)
    (between : w.Between config) (handled : w.handled = posted.map PendingCall.call)
    {events : List ChannelEvent}
    (admitted : Runs.Admitted (World.step platform config) Admits w events) :
    let w' := events.foldl (World.step platform config) w
    w'.Between config ∧
      w'.Tracked platform config start (posted ++ ChannelEvent.allPosts events) ∧
      w'.handled = (posted ++ ChannelEvent.allPosts events).map PendingCall.call := by
  refine admitted.invariant (fun past w' => w'.Between config ∧
    w'.Tracked platform config start (posted ++ ChannelEvent.allPosts past) ∧
    w'.handled = (posted ++ ChannelEvent.allPosts past).map PendingCall.call) ?_ ?_
  · have nothing : posted ++ ChannelEvent.allPosts [] = posted := List.append_nil posted
    rw [nothing]
    exact ⟨between, tracked, handled⟩
  · rintro past w' event ⟨between, tracked, handled⟩ admits
    have more : posted ++ ChannelEvent.allPosts (past ++ [event]) =
        posted ++ ChannelEvent.allPosts past ++ event.posts := by
      rw [ChannelEvent.allPosts, List.flatMap_append, List.flatMap_singleton,
        List.append_assoc]
      rfl
    rw [more]
    refine ⟨(between.step admits).1,
      tracked.step between (fun _ member => handled ▸ member) admits, ?_⟩
    rw [step_handled, handled, ← posts_handles, ← List.map_append]

theorem Fresh.tracked_run (fresh : w.Fresh config) {events : List ChannelEvent}
    (admitted : Runs.Admitted (World.step platform config) Admits w events) :
    let w' := events.foldl (World.step platform config) w
    w'.Between config ∧
      w'.Tracked platform config (Transport.Fresh config w.tls w.ng)
        (ChannelEvent.allPosts events) ∧
      w'.handled = (ChannelEvent.allPosts events).map PendingCall.call := by
  have run := (@Fresh.tracked platform config w fresh).run fresh.between fresh.handled admitted
  rw [List.nil_append] at run
  exact run

end World

end Egrpc
