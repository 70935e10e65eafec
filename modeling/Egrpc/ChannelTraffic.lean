import Egrpc.ChannelTransport
import Egrpc.ClientContext
import Egrpc.OutputBuffer
import Egrpc.TlsSocketBytes

/-!
# What a channel says to nghttp2 and to its peer

Over a whole run a channel sets up at most one session, then only hands it
requests, pings and received bytes, and asks for at most one GOAWAY, after which
nghttp2 hears nothing more.  The requests are those of posted calls, each at most
once and in the order of the posts.  The received bytes are those that
`SSL_read` returned, all of them and in order; the bytes that `SSL_write` was
handed and took are those that nghttp2 produced.

All of this is shown of the transport, one move at a time, and carried to the
channel by the refinement.
-/

namespace Egrpc

/-! ## What a session tells nghttp2 -/

namespace NgCall

/-- The call belongs to a session in use. -/
def isTraffic : NgCall → Bool
  | .submitRequest _ _ | .submitPing _ _ | .memRecv _ => true
  | .submitSettings _ | .setLocalWindowSize _ _ | .terminateSession => false

/-- The header block and the body of a request. -/
def request? : NgCall → Option (HeaderList × Bytes)
  | .submitRequest headers body => some (headers, body)
  | _ => none

/-- The bytes that nghttp2 is given. -/
def received? : NgCall → Option Bytes
  | .memRecv data => some data
  | _ => none

end NgCall

/-- The calls that set a session up. -/
def Http2SessionOptions.opening (options : Http2SessionOptions) : List NgCall :=
  [.submitSettings [(3, options.maxConcurrentStreams), (4, options.initialWindowSize),
      (2, 0)],
    .setLocalWindowSize 0 (min options.initialWindowSize 2147483647)]

/-- nghttp2 answers the four calls that set a session up with success. -/
def NgEnv.SetsUp (env : NgEnv) : Prop :=
  ∀ rc ∈ env.setups.take 4, rc = 0

theorem NgEnv.setsUp_of_answers {env : NgEnv} (callbacks : env.setups.headD 0 = 0)
    (created : env.setups.tail.headD 0 = 0) (settings : env.setups.tail.tail.headD 0 = 0)
    (window : env.setups.tail.tail.tail.headD 0 = 0) : env.SetsUp := by
  unfold NgEnv.SetsUp
  generalize env.setups = setups at callbacks created settings window ⊢
  rcases setups with _ | ⟨first, _ | ⟨second, _ | ⟨third, _ | ⟨fourth, rest⟩⟩⟩⟩ <;>
    simp_all

namespace SessionIo

variable {Hook : Type}

/-- A constructor that succeeds has made all the calls, and all have succeeded. -/
theorem new_calls (platform : Platform) (options : Http2SessionOptions)
    (hooks : Http2Session.Hooks) (now : Int) (env : NgEnv) :
    ∃ said, (new platform options hooks now env : SessionIo Hook).env.calls =
        env.calls ++ said ∧ said <+: options.opening ∧
      ((new platform options hooks now env : SessionIo Hook).session.session = true →
        said = options.opening ∧ env.SetsUp) := by
  unfold new setError NgEnv.setupReturn NgEnv.log
  simp only
  split_ifs with callbacks created settings window
  · exact ⟨[], (List.append_nil _).symm, List.nil_prefix, fun live => by cases live⟩
  · exact ⟨[], (List.append_nil _).symm, List.nil_prefix, fun live => by cases live⟩
  · exact ⟨options.opening.take 1, rfl, List.take_prefix 1 _, fun live => by cases live⟩
  · exact ⟨options.opening, List.append_assoc .., List.prefix_rfl, fun live => by cases live⟩
  · exact ⟨options.opening, List.append_assoc .., List.prefix_rfl, fun _ =>
      ⟨rfl, NgEnv.setsUp_of_answers (not_not.mp callbacks) (not_not.mp created)
        (not_not.mp settings) (not_not.mp window)⟩⟩

theorem submitUnaryRequest_calls (platform : Platform) (headers : HeaderList)
    (body : Bytes) (hooks : StreamHooks Hook) (io : SessionIo Hook) :
    let submitted := io.submitUnaryRequest platform headers body hooks
    submitted.1 = -1 ∧ submitted.2.env.calls = io.env.calls ∨
      submitted.2.env.calls = io.env.calls ++ [.submitRequest headers body] := by
  have logged : (io.env.submitRequest headers body).2.calls =
      io.env.calls ++ [.submitRequest headers body] := by
    unfold NgEnv.submitRequest
    simp only
    split <;> rfl
  unfold submitUnaryRequest
  simp only
  split_ifs
  · exact .inl ⟨rfl, rfl⟩
  · exact .inl ⟨rfl, rfl⟩
  · exact .inr logged
  · exact .inr logged

theorem receiveBytes_calls (platform : Platform) (now : Int) (data : Bytes)
    {io : SessionIo Hook} (live : io.session.session = true) :
    (io.receiveBytes platform now data).2.2.env.calls =
      io.env.calls ++ [.memRecv data] := by
  unfold receiveBytes
  rw [if_neg (by simp [live])]
  simp only
  split_ifs <;> rfl

theorem checkKeepalive_calls (platform : Platform) (now : Int) (io : SessionIo Hook) :
    (io.checkKeepalive platform now).2.env.calls = io.env.calls ∨
      ∃ opaqueData rc, (io.checkKeepalive platform now).2.env.calls =
        io.env.calls ++ [.submitPing opaqueData rc] := by
  unfold checkKeepalive submitPing setError
  simp only
  split_ifs
  all_goals first
    | exact .inl rfl
    | exact .inr ⟨_, _, rfl⟩

theorem wantWrite_calls (io : SessionIo Hook) :
    io.wantWrite.2.env.calls = io.env.calls := by
  unfold wantWrite
  split_ifs <;> rfl

theorem terminate_calls {io : SessionIo Hook} (live : io.session.session = true) :
    io.terminate.env.calls = io.env.calls ++ [.terminateSession] := by
  unfold terminate
  rw [if_neg (by simp [live])]
  rfl

theorem refill_live (platform : Platform) (answers : List MemSend)
    (session : Http2Session Hook) :
    (refill platform answers session).2.2.1.session = session.session := by
  induction answers generalizing session with
  | nil => rfl
  | cons answer answers ih =>
      have ran := (session.runCallbacks_sameOutput answer.callbacks).live
      unfold refill
      simp only
      split
      · exact ran
      · exact ran
      · exact (ih _).trans ran

theorem pendingOutput_frame (platform : Platform) (io : SessionIo Hook) :
    (io.pendingOutput platform).2.2.env.calls = io.env.calls ∧
      (io.pendingOutput platform).2.2.session.session = io.session.session := by
  have refilled : (io.refillOutput platform).2.2.session.session = io.session.session :=
    refill_live platform io.env.memSends io.session.clearOutput
  unfold pendingOutput
  simp only
  split_ifs
  · exact ⟨rfl, rfl⟩
  · exact ⟨rfl, refilled⟩
  · exact ⟨rfl, refilled⟩
  · exact ⟨rfl, rfl⟩

end SessionIo

namespace Transport

variable {platform : Platform} {config : ChannelConfig} {tls : TlsEnv} {ng : NgEnv}
  {t t' : Transport}

/-! ## A transport is as its phase says -/

/-- The socket is new before it is used, connected while there is a session, and
the session is there while it serves. -/
structure Linked (t : Transport) : Prop where
  unused : t.phase = .unused → t.sock = {}
  connected : t.phase = .serving ∨ t.phase = .parting → t.sock.state = .connected
  live : t.phase = .serving → ∃ session, t.h2 = some session ∧ session.session = true

theorem Linked.onSession (linked : t.Linked) {operation : SessionIo Nat → SessionIo Nat}
    (keeps : ∀ io, (operation io).session.session = io.session.session) :
    (t.onSession operation).Linked := by
  unfold Transport.onSession
  split
  · exact linked
  · rename_i session present
    refine ⟨linked.unused, linked.connected, ?_⟩
    intro serving
    obtain ⟨session', present', live⟩ := linked.live serving
    cases present.symm.trans present'
    exact ⟨_, rfl, (keeps _).trans live⟩

/-- A transport that is in use is linked if its socket is connected and its
session there. -/
theorem Linked.of_use (here : t.phase = .serving ∨ t.phase = .parting)
    (connected : t.sock.state = .connected)
    (live : t.phase = .serving → ∃ session, t.h2 = some session ∧ session.session = true) :
    t.Linked := by
  refine ⟨?_, fun _ => connected, live⟩
  intro unused
  rcases here with phase | phase
  · cases unused.symm.trans phase
  · cases unused.symm.trans phase

theorem Linked.send (linked : t.Linked) (here : t.phase = .serving ∨ t.phase = .parting) :
    (t.send platform).Linked := by
  cases present : t.h2 with
  | none =>
      have same : t.send platform = t := by simp only [Transport.send, present]
      rw [same]
      exact linked
  | some session =>
      have stillLive : t.phase = .serving →
          (SessionIo.pendingOutput platform ⟨session, t.ng⟩).2.2.session.session = true := by
        intro serving
        obtain ⟨session', present', live⟩ := linked.live serving
        cases present.symm.trans present'
        exact (SessionIo.pendingOutput_frame platform _).2.trans live
      have connected (data : Bytes) :
          (TlsIo.write platform data ⟨t.sock, t.tls⟩).2.sock.state = .connected :=
        (TlsIo.write_frame platform data _).1.trans (linked.connected here)
      rcases send_cases platform present with nothing | ⟨data, _, ⟨-, blocked⟩ | written⟩
      · rw [nothing]
        exact .of_use here (linked.connected here) fun serving => ⟨_, rfl, stillLive serving⟩
      · rw [blocked]
        exact .of_use here (connected data) fun serving => ⟨_, rfl, stillLive serving⟩
      · rw [written]
        exact .of_use here (connected data) fun serving => ⟨_, rfl, stillLive serving⟩

theorem Linked.receive (linked : t.Linked) (serving : t.phase = .serving) (now : Int) :
    (t.receive platform now).Linked := by
  have connected := (TlsIo.read_frame platform 16384 ⟨t.sock, t.tls⟩).1.trans
    (linked.connected (.inl serving))
  obtain ⟨session, present, live⟩ := linked.live serving
  rcases receive_cases platform now present with ⟨_, fed⟩ | ⟨_, nothing⟩
  · rw [fed]
    exact .of_use (.inl serving) connected fun _ => ⟨_, rfl,
      (SessionIo.receiveBytes_sameBuffer platform now _ ⟨session, t.ng⟩).live.trans live⟩
  · rw [nothing]
    exact .of_use (.inl serving) connected fun _ => ⟨session, present, live⟩

theorem Linked.submit (linked : t.Linked) (serving : t.phase = .serving)
    (pc : PendingCall) : (t.submit platform config pc).Linked := by
  obtain ⟨session, present, live⟩ := linked.live serving
  have stillLive : (World.submitRequest platform config pc
      ⟨session, t.ng⟩).2.session.session = true :=
    (SessionIo.submitUnaryRequest_sameBuffer platform _ pc.framedBody
      (World.makeStreamHooks pc.call) ⟨session, t.ng⟩).live.trans live
  by_cases refused : (World.submitRequest platform config pc ⟨session, t.ng⟩).1 < 0
  · rw [submit_refused present refused]
    exact .of_use (.inl serving) (linked.connected (.inl serving))
      fun _ => ⟨_, rfl, stillLive⟩
  · rw [submit_accepted present refused]
    exact .of_use (.inl serving) (linked.connected (.inl serving))
      fun _ => ⟨_, rfl, stillLive⟩

theorem Linked.step (linked : t.Linked) {action : Transport.Move}
    (admits : t.Admits action) : (t.move platform config action).Linked := by
  cases action with
  | startConnect => constructor <;> simp [Transport.move]
  | continueConnect =>
      have phase : t.phase = .connecting := admits
      constructor <;> simp [Transport.move, Transport.onSocket, phase]
  | openSession now =>
      constructor
      · intro impossible
        simp only [Transport.move] at impossible
        split_ifs at impossible
      · exact fun _ => admits.2
      · intro serving
        simp only [Transport.move] at serving
        split_ifs at serving with live
        exact ⟨_, rfl, live⟩
  | submit pc => exact linked.submit admits.1 pc
  | checkKeepalive now =>
      exact linked.onSession fun io => (io.checkKeepalive_sameBuffer platform now).live
  | wantWrite => exact linked.onSession fun io => io.wantWrite_sameBuffer.live
  | send => exact linked.send admits
  | receive now => exact linked.receive admits now
  | terminate =>
      have kept := linked.onSession fun io => io.terminate_sameBuffer.live
      have connected := kept.connected (.inl ((onSession_frame _ t).1.trans admits))
      refine ⟨?_, fun _ => connected, ?_⟩ <;> simp [Transport.move]
  | close => constructor <;> simp [Transport.move]
  | failCall message call => exact ⟨linked.unused, linked.connected, linked.live⟩
  | release => exact ⟨linked.unused, linked.connected, linked.live⟩

theorem Fresh.linked (fresh : t.Fresh config tls ng) : t.Linked := by
  refine ⟨fun _ => fresh.sock, ?_, ?_⟩
  all_goals
    intro here
    rcases fresh.phase with phase | phase <;> simp [phase] at here

theorem not_early (here : t.phase = .serving ∨ t.phase = .parting) :
    ¬ (t.phase = .unused ∨ t.phase = .connecting) := by
  rintro (early | early) <;> rcases here with phase | phase <;> cases early.symm.trans phase

/-! ## The conversation with nghttp2 -/

/-- The calls of a session: those that set it up, those made in its use, and the
request for a GOAWAY. -/
structure Script where
  opening : List NgCall := []
  traffic : List NgCall := []
  farewell : List NgCall := []

def Script.calls (script : Script) : List NgCall :=
  script.opening ++ script.traffic ++ script.farewell

/-- The parts are what they are called, and nothing follows a set-up that is not
complete. -/
structure Script.Proper (options : Http2SessionOptions) (script : Script) : Prop where
  opening : script.opening <+: options.opening
  traffic : ∀ call ∈ script.traffic, call.isTraffic = true
  farewell : script.farewell <+: [.terminateSession]
  complete : script.traffic ≠ [] ∨ script.farewell ≠ [] → script.opening = options.opening

/-- The script asks for some of the calls that were submitted, in their order. -/
def Script.Requests (config : ChannelConfig) (submitted : List PendingCall)
    (script : Script) : Prop :=
  ∃ requested : List PendingCall, requested.Sublist submitted ∧
    script.traffic.filterMap NgCall.request? =
      requested.map fun pc => (pc.requestHeaders config, pc.framedBody)

/-- What nghttp2 was told since the start, with the calls that were submitted and
the answers to reads that were used.  A session that was used was set up. -/
structure Conversation (config : ChannelConfig) (tls : TlsEnv) (ng : NgEnv)
    (script : Script) (t : Transport) : Prop where
  calls : t.ng.calls = ng.calls ++ script.calls
  proper : script.Proper config.options.http2
  setUp : script.traffic ≠ [] ∨ script.farewell ≠ [] → ng.SetsUp
  before : t.phase = .unused ∨ t.phase = .connecting → script = {} ∧ t.ng = ng
  serving : t.phase = .serving →
    script.opening = config.options.http2.opening ∧ ng.SetsUp ∧ script.farewell = []
  requests : script.Requests config t.submitted
  reads : ∃ used, tls.reads = used ++ t.tls.reads ∧
    script.traffic.filterMap NgCall.received? = used.filterMap (TlsIo.delivered 16384)

variable {script : Script}

theorem Conversation.quiet (conversation : t.Conversation config tls ng script)
    (phase : t'.phase = t.phase ∨ t.phase = .unused ∧ t'.phase = .connecting ∨
      t'.phase = .finished)
    (calls : t'.ng.calls = t.ng.calls) (submitted : t'.submitted = t.submitted)
    (reads : t'.tls.reads = t.tls.reads)
    (untouched : t.phase = .unused ∨ t.phase = .connecting → t'.ng = t.ng) :
    t'.Conversation config tls ng script where
  calls := calls.trans conversation.calls
  proper := conversation.proper
  setUp := conversation.setUp
  before := by
    have still (here : t.phase = .unused ∨ t.phase = .connecting) :
        script = {} ∧ t'.ng = ng :=
      ⟨(conversation.before here).1, (untouched here).trans (conversation.before here).2⟩
    intro early
    rcases phase with same | ⟨unused, _⟩ | finished
    · exact still (same ▸ early)
    · exact still (.inl unused)
    · rw [finished] at early
      rcases early with impossible | impossible <;> cases impossible
  serving := by
    intro serving
    rcases phase with same | ⟨_, connecting⟩ | finished
    · exact conversation.serving (same ▸ serving)
    · cases connecting.symm.trans serving
    · cases finished.symm.trans serving
  requests := submitted ▸ conversation.requests
  reads := reads ▸ conversation.reads

def Script.say (script : Script) (call : NgCall) : Script :=
  { script with traffic := script.traffic ++ [call] }

theorem Conversation.say (conversation : t.Conversation config tls ng script)
    (serving : t.phase = .serving) {call : NgCall} (isTraffic : call.isTraffic = true)
    (phase : t'.phase = .serving) (calls : t'.ng.calls = t.ng.calls ++ [call])
    (requests : (script.say call).Requests config t'.submitted)
    (reads : ∃ used, tls.reads = used ++ t'.tls.reads ∧
      (script.say call).traffic.filterMap NgCall.received? =
        used.filterMap (TlsIo.delivered 16384)) :
    t'.Conversation config tls ng (script.say call) := by
  obtain ⟨opened, setUp, open'⟩ := conversation.serving serving
  refine ⟨?_, ⟨conversation.proper.opening, ?_, conversation.proper.farewell,
    fun _ => opened⟩, fun _ => setUp, ?_, fun _ => ⟨opened, setUp, open'⟩, requests, reads⟩
  · rw [calls, conversation.calls]
    simp [Script.calls, Script.say, open']
  · intro call' member
    rcases List.mem_append.mp member with old | new
    · exact conversation.proper.traffic call' old
    · rw [List.mem_singleton.mp new]
      exact isTraffic
  · intro early
    rw [phase] at early
    rcases early with impossible | impossible <;> cases impossible

/-- A call that is neither a request nor received bytes. -/
theorem Conversation.requests_say (conversation : t.Conversation config tls ng script)
    {call : NgCall} (other : call.request? = none) :
    (script.say call).Requests config t.submitted := by
  obtain ⟨requested, sublist, requests⟩ := conversation.requests
  refine ⟨requested, sublist, ?_⟩
  rw [← requests, Script.say, List.filterMap_append]
  simp [other]

theorem Conversation.reads_say (conversation : t.Conversation config tls ng script)
    {call : NgCall} (other : call.received? = none) :
    ∃ used, tls.reads = used ++ t.tls.reads ∧
      (script.say call).traffic.filterMap NgCall.received? =
        used.filterMap (TlsIo.delivered 16384) := by
  obtain ⟨used, split, received⟩ := conversation.reads
  refine ⟨used, split, ?_⟩
  rw [← received, Script.say, List.filterMap_append]
  simp [other]

theorem Conversation.submit (conversation : t.Conversation config tls ng script)
    (linked : t.Linked) (serving : t.phase = .serving) (pc : PendingCall) :
    ∃ script', (t.submit platform config pc).Conversation config tls ng script' := by
  obtain ⟨session, present, _⟩ := linked.live serving
  have calls := SessionIo.submitUnaryRequest_calls platform (pc.requestHeaders config)
    pc.framedBody (World.makeStreamHooks pc.call) ⟨session, t.ng⟩
  obtain ⟨requested, sublist, requests⟩ := conversation.requests
  -- What happens to the call makes no difference here.
  have submitted : (t.submit platform config pc).phase = t.phase ∧
      (t.submit platform config pc).ng = (SessionIo.submitUnaryRequest platform
        (pc.requestHeaders config) pc.framedBody (World.makeStreamHooks pc.call)
        ⟨session, t.ng⟩).2.env ∧
      (t.submit platform config pc).submitted = t.submitted ++ [pc] ∧
      (t.submit platform config pc).tls = t.tls := by
    by_cases refused : (World.submitRequest platform config pc ⟨session, t.ng⟩).1 < 0
    · rw [submit_refused present refused]
      exact ⟨rfl, rfl, rfl, rfl⟩
    · rw [submit_accepted present refused]
      exact ⟨rfl, rfl, rfl, rfl⟩
  obtain ⟨phase, sameNg, submits, sameTls⟩ := submitted
  simp only [← sameNg] at calls
  rcases calls with ⟨_, same⟩ | said
  · refine ⟨script, same.trans conversation.calls, conversation.proper, conversation.setUp,
      ?_, ?_, ⟨requested, ?_, requests⟩, sameTls ▸ conversation.reads⟩
    · rw [phase]
      exact fun early => absurd early (not_early (.inl serving))
    · rw [phase]
      exact conversation.serving
    · rw [submits]
      exact sublist.trans (List.sublist_append_left _ _)
  · refine ⟨_, conversation.say serving rfl (phase.trans serving) said
      ⟨requested ++ [pc], ?_, ?_⟩ (sameTls ▸ conversation.reads_say rfl)⟩
    · rw [submits]
      exact sublist.append_right [pc]
    · rw [Script.say, List.filterMap_append, requests, List.map_append]
      rfl

theorem Conversation.receive (conversation : t.Conversation config tls ng script)
    (linked : t.Linked) (serving : t.phase = .serving) (now : Int) :
    ∃ script', (t.receive platform now).Conversation config tls ng script' := by
  obtain ⟨session, present, live⟩ := linked.live serving
  obtain ⟨_, used', split', ok, notOk⟩ :=
    TlsIo.read_used platform 16384 ⟨t.sock, t.tls⟩ (linked.connected (.inl serving))
  obtain ⟨used, split, received⟩ := conversation.reads
  have together : tls.reads =
      used ++ used' ++ (TlsIo.read platform 16384 ⟨t.sock, t.tls⟩).2.env.reads := by
    rw [split, List.append_assoc]
    exact congrArg (used ++ ·) split'
  rcases receive_cases platform now present with ⟨got, fed⟩ | ⟨got, nothing⟩
  · rw [fed]
    refine ⟨_, conversation.say serving rfl serving
      (SessionIo.receiveBytes_calls platform now _ live) (conversation.requests_say rfl)
      ⟨used ++ used', together, ?_⟩⟩
    rw [Script.say, List.filterMap_append, List.filterMap_append, received, ok got]
    rfl
  · rw [nothing]
    refine ⟨script, conversation.calls, conversation.proper, conversation.setUp,
      conversation.before, conversation.serving, conversation.requests, used ++ used',
      together, ?_⟩
    rw [List.filterMap_append, notOk got, List.append_nil]
    exact received

/-- What is sent leaves the journal of nghttp2 and the answers to reads alone. -/
theorem send_quiet (platform : Platform) (linked : t.Linked)
    (here : t.phase = .serving ∨ t.phase = .parting) :
    (t.send platform).ng.calls = t.ng.calls ∧
      (t.send platform).submitted = t.submitted ∧
      (t.send platform).tls.reads = t.tls.reads := by
  cases present : t.h2 with
  | none =>
      have same : t.send platform = t := by simp only [Transport.send, present]
      rw [same]
      exact ⟨rfl, rfl, rfl⟩
  | some session =>
      have calls := (SessionIo.pendingOutput_frame platform ⟨session, t.ng⟩).1
      have reads (data : Bytes) := (TlsIo.write_used platform data ⟨t.sock, t.tls⟩
        (linked.connected here)).2.1
      rcases send_cases platform present with nothing | ⟨data, _, ⟨-, blocked⟩ | written⟩
      · rw [nothing]
        exact ⟨calls, rfl, rfl⟩
      · rw [blocked]
        exact ⟨calls, rfl, reads data⟩
      · rw [written]
        exact ⟨calls, rfl, reads data⟩

theorem Conversation.openSession (conversation : t.Conversation config tls ng script)
    (connected : t.phase = .connecting) (now : Int) :
    ∃ script', (t.move platform config (.openSession now)).Conversation config tls ng
      script' := by
  obtain ⟨said, calls, isPrefix, complete⟩ := @SessionIo.new_calls Nat platform
    config.options.http2 { onGoaway := true } now t.ng
  obtain ⟨rfl, untouched⟩ := conversation.before (.inr connected)
  refine ⟨{ opening := said }, ?_, ⟨isPrefix, by simp, List.nil_prefix, by simp⟩,
    by simp, ?_, ?_, conversation.requests, conversation.reads⟩
  · have start := conversation.calls
    simp only [Transport.move]
    rw [calls, start]
    simp [Script.calls]
  · intro early
    simp only [Transport.move] at early
    split_ifs at early <;> rcases early with impossible | impossible <;> cases impossible
  · intro serving
    simp only [Transport.move] at serving
    split_ifs at serving with live
    obtain ⟨opened, setUp⟩ := complete live
    exact ⟨opened, untouched ▸ setUp, rfl⟩

theorem Conversation.terminate (conversation : t.Conversation config tls ng script)
    (linked : t.Linked) (serving : t.phase = .serving) :
    ∃ script', (t.move platform config .terminate).Conversation config tls ng script' := by
  obtain ⟨session, present, live⟩ := linked.live serving
  obtain ⟨opened, setUp, noFarewell⟩ := conversation.serving serving
  simp only [Transport.move]
  rw [onSession_of_some present]
  refine ⟨{ script with farewell := [.terminateSession] }, ?_,
    ⟨conversation.proper.opening, conversation.proper.traffic, List.prefix_rfl,
      fun _ => opened⟩, fun _ => setUp, ?_, ?_, conversation.requests,
    conversation.reads⟩
  · simp only
    rw [SessionIo.terminate_calls live, conversation.calls]
    simp [Script.calls, noFarewell]
  · intro early
    rcases early with impossible | impossible <;> cases impossible
  · intro still
    cases still

/-- Every move keeps to the script or adds to it. -/
theorem Conversation.step (conversation : t.Conversation config tls ng script)
    (linked : t.Linked) {action : Transport.Move} (admits : t.Admits action) :
    ∃ script', (t.move platform config action).Conversation config tls ng script' := by
  cases action with
  | startConnect =>
      exact ⟨script, conversation.quiet (.inr (.inl ⟨admits, rfl⟩)) rfl rfl
        (TlsIo.startConnect_noBytes ..).reads fun _ => rfl⟩
  | continueConnect =>
      exact ⟨script, conversation.quiet (.inl rfl) rfl rfl
        (TlsIo.continueConnect_noBytes ..).reads fun _ => rfl⟩
  | openSession now => exact conversation.openSession admits.1 now
  | submit pc => exact conversation.submit linked admits.1 pc
  | checkKeepalive now =>
      obtain ⟨session, present, live⟩ := linked.live admits
      simp only [Transport.move]
      rw [onSession_of_some present]
      rcases SessionIo.checkKeepalive_calls platform now ⟨session, t.ng⟩ with
        same | ⟨opaqueData, rc, said⟩
      · exact ⟨script, conversation.quiet (.inl rfl) same rfl rfl
          fun early => absurd early (not_early (.inl admits))⟩
      · exact ⟨_, conversation.say admits rfl admits said (conversation.requests_say rfl)
          (conversation.reads_say rfl)⟩
  | wantWrite =>
      obtain ⟨session, present, live⟩ := linked.live admits
      simp only [Transport.move]
      rw [onSession_of_some present]
      exact ⟨script, conversation.quiet (.inl rfl)
        (SessionIo.wantWrite_calls ⟨session, t.ng⟩) rfl rfl
        fun early => absurd early (not_early (.inl admits))⟩
  | send =>
      obtain ⟨calls, submitted, reads⟩ := send_quiet platform linked admits
      exact ⟨script, conversation.quiet (.inl (send_frame platform t).1) calls submitted
        reads fun early => absurd early (not_early admits)⟩
  | receive now => exact conversation.receive linked admits now
  | terminate => exact conversation.terminate linked admits
  | close =>
      exact ⟨script, conversation.quiet (.inr (.inr rfl)) rfl rfl
        (TlsIo.close_noBytes _).reads fun _ => rfl⟩
  | failCall message call =>
      exact ⟨script, conversation.quiet (.inl rfl) rfl rfl rfl fun _ => rfl⟩
  | release => exact ⟨script, conversation.quiet (.inl rfl) rfl rfl rfl fun _ => rfl⟩

theorem Reachable.conversation (reachable : Reachable platform config tls ng t) :
    t.Linked ∧ ∃ script, t.Conversation config tls ng script := by
  refine Runs.Reach.invariant
    (fun t => t.Linked ∧ ∃ script, t.Conversation config tls ng script) ?_ ?_ reachable
  · intro t fresh
    refine ⟨fresh.linked, {}, ?_, ?_, by simp, fun _ => ⟨rfl, fresh.ng⟩, ?_, ?_, ?_⟩
    · rw [fresh.ng]
      exact (List.append_nil _).symm
    · exact ⟨List.nil_prefix, nofun, List.nil_prefix, by simp⟩
    · intro serving
      rcases fresh.phase with phase | phase <;> cases phase.symm.trans serving
    · exact ⟨[], List.nil_sublist _, rfl⟩
    · exact ⟨[], by rw [fresh.tls]; rfl, rfl⟩
  · rintro t action ⟨linked, script, conversation⟩ admits
    exact ⟨linked.step admits, conversation.step linked admits⟩

/-! ## The bytes written -/

/-- What `SSL_write` accepted and what is still in the output buffer are the bytes
that nghttp2 has produced. -/
structure Written (sends : List MemSend) (t : Transport) : Prop where
  before : t.phase = .unused ∨ t.phase = .connecting →
    t.tls.sent = [] ∧ t.ng.memSends = sends
  exact : ∀ session, t.h2 = some session →
    OutputRun.Exact sends ⟨⟨session, t.ng⟩, t.tls.sent⟩
  produced : ∃ used, sends = used ++ t.ng.memSends ∧
    t.tls.sent <+: used.flatMap MemSend.bytes

variable {sends : List MemSend}

/-- While there is a session the first two are enough. -/
theorem Written.of_session {session : Http2Session Nat} (present : t.h2 = some session)
    (used : ¬ (t.phase = .unused ∨ t.phase = .connecting))
    (exact : OutputRun.Exact sends ⟨⟨session, t.ng⟩, t.tls.sent⟩) : t.Written sends := by
  refine ⟨fun early => absurd early used, ?_, ?_⟩
  · intro session' present'
    cases present.symm.trans present'
    exact exact
  · obtain ⟨used, split, bytes⟩ := exact.produced
    exact ⟨used, split, bytes ▸ List.prefix_append _ _⟩

theorem Written.quiet (written : t.Written sends)
    (phase : t'.phase = .unused ∨ t'.phase = .connecting →
      t.phase = .unused ∨ t.phase = .connecting)
    (h2 : t'.h2 = t.h2) (sameNg : t'.ng = t.ng) (sent : t'.tls.sent = t.tls.sent) :
    t'.Written sends := by
  refine ⟨?_, ?_, ?_⟩
  · rw [sent, sameNg]
    exact fun early => written.before (phase early)
  · rw [h2, sent, sameNg]
    exact written.exact
  · rw [sent, sameNg]
    exact written.produced

theorem Written.onSession (written : t.Written sends) (serving : t.phase = .serving)
    {operation : SessionIo Nat → SessionIo Nat}
    (same : ∀ io, SessionIo.SameBuffer io (operation io)) :
    (t.onSession operation).Written sends := by
  unfold Transport.onSession
  split
  · exact written
  · rename_i session present
    have exact : OutputRun.Exact sends ⟨operation ⟨session, t.ng⟩, t.tls.sent⟩ :=
      (written.exact session present).same (same _) rfl
    exact .of_session rfl (not_early (.inl serving)) exact

theorem Written.sameBuffer (written : t.Written sends)
    (here : t.phase = .serving ∨ t.phase = .parting) {session : Http2Session Nat}
    (present : t.h2 = some session) {io : SessionIo Nat}
    (same : SessionIo.SameBuffer ⟨session, t.ng⟩ io) (phase : t'.phase = t.phase)
    (present' : t'.h2 = some io.session) (sameNg : t'.ng = io.env)
    (sent : t'.tls.sent = t.tls.sent) : t'.Written sends := by
  have exact : OutputRun.Exact sends ⟨io, t.tls.sent⟩ :=
    (written.exact session present).same same rfl
  refine .of_session present' ?_ ?_
  · rw [phase]
    exact not_early here
  · rw [sameNg, sent]
    exact exact

theorem Written.submit (written : t.Written sends) (serving : t.phase = .serving)
    (pc : PendingCall) : (t.submit platform config pc).Written sends := by
  cases present : t.h2 with
  | none =>
      have same : t.submit platform config pc = t := by simp only [Transport.submit, present]
      rw [same]
      exact written
  | some session =>
      have same : SessionIo.SameBuffer ⟨session, t.ng⟩
          (World.submitRequest platform config pc ⟨session, t.ng⟩).2 :=
        SessionIo.submitUnaryRequest_sameBuffer ..
      by_cases refused : (World.submitRequest platform config pc ⟨session, t.ng⟩).1 < 0
      · rw [submit_refused present refused]
        exact written.sameBuffer (.inl serving) present same rfl rfl rfl rfl
      · rw [submit_accepted present refused]
        exact written.sameBuffer (.inl serving) present same rfl rfl rfl rfl

theorem Written.receive (written : t.Written sends) (serving : t.phase = .serving)
    (now : Int) : (t.receive platform now).Written sends := by
  cases present : t.h2 with
  | none =>
      simp only [Transport.receive, Transport.feed, present, ite_self]
      exact written.quiet id present.symm rfl (TlsIo.read_sent ..)
  | some session =>
      rcases receive_cases platform now present with ⟨_, fed⟩ | ⟨_, nothing⟩
      · rw [fed]
        exact written.sameBuffer (.inl serving) present
          (SessionIo.receiveBytes_sameBuffer ..) rfl rfl rfl (TlsIo.read_sent ..)
      · rw [nothing]
        exact written.quiet id rfl rfl (TlsIo.read_sent ..)

theorem Written.send (written : t.Written sends) (clean : ∀ send ∈ sends, send.Clean)
    (here : t.phase = .serving ∨ t.phase = .parting) :
    (t.send platform).Written sends := by
  have used := not_early here
  cases present : t.h2 with
  | none =>
      have same : t.send platform = t := by simp only [Transport.send, present]
      rw [same]
      exact written
  | some session =>
      have exact := written.exact session present
      have pending : OutputRun.Exact sends
          ⟨(SessionIo.pendingOutput platform ⟨session, t.ng⟩).2.2, t.tls.sent⟩ :=
        exact.pending clean
      rcases send_cases platform present with
        nothing | ⟨data, offered, ⟨failed, blocked⟩ | accepted⟩
      · rw [nothing]
        exact .of_session rfl used pending
      · rw [blocked]
        refine .of_session rfl used ?_
        simp only
        rw [(TlsIo.write_sent platform data ⟨t.sock, t.tls⟩).2 failed]
        exact pending
      · -- What the write takes are the first bytes of the buffer.
        have onOffer : (SessionIo.pendingOutput platform
            ⟨session, t.ng⟩).2.2.session.unsent = data := (exact.offers clean offered).unsent
        have consumed : OutputRun.Exact sends
            (OutputRun.step platform ⟨_, t.tls.sent⟩ (.consumeOutput
              (TlsIo.write platform data ⟨t.sock, t.tls⟩).1.2)) := pending.consume _
        rw [OutputRun.step, onOffer] at consumed
        rw [accepted]
        refine .of_session rfl used ?_
        simp only
        rw [(TlsIo.write_sent platform data ⟨t.sock, t.tls⟩).1]
        exact consumed

theorem Written.step (written : t.Written sends) (clean : ∀ send ∈ sends, send.Clean)
    {action : Transport.Move} (admits : t.Admits action) :
    (t.move platform config action).Written sends := by
  cases action with
  | startConnect =>
      exact written.quiet (fun _ => .inl admits) rfl rfl (TlsIo.startConnect_noBytes ..).sent
  | continueConnect =>
      exact written.quiet id rfl rfl (TlsIo.continueConnect_noBytes ..).sent
  | openSession now =>
      obtain ⟨nothing, all⟩ := written.before (.inr admits.1)
      have exact := @OutputRun.exact_new Nat platform config.options.http2
        { onGoaway := true } now t.ng
      rw [all] at exact
      refine .of_session rfl ?_ (by simp only [Transport.move, nothing]; exact exact)
      simp only [Transport.move]
      split_ifs <;> simp
  | submit pc => exact written.submit admits.1 pc
  | checkKeepalive now =>
      exact written.onSession admits fun io =>
        io.checkKeepalive_sameBuffer platform now
  | wantWrite =>
      exact written.onSession admits fun io => io.wantWrite_sameBuffer
  | send => exact written.send clean admits
  | receive now => exact written.receive admits now
  | terminate =>
      have kept := written.onSession admits fun io => io.terminate_sameBuffer
      refine ⟨?_, kept.exact, kept.produced⟩
      rintro (impossible | impossible) <;> cases impossible
  | close =>
      have sent : (t.move platform config .close).tls.sent = t.tls.sent :=
        (TlsIo.close_noBytes _).sent
      refine ⟨?_, ?_, sent ▸ written.produced⟩
      · rintro (impossible | impossible) <;> cases impossible
      · intro session impossible
        cases impossible
  | failCall message call => exact written.quiet id rfl rfl rfl
  | release => exact written.quiet id rfl rfl rfl

theorem Reachable.written (reachable : Reachable platform config tls ng t)
    (quiet : tls.calls = []) (clean : ∀ send ∈ ng.memSends, send.Clean) :
    t.Written ng.memSends := by
  refine Runs.Reach.invariant (Written ng.memSends) ?_
    (fun _ _ holds => holds.step clean) reachable
  intro t fresh
  have nothing : t.tls.sent = [] := by
    rw [fresh.tls, TlsEnv.sent, quiet]
    rfl
  refine ⟨fun _ => ⟨nothing, congrArg NgEnv.memSends fresh.ng⟩, ?_, ?_⟩
  · intro session present
    rw [fresh.h2] at present
    cases present
  · exact ⟨[], congrArg NgEnv.memSends fresh.ng.symm, nothing ▸ List.prefix_rfl⟩

end Transport

namespace Transport.Script

variable {options : Http2SessionOptions} {script : Script}

/-- Only the traffic carries what `select` looks for. -/
theorem Proper.filterMap_calls (proper : script.Proper options) {Item : Type}
    {select : NgCall → Option Item} (opening : options.opening.filterMap select = [])
    (farewell : select .terminateSession = none) :
    script.calls.filterMap select = script.traffic.filterMap select := by
  have first : script.opening.filterMap select = [] := by
    have isPrefix := proper.opening.filterMap select
    rw [opening] at isPrefix
    exact List.prefix_nil.mp isPrefix
  have last : script.farewell.filterMap select = [] := by
    have isPrefix := proper.farewell.filterMap select
    rw [List.filterMap_cons_none farewell] at isPrefix
    exact List.prefix_nil.mp isPrefix
  rw [calls, List.filterMap_append, List.filterMap_append, first, last, List.append_nil,
    List.nil_append]

end Transport.Script

/-! ## Every run of a channel -/

namespace World

variable {platform : Platform} {config : ChannelConfig} {w : World}
  {events : List ChannelEvent}

/-! ### A sample run -/

/-- The sample surroundings with some traffic: nghttp2 has three bytes to send, of
which the first write takes two, and the peer sends two bytes. -/
def sampleTraffic : World :=
  { sampleStart with
    tls := { sampleStart.tls with reads := [.ok [7, 8]], writes := [.ok 2] }
    ng := { sampleStart.ng with memSends := [{ chunk := .ok [1, 2, 3] }] } }

def sampleEvents : List ChannelEvent :=
  [.newCall { call := 0 }, .ready POLLOUT, .ready POLLIN]

def sampleServed : World :=
  sampleEvents.foldl (World.step silentPlatform sampleConfig) sampleTraffic

theorem sampleTraffic_fresh : sampleTraffic.Fresh sampleConfig :=
  sampleStart_fresh sampleConfig rfl _ rfl _

theorem sampleEvents_admitted : Runs.Admitted (World.step silentPlatform sampleConfig)
    Admits sampleTraffic sampleEvents :=
  ⟨List.not_mem_nil, trivial, trivial, trivial⟩

/-! ### The results -/

theorem Fresh.reachable_transport (fresh : w.Fresh config)
    (admitted : Runs.Admitted (World.step platform config) Admits w events) :
    let w' := events.foldl (World.step platform config) w
    ∃ record,
      Transport.Reachable platform config w.tls w.ng
        (w'.transport w'.state.phase record) ∧
      record.submitted <+: ChannelEvent.allPosts events ∧
      (¬ (w'.state = .failed ∨ w'.state = .shutdown) →
        record.submitted ++ w'.pendingCalls = ChannelEvent.allPosts events) := by
  obtain ⟨record, reached, posted⟩ := (fresh.tracked_run admitted).2.1.transport
  exact ⟨record, reached.1, posted⟩

/-- After any callbacks the socket, the session and the calls are what some sequence of
moves makes of them, in the order that a transport allows and in the phase that the
channel's state stands for; and each further callback is a sequence of moves from
there.  The calls submitted on the way are the first of the posted calls, in their
order; until the channel fails or is shut down they are all but those that are
queued. -/
theorem callbacks_are_transport_moves (fresh : w.Fresh config)
    (admitted : Runs.Admitted (World.step platform config) Admits w events) :
    let w' := events.foldl (World.step platform config) w
    ∃ record,
      Transport.Reachable platform config w.tls w.ng
        (w'.transport w'.state.phase record) ∧
      record.submitted <+: ChannelEvent.allPosts events ∧
      (¬ (w'.state = .failed ∨ w'.state = .shutdown) →
        record.submitted ++ w'.pendingCalls = ChannelEvent.allPosts events) ∧
      ∀ event, w'.Admits event →
        let next := w'.step platform config event
        ∃ record',
          Runs.Reach (Transport.move platform config) Transport.Admits
            (· = w'.transport w'.state.phase record)
            (next.transport next.state.phase record') ∧
          record'.submitted <+: ChannelEvent.allPosts events ++ event.posts ∧
          (¬ (next.state = .failed ∨ next.state = .shutdown) →
            record'.submitted ++ next.pendingCalls =
              ChannelEvent.allPosts events ++ event.posts) := by
  intro w'
  obtain ⟨between, tracked, handled⟩ := fresh.tracked_run admitted
  obtain ⟨record, reached, some, all, fromHere⟩ := tracked.fromHere
  refine ⟨record, reached.1, some, all, fun event admits => ?_⟩
  obtain ⟨record', moves, posted⟩ :=
    (fromHere.step between (fun _ member => handled ▸ member) admits).transport
  exact ⟨record', moves.1, posted⟩

/-- A served channel is shut down. -/
theorem sampleServed_moves :
    sampleServed.state = .ready ∧
      (sampleServed.step silentPlatform sampleConfig .shutdown).state = .shutdown ∧
      ∃ record record',
        Transport.Reachable silentPlatform sampleConfig sampleTraffic.tls sampleTraffic.ng
          (sampleServed.transport .serving record) ∧
        record.submitted = [{ call := 0 }] ∧
        Runs.Reach (Transport.move silentPlatform sampleConfig) Transport.Admits
          (· = sampleServed.transport .serving record)
          ((sampleServed.step silentPlatform sampleConfig .shutdown).transport .finished
            record') := by
  obtain ⟨record, reached, -, all, callback⟩ :=
    callbacks_are_transport_moves sampleTraffic_fresh sampleEvents_admitted
  obtain ⟨record', moves, -⟩ := callback .shutdown trivial
  have submitted : record.submitted ++ [] = [{ call := 0 }] := all (by decide)
  rw [List.append_nil] at submitted
  exact ⟨by decide, by decide, record, record', reached, submitted, moves⟩

/-- Whatever happens to a channel, its calls of nghttp2 set up at most one session,
then hand it only requests, pings and received bytes, and end with at most one
request for a GOAWAY.  Nothing is said before the connection is up, and a ready
channel has not said goodbye.  Whoever hears more than the set-up, or is ready, has
heard all of it and answered each of its calls with success. -/
theorem nghttp2_calls_follow_script (fresh : w.Fresh config) (silent : w.ng.calls = [])
    (admitted : Runs.Admitted (World.step platform config) Admits w events) :
    let w' := events.foldl (World.step platform config) w
    ∃ script : Transport.Script, w'.ng.calls = script.calls ∧
      script.Proper config.options.http2 ∧
      (w'.state = .idle ∨ w'.state = .connecting → script.calls = []) ∧
      (w'.state = .ready → script.opening = config.options.http2.opening ∧
        w.ng.SetsUp ∧ script.farewell = []) ∧
      (script.traffic ≠ [] ∨ script.farewell ≠ [] → w.ng.SetsUp) := by
  intro w'
  obtain ⟨record, reached, _⟩ := fresh.reachable_transport admitted
  obtain ⟨_, script, conversation⟩ := reached.conversation
  have calls : w'.ng.calls = w.ng.calls ++ script.calls := conversation.calls
  rw [silent, List.nil_append] at calls
  refine ⟨script, calls, conversation.proper, ?_, ?_, conversation.setUp⟩
  · intro early
    have nothing : script = {} := by
      refine (conversation.before ?_).1
      rcases early with state | state
      · exact .inl (congrArg ChannelImpl.State.phase state)
      · exact .inr (congrArg ChannelImpl.State.phase state)
    rw [nothing]
    rfl
  · intro ready
    exact conversation.serving (congrArg ChannelImpl.State.phase ready)

theorem sampleServed_script :
    sampleServed.ng.calls.length = 4 ∧
      ∃ script : Transport.Script, sampleServed.ng.calls = script.calls ∧
        script.Proper sampleConfig.options.http2 ∧
        (sampleServed.state = .idle ∨ sampleServed.state = .connecting →
          script.calls = []) ∧
        (sampleServed.state = .ready → script.opening = sampleConfig.options.http2.opening ∧
          sampleTraffic.ng.SetsUp ∧ script.farewell = []) ∧
        (script.traffic ≠ [] ∨ script.farewell ≠ [] → sampleTraffic.ng.SetsUp) :=
  ⟨by decide, nghttp2_calls_follow_script sampleTraffic_fresh rfl sampleEvents_admitted⟩

/-- Each call is requested at most once, in the order of the posts: the header
blocks and bodies handed to `nghttp2_submit_request` over a whole run are those of
some of the posted calls, in the order in which they were posted; calls that are
still queued are not among them. -/
theorem requests_follow_posts (fresh : w.Fresh config) (silent : w.ng.calls = [])
    (admitted : Runs.Admitted (World.step platform config) Admits w events) :
    let w' := events.foldl (World.step platform config) w
    ∃ submitted requested : List PendingCall,
      w'.ng.calls.filterMap NgCall.request? =
        requested.map (fun pc => (pc.requestHeaders config, pc.framedBody)) ∧
      requested.Sublist submitted ∧
      submitted <+: ChannelEvent.allPosts events ∧
      (¬ (w'.state = .failed ∨ w'.state = .shutdown) →
        submitted ++ w'.pendingCalls = ChannelEvent.allPosts events) := by
  intro w'
  obtain ⟨record, reached, first, all⟩ := fresh.reachable_transport admitted
  obtain ⟨_, script, conversation⟩ := reached.conversation
  obtain ⟨requested, sublist, requests⟩ := conversation.requests
  have calls : w'.ng.calls = w.ng.calls ++ script.calls := conversation.calls
  refine ⟨record.submitted, requested, ?_, sublist, first, all⟩
  rw [calls, silent, List.nil_append, conversation.proper.filterMap_calls rfl rfl]
  exact requests

theorem sampleServed_requests :
    (sampleServed.ng.calls.filterMap NgCall.request?).length = 1 ∧
      ∃ submitted requested : List PendingCall,
        sampleServed.ng.calls.filterMap NgCall.request? =
          requested.map (fun pc => (pc.requestHeaders sampleConfig, pc.framedBody)) ∧
        requested.Sublist submitted ∧
        submitted <+: ChannelEvent.allPosts sampleEvents ∧
        (¬ (sampleServed.state = .failed ∨ sampleServed.state = .shutdown) →
          submitted ++ sampleServed.pendingCalls = ChannelEvent.allPosts sampleEvents) :=
  ⟨by decide, requests_follow_posts sampleTraffic_fresh rfl sampleEvents_admitted⟩

/-- The chunks handed to `nghttp2_session_mem_recv` over a whole run are the chunks that
`SSL_read` returned, each once, in order and unchanged. -/
theorem nghttp2_receives_the_bytes_read (fresh : w.Fresh config)
    (silent : w.ng.calls = [])
    (admitted : Runs.Admitted (World.step platform config) Admits w events) :
    let w' := events.foldl (World.step platform config) w
    ∃ used, w.tls.reads = used ++ w'.tls.reads ∧
      w'.ng.calls.filterMap NgCall.received? =
        used.filterMap (TlsIo.delivered 16384) := by
  intro w'
  obtain ⟨record, reached, _⟩ := fresh.reachable_transport admitted
  obtain ⟨_, script, conversation⟩ := reached.conversation
  obtain ⟨used, split, received⟩ := conversation.reads
  have calls : w'.ng.calls = w.ng.calls ++ script.calls := conversation.calls
  refine ⟨used, split, ?_⟩
  rw [calls, silent, List.nil_append, conversation.proper.filterMap_calls rfl rfl]
  exact received

theorem sampleServed_receives :
    sampleServed.ng.calls.filterMap NgCall.received? = [[7, 8]] ∧
      ∃ used, sampleTraffic.tls.reads = used ++ sampleServed.tls.reads ∧
        sampleServed.ng.calls.filterMap NgCall.received? =
          used.filterMap (TlsIo.delivered 16384) :=
  ⟨by decide, nghttp2_receives_the_bytes_read sampleTraffic_fresh rfl sampleEvents_admitted⟩

/-- If nghttp2 reports no send error, the bytes that the peer was sent over a whole
run, those that `SSL_write` was handed and took, are a prefix of the bytes that
nghttp2 produced; and with those in the output buffer they are all of them. -/
theorem peer_is_sent_the_bytes_produced (fresh : w.Fresh config)
    (quiet : w.tls.calls = []) (clean : ∀ send ∈ w.ng.memSends, send.Clean)
    (admitted : Runs.Admitted (World.step platform config) Admits w events) :
    let w' := events.foldl (World.step platform config) w
    ∃ used, w.ng.memSends = used ++ w'.ng.memSends ∧
      w'.tls.sent <+: used.flatMap MemSend.bytes ∧
      (∀ session, w'.h2 = some session →
        w'.tls.sent ++ session.unsent = used.flatMap MemSend.bytes) := by
  intro w'
  obtain ⟨record, reached, _⟩ := fresh.reachable_transport admitted
  have written := reached.written quiet clean
  rcases Option.eq_none_or_eq_some w'.h2 with none | ⟨session, present⟩
  · obtain ⟨used, split, bytes⟩ := written.produced
    refine ⟨used, split, bytes, ?_⟩
    intro session present
    cases none.symm.trans present
  · obtain ⟨used, split, bytes⟩ := (written.exact session present).produced
    refine ⟨used, split, ⟨_, bytes⟩, ?_⟩
    intro session' present'
    cases present.symm.trans present'
    exact bytes

/-- Two of the three bytes were taken. -/
theorem sampleServed_sends :
    sampleServed.tls.sent = [1, 2] ∧ sampleServed.h2.map Http2Session.unsent = some [3] ∧
      ∃ used, sampleTraffic.ng.memSends = used ++ sampleServed.ng.memSends ∧
        sampleServed.tls.sent <+: used.flatMap MemSend.bytes ∧
        (∀ session, sampleServed.h2 = some session →
          sampleServed.tls.sent ++ session.unsent = used.flatMap MemSend.bytes) :=
  ⟨by decide, by decide, peer_is_sent_the_bytes_produced sampleTraffic_fresh rfl (by decide)
    sampleEvents_admitted⟩

end World

end Egrpc
